import HttpCheck.Http.Token
import HttpCheck.Text.Blank
/-!
# Media types

A media type is `type/subtype` followed by parameters `; name=value`. Both the type and
the subtype are tokens; the type is not empty, and the subtype is not empty when
parameters follow. A parameter may be preceded by single spaces; its name is a
non-empty token followed by `=`; its value is a token (possibly empty) or a quoted
string of visible characters followed only by spaces before the next `;`. A trailing
`;` with nothing after it is allowed.

The *essence* of a media type is its `type/subtype` in lowercase. A text that is not a
media type has as essence the whole text, trimmed of blanks and lowered in ASCII.
-/
namespace HttpCheck.Http.Mime

/-- Whether a byte may stand in a quoted parameter value. -/
def isQuotedByte (b : UInt8) : Bool := b > 31 && b != 127

/-- After a quoted value: spaces, then `;` starts the next parameter or the text ends. -/
def afterQuoted : Bytes → Option Bytes
  | [] => some []
  | b :: rest =>
    if b == 59 then some rest
    else if b == 32 then afterQuoted rest
    else none

/-- Inside a quoted value, from its `start`-th byte on; `i` counts bytes read. -/
def quotedValue (start i : Nat) : Bytes → Option Bytes
  | [] => none
  | b :: rest =>
    if b == 34 && i > start then afterQuoted rest
    else if isQuotedByte b then quotedValue start (i + 1) rest
    else none

/-- An unquoted value, from its `start`-th byte on; `i` counts bytes read. A quote as
its first byte opens a quoted value. -/
def tokenValue (start i : Nat) : Bytes → Option Bytes
  | [] => some []
  | b :: rest =>
    if b == 34 && i == start then quotedValue (i + 1) (i + 1) rest
    else if isTokenByte b then tokenValue start (i + 1) rest
    else if b == 59 && i > start then some rest
    else none

/-- A parameter name, from its `start`-th byte on; `i` counts bytes read. A space as
its first byte is skipped; `none` when the parameter is malformed, or else the bytes
after it and whether a name was read. -/
def paramName (start i : Nat) : Bytes → Option (Bytes × Bool)
  | [] => none
  | b :: rest =>
    if b == 32 && i == start then some (rest, false)
    else if isTokenByte b then paramName start (i + 1) rest
    else if b == 61 && i > start then
      (tokenValue (i + 1) (i + 1) rest).map fun r => (r, true)
    else none

/-- Whether the parameters in some bytes are well formed. -/
def paramsValid (bs : Bytes) : Bool :=
  if bs.isEmpty then true
  else
    match paramName 0 0 bs with
    | none => false
    | some (rest, _) =>
      if rest.length < bs.length then paramsValid rest else false
termination_by bs.length

/-- The subtype and what follows, from its `start`-th byte on. -/
def subtypeValid (start i : Nat) : Bytes → Bool
  | [] => true
  | b :: rest =>
    if b == 59 && i > start then paramsValid rest
    else if isTokenByte b then subtypeValid start (i + 1) rest
    else false

/-- The type, its slash, and what follows. -/
def typeValid (i : Nat) : Bytes → Bool
  | [] => false
  | b :: rest =>
    if isTokenByte b then typeValid (i + 1) rest
    else if b == 47 && i > 0 then subtypeValid 0 0 rest
    else false

/-- Whether a text is a media type. -/
def isValid (s : String) : Bool := typeValid 0 (Utf8.encode s)

/-- The ASCII lowercase of a text. -/
def lowerAscii (s : String) : String :=
  String.ofList (s.toList.map fun c => if 'A' ≤ c ∧ c ≤ 'Z' then Char.ofNat (c.toNat + 32) else c)

/-- The essence of a text: the lowered `type/subtype` of a media type, otherwise the
trimmed and lowered text. -/
def essence (s : String) : String :=
  if isValid s then lowerAscii (String.ofList (s.toList.takeWhile (· != ';')))
  else lowerAscii (Blank.trim s)

end HttpCheck.Http.Mime
