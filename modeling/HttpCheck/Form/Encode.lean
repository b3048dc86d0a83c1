import HttpCheck.Json.Print
/-!
# Form encoding

Writes name-value pairs as `application/x-www-form-urlencoded` text: each name and value
with ASCII letters, digits and `*`, `-`, `.`, `_` kept, the space written `+`, and every
other byte of its UTF-8 encoding written `%XX` in uppercase; `name=value` pairs joined
by `&`.

The pairs come from a JSON value: an object gives its members in key order, `null`
gives none, and an array must hold pairs. Names and values must be scalars: a string as
itself, a boolean as `true` or `false`, an integer in decimal, a double in its short
form (`0.1`, `1e21`, `1.0`). Anything else is refused, names before values.
-/
namespace HttpCheck.Form

/-- Why a value cannot be written as a form. -/
inductive EncodeError where
  /-- The value is a scalar, not a collection of pairs. -/
  | topLevel
  /-- An item of an array is not a pair. -/
  | unsupportedPair
  /-- A name is not a scalar. -/
  | unsupportedKey
  /-- A value is not a scalar. -/
  | unsupportedValue
  deriving DecidableEq, Repr, Inhabited

/-- The words for an encoding error. -/
def EncodeError.message : EncodeError → String
  | .topLevel => "top-level serializer supports only maps and structs"
  | .unsupportedPair => "unsupported pair"
  | .unsupportedKey => "unsupported key"
  | .unsupportedValue => "unsupported value"

/-- Whether a byte is written as itself. -/
def isKept (b : UInt8) : Bool :=
  (48 ≤ b && b ≤ 57) || (65 ≤ b && b ≤ 90) || (97 ≤ b && b ≤ 122) ||
    b == 42 || b == 45 || b == 46 || b == 95

/-- The uppercase hexadecimal digit of a value below sixteen. -/
def upperDigit (n : Nat) : Char :=
  if n < 10 then Char.ofNat ('0'.toNat + n) else Char.ofNat ('A'.toNat + n - 10)

/-- How one byte is written. -/
def encodeByte (b : UInt8) : List Char :=
  if isKept b then [Char.ofNat b.toNat]
  else if b == 32 then ['+']
  else ['%', upperDigit (b.toNat / 16), upperDigit (b.toNat % 16)]

/-- A name or value, encoded. -/
def encodeText (s : String) : String := String.ofList ((Utf8.encode s).flatMap encodeByte)

/-- The text of a scalar, or `none` for `null`, arrays and objects. -/
def scalarText : Json → Option String
  | .string s => some s
  | .bool true => some "true"
  | .bool false => some "false"
  | .number (.natural n) => some (natText n)
  | .number (.negative n) => some (intText n)
  | .number (.float x) => some (Binary64.render Binary64.compactLayout x)
  | _ => none

/-- One encoded pair, checking the name before the value. -/
def encodePair (name value : Json) : Except EncodeError String :=
  match scalarText name with
  | none => .error .unsupportedKey
  | some n =>
    match scalarText value with
    | none => .error .unsupportedValue
    | some v => .ok (encodeText n ++ "=" ++ encodeText v)

/-- Encoded pairs joined by `&`; the first refused pair decides the error. -/
def joinPairs (ps : List (Json × Json)) : Except EncodeError String := do
  let parts ← ps.mapM fun (n, v) => encodePair n v
  .ok ("&".intercalate parts)

/-- The form of a JSON value. Items of an array are JSON values too, and a JSON array
is never a pair, so an array encodes only when it is empty. -/
def encodeJson : Json → Except EncodeError String
  | .null => .ok ""
  | .object ms => joinPairs (ms.map fun (k, v) => (Json.string k, v))
  | .array [] => .ok ""
  | .array _ => .error .unsupportedPair
  | _ => .error .topLevel

/-- The form of a list of name-value pairs, in order and with repeats. -/
def encodePairs (ps : List (Json × Json)) : Except EncodeError String := joinPairs ps

end HttpCheck.Form
