import HttpCheck.Json.Value
import HttpCheck.Text.Utf8
/-!
# Reading JSON

A reader for JSON text with exact errors. Blanks are space, tab, line feed and carriage
return. Nesting deeper than 127 arrays or objects is refused. An integer is a natural
while it fits below `2 ^ 64`, negative while it fits at `-2 ^ 63` or above, and a double
otherwise; `-0` is the double `-0.0`. A number with a fraction or an exponent is a
double computed from its first nineteen or twenty significant digits and its decimal
exponent by one multiplication or division by a power of ten, each step rounded;
a finite number too large for a double is refused. Strings take the escapes `\"`, `\\`,
`\/`, `\b`, `\f`, `\n`, `\r`, `\t` and `\uXXXX`, with surrogates in pairs, and no raw
control characters.

An error names what was wrong and where: the line (from one) and the column (bytes
since the last line feed) of the byte the reader was at, or of the byte after it when
the fault was seen by looking ahead.
-/
namespace HttpCheck.Json

/-- What a reader can find wrong. -/
inductive Fault where
  | eofWhileParsingList
  | eofWhileParsingObject
  | eofWhileParsingString
  | eofWhileParsingValue
  | expectedColon
  | expectedListCommaOrEnd
  | expectedObjectCommaOrEnd
  | expectedSomeIdent
  | expectedSomeValue
  | invalidEscape
  | invalidNumber
  | numberOutOfRange
  | controlCharacterWhileParsingString
  | keyMustBeAString
  | loneLeadingSurrogateInHexEscape
  | trailingComma
  | trailingCharacters
  | unexpectedEndOfHexEscape
  | recursionLimitExceeded
  deriving DecidableEq, Repr, Inhabited

/-- The words for a fault. -/
def Fault.message : Fault → String
  | .eofWhileParsingList => "EOF while parsing a list"
  | .eofWhileParsingObject => "EOF while parsing an object"
  | .eofWhileParsingString => "EOF while parsing a string"
  | .eofWhileParsingValue => "EOF while parsing a value"
  | .expectedColon => "expected `:`"
  | .expectedListCommaOrEnd => "expected `,` or `]`"
  | .expectedObjectCommaOrEnd => "expected `,` or `\x7d`"
  | .expectedSomeIdent => "expected ident"
  | .expectedSomeValue => "expected value"
  | .invalidEscape => "invalid escape"
  | .invalidNumber => "invalid number"
  | .numberOutOfRange => "number out of range"
  | .controlCharacterWhileParsingString =>
    "control character (\\u0000-\\u001F) found while parsing a string"
  | .keyMustBeAString => "key must be a string"
  | .loneLeadingSurrogateInHexEscape => "lone leading surrogate in hex escape"
  | .trailingComma => "trailing comma"
  | .trailingCharacters => "trailing characters"
  | .unexpectedEndOfHexEscape => "unexpected end of hex escape"
  | .recursionLimitExceeded => "recursion limit exceeded"

/-- A fault and where it was found. -/
structure SyntaxError where
  fault : Fault
  line : Nat
  column : Nat
  deriving DecidableEq, Repr, Inhabited

/-- `fault at line l column c`. -/
def SyntaxError.message (e : SyntaxError) : String :=
  if e.line = 0 then e.fault.message
  else e.fault.message ++ " at line " ++ toString e.line ++ " column " ++ toString e.column

/-- The powers of ten that are read exactly into a double's neighbourhood: `10 ^ i`
rounded, for `i ≤ 308`. -/
def powerOfTen (i : Nat) : Binary64 := Binary64.ofNat (Nat.pow 10 i)

/-- The double `significand · 10 ^ exponent` as the reader computes it: the significand
rounded to a double, then one multiplication or division by a rounded power of ten;
exponents below `-308` first divide by `1e308` as often as needed (stopping early at
zero). `none` when the product is too large. -/
def scaleByTen (x : Binary64) (exponent : Int) : Nat → Option Binary64
  | 0 => some x
  | fuel + 1 =>
    if exponent.natAbs ≤ 308 then
      if exponent ≥ 0 then
        let y := x.mul (powerOfTen exponent.toNat)
        if y.isInfinite then none else some y
      else some (x.div (powerOfTen exponent.natAbs))
    else if x.isZero then some x
    else if exponent ≥ 0 then none
    else scaleByTen (x.div (powerOfTen 308)) (exponent + 308) fuel

/-- Clamps to the range of a 32-bit signed integer. -/
def saturate32 (i : Int) : Int := max (-2147483648) (min 2147483647 i)

section Reader

variable (src : Array UInt8)

/-- The line and column of a byte index. -/
def positionOf (i : Nat) : Nat × Nat :=
  let pre := src.toList.take i
  let lineStart := (pre.foldl (fun (acc : Nat × Nat) b =>
    (acc.1 + 1, if b == 10 then acc.1 + 1 else acc.2)) (0, 0)).2
  (1 + pre.count 10, i - lineStart)

/-- A fault found at byte index `i`. -/
def faultAt (f : Fault) (i : Nat) : SyntaxError :=
  let (l, c) := positionOf src i
  ⟨f, l, c⟩

/-- A fault found by looking at byte index `i` (reported at the byte after it). -/
def faultAhead (f : Fault) (i : Nat) : SyntaxError :=
  faultAt src f (min src.size (i + 1))

/-- The byte at an index, if any. -/
def byteAt (i : Nat) : Option UInt8 := src[i]?

/-- Whether a byte is a blank. -/
def isBlank (b : UInt8) : Bool := b == 32 || b == 10 || b == 9 || b == 13

/-- Whether a byte is a decimal digit. -/
def isDigit (b : UInt8) : Bool := 48 ≤ b && b ≤ 57

/-- The index of the first non-blank byte at or after `i`. -/
def skipBlanks (i : Nat) : Nat :=
  if h : i < src.size then
    if isBlank src[i] then skipBlanks (i + 1) else i
  else i
termination_by src.size - i

/-- The index of the first non-digit byte at or after `i`. -/
def skipDigits (i : Nat) : Nat :=
  if h : i < src.size then
    if isDigit src[i] then skipDigits (i + 1) else i
  else i
termination_by src.size - i

/-- The value of a hexadecimal digit byte. -/
def hexValue (b : UInt8) : Option Nat :=
  if 48 ≤ b && b ≤ 57 then some (b.toNat - 48)
  else if 97 ≤ b && b ≤ 102 then some (b.toNat - 87)
  else if 65 ≤ b && b ≤ 70 then some (b.toNat - 55)
  else none

/-- Four hexadecimal digits from `i`; the index after them. -/
def hexEscape (i : Nat) : Except SyntaxError (Nat × Nat) :=
  match byteAt src i, byteAt src (i + 1), byteAt src (i + 2), byteAt src (i + 3) with
  | some a, some b, some c, some d =>
    match hexValue a, hexValue b, hexValue c, hexValue d with
    | some a, some b, some c, some d => .ok (((a * 16 + b) * 16 + c) * 16 + d, i + 4)
    | _, _, _, _ => .error (faultAt src .invalidEscape (i + 4))
  | _, _, _, _ => .error (faultAt src .eofWhileParsingString src.size)

/-- The rest of a `\u` escape from `i`, after the `\u`: a scalar value or a surrogate pair;
the index after it. -/
def unicodeEscape (i : Nat) : Except SyntaxError (Nat × Nat) := do
  let (n, i) ← hexEscape src i
  if 0xDC00 ≤ n ∧ n ≤ 0xDFFF then .error (faultAt src .loneLeadingSurrogateInHexEscape i)
  else if n < 0xD800 ∨ n > 0xDBFF then .ok (n, i)
  else
    match byteAt src i with
    | none => .error (faultAt src .eofWhileParsingString i)
    | some b =>
      if b != 92 then .error (faultAt src .unexpectedEndOfHexEscape (i + 1))
      else match byteAt src (i + 1) with
        | none => .error (faultAt src .eofWhileParsingString (i + 1))
        | some b =>
          if b != 117 then .error (faultAt src .unexpectedEndOfHexEscape (i + 2))
          else do
            let (n2, j) ← hexEscape src (i + 2)
            if n2 < 0xDC00 ∨ n2 > 0xDFFF then
              .error (faultAt src .loneLeadingSurrogateInHexEscape j)
            else .ok ((((n - 0xD800) <<< 10) ||| (n2 - 0xDC00)) + 0x10000, j)

/-- The escape after a backslash at `i`: the bytes it stands for, and the index after. -/
def escape (i : Nat) : Except SyntaxError (Bytes × Nat) :=
  match byteAt src i with
  | none => .error (faultAt src .eofWhileParsingString i)
  | some c =>
    if c == 34 then .ok ([34], i + 1)
    else if c == 92 then .ok ([92], i + 1)
    else if c == 47 then .ok ([47], i + 1)
    else if c == 98 then .ok ([8], i + 1)
    else if c == 102 then .ok ([12], i + 1)
    else if c == 110 then .ok ([10], i + 1)
    else if c == 114 then .ok ([13], i + 1)
    else if c == 116 then .ok ([9], i + 1)
    else if c == 117 then do
      let (n, j) ← unicodeEscape src (i + 1)
      .ok (Utf8.encode (Char.ofNat n).toString, j)
    else .error (faultAt src .invalidEscape (i + 1))

/-- The bytes of a string from `i` (after the opening quote), reversed onto `acc`;
the index after the closing quote. -/
def stringBytes (acc : List UInt8) (i : Nat) : Nat → Except SyntaxError (Bytes × Nat)
  | 0 => .error (faultAt src .eofWhileParsingString src.size)
  | fuel + 1 =>
    match byteAt src i with
    | none => .error (faultAt src .eofWhileParsingString src.size)
    | some b =>
      if b == 34 then .ok (acc.reverse, i + 1)
      else if b == 92 then do
        let (bs, j) ← escape src (i + 1)
        stringBytes (bs.reverse ++ acc) j fuel
      else if b < 32 then .error (faultAt src .controlCharacterWhileParsingString (i + 1))
      else stringBytes (b :: acc) (i + 1) fuel

/-- A string from `i` (after the opening quote); the index after it. The input is text,
so the bytes read are well-formed. -/
def readString (i : Nat) : Except SyntaxError (String × Nat) := do
  let (bs, j) ← stringBytes src [] i (src.size + 1)
  .ok (Utf8.decodeLossy bs, j)

/-- Whether appending a digit to a 64-bit significand overflows it. -/
def overflows64 (sig d : Nat) : Bool :=
  sig > 1844674407370955161 || (sig == 1844674407370955161 && d > 5)

/-- Whether appending a digit to a 32-bit exponent overflows it. -/
def overflows32 (e d : Nat) : Bool :=
  e > 214748364 || (e == 214748364 && d > 7)

/-- The double of the parts, with its sign; the fault is reported at `i`. -/
def fromParts (positive : Bool) (sig : Nat) (exp : Int) (i : Nat) :
    Except SyntaxError (JsonNumber × Nat) :=
  match scaleByTen (Binary64.ofNat sig) exp (exp.natAbs / 308 + 2) with
  | some x => .ok (.float (if positive then x else x.neg), i)
  | none => .error (faultAt src .numberOutOfRange i)

/-- The digits of an exponent from `i`, after its first digit. -/
def exponentDigits (positive : Bool) (sig : Nat) (start : Int) (positiveExp : Bool)
    (e : Nat) (i : Nat) : Nat → Except SyntaxError (JsonNumber × Nat)
  | 0 => .error (faultAt src .invalidNumber i)
  | fuel + 1 =>
    match byteAt src i with
    | some b =>
      if isDigit b then
        let d := (b - 48).toNat
        if overflows32 e d then
          if sig != 0 && positiveExp then .error (faultAt src .numberOutOfRange (i + 1))
          else .ok (.float (Binary64.zero (!positive)), skipDigits src (i + 1))
        else exponentDigits positive sig start positiveExp (e * 10 + d) (i + 1) fuel
      else
        let final := if positiveExp then saturate32 (start + e) else saturate32 (start - e)
        fromParts src positive sig final i
    | none =>
      let final := if positiveExp then saturate32 (start + e) else saturate32 (start - e)
      fromParts src positive sig final i

/-- An exponent, from the `e` at `i`. -/
def exponentPart (positive : Bool) (sig : Nat) (start : Int) (i : Nat) :
    Except SyntaxError (JsonNumber × Nat) :=
  let i := i + 1
  let (positiveExp, i) := match byteAt src i with
    | some 43 => (true, i + 1)
    | some 45 => (false, i + 1)
    | _ => (true, i)
  match byteAt src i with
  | none => .error (faultAt src .eofWhileParsingValue i)
  | some b =>
    if isDigit b then
      exponentDigits src positive sig start positiveExp (b - 48).toNat (i + 1) (src.size + 1)
    else .error (faultAt src .invalidNumber (i + 1))

/-- What follows the digits of a number at `i`: an exponent, or the end. -/
def afterDigits (positive : Bool) (sig : Nat) (exp : Int) (i : Nat) :
    Except SyntaxError (JsonNumber × Nat) :=
  match byteAt src i with
  | some 101 | some 69 => exponentPart src positive sig exp i
  | _ => fromParts src positive sig exp i

/-- The digits of a fraction from `i`; `after` counts them, negated. -/
def fractionDigits (positive : Bool) (sig : Nat) (before after : Int) (i : Nat) :
    Nat → Except SyntaxError (JsonNumber × Nat)
  | 0 => .error (faultAt src .invalidNumber i)
  | fuel + 1 =>
    match byteAt src i with
    | some b =>
      if isDigit b then
        let d := (b - 48).toNat
        if overflows64 sig d then
          afterDigits src positive sig (before + after) (skipDigits src i)
        else fractionDigits positive (sig * 10 + d) before (after - 1) (i + 1) fuel
      else if after = 0 then .error (faultAhead src .invalidNumber i)
      else afterDigits src positive sig (before + after) i
    | none =>
      if after = 0 then .error (faultAhead src .eofWhileParsingValue i)
      else afterDigits src positive sig (before + after) i

/-- A fraction, from the `.` at `i`. -/
def fraction (positive : Bool) (sig : Nat) (before : Int) (i : Nat) :
    Except SyntaxError (JsonNumber × Nat) :=
  fractionDigits src positive sig before 0 (i + 1) (src.size + 1)

/-- What follows the integer digits at `i`, when the significand overflowed and the
remaining digits only scale it. -/
def longInteger (positive : Bool) (sig : Nat) (exp : Int) (i : Nat) :
    Nat → Except SyntaxError (JsonNumber × Nat)
  | 0 => .error (faultAt src .invalidNumber i)
  | fuel + 1 =>
    match byteAt src i with
    | some 46 => fraction src positive sig exp i
    | some 101 | some 69 => exponentPart src positive sig exp i
    | some b =>
      if isDigit b then longInteger positive sig (exp + 1) (i + 1) fuel
      else fromParts src positive sig exp i
    | none => fromParts src positive sig exp i

/-- What follows a whole integer at `i`. -/
def afterInteger (positive : Bool) (sig : Nat) (i : Nat) :
    Except SyntaxError (JsonNumber × Nat) :=
  match byteAt src i with
  | some 46 => fraction src positive sig 0 i
  | some 101 | some 69 => exponentPart src positive sig 0 i
  | _ =>
    if positive then .ok (.natural sig, i)
    else if 1 ≤ sig ∧ sig ≤ Nat.pow 2 63 then .ok (.negative (-(sig : Int)), i)
    else .ok (.float (Binary64.ofNat sig).neg, i)

/-- The digits of an integer from `i`. -/
def integerDigits (positive : Bool) (sig : Nat) (i : Nat) :
    Nat → Except SyntaxError (JsonNumber × Nat)
  | 0 => .error (faultAt src .invalidNumber i)
  | fuel + 1 =>
    match byteAt src i with
    | some b =>
      if isDigit b then
        let d := (b - 48).toNat
        if overflows64 sig d then longInteger src positive sig 0 i (src.size + 1)
        else integerDigits positive (sig * 10 + d) (i + 1) fuel
      else afterInteger src positive sig i
    | none => afterInteger src positive sig i

/-- A number from its first digit at `i` (after any minus sign). -/
def readNumber (positive : Bool) (i : Nat) : Except SyntaxError (JsonNumber × Nat) :=
  match byteAt src i with
  | none => .error (faultAt src .eofWhileParsingValue i)
  | some c =>
    if c == 48 then
      match byteAt src (i + 1) with
      | some b => if isDigit b then .error (faultAhead src .invalidNumber (i + 1))
        else afterInteger src positive 0 (i + 1)
      | none => afterInteger src positive 0 (i + 1)
    else if 49 ≤ c && c ≤ 57 then
      integerDigits src positive (c - 48).toNat (i + 1) (src.size + 1)
    else .error (faultAt src .invalidNumber (i + 1))

/-- The rest of a literal word from `i`. -/
def word (rest : List UInt8) (i : Nat) : Except SyntaxError Nat :=
  match rest with
  | [] => .ok i
  | c :: cs =>
    match byteAt src i with
    | none => .error (faultAt src .eofWhileParsingValue i)
    | some b => if b == c then word cs (i + 1) else .error (faultAt src .expectedSomeIdent (i + 1))

mutual
/-- A value from `i`, with `depth` more levels of nesting allowed. -/
def value (depth : Nat) (i : Nat) : Nat → Except SyntaxError (Json × Nat)
  | 0 => .error (faultAt src .recursionLimitExceeded i)
  | fuel + 1 =>
    let i := skipBlanks src i
    match byteAt src i with
    | none => .error (faultAhead src .eofWhileParsingValue i)
    | some c =>
      if c == 110 then do let j ← word src [117, 108, 108] (i + 1); .ok (.null, j)
      else if c == 116 then do let j ← word src [114, 117, 101] (i + 1); .ok (.bool true, j)
      else if c == 102 then do
        let j ← word src [97, 108, 115, 101] (i + 1); .ok (.bool false, j)
      else if c == 45 then do let (n, j) ← readNumber src false (i + 1); .ok (.number n, j)
      else if isDigit c then do let (n, j) ← readNumber src true i; .ok (.number n, j)
      else if c == 34 then do let (s, j) ← readString src (i + 1); .ok (.string s, j)
      else if c == 91 then
        if depth ≤ 1 then .error (faultAhead src .recursionLimitExceeded i)
        else items (depth - 1) true [] (i + 1) fuel
      else if c == 123 then
        if depth ≤ 1 then .error (faultAhead src .recursionLimitExceeded i)
        else members (depth - 1) true [] (i + 1) fuel
      else .error (faultAhead src .expectedSomeValue i)

/-- The items of an array from `i`, those read so far reversed in `acc`. -/
def items (depth : Nat) (first : Bool) (acc : List Json) (i : Nat) :
    Nat → Except SyntaxError (Json × Nat)
  | 0 => .error (faultAt src .recursionLimitExceeded i)
  | fuel + 1 =>
    let i := skipBlanks src i
    match byteAt src i with
    | none => .error (faultAhead src .eofWhileParsingList i)
    | some 93 => .ok (.array acc.reverse, i + 1)
    | some c =>
      if first then do
        let (v, j) ← value depth i fuel
        items depth false (v :: acc) j fuel
      else if c == 44 then
        let k := skipBlanks src (i + 1)
        match byteAt src k with
        | some 93 => .error (faultAhead src .trailingComma k)
        | some _ => do
          let (v, j) ← value depth k fuel
          items depth false (v :: acc) j fuel
        | none => .error (faultAhead src .eofWhileParsingValue k)
      else .error (faultAhead src .expectedListCommaOrEnd i)

/-- The members of an object from `i`, those read so far in `acc` in reading order. -/
def members (depth : Nat) (first : Bool) (acc : List (String × Json)) (i : Nat) :
    Nat → Except SyntaxError (Json × Nat)
  | 0 => .error (faultAt src .recursionLimitExceeded i)
  | fuel + 1 =>
    let i := skipBlanks src i
    let next : Except SyntaxError Nat :=
      match byteAt src i with
      | some 125 => .ok i
      | some 44 => if first then .ok i else .ok (skipBlanks src (i + 1))
      | some _ => if first then .ok i else .error (faultAhead src .expectedObjectCommaOrEnd i)
      | none => .error (faultAhead src .eofWhileParsingObject i)
    match next with
    | .error e => .error e
    | .ok k =>
      if byteAt src i == some 125 then .ok (Json.objectOf acc.reverse, i + 1)
      else match byteAt src k with
        | some 34 => do
          let (key, j) ← readString src (k + 1)
          let j := skipBlanks src j
          match byteAt src j with
          | some 58 => do
            let (v, l) ← value depth (j + 1) fuel
            members depth false ((key, v) :: acc) l fuel
          | some _ => .error (faultAhead src .expectedColon j)
          | none => .error (faultAhead src .eofWhileParsingObject j)
        | some 125 => .error (faultAhead src .trailingComma k)
        | some _ => .error (faultAhead src .keyMustBeAString k)
        | none => .error (faultAhead src .eofWhileParsingValue k)
end

end Reader

/-- Reads a whole JSON text: one value, then only blanks. -/
def parseBytes (input : Bytes) : Except SyntaxError Json := do
  let src := input.toArray
  let (v, j) ← value src 128 0 (4 * src.size + 8)
  let k := skipBlanks src j
  if k < src.size then .error (faultAhead src .trailingCharacters k) else .ok v

/-- Reads a JSON text. -/
def parse (s : String) : Except SyntaxError Json := parseBytes (Utf8.encode s)

end HttpCheck.Json
