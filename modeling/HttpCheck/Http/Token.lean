import HttpCheck.Text.Utf8
/-!
# Tokens

The characters of an HTTP token (`tchar`): ASCII letters and digits and
``!#$%&'*+-.^_`|~``. Methods and header names are tokens.
-/
namespace HttpCheck.Http

/-- Whether a byte may stand in a token. -/
def isTokenByte (b : UInt8) : Bool :=
  (48 ≤ b && b ≤ 57) || (65 ≤ b && b ≤ 90) || (97 ≤ b && b ≤ 122) ||
    b == 33 || b == 35 || b == 36 || b == 37 || b == 38 || b == 39 || b == 42 ||
    b == 43 || b == 45 || b == 46 || b == 94 || b == 95 || b == 96 || b == 124 || b == 126

/-- The ASCII lowercase of a byte. -/
def lowerByte (b : UInt8) : UInt8 := if 65 ≤ b && b ≤ 90 then b + 32 else b

/-- The text of ASCII bytes. -/
def asciiText (bs : Bytes) : String := String.ofList (bs.map fun b => Char.ofNat b.toNat)

/-- A request method: a non-empty token, kept as written (methods are case-sensitive). -/
structure Method where
  name : String
  deriving DecidableEq, Repr, Inhabited

/-- The method written by some bytes, if they form a token. -/
def Method.parse? (bs : Bytes) : Option Method :=
  if !bs.isEmpty && bs.all isTokenByte then some ⟨asciiText bs⟩ else none

end HttpCheck.Http
