import HttpCheck.Text.Utf8
/-!
# Base64

The standard alphabet (`A`-`Z`, `a`-`z`, `0`-`9`, `+`, `/`) with `=` padding: every
three octets become four characters, and a final group of one or two octets becomes
two or three characters followed by `=` to make four.
-/
namespace HttpCheck.Base64

/-- The character of a six-bit value. -/
def symbol (n : Nat) : Char :=
  if n < 26 then Char.ofNat ('A'.toNat + n)
  else if n < 52 then Char.ofNat ('a'.toNat + n - 26)
  else if n < 62 then Char.ofNat ('0'.toNat + n - 52)
  else if n = 62 then '+' else '/'

/-- The characters of the groups of octets. -/
def encodeChars : Bytes → List Char
  | [] => []
  | [a] =>
    let n := a.toNat * 65536
    [symbol (n / 262144 % 64), symbol (n / 4096 % 64), '=', '=']
  | [a, b] =>
    let n := a.toNat * 65536 + b.toNat * 256
    [symbol (n / 262144 % 64), symbol (n / 4096 % 64), symbol (n / 64 % 64), '=']
  | a :: b :: c :: rest =>
    let n := a.toNat * 65536 + b.toNat * 256 + c.toNat
    [symbol (n / 262144 % 64), symbol (n / 4096 % 64), symbol (n / 64 % 64),
      symbol (n % 64)] ++ encodeChars rest

/-- The padded base64 text of a byte string. -/
def encode (bs : Bytes) : String := String.ofList (encodeChars bs)

/-- Four characters for every started group of three octets. -/
theorem encodeChars_length (bs : Bytes) :
    (encodeChars bs).length = 4 * ((bs.length + 2) / 3) := by
  induction bs using encodeChars.induct with
  | case1 => simp [encodeChars]
  | case2 a => simp [encodeChars]
  | case3 a b => simp [encodeChars]
  | case4 a b c rest ih => simp [encodeChars, ih]; omega

end HttpCheck.Base64
