import HttpCheck.Text.Utf8
/-!
# Hexadecimal octets

Byte strings written as two lowercase hexadecimal digits per octet, high half first,
and read back from digits of either case.
-/
namespace HttpCheck.Hex

/-- The digit of a value below sixteen, lowercase. -/
def digit (n : Nat) : Char :=
  if n < 10 then Char.ofNat ('0'.toNat + n) else Char.ofNat ('a'.toNat + n - 10)

/-- The two digits an octet is written as, high half first. -/
def pair (b : UInt8) : List Char := [digit (b.toNat / 16), digit (b.toNat % 16)]

/-- The hexadecimal text of a byte string. -/
def encode (bs : Bytes) : String := String.ofList (bs.flatMap pair)

/-- The value of one hexadecimal digit of either case. -/
def value? (c : Char) : Option Nat :=
  if '0' ≤ c ∧ c ≤ '9' then some (c.toNat - '0'.toNat)
  else if 'a' ≤ c ∧ c ≤ 'f' then some (c.toNat - 'a'.toNat + 10)
  else if 'A' ≤ c ∧ c ≤ 'F' then some (c.toNat - 'A'.toNat + 10)
  else none

/-- Reads digits two at a time; an odd count or a non-digit fails. -/
def decodeChars : List Char → Option Bytes
  | [] => some []
  | [_] => none
  | hi :: lo :: rest => do
    let h ← value? hi
    let l ← value? lo
    let tail ← decodeChars rest
    pure ((16 * h + l).toUInt8 :: tail)

/-- The byte string a hexadecimal text stands for. -/
def decode? (s : String) : Option Bytes := decodeChars s.toList

@[simp] theorem encode_nil : encode [] = "" := rfl

end HttpCheck.Hex
