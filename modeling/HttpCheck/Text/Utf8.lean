/-!
# UTF-8

Byte strings are lists of octets. Decoding reads them as UTF-8 one unit at a
time: a unit is either a scalar value or a maximal ill-formed subpart, the
longest prefix of a well-formed sequence that the input starts with (at least one
octet). Strict decoding refuses any ill-formed unit; lossy decoding writes each one
as U+FFFD, which is the practice the Unicode standard recommends.
-/
namespace HttpCheck

/-- Raw octets: bodies, header values, request targets. -/
abbrev Bytes := List UInt8

namespace Utf8

/-- A continuation octet, `10xxxxxx`. -/
def isCont (b : UInt8) : Bool := b &&& 0xC0 == 0x80

/-- The value of a two-octet sequence. -/
def char2 (b0 b1 : UInt8) : Char :=
  Char.ofNat (((b0.toNat &&& 0x1F) <<< 6) ||| (b1.toNat &&& 0x3F))

/-- The value of a three-octet sequence. -/
def char3 (b0 b1 b2 : UInt8) : Char :=
  Char.ofNat (((b0.toNat &&& 0x0F) <<< 12) ||| ((b1.toNat &&& 0x3F) <<< 6) |||
    (b2.toNat &&& 0x3F))

/-- The value of a four-octet sequence. -/
def char4 (b0 b1 b2 b3 : UInt8) : Char :=
  Char.ofNat (((b0.toNat &&& 0x07) <<< 18) ||| ((b1.toNat &&& 0x3F) <<< 12) |||
    ((b2.toNat &&& 0x3F) <<< 6) ||| (b3.toNat &&& 0x3F))

/-- The range the second octet of a three-octet sequence must lie in, by its lead:
`E0` excludes overlong forms and `ED` excludes surrogates. -/
def secondOfThree (lead b : UInt8) : Bool :=
  if lead == 0xE0 then 0xA0 ≤ b && b ≤ 0xBF
  else if lead == 0xED then 0x80 ≤ b && b ≤ 0x9F
  else isCont b

/-- The range the second octet of a four-octet sequence must lie in, by its lead:
`F0` excludes overlong forms and `F4` values above U+10FFFF. -/
def secondOfFour (lead b : UInt8) : Bool :=
  if lead == 0xF0 then 0x90 ≤ b && b ≤ 0xBF
  else if lead == 0xF4 then 0x80 ≤ b && b ≤ 0x8F
  else isCont b

/-- Reads the unit whose lead octet is `b0` from the octets `rest` after it: the
unit, and the octets that follow it. -/
def afterLead (b0 : UInt8) (rest : Bytes) : Option Char × Bytes :=
  if b0 < 0x80 then (some (Char.ofNat b0.toNat), rest)
  else if b0 < 0xC2 then (none, rest)
  else if b0 < 0xE0 then
    match rest with
    | b1 :: rest1 => if isCont b1 then (some (char2 b0 b1), rest1) else (none, rest)
    | [] => (none, [])
  else if b0 < 0xF0 then
    match rest with
    | b1 :: rest1 =>
      if secondOfThree b0 b1 then
        match rest1 with
        | b2 :: rest2 => if isCont b2 then (some (char3 b0 b1 b2), rest2) else (none, rest1)
        | [] => (none, [])
      else (none, rest)
    | [] => (none, [])
  else if b0 < 0xF5 then
    match rest with
    | b1 :: rest1 =>
      if secondOfFour b0 b1 then
        match rest1 with
        | b2 :: rest2 =>
          if isCont b2 then
            match rest2 with
            | b3 :: rest3 =>
              if isCont b3 then (some (char4 b0 b1 b2 b3), rest3) else (none, rest2)
            | [] => (none, [])
          else (none, rest1)
        | [] => (none, [])
      else (none, rest)
    | [] => (none, [])
  else (none, rest)

/-- A unit never reads past the end: what follows it is no longer than what followed
its lead. -/
theorem afterLead_length (b0 : UInt8) (rest : Bytes) :
    (afterLead b0 rest).2.length ≤ rest.length := by
  unfold afterLead
  repeat' (first | split | simp)
  all_goals omega

/-- The units of a byte string: `some c` for a scalar value, `none` for a maximal
ill-formed subpart. -/
def units : Bytes → List (Option Char)
  | [] => []
  | b0 :: rest => (afterLead b0 rest).1 :: units (afterLead b0 rest).2
termination_by bs => bs.length
decreasing_by have := afterLead_length b0 rest; simp; omega

/-- Strict decoding: the text, when every unit is a scalar value. -/
def decode? (bs : Bytes) : Option String :=
  ((units bs).mapM id).map String.ofList

/-- Lossy decoding: every ill-formed unit becomes U+FFFD. -/
def decodeLossy (bs : Bytes) : String :=
  String.ofList ((units bs).map (·.getD '�'))

/-- Whether a byte string is well-formed UTF-8. -/
def isValid (bs : Bytes) : Bool := (decode? bs).isSome

/-- The UTF-8 encoding of a text. -/
def encode (s : String) : Bytes := s.toUTF8.toList

theorem units_nil : units [] = [] := by simp [units]

theorem decode?_nil : decode? [] = some "" := by simp [decode?, units]

end Utf8
end HttpCheck
