/-!
# Binary64 numbers

An IEEE 754 double held as its 64 bits: one sign bit, eleven bits of biased exponent,
fifty-two bits of fraction. A finite value is `± m · 2 ^ e` with the significand `m`
and exponent `e` read off those fields. Rounding a positive ratio of naturals to the
nearest double (ties to an even significand, overflow to infinity) is done in exact
natural arithmetic, and so are the products and quotients built on it: each is the
exact result, rounded once.
-/
namespace HttpCheck

/-- A binary64 number, as its bits. -/
structure Binary64 where
  bits : UInt64
  deriving BEq, DecidableEq, Inhabited, Repr

namespace Binary64

/-- Whether the sign bit is set. -/
def negative (x : Binary64) : Bool := x.bits >>> 63 == 1

/-- The biased exponent field. -/
def biasedExponent (x : Binary64) : Nat := ((x.bits >>> 52) &&& 0x7FF).toNat

/-- The fraction field. -/
def fraction (x : Binary64) : Nat := (x.bits &&& 0xFFFFFFFFFFFFF).toNat

/-- Whether the number is a NaN. -/
def isNaN (x : Binary64) : Bool := x.biasedExponent == 0x7FF && x.fraction != 0

/-- Whether the number is an infinity. -/
def isInfinite (x : Binary64) : Bool := x.biasedExponent == 0x7FF && x.fraction == 0

/-- Whether the number is finite. -/
def isFinite (x : Binary64) : Bool := x.biasedExponent != 0x7FF

/-- Whether the number is a zero of either sign. -/
def isZero (x : Binary64) : Bool := x.biasedExponent == 0 && x.fraction == 0

/-- The significand `m` of a finite number `± m · 2 ^ e`. -/
def significand (x : Binary64) : Nat :=
  if x.biasedExponent = 0 then x.fraction else x.fraction + Nat.pow 2 52

/-- The exponent `e` of a finite number `± m · 2 ^ e`. -/
def exponent (x : Binary64) : Int :=
  if x.biasedExponent = 0 then -1074 else (x.biasedExponent : Int) - 1075

/-- The number with the given fields. -/
def make (neg : Bool) (biased fraction : Nat) : Binary64 :=
  ⟨((if neg then (1 : UInt64) else 0) <<< 63) ||| (biased.toUInt64 <<< 52) |||
    fraction.toUInt64⟩

/-- A zero. -/
def zero (neg : Bool) : Binary64 := make neg 0 0

/-- An infinity. -/
def infinity (neg : Bool) : Binary64 := make neg 0x7FF 0

/-- The NaN with only the top fraction bit set. -/
def nan : Binary64 := make false 0x7FF (Nat.pow 2 51)

/-- The same number with the sign flipped. -/
def neg (x : Binary64) : Binary64 := ⟨x.bits ^^^ ((1 : UInt64) <<< 63)⟩

/-- The number with the same magnitude and the given sign. -/
def withSign (x : Binary64) (neg : Bool) : Binary64 :=
  ⟨(x.bits &&& (0x7FFFFFFFFFFFFFFF : UInt64)) |||
    ((if neg then (1 : UInt64) else 0) <<< 63)⟩

/-- The number of binary digits of a natural (zero has none). -/
def bitLength (n : Nat) : Nat := if n = 0 then 0 else Nat.log2 n + 1

/-- Whether the part `rest / whole` dropped by rounding calls for rounding up, when the
kept significand is `kept`: more than a half, or exactly a half and `kept` odd. -/
def roundsUp (kept rest whole : Nat) : Bool :=
  2 * rest > whole || (2 * rest == whole && kept % 2 == 1)

/-- The number `± m · 2 ^ e` for a rounded significand `m` of at most 53 bits (or
exactly `2 ^ 53` after rounding up) at an exponent of at least `-1074`: an infinity
beyond the largest exponent, a subnormal below `2 ^ 52`. -/
def pack (neg : Bool) (m : Nat) (e : Int) : Binary64 :=
  let (m, e) := if m = Nat.pow 2 53 then (Nat.pow 2 52, e + 1) else (m, e)
  if m = 0 then zero neg
  else if e > 971 then infinity neg
  else if m < Nat.pow 2 52 then make neg 0 m
  else make neg (e + 1075).toNat (m - Nat.pow 2 52)

/-- The double nearest to `± num / den · 2 ^ shift`, ties to an even significand; zero
when `num` is zero, and an infinity when the value is too large. -/
def ofScaledRatio (neg : Bool) (num den : Nat) (shift : Int) : Binary64 :=
  if num = 0 ∨ den = 0 then zero neg else
  -- Scale so that the quotient has 54 to 56 bits, or stop at the subnormal exponent.
  let lg : Int := (Nat.log2 num : Int) - (Nat.log2 den : Int) + shift
  let e0 : Int := max (lg - 55) (-1074)
  let sc : Int := shift - e0
  let n := if sc ≥ 0 then num * Nat.pow 2 sc.toNat else num
  let d := if sc ≥ 0 then den else den * Nat.pow 2 (-sc).toNat
  let q := n / d
  let r := n % d
  let sh := bitLength q - 53
  let kept := q / Nat.pow 2 sh
  let low := q % Nat.pow 2 sh
  -- The dropped part is `(low · d + r) / (2 ^ sh · d)` of the last kept bit.
  let up := roundsUp kept (low * d + r) (Nat.pow 2 sh * d)
  pack neg (if up then kept + 1 else kept) (e0 + sh)

/-- The double nearest to `± num / den`. -/
def ofRatio (neg : Bool) (num den : Nat) : Binary64 := ofScaledRatio neg num den 0

/-- The double nearest to a natural. -/
def ofNat (n : Nat) : Binary64 := ofRatio false n 1

/-- The rounded product of two finite numbers. -/
def mul (a b : Binary64) : Binary64 :=
  ofScaledRatio (a.negative != b.negative) (a.significand * b.significand) 1
    (a.exponent + b.exponent)

/-- The rounded quotient of a finite number by a finite non-zero number. -/
def div (a b : Binary64) : Binary64 :=
  ofScaledRatio (a.negative != b.negative) a.significand b.significand
    (a.exponent - b.exponent)

/-- Equality of values: the same bits, or two zeros; a NaN equals nothing. -/
def sameValue (a b : Binary64) : Bool :=
  !a.isNaN && !b.isNaN && (a.bits == b.bits || (a.isZero && b.isZero))

/-- The nearest integer of a finite number, halves away from zero, as a sign and a
magnitude. -/
def roundHalfAway (x : Binary64) : Bool × Nat :=
  let m := x.significand
  let e := x.exponent
  let mag := if e ≥ 0 then m * Nat.pow 2 e.toNat
    else (2 * m / Nat.pow 2 (-e).toNat + 1) / 2
  (x.negative, mag)

end Binary64
end HttpCheck
