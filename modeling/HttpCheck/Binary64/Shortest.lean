import HttpCheck.Binary64.Basic
/-!
# Shortest decimal digits

The shortest decimal that reads back as a given double, found in exact natural
arithmetic. The reals that round to a finite non-zero `m · 2 ^ e` form an interval
around it, reaching half-way to each neighbour, ends included exactly when `m` is even
(a tie reads back to the even significand). The grids `10 ^ k` are tried from coarse to
fine; the first that has a point in the interval gives the fewest digits, and of its
points in the interval the one nearest the value is taken, a tie going to the even
digit string.
-/
namespace HttpCheck

/-- A decimal `digits · 10 ^ exponent`. -/
structure Decimal where
  digits : Nat
  exponent : Int
  deriving BEq, DecidableEq, Repr, Inhabited

namespace Decimal

/-- The decimal digits of a natural, most significant first (`[0]` for zero). -/
def digitList (n : Nat) : List Nat :=
  if n < 10 then [n] else digitList (n / 10) ++ [n % 10]
termination_by n
decreasing_by omega

/-- The digits of a decimal as characters. -/
def digitChars (d : Decimal) : List Char :=
  (digitList d.digits).map fun n => Char.ofNat ('0'.toNat + n)

end Decimal

namespace Binary64

/-- The interval of reals reading back as a finite positive number, in units of
`2 ^ (e - 2)`: low end, value, high end. The gap below is half as wide when the
fraction is zero and a smaller exponent exists. -/
def roundingInterval (x : Binary64) : Nat × Nat × Nat :=
  let m := x.significand
  let below := if x.fraction = 0 ∧ x.biasedExponent > 1 then 1 else 2
  (4 * m - below, 4 * m, 4 * m + 2)

/-- The points of the grid `10 ^ k` that lie in the interval `[lo, hi]` (ends included
when `inclusive`), given as the least and greatest multiplier, for an interval measured
in units of `2 ^ f`; and the multiplier nearest `v`, ties to even. -/
def gridPoints (lo v hi : Nat) (inclusive : Bool) (f k : Int) : Nat × Nat × Nat :=
  let p2 := Nat.pow 2 (max f 0).toNat
  let q2 := Nat.pow 2 (max (-f) 0).toNat
  let p10 := Nat.pow 10 (max k 0).toNat
  let q10 := Nat.pow 10 (max (-k) 0).toNat
  let g := p10 * q2
  let lo' := lo * p2 * q10
  let hi' := hi * p2 * q10
  let v' := v * p2 * q10
  let tmin := if inclusive then (lo' + g - 1) / g else lo' / g + 1
  let tmax := if inclusive then hi' / g else (hi' - 1) / g
  let q := v' / g
  let r := v' % g
  let near := if 2 * r < g then q else if 2 * r > g then q + 1
    else if q % 2 = 0 then q else q + 1
  let other := if near = q then q + 1 else q
  let pick := if tmin ≤ near ∧ near ≤ tmax then near else other
  (tmin, tmax, pick)

/-- Tries the grids `10 ^ k`, `10 ^ (k - 1)`, … until one has a point in the interval. -/
def searchGrid (lo v hi : Nat) (inclusive : Bool) (f : Int) : Nat → Int → Decimal
  | 0, k => ⟨v, k⟩
  | fuel + 1, k =>
    let (tmin, tmax, pick) := gridPoints lo v hi inclusive f k
    if tmin ≤ tmax then ⟨pick, k⟩ else searchGrid lo v hi inclusive f fuel (k - 1)

/-- The shortest decimal of a finite positive number that reads back as it, nearest of
those; ties to an even digit string. -/
def shortest (x : Binary64) : Decimal :=
  let (lo, v, hi) := x.roundingInterval
  let f := x.exponent - 2
  let top : Int := (f + bitLength hi) * 30103 / 100000 + 2
  searchGrid lo v hi (x.significand % 2 == 0) f 40 top

end Binary64
end HttpCheck
