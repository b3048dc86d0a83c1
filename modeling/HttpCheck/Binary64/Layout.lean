import HttpCheck.Binary64.Shortest
/-!
# Laying out a double as text

A double is written from its shortest decimal `d · 10 ^ k`. With `n` digits, the decimal
point stands after `p = n + k` of them. A layout decides for which `p` the number is
written positionally (`1234.5`, `0.00012`) and otherwise in scientific form
(`1.2345e3`), whether an integer keeps a `.0`, whether a positive exponent gets a `+`,
and the words for NaN and infinity.
-/
namespace HttpCheck.Binary64

/-- The decisions of a text format for doubles. -/
structure Layout where
  /-- Always positional, never scientific. -/
  alwaysPositional : Bool
  /-- Positional when `lowPoint < p ≤ highPoint`. -/
  lowPoint : Int
  highPoint : Int
  /-- Integers written positionally end in `.0`. -/
  pointZero : Bool
  /-- A non-negative exponent is written with a `+`. -/
  exponentPlus : Bool
  nanText : String
  infinityText : String

/-- `n` zeros. -/
def zeros (n : Nat) : List Char := List.replicate n '0'

/-- The digits `ds` with the point after `p` of them, positionally. -/
def positional (l : Layout) (ds : List Char) (p : Int) : List Char :=
  if p ≤ 0 then ['0', '.'] ++ zeros (-p).toNat ++ ds
  else if p.toNat ≥ ds.length then
    ds ++ zeros (p.toNat - ds.length) ++ (if l.pointZero then ['.', '0'] else [])
  else ds.take p.toNat ++ ['.'] ++ ds.drop p.toNat

/-- The digits `ds` as `d.ddd` and the exponent `p - 1`. -/
def scientific (l : Layout) (ds : List Char) (p : Int) : List Char :=
  let mant := match ds with
    | [d] => [d]
    | d :: rest => d :: '.' :: rest
    | [] => ['0']
  let e := p - 1
  let sign := if e < 0 then ['-'] else if l.exponentPlus then ['+'] else []
  mant ++ ['e'] ++ sign ++ (Decimal.digitList e.natAbs).map fun n => Char.ofNat ('0'.toNat + n)

/-- The text of a double in a layout. -/
def render (l : Layout) (x : Binary64) : String :=
  if x.isNaN then l.nanText
  else
    let sign := if x.negative then ['-'] else []
    if x.isInfinite then String.ofList sign ++ l.infinityText
    else if x.isZero then
      String.ofList (sign ++ ['0'] ++ (if l.pointZero then ['.', '0'] else []))
    else
      let d := x.shortest
      let ds := d.digitChars
      let p : Int := ds.length + d.exponent
      let body := if l.alwaysPositional || (l.lowPoint < p ∧ p ≤ l.highPoint)
        then positional l ds p else scientific l ds p
      String.ofList (sign ++ body)

/-- JSON numbers: positional for `-5 < p ≤ 16`, integers end in `.0`, exponents carry
their sign (`1e+300`, `1e-7`). Non-finite numbers are not JSON; the JSON printer writes
them as `null` before this is reached. -/
def jsonLayout : Layout :=
  ⟨false, -5, 16, true, true, "NaN", "inf"⟩

/-- Compact form text: as JSON, but a positive exponent has no sign (`1e21`). -/
def compactLayout : Layout :=
  ⟨false, -5, 16, true, false, "NaN", "inf"⟩

/-- Plain text: always positional and as short as possible (`1`, `0.0000001`,
`1000000000000000000000`). -/
def plainLayout : Layout :=
  ⟨true, 0, 0, false, false, "NaN", "inf"⟩

end HttpCheck.Binary64
