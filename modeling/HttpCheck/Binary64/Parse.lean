import HttpCheck.Binary64.Basic
/-!
# Reading decimal numbers

Texts read as numbers the way a configuration reads them: a signed 64-bit integer
(`[+-]?digits`, in range), an unsigned one, or a double. A double is
`[+-]?` followed by `inf`, `infinity` or `nan` in any case, or by digits with an
optional point and an optional exponent `e[+-]?digits`; at least one digit must stand
before or after the point. The value is the decimal rounded once to the nearest double.
-/
namespace HttpCheck.Binary64

/-- The value of decimal digits. -/
def digitsValue (cs : List Char) : Nat :=
  cs.foldl (fun n c => 10 * n + (c.toNat - '0'.toNat)) 0

/-- A sign, and the text after it. -/
def splitSign (cs : List Char) : Bool × List Char :=
  match cs with
  | '-' :: rest => (true, rest)
  | '+' :: rest => (false, rest)
  | _ => (false, cs)

/-- A signed 64-bit integer. -/
def parseI64? (s : String) : Option Int :=
  let (neg, ds) := splitSign s.toList
  if ds.isEmpty || !ds.all Char.isDigit then none
  else
    let n := digitsValue ds
    if neg then (if n ≤ Nat.pow 2 63 then some (-(n : Int)) else none)
    else if n < Nat.pow 2 63 then some n else none

/-- An unsigned 64-bit integer, with an optional `+`. -/
def parseU64? (s : String) : Option Nat :=
  let ds := match s.toList with
    | '+' :: rest => rest
    | cs => cs
  if ds.isEmpty || !ds.all Char.isDigit then none
  else
    let n := digitsValue ds
    if n < Nat.pow 2 64 then some n else none

/-- The double nearest to `m * 10 ^ e`. Beyond the range of doubles the value is an
infinity or a zero without any computation. -/
def ofDecimal (neg : Bool) (m : Nat) (e : Int) : Binary64 :=
  if m = 0 then zero neg
  else
    let size : Int := (toString m).length
    if size + e > 310 then infinity neg
    else if size + e < -330 then zero neg
    else if e ≥ 0 then ofRatio neg (m * Nat.pow 10 e.toNat) 1
    else ofRatio neg m (Nat.pow 10 (-e).toNat)

/-- The lowercase ASCII of a text. -/
def lowerAscii (cs : List Char) : List Char :=
  cs.map fun c => if 'A' ≤ c ∧ c ≤ 'Z' then Char.ofNat (c.toNat + 32) else c

/-- A double. -/
def parseDouble? (s : String) : Option Binary64 :=
  let (neg, body) := splitSign s.toList
  let word := String.ofList (lowerAscii body)
  if word == "inf" || word == "infinity" then some (infinity neg)
  else if word == "nan" then some nan
  else
    let whole := body.takeWhile Char.isDigit
    let rest := body.drop whole.length
    let (frac, rest) := match rest with
      | '.' :: more => (more.takeWhile Char.isDigit, more.drop (more.takeWhile Char.isDigit).length)
      | _ => ([], rest)
    if whole.isEmpty && frac.isEmpty then none
    else
      let expo : Option Int := match rest with
        | [] => some 0
        | c :: more =>
          if c == 'e' || c == 'E' then
            let (eneg, eds) := splitSign more
            if eds.isEmpty || !eds.all Char.isDigit then none
            else
              let v : Int := digitsValue eds
              some (if eneg then -v else v)
          else none
      match expo with
      | none => none
      | some x => some (ofDecimal neg (digitsValue (whole ++ frac)) (x - frac.length))

end HttpCheck.Binary64
