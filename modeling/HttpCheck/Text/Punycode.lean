/-!
# Punycode

The Bootstring encoding with the parameters of Punycode, read in the direction a
domain name needs: from the ASCII text of a label (after its `xn--` prefix) back to
its characters.

The basic characters stand before the last `-`. After it, every further character is
one generalised variable-length integer in base 36, whose digits are the letters
(0 to 25, either case) and the decimal digits (26 to 35), least significant first; a
digit below its position's threshold ends the integer. The integer advances a counter
that runs over every pair of a code point and a position in the label read so far;
where it stops, the character of that code point is inserted at that position, and
the thresholds adapt to the size of the step.

Arithmetic is in 32 bits. The text cannot be read when a product, a sum or a code
point passes `2^32 - 1`, when a character is not a digit, when the text ends inside
an integer, when a code point is not a character, or when the last `-` is the first
character.
-/
namespace HttpCheck.Punycode

/-- The largest value of the 32-bit arithmetic. -/
def wordMax : Nat := Nat.pow 2 32 - 1

/-- The value of a digit: a letter of either case is 0 to 25, a decimal digit 26 to 35. -/
def digitValue? (c : Char) : Option Nat :=
  if 'a' ≤ c ∧ c ≤ 'z' then some (c.toNat - 'a'.toNat)
  else if 'A' ≤ c ∧ c ≤ 'Z' then some (c.toNat - 'A'.toNat)
  else if '0' ≤ c ∧ c ≤ '9' then some (c.toNat - '0'.toNat + 26)
  else none

/-- The threshold of the digit whose position is `k`: `k - bias`, kept between 1 and 26. -/
def threshold (k bias : Nat) : Nat :=
  if k ≤ bias then 1 else if bias + 26 ≤ k then 26 else k - bias

/-- The threshold is at least 1 and at most 26. -/
theorem threshold_mem (k bias : Nat) : 1 ≤ threshold k bias ∧ threshold k bias ≤ 26 := by
  unfold threshold
  split
  · omega
  · split <;> omega

/-- Divides a step by 35 until it is at most 455, adding 36 to `k` each time. -/
def scaleDown (delta k : Nat) : Nat × Nat :=
  if 455 < delta then scaleDown (delta / 35) (k + 36) else (delta, k)
termination_by delta
decreasing_by omega

/-- The bias after a step of `delta`, with `points` characters read so far; the first
step is damped by 700, the others by 2. -/
def adapt (delta points : Nat) (first : Bool) : Nat :=
  let damped := if first then delta / 700 else delta / 2
  let (scaled, k) := scaleDown (damped + damped / points) 0
  k + 36 * scaled / (scaled + 38)

/-- The character of a code point, if it is one. -/
def charOf? (n : Nat) : Option Char :=
  if n < 0xD800 ∨ (0xE000 ≤ n ∧ n ≤ 0x10FFFF) then some (Char.ofNat n) else none

/-- Where the reading of the integers stands. -/
structure Reading where
  /-- The label read so far. -/
  chars : List Char
  /-- The code point of the last insertion. -/
  codePoint : Nat
  bias : Nat
  /-- The counter: a position, plus one turn of all positions per code point. -/
  index : Nat
  /-- The counter where the current integer started. -/
  start : Nat
  /-- The weight of the next digit. -/
  weight : Nat
  /-- The position of the next digit, in steps of 36. -/
  k : Nat
  /-- Whether an integer has begun and not ended. -/
  midway : Bool

/-- The reading before the first integer, after the basic characters `basic`. -/
def Reading.init (basic : List Char) : Reading :=
  ⟨basic, 0x80, 72, 0, 0, 1, 36, false⟩

/-- Reads one digit: it adds to the counter, and when it ends its integer the counter
places one character. -/
def Reading.step (r : Reading) (c : Char) : Option Reading := do
  let d ← digitValue? c
  let product := d * r.weight
  if wordMax < product then none
  let index := r.index + product
  if wordMax < index then none
  let t := threshold r.k r.bias
  if d < t then
    let points := r.chars.length + 1
    let codePoint := r.codePoint + index / points
    if wordMax < codePoint then none
    let ch ← charOf? codePoint
    let position := index % points
    return { chars := r.chars.insertIdx position ch, codePoint,
             bias := adapt (index - r.start) points (r.start == 0),
             index := position + 1, start := position + 1, weight := 1, k := 36,
             midway := false }
  else
    let weight := r.weight * (36 - t)
    if wordMax < weight then none
    return { r with index, weight, k := r.k + 36, midway := true }

/-- The position of the last `-`, if any. -/
def lastDash? (cs : List Char) : Option Nat :=
  (cs.zipIdx.filter (·.1 == '-')).getLast?.map (·.2)

/-- The characters of a Punycode text, or `none` when it cannot be read. -/
def decode? (cs : List Char) : Option (List Char) := do
  let (basic, encoded) ← match lastDash? cs with
    | none => some ([], cs)
    | some 0 => none
    | some p => some (cs.take p, cs.drop (p + 1))
  let r ← encoded.foldlM Reading.step (Reading.init basic)
  if r.midway then none else some r.chars

end HttpCheck.Punycode
