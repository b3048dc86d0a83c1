import HttpCheck.Unicode.Ranges
import HttpCheck.Unicode.Composition
/-!
# Normalization Form C

A text is in Normalization Form C when composing its canonical decomposition gives it
back. The decomposition replaces every primary composite by the pair it stands for,
repeatedly, and every Hangul syllable by its jamo; the canonical order then sorts each
run of combining marks by class, stably; the composition walks the result and joins
each character to the last starter when no character between them blocks it (one of
class 0, or of a class at least its own) and the pair has a primary composite.

The check is exact for texts whose characters keep their own decomposition through
primary composites, which holds for every character that a domain label may hold.
-/
namespace HttpCheck.Unicode

/-- Reads one entry `lo-hi:class`. -/
def readClassEntry (w : String) : Nat × Nat × Nat :=
  match w.splitOn ":" with
  | [r, k] =>
    let (lo, hi) := RangeTable.readRange r
    (lo, hi, k.toNat?.getD 0)
  | _ => (0, 0, 0)

/-- The ranges of nonzero canonical combining classes, in order. -/
def combiningClassRanges : Array (Nat × Nat × Nat) :=
  (((combiningClassText.splitOn " ").filter (· ≠ "")).map readClassEntry).toArray

/-- Reads one entry `composite:first,second`. -/
def readCompositeEntry (w : String) : Nat × Nat × Nat :=
  match w.splitOn ":" with
  | [c, pair] =>
    match pair.splitOn "," with
    | [a, b] => (RangeTable.hexNat c, RangeTable.hexNat a, RangeTable.hexNat b)
    | _ => (0, 0, 0)
  | _ => (0, 0, 0)

/-- The primary composites with their pairs, ordered by composite. -/
def primaryComposites : Array (Nat × Nat × Nat) :=
  (((primaryCompositeText.splitOn " ").filter (· ≠ "")).map readCompositeEntry).toArray

/-- The primary composites keyed by their pairs, ordered by pair. -/
def compositesByPair : Array ((Nat × Nat) × Nat) :=
  (primaryComposites.map fun (c, a, b) => ((a, b), c)).qsort
    fun x y => x.1.1 < y.1.1 || (x.1.1 == y.1.1 && x.1.2 < y.1.2)

/-- Finds by bisection, between `lo` and `hi` in a sorted array, an entry that the target
matches; `toTarget` says whether the target lies before an entry, after it, or on it. -/
def bisect {α : Type} (xs : Array α) (toTarget : α → Ordering) (lo hi : Nat) : Option α :=
  if _h : lo < hi then
    let mid := (lo + hi) / 2
    match xs[mid]? with
    | some x =>
      match toTarget x with
      | .lt => bisect xs toTarget lo mid
      | .gt => bisect xs toTarget (mid + 1) hi
      | .eq => some x
    | none => none
  else none
termination_by hi - lo

/-- The canonical combining class of a code point. -/
def combiningClass (c : Nat) : Nat :=
  let order := fun (e : Nat × Nat × Nat) =>
    if c < e.1 then Ordering.lt else if e.2.1 < c then .gt else .eq
  match bisect combiningClassRanges order 0 combiningClassRanges.size with
  | some (_, _, k) => k
  | none => 0

/-- The pair of a primary composite. -/
def compositePair? (c : Nat) : Option (Nat × Nat) :=
  let order := fun (e : Nat × Nat × Nat) =>
    if c < e.1 then Ordering.lt else if e.1 < c then .gt else .eq
  (bisect primaryComposites order 0 primaryComposites.size).map (·.2)

/-- The first Hangul syllable. -/
def hangulBase : Nat := 0xAC00

/-- The first leading consonant jamo. -/
def leadingBase : Nat := 0x1100

/-- The first vowel jamo. -/
def vowelBase : Nat := 0x1161

/-- The code point before the first trailing consonant jamo, standing for none. -/
def trailingBase : Nat := 0x11A7

/-- The number of leading consonants. -/
def leadingCount : Nat := 19

/-- The number of vowels. -/
def vowelCount : Nat := 21

/-- The number of trailing consonants, with none counted. -/
def trailingCount : Nat := 28

/-- The number of Hangul syllables. -/
def hangulCount : Nat := leadingCount * vowelCount * trailingCount

/-- Whether a code point is a Hangul syllable. -/
def isHangulSyllable (c : Nat) : Bool := hangulBase ≤ c && c < hangulBase + hangulCount

/-- The jamo of a Hangul syllable. -/
def hangulJamo (c : Nat) : List Nat :=
  let s := c - hangulBase
  let l := leadingBase + s / (vowelCount * trailingCount)
  let v := vowelBase + s % (vowelCount * trailingCount) / trailingCount
  let t := s % trailingCount
  if t = 0 then [l, v] else [l, v, trailingBase + t]

/-- The full canonical decomposition of a code point; `fuel` bounds the depth of the
pairs, which is at most four. -/
def decomposeWith : Nat → Nat → List Nat
  | 0, c => [c]
  | fuel + 1, c =>
    if isHangulSyllable c then hangulJamo c
    else
      match compositePair? c with
      | some (a, b) => decomposeWith fuel a ++ decomposeWith fuel b
      | none => [c]

/-- The full canonical decomposition of a code point. -/
def decompose (c : Nat) : List Nat := decomposeWith 8 c

/-- Places a code point into a text kept in reverse, passing the marks of a higher
class before it, so that each run of marks stays stably sorted by class. -/
def placeMark (c k : Nat) : List Nat → List Nat
  | [] => [c]
  | d :: rest =>
    if k != 0 && k < combiningClass d then d :: placeMark c k rest else c :: d :: rest

/-- The canonical order of a text: every run of marks stably sorted by class. -/
def canonicalOrder (cs : List Nat) : List Nat :=
  (cs.foldl (fun acc c => placeMark c (combiningClass c) acc) []).reverse

/-- The primary composite of a pair, Hangul syllables included. -/
def composePair? (a b : Nat) : Option Nat :=
  if leadingBase ≤ a && a < leadingBase + leadingCount &&
      vowelBase ≤ b && b < vowelBase + vowelCount then
    some (hangulBase + ((a - leadingBase) * vowelCount + (b - vowelBase)) * trailingCount)
  else if isHangulSyllable a && (a - hangulBase) % trailingCount == 0 &&
      trailingBase < b && b < trailingBase + trailingCount then
    some (a + (b - trailingBase))
  else
    let order := fun (e : (Nat × Nat) × Nat) =>
      if a < e.1.1 || (a == e.1.1 && b < e.1.2) then Ordering.lt
      else if a == e.1.1 && b == e.1.2 then .eq else .gt
    (bisect compositesByPair order 0 compositesByPair.size).map (·.2)

/-- Where the composition stands: the text so far, the position of its last starter,
and the class of its last character. -/
structure Composing where
  done : Array Nat
  starter : Option Nat
  lastClass : Nat

/-- Takes one more character of a canonically ordered decomposition. -/
def Composing.step (s : Composing) (c : Nat) : Composing :=
  let k := combiningClass c
  let joined := match s.starter with
    | some p =>
      if s.lastClass < k || s.lastClass == 0 then
        (composePair? (s.done.getD p 0) c).map fun m =>
          { s with done := s.done.setIfInBounds p m }
      else none
    | none => none
  match joined with
  | some s' => s'
  | none =>
    { done := s.done.push c,
      starter := if k == 0 then some s.done.size else s.starter,
      lastClass := k }

/-- The canonical composition of a canonically ordered decomposition. -/
def compose (cs : List Nat) : List Nat :=
  (cs.foldl Composing.step ⟨#[], none, 0⟩).done.toList

/-- The text in Normalization Form C, as code points. -/
def nfc (cs : List Nat) : List Nat := compose (canonicalOrder (cs.flatMap decompose))

/-- Whether a text is in Normalization Form C. -/
def isNfc (cs : List Char) : Bool :=
  let ns := cs.map Char.toNat
  nfc ns == ns

end HttpCheck.Unicode
