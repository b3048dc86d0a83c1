/-!
# Range tables

A set of code points kept as closed ranges `(lo, hi)`, sorted, disjoint and not
adjacent. Tables of the Unicode database are written compactly as text: ranges in
hexadecimal, `lo-hi` or a single point, separated by blanks. The set algebra here
(`union`, `inter`, `diff`, `complement`) keeps the normal form, so equal sets have
equal range lists.
-/
namespace HttpCheck.Unicode

/-- The largest code point. -/
def maxCodePoint : Nat := 0x10FFFF

/-- A set of code points as normalised closed ranges. -/
structure RangeTable where
  ranges : List (Nat × Nat)
  deriving BEq, Inhabited

namespace RangeTable

/-- The empty set. -/
def empty : RangeTable := ⟨[]⟩

/-- Every code point. -/
def all : RangeTable := ⟨[(0, maxCodePoint)]⟩

/-- Inserts a range into a sorted, merged list of ranges, merging where they touch. -/
def insertRange (r : Nat × Nat) : List (Nat × Nat) → List (Nat × Nat)
  | [] => [r]
  | s :: rest =>
    if r.2 + 1 < s.1 then r :: s :: rest
    else if s.2 + 1 < r.1 then s :: insertRange r rest
    else insertRange (min r.1 s.1, max r.2 s.2) rest

/-- The normal form of any list of ranges; empty ranges (`lo > hi`) are dropped. -/
def ofRanges (rs : List (Nat × Nat)) : RangeTable :=
  ⟨rs.foldl (fun acc r => if r.1 ≤ r.2 then insertRange r acc else acc) []⟩

/-- A single code point. -/
def single (c : Nat) : RangeTable := ⟨[(c, c)]⟩

/-- Value of a hexadecimal digit. -/
def hexValue (c : Char) : Nat :=
  if '0' ≤ c ∧ c ≤ '9' then c.toNat - '0'.toNat
  else if 'A' ≤ c ∧ c ≤ 'F' then c.toNat - 'A'.toNat + 10
  else if 'a' ≤ c ∧ c ≤ 'f' then c.toNat - 'a'.toNat + 10
  else 0

/-- A hexadecimal numeral. -/
def hexNat (s : String) : Nat := s.foldl (fun n c => 16 * n + hexValue c) 0

/-- Reads one written range, `lo-hi` or `c`. -/
def readRange (w : String) : Nat × Nat :=
  match w.splitOn "-" with
  | [a, b] => (hexNat a, hexNat b)
  | _ => (hexNat w, hexNat w)

/-- Reads a written table. -/
def ofString (s : String) : RangeTable :=
  ofRanges (((s.splitOn " ").filter (· ≠ "")).map readRange)

/-- Membership, by bisection over the sorted ranges. -/
def containsIn (rs : Array (Nat × Nat)) (c : Nat) (lo hi : Nat) : Bool :=
  if _h : lo < hi then
    let mid := (lo + hi) / 2
    match rs[mid]? with
    | some (a, b) =>
      if c < a then containsIn rs c lo mid
      else if b < c then containsIn rs c (mid + 1) hi
      else true
    | none => false
  else false
termination_by hi - lo

/-- Whether sorted ranges hold `c`: they are read in order until one reaches past it. -/
def containsList (c : Nat) : List (Nat × Nat) → Bool
  | [] => false
  | (lo, hi) :: rest => if c < lo then false else if c ≤ hi then true else containsList c rest

/-- Whether the set holds the code point `c`. -/
def contains (t : RangeTable) (c : Nat) : Bool := containsList c t.ranges

/-- Union. -/
def union (a b : RangeTable) : RangeTable := ofRanges (a.ranges ++ b.ranges)

/-- The gaps between sorted ranges, starting from `next`, up to `maxCodePoint`. -/
def gaps (next : Nat) : List (Nat × Nat) → List (Nat × Nat)
  | [] => if next ≤ maxCodePoint then [(next, maxCodePoint)] else []
  | r :: rest =>
    if next < r.1 then (next, r.1 - 1) :: gaps (r.2 + 1) rest else gaps (r.2 + 1) rest

/-- Complement within `0 ..= maxCodePoint`. -/
def complement (t : RangeTable) : RangeTable := ofRanges (gaps 0 t.ranges)

/-- Intersection. -/
def inter (a b : RangeTable) : RangeTable := (a.complement.union b.complement).complement

/-- Difference `a \ b`. -/
def diff (a b : RangeTable) : RangeTable := a.inter b.complement

/-- Symmetric difference. -/
def symmDiff (a b : RangeTable) : RangeTable := (a.diff b).union (b.diff a)

/-- Whether the set is empty. -/
def isEmpty (t : RangeTable) : Bool := t.ranges.isEmpty

end RangeTable

/-- Normalisation of a property or value name: blanks, `_` and `-` are dropped, letters
are lowered, characters beyond ASCII are dropped, and a leading `is` is ignored (but
`isc` stays `isc`). -/
def normalizeName (name : String) : String :=
  let cs := name.toList
  let startsWithIs := match cs with
    | a :: b :: _ => (a == 'i' || a == 'I') && (b == 's' || b == 'S')
    | _ => false
  let body := if startsWithIs then cs.drop 2 else cs
  let kept := body.filterMap fun c =>
    if c == ' ' || c == '_' || c == '-' then none
    else if 'A' ≤ c ∧ c ≤ 'Z' then some (Char.ofNat (c.toNat + 32))
    else if c.toNat ≤ 0x7F then some c
    else none
  if startsWithIs && kept == ['c'] then "isc" else String.ofList kept

end HttpCheck.Unicode
