import HttpCheck.Regex.Expr
/-!
# The size of an automaton

Before a pattern is searched, its automaton is built twice: once to run forwards, with a
pair of capture states around every group and around the whole match, and once to run
backwards, without them. Building is refused as soon as either automaton needs more
than `sizeLimit` bytes: 32 bytes per state, 8 more for each transition of a state that
tests several byte ranges, and 4 more for each branch of a fork.

The size depends on every detail of the construction, so this module follows it step by
step and counts as it goes.

* The expression is first brought to a normal form, a `Shape`: adjacent literals are
  joined into one byte string and empty parts dropped, nested sequences and alternations
  are flattened, an alternation of single characters or of sets becomes one set, and a
  prefix common to all branches of an alternation moves in front of it. A set of one
  character is a literal and an empty set matches nothing; a repetition of something that
  takes no bytes is done at most once.
* A literal takes one state per byte, an ASCII set an empty state and one state with a
  transition per range. A larger set is spelt out as UTF-8 byte sequences. Forwards,
  these are merged into a trie whose states are shared through a cache of 10 000 slots,
  indexed by an FNV-1a hash of their transitions; backwards, each byte range is one state,
  shared through a cache of 1000 slots keyed by the range and the state it leads to. A
  slot keeps only the last state stored in it, and the caches are keyed by state numbers,
  so the states are numbered exactly in the order of construction. An alternation of two
  or more literals is a trie of their bytes.
* The automaton starts with a loop over any byte, so that a match may start anywhere,
  unless every match must start at the start of the text (forwards) or end at its end
  (backwards).
-/
namespace HttpCheck.Regex

open HttpCheck.Unicode

/-- The size limit on automata, in bytes. -/
def sizeLimit : Nat := 10 * 1024 * 1024

/-- The UTF-8 bytes of a code point. -/
def utf8Units (c : Nat) : List Nat :=
  if c < 0x80 then [c]
  else if c < 0x800 then [0xC0 + c / 64, 0x80 + c % 64]
  else if c < 0x10000 then [0xE0 + c / 4096, 0x80 + c / 64 % 64, 0x80 + c % 64]
  else [0xF0 + c / 262144, 0x80 + c / 4096 % 64, 0x80 + c / 64 % 64, 0x80 + c % 64]

/-- The code point whose UTF-8 encoding is exactly these bytes, if there is one. -/
def singleCodePoint (bytes : List Nat) : Option Nat :=
  let c := match bytes with
    | [b0] => b0
    | [b0, b1] => (b0 % 32) * 64 + b1 % 64
    | [b0, b1, b2] => (b0 % 16) * 4096 + (b1 % 64) * 64 + b2 % 64
    | [b0, b1, b2, b3] => (b0 % 8) * 262144 + (b1 % 64) * 4096 + (b2 % 64) * 64 + b3 % 64
    | _ => 0
  if !bytes.isEmpty && utf8Units c == bytes then some c else none

/-- An expression in the normal form its automaton is built from. -/
inductive Shape where
  /-- The empty text. -/
  | empty
  /-- A byte string: the UTF-8 of one or more characters. -/
  | literal (bytes : List Nat)
  /-- One character of a set of at least two, as sorted ranges of code points. -/
  | chars (ranges : List (Nat × Nat))
  /-- The empty set, which matches nothing. -/
  | fail
  /-- An assertion, and whether it is the start or the end of the text. -/
  | look (start finish : Bool)
  /-- Between `min` and `max` (unbounded when none) repetitions. -/
  | repetition (min : Nat) (max : Option Nat) (sub : Shape)
  /-- The group numbered `index`. -/
  | capture (index : Nat) (sub : Shape)
  /-- One after the other; at least two parts, none of them empty or a sequence. -/
  | concat (subs : List Shape)
  /-- Any one of them; at least two branches, none of them an alternation. -/
  | alt (subs : List Shape)
  deriving BEq, Inhabited

/-- The UTF-8 length of the first code point of some ranges. -/
def firstWidth : List (Nat × Nat) → Option Nat
  | (lo, _) :: _ => some (utf8Units lo).length
  | [] => none

/-- The UTF-8 length of the last code point of some ranges. -/
def lastWidth : List (Nat × Nat) → Option Nat
  | [] => none
  | [(_, hi)] => some (utf8Units hi).length
  | _ :: rest => lastWidth rest

/-- Sums two lengths, none when either is none. -/
def addLengths : Option Nat → Option Nat → Option Nat
  | some a, some b => some (a + b)
  | _, _ => none

mutual
/-- The length in bytes of the shortest text matched; none when nothing is matched. -/
def Shape.minLen : Shape → Option Nat
  | .empty => some 0
  | .literal bytes => some bytes.length
  | .chars ranges => firstWidth ranges
  | .fail => none
  | .look _ _ => some 0
  | .repetition lo _ sub => sub.minLen.map (· * lo)
  | .capture _ sub => sub.minLen
  | .concat subs => Shape.minLenSum subs
  | .alt subs => Shape.minLenLeast subs

/-- The shortest length of a sequence. -/
def Shape.minLenSum : List Shape → Option Nat
  | [] => some 0
  | s :: rest => addLengths s.minLen (Shape.minLenSum rest)

/-- The shortest length among branches. -/
def Shape.minLenLeast : List Shape → Option Nat
  | [] => none
  | [s] => s.minLen
  | s :: rest => match s.minLen, Shape.minLenLeast rest with
    | some a, some b => some (min a b)
    | _, _ => none
end

mutual
/-- The length in bytes of the longest text matched; none when unbounded or when nothing
is matched. -/
def Shape.maxLen : Shape → Option Nat
  | .empty => some 0
  | .literal bytes => some bytes.length
  | .chars ranges => lastWidth ranges
  | .fail => none
  | .look _ _ => some 0
  | .repetition _ hi sub => match hi, sub.maxLen with
    | some m, some l => some (l * m)
    | _, _ => none
  | .capture _ sub => sub.maxLen
  | .concat subs => Shape.maxLenSum subs
  | .alt subs => Shape.maxLenMost subs

/-- The longest length of a sequence. -/
def Shape.maxLenSum : List Shape → Option Nat
  | [] => some 0
  | s :: rest => addLengths s.maxLen (Shape.maxLenSum rest)

/-- The longest length among branches. -/
def Shape.maxLenMost : List Shape → Option Nat
  | [] => none
  | [s] => s.maxLen
  | s :: rest => match s.maxLen, Shape.maxLenMost rest with
    | some a, some b => some (max a b)
    | _, _ => none
end

/-- Whether every part of a sequence takes no bytes. -/
def allZeroWidth (subs : List Shape) : Bool := subs.all (·.maxLen == some 0)

mutual
/-- Whether every match starts with the assertion that it is at the start of the text:
the assertion is met before any byte is taken, on every path. -/
def Shape.startsAtStart : Shape → Bool
  | .look start _ => start
  | .repetition lo _ sub => lo > 0 && sub.startsAtStart
  | .capture _ sub => sub.startsAtStart
  | .concat subs => Shape.prefixStartsAtStart subs
  | .alt subs => !subs.isEmpty && Shape.allStartAtStart subs
  | _ => false

/-- Whether a sequence starts at the start of the text: one of its parts does, and all
parts before it take no bytes. -/
def Shape.prefixStartsAtStart : List Shape → Bool
  | [] => false
  | s :: rest => s.startsAtStart || (s.maxLen == some 0 && Shape.prefixStartsAtStart rest)

/-- Whether every branch starts at the start of the text. -/
def Shape.allStartAtStart : List Shape → Bool
  | [] => true
  | s :: rest => s.startsAtStart && Shape.allStartAtStart rest
end

mutual
/-- Whether every match ends with the assertion that it is at the end of the text. -/
def Shape.endsAtEnd : Shape → Bool
  | .look _ finish => finish
  | .repetition lo _ sub => lo > 0 && sub.endsAtEnd
  | .capture _ sub => sub.endsAtEnd
  | .concat subs => Shape.suffixEndsAtEnd subs
  | .alt subs => !subs.isEmpty && Shape.allEndAtEnd subs
  | _ => false

/-- Whether a sequence ends at the end of the text: one of its parts does, and all parts
after it take no bytes. -/
def Shape.suffixEndsAtEnd : List Shape → Bool
  | [] => false
  | s :: rest => (s.endsAtEnd && allZeroWidth rest) || Shape.suffixEndsAtEnd rest

/-- Whether every branch ends at the end of the text. -/
def Shape.allEndAtEnd : List Shape → Bool
  | [] => true
  | s :: rest => s.endsAtEnd && Shape.allEndAtEnd rest
end

/-! ## The normal form -/

/-- A set without the surrogate code points, which no character has. -/
def withoutSurrogates (t : RangeTable) : RangeTable :=
  t.diff (RangeTable.ofRanges [(0xD800, 0xDFFF)])

/-- One character of a set: nothing for the empty set, a literal for a single character. -/
def Shape.ofSet (t : RangeTable) : Shape :=
  match (withoutSurrogates t).ranges with
  | [] => .fail
  | [(lo, hi)] => if lo == hi then .literal (utf8Units lo) else .chars [(lo, hi)]
  | ranges => .chars ranges

/-- The parts of a sequence so far, last first, without a literal still being joined. -/
def closeLiteral (acc : List Shape × List Nat) : List Shape :=
  if acc.2.isEmpty then acc.1 else .literal acc.2.reverse :: acc.1

/-- Adds a part to a sequence being built: the parts so far, last first, and the bytes of
a literal still being joined, last first. Literals join, empty parts vanish. -/
def joinPart (acc : List Shape × List Nat) : Shape → List Shape × List Nat
  | .literal bytes => (acc.1, bytes.reverse ++ acc.2)
  | .empty => acc
  | s => (s :: closeLiteral acc, [])

/-- A sequence in normal form: nested sequences opened, literals joined, empty parts
dropped; nothing left is the empty text, one part is that part. -/
def Shape.seq (parts : List Shape) : Shape :=
  let acc := parts.foldl (fun acc p => match p with
    | .concat inner => inner.foldl joinPart acc
    | p => joinPart acc p) ([], [])
  match (closeLiteral acc).reverse with
  | [] => .empty
  | [s] => s
  | ss => .concat ss

/-- The branches of some alternatives, nested alternations opened. -/
def Shape.branches (parts : List Shape) : List Shape :=
  parts.flatMap fun p => match p with
    | .alt inner => inner
    | p => [p]

/-- The characters of branches that are all single characters. -/
def singleChars : List Shape → Option (List Nat)
  | [] => some []
  | .literal bytes :: rest => do
    let c ← singleCodePoint bytes
    let cs ← singleChars rest
    return c :: cs
  | _ :: _ => none

/-- The union of branches that are all sets. -/
def setUnion : List Shape → Option RangeTable
  | [] => some RangeTable.empty
  | .chars ranges :: rest => (setUnion rest).map (·.union (RangeTable.ofRanges ranges))
  | .fail :: rest => setUnion rest
  | _ :: _ => none

/-- The parts of branches that are all sequences. -/
def sequenceParts : List Shape → Option (List (List Shape))
  | [] => some []
  | .concat xs :: rest => (sequenceParts rest).map (xs :: ·)
  | _ :: _ => none

/-- The number of leading parts two sequences share. -/
def sharedLength : List Shape → List Shape → Nat
  | x :: xs, y :: ys => if x == y then sharedLength xs ys + 1 else 0
  | _, _ => 0

/-- An alternation in normal form, moving a common prefix out at most `depth` times. -/
def Shape.choiceWithin : Nat → List Shape → Shape
  | depth, parts =>
    let flat := Shape.branches parts
    match flat with
    | [] => .fail
    | [s] => s
    | _ =>
      match singleChars flat with
      | some cs => Shape.ofSet (RangeTable.ofRanges (cs.map fun c => (c, c)))
      | none => match setUnion flat with
        | some t => Shape.ofSet t
        | none => match depth, sequenceParts flat with
          | d + 1, some (first :: rest) =>
            let n := rest.foldl (fun n xs => min n (sharedLength first xs)) first.length
            if n == 0 then .alt flat
            else Shape.seq (first.take n ++
              [Shape.choiceWithin d ((first :: rest).map fun xs => Shape.seq (xs.drop n))])
          | _, _ => .alt flat

/-- An alternation in normal form. Each move of a common prefix takes at least one part
from every branch, so the parts of the branches bound how often it happens. -/
def Shape.choice (parts : List Shape) : Shape :=
  let depth := (Shape.branches parts).foldl (fun n p => match p with
    | .concat xs => n + xs.length
    | _ => n) 1
  Shape.choiceWithin depth parts

/-- A repetition in normal form: at most once when the repeated part takes no bytes,
nothing for `{0}` and the part itself for `{1}`. -/
def Shape.repeatOf (lo : Nat) (hi : Option Nat) (sub : Shape) : Shape :=
  let (lo, hi) := if sub.maxLen == some 0 then (min lo 1, some (min (hi.getD 1) 1))
    else (lo, hi)
  if lo == 0 && hi == some 0 then .empty
  else if lo == 1 && hi == some 1 then sub
  else .repetition lo hi sub

mutual
/-- The shape of an expression whose first group is numbered `next`, and the number of
the next group after it. Groups are numbered in the order they open. -/
def Shape.ofExprFrom (next : Nat) : Expr → Shape × Nat
  | .empty => (.empty, next)
  | .chars s => (Shape.ofSet s, next)
  | .look l => (.look (l == .start) (l == .finish), next)
  | .repetition lo hi e =>
    let (s, n) := Shape.ofExprFrom next e
    (Shape.repeatOf lo hi s, n)
  | .group e =>
    let (s, n) := Shape.ofExprFrom (next + 1) e
    (.capture next s, n)
  | .concat es =>
    let (ss, n) := Shape.ofExprsFrom next es
    (Shape.seq ss, n)
  | .alt es =>
    let (ss, n) := Shape.ofExprsFrom next es
    (Shape.choice ss, n)

/-- The shapes of expressions in order. -/
def Shape.ofExprsFrom (next : Nat) : List Expr → List Shape × Nat
  | [] => ([], next)
  | e :: rest =>
    let (s, n) := Shape.ofExprFrom next e
    let (ss, m) := Shape.ofExprsFrom n rest
    (s :: ss, m)
end

/-- The shape of an expression. -/
def Shape.ofExpr (e : Expr) : Shape := (Shape.ofExprFrom 1 e).1

/-! ## UTF-8 byte sequences -/

/-- The largest code point of each UTF-8 length from one to three bytes. -/
def widthLimits : List Nat := [0x7F, 0x7FF, 0xFFFF]

/-- Where to cut a range of code points of mixed UTF-8 lengths. -/
def widthCut (lo hi : Nat) : Option Nat :=
  widthLimits.find? fun m => lo ≤ m && m < hi

/-- Where to cut a range so that each part varies in its continuation bytes alone: the
last code point of the first part. -/
def continuationCut (lo hi : Nat) : Option Nat :=
  [1, 2, 3].findSome? fun i =>
    let m := Nat.pow 2 (6 * i) - 1
    if lo / (m + 1) != hi / (m + 1) then
      if lo % (m + 1) != 0 then some (lo / (m + 1) * (m + 1) + m)
      else if hi % (m + 1) != m then some (hi / (m + 1) * (m + 1) - 1)
      else none
    else none

/-- The byte-range sequences of ranges on a stack: each range is cut at the surrogates, at
changes of UTF-8 length and until each part varies only in whole continuation bytes; a
part then becomes the ranges of its bytes. Every cut pushes a part and every other step
produces a sequence, so `fuel` of four times the expected count suffices. -/
def rangeSequences : Nat → List (Nat × Nat) → List (List (Nat × Nat))
  | 0, _ => []
  | _, [] => []
  | fuel + 1, (lo, hi) :: stack =>
    if lo < 0xE000 && hi > 0xD7FF then
      rangeSequences fuel ((lo, 0xD7FF) :: (0xE000, hi) :: stack)
    else if lo > hi then rangeSequences fuel stack
    else match widthCut lo hi with
      | some m => rangeSequences fuel ((lo, m) :: (m + 1, hi) :: stack)
      | none =>
        if hi ≤ 0x7F then [(lo, hi)] :: rangeSequences fuel stack
        else match continuationCut lo hi with
          | some m => rangeSequences fuel ((lo, m) :: (m + 1, hi) :: stack)
          | none => (utf8Units lo).zip (utf8Units hi) :: rangeSequences fuel stack

/-- The byte-range sequences of a range of code points, in order. -/
def utf8Sequences (lo hi : Nat) : List (List (Nat × Nat)) :=
  rangeSequences 256 [(lo, hi)]

/-! ## Counting the construction -/

/-- A slot of a construction cache: the version it was stored under, its key and the
state it names. -/
structure CacheSlot where
  version : Nat
  key : List Nat
  state : Nat
  deriving Inhabited

/-- A cache of fixed capacity, each slot keeping the last state stored under its hash.
Clearing it bumps a 16-bit version instead of erasing the slots; the slots are made when
the cache is first cleared and made afresh when the version wraps around. -/
structure SlotCache where
  capacity : Nat
  version : Nat
  slots : Array CacheSlot

/-- An unused cache. -/
def SlotCache.new (capacity : Nat) : SlotCache := ⟨capacity, 0, #[]⟩

/-- Forgets every entry. -/
def SlotCache.clear (c : SlotCache) : SlotCache :=
  if c.slots.isEmpty then { c with slots := Array.replicate c.capacity default }
  else
    let v := (c.version + 1) % 65536
    if v == 0 then { c with version := 0, slots := Array.replicate c.capacity default }
    else { c with version := v }

/-- The slot of a key: its FNV-1a hash, modulo the capacity. -/
def fnvSlot (key : List Nat) (capacity : Nat) : Nat :=
  (key.foldl (fun (h : UInt64) x => (h ^^^ x.toUInt64) * 1099511628211)
    14695981039346656037).toNat % capacity

/-- The state stored under a key, if its slot still holds it. -/
def SlotCache.find? (c : SlotCache) (key : List Nat) (slot : Nat) : Option Nat :=
  match c.slots[slot]? with
  | some e => if e.version == c.version && e.key == key then some e.state else none
  | none => none

/-- Stores a state under a key, in its slot. -/
def SlotCache.store (c : SlotCache) (key : List Nat) (slot : Nat) (state : Nat) :
    SlotCache :=
  { c with slots := c.slots.setIfInBounds slot ⟨c.version, key, state⟩ }

/-- A node of a UTF-8 trie not yet made a state: its finished transitions (first byte,
last byte, target) and the byte range of the transition still open. -/
structure OpenNode where
  transitions : Array (Nat × Nat × Nat)
  last : Option (Nat × Nat)
  deriving Inhabited

/-- The transitions of a node, its open transition led to `next`. -/
def OpenNode.freeze (n : OpenNode) (next : Nat) : Array (Nat × Nat × Nat) :=
  match n.last with
  | some (a, b) => n.transitions.push (a, b, next)
  | none => n.transitions

/-- A construction under way: its direction, the states and extra bytes so far, the
caches of the two ways of spelling out sets, and the open path of the UTF-8 trie. -/
structure Construction where
  backwards : Bool
  states : Nat
  heap : Nat
  classCache : SlotCache
  suffixCache : SlotCache
  pending : Array OpenNode

/-- A construction that has not begun. -/
def Construction.new (backwards : Bool) : Construction :=
  ⟨backwards, 0, 0, SlotCache.new 10000, SlotCache.new 1000, #[]⟩

/-- The bytes a construction has taken. -/
def Construction.bytes (c : Construction) : Nat := 32 * c.states + c.heap

/-- Building, which stops once the size limit is passed. -/
abbrev Construct := EStateM Unit Construction

/-- Stops if the size limit is passed. -/
def checkLimit : Construct Unit := do
  if (← get).bytes > sizeLimit then throw ()

/-- Adds a state with `heap` extra bytes; its number. -/
def addState (heap : Nat) : Construct Nat := do
  let id ← modifyGet fun c => (c.states, { c with states := c.states + 1, heap := c.heap + heap })
  checkLimit
  return id

/-- Adds `n` plain states. -/
def addStates : Nat → Construct Unit
  | 0 => pure ()
  | n + 1 => do
    let _ ← addState 0
    addStates n

/-- Adds a branch to a fork. -/
def addBranch : Construct Unit := do
  modify fun c => { c with heap := c.heap + 4 }
  checkLimit

/-- A built part: its first and last states, and whether the last is a fork, so that
leading it on costs a branch. -/
structure Piece where
  start : Nat
  finish : Nat
  forkAtFinish : Bool

/-- Leads the last state of a piece on to the next. -/
def Piece.link (p : Piece) : Construct Unit := if p.forkAtFinish then addBranch else pure ()

/-- A piece of one plain state. -/
def plainPiece : Construct Piece := do
  let i ← addState 0
  return ⟨i, i, false⟩

/-- A set of ASCII ranges: an empty state after one state testing every range. -/
def rangesPiece (count : Nat) : Construct Piece := do
  let finish ← addState 0
  let start ← addState (8 * count)
  return ⟨start, finish, false⟩

/-- A literal: one state per byte. -/
def literalPiece (length : Nat) : Construct Piece := do
  let start ← addState 0
  addStates (length - 1)
  return ⟨start, start + length - 1, false⟩

/-- Builds parts one after the other, each led on to the next. -/
def chainOn (acc : Piece) : List (Construct Piece) → Construct Piece
  | [] => pure acc
  | part :: rest => do
    let p ← part
    acc.link
    chainOn ⟨acc.start, p.finish, p.forkAtFinish⟩ rest

/-- A sequence of parts; built from the last part first when backwards. -/
def sequencePiece (parts : List (Construct Piece)) : Construct Piece := do
  let parts := if (← get).backwards then parts.reverse else parts
  match parts with
  | [] => plainPiece
  | first :: rest => do chainOn (← first) rest

/-- `n` more copies of a part after `acc`. -/
def repeatOn (part : Construct Piece) : Nat → Piece → Construct Piece
  | 0, acc => pure acc
  | n + 1, acc => do
    let p ← part
    acc.link
    repeatOn part n ⟨acc.start, p.finish, p.forkAtFinish⟩

/-- `n` copies of a part in a row. -/
def exactlyPiece (part : Construct Piece) : Nat → Construct Piece
  | 0 => plainPiece
  | n + 1 => do repeatOn part n (← part)

/-- The rest of an alternation, each branch forked to from `fork` and led to `finish`. -/
def moreBranches : List (Construct Piece) → Construct Unit
  | [] => pure ()
  | part :: rest => do
    let p ← part
    addBranch
    p.link
    moreBranches rest

/-- An alternation: the first two branches, then a fork and a common end, then the rest. -/
def alternativesPiece (parts : List (Construct Piece)) : Construct Piece :=
  match parts with
  | [] => plainPiece
  | [only] => only
  | first :: second :: rest => do
    let a ← first
    let b ← second
    let fork ← addState 0
    let finish ← addState 0
    addBranch
    a.link
    addBranch
    b.link
    moreBranches rest
    return ⟨fork, finish, false⟩

/-- Zero or one time. -/
def optionalPiece (part : Construct Piece) : Construct Piece := do
  let fork ← addState 0
  let p ← part
  let finish ← addState 0
  addBranch
  addBranch
  p.link
  return ⟨fork, finish, false⟩

/-- At least `n` times. A part that takes no bytes is made optional around its loop, so
that an empty pass is never preferred. -/
def atLeastPiece (part : Construct Piece) (takesBytes : Bool) : Nat → Construct Piece
  | 0 =>
    if takesBytes then do
      let fork ← addState 0
      let p ← part
      addBranch
      p.link
      return ⟨fork, fork, true⟩
    else do
      let p ← part
      let _ ← addState 0
      p.link
      addBranch
      let fork ← addState 0
      let finish ← addState 0
      addBranch
      addBranch
      addBranch
      return ⟨fork, finish, false⟩
  | 1 => do
    let p ← part
    let loop ← addState 0
    p.link
    addBranch
    return ⟨p.start, loop, true⟩
  | n + 2 => do
    let front ← exactlyPiece part (n + 1)
    let last ← part
    let loop ← addState 0
    front.link
    last.link
    addBranch
    return ⟨front.start, loop, true⟩

/-- The optional copies of a bounded repetition, each forked to from the end of the one
before and able to skip to `finish`. -/
def optionalCopies (part : Construct Piece) : Nat → Piece → Construct Piece
  | 0, prev => pure prev
  | n + 1, prev => do
    let _ ← addState 0
    let p ← part
    prev.link
    addBranch
    addBranch
    optionalCopies part n p

/-- Between `lo` and `hi` times, `lo < hi`. -/
def boundedPiece (part : Construct Piece) (lo hi : Nat) : Construct Piece := do
  let front ← exactlyPiece part lo
  let finish ← addState 0
  let last ← optionalCopies part (hi - lo) front
  last.link
  return ⟨front.start, finish, false⟩

/-- A repetition. -/
def repetitionPiece (part : Construct Piece) (takesBytes : Bool) (lo : Nat) :
    Option Nat → Construct Piece
  | none => atLeastPiece part takesBytes lo
  | some hi =>
    if lo == 0 && hi == 1 then optionalPiece part
    else if lo == hi then exactlyPiece part lo
    else boundedPiece part lo hi

/-- A group: capture states around the part, forwards only. -/
def capturePiece (part : Construct Piece) : Construct Piece := do
  if (← get).backwards then part
  else
    let start ← addState 0
    let p ← part
    let finish ← addState 0
    p.link
    return ⟨start, finish, false⟩

/-! ### Sets beyond ASCII -/

/-- Makes a UTF-8 trie node a state, or finds the state already made for the same
transitions. -/
def cachedNode (transitions : Array (Nat × Nat × Nat)) : Construct Nat := do
  let key := transitions.toList.flatMap fun (a, b, n) => [a, b, n]
  let slot := fnvSlot key 10000
  match (← get).classCache.find? key slot with
  | some id => return id
  | none =>
    let id ← addState (8 * transitions.size)
    modify fun c => { c with classCache := c.classCache.store key slot id }
    return id

/-- Closes the open nodes after the first `keep + 1`, deepest first, each leading to the
state made for the one below it; the open transition of the last kept node then leads to
the last state made. -/
def closeOpen (keep : Nat) : Nat → Nat → Construct Unit
  | 0, next => modify fun c =>
      { c with pending := c.pending.modify (c.pending.size - 1) fun n => ⟨n.freeze next, none⟩ }
  | fuel + 1, next => do
    let c ← get
    if keep + 1 < c.pending.size then
      let node := c.pending.back?.getD default
      modify fun c => { c with pending := c.pending.pop }
      let id ← cachedNode (node.freeze next)
      closeOpen keep fuel id
    else closeOpen keep 0 next

/-- The number of leading open nodes whose open transition is the same byte range as the
sequence's at that depth. -/
def sharedOpen (pending : Array OpenNode) (seq : List (Nat × Nat)) : Nat :=
  ((seq.zip (pending.toList.take seq.length)).takeWhile fun (r, n) => n.last == some r).length

/-- Adds a byte-range sequence to the UTF-8 trie, closing the nodes it no longer shares. -/
def addSequence (target : Nat) (seq : List (Nat × Nat)) : Construct Unit := do
  let p := sharedOpen (← get).pending seq
  closeOpen p (← get).pending.size target
  match seq.drop p with
  | [] => pure ()
  | r :: rest => modify fun c =>
      { c with pending := (c.pending.modify (c.pending.size - 1) fun n => { n with last := some r })
          ++ (rest.map fun r => (⟨#[], some r⟩ : OpenNode)).toArray }

/-- A set beyond ASCII, forwards, given its UTF-8 sequences in order: the trie of the
sequences, merged from the end. -/
def forwardSetPiece (sequences : List (List (Nat × Nat))) : Construct Piece := do
  let target ← addState 0
  modify fun c => { c with classCache := c.classCache.clear, pending := #[⟨#[], none⟩] }
  for seq in sequences do
    addSequence target seq
  closeOpen 0 (← get).pending.size target
  let root := ((← get).pending[0]?.map (·.transitions)).getD #[]
  modify fun c => { c with pending := #[] }
  let start ← cachedNode root
  return ⟨start, target, false⟩

/-- A set beyond ASCII, backwards, given its UTF-8 sequences in order: a fork to each
sequence, read from its last byte, sharing the states of equal byte ranges that lead to
the same state. -/
def backwardSetPiece (sequences : List (List (Nat × Nat))) : Construct Piece := do
  modify fun c => { c with suffixCache := c.suffixCache.clear }
  let fork ← addState 0
  let finish ← addState 0
  for seq in sequences do
    let mut next := finish
    for (a, b) in seq do
      let key := [next, a, b]
      let slot := fnvSlot key 1000
      match (← get).suffixCache.find? key slot with
      | some id => next := id
      | none =>
        let id ← addState 0
        modify fun c => { c with suffixCache := c.suffixCache.store key slot id }
        next := id
    addBranch
  return ⟨fork, finish, false⟩

/-- A set of at least two characters. The UTF-8 sequences are spelt out once, however
often the set is built. -/
def setPiece (ranges : List (Nat × Nat)) : Construct Piece :=
  if ranges.all (·.2 ≤ 0x7F) then rangesPiece ranges.length
  else
    let sequences := ranges.flatMap fun (lo, hi) => utf8Sequences lo hi
    fun c => (if c.backwards then backwardSetPiece sequences else forwardSetPiece sequences) c

/-! ### Alternations of literals -/

/-- A node of a literal trie: its transitions (byte, child), sorted within each chunk, and
the chunks of transitions added before each match that ends here. -/
structure TrieNode where
  transitions : Array (Nat × Nat)
  chunks : Array (Nat × Nat)
  deriving Inhabited

/-- Where the transitions added since the last match start. -/
def TrieNode.activeStart (n : TrieNode) : Nat := (n.chunks.back?.map (·.2)).getD 0

/-- Records a match, unless one is recorded and nothing was added since. -/
def TrieNode.addMatch (n : TrieNode) : TrieNode :=
  if !n.chunks.isEmpty && n.activeStart == n.transitions.size then n
  else { n with chunks := n.chunks.push (n.activeStart, n.transitions.size) }

/-- The first place at or after `i` whose byte is not below `b`. -/
def insertionPoint (ts : Array (Nat × Nat)) (b : Nat) : Nat → Nat → Nat
  | 0, i => i
  | fuel + 1, i => match ts[i]? with
    | some (x, _) => if x < b then insertionPoint ts b fuel (i + 1) else i
    | none => i

/-- Adds the bytes of a literal to a trie, from node `node`. -/
def trieInsert (node : Nat) : List Nat → Array TrieNode → Array TrieNode
  | [], nodes => nodes.modify node TrieNode.addMatch
  | b :: rest, nodes =>
    let n := nodes[node]?.getD default
    let i := insertionPoint n.transitions b n.transitions.size n.activeStart
    match n.transitions[i]? with
    | some (x, child) =>
      if x == b then trieInsert child rest nodes
      else
        let child := nodes.size
        let n := { n with transitions := n.transitions.insertIdxIfInBounds i (b, child) }
        trieInsert child rest ((nodes.setIfInBounds node n).push default)
    | none =>
      let child := nodes.size
      let n := { n with transitions := n.transitions.push (b, child) }
      trieInsert child rest ((nodes.setIfInBounds node n).push default)

/-- The chunks of a node: those before each match, then the transitions added since. -/
def TrieNode.chunkList (n : TrieNode) : List (List (Nat × Nat)) :=
  n.chunks.toList.map (fun (a, b) => (n.transitions.extract a b).toList) ++
    [(n.transitions.extract n.activeStart n.transitions.size).toList]

/-- Builds the states of a trie node, depth first: the nodes below each chunk, then a state
for the chunk (a plain byte test for one transition), then a fork over the chunks, with a
branch to the end between chunks. Returns the fork. -/
def trieStates (nodes : Array TrieNode) : Nat → Nat → Construct Nat
  | 0, _ => addState 0
  | fuel + 1, id => do
    let node := nodes[id]?.getD default
    let mut branches := 0
    let mut firstChunk := true
    for chunk in node.chunkList do
      if !firstChunk then branches := branches + 1
      firstChunk := false
      for (_, child) in chunk do
        if !(nodes[child]?.getD default).transitions.isEmpty then
          let _ ← trieStates nodes fuel child
      if chunk.length == 1 then
        let _ ← addState 0
        branches := branches + 1
      else if chunk.length > 1 then
        let _ ← addState (8 * chunk.length)
        branches := branches + 1
    addState (4 * branches)

/-- An alternation of literals as a trie of their bytes (read from the end when
backwards), with an empty state for the end. -/
def literalTriePiece (literals : List (List Nat)) : Construct Piece := do
  let backwards := (← get).backwards
  let nodes := literals.foldl (fun nodes bytes =>
    trieInsert 0 (if backwards then bytes.reverse else bytes) nodes) #[default]
  let finish ← addState 0
  let start ← trieStates nodes nodes.size 0
  return ⟨start, finish, false⟩

/-- The bytes of a literal branch. -/
def Shape.literalBytes? : Shape → Option (List Nat)
  | .literal bytes => some bytes
  | _ => none

mutual
/-- Builds the states of a shape. -/
def Shape.build : Shape → Construct Piece
  | .empty => plainPiece
  | .literal bytes => literalPiece bytes.length
  | .chars ranges => setPiece ranges
  | .fail => rangesPiece 0
  | .look _ _ => plainPiece
  | .repetition lo hi sub =>
    repetitionPiece sub.build (sub.minLen.any (· > 0)) lo hi
  | .capture _ sub => capturePiece sub.build
  | .concat subs => sequencePiece (Shape.buildAll subs)
  | .alt subs =>
    match subs.mapM Shape.literalBytes? with
    | some literals =>
      if literals.length ≥ 2 then literalTriePiece literals
      else alternativesPiece (Shape.buildAll subs)
    | none => alternativesPiece (Shape.buildAll subs)

/-- The builds of shapes, in order. -/
def Shape.buildAll : List Shape → List (Construct Piece)
  | [] => []
  | s :: rest => s.build :: Shape.buildAll rest
end

/-- The whole automaton: the loop over any byte unless anchored, the pattern (in capture
states forwards) and the accepting state. -/
def Shape.automaton (s : Shape) : Construct Unit := do
  let backwards := (← get).backwards
  let anchored := if backwards then s.endsAtEnd else s.startsAtStart
  let loop ← if anchored then plainPiece else do
    let fork ← addState 0
    let _ ← addState 0
    let _ ← addState 8
    addBranch
    pure ⟨fork, fork, true⟩
  let body ← capturePiece s.build
  let _ ← addState 0
  body.link
  loop.link

/-- The bytes the automaton of a shape takes in one direction; none when it passes the
size limit. -/
def Shape.automatonBytes (s : Shape) (backwards : Bool) : Option Nat :=
  match s.automaton.run (Construction.new backwards) with
  | .ok _ c => some c.bytes
  | .error _ _ => none

/-- Whether both automata of an expression stay within the size limit. -/
def Expr.fitsSizeLimit (e : Expr) : Bool :=
  let s := Shape.ofExpr e
  (s.automatonBytes false).isSome && (s.automatonBytes true).isSome

end HttpCheck.Regex
