import HttpCheck.Regex.Expr
import HttpCheck.Text.Utf8
/-!
# Automata

An expression becomes a nondeterministic automaton over characters, built from the
end backwards: each part is built knowing where to go after it, so no step ever has
to be patched but the one that closes a loop. Step 0 accepts.

Matching runs all paths at once. At each place in the text the set of live steps is
closed under the steps that take no character (forks, and assertions that hold
there); the search is unanchored, so the first step joins the set at every place. A
match exists as soon as the accepting step is live. The steps reached at a place are
marked with the place's stamp in one array kept across the whole text, so the work at
a place is bounded by the steps it reaches, not by the size of the automaton; each
character set is kept as a sorted array of ranges, searched by bisection.
-/
namespace HttpCheck.Regex

open HttpCheck.Unicode

/-- A step of an automaton. -/
inductive Step where
  /-- Takes one character of the set, given by its sorted ranges. -/
  | chars (ranges : Array (Nat × Nat)) (next : Nat)
  /-- Goes on, taking nothing, where the assertion holds. -/
  | look (l : Look) (next : Nat)
  /-- Goes on to every target, taking nothing. -/
  | fork (targets : List Nat)
  /-- A match. -/
  | accept
  deriving Inhabited

/-- An automaton: its steps and where it starts. -/
structure Automaton where
  steps : Array Step
  start : Nat

/-- Building steps. -/
abbrev Build := StateM (Array Step)

/-- Adds a step; its index. -/
def emit (s : Step) : Build Nat := modifyGet fun a => (a.size, a.push s)

/-- Builds `n` times in a row, each time in front of the last. -/
def buildTimes (f : Nat → Build Nat) : Nat → Nat → Build Nat
  | 0, next => pure next
  | n + 1, next => do buildTimes f n (← f next)

mutual
/-- Builds an expression in front of `next`; its first step. -/
def build : Expr → Nat → Build Nat
  | .empty, next => pure next
  | .chars s, next => emit (.chars s.ranges.toArray next)
  | .look l, next => emit (.look l next)
  | .group e, next => build e next
  | .concat es, next => buildSeq es next
  | .alt es, next => do emit (.fork (← buildEach es next))
  | .repetition lo hi e, next => do
    let tail ← match hi with
      | some m => buildTimes (fun t => do emit (.fork [← build e t, next])) (m - lo) next
      | none => do
        let loop ← emit (.fork [])
        let body ← build e loop
        modify fun a => a.setIfInBounds loop (.fork [body, next])
        pure loop
    buildTimes (fun t => build e t) lo tail

/-- Builds a sequence in front of `next`. -/
def buildSeq : List Expr → Nat → Build Nat
  | [], next => pure next
  | e :: rest, next => do build e (← buildSeq rest next)

/-- Builds each alternative in front of `next`. -/
def buildEach : List Expr → Nat → Build (List Nat)
  | [], _ => pure []
  | e :: rest, next => do
    let first ← build e next
    return first :: (← buildEach rest next)
end

/-- The automaton of an expression. -/
def Automaton.ofExpr (e : Expr) : Automaton :=
  let (start, steps) := (build e 0).run #[.accept]
  ⟨steps, start⟩

/-- Whether a step takes the character `c`, and where it goes then. -/
def Step.take? (s : Step) (c : Char) : Option Nat :=
  match s with
  | .chars rs next => if RangeTable.containsIn rs c.toNat 0 rs.size then some next else none
  | _ => none

/-- The steps reached at one place: `reached` lists them, and a step is marked when its
entry in `stamps` is `stamp`. -/
structure Reach where
  stamps : Array Nat
  stamp : Nat
  reached : List Nat

/-- Whether the step `i` is marked. -/
def Reach.marked (r : Reach) (i : Nat) : Bool := r.stamps.getD i r.stamp == r.stamp

/-- Marks the unmarked steps among `targets` and puts them on the stack. -/
def Reach.pushNew (r : Reach) (targets stack : List Nat) : Reach × List Nat :=
  targets.foldl (fun (acc : Reach × List Nat) t =>
    if acc.1.marked t then acc
    else ({ acc.1 with stamps := acc.1.stamps.setIfInBounds t acc.1.stamp,
                       reached := t :: acc.1.reached }, t :: acc.2)) (r, stack)

/-- The steps reachable from the stack without taking a character, between `before`
and `after`. Every step is marked once, so the size of the automaton bounds the work. -/
def Automaton.close (a : Automaton) (before after : Option Char) :
    Nat → List Nat → Reach → Reach
  | 0, _, r => r
  | _, [], r => r
  | fuel + 1, i :: rest, r =>
    match a.steps[i]? with
    | some (.look l next) =>
      if l.holds before after then
        let (r, stack) := r.pushNew [next] rest
        a.close before after fuel stack r
      else a.close before after fuel rest r
    | some (.fork ts) =>
      let (r, stack) := r.pushNew ts rest
      a.close before after fuel stack r
    | _ => a.close before after fuel rest r

/-- The steps live at a place, under a new stamp: the closure of the first step and of
`current`. -/
def Automaton.liveAt (a : Automaton) (before after : Option Char) (current : List Nat)
    (r : Reach) : Reach :=
  let fresh : Reach := { r with stamp := r.stamp + 1, reached := [] }
  let (r, stack) := fresh.pushNew (a.start :: current) []
  a.close before after (a.steps.size + 1) stack r

/-- The steps live after taking `c` from the reached steps. -/
def Automaton.advance (a : Automaton) (r : Reach) (c : Char) : List Nat :=
  r.reached.filterMap fun i => (a.steps[i]?).bind (·.take? c)

/-- Whether a match ends at or after the current place; `current` are the steps live on
entry, and `r` carries the marks of the place before. -/
def Automaton.search (a : Automaton) (before : Option Char) (current : List Nat)
    (r : Reach) : List Char → Bool
  | [] => (a.liveAt before none current r).marked 0
  | c :: rest =>
    let live := a.liveAt before (some c) current r
    live.marked 0 || a.search (some c) (a.advance live c) live rest

/-- Whether the automaton matches somewhere in a text. -/
def Automaton.isMatch (a : Automaton) (text : String) : Bool :=
  a.search none [] ⟨Array.replicate a.steps.size 0, 0, []⟩ text.toList

end HttpCheck.Regex
