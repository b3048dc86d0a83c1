import HttpCheck.Json.Value
import HttpCheck.Text.Blank
/-!
# JSON paths

A path names a place in a document: `$` is the whole document, `.name` a member of an
object, `[n]` an item of an array, and a final `[*]` the array itself. A name runs to
the next `.` or `[`, so it may hold blanks, `]` or `*`; an index is a decimal natural
below `2 ^ 64`, possibly with a leading `+`. Blanks around the whole path are ignored.
A step that does not fit the value it is applied to finds nothing.
-/
namespace HttpCheck

/-- One step of a path. -/
inductive PathStep where
  /-- The member of an object with this name. -/
  | member (name : String)
  /-- The item of an array at this index. -/
  | item (index : Nat)
  /-- The array itself. -/
  | all
  deriving DecidableEq, Repr, Inhabited

namespace PathStep

/-- Whether a text is a decimal index below `2 ^ 64`, with an optional leading `+`. -/
def parseIndex (s : String) : Option Nat :=
  let digits := match s.toList with
    | '+' :: rest => rest
    | cs => cs
  if digits.isEmpty || !digits.all Char.isDigit then none
  else
    let n := digits.foldl (fun n c => 10 * n + (c.toNat - '0'.toNat)) 0
    if n < Nat.pow 2 64 then some n else none

/-- A prefix taken while a test holds is no longer than the list. -/
theorem takeWhile_length_le {α : Type} (p : α → Bool) (l : List α) :
    (l.takeWhile p).length ≤ l.length := by
  have h := congrArg List.length (List.takeWhile_append_dropWhile (p := p) (l := l))
  simp only [List.length_append] at h
  omega

/-- The steps written in `cs`, the text after the `$` of `path`. -/
def readSteps (path : String) : List Char → Except String (List PathStep)
  | [] => .ok []
  | '.' :: after =>
    let name := after.takeWhile fun c => c != '.' && c != '['
    if name.isEmpty then .error ("empty member name in '" ++ path ++ "'")
    else do
      let rest ← readSteps path (after.drop name.length)
      .ok (.member (String.ofList name) :: rest)
  | '[' :: after =>
    let inside := after.takeWhile (· != ']')
    if inside.length = after.length then .error ("unclosed bracket in '" ++ path ++ "'")
    else do
      let step ← if inside = ['*'] then .ok PathStep.all
        else match parseIndex (String.ofList inside) with
          | some n => .ok (.item n)
          | none => .error ("invalid array index: " ++ String.ofList inside)
      let rest ← readSteps path (after.drop (inside.length + 1))
      .ok (step :: rest)
  | cs => .error ("unexpected '" ++ String.ofList cs ++ "' in '" ++ path ++ "'")
termination_by cs => cs.length
decreasing_by
  all_goals simp only [List.length_drop, List.length_cons]
  all_goals
    have := takeWhile_length_le (fun c => c != '.' && c != '[') after
    have := takeWhile_length_le (· != ']') after
    omega

end PathStep

/-- The steps of a path, or what is wrong with it. -/
def tokenizePath (path : String) : Except String (List PathStep) :=
  match Blank.trimChars path.toList with
  | '$' :: rest =>
    match PathStep.readSteps path rest with
    | .error e => .error e
    | .ok steps =>
      match steps.findIdx? (· == .all) with
      | some i =>
        if i + 1 != steps.length then .error "wildcard must be the last path element"
        else .ok steps
      | none => .ok steps
  | _ => .error "JSON path must start with '$'"

namespace Json

/-- The value a step leads to. -/
def step (v : Json) : PathStep → Option Json
  | .member name => match v with
    | .object ms => lookup name ms
    | _ => none
  | .item i => match v with
    | .array xs => xs[i]?
    | _ => none
  | .all => match v with
    | .array _ => some v
    | _ => none

/-- The value steps lead to, one after another. -/
def follow (v : Json) : List PathStep → Option Json
  | [] => some v
  | s :: rest => (v.step s).bind fun w => follow w rest

end Json
end HttpCheck
