import HttpCheck.Http.Message
import HttpCheck.Json.Print
/-!
# Status expectations

An expectation on a status code: one exact code, an inclusive range (empty when its
low end is above its high end), or a list of codes. The default expects any success,
the range 200 to 299. Written as text: `201`, `in 200-299`, `in [200, 204]`.
-/
namespace HttpCheck.Check

open HttpCheck.Http

/-- An expectation on a status code. -/
inductive StatusExpectation where
  | exact (code : Nat)
  | range (low high : Nat)
  | oneOf (codes : List Nat)
  deriving DecidableEq, Repr

namespace StatusExpectation

/-- Any success status. -/
def success : StatusExpectation := .range 200 299

/-- The default expectation is any success. -/
instance : Inhabited StatusExpectation := ⟨success⟩

/-- A status code converted to an expectation: exactly that code. -/
def ofStatusCode (s : StatusCode) : StatusExpectation := .exact s.code

/-- Whether a status meets the expectation. -/
def accepts (e : StatusExpectation) (s : Nat) : Bool :=
  match e with
  | .exact c => s == c
  | .range lo hi => lo ≤ s && s ≤ hi
  | .oneOf cs => cs.contains s

/-- The text of an expectation. -/
def text : StatusExpectation → String
  | .exact c => natText c
  | .range lo hi => "in " ++ natText lo ++ "-" ++ natText hi
  | .oneOf cs => "in [" ++ ", ".intercalate (cs.map natText) ++ "]"

@[simp] theorem accepts_exact (c s : Nat) : (exact c).accepts s = (s == c) := rfl

end StatusExpectation
end HttpCheck.Check
