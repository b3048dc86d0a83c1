import HttpCheck.Check.Error
import HttpCheck.Http.Message
/-!
# Builders and assertions

A builder is a named change to a request held in place, which may fail, also after it
has written; an assertion is a named check of a response that may fail. The name is what
failure messages show. Shown as text a step is its name; in structural form it is
`RequestBuilder("name")` or `Assertion("name")` with the name quoted.

A builder may check everything before it writes (`Builder.checked`): it computes the
whole new request or fails, so its failure leaves the request as it was.
-/
namespace HttpCheck.Check

open HttpCheck.Http

/-- A named change to a request held in place: the request as the change left it, and
whether the change succeeded. -/
structure Builder where
  name : String
  apply : Request → Request × Except Failure Unit

/-- A named check of a response. -/
structure Assertion where
  name : String
  check : Response → Except Failure Unit

namespace Builder

/-- The text of a builder: its name. -/
def display (b : Builder) : String := b.name

/-- The structural form of a builder. -/
def debug (b : Builder) : String := "RequestBuilder(" ++ Quoted.literal b.name ++ ")"

/-- A builder that checks before it writes: `change` gives the whole new request or fails,
and the request is written only when it succeeded. -/
def checked (name : String) (change : Request → Except Failure Request) : Builder :=
  ⟨name, fun req =>
    match change req with
    | .ok req' => (req', .ok ())
    | .error e => (req, .error e)⟩

section Checked

variable {name : String} {change : Request → Except Failure Request} {req q : Request}

theorem checked_apply_of_ok (h : change req = .ok q) :
    (checked name change).apply req = (q, .ok ()) := by
  simp only [checked, h]

theorem checked_apply_of_error {e : Failure} (h : change req = .error e) :
    (checked name change).apply req = (req, .error e) := by
  simp only [checked, h]

theorem checked_apply_eq_ok_iff :
    (checked name change).apply req = (q, .ok ()) ↔ change req = .ok q := by
  cases h : change req <;> simp [checked, h, eq_comm]

/-- A checked builder fails exactly when its change fails, and leaves the request as it was. -/
theorem checked_apply_eq_error_iff {e : Failure} :
    (checked name change).apply req = (q, .error e) ↔ q = req ∧ change req = .error e := by
  cases h : change req <;> simp [checked, h, eq_comm]

end Checked

end Builder

namespace Assertion

/-- The text of an assertion: its name. -/
def display (a : Assertion) : String := a.name

/-- The structural form of an assertion. -/
def debug (a : Assertion) : String := "Assertion(" ++ Quoted.literal a.name ++ ")"

end Assertion
end HttpCheck.Check
