import HttpCheck.Json.Print
/-!
# Reporters

A pipeline talks to a test through a reporter: it reports failures, asks to abort the
test, and marks that a helper is running. The pipeline's side is a list of events; a
reporter is what folds them.

A recording reporter keeps every message and counts aborts and helper marks. A test
reporter keeps the failures it has not yet raised: aborting takes them all and raises
a summary (`name: n failure(s) reported` and one line `  - failure` each), and so does
dropping the reporter while some remain.
-/
namespace HttpCheck.Pipeline

/-- What a pipeline tells its reporter. -/
inductive ReportEvent where
  | failure (message : String)
  | abort
  | helper
  deriving DecidableEq, Repr, Inhabited

/-- A reporter that records everything. -/
structure Recording where
  messages : List String
  aborts : Nat
  helperCalls : Nat
  deriving DecidableEq, Repr, Inhabited

namespace Recording

/-- Nothing recorded. -/
def empty : Recording := ⟨[], 0, 0⟩

/-- Records one event. -/
def record (r : Recording) : ReportEvent → Recording
  | .failure m => { r with messages := r.messages ++ [m] }
  | .abort => { r with aborts := r.aborts + 1 }
  | .helper => { r with helperCalls := r.helperCalls + 1 }

/-- Records events in order. -/
def recordAll (r : Recording) (es : List ReportEvent) : Recording := es.foldl record r

/-- How many failures were reported. -/
def failureCount (r : Recording) : Nat := r.messages.length

/-- Whether the test was aborted. -/
def aborted (r : Recording) : Bool := r.aborts > 0

end Recording

/-- A reporter for a test harness: the failures not yet raised. -/
structure TestReporter where
  name : Option String
  failures : List String
  deriving DecidableEq, Repr, Inhabited

namespace TestReporter

/-- A fresh reporter. -/
def new (name : Option String) : TestReporter := ⟨name, []⟩

/-- The summary raised for some failures. -/
def summary (r : TestReporter) (failures : List String) : String :=
  let header := match r.name with
    | some n => n ++ ": " ++ natText failures.length ++ " failure(s) reported"
    | none => natText failures.length ++ " failure(s) reported"
  header ++ String.join (failures.map fun f => "\n  - " ++ f)

/-- Whether some failure is pending. -/
def failed (r : TestReporter) : Bool := !r.failures.isEmpty

/-- Keeps a failure. -/
def report (r : TestReporter) (message : String) : TestReporter :=
  { r with failures := r.failures ++ [message] }

/-- Aborting: the failures are taken and the summary is raised. -/
def abort (r : TestReporter) : TestReporter × String :=
  ({ r with failures := [] }, r.summary r.failures)

/-- Dropping: the summary is raised when failures are pending. -/
def drop (r : TestReporter) : Option String :=
  if r.failures.isEmpty then none else some (r.summary r.failures)

/-- Folds events until one raises: the reporter after them and what was raised. -/
def receive (r : TestReporter) : List ReportEvent → TestReporter × Option String
  | [] => (r, none)
  | .failure m :: rest => (r.report m).receive rest
  | .abort :: _ => let (r', p) := r.abort; (r', some p)
  | .helper :: rest => r.receive rest

end TestReporter
end HttpCheck.Pipeline
