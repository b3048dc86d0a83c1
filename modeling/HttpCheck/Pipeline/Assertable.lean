import HttpCheck.Pipeline.Apply
import HttpCheck.Pipeline.Reporter
/-!
# Making requests

A pipeline creates a request from a method and a target, applies the builders, and
hands the request to its executor. What comes back is an *assertable*: the response,
or the error that stopped the pipeline (the assertable is then *poisoned*).

Invoking an assertable with assertions reports each failed assertion; a poisoned one
instead reports its error once per invocation and aborts the test. A poisoned
assertable that is dropped without ever being invoked still reports its error, so
that no failure goes unseen. Taking the result out of an assertable consumes it
without reporting anything.

Everything said to the reporter is returned as a list of events, in order; the
reporter folds them.
-/
namespace HttpCheck.Pipeline

open HttpCheck.Http HttpCheck.Check

/-- An executor: from a request to a response or the reason there is none. -/
abbrev Executor := Request → Except ExecuteError Response

/-- The request a pipeline hands to its executor. -/
def prepare (method uri : Bytes) (builders : List Builder) : Except PipelineError Request := do
  let req ← (Request.new method uri).mapError .construction
  applyBuilders req builders

/-- Runs a pipeline up to the response. -/
def run (exec : Executor) (method uri : Bytes) (builders : List Builder) :
    Except PipelineError Response := do
  let req ← prepare method uri builders
  (exec req).mapError .execute

/-- What making a request ended in. -/
inductive Outcome where
  | ready (response : Response)
  | poisoned (error : PipelineError)
  deriving DecidableEq, Repr, Inhabited

/-- The result of making a request, waiting for its assertions. -/
structure Assertable where
  outcome : Outcome
  invoked : Bool
  deriving DecidableEq, Repr, Inhabited

/-- The message a failure is reported with. -/
def reportText (message : String) : String := "httpx: " ++ message

/-- Makes a request: the assertable, and what the reporter was told (that a helper
runs). -/
def makeRequest (exec : Executor) (method uri : Bytes) (builders : List Builder) :
    Assertable × List ReportEvent :=
  let outcome := match run exec method uri builders with
    | .ok r => Outcome.ready r
    | .error e => .poisoned e
  (⟨outcome, false⟩, [.helper])

namespace Assertable

/-- Runs assertions: each failure is reported; a poisoned assertable reports its error
and aborts the test. -/
def expectIt (a : Assertable) (assertions : List Assertion) : Assertable × List ReportEvent :=
  let events := match a.outcome with
    | .ready r => (applyAssertions r assertions).map fun f => ReportEvent.failure (reportText f.message)
    | .poisoned e => [.failure (reportText e.message), .abort]
  ({ a with invoked := true }, .helper :: events)

/-- What dropping reports: the error of a poisoned assertable never invoked. -/
def drop (a : Assertable) : List ReportEvent :=
  match a.outcome with
  | .poisoned e => if a.invoked then [] else [.failure (reportText e.message)]
  | .ready _ => []

/-- The response or the error, consuming the assertable without a report. -/
def intoResult (a : Assertable) : Except PipelineError Response :=
  match a.outcome with
  | .ready r => .ok r
  | .poisoned e => .error e

/-- The response, when there is one. -/
def response? (a : Assertable) : Option Response :=
  match a.outcome with
  | .ready r => some r
  | .poisoned _ => none

/-- The error, when poisoned. -/
def error? (a : Assertable) : Option PipelineError :=
  match a.outcome with
  | .ready _ => none
  | .poisoned e => some e

/-- Whether the pipeline stopped before a response. -/
def isPoisoned (a : Assertable) : Bool := a.error?.isSome

/-- The structural form: the status, or the error. -/
def debug (a : Assertable) : String :=
  match a.outcome with
  | .ready r => "Assertable \x7b status: " ++ natText r.status.code ++ ", .. \x7d"
  | .poisoned e => "Assertable \x7b error: " ++ e.debug ++ ", .. \x7d"

end Assertable

/-- The structural form of a pipeline, given that of its executor. -/
def pipelineDebug (executorDebug : String) : String :=
  "Pipeline \x7b executor: " ++ executorDebug ++ " \x7d"

/-- The structural form of an executor given as a function. -/
def execFnDebug : String := "ExecFn \x7b .. \x7d"

/-- Invoking a ready assertable never aborts. -/
theorem expectIt_ready_no_abort (r : Response) (inv : Bool) (assertions : List Assertion) :
    ReportEvent.abort ∉ (Assertable.expectIt ⟨.ready r, inv⟩ assertions).2 := by
  simp [Assertable.expectIt]

end HttpCheck.Pipeline
