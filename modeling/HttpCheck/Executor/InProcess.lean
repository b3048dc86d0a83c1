import HttpCheck.Executor.Config
import HttpCheck.Pipeline.Assertable
/-!
# In-process execution

An executor that hands the request to a service in the same process, without a socket.
Time is virtual: a sleep ends at once, and only the order of events on the clock counts.
The clock moves in whole milliseconds. A service ends its work on a request at some time
(reading the response body included), or never, and ends with a response, an error or a
panic. The executor is three layers around the service:

* the call turns how the service ended into a response or an execution error: a panic
  with its text (`unknown panic payload` when it has none), an error with its message,
  a body longer than the limit refused while it is read;
* the deadline, the request's own, else the executor's default, bounds the call; its
  timer fires at the first whole millisecond the deadline reaches, and the call is looked
  at first, so a service that ends exactly then is in time; a timeout reports the
  deadline's whole milliseconds, the largest 64-bit number standing for any longer;
* a request already cancelled is answered `cancelled` before the call is looked at.
-/
namespace HttpCheck.Executor

open HttpCheck.Http HttpCheck.Pipeline

/-- A value ready at a time on the clock (milliseconds from the start), or never. -/
inductive Timed (α : Type) where
  | ready (ms : Nat) (value : α)
  | never
  deriving Inhabited

namespace Timed

variable {α β : Type}

/-- The value transformed, ready at the same time. -/
def map (f : α → β) : Timed α → Timed β
  | ready t a => ready t (f a)
  | never => never

/-- Waits at most `limit`: the value when it is ready by then, else `late` at `limit`.
The value is looked at before the clock, so a value ready at the limit is kept. -/
def timeout (limit : Nat) (late : α) : Timed α → Timed α
  | ready t a => if t ≤ limit then ready t a else ready limit late
  | never => ready limit late

/-- The earlier of two values, the first one on a tie. -/
def first : Timed α → Timed α → Timed α
  | ready s a, ready t b => if s ≤ t then ready s a else ready t b
  | ready s a, never => ready s a
  | never, y => y

/-- Whether the value is ready by `ms`. -/
def readyBy : Timed α → Nat → Bool
  | ready t _, ms => t ≤ ms
  | never, _ => false

/-- What waiting for the value gives: nothing when it never comes. -/
def value? : Timed α → Option α
  | ready _ a => some a
  | never => none

@[simp] theorem map_ready (f : α → β) (t : Nat) (a : α) : (ready t a).map f = ready t (f a) := rfl
@[simp] theorem map_never (f : α → β) : (never : Timed α).map f = never := rfl
@[simp] theorem never_first (y : Timed α) : never.first y = y := rfl
@[simp] theorem ready_zero_first (a : α) (y : Timed α) : (ready 0 a).first y = ready 0 a := by
  cases y <;> simp [first]
@[simp] theorem readyBy_ready (t ms : Nat) (a : α) : (ready t a).readyBy ms = decide (t ≤ ms) := rfl
@[simp] theorem readyBy_never (ms : Nat) : (never : Timed α).readyBy ms = false := rfl
@[simp] theorem value?_ready (t : Nat) (a : α) : (ready t a).value? = some a := rfl
@[simp] theorem value?_never : (never : Timed α).value? = none := rfl

end Timed

/-- How a service's work on a request ends. -/
inductive ServiceEnd where
  /-- With a response. -/
  | respond (response : Response)
  /-- With an error. -/
  | fail (message : String)
  /-- With a panic whose payload is a text. -/
  | panicText (message : String)
  /-- With a panic whose payload is not a text. -/
  | panicOther
  deriving Inhabited

/-- A service: when and how its work on each request ends. -/
abbrev Service := Request → Timed ServiceEnd

/-- An executor over an in-process service. -/
structure HandlerExecutor where
  service : Service
  bodyLimit : Nat
  defaultTimeout : Option Duration

namespace HandlerExecutor

/-- An executor with the default body limit and no default deadline. -/
def new (service : Service) : HandlerExecutor := ⟨service, defaultBodyLimit, none⟩

/-- Takes the body limit and the deadline of a configuration. -/
def withConfig (h : HandlerExecutor) (c : ExecutorConfig) : HandlerExecutor :=
  { h with bodyLimit := c.bodyLimit, defaultTimeout := c.timeout }

/-- Sets the body limit. -/
def withBodyLimit (h : HandlerExecutor) (limit : Nat) : HandlerExecutor :=
  { h with bodyLimit := limit }

/-- The message of a body over the limit. -/
def lengthLimitExceeded : String := "length limit exceeded"

/-- What the call gives once the service has ended, the body read under `bodyLimit`. -/
def settle (bodyLimit : Nat) : ServiceEnd → Except ExecuteError Response
  | .panicText m => .error (.handlerPanicked m)
  | .panicOther => .error (.handlerPanicked "unknown panic payload")
  | .fail m => .error (.handler m)
  | .respond resp =>
    if resp.body.length > bodyLimit then .error (.body lengthLimitExceeded) else .ok resp

/-- The deadline of a request: its own, else the executor's default. -/
def deadline (h : HandlerExecutor) (req : Request) : Option Duration :=
  req.context.timeout.orElse fun _ => h.defaultTimeout

/-- The call to the service, bounded by the deadline when there is one. -/
def call (h : HandlerExecutor) (req : Request) : Timed (Except ExecuteError Response) :=
  let reply := (h.service req).map (settle h.bodyLimit)
  match h.deadline req with
  | some limit => reply.timeout limit.ceilMillis (.error (.timeout limit.millisU64))
  | none => reply

/-- The cancellation of a request: at once when it is already cancelled, else never. -/
def cancellation (ctx : RequestContext) : Timed (Except ExecuteError Response) :=
  if ctx.cancelled then .ready 0 (.error .cancelled) else .never

/-- Executes a request: the cancellation is looked at first, then the call. -/
def execute (h : HandlerExecutor) (req : Request) : Timed (Except ExecuteError Response) :=
  (cancellation req.context).first (h.call req)

/-- A cancelled request is answered at once. -/
theorem execute_cancelled (h : HandlerExecutor) (req : Request)
    (hc : req.context.cancelled = true) : h.execute req = .ready 0 (.error .cancelled) := by
  simp only [execute, cancellation, hc, if_true, Timed.ready_zero_first]

end HandlerExecutor
end HttpCheck.Executor
