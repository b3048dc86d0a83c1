import HttpCheck.Check.Step
/-!
# Pipeline errors

Why a pipeline stopped before its assertions: the request could not be created, a
builder failed, or the executor failed. An executor fails for one of a fixed set of
causes. Each error has its words (`message`) and its structural form (`debug`).
-/
namespace HttpCheck.Pipeline

open HttpCheck.Http HttpCheck.Check

/-- Why an executor did not produce a response. -/
inductive ExecuteError where
  | invalidRequest (message : String)
  | timeout (ms : Nat)
  | cancelled
  | dnsError (host message : String)
  | connectionRefused (host : String) (port : Nat)
  | connectionFailed (message : String)
  | tooManyRedirects (max : Nat)
  | handler (message : String)
  | handlerPanicked (message : String)
  | body (message : String)
  | other (message : String)
  deriving DecidableEq, Repr, Inhabited

namespace ExecuteError

/-- The words for an execution error. -/
def message : ExecuteError → String
  | .invalidRequest m => "invalid request: " ++ m
  | .timeout ms => "request timed out after " ++ natText ms ++ "ms"
  | .cancelled => "request cancelled"
  | .dnsError h m => "DNS resolution failed for " ++ h ++ ": " ++ m
  | .connectionRefused h p => "connection refused by " ++ h ++ ":" ++ natText p
  | .connectionFailed m => "connection failed: " ++ m
  | .tooManyRedirects n => "too many redirects (max " ++ natText n ++ ")"
  | .handler m => "handler error: " ++ m
  | .handlerPanicked m => "handler panicked: " ++ m
  | .body m => "failed to read response body: " ++ m
  | .other m => m

/-- The structural form of an execution error. -/
def debug : ExecuteError → String
  | .invalidRequest m => "InvalidRequest(" ++ Quoted.literal m ++ ")"
  | .timeout ms => recordForm "Timeout" [("timeout_ms", natText ms)]
  | .cancelled => "Cancelled"
  | .dnsError h m => recordForm "DnsError" [("host", Quoted.literal h), ("message", Quoted.literal m)]
  | .connectionRefused h p =>
    recordForm "ConnectionRefused" [("host", Quoted.literal h), ("port", natText p)]
  | .connectionFailed m => "ConnectionFailed(" ++ Quoted.literal m ++ ")"
  | .tooManyRedirects n => recordForm "TooManyRedirects" [("max", natText n)]
  | .handler m => "Handler(" ++ Quoted.literal m ++ ")"
  | .handlerPanicked m => "HandlerPanicked(" ++ Quoted.literal m ++ ")"
  | .body m => "Body(" ++ Quoted.literal m ++ ")"
  | .other m => "Other(" ++ Quoted.literal m ++ ")"

end ExecuteError

/-- Why a pipeline stopped before its assertions. -/
inductive PipelineError where
  | construction (e : RequestError)
  | builder (name : String) (source : Failure)
  | execute (e : ExecuteError)
  deriving DecidableEq, Repr, Inhabited

namespace PipelineError

/-- The words for a pipeline error. -/
def message : PipelineError → String
  | .construction e => "failed to create request: " ++ e.message
  | .builder n s => n ++ " failed: " ++ s.message
  | .execute e => "failed to execute request: " ++ e.message

/-- The structural form of a pipeline error. -/
def debug : PipelineError → String
  | .construction e => "Construction(" ++ e.debug ++ ")"
  | .builder n s => recordForm "Builder" [("builder", Quoted.literal n), ("source", s.debug)]
  | .execute e => "Execute(" ++ e.debug ++ ")"

end PipelineError

/-- A failed assertion: its name and what it reported. -/
structure AssertionFailure where
  assertion : String
  source : Failure
  deriving DecidableEq, Repr, Inhabited

/-- `assertion <name> failed: <error>`. -/
def AssertionFailure.message (f : AssertionFailure) : String :=
  "assertion " ++ f.assertion ++ " failed: " ++ f.source.message

end HttpCheck.Pipeline
