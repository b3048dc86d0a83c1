import HttpCheck.Http.Message
/-!
# Executor configuration

The settings an executor is made from: the user agent it announces, a default
deadline in whole milliseconds, how many redirects it follows and how large a response
body it reads. Settings that are not given take their defaults.
-/
namespace HttpCheck.Executor

/-- The largest response body read by default: 16 MiB. -/
def defaultBodyLimit : Nat := 16 * 1024 * 1024

/-- How many redirects are followed by default. -/
def defaultMaxRedirects : Nat := 10

/-- The user agent announced by default. -/
def defaultUserAgent : String := "httpx/0.1.0"

/-- Executor settings. -/
structure ExecutorConfig where
  userAgent : String
  timeoutMs : Option Nat
  maxRedirects : Nat
  bodyLimit : Nat
  deriving DecidableEq, Repr, Inhabited

/-- The defaults: the package's user agent, no deadline, 10 redirects, 16 MiB. -/
def ExecutorConfig.default : ExecutorConfig :=
  ⟨defaultUserAgent, none, defaultMaxRedirects, defaultBodyLimit⟩

/-- The default deadline as a span of time. -/
def ExecutorConfig.timeout (c : ExecutorConfig) : Option Http.Duration :=
  c.timeoutMs.map Http.Duration.ofMillis

end HttpCheck.Executor
