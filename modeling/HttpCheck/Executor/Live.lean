import HttpCheck.Http.Url
import HttpCheck.Text.Base64
import HttpCheck.Executor.Config
import HttpCheck.Pipeline.Assertable
/-!
# Network execution

An executor that sends the request over a network *transport*. The request's target
is read as an absolute URL; then, in this order:

* a target that is not an absolute URL is an invalid request (`builder error: ` and
  why);
* a cancelled request is answered `cancelled` without being sent;
* the user name and password of the URL are also given as basic credentials (unless the
  request has its own), the default user agent is added when the request has none, and
  the request goes to the client with its deadline: the request's own, else the
  executor's default. The client refuses a scheme other than `http` and `https` and
  hands the rest to the transport.

A failure of the client is named by its kind: a deadline that passed, a failed
connection (a name that could not be resolved when its text speaks of `dns` or
`resolve`, a refused connection when it speaks of `refused`), too many redirects (with
the limit the executor reports), an unreadable body, a request the client refused to
build, or anything else. A failure names a URL: the one asked for (credentials included)
when the first request failed, the hop that failed after a redirect. Its text is its
kind with that URL, then each of its causes, and a failed connection is named with that
URL's host and port. A passed deadline is named with the deadline's whole milliseconds,
the largest 64-bit number standing for any longer, or `0` without one.
-/
namespace HttpCheck.Executor

open HttpCheck.Http HttpCheck.Pipeline

/-- The kinds of transport failure the client tells apart. -/
inductive FailureKind where
  | timedOut
  | connect
  | redirect
  | body
  | decode
  | builder
  | other
  deriving DecidableEq, Repr, Inhabited

/-- How a transport failed: its kind, the URL the failure names if any, and the chain of
causes below the failure. -/
structure TransportFailure where
  kind : FailureKind
  url : Option Url
  causes : List String
  deriving DecidableEq, Repr, Inhabited

/-- A request as the transport sends it. -/
structure Outbound where
  method : Method
  url : Url
  headers : HeaderMap
  body : Bytes
  timeout : Option Duration
  redirectLimit : Nat
  deriving Inhabited

/-- A transport: what the network answers to a request. -/
abbrev Transport := Outbound → Except TransportFailure Response

/-- An executor over a network transport. -/
structure LiveExecutor where
  userAgent : Option HeaderValue
  defaultTimeout : Option Duration
  redirectLimit : Nat
  reportedRedirects : Nat
  deriving Inhabited

/-- The error a client builder reports, without its cause. -/
def builderError : String := "builder error"

/-- An executor from settings; a user agent that cannot stand in a header is refused. -/
def LiveExecutor.fromConfig (c : ExecutorConfig) : Except ExecuteError LiveExecutor :=
  match HeaderValue.ofText? c.userAgent with
  | some ua => .ok ⟨some ua, c.timeout, c.maxRedirects, c.maxRedirects⟩
  | none => .error (.other builderError)

/-- An executor with the default settings. -/
def LiveExecutor.new : Except ExecuteError LiveExecutor := LiveExecutor.fromConfig ExecutorConfig.default

/-- An executor over a client that follows `redirectLimit` redirects and announces no
user agent; `reported` is the limit named when there are too many. -/
def LiveExecutor.withClient (redirectLimit reported : Nat) : LiveExecutor :=
  ⟨none, none, redirectLimit, reported⟩

/-- An error with its causes, each after `: `. -/
def chainText (head : String) (causes : List String) : String :=
  String.join (head :: causes.map (": " ++ ·))

/-- Whether a text holds another. -/
def mentions (s part : String) : Bool := s.contains part

/-- How an error's text names a URL: ` for url (` and the URL, or nothing without one. -/
def forUrl : Option Url → String
  | some u => " for url (" ++ u.render ++ ")"
  | none => ""

namespace TransportFailure

/-- The text of a failure: what went wrong, the URL the failure names, then its causes. -/
def text (f : TransportFailure) (what : String) : String := chainText (what ++ forUrl f.url) f.causes

/-- The host a failure names, `unknown` when its URL has none or there is no URL. -/
def host (f : TransportFailure) : String := (f.url.bind Url.hostText?).getD "unknown"

/-- The port a failure names: its URL's, else the scheme's default, else 80. -/
def port (f : TransportFailure) : Nat := (f.url.bind Url.portOrDefault?).getD 80

end TransportFailure

/-- What a failed request is said to have been doing. -/
def sendingRequest : String := "error sending request"

/-- The execution error for a transport failure, with the deadline in milliseconds. -/
def LiveExecutor.classify (e : LiveExecutor) (timeoutMs : Nat) (f : TransportFailure) :
    ExecuteError :=
  match f.kind with
  | .timedOut => .timeout timeoutMs
  | .connect =>
    let message := f.text sendingRequest
    let lower := String.ofList (message.toList.map Char.toLower)
    if mentions lower "dns" || mentions lower "resolve" then .dnsError f.host message
    else if mentions lower "refused" then .connectionRefused f.host f.port
    else .connectionFailed message
  | .redirect => .tooManyRedirects e.reportedRedirects
  | .body => .body (f.text "request or response body error")
  | .decode => .body (f.text "error decoding response body")
  | .builder => .other (f.text builderError)
  | .other => .other (f.text sendingRequest)

/-- The user name and password of a URL, percent-decoded, when it has any that decode. -/
def credentials (url : Url) : Option (String × Option String) :=
  if url.hasCredentials then
    match Utf8.decode? (percentDecode url.username.toList) with
    | some user => some (user, url.password.bind fun p => Utf8.decode? (percentDecode p.toList))
    | none => none
  else none

/-- Basic credentials for a user and a password, marked sensitive. -/
def basicAuthorization (user : String) (password : Option String) : HeaderValue :=
  ⟨Utf8.encode ("Basic " ++ Base64.encode (Utf8.encode (user ++ ":" ++ password.getD ""))), true⟩

/-- The request the client holds for an absolute URL. The URL stays as asked, credentials
included; the request line carries only its path and query. -/
def LiveExecutor.outbound (e : LiveExecutor) (req : Request) (url : Url) (timeout : Option Duration) :
    Outbound :=
  let headers := match credentials url, HeaderName.ofText? "authorization" with
    | some (user, password), some auth =>
      if req.headers.contains auth then req.headers
      else req.headers.insert auth (basicAuthorization user password)
    | _, _ => req.headers
  let headers := match e.userAgent, HeaderName.ofText? "user-agent" with
    | some ua, some name => headers.insertIfAbsent name ua
    | _, _ => headers
  ⟨req.method, url, headers, req.body, timeout, e.redirectLimit⟩

/-- What the client answers to an outbound request: it refuses a scheme other than `http`
and `https` itself, as a builder failure naming the URL, and hands every other request to
the transport. -/
def clientSend (transport : Transport) (out : Outbound) : Except TransportFailure Response :=
  if out.url.scheme != "http" && out.url.scheme != "https" then
    .error ⟨.builder, some out.url, ["URL scheme is not allowed"]⟩
  else transport out

/-- The deadline a request is sent with: its own, else the executor's default. -/
def LiveExecutor.deadline (e : LiveExecutor) (req : Request) : Option Duration :=
  req.context.timeout.orElse fun _ => e.defaultTimeout

/-- A deadline as failures report it: its whole milliseconds as a 64-bit number, `0`
without one. -/
def reportedMillis (deadline : Option Duration) : Nat := (deadline.map Duration.millisU64).getD 0

@[simp] theorem reportedMillis_some (d : Duration) : reportedMillis (some d) = d.millisU64 := rfl

@[simp] theorem reportedMillis_none : reportedMillis none = 0 := rfl

/-- Executes a request over a transport. -/
def LiveExecutor.execute (e : LiveExecutor) (transport : Transport) (req : Request) :
    Except ExecuteError Response :=
  match Url.parse req.uri.render with
  | .error err => .error (.invalidRequest (builderError ++ ": " ++ err.message))
  | .ok url =>
    if req.context.cancelled then .error .cancelled
    else
      (clientSend transport (e.outbound req url (e.deadline req))).mapError
        (e.classify (reportedMillis (e.deadline req)))

/-- A cancelled request is never sent. -/
theorem LiveExecutor.execute_cancelled (e : LiveExecutor) (t : Transport) (req : Request)
    (h : req.context.cancelled = true) :
    e.execute t req = .error .cancelled ∨ ∃ m, e.execute t req = .error (.invalidRequest m) := by
  unfold LiveExecutor.execute
  split
  · exact Or.inr ⟨_, rfl⟩
  · simp [h]

end HttpCheck.Executor
