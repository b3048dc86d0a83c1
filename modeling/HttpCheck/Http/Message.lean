import HttpCheck.Http.Uri
import HttpCheck.Http.Header
/-!
# Requests and responses

A request is a method, a target, headers and a body, with a context that executors
honour: whether it has been cancelled, and an optional deadline, a span of time kept as
seconds and nanoseconds. A new request has no headers, an empty body and a background
context (never cancelled, no deadline). A response is a status code from 100 to 999,
headers and a body.
-/
namespace HttpCheck.Http

/-- A span of time as the standard library keeps it: whole seconds and the nanoseconds
beyond them, fewer than a second. -/
structure Duration where
  secs : Nat
  nanos : Nat
  nanos_lt : nanos < 1000000000
  deriving DecidableEq, Repr

namespace Duration

/-- A span of whole milliseconds. -/
def ofMillis (ms : Nat) : Duration := ⟨ms / 1000, ms % 1000 * 1000000, by omega⟩

/-- The whole milliseconds of a span, what is left below one millisecond dropped. -/
def millis (d : Duration) : Nat := d.secs * 1000 + d.nanos / 1000000

/-- The milliseconds of a span rounded up: the first whole millisecond it reaches. -/
def ceilMillis (d : Duration) : Nat := d.secs * 1000 + (d.nanos + 999999) / 1000000

/-- The largest 64-bit unsigned number. -/
def u64Max : Nat := Nat.pow 2 64 - 1

/-- The whole milliseconds of a span as a 64-bit number: the largest one stands for every
longer span. -/
def millisU64 (d : Duration) : Nat := min d.millis u64Max

@[simp] theorem millis_ofMillis (ms : Nat) : (ofMillis ms).millis = ms := by
  simp only [ofMillis, millis]
  omega

@[simp] theorem ceilMillis_ofMillis (ms : Nat) : (ofMillis ms).ceilMillis = ms := by
  simp only [ofMillis, ceilMillis]
  omega

/-- A span of whole milliseconds that a 64-bit number holds is reported as that number. -/
theorem millisU64_ofMillis {ms : Nat} (h : ms ≤ u64Max) : (ofMillis ms).millisU64 = ms := by
  rw [millisU64, millis_ofMillis, Nat.min_eq_left h]

end Duration

/-- What executors read from a request besides its message: cancellation and deadline. -/
structure RequestContext where
  cancelled : Bool
  timeout : Option Duration
  deriving DecidableEq, Repr, Inhabited

/-- Never cancelled, no deadline. -/
def RequestContext.background : RequestContext := ⟨false, none⟩

/-- An outbound request. -/
structure Request where
  method : Method
  uri : Uri
  headers : HeaderMap
  body : Bytes
  context : RequestContext
  deriving DecidableEq, Repr, Inhabited

/-- A status code, from 100 to 999. -/
structure StatusCode where
  code : Nat
  valid : 100 ≤ code ∧ code ≤ 999
  deriving DecidableEq, Repr

/-- The status code of a number, if it lies from 100 to 999. -/
def StatusCode.ofNat? (n : Nat) : Option StatusCode :=
  if h : 100 ≤ n ∧ n ≤ 999 then some ⟨n, h⟩ else none

/-- The status `200 OK`. -/
def StatusCode.ok : StatusCode := ⟨200, by decide⟩

instance : Inhabited StatusCode := ⟨StatusCode.ok⟩

/-- A response. -/
structure Response where
  status : StatusCode
  headers : HeaderMap
  body : Bytes
  deriving DecidableEq, Repr, Inhabited

/-- Why a request cannot be created. -/
inductive RequestError where
  | invalidMethod
  | invalidUri (e : UriError)
  deriving DecidableEq, Repr, Inhabited

/-- The words for a creation error. -/
def RequestError.message : RequestError → String
  | .invalidMethod => "invalid HTTP method"
  | .invalidUri e => e.message

/-- The structural form of a creation error, as the HTTP layer shows it. -/
def RequestError.debug : RequestError → String
  | .invalidMethod => "http::Error(InvalidMethod)"
  | .invalidUri e => "http::Error(InvalidUri(" ++ uriErrorName e ++ "))"
where
  /-- The name of a target error. -/
  uriErrorName : UriError → String
    | .invalidUriChar => "InvalidUriChar"
    | .invalidScheme => "InvalidScheme"
    | .invalidAuthority => "InvalidAuthority"
    | .invalidPort => "InvalidPort"
    | .invalidFormat => "InvalidFormat"
    | .schemeMissing => "SchemeMissing"
    | .authorityMissing => "AuthorityMissing"
    | .pathAndQueryMissing => "PathAndQueryMissing"
    | .tooLong => "TooLong"
    | .empty => "Empty"
    | .schemeTooLong => "SchemeTooLong"
    | .pathWithoutSlash => "PathWithoutSlash"

/-- A new request for a method and a target, both as bytes: no headers, an empty body,
a background context. A bad method is reported before a bad target. -/
def Request.new (method target : Bytes) : Except RequestError Request :=
  match Method.parse? method with
  | none => .error .invalidMethod
  | some m =>
    match Uri.parse target with
    | .error e => .error (.invalidUri e)
    | .ok u => .ok ⟨m, u, HeaderMap.empty, [], RequestContext.background⟩

end HttpCheck.Http
