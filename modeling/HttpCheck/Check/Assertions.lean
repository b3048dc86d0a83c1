import HttpCheck.Check.Step
import HttpCheck.Check.Status
import HttpCheck.Http.Mime
import HttpCheck.Json.Parse
import HttpCheck.Json.Path
import HttpCheck.Json.Encodable
import HttpCheck.Regex.Matcher
/-!
# Reference assertions

Checks of a response: its status, its headers, its body as bytes, as text and as JSON.

A header is looked up by a name compared without case; its value is read only when it
is visible ASCII. A body is read as text only when it is well-formed UTF-8. Patterns
and expected JSON values are prepared when the assertion is made, and a pattern that
does not compile, or an expected value that is not JSON, makes every check fail.
Long bodies are shown in messages by their first 100 characters and `...`.
-/
namespace HttpCheck.Check

open HttpCheck.Http HttpCheck.Regex

/-- How many characters of a text a message shows. -/
def previewLength : Nat := 100

/-- A text shortened for a message: its first 100 characters and `...` when longer. -/
def preview (s : String) : String :=
  let cs := s.toList
  if cs.length > previewLength then String.ofList (cs.take previewLength) ++ "..." else s

/-- The body as text. -/
def bodyText (r : Response) : Except AssertionError String :=
  match Utf8.decode? r.body with
  | some s => .ok s
  | none => .error .notUtf8

/-- A pattern compiled for an assertion. -/
def compilePattern (pattern : String) : Except AssertionError Matcher :=
  (Matcher.compile pattern).mapError fun e => .invalidPattern pattern (e.message pattern)

/-- Whether a byte of a header value reads as text: visible ASCII or a tab. -/
def isVisibleAscii (b : UInt8) : Bool := (32 ≤ b && b < 127) || b == 9

/-- The first value of a header, as text. -/
def headerValue (r : Response) (name : String) : Except AssertionError String :=
  match (HeaderName.ofText? name).bind r.headers.get? with
  | none => .error (.missingHeader name)
  | some v =>
    if v.bytes.all isVisibleAscii then .ok (String.ofList (v.bytes.map fun b => Char.ofNat b.toNat))
    else .error (.headerMismatch name "visible ASCII" (Utf8.decodeLossy v.bytes))

/-- Whether `needle` occurs in `hay`. -/
def containsBytes (needle : Bytes) : Bytes → Bool
  | [] => needle.isEmpty
  | b :: rest => needle.isPrefixOf (b :: rest) || containsBytes needle rest

/-- The body as JSON. -/
def parseBody (r : Response) : Except AssertionError Json := do
  let s ← bodyText r
  (Json.parse s).mapError fun e => .invalidJson e.message

/-- An expected value as JSON. -/
def expectedValue (e : Encodable) : Except AssertionError Json :=
  e.toJson.mapError fun m => .invalidJson ("expected value: " ++ m)

/-- The value a path leads to in a document. -/
def lookupPath (document : Json) (path : String) : Except AssertionError Json :=
  match tokenizePath path with
  | .error m => .error (.invalidJsonPath path m)
  | .ok steps =>
    match document.follow steps with
    | some v => .ok v
    | none => .error (.jsonPathNotFound path)

namespace Assertion

/-- An assertion from a named check that fails with assertion errors. -/
def ofCheck (name : String) (check : Response → Except AssertionError Unit) : Assertion :=
  ⟨name, fun r => (check r).mapError .assertion⟩

/-- The status meets an expectation. -/
def statusIn (e : StatusExpectation) : Assertion :=
  ofCheck ("status(" ++ e.text ++ ")") fun r =>
    if e.accepts r.status.code then .ok () else .error (.statusMismatch e.text r.status.code)

/-- The status is exactly `code`. -/
def status (code : Nat) : Assertion := statusIn (.exact code)

/-- The status is a success, `200` to `299`. -/
def statusSuccess : Assertion :=
  ofCheck "status_success" fun r =>
    if StatusExpectation.success.accepts r.status.code then .ok ()
    else .error (.statusMismatch StatusExpectation.success.text r.status.code)

/-- The header is present, with a value that reads as text. -/
def headerExists (name : String) : Assertion :=
  ofCheck ("header_exists(" ++ name ++ ")") fun r => (headerValue r name).map fun _ => ()

/-- The header's first value is `expected`. -/
def headerEquals (name expected : String) : Assertion :=
  ofCheck ("header_equals(" ++ name ++ ")") fun r => do
    let actual ← headerValue r name
    if actual == expected then .ok () else .error (.headerMismatch name expected actual)

/-- The header's first value matches a pattern. -/
def headerMatches (name pattern : String) : Assertion :=
  let compiled := compilePattern pattern
  ofCheck ("header_matches(" ++ name ++ ")") fun r => do
    let m ← compiled
    let actual ← headerValue r name
    if m.isMatch actual then .ok ()
    else .error (.patternMismatch ("header '" ++ name ++ "' value '" ++ actual ++ "'") m.pattern)

/-- The media type of the content, without parameters, is that of `expected`. -/
def contentType (expected : String) : Assertion :=
  let wanted := Mime.essence expected
  ofCheck ("content_type(" ++ wanted ++ ")") fun r => do
    let actual ← headerValue r "content-type"
    if Mime.essence actual == wanted then .ok ()
    else .error (.contentTypeMismatch wanted actual)

/-- The body is exactly `expected`. -/
def bodyEquals (expected : Bytes) : Assertion :=
  ofCheck "body_equals" fun r =>
    if r.body == expected then .ok ()
    else .error (.bodyMismatch (preview (Utf8.decodeLossy expected)) (preview (Utf8.decodeLossy r.body)))

/-- The body is text that contains `text`. -/
def bodyContains (text : String) : Assertion :=
  ofCheck ("body_contains(" ++ text ++ ")") fun r => do
    let body ← bodyText r
    if containsBytes (Utf8.encode text) (Utf8.encode body) then .ok ()
    else .error (.bodyMissingText text)

/-- The body is text that matches a pattern. -/
def bodyMatches (pattern : String) : Assertion :=
  let compiled := compilePattern pattern
  ofCheck ("body_matches(" ++ pattern ++ ")") fun r => do
    let m ← compiled
    let body ← bodyText r
    if m.isMatch body then .ok ()
    else .error (.patternMismatch ("body '" ++ preview body ++ "'") m.pattern)

/-- The body is empty. -/
def bodyEmpty : Assertion :=
  ofCheck "body_empty" fun r =>
    if r.body.isEmpty then .ok () else .error (.bodyNotEmpty r.body.length)

/-- The body is a JSON document. -/
def isJson : Assertion :=
  ofCheck "is_json" fun r => (parseBody r).map fun _ => ()

/-- The body is a JSON document equal to `expected`. -/
def jsonEquals (expected : Encodable) : Assertion :=
  let wanted := expectedValue expected
  ofCheck "json_equals" fun r => do
    let wanted ← wanted
    let actual ← parseBody r
    if actual.sameAs wanted then .ok ()
    else .error (.jsonMismatch "$" wanted.render actual.render)

/-- The value at a path of the body is `expected`. -/
def jsonPath (path : String) (expected : Encodable) : Assertion :=
  let wanted := expectedValue expected
  ofCheck ("json_path(" ++ path ++ ")") fun r => do
    let wanted ← wanted
    let document ← parseBody r
    let actual ← lookupPath document path
    if actual.sameAs wanted then .ok ()
    else .error (.jsonMismatch path wanted.render actual.render)

/-- A path of the body leads to a value. -/
def jsonPathExists (path : String) : Assertion :=
  ofCheck ("json_path_exists(" ++ path ++ ")") fun r => do
    let document ← parseBody r
    (lookupPath document path).map fun _ => ()

end Assertion
end HttpCheck.Check
