import HttpCheck.Text.Quoted
import HttpCheck.Json.Print
/-!
# Step errors

What a builder or an assertion can report. Reference builders fail with a
`BuildError`, reference assertions with an `AssertionError`, and any step may fail with
a plain message. Each has its words (`message`) and, for builders, a structural form
(`debug`) that shows the kind of error and its fields, texts quoted.
-/
namespace HttpCheck.Check

/-- Why a reference builder could not change a request. -/
inductive BuildError where
  /-- The header name is not a token. -/
  | invalidHeaderName (name : String)
  /-- The header value holds a byte a header cannot. -/
  | invalidHeaderValue (name : String)
  /-- The changed target could not be assembled. -/
  | invalidUri (message : String)
  /-- A body or query value could not be encoded. -/
  | serialization (message : String)
  deriving DecidableEq, Repr, Inhabited

namespace BuildError

/-- The words for a build error. -/
def message : BuildError → String
  | .invalidHeaderName n => "invalid header name: " ++ n
  | .invalidHeaderValue n => "invalid value for header '" ++ n ++ "'"
  | .invalidUri m => "invalid URI: " ++ m
  | .serialization m => "serialization error: " ++ m

/-- The structural form of a build error. -/
def debug : BuildError → String
  | .invalidHeaderName n => "InvalidHeaderName(" ++ Quoted.literal n ++ ")"
  | .invalidHeaderValue n => "InvalidHeaderValue \x7b name: " ++ Quoted.literal n ++ " \x7d"
  | .invalidUri m => "InvalidUri(" ++ Quoted.literal m ++ ")"
  | .serialization m => "Serialization(" ++ Quoted.literal m ++ ")"

end BuildError

/-- Why a reference assertion does not hold of a response. -/
inductive AssertionError where
  | statusMismatch (expected : String) (actual : Nat)
  | missingHeader (name : String)
  | headerMismatch (name expected actual : String)
  | patternMismatch (subject pattern : String)
  | invalidPattern (pattern message : String)
  | bodyMismatch (expected actual : String)
  | bodyMissingText (text : String)
  | bodyNotEmpty (length : Nat)
  | notUtf8
  | invalidJson (message : String)
  | invalidJsonPath (path message : String)
  | jsonPathNotFound (path : String)
  | jsonMismatch (path expected actual : String)
  | contentTypeMismatch (expected actual : String)
  deriving DecidableEq, Repr, Inhabited

/-- The words for an assertion error. -/
def AssertionError.message : AssertionError → String
  | .statusMismatch e a => "expected status " ++ e ++ ", got " ++ toString a
  | .missingHeader n => "header '" ++ n ++ "' not found"
  | .headerMismatch n e a =>
    "header '" ++ n ++ "' value mismatch: expected '" ++ e ++ "', got '" ++ a ++ "'"
  | .patternMismatch s p => s ++ " does not match pattern '" ++ p ++ "'"
  | .invalidPattern p m => "invalid regex pattern '" ++ p ++ "': " ++ m
  | .bodyMismatch e a => "body mismatch: expected '" ++ e ++ "', got '" ++ a ++ "'"
  | .bodyMissingText t => "body does not contain '" ++ t ++ "'"
  | .bodyNotEmpty n => "expected empty body, got " ++ toString n ++ " bytes"
  | .notUtf8 => "body is not valid UTF-8"
  | .invalidJson m => "body is not valid JSON: " ++ m
  | .invalidJsonPath p m => "invalid JSON path '" ++ p ++ "': " ++ m
  | .jsonPathNotFound p => "JSON path '" ++ p ++ "' not found"
  | .jsonMismatch p e a =>
    "JSON value at '" ++ p ++ "' mismatch: expected " ++ e ++ ", got " ++ a
  | .contentTypeMismatch e a => "content type mismatch: expected '" ++ e ++ "', got '" ++ a ++ "'"

/-- A record form `Name { field: value, .. }` with the values already written. -/
def recordForm (name : String) (fields : List (String × String)) : String :=
  name ++ " \x7b " ++ ", ".intercalate (fields.map fun (f, v) => f ++ ": " ++ v) ++ " \x7d"

/-- The structural form of an assertion error. -/
def AssertionError.debug : AssertionError → String
  | .statusMismatch e a =>
    recordForm "StatusMismatch" [("expected", Quoted.literal e), ("actual", toString a)]
  | .missingHeader n => "MissingHeader(" ++ Quoted.literal n ++ ")"
  | .headerMismatch n e a => recordForm "HeaderMismatch"
    [("name", Quoted.literal n), ("expected", Quoted.literal e), ("actual", Quoted.literal a)]
  | .patternMismatch s p => recordForm "PatternMismatch"
    [("subject", Quoted.literal s), ("pattern", Quoted.literal p)]
  | .invalidPattern p m => recordForm "InvalidPattern"
    [("pattern", Quoted.literal p), ("message", Quoted.literal m)]
  | .bodyMismatch e a => recordForm "BodyMismatch"
    [("expected", Quoted.literal e), ("actual", Quoted.literal a)]
  | .bodyMissingText t => "BodyMissingText(" ++ Quoted.literal t ++ ")"
  | .bodyNotEmpty n => "BodyNotEmpty(" ++ toString n ++ ")"
  | .notUtf8 => "NotUtf8"
  | .invalidJson m => "InvalidJson(" ++ Quoted.literal m ++ ")"
  | .invalidJsonPath p m => recordForm "InvalidJsonPath"
    [("path", Quoted.literal p), ("message", Quoted.literal m)]
  | .jsonPathNotFound p => "JsonPathNotFound(" ++ Quoted.literal p ++ ")"
  | .jsonMismatch p e a => recordForm "JsonMismatch"
    [("path", Quoted.literal p), ("expected", Quoted.literal e), ("actual", Quoted.literal a)]
  | .contentTypeMismatch e a => recordForm "ContentTypeMismatch"
    [("expected", Quoted.literal e), ("actual", Quoted.literal a)]

/-- What a step reports when it fails. -/
inductive Failure where
  | build (e : BuildError)
  | assertion (e : AssertionError)
  /-- A plain message. -/
  | text (message : String)
  deriving DecidableEq, Repr, Inhabited

namespace Failure

/-- The words for a step failure. -/
def message : Failure → String
  | .build e => e.message
  | .assertion e => e.message
  | .text m => m

/-- The structural form of a step failure; a plain message is quoted. -/
def debug : Failure → String
  | .build e => e.debug
  | .assertion e => e.debug
  | .text m => Quoted.literal m

end Failure
end HttpCheck.Check
