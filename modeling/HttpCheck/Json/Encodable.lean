import HttpCheck.Json.Print
/-!
# Values handed to encoders

What a body or an expected value is built from: a JSON value, a double of any kind
(NaN and the infinities included), or a map keyed by byte strings. JSON has no NaN or
infinity and writes them as `null`; it has only text keys, so a map keyed by byte
strings cannot be encoded at all.
-/
namespace HttpCheck

/-- A value handed to an encoder. -/
inductive Encodable where
  | json (v : Json)
  | double (x : Binary64)
  | byteKeyed (entries : List (Bytes × Json))
  deriving Inhabited

namespace Encodable

/-- Why a value cannot become JSON. -/
def keyMustBeAString : String := "key must be a string"

/-- The JSON value, with a double that is not finite as `null`. -/
def toJson : Encodable → Except String Json
  | .json v => .ok v
  | .double x => .ok (if x.isFinite then .number (.float x) else .null)
  | .byteKeyed [] => .ok (.object [])
  | .byteKeyed _ => .error keyMustBeAString

/-- The compact JSON text. -/
def encode (e : Encodable) : Except String String := e.toJson.map Json.render

end Encodable
end HttpCheck
