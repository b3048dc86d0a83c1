import HttpCheck.Http.Token
/-!
# Headers

A header name is a token of at most 65535 bytes, kept in lowercase, so names compare
without regard to case. A header value is a byte string with no control bytes other
than tab and no DEL; bytes from `0x80` up are allowed. A value may be marked sensitive
(credentials). A header map holds its entries in the order they were added; one name
may have several values, kept in that order. Inserting a value replaces every earlier
value of the name; appending adds one more.
-/
namespace HttpCheck.Http

/-- A header name, in lowercase. -/
structure HeaderName where
  text : String
  deriving DecidableEq, Repr, Inhabited

/-- The header name written by some bytes, lowered, if they form a token of at most
65535 bytes. -/
def HeaderName.parse? (bs : Bytes) : Option HeaderName :=
  if !bs.isEmpty && bs.length ≤ 65535 && bs.all isTokenByte then
    some ⟨asciiText (bs.map lowerByte)⟩
  else none

/-- The header name written by a text. -/
def HeaderName.ofText? (s : String) : Option HeaderName := HeaderName.parse? (Utf8.encode s)

/-- A header value and whether it is sensitive. -/
structure HeaderValue where
  bytes : Bytes
  sensitive : Bool
  deriving DecidableEq, Repr, Inhabited

/-- Whether a byte may stand in a header value. -/
def isValueByte (b : UInt8) : Bool := (b ≥ 32 && b != 127) || b == 9

/-- The (not sensitive) value of some bytes, if they may stand in a header. -/
def HeaderValue.parse? (bs : Bytes) : Option HeaderValue :=
  if bs.all isValueByte then some ⟨bs, false⟩ else none

/-- The value of a text, if it may stand in a header. -/
def HeaderValue.ofText? (s : String) : Option HeaderValue := HeaderValue.parse? (Utf8.encode s)

/-- Headers in the order they were added. -/
structure HeaderMap where
  entries : List (HeaderName × HeaderValue)
  deriving DecidableEq, Repr, Inhabited

namespace HeaderMap

/-- No headers. -/
def empty : HeaderMap := ⟨[]⟩

/-- Adds one more value for a name. -/
def append (m : HeaderMap) (n : HeaderName) (v : HeaderValue) : HeaderMap :=
  ⟨m.entries ++ [(n, v)]⟩

/-- Replaces every value of a name by one value. -/
def insert (m : HeaderMap) (n : HeaderName) (v : HeaderValue) : HeaderMap :=
  ⟨m.entries.filter (fun e => e.1 != n) ++ [(n, v)]⟩

/-- The values of a name, in order. -/
def getAll (m : HeaderMap) (n : HeaderName) : List HeaderValue :=
  (m.entries.filter (fun e => e.1 == n)).map (·.2)

/-- The first value of a name. -/
def get? (m : HeaderMap) (n : HeaderName) : Option HeaderValue := (m.getAll n).head?

/-- Whether a name has a value. -/
def contains (m : HeaderMap) (n : HeaderName) : Bool := m.entries.any (·.1 == n)

/-- Adds a value for a name only when the name has none. -/
def insertIfAbsent (m : HeaderMap) (n : HeaderName) (v : HeaderValue) : HeaderMap :=
  if m.contains n then m else m.append n v

/-- The entries sorted by name; values of one name keep their order. -/
def sorted (m : HeaderMap) : List (HeaderName × HeaderValue) :=
  m.entries.mergeSort fun a b => decide (a.1.text ≤ b.1.text)

/-- The names that have a sensitive value, sorted, each once. -/
def sensitiveNames (m : HeaderMap) : List String :=
  ((m.entries.filter (·.2.sensitive)).map (·.1.text)).mergeSort (fun a b => decide (a ≤ b))
    |>.eraseDups

@[simp] theorem getAll_insert_self (m : HeaderMap) (n : HeaderName) (v : HeaderValue) :
    (m.insert n v).getAll n = [v] := by
  simp [insert, getAll, List.filter_append, List.filter_filter]

end HeaderMap
end HttpCheck.Http
