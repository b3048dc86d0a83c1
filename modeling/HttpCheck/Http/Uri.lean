import HttpCheck.Http.Token
/-!
# Request targets

A request target is one of: a path with an optional query (`/a/b?x=1`), the asterisk
`*`, an authority alone (`host:8080`), or an absolute URI (`scheme://authority` then a
path and query). A fragment (`#...`) is dropped when read.

Reading follows these rules, checked in this order:
* at most 65534 bytes, and not empty;
* a scheme is `http` or `https` in any case followed by `://`, or (in a target longer
  than three bytes) up to 64 letters, digits, `+`, `-`, `.` before `://`; other schemes
  keep their case;
* the authority runs to the first `/`, `?` or `#`; it allows letters, digits and
  ``!$&'()*+,-.:;=@[]_~`` with `%` escapes only in the user part, one port colon, a
  bracketed address (where colons are free), and must not end in `@`;
* an absolute URI with nothing after `://` is empty; one whose authority is empty is
  malformed;
* the path allows the visible ASCII characters except space, `#`, `<`, `>`, `?`, `` ` ``
  (`"`, `{` and `}` are allowed), and well-formed UTF-8; the query allows the same and
  also `?`, `<`, `>`, `` ` ``; DEL and control bytes are refused in both.

Written back, a target has a path `/` when it has a scheme but no path, and an empty
query keeps its `?`.
-/
namespace HttpCheck.Http

/-- The scheme of an absolute URI. -/
inductive Scheme where
  | http
  | https
  | other (name : String)
  deriving DecidableEq, Repr, Inhabited

/-- How a scheme is written. -/
def Scheme.text : Scheme → String
  | .http => "http"
  | .https => "https"
  | .other name => name

/-- Why a target cannot be read or assembled. -/
inductive UriError where
  | invalidUriChar
  | invalidScheme
  | invalidAuthority
  | invalidPort
  | invalidFormat
  | schemeMissing
  | authorityMissing
  | pathAndQueryMissing
  | tooLong
  | empty
  | schemeTooLong
  | pathWithoutSlash
  deriving DecidableEq, Repr, Inhabited

/-- The words for a target error. -/
def UriError.message : UriError → String
  | .invalidUriChar => "invalid uri character"
  | .invalidScheme => "invalid scheme"
  | .invalidAuthority => "invalid authority"
  | .invalidPort => "invalid port"
  | .invalidFormat => "invalid format"
  | .schemeMissing => "scheme missing"
  | .authorityMissing => "authority missing"
  | .pathAndQueryMissing => "path missing"
  | .tooLong => "uri too long"
  | .empty => "empty string"
  | .schemeTooLong => "scheme too long"
  | .pathWithoutSlash => "path does not start with slash"

/-- A path and an optional query, as written (the query without its `?`). -/
structure PathAndQuery where
  path : String
  query : Option String
  deriving DecidableEq, Repr, Inhabited

namespace PathAndQuery

/-- The path and query as written. -/
def text (pq : PathAndQuery) : String :=
  pq.path ++ match pq.query with
    | some q => "?" ++ q
    | none => ""

/-- The path, `/` when none is written. -/
def shownPath (pq : PathAndQuery) : String := if pq.path.isEmpty then "/" else pq.path

/-- Whether a byte may stand in a path. -/
def isPathByte (b : UInt8) : Bool :=
  b == 0x21 || (0x24 ≤ b && b ≤ 0x3B) || b == 0x3D || (0x40 ≤ b && b ≤ 0x5F) ||
    (0x61 ≤ b && b ≤ 0x7A) || b == 0x7C || b == 0x7E || b == 0x22 || b == 0x7B ||
    b == 0x7D || b ≥ 0x80

/-- Whether a byte may stand in a query. -/
def isQueryByte (b : UInt8) : Bool :=
  b == 0x21 || (0x24 ≤ b && b ≤ 0x3B) || b == 0x3D || (0x3F ≤ b && b ≤ 0x7E) || b ≥ 0x80

/-- Reads a query up to a `#`; the query bytes. -/
def readQuery : Bytes → Except UriError Bytes
  | [] => .ok []
  | b :: rest =>
    if b == 0x23 then .ok []
    else if isQueryByte b then do let q ← readQuery rest; .ok (b :: q)
    else .error .invalidUriChar

/-- Reads a path up to a `?` or `#`; the path bytes and the query bytes, if any. -/
def readPath : Bytes → Except UriError (Bytes × Option Bytes)
  | [] => .ok ([], none)
  | b :: rest =>
    if b == 0x3F then do let q ← readQuery rest; .ok ([], some q)
    else if b == 0x23 then .ok ([], none)
    else if isPathByte b then do let (p, q) ← readPath rest; .ok (b :: p, q)
    else .error .invalidUriChar

/-- Reads a path and query; a fragment is dropped, and what is kept must be
well-formed UTF-8. -/
def parse (bs : Bytes) : Except UriError PathAndQuery := do
  let (p, q) ← readPath bs
  match Utf8.decode? p, q.map Utf8.decode? with
  | some path, none => .ok ⟨path, none⟩
  | some path, some (some query) => .ok ⟨path, some query⟩
  | _, _ => .error .invalidUriChar

end PathAndQuery

/-- Whether a byte may stand in an authority (`%`, `/`, `?` and `#` are handled apart). -/
def isAuthorityByte (b : UInt8) : Bool :=
  (48 ≤ b && b ≤ 57) || (65 ≤ b && b ≤ 90) || (97 ≤ b && b ≤ 122) ||
    b == 0x21 || b == 0x24 || b == 0x26 || b == 0x27 || b == 0x28 || b == 0x29 ||
    b == 0x2A || b == 0x2B || b == 0x2C || b == 0x2D || b == 0x2E || b == 0x3A ||
    b == 0x3B || b == 0x3D || b == 0x40 || b == 0x5B || b == 0x5D || b == 0x5F || b == 0x7E

/-- What scanning an authority has seen so far. -/
structure AuthorityScan where
  colons : Nat
  openBracket : Bool
  closeBracket : Bool
  percent : Bool
  atSign : Option Nat
  deriving Repr, Inhabited

/-- Scans an authority from index `i`; the scan state and the index where it ends. -/
def scanAuthority (st : AuthorityScan) (i : Nat) : Bytes → Except UriError (AuthorityScan × Nat)
  | [] => .ok (st, i)
  | b :: rest =>
    if b == 0x2F || b == 0x3F || b == 0x23 then .ok (st, i)
    else if b == 0x3A then
      if st.colons ≥ 8 then .error .invalidAuthority
      else scanAuthority { st with colons := st.colons + 1 } (i + 1) rest
    else if b == 0x5B then
      if st.percent || st.openBracket then .error .invalidAuthority
      else scanAuthority { st with openBracket := true } (i + 1) rest
    else if b == 0x5D then
      if !st.openBracket || st.closeBracket then .error .invalidAuthority
      else scanAuthority { st with closeBracket := true, colons := 0, percent := false } (i + 1) rest
    else if b == 0x40 then
      scanAuthority { st with atSign := some i, colons := 0, percent := false } (i + 1) rest
    else if b == 0x25 then scanAuthority { st with percent := true } (i + 1) rest
    else if isAuthorityByte b then scanAuthority st (i + 1) rest
    else .error .invalidUriChar

/-- The length of the authority at the start of some bytes. -/
def authorityLength (bs : Bytes) : Except UriError Nat := do
  let (st, n) ← scanAuthority ⟨0, false, false, false, none⟩ 0 bs
  if st.openBracket != st.closeBracket then .error .invalidAuthority
  else if st.colons > 1 then .error .invalidAuthority
  else if n > 0 ∧ st.atSign = some (n - 1) then .error .invalidAuthority
  else if st.percent then .error .invalidAuthority
  else .ok n

/-- Whether a byte may stand in a scheme name. -/
def isSchemeByte (b : UInt8) : Bool :=
  (48 ≤ b && b ≤ 57) || (65 ≤ b && b ≤ 90) || (97 ≤ b && b ≤ 122) ||
    b == 0x2B || b == 0x2D || b == 0x2E

/-- Whether bytes start with a prefix, ignoring ASCII case. -/
def startsWithNoCase (bs pre : Bytes) : Bool :=
  pre.length ≤ bs.length && (bs.take pre.length).map lowerByte == pre

/-- Looks for a scheme name ending in `://` among the bytes from index `i`. -/
def scanScheme (all : Bytes) (i : Nat) : Bytes → Except UriError (Option Nat)
  | [] => .ok none
  | b :: rest =>
    if b == 0x3A then
      if all.length < i + 3 then .ok none
      else if (all.drop (i + 1)).take 2 != [0x2F, 0x2F] then .ok none
      else if i > 64 then .error .schemeTooLong
      else .ok (some i)
    else if isSchemeByte b then scanScheme all (i + 1) rest
    else .ok none

/-- The scheme at the start of an absolute URI and the length of `scheme://`, if any. -/
def readScheme (bs : Bytes) : Except UriError (Option (Scheme × Nat)) :=
  if startsWithNoCase bs (Utf8.encode "http://") then .ok (some (.http, 7))
  else if startsWithNoCase bs (Utf8.encode "https://") then .ok (some (.https, 8))
  else if bs.length > 3 then do
    match ← scanScheme bs 0 bs with
    | some n => .ok (some (.other (asciiText (bs.take n)), n + 3))
    | none => .ok none
  else .ok none

/-- A request target. -/
structure Uri where
  scheme : Option Scheme
  authority : String
  target : PathAndQuery
  deriving DecidableEq, Repr, Inhabited

namespace Uri

/-- Reads an absolute URI, or an authority alone. -/
def parseFull (bs : Bytes) : Except UriError Uri := do
  let scheme ← readScheme bs
  let rest := match scheme with
    | some (_, n) => bs.drop n
    | none => bs
  let n ← authorityLength rest
  match scheme with
  | none =>
    if n != rest.length then .error .invalidFormat
    else .ok ⟨none, asciiText rest, ⟨"", none⟩⟩
  | some (s, _) =>
    if rest.isEmpty then .error .empty
    else if n = 0 then .error .invalidFormat
    else do
      let pq ← PathAndQuery.parse (rest.drop n)
      .ok ⟨some s, asciiText (rest.take n), pq⟩

/-- Reads a request target. -/
def parse (bs : Bytes) : Except UriError Uri :=
  if bs.length > 65534 then .error .tooLong
  else match bs with
    | [] => .error .empty
    | [0x2F] => .ok ⟨none, "", ⟨"/", none⟩⟩
    | [0x2A] => .ok ⟨none, "", ⟨"*", none⟩⟩
    | [b] => do
      let n ← authorityLength [b]
      if n != 1 then .error .invalidUriChar else .ok ⟨none, asciiText [b], ⟨"", none⟩⟩
    | 0x2F :: _ => do
      let pq ← PathAndQuery.parse bs
      .ok ⟨none, "", pq⟩
    | _ => parseFull bs

/-- Whether the target shows a path: it has a scheme, or a path or query is written. -/
def hasPath (u : Uri) : Bool := !u.target.text.isEmpty || u.scheme.isSome

/-- The path as shown: `/` when an absolute URI has none, empty for an authority
alone. -/
def path (u : Uri) : String := if u.hasPath then u.target.shownPath else ""

/-- The query, without its `?`. -/
def query (u : Uri) : Option String := u.target.query

/-- The target written back. -/
def render (u : Uri) : String :=
  (match u.scheme with
    | some s => s.text ++ "://"
    | none => "") ++ u.authority ++ u.path ++
  (match u.query with
    | some q => "?" ++ q
    | none => "")

/-- The same target with a new path and query. A target with an authority needs a
scheme, and a path that is written must start with `/` unless it is `*` alone. -/
def withPathAndQuery (u : Uri) (pq : PathAndQuery) : Except UriError Uri :=
  if u.scheme.isNone ∧ !u.authority.isEmpty then .error .schemeMissing
  else if !pq.text.isEmpty ∧ pq.text != "*" ∧ !(pq.shownPath.startsWith "/") then
    .error .pathWithoutSlash
  else .ok { u with target := pq }

end Uri
end HttpCheck.Http
