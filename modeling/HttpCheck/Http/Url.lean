import HttpCheck.Text.Hex
import HttpCheck.Text.Utf8
import HttpCheck.Text.Quoted
import HttpCheck.Json.Print
import HttpCheck.Http.Idna
/-!
# URLs

Absolute URLs as an HTTP client reads a request target: a scheme, lowered, then for
the special schemes (`http`, `https`, `ws`, `wss`, `ftp`, `file`) an authority and a
hierarchical path, for other schemes an authority after `//` or an opaque path.

An authority holds optional user information (up to the last `@`), a host and an
optional port, dropped when it is the scheme's default. A special host is a bracketed
IPv6 address, an IPv4 address (each part decimal, octal with a leading `0`, or
hexadecimal with `0x`, the last part covering the bytes left), or a domain:
percent-decoded, lowered, and refused when it holds a character a domain may not or
a label in Punycode that does not stand for a valid label.
Paths are split at `/` (and `\` for special schemes), lose their `.` segments and
resolve their `..` segments. Characters that may not stand in a part are
percent-encoded, and so is every byte beyond ASCII.
-/
namespace HttpCheck.Http

/-- Why a text is not a URL. -/
inductive UrlError where
  | relativeWithoutBase
  | emptyHost
  | invalidDomain
  | invalidPort
  | invalidIpv4
  | invalidIpv6
  | invalidDomainCharacter
  deriving DecidableEq, Repr, Inhabited

/-- The words for a URL error. -/
def UrlError.message : UrlError → String
  | .relativeWithoutBase => "relative URL without a base"
  | .emptyHost => "empty host"
  | .invalidDomain => "invalid international domain name"
  | .invalidPort => "invalid port number"
  | .invalidIpv4 => "invalid IPv4 address"
  | .invalidIpv6 => "invalid IPv6 address"
  | .invalidDomainCharacter => "invalid domain character"

/-- A host: a domain (or the text of a host of another scheme), an IPv4 address as a
number, or the eight pieces of an IPv6 address. -/
inductive UrlHost where
  | domain (name : String)
  | ipv4 (address : Nat)
  | ipv6 (pieces : List Nat)
  deriving DecidableEq, Repr, Inhabited

/-- A URL. A host that is present but empty is `some (.domain "")`. -/
structure Url where
  scheme : String
  username : String
  password : Option String
  host : Option UrlHost
  port : Option Nat
  path : String
  query : Option String
  deriving DecidableEq, Repr, Inhabited

/-- The default port of a scheme. -/
def defaultPort : String → Option Nat
  | "http" => some 80
  | "https" => some 443
  | "ws" => some 80
  | "wss" => some 443
  | "ftp" => some 21
  | _ => none

/-- Whether a scheme is special: it has a host and a hierarchical path. -/
def isSpecialScheme (s : String) : Bool := (defaultPort s).isSome || s == "file"

/-- `%XY` for a byte, uppercase. -/
def percentByte (b : UInt8) : List Char := '%' :: (Hex.pair b).map Char.toUpper

/-- Percent-encodes the characters a test picks out, and every byte beyond ASCII. -/
def percentEncode (encode : Char → Bool) (s : String) : String :=
  String.ofList ((Utf8.encode s).flatMap fun b =>
    let c := Char.ofNat b.toNat
    if b ≥ 0x80 || encode c then percentByte b else [c])

/-- Control characters. -/
def inControlSet (c : Char) : Bool := c.toNat < 0x20 || c.toNat == 0x7F

/-- Characters encoded in a query of a scheme that is not special. -/
def inQuerySet (c : Char) : Bool := inControlSet c || " \"#<>".contains c

/-- Characters encoded in a query of a special scheme. -/
def inSpecialQuerySet (c : Char) : Bool := inQuerySet c || c == '\''

/-- Characters encoded in a path. -/
def inPathSet (c : Char) : Bool := inQuerySet c || "?\x60\x7b\x7d".contains c

/-- Characters encoded in user information. -/
def inUserinfoSet (c : Char) : Bool := inPathSet c || "/:;=@[\\]^|".contains c

/-- Characters a domain may not hold. -/
def isForbiddenDomainChar (c : Char) : Bool :=
  c.toNat ≤ 0x20 || c.toNat == 0x7F || "#%/:<>?@[\\]^|".contains c

/-- Characters the host of another scheme may not hold. -/
def isForbiddenHostChar (c : Char) : Bool :=
  c.toNat == 0 || "\t\n\r #/:<>?@[\\]^|".contains c

/-- The scheme at the front of a text, lowered, and the rest after its colon. -/
def splitScheme (cs : List Char) : Option (String × List Char) :=
  match cs with
  | c :: rest =>
    if c.isAlpha then
      let body := rest.takeWhile fun d => d.isAlphanum || d == '+' || d == '-' || d == '.'
      match rest.drop body.length with
      | ':' :: after => some (String.ofList ((c :: body).map Char.toLower), after)
      | _ => none
    else none
  | [] => none

/-- The value of a digit in a radix up to sixteen. -/
def digitIn (radix : Nat) (c : Char) : Option Nat :=
  match Hex.value? c with
  | some v => if v < radix then some v else none
  | none => none

/-- The value of one part of an IPv4 address: hexadecimal after `0x`, octal after a
leading `0`, else decimal; nothing after the prefix means zero. -/
def ipv4Number (part : List Char) : Option Nat :=
  let (radix, digits) := match part with
    | '0' :: 'x' :: rest => (16, rest)
    | '0' :: 'X' :: rest => (16, rest)
    | '0' :: rest@(_ :: _) => (8, rest)
    | _ => (10, part)
  if part.isEmpty then none
  else digits.foldlM (fun n c => (digitIn radix c).map (radix * n + ·)) 0

/-- The dot-separated parts of a host, without one empty last part. -/
def hostParts (s : String) : List (List Char) :=
  let parts := (s.splitOn ".").map String.toList
  match parts.getLast? with
  | some [] => if parts.length > 1 then parts.dropLast else parts
  | _ => parts

/-- Whether a host ends in a number, and so must be an IPv4 address. -/
def endsInNumber (s : String) : Bool :=
  match (hostParts s).getLast? with
  | some last =>
    (!last.isEmpty && last.all Char.isDigit) ||
      (match last with
        | '0' :: x :: rest => (x == 'x' || x == 'X') && rest.all Char.isHexDigit
        | _ => false)
  | none => false

/-- An IPv4 address as a number: at most four parts, every part but the last below
256, the last below the bytes it covers. -/
def parseIpv4 (s : String) : Except UrlError Nat := do
  let parts := hostParts s
  if parts.length > 4 then throw .invalidIpv4
  let numbers ← parts.mapM fun p => match ipv4Number p with
    | some n => Except.ok n
    | none => .error .invalidIpv4
  let front := numbers.dropLast
  let last := numbers.getLast?.getD 0
  if front.any (· > 255) then throw .invalidIpv4
  if last ≥ Nat.pow 256 (5 - numbers.length) then throw .invalidIpv4
  return front.zipIdx.foldl (fun acc (n, i) => acc + n * Nat.pow 256 (3 - i)) last

/-- Where reading an IPv6 address stands: the eight pieces, the piece written next, and
the piece where `::` stood. -/
structure Ipv6Reading where
  pieces : List Nat
  pointer : Nat
  compress : Option Nat

/-- Changes the current piece. -/
def Ipv6Reading.write (r : Ipv6Reading) (f : Nat → Nat) : Ipv6Reading :=
  { r with pieces := r.pieces.modify r.pointer f }

/-- Up to four hexadecimal digits: their value, their count, and the rest. -/
def hexPiece (cs : List Char) : Nat × Nat × List Char :=
  let ds := (cs.takeWhile Char.isHexDigit).take 4
  (ds.foldl (fun n c => 16 * n + (Hex.value? c).getD 0) 0, ds.length, cs.drop ds.length)

/-- Decimal digits of an embedded IPv4 part: no leading zero, at most 255. -/
def ipv4Piece : Option Nat → List Char → Except UrlError (Option Nat × List Char)
  | acc, c :: rest =>
    if c.isDigit then
      let d := c.toNat - '0'.toNat
      match acc with
      | none => ipv4Piece (some d) rest
      | some 0 => .error .invalidIpv6
      | some v => if 10 * v + d > 255 then .error .invalidIpv6 else ipv4Piece (some (10 * v + d)) rest
    else .ok (acc, c :: rest)
  | acc, [] => .ok (acc, [])

/-- Reads the dotted IPv4 tail of an IPv6 address; each round takes a number and the
character after it. -/
def ipv4Tail : Nat → Ipv6Reading → Nat → List Char → Except UrlError Ipv6Reading
  | 0, r, _, _ => .ok r
  | _ + 1, r, _, [] => .ok r
  | fuel + 1, r, seen, c :: cs => do
    let (value, rest) ← ipv4Piece none (c :: cs)
    if seen < 3 && rest.head? != some '.' then throw .invalidIpv6
    let some v := value | throw .invalidIpv6
    let r := r.write fun p => p * 256 + v
    let r := if seen == 1 || seen == 3 then { r with pointer := r.pointer + 1 } else r
    let rest := rest.drop 1
    if seen == 3 && !rest.isEmpty then throw .invalidIpv6
    ipv4Tail fuel r (seen + 1) rest

/-- Reads the pieces of an IPv6 address, going on to a dotted IPv4 tail. -/
def ipv6Pieces : Nat → Ipv6Reading → List Char → Except UrlError Ipv6Reading
  | 0, r, _ => .ok r
  | _ + 1, r, [] => .ok r
  | fuel + 1, r, c :: cs => do
    if r.pointer == 8 then throw .invalidIpv6
    if c == ':' then
      if r.compress.isSome then throw .invalidIpv6
      ipv6Pieces fuel { r with pointer := r.pointer + 1, compress := some (r.pointer + 1) } cs
    else
      let (value, count, rest) := hexPiece (c :: cs)
      let next := { r.write (fun _ => value) with pointer := r.pointer + 1 }
      match rest with
      | '.' :: _ =>
        if count == 0 || r.pointer > 6 then throw .invalidIpv6
        ipv4Tail (cs.length + 2) r 0 (c :: cs)
      | [':'] => throw .invalidIpv6
      | ':' :: more => ipv6Pieces fuel next more
      | [] => pure next
      | _ => throw .invalidIpv6

/-- The pieces of an IPv6 address written without brackets; the pieces read after
`::` move to the end. -/
def parseIpv6 (s : String) : Except UrlError (List Nat) := do
  let cs := s.toList
  if cs.length < 2 then throw .invalidIpv6
  let start : Ipv6Reading := ⟨List.replicate 8 0, 0, none⟩
  let (start, cs) ← match cs with
    | ':' :: ':' :: rest => pure ({ start with pointer := 1, compress := some 1 }, rest)
    | ':' :: _ => throw .invalidIpv6
    | _ => pure (start, cs)
  let r ← ipv6Pieces (cs.length + 1) start cs
  match r.compress with
  | some c =>
    let moved := (r.pieces.drop c).take (r.pointer - c)
    pure (r.pieces.take c ++ List.replicate (8 - r.pointer) 0 ++ moved)
  | none => if r.pointer == 8 then pure r.pieces else throw .invalidIpv6

/-- The start and length of the first longest run of zero pieces. -/
def longestZeroRun (pieces : List Nat) : Nat × Nat :=
  (List.range 8).foldl (fun (best : Nat × Nat) i =>
    let run := ((pieces.drop i).takeWhile (· == 0)).length
    if run > best.2 then (i, run) else best) (0, 0)

/-- The text of IPv6 pieces: lowercase hexadecimal, with the first longest run of two
or more zero pieces written `::`. -/
def ipv6Text (pieces : List Nat) : String :=
  let (start, length) := longestZeroRun pieces
  let hex := fun (n : Nat) => String.ofList (Quoted.hexDigits n)
  if length < 2 then ":".intercalate (pieces.map hex)
  else
    ":".intercalate ((pieces.take start).map hex) ++ "::" ++
      ":".intercalate ((pieces.drop (start + length)).map hex)

/-- The text of a host. -/
def UrlHost.text : UrlHost → String
  | .domain d => d
  | .ipv4 a => ".".intercalate ([24, 16, 8, 0].map fun k => natText (a / Nat.pow 2 k % 256))
  | .ipv6 ps => "[" ++ ipv6Text ps ++ "]"

/-- Decodes `%XY` escapes into bytes; other characters stand for their UTF-8. -/
def percentDecode : List Char → Bytes
  | '%' :: a :: b :: rest =>
    match Hex.value? a, Hex.value? b with
    | some x, some y => UInt8.ofNat (16 * x + y) :: percentDecode rest
    | _, _ => 37 :: percentDecode (a :: b :: rest)
  | c :: rest => Utf8.encode (String.singleton c) ++ percentDecode rest
  | [] => []

/-- Reads the host of a special URL. -/
def parseHost (s : String) : Except UrlError UrlHost := do
  if s.startsWith "[" then
    if !s.endsWith "]" then throw .invalidIpv6
    return .ipv6 (← parseIpv6 ((s.drop 1).dropEnd 1).toString)
  let some domain := Utf8.decode? (percentDecode s.toList) | throw .invalidDomain
  let domain := String.ofList (domain.toList.map Char.toLower)
  if domain.any isForbiddenDomainChar then throw .invalidDomain
  if !Idna.domainAcceptable domain then throw .invalidDomain
  if domain.isEmpty then throw .emptyHost
  if endsInNumber domain then return .ipv4 (← parseIpv4 domain)
  return .domain domain

/-- Reads the host of a URL of another scheme. -/
def parseOpaqueHost (s : String) : Except UrlError UrlHost := do
  if s.startsWith "[" then
    if !s.endsWith "]" then throw .invalidIpv6
    return .ipv6 (← parseIpv6 ((s.drop 1).dropEnd 1).toString)
  if s.any isForbiddenHostChar then throw .invalidDomainCharacter
  return .domain (percentEncode inControlSet s)

/-- Whether a path segment is `.`, also written `%2e`. -/
def isSingleDot (s : String) : Bool :=
  let l := String.ofList (s.toList.map Char.toLower)
  l == "." || l == "%2e"

/-- Whether a path segment is `..`, with either dot written `%2e`. -/
def isDoubleDot (s : String) : Bool :=
  let l := String.ofList (s.toList.map Char.toLower)
  l == ".." || l == ".%2e" || l == "%2e." || l == "%2e%2e"

/-- The segments of a path with `.` dropped and `..` removing the segment before it;
either one last leaves an empty segment, so the path ends in `/`. -/
def resolveSegments (segments : List String) : List String :=
  let n := segments.length
  segments.zipIdx.foldl (fun (acc : List String) (seg, i) =>
    let tail := if i + 1 == n then [""] else []
    if isDoubleDot seg then acc.dropLast ++ tail
    else if isSingleDot seg then acc ++ tail
    else acc ++ [seg]) []

/-- A hierarchical path from the text after the authority: split at the slashes the
scheme knows, each segment encoded, dots resolved. -/
def hierarchicalPath (special : Bool) (cs : List Char) : String :=
  let isSlash := fun (c : Char) => c == '/' || (special && c == '\\')
  let rest := match cs with
    | c :: more => if isSlash c then more else cs
    | [] => []
  let segments := (String.ofList (rest.map fun c => if isSlash c then '/' else c)).splitOn "/"
  "/" ++ "/".intercalate (resolveSegments (segments.map (percentEncode inPathSet)))

/-- Splits an authority at its last `@` into user information and the rest. -/
def splitUserinfo (auth : List Char) : Option (List Char) × List Char :=
  match auth.reverse.findIdx? (· == '@') with
  | some j => (some (auth.take (auth.length - 1 - j)), auth.drop (auth.length - j))
  | none => (none, auth)

/-- Splits host and port at the first colon outside brackets. -/
def splitHostPort (inside : Bool) (acc : List Char) : List Char → List Char × Option (List Char)
  | [] => (acc.reverse, none)
  | c :: rest =>
    if c == ':' && !inside then (acc.reverse, some rest)
    else splitHostPort (if c == '[' then true else if c == ']' then false else inside) (c :: acc) rest

/-- Reads a port: digits only, at most 65535; none when empty or the default. -/
def parsePort (scheme : String) (ds : List Char) : Except UrlError (Option Nat) :=
  if ds.isEmpty then .ok none
  else if !ds.all Char.isDigit then .error .invalidPort
  else
    let n := ds.foldl (fun n c => 10 * n + (c.toNat - '0'.toNat)) 0
    if n > 65535 then .error .invalidPort
    else .ok (if defaultPort scheme == some n then none else some n)

/-- Reads the authority of a URL: user, password, host and port. -/
def parseAuthority (scheme : String) (auth : List Char) :
    Except UrlError (String × Option String × UrlHost × Option Nat) := do
  let special := isSpecialScheme scheme
  let (userinfo, hostPort) := splitUserinfo auth
  let (user, password) := match userinfo with
    | some ui => match ui.findIdx? (· == ':') with
      | some k =>
        let pass := ui.drop (k + 1)
        (percentEncode inUserinfoSet (String.ofList (ui.take k)),
          if pass.isEmpty then none else some (percentEncode inUserinfoSet (String.ofList pass)))
      | none => (percentEncode inUserinfoSet (String.ofList ui), none)
    | none => ("", none)
  let (hostText, portText) := splitHostPort false [] hostPort
  if hostText.isEmpty && (special || portText.isSome || !user.isEmpty || password.isSome) then
    throw .emptyHost
  let host ← if hostText.isEmpty then pure (.domain "")
    else if special then parseHost (String.ofList hostText)
    else parseOpaqueHost (String.ofList hostText)
  let port ← match portText with
    | some ds => parsePort scheme ds
    | none => pure none
  return (user, password, host, port)

/-- Reads the host of a `file` URL; `localhost` stands for no host. -/
def parseFileHost (cs : List Char) : Except UrlError UrlHost := do
  if cs.isEmpty then return .domain ""
  match ← parseHost (String.ofList cs) with
  | .domain "localhost" => return .domain ""
  | h => return h

/-- Reads an absolute URL. -/
def Url.parse (s : String) : Except UrlError Url := do
  let cs := s.toList.filter fun c => c != '\t' && c != '\n' && c != '\r'
  let some (scheme, rest) := splitScheme cs | throw .relativeWithoutBase
  let special := isSpecialScheme scheme
  let (beforeQuery, query) := match rest.findIdx? (· == '?') with
    | some k => (rest.take k, some (String.ofList (rest.drop (k + 1))))
    | none => (rest, none)
  let query := query.map (percentEncode (if special then inSpecialQuerySet else inQuerySet))
  let isSlash := fun (c : Char) => c == '/' || (special && c == '\\')
  let endsAuthority := fun (c : Char) => isSlash c || c == '#'
  if scheme == "file" then
    let afterSlashes := match beforeQuery with
      | a :: b :: more => if isSlash a && isSlash b then some more else none
      | _ => none
    match afterSlashes with
    | some more =>
      let auth := more.takeWhile (! endsAuthority ·)
      let host ← parseFileHost auth
      return ⟨scheme, "", none, some host, none,
        hierarchicalPath true (more.drop auth.length), query⟩
    | none => return ⟨scheme, "", none, some (.domain ""), none,
        hierarchicalPath true beforeQuery, query⟩
  let afterSlashes : Option (List Char) :=
    if special then some (beforeQuery.dropWhile isSlash)
    else match beforeQuery with
      | '/' :: '/' :: more => some more
      | _ => none
  match afterSlashes with
  | some more =>
    let auth := more.takeWhile (! endsAuthority ·)
    let (user, password, host, port) ← parseAuthority scheme auth
    let pathPart := more.drop auth.length
    let path := if pathPart.isEmpty && !special then "" else hierarchicalPath special pathPart
    return ⟨scheme, user, password, some host, port, path, query⟩
  | none =>
    let path := match beforeQuery with
      | '/' :: _ => hierarchicalPath false beforeQuery
      | _ => percentEncode inControlSet (String.ofList beforeQuery)
    return ⟨scheme, "", none, none, none, path, query⟩

/-- The text of a URL. -/
def Url.render (u : Url) : String :=
  let credentials :=
    if u.username.isEmpty && u.password.isNone then ""
    else u.username ++ (match u.password with
      | some p => ":" ++ p
      | none => "") ++ "@"
  u.scheme ++ ":" ++
    (match u.host with
      | some h => "//" ++ credentials ++ h.text ++
          (match u.port with
            | some p => ":" ++ natText p
            | none => "")
      | none => "") ++
    u.path ++
    (match u.query with
      | some q => "?" ++ q
      | none => "")

/-- Whether the URL carries a user name or a password. -/
def Url.hasCredentials (u : Url) : Bool := !u.username.isEmpty || u.password.isSome

/-- The host as text, when there is one. -/
def Url.hostText? (u : Url) : Option String := u.host.map UrlHost.text

/-- The port, or the scheme's default. -/
def Url.portOrDefault? (u : Url) : Option Nat := u.port.orElse fun _ => defaultPort u.scheme

end HttpCheck.Http
