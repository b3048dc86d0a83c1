import HttpCheck.Check.Step
import HttpCheck.Form.Encode
import HttpCheck.Json.Encodable
import HttpCheck.Text.Base64
/-!
# Reference builders

The builders a test usually needs. Each checks before it writes, so one that fails
leaves the request as it was. Header builders insert (replacing every earlier value of
the name) after checking the name, then the value. Body builders replace the body and
add their default content type only when the request has none. Encoded bodies and
queries are encoded when the builder is made, so a value that cannot be encoded fails
every time the builder is applied. Credentials are stored as sensitive values of
`authorization`. A deadline and a cancellation state are set in place and never fail.
-/
namespace HttpCheck.Check

open HttpCheck.Http

/-- Inserts a header given as text: the name must be a token, the value a header value. -/
def insertHeader (req : Request) (name value : String) : Except BuildError Request :=
  match HeaderName.ofText? name with
  | none => .error (.invalidHeaderName name)
  | some n =>
    match HeaderValue.ofText? value with
    | none => .error (.invalidHeaderValue name)
    | some v => .ok { req with headers := req.headers.insert n v }

/-- A builder that inserts one header. -/
def headerBuilder (label name value : String) : Builder :=
  .checked label fun req => (insertHeader req name value).mapError .build

/-- Sets a header: named `header(name)`. -/
def header (name value : String) : Builder := headerBuilder ("header(" ++ name ++ ")") name value

/-- Sets `user-agent`. -/
def userAgent (value : String) : Builder := headerBuilder "user_agent" "user-agent" value

/-- Sets `accept`: named `accept(type)`. -/
def accept (mediaType : String) : Builder :=
  headerBuilder ("accept(" ++ mediaType ++ ")") "accept" mediaType

/-- Sets `content-type`: named `content_type(type)`. -/
def contentType (mediaType : String) : Builder :=
  headerBuilder ("content_type(" ++ mediaType ++ ")") "content-type" mediaType

/-- The name `content-type`. -/
def contentTypeName : HeaderName := ⟨"content-type"⟩

/-- Replaces the body, adding a default content type when there is none. -/
def setBody (req : Request) (body : Bytes) (defaultType : String) : Request :=
  { req with
    body := body
    headers := req.headers.insertIfAbsent contentTypeName ⟨Utf8.encode defaultType, false⟩ }

/-- A builder that sets an encoded body, or fails with the encoding error. -/
def encodedBody (label : String) (encoded : Except BuildError Bytes) (defaultType : String) :
    Builder :=
  .checked label fun req =>
    match encoded with
    | .ok body => .ok (setBody req body defaultType)
    | .error e => .error (.build e)

/-- A text body, `text/plain; charset=utf-8` by default. -/
def textBody (text : String) : Builder :=
  encodedBody "text_body" (.ok (Utf8.encode text)) "text/plain; charset=utf-8"

/-- A byte body, `application/octet-stream` by default. -/
def bytesBody (bytes : Bytes) : Builder :=
  encodedBody "bytes_body" (.ok bytes) "application/octet-stream"

/-- A JSON body, `application/json` by default. -/
def jsonBody (value : Encodable) : Builder :=
  encodedBody "json_body"
    ((value.encode.map Utf8.encode).mapError BuildError.serialization) "application/json"

/-- What a form or a query is made from: a JSON value, or name-value pairs in order. -/
inductive FormSource where
  | value (v : Json)
  | pairs (ps : List (Json × Json))
  deriving Inhabited

/-- The encoded form. -/
def FormSource.encode : FormSource → Except BuildError String
  | .value v => (Form.encodeJson v).mapError fun e => .serialization e.message
  | .pairs ps => (Form.encodePairs ps).mapError fun e => .serialization e.message

/-- A form body, `application/x-www-form-urlencoded` by default. -/
def formBody (source : FormSource) : Builder :=
  encodedBody "form_body" (source.encode.map Utf8.encode) "application/x-www-form-urlencoded"

/-- Adds encoded parameters to the query of a request: after the present query (when it
is not empty) with `&`, or as the query. Nothing changes when there is nothing to add. -/
def appendQuery (req : Request) (encoded : String) : Except BuildError Request :=
  if encoded.isEmpty then .ok req
  else
    let u := req.uri
    let text := match u.query with
      | some q => if q.isEmpty then u.path ++ "?" ++ encoded else u.path ++ "?" ++ q ++ "&" ++ encoded
      | none => u.path ++ "?" ++ encoded
    match PathAndQuery.parse (Utf8.encode text) with
    | .error e => .error (.invalidUri e.message)
    | .ok pq =>
      match u.withPathAndQuery pq with
      | .error e => .error (.invalidUri e.message)
      | .ok u' => .ok { req with uri := u' }

/-- Adds query parameters. -/
def query (source : FormSource) : Builder :=
  .checked "query" fun req =>
    match source.encode with
    | .error e => .error (.build e)
    | .ok encoded => (appendQuery req encoded).mapError .build

/-- The name `authorization`. -/
def authorizationName : HeaderName := ⟨"authorization"⟩

/-- Sets a sensitive `authorization` value. -/
def setAuthorization (req : Request) (value : String) : Except BuildError Request :=
  match HeaderValue.ofText? value with
  | none => .error (.invalidHeaderValue "authorization")
  | some v => .ok { req with headers := req.headers.insert authorizationName { v with sensitive := true } }

/-- Basic credentials: `Basic ` and the base64 of `user:password`. -/
def basicAuth (user password : String) : Builder :=
  .checked "basic_auth" fun req =>
    (setAuthorization req ("Basic " ++ Base64.encode (Utf8.encode (user ++ ":" ++ password)))).mapError
      .build

/-- A bearer token: `Bearer ` and the token. -/
def bearerAuth (token : String) : Builder :=
  .checked "bearer_auth" fun req => (setAuthorization req ("Bearer " ++ token)).mapError .build

/-- Sets the deadline: named `timeout(<ms>ms)` after its whole milliseconds. -/
def timeout (limit : Duration) : Builder :=
  ⟨"timeout(" ++ natText limit.millis ++ "ms)", fun req =>
    ({ req with context := { req.context with timeout := some limit } }, .ok ())⟩

/-- Sets the cancellation state of the request to that of a token. -/
def cancelWith (cancelled : Bool) : Builder :=
  ⟨"cancel_with", fun req =>
    ({ req with context := { req.context with cancelled := cancelled } }, .ok ())⟩

end HttpCheck.Check
