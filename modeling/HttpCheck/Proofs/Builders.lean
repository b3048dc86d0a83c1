import HttpCheck.Proofs.Encoding
/-!
# When a reference builder refuses a request

Each reference builder either changes the request or refuses it and leaves it exactly as
it was, and it refuses for a reason that depends only on what it was made from and on the
form of the target. A header is refused for a name that is not a token (checked first) or
for a value with a control octet other than tab, or DEL. An encoded body or query is
refused when its value cannot be encoded. A query with something to add is refused on a
target that is an authority alone, and on the asterisk `*`, since neither can carry a
query.
-/
namespace HttpCheck

open HttpCheck.Http HttpCheck.Utf8

/-! ### Header names and values -/

namespace Http

/-- A header name: a non-empty token of at most 65535 octets. -/
def IsHeaderName (name : String) : Prop :=
  encode name ≠ [] ∧ (encode name).length ≤ 65535 ∧ ∀ b ∈ encode name, isTokenByte b = true

instance (name : String) : Decidable (IsHeaderName name) :=
  inferInstanceAs (Decidable (_ ∧ _ ∧ _))

/-- An octet that no header value holds: a control octet other than tab, or DEL. -/
def IsRejectedOctet (b : UInt8) : Prop := (b.toNat < 32 ∧ b.toNat ≠ 9) ∨ b.toNat = 127

instance (b : UInt8) : Decidable (IsRejectedOctet b) := inferInstanceAs (Decidable (_ ∨ _))

/-- A text that some octet keeps out of a header value. -/
def HasRejectedOctet (s : String) : Prop := ∃ b ∈ encode s, IsRejectedOctet b

instance (s : String) : Decidable (HasRejectedOctet s) :=
  inferInstanceAs (Decidable (∃ b ∈ encode s, IsRejectedOctet b))

theorem HeaderName.ofText?_eq_none_iff (name : String) :
    HeaderName.ofText? name = none ↔ ¬ IsHeaderName name := by
  simp [HeaderName.ofText?, HeaderName.parse?, IsHeaderName, List.all_eq_true]

theorem HeaderName.isHeaderName_of_ofText? {name : String} {n : HeaderName}
    (h : HeaderName.ofText? name = some n) : IsHeaderName name :=
  Decidable.of_not_not fun hn => by simp [(HeaderName.ofText?_eq_none_iff name).2 hn] at h

theorem isValueByte_eq_false_iff (b : UInt8) : isValueByte b = false ↔ IsRejectedOctet b := by
  simp only [isValueByte, IsRejectedOctet, Bool.or_eq_false_iff, Bool.and_eq_false_iff,
    decide_eq_false_iff_not, bne_eq_false_iff_eq, beq_eq_false_iff_ne, UInt8.le_iff_toNat_le,
    ← UInt8.toNat_inj, ne_eq]
  simp only [UInt8.toNat_ofNat]
  omega

theorem HeaderValue.ofText?_eq_none_iff (s : String) :
    HeaderValue.ofText? s = none ↔ HasRejectedOctet s := by
  simp [HeaderValue.ofText?, HeaderValue.parse?, List.all_eq_true, HasRejectedOctet,
    ← isValueByte_eq_false_iff]

/-- A text with no rejected octet is the plain value of its octets. -/
theorem HeaderValue.ofText?_of_not_rejected {s : String} (h : ¬ HasRejectedOctet s) :
    HeaderValue.ofText? s = some ⟨encode s, false⟩ := by
  have hall : (encode s).all isValueByte = true := by
    simp only [List.all_eq_true]
    intro b hb
    cases hv : isValueByte b with
    | true => rfl
    | false => exact absurd ⟨b, hb, (isValueByte_eq_false_iff b).1 hv⟩ h
  simp [HeaderValue.ofText?, HeaderValue.parse?, hall]

/-- A text reads as a header value exactly when no octet of it is rejected, and then as
the plain value of its octets. -/
theorem HeaderValue.ofText?_eq_some_iff {s : String} {v : HeaderValue} :
    HeaderValue.ofText? s = some v ↔ ¬ HasRejectedOctet s ∧ v = ⟨encode s, false⟩ := by
  constructor
  · intro h
    have hvalue : ¬ HasRejectedOctet s := fun hr => by
      simp [(HeaderValue.ofText?_eq_none_iff s).2 hr] at h
    rw [HeaderValue.ofText?_of_not_rejected hvalue, Option.some.injEq] at h
    exact ⟨hvalue, h.symm⟩
  · rintro ⟨hvalue, rfl⟩
    exact HeaderValue.ofText?_of_not_rejected hvalue

@[simp] theorem hasRejectedOctet_append (s t : String) :
    HasRejectedOctet (s ++ t) ↔ HasRejectedOctet s ∨ HasRejectedOctet t := by
  simp only [HasRejectedOctet, encode_append, List.mem_append, or_and_right, exists_or]

theorem not_hasRejectedOctet_of_ascii {s : String}
    (h : ∀ c ∈ s.toList, asciiWith isValueByte c = true) : ¬ HasRejectedOctet s := by
  rintro ⟨b, hb, hr⟩
  have hv := encode_of_asciiWith h b hb
  rw [← Bool.not_eq_false, isValueByte_eq_false_iff] at hv
  exact hv hr

/-- The names the fixed header builders write are header names. -/
theorem isHeaderName_fixed :
    IsHeaderName "user-agent" ∧ IsHeaderName "accept" ∧ IsHeaderName "content-type" := by
  -- every octet is checked as one test over the list
  simp only [IsHeaderName, encode_eq_flatMap, ← List.all_eq_true]
  decide

/-- The path a well-formed target shows is written with path octets. -/
theorem Uri.path_bytes {u : Uri} (hu : u.WellFormed) :
    ∀ b ∈ encode u.path, PathAndQuery.isPathByte b = true := by
  have hslash : encode "/" = [0x2F] := by rw [encode_eq_flatMap]; rfl
  unfold Uri.path PathAndQuery.shownPath
  split
  · split
    · simp [hslash, PathAndQuery.isPathByte]
    · exact hu.path_bytes
  · simp [encode_eq_flatMap]

end Http

/-! ### Headers and credentials -/

namespace Check

theorem insertHeader_eq_error_iff (req : Request) (name value : String) (e : BuildError) :
    insertHeader req name value = .error e ↔
      (¬ IsHeaderName name ∧ e = .invalidHeaderName name) ∨
      (IsHeaderName name ∧ HasRejectedOctet value ∧ e = .invalidHeaderValue name) := by
  unfold insertHeader
  cases hn : HeaderName.ofText? name with
  | none =>
    have hname := (HeaderName.ofText?_eq_none_iff name).1 hn
    simp [hname, eq_comm]
  | some n =>
    have hname := HeaderName.isHeaderName_of_ofText? hn
    cases hv : HeaderValue.ofText? value with
    | none =>
      have hvalue := (HeaderValue.ofText?_eq_none_iff value).1 hv
      simp [hname, hvalue, eq_comm]
    | some v =>
      have hvalue := (HeaderValue.ofText?_eq_some_iff.1 hv).1
      simp [hname, hvalue]

theorem setAuthorization_eq_error_iff (req : Request) (value : String) (e : BuildError) :
    setAuthorization req value = .error e ↔
      HasRejectedOctet value ∧ e = .invalidHeaderValue "authorization" := by
  unfold setAuthorization
  cases hv : HeaderValue.ofText? value with
  | none =>
    simp [(HeaderValue.ofText?_eq_none_iff value).1 hv, eq_comm]
  | some v =>
    have hvalue := (HeaderValue.ofText?_eq_some_iff.1 hv).1
    simp [hvalue]

/-- Basic credentials are always a header value: base64 is visible ASCII. -/
theorem not_hasRejectedOctet_basic (bs : Bytes) :
    ¬ HasRejectedOctet ("Basic " ++ Base64.encode bs) := by
  have hscheme : ¬ HasRejectedOctet "Basic " := by
    simp only [HasRejectedOctet, encode_eq_flatMap]
    decide
  have hcode : ¬ HasRejectedOctet (Base64.encode bs) :=
    not_hasRejectedOctet_of_ascii (by simpa [Base64.encode] using Base64.encodeChars_value bs)
  simp [hscheme, hcode]

theorem not_hasRejectedOctet_bearer : ¬ HasRejectedOctet "Bearer " := by
  simp only [HasRejectedOctet, encode_eq_flatMap]
  decide

/-! ### Encoded bodies -/

section EncodedBody

variable {label : String} {encoded : Except BuildError Bytes} {defaultType : String}
  {req : Request}

/-- A body builder sets the encoded body, with its default content type. -/
theorem encodedBody_eq_ok {q : Request} :
    (encodedBody label encoded defaultType).apply req = (q, .ok ()) ↔
      ∃ body, encoded = .ok body ∧ q = setBody req body defaultType := by
  rw [encodedBody, Builder.checked_apply_eq_ok_iff]
  cases encoded <;> simp [eq_comm]

/-- A body builder fails exactly when the encoding failed, with its error, and leaves the
request as it was. -/
theorem encodedBody_eq_error {q : Request} {f : Failure} :
    (encodedBody label encoded defaultType).apply req = (q, .error f) ↔
      q = req ∧ ∃ e, encoded = .error e ∧ f = .build e := by
  rw [encodedBody, Builder.checked_apply_eq_error_iff]
  cases encoded <;> simp [eq_comm]

end EncodedBody

/-! ### Adding to the query -/

section AppendQuery

variable {req : Request} {enc : String}

@[simp] theorem appendQuery_empty (req : Request) : appendQuery req "" = .ok req := by
  simp [appendQuery]

/-- Adding a non-empty query in query octets writes the path, `?` and the joined query,
reads that back, and puts it on the target. -/
theorem appendQuery_eq_withPathAndQuery (hu : req.uri.WellFormed) (hne : enc ≠ "")
    (henc : ∀ b ∈ encode enc, PathAndQuery.isQueryByte b = true) :
    appendQuery req enc =
      ((req.uri.withPathAndQuery ⟨req.uri.path, some (Uri.joinQuery req.uri.query enc)⟩).mapError
        fun e => BuildError.invalidUri e.message).map fun u' => { req with uri := u' } := by
  have hparse : PathAndQuery.parse (encode (req.uri.path ++ "?" ++ Uri.joinQuery req.uri.query enc)) =
      .ok ⟨req.uri.path, some (Uri.joinQuery req.uri.query enc)⟩ :=
    PathAndQuery.parse_path_query (Uri.path_bytes hu) (Uri.query_bytes_join hu.query_bytes henc)
  unfold appendQuery
  rw [if_neg (by simpa using hne)]
  dsimp only
  -- the text written is the path, `?` and the joined query, whatever query there was
  cases hq : req.uri.query with
  | none =>
    simp only [hq, Uri.joinQuery] at hparse ⊢
    simp only [hparse]
    cases req.uri.withPathAndQuery ⟨req.uri.path, some enc⟩ <;> rfl
  | some q =>
    by_cases he : q.isEmpty
    · simp only [hq, Uri.joinQuery, he, if_true] at hparse ⊢
      simp only [hparse]
      cases req.uri.withPathAndQuery ⟨req.uri.path, some enc⟩ <;> rfl
    · simp only [hq, Uri.joinQuery, he, Bool.false_eq_true, if_false,
        String.append_assoc] at hparse ⊢
      simp only [hparse]
      cases req.uri.withPathAndQuery ⟨req.uri.path, some (q ++ ("&" ++ enc))⟩ <;> rfl

theorem appendQuery_authority (hu : req.uri.WellFormed) (ha : req.uri.IsAuthorityForm)
    (hne : enc ≠ "") (henc : ∀ b ∈ encode enc, PathAndQuery.isQueryByte b = true) :
    appendQuery req enc = .error (.invalidUri "scheme missing") := by
  rw [appendQuery_eq_withPathAndQuery hu hne henc, Uri.withPathAndQuery_authority ha]
  rfl

theorem appendQuery_asterisk (hu : req.uri.WellFormed) (hs : req.uri.IsAsterisk)
    (hne : enc ≠ "") (henc : ∀ b ∈ encode enc, PathAndQuery.isQueryByte b = true) :
    appendQuery req enc = .error (.invalidUri "path does not start with slash") := by
  rw [appendQuery_eq_withPathAndQuery hu hne henc, Uri.withPathAndQuery_asterisk hs]
  rfl

/-- On any other target the parameters join its query. -/
theorem appendQuery_slash (hu : req.uri.WellFormed) (ha : ¬ req.uri.IsAuthorityForm)
    (hs : ¬ req.uri.IsAsterisk) (hne : enc ≠ "")
    (henc : ∀ b ∈ encode enc, PathAndQuery.isQueryByte b = true) :
    appendQuery req enc = .ok { req with uri := req.uri.withQuery enc } := by
  obtain ⟨⟨r, hr⟩, -⟩ := Uri.path_slash hu ha hs
  rw [appendQuery_eq_withPathAndQuery hu hne henc, hr, Uri.withPathAndQuery_slash ha]
  simp [Uri.withQuery, hr, Except.map]

/-- Adding parameters in query octets fails exactly when there is something to add and
the target is an authority alone or the asterisk. -/
theorem appendQuery_eq_error_iff (hu : req.uri.WellFormed)
    (henc : ∀ b ∈ encode enc, PathAndQuery.isQueryByte b = true) (e : BuildError) :
    appendQuery req enc = .error e ↔
      enc ≠ "" ∧ ((req.uri.IsAuthorityForm ∧ e = .invalidUri "scheme missing") ∨
        (req.uri.IsAsterisk ∧ e = .invalidUri "path does not start with slash")) := by
  by_cases hne : enc = ""
  · subst hne
    simp
  by_cases ha : req.uri.IsAuthorityForm
  · -- an authority alone is no asterisk: the asterisk has no authority
    have hs : ¬ req.uri.IsAsterisk := fun hs => ha.2 hs.2.1
    simp [appendQuery_authority hu ha hne henc, hne, ha, hs, eq_comm]
  by_cases hs : req.uri.IsAsterisk
  · simp [appendQuery_asterisk hu hs hne henc, hne, ha, hs, eq_comm]
  · simp [appendQuery_slash hu ha hs hne henc, ha, hs]

end AppendQuery

/-! ### The reference builders -/

/-- The reference builders, by what each is made from. -/
inductive RefBuilder where
  | header (name value : String)
  | userAgent (value : String)
  | accept (mediaType : String)
  | contentType (mediaType : String)
  | textBody (text : String)
  | bytesBody (bytes : Bytes)
  | jsonBody (value : Encodable)
  | formBody (source : FormSource)
  | query (source : FormSource)
  | basicAuth (user password : String)
  | bearerAuth (token : String)
  | timeout (limit : Duration)
  | cancelWith (cancelled : Bool)

namespace RefBuilder

/-- The builder itself. -/
def toBuilder : RefBuilder → Builder
  | .header n v => Check.header n v
  | .userAgent v => Check.userAgent v
  | .accept t => Check.accept t
  | .contentType t => Check.contentType t
  | .textBody t => Check.textBody t
  | .bytesBody bs => Check.bytesBody bs
  | .jsonBody v => Check.jsonBody v
  | .formBody src => Check.formBody src
  | .query src => Check.query src
  | .basicAuth u p => Check.basicAuth u p
  | .bearerAuth t => Check.bearerAuth t
  | .timeout d => Check.timeout d
  | .cancelWith c => Check.cancelWith c

/-- When a builder refuses a request whose target is given, and with what error. Basic
credentials, text and byte bodies, deadlines and cancellation are never refused. -/
def Refuses : RefBuilder → Uri → BuildError → Prop
  | .header n v, _, e =>
    (¬ IsHeaderName n ∧ e = .invalidHeaderName n) ∨
      (IsHeaderName n ∧ HasRejectedOctet v ∧ e = .invalidHeaderValue n)
  | .userAgent v, _, e => HasRejectedOctet v ∧ e = .invalidHeaderValue "user-agent"
  | .accept t, _, e => HasRejectedOctet t ∧ e = .invalidHeaderValue "accept"
  | .contentType t, _, e => HasRejectedOctet t ∧ e = .invalidHeaderValue "content-type"
  | .jsonBody v, _, e => ∃ m, v.encode = .error m ∧ e = .serialization m
  | .formBody src, _, e => src.encode = .error e
  | .query src, u, e =>
    src.encode = .error e ∨ ∃ enc, src.encode = .ok enc ∧ enc ≠ "" ∧
      ((u.IsAuthorityForm ∧ e = .invalidUri "scheme missing") ∨
        (u.IsAsterisk ∧ e = .invalidUri "path does not start with slash"))
  | .bearerAuth t, _, e => HasRejectedOctet t ∧ e = .invalidHeaderValue "authorization"
  | .textBody _, _, _ | .bytesBody _, _, _ | .basicAuth _ _, _, _ | .timeout _, _, _
  | .cancelWith _, _, _ => False

/-- A reference builder refuses a request with a well-formed target exactly as the rules
say, with the error they give, and leaves the request as it was. -/
theorem apply_eq_error_iff (rb : RefBuilder) {req : Request} (hu : req.uri.WellFormed)
    {q : Request} {f : Failure} :
    rb.toBuilder.apply req = (q, .error f) ↔
      q = req ∧ ∃ e, rb.Refuses req.uri e ∧ f = .build e := by
  obtain ⟨hua, hac, hct⟩ := isHeaderName_fixed
  cases rb with
  | header n v | userAgent v | accept v | contentType v =>
    simp [toBuilder, Refuses, Check.header, Check.userAgent, Check.accept, Check.contentType,
      headerBuilder, Builder.checked_apply_eq_error_iff, insertHeader_eq_error_iff, hua, hac, hct]
  | bearerAuth t =>
    simp [toBuilder, Refuses, Check.bearerAuth, Builder.checked_apply_eq_error_iff,
      setAuthorization_eq_error_iff, not_hasRejectedOctet_bearer]
  | basicAuth u p =>
    have hb := not_hasRejectedOctet_basic (encode (u ++ ":" ++ p))
    simp only [hasRejectedOctet_append, not_or, encode_append, List.append_assoc] at hb
    simp [toBuilder, Refuses, Check.basicAuth, Builder.checked_apply_eq_error_iff,
      setAuthorization_eq_error_iff, hb]
  | textBody t | bytesBody bs =>
    simp [toBuilder, Refuses, Check.textBody, Check.bytesBody, encodedBody_eq_error]
  | timeout d | cancelWith c => simp [toBuilder, Refuses, Check.timeout, Check.cancelWith]
  | jsonBody v => simp [toBuilder, Refuses, Check.jsonBody, encodedBody_eq_error]
  | formBody src => simp [toBuilder, Refuses, Check.formBody, encodedBody_eq_error]
  | query src =>
    cases hv : src.encode with
    | error e =>
      rw [toBuilder, Check.query, Builder.checked_apply_eq_error_iff]
      simp [Refuses, hv, eq_comm]
    | ok enc =>
      simp [toBuilder, Refuses, Check.query, Builder.checked_apply_eq_error_iff, hv,
        appendQuery_eq_error_iff hu (FormSource.encode_query hv)]

/-- A reference builder either succeeds, or refuses the request and leaves it exactly as it
was. It refuses a request with a well-formed target exactly as the rules say, with the error
they give; the rules read only the builder and the target, so a refused request, left as it
was, is refused again with the same error. -/
theorem refusal_leaves_request (rb : RefBuilder) (req : Request) (hu : req.uri.WellFormed) :
    (∀ q f, rb.toBuilder.apply req = (q, .error f) ↔
      q = req ∧ ∃ e, rb.Refuses req.uri e ∧ f = .build e) ∧
    (∀ q f, rb.toBuilder.apply req = (q, .error f) → rb.toBuilder.apply q = (q, .error f)) := by
  refine ⟨fun _ _ => apply_eq_error_iff rb hu, fun q f h => ?_⟩
  obtain ⟨rfl, -⟩ := (apply_eq_error_iff rb hu).1 h
  exact h

/-- A header name with a space in it is refused, for its name, and the request is left as
it was. -/
theorem refusal_leaves_request_spaced_name :
    (⟨none, "", ⟨"/", none⟩⟩ : Uri).WellFormed ∧
      ((RefBuilder.header "x y" "1").toBuilder.apply
          ⟨⟨"GET"⟩, ⟨none, "", ⟨"/", none⟩⟩, .empty, [], .background⟩ =
          (⟨⟨"GET"⟩, ⟨none, "", ⟨"/", none⟩⟩, .empty, [], .background⟩,
            .error (.build (.invalidHeaderName "x y"))) ↔
        (⟨⟨"GET"⟩, ⟨none, "", ⟨"/", none⟩⟩, .empty, [], .background⟩ : Request) =
            ⟨⟨"GET"⟩, ⟨none, "", ⟨"/", none⟩⟩, .empty, [], .background⟩ ∧
          ∃ e, (RefBuilder.header "x y" "1").Refuses ⟨none, "", ⟨"/", none⟩⟩ e ∧
            Failure.build (.invalidHeaderName "x y") = .build e) := by
  have hroot : (⟨none, "", ⟨"/", none⟩⟩ : Uri).WellFormed :=
    Uri.wellFormed_of_parse (show Uri.parse [0x2F] = .ok ⟨none, "", ⟨"/", none⟩⟩ from rfl)
  exact ⟨hroot, (refusal_leaves_request _ _ hroot).1 _ _⟩

end RefBuilder

/-- The asterisk target takes no query: a request for `*` read from its octets is refused
a query that encodes to something, although the target has no authority, and is left as it
was. -/
theorem query_refused_on_asterisk :
    Request.new [71, 69, 84] [0x2A] =
        .ok ⟨⟨"GET"⟩, ⟨none, "", ⟨"*", none⟩⟩, .empty, [], .background⟩ ∧
      FormSource.encode (.pairs [(.string "a", .string "1")]) = .ok "a=1" ∧
      (query (.pairs [(.string "a", .string "1")])).apply
          ⟨⟨"GET"⟩, ⟨none, "", ⟨"*", none⟩⟩, .empty, [], .background⟩ =
        (⟨⟨"GET"⟩, ⟨none, "", ⟨"*", none⟩⟩, .empty, [], .background⟩,
          .error (.build (.invalidUri "path does not start with slash"))) := by
  have henc : FormSource.encode (.pairs [(.string "a", .string "1")]) = .ok "a=1" := by
    simp [FormSource.encode, Form.encodePairs, Form.joinPairs, Form.encodePair,
      Form.scalarText, Form.encodeText, encode_eq_flatMap, bind, Except.bind, pure, Except.pure]
    decide
  have hu : Uri.WellFormed ⟨none, "", ⟨"*", none⟩⟩ := Uri.wellFormed_of_parse
    (show Uri.parse [0x2A] = .ok ⟨none, "", ⟨"*", none⟩⟩ from rfl)
  refine ⟨rfl, henc, Builder.checked_apply_of_error ?_⟩
  simp only [henc]
  rw [appendQuery_asterisk hu ⟨rfl, rfl, rfl⟩ (by decide) (FormSource.encode_query henc)]
  rfl

end Check
end HttpCheck
