import HttpCheck.Proofs.Builders
import HttpCheck.Proofs.Pipeline
/-!
# Reference builders as a fold

What a test sees of a request is its method, its target, the values of each header name
in order, its body, its deadline and whether it is cancelled (`View`). Each reference
builder that succeeds changes that view by one step of its own (`RefBuilder.step`):
a header replaces every value of its lowercased name, credentials replace
`authorization` with a sensitive value, a body adds its default content type only when
there is none, a query changes only the target. So builders applied in order give the
fold of their steps over the view of the new request.
-/
namespace HttpCheck

open HttpCheck.Http HttpCheck.Utf8

/-! ### Header maps -/

namespace Http.HeaderMap

theorem getAll_insert (m : HeaderMap) (k : HeaderName) (v : HeaderValue) (n : HeaderName) :
    (m.insert k v).getAll n = if n = k then [v] else m.getAll n := by
  by_cases h : n = k
  · subst h
    simp
  · -- the entries of other names pass the filter that drops `k`
    have hkeep : (m.entries.filter fun e => e.1 != k).filter (fun e => e.1 == n) =
        m.entries.filter fun e => e.1 == n := by
      rw [List.filter_filter]
      apply List.filter_congr
      intro e _
      by_cases he : e.1 = n
      · simp [he, h]
      · simp [he]
    simp [insert, getAll, List.filter_append, hkeep, h, Ne.symm h]

theorem getAll_append (m : HeaderMap) (k : HeaderName) (v : HeaderValue) (n : HeaderName) :
    (m.append k v).getAll n = m.getAll n ++ if n = k then [v] else [] := by
  by_cases h : n = k
  · subst h
    simp [append, getAll, List.filter_append]
  · simp [append, getAll, List.filter_append, h, Ne.symm h]

theorem contains_eq_false_iff (m : HeaderMap) (n : HeaderName) :
    m.contains n = false ↔ m.getAll n = [] := by
  simp [contains, getAll, List.filter_eq_nil_iff]

/-- A value is added for a name only when the name has none. -/
theorem getAll_insertIfAbsent (m : HeaderMap) (k : HeaderName) (v : HeaderValue)
    (n : HeaderName) :
    (m.insertIfAbsent k v).getAll n =
      if m.getAll k = [] ∧ n = k then [v] else m.getAll n := by
  unfold insertIfAbsent
  cases hc : m.contains k with
  | true =>
    have hne : m.getAll k ≠ [] := fun h => by simp [(contains_eq_false_iff m k).2 h] at hc
    simp [hne]
  | false =>
    have hnil := (contains_eq_false_iff m k).1 hc
    by_cases h : n = k
    · subst h
      simp [getAll_append, hnil]
    · simp [getAll_append, h]

end Http.HeaderMap

/-! ### Header names, lowered -/

namespace Http

theorem isTokenByte_lt {b : UInt8} (h : isTokenByte b = true) : b.toNat < 0x80 := by
  simp only [isTokenByte, Bool.or_eq_true, Bool.and_eq_true, decide_eq_true_eq, beq_iff_eq,
    UInt8.le_iff_toNat_le, ← UInt8.toNat_inj] at h
  simp only [UInt8.toNat_ofNat] at h
  omega

theorem lowerByte_ascii :
    ∀ n < 0x80, Char.ofNat (lowerByte (UInt8.ofNat n)).toNat = (Char.ofNat n).toLower := by
  decide

/-- A header name is kept in ASCII lowercase, whatever case it was written in. -/
theorem HeaderName.ofText?_of_isHeaderName {name : String} (h : IsHeaderName name) :
    HeaderName.ofText? name = some ⟨name.map Char.toLower⟩ := by
  obtain ⟨hne, hlen, htok⟩ := h
  have hascii := ascii_of_encode fun b hb => isTokenByte_lt (htok b hb)
  have hparse : HeaderName.ofText? name = some ⟨asciiText ((encode name).map lowerByte)⟩ := by
    simp [HeaderName.ofText?, HeaderName.parse?, hne, hlen, List.all_eq_true]
    exact htok
  rw [hparse, encode_of_ascii hascii, String.map_eq_internal]
  simp only [asciiText, List.map_map, Option.some.injEq, HeaderName.mk.injEq]
  congr 1
  apply List.map_congr_left
  intro c hc
  have hlow := lowerByte_ascii c.toNat (hascii c hc)
  rwa [Char.ofNat_toNat] at hlow

theorem lower_fixed : "user-agent".map Char.toLower = "user-agent" ∧
    "accept".map Char.toLower = "accept" ∧ "content-type".map Char.toLower = "content-type" := by
  simp only [String.map_eq_internal]
  decide

end Http

/-! ### The view of a request -/

/-- What a test sees of a request: the values of each header name, in order, each with
its octets and whether it is sensitive. -/
structure View where
  method : Method
  uri : Uri
  headers : HeaderName → List HeaderValue
  body : Bytes
  timeout : Option Duration
  cancelled : Bool

/-- The view of a request. -/
def Http.Request.view (req : Request) : View :=
  ⟨req.method, req.uri, fun n => req.headers.getAll n, req.body, req.context.timeout,
    req.context.cancelled⟩

namespace View

/-- A new request: no headers, no body, no deadline, not cancelled. -/
def initial (method : Method) (uri : Uri) : View := ⟨method, uri, fun _ => [], [], none, false⟩

/-- Every value of a name replaced by the given ones. -/
def setHeader (v : View) (n : HeaderName) (vs : List HeaderValue) : View :=
  { v with headers := fun m => if m = n then vs else v.headers m }

/-- A new body, and a default content type when there is none. -/
def setBody (v : View) (body : Bytes) (defaultType : String) : View :=
  if v.headers Check.contentTypeName = [] then
    ({ v with body := body } : View).setHeader Check.contentTypeName
      [⟨encode defaultType, false⟩]
  else { v with body := body }

end View

/-- A new request is seen with its method and target, and nothing else set. -/
theorem Http.Request.new_view {method target : Bytes} {req : Request}
    (h : Request.new method target = .ok req) :
    req.uri.WellFormed ∧ req.view = View.initial req.method req.uri := by
  unfold Request.new at h
  cases hm : Method.parse? method with
  | none => simp [hm] at h
  | some m =>
    cases hu : Uri.parse target with
    | error e => simp [hm, hu] at h
    | ok u =>
      simp only [hm, hu, Except.ok.injEq] at h
      subst h
      exact ⟨Uri.wellFormed_of_parse hu, by simp [Request.view, View.initial, HeaderMap.getAll,
        HeaderMap.empty, RequestContext.background]⟩

namespace Check

/-- What a reference builder that succeeds does to the view of a request. -/
def RefBuilder.step (v : View) : RefBuilder → View
  | .header n x => v.setHeader ⟨n.map Char.toLower⟩ [⟨encode x, false⟩]
  | .userAgent x => v.setHeader ⟨"user-agent"⟩ [⟨encode x, false⟩]
  | .accept t => v.setHeader ⟨"accept"⟩ [⟨encode t, false⟩]
  | .contentType t => v.setHeader ⟨"content-type"⟩ [⟨encode t, false⟩]
  | .textBody t => v.setBody (encode t) "text/plain; charset=utf-8"
  | .bytesBody bs => v.setBody bs "application/octet-stream"
  | .jsonBody x =>
    match x.encode with
    | .ok s => v.setBody (encode s) "application/json"
    | .error _ => v
  | .formBody src =>
    match src.encode with
    | .ok s => v.setBody (encode s) "application/x-www-form-urlencoded"
    | .error _ => v
  | .query src =>
    match src.encode with
    | .ok s => if s = "" then v else { v with uri := v.uri.withQuery s }
    | .error _ => v
  | .basicAuth u p =>
    v.setHeader ⟨"authorization"⟩
      [⟨encode ("Basic " ++ Base64.encode (encode (u ++ ":" ++ p))), true⟩]
  | .bearerAuth t => v.setHeader ⟨"authorization"⟩ [⟨encode ("Bearer " ++ t), true⟩]
  | .timeout d => { v with timeout := some d }
  | .cancelWith c => { v with cancelled := c }

/-! ### One builder, one step -/

theorem view_insert (req : Request) (k : HeaderName) (v : HeaderValue) :
    ({ req with headers := req.headers.insert k v } : Request).view = req.view.setHeader k [v] := by
  simp [Request.view, View.setHeader, HeaderMap.getAll_insert]

theorem view_setBody (req : Request) (body : Bytes) (defaultType : String) :
    (setBody req body defaultType).view = req.view.setBody body defaultType := by
  by_cases h : req.headers.getAll contentTypeName = []
  · simp [setBody, View.setBody, Request.view, View.setHeader, h, HeaderMap.getAll_insertIfAbsent]
  · simp [setBody, View.setBody, Request.view, h, HeaderMap.getAll_insertIfAbsent]

theorem insertHeader_eq_ok {req q : Request} {name value : String}
    (h : insertHeader req name value = .ok q) :
    q = { req with headers := req.headers.insert ⟨name.map Char.toLower⟩ ⟨encode value, false⟩ } := by
  unfold insertHeader at h
  cases hn : HeaderName.ofText? name with
  | none => simp [hn] at h
  | some n =>
    cases hv : HeaderValue.ofText? value with
    | none => simp [hn, hv] at h
    | some v =>
      simp only [hn, hv, Except.ok.injEq] at h
      obtain ⟨-, rfl⟩ := HeaderValue.ofText?_eq_some_iff.1 hv
      rw [HeaderName.ofText?_of_isHeaderName (HeaderName.isHeaderName_of_ofText? hn),
        Option.some.injEq] at hn
      subst hn
      exact h.symm

theorem setAuthorization_eq_ok {req q : Request} {value : String}
    (h : setAuthorization req value = .ok q) :
    q = { req with headers := req.headers.insert authorizationName ⟨encode value, true⟩ } := by
  unfold setAuthorization at h
  cases hv : HeaderValue.ofText? value with
  | none => simp [hv] at h
  | some v =>
    simp only [hv, Except.ok.injEq] at h
    obtain ⟨-, rfl⟩ := HeaderValue.ofText?_eq_some_iff.1 hv
    exact h.symm

/-- Adding parameters that succeeds joins them to the query, or changes nothing when there
are none, and the target stays well formed. -/
theorem appendQuery_eq_ok {req q : Request} (hu : req.uri.WellFormed) {enc : String}
    (henc : ∀ b ∈ encode enc, PathAndQuery.isQueryByte b = true)
    (h : appendQuery req enc = .ok q) :
    q = (if enc = "" then req else { req with uri := req.uri.withQuery enc }) ∧
      q.uri.WellFormed := by
  by_cases hne : enc = ""
  · subst hne
    simp only [appendQuery_empty, Except.ok.injEq] at h
    subst h
    exact ⟨by simp, hu⟩
  -- a refused target would have given an error
  have ha : ¬ req.uri.IsAuthorityForm := fun ha => by
    simp [appendQuery_authority hu ha hne henc] at h
  have hs : ¬ req.uri.IsAsterisk := fun hs => by
    simp [appendQuery_asterisk hu hs hne henc] at h
  rw [appendQuery_slash hu ha hs hne henc, Except.ok.injEq] at h
  subst h
  exact ⟨by simp [hne], Uri.wellFormed_withQuery hu ha hs henc⟩

/-- A reference builder that succeeds changes the view of the request by its step and
keeps the target well formed. -/
theorem RefBuilder.view_apply {rb : RefBuilder} {req q : Request} (hu : req.uri.WellFormed)
    (h : rb.toBuilder.apply req = (q, .ok ())) : q.view = rb.step req.view ∧ q.uri.WellFormed := by
  obtain ⟨hua, hac, hct⟩ := lower_fixed
  cases rb with
  | header n x | userAgent x | accept x | contentType x =>
    simp only [RefBuilder.toBuilder, Check.header, Check.userAgent, Check.accept,
      Check.contentType, headerBuilder, Builder.checked_apply_eq_ok_iff, mapError_eq_ok] at h
    obtain rfl := insertHeader_eq_ok h
    exact ⟨by simp [view_insert, RefBuilder.step, hua, hac, hct], hu⟩
  | basicAuth u p | bearerAuth t =>
    simp only [RefBuilder.toBuilder, Check.basicAuth, Check.bearerAuth,
      Builder.checked_apply_eq_ok_iff, mapError_eq_ok] at h
    obtain rfl := setAuthorization_eq_ok h
    exact ⟨by simp [view_insert, RefBuilder.step, authorizationName], hu⟩
  | textBody t | bytesBody bs =>
    simp only [RefBuilder.toBuilder, Check.textBody, Check.bytesBody, encodedBody_eq_ok,
      Except.ok.injEq] at h
    obtain ⟨_, rfl, rfl⟩ := h
    exact ⟨view_setBody _ _ _, hu⟩
  | jsonBody x =>
    simp only [RefBuilder.toBuilder, Check.jsonBody, encodedBody_eq_ok, mapError_eq_ok,
      map_eq_ok] at h
    obtain ⟨_, ⟨s, hx, rfl⟩, rfl⟩ := h
    exact ⟨by simp [view_setBody, RefBuilder.step, hx], hu⟩
  | formBody src =>
    simp only [RefBuilder.toBuilder, Check.formBody, encodedBody_eq_ok, map_eq_ok] at h
    obtain ⟨_, ⟨s, hx, rfl⟩, rfl⟩ := h
    exact ⟨by simp [view_setBody, RefBuilder.step, hx], hu⟩
  | query src =>
    cases hx : src.encode with
    | error m => simp [RefBuilder.toBuilder, Check.query, Builder.checked_apply_eq_ok_iff, hx] at h
    | ok enc =>
      simp only [RefBuilder.toBuilder, Check.query, Builder.checked_apply_eq_ok_iff, hx,
        mapError_eq_ok] at h
      obtain ⟨rfl, hwf⟩ := appendQuery_eq_ok hu (FormSource.encode_query hx) h
      refine ⟨?_, hwf⟩
      by_cases hne : enc = ""
      · simp [RefBuilder.step, hx, hne]
      · simp [RefBuilder.step, hx, hne, Request.view]
  | timeout d | cancelWith c =>
    simp only [RefBuilder.toBuilder, Check.timeout, Check.cancelWith, Prod.mk.injEq] at h
    obtain ⟨rfl, -⟩ := h
    exact ⟨rfl, hu⟩

/-- Builders that all succeed give the fold of their steps; the well-formed target is what
carries the induction, since only a query step reads it. -/
theorem view_applyBuilders {rbs : List RefBuilder} {req q : Request} (hu : req.uri.WellFormed)
    (h : Pipeline.applyBuilders req (rbs.map RefBuilder.toBuilder) = .ok q) :
    q.view = rbs.foldl RefBuilder.step req.view := by
  induction rbs generalizing req with
  | nil =>
    simp only [List.map_nil, Pipeline.applyBuilders_nil, Except.ok.injEq] at h
    subst h
    rfl
  | cons rb rest ih =>
    rw [List.map_cons] at h
    rcases hr : rb.toBuilder.apply req with ⟨r, e | ⟨⟩⟩
    · rw [Pipeline.applyBuilders_cons_error _ hr] at h
      cases h
    · rw [Pipeline.applyBuilders_cons_ok _ hr] at h
      obtain ⟨hview, hwf⟩ := RefBuilder.view_apply hu hr
      rw [List.foldl_cons, ← hview]
      exact ih hwf h

/-- Reference builders applied in order to a new request, each succeeding, give the
request whose view is the fold of their steps from the new request's view. -/
theorem builders_fold_over_view (method target : Bytes) (rbs : List RefBuilder)
    {req q : Request} (hnew : Request.new method target = .ok req)
    (happ : Pipeline.applyBuilders req (rbs.map RefBuilder.toBuilder) = .ok q) :
    q.view = rbs.foldl RefBuilder.step (View.initial req.method req.uri) := by
  obtain ⟨hu, hinit⟩ := Request.new_view hnew
  rw [← hinit]
  exact view_applyBuilders hu happ

/-- A request for the root given a deadline, a cancelled token and a byte body. -/
theorem builders_fold_over_view_root :
    Request.new [71, 69, 84] [0x2F] =
        .ok ⟨⟨"GET"⟩, ⟨none, "", ⟨"/", none⟩⟩, .empty, [], .background⟩ ∧
      Pipeline.applyBuilders ⟨⟨"GET"⟩, ⟨none, "", ⟨"/", none⟩⟩, .empty, [], .background⟩
          ([RefBuilder.timeout (Duration.ofMillis 5), .cancelWith true, .bytesBody [1]].map RefBuilder.toBuilder) =
        .ok ⟨⟨"GET"⟩, ⟨none, "", ⟨"/", none⟩⟩,
          ⟨[(contentTypeName, ⟨encode "application/octet-stream", false⟩)]⟩, [1], ⟨true, some (Duration.ofMillis 5)⟩⟩ ∧
      Request.view ⟨⟨"GET"⟩, ⟨none, "", ⟨"/", none⟩⟩,
          ⟨[(contentTypeName, ⟨encode "application/octet-stream", false⟩)]⟩, [1], ⟨true, some (Duration.ofMillis 5)⟩⟩ =
        [RefBuilder.timeout (Duration.ofMillis 5), .cancelWith true, .bytesBody [1]].foldl RefBuilder.step
          (View.initial ⟨"GET"⟩ ⟨none, "", ⟨"/", none⟩⟩) := by
  have hnew : Request.new [71, 69, 84] [0x2F] =
      .ok ⟨⟨"GET"⟩, ⟨none, "", ⟨"/", none⟩⟩, .empty, [], .background⟩ := rfl
  have happ : Pipeline.applyBuilders ⟨⟨"GET"⟩, ⟨none, "", ⟨"/", none⟩⟩, .empty, [], .background⟩
      ([RefBuilder.timeout (Duration.ofMillis 5), .cancelWith true, .bytesBody [1]].map RefBuilder.toBuilder) =
      .ok ⟨⟨"GET"⟩, ⟨none, "", ⟨"/", none⟩⟩,
        ⟨[(contentTypeName, ⟨encode "application/octet-stream", false⟩)]⟩, [1], ⟨true, some (Duration.ofMillis 5)⟩⟩ :=
    rfl
  exact ⟨hnew, happ, builders_fold_over_view _ _ _ hnew happ⟩

end Check
end HttpCheck
