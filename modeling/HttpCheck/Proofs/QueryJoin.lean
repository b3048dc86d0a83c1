import HttpCheck.Proofs.BuilderFold
/-!
# Adding query parameters

A query builder adds its encoded parameters to the query of the target: after the present
query and `&` when that query is not empty, in its place when it is empty or missing, and
not at all when the encoding is empty. Main statements: query builders applied in turn to a
target with a scheme, or in origin form, keep its scheme, authority and path, and give the
query joined with every non-empty piece in order (`Uri.joinedQuery`); two builders of
name-value pairs act as one builder of both lists; a target that is an authority alone or
the asterisk refuses every query that encodes to something.
-/
namespace HttpCheck

open HttpCheck.Http HttpCheck.Utf8 HttpCheck.Check

/-- A join of non-empty texts, at least one, is not empty. -/
theorem intercalate_ne_empty {sep : String} {l : List String} (hl : l ≠ [])
    (hne : ∀ s ∈ l, s ≠ "") : sep.intercalate l ≠ "" := by
  obtain ⟨s, t, rfl⟩ := List.exists_cons_of_ne_nil hl
  have hs : s ≠ "" := hne s List.mem_cons_self
  cases t with
  | nil => simpa using hs
  | cons u t =>
    rw [String.intercalate_cons_cons, String.append_assoc]
    exact fun h => hs (String.append_eq_empty_iff.1 h).1

/-! ### Pairs encoded in two lists -/

namespace Form

theorem encodePair_ne_empty {name value : Json} {s : String} (h : encodePair name value = .ok s) :
    s ≠ "" := by
  unfold encodePair at h
  split at h
  · cases h
  split at h
  · cases h
  obtain rfl := Except.ok.inj h
  -- the `=` between name and value is always written
  intro he
  simpa using congrArg String.toList he

/-- The pairs of two lists encode as the two encodings joined by `&`, an empty one left
out. -/
theorem encodePairs_append {a b : List (Json × Json)} {x y : String}
    (ha : encodePairs a = .ok x) (hb : encodePairs b = .ok y) :
    encodePairs (a ++ b) = .ok ("&".intercalate ([x, y].filter (· != ""))) := by
  simp only [encodePairs, joinPairs, bind, Except.bind] at ha hb ⊢
  split at ha
  · cases ha
  rename_i pa hpa
  split at hb
  · cases hb
  rename_i pb hpb
  obtain rfl := Except.ok.inj ha
  obtain rfl := Except.ok.inj hb
  -- every encoded pair is written with its `=`, so only no pairs at all join to ""
  have hjoin : ∀ {ps : List (Json × Json)} {parts : List String},
      ps.mapM (fun p => encodePair p.1 p.2) = .ok parts → parts ≠ [] →
        "&".intercalate parts ≠ "" := by
    intro ps parts hparts hne
    refine intercalate_ne_empty hne fun q hq => ?_
    obtain ⟨⟨n, v⟩, -, hpair⟩ := mem_of_mapM_ok hparts hq
    exact encodePair_ne_empty hpair
  have hboth : (a ++ b).mapM (fun p => encodePair p.1 p.2) = .ok (pa ++ pb) := by
    rw [List.mapM_append, hpa, hpb]
    rfl
  rw [hboth]
  by_cases hx : pa = []
  · subst hx
    by_cases hy : pb = []
    · subst hy
      rfl
    · simp [hjoin hpb hy]
  · by_cases hy : pb = []
    · subst hy
      simp [hjoin hpa hx]
    · simp [hjoin hpa hx, hjoin hpb hy, String.intercalate_append_of_ne_nil hx hy,
        String.append_assoc]

theorem encodePairs_nil : encodePairs [] = .ok "" := rfl

end Form

namespace Http.Uri

/-- The query that encoded pieces give when they are added in order to a query: the
non-empty pieces after the query when it is not empty, joined by `&`. When no piece adds
anything the query stays as it was, missing or empty. -/
def joinedQuery (q : Option String) (pieces : List String) : Option String :=
  let added := pieces.filter (· != "")
  if added = [] then q else some ("&".intercalate ((q.filter (· != "")).toList ++ added))

/-- A target a query can be added to: well formed, and neither an authority alone nor the
asterisk. -/
structure TakesQuery (u : Uri) : Prop where
  wellFormed : u.WellFormed
  not_authorityForm : ¬ u.IsAuthorityForm
  not_asterisk : ¬ u.IsAsterisk

/-- Two targets with the same scheme, authority and path as shown; only the query may
differ. -/
structure SamePath (u u' : Uri) : Prop where
  scheme : u'.scheme = u.scheme
  authority : u'.authority = u.authority
  path : u'.path = u.path

theorem SamePath.refl (u : Uri) : SamePath u u := ⟨rfl, rfl, rfl⟩

theorem SamePath.trans {u u' u'' : Uri} (h : SamePath u u') (h' : SamePath u' u'') :
    SamePath u u'' :=
  ⟨h'.scheme.trans h.scheme, h'.authority.trans h.authority, h'.path.trans h.path⟩

/-! ### The joined query -/

@[simp] theorem joinedQuery_nil (q : Option String) : joinedQuery q [] = q := by
  simp [joinedQuery]

/-- The text of a query that some piece added to is not empty. -/
theorem joinedQuery_eq_some_ne_empty {q : Option String} {ps : List String} {s : String}
    (hadd : ps.filter (· != "") ≠ []) (h : joinedQuery q ps = some s) : s ≠ "" := by
  simp only [joinedQuery, if_neg hadd, Option.some.injEq] at h
  subst h
  refine intercalate_ne_empty (by simp [hadd]) fun t ht => ?_
  simp only [List.mem_append, Option.mem_toList, Option.filter_eq_some_iff,
    List.mem_filter, bne_iff_ne, ne_eq] at ht
  rcases ht with ⟨-, ht⟩ | ⟨-, ht⟩ <;> exact ht

/-- Pieces added in two goes give the query they give in one. -/
theorem joinedQuery_append (q : Option String) (ps qs : List String) :
    joinedQuery (joinedQuery q ps) qs = joinedQuery q (ps ++ qs) := by
  by_cases hq : qs.filter (· != "") = []
  · simp [joinedQuery, hq]
  by_cases hp : ps.filter (· != "") = []
  · simp [joinedQuery, hp, hq]
  -- both add something: the first join is a non-empty query that the second one follows
  obtain ⟨s, hs⟩ : ∃ s, s = "&".intercalate ((q.filter (· != "")).toList ++ ps.filter (· != "")) :=
    ⟨_, rfl⟩
  have hfirst : joinedQuery q ps = some s := by rw [hs]; exact if_neg hp
  have hsne : s ≠ "" := joinedQuery_eq_some_ne_empty hp hfirst
  have hbase : (q.filter (· != "")).toList ++ ps.filter (· != "") ≠ [] := by simp [hp]
  have hadd : ps.filter (· != "") ++ qs.filter (· != "") ≠ [] := by simp [hp]
  have hlhs :
      joinedQuery (some s) qs = some (s ++ "&" ++ "&".intercalate (qs.filter (· != ""))) := by
    simp only [joinedQuery, if_neg hq, Option.filter_some, bne_iff_ne, ne_eq, hsne,
      not_false_eq_true, if_true, Option.toList_some, List.singleton_append,
      String.intercalate_cons_of_ne_nil hq]
  have hrhs :
      joinedQuery q (ps ++ qs) = some (s ++ "&" ++ "&".intercalate (qs.filter (· != ""))) := by
    simp only [joinedQuery, List.filter_append, if_neg hadd, ← List.append_assoc,
      String.intercalate_append_of_ne_nil hbase hq, hs]
  rw [hfirst, hlhs, hrhs]

theorem joinedQuery_singleton (q : Option String) (p : String) :
    joinedQuery q [p] = if p = "" then q else some (joinQuery q p) := by
  by_cases hp : p = ""
  · simp [joinedQuery, hp]
  · simp only [joinedQuery, List.filter_cons, List.filter_nil, bne_iff_ne, ne_eq, hp,
      not_false_eq_true, if_true, reduceCtorEq, if_false]
    cases q with
    | none => simp [joinQuery]
    | some q =>
      by_cases he : q = ""
      · simp [joinQuery, Option.filter, he]
      · have he' : q.isEmpty = false := String.isEmpty_eq_false_iff.2 he
        simp [joinQuery, Option.filter, he, he', String.append_assoc]

/-! ### A query added to a target -/

theorem joinQuery_ne_empty (q : Option String) {enc : String} (h : enc ≠ "") :
    joinQuery q enc ≠ "" := by
  cases q with
  | none => exact h
  | some q =>
    simp only [joinQuery]
    split
    · exact h
    · exact fun he => h (String.append_eq_empty_iff.1 he).2

theorem path_withQuery {u : Uri} (h : u.path ≠ "") (enc : String) :
    (u.withQuery enc).path = u.path := by
  -- a target with a query shows its path, here the path it was given
  have hshows : (u.withQuery enc).hasPath = true := by
    simp [hasPath, withQuery, PathAndQuery.text]
  conv => lhs; rw [Uri.path, if_pos hshows]
  simp [withQuery, PathAndQuery.shownPath, String.isEmpty_iff, h]

theorem samePath_withQuery {u : Uri} (h : u.path ≠ "") (enc : String) :
    SamePath u (u.withQuery enc) :=
  ⟨rfl, rfl, path_withQuery h enc⟩

theorem TakesQuery.path_ne_empty {u : Uri} (h : u.TakesQuery) : u.path ≠ "" := by
  obtain ⟨⟨r, hr⟩, -⟩ := path_slash h.wellFormed h.not_authorityForm h.not_asterisk
  rw [hr]
  exact fun he => by simp at he

theorem TakesQuery.withQuery {u : Uri} (h : u.TakesQuery) {enc : String}
    (henc : ∀ b ∈ encode enc, PathAndQuery.isQueryByte b = true) :
    (u.withQuery enc).TakesQuery where
  wellFormed := wellFormed_withQuery h.wellFormed h.not_authorityForm h.not_asterisk henc
  not_authorityForm := h.not_authorityForm
  -- a target with a query is no asterisk
  not_asterisk := fun hs => by
    obtain ⟨-, -, ht⟩ := hs
    simp [Uri.withQuery] at ht

theorem joinQuery_some {s : String} (h : s ≠ "") (enc : String) :
    joinQuery (some s) enc = s ++ "&" ++ enc := by
  simp [joinQuery, String.isEmpty_eq_false_iff.2 h]

theorem joinQuery_append (q : Option String) (x y : String) :
    joinQuery q (x ++ "&" ++ y) = joinQuery q x ++ "&" ++ y := by
  cases q with
  | none => rfl
  | some q => by_cases he : q.isEmpty <;> simp [joinQuery, he, String.append_assoc]

/-- Two queries added one after the other are one query joined by `&`. -/
theorem withQuery_withQuery {u : Uri} (hp : u.path ≠ "") {x : String} (hx : x ≠ "")
    (y : String) : (u.withQuery x).withQuery y = u.withQuery (x ++ "&" ++ y) := by
  have hjoin : joinQuery (some (joinQuery u.query x)) y = joinQuery u.query (x ++ "&" ++ y) := by
    rw [joinQuery_some (joinQuery_ne_empty u.query hx), joinQuery_append]
  have hq' : (u.withQuery x).query = some (joinQuery u.query x) := rfl
  calc (u.withQuery x).withQuery y
      = { u with target := ⟨(u.withQuery x).path, some (joinQuery (u.withQuery x).query y)⟩ } := rfl
    _ = { u with target := ⟨u.path, some (joinQuery u.query (x ++ "&" ++ y))⟩ } := by
      rw [path_withQuery hp, hq', hjoin]
    _ = u.withQuery (x ++ "&" ++ y) := rfl

end Http.Uri

/-! ### One query builder -/

namespace Check

open Http.Uri

section QueryStep

variable {req : Request} {src : FormSource} {enc : String}

@[simp] theorem query_name : (query src).name = "query" := rfl

/-- A query builder reads its source only through the encoding. -/
theorem query_eq_of_encode {src' : FormSource} (h : src.encode = src'.encode) :
    query src = query src' := by
  simp only [query, h]

theorem query_apply_of_appendQuery (h : src.encode = .ok enc) {q : Request}
    (ha : appendQuery req enc = .ok q) : (query src).apply req = (q, .ok ()) :=
  Builder.checked_apply_of_ok (by simp only [h, ha, mapError_ok])

theorem query_apply_of_appendQuery_error (h : src.encode = .ok enc) {e : BuildError}
    (ha : appendQuery req enc = .error e) : (query src).apply req = (req, .error (.build e)) :=
  Builder.checked_apply_of_error (by simp only [h, ha, mapError_error])

/-- A query that encodes to nothing leaves every request as it is. -/
theorem query_apply_empty (h : src.encode = .ok "") : (query src).apply req = (req, .ok ()) :=
  query_apply_of_appendQuery h (appendQuery_empty req)

/-- On a target that takes a query, a query that encodes to something is joined to it. -/
theorem query_apply_withQuery (hu : req.uri.TakesQuery) (h : src.encode = .ok enc)
    (he : enc ≠ "") :
    (query src).apply req = ({ req with uri := req.uri.withQuery enc }, .ok ()) :=
  query_apply_of_appendQuery h (appendQuery_slash hu.wellFormed hu.not_authorityForm
    hu.not_asterisk he (FormSource.encode_query h))

/-- On a target that takes a query, a query builder joins its encoding to the query, and
the target still takes a query. -/
theorem query_apply_step (hu : req.uri.TakesQuery) (h : src.encode = .ok enc) :
    ∃ u, (query src).apply req = ({ req with uri := u }, .ok ()) ∧ u.TakesQuery ∧
      SamePath req.uri u ∧ u.query = joinedQuery req.uri.query [enc] := by
  by_cases he : enc = ""
  · subst he
    exact ⟨req.uri, query_apply_empty h, hu, .refl _, by simp [joinedQuery_singleton]⟩
  · exact ⟨req.uri.withQuery enc, query_apply_withQuery hu h he,
      hu.withQuery (FormSource.encode_query h), samePath_withQuery hu.path_ne_empty enc,
      by simp [joinedQuery_singleton, he, Uri.withQuery, Uri.query]⟩

/-- An authority alone refuses a query that encodes to something, and is left as it was. -/
theorem query_apply_authority (hu : req.uri.WellFormed) (ha : req.uri.IsAuthorityForm)
    (h : src.encode = .ok enc) (he : enc ≠ "") :
    (query src).apply req = (req, .error (.build (.invalidUri "scheme missing"))) :=
  query_apply_of_appendQuery_error h (appendQuery_authority hu ha he (FormSource.encode_query h))

/-- The asterisk refuses a query that encodes to something, and is left as it was. -/
theorem query_apply_asterisk (hu : req.uri.WellFormed) (hs : req.uri.IsAsterisk)
    (h : src.encode = .ok enc) (he : enc ≠ "") :
    (query src).apply req = (req, .error (.build (.invalidUri "path does not start with slash"))) :=
  query_apply_of_appendQuery_error h (appendQuery_asterisk hu hs he (FormSource.encode_query h))

end QueryStep

/-! ### Query builders in turn -/

/-- Query builders applied in turn to a target that takes a query keep its scheme,
authority and path, and give its query joined with their pieces in order. The induction
carries `TakesQuery`: every step leaves a target a query can still be added to. -/
theorem applyBuildersInPlace_query {req : Request} (hu : req.uri.TakesQuery)
    {srcs : List FormSource} {pieces : List String}
    (henc : srcs.mapM FormSource.encode = .ok pieces) :
    ∃ u, Pipeline.applyBuildersInPlace req (srcs.map query) = ({ req with uri := u }, .ok ()) ∧
      SamePath req.uri u ∧ u.query = joinedQuery req.uri.query pieces := by
  induction srcs generalizing req pieces with
  | nil =>
    obtain rfl : pieces = [] := (Except.ok.inj henc).symm
    exact ⟨req.uri, rfl, .refl _, by simp⟩
  | cons src rest ih =>
    obtain ⟨enc, encs, hsrc, hrest, rfl⟩ := mapM_cons_eq_ok.1 henc
    obtain ⟨u₁, happ, hu₁, hsame₁, hq₁⟩ := query_apply_step hu hsrc
    obtain ⟨u, hrun, hsame, hq⟩ := @ih { req with uri := u₁ } hu₁ encs hrest
    refine ⟨u, ?_, hsame₁.trans hsame, ?_⟩
    · rw [List.map_cons, Pipeline.applyBuildersInPlace_cons_ok _ happ]
      exact hrun
    · rw [hq]
      simp only [hq₁, joinedQuery_append, List.singleton_append]

/-! ### Two builders of pairs -/

/-- Two builders of name-value pairs act as one builder of both lists, on every target:
the same request, refused or not, and the same error. -/
theorem query_pairs_append {req : Request} (hu : req.uri.WellFormed) {a b : List (Json × Json)}
    {x y : String} (ha : Form.encodePairs a = .ok x) (hb : Form.encodePairs b = .ok y) :
    Pipeline.applyBuildersInPlace req [query (.pairs a), query (.pairs b)] =
      Pipeline.applyBuildersInPlace req [query (.pairs (a ++ b))] := by
  have hsa : FormSource.encode (.pairs a) = .ok x := by simp [FormSource.encode, ha]
  have hsb : FormSource.encode (.pairs b) = .ok y := by simp [FormSource.encode, hb]
  have hsab : FormSource.encode (.pairs (a ++ b)) =
      .ok ("&".intercalate ([x, y].filter (· != ""))) := by
    simp [FormSource.encode, Form.encodePairs_append ha hb]
  by_cases hx : x = ""
  · -- the first adds nothing, and both lists encode as the second
    subst hx
    have hone : "&".intercalate (["", y].filter (· != "")) = y := by
      by_cases hy : y = "" <;> simp [hy]
    rw [hone] at hsab
    rw [query_eq_of_encode (hsab.trans hsb.symm),
      Pipeline.applyBuildersInPlace_cons_ok _ (query_apply_empty hsa)]
  by_cases hy : y = ""
  · -- the second adds nothing to what the first gives, and both lists encode as the first
    subst hy
    rw [show "&".intercalate ([x, ""].filter (· != "")) = x by simp [hx]] at hsab
    rw [query_eq_of_encode (hsab.trans hsa.symm)]
    rcases hfirst : (query (.pairs a)).apply req with ⟨r, e | ⟨⟩⟩
    · rw [Pipeline.applyBuildersInPlace_cons_error _ hfirst,
        Pipeline.applyBuildersInPlace_cons_error _ hfirst]
    · rw [Pipeline.applyBuildersInPlace_cons_ok _ hfirst,
        Pipeline.applyBuildersInPlace_cons_ok _ hfirst,
        Pipeline.applyBuildersInPlace_cons_ok _ (query_apply_empty hsb)]
  -- both add something: the single builder adds both, joined by `&`
  rw [show "&".intercalate ([x, y].filter (· != "")) = x ++ "&" ++ y by
    simp [hx, hy, String.append_assoc]] at hsab
  have hxy : x ++ "&" ++ y ≠ "" := fun he => hx (String.append_eq_empty_iff.1
    (String.append_eq_empty_iff.1 he).1).1
  by_cases hauth : req.uri.IsAuthorityForm
  · rw [Pipeline.applyBuildersInPlace_cons_error _ (query_apply_authority hu hauth hsa hx),
      Pipeline.applyBuildersInPlace_cons_error _ (query_apply_authority hu hauth hsab hxy),
      query_name, query_name]
  by_cases hstar : req.uri.IsAsterisk
  · rw [Pipeline.applyBuildersInPlace_cons_error _ (query_apply_asterisk hu hstar hsa hx),
      Pipeline.applyBuildersInPlace_cons_error _ (query_apply_asterisk hu hstar hsab hxy),
      query_name, query_name]
  have ht : req.uri.TakesQuery := ⟨hu, hauth, hstar⟩
  have ht' : (req.uri.withQuery x).TakesQuery := ht.withQuery (FormSource.encode_query hsa)
  have hsecond := @query_apply_withQuery { req with uri := req.uri.withQuery x } _ _ ht' hsb hy
  rw [Pipeline.applyBuildersInPlace_cons_ok _ (query_apply_withQuery ht hsa hx),
    Pipeline.applyBuildersInPlace_cons_ok _ hsecond,
    Pipeline.applyBuildersInPlace_cons_ok _ (query_apply_withQuery ht hsab hxy)]
  simp only [withQuery_withQuery ht.path_ne_empty hx, Pipeline.applyBuildersInPlace_nil]

/-! ### Query builders on every form of target -/

/-- Query builders on a well-formed target. On a target with a scheme or in origin form,
builders whose values encode all succeed, keep the scheme, the authority and the path, and
join the query with their non-empty pieces in order; a builder that encodes to nothing
changes nothing; two builders of pairs act as one builder of both lists; an authority
alone refuses a query that encodes to something for its missing scheme, and the asterisk
for its path, and a refused request is left as it was. -/
theorem query_builders_join_in_order (req : Request) (hu : req.uri.WellFormed) :
    (¬ req.uri.IsAuthorityForm → ¬ req.uri.IsAsterisk →
      ∀ (srcs : List FormSource) (pieces : List String),
        srcs.mapM FormSource.encode = .ok pieces →
        ∃ u : Uri,
          Pipeline.applyBuildersInPlace req (srcs.map query) = ({ req with uri := u }, .ok ()) ∧
          u.scheme = req.uri.scheme ∧ u.authority = req.uri.authority ∧ u.path = req.uri.path ∧
          u.query = joinedQuery req.uri.query pieces) ∧
    (∀ src : FormSource, src.encode = .ok "" → (query src).apply req = (req, .ok ())) ∧
    (∀ (a b : List (Json × Json)) (x y : String), Form.encodePairs a = .ok x →
      Form.encodePairs b = .ok y →
      Pipeline.applyBuildersInPlace req [query (.pairs a), query (.pairs b)] =
        Pipeline.applyBuildersInPlace req [query (.pairs (a ++ b))]) ∧
    (∀ (src : FormSource) (enc : String), src.encode = .ok enc → enc ≠ "" →
      (req.uri.IsAuthorityForm →
        (query src).apply req = (req, .error (.build (.invalidUri "scheme missing")))) ∧
      (req.uri.IsAsterisk →
        (query src).apply req =
          (req, .error (.build (.invalidUri "path does not start with slash"))))) := by
  refine ⟨fun hauth hstar srcs pieces henc => ?_, fun _ h => query_apply_empty h,
    fun _ _ _ _ ha hb => query_pairs_append hu ha hb,
    fun _ _ h he => ⟨fun hauth => query_apply_authority hu hauth h he,
      fun hstar => query_apply_asterisk hu hstar h he⟩⟩
  obtain ⟨u, hrun, hsame, hq⟩ := applyBuildersInPlace_query ⟨hu, hauth, hstar⟩ henc
  exact ⟨u, hrun, hsame.scheme, hsame.authority, hsame.path, hq⟩

/-- The target `/p?`, read from its octets, is well formed, and the pair `a=1` takes the
place of its empty query. -/
theorem query_builders_join_in_order_empty_query :
    Uri.parse [0x2F, 0x70, 0x3F] = .ok ⟨none, "", ⟨"/p", some ""⟩⟩ ∧
      (⟨none, "", ⟨"/p", some ""⟩⟩ : Uri).WellFormed ∧
      ∃ u : Uri,
        Pipeline.applyBuildersInPlace
            ⟨⟨"GET"⟩, ⟨none, "", ⟨"/p", some ""⟩⟩, .empty, [], .background⟩
            [query (.pairs [(.string "a", .string "1")])] =
          (⟨⟨"GET"⟩, u, .empty, [], .background⟩, .ok ()) ∧
        u.scheme = none ∧ u.authority = "" ∧ u.path = "/p" ∧
        u.query = joinedQuery (some "") ["a=1"] := by
  have hparse : Uri.parse [0x2F, 0x70, 0x3F] = .ok ⟨none, "", ⟨"/p", some ""⟩⟩ :=
    eq_ok_of_toOption (by decide +kernel)
  have hwf := Uri.wellFormed_of_parse hparse
  have henc : [FormSource.pairs [(.string "a", .string "1")]].mapM FormSource.encode =
      .ok ["a=1"] := eq_ok_of_toOption (by decide +kernel)
  have hauth : ¬ Uri.IsAuthorityForm ⟨none, "", ⟨"/p", some ""⟩⟩ := fun h => h.2 rfl
  have hstar : ¬ Uri.IsAsterisk ⟨none, "", ⟨"/p", some ""⟩⟩ := by simp [Uri.IsAsterisk]
  exact ⟨hparse, hwf,
    (query_builders_join_in_order ⟨⟨"GET"⟩, _, .empty, [], .background⟩ hwf).1 hauth hstar _ _ henc⟩

/-- The asterisk takes no query: on the target `*` read from its octets, the first of two
query builders whose pairs encode is refused and leaves the request as it was, so no target
with a joined query results. -/
theorem asterisk_refuses_query_builders :
    Request.new [71, 69, 84] [0x2A] =
        .ok ⟨⟨"GET"⟩, ⟨none, "", ⟨"*", none⟩⟩, .empty, [], .background⟩ ∧
      Pipeline.applyBuildersInPlace ⟨⟨"GET"⟩, ⟨none, "", ⟨"*", none⟩⟩, .empty, [], .background⟩
          [query (.pairs [(.string "a", .string "1")]),
            query (.pairs [(.string "b", .string "2")])] =
        (⟨⟨"GET"⟩, ⟨none, "", ⟨"*", none⟩⟩, .empty, [], .background⟩,
          .error (.builder "query" (.build (.invalidUri "path does not start with slash")))) := by
  have henc : FormSource.encode (.pairs [(.string "a", .string "1")]) = .ok "a=1" :=
    eq_ok_of_toOption (by decide +kernel)
  have hu : Uri.WellFormed ⟨none, "", ⟨"*", none⟩⟩ :=
    Uri.wellFormed_of_parse (show Uri.parse [0x2A] = .ok ⟨none, "", ⟨"*", none⟩⟩ from rfl)
  exact ⟨rfl, Pipeline.applyBuildersInPlace_cons_error _
    (query_apply_asterisk hu ⟨rfl, rfl, rfl⟩ henc (by decide))⟩

end Check
end HttpCheck
