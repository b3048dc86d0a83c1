import HttpCheck.Http.Uri
import HttpCheck.Proofs.Utf8
/-!
# Well-formed request targets

What reading a target guarantees about the target it returns: the path is written with
path octets only and the query with query octets only, and the target has one of four
forms (absolute, authority alone, origin, asterisk). These facts are what a change of the
query relies on, and changing the query keeps them.
-/
namespace HttpCheck.Http

open HttpCheck.Utf8

namespace PathAndQuery

theorem isPathByte_ne {b : UInt8} (h : isPathByte b = true) : b ≠ 0x3F ∧ b ≠ 0x23 := by
  constructor <;> rintro rfl <;> simp [isPathByte] at h

theorem isQueryByte_ne {b : UInt8} (h : isQueryByte b = true) : b ≠ 0x23 := by
  rintro rfl
  simp [isQueryByte] at h

/-- A query read up to the end or a `#` holds query octets only. -/
theorem readQuery_bytes {bs q : Bytes} (h : readQuery bs = .ok q) :
    ∀ b ∈ q, isQueryByte b = true := by
  induction bs generalizing q with
  | nil =>
    simp only [readQuery, Except.ok.injEq] at h
    simp [← h]
  | cons b rest ih =>
    simp only [readQuery] at h
    split at h
    · simp only [Except.ok.injEq] at h
      simp [← h]
    split at h
    · rename_i hq
      cases hr : readQuery rest with
      | error e => simp [hr, bind, Except.bind] at h
      | ok q' =>
        simp only [hr, bind, Except.bind, Except.ok.injEq] at h
        subst h
        intro x hx
        rcases List.mem_cons.1 hx with rfl | hx
        · exact hq
        · exact ih hr x hx
    · simp at h

/-- Query octets are read as they are. -/
theorem readQuery_of_bytes {q : Bytes} (h : ∀ b ∈ q, isQueryByte b = true) :
    readQuery q = .ok q := by
  induction q with
  | nil => rfl
  | cons b rest ih =>
    have hb := h b (by simp)
    have hne : (b == 0x23) = false := by simpa using isQueryByte_ne hb
    simp only [readQuery, hne, hb, Bool.false_eq_true, if_false, if_true,
      ih (fun x hx => h x (by simp [hx]))]
    rfl

/-- What a path read up to a `?` or a `#` holds, and the query after it. -/
theorem readPath_bytes {bs p : Bytes} {q : Option Bytes} (h : readPath bs = .ok (p, q)) :
    (∀ b ∈ p, isPathByte b = true) ∧ ∀ qb, q = some qb → ∀ b ∈ qb, isQueryByte b = true := by
  induction bs generalizing p q with
  | nil =>
    simp only [readPath, Except.ok.injEq, Prod.mk.injEq] at h
    obtain ⟨rfl, rfl⟩ := h
    simp
  | cons b rest ih =>
    simp only [readPath] at h
    split at h
    · cases hr : readQuery rest with
      | error e => simp [hr, bind, Except.bind] at h
      | ok qb =>
        simp only [hr, bind, Except.bind, Except.ok.injEq, Prod.mk.injEq] at h
        obtain ⟨rfl, rfl⟩ := h
        exact ⟨by simp, fun x hx => by cases hx; exact readQuery_bytes hr⟩
    split at h
    · simp only [Except.ok.injEq, Prod.mk.injEq] at h
      obtain ⟨rfl, rfl⟩ := h
      simp
    split at h
    · rename_i hp
      cases hr : readPath rest with
      | error e => simp [hr, bind, Except.bind] at h
      | ok pq =>
        obtain ⟨p', q'⟩ := pq
        simp only [hr, bind, Except.bind, Except.ok.injEq, Prod.mk.injEq] at h
        obtain ⟨rfl, rfl⟩ := h
        obtain ⟨hp', hq'⟩ := ih hr
        refine ⟨fun x hx => ?_, hq'⟩
        rcases List.mem_cons.1 hx with rfl | hx
        · exact hp
        · exact hp' x hx
    · simp at h

/-- Path octets are read as the path, up to the `?` that starts the query. -/
theorem readPath_chunk {p : Bytes} (hp : ∀ b ∈ p, isPathByte b = true) (q : Bytes)
    (hq : ∀ b ∈ q, isQueryByte b = true) :
    readPath (p ++ 0x3F :: q) = .ok (p, some q) := by
  induction p with
  | nil =>
    simp only [List.nil_append, readPath, readQuery_of_bytes hq]
    rfl
  | cons b rest ih =>
    have hb := hp b (by simp)
    obtain ⟨h1, h2⟩ := isPathByte_ne hb
    have n1 : (b == 0x3F) = false := by simpa using h1
    have n2 : (b == 0x23) = false := by simpa using h2
    simp only [List.cons_append, readPath, n1, n2, hb, Bool.false_eq_true, if_false, if_true,
      ih (fun x hx => hp x (by simp [hx]))]
    rfl

/-- A path and a query written with the octets they allow are read back as written. -/
theorem parse_path_query {path query : String}
    (hp : ∀ b ∈ Utf8.encode path, isPathByte b = true)
    (hq : ∀ b ∈ Utf8.encode query, isQueryByte b = true) :
    parse (Utf8.encode (path ++ "?" ++ query)) = .ok ⟨path, some query⟩ := by
  have hmark : Utf8.encode "?" = [0x3F] := by rw [encode_eq_flatMap]; rfl
  rw [encode_append, encode_append, hmark, List.append_assoc, List.singleton_append]
  simp [parse, readPath_chunk hp _ hq, bind, Except.bind, decode?_encode]

/-- What a read path and query hold, as text. -/
theorem parse_bytes {bs : Bytes} {pq : PathAndQuery} (h : parse bs = .ok pq) :
    (∀ b ∈ Utf8.encode pq.path, isPathByte b = true) ∧
      ∀ q, pq.query = some q → ∀ b ∈ Utf8.encode q, isQueryByte b = true := by
  simp only [parse, bind, Except.bind] at h
  cases hr : readPath bs with
  | error e => simp [hr] at h
  | ok r =>
    obtain ⟨p, q⟩ := r
    obtain ⟨hp, hq⟩ := readPath_bytes hr
    simp only [hr] at h
    split at h
    · rename_i path hpath hq'
      simp only [Except.ok.injEq] at h
      subst h
      refine ⟨?_, by simp⟩
      rw [← decode?_eq_some_iff.1 hpath]
      exact hp
    · rename_i path query hpath hquery
      simp only [Except.ok.injEq] at h
      subst h
      obtain ⟨qb, rfl, hqb⟩ := Option.map_eq_some_iff.1 hquery
      refine ⟨by rw [← decode?_eq_some_iff.1 hpath]; exact hp, ?_⟩
      intro q' hq'
      cases hq'
      rw [← decode?_eq_some_iff.1 hqb]
      exact hq qb rfl
    · simp at h

/-- Where the path read from some octets starts: nowhere when they end, or start a query
or a fragment, and with `/` when they start with one. -/
theorem parse_path_start {bs : Bytes} {pq : PathAndQuery} (h : parse bs = .ok pq) :
    ((bs = [] ∨ bs.head? = some 0x3F ∨ bs.head? = some 0x23) → pq.path = "") ∧
      (bs.head? = some 0x2F → ∃ r, pq.path = "/" ++ r) := by
  simp only [parse, bind, Except.bind] at h
  cases hr : readPath bs with
  | error e => simp [hr] at h
  | ok r =>
    obtain ⟨p, q⟩ := r
    have hpath : Utf8.decode? p = some pq.path := by
      simp only [hr] at h
      split at h
      · obtain rfl := Except.ok.inj h; assumption
      · obtain rfl := Except.ok.inj h; assumption
      · simp at h
    refine ⟨fun hstart => ?_, fun hstart => ?_⟩
    · -- nothing of the path is read before the end, a `?` or a `#`
      have hp : p = [] := by
        rcases hstart with rfl | hq | hf
        · simp [readPath] at hr; exact hr.1
        · obtain ⟨rest, rfl⟩ : ∃ rest, bs = 0x3F :: rest := by
            cases bs <;> simp_all
          cases hq' : readQuery rest <;> simp_all [readPath, bind, Except.bind]
        · obtain ⟨rest, rfl⟩ : ∃ rest, bs = 0x23 :: rest := by
            cases bs <;> simp_all
          simp [readPath] at hr
          exact hr.1
      rw [hp, decode?_nil] at hpath
      exact (Option.some.inj hpath).symm
    · obtain ⟨rest, rfl⟩ : ∃ rest, bs = 0x2F :: rest := by
        cases bs <;> simp_all
      obtain ⟨p', hp'⟩ : ∃ p', p = 0x2F :: p' := by
        cases hr' : readPath rest with
        | error e => simp [readPath, hr', bind, Except.bind, isPathByte] at hr
        | ok r =>
          simp [readPath, hr', bind, Except.bind, isPathByte] at hr
          exact ⟨r.1, hr.1.symm⟩
      rw [hp'] at hpath
      obtain ⟨r, hr⟩ := eq_append_of_encode_eq_cons (by decide) (decode?_eq_some_iff.1 hpath).symm
      exact ⟨r, hr⟩

end PathAndQuery

/-! ### Where an authority ends -/

/-- Octets that end an authority: none left, or a `/`, `?` or `#` next. -/
def AuthorityEnd (bs : Bytes) : Prop :=
  bs = [] ∨ ∃ b rest, bs = b :: rest ∧ (b = 0x2F ∨ b = 0x3F ∨ b = 0x23)

theorem scanAuthority_end {st st' : AuthorityScan} {i j : Nat} {bs : Bytes}
    (h : scanAuthority st i bs = .ok (st', j)) :
    ∃ k, j = i + k ∧ k ≤ bs.length ∧ AuthorityEnd (bs.drop k) := by
  induction bs generalizing st i with
  | nil =>
    simp only [scanAuthority, Except.ok.injEq, Prod.mk.injEq] at h
    exact ⟨0, by omega, by simp, by simp [AuthorityEnd]⟩
  | cons b rest ih =>
    simp only [scanAuthority] at h
    split at h
    · rename_i hstop
      simp only [Except.ok.injEq, Prod.mk.injEq] at h
      refine ⟨0, by omega, by simp, Or.inr ⟨b, rest, rfl, by simpa [or_assoc] using hstop⟩⟩
    -- every other octet is refused or scanned past
    have step : ∀ st₁, scanAuthority st₁ (i + 1) rest = .ok (st', j) →
        ∃ k, j = i + k ∧ k ≤ (b :: rest).length ∧ AuthorityEnd ((b :: rest).drop k) := by
      intro st₁ h₁
      obtain ⟨k, rfl, hk, hend⟩ := ih h₁
      exact ⟨k + 1, by omega, by simp; omega, by simpa using hend⟩
    repeat' split at h
    all_goals first | exact step _ h | simp at h

theorem authorityLength_end {bs : Bytes} {n : Nat} (h : authorityLength bs = .ok n) :
    n ≤ bs.length ∧ AuthorityEnd (bs.drop n) := by
  simp only [authorityLength, bind, Except.bind] at h
  cases hs : scanAuthority ⟨0, false, false, false, none⟩ 0 bs with
  | error e => simp [hs] at h
  | ok r =>
    obtain ⟨st, m⟩ := r
    obtain ⟨k, rfl, hk, hend⟩ := scanAuthority_end hs
    simp only [hs] at h
    repeat' split at h
    all_goals first
      | (simp at h; done)
      | (obtain rfl := Except.ok.inj h; exact ⟨by omega, by simpa using hend⟩)

/-! ### The forms of a target -/

namespace Uri

/-- The four forms of a request target. -/
inductive Shape : Uri → Prop
  /-- A scheme, a non-empty authority, and a path that is empty or starts with `/`. -/
  | absolute {s : Scheme} {a : String} {pq : PathAndQuery} :
      a ≠ "" → (pq.path = "" ∨ ∃ r, pq.path = "/" ++ r) → Shape ⟨some s, a, pq⟩
  /-- A non-empty authority alone. -/
  | authority {a : String} : a ≠ "" → Shape ⟨none, a, ⟨"", none⟩⟩
  /-- A path that starts with `/`, and maybe a query. -/
  | origin {pq : PathAndQuery} : (∃ r, pq.path = "/" ++ r) → Shape ⟨none, "", pq⟩
  /-- The asterisk alone. -/
  | asterisk : Shape ⟨none, "", ⟨"*", none⟩⟩

/-- A target as the HTTP layer holds it: its path written with path octets, its query
with query octets, in one of the four forms. -/
structure WellFormed (u : Uri) : Prop where
  path_bytes : ∀ b ∈ Utf8.encode u.target.path, PathAndQuery.isPathByte b = true
  query_bytes : ∀ q, u.target.query = some q →
    ∀ b ∈ Utf8.encode q, PathAndQuery.isQueryByte b = true
  shape : Shape u

theorem asciiText_ne_empty {bs : Bytes} (h : bs ≠ []) : asciiText bs ≠ "" := by
  simpa [asciiText, String.ofList_eq_empty_iff] using h

theorem wellFormed_authority {a : String} (h : a ≠ "") : WellFormed ⟨none, a, ⟨"", none⟩⟩ where
  path_bytes := by simp [encode_eq_flatMap]
  query_bytes := by simp
  shape := .authority h

theorem wellFormed_origin {bs : Bytes} {pq : PathAndQuery} (h : PathAndQuery.parse bs = .ok pq)
    (hs : bs.head? = some 0x2F) : WellFormed ⟨none, "", pq⟩ where
  path_bytes := (PathAndQuery.parse_bytes h).1
  query_bytes := (PathAndQuery.parse_bytes h).2
  shape := .origin ((PathAndQuery.parse_path_start h).2 hs)

theorem wellFormed_absolute {s : Scheme} {a : String} {bs : Bytes} {pq : PathAndQuery}
    (ha : a ≠ "") (hend : AuthorityEnd bs) (h : PathAndQuery.parse bs = .ok pq) :
    WellFormed ⟨some s, a, pq⟩ where
  path_bytes := (PathAndQuery.parse_bytes h).1
  query_bytes := (PathAndQuery.parse_bytes h).2
  shape := by
    refine .absolute ha ?_
    have hstart := PathAndQuery.parse_path_start h
    rcases hend with rfl | ⟨b, rest, rfl, rfl | rfl | rfl⟩
    · exact .inl (hstart.1 (.inl rfl))
    · exact .inr (hstart.2 rfl)
    · exact .inl (hstart.1 (.inr (.inl rfl)))
    · exact .inl (hstart.1 (.inr (.inr rfl)))

theorem wellFormed_of_parseFull {bs : Bytes} {u : Uri} (hne : bs ≠ []) (h : parseFull bs = .ok u) :
    u.WellFormed := by
  simp only [parseFull, bind, Except.bind] at h
  cases hsch : readScheme bs with
  | error e => simp [hsch] at h
  | ok scheme =>
    simp only [hsch] at h
    cases scheme with
    | none =>
      -- no scheme: the whole target is an authority
      cases hn : authorityLength bs with
      | error e => simp [hn] at h
      | ok n =>
        simp only [hn] at h
        split at h
        · simp at h
        · obtain rfl := Except.ok.inj h
          exact wellFormed_authority (asciiText_ne_empty hne)
    | some sk =>
      obtain ⟨s, k⟩ := sk
      cases hn : authorityLength (bs.drop k) with
      | error e => simp [hn] at h
      | ok n =>
        simp only [hn] at h
        obtain ⟨hle, hend⟩ := authorityLength_end hn
        split at h
        · simp at h
        split at h
        · simp at h
        rename_i hempty hzero
        rw [List.drop_drop] at hend h
        cases hpq : PathAndQuery.parse (bs.drop (k + n)) with
        | error e => simp [hpq] at h
        | ok pq =>
          simp only [hpq] at h
          obtain rfl := Except.ok.inj h
          -- the authority is the non-empty run of octets before the path
          have htake : (bs.drop k).take n ≠ [] := by
            simp only [ne_eq, List.take_eq_nil_iff, not_or]
            exact ⟨hzero, by simpa using hempty⟩
          exact wellFormed_absolute (asciiText_ne_empty htake) hend hpq

/-- Every target that reads is well formed. -/
theorem wellFormed_of_parse {bs : Bytes} {u : Uri} (h : Uri.parse bs = .ok u) : u.WellFormed := by
  have hslash : Utf8.encode "/" = [0x2F] := by rw [encode_eq_flatMap]; rfl
  have hstar : Utf8.encode "*" = [0x2A] := by rw [encode_eq_flatMap]; rfl
  unfold Uri.parse at h
  split at h
  · simp at h
  split at h
  · simp at h
  · obtain rfl := Except.ok.inj h
    exact ⟨by simp [hslash, PathAndQuery.isPathByte], by simp, .origin ⟨"", rfl⟩⟩
  · obtain rfl := Except.ok.inj h
    exact ⟨by simp [hstar, PathAndQuery.isPathByte], by simp, .asterisk⟩
  · rename_i b _ _ _
    simp only [bind, Except.bind] at h
    cases hn : authorityLength [b] with
    | error e => simp [hn] at h
    | ok n =>
      simp only [hn] at h
      split at h
      · simp at h
      · obtain rfl := Except.ok.inj h
        exact wellFormed_authority (asciiText_ne_empty (by simp))
  · rename_i rest _ _
    simp only [bind, Except.bind] at h
    cases hpq : PathAndQuery.parse (0x2F :: rest) with
    | error e => simp [hpq] at h
    | ok pq =>
      simp only [hpq] at h
      obtain rfl := Except.ok.inj h
      exact wellFormed_origin hpq rfl
  · rename_i hnil _ _ _ _
    exact wellFormed_of_parseFull (fun he => hnil he) h

/-! ### Adding to the query -/

/-- The query after adding encoded parameters: they follow a non-empty query after `&`,
and stand alone in place of an empty or missing one. -/
def joinQuery : Option String → String → String
  | some q, enc => if q.isEmpty then enc else q ++ "&" ++ enc
  | none, enc => enc

/-- The target with encoded parameters added to its query; scheme, authority and the path
as shown stay. -/
def withQuery (u : Uri) (enc : String) : Uri :=
  { u with target := ⟨u.path, some (joinQuery u.query enc)⟩ }

/-- An authority alone, with no scheme. -/
def IsAuthorityForm (u : Uri) : Prop := u.scheme = none ∧ u.authority ≠ ""

/-- The asterisk target `*`. -/
def IsAsterisk (u : Uri) : Prop := u.scheme = none ∧ u.authority = "" ∧ u.target = ⟨"*", none⟩

theorem query_bytes_join {q : Option String} {enc : String}
    (hq : ∀ q', q = some q' → ∀ b ∈ Utf8.encode q', PathAndQuery.isQueryByte b = true)
    (henc : ∀ b ∈ Utf8.encode enc, PathAndQuery.isQueryByte b = true) :
    ∀ b ∈ Utf8.encode (joinQuery q enc), PathAndQuery.isQueryByte b = true := by
  have hamp : Utf8.encode "&" = [0x26] := by rw [encode_eq_flatMap]; rfl
  cases q with
  | none => exact henc
  | some q' =>
    simp only [joinQuery]
    split
    · exact henc
    · intro b hb
      simp only [encode_append, hamp, List.mem_append, List.mem_singleton] at hb
      rcases hb with (hb | rfl) | hb
      · exact hq q' rfl b hb
      · decide
      · exact henc b hb

/-- A target that is neither an authority alone nor the asterisk shows a path that
starts with `/`, written with path octets. -/
theorem path_slash {u : Uri} (hu : u.WellFormed) (ha : ¬ u.IsAuthorityForm)
    (hs : ¬ u.IsAsterisk) :
    (∃ r, u.path = "/" ++ r) ∧ ∀ b ∈ Utf8.encode u.path, PathAndQuery.isPathByte b = true := by
  have hslash : Utf8.encode "/" = [0x2F] := by rw [encode_eq_flatMap]; rfl
  obtain ⟨hpb, -, hshape⟩ := hu
  cases hshape with
  | @absolute sch a pq hne hpath =>
    rcases hpath with hp | ⟨r, hp⟩
    · have hshow : Uri.path ⟨some sch, a, pq⟩ = "/" := by
        simp [Uri.path, hasPath, PathAndQuery.shownPath, hp]
      rw [hshow]
      exact ⟨⟨"", rfl⟩, by simp [hslash, PathAndQuery.isPathByte]⟩
    · have hshow : Uri.path ⟨some sch, a, pq⟩ = "/" ++ r := by
        simp [Uri.path, hasPath, PathAndQuery.shownPath, hp]
      rw [hshow, ← hp]
      exact ⟨⟨r, hp⟩, hpb⟩
  | authority hne => exact absurd ⟨rfl, hne⟩ ha
  | @origin pq hpath =>
    obtain ⟨r, hp⟩ := hpath
    have hshow : Uri.path ⟨none, "", pq⟩ = "/" ++ r := by
      simp [Uri.path, hasPath, PathAndQuery.shownPath, PathAndQuery.text, hp]
    rw [hshow, ← hp]
    exact ⟨⟨r, hp⟩, hpb⟩
  | asterisk => exact absurd ⟨rfl, rfl, rfl⟩ hs

theorem withPathAndQuery_authority {u : Uri} (ha : u.IsAuthorityForm) (pq : PathAndQuery) :
    u.withPathAndQuery pq = .error .schemeMissing := by
  obtain ⟨hsch, hauth⟩ := ha
  simp [withPathAndQuery, hsch, hauth]

theorem withPathAndQuery_asterisk {u : Uri} (hs : u.IsAsterisk) (q : String) :
    u.withPathAndQuery ⟨u.path, some q⟩ = .error .pathWithoutSlash := by
  obtain ⟨hsch, hauth, htarget⟩ := hs
  have hpath : u.path = "*" := by
    simp [Uri.path, hasPath, PathAndQuery.shownPath, PathAndQuery.text, htarget]
  have hne : "*" ++ ("?" ++ q) ≠ "*" := by
    intro h
    have := congrArg String.length h
    simp at this
  simp [withPathAndQuery, hsch, hauth, hpath, PathAndQuery.text, PathAndQuery.shownPath, hne]

/-- A path that starts with `/` may replace the path and query of a target that has a
scheme or no authority. -/
theorem withPathAndQuery_slash {u : Uri} (ha : ¬ u.IsAuthorityForm) {r : String}
    (q : Option String) :
    u.withPathAndQuery ⟨"/" ++ r, q⟩ = .ok { u with target := ⟨"/" ++ r, q⟩ } := by
  have hsch : ¬ (u.scheme = none ∧ u.authority ≠ "") := ha
  have hstart : PathAndQuery.shownPath ⟨"/" ++ r, q⟩ = "/" ++ r := by
    simp [PathAndQuery.shownPath]
  simp only [withPathAndQuery, hstart]
  rw [if_neg (by simpa using hsch), if_neg (by simp)]

/-- Adding to the query keeps a target well formed. -/
theorem wellFormed_withQuery {u : Uri} (hu : u.WellFormed) (ha : ¬ u.IsAuthorityForm)
    (hs : ¬ u.IsAsterisk) {enc : String}
    (henc : ∀ b ∈ Utf8.encode enc, PathAndQuery.isQueryByte b = true) :
    (u.withQuery enc).WellFormed := by
  obtain ⟨⟨r, hr⟩, hpb⟩ := path_slash hu ha hs
  refine ⟨hpb, ?_, ?_⟩
  · intro q hq
    cases hq
    exact query_bytes_join hu.query_bytes henc
  · -- the form is kept: a scheme stays absolute, no authority stays origin
    obtain ⟨-, -, hshape⟩ := hu
    simp only [withQuery, hr]
    cases hshape with
    | absolute hne _ => exact .absolute hne (.inr ⟨r, rfl⟩)
    | authority hne => exact absurd ⟨rfl, hne⟩ ha
    | origin _ => exact .origin ⟨r, rfl⟩
    | asterisk => exact absurd ⟨rfl, rfl, rfl⟩ hs

end Uri

end HttpCheck.Http
