import HttpCheck.Proofs.HeaderReadBack
import HttpCheck.Proofs.JsonChecks
/-!
# Header checks

What the header assertions read of a response. A name is looked up in lowercase, and the
value read is the first one stored under it (`ReadsValue`); later values of the name are
never looked at. A name that is not a header name reads as absent. The value is read as
text only when each octet is visible ASCII or a tab.

Main statement: `header_equals` passes exactly when that first value is visible ASCII and
equal to the expected text; `header_matches` fails on every response with the compile
error of a pattern that does not compile, and otherwise passes exactly when the pattern
matches the first value; `content_type` passes exactly when the essence of the first
`content-type` value is that of the expected type. The essence of a media type is its
lowered `type/subtype`, that of any other text the text trimmed and lowered.
-/
namespace HttpCheck

open HttpCheck.Http HttpCheck.Utf8 HttpCheck.Regex

namespace Http.HeaderMap

/-- `v` is the first value stored under the name `n`: no entry before it has that name. -/
def FirstValue (m : HeaderMap) (n : HeaderName) (v : HeaderValue) : Prop :=
  ∃ pre post, m.entries = pre ++ (n, v) :: post ∧ ∀ e ∈ pre, e.1 ≠ n

theorem get?_eq_find? (m : HeaderMap) (n : HeaderName) :
    m.get? n = (m.entries.find? (·.1 == n)).map (·.2) := by
  simp [get?, getAll, List.head?_map]

theorem get?_eq_some_iff {m : HeaderMap} {n : HeaderName} {v : HeaderValue} :
    m.get? n = some v ↔ m.FirstValue n v := by
  rw [get?_eq_find?, Option.map_eq_some_iff]
  constructor
  · rintro ⟨⟨k, w⟩, hfind, rfl⟩
    obtain ⟨hk, pre, post, heq, hpre⟩ := List.find?_eq_some_iff_append.1 hfind
    obtain rfl : k = n := by simpa using hk
    exact ⟨pre, post, heq, fun e he => by simpa using hpre e he⟩
  · rintro ⟨pre, post, heq, hpre⟩
    refine ⟨(n, v), List.find?_eq_some_iff_append.2 ⟨by simp, pre, post, heq, ?_⟩, rfl⟩
    intro e he
    simpa using hpre e he

theorem get?_eq_none_iff {m : HeaderMap} {n : HeaderName} :
    m.get? n = none ↔ ∀ e ∈ m.entries, e.1 ≠ n := by
  simp [get?_eq_find?, List.find?_eq_none]

/-- Only the entries up to the first value of a name decide it: entries added after it
change nothing. -/
theorem FirstValue.append {m : HeaderMap} {n : HeaderName} {v : HeaderValue}
    (h : m.FirstValue n v) (more : List (HeaderName × HeaderValue)) :
    (⟨m.entries ++ more⟩ : HeaderMap).FirstValue n v := by
  obtain ⟨pre, post, heq, hpre⟩ := h
  exact ⟨pre, post ++ more, by simp [heq], hpre⟩

end Http.HeaderMap

/-! ### The essence of a media type -/

namespace Utf8

/-- Text whose octets start with ASCII octets starts with the characters of those octets. -/
theorem eq_asciiText_append {s : String} {p rest : Bytes} (hp : ∀ b ∈ p, b.toNat < 0x80)
    (h : encode s = p ++ rest) : ∃ r, s = asciiText p ++ r ∧ encode r = rest := by
  induction p generalizing s with
  | nil => exact ⟨s, by simp [asciiText], h⟩
  | cons b p ih =>
    have hb := hp b List.mem_cons_self
    obtain ⟨r, rfl⟩ := eq_append_of_encode_eq_cons hb h
    -- the first character is the octet itself
    have hchar : (Char.ofNat b.toNat).toNat < 0x80 := by
      rw [toNat_ofNat_of_valid (by simp [Nat.isValidChar]; omega)]
      exact hb
    have hone : encode (String.singleton (Char.ofNat b.toNat)) = [b] := by
      rw [encode_eq_flatMap]
      simp only [String.toList_singleton, List.flatMap_cons, List.flatMap_nil, List.append_nil]
      rw [encodeChar_ascii hchar, toNat_ofNat_of_valid (by simp [Nat.isValidChar]; omega),
        UInt8.ofNat_toNat]
    rw [encode_append, hone, List.singleton_append, List.cons_append, List.cons.injEq] at h
    obtain ⟨r', rfl, hr'⟩ := ih (fun x hx => hp x (List.mem_cons_of_mem _ hx)) h.2
    refine ⟨r', ?_, hr'⟩
    rw [← String.toList_inj]
    simp [asciiText]

theorem eq_empty_of_encode_eq_nil {s : String} (h : encode s = []) : s = "" := by
  have hdec := decode?_encode s
  rw [h, decode?_nil] at hdec
  exact (Option.some.inj hdec).symm

end Utf8

namespace Http.Mime

theorem subtypeValid_split {start i : Nat} {bs : Bytes} (h : subtypeValid start i bs = true) :
    ∃ st rest, bs = st ++ rest ∧ (∀ b ∈ st, isTokenByte b = true) ∧
      (rest = [] ∨ ∃ r, rest = 59 :: r) := by
  induction bs generalizing i with
  | nil => exact ⟨[], [], rfl, by simp, .inl rfl⟩
  | cons b bs ih =>
    simp only [subtypeValid] at h
    split at h
    · -- a `;` after the subtype starts the parameters
      rename_i hsemi
      simp only [Bool.and_eq_true, beq_iff_eq] at hsemi
      have hb : b = 59 := hsemi.1
      exact ⟨[], b :: bs, rfl, by simp, .inr ⟨bs, by rw [hb]⟩⟩
    split at h
    · rename_i _ htok
      obtain ⟨st, rest, rfl, hst, hrest⟩ := ih h
      refine ⟨b :: st, rest, rfl, fun x hx => ?_, hrest⟩
      rcases List.mem_cons.1 hx with rfl | hx
      · exact htok
      · exact hst x hx
    · cases h

theorem typeValid_split {i : Nat} {bs : Bytes} (h : typeValid i bs = true) :
    ∃ t st rest, bs = t ++ 47 :: st ++ rest ∧ 0 < i + t.length ∧
      (∀ b ∈ t, isTokenByte b = true) ∧ (∀ b ∈ st, isTokenByte b = true) ∧
      (rest = [] ∨ ∃ r, rest = 59 :: r) := by
  induction bs generalizing i with
  | nil => simp [typeValid] at h
  | cons b bs ih =>
    simp only [typeValid] at h
    split at h
    · rename_i htok
      obtain ⟨t, st, rest, rfl, hlen, ht, hst, hrest⟩ := ih h
      refine ⟨b :: t, st, rest, rfl, by simp only [List.length_cons]; omega, fun x hx => ?_, hst,
        hrest⟩
      rcases List.mem_cons.1 hx with rfl | hx
      · exact htok
      · exact ht x hx
    split at h
    · -- the slash after a non-empty type
      rename_i _ hslash
      simp only [Bool.and_eq_true, beq_iff_eq, decide_eq_true_eq] at hslash
      obtain ⟨hb, hi⟩ := hslash
      obtain ⟨st, rest, rfl, hst, hrest⟩ := subtypeValid_split h
      exact ⟨[], st, rest, by simp [hb], by simpa using hi, by simp, hst, hrest⟩
    · cases h

theorem isTokenByte_ne_semicolon {b : UInt8} (h : isTokenByte b = true) : b ≠ 59 := by
  rintro rfl
  simp [isTokenByte] at h

/-- The essence of a media type is its `type/subtype`, lowered: the text is a non-empty
type, `/`, a subtype, then nothing or parameters after a `;`, and only the first part
counts. -/
theorem essence_of_isValid {s : String} (h : isValid s = true) :
    ∃ (type subtype : Bytes) (params : String),
      s = asciiText type ++ "/" ++ asciiText subtype ++ params ∧ type ≠ [] ∧
      (∀ b ∈ type, isTokenByte b = true) ∧ (∀ b ∈ subtype, isTokenByte b = true) ∧
      (params = "" ∨ ∃ p, params = ";" ++ p) ∧
      essence s = lowerAscii (asciiText type ++ "/" ++ asciiText subtype) := by
  obtain ⟨t, st, rest, henc, hlen, ht, hst, hrest⟩ := typeValid_split h
  -- the type, the slash and the subtype are ASCII octets, none of them a `;`
  have hhead : ∀ b ∈ t ++ 47 :: st, b.toNat < 0x80 ∧ b ≠ 59 := by
    intro b hb
    rcases List.mem_append.1 hb with hb | hb
    · exact ⟨isTokenByte_lt (ht b hb), isTokenByte_ne_semicolon (ht b hb)⟩
    · rcases List.mem_cons.1 hb with rfl | hb
      · decide
      · exact ⟨isTokenByte_lt (hst b hb), isTokenByte_ne_semicolon (hst b hb)⟩
  obtain ⟨r, hs, hr⟩ := Utf8.eq_asciiText_append (fun b hb => (hhead b hb).1)
    (by rw [henc, List.append_assoc])
  have htext : asciiText (t ++ 47 :: st) = asciiText t ++ "/" ++ asciiText st := by
    rw [← String.toList_inj]
    simp [asciiText]
  have hparams : r = "" ∨ ∃ p, r = ";" ++ p := by
    rcases hrest with rfl | ⟨p, rfl⟩
    · exact .inl (Utf8.eq_empty_of_encode_eq_nil hr)
    · obtain ⟨p', hp'⟩ := eq_append_of_encode_eq_cons (by decide) hr
      exact .inr ⟨p', hp'⟩
  -- reading up to the first `;` stops exactly after the subtype
  have hcut : s.toList.takeWhile (· != ';') = (asciiText (t ++ 47 :: st)).toList := by
    have hnone : ∀ c ∈ (asciiText (t ++ 47 :: st)).toList, (c != ';') = true := by
      intro c hc
      simp only [asciiText, String.toList_ofList, List.mem_map] at hc
      obtain ⟨b, hb, rfl⟩ := hc
      obtain ⟨hlt, hne⟩ := hhead b hb
      simp only [bne_iff_ne, ne_eq]
      intro hsemi
      have := congrArg Char.toNat hsemi
      rw [toNat_ofNat_of_valid (by simp [Nat.isValidChar]; omega)] at this
      exact hne (UInt8.toNat_inj.1 this)
    rw [hs, String.toList_append, List.takeWhile_append_of_pos hnone]
    rcases hparams with rfl | ⟨p, rfl⟩ <;> simp
  refine ⟨t, st, r, by rw [hs, htext], fun he => by simp [he] at hlen, ht, hst, hparams, ?_⟩
  rw [essence, if_pos h, hcut, String.ofList_toList, htext]

theorem essence_of_not_isValid {s : String} (h : isValid s = false) :
    essence s = lowerAscii (Blank.trim s) := by
  simp [essence, h]

end Http.Mime

namespace Check

open Http.HeaderMap

/-- The value the header checks read for a name: the name is a header name, and the value
is the first one stored under its lowercase. -/
def ReadsValue (r : Response) (name : String) (v : HeaderValue) : Prop :=
  IsHeaderName name ∧ r.headers.FirstValue ⟨name.map Char.toLower⟩ v

/-- Whether every octet of a value is visible ASCII or a tab. -/
def IsVisible (v : HeaderValue) : Prop := v.bytes.all isVisibleAscii = true

section Lookup

variable {r : Response} {name : String}

theorem readsValue_unique {v w : HeaderValue} (hv : ReadsValue r name v)
    (hw : ReadsValue r name w) :
    v = w := by
  have h1 := get?_eq_some_iff.2 hv.2
  rw [get?_eq_some_iff.2 hw.2] at h1
  exact (Option.some.inj h1).symm

theorem headerValue_of_readsValue {v : HeaderValue} (h : ReadsValue r name v) :
    headerValue r name =
      if v.bytes.all isVisibleAscii then .ok (asciiText v.bytes)
      else .error (.headerMismatch name "visible ASCII" (decodeLossy v.bytes)) :=
  headerValue_of_get? (HeaderName.ofText?_of_isHeaderName h.1) (get?_eq_some_iff.2 h.2)

/-- A name with no value to read is missing: it is no header name, or nothing is stored
under its lowercase. -/
theorem headerValue_of_no_value (h : ∀ v, ¬ ReadsValue r name v) :
    headerValue r name = .error (.missingHeader name) := by
  by_cases hn : IsHeaderName name
  · have hnone : r.headers.get? ⟨name.map Char.toLower⟩ = none := by
      cases hget : r.headers.get? ⟨name.map Char.toLower⟩ with
      | none => rfl
      | some v => exact absurd ⟨hn, get?_eq_some_iff.1 hget⟩ (h v)
    simp [headerValue, HeaderName.ofText?_of_isHeaderName hn, hnone]
  · simp [headerValue, (HeaderName.ofText?_eq_none_iff name).2 hn]

theorem headerValue_eq_ok_iff {s : String} :
    headerValue r name = .ok s ↔
      ∃ v, ReadsValue r name v ∧ IsVisible v ∧ s = asciiText v.bytes := by
  by_cases hv : ∃ v, ReadsValue r name v
  · obtain ⟨v, hv⟩ := hv
    rw [headerValue_of_readsValue hv]
    by_cases hvis : v.bytes.all isVisibleAscii = true
    · simp only [hvis, if_true, Except.ok.injEq]
      constructor
      · rintro rfl
        exact ⟨v, hv, hvis, rfl⟩
      · rintro ⟨w, hw, -, rfl⟩
        rw [readsValue_unique hv hw]
    · simp only [hvis, Bool.false_eq_true, if_false, reduceCtorEq, false_iff]
      rintro ⟨w, hw, hwvis, -⟩
      exact hvis (readsValue_unique hv hw ▸ hwvis)
  · have hnone : ∀ v, ¬ ReadsValue r name v := fun v h => hv ⟨v, h⟩
    simp only [headerValue_of_no_value hnone, reduceCtorEq, false_iff]
    rintro ⟨w, hw, -⟩
    exact hnone w hw

/-- A lookup fails as missing when there is no value to read, and as not visible ASCII,
showing the value, when the value read has another octet. It fails in no other way. -/
theorem headerValue_eq_error_iff {e : AssertionError} :
    headerValue r name = .error e ↔
      ((∀ v, ¬ ReadsValue r name v) ∧ e = .missingHeader name) ∨
        ∃ v, ReadsValue r name v ∧ ¬ IsVisible v ∧
          e = .headerMismatch name "visible ASCII" (decodeLossy v.bytes) := by
  by_cases hv : ∃ v, ReadsValue r name v
  · obtain ⟨v, hv⟩ := hv
    rw [headerValue_of_readsValue hv]
    by_cases hvis : v.bytes.all isVisibleAscii = true
    · simp only [hvis, if_true, reduceCtorEq, false_iff]
      rintro (⟨h, -⟩ | ⟨w, hw, hwvis, -⟩)
      · exact h v hv
      · exact hwvis (readsValue_unique hv hw ▸ hvis)
    · simp only [hvis, Bool.false_eq_true, if_false, Except.error.injEq]
      constructor
      · rintro rfl
        exact .inr ⟨v, hv, hvis, rfl⟩
      · rintro (⟨h, -⟩ | ⟨w, hw, -, rfl⟩)
        · exact absurd hv (h v)
        · rw [readsValue_unique hv hw]
  · have hnone : ∀ v, ¬ ReadsValue r name v := fun v h => hv ⟨v, h⟩
    simp only [headerValue_of_no_value hnone, Except.error.injEq]
    constructor
    · rintro rfl
      exact .inl ⟨hnone, rfl⟩
    · rintro (⟨-, rfl⟩ | ⟨w, hw, -⟩)
      · rfl
      · exact absurd hw (hnone w)

/-- Values stored after the one read change nothing. -/
theorem headerValue_append_entries {v : HeaderValue} (h : ReadsValue r name v)
    (more : List (HeaderName × HeaderValue)) :
    headerValue ⟨r.status, ⟨r.headers.entries ++ more⟩, r.body⟩ name = headerValue r name := by
  have h' : ReadsValue ⟨r.status, ⟨r.headers.entries ++ more⟩, r.body⟩ name v :=
    ⟨h.1, h.2.append more⟩
  rw [headerValue_of_readsValue h', headerValue_of_readsValue h]

end Lookup

/-! ### The checks -/

namespace Assertion

variable {r : Response} {name : String}

/-- The shape every header check has: read the value, then test it. It passes exactly when
the value read is visible ASCII and passes the test. -/
theorem headerValue_test_eq_ok {test : String → Bool} {mismatch : String → AssertionError} :
    (headerValue r name >>= fun actual =>
        if test actual = true then .ok () else .error (mismatch actual)) = .ok () ↔
      ∃ v, ReadsValue r name v ∧ IsVisible v ∧ test (asciiText v.bytes) = true := by
  simp only [bind_eq_ok, headerValue_eq_ok_iff, compare_eq_ok]
  constructor
  · rintro ⟨_, ⟨v, hv, hvis, rfl⟩, htest⟩
    exact ⟨v, hv, hvis, htest⟩
  · rintro ⟨v, hv, hvis, htest⟩
    exact ⟨_, ⟨v, hv, hvis, rfl⟩, htest⟩

/-- `header_equals` passes exactly when the value read is visible ASCII and is the
expected text. -/
theorem headerEquals_eq_ok_iff {expected : String} :
    (headerEquals name expected).check r = .ok () ↔
      ∃ v, ReadsValue r name v ∧ IsVisible v ∧ asciiText v.bytes = expected := by
  simp only [headerEquals, ofCheck_eq_ok, headerValue_test_eq_ok]
  simp only [beq_iff_eq]

/-- A pattern that does not compile fails `header_matches` on every response, with its
compile error, before any header is read. -/
theorem headerMatches_of_compile_error {pattern : String} {ce : CompileError}
    (h : Matcher.compile pattern = .error ce) (r : Response) :
    (headerMatches name pattern).check r =
      .error (.assertion (.invalidPattern pattern (ce.message pattern))) := by
  simp [headerMatches, ofCheck, compilePattern, h]

/-- With a pattern that compiles, `header_matches` passes exactly when the value read is
visible ASCII and the pattern matches somewhere in it. -/
theorem headerMatches_eq_ok_iff {pattern : String} {m : Matcher}
    (h : Matcher.compile pattern = .ok m) :
    (headerMatches name pattern).check r = .ok () ↔
      ∃ v, ReadsValue r name v ∧ IsVisible v ∧ m.isMatch (asciiText v.bytes) = true := by
  simp only [headerMatches, compilePattern, h, mapError_ok, ok_bind, ofCheck_eq_ok,
    headerValue_test_eq_ok]

/-- `content_type` passes exactly when the first `content-type` value is visible ASCII and
has the essence of the expected type. -/
theorem contentType_eq_ok_iff {expected : String} :
    (contentType expected).check r = .ok () ↔
      ∃ v, ReadsValue r "content-type" v ∧ IsVisible v ∧
        Mime.essence (asciiText v.bytes) = Mime.essence expected := by
  simp only [contentType, ofCheck_eq_ok, headerValue_test_eq_ok]
  simp only [beq_iff_eq]

-- Parameters and case do not count, and a second `content-type` is not read.
example : (contentType "text/html").check
    { (default : Response) with
      headers := ⟨[(⟨"content-type"⟩, ⟨Utf8.encode "Text/HTML; charset=utf-8", false⟩),
        (⟨"content-type"⟩, ⟨Utf8.encode "application/json", false⟩)]⟩ } = .ok () :=
  eq_ok_of_toOption (by decide +kernel)

/-- The header checks read one value: the first one stored under the lowercased name, if
the name is a header name at all. The lookup fails as missing without it and as a mismatch
when it is not visible ASCII; what is stored after it is never read. Each check passes
exactly when that value is there, is visible ASCII and satisfies its test: the exact text,
a match of the compiled pattern, or the essence of the expected media type, which is the
lowercased type and subtype of a well-formed media type and the trimmed lowercased text of
anything else. A pattern that does not compile fails on every response. -/
theorem header_checks_read_first_value (r : Response) (name expected pattern media : String) :
    (∀ s, headerValue r name = .ok s ↔
      ∃ v, ReadsValue r name v ∧ IsVisible v ∧ s = asciiText v.bytes) ∧
    (∀ e, headerValue r name = .error e ↔
      ((∀ v, ¬ ReadsValue r name v) ∧ e = .missingHeader name) ∨
        ∃ v, ReadsValue r name v ∧ ¬ IsVisible v ∧
          e = .headerMismatch name "visible ASCII" (decodeLossy v.bytes)) ∧
    (∀ v more, ReadsValue r name v →
      headerValue ⟨r.status, ⟨r.headers.entries ++ more⟩, r.body⟩ name = headerValue r name) ∧
    ((headerEquals name expected).check r = .ok () ↔
      ∃ v, ReadsValue r name v ∧ IsVisible v ∧ asciiText v.bytes = expected) ∧
    (∀ ce, Matcher.compile pattern = .error ce → ∀ r' : Response,
      (headerMatches name pattern).check r' =
        .error (.assertion (.invalidPattern pattern (ce.message pattern)))) ∧
    (∀ m, Matcher.compile pattern = .ok m →
      ((headerMatches name pattern).check r = .ok () ↔
        ∃ v, ReadsValue r name v ∧ IsVisible v ∧ m.isMatch (asciiText v.bytes) = true)) ∧
    ((contentType media).check r = .ok () ↔
      ∃ v, ReadsValue r "content-type" v ∧ IsVisible v ∧
        Mime.essence (asciiText v.bytes) = Mime.essence media) ∧
    (∀ s, Mime.isValid s = true →
      ∃ (type subtype : Bytes) (params : String),
        s = asciiText type ++ "/" ++ asciiText subtype ++ params ∧ type ≠ [] ∧
        (∀ b ∈ type, isTokenByte b = true) ∧ (∀ b ∈ subtype, isTokenByte b = true) ∧
        (params = "" ∨ ∃ p, params = ";" ++ p) ∧
        Mime.essence s = Mime.lowerAscii (asciiText type ++ "/" ++ asciiText subtype)) ∧
    (∀ s, Mime.isValid s = false → Mime.essence s = Mime.lowerAscii (Blank.trim s)) :=
  ⟨fun _ => headerValue_eq_ok_iff, fun _ => headerValue_eq_error_iff,
    fun _ more hv => headerValue_append_entries hv more, headerEquals_eq_ok_iff,
    fun _ hce r' => headerMatches_of_compile_error hce r',
    fun _ hm => headerMatches_eq_ok_iff hm, contentType_eq_ok_iff,
    fun _ => Mime.essence_of_isValid, fun _ => Mime.essence_of_not_isValid⟩

end Assertion

end Check
end HttpCheck
