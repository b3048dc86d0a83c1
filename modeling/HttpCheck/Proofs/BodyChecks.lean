import HttpCheck.Proofs.HeaderReadBack
import HttpCheck.Proofs.JsonChecks
/-!
# Body checks

What the body assertions read of a response. `body_equals` and `body_empty` look at the
octets alone; `body_contains` and `body_matches` read the body as text and refuse one that
is not UTF-8, and `body_matches` refuses a pattern that does not compile before it looks at
the body at all.

A message shows a text by its preview: the text itself up to 100 characters, else its first
100 characters and `...`. The cut falls between characters, so what is kept is a prefix of
the text, and of its UTF-8 octets (`Quotes`).

Main statements: each body assertion passes exactly when its test holds of the octets or of
the text, and fails otherwise with the error of the first stage that fails; every body a
failure shows is quoted by its preview, at most 103 characters long.
-/
namespace HttpCheck

open HttpCheck.Http HttpCheck.Utf8 HttpCheck.Regex

/-! ### Previews -/

namespace Check

/-- `q` quotes the text `t` as a message shows it: the first characters of `t`, at most 100
of them, followed by `...` exactly when some were left out. -/
def Quotes (t q : String) : Prop :=
  ∃ kept rest, t = kept ++ rest ∧ kept.length = min t.length 100 ∧
    q = if rest = "" then kept else kept ++ "..."

theorem preview_of_length_le {s : String} (h : s.length ≤ previewLength) : preview s = s := by
  rw [preview, if_neg (by rw [String.length_toList]; omega)]

theorem preview_of_lt_length {s : String} (h : previewLength < s.length) :
    preview s = String.ofList (s.toList.take previewLength) ++ "..." := by
  rw [preview, if_pos (by rw [String.length_toList]; omega)]

/-- A preview keeps the first characters and leaves out the rest. -/
theorem quotes_preview (s : String) : Quotes s (preview s) := by
  refine ⟨String.ofList (s.toList.take previewLength),
    String.ofList (s.toList.drop previewLength), ?_, ?_, ?_⟩
  · rw [← String.toList_inj, String.toList_append, String.toList_ofList, String.toList_ofList,
      List.take_append_drop]
  · rw [String.length_ofList, List.length_take, String.length_toList, Nat.min_comm]
    rfl
  · -- the rest is empty exactly when nothing is cut
    have hrest :
        String.ofList (s.toList.drop previewLength) = "" ↔ s.length ≤ previewLength := by
      rw [String.ofList_eq_empty_iff, List.drop_eq_nil_iff, String.length_toList]
    by_cases h : previewLength < s.length
    · rw [if_neg (fun he => absurd (hrest.1 he) (by omega)), preview_of_lt_length h]
    · rw [if_pos (hrest.2 (by omega)), preview_of_length_le (by omega),
        List.take_of_length_le (by rw [String.length_toList]; omega), String.ofList_toList]

/-- A quotation is at most 103 characters long, and what it keeps of the text is a prefix of
its characters and of its octets. -/
theorem Quotes.bounded {t q : String} (h : Quotes t q) :
    q.length ≤ 103 ∧ ∃ kept, kept.toList <+: t.toList ∧ encode kept <+: encode t ∧
      (q = kept ∨ q = kept ++ "...") := by
  obtain ⟨kept, rest, rfl, hlen, rfl⟩ := h
  have hkept : kept.length ≤ 100 := by omega
  refine ⟨?_, kept, ⟨rest.toList, String.toList_append.symm⟩,
    ⟨encode rest, (encode_append _ _).symm⟩, ?_⟩
  · split
    · omega
    · rw [String.length_append]
      exact Nat.add_le_add hkept (Nat.le_refl 3)
  · split
    · exact .inl rfl
    · exact .inr rfl

/-! ### The body as text -/

theorem bodyText_eq_ok_iff {r : Response} {s : String} :
    bodyText r = .ok s ↔ decode? r.body = some s := by
  unfold bodyText
  cases decode? r.body <;> simp

theorem bodyText_eq_error_iff {r : Response} {e : AssertionError} :
    bodyText r = .error e ↔ decode? r.body = none ∧ e = .notUtf8 := by
  unfold bodyText
  cases decode? r.body <;> simp [eq_comm]

/-- The search for octets finds exactly their occurrences. -/
theorem containsBytes_eq_true_iff {needle hay : Bytes} :
    containsBytes needle hay = true ↔ needle <:+: hay := by
  induction hay with
  | nil => simp [containsBytes]
  | cons b rest ih =>
    rw [containsBytes, Bool.or_eq_true, List.isPrefixOf_iff_prefix, ih, List.infix_cons_iff]

end Check

theorem Regex.Matcher.pattern_of_compile {p : String} {m : Matcher}
    (h : Matcher.compile p = .ok m) : m.pattern = p := by
  simp only [Matcher.compile, bind_eq_ok, mapError_eq_ok] at h
  obtain ⟨ast, -, expr, -, h⟩ := h
  split at h
  · cases h
  · cases h
    rfl

namespace Check.Assertion

variable {r : Response} {f : Failure}

/-! ### `body_equals` and `body_empty` -/

theorem bodyEquals_eq_ok_iff {expected : Bytes} :
    (bodyEquals expected).check r = .ok () ↔ r.body = expected := by
  rw [bodyEquals, ofCheck_compare_eq_ok, beq_iff_eq]

theorem bodyEquals_eq_error_iff {expected : Bytes} :
    (bodyEquals expected).check r = .error f ↔ r.body ≠ expected ∧
      f = .assertion
        (.bodyMismatch (preview (decodeLossy expected)) (preview (decodeLossy r.body))) := by
  rw [bodyEquals, ofCheck_compare_eq_error, beq_eq_false_iff_ne]

theorem bodyEmpty_eq_ok_iff : bodyEmpty.check r = .ok () ↔ r.body.length = 0 := by
  rw [bodyEmpty, ofCheck_compare_eq_ok, List.isEmpty_iff, List.length_eq_zero_iff]

theorem bodyEmpty_eq_error_iff :
    bodyEmpty.check r = .error f ↔
      0 < r.body.length ∧ f = .assertion (.bodyNotEmpty r.body.length) := by
  rw [bodyEmpty, ofCheck_compare_eq_error, List.isEmpty_eq_false_iff, ← List.length_pos_iff]

/-! ### `body_contains` -/

theorem bodyContains_eq_ok_iff {text : String} :
    (bodyContains text).check r = .ok () ↔
      decode? r.body ≠ none ∧ encode text <:+: r.body := by
  simp only [bodyContains, ofCheck_eq_ok, bind_eq_ok, bodyText_eq_ok_iff, compare_eq_ok]
  simp only [containsBytes_eq_true_iff, decode?_eq_some_iff]
  constructor
  · rintro ⟨s, hs, hin⟩
    rw [hs, decode?_encode]
    exact ⟨Option.some_ne_none s, hin⟩
  · rintro ⟨hvalid, hin⟩
    obtain ⟨s, hs⟩ := Option.ne_none_iff_exists'.1 hvalid
    rw [decode?_eq_some_iff.1 hs] at hin ⊢
    exact ⟨s, rfl, hin⟩

/-- On a body that is text, `body_contains` passes exactly when the text occurs among the
body's characters. -/
theorem bodyContains_eq_ok_iff_of_text {text s : String} (h : decode? r.body = some s) :
    (bodyContains text).check r = .ok () ↔ text.toList <:+: s.toList := by
  rw [bodyContains_eq_ok_iff, decode?_eq_some_iff.1 h, decode?_encode, encode_infix_encode_iff]
  exact and_iff_right (Option.some_ne_none s)

theorem bodyContains_eq_error_iff {text : String} :
    (bodyContains text).check r = .error f ↔
      (decode? r.body = none ∧ f = .assertion .notUtf8) ∨
      (decode? r.body ≠ none ∧ ¬ encode text <:+: r.body ∧
        f = .assertion (.bodyMissingText text)) := by
  simp only [bodyContains, ofCheck_eq_error, bind_eq_error, bodyText_eq_error_iff,
    bodyText_eq_ok_iff, compare_eq_error]
  constructor
  · rintro ⟨e, he, rfl⟩
    rcases he with ⟨hnone, rfl⟩ | ⟨s, hs, hout, rfl⟩
    · exact .inl ⟨hnone, rfl⟩
    · rw [decode?_eq_some_iff.1 hs, ← containsBytes_eq_true_iff, hout]
      exact .inr ⟨by simp, Bool.false_ne_true, rfl⟩
  · rintro (⟨hnone, rfl⟩ | ⟨hvalid, hout, rfl⟩)
    · exact ⟨_, .inl ⟨hnone, rfl⟩, rfl⟩
    · obtain ⟨s, hs⟩ := Option.ne_none_iff_exists'.1 hvalid
      rw [decode?_eq_some_iff.1 hs, ← containsBytes_eq_true_iff, Bool.not_eq_true] at hout
      exact ⟨_, .inr ⟨s, hs, hout, rfl⟩, rfl⟩

theorem bodyContains_notUtf8_iff {text : String} :
    (bodyContains text).check r = .error (.assertion .notUtf8) ↔ decode? r.body = none := by
  rw [bodyContains_eq_error_iff]
  constructor
  · rintro (⟨hnone, -⟩ | ⟨-, -, hmissing⟩)
    · exact hnone
    · cases hmissing
  · intro hnone
    exact .inl ⟨hnone, rfl⟩

/-- The empty text is found in every body that is text. -/
theorem bodyContains_empty (h : decode? r.body ≠ none) : (bodyContains "").check r = .ok () :=
  bodyContains_eq_ok_iff.2 ⟨h, by rw [encode_empty]; exact List.nil_infix⟩

/-! ### `body_matches` -/

/-- A pattern that does not compile fails `body_matches` on every response, with its compile
error, before the body is read. -/
theorem bodyMatches_of_compile_error {pattern : String} {ce : CompileError}
    (h : Matcher.compile pattern = .error ce) (r : Response) :
    (bodyMatches pattern).check r =
      .error (.assertion (.invalidPattern pattern (ce.message pattern))) := by
  simp [bodyMatches, ofCheck, compilePattern, h]

theorem bodyMatches_eq_ok_iff {pattern : String} {m : Matcher}
    (h : Matcher.compile pattern = .ok m) :
    (bodyMatches pattern).check r = .ok () ↔
      ∃ s, decode? r.body = some s ∧ m.isMatch s = true := by
  simp only [bodyMatches, compilePattern, h, mapError_ok, ok_bind, ofCheck_eq_ok, bind_eq_ok,
    bodyText_eq_ok_iff, compare_eq_ok]

theorem bodyMatches_eq_error_iff {pattern : String} {m : Matcher}
    (h : Matcher.compile pattern = .ok m) :
    (bodyMatches pattern).check r = .error f ↔
      (decode? r.body = none ∧ f = .assertion .notUtf8) ∨
      ∃ s, decode? r.body = some s ∧ m.isMatch s = false ∧
        f = .assertion (.patternMismatch ("body '" ++ preview s ++ "'") pattern) := by
  simp only [bodyMatches, compilePattern, h, mapError_ok, ok_bind, ofCheck_eq_error, bind_eq_error,
    bodyText_eq_error_iff, bodyText_eq_ok_iff, compare_eq_error, Matcher.pattern_of_compile h]
  constructor
  · rintro ⟨e, he, rfl⟩
    rcases he with ⟨hnone, rfl⟩ | ⟨s, hs, hno, rfl⟩
    · exact .inl ⟨hnone, rfl⟩
    · exact .inr ⟨s, hs, hno, rfl⟩
  · rintro (⟨hnone, rfl⟩ | ⟨s, hs, hno, rfl⟩)
    · exact ⟨_, .inl ⟨hnone, rfl⟩, rfl⟩
    · exact ⟨_, .inr ⟨s, hs, hno, rfl⟩, rfl⟩

/-! ### What the failures show -/

theorem bodyEquals_quotes {expected : Bytes} {x y : String}
    (h : (bodyEquals expected).check r = .error (.assertion (.bodyMismatch x y))) :
    Quotes (decodeLossy expected) x ∧ Quotes (decodeLossy r.body) y := by
  obtain ⟨-, hf⟩ := bodyEquals_eq_error_iff.1 h
  cases hf
  exact ⟨quotes_preview _, quotes_preview _⟩

theorem bodyMatches_quotes {pattern subject p : String}
    (h : (bodyMatches pattern).check r = .error (.assertion (.patternMismatch subject p))) :
    ∃ q, subject = "body '" ++ q ++ "'" ∧ Quotes (decodeLossy r.body) q := by
  cases hc : Matcher.compile pattern with
  | error ce =>
    rw [bodyMatches_of_compile_error hc] at h
    cases h
  | ok m =>
    rcases (bodyMatches_eq_error_iff hc).1 h with ⟨-, hf⟩ | ⟨s, hs, -, hf⟩
    · cases hf
    · -- the text read is the body, so reading it lossily gives it back
      cases hf
      rw [decode?_eq_some_iff.1 hs, decodeLossy_encode]
      exact ⟨preview s, rfl, quotes_preview s⟩

/-- Each body assertion passes exactly when its test holds and otherwise fails with the first
stage that fails. `body_equals` compares the octets, whatever they are, and shows both sides
by their previews. `body_contains` refuses a body that is not UTF-8 and otherwise looks for
the octets of the text, which is looking for its characters among the body's, so the empty
text is found in every body that is text.
`body_matches` refuses a pattern that does not compile on every response, then a body that is
not UTF-8, and otherwise passes when the pattern matches somewhere in the text, showing its
preview when it does not. `body_empty` passes on no octets and otherwise reports how many. -/
theorem body_checks_read_octets_or_text (r : Response) (expected : Bytes) (text pattern : String) :
    ((bodyEquals expected).check r = .ok () ↔ r.body = expected) ∧
    (∀ f, (bodyEquals expected).check r = .error f ↔ r.body ≠ expected ∧
      f = .assertion
        (.bodyMismatch (preview (decodeLossy expected)) (preview (decodeLossy r.body)))) ∧
    ((bodyContains text).check r = .ok () ↔ decode? r.body ≠ none ∧ encode text <:+: r.body) ∧
    (∀ s, decode? r.body = some s →
      ((bodyContains text).check r = .ok () ↔ text.toList <:+: s.toList)) ∧
    (∀ f, (bodyContains text).check r = .error f ↔
      (decode? r.body = none ∧ f = .assertion .notUtf8) ∨
      (decode? r.body ≠ none ∧ ¬ encode text <:+: r.body ∧
        f = .assertion (.bodyMissingText text))) ∧
    ((bodyContains text).check r = .error (.assertion .notUtf8) ↔ decode? r.body = none) ∧
    (decode? r.body ≠ none → (bodyContains "").check r = .ok ()) ∧
    (∀ ce, Matcher.compile pattern = .error ce → ∀ r' : Response,
      (bodyMatches pattern).check r' =
        .error (.assertion (.invalidPattern pattern (ce.message pattern)))) ∧
    (∀ m, Matcher.compile pattern = .ok m →
      ((bodyMatches pattern).check r = .ok () ↔
        ∃ s, decode? r.body = some s ∧ m.isMatch s = true) ∧
      ∀ f, (bodyMatches pattern).check r = .error f ↔
        (decode? r.body = none ∧ f = .assertion .notUtf8) ∨
        ∃ s, decode? r.body = some s ∧ m.isMatch s = false ∧
          f = .assertion (.patternMismatch ("body '" ++ preview s ++ "'") pattern)) ∧
    (bodyEmpty.check r = .ok () ↔ r.body.length = 0) ∧
    (∀ f, bodyEmpty.check r = .error f ↔
      0 < r.body.length ∧ f = .assertion (.bodyNotEmpty r.body.length)) :=
  ⟨bodyEquals_eq_ok_iff, fun _ => bodyEquals_eq_error_iff, bodyContains_eq_ok_iff,
    fun _ h => bodyContains_eq_ok_iff_of_text h, fun _ => bodyContains_eq_error_iff,
    bodyContains_notUtf8_iff, bodyContains_empty,
    fun _ hce r' => bodyMatches_of_compile_error hce r',
    fun _ hm => ⟨bodyMatches_eq_ok_iff hm, fun _ => bodyMatches_eq_error_iff hm⟩,
    bodyEmpty_eq_ok_iff, fun _ => bodyEmpty_eq_error_iff⟩

-- Octets that are not UTF-8 are compared like any others.
example : (bodyEquals [0xff, 0xfe]).check { (default : Response) with body := [0xff, 0xfe] } =
    .ok () := rfl

/-- A preview is the text itself up to 100 characters, and otherwise its first 100
characters and `...`. It cuts between characters, so what it keeps is a prefix of the text's
characters and of its octets, and it is at most 103 characters long. The bodies that
`body_equals` and `body_matches` show when they fail are quoted so, from the body read with
each ill-formed octet sequence replaced. -/
theorem preview_keeps_whole_characters :
    (∀ s : String, s.length ≤ 100 → preview s = s) ∧
    (∀ s : String, 100 < s.length → preview s = String.ofList (s.toList.take 100) ++ "...") ∧
    (∀ s : String, Quotes s (preview s)) ∧
    (∀ t q, Quotes t q → q.length ≤ 103 ∧ ∃ kept, kept.toList <+: t.toList ∧
      encode kept <+: encode t ∧ (q = kept ∨ q = kept ++ "...")) ∧
    (∀ expected (r : Response) x y,
      (bodyEquals expected).check r = .error (.assertion (.bodyMismatch x y)) →
        Quotes (decodeLossy expected) x ∧ Quotes (decodeLossy r.body) y) ∧
    (∀ pattern (r : Response) subject p,
      (bodyMatches pattern).check r = .error (.assertion (.patternMismatch subject p)) →
        ∃ q, subject = "body '" ++ q ++ "'" ∧ Quotes (decodeLossy r.body) q) :=
  ⟨fun _ h => preview_of_length_le h, fun _ h => preview_of_lt_length h, quotes_preview,
    fun _ _ h => h.bounded, fun _ _ _ _ h => bodyEquals_quotes h,
    fun _ _ _ _ h => bodyMatches_quotes h⟩

-- A hundred characters of two octets each are kept whole; a hundred and first is cut.
example : preview (String.ofList (List.replicate 100 'é')) =
      String.ofList (List.replicate 100 'é') ∧
    preview (String.ofList (List.replicate 101 'é')) =
      String.ofList (List.replicate 100 'é') ++ "..." := by
  decide +kernel

end Check.Assertion

end HttpCheck
