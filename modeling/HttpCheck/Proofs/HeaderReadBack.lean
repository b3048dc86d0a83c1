import HttpCheck.Check.Assertions
import HttpCheck.Proofs.BuilderFold
/-!
# Reading back the headers a builder writes

A header builder stores any value without control octets other than tab and without DEL,
octets from `0x80` up included; the header assertions read a value only when all its
octets are visible ASCII or tab. Main statement: what a builder writes under a name is
found under that name and, when the value is ASCII text, equals it; a value holding a
character past ASCII is refused by `header_equals` as not visible ASCII.
-/
namespace HttpCheck

open HttpCheck.Http HttpCheck.Utf8

namespace Utf8

/-- Lossy decoding of an encoding gives the text back. -/
theorem decodeLossy_encode (s : String) : decodeLossy (encode s) = s := by
  have hid : ((fun u : Option Char => u.getD '�') ∘ some) = id := funext fun _ => rfl
  rw [decodeLossy, units_encode, List.map_map, hid, List.map_id, String.ofList_toList]

/-- ASCII text read back one character per octet is the text. -/
theorem ofList_encode_of_ascii {s : String} (h : ∀ c ∈ s.toList, c.toNat < 0x80) :
    String.ofList ((encode s).map fun b => Char.ofNat b.toNat) = s := by
  -- each character is its own octet, read back
  have hback : ∀ c ∈ s.toList,
      ((fun b : UInt8 => Char.ofNat b.toNat) ∘ fun c : Char => UInt8.ofNat c.toNat) c = id c := by
    intro c hc
    have hlt : c.toNat < 256 := by have := h c hc; omega
    simp only [Function.comp_apply, UInt8.toNat_ofNat', Nat.mod_eq_of_lt hlt, Char.ofNat_toNat, id]
  rw [encode_of_ascii h, List.map_map, List.map_congr_left hback, List.map_id,
    String.ofList_toList]

end Utf8

namespace Check

theorem all_ascii_eq_true_iff {s : String} :
    s.toList.all (·.toNat < 0x80) = true ↔ ∀ c ∈ s.toList, c.toNat < 0x80 := by
  simp only [List.all_eq_true, decide_eq_true_eq]

/-- A value a header may hold is visible ASCII exactly when it is ASCII text. -/
theorem all_isVisibleAscii_encode_iff {s : String} (h : ¬ HasRejectedOctet s) :
    (encode s).all isVisibleAscii = true ↔ ∀ c ∈ s.toList, c.toNat < 0x80 := by
  rw [List.all_eq_true]
  constructor
  · intro hvis
    refine ascii_of_encode fun b hb => ?_
    have hb' := hvis b hb
    simp only [isVisibleAscii, Bool.or_eq_true, Bool.and_eq_true, decide_eq_true_eq,
      beq_iff_eq, UInt8.le_iff_toNat_le, UInt8.lt_iff_toNat_lt, ← UInt8.toNat_inj] at hb'
    simp only [UInt8.toNat_ofNat] at hb'
    omega
  · intro hascii b hb
    have hlow : b.toNat < 0x80 := by
      rw [encode_of_ascii hascii, List.mem_map] at hb
      obtain ⟨c, hc, rfl⟩ := hb
      simp only [UInt8.toNat_ofNat']
      have := hascii c hc
      omega
    have hkept : ¬ IsRejectedOctet b := fun hr => h ⟨b, hb, hr⟩
    simp only [IsRejectedOctet, not_or, not_and, Decidable.not_not] at hkept
    simp only [isVisibleAscii, Bool.or_eq_true, Bool.and_eq_true, decide_eq_true_eq,
      beq_iff_eq, UInt8.le_iff_toNat_le, UInt8.lt_iff_toNat_lt, ← UInt8.toNat_inj]
    simp only [UInt8.toNat_ofNat]
    omega

/-- The value a header lookup reads: the text of the first value when it is visible
ASCII, else a mismatch showing the value. -/
theorem headerValue_of_get? {r : Response} {name : String} {n : HeaderName} {v : HeaderValue}
    (hn : HeaderName.ofText? name = some n) (hv : r.headers.get? n = some v) :
    headerValue r name =
      if v.bytes.all isVisibleAscii then .ok (String.ofList (v.bytes.map fun b => Char.ofNat b.toNat))
      else .error (.headerMismatch name "visible ASCII" (decodeLossy v.bytes)) := by
  simp [headerValue, hn, hv]

/-- A value a builder wrote reads back as itself when it is ASCII text, and is refused as
not visible ASCII otherwise. -/
theorem headerValue_written {r : Response} {name value : String} {n : HeaderName}
    (hn : HeaderName.ofText? name = some n) (hv : r.headers.get? n = some ⟨encode value, false⟩)
    (hvalue : ¬ HasRejectedOctet value) :
    headerValue r name = if value.toList.all (·.toNat < 0x80) then .ok value
      else .error (.headerMismatch name "visible ASCII" value) := by
  rw [headerValue_of_get? hn hv]
  by_cases hascii : ∀ c ∈ value.toList, c.toNat < 0x80
  · rw [if_pos ((all_isVisibleAscii_encode_iff hvalue).2 hascii),
      if_pos (all_ascii_eq_true_iff.2 hascii), ofList_encode_of_ascii hascii]
  · rw [if_neg (mt (all_isVisibleAscii_encode_iff hvalue).1 hascii),
      if_neg (mt all_ascii_eq_true_iff.1 hascii), decodeLossy_encode]

/-- What a header builder leaves: the name is a header name, the value is one a header
may hold, and the response's first value of the name is the value's octets. -/
theorem headerBuilder_apply_eq_ok {label name value : String} {req q : Request}
    (h : (headerBuilder label name value).apply req = (q, .ok ())) :
    ∃ n, HeaderName.ofText? name = some n ∧ ¬ HasRejectedOctet value ∧
      q.headers.get? n = some ⟨encode value, false⟩ := by
  have hins : insertHeader req name value = .ok q :=
    mapError_eq_ok.1 (Builder.checked_apply_eq_ok_iff.1 h)
  cases hn : HeaderName.ofText? name with
  | none => simp [insertHeader, hn] at hins
  | some n =>
    cases hv : HeaderValue.ofText? value with
    | none => simp [insertHeader, hn, hv] at hins
    | some v =>
      obtain ⟨hvalue, rfl⟩ := HeaderValue.ofText?_eq_some_iff.1 hv
      simp only [insertHeader, hn, hv, Except.ok.injEq] at hins
      subst hins
      exact ⟨n, rfl, hvalue, by simp [HeaderMap.get?]⟩

/-- A header builder given a header name and a value a header may hold inserts the value
under the lowered name. -/
theorem headerBuilder_apply_of_valid (label : String) {name value : String} (req : Request)
    (hname : IsHeaderName name) (hvalue : ¬ HasRejectedOctet value) :
    (headerBuilder label name value).apply req =
      ({ req with headers := req.headers.insert ⟨name.map Char.toLower⟩ ⟨encode value, false⟩ },
        .ok ()) := by
  refine Builder.checked_apply_of_ok ?_
  simp [insertHeader, HeaderName.ofText?_of_isHeaderName hname,
    HeaderValue.ofText?_of_not_rejected hvalue]

/-- After a header builder, the response's value of the name reads back as the value
when it is ASCII text, and is refused as not visible ASCII otherwise. -/
theorem headerValue_after_builder {label name value : String} {req q : Request} {r : Response}
    (hb : (headerBuilder label name value).apply req = (q, .ok ())) (hr : r.headers = q.headers) :
    headerValue r name = if value.toList.all (·.toNat < 0x80) then .ok value
      else .error (.headerMismatch name "visible ASCII" value) := by
  obtain ⟨n, hn, hvalue, hget⟩ := headerBuilder_apply_eq_ok hb
  exact headerValue_written hn (hr ▸ hget) hvalue

theorem headerExists_check_of_ok {r : Response} {name actual : String}
    (h : headerValue r name = .ok actual) : (Assertion.headerExists name).check r = .ok () := by
  simp only [Assertion.headerExists, Assertion.ofCheck, h]
  rfl

theorem headerEquals_check_self {r : Response} {name value : String}
    (h : headerValue r name = .ok value) : (Assertion.headerEquals name value).check r = .ok () := by
  simp only [Assertion.headerEquals, Assertion.ofCheck, h]
  show Except.mapError _ (if (value == value) = true then _ else _) = _
  rw [if_pos (beq_self_eq_true value)]
  rfl

theorem headerEquals_check_of_error {r : Response} {name expected : String} {e : AssertionError}
    (h : headerValue r name = .error e) :
    (Assertion.headerEquals name expected).check r = .error (.assertion e) := by
  simp only [Assertion.headerEquals, Assertion.ofCheck, h]
  rfl

/-- What a header builder writes is found under its name by `header_exists` and equals
the value for `header_equals` when the value is ASCII text; a value with a character past
ASCII, which the builder accepts, is refused by `header_equals` as not visible ASCII. -/
theorem headerBuilder_reads_back {label name value : String} {req q : Request} {r : Response}
    (hb : (headerBuilder label name value).apply req = (q, .ok ())) (hr : r.headers = q.headers) :
    ((∀ c ∈ value.toList, c.toNat < 0x80) →
        (Assertion.headerExists name).check r = .ok () ∧
          (Assertion.headerEquals name value).check r = .ok ()) ∧
      ((∃ c ∈ value.toList, 0x80 ≤ c.toNat) →
        (Assertion.headerEquals name value).check r =
          .error (.assertion (.headerMismatch name "visible ASCII" value))) := by
  have hread := headerValue_after_builder hb hr
  constructor
  · intro hascii
    rw [if_pos (all_ascii_eq_true_iff.2 hascii)] at hread
    exact ⟨headerExists_check_of_ok hread, headerEquals_check_self hread⟩
  · rintro ⟨c, hc, hhigh⟩
    rw [if_neg fun h => absurd (all_ascii_eq_true_iff.1 h c hc) (by omega)] at hread
    exact headerEquals_check_of_error hread

/-- A tab in the value and an upper-case name: the builder writes, the assertions read back. -/
theorem headerBuilder_reads_back_tab :
    (header "X-Trace" "a\tb").apply default =
        ({ (default : Request) with
          headers := (default : Request).headers.insert ⟨"x-trace"⟩ ⟨encode "a\tb", false⟩ },
          .ok ()) ∧
      ((⟨StatusCode.ok, (default : Request).headers.insert ⟨"x-trace"⟩ ⟨encode "a\tb", false⟩, []⟩ :
        Response).headers = (default : Request).headers.insert ⟨"x-trace"⟩ ⟨encode "a\tb", false⟩) ∧
      ((∀ c ∈ "a\tb".toList, c.toNat < 0x80) →
        (Assertion.headerExists "X-Trace").check
            ⟨StatusCode.ok, (default : Request).headers.insert ⟨"x-trace"⟩ ⟨encode "a\tb", false⟩, []⟩ =
          .ok () ∧
        (Assertion.headerEquals "X-Trace" "a\tb").check
            ⟨StatusCode.ok, (default : Request).headers.insert ⟨"x-trace"⟩ ⟨encode "a\tb", false⟩, []⟩ =
          .ok ()) ∧
      ((∃ c ∈ "a\tb".toList, 0x80 ≤ c.toNat) →
        (Assertion.headerEquals "X-Trace" "a\tb").check
            ⟨StatusCode.ok, (default : Request).headers.insert ⟨"x-trace"⟩ ⟨encode "a\tb", false⟩, []⟩ =
          .error (.assertion (.headerMismatch "X-Trace" "visible ASCII" "a\tb"))) := by
  have hname : IsHeaderName "X-Trace" := by
    simp only [IsHeaderName, encode_eq_flatMap, ← List.all_eq_true]
    decide
  have hvalue : ¬ HasRejectedOctet "a\tb" := not_hasRejectedOctet_of_ascii (by
    simp only [← List.all_eq_true]
    decide)
  have hlower : "X-Trace".map Char.toLower = "x-trace" := by
    simp only [String.map_eq_internal]
    decide
  have hb := headerBuilder_apply_of_valid "header(X-Trace)" default hname hvalue
  rw [hlower] at hb
  exact ⟨hb, rfl, headerBuilder_reads_back hb rfl⟩

/-- `é` is accepted by the header builder but not read back by `header_equals`. -/
theorem headerEquals_refuses_written_e_acute :
    (header "x-a" "é").apply default =
        ({ (default : Request) with
          headers := (default : Request).headers.insert ⟨"x-a"⟩ ⟨encode "é", false⟩ }, .ok ()) ∧
      (Assertion.headerEquals "x-a" "é").check
          ⟨StatusCode.ok, (default : Request).headers.insert ⟨"x-a"⟩ ⟨encode "é", false⟩, []⟩ =
        .error (.assertion (.headerMismatch "x-a" "visible ASCII" "é")) := by
  have hname : IsHeaderName "x-a" := by
    simp only [IsHeaderName, encode_eq_flatMap, ← List.all_eq_true]
    decide
  -- the two octets of `é` are `0xC3 0xA9`, neither a control octet nor DEL
  have hvalue : ¬ HasRejectedOctet "é" := by
    rintro ⟨b, hb, hr⟩
    have hall : (encode "é").all isValueByte = true := by
      simp only [encode_eq_flatMap]
      decide
    rw [List.all_eq_true] at hall
    exact absurd (hall b hb) (by simp [(isValueByte_eq_false_iff b).2 hr])
  have hlower : "x-a".map Char.toLower = "x-a" := by
    simp only [String.map_eq_internal]
    decide
  have hb := headerBuilder_apply_of_valid "header(x-a)" default hname hvalue
  rw [hlower] at hb
  refine ⟨hb, headerEquals_check_of_error ?_⟩
  rw [headerValue_after_builder hb rfl, if_neg]
  exact fun h => absurd (all_ascii_eq_true_iff.1 h 'é' (by decide)) (by decide)

end Check
end HttpCheck
