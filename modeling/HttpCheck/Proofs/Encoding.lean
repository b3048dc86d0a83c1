import HttpCheck.Check.Builders
import HttpCheck.Proofs.Target
import HttpCheck.Proofs.Except
/-!
# What the encoders write

A form and a base64 text are ASCII: every character of a form is a query octet, every
character of a base64 text a visible octet that a header value may hold. UTF-8 writes
ASCII one octet per character, so these facts carry over to the octets sent.
-/
namespace HttpCheck

open HttpCheck.Http

namespace Utf8

/-- An ASCII character whose octet passes a test. -/
def asciiWith (p : UInt8 → Bool) (c : Char) : Bool := c.toNat < 0x80 && p (UInt8.ofNat c.toNat)

theorem encodeChar_ascii {c : Char} (h : c.toNat < 0x80) :
    String.utf8EncodeChar c = [UInt8.ofNat c.toNat] := by
  have hc := encodeChar_one h
  rwa [Char.ofNat_toNat] at hc

/-- Text made of ASCII characters whose octets pass a test is written in such octets. -/
theorem encode_of_asciiWith {p : UInt8 → Bool} {s : String}
    (h : ∀ c ∈ s.toList, asciiWith p c = true) : ∀ b ∈ encode s, p b = true := by
  intro b hb
  rw [encode_eq_flatMap, List.mem_flatMap] at hb
  obtain ⟨c, hc, hb⟩ := hb
  have hc' := h c hc
  simp only [asciiWith, Bool.and_eq_true, decide_eq_true_eq] at hc'
  rw [encodeChar_ascii hc'.1, List.mem_singleton] at hb
  rw [hb]
  exact hc'.2

/-- ASCII text is written one octet per character. -/
theorem encode_of_ascii {s : String} (h : ∀ c ∈ s.toList, c.toNat < 0x80) :
    encode s = s.toList.map fun c => UInt8.ofNat c.toNat := by
  rw [encode_eq_flatMap]
  generalize s.toList = cs at h ⊢
  induction cs with
  | nil => rfl
  | cons c cs ih =>
    rw [List.flatMap_cons, List.map_cons, encodeChar_ascii (h c List.mem_cons_self),
      ih (fun x hx => h x (List.mem_cons_of_mem _ hx)), List.singleton_append]

/-- A character past ASCII is written with a lead octet past ASCII. -/
theorem exists_high_of_encodeChar {c : Char} (h : 0x80 ≤ c.toNat) :
    ∃ b ∈ String.utf8EncodeChar c, 0x80 ≤ b.toNat := by
  rw [← Char.ofNat_toNat c]
  rcases toNat_valid c with hv | hv
  · by_cases h2 : c.toNat < 0x800
    · rw [encodeChar_two ⟨h, h2⟩]
      exact ⟨_, List.mem_cons_self, by simp; omega⟩
    · rw [encodeChar_three ⟨by omega, by omega⟩ (.inl hv)]
      exact ⟨_, List.mem_cons_self, by simp; omega⟩
  · by_cases h3 : c.toNat < 0x10000
    · rw [encodeChar_three ⟨by omega, h3⟩ (.inr hv.1)]
      exact ⟨_, List.mem_cons_self, by simp; omega⟩
    · rw [encodeChar_four ⟨by omega, hv.2⟩]
      exact ⟨_, List.mem_cons_self, by simp; omega⟩

/-- Text written in ASCII octets is ASCII. -/
theorem ascii_of_encode {s : String} (h : ∀ b ∈ encode s, b.toNat < 0x80) :
    ∀ c ∈ s.toList, c.toNat < 0x80 := by
  intro c hc
  rcases Nat.lt_or_ge c.toNat 0x80 with hlt | hge
  · exact hlt
  · obtain ⟨b, hb, hhigh⟩ := exists_high_of_encodeChar hge
    have hlow := h b (by rw [encode_eq_flatMap]; exact List.mem_flatMap.2 ⟨c, hc, hb⟩)
    omega

end Utf8

/-- A character of a joined text is a character of the separator or of a part. -/
theorem mem_intercalate {sep : String} {parts : List String} {c : Char}
    (h : c ∈ (sep.intercalate parts).toList) : c ∈ sep.toList ∨ ∃ p ∈ parts, c ∈ p.toList := by
  induction parts with
  | nil => simp at h
  | cons p ps ih =>
    cases ps with
    | nil => exact .inr ⟨p, List.mem_singleton_self p, by simpa using h⟩
    | cons q qs =>
      rw [String.intercalate_cons_cons, String.toList_append, String.toList_append] at h
      simp only [List.mem_append] at h
      rcases h with (h | h) | h
      · exact .inr ⟨p, List.mem_cons_self, h⟩
      · exact .inl h
      · rcases ih h with h | ⟨r, hr, h⟩
        · exact .inl h
        · exact .inr ⟨r, List.mem_cons_of_mem _ hr, h⟩

namespace Form

/-- A character that is an ASCII query octet. -/
def isQueryChar : Char → Bool := Utf8.asciiWith PathAndQuery.isQueryByte

/-- The octets kept as they are are ASCII query octets. -/
theorem isQueryByte_of_isKept {b : UInt8} (h : isKept b = true) :
    b.toNat < 0x80 ∧ PathAndQuery.isQueryByte b = true := by
  simp only [isKept, PathAndQuery.isQueryByte, Bool.or_eq_true, Bool.and_eq_true,
    decide_eq_true_eq, beq_iff_eq, UInt8.le_iff_toNat_le, ← UInt8.toNat_inj] at h ⊢
  simp only [UInt8.toNat_ofNat] at h ⊢
  omega

theorem upperDigit_query : ∀ n < 16, isQueryChar (upperDigit n) = true := by decide

/-- Every character that form encoding writes for an octet is a query octet. -/
theorem encodeByte_query (b : UInt8) : ∀ c ∈ encodeByte b, isQueryChar c = true := by
  have hb := b.toNat_lt
  unfold encodeByte
  split
  · -- a kept octet stands for itself
    rename_i hk
    obtain ⟨hlt, hq⟩ := isQueryByte_of_isKept hk
    have hc : (Char.ofNat b.toNat).toNat = b.toNat :=
      Utf8.toNat_ofNat_of_valid (by simp [Nat.isValidChar]; omega)
    intro c hc'
    rw [List.mem_singleton] at hc'
    subst hc'
    simp [isQueryChar, Utf8.asciiWith, hc, hlt, hq]
  split
  · intro c hc
    rw [List.mem_singleton] at hc
    subst hc
    decide
  · intro c hc
    simp only [List.mem_cons, List.not_mem_nil, or_false] at hc
    rcases hc with rfl | rfl | rfl
    · decide
    · exact upperDigit_query _ (by omega)
    · exact upperDigit_query _ (by omega)

theorem encodeText_query (s : String) : ∀ c ∈ (encodeText s).toList, isQueryChar c = true := by
  intro c hc
  simp only [encodeText, String.toList_ofList, List.mem_flatMap] at hc
  obtain ⟨b, -, hc⟩ := hc
  exact encodeByte_query b c hc

theorem encodePair_query {name value : Json} {s : String} (h : encodePair name value = .ok s) :
    ∀ c ∈ s.toList, isQueryChar c = true := by
  unfold encodePair at h
  split at h
  · cases h
  split at h
  · cases h
  obtain rfl := Except.ok.inj h
  intro c hc
  simp only [String.toList_append, List.mem_append] at hc
  rcases hc with (hc | hc) | hc
  · exact encodeText_query _ c hc
  · rw [show "=".toList = ['='] from rfl, List.mem_singleton] at hc
    subst hc
    decide
  · exact encodeText_query _ c hc

theorem joinPairs_query {ps : List (Json × Json)} {s : String} (h : joinPairs ps = .ok s) :
    ∀ c ∈ s.toList, isQueryChar c = true := by
  simp only [joinPairs, bind, Except.bind] at h
  split at h
  · cases h
  rename_i parts hparts
  obtain rfl := Except.ok.inj h
  intro c hc
  rcases mem_intercalate hc with hc | ⟨p, hp, hc⟩
  · rw [show "&".toList = ['&'] from rfl, List.mem_singleton] at hc
    subst hc
    decide
  · obtain ⟨⟨n, v⟩, -, hpair⟩ := mem_of_mapM_ok hparts hp
    exact encodePair_query hpair c hc

theorem encodeJson_query {v : Json} {s : String} (h : encodeJson v = .ok s) :
    ∀ c ∈ s.toList, isQueryChar c = true := by
  unfold encodeJson at h
  split at h
  · obtain rfl := Except.ok.inj h
    simp
  · exact joinPairs_query h
  · obtain rfl := Except.ok.inj h
    simp
  · cases h
  · cases h

end Form

namespace Check

/-- A form that encodes is written in query octets. -/
theorem FormSource.encode_query {src : FormSource} {s : String} (h : src.encode = .ok s) :
    ∀ b ∈ Utf8.encode s, PathAndQuery.isQueryByte b = true := by
  apply Utf8.encode_of_asciiWith
  cases src with
  | value v =>
    cases hv : Form.encodeJson v with
    | error e => simp [FormSource.encode, hv] at h
    | ok t =>
      simp only [FormSource.encode, hv, mapError_ok, Except.ok.injEq] at h
      subst h
      exact Form.encodeJson_query hv
  | pairs ps =>
    cases hv : Form.encodePairs ps with
    | error e => simp [FormSource.encode, hv] at h
    | ok t =>
      simp only [FormSource.encode, hv, mapError_ok, Except.ok.injEq] at h
      subst h
      exact Form.joinPairs_query hv

end Check

namespace Base64

theorem symbol_value (n : Nat) : Utf8.asciiWith isValueByte (symbol n) = true := by
  by_cases h : n < 64
  · have key : ∀ m < 64, Utf8.asciiWith isValueByte (symbol m) = true := by decide
    exact key n h
  · -- every value past the alphabet is written as its last symbol
    have hs : symbol n = '/' := by
      simp only [symbol]
      rw [if_neg (by omega), if_neg (by omega), if_neg (by omega), if_neg (by omega)]
    rw [hs]
    decide

/-- Base64 writes visible ASCII only. -/
theorem encodeChars_value (bs : Bytes) :
    ∀ c ∈ encodeChars bs, Utf8.asciiWith isValueByte c = true := by
  have hpad : Utf8.asciiWith isValueByte '=' = true := by decide
  induction bs using encodeChars.induct with
  | case1 => simp [encodeChars]
  | case2 a => simp [encodeChars, symbol_value, hpad]
  | case3 a b => simp [encodeChars, symbol_value, hpad]
  | case4 a b c rest ih => simpa [encodeChars, symbol_value] using ih

end Base64
end HttpCheck
