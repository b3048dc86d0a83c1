import HttpCheck.Text.Utf8
/-!
# Strict decoding inverts encoding

Decoding reads back exactly the text that was encoded, and it reads nothing else:
`decode? bs = some s ↔ bs = encode s`. The argument goes one character at a time. The
octets of a character's encoding form one unit whose lead octet lies in the range for
its length (`afterLead_one` to `afterLead_four`); conversely every unit the decoder
accepts is the encoding of the character it reads.

Encodings also synchronise: a lead octet is never a continuation octet, so the octets of one
text occur in those of another exactly where its characters occur (`encode_infix_encode_iff`).
-/
namespace HttpCheck.Utf8

/-! ### Encoding, one character at a time -/

theorem toList_loop (bs : ByteArray) (i : Nat) (r : List UInt8) :
    ByteArray.toList.loop bs i r = r.reverse ++ bs.data.toList.drop i := by
  fun_induction ByteArray.toList.loop bs i r with
  | case1 i r h ih =>
    -- the byte read at `i` is the head of what remains from `i` on
    have hi : i < bs.data.toList.length := by simpa using h
    rw [ih, List.reverse_cons, List.append_assoc, List.drop_eq_getElem_cons hi]
    simp [ByteArray.get!, h]
  | case2 i r h =>
    have hi : bs.data.toList.length ≤ i := by simpa using h
    simp [List.drop_eq_nil_of_le hi]

theorem encode_eq_flatMap (s : String) :
    encode s = s.toList.flatMap String.utf8EncodeChar := by
  simp only [encode, ByteArray.toList, toList_loop, List.reverse_nil, List.nil_append,
    List.drop_zero, String.toUTF8_eq_toByteArray, ← String.utf8Encode_toList, List.utf8Encode,
    List.toList_data_toByteArray]

@[simp] theorem encode_append (s t : String) : encode (s ++ t) = encode s ++ encode t := by
  simp [encode_eq_flatMap]

@[simp] theorem encode_empty : encode "" = [] := by
  rw [encode_eq_flatMap]
  rfl

theorem toNat_ofNat_of_valid {n : Nat} (h : n.isValidChar) : (Char.ofNat n).toNat = n := by
  rw [Char.ofNat, dif_pos h]
  rfl

theorem toNat_valid (c : Char) : c.toNat < 0xD800 ∨ 0xDFFF < c.toNat ∧ c.toNat < 0x110000 :=
  c.valid

/-! ### Units by the range of their lead octet -/

@[simp] theorem units_cons (b0 : UInt8) (rest : Bytes) :
    units (b0 :: rest) = (afterLead b0 rest).1 :: units (afterLead b0 rest).2 := by
  rw [units]

theorem isCont_iff (b : UInt8) : isCont b = true ↔ 0x80 ≤ b.toNat ∧ b.toNat < 0xC0 := by
  have hb := b.toNat_lt
  have key : ∀ n < 256, (n &&& 0xC0 = 0x80 ↔ 0x80 ≤ n ∧ n < 0xC0) := by decide +kernel
  simp only [isCont, beq_iff_eq, ← UInt8.toNat_inj, UInt8.toNat_and]
  exact key _ hb

/-- Joining a value shifted by six with one that fits below the shift is addition. -/
theorem shiftLeft_six_or_eq_add {b : Nat} (a : Nat) (hb : b < 64) :
    a <<< 6 ||| b = a * 64 + b := by
  have hb' : b < Nat.pow 2 6 := hb
  rw [← Nat.shiftLeft_add_eq_or_of_lt hb', Nat.shiftLeft_eq]

/-- Two values shifted six apart are or-ed as the lower shift of their base-64 join. -/
theorem shiftLeft_or_shiftLeft_eq {b : Nat} (a k : Nat) (hb : b < 64) :
    a <<< (k + 6) ||| b <<< k = (a * 64 + b) <<< k := by
  rw [Nat.add_comm k 6, Nat.shiftLeft_add, ← Nat.shiftLeft_or_distrib,
    shiftLeft_six_or_eq_add a hb]

theorem char2_eq (b0 b1 : UInt8) :
    char2 b0 b1 = Char.ofNat (b0.toNat % 32 * 64 + b1.toNat % 64) := by
  have h0 : b0.toNat &&& 0x1F = b0.toNat % 32 := Nat.and_two_pow_sub_one_eq_mod _ 5
  have h1 : b1.toNat &&& 0x3F = b1.toNat % 64 := Nat.and_two_pow_sub_one_eq_mod _ 6
  rw [char2, h0, h1, shiftLeft_six_or_eq_add _ (Nat.mod_lt _ (by decide))]

theorem char3_eq (b0 b1 b2 : UInt8) :
    char3 b0 b1 b2 =
      Char.ofNat (b0.toNat % 16 * 4096 + b1.toNat % 64 * 64 + b2.toNat % 64) := by
  have h0 : b0.toNat &&& 0x0F = b0.toNat % 16 := Nat.and_two_pow_sub_one_eq_mod _ 4
  have h1 : b1.toNat &&& 0x3F = b1.toNat % 64 := Nat.and_two_pow_sub_one_eq_mod _ 6
  have h2 : b2.toNat &&& 0x3F = b2.toNat % 64 := Nat.and_two_pow_sub_one_eq_mod _ 6
  rw [char3, h0, h1, h2, shiftLeft_or_shiftLeft_eq _ 6 (Nat.mod_lt _ (by decide)),
    shiftLeft_six_or_eq_add _ (Nat.mod_lt _ (by decide))]
  congr 1
  omega

theorem char4_eq (b0 b1 b2 b3 : UInt8) :
    char4 b0 b1 b2 b3 =
      Char.ofNat (b0.toNat % 8 * 262144 + b1.toNat % 64 * 4096 + b2.toNat % 64 * 64 +
        b3.toNat % 64) := by
  have h0 : b0.toNat &&& 0x07 = b0.toNat % 8 := Nat.and_two_pow_sub_one_eq_mod _ 3
  have h1 : b1.toNat &&& 0x3F = b1.toNat % 64 := Nat.and_two_pow_sub_one_eq_mod _ 6
  have h2 : b2.toNat &&& 0x3F = b2.toNat % 64 := Nat.and_two_pow_sub_one_eq_mod _ 6
  have h3 : b3.toNat &&& 0x3F = b3.toNat % 64 := Nat.and_two_pow_sub_one_eq_mod _ 6
  -- the fields are joined from the top, six bits at a time
  rw [char4, h0, h1, h2, h3, shiftLeft_or_shiftLeft_eq _ 12 (Nat.mod_lt _ (by decide)),
    shiftLeft_or_shiftLeft_eq _ 6 (Nat.mod_lt _ (by decide)),
    shiftLeft_six_or_eq_add _ (Nat.mod_lt _ (by decide))]
  congr 1
  omega

theorem secondOfThree_iff (lead b : UInt8) :
    secondOfThree lead b = true ↔
      (lead.toNat = 0xE0 → 0xA0 ≤ b.toNat) ∧ (lead.toNat = 0xED → b.toNat ≤ 0x9F) ∧
        0x80 ≤ b.toNat ∧ b.toNat < 0xC0 := by
  unfold secondOfThree
  by_cases h1 : lead = 0xE0
  · subst h1; simp [UInt8.le_iff_toNat_le]; omega
  by_cases h2 : lead = 0xED
  · subst h2; simp [UInt8.le_iff_toNat_le]; omega
  have h1' : lead.toNat ≠ 0xE0 := fun h => h1 (UInt8.toNat_inj.1 h)
  have h2' : lead.toNat ≠ 0xED := fun h => h2 (UInt8.toNat_inj.1 h)
  simp [h1, h2, h1', h2', isCont_iff]

theorem secondOfFour_iff (lead b : UInt8) :
    secondOfFour lead b = true ↔
      (lead.toNat = 0xF0 → 0x90 ≤ b.toNat) ∧ (lead.toNat = 0xF4 → b.toNat ≤ 0x8F) ∧
        0x80 ≤ b.toNat ∧ b.toNat < 0xC0 := by
  unfold secondOfFour
  by_cases h1 : lead = 0xF0
  · subst h1; simp [UInt8.le_iff_toNat_le]; omega
  by_cases h2 : lead = 0xF4
  · subst h2; simp [UInt8.le_iff_toNat_le]; omega
  have h1' : lead.toNat ≠ 0xF0 := fun h => h1 (UInt8.toNat_inj.1 h)
  have h2' : lead.toNat ≠ 0xF4 := fun h => h2 (UInt8.toNat_inj.1 h)
  simp [h1, h2, h1', h2', isCont_iff]

theorem afterLead_one {b0 : UInt8} (rest : Bytes) (h : b0.toNat < 0x80) :
    afterLead b0 rest = (some (Char.ofNat b0.toNat), rest) := by
  simp [afterLead, UInt8.lt_iff_toNat_lt, h]

theorem afterLead_two {b0 b1 : UInt8} (rest : Bytes) (h0 : 0xC2 ≤ b0.toNat ∧ b0.toNat < 0xE0)
    (h1 : isCont b1 = true) : afterLead b0 (b1 :: rest) = (some (char2 b0 b1), rest) := by
  have n1 : ¬ b0 < 0x80 := by simp [UInt8.lt_iff_toNat_lt]; omega
  have n2 : ¬ b0 < 0xC2 := by simp [UInt8.lt_iff_toNat_lt]; omega
  have p3 : b0 < 0xE0 := by simp [UInt8.lt_iff_toNat_lt]; omega
  simp [afterLead, n1, n2, p3, h1]

theorem afterLead_three {b0 b1 b2 : UInt8} (rest : Bytes)
    (h0 : 0xE0 ≤ b0.toNat ∧ b0.toNat < 0xF0) (h1 : secondOfThree b0 b1 = true)
    (h2 : isCont b2 = true) :
    afterLead b0 (b1 :: b2 :: rest) = (some (char3 b0 b1 b2), rest) := by
  have n1 : ¬ b0 < 0x80 := by simp [UInt8.lt_iff_toNat_lt]; omega
  have n2 : ¬ b0 < 0xC2 := by simp [UInt8.lt_iff_toNat_lt]; omega
  have n3 : ¬ b0 < 0xE0 := by simp [UInt8.lt_iff_toNat_lt]; omega
  have p4 : b0 < 0xF0 := by simp [UInt8.lt_iff_toNat_lt]; omega
  simp [afterLead, n1, n2, n3, p4, h1, h2]

theorem afterLead_four {b0 b1 b2 b3 : UInt8} (rest : Bytes)
    (h0 : 0xF0 ≤ b0.toNat ∧ b0.toNat < 0xF5) (h1 : secondOfFour b0 b1 = true)
    (h2 : isCont b2 = true) (h3 : isCont b3 = true) :
    afterLead b0 (b1 :: b2 :: b3 :: rest) = (some (char4 b0 b1 b2 b3), rest) := by
  have n1 : ¬ b0 < 0x80 := by simp [UInt8.lt_iff_toNat_lt]; omega
  have n2 : ¬ b0 < 0xC2 := by simp [UInt8.lt_iff_toNat_lt]; omega
  have n3 : ¬ b0 < 0xE0 := by simp [UInt8.lt_iff_toNat_lt]; omega
  have n4 : ¬ b0 < 0xF0 := by simp [UInt8.lt_iff_toNat_lt]; omega
  have p5 : b0 < 0xF5 := by simp [UInt8.lt_iff_toNat_lt]; omega
  simp [afterLead, n1, n2, n3, n4, p5, h1, h2, h3]

/-! ### The encoding of a character by its range -/

theorem encodeChar_one {n : Nat} (h : n < 0x80) :
    String.utf8EncodeChar (Char.ofNat n) = [UInt8.ofNat n] := by
  have hn : (Char.ofNat n).val.toNat = n := toNat_ofNat_of_valid (by simp [Nat.isValidChar]; omega)
  simp [String.utf8EncodeChar, hn, show n ≤ 0x7F by omega]

theorem encodeChar_two {n : Nat} (h : 0x80 ≤ n ∧ n < 0x800) :
    String.utf8EncodeChar (Char.ofNat n) =
      [UInt8.ofNat (n / 64 % 32 + 0xC0), UInt8.ofNat (n % 64 + 0x80)] := by
  have hn : (Char.ofNat n).val.toNat = n := toNat_ofNat_of_valid (by simp [Nat.isValidChar]; omega)
  simp [String.utf8EncodeChar, hn, show ¬ n ≤ 0x7F by omega, show n ≤ 0x7FF by omega]

theorem encodeChar_three {n : Nat} (h : 0x800 ≤ n ∧ n < 0x10000)
    (hs : n < 0xD800 ∨ 0xDFFF < n) :
    String.utf8EncodeChar (Char.ofNat n) =
      [UInt8.ofNat (n / 4096 % 16 + 0xE0), UInt8.ofNat (n / 64 % 64 + 0x80),
        UInt8.ofNat (n % 64 + 0x80)] := by
  have hn : (Char.ofNat n).val.toNat = n := toNat_ofNat_of_valid (by simp [Nat.isValidChar]; omega)
  simp [String.utf8EncodeChar, hn, show ¬ n ≤ 0x7F by omega, show ¬ n ≤ 0x7FF by omega,
    show n ≤ 0xFFFF by omega]

theorem encodeChar_four {n : Nat} (h : 0x10000 ≤ n ∧ n < 0x110000) :
    String.utf8EncodeChar (Char.ofNat n) =
      [UInt8.ofNat (n / 262144 % 8 + 0xF0), UInt8.ofNat (n / 4096 % 64 + 0x80),
        UInt8.ofNat (n / 64 % 64 + 0x80), UInt8.ofNat (n % 64 + 0x80)] := by
  have hn : (Char.ofNat n).val.toNat = n := toNat_ofNat_of_valid (by simp [Nat.isValidChar]; omega)
  simp [String.utf8EncodeChar, hn, show ¬ n ≤ 0x7F by omega, show ¬ n ≤ 0x7FF by omega,
    show ¬ n ≤ 0xFFFF by omega]

/-! ### Decoding an encoding -/

/-- The low bits of an octet made of a prefix above them. -/
theorem prefix_bits (m k c : Nat) (hk : 0 < k) (hc : c % k = 0) (hkc : k + c ≤ 256) :
    (m % k + c) % 256 % k = m % k := by
  have hlt : m % k + c < 256 := by
    have := Nat.mod_lt m hk
    omega
  rw [Nat.mod_eq_of_lt hlt, Nat.add_mod, hc, Nat.add_zero, Nat.mod_mod, Nat.mod_mod]

/-- The encoding of a character is one unit, and that unit reads back as the
character. -/
theorem units_encodeChar (c : Char) (rest : Bytes) :
    units (String.utf8EncodeChar c ++ rest) = some c :: units rest := by
  obtain ⟨n, hn, rfl⟩ : ∃ n, (n < 0xD800 ∨ 0xDFFF < n ∧ n < 0x110000) ∧ c = Char.ofNat n :=
    ⟨c.toNat, toNat_valid c, (Char.ofNat_toNat c).symm⟩
  -- the range of the code point fixes the length of its encoding
  rcases Nat.lt_or_ge n 0x80 with h1 | h1
  · rw [encodeChar_one h1, List.singleton_append, units_cons,
      afterLead_one rest (by simp only [UInt8.toNat_ofNat', Nat.reducePow]; omega)]
    simp [Nat.mod_eq_of_lt (show n < 256 by omega)]
  rcases Nat.lt_or_ge n 0x800 with h2 | h2
  · rw [encodeChar_two ⟨h1, h2⟩, List.cons_append, List.cons_append, List.nil_append,
      units_cons, afterLead_two rest (by simp only [UInt8.toNat_ofNat', Nat.reducePow]; omega)
        (by rw [isCont_iff]; simp only [UInt8.toNat_ofNat', Nat.reducePow]; omega), char2_eq]
    simp only [UInt8.toNat_ofNat', Nat.reducePow, List.cons.injEq, Option.some.injEq, and_true,
      prefix_bits _ 32 192 (by decide) (by decide) (by decide),
      prefix_bits _ 64 128 (by decide) (by decide) (by decide)]
    congr 1
    omega
  rcases Nat.lt_or_ge n 0x10000 with h3 | h3
  · rw [encodeChar_three ⟨h2, h3⟩ (by omega), List.cons_append, List.cons_append,
      List.cons_append, List.nil_append, units_cons,
      afterLead_three rest (by simp only [UInt8.toNat_ofNat', Nat.reducePow]; omega)
        (by rw [secondOfThree_iff]; simp only [UInt8.toNat_ofNat', Nat.reducePow]; omega)
        (by rw [isCont_iff]; simp only [UInt8.toNat_ofNat', Nat.reducePow]; omega), char3_eq]
    simp only [UInt8.toNat_ofNat', Nat.reducePow, List.cons.injEq, Option.some.injEq, and_true,
      prefix_bits _ 16 224 (by decide) (by decide) (by decide),
      prefix_bits _ 64 128 (by decide) (by decide) (by decide)]
    congr 1
    omega
  · rw [encodeChar_four ⟨h3, by omega⟩, List.cons_append, List.cons_append, List.cons_append,
      List.cons_append, List.nil_append, units_cons,
      afterLead_four rest (by simp only [UInt8.toNat_ofNat', Nat.reducePow]; omega)
        (by rw [secondOfFour_iff]; simp only [UInt8.toNat_ofNat', Nat.reducePow]; omega)
        (by rw [isCont_iff]; simp only [UInt8.toNat_ofNat', Nat.reducePow]; omega)
        (by rw [isCont_iff]; simp only [UInt8.toNat_ofNat', Nat.reducePow]; omega), char4_eq]
    simp only [UInt8.toNat_ofNat', Nat.reducePow, List.cons.injEq, Option.some.injEq, and_true,
      prefix_bits _ 8 240 (by decide) (by decide) (by decide),
      prefix_bits _ 64 128 (by decide) (by decide) (by decide)]
    congr 1
    omega

theorem units_encode (s : String) : units (encode s) = s.toList.map some := by
  rw [encode_eq_flatMap]
  induction s.toList with
  | nil => simp [units]
  | cons c cs ih => rw [List.flatMap_cons, units_encodeChar, ih, List.map_cons]

/-- Decoding an encoding gives the text back. -/
@[simp] theorem decode?_encode (s : String) : decode? (encode s) = some s := by
  have hsome : ∀ l : List Char, l.mapM some = some l := by
    intro l
    induction l with
    | nil => rfl
    | cons c cs ih => simp [List.mapM_cons, ih]
  simp [decode?, units_encode, List.mapM_map, hsome]

/-! ### Only encodings decode -/

theorem ofNat_eq_of_toNat {x : Nat} {b : UInt8} (h : x % 256 = b.toNat) : UInt8.ofNat x = b := by
  rw [← UInt8.toNat_inj, UInt8.toNat_ofNat']
  exact h

/-- What the decoder reads as a character: an ASCII octet, or a lead octet in the range
for its length followed by the continuation octets that range admits. -/
theorem afterLead_eq_some {b0 : UInt8} {rest rest' : Bytes} {c : Char}
    (h : afterLead b0 rest = (some c, rest')) :
    (b0.toNat < 0x80 ∧ c = Char.ofNat b0.toNat ∧ rest' = rest) ∨
    (∃ b1, (0xC2 ≤ b0.toNat ∧ b0.toNat < 0xE0) ∧ isCont b1 = true ∧
      c = char2 b0 b1 ∧ rest = b1 :: rest') ∨
    (∃ b1 b2, (0xE0 ≤ b0.toNat ∧ b0.toNat < 0xF0) ∧ secondOfThree b0 b1 = true ∧
      isCont b2 = true ∧ c = char3 b0 b1 b2 ∧ rest = b1 :: b2 :: rest') ∨
    (∃ b1 b2 b3, (0xF0 ≤ b0.toNat ∧ b0.toNat < 0xF5) ∧ secondOfFour b0 b1 = true ∧
      isCont b2 = true ∧ isCont b3 = true ∧ c = char4 b0 b1 b2 b3 ∧
      rest = b1 :: b2 :: b3 :: rest') := by
  unfold afterLead at h
  -- the lead octet's range, tested in order, fixes the length of the unit
  by_cases p1 : b0 < 0x80
  · rw [if_pos p1, Prod.mk.injEq, Option.some.injEq] at h
    exact .inl ⟨UInt8.lt_iff_toNat_lt.1 p1, h.1.symm, h.2.symm⟩
  rw [if_neg p1] at h
  by_cases p2 : b0 < 0xC2
  · rw [if_pos p2] at h
    simp at h
  rw [if_neg p2] at h
  have n2 : 0xC2 ≤ b0.toNat := by simpa [UInt8.lt_iff_toNat_lt] using p2
  by_cases p3 : b0 < 0xE0
  · rw [if_pos p3] at h
    have h3 : b0.toNat < 0xE0 := UInt8.lt_iff_toNat_lt.1 p3
    rcases rest with _ | ⟨b1, rest1⟩
    · simp at h
    · cases hb1 : isCont b1 <;> simp only [hb1, Bool.false_eq_true, if_false, if_true,
        Prod.mk.injEq, reduceCtorEq, false_and, Option.some.injEq] at h
      exact .inr (.inl ⟨b1, ⟨n2, h3⟩, hb1, h.1.symm, by rw [h.2]⟩)
  rw [if_neg p3] at h
  have n3 : 0xE0 ≤ b0.toNat := by simpa [UInt8.lt_iff_toNat_lt] using p3
  by_cases p4 : b0 < 0xF0
  · rw [if_pos p4] at h
    have h4 : b0.toNat < 0xF0 := UInt8.lt_iff_toNat_lt.1 p4
    rcases rest with _ | ⟨b1, _ | ⟨b2, rest2⟩⟩
    · simp at h
    · cases hb1 : secondOfThree b0 b1 <;> simp [hb1] at h
    · cases hb1 : secondOfThree b0 b1 <;> cases hb2 : isCont b2 <;>
        simp only [hb1, hb2, Bool.false_eq_true, if_false, if_true,
          Prod.mk.injEq, reduceCtorEq, false_and, Option.some.injEq] at h
      exact .inr (.inr (.inl ⟨b1, b2, ⟨n3, h4⟩, hb1, hb2, h.1.symm, by rw [h.2]⟩))
  rw [if_neg p4] at h
  have n4 : 0xF0 ≤ b0.toNat := by simpa [UInt8.lt_iff_toNat_lt] using p4
  by_cases p5 : b0 < 0xF5
  · rw [if_pos p5] at h
    have h5 : b0.toNat < 0xF5 := UInt8.lt_iff_toNat_lt.1 p5
    rcases rest with _ | ⟨b1, _ | ⟨b2, _ | ⟨b3, rest3⟩⟩⟩
    · simp at h
    · cases hb1 : secondOfFour b0 b1 <;> simp [hb1] at h
    · cases hb1 : secondOfFour b0 b1 <;> cases hb2 : isCont b2 <;> simp [hb1, hb2] at h
    · cases hb1 : secondOfFour b0 b1 <;> cases hb2 : isCont b2 <;> cases hb3 : isCont b3 <;>
        simp only [hb1, hb2, hb3, Bool.false_eq_true, if_false, if_true,
          Prod.mk.injEq, reduceCtorEq, false_and, Option.some.injEq] at h
      exact .inr (.inr (.inr ⟨b1, b2, b3, ⟨n4, h5⟩, hb1, hb2, hb3, h.1.symm, by rw [h.2]⟩))
  rw [if_neg p5] at h
  simp at h

/-- A unit the decoder reads as a character is that character's encoding. -/
theorem encodeChar_of_afterLead {b0 : UInt8} {rest rest' : Bytes} {c : Char}
    (h : afterLead b0 rest = (some c, rest')) :
    b0 :: rest = String.utf8EncodeChar c ++ rest' := by
  have hb0 := b0.toNat_lt
  rcases afterLead_eq_some h with ⟨hlt, rfl, rfl⟩ | ⟨b1, hr, hb1, rfl, rfl⟩ |
      ⟨b1, b2, hr, hb1, hb2, rfl, rfl⟩ | ⟨b1, b2, b3, hr, hb1, hb2, hb3, rfl, rfl⟩
  · rw [encodeChar_one hlt, UInt8.ofNat_toNat]
    rfl
  · rw [isCont_iff] at hb1
    rw [char2_eq, encodeChar_two (by omega)]
    simp only [List.cons_append, List.nil_append, List.cons.injEq, and_true]
    exact ⟨(ofNat_eq_of_toNat (by omega)).symm, (ofNat_eq_of_toNat (by omega)).symm⟩
  · rw [secondOfThree_iff] at hb1
    rw [isCont_iff] at hb2
    rw [char3_eq, encodeChar_three (by omega) (by omega)]
    simp only [List.cons_append, List.nil_append, List.cons.injEq, and_true]
    exact ⟨(ofNat_eq_of_toNat (by omega)).symm, (ofNat_eq_of_toNat (by omega)).symm,
      (ofNat_eq_of_toNat (by omega)).symm⟩
  · rw [secondOfFour_iff] at hb1
    rw [isCont_iff] at hb2 hb3
    rw [char4_eq, encodeChar_four (by omega)]
    simp only [List.cons_append, List.nil_append, List.cons.injEq, and_true]
    exact ⟨(ofNat_eq_of_toNat (by omega)).symm, (ofNat_eq_of_toNat (by omega)).symm,
      (ofNat_eq_of_toNat (by omega)).symm, (ofNat_eq_of_toNat (by omega)).symm⟩

theorem eq_flatMap_of_units {bs : Bytes} {cs : List Char} (h : (units bs).mapM id = some cs) :
    bs = cs.flatMap String.utf8EncodeChar := by
  fun_induction units bs generalizing cs with
  | case1 =>
    simp only [List.mapM_nil, Option.pure_def, Option.some.injEq] at h
    simp [← h]
  | case2 b0 rest ih =>
    simp only [List.mapM_cons, id, Option.bind_eq_bind, Option.bind_eq_some_iff,
      Option.pure_def, Option.some.injEq] at h
    obtain ⟨c, hc, cs', hrest, rfl⟩ := h
    have hlead : afterLead b0 rest = (some c, (afterLead b0 rest).2) := by
      rw [← hc]
    rw [encodeChar_of_afterLead hlead, ih hrest, List.flatMap_cons]

/-- Strict decoding accepts exactly the encodings of texts, and reads each back. -/
theorem decode?_eq_some_iff {bs : Bytes} {s : String} : decode? bs = some s ↔ bs = encode s := by
  constructor
  · intro h
    simp only [decode?, Option.map_eq_some_iff] at h
    obtain ⟨cs, hcs, rfl⟩ := h
    rw [eq_flatMap_of_units hcs, encode_eq_flatMap, String.toList_ofList]
  · rintro rfl
    exact decode?_encode s

/-- A text whose encoding starts with an ASCII octet starts with that character. -/
theorem eq_append_of_encode_eq_cons {s : String} {b : UInt8} {rest : Bytes}
    (hb : b.toNat < 0x80) (h : encode s = b :: rest) :
    ∃ r, s = String.singleton (Char.ofNat b.toNat) ++ r := by
  rw [encode_eq_flatMap] at h
  cases hs : s.toList with
  | nil => simp [hs] at h
  | cons c cs =>
    rw [hs, List.flatMap_cons] at h
    -- a character of two octets or more starts with an octet from `0xC0` on
    obtain ⟨n, hn, rfl⟩ : ∃ n, (n < 0xD800 ∨ 0xDFFF < n ∧ n < 0x110000) ∧ c = Char.ofNat n :=
      ⟨c.toNat, toNat_valid c, (Char.ofNat_toNat c).symm⟩
    have hc : n = b.toNat := by
      rcases Nat.lt_or_ge n 0x80 with h1 | h1
      · rw [encodeChar_one h1] at h
        simp only [List.singleton_append, List.cons.injEq] at h
        rw [← h.1, UInt8.toNat_ofNat']
        omega
      rcases Nat.lt_or_ge n 0x800 with h2 | h2
      · rw [encodeChar_two ⟨h1, h2⟩] at h
        simp only [List.cons_append, List.cons.injEq] at h
        rw [← h.1, UInt8.toNat_ofNat'] at hb
        omega
      rcases Nat.lt_or_ge n 0x10000 with h3 | h3
      · rw [encodeChar_three ⟨h2, h3⟩ (by omega)] at h
        simp only [List.cons_append, List.cons.injEq] at h
        rw [← h.1, UInt8.toNat_ofNat'] at hb
        omega
      · rw [encodeChar_four ⟨h3, by omega⟩] at h
        simp only [List.cons_append, List.cons.injEq] at h
        rw [← h.1, UInt8.toNat_ofNat'] at hb
        omega
    refine ⟨String.ofList cs, ?_⟩
    rw [← String.toList_inj, String.toList_append, hs, String.toList_ofList, hc]
    simp

/-! ### Occurrences of one encoding in another -/

/-- A character's encoding is a lead octet, which is no continuation octet, followed by
continuation octets only. -/
theorem encodeChar_lead (c : Char) :
    ∃ b rest, String.utf8EncodeChar c = b :: rest ∧ isCont b = false ∧
      ∀ x ∈ rest, isCont x = true := by
  obtain ⟨n, hn, rfl⟩ : ∃ n, (n < 0xD800 ∨ 0xDFFF < n ∧ n < 0x110000) ∧ c = Char.ofNat n :=
    ⟨c.toNat, toNat_valid c, (Char.ofNat_toNat c).symm⟩
  -- the octets after the lead carry six bits each under the prefix `10`
  have hcont : ∀ m, isCont (UInt8.ofNat (m % 64 + 0x80)) = true := by
    intro m
    rw [isCont_iff, UInt8.toNat_ofNat']
    omega
  have hlead : ∀ m, 0xC0 ≤ m % 256 → isCont (UInt8.ofNat m) = false := by
    intro m hm
    rw [Bool.eq_false_iff, ne_eq, isCont_iff, UInt8.toNat_ofNat']
    omega
  rcases Nat.lt_or_ge n 0x80 with h1 | h1
  · refine ⟨_, [], encodeChar_one h1, ?_, by simp⟩
    rw [Bool.eq_false_iff, ne_eq, isCont_iff, UInt8.toNat_ofNat']
    omega
  rcases Nat.lt_or_ge n 0x800 with h2 | h2
  · exact ⟨_, _, encodeChar_two ⟨h1, h2⟩, hlead _ (by omega),
      by simp only [List.forall_mem_cons, hcont, List.not_mem_nil, false_imp_iff, imp_true_iff, and_self]⟩
  rcases Nat.lt_or_ge n 0x10000 with h3 | h3
  · exact ⟨_, _, encodeChar_three ⟨h2, h3⟩ (by omega), hlead _ (by omega),
      by simp only [List.forall_mem_cons, hcont, List.not_mem_nil, false_imp_iff, imp_true_iff, and_self]⟩
  · exact ⟨_, _, encodeChar_four ⟨h3, by omega⟩, hlead _ (by omega),
      by simp only [List.forall_mem_cons, hcont, List.not_mem_nil, false_imp_iff, imp_true_iff, and_self]⟩

/-- An octet that is no continuation octet starts a character: where it stands in an
encoding, the octets before it encode the characters before it. -/
theorem flatMap_encodeChar_eq_append {cs : List Char} {pre rest : Bytes} {b : UInt8}
    (h : cs.flatMap String.utf8EncodeChar = pre ++ b :: rest) (hb : isCont b = false) :
    ∃ k, pre = (cs.take k).flatMap String.utf8EncodeChar ∧
      b :: rest = (cs.drop k).flatMap String.utf8EncodeChar := by
  induction cs generalizing pre with
  | nil => simp at h
  | cons c cs ih =>
    rw [List.flatMap_cons] at h
    rcases List.append_eq_append_iff.1 h with ⟨a, rfl, ha⟩ | ⟨c', hc, hrest⟩
    · -- the character `c` lies wholly before `b`
      obtain ⟨k, rfl, hk⟩ := ih ha
      exact ⟨k + 1, by simp, by simpa using hk⟩
    · -- `b` falls inside the encoding of `c`, at its start or past its end
      obtain ⟨lead, conts, henc, -, hconts⟩ := encodeChar_lead c
      cases pre with
      | nil => exact ⟨0, by simp, by simpa using h.symm⟩
      | cons p pre' =>
        cases c' with
        | nil => exact ⟨1, by simpa using hc.symm, by simpa using hrest⟩
        | cons d c'' =>
          rw [henc, List.cons_append, List.cons.injEq] at hc
          have hd : d ∈ conts := by simp [hc.2]
          rw [List.cons_append, List.cons.injEq] at hrest
          rw [hrest.1, hconts d hd] at hb
          cases hb

/-- Encodings are prefix-free: characters whose encoding starts another encoding are its
first characters. -/
theorem prefix_of_flatMap_encodeChar_append {ds cs : List Char} {rest : Bytes}
    (h : ds.flatMap String.utf8EncodeChar ++ rest = cs.flatMap String.utf8EncodeChar) :
    ds <+: cs := by
  induction ds generalizing cs with
  | nil => exact List.nil_prefix
  | cons d ds ih =>
    cases cs with
    | nil =>
      obtain ⟨lead, conts, henc, -, -⟩ := encodeChar_lead d
      simp [henc] at h
    | cons c cs =>
      rw [List.flatMap_cons, List.flatMap_cons, List.append_assoc] at h
      -- reading both sides decides the first character
      have hdc : d = c := by
        have hunits := congrArg units h
        rw [units_encodeChar, units_encodeChar, List.cons.injEq] at hunits
        exact Option.some.inj hunits.1
      subst hdc
      exact (List.prefix_cons_inj d).2 (ih (List.append_cancel_left h))

/-- The octets of a text occur in those of another exactly when its characters occur among
the other's: an occurrence of octets neither starts nor ends inside a character. -/
theorem encode_infix_encode_iff {t s : String} :
    encode t <:+: encode s ↔ t.toList <:+: s.toList := by
  rw [encode_eq_flatMap, encode_eq_flatMap]
  constructor
  · rintro ⟨pre, post, h⟩
    cases ht : t.toList with
    | nil => exact List.nil_infix
    | cons d ds =>
      obtain ⟨lead, conts, henc, hlead, -⟩ := encodeChar_lead d
      rw [ht, List.flatMap_cons, henc] at h
      -- the match starts at the lead octet of `d`, hence between two characters of `s`
      have hsplit : s.toList.flatMap String.utf8EncodeChar =
          pre ++ lead :: (conts ++ ds.flatMap String.utf8EncodeChar ++ post) := by
        rw [← h]
        simp
      obtain ⟨k, -, hk⟩ := flatMap_encodeChar_eq_append hsplit hlead
      have hstart : (d :: ds).flatMap String.utf8EncodeChar ++ post =
          (s.toList.drop k).flatMap String.utf8EncodeChar := by
        rw [List.flatMap_cons, henc, ← hk]
        simp
      exact (prefix_of_flatMap_encodeChar_append hstart).isInfix.trans
        (List.drop_suffix k s.toList).isInfix
  · rintro ⟨pre, post, h⟩
    refine ⟨pre.flatMap String.utf8EncodeChar, post.flatMap String.utf8EncodeChar, ?_⟩
    rw [← h]
    simp

end HttpCheck.Utf8
