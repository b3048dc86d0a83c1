import HttpCheck.Proofs.JsonChecks
/-!
# Status checks

What a status expectation admits, as a proposition (`Admits`): exactly its code; every code
of its range, both ends included, and none when the low end is above the high end; every
code of its list, none for the empty list, with order and repetition of no account. An
expectation is written `c`, `in lo-hi` or `in [c1, c2, ...]`, each code in decimal.

Main statement: `status_in` passes exactly when its expectation admits the status, and
otherwise fails with the expectation's text and the status. The assertions that name one
code pass on the same responses, and so do those that name any success.
-/
namespace HttpCheck

open HttpCheck.Http

/-! ### Decimal text -/

theorem ofNat_zero_add_eq_digitChar {d : Nat} (h : d < 10) :
    Char.ofNat ('0'.toNat + d) = Nat.digitChar d := by
  revert d
  decide

theorem map_digitList (n : Nat) :
    (Decimal.digitList n).map (fun d => Char.ofNat ('0'.toNat + d)) = Nat.toDigits 10 n := by
  induction n using Decimal.digitList.induct with
  | case1 n hn =>
    rw [Decimal.digitList, if_pos hn, Nat.toDigits_eq_if (by decide), if_pos hn,
      List.map_singleton, ofNat_zero_add_eq_digitChar hn]
  | case2 n hn ih =>
    -- the last digit comes off the end on both sides
    rw [Decimal.digitList, if_neg hn, Nat.toDigits_eq_if (by decide), if_neg hn, List.map_append,
      ih, List.map_singleton, ofNat_zero_add_eq_digitChar (Nat.mod_lt n (by decide))]

/-- A number is written in decimal, as `toString` writes it. -/
theorem natText_eq_toString (n : Nat) : natText n = toString n := by
  rw [natText, map_digitList, Nat.toString_eq_ofList_toDigits]

namespace Check

namespace StatusExpectation

/-- The statuses an expectation admits. -/
def Admits : StatusExpectation → Nat → Prop
  | .exact c, s => s = c
  | .range lo hi, s => lo ≤ s ∧ s ≤ hi
  | .oneOf cs, s => s ∈ cs

theorem accepts_iff {e : StatusExpectation} {s : Nat} : e.accepts s = true ↔ e.Admits s := by
  cases e with
  | exact c => simp [Admits]
  | range lo hi => simp [accepts, Admits]
  | oneOf cs => simp [accepts, Admits]

theorem not_admits_range_of_lt {lo hi s : Nat} (h : hi < lo) : ¬ (range lo hi).Admits s := by
  simp only [Admits]
  omega

theorem not_admits_nil (s : Nat) : ¬ (oneOf []).Admits s := by
  simp [Admits]

/-- One code admits what an exact expectation, a list of it alone and a range from it to
itself admit. -/
theorem admits_single {c s : Nat} :
    ((exact c).Admits s ↔ (oneOf [c]).Admits s) ∧
      ((exact c).Admits s ↔ (range c c).Admits s) :=
  ⟨List.mem_singleton.symm, Nat.le_antisymm_iff.trans and_comm⟩

theorem text_exact (c : Nat) : (exact c).text = toString c := by
  rw [text, natText_eq_toString]

theorem text_range (lo hi : Nat) :
    (range lo hi).text = "in " ++ toString lo ++ "-" ++ toString hi := by
  rw [text, natText_eq_toString, natText_eq_toString]

theorem text_oneOf (cs : List Nat) :
    (oneOf cs).text = "in [" ++ ", ".intercalate (cs.map toString) ++ "]" := by
  rw [text]
  congr 3
  exact List.map_congr_left fun c _ => natText_eq_toString c

end StatusExpectation

namespace Assertion

open StatusExpectation

/-- Two assertions pass on the same responses. -/
def PassesAlike (a b : Assertion) : Prop := ∀ r, a.check r = .ok () ↔ b.check r = .ok ()

variable {e : StatusExpectation} {r : Response}

theorem statusIn_eq_ok_iff : (statusIn e).check r = .ok () ↔ e.Admits r.status.code := by
  rw [statusIn, ofCheck_compare_eq_ok, accepts_iff]

theorem statusIn_eq_error_iff {f : Failure} :
    (statusIn e).check r = .error f ↔
      ¬ e.Admits r.status.code ∧ f = .assertion (.statusMismatch e.text r.status.code) := by
  rw [statusIn, ofCheck_compare_eq_error, Bool.eq_false_iff, ne_eq, accepts_iff]

theorem passesAlike_statusIn {e e' : StatusExpectation} (h : ∀ s, e.Admits s ↔ e'.Admits s) :
    PassesAlike (statusIn e) (statusIn e') := fun r => by
  rw [statusIn_eq_ok_iff, statusIn_eq_ok_iff, h]

/-- `status_success` checks as `status_in` of the default expectation does, failures
included; only its name differs. -/
theorem statusSuccess_check : statusSuccess.check = (statusIn default).check := rfl

/-- `status_in` passes exactly when its expectation admits the status, and otherwise fails
with the expectation's text and the status. An inclusive range from above its high end
admits nothing, nor does the empty list, and a list counts only for its members. `status`
of a code, of a status code, and `status_in` of the code exactly, of the list of it alone
and of the range from it to itself pass alike; `status_success`, `status_in` of the default
and of the range 200 to 299 pass alike. A code is written in decimal. -/
theorem status_checks_admit_expectation :
    (∀ (e : StatusExpectation) s, e.accepts s = true ↔ e.Admits s) ∧
    (∀ (e : StatusExpectation) r, (statusIn e).check r = .ok () ↔ e.Admits r.status.code) ∧
    (∀ (e : StatusExpectation) r f, (statusIn e).check r = .error f ↔
      ¬ e.Admits r.status.code ∧ f = .assertion (.statusMismatch e.text r.status.code)) ∧
    (∀ lo hi s, hi < lo → ¬ (range lo hi).Admits s) ∧
    (∀ s, ¬ (oneOf []).Admits s) ∧
    (∀ cs ds, (∀ c, c ∈ cs ↔ c ∈ ds) →
      PassesAlike (statusIn (oneOf cs)) (statusIn (oneOf ds))) ∧
    (∀ c, PassesAlike (status c) (statusIn (exact c)) ∧
      PassesAlike (status c) (statusIn (oneOf [c])) ∧
      PassesAlike (status c) (statusIn (range c c))) ∧
    (∀ sc : StatusCode, PassesAlike (statusIn (ofStatusCode sc)) (status sc.code)) ∧
    statusSuccess.check = (statusIn default).check ∧
    PassesAlike statusSuccess (statusIn (range 200 299)) ∧
    (∀ c, (exact c).text = toString c) ∧
    (∀ lo hi, (range lo hi).text = "in " ++ toString lo ++ "-" ++ toString hi) ∧
    (∀ cs, (oneOf cs).text = "in [" ++ ", ".intercalate (cs.map toString) ++ "]") := by
  refine ⟨fun _ _ => accepts_iff, fun _ _ => statusIn_eq_ok_iff,
    fun _ _ _ => statusIn_eq_error_iff, fun _ _ _ => not_admits_range_of_lt, not_admits_nil,
    fun cs ds h => passesAlike_statusIn fun s => h s, fun c => ⟨fun r => Iff.rfl, ?_, ?_⟩,
    fun sc r => Iff.rfl, statusSuccess_check, fun r => by rw [statusSuccess_check]; rfl,
    text_exact, text_range, text_oneOf⟩
  · exact passesAlike_statusIn fun s => admits_single.1
  · exact passesAlike_statusIn fun s => admits_single.2

-- Inverted bounds admit no status, and the default admits every success.
example : (StatusExpectation.range 299 200).accepts 250 = false ∧
    (default : StatusExpectation).accepts 204 = true := by decide

end Assertion

end Check

end HttpCheck
