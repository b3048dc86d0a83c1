import HttpCheck.Json.Path
import HttpCheck.Proofs.Except
import Mathlib.Data.Nat.Digits.Defs
import Mathlib.Data.List.TakeWhile
/-!
# The grammar of JSON paths

A path is `$` and then steps, with the blanks around the whole path ignored. A step is
written `.name`, `[index]` or `[*]`. A name is a non-empty run of characters other than
`.` and `[`, so it may hold `]`, blanks, `*` or `$`; an index is decimal digits, maybe
after one `+`, naming a number below `2 ^ 64`, leading zeros allowed.

Main statements: the steps read from a path are exactly those its text spells, provided
a wildcard stands only last; a path that cannot be read is reported by the first fault
met from the left, and the wildcard's place is judged only once the whole path reads;
and steps written out as a path read back as themselves.
-/
namespace HttpCheck

open Blank

namespace PathStep

/-! ### Indices -/

/-- `ds` are decimal digits, at least one, naming `n` below `2 ^ 64`. -/
def IsDecimal (ds : List Char) (n : Nat) : Prop :=
  ds ≠ [] ∧ (∀ c ∈ ds, c.isDigit = true) ∧
    n = Nat.ofDigits 10 (ds.map fun c => c.toNat - '0'.toNat).reverse ∧ n < 2 ^ 64

/-- `t` writes the index `n`: decimal digits, maybe after one `+`. -/
def IsIndexText (t : List Char) (n : Nat) : Prop :=
  IsDecimal t n ∨ ∃ ds, t = '+' :: ds ∧ IsDecimal ds n

/-- Reading digits from the left is the value of their reversed list of digit values. -/
theorem foldl_digits_eq_ofDigits (ds : List Char) :
    ds.foldl (fun n c => 10 * n + (c.toNat - '0'.toNat)) 0 =
      Nat.ofDigits 10 (ds.map fun c => c.toNat - '0'.toNat).reverse := by
  rw [Nat.ofDigits_eq_foldr, List.foldr_reverse, List.foldl_map]
  congr 1
  funext n d
  simp only [Nat.cast_id]
  omega

theorem not_isDecimal_plus (ds : List Char) (n : Nat) : ¬ IsDecimal ('+' :: ds) n :=
  fun ⟨_, hall, _⟩ => absurd (hall '+' List.mem_cons_self) (by decide)

theorem parseIndex_eq_some_iff {t : List Char} {n : Nat} :
    parseIndex (String.ofList t) = some n ↔ IsIndexText t n := by
  -- what is left after the sign is read as a decimal
  have decimal_iff : ∀ ds : List Char,
      (if (ds.isEmpty || !ds.all Char.isDigit) = true then none
        else if ds.foldl (fun n c => 10 * n + (c.toNat - '0'.toNat)) 0 < Nat.pow 2 64
          then some (ds.foldl (fun n c => 10 * n + (c.toNat - '0'.toNat)) 0) else none) = some n ↔
        IsDecimal ds n := by
    intro ds
    rw [foldl_digits_eq_ofDigits, Nat.pow_eq, IsDecimal]
    by_cases hds : ds = []
    · simp [hds]
    by_cases hall : ∀ c ∈ ds, c.isDigit = true
    · simp [hds]
      grind
    · simp [hall]
  simp only [parseIndex, String.toList_ofList]
  split
  · rename_i rest
    rw [decimal_iff, IsIndexText]
    simp [not_isDecimal_plus]
  · rename_i hsign
    rw [decimal_iff, IsIndexText]
    constructor
    · exact Or.inl
    · rintro (h | ⟨ds, rfl, _⟩)
      · exact h
      · exact absurd rfl (hsign ds)

/-! ### The text of a step -/

/-- A name stops where `rest` begins: at the end of the text, or at a `.` or a `[`. -/
def NameEnds (rest : List Char) : Prop := ∀ c ∈ rest.head?, c = '.' ∨ c = '['

/-- `t` is the text of the step `s`. -/
inductive StepText : List Char → PathStep → Prop
  /-- `.name`, the name a non-empty run of characters other than `.` and `[`. -/
  | member {name : List Char} : name ≠ [] → (∀ c ∈ name, c ≠ '.' ∧ c ≠ '[') →
      StepText ('.' :: name) (.member (String.ofList name))
  /-- `[index]`. -/
  | item {t : List Char} {n : Nat} : IsIndexText t n → StepText ('[' :: (t ++ [']'])) (.item n)
  /-- `[*]`. -/
  | all : StepText ['[', '*', ']'] .all

/-- What may follow the text of a step without joining it: after a name, only what stops
the name. -/
def MayFollow : PathStep → List Char → Prop
  | .member _, rest => NameEnds rest
  | _, _ => True

/-- `cs` is the text of `steps`, one step's text after another. -/
inductive StepsText : List Char → List PathStep → Prop
  | nil : StepsText [] []
  | cons {t rest : List Char} {s : PathStep} {steps : List PathStep} :
      StepText t s → StepsText rest steps → StepsText (t ++ rest) (s :: steps)

/-- Text where a step should begin that begins no step, and the error naming the fault. -/
inductive BrokenStep (path : String) : List Char → String → Prop
  | emptyName {after : List Char} : NameEnds after →
      BrokenStep path ('.' :: after) ("empty member name in '" ++ path ++ "'")
  | unclosed {after : List Char} : ']' ∉ after →
      BrokenStep path ('[' :: after) ("unclosed bracket in '" ++ path ++ "'")
  | badIndex {t rest : List Char} : ']' ∉ t → t ≠ ['*'] → (∀ n, ¬ IsIndexText t n) →
      BrokenStep path ('[' :: (t ++ ']' :: rest)) ("invalid array index: " ++ String.ofList t)
  | unexpected {c : Char} {rest : List Char} : c ≠ '.' → c ≠ '[' →
      BrokenStep path (c :: rest)
        ("unexpected '" ++ String.ofList (c :: rest) ++ "' in '" ++ path ++ "'")

/-- Reading `cs` from the left meets the fault `e` first: whole steps, then a broken one. -/
inductive ScanFails (path : String) : List Char → String → Prop
  | here {cs : List Char} {e : String} : BrokenStep path cs e → ScanFails path cs e
  | after {t rest : List Char} {s : PathStep} {e : String} : StepText t s → MayFollow s rest →
      ScanFails path rest e → ScanFails path (t ++ rest) e

theorem IsIndexText.no_bracket {t : List Char} {n : Nat} (h : IsIndexText t n) :
    ']' ∉ t ∧ t ≠ ['*'] := by
  have digits : ∀ {ds : List Char} {m : Nat}, IsDecimal ds m → ']' ∉ ds ∧ '*' ∉ ds :=
    fun ⟨_, hall, _⟩ => ⟨fun hm => absurd (hall _ hm) (by decide),
      fun hm => absurd (hall _ hm) (by decide)⟩
  rcases h with hd | ⟨ds, rfl, hd⟩
  · exact ⟨(digits hd).1, by rintro rfl; exact (digits hd).2 List.mem_cons_self⟩
  · refine ⟨?_, by simp⟩
    simp only [List.mem_cons, Char.reduceEq, false_or]
    exact (digits hd).1

theorem StepText.head {t : List Char} {s : PathStep} (h : StepText t s) :
    ∃ c r, t = c :: r ∧ (c = '.' ∨ c = '[') := by
  cases h <;> simp

theorem StepsText.nameEnds {cs : List Char} {steps : List PathStep} (h : StepsText cs steps) :
    NameEnds cs := by
  cases h with
  | nil => simp [NameEnds]
  | cons ht _ =>
    obtain ⟨c, r, rfl, hc⟩ := ht.head
    simpa [NameEnds] using hc

theorem mayFollow_of_nameEnds {rest : List Char} (h : NameEnds rest) (s : PathStep) :
    MayFollow s rest := by
  cases s <;> simp [MayFollow, h]

/-! ### Reading one step -/

theorem bind_ok_eq_map {ε α β : Type} (x : Except ε α) (f : α → β) :
    (x >>= fun a => .ok (f a)) = x.map f := by
  cases x <;> rfl

theorem takeWhile_name {name rest : List Char} (hname : ∀ c ∈ name, c ≠ '.' ∧ c ≠ '[')
    (hrest : NameEnds rest) :
    (name ++ rest).takeWhile (fun c => c != '.' && c != '[') = name := by
  rw [List.takeWhile_append_of_pos (by simpa using hname)]
  cases rest with
  | nil => simp
  | cons c r =>
    have hc : c = '.' ∨ c = '[' := hrest c rfl
    rw [List.takeWhile_cons_of_neg (by rcases hc with rfl | rfl <;> decide), List.append_nil]

theorem takeWhile_bracket {t rest : List Char} (ht : ']' ∉ t) :
    (t ++ ']' :: rest).takeWhile (· != ']') = t := by
  rw [List.takeWhile_append_of_pos fun c hc => by
    simp only [bne_iff_ne, ne_eq]
    rintro rfl
    exact ht hc]
  simp

/-- A step's text is read as the step, and reading goes on after it. -/
theorem readSteps_stepText (path : String) {t rest : List Char} {s : PathStep}
    (ht : StepText t s) (hf : MayFollow s rest) :
    readSteps path (t ++ rest) = (readSteps path rest).map (s :: ·) := by
  cases ht with
  | member hne hname =>
    rw [List.cons_append, readSteps.eq_2, takeWhile_name hname hf]
    simp [hne, bind_ok_eq_map]
  | item hi =>
    obtain ⟨hbr, hstar⟩ := hi.no_bracket
    rw [List.cons_append, List.append_assoc, List.singleton_append, readSteps.eq_3,
      takeWhile_bracket hbr, parseIndex_eq_some_iff.2 hi]
    simp [hstar, bind_ok_eq_map]
  | all =>
    show readSteps path ('[' :: (['*'] ++ ']' :: rest)) = _
    rw [readSteps.eq_3, takeWhile_bracket (by decide)]
    simp [bind_ok_eq_map]

theorem readSteps_brokenStep {path : String} {cs : List Char} {e : String}
    (h : BrokenStep path cs e) : readSteps path cs = .error e := by
  cases h with
  | @emptyName after hend =>
    rw [readSteps.eq_2, ← List.nil_append after, takeWhile_name (by simp) hend]
    simp
  | @unclosed after hno =>
    rw [readSteps.eq_3, List.takeWhile_eq_self_iff.2 fun c hc => by
      simp only [bne_iff_ne, ne_eq]
      rintro rfl
      exact hno hc]
    simp
  | @badIndex t rest hbr hstar hnot =>
    have hnone : parseIndex (String.ofList t) = none := by
      cases hp : parseIndex (String.ofList t) with
      | none => rfl
      | some n => exact absurd (parseIndex_eq_some_iff.1 hp) (hnot n)
    rw [readSteps.eq_3, takeWhile_bracket hbr, hnone]
    simp [hstar]
  | unexpected hdot hbr =>
    rw [readSteps.eq_4]
    · simp
    · simpa using hdot
    · simpa using hbr

/-- A list splits where `p` first fails: what `p` holds for, then a rest whose first
element, if any, fails `p`. -/
theorem exists_takeWhile_append {α : Type} (p : α → Bool) (l : List α) :
    ∃ rest, l = l.takeWhile p ++ rest ∧ ∀ c ∈ rest.head?, p c = false := by
  refine ⟨l.dropWhile p, List.takeWhile_append_dropWhile.symm, fun c hc => ?_⟩
  obtain ⟨w, rfl⟩ : ∃ w, (l.dropWhile p).head w = c := by
    cases h : l.dropWhile p with
    | nil => simp [h] at hc
    | cons d r => exact ⟨by simp, by simp_all⟩
  exact List.head_dropWhile_not p w

/-- Each text where a step should begin either begins a broken step, or begins with the
text of a whole step that what comes after it does not join. -/
theorem member_stepText_or_brokenStep (path : String) (cs : List Char) :
    (∃ e, BrokenStep path ('.' :: cs) e) ∨
      ∃ t s rest, '.' :: cs = t ++ rest ∧ t ≠ [] ∧ StepText t s ∧ MayFollow s rest := by
  obtain ⟨rest, hsplit, hend⟩ := exists_takeWhile_append (fun c => c != '.' && c != '[') cs
  have hstop : NameEnds rest := fun d hd => by
    simpa only [Bool.and_eq_false_iff, bne_eq_false_iff_eq] using hend d hd
  by_cases hname : cs.takeWhile (fun c => c != '.' && c != '[') = []
  · rw [hname, List.nil_append] at hsplit
    exact Or.inl ⟨_, .emptyName (hsplit ▸ hstop)⟩
  · refine Or.inr ⟨_, _, rest, by rw [List.cons_append, ← hsplit], by simp,
      .member hname fun d hd => ?_, hstop⟩
    simpa using List.mem_takeWhile_imp hd

theorem bracket_stepText_or_brokenStep (path : String) (cs : List Char) :
    (∃ e, BrokenStep path ('[' :: cs) e) ∨
      ∃ t s rest, '[' :: cs = t ++ rest ∧ t ≠ [] ∧ StepText t s ∧ MayFollow s rest := by
  by_cases hclose : ']' ∈ cs
  · obtain ⟨rest, hsplit, hend⟩ := exists_takeWhile_append (· != ']') cs
    set t := cs.takeWhile (· != ']')
    have hbr : ']' ∉ t := fun h => by simpa using List.mem_takeWhile_imp h
    -- the rest begins with the first `]`
    obtain ⟨rest', rfl⟩ : ∃ rest', rest = ']' :: rest' := by
      cases rest with
      | nil => exact absurd (hsplit ▸ hclose) (by simpa using hbr)
      | cons d r => exact ⟨r, by simpa using hend d rfl⟩
    rw [hsplit]
    by_cases hstar : t = ['*']
    · rw [hstar]
      exact Or.inr ⟨['[', '*', ']'], .all, rest', rfl, by simp, .all, trivial⟩
    · cases hp : parseIndex (String.ofList t) with
      | some n =>
        exact Or.inr ⟨'[' :: (t ++ [']']), .item n, rest', by simp, by simp,
          .item (parseIndex_eq_some_iff.1 hp), trivial⟩
      | none =>
        refine Or.inl ⟨_, .badIndex hbr hstar fun n hn => ?_⟩
        simp [parseIndex_eq_some_iff.2 hn] at hp
  · exact Or.inl ⟨_, .unclosed hclose⟩

theorem stepText_or_brokenStep (path : String) (c : Char) (cs : List Char) :
    (∃ e, BrokenStep path (c :: cs) e) ∨
      ∃ t s rest, c :: cs = t ++ rest ∧ t ≠ [] ∧ StepText t s ∧ MayFollow s rest := by
  -- a step starts with `.` or `[`; any other character is unexpected
  by_cases hdot : c = '.'
  · exact hdot ▸ member_stepText_or_brokenStep path cs
  by_cases hopen : c = '['
  · exact hopen ▸ bracket_stepText_or_brokenStep path cs
  exact Or.inl ⟨_, .unexpected hdot hopen⟩

/-! ### Reading all the steps -/

theorem readSteps_of_stepsText (path : String) {cs : List Char} {steps : List PathStep}
    (h : StepsText cs steps) : readSteps path cs = .ok steps := by
  induction h with
  | nil => rw [readSteps.eq_1]
  | cons ht hrest ih =>
    rw [readSteps_stepText path ht (mayFollow_of_nameEnds hrest.nameEnds _), ih]
    rfl

theorem readSteps_of_scanFails {path : String} {cs : List Char} {e : String}
    (h : ScanFails path cs e) : readSteps path cs = .error e := by
  induction h with
  | here hb => exact readSteps_brokenStep hb
  | after ht hf _ ih =>
    rw [readSteps_stepText path ht hf, ih]
    rfl

/-- Reading either spells out the whole text as steps or meets a first fault. -/
theorem readSteps_stepsText_or_scanFails (path : String) (cs : List Char) :
    (∃ steps, readSteps path cs = .ok steps ∧ StepsText cs steps) ∨
      ∃ e, readSteps path cs = .error e ∧ ScanFails path cs e := by
  -- on the length of the text: each whole step leaves a shorter rest
  induction hlen : cs.length using Nat.strong_induction_on generalizing cs with
  | _ n ih =>
  cases cs with
  | nil => exact Or.inl ⟨[], readSteps.eq_1 path, .nil⟩
  | cons c cs =>
    rcases stepText_or_brokenStep path c cs with ⟨e, hb⟩ | ⟨t, s, rest, heq, hne, ht, hf⟩
    · exact Or.inr ⟨e, readSteps_brokenStep hb, .here hb⟩
    · have hshorter : rest.length < n := by
        have hlen' := congrArg List.length heq
        have ht0 : t.length ≠ 0 := by simpa using hne
        simp only [List.length_cons, List.length_append] at hlen hlen'
        omega
      rw [heq, readSteps_stepText path ht hf]
      rcases ih rest.length hshorter rest rfl with ⟨steps, hr, hs⟩ | ⟨e, hr, hs⟩
      · exact Or.inl ⟨s :: steps, by rw [hr]; rfl, .cons ht hs⟩
      · exact Or.inr ⟨e, by rw [hr]; rfl, .after ht hf hs⟩

theorem readSteps_eq_ok_iff {path : String} {cs : List Char} {steps : List PathStep} :
    readSteps path cs = .ok steps ↔ StepsText cs steps := by
  refine ⟨fun h => ?_, readSteps_of_stepsText path⟩
  rcases readSteps_stepsText_or_scanFails path cs with ⟨steps', hr, hs⟩ | ⟨e, hr, _⟩
  · rw [h, Except.ok.injEq] at hr
    exact hr ▸ hs
  · rw [h] at hr
    cases hr

theorem readSteps_eq_error_iff {path : String} {cs : List Char} {e : String} :
    readSteps path cs = .error e ↔ ScanFails path cs e := by
  refine ⟨fun h => ?_, readSteps_of_scanFails⟩
  rcases readSteps_stepsText_or_scanFails path cs with ⟨steps, hr, _⟩ | ⟨e', hr, hs⟩
  · rw [h] at hr
    cases hr
  · rw [h, Except.error.injEq] at hr
    exact hr ▸ hs

end PathStep

/-! ### Whole paths -/

/-- A wildcard stands, if anywhere, only as the last step. -/
def WildcardLast (steps : List PathStep) : Prop := PathStep.all ∉ steps.dropLast

instance (steps : List PathStep) : Decidable (WildcardLast steps) :=
  inferInstanceAs (Decidable (_ ∉ _))

/-- The first wildcard is the last step exactly when no wildcard stands before the end. -/
theorem findIdx?_all_last_iff (steps : List PathStep) :
    (∀ i, steps.findIdx? (· == .all) = some i → i + 1 = steps.length) ↔ WildcardLast steps := by
  induction steps with
  | nil => simp [WildcardLast]
  | cons s rest ih =>
    rw [List.findIdx?_cons]
    cases rest with
    | nil => cases s <;> simp [WildcardLast]
    | cons s' rest' =>
      rw [WildcardLast, List.dropLast_cons_cons, List.mem_cons, not_or, ← WildcardLast, ← ih]
      cases s <;> simp

/-- What is wrong with a path that cannot be read, as the first fault met. -/
inductive PathFault (path : String) : String → Prop
  /-- The path, blanks trimmed, does not begin with `$`. -/
  | noRoot : (∀ rest, trimChars path.toList ≠ '$' :: rest) →
      PathFault path "JSON path must start with '$'"
  /-- A step is broken; the steps before it are whole. -/
  | broken {rest : List Char} {e : String} : trimChars path.toList = '$' :: rest →
      PathStep.ScanFails path rest e → PathFault path e
  /-- Every step is whole, but a wildcard stands before the end. -/
  | wildcard {rest : List Char} {steps : List PathStep} : trimChars path.toList = '$' :: rest →
      PathStep.StepsText rest steps → ¬ WildcardLast steps →
      PathFault path "wildcard must be the last path element"

theorem tokenizePath_root {path : String} {rest : List Char}
    (h : trimChars path.toList = '$' :: rest) :
    tokenizePath path = (PathStep.readSteps path rest).bind fun steps =>
      if WildcardLast steps then .ok steps else .error "wildcard must be the last path element" := by
  unfold tokenizePath
  rw [h]
  simp only
  cases PathStep.readSteps path rest with
  | error e => rfl
  | ok steps =>
    have hlast := findIdx?_all_last_iff steps
    dsimp only [Except.bind]
    split
    · rename_i i hi
      by_cases hw : WildcardLast steps
      · simp [hw, hlast.2 hw i hi]
      · have hne : i + 1 ≠ steps.length := fun he =>
          hw (hlast.1 fun j hj => by rw [hi, Option.some.injEq] at hj; exact hj ▸ he)
        simp [hw, hne]
    · rename_i hnone
      simp [hlast.1 fun i hi => by simp [hnone] at hi]

theorem tokenizePath_noRoot {path : String} (h : ∀ rest, trimChars path.toList ≠ '$' :: rest) :
    tokenizePath path = .error "JSON path must start with '$'" := by
  unfold tokenizePath
  split
  · rename_i rest hr
    exact absurd hr (h rest)
  · rfl

theorem tokenizePath_eq_ok_iff {path : String} {steps : List PathStep} :
    tokenizePath path = .ok steps ↔ ∃ rest, trimChars path.toList = '$' :: rest ∧
      PathStep.StepsText rest steps ∧ WildcardLast steps := by
  by_cases hroot : ∃ rest, trimChars path.toList = '$' :: rest
  · obtain ⟨rest, hr⟩ := hroot
    rw [tokenizePath_root hr]
    constructor
    · intro h
      cases hs : PathStep.readSteps path rest with
      | error e => simp [hs, Except.bind] at h
      | ok steps' =>
        by_cases hw : WildcardLast steps' <;> simp [hs, Except.bind, hw] at h
        subst h
        exact ⟨rest, hr, PathStep.readSteps_eq_ok_iff.1 hs, hw⟩
    · rintro ⟨rest', hr', hs, hw⟩
      obtain rfl : rest' = rest := by simpa [hr] using hr'.symm
      simp [PathStep.readSteps_of_stepsText path hs, Except.bind, hw]
  · rw [tokenizePath_noRoot fun rest h => hroot ⟨rest, h⟩]
    simp only [reduceCtorEq, false_iff, not_exists, not_and]
    exact fun rest h => absurd ⟨rest, h⟩ hroot

theorem tokenizePath_eq_error_iff {path : String} {e : String} :
    tokenizePath path = .error e ↔ PathFault path e := by
  by_cases hroot : ∃ rest, trimChars path.toList = '$' :: rest
  · obtain ⟨rest, hr⟩ := hroot
    rw [tokenizePath_root hr]
    constructor
    · intro h
      cases hs : PathStep.readSteps path rest with
      | error e' =>
        simp only [hs, Except.bind, Except.error.injEq] at h
        exact .broken hr (h ▸ PathStep.readSteps_eq_error_iff.1 hs)
      | ok steps =>
        by_cases hw : WildcardLast steps <;> simp [hs, Except.bind, hw] at h
        exact h ▸ .wildcard hr (PathStep.readSteps_eq_ok_iff.1 hs) hw
    · intro h
      cases h with
      | noRoot hno => exact absurd hr (hno rest)
      | broken hr' hs =>
        obtain rfl := List.cons.inj (hr.symm.trans hr') |>.2
        simp [PathStep.readSteps_of_scanFails hs, Except.bind]
      | wildcard hr' hs hw =>
        obtain rfl := List.cons.inj (hr.symm.trans hr') |>.2
        simp [PathStep.readSteps_of_stepsText path hs, Except.bind, hw]
  · have hno : ∀ rest, trimChars path.toList ≠ '$' :: rest := fun rest h => hroot ⟨rest, h⟩
    rw [tokenizePath_noRoot hno, Except.error.injEq]
    constructor
    · rintro rfl
      exact .noRoot hno
    · rintro (_ | ⟨hr, _⟩ | ⟨hr, _, _⟩)
      · rfl
      · exact absurd hr (hno _)
      · exact absurd hr (hno _)

/-! ### Writing steps out -/

namespace PathStep

/-- The decimal digits of a positive number, most significant first. -/
theorem toDigitsCore_ten {fuel n : Nat} (hn : 0 < n) (hfuel : n < fuel) (ds : List Char) :
    Nat.toDigitsCore 10 fuel n ds = ((Nat.digits 10 n).map Nat.digitChar).reverse ++ ds := by
  induction fuel generalizing n ds with
  | zero => omega
  | succ fuel ih =>
    simp only [Nat.toDigitsCore, Nat.digits_def' (by decide : 1 < 10) hn, List.map_cons,
      List.reverse_cons, List.append_assoc, List.singleton_append]
    split
    · rename_i hq
      simp [hq]
    · rename_i hq
      rw [ih (by omega) (by omega)]

/-- An index written in decimal reads as itself. -/
theorem isDecimal_toDigits {n : Nat} (hn : n < 2 ^ 64) : IsDecimal (Nat.toDigits 10 n) n := by
  rcases Nat.eq_zero_or_pos n with rfl | hpos
  · exact ⟨List.cons_ne_nil _ _, by simp [Char.isDigit], by simp, by positivity⟩
  rw [show Nat.toDigits 10 n = Nat.toDigitsCore 10 (n + 1) n [] from rfl,
    toDigitsCore_ten hpos (by omega), List.append_nil]
  have hlt : ∀ d ∈ Nat.digits 10 n, d < 10 := fun d hd => Nat.digits_lt_base (by decide) hd
  refine ⟨by simpa using Nat.digits_ne_nil_iff_ne_zero.2 (by omega), ?_, ?_, hn⟩
  · simp only [List.mem_reverse, List.mem_map]
    rintro c ⟨d, hd, rfl⟩
    simpa [Nat.isDigit_digitChar] using hlt d hd
  · -- each digit character reads back as its digit
    have hback : ((Nat.digits 10 n).map Nat.digitChar).reverse.map
        (fun c => c.toNat - '0'.toNat) = (Nat.digits 10 n).reverse := by
      rw [List.map_reverse, List.map_map]
      congr 1
      conv_rhs => rw [← List.map_id (Nat.digits 10 n)]
      refine List.map_congr_left fun d hd => ?_
      simp [Nat.toNat_digitChar_of_lt_ten (hlt d hd)]
    rw [hback, List.reverse_reverse, Nat.ofDigits_digits]

/-- A step written out: `.name`, the index in decimal within brackets, or `[*]`. -/
def write : PathStep → List Char
  | .member name => '.' :: name.toList
  | .item i => '[' :: (Nat.toDigits 10 i ++ [']'])
  | .all => ['[', '*', ']']

theorem stepsText_flatMap_write {steps : List PathStep}
    (hnames : ∀ name, .member name ∈ steps → name ≠ "" ∧ ∀ c ∈ name.toList, c ≠ '.' ∧ c ≠ '[')
    (hindices : ∀ i, .item i ∈ steps → i < 2 ^ 64) :
    StepsText (steps.flatMap write) steps := by
  induction steps with
  | nil => exact .nil
  | cons s rest ih =>
    rw [List.flatMap_cons]
    refine .cons ?_ (ih (fun name h => hnames name (List.mem_cons_of_mem _ h))
      fun i h => hindices i (List.mem_cons_of_mem _ h))
    cases s with
    | member name =>
      obtain ⟨hne, hchars⟩ := hnames name List.mem_cons_self
      have h := StepText.member (by simpa using hne) hchars
      rwa [String.ofList_toList] at h
    | item i => exact .item (.inl (isDecimal_toDigits (hindices i List.mem_cons_self)))
    | all => exact .all

end PathStep

/-- Steps written out as a path: `$`, then each step. -/
def writePath (steps : List PathStep) : String :=
  String.ofList ('$' :: steps.flatMap PathStep.write)

/-- Steps that a written path gives back: names non-empty and free of `.` and `[`,
indices below `2 ^ 64`, a wildcard only last, and no blank at the end of a last name. -/
structure Writable (steps : List PathStep) : Prop where
  names : ∀ name, .member name ∈ steps → name ≠ "" ∧ ∀ c ∈ name.toList, c ≠ '.' ∧ c ≠ '['
  indices : ∀ i, .item i ∈ steps → i < 2 ^ 64
  wildcard : WildcardLast steps
  lastName : ∀ name, steps.getLast? = some (.member name) →
    ∀ c ∈ name.toList.getLast?, isBlank c = false

/-- Trimming keeps a text that neither begins nor ends with a blank. -/
theorem trimChars_eq_self {cs : List Char} (hhead : ∀ c ∈ cs.head?, isBlank c = false)
    (hlast : ∀ c ∈ cs.getLast?, isBlank c = false) : trimChars cs = cs := by
  have keep : ∀ l : List Char, (∀ c ∈ l.head?, isBlank c = false) → l.dropWhile isBlank = l := by
    intro l h
    cases l with
    | nil => rfl
    | cons c r => simp [h c rfl]
  rw [trimChars, keep cs hhead, keep cs.reverse (by simpa [List.head?_reverse] using hlast),
    List.reverse_reverse]

/-- A written path ends with `$`, `]`, or the last character of its last name. -/
theorem getLast?_writePath {steps : List PathStep} (h : Writable steps) :
    ∀ c ∈ (writePath steps).toList.getLast?, isBlank c = false := by
  rw [writePath, String.toList_ofList]
  have hroot : isBlank '$' = false := by decide
  have hclose : isBlank ']' = false := by decide
  rcases List.eq_nil_or_concat steps with rfl | ⟨init, s, rfl⟩
  · simpa using hroot
  rw [List.concat_eq_append] at h ⊢
  have hlast : ∀ c ∈ (s.write).getLast?, isBlank c = false := by
    cases s with
    | member name =>
      have hend := h.lastName name (by simp)
      obtain ⟨hne, -⟩ := h.names name (by simp)
      cases hn : name.toList.getLast? with
      | none => simp_all
      | some c => simp [PathStep.write, List.getLast?_cons, hn, hend c hn]
    | item i => simp [PathStep.write, List.getLast?_cons, List.getLast?_append, hclose]
    | all => simpa [PathStep.write] using hclose
  obtain ⟨c, hc⟩ : ∃ c, s.write.getLast? = some c := by
    cases s <;> simp [PathStep.write, List.getLast?_cons, List.getLast?_append]
  rw [List.flatMap_append, ← List.cons_append, List.getLast?_append]
  simpa [hc] using hlast c hc

/-- Writing steps out and reading the path back gives the steps. -/
theorem tokenizePath_writePath {steps : List PathStep} (h : Writable steps) :
    tokenizePath (writePath steps) = .ok steps := by
  have htrim : trimChars (writePath steps).toList = (writePath steps).toList :=
    trimChars_eq_self (by simp [writePath]; decide) (getLast?_writePath h)
  refine tokenizePath_eq_ok_iff.2 ⟨steps.flatMap PathStep.write, ?_,
    PathStep.stepsText_flatMap_write h.names h.indices, h.wildcard⟩
  rw [htrim, writePath, String.toList_ofList]

/-- Reading a path: it succeeds exactly when the trimmed text is `$` and then the text of
the steps read, with a wildcard only last; when it fails, the error is the first fault met
from the left, the wildcard's place counting only once every step reads; and steps written
out read back as themselves. -/
theorem tokenizePath_reads_its_grammar :
    (∀ path steps, tokenizePath path = .ok steps ↔ ∃ rest,
      trimChars path.toList = '$' :: rest ∧ PathStep.StepsText rest steps ∧ WildcardLast steps) ∧
    (∀ path e, tokenizePath path = .error e ↔ PathFault path e) ∧
    (∀ steps, Writable steps → tokenizePath (writePath steps) = .ok steps) :=
  ⟨fun _ _ => tokenizePath_eq_ok_iff, fun _ _ => tokenizePath_eq_error_iff,
    fun _ => tokenizePath_writePath⟩

/-- A name holding `]`, a blank and `*`, an index and a final wildcard are written and read
back. -/
theorem tokenizePath_reads_written_steps :
    Writable [.member "a] *", .item 12, .all] ∧
      tokenizePath (writePath [.member "a] *", .item 12, .all]) =
        .ok [.member "a] *", .item 12, .all] := by
  have hw : Writable [.member "a] *", .item 12, .all] :=
    ⟨by simp, by simp, by decide, by simp⟩
  exact ⟨hw, tokenizePath_reads_its_grammar.2.2 _ hw⟩

end HttpCheck
