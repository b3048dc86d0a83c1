import HttpCheck.Check.Assertions
import HttpCheck.Proofs.Except
/-!
# The JSON assertions

A body is read as a JSON document when it is UTF-8 text that parses; a path leads from a
document to a value step by step: a member only of an object that has the key, an item
only of an array long enough, and the wildcard only of an array, which it keeps. Main
statements, for `json_path_exists`, `json_path` and `json_equals`: each passes exactly
when its stages succeed and the values agree, and each fails with the first stage that
fails, in the order the expected value, the text, the document, the path, the value.
-/
namespace HttpCheck

open HttpCheck.Http

/-! ### Following a path -/

/-- `v` is found in `d` by following `steps`. -/
inductive Resolves : Json → List PathStep → Json → Prop
  | here (d : Json) : Resolves d [] d
  /-- A member of an object that has the key. -/
  | member {ms : List (String × Json)} {k : String} {v w : Json} {rest : List PathStep} :
      Json.lookup k ms = some v → Resolves v rest w → Resolves (.object ms) (.member k :: rest) w
  /-- An item of an array longer than the index. -/
  | item {xs : List Json} {i : Nat} {w : Json} {rest : List PathStep} (h : i < xs.length) :
      Resolves xs[i] rest w → Resolves (.array xs) (.item i :: rest) w
  /-- The wildcard keeps an array as it is. -/
  | all {xs : List Json} {w : Json} {rest : List PathStep} :
      Resolves (.array xs) rest w → Resolves (.array xs) (.all :: rest) w

theorem Json.follow_eq_some_iff {d : Json} {steps : List PathStep} {w : Json} :
    d.follow steps = some w ↔ Resolves d steps w := by
  induction steps generalizing d with
  | nil =>
    simp only [Json.follow, Option.some.injEq]
    exact ⟨fun h => h ▸ .here d, fun h => by cases h; rfl⟩
  | cons s rest ih =>
    simp only [Json.follow, Option.bind_eq_some_iff, ih]
    constructor
    · rintro ⟨v, hv, hr⟩
      cases s <;> cases d <;> simp only [Json.step, reduceCtorEq] at hv
      · exact .member hv hr
      · rename_i i xs
        obtain ⟨hi, rfl⟩ := List.getElem?_eq_some_iff.1 hv
        exact .item hi hr
      · cases hv
        exact .all hr
    · intro h
      cases h with
      | member hv hr => exact ⟨_, hv, hr⟩
      | item hi hr => exact ⟨_, List.getElem?_eq_getElem hi, hr⟩
      | all hr => exact ⟨_, rfl, hr⟩

/-! ### The stages of a JSON assertion -/

/-- The body is UTF-8 text that parses as the document `d`. -/
def BodyDocument (r : Response) (d : Json) : Prop :=
  ∃ s, Utf8.decode? r.body = some s ∧ Json.parse s = .ok d

/-- Why a body is no document: it is not UTF-8, or its text does not parse. -/
def BodyFault (r : Response) (e : Check.AssertionError) : Prop :=
  (Utf8.decode? r.body = none ∧ e = .notUtf8) ∨
    ∃ s err, Utf8.decode? r.body = some s ∧ Json.parse s = .error err ∧ e = .invalidJson err.message

/-- A path read from `p` leads from `d` to `v`. -/
def PathFinds (d : Json) (p : String) (v : Json) : Prop :=
  ∃ steps, tokenizePath p = .ok steps ∧ Resolves d steps v

/-- Why `p` leads nowhere in `d`: it cannot be read, the path as given being reported, or
the steps read find nothing. -/
def PathMisses (d : Json) (p : String) (e : Check.AssertionError) : Prop :=
  (∃ m, tokenizePath p = .error m ∧ e = .invalidJsonPath p m) ∨
    ∃ steps, tokenizePath p = .ok steps ∧ (∀ v, ¬ Resolves d steps v) ∧ e = .jsonPathNotFound p

namespace Check

theorem parseBody_eq_ok_iff {r : Response} {d : Json} : parseBody r = .ok d ↔ BodyDocument r d := by
  unfold parseBody bodyText BodyDocument
  cases hs : Utf8.decode? r.body with
  | none => simp
  | some s => simp

theorem parseBody_eq_error_iff {r : Response} {e : AssertionError} :
    parseBody r = .error e ↔ BodyFault r e := by
  unfold parseBody bodyText BodyFault
  cases hs : Utf8.decode? r.body with
  | none => simp [eq_comm]
  | some s => simp

theorem lookupPath_eq_ok_iff {d : Json} {p : String} {v : Json} :
    lookupPath d p = .ok v ↔ PathFinds d p v := by
  unfold lookupPath PathFinds
  cases ht : tokenizePath p with
  | error m => simp
  | ok steps => cases hf : d.follow steps <;> simp [← Json.follow_eq_some_iff, hf]

theorem lookupPath_eq_error_iff {d : Json} {p : String} {e : AssertionError} :
    lookupPath d p = .error e ↔ PathMisses d p e := by
  unfold lookupPath PathMisses
  cases ht : tokenizePath p with
  | error m => simp [eq_comm]
  | ok steps =>
    cases hf : d.follow steps with
    | none => simp [← Json.follow_eq_some_iff, hf, eq_comm]
    | some w => simp [← Json.follow_eq_some_iff, hf]

theorem expectedValue_eq_ok_iff {x : Encodable} {w : Json} :
    expectedValue x = .ok w ↔ x.toJson = .ok w := mapError_eq_ok

theorem expectedValue_eq_error_iff {x : Encodable} {e : AssertionError} :
    expectedValue x = .error e ↔ ∃ m, x.toJson = .error m ∧ e = .invalidJson ("expected value: " ++ m) :=
  mapError_eq_error

/-- A comparison passes when its test holds. -/
theorem compare_eq_ok {c : Bool} {e : AssertionError} :
    (if c = true then .ok () else .error e : Except AssertionError Unit) = .ok () ↔ c = true := by
  cases c <;> simp

/-- A comparison fails, with its mismatch, when its test does not hold. -/
theorem compare_eq_error {c : Bool} {e e' : AssertionError} :
    (if c = true then .ok () else .error e' : Except AssertionError Unit) = .error e ↔
      c = false ∧ e = e' := by
  cases c <;> simp [eq_comm]

namespace Assertion

theorem ofCheck_eq_ok {name : String} {check : Response → Except AssertionError Unit}
    {r : Response} : (ofCheck name check).check r = .ok () ↔ check r = .ok () :=
  mapError_eq_ok

theorem ofCheck_eq_error {name : String} {check : Response → Except AssertionError Unit}
    {r : Response} {f : Failure} :
    (ofCheck name check).check r = .error f ↔ ∃ e, check r = .error e ∧ f = .assertion e :=
  mapError_eq_error

/-- A check that is one test passes when the test holds. -/
theorem ofCheck_compare_eq_ok {name : String} {test : Response → Bool}
    {mismatch : Response → AssertionError} {r : Response} :
    (ofCheck name fun r => if test r = true then .ok () else .error (mismatch r)).check r =
        .ok () ↔ test r = true :=
  ofCheck_eq_ok.trans compare_eq_ok

/-- A check that is one test fails, with its mismatch, when the test does not hold. -/
theorem ofCheck_compare_eq_error {name : String} {test : Response → Bool}
    {mismatch : Response → AssertionError} {r : Response} {f : Failure} :
    (ofCheck name fun r => if test r = true then .ok () else .error (mismatch r)).check r =
        .error f ↔ test r = false ∧ f = .assertion (mismatch r) := by
  rw [ofCheck_eq_error]
  constructor
  · rintro ⟨e, he, rfl⟩
    obtain ⟨hno, rfl⟩ := compare_eq_error.1 he
    exact ⟨hno, rfl⟩
  · rintro ⟨hno, rfl⟩
    exact ⟨_, compare_eq_error.2 ⟨hno, rfl⟩, rfl⟩

/-- `json_path_exists` passes exactly when the body is a document in which the path finds
a value. -/
theorem jsonPathExists_eq_ok_iff {r : Response} {p : String} :
    (jsonPathExists p).check r = .ok () ↔ ∃ d, BodyDocument r d ∧ ∃ v, PathFinds d p v := by
  simp only [jsonPathExists, ofCheck_eq_ok, bind_eq_ok, map_eq_ok, parseBody_eq_ok_iff,
    lookupPath_eq_ok_iff, and_true]

/-- `json_path_exists` fails when the body is no document, and else when the path leads
nowhere in it. -/
theorem jsonPathExists_eq_error_iff {r : Response} {p : String} {f : Failure} :
    (jsonPathExists p).check r = .error f ↔
      ∃ e, (BodyFault r e ∨ ∃ d, BodyDocument r d ∧ PathMisses d p e) ∧ f = .assertion e := by
  simp only [jsonPathExists, ofCheck_eq_error, bind_eq_error, map_eq_error,
    parseBody_eq_error_iff, parseBody_eq_ok_iff, lookupPath_eq_error_iff]

/-- `json_path` passes exactly when the expected value is JSON, the body is a document,
and the path finds in it a value equal to the expected one. -/
theorem jsonPath_eq_ok_iff {r : Response} {p : String} {x : Encodable} :
    (jsonPath p x).check r = .ok () ↔ ∃ w, x.toJson = .ok w ∧ ∃ d, BodyDocument r d ∧
      ∃ v, PathFinds d p v ∧ v.sameAs w = true := by
  simp only [jsonPath, ofCheck_eq_ok, bind_eq_ok, expectedValue_eq_ok_iff, parseBody_eq_ok_iff,
    lookupPath_eq_ok_iff, compare_eq_ok]

/-- `json_path` fails with the first stage that fails: the expected value, the body, the
path, and last the comparison. -/
theorem jsonPath_eq_error_iff {r : Response} {p : String} {x : Encodable} {f : Failure} :
    (jsonPath p x).check r = .error f ↔ ∃ e, ((∃ m, x.toJson = .error m ∧
        e = .invalidJson ("expected value: " ++ m)) ∨
      ∃ w, x.toJson = .ok w ∧ (BodyFault r e ∨ ∃ d, BodyDocument r d ∧ (PathMisses d p e ∨
        ∃ v, PathFinds d p v ∧ v.sameAs w = false ∧ e = .jsonMismatch p w.render v.render))) ∧
      f = .assertion e := by
  simp only [jsonPath, ofCheck_eq_error, bind_eq_error, expectedValue_eq_error_iff,
    expectedValue_eq_ok_iff, parseBody_eq_error_iff, parseBody_eq_ok_iff, lookupPath_eq_error_iff,
    lookupPath_eq_ok_iff, compare_eq_error]

/-- `json_equals` passes exactly when the expected value is JSON and the body is a document
equal to it. -/
theorem jsonEquals_eq_ok_iff {r : Response} {x : Encodable} :
    (jsonEquals x).check r = .ok () ↔
      ∃ w, x.toJson = .ok w ∧ ∃ d, BodyDocument r d ∧ d.sameAs w = true := by
  simp only [jsonEquals, ofCheck_eq_ok, bind_eq_ok, expectedValue_eq_ok_iff, parseBody_eq_ok_iff,
    compare_eq_ok]

/-- `json_equals` fails with the first stage that fails: the expected value, the body, and
last the comparison, reported at `$`. -/
theorem jsonEquals_eq_error_iff {r : Response} {x : Encodable} {f : Failure} :
    (jsonEquals x).check r = .error f ↔ ∃ e, ((∃ m, x.toJson = .error m ∧
        e = .invalidJson ("expected value: " ++ m)) ∨
      ∃ w, x.toJson = .ok w ∧ (BodyFault r e ∨
        ∃ d, BodyDocument r d ∧ d.sameAs w = false ∧ e = .jsonMismatch "$" w.render d.render)) ∧
      f = .assertion e := by
  simp only [jsonEquals, ofCheck_eq_error, bind_eq_error, expectedValue_eq_error_iff,
    expectedValue_eq_ok_iff, parseBody_eq_error_iff, parseBody_eq_ok_iff, compare_eq_error]

/-- The JSON assertions on any body, path and expected value: `json_path_exists` passes
exactly when the body is a document in which the path finds a value, `json_path` when
moreover that value equals the expected one, `json_equals` when the document does; each
fails with the first stage that fails, in the order the expected value, the body as
text, the body as a document, the path, the comparison. -/
theorem json_assertions_check_in_order :
    (∀ r p, (jsonPathExists p).check r = .ok () ↔ ∃ d, BodyDocument r d ∧ ∃ v, PathFinds d p v) ∧
    (∀ r p f, (jsonPathExists p).check r = .error f ↔
      ∃ e, (BodyFault r e ∨ ∃ d, BodyDocument r d ∧ PathMisses d p e) ∧ f = .assertion e) ∧
    (∀ r p x, (jsonPath p x).check r = .ok () ↔ ∃ w, x.toJson = .ok w ∧ ∃ d, BodyDocument r d ∧
      ∃ v, PathFinds d p v ∧ v.sameAs w = true) ∧
    (∀ r p x f, (jsonPath p x).check r = .error f ↔ ∃ e, ((∃ m, x.toJson = .error m ∧
        e = .invalidJson ("expected value: " ++ m)) ∨
      ∃ w, x.toJson = .ok w ∧ (BodyFault r e ∨ ∃ d, BodyDocument r d ∧ (PathMisses d p e ∨
        ∃ v, PathFinds d p v ∧ v.sameAs w = false ∧ e = .jsonMismatch p w.render v.render))) ∧
      f = .assertion e) ∧
    (∀ r x, (jsonEquals x).check r = .ok () ↔
      ∃ w, x.toJson = .ok w ∧ ∃ d, BodyDocument r d ∧ d.sameAs w = true) ∧
    (∀ r x f, (jsonEquals x).check r = .error f ↔ ∃ e, ((∃ m, x.toJson = .error m ∧
        e = .invalidJson ("expected value: " ++ m)) ∨
      ∃ w, x.toJson = .ok w ∧ (BodyFault r e ∨
        ∃ d, BodyDocument r d ∧ d.sameAs w = false ∧ e = .jsonMismatch "$" w.render d.render)) ∧
      f = .assertion e) :=
  ⟨fun _ _ => jsonPathExists_eq_ok_iff, fun _ _ _ => jsonPathExists_eq_error_iff,
    fun _ _ _ => jsonPath_eq_ok_iff, fun _ _ _ _ => jsonPath_eq_error_iff,
    fun _ _ => jsonEquals_eq_ok_iff, fun _ _ _ => jsonEquals_eq_error_iff⟩

-- The comparison keeps the kinds of numbers apart: `1` does not equal `1.0`.
example : (Json.number (.natural 1)).sameAs (.number (.float (Binary64.ofNat 1))) = false := rfl

end Assertion

end Check

end HttpCheck
