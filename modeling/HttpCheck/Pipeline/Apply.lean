import HttpCheck.Pipeline.Error
/-!
# Applying steps

Builders run in order on one request held in place; the first failure stops them and
names the builder. Nothing is rolled back: the request keeps what the builders before the
failure wrote, and whatever the failing builder wrote before it failed. Assertions all
run, in order, whatever the earlier ones found, and every failure is collected.

The pipeline goes on with the request only when every builder succeeded
(`applyBuilders`).
-/
namespace HttpCheck.Pipeline

open HttpCheck.Http HttpCheck.Check

/-- Applies builders in order to a request held in place, stopping at the first failure:
the request as the builders left it, and whether they all succeeded. -/
def applyBuildersInPlace (req : Request) : List Builder → Request × Except PipelineError Unit
  | [] => (req, .ok ())
  | b :: rest =>
    match b.apply req with
    | (req', .error e) => (req', .error (.builder b.name e))
    | (req', .ok ()) => applyBuildersInPlace req' rest

/-- The request the builders made, for a caller that goes on with it only when every
builder succeeded. -/
def applyBuilders (req : Request) (bs : List Builder) : Except PipelineError Request :=
  match applyBuildersInPlace req bs with
  | (q, .ok ()) => .ok q
  | (_, .error e) => .error e

/-- Runs every assertion and collects the failures, in order. -/
def applyAssertions (resp : Response) (assertions : List Assertion) : List AssertionFailure :=
  assertions.filterMap fun a =>
    match a.check resp with
    | .ok () => none
    | .error e => some ⟨a.name, e⟩

section Steps

variable {req mid q : Request} {b : Builder} {s : Failure}

@[simp] theorem applyBuildersInPlace_nil (req : Request) :
    applyBuildersInPlace req [] = (req, .ok ()) := rfl

theorem applyBuildersInPlace_cons_ok (rest : List Builder) (h : b.apply req = (mid, .ok ())) :
    applyBuildersInPlace req (b :: rest) = applyBuildersInPlace mid rest := by
  simp only [applyBuildersInPlace, h]

theorem applyBuildersInPlace_cons_error (rest : List Builder) (h : b.apply req = (q, .error s)) :
    applyBuildersInPlace req (b :: rest) = (q, .error (.builder b.name s)) := by
  simp only [applyBuildersInPlace, h]

@[simp] theorem applyBuilders_nil (req : Request) : applyBuilders req [] = .ok req := rfl

theorem applyBuilders_cons_ok (rest : List Builder) (h : b.apply req = (mid, .ok ())) :
    applyBuilders req (b :: rest) = applyBuilders mid rest := by
  rw [applyBuilders, applyBuildersInPlace_cons_ok rest h]
  rfl

theorem applyBuilders_cons_error (rest : List Builder) (h : b.apply req = (q, .error s)) :
    applyBuilders req (b :: rest) = .error (.builder b.name s) := by
  rw [applyBuilders, applyBuildersInPlace_cons_error rest h]

end Steps

theorem applyBuilders_append (req : Request) (bs cs : List Builder) :
    applyBuilders req (bs ++ cs) = (applyBuilders req bs).bind (applyBuilders · cs) := by
  induction bs generalizing req with
  | nil => rfl
  | cons b rest ih =>
    rcases hb : b.apply req with ⟨mid, s | ⟨⟩⟩
    · rw [List.cons_append, applyBuilders_cons_error _ hb, applyBuilders_cons_error _ hb]
      rfl
    · rw [List.cons_append, applyBuilders_cons_ok _ hb, applyBuilders_cons_ok _ hb]
      exact ih mid

end HttpCheck.Pipeline
