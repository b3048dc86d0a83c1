import HttpCheck.Pipeline.Assertable
import HttpCheck.Proofs.Except
/-!
# What a pipeline run reports

A run creates a request, applies the builders, hands the request to the executor, then
invokes the assertable with a script of assertion lists and ends by dropping it or taking
its result. The stages are stated as a relation (`Stages`): creation fails, or the
builders succeed one after another (`Applies`) up to the first that fails, or the
executor answers the request all of them built. A run ends where its stages lead, and a
recording reporter then holds exactly `expectedRecording`: a helper mark for the request
and one per invocation; for a response, one message per failing assertion of each
invocation; for an error, the error and an abort per invocation, and the error once at the
drop of an assertable that was never invoked.

Builders applied to a request held in place (`applyBuildersInPlace`) leave it as the
builders before the first failure and the failing builder itself left it: nothing is
rolled back. A list is applied as its first part and then, after a success only, the rest
(`continueWith`), hence one builder at a time; the pipeline's application reads the same
run.
-/
namespace HttpCheck.Pipeline

open HttpCheck.Http HttpCheck.Check

/-! ### Builders applied in order -/

/-- The builders all succeed, in order, each on the request the previous one left,
taking `req` to `req'`. -/
inductive Applies : Request → List Builder → Request → Prop
  | nil (req : Request) : Applies req [] req
  | cons {req mid req' : Request} {b : Builder} {bs : List Builder} :
      b.apply req = (mid, .ok ()) → Applies mid bs req' → Applies req (b :: bs) req'

theorem applies_nil_iff {req q : Request} : Applies req [] q ↔ req = q := by
  constructor
  · rintro ⟨⟩
    rfl
  · rintro rfl
    exact .nil req

theorem applies_cons_iff {req q : Request} {b : Builder} {bs : List Builder} :
    Applies req (b :: bs) q ↔ ∃ mid, b.apply req = (mid, .ok ()) ∧ Applies mid bs q := by
  constructor
  · rintro (_ | ⟨hb, hrest⟩)
    exact ⟨_, hb, hrest⟩
  · rintro ⟨mid, hb, hrest⟩
    exact .cons hb hrest

theorem applyBuildersInPlace_eq_ok_iff {req q : Request} {bs : List Builder} :
    applyBuildersInPlace req bs = (q, .ok ()) ↔ Applies req bs q := by
  induction bs generalizing req with
  | nil => simp [applies_nil_iff]
  | cons b bs ih =>
    rw [applies_cons_iff]
    rcases hb : b.apply req with ⟨mid, s | ⟨⟩⟩
    · -- a failing first builder ends the run, and no success starts with it
      rw [applyBuildersInPlace_cons_error bs hb]
      simp
    · rw [applyBuildersInPlace_cons_ok bs hb, ih]
      simp

theorem applyBuilders_eq_ok_iff {req q : Request} {bs : List Builder} :
    applyBuilders req bs = .ok q ↔ Applies req bs q := by
  rw [← applyBuildersInPlace_eq_ok_iff, applyBuilders]
  rcases applyBuildersInPlace req bs with ⟨q', e | ⟨⟩⟩ <;> simp

theorem applyBuilders_eq_error_iff {req : Request} {bs : List Builder} {err : PipelineError} :
    applyBuilders req bs = .error err ↔ ∃ q, applyBuildersInPlace req bs = (q, .error err) := by
  rw [applyBuilders]
  rcases applyBuildersInPlace req bs with ⟨q', e | ⟨⟩⟩ <;> simp

/-! ### Builders applied in place -/

/-- Goes on from where a run in place stopped with more builders, only if it succeeded so
far; a failed run keeps its request and its error. -/
def continueWith : Request × Except PipelineError Unit → List Builder →
    Request × Except PipelineError Unit
  | (q, .ok ()), cs => applyBuildersInPlace q cs
  | (q, .error e), _ => (q, .error e)

@[simp] theorem continueWith_nil (run : Request × Except PipelineError Unit) :
    continueWith run [] = run := by
  obtain ⟨q, _ | _⟩ := run <;> rfl

theorem applyBuildersInPlace_append (req : Request) (bs cs : List Builder) :
    applyBuildersInPlace req (bs ++ cs) = continueWith (applyBuildersInPlace req bs) cs := by
  induction bs generalizing req with
  | nil => rfl
  | cons b rest ih =>
    rcases hb : b.apply req with ⟨mid, s | ⟨⟩⟩
    · rw [List.cons_append, applyBuildersInPlace_cons_error _ hb,
        applyBuildersInPlace_cons_error _ hb]
      rfl
    · rw [List.cons_append, applyBuildersInPlace_cons_ok _ hb, applyBuildersInPlace_cons_ok _ hb]
      exact ih mid

theorem continueWith_append (run : Request × Except PipelineError Unit) (bs cs : List Builder) :
    continueWith (continueWith run bs) cs = continueWith run (bs ++ cs) := by
  obtain ⟨q, _ | _⟩ := run
  · rfl
  · exact (applyBuildersInPlace_append q bs cs).symm

/-- Applying builders one at a time, each only while all before it succeeded, is applying
the list. -/
theorem foldl_continueWith (run : Request × Except PipelineError Unit) (bs : List Builder) :
    bs.foldl (fun run b => continueWith run [b]) run = continueWith run bs := by
  induction bs generalizing run with
  | nil => simp
  | cons b rest ih => rw [List.foldl_cons, ih, continueWith_append, List.singleton_append]

/-- A failure keeps the request the failing builder left, on the request the builders
before it made, whatever comes after. -/
theorem applyBuildersInPlace_first_failure {req mid q : Request} {pre : List Builder}
    {b : Builder} {s : Failure} (hpre : Applies req pre mid) (hb : b.apply mid = (q, .error s))
    (post : List Builder) :
    applyBuildersInPlace req (pre ++ b :: post) = (q, .error (.builder b.name s)) := by
  rw [applyBuildersInPlace_append, applyBuildersInPlace_eq_ok_iff.2 hpre]
  exact applyBuildersInPlace_cons_error post hb

theorem exists_first_failure_inPlace {req q : Request} {bs : List Builder} {err : PipelineError}
    (h : applyBuildersInPlace req bs = (q, .error err)) :
    ∃ pre b post mid s, bs = pre ++ b :: post ∧ Applies req pre mid ∧
      b.apply mid = (q, .error s) ∧ err = .builder b.name s := by
  induction bs generalizing req with
  | nil => simp at h
  | cons b bs ih =>
    rcases hb : b.apply req with ⟨mid, s | ⟨⟩⟩
    · rw [applyBuildersInPlace_cons_error bs hb, Prod.mk.injEq, Except.error.injEq] at h
      obtain ⟨rfl, rfl⟩ := h
      exact ⟨[], b, bs, req, s, rfl, .nil req, hb, rfl⟩
    · rw [applyBuildersInPlace_cons_ok bs hb] at h
      obtain ⟨pre, b', post, mid', s, rfl, hpre, hb', rfl⟩ := ih h
      exact ⟨b :: pre, b', post, mid', s, rfl, .cons hb hpre, hb', rfl⟩

/-- The first failing builder decides the error; the builders after it do not matter. -/
theorem applyBuilders_first_failure {req mid q : Request} {pre post : List Builder} {b : Builder}
    {s : Failure} (hpre : Applies req pre mid) (hb : b.apply mid = (q, .error s)) :
    applyBuilders req (pre ++ b :: post) = .error (.builder b.name s) :=
  applyBuilders_eq_error_iff.2 ⟨q, applyBuildersInPlace_first_failure hpre hb post⟩

/-- Builders applied in place run in list order, each on the request the ones before it
left. A list split in two is its first part followed, only after a success, by the second
on the request that part left, and so one builder at a time. A failure names the first
builder that fails with its error and keeps the request as that builder left it, on the
request the builders before it made: nothing they or it wrote is undone, and the builders
after it play no part. The pipeline's application splits the same way. -/
theorem builders_apply_in_order :
    (∀ req bs cs, applyBuildersInPlace req (bs ++ cs) =
      continueWith (applyBuildersInPlace req bs) cs) ∧
    (∀ req bs cs,
      applyBuilders req (bs ++ cs) = (applyBuilders req bs).bind (applyBuilders · cs)) ∧
    (∀ req bs,
      applyBuildersInPlace req bs = bs.foldl (fun run b => continueWith run [b]) (req, .ok ())) ∧
    (∀ req bs q, applyBuildersInPlace req bs = (q, .ok ()) ↔ Applies req bs q) ∧
    (∀ req bs q err, applyBuildersInPlace req bs = (q, .error err) ↔
      ∃ pre b post mid s, bs = pre ++ b :: post ∧ Applies req pre mid ∧
        b.apply mid = (q, .error s) ∧ err = .builder b.name s) := by
  refine ⟨applyBuildersInPlace_append, applyBuilders_append, fun _ _ => ?_,
    fun _ _ _ => applyBuildersInPlace_eq_ok_iff,
    fun _ _ _ _ => ⟨exists_first_failure_inPlace, ?_⟩⟩
  · rw [foldl_continueWith]
    rfl
  · rintro ⟨pre, b, post, mid, s, rfl, hpre, hb, rfl⟩
    exact applyBuildersInPlace_first_failure hpre hb post

-- A builder that writes and then fails leaves what it wrote, and the next one never runs.
example : applyBuildersInPlace default
      [⟨"write", fun r => ({ r with body := [1] }, .error (.text "late"))⟩,
        ⟨"never", fun r => ({ r with body := [2] }, .ok ())⟩] =
    ({ (default : Request) with body := [1] }, .error (.builder "write" (.text "late"))) := rfl

/-! ### The stages of a run -/

/-- Where the stages of a run lead: the request cannot be created; a builder fails after
the ones before it succeeded; or the executor answers the request all builders built. -/
inductive Stages (exec : Executor) (method uri : Bytes) (builders : List Builder) :
    Outcome → Prop
  | construction {e : RequestError} :
      Request.new method uri = .error e →
      Stages exec method uri builders (.poisoned (.construction e))
  | builder {req mid q : Request} {pre post : List Builder} {b : Builder} {s : Failure} :
      Request.new method uri = .ok req → builders = pre ++ b :: post → Applies req pre mid →
      b.apply mid = (q, .error s) → Stages exec method uri builders (.poisoned (.builder b.name s))
  | execute {req q : Request} {e : ExecuteError} :
      Request.new method uri = .ok req → Applies req builders q → exec q = .error e →
      Stages exec method uri builders (.poisoned (.execute e))
  | ready {req q : Request} {r : Response} :
      Request.new method uri = .ok req → Applies req builders q → exec q = .ok r →
      Stages exec method uri builders (.ready r)

/-- The outcome of a result. -/
def Outcome.ofResult : Except PipelineError Response → Outcome
  | .ok r => .ready r
  | .error e => .poisoned e

theorem makeRequest_fst (exec : Executor) (method uri : Bytes) (builders : List Builder) :
    (makeRequest exec method uri builders).1 =
      ⟨Outcome.ofResult (run exec method uri builders), false⟩ := by
  simp only [makeRequest]
  cases run exec method uri builders <;> rfl

theorem run_of_construction {exec : Executor} {method uri : Bytes} {builders : List Builder}
    {e : RequestError} (h : Request.new method uri = .error e) :
    run exec method uri builders = .error (.construction e) := by
  simp [run, prepare, h, bind, Except.bind]

theorem run_of_created {exec : Executor} {method uri : Bytes} {builders : List Builder}
    {req : Request} (h : Request.new method uri = .ok req) :
    run exec method uri builders =
      (applyBuilders req builders).bind fun q => (exec q).mapError .execute := by
  simp [run, prepare, h, bind, Except.bind]

/-- Each stage leads to the outcome the run computes. -/
theorem outcome_of_stages {exec : Executor} {method uri : Bytes} {builders : List Builder}
    {o : Outcome} (h : Stages exec method uri builders o) :
    Outcome.ofResult (run exec method uri builders) = o := by
  cases h with
  | construction he => rw [run_of_construction he]; rfl
  | builder hreq hsplit hpre hb =>
    rw [run_of_created hreq, hsplit, applyBuilders_first_failure hpre hb]
    rfl
  | execute hreq happ he =>
    rw [run_of_created hreq, applyBuilders_eq_ok_iff.2 happ]
    simp [Except.bind, he, Outcome.ofResult]
  | ready hreq happ hr =>
    rw [run_of_created hreq, applyBuilders_eq_ok_iff.2 happ]
    simp [Except.bind, hr, Outcome.ofResult]

/-- The stages always lead somewhere. -/
theorem stages_of_run (exec : Executor) (method uri : Bytes) (builders : List Builder) :
    Stages exec method uri builders (Outcome.ofResult (run exec method uri builders)) := by
  cases hreq : Request.new method uri with
  | error e =>
    rw [run_of_construction hreq]
    exact .construction hreq
  | ok req =>
    rw [run_of_created hreq]
    cases happ : applyBuilders req builders with
    | error err =>
      obtain ⟨q, hrun⟩ := applyBuilders_eq_error_iff.1 happ
      obtain ⟨pre, b, post, mid, s, hsplit, hpre, hb, rfl⟩ := exists_first_failure_inPlace hrun
      exact .builder hreq hsplit hpre hb
    | ok q =>
      have hq := applyBuilders_eq_ok_iff.1 happ
      cases hex : exec q with
      | error e => simpa [Except.bind, hex, Outcome.ofResult] using
          Stages.execute hreq hq hex
      | ok r => simpa [Except.bind, hex, Outcome.ofResult] using
          Stages.ready hreq hq hex

/-! ### Invocations and the end of a run -/

/-- How a test ends its use of an assertable. -/
inductive Ending where
  /-- The assertable is dropped. -/
  | drop
  /-- Its result is taken, which consumes it. -/
  | intoResult
  deriving DecidableEq, Repr

/-- Invokes an assertable with each list of assertions in turn: the assertable after
them and what the reporter was told, in order. -/
def invokeAll (a : Assertable) : List (List Assertion) → Assertable × List ReportEvent
  | [] => (a, [])
  | asserts :: rest =>
    let tail := invokeAll (a.expectIt asserts).1 rest
    (tail.1, (a.expectIt asserts).2 ++ tail.2)

/-- What a whole run tells the reporter, and the result when it is taken. -/
def runEvents (exec : Executor) (method uri : Bytes) (builders : List Builder)
    (script : List (List Assertion)) (ending : Ending) :
    List ReportEvent × Option (Except PipelineError Response) :=
  let made := makeRequest exec method uri builders
  let invoked := invokeAll made.1 script
  match ending with
  | .drop => (made.2 ++ invoked.2 ++ invoked.1.drop, none)
  | .intoResult => (made.2 ++ invoked.2, some invoked.1.intoResult)

/-- A whole run on a fresh recording reporter: what it holds at the end, and the result
when it is taken. -/
def recordRun (exec : Executor) (method uri : Bytes) (builders : List Builder)
    (script : List (List Assertion)) (ending : Ending) :
    Recording × Option (Except PipelineError Response) :=
  let run := runEvents exec method uri builders script ending
  (Recording.empty.recordAll run.1, run.2)

/-- The messages of the assertions that fail on a response, each written
`httpx: assertion <name> failed: <error>`. -/
def failingMessages (r : Response) (asserts : List Assertion) : List String :=
  asserts.filterMap fun a =>
    match a.check r with
    | .ok () => none
    | .error e => some ("httpx: assertion " ++ a.name ++ " failed: " ++ e.message)

/-- What a recording reporter holds after a run that ends in `o`: the failing assertions
of every invocation of a response; for an error, the error once per invocation, or once
at the drop when there was none, and an abort per invocation. -/
def expectedRecording (o : Outcome) (script : List (List Assertion)) (ending : Ending) :
    Recording :=
  match o with
  | .ready r => ⟨script.flatMap (failingMessages r), 0, script.length + 1⟩
  | .poisoned e =>
    ⟨List.replicate (if script = [] ∧ ending = .drop then 1 else script.length)
        ("httpx: " ++ e.message), script.length, script.length + 1⟩

/-- The result a run hands back: nothing when the assertable is dropped. -/
def expectedResult (o : Outcome) : Ending → Option (Except PipelineError Response)
  | .drop => none
  | .intoResult => some (match o with
    | .ready r => .ok r
    | .poisoned e => .error e)

namespace Recording

@[simp] theorem recordAll_nil (r : Recording) : r.recordAll [] = r := rfl

@[simp] theorem recordAll_cons (r : Recording) (e : ReportEvent) (es : List ReportEvent) :
    r.recordAll (e :: es) = (r.record e).recordAll es := rfl

theorem recordAll_append (r : Recording) (es es' : List ReportEvent) :
    r.recordAll (es ++ es') = (r.recordAll es).recordAll es' := by
  simp [recordAll, List.foldl_append]

theorem recordAll_failures (r : Recording) (msgs : List String) :
    r.recordAll (msgs.map .failure) = { r with messages := r.messages ++ msgs } := by
  induction msgs generalizing r with
  | nil => simp
  | cons m msgs ih => simp [ih, record]

end Recording

theorem failure_messages_of_response (r : Response) (asserts : List Assertion) :
    (applyAssertions r asserts).map (fun f => reportText f.message) =
      failingMessages r asserts := by
  induction asserts with
  | nil => rfl
  | cons a rest ih =>
    simp only [applyAssertions, failingMessages, List.filterMap_cons] at ih ⊢
    cases a.check r with
    | ok u => exact ih
    | error e =>
      rw [List.map_cons, ih]
      simp only [reportText, AssertionFailure.message, String.append_assoc]
      rw [← String.append_assoc]
      rfl

@[simp] theorem expectIt_fst (a : Assertable) (asserts : List Assertion) :
    (a.expectIt asserts).1 = { a with invoked := true } := rfl

/-- One invocation, as a recording reporter sees it. -/
theorem recordAll_expectIt (r : Recording) (a : Assertable) (asserts : List Assertion) :
    r.recordAll (a.expectIt asserts).2 =
      match a.outcome with
      | .ready resp => ⟨r.messages ++ failingMessages resp asserts, r.aborts, r.helperCalls + 1⟩
      | .poisoned e => ⟨r.messages ++ ["httpx: " ++ e.message], r.aborts + 1, r.helperCalls + 1⟩ := by
  simp only [Assertable.expectIt]
  cases a.outcome with
  | ready resp =>
    have hmap : (applyAssertions resp asserts).map (fun f => ReportEvent.failure (reportText f.message)) =
        ((applyAssertions resp asserts).map fun f => reportText f.message).map .failure := by
      simp
    dsimp only
    rw [Recording.recordAll_cons, hmap, Recording.recordAll_failures,
      failure_messages_of_response]
    rfl
  | poisoned e => rfl

theorem invokeAll_fst (a : Assertable) (script : List (List Assertion)) :
    (invokeAll a script).1 = if script = [] then a else { a with invoked := true } := by
  induction script generalizing a with
  | nil => rfl
  | cons asserts rest ih =>
    simp only [invokeAll, ih, expectIt_fst]
    split <;> simp

@[simp] theorem invokeAll_outcome (a : Assertable) (script : List (List Assertion)) :
    (invokeAll a script).1.outcome = a.outcome := by
  rw [invokeAll_fst]
  split <;> rfl

/-- A whole script of invocations, as a recording reporter sees it: the outcome never
changes, so every invocation reports the same way. -/
theorem recordAll_invokeAll (r : Recording) (a : Assertable) (script : List (List Assertion)) :
    r.recordAll (invokeAll a script).2 =
      match a.outcome with
      | .ready resp => ⟨r.messages ++ script.flatMap (failingMessages resp), r.aborts,
          r.helperCalls + script.length⟩
      | .poisoned e => ⟨r.messages ++ List.replicate script.length ("httpx: " ++ e.message),
          r.aborts + script.length, r.helperCalls + script.length⟩ := by
  induction script generalizing a r with
  | nil => cases a.outcome <;> simp [invokeAll]
  | cons asserts rest ih =>
    simp only [invokeAll, Recording.recordAll_append, recordAll_expectIt, ih, expectIt_fst]
    cases a.outcome with
    | ready resp => simp [List.flatMap_cons, List.append_assoc]; omega
    | poisoned e => simp [List.replicate_succ, List.append_assoc]; omega

@[simp] theorem makeRequest_snd (exec : Executor) (method uri : Bytes) (builders : List Builder) :
    (makeRequest exec method uri builders).2 = [.helper] := rfl

/-- What an assertable reports when dropped after a script: only a poisoned one that the
script never invoked reports, once. -/
theorem drop_after_script (o : Outcome) (script : List (List Assertion)) :
    (invokeAll ⟨o, false⟩ script).1.drop =
      match o with
      | .ready _ => []
      | .poisoned e => if script = [] then [.failure (reportText e.message)] else [] := by
  rw [invokeAll_fst]
  cases o <;> by_cases hs : script = [] <;> simp [hs, Assertable.drop]

/-- A run ends where its stages lead, holding the outcome uninvoked, and a fresh
recording reporter then holds exactly the expected messages, aborts and helper marks;
taking the result gives the response or the error, dropping gives nothing back. -/
theorem run_records_its_stages (exec : Executor) (method uri : Bytes) (builders : List Builder)
    (script : List (List Assertion)) (ending : Ending) :
    (∃ o, Stages exec method uri builders o) ∧
    ∀ o, Stages exec method uri builders o →
      (makeRequest exec method uri builders).1 = ⟨o, false⟩ ∧
      recordRun exec method uri builders script ending =
        (expectedRecording o script ending, expectedResult o ending) := by
  refine ⟨⟨_, stages_of_run exec method uri builders⟩, fun o h => ?_⟩
  have hmade : (makeRequest exec method uri builders).1 = ⟨o, false⟩ := by
    rw [makeRequest_fst, outcome_of_stages h]
  refine ⟨hmade, ?_⟩
  -- making the request marks one helper; the script and the ending do the rest
  have hstart : Recording.empty.recordAll [.helper] = ⟨[], 0, 1⟩ := rfl
  cases ending with
  | drop =>
    simp only [recordRun, runEvents, hmade, makeRequest_snd, Recording.recordAll_append, hstart,
      recordAll_invokeAll, drop_after_script]
    cases o with
    | ready r => simp [expectedRecording, expectedResult]; omega
    | poisoned e =>
      by_cases hs : script = []
      · subst hs
        simp [expectedRecording, expectedResult, Recording.record, reportText]
      · simp [hs, expectedRecording, expectedResult]; omega
  | intoResult =>
    simp only [recordRun, runEvents, hmade, makeRequest_snd, Recording.recordAll_append, hstart,
      recordAll_invokeAll]
    cases o <;> simp [expectedRecording, expectedResult, Assertable.intoResult, invokeAll_outcome]
      <;> omega

end HttpCheck.Pipeline
