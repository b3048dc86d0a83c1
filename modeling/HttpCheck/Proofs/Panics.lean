import HttpCheck.Proofs.Pipeline
/-!
# When a test reporter panics

A test reporter keeps the failures reported to it. Aborting takes them and panics with
their summary; dropping the reporter panics the same way when some remain. Cut the calls
made on a reporter at its aborts: with each abort's panic caught, the panics are the
summaries of the pieces, one per abort, then the last piece's at the drop when it holds a
message. In a test, where the first panic ends it, a pipeline run panics exactly when it
reported a failure, and a poisoned request panics once: at its first invocation, or at
the drop of the reporter when it was only dropped.
-/
namespace HttpCheck.Pipeline

open HttpCheck.Http HttpCheck.Check

/-- The messages of some calls, in order. -/
def messages : List ReportEvent → List String
  | [] => []
  | .failure m :: rest => m :: messages rest
  | _ :: rest => messages rest

@[simp] theorem messages_nil : messages [] = [] := rfl

@[simp] theorem messages_cons_failure (m : String) (rest : List ReportEvent) :
    messages (.failure m :: rest) = m :: messages rest := rfl

@[simp] theorem messages_cons_abort (rest : List ReportEvent) :
    messages (.abort :: rest) = messages rest := rfl

@[simp] theorem messages_cons_helper (rest : List ReportEvent) :
    messages (.helper :: rest) = messages rest := rfl

@[simp] theorem messages_append (es es' : List ReportEvent) :
    messages (es ++ es') = messages es ++ messages es' := by
  induction es with
  | nil => rfl
  | cons e es ih => cases e <;> simp [ih]

/-- The text a test reporter panics with for some messages: its name and a colon when it
has one, how many there are, then each message on a line of its own after two spaces and
a dash. -/
def panicText (name : Option String) (ms : List String) : String :=
  (match name with
    | some n => n ++ ": "
    | none => "") ++ natText ms.length ++ " failure(s) reported" ++
    String.join (ms.map fun m => "\n  - " ++ m)

/-- Calls cut at their aborts: the pieces, each followed by its abort, then the calls after
the last abort. -/
def cutAt (segs : List (List ReportEvent)) (last : List ReportEvent) : List ReportEvent :=
  (segs.map (· ++ [.abort])).flatten ++ last

/-- Every sequence of calls is cut at its aborts, into pieces without one. -/
theorem exists_cutAt (es : List ReportEvent) :
    ∃ segs last, (∀ s ∈ segs, ReportEvent.abort ∉ s) ∧ ReportEvent.abort ∉ last ∧
      es = cutAt segs last := by
  induction es with
  | nil => exact ⟨[], [], by simp, by simp, rfl⟩
  | cons e es ih =>
    obtain ⟨segs, last, hsegs, hlast, rfl⟩ := ih
    cases e with
    | abort =>
      -- an abort closes an empty piece in front
      refine ⟨[] :: segs, last, ?_, hlast, rfl⟩
      intro s hs
      rcases List.mem_cons.1 hs with rfl | hs
      · simp
      · exact hsegs s hs
    | failure m | helper =>
      -- any other call joins the first piece, or the calls after the last abort
      cases segs with
      | nil => exact ⟨[], _ :: last, by simp, by simpa using hlast, rfl⟩
      | cons s segs =>
        refine ⟨(_ :: s) :: segs, last, ?_, hlast, rfl⟩
        intro t ht
        rcases List.mem_cons.1 ht with rfl | ht
        · simpa using hsegs s List.mem_cons_self
        · exact hsegs t (List.mem_cons_of_mem _ ht)

/-- Each reported message lies in exactly one piece, in report order. -/
theorem messages_cutAt (segs : List (List ReportEvent)) (last : List ReportEvent) :
    messages (cutAt segs last) = (segs.map messages).flatten ++ messages last := by
  induction segs with
  | nil => simp [cutAt]
  | cons s segs ih =>
    simp only [cutAt] at ih
    simp [cutAt, ih, List.append_assoc]

namespace TestReporter

theorem summary_eq (r : TestReporter) (ms : List String) :
    r.summary ms = panicText r.name ms := by
  cases hn : r.name <;> simp [summary, panicText, hn, String.append_assoc]

/-- The panics of calls on a reporter when each abort's panic is caught, the reporter
being dropped at the end. -/
def panics (r : TestReporter) : List ReportEvent → List String
  | [] => r.drop.toList
  | .failure m :: rest => (r.report m).panics rest
  | .abort :: rest => r.abort.2 :: r.abort.1.panics rest
  | .helper :: rest => r.panics rest

theorem panics_nil (r : TestReporter) :
    r.panics [] = if r.failures = [] then [] else [panicText r.name r.failures] := by
  by_cases h : r.failures = [] <;> simp [panics, drop, h, summary_eq]

theorem panics_abort (r : TestReporter) (rest : List ReportEvent) :
    r.panics (.abort :: rest) =
      panicText r.name r.failures :: ({ r with failures := [] } : TestReporter).panics rest := by
  simp [panics, abort, summary_eq]

/-- Calls without an abort only add their messages to the pending ones. -/
theorem panics_append_of_not_abort (r : TestReporter) {s : List ReportEvent}
    (hs : ReportEvent.abort ∉ s) (rest : List ReportEvent) :
    r.panics (s ++ rest) = ({ r with failures := r.failures ++ messages s } : TestReporter).panics rest := by
  induction s generalizing r with
  | nil => simp
  | cons e s ih =>
    have hs' : ReportEvent.abort ∉ s := fun h => hs (List.mem_cons_of_mem _ h)
    cases e with
    | failure m => simp [panics, ih _ hs', report]
    | abort => exact absurd List.mem_cons_self hs
    | helper => simp [panics, ih _ hs']

/-- With nothing pending at first, calls cut at their aborts panic with the summary of each
piece, then with that of the calls after the last abort when they report something. -/
theorem panics_cutAt (r : TestReporter) (hr : r.failures = [])
    (segs : List (List ReportEvent)) (last : List ReportEvent)
    (hsegs : ∀ s ∈ segs, ReportEvent.abort ∉ s) (hlast : ReportEvent.abort ∉ last) :
    r.panics (cutAt segs last) =
      segs.map (fun s => panicText r.name (messages s)) ++
        (if messages last = [] then [] else [panicText r.name (messages last)]) := by
  induction segs generalizing r with
  | nil =>
    rw [cutAt, List.map_nil, List.flatten_nil, List.nil_append, ← List.append_nil last,
      panics_append_of_not_abort r hlast, panics_nil]
    simp [hr]
  | cons s segs ih =>
    -- the first piece is pending when its abort comes; nothing is pending after it
    have hs := hsegs s List.mem_cons_self
    have hrest := ih { r with failures := [] } rfl (fun t ht => hsegs t (List.mem_cons_of_mem _ ht))
    simp only [cutAt] at hrest
    rw [cutAt, List.map_cons, List.flatten_cons, List.append_assoc, List.append_assoc,
      panics_append_of_not_abort r hs, List.singleton_append, panics_abort]
    simp [hr, hrest]

/-! ### Panics that end the test -/

/-- What a test raises when a panic ends it: the summary of the first abort, or else that
of the reporter, dropped at the end. -/
def runPanic (r : TestReporter) (es : List ReportEvent) : Option String :=
  match r.receive es with
  | (_, some p) => some p
  | (r', none) => r'.drop

@[simp] theorem runPanic_nil (r : TestReporter) : r.runPanic [] = r.drop := rfl

@[simp] theorem runPanic_failure (r : TestReporter) (m : String) (es : List ReportEvent) :
    r.runPanic (.failure m :: es) = (r.report m).runPanic es := rfl

@[simp] theorem runPanic_abort (r : TestReporter) (es : List ReportEvent) :
    r.runPanic (.abort :: es) = some (r.summary r.failures) := rfl

@[simp] theorem runPanic_helper (r : TestReporter) (es : List ReportEvent) :
    r.runPanic (.helper :: es) = r.runPanic es := rfl

/-- A test panics exactly when it aborts, or some failure is pending or reported. -/
theorem runPanic_isSome_iff (r : TestReporter) (es : List ReportEvent) :
    (r.runPanic es).isSome ↔
      ReportEvent.abort ∈ es ∨ r.failures ≠ [] ∨ ∃ m, ReportEvent.failure m ∈ es := by
  induction es generalizing r with
  | nil => simp [drop]
  | cons e es ih =>
    cases e with
    | failure m =>
      -- a reported failure is pending from then on
      rw [runPanic_failure, ih]
      simp [report]
    | abort => simp
    | helper => simp [ih]

end TestReporter

/-! ### Runs on a test reporter -/

/-- Invoking a poisoned assertable marks a helper, reports the error and aborts, each
time. -/
theorem invokeAll_poisoned (e : PipelineError) (invoked : Bool) (script : List (List Assertion)) :
    (invokeAll ⟨.poisoned e, invoked⟩ script).2 =
      script.flatMap fun _ => [.helper, .failure (reportText e.message), .abort] := by
  induction script generalizing invoked with
  | nil => rfl
  | cons asserts rest ih =>
    simp only [invokeAll, expectIt_fst, List.flatMap_cons]
    rw [ih]
    rfl

/-- Invoking an assertable with a response never aborts. -/
theorem abort_not_mem_invokeAll_ready (resp : Response) (invoked : Bool)
    (script : List (List Assertion)) :
    ReportEvent.abort ∉ (invokeAll ⟨.ready resp, invoked⟩ script).2 := by
  induction script generalizing invoked with
  | nil => simp [invokeAll]
  | cons asserts rest ih =>
    simp only [invokeAll, Assertable.expectIt, List.mem_append, List.mem_cons,
      reduceCtorEq, false_or, not_or]
    exact ⟨by simp, ih true⟩

/-- Dropping an assertable reports a failure at most, never an abort. -/
theorem abort_not_mem_drop (a : Assertable) : ReportEvent.abort ∉ a.drop := by
  unfold Assertable.drop
  split
  · split <;> simp
  · simp

/-- Every abort of an invocation comes with a reported failure. -/
theorem failure_of_abort_mem_invokeAll {a : Assertable} {script : List (List Assertion)}
    (h : ReportEvent.abort ∈ (invokeAll a script).2) :
    ∃ m, ReportEvent.failure m ∈ (invokeAll a script).2 := by
  obtain ⟨o, b⟩ := a
  cases o with
  | ready resp => exact absurd h (abort_not_mem_invokeAll_ready resp b script)
  | poisoned e =>
    rw [invokeAll_poisoned] at h ⊢
    obtain ⟨asserts, hmem, -⟩ := List.mem_flatMap.1 h
    exact ⟨reportText e.message, List.mem_flatMap.2 ⟨asserts, hmem, by simp⟩⟩

/-- In a run, every abort comes with a reported failure. -/
theorem failure_of_abort_mem_runEvents {exec : Executor} {method uri : Bytes}
    {builders : List Builder} {script : List (List Assertion)} {ending : Ending}
    (h : ReportEvent.abort ∈ (runEvents exec method uri builders script ending).1) :
    ∃ m, ReportEvent.failure m ∈ (runEvents exec method uri builders script ending).1 := by
  -- the abort comes from an invocation: making the request and dropping do not abort
  have hinv : ReportEvent.abort ∈ (invokeAll (makeRequest exec method uri builders).1 script).2 := by
    cases ending <;> simp [runEvents, abort_not_mem_drop] at h <;> exact h
  obtain ⟨m, hm⟩ := failure_of_abort_mem_invokeAll hinv
  exact ⟨m, by cases ending <;> simp [runEvents, hm]⟩

/-- After an invocation, dropping the assertable reports nothing. -/
theorem drop_invokeAll_of_ne_nil (a : Assertable) {script : List (List Assertion)}
    (hs : script ≠ []) : (invokeAll a script).1.drop = [] := by
  rw [invokeAll_fst, if_neg hs]
  obtain ⟨o, b⟩ := a
  cases o <;> simp [Assertable.drop]

section Poisoned

variable {exec : Executor} {method uri : Bytes} {builders : List Builder} {e : PipelineError}

theorem makeRequest_poisoned (he : (makeRequest exec method uri builders).1.outcome = .poisoned e) :
    (makeRequest exec method uri builders).1 = ⟨.poisoned e, false⟩ := by
  rw [← he]
  rfl

/-- A poisoned request that is invoked: making it marks a helper, and its first invocation
marks one more, reports the error and aborts. -/
theorem runEvents_poisoned_invoked
    (he : (makeRequest exec method uri builders).1.outcome = .poisoned e)
    {script : List (List Assertion)} (hs : script ≠ []) (ending : Ending) :
    ∃ rest, (runEvents exec method uri builders script ending).1 =
      [.helper, .helper, .failure (reportText e.message), .abort] ++ rest := by
  obtain ⟨asserts, more, rfl⟩ := List.exists_cons_of_ne_nil hs
  have hfirst : ((runEvents exec method uri builders (asserts :: more) ending).1).take 4 =
      [.helper, .helper, .failure (reportText e.message), .abort] := by
    cases ending <;>
      simp [runEvents, makeRequest_poisoned he, invokeAll_poisoned, List.take_append]
  exact ⟨_, by rw [← hfirst, List.take_append_drop]⟩

/-- A poisoned request that is only dropped reports its error once, at the drop. -/
theorem runEvents_poisoned_dropped
    (he : (makeRequest exec method uri builders).1.outcome = .poisoned e) :
    (runEvents exec method uri builders [] .drop).1 = [.helper, .failure (reportText e.message)] := by
  simp [runEvents, makeRequest_poisoned he, invokeAll, Assertable.drop]

end Poisoned

/-- A test reporter's panics. Every sequence of calls on a reporter is cut at its aborts
into pieces, each reported message lying in one piece, in order; with each abort's panic
caught, the reporter panics with the summary of each piece at its abort, then, at the drop,
with the summary of the calls after the last abort if they report something. In a test,
where the first panic ends it, a run panics exactly when it reports a failure. A poisoned
request panics with its error alone: at its first invocation, after which dropping the
assertable reports nothing; or, when only dropped, at the drop of the reporter. -/
theorem test_reporter_panics (name : Option String) :
    (∀ es : List ReportEvent, ∃ segs last,
      (∀ s ∈ segs, ReportEvent.abort ∉ s) ∧ ReportEvent.abort ∉ last ∧ es = cutAt segs last ∧
      messages es = (segs.map messages).flatten ++ messages last ∧
      (TestReporter.new name).panics es =
        segs.map (fun s => panicText name (messages s)) ++
          (if messages last = [] then [] else [panicText name (messages last)])) ∧
    ∀ (exec : Executor) (method uri : Bytes) (builders : List Builder)
      (script : List (List Assertion)) (ending : Ending),
      (((TestReporter.new name).runPanic (runEvents exec method uri builders script ending).1).isSome ↔
        ∃ m, ReportEvent.failure m ∈ (runEvents exec method uri builders script ending).1) ∧
      ∀ e, (makeRequest exec method uri builders).1.outcome = .poisoned e →
        (script ≠ [] →
          (∃ rest, (runEvents exec method uri builders script ending).1 =
            [.helper, .helper, .failure (reportText e.message), .abort] ++ rest) ∧
          (TestReporter.new name).receive (runEvents exec method uri builders script ending).1 =
            (TestReporter.new name, some (panicText name [reportText e.message])) ∧
          (invokeAll (makeRequest exec method uri builders).1 script).1.drop = []) ∧
        (script = [] → ending = .drop →
          (runEvents exec method uri builders script ending).1 =
            [.helper, .failure (reportText e.message)] ∧
          ((TestReporter.new name).receive (runEvents exec method uri builders script ending).1).2 =
            none ∧
          (TestReporter.new name).runPanic (runEvents exec method uri builders script ending).1 =
            some (panicText name [reportText e.message])) := by
  refine ⟨fun es => ?_, fun exec method uri builders script ending => ⟨?_, fun e he => ⟨?_, ?_⟩⟩⟩
  · -- caught aborts: cut the calls, then each piece panics at its abort
    obtain ⟨segs, last, hsegs, hlast, rfl⟩ := exists_cutAt es
    exact ⟨segs, last, hsegs, hlast, rfl, messages_cutAt segs last,
      TestReporter.panics_cutAt _ rfl segs last hsegs hlast⟩
  · -- nothing is pending at first, and every abort comes with a failure
    rw [TestReporter.runPanic_isSome_iff]
    constructor
    · rintro (habort | hpending | hfail)
      · exact failure_of_abort_mem_runEvents habort
      · exact absurd rfl hpending
      · exact hfail
    · exact fun hfail => .inr (.inr hfail)
  · intro hs
    obtain ⟨rest, hrest⟩ := runEvents_poisoned_invoked he hs ending
    refine ⟨⟨rest, hrest⟩, ?_, drop_invokeAll_of_ne_nil _ hs⟩
    rw [hrest]
    simp [TestReporter.receive, TestReporter.report, TestReporter.abort, TestReporter.new,
      TestReporter.summary_eq]
  · rintro rfl rfl
    rw [runEvents_poisoned_dropped he]
    refine ⟨rfl, rfl, ?_⟩
    simp [TestReporter.runPanic, TestReporter.receive, TestReporter.report, TestReporter.drop,
      TestReporter.new, TestReporter.summary_eq]

/-- A request with an empty method is poisoned, and invoking it once panics at once with the
error of its construction. -/
theorem test_reporter_panics_on_empty_method :
    (makeRequest (fun _ => .error .cancelled) [] [0x2F] []).1.outcome =
        .poisoned (.construction .invalidMethod) ∧
      ([[]] : List (List Assertion)) ≠ [] ∧
      (TestReporter.new (some "t")).receive
          (runEvents (fun _ => .error .cancelled) [] [0x2F] [] [[]] .drop).1 =
        (TestReporter.new (some "t"),
          some (panicText (some "t") [reportText (PipelineError.construction .invalidMethod).message])) := by
  have hpoison : (makeRequest (fun _ => .error .cancelled) [] [0x2F] []).1.outcome =
      .poisoned (.construction .invalidMethod) := rfl
  have hs : ([[]] : List (List Assertion)) ≠ [] := by simp
  exact ⟨hpoison, hs,
    ((((test_reporter_panics (some "t")).2 _ _ _ _ _ .drop).2 _ hpoison).1 hs).2.1⟩

end HttpCheck.Pipeline
