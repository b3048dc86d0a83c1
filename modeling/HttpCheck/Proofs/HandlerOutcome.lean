import HttpCheck.Executor.InProcess
/-!
# What the in-process executor answers

The executor's answer to any request, for any service and any deadline and body limit:
a cancelled request is answered `cancelled` whatever the service would do; otherwise the
answer is a timeout exactly when there is a deadline and the service has not ended by the
first whole millisecond the deadline reaches, what the service's ending gives when it ends
in time, and no answer at all only when there is no deadline and the service never ends.
A timeout names the deadline's whole milliseconds, the largest 64-bit number standing for
any longer; a deadline of whole milliseconds, such as a configured one, fires and is named
at exactly its number. What an ending gives is characterised by kind: a response is
answered as it is when its body is within the limit (a body of exactly the limit
included), and refused otherwise.
-/
namespace HttpCheck.Executor

open HttpCheck.Http HttpCheck.Pipeline

namespace Timed

variable {α β : Type}

theorem timeout_eq (limit : Nat) (late : α) (x : Timed α) :
    x.timeout limit late = if x.readyBy limit then x else ready limit late := by
  cases x with
  | ready t a => by_cases ht : t ≤ limit <;> simp [timeout, ht]
  | never => rfl

@[simp] theorem readyBy_map (f : α → β) (x : Timed α) (ms : Nat) :
    (x.map f).readyBy ms = x.readyBy ms := by
  cases x <;> rfl

end Timed

namespace HandlerExecutor

variable {h : HandlerExecutor} {req : Request}

@[simp] theorem deadline_withConfig (h : HandlerExecutor) (c : ExecutorConfig) (req : Request) :
    (h.withConfig c).deadline req = req.context.timeout.orElse fun _ => c.timeout := rfl

@[simp] theorem bodyLimit_withConfig (h : HandlerExecutor) (c : ExecutorConfig) :
    (h.withConfig c).bodyLimit = c.bodyLimit := rfl

/-! ## What an ending gives -/

section Settle

variable {limit : Nat} {e : ServiceEnd}

theorem settle_ne_timeout (d : Nat) : settle limit e ≠ .error (.timeout d) := by
  cases e with
  | respond r => by_cases hr : limit < r.body.length <;> simp [settle, hr]
  | _ => simp [settle]

theorem settle_eq_ok_iff {r : Response} :
    settle limit e = .ok r ↔ e = .respond r ∧ r.body.length ≤ limit := by
  cases e with
  | respond r' =>
    by_cases hr : limit < r'.body.length
    · simp only [settle, if_pos hr, reduceCtorEq, ServiceEnd.respond.injEq, false_iff, not_and]
      rintro rfl
      omega
    · simp only [settle, if_neg hr, Except.ok.injEq, ServiceEnd.respond.injEq]
      constructor
      · rintro rfl
        exact ⟨rfl, by omega⟩
      · rintro ⟨rfl, -⟩
        rfl
  | _ => simp [settle]

theorem settle_eq_body_iff {m : String} :
    settle limit e = .error (.body m) ↔
      ∃ r, e = .respond r ∧ limit < r.body.length ∧ m = lengthLimitExceeded := by
  cases e with
  | respond r =>
    by_cases hr : limit < r.body.length <;> simp [settle, hr, eq_comm]
  | _ => simp [settle]

theorem settle_eq_handler_iff {m : String} : settle limit e = .error (.handler m) ↔ e = .fail m := by
  cases e with
  | respond r => by_cases hr : limit < r.body.length <;> simp [settle, hr]
  | _ => simp [settle]

theorem settle_eq_handlerPanicked_iff {m : String} :
    settle limit e = .error (.handlerPanicked m) ↔
      e = .panicText m ∨ e = .panicOther ∧ m = "unknown panic payload" := by
  cases e with
  | respond r => by_cases hr : limit < r.body.length <;> simp [settle, hr]
  | _ => simp [settle, eq_comm]

end Settle

/-! ## The call under its deadline -/

theorem execute_of_not_cancelled (hc : req.context.cancelled = false) :
    h.execute req = h.call req := by
  simp [execute, cancellation, hc]

theorem call_of_deadline {d : Duration} (hd : h.deadline req = some d) :
    h.call req =
      if (h.service req).readyBy d.ceilMillis then (h.service req).map (settle h.bodyLimit)
      else .ready d.ceilMillis (.error (.timeout d.millisU64)) := by
  simp only [call, hd, Timed.timeout_eq, Timed.readyBy_map]

theorem call_of_no_deadline (hd : h.deadline req = none) :
    h.call req = (h.service req).map (settle h.bodyLimit) := by
  simp only [call, hd]

/-- What the service gives, whenever it ends, is never a timeout. -/
theorem value?_settle_ne_timeout (x : Timed ServiceEnd) (limit d : Nat) :
    (x.map (settle limit)).value? ≠ some (.error (.timeout d)) := by
  cases x <;> simp [settle_ne_timeout]

/-- A timeout is answered exactly when there is a deadline and the service has not ended
by the first whole millisecond it reaches, and it names the deadline's milliseconds. -/
theorem execute_timeout_iff (hc : req.context.cancelled = false) (ms : Nat) :
    (h.execute req).value? = some (.error (.timeout ms)) ↔
      ∃ d, h.deadline req = some d ∧ (h.service req).readyBy d.ceilMillis = false ∧
        ms = d.millisU64 := by
  rw [execute_of_not_cancelled hc]
  cases hd : h.deadline req with
  | none =>
    rw [call_of_no_deadline hd]
    exact iff_of_false (value?_settle_ne_timeout _ _ ms) (by simp)
  | some d =>
    rw [call_of_deadline hd]
    cases hin : (h.service req).readyBy d.ceilMillis with
    | true =>
      rw [if_pos rfl]
      -- in time: what the service gives is no timeout, and the deadline did not pass
      refine iff_of_false (value?_settle_ne_timeout _ _ ms) ?_
      rintro ⟨d', hdd, hlate, -⟩
      cases hdd
      rw [hin] at hlate
      cases hlate
    | false =>
      simp only [Bool.false_eq_true, if_false, Timed.value?_ready, Option.some.injEq,
        Except.error.injEq, ExecuteError.timeout.injEq]
      constructor
      · rintro rfl
        exact ⟨d, rfl, hin, rfl⟩
      · rintro ⟨d', hdd, -, rfl⟩
        cases hdd
        rfl

/-- A service that ends by the deadline, or with no deadline at all, is answered with what
its ending gives, when it ends. -/
theorem execute_of_ready {t : Nat} {e : ServiceEnd} (hc : req.context.cancelled = false)
    (hs : h.service req = .ready t e)
    (hin : ∀ d, h.deadline req = some d → t ≤ d.ceilMillis) :
    h.execute req = .ready t (settle h.bodyLimit e) := by
  rw [execute_of_not_cancelled hc]
  cases hd : h.deadline req with
  | none => simp [call_of_no_deadline hd, hs]
  | some d => simp [call_of_deadline hd, hs, hin d hd]

/-- The executor gives no answer only when the request is not cancelled, there is no
deadline and the service never ends. -/
theorem execute_eq_never_iff :
    h.execute req = .never ↔
      req.context.cancelled = false ∧ h.deadline req = none ∧ h.service req = .never := by
  cases hc : req.context.cancelled with
  | true => simp [execute_cancelled h req hc]
  | false =>
    rw [execute_of_not_cancelled hc]
    cases hd : h.deadline req with
    | none => cases hs : h.service req <;> simp [call_of_no_deadline hd, hs]
    | some d =>
      -- under a deadline there is always an answer, at the latest at the deadline
      rw [call_of_deadline hd]
      cases hs : h.service req with
      | ready t e => by_cases ht : t ≤ d.ceilMillis <;> simp [ht]
      | never => simp

/-- The executor's answer, in the order its layers give it: a cancelled request is answered
`cancelled` whatever the service; else a timeout exactly when there is a deadline and the
service has not ended by the first whole millisecond it reaches, named with the deadline's
whole milliseconds as a 64-bit number; else, when the service ends in time, what its ending
gives, a body of up to the limit being kept and a longer one refused; and no answer at all
only without cancellation, deadline and end. A deadline of whole milliseconds that a 64-bit
number holds, as every configured one is, fires and is named at exactly its number. -/
theorem execute_precedence (h : HandlerExecutor) (req : Request) :
    (req.context.cancelled = true → ∀ s : Service,
      ({ h with service := s } : HandlerExecutor).execute req = .ready 0 (.error .cancelled)) ∧
    (req.context.cancelled = false →
      (∀ ms, (h.execute req).value? = some (.error (.timeout ms)) ↔
        ∃ d, h.deadline req = some d ∧ (h.service req).readyBy d.ceilMillis = false ∧
          ms = d.millisU64) ∧
      ∀ t e, h.service req = .ready t e → (∀ d, h.deadline req = some d → t ≤ d.ceilMillis) →
        h.execute req = .ready t (settle h.bodyLimit e)) ∧
    (∀ ms, ms ≤ Duration.u64Max →
      (Duration.ofMillis ms).ceilMillis = ms ∧ (Duration.ofMillis ms).millisU64 = ms) ∧
    (h.execute req = .never ↔
      req.context.cancelled = false ∧ h.deadline req = none ∧ h.service req = .never) ∧
    (∀ e r, settle h.bodyLimit e = .ok r ↔ e = .respond r ∧ r.body.length ≤ h.bodyLimit) ∧
    (∀ e m, settle h.bodyLimit e = .error (.body m) ↔
      ∃ r, e = .respond r ∧ h.bodyLimit < r.body.length ∧ m = lengthLimitExceeded) ∧
    (∀ e m, settle h.bodyLimit e = .error (.handler m) ↔ e = .fail m) ∧
    (∀ e m, settle h.bodyLimit e = .error (.handlerPanicked m) ↔
      e = .panicText m ∨ e = .panicOther ∧ m = "unknown panic payload") :=
  ⟨fun hc _ => execute_cancelled _ req hc,
    fun hc => ⟨execute_timeout_iff hc, fun _ _ hs hin => execute_of_ready hc hs hin⟩,
    fun ms hms => ⟨Duration.ceilMillis_ofMillis ms, Duration.millisU64_ofMillis hms⟩,
    execute_eq_never_iff, fun _ _ => settle_eq_ok_iff, fun _ _ => settle_eq_body_iff,
    fun _ _ => settle_eq_handler_iff, fun _ _ => settle_eq_handlerPanicked_iff⟩

/-- A service that ends exactly at a configured deadline, with an empty body under a limit
of zero, is answered with its response. -/
theorem execute_precedence_at_deadline :
    (default : Request).context.cancelled = false ∧
      ((HandlerExecutor.new fun _ => .ready 100 (.respond default)).withConfig
          ⟨"", some 100, 0, 0⟩).execute default = .ready 100 (.ok default) :=
  ⟨rfl, ((execute_precedence _ default).2.1 rfl).2 100 (.respond default) rfl
    fun _ hd => by
      cases hd
      exact Nat.le_of_eq (Duration.ceilMillis_ofMillis 100).symm⟩

end HandlerExecutor
end HttpCheck.Executor
