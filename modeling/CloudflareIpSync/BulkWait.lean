/-
CloudflareIpSync/BulkWait.lean

The wait for a bulk operation, on a virtual clock.

`pollRound` is the body of the source's `while True`, without a deadline and
without fuel.  The wait is that loop under `asyncio.timeout`
(`traces_wait_iff`).  Its outcome is decided by the stream of poll answers
alone: by the first poll that neither is pending nor returns too late, if there
is one (`PollRun.decided`).
-/
import CloudflareIpSync.Deadline
import CloudflareIpSync.Refresh
import Mathlib.Algebra.BigOperators.Group.Finset.Basic
import Mathlib.Data.NNRat.Floor

namespace CloudflareIpSync

open Interact

variable {c : Coordinator} {operationId : String} {elapsed : ℚ≥0} {t : List Ev}
  {out : Except SyncError Unit}

/-! ### The loop without its deadline -/

/-- One round of the loop of `_async_wait_for_bulk_operation`. -/
def pollRound (c : Coordinator) (operationId : String) (_ : Unit) :
    Coro (Except SyncError (Unit ⊕ Unit)) := do
  let (_, answer) ← asyncGetBulkOperation c.accountId operationId
  match answer with
  | .error err => return .error (.cloudflare err)
  | .ok operation =>
      if operation.isComplete then return .ok (.inr ())
      else if operation.isFailed then
        return .error (.verificationFailed
          ("Cloudflare bulk operation failed: " ++ operation.error.getD "None"))
      else do
        asyncSleep bulkOperationPollInterval
        return .ok (.inl ())

/-- Seconds an event of the loop takes. -/
def eventTime : Ev → ℚ≥0
  | ⟨.getBulkOperation _ _, (took, _)⟩ => took
  | ⟨.sleep seconds, _⟩ => seconds
  | _ => 0

/-- A status with which the wait goes on. -/
def pending : Except CloudflareError CloudflareBulkOperation → Bool
  | .error _ => false
  | .ok operation => !operation.isComplete && !operation.isFailed

/-- What the wait does with an answer that is not pending. -/
def pollOutcome : Except CloudflareError CloudflareBulkOperation → Except SyncError Unit
  | .error err => .error (.cloudflare err)
  | .ok operation =>
      if operation.isComplete then .ok ()
      else .error (.verificationFailed
        ("Cloudflare bulk operation failed: " ++ operation.error.getD "None"))

/-- The branches on an answer, by whether the wait goes on. -/
theorem pending_split {α : Type} (again : α) (leave : Except SyncError Unit → α)
    (answer : Except CloudflareError CloudflareBulkOperation) :
    (match answer with
      | .error err => leave (.error (.cloudflare err))
      | .ok operation =>
          if operation.isComplete then leave (.ok ())
          else if operation.isFailed then
            leave (.error (.verificationFailed
              ("Cloudflare bulk operation failed: " ++ operation.error.getD "None")))
          else again) =
      if pending answer then again else leave (pollOutcome answer) := by
  rcases answer with err | operation
  · rfl
  · rcases hc : operation.isComplete with - | -
    · rcases hf : operation.isFailed with - | -
      · simp [pending, hc, hf]
      · simp [pending, pollOutcome, hc, hf]
    · simp [pending, pollOutcome, hc]

/-- The rest of a round, after its poll. -/
theorem pollRound_eq (c : Coordinator) (operationId : String) :
    pollRound c operationId () = .op (.getBulkOperation c.accountId operationId) fun r =>
      if pending r.2 then asyncSleep bulkOperationPollInterval >>= fun _ => .ret (.ok (.inl ()))
      else .ret ((pollOutcome r.2).map .inr) := by
  unfold pollRound
  rw [asyncGetBulkOperation, Prog.call_bind]
  congr 1
  funext r
  obtain ⟨took, answer⟩ := r
  exact pending_split _ (fun out => Prog.ret (out.map (Sum.inr : Unit → Unit ⊕ Unit))) answer

/-- A round of the loop with its deadline. -/
theorem pollLoop_succ (c : Coordinator) (operationId : String) (fuel : ℕ) (elapsed : ℚ≥0) :
    pollLoop c operationId (fuel + 1) elapsed =
      .op (.getBulkOperation c.accountId operationId) fun r =>
        if bulkOperationTimeout ≤ elapsed + r.1 then .ret (.error bulkTimeout)
        else if pending r.2 then asyncSleep bulkOperationPollInterval >>= fun _ =>
          if bulkOperationTimeout ≤ elapsed + r.1 + bulkOperationPollInterval then
            .ret (.error bulkTimeout)
          else pollLoop c operationId fuel (elapsed + r.1 + bulkOperationPollInterval)
        else .ret (pollOutcome r.2) := by
  rw [pollLoop, asyncGetBulkOperation, Prog.call_bind]
  congr 1
  funext r
  obtain ⟨took, answer⟩ := r
  dsimp only
  congr 1
  exact pending_split _ Prog.ret answer

/-! ### The deadline -/

/-- The loop under `asyncio.timeout`, `elapsed` seconds into it. -/
abbrev TimedWait (c : Coordinator) (operationId : String) (elapsed : ℚ≥0) (t : List Ev)
    (out : Except SyncError Unit) : Prop :=
  ∃ stop, DeadlineRun (pollRound c operationId) eventTime bulkOperationTimeout
    (.error bulkTimeout) elapsed () t out stop

/-- A first poll and what follows it: the deadline during the poll, an answer
that is not pending, the deadline during the sleep, or the rest of the wait. -/
inductive PollStep (c : Coordinator) (operationId : String)
    (rest : ℚ≥0 → List Ev → Except SyncError Unit → Prop) (elapsed : ℚ≥0) :
    List Ev → Except SyncError Unit → Prop
  | late (took : ℚ≥0) (answer) : bulkOperationTimeout ≤ elapsed + took →
      PollStep c operationId rest elapsed [pollEv c operationId took answer] (.error bulkTimeout)
  | decided {took : ℚ≥0} {answer} : elapsed + took < bulkOperationTimeout →
      pending answer = false →
      PollStep c operationId rest elapsed [pollEv c operationId took answer] (pollOutcome answer)
  | asleep {took : ℚ≥0} {answer} : elapsed + took < bulkOperationTimeout →
      pending answer = true →
      bulkOperationTimeout ≤ elapsed + took + bulkOperationPollInterval →
      PollStep c operationId rest elapsed [pollEv c operationId took answer, pollSleep]
        (.error bulkTimeout)
  | again {took : ℚ≥0} {answer t out} :
      pending answer = true → elapsed + took + bulkOperationPollInterval < bulkOperationTimeout →
      rest (elapsed + took + bulkOperationPollInterval) t out →
      PollStep c operationId rest elapsed (pollEv c operationId took answer :: pollSleep :: t) out

theorem traces_pollLoop_succ_iff {fuel : ℕ} :
    (pollLoop c operationId (fuel + 1) elapsed).Traces t out ↔
      PollStep c operationId (fun elapsed => (pollLoop c operationId fuel elapsed).Traces)
        elapsed t out := by
  rw [pollLoop_succ, Prog.traces_op_iff]
  constructor
  · rintro ⟨⟨took, answer⟩, t', rfl, h⟩
    by_cases hlate : (bulkOperationTimeout : ℚ≥0) ≤ elapsed + took
    · rw [if_pos hlate] at h
      obtain ⟨rfl, rfl⟩ := Prog.traces_ret_iff.mp h
      exact .late took answer hlate
    rw [if_neg hlate] at h
    rcases hp : pending answer with - | -
    · rw [hp, if_neg Bool.false_ne_true] at h
      obtain ⟨rfl, rfl⟩ := Prog.traces_ret_iff.mp h
      exact .decided (not_le.mp hlate) hp
    · rw [hp, if_pos rfl, asyncSleep, Prog.call_bind, Prog.traces_op_iff] at h
      obtain ⟨⟨⟩, t'', rfl, h⟩ := h
      by_cases hasleep : (bulkOperationTimeout : ℚ≥0) ≤ elapsed + took + bulkOperationPollInterval
      · rw [if_pos hasleep] at h
        obtain ⟨rfl, rfl⟩ := Prog.traces_ret_iff.mp h
        exact .asleep (not_le.mp hlate) hp hasleep
      · rw [if_neg hasleep] at h
        exact .again hp (not_le.mp hasleep) h
  · intro h
    cases h with
    | late took answer hlate =>
        refine ⟨(took, answer), [], rfl, ?_⟩
        rw [if_pos hlate]
        exact Prog.traces_ret_iff.mpr ⟨rfl, rfl⟩
    | @decided took answer hlt hp =>
        refine ⟨(took, answer), [], rfl, ?_⟩
        rw [if_neg (not_le.mpr hlt), hp, if_neg Bool.false_ne_true]
        exact Prog.traces_ret_iff.mpr ⟨rfl, rfl⟩
    | @asleep took answer hlt hp hasleep =>
        refine ⟨(took, answer), [pollSleep], rfl, ?_⟩
        rw [if_neg (not_le.mpr hlt), hp, if_pos rfl, asyncSleep, Prog.call_bind,
          Prog.traces_op_iff]
        refine ⟨(), [], rfl, ?_⟩
        rw [if_pos hasleep]
        exact Prog.traces_ret_iff.mpr ⟨rfl, rfl⟩
    | @again took answer t' out hp hlt hrest =>
        refine ⟨(took, answer), pollSleep :: t', rfl, ?_⟩
        have hearly : elapsed + took < bulkOperationTimeout := lt_of_le_of_lt le_self_add hlt
        rw [if_neg (not_le.mpr hearly), hp, if_pos rfl, asyncSleep, Prog.call_bind,
          Prog.traces_op_iff]
        refine ⟨(), t', rfl, ?_⟩
        rw [if_neg (not_le.mpr hlt)]
        exact hrest

/-- The complete runs of a round. -/
theorem traces_pollRound_iff {r : Except SyncError (Unit ⊕ Unit)} :
    (pollRound c operationId ()).Traces t r ↔ ∃ took answer,
      (pending answer = false ∧ t = [pollEv c operationId took answer] ∧
        r = (pollOutcome answer).map .inr) ∨
      (pending answer = true ∧ t = [pollEv c operationId took answer, pollSleep] ∧
        r = .ok (.inl ())) := by
  rw [pollRound_eq, Prog.traces_op_iff]
  constructor
  · rintro ⟨⟨took, answer⟩, t', rfl, h⟩
    refine ⟨took, answer, ?_⟩
    rcases hp : pending answer with - | -
    · rw [hp, if_neg Bool.false_ne_true] at h
      obtain ⟨rfl, rfl⟩ := Prog.traces_ret_iff.mp h
      exact .inl ⟨rfl, rfl, rfl⟩
    · rw [hp, if_pos rfl, asyncSleep, Prog.call_bind, Prog.traces_op_iff] at h
      obtain ⟨⟨⟩, t'', rfl, h⟩ := h
      obtain ⟨rfl, rfl⟩ := Prog.traces_ret_iff.mp h
      exact .inr ⟨rfl, rfl, rfl⟩
  · rintro ⟨took, answer, ⟨hp, rfl, rfl⟩ | ⟨hp, rfl, rfl⟩⟩
    · refine ⟨(took, answer), [], rfl, ?_⟩
      rw [hp, if_neg Bool.false_ne_true]
      exact Prog.traces_ret_iff.mpr ⟨rfl, rfl⟩
    · refine ⟨(took, answer), [pollSleep], rfl, ?_⟩
      rw [hp, if_pos rfl, asyncSleep, Prog.call_bind, Prog.traces_op_iff]
      exact ⟨(), [], rfl, Prog.traces_ret_iff.mpr ⟨rfl, rfl⟩⟩

/-- The partial runs of a round. -/
theorem steps_pollRound {p : Coro (Except SyncError (Unit ⊕ Unit))}
    (h : (pollRound c operationId ()).Steps t p) :
    t = [] ∨ ∃ took answer, t = [pollEv c operationId took answer] ∨
      (pending answer = true ∧ t = [pollEv c operationId took answer, pollSleep]) := by
  rw [pollRound_eq, Prog.steps_op_iff] at h
  obtain ⟨rfl, -⟩ | ⟨⟨took, answer⟩, t', rfl, h⟩ := h
  · exact .inl rfl
  refine .inr ⟨took, answer, ?_⟩
  rcases hp : pending answer with - | -
  · rw [hp, if_neg Bool.false_ne_true] at h
    obtain ⟨rfl, -⟩ := Prog.steps_ret_iff.mp h
    exact .inl rfl
  · rw [hp, if_pos rfl, asyncSleep, Prog.call_bind, Prog.steps_op_iff] at h
    obtain ⟨rfl, -⟩ | ⟨⟨⟩, t'', rfl, h⟩ := h
    · exact .inl rfl
    · obtain ⟨rfl, -⟩ := Prog.steps_ret_iff.mp h
      exact .inr ⟨rfl, rfl⟩

/-- A round that leaves the loop does not go on. -/
theorem map_inr_ne {s : Unit} (out : Except SyncError Unit) :
    out.map Sum.inr ≠ (.ok (.inl s) : Except SyncError (Unit ⊕ Unit)) := by
  rcases out with err | ⟨⟨⟩⟩
  · rintro ⟨⟩
  · rintro ⟨⟩

theorem map_inr_inj {out out' : Except SyncError Unit}
    (h : out.map (Sum.inr : Unit → Unit ⊕ Unit) = out'.map .inr) : out = out' := by
  rcases out with err | ⟨⟨⟩⟩
  · rcases out' with err' | ⟨⟨⟩⟩
    · cases h
      rfl
    · cases h
  · rcases out' with err' | ⟨⟨⟩⟩
    · cases h
    · rfl

/-- A round after which the loop goes on. -/
theorem traces_pollRound_again {u : Unit}
    (h : (pollRound c operationId ()).Traces t (.ok (.inl u))) :
    ∃ took answer, pending answer = true ∧ t = [pollEv c operationId took answer, pollSleep] := by
  obtain ⟨took, answer, ⟨-, -, hr⟩ | ⟨hp, rfl, -⟩⟩ := traces_pollRound_iff.mp h
  · exact absurd hr.symm (map_inr_ne _)
  · exact ⟨took, answer, hp, rfl⟩

/-- A round that is the last one. -/
theorem traces_pollRound_last {r : Except SyncError (Unit ⊕ Unit)} (hr : r = out.map .inr)
    (h : (pollRound c operationId ()).Traces t r) :
    ∃ took answer, pending answer = false ∧ t = [pollEv c operationId took answer] ∧
      out = pollOutcome answer := by
  subst hr
  obtain ⟨took, answer, ⟨hp, rfl, hr⟩ | ⟨-, -, hr⟩⟩ := traces_pollRound_iff.mp h
  · exact ⟨took, answer, hp, rfl, map_inr_inj hr⟩
  · exact absurd hr (map_inr_ne _)

/-- The first round of the loop under its deadline. -/
theorem TimedWait.first (h : TimedWait c operationId elapsed t out) :
    PollStep c operationId (TimedWait c operationId) elapsed t out := by
  obtain ⟨stop, h⟩ := h
  -- a round that is the last one
  have last : ∀ {r}, r = out.map .inr → (pollRound c operationId ()).Traces t r →
      elapsed + duration eventTime t < bulkOperationTimeout →
      PollStep c operationId (TimedWait c operationId) elapsed t out := by
    intro r hr hround hlt
    obtain ⟨took, answer, hp, rfl, rfl⟩ := traces_pollRound_last hr hround
    exact .decided (by simpa [eventTime] using hlt) hp
  cases h with
  | ended hrun hlt =>
      cases hrun with
      | raised hround => exact last rfl hround hlt
      | returned hround => exact last rfl hround hlt
      | @again _ _ _ t' _ hround hrest =>
          obtain ⟨took, answer, hp, rfl⟩ := traces_pollRound_again hround
          have hrest' : elapsed + took + bulkOperationPollInterval + duration eventTime t' <
              bulkOperationTimeout := by
            simpa [eventTime, add_assoc] using hlt
          exact .again hp (lt_of_le_of_lt le_self_add hrest') ⟨_, .ended hrest hrest'⟩
  | @cut t e hsteps hlt hle =>
      -- the deadline in the sleep after the first poll
      have asleep : ∀ {took answer}, pending answer = true →
          t ++ [e] = [pollEv c operationId took answer] ++ [pollSleep] →
          PollStep c operationId (TimedWait c operationId) elapsed (t ++ [e])
            (.error bulkTimeout) := by
        intro took answer hp hall
        obtain ⟨rfl, he⟩ := List.append_inj' hall rfl
        cases he
        exact .asleep (by simpa [eventTime] using hlt) hp
          (by simpa [eventTime, add_assoc] using hle)
      generalize hall : t ++ [e] = all at hsteps
      cases hsteps with
      | inside hround =>
          rcases steps_pollRound hround with rfl | ⟨took, answer, rfl | ⟨hp, rfl⟩⟩
          · cases (List.append_eq_nil_iff.mp hall).2
          · rw [hall] at hle
            exact .late took answer (by simpa [eventTime] using hle)
          · rw [← hall]
            exact asleep hp hall
      | @again _ _ _ t' hround hrest =>
          obtain ⟨took, answer, hp, rfl⟩ := traces_pollRound_again hround
          rcases List.eq_nil_or_concat t' with rfl | ⟨t', e', rfl⟩
          · rw [← hall]
            exact asleep hp hall
          · rw [List.concat_eq_append] at hall hrest ⊢
            rw [← List.append_assoc] at hall
            obtain ⟨rfl, he⟩ := List.append_inj' hall rfl
            cases he
            have hlt' : elapsed + took + bulkOperationPollInterval + duration eventTime t' <
                bulkOperationTimeout := by
              simpa [eventTime, add_assoc] using hlt
            refine .again hp (lt_of_le_of_lt le_self_add hlt') ⟨_, .cut hrest hlt' ?_⟩
            simpa [eventTime, add_assoc] using hle

/-- A first round, and the loop under what is left of its deadline. -/
theorem TimedWait.of_first (hstart : elapsed < bulkOperationTimeout)
    (h : PollStep c operationId (TimedWait c operationId) elapsed t out) :
    TimedWait c operationId elapsed t out := by
  have round : ∀ {took answer}, pending answer = true →
      (pollRound c operationId ()).Traces [pollEv c operationId took answer, pollSleep]
        (.ok (.inl ())) := by
    intro took answer hp
    exact traces_pollRound_iff.mpr ⟨took, answer, .inr ⟨hp, rfl, rfl⟩⟩
  cases h with
  | @late took answer hlate =>
      have hsteps : ∃ p,
          (pollRound c operationId ()).Steps [pollEv c operationId took answer] p := by
        rw [pollRound_eq]
        exact ⟨_, .single (Prog.step_op_iff.mpr ⟨(took, answer), rfl, rfl⟩)⟩
      obtain ⟨p, hsteps⟩ := hsteps
      refine ⟨_, .cut (t := []) (.inside hsteps) ?_ ?_⟩
      · simpa using hstart
      · simpa [eventTime] using hlate
  | @decided took answer hlt hp =>
      have hround : (pollRound c operationId ()).Traces [pollEv c operationId took answer]
          ((pollOutcome answer).map .inr) :=
        traces_pollRound_iff.mpr ⟨took, answer, .inl ⟨hp, rfl, rfl⟩⟩
      have hrun : LoopRun (pollRound c operationId) () [pollEv c operationId took answer]
          (pollOutcome answer) := by
        rcases hout : pollOutcome answer with err | ⟨⟨⟩⟩
        · rw [hout] at hround
          exact .raised hround
        · rw [hout] at hround
          exact .returned hround
      exact ⟨_, .ended hrun (by simpa [eventTime] using hlt)⟩
  | @asleep took answer hlt hp hasleep =>
      refine ⟨_, .cut (t := [pollEv c operationId took answer]) (.inside (round hp)) ?_ ?_⟩
      · simpa [eventTime] using hlt
      · simpa [eventTime, add_assoc] using hasleep
  | @again took answer t' _ hp hlt hrest =>
      obtain ⟨stop, hrest⟩ := hrest
      refine ⟨stop, .again (round hp) ?_⟩
      simpa [eventTime, add_assoc] using hrest

theorem PollStep.mono {rest rest' : ℚ≥0 → List Ev → Except SyncError Unit → Prop}
    (h : PollStep c operationId rest elapsed t out)
    (hrest : ∀ (took : ℚ≥0) t, elapsed + took + bulkOperationPollInterval < bulkOperationTimeout →
      rest (elapsed + took + bulkOperationPollInterval) t out →
      rest' (elapsed + took + bulkOperationPollInterval) t out) :
    PollStep c operationId rest' elapsed t out := by
  cases h with
  | late took answer hlate => exact .late took answer hlate
  | decided hlt hp => exact .decided hlt hp
  | asleep hlt hp hasleep => exact .asleep hlt hp hasleep
  | again hp hlt h => exact .again hp hlt (hrest _ _ hlt h)

/-- With fuel for the rest of the deadline, the loop is the source's loop under
its deadline. -/
theorem traces_pollLoop_iff {fuel : ℕ} (hstart : elapsed < bulkOperationTimeout)
    (hfuel : (bulkOperationTimeout : ℚ≥0) ≤ elapsed + fuel * bulkOperationPollInterval) :
    (pollLoop c operationId fuel elapsed).Traces t out ↔ TimedWait c operationId elapsed t out := by
  induction fuel generalizing elapsed t with
  | zero =>
      rw [Nat.cast_zero, zero_mul, add_zero] at hfuel
      exact absurd hstart (not_lt.mpr hfuel)
  | succ fuel ih =>
      rw [traces_pollLoop_succ_iff]
      constructor
      · intro h
        apply TimedWait.of_first hstart
        apply h.mono
        intro took t' hlt h
        exact (ih hlt (pollFuel_rest hfuel)).mp h
      · intro h
        apply h.first.mono
        intro took t' hlt h
        exact (ih hlt (pollFuel_rest hfuel)).mpr h

theorem traces_wait_iff :
    (asyncWaitForBulkOperation c operationId).Traces t out ↔ TimedWait c operationId 0 t out := by
  apply traces_pollLoop_iff
  · norm_num [bulkOperationTimeout]
  · norm_num [bulkOperationTimeout, pollFuel, bulkOperationPollInterval]

/-! ### The stream of poll answers -/

section Stream

variable {polls : ℕ → ℚ≥0 × Except CloudflareError CloudflareBulkOperation}

/-- The answer of a poll, with the time it took. -/
def pollAnswer : Ev → Option (ℚ≥0 × Except CloudflareError CloudflareBulkOperation)
  | ⟨.getBulkOperation _ _, answer⟩ => some answer
  | _ => none

/-- The polls of a run are answered by the stream, in order. -/
def AnsweredBy (polls : ℕ → ℚ≥0 × Except CloudflareError CloudflareBulkOperation)
    (t : List Ev) : Prop :=
  ∀ i answer, (t.filterMap pollAnswer)[i]? = some answer → answer = polls i

/-- Seconds into the wait at which the `n`-th poll returns, if the wait gets
that far. -/
def arrival (polls : ℕ → ℚ≥0 × Except CloudflareError CloudflareBulkOperation) (n : ℕ) : ℚ≥0 :=
  ∑ i ∈ Finset.range (n + 1), (polls i).1 + n * bulkOperationPollInterval

/-- The first poll that is not pending, and that returns before the deadline. -/
def FirstDecisive (polls : ℕ → ℚ≥0 × Except CloudflareError CloudflareBulkOperation)
    (elapsed : ℚ≥0) (n : ℕ) : Prop :=
  elapsed + arrival polls n < bulkOperationTimeout ∧ (∀ i < n, pending (polls i).2 = true) ∧
    pending (polls n).2 = false

theorem answeredBy_cons_poll {took : ℚ≥0} {answer}
    (h : AnsweredBy polls (pollEv c operationId took answer :: t)) :
    polls 0 = (took, answer) ∧ AnsweredBy (fun i => polls (i + 1)) t := by
  refine ⟨(h 0 (took, answer) rfl).symm, ?_⟩
  intro i a hi
  exact h (i + 1) a hi

/-- Every program has a run that the stream answers. -/
theorem exists_answered {α : Type} (p : Coro α)
    (polls : ℕ → ℚ≥0 × Except CloudflareError CloudflareBulkOperation) :
    ∃ t a, p.Traces t a ∧ AnsweredBy polls t := by
  induction p generalizing polls with
  | ret a => exact ⟨[], a, Prog.traces_ret_iff.mpr ⟨rfl, rfl⟩, by simp [AnsweredBy]⟩
  | op o k ih =>
      by_cases ho : ∃ accountId operationId, o = .getBulkOperation accountId operationId
      · obtain ⟨accountId, operationId, rfl⟩ := ho
        obtain ⟨t, a, ht, hanswers⟩ := ih (polls 0) fun i => polls (i + 1)
        refine ⟨_ :: t, a, Prog.traces_op_iff.mpr ⟨polls 0, t, rfl, ht⟩, ?_⟩
        rintro (- | i) answer hi
        · exact (Option.some.inj hi).symm
        · exact hanswers i answer hi
      · obtain ⟨r⟩ := nonempty_res o
        obtain ⟨t, a, ht, hanswers⟩ := ih r polls
        refine ⟨_ :: t, a, Prog.traces_op_iff.mpr ⟨r, t, rfl, ht⟩, ?_⟩
        have hskip : pollAnswer ⟨o, r⟩ = none := by
          cases o <;> first | rfl | exact absurd ⟨_, _, rfl⟩ ho
        unfold AnsweredBy
        rw [List.filterMap_cons_none hskip]
        exact hanswers

theorem arrival_zero : arrival polls 0 = (polls 0).1 := by
  simp [arrival]

theorem arrival_succ (n : ℕ) :
    arrival polls (n + 1) =
      (polls 0).1 + bulkOperationPollInterval + arrival (fun i => polls (i + 1)) n := by
  unfold arrival
  rw [Finset.sum_range_succ']
  push_cast
  ring

/-- A first poll that is pending leaves the decision to the others. -/
theorem firstDecisive_succ_iff (hpending : pending (polls 0).2 = true) (n : ℕ) :
    FirstDecisive polls elapsed (n + 1) ↔
      FirstDecisive (fun i => polls (i + 1))
        (elapsed + (polls 0).1 + bulkOperationPollInterval) n := by
  unfold FirstDecisive
  rw [arrival_succ, Nat.forall_lt_succ_left]
  simp only [hpending, true_and, add_assoc]

theorem not_firstDecisive_zero (hpending : pending (polls 0).2 = true) :
    ¬ FirstDecisive polls elapsed 0 := by
  rintro ⟨-, -, h⟩
  rw [hpending] at h
  cases h

/-- Two polls cannot both be the first one that decides. -/
theorem FirstDecisive.unique {n m : ℕ} (hn : FirstDecisive polls elapsed n)
    (hm : FirstDecisive polls elapsed m) : n = m := by
  rcases lt_trichotomy n m with h | h | h
  · cases (hm.2.1 n h).symm.trans hn.2.2
  · exact h
  · cases (hn.2.1 m h).symm.trans hm.2.2

/-- A poll that returns at the deadline or later decides nothing, and neither
do those after it. -/
theorem not_firstDecisive_of_late (hlate : (bulkOperationTimeout : ℚ≥0) ≤ elapsed + (polls 0).1)
    (n : ℕ) : ¬ FirstDecisive polls elapsed n := by
  rintro ⟨hlt, -, -⟩
  have hfirst : (polls 0).1 ≤ arrival polls n := by
    cases n with
    | zero => rw [arrival_zero]
    | succ n =>
        rw [arrival_succ, add_assoc]
        exact le_self_add
  have hsum : elapsed + (polls 0).1 ≤ elapsed + arrival polls n := by
    gcongr
  exact absurd (hlate.trans hsum) (not_le.mpr hlt)

/-- What the stream makes of the wait. -/
def DecidedBy (polls : ℕ → ℚ≥0 × Except CloudflareError CloudflareBulkOperation)
    (elapsed : ℚ≥0) (out : Except SyncError Unit) : Prop :=
  (∃ n, FirstDecisive polls elapsed n ∧ out = pollOutcome (polls n).2) ∨
    (∀ n, ¬ FirstDecisive polls elapsed n) ∧ out = .error bulkTimeout

theorem decidedBy_first {took : ℚ≥0} {answer : Except CloudflareError CloudflareBulkOperation}
    (hfirst : polls 0 = (took, answer)) (hlt : elapsed + took < bulkOperationTimeout)
    (hanswer : pending answer = false) : DecidedBy polls elapsed (pollOutcome answer) := by
  left
  refine ⟨0, ⟨?_, fun i hi => absurd hi i.not_lt_zero, ?_⟩, ?_⟩
  · rw [arrival_zero, hfirst]
    exact hlt
  · rw [hfirst]
    exact hanswer
  · rw [hfirst]

/-- The first poll that decides ends the wait; without one it times out. -/
theorem PollRun.decided (h : PollRun c operationId elapsed t out)
    (hanswers : AnsweredBy polls t) : DecidedBy polls elapsed out := by
  induction h generalizing polls with
  | late hlate =>
      obtain ⟨hfirst, -⟩ := answeredBy_cons_poll hanswers
      refine .inr ⟨not_firstDecisive_of_late ?_, rfl⟩
      rw [hfirst]
      exact hlate
  | raised hlt =>
      exact decidedBy_first (answeredBy_cons_poll hanswers).1 hlt rfl
  | @completed _ _ operation hlt hcomplete =>
      have hout : pollOutcome (.ok operation) = .ok () := if_pos hcomplete
      rw [← hout]
      exact decidedBy_first (answeredBy_cons_poll hanswers).1 hlt (by simp [pending, hcomplete])
  | @failed _ _ operation hlt hcomplete hfailed =>
      have hout : pollOutcome (.ok operation) = .error (.verificationFailed
          ("Cloudflare bulk operation failed: " ++ operation.error.getD "None")) :=
        if_neg (by simp [hcomplete])
      rw [← hout]
      exact decidedBy_first (answeredBy_cons_poll hanswers).1 hlt (by simp [pending, hfailed])
  | @asleep elapsed took operation _ hcomplete hfailed hasleep =>
      obtain ⟨hfirst, -⟩ := answeredBy_cons_poll hanswers
      have hpending : pending (polls 0).2 = true := by
        rw [hfirst]
        simp [pending, hcomplete, hfailed]
      refine .inr ⟨?_, rfl⟩
      rintro (- | n) hn
      · exact not_firstDecisive_zero hpending hn
      · rw [firstDecisive_succ_iff hpending, hfirst] at hn
        exact absurd (hasleep.trans le_self_add) (not_le.mpr hn.1)
  | @again elapsed took operation _ _ _ hcomplete hfailed _ _ ih =>
      obtain ⟨hfirst, hrest⟩ := answeredBy_cons_poll hanswers
      have hpending : pending (polls 0).2 = true := by
        rw [hfirst]
        simp [pending, hcomplete, hfailed]
      have hsucc : ∀ n, FirstDecisive polls elapsed (n + 1) ↔ _ := firstDecisive_succ_iff hpending
      rw [hfirst] at hsucc
      rcases ih hrest with ⟨n, hn, hout⟩ | ⟨hnone, hout⟩
      · exact .inl ⟨n + 1, (hsucc n).mpr hn, hout⟩
      · refine .inr ⟨?_, hout⟩
        rintro (- | n) hn
        · exact not_firstDecisive_zero hpending hn
        · exact hnone n ((hsucc n).mp hn)

/-- A property of the outcome is one of the poll that decides, or of the timeout. -/
theorem DecidedBy.iff (h : DecidedBy polls elapsed out) (P : Except SyncError Unit → Prop) :
    P out ↔ (∃ n, FirstDecisive polls elapsed n ∧ P (pollOutcome (polls n).2)) ∨
      (∀ n, ¬ FirstDecisive polls elapsed n) ∧ P (.error bulkTimeout) := by
  rcases h with ⟨n, hn, rfl⟩ | ⟨hnone, rfl⟩
  · constructor
    · intro hP
      exact .inl ⟨n, hn, hP⟩
    · rintro (⟨m, hm, hP⟩ | ⟨hnone, -⟩)
      · rw [hn.unique hm]
        exact hP
      · exact absurd hn (hnone n)
  · constructor
    · intro hP
      exact .inr ⟨hnone, hP⟩
    · rintro (⟨m, hm, -⟩ | ⟨-, hP⟩)
      · exact absurd hm (hnone m)
      · exact hP

end Stream

section Answer

variable {answer : Except CloudflareError CloudflareBulkOperation}

theorem pollOutcome_ok_iff :
    pollOutcome answer = .ok () ↔
      ∃ operation, answer = .ok operation ∧ operation.status = "completed" := by
  rcases answer with err | operation
  · simp [pollOutcome]
  · simp [pollOutcome, CloudflareBulkOperation.isComplete]

theorem pollOutcome_cloudflare_iff {err : CloudflareError} :
    pollOutcome answer = .error (.cloudflare err) ↔ answer = .error err := by
  rcases answer with err' | operation
  · simp [pollOutcome]
  · rcases hc : operation.isComplete with - | -
    · simp [pollOutcome, hc]
    · simp [pollOutcome, hc]

theorem pollOutcome_failed_iff (hanswer : pending answer = false) :
    (∃ message, pollOutcome answer = .error (.verificationFailed message)) ↔
      ∃ operation, answer = .ok operation ∧ operation.status = "failed" := by
  rcases answer with err | operation
  · simp [pollOutcome]
  · rcases hc : operation.isComplete with - | -
    · have hfailed : operation.isFailed = true := by simpa [pending, hc] using hanswer
      simpa [pollOutcome, hc, CloudflareBulkOperation.isFailed] using hfailed
    · have hstatus : operation.status = "completed" := by
        simpa [CloudflareBulkOperation.isComplete] using hc
      simp [pollOutcome, hc, hstatus]

end Answer

/-! ### The wait is bounded and decided by the first terminal status -/

theorem countP_pollRound {p : Coro (Except SyncError (Unit ⊕ Unit))}
    (h : (pollRound c operationId ()).Steps t p) :
    t.countP (fun e => (pollAnswer e).isSome) ≤ 1 := by
  rcases steps_pollRound h with rfl | ⟨took, answer, rfl | ⟨-, rfl⟩⟩
  · simp
  · exact le_refl 1
  · exact le_refl 1

theorem interval_le_pollRound {u : Unit}
    (h : (pollRound c operationId ()).Traces t (.ok (.inl u))) :
    (bulkOperationPollInterval : ℚ≥0) ≤ duration eventTime t := by
  obtain ⟨took, answer, -, rfl⟩ := traces_pollRound_again h
  rw [duration_cons, duration_cons, duration_nil, add_zero]
  exact le_add_self

/-- As many polls as intervals fit into the deadline, and one more. -/
theorem TimedWait.polls_le (h : TimedWait c operationId 0 t out) :
    (t.filterMap pollAnswer).length ≤
      ⌈(bulkOperationTimeout : ℚ≥0) / bulkOperationPollInterval⌉₊ + 1 := by
  obtain ⟨stop, h⟩ := h
  have hone : ∀ s t p, (pollRound c operationId s).Steps t p →
      t.countP (fun e => (pollAnswer e).isSome) ≤ 1 := fun _ _ _ => countP_pollRound
  have hpace : ∀ s t s', (pollRound c operationId s).Traces t (.ok (.inl s')) →
      (bulkOperationPollInterval : ℚ≥0) ≤ duration eventTime t :=
    fun _ _ _ => interval_le_pollRound
  obtain ⟨k, hcount, hk⟩ := h.count_le hone hpace
  have hrounds : (k : ℚ≥0) < bulkOperationTimeout / bulkOperationPollInterval := by
    rw [lt_div_iff₀ (by norm_num [bulkOperationPollInterval])]
    simpa using hk
  have hceil := Nat.lt_ceil.mpr hrounds
  rw [List.length_filterMap_eq_countP]
  omega

/-- **The wait for a bulk operation.**  It is the source's loop under its
deadline, whatever the answers are.  For every stream of poll answers, with the
times they take, it has a run; and every run

* makes as many polls as intervals fit into the deadline, or one more, and ends
  by the deadline, with what is in flight then cancelled;
* returns if the first poll that is not pending reports `completed`, raises the
  poll's own error if it raises one, and raises `_SyncVerificationFailed` if it
  reports `failed` or if no such poll returns before the deadline. -/
theorem bulk_wait (c : Coordinator) (operationId : String) :
    (∀ t out, (asyncWaitForBulkOperation c operationId).Traces t out ↔
      ∃ stop ≤ (bulkOperationTimeout : ℚ≥0),
        DeadlineRun (pollRound c operationId) eventTime bulkOperationTimeout
          (.error bulkTimeout) 0 () t out stop) ∧
    ∀ polls, (∃ t out, (asyncWaitForBulkOperation c operationId).Traces t out ∧
        AnsweredBy polls t) ∧
      ∀ t out, (asyncWaitForBulkOperation c operationId).Traces t out → AnsweredBy polls t →
        (t.filterMap pollAnswer).length ≤
          ⌈(bulkOperationTimeout : ℚ≥0) / bulkOperationPollInterval⌉₊ + 1 ∧
        (∀ before e after, t = before ++ e :: after →
          duration eventTime before < bulkOperationTimeout) ∧
        (out = .ok () ↔ ∃ n, FirstDecisive polls 0 n ∧
          ∃ operation, (polls n).2 = .ok operation ∧ operation.status = "completed") ∧
        (∀ err, out = .error (.cloudflare err) ↔
          ∃ n, FirstDecisive polls 0 n ∧ (polls n).2 = .error err) ∧
        ((∃ message, out = .error (.verificationFailed message)) ↔
          (∃ n, FirstDecisive polls 0 n ∧
            ∃ operation, (polls n).2 = .ok operation ∧ operation.status = "failed") ∨
          ∀ n, ¬ FirstDecisive polls 0 n) := by
  refine ⟨?_, ?_⟩
  · intro t out
    rw [traces_wait_iff]
    constructor
    · rintro ⟨stop, h⟩
      exact ⟨stop, h.stop_le, h⟩
    · rintro ⟨stop, -, h⟩
      exact ⟨stop, h⟩
  · intro polls
    refine ⟨exists_answered _ polls, ?_⟩
    intro t out h hanswers
    have htimed := traces_wait_iff.mp h
    refine ⟨htimed.polls_le, ?_, ?_⟩
    · rintro before e after rfl
      obtain ⟨stop, hrun⟩ := htimed
      simpa using hrun.started
    · have hdecided := (pollRun_of_wait h).decided hanswers
      refine ⟨?_, ?_, ?_⟩
      · rw [hdecided.iff (· = .ok ())]
        simp [pollOutcome_ok_iff]
      · intro err
        rw [hdecided.iff (· = .error (.cloudflare err))]
        simp [pollOutcome_cloudflare_iff]
      · rw [hdecided.iff fun out => ∃ message, out = .error (.verificationFailed message)]
        apply or_congr
        · apply exists_congr
          intro n
          exact and_congr_right fun hn => pollOutcome_failed_iff hn.2.2
        · exact and_iff_left ⟨_, rfl⟩

/-- Two pending polls of unknown status, and `completed` in the third: the wait
returns.  Polls that stay pending: it times out. -/
theorem bulk_wait_third :
    let c : Coordinator := ⟨"e", "home", "acc", "list", "sensor.ip", 5, none, none⟩
    let polls (status : ℕ → String) (n : ℕ) :
        ℚ≥0 × Except CloudflareError CloudflareBulkOperation := (1, .ok ⟨"op", status n, none⟩)
    (∃ t, (asyncWaitForBulkOperation c "op").Traces t (.ok ()) ∧
      AnsweredBy (polls fun n => if n < 2 then "queued" else "completed") t) ∧
    ∃ t message, (asyncWaitForBulkOperation c "op").Traces t
      (.error (.verificationFailed message)) ∧ AnsweredBy (polls fun _ => "") t := by
  intro c polls
  refine ⟨?_, ?_⟩
  · obtain ⟨⟨t, out, h, hanswers⟩, hall⟩ :=
      (bulk_wait c "op").2 (polls fun n => if n < 2 then "queued" else "completed")
    obtain ⟨-, -, hok, -⟩ := hall t out h hanswers
    have hout : out = .ok () := by
      refine hok.mpr ⟨2, ⟨?_, ?_, ?_⟩, _, rfl, rfl⟩
      · norm_num [arrival, polls, bulkOperationPollInterval, bulkOperationTimeout]
      · decide
      · decide
    exact ⟨t, hout ▸ h, hanswers⟩
  · obtain ⟨⟨t, out, h, hanswers⟩, hall⟩ := (bulk_wait c "op").2 (polls fun _ => "")
    obtain ⟨-, -, -, -, hfailed⟩ := hall t out h hanswers
    have hnone : ∀ n, ¬ FirstDecisive (polls fun _ => "") 0 n := by
      rintro n ⟨-, -, hanswer⟩
      have hpending : pending (polls (fun _ => "") n).2 = true := rfl
      rw [hpending] at hanswer
      cases hanswer
    obtain ⟨message, rfl⟩ := hfailed.mpr (.inr hnone)
    exact ⟨t, message, h, hanswers⟩

end CloudflareIpSync
