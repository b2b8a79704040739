/-
CloudflareIpSync/RetryLaw.lean

The law of both retry loops, stated without a loop.

A loop meets a sequence of attempts, of which it makes a prefix.  The sequence
alone decides how long the prefix is (`attemptsMade`), which sleeps lie between
the attempts (`backoff`), and what comes out (`retryResult`).
`retry_law` says that the runs of `_async_sync_with_retry` and
`_async_sync_dns_with_retry` are exactly those of the law.
-/
import CloudflareIpSync.Retry
import Mathlib.Data.List.Basic

namespace CloudflareIpSync

open Interact

/-! ### The law -/

/-- The attempts that a loop may make: what each of them does, and how it ends. -/
abbrev Attempts (α : Type) := ℕ → List Ev × Except SyncError α

section Law

variable {α : Type}

/-- A success or an authentication error. -/
def decides : Except SyncError α → Bool
  | .ok _ => true
  | .error err => !err.retriable

/-- The first of `n` attempts that decides. -/
def firstDecisive (attempts : Attempts α) (n : ℕ) : Option ℕ :=
  (List.range n).find? fun i => decides (attempts i).2

/-- How many attempts are made: those up to the first one that decides, or all
`n` if there is none. -/
def attemptsMade (attempts : Attempts α) (n : ℕ) : ℕ :=
  match firstDecisive attempts n with
  | some i => i + 1
  | none => n

/-- Seconds of the `i`-th sleep. -/
def backoff (i : ℕ) : ℕ := min (syncInitialBackoff * 2 ^ (i - 1)) syncMaxBackoff

/-- The `i`-th sleep. -/
def backoffSleep (i : ℕ) : Ev := ⟨Action.sleep (backoff i), ()⟩

/-- The first `k` attempts, with one sleep between two of them. -/
def spaced (attempts : Attempts α) (k : ℕ) : List Ev :=
  (List.range k).flatMap fun i =>
    (if i = 0 then [] else [backoffSleep i]) ++ (attempts i).1

/-- The error of the last of `n` attempts. -/
def lastError (attempts : Attempts α) : ℕ → Option SyncError
  | 0 => none
  | n + 1 =>
      match (attempts n).2 with
      | .error err => some err
      | .ok _ => none

/-- What comes out: what the first attempt that decides gave, or an error that
names the limit and the error of the last attempt. -/
def retryResult (limit : ℤ) (attempts : Attempts α) (n : ℕ) : Except SyncError α :=
  match firstDecisive attempts n with
  | some i => (attempts i).2
  | none => .error (.verificationFailed
      ("Failed after " ++ toString limit ++ " attempts: " ++ strOrNone (lastError attempts n)))

/-- The runs of at most `limit` attempts with `body`. -/
def RetryLaw (limit : ℤ) (body : Coro (Except SyncError α)) (t : List Ev)
    (out : Except SyncError α) : Prop :=
  ∃ attempts : Attempts α,
    (∀ i < attemptsMade attempts limit.toNat, body.Traces (attempts i).1 (attempts i).2) ∧
    t = spaced attempts (attemptsMade attempts limit.toNat) ∧
    out = retryResult limit attempts limit.toNat

/-! ### The law from the middle of a loop -/

/-- `spaced`, with the sleeps counted on from `j`. -/
def spacedFrom (j : ℕ) (attempts : Attempts α) (k : ℕ) : List Ev :=
  (List.range k).flatMap fun i =>
    (if i = 0 then [] else [backoffSleep (j + i)]) ++ (attempts i).1

/-- `retryResult`, after an attempt that raised `lastErr`. -/
def resultFrom (limit : ℤ) (lastErr : Option SyncError) (attempts : Attempts α) (n : ℕ) :
    Except SyncError α :=
  match n with
  | 0 => .error (.verificationFailed
      ("Failed after " ++ toString limit ++ " attempts: " ++ strOrNone lastErr))
  | n + 1 => retryResult limit attempts (n + 1)

theorem spacedFrom_zero (attempts : Attempts α) (k : ℕ) :
    spacedFrom 0 attempts k = spaced attempts k := by
  simp only [spacedFrom, spaced, zero_add]

theorem resultFrom_none (limit : ℤ) (attempts : Attempts α) (n : ℕ) :
    resultFrom limit none attempts n = retryResult limit attempts n := by
  cases n with
  | zero => rfl
  | succ n => rfl

/-- What is left of the attempts after the first one. -/
def Attempts.tail (attempts : Attempts α) : Attempts α := fun i => attempts (i + 1)

/-- One more attempt before the others. -/
def Attempts.cons (first : List Ev × Except SyncError α) (rest : Attempts α) : Attempts α
  | 0 => first
  | i + 1 => rest i

theorem firstDecisive_succ (attempts : Attempts α) (n : ℕ) :
    firstDecisive attempts (n + 1) =
      if decides (attempts 0).2 = true then some 0
      else (firstDecisive attempts.tail n).map (· + 1) := by
  rw [firstDecisive, List.range_succ_eq_map, List.find?_cons, List.find?_map]
  rcases decides (attempts 0).2 with - | -
  · rfl
  · rfl

theorem attemptsMade_succ (attempts : Attempts α) (n : ℕ) :
    attemptsMade attempts (n + 1) =
      if decides (attempts 0).2 = true then 1 else attemptsMade attempts.tail n + 1 := by
  unfold attemptsMade
  rw [firstDecisive_succ]
  rcases decides (attempts 0).2 with - | -
  · rcases firstDecisive attempts.tail n with - | i
    · rfl
    · rfl
  · rfl

theorem attemptsMade_eq_zero_iff (attempts : Attempts α) (n : ℕ) :
    attemptsMade attempts n = 0 ↔ n = 0 := by
  cases n with
  | zero => exact ⟨fun _ => rfl, fun _ => rfl⟩
  | succ n =>
      rw [attemptsMade_succ]
      split
      · simp
      · simp

theorem spacedFrom_succ (j : ℕ) (attempts : Attempts α) (k : ℕ) :
    spacedFrom j attempts (k + 1) =
      (attempts 0).1 ++ (if k = 0 then [] else [backoffSleep (j + 1)]) ++
        spacedFrom (j + 1) attempts.tail k := by
  unfold spacedFrom
  rw [List.range_succ_eq_map, List.flatMap_cons, List.flatMap_map, if_pos rfl, List.nil_append,
    List.append_assoc]
  congr 1
  cases k with
  | zero => rfl
  | succ k =>
      rw [List.range_succ_eq_map, List.flatMap_cons, List.flatMap_map, List.flatMap_cons,
        List.flatMap_map]
      simp [Attempts.tail, Nat.add_comm, Nat.add_left_comm]

theorem resultFrom_succ (limit : ℤ) (lastErr : Option SyncError) (attempts : Attempts α)
    (n : ℕ) :
    resultFrom limit lastErr attempts (n + 1) =
      if decides (attempts 0).2 = true then (attempts 0).2
      else resultFrom limit (lastError attempts 1) attempts.tail n := by
  rw [resultFrom, retryResult, firstDecisive_succ]
  rcases decides (attempts 0).2 with - | -
  · cases n with
    | zero => rfl
    | succ n =>
        simp only [resultFrom, retryResult]
        rcases firstDecisive attempts.tail (n + 1) with - | i
        · rfl
        · rfl
  · rfl

/-- `RetryLaw`, for `n` more attempts after `j` attempts. -/
def RetryLawFrom (limit : ℤ) (body : Coro (Except SyncError α)) (j n : ℕ)
    (lastErr : Option SyncError) (t : List Ev) (out : Except SyncError α) : Prop :=
  ∃ attempts : Attempts α,
    (∀ i < attemptsMade attempts n, body.Traces (attempts i).1 (attempts i).2) ∧
    t = spacedFrom j attempts (attemptsMade attempts n) ∧
    out = resultFrom limit lastErr attempts n

section From

variable {limit : ℤ} {body : Coro (Except SyncError α)} {j n : ℕ} {lastErr : Option SyncError}
  {t : List Ev} {out : Except SyncError α}

theorem retryLawFrom_zero_iff :
    RetryLawFrom limit body j 0 lastErr t out ↔
      t = [] ∧ out = .error (.verificationFailed
        ("Failed after " ++ toString limit ++ " attempts: " ++ strOrNone lastErr)) := by
  constructor
  · rintro ⟨attempts, -, rfl, rfl⟩
    exact ⟨rfl, rfl⟩
  · rintro ⟨rfl, rfl⟩
    refine ⟨fun _ => ([], .error (.verificationFailed "")), ?_, rfl, rfl⟩
    intro i hi
    cases hi

/-- A first attempt that decides is the only one. -/
theorem retryLawFrom_of_decides (hbody : body.Traces t out) (hdecides : decides out = true) :
    RetryLawFrom limit body j (n + 1) lastErr t out := by
  have hmade : attemptsMade (fun _ => (t, out)) (n + 1) = 1 := by
    rw [attemptsMade_succ, if_pos hdecides]
  refine ⟨fun _ => (t, out), fun _ _ => hbody, ?_, ?_⟩
  · rw [hmade]
    simp [spacedFrom]
  · rw [resultFrom_succ, if_pos hdecides]

/-- After a first attempt that does not decide come a sleep, unless it is the
last, and the others. -/
theorem RetryLawFrom.cons {err : SyncError} {t₁ : List Ev}
    (hbody : body.Traces t₁ (.error err)) (hretry : err.retriable = true)
    (hrest : RetryLawFrom limit body (j + 1) n (some err) t out) :
    RetryLawFrom limit body j (n + 1) lastErr
      (t₁ ++ ((if n = 0 then [] else [backoffSleep (j + 1)]) ++ t)) out := by
  obtain ⟨rest, htail, rfl, rfl⟩ := hrest
  have hfirst : ¬ decides (Except.error err : Except SyncError α) = true := by
    simp [decides, hretry]
  have hmade : attemptsMade (Attempts.cons (t₁, .error err) rest) (n + 1) =
      attemptsMade rest n + 1 := by
    rw [attemptsMade_succ]
    exact if_neg hfirst
  refine ⟨.cons (t₁, .error err) rest, ?_, ?_, ?_⟩
  · intro i hi
    rw [hmade] at hi
    cases i with
    | zero => exact hbody
    | succ i => exact htail i (Nat.lt_of_succ_lt_succ hi)
  · rw [hmade, spacedFrom_succ, List.append_assoc]
    simp only [attemptsMade_eq_zero_iff]
    rfl
  · rw [resultFrom_succ]
    exact (if_neg hfirst).symm

/-- The first attempt of the law, and the others. -/
theorem retryLawFrom_succ_iff :
    RetryLawFrom limit body j (n + 1) lastErr t out ↔
      (body.Traces t out ∧ decides out = true) ∨
        ∃ t₁ err t₂, body.Traces t₁ (.error err) ∧ err.retriable = true ∧
          RetryLawFrom limit body (j + 1) n (some err) t₂ out ∧
          t = t₁ ++ ((if n = 0 then [] else [backoffSleep (j + 1)]) ++ t₂) := by
  constructor
  · rintro ⟨attempts, hbody, rfl, rfl⟩
    have hfirst : body.Traces (attempts 0).1 (attempts 0).2 := by
      apply hbody 0
      rw [Nat.pos_iff_ne_zero, ne_eq, attemptsMade_eq_zero_iff]
      exact n.succ_ne_zero
    rcases hdecides : decides (attempts 0).2 with - | -
    · right
      have hno : ¬ decides (attempts 0).2 = true := by simp [hdecides]
      have hmade : attemptsMade attempts (n + 1) = attemptsMade attempts.tail n + 1 := by
        rw [attemptsMade_succ, if_neg hno]
      rcases hout : (attempts 0).2 with err | value
      · have hlast : lastError attempts 1 = some err := by simp only [lastError, hout]
        have hretry : err.retriable = true := by simpa [decides, hout] using hdecides
        have hresult : resultFrom limit lastErr attempts (n + 1) =
            resultFrom limit (some err) attempts.tail n := by
          rw [resultFrom_succ, if_neg hno, hlast]
        rw [hout] at hfirst
        refine ⟨_, err, _, hfirst, hretry, ⟨attempts.tail, ?_, rfl, hresult⟩, ?_⟩
        · intro i hi
          apply hbody (i + 1)
          rw [hmade]
          exact Nat.succ_lt_succ hi
        · rw [hmade, spacedFrom_succ, List.append_assoc]
          simp only [attemptsMade_eq_zero_iff]
      · rw [hout] at hdecides
        cases hdecides
    · left
      have hmade : attemptsMade attempts (n + 1) = 1 := by
        rw [attemptsMade_succ, if_pos hdecides]
      have hresult : resultFrom limit lastErr attempts (n + 1) = (attempts 0).2 := by
        rw [resultFrom_succ, if_pos hdecides]
      rw [hmade, hresult]
      exact ⟨by simpa [spacedFrom] using hfirst, hdecides⟩
  · rintro (⟨hbody, hdecides⟩ | ⟨t₁, err, t₂, hbody, hretry, hrest, rfl⟩)
    · exact retryLawFrom_of_decides hbody hdecides
    · exact hrest.cons hbody hretry

end From

end Law

/-! ### The loop follows the law -/

section Loop

variable {α : Type} {limit : ℤ} {body : Coro (Except SyncError α)} {t : List Ev}
  {out : Except SyncError α}

/-- The first round of a loop, and the rest. -/
theorem traces_retryLoop_cons_iff {attempt : ℤ} {rest : List ℤ} {delay : ℕ}
    {lastErr : Option SyncError} :
    (retryLoop limit body (attempt :: rest) delay lastErr).Traces t out ↔
      (body.Traces t out ∧ decides out = true) ∨
        ∃ t₁ err t₂, body.Traces t₁ (.error err) ∧ err.retriable = true ∧
          (if attempt < limit then asyncSleep delay >>= fun _ =>
              retryLoop limit body rest (min (delay * 2) syncMaxBackoff) (some err)
            else retryLoop limit body rest delay (some err)).Traces t₂ out ∧
          t = t₁ ++ t₂ := by
  rw [retryLoop_cons, Prog.traces_bind_iff]
  constructor
  · rintro ⟨t₁, first, t₂, rfl, hbody, hrest⟩
    rcases first with err | value
    · dsimp only at hrest
      rcases hretry : err.retriable with - | -
      · rw [hretry, if_neg Bool.false_ne_true] at hrest
        obtain ⟨rfl, rfl⟩ := Prog.traces_ret_iff.mp hrest
        rw [List.append_nil]
        exact .inl ⟨hbody, by rw [decides, hretry]; rfl⟩
      · rw [hretry, if_pos rfl] at hrest
        exact .inr ⟨t₁, err, t₂, hbody, hretry, hrest, rfl⟩
    · obtain ⟨rfl, rfl⟩ := Prog.traces_ret_iff.mp hrest
      rw [List.append_nil]
      exact .inl ⟨hbody, rfl⟩
  · rintro (⟨hbody, hdecides⟩ | ⟨t₁, err, t₂, hbody, hretry, hrest, rfl⟩)
    · refine ⟨t, out, [], (List.append_nil t).symm, hbody, ?_⟩
      rcases out with err | value
      · have hretry : ¬ err.retriable = true := by simpa [decides] using hdecides
        show Prog.Traces (if _ then _ else _) _ _
        rw [if_neg hretry]
        exact Prog.traces_ret_iff.mpr ⟨rfl, rfl⟩
      · exact Prog.traces_ret_iff.mpr ⟨rfl, rfl⟩
    · refine ⟨t₁, .error err, t₂, rfl, hbody, ?_⟩
      show Prog.Traces (if _ then _ else _) _ _
      rw [if_pos hretry]
      exact hrest

/-- The delay doubles up to its maximum. -/
theorem backoff_succ (j : ℕ) : min (backoff (j + 1) * 2) syncMaxBackoff = backoff (j + 2) := by
  unfold backoff
  rw [show j + 2 - 1 = j + 1 from rfl, Nat.add_sub_cancel, pow_succ, ← mul_assoc]
  omega

/-- The runs of the loop with `n` attempts to go, after `j` attempts. -/
theorem traces_retryLoop_iff {j n delay : ℕ} {lastErr : Option SyncError}
    (hlimit : j + n = limit.toNat) (hdelay : n ≠ 0 → delay = backoff (j + 1)) :
    (retryLoop limit body ((List.range' j n).map fun i : ℕ => 1 + (i : ℤ)) delay
        lastErr).Traces t out ↔ RetryLawFrom limit body j n lastErr t out := by
  induction n generalizing j delay lastErr t with
  | zero =>
      rw [retryLawFrom_zero_iff]
      exact Prog.traces_ret_iff
  | succ n ih =>
      obtain rfl := hdelay n.succ_ne_zero
      have hrest : ∀ t₂ err,
          (if 1 + (j : ℤ) < limit then asyncSleep (backoff (j + 1)) >>= fun _ =>
              retryLoop limit body ((List.range' (j + 1) n).map fun i : ℕ => 1 + (i : ℤ))
                (min (backoff (j + 1) * 2) syncMaxBackoff) (some err)
            else retryLoop limit body ((List.range' (j + 1) n).map fun i : ℕ => 1 + (i : ℤ))
              (backoff (j + 1)) (some err)).Traces t₂ out ↔
            ∃ t₃, RetryLawFrom limit body (j + 1) n (some err) t₃ out ∧
              t₂ = (if n = 0 then [] else [backoffSleep (j + 1)]) ++ t₃ := by
        intro t₂ err
        have hlt : 1 + (j : ℤ) < limit ↔ n ≠ 0 := by omega
        by_cases hn : n = 0
        · rw [if_neg fun hmore => hlt.mp hmore hn, if_pos hn,
            ih (by omega) fun hn' => absurd hn hn']
          constructor
          · intro h
            exact ⟨t₂, h, rfl⟩
          · rintro ⟨t₃, h, rfl⟩
            exact h
        · rw [if_pos (hlt.mpr hn), if_neg hn, asyncSleep, Prog.call_bind, Prog.traces_op_iff,
            backoff_succ]
          constructor
          · rintro ⟨⟨⟩, t₃, rfl, h⟩
            exact ⟨t₃, (ih (by omega) fun _ => rfl).mp h, rfl⟩
          · rintro ⟨t₃, h, rfl⟩
            exact ⟨(), t₃, rfl, (ih (by omega) fun _ => rfl).mpr h⟩
      rw [List.range'_succ, List.map_cons, traces_retryLoop_cons_iff, retryLawFrom_succ_iff]
      apply or_congr_right
      constructor
      · rintro ⟨t₁, err, t₂, hbody, hretry, hloop, rfl⟩
        obtain ⟨t₃, hlaw, rfl⟩ := (hrest t₂ err).mp hloop
        exact ⟨t₁, err, t₃, hbody, hretry, hlaw, rfl⟩
      · rintro ⟨t₁, err, t₃, hbody, hretry, hlaw, rfl⟩
        exact ⟨t₁, err, _, hbody, hretry, (hrest _ err).mpr ⟨t₃, hlaw, rfl⟩, rfl⟩

/-- A loop over `range(1, limit + 1)` that starts with the initial backoff
follows the law. -/
theorem traces_retryLoop_iff_retryLaw :
    (retryLoop limit body (pyRange 1 (limit + 1)) syncInitialBackoff none).Traces t out ↔
      RetryLaw limit body t out := by
  have hrange : pyRange 1 (limit + 1) =
      (List.range' 0 limit.toNat).map fun i : ℕ => 1 + (i : ℤ) := by
    rw [pyRange, List.range_eq_range', add_sub_cancel_right]
  have hinitial : syncInitialBackoff = backoff 1 := rfl
  rw [hrange, hinitial, traces_retryLoop_iff (zero_add _) fun _ => rfl]
  unfold RetryLawFrom RetryLaw
  simp only [spacedFrom_zero, resultFrom_none]

end Loop

/-- **The retry law.** Both methods make the attempts up to the first success or
authentication error, `max_retries` of them at most, with a doubling sleep
between two of them; they return what that attempt gave, or raise an error that
names the limit and the last error. -/
theorem retry_law (c : Coordinator) (localIp : String) :
    (∀ t out, (asyncSyncWithRetry c localIp).Traces t out ↔
      RetryLaw c.maxRetries (asyncReplaceAndVerify c localIp) t out) ∧
    ∀ target t out, (asyncSyncDnsWithRetry c target localIp).Traces t out ↔
      RetryLaw c.maxRetries (asyncUpsertDnsRecord target localIp) t out :=
  ⟨fun _ _ => traces_retryLoop_iff_retryLaw, fun _ _ _ => traces_retryLoop_iff_retryLaw⟩

end CloudflareIpSync
