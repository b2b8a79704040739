/-
CloudflareIpSync/Retry.lean

The runs of the retry loop.  Every complete run is described by an inductive
relation with a constructor for each way a round can go (`RetryRun`), and
`retryRun_of_traces` turns a run into one of these cases.  What holds of every
round is then proved by induction on the cases, without unfolding the loop.
-/
import CloudflareIpSync.Coordinator

namespace CloudflareIpSync

open Interact Ipaddress

/-! ### The retry loop -/

/-- An error after which the retry loop tries again: anything but an
authentication error. -/
def SyncError.retriable : SyncError → Bool
  | .cloudflare err => !err.isAuth
  | .verificationFailed _ => true

theorem SyncError.eq_auth_of_not_retriable {err : SyncError} (h : err.retriable = false) :
    ∃ message, err = .cloudflare (.auth message) := by
  cases err with
  | cloudflare err =>
      cases err with
      | auth message => exact ⟨message, rfl⟩
      | connection | rateLimit | api | result => cases h
  | verificationFailed => cases h

section Retry

variable {α : Type} {maxRetries : ℤ} {body : Coro (Except SyncError α)}

/-- The loop's cases are two: an error it tries again after, and any other
outcome, which it returns. -/
theorem retryLoop_cons (attempt : ℤ) (rest : List ℤ) (delay : ℕ) (lastErr : Option SyncError) :
    retryLoop maxRetries body (attempt :: rest) delay lastErr = (do
      match ← body with
      | .ok value => return .ok value
      | .error err =>
          if err.retriable = true then
            if attempt < maxRetries then do
              asyncSleep delay
              retryLoop maxRetries body rest (min (delay * 2) syncMaxBackoff) (some err)
            else retryLoop maxRetries body rest delay (some err)
          else return .error err) := by
  rw [retryLoop]
  congr 1
  funext r
  rcases r with (err | message) | value
  · cases err <;> rfl
  · rfl
  · rfl

/-- The complete runs of `retryLoop`. -/
inductive RetryRun (maxRetries : ℤ) (body : Coro (Except SyncError α)) :
    List ℤ → ℕ → Option SyncError → List Ev → Except SyncError α → Prop
  | exhausted (delay : ℕ) (lastErr : Option SyncError) :
      RetryRun maxRetries body [] delay lastErr [] (.error (.verificationFailed
        ("Failed after " ++ toString maxRetries ++ " attempts: " ++ strOrNone lastErr)))
  | success {attempt rest delay lastErr t value} :
      body.Traces t (.ok value) →
      RetryRun maxRetries body (attempt :: rest) delay lastErr t (.ok value)
  | auth {attempt rest delay lastErr t message} :
      body.Traces t (.error (.cloudflare (.auth message))) →
      RetryRun maxRetries body (attempt :: rest) delay lastErr t
        (.error (.cloudflare (.auth message)))
  | again {attempt rest delay lastErr t t' err out} :
      body.Traces t (.error err) → err.retriable = true → attempt < maxRetries →
      RetryRun maxRetries body rest (min (delay * 2) syncMaxBackoff) (some err) t' out →
      RetryRun maxRetries body (attempt :: rest) delay lastErr
        (t ++ ⟨Action.sleep delay, ()⟩ :: t') out
  | last {attempt rest delay lastErr t t' err out} :
      body.Traces t (.error err) → err.retriable = true → ¬ attempt < maxRetries →
      RetryRun maxRetries body rest delay (some err) t' out →
      RetryRun maxRetries body (attempt :: rest) delay lastErr (t ++ t') out

theorem retryRun_of_traces {attempts : List ℤ} {delay : ℕ} {lastErr : Option SyncError}
    {t : List Ev} {out : Except SyncError α}
    (h : (retryLoop maxRetries body attempts delay lastErr).Traces t out) :
    RetryRun maxRetries body attempts delay lastErr t out := by
  induction attempts generalizing delay lastErr t with
  | nil =>
      obtain ⟨rfl, rfl⟩ := Prog.traces_ret_iff.mp h
      exact .exhausted delay lastErr
  | cons attempt rest ih =>
      rw [retryLoop_cons, Prog.traces_bind_iff] at h
      obtain ⟨t₁, r, t₂, rfl, hbody, hrest⟩ := h
      rcases r with err | value
      · dsimp only at hrest
        rcases hretry : err.retriable with - | -
        · rw [hretry, if_neg Bool.false_ne_true] at hrest
          obtain ⟨rfl, rfl⟩ := Prog.traces_ret_iff.mp hrest
          obtain ⟨message, rfl⟩ := SyncError.eq_auth_of_not_retriable hretry
          rw [List.append_nil]
          exact .auth hbody
        · rw [hretry, if_pos rfl] at hrest
          by_cases hlt : attempt < maxRetries
          · rw [if_pos hlt, asyncSleep, Prog.call_bind, Prog.traces_op_iff] at hrest
            obtain ⟨_, t', rfl, hloop⟩ := hrest
            exact .again hbody hretry hlt (ih hloop)
          · rw [if_neg hlt] at hrest
            exact .last hbody hretry hlt (ih hrest)
      · obtain ⟨rfl, rfl⟩ := Prog.traces_ret_iff.mp hrest
        rw [List.append_nil]
        exact .success hbody

/-- A retry loop raises authentication errors and `_SyncVerificationFailed`, no
other error of its attempts. -/
theorem RetryRun.error_cases {attempts : List ℤ} {delay : ℕ} {lastErr : Option SyncError}
    {t : List Ev} {err : SyncError}
    (h : RetryRun maxRetries body attempts delay lastErr t (.error err)) :
    (∃ message, err = .cloudflare (.auth message)) ∨
      ∃ message, err = .verificationFailed message := by
  generalize hout : (Except.error err : Except SyncError α) = out at h
  induction h with
  | exhausted => cases hout; exact .inr ⟨_, rfl⟩
  | success => cases hout
  | auth => cases hout; exact .inl ⟨_, rfl⟩
  | again _ _ _ _ ih => exact ih hout
  | last _ _ _ _ ih => exact ih hout

/-- The value a retry loop returns is that of its last attempt. -/
theorem RetryRun.ok_last {attempts : List ℤ} {delay : ℕ} {lastErr : Option SyncError}
    {t : List Ev} {value : α}
    (h : RetryRun maxRetries body attempts delay lastErr t (.ok value)) :
    ∃ t₁ t₂, t = t₁ ++ t₂ ∧ body.Traces t₂ (.ok value) := by
  generalize hout : (Except.ok value : Except SyncError α) = out at h
  induction h with
  | exhausted => cases hout
  | success hbody => cases hout; exact ⟨[], _, rfl, hbody⟩
  | auth => cases hout
  | @again _ _ delay _ t _ _ _ _ _ _ _ ih =>
      obtain ⟨t₁, t₂, rfl, hbody⟩ := ih hout
      exact ⟨t ++ ⟨Action.sleep delay, ()⟩ :: t₁, t₂, by simp, hbody⟩
  | @last _ _ _ _ t _ _ _ _ _ _ _ ih =>
      obtain ⟨t₁, t₂, rfl, hbody⟩ := ih hout
      exact ⟨t ++ t₁, t₂, by simp, hbody⟩

/-- What a retry loop does is a backoff sleep or part of an attempt. -/
theorem RetryRun.mem_cases {attempts : List ℤ} {delay : ℕ} {lastErr : Option SyncError}
    {t : List Ev} {out : Except SyncError α} {e : Ev}
    (h : RetryRun maxRetries body attempts delay lastErr t out) (he : e ∈ t) :
    (∃ n, e = ⟨Action.sleep n, ()⟩) ∨ ∃ t' out', t' <:+: t ∧ body.Traces t' out' ∧ e ∈ t' := by
  induction h with
  | exhausted => cases he
  | @success _ _ _ _ t _ hbody => exact .inr ⟨t, _, List.infix_refl t, hbody, he⟩
  | @auth _ _ _ _ t _ hbody => exact .inr ⟨t, _, List.infix_refl t, hbody, he⟩
  | @again _ _ delay _ t rest _ _ hbody _ _ _ ih =>
      rcases List.mem_append.mp he with he | he
      · exact .inr ⟨t, _, (List.prefix_append _ _).isInfix, hbody, he⟩
      rcases List.mem_cons.mp he with rfl | he
      · exact .inl ⟨delay, rfl⟩
      · refine (ih he).imp_right ?_
        rintro ⟨t', out', hsub, hbody', hmem⟩
        have hrest : rest <:+: t ++ ⟨Action.sleep delay, ()⟩ :: rest :=
          ((List.suffix_cons _ _).trans (List.suffix_append _ _)).isInfix
        exact ⟨t', out', hsub.trans hrest, hbody', hmem⟩
  | @last _ _ _ _ t rest _ _ hbody _ _ _ ih =>
      rcases List.mem_append.mp he with he | he
      · exact .inr ⟨t, _, (List.prefix_append _ _).isInfix, hbody, he⟩
      · refine (ih he).imp_right ?_
        rintro ⟨t', out', hsub, hbody', hmem⟩
        exact ⟨t', out', hsub.trans (List.suffix_append _ _).isInfix, hbody', hmem⟩

/-- A property of the body's actions and of the backoff sleep is a property of
the loop's actions. -/
theorem emits_retryLoop {P : Action → Prop} (hbody : body.Emits P)
    (hsleep : ∀ n, P (.sleep n)) (attempts : List ℤ) (delay : ℕ)
    (lastErr : Option SyncError) :
    (retryLoop maxRetries body attempts delay lastErr).Emits P := by
  induction attempts generalizing delay lastErr with
  | nil => trivial
  | cons attempt rest ih =>
      rw [retryLoop_cons]
      apply hbody.bind
      rintro (err | value)
      · show Prog.Emits P (if _ then _ else _)
        split
        · split
          · exact ⟨hsleep delay, fun _ => ih _ _⟩
          · exact ih _ _
        · trivial
      · trivial

end Retry

end CloudflareIpSync
