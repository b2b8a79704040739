/-
CloudflareIpSync/Outcomes.lean

How a refresh ends, and that it stops at the first authentication error.

* `authError`: the message of the authentication error that a call of the Rule
  List half raises.  A poll that is still in flight at the deadline of its wait
  is cancelled and raises nothing, so the time waited so far is an argument.
* `FailFast`: a run in which no call raises such an error, except that the last
  one does if the run is cut short.

Each coroutine of the list half is cut short exactly if it ends in an
authentication error (`ListRun.failFast`).  The calls of the DNS half never
cut a run short, whatever they are answered.
-/
import CloudflareIpSync.Hass

namespace CloudflareIpSync

open Interact

variable {c : Coordinator} {localIp : String} {elapsed : ℚ≥0} {t u : List Ev} {e : Ev}

/-! ### Authentication errors -/

/-- Seconds into the wait for a bulk operation, after an event.  A replace
request starts the wait. -/
def waitStep (elapsed : ℚ≥0) : Ev → ℚ≥0
  | ⟨.replaceListItems _ _ _, _⟩ => 0
  | ⟨.getBulkOperation _ _, (took, _)⟩ => elapsed + took
  | ⟨.sleep seconds, _⟩ => elapsed + seconds
  | _ => elapsed

/-- Seconds into the wait for a bulk operation, after the events of a run. -/
def waited (elapsed : ℚ≥0) (t : List Ev) : ℚ≥0 := t.foldl waitStep elapsed

/-- The message of the `CloudflareAuthError` that a list read, a replace request
or a poll raises, `elapsed` seconds into the wait. -/
def authError (elapsed : ℚ≥0) : Ev → Option String
  | ⟨.getListItems _ _, .error (.auth message)⟩ => some message
  | ⟨.replaceListItems _ _ _, .error (.auth message)⟩ => some message
  | ⟨.getBulkOperation _ _, (took, .error (.auth message))⟩ =>
      if elapsed + took < bulkOperationTimeout then some message else none
  | _ => none

/-- No call raises an authentication error, except for the last one of a run
that such an error cuts short. -/
inductive FailFast : ℚ≥0 → List Ev → Option String → Prop
  | done (elapsed : ℚ≥0) : FailFast elapsed [] none
  | refused {elapsed : ℚ≥0} {e : Ev} {message : String} : authError elapsed e = some message →
      FailFast elapsed [e] (some message)
  | step {elapsed : ℚ≥0} {e : Ev} {t : List Ev} {cut : Option String} :
      authError elapsed e = none → FailFast (waitStep elapsed e) t cut →
      FailFast elapsed (e :: t) cut

theorem FailFast.append {cut : Option String} (ht : FailFast elapsed t none)
    (hu : FailFast (waited elapsed t) u cut) : FailFast elapsed (t ++ u) cut := by
  generalize hnone : (none : Option String) = cut' at ht
  induction ht with
  | done => exact hu
  | refused => cases hnone
  | step he _ ih => exact .step he (ih hu hnone)

/-- A run without such an error, of which only the events are known. -/
theorem failFast_of_forall (h : ∀ e ∈ t, ∀ elapsed, authError elapsed e = none) :
    FailFast elapsed t none := by
  induction t generalizing elapsed with
  | nil => exact .done elapsed
  | cons e t ih =>
      apply FailFast.step (h e List.mem_cons_self elapsed)
      apply ih
      intro e' he'
      exact h e' (List.mem_cons_of_mem e he')

/-- One call: it cuts the run short exactly if it raises the error. -/
theorem failFast_singleton : FailFast elapsed [e] (authError elapsed e) := by
  rcases he : authError elapsed e with - | message
  · exact .step he (.done _)
  · exact .refused he

/-- A call that raises the error is the last event, and the error cuts the run
short. -/
theorem FailFast.last {cut : Option String} {before after : List Ev} {message : String}
    (h : FailFast elapsed (before ++ e :: after) cut)
    (he : authError (waited elapsed before) e = some message) :
    cut = some message ∧ after = [] := by
  induction before generalizing elapsed with
  | nil =>
      rw [List.nil_append] at h
      replace he : authError elapsed e = some message := he
      cases h with
      | refused he' => exact ⟨he'.symm.trans he, rfl⟩
      | step hnone _ => cases hnone.symm.trans he
  | cons e₁ before ih =>
      rw [List.cons_append] at h
      generalize hrest : before ++ e :: after = rest at h
      cases h with
      | refused => cases (List.append_eq_nil_iff.mp hrest).2
      | step _ h =>
          subst hrest
          exact ih h he

/-- A run is cut short exactly if some call raises the error. -/
theorem FailFast.cut_iff {cut : Option String} (h : FailFast elapsed t cut) (message : String) :
    cut = some message ↔ ∃ before e after, t = before ++ e :: after ∧
      authError (waited elapsed before) e = some message := by
  constructor
  · rintro rfl
    generalize hsome : some message = cut at h
    induction h with
    | done => cases hsome
    | @refused _ e _ he => cases hsome; exact ⟨[], e, [], rfl, he⟩
    | @step _ e _ _ _ _ ih =>
        obtain ⟨before, e', after, rfl, he'⟩ := ih hsome
        exact ⟨e :: before, e', after, rfl, he'⟩
  · rintro ⟨before, e, after, rfl, he⟩
    exact (h.last he).1

/-! ### The coroutines of the list half -/

/-- The message of the authentication error a coroutine ends in. -/
def refusal {α : Type} : Except SyncError α → Option String
  | .error (.cloudflare (.auth message)) => some message
  | _ => none

theorem refusal_of_retriable {α : Type} {err : SyncError} (h : err.retriable = true) :
    refusal (.error err : Except SyncError α) = none := by
  cases err with
  | cloudflare err =>
      cases err with
      | auth message => cases h
      | connection | rateLimit | api | result => rfl
  | verificationFailed => rfl

/-- A poll that came back in time raises what it was answered. -/
theorem authError_poll {operationId : String} {took : ℚ≥0} {err : CloudflareError}
    (h : elapsed + took < bulkOperationTimeout) :
    authError elapsed (pollEv c operationId took (.error err)) =
      refusal (.error (.cloudflare err) : Except SyncError Unit) := by
  cases err with
  | auth message => exact if_pos h
  | connection | rateLimit | api | result => rfl

/-- A poll that the deadline cancelled raises nothing. -/
theorem authError_late {operationId : String} {took : ℚ≥0}
    {answer : Except CloudflareError CloudflareBulkOperation}
    (h : bulkOperationTimeout ≤ elapsed + took) :
    authError elapsed (pollEv c operationId took answer) = none := by
  rcases answer with err | operation
  · cases err with
    | auth message => exact if_neg (not_lt.mpr h)
    | connection | rateLimit | api | result => rfl
  · rfl

theorem PollRun.failFast {operationId : String} {out : Except SyncError Unit}
    (h : PollRun c operationId elapsed t out) : FailFast elapsed t (refusal out) := by
  induction h with
  | late hlate => exact .step (authError_late hlate) (.done _)
  | raised hintime =>
      rw [← authError_poll hintime]
      exact failFast_singleton
  | completed | failed => exact .step rfl (.done _)
  | asleep => exact .step rfl (.step rfl (.done _))
  | again _ _ _ _ _ ih => exact .step rfl (.step rfl ih)

/-- A list read raises what it was answered. -/
theorem authError_read (err : CloudflareError) :
    authError elapsed (readEv c (.error err)) =
      refusal (.error (.cloudflare err) : Except SyncError (List String)) := by
  cases err <;> rfl

theorem authError_replace (err : CloudflareError) :
    authError elapsed (replaceEv c localIp (.error err)) =
      refusal (.error (.cloudflare err) : Except SyncError (List String)) := by
  cases err <;> rfl

/-- An error has the same message whatever the coroutine would have returned. -/
theorem refusal_error {α β : Type} (err : SyncError) :
    refusal (.error err : Except SyncError α) = refusal (.error err : Except SyncError β) := by
  cases err with
  | cloudflare err => cases err <;> rfl
  | verificationFailed => rfl

theorem ReplaceRun.failFast {out : Except SyncError (List String)}
    (h : ReplaceRun c localIp t out) (elapsed : ℚ≥0) : FailFast elapsed t (refusal out) := by
  -- a replace request that was accepted starts the wait
  have accepted : ∀ {operationId u cut}, FailFast 0 u cut →
      FailFast elapsed (replaceEv c localIp (.ok operationId) :: u) cut := fun h => .step rfl h
  cases h with
  | replaceRaised err =>
      rw [← authError_replace]
      exact failFast_singleton
  | @waitRaised _ _ err hpoll =>
      rw [refusal_error (β := Unit) err]
      exact accepted hpoll.failFast
  | @readRaised _ tp err hpoll =>
      have hread : authError (waited 0 tp) (readEv c (.error err)) = _ := authError_read err
      rw [← hread]
      exact accepted (hpoll.failFast.append failFast_singleton)
  | mismatch hpoll => exact accepted (hpoll.failFast.append (.step rfl (.done _)))
  | verified hpoll => exact accepted (hpoll.failFast.append (.step rfl (.done _)))

/-- Attempts that fail fast make a retry loop that does. -/
theorem RetryRun.failFast {α : Type} {maxRetries : ℤ} {body : Coro (Except SyncError α)}
    {attempts : List ℤ} {delay : ℕ} {lastErr : Option SyncError} {out : Except SyncError α}
    (hbody : ∀ {t out}, body.Traces t out → ∀ elapsed, FailFast elapsed t (refusal out))
    (h : RetryRun maxRetries body attempts delay lastErr t out) (elapsed : ℚ≥0) :
    FailFast elapsed t (refusal out) := by
  induction h generalizing elapsed with
  | exhausted => exact .done elapsed
  | success hok => exact hbody hok elapsed
  | auth hauth => exact hbody hauth elapsed
  | again herr hretry _ _ ih =>
      have hfirst := hbody herr elapsed
      rw [refusal_of_retriable hretry] at hfirst
      exact hfirst.append (.step rfl (ih _))
  | last herr hretry _ _ ih =>
      have hfirst := hbody herr elapsed
      rw [refusal_of_retriable hretry] at hfirst
      exact hfirst.append (ih _)

theorem failFast_sync {out : Except SyncError (List String)}
    (h : (asyncSyncWithRetry c localIp).Traces t out) (elapsed : ℚ≥0) :
    FailFast elapsed t (refusal out) :=
  (retryRun_of_traces h).failFast (fun hbody => (replaceRun_of_traces hbody).failFast) elapsed

/-- The message of the `ConfigEntryAuthFailed` a refresh ends in. -/
def reauth {α : Type} : Except UpdateError α → Option String
  | .error (.configEntryAuthFailed message) => some message
  | _ => none

theorem reauth_iff {α : Type} {out : Except UpdateError α} {message : String} :
    out = .error (.configEntryAuthFailed message) ↔ reauth out = some message := by
  constructor
  · rintro rfl
    rfl
  · intro h
    rcases out with (message' | message' | err) | value
    · cases h
      rfl
    all_goals cases h

theorem authError_issue (missing : Bool) : authError elapsed (issueEv c missing) = none := by
  cases missing <;> rfl

theorem ListRun.failFast {out : Except UpdateError ListOutcome} (h : ListRun c t out) :
    FailFast 0 t (reauth out) := by
  -- the source and the list were read, and the Repair issue is looked after
  have listRead : ∀ {state items u cut}, FailFast 0 u cut →
      FailFast 0 (sourceEv c state :: readEv c (.ok items) :: issueEv c false :: u) cut :=
    fun h => .step rfl (.step rfl (.step rfl h))
  cases h with
  | readAuth => exact .step rfl (.refused rfl)
  | readApi _ _ _ answer =>
      exact .step rfl (.step rfl (.step rfl (.step (authError_issue _) (.done _))))
  | readOther _ hauth _ =>
      apply FailFast.step rfl
      apply FailFast.step _ (.done _)
      rw [authError_read]
      exact refusal_of_retriable (by simp [SyncError.retriable, hauth])
  | noSource => exact listRead (.step rfl (.done _))
  | matched => exact listRead (.step rfl (.step rfl (.done _)))
  | written _ _ _ hwrite =>
      exact listRead ((failFast_sync hwrite 0).append (.step rfl (.step rfl (.done _))))
  | writeAuth _ _ hwrite => exact listRead (failFast_sync hwrite 0)
  | gaveUp _ _ hwrite => exact listRead ((failFast_sync hwrite 0).append (.step rfl (.done _)))

theorem authError_of_inDnsHalf (he : e.1.InDnsHalf c) (elapsed : ℚ≥0) :
    authError elapsed e = none := by
  obtain ⟨action, answer⟩ := e
  cases action <;> first | rfl | exact he.elim

theorem RefreshRun.failFast {out : Except UpdateError SyncState} (h : RefreshRun c t out) :
    FailFast 0 t (reauth out) := by
  cases h with
  | @raised _ err hlist =>
      have hcut := (listRun_of_traces hlist).failFast
      cases err <;> exact hcut
  | returned hlist hdns =>
      have hdnsHalf := (emits_asyncReconcileDns c _).traces hdns
      refine ((listRun_of_traces hlist).failFast.append ?_).append (.step rfl (.done _))
      exact failFast_of_forall fun e he => authError_of_inDnsHalf (hdnsHalf e he)

/-! ### The three outcomes -/

/-- What the list read at the start of a refresh was answered. -/
def initialRead : List Ev → Option (Except CloudflareError (List CloudflareListItem))
  | _ :: ⟨.getListItems _ _, answer⟩ :: _ => some answer
  | _ => none

/-- The requests of a run to Cloudflare. -/
def cloudflareRequests (t : List Ev) : List Action :=
  (t.map (·.1)).filter fun o => o.isRuleList || o.dnsZone.isSome

theorem not_notifies_of_inAttempt {o : Action} (ho : o.InAttempt c localIp) (id : String) :
    o.notifies id = false := by
  cases o <;> first | rfl | exact ho.elim

/-- A list half that an authentication error cuts short touches no notification. -/
theorem ListRun.quiet {message : String}
    (h : ListRun c t (.error (.configEntryAuthFailed message))) (id : String) :
    ∀ e ∈ t, e.1.notifies id = false := by
  generalize hout : (Except.error (UpdateError.configEntryAuthFailed message) :
    Except UpdateError ListOutcome) = out at h
  cases h with
  | readApi | readOther | noSource | matched | written | gaveUp => cases hout
  | readAuth state message =>
      intro e he
      simp only [List.mem_cons, List.not_mem_nil, or_false] at he
      rcases he with rfl | rfl
      · rfl
      · rfl
  | writeAuth _ _ hwrite =>
      have hattempts := (emits_asyncSyncWithRetry c _).traces hwrite
      intro e he
      simp only [List.mem_cons] at he
      rcases he with rfl | rfl | rfl | he
      · rfl
      · rfl
      · rfl
      · exact not_notifies_of_inAttempt (hattempts e he) id

/-- The list half raises `UpdateFailed` exactly for the other errors of its
first read. -/
theorem ListRun.updateFailed_iff {out : Except UpdateError ListOutcome} (h : ListRun c t out)
    (rest : List Ev) (message : String) :
    out = .error (.updateFailed message) ↔
      ∃ err, initialRead (t ++ rest) = some (.error err) ∧ err.isAuth = false ∧
        err.str = message := by
  constructor
  · rintro rfl
    generalize hout : (Except.error (UpdateError.updateFailed message) :
      Except UpdateError ListOutcome) = out at h
    cases h with
    | readAuth | noSource | matched | written | writeAuth | gaveUp => cases hout
    | readApi state message code answer => cases hout; exact ⟨_, rfl, rfl, rfl⟩
    | readOther state hauth _ => cases hout; exact ⟨_, rfl, hauth, rfl⟩
  · rintro ⟨err, hread, hauth, rfl⟩
    cases h with
    | readAuth => cases hread; cases hauth
    | readApi => cases hread; rfl
    | readOther => cases hread; rfl
    | noSource | matched | written | writeAuth | gaveUp => cases hread

/-- After a failed first read there is at most the query for the account's
lists. -/
theorem ListRun.requests_of_updateFailed {message : String}
    (h : ListRun c t (.error (.updateFailed message))) :
    cloudflareRequests t = [.getListItems c.accountId c.listId] ∨
      cloudflareRequests t =
        [.getListItems c.accountId c.listId, .getRuleLists c.accountId] := by
  generalize hout : (Except.error (UpdateError.updateFailed message) :
    Except UpdateError ListOutcome) = out at h
  cases h with
  | readAuth | noSource | matched | written | writeAuth | gaveUp => cases hout
  | readOther => exact .inl rfl
  | readApi state message code answer =>
      rcases hmissing : ruleListMissing c answer with - | -
      · exact .inr rfl
      · exact .inr rfl

theorem ListRun.ne_uncaught {err : CloudflareError} : ¬ ListRun c t (.error (.uncaught err)) := by
  generalize hout : (Except.error (UpdateError.uncaught err) :
    Except UpdateError ListOutcome) = out
  intro h
  cases h <;> cases hout

/-- The error classes of a refresh are those of its list half. -/
theorem RefreshRun.error_cases {err : UpdateError} (h : RefreshRun c t (.error err)) :
    ListRun c t (.error err) := by
  cases h with
  | raised hlist => exact listRun_of_traces hlist

theorem RefreshRun.updateFailed_iff {out : Except UpdateError SyncState} (h : RefreshRun c t out)
    (message : String) :
    out = .error (.updateFailed message) ↔
      ∃ err, initialRead t = some (.error err) ∧ err.isAuth = false ∧ err.str = message := by
  cases h with
  | @raised _ err hlist =>
      have hiff := (listRun_of_traces hlist).updateFailed_iff [] message
      rw [List.append_nil] at hiff
      rw [← hiff]
      constructor
      · intro h
        cases h
        rfl
      · intro h
        cases h
        rfl
  | @returned tl td list _ lastSynced hlist _ =>
      have hiff := (listRun_of_traces hlist).updateFailed_iff
        (td ++ [⟨Action.getLastSynced, lastSynced⟩]) message
      rw [← List.append_assoc] at hiff
      rw [← hiff]
      constructor
      · intro h
        cases h
      · intro h
        cases h

/-- An error of the first list read that is no API error is the last thing to
happen. -/
theorem ListRun.of_initialRead {out : Except UpdateError ListOutcome} {err : CloudflareError}
    (h : ListRun c t out) (rest : List Ev) (hread : initialRead (t ++ rest) = some (.error err))
    (hapi : ∀ message code, err ≠ .api message code) :
    (∃ err', out = .error err') ∧ ∃ state, t = [sourceEv c state, readEv c (.error err)] := by
  cases h with
  | readAuth state => cases hread; exact ⟨⟨_, rfl⟩, state, rfl⟩
  | readOther state => cases hread; exact ⟨⟨_, rfl⟩, state, rfl⟩
  | readApi state message code => cases hread; exact absurd rfl (hapi message code)
  | noSource | matched | written | writeAuth | gaveUp => cases hread

theorem RefreshRun.of_initialRead {out : Except UpdateError SyncState} {err : CloudflareError}
    (h : RefreshRun c t out) (hread : initialRead t = some (.error err))
    (hapi : ∀ message code, err ≠ .api message code) :
    ∃ state, t = [sourceEv c state, readEv c (.error err)] := by
  cases h with
  | raised h =>
      apply ((listRun_of_traces h).of_initialRead [] _ hapi).2
      rw [List.append_nil]
      exact hread
  | returned h =>
      rw [List.append_assoc] at hread
      obtain ⟨⟨err', herr⟩, -⟩ := (listRun_of_traces h).of_initialRead _ hread hapi
      cases herr

/-- **Outcome trichotomy.** A refresh ends in `ConfigEntryAuthFailed` exactly if
a list read, a replace request or a poll raised an authentication error; that
call is then its last action of any kind, and no notification was created or
dismissed.  It ends in `UpdateFailed` exactly if its first list read raised any
other error, and then it sends no request but that read and at most the query
for the account's lists.  In every other case it returns a state. -/
theorem refresh_outcome {out : Except UpdateError SyncState}
    (h : (asyncUpdateData c).Traces t out) :
    (∀ message, out = .error (.configEntryAuthFailed message) ↔
      ∃ before e after, t = before ++ e :: after ∧
        authError (waited 0 before) e = some message) ∧
    (∀ before e after message, t = before ++ e :: after →
      authError (waited 0 before) e = some message →
      after = [] ∧ ∀ e' ∈ t, e'.1.notifies c.notificationId = false ∧
        e'.1.notifies c.dnsNotificationId = false) ∧
    (∀ message, out = .error (.updateFailed message) ↔
      ∃ err, initialRead t = some (.error err) ∧ err.isAuth = false ∧ err.str = message) ∧
    (∀ message, out = .error (.updateFailed message) →
      cloudflareRequests t = [.getListItems c.accountId c.listId] ∨
        cloudflareRequests t =
          [.getListItems c.accountId c.listId, .getRuleLists c.accountId]) ∧
    ((∀ message, out ≠ .error (.configEntryAuthFailed message)) →
      (∀ message, out ≠ .error (.updateFailed message)) → ∃ state, out = .ok state) := by
  have hrun := refreshRun_of_traces h
  have hcut := hrun.failFast
  refine ⟨?_, ?_, hrun.updateFailed_iff, ?_, ?_⟩
  · intro message
    rw [reauth_iff]
    exact hcut.cut_iff message
  · rintro before e after message rfl he
    obtain ⟨hreauth, hafter⟩ := hcut.last he
    obtain rfl := reauth_iff.mpr hreauth
    refine ⟨hafter, fun e' he' => ?_⟩
    exact ⟨hrun.error_cases.quiet _ e' he', hrun.error_cases.quiet _ e' he'⟩
  · rintro message rfl
    exact hrun.error_cases.requests_of_updateFailed
  · intro hauth hfailed
    rcases out with (message | message | err) | state
    · exact absurd rfl (hauth message)
    · exact absurd rfl (hfailed message)
    · exact absurd hrun.error_cases ListRun.ne_uncaught
    · exact ⟨state, rfl⟩

/-- Answers of a token that is revoked while the list is written. -/
def revokedReplies (n : ℕ) : Replies where
  source := some "203.0.113.7"
  listItems := if n < 3 then .ok [] else .error (.auth "revoked")
  replace := .ok "op"
  bulkOperation := (0, .ok ⟨"op", "completed", none⟩)
  ruleLists := .ok []
  dnsRecords := .ok []
  dnsRecord := .error (.connection "timeout")
  now := (9 : ℕ)
  lastSynced := none

/-- The verifying read is refused: nothing follows it, although attempts are
left and a DNS record is configured. -/
theorem refresh_outcome_revoked :
    let c : Coordinator :=
      ⟨"e", "home", "acc", "list", "sensor.ip", 5, some "home.example", some "zone"⟩
    let t := ((asyncUpdateData c).exec (Replies.nth revokedReplies) 0).trace
    ∃ before e, t = before ++ [e] ∧ authError (waited 0 before) e = some "revoked" := by
  intro c t
  have htraces : (asyncUpdateData c).Traces t (.error (.configEntryAuthFailed "revoked")) :=
    Prog.traces_of_exec (Replies.nth revokedReplies) 0 rfl (by decide +kernel)
  obtain ⟨hauth, hlast, -⟩ := refresh_outcome htraces
  obtain ⟨before, e, after, ht, he⟩ := (hauth "revoked").mp rfl
  obtain ⟨rfl, -⟩ := hlast before e after "revoked" ht he
  exact ⟨before, e, ht, he⟩

end CloudflareIpSync
