/-
CloudflareIpSync/VerifiedWrite.lean

Success is only claimed for a verified write.  A refresh that had to write the
Rule List and returns in sync has gone through one complete cycle
(`VerifiedCycle`): a replace, polls of the operation it started with the
interval between them, the last of which reports completion before the wait is
over its limit, and a full re-read that matches the source IP.  All its Rule
List calls before that cycle, but for the initial read, belong to attempts that
failed, and there are none after it.
-/
import CloudflareIpSync.BulkWait
import CloudflareIpSync.Snapshot

namespace CloudflareIpSync

open Interact Ipaddress

variable {c : Coordinator} {localIp : String}

/-! ### Cycles and attempts -/

/-- A poll that reports neither completion nor failure. -/
def PendingPoll (c : Coordinator) (operationId : String) (e : Ev) : Prop :=
  ∃ (took : ℚ≥0) (operation : CloudflareBulkOperation),
    e = pollEv c operationId took (.ok operation) ∧
      operation.isComplete = false ∧ operation.isFailed = false

/-- A wait for an operation that was completed in time: polls that are pending,
each followed by the interval, and one that reports completion. -/
inductive CompletedWait (c : Coordinator) (operationId : String) : List Ev → Prop
  | mk {polls : List Ev} {took : ℚ≥0} {operation : CloudflareBulkOperation} :
      (∀ e ∈ polls, PendingPoll c operationId e) → operation.isComplete = true →
      duration eventTime (polls.flatMap (fun e => [e, pollSleep]) ++
        [pollEv c operationId took (.ok operation)]) < bulkOperationTimeout →
      CompletedWait c operationId (polls.flatMap (fun e => [e, pollSleep]) ++
        [pollEv c operationId took (.ok operation)])

/-- One complete write cycle, and the IPs its re-read returned. -/
inductive VerifiedCycle (c : Coordinator) (localIp : String) : List Ev → List String → Prop
  | mk {operationId : String} {wait : List Ev} {items : List CloudflareListItem} :
      CompletedWait c operationId wait →
      isInSync (some localIp) (items.map (·.ip)) = true →
      VerifiedCycle c localIp
        (replaceEv c localIp (.ok operationId) :: wait ++ [readEv c (.ok items)])
        (items.map (·.ip))

/-- The Rule List calls of an attempt that raised. -/
def FailedAttempt (c : Coordinator) (localIp : String) (calls : List Ev) : Prop :=
  ∃ t err, ReplaceRun c localIp t (.error err) ∧ calls = ruleListCalls t

/-- A wait that returns polled the same operation until it was complete, and in
time. -/
theorem PollRun.completedWait {operationId : String} {elapsed : ℚ≥0} {t : List Ev}
    (h : PollRun c operationId elapsed t (.ok ())) :
    ∃ (polls : List Ev) (took : ℚ≥0) (operation : CloudflareBulkOperation),
      t = polls.flatMap (fun e => [e, pollSleep]) ++
        [pollEv c operationId took (.ok operation)] ∧
      (∀ e ∈ polls, PendingPoll c operationId e) ∧ operation.isComplete = true ∧
      elapsed + duration eventTime t < bulkOperationTimeout := by
  generalize hout : (Except.ok () : Except SyncError Unit) = out at h
  induction h with
  | late | raised | failed | asleep => cases hout
  | @completed elapsed took operation hintime hcomplete =>
      refine ⟨[], took, operation, rfl, by simp, hcomplete, ?_⟩
      rw [duration_cons, duration_nil, add_zero]
      exact hintime
  | @again elapsed took operation rest _ _ hcomplete hfailed _ _ ih =>
      obtain ⟨polls, took', operation', rfl, hpending, hdone, hintime⟩ := ih hout
      refine ⟨pollEv c operationId took (.ok operation) :: polls, took', operation', rfl, ?_,
        hdone, ?_⟩
      · intro e he
        rcases List.mem_cons.mp he with rfl | he
        · exact ⟨took, operation, rfl, hcomplete, hfailed⟩
        · exact hpending e he
      · -- what is left is later by the poll and the sleep after it
        rw [duration_cons, duration_cons, ← add_assoc, ← add_assoc]
        exact hintime

/-- An attempt that returns is one complete cycle. -/
theorem ReplaceRun.verifiedCycle {t : List Ev} {ips : List String}
    (h : ReplaceRun c localIp t (.ok ips)) : VerifiedCycle c localIp t ips := by
  generalize hout : (Except.ok ips : Except SyncError (List String)) = out at h
  cases h with
  | replaceRaised | waitRaised | readRaised | mismatch => cases hout
  | verified hpoll hsync =>
      cases hout
      obtain ⟨polls, took, operation, rfl, hpending, hdone, hintime⟩ := hpoll.completedWait
      rw [zero_add] at hintime
      exact .mk (.mk hpending hdone hintime) hsync

/-! ### A refresh -/

/-- A retried write that returns: failed attempts, then one complete cycle. -/
theorem RetryRun.verifiedCycle {maxRetries : ℤ} {attempts : List ℤ} {delay : ℕ}
    {lastErr : Option SyncError} {t : List Ev} {ips : List String}
    (h : RetryRun maxRetries (asyncReplaceAndVerify c localIp) attempts delay lastErr t (.ok ips)) :
    ∃ (failed : List (List Ev)) (before cycle : List Ev), t = before ++ cycle ∧
      ruleListCalls before = failed.flatten ∧ (∀ calls ∈ failed, FailedAttempt c localIp calls) ∧
      VerifiedCycle c localIp cycle ips := by
  generalize hout : (Except.ok ips : Except SyncError (List String)) = out at h
  induction h with
  | exhausted | auth => cases hout
  | @success _ _ _ _ t _ hbody =>
      cases hout
      exact ⟨[], [], t, rfl, rfl, by simp, (replaceRun_of_traces hbody).verifiedCycle⟩
  -- a failed attempt comes before whatever the rest of the loop calls
  | @again _ _ delay _ t₁ t' err _ hbody _ _ _ ih =>
      obtain ⟨failed, before, cycle, rfl, hcalls, hfailed, hcycle⟩ := ih hout
      refine ⟨ruleListCalls t₁ :: failed, t₁ ++ ⟨Action.sleep delay, ()⟩ :: before, cycle, by simp,
        ?_, ?_, hcycle⟩
      · rw [ruleListCalls_append, ruleListCalls_cons_of_neg rfl, hcalls, List.flatten_cons]
      · rintro calls (- | ⟨_, hmem⟩)
        · exact ⟨t₁, err, replaceRun_of_traces hbody, rfl⟩
        · exact hfailed calls hmem
  | @last _ _ _ _ t₁ t' err _ hbody _ _ _ ih =>
      obtain ⟨failed, before, cycle, rfl, hcalls, hfailed, hcycle⟩ := ih hout
      refine ⟨ruleListCalls t₁ :: failed, t₁ ++ before, cycle, by simp, ?_, ?_, hcycle⟩
      · rw [ruleListCalls_append, hcalls, List.flatten_cons]
      · rintro calls (- | ⟨_, hmem⟩)
        · exact ⟨t₁, err, replaceRun_of_traces hbody, rfl⟩
        · exact hfailed calls hmem

/-- The DNS half makes no Rule List call. -/
theorem ruleListCalls_dnsHalf {ip : Option String} {t : List Ev}
    {dns : Option String × Option Bool × Option String}
    (h : (asyncReconcileDns c ip).Traces t dns) : ruleListCalls t = [] := by
  apply ruleListCalls_eq_nil
  intro e he
  have hhalf := (emits_asyncReconcileDns c ip).traces h e he
  obtain ⟨action, answer⟩ := e
  cases action <;> first | rfl | exact hhalf.elim

/-- **Success means a verified write.** A refresh that read items which did
not match its usable source IP, and returns in sync, went through one complete
cycle after that read, whose re-read gave the IPs the refresh returns.  The Rule
List calls between the two are those of failed attempts, and there are none after
the cycle. -/
theorem verifiedCycle_of_in_sync {state : Option String} {items : List CloudflareListItem}
    {t : List Ev} {s : SyncState}
    (hrun : (asyncUpdateData c).Traces (sourceEv c state :: readEv c (.ok items) :: t) (.ok s))
    (hsource : readSourceIp state = some localIp)
    (hdiff : isInSync (some localIp) (items.map (·.ip)) = false) (hsync : s.inSync = true) :
    ∃ (failed : List (List Ev)) (before cycle after : List Ev), t = before ++ cycle ++ after ∧
      ruleListCalls before = failed.flatten ∧ (∀ calls ∈ failed, FailedAttempt c localIp calls) ∧
      VerifiedCycle c localIp cycle s.cloudflareIps ∧ ruleListCalls after = [] := by
  obtain ⟨tl, td, list, dns, lastSynced, hlist, hdns, htrace, rfl⟩ := refresh_returned hrun
  have hdnsCalls : ruleListCalls td = [] := ruleListCalls_dnsHalf hdns
  generalize hok : (Except.ok list : Except UpdateError ListOutcome) = r at hlist
  cases listRun_of_traces hlist with
  | readAuth | readApi | readOther | writeAuth => cases hok
  | noSource | gaveUp => cases hok; exact absurd hsync Bool.false_ne_true
  | @matched state' items' localIp' now hsource' hsync' =>
      simp only [List.cons_append, List.cons.injEq, Sigma.mk.injEq, true_and, heq_eq_eq,
        Except.ok.injEq] at htrace
      obtain ⟨rfl, rfl, -⟩ := htrace
      rw [hsource] at hsource'
      cases hsource'
      rw [hdiff] at hsync'
      exact absurd hsync' Bool.false_ne_true
  | @written state' items' localIp' tw ips now hsource' _ hwrite =>
      cases hok
      simp only [List.cons_append, List.cons.injEq, Sigma.mk.injEq, true_and, heq_eq_eq,
        Except.ok.injEq] at htrace
      obtain ⟨rfl, rfl, rfl⟩ := htrace
      rw [hsource] at hsource'
      cases hsource'
      obtain ⟨failed, before, cycle, rfl, hcalls, hfailed, hcycle⟩ :=
        (retryRun_of_traces hwrite).verifiedCycle
      refine ⟨failed, issueEv c false :: before, cycle, [clearEv c, stampEv now] ++ td ++
        [⟨Action.getLastSynced, lastSynced⟩], by simp, ?_, hfailed, hcycle, ?_⟩
      · rw [ruleListCalls_cons_of_neg rfl, hcalls]
      · have hend : ruleListCalls [clearEv c, stampEv now] = [] := rfl
        have hlast : ruleListCalls [⟨Action.getLastSynced, lastSynced⟩] = [] := rfl
        rw [ruleListCalls_append, ruleListCalls_append, hend, hdnsCalls, hlast]
        rfl

/-- The first replacement is lost, the second one verified: its operation is
pending at first, and completed five seconds later. -/
theorem verifiedCycle_of_in_sync_retried :
    let c : Coordinator := ⟨"e", "home", "acc", "list", "sensor.ip", 5, none, none⟩
    ∃ (failed : List (List Ev)) (before cycle after : List Ev),
      [issueEv c false, replaceEv c "203.0.113.7" (.error (.connection "timeout")),
          ⟨.sleep 5, ()⟩, replaceEv c "203.0.113.7" (.ok "op"),
          pollEv c "op" 2 (.ok ⟨"op", "pending", none⟩), pollSleep,
          pollEv c "op" 1 (.ok ⟨"op", "completed", none⟩),
          readEv c (.ok [⟨"203.0.113.7", none, none⟩]), clearEv c, stampEv 9,
          ⟨.getLastSynced, some (9 : ℕ)⟩] = before ++ cycle ++ after ∧
        ruleListCalls before = failed.flatten ∧
        (∀ calls ∈ failed, FailedAttempt c "203.0.113.7" calls) ∧
        VerifiedCycle c "203.0.113.7" cycle ["203.0.113.7"] ∧ ruleListCalls after = [] := by
  intro c
  let replies (n : ℕ) : Replies :=
    { source := some "203.0.113.7",
      listItems := .ok [⟨if n < 3 then "198.51.100.1" else "203.0.113.7", none, none⟩],
      replace := if n < 4 then .error (.connection "timeout") else .ok "op",
      bulkOperation :=
        if n < 7 then (2, .ok ⟨"op", "pending", none⟩) else (1, .ok ⟨"op", "completed", none⟩),
      ruleLists := .ok [], dnsRecords := .ok [], dnsRecord := .error (.connection "timeout"),
      now := (9 : ℕ), lastSynced := some (9 : ℕ) }
  refine @verifiedCycle_of_in_sync c "203.0.113.7" (some "203.0.113.7")
    [⟨"198.51.100.1", none, none⟩] _
    ⟨some "203.0.113.7", ["203.0.113.7"], true, some (9 : ℕ), none, none, none, none, none⟩
    ?_ (by decide) (by decide) rfl
  exact Prog.traces_of_exec (Replies.nth replies) 0 (by decide +kernel) (by decide +kernel)

end CloudflareIpSync
