/-
CloudflareIpSync/Refresh.lean

What a refresh can do, said once for each coroutine of the coordinator.

As for the retry loop, every coroutine has an inductive relation that lists its
complete runs, a constructor for each way through the source method, and an
inversion theorem.  The modules that follow split on these cases; none of them
unfolds a coroutine.

* `PollRun`: the wait for a bulk operation.
* `ReplaceRun`: one attempt to write and verify the Rule List.
* `ListRun`: a refresh up to the DNS record.
* `UpsertRun`, `DnsRun`: the DNS record.
* `RefreshRun`: a whole refresh, the Rule List half and then the DNS half.

The last two sections say which actions each half can perform at all
(`emits_asyncReconcileDns` and the like), which also covers runs that are
still under way, and that a refresh works with the one address it read
(`source_first`).
-/
import CloudflareIpSync.Retry
import Mathlib.Algebra.Order.Ring.NNRat
import Mathlib.Tactic.GCongr
import Mathlib.Tactic.NormNum
import Mathlib.Tactic.Ring

namespace CloudflareIpSync

open Interact Ipaddress

/-! ### Waiting for a bulk operation -/

/-- A poll that returned. -/
abbrev pollEv (c : Coordinator) (operationId : String) (took : ℚ≥0)
    (answer : Except CloudflareError CloudflareBulkOperation) : Ev :=
  ⟨Action.getBulkOperation c.accountId operationId, (took, answer)⟩

/-- The sleep between two polls. -/
abbrev pollSleep : Ev := ⟨Action.sleep bulkOperationPollInterval, ()⟩

/-- What the wait raises at its deadline. -/
abbrev bulkTimeout : SyncError :=
  .verificationFailed "Timed out waiting for the Cloudflare bulk operation"

/-- The complete runs of the wait, `elapsed` seconds into its deadline. -/
inductive PollRun (c : Coordinator) (operationId : String) :
    ℚ≥0 → List Ev → Except SyncError Unit → Prop
  | late {elapsed took : ℚ≥0} {answer} : bulkOperationTimeout ≤ elapsed + took →
      PollRun c operationId elapsed [pollEv c operationId took answer] (.error bulkTimeout)
  | raised {elapsed took : ℚ≥0} {err} : elapsed + took < bulkOperationTimeout →
      PollRun c operationId elapsed [pollEv c operationId took (.error err)]
        (.error (.cloudflare err))
  | completed {elapsed took : ℚ≥0} {operation} : elapsed + took < bulkOperationTimeout →
      operation.isComplete = true →
      PollRun c operationId elapsed [pollEv c operationId took (.ok operation)] (.ok ())
  | failed {elapsed took : ℚ≥0} {operation} : elapsed + took < bulkOperationTimeout →
      operation.isComplete = false → operation.isFailed = true →
      PollRun c operationId elapsed [pollEv c operationId took (.ok operation)]
        (.error (.verificationFailed
          ("Cloudflare bulk operation failed: " ++ operation.error.getD "None")))
  | asleep {elapsed took : ℚ≥0} {operation} : elapsed + took < bulkOperationTimeout →
      operation.isComplete = false → operation.isFailed = false →
      bulkOperationTimeout ≤ elapsed + took + bulkOperationPollInterval →
      PollRun c operationId elapsed [pollEv c operationId took (.ok operation), pollSleep]
        (.error bulkTimeout)
  | again {elapsed took : ℚ≥0} {operation t out} : elapsed + took < bulkOperationTimeout →
      operation.isComplete = false → operation.isFailed = false →
      elapsed + took + bulkOperationPollInterval < bulkOperationTimeout →
      PollRun c operationId (elapsed + took + bulkOperationPollInterval) t out →
      PollRun c operationId elapsed
        (pollEv c operationId took (.ok operation) :: pollSleep :: t) out

/-- A round takes an interval at least. -/
theorem pollFuel_rest {fuel : ℕ} {elapsed took : ℚ≥0}
    (hfuel : (bulkOperationTimeout : ℚ≥0) ≤
      elapsed + (fuel + 1 : ℕ) * bulkOperationPollInterval) :
    (bulkOperationTimeout : ℚ≥0) ≤
      elapsed + took + bulkOperationPollInterval + fuel * bulkOperationPollInterval := by
  calc (bulkOperationTimeout : ℚ≥0)
      ≤ elapsed + (fuel + 1 : ℕ) * bulkOperationPollInterval := hfuel
    _ = elapsed + bulkOperationPollInterval + fuel * bulkOperationPollInterval := by
        push_cast
        ring
    _ ≤ elapsed + took + bulkOperationPollInterval + fuel * bulkOperationPollInterval := by
        gcongr
        exact le_self_add

/-- With fuel for the rest of the deadline, the loop never runs out of it. -/
theorem pollRun_of_traces {c : Coordinator} {operationId : String} {fuel : ℕ} {elapsed : ℚ≥0}
    {t : List Ev} {out : Except SyncError Unit} (hstart : elapsed < bulkOperationTimeout)
    (hfuel : (bulkOperationTimeout : ℚ≥0) ≤ elapsed + fuel * bulkOperationPollInterval)
    (h : (pollLoop c operationId fuel elapsed).Traces t out) :
    PollRun c operationId elapsed t out := by
  induction fuel generalizing elapsed t with
  | zero =>
      rw [Nat.cast_zero, zero_mul, add_zero] at hfuel
      exact absurd hstart (not_lt.mpr hfuel)
  | succ fuel ih =>
      rw [pollLoop, asyncGetBulkOperation, Prog.call_bind, Prog.traces_op_iff] at h
      obtain ⟨⟨took, answer⟩, t', rfl, h⟩ := h
      by_cases hlate : (bulkOperationTimeout : ℚ≥0) ≤ elapsed + took
      · simp only [if_pos hlate, Prog.pure_eq, Prog.traces_ret_iff] at h
        obtain ⟨rfl, rfl⟩ := h
        exact .late hlate
      have hintime := not_le.mp hlate
      simp only [if_neg hlate] at h
      rcases answer with err | operation
      · obtain ⟨rfl, rfl⟩ := Prog.traces_ret_iff.mp h
        exact .raised hintime
      dsimp only at h
      rcases hc : operation.isComplete with - | -
      · rcases hf : operation.isFailed with - | -
        · simp only [hc, hf, Bool.false_eq_true, if_false, asyncSleep, Prog.call_bind,
            Prog.traces_op_iff] at h
          obtain ⟨_, t'', rfl, h⟩ := h
          by_cases hasleep :
              (bulkOperationTimeout : ℚ≥0) ≤ elapsed + took + bulkOperationPollInterval
          · simp only [if_pos hasleep, Prog.pure_eq, Prog.traces_ret_iff] at h
            obtain ⟨rfl, rfl⟩ := h
            exact .asleep hintime hc hf hasleep
          · rw [if_neg hasleep] at h
            have hrest := ih (not_le.mp hasleep) (pollFuel_rest hfuel) h
            exact .again hintime hc hf (not_le.mp hasleep) hrest
        · simp only [hc, hf, Bool.false_eq_true, if_false, if_true, Prog.pure_eq,
            Prog.traces_ret_iff] at h
          obtain ⟨rfl, rfl⟩ := h
          exact .failed hintime hc hf
      · simp only [hc, if_true, Prog.pure_eq, Prog.traces_ret_iff] at h
        obtain ⟨rfl, rfl⟩ := h
        exact .completed hintime hc

theorem pollRun_of_wait {c : Coordinator} {operationId : String} {t : List Ev}
    {out : Except SyncError Unit}
    (h : (asyncWaitForBulkOperation c operationId).Traces t out) :
    PollRun c operationId 0 t out := by
  refine pollRun_of_traces ?_ ?_ h
  · norm_num [bulkOperationTimeout]
  · norm_num [bulkOperationTimeout, pollFuel, bulkOperationPollInterval]

/-! ### One attempt to write the Rule List -/

/-- The items one attempt writes. -/
abbrev replacement (localIp : String) : List CloudflareListItem :=
  [{ ip := localIp, id := none, comment := some listItemComment }]

/-- A replace request with its outcome. -/
abbrev replaceEv (c : Coordinator) (localIp : String)
    (answer : Except CloudflareError String) : Ev :=
  ⟨Action.replaceListItems c.accountId c.listId (replacement localIp), answer⟩

/-- A read of the whole Rule List with its outcome. -/
abbrev readEv (c : Coordinator)
    (answer : Except CloudflareError (List CloudflareListItem)) : Ev :=
  ⟨Action.getListItems c.accountId c.listId, answer⟩

/-- The complete runs of `asyncReplaceAndVerify`. -/
inductive ReplaceRun (c : Coordinator) (localIp : String) :
    List Ev → Except SyncError (List String) → Prop
  | replaceRaised (err) :
      ReplaceRun c localIp [replaceEv c localIp (.error err)] (.error (.cloudflare err))
  | waitRaised {operationId tp err} : PollRun c operationId 0 tp (.error err) →
      ReplaceRun c localIp (replaceEv c localIp (.ok operationId) :: tp) (.error err)
  | readRaised {operationId tp err} : PollRun c operationId 0 tp (.ok ()) →
      ReplaceRun c localIp
        (replaceEv c localIp (.ok operationId) :: tp ++ [readEv c (.error err)])
        (.error (.cloudflare err))
  | mismatch {operationId tp items} : PollRun c operationId 0 tp (.ok ()) →
      isInSync (some localIp) (items.map (·.ip)) = false →
      ReplaceRun c localIp
        (replaceEv c localIp (.ok operationId) :: tp ++ [readEv c (.ok items)])
        (.error (.verificationFailed
          "Rule List still did not match the source IP after the update"))
  | verified {operationId tp items} : PollRun c operationId 0 tp (.ok ()) →
      isInSync (some localIp) (items.map (·.ip)) = true →
      ReplaceRun c localIp
        (replaceEv c localIp (.ok operationId) :: tp ++ [readEv c (.ok items)])
        (.ok (items.map (·.ip)))

theorem replaceRun_of_traces {c : Coordinator} {localIp : String} {t : List Ev}
    {out : Except SyncError (List String)}
    (h : (asyncReplaceAndVerify c localIp).Traces t out) : ReplaceRun c localIp t out := by
  rw [asyncReplaceAndVerify, asyncReplaceListItems, Prog.call_bind, Prog.traces_op_iff] at h
  obtain ⟨answer, t', rfl, h⟩ := h
  rcases answer with err | operationId
  · obtain ⟨rfl, rfl⟩ := Prog.traces_ret_iff.mp h
    exact .replaceRaised err
  rw [Prog.traces_bind_iff] at h
  obtain ⟨tp, r, tr, rfl, hwait, h⟩ := h
  have hpoll := pollRun_of_wait hwait
  rcases r with err | ⟨⟨⟩⟩
  · obtain ⟨rfl, rfl⟩ := Prog.traces_ret_iff.mp h
    rw [List.append_nil]
    exact .waitRaised hpoll
  dsimp only at h
  rw [asyncGetListItems, Prog.call_bind, Prog.traces_op_iff] at h
  obtain ⟨answer, t', rfl, h⟩ := h
  rcases answer with err | items
  · obtain ⟨rfl, rfl⟩ := Prog.traces_ret_iff.mp h
    exact .readRaised hpoll
  dsimp only at h
  rcases hsync : isInSync (some localIp) (items.map (·.ip)) with - | -
  · rw [hsync, if_neg Bool.false_ne_true, Prog.pure_eq, Prog.traces_ret_iff] at h
    obtain ⟨rfl, rfl⟩ := h
    exact .mismatch hpoll hsync
  · rw [hsync, if_pos rfl, Prog.pure_eq, Prog.traces_ret_iff] at h
    obtain ⟨rfl, rfl⟩ := h
    exact .verified hpoll hsync

/-! ### The DNS record -/

/-- A query for the records of the configured name and the address's type. -/
abbrev dnsReadEv (target : DnsTarget) (localIp : String)
    (answer : Except CloudflareError (List CloudflareDnsRecord)) : Ev :=
  ⟨Action.getDnsRecords target.zoneId target.recordName (recordType localIp), answer⟩

/-- What a create request sends. -/
abbrev dnsBody (target : DnsTarget) (localIp : String) : DnsRecordBody :=
  { name := target.recordName, type := recordType localIp, content := localIp,
    ttl := dnsRecordTtl, proxied := false, comment := dnsRecordComment }

/-- What an update request of `record` sends. -/
abbrev dnsPatch (record : CloudflareDnsRecord) (localIp : String) : DnsRecordPatch :=
  { content := localIp, ttl := dnsRecordTtl, proxied := false,
    comment := orDefault record.comment dnsRecordComment }

abbrev dnsCreateEv (target : DnsTarget) (localIp : String)
    (answer : Except CloudflareError CloudflareDnsRecord) : Ev :=
  ⟨Action.createDnsRecord target.zoneId (dnsBody target localIp), answer⟩

abbrev dnsUpdateEv (target : DnsTarget) (localIp : String) (record : CloudflareDnsRecord)
    (answer : Except CloudflareError CloudflareDnsRecord) : Ev :=
  ⟨Action.updateDnsRecord target.zoneId record.id (dnsPatch record localIp), answer⟩

/-- The test before an update. -/
abbrev NeedsUpdate (localIp : String) (record : CloudflareDnsRecord) : Prop :=
  record.content ≠ localIp ∨ record.proxied = true ∨ record.ttl ≠ dnsRecordTtl

/-- The complete runs of `asyncUpsertDnsRecord`. -/
inductive UpsertRun (target : DnsTarget) (localIp : String) :
    List Ev → Except SyncError CloudflareDnsRecord → Prop
  | readRaised (err) :
      UpsertRun target localIp [dnsReadEv target localIp (.error err)] (.error (.cloudflare err))
  | createRaised (err) :
      UpsertRun target localIp
        [dnsReadEv target localIp (.ok []), dnsCreateEv target localIp (.error err)]
        (.error (.cloudflare err))
  | created (record) :
      UpsertRun target localIp
        [dnsReadEv target localIp (.ok []), dnsCreateEv target localIp (.ok record)]
        (verifyDnsRecord localIp record)
  | updateRaised {record rest} (err) : NeedsUpdate localIp record →
      UpsertRun target localIp
        [dnsReadEv target localIp (.ok (record :: rest)),
          dnsUpdateEv target localIp record (.error err)]
        (.error (.cloudflare err))
  | updated {record rest} (record') : NeedsUpdate localIp record →
      UpsertRun target localIp
        [dnsReadEv target localIp (.ok (record :: rest)),
          dnsUpdateEv target localIp record (.ok record')]
        (verifyDnsRecord localIp record')
  | kept {record rest} : ¬ NeedsUpdate localIp record →
      UpsertRun target localIp [dnsReadEv target localIp (.ok (record :: rest))]
        (verifyDnsRecord localIp record)

theorem upsertRun_of_traces {target : DnsTarget} {localIp : String} {t : List Ev}
    {out : Except SyncError CloudflareDnsRecord}
    (h : (asyncUpsertDnsRecord target localIp).Traces t out) : UpsertRun target localIp t out := by
  rw [asyncUpsertDnsRecord, asyncGetDnsRecords, Prog.call_bind, Prog.traces_op_iff] at h
  obtain ⟨answer, t', rfl, h⟩ := h
  rcases answer with err | (- | ⟨record, rest⟩)
  · obtain ⟨rfl, rfl⟩ := Prog.traces_ret_iff.mp h
    exact .readRaised err
  · dsimp only at h
    rw [asyncCreateDnsRecord, Prog.call_bind, Prog.traces_op_iff] at h
    obtain ⟨answer, t', rfl, h⟩ := h
    rcases answer with err | record
    · obtain ⟨rfl, rfl⟩ := Prog.traces_ret_iff.mp h
      exact .createRaised err
    · obtain ⟨rfl, rfl⟩ := Prog.traces_ret_iff.mp h
      exact .created record
  · dsimp only at h
    by_cases hupdate : NeedsUpdate localIp record
    · rw [if_pos hupdate, asyncUpdateDnsRecord, Prog.call_bind, Prog.traces_op_iff] at h
      obtain ⟨answer, t', rfl, h⟩ := h
      rcases answer with err | record'
      · obtain ⟨rfl, rfl⟩ := Prog.traces_ret_iff.mp h
        exact .updateRaised err hupdate
      · obtain ⟨rfl, rfl⟩ := Prog.traces_ret_iff.mp h
        exact .updated record' hupdate
    · rw [if_neg hupdate, Prog.pure_eq, Prog.traces_ret_iff] at h
      obtain ⟨rfl, rfl⟩ := h
      exact .kept hupdate

theorem verifyDnsRecord_ok {localIp : String} {record record' : CloudflareDnsRecord}
    (h : verifyDnsRecord localIp record = .ok record') :
    record' = record ∧ record.content = localIp ∧ record.proxied = false := by
  unfold verifyDnsRecord at h
  split at h
  · cases h
  · rename_i hok
    cases h
    simpa using hok

/-- The record an upsert returns holds the address and is not proxied. -/
theorem UpsertRun.ok_content {target : DnsTarget} {localIp : String} {t : List Ev}
    {record : CloudflareDnsRecord} (h : UpsertRun target localIp t (.ok record)) :
    record.content = localIp ∧ record.proxied = false := by
  generalize hout : (Except.ok record : Except SyncError CloudflareDnsRecord) = out at h
  cases h with
  | readRaised | createRaised | updateRaised => cases hout
  | created | updated | kept =>
      obtain ⟨rfl, hok⟩ := verifyDnsRecord_ok hout.symm
      exact hok

/-- The notification `_async_notify_dns_failure` creates. -/
abbrev dnsFailureEv (c : Coordinator) (error : String) : Ev :=
  ⟨Action.createNotification c.dnsNotificationId "Cloudflare IP Sync failed"
    ("Could not update the DNS record " ++ c.dnsRecordName.getD "None" ++
      " with the current IP.\n\nLast error: " ++ error), ()⟩

/-- The complete runs of `asyncReconcileDns`. -/
inductive DnsRun (c : Coordinator) :
    Option String → List Ev → Option String × Option Bool × Option String → Prop
  | off {localIp} : c.dnsTarget = none ∨ localIp = none →
      DnsRun c localIp [] (none, none, none)
  | synced {target localIp t record} : c.dnsTarget = some target →
      (asyncSyncDnsWithRetry c target localIp).Traces t (.ok record) →
      DnsRun c (some localIp) (t ++ [⟨Action.dismissNotification c.dnsNotificationId, ()⟩])
        (some record.content, some true, none)
  | failed {target localIp t err} : c.dnsTarget = some target →
      (asyncSyncDnsWithRetry c target localIp).Traces t (.error err) →
      DnsRun c (some localIp) (t ++ [dnsFailureEv c (dnsErrorText err)])
        (none, some false, some (dnsErrorText err))

theorem dnsRun_of_traces {c : Coordinator} {localIp : Option String} {t : List Ev}
    {out : Option String × Option Bool × Option String}
    (h : (asyncReconcileDns c localIp).Traces t out) : DnsRun c localIp t out := by
  unfold asyncReconcileDns at h
  rcases htarget : c.dnsTarget with - | target
  · rw [htarget] at h
    obtain ⟨rfl, rfl⟩ := Prog.traces_ret_iff.mp h
    exact .off (.inl htarget)
  rcases localIp with - | localIp
  · rw [htarget] at h
    obtain ⟨rfl, rfl⟩ := Prog.traces_ret_iff.mp h
    exact .off (.inr rfl)
  rw [htarget] at h
  dsimp only at h
  rw [Prog.traces_bind_iff] at h
  obtain ⟨tr, r, t₂, rfl, hretry, h⟩ := h
  rcases r with err | record
  · dsimp only at h
    rw [asyncNotifyDnsFailure, createNotification, Prog.call_bind, Prog.traces_op_iff] at h
    obtain ⟨_, _, rfl, h⟩ := h
    obtain ⟨rfl, rfl⟩ := Prog.traces_ret_iff.mp h
    exact .failed htarget hretry
  · dsimp only at h
    rw [asyncClearDnsFailure, dismissNotification, Prog.call_bind, Prog.traces_op_iff] at h
    obtain ⟨_, _, rfl, h⟩ := h
    obtain ⟨rfl, rfl⟩ := Prog.traces_ret_iff.mp h
    exact .synced htarget hretry

/-! ### The Rule List half of a refresh -/

/-- Reading the source entity. -/
abbrev sourceEv (c : Coordinator) (state : Option String) : Ev :=
  ⟨Action.statesGet c.sourceEntityId, state⟩

/-- The query for the account's Rule Lists. -/
abbrev ruleListsEv (c : Coordinator)
    (answer : Except CloudflareError (List CloudflareRuleList)) : Ev :=
  ⟨Action.getRuleLists c.accountId, answer⟩

/-- What `_async_is_rule_list_missing` makes of the query's outcome. -/
def ruleListMissing (c : Coordinator)
    (answer : Except CloudflareError (List CloudflareRuleList)) : Bool :=
  match answer with
  | .error _ => false
  | .ok ruleLists => !ruleLists.any fun rule => rule.id == c.listId

/-- Raising or clearing the Repair issue. -/
abbrev issueEv (c : Coordinator) (missing : Bool) : Ev :=
  if missing then ⟨Action.createIssue c.ruleListMissingIssueId "rule_list_missing" c.title, ()⟩
  else ⟨Action.deleteIssue c.ruleListMissingIssueId, ()⟩

/-- Dismissing the list-failure notification. -/
abbrev clearEv (c : Coordinator) : Ev := ⟨Action.dismissNotification c.notificationId, ()⟩

/-- Recording the time of a confirmed match. -/
abbrev stampEv (now : Datetime) : Ev := ⟨Action.stampLastSynced, now⟩

/-- The notification `_async_notify_sync_failure` creates. -/
abbrev syncFailureEv (c : Coordinator) (error : String) : Ev :=
  ⟨Action.createNotification c.notificationId "Cloudflare IP Sync failed"
    ("Could not update the Cloudflare Rule List (" ++ c.listId ++
      ") with the current IP after " ++ toString c.maxRetries ++
      " attempts.\n\nLast error: " ++ error), ()⟩

theorem isInSync_none (ips : List String) : isInSync none ips = false := rfl

/-- The complete runs of `asyncUpdateList`. -/
inductive ListRun (c : Coordinator) : List Ev → Except UpdateError ListOutcome → Prop
  | readAuth (state message) :
      ListRun c [sourceEv c state, readEv c (.error (.auth message))]
        (.error (.configEntryAuthFailed message))
  | readApi (state message code answer) :
      ListRun c [sourceEv c state, readEv c (.error (.api message code)), ruleListsEv c answer,
          issueEv c (ruleListMissing c answer)]
        (.error (.updateFailed message))
  | readOther (state) {err : CloudflareError} :
      err.isAuth = false → (∀ message code, err ≠ .api message code) →
      ListRun c [sourceEv c state, readEv c (.error err)] (.error (.updateFailed err.str))
  | noSource {state} (items) : readSourceIp state = none →
      ListRun c [sourceEv c state, readEv c (.ok items), issueEv c false, clearEv c]
        (.ok ⟨none, items.map (·.ip), false, none⟩)
  | matched {state items localIp} (now) : readSourceIp state = some localIp →
      isInSync (some localIp) (items.map (·.ip)) = true →
      ListRun c [sourceEv c state, readEv c (.ok items), issueEv c false, clearEv c, stampEv now]
        (.ok ⟨some localIp, items.map (·.ip), true, none⟩)
  | written {state items localIp t ips} (now) : readSourceIp state = some localIp →
      isInSync (some localIp) (items.map (·.ip)) = false →
      (asyncSyncWithRetry c localIp).Traces t (.ok ips) →
      ListRun c
        (sourceEv c state :: readEv c (.ok items) :: issueEv c false :: t
          ++ [clearEv c, stampEv now])
        (.ok ⟨some localIp, ips, true, none⟩)
  | writeAuth {state items localIp t message} : readSourceIp state = some localIp →
      isInSync (some localIp) (items.map (·.ip)) = false →
      (asyncSyncWithRetry c localIp).Traces t (.error (.cloudflare (.auth message))) →
      ListRun c (sourceEv c state :: readEv c (.ok items) :: issueEv c false :: t)
        (.error (.configEntryAuthFailed message))
  | gaveUp {state items localIp t message} : readSourceIp state = some localIp →
      isInSync (some localIp) (items.map (·.ip)) = false →
      (asyncSyncWithRetry c localIp).Traces t (.error (.verificationFailed message)) →
      ListRun c
        (sourceEv c state :: readEv c (.ok items) :: issueEv c false :: t
          ++ [syncFailureEv c message])
        (.ok ⟨some localIp, items.map (·.ip), false, some message⟩)

/-- The list read failed with an API error: the query decides about the issue. -/
theorem listRun_readApi {c : Coordinator} {state : Option String} {message : String}
    {code : Option ℤ} {t : List Ev} {out : Except UpdateError ListOutcome}
    (h : Prog.Traces (do
      if ← asyncIsRuleListMissing c then asyncRaiseRuleListMissingIssue c
      else asyncClearRuleListMissingIssue c
      return .error (.updateFailed message)) t out) :
    ListRun c (sourceEv c state :: readEv c (.error (.api message code)) :: t) out := by
  rw [asyncIsRuleListMissing, asyncGetRuleLists, Prog.call_bind, Prog.op_bind,
    Prog.traces_op_iff] at h
  obtain ⟨answer, t', rfl, h⟩ := h
  have hmissing : ∀ missing, ruleListMissing c answer = missing →
      Prog.Traces (do
        if missing then asyncRaiseRuleListMissingIssue c else asyncClearRuleListMissingIssue c
        return (.error (.updateFailed message) : Except UpdateError ListOutcome)) t' out →
      ListRun c (sourceEv c state :: readEv c (.error (.api message code)) ::
        ruleListsEv c answer :: t') out := by
    clear h
    rintro missing rfl h
    rcases hm : ruleListMissing c answer with - | -
    · rw [hm, if_neg Bool.false_ne_true, asyncClearRuleListMissingIssue, deleteIssue,
        Prog.call_bind, Prog.traces_op_iff] at h
      obtain ⟨_, _, rfl, h⟩ := h
      obtain ⟨rfl, rfl⟩ := Prog.traces_ret_iff.mp h
      have hrun : ListRun c _ _ := .readApi state message code answer
      rw [hm] at hrun
      exact hrun
    · rw [hm, if_pos rfl, asyncRaiseRuleListMissingIssue, createIssue, Prog.call_bind,
        Prog.traces_op_iff] at h
      obtain ⟨_, _, rfl, h⟩ := h
      obtain ⟨rfl, rfl⟩ := Prog.traces_ret_iff.mp h
      have hrun : ListRun c _ _ := .readApi state message code answer
      rw [hm] at hrun
      exact hrun
  rcases answer with err | ruleLists
  · exact hmissing false rfl h
  · exact hmissing _ rfl h

/-- The list differs from the source IP: it is written. -/
theorem listRun_write {c : Coordinator} {state : Option String} {localIp : String}
    {items : List CloudflareListItem} {t : List Ev} {out : Except UpdateError ListOutcome}
    (hsource : readSourceIp state = some localIp)
    (hsync : isInSync (some localIp) (items.map (·.ip)) = false)
    (h : (asyncReconcileList c (some localIp) (items.map (·.ip))).Traces t out) :
    ListRun c (sourceEv c state :: readEv c (.ok items) :: issueEv c false :: t) out := by
  unfold asyncReconcileList at h
  rw [hsync] at h
  dsimp only at h
  rw [Prog.traces_bind_iff] at h
  obtain ⟨tr, r, t₂, rfl, hretry, h⟩ := h
  rcases r with err | ips
  · rcases (retryRun_of_traces hretry).error_cases with ⟨message, rfl⟩ | ⟨message, rfl⟩
    · obtain ⟨rfl, rfl⟩ := Prog.traces_ret_iff.mp h
      rw [List.append_nil]
      exact .writeAuth hsource hsync hretry
    · dsimp only at h
      rw [asyncNotifySyncFailure, createNotification, Prog.call_bind, Prog.traces_op_iff] at h
      obtain ⟨_, _, rfl, h⟩ := h
      obtain ⟨rfl, rfl⟩ := Prog.traces_ret_iff.mp h
      exact .gaveUp hsource hsync hretry
  · dsimp only at h
    rw [asyncClearSyncFailure, dismissNotification, Prog.call_bind, Prog.traces_op_iff] at h
    obtain ⟨_, _, rfl, h⟩ := h
    rw [stampLastSynced, Prog.call_bind, Prog.traces_op_iff] at h
    obtain ⟨now, _, rfl, h⟩ := h
    obtain ⟨rfl, rfl⟩ := Prog.traces_ret_iff.mp h
    exact .written now hsource hsync hretry

/-- The list was read: it is compared and, if it differs, written. -/
theorem listRun_reconcile {c : Coordinator} {state : Option String}
    {items : List CloudflareListItem} {t : List Ev} {out : Except UpdateError ListOutcome}
    (h : (asyncReconcileList c (readSourceIp state) (items.map (·.ip))).Traces t out) :
    ListRun c (sourceEv c state :: readEv c (.ok items) :: issueEv c false :: t) out := by
  rcases hsource : readSourceIp state with - | localIp
  · rw [hsource] at h
    unfold asyncReconcileList at h
    rw [isInSync_none] at h
    dsimp only at h
    rw [asyncClearSyncFailure, dismissNotification, Prog.call_bind, Prog.traces_op_iff] at h
    obtain ⟨_, _, rfl, h⟩ := h
    obtain ⟨rfl, rfl⟩ := Prog.traces_ret_iff.mp h
    exact .noSource items hsource
  rw [hsource] at h
  rcases hsync : isInSync (some localIp) (items.map (·.ip)) with - | -
  · exact listRun_write hsource hsync h
  · unfold asyncReconcileList at h
    rw [hsync] at h
    dsimp only at h
    rw [asyncClearSyncFailure, dismissNotification, Prog.call_bind, Prog.traces_op_iff] at h
    obtain ⟨_, _, rfl, h⟩ := h
    rw [stampLastSynced, Prog.call_bind, Prog.traces_op_iff] at h
    obtain ⟨now, _, rfl, h⟩ := h
    obtain ⟨rfl, rfl⟩ := Prog.traces_ret_iff.mp h
    exact .matched now hsource hsync

theorem listRun_of_traces {c : Coordinator} {t : List Ev}
    {out : Except UpdateError ListOutcome} (h : (asyncUpdateList c).Traces t out) :
    ListRun c t out := by
  rw [asyncUpdateList, statesGet, Prog.call_bind, Prog.traces_op_iff] at h
  obtain ⟨state, t', rfl, h⟩ := h
  dsimp only at h
  rw [asyncGetListItems, Prog.call_bind, Prog.traces_op_iff] at h
  obtain ⟨answer, t', rfl, h⟩ := h
  rcases answer with err | items
  · -- any error but these two classes is just reported
    have other : err.isAuth = false → (∀ message code, err ≠ .api message code) →
        Prog.Traces (return .error (.updateFailed err.str)) t' out →
        ListRun c (sourceEv c state :: readEv c (.error err) :: t') out := by
      intro hauth hapi h
      obtain ⟨rfl, rfl⟩ := Prog.traces_ret_iff.mp h
      exact .readOther state hauth hapi
    cases err with
    | auth message =>
        obtain ⟨rfl, rfl⟩ := Prog.traces_ret_iff.mp h
        exact .readAuth state message
    | api message code => exact listRun_readApi h
    | connection message => exact other rfl (by simp) h
    | rateLimit message => exact other rfl (by simp) h
    | result message => exact other rfl (by simp) h
  · dsimp only at h
    rw [asyncClearRuleListMissingIssue, deleteIssue, Prog.call_bind, Prog.traces_op_iff] at h
    obtain ⟨_, t', rfl, h⟩ := h
    exact listRun_reconcile h

/-- The usable address a refresh read from the source, if there was one. -/
def sourceIp : List Ev → Option String
  | ⟨.statesGet _, state⟩ :: _ => readSourceIp state
  | _ => none

/-- The address the list half goes on with is the one the refresh read,
whatever follows. -/
theorem ListRun.localIp_eq {c : Coordinator} {t : List Ev} {list : ListOutcome}
    (h : ListRun c t (.ok list)) (rest : List Ev) : sourceIp (t ++ rest) = list.localIp := by
  generalize hout : (Except.ok list : Except UpdateError ListOutcome) = out at h
  cases h with
  | readAuth | readApi | readOther | writeAuth => cases hout
  | noSource _ hsource => cases hout; exact hsource
  | matched _ hsource => cases hout; exact hsource
  | written _ hsource => cases hout; exact hsource
  | gaveUp hsource => cases hout; exact hsource

/-! ### A whole refresh -/

/-- What a refresh publishes, from its two halves and the stored time. -/
def publish (c : Coordinator) (list : ListOutcome)
    (dns : Option String × Option Bool × Option String) (lastSynced : Option Datetime) :
    SyncState where
  localIp := list.localIp
  cloudflareIps := list.cloudflareIps
  inSync := list.inSync
  lastSynced := lastSynced
  lastError := list.lastError
  dnsRecordName := if c.dnsEnabled then c.dnsRecordName else none
  dnsRecordIp := dns.1
  dnsInSync := dns.2.1
  dnsLastError := dns.2.2

/-- The complete runs of `asyncUpdateData`: the Rule List half, and if it does
not raise the DNS half, then reading `_last_synced`. -/
inductive RefreshRun (c : Coordinator) : List Ev → Except UpdateError SyncState → Prop
  | raised {t err} : (asyncUpdateList c).Traces t (.error err) → RefreshRun c t (.error err)
  | returned {tl td list dns lastSynced} : (asyncUpdateList c).Traces tl (.ok list) →
      (asyncReconcileDns c list.localIp).Traces td dns →
      RefreshRun c (tl ++ td ++ [⟨Action.getLastSynced, lastSynced⟩])
        (.ok (publish c list dns lastSynced))

/-- A whole refresh has read the address its list half goes on with. -/
theorem sourceIp_refresh {c : Coordinator} {tl : List Ev} {list : ListOutcome}
    (h : (asyncUpdateList c).Traces tl (.ok list)) (td : List Ev) (lastSynced : Option Datetime) :
    sourceIp (tl ++ td ++ [⟨Action.getLastSynced, lastSynced⟩]) = list.localIp := by
  rw [List.append_assoc]
  exact (listRun_of_traces h).localIp_eq _

theorem refreshRun_of_traces {c : Coordinator} {t : List Ev}
    {out : Except UpdateError SyncState} (h : (asyncUpdateData c).Traces t out) :
    RefreshRun c t out := by
  rw [asyncUpdateData, Prog.traces_bind_iff] at h
  obtain ⟨tl, r, t₂, rfl, hlist, h⟩ := h
  rcases r with err | list
  · obtain ⟨rfl, rfl⟩ := Prog.traces_ret_iff.mp h
    rw [List.append_nil]
    exact .raised hlist
  dsimp only at h
  rw [Prog.traces_bind_iff] at h
  obtain ⟨td, dns, t₃, rfl, hdns, h⟩ := h
  rw [getLastSynced, Prog.call_bind, Prog.traces_op_iff] at h
  obtain ⟨lastSynced, _, rfl, h⟩ := h
  obtain ⟨rfl, rfl⟩ := Prog.traces_ret_iff.mp h
  rw [← List.append_assoc]
  exact .returned hlist hdns

/-- The halves of a refresh that returns. -/
theorem refresh_returned {c : Coordinator} {t : List Ev} {s : SyncState}
    (h : (asyncUpdateData c).Traces t (.ok s)) :
    ∃ tl td list dns lastSynced, (asyncUpdateList c).Traces tl (.ok list) ∧
      (asyncReconcileDns c list.localIp).Traces td dns ∧
      t = tl ++ td ++ [⟨Action.getLastSynced, lastSynced⟩] ∧ s = publish c list dns lastSynced := by
  generalize hout : (Except.ok s : Except UpdateError SyncState) = out at h
  cases refreshRun_of_traces h with
  | raised => cases hout
  | returned hlist hdns =>
      cases hout
      exact ⟨_, _, _, _, _, hlist, hdns, rfl, rfl⟩

/-! ### Which actions each part performs -/

/-- The actions of an attempt to write the Rule List with `localIp`. -/
def Action.InAttempt (c : Coordinator) (localIp : String) : Action → Prop
  | getListItems _ _ => True
  | replaceListItems accountId listId items =>
      accountId = c.accountId ∧ listId = c.listId ∧ items = replacement localIp
  | getBulkOperation _ _ => True
  | sleep _ => True
  | _ => False

/-- The actions of the Rule List half of a refresh. -/
def Action.InListHalf (c : Coordinator) : Action → Prop
  | statesGet _ => True
  | getListItems _ _ => True
  | replaceListItems accountId listId _ => accountId = c.accountId ∧ listId = c.listId
  | getBulkOperation _ _ => True
  | getRuleLists _ => True
  | sleep _ => True
  | stampLastSynced => True
  | createNotification notificationId _ _ => notificationId = c.notificationId
  | dismissNotification notificationId => notificationId = c.notificationId
  | createIssue _ _ _ => True
  | deleteIssue _ => True
  | _ => False

/-- The actions of the DNS half of a refresh. -/
def Action.InDnsHalf (c : Coordinator) : Action → Prop
  | getDnsRecords _ _ _ => True
  | createDnsRecord _ _ => True
  | updateDnsRecord _ _ _ => True
  | sleep _ => True
  | createNotification notificationId _ _ => notificationId = c.dnsNotificationId
  | dismissNotification notificationId => notificationId = c.dnsNotificationId
  | _ => False

theorem emits_pollLoop (c : Coordinator) (localIp operationId : String) (fuel : ℕ)
    (elapsed : ℚ≥0) : (pollLoop c operationId fuel elapsed).Emits (Action.InAttempt c localIp) := by
  induction fuel generalizing elapsed with
  | zero => trivial
  | succ fuel ih =>
      rw [pollLoop, asyncGetBulkOperation, Prog.call_bind]
      refine ⟨trivial, ?_⟩
      rintro ⟨took, answer⟩
      dsimp only
      split
      · trivial
      rcases answer with err | operation
      · trivial
      dsimp only
      split
      · trivial
      split
      · trivial
      rw [asyncSleep, Prog.call_bind]
      refine ⟨trivial, fun _ => ?_⟩
      split
      · trivial
      · exact ih _

theorem emits_asyncReplaceAndVerify (c : Coordinator) (localIp : String) :
    (asyncReplaceAndVerify c localIp).Emits (Action.InAttempt c localIp) := by
  rw [asyncReplaceAndVerify, asyncReplaceListItems, Prog.call_bind]
  refine ⟨⟨rfl, rfl, rfl⟩, ?_⟩
  rintro (err | operationId)
  · trivial
  apply (emits_pollLoop c localIp operationId pollFuel 0).bind
  rintro (err | ⟨⟨⟩⟩)
  · trivial
  dsimp only
  rw [asyncGetListItems, Prog.call_bind]
  refine ⟨trivial, ?_⟩
  rintro (err | items)
  · trivial
  dsimp only
  split <;> trivial

theorem emits_asyncSyncWithRetry (c : Coordinator) (localIp : String) :
    (asyncSyncWithRetry c localIp).Emits (Action.InAttempt c localIp) :=
  emits_retryLoop (emits_asyncReplaceAndVerify c localIp) (fun _ => trivial) _ _ _

theorem inListHalf_of_inAttempt {c : Coordinator} {localIp : String} (o : Action)
    (ho : o.InAttempt c localIp) : o.InListHalf c := by
  cases o <;> first | trivial | exact ho.elim | exact ⟨ho.1, ho.2.1⟩

/-- Comparing and writing the list: attempts, if there is an address and the
list differs from it, and then recording the outcome. -/
theorem emits_asyncReconcileList {c : Coordinator} {P : Action → Prop} {localIp : Option String}
    {ips : List String}
    (hattempt : ∀ ip, localIp = some ip → isInSync (some ip) ips = false →
      ∀ o : Action, o.InAttempt c ip → P o)
    (hnotify : ∀ title message, P (.createNotification c.notificationId title message))
    (hclear : P (.dismissNotification c.notificationId)) (hstamp : P .stampLastSynced) :
    (asyncReconcileList c localIp ips).Emits P := by
  unfold asyncReconcileList
  split
  · rename_i ip hsync
    apply ((emits_asyncSyncWithRetry c ip).mono (hattempt ip rfl hsync)).bind
    rintro ((err | message) | ips')
    · cases err <;> trivial
    · exact ⟨hnotify _ _, fun _ => trivial⟩
    · exact ⟨hclear, fun _ => ⟨hstamp, fun _ => trivial⟩⟩
  · exact ⟨hclear, fun _ => ⟨hstamp, fun _ => trivial⟩⟩
  · exact ⟨hclear, fun _ => trivial⟩

/-- The list half reads the source and the list.  What follows looks after the
Repair issue, and compares and writes the list if it was read. -/
theorem asyncUpdateList_eq (c : Coordinator) :
    ∃ k : Option String → Except CloudflareError (List CloudflareListItem) →
        Coro (Except UpdateError ListOutcome),
      asyncUpdateList c = .op (.statesGet c.sourceEntityId) (fun state =>
        .op (.getListItems c.accountId c.listId) (k state)) ∧
      ∀ {P : Action → Prop} state answer, P (.getRuleLists c.accountId) →
        P (.createIssue c.ruleListMissingIssueId "rule_list_missing" c.title) →
        P (.deleteIssue c.ruleListMissingIssueId) →
        (∀ items, answer = .ok items →
          (asyncReconcileList c (readSourceIp state) (items.map (·.ip))).Emits P) →
        (k state answer).Emits P := by
  refine ⟨_, rfl, ?_⟩
  rintro P state (err | items) hquery hraise hclear hreconcile
  · cases err with
    | api message code =>
        have hmissing : (asyncIsRuleListMissing c).Emits P :=
          ⟨hquery, by rintro (- | -) <;> trivial⟩
        apply hmissing.bind
        rintro (- | -)
        · exact ⟨hclear, fun _ => trivial⟩
        · exact ⟨hraise, fun _ => trivial⟩
    | auth | connection | rateLimit | result => trivial
  · exact ⟨hclear, fun _ => hreconcile items rfl⟩

theorem emits_asyncUpdateList (c : Coordinator) :
    (asyncUpdateList c).Emits (Action.InListHalf c) := by
  obtain ⟨k, hk, hrest⟩ := asyncUpdateList_eq c
  rw [hk]
  refine ⟨trivial, fun state => ⟨trivial, fun answer => ?_⟩⟩
  apply hrest state answer trivial trivial trivial
  intro items _
  exact emits_asyncReconcileList (fun _ _ _ => inListHalf_of_inAttempt) (fun _ _ => rfl) rfl trivial

/-- An upsert: one query, and at most one write. -/
theorem emits_asyncUpsertDnsRecord {P : Action → Prop} {target : DnsTarget} {localIp : String}
    (hquery : P (.getDnsRecords target.zoneId target.recordName (recordType localIp)))
    (hcreate : P (.createDnsRecord target.zoneId (dnsBody target localIp)))
    (hupdate : ∀ record, P (.updateDnsRecord target.zoneId record.id (dnsPatch record localIp))) :
    (asyncUpsertDnsRecord target localIp).Emits P := by
  rw [asyncUpsertDnsRecord, asyncGetDnsRecords, Prog.call_bind]
  refine ⟨hquery, ?_⟩
  rintro (err | (- | ⟨record, rest⟩))
  · trivial
  · refine ⟨hcreate, ?_⟩
    rintro (err | record) <;> trivial
  · dsimp only
    split
    · refine ⟨hupdate record, ?_⟩
      rintro (err | record) <;> trivial
    · trivial

/-- The DNS half: upserts of the address it is given, and then the notification. -/
theorem emits_reconcileDns_of_upsert {c : Coordinator} {P : Action → Prop}
    {localIp : Option String}
    (hupsert : ∀ target ip, c.dnsTarget = some target → localIp = some ip →
      (asyncUpsertDnsRecord target ip).Emits P)
    (hsleep : ∀ seconds, P (.sleep seconds))
    (hnotify : ∀ title message, P (.createNotification c.dnsNotificationId title message))
    (hclear : P (.dismissNotification c.dnsNotificationId)) :
    (asyncReconcileDns c localIp).Emits P := by
  unfold asyncReconcileDns
  split
  · rename_i target ip htarget
    apply (emits_retryLoop (hupsert target ip htarget rfl) hsleep _ _ _).bind
    rintro (err | record)
    · exact ⟨hnotify _ _, fun _ => trivial⟩
    · exact ⟨hclear, fun _ => trivial⟩
  · trivial

theorem emits_asyncReconcileDns (c : Coordinator) (localIp : Option String) :
    (asyncReconcileDns c localIp).Emits (Action.InDnsHalf c) := by
  refine emits_reconcileDns_of_upsert ?_ (fun _ => trivial) (fun _ _ => rfl) rfl
  intro target ip _ _
  exact emits_asyncUpsertDnsRecord trivial trivial fun _ => trivial

/-! ### The address a refresh works with -/

/-- The addresses a request writes. -/
def Action.writtenIps : Action → List String
  | replaceListItems _ _ items => items.map (·.ip)
  | createDnsRecord _ body => [body.content]
  | updateDnsRecord _ _ patch => [patch.content]
  | _ => []

/-- The actions of a refresh that has taken `localIp` from the source: it does
not look at the source again, and writes no other address. -/
def Action.AfterRead (localIp : Option String) (o : Action) : Prop :=
  (∀ entityId, o ≠ .statesGet entityId) ∧ ∀ ip ∈ o.writtenIps, localIp = some ip

/-- An action that neither reads the source nor writes an address. -/
theorem afterRead_of_neutral {localIp : Option String} {o : Action}
    (hread : ∀ entityId, o ≠ .statesGet entityId) (hwrite : o.writtenIps = []) :
    o.AfterRead localIp := by
  refine ⟨hread, ?_⟩
  rw [hwrite]
  intro ip hip
  cases hip

theorem afterRead_of_inAttempt {c : Coordinator} {localIp : String} (o : Action)
    (ho : o.InAttempt c localIp) : o.AfterRead (some localIp) := by
  cases o with
  | replaceListItems =>
      obtain ⟨-, -, rfl⟩ := ho
      exact ⟨by simp, by simp [Action.writtenIps]⟩
  | getListItems | getBulkOperation | sleep => exact afterRead_of_neutral (by simp) rfl
  | _ => exact ho.elim

theorem afterRead_asyncReconcileDns (c : Coordinator) (localIp : Option String) :
    (asyncReconcileDns c localIp).Emits (Action.AfterRead localIp) := by
  have neutral : ∀ {o : Action}, (∀ entityId, o ≠ .statesGet entityId) → o.writtenIps = [] →
      o.AfterRead localIp := afterRead_of_neutral
  refine emits_reconcileDns_of_upsert ?_ (fun _ => neutral (by simp) rfl)
    (fun _ _ => neutral (by simp) rfl) (neutral (by simp) rfl)
  rintro target ip - rfl
  apply emits_asyncUpsertDnsRecord (neutral (by simp) rfl)
  · exact ⟨by simp, by simp [Action.writtenIps]⟩
  · exact fun record => ⟨by simp, by simp [Action.writtenIps]⟩

/-- **One address.** A refresh, and whatever follows it: it reads the source, and
then works with the address it read. -/
theorem source_first {c : Coordinator} {α : Type} {f : Except UpdateError SyncState → Coro α}
    {t : List Ev} {rest : Coro α} (hf : ∀ r localIp, (f r).Emits (Action.AfterRead localIp))
    (h : (asyncUpdateData c >>= f).Steps t rest) :
    t = [] ∨ ∃ state t', t = sourceEv c state :: t' ∧
      ∀ e ∈ t', e.1.AfterRead (readSourceIp state) := by
  obtain ⟨k, hk, hrest⟩ := asyncUpdateList_eq c
  rw [asyncUpdateData, hk, Prog.op_bind, Prog.op_bind, Prog.steps_op_iff] at h
  obtain ⟨rfl, -⟩ | ⟨state, t', rfl, h⟩ := h
  · exact .inl rfl
  refine .inr ⟨state, t', rfl, (Prog.Emits.steps ?_ h).1⟩
  have neutral : ∀ {o : Action}, (∀ entityId, o ≠ .statesGet entityId) → o.writtenIps = [] →
      o.AfterRead (readSourceIp state) := afterRead_of_neutral
  have hlist : (.op (.getListItems c.accountId c.listId) (k state) :
      Coro (Except UpdateError ListOutcome)).Emits (Action.AfterRead (readSourceIp state)) := by
    refine ⟨neutral (by simp) rfl, fun answer => ?_⟩
    refine hrest state answer (neutral (by simp) rfl) (neutral (by simp) rfl)
      (neutral (by simp) rfl) ?_
    intro items _
    refine emits_asyncReconcileList ?_ (fun _ _ => neutral (by simp) rfl) (neutral (by simp) rfl)
      (neutral (by simp) rfl)
    intro ip hsource _ o ho
    rw [hsource]
    exact afterRead_of_inAttempt o ho
  refine Prog.Emits.bind (hlist.bind_of_traces ?_) (fun r => hf r _)
  rintro t (err | list) htraces
  · trivial
  · -- the DNS half gets the address the Rule List half had
    have hrun : (asyncUpdateList c).Traces (sourceEv c state :: t) (.ok list) := by
      rw [hk]
      exact Prog.traces_op_iff.mpr ⟨state, t, rfl, htraces⟩
    have hlocal : readSourceIp state = list.localIp := (listRun_of_traces hrun).localIp_eq []
    rw [hlocal]
    apply (afterRead_asyncReconcileDns c _).bind
    rintro ⟨dnsRecordIp, dnsInSync, dnsLastError⟩
    exact ⟨afterRead_of_neutral (by simp) rfl, fun _ => trivial⟩

end CloudflareIpSync
