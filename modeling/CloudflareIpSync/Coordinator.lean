/-
CloudflareIpSync/Coordinator.lean

The coordinator of `coordinator.py`, method by method, and the setup of a
config entry around it.

One refresh is `asyncUpdateData`.  It reads the source entity once, reads the
Rule List, and brings the list (`asyncUpdateList`) and then the optional DNS
record (`asyncReconcileDns`) to the address it read.  Exceptions are values
here: a coroutine that may raise returns an `Except`, and each `except` clause
of the source is a case of a match, in the source's order.

The retry loops of the two halves are the same loop around different attempts;
it is written once (`retryLoop`) and both methods instantiate it.
-/
import CloudflareIpSync.Action
import CloudflareIpSync.Ipaddress
import Mathlib.Data.Finset.Image

namespace CloudflareIpSync

open Interact Ipaddress

/-! ### Configuration -/

/-- What the coordinator reads of a config entry. -/
structure ConfigEntry where
  entryId : String
  title : String
  accountId : String
  listId : String
  sourceEntityId : String
  maxRetries : Option ℚ
  dnsRecordName : Option String
  dnsZoneId : Option String

/-- The attributes of the coordinator that never change. -/
structure Coordinator where
  entryId : String
  title : String
  accountId : String
  listId : String
  sourceEntityId : String
  maxRetries : ℤ
  dnsRecordName : Option String
  dnsZoneId : Option String
  deriving DecidableEq

/-- `CloudflareIpSyncCoordinator.__init__`. -/
def Coordinator.ofEntry (entry : ConfigEntry) : Coordinator where
  entryId := entry.entryId
  title := entry.title
  accountId := entry.accountId
  listId := entry.listId
  sourceEntityId := entry.sourceEntityId
  maxRetries := pyInt (entry.maxRetries.getD defaultMaxRetries)
  dnsRecordName := entry.dnsRecordName
  dnsZoneId := entry.dnsZoneId

namespace Coordinator

/-- `_notification_id`. -/
def notificationId (c : Coordinator) : String := domain ++ "_" ++ c.entryId ++ "_sync_failed"

/-- `_dns_notification_id`. -/
def dnsNotificationId (c : Coordinator) : String :=
  domain ++ "_" ++ c.entryId ++ "_dns_sync_failed"

/-- `_rule_list_missing_issue_id`. -/
def ruleListMissingIssueId (c : Coordinator) : String :=
  domain ++ "_" ++ c.entryId ++ "_rule_list_missing"

/-- `_dns_enabled`. -/
def dnsEnabled (c : Coordinator) : Bool := truthy c.dnsRecordName && truthy c.dnsZoneId

end Coordinator

/-- A configured DNS record: the name and zone that `_async_upsert_dns_record`
asserts to be set. -/
structure DnsTarget where
  recordName : String
  zoneId : String
  recordName_ne : recordName ≠ ""
  zoneId_ne : zoneId ≠ ""

/-- The DNS record the coordinator is configured with, if the feature is on. -/
def Coordinator.dnsTarget (c : Coordinator) : Option DnsTarget :=
  match c.dnsRecordName, c.dnsZoneId with
  | some name, some zoneId =>
      if h : name ≠ "" ∧ zoneId ≠ "" then some ⟨name, zoneId, h.1, h.2⟩ else none
  | _, _ => none

/-! ### State and errors -/

/-- `SyncState`: the snapshot a refresh publishes. -/
structure SyncState where
  localIp : Option String
  cloudflareIps : List String
  inSync : Bool
  lastSynced : Option Datetime
  lastError : Option String
  dnsRecordName : Option String
  dnsRecordIp : Option String
  dnsInSync : Option Bool
  dnsLastError : Option String
  deriving DecidableEq

/-- What a sync attempt raises: a client error, or `_SyncVerificationFailed`. -/
inductive SyncError
  | cloudflare (err : CloudflareError)
  | verificationFailed (message : String)
  deriving DecidableEq

/-- `str(err)`. -/
def SyncError.str : SyncError → String
  | cloudflare err => err.str
  | verificationFailed message => message

/-- What a refresh raises; `uncaught` is a client error that no clause of
`_async_update_data` catches. -/
inductive UpdateError
  | configEntryAuthFailed (message : String)
  | updateFailed (message : String)
  | uncaught (err : CloudflareError)
  deriving DecidableEq

/-- `f"{err}"` where `err` may be `None`. -/
def strOrNone : Option SyncError → String
  | some err => err.str
  | none => "None"

/-! ### Reading and comparing addresses -/

/-- `_to_network`. -/
def toNetwork (value : String) : Option IPNetwork := ipNetwork (strip value)

/-- `_read_source_ip`, on the state text `hass.states.get` returned. -/
def readSourceIp (state : Option String) : Option String :=
  match state with
  | none => none
  | some state =>
      if state = "unavailable" ∨ state = "unknown" ∨ state = "" then none
      else if (ipAddress (strip state)).isSome then some (strip state)
      else none

/-- `_is_in_sync`: the list's networks are exactly the local address's. -/
def isInSync (localIp : Option String) (cloudflareIps : List String) : Bool :=
  match localIp with
  | none => false
  | some localIp =>
      ({toNetwork localIp} : Finset (Option IPNetwork)) =
        (cloudflareIps.map toNetwork).toFinset.erase none

/-! ### The retry loop -/

/-- `range(start, stop)`. -/
def pyRange (start stop : ℤ) : List ℤ :=
  (List.range (stop - start).toNat).map fun i : ℕ => start + i

theorem pyRange_length (n : ℤ) : (pyRange 1 (n + 1)).length = n.toNat := by
  unfold pyRange
  rw [List.length_map, List.length_range]
  congr 1
  omega

/-- The body of both retry methods: try, stop at the first success or
authentication error, back off between attempts. -/
def retryLoop {α : Type} (maxRetries : ℤ) (body : Coro (Except SyncError α)) :
    List ℤ → ℕ → Option SyncError → Coro (Except SyncError α)
  | [], _, lastErr =>
      return .error (.verificationFailed
        ("Failed after " ++ toString maxRetries ++ " attempts: " ++ strOrNone lastErr))
  | attempt :: rest, delay, _ => do
      match ← body with
      | .ok value => return .ok value
      -- `except CloudflareAuthError: raise`
      | .error (.cloudflare (.auth message)) => return .error (.cloudflare (.auth message))
      | .error err =>
          -- no sleep after the last attempt
          if attempt < maxRetries then do
            asyncSleep delay
            retryLoop maxRetries body rest (min (delay * 2) syncMaxBackoff) (some err)
          else retryLoop maxRetries body rest delay (some err)

/-! ### Writing the Rule List -/

/-- The polling loop of `_async_wait_for_bulk_operation`, `elapsed` seconds
into its deadline.  The deadline cancels a poll in flight and a sleep.  Every
round but the last sleeps, so the fuel never runs out (`pollRun_of_traces`). -/
def pollLoop (c : Coordinator) (operationId : String) :
    ℕ → ℚ≥0 → Coro (Except SyncError Unit)
  | 0, _ => return .error (.verificationFailed
      "Timed out waiting for the Cloudflare bulk operation")
  | fuel + 1, elapsed => do
      let (took, answer) ← asyncGetBulkOperation c.accountId operationId
      -- the deadline passes while the poll is in flight, whatever it would have returned
      if bulkOperationTimeout ≤ elapsed + took then
        return .error (.verificationFailed
          "Timed out waiting for the Cloudflare bulk operation")
      else
        match answer with
        | .error err => return .error (.cloudflare err)
        | .ok operation =>
            if operation.isComplete then return .ok ()
            else if operation.isFailed then
              return .error (.verificationFailed
                ("Cloudflare bulk operation failed: " ++ operation.error.getD "None"))
            else do
              asyncSleep bulkOperationPollInterval
              if bulkOperationTimeout ≤ elapsed + took + bulkOperationPollInterval then
                return .error (.verificationFailed
                  "Timed out waiting for the Cloudflare bulk operation")
              else pollLoop c operationId fuel (elapsed + took + bulkOperationPollInterval)

/-- Rounds of the polling loop that fit into its deadline. -/
def pollFuel : ℕ := bulkOperationTimeout / bulkOperationPollInterval + 1

/-- `_async_wait_for_bulk_operation`. -/
def asyncWaitForBulkOperation (c : Coordinator) (operationId : String) :
    Coro (Except SyncError Unit) :=
  pollLoop c operationId pollFuel 0

/-- `_async_replace_and_verify`. -/
def asyncReplaceAndVerify (c : Coordinator) (localIp : String) :
    Coro (Except SyncError (List String)) := do
  match ← asyncReplaceListItems c.accountId c.listId
      [{ ip := localIp, id := none, comment := some listItemComment }] with
  | .error err => return .error (.cloudflare err)
  | .ok operationId =>
      match ← asyncWaitForBulkOperation c operationId with
      | .error err => return .error err
      | .ok () =>
          match ← asyncGetListItems c.accountId c.listId with
          | .error err => return .error (.cloudflare err)
          | .ok items =>
              if isInSync (some localIp) (items.map (·.ip)) then return .ok (items.map (·.ip))
              else return .error (.verificationFailed
                "Rule List still did not match the source IP after the update")

/-- `_async_sync_with_retry`. -/
def asyncSyncWithRetry (c : Coordinator) (localIp : String) :
    Coro (Except SyncError (List String)) :=
  retryLoop c.maxRetries (asyncReplaceAndVerify c localIp)
    (pyRange 1 (c.maxRetries + 1)) syncInitialBackoff none

/-! ### Notifications and the Repair issue -/

/-- `_async_notify_dns_failure`. -/
def asyncNotifyDnsFailure (c : Coordinator) (error : String) : Coro Unit :=
  createNotification c.dnsNotificationId "Cloudflare IP Sync failed"
    ("Could not update the DNS record " ++ c.dnsRecordName.getD "None" ++
      " with the current IP.\n\nLast error: " ++ error)

/-- `_async_clear_dns_failure`. -/
def asyncClearDnsFailure (c : Coordinator) : Coro Unit := dismissNotification c.dnsNotificationId

/-- `_async_notify_sync_failure`. -/
def asyncNotifySyncFailure (c : Coordinator) (error : String) : Coro Unit :=
  createNotification c.notificationId "Cloudflare IP Sync failed"
    ("Could not update the Cloudflare Rule List (" ++ c.listId ++
      ") with the current IP after " ++ toString c.maxRetries ++
      " attempts.\n\nLast error: " ++ error)

/-- `_async_clear_sync_failure`. -/
def asyncClearSyncFailure (c : Coordinator) : Coro Unit := dismissNotification c.notificationId

/-- `_async_is_rule_list_missing`. -/
def asyncIsRuleListMissing (c : Coordinator) : Coro Bool := do
  match ← asyncGetRuleLists c.accountId with
  | .error _ => return false
  | .ok ruleLists => return !ruleLists.any fun rule => rule.id == c.listId

/-- `_async_raise_rule_list_missing_issue`. -/
def asyncRaiseRuleListMissingIssue (c : Coordinator) : Coro Unit :=
  createIssue c.ruleListMissingIssueId "rule_list_missing" c.title

/-- `_async_clear_rule_list_missing_issue`. -/
def asyncClearRuleListMissingIssue (c : Coordinator) : Coro Unit :=
  deleteIssue c.ruleListMissingIssueId

/-! ### The DNS record -/

/-- The record type `_async_upsert_dns_record` writes for an address. -/
def recordType (localIp : String) : String := if ':' ∈ localIp.toList then "AAAA" else "A"

/-- The last check of `_async_upsert_dns_record`. -/
def verifyDnsRecord (localIp : String) (record : CloudflareDnsRecord) :
    Except SyncError CloudflareDnsRecord :=
  if record.content ≠ localIp ∨ record.proxied then
    .error (.verificationFailed
      "DNS record still did not match the source IP after the update")
  else .ok record

/-- `_async_upsert_dns_record`. -/
def asyncUpsertDnsRecord (target : DnsTarget) (localIp : String) :
    Coro (Except SyncError CloudflareDnsRecord) := do
  match ← asyncGetDnsRecords target.zoneId target.recordName (recordType localIp) with
  | .error err => return .error (.cloudflare err)
  | .ok [] =>
      match ← asyncCreateDnsRecord target.zoneId
          { name := target.recordName, type := recordType localIp, content := localIp,
            ttl := dnsRecordTtl, proxied := false, comment := dnsRecordComment } with
      | .error err => return .error (.cloudflare err)
      | .ok record => return verifyDnsRecord localIp record
  | .ok (record :: _) =>
      -- of several records only the first is looked at
      if record.content ≠ localIp ∨ record.proxied ∨ record.ttl ≠ dnsRecordTtl then do
        match ← asyncUpdateDnsRecord target.zoneId record.id
            { content := localIp, ttl := dnsRecordTtl, proxied := false,
              comment := orDefault record.comment dnsRecordComment } with
        | .error err => return .error (.cloudflare err)
        | .ok record => return verifyDnsRecord localIp record
      else return verifyDnsRecord localIp record

/-- `_async_sync_dns_with_retry`. -/
def asyncSyncDnsWithRetry (c : Coordinator) (target : DnsTarget) (localIp : String) :
    Coro (Except SyncError CloudflareDnsRecord) :=
  retryLoop c.maxRetries (asyncUpsertDnsRecord target localIp)
    (pyRange 1 (c.maxRetries + 1)) syncInitialBackoff none

/-- The text `_async_reconcile_dns` reports for an error. -/
def dnsErrorText : SyncError → String
  | .cloudflare (.auth message) =>
      "Cloudflare rejected the DNS update; check that the API token " ++
        "has permission to edit DNS records in the record's zone: " ++ message
  | err => err.str

/-- `_async_reconcile_dns`: the record's IP, whether it is in sync, the error. -/
def asyncReconcileDns (c : Coordinator) (localIp : Option String) :
    Coro (Option String × Option Bool × Option String) :=
  match c.dnsTarget, localIp with
  | some target, some localIp => do
      match ← asyncSyncDnsWithRetry c target localIp with
      | .ok record =>
          asyncClearDnsFailure c
          return (some record.content, some true, none)
      | .error err =>
          asyncNotifyDnsFailure c (dnsErrorText err)
          return (none, some false, some (dnsErrorText err))
  | _, _ => return (none, none, none)

/-! ### A refresh -/

/-- What `_async_update_data` knows once the Rule List half is done. -/
structure ListOutcome where
  localIp : Option String
  cloudflareIps : List String
  inSync : Bool
  lastError : Option String
  deriving DecidableEq

/-- The part of `_async_update_data` that compares the list it read with the
source IP and writes the list if they differ. -/
def asyncReconcileList (c : Coordinator) (localIp : Option String)
    (cloudflareIps : List String) : Coro (Except UpdateError ListOutcome) :=
  match localIp, isInSync localIp cloudflareIps with
  | some ip, false => do
      match ← asyncSyncWithRetry c ip with
      | .error (.cloudflare (.auth message)) =>
          return .error (.configEntryAuthFailed message)
      | .error (.cloudflare err) => return .error (.uncaught err)
      | .error (.verificationFailed message) =>
          asyncNotifySyncFailure c message
          return .ok ⟨some ip, cloudflareIps, false, some message⟩
      | .ok ips =>
          asyncClearSyncFailure c
          let _ ← stampLastSynced
          return .ok ⟨some ip, ips, true, none⟩
  | localIp, true => do
      asyncClearSyncFailure c
      let _ ← stampLastSynced
      return .ok ⟨localIp, cloudflareIps, true, none⟩
  | none, false => do
      asyncClearSyncFailure c
      return .ok ⟨none, cloudflareIps, false, none⟩

/-- `_async_update_data` up to the DNS record. -/
def asyncUpdateList (c : Coordinator) : Coro (Except UpdateError ListOutcome) := do
  let localIp := readSourceIp (← statesGet c.sourceEntityId)
  match ← asyncGetListItems c.accountId c.listId with
  | .error (.auth message) => return .error (.configEntryAuthFailed message)
  | .error (.api message _) => do
      if ← asyncIsRuleListMissing c then asyncRaiseRuleListMissingIssue c
      else asyncClearRuleListMissingIssue c
      return .error (.updateFailed message)
  | .error err => return .error (.updateFailed err.str)
  | .ok items =>
      asyncClearRuleListMissingIssue c
      asyncReconcileList c localIp (items.map (·.ip))

/-- `_async_update_data`. -/
def asyncUpdateData (c : Coordinator) : Coro (Except UpdateError SyncState) := do
  match ← asyncUpdateList c with
  | .error err => return .error err
  | .ok list =>
      let (dnsRecordIp, dnsInSync, dnsLastError) ← asyncReconcileDns c list.localIp
      let lastSynced ← getLastSynced
      return .ok
        { localIp := list.localIp, cloudflareIps := list.cloudflareIps,
          inSync := list.inSync, lastSynced := lastSynced, lastError := list.lastError,
          dnsRecordName := if c.dnsEnabled then c.dnsRecordName else none,
          dnsRecordIp := dnsRecordIp, dnsInSync := dnsInSync, dnsLastError := dnsLastError }

/-! ### Setting up a config entry -/

/-- `async_setup_entry`: first refresh, then the listener on the source entity,
then the platforms.  A first refresh that raises ends the setup. -/
def asyncSetupEntry (c : Coordinator) : Coro Unit := do
  match ← asyncUpdateData c with
  | .error _ => return ()
  | .ok _ =>
      Prog.call Action.setupListeners
      Prog.call Action.forwardEntrySetups
      Prog.call Action.addUpdateListener

/-! ### The sensor -/

/-- The options of the sync-status sensor. -/
inductive SyncStatus
  | inSync
  | outOfSync
  deriving DecidableEq

/-- `CloudflareSyncStatusSensor.native_value`. -/
def nativeValue (data : Option SyncState) : Option SyncStatus :=
  match data with
  | none => none
  | some data =>
      some (if data.inSync ∧ data.dnsInSync ≠ some false then .inSync else .outOfSync)

end CloudflareIpSync
