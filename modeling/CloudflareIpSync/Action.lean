/-
CloudflareIpSync/Action.lean

The signature of the integration's coroutines: everything they do that someone
else can see or answer.

* The client methods of `CloudflareClient` that the coordinator awaits, each
  answered by its result or a `CloudflareError`.  A poll of a bulk operation is
  answered together with the time it took, since the wait around it has a
  deadline.
* `asyncio.sleep`.
* Home Assistant: the source entity's state, persistent notifications, the
  issue registry, and the steps of setting up a config entry.
* `_last_synced`, the one attribute of the coordinator that changes.

Log output is left out.  A coroutine is an interactive program over these
actions (`Coro`); what follows each action depends only on its answer.
-/
import CloudflareIpSync.Api
import CloudflareIpSync.Prog
import Mathlib.Algebra.Order.Ring.NNRat

namespace CloudflareIpSync

open Interact

/-- A reading of the clock. -/
abbrev Datetime := ℕ

/-- The fields `async_create_dns_record` sends. -/
structure DnsRecordBody where
  name : String
  type : String
  content : String
  ttl : ℤ
  proxied : Bool
  comment : String
  deriving DecidableEq

/-- The fields `async_update_dns_record` sends. -/
structure DnsRecordPatch where
  content : String
  ttl : ℤ
  proxied : Bool
  comment : String
  deriving DecidableEq

/-- The actions of the integration's coroutines. -/
inductive Action
  | statesGet (entityId : String)
  | getListItems (accountId listId : String)
  | replaceListItems (accountId listId : String) (items : List CloudflareListItem)
  | getBulkOperation (accountId operationId : String)
  | getRuleLists (accountId : String)
  | getDnsRecords (zoneId name recordType : String)
  | createDnsRecord (zoneId : String) (body : DnsRecordBody)
  | updateDnsRecord (zoneId recordId : String) (patch : DnsRecordPatch)
  | sleep (seconds : ℕ)
  | stampLastSynced
  | getLastSynced
  | createNotification (notificationId title message : String)
  | dismissNotification (notificationId : String)
  | createIssue (issueId translationKey listName : String)
  | deleteIssue (issueId : String)
  | setupListeners
  | forwardEntrySetups
  | addUpdateListener
  deriving DecidableEq

/-- What an action is answered with. -/
abbrev Action.Res : Action → Type
  | statesGet _ => Option String
  | getListItems _ _ => Except CloudflareError (List CloudflareListItem)
  | replaceListItems _ _ _ => Except CloudflareError String
  | getBulkOperation _ _ => ℚ≥0 × Except CloudflareError CloudflareBulkOperation
  | getRuleLists _ => Except CloudflareError (List CloudflareRuleList)
  | getDnsRecords _ _ _ => Except CloudflareError (List CloudflareDnsRecord)
  | createDnsRecord _ _ => Except CloudflareError CloudflareDnsRecord
  | updateDnsRecord _ _ _ => Except CloudflareError CloudflareDnsRecord
  | stampLastSynced => Datetime
  | getLastSynced => Option Datetime
  | _ => Unit

instance (o : Action) : DecidableEq o.Res := by
  cases o <;> (unfold Action.Res; infer_instance)

/-- Every action can be answered. -/
theorem nonempty_res (o : Action) : Nonempty o.Res := by
  have err : CloudflareError := .connection "timeout"
  cases o with
  | statesGet | getLastSynced => exact ⟨none⟩
  | stampLastSynced => exact ⟨(0 : ℕ)⟩
  | getListItems | replaceListItems | getRuleLists | getDnsRecords | createDnsRecord
  | updateDnsRecord => exact ⟨.error err⟩
  | getBulkOperation => exact ⟨(0, .error err)⟩
  | sleep | createNotification | dismissNotification | createIssue | deleteIssue | setupListeners
  | forwardEntrySetups | addUpdateListener => exact ⟨()⟩

/-- A coroutine of the integration. -/
abbrev Coro := Prog Action Action.Res

/-- An action with its answer. -/
abbrev Ev := Event Action.Res

/-! ### The client methods the coordinator awaits -/

@[simp] def asyncGetListItems (accountId listId : String) :
    Coro (Except CloudflareError (List CloudflareListItem)) :=
  Prog.call (Action.getListItems accountId listId)

@[simp] def asyncReplaceListItems (accountId listId : String) (items : List CloudflareListItem) :
    Coro (Except CloudflareError String) :=
  Prog.call (Action.replaceListItems accountId listId items)

/-- The answer is the time the request took and what it returned. -/
@[simp] def asyncGetBulkOperation (accountId operationId : String) :
    Coro (ℚ≥0 × Except CloudflareError CloudflareBulkOperation) :=
  Prog.call (Action.getBulkOperation accountId operationId)

@[simp] def asyncGetRuleLists (accountId : String) :
    Coro (Except CloudflareError (List CloudflareRuleList)) :=
  Prog.call (Action.getRuleLists accountId)

@[simp] def asyncGetDnsRecords (zoneId name recordType : String) :
    Coro (Except CloudflareError (List CloudflareDnsRecord)) :=
  Prog.call (Action.getDnsRecords zoneId name recordType)

@[simp] def asyncCreateDnsRecord (zoneId : String) (body : DnsRecordBody) :
    Coro (Except CloudflareError CloudflareDnsRecord) :=
  Prog.call (Action.createDnsRecord zoneId body)

@[simp] def asyncUpdateDnsRecord (zoneId recordId : String) (patch : DnsRecordPatch) :
    Coro (Except CloudflareError CloudflareDnsRecord) :=
  Prog.call (Action.updateDnsRecord zoneId recordId patch)

/-! ### Home Assistant and the coordinator's own state -/

/-- `asyncio.sleep(seconds)`. -/
@[simp] def asyncSleep (seconds : ℕ) : Coro Unit := Prog.call (Action.sleep seconds)

/-- `hass.states.get(entity_id)`: the state text of the entity, if it exists. -/
@[simp] def statesGet (entityId : String) : Coro (Option String) :=
  Prog.call (Action.statesGet entityId)

/-- `self._last_synced = dt_util.utcnow()`; the answer is the clock's reading. -/
@[simp] def stampLastSynced : Coro Datetime := Prog.call Action.stampLastSynced

/-- Reading `self._last_synced`. -/
@[simp] def getLastSynced : Coro (Option Datetime) := Prog.call Action.getLastSynced

/-- `persistent_notification.async_create`. -/
@[simp] def createNotification (notificationId title message : String) : Coro Unit :=
  Prog.call (Action.createNotification notificationId title message)

/-- `persistent_notification.async_dismiss`. -/
@[simp] def dismissNotification (notificationId : String) : Coro Unit :=
  Prog.call (Action.dismissNotification notificationId)

/-- `ir.async_create_issue`. -/
@[simp] def createIssue (issueId translationKey listName : String) : Coro Unit :=
  Prog.call (Action.createIssue issueId translationKey listName)

/-- `ir.async_delete_issue`. -/
@[simp] def deleteIssue (issueId : String) : Coro Unit :=
  Prog.call (Action.deleteIssue issueId)

/-! ### Fixed answers -/

/-- One answer for every kind of question: enough to run a coroutine. -/
structure Replies where
  source : Option String
  listItems : Except CloudflareError (List CloudflareListItem)
  replace : Except CloudflareError String
  bulkOperation : ℚ≥0 × Except CloudflareError CloudflareBulkOperation
  ruleLists : Except CloudflareError (List CloudflareRuleList)
  dnsRecords : Except CloudflareError (List CloudflareDnsRecord)
  dnsRecord : Except CloudflareError CloudflareDnsRecord
  now : Datetime
  lastSynced : Option Datetime

def Replies.answer (replies : Replies) : (o : Action) → o.Res
  | .statesGet _ => replies.source
  | .getListItems _ _ => replies.listItems
  | .replaceListItems _ _ _ => replies.replace
  | .getBulkOperation _ _ => replies.bulkOperation
  | .getRuleLists _ => replies.ruleLists
  | .getDnsRecords _ _ _ => replies.dnsRecords
  | .createDnsRecord _ _ => replies.dnsRecord
  | .updateDnsRecord _ _ _ => replies.dnsRecord
  | .stampLastSynced => replies.now
  | .getLastSynced => replies.lastSynced
  | .sleep _ => ()
  | .createNotification _ _ _ => ()
  | .dismissNotification _ => ()
  | .createIssue _ _ _ => ()
  | .deleteIssue _ => ()
  | .setupListeners => ()
  | .forwardEntrySetups => ()
  | .addUpdateListener => ()

/-- Answers that may differ from one action to the next. -/
def Replies.nth (replies : ℕ → Replies) (n : ℕ) (o : Action) : o.Res × ℕ :=
  ((replies n).answer o, n + 1)

/-! ### Classes of actions -/

/-- Requests to the Rule List endpoints. -/
def Action.isRuleList : Action → Bool
  | getListItems _ _ => true
  | replaceListItems _ _ _ => true
  | getBulkOperation _ _ => true
  | getRuleLists _ => true
  | _ => false

/-- The zone a DNS record request is about. -/
def Action.dnsZone : Action → Option String
  | getDnsRecords zoneId _ _ => some zoneId
  | createDnsRecord zoneId _ => some zoneId
  | updateDnsRecord zoneId _ _ => some zoneId
  | _ => none

/-- The Rule List requests of a run, with their outcomes. -/
def ruleListCalls (t : List Ev) : List Ev := t.filter fun e => e.1.isRuleList

@[simp] theorem ruleListCalls_nil : ruleListCalls [] = [] := rfl

@[simp] theorem ruleListCalls_append (t₁ t₂ : List Ev) :
    ruleListCalls (t₁ ++ t₂) = ruleListCalls t₁ ++ ruleListCalls t₂ := by
  simp [ruleListCalls]

theorem ruleListCalls_cons_of_neg {e : Ev} {t : List Ev} (h : e.1.isRuleList = false) :
    ruleListCalls (e :: t) = ruleListCalls t := by
  simp [ruleListCalls, h]

theorem ruleListCalls_eq_nil {t : List Ev} (h : ∀ e ∈ t, e.1.isRuleList = false) :
    ruleListCalls t = [] := by
  rw [ruleListCalls, List.filter_eq_nil_iff]
  intro e he
  simp [h e he]

end CloudflareIpSync
