/-
CloudflareIpSync/Hass.lean

The part of the environment that answers deterministically: what Home Assistant
shows the user, and the coordinator's `_last_synced`.

* `persistent_notification`: a map from notification ids; creating one replaces
  what was shown under its id, dismissing one that is not shown does nothing.
* the issue registry, in the same way.
* `_last_synced`: reading it gives the last value that was stored.

A run of the integration is a `Path hassStep`; the client's outcomes, the
source entity and the clock stay arbitrary.
-/
import CloudflareIpSync.Refresh
import Mathlib.Logic.Function.Basic

namespace CloudflareIpSync

open Interact

/-- What Home Assistant shows for the entry, and the coordinator's
`_last_synced`. -/
structure Hass where
  /-- Title and message of each notification shown. -/
  notifications : String → Option (String × String)
  /-- Translation key and list name of each issue shown. -/
  issues : String → Option (String × String)
  lastSynced : Option Datetime

/-- The state after an action. -/
def Hass.after (hass : Hass) : Ev → Hass
  | ⟨.createNotification id title message, _⟩ =>
      { hass with notifications := Function.update hass.notifications id (some (title, message)) }
  | ⟨.dismissNotification id, _⟩ =>
      { hass with notifications := Function.update hass.notifications id none }
  | ⟨.createIssue id key name, _⟩ =>
      { hass with issues := Function.update hass.issues id (some (key, name)) }
  | ⟨.deleteIssue id, _⟩ => { hass with issues := Function.update hass.issues id none }
  | ⟨.stampLastSynced, now⟩ => { hass with lastSynced := some now }
  | _ => hass

/-- The one answer that this state decides. -/
def Hass.Answers (hass : Hass) : Ev → Prop
  | ⟨.getLastSynced, answer⟩ => answer = hass.lastSynced
  | _ => True

/-- One action against this state. -/
def hassStep (hass : Hass) (e : Ev) (hass' : Hass) : Prop :=
  hass.Answers e ∧ hass' = hass.after e

/-- This state together with a client, a source and a clock that always give
the same answers. -/
def Hass.serve (replies : Replies) (hass : Hass) (o : Action) : o.Res × Hass :=
  let answer := { replies with lastSynced := hass.lastSynced }.answer o
  (answer, hass.after ⟨o, answer⟩)

theorem hassStep_serve (replies : Replies) (hass : Hass) (o : Action) :
    hassStep hass ⟨o, (hass.serve replies o).1⟩ (hass.serve replies o).2 := by
  refine ⟨?_, rfl⟩
  cases o <;> first | rfl | trivial

/-- A refresh against this state. -/
abbrev HassRound := Prog.Round Action.Res Hass (Except UpdateError SyncState)

/-- The refreshes against the given replies, one after the other. -/
def refreshes (c : Coordinator) : Hass → List Replies →
    List (Prog.Round Action.Res Hass (Except UpdateError SyncState))
  | _, [] => []
  | hass, replies :: rest =>
      let round := (asyncUpdateData c).exec (Hass.serve replies) hass
      round :: refreshes c round.after rest

theorem session_refreshes (c : Coordinator) (hass : Hass) (replies : List Replies) :
    ∃ hass', Prog.Session hassStep (asyncUpdateData c) hass (refreshes c hass replies) hass' := by
  induction replies generalizing hass with
  | nil => exact ⟨hass, .nil hass⟩
  | cons first rest ih =>
      obtain ⟨hass', hrest⟩ := ih ((asyncUpdateData c).exec (Hass.serve first) hass).after
      exact ⟨hass', .cons (Prog.exec_round (hassStep_serve first) _ _) hrest⟩

variable {hass hass' hass'' : Hass} {t : List Ev}

/-- **Frame.** What no event of a run touches is as it was. -/
theorem hass_frame {β : Type*} (f : Hass → β) (h : Path hassStep hass t hass')
    (keep : ∀ e ∈ t, ∀ s : Hass, f (s.after e) = f s) : f hass' = f hass := by
  refine h.preserves (I := fun s => f s = f hass) rfl ?_
  rintro s e s' he hs ⟨-, rfl⟩
  exact (keep e he s).trans hs

/-- A run that ends in a stamp leaves the stamp's time. -/
theorem hass_stamp {now : Datetime} (h : Path hassStep hass (t ++ [stampEv now]) hass') :
    hass'.lastSynced = some now := by
  obtain ⟨s, -, -, rfl⟩ := path_snoc_iff.mp h
  rfl

/-! ### What the halves of a refresh leave alone -/

/-- The DNS half touches the DNS notification only. -/
theorem lastSynced_of_inDnsHalf {c : Coordinator} {e : Ev} (he : e.1.InDnsHalf c) (s : Hass) :
    (s.after e).lastSynced = s.lastSynced := by
  obtain ⟨action, answer⟩ := e
  cases action <;> first | rfl | exact he.elim

theorem issues_of_inDnsHalf {c : Coordinator} {e : Ev} (he : e.1.InDnsHalf c) (s : Hass) :
    (s.after e).issues = s.issues := by
  obtain ⟨action, answer⟩ := e
  cases action <;> first | rfl | exact he.elim

/-- Creating or dismissing the notification of an id. -/
def Action.notifies (id : String) : Action → Bool
  | createNotification id' _ _ => id' == id
  | dismissNotification id' => id' == id
  | _ => false

theorem notifications_of_not_notifies {id : String} {e : Ev} (he : e.1.notifies id = false)
    (s : Hass) : (s.after e).notifications id = s.notifications id := by
  obtain ⟨action, answer⟩ := e
  have update : ∀ {id' value}, (id' == id) = false →
      Function.update s.notifications id' value id = s.notifications id := by
    intro id' value hid
    exact Function.update_of_ne (Ne.symm (beq_eq_false_iff_ne.mp hid)) _ _
  cases action with
  | createNotification id' title message => exact update he
  | dismissNotification id' => exact update he
  | statesGet | getListItems | replaceListItems | getBulkOperation | getRuleLists | getDnsRecords
  | createDnsRecord | updateDnsRecord | sleep | stampLastSynced | getLastSynced | createIssue
  | deleteIssue | setupListeners | forwardEntrySetups | addUpdateListener => rfl

theorem not_notifies_of_inDnsHalf {c : Coordinator} {o : Action} (ho : o.InDnsHalf c) {id : String}
    (hid : id ≠ c.dnsNotificationId) : o.notifies id = false := by
  cases o with
  | createNotification | dismissNotification =>
      obtain rfl := show _ = c.dnsNotificationId from ho
      exact beq_eq_false_iff_ne.mpr hid.symm
  | _ => rfl

theorem not_notifies_of_inListHalf {c : Coordinator} {o : Action} (ho : o.InListHalf c) {id : String}
    (hid : id ≠ c.notificationId) : o.notifies id = false := by
  cases o with
  | createNotification | dismissNotification =>
      obtain rfl := show _ = c.notificationId from ho
      exact beq_eq_false_iff_ne.mpr hid.symm
  | _ => rfl

theorem notifications_of_inDnsHalf {c : Coordinator} {e : Ev} (he : e.1.InDnsHalf c) (s : Hass)
    {id : String} (hid : id ≠ c.dnsNotificationId) :
    (s.after e).notifications id = s.notifications id :=
  notifications_of_not_notifies (not_notifies_of_inDnsHalf he hid) s

/-- The two notifications of an entry are different ones. -/
theorem notificationId_ne (c : Coordinator) : c.notificationId ≠ c.dnsNotificationId := by
  intro h
  have hlen := congrArg String.length h
  simp only [Coordinator.notificationId, Coordinator.dnsNotificationId, String.length_append] at hlen
  have h₁ : "_sync_failed".length = 12 := by decide
  have h₂ : "_dns_sync_failed".length = 16 := by decide
  omega

end CloudflareIpSync
