/-
CloudflareIpSync/ListReads.lean

The list reads of a refresh, and which of them is published.

A refresh reads the Rule List once at its start and once at the end of every
attempt to write it.  Every read but the last one of a successful write shows a
list that does not match (`ListRun.reads_ok`).  A refresh that gives up
publishes what it read at its start, not what it read last, so `cloudflare_ips`
are those of the last read in all other cases only (`published_last_read_iff`).
-/
import CloudflareIpSync.Hass

namespace CloudflareIpSync

open Interact Ipaddress

variable {c : Coordinator} {localIp : String} {t u : List Ev}

/-! ### Reads -/

/-- The IPs a list read returned. -/
def readIps : Ev → Option (List String)
  | ⟨.getListItems _ _, .ok items⟩ => some (items.map (·.ip))
  | _ => none

/-- The IPs of each list read that succeeded, in order. -/
def reads (t : List Ev) : List (List String) := t.filterMap readIps

@[simp] theorem reads_append : reads (t ++ u) = reads t ++ reads u := List.filterMap_append

theorem reads_cons {e : Ev} : reads (e :: t) = (readIps e).toList ++ reads t := by
  unfold reads
  rw [List.filterMap_cons]
  rcases readIps e with - | ips
  · rfl
  · rfl

@[simp] theorem reads_readEv {items : List CloudflareListItem} :
    reads (readEv c (.ok items) :: t) = items.map (·.ip) :: reads t := by
  rw [reads_cons]
  rfl

/-- The start of a refresh that read the list: one read so far. -/
theorem reads_listHalf {state : Option String} {items : List CloudflareListItem} :
    reads (sourceEv c state :: readEv c (.ok items) :: issueEv c false :: t) =
      items.map (·.ip) :: reads t := by
  rw [reads_cons, reads_readEv, reads_cons]
  rfl

theorem reads_eq_nil (h : ∀ e ∈ t, readIps e = none) : reads t = [] :=
  List.filterMap_eq_nil_iff.mpr h

theorem readIps_of_inDnsHalf {e : Ev} (he : e.1.InDnsHalf c) : readIps e = none := by
  obtain ⟨action, answer⟩ := e
  cases action <;> first | rfl | exact he.elim

/-! ### Reads of an attempt and of the attempts -/

theorem PollRun.reads {operationId : String} {elapsed : ℚ≥0} {out : Except SyncError Unit}
    (h : PollRun c operationId elapsed t out) : reads t = [] := by
  induction h with
  | late | raised | completed | failed | asleep => rfl
  | again _ _ _ _ _ ih =>
      rw [reads_cons, reads_cons, ih]
      rfl

/-- An attempt that fails has read no list that matches. -/
theorem ReplaceRun.reads_error {err : SyncError} (h : ReplaceRun c localIp t (.error err)) :
    ∀ ips ∈ reads t, isInSync (some localIp) ips = false := by
  generalize hout : (Except.error err : Except SyncError (List String)) = out at h
  cases h with
  | verified => cases hout
  | replaceRaised err =>
      intro ips hips
      cases hips
  | waitRaised hpoll =>
      intro ips hips
      rw [reads_cons, hpoll.reads] at hips
      cases hips
  | readRaised hpoll =>
      intro ips hips
      rw [reads_append, reads_cons, hpoll.reads] at hips
      cases hips
  | mismatch hpoll hsync =>
      intro ips hips
      rw [reads_append, reads_cons, hpoll.reads, reads_readEv] at hips
      rw [List.mem_singleton.mp hips]
      exact hsync

/-- An attempt that succeeds has read the list once, and it matches. -/
theorem ReplaceRun.reads_ok {ips : List String} (h : ReplaceRun c localIp t (.ok ips)) :
    reads t = [ips] ∧ isInSync (some localIp) ips = true := by
  generalize hout : (Except.ok ips : Except SyncError (List String)) = out at h
  cases h with
  | replaceRaised | waitRaised | readRaised | mismatch => cases hout
  | verified hpoll hsync =>
      cases hout
      refine ⟨?_, hsync⟩
      rw [reads_append, reads_cons, hpoll.reads, reads_readEv]
      rfl

section Attempts

variable {maxRetries : ℤ} {attempts : List ℤ} {delay : ℕ} {lastErr : Option SyncError}

/-- Attempts without success have read no list that matches. -/
theorem RetryRun.reads_error {err : SyncError}
    (h : RetryRun maxRetries (asyncReplaceAndVerify c localIp) attempts delay lastErr t
      (.error err)) :
    ∀ ips ∈ reads t, isInSync (some localIp) ips = false := by
  generalize hout : (Except.error err : Except SyncError (List String)) = out at h
  induction h with
  | exhausted =>
      intro ips hips
      cases hips
  | success => cases hout
  | auth hbody => exact (replaceRun_of_traces hbody).reads_error
  | again hbody _ _ _ ih =>
      intro ips hips
      rw [reads_append, List.mem_append, reads_cons] at hips
      rcases hips with hips | hips
      · exact (replaceRun_of_traces hbody).reads_error ips hips
      · exact ih hout ips hips
  | last hbody _ _ _ ih =>
      intro ips hips
      rw [reads_append, List.mem_append] at hips
      rcases hips with hips | hips
      · exact (replaceRun_of_traces hbody).reads_error ips hips
      · exact ih hout ips hips

/-- The last read of attempts with success is the one that matches. -/
theorem RetryRun.reads_ok {ips : List String}
    (h : RetryRun maxRetries (asyncReplaceAndVerify c localIp) attempts delay lastErr t (.ok ips)) :
    (reads t).getLast? = some ips ∧ isInSync (some localIp) ips = true := by
  obtain ⟨t₁, t₂, rfl, hlast⟩ := h.ok_last
  obtain ⟨hreads, hsync⟩ := (replaceRun_of_traces hlast).reads_ok
  refine ⟨?_, hsync⟩
  rw [reads_append, hreads, List.getLast?_concat]

end Attempts

/-! ### Reads of a refresh -/

/-- What a Rule List half that did not raise makes of its reads: it ended with
one that matches and publishes that, or none matched and it publishes the first. -/
theorem ListRun.reads_ok {list : ListOutcome} (h : ListRun c t (.ok list)) :
    (list.inSync = true ∧ (reads t).getLast? = some list.cloudflareIps ∧
        isInSync list.localIp list.cloudflareIps = true) ∨
      (list.inSync = false ∧ (reads t).head? = some list.cloudflareIps ∧
        ∀ ips ∈ reads t, isInSync list.localIp ips = false) := by
  generalize hout : (Except.ok list : Except UpdateError ListOutcome) = out at h
  cases h with
  | readAuth | readApi | readOther | writeAuth => cases hout
  | @noSource state items hsource =>
      cases hout
      exact .inr ⟨rfl, rfl, fun ips _ => rfl⟩
  | @matched state items ip now hsource hsync =>
      cases hout
      exact .inl ⟨rfl, rfl, hsync⟩
  | @written state items ip tw ips now hsource hsync hwrite =>
      cases hout
      obtain ⟨hlast, hmatch⟩ := (retryRun_of_traces hwrite).reads_ok
      refine .inl ⟨rfl, ?_, hmatch⟩
      have hends : reads [clearEv c, stampEv now] = [] := rfl
      rw [reads_append, reads_listHalf, hends, List.append_nil, List.getLast?_cons, hlast]
      rfl
  | @gaveUp state items ip tw message hsource hsync hwrite =>
      cases hout
      have hends : reads [syncFailureEv c message] = [] := rfl
      rw [reads_append, reads_listHalf, hends, List.append_nil]
      refine .inr ⟨rfl, rfl, ?_⟩
      intro ips hips
      rcases List.mem_cons.mp hips with rfl | hmem
      · exact hsync
      · exact (retryRun_of_traces hwrite).reads_error ips hmem

/-- A Rule List half that raises has read no list that matches the source. -/
theorem ListRun.reads_error {err : UpdateError} (h : ListRun c t (.error err)) :
    ∀ ips ∈ reads t, isInSync (sourceIp t) ips = false := by
  generalize hout : (Except.error err : Except UpdateError ListOutcome) = out at h
  cases h with
  | noSource | matched | written | gaveUp => cases hout
  | readAuth | readOther =>
      intro ips hips
      cases hips
  | readApi state message code answer =>
      have hnone : reads [sourceEv c state, readEv c (.error (.api message code)),
          ruleListsEv c answer, issueEv c (ruleListMissing c answer)] = [] := by
        rcases ruleListMissing c answer with - | - <;> rfl
      rw [hnone]
      intro ips hips
      cases hips
  | @writeAuth state items ip tw message hsource hsync hwrite =>
      have hip : sourceIp (sourceEv c state :: readEv c (.ok items) :: issueEv c false :: tw) =
          some ip := hsource
      rw [hip, reads_listHalf]
      intro ips hips
      rcases List.mem_cons.mp hips with rfl | hmem
      · exact hsync
      · exact (retryRun_of_traces hwrite).reads_error ips hmem

/-- The DNS half of a refresh reads no list. -/
theorem reads_dnsHalf {ip : Option String} {td : List Ev}
    {dns : Option String × Option Bool × Option String} {lastSynced : Option Datetime}
    (h : (asyncReconcileDns c ip).Traces td dns) :
    reads (t ++ td ++ [⟨Action.getLastSynced, lastSynced⟩]) = reads t := by
  have hdns : reads td = [] := by
    apply reads_eq_nil
    intro e he
    exact readIps_of_inDnsHalf ((emits_asyncReconcileDns c ip).traces h e he)
  rw [reads_append, reads_append, hdns, List.append_nil]
  exact List.append_nil _

/-- **Which read is published.**  A refresh that returns publishes the IPs of
its last list read exactly if that read matched the source IP or showed the same
IPs as the first.  (If it did neither, the refresh gave up.) -/
theorem published_last_read_iff {s : SyncState} (h : (asyncUpdateData c).Traces t (.ok s)) :
    (reads t).getLast? = some s.cloudflareIps ↔
      ∃ ips, (reads t).getLast? = some ips ∧
        (isInSync (sourceIp t) ips = true ∨ (reads t).head? = some ips) := by
  obtain ⟨tl, td, list, dns, lastSynced, hlist, hdns, rfl, rfl⟩ := refresh_returned h
  rw [reads_dnsHalf hdns, sourceIp_refresh hlist td lastSynced]
  show (reads tl).getLast? = some list.cloudflareIps ↔ _
  rcases (listRun_of_traces hlist).reads_ok with ⟨-, hlast, hmatch⟩ | ⟨-, hfirst, hnone⟩
  · exact iff_of_true hlast ⟨_, hlast, .inl hmatch⟩
  · constructor
    · intro hlast
      exact ⟨_, hlast, .inr hfirst⟩
    · rintro ⟨ips, hlast, hmatch | hhead⟩
      · rw [hnone ips (List.mem_of_getLast? hlast)] at hmatch
        cases hmatch
      · rw [hlast, ← hhead, hfirst]

/-- Answers of a list that shows one content before the write and another one,
which does not match either, afterwards. -/
def changedListReplies (n : ℕ) : Replies where
  source := some "203.0.113.7"
  listItems := .ok [⟨if n < 3 then "198.51.100.1" else "192.0.2.1", none, none⟩]
  replace := .ok "op"
  bulkOperation := (0, .ok ⟨"op", "completed", none⟩)
  ruleLists := .ok []
  dnsRecords := .ok []
  dnsRecord := .error (.connection "timeout")
  now := (9 : ℕ)
  lastSynced := none

/-- The list changed while it was written.  The verifying read shows the new
content, and the refresh publishes the old one. -/
theorem published_stale :
    let c : Coordinator := ⟨"e", "home", "acc", "list", "sensor.ip", 1, none, none⟩
    ∃ t s, (asyncUpdateData c).Traces t (.ok s) ∧ s.cloudflareIps = ["198.51.100.1"] ∧
      (reads t).getLast? = some ["192.0.2.1"] := by
  intro c
  let s : SyncState :=
    { localIp := some "203.0.113.7", cloudflareIps := ["198.51.100.1"], inSync := false,
      lastSynced := none, dnsRecordName := none, dnsRecordIp := none, dnsInSync := none,
      lastError := some ("Failed after 1 attempts: Rule List still did not match the source " ++
        "IP after the update"),
      dnsLastError := none }
  refine ⟨_, s, Prog.traces_of_exec (Replies.nth changedListReplies) 0 rfl ?_, rfl, ?_⟩
  · decide +kernel
  · decide +kernel

/-- A write that is verified: the refresh publishes the verifying read. -/
theorem published_last_read_verified :
    let c : Coordinator := ⟨"e", "home", "acc", "list", "sensor.ip", 1, none, none⟩
    let replies (n : ℕ) : Replies :=
      { changedListReplies n with
        listItems := .ok [⟨if n < 3 then "198.51.100.1" else "203.0.113.7", none, none⟩] }
    let t := ((asyncUpdateData c).exec (Replies.nth replies) 0).trace
    (reads t).getLast? = some ["203.0.113.7"] := by
  intro c replies t
  have htraces : (asyncUpdateData c).Traces t (.ok ⟨some "203.0.113.7", ["203.0.113.7"], true, none,
      none, none, none, none, none⟩) :=
    Prog.traces_of_exec (Replies.nth replies) 0 rfl (by decide +kernel)
  exact (published_last_read_iff htraces).mpr
    ⟨["203.0.113.7"], by decide +kernel, .inl (by decide +kernel)⟩

end CloudflareIpSync
