/-
CloudflareIpSync/DnsNotice.lean

The DNS-failure notification over the life of a config entry.

The life of an entry is refreshes and reloads (`LifeStep`).  A reload follows a
change of the options: it builds a new coordinator, which starts without
`_last_synced` but has the notification ids of the old one.

Only a refresh that attempts the DNS half touches the notification.  So it is
shown exactly while the latest attempt failed (`notice_of_life`), and a refresh
that makes no attempt, for want of a configured record or of a source IP,
reports no DNS error beside it.  `dns_notice_agrees_iff` says that this is the
only way for the two to disagree.
-/
import CloudflareIpSync.Snapshot

namespace CloudflareIpSync

open Interact Ipaddress

variable {c : Coordinator} {t : List Ev} {hass hass' : Hass}

/-! ### The life of an entry -/

/-- What happens to a loaded entry. -/
inductive LifeEvent
  | refreshed (round : HassRound)
  | reloaded (entry : ConfigEntry)

/-- The entry's coordinator and what Home Assistant shows. -/
abbrev LifeState := Coordinator × Hass

/-- One refresh, or a reload with other data and options of the same entry. -/
inductive LifeStep : LifeState → LifeEvent → LifeState → Prop
  | refreshed {c : Coordinator} {hass hass' : Hass} {round : HassRound} :
      Prog.RoundStep hassStep (asyncUpdateData c) hass round hass' →
      LifeStep (c, hass) (.refreshed round) (c, hass')
  | reloaded {c : Coordinator} {hass : Hass} {entry : ConfigEntry} : entry.entryId = c.entryId →
      LifeStep (c, hass) (.reloaded entry)
        (.ofEntry entry, { hass with lastSynced := none })

/-- The DNS-failure notification is shown. -/
def LifeState.noticed (life : LifeState) : Bool :=
  (life.2.notifications life.1.dnsNotificationId).isSome

/-- A refresh makes no attempt at the DNS record: it is not configured, or the
source has no usable IP. -/
def dnsSkipped (c : Coordinator) (t : List Ev) : Bool := !c.dnsEnabled || (sourceIp t).isNone

/-! ### What a refresh does to the notification -/

/-- The Rule List half does not touch it. -/
theorem dnsNotice_of_listHalf {out : Except UpdateError ListOutcome}
    (h : (asyncUpdateList c).Traces t out) (hpath : Path hassStep hass t hass') :
    hass'.notifications c.dnsNotificationId = hass.notifications c.dnsNotificationId := by
  apply hass_frame (fun s => s.notifications c.dnsNotificationId) hpath
  intro e he s
  have hlist := (emits_asyncUpdateList c).traces h e he
  have hsilent := not_notifies_of_inListHalf hlist (notificationId_ne c).symm
  exact notifications_of_not_notifies hsilent s

/-- The DNS half shows it if it fails, dismisses it if it succeeds, and leaves
it alone if it is not attempted. -/
theorem DnsRun.notice {localIp : Option String} {dns : Option String × Option Bool × Option String}
    (h : DnsRun c localIp t dns) (hpath : Path hassStep hass t hass') :
    ((hass'.notifications c.dnsNotificationId).isSome ↔
      dns.2.1 = some false ∨
        (dns.2.1 = none ∧ (hass.notifications c.dnsNotificationId).isSome)) := by
  cases h with
  | off =>
      rw [path_nil_iff.mp hpath]
      simp
  | synced =>
      obtain ⟨s, -, -, rfl⟩ := path_snoc_iff.mp hpath
      simp [Hass.after]
  | failed =>
      obtain ⟨s, -, -, rfl⟩ := path_snoc_iff.mp hpath
      simp [Hass.after]

/-- What a refresh does to the notification. -/
inductive NoticeRun (c : Coordinator) (t : List Ev) (hass hass' : Hass) :
    Except UpdateError SyncState → Prop
  | raised {err} :
      hass'.notifications c.dnsNotificationId = hass.notifications c.dnsNotificationId →
      NoticeRun c t hass hass' (.error err)
  | returned {s} : ((hass'.notifications c.dnsNotificationId).isSome ↔
        s.dnsInSync = some false ∨
          (s.dnsInSync = none ∧ (hass.notifications c.dnsNotificationId).isSome)) →
      (s.dnsInSync = some false ↔ s.dnsLastError.isSome) →
      (s.dnsInSync = none ↔ dnsSkipped c t = true) → NoticeRun c t hass hass' (.ok s)

/-- **One refresh.** -/
theorem RefreshRun.noticeRun {out : Except UpdateError SyncState} (h : RefreshRun c t out)
    (hpath : Path hassStep hass t hass') : NoticeRun c t hass hass' out := by
  cases h with
  | raised hlist => exact .raised (dnsNotice_of_listHalf hlist hpath)
  | @returned tl td list dns lastSynced hlist hdns =>
      obtain ⟨s₂, hpath, -, hlast⟩ := path_snoc_iff.mp hpath
      obtain ⟨s₁, hl, hd⟩ := path_append_iff.mp hpath
      have hbefore := dnsNotice_of_listHalf hlist hl
      have hdnsRun := dnsRun_of_traces hdns
      have hnotice := hdnsRun.notice hd
      have houtcome := hdnsRun.outcome
      have hsource := sourceIp_refresh hlist td lastSynced
      refine .returned ?_ houtcome.false_iff ?_
      · rw [hbefore] at hnotice
        rw [hlast]
        exact hnotice
      · rw [dnsSkipped, hsource, Bool.or_eq_true, Bool.not_eq_true', Option.isNone_iff_eq_none]
        exact houtcome.none_iff

/-! ### Whole lives -/

section Life

variable {life₀ life : LifeState} {events : List LifeEvent}

/-- What a refresh found out about the DNS record. -/
def LifeEvent.dnsOutcome : LifeEvent → Option Bool
  | .refreshed round =>
      match round.result with
      | .ok s => s.dnsInSync
      | .error _ => none
  | .reloaded _ => none

/-- The outcome of the latest attempt at the DNS record. -/
def latestDns (events : List LifeEvent) : Option Bool := (events.filterMap (·.dnsOutcome)).getLast?

theorem latestDns_snoc {before : List LifeEvent} {event : LifeEvent} :
    latestDns (before ++ [event]) = event.dnsOutcome.or (latestDns before) := by
  unfold latestDns
  rw [List.filterMap_append, List.getLast?_append]
  rcases e : event.dnsOutcome with - | outcome
  · simp [e]
  · simp [e]

/-- A reload keeps what is shown: the ids are those of the entry. -/
theorem noticed_ofEntry {entry : ConfigEntry} (hentry : entry.entryId = c.entryId) :
    LifeState.noticed (.ofEntry entry, { hass with lastSynced := none }) =
      LifeState.noticed (c, hass) := by
  have hid : (Coordinator.ofEntry entry).dnsNotificationId = c.dnsNotificationId := by
    show domain ++ "_" ++ entry.entryId ++ _ = domain ++ "_" ++ c.entryId ++ _
    rw [hentry]
  show (hass.notifications _).isSome = _
  rw [hid]
  rfl

/-- **The notification and the attempts.**  In a life that starts without it, the
notification is shown exactly while the latest attempt failed. -/
theorem notice_of_life (hlife : Path LifeStep life₀ events life) (hstart : life₀.noticed = false) :
    life.noticed = true ↔ latestDns events = some false := by
  apply hlife.history (I := fun events life => life.noticed = true ↔ latestDns events = some false)
  · rw [hstart]
    simp [latestDns]
  intro before life event life' ih hstep
  rw [latestDns_snoc]
  cases hstep with
  | reloaded hentry =>
      rw [noticed_ofEntry hentry]
      exact ih
  | @refreshed c hass hass' round hround =>
      obtain ⟨htraces, hpath, -⟩ := hround
      generalize hout : round.result = out at htraces
      cases (refreshRun_of_traces htraces).noticeRun hpath with
      | raised hsame =>
          have houtcome : (LifeEvent.refreshed round).dnsOutcome = none := by
            simp [LifeEvent.dnsOutcome, hout]
          rw [houtcome, LifeState.noticed, hsame]
          exact ih
      | @returned s hnotice _ _ =>
          have houtcome : (LifeEvent.refreshed round).dnsOutcome = s.dnsInSync := by
            simp [LifeEvent.dnsOutcome, hout]
          rw [houtcome, LifeState.noticed, hnotice]
          have hbefore : (hass.notifications c.dnsNotificationId).isSome ↔
              latestDns before = some false := ih
          rcases s.dnsInSync with - | ok
          · simpa using hbefore
          · simp

/-- After every refresh of the life that returns, the notification is shown
exactly if the refresh reports a DNS error. -/
def NoticeAgrees (life₀ : LifeState) (events : List LifeEvent) : Prop :=
  ∀ before round rest life life' s, events = before ++ .refreshed round :: rest →
    Path LifeStep life₀ before life → LifeStep life (.refreshed round) life' →
    round.result = .ok s → (life'.noticed = true ↔ s.dnsLastError.isSome)

/-- No refresh of the life that returns without an attempt at the DNS record
began while the notification was shown. -/
def AttemptsWhileNoticed (life₀ : LifeState) (events : List LifeEvent) : Prop :=
  ∀ before round rest life life' s, events = before ++ .refreshed round :: rest →
    Path LifeStep life₀ before life → LifeStep life (.refreshed round) life' →
    round.result = .ok s → life.noticed = true → dnsSkipped life.1 round.trace = false

/-- At one refresh that returns. -/
theorem noticed_iff_of_step {life life' : LifeState} {round : HassRound} {s : SyncState}
    (hstep : LifeStep life (.refreshed round) life') (hresult : round.result = .ok s) :
    (life'.noticed = true ↔ s.dnsLastError.isSome) ↔
      (life.noticed = true → dnsSkipped life.1 round.trace = false) := by
  cases hstep with
  | @refreshed c hass hass' _ hround =>
      obtain ⟨htraces, hpath, -⟩ := hround
      rw [hresult] at htraces
      cases (refreshRun_of_traces htraces).noticeRun hpath with
      | returned hnotice herror hskipped =>
          rw [LifeState.noticed, hnotice, ← herror]
          show _ ↔ (LifeState.noticed (c, hass) = true → dnsSkipped c round.trace = false)
          rw [← Bool.not_eq_true, ← hskipped]
          show (_ ∨ _ ∧ LifeState.noticed (c, hass) = true ↔ _) ↔ _
          -- without an attempt no error is reported, so the notification has to be off
          rcases s.dnsInSync with - | ok
          · simp
          · simp

/-- **When the notification agrees with the reported state.**  In every life of
an entry, from any state: after each refresh that returns the notification is
shown exactly if the refresh reports a DNS error, if and only if no refresh that
returns without an attempt at the DNS record began while the notification was
shown.  In a life that starts without the notification, it is shown exactly
while the latest attempt failed. -/
theorem dns_notice_agrees_iff (hlife : Path LifeStep life₀ events life) :
    (NoticeAgrees life₀ events ↔ AttemptsWhileNoticed life₀ events) ∧
      (life₀.noticed = false → (life.noticed = true ↔ latestDns events = some false)) := by
  refine ⟨?_, notice_of_life hlife⟩
  constructor
  · intro hagrees before round rest mid mid' s hsplit hbefore hstep hresult
    apply (noticed_iff_of_step hstep hresult).mp
    exact hagrees before round rest mid mid' s hsplit hbefore hstep hresult
  · intro hattempts before round rest mid mid' s hsplit hbefore hstep hresult
    apply (noticed_iff_of_step hstep hresult).mpr
    exact hattempts before round rest mid mid' s hsplit hbefore hstep hresult

end Life

/-- Answers of a matching list and a zone that refuses everything. -/
def refusedReplies (source : Option String) : Replies where
  source := source
  listItems := .ok [⟨"203.0.113.7", none, none⟩]
  replace := .ok "op"
  bulkOperation := (0, .ok ⟨"op", "completed", none⟩)
  ruleLists := .ok []
  dnsRecords := .error (.auth "Forbidden")
  dnsRecord := .error (.auth "Forbidden")
  now := (9 : ℕ)
  lastSynced := none

/-- The DNS record cannot be written, and then the source becomes unavailable:
the refresh reports no DNS error, and the notification of the failure stays. -/
theorem notice_stays_without_source :
    let c : Coordinator :=
      ⟨"e", "home", "acc", "list", "sensor.ip", 5, some "vpn.example.org", some "zone"⟩
    let life₀ : LifeState := (c, ⟨fun _ => none, fun _ => none, none⟩)
    ∃ events life, Path LifeStep life₀ events life ∧ ¬ NoticeAgrees life₀ events := by
  intro c life₀
  let round₁ := (asyncUpdateData c).exec (Hass.serve (refusedReplies (some "203.0.113.7"))) life₀.2
  let round₂ :=
    (asyncUpdateData c).exec (Hass.serve (refusedReplies (some "unavailable"))) round₁.after
  have hstep₁ : LifeStep life₀ (.refreshed round₁) (c, round₁.after) :=
    .refreshed (Prog.exec_round (hassStep_serve _) _ _)
  have hstep₂ : LifeStep (c, round₁.after) (.refreshed round₂) (c, round₂.after) :=
    .refreshed (Prog.exec_round (hassStep_serve _) _ _)
  refine ⟨[.refreshed round₁, .refreshed round₂], (c, round₂.after),
    .cons hstep₁ (.single hstep₂), ?_⟩
  intro hagrees
  have hresult : round₂.result = .ok ⟨none, ["203.0.113.7"], false, some (9 : ℕ), none,
      some "vpn.example.org", none, none, none⟩ := by decide +kernel
  have hiff := hagrees [.refreshed round₁] round₂ [] _ _ _ rfl (.single hstep₁) hstep₂ hresult
  revert hiff
  decide +kernel

/-- The DNS record cannot be written, the entry is reloaded, and the record is
written: the notification is gone with the error. -/
theorem dns_notice_agrees_reloaded :
    let entry : ConfigEntry :=
      ⟨"e", "home", "acc", "list", "sensor.ip", none, some "vpn.example.org", some "zone"⟩
    let c := Coordinator.ofEntry entry
    let life₀ : LifeState := (c, ⟨fun _ => none, fun _ => none, none⟩)
    let round₁ :=
      (asyncUpdateData c).exec (Hass.serve (refusedReplies (some "203.0.113.7"))) life₀.2
    let hass₁ : Hass := { round₁.after with lastSynced := none }
    let round₂ := (asyncUpdateData c).exec (Hass.serve { refusedReplies (some "203.0.113.7") with
      dnsRecords := .ok [⟨"r", "vpn.example.org", "A", "203.0.113.7", false, 60, none⟩] }) hass₁
    let events : List LifeEvent := [.refreshed round₁, .reloaded entry, .refreshed round₂]
    (NoticeAgrees life₀ events ↔ AttemptsWhileNoticed life₀ events) ∧
      (life₀.noticed = false →
        (LifeState.noticed (c, round₂.after) = true ↔ latestDns events = some false)) := by
  intro entry c life₀ round₁ hass₁ round₂ events
  have hstep₁ : LifeStep life₀ (.refreshed round₁) (c, round₁.after) :=
    .refreshed (Prog.exec_round (hassStep_serve _) _ _)
  have hstep₂ : LifeStep (c, round₁.after) (.reloaded entry) (c, hass₁) := .reloaded rfl
  have hstep₃ : LifeStep (c, hass₁) (.refreshed round₂) (c, round₂.after) :=
    .refreshed (Prog.exec_round (hassStep_serve _) _ _)
  exact dns_notice_agrees_iff (.cons hstep₁ (.cons hstep₂ (.single hstep₃)))

end CloudflareIpSync
