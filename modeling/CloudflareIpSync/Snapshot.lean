/-
CloudflareIpSync/Snapshot.lean

Truth of what a refresh publishes: how the nine fields of a `SyncState` depend
on each other, for every configuration, source state and client outcomes, and
what the sync-status sensor makes of them.

The list half and the DNS half are treated separately (`ListOutcome.Sound`,
`DnsOutcome`); the snapshot is their assembly.
-/
import CloudflareIpSync.Hass

namespace CloudflareIpSync

open Interact Ipaddress

variable {c : Coordinator}

/-! ### The Rule List half -/

/-- What the Rule List half's own fields say about each other. -/
structure ListOutcome.Sound (list : ListOutcome) : Prop where
  in_sync_eq : list.inSync = isInSync list.localIp list.cloudflareIps
  last_error_iff : list.lastError.isSome ↔ list.localIp.isSome ∧ list.inSync = false

/-- The IPs that end a retried write match the address written. -/
theorem isInSync_of_sync {localIp : String} {t : List Ev} {ips : List String}
    (h : (asyncSyncWithRetry c localIp).Traces t (.ok ips)) :
    isInSync (some localIp) ips = true := by
  obtain ⟨t₁, t₂, -, hlast⟩ := (retryRun_of_traces h).ok_last
  generalize hout : (Except.ok ips : Except SyncError (List String)) = out at hlast
  cases replaceRun_of_traces hlast with
  | replaceRaised | waitRaised | readRaised | mismatch => cases hout
  | verified _ hsync => cases hout; exact hsync

theorem ListRun.sound {t : List Ev} {list : ListOutcome} (h : ListRun c t (.ok list)) :
    list.Sound := by
  generalize hout : (Except.ok list : Except UpdateError ListOutcome) = out at h
  cases h with
  | readAuth | readApi | readOther | writeAuth => cases hout
  | noSource => cases hout; exact ⟨rfl, by simp⟩
  | matched _ _ hsync => cases hout; exact ⟨hsync.symm, by simp⟩
  | written _ _ _ hwrite => cases hout; exact ⟨(isInSync_of_sync hwrite).symm, by simp⟩
  | gaveUp _ hsync => cases hout; exact ⟨hsync.symm, by simp⟩

/-- A list confirmed to match has just been stamped. -/
theorem ListRun.lastSynced_isSome {t : List Ev} {list : ListOutcome} {hass hass' : Hass}
    (h : ListRun c t (.ok list)) (hrun : Path hassStep hass t hass')
    (hsync : list.inSync = true) : hass'.lastSynced.isSome := by
  generalize hout : (Except.ok list : Except UpdateError ListOutcome) = out at h
  cases h with
  | readAuth | readApi | readOther | writeAuth => cases hout
  | noSource | gaveUp => cases hout; exact absurd hsync Bool.false_ne_true
  | @matched state items localIp now =>
      have hstamp := hass_stamp (t := [sourceEv c state, readEv c (.ok items), issueEv c false,
        clearEv c]) hrun
      rw [hstamp]
      rfl
  | @written state items localIp t ips now =>
      have hstamp := hass_stamp (t := sourceEv c state :: readEv c (.ok items) ::
        issueEv c false :: t ++ [clearEv c]) (by simpa using hrun)
      rw [hstamp]
      rfl

/-! ### The DNS half -/

/-- The DNS record is configured exactly when the feature is enabled. -/
theorem dnsTarget_eq_none_iff : c.dnsTarget = none ↔ c.dnsEnabled = false := by
  unfold Coordinator.dnsTarget Coordinator.dnsEnabled
  rcases c.dnsRecordName with - | name
  · simp [truthy]
  rcases c.dnsZoneId with - | zoneId
  · simp [truthy]
  by_cases h : name ≠ "" ∧ zoneId ≠ ""
  · simp [truthy, h]
  · dsimp only
    rw [dif_neg h]
    simp only [truthy, true_iff, Bool.and_eq_false_iff, decide_eq_false_iff_not]
    exact not_and_or.mp h

theorem dnsRecordName_isSome (h : c.dnsEnabled = true) : c.dnsRecordName.isSome := by
  rcases e : c.dnsRecordName with - | name
  · simp [Coordinator.dnsEnabled, e, truthy] at h
  · rfl

/-- The three outcomes of the DNS half: not attempted, in sync, failed. -/
inductive DnsOutcome (c : Coordinator) (localIp : Option String) :
    Option String × Option Bool × Option String → Prop
  | off : c.dnsEnabled = false ∨ localIp = none → DnsOutcome c localIp (none, none, none)
  | synced {ip} : c.dnsEnabled = true → localIp = some ip →
      DnsOutcome c localIp (some ip, some true, none)
  | failed {ip} (error) : c.dnsEnabled = true → localIp = some ip →
      DnsOutcome c localIp (none, some false, some error)

section Outcome

variable {localIp : Option String} {dns : Option String × Option Bool × Option String}

theorem DnsOutcome.none_iff (h : DnsOutcome c localIp dns) :
    dns.2.1 = none ↔ c.dnsEnabled = false ∨ localIp = none := by
  cases h with
  | off hoff => simpa using hoff
  | synced hon hip | failed _ hon hip => simp [hon, hip]

theorem DnsOutcome.true_iff (h : DnsOutcome c localIp dns) :
    dns.2.1 = some true ↔ dns.1.isSome := by
  cases h <;> simp

theorem DnsOutcome.ip_eq (h : DnsOutcome c localIp dns) (hsync : dns.2.1 = some true) :
    dns.1 = localIp := by
  cases h with
  | off | failed => cases hsync
  | synced hon hip => exact hip.symm

theorem DnsOutcome.false_iff (h : DnsOutcome c localIp dns) :
    dns.2.1 = some false ↔ dns.2.2.isSome := by
  cases h <;> simp

/-- With a local IP, DNS is not known to be wrong exactly when it is off or
the record holds that IP. -/
theorem DnsOutcome.ne_false_iff (h : DnsOutcome c localIp dns) (hlocal : localIp ≠ none) :
    dns.2.1 ≠ some false ↔ c.dnsEnabled = false ∨ dns.1 = localIp := by
  cases h with
  | off hoff => simp [hoff.resolve_right hlocal]
  | synced hon hip => simp [hip]
  | failed error hon hip => simp [hon, hip]

end Outcome

/-- The record a retried upsert returns holds the address, un-proxied. -/
theorem content_of_sync {target : DnsTarget} {localIp : String} {t : List Ev}
    {record : CloudflareDnsRecord}
    (h : (asyncSyncDnsWithRetry c target localIp).Traces t (.ok record)) :
    record.content = localIp ∧ record.proxied = false := by
  obtain ⟨t₁, t₂, -, hlast⟩ := (retryRun_of_traces h).ok_last
  exact (upsertRun_of_traces hlast).ok_content

theorem DnsRun.outcome {localIp : Option String} {t : List Ev}
    {dns : Option String × Option Bool × Option String} (h : DnsRun c localIp t dns) :
    DnsOutcome c localIp dns := by
  have enabled : ∀ {target}, c.dnsTarget = some target → c.dnsEnabled = true := by
    intro target htarget
    by_contra hoff
    rw [dnsTarget_eq_none_iff.mpr (by simpa using hoff)] at htarget
    cases htarget
  cases h with
  | off hoff =>
      rw [dnsTarget_eq_none_iff] at hoff
      exact .off hoff
  | synced htarget hsync =>
      rw [(content_of_sync hsync).1]
      exact .synced (enabled htarget) rfl
  | failed htarget => exact .failed _ (enabled htarget) rfl

/-! ### The snapshot -/

/-- What the fields of a published snapshot say about each other, about the
two lists of addresses they were computed from, and about the sensor. -/
structure Truthful (c : Coordinator) (s : SyncState) : Prop where
  in_sync_iff : s.inSync = true ↔ isInSync s.localIp s.cloudflareIps = true
  last_error_iff : s.lastError.isSome ↔ s.localIp.isSome ∧ s.inSync = false
  last_synced : s.inSync = true → s.lastSynced.isSome
  dns_record_name_iff : s.dnsRecordName.isSome ↔ c.dnsEnabled = true
  dns_none_iff : s.dnsInSync = none ↔ c.dnsEnabled = false ∨ s.localIp = none
  dns_true_iff : s.dnsInSync = some true ↔ s.dnsRecordIp.isSome
  dns_record_ip : s.dnsInSync = some true → s.dnsRecordIp = s.localIp
  dns_false_iff : s.dnsInSync = some false ↔ s.dnsLastError.isSome
  native_value_iff : nativeValue (some s) = some .inSync ↔
    isInSync s.localIp s.cloudflareIps = true ∧
      (c.dnsEnabled = false ∨ s.dnsRecordIp = s.localIp)

/-- The sensor's test on a snapshot: in sync, and DNS not known to be wrong. -/
theorem nativeValue_eq_inSync_iff {s : SyncState} :
    nativeValue (some s) = some .inSync ↔ s.inSync = true ∧ s.dnsInSync ≠ some false := by
  unfold nativeValue
  by_cases h : s.inSync = true ∧ s.dnsInSync ≠ some false
  · simp [h]
  · simp only [if_neg h, Option.some.injEq, reduceCtorEq, false_iff]
    exact h

/-- **Assembly.** A snapshot of two sound halves is truthful, as long as a
list in sync has a time. -/
theorem truthful_publish {list : ListOutcome}
    {dns : Option String × Option Bool × Option String} {lastSynced : Option Datetime}
    (hlist : list.Sound) (hdns : DnsOutcome c list.localIp dns)
    (htime : list.inSync = true → lastSynced.isSome) :
    Truthful c (publish c list dns lastSynced) := by
  have hname : (if c.dnsEnabled then c.dnsRecordName else none).isSome ↔ c.dnsEnabled = true := by
    by_cases hon : c.dnsEnabled = true
    · simp only [hon, if_true, iff_true]
      exact dnsRecordName_isSome hon
    · simp [hon]
  have hsync : list.inSync = true ↔ isInSync list.localIp list.cloudflareIps = true := by
    rw [hlist.in_sync_eq]
  refine ⟨hsync, hlist.last_error_iff, htime, hname, hdns.none_iff, hdns.true_iff, hdns.ip_eq,
    hdns.false_iff, ?_⟩
  rw [nativeValue_eq_inSync_iff]
  show list.inSync = true ∧ dns.2.1 ≠ some false ↔ _
  rw [hsync]
  refine and_congr_right fun hmatch => hdns.ne_false_iff ?_
  -- without a local IP the list is never in sync, so DNS that was not
  -- attempted for want of an IP does not make the sensor report a match
  intro hnone
  rw [hnone, isInSync_none] at hmatch
  exact Bool.false_ne_true hmatch

/-- **Truth of the snapshot.** Every snapshot a refresh returns is truthful,
for every configuration, every source state and all outcomes of the client. -/
theorem refresh_truthful {t : List Ev} {s : SyncState} {hass hass' : Hass}
    (hrun : (asyncUpdateData c).Traces t (.ok s)) (hhass : Path hassStep hass t hass') :
    Truthful c s := by
  obtain ⟨tl, td, list, dns, lastSynced, hlist, hdns, rfl, rfl⟩ := refresh_returned hrun
  obtain ⟨hass₂, hhass, hread⟩ := path_snoc_iff.mp hhass
  obtain ⟨hass₁, hl, hd⟩ := path_append_iff.mp hhass
  have hrunList := listRun_of_traces hlist
  have hkept : hass₂.lastSynced = hass₁.lastSynced := by
    apply hass_frame Hass.lastSynced hd
    intro e he
    exact lastSynced_of_inDnsHalf ((emits_asyncReconcileDns c _).traces hdns e he)
  apply truthful_publish hrunList.sound (dnsRun_of_traces hdns).outcome
  intro hsync
  have hanswer : lastSynced = hass₂.lastSynced := hread.1
  rw [hanswer, hkept]
  exact hrunList.lastSynced_isSome hl hsync

/-- A refresh whose list already matches, in another spelling, and whose zone
holds no record yet. -/
theorem refresh_truthful_matched :
    Truthful ⟨"e", "home", "acc", "list", "sensor.ip", 5, some "vpn.example.org", some "zone"⟩
      ⟨some "203.0.113.7", ["203.0.113.7/32"], true, some (7 : ℕ), none, some "vpn.example.org",
        some "203.0.113.7", some true, none⟩ := by
  let replies : Replies :=
    { source := some " 203.0.113.7", listItems := .ok [⟨"203.0.113.7/32", none, none⟩],
      replace := .ok "op", bulkOperation := (0, .ok ⟨"op", "completed", none⟩),
      ruleLists := .ok [], dnsRecords := .ok [],
      dnsRecord := .ok ⟨"r", "vpn.example.org", "A", "203.0.113.7", false, 60, none⟩,
      now := (7 : ℕ), lastSynced := none }
  have hround := Prog.exec_round (hassStep_serve replies)
    (asyncUpdateData
      ⟨"e", "home", "acc", "list", "sensor.ip", 5, some "vpn.example.org", some "zone"⟩)
    ⟨fun _ => none, fun _ => none, none⟩
  refine refresh_truthful ?_ hround.2.1
  convert hround.1 using 1
  decide +kernel

end CloudflareIpSync
