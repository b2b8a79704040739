/-
CloudflareIpSync/DnsDisturbance.lean

Refreshes of a disturbed zone: the DNS half of what `Disturbance` says of the
list.  The zone answers and stores what it is sent, except that any action may
go wrong in any way, at a cost.

An upsert works with what its query returned.  If the query is disturbed, the
write may be one that nobody needed, and the record may still need another one.
So over all refreshes, the zone is written at most once for every change of the
address and twice for every disturbance (`dns_writes_tracked`).
-/
import CloudflareIpSync.Disturbance
import CloudflareIpSync.DnsFixedPoint
import CloudflareIpSync.DnsInSync

namespace CloudflareIpSync

open Interact

variable {c : Coordinator} {target : DnsTarget} {localIp : String} {t : List Ev}

/-! ### A zone that is served as it should be -/

/-- A DNS record request that raises an error. -/
def dnsRaised : Ev → Bool
  | ⟨.getDnsRecords _ _ _, .error _⟩ => true
  | ⟨.createDnsRecord _ _, .error _⟩ => true
  | ⟨.updateDnsRecord _ _ _, .error _⟩ => true
  | _ => false

/-- One action while nothing goes wrong. -/
def calmZoneStep (zoneId : String) (zone : Zone) (e : Ev) (zone' : Zone) : Prop :=
  ZoneStep zoneId zone e zone' ∧ dnsRaised e = false

/-- The zone, and how much may still go wrong with it. -/
abbrev DisturbedZone (zoneId : String) : Zone × ℕ → Ev → Zone × ℕ → Prop :=
  Budgeted (calmZoneStep zoneId)

/-- Whether the record has to be written for the address. -/
def dnsOff (target : DnsTarget) (localIp : String) (s : Zone × ℕ) : ℕ :=
  match s.1.first target localIp with
  | none => 1
  | some record => if NeedsUpdate localIp record then 1 else 0

/-- Whether an address is another one. -/
def changed (localIp localIp' : String) : ℕ := if localIp = localIp' then 0 else 1

variable {s s' : Zone × ℕ} {zone zone' : Zone}

theorem dnsOff_le (target : DnsTarget) (localIp : String) (s : Zone × ℕ) :
    dnsOff target localIp s ≤ 1 := by
  unfold dnsOff
  split
  · exact Nat.le_refl 1
  · split <;> omega

theorem dnsOff_triangle (target : DnsTarget) (localIp localIp' : String) (s : Zone × ℕ) :
    dnsOff target localIp' s ≤ dnsOff target localIp s + changed localIp localIp' := by
  by_cases hsame : localIp = localIp'
  · rw [hsame]
    exact Nat.le_add_right _ _
  · rw [changed, if_neg hsame]
    exact Nat.le_trans (dnsOff_le target localIp' s) (Nat.le_add_left 1 _)

/-- Actions that are none of the zone's leave its record alone. -/
theorem dnsOff_of_quiet (h : Path (DisturbedZone target.zoneId) s t s')
    (ht : ∀ e ∈ t, e.1.dnsZone = none) (localIp : String) :
    2 * s'.2 + dnsOff target localIp s' ≤ 2 * s.2 + dnsOff target localIp s := by
  rcases h.spent_or_regular with hless | ⟨heq, hregular⟩
  · have hle := dnsOff_le target localIp s'
    omega
  · have hzone : s'.1 = s.1 := zone_frame (hregular.mono fun _ _ _ hstep => hstep.1) ht
    rw [heq, dnsOff, dnsOff, hzone]

theorem performed_of_quiet (ht : ∀ e ∈ t, e.1.dnsZone = none) :
    performed Action.writesDnsRecord t = 0 := by
  apply performed_eq_zero
  intro e he
  have hzone := ht e he
  obtain ⟨o, r⟩ := e
  cases o <;> first | rfl | cases hzone

/-! ### Attempts -/

theorem performed_upsert {out : Except SyncError CloudflareDnsRecord}
    (h : UpsertRun target localIp t out) : performed Action.writesDnsRecord t ≤ 1 := by
  cases h with
  | readRaised | kept => exact Nat.zero_le 1
  | createRaised | created | updateRaised | updated => exact Nat.le_refl 1

/-- A record that needs no update passes the last check, and is not off. -/
theorem verifyDnsRecord_of_kept {record : CloudflareDnsRecord} (h : ¬ NeedsUpdate localIp record) :
    verifyDnsRecord localIp record = .ok record := by
  obtain ⟨hcontent, hproxied, -⟩ := not_or.mp h |>.imp_right not_or.mp
  apply if_neg
  exact not_or.mpr ⟨hcontent, hproxied⟩

theorem dnsOff_of_kept {record : CloudflareDnsRecord} (h : ¬ NeedsUpdate localIp record) (left : ℕ)
    (hfirst : zone.first target localIp = some record) :
    dnsOff target localIp (zone, left) = 0 := by
  rw [dnsOff, hfirst]
  exact if_neg h

/-- An upsert without disturbance writes if it has to, and settles the record. -/
theorem upsert_calm {out : Except SyncError CloudflareDnsRecord} {left left' : ℕ}
    (h : UpsertRun target localIp t out) (hpath : Path (calmZoneStep target.zoneId) zone t zone') :
    (∃ record, out = .ok record) ∧
      performed Action.writesDnsRecord t ≤ dnsOff target localIp (zone, left) ∧
      dnsOff target localIp (zone', left') = 0 := by
  have hzone : Path (ZoneStep target.zoneId) zone t zone' := hpath.mono fun _ _ _ hstep => hstep.1
  obtain ⟨-, hfirst⟩ := h.upserts hzone
  -- what the zone was sent needs no update
  have settled : ∀ {record}, ¬ NeedsUpdate localIp record →
      out = verifyDnsRecord localIp record →
      (∃ record, out = .ok record) ∧ dnsOff target localIp (zone', left') = 0 := by
    intro record hkeep hout
    rw [verifyDnsRecord_of_kept hkeep] at hout
    exact ⟨⟨record, hout⟩, dnsOff_of_kept hkeep left' (hfirst record hout)⟩
  cases h with
  | readRaised => cases (path_single_iff.mp hpath).2
  | createRaised | updateRaised =>
      obtain ⟨zone₁, -, hpath⟩ := path_cons_iff.mp hpath
      cases (path_single_iff.mp hpath).2
  | created record =>
      obtain ⟨hnone, hwrite⟩ := zone_of_query hzone
      have hkeep : ¬ NeedsUpdate localIp record := by
        cases path_single_iff.mp hwrite with
        | created => simp [NeedsUpdate, DnsRecordBody.record]
        | other hother => exact absurd rfl hother
      obtain ⟨hok, hdone⟩ := settled hkeep rfl
      refine ⟨hok, ?_, hdone⟩
      rw [dnsOff, Zone.first, hnone]
      exact Nat.le_refl 1
  | @updated record rest record' hneeds =>
      obtain ⟨hquery, hwrite⟩ := zone_of_query hzone
      have hkeep : ¬ NeedsUpdate localIp record' := by
        cases path_single_iff.mp hwrite with
        | updated => simp [NeedsUpdate, DnsRecordPatch.apply]
        | other hother => exact absurd rfl hother
      obtain ⟨hok, hdone⟩ := settled hkeep rfl
      refine ⟨hok, ?_, hdone⟩
      rw [dnsOff, Zone.first, hquery]
      exact (if_pos hneeds).ge
  | kept hkeep =>
      obtain ⟨hok, hdone⟩ := settled hkeep rfl
      exact ⟨hok, Nat.zero_le _, hdone⟩

/-- An upsert is disturbed, or it writes if it has to and settles the record. -/
theorem upsert_cases {out : Except SyncError CloudflareDnsRecord}
    (h : (asyncUpsertDnsRecord target localIp).Traces t out)
    (hpath : Path (DisturbedZone target.zoneId) s t s') :
    s'.2 < s.2 ∨ s'.2 = s.2 ∧ (∃ record, out = .ok record) ∧
      performed Action.writesDnsRecord t ≤ dnsOff target localIp s ∧
      dnsOff target localIp s' = 0 := by
  apply hpath.spent_or_regular.imp_right
  intro ⟨heq, hregular⟩
  exact ⟨heq, upsert_calm (upsertRun_of_traces h) hregular⟩

/-- A retried upsert pays for its writes. -/
theorem syncDns_paid {out : Except SyncError CloudflareDnsRecord}
    (h : (asyncSyncDnsWithRetry c target localIp).Traces t out)
    (hpath : Path (DisturbedZone target.zoneId) s t s') :
    performed Action.writesDnsRecord t + (2 * s'.2 + dnsOff target localIp s') ≤
      2 * s.2 + dnsOff target localIp s := by
  let left (s : Zone × ℕ) : ℕ := 2 * s.2 + dnsOff target localIp s
  have hattempt : ∀ {t out s s'}, (asyncUpsertDnsRecord target localIp).Traces t out →
      Path (DisturbedZone target.zoneId) s t s' →
      performed Action.writesDnsRecord t + left s' ≤ left s := by
    intro t out s s' hbody hpath
    have hle := dnsOff_le target localIp s'
    have hcount := performed_upsert (upsertRun_of_traces hbody)
    show _ + (2 * s'.2 + dnsOff target localIp s') ≤ 2 * s.2 + dnsOff target localIp s
    rcases upsert_cases hbody hpath with hless | ⟨heq, -, hwrites, hoff⟩
    · omega
    · omega
  refine (retryRun_of_traces h).paid left left (fun _ => Nat.le_refl _) (fun _ => rfl) ?_ hattempt
    hattempt hpath
  intro s n s' hstep
  exact dnsOff_of_quiet (.single hstep) (by simp [Action.dnsZone]) localIp

theorem syncDns_spent {err : SyncError} (hpos : 1 ≤ c.maxRetries)
    (h : (asyncSyncDnsWithRetry c target localIp).Traces t (.error err))
    (hpath : Path (DisturbedZone target.zoneId) s t s') : s'.2 < s.2 := by
  refine (retryRun_of_traces h).spent (fun s => s.2) Budgeted.le ?_ (attempts_ne_nil hpos) hpath
  intro t err s s' hbody hpath
  rcases upsert_cases hbody hpath with hless | ⟨-, ⟨record, hok⟩, -⟩
  · exact hless
  · cases hok

/-! ### A refresh -/

/-- The DNS half pays for its writes, and reports a failure only if it was
disturbed. -/
theorem dnsHalf_paid {dns : Option String × Option Bool × Option String}
    (htarget : c.dnsTarget = some target) (h : (asyncReconcileDns c (some localIp)).Traces t dns)
    (hpath : Path (DisturbedZone target.zoneId) s t s') :
    performed Action.writesDnsRecord t + (2 * s'.2 + dnsOff target localIp s') ≤
        2 * s.2 + dnsOff target localIp s ∧
      (1 ≤ c.maxRetries → dns.2.1 = some false → s'.2 < s.2) := by
  -- a retried upsert, and the notification after it
  have hsynced : ∀ {target' tr out e}, c.dnsTarget = some target' →
      (asyncSyncDnsWithRetry c target' localIp).Traces tr out → t = tr ++ [e] →
      e.1.dnsZone = none →
      performed Action.writesDnsRecord t + (2 * s'.2 + dnsOff target localIp s') ≤
          2 * s.2 + dnsOff target localIp s ∧
        ∀ err, out = .error err → 1 ≤ c.maxRetries → s'.2 < s.2 := by
    intro target' tr out e htarget' hretry ht he
    obtain rfl := Option.some.inj (htarget.symm.trans htarget')
    subst ht
    obtain ⟨s₁, hmain, hnotify⟩ := path_append_iff.mp hpath
    have hquiet : ∀ e' ∈ [e], e'.1.dnsZone = none := by
      intro e' he'
      rw [List.mem_singleton.mp he']
      exact he
    have hpaid := syncDns_paid hretry hmain
    have hend := dnsOff_of_quiet hnotify hquiet localIp
    refine ⟨?_, ?_⟩
    · rw [performed_append, performed_of_quiet hquiet]
      omega
    · intro err hout hpos
      rw [hout] at hretry
      exact Nat.lt_of_le_of_lt hnotify.budget_le (syncDns_spent hpos hretry hmain)
  cases dnsRun_of_traces h with
  | off hoff =>
      rcases hoff with hoff | hoff
      · cases hoff.symm.trans htarget
      · cases hoff
  | synced htarget' hretry =>
      exact ⟨(hsynced htarget' hretry rfl rfl).1, by rintro _ ⟨⟩⟩
  | failed htarget' hretry =>
      obtain ⟨hpaid, hspent⟩ := hsynced htarget' hretry rfl rfl
      exact ⟨hpaid, fun hpos _ => hspent _ rfl hpos⟩

variable {out : Except UpdateError SyncState}

/-- A refresh reports the record out of sync. -/
def DnsFailed (out : Except UpdateError SyncState) : Prop :=
  ∃ snapshot, out = .ok snapshot ∧ snapshot.dnsInSync = some false

/-- A refresh is its DNS half, or without an address nothing, as far as the zone
is concerned. -/
theorem refresh_dns (htarget : c.dnsTarget = some target) (h : (asyncUpdateData c).Traces t out)
    (hpath : Path (DisturbedZone target.zoneId) s t s') :
    ((∀ e ∈ t, e.1.dnsZone = none) ∧ ¬ DnsFailed out) ∨
      ∃ localIp, sourceIp t = some localIp ∧
        performed Action.writesDnsRecord t + (2 * s'.2 + dnsOff target localIp s') ≤
          2 * s.2 + dnsOff target localIp s ∧
        (1 ≤ c.maxRetries → DnsFailed out → s'.2 < s.2) := by
  have hlistHalf : ∀ {tl r}, (asyncUpdateList c).Traces tl r → ∀ e ∈ tl, e.1.dnsZone = none :=
    fun hlist e he => dnsZone_of_inListHalf ((emits_asyncUpdateList c).traces hlist e he)
  cases refreshRun_of_traces h with
  | raised hlist => exact .inl ⟨hlistHalf hlist, by rintro ⟨_, ⟨⟩, -⟩⟩
  | @returned tl td list dns lastSynced hlist hdns =>
      have hlast : ∀ e ∈ [(⟨Action.getLastSynced, lastSynced⟩ : Ev)], e.1.dnsZone = none := by
        simp [Action.dnsZone]
      have hsource := sourceIp_refresh hlist td lastSynced
      rcases hip : list.localIp with - | localIp
      · left
        rw [hip] at hdns
        cases dnsRun_of_traces hdns with
        | off =>
            refine ⟨?_, by rintro ⟨_, ⟨⟩, ⟨⟩⟩⟩
            rw [List.append_nil]
            exact List.forall_mem_append.mpr ⟨hlistHalf hlist, hlast⟩
      · rw [hip] at hdns hsource
        refine .inr ⟨localIp, hsource, ?_⟩
        obtain ⟨s₂, hpath, hread⟩ := path_append_iff.mp hpath
        obtain ⟨s₁, htl, htd⟩ := path_append_iff.mp hpath
        obtain ⟨hpaid, hspent⟩ := dnsHalf_paid htarget hdns htd
        have hstart := dnsOff_of_quiet htl (hlistHalf hlist) localIp
        have hend := dnsOff_of_quiet hread hlast localIp
        refine ⟨?_, ?_⟩
        · rw [performed_append, performed_append, performed_of_quiet (hlistHalf hlist),
            performed_of_quiet hlast]
          omega
        · intro hpos hfailed
          obtain ⟨snapshot, hout, hsync⟩ := hfailed
          cases hout
          exact Nat.lt_of_le_of_lt hread.budget_le
            (Nat.lt_of_lt_of_le (hspent hpos hsync) htl.budget_le)

/-! ### All refreshes -/

section Rounds

variable {σ : Type}

/-- How often a refresh writes the zone. -/
def dnsWrites (round : RefreshRound σ) : ℕ := performed Action.writesDnsRecord round.trace

/-- 1 for a refresh that reports the record out of sync. -/
def dnsMissed (round : RefreshRound σ) : ℕ :=
  match round.result with
  | .ok snapshot => if snapshot.dnsInSync = some false then 1 else 0
  | .error _ => 0

theorem dnsMissed_le (round : RefreshRound σ) : dnsMissed round ≤ 1 := by
  unfold dnsMissed
  split
  · split <;> omega
  · exact Nat.zero_le 1

theorem dnsMissed_eq_zero {round : RefreshRound σ} (h : ¬ DnsFailed round.result) :
    dnsMissed round = 0 := by
  unfold dnsMissed
  split
  · rename_i snapshot hresult
    exact if_neg fun hsync => h ⟨snapshot, hresult, hsync⟩
  · rfl

end Rounds

theorem dns_tracks (htarget : c.dnsTarget = some target) :
    Tracks (Prog.RoundStep (DisturbedZone target.zoneId) (asyncUpdateData c)) aim dnsWrites
      (fun s => 2 * s.2) (dnsOff target) changed where
  triangle := dnsOff_triangle target
  aimed := by
    intro s round s' localIp h hip
    rcases refresh_dns htarget h.1 h.2.1 with ⟨hquiet, -⟩ | ⟨localIp', hip', hpaid, -⟩
    · rw [dnsWrites, performed_of_quiet hquiet, Nat.zero_add]
      exact dnsOff_of_quiet h.2.1 hquiet localIp
    · obtain rfl := Option.some.inj (hip'.symm.trans hip)
      rw [Nat.add_assoc]
      exact hpaid
  idle := by
    intro s round s' h hip
    rcases refresh_dns htarget h.1 h.2.1 with ⟨hquiet, -⟩ | ⟨localIp', hip', -⟩
    · rw [dnsWrites, performed_of_quiet hquiet, Nat.zero_add]
      refine ⟨Nat.mul_le_mul_left 2 h.2.1.budget_le, fun localIp => ?_⟩
      exact dnsOff_of_quiet h.2.1 hquiet localIp
    · cases hip'.symm.trans hip

/-- **Every DNS write has a cause.** Over any number of refreshes, with a source
that changes and a zone that is disturbed in any way, the zone is written no
more often than the address changed and twice as often as disturbances happened.
With an attempt to make, no more refreshes than these disturbances report the
record out of sync. -/
theorem dns_writes_tracked {rounds : List (RefreshRound (Zone × ℕ))}
    (htarget : c.dnsTarget = some target)
    (h : Prog.Session (DisturbedZone target.zoneId) (asyncUpdateData c) s rounds s') :
    (rounds.map dnsWrites).sum + 2 * s'.2 ≤
        2 * s.2 + travelFrom (dnsOff target) changed s (rounds.filterMap aim) ∧
      (1 ≤ c.maxRetries → (rounds.map dnsMissed).sum + s'.2 ≤ s.2) := by
  refine ⟨(dns_tracks htarget).path h, fun hpos => ?_⟩
  apply h.paid
  intro s round s' hround
  have hle := hround.2.1.budget_le
  have hone := dnsMissed_le round
  by_cases hfailed : DnsFailed round.result
  · rcases refresh_dns htarget hround.1 hround.2.1 with ⟨-, hnot⟩ | ⟨localIp, -, -, hspent⟩
    · exact absurd hfailed hnot
    · have hless := hspent hpos hfailed
      omega
  · rw [dnsMissed_eq_zero hfailed, Nat.zero_add]
    exact hle

/-- Two writes for one disturbance: a query that misses the record, while somebody
edits it. -/
theorem dns_writes_tracked_two :
    let c : Coordinator :=
      ⟨"e", "home", "acc", "list", "sensor.ip", 5, some "vpn.example.org", some "zone"⟩
    let target : DnsTarget := ⟨"vpn.example.org", "zone", by decide, by decide⟩
    let record : CloudflareDnsRecord :=
      ⟨"r", "vpn.example.org", "A", "203.0.113.7", false, dnsRecordTtl, none⟩
    let s : Zone × ℕ := (⟨[record], by decide⟩, 1)
    ∃ rounds s', Prog.Session (DisturbedZone "zone") (asyncUpdateData c) s rounds s' ∧
      (rounds.map dnsWrites).sum = 2 ∧
      (rounds.map dnsWrites).sum + 2 * s'.2 ≤
        2 * s.2 + travelFrom (dnsOff target) changed s (rounds.filterMap aim) := by
  intro c target record s
  let ip := "203.0.113.7"
  let edited : CloudflareDnsRecord := { record with content := "198.51.100.1" }
  let created := (dnsBody target ip).record "new"
  let updated := (dnsPatch edited ip).apply edited
  let zone₁ : Zone := ⟨[edited], by decide⟩
  let zone₂ := zone₁.create (dnsBody target ip) "new" (by decide)
  let zone₃ := zone₂.update "r" (dnsPatch edited ip)
  let replies (records : List CloudflareDnsRecord) (stored : CloudflareDnsRecord) : Replies :=
    { source := some ip, listItems := .ok [⟨ip, none, none⟩], replace := .ok "op",
      bulkOperation := (0, .ok ⟨"op", "completed", none⟩), ruleLists := .ok [],
      dnsRecords := .ok records, dnsRecord := .ok stored, now := (9 : ℕ), lastSynced := none }
  let list : List Ev :=
    [sourceEv c (some ip), readEv c (.ok [⟨ip, none, none⟩]), issueEv c false, clearEv c,
      stampEv (9 : ℕ)]
  let tail : List Ev := [⟨.dismissNotification c.dnsNotificationId, ()⟩, ⟨.getLastSynced, none⟩]
  let first := list ++ [dnsReadEv target ip (.ok []), dnsCreateEv target ip (.ok created)] ++ tail
  let second := list ++ [dnsReadEv target ip (.ok [edited, created]),
    dnsUpdateEv target ip edited (.ok updated)] ++ tail
  let result : Except UpdateError SyncState :=
    .ok ⟨some ip, [ip], true, none, none, some "vpn.example.org", some ip, some true, none⟩
  have hfirst : (asyncUpdateData c).Traces first result :=
    Prog.traces_of_exec (fun n o => ((replies [] created).answer o, n)) () (by decide +kernel)
      (by decide +kernel)
  have hsecond : (asyncUpdateData c).Traces second result :=
    Prog.traces_of_exec (fun n o => ((replies [edited, created] updated).answer o, n)) ()
      (by decide +kernel) (by decide +kernel)
  have hother : ∀ {zone : Zone} {left : ℕ} {t : List Ev}, (∀ e ∈ t, e.1.dnsZone = none) →
      Path (DisturbedZone "zone") (zone, left) t (zone, left) := by
    intro zone left t ht
    induction t with
    | nil => exact .nil _
    | cons e t ih =>
        rw [List.forall_mem_cons] at ht
        have hzone : e.1.dnsZone ≠ some "zone" := by
          rw [ht.1]
          exact (Option.some_ne_none _).symm
        refine .cons (.inr ⟨rfl, .other hzone, ?_⟩) (ih ht.2)
        obtain ⟨o, r⟩ := e
        cases o <;> first | rfl | cases ht.1
  have hlist : ∀ e ∈ list, e.1.dnsZone = none := by decide
  have htail : ∀ e ∈ tail, e.1.dnsZone = none := by decide
  have hsession : Prog.Session (DisturbedZone "zone") (asyncUpdateData c) s
      [⟨first, result, (zone₂, 0)⟩, ⟨second, result, (zone₃, 0)⟩] (zone₃, 0) := by
    refine .cons ⟨hfirst, ?_, rfl⟩ (.cons ⟨hsecond, ?_, rfl⟩ (.nil _))
    · have hmissed : DisturbedZone "zone" s (dnsReadEv target ip (.ok [])) (zone₁, 0) :=
        .inl (by decide)
      have hcreate : DisturbedZone "zone" (zone₁, 0) (dnsCreateEv target ip (.ok created))
          (zone₂, 0) := .inr ⟨rfl, .created (by decide), rfl⟩
      exact ((hother hlist).append (.cons hmissed (.single hcreate))).append (hother htail)
    · have hquery : zone₂.query target.recordName (recordType ip) = [edited, created] := by
        decide +kernel
      have hread : DisturbedZone "zone" (zone₂, 0) (dnsReadEv target ip (.ok [edited, created]))
          (zone₂, 0) := by
        refine .inr ⟨rfl, ?_, rfl⟩
        rw [← hquery]
        exact .query
      have hupdate : DisturbedZone "zone" (zone₂, 0) (dnsUpdateEv target ip edited (.ok updated))
          (zone₃, 0) := .inr ⟨rfl, .updated List.mem_cons_self rfl, rfl⟩
      exact ((hother hlist).append (.cons hread (.single hupdate))).append (hother htail)
  exact ⟨_, _, hsession, by decide +kernel, (dns_writes_tracked rfl hsession).1⟩

end CloudflareIpSync
