/-
CloudflareIpSync/DnsInSync.lean

What a hostname reported in sync resolves to.

A refresh brings one record to the source IP: the first one of the address's
type, or a new one.  It leaves every other record of the zone alone, duplicates
and records of the other family included (`first_record_in_sync`).  So the
hostname resolves to the source IP alone when there is no other record, that
is from a zone with at most one and over a run that keeps to one family.
-/
import CloudflareIpSync.DnsZone
import CloudflareIpSync.Snapshot

namespace CloudflareIpSync

open Interact

variable {c : Coordinator} {target : DnsTarget} {localIp : String} {zone zone' zone'' : Zone}

/-! ### From attempts to refreshes -/

/-- Any number of attempts with one address. -/
abbrev UpsertsMany (target : DnsTarget) (localIp : String) : Zone → Zone → Prop :=
  Relation.ReflTransGen (Upserts target localIp)

/-- Only DNS requests touch the zone. -/
theorem zone_frame {zoneId : String} {t : List Ev} (h : Path (ZoneStep zoneId) zone t zone')
    (ht : ∀ e ∈ t, e.1.dnsZone = none) : zone' = zone := by
  refine h.preserves (I := fun z => z = zone) rfl ?_
  rintro z e z' he rfl hstep
  have hdns := ht e he
  cases hstep with
  | other => rfl
  | query | queryFailed | created | createdLost | createFailed | updated | updatedLost
  | updateFailed => cases hdns

theorem RetryRun.upserts {maxRetries : ℤ} {attempts : List ℤ} {delay : ℕ}
    {lastErr : Option SyncError} {t : List Ev} {out : Except SyncError CloudflareDnsRecord}
    (h : RetryRun maxRetries (asyncUpsertDnsRecord target localIp) attempts delay lastErr t out)
    (hpath : Path (ZoneStep target.zoneId) zone t zone') :
    UpsertsMany target localIp zone zone' ∧
      ∀ record, out = .ok record → zone'.first target localIp = some record := by
  induction h generalizing zone with
  | exhausted =>
      rw [path_nil_iff.mp hpath]
      exact ⟨.refl, by rintro _ ⟨⟩⟩
  | success hbody =>
      obtain ⟨hattempt, hfirst⟩ := (upsertRun_of_traces hbody).upserts hpath
      exact ⟨.single hattempt, hfirst⟩
  | auth hbody =>
      obtain ⟨hattempt, -⟩ := (upsertRun_of_traces hbody).upserts hpath
      exact ⟨.single hattempt, by rintro _ ⟨⟩⟩
  | again hbody _ _ _ ih =>
      obtain ⟨mid, hbefore, hrest⟩ := path_append_iff.mp hpath
      rw [← List.singleton_append, path_append_iff] at hrest
      obtain ⟨mid', hsleep, hrest⟩ := hrest
      have hmid : mid' = mid := zone_frame hsleep (by simp [Action.dnsZone])
      rw [hmid] at hrest
      obtain ⟨hattempt, -⟩ := (upsertRun_of_traces hbody).upserts hbefore
      obtain ⟨hmany, hfirst⟩ := ih hrest
      exact ⟨.head hattempt hmany, hfirst⟩
  | last hbody _ _ _ ih =>
      obtain ⟨mid, hbefore, hrest⟩ := path_append_iff.mp hpath
      obtain ⟨hattempt, -⟩ := (upsertRun_of_traces hbody).upserts hbefore
      obtain ⟨hmany, hfirst⟩ := ih hrest
      exact ⟨.head hattempt hmany, hfirst⟩

theorem dnsZone_of_inListHalf {o : Action} (ho : o.InListHalf c) : o.dnsZone = none := by
  cases o <;> first | rfl | exact ho.elim

/-- What a refresh does to the zone: nothing, or attempts with the address it
read; if it reports the record in sync, the first record is the one it holds. -/
inductive ZoneRun (target : DnsTarget) (zone zone' : Zone) (t : List Ev)
    (out : Except UpdateError SyncState) : Prop
  | untouched : zone' = zone → (∀ s, out = .ok s → s.dnsInSync ≠ some true) →
      ZoneRun target zone zone' t out
  | attempted (ip : String) : sourceIp t = some ip → UpsertsMany target ip zone zone' →
      (∀ s, out = .ok s → s.localIp = some ip ∧ (s.dnsInSync = some true →
        ∃ record, zone'.first target ip = some record ∧ record.content = ip ∧
          record.proxied = false)) →
      ZoneRun target zone zone' t out

theorem RefreshRun.zoneRun {t : List Ev} {out : Except UpdateError SyncState}
    (htarget : c.dnsTarget = some target) (h : RefreshRun c t out)
    (hpath : Path (ZoneStep target.zoneId) zone t zone') : ZoneRun target zone zone' t out := by
  have hlistFrame : ∀ {tl r z z'}, (asyncUpdateList c).Traces tl r →
      Path (ZoneStep target.zoneId) z tl z' → z' = z := by
    intro tl r z z' hlist htl
    apply zone_frame htl
    intro e he
    exact dnsZone_of_inListHalf ((emits_asyncUpdateList c).traces hlist e he)
  cases h with
  | raised hlist => exact .untouched (hlistFrame hlist hpath) (by rintro _ ⟨⟩)
  | @returned tl td list dns lastSynced hlist hdns =>
      obtain ⟨z₂, hpath, hread⟩ := path_snoc_iff.mp hpath
      obtain ⟨z₁, htl, htd⟩ := path_append_iff.mp hpath
      rw [hlistFrame hlist htl] at htd
      have hlast : zone' = z₂ := zone_frame (.single hread) (by simp [Action.dnsZone])
      rw [hlast]
      have hsource := sourceIp_refresh hlist td lastSynced
      -- a retried upsert, and the notification after it
      have hattempts : ∀ {target' ip tr r e}, c.dnsTarget = some target' →
          (asyncSyncDnsWithRetry c target' ip).Traces tr r →
          Path (ZoneStep target.zoneId) zone (tr ++ [e]) z₂ → e.1.dnsZone = none →
          UpsertsMany target ip zone z₂ ∧
            ∀ record, r = .ok record → z₂.first target ip = some record := by
        intro target' ip tr r e htarget' hretry hpath he
        obtain rfl : target = target' := Option.some.inj (htarget.symm.trans htarget')
        obtain ⟨mid, hretryPath, hnotify⟩ := path_snoc_iff.mp hpath
        have hmid : z₂ = mid := zone_frame (.single hnotify) (by simpa using he)
        rw [hmid]
        exact (retryRun_of_traces hretry).upserts hretryPath
      generalize hip : list.localIp = localIp at hdns hsource
      cases dnsRun_of_traces hdns with
      | off => exact .untouched (path_nil_iff.mp htd) (by rintro _ ⟨⟩ ⟨⟩)
      | @synced target' ip tr record htarget' hretry =>
          obtain ⟨hmany, hfirst⟩ := hattempts htarget' hretry htd rfl
          refine .attempted ip hsource hmany ?_
          rintro s ⟨⟩
          exact ⟨hip, fun _ => ⟨record, hfirst record rfl, content_of_sync hretry⟩⟩
      | @failed target' ip tr err htarget' hretry =>
          obtain ⟨hmany, -⟩ := hattempts htarget' hretry htd rfl
          refine .attempted ip hsource hmany ?_
          rintro s ⟨⟩
          exact ⟨hip, by rintro ⟨⟩⟩

/-! ### The other records -/

/-- The zone is as it was, but for the record a reader sees first. -/
def OnlyFirst (target : DnsTarget) (localIp : String) (zone zone' : Zone) : Prop :=
  zone' = zone ∨ ∃ record, zone'.first target localIp = some record ∧
    ∀ r, r.id ≠ record.id → (r ∈ zone'.records ↔ r ∈ zone.records)

theorem mem_create {id : String} {body : DnsRecordBody} {fresh : id ∉ zone.records.map (·.id)}
    {r : CloudflareDnsRecord} (hid : r.id ≠ id) :
    r ∈ (zone.create body id fresh).records ↔ r ∈ zone.records := by
  show r ∈ zone.records ++ [body.record id] ↔ _
  rw [List.mem_append, List.mem_singleton, or_iff_left]
  rintro rfl
  exact hid rfl

theorem mem_update {id : String} {patch : DnsRecordPatch} {r : CloudflareDnsRecord}
    (hid : r.id ≠ id) : r ∈ (zone.update id patch).records ↔ r ∈ zone.records := by
  constructor
  · intro h
    obtain ⟨r₀, hr₀, rfl⟩ := List.mem_map.mp h
    by_cases h₀ : r₀.id = id
    · rw [if_pos h₀] at hid
      exact absurd h₀ hid
    · rw [if_neg h₀]
      exact hr₀
  · intro hr
    exact List.mem_map.mpr ⟨r, hr, if_neg hid⟩

/-- An attempt goes on with the record earlier attempts touched. -/
theorem Upserts.onlyFirst (hzone : OnlyFirst target localIp zone zone')
    (h : Upserts target localIp zone' zone'') : OnlyFirst target localIp zone zone'' := by
  cases h with
  | unchanged => exact hzone
  | created fresh hnone =>
      rcases hzone with rfl | ⟨record, hfirst, -⟩
      -- an attempt creates a record only if no attempt before left one
      · exact .inr ⟨_, first_create hnone, fun r hid => mem_create hid⟩
      · rw [Zone.first, hnone] at hfirst
        cases hfirst
  | @updated record hfirst =>
      refine .inr ⟨_, first_update hfirst, ?_⟩
      intro r hid
      have hid' : r.id ≠ record.id := hid
      rw [mem_update hid']
      rcases hzone with rfl | ⟨record', hfirst', hothers⟩
      · exact Iff.rfl
      · obtain rfl : record = record' := Option.some.inj (hfirst.symm.trans hfirst')
        exact hothers r hid

theorem UpsertsMany.onlyFirst (h : UpsertsMany target localIp zone zone') :
    OnlyFirst target localIp zone zone' := by
  induction h with
  | refl => exact .inl rfl
  | tail _ hstep ih => exact hstep.onlyFirst ih

/-! ### One record -/

/-- The hostname has at most one record of this type, and none of the other. -/
def OneRecord (target : DnsTarget) (type : String) (zone : Zone) : Prop :=
  (zone.query target.recordName type).length ≤ 1 ∧
    ∀ type', type' ≠ type → type' = "A" ∨ type' = "AAAA" → zone.query target.recordName type' = []

theorem Upserts.oneRecord (hone : OneRecord target (recordType localIp) zone)
    (h : Upserts target localIp zone zone') : OneRecord target (recordType localIp) zone' := by
  cases h with
  | unchanged => exact hone
  | created fresh hnone =>
      refine ⟨?_, ?_⟩
      · rw [Zone.query_create, hnone, if_pos ⟨rfl, rfl⟩]
        simp
      · intro type' htype hfamily
        rw [Zone.query_create, hone.2 type' htype hfamily, if_neg]
        · simp
        · rintro ⟨-, h⟩
          exact htype h.symm
  | updated =>
      -- an update keeps the number of records of every type
      refine ⟨?_, ?_⟩
      · rw [Zone.query_update, List.length_map]
        exact hone.1
      · intro type' htype hfamily
        rw [Zone.query_update, hone.2 type' htype hfamily, List.map_nil]

theorem UpsertsMany.oneRecord (hone : OneRecord target (recordType localIp) zone)
    (h : UpsertsMany target localIp zone zone') : OneRecord target (recordType localIp) zone' := by
  induction h with
  | refl => exact hone
  | tail _ hstep ih => exact hstep.oneRecord ih

/-! ### Whole runs -/

/-- A refresh against the zone. -/
abbrev ZoneRound := Prog.Round Action.Res Zone (Except UpdateError SyncState)

/-- Refreshes with addresses of one family keep the hostname to one record. -/
theorem oneRecord_of_session {zone₀ : Zone} {rounds : List ZoneRound} {type : String}
    (htarget : c.dnsTarget = some target)
    (hsession : Prog.Session (ZoneStep target.zoneId) (asyncUpdateData c) zone₀ rounds zone)
    (hfamily : ∀ round ∈ rounds, ∀ ip, sourceIp round.trace = some ip → recordType ip = type)
    (hone : OneRecord target type zone₀) : OneRecord target type zone := by
  apply hsession.preserves hone
  rintro z round z' hmem hone ⟨htraces, hpath, -⟩
  cases (refreshRun_of_traces htraces).zoneRun htarget hpath with
  | untouched hsame =>
      rw [hsame]
      exact hone
  | attempted ip hsource hmany =>
      rw [← hfamily round hmem ip hsource] at hone ⊢
      exact hmany.oneRecord hone

/-- With one record, the record a reader sees first is all there is. -/
theorem eq_first_of_oneRecord {record r : CloudflareDnsRecord}
    (hone : OneRecord target (recordType localIp) zone)
    (hfirst : zone.first target localIp = some record) (hr : r ∈ zone.records)
    (hname : r.name = target.recordName) (htype : r.type = "A" ∨ r.type = "AAAA") :
    r = record := by
  have hfamily : r.type = recordType localIp := by
    by_contra hne
    have hmem : r ∈ zone.query target.recordName r.type := Zone.mem_query.mpr ⟨hr, hname, rfl⟩
    rw [hone.2 r.type hne htype] at hmem
    exact List.not_mem_nil hmem
  have hmem : r ∈ zone.query target.recordName (recordType localIp) :=
    Zone.mem_query.mpr ⟨hr, hname, hfamily⟩
  rw [Zone.first] at hfirst
  rcases e : zone.query target.recordName (recordType localIp) with - | ⟨first, rest⟩
  · rw [e] at hmem
    exact absurd hmem List.not_mem_nil
  · have hlength := hone.1
    rw [e] at hfirst hmem hlength
    have hrest : rest = [] := by simpa using hlength
    rw [hrest, List.mem_singleton] at hmem
    rw [hmem]
    exact Option.some.inj hfirst

/-- **A hostname reported in sync.** After any run, take a refresh that reports
the DNS record in sync.  The first record of the hostname and of the address's
type holds the refresh's IP, un-proxied, and the refresh left all others as they
were: none is new, changed or gone.  If the zone started with at most one address
record for the hostname, of this type, and the refreshes before kept to this
family, then every A or AAAA record of the hostname holds that IP, un-proxied. -/
theorem first_record_in_sync {zone₀ : Zone} {before : List ZoneRound} {round : ZoneRound}
    {s : SyncState} (htarget : c.dnsTarget = some target)
    (hbefore : Prog.Session (ZoneStep target.zoneId) (asyncUpdateData c) zone₀ before zone)
    (hround : Prog.RoundStep (ZoneStep target.zoneId) (asyncUpdateData c) zone round zone')
    (hresult : round.result = .ok s) (hsync : s.dnsInSync = some true) :
    ∃ ip, s.localIp = some ip ∧
      (∃ record, zone'.first target ip = some record ∧ record.content = ip ∧
        record.proxied = false ∧
        ∀ r, r.id ≠ record.id → (r ∈ zone'.records ↔ r ∈ zone.records)) ∧
      (OneRecord target (recordType ip) zone₀ →
        (∀ earlier ∈ before, ∀ ip', sourceIp earlier.trace = some ip' →
          recordType ip' = recordType ip) →
        ∀ r ∈ zone'.records, r.name = target.recordName → r.type = "A" ∨ r.type = "AAAA" →
          r.content = ip ∧ r.proxied = false) := by
  obtain ⟨htraces, hpath, -⟩ := hround
  cases (refreshRun_of_traces htraces).zoneRun htarget hpath with
  | untouched _ hnot => exact absurd hsync (hnot s hresult)
  | attempted ip hsource hmany hok =>
      obtain ⟨hlocal, hheld⟩ := hok s hresult
      obtain ⟨record, hfirst, hcontent, hproxied⟩ := hheld hsync
      refine ⟨ip, hlocal, ⟨record, hfirst, hcontent, hproxied, ?_⟩, ?_⟩
      · rcases hmany.onlyFirst with hsame | ⟨record', hfirst', hothers⟩
        · intro r _
          rw [hsame]
        · obtain rfl := Option.some.inj (hfirst.symm.trans hfirst')
          exact hothers
      · intro hone hfamily r hr hname htype
        have hone' := hmany.oneRecord (oneRecord_of_session htarget hbefore hfamily hone)
        rw [eq_first_of_oneRecord hone' hfirst hr hname htype]
        exact ⟨hcontent, hproxied⟩

/-- Two A records: only the first is rewritten, the second stays.  An AAAA
record: it stays beside the new A record.  The hostname is reported in sync. -/
theorem second_record_stays :
    let c : Coordinator :=
      ⟨"e", "home", "acc", "list", "sensor.ip", 5, some "vpn.example.org", some "zone"⟩
    ∀ type ∈ ["A", "AAAA"],
      ∃ (zone zone' : Zone) (round : ZoneRound) (s : SyncState),
        Prog.RoundStep (ZoneStep "zone") (asyncUpdateData c) zone round zone' ∧
          round.result = .ok s ∧ s.dnsInSync = some true ∧ s.localIp = some "203.0.113.7" ∧
          ∃ r ∈ zone'.records, r.name = "vpn.example.org" ∧ r.type = type ∧
            r.content ≠ "203.0.113.7" := by
  intro c
  let replies : Replies :=
    { source := some "203.0.113.7", listItems := .ok [⟨"203.0.113.7", none, none⟩],
      replace := .ok "op", bulkOperation := (0, .ok ⟨"op", "completed", none⟩),
      ruleLists := .ok [], dnsRecords := .ok [], dnsRecord := .error (.connection "timeout"),
      now := (9 : ℕ), lastSynced := some (9 : ℕ) }
  let s : SyncState :=
    ⟨some "203.0.113.7", ["203.0.113.7"], true, some (9 : ℕ), none, some "vpn.example.org",
      some "203.0.113.7", some true, none⟩
  let twoA : Zone :=
    ⟨[⟨"r1", "vpn.example.org", "A", "198.51.100.1", false, 60, none⟩,
      ⟨"r2", "vpn.example.org", "A", "198.51.100.1", false, 60, none⟩], by decide⟩
  let oneAAAA : Zone :=
    ⟨[⟨"r1", "vpn.example.org", "AAAA", "2001:db8::1", false, 60, none⟩], by decide⟩
  rw [List.forall_mem_cons, List.forall_mem_singleton]
  refine ⟨⟨twoA, _, _, s, Prog.exec_round (zoneStep_serve replies "zone" "r3") _ _, ?_, rfl, rfl,
      ?_⟩,
    ⟨oneAAAA, _, _, s, Prog.exec_round (zoneStep_serve replies "zone" "r3") _ _, ?_, rfl, rfl, ?_⟩⟩
  · decide +kernel
  · decide +kernel
  · decide +kernel
  · decide +kernel

/-- An empty zone, a refresh that creates the record and one after an IP change. -/
theorem first_record_in_sync_changed :
    let c : Coordinator :=
      ⟨"e", "home", "acc", "list", "sensor.ip", 5, some "vpn.example.org", some "zone"⟩
    let replies (ip : String) : Replies :=
      { source := some ip, listItems := .ok [⟨ip, none, none⟩], replace := .ok "op",
        bulkOperation := (0, .ok ⟨"op", "completed", none⟩), ruleLists := .ok [],
        dnsRecords := .ok [], dnsRecord := .error (.connection "timeout"), now := (9 : ℕ),
        lastSynced := some (9 : ℕ) }
    let round₁ := (asyncUpdateData c).exec (Zone.serve (replies "198.51.100.1") "zone" "r")
      ⟨[], by decide⟩
    let round₂ := (asyncUpdateData c).exec (Zone.serve (replies "203.0.113.7") "zone" "r")
      round₁.after
    ∀ r ∈ round₂.after.records, r.name = "vpn.example.org" → r.type = "A" ∨ r.type = "AAAA" →
      r.content = "203.0.113.7" ∧ r.proxied = false := by
  intro c replies round₁ round₂
  have hround₁ := Prog.exec_round (zoneStep_serve (replies "198.51.100.1") "zone" "r")
    (asyncUpdateData c) ⟨[], by decide⟩
  have hround₂ := Prog.exec_round (zoneStep_serve (replies "203.0.113.7") "zone" "r")
    (asyncUpdateData c) round₁.after
  have htarget : c.dnsTarget = some ⟨"vpn.example.org", "zone", by decide, by decide⟩ := rfl
  have hresult : round₂.result = .ok ⟨some "203.0.113.7", ["203.0.113.7"], true, some (9 : ℕ),
      none, some "vpn.example.org", some "203.0.113.7", some true, none⟩ := by
    decide +kernel
  obtain ⟨ip, hlocal, -, hall⟩ :=
    first_record_in_sync htarget (.single hround₁) hround₂ hresult rfl
  obtain rfl : "203.0.113.7" = ip := Option.some.inj hlocal
  refine hall ⟨by decide, fun type' _ _ => rfl⟩ ?_
  have hsource : sourceIp round₁.trace = some "198.51.100.1" := by decide +kernel
  intro earlier hmem ip' hip'
  rw [List.mem_singleton.mp hmem] at hip'
  obtain rfl : "198.51.100.1" = ip' := Option.some.inj (hsource.symm.trans hip')
  decide

end CloudflareIpSync
