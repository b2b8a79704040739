/-
CloudflareIpSync/DnsFixedPoint.lean

Whether a DNS record that one refresh accepted is left alone by the next.

An upsert tests a record twice.  Before a write it looks at the content, the
proxy flag and the TTL; in its last check it looks at the content and the proxy
flag only.  So a record is a fixed point exactly if it passes the first test
(`settled_iff_ttl`), and every accepted record is one exactly if the zone gave what
it was sent the TTL that was asked for (`accepted_record_settled_iff`).  A zone
that answers with another TTL is written to at every refresh, and reported in
sync at every refresh (`accepted_record_rewritten`).
-/
import CloudflareIpSync.WriteSafety

namespace CloudflareIpSync

open Interact

variable {target : DnsTarget} {localIp : String} {r : CloudflareDnsRecord} {t : List Ev}

/-- Creating or updating a DNS record. -/
def Action.writesDnsRecord : Action → Bool
  | createDnsRecord _ _ => true
  | updateDnsRecord _ _ _ => true
  | _ => false

/-- The next upsert and the next refresh with the same address that find `r`
alone write nothing, and the upsert returns it. -/
structure Settled (target : DnsTarget) (localIp : String) (r : CloudflareDnsRecord) : Prop where
  upsert : ∀ t out, (asyncUpsertDnsRecord target localIp).Traces
    (dnsReadEv target localIp (.ok [r]) :: t) out → t = [] ∧ out = .ok r
  refresh : ∀ c t out, c.dnsTarget = some target → (asyncUpdateData c).Traces t out →
    sourceIp t = some localIp → (∀ answer, dnsReadEv target localIp answer ∈ t → answer = .ok [r]) →
    ∀ e ∈ t, e.1.writesDnsRecord = false

/-! ### The test before a write -/

theorem UpsertRun.quiet {out : Except SyncError CloudflareDnsRecord}
    (h : UpsertRun target localIp t out) (hkeep : ¬ NeedsUpdate localIp r)
    (hread : ∀ answer, dnsReadEv target localIp answer ∈ t → answer = .ok [r]) :
    ∀ e ∈ t, e.1.writesDnsRecord = false := by
  cases h with
  | readRaised => simp [Action.writesDnsRecord]
  | createRaised => cases hread _ List.mem_cons_self
  | created => cases hread _ List.mem_cons_self
  | updateRaised _ hupdate =>
      cases hread _ List.mem_cons_self
      exact absurd hupdate hkeep
  | updated _ hupdate =>
      cases hread _ List.mem_cons_self
      exact absurd hupdate hkeep
  | kept => simp [Action.writesDnsRecord]

theorem syncDns_quiet {c : Coordinator} {out : Except SyncError CloudflareDnsRecord}
    (h : (asyncSyncDnsWithRetry c target localIp).Traces t out) (hkeep : ¬ NeedsUpdate localIp r)
    (hread : ∀ answer, dnsReadEv target localIp answer ∈ t → answer = .ok [r]) :
    ∀ e ∈ t, e.1.writesDnsRecord = false := by
  intro e he
  rcases (retryRun_of_traces h).mem_cases he with ⟨n, rfl⟩ | ⟨t', out', hsub, hbody, hmem⟩
  · rfl
  · apply (upsertRun_of_traces hbody).quiet hkeep _ e hmem
    intro answer hanswer
    exact hread answer (hsub.subset hanswer)

theorem DnsRun.quiet {c : Coordinator} {dns : Option String × Option Bool × Option String}
    (h : DnsRun c (some localIp) t dns) (htarget : c.dnsTarget = some target)
    (hkeep : ¬ NeedsUpdate localIp r)
    (hread : ∀ answer, dnsReadEv target localIp answer ∈ t → answer = .ok [r]) :
    ∀ e ∈ t, e.1.writesDnsRecord = false := by
  -- the retried upserts, and the notification after them
  have hattempts : ∀ {target' tr out e}, c.dnsTarget = some target' →
      (asyncSyncDnsWithRetry c target' localIp).Traces tr out → t = tr ++ [e] →
      e.1.writesDnsRecord = false → ∀ e ∈ t, e.1.writesDnsRecord = false := by
    rintro target' tr out e htarget' hretry rfl hlast e' he'
    obtain rfl := Option.some.inj (htarget.symm.trans htarget')
    rcases List.mem_append.mp he' with he' | he'
    · apply syncDns_quiet hretry hkeep _ e' he'
      intro answer hanswer
      exact hread answer (List.mem_append_left _ hanswer)
    · rw [List.mem_singleton.mp he']
      exact hlast
  cases h with
  | off => exact fun e he => absurd he List.not_mem_nil
  | synced htarget' hretry => exact hattempts htarget' hretry rfl rfl
  | failed htarget' hretry => exact hattempts htarget' hretry rfl rfl

theorem RefreshRun.quiet {c : Coordinator} {out : Except UpdateError SyncState}
    (h : RefreshRun c t out) (htarget : c.dnsTarget = some target)
    (hsource : sourceIp t = some localIp) (hkeep : ¬ NeedsUpdate localIp r)
    (hread : ∀ answer, dnsReadEv target localIp answer ∈ t → answer = .ok [r]) :
    ∀ e ∈ t, e.1.writesDnsRecord = false := by
  have hlistHalf : ∀ {tl list}, (asyncUpdateList c).Traces tl list →
      ∀ e ∈ tl, e.1.writesDnsRecord = false := by
    intro tl list hlist e he
    have hin := (emits_asyncUpdateList c).traces hlist e he
    rcases e with ⟨o, answer⟩
    cases o <;> first | rfl | exact hin.elim
  cases h with
  | raised hlist => exact hlistHalf hlist
  | returned hlist hdns =>
      rw [sourceIp_refresh hlist] at hsource
      rw [hsource] at hdns
      intro e he
      rcases List.mem_append.mp he with he | he
      · rcases List.mem_append.mp he with he | he
        · exact hlistHalf hlist e he
        · apply (dnsRun_of_traces hdns).quiet htarget hkeep _ e he
          intro answer hanswer
          exact hread answer (List.mem_append_left _ (List.mem_append_right _ hanswer))
      · rw [List.mem_singleton.mp he]
        rfl

/-- A record with the address and un-proxied is a fixed point exactly if it has
the TTL as well. -/
theorem settled_iff_ttl (hcontent : r.content = localIp) (hproxied : r.proxied = false) :
    Settled target localIp r ↔ r.ttl = dnsRecordTtl := by
  have hneeds : NeedsUpdate localIp r ↔ r.ttl ≠ dnsRecordTtl := by
    unfold NeedsUpdate
    simp [hcontent, hproxied]
  have hverify : verifyDnsRecord localIp r = .ok r := by
    simp [verifyDnsRecord, hcontent, hproxied]
  constructor
  · intro h
    by_contra httl
    -- a run that updates the record
    have hrun : (asyncUpsertDnsRecord target localIp).Traces
        [dnsReadEv target localIp (.ok [r]), dnsUpdateEv target localIp r (.ok r)] (.ok r) := by
      refine Prog.traces_op_iff.mpr ⟨.ok [r], _, rfl, ?_⟩
      show Prog.Traces (if NeedsUpdate localIp r then _ else _) _ _
      rw [if_pos (hneeds.mpr httl)]
      refine Prog.traces_op_iff.mpr ⟨.ok r, _, rfl, ?_⟩
      exact Prog.traces_ret_iff.mpr ⟨rfl, hverify.symm⟩
    cases (h.upsert _ _ hrun).1
  · intro httl
    have hkeep : ¬ NeedsUpdate localIp r := fun h => hneeds.mp h httl
    refine ⟨?_, ?_⟩
    · intro t out h
      have hrun := upsertRun_of_traces h
      generalize htrace : dnsReadEv target localIp (.ok [r]) :: t = trace at hrun
      cases hrun with
      | readRaised | createRaised | created => cases htrace
      | updateRaised _ hupdate =>
          cases htrace
          exact absurd hupdate hkeep
      | updated _ hupdate =>
          cases htrace
          exact absurd hupdate hkeep
      | kept =>
          cases htrace
          exact ⟨rfl, hverify⟩
    · intro c t out htarget h hsource hread
      exact (refreshRun_of_traces h).quiet htarget hsource hkeep hread

/-! ### The check after a write -/

/-- The record that a create or update was answered with. -/
def storedRecord : Ev → Option CloudflareDnsRecord
  | ⟨.createDnsRecord _ _, .ok record⟩ => some record
  | ⟨.updateDnsRecord _ _ _, .ok record⟩ => some record
  | _ => none

/-- Every create and update that was answered with a record of the address,
un-proxied, was answered with one of the TTL that it asked for. -/
def KeepsTtl (localIp : String) (t : List Ev) : Prop :=
  ∀ record ∈ t.filterMap storedRecord, record.content = localIp → record.proxied = false →
    record.ttl = dnsRecordTtl

theorem keepsTtl_single {e₁ e₂ : Ev} {record : CloudflareDnsRecord} (h₁ : storedRecord e₁ = none)
    (h₂ : storedRecord e₂ = some record) :
    KeepsTtl localIp [e₁, e₂] ↔
      (record.content = localIp → record.proxied = false → record.ttl = dnsRecordTtl) := by
  simp [KeepsTtl, h₁, h₂]

theorem UpsertRun.settled_iff {out : Except SyncError CloudflareDnsRecord}
    (h : UpsertRun target localIp t out) :
    (∀ r, out = .ok r → Settled target localIp r) ↔ KeepsTtl localIp t := by
  -- a record that a write was answered with
  have stored : ∀ {e₁ e₂ : Ev} {record}, storedRecord e₁ = none → storedRecord e₂ = some record →
      ((∀ r, verifyDnsRecord localIp record = .ok r → Settled target localIp r) ↔
        KeepsTtl localIp [e₁, e₂]) := by
    intro e₁ e₂ record h₁ h₂
    rw [keepsTtl_single h₁ h₂]
    constructor
    · intro h hcontent hproxied
      have hok : verifyDnsRecord localIp record = .ok record := by
        simp [verifyDnsRecord, hcontent, hproxied]
      exact (settled_iff_ttl hcontent hproxied).mp (h record hok)
    · intro h r hr
      obtain ⟨rfl, hcontent, hproxied⟩ := verifyDnsRecord_ok hr
      exact (settled_iff_ttl hcontent hproxied).mpr (h hcontent hproxied)
  cases h with
  | readRaised | createRaised | updateRaised =>
      exact iff_of_true (by rintro r ⟨⟩) (by simp [KeepsTtl, storedRecord])
  | created record => exact stored rfl rfl
  | updated record' => exact stored rfl rfl
  | @kept record rest hkeep =>
      refine iff_of_true ?_ (by simp [KeepsTtl, storedRecord])
      intro r hr
      obtain ⟨rfl, hcontent, hproxied⟩ := verifyDnsRecord_ok hr
      apply (settled_iff_ttl hcontent hproxied).mpr
      by_contra httl
      exact hkeep (.inr (.inr httl))

/-- **Fixed points.**

* What an upsert returns is a fixed point exactly if the zone kept the TTL it
  was sent.
* A refresh that reports the DNS record in sync ends with such an upsert, so the
  next one writes nothing, with the same address and the same record, exactly if
  the zone kept the TTL. -/
theorem accepted_record_settled_iff (c : Coordinator) :
    (∀ target localIp t out, (asyncUpsertDnsRecord target localIp).Traces t out →
      ((∀ r, out = .ok r → Settled target localIp r) ↔ KeepsTtl localIp t)) ∧
    ∀ t s, (asyncUpdateData c).Traces t (.ok s) → s.dnsInSync = some true →
      ∃ target ip r before upsert lastSynced, c.dnsTarget = some target ∧
        s.localIp = some ip ∧ s.dnsRecordIp = some r.content ∧
        (asyncUpsertDnsRecord target ip).Traces upsert (.ok r) ∧
        t = before ++ upsert ++ [⟨Action.dismissNotification c.dnsNotificationId, ()⟩,
          ⟨Action.getLastSynced, lastSynced⟩] ∧
        (Settled target ip r ↔ KeepsTtl ip upsert) := by
  refine ⟨?_, ?_⟩
  · intro target localIp t out h
    exact (upsertRun_of_traces h).settled_iff
  · intro t s h hsync
    obtain ⟨tl, td, list, dns, lastSynced, -, hdns, rfl, rfl⟩ := refresh_returned h
    generalize hip : list.localIp = localIp at hdns
    cases dnsRun_of_traces hdns with
    | off | failed => cases hsync
    | @synced target ip tr record htarget hretry =>
        obtain ⟨t₁, t₂, rfl, hlast⟩ := (retryRun_of_traces hretry).ok_last
        have hiff := (upsertRun_of_traces hlast).settled_iff
        refine ⟨target, ip, record, tl ++ t₁, t₂, lastSynced, htarget, hip, rfl, hlast, ?_, ?_⟩
        · simp
        · rw [← hiff]
          constructor
          · rintro h _ ⟨⟩
            exact h
          · intro h
            exact h record rfl

/-- A zone that answers a create request with TTL 1 (automatic): the upsert
accepts the record and the refresh reports it in sync; the next upsert and the
next refresh find it alone and update it. -/
theorem accepted_record_rewritten :
    let c : Coordinator :=
      ⟨"e", "home", "acc", "list", "sensor.ip", 5, some "vpn.example.org", some "zone"⟩
    ∃ (target : DnsTarget) (r : CloudflareDnsRecord), c.dnsTarget = some target ∧
      (∃ t, (asyncUpsertDnsRecord target "203.0.113.7").Traces t (.ok r)) ∧
      (∃ t out, (asyncUpsertDnsRecord target "203.0.113.7").Traces
        (dnsReadEv target "203.0.113.7" (.ok [r]) :: t) out ∧
        t.any (fun e => e.1.writesDnsRecord) = true) ∧
      (∃ t s, (asyncUpdateData c).Traces t (.ok s) ∧ s.localIp = some "203.0.113.7" ∧
        s.dnsInSync = some true ∧ t.filterMap storedRecord = [r]) ∧
      ∃ t s, (asyncUpdateData c).Traces t (.ok s) ∧ s.localIp = some "203.0.113.7" ∧
        dnsReadEv target "203.0.113.7" (.ok [r]) ∈ t ∧
        t.any (fun e => e.1.writesDnsRecord) = true := by
  intro c
  let record : CloudflareDnsRecord :=
    ⟨"r1", "vpn.example.org", "A", "203.0.113.7", false, 1, none⟩
  let replies (records : List CloudflareDnsRecord) : Replies :=
    { source := some "203.0.113.7", listItems := .ok [⟨"203.0.113.7", none, none⟩],
      replace := .ok "op", bulkOperation := (0, .ok ⟨"op", "completed", none⟩),
      ruleLists := .ok [], dnsRecords := .ok records, dnsRecord := .ok record,
      now := (9 : ℕ), lastSynced := some (9 : ℕ) }
  let target : DnsTarget := ⟨"vpn.example.org", "zone", by decide, by decide⟩
  have run : ∀ records {α} (p : Coro α), p.Traces _ _ := fun records _ p =>
    Prog.exec_traces (fun _ o => ((replies records).answer o, ())) p ()
  let s : SyncState :=
    ⟨some "203.0.113.7", ["203.0.113.7"], true, some (9 : ℕ), none, some "vpn.example.org",
      some "203.0.113.7", some true, none⟩
  have hrefresh : ∀ records, ((asyncUpdateData c).exec
      (fun _ o => ((replies records).answer o, ())) ()).result = .ok s → _ :=
    fun records h => Prog.traces_of_exec (fun _ o => ((replies records).answer o, ())) () rfl h
  refine ⟨target, record, rfl, ⟨_, run [] _⟩, ⟨_, _, run [record] _, rfl⟩,
    ⟨_, s, hrefresh [] (by decide +kernel), rfl, rfl, ?_⟩,
    ⟨_, s, hrefresh [record] (by decide +kernel), rfl, ?_, ?_⟩⟩
  · decide +kernel
  · decide +kernel
  · decide +kernel

/-- A zone that keeps the TTL: the created record is a fixed point. -/
theorem accepted_record_settled_kept :
    let record : CloudflareDnsRecord :=
      ⟨"r1", "vpn.example.org", "A", "203.0.113.7", false, dnsRecordTtl, none⟩
    Settled ⟨"vpn.example.org", "zone", by decide, by decide⟩ "203.0.113.7" record := by
  intro record
  let replies : Replies :=
    { source := none, listItems := .ok [], replace := .ok "op",
      bulkOperation := (0, .ok ⟨"op", "completed", none⟩), ruleLists := .ok [],
      dnsRecords := .ok [], dnsRecord := .ok record, now := (9 : ℕ), lastSynced := none }
  let target : DnsTarget := ⟨"vpn.example.org", "zone", by decide, by decide⟩
  let c : Coordinator :=
    ⟨"e", "home", "acc", "list", "sensor.ip", 5, some "vpn.example.org", some "zone"⟩
  have hrun := Prog.exec_traces (fun _ o => (replies.answer o, ()))
    (asyncUpsertDnsRecord target "203.0.113.7") ()
  refine ((accepted_record_settled_iff c).1 target "203.0.113.7" _ _ hrun).mpr ?_ record rfl
  intro stored hstored _ _
  have hmem : stored ∈ [record] := hstored
  rw [List.mem_singleton.mp hmem]

end CloudflareIpSync
