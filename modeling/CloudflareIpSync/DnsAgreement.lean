/-
CloudflareIpSync/DnsAgreement.lean

When the two halves of a refresh take two texts for the same address.

The Rule List half compares networks.  The DNS half compares texts, when it
looks at the record it found and again when it checks what the zone returned.
So they agree exactly when the zone has the address in the source's spelling
(`dns_half_agrees_iff`).  An IPv4 address has only one; an IPv6 address in
another spelling than the zone's is written at every attempt of every refresh
and still reported out of sync (`uppercase_never_in_sync`).
-/
import CloudflareIpSync.AddressText
import CloudflareIpSync.WriteSafety

namespace CloudflareIpSync

open Interact Ipaddress

variable {c : Coordinator} {target : DnsTarget} {ip : String} {a : IPAddress}
  {canonical : IPAddress → String}

/-! ### A zone of addresses -/

/-- What the zone stores of a content it was sent: its own text, if the content
is an address. -/
def storesAs (canonical : IPAddress → String) (sent stored : String) : Bool :=
  (ipAddress sent).all fun a => stored = canonical a

theorem storesAs_eq {sent stored : String} (h : storesAs canonical sent stored = true)
    (ha : ipAddress sent = some a) : stored = canonical a := by
  rw [storesAs, ha] at h
  exact of_decide_eq_true h

/-- Answers of a zone that keeps addresses and gives each back in its own text.
It answers every request, and applies what it is sent. -/
def keepsAddresses (canonical : IPAddress → String) : Ev → Bool
  | ⟨.getDnsRecords _ _ _, .ok records⟩ =>
      records.all fun record => storesAs canonical record.content record.content
  | ⟨.createDnsRecord _ body, .ok record⟩ =>
      storesAs canonical body.content record.content && record.proxied == body.proxied
  | ⟨.updateDnsRecord _ _ patch, .ok record⟩ =>
      storesAs canonical patch.content record.content && record.proxied == patch.proxied
  | ⟨.getDnsRecords _ _ _, .error _⟩ => false
  | ⟨.createDnsRecord _ _, .error _⟩ => false
  | ⟨.updateDnsRecord _ _ _, .error _⟩ => false
  | _ => true

/-! ### From attempts to refreshes -/

/-- An attempt at such a zone returns a record exactly if the zone's text for
the address is the one it was given. -/
theorem UpsertRun.ok_iff {t : List Ev} {out : Except SyncError CloudflareDnsRecord}
    (h : UpsertRun target ip t out) (ha : ipAddress ip = some a)
    (ht : ∀ e ∈ t, keepsAddresses canonical e = true) :
    (∃ record, out = .ok record) ↔ canonical a = ip := by
  -- the final check passes exactly for the given text
  have checked : ∀ {record : CloudflareDnsRecord}, record.proxied = false →
      record.content = canonical a →
      ((∃ record', verifyDnsRecord ip record = .ok record') ↔ canonical a = ip) := by
    intro record hproxied hcontent
    unfold verifyDnsRecord
    rw [hproxied, hcontent]
    by_cases heq : canonical a = ip
    · simp [heq]
    · simp [heq]
  cases h with
  | readRaised err => cases ht _ List.mem_cons_self
  | createRaised err => cases ht _ (List.mem_cons_of_mem _ List.mem_cons_self)
  | updateRaised err => cases ht _ (List.mem_cons_of_mem _ List.mem_cons_self)
  | created record =>
      have hcreate := ht _ (List.mem_cons_of_mem _ List.mem_cons_self)
      obtain ⟨hcontent, hproxied⟩ := Bool.and_eq_true_iff.mp hcreate
      exact checked (eq_of_beq hproxied) (storesAs_eq hcontent ha)
  | updated record' =>
      have hupdate := ht _ (List.mem_cons_of_mem _ List.mem_cons_self)
      obtain ⟨hcontent, hproxied⟩ := Bool.and_eq_true_iff.mp hupdate
      exact checked (eq_of_beq hproxied) (storesAs_eq hcontent ha)
  | @kept record rest hkeep =>
      -- the record was kept for its content, so that is the zone's text
      have hsame : record.content = ip := by
        by_contra hne
        exact hkeep (.inl hne)
      have hproxied : record.proxied = false := by
        by_contra hprox
        exact hkeep (.inr (.inl (by simpa using hprox)))
      have hread := ht _ List.mem_cons_self
      have hstored := List.all_eq_true.mp hread record List.mem_cons_self
      refine checked hproxied (storesAs_eq hstored ?_)
      rw [hsame]
      exact ha

/-- So does the loop around it, if it makes an attempt at all. -/
theorem syncDns_ok_iff {t : List Ev} {out : Except SyncError CloudflareDnsRecord}
    (h : (asyncSyncDnsWithRetry c target ip).Traces t out) (ha : ipAddress ip = some a)
    (ht : ∀ e ∈ t, keepsAddresses canonical e = true) :
    (∃ record, out = .ok record) ↔ 1 ≤ c.maxRetries ∧ canonical a = ip := by
  -- every attempt ends as the zone's text decides
  have attempt : ∀ {t₀ t₁ t₂ r}, t = t₀ ++ t₁ ++ t₂ →
      (asyncUpsertDnsRecord target ip).Traces t₁ r →
      ((∃ record, r = .ok record) ↔ canonical a = ip) := by
    rintro t₀ t₁ t₂ r rfl hbody
    apply (upsertRun_of_traces hbody).ok_iff ha
    intro e he
    exact ht e (List.mem_append_left _ (List.mem_append_right _ he))
  have hrun := retryRun_of_traces h
  have hlength := pyRange_length c.maxRetries
  constructor
  · rintro ⟨record, rfl⟩
    obtain ⟨t₁, t₂, heq, hlast⟩ := hrun.ok_last
    refine ⟨?_, (attempt (by rw [heq, List.append_nil]) hlast).mp ⟨record, rfl⟩⟩
    by_contra hnone
    have hempty : pyRange 1 (c.maxRetries + 1) = [] := by
      rw [← List.length_eq_zero_iff]
      omega
    rw [hempty] at hrun
    cases hrun
  · rintro ⟨hretries, heq⟩
    -- the first attempt succeeds
    have first : ∀ {t₁ t₂ r}, t = t₁ ++ t₂ → (asyncUpsertDnsRecord target ip).Traces t₁ r →
        ∃ record, r = .ok record := by
      intro t₁ t₂ r ht₁ hbody
      exact (attempt (by rw [ht₁, List.nil_append]) hbody).mpr heq
    generalize hrange : pyRange 1 (c.maxRetries + 1) = attempts at hrun hlength
    cases hrun with
    | exhausted =>
        rw [List.length_nil] at hlength
        omega
    | success => exact ⟨_, rfl⟩
    | auth hbody =>
        obtain ⟨_, herr⟩ := first (List.append_nil _).symm hbody
        cases herr
    | again hbody =>
        obtain ⟨_, herr⟩ := first rfl hbody
        cases herr
    | last hbody =>
        obtain ⟨_, herr⟩ := first rfl hbody
        cases herr

/-- And the refresh reports the record in sync in these cases. -/
theorem DnsRun.inSync_iff {t : List Ev} {dns : Option String × Option Bool × Option String}
    (h : DnsRun c (some ip) t dns) (htarget : c.dnsTarget = some target)
    (ha : ipAddress ip = some a) (ht : ∀ e ∈ t, keepsAddresses canonical e = true) :
    dns.2.1 = some true ↔ 1 ≤ c.maxRetries ∧ canonical a = ip := by
  cases h with
  | off hoff =>
      rcases hoff with hoff | hoff
      · rw [htarget] at hoff
        cases hoff
      · cases hoff
  | synced _ hretry =>
      have hiff := syncDns_ok_iff hretry ha fun e he => ht e (List.mem_append_left _ he)
      exact iff_of_true rfl (hiff.mp ⟨_, rfl⟩)
  | failed _ hretry =>
      have hiff := syncDns_ok_iff hretry ha fun e he => ht e (List.mem_append_left _ he)
      refine iff_of_false (by rintro ⟨⟩) ?_
      intro heq
      obtain ⟨_, hok⟩ := hiff.mpr heq
      cases hok

/-! ### Where the halves agree -/

/-- The Rule List half takes a text for the source's IPv4 address only if it is
the source's text. -/
theorem eq_of_isInSync_v4 {v : BitVec 32} {text : String} (hstrip : strip ip = ip)
    (ha : ipAddress ip = some (.v4 v)) (htext : (ipAddress text).isSome)
    (hsync : isInSync (some ip) [text] = true) : text = ip := by
  have hnet : toNetwork ip = some (.v4 (.host v)) := by
    rw [toNetwork, hstrip, ipNetwork_of_ipAddress ha]
    rfl
  unfold isInSync at hsync
  rw [decide_eq_true_iff] at hsync
  have hmem : toNetwork ip ∈ ([text].map toNetwork).toFinset.erase none := by
    rw [← hsync]
    exact Finset.mem_singleton_self _
  have heq : toNetwork ip = toNetwork text := by simpa using Finset.mem_of_mem_erase hmem
  apply eq_of_network_v4 ha htext
  rw [← hnet, heq]
  rfl

/-- **Agreement.** For a usable source IP:

* a record with this address, un-proxied and with TTL 60, is kept and returned
  exactly if its content is the source's text;
* a refresh whose zone keeps addresses reports the record in sync exactly if it
  makes an attempt and the zone's text for the address is the source's text;
* if the address is IPv4, every text the Rule List half takes for it is the
  source's text. -/
theorem dns_half_agrees_iff {state : Option String} (husable : UsableSource state ip)
    (ha : ipAddress ip = some a) :
    (∀ target record rest t out, record.proxied = false → record.ttl = dnsRecordTtl →
      (ipAddress record.content).isSome → isInSync (some ip) [record.content] = true →
      (asyncUpsertDnsRecord target ip).Traces (dnsReadEv target ip (.ok (record :: rest)) :: t) out →
      ((t = [] ∧ out = .ok record) ↔ record.content = ip)) ∧
    (∀ (c : Coordinator) target canonical t s, c.dnsTarget = some target →
      (asyncUpdateData c).Traces t (.ok s) → s.localIp = some ip →
      (∀ e ∈ t, keepsAddresses canonical e = true) →
      (s.dnsInSync = some true ↔ 1 ≤ c.maxRetries ∧ canonical a = ip)) ∧
    (∀ v, a = .v4 v → ∀ text, (ipAddress text).isSome → isInSync (some ip) [text] = true →
      text = ip) := by
  refine ⟨?_, ?_, ?_⟩
  · intro target record rest t out hproxied httl _ _ h
    have hneeds : NeedsUpdate ip record ↔ record.content ≠ ip := by simp [hproxied, httl]
    have hrun := upsertRun_of_traces h
    generalize htrace : dnsReadEv target ip (.ok (record :: rest)) :: t = trace at hrun
    cases hrun with
    | readRaised | createRaised | created => cases htrace
    | updateRaised err hupdate =>
        cases htrace
        exact iff_of_false (by rintro ⟨⟨⟩⟩) (hneeds.mp hupdate)
    | updated record' hupdate =>
        cases htrace
        exact iff_of_false (by rintro ⟨⟨⟩⟩) (hneeds.mp hupdate)
    | kept hkeep =>
        cases htrace
        have heq : record.content = ip := not_not.mp fun hne => hkeep (hneeds.mpr hne)
        have hok : verifyDnsRecord ip record = .ok record := by
          simp [verifyDnsRecord, heq, hproxied]
        exact iff_of_true ⟨rfl, hok⟩ heq
  · intro c target canonical t s htarget h hlocal ht
    obtain ⟨tl, td, list, dns, lastSynced, -, hdns, rfl, rfl⟩ := refresh_returned h
    have hdnsRun := dnsRun_of_traces hdns
    rw [show list.localIp = some ip from hlocal] at hdnsRun
    apply hdnsRun.inSync_iff htarget ha
    intro e he
    exact ht e (List.mem_append_left _ (List.mem_append_right _ he))
  · rintro v rfl text htext hsync
    obtain ⟨_, -, -, -, -, rfl, -⟩ := husable
    exact eq_of_isInSync_v4 (strip_strip _) ha htext hsync

/-- A source that spells its address in upper case: the record that holds the
same address in lower case is rewritten, and with a zone that keeps addresses
the refresh reports it out of sync. -/
theorem uppercase_never_in_sync :
    let c : Coordinator :=
      ⟨"e", "home", "acc", "list", "sensor.ip", 2, some "vpn.example.org", some "zone"⟩
    let record : CloudflareDnsRecord :=
      ⟨"r", "vpn.example.org", "AAAA", "2001:db8::1", false, dnsRecordTtl, none⟩
    UsableSource (some "2001:DB8::1") "2001:DB8::1" ∧
      (ipAddress record.content).isSome ∧
      isInSync (some "2001:DB8::1") [record.content] = true ∧
      ∃ target, c.dnsTarget = some target ∧
        (∃ t out, (asyncUpsertDnsRecord target "2001:DB8::1").Traces
          (dnsReadEv target "2001:DB8::1" (.ok [record]) :: t) out ∧ t ≠ []) ∧
        ∃ t s, (asyncUpdateData c).Traces t (.ok s) ∧ s.localIp = some "2001:DB8::1" ∧
          (∀ e ∈ t, keepsAddresses IPAddress.canonical e = true) ∧ s.dnsInSync = some false := by
  intro c record
  let replies : Replies :=
    { source := some "2001:DB8::1", listItems := .ok [⟨"2001:db8::1", none, none⟩],
      replace := .ok "op", bulkOperation := (0, .ok ⟨"op", "completed", none⟩),
      ruleLists := .ok [], dnsRecords := .ok [record], dnsRecord := .ok record,
      now := (9 : ℕ), lastSynced := some (9 : ℕ) }
  let target : DnsTarget := ⟨"vpn.example.org", "zone", by decide, by decide⟩
  have hupsert := Prog.exec_traces (fun _ o => (replies.answer o, ()))
    (asyncUpsertDnsRecord target "2001:DB8::1") ()
  have hrefresh := Prog.exec_traces (fun _ o => (replies.answer o, ())) (asyncUpdateData c) ()
  have hsource : UsableSource (some "2001:DB8::1") "2001:DB8::1" :=
    ⟨"2001:DB8::1", rfl, by decide, by decide, by decide, by decide +kernel, by decide +kernel⟩
  refine ⟨hsource, by decide +kernel, by decide +kernel, target, rfl, ⟨_, _, hupsert, ?_⟩,
    ⟨_, ⟨some "2001:DB8::1", ["2001:db8::1"], true, some (9 : ℕ), none, some "vpn.example.org",
      none, some false, _⟩, hrefresh, rfl, ?_, rfl⟩⟩
  · exact List.cons_ne_nil _ _
  · decide +kernel

/-- The agreement theorem at the canonical spelling and at an IPv4 address. -/
theorem dns_half_agrees_canonical :
    let c : Coordinator :=
      ⟨"e", "home", "acc", "list", "sensor.ip", 2, some "vpn.example.org", some "zone"⟩
    (∃ t s, (asyncUpdateData c).Traces t (.ok s) ∧ s.localIp = some "2001:db8::1" ∧
      s.dnsInSync = some true) ∧
    (∀ text, (ipAddress text).isSome → isInSync (some "203.0.113.7") [text] = true →
      text = "203.0.113.7") := by
  intro c
  have hv6 : UsableSource (some " 2001:db8::1 ") "2001:db8::1" :=
    ⟨" 2001:db8::1 ", rfl, by decide, by decide, by decide, by decide +kernel, by decide +kernel⟩
  have hv4 : UsableSource (some "203.0.113.7") "203.0.113.7" :=
    ⟨"203.0.113.7", rfl, by decide, by decide, by decide, by decide +kernel, by decide +kernel⟩
  let record : CloudflareDnsRecord :=
    ⟨"r", "vpn.example.org", "AAAA", "2001:db8::1", false, dnsRecordTtl, none⟩
  let replies : Replies :=
    { source := some " 2001:db8::1 ", listItems := .ok [⟨"2001:db8::1", none, none⟩],
      replace := .ok "op", bulkOperation := (0, .ok ⟨"op", "completed", none⟩),
      ruleLists := .ok [], dnsRecords := .ok [], dnsRecord := .ok record,
      now := (9 : ℕ), lastSynced := some (9 : ℕ) }
  obtain ⟨-, hrefresh, -⟩ := dns_half_agrees_iff hv6
    (show ipAddress "2001:db8::1" = some (.v6 0x20010db8000000000000000000000001 none) by
      decide +kernel)
  obtain ⟨-, -, hunique⟩ := dns_half_agrees_iff hv4
    (show ipAddress "203.0.113.7" = some (.v4 0xcb007107) by decide +kernel)
  refine ⟨⟨_, ⟨some "2001:db8::1", ["2001:db8::1"], true, some (9 : ℕ), none,
    some "vpn.example.org", some "2001:db8::1", some true, none⟩,
    Prog.traces_of_exec (fun _ o => (replies.answer o, ())) () rfl (by decide +kernel), rfl, ?_⟩,
    hunique _ rfl⟩
  refine (hrefresh c ⟨"vpn.example.org", "zone", by decide, by decide⟩ IPAddress.canonical _ _ rfl
    (Prog.traces_of_exec (fun _ o => (replies.answer o, ())) () rfl
      (by decide +kernel)) rfl ?_).mpr ⟨by decide, by decide +kernel⟩
  decide +kernel

end CloudflareIpSync
