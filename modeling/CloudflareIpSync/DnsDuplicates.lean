/-
CloudflareIpSync/DnsDuplicates.lean

No duplicate DNS records, whatever requests are lost.

A create whose answer is lost is tried again, within the refresh and in later
ones.  It makes no second record since every attempt looks before it writes:
an attempt creates a record only where the zone has none of the type
(`Upserts`).  So the number of records of the hostname stays at most one or
what it was, and every record an attempt touched is as the last one wrote it
(`ZoneKept`).

A refresh that is still under way is covered as well: it could go on without
changing the zone any more, so what holds after complete refreshes holds of it.
-/
import CloudflareIpSync.AddressText
import CloudflareIpSync.DnsInSync
import CloudflareIpSync.WriteSafety

namespace CloudflareIpSync

open Interact Ipaddress

variable {c : Coordinator} {target : DnsTarget} {localIp : String} {zone zone' zone₀ : Zone}
  {sources : List String} {t : List Ev}

/-! ### Record types -/

/-- The record type of an address. -/
def addressType : IPAddress → String
  | .v4 _ => "A"
  | .v6 _ _ => "AAAA"

/-- The type the upsert chooses by looking for a colon is that of the address. -/
theorem recordType_eq {a : IPAddress} (ha : ipAddress localIp = some a) :
    recordType localIp = addressType a := by
  unfold recordType
  cases a with
  | v4 ip =>
      rw [if_neg]
      · rfl
      · intro hcolon
        rcases isDigit_or_dot_of_ipv4 (ipAddress_eq_v4 ha) hcolon with h | h
        · cases h
        · cases h
  | v6 ip scopeId =>
      rw [if_pos (colon_mem_of_v6 ha)]
      rfl

theorem addressType_cases (a : IPAddress) : addressType a = "A" ∨ addressType a = "AAAA" := by
  cases a
  · exact .inl rfl
  · exact .inr rfl

/-! ### What attempts keep -/

/-- A record as an attempt with one of the addresses leaves it. -/
structure Synced (target : DnsTarget) (sources : List String) (record : CloudflareDnsRecord) :
    Prop where
  name : record.name = target.recordName
  unproxied : record.proxied = false
  ttl : record.ttl = dnsRecordTtl
  content : record.content ∈ sources
  family : ∃ a, ipAddress record.content = some a ∧ record.type = addressType a

/-- What attempts with these addresses make of a zone. -/
structure ZoneKept (target : DnsTarget) (sources : List String) (zone₀ zone : Zone) : Prop where
  count : ∀ type, (zone.query target.recordName type).length ≤
    max 1 (zone₀.query target.recordName type).length
  written : ∀ r ∈ zone.records, r ∈ zone₀.records ∨ Synced target sources r
  kept : ∀ r₀ ∈ zone₀.records, ∃ r ∈ zone.records,
    r.id = r₀.id ∧ r.name = r₀.name ∧ r.type = r₀.type

theorem ZoneKept.refl : ZoneKept target sources zone zone where
  count _ := le_max_right _ _
  written _ hr := .inl hr
  kept r hr := ⟨r, hr, rfl, rfl, rfl⟩

/-- A record that is not an A or AAAA record of the hostname is still there. -/
theorem ZoneKept.others (h : ZoneKept target sources zone₀ zone) {r₀ : CloudflareDnsRecord}
    (hr₀ : r₀ ∈ zone₀.records)
    (hother : r₀.name ≠ target.recordName ∨ (r₀.type ≠ "A" ∧ r₀.type ≠ "AAAA")) :
    r₀ ∈ zone.records := by
  obtain ⟨r, hr, hid, hname, htype⟩ := h.kept r₀ hr₀
  rcases h.written r hr with hold | hsynced
  · rwa [← List.inj_on_of_nodup_map zone₀.nodup hold hr₀ hid]
  · obtain ⟨a, -, hfamily⟩ := hsynced.family
    rcases hother with hne | ⟨hA, hAAAA⟩
    · exact absurd (hname.symm.trans hsynced.name) hne
    · rw [← htype, hfamily] at hA hAAAA
      rcases addressType_cases a with h | h
      · exact absurd h hA
      · exact absurd h hAAAA

/-- **One attempt.** -/
theorem Upserts.zoneKept {a : IPAddress} (hkept : ZoneKept target sources zone₀ zone)
    (ha : ipAddress localIp = some a) (hsource : localIp ∈ sources)
    (h : Upserts target localIp zone zone') : ZoneKept target sources zone₀ zone' := by
  cases h with
  | unchanged => exact hkept
  | @created id fresh hnone =>
      -- a record is created only where there is none of its type
      constructor
      · intro type
        rw [Zone.query_create]
        by_cases htype : recordType localIp = type
        · rw [← htype, hnone, if_pos ⟨rfl, rfl⟩]
          exact le_max_left _ _
        · rw [if_neg (fun h => htype h.2), List.append_nil]
          exact hkept.count type
      · intro r hr
        rcases List.mem_append.mp hr with hr | hr
        · exact hkept.written r hr
        · rw [List.mem_singleton.mp hr]
          exact .inr ⟨rfl, rfl, rfl, hsource, a, ha, recordType_eq ha⟩
      · intro r₀ hr₀
        obtain ⟨r, hr, hsame⟩ := hkept.kept r₀ hr₀
        exact ⟨r, List.mem_append_left _ hr, hsame⟩
  | @updated record hfirst =>
      obtain ⟨hrecord, hname, htype⟩ := mem_of_first hfirst
      constructor
      · intro type
        rw [Zone.query_update, List.length_map]
        exact hkept.count type
      · intro r hr
        obtain ⟨r₁, hr₁, rfl⟩ := List.mem_map.mp hr
        by_cases hid : r₁.id = record.id
        · obtain rfl := List.inj_on_of_nodup_map zone.nodup hr₁ hrecord hid
          rw [if_pos rfl]
          exact .inr ⟨hname, rfl, rfl, hsource, a, ha, htype.trans (recordType_eq ha)⟩
        · rw [if_neg hid]
          exact hkept.written r₁ hr₁
      · intro r₀ hr₀
        obtain ⟨r, hr, hid, hname, htype⟩ := hkept.kept r₀ hr₀
        refine ⟨_, List.mem_map_of_mem hr, ?_⟩
        by_cases hwritten : r.id = record.id
        · rw [if_pos hwritten]
          exact ⟨hid, hname, htype⟩
        · rw [if_neg hwritten]
          exact ⟨hid, hname, htype⟩

theorem UpsertsMany.zoneKept {a : IPAddress} (hkept : ZoneKept target sources zone₀ zone)
    (ha : ipAddress localIp = some a) (hsource : localIp ∈ sources)
    (h : UpsertsMany target localIp zone zone') : ZoneKept target sources zone₀ zone' := by
  induction h with
  | refl => exact hkept
  | tail _ hstep ih => exact hstep.zoneKept ih ha hsource

/-! ### Refreshes -/

/-- The address a refresh read is an address. -/
theorem ipAddress_of_sourceIp {ip : String} (h : sourceIp t = some ip) :
    ∃ a, ipAddress ip = some a := by
  unfold sourceIp at h
  split at h
  · obtain ⟨_, -, -, -, -, -, hip⟩ := readSourceIp_eq_some_iff.mp h
    exact Option.isSome_iff_exists.mp hip
  · cases h

/-- A complete refresh. -/
theorem zoneKept_of_refresh {out : Except UpdateError SyncState}
    (htarget : c.dnsTarget = some target) (hkept : ZoneKept target sources zone₀ zone)
    (htraces : (asyncUpdateData c).Traces t out)
    (hpath : Path (ZoneStep target.zoneId) zone t zone')
    (hsource : ∀ ip, sourceIp t = some ip → ip ∈ sources) :
    ZoneKept target sources zone₀ zone' := by
  cases (refreshRun_of_traces htraces).zoneRun htarget hpath with
  | untouched hsame =>
      rw [hsame]
      exact hkept
  | attempted ip hip hmany =>
      obtain ⟨a, ha⟩ := ipAddress_of_sourceIp hip
      exact hmany.zoneKept hkept ha (hsource ip hip)

/-- From every zone, each request may be answered without changing it. -/
theorem zoneStep_unchanged (zoneId : String) (zone : Zone) (o : Action) :
    ∃ r, ZoneStep zoneId zone ⟨o, r⟩ zone := by
  let replies : Replies :=
    { source := none, listItems := .ok [], replace := .ok "op",
      bulkOperation := (0, .ok ⟨"op", "completed", none⟩), ruleLists := .ok [],
      dnsRecords := .ok [], dnsRecord := .error (.connection "timeout"), now := (0 : ℕ),
      lastSynced := none }
  by_cases hzone : o.dnsZone = some zoneId
  · cases o with
    | getDnsRecords =>
        obtain rfl := Option.some.inj hzone
        exact ⟨_, .query⟩
    | createDnsRecord =>
        obtain rfl := Option.some.inj hzone
        exact ⟨.error (.connection "timeout"), .createFailed⟩
    | updateDnsRecord =>
        obtain rfl := Option.some.inj hzone
        exact ⟨.error (.connection "timeout"), .updateFailed⟩
    | _ => cases hzone
  · exact ⟨replies.answer o, .other hzone⟩

/-- A refresh under way can be completed without changing the zone any more. -/
theorem exists_completion {rest : Coro (Except UpdateError SyncState)}
    (hsteps : (asyncUpdateData c).Steps t rest) (zone : Zone) (zoneId : String) :
    ∃ t' out, (asyncUpdateData c).Traces (t ++ t') out ∧ Path (ZoneStep zoneId) zone t' zone := by
  obtain ⟨t', out, zone', htraces, hpath⟩ := Prog.exists_run
    (E := fun z e z' => z' = z ∧ ZoneStep zoneId z e z) (fun z o => by
      obtain ⟨r, hr⟩ := zoneStep_unchanged zoneId z o
      exact ⟨r, z, rfl, hr⟩) rest zone
  refine ⟨t', out, hsteps.append htraces, ?_⟩
  have hsame : zone' = zone := by
    refine hpath.preserves (I := fun z => z = zone) rfl ?_
    rintro z e z' - rfl ⟨rfl, -⟩
    rfl
  rw [hsame] at hpath
  apply hpath.mono
  rintro z e z' ⟨rfl, hstep⟩
  exact hstep

/-- The DNS requests of a refresh go to the configured zone. -/
theorem dnsZone_of_refresh {rest : Coro (Except UpdateError SyncState)}
    (htarget : c.dnsTarget = some target) (hsteps : (asyncUpdateData c).Steps t rest) :
    ∀ e ∈ t, ∀ zoneId, e.1.dnsZone = some zoneId → zoneId = target.zoneId := by
  let P : Action → Prop := fun o => ∀ zoneId, o.dnsZone = some zoneId → zoneId = target.zoneId
  have none_of : ∀ {o : Action}, o.dnsZone = none → P o := by
    intro o ho zoneId hzone
    rw [ho] at hzone
    cases hzone
  have hdns : ∀ localIp, (asyncReconcileDns c localIp).Emits P := by
    intro localIp
    refine emits_reconcileDns_of_upsert ?_ (fun _ => none_of rfl) (fun _ _ => none_of rfl)
      (none_of rfl)
    intro target' ip htarget' _
    obtain rfl : target = target' := Option.some.inj (htarget.symm.trans htarget')
    have own : ∀ zoneId, some target.zoneId = some zoneId → zoneId = target.zoneId :=
      fun zoneId h => (Option.some.inj h).symm
    exact emits_asyncUpsertDnsRecord own own fun _ => own
  have hemits : (asyncUpdateData c).Emits P := by
    apply ((emits_asyncUpdateList c).mono fun o ho => none_of (dnsZone_of_inListHalf ho)).bind
    rintro (err | list)
    · trivial
    · apply (hdns list.localIp).bind
      rintro ⟨dnsRecordIp, dnsInSync, dnsLastError⟩
      exact ⟨none_of rfl, fun _ => trivial⟩
  exact (hemits.steps hsteps).1

/-! ### Whole runs -/

/-- The source IPs that refreshes with these traces read. -/
def sourceIps (traces : List (List Ev)) : List String := traces.filterMap sourceIp

/-- **No duplicate records.**  Start anywhere, run any number of refreshes, and
stop anywhere in a further one.  For both types the hostname has at most one
record, or as many as at the start.  Every record that is not as it was has the
hostname, a source IP of the run of its own family, TTL 60, and is not proxied.
No record is gone, and the others are as they were.  All DNS requests are for the
configured zone. -/
theorem no_duplicate_records {rounds : List ZoneRound} {rest : Coro (Except UpdateError SyncState)}
    (htarget : c.dnsTarget = some target)
    (hsession : Prog.Session (ZoneStep target.zoneId) (asyncUpdateData c) zone₀ rounds zone)
    (hsteps : (asyncUpdateData c).Steps t rest)
    (hpath : Path (ZoneStep target.zoneId) zone t zone') :
    (∀ type, type = "A" ∨ type = "AAAA" → (zone'.query target.recordName type).length ≤
        max 1 (zone₀.query target.recordName type).length) ∧
      (∀ r ∈ zone'.records,
        r ∈ zone₀.records ∨ Synced target (sourceIps (rounds.map (·.trace) ++ [t])) r) ∧
      (∀ r₀ ∈ zone₀.records, ∃ r ∈ zone'.records,
        r.id = r₀.id ∧ r.name = r₀.name ∧ r.type = r₀.type) ∧
      (∀ r₀ ∈ zone₀.records, r₀.name ≠ target.recordName ∨ (r₀.type ≠ "A" ∧ r₀.type ≠ "AAAA") →
        r₀ ∈ zone'.records) ∧
      ∀ u ∈ rounds.map (·.trace) ++ [t], ∀ e ∈ u, ∀ zoneId, e.1.dnsZone = some zoneId →
        zoneId = target.zoneId := by
  have hread : ∀ u ∈ rounds.map (·.trace) ++ [t], ∀ ip, sourceIp u = some ip →
      ip ∈ sourceIps (rounds.map (·.trace) ++ [t]) :=
    fun u hu ip hip => List.mem_filterMap.mpr ⟨u, hu, hip⟩
  have hbefore : ZoneKept target (sourceIps (rounds.map (·.trace) ++ [t])) zone₀ zone := by
    apply hsession.preserves (I := ZoneKept target _ zone₀) .refl
    rintro z round z' hmem hkept ⟨htraces, hround, -⟩
    apply zoneKept_of_refresh htarget hkept htraces hround
    exact hread _ (List.mem_append_left _ (List.mem_map_of_mem hmem))
  have hkept : ZoneKept target (sourceIps (rounds.map (·.trace) ++ [t])) zone₀ zone' := by
    rcases t with - | ⟨e, t⟩
    · rwa [path_nil_iff.mp hpath]
    · -- what it has read so far is what the completed refresh has read
      obtain ⟨t', out, htraces, hrest⟩ := exists_completion hsteps zone' target.zoneId
      apply zoneKept_of_refresh htarget hbefore htraces (hpath.append hrest)
      have hsource : sourceIp (e :: t ++ t') = sourceIp (e :: t) := by
        obtain ⟨action, answer⟩ := e
        cases action <;> rfl
      rw [hsource]
      exact hread _ (List.mem_append_right _ (List.mem_singleton_self _))
  refine ⟨fun type _ => hkept.count type, hkept.written, hkept.kept, fun r₀ => hkept.others, ?_⟩
  intro u hu
  rcases List.mem_append.mp hu with hu | hu
  · obtain ⟨round, hround, rfl⟩ := List.mem_map.mp hu
    exact dnsZone_of_refresh htarget (hsession.traces round hround)
  · rw [List.mem_singleton.mp hu]
    exact dnsZone_of_refresh htarget hsteps

/-- A zone that applies creates and loses the answer. -/
def Zone.serveLossy (replies : Replies) (zoneId newId : String) (zone : Zone) :
    (o : Action) → o.Res × Zone
  | .createDnsRecord id body =>
      (.error (.connection "timeout"),
        (zone.serve replies zoneId newId (.createDnsRecord id body)).2)
  | o => zone.serve replies zoneId newId o

theorem zoneStep_serveLossy (replies : Replies) (zoneId newId : String) (zone : Zone) (o : Action) :
    ZoneStep zoneId zone ⟨o, (zone.serveLossy replies zoneId newId o).1⟩
      (zone.serveLossy replies zoneId newId o).2 := by
  have hserve := zoneStep_serve replies zoneId newId zone o
  cases o with
  | createDnsRecord id body =>
      generalize (zone.serve replies zoneId newId (.createDnsRecord id body)).1 = answer at hserve
      show ZoneStep zoneId zone ⟨.createDnsRecord id body, .error (.connection "timeout")⟩
        (zone.serve replies zoneId newId (.createDnsRecord id body)).2
      generalize (zone.serve replies zoneId newId (.createDnsRecord id body)).2 = zone' at hserve
      cases hserve with
      | created fresh => exact .createdLost fresh
      | createdLost fresh => exact .createdLost fresh
      | createFailed => exact .createFailed
      | other hother => exact .other hother
  | _ => exact hserve

/-- The answer to the create is lost, and the refresh tries again: there is one
record, and it is as it should be. -/
theorem no_duplicate_records_lost :
    let c : Coordinator :=
      ⟨"e", "home", "acc", "list", "sensor.ip", 5, some "vpn.example.org", some "zone"⟩
    let target : DnsTarget := ⟨"vpn.example.org", "zone", by decide, by decide⟩
    let replies : Replies :=
      { source := some "203.0.113.7", listItems := .ok [⟨"203.0.113.7", none, none⟩],
        replace := .ok "op", bulkOperation := (0, .ok ⟨"op", "completed", none⟩),
        ruleLists := .ok [], dnsRecords := .ok [], dnsRecord := .error (.connection "timeout"),
        now := (9 : ℕ), lastSynced := some (9 : ℕ) }
    let round := (asyncUpdateData c).exec (Zone.serveLossy replies "zone" "r") ⟨[], by decide⟩
    (round.after.query "vpn.example.org" "A").length ≤ 1 ∧
      ∀ r ∈ round.after.records, Synced target ["203.0.113.7"] r := by
  intro c target replies round
  have hround := Prog.exec_round (zoneStep_serveLossy replies "zone" "r") (asyncUpdateData c)
    ⟨[], by decide⟩
  have htarget : c.dnsTarget = some target := rfl
  obtain ⟨hcount, hwritten, -⟩ := no_duplicate_records htarget (.single hround) (.nil _) (.nil _)
  have hsources : sourceIps ([round].map (·.trace) ++ [[]]) = ["203.0.113.7"] := by decide +kernel
  refine ⟨hcount "A" (.inl rfl), ?_⟩
  intro r hr
  rw [← hsources]
  exact (hwritten r hr).resolve_left List.not_mem_nil

end CloudflareIpSync
