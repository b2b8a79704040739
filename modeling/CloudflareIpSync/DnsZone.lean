/-
CloudflareIpSync/DnsZone.lean

The zone behind the DNS half, and what an upsert does to it.

A zone is a list of records with distinct ids.  It applies creates and updates
exactly as sent and answers a query from its contents.  Any request may also
report an error, a write with or without having taken effect.

`Upserts` lists what one attempt can do to the zone: nothing, create a record
where none of the type exists, or rewrite the first one of the type.
-/
import CloudflareIpSync.Refresh
import Mathlib.Data.List.Nodup

namespace CloudflareIpSync

open Interact

/-! ### The zone -/

/-- The records of a zone. -/
structure Zone where
  records : List CloudflareDnsRecord
  nodup : (records.map (·.id)).Nodup

/-- The record a create request makes, under the id the server gives it. -/
def DnsRecordBody.record (body : DnsRecordBody) (id : String) : CloudflareDnsRecord :=
  ⟨id, body.name, body.type, body.content, body.proxied, body.ttl, some body.comment⟩

/-- A record as an update request leaves it. -/
def DnsRecordPatch.apply (patch : DnsRecordPatch) (record : CloudflareDnsRecord) :
    CloudflareDnsRecord :=
  { record with content := patch.content, proxied := patch.proxied, ttl := patch.ttl,
                comment := some patch.comment }

namespace Zone

/-- The records of a name and a type, in the zone's order. -/
def query (zone : Zone) (name recordType : String) : List CloudflareDnsRecord :=
  zone.records.filter fun record => record.name = name ∧ record.type = recordType

/-- The zone with one more record. -/
def create (zone : Zone) (body : DnsRecordBody) (id : String)
    (fresh : id ∉ zone.records.map (·.id)) : Zone where
  records := zone.records ++ [body.record id]
  nodup := by
    rw [List.map_append, List.nodup_append]
    refine ⟨zone.nodup, by simp, ?_⟩
    rintro a ha b hb rfl
    rw [List.map_singleton, List.mem_singleton] at hb
    rw [hb] at ha
    exact fresh ha

/-- The zone with the record of an id rewritten. -/
def update (zone : Zone) (id : String) (patch : DnsRecordPatch) : Zone where
  records := zone.records.map fun record => if record.id = id then patch.apply record else record
  nodup := by
    have hids : (zone.records.map fun record =>
        if record.id = id then patch.apply record else record).map (·.id) =
          zone.records.map (·.id) := by
      rw [List.map_map]
      apply List.map_congr_left
      intro record _
      by_cases hid : record.id = id <;> simp [hid, DnsRecordPatch.apply]
    rw [hids]
    exact zone.nodup

variable {zone : Zone} {name recordType id : String} {body : DnsRecordBody} {patch : DnsRecordPatch}

theorem mem_query {record : CloudflareDnsRecord} :
    record ∈ zone.query name recordType ↔
      record ∈ zone.records ∧ record.name = name ∧ record.type = recordType := by
  simp [query]

theorem query_create {fresh : id ∉ zone.records.map (·.id)} :
    (zone.create body id fresh).query name recordType =
      zone.query name recordType ++
        if body.name = name ∧ body.type = recordType then [body.record id] else [] := by
  show List.filter _ (zone.records ++ [body.record id]) = _
  rw [List.filter_append]
  congr 1
  by_cases h : body.name = name ∧ body.type = recordType
  · simp [DnsRecordBody.record, h]
  · rw [if_neg h]
    simpa [DnsRecordBody.record] using h

/-- An update changes neither the name nor the type of a record. -/
theorem query_update :
    (zone.update id patch).query name recordType =
      (zone.query name recordType).map fun record =>
        if record.id = id then patch.apply record else record := by
  show List.filter _ (zone.records.map _) = _
  rw [List.filter_map]
  congr 1
  apply List.filter_congr
  intro record _
  by_cases hid : record.id = id <;> simp [hid, DnsRecordPatch.apply]

end Zone

/-- One action against the zone. -/
inductive ZoneStep (zoneId : String) : Zone → Ev → Zone → Prop
  | query {zone name recordType} :
      ZoneStep zoneId zone ⟨.getDnsRecords zoneId name recordType,
        .ok (zone.query name recordType)⟩ zone
  | queryFailed {zone name recordType err} :
      ZoneStep zoneId zone ⟨.getDnsRecords zoneId name recordType, .error err⟩ zone
  | created {zone body id} (fresh : id ∉ zone.records.map (·.id)) :
      ZoneStep zoneId zone ⟨.createDnsRecord zoneId body, .ok (body.record id)⟩
        (zone.create body id fresh)
  | createdLost {zone body id err} (fresh : id ∉ zone.records.map (·.id)) :
      ZoneStep zoneId zone ⟨.createDnsRecord zoneId body, .error err⟩ (zone.create body id fresh)
  | createFailed {zone body err} :
      ZoneStep zoneId zone ⟨.createDnsRecord zoneId body, .error err⟩ zone
  | updated {zone record id patch} : record ∈ zone.records → record.id = id →
      ZoneStep zoneId zone ⟨.updateDnsRecord zoneId id patch, .ok (patch.apply record)⟩
        (zone.update id patch)
  | updatedLost {zone record id patch err} : record ∈ zone.records → record.id = id →
      ZoneStep zoneId zone ⟨.updateDnsRecord zoneId id patch, .error err⟩ (zone.update id patch)
  | updateFailed {zone id patch err} :
      ZoneStep zoneId zone ⟨.updateDnsRecord zoneId id patch, .error err⟩ zone
  | other {zone e} : e.1.dnsZone ≠ some zoneId → ZoneStep zoneId zone e zone

/-- A zone that never fails, next to replies that never change.  The record it
creates gets the given id. -/
def Zone.serve (replies : Replies) (zoneId newId : String) (zone : Zone) (o : Action) :
    o.Res × Zone :=
  if o.dnsZone = some zoneId then
    match o with
    | .getDnsRecords _ name recordType => (.ok (zone.query name recordType), zone)
    | .createDnsRecord _ body =>
        if fresh : newId ∉ zone.records.map (·.id) then
          (.ok (body.record newId), zone.create body newId fresh)
        else (.error (.api "id taken" none), zone)
    | .updateDnsRecord _ id patch =>
        match zone.records.find? fun record => record.id = id with
        | some record => (.ok (patch.apply record), zone.update id patch)
        | none => (.error (.api "no such record" none), zone)
    | o => (replies.answer o, zone)
  else (replies.answer o, zone)

theorem zoneStep_serve (replies : Replies) (zoneId newId : String) (zone : Zone) (o : Action) :
    ZoneStep zoneId zone ⟨o, (zone.serve replies zoneId newId o).1⟩
      (zone.serve replies zoneId newId o).2 := by
  unfold Zone.serve
  by_cases hzone : o.dnsZone = some zoneId
  · rw [if_pos hzone]
    cases o with
    | getDnsRecords =>
        obtain rfl := Option.some.inj hzone
        exact .query
    | createDnsRecord _ body =>
        obtain rfl := Option.some.inj hzone
        by_cases fresh : newId ∉ zone.records.map (·.id)
        · simp only [dif_pos fresh]
          exact .created fresh
        · simp only [dif_neg fresh]
          exact .createFailed
    | updateDnsRecord _ id patch =>
        obtain rfl := Option.some.inj hzone
        rcases e : zone.records.find? fun record => record.id = id with - | record
        · simp only [e]
          exact .updateFailed
        · simp only [e]
          exact .updated (List.mem_of_find?_eq_some e) (by simpa using List.find?_some e)
    | _ => cases hzone
  · rw [if_neg hzone]
    exact .other hzone

/-! ### What an attempt does to it -/

/-- What one attempt can do to the zone. -/
inductive Upserts (target : DnsTarget) (localIp : String) (zone : Zone) : Zone → Prop
  | unchanged : Upserts target localIp zone zone
  | created {id} (fresh : id ∉ zone.records.map (·.id)) :
      zone.query target.recordName (recordType localIp) = [] →
      Upserts target localIp zone (zone.create (dnsBody target localIp) id fresh)
  | updated {record} :
      (zone.query target.recordName (recordType localIp)).head? = some record →
      Upserts target localIp zone (zone.update record.id (dnsPatch record localIp))

/-- The record of the target that a reader of the zone sees first. -/
def Zone.first (zone : Zone) (target : DnsTarget) (localIp : String) : Option CloudflareDnsRecord :=
  (zone.query target.recordName (recordType localIp)).head?

variable {target : DnsTarget} {localIp : String} {zone zone' : Zone}

theorem mem_of_first {record : CloudflareDnsRecord}
    (h : zone.first target localIp = some record) :
    record ∈ zone.records ∧ record.name = target.recordName ∧
      record.type = recordType localIp :=
  Zone.mem_query.mp (List.mem_of_head? h)

theorem first_create {id : String} {fresh : id ∉ zone.records.map (·.id)}
    (hnone : zone.query target.recordName (recordType localIp) = []) :
    (zone.create (dnsBody target localIp) id fresh).first target localIp =
      some ((dnsBody target localIp).record id) := by
  rw [Zone.first, Zone.query_create, hnone, if_pos ⟨rfl, rfl⟩]
  rfl

theorem first_update {record : CloudflareDnsRecord} {patch : DnsRecordPatch}
    (hfirst : zone.first target localIp = some record) :
    (zone.update record.id patch).first target localIp = some (patch.apply record) := by
  rw [Zone.first, Zone.query_update, List.head?_map]
  show Option.map _ (zone.first target localIp) = _
  rw [hfirst]
  simp

/-- An attempt that got an answer to its query got the zone's records. -/
theorem zone_of_query {records : List CloudflareDnsRecord} {t : List Ev}
    (h : Path (ZoneStep target.zoneId) zone (dnsReadEv target localIp (.ok records) :: t) zone') :
    zone.query target.recordName (recordType localIp) = records ∧
      Path (ZoneStep target.zoneId) zone t zone' := by
  rw [path_cons_iff] at h
  obtain ⟨s, hstep, h⟩ := h
  cases hstep with
  | query => exact ⟨rfl, h⟩
  | other hother => exact absurd rfl hother

/-- **One attempt.** It does one of the three things to the zone, and a record
it returns is then the first of its type. -/
theorem UpsertRun.upserts {t : List Ev} {out : Except SyncError CloudflareDnsRecord}
    (h : UpsertRun target localIp t out) (hpath : Path (ZoneStep target.zoneId) zone t zone') :
    Upserts target localIp zone zone' ∧
      ∀ record, out = .ok record → zone'.first target localIp = some record := by
  cases h with
  | readRaised =>
      have hstep := path_single_iff.mp hpath
      cases hstep with
      | queryFailed => exact ⟨.unchanged, by rintro _ ⟨⟩⟩
      | other hother => exact absurd rfl hother
  | createRaised =>
      -- a create that reported an error may have taken effect
      obtain ⟨hnone, hpath⟩ := zone_of_query hpath
      have hstep := path_single_iff.mp hpath
      cases hstep with
      | createdLost fresh => exact ⟨.created fresh hnone, by rintro _ ⟨⟩⟩
      | createFailed => exact ⟨.unchanged, by rintro _ ⟨⟩⟩
      | other hother => exact absurd rfl hother
  | created record =>
      obtain ⟨hnone, hpath⟩ := zone_of_query hpath
      have hstep := path_single_iff.mp hpath
      cases hstep with
      | created fresh =>
          refine ⟨.created fresh hnone, ?_⟩
          intro record' hok
          rw [(verifyDnsRecord_ok hok).1]
          exact first_create hnone
      | other hother => exact absurd rfl hother
  | @updateRaised record rest err hneeds =>
      obtain ⟨hquery, hpath⟩ := zone_of_query hpath
      have hfirst : zone.first target localIp = some record := by rw [Zone.first, hquery]; rfl
      have hstep := path_single_iff.mp hpath
      cases hstep with
      | updatedLost => exact ⟨.updated hfirst, by rintro _ ⟨⟩⟩
      | updateFailed => exact ⟨.unchanged, by rintro _ ⟨⟩⟩
      | other hother => exact absurd rfl hother
  | @updated record rest record' hneeds =>
      obtain ⟨hquery, hpath⟩ := zone_of_query hpath
      have hfirst : zone.first target localIp = some record := by rw [Zone.first, hquery]; rfl
      have hstep := path_single_iff.mp hpath
      cases hstep with
      | updated hfound hid =>
          -- there is only one record of that id
          obtain rfl := List.inj_on_of_nodup_map zone.nodup hfound (mem_of_first hfirst).1 hid
          refine ⟨.updated hfirst, ?_⟩
          intro record' hok
          rw [(verifyDnsRecord_ok hok).1]
          exact first_update hfirst
      | other hother => exact absurd rfl hother
  | @kept record rest hkeep =>
      -- nothing was sent after the query
      obtain ⟨hquery, hpath⟩ := zone_of_query hpath
      rw [path_nil_iff.mp hpath]
      refine ⟨.unchanged, ?_⟩
      intro record' hok
      rw [(verifyDnsRecord_ok hok).1, Zone.first, hquery]
      rfl

end CloudflareIpSync
