/-
CloudflareIpSync/Diagnostics.lean

The diagnostics of a config entry: what of the entry and of its coordinator a
user downloads.

Redacting is Home Assistant's (`async_redact_data`).  It is an argument here, of
which `Redacts` says what is documented: a value under one of the given keys is
replaced, unless it is `None` or empty.  The interval is an integer number of
minutes, as the options flow stores it.
-/
import CloudflareIpSync.OptionsFlow

namespace CloudflareIpSync

open Python CloudflareIpSync.Flow

/-- `TO_REDACT`. -/
def toRedact : List String := [confApiToken]

/-- What a coordinator has published: `data` and `last_update_success` of
`DataUpdateCoordinator`. -/
structure Published where
  data : Option SyncState := none
  lastUpdateSuccess : Bool := true

/-- `dict(entry.data)`. -/
def dataDict (data : EntryData) : Dict :=
  [(confApiToken, .str data.apiToken), (confAccountId, .str data.accountId),
    ("account_name", .str data.accountName), (confListId, .str data.listId),
    ("list_name", .str data.listName), (confSourceEntityId, .str data.sourceEntityId)]

/-- `dict(entry.options)`. -/
def optionsDict (options : Options) : Dict :=
  (options.maxRetries.map fun n => (confMaxRetries, Json.int n)).toList ++
    (options.reconcileInterval.map fun n => (confReconcileInterval, Json.int n)).toList ++
    (options.dnsRecordName.map fun name => (confDnsRecordName, Json.str name)).toList ++
    (options.dnsZoneId.map fun id => ("dns_zone_id", Json.str id)).toList ++
    (options.dnsZoneName.map fun name => ("dns_zone_name", Json.str name)).toList

/-- `update_interval.total_seconds() / 60`, unless the interval is none. -/
def updateIntervalMinutes (options : Options) : Json :=
  let minutes := (options.reconcileInterval.map (↑)).getD defaultReconcileInterval
  if minutes = 0 then .null else .float (.finite minutes)

/-- `None` or a text. -/
def jsonText (text : Option String) : Json := text.elim .null .str

/-- The `sync_state` of the diagnostics. -/
def syncStateDict (isoformat : Datetime → String) (data : Option SyncState) : Dict :=
  [("local_ip", jsonText (data.bind (·.localIp))),
    ("cloudflare_ips", .arr ((data.elim [] (·.cloudflareIps)).map .str)),
    ("in_sync", data.elim .null fun data => .bool data.inSync),
    ("last_synced", jsonText ((data.bind (·.lastSynced)).map isoformat)),
    ("last_error", jsonText (data.bind (·.lastError))),
    ("dns_record_name", jsonText (data.bind (·.dnsRecordName))),
    ("dns_record_ip", jsonText (data.bind (·.dnsRecordIp))),
    ("dns_in_sync", (data.bind (·.dnsInSync)).elim .null .bool),
    ("dns_last_error", jsonText (data.bind (·.dnsLastError)))]

/-- `async_get_config_entry_diagnostics`, given the version of the integration
and how a time is printed. -/
def asyncGetConfigEntryDiagnostics (redact : Dict → List String → Dict)
    (integrationVersion : Json) (isoformat : Datetime → String) (data : EntryData)
    (options : Options) (published : Published) : Dict :=
  [("integration_version", integrationVersion),
    ("entry_data", .obj (redact (dataDict data) toRedact)),
    ("entry_options", .obj (optionsDict options)),
    ("coordinator", .obj [("last_update_success", .bool published.lastUpdateSuccess),
      ("update_interval_minutes", updateIntervalMinutes options)]),
    ("sync_state", .obj (syncStateDict isoformat published.data))]

/-- Two items of a dictionary that redacting makes equal. -/
def RedactedAlike (keys : List String) (a b : String × Json) : Prop :=
  a.1 = b.1 ∧ (a.2 = b.2 ∨ a.1 ∈ keys ∧ a.2.truthy = true ∧ b.2.truthy = true)

/-- What `async_redact_data` is for. -/
def Redacts (redact : Dict → List String → Dict) : Prop :=
  ∀ keys data data', List.Forall₂ (RedactedAlike keys) data data' →
    redact data keys = redact data' keys

/-- The data of an entry with another token. -/
def withApiToken (data : EntryData) (apiToken : String) : EntryData :=
  { data with apiToken := apiToken }

/-- **Redaction.** The diagnostics of two entries that differ in their tokens
are the same. -/
theorem diagnostics_withApiToken {redact : Dict → List String → Dict} (hredact : Redacts redact)
    {data : EntryData} {apiToken : String} (hold : data.apiToken ≠ "") (hnew : apiToken ≠ "")
    (version : Json) (isoformat : Datetime → String) (options : Options) (published : Published) :
    asyncGetConfigEntryDiagnostics redact version isoformat (withApiToken data apiToken) options
        published =
      asyncGetConfigEntryDiagnostics redact version isoformat data options published := by
  have hitem : RedactedAlike toRedact (confApiToken, .str apiToken)
      (confApiToken, .str data.apiToken) := by
    refine ⟨rfl, .inr ⟨List.mem_singleton_self _, ?_, ?_⟩⟩
    · simpa [Json.truthy] using hnew
    · simpa [Json.truthy] using hold
  have hsame : ∀ item : String × Json, RedactedAlike toRedact item item :=
    fun _ => ⟨rfl, .inl rfl⟩
  have hdata : redact (dataDict (withApiToken data apiToken)) toRedact =
      redact (dataDict data) toRedact :=
    hredact _ _ _ (.cons hitem (List.forall₂_same.mpr fun item _ => hsame item))
  rw [asyncGetConfigEntryDiagnostics, hdata]
  rfl

end CloudflareIpSync
