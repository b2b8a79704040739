/-
CloudflareIpSync/OptionsFlow.lean

The options flow of `config_flow.py`: one form for the retries, the interval and
the DNS record.  A hostname is stored with the zone that owns it, which the flow
looks for among the zones of the client; an empty one switches the feature off.
The coordinator reads what is stored here when the entry is set up again
(`configEntry`).
-/
import CloudflareIpSync.SetupFlow
import CloudflareIpSync.Text
import CloudflareIpSync.ConfigFlow
import Mathlib.Data.List.MinMax

namespace CloudflareIpSync.Flow

open Interact Python Client Client.CloudflareClient

def confMaxRetries : String := "max_retries"

def confReconcileInterval : String := "reconcile_interval"

def confDnsRecordName : String := "dns_record_name"

/-- `DEFAULT_RECONCILE_INTERVAL`, in minutes. -/
def defaultReconcileInterval : ℚ := 30

/-- The options of an entry: each may be missing. -/
structure Options where
  maxRetries : Option ℤ := none
  reconcileInterval : Option ℤ := none
  dnsRecordName : Option String := none
  dnsZoneId : Option String := none
  dnsZoneName : Option String := none
  deriving DecidableEq

/-- What was submitted.  The number selectors let numbers through, which are
floats; the text field is optional. -/
structure OptionsInput where
  maxRetries : ℚ
  reconcileInterval : ℚ
  dnsRecordName : Option String

/-- What the flow returns. -/
inductive OptionsResult
  | showForm (fields : List Field) (errors : List (String × String))
  | createEntry (options : Options)
  deriving DecidableEq

/-- The schema of the form, with the current options as defaults. -/
def optionsFields (current : Options) : List Field :=
  [{ key := confMaxRetries
     required := true
     default := some ((current.maxRetries.map (↑)).getD defaultMaxRetries)
     selector := .number 0 10 none },
   { key := confReconcileInterval
     required := true
     default := some ((current.reconcileInterval.map (↑)).getD defaultReconcileInterval)
     selector := .number 1 1440 (some "min") },
   { key := confDnsRecordName
     required := false
     suggestedValue := some (current.dnsRecordName.getD "")
     selector := .text false }]

/-- `record_name` in `async_step_init`. -/
def OptionsInput.recordName (input : OptionsInput) : String :=
  lower (stripChars ". " (input.dnsRecordName.getD ""))

/-- Whether `_async_find_zone` takes a zone for one that owns the record. -/
def owns (recordName : String) (zone : CloudflareZone) : Bool :=
  recordName == zone.name || endswith recordName ("." ++ zone.name)

/-- The zone that `_async_find_zone` returns; of several ones with the longest
name, `max` takes the first. -/
def findZone (zones : List CloudflareZone) (recordName : String) : Option CloudflareZone :=
  (zones.filter (owns recordName)).argmax fun zone => zone.name.length

/-- `_async_find_zone`. -/
def asyncFindZone (token recordName : String) :
    Step (Except ClientExc (Option CloudflareZone)) := do
  match ← Prog.call (FlowCall.getZones token) with
  | .error exc => return .error exc
  | .ok zones => return .ok (findZone zones recordName)

/-- `options` in `async_step_init`, without a DNS record. -/
def OptionsInput.options (input : OptionsInput) : Options where
  maxRetries := some (pyInt input.maxRetries)
  reconcileInterval := some (pyInt input.reconcileInterval)

/-- `options` with the DNS record and its zone. -/
def OptionsInput.optionsIn (input : OptionsInput) (zone : CloudflareZone) : Options :=
  { input.options with
    dnsRecordName := some input.recordName
    dnsZoneId := some zone.id
    dnsZoneName := some zone.name }

/-- `async_step_init`, for an entry with a token and its current options. -/
def asyncStepInit (token : String) (current : Options) (userInput : Option OptionsInput) :
    Step (Except ClientExc OptionsResult) := do
  match userInput with
  | none => return .ok (.showForm (optionsFields current) [])
  | some input =>
      if input.recordName = "" then return .ok (.createEntry input.options)
      else
        match ← asyncFindZone token input.recordName with
        | .error (.cloudflare err) =>
            return .ok (.showForm (optionsFields current) [("base", errorKey err)])
        | .error exc => return .error exc
        | .ok none =>
            return .ok (.showForm (optionsFields current)
              [(confDnsRecordName, "dns_zone_not_found")])
        | .ok (some zone) => return .ok (.createEntry (input.optionsIn zone))

/-- What the coordinator reads of an entry with data and options. -/
def configEntry (entryId title : String) (data : EntryData) (options : Options) :
    ConfigEntry where
  entryId := entryId
  title := title
  accountId := data.accountId
  listId := data.listId
  sourceEntityId := data.sourceEntityId
  maxRetries := options.maxRetries.map (↑)
  dnsRecordName := options.dnsRecordName
  dnsZoneId := options.dnsZoneId

end CloudflareIpSync.Flow
