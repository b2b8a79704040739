/-
CloudflareIpSync/Api.lean

The constants of `const.py` and the typed view of Cloudflare that `api.py`
gives the rest of the integration: its error classes, its data models, and the
body of the one request that writes the Rule List.

The error classes are one inductive type, a constructor a class, each carrying
the message that `str(err)` prints.  The base class `CloudflareError` is never
raised itself.
-/
import Mathlib.Data.Rat.Floor

namespace CloudflareIpSync

/-! ### Constants -/

def domain : String := "cloudflare_ip_sync"

/-- `CONF_MAX_RETRIES` when the options do not set it. -/
def defaultMaxRetries : ℚ := 5

/-- TTL of the synced DNS record, in seconds. -/
def dnsRecordTtl : ℤ := 60

def listItemComment : String := "Managed by Home Assistant (cloudflare_ip_sync)"

def dnsRecordComment : String := "Managed by Home Assistant (cloudflare_ip_sync)"

/-- Seconds between two polls of a bulk operation. -/
def bulkOperationPollInterval : ℕ := 2

/-- Seconds a sync attempt waits for its bulk operation. -/
def bulkOperationTimeout : ℕ := 30

/-- Seconds before the second sync attempt. -/
def syncInitialBackoff : ℕ := 5

/-- The most seconds between two sync attempts. -/
def syncMaxBackoff : ℕ := 60

/-! ### Errors -/

/-- The classes below `CloudflareError`. -/
inductive CloudflareError
  | connection (message : String)
  | auth (message : String)
  | rateLimit (message : String)
  | api (message : String) (code : Option ℤ)
  | result (message : String)
  deriving DecidableEq

/-- `str(err)`. -/
def CloudflareError.str : CloudflareError → String
  | connection message => message
  | auth message => message
  | rateLimit message => message
  | api message _ => message
  | result message => message

/-- `isinstance(err, CloudflareAuthError)`. -/
def CloudflareError.isAuth : CloudflareError → Bool
  | auth _ => true
  | _ => false

/-! ### Data models -/

structure CloudflareRuleList where
  id : String
  name : String
  kind : String
  numItems : ℤ
  description : Option String
  deriving DecidableEq

structure CloudflareListItem where
  ip : String
  id : Option String
  comment : Option String
  deriving DecidableEq

structure CloudflareDnsRecord where
  id : String
  name : String
  type : String
  content : String
  proxied : Bool
  ttl : ℤ
  comment : Option String
  deriving DecidableEq

structure CloudflareBulkOperation where
  id : String
  status : String
  error : Option String
  deriving DecidableEq

/-- `CloudflareBulkOperation.is_complete`. -/
def CloudflareBulkOperation.isComplete (operation : CloudflareBulkOperation) : Bool :=
  operation.status == "completed"

/-- `CloudflareBulkOperation.is_failed`. -/
def CloudflareBulkOperation.isFailed (operation : CloudflareBulkOperation) : Bool :=
  operation.status == "failed"

/-! ### Truth values and integers of Python -/

/-- Truth of an optional string: neither `None` nor empty. -/
def truthy : Option String → Bool
  | some s => s ≠ ""
  | none => false

/-- `x or default`, for an optional string `x`. -/
def orDefault (x : Option String) (default : String) : String :=
  match x with
  | some s => if s = "" then default else s
  | none => default

/-- `int(x)`: truncation towards zero. -/
def pyInt (x : ℚ) : ℤ := x.num.tdiv x.den

/-! ### The body of a Rule List replacement -/

/-- One object of the body `PUT` to the list's `items` endpoint. -/
structure ReplaceItem where
  ip : String
  comment : Option String
  deriving DecidableEq

/-- The body `async_replace_list_items` sends: one object an item, a comment
only where there is one. -/
def replaceBody (items : List CloudflareListItem) : List ReplaceItem :=
  items.map fun item => ⟨item.ip, if truthy item.comment then item.comment else none⟩

end CloudflareIpSync
