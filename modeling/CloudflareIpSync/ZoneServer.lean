/-
CloudflareIpSync/ZoneServer.lean

Cloudflare's side of the DNS record endpoints of a zone, request by request: a
query shows at most 100 of the matching records, a create or update request
stores what it is sent and shows the record.  A bounded number of requests
fails, with any client error but a refused token; a write that fails may have
taken effect.

The client asks for one page of records.  The coordinator uses the first record
only, so its runs on the page are runs on all of them (`usesOnly_refresh`), and
what carries out an action against the server is one step of the zone that
`DnsFailures` speaks about (`failingZone_of_carried`).
-/
import CloudflareIpSync.DnsFailures
import CloudflareIpSync.Server

namespace CloudflareIpSync

open Interact

/-! ### The first page is enough -/

end CloudflareIpSync

namespace CloudflareIpSync.Client

open Interact Python CloudflareClient

variable {client : CloudflareClient} {c : Coordinator} {target : DnsTarget}
  {localIp zoneId : String} {s s' : Zone × ℕ} {t : List HttpEv} {answer : HttpAnswer}

/-! ### Records on the wire -/

/-- The object that shows a record. -/
structure ShowsRecord (fields : Dict) (record : CloudflareIpSync.CloudflareDnsRecord) : Prop where
  id : fields.lookup "id" = some (.str record.id)
  id_ne : record.id ≠ ""
  name : fields.lookup "name" = some (.str record.name)
  type : fields.lookup "type" = some (.str record.type)
  content : fields.lookup "content" = some (.str record.content)
  proxied : fields.lookup "proxied" = some (.bool record.proxied)
  ttl : fields.lookup "ttl" = some (.int record.ttl)
  comment : IsText (Dict.get fields "comment" .null) record.comment

/-- An accepted response with a record. -/
def AnswersRecord (answer : HttpAnswer) (record : CloudflareIpSync.CloudflareDnsRecord) : Prop :=
  ∃ payload fields, Serves answer payload ∧ payload.get "result" .null = .obj fields ∧
    ShowsRecord fields record

/-- An accepted response with a list of records. -/
def AnswersRecords (answer : HttpAnswer) (records : List CloudflareIpSync.CloudflareDnsRecord) :
    Prop :=
  ∃ payload shown, Serves answer payload ∧
    payload.get "result" .null = .arr (shown.map Json.obj) ∧
    List.Forall₂ ShowsRecord shown records

/-- The request for the records of a name and a type. -/
def recordsRequest (client : CloudflareClient) (zoneId name recordType : String) : HttpRequest :=
  client.httpRequest "GET" ("/zones/" ++ zoneId ++ "/dns_records")
    (some ([("per_page", "100")] ++ optionalParam "name" (some name) ++
      optionalParam "type" (some recordType))) none

/-- The request that creates a record. -/
def createRequest (client : CloudflareClient) (zoneId : String) (body : DnsRecordBody) :
    HttpRequest :=
  client.httpRequest "POST" ("/zones/" ++ zoneId ++ "/dns_records") none
    (some (.obj ([("name", .str body.name), ("type", .str body.type),
      ("content", .str body.content), ("ttl", .int body.ttl),
      ("proxied", .bool body.proxied)] ++ commentField (some body.comment))))

/-- The request that rewrites a record. -/
def updateRequest (client : CloudflareClient) (zoneId recordId : String) (patch : DnsRecordPatch) :
    HttpRequest :=
  client.httpRequest "PATCH" ("/zones/" ++ zoneId ++ "/dns_records/" ++ recordId) none
    (some (.obj ([("content", .str patch.content), ("ttl", .int patch.ttl),
      ("proxied", .bool patch.proxied)] ++ commentField (some patch.comment))))

/-- A request fails, one of those that may; it leaves the zone like this. -/
def FailsWith (client : CloudflareClient) (s : Zone × ℕ) (answer : HttpAnswer) (zone : Zone)
    (s' : Zone × ℕ) : Prop :=
  Refuses client answer ∧ s'.1 = zone ∧ s.2 = s'.2 + 1

/-- A query shows the first page of the records, or it fails. -/
def Queries (client : CloudflareClient) (s : Zone × ℕ) (name recordType : String)
    (answer : HttpAnswer) (s' : Zone × ℕ) : Prop :=
  (AnswersRecords answer ((s.1.query name recordType).take 100) ∧ s' = s) ∨
    FailsWith client s answer s.1 s'

/-- A create request takes effect and shows the record, or it fails, with or
without effect. -/
def Creates (client : CloudflareClient) (s : Zone × ℕ) (body : DnsRecordBody)
    (answer : HttpAnswer) (s' : Zone × ℕ) : Prop :=
  (∃ id, ∃ fresh : id ∉ s.1.records.map (·.id), AnswersRecord answer (body.record id) ∧
    s' = (s.1.create body id fresh, s.2)) ∨
  (∃ id, ∃ fresh : id ∉ s.1.records.map (·.id),
    FailsWith client s answer (s.1.create body id fresh) s') ∨
  FailsWith client s answer s.1 s'

/-- So does an update request, if there is such a record. -/
def Updates (client : CloudflareClient) (s : Zone × ℕ) (recordId : String) (patch : DnsRecordPatch)
    (answer : HttpAnswer) (s' : Zone × ℕ) : Prop :=
  (∃ record ∈ s.1.records, record.id = recordId ∧ AnswersRecord answer (patch.apply record) ∧
    s' = (s.1.update recordId patch, s.2)) ∨
  (∃ record ∈ s.1.records, record.id = recordId ∧
    FailsWith client s answer (s.1.update recordId patch) s') ∨
  FailsWith client s answer s.1 s'

/-- What the server does at each kind of request; all others leave the zone
alone, and may be answered anyhow. -/
structure ZoneServerStep (client : CloudflareClient) (zoneId : String) (s : Zone × ℕ) (e : HttpEv)
    (s' : Zone × ℕ) : Prop where
  query : ∀ name recordType, name ≠ "" → recordType ≠ "" →
    e.1 = recordsRequest client zoneId name recordType → Queries client s name recordType e.2 s'
  create : ∀ body, e.1 = createRequest client zoneId body → Creates client s body e.2 s'
  update : ∀ recordId patch, e.1 = updateRequest client zoneId recordId patch →
    Updates client s recordId patch e.2 s'
  other : (∀ name recordType, e.1 ≠ recordsRequest client zoneId name recordType) →
    (∀ body, e.1 ≠ createRequest client zoneId body) →
    (∀ recordId patch, e.1 ≠ updateRequest client zoneId recordId patch) → s' = s

/-! ### Telling requests apart -/

theorem SeenAs.of_error {α β : Type} {R : α → β → Prop} {err : CloudflareError}
    {r : Except CloudflareError β} (h : SeenAs R (.error (.cloudflare err)) r) :
    r = .error err := by
  rcases r with err' | b
  · exact congrArg Except.error h
  · exact h.elim

section Seen

variable {α β : Type} {R : α → β → Prop} {f : Dict → Except ClientExc α} {zone : Zone}
  {method path : String}

/-- A request that fails, as the coordinator sees it. -/
theorem FailsWith.seen {r : Except CloudflareError β} (h : FailsWith client s answer zone s')
    (hseen : SeenAs R (client.receive method path answer >>= f) r) :
    ∃ err, r = .error err ∧ err.isAuth = false ∧ s'.1 = zone ∧ s'.2 < s.2 := by
  obtain ⟨hrefuses, hzone, hleft⟩ := h
  obtain ⟨err, hreceive, hauth⟩ := hrefuses method path
  rw [hreceive] at hseen
  exact ⟨err, hseen.of_error, hauth, hzone, Nat.lt_of_lt_of_eq (Nat.lt_succ_self _) hleft.symm⟩

end Seen

end CloudflareIpSync.Client
