/-
CloudflareIpSync/Token.lean

What becomes of the API token: it is sent in the `Authorization` header, and
nothing else depends on it.

A client with another token sends the same requests but for this header
(`HttpRequest.withToken`), and makes the same of the answers.  So the token is
in none of the texts that Home Assistant shows for an entry, in no snapshot and
in no diagnostics, unless Cloudflare's answers repeat it (`token_secret`).
-/
import CloudflareIpSync.Diagnostics
import CloudflareIpSync.Relabel
import CloudflareIpSync.Wire

namespace CloudflareIpSync.Client

open Interact Python CloudflareClient

/-! ### Another token -/

/-- The client with another token. -/
def CloudflareClient.withToken (client : CloudflareClient) (token : String) : CloudflareClient :=
  { client with token := token }

/-- The request with another token in its header. -/
def HttpRequest.withToken (token : String) (request : HttpRequest) : HttpRequest :=
  { request with
    headers := request.headers.map fun header =>
      if header.1 = "Authorization" then (header.1, "Bearer " ++ token) else header }

/-- The requests of a run with another token in their headers. -/
def retoken (token : String) (t : List HttpEv) : List HttpEv :=
  t.map (Prog.relabelEvent (HttpRequest.withToken token))

variable {client : CloudflareClient} {token : String}

/-! ### Receiving a response -/

theorem firstErrorMessage_withToken :
    (client.withToken token).firstErrorMessage = client.firstErrorMessage := by
  funext errors
  induction errors with
  | nil => rfl
  | cons error rest ih =>
      rw [firstErrorMessage, firstErrorMessage, ih]
      rfl

theorem raiseForStatus_withToken :
    (client.withToken token).raiseForStatus = client.raiseForStatus := by
  funext status payload
  rw [raiseForStatus, firstErrorMessage_withToken]
  rfl

theorem receive_withToken : (client.withToken token).receive = client.receive := by
  funext method path answer
  cases answer with
  | timeout | clientError => rfl
  | response =>
      rw [receive, raiseForStatus_withToken]
      rfl

theorem collectItems_withToken :
    (client.withToken token).collectItems = client.collectItems := by
  funext items raws
  induction raws generalizing items with
  | nil => rfl
  | cons raw rest ih =>
      rw [collectItems, collectItems]
      simp only [ih]
      rfl

/-! ### Sending a request -/

section Methods

variable {accountId listId zoneId : String}

theorem httpRequest_withToken {method path : String} {params : Option (List (String × String))}
    {json : Option Json} :
    (client.withToken token).httpRequest method path params json =
      (client.httpRequest method path params json).withToken token := by
  simp [HttpRequest.withToken, CloudflareClient.withToken, httpRequest]

theorem request_withToken {method path : String} {params : Option (List (String × String))}
    {json : Option Json} :
    (client.withToken token).request method path params json =
      (client.request method path params json).relabel (HttpRequest.withToken token) := by
  rw [request, httpRequest_withToken, receive_withToken]
  rfl

theorem listItemsBody_withToken (s : ItemsState) :
    (client.withToken token).listItemsBody accountId listId s =
      (client.listItemsBody accountId listId s).relabel (HttpRequest.withToken token) := by
  rw [listItemsBody, listItemsBody, Prog.relabel_bind, request_withToken]
  simp only [itemsRound, collectItems_withToken]
  rfl

theorem replaceListItems_withToken {items : List CloudflareListItem} :
    (client.withToken token).asyncReplaceListItems accountId listId items =
      (client.asyncReplaceListItems accountId listId items).relabel
        (HttpRequest.withToken token) := by
  rw [CloudflareClient.asyncReplaceListItems, CloudflareClient.asyncReplaceListItems,
    Prog.relabel_bind, request_withToken]
  rfl

theorem getBulkOperation_withToken {operationId : String} :
    (client.withToken token).asyncGetBulkOperation accountId operationId =
      (client.asyncGetBulkOperation accountId operationId).relabel
        (HttpRequest.withToken token) := by
  rw [CloudflareClient.asyncGetBulkOperation, CloudflareClient.asyncGetBulkOperation,
    Prog.relabel_bind, request_withToken]
  rfl

theorem getRuleLists_withToken :
    (client.withToken token).asyncGetRuleLists accountId =
      (client.asyncGetRuleLists accountId).relabel (HttpRequest.withToken token) := by
  rw [CloudflareClient.asyncGetRuleLists, CloudflareClient.asyncGetRuleLists,
    Prog.relabel_bind, request_withToken]
  rfl

theorem getDnsRecords_withToken {name recordType : Option String} :
    (client.withToken token).asyncGetDnsRecords zoneId name recordType =
      (client.asyncGetDnsRecords zoneId name recordType).relabel
        (HttpRequest.withToken token) := by
  rw [CloudflareClient.asyncGetDnsRecords, CloudflareClient.asyncGetDnsRecords,
    Prog.relabel_bind, request_withToken]
  rfl

theorem createDnsRecord_withToken {name recordType content : String} {ttl : ℤ} {proxied : Bool}
    {comment : Option String} :
    (client.withToken token).asyncCreateDnsRecord zoneId name recordType content ttl proxied
        comment =
      (client.asyncCreateDnsRecord zoneId name recordType content ttl proxied comment).relabel
        (HttpRequest.withToken token) := by
  rw [CloudflareClient.asyncCreateDnsRecord, CloudflareClient.asyncCreateDnsRecord,
    Prog.relabel_bind, request_withToken]
  rfl

theorem updateDnsRecord_withToken {recordId content : String} {ttl : ℤ} {proxied : Bool}
    {comment : Option String} :
    (client.withToken token).asyncUpdateDnsRecord zoneId recordId content ttl proxied comment =
      (client.asyncUpdateDnsRecord zoneId recordId content ttl proxied comment).relabel
        (HttpRequest.withToken token) := by
  rw [CloudflareClient.asyncUpdateDnsRecord, CloudflareClient.asyncUpdateDnsRecord,
    Prog.relabel_bind, request_withToken]
  rfl

end Methods

/-! ### Carrying out actions -/

theorem sameOperation_withToken :
    SameOperation (client.withToken token) = SameOperation client := by
  funext raw operation
  apply propext
  constructor
  · intro h
    exact ⟨h.id, h.status, h.error⟩
  · intro h
    exact ⟨h.id, h.status, h.error⟩

/-- A method of one request, and what is seen of its outcome. -/
theorem single_withToken {α β : Type} {R : α → β → Prop} {p : Http (Except ClientExc α)}
    {t : List HttpEv} {r : Except CloudflareError β} :
    (∃ out, (p.relabel (HttpRequest.withToken token)).Traces t out ∧ SeenAs R out r) ↔
      ∃ t', (∃ out, p.Traces t' out ∧ SeenAs R out r) ∧ t = retoken token t' := by
  constructor
  · rintro ⟨out, h, hseen⟩
    obtain ⟨t', h', rfl⟩ := Prog.traces_relabel_iff.mp h
    exact ⟨t', ⟨out, h', hseen⟩, rfl⟩
  · rintro ⟨t', ⟨out, h, hseen⟩, rfl⟩
    exact ⟨out, Prog.traces_relabel_iff.mpr ⟨t', h, rfl⟩, hseen⟩

/-- An action without requests. -/
theorem nothing_withToken {t : List HttpEv} : t = [] ↔ ∃ t', t' = [] ∧ t = retoken token t' := by
  constructor
  · rintro rfl
    exact ⟨[], rfl, rfl⟩
  · rintro ⟨t', rfl, rfl⟩
    rfl

theorem carried_withToken (o : Action) (t : List HttpEv) (r : o.Res) :
    Carried (client.withToken token) o t r ↔
      ∃ t', Carried client o t' r ∧ t = retoken token t' := by
  cases o with
  | getListItems accountId listId =>
      simp only [Carried, AsyncGetListItems]
      constructor
      · rintro ⟨out, h, hseen⟩
        obtain ⟨t', h', rfl⟩ := (loopRun_relabel_iff listItemsBody_withToken).mp h
        exact ⟨t', ⟨out, h', hseen⟩, rfl⟩
      · rintro ⟨t', ⟨out, h, hseen⟩, rfl⟩
        exact ⟨out, (loopRun_relabel_iff listItemsBody_withToken).mpr ⟨t', h, rfl⟩, hseen⟩
  | replaceListItems =>
      simp only [Carried, replaceListItems_withToken]
      exact single_withToken
  | getBulkOperation =>
      simp only [Carried, getBulkOperation_withToken, sameOperation_withToken]
      exact single_withToken
  | getRuleLists =>
      simp only [Carried, getRuleLists_withToken]
      exact single_withToken
  | getDnsRecords =>
      simp only [Carried, getDnsRecords_withToken]
      exact single_withToken
  | createDnsRecord =>
      simp only [Carried, createDnsRecord_withToken]
      exact single_withToken
  | updateDnsRecord =>
      simp only [Carried, updateDnsRecord_withToken]
      exact single_withToken
  | _ => exact nothing_withToken

/-- A method of one request under way. -/
theorem begun_withToken {α : Type} {p : Http α} {t : List HttpEv} :
    (∃ q, (p.relabel (HttpRequest.withToken token)).Steps t q) ↔
      ∃ t', (∃ q, p.Steps t' q) ∧ t = retoken token t' := by
  constructor
  · rintro ⟨q, h⟩
    obtain ⟨t', p', h', rfl, -⟩ := Prog.steps_relabel_iff.mp h
    exact ⟨t', ⟨p', h'⟩, rfl⟩
  · rintro ⟨t', ⟨q, h⟩, rfl⟩
    exact ⟨_, Prog.steps_relabel_iff.mpr ⟨t', q, h, rfl, rfl⟩⟩

theorem underWay_withToken (o : Action) (t : List HttpEv) :
    UnderWay (client.withToken token) o t ↔
      ∃ t', UnderWay client o t' ∧ t = retoken token t' := by
  cases o with
  | getListItems => exact loopSteps_relabel_iff listItemsBody_withToken
  | replaceListItems =>
      simp only [UnderWay, replaceListItems_withToken]
      exact begun_withToken
  | getBulkOperation =>
      simp only [UnderWay, getBulkOperation_withToken]
      exact begun_withToken
  | getRuleLists =>
      simp only [UnderWay, getRuleLists_withToken]
      exact begun_withToken
  | getDnsRecords =>
      simp only [UnderWay, getDnsRecords_withToken]
      exact begun_withToken
  | createDnsRecord =>
      simp only [UnderWay, createDnsRecord_withToken]
      exact begun_withToken
  | updateDnsRecord =>
      simp only [UnderWay, updateDnsRecord_withToken]
      exact begun_withToken
  | _ => exact nothing_withToken

/-! ### An entry with another token -/

/-- The coordinator of an entry with this data. -/
abbrev coordinatorOf (entryId title : String) (data : Flow.EntryData) (options : Flow.Options) :
    Coordinator :=
  .ofEntry (Flow.configEntry entryId title data options)

/-- **The token stays secret.** Give an entry another token.  Its refreshes can
do the same as before, with the same texts and results, on the same answers to
the same requests but for their `Authorization` headers, and nothing else; and
its diagnostics are the same. -/
theorem token_secret {redact : Dict → List String → Dict} (hredact : Redacts redact)
    (render : Json → String) (entryId title : String) (data : Flow.EntryData)
    (options : Flow.Options) {apiToken : String} (hold : data.apiToken ≠ "")
    (hnew : apiToken ≠ "") :
    let data' := withApiToken data apiToken
    let c := coordinatorOf entryId title data options
    let c' := coordinatorOf entryId title data' options
    (∀ done r t',
      (asyncUpdateData c').Traces done r ∧
          Prog.Carries (Carried (Flow.apiClient render data'.apiToken)) done t' ↔
        ∃ t, t' = retoken apiToken t ∧ (asyncUpdateData c).Traces done r ∧
          Prog.Carries (Carried (Flow.apiClient render data.apiToken)) done t) ∧
    (∀ done p t', RefreshBegun (Flow.apiClient render data'.apiToken) c' done p t' ↔
      ∃ t, t' = retoken apiToken t ∧
        RefreshBegun (Flow.apiClient render data.apiToken) c done p t) ∧
    ∀ version isoformat published,
      asyncGetConfigEntryDiagnostics redact version isoformat data' options published =
        asyncGetConfigEntryDiagnostics redact version isoformat data options published := by
  intro data' c c'
  have hclient : Flow.apiClient render data'.apiToken =
      (Flow.apiClient render data.apiToken).withToken apiToken := rfl
  refine ⟨?_, ?_, ?_⟩
  · intro done r t'
    rw [hclient, Prog.carries_map_iff carried_withToken]
    constructor
    · rintro ⟨htraces, t, hcarries, rfl⟩
      exact ⟨t, rfl, htraces, hcarries⟩
    · rintro ⟨t, rfl, htraces, hcarries⟩
      exact ⟨htraces, t, hcarries, rfl⟩
  · intro done p t'
    rw [hclient, RefreshBegun, Prog.begun_map_iff carried_withToken underWay_withToken]
    constructor
    · rintro ⟨t, hbegun, rfl⟩
      exact ⟨t, rfl, hbegun⟩
    · rintro ⟨t, rfl, hbegun⟩
      exact ⟨t, hbegun, rfl⟩
  · intro version isoformat published
    exact diagnostics_withApiToken hredact hold hnew version isoformat options published

/-- Redacting, for values that are texts. -/
def redactTexts (data : Dict) (keys : List String) : Dict :=
  data.map fun item =>
    if item.1 ∈ keys ∧ item.2.truthy = true then (item.1, .str "**REDACTED**") else item

theorem redacts_redactTexts : Redacts redactTexts := by
  intro keys data data' h
  induction h with
  | nil => rfl
  | @cons a b rest rest' hab _ ih =>
      have hitem : (if a.1 ∈ keys ∧ a.2.truthy = true then (a.1, Json.str "**REDACTED**") else a) =
          if b.1 ∈ keys ∧ b.2.truthy = true then (b.1, Json.str "**REDACTED**") else b := by
        obtain ⟨key, value⟩ := a
        obtain ⟨key', value'⟩ := b
        obtain ⟨rfl, rfl | ⟨hkey, hold, hnew⟩⟩ := hab
        · rfl
        · rw [if_pos ⟨hkey, hold⟩, if_pos ⟨hkey, hnew⟩]
      show (if _ then _ else _) :: _ = (if _ then _ else _) :: _
      rw [hitem]
      exact congrArg _ ih

/-- An entry before and after its token was replaced. -/
theorem token_secret_home :
    let data : Flow.EntryData := ⟨⟨⟨⟨"old"⟩, "acc", "Home"⟩, "list", "home"⟩, "sensor.ip"⟩
    (∀ done p t', RefreshBegun (Flow.apiClient (fun _ => "") "new")
        (coordinatorOf "e" "home" (withApiToken data "new") {}) done p t' ↔
      ∃ t, t' = retoken "new" t ∧ RefreshBegun (Flow.apiClient (fun _ => "") "old")
        (coordinatorOf "e" "home" data {}) done p t) ∧
    asyncGetConfigEntryDiagnostics redactTexts (.str "1.0") toString (withApiToken data "new") {}
        {} =
      asyncGetConfigEntryDiagnostics redactTexts (.str "1.0") toString data {} {} := by
  intro data
  have hnew : "new" ≠ "" := by decide
  have hsecret := token_secret redacts_redactTexts (fun _ => "") "e" "home" data {}
    (by decide) hnew
  exact ⟨hsecret.2.1, hsecret.2.2 _ _ _⟩

end CloudflareIpSync.Client
