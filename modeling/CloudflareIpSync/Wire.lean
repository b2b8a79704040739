/-
CloudflareIpSync/Wire.lean

A refresh as Cloudflare sees it: the coordinator's actions are carried out by the
methods of the client, which send requests (`Action.Carried`).

The coordinator sees the fields that it uses of what a method returns, and the
`CloudflareError` it raises; any other exception ends the refresh where it is
raised.  A run that is still under way, or that was ended so, is `UnderWay`.

Every request that is ever sent belongs to an action that the refresh was
entitled to by what Cloudflare had answered before (`refresh_requests`), and a
refresh that reports the list in sync has read the whole of it after its last
write.
-/
import CloudflareIpSync.Pagination
import CloudflareIpSync.Via
import CloudflareIpSync.Deadline
import CloudflareIpSync.Entitlement

namespace CloudflareIpSync.Client

open Interact Python CloudflareClient

/-! ### What the coordinator sees of a method -/

/-- The outcome of a method and what the coordinator sees of it. -/
def SeenAs {α β : Type} (R : α → β → Prop) : Except ClientExc α → Except CloudflareError β → Prop
  | .ok a, .ok b => R a b
  | .error (.cloudflare err), .error err' => err' = err
  | _, _ => False

/-- A field that is passed on as it is holds a text or nothing. -/
def IsText : Json → Option String → Prop
  | .null, none => True
  | .str text, some text' => text' = text
  | _, _ => False

/-- An item to write, as the client takes it. -/
def ofItem (item : CloudflareIpSync.CloudflareListItem) : CloudflareListItem where
  ip := item.ip
  id := item.id.elim .null .str
  comment := item.comment.elim .null .str

/-- A DNS record, with a comment that is a text or nothing. -/
structure SameRecord (raw : CloudflareDnsRecord) (record : CloudflareIpSync.CloudflareDnsRecord) :
    Prop where
  id : record.id = raw.id
  name : record.name = raw.name
  type : record.type = raw.type
  content : record.content = raw.content
  proxied : record.proxied = raw.proxied
  ttl : record.ttl = raw.ttl
  comment : IsText raw.comment record.comment

/-- A bulk operation; its error is only printed. -/
structure SameOperation (client : CloudflareClient) (raw : CloudflareBulkOperation)
    (operation : CloudflareIpSync.CloudflareBulkOperation) : Prop where
  id : operation.id = raw.id
  status : operation.status = raw.status
  error : operation.error.getD "None" = client.str raw.error

/-! ### Actions carried out by requests -/

/-- The runs of the client that carry out an action with its answer. -/
def Carried (client : CloudflareClient) : (o : Action) → List HttpEv → o.Res → Prop
  | .getListItems accountId listId, t, r =>
      ∃ out, client.AsyncGetListItems accountId listId t out ∧
        SeenAs (fun raws items => items.map (·.ip) = raws.map (·.ip)) out r
  | .replaceListItems accountId listId items, t, r =>
      ∃ out, (client.asyncReplaceListItems accountId listId (items.map ofItem)).Traces t out ∧
        SeenAs (fun raw operationId => operationId = raw) out r
  | .getBulkOperation accountId operationId, t, r =>
      ∃ out, (client.asyncGetBulkOperation accountId operationId).Traces t out ∧
        SeenAs (SameOperation client) out r.2
  | .getRuleLists accountId, t, r =>
      ∃ out, (client.asyncGetRuleLists accountId).Traces t out ∧
        SeenAs (fun raws lists => lists.map (·.id) = raws.map (·.id)) out r
  | .getDnsRecords zoneId name recordType, t, r =>
      ∃ out, (client.asyncGetDnsRecords zoneId (some name) (some recordType)).Traces t out ∧
        SeenAs (List.Forall₂ SameRecord) out r
  | .createDnsRecord zoneId body, t, r =>
      ∃ out, (client.asyncCreateDnsRecord zoneId body.name body.type body.content body.ttl
        body.proxied (some body.comment)).Traces t out ∧ SeenAs SameRecord out r
  | .updateDnsRecord zoneId recordId patch, t, r =>
      ∃ out, (client.asyncUpdateDnsRecord zoneId recordId patch.content patch.ttl patch.proxied
        (some patch.comment)).Traces t out ∧ SeenAs SameRecord out r
  | _, t, _ => t = []

/-- The runs of the client in the course of an action. -/
def UnderWay (client : CloudflareClient) : Action → List HttpEv → Prop
  | .getListItems accountId listId, t =>
      LoopSteps (client.listItemsBody accountId listId) ([], none) t
  | .replaceListItems accountId listId items, t =>
      ∃ p, (client.asyncReplaceListItems accountId listId (items.map ofItem)).Steps t p
  | .getBulkOperation accountId operationId, t =>
      ∃ p, (client.asyncGetBulkOperation accountId operationId).Steps t p
  | .getRuleLists accountId, t => ∃ p, (client.asyncGetRuleLists accountId).Steps t p
  | .getDnsRecords zoneId name recordType, t =>
      ∃ p, (client.asyncGetDnsRecords zoneId (some name) (some recordType)).Steps t p
  | .createDnsRecord zoneId body, t =>
      ∃ p, (client.asyncCreateDnsRecord zoneId body.name body.type body.content body.ttl
        body.proxied (some body.comment)).Steps t p
  | .updateDnsRecord zoneId recordId patch, t =>
      ∃ p, (client.asyncUpdateDnsRecord zoneId recordId patch.content patch.ttl patch.proxied
        (some patch.comment)).Steps t p
  | _, t => t = []

/-- A refresh that has come to `p` with the actions `done`, may be in the course
of the next one, and has sent these requests so far. -/
abbrev RefreshBegun (client : CloudflareClient) (c : Coordinator) (done : List Ev)
    (p : Coro (Except UpdateError SyncState)) (t : List HttpEv) : Prop :=
  Prog.Begun (Carried client) (UnderWay client) (asyncUpdateData c) done p t

/-- A refresh that has returned or raised what the coordinator raises. -/
abbrev RefreshVia (client : CloudflareClient) (c : Coordinator) (t : List HttpEv)
    (r : Except UpdateError SyncState) : Prop :=
  (asyncUpdateData c).Via (Carried client) t r

/-! ### The requests of an action -/

/-- The requests that carry out an action. -/
def Sends (client : CloudflareClient) : Action → HttpRequest → Prop
  | .getListItems accountId listId, request => ∃ cursor, request =
      client.httpRequest "GET" (itemsPath accountId listId) (some (itemsParams cursor)) none
  | .replaceListItems accountId listId items, request => request =
      client.httpRequest "PUT" (itemsPath accountId listId) none
        (some (.arr (items.map fun item => itemBody (ofItem item))))
  | .getBulkOperation accountId operationId, request => request =
      client.httpRequest "GET" ("/accounts/" ++ accountId ++ "/rules/lists/bulk_operations/" ++
        operationId) none none
  | .getRuleLists accountId, request => request =
      client.httpRequest "GET" ("/accounts/" ++ accountId ++ "/rules/lists") none none
  | .getDnsRecords zoneId name recordType, request => request =
      client.httpRequest "GET" ("/zones/" ++ zoneId ++ "/dns_records")
        (some ([("per_page", "100")] ++ optionalParam "name" (some name) ++
          optionalParam "type" (some recordType))) none
  | .createDnsRecord zoneId body, request => request =
      client.httpRequest "POST" ("/zones/" ++ zoneId ++ "/dns_records") none
        (some (.obj ([("name", .str body.name), ("type", .str body.type),
          ("content", .str body.content), ("ttl", .int body.ttl),
          ("proxied", .bool body.proxied)] ++ commentField (some body.comment))))
  | .updateDnsRecord zoneId recordId patch, request => request =
      client.httpRequest "PATCH" ("/zones/" ++ zoneId ++ "/dns_records/" ++ recordId) none
        (some (.obj ([("content", .str patch.content), ("ttl", .int patch.ttl),
          ("proxied", .bool patch.proxied)] ++ commentField (some patch.comment))))
  | _, _ => False

variable {client : CloudflareClient} {c : Coordinator} {o : Action} {t : List HttpEv} {e : HttpEv}

/-- A method that sends one request. -/
theorem mem_of_single {α : Type} {p p' : Http α} {request : HttpRequest} {f : HttpAnswer → α}
    (hp : p = .op request fun answer => .ret (f answer)) (h : p.Steps t p') (he : e ∈ t) :
    e.1 = request := by
  have hemits : p.Emits (fun o => o = request) := by
    rw [hp]
    exact ⟨rfl, fun _ => trivial⟩
  exact (hemits.steps h).1 e he

/-- A read of the list sends nothing but requests for its pages. -/
theorem sends_of_loopSteps {accountId listId : String} {s : ItemsState}
    (h : LoopSteps (client.listItemsBody accountId listId) s t) (he : e ∈ t) :
    Sends client (.getListItems accountId listId) e.1 := by
  induction h with
  | inside h => exact ⟨_, mem_of_single rfl h he⟩
  | again hround _ ih =>
      rcases List.mem_append.mp he with he | he
      · exact ⟨_, mem_of_single rfl hround he⟩
      · exact ih he

theorem sends_of_underWay (h : UnderWay client o t) (he : e ∈ t) : Sends client o e.1 := by
  cases o with
  | getListItems => exact sends_of_loopSteps h he
  | replaceListItems accountId listId items =>
      obtain ⟨p, h⟩ := h
      refine (mem_of_single rfl h he).trans ?_
      rw [List.map_map]
      rfl
  | getBulkOperation | getRuleLists | getDnsRecords | createDnsRecord | updateDnsRecord =>
      obtain ⟨p, h⟩ := h
      exact mem_of_single rfl h he
  | _ =>
      rw [show t = [] from h] at he
      cases he

/-- What an action has sent in the end, it has sent in its course. -/
theorem underWay_of_carried {r : o.Res} (h : Carried client o t r) : UnderWay client o t := by
  cases o with
  | getListItems =>
      obtain ⟨out, h, -⟩ := h
      exact h.steps
  | replaceListItems | getBulkOperation | getRuleLists | getDnsRecords | createDnsRecord
  | updateDnsRecord =>
      obtain ⟨out, h, -⟩ := h
      exact ⟨_, h⟩
  | _ => exact h

/-- **Every request of a refresh** belongs to an action that the refresh had come
to after some of its actions, and that it was entitled to by what these had
answered: the state of its source among them. -/
theorem refresh_requests {done : List Ev} {p : Coro (Except UpdateError SyncState)}
    {before after : List HttpEv} (h : RefreshBegun client c done p (before ++ e :: after)) :
    ∃ seen o k before' part, seen <+: done ∧ (asyncUpdateData c).Steps seen (.op o k) ∧
      Prog.Carries (Carried client) seen before' ∧ before = before' ++ part ∧
      Entitled c seen o ∧ ∀ e' ∈ part ++ [e], Sends client o e'.1 := by
  obtain ⟨seen, o, k, before', part, rest, hseen, hsteps, hcarries, hbefore, hpart⟩ := h.comesFrom
  have hwp := (entitled_refresh c []).steps hsteps (path_history_iff.mpr rfl)
  have hunderWay : UnderWay client o (part ++ e :: rest) := by
    rcases hpart with hbegun | ⟨r, hcarried⟩
    · exact hbegun
    · exact underWay_of_carried hcarried
  refine ⟨seen, o, k, before', part, hseen, hsteps, hcarries, hbefore, hwp.1, ?_⟩
  intro e' he'
  apply sends_of_underWay hunderWay
  rcases List.mem_append.mp he' with he' | he'
  · exact List.mem_append_left _ he'
  · rw [List.mem_singleton.mp he']
    simp

/-! #### A run with a write -/

/-- A response of Cloudflare with a result. -/
def accepted (result : Json) : HttpAnswer :=
  .response 200 (.json (.obj [("success", .bool true), ("result", result)]))

/-- An entry without a DNS record. -/
def listCoordinator : Coordinator := ⟨"e", "home", "acc", "list", "sensor.ip", 5, none, none⟩

/-- The actions of a refresh that replaces an old address, up to its write. -/
def beforeWrite : List Ev :=
  [sourceEv listCoordinator (some "203.0.113.7"),
    readEv listCoordinator (.ok [⟨"198.51.100.1", none, none⟩]), issueEv listCoordinator false]

/-- Those after it. -/
def afterWrite : List Ev :=
  [pollEv listCoordinator "op" 1 (.ok ⟨"op", "completed", none⟩),
    readEv listCoordinator (.ok [⟨"203.0.113.7", none, none⟩]), clearEv listCoordinator,
    stampEv (9 : ℕ), ⟨.getLastSynced, some (9 : ℕ)⟩]

theorem traces_write : (asyncUpdateData listCoordinator).Traces
    (beforeWrite ++ replaceEv listCoordinator "203.0.113.7" (.ok "op") :: afterWrite)
    (.ok ⟨some "203.0.113.7", ["203.0.113.7"], true, some (9 : ℕ), none, none, none, none,
      none⟩) := by
  let replies (n : ℕ) : Replies :=
    { source := some "203.0.113.7",
      listItems := .ok [⟨if n < 4 then "198.51.100.1" else "203.0.113.7", none, none⟩],
      replace := .ok "op", bulkOperation := (1, .ok ⟨"op", "completed", none⟩),
      ruleLists := .ok [], dnsRecords := .ok [], dnsRecord := .error (.result ""),
      now := (9 : ℕ), lastSynced := some (9 : ℕ) }
  exact Prog.traces_of_exec (Replies.nth replies) 0 (by decide +kernel) (by decide +kernel)

/-- The first page of the list, with one address. -/
def onePage (ip : String) : HttpEv :=
  ⟨itemsRequest sampleClient "acc" "list" none, pageAnswer [.obj [("ip", .str ip)]] []⟩

theorem reads_onePage (ip : String) : sampleClient.AsyncGetListItems "acc" "list" [onePage ip]
    (.ok [⟨ip, .null, .null⟩]) :=
  (loopRun_iff (listItemsBody_eq "acc" "list")).mpr ⟨_, [], rfl, rfl, rfl⟩

/-- The write of the new address. -/
def writeEv : HttpEv :=
  ⟨sampleClient.httpRequest "PUT" (itemsPath "acc" "list") none
      (some (.arr [.obj [("ip", .str "203.0.113.7"), ("comment", .str listItemComment)]])),
    accepted (.obj [("operation_id", .str "op")])⟩

/-- The poll of its operation. -/
def statusEv : HttpEv :=
  ⟨sampleClient.httpRequest "GET" "/accounts/acc/rules/lists/bulk_operations/op" none none,
    accepted (.obj [("id", .str "op"), ("status", .str "completed")])⟩

theorem carries_beforeWrite :
    Prog.Carries (Carried sampleClient) beforeWrite [onePage "198.51.100.1"] :=
  .cons (t := []) rfl (.cons (t := [_]) ⟨_, reads_onePage _, rfl⟩ (.cons (t := []) rfl .nil))

theorem carries_afterWrite :
    Prog.Carries (Carried sampleClient) afterWrite [statusEv, onePage "203.0.113.7"] :=
  .cons (t := [_]) ⟨_, .cons (.op _ _ _) (.nil _), ⟨rfl, rfl, rfl⟩⟩
    (.cons (t := [_]) ⟨_, reads_onePage _, rfl⟩ (.cons (t := []) rfl (.cons (t := []) rfl
      (.cons (t := []) rfl .nil))))

theorem carried_write : Carried sampleClient
    (replaceEv listCoordinator "203.0.113.7" (.ok "op")).1 [writeEv] (.ok "op") :=
  ⟨_, .cons (.op _ _ _) (.nil _), rfl⟩

/-- The write of the new address while it is not answered, or after its answer
got lost. -/
theorem refresh_requests_write : ∃ seen o k before' part, seen <+: beforeWrite ∧
    (asyncUpdateData listCoordinator).Steps seen (.op o k) ∧
    Prog.Carries (Carried sampleClient) seen before' ∧
    [onePage "198.51.100.1"] = before' ++ part ∧ Entitled listCoordinator seen o ∧
    ∀ e' ∈ part ++ [writeEv], Sends sampleClient o e'.1 := by
  obtain ⟨p, hsteps, hrest⟩ := path_append_iff.mp traces_write
  obtain ⟨p', hstep, -⟩ := path_cons_iff.mp hrest
  have hwithin : Prog.Begun (Carried sampleClient) (UnderWay sampleClient) p [] p [writeEv] := by
    cases hstep with
    | op o k r => exact .within (underWay_of_carried carried_write)
  have hbegun : RefreshBegun sampleClient listCoordinator beforeWrite p
      ([onePage "198.51.100.1"] ++ writeEv :: []) := by
    have hall := carries_beforeWrite.begun_append hsteps hwithin
    rwa [List.append_nil] at hall
  exact refresh_requests hbegun

/-! ### What in sync means on the wire -/

/-- A write of the Rule List. -/
def IsReplace : Action → Prop
  | .replaceListItems _ _ _ => True
  | _ => False

/-- Only a write of the Rule List sends a `PUT`. -/
theorem not_put_of_sends {request : HttpRequest} (h : Sends client o request)
    (ho : ¬ IsReplace o) : request.method ≠ "PUT" := by
  cases o with
  | replaceListItems => exact absurd trivial ho
  | getListItems =>
      obtain ⟨cursor, rfl⟩ := h
      simp [httpRequest]
  | getBulkOperation | getRuleLists | getDnsRecords | createDnsRecord | updateDnsRecord =>
      rw [show request = _ from h]
      simp [httpRequest]
  | _ => exact h.elim

/-- An outcome in sync rests on a read of the list with no write after it. -/
theorem lastRead_of_in_sync {done : List Ev} {list : ListOutcome}
    (h : (asyncUpdateList c).Traces done (.ok list)) (hsync : list.inSync = true) :
    ∃ before items after, done = before ++ readEv c (.ok items) :: after ∧
      list.cloudflareIps = items.map (·.ip) ∧ isInSync list.localIp list.cloudflareIps = true ∧
      ∀ ev ∈ after, ¬ IsReplace ev.1 := by
  generalize hout : (Except.ok list : Except UpdateError ListOutcome) = out at h
  cases listRun_of_traces h with
  | readAuth | readApi | readOther | writeAuth => cases hout
  | noSource => cases hout; cases hsync
  | gaveUp => cases hout; cases hsync
  | @matched state items localIp now _ hmatch =>
      cases hout
      exact ⟨[sourceEv c state], items, [issueEv c false, clearEv c, stampEv now], rfl, rfl, hmatch,
        by simp [IsReplace, issueEv]⟩
  | @written state items localIp t ips now _ _ hwrite =>
      cases hout
      obtain ⟨t₁, t₂, rfl, hattempt⟩ := (retryRun_of_traces hwrite).ok_last
      generalize hips : (Except.ok ips : Except SyncError (List String)) = r at hattempt
      cases replaceRun_of_traces hattempt with
      | replaceRaised | waitRaised | readRaised | mismatch => cases hips
      | @verified operationId tp items' _ hmatch =>
          cases hips
          exact ⟨sourceEv c state :: readEv c (.ok items) :: issueEv c false :: t₁ ++
            replaceEv c localIp (.ok operationId) :: tp, items', [clearEv c, stampEv now], by simp,
            rfl, hmatch, by simp [IsReplace]⟩

/-- **In sync means read back.** A refresh that returns in sync has read the
whole list, page by page, after its last write, and found nothing in it but the
source's address. -/
theorem in_sync_read {s : SyncState} (h : RefreshVia client c t (.ok s)) (hsync : s.inSync = true) :
    ∃ before read after items, t = before ++ read ++ after ∧
      client.AsyncGetListItems c.accountId c.listId read (.ok items) ∧
      s.cloudflareIps = items.map (·.ip) ∧ isInSync s.localIp s.cloudflareIps = true ∧
      ∀ e ∈ after, e.1.method ≠ "PUT" := by
  obtain ⟨done, htraces, hcarries⟩ := Prog.via_iff.mp h
  obtain ⟨tl, td, list, dns, lastSynced, hlist, hdns, rfl, rfl⟩ := refresh_returned htraces
  obtain ⟨before, items, after, rfl, hips, hmatch, hafter⟩ := lastRead_of_in_sync hlist hsync
  rw [List.append_assoc, List.append_assoc, List.cons_append, Prog.carries_append_iff] at hcarries
  obtain ⟨t₁, _, rfl, -, hcarries⟩ := hcarries
  obtain ⟨read, t₂, rfl, ⟨out, hread, hseen⟩, hrest⟩ := Prog.carries_cons_iff.mp hcarries
  rcases out with (err | exc) | raws
  · cases hseen
  · cases hseen
  refine ⟨t₁, read, t₂, raws, (List.append_assoc _ _ _).symm, hread, hips.trans hseen, hmatch, ?_⟩
  have hnoReplace : ∀ ev ∈ after ++ (td ++ [⟨Action.getLastSynced, lastSynced⟩]),
      ¬ IsReplace ev.1 := by
    intro ev hev
    rcases List.mem_append.mp hev with hev | hev
    · exact hafter ev hev
    rcases List.mem_append.mp hev with hev | hev
    · have hhalf := (emits_asyncReconcileDns c list.localIp).traces hdns ev hev
      intro hreplace
      obtain ⟨action, answer⟩ := ev
      cases action <;> first | exact hhalf | exact hreplace
    · rw [List.mem_singleton.mp hev]
      exact id
  intro e he
  obtain ⟨ev, hev, t', hcarried, he'⟩ := hrest.mem he
  exact not_put_of_sends (sends_of_underWay (underWay_of_carried hcarried) he') (hnoReplace ev hev)

/-- The last read shows the address that was written before. -/
theorem in_sync_read_write :
    let s : SyncState :=
      ⟨some "203.0.113.7", ["203.0.113.7"], true, some (9 : ℕ), none, none, none, none, none⟩
    let t := [onePage "198.51.100.1", writeEv, statusEv, onePage "203.0.113.7"]
    RefreshVia sampleClient listCoordinator t (.ok s) ∧ ∃ before read after items,
      t = before ++ read ++ after ∧ sampleClient.AsyncGetListItems "acc" "list" read (.ok items) ∧
      s.cloudflareIps = items.map (·.ip) ∧ isInSync s.localIp s.cloudflareIps = true ∧
      ∀ e ∈ after, e.1.method ≠ "PUT" := by
  intro s t
  have hcarries : Prog.Carries (Carried sampleClient) (beforeWrite ++
      replaceEv listCoordinator "203.0.113.7" (.ok "op") :: afterWrite) t :=
    Prog.carries_append_iff.mpr ⟨_, _, rfl, carries_beforeWrite,
      .cons (t := [_]) carried_write carries_afterWrite⟩
  have hrun : RefreshVia sampleClient listCoordinator t (.ok s) :=
    Prog.via_iff.mpr ⟨_, traces_write, hcarries⟩
  have hsync := in_sync_read hrun rfl
  exact ⟨hrun, hsync⟩

end CloudflareIpSync.Client
