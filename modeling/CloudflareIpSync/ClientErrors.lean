/-
CloudflareIpSync/ClientErrors.lean

Which responses make a client method raise anything but a `CloudflareError`.

`Typed` says of an outcome that it is a result or a `CloudflareError`.  It
distributes over the steps of a method (`typed_bind_iff`), so each method comes
down to the built-in operations it applies to a payload: `.get` on an element
that may not be an object, `int` on a value that may not be a number.  A run is
typed exactly if every response in it has the shape the method relies on
(`outcome_typed_iff`).
-/
import CloudflareIpSync.Envelope

namespace CloudflareIpSync.Client

open Interact Python CloudflareClient

variable {α β : Type} {client : CloudflareClient} {payload : Dict}

/-! ### Typed outcomes -/

/-- A result or a `CloudflareError`. -/
def Typed (out : Except ClientExc α) : Prop := ∀ exc, out ≠ .error (.builtin exc)

@[simp] theorem typed_ok (a : α) : Typed (.ok a : Except ClientExc α) := by
  intro exc h
  cases h

@[simp] theorem typed_cloudflare (err : CloudflareError) :
    Typed (.error (.cloudflare err) : Except ClientExc α) := by
  intro exc h
  cases h

@[simp] theorem not_typed_builtin (exc : Exc) :
    ¬ Typed (.error (.builtin exc) : Except ClientExc α) := by
  intro h
  exact h exc rfl

theorem typed_bind_iff {x : Except ClientExc α} {f : α → Except ClientExc β} :
    Typed (x >>= f) ↔ Typed x ∧ ∀ a, x = .ok a → Typed (f a) := by
  rcases x with (err | exc) | a
  · simp
  · simp
  · simp

/-- Built-in operations must return. -/
@[simp] theorem typed_lift_iff {x : Except Exc α} :
    Typed (liftM x : Except ClientExc α) ↔ Returns x := by
  rcases x with exc | a
  · simp
  · simp

/-! ### The shape of a response -/

/-- An answer whose payload, if it has one, has readable errors, and has the
shape `R` if it is accepted. -/
def Readable (R : Dict → Prop) : HttpAnswer → Prop
  | .response status (.json (.obj payload)) =>
      ErrorsReadable payload ∧ (Accepted status payload → R payload)
  | _ => True

/-- What is done with an answer is typed if what is done with its payload is. -/
theorem typed_receive_iff {method path : String} {answer : HttpAnswer}
    {view : Dict → Except ClientExc α} {R : Dict → Prop}
    (hview : ∀ payload, Typed (view payload) ↔ R payload) :
    Typed (client.receive method path answer >>= view) ↔ Readable R answer := by
  rcases answer with - | text | ⟨status, body⟩
  · simp [receive, Readable]
  · simp [receive, Readable]
  rcases hbody : body.decoded with - | payload
  · obtain ⟨message, hreceive⟩ := receive_noPayload client method path status hbody
    rw [hreceive, error_bind]
    rcases body with - | value
    · simp [Readable]
    · cases value with
      | obj fields => cases hbody
      | null | bool | int | float | str | arr => simp [Readable]
  obtain rfl := eq_of_decoded hbody
  rw [Readable]
  by_cases hreadable : ErrorsReadable payload
  · obtain ⟨message, hreceive⟩ := receive_payload client method path status hreadable
    rw [hreceive]
    rcases herr : statusError status payload message with - | err
    · rw [statusError_eq_none] at herr
      simp [hview, hreadable, herr]
    · have hrefused : ¬ Accepted status payload := by
        rw [← statusError_eq_none message, herr]
        simp
      simp [hreadable, hrefused]
  · obtain ⟨exc, hreceive⟩ := receive_unreadable client method path status hreadable
    simp [hreceive, hreadable]

/-! ### What the methods rely on -/

/-- The elements of a `result` list are objects, and those with an id are
readable. -/
def ElementsReadable (readable : Dict → Bool) (payload : Dict) : Prop :=
  ∀ elements, payload.get "result" .null = .arr elements → ∀ element ∈ elements,
    ∃ fields, element = .obj fields ∧
      ((Dict.get fields "id" .null).truthy = true → readable fields = true)

/-- A `result` object is readable. -/
def ResultReadable (readable : Dict → Bool) (payload : Dict) : Prop :=
  ∀ result, payload.get "result" .null = .obj result → readable result = true

/-- `total_pages` is no infinite number. -/
def PagesReadable (payload : Dict) : Prop :=
  ∀ resultInfo, payload.get "result_info" .null = .obj resultInfo →
    Dict.get resultInfo "total_pages" (.int 1) ≠ .float .posInf ∧
      Dict.get resultInfo "total_pages" (.int 1) ≠ .float .negInf

theorem typed_requireList_iff {f : List Json → Except ClientExc α} :
    Typed (requireList payload >>= f) ↔
      ∀ elements, payload.get "result" .null = .arr elements → Typed (f elements) := by
  unfold requireList
  generalize payload.get "result" .null = result
  cases result with
  | arr elements => simp
  | null | bool | int | float | str | obj => simp

theorem typed_requireResult_iff {f : Json → Except ClientExc α} :
    Typed (requireResult payload >>= f) ↔
      ∀ result, payload.get "result" .null = .obj result → Typed (f (.obj result)) := by
  unfold requireResult
  generalize payload.get "result" .null = result
  cases result with
  | obj fields => simp
  | null | bool | int | float | str | arr => simp

/-- The methods that only look at a `result` object. -/
theorem typed_result_iff {f : Json → Except ClientExc α}
    (hf : ∀ result, Typed (f (.obj result))) :
    Typed (requireResult payload >>= f) ↔ True := by
  rw [typed_requireResult_iff, iff_true]
  intro result _
  exact hf result

theorem returns_withId_iff {build : Json → Except Exc α} {readable : Dict → Bool}
    (hbuild : ∀ fields, (Dict.get fields "id" .null).truthy = true →
      (Returns (build (.obj fields)) ↔ readable fields = true)) (items : List Json) :
    Returns (withId build items) ↔ ∀ item ∈ items, ∃ fields, item = .obj fields ∧
      ((Dict.get fields "id" .null).truthy = true → readable fields = true) := by
  induction items with
  | nil => simp [withId]
  | cons item rest ih =>
      rw [withId, List.forall_mem_cons]
      cases item with
      | obj fields =>
          rw [Json.get_obj, ok_bind]
          rcases hid : (Dict.get fields "id" .null).truthy with - | -
          · simp [ih, hid]
          · have hvalue := hbuild fields hid
            rw [if_pos rfl, returns_bind_iff]
            simp only [Json.obj.injEq, exists_eq_left', hid, forall_const]
            rw [← hvalue, ← ih]
            constructor
            · rintro ⟨value, h, hrest⟩
              obtain ⟨values, hvalues, -⟩ := returns_bind_iff.mp hrest
              exact ⟨⟨value, h⟩, values, hvalues⟩
            · rintro ⟨⟨value, h⟩, values, hvalues⟩
              exact ⟨value, h, returns_bind_iff.mpr ⟨values, hvalues, returns_ok _⟩⟩
      | null | bool | int | float | str | arr => simp [Json.get]

/-- The methods that return the elements with an id. -/
theorem typed_elements_iff {build : Json → Except Exc α} {readable : Dict → Bool}
    (hbuild : ∀ fields, (Dict.get fields "id" .null).truthy = true →
      (Returns (build (.obj fields)) ↔ readable fields = true)) :
    Typed (requireList payload >>= fun elements => liftM (withId build elements)) ↔
      ElementsReadable readable payload := by
  rw [typed_requireList_iff]
  simp only [typed_lift_iff, returns_withId_iff hbuild]
  rfl

/-- An element with an id: the subscript finds it. -/
theorem returns_readAccount {fields : Dict} (h : (Dict.get fields "id" .null).truthy = true) :
    Returns (client.readAccount (.obj fields)) := by
  simp [readAccount, Json.item_of_truthy h]

theorem returns_readZone {fields : Dict} (h : (Dict.get fields "id" .null).truthy = true) :
    Returns (client.readZone (.obj fields)) := by
  simp [readZone, Json.item_of_truthy h]

theorem returns_readRuleList_iff {fields : Dict}
    (h : (Dict.get fields "id" .null).truthy = true) :
    Returns (client.readRuleList (.obj fields)) ↔
      (Dict.get fields "num_items" (.int 0)).isIntLike = true := by
  simp [readRuleList, Json.item_of_truthy h]

theorem returns_parseDnsRecord_iff {fields : Dict} :
    Returns (client.parseDnsRecord (.obj fields)) ↔
      (Dict.get fields "ttl" (.int 1)).isIntLike = true := by
  simp [parseDnsRecord]

/-- The methods that return one DNS record. -/
theorem typed_record_iff :
    Typed (requireResult payload >>= fun result => liftM (client.parseDnsRecord result)) ↔
      ResultReadable (fun fields => (Dict.get fields "ttl" (.int 1)).isIntLike) payload := by
  rw [typed_requireResult_iff]
  simp only [typed_lift_iff, returns_parseDnsRecord_iff]
  rfl

theorem returns_collectItems_iff {items : List CloudflareListItem} {raws : List Json} :
    Returns (client.collectItems items raws) ↔ ∀ raw ∈ raws, ∃ fields, raw = .obj fields := by
  induction raws generalizing items with
  | nil => simp [collectItems]
  | cons raw rest ih =>
      rw [collectItems, List.forall_mem_cons]
      cases raw with
      | obj fields =>
          rw [Json.get_obj, ok_bind]
          split
          · simp [ih]
          · simp [ih]
      | null | bool | int | float | str | arr => simp [Json.get]

theorem returns_totalPages_iff : Returns (totalPages payload) ↔ PagesReadable payload := by
  unfold totalPages PagesReadable
  generalize payload.get "result_info" .null = resultInfo
  cases resultInfo with
  | obj fields =>
      simp only [Json.obj.injEq, forall_eq']
      generalize Dict.get fields "total_pages" (.int 1) = pages
      cases pages with
      | float x => cases x <;> simp [Json.toInt]
      | str s => rcases h : intOfStr s with - | n <;> simp [Json.toInt, h]
      | null | bool | int | arr | obj => simp [Json.toInt]
  | null | bool | int | float | str | arr => simp

/-- What a round of `async_get_list_items` does with its payload. -/
theorem typed_itemsRound_iff (s : ItemsState) (payload : Dict) :
    Typed (client.itemsRound s.1 (.ok payload)) ↔ ElementsReadable (fun _ => true) payload := by
  rw [itemsRound, ok_bind, typed_requireList_iff]
  simp only [typed_bind_iff, typed_lift_iff, returns_collectItems_iff, ElementsReadable,
    implies_true, and_true]
  apply forall₂_congr
  intro elements _
  apply and_iff_left_of_imp
  intro _ items _
  split
  · exact typed_ok _
  · exact typed_ok _

/-- The request for a page of zones. -/
def zonesRequest (client : CloudflareClient) (page : ℕ) : HttpRequest :=
  client.httpRequest "GET" "/zones" (some [("per_page", "50"), ("page", toString page)]) none

theorem zonesBody_eq (s : ZonesState) :
    client.zonesBody s = .op (zonesRequest client s.2) fun answer =>
      .ret (client.zonesRound s.1 s.2 (client.receive "GET" "/zones" answer)) :=
  rfl

/-- What a round of `async_get_zones` does with its payload. -/
theorem typed_zonesRound_iff (s : ZonesState) (payload : Dict) :
    Typed (client.zonesRound s.1 s.2 (.ok payload)) ↔
      ElementsReadable (fun _ => true) payload ∧
        ((∃ elements, payload.get "result" .null = .arr elements) → PagesReadable payload) := by
  have hzones : ∀ elements, Returns (withId client.readZone elements) ↔
      ∀ element ∈ elements, ∃ fields, element = .obj fields ∧
        ((Dict.get fields "id" .null).truthy = true → true = true) := by
    apply returns_withId_iff
    intro fields hid
    exact ⟨fun _ => rfl, fun _ => returns_readZone hid⟩
  rw [zonesRound, ok_bind, typed_requireList_iff]
  simp only [typed_bind_iff, typed_lift_iff, returns_totalPages_iff]
  constructor
  · intro h
    refine ⟨fun elements helements => (hzones elements).mp (h elements helements).1, ?_⟩
    rintro ⟨elements, helements⟩
    obtain ⟨⟨zones, hz⟩, hpages⟩ := h elements helements
    exact (hpages zones (by rw [hz, lift_ok])).1
  · rintro ⟨hresult, hpages⟩ elements helements
    refine ⟨(hzones elements).mpr (hresult elements helements), fun zones _ => ?_⟩
    refine ⟨hpages ⟨elements, helements⟩, fun total _ => ?_⟩
    split
    · exact typed_ok _
    · exact typed_ok _

/-! ### Runs -/

/-- A method that sends one request and then looks at the payload. -/
theorem typed_single {m : Http (Except ClientExc α)} {request : HttpRequest}
    {method path : String} {view : Dict → Except ClientExc α} {R : Dict → Prop}
    (hm : m = .op request fun answer => .ret (client.receive method path answer >>= view))
    (hview : ∀ payload, Typed (view payload) ↔ R payload) {t : List HttpEv}
    {out : Except ClientExc α} (h : m.Traces t out) : Typed out ↔ ∀ e ∈ t, Readable R e.2 := by
  rw [hm] at h
  obtain ⟨answer, t', rfl, hret⟩ := Prog.traces_op_iff.mp h
  obtain ⟨rfl, rfl⟩ := Prog.traces_ret_iff.mp hret
  rw [typed_receive_iff hview]
  simp

/-- A loop whose rounds each send one request and look at the payload. -/
theorem typed_loop {σ : Type} {body : σ → Http (Except ClientExc (σ ⊕ α))}
    {request : σ → HttpRequest} {method path : String}
    {view : σ → Dict → Except ClientExc (σ ⊕ α)} {R : Dict → Prop}
    (hbody : ∀ s, body s = .op (request s) fun answer =>
      .ret (client.receive method path answer >>= view s))
    (hview : ∀ s payload, Typed (view s payload) ↔ R payload) {s : σ} {t : List HttpEv}
    {out : Except ClientExc α} (h : LoopRun body s t out) :
    Typed out ↔ ∀ e ∈ t, Readable R e.2 := by
  have hround : ∀ {s answer}, Typed (client.receive method path answer >>= view s) ↔
      Readable R answer := typed_receive_iff (hview _)
  induction t generalizing s with
  | nil =>
      obtain ⟨r, t', ht, -⟩ := (loopRun_iff hbody).mp h
      cases ht
  | cons e t ih =>
      obtain ⟨r, t', ht, hrest⟩ := (loopRun_iff hbody).mp h
      obtain ⟨rfl, rfl⟩ := List.cons_eq_cons.mp ht
      rw [List.forall_mem_cons]
      dsimp only
      rw [← hround (s := s)]
      rcases hnext : client.receive method path r >>= view s with exc | (s' | a)
      · rw [hnext] at hrest
        obtain ⟨rfl, rfl⟩ := hrest
        simp [Typed]
      · rw [hnext] at hrest
        have hrun : LoopRun body s' t out := hrest
        simp [ih hrun]
      · rw [hnext] at hrest
        obtain ⟨rfl, rfl⟩ := hrest
        simp

/-! ### The methods -/

/-- A call of one of the client's methods. -/
inductive Call
  | verifyToken
  | getAccounts
  | getRuleLists (accountId : String)
  | getListItems (accountId listId : String)
  | replaceListItems (accountId listId : String) (items : List CloudflareListItem)
  | getBulkOperation (accountId operationId : String)
  | getZones
  | getDnsRecords (zoneId : String) (name recordType : Option String)
  | createDnsRecord (zoneId name recordType content : String) (ttl : ℤ) (proxied : Bool)
      (comment : Option String)
  | updateDnsRecord (zoneId recordId content : String) (ttl : ℤ) (proxied : Bool)
      (comment : Option String)

/-- What the method returns. -/
abbrev Call.Result : Call → Type
  | verifyToken => CloudflareTokenStatus
  | getAccounts => List CloudflareAccount
  | getRuleLists _ => List CloudflareRuleList
  | getListItems _ _ => List CloudflareListItem
  | replaceListItems _ _ _ => String
  | getBulkOperation _ _ => CloudflareBulkOperation
  | getZones => List CloudflareZone
  | getDnsRecords _ _ _ => List CloudflareDnsRecord
  | createDnsRecord _ _ _ _ _ _ _ => CloudflareDnsRecord
  | updateDnsRecord _ _ _ _ _ _ => CloudflareDnsRecord

/-- The complete runs of the call. -/
def Call.Runs (client : CloudflareClient) :
    (call : Call) → List HttpEv → Except ClientExc call.Result → Prop
  | verifyToken => client.asyncVerifyToken.Traces
  | getAccounts => client.asyncGetAccounts.Traces
  | getRuleLists accountId => (client.asyncGetRuleLists accountId).Traces
  | getListItems accountId listId => client.AsyncGetListItems accountId listId
  | replaceListItems accountId listId items =>
      (client.asyncReplaceListItems accountId listId items).Traces
  | getBulkOperation accountId operationId =>
      (client.asyncGetBulkOperation accountId operationId).Traces
  | getZones => client.AsyncGetZones
  | getDnsRecords zoneId name recordType =>
      (client.asyncGetDnsRecords zoneId name recordType).Traces
  | createDnsRecord zoneId name recordType content ttl proxied comment =>
      (client.asyncCreateDnsRecord zoneId name recordType content ttl proxied comment).Traces
  | updateDnsRecord zoneId recordId content ttl proxied comment =>
      (client.asyncUpdateDnsRecord zoneId recordId content ttl proxied comment).Traces

/-- The shape of an accepted payload that the method relies on. -/
def Call.Relies : Call → Dict → Prop
  | verifyToken => fun _ => True
  | getAccounts => ElementsReadable fun _ => true
  | getRuleLists _ =>
      ElementsReadable fun fields => (Dict.get fields "num_items" (.int 0)).isIntLike
  | getListItems _ _ => ElementsReadable fun _ => true
  | replaceListItems _ _ _ => fun _ => True
  | getBulkOperation _ _ => fun _ => True
  | getZones => fun payload => ElementsReadable (fun _ => true) payload ∧
      ((∃ elements, payload.get "result" .null = .arr elements) → PagesReadable payload)
  | getDnsRecords _ _ _ =>
      ElementsReadable fun fields => (Dict.get fields "ttl" (.int 1)).isIntLike
  | createDnsRecord _ _ _ _ _ _ _ =>
      ResultReadable fun fields => (Dict.get fields "ttl" (.int 1)).isIntLike
  | updateDnsRecord _ _ _ _ _ _ =>
      ResultReadable fun fields => (Dict.get fields "ttl" (.int 1)).isIntLike

/-- **The error boundary of the client.** A call returns its result or raises a
`CloudflareError` exactly if every response it got is readable, with the bodies
as the decoder gives them. -/
theorem outcome_typed_iff {call : Call} {t : List HttpEv} {out : Except ClientExc call.Result}
    (h : call.Runs client t out) : Typed out ↔ ∀ e ∈ t, Readable call.Relies e.2 := by
  cases call with
  | verifyToken =>
      refine typed_single rfl (fun payload => typed_result_iff ?_) h
      intro result
      simp only [Json.get_obj, lift_ok, ok_bind]
      split
      · exact typed_ok _
      · exact typed_cloudflare _
  | getAccounts =>
      refine typed_single rfl (fun payload => typed_elements_iff ?_) h
      intro fields hid
      exact ⟨fun _ => rfl, fun _ => returns_readAccount hid⟩
  | getRuleLists accountId =>
      exact typed_single rfl (fun payload => typed_elements_iff fun _ => returns_readRuleList_iff) h
  | getListItems accountId listId =>
      exact typed_loop (listItemsBody_eq accountId listId) typed_itemsRound_iff h
  | replaceListItems accountId listId items =>
      refine typed_single rfl (fun payload => typed_result_iff ?_) h
      intro result
      simp only [Json.get_obj, lift_ok, ok_bind]
      split
      · exact typed_ok _
      · exact typed_cloudflare _
  | getBulkOperation accountId operationId =>
      refine typed_single rfl (fun payload => typed_result_iff ?_) h
      intro result
      exact typed_ok _
  | getZones => exact typed_loop zonesBody_eq typed_zonesRound_iff h
  | getDnsRecords zoneId name recordType =>
      refine typed_single rfl (fun payload => typed_elements_iff ?_) h
      intro fields _
      exact returns_parseDnsRecord_iff
  | createDnsRecord zoneId name recordType content ttl proxied comment =>
      exact typed_single rfl (fun payload => typed_record_iff) h
  | updateDnsRecord zoneId recordId content ttl proxied comment =>
      exact typed_single rfl (fun payload => typed_record_iff) h

/-- A method that sends one request has a run for every answer. -/
theorem traces_answer (request : HttpRequest) (view : HttpAnswer → Except ClientExc α)
    (answer : HttpAnswer) :
    (Prog.op request fun answer => .ret (view answer) : Http (Except ClientExc α)).Traces
      [⟨request, answer⟩] (view answer) :=
  Prog.traces_op_iff.mpr ⟨answer, [], rfl, Prog.traces_ret_iff.mpr ⟨rfl, rfl⟩⟩

def sampleClient : CloudflareClient :=
  CloudflareClient.init "token" "https://api.cloudflare.com/client/v4" fun _ => ""

/-- An account with one Rule List, and what is said of its number of items. -/
def ruleListAnswer (numItems : Json) : HttpAnswer :=
  .response 200 (.json (.obj [("success", .bool true),
    ("result", .arr [.obj [("id", .str "l1"), ("num_items", numItems)]])]))

/-- No zones, on infinitely many pages. -/
def endlessZonesAnswer : HttpAnswer :=
  .response 200 (.json (.obj [("success", .bool true), ("result", .arr []),
    ("result_info", .obj [("total_pages", .float .posInf)])]))

/-- A refusal whose errors are texts. -/
def textErrorsAnswer : HttpAnswer :=
  .response 401 (.json (.obj [("errors", .arr [.str "Invalid API Token"])]))

/-- Three responses after which another exception escapes. -/
theorem builtin_exceptions_escape :
    (∃ t, (Call.getRuleLists "acc").Runs sampleClient t (.error (.builtin .typeError))) ∧
      (∃ t, Call.getZones.Runs sampleClient t (.error (.builtin .overflowError))) ∧
      ∃ t, Call.verifyToken.Runs sampleClient t (.error (.builtin .attributeError)) := by
  have hzones : ∃ t, Call.getZones.Runs sampleClient t (.error (.builtin .overflowError)) :=
    ⟨_, (loopRun_iff zonesBody_eq).mpr ⟨endlessZonesAnswer, [], rfl, rfl, rfl⟩⟩
  exact ⟨⟨_, traces_answer _ _ (ruleListAnswer .null)⟩, hzones,
    ⟨_, traces_answer _ _ textErrorsAnswer⟩⟩

/-- A number of items that is a text `int` accepts. -/
theorem outcome_typed_text :
    ∃ t out, (Call.getRuleLists "acc").Runs sampleClient t out ∧
      t.map (·.2) = [ruleListAnswer (.str " 3")] ∧ Typed out := by
  have hrun : (Call.getRuleLists "acc").Runs sampleClient _ _ :=
    traces_answer _ _ (ruleListAnswer (.str " 3"))
  refine ⟨_, _, hrun, rfl, (outcome_typed_iff hrun).mpr ?_⟩
  intro e he
  obtain rfl := List.mem_singleton.mp he
  refine ⟨rfl, fun _ elements helements element helement => ?_⟩
  obtain rfl := Json.arr.inj helements
  obtain rfl := List.mem_singleton.mp helement
  exact ⟨_, rfl, fun _ => by decide +kernel⟩

end CloudflareIpSync.Client
