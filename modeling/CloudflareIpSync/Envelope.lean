/-
CloudflareIpSync/Envelope.lean

What `_request` makes of a response, for every status and every body.

`_raise_for_status` looks for an error message before it looks at the status,
so it raises a built-in exception where `errors` has not the shape it expects.
`ErrorsReadable` says when it has.  For such a payload the outcome is decided by
the status and the `success` flag (`receive_payload`), and a body that is no
object is an API error whatever the status.  The status therefore decides the
error class exactly for the bodies of `status_classes_iff`.
-/
import CloudflareIpSync.Client
import CloudflareIpSync.Outcomes

namespace CloudflareIpSync.Client

open Interact Python CloudflareClient

variable {client : CloudflareClient} {method path : String} {status : ℤ} {payload : Dict}

/-! ### The error list -/

/-- Every element before the first one with a message is an object, and so is
that one. -/
def messagesReadable : List Json → Bool
  | [] => true
  | .obj error :: rest => (Dict.get error "message" .null).truthy || messagesReadable rest
  | _ :: _ => false

/-- The `errors` of a payload are absent, empty or false, or they are a list in
which a message can be looked for. -/
def ErrorsReadable (payload : Dict) : Prop :=
  match errorsOf payload with
  | .arr errors => messagesReadable errors = true
  | _ => False

theorem returns_firstErrorMessage_iff {errors : List Json} :
    Returns (client.firstErrorMessage errors) ↔ messagesReadable errors = true := by
  induction errors with
  | nil => simp [CloudflareClient.firstErrorMessage, messagesReadable]
  | cons error rest ih =>
      rw [CloudflareClient.firstErrorMessage, returns_bind_iff]
      cases error with
      | obj fields =>
          simp only [Json.get, Except.ok.injEq, exists_eq_left', messagesReadable]
          rcases (Dict.get fields "message" .null).truthy with - | -
          · simpa using ih
          · simp
      | null | bool | int | float | str | arr => simp [Json.get, messagesReadable]

theorem errorsOf_truthy_or (payload : Dict) :
    errorsOf payload = .arr [] ∨ (errorsOf payload).truthy = true := by
  unfold errorsOf
  split
  · right; assumption
  · left; rfl

/-- The message `_raise_for_status` looks for first. -/
def errorMessage (client : CloudflareClient) (payload : Dict) : Except Exc (Option String) := do
  client.firstErrorMessage (← (errorsOf payload).iter)

theorem returns_errorMessage_iff : Returns (errorMessage client payload) ↔
    ErrorsReadable payload := by
  rw [errorMessage, returns_bind_iff]
  unfold ErrorsReadable
  rcases errorsOf_truthy_or payload with h | h
  · rw [h]
    simp [Json.iter, returns_firstErrorMessage_iff]
  · -- the keys of an object and the characters of a text have no messages
    generalize errorsOf payload = errors at h
    cases errors with
    | arr errors => simp [Json.iter, returns_firstErrorMessage_iff]
    | obj fields =>
        rcases fields with - | ⟨field, rest⟩
        · cases h
        · simp [Json.iter, returns_firstErrorMessage_iff, messagesReadable]
    | str s =>
        rcases hs : s.toList with - | ⟨c, rest⟩
        · obtain rfl : s = "" := String.toList_inj.mp hs
          cases h
        · simp [Json.iter, returns_firstErrorMessage_iff, messagesReadable, hs]
    | null | bool | int | float => simp [Json.iter]

/-! ### The outcome of a response -/

/-- The error `_raise_for_status` raises, once the message is known. -/
def statusError (status : ℤ) (payload : Dict) (message : Option String) :
    Option CloudflareError :=
  if status = 401 ∨ status = 403 then
    some (.auth (orDefault message ("Unauthorized (HTTP " ++ toString status ++ ")")))
  else if status = 429 then
    some (.rateLimit (orDefault message "Cloudflare rate limit reached"))
  else if 400 ≤ status ∨ (payload.get "success" (.bool false)).truthy = false then
    some (.api (orDefault message ("Cloudflare API error (HTTP " ++ toString status ++ ")"))
      (some status))
  else none

/-- A payload is accepted below 400 with a true `success`. -/
def Accepted (status : ℤ) (payload : Dict) : Prop :=
  status < 400 ∧ (payload.get "success" (.bool false)).truthy = true

theorem statusError_eq_none (message : Option String) :
    statusError status payload message = none ↔ Accepted status payload := by
  unfold statusError Accepted
  split_ifs with hauth hlimit hfailed
  · rcases hauth with rfl | rfl <;> simp
  · subst hlimit
    simp
  · rcases hfailed with h | h
    · simp [not_lt.mpr h]
    · simp [h]
  · rw [not_or, not_le, Bool.not_eq_false] at hfailed
    simp [hfailed]

theorem raiseForStatus_eq : client.raiseForStatus status payload =
    match errorMessage client payload with
    | .error exc => .error (.builtin exc)
    | .ok message =>
        match statusError status payload message with
        | some err => .error (.cloudflare err)
        | none => .ok () := by
  unfold raiseForStatus errorMessage statusError
  rcases (errorsOf payload).iter with exc | errors
  · rfl
  rw [lift_ok, ok_bind, ok_bind]
  rcases client.firstErrorMessage errors with exc | message
  · rfl
  rw [lift_ok, ok_bind]
  split
  · rfl
  split
  · rfl
  split
  · rfl
  · rfl

/-- The payload of a body that is an object. -/
def Body.decoded : Body → Option Dict
  | .json (.obj payload) => some payload
  | _ => none

/-- The payload of a body that is an object with a true `success`. -/
def Body.successful (body : Body) : Option Dict :=
  body.decoded.filter fun payload => (payload.get "success" (.bool false)).truthy

theorem eq_of_decoded {body : Body} (h : body.decoded = some payload) :
    body = .json (.obj payload) := by
  rcases body with - | value
  · cases h
  cases value with
  | obj fields => cases h; rfl
  | null | bool | int | float | str | arr => cases h

/-- A payload whose errors can be read: the status and the flag decide. -/
theorem receive_payload (client : CloudflareClient) (method path : String) (status : ℤ)
    (h : ErrorsReadable payload) : ∃ message,
    client.receive method path (.response status (.json (.obj payload))) =
      match statusError status payload message with
      | some err => .error (.cloudflare err)
      | none => .ok payload := by
  have hreturns : Returns (errorMessage client payload) := returns_errorMessage_iff.mpr h
  obtain ⟨message, hmessage⟩ := hreturns
  refine ⟨message, ?_⟩
  rw [receive, parseJson, ok_bind, raiseForStatus_eq, hmessage]
  dsimp only
  rcases statusError status payload message with - | err
  · rfl
  · rfl

/-- Otherwise a built-in exception escapes. -/
theorem receive_unreadable (client : CloudflareClient) (method path : String) (status : ℤ)
    (h : ¬ ErrorsReadable payload) : ∃ exc,
    client.receive method path (.response status (.json (.obj payload))) =
      .error (.builtin exc) := by
  rcases hmessage : errorMessage client payload with exc | message
  · refine ⟨exc, ?_⟩
    rw [receive, parseJson, ok_bind, raiseForStatus_eq, hmessage]
    rfl
  · exact absurd (returns_errorMessage_iff.mp ⟨message, hmessage⟩) h

/-- A body that is no object is an API error, whatever the status. -/
theorem receive_noPayload (client : CloudflareClient) (method path : String) (status : ℤ)
    {body : Body} (h : body.decoded = none) : ∃ message,
    client.receive method path (.response status body) =
      .error (.cloudflare (.api message (some status))) := by
  rcases body with - | value
  · exact ⟨_, rfl⟩
  cases value with
  | obj fields => cases h
  | null | bool | int | float | str | arr => exact ⟨_, rfl⟩

/-- Which payloads `_request` returns. -/
theorem receive_ok {answer : HttpAnswer} (h : client.receive method path answer = .ok payload) :
    ∃ status, answer = .response status (.json (.obj payload)) ∧ ErrorsReadable payload ∧
      Accepted status payload := by
  rcases answer with - | text | ⟨status, body⟩
  · cases h
  · cases h
  rcases hbody : body.decoded with - | payload'
  · obtain ⟨message, herr⟩ := receive_noPayload client method path status hbody
    cases herr.symm.trans h
  obtain rfl := eq_of_decoded hbody
  by_cases hreadable : ErrorsReadable payload'
  · obtain ⟨message, hreceive⟩ := receive_payload client method path status hreadable
    rw [hreceive] at h
    rcases herr : statusError status payload' message with - | err
    · rw [herr] at h
      cases h
      exact ⟨status, rfl, hreadable, (statusError_eq_none message).mp herr⟩
    · rw [herr] at h
      cases h
  · obtain ⟨exc, hreceive⟩ := receive_unreadable client method path status hreadable
    cases hreceive.symm.trans h

/-! ### The status decides the error class -/

/-- The outcome of a request that the status of its response calls for. -/
def ClassedByStatus (status : ℤ) (body : Body) (out : Except ClientExc Dict) : Prop :=
  if status = 401 ∨ status = 403 then ∃ message, out = .error (.cloudflare (.auth message))
  else if status = 429 then ∃ message, out = .error (.cloudflare (.rateLimit message))
  else
    match if 400 ≤ status then none else body.successful with
    | some payload => out = .ok payload
    | none => ∃ message, out = .error (.cloudflare (.api message (some status)))

/-- What a refresh makes of a list read in which a page was answered so: 401 and
403 ask for a new token, and 429 does not lead to the query for the account's
lists. -/
def HeardByRefresh (client : CloudflareClient) (status : ℤ) (body : Body) : Prop :=
  ∀ accountId listId t out, client.AsyncGetListItems accountId listId t out →
    (∃ e ∈ t, e.2 = .response status body) →
    (status = 401 ∨ status = 403 → ∃ message, out = .error (.cloudflare (.auth message)) ∧
      ∀ c t' out', (asyncUpdateData c).Traces t' out' →
        initialRead t' = some (.error (.auth message)) →
        ∃ message', out' = .error (.configEntryAuthFailed message')) ∧
    (status = 429 → ∃ message, out = .error (.cloudflare (.rateLimit message)) ∧
      ∀ c t' out', (asyncUpdateData c).Traces t' out' →
        initialRead t' = some (.error (.rateLimit message)) →
        ∀ e ∈ t', e.1 ≠ .getRuleLists c.accountId)

/-- The responses of which the status decides the error class. -/
def StatusDecides (status : ℤ) (body : Body) : Prop :=
  match body.decoded with
  | some payload => ErrorsReadable payload
  | none => status ≠ 401 ∧ status ≠ 403 ∧ status ≠ 429

/-- A body that is no object is classed as an API error. -/
theorem classed_noPayload_iff {body : Body} (h : body.decoded = none) :
    ClassedByStatus status body (client.receive method path (.response status body)) ↔
      status ≠ 401 ∧ status ≠ 403 ∧ status ≠ 429 := by
  obtain ⟨message, hreceive⟩ := receive_noPayload client method path status h
  have hsuccess : body.successful = none := by rw [Body.successful, h]; rfl
  rw [hreceive, ClassedByStatus, hsuccess, ite_self]
  split_ifs with hauth hlimit
  · constructor
    · rintro ⟨_, herr⟩
      cases herr
    · rintro ⟨h₁, h₂, -⟩
      exact (hauth.elim h₁ h₂).elim
  · constructor
    · rintro ⟨_, herr⟩
      cases herr
    · rintro ⟨-, -, h₃⟩
      exact absurd hlimit h₃
  · rw [not_or] at hauth
    exact ⟨fun _ => ⟨hauth.1, hauth.2, hlimit⟩, fun _ => ⟨message, rfl⟩⟩

/-- A built-in exception is of no error class. -/
theorem not_classed_builtin {body : Body} {exc : Exc} :
    ¬ ClassedByStatus status body (.error (.builtin exc)) := by
  intro h
  rw [ClassedByStatus] at h
  split_ifs at h
  · obtain ⟨_, h⟩ := h
    cases h
  · obtain ⟨_, h⟩ := h
    cases h
  · obtain ⟨_, h⟩ := h
    cases h
  · rcases hbody : body.successful with - | payload
    · rw [hbody] at h
      obtain ⟨_, h⟩ := h
      cases h
    · rw [hbody] at h
      cases h

theorem classed_payload (h : ErrorsReadable payload) :
    ClassedByStatus status (.json (.obj payload))
      (client.receive method path (.response status (.json (.obj payload)))) := by
  obtain ⟨message, hreceive⟩ := receive_payload client method path status h
  have hsuccess : (Body.json (.obj payload)).successful =
      if (payload.get "success" (.bool false)).truthy then some payload else none := rfl
  rw [hreceive, ClassedByStatus, statusError, hsuccess]
  by_cases hauth : status = 401 ∨ status = 403
  · rw [if_pos hauth, if_pos hauth]
    exact ⟨_, rfl⟩
  rw [if_neg hauth, if_neg hauth]
  by_cases hlimit : status = 429
  · rw [if_pos hlimit, if_pos hlimit]
    exact ⟨_, rfl⟩
  rw [if_neg hlimit, if_neg hlimit]
  by_cases hstatus : 400 ≤ status
  · rw [if_pos hstatus, if_pos (.inl hstatus)]
    exact ⟨_, rfl⟩
  rw [if_neg hstatus]
  rcases (payload.get "success" (.bool false)).truthy with - | -
  · rw [if_neg Bool.false_ne_true, if_pos (.inr rfl)]
    exact ⟨_, rfl⟩
  · rw [if_pos rfl, if_neg (by simp [hstatus])]

theorem classed_iff {body : Body} :
    ClassedByStatus status body (client.receive method path (.response status body)) ↔
      StatusDecides status body := by
  unfold StatusDecides
  rcases hbody : body.decoded with - | payload
  · exact classed_noPayload_iff hbody
  obtain rfl := eq_of_decoded hbody
  constructor
  · intro h
    by_contra hreadable
    obtain ⟨exc, hreceive⟩ := receive_unreadable client method path status hreadable
    rw [hreceive] at h
    exact not_classed_builtin h
  · exact classed_payload

/-! ### What a refresh makes of it -/

/-- The request for the page at a cursor. -/
def itemsRequest (client : CloudflareClient) (accountId listId : String)
    (cursor : Option String) : HttpRequest :=
  client.httpRequest "GET" (itemsPath accountId listId) (some (itemsParams cursor)) none

theorem listItemsBody_eq (accountId listId : String) (s : ItemsState) :
    client.listItemsBody accountId listId s =
      .op (itemsRequest client accountId listId s.2) fun answer =>
        .ret (client.itemsRound s.1 (client.receive "GET" (itemsPath accountId listId) answer)) :=
  rfl

/-- A page whose request raises ends the read with that exception. -/
theorem listItems_raised {accountId listId : String} {t : List HttpEv}
    {out : Except ClientExc (List CloudflareListItem)} {exc : ClientExc} {e : HttpEv}
    (h : client.AsyncGetListItems accountId listId t out) (he : e ∈ t)
    (hraise : client.receive "GET" (itemsPath accountId listId) e.2 = .error exc) :
    out = .error exc := by
  obtain ⟨before, after, rfl⟩ := List.append_of_mem he
  refine (h.last (listItemsBody_eq accountId listId) ?_).2
  rintro s r rfl
  rw [hraise]
  rfl

/-- An authentication error of the first list read makes the refresh ask for a
new token. -/
theorem reauth_of_initialRead {c : Coordinator} {t : List Ev} {message : String}
    {out : Except UpdateError SyncState} (h : (asyncUpdateData c).Traces t out)
    (hread : initialRead t = some (.error (.auth message))) :
    out = .error (.configEntryAuthFailed message) := by
  have hrun := refreshRun_of_traces h
  obtain ⟨state, rfl⟩ := hrun.of_initialRead hread (by simp)
  rw [reauth_iff, hrun.failFast.cut_iff]
  exact ⟨[sourceEv c state], readEv c (.error (.auth message)), [], rfl, rfl⟩

theorem heardByRefresh_of_statusDecides {body : Body} (h : StatusDecides status body) :
    HeardByRefresh client status body := by
  rintro accountId listId t out hread ⟨e, he, hanswer⟩
  have hclass : ClassedByStatus status body
      (client.receive "GET" (itemsPath accountId listId) e.2) := by
    rw [hanswer]
    exact classed_iff.mpr h
  refine ⟨?_, ?_⟩
  · intro hstatus
    rw [ClassedByStatus, if_pos hstatus] at hclass
    obtain ⟨message, hraise⟩ := hclass
    refine ⟨message, listItems_raised hread he hraise, ?_⟩
    intro c t' out' hrefresh hinitial
    exact ⟨message, reauth_of_initialRead hrefresh hinitial⟩
  · rintro rfl
    rw [ClassedByStatus, if_neg (by decide), if_pos rfl] at hclass
    obtain ⟨message, hraise⟩ := hclass
    refine ⟨message, listItems_raised hread he hraise, ?_⟩
    intro c t' out' hrefresh hinitial
    obtain ⟨state, rfl⟩ := (refreshRun_of_traces hrefresh).of_initialRead hinitial (by simp)
    simp

/-- One request, and what is made of its answer. -/
theorem traces_request_iff {params : Option (List (String × String))} {json : Option Json}
    {t : List HttpEv} {out : Except ClientExc Dict} :
    (client.request method path params json).Traces t out ↔
      ∃ answer, t = [⟨client.httpRequest method path params json, answer⟩] ∧
        out = client.receive method path answer := by
  constructor
  · intro h
    obtain ⟨answer, t', rfl, hret⟩ := Prog.traces_op_iff.mp h
    obtain ⟨rfl, rfl⟩ := Prog.traces_ret_iff.mp hret
    exact ⟨answer, rfl, rfl⟩
  · rintro ⟨answer, rfl, rfl⟩
    exact Prog.traces_op_iff.mpr ⟨answer, [], rfl, Prog.traces_ret_iff.mpr ⟨rfl, rfl⟩⟩

/-- **The status decides the error class**, for `_request` and for the refresh
that reads the list, exactly for the responses whose body, as the decoder gives
it, is an object with a readable error list, or is no object and comes with none
of the statuses 401, 403 and 429. -/
theorem status_classes_iff (client : CloudflareClient) (method path : String)
    (params : Option (List (String × String))) (json : Option Json) (status : ℤ) (body : Body) :
    ((∀ t out, (client.request method path params json).Traces t out →
        (∃ e ∈ t, e.2 = .response status body) → ClassedByStatus status body out) ∧
      HeardByRefresh client status body) ↔ StatusDecides status body := by
  constructor
  · rintro ⟨hclass, -⟩
    apply classed_iff.mp
    apply hclass _ _ (traces_request_iff.mpr ⟨.response status body, rfl, rfl⟩)
    exact ⟨_, List.mem_singleton_self _, rfl⟩
  · intro h
    refine ⟨?_, heardByRefresh_of_statusDecides h⟩
    rintro t out hrun ⟨e, he, hanswer⟩
    obtain ⟨answer, rfl, rfl⟩ := traces_request_iff.mp hrun
    obtain rfl := List.mem_singleton.mp he
    obtain rfl : answer = .response status body := hanswer
    exact classed_iff.mpr h

/-- A proxy answers 403 with an HTML page: an API error, not an authentication
error. -/
theorem blocked_page_not_auth :
    let client := CloudflareClient.init "token" "https://api.cloudflare.com/client/v4" fun _ => ""
    ¬ ((∀ t out, (client.request "GET" "/accounts" none none).Traces t out →
        (∃ e ∈ t, e.2 = .response 403 .notJson) → ClassedByStatus 403 .notJson out) ∧
      HeardByRefresh client 403 .notJson) := by
  intro client
  rintro ⟨hclass, -⟩
  have h := hclass _ _ (traces_request_iff.mpr ⟨.response 403 .notJson, rfl, rfl⟩)
    ⟨_, List.mem_singleton_self _, rfl⟩
  obtain ⟨-, hforbidden, -⟩ := classed_iff.mp h
  exact hforbidden rfl

end CloudflareIpSync.Client
