/-
CloudflareIpSync/Client.lean

The client of `api.py`, from its ten public methods down to the requests they
send.  Every method is a program over HTTP requests, answered by a response of
any status with any body, a timeout, or another failure of the transport.

* `receive` is what `_request` makes of an answer: the payload, or an exception.
* A method that sends one request is that request and then a computation on the
  payload.
* The two paginated reads are loops, given by their bodies (`listItemsBody`,
  `zonesBody`).

A field that a method passes on without a conversion is any JSON value here;
the rest of the development sees these fields as texts.  Log output, the raw
`errors` that `CloudflareApiError` keeps, and the limits of the interpreter (its
recursion limit on deeply nested bodies) are left out.
-/
import CloudflareIpSync.Api
import CloudflareIpSync.Json
import CloudflareIpSync.Loop

namespace CloudflareIpSync.Client

open Interact Python

/-! ### Requests and answers -/

/-- What a method can raise: a client error, or an exception of a built-in
operation. -/
inductive ClientExc
  | cloudflare (err : CloudflareError)
  | builtin (exc : Exc)
  deriving DecidableEq

/-- An exception of a built-in operation is raised as it is. -/
instance : MonadLift (Except Exc) (Except ClientExc) where
  monadLift := Except.mapError .builtin

@[simp] theorem lift_ok {α : Type} (a : α) :
    (liftM (.ok a : Except Exc α) : Except ClientExc α) = .ok a := rfl

@[simp] theorem lift_error {α : Type} (exc : Exc) :
    (liftM (.error exc : Except Exc α) : Except ClientExc α) = .error (.builtin exc) := rfl

structure HttpRequest where
  method : String
  url : String
  headers : List (String × String)
  params : Option (List (String × String))
  json : Option Json

/-- A response body as the decoder gives it: text that `json` does not decode, or
a JSON value.  `response.json` reads an empty body as `None`.  A body that the
decoder gives up on at its recursion limit is none of the two. -/
inductive Body
  | notJson
  | json (value : Json)

/-- What becomes of a request.  The text of a `ClientError` is what it prints. -/
inductive HttpAnswer
  | timeout
  | clientError (text : String)
  | response (status : ℤ) (body : Body)

/-- Programs over HTTP requests. -/
abbrev Http := Prog HttpRequest fun _ => HttpAnswer

/-- A request with its answer. -/
abbrev HttpEv := Event fun _ : HttpRequest => HttpAnswer

/-! ### Data models -/

structure CloudflareTokenStatus where
  id : String
  status : String

/-- `CloudflareTokenStatus.is_active`. -/
def CloudflareTokenStatus.isActive (status : CloudflareTokenStatus) : Bool :=
  status.status == "active"

structure CloudflareAccount where
  id : String
  name : String

structure CloudflareRuleList where
  id : String
  name : String
  kind : String
  numItems : ℤ
  description : Json

structure CloudflareListItem where
  ip : String
  id : Json
  comment : Json

structure CloudflareZone where
  id : String
  name : String

structure CloudflareDnsRecord where
  id : String
  name : String
  type : String
  content : String
  proxied : Bool
  ttl : ℤ
  comment : Json

structure CloudflareBulkOperation where
  id : String
  status : String
  error : Json

/-! ### The client -/

/-- The attributes of `CloudflareClient`, and how Python prints a float, an
array or an object. -/
structure CloudflareClient where
  token : String
  baseUrl : String
  render : Json → String

/-- `CloudflareClient.__init__`. -/
def CloudflareClient.init (token baseUrl : String) (render : Json → String) : CloudflareClient where
  token := token
  baseUrl := String.ofList (baseUrl.toList.rdropWhile (· == '/'))
  render := render

namespace CloudflareClient

/-- `str`. -/
def str (client : CloudflareClient) : Json → String := Json.pyStr client.render

/-! ### Receiving a response -/

/-- `_parse_json`. -/
def parseJson (status : ℤ) : Body → Except ClientExc Dict
  | .notJson => .error (.cloudflare (.api
      ("Invalid response from Cloudflare (HTTP " ++ toString status ++ ")") (some status)))
  | .json (.obj payload) => .ok payload
  | .json _ => .error (.cloudflare (.api
      ("Unexpected response from Cloudflare (HTTP " ++ toString status ++ ")") (some status)))

/-- `_first_error_message`, on the elements of the error list. -/
def firstErrorMessage (client : CloudflareClient) : List Json → Except Exc (Option String)
  | [] => return none
  | error :: rest => do
      let message ← error.get "message" .null
      if message.truthy then return some (client.str message)
      else client.firstErrorMessage rest

/-- `payload.get("errors") or []`. -/
def errorsOf (payload : Dict) : Json :=
  if (payload.get "errors" .null).truthy then payload.get "errors" .null else .arr []

/-- `_raise_for_status`. -/
def raiseForStatus (client : CloudflareClient) (status : ℤ) (payload : Dict) :
    Except ClientExc Unit := do
  -- the message is looked for whatever the status is
  let message ← client.firstErrorMessage (← (errorsOf payload).iter)
  if status = 401 ∨ status = 403 then
    throw (.cloudflare (.auth
      (orDefault message ("Unauthorized (HTTP " ++ toString status ++ ")"))))
  else if status = 429 then
    throw (.cloudflare (.rateLimit (orDefault message "Cloudflare rate limit reached")))
  else if 400 ≤ status ∨ (payload.get "success" (.bool false)).truthy = false then
    throw (.cloudflare (.api
      (orDefault message ("Cloudflare API error (HTTP " ++ toString status ++ ")"))
      (some status)))
  else return ()

/-- What `_request` makes of an answer. -/
def receive (client : CloudflareClient) (method path : String) :
    HttpAnswer → Except ClientExc Dict
  | .timeout => .error (.cloudflare (.connection
      ("Timeout talking to Cloudflare (" ++ method ++ " " ++ path ++ ")")))
  | .clientError text => .error (.cloudflare (.connection
      ("Connection error talking to Cloudflare (" ++ method ++ " " ++ path ++ "): " ++ text)))
  | .response status body => do
      let payload ← parseJson status body
      client.raiseForStatus status payload
      return payload

/-- The request `_request` sends. -/
def httpRequest (client : CloudflareClient) (method path : String)
    (params : Option (List (String × String))) (json : Option Json) : HttpRequest where
  method := method
  url := client.baseUrl ++ path
  headers := [("Authorization", "Bearer " ++ client.token), ("Content-Type", "application/json")]
  params := params
  json := json

/-- `_request`. -/
def request (client : CloudflareClient) (method path : String)
    (params : Option (List (String × String))) (json : Option Json) :
    Http (Except ClientExc Dict) := do
  let answer ← Prog.call (client.httpRequest method path params json)
  return client.receive method path answer

/-! ### Reading a payload -/

/-- `_require_result`. -/
def requireResult (payload : Dict) : Except ClientExc Json :=
  match payload.get "result" .null with
  | .obj result => .ok (.obj result)
  | _ => .error (.cloudflare (.result "Cloudflare response is missing 'result'"))

/-- `_require_list`. -/
def requireList (payload : Dict) : Except ClientExc (List Json) :=
  match payload.get "result" .null with
  | .arr result => .ok result
  | _ => .error (.cloudflare (.result "Cloudflare response is missing a 'result' list"))

/-- `[build(item) for item in result if item.get("id")]`. -/
def withId {α : Type} (build : Json → Except Exc α) : List Json → Except Exc (List α)
  | [] => return []
  | item :: rest => do
      if (← item.get "id" .null).truthy then
        let value ← build item
        return value :: (← withId build rest)
      else withId build rest

/-- `_parse_dns_record`. -/
def parseDnsRecord (client : CloudflareClient) (raw : Json) :
    Except Exc CloudflareDnsRecord := do
  let id ← raw.get "id" (.str "")
  let name ← raw.get "name" (.str "")
  let type ← raw.get "type" (.str "")
  let content ← raw.get "content" (.str "")
  let proxied ← raw.get "proxied" (.bool false)
  let ttl ← (← raw.get "ttl" (.int 1)).toInt
  let comment ← raw.get "comment" .null
  return ⟨client.str id, client.str name, client.str type, client.str content, proxied.truthy,
    ttl, comment⟩

/-- `_total_pages`. -/
def totalPages (payload : Dict) : Except Exc ℤ :=
  match payload.get "result_info" .null with
  | .obj resultInfo =>
      match (Dict.get resultInfo "total_pages" (.int 1)).toInt with
      | .ok pages => .ok (max pages 1)
      -- `except (TypeError, ValueError)`
      | .error .typeError => .ok 1
      | .error .valueError => .ok 1
      | .error exc => .error exc
  | _ => .ok 1

/-- `_next_cursor`. -/
def nextCursor (client : CloudflareClient) (payload : Dict) : Option String :=
  match payload.get "result_info" .null with
  | .obj resultInfo =>
      match Dict.get resultInfo "cursors" .null with
      | .obj cursors =>
          let after := Dict.get cursors "after" .null
          if after.truthy then some (client.str after) else none
      | _ => none
  | _ => none

/-! ### Methods that send one request -/

/-- `async_verify_token`. -/
def asyncVerifyToken (client : CloudflareClient) :
    Http (Except ClientExc CloudflareTokenStatus) := do
  let payload ← client.request "GET" "/user/tokens/verify" none none
  return do
    let result ← requireResult (← payload)
    let id ← result.get "id" (.str "")
    let status ← result.get "status" (.str "")
    let token : CloudflareTokenStatus := ⟨client.str id, client.str status⟩
    if token.isActive then return token
    else throw (.cloudflare (.auth ("Token is not active (status: " ++ token.status ++ ")")))

/-- One element of `async_get_accounts`. -/
def readAccount (client : CloudflareClient) (item : Json) : Except Exc CloudflareAccount := do
  let id ← item.item "id"
  let name ← item.get "name" (.str "")
  return ⟨client.str id, client.str name⟩

/-- `async_get_accounts`. -/
def asyncGetAccounts (client : CloudflareClient) :
    Http (Except ClientExc (List CloudflareAccount)) := do
  let payload ← client.request "GET" "/accounts" (some [("per_page", "50")]) none
  return do
    let result ← requireList (← payload)
    withId client.readAccount result

/-- One element of `async_get_rule_lists`. -/
def readRuleList (client : CloudflareClient) (item : Json) : Except Exc CloudflareRuleList := do
  let id ← item.item "id"
  let name ← item.get "name" (.str "")
  let kind ← item.get "kind" (.str "")
  let numItems ← (← item.get "num_items" (.int 0)).toInt
  let description ← item.get "description" .null
  return ⟨client.str id, client.str name, client.str kind, numItems, description⟩

/-- `async_get_rule_lists`. -/
def asyncGetRuleLists (client : CloudflareClient) (accountId : String) :
    Http (Except ClientExc (List CloudflareRuleList)) := do
  let payload ← client.request "GET" ("/accounts/" ++ accountId ++ "/rules/lists") none none
  return do
    let result ← requireList (← payload)
    withId client.readRuleList result

/-- The path of a Rule List's items. -/
def itemsPath (accountId listId : String) : String :=
  "/accounts/" ++ accountId ++ "/rules/lists/" ++ listId ++ "/items"

/-- One object of the body of `async_replace_list_items`. -/
def itemBody (item : CloudflareListItem) : Json :=
  .obj (("ip", .str item.ip) :: if item.comment.truthy then [("comment", item.comment)] else [])

/-- `async_replace_list_items`. -/
def asyncReplaceListItems (client : CloudflareClient) (accountId listId : String)
    (items : List CloudflareListItem) : Http (Except ClientExc String) := do
  let payload ← client.request "PUT" (itemsPath accountId listId) none
    (some (.arr (items.map itemBody)))
  return do
    let result ← requireResult (← payload)
    let operationId ← result.get "operation_id" .null
    if operationId.truthy then return client.str operationId
    else throw (.cloudflare (.result "Cloudflare did not return an operation_id"))

/-- `async_get_bulk_operation`. -/
def asyncGetBulkOperation (client : CloudflareClient) (accountId operationId : String) :
    Http (Except ClientExc CloudflareBulkOperation) := do
  let payload ← client.request "GET"
    ("/accounts/" ++ accountId ++ "/rules/lists/bulk_operations/" ++ operationId) none none
  return do
    let result ← requireResult (← payload)
    let id ← result.get "id" (.str operationId)
    let status ← result.get "status" (.str "")
    let error ← result.get "error" .null
    return ⟨client.str id, client.str status, error⟩

/-- A query parameter that is only sent if it is set. -/
def optionalParam (key : String) (value : Option String) : List (String × String) :=
  if truthy value then value.toList.map fun value => (key, value) else []

/-- `async_get_dns_records`. -/
def asyncGetDnsRecords (client : CloudflareClient) (zoneId : String)
    (name recordType : Option String) : Http (Except ClientExc (List CloudflareDnsRecord)) := do
  let params := [("per_page", "100")] ++ optionalParam "name" name ++
    optionalParam "type" recordType
  let payload ← client.request "GET" ("/zones/" ++ zoneId ++ "/dns_records") (some params) none
  return do
    let result ← requireList (← payload)
    withId client.parseDnsRecord result

/-- The comment of a DNS record's body. -/
def commentField (comment : Option String) : List (String × Json) :=
  if truthy comment then comment.toList.map fun comment => ("comment", .str comment) else []

/-- `async_create_dns_record`. -/
def asyncCreateDnsRecord (client : CloudflareClient) (zoneId name recordType content : String)
    (ttl : ℤ) (proxied : Bool) (comment : Option String) :
    Http (Except ClientExc CloudflareDnsRecord) := do
  let body := [("name", .str name), ("type", .str recordType), ("content", .str content),
    ("ttl", .int ttl), ("proxied", .bool proxied)] ++ commentField comment
  let payload ← client.request "POST" ("/zones/" ++ zoneId ++ "/dns_records") none
    (some (.obj body))
  return do
    let result ← requireResult (← payload)
    client.parseDnsRecord result

/-- `async_update_dns_record`. -/
def asyncUpdateDnsRecord (client : CloudflareClient) (zoneId recordId content : String) (ttl : ℤ)
    (proxied : Bool) (comment : Option String) : Http (Except ClientExc CloudflareDnsRecord) := do
  let body := [("content", .str content), ("ttl", .int ttl), ("proxied", .bool proxied)] ++
    commentField comment
  let payload ← client.request "PATCH" ("/zones/" ++ zoneId ++ "/dns_records/" ++ recordId) none
    (some (.obj body))
  return do
    let result ← requireResult (← payload)
    client.parseDnsRecord result

/-! ### Paginated reads -/

/-- The loop over one page in `async_get_list_items`: appends its items. -/
def collectItems (client : CloudflareClient) (items : List CloudflareListItem) :
    List Json → Except Exc (List CloudflareListItem)
  | [] => return items
  | raw :: rest => do
      match ← raw.get "ip" .null with
      | .null => client.collectItems items rest
      | ip =>
          let id ← raw.get "id" .null
          let comment ← raw.get "comment" .null
          client.collectItems (items ++ [⟨client.str ip, id, comment⟩]) rest

/-- The variables of `async_get_list_items`: the items so far, and the cursor
that `params` holds. -/
abbrev ItemsState := List CloudflareListItem × Option String

/-- `params` in `async_get_list_items`. -/
def itemsParams (cursor : Option String) : List (String × String) :=
  ("per_page", "500") :: cursor.toList.map fun cursor => ("cursor", cursor)

/-- One round of `async_get_list_items`, once its request is answered. -/
def itemsRound (client : CloudflareClient) (items : List CloudflareListItem)
    (payload : Except ClientExc Dict) :
    Except ClientExc (ItemsState ⊕ List CloudflareListItem) := do
  let payload ← payload
  let items ← client.collectItems items (← requireList payload)
  match client.nextCursor payload with
  | none => return .inr items
  | some cursor => return .inl (items, some cursor)

/-- The body of the loop in `async_get_list_items`. -/
def listItemsBody (client : CloudflareClient) (accountId listId : String) (s : ItemsState) :
    Http (Except ClientExc (ItemsState ⊕ List CloudflareListItem)) := do
  let payload ← client.request "GET" (itemsPath accountId listId)
    (some (itemsParams s.2)) none
  return client.itemsRound s.1 payload

/-- The complete runs of `async_get_list_items`. -/
def AsyncGetListItems (client : CloudflareClient) (accountId listId : String) :
    List HttpEv → Except ClientExc (List CloudflareListItem) → Prop :=
  LoopRun (client.listItemsBody accountId listId) ([], none)

/-- One element of `async_get_zones`. -/
def readZone (client : CloudflareClient) (item : Json) : Except Exc CloudflareZone := do
  let id ← item.item "id"
  let name ← item.get "name" (.str "")
  return ⟨client.str id, client.str name⟩

/-- The variables of `async_get_zones`: the zones so far, and the page. -/
abbrev ZonesState := List CloudflareZone × ℕ

/-- One round of `async_get_zones`, once its request is answered. -/
def zonesRound (client : CloudflareClient) (zones : List CloudflareZone) (page : ℕ)
    (payload : Except ClientExc Dict) : Except ClientExc (ZonesState ⊕ List CloudflareZone) := do
  let payload ← payload
  let more ← withId client.readZone (← requireList payload)
  let total ← totalPages payload
  if total ≤ page then return .inr (zones ++ more)
  else return .inl (zones ++ more, page + 1)

/-- The body of the loop in `async_get_zones`. -/
def zonesBody (client : CloudflareClient) (s : ZonesState) :
    Http (Except ClientExc (ZonesState ⊕ List CloudflareZone)) := do
  let payload ← client.request "GET" "/zones"
    (some [("per_page", "50"), ("page", toString s.2)]) none
  return client.zonesRound s.1 s.2 payload

/-- The complete runs of `async_get_zones`. -/
def AsyncGetZones (client : CloudflareClient) :
    List HttpEv → Except ClientExc (List CloudflareZone) → Prop :=
  LoopRun client.zonesBody ([], 1)

end CloudflareClient

end CloudflareIpSync.Client
