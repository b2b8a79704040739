/-
CloudflareIpSync/SetupFlow.lean

The setup flow of `config_flow.py`: token, account, Rule List, source entity.

A step is a program over the client methods it awaits and what it asks of Home
Assistant (`FlowCall`).  It catches the client's errors and no other exception.
A step that goes on calls the next one without input, so its result is the form
of a later step, an abort, or the new entry; the data collected so far is part
of the form's stage.
-/
import CloudflareIpSync.Client
import CloudflareIpSync.Via

namespace CloudflareIpSync.Flow

open Interact Python Client Client.CloudflareClient

/-! ### Forms -/

/-- `selector.SelectOptionDict`. -/
structure SelectOption where
  value : String
  label : String
  deriving DecidableEq

/-- The selectors of the forms. -/
inductive Selector
  | text (password : Bool)
  | number (min max : ℚ) (unitOfMeasurement : Option String)
  | dropdown (options : List SelectOption)
  deriving DecidableEq

/-- A field of a form: `vol.Required` or `vol.Optional`, with its default or
suggested value. -/
structure Field where
  key : String
  required : Bool
  default : Option ℚ := none
  suggestedValue : Option String := none
  selector : Selector
  deriving DecidableEq

def confApiToken : String := "api_token"

def confAccountId : String := "account_id"

def confListId : String := "list_id"

def confSourceEntityId : String := "source_entity_id"

/-- `LIST_KIND_IP`. -/
def listKindIp : String := "ip"

/-- `_error_key`. -/
def errorKey : CloudflareError → String
  | .auth _ => "invalid_auth"
  | .rateLimit _ => "rate_limit"
  | .connection _ => "cannot_connect"
  | _ => "unknown"

/-! ### What a step asks for -/

/-- A state of Home Assistant's state machine. -/
structure EntityState where
  entityId : String
  name : String
  state : String

/-- The calls of a flow: the client methods, for a client with the token, the
states of all entities, and setting the flow's unique id, answered by the reason
to abort if the id is taken. -/
inductive FlowCall
  | verifyToken (token : String)
  | getAccounts (token : String)
  | getRuleLists (token accountId : String)
  | getZones (token : String)
  | statesAll
  | setUniqueId (uniqueId : String)

/-- What a call is answered with. -/
abbrev FlowCall.Res : FlowCall → Type
  | verifyToken _ => Except ClientExc CloudflareTokenStatus
  | getAccounts _ => Except ClientExc (List CloudflareAccount)
  | getRuleLists _ _ => Except ClientExc (List Client.CloudflareRuleList)
  | getZones _ => Except ClientExc (List CloudflareZone)
  | statesAll => List EntityState
  | setUniqueId _ => Option String

/-- A step of a flow. -/
abbrev Step := Prog FlowCall FlowCall.Res

def apiBaseUrl : String := "https://api.cloudflare.com/client/v4"

/-- The client a flow builds. -/
def apiClient (render : Json → String) (token : String) : CloudflareClient :=
  .init token apiBaseUrl render

/-- The runs of the client that carry out a call. -/
def FlowCall.Carried (render : Json → String) :
    (call : FlowCall) → List HttpEv → call.Res → Prop
  | verifyToken token, t, r => (apiClient render token).asyncVerifyToken.Traces t r
  | getAccounts token, t, r => (apiClient render token).asyncGetAccounts.Traces t r
  | getRuleLists token accountId, t, r =>
      ((apiClient render token).asyncGetRuleLists accountId).Traces t r
  | getZones token, t, r => (apiClient render token).AsyncGetZones t r
  | statesAll, t, _ => t = []
  | setUniqueId _, t, _ => t = []

/-- The runs of a step, by the HTTP requests that its client sends. -/
abbrev Runs {α : Type} (render : Json → String) (step : Step α) : List HttpEv → α → Prop :=
  step.Via (FlowCall.Carried render)

/-! ### The stages of the setup -/

/-- `self._data` after the first step. -/
structure TokenData where
  apiToken : String

/-- After the account was chosen. -/
structure AccountData extends TokenData where
  accountId : String
  accountName : String

/-- After the Rule List was chosen. -/
structure ListData extends AccountData where
  listId : String
  listName : String

/-- The data of the new entry. -/
structure EntryData extends ListData where
  sourceEntityId : String

/-- The step a form belongs to, with the data collected before it. -/
inductive Stage
  | user
  | account (data : TokenData)
  | ruleList (data : AccountData)
  | entity (data : ListData)

/-- What a step returns. -/
inductive SetupResult
  | showForm (stage : Stage) (fields : List Field) (errors : List (String × String))
  | abort (reason : String)
  | createEntry (title : String) (data : EntryData)

/-- `vol.Required(key): _dropdown(options)`. -/
def dropdownField (key : String) (options : List SelectOption) : Field where
  key := key
  required := true
  selector := .dropdown options

/-- `vol.Required(CONF_API_TOKEN): TOKEN_SELECTOR`. -/
def tokenField : Field where
  key := confApiToken
  required := true
  selector := .text true

/-- `{item.id: item.name}.get(id, id)`: a later item overrides an earlier one. -/
def nameOf (names : List (String × String)) (id : String) : String :=
  (names.reverse.lookup id).getD id

/-! ### The steps -/

/-- `_async_validate_token`. -/
def asyncValidateToken (token : String) : Step (Except ClientExc Unit) := do
  match ← Prog.call (FlowCall.verifyToken token) with
  | .ok _ => return .ok ()
  | .error (.cloudflare (.api _ _)) | .error (.cloudflare (.auth _)) =>
      match ← Prog.call (FlowCall.getAccounts token) with
      | .ok _ => return .ok ()
      | .error exc => return .error exc
  | .error exc => return .error exc

/-- `_ip_entity_options`, on the states of all entities. -/
def ipEntityOptions (states : List EntityState) : List SelectOption :=
  states.filterMap fun state =>
    if state.state = "unavailable" ∨ state.state = "unknown" ∨ state.state = "" then none
    else if (Ipaddress.ipAddress (Ipaddress.strip state.state)).isSome then
      some ⟨state.entityId,
        (if state.name = "" then state.entityId else state.name) ++ " (" ++ state.state ++ ")"⟩
    else none

/-- `async_step_entity`. -/
def asyncStepEntity (data : ListData) (userInput : Option String) :
    Step (Except ClientExc SetupResult) := do
  match ipEntityOptions (← Prog.call FlowCall.statesAll), userInput with
  | [], _ => return .ok (.abort "no_ip_entities")
  | _ :: _, some sourceEntityId =>
      return .ok (.createEntry data.listName { data with sourceEntityId := sourceEntityId })
  | options, none =>
      return .ok (.showForm (.entity data) [dropdownField confSourceEntityId options] [])

/-- `async_step_rule_list`. -/
def asyncStepRuleList (data : AccountData) (userInput : Option String) :
    Step (Except ClientExc SetupResult) := do
  match ← Prog.call (FlowCall.getRuleLists data.apiToken data.accountId) with
  | .error (.cloudflare err) => return .ok (.abort (errorKey err))
  | .error exc => return .error exc
  | .ok ruleLists =>
      match ruleLists.filter (·.kind == listKindIp), userInput with
      | [], _ => return .ok (.abort "no_rule_lists")
      | ipLists, some listId => do
          let listName := nameOf (ipLists.map fun rule => (rule.id, rule.name)) listId
          match ← Prog.call (FlowCall.setUniqueId (data.accountId ++ ":" ++ listId)) with
          | some reason => return .ok (.abort reason)
          | none =>
              asyncStepEntity { data with listId := listId, listName := listName } none
      | ipLists, none =>
          return .ok (.showForm (.ruleList data)
            [dropdownField confListId (ipLists.map fun rule => ⟨rule.id, rule.name⟩)] [])

/-- `async_step_account`. -/
def asyncStepAccount (data : TokenData) (userInput : Option String) :
    Step (Except ClientExc SetupResult) := do
  match ← Prog.call (FlowCall.getAccounts data.apiToken) with
  | .error (.cloudflare err) => return .ok (.abort (errorKey err))
  | .error exc => return .error exc
  | .ok accounts =>
      match accounts, userInput with
      | [], _ => return .ok (.abort "no_accounts")
      | accounts, some accountId =>
          let accountName := nameOf (accounts.map fun account => (account.id, account.name))
            accountId
          asyncStepRuleList { data with accountId := accountId, accountName := accountName } none
      | accounts, none =>
          return .ok (.showForm (.account data)
            [dropdownField confAccountId
              (accounts.map fun account => ⟨account.id, account.name⟩)] [])

/-- `async_step_user`. -/
def asyncStepUser (userInput : Option String) : Step (Except ClientExc SetupResult) := do
  match userInput with
  | none => return .ok (.showForm .user [tokenField] [])
  | some token =>
      match ← asyncValidateToken token with
      | .error (.cloudflare err) =>
          return .ok (.showForm .user [tokenField] [("base", errorKey err)])
      | .error exc => return .error exc
      | .ok () => asyncStepAccount ⟨token⟩ none

end CloudflareIpSync.Flow
