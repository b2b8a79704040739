/-
CloudflareIpSync/ConfigEntries.lean

The config entries of the integration, and the flows that make and change them:
the setup flow adds an entry, the reauth flow replaces the token of one, the
options flow its options.  Any number of flows is in progress at a time, and
they take their moves in any order; a flow can be closed and an entry removed at
any moment.

Of Home Assistant this says: a form is submitted with values that its selectors
let through; a step that raises leaves its form on the screen; a unique id is
refused while another flow or an entry has it; ids are not given out twice.
Cloudflare's answers, and the states of the entities, are arbitrary.
-/
import CloudflareIpSync.OptionsFlow
import CloudflareIpSync.Dialog
import Mathlib.Logic.Function.Basic

namespace CloudflareIpSync.Flow

open Interact Client

/-! ### The reauth flow -/

/-- `data_updates`: values for some of the keys of an entry's data. -/
structure DataUpdates where
  apiToken : Option String := none
  accountId : Option String := none
  accountName : Option String := none
  listId : Option String := none
  listName : Option String := none
  sourceEntityId : Option String := none

/-- What `async_update_reload_and_abort` is told to change of an entry. -/
structure EntryUpdates where
  uniqueId : Option (Option String) := none
  title : Option String := none
  data : Option EntryData := none
  dataUpdates : DataUpdates := {}
  options : Option Options := none

/-- What the reauth flow returns. -/
inductive ReauthResult
  | showForm (fields : List Field) (errors : List (String × String))
  | updateReloadAndAbort (updates : EntryUpdates)

/-- `async_step_reauth_confirm`. -/
def asyncStepReauthConfirm (userInput : Option String) : Step (Except ClientExc ReauthResult) := do
  match userInput with
  | none => return .ok (.showForm [tokenField] [])
  | some token =>
      match ← asyncValidateToken token with
      | .error (.cloudflare err) => return .ok (.showForm [tokenField] [("base", errorKey err)])
      | .error exc => return .error exc
      | .ok () => return .ok (.updateReloadAndAbort { dataUpdates := { apiToken := some token } })

/-- `async_step_reauth`. -/
def asyncStepReauth : Step (Except ClientExc ReauthResult) := asyncStepReauthConfirm none

/-! ### Forms, inputs and outcomes of the three flows -/

/-- A form.  The options form shows the options of the moment, which are not
kept with it. -/
inductive Form
  | setup (stage : Stage) (fields : List Field) (errors : List (String × String))
  | reauthConfirm (fields : List Field) (errors : List (String × String))
  | init (errors : List (String × String))

/-- What a form is submitted with: the value of its only field, or the options. -/
inductive Input
  | value (value : String)
  | options (input : OptionsInput)

/-- How a flow ends. -/
inductive Outcome
  | abort (reason : String)
  | createEntry (title : String) (data : EntryData)
  | updateReloadAndAbort (updates : EntryUpdates)
  | createOptions (options : Options)

/-- A dropdown lets its options through, a text field every text. -/
def Field.Accepts (field : Field) (value : String) : Prop :=
  match field.selector with
  | .text _ => True
  | .number _ _ _ => False
  | .dropdown options => value ∈ options.map (·.value)

/-- The inputs a form lets through. -/
def Form.Accepts : Form → Input → Prop
  | setup _ fields _, .value value => ∀ field ∈ fields, field.Accepts value
  | reauthConfirm fields _, .value value => ∀ field ∈ fields, field.Accepts value
  | init _, .options input =>
      (numberSelector 0 10 input.maxRetries).isSome ∧
        (numberSelector 1 1440 input.reconcileInterval).isSome
  | _, _ => False

/-- The step that a form of the setup belongs to. -/
def Stage.step : Stage → String → Step (Except ClientExc SetupResult)
  | user, value => asyncStepUser (some value)
  | account data, value => asyncStepAccount data (some value)
  | ruleList data, value => asyncStepRuleList data (some value)
  | entity data, value => asyncStepEntity data (some value)

def SetupResult.reply : Except ClientExc SetupResult → Dialog.Reply Form Outcome
  | .ok (.showForm stage fields errors) => .form (.setup stage fields errors)
  | .ok (.abort reason) => .done (.abort reason)
  | .ok (.createEntry title data) => .done (.createEntry title data)
  | .error _ => .again

def ReauthResult.reply : Except ClientExc ReauthResult → Dialog.Reply Form Outcome
  | .ok (.showForm fields errors) => .form (.reauthConfirm fields errors)
  | .ok (.updateReloadAndAbort updates) => .done (.updateReloadAndAbort updates)
  | .error _ => .again

def OptionsResult.reply : Except ClientExc OptionsResult → Dialog.Reply Form Outcome
  | .ok (.showForm _ errors) => .form (.init errors)
  | .ok (.createEntry options) => .done (.createOptions options)
  | .error _ => .again

/-- The flows as dialogs.  The options flow reads the token and the options of
its entry. -/
def flowDialog (token : String) (current : Options) :
    Dialog FlowCall FlowCall.Res Form Input Outcome where
  Accepts := Form.Accepts
  step
    | .setup stage _ _, .value value =>
        stage.step value >>= fun r => .ret (SetupResult.reply r)
    | .reauthConfirm _ _, .value value =>
        asyncStepReauthConfirm (some value) >>= fun r => .ret (ReauthResult.reply r)
    | .init _, .options input =>
        asyncStepInit token current (some input) >>= fun r => .ret (OptionsResult.reply r)
    | _, _ => .ret .again

/-! ### Entries and flows in progress -/

/-- A config entry. -/
structure Entry where
  title : String
  uniqueId : Option String
  data : EntryData
  options : Options := {}

/-- `data | data_updates`. -/
def EntryData.updated (data : EntryData) (updates : DataUpdates) : EntryData where
  apiToken := updates.apiToken.getD data.apiToken
  accountId := updates.accountId.getD data.accountId
  accountName := updates.accountName.getD data.accountName
  listId := updates.listId.getD data.listId
  listName := updates.listName.getD data.listName
  sourceEntityId := updates.sourceEntityId.getD data.sourceEntityId

/-- An entry as `async_update_reload_and_abort` leaves it. -/
def Entry.updated (entry : Entry) (updates : EntryUpdates) : Entry where
  title := updates.title.getD entry.title
  uniqueId := updates.uniqueId.getD entry.uniqueId
  data := (updates.data.getD entry.data).updated updates.dataUpdates
  options := updates.options.getD entry.options

/-- A flow in progress, with the entry it is for and the unique id it has set. -/
structure FlowInProgress where
  screen : Dialog.Screen FlowCall.Res Form Outcome
  entryId : Option String := none
  uniqueId : Option String := none

/-- All entries and all flows in progress. -/
structure ConfigEntries where
  entries : String → Option Entry := fun _ => none
  flows : ℕ → Option FlowInProgress := fun _ => none
  nextFlow : ℕ := 0

namespace ConfigEntries

/-- Another flow, or an entry, has the unique id. -/
def Taken (reg : ConfigEntries) (i : ℕ) (uniqueId : String) : Prop :=
  (∃ j flow, j ≠ i ∧ reg.flows j = some flow ∧ flow.uniqueId = some uniqueId) ∨
    ∃ id entry, reg.entries id = some entry ∧ entry.uniqueId = some uniqueId

/-- A call of the flow `i`, by what it does to the flow's unique id: it is set
unless that was refused. -/
inductive Answers (reg : ConfigEntries) (i : ℕ) :
    Option String → Event FlowCall.Res → Option String → Prop
  | accepted {old : Option String} {uniqueId : String} : ¬ reg.Taken i uniqueId →
      Answers reg i old ⟨.setUniqueId uniqueId, none⟩ (some uniqueId)
  | refused {old : Option String} {uniqueId reason : String} : reg.Taken i uniqueId →
      Answers reg i old ⟨.setUniqueId uniqueId, some reason⟩ old
  | other {old : Option String} {e : Event FlowCall.Res} :
      (∀ uniqueId, e.1 ≠ .setUniqueId uniqueId) → Answers reg i old e old

/-- The entry of a flow, changed. -/
def modify (reg : ConfigEntries) (entryId : Option String) (f : Entry → Entry) : ConfigEntries :=
  match entryId with
  | none => reg
  | some id => { reg with entries := Function.update reg.entries id ((reg.entries id).map f) }

/-- What the end of a flow does to the entries; a new one gets the id `newId`. -/
def apply (reg : ConfigEntries) (newId : String) (flow : FlowInProgress) :
    Outcome → ConfigEntries
  | .abort _ => reg
  | .createEntry title data =>
      { reg with
        entries := Function.update reg.entries newId (some ⟨title, flow.uniqueId, data, {}⟩) }
  | .updateReloadAndAbort updates => reg.modify flow.entryId fun entry => entry.updated updates
  | .createOptions options =>
      reg.modify flow.entryId fun entry => { entry with options := options }

def setFlow (reg : ConfigEntries) (i : ℕ) (flow : Option FlowInProgress) : ConfigEntries :=
  { reg with flows := Function.update reg.flows i flow }

/-- A new flow. -/
def start (reg : ConfigEntries) (flow : FlowInProgress) : ConfigEntries :=
  { reg.setFlow reg.nextFlow (some flow) with nextFlow := reg.nextFlow + 1 }

variable {reg : ConfigEntries} {i : ℕ} {flow : FlowInProgress} {entryId : Option String}

@[simp] theorem setFlow_entries {flow : Option FlowInProgress} :
    (reg.setFlow i flow).entries = reg.entries := rfl

@[simp] theorem setFlow_flows {flow : Option FlowInProgress} :
    (reg.setFlow i flow).flows = Function.update reg.flows i flow := rfl

@[simp] theorem setFlow_nextFlow {flow : Option FlowInProgress} :
    (reg.setFlow i flow).nextFlow = reg.nextFlow := rfl

@[simp] theorem setFlow_setFlow {flow flow' : Option FlowInProgress} :
    (reg.setFlow i flow).setFlow i flow' = reg.setFlow i flow' := by
  simp [setFlow]

/-- Setting a flow to what it is changes nothing. -/
theorem setFlow_self {flow : Option FlowInProgress} (h : reg.flows i = flow) :
    reg.setFlow i flow = reg := by
  rw [setFlow, Function.update_eq_self_iff.mpr h.symm]

@[simp] theorem start_entries : (reg.start flow).entries = reg.entries := rfl

@[simp] theorem start_flows :
    (reg.start flow).flows = Function.update reg.flows reg.nextFlow (some flow) := rfl

@[simp] theorem start_nextFlow : (reg.start flow).nextFlow = reg.nextFlow + 1 := rfl

@[simp] theorem modify_flows {f : Entry → Entry} : (reg.modify entryId f).flows = reg.flows := by
  cases entryId <;> rfl

@[simp] theorem modify_nextFlow {f : Entry → Entry} :
    (reg.modify entryId f).nextFlow = reg.nextFlow := by
  cases entryId <;> rfl

/-- Changing the entry of a flow leaves all others as they are. -/
theorem modify_entries {f : Entry → Entry} {id : String} :
    (reg.modify entryId f).entries id =
      if entryId = some id then (reg.entries id).map f else reg.entries id := by
  rcases entryId with - | target
  · rfl
  · by_cases hid : target = id
    · simp [modify, hid]
    · simp [modify, hid, Function.update_of_ne (Ne.symm hid)]

theorem createEntry_entries {newId title : String} {data : EntryData} :
    (reg.apply newId flow (.createEntry title data)).entries =
      Function.update reg.entries newId (some ⟨title, flow.uniqueId, data, {}⟩) := rfl

@[simp] theorem apply_flows {newId : String} {outcome : Outcome} :
    (reg.apply newId flow outcome).flows = reg.flows := by
  cases outcome <;> simp [apply]

@[simp] theorem apply_nextFlow {newId : String} {outcome : Outcome} :
    (reg.apply newId flow outcome).nextFlow = reg.nextFlow := by
  cases outcome <;> simp [apply]

/-! ### Who has a unique id -/

/-- The unique id of a flow or an entry. -/
def uniqueIdOf (reg : ConfigEntries) : ℕ ⊕ String → Option String
  | .inl i => (reg.flows i).bind (·.uniqueId)
  | .inr id => (reg.entries id).bind (·.uniqueId)

theorem taken_iff {uniqueId : String} :
    reg.Taken i uniqueId ↔ ∃ holder, holder ≠ .inl i ∧ reg.uniqueIdOf holder = some uniqueId := by
  constructor
  · rintro (⟨j, flow, hj, hflow, hid⟩ | ⟨id, entry, hentry, hid⟩)
    · exact ⟨.inl j, by simpa using hj, by simp [uniqueIdOf, hflow, hid]⟩
    · exact ⟨.inr id, by simp, by simp [uniqueIdOf, hentry, hid]⟩
  · rintro ⟨j | id, hne, hid⟩
    · obtain ⟨flow, hflow, hid⟩ := Option.bind_eq_some_iff.mp hid
      exact .inl ⟨j, flow, by simpa using hne, hflow, hid⟩
    · obtain ⟨entry, hentry, hid⟩ := Option.bind_eq_some_iff.mp hid
      exact .inr ⟨id, entry, hentry, hid⟩

/-- Setting a flow sets its unique id. -/
theorem uniqueIdOf_setFlow {holder : ℕ ⊕ String} {flow : Option FlowInProgress} :
    (reg.setFlow i flow).uniqueIdOf holder =
      if holder = .inl i then flow.bind (·.uniqueId) else reg.uniqueIdOf holder := by
  rcases holder with j | id
  · by_cases hj : j = i
    · simp [uniqueIdOf, hj]
    · simp [uniqueIdOf, hj]
  · simp [uniqueIdOf]

end ConfigEntries

/-- What happens to the entries and the flows, one thing at a time. -/
inductive Happening
  | startSetup
  | startReauth (entryId : String)
  | startOptions (entryId : String)
  | move (i : ℕ) (m : Dialog.Move FlowCall.Res Input)
  | finish (i : ℕ) (newId : String)
  | close (i : ℕ)
  | remove (entryId : String)

/-- One step of all entries and flows. -/
inductive EntriesStep : ConfigEntries → Happening → ConfigEntries → Prop
  | startSetup {reg : ConfigEntries} :
      EntriesStep reg .startSetup (reg.start ⟨.showing (.setup .user [tokenField] []), none, none⟩)
  | startReauth {reg : ConfigEntries} {id : String} : (reg.entries id).isSome →
      EntriesStep reg (.startReauth id)
        (reg.start ⟨.showing (.reauthConfirm [tokenField] []), some id, none⟩)
  | startOptions {reg : ConfigEntries} {id : String} : (reg.entries id).isSome →
      EntriesStep reg (.startOptions id) (reg.start ⟨.showing (.init []), some id, none⟩)
  | move {reg : ConfigEntries} {i : ℕ} {flow flow' : FlowInProgress}
      {m : Dialog.Move FlowCall.Res Input} {token : String} {current : Options} :
      reg.flows i = some flow →
      (∀ id entry, flow.entryId = some id → reg.entries id = some entry →
        token = entry.data.apiToken ∧ current = entry.options) →
      (flowDialog token current).Step flow.screen m flow'.screen →
      Dialog.Answered (reg.Answers i) flow.uniqueId m flow'.uniqueId →
      flow'.entryId = flow.entryId →
      EntriesStep reg (.move i m) (reg.setFlow i (some flow'))
  | finish {reg : ConfigEntries} {i : ℕ} {flow : FlowInProgress} {outcome : Outcome}
      {newId : String} :
      reg.flows i = some flow → flow.screen = .ended outcome → reg.entries newId = none →
      EntriesStep reg (.finish i newId) ((reg.apply newId flow outcome).setFlow i none)
  | close {reg : ConfigEntries} {i : ℕ} : EntriesStep reg (.close i) (reg.setFlow i none)
  | remove {reg : ConfigEntries} {id : String} :
      EntriesStep reg (.remove id) { reg with entries := Function.update reg.entries id none }

/-- The flows start with the forms that their first steps show. -/
example : asyncStepUser none = .ret (.ok (.showForm .user [tokenField] [])) := rfl

example : asyncStepReauth = .ret (.ok (.showForm [tokenField] [])) := rfl

/-- A call of the flow `i`, with its answer. -/
def Happening.callOf (i : ℕ) : Happening → Option (Event FlowCall.Res)
  | move j (.call e) => if j = i then some e else none
  | _ => none

/-- The calls of the flow `i` in a run. -/
def calls (i : ℕ) (l : List Happening) : List (Event FlowCall.Res) :=
  l.filterMap (·.callOf i)

end CloudflareIpSync.Flow
