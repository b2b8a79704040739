/-
CloudflareIpSync/SetupRuns.lean

The setup can be completed for every Rule List that nobody has: from any state
of the entries and flows there is a run of one more flow that adds the entry and
changes nothing else (`setup_completes`).  In the same way every entry can be
given other options (`options_complete`) and another token (`reauth_completes`).
-/
import CloudflareIpSync.FlowInvariant

namespace CloudflareIpSync.Flow

open Interact Interact.Prog Client ConfigEntries

variable {reg : ConfigEntries} {i : ℕ} {flow : FlowInProgress} {token : String}

/-! ### One flow among others -/

theorem taken_setFlow {flow : Option FlowInProgress} {uniqueId : String} :
    (reg.setFlow i flow).Taken i uniqueId ↔ reg.Taken i uniqueId := by
  rw [taken_iff, taken_iff]
  apply exists_congr
  intro holder
  apply and_congr_right
  intro hne
  rw [uniqueIdOf_setFlow, if_neg hne]

/-- What a flow is answered does not depend on how far it has come. -/
theorem answers_setFlow {flow : Option FlowInProgress} :
    (reg.setFlow i flow).Answers i = reg.Answers i := by
  have himp : ∀ {reg' reg'' : ConfigEntries} (_ : ∀ u, reg'.Taken i u ↔ reg''.Taken i u)
      {old new e}, reg'.Answers i old e new → reg''.Answers i old e new := by
    intro reg' reg'' htaken old new e h
    cases h with
    | accepted hfree => exact .accepted fun h => hfree ((htaken _).mpr h)
    | refused hrefused => exact .refused ((htaken _).mp hrefused)
    | other hother => exact .other hother
  funext old e new
  exact propext ⟨himp fun _ => taken_setFlow, himp fun _ => taken_setFlow.symm⟩

/-- A flow can take its moves while nothing else happens. -/
theorem path_moves {entryId : Option String} {current : Options}
    {ms : List (Dialog.Move FlowCall.Res Input)}
    {screen screen' : Dialog.Screen FlowCall.Res Form Outcome} {uniqueId uniqueId' : Option String}
    (hflow : reg.flows i = some ⟨screen, entryId, uniqueId⟩)
    (hentry : ∀ id entry, entryId = some id → reg.entries id = some entry →
      token = entry.data.apiToken ∧ current = entry.options)
    (h : Path (Both (flowDialog token current).Step (Dialog.Answered (reg.Answers i)))
      (screen, uniqueId) ms (screen', uniqueId')) :
    Path EntriesStep reg (ms.map (.move i))
      (reg.setFlow i (some ⟨screen', entryId, uniqueId'⟩)) := by
  induction ms generalizing reg screen uniqueId with
  | nil =>
      obtain ⟨rfl, rfl⟩ := Prod.ext_iff.mp (path_nil_iff.mp h)
      rw [List.map_nil, path_nil_iff, setFlow_self hflow]
  | cons m ms ih =>
      obtain ⟨⟨screen₁, uniqueId₁⟩, hm, hms⟩ := path_cons_iff.mp h
      let reg₁ := reg.setFlow i (some ⟨screen₁, entryId, uniqueId₁⟩)
      have hstep : EntriesStep reg (.move i m) reg₁ := .move hflow hentry hm.1 hm.2 rfl
      have hflow₁ : reg₁.flows i = some ⟨screen₁, entryId, uniqueId₁⟩ := Function.update_self ..
      have hanswers : reg₁.Answers i = reg.Answers i := answers_setFlow
      rw [← hanswers] at hms
      have hrest := ih hflow₁ hentry hms
      rw [setFlow_setFlow] at hrest
      exact .cons hstep hrest

/-! ### A setup from the first form to the last -/

/-- What the user chooses, and what Cloudflare and Home Assistant offer. -/
structure Choice where
  token : String
  status : CloudflareTokenStatus
  account : CloudflareAccount
  ruleList : Client.CloudflareRuleList
  source : EntityState

namespace Choice

variable (choice : Choice)

def tokenData : TokenData := ⟨choice.token⟩

def accountData : AccountData :=
  { choice.tokenData with accountId := choice.account.id, accountName := choice.account.name }

def listData : ListData :=
  { choice.accountData with listId := choice.ruleList.id, listName := choice.ruleList.name }

def entryData : EntryData := { choice.listData with sourceEntityId := choice.source.entityId }

/-- The unique id of the entry. -/
def uniqueId : String := choice.account.id ++ ":" ++ choice.ruleList.id

/-- The flow's calls after each form, with their answers. -/
def userCalls : List (Event FlowCall.Res) :=
  [⟨.verifyToken choice.token, .ok choice.status⟩,
    ⟨.getAccounts choice.token, .ok [choice.account]⟩]

def accountCalls : List (Event FlowCall.Res) :=
  [⟨.getAccounts choice.token, .ok [choice.account]⟩,
    ⟨.getRuleLists choice.token choice.account.id, .ok [choice.ruleList]⟩]

def listCalls : List (Event FlowCall.Res) :=
  [⟨.getRuleLists choice.token choice.account.id, .ok [choice.ruleList]⟩,
    ⟨.setUniqueId choice.uniqueId, none⟩, ⟨.statesAll, [choice.source]⟩]

def entityCalls : List (Event FlowCall.Res) := [⟨.statesAll, [choice.source]⟩]

/-- The fields of the forms after the first. -/
def accountFields : List Field :=
  [dropdownField confAccountId [⟨choice.account.id, choice.account.name⟩]]

def listFields : List Field :=
  [dropdownField confListId [⟨choice.ruleList.id, choice.ruleList.name⟩]]

def entityFields : List Field :=
  [dropdownField confSourceEntityId (ipEntityOptions [choice.source])]

end Choice

variable {choice : Choice}

theorem traces_user : (Stage.user.step choice.token).Traces choice.userCalls
    (.ok (.showForm (.account choice.tokenData) choice.accountFields [])) :=
  traces_op_iff.mpr ⟨_, _, rfl, traces_op_iff.mpr ⟨_, _, rfl, traces_ret_iff.mpr ⟨rfl, rfl⟩⟩⟩

@[simp] theorem nameOf_singleton {id name : String} : nameOf [(id, name)] id = name := by
  simp [nameOf]

/-- The only list is offered if it is one of addresses. -/
theorem ipLists_eq (hkind : choice.ruleList.kind = listKindIp) :
    [choice.ruleList].filter (·.kind == listKindIp) = [choice.ruleList] := by
  simp [hkind]

theorem traces_ruleList (hkind : choice.ruleList.kind = listKindIp) :
    (asyncStepRuleList choice.accountData none).Traces
      [⟨.getRuleLists choice.token choice.account.id, .ok [choice.ruleList]⟩]
      (.ok (.showForm (.ruleList choice.accountData) choice.listFields [])) := by
  unfold asyncStepRuleList
  rw [call_bind, traces_op_iff]
  refine ⟨.ok [choice.ruleList], [], rfl, ?_⟩
  dsimp only
  rw [ipLists_eq hkind]
  exact traces_ret_iff.mpr ⟨rfl, rfl⟩

theorem traces_account (hkind : choice.ruleList.kind = listKindIp) :
    ((Stage.account choice.tokenData).step choice.account.id).Traces choice.accountCalls
      (.ok (.showForm (.ruleList choice.accountData) choice.listFields [])) := by
  show (asyncStepAccount choice.tokenData (some choice.account.id)).Traces _ _
  unfold asyncStepAccount
  rw [call_bind, traces_op_iff]
  refine ⟨.ok [choice.account], _, rfl, ?_⟩
  dsimp only
  rw [List.map_singleton, nameOf_singleton]
  exact traces_ruleList hkind

theorem traces_list (hkind : choice.ruleList.kind = listKindIp)
    (hne : ipEntityOptions [choice.source] ≠ []) :
    ((Stage.ruleList choice.accountData).step choice.ruleList.id).Traces choice.listCalls
      (.ok (.showForm (.entity choice.listData) choice.entityFields [])) := by
  show (asyncStepRuleList choice.accountData (some choice.ruleList.id)).Traces _ _
  unfold asyncStepRuleList
  rw [call_bind, traces_op_iff]
  refine ⟨.ok [choice.ruleList], _, rfl, ?_⟩
  dsimp only
  rw [ipLists_eq hkind]
  dsimp only
  rw [call_bind, traces_op_iff]
  refine ⟨none, _, rfl, ?_⟩
  dsimp only
  rw [List.map_singleton, nameOf_singleton]
  unfold asyncStepEntity Choice.entityFields
  rw [call_bind, traces_op_iff]
  refine ⟨[choice.source], [], rfl, ?_⟩
  dsimp only
  rcases hoptions : ipEntityOptions [choice.source] with - | ⟨option, options⟩
  · exact absurd hoptions hne
  · exact traces_ret_iff.mpr ⟨rfl, rfl⟩

theorem traces_entity (hne : ipEntityOptions [choice.source] ≠ []) :
    ((Stage.entity choice.listData).step choice.source.entityId).Traces choice.entityCalls
      (.ok (.createEntry choice.ruleList.name choice.entryData)) := by
  show (asyncStepEntity choice.listData (some choice.source.entityId)).Traces _ _
  unfold asyncStepEntity
  rw [call_bind, traces_op_iff]
  refine ⟨[choice.source], [], rfl, ?_⟩
  rcases hoptions : ipEntityOptions [choice.source] with - | ⟨option, options⟩
  · exact absurd hoptions hne
  · exact traces_ret_iff.mpr ⟨rfl, rfl⟩

/-- The moves of one form: it is submitted, its calls are answered. -/
def formMoves (value : String) (calls : List (Event FlowCall.Res)) :
    List (Dialog.Move FlowCall.Res Input) :=
  .submit (.value value) :: (calls.map .call ++ [.settle])

/-- All moves of the setup. -/
def Choice.moves (choice : Choice) : List (Dialog.Move FlowCall.Res Input) :=
  formMoves choice.token choice.userCalls ++ (formMoves choice.account.id choice.accountCalls ++
    (formMoves choice.ruleList.id choice.listCalls ++
      formMoves choice.source.entityId choice.entityCalls))

/-- A call that does not set a unique id, whatever the answer. -/
theorem path_other {uniqueId : Option String} {t : List (Event FlowCall.Res)}
    (h : ∀ e ∈ t, ∀ u, e.1 ≠ .setUniqueId u) : Path (reg.Answers i) uniqueId t uniqueId := by
  induction t with
  | nil => exact .nil _
  | cons e t ih =>
      exact .cons (.other (h e List.mem_cons_self)) (ih fun e he => h e (List.mem_cons_of_mem _ he))

/-- A form of the setup is submitted and its step runs to its end. -/
theorem path_form {current : Options} {stage : Stage} {fields : List Field}
    {errors : List (String × String)} {value : String} {t : List (Event FlowCall.Res)}
    {r : Except ClientExc SetupResult} {old new : Option String}
    (haccepts : ∀ field ∈ fields, field.Accepts value) (ht : (stage.step value).Traces t r)
    (hE : Path (reg.Answers i) old t new) :
    Path (Both (flowDialog token current).Step (Dialog.Answered (reg.Answers i)))
      (.showing (.setup stage fields errors), old) (formMoves value t)
      ((SetupResult.reply r).screen (.setup stage fields errors), new) := by
  have hreply : ((flowDialog token current).step (.setup stage fields errors)
      (.value value)).Traces t (SetupResult.reply r) :=
    traces_bind_iff.mpr ⟨t, r, [], (List.append_nil t).symm, ht, traces_ret_iff.mpr ⟨rfl, rfl⟩⟩
  exact Dialog.path_submission haccepts hreply hE

theorem accepts_dropdown {key value : String} {options : List SelectOption}
    (h : value ∈ options.map (·.value)) :
    ∀ field ∈ [dropdownField key options], field.Accepts value := by
  intro field hfield
  rw [List.mem_singleton.mp hfield]
  exact h

/-- One form of the setup shows the next. -/
theorem path_showForm {current : Options} {stage stage' : Stage} {fields fields' : List Field}
    {value : String} {t : List (Event FlowCall.Res)} {old new : Option String}
    (haccepts : ∀ field ∈ fields, field.Accepts value)
    (ht : (stage.step value).Traces t (.ok (.showForm stage' fields' [])))
    (hE : Path (reg.Answers i) old t new) :
    Path (Both (flowDialog token current).Step (Dialog.Answered (reg.Answers i)))
      (.showing (.setup stage fields []), old) (formMoves value t)
      (.showing (.setup stage' fields' []), new) :=
  path_form haccepts ht hE

/-- The forms of the setup, one after the other. -/
theorem path_setup {current : Options} (hkind : choice.ruleList.kind = listKindIp)
    (hsource : (readSourceIp (some choice.source.state)).isSome)
    (hfree : ¬ reg.Taken i choice.uniqueId) :
    Path (Both (flowDialog token current).Step (Dialog.Answered (reg.Answers i)))
      (.showing (.setup .user [tokenField] []), none) choice.moves
      (.ended (.createEntry choice.ruleList.name choice.entryData), some choice.uniqueId) := by
  have hmem : choice.source.entityId ∈ (ipEntityOptions [choice.source]).map (·.value) :=
    mem_ipEntityOptions_iff.mpr ⟨choice.source, List.mem_singleton_self _, rfl, hsource⟩
  have hne : ipEntityOptions [choice.source] ≠ [] := by
    intro hnil
    rw [hnil] at hmem
    cases hmem
  have htoken : ∀ field ∈ [tokenField], field.Accepts choice.token := by
    intro field hfield
    rw [List.mem_singleton.mp hfield]
    trivial
  have haccount : ∀ field ∈ choice.accountFields, field.Accepts choice.account.id :=
    accepts_dropdown (List.mem_singleton_self _)
  have hlist : ∀ field ∈ choice.listFields, field.Accepts choice.ruleList.id :=
    accepts_dropdown (List.mem_singleton_self _)
  have hentity : ∀ field ∈ choice.entityFields, field.Accepts choice.source.entityId :=
    accepts_dropdown hmem
  -- the unique id is set by the third form
  have hset : Path (reg.Answers i) none choice.listCalls (some choice.uniqueId) :=
    .cons (.other (by simp)) (.cons (.accepted hfree) (path_other (by simp)))
  apply (path_showForm htoken traces_user (path_other (by simp [Choice.userCalls]))).append
  apply (path_showForm haccount (traces_account hkind)
    (path_other (by simp [Choice.accountCalls]))).append
  apply (path_showForm hlist (traces_list hkind hne) hset).append
  exact path_form hentity (traces_entity hne) (path_other (by simp [Choice.entityCalls]))

/-- The run of a setup flow, from its start to the new entry. -/
def Choice.happenings (choice : Choice) (i : ℕ) (newId : String) : List Happening :=
  .startSetup :: (choice.moves.map (.move i) ++ [.finish i newId])

/-- The entries and flows after the setup. -/
def Choice.added (choice : Choice) (reg : ConfigEntries) (newId : String) : ConfigEntries where
  entries := Function.update reg.entries newId
    (some ⟨choice.ruleList.name, some choice.uniqueId, choice.entryData, {}⟩)
  flows := Function.update reg.flows reg.nextFlow none
  nextFlow := reg.nextFlow + 1

/-- Every Rule List that nobody has can be set up, whatever else is in progress. -/
theorem setup_completes {newId : String} (hnew : reg.entries newId = none)
    (hkind : choice.ruleList.kind = listKindIp)
    (hsource : (readSourceIp (some choice.source.state)).isSome)
    (hfree : ∀ holder, reg.uniqueIdOf holder ≠ some choice.uniqueId) :
    Path EntriesStep reg (choice.happenings reg.nextFlow newId) (choice.added reg newId) := by
  let started := reg.start ⟨.showing (.setup .user [tokenField] []), none, none⟩
  have hfree' : ¬ started.Taken reg.nextFlow choice.uniqueId := by
    intro htaken
    obtain ⟨holder, hne, hid⟩ := taken_iff.mp (taken_setFlow.mp htaken)
    exact hfree holder hid
  let done : FlowInProgress :=
    ⟨.ended (.createEntry choice.ruleList.name choice.entryData), none, some choice.uniqueId⟩
  have hmoves : Path EntriesStep started (choice.moves.map (.move reg.nextFlow))
      (started.setFlow reg.nextFlow (some done)) :=
    @path_moves _ _ choice.token none {} _ _ _ _ _ (Function.update_self _ _ _) (by simp)
      (path_setup hkind hsource hfree')
  have hfinish : EntriesStep (started.setFlow reg.nextFlow (some done))
      (.finish reg.nextFlow newId) _ :=
    .finish (Function.update_self _ _ _) rfl hnew
  have hadded : ((started.setFlow reg.nextFlow (some done)).apply newId done
      (.createEntry choice.ruleList.name choice.entryData)).setFlow reg.nextFlow none =
      choice.added reg newId := by
    simp [started, done, Choice.added, ConfigEntries.apply, setFlow, ConfigEntries.start]
  rw [hadded] at hfinish
  exact .cons .startSetup (hmoves.append (.single hfinish))

/-- The new entry is the only new holder of a unique id. -/
theorem uniqueIdOf_added {newId uniqueId : String} {holder : ℕ ⊕ String}
    (h : (choice.added reg newId).uniqueIdOf holder = some uniqueId) :
    uniqueId = choice.uniqueId ∨ reg.uniqueIdOf holder = some uniqueId := by
  rcases holder with i | id
  · by_cases hi : i = reg.nextFlow
    · simp [uniqueIdOf, Choice.added, hi] at h
    · exact .inr (by simpa [uniqueIdOf, Choice.added, hi] using h)
  · by_cases hid : id = newId
    · left
      simpa [uniqueIdOf, Choice.added, hid, eq_comm] using h
    · exact .inr (by simpa [uniqueIdOf, Choice.added, hid] using h)

/-! ### The flows of an entry -/

/-- The run of a flow whose form is submitted once. -/
def flowHappenings (start : Happening) (i : ℕ) (newId : String) (input : Input)
    (t : List (Event FlowCall.Res)) : List Happening :=
  start :: ((.submit input :: (t.map .call ++ [.settle])).map (.move i) ++ [.finish i newId])

/-- The entries and flows after one of the entries was changed. -/
def withChange (reg : ConfigEntries) (id : String) (f : Entry → Entry) : ConfigEntries where
  entries := Function.update reg.entries id ((reg.entries id).map f)
  flows := Function.update reg.flows reg.nextFlow none
  nextFlow := reg.nextFlow + 1

/-- A flow of an entry that ends after its first form changes the entry, and
nothing else. -/
theorem flow_completes {start : Happening} {id newId : String} {entry : Entry} {form : Form}
    {input : Input} {outcome : Outcome} {f : Entry → Entry} {t : List (Event FlowCall.Res)}
    (hentry : reg.entries id = some entry) (hnew : reg.entries newId = none)
    (hstart : EntriesStep reg start (reg.start ⟨.showing form, some id, none⟩))
    (haccepts : form.Accepts input)
    (hreply : ((flowDialog entry.data.apiToken entry.options).step form input).Traces t
      (.done outcome))
    (ht : ∀ e ∈ t, ∀ u, e.1 ≠ .setUniqueId u)
    (happly : ∀ (reg : ConfigEntries) flow, flow.entryId = some id →
      reg.apply newId flow outcome = reg.modify (some id) f) :
    Path EntriesStep reg (flowHappenings start reg.nextFlow newId input t)
      (withChange reg id f) := by
  let started := reg.start ⟨.showing form, some id, none⟩
  let done : FlowInProgress := ⟨.ended outcome, some id, none⟩
  have hcurrent : ∀ id' entry', some id = some id' → started.entries id' = some entry' →
      entry.data.apiToken = entry'.data.apiToken ∧ entry.options = entry'.options := by
    rintro id' entry' ⟨⟩ hentry'
    obtain rfl := Option.some.inj (hentry.symm.trans hentry')
    exact ⟨rfl, rfl⟩
  have haccepts' : (flowDialog entry.data.apiToken entry.options).Accepts form input := haccepts
  have hmoves := path_moves (Function.update_self _ _ _) hcurrent
    (Dialog.path_submission haccepts' hreply (path_other ht))
  have hfinish : EntriesStep (started.setFlow reg.nextFlow (some done))
      (.finish reg.nextFlow newId) _ :=
    .finish (Function.update_self _ _ _) rfl hnew
  have hchanged : ((started.setFlow reg.nextFlow (some done)).apply newId done outcome).setFlow
      reg.nextFlow none = withChange reg id f := by
    rw [happly _ done rfl]
    simp [started, withChange, ConfigEntries.modify, setFlow, ConfigEntries.start]
  rw [hchanged] at hfinish
  exact .cons hstart (hmoves.append (.single hfinish))

/-- The run of an options flow that is submitted once. -/
def optionsHappenings (i : ℕ) (id newId : String) (input : OptionsInput)
    (t : List (Event FlowCall.Res)) : List Happening :=
  flowHappenings (.startOptions id) i newId (.options input) t

/-- The entries and flows after the options of an entry were changed. -/
def withOptions (reg : ConfigEntries) (id : String) (options : Options) : ConfigEntries :=
  withChange reg id fun entry => { entry with options := options }

/-- Every entry can be given the options of a submission that its step accepts. -/
theorem options_complete {id newId : String} {entry : Entry} {input : OptionsInput}
    {options : Options} {t : List (Event FlowCall.Res)} (hentry : reg.entries id = some entry)
    (hnew : reg.entries newId = none) (haccepts : (Form.init []).Accepts (.options input))
    (h : (asyncStepInit entry.data.apiToken entry.options (some input)).Traces t
      (.ok (.createEntry options))) (ht : ∀ e ∈ t, ∀ u, e.1 ≠ .setUniqueId u) :
    Path EntriesStep reg (optionsHappenings reg.nextFlow id newId input t)
      (withOptions reg id options) := by
  have hreply : ((flowDialog entry.data.apiToken entry.options).step (.init [])
      (.options input)).Traces t (.done (.createOptions options)) :=
    traces_bind_iff.mpr ⟨t, _, [], (List.append_nil t).symm, h, traces_ret_iff.mpr ⟨rfl, rfl⟩⟩
  apply flow_completes hentry hnew (.startOptions (by simp [hentry])) haccepts hreply ht
  intro reg flow hflow
  rw [ConfigEntries.apply, hflow]

theorem traces_validateToken {status : CloudflareTokenStatus} :
    (asyncValidateToken token).Traces [⟨.verifyToken token, .ok status⟩] (.ok ()) :=
  traces_op_iff.mpr ⟨_, _, rfl, traces_ret_iff.mpr ⟨rfl, rfl⟩⟩

/-- The run of a reauth flow with a token that is accepted. -/
def reauthHappenings (i : ℕ) (id newId token : String) (t : List (Event FlowCall.Res)) :
    List Happening :=
  flowHappenings (.startReauth id) i newId (.value token) t

/-- The entries and flows after an entry got another token. -/
def withToken (reg : ConfigEntries) (id token : String) : ConfigEntries :=
  withChange reg id fun entry => { entry with data := { entry.data with apiToken := token } }

/-- Every entry can be given a token that is validated. -/
theorem reauth_completes {id newId : String} {entry : Entry} {t : List (Event FlowCall.Res)}
    (hentry : reg.entries id = some entry) (hnew : reg.entries newId = none)
    (h : (asyncValidateToken token).Traces t (.ok ())) (ht : ∀ e ∈ t, ∀ u, e.1 ≠ .setUniqueId u) :
    Path EntriesStep reg (reauthHappenings reg.nextFlow id newId token t)
      (withToken reg id token) := by
  have hstep : (asyncStepReauthConfirm (some token)).Traces t
      (.ok (.updateReloadAndAbort { dataUpdates := { apiToken := some token } })) :=
    traces_bind_iff.mpr ⟨t, .ok (), [], (List.append_nil t).symm, h, traces_ret_iff.mpr ⟨rfl, rfl⟩⟩
  have hreply : ((flowDialog entry.data.apiToken entry.options).step
      (.reauthConfirm [tokenField] []) (.value token)).Traces t
      (.done (.updateReloadAndAbort { dataUpdates := { apiToken := some token } })) :=
    traces_bind_iff.mpr ⟨t, _, [], (List.append_nil t).symm, hstep, traces_ret_iff.mpr ⟨rfl, rfl⟩⟩
  have haccepts : (Form.reauthConfirm [tokenField] []).Accepts (.value token) := by
    intro field hfield
    rw [List.mem_singleton.mp hfield]
    trivial
  apply flow_completes hentry hnew (.startReauth (by simp [hentry])) haccepts hreply ht
  intro reg flow hflow
  rw [ConfigEntries.apply, hflow]
  rfl

/-- One of the lists of an account. -/
def homeList (id : String) : Choice :=
  ⟨"t", ⟨"t", "active"⟩, ⟨"a", "Home"⟩, ⟨id, "Allowed", "ip", 0, .null⟩,
    ⟨"sensor.ip", "IP", "192.0.2.1"⟩⟩

/-- A first setup, and a second one for another list of the same account. -/
theorem setup_first :
    Path EntriesStep {} ((homeList "l").happenings 0 "e") ((homeList "l").added {} "e") := by
  apply setup_completes rfl rfl (by decide +kernel)
  rintro (i | id) h
  · cases h
  · cases h

theorem setup_second :
    Path EntriesStep ((homeList "l").added {} "e") ((homeList "m").happenings 1 "f")
      ((homeList "m").added ((homeList "l").added {} "e") "f") := by
  apply setup_completes (by simp [Choice.added]) rfl (by decide +kernel)
  intro holder h
  rcases uniqueIdOf_added h with hfirst | hold
  · revert hfirst
    decide
  · rcases holder with i | id
    · cases hold
    · cases hold

end CloudflareIpSync.Flow
