/-
CloudflareIpSync/FlowInvariant.lean

What a flow has found out by the time it shows a form or ends.

The data of a form was put together from answers to the flow's own calls: the
token was accepted, the account and the Rule List were offered to this token,
the unique id was free, the source entity had a state that the coordinator would
read an address from (`Founded`).  Each step keeps this (`flow_keeps`), whatever
its calls are answered with.
-/
import CloudflareIpSync.ConfigEntries
import CloudflareIpSync.ZoneResolution

namespace CloudflareIpSync.Flow

open Interact Interact.Prog Client

/-! ### A flow's memory -/

/-- The unique id of a flow, and its calls so far. -/
structure Memory where
  uniqueId : Option String
  calls : List (Event FlowCall.Res)

/-- The unique id that a call sets. -/
def setsUniqueId : Event FlowCall.Res → Option String
  | ⟨.setUniqueId uniqueId, none⟩ => some uniqueId
  | _ => none

def Memory.after (mem : Memory) (e : Event FlowCall.Res) : Memory :=
  ⟨(setsUniqueId e).or mem.uniqueId, mem.calls ++ [e]⟩

/-- The flow remembers its calls, whatever they are answered with. -/
def Memory.Next (mem : Memory) (e : Event FlowCall.Res) (mem' : Memory) : Prop :=
  mem' = mem.after e

/-- The postconditions of a step of a flow. -/
abbrev Ensures {α : Type} (p : Step α) (post : α → Memory → Prop) : Memory → Prop :=
  p.Wp Memory.Next (fun _ _ => True) post

variable {α β : Type} {mem mem' : Memory} {post post' : α → Memory → Prop}

theorem ensures_op_iff {call : FlowCall} {k : call.Res → Step α} :
    Ensures (.op call k) post mem ↔ ∀ r, Ensures (k r) post (mem.after ⟨call, r⟩) := by
  simp [Ensures, wp_op_iff, Memory.Next]

theorem Ensures.calls {p : Step α} (h : Ensures p post mem) :
    Ensures p (fun a mem' => post a mem' ∧ mem.calls ⊆ mem'.calls) mem := by
  refine h.rely (R := fun mem mem' => mem.calls ⊆ mem'.calls) (fun _ => List.Subset.refl _)
    (fun _ _ _ => List.Subset.trans) ?_
  rintro mem e _ rfl
  exact List.subset_append_left _ _

@[simp] theorem Memory.after_calls {e : Event FlowCall.Res} :
    (mem.after e).calls = mem.calls ++ [e] := rfl

/-! ### What the data of a flow rests on -/

section Founded

variable (calls : List (Event FlowCall.Res))

/-- The token was accepted: it was verified, or it was refused as a user token
and could list accounts. -/
def TokenAccepted (token : String) : Prop :=
  (∃ status, ⟨.verifyToken token, .ok status⟩ ∈ calls) ∨
    (∃ err, ⟨.verifyToken token, .error (.cloudflare err)⟩ ∈ calls ∧
      ((∃ message, err = .auth message) ∨ ∃ message code, err = .api message code)) ∧
    ∃ accounts, ⟨.getAccounts token, .ok accounts⟩ ∈ calls

/-- The account was offered to the token, and has the name it had when it was
chosen. -/
structure AccountFounded (data : AccountData) : Prop where
  token : TokenAccepted calls data.apiToken
  accountOffered : ∃ accounts, ⟨.getAccounts data.apiToken, .ok accounts⟩ ∈ calls ∧
    ∃ account ∈ accounts, account.id = data.accountId
  accountNamed : ∃ accounts, ⟨.getAccounts data.apiToken, .ok accounts⟩ ∈ calls ∧
    data.accountName = nameOf (accounts.map fun account => (account.id, account.name))
      data.accountId

/-- The Rule List was offered for the account as a list of addresses, has the
name it had when it was chosen, and its unique id was free. -/
structure ListFounded (data : ListData) : Prop extends
    AccountFounded calls data.toAccountData where
  listOffered : ∃ ruleLists,
    ⟨.getRuleLists data.apiToken data.accountId, .ok ruleLists⟩ ∈ calls ∧
      ∃ rule ∈ ruleLists, rule.kind = listKindIp ∧ rule.id = data.listId
  listNamed : ∃ ruleLists,
    ⟨.getRuleLists data.apiToken data.accountId, .ok ruleLists⟩ ∈ calls ∧
      data.listName = nameOf ((ruleLists.filter (·.kind == listKindIp)).map fun rule =>
        (rule.id, rule.name)) data.listId
  free : ⟨.setUniqueId (data.accountId ++ ":" ++ data.listId), none⟩ ∈ calls

/-- The source entity had a state that the coordinator reads an address from. -/
structure Founded (data : EntryData) : Prop extends ListFounded calls data.toListData where
  source : ∃ states, ⟨.statesAll, states⟩ ∈ calls ∧
    ∃ state ∈ states, state.entityId = data.sourceEntityId ∧
      (readSourceIp (some state.state)).isSome

/-- The numbers are within the bounds of the form, and a hostname is stored with
the zone that has the most labels of those that the flow could see. -/
structure OptionsFounded (options : Options) : Prop where
  maxRetries : ∃ n, options.maxRetries = some n ∧ 0 ≤ n ∧ n ≤ 10
  reconcileInterval : ∃ n, options.reconcileInterval = some n ∧ 1 ≤ n ∧ n ≤ 1440
  dns : (options.dnsRecordName = none ∧ options.dnsZoneId = none ∧ options.dnsZoneName = none) ∨
    ∃ recordName token zones zone, recordName ≠ "" ∧ ⟨.getZones token, .ok zones⟩ ∈ calls ∧
      IsLongestZone recordName zones zone ∧ options.dnsRecordName = some recordName ∧
      options.dnsZoneId = some zone.id ∧ options.dnsZoneName = some zone.name

end Founded

variable {calls calls' : List (Event FlowCall.Res)}

theorem TokenAccepted.mono {token : String} (h : TokenAccepted calls token)
    (hsub : calls ⊆ calls') : TokenAccepted calls' token := by
  rcases h with ⟨status, hmem⟩ | ⟨⟨err, hmem, herr⟩, accounts, hmem'⟩
  · exact .inl ⟨status, hsub hmem⟩
  · exact .inr ⟨⟨err, hsub hmem, herr⟩, accounts, hsub hmem'⟩

theorem AccountFounded.mono {data : AccountData} (h : AccountFounded calls data)
    (hsub : calls ⊆ calls') : AccountFounded calls' data := by
  obtain ⟨htoken, ⟨offered, hoffered, hmem⟩, ⟨named, hnamed, hname⟩⟩ := h
  exact ⟨htoken.mono hsub, ⟨offered, hsub hoffered, hmem⟩, ⟨named, hsub hnamed, hname⟩⟩

theorem ListFounded.mono {data : ListData} (h : ListFounded calls data) (hsub : calls ⊆ calls') :
    ListFounded calls' data := by
  obtain ⟨haccount, ⟨offered, hoffered, hmem⟩, ⟨named, hnamed, hname⟩, hfree⟩ := h
  exact ⟨haccount.mono hsub, ⟨offered, hsub hoffered, hmem⟩, ⟨named, hsub hnamed, hname⟩,
    hsub hfree⟩

theorem Founded.mono {data : EntryData} (h : Founded calls data) (hsub : calls ⊆ calls') :
    Founded calls' data := by
  obtain ⟨hlist, states, hstates, hstate⟩ := h
  exact ⟨hlist.mono hsub, states, hsub hstates, hstate⟩

theorem OptionsFounded.mono {options : Options} (h : OptionsFounded calls options)
    (hsub : calls ⊆ calls') : OptionsFounded calls' options := by
  refine ⟨h.maxRetries, h.reconcileInterval, ?_⟩
  rcases h.dns with hnone | ⟨recordName, token, zones, zone, hne, hzones, hrest⟩
  · exact .inl hnone
  · exact .inr ⟨recordName, token, zones, zone, hne, hsub hzones, hrest⟩

/-! ### Forms and ends -/

/-- What holds when a form is on the screen. -/
def FormOk : Form → Memory → Prop
  | .setup (.account data) fields _, mem =>
      TokenAccepted mem.calls data.apiToken ∧
        ∃ accounts, ⟨.getAccounts data.apiToken, .ok accounts⟩ ∈ mem.calls ∧
          fields = [dropdownField confAccountId
            (accounts.map fun account => ⟨account.id, account.name⟩)]
  | .setup (.ruleList data) fields _, mem =>
      AccountFounded mem.calls data ∧
        ∃ ruleLists, ⟨.getRuleLists data.apiToken data.accountId, .ok ruleLists⟩ ∈ mem.calls ∧
          fields = [dropdownField confListId
            ((ruleLists.filter (·.kind == listKindIp)).map fun rule => ⟨rule.id, rule.name⟩)]
  | .setup (.entity data) fields _, mem =>
      ListFounded mem.calls data ∧ mem.uniqueId = some (data.accountId ++ ":" ++ data.listId) ∧
        ∃ states, ⟨.statesAll, states⟩ ∈ mem.calls ∧
          fields = [dropdownField confSourceEntityId (ipEntityOptions states)]
  | _, _ => True

/-- What holds when a flow has ended. -/
def OutcomeOk : Outcome → Memory → Prop
  | .abort _, _ => True
  | .createEntry title data, mem =>
      Founded mem.calls data ∧ mem.uniqueId = some (data.accountId ++ ":" ++ data.listId) ∧
        title = data.listName
  | .updateReloadAndAbort updates, mem =>
      ∃ token, updates = { dataUpdates := { apiToken := some token } } ∧
        TokenAccepted mem.calls token
  | .createOptions options, mem => OptionsFounded mem.calls options

/-- A step of the setup returns a form or an end that is all right. -/
def SetupOk : Except ClientExc SetupResult → Memory → Prop
  | .ok (.showForm stage fields errors) => FormOk (.setup stage fields errors)
  | .ok (.createEntry title data) => OutcomeOk (.createEntry title data)
  | _ => fun _ => True

/-! ### The steps of the setup -/

theorem ensures_call_iff {call : FlowCall} {f : call.Res → Step α} :
    Ensures (Prog.call call >>= f) post mem ↔ ∀ r, Ensures (f r) post (mem.after ⟨call, r⟩) := by
  rw [call_bind]
  exact ensures_op_iff

theorem ensures_stepEntity {data : ListData} (h : ListFounded mem.calls data)
    (hid : mem.uniqueId = some (data.accountId ++ ":" ++ data.listId)) :
    Ensures (asyncStepEntity data none) SetupOk mem := by
  unfold asyncStepEntity
  rw [ensures_call_iff]
  intro states
  rcases hoptions : ipEntityOptions states with - | ⟨option, options⟩
  · trivial
  · refine ⟨h.mono (by simp), hid, states, by simp, ?_⟩
    rw [hoptions]

/-- The entities that are offered are those whose state the coordinator reads an
address from. -/
theorem mem_ipEntityOptions_iff {states : List EntityState} {value : String} :
    value ∈ (ipEntityOptions states).map (·.value) ↔
      ∃ state ∈ states, state.entityId = value ∧ (readSourceIp (some state.state)).isSome := by
  rw [ipEntityOptions, List.map_filterMap, List.mem_filterMap]
  apply exists_congr
  intro state
  apply and_congr_right
  intro _
  by_cases hnone : state.state = "unavailable" ∨ state.state = "unknown" ∨ state.state = ""
  · simp [readSourceIp, hnone]
  · by_cases hip : (Ipaddress.ipAddress (Ipaddress.strip state.state)).isSome
    · simp [readSourceIp, hnone, hip]
    · simp [readSourceIp, hnone, hip]

/-- The source entity is chosen among those with an address; this step does not
raise. -/
theorem ensures_stepEntity_some {data : ListData} {states : List EntityState} {value : String}
    (h : ListFounded mem.calls data)
    (hid : mem.uniqueId = some (data.accountId ++ ":" ++ data.listId))
    (hstates : ⟨.statesAll, states⟩ ∈ mem.calls)
    (hvalue : value ∈ (ipEntityOptions states).map (·.value)) :
    Ensures (asyncStepEntity data (some value))
      (fun r mem' => SetupOk r mem' ∧ ∃ result, r = .ok result) mem := by
  unfold asyncStepEntity
  rw [ensures_call_iff]
  intro states'
  rcases hoptions : ipEntityOptions states' with - | ⟨option, options⟩
  · exact ⟨trivial, _, rfl⟩
  · refine ⟨⟨⟨h.mono (by simp), states, by simp [hstates], ?_⟩, hid, rfl⟩, _, rfl⟩
    exact mem_ipEntityOptions_iff.mp hvalue

theorem ensures_stepRuleList {data : AccountData} (h : AccountFounded mem.calls data) :
    Ensures (asyncStepRuleList data none) SetupOk mem := by
  unfold asyncStepRuleList
  rw [ensures_call_iff]
  rintro ((err | exc) | ruleLists)
  · trivial
  · trivial
  · rcases hip : ruleLists.filter (·.kind == listKindIp) with - | ⟨rule, ipLists⟩
    · simp only [hip]
      trivial
    · simp only [hip]
      refine ⟨h.mono (by simp), ruleLists, by simp, ?_⟩
      rw [hip]

/-- The unique id is set before the next form is shown. -/
theorem ensures_stepRuleList_some {data : AccountData} {value : String}
    {ruleLists : List Client.CloudflareRuleList}
    (h : AccountFounded mem.calls data)
    (hlists : ⟨.getRuleLists data.apiToken data.accountId, .ok ruleLists⟩ ∈ mem.calls)
    (hvalue : value ∈ (ruleLists.filter (·.kind == listKindIp)).map (·.id)) :
    Ensures (asyncStepRuleList data (some value)) SetupOk mem := by
  unfold asyncStepRuleList
  rw [ensures_call_iff]
  rintro ((err | exc) | ruleLists')
  · trivial
  · trivial
  · rcases hip : ruleLists'.filter (·.kind == listKindIp) with - | ⟨rule, ipLists⟩
    · simp only [hip]
      trivial
    · simp only [hip]
      rw [ensures_call_iff]
      rintro (- | reason)
      · apply ensures_stepEntity
        · obtain ⟨rule', hrule', hid⟩ := List.mem_map.mp hvalue
          obtain ⟨hmem, hkind⟩ := List.mem_filter.mp hrule'
          refine ⟨h.mono (by simp), ⟨ruleLists, by simp [hlists], rule', hmem, by simpa using hkind, hid⟩,
            ⟨ruleLists', by simp, ?_⟩, by simp⟩
          rw [hip]
        · rfl
      · trivial

theorem ensures_stepAccount {data : TokenData} (h : TokenAccepted mem.calls data.apiToken) :
    Ensures (asyncStepAccount data none) SetupOk mem := by
  unfold asyncStepAccount
  rw [ensures_call_iff]
  rintro ((err | exc) | (- | ⟨account, accounts⟩))
  · trivial
  · trivial
  · trivial
  · exact ⟨h.mono (by simp), account :: accounts, by simp, rfl⟩

theorem ensures_stepAccount_some {data : TokenData} {value : String}
    {accounts : List CloudflareAccount} (h : TokenAccepted mem.calls data.apiToken)
    (haccounts : ⟨.getAccounts data.apiToken, .ok accounts⟩ ∈ mem.calls)
    (hvalue : value ∈ accounts.map (·.id)) :
    Ensures (asyncStepAccount data (some value)) SetupOk mem := by
  unfold asyncStepAccount
  rw [ensures_call_iff]
  rintro ((err | exc) | (- | ⟨account, accounts'⟩))
  · trivial
  · trivial
  · trivial
  · apply ensures_stepRuleList
    obtain ⟨chosen, hchosen, hid⟩ := List.mem_map.mp hvalue
    exact ⟨h.mono (by simp), ⟨accounts, by simp [haccounts], chosen, hchosen, hid⟩,
      account :: accounts', by simp, rfl⟩

/-! ### The token -/

/-- A token that passed was accepted. -/
def Validated (token : String) (r : Except ClientExc Unit) (mem : Memory) : Prop :=
  r = .ok () → TokenAccepted mem.calls token

/-- A token that was refused as a user token is accepted if it lists accounts. -/
theorem ensures_listAccounts {token : String} {err : CloudflareError}
    (herr : (∃ message, err = .auth message) ∨ ∃ message code, err = .api message code)
    {k : (FlowCall.getAccounts token).Res → Step (Except ClientExc Unit)}
    (hk : ∀ r, k r = .ret (r.map fun _ => ())) :
    Ensures (Prog.call (.getAccounts token) >>= k) (Validated token)
      (mem.after ⟨.verifyToken token, .error (.cloudflare err)⟩) := by
  rw [ensures_call_iff]
  rintro (exc | accounts)
  · rw [hk]
    intro h
    cases h
  · rw [hk]
    intro _
    exact .inr ⟨⟨err, by simp, herr⟩, accounts, by simp⟩

/-- `_async_validate_token` returns for accepted tokens only. -/
theorem ensures_validateToken {token : String} :
    Ensures (asyncValidateToken token) (Validated token) mem := by
  unfold asyncValidateToken
  rw [ensures_call_iff]
  have hraise : ∀ (exc : ClientExc) (mem' : Memory),
      Ensures (Prog.ret (.error exc)) (Validated token) mem' := by
    intro exc mem' h
    cases h
  rintro ((err | exc) | status)
  · cases err with
    | auth message =>
        apply ensures_listAccounts (.inl ⟨_, rfl⟩)
        rintro (exc | accounts)
        · rfl
        · rfl
    | api message code =>
        apply ensures_listAccounts (.inr ⟨_, _, rfl⟩)
        rintro (exc | accounts)
        · rfl
        · rfl
    | connection message => exact hraise _ _
    | rateLimit message => exact hraise _ _
    | result message => exact hraise _ _
  · exact hraise _ _
  · intro _
    exact .inl ⟨status, by simp⟩

theorem ensures_stepUser {token : String} :
    Ensures (asyncStepUser (some token)) SetupOk mem := by
  unfold asyncStepUser
  apply wp_bind_iff.mpr
  apply ensures_validateToken.imp
  rintro ((err | exc) | done) mem' h
  · trivial
  · trivial
  · exact ensures_stepAccount (h rfl)

/-- What the reauth flow returns is all right. -/
def ReauthOk : Except ClientExc ReauthResult → Memory → Prop
  | .ok (.updateReloadAndAbort updates) => OutcomeOk (.updateReloadAndAbort updates)
  | _ => fun _ => True

theorem ensures_stepReauthConfirm {token : String} :
    Ensures (asyncStepReauthConfirm (some token)) ReauthOk mem := by
  unfold asyncStepReauthConfirm
  apply wp_bind_iff.mpr
  apply ensures_validateToken.imp
  rintro ((err | exc) | done) mem' h
  · trivial
  · trivial
  · exact ⟨token, rfl, h rfl⟩

/-! ### The options -/

/-- What the options flow returns is all right. -/
def OptionsOk : Except ClientExc OptionsResult → Memory → Prop
  | .ok (.createEntry options) => OutcomeOk (.createOptions options)
  | _ => fun _ => True

/-- A number selector with whole bounds bounds the integer that is stored. -/
theorem pyInt_bounds (min max : ℤ) {value : ℚ} (hmin : 0 ≤ min)
    (h : (numberSelector min max value).isSome) : min ≤ pyInt value ∧ pyInt value ≤ max := by
  unfold numberSelector at h
  split at h
  · next hbounds =>
      have h0 : (0 : ℚ) ≤ value := le_trans (by exact_mod_cast hmin) hbounds.1
      rw [pyInt_eq_floor h0]
      refine ⟨Int.le_floor.mpr hbounds.1, ?_⟩
      exact_mod_cast (Int.floor_le value).trans hbounds.2
  · cases h

attribute [local irreducible] OptionsInput.recordName

theorem ensures_stepInit {token : String} {current : Options} {input : OptionsInput}
    (h : (Form.init []).Accepts (.options input)) :
    Ensures (asyncStepInit token current (some input)) OptionsOk mem := by
  obtain ⟨hretries, hinterval⟩ := h
  have hretries : ∃ n, input.options.maxRetries = some n ∧ 0 ≤ n ∧ n ≤ 10 :=
    ⟨_, rfl, pyInt_bounds 0 10 le_rfl (by push_cast; exact hretries)⟩
  have hinterval : ∃ n, input.options.reconcileInterval = some n ∧ 1 ≤ n ∧ n ≤ 1440 :=
    ⟨_, rfl, pyInt_bounds 1 1440 zero_le_one (by push_cast; exact hinterval)⟩
  by_cases hempty : input.recordName = ""
  · have hstep : asyncStepInit token current (some input) =
        .ret (.ok (.createEntry input.options)) := by
      unfold asyncStepInit
      dsimp only
      rw [if_pos hempty]
      rfl
    rw [hstep]
    exact ⟨hretries, hinterval, .inl ⟨rfl, rfl, rfl⟩⟩
  · rw [asyncStepInit_eq hempty, asyncFindZone_eq, Prog.op_bind, ensures_op_iff]
    rintro ((err | exc) | zones)
    · trivial
    · trivial
    · rcases hfind : findZone zones input.recordName with - | zone
      · show Ensures (.ret (initResult current input (.ok (findZone zones input.recordName)))) _ _
        rw [hfind]
        trivial
      · show Ensures (.ret (initResult current input (.ok (findZone zones input.recordName)))) _ _
        rw [hfind]
        exact ⟨hretries, hinterval, .inr ⟨input.recordName, token, zones, zone, hempty, by simp,
          findZone_eq_some hfind, rfl, rfl, rfl⟩⟩

/-! ### Every flow -/

/-- What the dialog makes of a step of the setup. -/
theorem setup_holds {form : Form} {r : Except ClientExc SetupResult} (h : SetupOk r mem)
    (hagain : ∀ exc, r = .error exc → FormOk form mem) :
    (SetupResult.reply r).Holds FormOk OutcomeOk form mem := by
  rcases r with exc | (⟨stage, fields, errors⟩ | reason | ⟨title, data⟩)
  · exact hagain exc rfl
  · exact h
  · trivial
  · exact h

/-- The value of a dropdown is one of its options. -/
theorem Form.Accepts.dropdown {stage : Stage} {key value : String} {options : List SelectOption}
    {errors : List (String × String)}
    (h : (Form.setup stage [dropdownField key options] errors).Accepts (.value value)) :
    value ∈ options.map (·.value) :=
  h _ (List.mem_singleton_self _)

theorem ensures_step {stage : Stage} {fields : List Field} {errors : List (String × String)}
    {value : String} (hok : FormOk (.setup stage fields errors) mem)
    (haccepts : (Form.setup stage fields errors).Accepts (.value value)) :
    Ensures (stage.step value) (fun r mem' => SetupOk r mem' ∧
      ∀ exc, r = .error exc → FormOk (.setup stage fields errors) mem') mem := by
  cases stage with
  | user =>
      apply ensures_stepUser.imp
      intro r mem' h
      exact ⟨h, fun _ _ => trivial⟩
  | account data =>
      obtain ⟨htoken, accounts, hmem, rfl⟩ := hok
      have hvalue : value ∈ accounts.map (·.id) := by
        simpa using haccepts.dropdown
      apply (ensures_stepAccount_some htoken hmem hvalue).calls.imp
      intro r mem' ⟨h, hsub⟩
      exact ⟨h, fun _ _ => ⟨htoken.mono hsub, accounts, hsub hmem, rfl⟩⟩
  | ruleList data =>
      obtain ⟨haccount, ruleLists, hmem, rfl⟩ := hok
      have hvalue : value ∈ (ruleLists.filter (·.kind == listKindIp)).map (·.id) := by
        simpa [Function.comp_def] using haccepts.dropdown
      apply (ensures_stepRuleList_some haccount hmem hvalue).calls.imp
      intro r mem' ⟨h, hsub⟩
      exact ⟨h, fun _ _ => ⟨haccount.mono hsub, ruleLists, hsub hmem, rfl⟩⟩
  | entity data =>
      obtain ⟨hlist, hid, states, hmem, rfl⟩ := hok
      apply (ensures_stepEntity_some hlist hid hmem haccepts.dropdown).imp
      intro r mem' ⟨h, result, hr⟩
      refine ⟨h, ?_⟩
      intro exc hexc
      rw [hr] at hexc
      cases hexc

/-- Each step of each flow keeps the invariant, whatever its calls are answered
with. -/
theorem flow_keeps (token : String) (current : Options) :
    (flowDialog token current).Keeps Memory.Next FormOk OutcomeOk := by
  intro form input mem haccepts hok
  cases form with
  | setup stage fields errors =>
      cases input with
      | value value =>
          apply wp_bind_iff.mpr
          apply (ensures_step hok haccepts).imp
          intro r mem' ⟨h, hagain⟩
          exact setup_holds h hagain
      | options input => cases haccepts
  | reauthConfirm fields errors =>
      cases input with
      | value value =>
          apply wp_bind_iff.mpr
          apply ensures_stepReauthConfirm.imp
          rintro (exc | (⟨fields, errors⟩ | updates)) mem' h
          · trivial
          · trivial
          · exact h
      | options input => cases haccepts
  | init errors =>
      cases input with
      | value value => cases haccepts
      | options input =>
          apply wp_bind_iff.mpr
          apply Prog.Wp.mono (ensures_stepInit haccepts) (fun _ _ => id)
          rintro (exc | (⟨fields, errors⟩ | options)) mem' h
          · trivial
          · trivial
          · exact h

end CloudflareIpSync.Flow
