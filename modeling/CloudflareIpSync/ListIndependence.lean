/-
CloudflareIpSync/ListIndependence.lean

DNS trouble never reaches the Rule List half.  Two coordinators that differ in
their DNS options only, run side by side on the same source states and the same
outcomes of the Rule List endpoints, agree refresh by refresh on everything but
DNS, whatever the DNS endpoints answer on either side.

The argument has three parts.  The list half of a refresh is the same program
for both (`asyncUpdateList_withoutDns`); it uses no answers but those of the source
and the Rule List endpoints (`blind_asyncUpdateList`); and what follows it
touches nothing that is compared (`listHalf_of_traces`).
-/
import CloudflareIpSync.Hass

namespace CloudflareIpSync

open Interact

/-! ### What the list half uses -/

/-- The answers the list half depends on: the source entity's and those of the
Rule List endpoints. -/
def Action.isListInput : Action → Bool
  | statesGet _ => true
  | o => o.isRuleList

theorem blind_pollLoop (c : Coordinator) (operationId : String) (fuel : ℕ) (elapsed : ℚ≥0) :
    (pollLoop c operationId fuel elapsed).Blind Action.isListInput := by
  induction fuel generalizing elapsed with
  | zero => trivial
  | succ fuel ih =>
      rw [pollLoop, asyncGetBulkOperation, Prog.call_bind]
      apply Prog.blind_op (.inl rfl)
      rintro ⟨took, answer⟩
      dsimp only
      split
      · trivial
      rcases answer with err | operation
      · trivial
      dsimp only
      split
      · trivial
      split
      · trivial
      refine Prog.blind_op (.inr inferInstance) fun _ => ?_
      show Prog.Blind _ (if _ then _ else _)
      split
      · trivial
      · exact ih _

theorem blind_asyncReplaceAndVerify (c : Coordinator) (localIp : String) :
    (asyncReplaceAndVerify c localIp).Blind Action.isListInput := by
  apply Prog.blind_op (.inl rfl)
  rintro (err | operationId)
  · trivial
  apply (blind_pollLoop c operationId pollFuel 0).bind
  rintro (err | ⟨⟨⟩⟩)
  · trivial
  apply Prog.blind_op (.inl rfl)
  rintro (err | items)
  · trivial
  show Prog.Blind _ (if _ then _ else _)
  split <;> trivial

theorem blind_retryLoop {α : Type} {S : Action → Bool} {maxRetries : ℤ}
    {body : Coro (Except SyncError α)} (hbody : body.Blind S) (attempts : List ℤ) (delay : ℕ)
    (lastErr : Option SyncError) : (retryLoop maxRetries body attempts delay lastErr).Blind S := by
  induction attempts generalizing delay lastErr with
  | nil => trivial
  | cons attempt rest ih =>
      rw [retryLoop_cons]
      apply hbody.bind
      rintro (err | value)
      · show Prog.Blind S (if _ then _ else _)
        split
        · split
          · exact Prog.blind_op (.inr inferInstance) fun _ => ih _ _
          · exact ih _ _
        · trivial
      · trivial

theorem blind_asyncReconcileList (c : Coordinator) (localIp : Option String) (ips : List String) :
    (asyncReconcileList c localIp ips).Blind Action.isListInput := by
  unfold asyncReconcileList
  split
  · rename_i ip _
    apply (blind_retryLoop (blind_asyncReplaceAndVerify c ip) _ _ _).bind
    rintro ((err | message) | ips')
    · cases err <;> trivial
    · exact Prog.blind_op (.inr inferInstance) fun _ => trivial
    · refine Prog.blind_op (.inr inferInstance) fun _ => ?_
      -- the time that is stamped is not used
      exact ⟨fun _ _ _ => rfl, fun _ => trivial⟩
  · refine Prog.blind_op (.inr inferInstance) fun _ => ?_
    exact ⟨fun _ _ _ => rfl, fun _ => trivial⟩
  · exact Prog.blind_op (.inr inferInstance) fun _ => trivial

theorem blind_asyncUpdateList (c : Coordinator) :
    (asyncUpdateList c).Blind Action.isListInput := by
  refine Prog.blind_op (.inl rfl) fun state => ?_
  apply Prog.blind_op (.inl rfl)
  rintro (err | items)
  · cases err with
    | api message code =>
        have hquery : (asyncIsRuleListMissing c).Blind Action.isListInput :=
          Prog.blind_op (.inl rfl) (by rintro (- | -) <;> trivial)
        apply hquery.bind
        rintro (- | -)
        · exact Prog.blind_op (.inr inferInstance) fun _ => trivial
        · exact Prog.blind_op (.inr inferInstance) fun _ => trivial
    | auth | connection | rateLimit | result => trivial
  · exact Prog.blind_op (.inr inferInstance) fun _ => blind_asyncReconcileList c _ _

/-! ### Configurations that differ in DNS only -/

/-- The same coordinator with the DNS record sync switched off. -/
def Coordinator.withoutDns (c : Coordinator) : Coordinator :=
  { c with dnsRecordName := none, dnsZoneId := none }

theorem pollLoop_withoutDns (c : Coordinator) (operationId : String) (fuel : ℕ) (elapsed : ℚ≥0) :
    pollLoop c.withoutDns operationId fuel elapsed = pollLoop c operationId fuel elapsed := by
  induction fuel generalizing elapsed with
  | zero => rfl
  | succ fuel ih =>
      simp only [pollLoop, ih]
      rfl

theorem asyncSyncWithRetry_withoutDns (c : Coordinator) (localIp : String) :
    asyncSyncWithRetry c.withoutDns localIp = asyncSyncWithRetry c localIp := by
  have hbody : asyncReplaceAndVerify c.withoutDns localIp = asyncReplaceAndVerify c localIp := by
    simp only [asyncReplaceAndVerify, asyncWaitForBulkOperation, pollLoop_withoutDns]
    rfl
  rw [asyncSyncWithRetry, hbody]
  rfl

theorem asyncReconcileList_withoutDns (c : Coordinator) (localIp : Option String)
    (ips : List String) :
    asyncReconcileList c.withoutDns localIp ips = asyncReconcileList c localIp ips := by
  unfold asyncReconcileList
  simp only [asyncSyncWithRetry_withoutDns]
  rfl

/-- The list half does not depend on the DNS options. -/
theorem asyncUpdateList_withoutDns (c : Coordinator) :
    asyncUpdateList c.withoutDns = asyncUpdateList c := by
  unfold asyncUpdateList
  simp only [asyncReconcileList_withoutDns]
  rfl

/-! ### What follows the list half -/

/-- An action that has nothing to do with the Rule List: it reads neither the
source nor the list, and touches neither the list's notification, nor its
issue, nor the time of the last match. -/
def Action.OffList (c : Coordinator) (o : Action) : Prop :=
  o.InDnsHalf c ∨ o = .getLastSynced

/-- The fields of a snapshot that the list half decides. -/
def SyncState.listOutcome (s : SyncState) : ListOutcome :=
  ⟨s.localIp, s.cloudflareIps, s.inSync, s.lastError⟩

/-- A refresh is its list half and then actions off the list. -/
theorem listHalf_of_traces {c : Coordinator} {t : List Ev} {out : Except UpdateError SyncState}
    (h : (asyncUpdateData c).Traces t out) :
    ∃ tl td, t = tl ++ td ∧ (asyncUpdateList c).Traces tl (out.map SyncState.listOutcome) ∧
      ∀ e ∈ td, e.1.OffList c := by
  cases refreshRun_of_traces h with
  | raised hlist => exact ⟨t, [], by simp, hlist, by simp⟩
  | @returned tl td list dns lastSynced hlist hdns =>
      refine ⟨tl, td ++ [⟨Action.getLastSynced, lastSynced⟩], by simp, hlist, ?_⟩
      intro e he
      rcases List.mem_append.mp he with he | he
      · exact .inl ((emits_asyncReconcileDns c _).traces hdns e he)
      · rw [List.mem_singleton.mp he]
        exact .inr rfl

theorem isListInput_of_offList {c : Coordinator} {o : Action} (ho : o.OffList c) :
    o.isListInput = false := by
  rcases ho with ho | rfl
  · cases o <;> first | rfl | exact ho.elim
  · rfl

/-- What the list half leaves for the user: its notification and its issue. -/
def Hass.listView (c : Coordinator) (hass : Hass) :
    Option (String × String) × Option (String × String) :=
  (hass.notifications c.notificationId, hass.issues c.ruleListMissingIssueId)

theorem listView_of_offList {c : Coordinator} {e : Ev} (he : e.1.OffList c) (s : Hass) :
    (s.after e).listView c = s.listView c := by
  rcases he with he | he
  · unfold Hass.listView
    rw [notifications_of_inDnsHalf he s (notificationId_ne c), issues_of_inDnsHalf he s]
  · obtain ⟨action, answer⟩ := e
    dsimp only at he
    subst he
    rfl

/-- What the user sees depends on the actions only, not on their answers. -/
theorem listView_congr {c : Coordinator} {e₁ e₂ : Ev} {s₁ s₂ : Hass} (he : e₁.1 = e₂.1)
    (hs : s₁.listView c = s₂.listView c) : (s₁.after e₁).listView c = (s₂.after e₂).listView c := by
  obtain ⟨action, answer₁⟩ := e₁
  obtain ⟨_, answer₂⟩ := e₂
  dsimp only at he
  subst he
  have hn : s₁.notifications c.notificationId = s₂.notifications c.notificationId :=
    congrArg Prod.fst hs
  have hi : s₁.issues c.ruleListMissingIssueId = s₂.issues c.ruleListMissingIssueId :=
    congrArg Prod.snd hs
  cases action <;> simp [Hass.listView, Hass.after, Function.update_apply, hn, hi]

theorem listView_of_same_ops {c : Coordinator} {t₁ t₂ : List Ev} {s₁ s₂ s₁' s₂' : Hass}
    (hops : t₁.map (·.1) = t₂.map (·.1)) (h₁ : Path hassStep s₁ t₁ s₁')
    (h₂ : Path hassStep s₂ t₂ s₂') (hs : s₁.listView c = s₂.listView c) :
    s₁'.listView c = s₂'.listView c := by
  induction h₁ generalizing t₂ s₂ with
  | nil =>
      have hnil : t₂ = [] := List.map_eq_nil_iff.mp hops.symm
      rw [hnil] at h₂
      rw [path_nil_iff.mp h₂]
      exact hs
  | cons hstep _ ih =>
      rcases t₂ with - | ⟨e₂, t₂⟩
      · cases hops
      obtain ⟨hop, hops⟩ := List.cons.inj hops
      obtain ⟨s, hstep₂, h₂⟩ := path_cons_iff.mp h₂
      apply ih hops h₂
      rw [hstep.2, hstep₂.2]
      exact listView_congr hop hs

/-! ### Two runs side by side -/

/-- Whether a refresh advanced `_last_synced`. -/
def stamped (t : List Ev) : Bool := t.any fun e => e.1 = .stampLastSynced

/-- One side of the comparison: what the source and the Rule List endpoints
have answered so far, and what Home Assistant shows. -/
abbrev Side := List Ev × Hass

/-- The environment of one side. -/
abbrev sideStep (oracle : List Ev → (o : Action) → o.Res) : Side → Ev → Side → Prop :=
  Both (Prog.oracleStep Action.isListInput oracle) hassStep

/-- A refresh against one side. -/
abbrev SideRound := Prog.Round Action.Res Side (Except UpdateError SyncState)

/-- Two refreshes that agree on everything but DNS. -/
structure ListAgrees (c : Coordinator) (round₁ round₂ : SideRound) : Prop where
  calls : ruleListCalls round₁.trace = ruleListCalls round₂.trace
  outcome : round₁.result.map SyncState.listOutcome = round₂.result.map SyncState.listOutcome
  last_synced : stamped round₁.trace = stamped round₂.trace
  notification : round₁.after.2.notifications c.notificationId =
    round₂.after.2.notifications c.notificationId
  issue : round₁.after.2.issues c.ruleListMissingIssueId =
    round₂.after.2.issues c.ruleListMissingIssueId

/-- The same answered so far, and the same shown about the list. -/
def SameSide (c : Coordinator) (side₁ side₂ : Side) : Prop :=
  side₁.1 = side₂.1 ∧ side₁.2.listView c = side₂.2.listView c

theorem ruleListCalls_filter (t : List Ev) :
    ruleListCalls (t.filter fun e => e.1.isListInput) = ruleListCalls t := by
  unfold ruleListCalls
  rw [List.filter_filter]
  apply List.filter_congr
  rintro ⟨action, answer⟩ -
  cases action <;> rfl

theorem stamped_eq_of_same_ops {t₁ t₂ : List Ev} (hops : t₁.map (·.1) = t₂.map (·.1)) :
    stamped t₁ = stamped t₂ := by
  have hmap : ∀ t : List Ev, stamped t = (t.map (·.1)).any fun o => o = .stampLastSynced := by
    intro t
    rw [stamped, List.any_map]
    rfl
  rw [hmap, hmap, hops]

/-- What follows the list half changes nothing that is compared. -/
theorem sameSide_of_offList {c : Coordinator} {oracle : List Ev → (o : Action) → o.Res}
    {t : List Ev} {side side' : Side} (h : Path (sideStep oracle) side t side')
    (ht : ∀ e ∈ t, e.1.OffList c) :
    side'.1 = side.1 ∧ side'.2.listView c = side.2.listView c ∧ ruleListCalls t = [] ∧
      stamped t = false := by
  refine ⟨?_, ?_, ?_, ?_⟩
  · refine h.fst.preserves (I := fun seen => seen = side.1) rfl ?_
    intro seen e seen' he hseen hstep
    rw [Prog.oracleStep, isListInput_of_offList (ht e he), if_neg Bool.false_ne_true] at hstep
    exact hstep.trans hseen
  · exact hass_frame (Hass.listView c) h.snd fun e he => listView_of_offList (ht e he)
  · apply ruleListCalls_eq_nil
    intro e he
    have hinput := isListInput_of_offList (ht e he)
    obtain ⟨action, answer⟩ := e
    cases action <;> first | rfl | cases hinput
  · rw [stamped, List.any_eq_false]
    intro e he hstamp
    have hop : e.1 = .stampLastSynced := by simpa using hstamp
    have hoff := ht e he
    rw [hop] at hoff
    rcases hoff with hoff | hoff
    · exact hoff
    · cases hoff

/-- **One refresh on either side.** -/
theorem listAgrees_of_rounds {c₁ c₂ : Coordinator} (hconfig : c₁.withoutDns = c₂.withoutDns)
    {oracle : List Ev → (o : Action) → o.Res} {side₁ side₂ side₁' side₂' : Side}
    {round₁ round₂ : SideRound} (hside : SameSide c₁ side₁ side₂)
    (h₁ : Prog.RoundStep (sideStep oracle) (asyncUpdateData c₁) side₁ round₁ side₁')
    (h₂ : Prog.RoundStep (sideStep oracle) (asyncUpdateData c₂) side₂ round₂ side₂') :
    ListAgrees c₁ round₁ round₂ ∧ SameSide c₁ side₁' side₂' := by
  obtain ⟨t₁, out₁, after₁⟩ := round₁
  obtain ⟨t₂, out₂, after₂⟩ := round₂
  obtain ⟨htraces₁, hpath₁, rfl⟩ := h₁
  obtain ⟨htraces₂, hpath₂, rfl⟩ := h₂
  dsimp only at htraces₁ hpath₁ htraces₂ hpath₂
  have hview : Hass.listView c₂ = Hass.listView c₁ := by
    show Hass.listView c₂.withoutDns = Hass.listView c₁.withoutDns
    rw [hconfig]
  have hprogram : asyncUpdateList c₂ = asyncUpdateList c₁ := by
    rw [← asyncUpdateList_withoutDns c₂, ← hconfig, asyncUpdateList_withoutDns]
  obtain ⟨tl₁, td₁, rfl, hlist₁, hoff₁⟩ := listHalf_of_traces htraces₁
  obtain ⟨tl₂, td₂, rfl, hlist₂, hoff₂⟩ := listHalf_of_traces htraces₂
  obtain ⟨mid₁, hl₁, hd₁⟩ := path_append_iff.mp hpath₁
  obtain ⟨mid₂, hl₂, hd₂⟩ := path_append_iff.mp hpath₂
  -- the list halves are two runs of one program with one oracle
  rw [hprogram] at hlist₂
  have hl₂' := hl₂.fst
  rw [← hside.1] at hl₂'
  obtain ⟨hresult, hseen, hops, hinputs⟩ :=
    (blind_asyncUpdateList c₁).agree hlist₁ hlist₂ hl₁.fst hl₂'
  have hmid := listView_of_same_ops hops hl₁.snd hl₂.snd hside.2
  have hcalls : ruleListCalls tl₁ = ruleListCalls tl₂ := by
    rw [← ruleListCalls_filter, hinputs, ruleListCalls_filter]
  -- and nothing that follows them is compared
  obtain ⟨hseen₁, hview₁, hcalls₁, hstamp₁⟩ := sameSide_of_offList hd₁ hoff₁
  obtain ⟨hseen₂, hview₂, hcalls₂, hstamp₂⟩ := sameSide_of_offList hd₂ hoff₂
  rw [hview] at hview₂
  have hafter : after₁.2.listView c₁ = after₂.2.listView c₁ := by
    rw [hview₁, hview₂, hmid]
  refine ⟨⟨?_, hresult, ?_, congrArg Prod.fst hafter, congrArg Prod.snd hafter⟩, ?_, hafter⟩
  · rw [ruleListCalls_append, ruleListCalls_append, hcalls₁, hcalls₂, hcalls]
  · show stamped (tl₁ ++ td₁) = stamped (tl₂ ++ td₂)
    have happend : ∀ t u : List Ev, stamped (t ++ u) = (stamped t || stamped u) := by
      intro t u
      exact List.any_append
    rw [happend, happend, hstamp₁, hstamp₂, stamped_eq_of_same_ops hops]
  · rw [hseen₁, hseen₂, hseen]

/-! ### Where authentication failures come from -/

/-- A call of the Rule List half that was answered with an authentication error. -/
def raisedAuth : Ev → Bool
  | ⟨.getListItems _ _, .error (.auth _)⟩ => true
  | ⟨.replaceListItems _ _ _, .error (.auth _)⟩ => true
  | ⟨.getBulkOperation _ _, (_, .error (.auth _))⟩ => true
  | _ => false

theorem PollRun.raisedAuth {c : Coordinator} {operationId message : String} {elapsed : ℚ≥0}
    {t : List Ev} (h : PollRun c operationId elapsed t (.error (.cloudflare (.auth message)))) :
    ∃ e ∈ t, raisedAuth e = true := by
  generalize hout : (Except.error (SyncError.cloudflare (.auth message)) :
    Except SyncError Unit) = out at h
  induction h with
  | late | completed | failed | asleep => cases hout
  | raised => cases hout; exact ⟨_, List.mem_singleton_self _, rfl⟩
  | again _ _ _ _ _ ih =>
      obtain ⟨e, he, hauth⟩ := ih hout
      exact ⟨e, List.mem_cons_of_mem _ (List.mem_cons_of_mem _ he), hauth⟩

theorem ReplaceRun.raisedAuth {c : Coordinator} {localIp message : String} {t : List Ev}
    (h : ReplaceRun c localIp t (.error (.cloudflare (.auth message)))) :
    ∃ e ∈ t, raisedAuth e = true := by
  generalize hout : (Except.error (SyncError.cloudflare (.auth message)) :
    Except SyncError (List String)) = out at h
  cases h with
  | mismatch | verified => cases hout
  | replaceRaised => cases hout; exact ⟨_, List.mem_singleton_self _, rfl⟩
  | waitRaised hpoll =>
      cases hout
      obtain ⟨e, he, hauth⟩ := hpoll.raisedAuth
      exact ⟨e, List.mem_cons_of_mem _ he, hauth⟩
  | readRaised => cases hout; exact ⟨readEv c (.error (.auth message)), by simp, rfl⟩

theorem RetryRun.raisedAuth {c : Coordinator} {localIp message : String} {maxRetries : ℤ}
    {attempts : List ℤ} {delay : ℕ} {lastErr : Option SyncError} {t : List Ev}
    (h : RetryRun maxRetries (asyncReplaceAndVerify c localIp) attempts delay lastErr t
      (.error (.cloudflare (.auth message)))) : ∃ e ∈ t, raisedAuth e = true := by
  generalize hout : (Except.error (SyncError.cloudflare (.auth message)) :
    Except SyncError (List String)) = out at h
  induction h with
  | exhausted | success => cases hout
  | auth hbody => cases hout; exact (replaceRun_of_traces hbody).raisedAuth
  | again _ _ _ _ ih =>
      obtain ⟨e, he, hauth⟩ := ih hout
      exact ⟨e, List.mem_append_right _ (List.mem_cons_of_mem _ he), hauth⟩
  | last _ _ _ _ ih =>
      obtain ⟨e, he, hauth⟩ := ih hout
      exact ⟨e, List.mem_append_right _ he, hauth⟩

theorem isRuleList_of_raisedAuth {e : Ev} (h : raisedAuth e = true) : e.1.isRuleList = true := by
  unfold raisedAuth at h
  split at h <;> first | rfl | cases h

/-- A refresh only asks for a new token when a Rule List call was refused. -/
theorem raisedAuth_of_configEntryAuthFailed {c : Coordinator} {t : List Ev} {message : String}
    (h : (asyncUpdateData c).Traces t (.error (.configEntryAuthFailed message))) :
    ∃ e ∈ ruleListCalls t, raisedAuth e = true := by
  have hmem : ∃ e ∈ t, raisedAuth e = true := by
    generalize hout : (Except.error (UpdateError.configEntryAuthFailed message) :
      Except UpdateError SyncState) = out at h
    cases refreshRun_of_traces h with
    | returned => cases hout
    | raised hlist =>
        cases hout
        generalize hout : (Except.error (UpdateError.configEntryAuthFailed message) :
          Except UpdateError ListOutcome) = out at hlist
        cases listRun_of_traces hlist with
        | readApi | readOther | noSource | matched | written | gaveUp => cases hout
        | readAuth state message =>
            exact ⟨readEv c (.error (.auth message)), by simp, rfl⟩
        | writeAuth _ _ hwrite =>
            obtain ⟨e, he, hauth⟩ := (retryRun_of_traces hwrite).raisedAuth
            refine ⟨e, ?_, hauth⟩
            exact List.mem_cons_of_mem _ (List.mem_cons_of_mem _ (List.mem_cons_of_mem _ he))
  obtain ⟨e, he, hauth⟩ := hmem
  exact ⟨e, List.mem_filter.mpr ⟨he, isRuleList_of_raisedAuth hauth⟩, hauth⟩

/-! ### Whole runs -/

theorem listAgrees_of_sessions {c₁ c₂ : Coordinator} (hconfig : c₁.withoutDns = c₂.withoutDns)
    {oracle : List Ev → (o : Action) → o.Res} {start₁ start₂ side₁ side₂ : Side}
    {rounds₁ rounds₂ : List SideRound} (hstart : SameSide c₁ start₁ start₂)
    (hlength : rounds₁.length = rounds₂.length)
    (h₁ : Prog.Session (sideStep oracle) (asyncUpdateData c₁) start₁ rounds₁ side₁)
    (h₂ : Prog.Session (sideStep oracle) (asyncUpdateData c₂) start₂ rounds₂ side₂) :
    List.Forall₂ (ListAgrees c₁) rounds₁ rounds₂ := by
  induction h₁ generalizing start₂ rounds₂ with
  | nil =>
      rw [List.length_eq_zero_iff.mp hlength.symm]
      exact .nil
  | cons hround₁ _ ih =>
      rcases rounds₂ with - | ⟨round₂, rounds₂⟩
      · cases hlength
      obtain ⟨mid, hround₂, h₂⟩ := path_cons_iff.mp h₂
      obtain ⟨hagrees, hmid⟩ := listAgrees_of_rounds hconfig hstart hround₁ hround₂
      exact .cons hagrees (ih hmid (Nat.succ.inj hlength) h₂)

/-- **DNS trouble never influences the Rule List half.**  Two sessions of
coordinators that differ in their DNS options, with the same source states and
the same outcomes of the Rule List endpoints, agree refresh by refresh on
everything but DNS; and a refresh asks for a new token only when a Rule List
call was refused. -/
theorem list_independent_of_dns {c₁ c₂ : Coordinator}
    {oracle : List Ev → (o : Action) → o.Res} {side side₁ side₂ : Side}
    {rounds₁ rounds₂ : List SideRound} (hconfig : c₁.withoutDns = c₂.withoutDns)
    (hlength : rounds₁.length = rounds₂.length)
    (h₁ : Prog.Session (sideStep oracle) (asyncUpdateData c₁) side rounds₁ side₁)
    (h₂ : Prog.Session (sideStep oracle) (asyncUpdateData c₂) side rounds₂ side₂) :
    List.Forall₂ (ListAgrees c₁) rounds₁ rounds₂ ∧
      ∀ round ∈ rounds₁, ∀ message, round.result = .error (.configEntryAuthFailed message) →
        ∃ e ∈ ruleListCalls round.trace, raisedAuth e = true := by
  refine ⟨listAgrees_of_sessions hconfig ⟨rfl, rfl⟩ hlength h₁ h₂, ?_⟩
  intro round hround message hresult
  have htraces := h₁.traces round hround
  rw [hresult] at htraces
  exact raisedAuth_of_configEntryAuthFailed htraces

/-- A side whose endpoints always give the same answers. -/
def serveSide (replies : Replies) (side : Side) (o : Action) : o.Res × Side :=
  let served := side.2.serve replies o
  (served.1, (if o.isListInput then side.1 ++ [⟨o, served.1⟩] else side.1, served.2))

theorem sideStep_serveSide {replies : Replies} {oracle : (o : Action) → o.Res}
    (horacle : ∀ o, o.isListInput = true → oracle o = replies.answer o) (side : Side)
    (o : Action) : sideStep (fun _ => oracle) side ⟨o, (serveSide replies side o).1⟩
      (serveSide replies side o).2 := by
  refine ⟨?_, hassStep_serve replies side.2 o⟩
  show if o.isListInput then _ ∧ _ else _
  by_cases ho : o.isListInput = true
  · rw [if_pos ho]
    refine ⟨?_, by simp [serveSide, ho]⟩
    show (side.2.serve replies o).1 = oracle o
    rw [horacle o ho]
    cases o <;> first | rfl | cases ho
  · rw [if_neg ho]
    simp [serveSide, ho]

/-- A refresh whose DNS query is refused, beside one with DNS switched off. -/
theorem list_independent_of_dns_refused :
    let c : Coordinator :=
      ⟨"e", "home", "acc", "list", "sensor.ip", 5, some "vpn.example.org", some "zone"⟩
    let replies : Replies :=
      { source := some "203.0.113.7", listItems := .ok [⟨"203.0.113.7", none, none⟩],
        replace := .ok "op", bulkOperation := (0, .ok ⟨"op", "completed", none⟩),
        ruleLists := .ok [], dnsRecords := .error (.auth "Forbidden"),
        dnsRecord := .error (.auth "Forbidden"), now := (9 : ℕ), lastSynced := none }
    let side : Side := ([], ⟨fun _ => none, fun _ => none, none⟩)
    let round₁ := (asyncUpdateData c).exec (serveSide replies) side
    let round₂ := (asyncUpdateData c.withoutDns).exec
      (serveSide { replies with dnsRecords := .ok [] }) side
    List.Forall₂ (ListAgrees c) [round₁] [round₂] ∧
      ∀ round ∈ [round₁], ∀ message, round.result = .error (.configEntryAuthFailed message) →
        ∃ e ∈ ruleListCalls round.trace, raisedAuth e = true := by
  intro c replies side round₁ round₂
  have hround₁ := Prog.exec_round (sideStep_serveSide fun o _ => (rfl : replies.answer o = _))
    (asyncUpdateData c) side
  have hround₂ : Prog.RoundStep (sideStep fun _ => replies.answer) (asyncUpdateData c.withoutDns)
      side round₂ round₂.after := by
    refine Prog.exec_round (sideStep_serveSide ?_) _ side
    intro o ho
    cases o <;> first | rfl | cases ho
  have hconfig : c.withoutDns = c.withoutDns.withoutDns := rfl
  exact list_independent_of_dns hconfig rfl (.single hround₁) (.single hround₂)

end CloudflareIpSync
