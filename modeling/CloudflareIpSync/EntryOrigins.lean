/-
CloudflareIpSync/EntryOrigins.lean

Where the entries come from, over all runs of the flows.

Each flow in progress keeps the invariant of its dialog, with its own calls as
its memory, whatever the other flows do (`Traced.step`).  So every entry that
ever exists is one that a setup flow put together from its own answers, with a
token that some flow had accepted and options that some flow had checked
(`entries_founded`).
-/
import CloudflareIpSync.SetupRuns

namespace CloudflareIpSync.Flow

open Interact Client ConfigEntries

variable {reg reg' : ConfigEntries} {l : List Happening} {b : Happening} {i j : ℕ}
  {m : Dialog.Move FlowCall.Res Input}

/-! ### The calls of a run -/

theorem calls_snoc : calls i (l ++ [b]) = calls i l ++ (b.callOf i).toList := by
  rw [calls, calls, List.filterMap_append]
  cases h : b.callOf i <;> simp [h]

theorem calls_subset : calls i l ⊆ calls i (l ++ [b]) := by
  rw [calls_snoc]
  exact List.subset_append_left _ _

/-- Only the flow's own moves add to its calls. -/
theorem calls_other (hb : ∀ m, b ≠ .move i m) : calls i (l ++ [b]) = calls i l := by
  have hnone : b.callOf i = none := by
    cases b with
    | move j m =>
        cases m with
        | call e =>
            apply if_neg
            rintro rfl
            exact hb _ rfl
        | _ => rfl
    | _ => rfl
  rw [calls_snoc, hnone, Option.toList_none, List.append_nil]

/-! ### The moves of one flow -/

theorem ConfigEntries.Answers.setsUniqueId {old new : Option String} {e : Event FlowCall.Res}
    (h : reg.Answers i old e new) : new = (setsUniqueId e).or old := by
  cases h with
  | accepted _ => rfl
  | refused _ => rfl
  | other hother =>
      obtain ⟨call, r⟩ := e
      cases call with
      | setUniqueId uniqueId => exact absurd rfl (hother uniqueId)
      | _ => rfl

/-- What the system answers a flow with is a step of the flow's memory. -/
theorem answered_memory {old new : Option String}
    (h : Dialog.Answered (reg.Answers i) old m new) :
    Dialog.Answered Memory.Next ⟨old, calls i l⟩ m ⟨new, calls i (l ++ [.move i m])⟩ := by
  rw [calls_snoc]
  cases m with
  | call e =>
      show _ = Memory.mk _ _
      rw [h.setsUniqueId]
      simp [Happening.callOf]
  | submit input =>
      cases h
      simp [Dialog.Answered, Happening.callOf]
  | settle =>
      cases h
      simp [Dialog.Answered, Happening.callOf]

/-! ### Every entry -/

/-- The entry comes from a setup flow; its token was accepted and its options
were checked, by this flow or a later one. -/
structure Entry.Ok (l : List Happening) (entry : Entry) : Prop where
  founded : ∃ i data, Founded (calls i l) data ∧
    entry.data = { data with apiToken := entry.data.apiToken }
  token : ∃ i, TokenAccepted (calls i l) entry.data.apiToken
  title : entry.title = entry.data.listName
  uniqueId : entry.uniqueId = some (entry.data.accountId ++ ":" ++ entry.data.listId)
  options : entry.options = {} ∨ ∃ i, OptionsFounded (calls i l) entry.options

theorem Entry.Ok.snoc {entry : Entry} (h : entry.Ok l) : entry.Ok (l ++ [b]) := by
  obtain ⟨⟨i, data, hfounded, hdata⟩, ⟨j, htoken⟩, htitle, huniqueId, hoptions⟩ := h
  refine ⟨⟨i, data, hfounded.mono calls_subset, hdata⟩, ⟨j, htoken.mono calls_subset⟩, htitle,
    huniqueId, ?_⟩
  rcases hoptions with hdefault | ⟨k, hoptions⟩
  · exact .inl hdefault
  · exact .inr ⟨k, hoptions.mono calls_subset⟩

theorem Entry.Ok.append {entry : Entry} {l' : List Happening} (h : entry.Ok l) :
    entry.Ok (l ++ l') := by
  induction l' generalizing l with
  | nil =>
      rw [List.append_nil]
      exact h
  | cons b l' ih =>
      rw [List.append_cons]
      exact ih h.snoc

/-- What every flow in progress and every entry rests on. -/
structure Traced (l : List Happening) (reg : ConfigEntries) : Prop where
  fresh : ∀ i, reg.nextFlow ≤ i → reg.flows i = none ∧ calls i l = []
  flows : ∀ i flow, reg.flows i = some flow →
    flow.screen.Holds Memory.Next FormOk OutcomeOk ⟨flow.uniqueId, calls i l⟩
  entries : ∀ id entry, reg.entries id = some entry → entry.Ok l

/-- A new flow has made no calls. -/
theorem Traced.start {form : Form} {entryId : Option String} (h : Traced l reg)
    (hb : ∀ i m, b ≠ .move i m) (hform : FormOk form ⟨none, []⟩) :
    Traced (l ++ [b]) (reg.start ⟨.showing form, entryId, none⟩) := by
  refine ⟨?_, ?_, fun id entry hentry => (h.entries id entry hentry).snoc⟩
  · intro i hi
    rw [start_nextFlow] at hi
    have hne : i ≠ reg.nextFlow := by omega
    rw [start_flows, Function.update_of_ne hne, calls_other (hb i)]
    exact h.fresh i (by omega)
  · intro i flow hflow
    rw [calls_other (hb i)]
    by_cases hi : i = reg.nextFlow
    · subst hi
      rw [start_flows, Function.update_self, Option.some.injEq] at hflow
      rw [(h.fresh _ le_rfl).2, ← hflow]
      exact hform
    · rw [start_flows, Function.update_of_ne hi] at hflow
      exact h.flows i flow hflow

/-- A move of one flow, among others. -/
theorem Traced.move {flow flow' : FlowInProgress} {token : String} {current : Options}
    (h : Traced l reg) (hflow : reg.flows i = some flow)
    (hmove : (flowDialog token current).Step flow.screen m flow'.screen)
    (hE : Dialog.Answered (reg.Answers i) flow.uniqueId m flow'.uniqueId) :
    Traced (l ++ [.move i m]) (reg.setFlow i (some flow')) := by
  have hother : ∀ j, j ≠ i → calls j (l ++ [.move i m]) = calls j l := by
    intro j hj
    apply calls_other
    intro m' hm
    exact hj (Happening.move.inj hm).1.symm
  refine ⟨?_, ?_, fun id entry hentry => (h.entries id entry hentry).snoc⟩
  · intro j hj
    have hne : j ≠ i := by
      rintro rfl
      rw [(h.fresh j hj).1] at hflow
      cases hflow
    rw [setFlow_flows, Function.update_of_ne hne, hother j hne]
    exact h.fresh j hj
  · intro j flow'' hflow''
    by_cases hj : j = i
    · subst hj
      rw [setFlow_flows, Function.update_self, Option.some.injEq] at hflow''
      rw [← hflow'']
      exact (flow_keeps token current).step hmove (answered_memory hE) (h.flows j flow hflow)
    · rw [setFlow_flows, Function.update_of_ne hj] at hflow''
      rw [hother j hj]
      exact h.flows j flow'' hflow''

/-- A step in which no flow moves or starts. -/
theorem Traced.rest (h : Traced l reg) (hb : ∀ i m, b ≠ .move i m)
    (hnext : reg'.nextFlow = reg.nextFlow)
    (hflows : ∀ j, reg'.flows j = reg.flows j ∨ reg'.flows j = none)
    (hentries : ∀ id entry, reg'.entries id = some entry → entry.Ok l) :
    Traced (l ++ [b]) reg' := by
  refine ⟨?_, ?_, fun id entry hentry => (hentries id entry hentry).snoc⟩
  · intro j hj
    obtain ⟨hnone, hcalls⟩ := h.fresh j (hnext ▸ hj)
    rw [calls_other (hb j)]
    rcases hflows j with hsame | hgone
    · exact ⟨hsame.trans hnone, hcalls⟩
    · exact ⟨hgone, hcalls⟩
  · intro j flow hflow
    rw [calls_other (hb j)]
    rcases hflows j with hsame | hgone
    · exact h.flows j flow (hsame ▸ hflow)
    · rw [hgone] at hflow
      cases hflow

/-- A change of one entry that is all right when it was before. -/
theorem Traced.modify {entryId : Option String} {f : Entry → Entry} (h : Traced l reg)
    (hf : ∀ entry : Entry, entry.Ok l → (f entry).Ok l) {id : String} {entry : Entry}
    (hentry : (reg.modify entryId f).entries id = some entry) : entry.Ok l := by
  rw [modify_entries] at hentry
  split at hentry
  · obtain ⟨old, hold, rfl⟩ := Option.map_eq_some_iff.mp hentry
    exact hf old (h.entries id old hold)
  · exact h.entries id entry hentry

/-- The end of a flow makes entries that are all right. -/
theorem Traced.apply {flow : FlowInProgress} {outcome : Outcome} {newId id : String} {entry : Entry}
    (h : Traced l reg) (hflow : reg.flows i = some flow) (hscreen : flow.screen = .ended outcome)
    (hentry : (reg.apply newId flow outcome).entries id = some entry) : entry.Ok l := by
  have hok : OutcomeOk outcome ⟨flow.uniqueId, calls i l⟩ := by
    have hholds := h.flows i flow hflow
    rwa [hscreen] at hholds
  cases outcome with
  | abort reason => exact h.entries id entry hentry
  | createEntry title data =>
      by_cases hid : id = newId
      · subst hid
        rw [createEntry_entries, Function.update_self, Option.some.injEq] at hentry
        obtain ⟨hfounded, huniqueId, htitle⟩ := hok
        rw [← hentry]
        exact ⟨⟨i, data, hfounded, rfl⟩, ⟨i, hfounded.token⟩, htitle, huniqueId, .inl rfl⟩
      · rw [createEntry_entries, Function.update_of_ne hid] at hentry
        exact h.entries id entry hentry
  | updateReloadAndAbort updates =>
      -- the step passes on nothing but the token
      obtain ⟨token, rfl, htoken⟩ := hok
      apply h.modify _ hentry
      intro old hold
      obtain ⟨j, data, hfounded, hdata⟩ := hold.founded
      refine ⟨⟨j, data, hfounded, ?_⟩, ⟨i, htoken⟩, hold.title, hold.uniqueId, hold.options⟩
      show old.data.updated _ = _
      rw [hdata]
      rfl
  | createOptions options =>
      apply h.modify _ hentry
      intro old hold
      exact ⟨hold.founded, hold.token, hold.title, hold.uniqueId, .inr ⟨i, hok⟩⟩

/-- The step lemma, over all flows. -/
theorem Traced.step (h : Traced l reg) (hstep : EntriesStep reg b reg') :
    Traced (l ++ [b]) reg' := by
  have hgone : ∀ (reg : ConfigEntries) i j, (reg.setFlow i none).flows j = reg.flows j ∨
      (reg.setFlow i none).flows j = none := by
    intro reg i j
    by_cases hj : j = i
    · exact .inr (by simp [hj])
    · exact .inl (by simp [Function.update_of_ne hj])
  cases hstep with
  | startSetup => exact h.start (by simp) trivial
  | startReauth _ => exact h.start (by simp) trivial
  | startOptions _ => exact h.start (by simp) trivial
  | move hflow _ hmove hE _ => exact h.move hflow hmove hE
  | @finish i flow outcome newId hflow hscreen _ =>
      apply h.rest (by simp) (by simp)
      · intro j
        have hj := hgone (reg.apply newId flow outcome) i j
        rwa [apply_flows] at hj
      · intro id entry hentry
        exact h.apply hflow hscreen hentry
  | @close i => exact h.rest (by simp) rfl (hgone reg i) h.entries
  | @remove id =>
      refine h.rest (by simp) rfl (fun _ => .inl rfl) ?_
      intro id' entry hentry
      by_cases hid : id' = id
      · simp [hid] at hentry
      · exact h.entries id' entry (by simpa [Function.update_of_ne hid] using hentry)

/-- The run lemma. -/
theorem traced (h : Path EntriesStep {} l reg) : Traced l reg := by
  refine h.history ⟨fun i _ => ⟨rfl, rfl⟩, ?_, ?_⟩ fun l reg b reg' => Traced.step
  · intro i flow hflow
    cases hflow
  · intro id entry hentry
    cases hentry

/-- **Every entry rests on its flows' own answers.** -/
theorem entries_founded {id : String} {entry : Entry} (h : Path EntriesStep {} l reg)
    (hentry : reg.entries id = some entry) : entry.Ok l :=
  (traced h).entries id entry hentry

theorem entries_founded_home : ∃ entry, ((homeList "l").added {} "e").entries "e" = some entry ∧
    entry.Ok ((homeList "l").happenings 0 "e") :=
  ⟨_, rfl, @entries_founded _ _ "e" _ setup_first rfl⟩

/-! ### The life of an entry -/

variable {id : String} {entry : Entry}

/-- A flow changed the token of its entry to one it had accepted, or the options
to ones it had checked, and nothing else. -/
def Entry.ChangedBy (entry : Entry) (calls : List (Event FlowCall.Res)) (entry' : Entry) : Prop :=
  (∃ token, TokenAccepted calls token ∧
    entry' = { entry with data := { entry.data with apiToken := token } }) ∨
  ∃ options, OptionsFounded calls options ∧ entry' = { entry with options := options }

theorem modify_changes {entryId : Option String} {f : Entry → Entry}
    {calls : List (Event FlowCall.Res)} (hentry : reg.entries id = some entry)
    (hf : entry.ChangedBy calls (f entry)) :
    (reg.modify entryId f).entries id = some entry ∨ entryId = some id ∧
      ∃ entry', (reg.modify entryId f).entries id = some entry' ∧
        entry.ChangedBy calls entry' := by
  rw [modify_entries]
  split
  · next hid => exact .inr ⟨hid, f entry, by rw [hentry, Option.map_some], hf⟩
  · exact .inl hentry

/-- **An entry is changed by the end of its own flows only**, apart from being
removed. -/
theorem entry_changes (h : Path EntriesStep {} l reg) (hstep : EntriesStep reg b reg')
    (hentry : reg.entries id = some entry) :
    reg'.entries id = some entry ∨ (b = .remove id ∧ reg'.entries id = none) ∨
      ∃ i newId flow entry', b = .finish i newId ∧ reg.flows i = some flow ∧
        flow.entryId = some id ∧ reg'.entries id = some entry' ∧
        entry.ChangedBy (calls i l) entry' := by
  cases hstep with
  | startSetup => exact .inl hentry
  | startReauth _ => exact .inl hentry
  | startOptions _ => exact .inl hentry
  | move _ _ _ _ _ => exact .inl hentry
  | close => exact .inl hentry
  | @remove id' =>
      by_cases hid : id = id'
      · exact .inr (.inl ⟨by rw [hid], by simp [hid]⟩)
      · exact .inl (by simpa [hid] using hentry)
  | @finish i flow outcome newId hflow hscreen hnew =>
      have hok := (traced h).flows i flow hflow
      rw [hscreen] at hok
      have hend : (reg.apply newId flow outcome).entries id = some entry ∨
          flow.entryId = some id ∧
            ∃ entry', (reg.apply newId flow outcome).entries id = some entry' ∧
              entry.ChangedBy (calls i l) entry' := by
        cases outcome with
        | abort reason => exact .inl hentry
        | createEntry title data =>
            have hid : id ≠ newId := by
              rintro rfl
              rw [hnew] at hentry
              cases hentry
            rw [createEntry_entries, Function.update_of_ne hid]
            exact .inl hentry
        | updateReloadAndAbort updates =>
            obtain ⟨token, rfl, htoken⟩ := hok
            exact modify_changes hentry (.inl ⟨token, htoken, rfl⟩)
        | createOptions options => exact modify_changes hentry (.inr ⟨options, hok, rfl⟩)
      rcases hend with hsame | ⟨hid, entry', hentry', hchanged⟩
      · exact .inl hsame
      · exact .inr (.inr ⟨i, newId, flow, entry', rfl, hflow, hid, hentry', hchanged⟩)

/-- The entry is still there, with the same title, the same unique id and the
same data except for the token. -/
def Entry.KeptAs (entry : Entry) (id : String) (reg : ConfigEntries) : Prop :=
  ∃ entry', reg.entries id = some entry' ∧ entry'.title = entry.title ∧
    entry'.uniqueId = entry.uniqueId ∧
    entry'.data = { entry.data with apiToken := entry'.data.apiToken }

theorem Entry.KeptAs.refl (hentry : reg.entries id = some entry) : entry.KeptAs id reg :=
  ⟨entry, hentry, rfl, rfl, rfl⟩

/-- A step that does not remove the entry keeps it. -/
theorem Entry.KeptAs.step (h : Path EntriesStep {} l reg) (hstep : EntriesStep reg b reg')
    (hkept : entry.KeptAs id reg) (hb : b ≠ .remove id) : entry.KeptAs id reg' := by
  obtain ⟨entry₁, hentry₁, htitle, huniqueId, hdata⟩ := hkept
  rcases entry_changes h hstep hentry₁ with hsame | ⟨hremove, -⟩ |
    ⟨i, newId, flow, entry', -, -, -, hentry', hchanged⟩
  · exact ⟨entry₁, hsame, htitle, huniqueId, hdata⟩
  · exact absurd hremove hb
  · refine ⟨entry', hentry', ?_⟩
    rcases hchanged with ⟨token, -, rfl⟩ | ⟨options, -, rfl⟩
    · refine ⟨htitle, huniqueId, ?_⟩
      rw [hdata]
    · exact ⟨htitle, huniqueId, hdata⟩

theorem Entry.KeptAs.path {l₀ : List Happening} (h₀ : Path EntriesStep {} l₀ reg)
    (h : Path EntriesStep reg l reg') (hkept : entry.KeptAs id reg) (hl : .remove id ∉ l) :
    entry.KeptAs id reg' := by
  induction l using List.reverseRecOn generalizing reg' with
  | nil =>
      rw [path_nil_iff.mp h]
      exact hkept
  | append_singleton l b ih =>
      obtain ⟨reg₁, hfirst, hb⟩ := path_snoc_iff.mp h
      rw [List.mem_append, not_or, List.mem_singleton] at hl
      exact (ih hfirst hl.1).step (h₀.append hfirst) hb (Ne.symm hl.2)

/-- **As long as it is not removed, an entry keeps its account, its list and its
source.** -/
theorem entry_life {l₀ : List Happening} (h₀ : Path EntriesStep {} l₀ reg)
    (h : Path EntriesStep reg l reg') (hentry : reg.entries id = some entry)
    (hkept : .remove id ∉ l) :
    ∃ entry', reg'.entries id = some entry' ∧ entry'.title = entry.title ∧
      entry'.uniqueId = entry.uniqueId ∧
      entry'.data = { entry.data with apiToken := entry'.data.apiToken } :=
  Entry.KeptAs.path h₀ h (.refl hentry) hkept

/-- The entry gets another token. -/
theorem entry_life_reauth :
    let reg := withToken ((homeList "l").added {} "e") "e" "u"
    ∃ entry', reg.entries "e" = some entry' ∧ entry'.data.apiToken = "u" ∧
      entry'.title = "Allowed" ∧ entry'.uniqueId = some "a:l" ∧
      entry'.data = { (homeList "l").entryData with apiToken := entry'.data.apiToken } := by
  intro reg
  let calls : List (Event FlowCall.Res) := [⟨.verifyToken "u", .ok ⟨"u", "active"⟩⟩]
  have hreauth : Path EntriesStep ((homeList "l").added {} "e")
      (reauthHappenings 1 "e" "f" "u" calls) reg :=
    reauth_completes rfl rfl traces_validateToken (by simp [calls])
  have hkept : .remove "e" ∉ reauthHappenings 1 "e" "f" "u" calls := by
    simp [reauthHappenings, flowHappenings]
  obtain ⟨entry', hentry', hlife⟩ := entry_life setup_first hreauth rfl hkept
  obtain rfl := Option.some.inj hentry'
  exact ⟨_, rfl, rfl, hlife⟩

end CloudflareIpSync.Flow
