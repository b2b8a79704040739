/-
CloudflareIpSync/UniqueEntries.lean

No Rule List is synced by two entries.

The unique id of an entry is its account and its list.  A flow sets it before it
shows its last form, which is refused if another flow or an entry has it; from
then on the flow holds it, and hands it over to its entry.  So at any moment
each unique id has one holder, a flow or an entry (`exclusive_uniqueIds`),
however many flows are in progress.
-/
import CloudflareIpSync.EntryOrigins
import CloudflareIpSync.Exclusive
import Mathlib.Logic.Equiv.Basic

namespace CloudflareIpSync.Flow

open Interact Client ConfigEntries

variable {reg reg' : ConfigEntries} {l : List Happening} {b : Happening} {i j : ℕ}
  {flow flow' : FlowInProgress} {id id' : String} {entry entry' : Entry}

/-- A flow that goes on with no other unique id than it has. -/
theorem exclusive_setFlow {flow : Option FlowInProgress} (h : Exclusive reg.uniqueIdOf)
    (hflow : ∀ u, flow.bind (·.uniqueId) = some u → reg.uniqueIdOf (.inl i) = some u) :
    Exclusive (reg.setFlow i flow).uniqueIdOf := by
  apply h.of_le
  intro holder u hu
  rw [uniqueIdOf_setFlow] at hu
  split at hu
  · next hholder => rw [hholder, hflow u hu]
  · exact hu

/-- A change of an entry that keeps its unique id. -/
theorem uniqueIdOf_modify {entryId : Option String} {f : Entry → Entry}
    (hf : ∀ entry, (f entry).uniqueId = entry.uniqueId) :
    (reg.modify entryId f).uniqueIdOf = reg.uniqueIdOf := by
  funext holder
  rcases holder with j | id
  · simp [uniqueIdOf]
  · simp only [uniqueIdOf, modify_entries]
    split
    · simp [Option.bind_map, hf]
    · rfl

/-- A new entry takes over the unique id of its flow. -/
theorem exclusive_createEntry {title newId : String} {data : EntryData}
    (h : Exclusive reg.uniqueIdOf) (hflow : reg.flows i = some flow) :
    Exclusive ((reg.apply newId flow (.createEntry title data)).setFlow i none).uniqueIdOf := by
  apply h.of_injective (Equiv.swap (.inl i) (.inr newId)).injective
  intro holder u hu
  rw [uniqueIdOf_setFlow] at hu
  split at hu
  · cases hu
  · next hi =>
      by_cases hnew : holder = .inr newId
      · subst hnew
        rw [Equiv.swap_apply_right]
        simpa [uniqueIdOf, createEntry_entries, hflow] using hu
      · rw [Equiv.swap_apply_of_ne_of_ne hi hnew]
        rcases holder with j | id
        · simpa [uniqueIdOf] using hu
        · have hid : id ≠ newId := by
            rintro rfl
            exact hnew rfl
          simpa [uniqueIdOf, createEntry_entries, hid] using hu

/-- The step lemma. -/
theorem exclusive_step (htraced : Traced l reg) (h : Exclusive reg.uniqueIdOf)
    (hstep : EntriesStep reg b reg') : Exclusive reg'.uniqueIdOf := by
  cases hstep with
  | startSetup => exact exclusive_setFlow h (by simp)
  | startReauth _ => exact exclusive_setFlow h (by simp)
  | startOptions _ => exact exclusive_setFlow h (by simp)
  | @move i flow flow' m token current hflow _ hmove hE _ =>
      have hsame : flow'.uniqueId = flow.uniqueId →
          Exclusive (reg.setFlow i (some flow')).uniqueIdOf := by
        intro hid
        apply exclusive_setFlow h
        simp [uniqueIdOf, hflow, hid]
      cases m with
      | submit input => exact hsame hE
      | settle => exact hsame hE
      | call e =>
          generalize hold : flow.uniqueId = old at hE
          generalize hnew : flow'.uniqueId = new at hE
          cases hE with
          | refused _ => exact hsame (hnew.trans hold.symm)
          | other _ => exact hsame (hnew.trans hold.symm)
          | accepted hfree =>
              rw [taken_iff] at hfree
              apply h.take (a := .inl i) (fun holder hne hid => hfree ⟨holder, hne, hid⟩)
              · rw [uniqueIdOf_setFlow, if_pos rfl]
                exact hnew
              · intro holder hne
                rw [uniqueIdOf_setFlow, if_neg hne]
  | @finish i flow outcome newId hflow hscreen _ =>
      cases outcome with
      | abort reason => exact exclusive_setFlow h (by simp)
      | createEntry title data => exact exclusive_createEntry h hflow
      | updateReloadAndAbort updates =>
          have hok := htraced.flows i flow hflow
          rw [hscreen] at hok
          obtain ⟨token, rfl, -⟩ := hok
          apply exclusive_setFlow _ (by simp)
          rw [ConfigEntries.apply, uniqueIdOf_modify]
          · exact h
          · intro entry
            rfl
      | createOptions options =>
          apply exclusive_setFlow _ (by simp)
          rw [ConfigEntries.apply, uniqueIdOf_modify]
          · exact h
          · intro entry
            rfl
  | @close i => exact exclusive_setFlow h (by simp)
  | @remove id =>
      apply h.of_le
      rintro (j | id') u hu
      · exact hu
      · by_cases hid : id' = id
        · simp [uniqueIdOf, hid] at hu
        · simpa [uniqueIdOf, hid] using hu

/-- The run lemma. -/
theorem exclusive_uniqueIds (h : Path EntriesStep {} l reg) : Exclusive reg.uniqueIdOf := by
  let I (l : List Happening) (reg : ConfigEntries) : Prop :=
    Traced l reg ∧ Exclusive reg.uniqueIdOf
  have hinv : I l reg := by
    apply h.history
    · refine ⟨traced (.nil _), ?_⟩
      rintro (j | id) holder u hu
      · cases hu
      · cases hu
    · intro l reg b reg' hI hstep
      exact ⟨hI.1.step hstep, exclusive_step hI.1 hI.2 hstep⟩
  exact hinv.2

/-- The same account and the same list. -/
def EntryData.SameList (data data' : EntryData) : Prop :=
  data.accountId = data'.accountId ∧ data.listId = data'.listId

theorem uniqueIdOf_entry (h : Path EntriesStep {} l reg) (hentry : reg.entries id = some entry) :
    reg.uniqueIdOf (.inr id) = some (entry.data.accountId ++ ":" ++ entry.data.listId) := by
  simp [uniqueIdOf, hentry, ((traced h).entries id entry hentry).uniqueId]

/-- Two entries of one list are the same. -/
theorem entries_inj (h : Path EntriesStep {} l reg) (hentry : reg.entries id = some entry)
    (hentry' : reg.entries id' = some entry') (hsame : entry.data.SameList entry'.data) :
    id' = id := by
  obtain ⟨haccount, hlist⟩ := hsame
  have hid := uniqueIdOf_entry h hentry'
  rw [← haccount, ← hlist] at hid
  exact Sum.inr.inj (exclusive_uniqueIds h _ _ _ hid (uniqueIdOf_entry h hentry))

/-- **A Rule List has at most one entry**, and no flow gets to choose the source
for a list that has one. -/
theorem entries_unique (h : Path EntriesStep {} l reg) (hentry : reg.entries id = some entry) :
    (∀ id' entry', reg.entries id' = some entry' → entry.data.SameList entry'.data → id' = id) ∧
      ∀ i flow data fields errors, reg.flows i = some flow →
        flow.screen = .showing (.setup (.entity data) fields errors) →
        ¬ (data.accountId = entry.data.accountId ∧ data.listId = entry.data.listId) := by
  constructor
  · intro id' entry' hentry' hsame
    exact entries_inj h hentry hentry' hsame
  · intro i flow data fields errors hflow hscreen hsame
    obtain ⟨haccount, hlist⟩ := hsame
    have hholds := (traced h).flows i flow hflow
    rw [hscreen] at hholds
    obtain ⟨-, huniqueId, -⟩ := hholds
    rw [haccount, hlist] at huniqueId
    have hholder := exclusive_uniqueIds h (.inl i) (.inr id) _
      (by simpa [uniqueIdOf, hflow] using huniqueId) (uniqueIdOf_entry h hentry)
    cases hholder

theorem entries_unique_home : ∃ entry,
    ((homeList "m").added ((homeList "l").added {} "e") "f").entries "e" = some entry ∧
      ∀ id' entry', ((homeList "m").added ((homeList "l").added {} "e") "f").entries id' =
        some entry' → entry.data.SameList entry'.data → id' = "e" :=
  ⟨_, rfl, (@entries_unique _ _ "e" _ (setup_first.append setup_second) rfl).1⟩

end CloudflareIpSync.Flow
