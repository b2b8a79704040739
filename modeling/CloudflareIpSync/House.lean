/-
CloudflareIpSync/House.lean

Several config entries in one Home Assistant.  Their refreshes interleave in any
order, any number of each entry's at once; notifications and issues are shown in
one place for all of them, and all of them write Rule Lists of one Cloudflare.

The entries do not notice each other.  If their ids and their lists are
separate, a run of the house, seen from one entry, is a run of that entry alone
(`entries_apart`): in particular its list only ever gets the address of its own
source (`own_address_only`).

Ids are separate unless one entry's id is another's followed by `_dns`
(`separate_iff`).
-/
import CloudflareIpSync.Entitlement
import CloudflareIpSync.Hass
import CloudflareIpSync.Pool
import CloudflareIpSync.WriteSafety

namespace CloudflareIpSync

open Interact

/-! ### Whose action it is -/

/-- An action that some refresh of the coordinator may perform. -/
def Action.Of (c : Coordinator) (o : Action) : Prop := ∃ seen, Entitled c seen o

theorem emits_refresh (c : Coordinator) : (asyncUpdateData c).Emits (Action.Of c) :=
  (entitled_refresh c []).emits (fun _ _ => ⟨_, rfl⟩) fun seen _ h => ⟨seen, h⟩

/-- The notifications of a coordinator. -/
def Coordinator.Notifies (c : Coordinator) (id : String) : Prop :=
  id = c.notificationId ∨ id = c.dnsNotificationId

instance (c : Coordinator) : DecidablePred c.Notifies := fun id => by
  unfold Coordinator.Notifies
  infer_instance

/-- Two coordinators that show nothing under the same id. -/
structure Separate (c c' : Coordinator) : Prop where
  notifications : ∀ id, c.Notifies id → ¬ c'.Notifies id
  issues : c.ruleListMissingIssueId ≠ c'.ruleListMissingIssueId

/-- Two coordinators of different Rule Lists. -/
def OtherList (c c' : Coordinator) : Prop := ¬ (c.accountId = c'.accountId ∧ c.listId = c'.listId)

/-- A DNS notification is the list notification of the entry whose id ends in
`_dns`, if there is one. -/
theorem dnsNotificationId_eq_iff {c c' : Coordinator} :
    c.dnsNotificationId = c'.notificationId ↔ c.entryId ++ "_dns" = c'.entryId := by
  have hdns : c.dnsNotificationId = domain ++ "_" ++ (c.entryId ++ "_dns") ++ "_sync_failed" := by
    have hsuffix : "_dns_sync_failed" = "_dns" ++ "_sync_failed" := by decide
    rw [Coordinator.dnsNotificationId, hsuffix]
    simp only [String.append_assoc]
  rw [hdns, Coordinator.notificationId]
  simp

/-- **Separate ids.** Two entries with different ids share nothing, unless one
id is the other followed by `_dns`. -/
theorem separate_iff {c c' : Coordinator} :
    Separate c c' ↔ c.entryId ≠ c'.entryId ∧ c.entryId ++ "_dns" ≠ c'.entryId ∧
      c'.entryId ++ "_dns" ≠ c.entryId := by
  have hlist : c.notificationId = c'.notificationId ↔ c.entryId = c'.entryId := by
    simp [Coordinator.notificationId]
  have hdns : c.dnsNotificationId = c'.dnsNotificationId ↔ c.entryId = c'.entryId := by
    simp [Coordinator.dnsNotificationId]
  have hissue : c.ruleListMissingIssueId = c'.ruleListMissingIssueId ↔ c.entryId = c'.entryId := by
    simp [Coordinator.ruleListMissingIssueId]
  have hleft : c.dnsNotificationId = c'.notificationId ↔ _ := dnsNotificationId_eq_iff
  have hright : c'.dnsNotificationId = c.notificationId ↔ _ := dnsNotificationId_eq_iff
  constructor
  · intro h
    refine ⟨fun he => h.issues (hissue.mpr he), fun he => ?_, fun he => ?_⟩
    · exact h.notifications _ (.inr rfl) (.inl (hleft.mpr he))
    · exact h.notifications _ (.inl rfl) (.inr (hright.mpr he).symm)
  · intro h
    obtain ⟨hne, hleft', hright'⟩ := h
    refine ⟨?_, fun he => hne (hissue.mp he)⟩
    intro id hid hid'
    rcases hid with rfl | rfl
    · rcases hid' with he | he
      · exact hne (hlist.mp he)
      · exact hright' (hright.mp he.symm)
    · rcases hid' with he | he
      · exact hleft' (hleft.mp he)
      · exact hne (hdns.mp he)

/-! ### What an action leaves alone -/

section Restrict

variable {α β : Type} [DecidableEq α] {P : α → Prop} [DecidablePred P] {f : α → Option β} {a : α}
  {value : Option β}

/-- A map, and of its keys only some. -/
def restrict (P : α → Prop) [DecidablePred P] (f : α → Option β) (a : α) : Option β :=
  if P a then f a else none

theorem restrict_update (ha : P a) :
    restrict P (Function.update f a value) = Function.update (restrict P f) a value := by
  funext b
  by_cases h : b = a
  · rw [h, restrict, Function.update_self, Function.update_self, if_pos ha]
  · rw [restrict, Function.update_of_ne h, Function.update_of_ne h, restrict]

theorem restrict_update_of_not (ha : ¬ P a) :
    restrict P (Function.update f a value) = restrict P f := by
  funext b
  by_cases h : P b
  · have hne : b ≠ a := by
      rintro rfl
      exact ha h
    rw [restrict, Function.update_of_ne hne, restrict]
  · rw [restrict, restrict, if_neg h, if_neg h]

end Restrict

/-- What Home Assistant would show if the coordinator were the only one. -/
def Hass.only (c : Coordinator) (hass : Hass) : Hass where
  notifications := restrict c.Notifies hass.notifications
  issues := restrict (· = c.ruleListMissingIssueId) hass.issues
  lastSynced := hass.lastSynced

section Frame

variable {c c' : Coordinator} {hass hass' : Hass} {e : Ev}

theorem hass_eq (hnotifications : hass.notifications = hass'.notifications)
    (hissues : hass.issues = hass'.issues) (hlastSynced : hass.lastSynced = hass'.lastSynced) :
    hass = hass' := by
  cases hass
  cases hass'
  cases hnotifications
  cases hissues
  cases hlastSynced
  rfl

/-- A coordinator's own action does the same where it is the only one. -/
theorem only_after (ho : e.1.Of c) : (hass.after e).only c = (hass.only c).after e := by
  obtain ⟨action, answer⟩ := e
  obtain ⟨seen, ho⟩ := ho
  cases ho with
  | notify title message hid => exact hass_eq (restrict_update hid) rfl rfl
  | dismiss hid => exact hass_eq (restrict_update hid) rfl rfl
  | createIssue | deleteIssue => exact hass_eq rfl (restrict_update rfl) rfl
  | _ => rfl

/-- Another coordinator's action does nothing there. -/
theorem only_after_other (hsep : Separate c c') (ho : e.1.Of c') (h : hass' = hass.after e) :
    (hass'.only c).notifications = (hass.only c).notifications ∧
      (hass'.only c).issues = (hass.only c).issues := by
  obtain ⟨action, answer⟩ := e
  obtain ⟨seen, ho⟩ := ho
  have hnotifies : ∀ {id}, c'.Notifies id → ¬ c.Notifies id :=
    fun hid hid' => hsep.notifications _ hid' hid
  subst h
  cases ho with
  | notify title message hid => exact ⟨restrict_update_of_not (hnotifies hid), rfl⟩
  | dismiss hid => exact ⟨restrict_update_of_not (hnotifies hid), rfl⟩
  | createIssue | deleteIssue => exact ⟨rfl, restrict_update_of_not hsep.issues.symm⟩
  | _ => exact ⟨rfl, rfl⟩

/-- Another coordinator sends nothing to the list. -/
theorem sentAfter_other (hlist : OtherList c c') (ho : e.1.Of c') (world : ListWorld) :
    world.sentAfter c e = world.sent := by
  obtain ⟨action, answer⟩ := e
  obtain ⟨seen, ho⟩ := ho
  cases ho with
  | replace => exact if_neg fun h => hlist ⟨h.1.symm, h.2.symm⟩
  | _ => rfl

end Frame

/-! ### The house -/

/-- Home Assistant with the coordinators `c` of its entries, and their lists at
Cloudflare. -/
structure House (ι : Type) where
  notifications : String → Option (String × String)
  issues : String → Option (String × String)
  /-- The `_last_synced` of each coordinator. -/
  lastSynced : ι → Option Datetime
  /-- Each list, by account and id. -/
  lists : String → String → ListWorld
  /-- The refreshes of each coordinator. -/
  atWork : ι → List (Coro (Except UpdateError SyncState))

/-- A refresh of an entry does its next action, or another one starts. -/
inductive HouseMove (ι : Type)
  | act (i : ι) (k : ℕ) (e : Ev)
  | start (i : ι)

section House

variable {ι : Type} [DecidableEq ι]

namespace House

/-- What the coordinator of an entry has before it. -/
def hass (s : House ι) (i : ι) : Hass := ⟨s.notifications, s.issues, s.lastSynced i⟩

/-- The list of a coordinator. -/
def list (s : House ι) (c : Coordinator) : ListWorld := s.lists c.accountId c.listId

end House

/-- One move.  An action changes what Home Assistant shows, and every list as
its own side has it; of another coordinator it changes nothing. -/
inductive HouseStep (c : ι → Coordinator) : House ι → HouseMove ι → House ι → Prop
  | act {s s' : House ι} {i : ι} {k : ℕ} {q q' : Coro (Except UpdateError SyncState)} {e : Ev} :
      (s.atWork i)[k]? = some q → q.Step e q' → hassStep (s.hass i) e (s'.hass i) →
      (∀ j, listStep (c j) (s.list (c j)) e (s'.list (c j))) →
      (∀ j, j ≠ i → s'.lastSynced j = s.lastSynced j) →
      s'.atWork = Function.update s.atWork i ((s.atWork i).set k q') →
      HouseStep c s (.act i k e) s'
  | start {s : House ι} {i : ι} : HouseStep c s (.start i)
      { s with
        atWork := Function.update s.atWork i (s.atWork i ++ [asyncUpdateData (c i)]) }

/-- The house after an action, with the lists as their side has them. -/
def House.act (s : House ι) (i : ι) (k : ℕ) (e : Ev) (q : Coro (Except UpdateError SyncState))
    (lists : String → String → ListWorld) : House ι where
  notifications := ((s.hass i).after e).notifications
  issues := ((s.hass i).after e).issues
  lastSynced := Function.update s.lastSynced i ((s.hass i).after e).lastSynced
  lists := lists
  atWork := Function.update s.atWork i ((s.atWork i).set k q)

theorem houseStep_act {c : ι → Coordinator} {s : House ι} {i : ι} {k : ℕ} {e : Ev}
    {q q' : Coro (Except UpdateError SyncState)} (lists : String → String → ListWorld)
    (hk : (s.atWork i)[k]? = some q) (hstep : q.Step e q') (hanswer : (s.hass i).Answers e)
    (hlists : ∀ j, listStep (c j) (s.list (c j)) e (lists (c j).accountId (c j).listId)) :
    HouseStep c s (.act i k e) (s.act i k e q' lists) := by
  refine .act hk hstep ⟨hanswer, ?_⟩ hlists ?_ rfl
  · exact hass_eq rfl rfl (Function.update_self ..)
  · intro j hj
    exact Function.update_of_ne hj ..

/-! ### One entry of the house -/

/-- A request of the entry that was sent before takes effect, or nothing does. -/
def lateEffect (world : Hass × ListWorld) (_ : Unit) (world' : Hass × ListWorld) : Prop :=
  world'.1 = world.1 ∧ world'.2.sent = world.2.sent ∧
    (world'.2.content = world.2.content ∨ world'.2.content ∈ world'.2.sent)

/-- A house of one entry. -/
abbrev AloneStep (c : Coordinator) :
    Pool Action.Res (Hass × ListWorld) (Except UpdateError SyncState) →
      Move Action.Res Unit → Pool Action.Res (Hass × ListWorld) (Except UpdateError SyncState) →
      Prop :=
  Pool.Step (Both hassStep (listStep c)) lateEffect (asyncUpdateData c)

/-- The house as it would be with this entry alone. -/
def House.alone (c : ι → Coordinator) (i : ι) (s : House ι) :
    Pool Action.Res (Hass × ListWorld) (Except UpdateError SyncState) :=
  ⟨((s.hass i).only (c i), s.list (c i)), s.atWork i⟩

/-- A move as the entry sees it. -/
def HouseMove.seenBy (i : ι) : HouseMove ι → Move Action.Res Unit
  | act j k e => if j = i then .act k e else .interfere ()
  | start j => if j = i then .start else .interfere ()

/-- All refreshes at work are the coordinators'. -/
def House.Proper (c : ι → Coordinator) (s : House ι) : Prop :=
  ∀ i, ∀ q ∈ s.atWork i, q.Emits (Action.Of (c i))

variable {c : ι → Coordinator} {s s' : House ι} {b : HouseMove ι} {l : List (HouseMove ι)}

omit [DecidableEq ι] in
theorem proper_of_idle (hidle : ∀ i, s.atWork i = []) : s.Proper c := by
  intro i q hq
  rw [hidle i] at hq
  cases hq

theorem House.Proper.step (hs : s.Proper c) (h : HouseStep c s b s') : s'.Proper c := by
  intro j q hq
  cases h with
  | @act _ i k p p' e hk hstep _ _ _ hwork =>
      rw [hwork] at hq
      by_cases hj : j = i
      · subst hj
        rw [Function.update_self] at hq
        rcases List.mem_or_eq_of_mem_set hq with hq | rfl
        · exact hs j q hq
        · exact ((hs j p (List.mem_of_getElem? hk)).steps (.single hstep)).2
      · rw [Function.update_of_ne hj] at hq
        exact hs j q hq
  | @start i =>
      replace hq : q ∈ Function.update s.atWork i (s.atWork i ++ [asyncUpdateData (c i)]) j := hq
      by_cases hj : j = i
      · subst hj
        rw [Function.update_self] at hq
        rcases List.mem_append.mp hq with hq | hq
        · exact hs j q hq
        · rw [List.mem_singleton.mp hq]
          exact emits_refresh (c j)
      · rw [Function.update_of_ne hj] at hq
        exact hs j q hq

/-- A move of the house is one of each entry alone, or nothing to it. -/
theorem alone_step (hsep : ∀ i j, i ≠ j → Separate (c i) (c j))
    (hlist : ∀ i j, i ≠ j → OtherList (c i) (c j)) (hs : s.Proper c) (h : HouseStep c s b s')
    (j : ι) : AloneStep (c j) (s.alone c j) (b.seenBy j) (s'.alone c j) := by
  cases h with
  | @act _ i k q q' e hk hstep hhass hlists hother hwork =>
      have ho : e.1.Of (c i) :=
        ((hs i q (List.mem_of_getElem? hk)).steps (.single hstep)).1 e (List.mem_singleton_self e)
      by_cases hij : i = j
      · -- its own action
        subst hij
        have hatWork : s'.atWork i = (s.atWork i).set k q' := by
          rw [hwork, Function.update_self]
        have honly : hassStep ((s.hass i).only (c i)) e ((s'.hass i).only (c i)) := by
          refine ⟨?_, ?_⟩
          · obtain ⟨action, answer⟩ := e
            cases action <;> exact hhass.1
          · rw [hhass.2, only_after ho]
        have hact : AloneStep (c i) (s.alone c i) (.act k e)
            ⟨((s'.hass i).only (c i), s'.list (c i)), (s.atWork i).set k q'⟩ :=
          .act hk hstep ⟨honly, hlists i⟩
        rw [← hatWork] at hact
        rw [HouseMove.seenBy, if_pos rfl]
        exact hact
      · -- the action of another entry
        have hji : j ≠ i := fun hji => hij hji.symm
        have hatWork : s'.atWork j = s.atWork j := by
          rw [hwork, Function.update_of_ne hji]
        obtain ⟨hnotifications, hissues⟩ := only_after_other (hsep j i hji) ho hhass.2
        have honly : (s'.hass j).only (c j) = (s.hass j).only (c j) :=
          hass_eq hnotifications hissues (hother j hji)
        obtain ⟨hsent, hcontent⟩ := hlists j
        rw [sentAfter_other (hlist j i hji) ho] at hsent
        have hlate : AloneStep (c j) (s.alone c j) (.interfere ())
            ⟨((s'.hass j).only (c j), s'.list (c j)), s.atWork j⟩ :=
          .interfere ⟨honly, hsent, hcontent⟩
        rw [← hatWork] at hlate
        rw [HouseMove.seenBy, if_neg hij]
        exact hlate
  | @start i =>
      let atWork := Function.update s.atWork i (s.atWork i ++ [asyncUpdateData (c i)])
      by_cases hij : i = j
      · subst hij
        have hatWork : atWork i = s.atWork i ++ [asyncUpdateData (c i)] := Function.update_self ..
        have hstart : AloneStep (c i) (s.alone c i) .start
            ⟨(s.alone c i).world, s.atWork i ++ [asyncUpdateData (c i)]⟩ := .start
        rw [← hatWork] at hstart
        rw [HouseMove.seenBy, if_pos rfl]
        exact hstart
      · have hji : j ≠ i := fun hji => hij hji.symm
        have hatWork : atWork j = s.atWork j := Function.update_of_ne hji ..
        have hrest : AloneStep (c j) (s.alone c j) (.interfere ())
            ⟨(s.alone c j).world, s.atWork j⟩ := .interfere ⟨rfl, rfl, .inl rfl⟩
        rw [← hatWork] at hrest
        rw [HouseMove.seenBy, if_neg hij]
        exact hrest

end House

/-! ### Two entries -/

/-- Two entries with lists in one account. -/
def twoEntries (i : Bool) : Coordinator :=
  if i then ⟨"b", "office", "acc", "other", "sensor.b", 5, none, none⟩
  else ⟨"a", "home", "acc", "list", "sensor.a", 5, none, none⟩

theorem twoEntries_separate (i j : Bool) (hij : i ≠ j) :
    Separate (twoEntries i) (twoEntries j) := by
  apply separate_iff.mpr
  revert i j
  decide

theorem twoEntries_lists (i j : Bool) (hij : i ≠ j) :
    OtherList (twoEntries i) (twoEntries j) := by
  unfold OtherList
  revert i j
  decide

/-- A house in which nothing has happened. -/
def quietHouse : House Bool where
  notifications _ := none
  issues _ := none
  lastSynced _ := none
  lists _ _ := ⟨[], []⟩
  atWork _ := []

/-- Both entries read their sources; the first one's replacement takes effect
although its response is lost. -/
def twoRun : List (HouseMove Bool) :=
  [.start false, .start true, .act false 0 (sourceEv (twoEntries false) (some "192.0.2.1")),
    .act true 0 (sourceEv (twoEntries true) (some "192.0.2.2")),
    .act false 0 (readEv (twoEntries false) (.ok [])),
    .act false 0 (issueEv (twoEntries false) false),
    .act false 0 (replaceEv (twoEntries false) "192.0.2.1" (.error (.connection "timeout")))]

theorem path_twoRun : ∃ s', Path (HouseStep twoEntries) quietHouse twoRun s' ∧
    (s'.list (twoEntries false)).content = [⟨"192.0.2.1", some listItemComment⟩] := by
  let written (_ listId : String) : ListWorld :=
    if listId = "list" then
      ⟨[⟨"192.0.2.1", some listItemComment⟩], [[⟨"192.0.2.1", some listItemComment⟩]]⟩
    else ⟨[], []⟩
  have hsame : ∀ {s : House Bool} {e : Ev},
      (∀ j world, ListWorld.sentAfter (twoEntries j) world e = world.sent) →
      ∀ j, listStep (twoEntries j) (s.list (twoEntries j)) e
        (s.lists (twoEntries j).accountId (twoEntries j).listId) := by
    intro s e he j
    exact ⟨(he j _).symm, .inl rfl⟩
  have hwritten : ∀ j, listStep (twoEntries j) (quietHouse.list (twoEntries j))
      (replaceEv (twoEntries false) "192.0.2.1" (.error (.connection "timeout")))
      (written (twoEntries j).accountId (twoEntries j).listId) := by
    intro j
    cases j
    · exact ⟨rfl, .inr (List.mem_singleton_self _)⟩
    · exact ⟨rfl, .inl rfl⟩
  have hrun : Path (HouseStep twoEntries) quietHouse twoRun _ :=
    .cons .start (.cons .start
      (.cons (houseStep_act _ rfl (.op _ _ _) trivial (hsame fun _ _ => rfl))
      (.cons (houseStep_act _ rfl (.op _ _ _) trivial (hsame fun _ _ => rfl))
      (.cons (houseStep_act _ rfl (.op _ _ _) trivial (hsame fun _ _ => rfl))
      (.cons (houseStep_act _ rfl (.op _ _ _) trivial (hsame fun _ _ => rfl))
      (.single (houseStep_act written rfl (.op _ _ _) trivial hwritten)))))))
  exact ⟨_, hrun, rfl⟩

/-! ### Seen from one entry -/

section House

variable {ι : Type} [DecidableEq ι] {c : ι → Coordinator} {s s' : House ι}
  {l : List (HouseMove ι)}

/-- **Entries do not notice each other.** A run of the house, seen from one
entry, is a run of a house of that entry. -/
theorem entries_apart (hsep : ∀ i j, i ≠ j → Separate (c i) (c j))
    (hlist : ∀ i j, i ≠ j → OtherList (c i) (c j)) (h : Path (HouseStep c) s l s')
    (hidle : ∀ i, s.atWork i = []) (i : ι) :
    Path (AloneStep (c i)) (s.alone c i) (l.map (HouseMove.seenBy i)) (s'.alone c i) := by
  apply h.map (House.alone c i) (HouseMove.seenBy i) (proper_of_idle hidle)
  · intro s b s' hs hstep
    exact hs.step hstep
  · intro s b s' hs hstep
    exact alone_step hsep hlist hs hstep i

/-- The second entry's view of both at work. -/
theorem entries_apart_two :
    ∃ s' : House Bool, Path (AloneStep (twoEntries true)) (quietHouse.alone twoEntries true)
      (twoRun.map (HouseMove.seenBy true)) (s'.alone twoEntries true) := by
  obtain ⟨s', hrun, -⟩ := path_twoRun
  exact ⟨s', entries_apart twoEntries_separate twoEntries_lists hrun (fun _ => rfl) true⟩

/-! ### The lists -/

/-- A move of one entry, for its list. -/
theorem list_alone {c : Coordinator}
    {p p' : Pool Action.Res (Hass × ListWorld) (Except UpdateError SyncState)}
    {b : Move Action.Res Unit} (h : AloneStep c p b p') :
    p.world.2.sent ⊆ p'.world.2.sent ∧
      (p'.world.2.content = p.world.2.content ∨ p'.world.2.content ∈ p'.world.2.sent) ∧
      ∀ body ∈ p'.world.2.sent, body ∈ p.world.2.sent ∨ ∃ k items answer,
        b = .act k ⟨Action.replaceListItems c.accountId c.listId items, answer⟩ ∧
          body = replaceBody items := by
  cases h with
  | @act w w' threads k q q' e _ _ hw =>
      obtain ⟨-, hsent, hcontent⟩ := hw
      refine ⟨?_, hcontent, ?_⟩
      · show w.2.sent ⊆ w'.2.sent
        rw [hsent]
        exact subset_sentAfter w.2 e
      · intro body hbody
        rw [show w'.2.sent = _ from hsent] at hbody
        rcases mem_sentAfter hbody with hbody | ⟨items, answer, rfl, rfl⟩
        · exact .inl hbody
        · exact .inr ⟨k, items, answer, rfl, rfl⟩
  | @interfere w w' threads d hw =>
      obtain ⟨-, hsent, hcontent⟩ := hw
      refine ⟨?_, hcontent, ?_⟩
      · show w.2.sent ⊆ w'.2.sent
        rw [hsent]
        exact List.Subset.refl _
      · intro body hbody
        rw [show w'.2.sent = _ from hsent] at hbody
        exact .inl hbody
  | start => exact ⟨List.Subset.refl _, .inl rfl, fun _ => .inl⟩

/-- What is in the list of an entry was there before or was sent by one of its
refreshes. -/
theorem content_alone {c : Coordinator}
    {p p' : Pool Action.Res (Hass × ListWorld) (Except UpdateError SyncState)}
    {l : List (Move Action.Res Unit)} (h : Path (AloneStep c) p l p')
    (hstart : p.world.2.sent = []) :
    p'.world.2.content = p.world.2.content ∨
      ∃ k items answer,
        .act k ⟨Action.replaceListItems c.accountId c.listId items, answer⟩ ∈ l ∧
        p'.world.2.content = replaceBody items := by
  rcases h.content_origin (fun p => p.world.2.content) (fun p => p.world.2.sent) hstart
    (fun _ _ _ => list_alone) with hsame | ⟨_, hmem, k, items, answer, rfl, hbody⟩
  · exact .inl hsame
  · exact .inr ⟨k, items, answer, hmem, hbody⟩

/-- **An entry's list gets its own source's address.** Whatever the other
entries do and whatever fails, a list holds what it held at first, or one item:
an address that a refresh of its own entry read from its source. -/
theorem own_address_only (hsep : ∀ i j, i ≠ j → Separate (c i) (c j))
    (hlist : ∀ i j, i ≠ j → OtherList (c i) (c j)) (h : Path (HouseStep c) s l s')
    (hidle : ∀ i, s.atWork i = []) (i : ι) (hsent : (s.list (c i)).sent = []) :
    (s'.list (c i)).content = (s.list (c i)).content ∨
      ∃ k state t ip,
        Pool.eventsOf k (l.map (HouseMove.seenBy i)) = sourceEv (c i) state :: t ∧
        UsableSource state ip ∧ (s'.list (c i)).content = [⟨ip, some listItemComment⟩] := by
  have halone : Path (AloneStep (c i)) (s.alone c i) (l.map (HouseMove.seenBy i))
      (s'.alone c i) :=
    h.map (House.alone c i) (HouseMove.seenBy i) (proper_of_idle hidle) (fun _ _ _ hs => hs.step)
      fun _ _ _ hs hstep => alone_step hsep hlist hs hstep i
  apply (content_alone halone hsent).imp_right
  intro ⟨k, items, answer, hmem, hcontent⟩
  -- the refresh that sent it
  have hlt := Pool.lt_length_of_mem halone hmem
  obtain ⟨q', hq'⟩ : ∃ q', (s'.alone c i).threads[k]? = some q' :=
    ⟨_, List.getElem?_eq_getElem hlt⟩
  rcases (Pool.run_of_thread halone).1 q' hq' with ⟨q, hq, -⟩ | hsteps
  · rw [show (s.alone c i).threads = [] from hidle i] at hq
    cases hq
  · obtain ⟨state, listed, t, ip, ht, husable, -, -, -, rfl⟩ :=
      writesSafely_of_steps hsteps _ _ _ _ (Pool.mem_eventsOf_iff.mpr hmem)
    exact ⟨k, state, _, ip, ht, husable, hcontent⟩

/-- The first entry's list, which was written. -/
theorem own_address_only_two :
    ∃ s' : House Bool,
      (s'.list (twoEntries false)).content = [⟨"192.0.2.1", some listItemComment⟩] ∧
      ((s'.list (twoEntries false)).content = (quietHouse.list (twoEntries false)).content ∨
        ∃ k state t ip, Pool.eventsOf k (twoRun.map (HouseMove.seenBy false)) =
            sourceEv (twoEntries false) state :: t ∧
          UsableSource state ip ∧
          (s'.list (twoEntries false)).content = [⟨ip, some listItemComment⟩]) := by
  obtain ⟨s', hrun, hcontent⟩ := path_twoRun
  exact ⟨s', hcontent,
    own_address_only twoEntries_separate twoEntries_lists hrun (fun _ => rfl) false rfl⟩

end House

end CloudflareIpSync
