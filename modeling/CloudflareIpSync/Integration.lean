/-
CloudflareIpSync/Integration.lean

The integration as a whole: the flows and the config entries they make, the
coordinators that are set up from the entries, and the refreshes of all of them,
in any interleaving.

An entry is set up from what it is at the time, and set up again after a flow
has changed it (`async_setup_entry`, `_async_update_listener`).  A refresh of
the coordinator can start at any moment: the first one, the periodic ones, those
after a change of the source and those of the `force_sync` service are all the
same.  Refreshes that are under way when their entry is changed, unloaded or
removed go on.

In every run, what the refreshes write goes back to the flows: to lists that were
chosen in a setup flow (`lists_chosen`) and zones that an options flow found for
the hostname (`records_chosen`), and always with an address read from the entity
that was chosen along with the list.  As long as no entry is removed, all of a
list's addresses come from the source that its entry names (`own_list`).
-/
import CloudflareIpSync.Dispatch
import CloudflareIpSync.DnsFixedPoint
import CloudflareIpSync.Entitlement
import CloudflareIpSync.UniqueEntries
import CloudflareIpSync.WriteSafety

namespace CloudflareIpSync

open Interact CloudflareIpSync.Flow

/-! ### Entries and their coordinators -/

/-- The coordinator that an entry is set up with. -/
def Flow.Entry.coordinator (entryId : String) (entry : Entry) : Coordinator :=
  .ofEntry (configEntry entryId entry.title entry.data entry.options)

/-- The entries and flows, and the coordinator that each entry was last set up
with. -/
structure Setups where
  registry : ConfigEntries := {}
  coordinators : String → Option Coordinator := fun _ => none

/-- What happens to the entries and to their coordinators. -/
inductive SetupMove
  | flow (b : Happening)
  | setup (entryId : String)
  | unload (entryId : String)

/-- One such move. -/
inductive SetupStep : Setups → SetupMove → Setups → Prop
  | flow {s : Setups} {b : Happening} {registry : ConfigEntries} :
      EntriesStep s.registry b registry → SetupStep s (.flow b) { s with registry := registry }
  | setup {s : Setups} {id : String} {entry : Entry} : s.registry.entries id = some entry →
      SetupStep s (.setup id)
        { s with coordinators := Function.update s.coordinators id (entry.coordinator id) }
  | unload {s : Setups} {id : String} : SetupStep s (.unload id)
      { s with coordinators := Function.update s.coordinators id none }

/-- What the move is for the entries. -/
def SetupMove.happening : SetupMove → Option Happening
  | flow b => some b
  | _ => none

/-- What happens to the entries in a run. -/
def happenings (bs : List SetupMove) : List Happening := bs.filterMap SetupMove.happening

variable {bs bs' : List SetupMove} {b : SetupMove} {k k' : Setups} {id : String} {entry : Entry}
  {c : Coordinator}

@[simp] theorem happenings_append : happenings (bs ++ bs') = happenings bs ++ happenings bs' :=
  List.filterMap_append

theorem registry_path (h : Path SetupStep k bs k') :
    Path EntriesStep k.registry (happenings bs) k'.registry := by
  induction h with
  | nil => exact .nil _
  | cons hb _ ih =>
      cases hb with
      | flow hstep => exact .cons hstep ih
      | setup | unload => exact ih

/-- The coordinator was set up from an entry that goes back to the flows, and is
still there unless some entry was removed. -/
def SetUpFrom (bs : List SetupMove) (k : Setups) (id : String) (c : Coordinator) : Prop :=
  ∃ entry : Entry, c = entry.coordinator id ∧ entry.Ok (happenings bs) ∧
    ((∀ id, .remove id ∉ happenings bs) → entry.KeptAs id k.registry)

theorem SetUpFrom.path (h₀ : Path SetupStep {} bs k) (h : Path SetupStep k bs' k')
    (hc : SetUpFrom bs k id c) : SetUpFrom (bs ++ bs') k' id c := by
  obtain ⟨entry, rfl, hok, hkept⟩ := hc
  refine ⟨entry, rfl, ?_, ?_⟩
  · rw [happenings_append]
    exact hok.append
  · intro hremove
    simp only [happenings_append, List.mem_append, not_or] at hremove
    exact (hkept fun id => (hremove id).1).path (registry_path h₀) (registry_path h)
      (hremove id).2

/-- The step lemma. -/
theorem setUpFrom_step (hpath : Path SetupStep {} bs k) (hstep : SetupStep k b k')
    (h : ∀ id c, k.coordinators id = some c → SetUpFrom bs k id c) :
    ∀ id c, k'.coordinators id = some c → SetUpFrom (bs ++ [b]) k' id c := by
  -- one of them may have been replaced
  have hupdate : ∀ {id value}, (∀ c, value = some c → SetUpFrom bs k id c) →
      ∀ id' c, Function.update k.coordinators id value id' = some c → SetUpFrom bs k id' c := by
    intro id value hvalue id' c hc
    by_cases hid : id' = id
    · subst hid
      rw [Function.update_self] at hc
      exact hvalue c hc
    · rw [Function.update_of_ne hid] at hc
      exact h id' c hc
  intro id' c hc
  apply SetUpFrom.path hpath (.single hstep)
  cases hstep with
  | flow _ => exact h id' c hc
  | @setup id entry hentry =>
      refine hupdate ?_ id' c hc
      rintro c ⟨⟩
      exact ⟨entry, rfl, (traced (registry_path hpath)).entries id entry hentry,
        fun _ => .refl hentry⟩
  | unload =>
      refine hupdate ?_ id' c hc
      rintro c ⟨⟩

/-- The run lemma. -/
theorem setUpFrom (h : Path SetupStep {} bs k) (hc : k.coordinators id = some c) :
    SetUpFrom bs k id c := by
  let I (bs : List SetupMove) (k : Setups) : Prop :=
    Path SetupStep {} bs k ∧ ∀ id c, k.coordinators id = some c → SetUpFrom bs k id c
  have hinv : I bs k := by
    apply h.history
    · refine ⟨.nil _, ?_⟩
      intro id c hc
      cases hc
    · intro bs k b k' hI hstep
      exact ⟨path_snoc_iff.mpr ⟨k, hI.1, hstep⟩, setUpFrom_step hI.1 hstep hI.2⟩
  exact hinv.2 id c hc

/-! ### The integration -/

/-- The Rule Lists at Cloudflare, by account and id. -/
abbrev Lists := String → String → ListWorld

/-- The list of a coordinator. -/
def Lists.of (lists : Lists) (c : Coordinator) : ListWorld := lists c.accountId c.listId

/-- The integration.  Nobody else writes the lists, and a request to replace a
list takes effect at any time after it was sent, or never; all other answers are
arbitrary. -/
def integration : Dispatcher Setups SetupMove String Action.Res Lists (Except UpdateError SyncState)
    where
  Control := SetupStep
  Starts k id p := ∃ c, k.coordinators id = some c ∧ p = asyncUpdateData c
  Answers lists e lists' := ∀ c, listStep c (lists.of c) e (lists'.of c)
  Drifts lists lists' := ∀ c, (lists'.of c).sent = (lists.of c).sent ∧
    ((lists'.of c).content = (lists.of c).content ∨ (lists'.of c).content ∈ (lists.of c).sent)

/-- The moves of the integration. -/
abbrev IntegrationMove := Dispatcher.Move Action.Res SetupMove String

/-- The states of the integration. -/
abbrev IntegrationState := Dispatcher.State Setups Action.Res Lists (Except UpdateError SyncState)

/-- Before anything is set up. -/
def installed (lists : Lists) : IntegrationState := ⟨{}, lists, []⟩

open Dispatcher

variable {lists : Lists} {s s' : IntegrationState} {l : List IntegrationMove} {i : ℕ}

/-- Refresh `i` of the run is one of the entry `id`, which was `entry` when it was
set up.  It goes back to the flows of the run, and is still there unless some
entry was removed. -/
structure RefreshOf (lists : Lists) (l : List IntegrationMove) (s' : IntegrationState) (i : ℕ)
    (id : String) (entry : Entry) : Prop where
  started : ∃ k, integration.Started (installed lists) l s' i k id
    (asyncUpdateData (entry.coordinator id))
  ok : entry.Ok (happenings (controls l))
  kept : (∀ id, .remove id ∉ happenings (controls l)) → entry.KeptAs id s'.control.registry

/-- Whatever a refresh does, its entry entitles it to. -/
theorem entitled_of_act {e : Ev} (h : Path integration.Step (installed lists) l s')
    (hmem : .act i e ∈ l) : ∃ id entry seen, RefreshOf lists l s' i id entry ∧
      seen ⊆ eventsOf i l ∧ Entitled (entry.coordinator id) seen e.1 := by
  obtain ⟨k, id, p, q', hstarted, hsteps⟩ := started_of_act h rfl hmem
  obtain ⟨bs, bs', hcontrols, hpath, hpath'⟩ := hstarted.control
  obtain ⟨c, hc, rfl⟩ : ∃ c, k.coordinators id = some c ∧ p = asyncUpdateData c := by
    obtain ⟨_, _, _, _, _, _, _, rfl, hstarts⟩ := hstarted
    exact hstarts
  obtain ⟨entry, rfl, hok, hkept⟩ := (setUpFrom hpath hc).path hpath hpath'
  rw [← hcontrols] at hok hkept
  obtain ⟨seen, after, hevents⟩ := List.append_of_mem (mem_eventsOf_iff.mpr hmem)
  rw [hevents] at hsteps
  refine ⟨id, entry, seen, ⟨⟨k, hstarted⟩, hok, hkept⟩, ?_, ?_⟩
  · rw [hevents]
    exact List.subset_append_left _ _
  · exact (entitled_refresh _ []).allowed hsteps (path_history_iff.mpr (List.nil_append _).symm)

/-- What a refresh has read from its source is in the run. -/
theorem source_in_run {seen : List Ev} {ip : String} (hseen : seen ⊆ eventsOf i l)
    (h : SourceRead (entry.coordinator id) seen ip) :
    ∃ state, .act i ⟨.statesGet entry.data.sourceEntityId, state⟩ ∈ l ∧ UsableSource state ip := by
  obtain ⟨state, hmem, hread⟩ := h
  exact ⟨state, mem_eventsOf_iff.mp (hseen hmem), readSourceIp_eq_some_iff.mp hread⟩

/-! ### The lists -/

/-- A move of the integration, for a list. -/
theorem list_step {b : IntegrationMove} (h : integration.Step s b s') (c : Coordinator) :
    (s.world.of c).sent ⊆ (s'.world.of c).sent ∧
      ((s'.world.of c).content = (s.world.of c).content ∨
        (s'.world.of c).content ∈ (s'.world.of c).sent) ∧
      ∀ body ∈ (s'.world.of c).sent, body ∈ (s.world.of c).sent ∨ ∃ i items answer,
        b = .act i ⟨Action.replaceListItems c.accountId c.listId items, answer⟩ ∧
          body = replaceBody items := by
  cases h with
  | control | start => exact ⟨List.Subset.refl _, .inl rfl, fun _ => .inl⟩
  | drift hdrift =>
      obtain ⟨hsent, hcontent⟩ := hdrift c
      rw [← hsent] at hcontent
      refine ⟨fun body hbody => hsent ▸ hbody, hcontent, ?_⟩
      intro body hbody
      exact .inl (hsent ▸ hbody)
  | @act k w w' threads i q q' e _ _ hanswers =>
      obtain ⟨hsent, hcontent⟩ := hanswers c
      refine ⟨?_, hcontent, ?_⟩
      · show (w.of c).sent ⊆ (w'.of c).sent
        rw [hsent]
        exact subset_sentAfter _ e
      · intro body hbody
        rw [show (w'.of c).sent = _ from hsent] at hbody
        rcases mem_sentAfter hbody with hbody | ⟨items, answer, rfl, rfl⟩
        · exact .inl hbody
        · exact .inr ⟨i, items, answer, rfl, rfl⟩

/-- What is in a list was there at first, or was written by a refresh of an entry
of this list, with an address from the entry's source. -/
theorem list_content (h : Path integration.Step (installed lists) l s') (c : Coordinator)
    (hsent : (lists.of c).sent = []) :
    (s'.world.of c).content = (lists.of c).content ∨
      ∃ i id entry state ip, RefreshOf lists l s' i id entry ∧
        entry.data.accountId = c.accountId ∧ entry.data.listId = c.listId ∧
        .act i ⟨.statesGet entry.data.sourceEntityId, state⟩ ∈ l ∧ UsableSource state ip ∧
        (s'.world.of c).content = [⟨ip, some listItemComment⟩] := by
  rcases h.content_origin (fun s => (s.world.of c).content) (fun s => (s.world.of c).sent) hsent
    (fun _ _ _ hb => list_step hb c) with hsame | ⟨_, hmem, i, items, answer, rfl, hbody⟩
  · exact .inl hsame
  · right
    obtain ⟨id, entry, seen, hrefresh, hseen, hentitled⟩ := entitled_of_act h hmem
    obtain ⟨haccount, hlist, ip, rfl, hread, -⟩ := entitled_replace hentitled
    obtain ⟨state, hstate, husable⟩ := source_in_run hseen hread
    exact ⟨i, id, entry, state, ip, hrefresh, haccount.symm, hlist.symm, hstate, husable, hbody⟩

/-! ### Runs of one entry -/

/-- Flows go on while nothing else happens. -/
theorem path_flows {registry registry' : ConfigEntries} {hs : List Happening}
    (h : Path EntriesStep registry hs registry')
    {coordinators : String → Option Coordinator}
    {threads : List (Coro (Except UpdateError SyncState))} :
    Path integration.Step ⟨⟨registry, coordinators⟩, lists, threads⟩
      (hs.map fun b => .control (.flow b)) ⟨⟨registry', coordinators⟩, lists, threads⟩ := by
  induction h with
  | nil => exact .nil _
  | cons hb _ ih => exact .cons (.control (.flow hb)) ih

/-- An entry is set up and refreshed for the first time. -/
def refreshMoves (id : String) (t : List Ev) : List IntegrationMove :=
  .control (.setup id) :: .start id :: t.map (.act 0)

theorem path_refresh {registry : ConfigEntries} {coordinators : String → Option Coordinator}
    {t : List Ev} {rest : Coro (Except UpdateError SyncState)} {lists' : Lists}
    (hentry : registry.entries id = some entry)
    (h : (asyncUpdateData (entry.coordinator id)).Steps t rest)
    (hlists : Path integration.Answers lists t lists') :
    Path integration.Step ⟨⟨registry, coordinators⟩, lists, []⟩ (refreshMoves id t)
      ⟨⟨registry, Function.update coordinators id (entry.coordinator id)⟩, lists', [rest]⟩ := by
  apply Path.cons (.control (.setup hentry))
  apply Path.cons (.start ⟨_, Function.update_self .., rfl⟩)
  exact path_acts rfl h hlists

/-- The lists stay as they are while nothing is written. -/
theorem path_answers_of_other {t : List Ev}
    (ht : ∀ e ∈ t, ∀ accountId listId items, e.1 ≠ .replaceListItems accountId listId items) :
    Path integration.Answers lists t lists := by
  induction t with
  | nil => exact .nil _
  | cons e t ih =>
      rw [List.forall_mem_cons] at ht
      refine .cons (fun c => ⟨?_, .inl rfl⟩) (ih ht.2)
      obtain ⟨action, answer⟩ := e
      cases action with
      | replaceListItems accountId listId items => exact absurd rfl (ht.1 accountId listId items)
      | _ => rfl

theorem happenings_flows {hs : List Happening} :
    happenings (controls (hs.map fun b => (.control (.flow b) : IntegrationMove))) = hs := by
  induction hs with
  | nil => rfl
  | cons b hs ih => exact congrArg (b :: ·) ih

theorem happenings_refresh {t : List Ev} : happenings (controls (refreshMoves id t)) = [] := by
  have hacts : controls (t.map (.act 0) : List IntegrationMove) = [] := by
    induction t with
    | nil => rfl
    | cons e t ih => exact ih
  show happenings (.setup id :: controls (t.map (.act 0) : List IntegrationMove)) = []
  rw [hacts]
  rfl

/-- The entry of the first setup. -/
def homeEntry : Entry :=
  ⟨"Allowed", some "a:l", (homeList "l").entryData, {}⟩

/-- Its list after a write. -/
def writtenLists : Lists := fun accountId listId =>
  if "a" = accountId ∧ "l" = listId then
    ⟨[⟨"192.0.2.1", some listItemComment⟩], [[⟨"192.0.2.1", some listItemComment⟩]]⟩
  else ⟨[], []⟩

/-- The entry reads its source and writes its list; the write takes effect
although its response is lost. -/
def homeWrites : List Ev :=
  let c := homeEntry.coordinator "e"
  [sourceEv c (some "192.0.2.1"), readEv c (.ok []), issueEv c false,
    replaceEv c "192.0.2.1" (.error (.connection "timeout"))]

/-- The entry is added and refreshed. -/
def homeRun : List IntegrationMove :=
  ((homeList "l").happenings 0 "e").map (fun b => .control (.flow b)) ++ refreshMoves "e" homeWrites

theorem happenings_homeRun :
    happenings (controls homeRun) = (homeList "l").happenings 0 "e" := by
  rw [homeRun, controls_append, happenings_append, happenings_flows, happenings_refresh,
    List.append_nil]

theorem path_homeRun : ∃ s', Path integration.Step (installed fun _ _ => ⟨[], []⟩) homeRun s' ∧
    s'.control.registry.entries "e" = some homeEntry ∧
    (s'.world "a" "l").content = [⟨"192.0.2.1", some listItemComment⟩] := by
  have hquiet : ∀ e ∈ homeWrites.take 3, ∀ accountId listId items,
      e.1 ≠ .replaceListItems accountId listId items := by
    simp [homeWrites, issueEv]
  have hwrite : integration.Answers (fun _ _ => ⟨[], []⟩)
      (replaceEv (homeEntry.coordinator "e") "192.0.2.1" (.error (.connection "timeout")))
      writtenLists := by
    intro c
    by_cases hlist : "a" = c.accountId ∧ "l" = c.listId
    · have hof : writtenLists.of c = ⟨_, _⟩ := if_pos hlist
      refine ⟨(congrArg ListWorld.sent hof).trans (if_pos hlist).symm, .inr ?_⟩
      rw [hof]
      exact List.mem_singleton_self _
    · have hof : writtenLists.of c = ⟨[], []⟩ := if_neg hlist
      exact ⟨(congrArg ListWorld.sent hof).trans (if_neg hlist).symm,
        .inl (congrArg ListWorld.content hof)⟩
  have hlists : Path integration.Answers (fun _ _ => ⟨[], []⟩) homeWrites writtenLists :=
    (path_answers_of_other hquiet).append (.single hwrite)
  have hsteps : ∃ rest, (asyncUpdateData (homeEntry.coordinator "e")).Steps homeWrites rest :=
    ⟨_, .cons (.op _ _ _) (.cons (.op _ _ _) (.cons (.op _ _ _) (.cons (.op _ _ _) (.nil _))))⟩
  obtain ⟨rest, hsteps⟩ := hsteps
  exact ⟨_, (path_flows setup_first).append (path_refresh rfl hsteps hlists), rfl, rfl⟩

/-! ### What users chose -/

/-- **Lists.** Whatever the flows and the refreshes do, a list holds what it held
at first, or one address: account, list and source were chosen in one setup
flow, and a refresh of the entry that this flow made read the address from the
source. -/
theorem lists_chosen {accountId listId : String}
    (h : Path integration.Step (installed lists) l s')
    (hsent : (lists accountId listId).sent = []) :
    (s'.world accountId listId).content = (lists accountId listId).content ∨
      ∃ j data i id entry state ip, Founded (calls j (happenings (controls l))) data ∧
        data.accountId = accountId ∧ data.listId = listId ∧ RefreshOf lists l s' i id entry ∧
        entry.data = { data with apiToken := entry.data.apiToken } ∧
        .act i ⟨.statesGet data.sourceEntityId, state⟩ ∈ l ∧ UsableSource state ip ∧
        (s'.world accountId listId).content = [⟨ip, some listItemComment⟩] := by
  rcases list_content h ⟨"", "", accountId, listId, "", 0, none, none⟩ hsent with hsame |
    ⟨i, id, entry, state, ip, hrefresh, haccount, hlist, hstate, husable, hcontent⟩
  · exact .inl hsame
  · obtain ⟨j, data, hfounded, hdata⟩ := hrefresh.ok.founded
    rw [hdata] at haccount hlist hstate
    exact .inr ⟨j, data, i, id, entry, state, ip, hfounded, haccount, hlist, hrefresh, hdata,
      hstate, husable, hcontent⟩

/-- The list that was written was chosen. -/
theorem lists_chosen_home : ∃ j data, Founded (calls j (happenings (controls homeRun))) data ∧
    data.accountId = "a" ∧ data.listId = "l" ∧
    ∃ i state ip, .act i ⟨.statesGet data.sourceEntityId, state⟩ ∈ homeRun ∧
      UsableSource state ip := by
  obtain ⟨s', hrun, -, hcontent⟩ := path_homeRun
  rcases @lists_chosen _ _ _ "a" "l" hrun rfl with hsame |
    ⟨j, data, i, _, _, state, ip, hfounded, haccount, hlist, -, -, hstate, husable, -⟩
  · rw [hcontent] at hsame
    cases hsame
  · exact ⟨j, data, hfounded, haccount, hlist, i, state, ip, hstate, husable⟩

/-- **One source for a list.** As long as no entry is removed, the list of an
entry holds what it held at first, or one address that a refresh of this entry
read from the source that the entry names. -/
theorem own_list (h : Path integration.Step (installed lists) l s')
    (hremove : ∀ id, .remove id ∉ happenings (controls l))
    (hentry : s'.control.registry.entries id = some entry)
    (hsent : (lists entry.data.accountId entry.data.listId).sent = []) :
    (s'.world entry.data.accountId entry.data.listId).content =
        (lists entry.data.accountId entry.data.listId).content ∨
      ∃ i entry' state ip, RefreshOf lists l s' i id entry' ∧
        .act i ⟨.statesGet entry.data.sourceEntityId, state⟩ ∈ l ∧ UsableSource state ip ∧
        (s'.world entry.data.accountId entry.data.listId).content =
          [⟨ip, some listItemComment⟩] := by
  rcases list_content h (entry.coordinator id) hsent with hsame |
    ⟨i, id', entry', state, ip, hrefresh, haccount, hlist, hstate, husable, hcontent⟩
  · exact .inl hsame
  · -- its entry is still there, and has the same list
    obtain ⟨entry'', hentry'', -, -, hdata⟩ := hrefresh.kept hremove
    have hsame : entry.data.SameList entry''.data := by
      rw [hdata]
      exact ⟨haccount.symm, hlist.symm⟩
    obtain rfl := entries_inj (registry_path (control_path h)) hentry hentry'' hsame
    obtain rfl := Option.some.inj (hentry.symm.trans hentry'')
    have hsource : entry.data.sourceEntityId = entry'.data.sourceEntityId := by rw [hdata]
    rw [← hsource] at hstate
    exact .inr ⟨i, entry', state, ip, hrefresh, hstate, husable, hcontent⟩

/-- The entry that was added. -/
theorem own_list_home : ∃ i state ip, .act i ⟨.statesGet "sensor.ip", state⟩ ∈ homeRun ∧
    UsableSource state ip := by
  obtain ⟨s', hrun, hentry, hcontent⟩ := path_homeRun
  have hremove : ∀ id, .remove id ∉ happenings (controls homeRun) := by
    rw [happenings_homeRun]
    simp [Choice.happenings]
  rcases own_list hrun hremove hentry rfl with hsame | ⟨i, _, state, ip, -, hstate, husable, -⟩
  · have hwritten : (s'.world "a" "l").content = [] := hsame
    rw [hcontent] at hwritten
    cases hwritten
  · exact ⟨i, state, ip, hstate, husable⟩

/-! ### Hostnames -/

/-- The zone of a hostname comes from an options flow. -/
theorem zone_of_target {target : DnsTarget} {hs : List Happening} (hok : entry.Ok hs)
    (htarget : (entry.coordinator id).dnsTarget = some target) :
    ∃ j token zones zone, ⟨.getZones token, .ok zones⟩ ∈ calls j hs ∧
      IsLongestZone target.recordName zones zone ∧ zone.id = target.zoneId := by
  obtain ⟨hname, hzone⟩ := dnsTarget_eq_some htarget
  replace hname : entry.options.dnsRecordName = some target.recordName := hname
  replace hzone : entry.options.dnsZoneId = some target.zoneId := hzone
  rcases hok.options with hdefault | ⟨j, hoptions⟩
  · rw [hdefault] at hname
    cases hname
  · rcases hoptions.dns with ⟨hnone, -⟩ |
      ⟨recordName, token, zones, zone, -, hzones, hlongest, hname', hzone', -⟩
    · rw [hnone] at hname
      cases hname
    · obtain rfl := Option.some.inj (hname'.symm.trans hname)
      exact ⟨j, token, zones, zone, hzones, hlongest, Option.some.inj (hzone'.symm.trans hzone)⟩

/-- **DNS records.** Whatever the flows and the refreshes do, a refresh only
writes records of the hostname that its entry was given, in the zone that an
options flow found for it, and with an address that it read from its source. -/
theorem records_chosen {e : Ev} (h : Path integration.Step (installed lists) l s')
    (hmem : .act i e ∈ l) (hwrites : e.1.writesDnsRecord = true) :
    ∃ id entry target j token zones zone state ip, RefreshOf lists l s' i id entry ∧
      (entry.coordinator id).dnsTarget = some target ∧
      ⟨.getZones token, .ok zones⟩ ∈ calls j (happenings (controls l)) ∧
      IsLongestZone target.recordName zones zone ∧ zone.id = target.zoneId ∧
      .act i ⟨.statesGet entry.data.sourceEntityId, state⟩ ∈ l ∧ UsableSource state ip ∧
      (e.1 = .createDnsRecord zone.id (dnsBody target ip) ∨
        ∃ record rest, .act i (dnsReadEv target ip (.ok (record :: rest))) ∈ l ∧
          e.1 = .updateDnsRecord zone.id record.id (dnsPatch record ip)) := by
  obtain ⟨id, entry, seen, hrefresh, hseen, hentitled⟩ := entitled_of_act h hmem
  obtain ⟨o, r⟩ := e
  cases o with
  | createDnsRecord zoneId body =>
      obtain ⟨target, ip, htarget, rfl, rfl, hread, -⟩ := entitled_create hentitled
      obtain ⟨j, token, zones, zone, hzones, hlongest, hid⟩ := zone_of_target hrefresh.ok htarget
      obtain ⟨state, hstate, husable⟩ := source_in_run hseen hread
      refine ⟨id, entry, target, j, token, zones, zone, state, ip, hrefresh, htarget, hzones,
        hlongest, hid, hstate, husable, .inl ?_⟩
      rw [hid]
  | updateDnsRecord zoneId recordId patch =>
      obtain ⟨target, ip, record, rest, htarget, rfl, rfl, rfl, hread, hquery⟩ :=
        entitled_update hentitled
      obtain ⟨j, token, zones, zone, hzones, hlongest, hid⟩ := zone_of_target hrefresh.ok htarget
      obtain ⟨state, hstate, husable⟩ := source_in_run hseen hread
      refine ⟨id, entry, target, j, token, zones, zone, state, ip, hrefresh, htarget, hzones,
        hlongest, hid, hstate, husable, .inr ⟨record, rest, ?_, ?_⟩⟩
      · exact mem_eventsOf_iff.mp (hseen hquery)
      · rw [hid]
  | _ => cases hwrites

/-- What is submitted to the options flow, and what is stored. -/
def vpnInput : OptionsInput := ⟨5, 15, some "VPN.Example.COM"⟩

def vpnOptions : Options := ⟨some 5, some 15, some "vpn.example.com", some "z", some "example.com"⟩

/-- The call of the options flow. -/
def vpnCalls : List (Event FlowCall.Res) := [⟨.getZones "t", .ok [⟨"z", "example.com"⟩]⟩]

theorem traces_vpn :
    (asyncStepInit "t" {} (some vpnInput)).Traces vpnCalls (.ok (.createEntry vpnOptions)) := by
  have hname : vpnInput.recordName = "vpn.example.com" := by decide +kernel
  have hfind : findZone [⟨"z", "example.com"⟩] vpnInput.recordName =
      some ⟨"z", "example.com"⟩ := by
    rw [hname, findZone, List.filter_cons_of_pos (by decide)]
    rfl
  have hne : vpnInput.recordName ≠ "" := by
    rw [hname]
    decide
  have hstored : vpnInput.optionsIn ⟨"z", "example.com"⟩ = vpnOptions := by decide +kernel
  have hzone : (asyncFindZone "t" vpnInput.recordName).Traces vpnCalls
      (.ok (some ⟨"z", "example.com"⟩)) := by
    rw [← hfind]
    exact Prog.traces_op_iff.mpr ⟨_, _, rfl, Prog.traces_ret_iff.mpr ⟨rfl, rfl⟩⟩
  rw [← hstored]
  unfold asyncStepInit
  dsimp only
  rw [if_neg hne]
  exact Prog.traces_bind_iff.mpr ⟨_, _, [], rfl, hzone, Prog.traces_ret_iff.mpr ⟨rfl, rfl⟩⟩

/-- The entry with a hostname. -/
def vpnEntry : Entry := { homeEntry with options := vpnOptions }

def vpnTarget : DnsTarget := ⟨"vpn.example.com", "z", by decide, by decide⟩

/-- The answers to its first refresh: the list is as it should be, and there is
no record yet. -/
def vpnReplies : Replies where
  source := some "192.0.2.1"
  listItems := .ok [⟨"192.0.2.1", none, none⟩]
  replace := .error (.connection "timeout")
  bulkOperation := (0, .error (.connection "timeout"))
  ruleLists := .ok []
  dnsRecords := .ok []
  dnsRecord := .ok ⟨"r", "vpn.example.com", "A", "192.0.2.1", false, 60, none⟩
  now := (9 : ℕ)
  lastSynced := none

/-- The events of this refresh. -/
def vpnEvents : List Ev :=
  let c := vpnEntry.coordinator "e"
  [sourceEv c vpnReplies.source, readEv c vpnReplies.listItems, issueEv c false, clearEv c,
    stampEv vpnReplies.now, dnsReadEv vpnTarget "192.0.2.1" vpnReplies.dnsRecords,
    dnsCreateEv vpnTarget "192.0.2.1" vpnReplies.dnsRecord,
    ⟨.dismissNotification c.dnsNotificationId, ()⟩, ⟨.getLastSynced, none⟩]

theorem traces_vpnEvents :
    ∃ out, (asyncUpdateData (vpnEntry.coordinator "e")).Traces vpnEvents out :=
  ⟨_, Prog.traces_of_exec (Replies.nth fun _ => vpnReplies) 0 (by decide +kernel) rfl⟩

/-- The entry is added, given its hostname, and refreshed. -/
def vpnRun : List IntegrationMove :=
  ((homeList "l").happenings 0 "e" ++ optionsHappenings 1 "e" "f" vpnInput vpnCalls).map
    (fun b => .control (.flow b)) ++ refreshMoves "e" vpnEvents

theorem path_vpnRun : ∃ s', Path integration.Step (installed fun _ _ => ⟨[], []⟩) vpnRun s' := by
  obtain ⟨out, htraces⟩ := traces_vpnEvents
  have haccepts : (Form.init []).Accepts (.options vpnInput) := by
    constructor
    · decide +kernel
    · decide +kernel
  have hoptions : Path EntriesStep ((homeList "l").added {} "e")
      (optionsHappenings 1 "e" "f" vpnInput vpnCalls)
      (withOptions ((homeList "l").added {} "e") "e" vpnOptions) :=
    options_complete rfl rfl haccepts traces_vpn (by simp [vpnCalls])
  have hquiet : ∀ e ∈ vpnEvents, ∀ accountId listId items,
      e.1 ≠ .replaceListItems accountId listId items := by
    simp [vpnEvents, issueEv]
  have hentry : (withOptions ((homeList "l").added {} "e") "e" vpnOptions).entries "e" =
      some vpnEntry := rfl
  exact ⟨_, (path_flows (setup_first.append hoptions)).append
    (path_refresh hentry htraces (path_answers_of_other hquiet))⟩

/-- A record that was created. -/
theorem records_chosen_vpn : ∃ (zones : List Client.CloudflareZone) (zone : Client.CloudflareZone)
    (target : DnsTarget) (j : ℕ) (token ip : String),
    .act 0 (dnsCreateEv vpnTarget "192.0.2.1" vpnReplies.dnsRecord) ∈ vpnRun ∧
      ⟨.getZones token, .ok zones⟩ ∈ calls j (happenings (controls vpnRun)) ∧
      IsLongestZone target.recordName zones zone ∧
      Action.createDnsRecord vpnTarget.zoneId (dnsBody vpnTarget "192.0.2.1") =
        .createDnsRecord zone.id (dnsBody target ip) := by
  obtain ⟨s', hrun⟩ := path_vpnRun
  have hmem : .act 0 (dnsCreateEv vpnTarget "192.0.2.1" vpnReplies.dnsRecord) ∈ vpnRun := by
    simp [vpnRun, refreshMoves, vpnEvents]
  obtain ⟨_, _, target, j, token, zones, zone, _, ip, -, -, hzones, hlongest, -, -, -, hwrite⟩ :=
    records_chosen hrun hmem rfl
  rcases hwrite with hcreate | ⟨_, _, -, hupdate⟩
  · exact ⟨zones, zone, target, j, token, ip, hmem, hzones, hlongest, hcreate⟩
  · cases hupdate

end CloudflareIpSync
