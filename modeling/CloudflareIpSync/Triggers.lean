/-
CloudflareIpSync/Triggers.lean

The trigger model: a config entry being set up, its refreshes, and the source
entity, whose state may change at any moment.

The system is a pool.  It starts with `async_setup_entry`; refreshes start at
any time, and any number of them may be at work.  A change of the source calls
`_handle_source_event` if the listener is registered, which requests a refresh.
A request stays pending until a refresh has read the source after it.

The listener is registered after the first refresh.  A change that falls
between the refresh's reading of the source and the registration is seen by
neither (`change_lost_in_setup`); every other one is noticed
(`change_lost_only_in_setup`).
-/
import CloudflareIpSync.Pool
import CloudflareIpSync.Refresh

namespace CloudflareIpSync

open Interact

variable {c : Coordinator}

/-! ### The source entity and the requests -/

/-- What a config entry and its source entity have come to. -/
structure EntryWorld where
  source : Option String
  listening : Bool
  pending : Bool
  lastRead : Option (Option String)
  loaded : Bool
  deriving DecidableEq

/-- Before the setup. -/
def EntryWorld.fresh (source : Option String) : EntryWorld := ⟨source, false, false, none, false⟩

/-- The source changes.  `_handle_source_event` requests a refresh. -/
def EntryWorld.change (w : EntryWorld) (state : Option String) : EntryWorld :=
  { w with source := state, pending := w.pending || w.listening }

/-- A refresh reads the source.  That may serve the pending request, or leave it
to a later refresh. -/
def EntryWorld.read (w : EntryWorld) (pending : Bool) : EntryWorld :=
  { w with lastRead := some w.source, pending := pending }

/-- The actions that involve the source entity or the setup. -/
def Action.isTrigger (c : Coordinator) : Action → Bool
  | statesGet entityId => entityId == c.sourceEntityId
  | setupListeners => true
  | addUpdateListener => true
  | _ => false

/-- One action of the entry's coroutines.  Cloudflare answers anyhow. -/
inductive EntryStep (c : Coordinator) : EntryWorld → Ev → EntryWorld → Prop
  | read {w pending} : (pending = true → w.pending = true) →
      EntryStep c w (sourceEv c w.source) (w.read pending)
  | listen {w} : EntryStep c w ⟨.setupListeners, ()⟩ { w with listening := true }
  | loaded {w} : EntryStep c w ⟨.addUpdateListener, ()⟩ { w with loaded := true }
  | other {w e} : e.1.isTrigger c = false → EntryStep c w e w

/-- The world after an action, if its answer is possible; a reading serves the
pending request. -/
def EntryWorld.serve (c : Coordinator) (w : EntryWorld) (e : Ev) : Option EntryWorld :=
  if e = sourceEv c w.source then some (w.read false)
  else if e.1.isTrigger c = false then some w
  else
    match e with
    | ⟨.setupListeners, _⟩ => some { w with listening := true }
    | ⟨.addUpdateListener, _⟩ => some { w with loaded := true }
    | _ => none

theorem entryStep_serve {w w' : EntryWorld} {e : Ev} (h : w.serve c e = some w') :
    EntryStep c w e w' := by
  unfold EntryWorld.serve at h
  split at h
  · rename_i he
    cases h
    rw [he]
    exact .read (by rintro ⟨⟩)
  split at h
  · rename_i hother
    cases h
    exact .other hother
  split at h
  · cases h
    exact .listen
  · cases h
    exact .loaded
  · cases h

/-! ### The system -/

/-- A refresh after the setup. -/
def laterRefresh (c : Coordinator) : Coro Unit := do
  let _ ← asyncUpdateData c
  return ()

abbrev EntryMove := Move Action.Res (Option String)

abbrev EntryPool := Pool Action.Res EntryWorld Unit

/-- A coroutine acts, the source changes, or a refresh starts. -/
abbrev EntrySystem (c : Coordinator) : EntryPool → EntryMove → EntryPool → Prop :=
  Pool.Step (EntryStep c) (fun w state w' => w' = w.change state) (laterRefresh c)

/-- The setup is about to begin. -/
def entryStart (c : Coordinator) (source : Option String) : EntryPool :=
  ⟨.fresh source, [asyncSetupEntry c]⟩

/-- Every coroutine of the system reads the source first, and then works with
the address it read. -/
theorem thread_reads_first {source : Option String} {l : List EntryMove} {s : EntryPool} {i : ℕ}
    (h : Path (EntrySystem c) (entryStart c source) l s) :
    Pool.eventsOf i l = [] ∨ ∃ state t', Pool.eventsOf i l = sourceEv c state :: t' ∧
      ∀ e ∈ t', e.1.AfterRead (readSourceIp state) := by
  have neutral : ∀ {o : Action}, o = .setupListeners ∨ o = .forwardEntrySetups ∨
      o = .addUpdateListener → ∀ localIp, o.AfterRead localIp := by
    rintro o (rfl | rfl | rfl) localIp <;> exact afterRead_of_neutral (by simp) rfl
  obtain ⟨hrun, habsent⟩ := Pool.run_of_thread h
  rcases hi : s.threads[i]? with - | q
  · exact .inl (habsent (List.getElem?_eq_none_iff.mp hi)).2
  rcases hrun q hi with ⟨q₀, hq₀, hsteps⟩ | hsteps
  · -- the setup
    have hq₀ : q₀ = asyncSetupEntry c := List.mem_singleton.mp (List.mem_of_getElem? hq₀)
    rw [hq₀] at hsteps
    refine source_first ?_ hsteps
    rintro (err | state) localIp
    · trivial
    · exact ⟨neutral (.inl rfl) _, fun _ => ⟨neutral (.inr (.inl rfl)) _, fun _ =>
        ⟨neutral (.inr (.inr rfl)) _, fun _ => trivial⟩⟩⟩
  · refine source_first ?_ hsteps
    intro _ _
    trivial

/-! ### What is noticed -/

/-- The current state of the source has been read, or is going to be. -/
def EntryWorld.Noticed (w : EntryWorld) : Prop :=
  w.lastRead = some w.source ∨ w.pending = true

/-- A move that does not change the source after its first reading and before
the listener is registered. -/
def Quiet (c : Coordinator) (s : EntryPool) (b : EntryMove) (s' : EntryPool) : Prop :=
  EntrySystem c s b s' ∧
    ∀ state, b = .interfere state → s.world.lastRead = none ∨ s.world.listening = true

/-- **One move.** A quiet one leaves nothing unnoticed. -/
theorem Quiet.noticed {s s' : EntryPool} {b : EntryMove} (h : Quiet c s b s')
    (hs : s.world.lastRead ≠ none → s.world.Noticed) :
    s'.world.lastRead ≠ none → s'.world.Noticed := by
  obtain ⟨hstep, hquiet⟩ := h
  cases hstep with
  | act _ _ hworld =>
      cases hworld with
      | read => exact fun _ => .inl rfl
      | listen => exact hs
      | loaded => exact hs
      | other => exact hs
  | @interfere w w' _ state hchange =>
      rw [hchange]
      intro hread
      rcases hquiet state rfl with hnone | hlistening
      -- either nothing has been read yet, or the listener requests a refresh
      · exact absurd hnone hread
      · have hpending : (w.change state).pending = true := by
          show (w.pending || w.listening) = true
          rw [hlistening, Bool.or_true]
        exact .inr hpending
  | start => exact hs

/-- What the world says about the moves so far. -/
structure History (c : Coordinator) (l : List EntryMove) (w : EntryWorld) : Prop where
  loaded : w.loaded = true → ∃ i, .act i ⟨.addUpdateListener, ()⟩ ∈ l
  read : ∀ i state, .act i (sourceEv c state) ∈ l → w.lastRead ≠ none
  pending : w.listening = false → w.pending = false

theorem History.step {l : List EntryMove} {s s' : EntryPool} {b : EntryMove}
    (h : History c l s.world) (hstep : EntrySystem c s b s') :
    History c (l ++ [b]) s'.world := by
  obtain ⟨hloaded, hread, hpending⟩ := h
  -- unless the move reads the source, an earlier one did
  have earlier : ∀ {i state}, (∀ j, b ≠ .act j (sourceEv c state)) →
      .act i (sourceEv c state) ∈ l ++ [b] → s.world.lastRead ≠ none := by
    intro i state hne hmem
    rcases List.mem_append.mp hmem with hmem | hmem
    · exact hread i state hmem
    · exact absurd (List.mem_singleton.mp hmem).symm (hne i)
  have kept : s.world.loaded = true → ∃ i, .act i ⟨.addUpdateListener, ()⟩ ∈ l ++ [b] := by
    intro h
    obtain ⟨i, hmem⟩ := hloaded h
    exact ⟨i, List.mem_append_left _ hmem⟩
  cases hstep with
  | @act _ _ _ i _ _ e _ _ hworld =>
      cases hworld with
      | @read pending hserved =>
          -- a reading never makes a request pending
          refine ⟨kept, fun _ _ _ => Option.some_ne_none _, ?_⟩
          intro hlistening
          rcases pending with - | -
          · rfl
          · exact (hserved rfl).symm.trans (hpending hlistening)
      | listen => exact ⟨kept, fun _ _ => earlier (by simp), by rintro ⟨⟩⟩
      | loaded => exact ⟨fun _ => ⟨i, by simp⟩, fun _ _ => earlier (by simp), hpending⟩
      | other hother =>
          refine ⟨kept, fun _ _ => earlier ?_, hpending⟩
          rintro j ⟨⟩
          simp [Action.isTrigger] at hother
  | @interfere w _ _ state hchange =>
      rw [hchange]
      refine ⟨kept, fun _ _ => earlier (by simp), ?_⟩
      intro hlistening
      have hpending' : w.pending = false := hpending hlistening
      show (w.pending || w.listening) = false
      rw [hpending', Bool.false_or]
      exact hlistening
  | start => exact ⟨kept, fun _ _ => earlier (by simp), hpending⟩

theorem history_of_path {source : Option String} {l : List EntryMove} {s : EntryPool}
    (h : Path (EntrySystem c) (entryStart c source) l s) : History c l s.world := by
  let I (l : List EntryMove) (s : EntryPool) : Prop := History c l s.world
  show I l s
  apply h.history
  · exact ⟨by rintro ⟨⟩, fun _ _ hmem => absurd hmem List.not_mem_nil, fun _ => rfl⟩
  · exact fun l s b s' hhistory hstep => hhistory.step hstep

/-- The setup reads the source before it completes. -/
theorem read_of_loaded {source : Option String} {l : List EntryMove} {s : EntryPool}
    (h : Path (EntrySystem c) (entryStart c source) l s) (hloaded : s.world.loaded = true) :
    s.world.lastRead ≠ none := by
  have hhistory := history_of_path h
  obtain ⟨i, hmem⟩ := hhistory.loaded hloaded
  have hevent := Pool.mem_eventsOf_iff.mpr hmem
  rcases thread_reads_first (i := i) h with hnone | ⟨state, t', hevents, -⟩
  · rw [hnone] at hevent
    cases hevent
  · have hfirst : sourceEv c state ∈ Pool.eventsOf i l := by
      rw [hevents]
      exact List.mem_cons_self
    exact hhistory.read i state (Pool.mem_eventsOf_iff.mp hfirst)

/-- A move that neither changes nor reads the source leaves it, the last reading
and the requests alone. -/
theorem trigger_frame {s s' : EntryPool} {b : EntryMove} (h : EntrySystem c s b s')
    (hchange : ∀ state, b ≠ .interfere state) (hread : ∀ i state, b ≠ .act i (sourceEv c state)) :
    s'.world.lastRead = s.world.lastRead ∧ s'.world.source = s.world.source ∧
      s'.world.pending = s.world.pending := by
  cases h with
  | act _ _ hworld =>
      cases hworld with
      | read => exact absurd rfl (hread _ _)
      | listen => exact ⟨rfl, rfl, rfl⟩
      | loaded => exact ⟨rfl, rfl, rfl⟩
      | other => exact ⟨rfl, rfl, rfl⟩
  | interfere => exact absurd rfl (hchange _)
  | start => exact ⟨rfl, rfl, rfl⟩

/-- **Nothing is lost outside the setup.** In a run in which the source does not
change between its first reading and the registration of the listener, the
current state has been read or is going to be, whenever the setup has completed.
A change at any other state in between goes unnoticed until the source is read
or changes again. -/
theorem change_lost_only_in_setup (source : Option String) :
    (∀ l s, Path (Quiet c) (entryStart c source) l s → s.world.loaded = true →
      s.world.Noticed) ∧
    (∀ l s state l' s', Path (EntrySystem c) (entryStart c source) l s →
      s.world.lastRead ≠ none → s.world.listening = false → some state ≠ s.world.lastRead →
      Path (EntrySystem c) s (.interfere state :: l') s' →
      (∀ b ∈ l', (∀ state', b ≠ .interfere state') ∧ ∀ i state', b ≠ .act i (sourceEv c state')) →
      ¬ s'.world.Noticed) := by
  refine ⟨?_, ?_⟩
  · intro l s hrun hloaded
    have hpath : Path (EntrySystem c) (entryStart c source) l s := hrun.mono fun _ _ _ h => h.1
    have hnoticed : s.world.lastRead ≠ none → s.world.Noticed := by
      refine hrun.preserves (I := fun s => s.world.lastRead ≠ none → s.world.Noticed) ?_ ?_
      · exact fun hnone => absurd rfl hnone
      · exact fun _ _ _ _ hs hstep => hstep.noticed hs
    exact hnoticed (read_of_loaded hpath hloaded)
  · intro l s state l' s' hrun hread hlistening hne hlost hrest
    obtain ⟨s₁, hchange, hquiet⟩ := path_cons_iff.mp hlost
    have hstart : s₁.world.lastRead = s.world.lastRead ∧ s₁.world.source = state ∧
        s₁.world.pending = false := by
      have hpending := (history_of_path hrun).pending hlistening
      cases hchange with
      | @interfere w w' _ _ hworld =>
          rw [hworld]
          refine ⟨rfl, rfl, ?_⟩
          show (w.pending || w.listening) = false
          rw [show w.pending = false from hpending, Bool.false_or]
          exact hlistening
    have hend : s'.world.lastRead = s.world.lastRead ∧ s'.world.source = state ∧
        s'.world.pending = false := by
      refine hquiet.preserves (I := fun s' => s'.world.lastRead = s.world.lastRead ∧
        s'.world.source = state ∧ s'.world.pending = false) hstart ?_
      rintro s₂ b s₃ hmem ⟨hread₂, hsource₂, hpending₂⟩ hstep
      obtain ⟨hread₃, hsource₃, hpending₃⟩ :=
        trigger_frame hstep (hrest b hmem).1 (hrest b hmem).2
      exact ⟨hread₃.trans hread₂, hsource₃.trans hsource₂, hpending₃.trans hpending₂⟩
    obtain ⟨hread', hsource', hpending'⟩ := hend
    rintro (hnoticed | hnoticed)
    · rw [hread', hsource'] at hnoticed
      exact hne hnoticed.symm
    · rw [hpending'] at hnoticed
      cases hnoticed

/-- The source changes while the first refresh awaits the Rule List.  The setup
completes, the old state is the last one read, and no refresh is requested. -/
theorem change_lost_in_setup :
    let c : Coordinator := ⟨"e", "home", "acc", "list", "sensor.ip", 5, none, none⟩
    ∃ l s, Path (EntrySystem c) (entryStart c (some "198.51.100.1")) l s ∧
      s.world.loaded = true ∧ ¬ s.world.Noticed := by
  intro c
  let l : List EntryMove :=
    [.act 0 (sourceEv c (some "198.51.100.1")), .interfere (some "203.0.113.7"),
      .act 0 (readEv c (.ok [⟨"198.51.100.1", none, none⟩])), .act 0 (issueEv c false),
      .act 0 (clearEv c), .act 0 (stampEv (9 : ℕ)),
      .act 0 ⟨.getLastSynced, some (9 : ℕ)⟩, .act 0 ⟨.setupListeners, ()⟩,
      .act 0 ⟨.forwardEntrySetups, ()⟩, .act 0 ⟨.addUpdateListener, ()⟩]
  have hreplay : (Pool.replay (EntryWorld.serve c) (fun w state => some (w.change state))
      (laterRefresh c) (entryStart c (some "198.51.100.1")) l).map (·.world) =
        some ⟨some "203.0.113.7", true, false, some (some "198.51.100.1"), true⟩ := by
    decide +kernel
  obtain ⟨s, hs, hworld⟩ := Option.map_eq_some_iff.mp hreplay
  have hrun : Path (EntrySystem c) (entryStart c (some "198.51.100.1")) l s :=
    Pool.path_of_replay (fun _ _ _ => entryStep_serve) (fun _ _ _ h => (Option.some.inj h).symm) hs
  refine ⟨l, s, hrun, by rw [hworld], ?_⟩
  rw [hworld]
  rintro (h | h)
  · exact absurd h (by decide)
  · cases h

/-- The source changes after the setup: a refresh is requested. -/
theorem no_change_lost_after_setup :
    let c : Coordinator := ⟨"e", "home", "acc", "list", "sensor.ip", 5, none, none⟩
    ∃ l s, Path (Quiet c) (entryStart c (some "198.51.100.1")) l s ∧
      s.world.source = some "203.0.113.7" ∧ s.world.Noticed := by
  intro c
  let l : List EntryMove :=
    [.act 0 (sourceEv c (some "198.51.100.1")),
      .act 0 (readEv c (.ok [⟨"198.51.100.1", none, none⟩])), .act 0 (issueEv c false),
      .act 0 (clearEv c), .act 0 (stampEv (9 : ℕ)),
      .act 0 ⟨.getLastSynced, some (9 : ℕ)⟩, .act 0 ⟨.setupListeners, ()⟩,
      .interfere (some "203.0.113.7"), .act 0 ⟨.forwardEntrySetups, ()⟩,
      .act 0 ⟨.addUpdateListener, ()⟩]
  let change (w : EntryWorld) (state : Option String) : Option EntryWorld :=
    if w.lastRead = none ∨ w.listening = true then some (w.change state) else none
  have hreplay : (Pool.replay (EntryWorld.serve c) change (laterRefresh c)
      (entryStart c (some "198.51.100.1")) l).map (·.world) =
        some ⟨some "203.0.113.7", true, true, some (some "198.51.100.1"), true⟩ := by
    decide +kernel
  obtain ⟨s, hs, hworld⟩ := Option.map_eq_some_iff.mp hreplay
  have hchange : ∀ w state w', change w state = some w' →
      w' = w.change state ∧ (w.lastRead = none ∨ w.listening = true) := by
    intro w state w' h
    obtain ⟨hquiet, heq⟩ := Option.ite_none_right_eq_some.mp h
    exact ⟨(Option.some.inj heq).symm, hquiet⟩
  have hrun : Path (Quiet c) (entryStart c (some "198.51.100.1")) l s := by
    refine Path.mono ?_ (Pool.path_of_replay (fun _ _ _ => entryStep_serve) hchange hs)
    intro s b s' hstep
    cases hstep with
    | act hi hact hworld => exact ⟨.act hi hact hworld, by rintro _ ⟨⟩⟩
    | interfere h => exact ⟨.interfere h.1, by rintro _ ⟨⟩; exact h.2⟩
    | start => exact ⟨.start, by rintro _ ⟨⟩⟩
  refine ⟨l, s, hrun, by rw [hworld], ?_⟩
  exact (change_lost_only_in_setup (some "198.51.100.1")).1 l s hrun (by rw [hworld])

end CloudflareIpSync
