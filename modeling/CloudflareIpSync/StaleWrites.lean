/-
CloudflareIpSync/StaleWrites.lean

Which IP a request carries while the source changes and refreshes overlap.

A refresh takes the IP from the source once, at its start.  Every replace,
create and update request it sends later carries that IP
(`requests_carry_read_ip`), even if the source holds another one by then, and
even if another refresh has already written and verified the other one
(`stale_request_sent`).  When refreshes run one at a time, no later reading
comes between a refresh's reading and its requests.
-/
import CloudflareIpSync.Triggers

namespace CloudflareIpSync

open Interact

variable {c : Coordinator}

/-- The runs of the system in which a refresh starts only when everything before
it has returned. -/
abbrev SerialSystem (c : Coordinator) : EntryPool → EntryMove → EntryPool → Prop :=
  Pool.Serial (EntryStep c) (fun w state w' => w' = w.change state) (laterRefresh c)

theorem alone_entryStart (source : Option String) : (entryStart c source).Alone := by
  intro i j q r hi hj _ _
  have hi' : i < 1 := (List.getElem?_eq_some_iff.mp hi).1
  have hj' : j < 1 := (List.getElem?_eq_some_iff.mp hj).1
  omega

/-- A reading returns what the source holds. -/
theorem source_of_read {s s' : EntryPool} {i : ℕ} {state : Option String}
    (h : EntrySystem c s (.act i (sourceEv c state)) s') : s.world.source = state := by
  cases h with
  | act _ _ hworld =>
      cases hworld with
      | read => rfl
      | other hother => simp [Action.isTrigger] at hother

/-- Only a change changes the source. -/
theorem source_frame {s s' : EntryPool} {l : List EntryMove} (h : Path (EntrySystem c) s l s')
    (hl : ∀ state, .interfere state ∉ l) : s'.world.source = s.world.source := by
  refine h.preserves (I := fun s' => s'.world.source = s.world.source) rfl ?_
  rintro s₁ b s₂ hmem hsource hstep
  cases hstep with
  | act _ _ hworld =>
      cases hworld with
      | read => exact hsource
      | listen => exact hsource
      | loaded => exact hsource
      | other => exact hsource
  | interfere => exact absurd hmem (hl _)
  | start => exact hsource

/-- **One reading, one address.** Whatever the interleaving, an IP in a Rule List
replace, a DNS create or a DNS update request is the usable IP that the source
held when the refresh that sends it read it.  So it is the one the source holds,
if the source has not changed since.  If refreshes run one at a time, no refresh
has read the source since. -/
theorem requests_carry_read_ip {source : Option String} {l : List EntryMove} {i : ℕ} {o : Action}
    {answer : o.Res} {s : EntryPool} {ip : String}
    (hrun : Path (EntrySystem c) (entryStart c source) (l ++ [.act i ⟨o, answer⟩]) s)
    (hip : ip ∈ o.writtenIps) :
    ∃ l₁ state l₂ s₁, l = l₁ ++ .act i (sourceEv c state) :: l₂ ∧
      Path (EntrySystem c) (entryStart c source) l₁ s₁ ∧ s₁.world.source = state ∧
      readSourceIp state = some ip ∧
      ((∀ state', .interfere state' ∉ l₂) → readSourceIp s.world.source = some ip) ∧
      (Path (SerialSystem c) (entryStart c source) (l ++ [.act i ⟨o, answer⟩]) s →
        ∀ j state', .act j (sourceEv c state') ∉ l₂) := by
  obtain ⟨state, t, hevents, hafter⟩ : ∃ state t, Pool.eventsOf i l = sourceEv c state :: t ∧
      ∀ e ∈ t ++ [⟨o, answer⟩], e.1.AfterRead (readSourceIp state) := by
    have hfirst := thread_reads_first (i := i) hrun
    rw [Pool.eventsOf_append, Pool.eventsOf_act] at hfirst
    rcases hfirst with hnone | ⟨state, t', hcons, hafter⟩
    · exact absurd hnone (by simp)
    rcases hl : Pool.eventsOf i l with - | ⟨e, t⟩
    · -- a reading writes nothing
      rw [hl, List.nil_append, List.cons.injEq] at hcons
      cases hcons.1
      cases hip
    · rw [hl, List.cons_append, List.cons.injEq] at hcons
      obtain ⟨rfl, rfl⟩ := hcons
      exact ⟨state, t, rfl, hafter⟩
  obtain ⟨l₁, l₂, rfl, hl₂⟩ := Pool.eventsOf_eq_cons hevents
  rw [List.append_assoc] at hrun
  obtain ⟨s₁, hbefore, hrest⟩ := path_append_iff.mp hrun
  obtain ⟨s₂, hread, hafterRead⟩ := path_cons_iff.mp hrest
  have hsource : s₁.world.source = state := source_of_read hread
  have hcarried : readSourceIp state = some ip := (hafter ⟨o, answer⟩ (by simp)).2 ip hip
  refine ⟨l₁, state, l₂, s₁, rfl, hbefore, hsource, hcarried, ?_, ?_⟩
  · intro hquiet
    have hsame : s.world.source = s₁.world.source := by
      apply source_frame hrest
      intro state' hmem
      simp only [List.cons_append, List.mem_cons, List.mem_append, reduceCtorEq, false_or,
        List.not_mem_nil, or_false] at hmem
      exact hquiet state' hmem
    rw [hsame, hsource]
    exact hcarried
  · intro hserial j state' hmem
    obtain ⟨m₁, m₂, rfl⟩ := List.append_of_mem hmem
    have hsplit : l₁ ++ .act i (sourceEv c state) :: (m₁ ++ .act j (sourceEv c state') :: m₂) ++
        [.act i ⟨o, answer⟩] = (l₁ ++ .act i (sourceEv c state) :: m₁) ++
          (.act j (sourceEv c state') :: m₂ ++ [.act i ⟨o, answer⟩]) := by simp
    rw [hsplit, path_append_iff] at hserial
    obtain ⟨s₃, h₁, h₂⟩ := hserial
    obtain rfl := Pool.eq_of_serial (alone_entryStart source) h₁
      (List.mem_append_right _ List.mem_cons_self) h₂
    -- it would be a second reading of the same refresh
    have hagain : sourceEv c state' ∈ t := by
      rw [← hl₂]
      exact Pool.mem_eventsOf_iff.mpr (by simp)
    exact (hafter _ (List.mem_append_left _ hagain)).1 _ rfl

/-- A replay of moves against the executable world. -/
theorem run_of_replay {source : Option String} {l : List EntryMove} {w : EntryWorld}
    (h : (Pool.replay (EntryWorld.serve c) (fun w state => some (w.change state))
      (laterRefresh c) (entryStart c source) l).map (·.world) = some w) :
    ∃ s, Path (EntrySystem c) (entryStart c source) l s ∧ s.world = w := by
  obtain ⟨s, hs, hworld⟩ := Option.map_eq_some_iff.mp h
  exact ⟨s, Pool.path_of_replay (fun _ _ _ => entryStep_serve)
    (fun _ _ _ h => (Option.some.inj h).symm) hs, hworld⟩

/-- The source changes while a refresh awaits the Rule List, and it then sends
the old IP; no other refresh is needed for that.  If another one is at work, it
may have written and verified the new IP before. -/
theorem stale_request_sent :
    let c : Coordinator := ⟨"e", "home", "acc", "list", "sensor.ip", 5, none, none⟩
    (∃ l s, Path (SerialSystem c) (entryStart c (some "198.51.100.1"))
        (l ++ [.act 0 (replaceEv c "198.51.100.1" (.ok "op"))]) s ∧
      readSourceIp s.world.source = some "203.0.113.7") ∧
    (∃ l s, Path (EntrySystem c) (entryStart c (some "192.0.2.1"))
        (l ++ [.act 1 (replaceEv c "198.51.100.1" (.ok "op2"))]) s ∧
      readSourceIp s.world.source = some "203.0.113.7" ∧
      .act 2 (replaceEv c "203.0.113.7" (.ok "op1")) ∈ l ∧
      .act 2 (readEv c (.ok [⟨"203.0.113.7", none, none⟩])) ∈ l ∧ .act 2 (stampEv (9 : ℕ)) ∈ l) := by
  intro c
  refine ⟨?_, ?_⟩
  · let l : List EntryMove :=
      [.act 0 (sourceEv c (some "198.51.100.1")),
        .act 0 (readEv c (.ok [⟨"192.0.2.1", none, none⟩])), .act 0 (issueEv c false),
        .interfere (some "203.0.113.7")]
    obtain ⟨s, hrun, hworld⟩ := @run_of_replay c (some "198.51.100.1")
      (l ++ [.act 0 (replaceEv c "198.51.100.1" (.ok "op"))])
      ⟨some "203.0.113.7", false, false, some (some "198.51.100.1"), false⟩ (by decide +kernel)
    refine ⟨l, s, Pool.serial_of_not_start hrun (by simp [l]), ?_⟩
    rw [hworld]
    decide +kernel
  · let l : List EntryMove :=
      [.act 0 (sourceEv c (some "192.0.2.1")),
        .act 0 (readEv c (.ok [⟨"192.0.2.1", none, none⟩])), .act 0 (issueEv c false),
        .act 0 (clearEv c), .act 0 (stampEv (9 : ℕ)), .act 0 ⟨.getLastSynced, some (9 : ℕ)⟩,
        .act 0 ⟨.setupListeners, ()⟩, .act 0 ⟨.forwardEntrySetups, ()⟩,
        .act 0 ⟨.addUpdateListener, ()⟩, .interfere (some "198.51.100.1"), .start,
        .act 1 (sourceEv c (some "198.51.100.1")),
        .act 1 (readEv c (.ok [⟨"192.0.2.1", none, none⟩])), .act 1 (issueEv c false),
        .interfere (some "203.0.113.7"), .start, .act 2 (sourceEv c (some "203.0.113.7")),
        .act 2 (readEv c (.ok [⟨"192.0.2.1", none, none⟩])), .act 2 (issueEv c false),
        .act 2 (replaceEv c "203.0.113.7" (.ok "op1")),
        .act 2 (pollEv c "op1" 0 (.ok ⟨"op1", "completed", none⟩)),
        .act 2 (readEv c (.ok [⟨"203.0.113.7", none, none⟩])), .act 2 (clearEv c),
        .act 2 (stampEv (9 : ℕ)), .act 2 ⟨.getLastSynced, some (9 : ℕ)⟩]
    obtain ⟨s, hrun, hworld⟩ := @run_of_replay c (some "192.0.2.1")
      (l ++ [.act 1 (replaceEv c "198.51.100.1" (.ok "op2"))])
      ⟨some "203.0.113.7", true, false, some (some "203.0.113.7"), true⟩ (by decide +kernel)
    refine ⟨l, s, hrun, ?_, by simp [l], by simp [l], by simp [l]⟩
    rw [hworld]
    decide +kernel

/-- The first refresh after a change of the source, alone. -/
theorem requests_carry_read_ip_alone :
    let c : Coordinator := ⟨"e", "home", "acc", "list", "sensor.ip", 5, none, none⟩
    let l : List EntryMove :=
      [.interfere (some "198.51.100.1"), .act 0 (sourceEv c (some "198.51.100.1")),
        .act 0 (readEv c (.ok [⟨"192.0.2.1", none, none⟩])), .act 0 (issueEv c false)]
    ∃ l₁ state l₂, l = l₁ ++ .act 0 (sourceEv c state) :: l₂ ∧
      readSourceIp state = some "198.51.100.1" ∧ ∀ j state', .act j (sourceEv c state') ∉ l₂ := by
  intro c l
  obtain ⟨s, hrun, -⟩ := @run_of_replay c (some "192.0.2.1")
    (l ++ [.act 0 (replaceEv c "198.51.100.1" (.ok "op"))])
    ⟨some "198.51.100.1", false, false, some (some "198.51.100.1"), false⟩ (by decide +kernel)
  have hwritten : "198.51.100.1" ∈
      (Action.replaceListItems c.accountId c.listId (replacement "198.51.100.1")).writtenIps :=
    List.mem_singleton_self _
  obtain ⟨l₁, state, l₂, s₁, hl, -, -, hip, -, hserial⟩ := requests_carry_read_ip hrun hwritten
  exact ⟨l₁, state, l₂, hl, hip, hserial (Pool.serial_of_not_start hrun (by simp [l]))⟩

end CloudflareIpSync
