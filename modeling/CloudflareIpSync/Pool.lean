/-
CloudflareIpSync/Pool.lean

Many interactive programs at once, for any signature and any environment they
share.  At each moment one program performs its next operation, the
environment moves by itself, or one more program is started.

* `Pool.run_of_thread`: the events of one program in a run of the pool are a
  partial run of that program.
* `Pool.Serial`: the runs in which a program is started only when all before it
  have returned, so that there is at most one at work (`Pool.Alone`).
* `Pool.replay`: an executable check that a list of moves is a run.
-/
import CloudflareIpSync.Prog

namespace Interact

variable {Op : Type} {Res : Op → Type} {σ δ α : Type}

/-- What happens at one moment. -/
inductive Move (Res : Op → Type) (δ : Type)
  | act (i : ℕ) (e : Event Res)
  | interfere (d : δ)
  | start

/-- The state of the environment and the programs at work, in the order in
which they were started. -/
structure Pool (Res : Op → Type) (σ α : Type) where
  world : σ
  threads : List (Prog Op Res α)

namespace Pool

section Steps

variable (E : σ → Event Res → σ → Prop) (D : σ → δ → σ → Prop) (p : Prog Op Res α)

/-- One move of a pool: `E` says how the environment answers, `D` how it moves
by itself, and `p` is the program that may be started. -/
inductive Step : Pool Res σ α → Move Res δ → Pool Res σ α → Prop
  | act {w w' : σ} {threads : List (Prog Op Res α)} {i : ℕ} {q q' : Prog Op Res α}
      {e : Event Res} : threads[i]? = some q → q.Step e q' → E w e w' →
      Step ⟨w, threads⟩ (.act i e) ⟨w', threads.set i q'⟩
  | interfere {w w' : σ} {threads : List (Prog Op Res α)} {d : δ} : D w d w' →
      Step ⟨w, threads⟩ (.interfere d) ⟨w', threads⟩
  | start {w : σ} {threads : List (Prog Op Res α)} :
      Step ⟨w, threads⟩ .start ⟨w, threads ++ [p]⟩

/-- A move that starts a program only when all before it have returned. -/
def Serial (s : Pool Res σ α) (b : Move Res δ) (s' : Pool Res σ α) : Prop :=
  Step E D p s b s' ∧ ∀ q ∈ s.threads, b = .start → ∃ a, q = .ret a

end Steps

variable {E : σ → Event Res → σ → Prop} {D : σ → δ → σ → Prop} {p : Prog Op Res α}
  {s s' : Pool Res σ α} {b : Move Res δ} {l : List (Move Res δ)} {i : ℕ} {e : Event Res}

/-! ### One program of the pool -/

/-- The event of a move, if it is one of program `i`. -/
def eventOf (i : ℕ) : Move Res δ → Option (Event Res)
  | .act j e => if j = i then some e else none
  | _ => none

/-- The events of program `i`. -/
def eventsOf (i : ℕ) (l : List (Move Res δ)) : List (Event Res) := l.filterMap (eventOf i)

theorem eventOf_eq_some_iff {b : Move Res δ} : eventOf i b = some e ↔ b = .act i e := by
  cases b with
  | act j e' =>
      by_cases hj : j = i
      · simp [eventOf, hj]
      · simp [eventOf, hj]
  | interfere | start => simp [eventOf]

@[simp] theorem eventsOf_append (l₁ l₂ : List (Move Res δ)) :
    eventsOf i (l₁ ++ l₂) = eventsOf i l₁ ++ eventsOf i l₂ :=
  List.filterMap_append

@[simp] theorem eventsOf_act : eventsOf i [(.act i e : Move Res δ)] = [e] := by
  simp [eventsOf, eventOf]

theorem mem_eventsOf_iff : e ∈ eventsOf i l ↔ .act i e ∈ l := by
  simp [eventsOf, eventOf_eq_some_iff]

/-- The first event of a program, and what it did afterwards. -/
theorem eventsOf_eq_cons {t : List (Event Res)} (h : eventsOf i l = e :: t) :
    ∃ l₁ l₂, l = l₁ ++ .act i e :: l₂ ∧ eventsOf i l₂ = t := by
  obtain ⟨l₁, b, l₂, rfl, -, hb, ht⟩ := List.filterMap_eq_cons_iff.mp h
  rw [eventOf_eq_some_iff] at hb
  rw [hb]
  exact ⟨l₁, l₂, rfl, ht⟩

/-- One move, seen from program `i`: it takes a step of its own, it does not
move, or it is started. -/
theorem Step.thread (h : Step E D p s b s') {q' : Prog Op Res α}
    (hi : s'.threads[i]? = some q') :
    (∃ q, s.threads[i]? = some q ∧ q.Steps (eventsOf i [b]) q') ∨
      (s.threads.length ≤ i ∧ q' = p ∧ eventsOf i [b] = []) := by
  cases h with
  | @act w w' threads j q q'' e hj hstep _ =>
      dsimp only at hi ⊢
      by_cases hji : j = i
      · -- its own step
        subst hji
        rw [List.getElem?_set_self (List.getElem?_eq_some_iff.mp hj).1, Option.some.injEq] at hi
        rw [← hi, eventsOf_act]
        exact .inl ⟨q, hj, .single hstep⟩
      · rw [List.getElem?_set_ne hji] at hi
        have hnone : eventsOf i [(.act j e : Move Res δ)] = [] := by simp [eventsOf, eventOf, hji]
        rw [hnone]
        exact .inl ⟨q', hi, .nil q'⟩
  | interfere => exact .inl ⟨q', hi, .nil q'⟩
  | @start w threads =>
      dsimp only at hi ⊢
      by_cases hlt : i < threads.length
      · rw [List.getElem?_append_left hlt] at hi
        exact .inl ⟨q', hi, .nil q'⟩
      · -- it is the one just started
        have hle : threads.length ≤ i := Nat.not_lt.mp hlt
        rw [List.getElem?_append_right hle] at hi
        have hmem := List.mem_of_getElem? hi
        exact .inr ⟨hle, List.mem_singleton.mp hmem, rfl⟩

/-- A program that does not exist yet has done nothing. -/
theorem Step.absent (h : Step E D p s b s') (hi : s'.threads.length ≤ i) :
    s.threads.length ≤ i ∧ eventsOf i [b] = [] := by
  cases h with
  | @act w w' threads j q q' e hj _ _ =>
      rw [List.length_set] at hi
      have hlt := (List.getElem?_eq_some_iff.mp hj).1
      have hne : j ≠ i := by omega
      exact ⟨hi, by simp [eventsOf, eventOf, hne]⟩
  | interfere => exact ⟨hi, rfl⟩
  | @start w threads =>
      rw [List.length_append] at hi
      exact ⟨Nat.le_trans (Nat.le_add_right _ _) hi, rfl⟩

/-- **Projection.** In a run of a pool, the events of program `i` are a partial
run of it: of the program it was at the start, or of one started since. -/
theorem run_of_thread (h : Path (Step E D p) s l s') :
    (∀ q', s'.threads[i]? = some q' →
      (∃ q, s.threads[i]? = some q ∧ q.Steps (eventsOf i l) q') ∨ p.Steps (eventsOf i l) q') ∧
      (s'.threads.length ≤ i → s.threads.length ≤ i ∧ eventsOf i l = []) := by
  let I (l : List (Move Res δ)) (s' : Pool Res σ α) : Prop :=
    (∀ q', s'.threads[i]? = some q' →
      (∃ q, s.threads[i]? = some q ∧ q.Steps (eventsOf i l) q') ∨ p.Steps (eventsOf i l) q') ∧
      (s'.threads.length ≤ i → s.threads.length ≤ i ∧ eventsOf i l = [])
  show I l s'
  apply h.history
  · exact ⟨fun q' hi => .inl ⟨q', hi, .nil q'⟩, fun hi => ⟨hi, rfl⟩⟩
  · rintro l s₁ b s₂ ⟨hrun, habsent⟩ hstep
    refine ⟨?_, ?_⟩
    · intro q' hi
      rw [eventsOf_append]
      rcases hstep.thread hi with ⟨q, hq, hsteps⟩ | ⟨hlen, rfl, hnone⟩
      · -- it was there before: its run so far goes on
        exact (hrun q hq).imp (fun ⟨q₀, hq₀, h₀⟩ => ⟨q₀, hq₀, h₀.append hsteps⟩)
          fun h₀ => h₀.append hsteps
      · rw [hnone, (habsent hlen).2]
        exact .inr (.nil _)
    · intro hi
      obtain ⟨hlen, hnone⟩ := hstep.absent hi
      rw [eventsOf_append, hnone, (habsent hlen).2]
      exact ⟨(habsent hlen).1, rfl⟩

/-! ### Programs one at a time -/

/-- The program has not returned yet. -/
def Working (q : Prog Op Res α) : Prop := ∀ a, q ≠ .ret a

/-- At most one program has not returned yet. -/
def Alone (s : Pool Res σ α) : Prop :=
  ∀ (i j : ℕ) (q r : Prog Op Res α), s.threads[i]? = some q → s.threads[j]? = some r →
    Working q → Working r → i = j

/-- A program at work was at work before, unless it has just been started. -/
theorem Step.working (h : Step E D p s b s') {q' : Prog Op Res α}
    (hi : s'.threads[i]? = some q') (hwork : Working q') :
    (∃ q, s.threads[i]? = some q ∧ Working q) ∨ (b = .start ∧ i = s.threads.length) := by
  cases h with
  | @act w w' threads j q q'' e hj hstep _ =>
      dsimp only at hi ⊢
      by_cases hji : j = i
      · subst hji
        refine .inl ⟨q, hj, ?_⟩
        rintro a rfl
        exact Prog.not_step_ret hstep
      · rw [List.getElem?_set_ne hji] at hi
        exact .inl ⟨q', hi, hwork⟩
  | interfere => exact .inl ⟨q', hi, hwork⟩
  | @start w threads =>
      dsimp only at hi ⊢
      by_cases hlt : i < threads.length
      · rw [List.getElem?_append_left hlt] at hi
        exact .inl ⟨q', hi, hwork⟩
      · have hle : i < (threads ++ [p]).length := (List.getElem?_eq_some_iff.mp hi).1
        rw [List.length_append, List.length_singleton] at hle
        exact .inr ⟨rfl, by omega⟩

theorem Step.length_le (h : Step E D p s b s') : s.threads.length ≤ s'.threads.length := by
  cases h with
  | act => simp
  | interfere => simp
  | start => simp

theorem Serial.alone (h : Serial E D p s b s') (hs : Alone s) : Alone s' := by
  obtain ⟨hstep, hstart⟩ := h
  have returned : ∀ {k : ℕ} {u : Prog Op Res α}, b = .start → s.threads[k]? = some u →
      ¬ Working u := by
    intro k u hb hk hwork
    obtain ⟨a, ha⟩ := hstart u (List.mem_of_getElem? hk) hb
    exact hwork a ha
  rintro i j q r hi hj hq hr
  -- two that were at work before are the same; a new one starts among returned ones
  rcases hstep.working hi hq with ⟨q₀, hi₀, hq₀⟩ | ⟨hb, rfl⟩
  · rcases hstep.working hj hr with ⟨r₀, hj₀, hr₀⟩ | ⟨hb, rfl⟩
    · exact hs i j q₀ r₀ hi₀ hj₀ hq₀ hr₀
    · exact absurd hq₀ (returned hb hi₀)
  · rcases hstep.working hj hr with ⟨r₀, hj₀, hr₀⟩ | ⟨-, rfl⟩
    · exact absurd hr₀ (returned hb hj₀)
    · rfl

/-- The program of an event is at work just before it. -/
theorem thread_of_act (h : Step E D p s (.act i e) s') :
    ∃ q, s.threads[i]? = some q ∧ Working q := by
  cases h with
  | @act _ _ _ _ q _ _ hi hstep _ =>
      refine ⟨q, hi, ?_⟩
      rintro a rfl
      exact Prog.not_step_ret hstep

/-- A program that acts later is at work now, if it has been started. -/
theorem working_of_later (h : Path (Step E D p) s (l ++ [.act i e]) s')
    (hi : i < s.threads.length) : ∃ q, s.threads[i]? = some q ∧ Working q := by
  induction l generalizing s with
  | nil =>
      obtain ⟨_, hstep, -⟩ := path_cons_iff.mp h
      exact thread_of_act hstep
  | cons b l ih =>
      rw [List.cons_append, path_cons_iff] at h
      obtain ⟨s₁, hstep, h⟩ := h
      obtain ⟨q', hq', hwork⟩ := ih h (Nat.lt_of_lt_of_le hi hstep.length_le)
      rcases hstep.working hq' hwork with hbefore | ⟨-, rfl⟩
      · exact hbefore
      · exact absurd hi (Nat.lt_irrefl _)

/-- A program that has acted has been started. -/
theorem lt_length_of_mem (h : Path (Step E D p) s l s') (hmem : .act i e ∈ l) :
    i < s'.threads.length := by
  by_contra hle
  have hnone := ((run_of_thread h).2 (Nat.not_lt.mp hle)).2
  have hin : e ∈ eventsOf i l := mem_eventsOf_iff.mpr hmem
  rw [hnone] at hin
  exact absurd hin List.not_mem_nil

theorem Serial.path (h : Path (Serial E D p) s l s') : Path (Step E D p) s l s' :=
  h.mono fun _ _ _ hstep => hstep.1

/-- A run that starts no program is serial. -/
theorem serial_of_not_start (h : Path (Step E D p) s l s') (hl : .start ∉ l) :
    Path (Serial E D p) s l s' := by
  induction h with
  | nil => exact .nil _
  | @cons _ _ _ b l hb _ ih =>
      rw [List.mem_cons, not_or] at hl
      refine .cons ⟨hb, ?_⟩ (ih hl.2)
      intro _ _ hstart
      exact absurd hstart.symm hl.1

/-- **One at a time.** In a serial run no other program acts between two events
of one program. -/
theorem eq_of_serial {s₁ : Pool Res σ α} {l₁ l₂ : List (Move Res δ)} {j : ℕ}
    {e₁ e₂ e₃ : Event Res} (hs : Alone s) (h₁ : Path (Serial E D p) s l₁ s₁)
    (hmem : .act i e₁ ∈ l₁)
    (h₂ : Path (Serial E D p) s₁ (.act j e₂ :: l₂ ++ [.act i e₃]) s') : i = j := by
  have halone : Alone s₁ := h₁.preserves hs fun _ _ _ _ halone hstep => hstep.alone halone
  have hi : i < s₁.threads.length := lt_length_of_mem (Serial.path h₁) hmem
  obtain ⟨q, hq, hqwork⟩ := working_of_later (Serial.path h₂) hi
  obtain ⟨_, hstep, -⟩ := path_cons_iff.mp h₂
  obtain ⟨r, hr, hrwork⟩ := thread_of_act hstep.1
  exact halone i j q r hq hr hqwork hrwork

/-! ### Checking a run -/

section Replay

variable [DecidableEq Op]

/-- One move of a deterministic environment, if the move is possible. -/
def next (answer : σ → Event Res → Option σ) (interfere : σ → δ → Option σ) (p : Prog Op Res α)
    (s : Pool Res σ α) : Move Res δ → Option (Pool Res σ α)
  | .act i e =>
      match s.threads[i]? with
      | some (.op o k) =>
          if h : e.1 = o then (answer s.world e).map fun w => ⟨w, s.threads.set i (k (h ▸ e.2))⟩
          else none
      | _ => none
  | .interfere d => (interfere s.world d).map fun w => ⟨w, s.threads⟩
  | .start => some ⟨s.world, s.threads ++ [p]⟩

/-- The pool after a list of moves, if it is a run. -/
def replay (answer : σ → Event Res → Option σ) (interfere : σ → δ → Option σ)
    (p : Prog Op Res α) : Pool Res σ α → List (Move Res δ) → Option (Pool Res σ α)
  | s, [] => some s
  | s, b :: l => (next answer interfere p s b).bind fun s' => replay answer interfere p s' l

variable {answer : σ → Event Res → Option σ} {interfere : σ → δ → Option σ}

theorem step_of_next (hE : ∀ w e w', answer w e = some w' → E w e w')
    (hD : ∀ w d w', interfere w d = some w' → D w d w')
    (h : next answer interfere p s b = some s') : Step E D p s b s' := by
  obtain ⟨w, threads⟩ := s
  cases b with
  | act i e =>
      obtain ⟨o, r⟩ := e
      unfold next at h
      dsimp only at h
      split at h
      · rename_i o' k hi
        by_cases ho : o = o'
        · subst ho
          rw [dif_pos rfl] at h
          obtain ⟨w', hw', rfl⟩ := Option.map_eq_some_iff.mp h
          exact .act hi (.op o k r) (hE w _ w' hw')
        · rw [dif_neg ho] at h
          cases h
      · cases h
  | interfere d =>
      obtain ⟨w', hw', rfl⟩ := Option.map_eq_some_iff.mp h
      exact .interfere (hD w d w' hw')
  | start =>
      cases h
      exact .start

/-- A run checked by evaluating it. -/
theorem path_of_replay (hE : ∀ w e w', answer w e = some w' → E w e w')
    (hD : ∀ w d w', interfere w d = some w' → D w d w')
    (h : replay answer interfere p s l = some s') : Path (Step E D p) s l s' := by
  induction l generalizing s with
  | nil =>
      cases h
      exact .nil _
  | cons b l ih =>
      obtain ⟨s₁, hnext, h⟩ := Option.bind_eq_some_iff.mp h
      exact .cons (step_of_next hE hD hnext) (ih h)

end Replay

end Pool

end Interact
