/-
CloudflareIpSync/Dispatch.lean

Programs that a controller starts, for any controller, any signature and any
environment.  The controller moves by its own relation, and at any moment it may
start a program that its state allows.  The programs share one environment, as
those of a `Pool` do; but what is started changes as the controller moves.

* `Dispatcher.control_path`: the moves of the controller are a run of it.
* `Dispatcher.run_of_thread`: the events of one program are a partial run of a
  program that the controller started in a state it went through (`Started`).
-/
import CloudflareIpSync.Prog

namespace Interact

variable {Op : Type} {Res : Op → Type} {κ γ ω σ α : Type}

/-- A controller: how it moves, which programs it may start on which orders, and
the environment of these programs, that answers them and moves by itself. -/
structure Dispatcher (κ γ ω : Type) (Res : Op → Type) (σ α : Type) where
  Control : κ → γ → κ → Prop
  Starts : κ → ω → Prog Op Res α → Prop
  Answers : σ → Event Res → σ → Prop
  Drifts : σ → σ → Prop

namespace Dispatcher

/-- What happens at one moment. -/
inductive Move (Res : Op → Type) (γ ω : Type)
  | control (b : γ)
  | start (o : ω)
  | act (i : ℕ) (e : Event Res)
  | drift

/-- The states of the controller and of the environment, and the programs in the
order in which they were started. -/
structure State (κ : Type) (Res : Op → Type) (σ α : Type) where
  control : κ
  world : σ
  threads : List (Prog Op Res α)

/-- One move. -/
inductive Step (d : Dispatcher κ γ ω Res σ α) :
    State κ Res σ α → Move Res γ ω → State κ Res σ α → Prop
  | control {k k' : κ} {w : σ} {threads : List (Prog Op Res α)} {b : γ} : d.Control k b k' →
      Step d ⟨k, w, threads⟩ (.control b) ⟨k', w, threads⟩
  | start {k : κ} {w : σ} {threads : List (Prog Op Res α)} {o : ω} {p : Prog Op Res α} :
      d.Starts k o p → Step d ⟨k, w, threads⟩ (.start o) ⟨k, w, threads ++ [p]⟩
  | act {k : κ} {w w' : σ} {threads : List (Prog Op Res α)} {i : ℕ} {q q' : Prog Op Res α}
      {e : Event Res} : threads[i]? = some q → q.Step e q' → d.Answers w e w' →
      Step d ⟨k, w, threads⟩ (.act i e) ⟨k, w', threads.set i q'⟩
  | drift {k : κ} {w w' : σ} {threads : List (Prog Op Res α)} : d.Drifts w w' →
      Step d ⟨k, w, threads⟩ .drift ⟨k, w', threads⟩

/-! ### The parts of a run -/

/-- The event of a move, if it is one of program `i`. -/
def Move.eventOf (i : ℕ) : Move Res γ ω → Option (Event Res)
  | act j e => if j = i then some e else none
  | _ => none

/-- The events of program `i`. -/
def eventsOf (i : ℕ) (l : List (Move Res γ ω)) : List (Event Res) := l.filterMap (·.eventOf i)

/-- The move of the controller. -/
def Move.controlOf : Move Res γ ω → Option γ
  | control b => some b
  | _ => none

/-- The moves of the controller. -/
def controls (l : List (Move Res γ ω)) : List γ := l.filterMap Move.controlOf

variable {d : Dispatcher κ γ ω Res σ α} {s s' : State κ Res σ α} {b : Move Res γ ω}
  {l l' : List (Move Res γ ω)} {i : ℕ} {e : Event Res}

@[simp] theorem eventsOf_append : eventsOf i (l ++ l') = eventsOf i l ++ eventsOf i l' :=
  List.filterMap_append

@[simp] theorem controls_append : controls (l ++ l') = controls l ++ controls l' :=
  List.filterMap_append

@[simp] theorem eventsOf_act : eventsOf i [(.act i e : Move Res γ ω)] = [e] := by
  simp [eventsOf, Move.eventOf]

theorem mem_eventsOf_iff : e ∈ eventsOf i l ↔ .act i e ∈ l := by
  have heventOf : ∀ b : Move Res γ ω, b.eventOf i = some e ↔ b = .act i e := by
    intro b
    cases b with
    | act j e' =>
        by_cases hj : j = i
        · simp [Move.eventOf, hj]
        · simp [Move.eventOf, hj]
    | control | start | drift => simp [Move.eventOf]
  simp [eventsOf, heventOf]

theorem control_path (h : Path d.Step s l s') :
    Path d.Control s.control (controls l) s'.control := by
  induction h with
  | nil => exact .nil _
  | cons hb _ ih =>
      cases hb with
      | control hcontrol => exact .cons hcontrol ih
      | start | act | drift => exact ih

/-! ### One program -/

/-- In this run, program `i` was started as `p`, on the order `o`, by the
controller in the state `k`. -/
def Started (d : Dispatcher κ γ ω Res σ α) (s : State κ Res σ α) (l : List (Move Res γ ω))
    (s' : State κ Res σ α) (i : ℕ) (k : κ) (o : ω) (p : Prog Op Res α) : Prop :=
  ∃ l₁ l₂ s₁, l = l₁ ++ .start o :: l₂ ∧ Path d.Step s l₁ s₁ ∧
    Path d.Step s₁ (.start o :: l₂) s' ∧ s₁.threads.length = i ∧ s₁.control = k ∧ d.Starts k o p

section Started

variable {s'' : State κ Res σ α} {k : κ} {o : ω} {p : Prog Op Res α}

theorem Started.snoc (h : d.Started s l s' i k o p) (hb : d.Step s' b s'') :
    d.Started s (l ++ [b]) s'' i k o p := by
  obtain ⟨l₁, l₂, s₁, rfl, h₁, h₂, hrest⟩ := h
  refine ⟨l₁, l₂ ++ [b], s₁, ?_, h₁, ?_, hrest⟩
  · rw [List.append_assoc, List.cons_append]
  · exact h₂.append (.single hb)

/-- The controller went through the state that the program was started in. -/
theorem Started.control (h : d.Started s l s' i k o p) :
    ∃ bs bs', controls l = bs ++ bs' ∧ Path d.Control s.control bs k ∧
      Path d.Control k bs' s'.control := by
  obtain ⟨l₁, l₂, s₁, rfl, h₁, h₂, -, rfl, -⟩ := h
  exact ⟨controls l₁, controls (.start o :: l₂), controls_append, control_path h₁,
    control_path h₂⟩

end Started

/-- A program that does not exist yet has done nothing. -/
theorem Step.absent (h : d.Step s b s') (hi : s'.threads.length ≤ i) :
    s.threads.length ≤ i ∧ eventsOf i [b] = [] := by
  cases h with
  | control | drift => exact ⟨hi, rfl⟩
  | start =>
      rw [List.length_append] at hi
      exact ⟨Nat.le_trans (Nat.le_add_right _ _) hi, rfl⟩
  | @act _ _ _ threads j _ _ _ hj _ _ =>
      rw [List.length_set] at hi
      have hlt := (List.getElem?_eq_some_iff.mp hj).1
      have hne : j ≠ i := by omega
      exact ⟨hi, by simp [eventsOf, Move.eventOf, hne]⟩

/-- One move, seen from program `i`: it takes a step of its own, it does not
move, or it is started. -/
theorem Step.thread (h : d.Step s b s') {q' : Prog Op Res α} (hi : s'.threads[i]? = some q') :
    (∃ q, s.threads[i]? = some q ∧ q.Steps (eventsOf i [b]) q') ∨
      ∃ o, b = .start o ∧ s.threads.length = i ∧ d.Starts s.control o q' := by
  cases h with
  | control | drift => exact .inl ⟨q', hi, .nil q'⟩
  | @start k w threads o p hstarts =>
      dsimp only at hi ⊢
      rcases Nat.lt_trichotomy i threads.length with hlt | rfl | hgt
      · rw [List.getElem?_append_left hlt] at hi
        exact .inl ⟨q', hi, .nil q'⟩
      · -- it is the one just started
        rw [List.getElem?_concat_length, Option.some.injEq] at hi
        exact .inr ⟨o, rfl, rfl, hi ▸ hstarts⟩
      · have hnone : (threads ++ [p])[i]? = none := by
          apply List.getElem?_eq_none
          rw [List.length_append, List.length_singleton]
          omega
        rw [hnone] at hi
        cases hi
  | @act k w w' threads j q q'' e hj hstep _ =>
      dsimp only at hi ⊢
      by_cases hji : j = i
      · -- its own step
        subst hji
        rw [List.getElem?_set_self (List.getElem?_eq_some_iff.mp hj).1, Option.some.injEq] at hi
        rw [← hi, eventsOf_act]
        exact .inl ⟨q, hj, .single hstep⟩
      · rw [List.getElem?_set_ne hji] at hi
        have hnone : eventsOf i [(.act j e : Move Res γ ω)] = [] := by
          simp [eventsOf, Move.eventOf, hji]
        rw [hnone]
        exact .inl ⟨q', hi, .nil q'⟩

/-- **Projection.** In a run that begins without programs, the events of program
`i` are a partial run of the program that it was started as. -/
theorem run_of_thread (h : Path d.Step s l s') (hs : s.threads = []) :
    (∀ q', s'.threads[i]? = some q' →
      ∃ k o p, d.Started s l s' i k o p ∧ p.Steps (eventsOf i l) q') ∧
      (s'.threads.length ≤ i → eventsOf i l = []) := by
  let I (l : List (Move Res γ ω)) (s' : State κ Res σ α) : Prop :=
    Path d.Step s l s' ∧
      (∀ q', s'.threads[i]? = some q' →
        ∃ k o p, d.Started s l s' i k o p ∧ p.Steps (eventsOf i l) q') ∧
      (s'.threads.length ≤ i → eventsOf i l = [])
  have hinv : I l s' := by
    apply h.history
    · refine ⟨.nil s, ?_, fun _ => rfl⟩
      intro q' hi
      rw [hs] at hi
      cases hi
    · intro l s₁ b s₂ hI hstep
      obtain ⟨hpath, hrun, habsent⟩ := hI
      refine ⟨path_snoc_iff.mpr ⟨s₁, hpath, hstep⟩, ?_, ?_⟩
      · intro q' hi
        rw [eventsOf_append]
        rcases hstep.thread hi with ⟨q, hq, hsteps⟩ | ⟨o, rfl, hlen, hstarts⟩
        · -- it was there before: its run so far goes on
          obtain ⟨k, o, p, hstarted, h₀⟩ := hrun q hq
          exact ⟨k, o, p, hstarted.snoc hstep, h₀.append hsteps⟩
        · refine ⟨s₁.control, o, q', ⟨l, [], s₁, rfl, hpath, .single hstep, hlen, rfl, hstarts⟩, ?_⟩
          rw [habsent (Nat.le_of_eq hlen)]
          exact .nil q'
      · intro hi
        obtain ⟨hle, hnone⟩ := hstep.absent hi
        rw [eventsOf_append, habsent hle, hnone]
        rfl
  exact hinv.2

/-- A program that has acted was started. -/
theorem started_of_act (h : Path d.Step s l s') (hs : s.threads = []) (hmem : .act i e ∈ l) :
    ∃ k o p q', d.Started s l s' i k o p ∧ p.Steps (eventsOf i l) q' := by
  have hlt : i < s'.threads.length := by
    by_contra hle
    have hin : e ∈ eventsOf i l := mem_eventsOf_iff.mpr hmem
    rw [(run_of_thread h hs).2 (Nat.not_lt.mp hle)] at hin
    exact absurd hin List.not_mem_nil
  obtain ⟨k, o, p, hstarted, hsteps⟩ :=
    (run_of_thread h hs).1 _ (List.getElem?_eq_getElem hlt)
  exact ⟨k, o, p, _, hstarted, hsteps⟩

/-- A program can go on while nothing else happens. -/
theorem path_acts {k : κ} {w w' : σ} {threads : List (Prog Op Res α)} {q q' : Prog Op Res α}
    {t : List (Event Res)} (hi : threads[i]? = some q) (h : q.Steps t q')
    (hw : Path d.Answers w t w') :
    Path d.Step ⟨k, w, threads⟩ (t.map (.act i)) ⟨k, w', threads.set i q'⟩ := by
  induction h generalizing w threads with
  | nil q =>
      obtain ⟨hlt, rfl⟩ := List.getElem?_eq_some_iff.mp hi
      rw [path_nil_iff.mp hw, List.set_getElem_self]
      exact .nil _
  | @cons q q₁ q' e t hstep _ ih =>
      obtain ⟨w₁, he, ht⟩ := path_cons_iff.mp hw
      have hlt := (List.getElem?_eq_some_iff.mp hi).1
      have hrest := ih (List.getElem?_set_self hlt) ht
      rw [List.set_set] at hrest
      exact .cons (.act hi hstep he) hrest

end Dispatcher

end Interact
