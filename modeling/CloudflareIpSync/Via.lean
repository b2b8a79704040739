/-
CloudflareIpSync/Via.lean

Programs over programs.  The operations of a program may themselves be carried
out by runs of something else, with events of its own: by another program, or
by a loop that is none.  `Prog.Via` puts these runs together into the runs of
the program, as seen from below.
-/
import CloudflareIpSync.Prog

namespace Interact.Prog

variable {Op : Type} {Res : Op → Type} {ε α β : Type}
  {impl : (o : Op) → List ε → Res o → Prop} {t : List ε}

/-- The complete runs of a program whose operations are carried out by `impl`. -/
inductive Via (impl : (o : Op) → List ε → Res o → Prop) : Prog Op Res α → List ε → α → Prop
  | ret (a : α) : Via impl (ret a) [] a
  | op {o : Op} {k : Res o → Prog Op Res α} {t t' : List ε} {r : Res o} {a : α} :
      impl o t r → Via impl (k r) t' a → Via impl (op o k) (t ++ t') a

@[simp] theorem via_ret_iff {a b : α} : Via impl (ret a) t b ↔ t = [] ∧ b = a := by
  constructor
  · intro h
    cases h
    exact ⟨rfl, rfl⟩
  · rintro ⟨rfl, rfl⟩
    exact .ret b

theorem via_op_iff {o : Op} {k : Res o → Prog Op Res α} {b : α} :
    Via impl (op o k) t b ↔ ∃ t₁ r t₂, t = t₁ ++ t₂ ∧ impl o t₁ r ∧ Via impl (k r) t₂ b := by
  constructor
  · intro h
    cases h with
    | op himpl hrest => exact ⟨_, _, _, rfl, himpl, hrest⟩
  · rintro ⟨t₁, r, t₂, rfl, himpl, hrest⟩
    exact .op himpl hrest

/-- Programs of one operation. -/
theorem via_single_iff {o : Op} {f : Res o → α} {b : α} :
    Via impl (op o fun r => ret (f r)) t b ↔ ∃ r, impl o t r ∧ b = f r := by
  rw [via_op_iff]
  constructor
  · rintro ⟨t₁, r, t₂, rfl, himpl, h⟩
    obtain ⟨rfl, rfl⟩ := via_ret_iff.mp h
    rw [List.append_nil]
    exact ⟨r, himpl, rfl⟩
  · rintro ⟨r, himpl, rfl⟩
    exact ⟨t, r, [], (List.append_nil t).symm, himpl, .ret _⟩

theorem via_bind_iff {p : Prog Op Res α} {f : α → Prog Op Res β} {b : β} :
    Via impl (p >>= f) t b ↔
      ∃ t₁ a t₂, t = t₁ ++ t₂ ∧ Via impl p t₁ a ∧ Via impl (f a) t₂ b := by
  induction p generalizing t with
  | ret a =>
      rw [ret_bind]
      constructor
      · intro h
        exact ⟨[], a, t, rfl, .ret a, h⟩
      · rintro ⟨t₁, a', t₂, rfl, hret, h⟩
        obtain ⟨rfl, rfl⟩ := via_ret_iff.mp hret
        exact h
  | op o k ih =>
      rw [op_bind, via_op_iff]
      constructor
      · rintro ⟨t₁, r, t₂, rfl, himpl, h⟩
        obtain ⟨t₃, a, t₄, rfl, hp, hf⟩ := (ih r).mp h
        exact ⟨t₁ ++ t₃, a, t₄, (List.append_assoc _ _ _).symm, .op himpl hp, hf⟩
      · rintro ⟨t₁, a, t₂, rfl, hp, hf⟩
        obtain ⟨t₃, r, t₄, rfl, himpl, hrest⟩ := via_op_iff.mp hp
        exact ⟨t₃, r, t₄ ++ t₂, List.append_assoc _ _ _, himpl,
          (ih r).mpr ⟨t₄, a, t₂, rfl, hrest, hf⟩⟩

/-! ### Runs that are still under way -/

/-- Part of a run: the operations `done` were carried out, the program `p'`
remains, and its first operation may have begun, as `begun` has it. -/
inductive Begun (impl : (o : Op) → List ε → Res o → Prop) (begun : (o : Op) → List ε → Prop) :
    Prog Op Res α → List (Event Res) → Prog Op Res α → List ε → Prop
  | stop (p : Prog Op Res α) : Begun impl begun p [] p []
  | within {o : Op} {k : Res o → Prog Op Res α} {t : List ε} : begun o t →
      Begun impl begun (op o k) [] (op o k) t
  | op {o : Op} {k : Res o → Prog Op Res α} {r : Res o} {done : List (Event Res)}
      {p' : Prog Op Res α} {t t' : List ε} :
      impl o t r → Begun impl begun (k r) done p' t' →
      Begun impl begun (op o k) (⟨o, r⟩ :: done) p' (t ++ t')

/-- The events that carry out a list of operations with their answers. -/
inductive Carries (impl : (o : Op) → List ε → Res o → Prop) : List (Event Res) → List ε → Prop
  | nil : Carries impl [] []
  | cons {o : Op} {r : Res o} {done : List (Event Res)} {t t' : List ε} :
      impl o t r → Carries impl done t' → Carries impl (⟨o, r⟩ :: done) (t ++ t')

theorem carries_nil_iff : Carries impl [] t ↔ t = [] := by
  constructor
  · intro h
    cases h
    rfl
  · rintro rfl
    exact .nil

theorem carries_cons_iff {ev : Event Res} {done : List (Event Res)} :
    Carries impl (ev :: done) t ↔
      ∃ t₁ t₂, t = t₁ ++ t₂ ∧ impl ev.1 t₁ ev.2 ∧ Carries impl done t₂ := by
  constructor
  · intro h
    cases h with
    | cons himpl hrest => exact ⟨_, _, rfl, himpl, hrest⟩
  · rintro ⟨t₁, t₂, rfl, himpl, hrest⟩
    exact .cons himpl hrest

theorem carries_append_iff {done done' : List (Event Res)} :
    Carries impl (done ++ done') t ↔
      ∃ t₁ t₂, t = t₁ ++ t₂ ∧ Carries impl done t₁ ∧ Carries impl done' t₂ := by
  induction done generalizing t with
  | nil => simp [carries_nil_iff]
  | cons ev done ih =>
      rw [List.cons_append, carries_cons_iff]
      constructor
      · rintro ⟨t₁, t₂, rfl, himpl, hrest⟩
        obtain ⟨t₃, t₄, rfl, hdone, hdone'⟩ := ih.mp hrest
        exact ⟨t₁ ++ t₃, t₄, (List.append_assoc _ _ _).symm, .cons himpl hdone, hdone'⟩
      · rintro ⟨t₁, t₂, rfl, hfirst, hdone'⟩
        obtain ⟨t₃, t₄, rfl, himpl, hdone⟩ := carries_cons_iff.mp hfirst
        exact ⟨t₃, t₄ ++ t₂, List.append_assoc _ _ _, himpl, ih.mpr ⟨t₄, t₂, rfl, hdone, hdone'⟩⟩

/-- Every event carries out an operation. -/
theorem Carries.mem {done : List (Event Res)} {e : ε} (h : Carries impl done t) (he : e ∈ t) :
    ∃ ev ∈ done, ∃ t', impl ev.1 t' ev.2 ∧ e ∈ t' := by
  induction h with
  | nil => cases he
  | @cons o r done t t' himpl _ ih =>
      rcases List.mem_append.mp he with he | he
      · exact ⟨⟨o, r⟩, List.mem_cons_self, t, himpl, he⟩
      · obtain ⟨ev, hev, hcarried⟩ := ih he
        exact ⟨ev, List.mem_cons_of_mem _ hev, hcarried⟩

/-- **Refinement.** What is seen from below is a run of the program, carried
out. -/
theorem via_iff {p : Prog Op Res α} {a : α} :
    Via impl p t a ↔ ∃ done, p.Traces done a ∧ Carries impl done t := by
  constructor
  · intro h
    induction h with
    | ret a => exact ⟨[], traces_ret_iff.mpr ⟨rfl, rfl⟩, .nil⟩
    | op himpl _ ih =>
        obtain ⟨done, hdone, hcarries⟩ := ih
        exact ⟨_ :: done, traces_op_iff.mpr ⟨_, _, rfl, hdone⟩, .cons himpl hcarries⟩
  · rintro ⟨done, hdone, hcarries⟩
    induction done generalizing p t with
    | nil =>
        have hp : ret a = p := path_nil_iff.mp hdone
        rw [← hp, carries_nil_iff.mp hcarries]
        exact .ret a
    | cons ev done ih =>
        obtain ⟨p', hstep, hrest⟩ := path_cons_iff.mp hdone
        obtain ⟨t₁, t₂, rfl, himpl, hcarries'⟩ := carries_cons_iff.mp hcarries
        cases hstep with
        | op o k r => exact .op himpl (ih hrest hcarries')

variable {begun : (o : Op) → List ε → Prop} {p p' : Prog Op Res α} {done : List (Event Res)}
  {e : ε} {before after : List ε}

/-- Part of a run from where another one has come to. -/
theorem Carries.begun_append {p₁ : Prog Op Res α} {done' : List (Event Res)} {t' : List ε}
    (h : Carries impl done t) (hsteps : p.Steps done p₁) (hrest : Begun impl begun p₁ done' p' t') :
    Begun impl begun p (done ++ done') p' (t ++ t') := by
  induction h generalizing p with
  | nil =>
      rw [path_nil_iff.mp hsteps] at hrest
      exact hrest
  | cons himpl _ ih =>
      obtain ⟨p₂, hstep, hsteps⟩ := path_cons_iff.mp hsteps
      cases hstep with
      | op o k r =>
          rw [List.cons_append, List.append_assoc]
          exact .op himpl (ih hsteps)

/-- The event `e`, after the events `before`, belongs to an operation that `p`
has come to after some of the operations `done`: all of these were carried out
by then, and what followed belongs to the same operation. -/
def ComesFrom (impl : (o : Op) → List ε → Res o → Prop) (begun : (o : Op) → List ε → Prop)
    (p : Prog Op Res α) (done : List (Event Res)) (before : List ε) (e : ε) : Prop :=
  ∃ seen o k before' part rest, seen <+: done ∧ p.Steps seen (op o k) ∧
    Carries impl seen before' ∧ before = before' ++ part ∧
    (begun o (part ++ e :: rest) ∨ ∃ r, impl o (part ++ e :: rest) r)

/-- The operation at hand. -/
theorem comesFrom_op {o : Op} {k : Res o → Prog Op Res α} {rest : List ε}
    (h : begun o (before ++ e :: rest) ∨ ∃ r, impl o (before ++ e :: rest) r) :
    ComesFrom impl begun (op o k) done before e :=
  ⟨[], o, k, [], before, rest, List.nil_prefix, .nil _, .nil, rfl, h⟩

/-- An operation further on. -/
theorem ComesFrom.op {o : Op} {k : Res o → Prog Op Res α} {r : Res o}
    (h : ComesFrom impl begun (k r) done before e) (himpl : impl o t r) :
    ComesFrom impl begun (.op o k) (⟨o, r⟩ :: done) (t ++ before) e := by
  obtain ⟨seen, o', k', before', part, rest, hseen, hsteps, hcarries, rfl, hpart⟩ := h
  exact ⟨⟨o, r⟩ :: seen, o', k', t ++ before', part, rest, List.cons_prefix_cons.mpr ⟨rfl, hseen⟩,
    .cons (.op o k r) hsteps, .cons himpl hcarries, (List.append_assoc _ _ _).symm, hpart⟩

/-- Every event of a run comes from an operation. -/
theorem Begun.comesFrom (h : Begun impl begun p done p' (before ++ e :: after)) :
    ComesFrom impl begun p done before e := by
  generalize ht : before ++ e :: after = t at h
  induction h generalizing before with
  | stop p => simp at ht
  | within hbegun =>
      rw [← ht] at hbegun
      exact comesFrom_op (.inl hbegun)
  | @op o k r done p' t t' himpl hrest ih =>
      rcases List.append_eq_append_iff.mp ht with ⟨mid, rfl, hmid⟩ | ⟨mid, rfl, hmid⟩
      · rcases mid with - | ⟨e', mid⟩
        · -- the operation's events end right before the event
          have hfrom : ComesFrom impl begun (k r) done [] e := ih hmid
          simpa using hfrom.op himpl
        · obtain ⟨rfl, -⟩ := List.cons_eq_cons.mp hmid
          exact comesFrom_op (.inr ⟨r, himpl⟩)
      · exact (ih hmid.symm).op himpl

end Interact.Prog
