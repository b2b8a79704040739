/-
CloudflareIpSync/Relabel.lean

Programs whose operations are all answered in one type, with other operations
put in their places.

`Prog.relabel f p` performs `f o` where `p` performs `o`, and goes on with the
answer as `p` does.  Its runs are the runs of `p`, relabelled
(`steps_relabel_iff`, `traces_relabel_iff`), and so are the runs of loops
(`loopRun_relabel_iff`, `loopSteps_relabel_iff`) and of programs whose
operations are carried out by relabelled runs (`carries_map_iff`,
`begun_map_iff`).
-/
import CloudflareIpSync.Deadline
import CloudflareIpSync.Via

namespace Interact

variable {Op Op' R σ ε α β : Type}

namespace Prog

/-- The program with `f o` in the place of each operation `o`. -/
def relabel (f : Op → Op') : Prog Op (fun _ => R) α → Prog Op' (fun _ => R) α
  | ret a => ret a
  | op o k => op (f o) fun r => (k r).relabel f

/-- An event of the relabelled program. -/
def relabelEvent (f : Op → Op') (e : Event fun _ : Op => R) : Event fun _ : Op' => R := ⟨f e.1, e.2⟩

variable {f : Op → Op'} {p : Prog Op (fun _ => R) α} {q : Prog Op' (fun _ => R) α}
  {t : List (Event fun _ : Op' => R)} {a : α}

theorem relabel_bind {f : Op → Op'} {p : Prog Op (fun _ => R) α}
    {g : α → Prog Op (fun _ => R) β} :
    (p >>= g).relabel f = p.relabel f >>= fun a => (g a).relabel f := by
  induction p with
  | ret a => rfl
  | op o k ih =>
      show op (f o) _ = op (f o) _
      congr 1
      funext r
      exact ih r

/-- A step of the relabelled program is a step of the program. -/
theorem step_relabel_iff {e : Event fun _ : Op' => R} :
    Step (p.relabel f) e q ↔ ∃ e' p', Step p e' p' ∧ e = relabelEvent f e' ∧ q = p'.relabel f := by
  constructor
  · intro h
    cases p with
    | ret a => cases h
    | op o k =>
        obtain ⟨r, rfl, rfl⟩ := step_op_iff.mp h
        exact ⟨⟨o, r⟩, k r, step_op_iff.mpr ⟨r, rfl, rfl⟩, rfl, rfl⟩
  · rintro ⟨e', p', h, rfl, rfl⟩
    cases h with
    | op o k r => exact step_op_iff.mpr ⟨r, rfl, rfl⟩

theorem steps_relabel_iff :
    (p.relabel f).Steps t q ↔ ∃ t' p', p.Steps t' p' ∧ t = t'.map (relabelEvent f) ∧
      q = p'.relabel f := by
  constructor
  · intro h
    induction t generalizing p with
    | nil => exact ⟨[], p, .nil p, rfl, path_nil_iff.mp h⟩
    | cons e t ih =>
        obtain ⟨q', hstep, hrest⟩ := path_cons_iff.mp h
        obtain ⟨e', p', hstep', rfl, rfl⟩ := step_relabel_iff.mp hstep
        obtain ⟨t', p'', hrest', rfl, rfl⟩ := ih hrest
        exact ⟨e' :: t', p'', .cons hstep' hrest', rfl, rfl⟩
  · rintro ⟨t', p', h, rfl, rfl⟩
    induction h with
    | nil => exact .nil _
    | cons hstep _ ih => exact .cons (step_relabel_iff.mpr ⟨_, _, hstep, rfl, rfl⟩) ih

theorem relabel_eq_ret_iff : p.relabel f = ret a ↔ p = ret a := by
  cases p with
  | ret b => simp [relabel]
  | op o k => simp [relabel]

theorem traces_relabel_iff :
    (p.relabel f).Traces t a ↔ ∃ t', p.Traces t' a ∧ t = t'.map (relabelEvent f) := by
  rw [Traces, steps_relabel_iff]
  constructor
  · rintro ⟨t', p', h, rfl, hret⟩
    rw [relabel_eq_ret_iff.mp hret.symm] at h
    exact ⟨t', h, rfl⟩
  · rintro ⟨t', h, rfl⟩
    exact ⟨t', ret a, h, rfl, rfl⟩

end Prog

/-! ### Loops -/

section Loops

variable {f : Op → Op'} {body : σ → Prog Op (fun _ => R) (Except ε (σ ⊕ α))}
  {body' : σ → Prog Op' (fun _ => R) (Except ε (σ ⊕ α))} {s : σ}
  {t : List (Event fun _ : Op' => R)} {out : Except ε α}

theorem loopRun_relabel_iff (hbody : ∀ s, body' s = (body s).relabel f) :
    LoopRun body' s t out ↔ ∃ t', LoopRun body s t' out ∧ t = t'.map (Prog.relabelEvent f) := by
  constructor
  · intro h
    induction h with
    | raised h =>
        rw [hbody] at h
        obtain ⟨t', h', rfl⟩ := Prog.traces_relabel_iff.mp h
        exact ⟨t', .raised h', rfl⟩
    | returned h =>
        rw [hbody] at h
        obtain ⟨t', h', rfl⟩ := Prog.traces_relabel_iff.mp h
        exact ⟨t', .returned h', rfl⟩
    | again h _ ih =>
        rw [hbody] at h
        obtain ⟨t', h', rfl⟩ := Prog.traces_relabel_iff.mp h
        obtain ⟨rest, hrest, rfl⟩ := ih
        exact ⟨t' ++ rest, .again h' hrest, List.map_append.symm⟩
  · rintro ⟨t', h, rfl⟩
    have round : ∀ {s t r}, (body s).Traces t r →
        (body' s).Traces (t.map (Prog.relabelEvent f)) r := by
      intro s t r h
      rw [hbody]
      exact Prog.traces_relabel_iff.mpr ⟨t, h, rfl⟩
    induction h with
    | raised h => exact .raised (round h)
    | returned h => exact .returned (round h)
    | again h _ ih =>
        rw [List.map_append]
        exact .again (round h) ih

theorem loopSteps_relabel_iff (hbody : ∀ s, body' s = (body s).relabel f) :
    LoopSteps body' s t ↔ ∃ t', LoopSteps body s t' ∧ t = t'.map (Prog.relabelEvent f) := by
  constructor
  · intro h
    induction h with
    | inside h =>
        rw [hbody] at h
        obtain ⟨t', p', h', rfl, -⟩ := Prog.steps_relabel_iff.mp h
        exact ⟨t', .inside h', rfl⟩
    | again h _ ih =>
        rw [hbody] at h
        obtain ⟨t', h', rfl⟩ := Prog.traces_relabel_iff.mp h
        obtain ⟨rest, hrest, rfl⟩ := ih
        exact ⟨t' ++ rest, .again h' hrest, List.map_append.symm⟩
  · rintro ⟨t', h, rfl⟩
    induction h with
    | @inside s t p h =>
        refine .inside (p := p.relabel f) ?_
        rw [hbody]
        exact Prog.steps_relabel_iff.mpr ⟨t, p, h, rfl, rfl⟩
    | @again s s' t t' h _ ih =>
        rw [List.map_append]
        refine .again ?_ ih
        rw [hbody]
        exact Prog.traces_relabel_iff.mpr ⟨t, h, rfl⟩

end Loops

/-! ### Programs over programs -/

namespace Prog

section Carried

variable {ε' : Type} {Op : Type} {Res : Op → Type} {impl : (o : Op) → List ε → Res o → Prop}
  {impl' : (o : Op) → List ε' → Res o → Prop} {f : ε → ε'} {t : List ε'}

/-- If single operations are carried out by renamed events, so is a list of
them. -/
theorem carries_map_iff (himpl : ∀ o t r, impl' o t r ↔ ∃ t', impl o t' r ∧ t = t'.map f)
    {done : List (Event Res)} :
    Carries impl' done t ↔ ∃ t', Carries impl done t' ∧ t = t'.map f := by
  induction done generalizing t with
  | nil => simp [carries_nil_iff]
  | cons ev done ih =>
      rw [carries_cons_iff]
      constructor
      · rintro ⟨t₁, t₂, rfl, hfirst, hrest⟩
        obtain ⟨t₁', hfirst', rfl⟩ := (himpl _ _ _).mp hfirst
        obtain ⟨t₂', hrest', rfl⟩ := ih.mp hrest
        exact ⟨t₁' ++ t₂', .cons hfirst' hrest', List.map_append.symm⟩
      · rintro ⟨t', h, rfl⟩
        obtain ⟨t₁, t₂, rfl, hfirst, hrest⟩ := carries_cons_iff.mp h
        exact ⟨t₁.map f, t₂.map f, List.map_append, (himpl _ _ _).mpr ⟨t₁, hfirst, rfl⟩,
          ih.mpr ⟨t₂, hrest, rfl⟩⟩

theorem begun_map_iff {begun : (o : Op) → List ε → Prop} {begun' : (o : Op) → List ε' → Prop}
    (himpl : ∀ o t r, impl' o t r ↔ ∃ t', impl o t' r ∧ t = t'.map f)
    (hbegun : ∀ o t, begun' o t ↔ ∃ t', begun o t' ∧ t = t'.map f) {p p' : Prog Op Res α}
    {done : List (Event Res)} :
    Begun impl' begun' p done p' t ↔ ∃ t', Begun impl begun p done p' t' ∧ t = t'.map f := by
  constructor
  · intro h
    induction h with
    | stop p => exact ⟨[], .stop p, rfl⟩
    | within h =>
        obtain ⟨t', h', rfl⟩ := (hbegun _ _).mp h
        exact ⟨t', .within h', rfl⟩
    | op hfirst _ ih =>
        obtain ⟨t₁, hfirst', rfl⟩ := (himpl _ _ _).mp hfirst
        obtain ⟨t₂, hrest', rfl⟩ := ih
        exact ⟨t₁ ++ t₂, .op hfirst' hrest', List.map_append.symm⟩
  · rintro ⟨t', h, rfl⟩
    induction h with
    | stop p => exact .stop p
    | within h => exact .within ((hbegun _ _).mpr ⟨_, h, rfl⟩)
    | op hfirst _ ih =>
        rw [List.map_append]
        exact .op ((himpl _ _ _).mpr ⟨_, hfirst, rfl⟩) ih

end Carried

end Prog

end Interact
