/-
CloudflareIpSync/Hoare.lean

Pre- and postconditions of interactive programs, against an environment that is
a labelled relation on a state of its own.

`Prog.Wp E G post p s`: started in the state `s`, the program `p` performs only
operations that the guarantee `G` allows in the state they are performed in,
and ends in `post`.  The rules follow the program (`wp_op_iff`, `wp_bind_iff`,
`Wp.mono`); `Wp.steps` and `Wp.allowed` say what they are worth for its runs.

With `History` as the environment, whose state is the events so far, the
guarantee and the postcondition can speak about everything that has happened.
-/
import CloudflareIpSync.Prog

namespace Interact

variable {Op : Type} {Res : Op → Type} {σ α β : Type}

namespace Prog

/-- The weakest precondition of `post` under the guarantee `G`. -/
def Wp (E : σ → Event Res → σ → Prop) (G : σ → Op → Prop) (post : α → σ → Prop) :
    Prog Op Res α → σ → Prop
  | ret a, s => post a s
  | op o k, s => G s o ∧ ∀ r s', E s ⟨o, r⟩ s' → (k r).Wp E G post s'

variable {E : σ → Event Res → σ → Prop} {G G' : σ → Op → Prop} {post post' : α → σ → Prop}
  {p p' : Prog Op Res α} {s s' : σ} {t : List (Event Res)}

/-! ### Rules -/

@[simp] theorem wp_ret_iff {a : α} : (ret a).Wp E G post s ↔ post a s := Iff.rfl

theorem wp_op_iff {o : Op} {k : Res o → Prog Op Res α} :
    (op o k).Wp E G post s ↔ G s o ∧ ∀ r s', E s ⟨o, r⟩ s' → (k r).Wp E G post s' := Iff.rfl

theorem wp_bind_iff {f : α → Prog Op Res β} {post : β → σ → Prop} :
    (p >>= f).Wp E G post s ↔ p.Wp E G (fun a => (f a).Wp E G post) s := by
  induction p generalizing s with
  | ret a => exact Iff.rfl
  | op o k ih =>
      show (G s o ∧ ∀ r s', E s ⟨o, r⟩ s' → (k r >>= f).Wp E G post s') ↔ _
      simp only [ih]
      exact Iff.rfl

/-- A weaker guarantee and a weaker postcondition, where the stronger ones are
reached. -/
theorem Wp.mono (h : p.Wp E G post s) (hG : ∀ s o, G s o → G' s o)
    (hpost : ∀ a s, post a s → post' a s) : p.Wp E G' post' s := by
  induction p generalizing s with
  | ret a => exact hpost a s h
  | op o k ih =>
      refine ⟨hG s o h.1, ?_⟩
      intro r s' hE
      exact ih r (h.2 r s' hE)

theorem Wp.imp (h : p.Wp E G post s) (hpost : ∀ a s, post a s → post' a s) :
    p.Wp E G post' s :=
  h.mono (fun _ _ => id) hpost

/-- What every step of the environment keeps can be added to a postcondition. -/
theorem Wp.rely {R : σ → σ → Prop} (h : p.Wp E G post s) (hrefl : ∀ s, R s s)
    (htrans : ∀ s₁ s₂ s₃, R s₁ s₂ → R s₂ s₃ → R s₁ s₃) (hE : ∀ s e s', E s e s' → R s s') :
    p.Wp E G (fun a s' => post a s' ∧ R s s') s := by
  induction p generalizing s with
  | ret a => exact ⟨h, hrefl s⟩
  | op o k ih =>
      refine ⟨h.1, ?_⟩
      intro r s₁ hs₁
      apply (ih r (h.2 r s₁ hs₁)).imp
      intro a s₂ ⟨hpost, hR⟩
      exact ⟨hpost, htrans _ _ _ (hE _ _ _ hs₁) hR⟩

/-! ### What the rules say about runs -/

theorem Wp.steps (h : p.Wp E G post s) (hsteps : p.Steps t p') (hpath : Path E s t s') :
    p'.Wp E G post s' := by
  induction hsteps generalizing s with
  | nil =>
      rw [path_nil_iff.mp hpath]
      exact h
  | cons hstep _ ih =>
      obtain ⟨s₁, hE, hrest⟩ := path_cons_iff.mp hpath
      cases hstep with
      | op o k r => exact ih (h.2 r s₁ hE) hrest

/-- Every operation of a run is allowed in the state it is performed in. -/
theorem Wp.allowed {before after : List (Event Res)} {e : Event Res} (h : p.Wp E G post s)
    (hsteps : p.Steps (before ++ e :: after) p') (hpath : Path E s before s') : G s' e.1 := by
  obtain ⟨p₁, hbefore, hafter⟩ := path_append_iff.mp hsteps
  obtain ⟨p₂, hstep, -⟩ := path_cons_iff.mp hafter
  have hrest := h.steps hbefore hpath
  cases hstep with
  | op o k r => exact hrest.1

/-- In an environment that may give any answer, a program performs only what the
guarantee allows at all. -/
theorem Wp.emits {P : Op → Prop} (h : p.Wp E G post s) (total : ∀ s e, ∃ s', E s e s')
    (hP : ∀ s o, G s o → P o) : p.Emits P := by
  induction p generalizing s with
  | ret a => trivial
  | op o k ih =>
      refine ⟨hP s o h.1, ?_⟩
      intro r
      obtain ⟨s', hs'⟩ := total s ⟨o, r⟩
      exact ih r (h.2 r s' hs')

end Prog

/-! ### The events so far as the state -/

/-- The environment that remembers everything and answers anyhow. -/
def History (seen : List (Event Res)) (e : Event Res) (seen' : List (Event Res)) : Prop :=
  seen' = seen ++ [e]

theorem path_history_iff {seen seen' t : List (Event Res)} :
    Path History seen t seen' ↔ seen' = seen ++ t := by
  induction t generalizing seen with
  | nil => simp
  | cons e t ih => simp [path_cons_iff, History, ih]

section Remembered

variable {G : List (Event Res) → Op → Prop} {post : α → List (Event Res) → Prop}
  {seen : List (Event Res)}

theorem Prog.wp_history_iff {o : Op} {k : Res o → Prog Op Res α} :
    (Prog.op o k).Wp History G post seen ↔
      G seen o ∧ ∀ r, (k r).Wp History G post (seen ++ [⟨o, r⟩]) := by
  simp [Prog.wp_op_iff, History]

/-- What was seen stays seen. -/
theorem Prog.Wp.remember {p : Prog Op Res α} (h : p.Wp History G post seen) :
    p.Wp History G (fun a seen' => post a seen' ∧ seen ⊆ seen') seen := by
  apply Prog.Wp.rely (R := fun seen seen' => seen ⊆ seen') h (fun _ => List.Subset.refl _)
  · intro _ _ _
    exact List.Subset.trans
  · intro seen e seen' hE
    rw [hE]
    exact List.subset_append_left _ _

end Remembered

end Interact
