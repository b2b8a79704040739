/-
CloudflareIpSync/Path.lean

Runs of a labelled transition relation, for use with any state type and any
labels.  `Path R s l s'` says that the steps `l`, taken in order, lead from `s`
to `s'`.  The same notion serves three levels of the development: the steps of
an interactive program, the answers of the environment that program talks to,
and the steps of a system of many programs.

The rules the other modules use are `Path.preserves` (an invariant of each step
is an invariant of the run), `Path.history` (the same for a statement that also
mentions the labels so far), `Path.map` (a run of one system is a run of
another) and `Path.content_origin` (what a store holds was sent to it).
-/
import Mathlib.Data.List.Induction
import Mathlib.Tactic.Common

namespace Interact

variable {σ β : Type*}

/-- `Path R s l s'`: the `R`-steps labelled `l`, in order, lead from `s` to `s'`. -/
inductive Path (R : σ → β → σ → Prop) : σ → List β → σ → Prop
  | nil (s : σ) : Path R s [] s
  | cons {s s₁ s' : σ} {b : β} {l : List β} :
      R s b s₁ → Path R s₁ l s' → Path R s (b :: l) s'

variable {R : σ → β → σ → Prop} {s s' s'' : σ} {b : β} {l l₁ l₂ : List β}

/-! ### Taking runs apart and putting them together -/

@[simp] theorem path_nil_iff : Path R s [] s' ↔ s' = s := by
  constructor
  · intro h
    cases h
    rfl
  · rintro rfl
    exact .nil _

theorem path_cons_iff : Path R s (b :: l) s' ↔ ∃ s₁, R s b s₁ ∧ Path R s₁ l s' := by
  constructor
  · intro h
    cases h with
    | cons hb hl => exact ⟨_, hb, hl⟩
  · rintro ⟨s₁, hb, hl⟩
    exact .cons hb hl

theorem Path.single (h : R s b s') : Path R s [b] s' := .cons h (.nil _)

theorem path_single_iff : Path R s [b] s' ↔ R s b s' := by
  constructor
  · intro h
    obtain ⟨s₁, hb, hnil⟩ := path_cons_iff.mp h
    rwa [← path_nil_iff.mp hnil] at hb
  · exact .single

theorem Path.append (h₁ : Path R s l₁ s') (h₂ : Path R s' l₂ s'') :
    Path R s (l₁ ++ l₂) s'' := by
  induction h₁ with
  | nil => exact h₂
  | cons hb _ ih => exact .cons hb (ih h₂)

theorem path_append_iff :
    Path R s (l₁ ++ l₂) s'' ↔ ∃ s', Path R s l₁ s' ∧ Path R s' l₂ s'' := by
  constructor
  · intro h
    induction l₁ generalizing s with
    | nil => exact ⟨s, .nil s, h⟩
    | cons b l ih =>
        obtain ⟨s₁, hb, hl⟩ := path_cons_iff.mp h
        obtain ⟨s', h₁, h₂⟩ := ih hl
        exact ⟨s', .cons hb h₁, h₂⟩
  · rintro ⟨s', h₁, h₂⟩
    exact h₁.append h₂

theorem path_snoc_iff :
    Path R s (l ++ [b]) s'' ↔ ∃ s', Path R s l s' ∧ R s' b s'' := by
  simp only [path_append_iff, path_cons_iff, path_nil_iff, exists_eq_right']

theorem Path.mono {R' : σ → β → σ → Prop} (hR : ∀ s b s', R s b s' → R' s b s')
    (h : Path R s l s') : Path R' s l s' := by
  induction h with
  | nil => exact .nil _
  | cons hb _ ih => exact .cons (hR _ _ _ hb) ih

/-! ### Two relations on the same labels -/

section Both

variable {τ : Type*} {Q : τ → β → τ → Prop}

/-- Both relations take the same step. -/
def Both (R : σ → β → σ → Prop) (Q : τ → β → τ → Prop) (s : σ × τ) (b : β) (s' : σ × τ) : Prop :=
  R s.1 b s'.1 ∧ Q s.2 b s'.2

theorem Path.fst {s s' : σ × τ} (h : Path (Both R Q) s l s') : Path R s.1 l s'.1 := by
  induction h with
  | nil => exact .nil _
  | cons hb _ ih => exact .cons hb.1 ih

theorem Path.snd {s s' : σ × τ} (h : Path (Both R Q) s l s') : Path Q s.2 l s'.2 := by
  induction h with
  | nil => exact .nil _
  | cons hb _ ih => exact .cons hb.2 ih

end Both

/-! ### Invariants of runs -/

/-- A property that every step of the run keeps holds at its end. -/
theorem Path.preserves {I : σ → Prop} (h : Path R s l s') (hs : I s)
    (step : ∀ s b s', b ∈ l → I s → R s b s' → I s') : I s' := by
  induction h with
  | nil => exact hs
  | cons hb _ ih =>
      apply ih (step _ _ _ List.mem_cons_self hs hb)
      intro s b s' hmem
      exact step s b s' (List.mem_cons_of_mem _ hmem)

/-- A statement about the labels so far and the state reached, true at the
start and kept by every step, is true of the whole run. -/
theorem Path.history {I : List β → σ → Prop} (h : Path R s l s') (hs : I [] s)
    (step : ∀ l s b s', I l s → R s b s' → I (l ++ [b]) s') : I l s' := by
  induction l using List.reverseRecOn generalizing s' with
  | nil => rw [path_nil_iff.mp h]; exact hs
  | append_singleton l b ih =>
      obtain ⟨s₁, hl, hb⟩ := path_snoc_iff.mp h
      exact step l s₁ b s' (ih hl) hb

/-- A store takes nothing but what has been sent to it, at any time after that.
What it holds was there at first, or was sent by a step of the run. -/
theorem Path.content_origin {γ : Type*} {Sends : β → γ → Prop} (content : σ → γ)
    (sent : σ → List γ) (h : Path R s l s') (hstart : sent s = [])
    (step : ∀ s b s', R s b s' → sent s ⊆ sent s' ∧
      (content s' = content s ∨ content s' ∈ sent s') ∧
      ∀ x ∈ sent s', x ∈ sent s ∨ Sends b x) :
    content s' = content s ∨ ∃ b ∈ l, Sends b (content s') := by
  let I (l : List β) (s' : σ) : Prop :=
    (∀ x ∈ sent s', ∃ b ∈ l, Sends b x) ∧ (content s' = content s ∨ content s' ∈ sent s')
  have hinv : I l s' := by
    apply h.history
    · refine ⟨?_, .inl rfl⟩
      rw [hstart]
      simp
    · intro l s₁ b s₂ hI hb
      obtain ⟨hsent, hcontent⟩ := hI
      obtain ⟨hsub, hcontent', hnew⟩ := step s₁ b s₂ hb
      refine ⟨?_, ?_⟩
      · intro x hx
        rcases hnew x hx with hold | hsends
        · obtain ⟨b', hmem, hsends⟩ := hsent x hold
          exact ⟨b', List.mem_append_left _ hmem, hsends⟩
        · exact ⟨b, by simp, hsends⟩
      · rcases hcontent' with hsame | hmem
        · rw [hsame]
          exact hcontent.imp_right fun hmem => hsub hmem
        · exact .inr hmem
  exact hinv.2.imp_right (hinv.1 _)

/-- A run seen from another system: every step, in the states that the invariant
allows, looks like a step there. -/
theorem Path.map {τ γ : Type*} {Q : τ → γ → τ → Prop} {I : σ → Prop} (view : σ → τ) (label : β → γ)
    (h : Path R s l s') (hs : I s) (keep : ∀ s b s', I s → R s b s' → I s')
    (step : ∀ s b s', I s → R s b s' → Q (view s) (label b) (view s')) :
    Path Q (view s) (l.map label) (view s') := by
  induction h with
  | nil => exact .nil _
  | cons hb _ ih => exact .cons (step _ _ _ hs hb) (ih (keep _ _ _ hs hb))

end Interact
