/-
CloudflareIpSync/Tracking.lean

Following a moving target.  A system goes through rounds; each one aims at a
target, and pays for what it does.  If a round pays no more than what it gets
closer to its target, then all rounds together pay at most for the distance of
the first target and for the way the targets go from one to the next.

What disturbs the system in its rounds is paid for from a budget.  `Budgeted`
adds one to a transition relation: every step either is regular, or it is
arbitrary and uses up some of the budget.
-/
import CloudflareIpSync.Path
import Mathlib.Algebra.BigOperators.Group.List.Basic
import Mathlib.Algebra.Ring.Nat

namespace Interact

variable {σ β α : Type*}

/-! ### Budgets -/

/-- A step that is regular and free, or arbitrary and not. -/
def Budgeted (R : σ → β → σ → Prop) (s : σ × ℕ) (b : β) (s' : σ × ℕ) : Prop :=
  s'.2 < s.2 ∨ s'.2 = s.2 ∧ R s.1 b s'.1

section Budget

variable {R : σ → β → σ → Prop} {s s' : σ × ℕ} {b : β} {l : List β}

theorem Budgeted.le (h : Budgeted R s b s') : s'.2 ≤ s.2 := by
  rcases h with hless | ⟨heq, -⟩
  · exact Nat.le_of_lt hless
  · exact Nat.le_of_eq heq

theorem Path.budget_le (h : Path (Budgeted R) s l s') : s'.2 ≤ s.2 := by
  induction h with
  | nil => exact Nat.le_refl _
  | cons hb _ ih => exact Nat.le_trans ih hb.le

/-- A run uses up some of the budget, or it is regular. -/
theorem Path.spent_or_regular (h : Path (Budgeted R) s l s') :
    s'.2 < s.2 ∨ s'.2 = s.2 ∧ Path R s.1 l s'.1 := by
  induction h with
  | nil => exact .inr ⟨rfl, .nil _⟩
  | cons hb hl ih =>
      rcases hb with hless | ⟨heq, hb⟩
      · exact .inl (Nat.lt_of_le_of_lt hl.budget_le hless)
      · apply ih.imp
        · exact fun hless => heq ▸ hless
        · intro ⟨heq', hl⟩
          exact ⟨heq'.trans heq, .cons hb hl⟩

end Budget

/-- Steps that each pay for what they cost. -/
theorem Path.paid {R : σ → β → σ → Prop} {s s' : σ} {l : List β} {cost : β → ℕ} {budget : σ → ℕ}
    (h : Path R s l s') (step : ∀ s b s', R s b s' → cost b + budget s' ≤ budget s) :
    (l.map cost).sum + budget s' ≤ budget s := by
  induction h with
  | nil => exact Nat.le_of_eq (Nat.zero_add _)
  | cons hb _ ih =>
      have hfirst := step _ _ _ hb
      rw [List.map_cons, List.sum_cons]
      omega

/-! ### Targets -/

/-- The length of the way from one target over the others to the last. -/
def travel (dist : α → α → ℕ) : α → List α → ℕ
  | _, [] => 0
  | a, a' :: rest => dist a a' + travel dist a' rest

/-- The length of the way to the first target and over the others. -/
def travelFrom (off : α → σ → ℕ) (dist : α → α → ℕ) (s : σ) : List α → ℕ
  | [] => 0
  | a :: rest => off a s + travel dist a rest

/-- Rounds that pay for what they do by getting closer to their targets, and
from the budget.  A round without a target leaves all of them where they are. -/
structure Tracks (R : σ → β → σ → Prop) (target : β → Option α) (cost : β → ℕ) (budget : σ → ℕ)
    (off : α → σ → ℕ) (dist : α → α → ℕ) : Prop where
  triangle : ∀ a a' s, off a' s ≤ off a s + dist a a'
  aimed : ∀ {s b s' a}, R s b s' → target b = some a →
    cost b + budget s' + off a s' ≤ budget s + off a s
  idle : ∀ {s b s'}, R s b s' → target b = none → cost b + budget s' ≤ budget s ∧
    ∀ a, cost b + budget s' + off a s' ≤ budget s + off a s

/-- **Tracking.** What all rounds cost, and what is left of the budget, is covered
by the budget and the way that the targets take. -/
theorem Tracks.path {R : σ → β → σ → Prop} {target : β → Option α} {cost : β → ℕ} {budget : σ → ℕ}
    {off : α → σ → ℕ} {dist : α → α → ℕ} (htracks : Tracks R target cost budget off dist)
    {s s' : σ} {l : List β} (h : Path R s l s') :
    (l.map cost).sum + budget s' ≤ budget s + travelFrom off dist s (l.filterMap target) := by
  induction h with
  | nil s =>
      rw [List.map_nil, List.sum_nil, zero_add]
      exact Nat.le_add_right _ _
  | @cons s s₁ s' b l hb _ ih =>
      rw [List.map_cons, List.sum_cons]
      rcases htarget : target b with - | a
      · rw [List.filterMap_cons_none htarget]
        obtain ⟨hfree, hidle⟩ := htracks.idle hb htarget
        rcases hrest : l.filterMap target with - | ⟨a, rest⟩
        · rw [hrest, travelFrom] at ih
          rw [travelFrom]
          omega
        · rw [hrest, travelFrom] at ih
          rw [travelFrom]
          have hfirst := hidle a
          omega
      · rw [List.filterMap_cons_some htarget, travelFrom]
        have hfirst := htracks.aimed hb htarget
        rcases hrest : l.filterMap target with - | ⟨a', rest⟩
        · rw [hrest, travelFrom] at ih
          rw [travel]
          omega
        · -- the next target is as far off as this one, and the way between them
          rw [hrest, travelFrom] at ih
          have hnext := htracks.triangle a a' s₁
          rw [travel]
          omega

end Interact
