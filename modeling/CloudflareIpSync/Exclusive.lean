/-
CloudflareIpSync/Exclusive.lean

Keys that have at most one holder, for any holders and keys.  An assignment of
keys stays exclusive when it is carried along an injection, which covers keys
that are dropped or handed over, and when a holder takes a key that nobody else
has.
-/
import Mathlib.Logic.Function.Basic
import Mathlib.Tactic.Common

namespace Interact

variable {ι κ : Type*}

/-- No key has two holders. -/
def Exclusive (f : ι → Option κ) : Prop := ∀ a b k, f a = some k → f b = some k → a = b

variable {f f' : ι → Option κ}

/-- Who holds a key had it before, or has it from a holder of its own. -/
theorem Exclusive.of_injective (h : Exclusive f) {g : ι → ι} (hg : Function.Injective g)
    (hf' : ∀ a k, f' a = some k → f (g a) = some k) : Exclusive f' := by
  intro a b k ha hb
  exact hg (h _ _ k (hf' a k ha) (hf' b k hb))

theorem Exclusive.of_le (h : Exclusive f) (hf' : ∀ a k, f' a = some k → f a = some k) :
    Exclusive f' :=
  h.of_injective Function.injective_id hf'

/-- One holder takes a key that no other has. -/
theorem Exclusive.take (h : Exclusive f) {a : ι} {k : κ} (hfree : ∀ b, b ≠ a → f b ≠ some k)
    (ha : f' a = some k) (hf' : ∀ b, b ≠ a → f' b = f b) : Exclusive f' := by
  have hother : ∀ b, f' b = some k → b = a := by
    intro b hb
    by_contra hne
    rw [hf' b hne] at hb
    exact hfree b hne hb
  intro b c k' hb hc
  by_cases hk : k' = k
  · subst hk
    rw [hother b hb, hother c hc]
  · have hne : ∀ d, f' d = some k' → d ≠ a := by
      rintro d hd rfl
      exact hk (Option.some.inj (hd.symm.trans ha))
    rw [hf' b (hne b hb)] at hb
    rw [hf' c (hne c hc)] at hc
    exact h b c k' hb hc

end Interact
