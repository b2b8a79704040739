/-
CloudflareIpSync/Loop.lean

Loops without a bound.  A program is a finite tree, so `while True` is not a
program; it is a body, a program for each state of the loop, whose rounds
either go on with a new state, return, or raise.

* `LoopRun`: the complete runs of a loop.  A loop that never leaves has none.
* `loopRun_iff`: the first round of a run, for bodies that perform one
  operation.
* `LoopRun.unique`: what such a loop returns is determined by its answers.
* `LoopRun.last`: such a loop performs nothing after a round that left it.
* `acc_iff_no_cycle`: when the states that a loop goes through come to an end.
-/
import CloudflareIpSync.Prog
import Mathlib.Order.Monotone.Basic
import Mathlib.Order.Preorder.Finite
import Mathlib.Order.WellFounded

namespace Interact

variable {Op : Type} {Res : Op → Type} {σ ε α : Type}

/-- The complete runs of a loop from the state `s`. -/
inductive LoopRun (body : σ → Prog Op Res (Except ε (σ ⊕ α))) :
    σ → List (Event Res) → Except ε α → Prop
  | raised {s : σ} {t : List (Event Res)} {exc : ε} : (body s).Traces t (.error exc) →
      LoopRun body s t (.error exc)
  | returned {s : σ} {t : List (Event Res)} {a : α} : (body s).Traces t (.ok (.inr a)) →
      LoopRun body s t (.ok a)
  | again {s s' : σ} {t t' : List (Event Res)} {out : Except ε α} :
      (body s).Traces t (.ok (.inl s')) → LoopRun body s' t' out → LoopRun body s (t ++ t') out

section Single

/-! ### One operation a round -/

variable {body : σ → Prog Op Res (Except ε (σ ⊕ α))} {request : σ → Op}
  {next : (s : σ) → Res (request s) → Except ε (σ ⊕ α)}

/-- The rest of a run after a round. -/
def LoopRest (body : σ → Prog Op Res (Except ε (σ ⊕ α))) (t : List (Event Res))
    (out : Except ε α) : Except ε (σ ⊕ α) → Prop
  | .error exc => t = [] ∧ out = .error exc
  | .ok (.inr a) => t = [] ∧ out = .ok a
  | .ok (.inl s) => LoopRun body s t out

theorem traces_single (hbody : ∀ s, body s = .op (request s) fun r => .ret (next s r)) {s : σ}
    {t : List (Event Res)} {b : Except ε (σ ⊕ α)} :
    (body s).Traces t b ↔ ∃ r, t = [⟨request s, r⟩] ∧ next s r = b := by
  rw [hbody, Prog.traces_op_iff]
  constructor
  · rintro ⟨r, t', rfl, h⟩
    obtain ⟨rfl, rfl⟩ := Prog.traces_ret_iff.mp h
    exact ⟨r, rfl, rfl⟩
  · rintro ⟨r, rfl, rfl⟩
    exact ⟨r, [], rfl, Prog.traces_ret_iff.mpr ⟨rfl, rfl⟩⟩

/-- The first round of a run, and the rest. -/
theorem loopRun_iff (hbody : ∀ s, body s = .op (request s) fun r => .ret (next s r)) {s : σ}
    {t : List (Event Res)} {out : Except ε α} :
    LoopRun body s t out ↔
      ∃ r t', t = ⟨request s, r⟩ :: t' ∧ LoopRest body t' out (next s r) := by
  constructor
  · intro h
    cases h with
    | raised h =>
        obtain ⟨r, rfl, hnext⟩ := (traces_single hbody).mp h
        refine ⟨r, [], rfl, ?_⟩
        rw [hnext]
        exact ⟨rfl, rfl⟩
    | returned h =>
        obtain ⟨r, rfl, hnext⟩ := (traces_single hbody).mp h
        refine ⟨r, [], rfl, ?_⟩
        rw [hnext]
        exact ⟨rfl, rfl⟩
    | @again _ _ _ t' _ h hrest =>
        obtain ⟨r, rfl, hnext⟩ := (traces_single hbody).mp h
        refine ⟨r, t', rfl, ?_⟩
        rw [hnext]
        exact hrest
  · rintro ⟨r, t', rfl, hrest⟩
    have hround : (body s).Traces [⟨request s, r⟩] (next s r) :=
      (traces_single hbody).mpr ⟨r, rfl, rfl⟩
    rcases hnext : next s r with exc | (s' | a)
    · rw [hnext] at hrest hround
      obtain ⟨rfl, rfl⟩ := hrest
      exact .raised hround
    · rw [hnext] at hrest hround
      exact .again hround hrest
    · rw [hnext] at hrest hround
      obtain ⟨rfl, rfl⟩ := hrest
      exact .returned hround

/-- The same answers have the same outcome. -/
theorem LoopRun.unique (hbody : ∀ s, body s = .op (request s) fun r => .ret (next s r)) {s : σ}
    {t : List (Event Res)} {out out' : Except ε α} (h : LoopRun body s t out)
    (h' : LoopRun body s t out') : out = out' := by
  induction t generalizing s with
  | nil =>
      obtain ⟨r, t', ht, -⟩ := (loopRun_iff hbody).mp h
      cases ht
  | cons e t ih =>
      obtain ⟨r, t₁, ht, hrest⟩ := (loopRun_iff hbody).mp h
      obtain ⟨rfl, rfl⟩ := List.cons_eq_cons.mp ht
      obtain ⟨r', t₂, ht', hrest'⟩ := (loopRun_iff hbody).mp h'
      obtain ⟨hevent, rfl⟩ := List.cons_eq_cons.mp ht'
      cases hevent
      rcases hnext : next s r with exc | (s' | a)
      · rw [hnext] at hrest hrest'
        exact hrest.2.trans hrest'.2.symm
      · rw [hnext] at hrest hrest'
        exact ih hrest hrest'
      · rw [hnext] at hrest hrest'
        exact hrest.2.trans hrest'.2.symm

/-- A round that raises whatever the state is the last one, and the loop raises
what it raised. -/
theorem LoopRun.last (hbody : ∀ s, body s = .op (request s) fun r => .ret (next s r)) {s : σ}
    {e : Event Res} {before after : List (Event Res)} {out : Except ε α} {exc : ε}
    (h : LoopRun body s (before ++ e :: after) out)
    (he : ∀ s r, e = ⟨request s, r⟩ → next s r = .error exc) :
    after = [] ∧ out = .error exc := by
  induction before generalizing s with
  | nil =>
      obtain ⟨r, t', ht, hrest⟩ := (loopRun_iff hbody).mp h
      obtain ⟨rfl, rfl⟩ := List.cons_eq_cons.mp ht
      rw [he s r rfl] at hrest
      exact hrest
  | cons e₁ before ih =>
      obtain ⟨r, t', ht, hrest⟩ := (loopRun_iff hbody).mp h
      obtain ⟨rfl, rfl⟩ := List.cons_eq_cons.mp ht
      rcases hnext : next s r with exc' | (s' | a)
      · rw [hnext] at hrest
        cases (List.append_eq_nil_iff.mp hrest.1).2
      · rw [hnext] at hrest
        exact ih hrest
      · rw [hnext] at hrest
        cases (List.append_eq_nil_iff.mp hrest.1).2

end Single

section Chains

/-! ### Chains of states that end -/

open Relation

variable {r : σ → σ → Prop} {s s' : σ}

theorem acc_iff_no_infinite_chain :
    Acc (flip r) s ↔ ¬ ∃ f : ℕ → σ, f 0 = s ∧ ∀ n, r (f n) (f (n + 1)) := by
  rw [acc_iff_isEmpty_descending_chain, isEmpty_subtype, not_exists]
  rfl

theorem acc_of_reflTransGen (h : ReflTransGen r s s') (hs : Acc (flip r) s) :
    Acc (flip r) s' := by
  induction h with
  | refl => exact hs
  | tail _ hstep ih => exact ih.inv hstep

theorem not_transGen_of_acc (hs : Acc (flip r) s) : ¬ TransGen r s s := by
  replace hs : Acc (TransGen (flip r)) s := acc_transGen_iff.mpr hs
  induction hs with
  | intro s _ ih =>
      intro h
      exact ih s (transGen_swap.mpr h) h

/-- If only finitely many states have a predecessor, every chain from `s` ends
exactly if no state that is reached leads back to itself. -/
theorem acc_iff_no_cycle (hfin : {s' | ∃ s, r s s'}.Finite) :
    Acc (flip r) s ↔ ∀ s', ReflTransGen r s s' → ¬ TransGen r s' s' := by
  constructor
  · intro hs s' hreach
    exact not_transGen_of_acc (acc_of_reflTransGen hreach hs)
  · intro hcycle
    rw [acc_iff_no_infinite_chain]
    rintro ⟨f, rfl, hf⟩
    have hmem : ∀ n, f (n + 1) ∈ {s' | ∃ s, r s s'} := fun n => ⟨f n, hf n⟩
    -- two of the infinitely many states of the chain are equal
    obtain ⟨i, j, hij, heq⟩ := Set.Finite.exists_lt_map_eq_of_forall_mem hmem hfin
    have hreach : ReflTransGen r (f 0) (f (i + 1)) :=
      Nat.rel_of_forall_rel_succ_of_le _ (fun n => .single (hf n)) (Nat.zero_le _)
    have hback : TransGen r (f (i + 1)) (f (j + 1)) :=
      Nat.rel_of_forall_rel_succ_of_lt _ (fun n => .single (hf n)) (Nat.succ_lt_succ hij)
    rw [← heq] at hback
    exact hcycle _ hreach hback

end Chains

end Interact
