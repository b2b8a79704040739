/-
CloudflareIpSync/Deadline.lean

Loops under a deadline, with a virtual clock.

Every event takes a time of its own.  A run that is over before the deadline
ends as the loop ends; otherwise the event in flight at the deadline is
cancelled, and the run ends there with what the deadline raises
(`DeadlineRun`).  The loop itself need not end: it is given by its body, and
of a run that is cancelled only the part before the deadline counts
(`LoopSteps`).

`DeadlineRun.started` and `LoopSteps.count_le` bound a run: whatever it does
begins before the deadline, and a loop whose rounds take a minimum of time
makes only so many.
-/
import CloudflareIpSync.Loop
import Mathlib.Algebra.BigOperators.Group.List.Basic
import Mathlib.Algebra.Order.Monoid.Canonical.Defs

namespace Interact

variable {Op : Type} {Res : Op → Type} {σ ε α : Type}
  {body : σ → Prog Op Res (Except ε (σ ⊕ α))} {s s' : σ} {t t' : List (Event Res)}
  {out : Except ε α}

/-! ### Partial runs -/

/-- The partial runs of a loop. -/
inductive LoopSteps (body : σ → Prog Op Res (Except ε (σ ⊕ α))) : σ → List (Event Res) → Prop
  | inside {s : σ} {t : List (Event Res)} {p : Prog Op Res (Except ε (σ ⊕ α))} :
      (body s).Steps t p → LoopSteps body s t
  | again {s s' : σ} {t t' : List (Event Res)} :
      (body s).Traces t (.ok (.inl s')) → LoopSteps body s' t' → LoopSteps body s (t ++ t')

/-- A complete run is a partial one. -/
theorem LoopRun.steps (h : LoopRun body s t out) : LoopSteps body s t := by
  induction h with
  | raised h => exact .inside h
  | returned h => exact .inside h
  | again h _ ih => exact .again h ih

/-- What comes first in a partial run is one. -/
theorem LoopSteps.before (h : LoopSteps body s (t ++ t')) : LoopSteps body s t := by
  generalize hall : t ++ t' = all at h
  induction h generalizing t t' with
  | inside h =>
      subst hall
      obtain ⟨p, hp, -⟩ := path_append_iff.mp h
      exact .inside hp
  | again hround _ ih =>
      rcases List.append_eq_append_iff.mp hall with ⟨rest, rfl, -⟩ | ⟨rest, rfl, hrest⟩
      · obtain ⟨p, hp, -⟩ := path_append_iff.mp hround
        exact .inside hp
      · exact .again hround (ih hrest.symm)

/-! ### The virtual clock -/

section Duration

variable {τ : Type} [AddCommMonoid τ] {time : Event Res → τ}

/-- How long the events take. -/
def duration (time : Event Res → τ) (t : List (Event Res)) : τ := (t.map time).sum

@[simp] theorem duration_nil : duration time [] = 0 := rfl

@[simp] theorem duration_cons (e : Event Res) :
    duration time (e :: t) = time e + duration time t := by
  rw [duration, List.map_cons, List.sum_cons]
  rfl

@[simp] theorem duration_append : duration time (t ++ t') = duration time t + duration time t' := by
  rw [duration, List.map_append, List.sum_append]
  rfl

end Duration

/-! ### Deadlines -/

section Deadline

variable {τ : Type} [AddCommMonoid τ] [LinearOrder τ] {time : Event Res → τ}
  {limit start stop : τ} {cancelled : Except ε α}

/-- The runs of a loop under a deadline: they begin at `start` and end at `stop`. -/
inductive DeadlineRun (body : σ → Prog Op Res (Except ε (σ ⊕ α))) (time : Event Res → τ)
    (limit : τ) (cancelled : Except ε α) (start : τ) (s : σ) :
    List (Event Res) → Except ε α → τ → Prop
  | ended {t : List (Event Res)} {out : Except ε α} : LoopRun body s t out →
      start + duration time t < limit →
      DeadlineRun body time limit cancelled start s t out (start + duration time t)
  | cut {t : List (Event Res)} {e : Event Res} : LoopSteps body s (t ++ [e]) →
      start + duration time t < limit → limit ≤ start + duration time (t ++ [e]) →
      DeadlineRun body time limit cancelled start s (t ++ [e]) cancelled limit

/-- A run is over at the deadline. -/
theorem DeadlineRun.stop_le (h : DeadlineRun body time limit cancelled start s t out stop) :
    stop ≤ limit := by
  cases h with
  | ended _ hlt => exact hlt.le
  | cut => exact le_refl limit

/-- A round before a run. -/
theorem DeadlineRun.again (hround : (body s).Traces t (.ok (.inl s')))
    (h : DeadlineRun body time limit cancelled (start + duration time t) s' t' out stop) :
    DeadlineRun body time limit cancelled start s (t ++ t') out stop := by
  cases h with
  | ended hrun hlt =>
      rw [add_assoc, ← duration_append] at hlt ⊢
      exact .ended (.again hround hrun) hlt
  | cut hsteps hlt hle =>
      rw [add_assoc, ← duration_append] at hlt hle
      rw [← List.append_assoc] at hle ⊢
      refine .cut ?_ hlt hle
      rw [List.append_assoc]
      exact .again hround hsteps

section Bounds

variable [CanonicallyOrderedAdd τ]

/-- Whatever a run does begins before the deadline. -/
theorem DeadlineRun.started {before after : List (Event Res)} {e : Event Res}
    (h : DeadlineRun body time limit cancelled start s (before ++ e :: after) out stop) :
    start + duration time before < limit := by
  have hmono : ∀ t₁ t₂ : List (Event Res),
      start + duration time t₁ ≤ start + duration time (t₁ ++ t₂) := by
    intro t₁ t₂
    rw [duration_append, ← add_assoc]
    exact le_self_add
  generalize hall : before ++ e :: after = all at h
  cases h with
  | ended _ hlt =>
      subst hall
      exact (hmono before _).trans_lt hlt
  | @cut t last _ hlt _ =>
      -- `before` is part of what precedes the last event
      rcases List.eq_nil_or_concat after with rfl | ⟨after, e', rfl⟩
      · obtain ⟨rfl, -⟩ := List.append_inj' hall rfl
        exact hlt
      · rw [List.concat_eq_append, ← List.cons_append, ← List.append_assoc] at hall
        obtain ⟨rfl, -⟩ := List.append_inj' hall rfl
        exact (hmono before _).trans_lt hlt

variable [IsOrderedAddMonoid τ] {S : Event Res → Bool} {pace : τ}

/-- A loop with one event of `S` a round that takes `pace` a round. -/
theorem LoopSteps.count_le (hone : ∀ s t p, (body s).Steps t p → t.countP S ≤ 1)
    (hpace : ∀ s t s', (body s).Traces t (.ok (.inl s')) → pace ≤ duration time t)
    (h : LoopSteps body s t) : ∃ k : ℕ, t.countP S ≤ k + 1 ∧ k • pace ≤ duration time t := by
  induction h with
  | inside h =>
      refine ⟨0, hone _ _ _ h, ?_⟩
      rw [zero_nsmul]
      exact zero_le
  | again hround _ ih =>
      obtain ⟨k, hcount, htime⟩ := ih
      refine ⟨k + 1, ?_, ?_⟩
      · have hround := hone _ _ _ hround
        rw [List.countP_append]
        omega
      · rw [succ_nsmul', duration_append]
        exact add_le_add (hpace _ _ _ hround) htime

/-- So it makes only as many rounds as fit before the deadline. -/
theorem DeadlineRun.count_le (hone : ∀ s t p, (body s).Steps t p → t.countP S ≤ 1)
    (hpace : ∀ s t s', (body s).Traces t (.ok (.inl s')) → pace ≤ duration time t)
    (h : DeadlineRun body time limit cancelled start s t out stop) :
    ∃ k : ℕ, t.countP S ≤ k + 2 ∧ start + k • pace < limit := by
  have before : ∀ {t}, LoopSteps body s t → start + duration time t < limit →
      ∃ k : ℕ, t.countP S ≤ k + 1 ∧ start + k • pace < limit := by
    intro t hsteps hlt
    obtain ⟨k, hcount, htime⟩ := hsteps.count_le hone hpace
    exact ⟨k, hcount, (add_le_add_right htime start).trans_lt hlt⟩
  cases h with
  | ended hrun hlt =>
      obtain ⟨k, hcount, hk⟩ := before hrun.steps hlt
      exact ⟨k, hcount.trans (Nat.le_succ _), hk⟩
  | @cut t e hsteps hlt _ =>
      obtain ⟨k, hcount, hk⟩ := before hsteps.before hlt
      have hlast : [e].countP S ≤ 1 := List.countP_le_length
      refine ⟨k, ?_, hk⟩
      rw [List.countP_append]
      omega

end Bounds

end Deadline

end Interact
