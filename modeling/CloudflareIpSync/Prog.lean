/-
CloudflareIpSync/Prog.lean

Interactive programs, for any signature of operations.  A program either
returns or performs an operation and continues with the answer; it says nothing
about who answers or how.  Programs are finite trees along every sequence of
answers, so every run ends.

* `Prog.Steps` / `Prog.Traces`: the partial and the complete runs of a program,
  over all answers, each described by its trace of operations with answers.
* An environment is a labelled relation on a state of its own that consumes
  the same traces (`Path E s t s'`), so a program is run against an environment
  by conjoining the two.
* `Prog.Session`: complete runs of one program, one after the other, against an
  environment that keeps its state from run to run.
* `Prog.Emits`: every operation the program can ever perform satisfies a
  property.
* `Prog.exec`: the executable runner against a deterministic environment.
* `Prog.Blind`: the program uses the answers of a class of operations only, so
  two runs in which those are answered alike agree (`Prog.Blind.agree`).
* `Prog.UsesOnly`: the program uses no more than a part of each answer, so its
  runs on the parts are runs on the whole (`Prog.UsesOnly.traces`).
-/
import CloudflareIpSync.Path

namespace Interact

/-- A program over operations `Op`, where `o : Op` is answered in `Res o`. -/
inductive Prog (Op : Type) (Res : Op → Type) (α : Type) : Type
  | ret (a : α)
  | op (o : Op) (k : Res o → Prog Op Res α)

/-- An operation together with its answer. -/
abbrev Event {Op : Type} (Res : Op → Type) := (o : Op) × Res o

namespace Prog

variable {Op : Type} {Res : Op → Type} {α β : Type}

/-- Sequencing. -/
protected def bind : Prog Op Res α → (α → Prog Op Res β) → Prog Op Res β
  | ret a, f => f a
  | op o k, f => op o fun r => (k r).bind f

instance : Monad (Prog Op Res) where
  pure := ret
  bind := Prog.bind

/-- Perform one operation and return its answer. -/
def call (o : Op) : Prog Op Res (Res o) := op o ret

@[simp] theorem pure_eq (a : α) : (pure a : Prog Op Res α) = ret a := rfl

@[simp] theorem ret_bind (a : α) (f : α → Prog Op Res β) : ret a >>= f = f a := rfl

@[simp] theorem op_bind (o : Op) (k : Res o → Prog Op Res α) (f : α → Prog Op Res β) :
    op o k >>= f = op o fun r => k r >>= f := rfl

@[simp] theorem call_bind (o : Op) (f : Res o → Prog Op Res β) :
    call o >>= f = op o f := rfl

/-! ### Runs -/

/-- One step: perform the next operation and receive some answer. -/
inductive Step : Prog Op Res α → Event Res → Prog Op Res α → Prop
  | op (o : Op) (k : Res o → Prog Op Res α) (r : Res o) : Step (op o k) ⟨o, r⟩ (k r)

/-- A partial run: after the events `t`, the program `p'` remains. -/
def Steps (p : Prog Op Res α) (t : List (Event Res)) (p' : Prog Op Res α) : Prop :=
  Path Step p t p'

/-- A complete run: the events `t`, after which `a` is returned. -/
def Traces (p : Prog Op Res α) (t : List (Event Res)) (a : α) : Prop :=
  p.Steps t (ret a)

theorem step_op_iff {o : Op} {k : Res o → Prog Op Res α} {e : Event Res}
    {p' : Prog Op Res α} : Step (op o k) e p' ↔ ∃ r, e = ⟨o, r⟩ ∧ p' = k r := by
  constructor
  · intro h
    cases h with
    | op _ _ r => exact ⟨r, rfl, rfl⟩
  · rintro ⟨r, rfl, rfl⟩
    exact .op o k r

@[simp] theorem not_step_ret {a : α} {e : Event Res} {p' : Prog Op Res α} :
    ¬ Step (ret a) e p' := by
  intro h
  cases h

@[simp] theorem steps_ret_iff {a : α} {t : List (Event Res)} {p' : Prog Op Res α} :
    (ret a).Steps t p' ↔ t = [] ∧ p' = ret a := by
  cases t with
  | nil => simp [Steps]
  | cons e t => simp [Steps, path_cons_iff]

theorem steps_op_iff {o : Op} {k : Res o → Prog Op Res α} {t : List (Event Res)}
    {p' : Prog Op Res α} :
    (op o k).Steps t p' ↔
      (t = [] ∧ p' = op o k) ∨ ∃ r t', t = ⟨o, r⟩ :: t' ∧ (k r).Steps t' p' := by
  cases t with
  | nil => simp [Steps]
  | cons e t =>
      simp only [Steps, path_cons_iff, step_op_iff, List.cons_ne_nil, false_and, false_or,
        List.cons.injEq]
      constructor
      · rintro ⟨_, ⟨r, rfl, rfl⟩, h⟩
        exact ⟨r, t, ⟨rfl, rfl⟩, h⟩
      · rintro ⟨r, _, ⟨rfl, rfl⟩, h⟩
        exact ⟨k r, ⟨r, rfl, rfl⟩, h⟩

@[simp] theorem traces_ret_iff {a b : α} {t : List (Event Res)} :
    (ret a).Traces t b ↔ t = [] ∧ b = a := by
  simp [Traces]

theorem traces_op_iff {o : Op} {k : Res o → Prog Op Res α} {t : List (Event Res)} {b : α} :
    (op o k).Traces t b ↔ ∃ r t', t = ⟨o, r⟩ :: t' ∧ (k r).Traces t' b := by
  simp [Traces, steps_op_iff]

/-- A run of `p >>= f` is a run of `p` followed by a run of `f`. -/
theorem traces_bind_iff {p : Prog Op Res α} {f : α → Prog Op Res β}
    {t : List (Event Res)} {b : β} :
    (p >>= f).Traces t b ↔
      ∃ t₁ a t₂, t = t₁ ++ t₂ ∧ p.Traces t₁ a ∧ (f a).Traces t₂ b := by
  induction p generalizing t with
  | ret a =>
      simp only [ret_bind, traces_ret_iff]
      constructor
      · intro h
        exact ⟨[], a, t, rfl, ⟨rfl, rfl⟩, h⟩
      · rintro ⟨_, _, t₂, rfl, ⟨rfl, rfl⟩, h⟩
        exact h
  | op o k ih =>
      simp only [op_bind, traces_op_iff, ih]
      constructor
      · rintro ⟨r, _, rfl, t₁, a, t₂, rfl, h₁, h₂⟩
        exact ⟨⟨o, r⟩ :: t₁, a, t₂, rfl, ⟨r, t₁, rfl, h₁⟩, h₂⟩
      · rintro ⟨_, a, t₂, rfl, ⟨r, t₁, rfl, h₁⟩, h₂⟩
        exact ⟨r, t₁ ++ t₂, rfl, t₁, a, t₂, rfl, h₁, h₂⟩

/-- In an environment that answers every operation, every program has a
complete run. -/
theorem exists_run {σ : Type} {E : σ → Event Res → σ → Prop}
    (total : ∀ s o, ∃ r s', E s ⟨o, r⟩ s') (p : Prog Op Res α) (s : σ) :
    ∃ t a s', p.Traces t a ∧ Path E s t s' := by
  induction p generalizing s with
  | ret a => exact ⟨[], a, s, traces_ret_iff.mpr ⟨rfl, rfl⟩, .nil s⟩
  | op o k ih =>
      obtain ⟨r, s₁, h₁⟩ := total s o
      obtain ⟨t, a, s', ht, hs⟩ := ih r s₁
      exact ⟨⟨o, r⟩ :: t, a, s', traces_op_iff.mpr ⟨r, t, rfl, ht⟩, .cons h₁ hs⟩

/-! ### A program run again and again -/

/-- One complete run among several: its events, its result, and the state of
the environment after it. -/
structure Round (Res : Op → Type) (σ α : Type) where
  trace : List (Event Res)
  result : α
  after : σ

/-- Running `p` once in the environment `E`. -/
def RoundStep {σ : Type} (E : σ → Event Res → σ → Prop) (p : Prog Op Res α) (s : σ)
    (round : Round Res σ α) (s' : σ) : Prop :=
  p.Traces round.trace round.result ∧ Path E s round.trace s' ∧ round.after = s'

/-- Any number of complete runs of `p`, one after the other. -/
abbrev Session {σ : Type} (E : σ → Event Res → σ → Prop) (p : Prog Op Res α) :
    σ → List (Round Res σ α) → σ → Prop :=
  Path (RoundStep E p)

/-- All events of a session, in order. -/
def Round.events {σ : Type} (rounds : List (Round Res σ α)) : List (Event Res) :=
  rounds.flatMap (·.trace)

/-- The environment sees a session as one run. -/
theorem Session.path {σ : Type} {E : σ → Event Res → σ → Prop} {p : Prog Op Res α} {s s' : σ}
    {rounds : List (Round Res σ α)} (h : Session E p s rounds s') :
    Path E s (Round.events rounds) s' := by
  induction h with
  | nil => exact .nil _
  | cons hround _ ih => exact hround.2.1.append ih

/-- Every round of a session is a complete run of the program. -/
theorem Session.traces {σ : Type} {E : σ → Event Res → σ → Prop} {p : Prog Op Res α} {s s' : σ}
    {rounds : List (Round Res σ α)} (h : Session E p s rounds s') :
    ∀ round ∈ rounds, p.Traces round.trace round.result := by
  induction h with
  | nil => simp
  | cons hround _ ih =>
      rintro round (- | ⟨_, hmem⟩)
      · exact hround.1
      · exact ih round hmem

/-! ### Running against a deterministic environment -/

/-- The run of `p` when each operation is answered by a function of the
environment's state. -/
def exec {σ : Type} (answer : σ → (o : Op) → Res o × σ) : Prog Op Res α → σ → Round Res σ α
  | ret a, s => ⟨[], a, s⟩
  | op o k, s =>
      let round := (k (answer s o).1).exec answer (answer s o).2
      { round with trace := ⟨o, (answer s o).1⟩ :: round.trace }

theorem exec_traces {σ : Type} (answer : σ → (o : Op) → Res o × σ) (p : Prog Op Res α) (s : σ) :
    p.Traces (p.exec answer s).trace (p.exec answer s).result := by
  induction p generalizing s with
  | ret a => exact traces_ret_iff.mpr ⟨rfl, rfl⟩
  | op o k ih => exact traces_op_iff.mpr ⟨_, _, rfl, ih _ _⟩

/-- A run checked by evaluating it. -/
theorem traces_of_exec {σ : Type} (answer : σ → (o : Op) → Res o × σ) {p : Prog Op Res α} (s : σ)
    {t : List (Event Res)} {a : α} (ht : (p.exec answer s).trace = t)
    (ha : (p.exec answer s).result = a) : p.Traces t a := by
  rw [← ht, ← ha]
  exact exec_traces answer p s

/-- The one run of `p` in a deterministic environment. -/
theorem exec_round {σ : Type} {E : σ → Event Res → σ → Prop}
    {answer : σ → (o : Op) → Res o × σ}
    (hE : ∀ s o, E s ⟨o, (answer s o).1⟩ (answer s o).2) (p : Prog Op Res α) (s : σ) :
    RoundStep E p s (p.exec answer s) (p.exec answer s).after := by
  refine ⟨exec_traces answer p s, ?_, rfl⟩
  induction p generalizing s with
  | ret a => exact .nil s
  | op o k ih => exact .cons (hE s o) (ih _ _)

/-! ### Operations a program can perform -/

/-- Every operation the program can ever perform satisfies `P`. -/
def Emits (P : Op → Prop) : Prog Op Res α → Prop
  | ret _ => True
  | op o k => P o ∧ ∀ r, (k r).Emits P

theorem Emits.bind {P : Op → Prop} {p : Prog Op Res α} {f : α → Prog Op Res β}
    (hp : p.Emits P) (hf : ∀ a, (f a).Emits P) : (p >>= f).Emits P := by
  induction p with
  | ret a => exact hf a
  | op o k ih => exact ⟨hp.1, fun r => ih r (hp.2 r)⟩

/-- What follows only has to be looked at for the results the program returns. -/
theorem Emits.bind_of_traces {P : Op → Prop} {p : Prog Op Res α} {f : α → Prog Op Res β}
    (hp : p.Emits P) (hf : ∀ t a, p.Traces t a → (f a).Emits P) : (p >>= f).Emits P := by
  induction p with
  | ret a => exact hf [] a (traces_ret_iff.mpr ⟨rfl, rfl⟩)
  | op o k ih =>
      refine ⟨hp.1, fun r => ih r (hp.2 r) ?_⟩
      intro t a ht
      exact hf (⟨o, r⟩ :: t) a (traces_op_iff.mpr ⟨r, t, rfl, ht⟩)

theorem Emits.mono {P Q : Op → Prop} {p : Prog Op Res α} (hp : p.Emits P)
    (hPQ : ∀ o, P o → Q o) : p.Emits Q := by
  induction p with
  | ret a => trivial
  | op o k ih => exact ⟨hPQ o hp.1, fun r => ih r (hp.2 r)⟩

/-- The events of a partial run satisfy what the program emits, and so does
what remains of it. -/
theorem Emits.steps {P : Op → Prop} {p p' : Prog Op Res α} {t : List (Event Res)}
    (hp : p.Emits P) (h : p.Steps t p') : (∀ e ∈ t, P e.1) ∧ p'.Emits P := by
  induction h with
  | nil => exact ⟨fun _ he => absurd he List.not_mem_nil, hp⟩
  | cons hstep _ ih =>
      cases hstep with
      | op o k r =>
          obtain ⟨hmem, hrest⟩ := ih (hp.2 r)
          refine ⟨?_, hrest⟩
          intro e he
          rcases List.mem_cons.mp he with rfl | he
          · exact hp.1
          · exact hmem e he

theorem Emits.traces {P : Op → Prop} {p : Prog Op Res α} {t : List (Event Res)} {a : α}
    (hp : p.Emits P) (h : p.Traces t a) : ∀ e ∈ t, P e.1 :=
  (hp.steps h).1

/-! ### Programs that use only some of their answers -/

/-- The program uses the answers of the operations in `S` only: after any other
operation it goes on in the same way whatever the answer. -/
def Blind (S : Op → Bool) : Prog Op Res α → Prop
  | ret _ => True
  | op o k => (S o = false → ∀ r r', k r = k r') ∧ ∀ r, (k r).Blind S

/-- An operation of the class, or one whose answer says nothing. -/
theorem blind_op {S : Op → Bool} {o : Op} {k : Res o → Prog Op Res α}
    (ho : S o = true ∨ Subsingleton (Res o)) (hk : ∀ r, (k r).Blind S) : (op o k).Blind S := by
  refine ⟨?_, hk⟩
  intro hno r r'
  rcases ho with ho | ho
  · rw [hno] at ho
    cases ho
  · rw [Subsingleton.elim r r']

theorem Blind.bind {S : Op → Bool} {p : Prog Op Res α} {f : α → Prog Op Res β}
    (hp : p.Blind S) (hf : ∀ a, (f a).Blind S) : (p >>= f).Blind S := by
  induction p with
  | ret a => exact hf a
  | op o k ih =>
      refine ⟨?_, fun r => ih r (hp.2 r)⟩
      intro ho r r'
      show (k r).bind f = (k r').bind f
      rw [hp.1 ho r r']

/-- An environment that answers the operations in `S` by a function of what it
has answered of them so far, and all others anyhow. -/
def oracleStep (S : Op → Bool) (oracle : List (Event Res) → (o : Op) → Res o)
    (seen : List (Event Res)) (e : Event Res) (seen' : List (Event Res)) : Prop :=
  if S e.1 then e.2 = oracle seen e.1 ∧ seen' = seen ++ [e] else seen' = seen

/-- **Noninterference.** Two runs of a program that uses the answers in `S`
only, with the same oracle for these, return the same and perform the same
operations, those in `S` with the same answers. -/
theorem Blind.agree {S : Op → Bool} {oracle : List (Event Res) → (o : Op) → Res o}
    {p : Prog Op Res α} (hp : p.Blind S) {t₁ t₂ : List (Event Res)} {a₁ a₂ : α}
    {seen seen₁ seen₂ : List (Event Res)} (h₁ : p.Traces t₁ a₁) (h₂ : p.Traces t₂ a₂)
    (w₁ : Path (oracleStep S oracle) seen t₁ seen₁)
    (w₂ : Path (oracleStep S oracle) seen t₂ seen₂) :
    a₁ = a₂ ∧ seen₁ = seen₂ ∧ t₁.map (·.1) = t₂.map (·.1) ∧
      t₁.filter (fun e => S e.1) = t₂.filter (fun e => S e.1) := by
  induction p generalizing t₁ t₂ seen with
  | ret a =>
      obtain ⟨rfl, rfl⟩ := traces_ret_iff.mp h₁
      obtain ⟨rfl, rfl⟩ := traces_ret_iff.mp h₂
      have e₁ : seen₁ = seen := path_nil_iff.mp w₁
      have e₂ : seen₂ = seen := path_nil_iff.mp w₂
      exact ⟨rfl, e₁.trans e₂.symm, rfl, rfl⟩
  | op o k ih =>
      rw [traces_op_iff] at h₁ h₂
      obtain ⟨r₁, t₁, rfl, h₁⟩ := h₁
      obtain ⟨r₂, t₂, rfl, h₂⟩ := h₂
      rw [path_cons_iff] at w₁ w₂
      obtain ⟨s₁, hs₁, w₁⟩ := w₁
      obtain ⟨s₂, hs₂, w₂⟩ := w₂
      rcases ho : S o with - | -
      · -- an answer outside `S`: the program goes on alike
        simp only [oracleStep, ho, Bool.false_eq_true, if_false] at hs₁ hs₂
        subst hs₁ hs₂
        rw [hp.1 ho r₂ r₁] at h₂
        obtain ⟨ha, hseen, hops, hfilter⟩ := ih r₁ (hp.2 r₁) h₁ h₂ w₁ w₂
        refine ⟨ha, hseen, ?_, ?_⟩
        · rw [List.map_cons, List.map_cons, hops]
        · simpa [ho] using hfilter
      · -- an answer in `S`: the oracle gives the same one twice
        simp only [oracleStep, ho, if_true] at hs₁ hs₂
        obtain ⟨rfl, rfl⟩ := hs₁
        obtain ⟨rfl, rfl⟩ := hs₂
        obtain ⟨ha, hseen, hops, hfilter⟩ := ih _ (hp.2 _) h₁ h₂ w₁ w₂
        refine ⟨ha, hseen, ?_, ?_⟩
        · rw [List.map_cons, List.map_cons, hops]
        · simpa [ho] using hfilter

/-! ### Programs that use a part of each answer -/

/-- What `f` leaves of the answer in an event. -/
def part (f : (o : Op) → Res o → Res o) (e : Event Res) : Event Res := ⟨e.1, f e.1 e.2⟩

/-- The program goes on after an answer as it does after the part of it that `f`
leaves. -/
def UsesOnly (f : (o : Op) → Res o → Res o) : Prog Op Res α → Prop
  | ret _ => True
  | op o k => (∀ r, k (f o r) = k r) ∧ ∀ r, (k r).UsesOnly f

theorem UsesOnly.bind {f : (o : Op) → Res o → Res o} {p : Prog Op Res α}
    {g : α → Prog Op Res β} (hp : p.UsesOnly f) (hg : ∀ a, (g a).UsesOnly f) :
    (p >>= g).UsesOnly f := by
  induction p with
  | ret a => exact hg a
  | op o k ih =>
      refine ⟨?_, fun r => ih r (hp.2 r)⟩
      intro r
      show (k (f o r)).bind g = (k r).bind g
      rw [hp.1 r]

/-- A run on parts of the answers is a run on the whole answers. -/
theorem UsesOnly.traces {f : (o : Op) → Res o → Res o} {p : Prog Op Res α}
    {t : List (Event Res)} {a : α} (hp : p.UsesOnly f) (h : p.Traces (t.map (part f)) a) :
    p.Traces t a := by
  induction p generalizing t with
  | ret a =>
      obtain ⟨ht, rfl⟩ := traces_ret_iff.mp h
      exact traces_ret_iff.mpr ⟨List.map_eq_nil_iff.mp ht, rfl⟩
  | op o k ih =>
      obtain ⟨r, t', ht, hrest⟩ := traces_op_iff.mp h
      obtain ⟨⟨o', r'⟩, t, rfl, hfirst, rfl⟩ := List.map_eq_cons_iff.mp ht
      cases hfirst
      rw [hp.1 r'] at hrest
      exact traces_op_iff.mpr ⟨r', t, rfl, ih r' (hp.2 r') hrest⟩

end Prog

end Interact
