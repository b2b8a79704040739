/-
CloudflareIpSync/Dialog.lean

Dialogs: a form is shown, the user fills it in, and a program computes what is
shown next.  While the program runs, its operations are answered by an
environment; if it fails, the form it was started from is shown again.

The state of one dialog is its screen.  `Dialog.Keeps` asks of each step only
its weakest precondition, and `Dialog.Keeps.holds` makes an invariant of every
move out of that, with the half-run programs in between.  The environment's
state belongs to the dialog, so any number of dialogs can take their moves in
any order.
-/
import CloudflareIpSync.Hoare

namespace Interact

namespace Dialog

/-- What the program of a step returns. -/
inductive Reply (Form Done : Type)
  | again
  | form (form : Form)
  | done (result : Done)

/-- What the user sees: a form, a form that was submitted, or the end. -/
inductive Screen {Op : Type} (Res : Op → Type) (Form Done : Type)
  | showing (form : Form)
  | working (form : Form) (rest : Prog Op Res (Reply Form Done))
  | ended (result : Done)

/-- A move of a dialog. -/
inductive Move {Op : Type} (Res : Op → Type) (Input : Type)
  | submit (input : Input)
  | call (e : Event Res)
  | settle

end Dialog

/-- A dialog: the inputs that a form lets through, and what is done with one. -/
structure Dialog (Op : Type) (Res : Op → Type) (Form Input Done : Type) where
  Accepts : Form → Input → Prop
  step : Form → Input → Prog Op Res (Dialog.Reply Form Done)

namespace Dialog

variable {Op : Type} {Res : Op → Type} {Form Input Done σ : Type}

/-- The screen after a program started from `form` has returned. -/
def Reply.screen (form : Form) : Reply Form Done → Screen Res Form Done
  | again => .showing form
  | .form next => .showing next
  | done result => .ended result

/-- What holds after a program started from `form` has returned, if `I` is to
hold of the forms and `D` of the ends. -/
def Reply.Holds (I : Form → σ → Prop) (D : Done → σ → Prop) (form : Form) :
    Reply Form Done → σ → Prop
  | again => I form
  | .form next => I next
  | done result => D result

/-- What holds of a screen, if `I` is to hold of the forms and `D` of the ends. -/
def Screen.Holds (E : σ → Event Res → σ → Prop) (I : Form → σ → Prop) (D : Done → σ → Prop) :
    Screen Res Form Done → σ → Prop
  | showing form => I form
  | working form rest => rest.Wp E (fun _ _ => True) (Reply.Holds I D form)
  | ended result => D result

/-- One move of a dialog. -/
inductive Step (dialog : Dialog Op Res Form Input Done) :
    Screen Res Form Done → Move Res Input → Screen Res Form Done → Prop
  | submit {form : Form} {input : Input} : dialog.Accepts form input →
      Step dialog (.showing form) (.submit input) (.working form (dialog.step form input))
  | call {form : Form} {rest rest' : Prog Op Res (Reply Form Done)} {e : Event Res} :
      rest.Step e rest' → Step dialog (.working form rest) (.call e) (.working form rest')
  | settle {form : Form} {reply : Reply Form Done} :
      Step dialog (.working form (.ret reply)) .settle (reply.screen form)

/-- The environment's part of a move: it answers a call. -/
def Answered (E : σ → Event Res → σ → Prop) (s : σ) : Move Res Input → σ → Prop
  | .call e, s' => E s e s'
  | _, s' => s' = s

/-- Each step keeps the invariant, whatever the environment answers. -/
def Keeps (dialog : Dialog Op Res Form Input Done) (E : σ → Event Res → σ → Prop)
    (I : Form → σ → Prop) (D : Done → σ → Prop) : Prop :=
  ∀ form input s, dialog.Accepts form input → I form s →
    (dialog.step form input).Wp E (fun _ _ => True) (Reply.Holds I D form) s

variable {dialog : Dialog Op Res Form Input Done} {E : σ → Event Res → σ → Prop}
  {I : Form → σ → Prop} {D : Done → σ → Prop} {screen screen' : Screen Res Form Done}
  {m : Move Res Input} {s s' : σ}

/-- The step lemma: between two forms the invariant is a weakest precondition of
what is left of the program. -/
theorem Keeps.step (h : dialog.Keeps E I D) (hmove : dialog.Step screen m screen')
    (hE : Answered E s m s') (hs : screen.Holds E I D s) : screen'.Holds E I D s' := by
  cases hmove with
  | submit haccepts =>
      cases hE
      exact h _ _ _ haccepts hs
  | call hstep =>
      cases hstep with
      | op o k r => exact hs.2 r s' hE
  | @settle form reply =>
      cases hE
      cases reply with
      | again => exact hs
      | form next => exact hs
      | done result => exact hs

/-- A part of a run, as moves of the dialog. -/
theorem path_calls {form : Form} {t : List (Event Res)} {p p' : Prog Op Res (Reply Form Done)}
    (ht : p.Steps t p') (hE : Path E s t s') :
    Path (Both dialog.Step (Answered E)) (.working form p, s) (t.map .call)
      (.working form p', s') := by
  induction ht generalizing s with
  | nil =>
      rw [path_nil_iff.mp hE]
      exact .nil _
  | cons hstep _ ih =>
      obtain ⟨s₁, hs₁, hrest⟩ := path_cons_iff.mp hE
      exact path_cons_iff.mpr ⟨(.working form _, s₁), ⟨.call hstep, hs₁⟩, ih hrest⟩

/-- A form is submitted and the program runs to its end. -/
theorem path_submission {form : Form} {input : Input} {t : List (Event Res)}
    {reply : Reply Form Done} (haccepts : dialog.Accepts form input)
    (ht : (dialog.step form input).Traces t reply) (hE : Path E s t s') :
    Path (Both dialog.Step (Answered E)) (.showing form, s)
      (.submit input :: (t.map .call ++ [.settle])) (reply.screen form, s') := by
  have hsettle : Path (Both dialog.Step (Answered E)) (.working form (.ret reply), s') [.settle]
      (reply.screen form, s') := .single ⟨.settle, rfl⟩
  exact path_cons_iff.mpr ⟨(.working form (dialog.step form input), s), ⟨.submit haccepts, rfl⟩,
    (path_calls ht hE).append hsettle⟩

end Dialog

end Interact
