/-
Module: Dmon.Lib.Refinement
Layer: Lib
Purpose: Refinement between transition systems by a function. A larger system refines a smaller one when a
  view of its states starts where the smaller one starts, and when each of its steps, read through a partial
  labelling, is a step of the smaller system on the view or leaves the view as it is. The labelling may look
  at the state before the step, so the same event can be a step of the smaller system or none. Every run of
  the larger system then shows a run of the smaller one.
Imports: Dmon.Lib.TransitionSystem
Trusted boundary: none
Main exports: TransitionSystem.reading, TransitionSystem.shown, TransitionSystem.Refinement,
  TransitionSystem.Refinement.run, TransitionSystem.Refinement.comp
-/
import Dmon.Lib.TransitionSystem

namespace TransitionSystem

variable {σ ε τ δ ρ κ : Type*} {T : TransitionSystem σ ε} {U : TransitionSystem τ δ} {V : TransitionSystem ρ κ}

/-- Read the events from the initial state on: the state they lead to, and the labels met on the way. -/
def reading (T : TransitionSystem σ ε) (label : σ → ε → Option δ) (es : List ε) : Option σ × List δ :=
  es.foldl
    (fun v e => (v.1.bind (T.step · e), v.2 ++ (v.1.bind (label · e)).toList))
    (some T.init, [])

/-- The labels of the events, each read in the state in which the event happens. -/
def shown (T : TransitionSystem σ ε) (label : σ → ε → Option δ) (es : List ε) : List δ :=
  (T.reading label es).2

section Shown

variable {C : σ → ε → Prop} {es : List ε} {s : σ} {e : ε}

@[simp] theorem shown_nil (label : σ → ε → Option δ) : T.shown label [] = [] := rfl

/-- Reading the events of a run leads to its state. -/
theorem Run.reading (run : T.Run C es s) (label : σ → ε → Option δ) :
    (T.reading label es).1 = some s := by
  induction run with
  | nil => rfl
  | snoc _ _ step ih =>
      simp only [TransitionSystem.reading] at ih ⊢
      simp [List.foldl_append, ih, step]

/-- One more event shows one more label, if it has one. -/
theorem Run.shown_concat (run : T.Run C es s) (label : σ → ε → Option δ) :
    T.shown label (es ++ [e]) = T.shown label es ++ (label s e).toList := by
  have here := run.reading label
  simp only [TransitionSystem.reading] at here
  simp only [shown, TransitionSystem.reading, List.foldl_append, List.foldl_cons, List.foldl_nil, here,
    Option.bind_some]

end Shown

/-- The system `T`, under the condition `C`, refines the system `U` under the condition `D`. -/
structure Refinement (T : TransitionSystem σ ε) (U : TransitionSystem τ δ) (C : σ → ε → Prop)
    (D : τ → δ → Prop) where
  view : σ → τ
  label : σ → ε → Option δ
  init : view T.init = U.init
  /-- An event without a label is not seen. -/
  silent : ∀ s e s', C s e → T.step s e = some s' → label s e = none → view s' = view s
  /-- An event with a label is a step of the smaller system. -/
  acts : ∀ s e s' d, C s e → T.step s e = some s' → label s e = some d →
    D (view s) d ∧ U.step (view s) d = some (view s')

namespace Refinement

variable {C : σ → ε → Prop} {D : τ → δ → Prop} {B : ρ → κ → Prop} (r : Refinement T U C D) {es : List ε}
  {s : σ}

/-- Every run shows a run of the smaller system, which leads to the view of the state. -/
theorem run (own : T.Run C es s) : U.Run D (T.shown r.label es) (r.view s) := by
  induction own with
  | nil => simpa [r.init] using Run.nil (T := U) (C := D)
  | @snoc es s s' e before cond step ih =>
      rw [before.shown_concat r.label]
      cases label : r.label s e with
      | none => simpa [r.silent s e s' cond step label] using ih
      | some d =>
          obtain ⟨meets, moved⟩ := r.acts s e s' d cond step label
          simpa using Run.snoc ih meets moved

/-- A refinement of a refinement. -/
def comp (q : Refinement U V D B) : Refinement T V C B where
  view s := q.view (r.view s)
  label s e := (r.label s e).bind (q.label (r.view s))
  init := by rw [r.init, q.init]
  silent s e s' cond step none := by
    cases label : r.label s e with
    | none => rw [r.silent s e s' cond step label]
    | some d =>
        obtain ⟨meets, moved⟩ := r.acts s e s' d cond step label
        rw [label, Option.bind_some] at none
        exact q.silent _ d _ meets moved none
  acts s e s' k cond step some := by
    obtain ⟨d, label, own⟩ := Option.bind_eq_some_iff.1 some
    obtain ⟨meets, moved⟩ := r.acts s e s' d cond step label
    exact q.acts _ d _ k meets moved own

end Refinement

end TransitionSystem
