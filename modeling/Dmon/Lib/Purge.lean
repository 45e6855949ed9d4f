/-
Module: Dmon.Lib.Purge
Layer: Lib
Purpose: Two-run reasoning by purging. A classification `keep s e` says which steps of a run are visible;
  `purge` deletes the others. If the purged run is related to the full one by a relation that hidden
  steps keep on the left alone and visible steps keep on both sides (the unwinding conditions), then the
  purged events are a run again, its last state is related to that of the full run, and the outputs of
  both runs are the same.
Imports: Dmon.Lib.TransitionSystem
Trusted boundary: none
Main exports: TransitionSystem.purge, TransitionSystem.outputs, TransitionSystem.Unwinding,
  TransitionSystem.Unwinding.purged_run
-/
import Dmon.Lib.TransitionSystem

namespace TransitionSystem

variable {σ ε ο : Type*}

/-- The visible events of the run over `es` from `s`, in order. -/
def purge (T : TransitionSystem σ ε) (keep : σ → ε → Bool) : σ → List ε → List ε
  | _, [] => []
  | s, e :: es =>
      match T.step s e with
      | none => []
      | some s' => if keep s e then e :: purge T keep s' es else purge T keep s' es

/-- What the run over `es` from `s` puts out, in order. `out s e` is the output of the step `e`. -/
def outputs (T : TransitionSystem σ ε) (out : σ → ε → Option ο) : σ → List ε → List ο
  | _, [] => []
  | s, e :: es =>
      match T.step s e with
      | none => []
      | some s' => (out s e).toList ++ outputs T out s' es

/-- Follow `es` from `s`. -/
def follow (T : TransitionSystem σ ε) : σ → List ε → Option σ
  | s, [] => some s
  | s, e :: es => (T.step s e).bind (follow T · es)

theorem follow_append (T : TransitionSystem σ ε) (s : σ) (es more : List ε) :
    T.follow s (es ++ more) = (T.follow s es).bind (T.follow · more) := by
  induction es generalizing s with
  | nil => rfl
  | cons e es ih =>
      simp only [List.cons_append, follow, Option.bind_assoc]
      exact congrArg _ (funext fun s' => ih s')

/-- A run follows its events. -/
theorem Run.follow_eq {T : TransitionSystem σ ε} {C : σ → ε → Prop} {es : List ε} {s : σ}
    (run : T.Run C es s) : T.follow T.init es = some s := by
  induction run with
  | nil => rfl
  | snoc _ _ step ih => simp [follow_append, ih, follow, step]

/-- Following events from the initial state is a run. -/
theorem Run.of_follow {T : TransitionSystem σ ε} {es : List ε} {s : σ}
    (h : T.follow T.init es = some s) : T.Run Free es s := by
  induction es using List.reverseRecOn generalizing s with
  | nil =>
      obtain rfl : T.init = s := by simpa [follow] using h
      exact .nil
  | append_singleton es e ih =>
      rw [follow_append] at h
      rcases Option.bind_eq_some_iff.1 h with ⟨mid, before, last⟩
      refine .snoc (ih before) trivial ?_
      simpa [follow] using last

/-- The unwinding conditions for the events in `Scope`: related states stay related when the left one
    takes a hidden step, and a visible step of the left one is matched by the right one with the same
    output. A hidden step puts nothing out. -/
structure Unwinding (T : TransitionSystem σ ε) (Scope : ε → Prop) (keep : σ → ε → Bool)
    (out : σ → ε → Option ο) (R : σ → σ → Prop) : Prop where
  hidden : ∀ {s t e s'}, Scope e → R s t → keep s e = false → T.step s e = some s' →
    R s' t ∧ out s e = none
  visible : ∀ {s t e s'}, Scope e → R s t → keep s e = true → T.step s e = some s' →
    ∃ t', T.step t e = some t' ∧ R s' t' ∧ out t e = out s e

/-- Under the unwinding conditions the visible events of a run are a run from every related state; it
    ends in a related state and puts out the same. -/
theorem Unwinding.purged_follow {T : TransitionSystem σ ε} {Scope : ε → Prop} {keep : σ → ε → Bool}
    {out : σ → ε → Option ο} {R : σ → σ → Prop} (U : T.Unwinding Scope keep out R)
    {es : List ε} {s t s' : σ} (scope : ∀ e ∈ es, Scope e) (related : R s t)
    (run : T.follow s es = some s') :
    ∃ t', T.follow t (T.purge keep s es) = some t' ∧ R s' t' ∧
      T.outputs out t (T.purge keep s es) = T.outputs out s es := by
  induction es generalizing s t with
  | nil =>
      obtain rfl : s = s' := by simpa [follow] using run
      exact ⟨t, rfl, related, rfl⟩
  | cons e es ih =>
      rcases Option.bind_eq_some_iff.1 run with ⟨mid, step, rest⟩
      have here : Scope e := scope e (by simp)
      have later : ∀ e' ∈ es, Scope e' := fun e' h => scope e' (by simp [h])
      cases visible : keep s e with
      | false =>
          obtain ⟨related', silent⟩ := U.hidden here related visible step
          obtain ⟨t', purged, last, same⟩ := ih later related' rest
          refine ⟨t', ?_, last, ?_⟩
          · simpa [purge, step, visible] using purged
          · simpa [purge, outputs, step, visible, silent] using same
      | true =>
          obtain ⟨mid', step', related', output⟩ := U.visible here related visible step
          obtain ⟨t', purged, last, same⟩ := ih later related' rest
          refine ⟨t', ?_, last, ?_⟩
          · simpa [purge, follow, step, step', visible] using purged
          · simp [purge, outputs, step, step', visible, output, same]

/-- The purge theorem for whole runs. -/
theorem Unwinding.purged_run {T : TransitionSystem σ ε} {Scope : ε → Prop} {keep : σ → ε → Bool}
    {out : σ → ε → Option ο} {R : σ → σ → Prop} (U : T.Unwinding Scope keep out R)
    {es : List ε} {s : σ} (scope : ∀ e ∈ es, Scope e) (related : R T.init T.init)
    (run : T.Run Free es s) :
    ∃ t, T.Run Free (T.purge keep T.init es) t ∧ R s t ∧
      T.outputs out T.init (T.purge keep T.init es) = T.outputs out T.init es := by
  obtain ⟨t, purged, last, same⟩ := U.purged_follow scope related run.follow_eq
  exact ⟨t, .of_follow purged, last, same⟩

end TransitionSystem
