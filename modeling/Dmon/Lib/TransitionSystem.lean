/-
Module: Dmon.Lib.TransitionSystem
Layer: Lib
Purpose: Deterministic labelled transition systems and their finite runs. A system is an initial state
  and a partial step function; a run is a list of events. `Run C es s` is a run all of whose steps meet
  a condition `C` on the state before the step and the event, which is how assumptions on the
  environment and conditions on a schedule are stated. The rules are the invariant rule, its version
  with the history in view, the projection rule, and the exactness rule `always_iff_throughout`: a
  property that every step of the right kind keeps, and no other, holds along a run exactly when every
  step is of that kind. `withHistory` adds a variable that notes the past of a run.
Imports: Mathlib.Data.List.Infix
Trusted boundary: none
Main exports: TransitionSystem, Run, Always, Throughout, Run.invariant, Run.historyInvariant,
  Run.foldl_filter, always_of_throughout, always_iff_throughout, exec, withHistory, Run.exists_history,
  Run.of_history
-/
import Mathlib.Data.List.Infix

/-- A deterministic labelled transition system: an initial state and a partial step function. An event
    whose step is `none` is not enabled. -/
structure TransitionSystem (σ ε : Type*) where
  init : σ
  step : σ → ε → Option σ

namespace TransitionSystem

variable {σ ε : Type*} (T : TransitionSystem σ ε)

/-- `T.Run C es s`: the events `es`, oldest first, lead from the initial state to `s`, and each of them
    met the condition `C` in the state in which it happened. -/
inductive Run (C : σ → ε → Prop) : List ε → σ → Prop where
  | nil : Run C [] T.init
  | snoc {es : List ε} {s s' : σ} {e : ε} :
      Run C es s → C s e → T.step s e = some s' → Run C (es ++ [e]) s'

/-- The condition that every step meets. -/
def Free : σ → ε → Prop := fun _ _ => True

instance (s : σ) (e : ε) : Decidable (Free s e) := inferInstanceAs (Decidable True)

variable {T}

namespace Run

variable {C D : σ → ε → Prop} {es : List ε} {s s' : σ}

/-- A run whose last event is known splits into the run before it and one step. -/
theorem snoc_inv {e : ε} (h : T.Run C (es ++ [e]) s') :
    ∃ s, T.Run C es s ∧ C s e ∧ T.step s e = some s' := by
  generalize hes : es ++ [e] = events at h
  cases h with
  | nil => simp at hes
  | snoc before cond step =>
      rcases List.append_inj' hes rfl with ⟨rfl, last⟩
      obtain rfl : _ = _ := by simpa using last
      exact ⟨_, before, cond, step⟩

/-- The first events of a run are a run. -/
theorem exists_of_append {more : List ε} (h : T.Run C (es ++ more) s') : ∃ s, T.Run C es s := by
  induction more using List.reverseRecOn generalizing s' with
  | nil => exact ⟨s', by simpa using h⟩
  | append_singleton more e ih =>
      rw [← List.append_assoc] at h
      obtain ⟨s, before, _⟩ := h.snoc_inv
      exact ih before

/-- Only the initial state is reached by no event. -/
theorem nil_inv (h : T.Run C [] s) : s = T.init := by
  generalize hes : ([] : List ε) = events at h
  cases h with
  | nil => rfl
  | snoc => simp at hes

/-- A list of events leads to at most one state. -/
theorem deterministic (one : T.Run C es s) (two : T.Run D es s') : s = s' := by
  induction one generalizing s' with
  | nil => exact two.nil_inv.symm
  | snoc _ _ step ih =>
      obtain ⟨_, before, _, step'⟩ := two.snoc_inv
      obtain rfl := ih before
      exact Option.some.inj (step.symm.trans step')

/-- A run that meets a condition meets every weaker one. -/
theorem weaken (weaker : ∀ s e, C s e → D s e) (h : T.Run C es s) : T.Run D es s := by
  induction h with
  | nil => exact .nil
  | snoc _ cond step ih => exact .snoc ih (weaker _ _ cond) step

/-- Forgetting the condition of a run. -/
theorem free (h : T.Run C es s) : T.Run Free es s :=
  h.weaken fun _ _ _ => trivial

/-- The invariant rule with the history in view: what holds of the empty run and is kept by every step
    of a run holds of every run together with the state it leads to. -/
theorem historyInvariant {I : List ε → σ → Prop} (start : I [] T.init)
    (keep : ∀ es s e s', I es s → C s e → T.step s e = some s' → I (es ++ [e]) s')
    (h : T.Run C es s) : I es s := by
  induction h with
  | nil => exact start
  | snoc _ cond step ih => exact keep _ _ _ _ ih cond step

/-- The invariant rule: what holds initially and is kept by every step holds in every state reached. -/
theorem invariant {I : σ → Prop} (start : I T.init)
    (keep : ∀ s e s', I s → C s e → T.step s e = some s' → I s') (h : T.Run C es s) : I s :=
  h.historyInvariant (I := fun _ => I) start fun _ => keep

/-- The projection rule. A view of the state that only the `visible` events change, and they by `after`, is
    the fold of `after` over the visible events of a run. -/
theorem foldl_filter {β : Type*} {I : σ → Prop} {visible : ε → Bool} {after : β → ε → β} (view : σ → β)
    (start : I T.init) (keep : ∀ s e s', I s → C s e → T.step s e = some s' → I s')
    (project : ∀ s e s', I s → C s e → T.step s e = some s' →
      view s' = if visible e then after (view s) e else view s)
    (h : T.Run C es s) : view s = (es.filter visible).foldl after (view T.init) := by
  induction h with
  | nil => rfl
  | @snoc es s s' e before cond step ih =>
      rw [project s e s' (before.invariant start keep) cond step, List.filter_append, List.foldl_append,
        ← ih]
      cases seen : visible e <;> simp [seen]

end Run

/-! ### Evaluating a run

`exec` is the executable reading of `Run`: it follows the events and checks a decidable condition at
each of them. -/

/-- Follow `es` from `s`, checking `C` at each event. -/
def exec (T : TransitionSystem σ ε) (C : σ → ε → Prop) [∀ s e, Decidable (C s e)] :
    σ → List ε → Option σ
  | s, [] => some s
  | s, e :: es => if C s e then (T.step s e).bind (exec T C · es) else none

/-- Following more events after a run extends it. -/
theorem Run.of_exec_append {C : σ → ε → Prop} [∀ s e, Decidable (C s e)] {es more : List ε} {s s' : σ}
    (before : T.Run C es s) (h : T.exec C s more = some s') : T.Run C (es ++ more) s' := by
  induction more generalizing es s with
  | nil =>
      obtain rfl : s = s' := by simpa [exec] using h
      simpa using before
  | cons e rest ih =>
      simp only [exec] at h
      split at h
      next cond =>
        rcases Option.bind_eq_some_iff.1 h with ⟨mid, step, tail⟩
        have longer : T.Run C ((es ++ [e]) ++ rest) s' := ih (.snoc before cond step) tail
        simpa using longer
      next => cases h

/-- An evaluated run is a run. -/
theorem Run.of_exec {C : σ → ε → Prop} [∀ s e, Decidable (C s e)] {es : List ε} {s : σ}
    (h : T.exec C T.init es = some s) : T.Run C es s := by
  simpa using Run.nil.of_exec_append h

/-- A run whose evaluation ends in a state with a given property, for concrete events. -/
theorem Run.exists_of_exec {C : σ → ε → Prop} [∀ s e, Decidable (C s e)] {es : List ε} {p : σ → Bool}
    (h : (T.exec C T.init es).any p = true) : ∃ s, T.Run C es s ∧ p s = true := by
  cases reached : T.exec C T.init es with
  | none => simp [reached] at h
  | some s => exact ⟨s, .of_exec reached, by simpa [reached] using h⟩

/-! ### Properties along a run -/

/-- `P` holds in every state that the run over `es` visits. -/
def Always (T : TransitionSystem σ ε) (C : σ → ε → Prop) (P : σ → Prop) (es : List ε) : Prop :=
  ∀ pre s, pre <+: es → T.Run C pre s → P s

/-- `D` holds of every event of the run over `es`, in the state in which the event happens. -/
def Throughout (T : TransitionSystem σ ε) (C : σ → ε → Prop) (D : σ → ε → Prop) (es : List ε) : Prop :=
  ∀ pre e s, pre ++ [e] <+: es → T.Run C pre s → D s e

section Along

variable {C D D' : σ → ε → Prop} {P : σ → Prop} {es : List ε} {s s' : σ} {e : ε}

/-- A property of all visited states holds of the last one. -/
theorem Always.last (h : T.Always C P es) (run : T.Run C es s) : P s :=
  h es s List.prefix_rfl run

/-- A weaker property holds along the same runs. -/
theorem Always.weaken {Q : σ → Prop} (weaker : ∀ s, P s → Q s) (h : T.Always C P es) :
    T.Always C Q es :=
  fun pre s hpre run => weaker s (h pre s hpre run)

theorem always_nil (start : P T.init) : T.Always C P [] := by
  intro pre s hpre run
  obtain rfl := List.prefix_nil.1 hpre
  exact run.nil_inv ▸ start

/-- One more event visits one more state. -/
theorem always_snoc (run : T.Run C (es ++ [e]) s') :
    T.Always C P (es ++ [e]) ↔ T.Always C P es ∧ P s' := by
  constructor
  · intro h
    exact ⟨fun pre s hpre => h pre s (hpre.trans (List.prefix_append es [e])), h.last run⟩
  · intro both pre s hpre visited
    rcases both with ⟨before, after⟩
    rcases List.prefix_concat_iff.1 hpre with rfl | shorter
    · exact visited.deterministic run ▸ after
    · exact before pre s shorter visited

theorem throughout_nil : T.Throughout C D [] := by
  intro pre e s hpre _
  simp at hpre

/-- One more event is one more step to meet the condition. -/
theorem throughout_snoc (run : T.Run C es s) :
    T.Throughout C D (es ++ [e]) ↔ T.Throughout C D es ∧ D s e := by
  constructor
  · intro h
    exact ⟨fun pre e' s' hpre => h pre e' s' (hpre.trans (List.prefix_append es [e])),
      h es e s List.prefix_rfl run⟩
  · intro both pre e' s' hpre visited
    rcases both with ⟨before, last⟩
    rcases List.prefix_concat_iff.1 hpre with same | shorter
    · rcases List.append_inj' same rfl with ⟨rfl, tail⟩
      obtain rfl : e' = e := by simpa using tail
      exact visited.deterministic run ▸ last
    · exact before pre e' s' shorter visited

/-- Two conditions that agree at every step of the runs under `C` hold throughout the same runs. -/
theorem throughout_congr {I : σ → Prop} (start : I T.init)
    (keep : ∀ s e s', I s → C s e → T.step s e = some s' → I s')
    (agree : ∀ s e, I s → C s e → (D s e ↔ D' s e)) (run : T.Run C es s) :
    T.Throughout C D es ↔ T.Throughout C D' es := by
  induction run with
  | nil => exact ⟨fun _ => throughout_nil, fun _ => throughout_nil⟩
  | @snoc es s s' e before cond step ih =>
      rw [throughout_snoc before, throughout_snoc before, ih]
      exact and_congr_right fun _ => agree s e (before.invariant start keep) cond

/-- A property that every step meeting `D` keeps holds in every state of a run whose steps all meet
    `D`. -/
theorem always_of_throughout {I : σ → Prop} (start : I T.init) (holds : P T.init)
    (keep : ∀ s e s', I s → C s e → T.step s e = some s' → I s')
    (kept : ∀ s e s', I s → P s → C s e → D s e → T.step s e = some s' → P s')
    (run : T.Run C es s) (h : T.Throughout C D es) : T.Always C P es := by
  induction run with
  | nil => exact always_nil holds
  | @snoc es s s' e before cond step ih =>
      obtain ⟨earlier, here⟩ := (throughout_snoc before).1 h
      have visited : T.Always C P es := ih earlier
      rw [always_snoc (.snoc before cond step)]
      exact ⟨visited, kept s e s' (before.invariant start keep) (visited.last before) cond here step⟩

/-- The steps of a run under a condition all meet it. -/
theorem Run.throughout (run : T.Run D es s) : T.Throughout Free D es := by
  induction run with
  | nil => exact throughout_nil
  | snoc before cond _ ih => exact (throughout_snoc before.free).2 ⟨ih, cond⟩

/-- The steps of a run under two conditions meet the second one throughout the run under the first. -/
theorem Run.throughout_of_and (run : T.Run (fun s e => C s e ∧ D s e) es s) : T.Throughout C D es := by
  intro pre e v here visited
  exact (run.throughout pre e v here visited.free).2

/-- A run whose steps all meet a condition is a run under it. -/
theorem Run.of_throughout (run : T.Run C es s) (h : T.Throughout Free D es) :
    T.Run (fun s e => C s e ∧ D s e) es s := by
  induction run with
  | nil => exact .nil
  | snoc before cond step ih =>
      obtain ⟨earlier, here⟩ := (throughout_snoc before.free).1 h
      exact .snoc (ih earlier) ⟨cond, here⟩ step

/-- The steps of a run may assume an invariant. -/
theorem Run.strengthen {I : σ → Prop} (start : I T.init)
    (keep : ∀ s e s', I s → C s e → T.step s e = some s' → I s') (run : T.Run C es s) :
    T.Run (fun s e => C s e ∧ I s) es s := by
  induction run with
  | nil => exact .nil
  | snoc before cond step ih => exact .snoc ih ⟨cond, before.invariant start keep⟩ step

/-- What an invariant and a condition imply of a step holds throughout every run that meets the condition
    throughout. -/
theorem throughout_of_throughout {I : σ → Prop} (start : I T.init)
    (keep : ∀ s e s', I s → C s e → D s e → T.step s e = some s' → I s')
    (given : ∀ s e, I s → D s e → D' s e) (run : T.Run C es s) (h : T.Throughout C D es) :
    T.Throughout C D' es := by
  have always : T.Always C I es :=
    always_of_throughout (I := fun _ => True) trivial start (fun _ _ _ _ _ _ => trivial)
      (fun s e s' _ => keep s e s') run h
  intro pre e s hpre visited
  have earlier : pre <+: es := (List.prefix_append pre [e]).trans hpre
  exact given s e (always pre s earlier visited) (h pre e s hpre visited)

/-- The exactness rule. Let `I` be an invariant of the runs under `C`, and let a step from a state with
    `P` lead to a state with `P` exactly when the step meets `D`. Then `P` holds in every state of a run
    exactly when every step of the run meets `D`. -/
theorem always_iff_throughout {I : σ → Prop} (start : I T.init) (holds : P T.init)
    (keep : ∀ s e s', I s → C s e → T.step s e = some s' → I s')
    (exact_step : ∀ s e s', I s → P s → C s e → T.step s e = some s' → (P s' ↔ D s e))
    (run : T.Run C es s) : T.Always C P es ↔ T.Throughout C D es := by
  induction run with
  | nil => exact ⟨fun _ => throughout_nil, fun _ => always_nil holds⟩
  | @snoc es s s' e before cond step ih =>
      have inv : I s := before.invariant start keep
      rw [always_snoc (.snoc before cond step), throughout_snoc before, ← ih]
      exact and_congr_right fun earlier =>
        exact_step s e s' inv (earlier.last before) cond step

end Along

/-! ### History variables

A history variable notes what a condition needs to know of the past. It changes nothing about the runs. -/

section History

variable {η : Type*} {C D : σ → ε → Prop} {es : List ε} {s : σ} {start : η} {note : η → σ → ε → η}

/-- The system with a history variable: `note` updates it from the state before a step and the event. -/
def withHistory (T : TransitionSystem σ ε) (start : η) (note : η → σ → ε → η) :
    TransitionSystem (σ × η) ε where
  init := (T.init, start)
  step v e := (T.step v.1 e).map fun s => (s, note v.2 v.1 e)

/-- A step of the system with the variable is a step of the system, noted. -/
theorem withHistory_step {v v' : σ × η} {e : ε} :
    (T.withHistory start note).step v e = some v' ↔
      T.step v.1 e = some v'.1 ∧ v'.2 = note v.2 v.1 e := by
  simp only [withHistory, Option.map_eq_some_iff]
  constructor
  · intro noted
    obtain ⟨s, step, rfl⟩ := noted
    exact ⟨step, rfl⟩
  · intro both
    obtain ⟨step, same⟩ := both
    exact ⟨v'.1, step, by rw [← same]⟩

/-- Every run has a history. -/
theorem Run.exists_history (start : η) (note : η → σ → ε → η) (run : T.Run C es s) :
    ∃ h, (T.withHistory start note).Run (fun v => C v.1) es (s, h) := by
  induction run with
  | nil => exact ⟨start, .nil⟩
  | snoc _ cond step ih =>
      obtain ⟨h, before⟩ := ih
      exact ⟨_, .snoc before cond (withHistory_step.2 ⟨step, rfl⟩)⟩

/-- A run with its history is a run. -/
theorem Run.of_history {v : σ × η} (run : (T.withHistory start note).Run (fun v => C v.1) es v) :
    T.Run C es v.1 := by
  induction run with
  | nil => exact .nil
  | snoc _ cond step ih => exact .snoc ih cond (withHistory_step.1 step).1

end History

end TransitionSystem
