/-
Module: Dmon.Proofs.Application
Layer: Proofs
Purpose: The application against its parts. What it does to the shared data is a run of the program in which
  the UI thread asks only for named selectors, and every such run of the program is one that the user can
  bring about. What it does to the window is a run of the window, and what that does to one of the two lists
  is a run of a list alone. So what is proved about the program, the window and the lists holds in the
  running application.
Imports: Dmon.Lib.Refinement, Dmon.Model.Application, Dmon.Proofs.Content, Dmon.Proofs.FetchOutcome,
  Dmon.Proofs.Selectors
Trusted boundary: none
Main exports: FromSelectors, Application.event?, Application.windowEvent?, Window.displayerEvent?,
  throughWorld, throughWindow, throughDisplayer, application_exact, application_view
-/
import Dmon.Lib.Refinement
import Dmon.Model.Application
import Dmon.Proofs.Content
import Dmon.Proofs.FetchOutcome
import Dmon.Proofs.Selectors

namespace Dmon

open Execution
open TransitionSystem (Free Refinement)

/-! ### What an action is to the parts -/

namespace Application

/-- The step of the program that an action is, if it is one. -/
def event? (a : Application) : Action → Option Event
  | .search => if a.searchSelector.isEmpty then none else some (.fetch a.searchSelector)
  | .subscribe => if a.subscribeSelector.isEmpty then none else some (.subscribe a.subscribeSelector)
  | .runTask => some .runTask
  | .animate sig => some (.animate sig)
  | .deliver h id => some (.deliver h id)
  | .advance => some .advance
  | _ => none

/-- What an action is to the window, if it is anything: an accepted request, the first task of the queue, or
    an event of the view. -/
def windowEvent? (a : Application) : Action → Option Window.Event
  | .search => if !a.searchSelector.isEmpty && a.session.accepts then some .fetchAccepted else none
  | .subscribe =>
      if !a.subscribeSelector.isEmpty && a.session.accepts then some .subscribeAccepted else none
  | .key pane focused event => some (.key pane focused event)
  | .toggle entry => some (.toggle entry)
  | .edit pane text => some (.edit pane text)
  | .render => some .render
  | .runTask => a.queue.head?.map .task
  | _ => none

end Application

/-- What an event of the window is to the list of one of the tabs, if it is anything. -/
def Window.displayerEvent? (pane : Pane) (w : Window) : Window.Event → Option LogDisplayer.Event
  | .key other focused event => if other = pane then some (.onEvent focused event) else none
  | .fetchAccepted => if pane = .search then some .clearSelected else none
  | .subscribeAccepted => if pane = .subscription then some .clearSelected else none
  | .render => if w.drawnPane? = some pane then some (.renderLines (w.topicsOf pane)) else none
  | _ => none

/-- The UI thread asks only for non-empty selectors, and never calls `Session::unsubscribe`. -/
def FromSelectors (_ : World) (e : Event) : Prop :=
  e.Named ∧ e.isUnsubscribe = false

instance (w : World) (e : Event) : Decidable (FromSelectors w e) :=
  inferInstanceAs (Decidable (e.Named ∧ e.isUnsubscribe = false))

/-- The action meets a condition on the steps of the program. -/
def Application.Meets (C : World → Event → Prop) (a : Application) (x : Application.Action) : Prop :=
  ∀ e, a.event? x = some e → C a.world e

instance (C : World → Event → Prop) [∀ w e, Decidable (C w e)] (a : Application)
    (x : Application.Action) : Decidable (a.Meets C x) :=
  decidable_of_iff (∀ e ∈ a.event? x, C a.world e) Iff.rfl

/-! ### The shared data -/

/-- An event that only the view answers. -/
def Window.Event.isView : Window.Event → Bool
  | .key .. | .toggle _ | .edit .. | .render => true
  | .fetchAccepted | .subscribeAccepted | .task _ => false

/-- The view changes nothing that the callbacks and the tasks write. -/
theorem Window.toMainComponent_of_after {w w' : Window} {e : Window.Event} (own : e.isView = true)
    (returns : w.after e = .ok w') : w'.toMainComponent = w.toMainComponent := by
  cases e with
  | key pane focused event =>
      obtain ⟨answered, _, last⟩ := exists_of_bind returns
      obtain rfl := Except.ok.inj last
      cases pane <;> rfl
  | toggle entry =>
      obtain rfl := Except.ok.inj returns
      rfl
  | edit pane text =>
      obtain rfl := Except.ok.inj returns
      cases pane <;> rfl
  | render =>
      obtain ⟨rows, rendered⟩ := exists_of_after_render returns
      cases drawn : w.drawnPane? with
      | none =>
          obtain rfl := render_other rendered drawn
          rfl
      | some pane =>
          obtain ⟨d, _, rfl⟩ := render_spec rendered drawn
          cases pane <;> rfl
  | fetchAccepted | subscribeAccepted | task => cases own

namespace Application

variable {a a' : Application} {w : World}

@[simp] theorem world_setWorld (a : Application) (w : World) : (a.setWorld w).world = w := rfl

@[simp] theorem setWorld_world (a : Application) : a.setWorld a.world = a := rfl

/-- A named search is `Session::fetch` of the program. -/
theorem step_search (named : a.searchSelector.isEmpty = false) :
    a.world.step (.fetch a.searchSelector) = some a.search.world := by
  cases accepts : a.session.accepts with
  | true =>
      have free : a.world.session.accepts = true := accepts
      simp only [World.step, Shared.search, Shared.fetch, search, named, free]
      rfl
  | false =>
      have busy : a.world.session.accepts = false := accepts
      simp only [World.step, Shared.search, Shared.fetch, search, named, busy]
      rfl

/-- A named subscription is `Session::subscribe` of the program. -/
theorem step_requestSubscription (named : a.subscribeSelector.isEmpty = false) :
    a.world.step (.subscribe a.subscribeSelector) = some a.requestSubscription.world := by
  cases accepts : a.session.accepts with
  | true =>
      have free : a.world.session.accepts = true := accepts
      simp only [World.step, Shared.requestSubscription, Shared.subscribe, requestSubscription, named, free]
      rfl
  | false =>
      have busy : a.world.session.accepts = false := accepts
      simp only [World.step, Shared.requestSubscription, Shared.subscribe, requestSubscription, named, busy]
      rfl

/-- What is done to the shared data alone is the step of the program. -/
theorem world_of_act {e : Event} (moved : a.act e = some a') : a.world.step e = some a'.world := by
  obtain ⟨w, step, rfl⟩ := Option.map_eq_some_iff.1 moved
  exact step

/-- What is done to the window alone. -/
theorem exists_of_view {e : Window.Event} (moved : a.view e = some a') :
    ∃ window, a.window.after e = .ok window ∧ a' = { a with window := window } := by
  obtain ⟨window, after, rfl⟩ := Option.map_eq_some_iff.1 moved
  exact ⟨window, toOption_eq_some.1 after, rfl⟩

/-- The shared data stay as they are when only the view changes. -/
theorem world_of_view {e : Window.Event} (own : e.isView = true) (moved : a.view e = some a') :
    a'.world = a.world := by
  obtain ⟨window, after, rfl⟩ := exists_of_view moved
  have kept := Window.toMainComponent_of_after own after
  simp only [world, kept]

theorem exists_of_dumpAndExit {opens : Bool} (returns : a.dumpAndExit opens = .ok a') :
    ∃ file, a' = { a with dumpFile := file, exiting := true } := by
  cases opens with
  | false =>
      obtain rfl := Except.ok.inj returns
      exact ⟨a.dumpFile, rfl⟩
  | true =>
      obtain ⟨saved, opened, last⟩ := exists_of_bind returns
      obtain rfl := Except.ok.inj last
      exact ⟨_, rfl⟩

/-- An action that is no step of the program leaves the shared data as they are. -/
theorem world_of_event?_eq_none {x : Action} (none : a.event? x = none) (step : a.step x = some a') :
    a'.world = a.world := by
  cases x with
  | search =>
      have unnamed : a.searchSelector.isEmpty = true := by simpa [event?] using none
      obtain rfl := Option.some.inj step
      rw [search, if_pos unnamed]
  | subscribe =>
      have unnamed : a.subscribeSelector.isEmpty = true := by simpa [event?] using none
      obtain rfl := Option.some.inj step
      rw [requestSubscription, if_pos unnamed]
  | copy works =>
      obtain rfl := Option.some.inj step
      cases works <;> rfl
  | dumpAndExit opens =>
      obtain ⟨file, rfl⟩ := exists_of_dumpAndExit (toOption_eq_some.1 step)
      rfl
  | key pane focused event => exact world_of_view (e := .key pane focused event) rfl step
  | toggle entry => exact world_of_view (e := .toggle entry) rfl step
  | edit pane text => exact world_of_view (e := .edit pane text) rfl step
  | render => exact world_of_view (e := .render) rfl step
  | runTask | animate | deliver | advance => cases none
  | _ =>
      obtain rfl := Option.some.inj step
      rfl

/-- An action that is a step of the program does that step to the shared data. -/
theorem world_of_event? {x : Action} {e : Event} (labelled : a.event? x = some e)
    (step : a.step x = some a') : a.world.step e = some a'.world := by
  cases x with
  | search =>
      obtain ⟨named, rfl⟩ : a.searchSelector.isEmpty = false ∧ .fetch a.searchSelector = e := by
        simpa [event?] using labelled
      obtain rfl := Option.some.inj step
      exact step_search named
  | subscribe =>
      obtain ⟨named, rfl⟩ :
          a.subscribeSelector.isEmpty = false ∧ .subscribe a.subscribeSelector = e := by
        simpa [event?] using labelled
      obtain rfl := Option.some.inj step
      exact step_requestSubscription named
  | runTask | animate | deliver | advance =>
      obtain rfl := Option.some.inj labelled
      exact world_of_act step
  | _ => cases labelled

/-- The requests come from the selector inputs, and only with a text in them. -/
theorem fromSelectors_of_event? {x : Action} {e : Event} (labelled : a.event? x = some e) :
    FromSelectors a.world e := by
  cases x with
  | search =>
      obtain ⟨named, rfl⟩ : ¬ a.searchSelector = "" ∧ .fetch a.searchSelector = e := by
        simpa [event?] using labelled
      exact ⟨named, rfl⟩
  | subscribe =>
      obtain ⟨named, rfl⟩ : ¬ a.subscribeSelector = "" ∧ .subscribe a.subscribeSelector = e := by
        simpa [event?] using labelled
      exact ⟨named, rfl⟩
  | runTask | animate | deliver | advance =>
      obtain rfl := Option.some.inj labelled
      exact ⟨trivial, rfl⟩
  | _ => cases labelled

/-- What is no step of the program meets every condition on these. -/
theorem meets_of_event?_eq_none {C : World → Event → Prop} {x : Action} (none : a.event? x = none) :
    a.Meets C x := by
  intro e labelled
  rw [none] at labelled
  cases labelled

end Application

/-- The application refines the program: it meets every condition that its actions meet, and asks only for
    named selectors. -/
def throughWorld (C : World → Event → Prop) :
    Refinement application program (Application.Meets C) (fun w e => C w e ∧ FromSelectors w e) where
  view := Application.world
  label := Application.event?
  init := rfl
  silent _ _ _ _ step none := Application.world_of_event?_eq_none none step
  acts _ _ _ e meets step labelled :=
    ⟨⟨meets e labelled, Application.fromSelectors_of_event? labelled⟩,
      Application.world_of_event? labelled step⟩

section Realized

variable {C : World → Event → Prop} {xs : List Application.Action} {es : List Event} {a a' : Application}
  {w w' : World} {x : Application.Action} {e : Event}

/-- One more action of a run that shows some events. -/
theorem shown_event?_concat (run : application.Run (Application.Meets C) xs a)
    (shown : application.shown Application.event? xs = es) :
    application.shown Application.event? (xs ++ [x]) = es ++ (a.event? x).toList := by
  rw [run.shown_concat Application.event?, shown]

/-- An action that is a step of the program can be taken where that step can. -/
theorem exists_act (run : application.Run (Application.Meets C) xs a)
    (shown : application.shown Application.event? xs = es) (labelled : a.event? x = some e)
    (cond : C a.world e) (step : application.step a x = some a') (own : a.world.step e = some w') :
    ∃ xs' a', application.Run (Application.Meets C) xs' a' ∧
      application.shown Application.event? xs' = es ++ [e] ∧ a'.world = w' := by
  have meets : a.Meets C x := by
    intro d same
    obtain rfl := Option.some.inj (labelled.symm.trans same)
    exact cond
  refine ⟨xs ++ [x], a', .snoc run meets step, ?_, ?_⟩
  · rw [shown_event?_concat run shown, labelled]
    rfl
  · exact Option.some.inj ((Application.world_of_event? labelled step).symm.trans own)

/-- The user can type any text into a selector input first. -/
theorem exists_typed (run : application.Run (Application.Meets C) xs a)
    (shown : application.shown Application.event? xs = es) (selector : String) :
    ∃ xs' a', application.Run (Application.Meets C) xs' a' ∧
      application.shown Application.event? xs' = es ∧ a'.world = a.world ∧
      a'.searchSelector = selector ∧ a'.subscribeSelector = selector := by
  have searched : application.Run (Application.Meets C) (xs ++ [.typeSearch selector])
      { a with searchSelector := selector } := .snoc run (Application.meets_of_event?_eq_none rfl) rfl
  have both : application.Run (Application.Meets C)
      (xs ++ [.typeSearch selector] ++ [.typeSubscribe selector])
      { a with searchSelector := selector, subscribeSelector := selector } :=
    .snoc searched (Application.meets_of_event?_eq_none rfl) rfl
  refine ⟨_, _, both, ?_, rfl, rfl, rfl⟩
  rw [shown_event?_concat searched (shown_event?_concat run shown)]
  simp [Application.event?]

/-- Every step of the program for a named selector can be brought about by the user. -/
theorem exists_step (run : application.Run (Application.Meets C) xs a)
    (shown : application.shown Application.event? xs = es) (cond : C a.world e)
    (given : FromSelectors a.world e) (own : a.world.step e = some w') :
    ∃ xs' a', application.Run (Application.Meets C) xs' a' ∧
      application.shown Application.event? xs' = es ++ [e] ∧ a'.world = w' := by
  cases e with
  | fetch selector =>
      obtain ⟨xs', b, typed, same, world, rfl, -⟩ := exists_typed run shown selector
      rw [← world] at cond own
      exact exists_act typed same (x := .search)
        (by simpa [Application.event?, Event.Named] using given.1) cond rfl own
  | subscribe selector =>
      obtain ⟨xs', b, typed, same, world, -, rfl⟩ := exists_typed run shown selector
      rw [← world] at cond own
      exact exists_act typed same (x := .subscribe)
        (by simpa [Application.event?, Event.Named] using given.1) cond rfl own
  | unsubscribe selector => cases given.2
  | runTask =>
      have moved := congrArg (Option.map a.setWorld) own
      exact exists_act run shown (x := .runTask) rfl cond moved own
  | animate sig =>
      have moved := congrArg (Option.map a.setWorld) own
      exact exists_act run shown (x := .animate sig) rfl cond moved own
  | deliver h id =>
      have moved := congrArg (Option.map a.setWorld) own
      exact exists_act run shown (x := .deliver h id) rfl cond moved own
  | advance =>
      have moved := congrArg (Option.map a.setWorld) own
      exact exists_act run shown (x := .advance) rfl cond moved own

/-- Every run of the program for named selectors is shown by a run of the application. -/
theorem exists_application_run (run : program.Run (fun w e => C w e ∧ FromSelectors w e) es w) :
    ∃ xs a, application.Run (Application.Meets C) xs a ∧
      application.shown Application.event? xs = es ∧ a.world = w := by
  induction run with
  | nil => exact ⟨[], {}, .nil, rfl, rfl⟩
  | snoc _ cond step ih =>
      obtain ⟨xs, a, own, shown, rfl⟩ := ih
      exact exists_step own shown cond.1 cond.2 step

end Realized

/-! ### The window -/

/-- Only the UI thread's requests and tasks touch the component. -/
theorem Transition.component {w w' : World} {e : Event} (moved : Transition w e w') (notTask : e ≠ .runTask)
    (notRequest : ∀ selector, e ≠ .fetch selector ∧ e ≠ .subscribe selector) :
    w'.component = w.component := by
  cases moved with
  | fetchAccepted selector | subscribeAccepted selector => simp at notRequest
  | ran => exact absurd rfl notTask
  | _ => rfl

namespace Application

variable {a a' : Application}

/-- A step of the program that does not touch the component leaves the window as it is. -/
theorem window_of_act {e : Event} (moved : a.act e = some a') (notTask : e ≠ .runTask)
    (notRequest : ∀ selector, e ≠ .fetch selector ∧ e ≠ .subscribe selector) : a'.window = a.window := by
  obtain ⟨w, step, rfl⟩ := Option.map_eq_some_iff.1 moved
  have kept := (Transition.of_step step).component notTask notRequest
  simp only [setWorld, kept]
  rfl

/-- The window after the first task of the queue. -/
theorem window_of_runTask (moved : a.act .runTask = some a') :
    ∃ task, a.queue.head? = some task ∧ a.window.after (.task task) = .ok a'.window := by
  obtain ⟨w, step, rfl⟩ := Option.map_eq_some_iff.1 moved
  have task : Transition a.world .runTask w := .of_step step
  cases task with
  | ran task rest queue =>
      have first : a.queue = task :: rest := queue
      exact ⟨task, by rw [first]; rfl, rfl⟩

theorem window_search (a : Application) :
    a.window.after .fetchAccepted = .ok a.search.window ∧ a.windowEvent? .search = some .fetchAccepted ∨
      a.search.window = a.window ∧ a.windowEvent? .search = none := by
  cases unnamed : a.searchSelector.isEmpty with
  | true => exact .inr (by simp [search, windowEvent?, unnamed])
  | false =>
      cases accepts : a.session.accepts with
      | true =>
          have free : a.world.session.accepts = true := accepts
          refine .inl ⟨?_, by simp [windowEvent?, unnamed, accepts]⟩
          simp only [search, unnamed, Shared.fetch, free]
          rfl
      | false =>
          have busy : a.world.session.accepts = false := accepts
          refine .inr ⟨?_, by simp [windowEvent?, unnamed, accepts]⟩
          simp only [search, unnamed, Shared.fetch, busy]
          rfl

theorem window_requestSubscription (a : Application) :
    a.window.after .subscribeAccepted = .ok a.requestSubscription.window ∧
        a.windowEvent? .subscribe = some .subscribeAccepted ∨
      a.requestSubscription.window = a.window ∧ a.windowEvent? .subscribe = none := by
  cases unnamed : a.subscribeSelector.isEmpty with
  | true => exact .inr (by simp [requestSubscription, windowEvent?, unnamed])
  | false =>
      cases accepts : a.session.accepts with
      | true =>
          have free : a.world.session.accepts = true := accepts
          refine .inl ⟨?_, by simp [windowEvent?, unnamed, accepts]⟩
          simp only [requestSubscription, unnamed, Shared.subscribe, free]
          rfl
      | false =>
          have busy : a.world.session.accepts = false := accepts
          refine .inr ⟨?_, by simp [windowEvent?, unnamed, accepts]⟩
          simp only [requestSubscription, unnamed, Shared.subscribe, busy]
          rfl

/-- What an action does to the window is the event it is to the window, or nothing. -/
theorem window_of_step {x : Action} (step : a.step x = some a') :
    (∃ e, a.windowEvent? x = some e ∧ a.window.after e = .ok a'.window) ∨
      a.windowEvent? x = none ∧ a'.window = a.window := by
  have seen : ∀ {e}, a.windowEvent? x = some e → a.view e = some a' →
      ∃ e, a.windowEvent? x = some e ∧ a.window.after e = .ok a'.window := by
    intro e labelled moved
    obtain ⟨window, after, rfl⟩ := exists_of_view moved
    exact ⟨e, labelled, after⟩
  cases x with
  | search =>
      obtain rfl := Option.some.inj step
      rcases a.window_search with ⟨after, labelled⟩ | ⟨kept, none⟩
      · exact .inl ⟨_, labelled, after⟩
      · exact .inr ⟨none, kept⟩
  | subscribe =>
      obtain rfl := Option.some.inj step
      rcases a.window_requestSubscription with ⟨after, labelled⟩ | ⟨kept, none⟩
      · exact .inl ⟨_, labelled, after⟩
      · exact .inr ⟨none, kept⟩
  | runTask =>
      obtain ⟨task, first, after⟩ := window_of_runTask step
      exact .inl ⟨_, by rw [windowEvent?, first]; rfl, after⟩
  | key | toggle | edit | render => exact .inl (seen rfl step)
  | animate sig => exact .inr ⟨rfl, window_of_act (e := .animate sig) step (by simp) (by simp)⟩
  | deliver h id => exact .inr ⟨rfl, window_of_act (e := .deliver h id) step (by simp) (by simp)⟩
  | advance => exact .inr ⟨rfl, window_of_act (e := .advance) step (by simp) (by simp)⟩
  | copy works =>
      obtain rfl := Option.some.inj step
      exact .inr ⟨rfl, by cases works <;> rfl⟩
  | dumpAndExit opens =>
      obtain ⟨file, rfl⟩ := exists_of_dumpAndExit (toOption_eq_some.1 step)
      exact .inr ⟨rfl, rfl⟩
  | _ =>
      obtain rfl := Option.some.inj step
      exact .inr ⟨rfl, rfl⟩

end Application

/-- The application refines the window. -/
def throughWindow : Refinement application mainWindow Free Returns where
  view := Application.window
  label := Application.windowEvent?
  init := rfl
  silent a x a' _ step none := by
    rcases Application.window_of_step step with ⟨e, labelled, _⟩ | ⟨_, kept⟩
    · rw [none] at labelled
      cases labelled
    · exact kept
  acts a x a' e _ step labelled := by
    rcases Application.window_of_step step with ⟨own, same, after⟩ | ⟨none, _⟩
    · obtain rfl := Option.some.inj (labelled.symm.trans same)
      exact ⟨⟨_, after⟩, toOption_eq_some.2 after⟩
    · rw [none] at labelled
      cases labelled

/-! ### The lists -/

namespace Window

variable {w w' : Window} {e : Window.Event} {pane : Pane}

/-- What an event of the window does to the list of a tab is the event it is to the list, or nothing. -/
theorem displayer_of_after (pane : Pane) (returns : w.after e = .ok w') :
    (∃ d, w.displayerEvent? pane e = some d ∧ (w.displayer pane).after d = .ok (w'.displayer pane)) ∨
      w.displayerEvent? pane e = none ∧ w'.displayer pane = w.displayer pane := by
  cases e with
  | key other focused event =>
      obtain ⟨answered, here, last⟩ := exists_of_bind returns
      obtain rfl := Except.ok.inj last
      by_cases own : other = pane
      · subst own
        refine .inl ⟨_, if_pos rfl, ?_⟩
        rw [displayer_setDisplayer, if_pos rfl, LogDisplayer.after, here]
        rfl
      · refine .inr ⟨if_neg own, ?_⟩
        rw [displayer_setDisplayer, if_neg (Ne.symm own)]
  | fetchAccepted =>
      obtain rfl := Except.ok.inj returns
      cases pane with
      | search => exact .inl ⟨_, rfl, rfl⟩
      | subscription => exact .inr ⟨rfl, rfl⟩
  | subscribeAccepted =>
      obtain rfl := Except.ok.inj returns
      cases pane with
      | search => exact .inr ⟨rfl, rfl⟩
      | subscription => exact .inl ⟨_, rfl, rfl⟩
  | render =>
      obtain ⟨rows, rendered⟩ := exists_of_after_render returns
      by_cases own : w.drawnPane? = some pane
      · obtain ⟨d, list, rfl⟩ := render_spec rendered own
        refine .inl ⟨_, if_pos own, ?_⟩
        rw [displayer_setDisplayer, if_pos rfl, LogDisplayer.after, list]
        rfl
      · refine .inr ⟨if_neg own, ?_⟩
        cases drawn : w.drawnPane? with
        | none =>
            obtain rfl := render_other rendered drawn
            exact displayer_takeSelected w pane
        | some other =>
            obtain ⟨d, _, rfl⟩ := render_spec rendered drawn
            have ne : pane ≠ other := by
              intro same
              rw [drawn, same] at own
              exact own rfl
            rw [displayer_setDisplayer, if_neg ne, displayer_takeSelected]
  | toggle | task =>
      obtain rfl := Except.ok.inj returns
      exact .inr ⟨rfl, by cases pane <;> rfl⟩
  | edit other text =>
      obtain rfl := Except.ok.inj returns
      exact .inr ⟨rfl, displayer_setPayload w text other pane⟩

end Window

/-- The window refines the list of each of its tabs. -/
def throughDisplayer (pane : Pane) : Refinement mainWindow displayer Returns Free where
  view w := w.displayer pane
  label := Window.displayerEvent? pane
  init := by cases pane <;> rfl
  silent w e w' _ step none := by
    have returns := Window.after_of_step step
    rcases Window.displayer_of_after pane returns with ⟨d, labelled, _⟩ | ⟨_, kept⟩
    · rw [none] at labelled
      cases labelled
    · exact kept
  acts w e w' d _ step labelled := by
    have returns := Window.after_of_step step
    rcases Window.displayer_of_after pane returns with ⟨own, same, after⟩ | ⟨none, _⟩
    · obtain rfl := Option.some.inj (labelled.symm.trans same)
      exact ⟨trivial, LogDisplayer.displayer_step after⟩
    · rw [none] at labelled
      cases labelled

/-! ### The two theorems -/

/-- For every condition on the steps of the program: the runs of the application whose actions meet it show
    exactly the runs of the program that meet it and ask only for named selectors. So no request is ever made
    for an empty selector, and nothing that is known of those runs is lost or assumed. -/
theorem application_exact (C : World → Event → Prop) (es : List Event) (w : World) :
    (∃ xs a, application.Run (Application.Meets C) xs a ∧
      application.shown Application.event? xs = es ∧ a.world = w) ↔
      program.Run (fun w e => C w e ∧ FromSelectors w e) es w := by
  constructor
  · intro realized
    obtain ⟨xs, a, run, rfl, rfl⟩ := realized
    exact (throughWorld C).run run
  · exact exists_application_run

/-- What every run of the application shows of the window is a run of the window, and what it shows of the list
    of each tab is a run of that list alone. A `Render` or a key that gets stuck is no step of the application,
    so these are the runs in which every `Render` and every key returns. -/
theorem application_view {xs : List Application.Action} {a : Application}
    (run : application.Run Free xs a) :
    mainWindow.Run Returns (application.shown Application.windowEvent? xs) a.window ∧
      ∀ pane, displayer.Run Free (application.shown (throughWindow.comp (throughDisplayer pane)).label xs)
        (a.window.displayer pane) :=
  ⟨throughWindow.run run, fun pane => (throughWindow.comp (throughDisplayer pane)).run run⟩

/-- A search for one topic, whose list is drawn twice and moved through. -/
def searchAndDraw : List Application.Action :=
  [.typeSearch "a", .search, .render,
    .deliver (.onTopic (some { type := 0x20, payload := .ofBytes [0x41], name := "a" })) 0,
    .deliver .onFetch 0,
    .advance, .advance, .advance, .advance, .runTask, .runTask, .render, .key .search true .arrowDown,
    .render, .copy true, .toggle 2, .render]

theorem searchAndDraw_view :
    ∃ a, application.Run Free searchAndDraw a ∧
      mainWindow.Run Returns (application.shown Application.windowEvent? searchAndDraw) a.window ∧
      ∀ pane, displayer.Run Free
        (application.shown (throughWindow.comp (throughDisplayer pane)).label searchAndDraw)
        (a.window.displayer pane) := by
  obtain ⟨a, run, -⟩ : ∃ a, application.Run Free searchAndDraw a ∧
      decide (a.clipboard =
        (Topic.selectedText { topicType := "ACK", path := "a", buffer := [0x41] }).toOption) = true :=
    TransitionSystem.Run.exists_of_exec (by decide)
  exact ⟨a, run, application_view run⟩

end Dmon
