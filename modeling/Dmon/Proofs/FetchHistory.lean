/-
Module: Dmon.Proofs.FetchHistory
Layer: Proofs
Purpose: The whole history of the fetch tab. `World.result?` reads off the result that a step shows; the
  results shown so far, followed by those on their way, are the outcomes of all finished fetches, one for
  each and in the order in which the fetches ended. The tab always shows the last of them, and the status
  window above it says whether a fetch is outstanding and how the last one ended.
Imports: Dmon.Lib.Refinement, Dmon.Model.Application, Dmon.Proofs.FetchOutcome
Trusted boundary: none
Main exports: FetchAgreement.of_run, Library.finishedFetches, World.result?, Transition.results,
  World.results_of_run, fetch_results_in_order, fetch_report_truthful
-/
import Dmon.Lib.Refinement
import Dmon.Model.Application
import Dmon.Proofs.FetchOutcome

namespace Dmon

/-- Session, UI and library agree along a run of the program as `main` runs it, if the library keeps to the
    conversations and gives `on_fetch_error` an error, and no fetch is accepted while topics wait for the
    completion callback. -/
theorem FetchAgreement.of_run {es : List Event} {w : World}
    (run : program.Run (fun w e => FromMain w e ∧ FetchesOutsideCapture w e) es w) : FetchAgreement w := by
  apply run.invariant (I := FetchAgreement)
  · refine ⟨fun _ => rfl, ?_, ?_, rfl, ?_⟩ <;> simp [program, Library.lastFetch?]
  · intro w e w' before cond step
    exact (Transition.of_step step).fetchAgreement cond.1 cond.2 before

/-! ### Finished fetches -/

namespace Library

variable {lib : Library} {h : Handler} {id : Nat} {c : Conversation} {ending : Ending}

/-- The finished fetches, oldest first, and how they ended. -/
def finishedFetches (lib : Library) : List (Conversation × Ending) :=
  lib.log.filterMap LogEntry.fetchEnded?

@[simp] theorem finishedFetches_handOver (lib : Library) (kind : RequestKind) (selector : String) :
    (lib.handOver kind selector).finishedFetches = lib.finishedFetches := by
  simp [finishedFetches, handOver, LogEntry.fetchEnded?]

/-- A handler that ends no fetch. -/
theorem finishedFetches_record_of_ne (ne : h.ending? = none ∨ h.kind? ≠ some .fetch) :
    (lib.record h id).finishedFetches = lib.finishedFetches := by
  apply filterMap_log_record_of_ne _ ne
  intro c ending other
  simp [LogEntry.fetchEnded?, other]

/-- The terminal handler of the only outstanding fetch. -/
theorem finishedFetches_record (own : h.kind? = some .fetch) (terminal : h.ending? = some ending)
    (single : lib.outstandingOf .fetch = [c]) (expected : lib.expects h id) :
    (lib.record h id).finishedFetches = lib.finishedFetches ++ [(c, ending)] := by
  obtain ⟨_, answering⟩ := answering_eq_of_expects own single expected
  have fetch : c.kind = .fetch := by
    have member : c ∈ lib.outstandingOf .fetch := by simp [single]
    simpa using (List.mem_filter.1 member).2
  simp [finishedFetches, log_record_of_ending terminal, answering, LogEntry.fetchEnded?, fetch]

/-- What the fetch tab should have shown so far. -/
def outcomes (lib : Library) : List (List Topic × String) :=
  lib.finishedFetches.map fun finished => finished.1.outcome finished.2

end Library

/-! ### Results -/

/-- The result that a step shows in the fetch tab, if it shows one. -/
def World.result? (w : World) : Event → Option (List Topic × String)
  | .runTask => w.queue.head?.bind Task.fetchResult?
  | _ => none

/-- What the fetch tab shows. -/
def MainComponent.fetchResult (c : MainComponent) : List Topic × String := (c.topics, c.fetchErrorMessage)

theorem MainComponent.fetchResult_runTask_eq (c : MainComponent) (task : Task) :
    (c.runTask task).fetchResult = task.fetchResult?.getD c.fetchResult := by
  have kept := c.fetchResult_runTask task []
  cases result : task.fetchResult? <;> simpa [fetchResult, result] using kept

@[simp] theorem NetPc.fetchResult?_idle (s : Session) : NetPc.idle.fetchResult? s = none := rfl

/-- A step moves the results on: what it shows and what is then on its way are what was on its way and the
    outcomes of the fetches that the step ends. -/
def World.MovesResults (w : World) (e : Event) (w' : World) : Prop :=
  ∃ ended, w'.library.outcomes = w.library.outcomes ++ ended ∧
    (w.result? e).toList ++ w'.comingFetchResults = w.comingFetchResults ++ ended

/-- A step that ends no fetch. -/
theorem World.movesResults_of_eq {w w' : World} {e : Event}
    (library : w'.library.finishedFetches = w.library.finishedFetches)
    (coming : (w.result? e).toList ++ w'.comingFetchResults = w.comingFetchResults) : w.MovesResults e w' :=
  ⟨[], by simp [Library.outcomes, library], by simpa using coming⟩

/-- A handler that is not one of a fetch, and whose callback brings no result. -/
theorem World.movesResults_foreign {w : World} {h : Handler} {id : Nat} {s : Session} {next : NetPc}
    (quiescent : w.net = .idle) (ne : h.ending? = none ∨ h.kind? ≠ some .fetch)
    (result : next.fetchResult? s = none) :
    w.MovesResults (.deliver h id)
      { w with session := s, library := w.library.record h id, net := next } := by
  apply movesResults_of_eq
  · exact Library.finishedFetches_record_of_ne ne
  · simp [World.result?, World.comingFetchResults, quiescent, result]

/-- A terminal handler of the fetch in progress. -/
theorem FetchAgreement.movesResults {w : World} {h : Handler} {id : Nat} {s : Session} {next : NetPc}
    {ending : Ending} (agrees : FetchAgreement w) (quiescent : w.net = .idle)
    (own : h.kind? = some .fetch) (terminal : h.ending? = some ending)
    (expected : w.library.expects h id)
    (result : ∀ c : Conversation, c.topics = w.session.topics →
      next.fetchResult? s = some (c.outcome ending)) :
    w.MovesResults (.deliver h id)
      { w with session := s, library := w.library.record h id, net := next } := by
  obtain ⟨c, single, topics⟩ := agrees.single_of_expects own expected
  refine ⟨[c.outcome ending], ?_, ?_⟩
  · simp [Library.outcomes, Library.finishedFetches_record own terminal single expected]
  · simp [World.result?, World.comingFetchResults, quiescent, result c topics]

theorem Transition.results {w w' : World} {e : Event} (moved : Transition w e w')
    (fromMain : FromMain w e) (cond : FetchesOutsideCapture w e) (agrees : FetchAgreement w) :
    w.MovesResults e w' := by
  cases moved with
  | fetchAccepted selector free =>
      have kept : w.net.fetchResult? (w.session.beginFetch selector) = w.net.fetchResult? w.session :=
        NetPc.fetchResult?_beginFetch _ _ _ (cond (by simp [Session.accepts, free]))
      apply World.movesResults_of_eq
      · exact Library.finishedFetches_handOver ..
      · simp [World.result?, World.comingFetchResults, kept]
  | subscribeAccepted selector free =>
      apply World.movesResults_of_eq
      · exact Library.finishedFetches_handOver ..
      · rfl
  | unsubscribed selector => exact absurd fromMain.2 (by simp [Event.isUnsubscribe])
  | ran task rest queue =>
      refine World.movesResults_of_eq rfl ?_
      cases result : task.fetchResult? <;> simp [World.result?, World.comingFetchResults, queue, result]
  | animated sig present =>
      refine World.movesResults_of_eq rfl ?_
      simp [World.result?, World.comingFetchResults, Task.fetchResult?]
  | delivered h id s next quiescent entry =>
      have expected := fromMain.1
      simp only [inConversation] at expected
      cases entry with
      | fetchCompleted =>
          apply agrees.movesResults quiescent rfl rfl (expected (.inl rfl))
          intro c topics
          simp [NetPc.fetchResult?, Conversation.outcome, Session.onFetchCompleted, topics]
      | fetchFailed error =>
          exact agrees.movesResults quiescent rfl rfl (expected (.inl rfl)) fun c _ => rfl
      | fetchDiscarded =>
          exact agrees.movesResults quiescent rfl rfl (expected (.inl rfl)) fun c _ => rfl
      | unsubscribeFailed error =>
          obtain ⟨c, member, _⟩ := Library.exists_of_expects rfl (expected (.inl rfl))
          rw [agrees.noUnsubscribe] at member
          exact absurd member List.not_mem_nil
      | topic | update => exact World.movesResults_foreign quiescent (.inl rfl) rfl
      | subscribed | subscribeFailed =>
          exact World.movesResults_foreign quiescent (.inr (by simp [Handler.kind?])) rfl
      | notified h ts s note =>
          have foreign : h.kind? ≠ some .fetch := by simp [Handler.kind?_of_isNotification note]
          exact World.movesResults_foreign quiescent (.inr foreign) rfl
      | quiet h s silent =>
          by_cases own : h.kind? = some .fetch
          · apply World.movesResults_of_eq
            · rw [Library.record_of_isQuiet silent own cond]
            · simp [World.result?, World.comingFetchResults, quiescent]
          · exact World.movesResults_foreign quiescent (.inr own) rfl
  | stopped callback here =>
      refine World.movesResults_of_eq rfl ?_
      simp [World.result?, World.comingFetchResults, here, Callback.fetchResult?_afterStop]
  | posted task here =>
      refine World.movesResults_of_eq rfl ?_
      cases task <;>
        simp [World.result?, World.comingFetchResults, here, NetPc.fetchResult?, Task.fetchResult?]
  | capturedFetch | held | passed | capturedSubscribe | eventPosted =>
      refine World.movesResults_of_eq rfl ?_
      simp [World.result?, World.comingFetchResults, NetPc.fetchResult?, Task.fetchResult?, *]
  | _ => exact World.movesResults_of_eq rfl (by simp [World.result?])

/-- The result that is shown changes only when a step shows another one. -/
theorem Transition.fetchResult {w w' : World} {e : Event} (moved : Transition w e w') :
    w'.component.fetchResult = (w.result? e).getD w.component.fetchResult := by
  cases moved with
  | ran task rest queue =>
      rw [MainComponent.fetchResult_runTask_eq]
      simp [World.result?, queue]
  | _ => rfl

section Run

variable {es : List Event} {w : World}

/-- Along a run the results shown and those on their way are the outcomes of the finished fetches. -/
theorem World.results_of_run
    (run : program.Run (fun w e => FromMain w e ∧ FetchesOutsideCapture w e) es w) :
    program.shown World.result? es ++ w.comingFetchResults = w.library.outcomes := by
  induction run with
  | nil => rfl
  | @snoc es w w' e before cond step ih =>
      obtain ⟨ended, outcomes, results⟩ :=
        (Transition.of_step step).results cond.1 cond.2 (.of_run before)
      rw [before.shown_concat World.result?, List.append_assoc, results, ← List.append_assoc, ih, outcomes]

/-- Along a run the fetch tab shows the last of the results shown. -/
theorem World.fetchResult_of_run {C : World → Event → Prop} (run : program.Run C es w) :
    w.component.fetchResult = (program.shown World.result? es).getLast?.getD ([], "") := by
  induction run with
  | nil => rfl
  | @snoc es w w' e before cond step ih =>
      rw [before.shown_concat World.result?, (Transition.of_step step).fetchResult, ih]
      cases result : w.result? e <;> simp

/-- Every finished fetch is shown, once, and in its turn: the results that the UI has shown so far, followed
    by those on their way, are the outcomes of all finished fetches in the order in which they ended, and the
    fetch tab shows the last of those shown. It holds in every run of the program as `main` runs it in which the
    library keeps to the conversations and gives `on_fetch_error` an error, and no fetch is accepted while
    topics wait for the completion callback to take them. -/
theorem fetch_results_in_order
    (run : program.Run (fun w e => FromMain w e ∧ FetchesOutsideCapture w e) es w) :
    program.shown World.result? es ++ w.comingFetchResults = w.library.outcomes ∧
      w.component.fetchResult = (program.shown World.result? es).getLast?.getD ([], "") :=
  ⟨World.results_of_run run, World.fetchResult_of_run run⟩

end Run

theorem fetchOneTopic_in_order :
    ∃ w, program.Run (fun w e => FromMain w e ∧ FetchesOutsideCapture w e) fetchOneTopic w ∧
      program.shown World.result? fetchOneTopic ++ w.comingFetchResults = w.library.outcomes ∧
      w.component.fetchResult = (program.shown World.result? fetchOneTopic).getLast?.getD ([], "") := by
  obtain ⟨w, run, -⟩ : ∃ w,
      program.Run (fun w e => FromMain w e ∧ FetchesOutsideCapture w e) fetchOneTopic w ∧
        decide (w.queue = []) = true :=
    TransitionSystem.Run.exists_of_exec (by decide)
  exact ⟨w, run, fetch_results_in_order run⟩

/-! ### The status window -/

/-- The flag says whether a fetch is outstanding. -/
theorem FetchAgreement.fetchInProgress_iff {w : World} (agrees : FetchAgreement w) :
    w.session.fetchInProgress = true ↔ w.library.outstandingOf .fetch ≠ [] := by
  cases flag : w.session.fetchInProgress with
  | true =>
      obtain ⟨c, single, _⟩ := agrees.busy flag
      simp [single]
  | false => simp [agrees.free flag]

/-- The status window of the search tab tells what has become of the fetches, in the runs of
    `fetch_results_in_order`. While one is outstanding it says so. At rest it is hidden before the first fetch
    has ended; after that it shows the message of the last finished fetch in red, and is hidden when that
    message is empty, as after a completed one. -/
theorem fetch_report_truthful {es : List Event} {w : World}
    (run : program.Run (fun w e => FromMain w e ∧ FetchesOutsideCapture w e) es w) :
    (w.library.outstandingOf .fetch ≠ [] → ∃ color,
      w.errorReport = some { text := "In progress", color := color, spinner := w.component.spinnerIndx }) ∧
    (w.library.outstandingOf .fetch = [] → w.net = .idle → w.queue = [] →
      (w.library.lastFetch? = none → w.errorReport = none) ∧
      ∀ c ending, w.library.lastFetch? = some (c, ending) →
        w.errorReport =
          if (c.outcome ending).2 = "" then none
          else some {
            text := (c.outcome ending).2
            color := .red
            spinner := w.component.spinnerIndx }) := by
  have agrees := FetchAgreement.of_run run
  have flag := agrees.fetchInProgress_iff
  constructor
  · intro outstanding
    exact ⟨_, by rw [World.errorReport, flag.2 outstanding, statusReport_true]⟩
  · intro nothing quiescent drained
    have clear : w.session.fetchInProgress = false := by simpa [nothing] using flag
    have report :
        w.errorReport = statusReport false w.component.fetchErrorMessage w.component.spinnerIndx := by
      rw [World.errorReport, clear]
    rw [report, statusReport_false]
    constructor
    · intro none
      have outcomes : w.library.outcomes = [] := by
        simpa [Library.outcomes, Library.finishedFetches, Library.lastFetch?] using none
      have shown := World.results_of_run run
      rw [outcomes, List.append_eq_nil_iff] at shown
      have first := World.fetchResult_of_run run
      rw [shown.1] at first
      have empty : w.component.fetchErrorMessage = "" := congrArg Prod.snd first
      rw [if_pos empty]
    · intro c ending last
      have settled := agrees.shown c ending last
      have result : (w.component.topics, w.component.fetchErrorMessage) = c.outcome ending := by
        simpa [World.settledFetch, World.comingFetchResults, quiescent, drained] using settled
      rw [← result]

theorem fetchOneTopic_report :
    ∃ w, program.Run (fun w e => FromMain w e ∧ FetchesOutsideCapture w e) fetchOneTopic w ∧
      w.errorReport = none := by
  obtain ⟨w, run, facts⟩ : ∃ w,
      program.Run (fun w e => FromMain w e ∧ FetchesOutsideCapture w e) fetchOneTopic w ∧
        decide (w.library.outstandingOf .fetch = [] ∧ w.net = .idle ∧ w.queue = [] ∧
          w.library.lastFetch?.map (fun last => (last.1.outcome last.2).2) = some "") = true :=
    TransitionSystem.Run.exists_of_exec (by decide)
  obtain ⟨nothing, quiescent, drained, last⟩ := of_decide_eq_true facts
  obtain ⟨⟨c, ending⟩, finished, empty⟩ := Option.map_eq_some_iff.1 last
  refine ⟨w, run, ?_⟩
  rw [((fetch_report_truthful run).2 nothing quiescent drained).2 c ending finished, if_pos empty]

end Dmon
