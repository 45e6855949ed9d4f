/-
Module: Dmon.Proofs.SubscribeReport
Layer: Proofs
Purpose: The status window of the subscribe tab, whatever the threads do while a handler is midway.
  `World.comingMessage` is the message that the tab will show once the running handler is through and the
  queue is drained, and `World.writes?` is the message that a step puts there. `MessageAgreement` is the
  invariant: the coming message is the one that the most recently ended subscription calls for, and it is
  empty before the first one has ended.
Imports: Dmon.Model.Application, Dmon.Proofs.Flags, Dmon.Proofs.SubscribeError
Trusted boundary: none
Main exports: World.comingMessage, World.writes?, Transition.comingMessage, MessageAgreement,
  Transition.messageAgreement, subscribe_report_truthful
-/
import Dmon.Model.Application
import Dmon.Proofs.Flags
import Dmon.Proofs.SubscribeError

namespace Dmon

/-! ### Messages on their way -/

/-- The message that the running handler is going to write on the subscribe tab. An update that has still to
    test the flag is going to write none: a subscription may be asked for before it does. -/
def NetPc.subscribeMessage? : NetPc → Option String
  | .stop (.subscribeCompleted _) | .captureSubscribe _ => some ""
  | .stop (.subscribeError error) => some error.message
  | .post task => task.subscribeMessage?
  | _ => none

/-- The message on the subscribe tab when the running handler is through and the queue is drained. -/
def World.comingMessage (w : World) : String :=
  w.net.subscribeMessage?.getD w.settledMessage

/-- The message that a step puts on its way to the subscribe tab. -/
def World.writes? (w : World) : Event → Option String
  | .deliver .onSubscribe _ => some ""
  | .deliver (.onSubscribeError (some error)) _ => some error.message
  | .advance =>
      if w.net = .testSubscription ∧ w.session.subscribeInProgress = false then some "" else none
  | _ => none

theorem World.writes?_of_isQuiet {h : Handler} (w : World) (id : Nat) (silent : h.isQuiet = true) :
    w.writes? (.deliver h id) = none := by
  unfold writes?
  split <;> simp_all [Handler.isQuiet]

theorem World.writes?_of_isNotification {h : Handler} (w : World) (id : Nat)
    (note : h.isNotification = true) : w.writes? (.deliver h id) = none := by
  unfold writes?
  split <;> simp_all [Handler.isNotification]

theorem Callback.subscribeMessage?_afterStop (callback : Callback) :
    callback.afterStop.subscribeMessage? = (NetPc.stop callback).subscribeMessage? := by
  cases callback <;> rfl

/-- What a step does to the coming message. -/
theorem Transition.comingMessage {w w' : World} {e : Event} (moved : Transition w e w') :
    w'.comingMessage = (w.writes? e).getD w.comingMessage := by
  cases moved with
  | ran task rest queue =>
      simp [World.comingMessage, World.settledMessage, World.writes?, queue,
        MainComponent.subscribeErrorMessage_runTask]
  | animated sig present =>
      simp [World.comingMessage, World.settledMessage, World.writes?, Task.subscribeMessage?]
  | delivered h id s next quiescent entry =>
      cases entry with
      | notified h ts s note =>
          rw [w.writes?_of_isNotification id note]
          simp [World.comingMessage, World.settledMessage, quiescent]
      | quiet h s silent =>
          rw [w.writes?_of_isQuiet id silent]
          simp [World.comingMessage, World.settledMessage, quiescent]
      | _ =>
          simp [World.comingMessage, World.settledMessage, World.writes?, quiescent,
            NetPc.subscribeMessage?, DiffusionError.toError]
  | stopped callback here =>
      simp [World.comingMessage, World.settledMessage, World.writes?, here,
        callback.subscribeMessage?_afterStop]
  | posted task here =>
      simp [World.comingMessage, World.settledMessage, World.writes?, here, NetPc.subscribeMessage?]
  | _ => simp [World.comingMessage, World.settledMessage, World.writes?, NetPc.subscribeMessage?,
      Task.subscribeMessage?, MainComponent.resetSpinner, MainComponent.resetSubscribtionSpinner, *]

/-! ### The agreement -/

/-- The tab is going to show what the subscriptions call for. -/
structure MessageAgreement (w : World) : Prop where
  owed : ∀ message, w.owedMessage? = some message → w.comingMessage = message
  first : w.library.lastEnding? .subscribe = none → w.comingMessage = ""
  /-- An update that finds no subscription pending follows no error. -/
  update : w.net = .testSubscription → w.session.subscribeInProgress = false →
    ∀ message, w.owedMessage? = some message → message = ""

section Step

variable {w w' : World} {e : Event} {h : Handler} {id : Nat} {ending : Ending}

/-- A step that ends no subscription and writes no message. -/
theorem MessageAgreement.congr (agrees : MessageAgreement w)
    (same : w'.library.lastEnding? .subscribe = w.library.lastEnding? .subscribe)
    (coming : w'.comingMessage = w.comingMessage)
    (update : w'.net = .testSubscription → w'.session.subscribeInProgress = false →
      ∀ message, w.owedMessage? = some message → message = "") : MessageAgreement w' where
  owed := by
    rw [World.owedMessage?, same, coming]
    exact agrees.owed
  first := by
    rw [same, coming]
    exact agrees.first
  update := by
    rw [World.owedMessage?, same]
    exact update

/-- A handler that ends a subscription, and that writes the message of that ending, if it has one. -/
theorem MessageAgreement.ended (own : h.kind? = some .subscribe) (terminal : h.ending? = some ending)
    (expected : w.library.expects h id) (library : w'.library = w.library.record h id)
    (coming : ∀ message, ending.message? = some message → w'.comingMessage = message)
    (further : w'.net ≠ .testSubscription) : MessageAgreement w' where
  owed := by
    rw [owedMessage?_ended own terminal expected library]
    exact coming
  first := by
    rw [library, Library.lastEnding?_record_of_expects own terminal expected]
    simp
  update here := absurd here further

/-- The first atomic step of a handler. -/
theorem Entry.messageAgreement {s : Session} {next : NetPc} (entry : Entry h w.session s next)
    (cond : endsOnce w (.deliver h id)) (noUpdate : NoUpdateAfterError w (.deliver h id))
    (agrees : MessageAgreement w)
    (moved : Transition w (.deliver h id)
      { w with session := s, library := w.library.record h id, net := next }) :
    MessageAgreement { w with session := s, library := w.library.record h id, net := next } := by
  have coming := moved.comingMessage
  cases entry with
  | update message =>
      apply agrees.congr (Library.lastEnding?_record_of_ne (.inl rfl)) coming
      exact fun _ => noUpdate
  | subscribed =>
      refine .ended (h := .onSubscribe) rfl rfl (cond rfl) rfl ?_ (by simp)
      intro message owed
      exact coming.trans (Option.some.inj owed)
  | subscribeFailed error =>
      refine .ended (h := .onSubscribeError (some error)) rfl rfl (cond rfl) rfl ?_ (by simp)
      intro message owed
      exact coming.trans (Option.some.inj owed)
  | quiet h s silent =>
      rw [w.writes?_of_isQuiet id silent] at coming
      by_cases ends : h.ending? = none ∨ h.kind? ≠ some .subscribe
      · exact agrees.congr (Library.lastEnding?_record_of_ne ends) coming (by simp)
      · obtain ⟨terminal, own⟩ : h.ending? ≠ none ∧ h.kind? = some .subscribe := by simpa using ends
        obtain ⟨ending, terminal⟩ := Option.ne_none_iff_exists'.1 terminal
        have expected : w.library.expects h id := cond (by simp [terminal])
        refine .ended own terminal expected rfl ?_ (by simp)
        intro message owed
        rw [Ending.message?_of_isQuiet silent own terminal] at owed
        cases owed
  | notified h ts s note =>
      rw [w.writes?_of_isNotification id note] at coming
      have foreign : h.kind? ≠ some .subscribe := by simp [Handler.kind?_of_isNotification note]
      exact agrees.congr (Library.lastEnding?_record_of_ne (.inr foreign)) coming (by simp)
  | topic message => exact agrees.congr (Library.lastEnding?_record_of_ne (.inl rfl)) coming (by simp)
  | fetchCompleted | fetchFailed | fetchDiscarded | unsubscribeFailed =>
      refine agrees.congr (Library.lastEnding?_record_of_ne (.inr ?_)) coming (by simp)
      simp [Handler.kind?]

/-- Every step keeps the agreement, if subscriptions end once and no update follows an error. -/
theorem Transition.messageAgreement (moved : Transition w e w') (cond : endsOnce w e)
    (noUpdate : NoUpdateAfterError w e) (agrees : MessageAgreement w) : MessageAgreement w' := by
  have coming := moved.comingMessage
  cases moved with
  | delivered h id s next quiescent entry =>
      exact entry.messageAgreement cond noUpdate agrees (.delivered w h id s next quiescent entry)
  | fetchAccepted selector free => exact agrees.congr (by simp) coming agrees.update
  | unsubscribed selector => exact agrees.congr (by simp) coming agrees.update
  | subscribeAccepted selector free =>
      refine agrees.congr (by simp) coming ?_
      simp [Session.beginSubscribe]
  | passed here free =>
      have empty : World.comingMessage { w with net := .stop (.subscribeCompleted "") } = "" := rfl
      refine ⟨fun message owed => ?_, fun _ => empty, by simp⟩
      rw [empty, agrees.update here free message owed]
  | held here pending =>
      have nothing : w.writes? .advance = none := by simp [World.writes?, pending]
      rw [nothing] at coming
      exact agrees.congr rfl coming (by simp)
  | fetchRefused | subscribeRefused => exact agrees
  | ran | animated => exact agrees.congr rfl coming agrees.update
  | stopped callback here =>
      have nothing : w.writes? .advance = none := by simp [World.writes?, here]
      rw [nothing] at coming
      exact agrees.congr rfl coming (by cases callback <;> simp [Callback.afterStop])
  | capturedFetch selector here | capturedSubscribe selector here | posted task here
  | eventPosted sig here =>
      have nothing : w.writes? .advance = none := by simp [World.writes?, here]
      rw [nothing] at coming
      exact agrees.congr rfl coming (by simp)

end Step

/-! ### The status window -/

/-- The status window of the subscribe tab tells what has become of the subscriptions, in every interleaving in
    which every request ends at most once, subscriptions end in turn, and no update that finds none pending
    follows one that failed with a text. While one is outstanding it says so. At rest it is hidden before the
    first has ended; after that it shows the message that the most recently ended one calls for in red, and is
    hidden when that message is empty. -/
theorem subscribe_report_truthful {es : List Event} {w : World}
    (run : program.Run
      (fun w e => endsOnce w e ∧ SubscriptionsEndInTurn w e ∧ NoUpdateAfterError w e) es w) :
    (w.library.outstandingOf .subscribe ≠ [] → ∃ color, w.subscribeErrorReport =
      some { text := "In progress", color := color, spinner := w.component.subscribtionSpinnerIndx }) ∧
    (w.library.outstandingOf .subscribe = [] → w.net = .idle → w.queue = [] →
      (w.library.lastEnding? .subscribe = none → w.subscribeErrorReport = none) ∧
      ∀ message, w.owedMessage? = some message →
        w.subscribeErrorReport =
          if message = "" then none
          else some { text := message, color := .red, spinner := w.component.subscribtionSpinnerIndx }) := by
  obtain ⟨flag, agrees⟩ : SubscribeFlagExact w ∧ MessageAgreement w := by
    apply run.invariant (I := fun w => SubscribeFlagExact w ∧ MessageAgreement w)
    · refine ⟨by simp [SubscribeFlagExact, program, Library.outstandingOf], ?_, fun _ => rfl, ?_⟩
      · intro message owed
        cases owed
      · intro here
        cases here
    · intro w e w' before cond step
      have moved := Transition.of_step step
      exact ⟨(moved.subscribeFlagExact_iff cond.1 before.1).2 cond.2.1,
        moved.messageAgreement cond.1 cond.2.2 before.2⟩
  constructor
  · intro outstanding
    exact ⟨_, by rw [World.subscribeErrorReport, flag.2 outstanding, statusReport_true]⟩
  · intro nothing quiescent drained
    have clear : w.session.subscribeInProgress = false := by
      simpa [SubscribeFlagExact, nothing] using flag
    have shown : w.comingMessage = w.component.subscribeErrorMessage := by
      simp [World.comingMessage, World.settledMessage, quiescent, drained, NetPc.subscribeMessage?]
    rw [World.subscribeErrorReport, clear, statusReport_false, ← shown]
    constructor
    · intro first
      rw [if_pos (agrees.first first)]
    · intro message owed
      rw [agrees.owed message owed]

/-- A subscription that fails, up to the drained queue, with an update in between. -/
def subscriptionRefused : List Event :=
  [.subscribe "a", updateOfA, .advance,
    .deliver (.onSubscribeError (some { code := 1, message := "denied" })) 0,
    .advance, .advance, .advance, .runTask, .runTask]

/-- While it is outstanding the window says so, and in the end it shows its error. -/
theorem subscriptionRefused_report :
    (∃ w color, program.Run
        (fun w e => endsOnce w e ∧ SubscriptionsEndInTurn w e ∧ NoUpdateAfterError w e)
        (subscriptionRefused.take 3) w ∧
      w.subscribeErrorReport = some { text := "In progress", color := color, spinner := 0 }) ∧
    ∃ w, program.Run
        (fun w e => endsOnce w e ∧ SubscriptionsEndInTurn w e ∧ NoUpdateAfterError w e)
        subscriptionRefused w ∧
      w.subscribeErrorReport = some { text := "denied", color := .red, spinner := 1 } := by
  constructor
  · obtain ⟨w, run, facts⟩ : ∃ w, program.Run
        (fun w e => endsOnce w e ∧ SubscriptionsEndInTurn w e ∧ NoUpdateAfterError w e)
        (subscriptionRefused.take 3) w ∧
      decide (w.library.outstandingOf .subscribe ≠ [] ∧ w.component.subscribtionSpinnerIndx = 0) = true :=
      TransitionSystem.Run.exists_of_exec (by decide)
    obtain ⟨outstanding, spinner⟩ := of_decide_eq_true facts
    obtain ⟨color, shown⟩ := (subscribe_report_truthful run).1 outstanding
    exact ⟨w, color, run, spinner ▸ shown⟩
  · obtain ⟨w, run, facts⟩ : ∃ w, program.Run
        (fun w e => endsOnce w e ∧ SubscriptionsEndInTurn w e ∧ NoUpdateAfterError w e)
        subscriptionRefused w ∧
      decide (w.library.outstandingOf .subscribe = [] ∧ w.net = .idle ∧ w.queue = [] ∧
        w.owedMessage? = some "denied" ∧ w.component.subscribtionSpinnerIndx = 1) = true :=
      TransitionSystem.Run.exists_of_exec (by decide)
    obtain ⟨nothing, quiescent, drained, owed, spinner⟩ := of_decide_eq_true facts
    have shown := ((subscribe_report_truthful run).2 nothing quiescent drained).2 "denied" owed
    exact ⟨w, run, by simpa [spinner] using shown⟩

end Dmon
