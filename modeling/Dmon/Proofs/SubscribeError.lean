/-
Module: Dmon.Proofs.SubscribeError
Layer: Proofs
Purpose: How long the error of a subscription stays on the subscribe tab. `World.settledMessage` is the
  message that the tab will show when the queue is drained, and `World.owedMessage?` is the message that the
  most recently ended subscription calls for. A step keeps the two equal exactly when it is not a topic
  update that arrives, with no subscription pending, while an error is owed: `Session::onSubscribeTopic`
  publishes such an update through the callback for completed subscriptions, whose task clears the
  message. `subscribe_error_kept_iff` is the law over runs, `error_cleared_by_update` the run that breaks it.
Imports: Dmon.Proofs.Atomic, Dmon.Proofs.Ledger
Trusted boundary: none
Main exports: World.owedMessage?, World.settledMessage, ReportsLastSubscription, NoUpdateAfterError,
  AtomicTransition.settlesAsOwed_iff, subscribe_error_kept_iff, error_cleared_by_update
-/
import Dmon.Proofs.Atomic
import Dmon.Proofs.Ledger

namespace Dmon

/-! ### Messages -/

/-- The message of a subscription that ended: none that completed, the error's text if it failed. A
    discarded one has no message of its own. -/
def Ending.message? : Ending → Option String
  | .completed => some ""
  | .failed error => error.map (·.message)
  | .discarded => none

/-- The message that the most recently ended subscription calls for. -/
def World.owedMessage? (w : World) : Option String :=
  (w.library.lastEnding? .subscribe).bind Ending.message?

/-- The message that a task writes on the subscribe tab. -/
def Task.subscribeMessage? : Task → Option String
  | .subscribeCompleted errorMessage _ _ => some errorMessage
  | .fetchCompleted .. | .event _ => none

/-- The message on the subscribe tab when the queue is drained. -/
def World.settledMessage (w : World) : String :=
  w.queue.foldl (fun shown task => task.subscribeMessage?.getD shown)
    w.component.subscribeErrorMessage

/-- The law: with the queue empty, the subscribe tab shows the message that the most recently ended
    subscription calls for. -/
def ReportsLastSubscription (w : World) : Prop :=
  w.queue = [] → ∀ message, w.owedMessage? = some message → w.component.subscribeErrorMessage = message

/-- The step is not a topic update that arrives, with no subscription pending, while the most recently ended
    subscription is one that failed with a text. -/
def NoUpdateAfterError (w : World) : Event → Prop
  | .deliver (.onSubscribeTopicMessage (some _)) _ =>
      w.session.subscribeInProgress = false → ∀ message, w.owedMessage? = some message → message = ""
  | _ => True

instance (w : World) : (e : Event) → Decidable (NoUpdateAfterError w e)
  | .deliver (.onSubscribeTopicMessage (some _)) _ =>
      inferInstanceAs (Decidable
        (w.session.subscribeInProgress = false → ∀ message ∈ w.owedMessage?, message = ""))
  | .deliver .onFetch _ | .deliver (.onTopic _) _ | .deliver (.onFetchError _) _
  | .deliver (.onFetchStatusMessage _) _ | .deliver .onFetchDiscard _
  | .deliver (.onSubscribeTopicMessage none) _ | .deliver .onSubscribe _
  | .deliver (.onSubscribeError _) _ | .deliver .onSubscribeDiscard _ | .deliver .onUnsubscribe _
  | .deliver (.onUnsubscribeError _) _ | .deliver .onUnsubscribeDiscard _
  | .deliver (.onNotifySubscription _) _ | .deliver (.onNotifyUnsubscription _) _
  | .deliver (.onGlobalError _) _ | .deliver (.onUnexpectedTopicMessage _) _
  | .fetch _ | .subscribe _ | .unsubscribe _ | .runTask | .animate _ | .advance =>
      inferInstanceAs (Decidable True)

/-- What the subscribe tab is going to show is what the last ended subscription calls for. -/
def SettlesAsOwed (w : World) : Prop :=
  ∀ message, w.owedMessage? = some message → w.settledMessage = message

theorem MainComponent.subscribeErrorMessage_runTask (c : MainComponent) (task : Task) :
    (c.runTask task).subscribeErrorMessage = task.subscribeMessage?.getD c.subscribeErrorMessage := by
  cases task with
  | fetchCompleted | subscribeCompleted => rfl
  | event sig =>
      simp only [runTask, onEvent, Task.subscribeMessage?, Option.getD_none]
      split
      · rfl
      · split <;> rfl

/-! ### One step -/

section Step

variable {w w' : World} {e : Event} {h : Handler} {id : Nat} {ending : Ending}

/-- A handler that only logs and ends a subscription gives it no message. -/
theorem Ending.message?_of_isQuiet (silent : h.isQuiet = true) (own : h.kind? = some .subscribe)
    (terminal : h.ending? = some ending) : ending.message? = none := by
  cases h with
  | onSubscribeDiscard => cases terminal; rfl
  | onSubscribeError error =>
      cases error with
      | none => cases terminal; rfl
      | some error => cases silent
  | onSubscribe => cases silent
  | _ => cases own

theorem SettlesAsOwed.congr (holds : SettlesAsOwed w) (owed : w'.owedMessage? = w.owedMessage?)
    (settled : w'.settledMessage = w.settledMessage) : SettlesAsOwed w' := by
  intro message same
  rw [settled]
  exact holds message (owed ▸ same)

/-- A handler that ends no subscription leaves what is owed. -/
theorem owedMessage?_of_ne (ne : h.ending? = none ∨ h.kind? ≠ some .subscribe)
    (library : w'.library = w.library.record h id) : w'.owedMessage? = w.owedMessage? := by
  rw [World.owedMessage?, library, Library.lastEnding?_record_of_ne ne, World.owedMessage?]

/-- A handler that ends a subscription says what is owed from now on. -/
theorem owedMessage?_ended (own : h.kind? = some .subscribe) (terminal : h.ending? = some ending)
    (expected : w.library.expects h id) (library : w'.library = w.library.record h id) :
    w'.owedMessage? = ending.message? := by
  rw [World.owedMessage?, library, Library.lastEnding?_record_of_expects own terminal expected]
  rfl

/-- A callback that runs to its end leaves its own message, if it has one. -/
theorem settledMessage_finish_stop (s : Shared) (callback : Callback) :
    World.settledMessage { toShared := s.finish (.stop callback) } =
      (callback.task s.session).subscribeMessage?.getD (World.settledMessage { toShared := s }) := by
  rw [Shared.finish_stop]
  simp [World.settledMessage, Task.subscribeMessage?]

/-- The rest of an update's handler clears the message unless a subscription is pending. -/
theorem settledMessage_finish_testSubscription (s : Shared) :
    World.settledMessage { toShared := s.finish .testSubscription } =
      if s.session.subscribeInProgress then World.settledMessage { toShared := s } else "" := by
  rw [Shared.finish_testSubscription]
  split
  · rfl
  · exact settledMessage_finish_stop s (.subscribeCompleted "")

/-- The operations and the animator change neither message, and the UI thread only moves one on. -/
theorem Transition.settlesAsOwed (moved : Transition w e w') (operation : e.isOperation = true)
    (holds : SettlesAsOwed w) : SettlesAsOwed w' := by
  cases moved with
  | fetchAccepted | subscribeAccepted | unsubscribed =>
      apply holds.congr
      · simp [World.owedMessage?]
      · rfl
  | ran task rest queue =>
      refine holds.congr rfl ?_
      simp [World.settledMessage, queue, MainComponent.subscribeErrorMessage_runTask]
  | animated sig present =>
      refine holds.congr rfl ?_
      simp [World.settledMessage, Task.subscribeMessage?]
  | fetchRefused | subscribeRefused => exact holds
  | delivered | held | passed | stopped | capturedFetch | capturedSubscribe | posted | eventPosted =>
      simp [Event.isOperation] at operation

/-- A handler that only logs: if it ends a subscription, it owes no message. -/
theorem settlesAsOwed_quiet (holds : SettlesAsOwed w) (cond : endsOnce w (.deliver h id))
    (silent : h.isQuiet = true) (library : w'.library = w.library.record h id)
    (settled : w'.settledMessage = w.settledMessage) : SettlesAsOwed w' := by
  by_cases ends : h.ending? = none ∨ h.kind? ≠ some .subscribe
  · exact holds.congr (owedMessage?_of_ne ends library) settled
  · obtain ⟨terminal, own⟩ : h.ending? ≠ none ∧ h.kind? = some .subscribe := by simpa using ends
    obtain ⟨ending, terminal⟩ := Option.ne_none_iff_exists'.1 terminal
    have expected : w.library.expects h id := cond (by simp [terminal])
    intro message owed
    rw [owedMessage?_ended own terminal expected library,
      Ending.message?_of_isQuiet silent own terminal] at owed
    cases owed

/-- An update with no subscription pending publishes an empty message, in every other case nothing. -/
theorem settlesAsOwed_update (message : TopicMessage) (holds : SettlesAsOwed w)
    (library : w'.library = w.library.record (.onSubscribeTopicMessage (some message)) id)
    (settled : w'.settledMessage =
      if w.session.subscribeInProgress then w.settledMessage else "") :
    SettlesAsOwed w' ↔ NoUpdateAfterError w (.deliver (.onSubscribeTopicMessage (some message)) id) := by
  have owed : w'.owedMessage? = w.owedMessage? := owedMessage?_of_ne (.inl rfl) library
  cases pending : w.session.subscribeInProgress with
  | true =>
      apply iff_of_true
      · exact holds.congr owed (by simpa [pending] using settled)
      · simp [NoUpdateAfterError, pending]
  | false =>
      have cleared : w'.settledMessage = "" := by simpa [pending] using settled
      simp only [SettlesAsOwed, NoUpdateAfterError, pending, owed, cleared, true_implies, eq_comm]

/-- One step keeps the message that is owed exactly when it is not an update after an error. -/
theorem AtomicTransition.settlesAsOwed_iff (moved : AtomicTransition w e w') (cond : endsOnce w e)
    (holds : SettlesAsOwed w) : SettlesAsOwed w' ↔ NoUpdateAfterError w e := by
  cases moved with
  | operated operation still moved =>
      have after := moved.settlesAsOwed operation holds
      have noUpdate : NoUpdateAfterError w e := by
        cases e <;> trivial
      exact iff_of_true after noUpdate
  | handled h id s next entry =>
      have library : (Shared.finish
          { w.toShared with session := s, library := w.library.record h id } next).library =
            w.library.record h id := Shared.finish_library _ _
      cases entry with
      | update message =>
          apply settlesAsOwed_update message holds library
          exact settledMessage_finish_testSubscription _
      | subscribed =>
          refine iff_of_true ?_ trivial
          intro message owed
          rw [owedMessage?_ended (h := .onSubscribe) rfl rfl (cond rfl) library] at owed
          rw [settledMessage_finish_stop]
          exact Option.some.inj owed
      | subscribeFailed error =>
          refine iff_of_true ?_ trivial
          intro message owed
          rw [owedMessage?_ended (h := .onSubscribeError (some error)) rfl rfl (cond rfl)
            library] at owed
          rw [settledMessage_finish_stop]
          exact Option.some.inj owed
      | fetchCompleted | fetchFailed | fetchDiscarded | unsubscribeFailed =>
          refine iff_of_true ?_ trivial
          refine holds.congr (owedMessage?_of_ne (.inr (by simp [Handler.kind?])) library) ?_
          rw [settledMessage_finish_stop]
          rfl
      | topic message =>
          refine iff_of_true ?_ trivial
          exact holds.congr (owedMessage?_of_ne (.inl rfl) library) rfl
      | notified h ts s note =>
          apply iff_of_true
          · have foreign : h.kind? ≠ some .subscribe := by simp [Handler.kind?_of_isNotification note]
            exact holds.congr (owedMessage?_of_ne (.inr foreign) library) rfl
          · cases h with
            | onSubscribeTopicMessage => cases note
            | _ => trivial
      | quiet h s silent =>
          apply iff_of_true
          · exact settlesAsOwed_quiet holds cond silent library rfl
          · cases h with
            | onSubscribeTopicMessage message =>
                cases message with
                | none => trivial
                | some message => cases silent
            | _ => trivial

end Step

/-! ### Runs -/

section Runs

variable {es : List Event} {w : World}

/-- The message that is owed is settled in every state of a run exactly when no update follows an error. -/
theorem settlesAsOwed_always_iff (run : atomicProgram.Run endsOnce es w) :
    atomicProgram.Always endsOnce SettlesAsOwed es ↔
      atomicProgram.Throughout endsOnce NoUpdateAfterError es := by
  apply TransitionSystem.always_iff_throughout (I := fun w => w.net = .idle) rfl
  · intro message owed
    cases owed
  · intro w e w' quiescent _ step
    exact (AtomicTransition.of_step quiescent step).quiescent
  · intro w e w' quiescent holds cond step
    exact (AtomicTransition.of_step quiescent step).settlesAsOwed_iff cond holds
  · exact run

/-- The UI thread can run all queued tasks; then the settled message is on the tab. -/
theorem exists_drained (run : atomicProgram.Run endsOnce es w) :
    ∃ n v, atomicProgram.Run endsOnce (es ++ List.replicate n .runTask) v ∧ v.queue = [] ∧
      v.owedMessage? = w.owedMessage? ∧ v.component.subscribeErrorMessage = w.settledMessage := by
  generalize tasks : w.queue = queue
  induction queue generalizing es w with
  | nil => exact ⟨0, w, by simpa using run, tasks, rfl, by simp [World.settledMessage, tasks]⟩
  | cons task rest ih =>
      have step : atomicProgram.step w .runTask =
          some { w with queue := rest, component := w.component.runTask task } := by
        simp [atomicProgram, World.step, tasks, atomicProgram_quiescent run, Shared.popTask,
          Shared.runTask]
      have allowed : endsOnce w .runTask := trivial
      obtain ⟨n, v, drained, empty, owed, shown⟩ := ih (.snoc run allowed step) rfl
      refine ⟨n + 1, v, ?_, empty, owed, ?_⟩
      · rw [List.replicate_succ, ← List.singleton_append, ← List.append_assoc]
        exact drained
      · rw [shown]
        simp [World.settledMessage, tasks, MainComponent.subscribeErrorMessage_runTask]

/-- The UI thread's tasks change nothing about what is owed and settled. -/
theorem settlesAsOwed_of_drained {v : World} (run : atomicProgram.Run endsOnce es w)
    (holds : SettlesAsOwed w) (n : Nat)
    (later : atomicProgram.Run endsOnce (es ++ List.replicate n .runTask) v) : SettlesAsOwed v := by
  induction n generalizing v with
  | zero =>
      obtain rfl := run.deterministic (by simpa using later)
      exact holds
  | succ n ih =>
      rw [List.replicate_succ', ← List.append_assoc] at later
      obtain ⟨mid, before, cond, step⟩ := later.snoc_inv
      have moved := AtomicTransition.of_step (atomicProgram_quiescent before) step
      exact (moved.settlesAsOwed_iff cond (ih before)).2 trivial

end Runs

/-- A subscription error stays reported until another subscription ends: in every state of a run with the
    queue empty, and after every drain of the queue in it, the tab shows the message of the most recently
    ended subscription. It is so exactly when throughout the run no update arrives, with no subscription
    pending, after a subscription that failed with a text. -/
theorem subscribe_error_kept_iff {es : List Event} {w : World}
    (run : atomicProgram.Run endsOnce es w) :
    (∀ pre n v, pre <+: es → atomicProgram.Run endsOnce (pre ++ List.replicate n .runTask) v →
        ReportsLastSubscription v) ↔
      atomicProgram.Throughout endsOnce NoUpdateAfterError es := by
  rw [← settlesAsOwed_always_iff run]
  constructor
  · intro reported pre v here visited message owed
    obtain ⟨n, drained, later, empty, same, shown⟩ := exists_drained visited
    rw [← shown]
    exact reported pre n drained here later empty message (same.trans owed)
  · intro settled pre n v here later empty message owed
    obtain ⟨u, visited⟩ := later.exists_of_append
    have settledHere : SettlesAsOwed u := settled pre u here visited
    have shown := settlesAsOwed_of_drained visited settledHere n later message owed
    simpa [World.settledMessage, empty] using shown

/-- An update of topic `a`. -/
def updateOfA : Event :=
  .deliver (.onSubscribeTopicMessage (some { type := 0x15, payload := .ofBytes [1], name := "a" })) 0

/-- A subscription that completes and one that fails. -/
def secondSubscriptionFails : List Event :=
  [.subscribe "a", .deliver .onSubscribe 0, .subscribe "b",
    .deliver (.onSubscribeError (some { code := 1, message := "denied" })) 1]

theorem secondSubscriptionFails_kept :
    (∀ pre n v, pre <+: secondSubscriptionFails →
        atomicProgram.Run endsOnce (pre ++ List.replicate n .runTask) v → ReportsLastSubscription v) ∧
      atomicProgram.Throughout endsOnce NoUpdateAfterError secondSubscriptionFails := by
  obtain ⟨w, both, -⟩ : ∃ w,
      atomicProgram.Run (fun w e => endsOnce w e ∧ NoUpdateAfterError w e) secondSubscriptionFails w ∧
        decide (w.owedMessage? = some "denied") = true :=
    TransitionSystem.Run.exists_of_exec (by decide)
  have noUpdate := both.throughout_of_and
  have run : atomicProgram.Run endsOnce secondSubscriptionFails w := both.weaken fun _ _ => And.left
  exact ⟨(subscribe_error_kept_iff run).2 noUpdate, noUpdate⟩

/-- An update of the first subscription clears the error of the second. -/
theorem error_cleared_by_update :
    ¬ ∀ es w, atomicProgram.Run endsOnce es w → ReportsLastSubscription w := by
  intro law
  obtain ⟨w, run, facts⟩ : ∃ w, atomicProgram.Run endsOnce
      (secondSubscriptionFails ++ [updateOfA] ++ List.replicate 6 .runTask) w ∧
        decide (w.queue = [] ∧ w.owedMessage? = some "denied" ∧
          w.component.subscribeErrorMessage = "") = true :=
    TransitionSystem.Run.exists_of_exec (by decide)
  obtain ⟨empty, owed, cleared⟩ := of_decide_eq_true facts
  have shown : w.component.subscribeErrorMessage = "denied" := law _ w run empty "denied" owed
  simp [cleared] at shown

end Dmon
