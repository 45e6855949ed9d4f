/-
Module: Dmon.Proofs.Delivery
Layer: Proofs
Purpose: What happens to the topic updates of the subscriptions on their way from the library to the
  list on the screen. `World.updates` reads the four places in which an update can be, oldest first, and
  `updates_eq_delivered` says that together they always hold exactly the delivered updates: nothing is
  lost, duplicated or reordered, in any interleaving. `nothing_withheld` says when the first of these places
  is empty while no subscription is pending.
Imports: Dmon.Proofs.Transitions
Trusted boundary: none
Main exports: World.updates, deliveredUpdates, updates_eq_delivered, BufferEmptyAtError,
  nothing_withheld, update_withheld_after_error
-/
import Dmon.Proofs.Transitions

namespace Dmon

open TransitionSystem (Free)

/-! ### Where an update can be -/

/-- The topics that a task adds to the subscription list. -/
def Task.updates : Task → List Topic
  | .subscribeCompleted _ topics _ => topics
  | .fetchCompleted .. | .event _ => []

/-- The topics that the network thread has moved out of the session and not posted yet. -/
def NetPc.updates : NetPc → List Topic
  | .post task => task.updates
  | _ => []

/-- All updates on their way, oldest first: on the screen, in the queue, in the hands of the network
    thread, and in the session's buffer. -/
def World.updates (w : World) : List Topic :=
  w.component.subscribeTopics ++ w.queue.flatMap Task.updates ++ w.net.updates ++
    w.session.subscrubeTopics

/-- The topic that a handler call delivers to the subscription list. -/
def Handler.update? : Handler → Option Topic
  | .onSubscribeTopicMessage (some message) => some message.delivered
  | _ => none

/-- The topic that an event delivers to the subscription list. -/
def Event.update? : Event → Option Topic
  | .deliver h _ => h.update?
  | _ => none

/-- The topics of all messages delivered to `on_subscribe_topic_message`, in delivery order. -/
def deliveredUpdates (es : List Event) : List Topic :=
  es.filterMap Event.update?

@[simp] theorem deliveredUpdates_concat (es : List Event) (e : Event) :
    deliveredUpdates (es ++ [e]) = deliveredUpdates es ++ e.update?.toList := by
  cases update : e.update? <;> simp [deliveredUpdates, update]

@[simp] theorem NetPc.updates_idle : NetPc.idle.updates = [] := rfl

@[simp] theorem NetPc.updates_testSubscription : NetPc.testSubscription.updates = [] := rfl

@[simp] theorem NetPc.updates_stop (callback : Callback) : (NetPc.stop callback).updates = [] := rfl

@[simp] theorem NetPc.updates_captureFetch (selector : String) :
    (NetPc.captureFetch selector).updates = [] := rfl

@[simp] theorem NetPc.updates_captureSubscribe (selector : String) :
    (NetPc.captureSubscribe selector).updates = [] := rfl

@[simp] theorem NetPc.updates_postEvent (sig : String) : (NetPc.postEvent sig).updates = [] := rfl

@[simp] theorem NetPc.updates_post (task : Task) : (NetPc.post task).updates = task.updates := rfl

@[simp] theorem Callback.updates_afterStop (callback : Callback) :
    callback.afterStop.updates = [] := by
  cases callback <;> rfl

theorem Handler.update?_of_isNotification {h : Handler} (note : h.isNotification = true) :
    h.update? = none := by
  cases h <;> simp_all [isNotification, update?]

theorem Handler.update?_of_isQuiet {h : Handler} (silent : h.isQuiet = true) :
    h.update? = none := by
  unfold isQuiet at silent
  split at silent <;> simp_all [update?]

/-- Running a task moves its topics from the queue to the end of the subscription list. -/
@[simp] theorem MainComponent.subscribeTopics_runTask (c : MainComponent) (task : Task) :
    (c.runTask task).subscribeTopics = c.subscribeTopics ++ task.updates := by
  cases task with
  | fetchCompleted => simp [runTask, onFetchCompleted, Task.updates]
  | subscribeCompleted => simp [runTask, onSubscribeCompleted, Task.updates]
  | event sig =>
      simp only [runTask, onEvent, Task.updates, List.append_nil]
      split
      · rfl
      · split <;> rfl

/-- The first step of a handler keeps the buffered updates, but for a delivered message, which goes to
    their end. It never holds an update in hand. -/
theorem Entry.updates {h : Handler} {s s' : Session} {next : NetPc} (entry : Entry h s s' next) :
    s'.subscrubeTopics = s.subscrubeTopics ++ h.update?.toList ∧ next.updates = [] := by
  cases entry with
  | update message s => simp [Session.onSubscribeTopic, Handler.update?]
  | notified h ts s note =>
      simp [Handler.update?_of_isNotification note, Session.onTopicSubscriptionEvent]
  | quiet h s silent => simp [Handler.update?_of_isQuiet silent]
  | _ =>
      simp [Handler.update?, Session.onFetchTopic, Session.onFetchCompleted,
        Session.onFetchError, Session.onFetchDiscard, Session.onSubscribeCompleted,
        Session.onSubscribeError]

/-- One step appends the update it delivers, if any, and otherwise moves updates from one place to the
    next at most. -/
theorem Transition.updates {w w' : World} {e : Event} (moved : Transition w e w') :
    w'.updates = w.updates ++ e.update?.toList := by
  cases moved with
  | fetchAccepted selector free =>
      simp [World.updates, Session.beginFetch, MainComponent.resetSpinner, Event.update?]
  | subscribeAccepted selector free =>
      simp [World.updates, Session.beginSubscribe, MainComponent.resetSubscribtionSpinner,
        Event.update?]
  | ran task rest queue => simp [World.updates, queue, Event.update?]
  | delivered h id s next quiescent entry =>
      obtain ⟨buffered, emptyHanded⟩ := entry.updates
      simp [World.updates, quiescent, buffered, emptyHanded, Event.update?]
  | stopped callback here => simp [World.updates, here, Event.update?]
  | capturedFetch selector here =>
      simp [World.updates, here, Task.updates, Event.update?]
  | capturedSubscribe selector here =>
      simp [World.updates, here, Task.updates, Event.update?]
  | posted task here => simp [World.updates, here, Event.update?]
  | _ => simp [World.updates, Task.updates, Event.update?, *]

/-- Along a run the places hold together what was delivered. -/
theorem World.updates_of_run {es : List Event} {w : World} (run : program.Run Free es w) :
    w.updates = deliveredUpdates es := by
  apply run.historyInvariant (I := fun es w => w.updates = deliveredUpdates es) rfl
  intro es w e w' before _ step
  rw [(Transition.of_step step).updates, before, deliveredUpdates_concat]

/-- No subscribed topic message is lost, duplicated or reordered: in every state of every run, the updates
    on the screen, those in the queue, those in the hands of the network thread and those in the session's
    buffer are together exactly the updates delivered so far, in delivery order. -/
theorem updates_eq_delivered {es : List Event} {w : World} (run : program.Run Free es w) :
    w.component.subscribeTopics ++ w.queue.flatMap Task.updates ++ w.net.updates ++
      w.session.subscrubeTopics = deliveredUpdates es := by
  have all := World.updates_of_run run
  rwa [World.updates] at all

/-- A run in which an update arrives during a subscription, which then completes up to the post. -/
def updateDuringSubscription : List Event :=
  [.subscribe "a", .deliver (.onSubscribeTopicMessage (some ⟨0x15, .ofBytes [1], "a"⟩)) 0, .advance,
    .deliver .onSubscribe 0, .advance, .advance, .advance, .advance]

theorem updateDuringSubscription_delivered :
    ∃ w, program.Run Free updateDuringSubscription w ∧
      w.component.subscribeTopics ++ w.queue.flatMap Task.updates ++ w.net.updates ++
        w.session.subscrubeTopics = [{ topicType := "DELTA", path := "a", buffer := [1] }] := by
  obtain ⟨w, run, -⟩ : ∃ w, program.Run Free updateDuringSubscription w ∧
      decide (w.queue.length = 2) = true :=
    TransitionSystem.Run.exists_of_exec (by decide)
  have delivered := updates_eq_delivered run
  exact ⟨w, run, delivered.trans (by decide)⟩

/-! ### Updates while no subscription is pending -/

/-- The network thread is on its way to `session.getSubscribeTopics()`, unless a subscription is pending
    when it tests the flag. -/
def NetPc.flushes : NetPc → Bool
  | .testSubscription | .stop (.subscribeCompleted _) | .captureSubscribe _ => true
  | _ => false

/-- Buffered updates wait for a pending subscription or for the network thread to take them. -/
def World.Flushed (w : World) : Prop :=
  w.session.subscribeInProgress = true ∨ w.session.subscrubeTopics = [] ∨ w.net.flushes = true

/-- A call of `on_subscribe_error` with an error. -/
def Handler.failsSubscription : Handler → Bool
  | .onSubscribeError error => error.isSome
  | _ => false

/-- `on_subscribe_error` reports an error only while no update is buffered. -/
def BufferEmptyAtError (w : World) : Event → Prop
  | .deliver h _ => h.failsSubscription → w.session.subscrubeTopics = []
  | _ => True

instance (w : World) : (e : Event) → Decidable (BufferEmptyAtError w e)
  | .deliver h _ => inferInstanceAs (Decidable (h.failsSubscription → w.session.subscrubeTopics = []))
  | .fetch _ | .subscribe _ | .unsubscribe _ | .runTask | .animate _ | .advance =>
      inferInstanceAs (Decidable True)

theorem Transition.flushed {w w' : World} {e : Event} (moved : Transition w e w')
    (cond : BufferEmptyAtError w e) (before : w.Flushed) : w'.Flushed := by
  cases moved with
  | fetchAccepted selector free => simpa [World.Flushed, Session.beginFetch] using before
  | subscribeAccepted selector free => exact .inl rfl
  | delivered h id s next quiescent entry =>
      -- A quiescent network thread takes nothing, so the buffer waits for a subscription or is empty.
      have waits : w.session.subscribeInProgress = true ∨ w.session.subscrubeTopics = [] := by
        simpa [World.Flushed, quiescent, NetPc.flushes] using before
      cases entry with
      | update message s => exact .inr (.inr rfl)
      | subscribed s => exact .inr (.inr rfl)
      | subscribeFailed error s => exact .inr (.inl (cond rfl))
      | _ =>
          simpa [World.Flushed, NetPc.flushes, Session.onFetchTopic, Session.onFetchCompleted,
            Session.onFetchError, Session.onFetchDiscard, Session.onTopicSubscriptionEvent]
            using waits
  | held here pending => exact .inl pending
  | passed here free => exact .inr (.inr rfl)
  | stopped callback here =>
      cases callback with
      | subscribeCompleted selector => exact .inr (.inr rfl)
      | _ => simpa [World.Flushed, here, NetPc.flushes, Callback.afterStop] using before
  | capturedSubscribe selector here => exact .inr (.inl rfl)
  | _ => simpa [World.Flushed, NetPc.flushes, *] using before

/-- Nothing received is withheld while no subscription is pending, as long as no subscription fails with
    updates in the buffer: with no handler midway and the flag clear, the buffer is empty and all updates
    delivered so far are on the screen or in the queue. -/
theorem nothing_withheld {es : List Event} {w : World} (run : program.Run BufferEmptyAtError es w)
    (quiescent : w.net = .idle) (notPending : w.session.subscribeInProgress = false) :
    w.session.subscrubeTopics = [] ∧
      w.component.subscribeTopics ++ w.queue.flatMap Task.updates = deliveredUpdates es := by
  have flushed : w.Flushed := by
    apply run.invariant (I := World.Flushed) (.inr (.inl rfl))
    intro w e w' before cond step
    exact (Transition.of_step step).flushed cond before
  have empty : w.session.subscrubeTopics = [] := by
    simpa [World.Flushed, quiescent, notPending, NetPc.flushes] using flushed
  have all := World.updates_of_run run.free
  exact ⟨empty, by simpa [World.updates, quiescent, empty] using all⟩

theorem updateDuringSubscription_nothing_withheld :
    ∃ w, program.Run BufferEmptyAtError updateDuringSubscription w ∧
      w.session.subscrubeTopics = [] ∧
      w.component.subscribeTopics ++ w.queue.flatMap Task.updates =
        deliveredUpdates updateDuringSubscription := by
  obtain ⟨w, run, facts⟩ : ∃ w, program.Run BufferEmptyAtError updateDuringSubscription w ∧
      decide (w.net = .idle ∧ w.session.subscribeInProgress = false) = true :=
    TransitionSystem.Run.exists_of_exec (by decide)
  obtain ⟨quiescent, notPending⟩ := of_decide_eq_true facts
  exact ⟨w, run, nothing_withheld run quiescent notPending⟩

/-- A run in which an update of one subscription arrives while another one is pending, which then
    fails. -/
def failedSecondSubscription : List Event :=
  [.subscribe "a", .deliver .onSubscribe 0, .advance, .advance, .advance, .advance,
    .subscribe "b",
    .deliver (.onSubscribeTopicMessage (some ⟨0x15, .ofBytes [1], "a"⟩)) 0, .advance,
    .deliver (.onSubscribeError (some ⟨2, "refused"⟩)) 1, .advance, .advance, .advance]

/-- Without the condition the law fails: the update stays in the buffer. -/
theorem update_withheld_after_error :
    ¬ ∀ es w, program.Run endsOnce es w → w.net = .idle → w.session.subscribeInProgress = false →
      w.session.subscrubeTopics = [] := by
  intro law
  obtain ⟨w, run, facts⟩ : ∃ w, program.Run endsOnce failedSecondSubscription w ∧
      decide (w.net = .idle ∧ w.session.subscribeInProgress = false ∧
        w.session.subscrubeTopics ≠ []) = true :=
    TransitionSystem.Run.exists_of_exec (by decide)
  obtain ⟨quiescent, notPending, withheld⟩ := of_decide_eq_true facts
  exact withheld (law _ _ run quiescent notPending)

end Dmon
