/-
Module: Dmon.Proofs.Transitions
Layer: Proofs
Purpose: What one step can do, said once. `Entry` lists what the first atomic step of a handler does to
  the session and where the handler goes on; `Transition` lists the steps of the program. The two inversion
  theorems say that the functions of the model do nothing else, so the invariants of the other modules are
  case analyses over these lists.
Imports: Dmon.Model.Program
Trusted boundary: none
Main exports: Entry, Entry.of_enter, Handler.enter_ok, Transition, Transition.of_step
-/
import Dmon.Model.Program

namespace Dmon

/-! ### Handlers -/

/-- A handler call that only logs: a NULL argument that it tests for, a discarded subscription, the
    acknowledgements of an unsubscription, and the messages that nobody is registered for. -/
def Handler.isQuiet : Handler → Bool
  | .onTopic message | .onSubscribeTopicMessage message => message.isNone
  | .onFetchError error | .onSubscribeError error | .onUnsubscribeError error => error.isNone
  | .onFetchStatusMessage _ | .onSubscribeDiscard | .onUnsubscribe | .onUnsubscribeDiscard
  | .onGlobalError _ | .onUnexpectedTopicMessage _ => true
  | _ => false

/-- A notification of a subscription or of its end. -/
def Handler.isNotification : Handler → Bool
  | .onNotifySubscription _ | .onNotifyUnsubscription _ => true
  | _ => false

/-- A notification belongs to no request. -/
theorem Handler.kind?_of_isNotification {h : Handler} (note : h.isNotification = true) :
    h.kind? = none := by
  cases h with
  | onNotifySubscription | onNotifyUnsubscription => rfl
  | _ => cases note

/-- `Entry h s s' next`: the first atomic step of `h` takes the session from `s` to `s'`, and the handler
    goes on at `next`. -/
inductive Entry : Handler → Session → Session → NetPc → Prop where
  | topic (message : TopicMessage) (s : Session) :
      Entry (.onTopic (some message)) s (s.onFetchTopic message.toTopic) .idle
  | fetchCompleted (s : Session) :
      Entry .onFetch s s.onFetchCompleted.2 (.stop (.fetchCompleted s.selector))
  | fetchFailed (error : DiffusionError) (s : Session) :
      Entry (.onFetchError (some error)) s (s.onFetchError error.toError)
        (.stop (.fetchError error.toError))
  | fetchDiscarded (s : Session) :
      Entry .onFetchDiscard s s.onFetchDiscard.2 (.stop (.fetchDiscard s.selector))
  | update (message : TopicMessage) (s : Session) :
      Entry (.onSubscribeTopicMessage (some message)) s (s.onSubscribeTopic message.toTopic)
        .testSubscription
  | subscribed (s : Session) :
      Entry .onSubscribe s s.onSubscribeCompleted.2 (.stop (.subscribeCompleted s.selector))
  | subscribeFailed (error : DiffusionError) (s : Session) :
      Entry (.onSubscribeError (some error)) s (s.onSubscribeError error.toError)
        (.stop (.subscribeError error.toError))
  | unsubscribeFailed (error : DiffusionError) (s : Session) :
      Entry (.onUnsubscribeError (some error)) s (s.onFetchError error.toError)
        (.stop (.fetchError error.toError))
  | notified (h : Handler) (ts : SubscriptionNotification) (s : Session) :
      h.isNotification = true → Entry h s (s.onTopicSubscriptionEvent ts) .idle
  | quiet (h : Handler) (s : Session) : h.isQuiet = true → Entry h s s .idle

/-- A status message is only logged, when its payload can be dumped. -/
theorem Handlers.onFetchStatusMessage_ok_iff {status : FetchStatusResponse} {s : Session}
    {entered : Entered} :
    Handlers.onFetchStatusMessage (some status) s = .ok entered ↔
      (∃ text, status.payloadText = .ok text) ∧ entered = .done .success s := by
  cases dumped : status.payloadText with
  | error reason =>
      simp only [onFetchStatusMessage, dumped]
      constructor
      · intro ok
        cases ok
      · intro both
        obtain ⟨⟨text, other⟩, _⟩ := both
        cases other
  | ok text =>
      simp only [onFetchStatusMessage, dumped]
      constructor
      · intro ok
        exact ⟨⟨text, rfl⟩, (Except.ok.inj ok).symm⟩
      · intro both
        rw [both.2]
        rfl

/-- A handler that enters without a fault does what `Entry` lists. -/
theorem Entry.of_enter {h : Handler} {s : Session} {entered : Entered}
    (ok : h.enter s = .ok entered) : Entry h s entered.session entered.next := by
  cases h with
  | onFetch => cases ok; exact .fetchCompleted s
  | onFetchDiscard => cases ok; exact .fetchDiscarded s
  | onSubscribe => cases ok; exact .subscribed s
  | onTopic message =>
      cases message with
      | none => cases ok; exact .quiet _ s rfl
      | some message => cases ok; exact .topic message s
  | onFetchError error =>
      cases error with
      | none => cases ok; exact .quiet _ s rfl
      | some error => cases ok; exact .fetchFailed error s
  | onSubscribeTopicMessage message =>
      cases message with
      | none => cases ok; exact .quiet _ s rfl
      | some message => cases ok; exact .update message s
  | onSubscribeError error =>
      cases error with
      | none => cases ok; exact .quiet _ s rfl
      | some error => cases ok; exact .subscribeFailed error s
  | onUnsubscribeError error =>
      cases error with
      | none => cases ok; exact .quiet _ s rfl
      | some error => cases ok; exact .unsubscribeFailed error s
  | onFetchStatusMessage status =>
      cases status with
      | none => cases ok; exact .quiet _ s rfl
      | some status =>
          obtain ⟨_, rfl⟩ := Handlers.onFetchStatusMessage_ok_iff.1 ok
          exact .quiet _ s rfl
  | onGlobalError error =>
      cases error <;> cases ok <;> exact .quiet _ s rfl
  | onSubscribeDiscard | onUnsubscribe | onUnsubscribeDiscard =>
      cases ok; exact .quiet _ s rfl
  | onUnexpectedTopicMessage message =>
      cases message with
      | none => cases ok
      | some message => cases ok; exact .quiet _ s rfl
  | onNotifySubscription request =>
      rcases request with ⟨id, path⟩
      cases path with
      | none => cases ok
      | some path => cases ok; exact .notified _ _ s rfl
  | onNotifyUnsubscription request =>
      rcases request with ⟨id, path, reason⟩
      cases path with
      | none => cases ok
      | some path => cases ok; exact .notified _ _ s rfl

/-- Whether a call has a fault depends on its arguments only. -/
theorem Handler.enter_ok {h : Handler} {s : Session} {entered : Entered} (ok : h.enter s = .ok entered)
    (other : Session) : ∃ entered', h.enter other = .ok entered' := by
  cases h with
  | onFetchStatusMessage status =>
      cases status with
      | none => exact ⟨_, rfl⟩
      | some status =>
          obtain ⟨dumped, _⟩ := Handlers.onFetchStatusMessage_ok_iff.1 ok
          exact ⟨_, Handlers.onFetchStatusMessage_ok_iff.2 ⟨dumped, rfl⟩⟩
  | onUnexpectedTopicMessage message =>
      cases message with
      | none => cases ok
      | some message => exact ⟨_, rfl⟩
  | onNotifySubscription request =>
      rcases request with ⟨id, path⟩
      cases path with
      | none => cases ok
      | some path => exact ⟨_, rfl⟩
  | onNotifyUnsubscription request =>
      rcases request with ⟨id, path, reason⟩
      cases path with
      | none => cases ok
      | some path => exact ⟨_, rfl⟩
  | _ => exact ⟨_, rfl⟩

/-! ### The program -/

/-- `Transition w e w'`: the event `e` takes the program from `w` to `w'`. -/
inductive Transition : World → Event → World → Prop where
  | fetchAccepted (w : World) (selector : String) : w.session.fetchInProgress = false →
      Transition w (.fetch selector)
        { w with
          session := w.session.beginFetch selector
          animator := w.animator.start "fetch"
          component := w.component.resetSpinner
          library := w.library.handOver .fetch selector }
  | fetchRefused (w : World) (selector : String) : w.session.fetchInProgress = true →
      Transition w (.fetch selector) w
  | subscribeAccepted (w : World) (selector : String) : w.session.fetchInProgress = false →
      Transition w (.subscribe selector)
        { w with
          session := w.session.beginSubscribe selector
          animator := w.animator.start "subscribe"
          component := w.component.resetSubscribtionSpinner
          library := w.library.handOver .subscribe selector }
  | subscribeRefused (w : World) (selector : String) : w.session.fetchInProgress = true →
      Transition w (.subscribe selector) w
  | unsubscribed (w : World) (selector : String) :
      Transition w (.unsubscribe selector)
        { w with library := w.library.handOver .unsubscribe selector }
  | ran (w : World) (task : Task) (rest : List Task) : w.queue = task :: rest →
      Transition w .runTask { w with queue := rest, component := w.component.runTask task }
  | animated (w : World) (sig : String) : sig ∈ w.animator.signals →
      Transition w (.animate sig) { w with queue := w.queue ++ [.event sig] }
  | delivered (w : World) (h : Handler) (id : Nat) (s : Session) (next : NetPc) :
      w.net = .idle → Entry h w.session s next →
      Transition w (.deliver h id)
        { w with session := s, library := w.library.record h id, net := next }
  | held (w : World) : w.net = .testSubscription → w.session.subscribeInProgress = true →
      Transition w .advance { w with net := .idle }
  | passed (w : World) : w.net = .testSubscription → w.session.subscribeInProgress = false →
      Transition w .advance { w with net := .stop (.subscribeCompleted "") }
  | stopped (w : World) (callback : Callback) : w.net = .stop callback →
      Transition w .advance
        { w with animator := w.animator.stop callback.signal, net := callback.afterStop }
  | capturedFetch (w : World) (selector : String) : w.net = .captureFetch selector →
      Transition w .advance
        { w with
          session := { w.session with topics := [] }
          net := .post (.fetchCompleted "" w.session.topics selector) }
  | capturedSubscribe (w : World) (selector : String) : w.net = .captureSubscribe selector →
      Transition w .advance
        { w with
          session := { w.session with subscrubeTopics := [] }
          net := .post (.subscribeCompleted "" w.session.subscrubeTopics selector) }
  | posted (w : World) (task : Task) : w.net = .post task →
      Transition w .advance { w with queue := w.queue ++ [task], net := .postEvent task.signal }
  | eventPosted (w : World) (sig : String) : w.net = .postEvent sig →
      Transition w .advance { w with queue := w.queue ++ [.event sig], net := .idle }

/-- Every step of the program is one of the listed transitions. -/
theorem Transition.of_step {w w' : World} {e : Event} (step : program.step w e = some w') :
    Transition w e w' := by
  change w.step e = some w' at step
  cases e with
  | fetch selector =>
      cases busy : w.session.fetchInProgress with
      | false =>
          have moved := Transition.fetchAccepted w selector busy
          simp [World.step, Shared.search, Shared.fetch, Session.accepts, busy] at step
          exact step ▸ moved
      | true =>
          have moved := Transition.fetchRefused w selector busy
          simp [World.step, Shared.search, Shared.fetch, Session.accepts, busy] at step
          exact step ▸ moved
  | subscribe selector =>
      cases busy : w.session.fetchInProgress with
      | false =>
          have moved := Transition.subscribeAccepted w selector busy
          simp [World.step, Shared.requestSubscription, Shared.subscribe, Session.accepts, busy]
            at step
          exact step ▸ moved
      | true =>
          have moved := Transition.subscribeRefused w selector busy
          simp [World.step, Shared.requestSubscription, Shared.subscribe, Session.accepts, busy]
            at step
          exact step ▸ moved
  | unsubscribe selector =>
      cases step
      exact .unsubscribed w selector
  | runTask =>
      simp only [World.step] at step
      split at step
      next => cases step
      next task rest queue =>
        have moved := Transition.ran w task rest queue
        cases step
        simpa [Shared.popTask, Shared.runTask, queue] using moved
  | animate sig =>
      simp only [World.step] at step
      split at step
      next present =>
        cases step
        exact .animated w sig present
      next => cases step
  | deliver h id =>
      simp only [World.step, Shared.enter] at step
      split at step
      next quiescent =>
        cases entered : h.enter w.session with
        | error fault => simp [entered, Except.map] at step
        | ok result =>
            have moved := Transition.delivered w h id _ _ quiescent (.of_enter entered)
            simp only [entered, Except.map, Option.some.injEq] at step
            exact step ▸ moved
      next => cases step
  | advance =>
      simp only [World.step] at step
      cases at_ : w.net with
      | idle => simp [at_] at step
      | testSubscription =>
          cases pending : w.session.subscribeInProgress with
          | true =>
              have moved := Transition.held w at_ pending
              simp [at_, Shared.advance, pending] at step
              exact step ▸ moved
          | false =>
              have moved := Transition.passed w at_ pending
              simp [at_, Shared.advance, pending] at step
              exact step ▸ moved
      | stop callback =>
          have moved := Transition.stopped w callback at_
          simp [at_, Shared.advance] at step
          exact step ▸ moved
      | captureFetch selector =>
          have moved := Transition.capturedFetch w selector at_
          simp [at_, Shared.advance, Session.getFetchTopics] at step
          exact step ▸ moved
      | captureSubscribe selector =>
          have moved := Transition.capturedSubscribe w selector at_
          simp [at_, Shared.advance, Session.getSubscribeTopics] at step
          exact step ▸ moved
      | post task =>
          have moved := Transition.posted w task at_
          simp [at_, Shared.advance] at step
          exact step ▸ moved
      | postEvent sig =>
          have moved := Transition.eventPosted w sig at_
          simp [at_, Shared.advance] at step
          exact step ▸ moved

end Dmon
