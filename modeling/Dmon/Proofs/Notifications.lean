/-
Module: Dmon.Proofs.Notifications
Layer: Proofs
Purpose: The session's list of subscription events. It holds one entry for every notification that was
  delivered, in order, whatever else goes on. An entry has one number for both kinds of notification:
  subscriptions are entered with a reason of their own, which the library's reasons are cast to as well. So
  the kinds can be told apart unless an unsubscription comes with just that reason.
Imports: Dmon.Proofs.Transitions
Trusted boundary: none
Main exports: Notification, Notification.entry, SubscriptionNotification.decode, deliveredNotifications,
  notifications_recorded
-/
import Dmon.Proofs.Transitions

namespace Dmon

open TransitionSystem (Free)

/-! ### Notifications and entries -/

/-- A notification with a path: the session was subscribed to a topic, or unsubscribed for a reason. -/
inductive Notification where
  | subscribed (id : UInt32) (path : String)
  | unsubscribed (id : UInt32) (path : String) (reason : UInt32)
deriving DecidableEq, Repr

/-- The entry that the handlers make of it. -/
def Notification.entry : Notification → SubscriptionNotification
  | .subscribed id path => { id := id, path := path, reason := reasonSubscribe }
  | .unsubscribed id path reason => { id := id, path := path, reason := transformReason reason }

/-- The notification that an entry looks like. -/
def SubscriptionNotification.decode (ts : SubscriptionNotification) : Notification :=
  if ts.reason = reasonSubscribe then .subscribed ts.id ts.path
  else .unsubscribed ts.id ts.path ts.reason.toUInt32

/-- The reason of the notification is the one that stands for a subscription. -/
def Notification.Disguised : Notification → Prop
  | .subscribed .. => False
  | .unsubscribed _ _ reason => transformReason reason = reasonSubscribe

instance : DecidablePred Notification.Disguised
  | .subscribed .. => inferInstanceAs (Decidable False)
  | .unsubscribed _ _ reason => inferInstanceAs (Decidable (transformReason reason = reasonSubscribe))

/-- An entry is read back exactly when the notification was not disguised. -/
theorem Notification.decode_entry_iff (n : Notification) : n.entry.decode = n ↔ ¬ n.Disguised := by
  cases n with
  | subscribed id path => simp [entry, SubscriptionNotification.decode, Disguised]
  | unsubscribed id path reason =>
      simp [entry, SubscriptionNotification.decode, Disguised, transformReason]

/-- A list of entries is read back exactly when none of them was disguised. -/
theorem decode_entries_iff (ns : List Notification) :
    (ns.map Notification.entry).map SubscriptionNotification.decode = ns ↔ ∀ n ∈ ns, ¬ n.Disguised := by
  induction ns with
  | nil => simp
  | cons n rest ih => simp [Notification.decode_entry_iff, ← ih]

/-! ### The program -/

/-- The notification that a handler call brings, if the path is available. -/
def Handler.notification? : Handler → Option Notification
  | .onNotifySubscription request => request.topicPath.map (.subscribed request.topicId)
  | .onNotifyUnsubscription request =>
      request.topicPath.map (.unsubscribed request.topicId · request.reason)
  | _ => none

/-- The notification that an event delivers. -/
def Event.notification? : Event → Option Notification
  | .deliver h _ => h.notification?
  | _ => none

/-- All delivered notifications, oldest first. -/
def deliveredNotifications (es : List Event) : List Notification := es.filterMap Event.notification?

/-- A handler enters the notification that it brings, and nothing else. -/
theorem Handler.enter_events {h : Handler} {s : Session} {entered : Entered}
    (ok : h.enter s = .ok entered) :
    entered.session.topicSubscriptionEvents =
      s.topicSubscriptionEvents ++ (h.notification?.map Notification.entry).toList := by
  cases h with
  | onNotifySubscription request =>
      cases path : request.topicPath with
      | none => simp [enter, Handlers.onNotifySubscription, path] at ok
      | some path' =>
          simp only [enter, Handlers.onNotifySubscription, path, Except.ok.injEq] at ok
          subst ok
          simp [notification?, path, Entered.done, Session.onTopicSubscriptionEvent, Notification.entry]
  | onNotifyUnsubscription request =>
      cases path : request.topicPath with
      | none => simp [enter, Handlers.onNotifyUnsubscription, path] at ok
      | some path' =>
          simp only [enter, Handlers.onNotifyUnsubscription, path, Except.ok.injEq] at ok
          subst ok
          simp [notification?, path, Entered.done, Session.onTopicSubscriptionEvent, Notification.entry]
  | onTopic message | onFetchError message | onSubscribeTopicMessage message
  | onSubscribeError message | onUnsubscribeError message | onGlobalError message =>
      cases message <;> (cases ok; simp [notification?]; rfl)
  | onFetchStatusMessage status =>
      cases status with
      | none => cases ok; simp [notification?, Entered.done]
      | some status =>
          obtain ⟨_, rfl⟩ := Handlers.onFetchStatusMessage_ok_iff.1 ok
          simp [notification?, Entered.done]
  | onUnexpectedTopicMessage message =>
      cases message with
      | none => cases ok
      | some message =>
          cases ok
          simp [notification?, Entered.done]
  | _ =>
      cases ok
      simp [notification?]
      rfl

/-- A step enters the notification that it delivers. -/
theorem World.step_events {w w' : World} {e : Event} (step : program.step w e = some w') :
    w'.session.topicSubscriptionEvents =
      w.session.topicSubscriptionEvents ++ (e.notification?.map Notification.entry).toList := by
  cases e with
  | deliver h id =>
      change w.step (.deliver h id) = some w' at step
      simp only [World.step, Shared.enter] at step
      split at step
      next quiescent =>
        cases entered : h.enter w.session with
        | error fault => simp [entered, Except.map] at step
        | ok result =>
            simp only [entered, Except.map, Option.some.injEq] at step
            rw [← step]
            exact Handler.enter_events entered
      next => cases step
  | _ => cases Transition.of_step step <;> simp [Event.notification?] <;> rfl

/-- Every delivered notification is entered once and in its turn, in every run, whatever the threads do
    besides; and the list can be read back exactly when no unsubscription was delivered whose reason is the
    one that stands for a subscription. -/
theorem notifications_recorded {es : List Event} {w : World} (run : program.Run Free es w) :
    w.session.topicSubscriptionEvents = (deliveredNotifications es).map Notification.entry ∧
      (w.session.topicSubscriptionEvents.map SubscriptionNotification.decode = deliveredNotifications es ↔
        ∀ n ∈ deliveredNotifications es, ¬ n.Disguised) := by
  have entered : w.session.topicSubscriptionEvents =
      (deliveredNotifications es).map Notification.entry := by
    apply run.historyInvariant
      (I := fun es w => w.session.topicSubscriptionEvents =
        (deliveredNotifications es).map Notification.entry) rfl
    intro es w e w' before _ step
    rw [World.step_events step, before]
    cases delivered : e.notification? <;> simp [deliveredNotifications, delivered]
  refine ⟨entered, ?_⟩
  rw [entered]
  exact decode_entries_iff _

/-- A topic is subscribed to, and unsubscribed from during a fetch. -/
def subscribedAndRemoved : List Event :=
  [.deliver (.onNotifySubscription { topicId := 7, topicPath := some "a" }) 0, .fetch "b",
    .deliver (.onNotifyUnsubscription { topicId := 7, topicPath := some "a", reason := 2 }) 0]

theorem subscribedAndRemoved_recorded :
    ∃ w, program.Run Free subscribedAndRemoved w ∧
      w.session.topicSubscriptionEvents.map SubscriptionNotification.decode =
        [.subscribed 7 "a", .unsubscribed 7 "a" 2] := by
  obtain ⟨w, run, -⟩ : ∃ w, program.Run Free subscribedAndRemoved w ∧ decide (w.net = .idle) = true :=
    TransitionSystem.Run.exists_of_exec (by decide)
  exact ⟨w, run, (notifications_recorded run).2.2 (by decide)⟩

end Dmon
