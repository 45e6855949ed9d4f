/-
Module: Dmon.Model.Handlers
Layer: Model
Purpose: The C handlers that session.cpp registers with the library, and where the network thread goes from
  their first atomic step. `NetPc` lists the points at which the thread can stand between two atomic steps:
  critical sections of `m_operationMutex`, critical sections of the animator's mutex, and posts to the
  screen. The callbacks are the seven lambdas of main.cpp; the two start callbacks run inside
  `Session::fetch` and `Session::subscribe` and are in Dmon.Model.Program.
Imports: Dmon.Model.Hexdump, Dmon.Model.Interface
Trusted boundary: none
Main exports: Callback, NetPc, Entered, Handler, Handler.enter
-/
import Dmon.Model.Hexdump
import Dmon.Model.Interface

namespace Dmon

/-- A call of one of the callbacks that `main` installs for the end of an operation, with the arguments
    that the `Session` passes. -/
inductive Callback where
  | fetchCompleted (selector : String)
  | fetchError (error : Error)
  | fetchDiscard (selector : String)
  | subscribeCompleted (selector : String)
  | subscribeError (error : Error)
deriving DecidableEq, Repr

/-- The signal that the callback stops, and the event that it posts last. -/
def Callback.signal : Callback → String
  | .fetchCompleted _ | .fetchError _ | .fetchDiscard _ => "fetch"
  | .subscribeCompleted _ | .subscribeError _ => "subscribe"

/-- Where the network thread stands between two atomic steps. -/
inductive NetPc where
  /-- No handler is running. -/
  | idle
  /-- In `Session::onSubscribeTopic`, before `isSubscribtionInProgress()`. -/
  | testSubscription
  /-- At the start of a callback, before `animator.stop`. -/
  | stop (callback : Callback)
  /-- In the fetch-completed callback, before `session.getFetchTopics()`. -/
  | captureFetch (selector : String)
  /-- In the subscribe-completed callback, before `session.getSubscribeTopics()`. -/
  | captureSubscribe (selector : String)
  /-- Before `screen.Post` of a task. -/
  | post (task : Task)
  /-- Before `screen.PostEvent` of a signal. -/
  | postEvent (sig : String)
deriving DecidableEq, Repr

/-- The event that main's callbacks post after a task. -/
def Task.signal : Task → String
  | .fetchCompleted .. => "fetch"
  | .subscribeCompleted .. => "subscribe"
  | .event sig => sig

/-- The rest of a callback after `animator.stop`. The two completion callbacks first move the topics out of
    the session; the others build their task from what they were given. -/
def Callback.afterStop : Callback → NetPc
  | .fetchCompleted selector => .captureFetch selector
  | .fetchError error => .post (.fetchCompleted error.message [] "")
  | .fetchDiscard selector => .post (.fetchCompleted "Discard" [] selector)
  | .subscribeCompleted selector => .captureSubscribe selector
  | .subscribeError error => .post (.subscribeCompleted error.message [] "")

/-- The first atomic step of a handler: the value it will return, the session after its first critical
    section, and where it goes on. -/
structure Entered where
  returns : HandlerReturn
  session : Session
  next : NetPc
deriving DecidableEq, Repr

namespace Entered

/-- A handler that returns without touching the session. -/
def done (returns : HandlerReturn) (s : Session) : Entered :=
  { returns := returns, session := s, next := .idle }

/-- A handler that goes on to call a callback. -/
def calling (callback : Callback) (s : Session) : Entered :=
  { returns := .success, session := s, next := .stop callback }

end Entered

/-! ### The handlers

The log calls are left out. They evaluate their arguments, so a NULL pointer that only a log call reads
still counts, and so does the hex dump of a payload that is only logged. -/

/-- What `on_fetch_status_message` writes to its `std::stringstream`. -/
def FetchStatusResponse.payloadText (status : FetchStatusResponse) : Except Execution.Stuck String :=
  match status.payload.bind Buf.data with
  | some bytes => do
      let ss : Ostream := {}
      let ss ← (CustomHexdump.ofBuffer 32 false bytes).print ss
      return String.ofList ss.text
  | none => .ok ""

namespace Handlers

/-- `on_fetch`. -/
def onFetch (s : Session) : Entered :=
  let (selector, s) := s.onFetchCompleted
  .calling (.fetchCompleted selector) s

/-- `on_topic`. -/
def onTopic (message : Option TopicMessage) (s : Session) : Entered :=
  match message with
  | some message => .done .success (s.onFetchTopic message.toTopic)
  | none => .done .failure s

/-- `on_fetch_error`. -/
def onFetchError (error : Option DiffusionError) (s : Session) : Entered :=
  match error with
  | some error => .calling (.fetchError error.toError) (s.onFetchError error.toError)
  | none => .done .failure s

/-- `on_fetch_status_message`: the payload is dumped into a string, which is only logged. -/
def onFetchStatusMessage (status : Option FetchStatusResponse) (s : Session) :
    Except Fault Entered :=
  match status with
  | some status => do
      let _ ← status.payloadText.mapError Fault.stuck
      return .done .success s
  | none => .ok (.done .failure s)

/-- `on_fetch_discard`. -/
def onFetchDiscard (s : Session) : Entered :=
  let (selector, s) := s.onFetchDiscard
  .calling (.fetchDiscard selector) s

/-- `on_subscribe_topic_message`. -/
def onSubscribeTopicMessage (message : Option TopicMessage) (s : Session) : Entered :=
  match message with
  | some message =>
      { returns := .success
        session := s.onSubscribeTopic message.toTopic
        next := .testSubscription }
  | none => .done .failure s

/-- `on_subscribe`. -/
def onSubscribe (s : Session) : Entered :=
  let (selector, s) := s.onSubscribeCompleted
  .calling (.subscribeCompleted selector) s

/-- `on_subscribe_error`. -/
def onSubscribeError (error : Option DiffusionError) (s : Session) : Entered :=
  match error with
  | some error => .calling (.subscribeError error.toError) (s.onSubscribeError error.toError)
  | none => .done .failure s

/-- `on_subscribe_discard`: the discard is only logged. -/
def onSubscribeDiscard (s : Session) : Entered := .done .success s

/-- `on_unsubscribe`. -/
def onUnsubscribe (s : Session) : Entered := .done .success s

/-- `on_unsubscribe_error`: it calls `Session::onFetchError`. -/
def onUnsubscribeError (error : Option DiffusionError) (s : Session) : Entered :=
  match error with
  | some error => .calling (.fetchError error.toError) (s.onFetchError error.toError)
  | none => .done .failure s

/-- `on_unsubscribe_discard`. -/
def onUnsubscribeDiscard (s : Session) : Entered := .done .success s

/-- `on_notify_subscription`. The path goes into a `std::string` untested. -/
def onNotifySubscription (request : NotifySubscriptionRequest) (s : Session) :
    Except Fault Entered :=
  match request.topicPath with
  | some path =>
      .ok (.done .success (s.onTopicSubscriptionEvent
        { id := request.topicId, path := path, reason := reasonSubscribe }))
  | none => .error .stringFromNull

/-- `on_notify_unsubscription`. The path goes into a `std::string` untested. -/
def onNotifyUnsubscription (request : NotifyUnsubscriptionRequest) (s : Session) :
    Except Fault Entered :=
  match request.topicPath with
  | some path =>
      .ok (.done .success (s.onTopicSubscriptionEvent
        { id := request.topicId, path := path, reason := transformReason request.reason }))
  | none => .error .stringFromNull

/-- `on_global_error`. -/
def onGlobalError (error : Option DiffusionError) (s : Session) : Entered :=
  match error with
  | some _ => .done .success s
  | none => .done .failure s

/-- `on_unexpected_topic_message`: the message is only logged, without a test. -/
def onUnexpectedTopicMessage (message : Option TopicMessage) (s : Session) :
    Except Fault Entered :=
  match message with
  | some _ => .ok (.done .success s)
  | none => .error .nullDereference

end Handlers

/-- A call of a handler by the library. -/
inductive Handler where
  | onFetch
  | onTopic (message : Option TopicMessage)
  | onFetchError (error : Option DiffusionError)
  | onFetchStatusMessage (status : Option FetchStatusResponse)
  | onFetchDiscard
  | onSubscribeTopicMessage (message : Option TopicMessage)
  | onSubscribe
  | onSubscribeError (error : Option DiffusionError)
  | onSubscribeDiscard
  | onUnsubscribe
  | onUnsubscribeError (error : Option DiffusionError)
  | onUnsubscribeDiscard
  | onNotifySubscription (request : NotifySubscriptionRequest)
  | onNotifyUnsubscription (request : NotifyUnsubscriptionRequest)
  | onGlobalError (error : Option DiffusionError)
  | onUnexpectedTopicMessage (message : Option TopicMessage)
deriving DecidableEq, Repr

/-- The first atomic step of a handler call, or the fault that stops it. -/
def Handler.enter : Handler → Session → Except Fault Entered
  | .onFetch, s => .ok (Handlers.onFetch s)
  | .onTopic message, s => .ok (Handlers.onTopic message s)
  | .onFetchError error, s => .ok (Handlers.onFetchError error s)
  | .onFetchStatusMessage status, s => Handlers.onFetchStatusMessage status s
  | .onFetchDiscard, s => .ok (Handlers.onFetchDiscard s)
  | .onSubscribeTopicMessage message, s => .ok (Handlers.onSubscribeTopicMessage message s)
  | .onSubscribe, s => .ok (Handlers.onSubscribe s)
  | .onSubscribeError error, s => .ok (Handlers.onSubscribeError error s)
  | .onSubscribeDiscard, s => .ok (Handlers.onSubscribeDiscard s)
  | .onUnsubscribe, s => .ok (Handlers.onUnsubscribe s)
  | .onUnsubscribeError error, s => .ok (Handlers.onUnsubscribeError error s)
  | .onUnsubscribeDiscard, s => .ok (Handlers.onUnsubscribeDiscard s)
  | .onNotifySubscription request, s => Handlers.onNotifySubscription request s
  | .onNotifyUnsubscription request, s => Handlers.onNotifyUnsubscription request s
  | .onGlobalError error, s => .ok (Handlers.onGlobalError error s)
  | .onUnexpectedTopicMessage message, s => Handlers.onUnexpectedTopicMessage message s

end Dmon
