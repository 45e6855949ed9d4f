/-
Module: Dmon.Model.Session
Layer: Model
Purpose: The class `Session` of data/session.cpp for a connected session (`m_session` is not null, which
  `main` checks before anything else runs and nothing resets). Every function here is one critical section
  of `m_operationMutex`, or a part of one where a callback is called inside it.
Imports: Dmon.Model.Diffusion
Trusted boundary: none
Main exports: Topic, Error, SubscriptionNotification, Session, topicType2Str, and the operations of Session
-/
import Dmon.Model.Diffusion

namespace Dmon

/-- `topicType2Str`: the name of a message type. -/
def topicType2Str (mt : MessageType) : String :=
  match mt.toNat with
  | 0x00 => "UNDEFINED"
  | 0x14 => "TOPIC_LOAD"
  | 0x15 => "DELTA"
  | 0x16 => "SUBSCRIBE"
  | 0x17 => "UNSUBSCRIBE"
  | 0x18 => "PING_SERVER"
  | 0x19 => ""
  | 0x1a => "CREDENTIALS"
  | 0x1b => "CREDENTIALS_REJECTED"
  | 0x1c => "ABORT_NOTIFICATION"
  | 0x1d => "CLOSE_REQUEST"
  | 0x1e => "TOPIC_LOAD_ACK_REQD"
  | 0x1f => "DELTA_ACK_REQD"
  | 0x20 => "ACK"
  | 0x21 => "FETCH"
  | 0x22 => "FETCH_REPLY"
  | 0x23 => "STATUS_NOTIFICATION"
  | 0x24 => "COMMAND_MESSAGE"
  | 0x28 => "COMMAND_TOPIC_LOAD"
  | 0x29 => "COMMAND_TOPIC_NOTIFICATION"
  | _ => "???"

/-- `struct Topic`. -/
structure Topic where
  topicType : String
  path : String
  buffer : List UInt8
deriving DecidableEq, Repr

/-- The constructor `Topic::Topic(type, path, ptr, len)`: the bytes are copied when `ptr` is not NULL. -/
def Topic.ofBuf (type path : String) (buf : Buf) : Topic :=
  { topicType := type, path := path, buffer := buf.data.getD [] }

/-- The topic that `on_topic` and `on_subscribe_topic_message` build from a message. -/
def TopicMessage.toTopic (message : TopicMessage) : Topic :=
  Topic.ofBuf (topicType2Str message.type) message.name message.payload

/-- `struct Error`. -/
structure Error where
  code : ErrorCode := diffErrSuccess
  message : String := ""
deriving DecidableEq, Repr

/-- `Error{error->code, std::string(error->message)}`. -/
def DiffusionError.toError (error : DiffusionError) : Error :=
  { code := error.code, message := error.message }

/-- `enum SubscriptionReason : int`. -/
abbrev SubscriptionReason := Int32

/-- `REASON_SUBSCRIBE`. -/
def reasonSubscribe : SubscriptionReason := 100500

/-- `transformReason`: a cast. -/
def transformReason (r : UInt32) : SubscriptionReason := r.toInt32

/-- `struct SubscriptionNotification`. -/
structure SubscriptionNotification where
  id : UInt32
  path : String
  reason : SubscriptionReason
deriving DecidableEq, Repr

/-- The data members of a connected `Session` that its operations and handlers use. -/
structure Session where
  topics : List Topic := []
  subscrubeTopics : List Topic := []
  fetchInProgress : Bool := false
  subscribeInProgress : Bool := false
  fetchStatus : Error := {}
  subscribeStatus : Error := {}
  selector : String := ""
  topicSubscriptionEvents : List SubscriptionNotification := []
deriving DecidableEq, Repr

namespace Session

/-- The condition under which `Session::fetch` and, with the same flag, `Session::subscribe` go ahead. -/
def accepts (s : Session) : Bool := !s.fetchInProgress

/-- `Session::fetch` up to the call of the start callback. -/
def beginFetch (s : Session) (selector : String) : Session :=
  { s with
    fetchStatus := { code := diffErrSuccess, message := "" }
    fetchInProgress := true
    topics := []
    selector := selector }

/-- `Session::subscribe` up to the call of the start callback. -/
def beginSubscribe (s : Session) (selector : String) : Session :=
  { s with selector := selector, subscribeInProgress := true }

/-- `Session::onFetchTopic`. -/
def onFetchTopic (s : Session) (t : Topic) : Session :=
  { s with topics := s.topics ++ [t] }

/-- The critical section of `Session::onFetchError`. -/
def onFetchError (s : Session) (error : Error) : Session :=
  { s with fetchStatus := error, fetchInProgress := false }

/-- The critical section of `Session::onFetchDiscard`, with the selector it moves out. -/
def onFetchDiscard (s : Session) : String × Session :=
  (s.selector,
    { s with
      fetchStatus := { code := diffErrSuccess, message := "Discarded" }
      fetchInProgress := false
      selector := "" })

/-- The critical section of `Session::onFetchCompleted`, with the selector it moves out. -/
def onFetchCompleted (s : Session) : String × Session :=
  (s.selector, { s with fetchInProgress := false, selector := "" })

/-- The critical section of `Session::onSubscribeTopic`. -/
def onSubscribeTopic (s : Session) (t : Topic) : Session :=
  { s with subscrubeTopics := s.subscrubeTopics ++ [t] }

/-- The critical section of `Session::onSubscribeCompleted`, with the selector it moves out. -/
def onSubscribeCompleted (s : Session) : String × Session :=
  (s.selector, { s with subscribeInProgress := false, selector := "" })

/-- The critical section of `Session::onSubscribeError`. -/
def onSubscribeError (s : Session) (error : Error) : Session :=
  { s with subscribeStatus := error, subscribeInProgress := false }

/-- `Session::onTopicSubscriptionEvent`, which takes no lock. `main` installs no callback for it. -/
def onTopicSubscriptionEvent (s : Session) (ts : SubscriptionNotification) : Session :=
  { s with topicSubscriptionEvents := s.topicSubscriptionEvents ++ [ts] }

/-- `Session::getFetchTopics`: the fetched topics are moved out. -/
def getFetchTopics (s : Session) : List Topic × Session :=
  (s.topics, { s with topics := [] })

/-- `Session::getSubscribeTopics`: the buffered updates are moved out. -/
def getSubscribeTopics (s : Session) : List Topic × Session :=
  (s.subscrubeTopics, { s with subscrubeTopics := [] })

end Session

end Dmon
