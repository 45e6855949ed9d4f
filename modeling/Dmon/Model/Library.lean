/-
Module: Dmon.Model.Library
Layer: Model
Purpose: The library's side of the conversations: which requests the program handed to `::fetch`,
  `::subscribe` and `::unsubscribe`, which of them still wait for their terminal handler, which topics were
  delivered for each, and the log of openings and endings. The ledger records what happens and restricts
  nothing; the assumptions that some results make on the library are in Dmon.Model.Program.
Imports: Dmon.Model.Handlers
Trusted boundary: none
Main exports: TopicMessage.delivered, RequestKind, Conversation, Ending, Library, Library.handOver, Library.record,
  Library.outstandingOf, Library.expects
-/
import Dmon.Model.Handlers

namespace Dmon

/-! ### What a message carries -/

/-- The bytes of a message: none when its payload has no data. -/
def TopicMessage.bytes (message : TopicMessage) : List UInt8 :=
  match message.payload.data with
  | some bytes => bytes
  | none => []

/-- The topic that the library delivers with a message: the name of its type, its name and its bytes. -/
def TopicMessage.delivered (message : TopicMessage) : Topic where
  topicType := topicType2Str message.type
  path := message.name
  buffer := message.bytes

/-- The topic that the handlers build from a message is the one that was delivered. -/
@[simp] theorem TopicMessage.toTopic_eq_delivered (message : TopicMessage) :
    message.toTopic = message.delivered := by
  unfold toTopic delivered bytes Topic.ofBuf
  cases message.payload.data <;> rfl

/-! ### Conversations -/

/-- The three kinds of request. -/
inductive RequestKind where
  | fetch
  | subscribe
  | unsubscribe
deriving DecidableEq, Repr

/-- A request that was handed to the library, with the topics delivered for it so far. -/
structure Conversation where
  id : Nat
  kind : RequestKind
  selector : String
  topics : List Topic := []
deriving DecidableEq, Repr

/-- How a conversation ended: by the handler for its completion, by the error handler with its argument,
    or by the discard handler. -/
inductive Ending where
  | completed
  | failed (error : Option DiffusionError)
  | discarded
deriving DecidableEq, Repr

/-- An entry of the library's log. -/
inductive LogEntry where
  | opened (conversation : Conversation)
  | ended (conversation : Conversation) (ending : Ending)
deriving DecidableEq, Repr

/-- The library's ledger. -/
structure Library where
  nextId : Nat := 0
  outstanding : List Conversation := []
  log : List LogEntry := []
deriving DecidableEq, Repr

/-- The request kind in whose handler set the program registers the handler, if any. Subscription updates
    are routed by selector and outlive the conversation that asked for them. -/
def Handler.kind? : Handler → Option RequestKind
  | .onFetch | .onTopic _ | .onFetchError _ | .onFetchStatusMessage _ | .onFetchDiscard =>
      some .fetch
  | .onSubscribe | .onSubscribeError _ | .onSubscribeDiscard => some .subscribe
  | .onUnsubscribe | .onUnsubscribeError _ | .onUnsubscribeDiscard => some .unsubscribe
  | _ => none

/-- The ending that a terminal handler stands for. -/
def Handler.ending? : Handler → Option Ending
  | .onFetch | .onSubscribe | .onUnsubscribe => some .completed
  | .onFetchError error | .onSubscribeError error | .onUnsubscribeError error => some (.failed error)
  | .onFetchDiscard | .onSubscribeDiscard | .onUnsubscribeDiscard => some .discarded
  | _ => none

/-- The handler delivers a topic of a fetch. -/
def Handler.isFetchTopic : Handler → Bool
  | .onTopic _ => true
  | _ => false

/-- The conversation `c` has number `id` and is one in whose handler set `h` is. -/
def Conversation.answers (c : Conversation) (h : Handler) (id : Nat) : Bool :=
  c.id == id && h.kind? == some c.kind

namespace Library

/-- `::fetch`, `::subscribe` and `::unsubscribe`: a new conversation is opened. -/
def handOver (lib : Library) (kind : RequestKind) (selector : String) : Library :=
  let conversation : Conversation := { id := lib.nextId, kind := kind, selector := selector }
  { nextId := lib.nextId + 1
    outstanding := lib.outstanding ++ [conversation]
    log := lib.log ++ [.opened conversation] }

/-- The ledger after the library runs handler `h` for conversation `id`: a topic message is added to the
    topics of the conversation, a terminal handler ends it. -/
def record (lib : Library) (h : Handler) (id : Nat) : Library :=
  match h.ending? with
  | some ending =>
      { lib with
        outstanding := lib.outstanding.filter fun c => !c.answers h id
        log := lib.log ++ (lib.outstanding.filter (·.answers h id)).map (.ended · ending) }
  | none =>
      match h with
      | .onTopic (some message) =>
          { lib with
            outstanding := lib.outstanding.map fun c =>
              if c.answers h id then { c with topics := c.topics ++ [message.delivered] } else c }
      | _ => lib

/-- The outstanding requests of one kind. -/
def outstandingOf (lib : Library) (kind : RequestKind) : List Conversation :=
  lib.outstanding.filter (·.kind == kind)

/-- Some outstanding conversation answers to `h` and `id`. -/
def expects (lib : Library) (h : Handler) (id : Nat) : Bool :=
  lib.outstanding.any (·.answers h id)

end Library

end Dmon
