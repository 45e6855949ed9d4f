/-
Module: Dmon.Model.Diffusion
Layer: Model
Purpose: The C data that the Diffusion library hands to the program: buffers, topic messages, errors,
  fetch status responses and (un)subscription notifications. A pointer member that its header documents as
  possibly NULL, or that a handler of the program tests for NULL, is an `Option`; the other members are
  values. Members that no handler reads (headers, contexts, topic details) are left out.
Imports: Mathlib.Data.List.Basic, Dmon.Lib.Execution
Trusted boundary: none
Main exports: ErrorCode, MessageType, Buf, TopicMessage, DiffusionError, FetchStatusResponse,
  NotifySubscriptionRequest, NotifyUnsubscriptionRequest, HandlerReturn
-/
import Mathlib.Data.List.Basic
import Dmon.Lib.Execution

namespace Dmon

/-- `ERROR_CODE_T`: a C enumeration without negative enumerators. The precompiled library may pass any
    value of its width. -/
abbrev ErrorCode := UInt32

/-- `DIFF_ERR_SUCCESS`, the first enumerator of `ERROR_CODE_T`. -/
def diffErrSuccess : ErrorCode := 0

/-- `MESSAGE_TYPE_T`, likewise any value of its width. -/
abbrev MessageType := UInt32

/-- `BUF_T`: `data` is NULL or points to `len` bytes. -/
structure Buf where
  data : Option (List UInt8)
  len : Nat
  data_len : ∀ bytes ∈ data, bytes.length = len
deriving DecidableEq, Repr

/-- The buffer that holds exactly `bytes`. -/
def Buf.ofBytes (bytes : List UInt8) : Buf where
  data := some bytes
  len := bytes.length
  data_len := by simp

/-- `TOPIC_MESSAGE_T`: a message with topic data. -/
structure TopicMessage where
  type : MessageType
  payload : Buf
  name : String
deriving DecidableEq, Repr

/-- `DIFFUSION_ERROR_T`. -/
structure DiffusionError where
  code : ErrorCode
  message : String
deriving DecidableEq, Repr

/-- `DIFFUSION_FALSE`. -/
def diffusionFalse : Int32 := 0

/-- `DIFFUSION_TRUE`. -/
def diffusionTrue : Int32 := 1

/-- `SVC_FETCH_STATUS_RESPONSE_T`: the handler tests the payload pointer and the data pointer in it. -/
structure FetchStatusResponse where
  statusFlag : Int32
  payload : Option Buf
deriving DecidableEq, Repr

/-- `SVC_NOTIFY_SUBSCRIPTION_REQUEST_T`, its `topic_info`. -/
structure NotifySubscriptionRequest where
  topicId : UInt32
  topicPath : Option String
deriving DecidableEq, Repr

/-- `SVC_NOTIFY_UNSUBSCRIPTION_REQUEST_T`. The path is "the topic path, or NULL if not available". -/
structure NotifyUnsubscriptionRequest where
  topicId : UInt32
  topicPath : Option String
  reason : UInt32
deriving DecidableEq, Repr

/-- What a handler returns to the library. -/
inductive HandlerReturn where
  | success
  | failure
deriving DecidableEq, Repr

/-- What stops a handler before it returns. -/
inductive Fault where
  /-- A NULL pointer is dereferenced. -/
  | nullDereference
  /-- A `std::string` is constructed from NULL. -/
  | stringFromNull
  /-- An overflow, an index out of range, or a loop that goes on. -/
  | stuck (reason : Execution.Stuck)
deriving DecidableEq, Repr

end Dmon
