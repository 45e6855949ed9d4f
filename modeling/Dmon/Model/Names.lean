/-
Module: Dmon.Model.Names
Layer: Model
Purpose: The name tables of session.cpp, `state2String` and `error2Str`, with the enumerations whose names they
  hold. The values come from a precompiled library, so they are any values of the enumerations' width. A
  comparison with a quotient of `sizeof`s is one of 64-bit unsigned values.
Imports: Dmon.Lib.Execution, Dmon.Model.Diffusion
Trusted boundary: none
Main exports: SessionState, stateNames, state2String, errorEnumerators, errorNames, error2Str
-/
import Dmon.Lib.Execution
import Dmon.Model.Diffusion

namespace Dmon

open Execution

/-- `SESSION_STATE_T`. -/
inductive SessionState where
  | unknown
  | connecting
  | connectedInitialising
  | connectedActive
  | recoveringReconnect
  | recoveringFailover
  | closedByClient
  | closedByServer
  | closedFailed
deriving DecidableEq, Repr

/-- The value of the enumerator; the first is -1. -/
def SessionState.value : SessionState → Int
  | .unknown => -1
  | .connecting => 0
  | .connectedInitialising => 1
  | .connectedActive => 2
  | .recoveringReconnect => 3
  | .recoveringFailover => 4
  | .closedByClient => 5
  | .closedByServer => 6
  | .closedFailed => 7

/-- The enumerator's own name. -/
def SessionState.name : SessionState → String
  | .unknown => "SESSION_STATE_UNKNOWN"
  | .connecting => "CONNECTING"
  | .connectedInitialising => "CONNECTED_INITIALISING"
  | .connectedActive => "CONNECTED_ACTIVE"
  | .recoveringReconnect => "RECOVERING_RECONNECT"
  | .recoveringFailover => "RECOVERING_FAILOVER"
  | .closedByClient => "CLOSED_BY_CLIENT"
  | .closedByServer => "CLOSED_BY_SERVER"
  | .closedFailed => "CLOSED_FAILED"

/-- The table `states`. -/
def stateNames : List String :=
  ["SESSION_STATE_UNKNOWN", "CONNECTING", "CONNECTED_INITIALISING", "CONNECTED_ACTIVE",
    "RECOVERING_RECONNECT", "RECOVERING_FAILOVER", "CLOSED_BY_CLIENT", "CLOSED_BY_SERVER",
    "CLOSED_FAILED"]

/-- `state2String`. The second comparison converts the state to `size_t`. -/
def state2String (st : Int32) : Except Stuck String :=
  if st.toInt < -1 ∨ stateNames.length - 1 < toSize st.toInt then .ok "????"
  else do
    let index ← checked (st.toInt + 1)
    readAt stateNames index

/-- The enumerators of `ERROR_CODE_T`, from `DIFF_ERR_SUCCESS = 0` on. -/
def errorEnumerators : List String :=
  ["DIFF_ERR_SUCCESS", "DIFF_ERR_UNKNOWN", "DIFF_ERR_SERVICE", "DIFF_ERR_SESSION_CREATE_FAILED",
    "DIFF_ERR_TRANSPORT_CREATE_FAILED", "DIFF_ERR_NO_SESSION", "DIFF_ERR_NO_TRANSPORT",
    "DIFF_ERR_NO_START_FN", "DIFF_ERR_NO_CLOSE_FN", "DIFF_ERR_NO_SERVERS_DEFINED",
    "DIFF_ERR_ADDR_LOOKUP_FAIL", "DIFF_ERR_SOCKET_CREATE_FAIL", "DIFF_ERR_SOCKET_CONNECT_FAIL",
    "DIFF_ERR_HANDSHAKE_SEND_FAIL", "DIFF_ERR_HANDSHAKE_RECV_FAIL",
    "DIFF_ERR_INVALID_CONNECTION_PROTOCOL", "DIFF_ERR_INVALID_TOPIC_SPECIFICATION",
    "DIFF_ERR_TOPIC_ALREADY_EXISTS", "DIFF_ERR_CONNECTION_REJECTED",
    "DIFF_ERR_CONNECTION_ERROR_UNDEFINED", "DIFF_ERR_MESSAGE_QUEUE_FAIL",
    "DIFF_ERR_MESSAGE_SEND_FAIL", "DIFF_ERR_PARSE_URL", "DIFF_ERR_UNKNOWN_TRANSPORT",
    "DIFF_ERR_SOCKET_READ_FAIL", "DIFF_ERR_SOCKET_WRITE_FAIL", "DIFF_ERR_DOWNGRADE",
    "DIFF_ERR_CONNECTION_UNSUPPORTED", "DIFF_ERR_LICENCE_EXCEEDED",
    "DIFF_ERR_RECONNECTION_UNSUPPORTED", "DIFF_ERR_CONNECTION_PROTOCOL_ERROR",
    "DIFF_ERR_AUTHENTICATION_FAILED", "DIFF_ERR_PROTOCOL_VERSION", "DIFF_ERR_UNKNOWN_SESSION",
    "DIFF_ERR_MESSAGE_LOSS"]

/-- The table `codes`. -/
def errorNames : List String :=
  ["SUCCESS", "UNKNOWN", "SERVICE", "SESSION_CREATE_FAILED", "TRANSPORT_CREATE_FAILED", "NO_SESSION",
    "NO_TRANSPORT", "NO_START_FN", "NO_CLOSE_FN", "NO_SERVERS_DEFINED", "ADDR_LOOKUP_FAIL",
    "SOCKET_CREATE_FAIL", "SOCKET_CONNECT_FAIL", "HANDSHAKE_SEND_FAIL", "HANDSHAKE_RECV_FAIL",
    "INVALID_CONNECTION_PROTOCOL", "INVALID_TOPIC_SPECIFICATION", "TOPIC_ALREADY_EXISTS",
    "CONNECTION_REJECTED", "CONNECTION_ERROR_UNDEFINED", "MESSAGE_QUEUE_FAIL", "MESSAGE_SEND_FAIL",
    "PARSE_URL", "UNKNOWN_TRANSPORT", "SOCKET_READ_FAIL", "SOCKET_WRITE_FAIL", "DOWNGRADE",
    "CONNECTION_UNSUPPORTED", "LICENCE_EXCEEDED", "RECONNECTION_UNSUPPORTED",
    "CONNECTION_PROTOCOL_ERROR", "AUTHENTICATION_FAILED", "PROTOCOL_VERSION", "UNKNOWN_SESSION",
    "MESSAGE_LOSS"]

/-- `error2Str`. -/
def error2Str (ec : ErrorCode) : Except Stuck String :=
  if errorNames.length ≤ ec.toNat then .ok "???" else readAt errorNames ec.toNat

end Dmon
