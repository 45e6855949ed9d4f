/-
Module: Dmon.Model.Startup
Layer: Model
Purpose: The program from the construction of the session on: `main` connects, declares its other objects,
  sets the callbacks one by one, registers for notifications and enters the screen's loop. While it does so
  the library may already call handlers. The callbacks are tested before they are called, as the session
  tests them; an operation needs the UI thread, which is busy with `main` until it is in the loop. The test
  data that `Session::fetch` makes up without a connection are left out: the loop is entered only with one.
Imports: Dmon.Model.Shutdown
Trusted boundary: none
Main exports: Slot, Statement, startScript, Starting, Starting.step, startup, Handler.registration,
  KnownHandlers
-/
import Dmon.Model.Shutdown

namespace Dmon

/-- The callbacks of the session that `main` sets. -/
inductive Slot where
  | fetchCompleted
  | fetchError
  | fetchDiscard
  | fetchStart
  | subscribeCompleted
  | subscribeStart
  | subscribeError
deriving DecidableEq, Repr

/-- The statements of `main` between the construction of the session and the screen's loop. -/
inductive Statement where
  /-- `session.connect`; without a connection `main` returns. -/
  | connect
  | declare (x : Local)
  /-- `Session::setFetchCompletedCallback` and its siblings. -/
  | set (slot : Slot)
  | notify
deriving DecidableEq, Repr

/-- The statements in order. -/
def startScript : List Statement :=
  [.connect, .declare .screen, .declare .animator, .declare .component, .set .fetchCompleted,
    .set .fetchError, .set .fetchDiscard, .set .fetchStart, .set .subscribeCompleted, .set .subscribeStart,
    .set .subscribeError, .notify]

/-- The member of the session that is tested before the callback is called. -/
def Callback.slot : Callback → Slot
  | .fetchCompleted _ => .fetchCompleted
  | .fetchError _ => .fetchError
  | .fetchDiscard _ => .fetchDiscard
  | .subscribeCompleted _ => .subscribeCompleted
  | .subscribeError _ => .subscribeError

/-- The program with what is ahead of `main`, and with what it has set up. -/
structure Starting extends World where
  ahead : List Statement := startScript
  /-- `m_session` is not NULL. -/
  connected : Bool := false
  /-- The callbacks that are set. -/
  slots : List Slot := []
  /-- The notification handlers are registered with the library. -/
  notified : Bool := false
deriving DecidableEq, Repr

/-- A step of `main`, or one of the program. -/
inductive StartEvent where
  /-- `main` runs its next statement. `connects` says whether `session_create` returns a session. -/
  | main (connects : Bool)
  | program (e : Event)
deriving DecidableEq, Repr

namespace Starting

/-- The next statement of `main`. -/
def next (m : Starting) (connects : Bool) : Option Starting :=
  match m.ahead with
  | [] => none
  | .connect :: rest =>
      some { m with ahead := if connects then rest else [], connected := connects }
  | .declare _ :: rest => some { m with ahead := rest }
  | .set slot :: rest => some { m with ahead := rest, slots := m.slots ++ [slot] }
  | .notify :: rest => some { m with ahead := rest, notified := m.connected }

/-- `main` is in the screen's loop. -/
def looping (m : Starting) : Bool := m.connected && m.ahead.isEmpty

/-- Where a handler goes on when it gets to a callback that may not be set. -/
def calling (m : Starting) : NetPc → NetPc
  | .stop callback => if callback.slot ∈ m.slots then .stop callback else .idle
  | pc => pc

/-- `Session::fetch` of a connected session, and the spinner of an accepted search. -/
def fetch (m : Starting) (selector : String) : Starting :=
  if m.session.accepts then
    let s := m.beginFetch selector
    let s := if .fetchStart ∈ m.slots then s.start "fetch" else s
    let s := s.handOver .fetch selector
    { m with toShared := { s with component := s.component.resetSpinner } }
  else m

/-- `Session::subscribe` of a connected session, and the spinner of an accepted subscription. -/
def subscribe (m : Starting) (selector : String) : Starting :=
  if m.session.accepts then
    let s := m.beginSubscribe selector
    let s := if .subscribeStart ∈ m.slots then s.start "subscribe" else s
    let s := s.handOver .subscribe selector
    { m with toShared := { s with component := s.component.resetSubscribtionSpinner } }
  else m

/-- The thread of the step is there: the UI thread in the screen's loop, the library's with the session, the
    animator's with the animator. -/
def may (m : Starting) (e : Event) : Bool :=
  match e.thread with
  | .ui => m.looping
  | .network => m.connected
  | .animator => m.connected && .declare .animator ∉ m.ahead

/-- A step of the network thread, with the tests of the callbacks. -/
def handle (m : Starting) (e : Event) : Option Starting :=
  (m.toWorld.step e).map fun w => { m with toWorld := { w with net := m.calling w.net } }

/-- A step of the program, with the tests of the callbacks. -/
def act (m : Starting) : Event → Option Starting
  | .fetch selector => some (m.fetch selector)
  | .subscribe selector => some (m.subscribe selector)
  | .deliver h id => m.handle (.deliver h id)
  | .advance => m.handle .advance
  | e => (m.toWorld.step e).map fun w => { m with toWorld := w }

/-- The step function from the construction of the session on. -/
def step (m : Starting) : StartEvent → Option Starting
  | .main connects => m.next connects
  | .program e => if m.may e then m.act e else none

end Starting

/-- The program from the construction of the session on. -/
def startup : TransitionSystem Starting StartEvent where
  init := {}
  step := Starting.step

/-! ### Which handlers the library knows -/

/-- By what a handler gets known to the library. -/
inductive Registration where
  | connect
  | notify
  | request (kind : RequestKind)
deriving DecidableEq, Repr

/-- The place in the code that passes the handler to the library. -/
def Handler.registration : Handler → Registration
  | .onGlobalError _ | .onUnexpectedTopicMessage _ => .connect
  | .onNotifySubscription _ | .onNotifyUnsubscription _ => .notify
  | .onFetch | .onTopic _ | .onFetchError _ | .onFetchStatusMessage _ | .onFetchDiscard => .request .fetch
  | .onSubscribe | .onSubscribeTopicMessage _ | .onSubscribeError _ | .onSubscribeDiscard =>
      .request .subscribe
  | .onUnsubscribe | .onUnsubscribeError _ | .onUnsubscribeDiscard => .request .unsubscribe

/-- A request of the kind was handed to the library. -/
def Library.opened (lib : Library) (kind : RequestKind) : Bool :=
  lib.log.any fun
    | .opened c => c.kind == kind
    | .ended .. => false

/-- The library calls only handlers that were passed to it. -/
def KnownHandlers (m : Starting) : StartEvent → Prop
  | .program (.deliver h _) =>
      match h.registration with
      | .connect => m.connected = true
      | .notify => m.notified = true
      | .request kind => m.library.opened kind = true
  | _ => True

end Dmon
