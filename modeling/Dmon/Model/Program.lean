/-
Module: Dmon.Model.Program
Layer: Model
Purpose: The running program as main.cpp wires it, as a transition system whose atomic steps are the
  critical sections of `m_operationMutex`, the critical sections of the animator's mutex, the posts to the
  screen and the executions of posted tasks. One network thread runs the library's handlers one at a time;
  the UI thread calls the operations and runs the tasks; the animator thread posts events.
Imports: Dmon.Lib.TransitionSystem, Dmon.Model.Library
Trusted boundary: none
Main exports: Shared, World, Event, World.step, program, endsOnce, inConversation
-/
import Dmon.Lib.TransitionSystem
import Dmon.Model.Library

namespace Dmon

/-- The data that the threads share: the objects declared in `main`, the screen's task queue, and the
    library's ledger. -/
structure Shared where
  session : Session := {}
  animator : Animator := {}
  queue : List Task := []
  component : MainComponent := {}
  library : Library := {}
deriving DecidableEq, Repr

namespace Shared

/-- `animator.start(sig)`, called by main's start callbacks. -/
def start (s : Shared) (sig : String) : Shared :=
  { s with animator := s.animator.start sig }

/-- `animator.stop(sig)`. -/
def stop (s : Shared) (sig : String) : Shared :=
  { s with animator := s.animator.stop sig }

/-- `::fetch(m_session, params)` and its siblings. -/
def handOver (s : Shared) (kind : RequestKind) (selector : String) : Shared :=
  { s with library := s.library.handOver kind selector }

/-- `Session::fetch` in its critical section, up to the call of the start callback. -/
def beginFetch (s : Shared) (selector : String) : Shared :=
  { s with session := s.session.beginFetch selector }

/-- `Session::subscribe` in its critical section, up to the call of the start callback. -/
def beginSubscribe (s : Shared) (selector : String) : Shared :=
  { s with session := s.session.beginSubscribe selector }

/-- `Session::fetch` with main's start callback; the whole function is one critical section. -/
def fetch (s : Shared) (selector : String) : Bool × Shared :=
  if s.session.accepts then
    (true, ((s.beginFetch selector).start "fetch").handOver .fetch selector)
  else (false, s)

/-- `Session::subscribe` with main's start callback; the whole function is one critical section. -/
def subscribe (s : Shared) (selector : String) : Bool × Shared :=
  if s.session.accepts then
    (true, ((s.beginSubscribe selector).start "subscribe").handOver .subscribe selector)
  else (false, s)

/-- The action of the search button and of the selector input: `Session::fetch`, and on success the
    spinner starts afresh. -/
def search (s : Shared) (selector : String) : Bool × Shared :=
  let (accepted, s) := s.fetch selector
  (accepted, if accepted then { s with component := s.component.resetSpinner } else s)

/-- The action of the subscribe button and of its selector input. -/
def requestSubscription (s : Shared) (selector : String) : Bool × Shared :=
  let (accepted, s) := s.subscribe selector
  (accepted, if accepted then { s with component := s.component.resetSubscribtionSpinner } else s)

/-- `Session::unsubscribe`, which takes no lock. -/
def unsubscribe (s : Shared) (selector : String) : Bool × Shared :=
  (true, s.handOver .unsubscribe selector)

/-- `screen.Post` and `screen.PostEvent`: the queue is first in, first out. -/
def post (s : Shared) (task : Task) : Shared :=
  { s with queue := s.queue ++ [task] }

/-- The UI thread takes the first task of the queue. -/
def popTask (s : Shared) : Shared :=
  { s with queue := s.queue.tail }

/-- The UI thread runs a task that it took from the queue. -/
def runTask (s : Shared) (task : Task) : Shared :=
  { s with component := s.component.runTask task }

/-- The first atomic step of a handler call on the network thread. -/
def enter (s : Shared) (h : Handler) (id : Nat) : Except Fault (Shared × NetPc) :=
  (h.enter s.session).map fun entered =>
    ({ s with session := entered.session, library := s.library.record h id }, entered.next)

/-- One atomic step of the network thread inside a handler. -/
def advance (s : Shared) : NetPc → Shared × NetPc
  | .idle => (s, .idle)
  | .testSubscription =>
      (s, if s.session.subscribeInProgress then .idle else .stop (.subscribeCompleted ""))
  | .stop callback => (s.stop callback.signal, callback.afterStop)
  | .captureFetch selector =>
      let (topics, session) := s.session.getFetchTopics
      ({ s with session := session }, .post (.fetchCompleted "" topics selector))
  | .captureSubscribe selector =>
      let (topics, session) := s.session.getSubscribeTopics
      ({ s with session := session }, .post (.subscribeCompleted "" topics selector))
  | .post task => (s.post task, .postEvent task.signal)
  | .postEvent sig => (s.post (.event sig), .idle)

/-- The shared data when the handler that stands at a point has run to its end with nobody in between. -/
def finish (s : Shared) (pc : NetPc) : Shared :=
  ((fun p : Shared × NetPc => p.1.advance p.2)^[5] (s, pc)).1

end Shared

/-- The shared data and the point at which the network thread stands. -/
structure World extends Shared where
  net : NetPc := .idle
deriving DecidableEq, Repr

/-- One atomic step of the program. -/
inductive Event where
  /-- The UI thread starts a search, which calls `Session::fetch`. -/
  | fetch (selector : String)
  /-- The UI thread asks for a subscription, which calls `Session::subscribe`. -/
  | subscribe (selector : String)
  /-- The UI thread calls `Session::unsubscribe`. -/
  | unsubscribe (selector : String)
  /-- The UI thread runs the first task of the queue. -/
  | runTask
  /-- The animator thread posts the event of a signal. -/
  | animate (sig : String)
  /-- The library calls a handler, from the handler set of a conversation where the handler has one. -/
  | deliver (handler : Handler) (id : Nat)
  /-- The network thread goes on with the handler it is running. -/
  | advance
deriving DecidableEq, Repr

/-- The step function of the program. -/
def World.step (w : World) : Event → Option World
  | .fetch selector => some { w with toShared := (w.search selector).2 }
  | .subscribe selector => some { w with toShared := (w.requestSubscription selector).2 }
  | .unsubscribe selector => some { w with toShared := (w.unsubscribe selector).2 }
  | .runTask =>
      match w.queue with
      | [] => none
      | task :: _ => some { w with toShared := w.popTask.runTask task }
  | .animate sig =>
      if sig ∈ w.animator.signals then some { w with toShared := w.post (.event sig) } else none
  | .deliver h id =>
      if w.net = .idle then
        match w.enter h id with
        | .ok (shared, next) => some { toShared := shared, net := next }
        | .error _ => none
      else none
  | .advance =>
      if w.net = .idle then none
      else some { toShared := (w.toShared.advance w.net).1, net := (w.toShared.advance w.net).2 }

/-! ### Assumptions on the library -/

/-- A terminal handler is called for an outstanding conversation of its kind, which it ends: every request
    gets at most one terminal handler, and one of its own. -/
def endsOnce (w : World) : Event → Prop
  | .deliver h id => h.ending?.isSome → w.library.expects h id
  | _ => True

instance (w : World) : (e : Event) → Decidable (endsOnce w e)
  | .deliver h id => inferInstanceAs (Decidable (h.ending?.isSome → w.library.expects h id))
  | .fetch _ | .subscribe _ | .unsubscribe _ | .runTask | .animate _ | .advance =>
      inferInstanceAs (Decidable True)

/-- Besides, topic messages of a fetch are delivered only while its conversation is outstanding. -/
def inConversation (w : World) : Event → Prop
  | .deliver h id => h.ending?.isSome ∨ h.isFetchTopic → w.library.expects h id
  | _ => True

instance (w : World) : (e : Event) → Decidable (inConversation w e)
  | .deliver h id =>
      inferInstanceAs (Decidable (h.ending?.isSome ∨ h.isFetchTopic → w.library.expects h id))
  | .fetch _ | .subscribe _ | .unsubscribe _ | .runTask | .animate _ | .advance =>
      inferInstanceAs (Decidable True)

/-- The program from the moment at which `main` enters the screen's loop. -/
def program : TransitionSystem World Event where
  init := {}
  step := World.step

/-- The program with every handler run as one atomic step. -/
def atomicProgram : TransitionSystem World Event where
  init := {}
  step w e := (w.step e).map fun w' => { toShared := w'.finish w'.net, net := .idle }

end Dmon
