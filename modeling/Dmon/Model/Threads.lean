/-
Module: Dmon.Model.Threads
Layer: Model
Purpose: The three threads of the running program at the level of single lock, unlock, wait, notify and join
  instructions, with what they do to the shared data in between taken from Dmon.Model.Program. A label
  stands for a place in the code together with the local values there. The UI thread runs the session's
  operations and the posted tasks and at last destroys the animator; the network thread runs the handlers
  with main's callbacks; the animator's thread runs the loop of its constructor.
Imports: Dmon.Lib.Threads, Dmon.Model.Program
Trusted boundary: none
Main exports: Mutex, Thread, Operation, Label, Label.code, threads
-/
import Dmon.Lib.Threads
import Dmon.Model.Program

namespace Dmon

open Threads (Instr)

/-- The mutexes: `Session::m_operationMutex`, the animator's `m_m`, and the one of the screen's queue. -/
inductive Mutex where
  | operation
  | animator
  | queue
deriving DecidableEq, Repr

/-- The threads. -/
inductive Thread where
  | ui
  | network
  | animator
deriving DecidableEq, Repr

/-- The two operations of the session that take the operation mutex. -/
inductive Operation where
  | fetch
  | subscribe
deriving DecidableEq, Repr

namespace Operation

/-- The operation inside its critical section, up to the call of the start callback. -/
def begin : Operation → Shared → String → Shared
  | .fetch, s, selector => s.beginFetch selector
  | .subscribe, s, selector => s.beginSubscribe selector

/-- The signal that main's start callback starts. -/
def signal : Operation → String
  | .fetch => "fetch"
  | .subscribe => "subscribe"

/-- The request that the operation hands to the library. -/
def kind : Operation → RequestKind
  | .fetch => .fetch
  | .subscribe => .subscribe

/-- `isFetchInProgress` and `isSubscribtionInProgress`. -/
def inProgress : Operation → Session → Bool
  | .fetch, s => s.fetchInProgress
  | .subscribe, s => s.subscribeInProgress

/-- What the component does when the operation has been accepted. -/
def restartSpinner : Operation → Shared → Shared
  | .fetch, s => { s with component := s.component.resetSpinner }
  | .subscribe, s => { s with component := s.component.resetSubscribtionSpinner }

end Operation

/-- The handler takes the operation mutex: it passes its NULL test and calls a method of the session that
    locks. -/
def Handler.locks : Handler → Bool
  | .onFetch | .onFetchDiscard | .onSubscribe => true
  | .onTopic message | .onSubscribeTopicMessage message => message.isSome
  | .onFetchError error | .onSubscribeError error | .onUnsubscribeError error => error.isSome
  | _ => false

/-- The mutex of the critical section at which the network thread stands. -/
def NetPc.mutex : NetPc → Mutex
  | .idle | .testSubscription | .captureFetch _ | .captureSubscribe _ => .operation
  | .stop _ => .animator
  | .post _ | .postEvent _ => .queue

/-- The critical section is that of `Animator::stop`, which notifies after it. -/
def NetPc.notifies : NetPc → Bool
  | .stop _ => true
  | _ => false

/-- The places in the code of the three threads. -/
inductive Label where
  /-- The UI thread between two operations. -/
  | ui
  /-- `Session::fetch` or `Session::subscribe`, before its lock. -/
  | request (op : Operation) (selector : String)
  | gate (op : Operation) (selector : String)
  /-- In the start callback, before the lock of `Animator::start`. -/
  | start (op : Operation) (selector : String)
  | startPush (op : Operation) (selector : String)
  | startUnlock (op : Operation) (selector : String)
  | startNotify (op : Operation) (selector : String)
  | handOver (op : Operation) (selector : String)
  | requestUnlock (op : Operation) (accepted : Bool)
  | requestDone (op : Operation) (accepted : Bool)
  /-- `isFetchInProgress` or `isSubscribtionInProgress`, before its lock. -/
  | query (op : Operation)
  | queryRead (op : Operation)
  | queryUnlock (answer : Bool)
  /-- The screen's loop, before it takes a task from the queue. -/
  | pop
  | popFirst
  | popUnlock (task : Option Task)
  | runTask (task : Option Task)
  /-- `Animator::~Animator`, before its lock. -/
  | close
  | closeSet
  | closeUnlock
  | closeNotify
  | closeJoin
  | uiDone
  /-- The network thread between two critical sections. -/
  | net (pc : NetPc)
  | enter (handler : Handler) (id : Nat)
  | enterBody (handler : Handler) (id : Nat)
  | enterUnlock (next : NetPc)
  | netBody (pc : NetPc)
  | netUnlock (pc next : NetPc)
  | netNotify (next : NetPc)
  /-- The animator's loop, before its lock. -/
  | loop
  | loopTest
  | loopWait
  | loopStop
  /-- Inside `for_each`, with the signals still to be posted. -/
  | loopPost (signals : List String)
  | loopPostBody (sig : String) (rest : List String)
  | loopPostUnlock (rest : List String)
  | loopSleep
  | loopBreak
  | loopDone
deriving DecidableEq, Repr

/-- The places to which the UI thread may go from its loop. -/
def Label.IsUiEntry : Label → Prop
  | .request _ _ | .query _ | .pop | .close => True
  | _ => False

/-- The network thread picks a handler. One that takes no lock is over, or gets to its first critical
    section, in one step. -/
def startsHandler (s : Shared) (next : Label) (s' : Shared) : Prop :=
  ∃ (h : Handler) (id : Nat),
    if h.locks then next = .enter h id ∧ s' = s
    else ∃ pc, s.enter h id = .ok (s', pc) ∧ next = .net pc

/-- The instruction at a place. -/
def Label.code : Label → Instr Mutex Thread Label Shared
  | .ui => .act fun s next s' => next.IsUiEntry ∧ s' = s
  | .request op selector => .lock .operation (.gate op selector)
  | .gate op selector => .run fun s =>
      if s.session.accepts then (.start op selector, op.begin s selector)
      else (.requestUnlock op false, s)
  | .start op selector => .lock .animator (.startPush op selector)
  | .startPush op selector => .run fun s => (.startUnlock op selector, s.start op.signal)
  | .startUnlock op selector => .unlock .animator (.startNotify op selector)
  | .startNotify op selector => .notify (.handOver op selector)
  | .handOver op selector => .run fun s => (.requestUnlock op true, s.handOver op.kind selector)
  | .requestUnlock op accepted => .unlock .operation (.requestDone op accepted)
  | .requestDone op accepted => .run fun s => (.ui, if accepted then op.restartSpinner s else s)
  | .query op => .lock .operation (.queryRead op)
  | .queryRead op => .run fun s => (.queryUnlock (op.inProgress s.session), s)
  | .queryUnlock _ => .unlock .operation .ui
  | .pop => .lock .queue .popFirst
  | .popFirst => .run fun s => (.popUnlock s.queue.head?, s.popTask)
  | .popUnlock task => .unlock .queue (.runTask task)
  | .runTask task => .run fun s => (.ui, task.elim s s.runTask)
  | .close => .lock .animator .closeSet
  | .closeSet => .run fun s => (.closeUnlock, { s with animator := s.animator.close })
  | .closeUnlock => .unlock .animator .closeNotify
  | .closeNotify => .notify .closeJoin
  | .closeJoin => .join .animator .uiDone
  | .uiDone => .halt
  | .net .idle => .act startsHandler
  | .net pc => .lock pc.mutex (.netBody pc)
  | .enter h id => .lock .operation (.enterBody h id)
  | .enterBody h id => .act fun s next s' =>
      ∃ pc, s.enter h id = .ok (s', pc) ∧ next = .enterUnlock pc
  | .enterUnlock next => .unlock .operation (.net next)
  | .netBody pc => .run fun s => (.netUnlock pc (s.advance pc).2, (s.advance pc).1)
  | .netUnlock pc next => .unlock pc.mutex (if pc.notifies then .netNotify next else .net next)
  | .netNotify next => .notify (.net next)
  | .loop => .lock .animator .loopTest
  | .loopTest => .run fun s => (if s.animator.awake then .loopStop else .loopWait, s)
  | .loopWait => .wait .animator .loopTest
  | .loopStop => .run fun s =>
      (if s.animator.stopped then .loopBreak else .loopPost s.animator.signals, s)
  | .loopPost [] => .unlock .animator .loopSleep
  | .loopPost (sig :: rest) => .lock .queue (.loopPostBody sig rest)
  | .loopPostBody sig rest => .run fun s => (.loopPostUnlock rest, s.post (.event sig))
  | .loopPostUnlock rest => .unlock .queue (.loopPost rest)
  | .loopSleep => .run fun s => (.loop, s)
  | .loopBreak => .unlock .animator .loopDone
  | .loopDone => .halt

/-- The three threads, from the moment at which `main` enters the screen's loop. -/
def threads : Threads.Program Mutex Thread Label Shared where
  code := Label.code
  start
    | .ui => .ui
    | .network => .net .idle
    | .animator => .loop
  data := {}

end Dmon
