/-
Module: Dmon.Model.Shutdown
Layer: Model
Purpose: The end of `main`: the screen's loop returns, the local variables are destroyed in reverse order of
  their declaration, and the session's destructor frees the credentials, closes the session and frees it.
  Until `session_close` has returned the library may call any handler, so the steps of the program go on
  between those of the exit. The steps run on destroyed objects as if they were alive; which objects a step
  uses is stated beside it.
Imports: Dmon.Model.Threads
Trusted boundary: none
Main exports: Local, ExitStep, exitScript, Process, ProcessEvent, Process.step, shutdown, NetPc.uses
-/
import Dmon.Model.Threads

namespace Dmon

/-- The local variables of `main` with a destructor. -/
inductive Local where
  | session
  | e
  | screen
  | animator
  | component
deriving DecidableEq, Repr

/-- The locals in the order of their declaration. -/
def declared : List Local := [.session, .e, .screen, .animator, .component]

/-- A step of the exit. -/
inductive ExitStep where
  /-- `screen.Loop` returns. -/
  | loopReturns
  /-- The destructor of a local other than the session. -/
  | destroy (x : Local)
  /-- `credentials_free`, if the session has credentials. -/
  | credentialsFree
  /-- `session_close` returns. -/
  | sessionClose
  /-- `session_free`. -/
  | sessionFree
deriving DecidableEq, Repr

/-- What the end of a local's life does; the session is destroyed by `Session::~Session`. -/
def Local.destructor : Local → List ExitStep
  | .session => [.credentialsFree, .sessionClose, .sessionFree]
  | x => [.destroy x]

/-- The steps of the exit, in order. -/
def exitScript : List ExitStep :=
  .loopReturns :: declared.reverse.flatMap Local.destructor

/-- The program with what is left of its exit and with the credentials that were passed to
    `session_create`. `hasCredentials` says that `m_credentials` is not NULL. -/
structure Process extends World where
  pending : List ExitStep := exitScript
  hasCredentials : Bool
  credentialsFreed : Bool := false
deriving DecidableEq, Repr

/-- A step of the program or of its exit. -/
inductive ProcessEvent where
  | program (e : Event)
  | exit
deriving DecidableEq, Repr

/-- The thread that takes a step of the program. -/
def Event.thread : Event → Thread
  | .fetch _ | .subscribe _ | .unsubscribe _ | .runTask => .ui
  | .animate _ => .animator
  | .deliver .. | .advance => .network

/-- The exit step that ends the steps of a thread: the UI thread leaves the screen's loop, the animator's
    thread is joined by the animator's destructor, and the library calls no handler once `session_close`
    has returned. -/
def Thread.lastStep : Thread → ExitStep
  | .ui => .loopReturns
  | .animator => .destroy .animator
  | .network => .sessionClose

namespace Process

/-- The object has not been destroyed. -/
def Living (p : Process) (x : Local) : Prop := .destroy x ∈ p.pending

instance (p : Process) (x : Local) : Decidable (p.Living x) :=
  inferInstanceAs (Decidable (_ ∈ _))

/-- What an exit step does. `Animator::~Animator` tells its thread to stop; `Session::~Session` frees the
    credentials if there are any. -/
def leave (p : Process) : ExitStep → Process
  | .destroy .animator => { p with animator := p.animator.close }
  | .credentialsFree => { p with credentialsFreed := p.hasCredentials }
  | _ => p

/-- The step function of the process. -/
def step (p : Process) : ProcessEvent → Option Process
  | .program e =>
      if e.thread.lastStep ∈ p.pending then
        (p.toWorld.step e).map fun w => { p with toWorld := w }
      else none
  | .exit =>
      match p.pending with
      | [] => none
      | next :: rest => some { p.leave next with pending := rest }

end Process

/-- The process from the moment at which `main` enters the screen's loop. -/
def shutdown (hasCredentials : Bool) : TransitionSystem Process ProcessEvent where
  init := { hasCredentials := hasCredentials }
  step := Process.step

/-- The objects that the network thread uses in its next step: `animator.stop`, `screen.Post` and
    `screen.PostEvent`. The posted tasks refer to the component, but no handler uses it. -/
def NetPc.uses : NetPc → List Local
  | .stop _ => [.animator]
  | .post _ | .postEvent _ => [.screen]
  | .idle | .testSubscription | .captureFetch _ | .captureSubscribe _ => []

end Dmon
