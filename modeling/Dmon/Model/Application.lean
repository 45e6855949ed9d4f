/-
Module: Dmon.Model.Application
Layer: Model
Purpose: The application that the user runs: the objects that `main` declares, with all the members of
  `MainComponent` that its actions read or write, and the actions of its inputs and buttons beside the steps
  of the network thread and of the animator. `Session::fetch` and `Session::subscribe` are reached through
  the two selector inputs only. Which input or button an event reaches is decided by the user-interface
  library, as is when the loop ends after `m_screen_exit_` was called.
Imports: Dmon.Model.Program, Dmon.Model.Window
Trusted boundary: none
Main exports: Application, Application.Action, Application.step, application, StatusReport,
  World.errorReport, World.subscribeErrorReport
-/
import Dmon.Model.Program
import Dmon.Model.Window

namespace Dmon

/-- The objects of `main`, the library's ledger and the network thread, the clipboard, and the dump file.
    The window and the two selectors are the members of `MainComponent`. -/
structure Application where
  session : Session := {}
  animator : Animator := {}
  queue : List Task := []
  window : Window := {}
  searchSelector : String := ""
  subscribeSelector : String := ""
  library : Library := {}
  net : NetPc := .idle
  /-- The text that was last put on the clipboard. -/
  clipboard : Option String := none
  /-- The text of `./dump.txt`, once it has been written. -/
  dumpFile : Option String := none
  /-- `m_screen_exit_` was called. -/
  exiting : Bool := false
deriving DecidableEq, Repr

namespace Application

/-- The data that the threads share, without what only the view uses. -/
def world (a : Application) : World where
  session := a.session
  animator := a.animator
  queue := a.queue
  component := a.window.toMainComponent
  library := a.library
  net := a.net

/-- The application with other shared data. -/
def setWorld (a : Application) (w : World) : Application :=
  { a with
    session := w.session
    animator := w.animator
    queue := w.queue
    window := { a.window with toMainComponent := w.component }
    library := w.library
    net := w.net }

/-- `on_enter` of `container_search_selector_`, and the action of `m_btn_search_`. -/
def search (a : Application) : Application :=
  if a.searchSelector.isEmpty then a
  else
    let (accepted, s) := a.world.fetch a.searchSelector
    let a := a.setWorld { s with net := a.net }
    if accepted then
      { a with
        window := { a.window with
          toMainComponent := a.window.resetSpinner
          logDisplayer1 := a.window.logDisplayer1.clearSelected } }
    else a

/-- `on_enter` of `m_subscribe_selector_`, and the action of `m_btn_subscribe_`. -/
def requestSubscription (a : Application) : Application :=
  if a.subscribeSelector.isEmpty then a
  else
    let (accepted, s) := a.world.subscribe a.subscribeSelector
    let a := a.setWorld { s with net := a.net }
    if accepted then
      { a with
        window := { a.window with
          toMainComponent := a.window.resetSubscribtionSpinner
          logDisplayer2 := a.window.logDisplayer2.clearSelected } }
    else a

/-- The action of `m_btn_copy_`; `clip::set_text` says whether it has worked. -/
def copy (a : Application) (works : Bool) : Application :=
  if works then { a with clipboard := some a.window.currentPayload } else a

/-- The action of `m_btn_dump_exit`, which writes only if the file could be opened. -/
def dumpAndExit (a : Application) (opens : Bool) : Except Execution.Stuck Application := do
  let a ←
    if opens then do
      let fs ← a.window.dump
      pure { a with dumpFile := some (String.ofList fs.text) }
    else pure a
  return { a with exiting := true }

/-- What the user, the network thread and the animator do. -/
inductive Action where
  /-- The user edits the input `container_search_selector_`. -/
  | typeSearch (text : String)
  /-- The user edits the input `m_subscribe_selector_`. -/
  | typeSubscribe (text : String)
  | search
  | subscribe
  /-- The action of `m_btn_clear_`. -/
  | clear
  | copy (works : Bool)
  | dumpAndExit (opens : Bool)
  /-- The action of `m_btn_exit_`. -/
  | exit
  /-- A key event reaches the tab's list component. -/
  | key (pane : Pane) (focused : Bool) (event : Key)
  /-- The tab selector. -/
  | toggle (entry : Int)
  /-- The user edits a content box. -/
  | edit (pane : Pane) (text : String)
  | render
  /-- The UI thread runs the first task of the queue. -/
  | runTask
  /-- The animator thread posts the event of a signal. -/
  | animate (sig : String)
  /-- The library calls a handler. -/
  | deliver (handler : Handler) (id : Nat)
  /-- The network thread goes on with the handler it is running. -/
  | advance
deriving DecidableEq, Repr

/-- What an action does to the window alone. -/
def view (a : Application) (e : Window.Event) : Option Application :=
  (a.window.after e).toOption.map fun window => { a with window := window }

/-- What an action does to the shared data alone. -/
def act (a : Application) (e : Event) : Option Application :=
  (a.world.step e).map a.setWorld

/-- The step function of the application. -/
def step (a : Application) : Action → Option Application
  | .typeSearch text => some { a with searchSelector := text }
  | .typeSubscribe text => some { a with subscribeSelector := text }
  | .search => some a.search
  | .subscribe => some a.requestSubscription
  | .clear => some { a with searchSelector := "" }
  | .copy works => some (a.copy works)
  | .dumpAndExit opens => (a.dumpAndExit opens).toOption
  | .exit => some { a with exiting := true }
  | .key pane focused event => a.view (.key pane focused event)
  | .toggle entry => a.view (.toggle entry)
  | .edit pane text => a.view (.edit pane text)
  | .render => a.view .render
  | .runTask => a.act .runTask
  | .animate sig => a.act (.animate sig)
  | .deliver h id => a.act (.deliver h id)
  | .advance => a.act .advance

end Application

/-- The application from the moment at which `main` enters the screen's loop. -/
def application : TransitionSystem Application Application.Action where
  init := {}
  step := Application.step

/-! ### The status windows -/

/-- The colours of a status text. -/
inductive StatusColor where
  | yellow
  | red
deriving DecidableEq, Repr

/-- What `m_error_report` and `m_subsribe_error_report` draw: a text in a colour, and a spinner. -/
structure StatusReport where
  text : String
  color : StatusColor
  spinner : Nat
deriving DecidableEq, Repr

/-- A status window for a flag, a message and a spinner; `Maybe` hides it when there is nothing to
    report. -/
def statusReport (inProgress : Bool) (message : String) (spinner : Nat) : Option StatusReport :=
  if inProgress || !message.isEmpty then
    some {
      text := if inProgress then "In progress" else message
      color := if message.isEmpty then .yellow else .red
      spinner := spinner }
  else none

@[simp] theorem statusReport_true (message : String) (spinner : Nat) :
    statusReport true message spinner =
      some {
        text := "In progress"
        color := if message.isEmpty then .yellow else .red
        spinner := spinner } :=
  rfl

theorem statusReport_false (message : String) (spinner : Nat) :
    statusReport false message spinner =
      if message = "" then none else some { text := message, color := .red, spinner := spinner } := by
  by_cases empty : message = "" <;> simp [statusReport, empty]

/-- `m_error_report`, drawn while nobody else takes a step. -/
def World.errorReport (w : World) : Option StatusReport :=
  statusReport w.session.fetchInProgress w.component.fetchErrorMessage w.component.spinnerIndx

/-- `m_subsribe_error_report`, likewise. -/
def World.subscribeErrorReport (w : World) : Option StatusReport :=
  statusReport w.session.subscribeInProgress w.component.subscribeErrorMessage
    w.component.subscribtionSpinnerIndx

end Dmon
