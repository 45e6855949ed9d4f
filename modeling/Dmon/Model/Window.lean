/-
Module: Dmon.Model.Window
Layer: Model
Purpose: The view of ui/main_component: the two tabs with their lists and content boxes, `Render`, and the
  action that writes the dump file. Of the elements that `Render` builds only the rows of the list are
  kept. The first two entries of the tab selector are the search and the subscription tab; which component
  a key event reaches is decided by the user-interface library.
Imports: Dmon.Model.Interface, Dmon.Model.LogDisplayer
Trusted boundary: none
Main exports: Pane, Window, Window.render, Window.header, Window.after, mainWindow, printTopic,
  MainComponent.dump
-/
import Dmon.Model.Interface
import Dmon.Model.LogDisplayer

namespace Dmon

open Execution

/-! ### The dump file -/

/-- The lambda `print` of the dump action. -/
def printTopic (fs : Ostream) (it : Topic) : Except Stuck Ostream :=
  let fs := (((fs.insertString it.topicType).insertString ":").insertString it.path).insertString ":\n"
  (CustomHexdump.ofBuffer 64 true it.buffer).print fs

/-- What the action of `m_btn_dump_exit` writes, when `./dump.txt` can be opened. -/
def MainComponent.dump (c : MainComponent) : Except Stuck Ostream := do
  let fs : Ostream := {}
  let fs := fs.insertString "Fetched topics:\n"
  let fs ← c.topics.foldlM printTopic fs
  let fs := fs.insertString "Subscribed topics:\n"
  c.subscribeTopics.foldlM printTopic fs

/-! ### The tabs -/

/-- The tabs with a list of topics. -/
inductive Pane where
  | search
  | subscription
deriving DecidableEq, Repr

/-- The value of `tab_selected_` at which the tab is shown. -/
def Pane.tab : Pane → Int
  | .search => 0
  | .subscription => 1

/-- `MainComponent` with the members of its view. -/
structure Window extends MainComponent where
  tabSelected : Int := 0
  logDisplayer1 : LogDisplayer := {}
  logDisplayer2 : LogDisplayer := {}
  currentPayload : String := ""
  subscribePayload : String := ""
deriving DecidableEq, Repr

namespace Window

/-- The list of the tab. -/
def topicsOf (w : Window) : Pane → List Topic
  | .search => w.topics
  | .subscription => w.subscribeTopics

/-- The list component of the tab. -/
def displayer (w : Window) : Pane → LogDisplayer
  | .search => w.logDisplayer1
  | .subscription => w.logDisplayer2

/-- The text of the tab's content box. -/
def payload (w : Window) : Pane → String
  | .search => w.currentPayload
  | .subscription => w.subscribePayload

/-- The window with another state of the tab's list component. -/
def setDisplayer (w : Window) (d : LogDisplayer) : Pane → Window
  | .search => { w with logDisplayer1 := d }
  | .subscription => { w with logDisplayer2 := d }

/-- The window with another text in the tab's content box. -/
def setPayload (w : Window) (text : String) : Pane → Window
  | .search => { w with currentPayload := text }
  | .subscription => { w with subscribePayload := text }

/-- The start of `Render`: the content boxes take the selected texts. -/
def takeSelected (w : Window) : Window :=
  { w with
    currentPayload := w.logDisplayer1.seltext
    subscribePayload := w.logDisplayer2.seltext }

/-- The tab whose list `Render` draws. -/
def drawnPane? (w : Window) : Option Pane :=
  if w.tabSelected = 0 then some .search
  else if w.tabSelected = 1 then some .subscription
  else none

/-- `MainComponent::Render`, and the rows it draws. The gauge in the header takes one from the number of
    lines. -/
def render (w : Window) : Except Stuck (Window × List Row) := do
  let w := w.takeSelected
  let linesCount := if min w.tabSelected 1 = 0 then w.topics.length else w.subscribeTopics.length
  let _ ← checked (toInt linesCount - 1)
  match w.drawnPane? with
  | some pane => do
      let drawn ← (w.displayer pane).renderLines (w.topicsOf pane)
      return (w.setDisplayer drawn.1 pane, drawn.2)
  | none => return (w, [])

/-- The tab whose selection and number of lines the header of `Render` shows. -/
def headerPane (w : Window) : Pane := if min w.tabSelected 1 = 0 then .search else .subscription

/-- What the header of `Render` shows, read before the list is drawn: `current_line` and `lines_count`. -/
def header (w : Window) : Int × Nat :=
  ((w.displayer w.headerPane).selected, (w.topicsOf w.headerPane).length)

/-- What happens to the window. -/
inductive Event where
  /-- A key event reaches the tab's list component. -/
  | key (pane : Pane) (focused : Bool) (event : Key)
  /-- The tab selector. -/
  | toggle (entry : Int)
  /-- `Session::fetch` has accepted a request. -/
  | fetchAccepted
  /-- `Session::subscribe` has accepted a request. -/
  | subscribeAccepted
  | task (task : Task)
  /-- The user edits a content box. -/
  | edit (pane : Pane) (text : String)
  | render
deriving DecidableEq, Repr

/-- The window after the event. -/
def after (w : Window) : Event → Except Stuck Window
  | .key pane focused event => do
      let answered ← (w.displayer pane).onEvent focused event
      return w.setDisplayer answered.1 pane
  | .toggle entry => .ok { w with tabSelected := entry }
  | .fetchAccepted =>
      .ok { w with
        toMainComponent := w.toMainComponent.resetSpinner
        logDisplayer1 := w.logDisplayer1.clearSelected }
  | .subscribeAccepted =>
      .ok { w with
        toMainComponent := w.toMainComponent.resetSubscribtionSpinner
        logDisplayer2 := w.logDisplayer2.clearSelected }
  | .task task => .ok { w with toMainComponent := w.toMainComponent.runTask task }
  | .edit pane text => .ok (w.setPayload text pane)
  | .render => w.render.map Prod.fst

end Window

/-- The window from its construction on. -/
def mainWindow : TransitionSystem Window Window.Event where
  init := {}
  step w e := (w.after e).toOption

end Dmon
