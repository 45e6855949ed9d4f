/-
Module: Dmon.Model.LogDisplayer
Layer: Model
Purpose: The class `LogDisplayer` of ui/log_displayer.cpp: a list of topics of which one is selected, drawn by
  `RenderLines` and navigated by `OnEvent`. Of what is drawn only the rows and which of them has the focus
  are kept; widths, separators, colours and the header are left out. Whether the component itself has the
  focus is decided by the user-interface library and given with each event.
Imports: Dmon.Lib.TransitionSystem, Dmon.Model.Hexdump, Dmon.Model.Session
Trusted boundary: none
Main exports: LogDisplayer, Key, Row, Topic.selectedText, LogDisplayer.renderLines, LogDisplayer.onEvent,
  displayer
-/
import Dmon.Lib.TransitionSystem
import Dmon.Model.Hexdump
import Dmon.Model.Session

namespace Dmon

open Execution

/-- The events of the user-interface library that `OnEvent` tells apart. -/
inductive Key where
  | arrowUp
  | arrowDown
  | tab
  | tabReverse
  | pageUp
  | pageDown
  | character (c : Char)
  | other
deriving DecidableEq, Repr

/-- `class LogDisplayer`. -/
structure LogDisplayer where
  selected : Int := 0
  size : Int := 0
  seltext : String := ""
deriving DecidableEq, Repr

/-- A row as it is drawn. -/
structure Row where
  topic : Topic
  focused : Bool
deriving DecidableEq, Repr

/-- What `RenderLines` puts together in a `std::stringstream` for the row with the focus. -/
def Topic.selectedText (it : Topic) : Except Stuck String := do
  let ss : Ostream := {}
  let ss := (ss.insertString it.path).insertString ":\n"
  let ss ← (CustomHexdump.ofBuffer 32 true it.buffer).print ss
  return String.ofList ss.text

/-- `m_seltext` after a row of the loop of `RenderLines`. -/
def seltextAfter (isFocus : Bool) (it : Topic) (seltext : String) : Except Stuck String :=
  if isFocus then it.selectedText else .ok seltext

/-- The loop of `RenderLines` from `index` on, with the selected text so far. -/
def drawRows (selected : Int) : Int → String → List Topic → Except Stuck (String × List Row)
  | _, seltext, [] => .ok (seltext, [])
  | index, seltext, it :: rest => do
      let isFocus := decide (index = selected)
      let index ← checked (index + 1)
      let seltext ← seltextAfter isFocus it seltext
      let drawn ← drawRows selected index seltext rest
      return (drawn.1, { topic := it, focused := isFocus } :: drawn.2)

namespace LogDisplayer

/-- The selection after the test at the start of `RenderLines`, for a list of `count` topics. The members are
    converted to `size_t`. -/
def corrected (d : LogDisplayer) (count : Nat) : Int :=
  if toSize d.size ≠ count ∧ count < toSize d.selected then 0 else d.selected

/-- `LogDisplayer::RenderLines`. -/
def renderLines (d : LogDisplayer) (topics : List Topic) : Except Stuck (LogDisplayer × List Row) := do
  let selected := d.corrected topics.length
  let seltext := if topics.isEmpty then "" else d.seltext
  let drawn ← drawRows selected 0 seltext topics
  return ({ selected := selected, size := toInt topics.length, seltext := drawn.1 }, drawn.2)

/-- The key tests of `LogDisplayer::OnEvent`: where they leave `selected_`. -/
def moved (d : LogDisplayer) (event : Key) : Except Stuck Int := do
  let selected := d.selected
  let selected ←
    if event = .arrowUp ∨ event = .character 'k' then checked (selected - 1) else .ok selected
  let selected ←
    if event = .arrowDown ∨ event = .character 'j' then checked (selected + 1) else .ok selected
  let selected ←
    if event = .tab ∧ d.size ≠ 0 then do
      let sum ← checked (selected + 1)
      pure (sum.tmod d.size)
    else .ok selected
  let selected ←
    if event = .tabReverse ∧ d.size ≠ 0 then do
      let sum ← checked (selected + d.size)
      let sum ← checked (sum - 1)
      pure (sum.tmod d.size)
    else .ok selected
  let selected ← if event = .pageDown then checked (selected + 10) else .ok selected
  let selected ← if event = .pageUp then checked (selected - 10) else .ok selected
  return selected

/-- `LogDisplayer::OnEvent`, and what it returns. -/
def onEvent (d : LogDisplayer) (focused : Bool) (event : Key) : Except Stuck (LogDisplayer × Bool) :=
  if focused = false then .ok (d, false)
  else do
    let oldSelected := d.selected
    let selected ← d.moved event
    let last ← checked (d.size - 1)
    let selected := max 0 (min last selected)
    return ({ d with selected := selected }, decide (selected ≠ oldSelected))

/-- `LogDisplayer::clearSelected`. -/
def clearSelected (d : LogDisplayer) : LogDisplayer := { d with seltext := "" }

/-- What happens to a `LogDisplayer`. -/
inductive Event where
  | renderLines (topics : List Topic)
  | onEvent (focused : Bool) (event : Key)
  | clearSelected
deriving DecidableEq, Repr

/-- The display after the event. -/
def after (d : LogDisplayer) : Event → Except Stuck LogDisplayer
  | .renderLines topics => (d.renderLines topics).map Prod.fst
  | .onEvent focused event => (d.onEvent focused event).map Prod.fst
  | .clearSelected => .ok d.clearSelected

end LogDisplayer

/-- A `LogDisplayer` from its construction on. -/
def displayer : TransitionSystem LogDisplayer LogDisplayer.Event where
  init := {}
  step d e := (d.after e).toOption

end Dmon
