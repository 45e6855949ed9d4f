/-
Module: Dmon.Proofs.Settling
Layer: Proofs
Purpose: What `Render` shows when it is called again. The content boxes and the header of a `Render` are read
  before its list is drawn, so they are those of the drawing before; the second of two calls has caught up.
  Drawing a list once more changes nothing about the list, and from the second call on `Render` changes
  nothing about the window.
Imports: Dmon.Proofs.Content
Trusted boundary: none
Main exports: drawRows_again, LogDisplayer.renderLines_again, Window.render_again, render_settles
-/
import Dmon.Proofs.Content

namespace Dmon

open Execution

theorem isInt_of_checked {x y : Int} (returns : checked x = .ok y) : IsInt x := by
  unfold checked at returns
  split at returns
  next fits => exact fits
  next => cases returns

/-- The loop that returns has counted the rows with an `int`. -/
theorem drawRows_count {selected index : Int} {text : String} {topics : List Topic}
    {drawn : String × List Row} (fits : IsInt index)
    (returns : drawRows selected index text topics = .ok drawn) : IsInt (index + topics.length) := by
  induction topics generalizing index text drawn with
  | nil => simpa using fits
  | cons it rest ih =>
      obtain ⟨next, sum, returns⟩ := exists_of_bind returns
      have small := isInt_of_checked sum
      obtain rfl := eq_of_checked sum
      obtain ⟨_, _, returns⟩ := exists_of_bind returns
      obtain ⟨_, below, _⟩ := exists_of_bind returns
      have later := ih small below
      rwa [List.length_cons, Nat.cast_succ, add_comm (rest.length : Int) 1, ← add_assoc]

/-- What the loop leaves and draws when it starts with another text: only a loop that reaches no selected
    row notices. -/
theorem drawRows_text {selected index : Int} {text : String} (text' : String) {topics : List Topic}
    {drawn : String × List Row} (returns : drawRows selected index text topics = .ok drawn) :
    drawRows selected index text' topics =
      .ok (if (topicAt topics (selected - index)).isSome then drawn.1 else text', drawn.2) := by
  induction topics generalizing index text text' drawn with
  | nil =>
      obtain rfl := Except.ok.inj returns
      have none : topicAt [] (selected - index) = none := by simp [topicAt]
      rw [none]
      rfl
  | cons it rest ih =>
      obtain ⟨next, sum, returns⟩ := exists_of_bind returns
      have same := eq_of_checked sum
      obtain ⟨here, own, returns⟩ := exists_of_bind returns
      obtain ⟨later, below, last⟩ := exists_of_bind returns
      obtain rfl := Except.ok.inj last
      by_cases focus : index = selected
      · have found : topicAt (it :: rest) (selected - index) = some it := by
          rw [topicAt_cons, if_pos (by omega)]
        have own' : seltextAfter (decide (index = selected)) it text' = .ok here := by
          simpa [seltextAfter, focus] using own
        rw [found, drawRows, sum, ok_bind, own', ok_bind, below]
        rfl
      · have found : topicAt (it :: rest) (selected - index) = topicAt rest (selected - next) := by
          rw [topicAt_cons, if_neg (by omega), same, ← Int.sub_sub]
        have passed : seltextAfter (decide (index = selected)) it text' = .ok text' := by
          simp [seltextAfter, focus]
        rw [found, drawRows, sum, ok_bind, passed, ok_bind, ih text' below]
        rfl

/-- The loop run again on the text that it has left changes nothing. -/
theorem drawRows_again {selected index : Int} {text : String} {topics : List Topic}
    {drawn : String × List Row} (returns : drawRows selected index text topics = .ok drawn) :
    drawRows selected index drawn.1 topics = .ok drawn := by
  rw [drawRows_text drawn.1 returns, ite_self]

/-- A list that was drawn stays as it is when it is drawn again. -/
theorem LogDisplayer.renderLines_again {d d' : LogDisplayer} {topics : List Topic} {rows : List Row}
    (returns : d.renderLines topics = .ok (d', rows)) : d'.renderLines topics = .ok (d', rows) := by
  obtain ⟨drawn, loop, last⟩ := exists_of_bind returns
  obtain ⟨rfl, rfl⟩ := Prod.mk.inj (Except.ok.inj last)
  have small : IsInt topics.length := by simpa using drawRows_count (by decide) loop
  have size : toInt topics.length = topics.length := toInt_of_isInt small
  have count : toSize (toInt topics.length) = topics.length := by
    rw [size]
    have exact := toSize_of_nonneg (x := topics.length) (by omega) (by have := small.2; omega)
    omega
  have kept : corrected ⟨d.corrected topics.length, toInt topics.length, drawn.1⟩ topics.length =
      d.corrected topics.length := by
    rw [corrected, if_neg (by simp [count])]
  have start : (if topics.isEmpty then "" else drawn.1) = drawn.1 := by
    cases topics with
    | nil => rw [← Except.ok.inj loop]; rfl
    | cons => rfl
  rw [renderLines, kept, start, drawRows_again loop]
  rfl

namespace Window

/-- The tab that is drawn is the one in the header. -/
theorem headerPane_of_drawnPane? {w : Window} {pane : Pane} (drawn : w.drawnPane? = some pane) :
    w.headerPane = pane := by
  unfold drawnPane? at drawn
  unfold headerPane
  split at drawn
  next first =>
    obtain rfl := Option.some.inj drawn
    rw [if_pos (by omega)]
  next =>
    split at drawn
    next second =>
      obtain rfl := Option.some.inj drawn
      rw [if_neg (by omega)]
    next => cases drawn

/-- The number of lines that the gauge counts. -/
def linesCount (w : Window) : Nat :=
  if min w.tabSelected 1 = 0 then w.topics.length else w.subscribeTopics.length

/-- A `Render` of one of the two tabs whose list can be drawn. -/
theorem render_eq {w : Window} {pane : Pane} {count : Int} {d : LogDisplayer} {rows : List Row}
    (counted : checked (toInt w.linesCount - 1) = .ok count) (drawn : w.drawnPane? = some pane)
    (list : (w.displayer pane).renderLines (w.topicsOf pane) = .ok (d, rows)) :
    w.render = .ok (w.takeSelected.setDisplayer d pane, rows) := by
  have counted' : checked (toInt w.takeSelected.linesCount - 1) = .ok count := counted
  have drawn' : w.takeSelected.drawnPane? = some pane := drawn
  rw [← displayer_takeSelected, ← topicsOf_takeSelected] at list
  unfold linesCount at counted'
  simp only [render, counted', ok_bind, drawn', list]
  rfl

/-- A `Render` that follows another one draws the same rows, and the content boxes take the texts that the
    first one has left in the lists. -/
theorem render_again {w w' : Window} {rows : List Row} (returns : w.render = .ok (w', rows)) :
    w'.render = .ok (w'.takeSelected, rows) := by
  cases drawn : w.drawnPane? with
  | none =>
      obtain rfl := render_other returns drawn
      exact returns
  | some pane =>
      obtain ⟨count, counted, _⟩ := exists_of_bind returns
      obtain ⟨d, list, rfl⟩ := render_spec returns drawn
      have own : (w.takeSelected.setDisplayer d pane).displayer pane = d := by simp
      have topics : (w.takeSelected.setDisplayer d pane).topicsOf pane = w.topicsOf pane := by
        cases pane <;> rfl
      have lines : (w.takeSelected.setDisplayer d pane).linesCount = w.takeSelected.linesCount := by
        cases pane <;> rfl
      have still : (w.takeSelected.setDisplayer d pane).drawnPane? = some pane := by
        cases pane <;> exact drawn
      have again := LogDisplayer.renderLines_again list
      rw [← own, ← topics] at again
      rw [render_eq (by rw [lines]; exact counted) still again]
      cases pane <;> rfl

theorem run_concat {es : List Event} {e : Event} {w w' : Window} (run : mainWindow.Run Returns es w)
    (after : w.after e = .ok w') : mainWindow.Run Returns (es ++ [e]) w' :=
  run.snoc ⟨w', after⟩ (toOption_eq_some.2 after)

end Window

/-- Two calls of `Render` settle the window. After any run that ends with a `Render`, the next one draws the
    same rows, and all later ones change nothing any more. Its header shows the selection and the length of
    the list that it draws; if there is a row at the selection it is the one highlighted, and its text is in
    the content box. -/
theorem render_settles {es : List Window.Event} {w : Window}
    (run : mainWindow.Run Returns (es ++ [.render]) w) :
    ∃ rows, (∃ v, mainWindow.Run Returns es v ∧ v.render = .ok (w, rows)) ∧
      w.render = .ok (w.takeSelected, rows) ∧
      (∀ n, mainWindow.Run Returns (es ++ .render :: .render :: List.replicate n .render)
        w.takeSelected) ∧
      ∀ pane, w.drawnPane? = some pane →
        w.header = ((w.displayer pane).selected, (w.topicsOf pane).length) ∧
        rows.map Row.topic = w.topicsOf pane ∧
        rows.filter Row.focused =
          (topicAt (w.topicsOf pane) w.header.1).toList.map (fun it => { topic := it, focused := true }) ∧
        ∀ it ∈ topicAt (w.topicsOf pane) w.header.1,
          it.selectedText = .ok (w.takeSelected.payload pane) := by
  obtain ⟨v, before, _, step⟩ := run.snoc_inv
  obtain ⟨rows, rendered⟩ := Window.exists_of_after_render (Window.after_of_step step)
  have again := Window.render_again rendered
  have settled := Window.render_again again
  have second : mainWindow.Run Returns (es ++ [.render] ++ [.render]) w.takeSelected := by
    have after : w.after .render = .ok w.takeSelected := by rw [Window.after, again]; rfl
    exact Window.run_concat run after
  refine ⟨rows, ⟨v, before, rendered⟩, again, ?_, ?_⟩
  · intro n
    induction n with
    | zero => simpa using second
    | succ n ih =>
        have after : w.takeSelected.after .render = .ok w.takeSelected := by
          rw [Window.after, settled]
          rfl
        have longer := Window.run_concat ih after
        rwa [List.append_assoc, List.cons_append, List.cons_append, ← List.replicate_succ'] at longer
  · intro pane drawn
    obtain ⟨d, list, same⟩ := Window.render_spec again drawn
    -- The list that the second call draws has been drawn by the first.
    obtain rfl : w.displayer pane = d := by
      simpa using congrArg (fun w : Window => w.displayer pane) same
    obtain ⟨selected, _, topics, focused, text⟩ := LogDisplayer.renderLines_spec list
    rw [← selected] at focused text
    have header : w.header = ((w.displayer pane).selected, (w.topicsOf pane).length) := by
      rw [Window.header, Window.headerPane_of_drawnPane? drawn]
    rw [header]
    refine ⟨rfl, topics, focused, ?_⟩
    intro it found
    rw [Option.mem_def.1 found] at text
    rw [Window.payload_takeSelected]
    exact text

/-- The content box that is late at the first drawing of a list is right from the second one on. -/
theorem listArrives_settles :
    ∃ w rows, mainWindow.Run Returns (listArrives ++ [.render]) w ∧
      w.render = .ok (w.takeSelected, rows) ∧
      (∀ n, mainWindow.Run Returns (listArrives ++ .render :: .render :: List.replicate n .render)
        w.takeSelected) ∧
      w.header = (0, 1) ∧ rows.filter Row.focused = [{ topic := letterTopic "a", focused := true }] ∧
      (letterTopic "a").selectedText = .ok (w.takeSelected.payload .search) := by
  obtain ⟨w, run, facts⟩ : ∃ w, mainWindow.Run Returns (listArrives ++ [.render]) w ∧
      decide (w.currentPayload = "" ∧ w.drawnPane? = some .search ∧ w.header = (0, 1) ∧
        w.topicsOf .search = [letterTopic "a"]) = true :=
    TransitionSystem.Run.exists_of_exec (by decide)
  obtain ⟨-, drawn, header, list⟩ := of_decide_eq_true facts
  obtain ⟨rows, -, again, settled, shows⟩ := render_settles run
  obtain ⟨-, -, focused, text⟩ := shows .search drawn
  have row : topicAt (w.topicsOf .search) w.header.1 = some (letterTopic "a") := by
    rw [header, list]
    rfl
  rw [row] at focused text
  exact ⟨w, rows, run, again, settled, header, focused, text _ rfl⟩

end Dmon
