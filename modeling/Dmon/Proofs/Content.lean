/-
Module: Dmon.Proofs.Content
Layer: Proofs
Purpose: Whether the content box shows the highlighted topic. `Render` fills the content boxes from the texts
  that the lists hold before it draws them, so what a box shows is the row that was highlighted when its tab
  was last drawn, unless an accepted request has cleared it since. That row is noted in a history variable,
  and the box is right exactly when the row about to be highlighted reads like it.
Imports: Dmon.Proofs.Highlight, Dmon.Model.Window
Trusted boundary: none
Main exports: ContentExact, noteShown, RowRemembered, content_exact_iff
-/
import Dmon.Proofs.Highlight
import Dmon.Model.Window

namespace Dmon

open Execution

/-! ### The parts of the window -/

namespace Window

@[simp] theorem displayer_setDisplayer (w : Window) (d : LogDisplayer) (pane other : Pane) :
    (w.setDisplayer d pane).displayer other = if other = pane then d else w.displayer other := by
  cases pane <;> cases other <;> rfl

@[simp] theorem payload_setDisplayer (w : Window) (d : LogDisplayer) (pane other : Pane) :
    (w.setDisplayer d pane).payload other = w.payload other := by
  cases pane <;> cases other <;> rfl

@[simp] theorem displayer_setPayload (w : Window) (text : String) (pane other : Pane) :
    (w.setPayload text pane).displayer other = w.displayer other := by
  cases pane <;> cases other <;> rfl

@[simp] theorem displayer_takeSelected (w : Window) (pane : Pane) :
    w.takeSelected.displayer pane = w.displayer pane := by
  cases pane <;> rfl

@[simp] theorem topicsOf_takeSelected (w : Window) (pane : Pane) :
    w.takeSelected.topicsOf pane = w.topicsOf pane := by
  cases pane <;> rfl

@[simp] theorem payload_takeSelected (w : Window) (pane : Pane) :
    w.takeSelected.payload pane = (w.displayer pane).seltext := by
  cases pane <;> rfl

/-- What a `Render` of one of the two tabs does. -/
theorem render_spec {w w' : Window} {rows : List Row} {pane : Pane} (returns : w.render = .ok (w', rows))
    (drawn : w.drawnPane? = some pane) :
    ∃ d, (w.displayer pane).renderLines (w.topicsOf pane) = .ok (d, rows) ∧
      w' = w.takeSelected.setDisplayer d pane := by
  obtain ⟨_, _, rest⟩ := exists_of_bind returns
  have same : w.takeSelected.drawnPane? = some pane := drawn
  rw [same] at rest
  obtain ⟨⟨d, own⟩, list, last⟩ := exists_of_bind rest
  obtain ⟨rfl, rfl⟩ := Prod.mk.inj (Except.ok.inj last)
  rw [displayer_takeSelected, topicsOf_takeSelected] at list
  exact ⟨d, list, rfl⟩

/-- A `Render` of the third tab draws no list. -/
theorem render_other {w w' : Window} {rows : List Row} (returns : w.render = .ok (w', rows))
    (none : w.drawnPane? = none) : w' = w.takeSelected := by
  obtain ⟨_, _, rest⟩ := exists_of_bind returns
  have same : w.takeSelected.drawnPane? = .none := none
  rw [same] at rest
  exact (Prod.mk.inj (Except.ok.inj rest)).1.symm

end Window

/-- Key events do not touch the selected text. -/
theorem LogDisplayer.seltext_onEvent {d : LogDisplayer} {focused : Bool} {key : Key}
    {answered : LogDisplayer × Bool} (returns : d.onEvent focused key = .ok answered) :
    answered.1.seltext = d.seltext := by
  unfold onEvent at returns
  split at returns
  · obtain rfl := Except.ok.inj returns
    rfl
  · obtain ⟨_, _, rest⟩ := exists_of_bind returns
    obtain ⟨_, _, last⟩ := exists_of_bind rest
    obtain rfl := Except.ok.inj last
    rfl

theorem Window.after_of_step {w w' : Window} {e : Window.Event} (step : mainWindow.step w e = some w') :
    w.after e = .ok w' :=
  toOption_eq_some.1 step

theorem Window.exists_of_after_render {w w' : Window} (returns : w.after .render = .ok w') :
    ∃ rows, w.render = .ok (w', rows) := by
  rw [after] at returns
  obtain ⟨⟨window, rows⟩, rendered, same⟩ := exists_of_map returns
  exact ⟨rows, by rw [rendered, ← same]⟩

/-- The text of a row is never empty. -/
theorem Topic.selectedText_ne_empty (it : Topic) : it.selectedText ≠ .ok "" := by
  intro empty
  obtain ⟨out, printed, last⟩ := exists_of_bind empty
  obtain ⟨written, _, later⟩ := exists_of_bind printed
  obtain rfl := Except.ok.inj later
  have ready : ZeroFilled (((({} : Ostream).insertString it.path).insertString ":\n").setFill '0') :=
    ⟨rfl, rfl⟩
  have text := (Put.foldl_write ready written).1
  have none := congrArg String.toList (Except.ok.inj last)
  rw [String.toList_ofList, text] at none
  simp at none

/-! ### The law and its condition -/

/-- No event gets stuck. -/
def Returns (w : Window) (e : Window.Event) : Prop := ∃ w', w.after e = .ok w'

instance (w : Window) (e : Window.Event) : Decidable (Returns w e) :=
  match returns : w.after e with
  | .ok w' => .isTrue ⟨w', returns⟩
  | .error _ => .isFalse fun all => by
      obtain ⟨w', other⟩ := all
      rw [returns] at other
      cases other

/-- The law: after a `Render` of one of the two tabs its content box has the text of the row that this
    `Render` highlighted, and is empty when the list is empty. -/
def ContentExact (w : Window) : Window.Event → Prop
  | .render =>
      ∀ w' rows pane, w.render = .ok (w', rows) → w.drawnPane? = some pane →
        (w.topicsOf pane = [] → w'.payload pane = "") ∧
        (w.topicsOf pane ≠ [] →
          ∃ row, rows.filter Row.focused = [row] ∧ row.topic.selectedText = .ok (w'.payload pane))
  | _ => True

/-- The row that a `Render` of the tab is about to highlight, if there is one. -/
def Window.nextRow (w : Window) (pane : Pane) : Option Topic :=
  topicAt (w.topicsOf pane) ((w.displayer pane).corrected (w.topicsOf pane).length)

/-- The row highlighted in a tab when it was last drawn: a `Render` notes the row that it highlights, and
    keeps what was noted when it highlights none; an empty list and an accepted request clear it. -/
def noteShown (shown : Pane → Option Topic) (w : Window) : Window.Event → Pane → Option Topic
  | .render =>
      match w.drawnPane? with
      | some pane =>
          Function.update shown pane
            (if w.topicsOf pane = [] then none else (w.nextRow pane).or (shown pane))
      | none => shown
  | .fetchAccepted => Function.update shown .search none
  | .subscribeAccepted => Function.update shown .subscription none
  | _ => shown

/-- The condition: at a `Render` of one of the two tabs, the row about to be highlighted exists and has the
    same text as the one that is noted; with an empty list, none is noted. -/
def RowRemembered (v : Window × (Pane → Option Topic)) : Window.Event → Prop
  | .render =>
      ∀ pane, v.1.drawnPane? = some pane →
        (v.1.topicsOf pane = [] → v.2 pane = none) ∧
        (v.1.topicsOf pane ≠ [] →
          ∃ next last, v.1.nextRow pane = some next ∧ v.2 pane = some last ∧
            next.selectedText = last.selectedText)
  | _ => True

/-- The window with the rows that were last highlighted. -/
def watchedWindow : TransitionSystem (Window × (Pane → Option Topic)) Window.Event :=
  mainWindow.withHistory (fun _ => none) noteShown

/-! ### The text of a list is that of the row noted -/

/-- Each list holds the text of the row noted for its tab, and none when no row is noted. -/
def Recalls (v : Window × (Pane → Option Topic)) : Prop :=
  ∀ pane,
    match v.2 pane with
    | some it => it.selectedText = .ok (v.1.displayer pane).seltext
    | none => (v.1.displayer pane).seltext = ""

namespace Recalls

theorem init : Recalls watchedWindow.init := by
  intro pane
  cases pane <;> rfl

/-- Lists with the same texts, and the same rows noted. -/
theorem congr {w w' : Window} {shown : Pane → Option Topic} (recalls : Recalls (w, shown))
    (same : ∀ pane, (w'.displayer pane).seltext = (w.displayer pane).seltext) : Recalls (w', shown) := by
  intro pane
  have here := recalls pane
  simp only [same]
  exact here

/-- A list that is drawn holds the text of the row that it highlights, or what it held before. -/
theorem drawn {d d' : LogDisplayer} {topics : List Topic} {rows : List Row} {noted : Option Topic}
    (returns : d.renderLines topics = .ok (d', rows))
    (before : match noted with
      | some it => it.selectedText = .ok d.seltext
      | none => d.seltext = "") :
    match if topics = [] then none else (topicAt topics (d.corrected topics.length)).or noted with
    | some it => it.selectedText = .ok d'.seltext
    | none => d'.seltext = "" := by
  obtain ⟨_, _, _, _, text⟩ := LogDisplayer.renderLines_spec returns
  by_cases none : topics = []
  · subst none
    simpa [topicAt] using text
  · rw [if_neg none]
    cases next : topicAt topics (d.corrected topics.length) with
    | some it =>
        rw [next] at text
        exact text
    | none =>
        rw [next] at text
        simp only [List.isEmpty_iff, none, if_false] at text
        simpa [text] using before

/-- The tab that is drawn has the text of the row that was highlighted, or keeps its own. -/
theorem render {w w' : Window} {shown : Pane → Option Topic} (recalls : Recalls (w, shown))
    (returns : w.after .render = .ok w') : Recalls (w', noteShown shown w .render) := by
  obtain ⟨rows, rendered⟩ := Window.exists_of_after_render returns
  cases drawn : w.drawnPane? with
  | none =>
      obtain rfl := w.render_other rendered drawn
      rw [noteShown, drawn]
      exact recalls.congr fun pane => by simp
  | some pane =>
      obtain ⟨d, list, rfl⟩ := Window.render_spec rendered drawn
      rw [noteShown, drawn]
      intro other
      have before := recalls other
      by_cases same : other = pane
      · subst same
        simp only [Window.displayer_setDisplayer, Function.update_self, if_true]
        exact Recalls.drawn list before
      · simp only [Window.displayer_setDisplayer, Function.update_of_ne same, if_neg same,
          Window.displayer_takeSelected]
        exact before

/-- Every step keeps the texts and the notes together. -/
theorem step {v v' : Window × (Pane → Option Topic)} {e : Window.Event} (recalls : Recalls v)
    (moved : watchedWindow.step v e = some v') : Recalls v' := by
  obtain ⟨w, shown⟩ := v
  obtain ⟨w', shown'⟩ := v'
  obtain ⟨step, rfl⟩ := TransitionSystem.withHistory_step.1 moved
  have returns := Window.after_of_step step
  cases e with
  | render => exact recalls.render returns
  | key pane focused event =>
      obtain ⟨answered, key, last⟩ := exists_of_bind returns
      obtain rfl := Except.ok.inj last
      apply recalls.congr
      intro other
      rw [Window.displayer_setDisplayer]
      split
      next same => rw [LogDisplayer.seltext_onEvent key, same]
      next => rfl
  | toggle entry | task task =>
      obtain rfl := Except.ok.inj returns
      exact recalls.congr fun pane => by cases pane <;> rfl
  | edit pane text =>
      obtain rfl := Except.ok.inj returns
      exact recalls.congr fun other => by simp
  | fetchAccepted =>
      obtain rfl := Except.ok.inj returns
      intro pane
      cases pane with
      | search => rfl
      | subscription => exact recalls .subscription
  | subscribeAccepted =>
      obtain rfl := Except.ok.inj returns
      intro pane
      cases pane with
      | search => exact recalls .search
      | subscription => rfl

variable {v : Window × (Pane → Option Topic)}

/-- A list holds no text exactly when no row is noted. -/
theorem empty_iff (recalls : Recalls v) (pane : Pane) :
    (v.1.displayer pane).seltext = "" ↔ v.2 pane = none := by
  have here := recalls pane
  cases noted : v.2 pane with
  | none =>
      rw [noted] at here
      simp [here]
  | some it =>
      rw [noted] at here
      have text : (v.1.displayer pane).seltext ≠ "" := by
        intro empty
        rw [empty] at here
        exact it.selectedText_ne_empty here
      simp [text]

/-- The text of a list is that of a row exactly when the row noted reads like it. -/
theorem text_iff (recalls : Recalls v) (pane : Pane) (next : Topic) :
    next.selectedText = .ok (v.1.displayer pane).seltext ↔
      ∃ last, v.2 pane = some last ∧ next.selectedText = last.selectedText := by
  have here := recalls pane
  cases noted : v.2 pane with
  | none =>
      rw [noted] at here
      simp [here, next.selectedText_ne_empty]
  | some last =>
      rw [noted] at here
      simp [here]

end Recalls

/-- A `Render` is right exactly when the row it is about to highlight reads like the row noted. -/
theorem contentExact_iff {v : Window × (Pane → Option Topic)} {e : Window.Event} (recalls : Recalls v)
    (returns : Returns v.1 e) : ContentExact v.1 e ↔ RowRemembered v e := by
  cases e with
  | render =>
      obtain ⟨w', after⟩ := returns
      obtain ⟨rows, rendered⟩ := Window.exists_of_after_render after
      have tab : ∀ pane, v.1.drawnPane? = some pane →
          w'.payload pane = (v.1.displayer pane).seltext ∧
          rows.filter Row.focused =
            (v.1.nextRow pane).toList.map (fun it => { topic := it, focused := true }) := by
        intro pane drawn
        obtain ⟨d, list, rfl⟩ := Window.render_spec rendered drawn
        obtain ⟨_, _, _, focused, _⟩ := LogDisplayer.renderLines_spec list
        exact ⟨by simp, focused⟩
      constructor
      · intro right pane drawn
        obtain ⟨payload, focused⟩ := tab pane drawn
        obtain ⟨empty, row⟩ := right w' rows pane rendered drawn
        rw [payload] at empty row
        constructor
        · intro none
          exact (recalls.empty_iff pane).1 (empty none)
        · intro some
          obtain ⟨row, only, text⟩ := row some
          rw [focused] at only
          cases next : v.1.nextRow pane with
          | none => simp [next] at only
          | some it =>
              have own : row.topic = it := by
                simp only [next, Option.toList_some, List.map_cons, List.map_nil, List.cons.injEq] at only
                rw [← only.1]
              rw [own] at text
              obtain ⟨last, noted, same⟩ := (recalls.text_iff pane it).1 text
              exact ⟨it, last, rfl, noted, same⟩
      · intro remembered window drawnRows pane again drawn
        obtain ⟨rfl, rfl⟩ := Prod.mk.inj (Except.ok.inj (rendered.symm.trans again))
        obtain ⟨payload, focused⟩ := tab pane drawn
        obtain ⟨cleared, recalled⟩ := remembered pane drawn
        rw [payload, focused]
        constructor
        · intro none
          exact (recalls.empty_iff pane).2 (cleared none)
        · intro some
          obtain ⟨next, last, row, noted, same⟩ := recalled some
          rw [row]
          exact ⟨_, rfl, (recalls.text_iff pane next).2 ⟨last, noted, same⟩⟩
  | _ => exact iff_of_true trivial trivial

/-- After every run of the window in which nothing gets stuck, a `Render` of one of the two tabs leaves the text
    of the row that it highlights in the content box exactly when that row reads like the row highlighted when
    the tab was last drawn, with no accepted request since. -/
theorem content_exact_iff {es : List Window.Event} {w : Window} (run : mainWindow.Run Returns es w)
    (returns : Returns w .render) :
    ∃ shown, watchedWindow.Run (fun v => Returns v.1) es (w, shown) ∧
      (ContentExact w .render ↔ RowRemembered (w, shown) .render) := by
  obtain ⟨shown, watched⟩ := run.exists_history (fun _ => none) noteShown
  have recalls : Recalls (w, shown) :=
    watched.invariant (I := Recalls) Recalls.init fun _ _ _ before _ moved => before.step moved
  exact ⟨shown, watched, contentExact_iff recalls returns⟩

/-- A list that is drawn twice, moved through, and drawn again. -/
def moveAndDraw : List Window.Event :=
  [.task (.fetchCompleted "" [letterTopic "a", letterTopic "b"] ""), .render, .render,
    .key .search true .arrowDown, .render]

/-- The next `Render` highlights the second row, as the one before it did, and the content box has its text. -/
theorem moveAndDraw_content :
    ∃ w shown, watchedWindow.Run (fun v => Returns v.1) moveAndDraw (w, shown) ∧
      w.nextRow .search = some (letterTopic "b") ∧ ContentExact w .render ∧
      RowRemembered (w, shown) .render := by
  obtain ⟨⟨w, shown⟩, watched, facts⟩ : ∃ v,
      watchedWindow.Run (fun v => Returns v.1) moveAndDraw v ∧
        decide (v.1.tabSelected = 0 ∧ v.1.topics ≠ [] ∧ v.1.nextRow .search = some (letterTopic "b") ∧
          v.2 .search = some (letterTopic "b") ∧ Returns v.1 .render) = true :=
    TransitionSystem.Run.exists_of_exec (by decide)
  obtain ⟨tab, listed, next, noted, returns⟩ := of_decide_eq_true facts
  have searching : w.drawnPane? = some .search := if_pos tab
  have remembered : RowRemembered (w, shown) .render := by
    intro pane drawn
    obtain rfl := Option.some.inj (searching.symm.trans drawn)
    exact ⟨fun nothing => absurd nothing listed, fun _ => ⟨_, _, next, noted, rfl⟩⟩
  obtain ⟨shown', same, exact⟩ := content_exact_iff watched.of_history returns
  obtain ⟨-, rfl⟩ := Prod.mk.inj (watched.deterministic same)
  exact ⟨w, shown, watched, next, exact.2 remembered, remembered⟩

/-- The first drawing of a list that has just arrived. -/
def listArrives : List Window.Event := [.task (.fetchCompleted "" [letterTopic "a"] "")]

/-- The content box stays empty although the first row is highlighted. -/
theorem content_one_frame_late :
    ¬ ∀ es w, mainWindow.Run Returns es w → mainWindow.Throughout Returns ContentExact es := by
  intro law
  obtain ⟨w', run, empty⟩ : ∃ w', mainWindow.Run Returns (listArrives ++ [.render]) w' ∧
      decide (w'.currentPayload = "") = true :=
    TransitionSystem.Run.exists_of_exec (by decide)
  obtain ⟨w, before, _, step⟩ := run.snoc_inv
  obtain ⟨again, same, facts⟩ : ∃ w, mainWindow.Run Returns listArrives w ∧
      decide (w.topics ≠ [] ∧ w.tabSelected = 0) = true :=
    TransitionSystem.Run.exists_of_exec (by decide)
  obtain rfl := before.deterministic same
  obtain ⟨some, tab⟩ := of_decide_eq_true facts
  have returns := Window.after_of_step step
  obtain ⟨rows, rendered⟩ := Window.exists_of_after_render returns
  have right := law _ _ run _ _ w List.prefix_rfl before
  obtain ⟨row, _, text⟩ := (right w' rows .search rendered (if_pos tab)).2 some
  have shown : w'.payload .search = "" := of_decide_eq_true empty
  rw [shown] at text
  exact row.topic.selectedText_ne_empty text

end Dmon
