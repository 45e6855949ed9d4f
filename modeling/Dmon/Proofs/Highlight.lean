/-
Module: Dmon.Proofs.Highlight
Layer: Proofs
Purpose: Whether the highlighted row and the selected text belong to the list being drawn. `RenderLines` corrects
  a selection that lies past the end of the list, but not one that lies just at its end. Along a run the
  selection is never further than that, so drawing goes wrong exactly when it lies there.
Imports: Dmon.Proofs.Hexdump, Dmon.Proofs.Navigation
Trusted boundary: none
Main exports: Topic.content, topicAt, drawRows_spec, LogDisplayer.renderLines_spec, highlight_exact_iff
-/
import Dmon.Proofs.Hexdump
import Dmon.Proofs.Navigation

namespace Dmon

open Execution

/-! ### The text of a row -/

/-- The path, a colon and the hex dump in rows of 32. -/
def Topic.content (it : Topic) : String :=
  it.path ++ ":\n" ++ String.ofList (Lines.join '\n' (hexLines 32 true it.buffer))

theorem Topic.selectedText_eq {it : Topic} (short : it.buffer.length < 2 ^ 31 - 32) :
    it.selectedText = .ok it.content := by
  have short : it.buffer.length + 32 < 2 ^ 31 := by omega
  let ss : Ostream := ((({} : Ostream).insertString it.path).insertString ":\n")
  have start : ss.text = it.path.toList ++ ":\n".toList := by simp [ss]
  have plain : ss.width = 0 := rfl
  obtain ⟨out, printed, text, _⟩ :=
    CustomHexdump.print_eq (CustomHexdump.ofBuffer 32 true it.buffer) (by decide)
      (CustomHexdump.fits_ofBuffer short) plain
  rw [CustomHexdump.data_ofBuffer (by omega), start] at text
  have whole : String.ofList out.text = it.content := by
    rw [text, String.ofList_append, String.ofList_append, String.ofList_toList, String.ofList_toList]
    rfl
  calc it.selectedText
      = (do
          let ss ← (CustomHexdump.ofBuffer 32 true it.buffer).print ss
          return String.ofList ss.text) := rfl
    _ = .ok it.content := by
      rw [printed, ok_bind, whole]
      rfl

/-! ### Drawing the rows -/

/-- The topic at a position of the list, if there is one. -/
def topicAt (topics : List Topic) (k : Int) : Option Topic :=
  if k < 0 then none else topics[k.toNat]?

theorem topicAt_cons (it : Topic) (rest : List Topic) (k : Int) :
    topicAt (it :: rest) k = if k = 0 then some it else topicAt rest (k - 1) := by
  unfold topicAt
  by_cases first : k = 0
  · simp [first]
  · by_cases negative : k < 0
    · simp [first, negative, show k - 1 < 0 by omega]
    · have later : k.toNat = (k - 1).toNat + 1 := by omega
      rw [if_neg negative, if_neg first, if_neg (by omega), later, List.getElem?_cons_succ]

/-- What the loop draws: the row at the selection has the focus and gives the text, when there is one. -/
theorem drawRows_spec {selected index : Int} {text : String} {topics : List Topic}
    {drawn : String × List Row} (returns : drawRows selected index text topics = .ok drawn) :
    drawn.2.map Row.topic = topics ∧
    drawn.2.filter Row.focused =
      (topicAt topics (selected - index)).toList.map (fun it => { topic := it, focused := true }) ∧
    match topicAt topics (selected - index) with
    | some it => it.selectedText = .ok drawn.1
    | none => drawn.1 = text := by
  induction topics generalizing index text drawn with
  | nil =>
      obtain rfl := Except.ok.inj returns
      have none : topicAt [] (selected - index) = none := by simp [topicAt]
      simp [none]
  | cons it rest ih =>
      obtain ⟨next, sum, returns⟩ := exists_of_bind returns
      obtain rfl := eq_of_checked sum
      obtain ⟨text', here, returns⟩ := exists_of_bind returns
      obtain ⟨later, below, last⟩ := exists_of_bind returns
      obtain rfl := Except.ok.inj last
      obtain ⟨topics, focused, text''⟩ := ih below
      rw [topicAt_cons]
      by_cases focus : index = selected
      · have past : topicAt rest (selected - (index + 1)) = none := if_pos (by omega)
        rw [past] at focused text''
        have first : selected - index = 0 := by omega
        have own : it.selectedText = .ok later.1 := by
          rw [text'', ← here, focus]
          simp [seltextAfter]
        rw [if_pos first]
        exact ⟨by simp [topics], by simp [focused, focus], own⟩
      · have other : ¬ selected - index = 0 := by omega
        have same : text' = text := by
          simpa [seltextAfter, focus] using here.symm
        have shift : selected - index - 1 = selected - (index + 1) := by omega
        rw [if_neg other, shift]
        rw [same] at text''
        exact ⟨by simp [topics], by simp [focused, focus], text''⟩

/-- The loop returns for a list that `int` can count, when every row has a text. -/
theorem drawRows_returns {selected index : Int} {text : String} {topics : List Topic}
    (least : -2 ^ 31 ≤ index) (most : index + topics.length < 2 ^ 31)
    (texts : ∀ it ∈ topics, ∃ text, it.selectedText = .ok text) :
    ∃ drawn, drawRows selected index text topics = .ok drawn := by
  induction topics generalizing index text with
  | nil => exact ⟨_, rfl⟩
  | cons it rest ih =>
      have sum : checked (index + 1) = .ok (index + 1) := by
        apply checked_of_isInt
        unfold IsInt
        rw [List.length_cons] at most
        omega
      obtain ⟨text', here⟩ : ∃ text', seltextAfter (decide (index = selected)) it text = .ok text' := by
        unfold seltextAfter
        split
        · exact texts it (by simp)
        · exact ⟨text, rfl⟩
      have rows : ∃ later, drawRows selected (index + 1) text' rest = .ok later := by
        rw [List.length_cons] at most
        exact ih (by omega) (by omega) fun it member => texts it (by simp [member])
      obtain ⟨later, below⟩ := rows
      refine ⟨(later.1, { topic := it, focused := decide (index = selected) } :: later.2), ?_⟩
      rw [drawRows, sum, ok_bind, here, ok_bind, below]
      rfl

namespace LogDisplayer

/-- What a call of `RenderLines` that returns leaves and draws. -/
theorem renderLines_spec {d d' : LogDisplayer} {topics : List Topic} {rows : List Row}
    (returns : d.renderLines topics = .ok (d', rows)) :
    d'.selected = d.corrected topics.length ∧ d'.size = toInt topics.length ∧
    rows.map Row.topic = topics ∧
    rows.filter Row.focused =
      (topicAt topics (d.corrected topics.length)).toList.map
        (fun it => { topic := it, focused := true }) ∧
    match topicAt topics (d.corrected topics.length) with
    | some it => it.selectedText = .ok d'.seltext
    | none => d'.seltext = if topics.isEmpty then "" else d.seltext := by
  obtain ⟨drawn, loop, last⟩ := exists_of_bind returns
  obtain ⟨rfl, rfl⟩ := Prod.mk.inj (Except.ok.inj last)
  have spec := drawRows_spec loop
  rw [Int.sub_zero] at spec
  exact ⟨rfl, by simp only, spec⟩

/-- A list that is drawn without overflow: fewer than `2^30` topics, with payloads that leave room for a row
    below `2^31` bytes. -/
def Event.Drawable : Event → Prop
  | .renderLines topics =>
      topics.length < 2 ^ 30 ∧ ∀ it ∈ topics, it.buffer.length < 2 ^ 31 - 32
  | _ => True

instance : DecidablePred Event.Drawable
  | .renderLines topics =>
      inferInstanceAs (Decidable (topics.length < 2 ^ 30 ∧ ∀ it ∈ topics, it.buffer.length < 2 ^ 31 - 32))
  | .onEvent _ _ => .isTrue trivial
  | .clearSelected => .isTrue trivial

/-- An event that a bounded display answers: a list to be drawn has fewer than `2^30` topics, and a text for each
    of them. -/
def Event.Answerable : Event → Prop
  | .renderLines topics =>
      topics.length < 2 ^ 30 ∧ ∀ it ∈ topics, ∃ text, it.selectedText = .ok text
  | _ => True

/-- Payloads that leave room for a row below `2^31` bytes have a text. -/
theorem Event.Drawable.answerable {e : Event} (drawable : e.Drawable) : e.Answerable := by
  cases e with
  | renderLines topics =>
      obtain ⟨few, short⟩ := drawable
      exact ⟨few, fun it member => ⟨_, Topic.selectedText_eq (short it member)⟩⟩
  | onEvent | clearSelected => trivial

/-- The law: no event gets stuck, and after `RenderLines` the rows are those of the list; if there are any,
    the selection is one of them, it alone has the focus, and the text is its content; if there are none,
    the selection is 0 and the text is empty. -/
def HighlightExact (d : LogDisplayer) : Event → Prop
  | .renderLines topics =>
      ∃ d' rows, d.renderLines topics = .ok (d', rows) ∧ rows.map Row.topic = topics ∧
        (topics ≠ [] → 0 ≤ d'.selected ∧ d'.selected < topics.length ∧
          ∃ it, topics[d'.selected.toNat]? = some it ∧
            rows.filter Row.focused = [{ topic := it, focused := true }] ∧ d'.seltext = it.content) ∧
        (topics = [] → d'.selected = 0 ∧ d'.seltext = "")
  | e => ∃ d', d.after e = .ok d'

/-- The list does not end just before the selection, unless it is empty. -/
def EndsElsewhere (d : LogDisplayer) : Event → Prop
  | .renderLines topics => topics = [] ∨ d.selected ≠ topics.length
  | _ => True

instance (d : LogDisplayer) : DecidablePred d.EndsElsewhere
  | .renderLines topics => inferInstanceAs (Decidable (topics = [] ∨ d.selected ≠ topics.length))
  | .onEvent _ _ => .isTrue trivial
  | .clearSelected => .isTrue trivial

/-- On a bounded display the test corrects a selection past the end of the list. -/
theorem corrected_eq {d : LogDisplayer} (bounded : d.Bounded) (count : Nat) :
    d.corrected count = if (count : Int) < d.selected then 0 else d.selected := by
  obtain ⟨nonneg, small, least, most⟩ := bounded
  have size : (toSize d.size : Int) = d.size := toSize_of_nonneg nonneg (by omega)
  have selected : (toSize d.selected : Int) = d.selected := toSize_of_nonneg least (by omega)
  unfold corrected
  by_cases past : (count : Int) < d.selected
  · rw [if_pos past, if_pos (by omega)]
  · rw [if_neg past, if_neg (by omega)]

theorem renderLines_returns {d : LogDisplayer} {topics : List Topic}
    (answerable : (Event.renderLines topics).Answerable) :
    ∃ d' rows, d.renderLines topics = .ok (d', rows) := by
  obtain ⟨few, texts⟩ := answerable
  have rows : ∃ drawn, drawRows (d.corrected topics.length) 0
      (if topics.isEmpty then "" else d.seltext) topics = .ok drawn :=
    drawRows_returns (by decide) (by omega) texts
  obtain ⟨drawn, loop⟩ := rows
  exact ⟨_, _, by rw [renderLines, loop, ok_bind]; rfl⟩

theorem Bounded.init : ({} : LogDisplayer).Bounded := ⟨by decide, by decide, by decide, by decide⟩

/-- A bounded display answers every event that it can, and stays bounded. -/
theorem Bounded.after {d : LogDisplayer} {e : Event} (bounded : d.Bounded) (answerable : e.Answerable) :
    ∃ d', d.after e = .ok d' ∧ d'.Bounded := by
  cases e with
  | renderLines topics =>
      obtain ⟨d', rows, drawn⟩ := renderLines_returns answerable
      obtain ⟨selected, size, _⟩ := renderLines_spec drawn
      refine ⟨d', by rw [LogDisplayer.after, drawn]; rfl, ?_⟩
      have fits : toInt topics.length = topics.length := by
        have few := answerable.1
        apply toInt_of_isInt
        unfold IsInt
        omega
      rw [corrected_eq bounded] at selected
      rw [fits] at size
      have few := answerable.1
      have least := bounded.selected_nonneg
      constructor <;> omega
  | onEvent focused key =>
      cases focused with
      | false => exact ⟨d, rfl, bounded⟩
      | true =>
          refine ⟨_, by rw [LogDisplayer.after, onEvent_eq bounded]; rfl, ?_⟩
          obtain ⟨nonneg, small, _, _⟩ := bounded
          have row := clamp_range d.size (key.target d.size d.selected)
          have least : 0 ≤ clamp d.size (key.target d.size d.selected) := by omega
          have most : clamp d.size (key.target d.size d.selected) ≤ d.size := by omega
          exact ⟨nonneg, small, least, most⟩
  | clearSelected =>
      obtain ⟨nonneg, small, least, most⟩ := bounded
      exact ⟨_, rfl, nonneg, small, least, most⟩

theorem displayer_step {d d' : LogDisplayer} {e : Event} (returns : d.after e = .ok d') :
    displayer.step d e = some d' :=
  toOption_eq_some.2 returns

theorem Bounded.step {d d' : LogDisplayer} {e : Event} (bounded : d.Bounded) (answerable : e.Answerable)
    (step : displayer.step d e = some d') : d'.Bounded := by
  obtain ⟨after, returns, kept⟩ := bounded.after answerable
  have same : some after = some d' := (displayer_step returns).symm.trans step
  exact Option.some.inj same ▸ kept

/-- There is a row at every index in range. -/
theorem exists_topicAt {topics : List Topic} {k : Int} (least : 0 ≤ k) (below : k < topics.length) :
    ∃ it, topics[k.toNat]? = some it ∧ topicAt topics k = some it := by
  have inside : k.toNat < topics.length := by omega
  have found : topics[k.toNat]? = some topics[k.toNat] := List.getElem?_eq_getElem inside
  refine ⟨_, found, ?_⟩
  rw [topicAt, if_neg (by omega), found]

/-- A list that ends just before the selection is drawn without a highlighted row. -/
theorem endsElsewhere_of_exact {d : LogDisplayer} {topics : List Topic} (bounded : d.Bounded)
    (right : d.HighlightExact (.renderLines topics)) : d.EndsElsewhere (.renderLines topics) := by
  obtain ⟨d', rows, drawn, _, inside, _⟩ := right
  have nonneg := bounded.selected_nonneg
  by_cases none : topics = []
  · exact .inl none
  · refine .inr fun same => ?_
    have selected := (renderLines_spec drawn).1
    rw [corrected_eq bounded, if_neg (by omega)] at selected
    have below := (inside none).2.1
    omega

/-- Any other list that can be drawn is drawn right. -/
theorem exact_of_endsElsewhere {d : LogDisplayer} {topics : List Topic} (bounded : d.Bounded)
    (drawable : (Event.renderLines topics).Drawable) (elsewhere : d.EndsElsewhere (.renderLines topics)) :
    d.HighlightExact (.renderLines topics) := by
  obtain ⟨d', rows, drawn⟩ := renderLines_returns drawable.answerable
  obtain ⟨selected, _, all, focused, text⟩ := renderLines_spec drawn
  have nonneg := bounded.selected_nonneg
  rw [← selected] at focused text
  rw [corrected_eq bounded] at selected
  refine ⟨d', rows, drawn, all, ?_, ?_⟩
  · intro some
    have other := elsewhere.resolve_left some
    have positive := List.length_pos_iff.2 some
    have least : 0 ≤ d'.selected := by omega
    have below : d'.selected < topics.length := by omega
    obtain ⟨it, found, here⟩ := exists_topicAt least below
    rw [here] at focused text
    have content := Topic.selectedText_eq (drawable.2 it (List.mem_of_getElem? found))
    refine ⟨least, below, it, found, by simpa using focused, ?_⟩
    exact Except.ok.inj (text.symm.trans content)
  · intro none
    subst none
    have zero : d'.selected = 0 := by
      rw [List.length_nil] at selected
      omega
    have past : topicAt [] d'.selected = none := by simp [topicAt]
    rw [past] at text
    exact ⟨zero, text⟩

/-- Drawing is right exactly when the list does not end just before the selection. -/
theorem highlightExact_iff {d : LogDisplayer} {e : Event} (bounded : d.Bounded) (drawable : e.Drawable) :
    d.HighlightExact e ↔ d.EndsElsewhere e := by
  cases e with
  | onEvent | clearSelected =>
      obtain ⟨d', returns, _⟩ := bounded.after drawable.answerable
      exact iff_of_true ⟨d', returns⟩ trivial
  | renderLines topics =>
      exact ⟨endsElsewhere_of_exact bounded, exact_of_endsElsewhere bounded drawable⟩

end LogDisplayer

/-- On a fresh display every sequence of events that can be drawn is a run. -/
theorem exists_displayer_run {es : List LogDisplayer.Event} (drawable : ∀ e ∈ es, e.Drawable) :
    ∃ d, displayer.Run (fun _ => LogDisplayer.Event.Drawable) es d := by
  induction es using List.reverseRecOn with
  | nil => exact ⟨_, .nil⟩
  | append_singleton es e ih =>
      obtain ⟨d, run⟩ := ih fun e member => drawable e (by simp [member])
      have bounded := run.invariant LogDisplayer.Bounded.init fun _ _ _ bounded drawable =>
        bounded.step drawable.answerable
      obtain ⟨d', returns, _⟩ := bounded.after (drawable e (by simp)).answerable
      exact ⟨d', .snoc run (drawable e (by simp)) (LogDisplayer.displayer_step returns)⟩

/-- For every sequence of events on a fresh display, with lists that are drawn without overflow: no event
    gets stuck, and every drawing highlights a row of its list and shows that row's content, exactly when no
    non-empty list is drawn that ends just before the selection. -/
theorem highlight_exact_iff {es : List LogDisplayer.Event} (drawable : ∀ e ∈ es, e.Drawable) :
    ∃ d, displayer.Run (fun _ => LogDisplayer.Event.Drawable) es d ∧
      (displayer.Throughout (fun _ => LogDisplayer.Event.Drawable) LogDisplayer.HighlightExact es ↔
        displayer.Throughout (fun _ => LogDisplayer.Event.Drawable) LogDisplayer.EndsElsewhere es) := by
  obtain ⟨d, run⟩ := exists_displayer_run drawable
  refine ⟨d, run, ?_⟩
  exact TransitionSystem.throughout_congr LogDisplayer.Bounded.init
    (fun d e d' bounded drawable step => bounded.step drawable.answerable step)
    (fun d e bounded drawable => LogDisplayer.highlightExact_iff bounded drawable) run

/-- A topic with one byte of payload. -/
def letterTopic (path : String) : Topic := { topicType := "ACK", path := path, buffer := [0x41] }

/-- A list that grows and shrinks while its first row is selected. -/
def firstRowKept : List LogDisplayer.Event :=
  [.renderLines [letterTopic "a"], .renderLines [letterTopic "a", letterTopic "b"],
    .renderLines [letterTopic "b"], .renderLines []]

theorem firstRowKept_exact :
    ∃ d, displayer.Run (fun _ => LogDisplayer.Event.Drawable) firstRowKept d ∧
      displayer.Throughout (fun _ => LogDisplayer.Event.Drawable) LogDisplayer.HighlightExact
        firstRowKept ∧
      displayer.Throughout (fun _ => LogDisplayer.Event.Drawable) LogDisplayer.EndsElsewhere
        firstRowKept := by
  obtain ⟨d, both, -⟩ : ∃ d,
      displayer.Run (fun d e => e.Drawable ∧ d.EndsElsewhere e) firstRowKept d ∧
        decide (d.selected = 0) = true :=
    TransitionSystem.Run.exists_of_exec (by decide)
  have elsewhere := both.throughout_of_and
  have drawable : ∀ e ∈ firstRowKept, e.Drawable := by decide
  obtain ⟨d, run, exact⟩ := highlight_exact_iff drawable
  exact ⟨d, run, exact.2 elsewhere, elsewhere⟩

/-- The second of two topics is selected, and then the list has only one. -/
def lastRowGone : List LogDisplayer.Event :=
  [.renderLines [letterTopic "a", letterTopic "b"], .onEvent true .arrowDown]

/-- No row of the new list is highlighted. -/
theorem no_row_highlighted :
    ¬ ∀ es : List LogDisplayer.Event, (∀ e ∈ es, e.Drawable) →
      displayer.Throughout (fun _ => LogDisplayer.Event.Drawable) LogDisplayer.HighlightExact es := by
  intro law
  obtain ⟨d, run, selected⟩ :
      ∃ d, displayer.Run (fun _ => LogDisplayer.Event.Drawable) lastRowGone d ∧
        decide (d.selected = 1) = true :=
    TransitionSystem.Run.exists_of_exec (by decide)
  obtain ⟨d', rows, drawn, _, inside, _⟩ :=
    law (lastRowGone ++ [.renderLines [letterTopic "a"]]) (by decide) _ _ d List.prefix_rfl run
  have below := (inside (by decide)).2.1
  have kept : d.corrected 1 = 1 := by
    unfold LogDisplayer.corrected
    rw [of_decide_eq_true selected, if_neg (by simp [toSize])]
  rw [(LogDisplayer.renderLines_spec drawn).1] at below
  exact absurd below (by simp [kept])

end Dmon
