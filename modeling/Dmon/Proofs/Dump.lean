/-
Module: Dmon.Proofs.Dump
Layer: Proofs
Purpose: The dump file determines what was dumped. A topic is written as a header, which is its type and its
  path with a colon after each, and the lines of its hex dump. No type contains a colon or begins like a
  line of a hex dump, so headers, lines and the title of the second section are told apart. What is written
  for a topic does not depend on the state in which earlier topics have left the stream.
Imports: Dmon.Proofs.Hexdump, Dmon.Model.Window
Trusted boundary: none
Main exports: Topic.Recordable, Topic.block, readBlock, MainComponent.dump_eq, dump_faithful
-/
import Dmon.Proofs.Hexdump
import Dmon.Model.Window

namespace Dmon

open Execution

/-! ### Headers -/

/-- A topic whose type is one that the program gives, whose path contains no newline, and whose payload
    leaves room for a row below `2^31` bytes. -/
structure Topic.Recordable (it : Topic) : Prop where
  type : ∃ mt, it.topicType = topicType2Str mt
  path : '\n' ∉ it.path.toList
  short : it.buffer.length < 2 ^ 31 - 64

/-- The first line of a topic. -/
def Topic.header (it : Topic) : List Char :=
  it.topicType.toList ++ ':' :: (it.path.toList ++ [':'])

/-- The lines of a topic: its header and its dump. -/
def Topic.block (it : Topic) : List Char × List (List Char) :=
  (it.header, hexLines 64 true it.buffer)

/-- What tells a header from a line of a dump. -/
def isHeader (line : List Char) : Bool := line.take 2 != "0x".toList

/-- The topic of which a header and lines were written. -/
def readBlock (block : List Char × List (List Char)) : Topic where
  topicType := String.ofList (block.1.takeWhile (· != ':'))
  path := String.ofList ((block.1.dropWhile (· != ':')).drop 1).dropLast
  buffer := readDump (Lines.join '\n' block.2)

/-- The names of the message types contain no colon and no newline, and none begins with a zero. -/
theorem topicType2Str_plain (mt : MessageType) :
    ':' ∉ (topicType2Str mt).toList ∧ '\n' ∉ (topicType2Str mt).toList ∧
      (topicType2Str mt).toList.head? ≠ some '0' := by
  unfold topicType2Str
  split <;> decide

theorem isHeader_hexLine (R : Nat) (showAscii : Bool) (bytes : List UInt8) (k : Nat) :
    isHeader (hexLine R showAscii bytes k) = false := by
  simp [isHeader, hexLine]

namespace Topic.Recordable

variable {it : Topic}

theorem isHeader_header (recordable : it.Recordable) : isHeader it.header = true := by
  obtain ⟨mt, type⟩ := recordable.type
  obtain ⟨_, _, head⟩ := topicType2Str_plain mt
  rw [← type] at head
  unfold isHeader header
  cases start : it.topicType.toList with
  | nil => simp
  | cons c rest =>
      have other : c ≠ '0' := by simpa [start] using head
      simp [other]

theorem newline_not_mem_header (recordable : it.Recordable) : '\n' ∉ it.header := by
  obtain ⟨mt, type⟩ := recordable.type
  obtain ⟨_, newline, _⟩ := topicType2Str_plain mt
  rw [← type] at newline
  simp [header, newline, recordable.path]

/-- A topic is recovered from its lines. -/
theorem readBlock_block (recordable : it.Recordable) : readBlock it.block = it := by
  obtain ⟨mt, type⟩ := recordable.type
  obtain ⟨colon, _, _⟩ := topicType2Str_plain mt
  rw [← type] at colon
  have before : ∀ c ∈ it.topicType.toList, (c != ':') = true := by
    intro c member
    rw [bne_iff_ne]
    intro same
    exact colon (same ▸ member)
  have bytes : readDump (Lines.join '\n' (hexLines 64 true it.buffer)) = it.buffer :=
    readDump_hexLines (by decide) true it.buffer
  unfold readBlock block header
  simp [List.takeWhile_append_of_pos before, List.dropWhile_append_of_pos before, bytes]

end Topic.Recordable

/-! ### The file -/

/-- The title of the first section. -/
def fetchedTitle : List Char := "Fetched topics:".toList

/-- The title of the second section. -/
def subscribedTitle : List Char := "Subscribed topics:".toList

/-- The lines of a list of topics. -/
def topicLines (topics : List Topic) : List (List Char) :=
  Lines.flatten (topics.map Topic.block)

/-- The topics of which the lines were written. -/
def readTopics (lines : List (List Char)) : List Topic :=
  (Lines.groups isHeader lines).2.map readBlock

theorem mem_topicLines {topics : List Topic} {line : List Char} :
    line ∈ topicLines topics ↔
      ∃ it ∈ topics, line = it.header ∨ line ∈ hexLines 64 true it.buffer := by
  simp [topicLines, Lines.flatten, Topic.block]

theorem isHeader_of_mem_hexLines {R : Nat} {showAscii : Bool} {bytes : List UInt8} {line : List Char}
    (member : line ∈ hexLines R showAscii bytes) : isHeader line = false := by
  obtain ⟨k, _, rfl⟩ := List.mem_map.1 member
  exact isHeader_hexLine R showAscii bytes k

section Recordable

variable {topics : List Topic} (recordable : ∀ it ∈ topics, it.Recordable)
include recordable

/-- The topics are recovered from their lines. -/
theorem readTopics_topicLines : readTopics (topicLines topics) = topics := by
  have heads : ∀ block ∈ topics.map Topic.block, isHeader block.1 = true := by
    intro block member
    obtain ⟨it, here, rfl⟩ := List.mem_map.1 member
    exact (recordable it here).isHeader_header
  have bodies : ∀ block ∈ topics.map Topic.block, ∀ line ∈ block.2, isHeader line = false := by
    intro block member line inside
    obtain ⟨it, _, rfl⟩ := List.mem_map.1 member
    exact isHeader_of_mem_hexLines inside
  have back : ∀ it ∈ topics, readBlock it.block = it :=
    fun it here => (recordable it here).readBlock_block
  rw [readTopics, topicLines, Lines.groups_flatten heads bodies, List.map_map]
  exact (List.map_congr_left back).trans (List.map_id topics)

theorem newline_not_mem_topicLines : ∀ line ∈ topicLines topics, '\n' ∉ line := by
  intro line member
  obtain ⟨it, here, first | later⟩ := mem_topicLines.1 member
  · rw [first]
    exact (recordable it here).newline_not_mem_header
  · exact newline_not_mem_hexLines later

/-- The title of the second section is no line of a topic. -/
theorem subscribedTitle_not_mem_topicLines : subscribedTitle ∉ topicLines topics := by
  intro member
  obtain ⟨it, here, first | later⟩ := mem_topicLines.1 member
  · obtain ⟨mt, type⟩ := (recordable it here).type
    obtain ⟨colon, _, _⟩ := topicType2Str_plain mt
    rw [← type] at colon
    have title : subscribedTitle = "Subscribed topics".toList ++ ':' :: [] := rfl
    have parts := Lines.eq_of_append_cons_eq (by decide) colon (title.symm.trans first)
    simp at parts
  · have line := isHeader_of_mem_hexLines later
    exact absurd line (by decide)

end Recordable

/-- The lines of the file. -/
def MainComponent.dumpLines (c : MainComponent) : List (List Char) :=
  fetchedTitle :: topicLines c.topics ++ subscribedTitle :: topicLines c.subscribeTopics

/-- What is written for a topic, whatever the state of the stream. -/
theorem printTopic_eq {it : Topic} (recordable : it.Recordable) {fs : Ostream} (plain : fs.width = 0) :
    ∃ fs', printTopic fs it = .ok fs' ∧
      fs'.text = fs.text ++ Lines.join '\n' (it.header :: hexLines 64 true it.buffer) ∧
      fs'.width = 0 := by
  have short := recordable.short
  have short : it.buffer.length + 64 < 2 ^ 31 := by omega
  have titled :
      ((((fs.insertString it.topicType).insertString ":").insertString it.path).insertString
        ":\n").width = 0 := rfl
  obtain ⟨fs', printed, text, width⟩ :=
    CustomHexdump.print_eq (CustomHexdump.ofBuffer 64 true it.buffer) (by decide)
      (CustomHexdump.fits_ofBuffer short) titled
  rw [CustomHexdump.data_ofBuffer (by omega)] at text
  refine ⟨fs', printed, ?_, width⟩
  rw [text]
  simp [plain, Topic.header]

/-- What is written for a list of topics. -/
theorem printTopics_eq {topics : List Topic} (recordable : ∀ it ∈ topics, it.Recordable) {fs : Ostream}
    (plain : fs.width = 0) :
    ∃ fs', topics.foldlM printTopic fs = .ok fs' ∧
      fs'.text = fs.text ++ Lines.join '\n' (topicLines topics) ∧ fs'.width = 0 := by
  induction topics generalizing fs with
  | nil => exact ⟨fs, rfl, by simp [topicLines, Lines.flatten, Lines.join], plain⟩
  | cons it rest ih =>
      obtain ⟨mid, printed, text, width⟩ := printTopic_eq (recordable it (by simp)) plain
      obtain ⟨fs', later, texts, last⟩ := ih (fun it member => recordable it (by simp [member])) width
      refine ⟨fs', ?_, ?_, last⟩
      · rw [List.foldlM_cons, printed, ok_bind, later]
      · rw [texts, text]
        simp [topicLines, Topic.block]

namespace MainComponent

/-- Both lists are recordable. -/
def Recordable (c : MainComponent) : Prop :=
  (∀ it ∈ c.topics, it.Recordable) ∧ ∀ it ∈ c.subscribeTopics, it.Recordable

/-- The text of the file. -/
theorem dump_eq {c : MainComponent} (recordable : c.Recordable) :
    ∃ out, c.dump = .ok out ∧ out.text = Lines.join '\n' c.dumpLines := by
  have before : (({} : Ostream).insertString "Fetched topics:\n").width = 0 := rfl
  obtain ⟨mid, fetched, text, width⟩ := printTopics_eq recordable.1 before
  have between : (mid.insertString "Subscribed topics:\n").width = 0 := rfl
  obtain ⟨out, subscribed, texts, _⟩ := printTopics_eq recordable.2 between
  refine ⟨out, ?_, ?_⟩
  · rw [dump, fetched, ok_bind]
    exact subscribed
  · have first : "Fetched topics:\n".toList = fetchedTitle ++ ['\n'] := rfl
    have second : "Subscribed topics:\n".toList = subscribedTitle ++ ['\n'] := rfl
    rw [texts, Ostream.insertString, Ostream.text_insert, width, Ostream.leftpad_zero, text,
      Ostream.insertString, Ostream.text_insert, Ostream.leftpad_zero, first, second, dumpLines]
    simp

/-- No line of the file contains a newline. -/
theorem newline_not_mem_dumpLines {c : MainComponent} (recordable : c.Recordable) :
    ∀ line ∈ c.dumpLines, '\n' ∉ line := by
  intro line member
  rw [dumpLines, List.mem_append, List.mem_cons, List.mem_cons] at member
  rcases member with (rfl | fetched) | rfl | subscribed
  · decide
  · exact newline_not_mem_topicLines recordable.1 line fetched
  · decide
  · exact newline_not_mem_topicLines recordable.2 line subscribed

/-- The lines determine the lists. -/
theorem topics_eq_of_dumpLines {c c' : MainComponent} (recordable : c.Recordable)
    (recordable' : c'.Recordable) (same : c.dumpLines = c'.dumpLines) :
    c.topics = c'.topics ∧ c.subscribeTopics = c'.subscribeTopics := by
  have tails := (List.cons.inj same).2
  obtain ⟨fetched, subscribed⟩ := Lines.eq_of_append_cons_eq
    (subscribedTitle_not_mem_topicLines recordable.1)
    (subscribedTitle_not_mem_topicLines recordable'.1) tails
  constructor
  · rw [← readTopics_topicLines recordable.1, fetched, readTopics_topicLines recordable'.1]
  · rw [← readTopics_topicLines recordable.2, subscribed, readTopics_topicLines recordable'.2]

end MainComponent

/-- The dump file is a faithful record: it can be written for every two lists of recordable topics, and no
    other two such lists give the same text. What is written for one topic is the same for every base and
    fill character that the topics before it have left in the stream. -/
theorem dump_faithful :
    (∀ it : Topic, it.Recordable → ∃ written, ∀ fs : Ostream, fs.width = 0 →
      ∃ fs', printTopic fs it = .ok fs' ∧ fs'.text = fs.text ++ written ∧ fs'.width = 0) ∧
    (∀ c : MainComponent, c.Recordable → ∃ out, c.dump = .ok out) ∧
    ∀ c c' : MainComponent, c.Recordable → c'.Recordable → ∀ out out', c.dump = .ok out →
      c'.dump = .ok out' → out.text = out'.text →
      c.topics = c'.topics ∧ c.subscribeTopics = c'.subscribeTopics := by
  refine ⟨?_, ?_, ?_⟩
  · intro it recordable
    exact ⟨_, fun fs plain => printTopic_eq recordable plain⟩
  · intro c recordable
    obtain ⟨out, written, _⟩ := MainComponent.dump_eq recordable
    exact ⟨out, written⟩
  · intro c c' recordable recordable' out out' written written' same
    obtain ⟨_, own, text⟩ := MainComponent.dump_eq recordable
    obtain ⟨_, own', text'⟩ := MainComponent.dump_eq recordable'
    obtain rfl := Except.ok.inj (written.symm.trans own)
    obtain rfl := Except.ok.inj (written'.symm.trans own')
    have lines : c.dumpLines = c'.dumpLines := by
      rw [← Lines.split_join (MainComponent.newline_not_mem_dumpLines recordable), ← text, same, text',
        Lines.split_join (MainComponent.newline_not_mem_dumpLines recordable')]
    exact MainComponent.topics_eq_of_dumpLines recordable recordable' lines

/-- A topic with an empty type name and a colon in its path, fetched or received as an update. -/
def pingTopic : Topic := { topicType := "", path := "a:", buffer := [0x30, 0x78] }

theorem pingTopic_distinguished :
    ∃ out out', ({ topics := [pingTopic] } : MainComponent).dump = .ok out ∧
      ({ subscribeTopics := [pingTopic] } : MainComponent).dump = .ok out' ∧ out.text ≠ out'.text := by
  have recordable : pingTopic.Recordable := ⟨⟨0x19, rfl⟩, by decide, by decide⟩
  have fetched : ({ topics := [pingTopic] } : MainComponent).Recordable := by
    simp [MainComponent.Recordable, recordable]
  have subscribed : ({ subscribeTopics := [pingTopic] } : MainComponent).Recordable := by
    simp [MainComponent.Recordable, recordable]
  obtain ⟨_, total, faithful⟩ := dump_faithful
  obtain ⟨out, written⟩ := total _ fetched
  obtain ⟨out', written'⟩ := total _ subscribed
  refine ⟨out, out', written, written', fun same => ?_⟩
  have lists := faithful _ _ fetched subscribed out out' written written' same
  exact absurd lists.1 (by decide)

end Dmon
