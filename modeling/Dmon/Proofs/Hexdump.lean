/-
Module: Dmon.Proofs.Hexdump
Layer: Proofs
Purpose: What a hex dump prints, how it is read back, and for which lengths its index arithmetic is safe. As
  long as the row counter stays within `int`, the operator writes one line for each row. The bytes can be
  read from the lines alone, whatever the row size and with the ASCII column or without it: the cells of a
  row end at the first that does not begin with a digit. Past `2^31` bytes the counter turns negative and
  is used as an index.
Imports: Mathlib.Algebra.Order.Floor.Div, Dmon.Lib.Lines, Dmon.Model.Hexdump
Trusted boundary: none
Main exports: hexLine, readDump, CustomHexdump.puts_eq, CustomHexdump.print_eq, hexdump_read_back, Safe,
  hexdump_safe_iff
-/
import Mathlib.Algebra.Order.Floor.Div
import Dmon.Lib.Lines
import Dmon.Model.Hexdump

namespace Dmon

open Execution
open Ostream (hexDigits hexValue?)

/-! ### The lines -/

/-- The `R` bytes from the offset `k * R` on, or as many as there are. -/
def rowBytes (R : Nat) (bytes : List UInt8) (k : Nat) : List UInt8 :=
  (bytes.drop (k * R)).take R

/-- The cell of a byte, and the cell of a position past the last one. -/
def cellText : Option UInt8 → List Char
  | some byte => [Nat.digitChar (byte.toNat / 16), Nat.digitChar (byte.toNat % 16), ' ']
  | none => [' ', ' ', ' ']

/-- What the ASCII column shows of a byte: the character with that code when it is one from space to tilde,
    and a dot otherwise. -/
def columnChar (byte : UInt8) : Char :=
  if 0x20 ≤ byte.toNat ∧ byte.toNat ≤ 0x7e then Char.ofNat byte.toNat else '.'

/-- The ASCII column of row `k`. -/
def asciiText (R : Nat) (showAscii : Bool) (bytes : List UInt8) (k : Nat) : List Char :=
  if showAscii then (rowBytes R bytes k).map columnChar else []

/-- Line `k` of the dump, without its end of line. -/
def hexLine (R : Nat) (showAscii : Bool) (bytes : List UInt8) (k : Nat) : List Char :=
  "0x".toList ++ (hexDigits (k * R)).leftpad 6 '0' ++ ": ".toList ++
    ((List.range R).flatMap fun j => cellText bytes[k * R + j]?) ++
    ' ' :: asciiText R showAscii bytes k

/-- The lines of the dump: as many as there are rows that begin before the end of the bytes. -/
def hexLines (R : Nat) (showAscii : Bool) (bytes : List UInt8) : List (List Char) :=
  (List.range (bytes.length ⌈/⌉ R)).map (hexLine R showAscii bytes)

/-! ### The statements of a row -/

/-- What the first inner loop executes at the index `k`. -/
def cellPut (bytes : List UInt8) (k : Nat) : Put :=
  (bytes[k]?.map (Put.cell k)).getD .blank

/-- What the second inner loop executes at the index `k`. -/
def columnPuts (bytes : List UInt8) (k : Nat) : List Put :=
  (bytes[k]?.map fun byte => [Put.column k byte]).getD []

/-- What the outer loop executes for row `k`. -/
def rowPuts (R : Nat) (showAscii : Bool) (bytes : List UInt8) (k : Nat) : List Put :=
  .offset (k * R : Nat) :: ((List.range R).map fun j => cellPut bytes (k * R + j)) ++
    .gap :: (if showAscii then (List.range R).flatMap fun j => columnPuts bytes (k * R + j) else []) ++
    [.endl]

namespace CustomHexdump

variable {R : Nat} {showAscii : Bool} (dump : CustomHexdump R showAscii)

theorem below_eq {k : Nat} (small : k < 2 ^ 32) : dump.below k = decide (k < dump.data.length) := by
  have same : (toUnsigned k : Int) = k := toUnsigned_of_nonneg (by omega) (by omega)
  have same : toUnsigned k = k := by omega
  rw [below, same, dump.data_length]

/-- What both inner loops do at an index within `int`: they read the byte there, if there is one. -/
theorem read_eq {α : Type} {i j : Nat} (fits : i + j < 2 ^ 31) (here : Int → UInt8 → α) (past : α) :
    (do
      let k ← checked (i + j)
      if dump.below k then
        let byte ← readAt dump.data k
        return here k byte
      else
        return past) =
      .ok ((dump.data[i + j]?.map (here (i + j : Nat))).getD past) := by
  have sum : checked ((i : Int) + j) = .ok ((i + j : Nat) : Int) := by
    apply checked_of_isInt
    unfold IsInt
    omega
  rw [sum, ok_bind, dump.below_eq (by omega)]
  cases found : dump.data[i + j]? with
  | none =>
      have outside := List.getElem?_eq_none_iff.1 found
      rw [if_neg (by simpa using outside)]
      rfl
  | some byte =>
      obtain ⟨inside, _⟩ := List.getElem?_eq_some_iff.1 found
      rw [if_pos (by simpa using inside), readAt_of_getElem? found]
      rfl

theorem hexCell_eq {i j : Nat} (fits : i + j < 2 ^ 31) :
    dump.hexCell i j = .ok (cellPut dump.data (i + j)) := by
  unfold hexCell cellPut
  rw [dump.read_eq fits Put.cell Put.blank]

theorem asciiCell_eq {i j : Nat} (fits : i + j < 2 ^ 31) :
    dump.asciiCell i j = .ok (columnPuts dump.data (i + j)) := by
  unfold asciiCell columnPuts
  rw [dump.read_eq fits (fun k byte => [Put.column k byte]) []]

/-- A row that ends within `int` is written as it should be. -/
theorem row_eq {k : Nat} (fits : (k + 1) * R ≤ 2 ^ 31) :
    dump.row (k * R : Nat) = .ok (rowPuts R showAscii dump.data k) := by
  have inside : ∀ j ∈ List.range R, k * R + j < 2 ^ 31 := by
    intro j member
    have small := List.mem_range.1 member
    rw [Nat.succ_mul] at fits
    omega
  have cells := mapM_ok fun j member => dump.hexCell_eq (inside j member)
  have columns := mapM_ok fun j member => dump.asciiCell_eq (inside j member)
  unfold row rowPuts
  rw [cells, ok_bind]
  cases showAscii with
  | false => rfl
  | true =>
      rw [columns]
      rfl

theorem round_eq {k : Nat} (fits : (k + 1) * R ≤ 2 ^ 31) (written : List Put) :
    dump.round ((k * R : Nat), written) =
      .ok (toInt ((k + 1) * R : Nat), written ++ rowPuts R showAscii dump.data k) := by
  have small : k * R + R ≤ 2 ^ 31 := by rwa [Nat.succ_mul] at fits
  have same : (toUnsigned ((k * R : Nat) : Int) : Int) = (k * R : Nat) :=
    toUnsigned_of_nonneg (by omega) (by omega)
  unfold round
  rw [dump.row_eq fits, ok_bind, same, Nat.succ_mul]
  push_cast
  rfl

/-- Every row that begins before the end of the bytes ends within `int`. -/
def Fits : Prop := ∀ k, k * R < dump.data.length → (k + 1) * R ≤ 2 ^ 31

/-- The rows are those that begin before the end of the bytes. -/
theorem row_begins (positive : 0 < R) {k : Nat} :
    k < dump.data.length ⌈/⌉ R ↔ k * R < dump.data.length := by
  rw [← not_iff_not, Nat.not_lt, Nat.not_lt, ceilDiv_le_iff_le_mul positive, Nat.mul_comm]

/-- The loop has written `k` rows. After the last one the counter may have wrapped around. -/
def Progress (k : Nat) (s : Int × List Put) : Prop :=
  k ≤ dump.data.length ⌈/⌉ R ∧ k * R ≤ 2 ^ 31 ∧ s.1 = toInt (k * R : Nat) ∧
    s.2 = (List.range k).flatMap (rowPuts R showAscii dump.data)

variable {dump}

theorem Progress.toUnsigned_eq {k : Nat} {s : Int × List Put} (progress : dump.Progress k s) :
    toUnsigned s.1 = k * R := by
  obtain ⟨_, small, counter, _⟩ := progress
  have same : (toUnsigned (toInt (k * R : Nat)) : Int) = (k * R : Nat) :=
    toUnsigned_toInt (by omega) (by omega)
  rw [counter]
  omega

theorem Progress.below_iff {k : Nat} {s : Int × List Put} (progress : dump.Progress k s) :
    dump.below s.1 = true ↔ k * R < dump.data.length := by
  rw [below, progress.toUnsigned_eq, dump.data_length, decide_eq_true_eq]

theorem Progress.round {k : Nat} {s : Int × List Put} (positive : 0 < R) (fits : dump.Fits)
    (progress : dump.Progress k s) (more : k * R < dump.data.length) :
    ∃ s', dump.round s = .ok s' ∧ dump.Progress (k + 1) s' := by
  obtain ⟨_, small, counter, written⟩ := progress
  have ends := fits k more
  have inside : toInt (k * R : Nat) = (k * R : Nat) := by
    apply toInt_of_isInt
    unfold IsInt
    rw [Nat.succ_mul] at ends
    omega
  have step := dump.round_eq ends s.2
  rw [← inside, ← counter] at step
  refine ⟨_, step, (dump.row_begins positive).2 more, ends, by simp only, ?_⟩
  simp [written, List.range_succ]

variable (dump)

/-- The outer loop, when all its rows fit. -/
theorem puts_eq (positive : 0 < R) (fits : dump.Fits) {fuel : Nat} (enough : dump.data.length ≤ fuel) :
    dump.puts fuel =
      .ok ((List.range (dump.data.length ⌈/⌉ R)).flatMap (rowPuts R showAscii dump.data)) := by
  have keep : ∀ s, (∃ k, dump.Progress k s) → dump.below s.1 = true →
      ∃ s', dump.round s = .ok s' ∧ (∃ k, dump.Progress k s') ∧
        dump.data.length - toUnsigned s'.1 < dump.data.length - toUnsigned s.1 := by
    intro s progress runs
    obtain ⟨k, progress⟩ := progress
    have more := progress.below_iff.1 runs
    obtain ⟨s', step, later⟩ := progress.round positive fits more
    refine ⟨s', step, ⟨k + 1, later⟩, ?_⟩
    rw [later.toUnsigned_eq, progress.toUnsigned_eq, Nat.succ_mul]
    omega
  have start : dump.Progress 0 (0, []) := by
    simp [Progress, toInt]
  have fueled : dump.data.length - toUnsigned ((0 : Int), ([] : List Put)).1 ≤ fuel := by omega
  obtain ⟨s, reached, ⟨k, last⟩, ended⟩ :=
    loop_total (I := fun s => ∃ k, dump.Progress k s) keep ⟨0, start⟩ fueled
  have all : k = dump.data.length ⌈/⌉ R := by
    apply Nat.le_antisymm last.1
    apply Nat.le_of_not_lt
    intro more
    have runs := last.below_iff.2 ((dump.row_begins positive).1 more)
    simp [runs] at ended
  rw [puts, reached, ok_bind, ← all, last.2.2.2]
  rfl

end CustomHexdump

/-! ### What the statements write -/

/-- The operator shows a byte as it should. -/
@[simp] theorem glyph_eq (byte : UInt8) : glyph byte = columnChar byte := by
  have printable : isprint byte = true ↔ 0x20 ≤ byte.toNat ∧ byte.toNat ≤ 0x7e := by
    simp [isprint, UInt8.le_iff_toNat_le]
  unfold glyph columnChar
  simp only [printable]

/-- What the statement writes to a stream with the fill character `'0'` and no field width set. -/
def Put.text : Put → List Char
  | .offset i => "0x".toList ++ (hexDigits (toUnsigned i)).leftpad 6 '0' ++ ": ".toList
  | .cell _ byte => cellText (some byte)
  | .blank => cellText none
  | .gap => [' ']
  | .column _ byte => [columnChar byte]
  | .endl => ['\n']

/-- The stream state in which every statement of the operator is executed. -/
structure ZeroFilled (out : Ostream) : Prop where
  fill : out.fill = '0'
  width : out.width = 0

theorem cellText_some (byte : UInt8) :
    cellText (some byte) = (Ostream.Base.hex.digits byte.toNat).leftpad 2 '0' ++ [' '] := by
  have small : byte.toNat < 256 := byte.toNat_lt
  have same : (toUnsigned byte.toNat : Int) = byte.toNat := toUnsigned_of_nonneg (by omega) (by omega)
  have same : toUnsigned byte.toNat = byte.toNat := by omega
  rw [Ostream.digits_hex, same, Ostream.leftpad_hexDigits small]
  rfl

theorem Put.write_spec {out : Ostream} (ready : ZeroFilled out) (put : Put) :
    (put.write out).text = out.text ++ put.text ∧ ZeroFilled (put.write out) := by
  obtain ⟨fill, width⟩ := ready
  cases put with
  | offset i =>
      constructor
      · simp [Put.write, Put.text, fill, width, Ostream.digits_hex]
      · constructor <;> simp [Put.write, fill]
  | cell k byte =>
      constructor
      · simp [Put.write, Put.text, fill, cellText_some]
      · constructor <;> simp [Put.write, fill]
  | blank | gap | column =>
      constructor
      · simp [Put.write, Put.text, cellText, width]
      · constructor <;> simp [Put.write, fill]
  | endl => exact ⟨rfl, fill, width⟩

theorem Put.foldl_write {out : Ostream} (ready : ZeroFilled out) (puts : List Put) :
    (puts.foldl Put.write out).text = out.text ++ puts.flatMap Put.text ∧
      ZeroFilled (puts.foldl Put.write out) := by
  induction puts generalizing out with
  | nil => simpa using ready
  | cons put rest ih =>
      obtain ⟨here, kept⟩ := put.write_spec ready
      obtain ⟨later, last⟩ := ih kept
      refine ⟨?_, last⟩
      rw [List.foldl_cons, later, here, List.append_assoc, List.flatMap_cons]

/-- Going through the bytes in rows is going through them one by one. -/
theorem flatMap_rows {β : Type*} (R m : Nat) (g : Nat → List β) :
    ((List.range m).flatMap fun k => (List.range R).flatMap fun j => g (k * R + j)) =
      (List.range (m * R)).flatMap g := by
  induction m with
  | zero => simp
  | succ m ih =>
      rw [List.range_succ, List.flatMap_append, ih, Nat.succ_mul, List.range_add, List.flatMap_append,
        List.flatMap_map]
      simp

/-- The first `m` bytes, one by one. -/
theorem flatMap_getElem? (m : Nat) (bytes : List UInt8) :
    ((List.range m).flatMap fun k => bytes[k]?.toList) = bytes.take m := by
  induction m with
  | zero => simp
  | succ m ih => rw [List.range_succ, List.flatMap_append, ih, List.take_add_one]; simp

/-- The indices of the first `m` positions that hold a byte. -/
theorem flatMap_index (m : Nat) (bytes : List UInt8) :
    ((List.range m).flatMap fun k : Nat => (bytes[k]?.map fun _ => (k : Int)).toList) =
      (List.range (min m bytes.length)).map Int.ofNat := by
  induction m with
  | zero => simp
  | succ m ih =>
      rw [List.range_succ, List.flatMap_append, ih]
      by_cases inside : m < bytes.length
      · rw [min_eq_left inside.le, min_eq_left inside, List.range_succ]
        simp [inside]
      · have past := Nat.le_of_not_lt inside
        rw [min_eq_right past, min_eq_right (by omega)]
        simp [past]

theorem rowBytes_eq (R : Nat) (bytes : List UInt8) (k : Nat) :
    rowBytes R bytes k = (List.range R).flatMap fun j => bytes[k * R + j]?.toList := by
  rw [rowBytes, ← flatMap_getElem?]
  simp [List.getElem?_drop]

/-- The rows together are all the bytes. -/
theorem flatMap_rowBytes {R m : Nat} {bytes : List UInt8} (enough : bytes.length ≤ m * R) :
    (List.range m).flatMap (rowBytes R bytes) = bytes := by
  have rows : rowBytes R bytes = fun k => (List.range R).flatMap fun j => bytes[k * R + j]?.toList :=
    funext (rowBytes_eq R bytes)
  rw [rows, flatMap_rows R m fun k => bytes[k]?.toList, flatMap_getElem?, List.take_of_length_le enough]

theorem text_rowPuts {R k : Nat} (showAscii : Bool) (bytes : List UInt8) (small : k * R < 2 ^ 32) :
    (rowPuts R showAscii bytes k).flatMap Put.text = hexLine R showAscii bytes k ++ ['\n'] := by
  have same : (toUnsigned (k * R : Nat) : Int) = (k * R : Nat) :=
    toUnsigned_of_nonneg (by omega) (by omega)
  have same : toUnsigned (k * R : Nat) = k * R := by omega
  have cells : ∀ k, (cellPut bytes k).text = cellText bytes[k]? := by
    intro k
    unfold cellPut
    cases bytes[k]? <;> rfl
  have columns : ∀ k, (columnPuts bytes k).flatMap Put.text = bytes[k]?.toList.map columnChar := by
    intro k
    unfold columnPuts
    cases bytes[k]? <;> rfl
  have offset : (Put.offset (k * R : Nat)).text =
      "0x".toList ++ (hexDigits (k * R)).leftpad 6 '0' ++ ": ".toList := by
    rw [Put.text, same]
  unfold rowPuts hexLine asciiText
  rw [rowBytes_eq]
  cases showAscii with
  | false =>
      simp only [List.cons_append, List.flatMap_cons, List.flatMap_append, List.flatMap_map, cells,
        offset]
      simp [Put.text]
  | true =>
      simp only [List.cons_append, List.flatMap_cons, List.flatMap_append, List.flatMap_map, cells,
        List.flatMap_assoc, columns, List.map_flatMap, offset, if_true]
      simp [Put.text]

/-! ### Reading a dump back -/

/-- The bytes of the cells at the start of a text: the first cell that does not begin with two digits
    ends them. -/
def readCells : List Char → List UInt8
  | c :: d :: _ :: rest =>
      match hexValue? c, hexValue? d with
      | some high, some low => UInt8.ofNat (high * 16 + low) :: readCells rest
      | _, _ => []
  | _ => []

/-- The bytes of a line: its cells begin after the colon and a space. -/
def readLine (line : List Char) : List UInt8 :=
  readCells ((line.dropWhile (· != ':')).drop 2)

/-- The bytes of a dump. -/
def readDump (text : List Char) : List UInt8 :=
  (Lines.split '\n' text).flatMap readLine

/-- A cell without a byte, and the space after the last cell, end the cells. -/
theorem readCells_space (rest : List Char) : readCells (' ' :: rest) = [] := by
  have space : hexValue? ' ' = none := by decide
  rcases rest with _ | ⟨d, _ | ⟨e, rest⟩⟩
  · rfl
  · rfl
  · rw [readCells, space]

theorem readCells_cell (byte : UInt8) (rest : List Char) :
    readCells (cellText (some byte) ++ rest) = byte :: readCells rest := by
  have small : byte.toNat < 256 := byte.toNat_lt
  have high : hexValue? (Nat.digitChar (byte.toNat / 16)) = some (byte.toNat / 16) :=
    Ostream.hexValue_digitChar (by omega)
  have low : hexValue? (Nat.digitChar (byte.toNat % 16)) = some (byte.toNat % 16) :=
    Ostream.hexValue_digitChar (by omega)
  have whole : byte.toNat / 16 * 16 + byte.toNat % 16 = byte.toNat := Nat.div_add_mod' _ _
  simp [cellText, readCells, high, low, whole]

/-- A row of cells gives back its bytes. -/
theorem readCells_cells (m : Nat) (bytes : List UInt8) (rest : List Char) :
    readCells (((List.range m).flatMap fun j => cellText bytes[j]?) ++ ' ' :: rest) = bytes.take m := by
  induction m generalizing bytes with
  | zero => exact readCells_space rest
  | succ m ih =>
      rw [List.range_succ_eq_map, List.flatMap_cons, List.flatMap_map, List.append_assoc]
      cases bytes with
      | nil => exact readCells_space _
      | cons byte bytes =>
          have later := ih bytes
          rw [List.getElem?_cons_zero, readCells_cell]
          simpa using later

theorem readLine_hexLine (R : Nat) (showAscii : Bool) (bytes : List UInt8) (k : Nat) :
    readLine (hexLine R showAscii bytes k) = rowBytes R bytes k := by
  have before : ∀ c ∈ "0x".toList ++ (hexDigits (k * R)).leftpad 6 '0', (c != ':') = true := by
    intro c member
    have foreign : hexValue? ':' = none := by decide
    rw [List.mem_append] at member
    rw [bne_iff_ne]
    intro same
    rw [same] at member
    rcases member with start | digit
    · exact absurd start (by decide)
    · exact Ostream.not_mem_leftpad_hexDigits foreign _ _ digit
  have cells := readCells_cells R (bytes.drop (k * R)) (asciiText R showAscii bytes k)
  unfold readLine hexLine
  rw [List.append_assoc, List.append_assoc (_ ++ _), List.dropWhile_append_of_pos before]
  simpa [List.getElem?_drop, rowBytes] using cells

theorem columnChar_ne_newline (byte : UInt8) : columnChar byte ≠ '\n' := by
  unfold columnChar
  split
  next printable =>
    have valid : byte.toNat.isValidChar := .inl (by omega)
    intro same
    rw [Char.ofNat, dif_pos valid] at same
    have code : byte.toNat = 10 := congrArg Char.toNat same
    omega
  next => decide

theorem newline_not_mem_cellText (byte : Option UInt8) : '\n' ∉ cellText byte := by
  have digit : ∀ n < 16, '\n' ≠ Nat.digitChar n := by decide
  cases byte with
  | none => decide
  | some byte =>
      have small : byte.toNat < 256 := byte.toNat_lt
      have high := digit (byte.toNat / 16) (by omega)
      have low := digit (byte.toNat % 16) (by omega)
      simp [cellText, high, low]

/-- No line contains an end of line. -/
theorem newline_not_mem_hexLine (R : Nat) (showAscii : Bool) (bytes : List UInt8) (k : Nat) :
    '\n' ∉ hexLine R showAscii bytes k := by
  have offset : '\n' ∉ (hexDigits (k * R)).leftpad 6 '0' :=
    Ostream.not_mem_leftpad_hexDigits (by decide) _ _
  have column : '\n' ∉ asciiText R showAscii bytes k := by
    unfold asciiText
    cases showAscii with
    | false => simp
    | true => simp [columnChar_ne_newline]
  unfold hexLine
  simp only [List.mem_append, List.mem_flatMap, List.mem_cons, not_or, not_exists, not_and]
  exact ⟨⟨⟨⟨by decide, offset⟩, by decide⟩, fun j _ => newline_not_mem_cellText _⟩, by decide, column⟩

theorem newline_not_mem_hexLines {R : Nat} {showAscii : Bool} {bytes : List UInt8} {line : List Char}
    (member : line ∈ hexLines R showAscii bytes) : '\n' ∉ line := by
  obtain ⟨k, _, rfl⟩ := List.mem_map.1 member
  exact newline_not_mem_hexLine R showAscii bytes k

theorem readDump_hexLines {R : Nat} (positive : 0 < R) (showAscii : Bool) (bytes : List UInt8) :
    readDump (Lines.join '\n' (hexLines R showAscii bytes)) = bytes := by
  have clean : ∀ line ∈ hexLines R showAscii bytes, '\n' ∉ line :=
    fun _ member => newline_not_mem_hexLines member
  have enough : bytes.length ≤ bytes.length ⌈/⌉ R * R := by
    rw [Nat.mul_comm]
    exact (ceilDiv_le_iff_le_mul positive).1 le_rfl
  rw [readDump, Lines.split_join clean, hexLines, List.flatMap_map]
  simp only [readLine_hexLine]
  exact flatMap_rowBytes enough

namespace CustomHexdump

variable {R : Nat} {showAscii : Bool}

theorem data_ofBuffer {bytes : List UInt8} (short : bytes.length < 2 ^ 32) :
    (ofBuffer R showAscii bytes).data = bytes := by
  have size : (UInt32.ofNat bytes.length).toNat = bytes.length := UInt32.toNat_ofNat_of_lt short
  calc (ofBuffer R showAscii bytes).data
      = bytes.take (UInt32.ofNat bytes.length).toNat := rfl
    _ = bytes := by rw [size, List.take_length]

/-- What the operator writes, when all its rows fit. -/
theorem print_eq (dump : CustomHexdump R showAscii) (positive : 0 < R) (fits : dump.Fits)
    {out : Ostream} (plain : out.width = 0) :
    ∃ out', dump.print out = .ok out' ∧
      out'.text = out.text ++ Lines.join '\n' (hexLines R showAscii dump.data) ∧ out'.width = 0 := by
  have ready : ZeroFilled (out.setFill '0') := ⟨rfl, plain⟩
  have enough : dump.data.length ≤ dump.length.toNat := by rw [dump.data_length]
  obtain ⟨text, last⟩ :=
    Put.foldl_write ready ((List.range (dump.data.length ⌈/⌉ R)).flatMap (rowPuts R showAscii dump.data))
  refine ⟨_, ?_, ?_, last.width⟩
  · rw [print, dump.puts_eq positive fits enough, ok_bind]
    rfl
  · have rows : ∀ k ∈ List.range (dump.data.length ⌈/⌉ R),
        (rowPuts R showAscii dump.data k).flatMap Put.text =
          hexLine R showAscii dump.data k ++ ['\n'] := by
      intro k member
      have more := (dump.row_begins positive).1 (List.mem_range.1 member)
      have ends := fits k more
      rw [Nat.succ_mul] at ends
      exact text_rowPuts showAscii dump.data (by omega)
    rw [text, List.flatMap_assoc, Lines.join, hexLines, List.flatMap_map, List.flatMap_congr rows]
    simp

/-- Buffers that leave room for one more row below `2^31` bytes. -/
theorem fits_ofBuffer {bytes : List UInt8} (short : bytes.length + R < 2 ^ 31) :
    (ofBuffer R showAscii bytes).Fits := by
  intro k more
  rw [data_ofBuffer (by omega)] at more
  rw [Nat.succ_mul]
  omega

end CustomHexdump

/-- For every row size from 1 on, with the ASCII column or without it, and every buffer that leaves room
    for one more row below `2^31` bytes, the dump appends its lines to whatever the stream holds, in
    whatever base and with whatever fill character earlier output has left. There are as many lines as
    rows, the ASCII column is as long as the row, and the bytes can be read back from the lines. -/
theorem hexdump_read_back {R : Nat} (positive : 0 < R) (showAscii : Bool) {bytes : List UInt8}
    (short : bytes.length + R < 2 ^ 31) {out : Ostream} (plain : out.width = 0) :
    (∃ out', (CustomHexdump.ofBuffer R showAscii bytes).print out = .ok out' ∧
      out'.text = out.text ++ Lines.join '\n' (hexLines R showAscii bytes) ∧ out'.width = 0) ∧
    (hexLines R showAscii bytes).length = bytes.length ⌈/⌉ R ∧
    (∀ line ∈ hexLines R showAscii bytes, '\n' ∉ line) ∧
    (∀ k, (rowBytes R bytes k).length = min R (bytes.length - k * R)) ∧
    readDump (Lines.join '\n' (hexLines R showAscii bytes)) = bytes := by
  have whole : (CustomHexdump.ofBuffer R showAscii bytes).data = bytes :=
    CustomHexdump.data_ofBuffer (by omega)
  have fits : (CustomHexdump.ofBuffer R showAscii bytes).Fits := CustomHexdump.fits_ofBuffer short
  have printed := CustomHexdump.print_eq _ positive fits plain
  rw [whole] at printed
  refine ⟨printed, by simp [hexLines], fun _ member => newline_not_mem_hexLines member, ?_,
    readDump_hexLines positive showAscii bytes⟩
  intro k
  simp [rowBytes]

/-- Three bytes in rows of two, on a stream that is already in base 16. -/
theorem threeBytes_read_back :
    ∃ out', (CustomHexdump.ofBuffer 2 true [0x41, 0x0a, 0xff]).print { base := .hex } = .ok out' ∧
      out'.text = "0x000000: 41 0a  A.\n0x000002: ff     .\n".toList ∧
      readDump out'.text = [0x41, 0x0a, 0xff] := by
  have short : ([0x41, 0x0a, 0xff] : List UInt8).length + 2 < 2 ^ 31 := by decide
  have plain : ({ base := .hex } : Ostream).width = 0 := rfl
  obtain ⟨⟨out', printed, text, _⟩, _, _, _, back⟩ := hexdump_read_back (by decide) true short plain
  have text : out'.text = Lines.join '\n' (hexLines 2 true [0x41, 0x0a, 0xff]) := by simpa using text
  exact ⟨out', printed, text.trans (by decide), by rw [text, back]⟩

/-! ### Which lengths are safe -/

/-- The index that a cell reads. -/
def Put.index? : Put → Option Int
  | .cell k _ => some k
  | _ => none

/-- The byte that a cell shows. -/
def Put.byte? : Put → Option UInt8
  | .cell _ byte => some byte
  | _ => none

/-- The outer loop ends, with no signed overflow and no index out of range, and the cells show the bytes
    `0, 1, ..., mLength - 1` once each in that order. -/
def Safe {R : Nat} {showAscii : Bool} (dump : CustomHexdump R showAscii) : Prop :=
  ∃ fuel written, dump.puts fuel = .ok written ∧
    written.filterMap Put.index? = (List.range dump.length.toNat).map Int.ofNat ∧
    written.filterMap Put.byte? = dump.data

namespace CustomHexdump

variable {R : Nat} {showAscii : Bool} (dump : CustomHexdump R showAscii)

/-- What the cells of all the rows show, for a view that shows nothing of the other statements. -/
theorem filterMap_rowPuts {β : Type} {view : Put → Option β}
    (cellsOnly : ∀ put, put.byte? = none → view put = none) (bytes : List UInt8) (m : Nat) :
    ((List.range m).flatMap (rowPuts R showAscii bytes)).filterMap view =
      (List.range (m * R)).flatMap fun k => (view (cellPut bytes k)).toList := by
  have columns : ∀ k, ((columnPuts bytes k).flatMap fun put => (view put).toList) = [] := by
    intro k
    unfold columnPuts
    cases bytes[k]? with
    | none => rfl
    | some byte => simp [cellsOnly (.column k byte) rfl]
  have row : ∀ k, ((rowPuts R showAscii bytes k).flatMap fun put => (view put).toList) =
      (List.range R).flatMap fun j => (view (cellPut bytes (k * R + j))).toList := by
    intro k
    unfold rowPuts
    simp only [List.cons_append, List.flatMap_cons, List.flatMap_append, List.flatMap_map,
      cellsOnly (.offset (k * R : Nat)) rfl, cellsOnly .gap rfl, cellsOnly .endl rfl]
    cases showAscii with
    | false => simp
    | true => simp only [if_true, List.flatMap_assoc, columns]; simp
  rw [List.filterMap_eq_flatMap_toList, List.flatMap_assoc,
    ← flatMap_rows R m fun k => (view (cellPut bytes k)).toList]
  simp only [row]

/-- A dump whose rows all fit is safe. -/
theorem safe_of_fits (positive : 0 < R) (fits : dump.Fits) : Safe dump := by
  have covered : dump.data.length ≤ dump.data.length ⌈/⌉ R * R := by
    rw [Nat.mul_comm]
    exact (ceilDiv_le_iff_le_mul positive).1 le_rfl
  have index : ∀ k, (cellPut dump.data k).index? = dump.data[k]?.map fun _ => (k : Int) := by
    intro k
    unfold cellPut
    cases dump.data[k]? <;> rfl
  have byte : ∀ k, (cellPut dump.data k).byte? = dump.data[k]? := by
    intro k
    unfold cellPut
    cases dump.data[k]? <;> rfl
  refine ⟨dump.data.length, _, dump.puts_eq positive fits le_rfl, ?_, ?_⟩
  · rw [filterMap_rowPuts (by intro put none; cases put <;> first | rfl | cases none)]
    simp only [index]
    rw [flatMap_index, min_eq_right covered, dump.data_length]
  · rw [filterMap_rowPuts fun _ none => none]
    simp only [byte]
    rw [flatMap_getElem?, List.take_of_length_le covered]

/-- The row counter before it has wrapped around, and just after. -/
def Wrapping (R : Nat) (s : Int × List Put) : Prop :=
  (R : Int) ∣ s.1 ∧ (0 ≤ s.1 ∧ s.1 < 2 ^ 31 ∨ s.1 = -2 ^ 31)

/-- Once the counter has wrapped around, the first cell reads at a negative index. -/
theorem row_wrapped (positive : 0 < R) (long : 2 ^ 31 < dump.length.toNat) :
    dump.row (-2 ^ 31) = .error .badIndex := by
  have first : dump.hexCell (-2 ^ 31) 0 = .error .badIndex := by
    have index : checked (-2 ^ 31 + (0 : Nat)) = .ok (-2 ^ 31) := checked_of_isInt (by decide)
    have inside : dump.below (-2 ^ 31) = true := by
      have wrapped : toUnsigned (-2 ^ 31) = 2 ^ 31 := by decide
      rw [below, wrapped]
      exact decide_eq_true long
    unfold hexCell
    rw [index, ok_bind, if_pos inside, readAt_of_neg _ (by decide)]
    rfl
  have cells : (List.range R).mapM (dump.hexCell (-2 ^ 31)) = .error .badIndex := by
    have head : List.range R = 0 :: (List.range (R - 1)).map Nat.succ := by
      rw [← List.range_succ_eq_map]
      congr
      omega
    rw [head, List.mapM_cons, first]
    rfl
  unfold row
  rw [cells]
  rfl

/-- A row of a counter that has not wrapped around leads to a counter that is below `2^31`, or has just
    wrapped around. -/
theorem Wrapping.round {s s' : Int × List Put} (positive : 0 < R) (divides : R ∣ 2 ^ 31)
    (long : 2 ^ 31 < dump.length.toNat) (wrapping : Wrapping R s) (step : dump.round s = .ok s') :
    Wrapping R s' := by
  obtain ⟨multiple, range⟩ := wrapping
  obtain ⟨written, row, later⟩ := exists_of_bind step
  obtain rfl := Except.ok.inj later
  rcases range with ⟨least, most⟩ | wrapped
  · have same : (toUnsigned s.1 : Int) = s.1 := toUnsigned_of_nonneg least (by omega)
    have ends : s.1 + R ≤ 2 ^ 31 := by
      have room : (R : Int) ∣ 2 ^ 31 - s.1 := Int.dvd_sub (by exact_mod_cast divides) multiple
      have fits := Int.le_of_dvd (by omega) room
      omega
    have next : (R : Int) ∣ s.1 + R := Int.dvd_add multiple (Int.dvd_refl _)
    unfold Wrapping
    simp only [same]
    by_cases last : s.1 + R = 2 ^ 31
    · have around : toInt (2 ^ 31) = -2 ^ 31 := by decide
      rw [last, around]
      exact ⟨Int.dvd_neg.2 (by exact_mod_cast divides), .inr rfl⟩
    · have inside : toInt (s.1 + R) = s.1 + R := by
        apply toInt_of_isInt
        unfold IsInt
        omega
      rw [inside]
      exact ⟨next, .inl (by omega)⟩
  · rw [wrapped, dump.row_wrapped positive long] at row
    cases row

/-- Past `2^31` bytes the loop never ends: it reads out of range, if it has not overflowed before. -/
theorem puts_ne_ok_of_long (positive : 0 < R) (divides : R ∣ 2 ^ 31)
    (long : 2 ^ 31 < dump.length.toNat) (fuel : Nat) (written : List Put) :
    dump.puts fuel ≠ .ok written := by
  intro returns
  obtain ⟨last, ended, _⟩ := exists_of_bind returns
  refine loop_ne_ok (I := Wrapping R) ?_ ⟨Int.dvd_zero _, .inl (by decide)⟩ last ended
  intro s wrapping
  constructor
  · have small : toUnsigned s.1 ≤ 2 ^ 31 := by
      have range := wrapping.2
      unfold toUnsigned
      omega
    exact decide_eq_true (by omega)
  · intro s' step
    exact wrapping.round dump positive divides long step

theorem not_safe_of_long (positive : 0 < R) (divides : R ∣ 2 ^ 31)
    (long : 2 ^ 31 < dump.length.toNat) : ¬ Safe dump := by
  intro safe
  obtain ⟨fuel, written, returns, _⟩ := safe
  exact dump.puts_ne_ok_of_long positive divides long fuel written returns

/-- When the rows divide `2^31`, all of them fit up to that length. -/
theorem fits_of_short (divides : R ∣ 2 ^ 31) (short : dump.length.toNat ≤ 2 ^ 31) : dump.Fits := by
  intro k more
  rw [dump.data_length] at more
  obtain ⟨rows, whole⟩ := divides
  rw [whole, Nat.mul_comm R]
  apply Nat.mul_le_mul_right
  apply Nat.succ_le_of_lt
  apply Nat.lt_of_mul_lt_mul_right (a := R)
  rw [Nat.mul_comm rows, ← whole]
  omega

/-- The operator returns exactly for dumps of at most `2^31` bytes. -/
theorem print_returns_iff (positive : 0 < R) (divides : R ∣ 2 ^ 31) (out : Ostream) :
    (∃ out', dump.print out = .ok out') ↔ dump.length.toNat ≤ 2 ^ 31 := by
  constructor
  · intro returns
    obtain ⟨_, printed⟩ := returns
    obtain ⟨written, loop, _⟩ := exists_of_bind printed
    apply Nat.le_of_not_lt
    intro long
    exact dump.puts_ne_ok_of_long positive divides long _ written loop
  · intro short
    have all := dump.puts_eq positive (dump.fits_of_short divides short) dump.data_length.le
    exact ⟨_, by rw [print, all, ok_bind]; rfl⟩

/-- A buffer can be dumped exactly when its length, narrowed to 32 bits, is at most `2^31`. -/
theorem print_ofBuffer_returns_iff (positive : 0 < R) (divides : R ∣ 2 ^ 31) (bytes : List UInt8)
    (out : Ostream) :
    (∃ out', (ofBuffer R showAscii bytes).print out = .ok out') ↔ bytes.length % 2 ^ 32 ≤ 2 ^ 31 := by
  have narrowed : (ofBuffer R showAscii bytes).length.toNat = bytes.length % 2 ^ 32 := UInt32.toNat_ofNat'
  rw [(ofBuffer R showAscii bytes).print_returns_iff positive divides, narrowed]

end CustomHexdump

/-- For the row sizes that the program uses, a dump is safe exactly when it has at most `2^31` bytes. -/
theorem hexdump_safe_iff {R : Nat} (used : R ∈ [16, 32, 64]) {showAscii : Bool}
    (dump : CustomHexdump R showAscii) : Safe dump ↔ dump.length.toNat ≤ 2 ^ 31 := by
  have positive : 0 < R := by
    apply Nat.pos_of_ne_zero
    intro zero
    rw [zero] at used
    exact absurd used (by decide)
  have divides : R ∣ 2 ^ 31 := by
    simp only [List.mem_cons, List.not_mem_nil, or_false] at used
    rcases used with rfl | rfl | rfl <;> decide
  constructor
  · intro safe
    apply Nat.le_of_not_lt
    intro long
    exact dump.not_safe_of_long positive divides long safe
  · intro short
    exact dump.safe_of_fits positive (dump.fits_of_short divides short)

/-- Two bytes in rows of 16. -/
theorem twoBytes_safe : Safe (CustomHexdump.ofBuffer 16 true [0x41, 0x42]) :=
  (hexdump_safe_iff (by decide) _).2 (by decide)

/-- A payload of 2 GiB and one byte, in the rows of the dump file. -/
def longDump : CustomHexdump 64 true where
  data := List.replicate (2 ^ 31 + 1) 0
  length := 2147483649
  data_length := List.length_replicate

/-- After `2^31` bytes the operator reads at the index `-2^31`. -/
theorem long_dump_unsafe :
    ¬ (∀ dump : CustomHexdump 64 true, Safe dump) ∧ longDump.row (-2 ^ 31) = .error .badIndex := by
  have long : 2 ^ 31 < longDump.length.toNat := by decide
  constructor
  · intro law
    exact longDump.not_safe_of_long (by decide) (by decide) long (law longDump)
  · exact longDump.row_wrapped (by decide) long

end Dmon
