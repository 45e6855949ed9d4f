/-
Module: Dmon.Model.Hexdump
Layer: Model
Purpose: `CustomHexdump` of data/hexdump.h and its output operator. The loops run on `int` counters that are
  advanced and compared through `unsigned`, and may get stuck; what they would write is collected first, as
  a list of output statements, and written to a stream afterwards. `std::isprint` is that of the C locale.
Imports: Dmon.Lib.Execution, Dmon.Lib.Ostream
Trusted boundary: none
Main exports: CustomHexdump, Put, CustomHexdump.puts, CustomHexdump.print
-/
import Dmon.Lib.Execution
import Dmon.Lib.Ostream

namespace Dmon

open Execution

/-- `CustomHexdump<RowSize, ShowAscii>`, with the `mLength` bytes that `mData` points to. -/
structure CustomHexdump (rowSize : Nat) (showAscii : Bool) where
  data : List UInt8
  length : UInt32
  data_length : data.length = length.toNat

/-- `CustomHexdump<...>(&buffer[0], buffer.size())`: the size is narrowed to `unsigned`. -/
def CustomHexdump.ofBuffer (rowSize : Nat) (showAscii : Bool) (buffer : List UInt8) :
    CustomHexdump rowSize showAscii where
  data := buffer.take (UInt32.ofNat buffer.length).toNat
  length := UInt32.ofNat buffer.length
  data_length := by
    have narrowed : (UInt32.ofNat buffer.length).toNat ≤ buffer.length := by
      rw [UInt32.toNat_ofNat']
      exact Nat.mod_le _ _
    exact List.length_take_of_le narrowed

/-- `std::isprint` in the C locale. -/
def isprint (byte : UInt8) : Bool := 0x20 ≤ byte && byte ≤ 0x7e

/-- The character of a byte in the ASCII column. -/
def glyph (byte : UInt8) : Char := if isprint byte then Char.ofNat byte.toNat else '.'

/-- One of the output statements of the operator, with what it writes; `k` is the index of the byte. -/
inductive Put where
  /-- `"0x" << std::setw(6) << std::hex << i << ": "`. -/
  | offset (i : Int)
  /-- `std::hex << std::setw(2) << static_cast<int>(dump.mData[k]) << " "`. -/
  | cell (k : Int) (byte : UInt8)
  /-- `"   "`. -/
  | blank
  /-- `" "`. -/
  | gap
  /-- `static_cast<char>(dump.mData[k])`, or `"."`. -/
  | column (k : Int) (byte : UInt8)
  /-- `std::endl`. -/
  | endl
deriving DecidableEq, Repr

/-- What the statement does to the stream. -/
def Put.write (out : Ostream) : Put → Ostream
  | .offset i => ((((out.insertString "0x").setw 6).hex).insertInt i).insertString ": "
  | .cell _ byte => ((out.hex.setw 2).insertInt byte.toNat).insertString " "
  | .blank => out.insertString "   "
  | .gap => out.insertString " "
  | .column _ byte => out.insert [glyph byte]
  | .endl => out.endl

namespace CustomHexdump

variable {rowSize : Nat} {showAscii : Bool} (dump : CustomHexdump rowSize showAscii)

/-- `i < dump.mLength`: the `int` is converted to `unsigned`. -/
def below (i : Int) : Bool := toUnsigned i < dump.length.toNat

/-- The body of the first inner loop. -/
def hexCell (i : Int) (j : Nat) : Except Stuck Put := do
  let k ← checked (i + j)
  if dump.below k then
    let byte ← readAt dump.data k
    return .cell k byte
  else
    return .blank

/-- The body of the second inner loop. -/
def asciiCell (i : Int) (j : Nat) : Except Stuck (List Put) := do
  let k ← checked (i + j)
  if dump.below k then
    let byte ← readAt dump.data k
    return [.column k byte]
  else
    return []

/-- The body of the outer loop. The inner loops count to `RowSize` with an `int`, so a row size of `2^31` or
    more is not modelled. -/
def row (i : Int) : Except Stuck (List Put) := do
  let cells ← (List.range rowSize).mapM (dump.hexCell i)
  let columns ← if showAscii then (List.range rowSize).mapM (dump.asciiCell i) else .ok []
  return .offset i :: cells ++ .gap :: columns.flatten ++ [.endl]

/-- The body followed by `i += RowSize`, which adds as `unsigned` and converts back to `int`. -/
def round (s : Int × List Put) : Except Stuck (Int × List Put) := do
  let written ← dump.row s.1
  return (toInt (toUnsigned s.1 + rowSize), s.2 ++ written)

/-- The outer loop, with fuel for that many rows: the statements that it executes. -/
def puts (fuel : Nat) : Except Stuck (List Put) := do
  let s ← loop (fun s => dump.below s.1) dump.round fuel (0, [])
  return s.2

/-- `out << dump`. There are at most as many rows as bytes. -/
def print (out : Ostream) : Except Stuck Ostream := do
  let written ← dump.puts dump.length.toNat
  return written.foldl Put.write (out.setFill '0')

end CustomHexdump

end Dmon
