/-
Module: Dmon.Lib.Ostream
Layer: Lib
Purpose: The formatted output of a C++ stream, as far as integers and strings go: a base and a fill character
  that stay until they are changed, and a field width that the next formatted insertion uses up. Output
  is right-adjusted, which is the default. With no width set, what an insertion writes depends on neither
  the fill character nor, for strings, the base.
Imports: Dmon.Lib.Execution
Trusted boundary: none
Main exports: Ostream, Ostream.insert, Ostream.insertInt, Ostream.hexDigits, Ostream.digits_hex,
  Ostream.not_mem_leftpad_hexDigits, Ostream.hexValue_digitChar, Ostream.leftpad_hexDigits
-/
import Dmon.Lib.Execution

open Execution (toUnsigned)

/-- The base in which a stream writes integers. -/
inductive Ostream.Base where
  | dec
  | hex
deriving DecidableEq, Repr

/-- The digits of an `int`: in base 16 it is written as `unsigned`. -/
def Ostream.Base.digits : Ostream.Base → Int → List Char
  | .dec, .ofNat n => Nat.toDigits 10 n
  | .dec, .negSucc n => '-' :: Nat.toDigits 10 (n + 1)
  | .hex, x => Nat.toDigits 16 (toUnsigned x)

/-- An output stream: the characters written so far and the format flags. -/
structure Ostream where
  text : List Char := []
  base : Ostream.Base := .dec
  fill : Char := ' '
  width : Nat := 0
deriving DecidableEq, Repr

namespace Ostream

/-- A formatted insertion: the characters are padded to the field width, which is reset. -/
def insert (out : Ostream) (chars : List Char) : Ostream :=
  { out with text := out.text ++ chars.leftpad out.width out.fill, width := 0 }

/-- `out << "..."`. -/
@[simp] def insertString (out : Ostream) (s : String) : Ostream := out.insert s.toList

/-- `out << n` for an `int`. -/
@[simp] def insertInt (out : Ostream) (n : Int) : Ostream := out.insert (out.base.digits n)

/-- `out << std::setw(n)`. -/
@[simp] def setw (out : Ostream) (n : Nat) : Ostream := { out with width := n }

/-- `out << std::hex`. -/
@[simp] def hex (out : Ostream) : Ostream := { out with base := .hex }

/-- `out.fill(c)`. -/
@[simp] def setFill (out : Ostream) (c : Char) : Ostream := { out with fill := c }

/-- `out << std::endl`: the newline is not a formatted insertion. -/
@[simp] def endl (out : Ostream) : Ostream := { out with text := out.text ++ ['\n'] }

@[simp] theorem text_insert (out : Ostream) (chars : List Char) :
    (out.insert chars).text = out.text ++ chars.leftpad out.width out.fill := rfl

@[simp] theorem width_insert (out : Ostream) (chars : List Char) : (out.insert chars).width = 0 := rfl

@[simp] theorem fill_insert (out : Ostream) (chars : List Char) :
    (out.insert chars).fill = out.fill := rfl

/-- With no field width set, the characters are written as they are. -/
@[simp] theorem leftpad_zero (chars : List Char) (c : Char) : chars.leftpad 0 c = chars := by
  simp [List.leftpad]

/-! ### Hexadecimal digits -/

/-- The digits in base 16. -/
def hexDigits (n : Nat) : List Char := Nat.toDigits 16 n

theorem digits_hex (x : Int) : Base.hex.digits x = hexDigits (toUnsigned x) := by
  cases x <;> rfl

/-- The value of a hexadecimal digit. -/
def hexValue? (c : Char) : Option Nat :=
  (List.range 16).find? fun n => Nat.digitChar n == c

theorem hexValue_digitChar {n : Nat} (small : n < 16) : hexValue? (Nat.digitChar n) = some n := by
  have all : ∀ n < 16, hexValue? (Nat.digitChar n) = some n := by decide
  exact all n small

/-- A character that is not a digit does not occur among the digits of a number. -/
theorem not_mem_hexDigits {c : Char} (foreign : hexValue? c = none) (n : Nat) : c ∉ hexDigits n := by
  have other : ∀ n < 16, c ≠ Nat.digitChar n := by
    intro n small same
    rw [same, hexValue_digitChar small] at foreign
    cases foreign
  induction n using Nat.strongRecOn with
  | ind n ih =>
      unfold hexDigits
      rw [Nat.toDigits_eq_if (by omega)]
      split
      next small => simpa using other n small
      next large =>
        have earlier : c ∉ Nat.toDigits 16 (n / 16) := ih (n / 16) (by omega)
        have last := other (n % 16) (by omega)
        simpa [last] using earlier

/-- Nor does it when the digits are padded with zeros. -/
theorem not_mem_leftpad_hexDigits {c : Char} (foreign : hexValue? c = none) (width n : Nat) :
    c ∉ (hexDigits n).leftpad width '0' := by
  have zero : c ≠ '0' := by
    intro same
    rw [same] at foreign
    exact absurd foreign (by decide)
  simp [List.leftpad, zero, not_mem_hexDigits foreign n]

/-- A number below 256 has at most two digits; padded to two, they are those of its quotient and its
    remainder by 16. -/
theorem leftpad_hexDigits {n : Nat} (small : n < 256) :
    (hexDigits n).leftpad 2 '0' = [Nat.digitChar (n / 16), Nat.digitChar (n % 16)] := by
  unfold hexDigits
  by_cases short : n < 16
  · rw [Nat.toDigits_of_lt_base short, Nat.div_eq_of_lt short, Nat.mod_eq_of_lt short]
    rfl
  · rw [Nat.toDigits_of_base_le (by omega) (by omega), Nat.toDigits_of_lt_base (by omega)]
    rfl

end Ostream
