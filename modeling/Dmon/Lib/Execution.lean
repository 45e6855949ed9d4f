/-
Module: Dmon.Lib.Execution
Layer: Lib
Purpose: What a program in C does with 32-bit `int` and `unsigned` values and with loops. A signed result that
  does not fit is undefined, the conversions between the integer types are modular, and a loop is given
  fuel, so that it may end, get stuck or still be running when the fuel is used up. The rules for loops
  are total correctness by an invariant and a rank, and the two ways in which a loop never returns a value.
Imports: Mathlib.Algebra.Group.Int.Defs
Trusted boundary: none
Main exports: Execution.Stuck, Execution.checked, Execution.toUnsigned, Execution.toInt, Execution.toSize,
  Execution.readAt, Execution.loop, Execution.loop_total, Execution.loop_ne_ok
-/
import Mathlib.Algebra.Group.Int.Defs

namespace Execution

/-- What keeps an execution from returning a value. -/
inductive Stuck where
  | signedOverflow
  | badIndex
  /-- A loop has not ended within its fuel. -/
  | outOfFuel
deriving DecidableEq, Repr

/-! ### Integers -/

/-- The range of `int`. -/
def IsInt (x : Int) : Prop := -2 ^ 31 ≤ x ∧ x < 2 ^ 31

instance (x : Int) : Decidable (IsInt x) :=
  inferInstanceAs (Decidable (-2 ^ 31 ≤ x ∧ x < 2 ^ 31))

/-- The result of signed arithmetic, which is undefined unless it fits. -/
def checked (x : Int) : Except Stuck Int :=
  if IsInt x then .ok x else .error .signedOverflow

/-- Conversion to `unsigned`. -/
def toUnsigned (x : Int) : Nat := (x % 2 ^ 32).toNat

/-- Conversion to a 64-bit `size_t`. -/
def toSize (x : Int) : Nat := (x % 2 ^ 64).toNat

/-- Conversion to `int`. -/
def toInt (x : Int) : Int :=
  if x % 2 ^ 32 < 2 ^ 31 then x % 2 ^ 32 else x % 2 ^ 32 - 2 ^ 32

/-- `table[k]` for an `int` or wider index. -/
def readAt {α : Type*} (table : List α) (k : Int) : Except Stuck α :=
  if k < 0 then .error .badIndex
  else
    match table[k.toNat]? with
    | some entry => .ok entry
    | none => .error .badIndex

theorem checked_of_isInt {x : Int} (fits : IsInt x) : checked x = .ok x :=
  if_pos fits

/-- Signed arithmetic that returns gives its mathematical result. -/
theorem eq_of_checked {x y : Int} (returns : checked x = .ok y) : y = x := by
  unfold checked at returns
  split at returns
  · exact (Except.ok.inj returns).symm
  · cases returns

theorem toUnsigned_of_nonneg {x : Int} (nonneg : 0 ≤ x) (small : x < 2 ^ 32) :
    (toUnsigned x : Int) = x := by
  unfold toUnsigned
  omega

theorem toSize_of_nonneg {x : Int} (nonneg : 0 ≤ x) (small : x < 2 ^ 64) : (toSize x : Int) = x := by
  unfold toSize
  omega

theorem toInt_of_isInt {x : Int} (fits : IsInt x) : toInt x = x := by
  unfold IsInt at fits
  unfold toInt
  split <;> omega

/-- Converting to `int` and back to `unsigned` gives a value that was `unsigned` to begin with. -/
theorem toUnsigned_toInt {x : Int} (nonneg : 0 ≤ x) (small : x < 2 ^ 32) :
    (toUnsigned (toInt x) : Int) = x := by
  unfold toUnsigned toInt
  split <;> omega

theorem readAt_of_getElem? {α : Type*} {table : List α} {k : Nat} {entry : α}
    (found : table[k]? = some entry) : readAt table k = .ok entry := by
  simp [readAt, found]

theorem readAt_of_neg {α : Type*} (table : List α) {k : Int} (negative : k < 0) :
    readAt table k = .error .badIndex :=
  if_pos negative

/-- A step that returns hands its value on. -/
@[simp] theorem ok_bind {α β : Type} (a : α) (f : α → Except Stuck β) : (Except.ok a >>= f) = f a :=
  rfl

/-- A sequence that returns goes through what its first step returns. -/
theorem exists_of_bind {α β : Type} {x : Except Stuck α} {f : α → Except Stuck β} {b : β}
    (returns : (x >>= f) = .ok b) : ∃ a, x = .ok a ∧ f a = .ok b := by
  cases x with
  | error stuck => cases returns
  | ok a => exact ⟨a, rfl, returns⟩

theorem exists_of_map {α β : Type} {x : Except Stuck α} {f : α → β} {b : β} (returns : x.map f = .ok b) :
    ∃ a, x = .ok a ∧ f a = b := by
  cases x with
  | error stuck => cases returns
  | ok a => exact ⟨a, rfl, Except.ok.inj returns⟩

theorem toOption_eq_some {α : Type} {x : Except Stuck α} {a : α} : x.toOption = some a ↔ x = .ok a := by
  cases x <;> simp [Except.toOption]

/-- A list of steps none of which gets stuck. -/
theorem mapM_ok {α β : Type*} {f : α → Except Stuck β} {g : α → β} {items : List α}
    (each : ∀ item ∈ items, f item = .ok (g item)) : items.mapM f = .ok (items.map g) := by
  induction items with
  | nil => rfl
  | cons item rest ih =>
      have later := ih fun item member => each item (by simp [member])
      rw [List.mapM_cons, each item (by simp), later]
      rfl

/-! ### Loops -/

section Loop

variable {σ : Type*} {guard : σ → Bool} {body : σ → Except Stuck σ} {I : σ → Prop} {rank : σ → Nat}

/-- `while (guard) body`, with fuel for that many rounds. -/
def loop (guard : σ → Bool) (body : σ → Except Stuck σ) : Nat → σ → Except Stuck σ
  | 0, s => if guard s then .error .outOfFuel else .ok s
  | fuel + 1, s => if guard s then body s >>= loop guard body fuel else .ok s

/-- Total correctness: the body keeps the invariant and lowers the rank, so the loop ends with the
    invariant and a false guard. -/
theorem loop_total
    (keep : ∀ s, I s → guard s = true → ∃ s', body s = .ok s' ∧ I s' ∧ rank s' < rank s)
    {fuel : Nat} {s : σ} (start : I s) (enough : rank s ≤ fuel) :
    ∃ s', loop guard body fuel s = .ok s' ∧ I s' ∧ guard s' = false := by
  induction fuel generalizing s with
  | zero =>
      have ended : guard s = false := by
        apply Bool.eq_false_iff.2
        intro runs
        obtain ⟨s', _, _, lower⟩ := keep s start runs
        omega
      exact ⟨s, by simp [loop, ended], start, ended⟩
  | succ fuel ih =>
      cases runs : guard s with
      | false => exact ⟨s, by simp [loop, runs], start, runs⟩
      | true =>
          obtain ⟨s', step, kept, lower⟩ := keep s start runs
          obtain ⟨last, reached, holds, ended⟩ := ih kept (by omega)
          refine ⟨last, ?_, holds, ended⟩
          rw [loop, if_pos runs, step]
          exact reached

/-- A loop that is never done, because the body keeps an invariant under which the guard is true, returns
    no value: it gets stuck or runs on. -/
theorem loop_ne_ok (forever : ∀ s, I s → guard s = true ∧ ∀ s', body s = .ok s' → I s') {fuel : Nat}
    {s : σ} (start : I s) (last : σ) : loop guard body fuel s ≠ .ok last := by
  induction fuel generalizing s with
  | zero => simp [loop, (forever s start).1]
  | succ fuel ih =>
      obtain ⟨runs, keep⟩ := forever s start
      rw [loop, if_pos runs]
      cases step : body s with
      | error stuck => exact fun returns => by cases returns
      | ok s' => exact ih (keep s' step)

end Loop

end Execution
