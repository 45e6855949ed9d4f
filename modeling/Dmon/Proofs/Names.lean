/-
Module: Dmon.Proofs.Names
Layer: Proofs
Purpose: Which values the name tables are read for. `error2Str` is right for every value. `state2String`
  compares the state with the size of its table as an unsigned value and reads one entry further, so it
  refuses the first enumerator and reads past the end of the table for the value after the last.
Imports: Dmon.Model.Names
Trusted boundary: none
Main exports: StateNamed, ErrorNamed, names_right_iff, names_wrong_at_the_ends
-/
import Dmon.Model.Names

namespace Dmon

open Execution

/-! ### The law -/

/-- `state2String` gives the name of the enumerator equal to the value, and `"????"` when there is none. -/
def StateNamed (st : Int32) : Prop :=
  (∀ e : SessionState, e.value = st.toInt → state2String st = .ok e.name) ∧
    ((∀ e : SessionState, e.value ≠ st.toInt) → state2String st = .ok "????")

/-- `error2Str` gives the entry at the position of the value when the value is an enumerator, which is the
    enumerator's name without its prefix, and `"???"` when it is none. -/
def ErrorNamed (ec : ErrorCode) : Prop :=
  (∀ enumerator, errorEnumerators[ec.toNat]? = some enumerator →
      ∃ name, errorNames[ec.toNat]? = some name ∧ enumerator = "DIFF_ERR_" ++ name ∧
        error2Str ec = .ok name) ∧
    (errorEnumerators[ec.toNat]? = none → error2Str ec = .ok "???")

/-! ### Errors -/

/-- The table has the enumerators' names, in order. -/
theorem errorEnumerators_eq : errorEnumerators = errorNames.map ("DIFF_ERR_" ++ ·) := by
  decide

theorem errorNamed (ec : ErrorCode) : ErrorNamed ec := by
  unfold ErrorNamed
  rw [errorEnumerators_eq, List.getElem?_map]
  cases found : errorNames[ec.toNat]? with
  | none =>
      have outside : errorNames.length ≤ ec.toNat := List.getElem?_eq_none_iff.1 found
      simp [error2Str, outside]
  | some name =>
      obtain ⟨inside, _⟩ := List.getElem?_eq_some_iff.1 found
      have read : error2Str ec = .ok name := by
        rw [error2Str, if_neg (Nat.not_le_of_lt inside)]
        exact readAt_of_getElem? found
      simp [read]

/-! ### States -/

/-- The values that pass both comparisons are 0 to 8: -1 is the largest value of `size_t`. -/
theorem state2String_eq (st : Int32) :
    state2String st =
      if 0 ≤ st.toInt ∧ st.toInt ≤ 8 then readAt stateNames (st.toInt + 1) else .ok "????" := by
  have least : -2 ^ 31 ≤ st.toInt := st.minValue_le_toInt
  have most : st.toInt < 2 ^ 31 := st.toInt_lt
  have size : stateNames.length - 1 = 8 := rfl
  unfold state2String
  rw [size]
  by_cases inside : 0 ≤ st.toInt ∧ st.toInt ≤ 8
  · have passes : ¬ (st.toInt < -1 ∨ 8 < toSize st.toInt) := by
      unfold toSize
      omega
    have fits : IsInt (st.toInt + 1) := by
      unfold IsInt
      omega
    rw [if_neg passes, if_pos inside, checked_of_isInt fits]
    rfl
  · have refused : st.toInt < -1 ∨ 8 < toSize st.toInt := by
      unfold toSize
      omega
    rw [if_pos refused, if_neg inside]

/-- An enumerator stands at the position after its value. -/
theorem SessionState.readAt_value (e : SessionState) : readAt stateNames (e.value + 1) = .ok e.name := by
  cases e <;> rfl

theorem SessionState.value_range (e : SessionState) : -1 ≤ e.value ∧ e.value ≤ 7 := by
  cases e <;> decide

/-- Every value from -1 to 7 is that of an enumerator. -/
theorem SessionState.exists_of_range {x : Int} (least : -1 ≤ x) (most : x ≤ 7) :
    ∃ e : SessionState, e.value = x := by
  have all : ∀ x ∈ [-1, 0, 1, 2, 3, 4, 5, 6, (7 : Int)], ∃ e : SessionState, e.value = x := by
    intro x member
    simp only [List.mem_cons, List.not_mem_nil, or_false] at member
    rcases member with rfl | rfl | rfl | rfl | rfl | rfl | rfl | rfl | rfl
    exacts [⟨.unknown, rfl⟩, ⟨.connecting, rfl⟩, ⟨.connectedInitialising, rfl⟩,
      ⟨.connectedActive, rfl⟩, ⟨.recoveringReconnect, rfl⟩, ⟨.recoveringFailover, rfl⟩,
      ⟨.closedByClient, rfl⟩, ⟨.closedByServer, rfl⟩, ⟨.closedFailed, rfl⟩]
  apply all
  simp only [List.mem_cons, List.not_mem_nil, or_false]
  omega

theorem stateNamed_iff (st : Int32) : StateNamed st ↔ st.toInt ≠ -1 ∧ st.toInt ≠ 8 := by
  unfold StateNamed
  rw [state2String_eq]
  constructor
  · intro named
    constructor
    · intro first
      have refused := named.1 .unknown first.symm
      rw [first] at refused
      exact absurd refused (by decide)
    · intro last
      have none : ∀ e : SessionState, e.value ≠ st.toInt := by
        intro e same
        have range := e.value_range
        omega
      have past := named.2 none
      rw [last] at past
      exact absurd past (by decide)
  · intro inside
    constructor
    · intro e same
      have range := e.value_range
      rw [if_pos (by omega), ← same]
      exact e.readAt_value
    · intro none
      apply if_neg
      intro admitted
      obtain ⟨e, same⟩ := SessionState.exists_of_range (x := st.toInt) (by omega) (by omega)
      exact none e same

/-- The name tables are never read out of range and name the right code, for every state and every error
    code, exactly when the state is neither -1, the first enumerator, nor 8, the value after the last. -/
theorem names_right_iff (st : Int32) (ec : ErrorCode) :
    StateNamed st ∧ ErrorNamed ec ↔ st ≠ -1 ∧ st ≠ 8 := by
  have first : st ≠ -1 ↔ st.toInt ≠ -1 := not_congr Int32.toInt_inj.symm
  have last : st ≠ 8 ↔ st.toInt ≠ 8 := not_congr Int32.toInt_inj.symm
  rw [first, last, ← stateNamed_iff]
  exact and_iff_left (errorNamed ec)

/-- The two values at which the law fails: -1 has a name and gets none, and 8 reads past the table. -/
theorem names_wrong_at_the_ends :
    ¬ (∀ st : Int32, StateNamed st) ∧
      state2String (-1) = .ok "????" ∧ state2String 8 = .error .badIndex := by
  refine ⟨?_, by decide, by decide⟩
  intro law
  have first := (stateNamed_iff (-1)).1 (law (-1))
  exact first.1 rfl

end Dmon
