/-
Module: Dmon.Proofs.Navigation
Layer: Proofs
Purpose: Navigation in the list of topics. `OnEvent` is one sum or remainder per key followed by a clamp, and
  none of its sums overflows for a list that `int` can hold with room to spare. Repeated arrow keys add up
  until they meet the end of the list, so that a page key is ten of them; repeated Tab keys go round.
Imports: Dmon.Model.LogDisplayer
Trusted boundary: none
Main exports: LogDisplayer.InRange, LogDisplayer.onEvent_eq, LogDisplayer.presses, navigation_coherent
-/
import Dmon.Model.LogDisplayer

namespace Dmon

open Execution

/-- Where a key moves the selection before it is clamped. -/
def Key.target (size selected : Int) : Key → Int
  | .arrowUp => selected - 1
  | .arrowDown => selected + 1
  | .tab => if size = 0 then selected else (selected + 1) % size
  | .tabReverse => if size = 0 then selected else (selected + size - 1) % size
  | .pageUp => selected - 10
  | .pageDown => selected + 10
  | .character c => if c = 'k' then selected - 1 else if c = 'j' then selected + 1 else selected
  | .other => selected

/-- The row nearest to a position, or 0 when there is no row. -/
def clamp (size target : Int) : Int := max 0 (min (size - 1) target)

theorem clamp_range (size target : Int) :
    clamp size target = 0 ∨ 0 ≤ clamp size target ∧ clamp size target < size := by
  unfold clamp
  omega

/-- A row is its own nearest row. -/
theorem clamp_of_range {size s : Int} (nonneg : 0 ≤ size) (range : s = 0 ∨ 0 ≤ s ∧ s < size) :
    clamp size s = s := by
  unfold clamp
  omega

namespace LogDisplayer

/-- Fewer than `2^30` rows, and a selection of one of them or the position after the last. -/
structure Bounded (d : LogDisplayer) : Prop where
  size_nonneg : 0 ≤ d.size
  size_small : d.size < 2 ^ 30
  selected_nonneg : 0 ≤ d.selected
  selected_le : d.selected ≤ d.size

/-- Fewer than `2^30` rows, and a selection of one of them, or 0. -/
structure InRange (d : LogDisplayer) : Prop where
  size_nonneg : 0 ≤ d.size
  size_small : d.size < 2 ^ 30
  selected : d.selected = 0 ∨ 0 ≤ d.selected ∧ d.selected < d.size

/-- The display with another row selected. -/
def select (d : LogDisplayer) (row : Int) : LogDisplayer := { d with selected := row }

theorem InRange.bounded {d : LogDisplayer} (range : d.InRange) : d.Bounded := by
  obtain ⟨nonneg, small, selected⟩ := range
  constructor <;> omega

/-- The sums of a key test do not overflow. -/
theorem moved_eq {d : LogDisplayer} (bounded : d.Bounded) (key : Key) :
    d.moved key = .ok (key.target d.size d.selected) := by
  obtain ⟨nonneg, small, least, most⟩ := bounded
  have fits : ∀ x, -2 ^ 31 ≤ x → x < 2 ^ 31 → checked x = .ok x :=
    fun x low high => checked_of_isInt ⟨low, high⟩
  have up : checked (d.selected - 1) = .ok (d.selected - 1) := fits _ (by omega) (by omega)
  have down : checked (d.selected + 1) = .ok (d.selected + 1) := fits _ (by omega) (by omega)
  unfold moved
  cases key with
  | arrowUp => simp [up, Key.target]
  | arrowDown => simp [down, Key.target]
  | pageUp =>
      have far : checked (d.selected - 10) = .ok (d.selected - 10) := fits _ (by omega) (by omega)
      simp [far, Key.target]
  | pageDown =>
      have far : checked (d.selected + 10) = .ok (d.selected + 10) := fits _ (by omega) (by omega)
      simp [far, Key.target]
  | other => simp [Key.target]
  | character c =>
      by_cases k : c = 'k'
      · simp [k, up, Key.target]
      · by_cases j : c = 'j'
        · simp [j, down, Key.target]
        · simp [k, j, Key.target]
  | tab =>
      by_cases none : d.size = 0
      · simp [none, Key.target]
      · have same : (d.selected + 1).tmod d.size = (d.selected + 1) % d.size :=
          Int.tmod_eq_emod_of_nonneg (by omega)
        simp [none, Key.target, down, same]
  | tabReverse =>
      by_cases none : d.size = 0
      · simp [none, Key.target]
      · have sum : checked (d.selected + d.size) = .ok (d.selected + d.size) :=
          fits _ (by omega) (by omega)
        have back : checked (d.selected + d.size - 1) = .ok (d.selected + d.size - 1) :=
          fits _ (by omega) (by omega)
        have same : (d.selected + d.size - 1).tmod d.size = (d.selected + d.size - 1) % d.size :=
          Int.tmod_eq_emod_of_nonneg (by omega)
        simp [none, Key.target, sum, back, same]

/-- With the focus, a key moves the selection to its clamped target, and nothing overflows. -/
theorem onEvent_eq {d : LogDisplayer} (bounded : d.Bounded) (key : Key) :
    d.onEvent true key =
      .ok (d.select (clamp d.size (key.target d.size d.selected)),
        decide (clamp d.size (key.target d.size d.selected) ≠ d.selected)) := by
  have last : checked (d.size - 1) = .ok (d.size - 1) := by
    obtain ⟨nonneg, small, _, _⟩ := bounded
    apply checked_of_isInt
    unfold IsInt
    omega
  unfold onEvent
  rw [if_neg (by decide), moved_eq bounded, ok_bind, last]
  rfl

/-- Keys pressed one after the other, with the focus. -/
def presses (d : LogDisplayer) : List Key → Except Stuck LogDisplayer
  | [] => .ok d
  | key :: rest => do
      let answered ← d.onEvent true key
      answered.1.presses rest

theorem InRange.press {d : LogDisplayer} (range : d.InRange) (key : Key) :
    (d.select (clamp d.size (key.target d.size d.selected))).InRange := by
  obtain ⟨nonneg, small, _⟩ := range
  exact ⟨nonneg, small, clamp_range _ _⟩

theorem presses_cons {d : LogDisplayer} (range : d.InRange) (key : Key) (rest : List Key) :
    d.presses (key :: rest) = (d.select (clamp d.size (key.target d.size d.selected))).presses rest := by
  rw [presses, onEvent_eq range.bounded, ok_bind]

/-- The rule for a key that is pressed again and again: `after s k` is the selection after `k` presses. -/
theorem presses_replicate {n : Int} {key : Key} {d : LogDisplayer} (after : Int → Nat → Int)
    (zero : ∀ s, s = 0 ∨ 0 ≤ s ∧ s < n → after s 0 = s)
    (succ : ∀ s k, s = 0 ∨ 0 ≤ s ∧ s < n → after (clamp n (key.target n s)) k = after s (k + 1))
    (range : d.InRange) (size : d.size = n) (k : Nat) :
    d.presses (List.replicate k key) = .ok (d.select (after d.selected k)) := by
  induction k generalizing d with
  | zero =>
      have same := zero d.selected (size ▸ range.selected)
      rw [same]
      rfl
  | succ k ih =>
      have next := succ d.selected k (size ▸ range.selected)
      rw [List.replicate_succ, presses_cons range, ih (range.press key) size, ← next, ← size]
      rfl

theorem presses_arrowDown {d : LogDisplayer} (range : d.InRange) (k : Nat) :
    d.presses (List.replicate k .arrowDown) = .ok (d.select (clamp d.size (d.selected + k))) := by
  have nonneg := range.size_nonneg
  apply presses_replicate (n := d.size) (fun s k => clamp d.size (s + k)) _ _ range rfl
  · intro s row
    rw [Int.natCast_zero, Int.add_zero, clamp_of_range nonneg row]
  · intro s k row
    simp only [Key.target, clamp]
    omega

theorem presses_arrowUp {d : LogDisplayer} (range : d.InRange) (k : Nat) :
    d.presses (List.replicate k .arrowUp) = .ok (d.select (clamp d.size (d.selected - k))) := by
  have nonneg := range.size_nonneg
  apply presses_replicate (n := d.size) (fun s k => clamp d.size (s - k)) _ _ range rfl
  · intro s row
    rw [Int.natCast_zero, Int.sub_zero, clamp_of_range nonneg row]
  · intro s k row
    simp only [Key.target, clamp]
    omega

/-- The row that Tab leads to is a row. -/
theorem clamp_emod {n : Int} (positive : 0 < n) (x : Int) : clamp n (x % n) = x % n := by
  apply clamp_of_range (Int.le_of_lt positive)
  exact .inr ⟨Int.emod_nonneg x (Int.ne_of_gt positive), Int.emod_lt_of_pos x positive⟩

/-- Tab goes round the list. -/
theorem presses_tab {d : LogDisplayer} (range : d.InRange) (positive : 0 < d.size) (k : Nat) :
    d.presses (List.replicate k .tab) = .ok (d.select ((d.selected + k) % d.size)) := by
  apply presses_replicate (n := d.size) (fun s k => (s + k) % d.size) _ _ range rfl
  · intro s row
    rw [Int.natCast_zero, Int.add_zero]
    exact Int.emod_eq_of_lt (by omega) (by omega)
  · intro s k row
    rw [Key.target, if_neg (Int.ne_of_gt positive), clamp_emod positive, Int.emod_add_emod]
    congr 1
    omega

/-- Tab and its reverse undo each other. -/
theorem presses_tab_tabReverse {d : LogDisplayer} (range : d.InRange) (positive : 0 < d.size) :
    d.presses [.tab, .tabReverse] = .ok d ∧ d.presses [.tabReverse, .tab] = .ok d := by
  have row := range.selected
  have here : d.selected % d.size = d.selected := Int.emod_eq_of_lt (by omega) (by omega)
  have still : clamp d.size d.selected = d.selected := clamp_of_range (Int.le_of_lt positive) row
  have some : ¬ d.size = 0 := Int.ne_of_gt positive
  constructor
  · have back : ((d.selected + 1) % d.size + d.size - 1) % d.size = d.selected := by
      calc ((d.selected + 1) % d.size + d.size - 1) % d.size
          = ((d.selected + 1) % d.size + (d.size - 1)) % d.size := by rw [Int.add_sub_assoc]
        _ = (d.selected + 1 + (d.size - 1)) % d.size := Int.emod_add_emod _ _ _
        _ = (d.selected + d.size) % d.size := by congr 1; omega
        _ = d.selected := by rw [Int.add_emod_right, here]
    rw [presses_cons range, presses_cons (range.press .tab)]
    simp only [Key.target, select, if_neg some, clamp_emod positive, back, still]
    rfl
  · have back : ((d.selected + d.size - 1) % d.size + 1) % d.size = d.selected := by
      rw [Int.emod_add_emod, Int.sub_add_cancel, Int.add_emod_right, here]
    rw [presses_cons range, presses_cons (range.press .tabReverse)]
    simp only [Key.target, select, if_neg some, clamp_emod positive, back, still]
    rfl

/-- Within one round, Tab leads to the row that many places further on, counting on from the first row
    after the last. -/
theorem wrap {n s : Int} {k : Nat} (row : 0 ≤ s ∧ s < n) (once : k ≤ n) :
    s + k < n ∧ (s + k) % n = s + k ∨ n ≤ s + k ∧ (s + k) % n = s + k - n := by
  by_cases inside : s + k < n
  · exact .inl ⟨inside, Int.emod_eq_of_lt (by omega) inside⟩
  · refine .inr ⟨by omega, ?_⟩
    rw [← Int.sub_emod_right]
    exact Int.emod_eq_of_lt (by omega) (by omega)

/-- In one round each row is reached once. -/
theorem reached_once {n s : Int} (row : 0 ≤ s ∧ s < n) {target : Int} (least : 0 ≤ target)
    (most : target < n) : ∃! k : Nat, (1 ≤ k ∧ k ≤ n.toNat) ∧ (s + k) % n = target := by
  obtain ⟨k, positive, once, there⟩ : ∃ k : Nat, 1 ≤ k ∧ k ≤ n ∧ (s + k = target ∨ s + k = target + n) := by
    by_cases ahead : s < target
    · exact ⟨(target - s).toNat, by omega, by omega, by omega⟩
    · exact ⟨(target - s + n).toNat, by omega, by omega, by omega⟩
  refine ⟨k, ⟨by omega, ?_⟩, ?_⟩
  · have wrapped := wrap row once
    omega
  · intro k' other
    have wrapped := wrap row (k := k') (by omega)
    omega

end LogDisplayer

/-- List navigation, for fewer than `2^30` rows and a selection of one of them, or of 0. Every key keeps the
    selection in that range and is reported exactly when it changes the selection; a page key is ten arrow
    keys; Tab and its reverse undo each other, and as many Tabs as there are rows visit each row once and
    end where they began. No sum overflows. -/
theorem navigation_coherent {d : LogDisplayer} (range : d.InRange) :
    (∀ key, ∃ d' changed, d.onEvent true key = .ok (d', changed) ∧ d'.InRange ∧ d'.size = d.size ∧
      (changed = true ↔ d'.selected ≠ d.selected)) ∧
    (∃ d', d.presses [.pageDown] = .ok d' ∧ d.presses (List.replicate 10 .arrowDown) = .ok d') ∧
    (∃ d', d.presses [.pageUp] = .ok d' ∧ d.presses (List.replicate 10 .arrowUp) = .ok d') ∧
    (0 < d.size →
      d.presses [.tab, .tabReverse] = .ok d ∧ d.presses [.tabReverse, .tab] = .ok d ∧
      d.presses (List.replicate d.size.toNat .tab) = .ok d ∧
      ∀ row, 0 ≤ row → row < d.size →
        ∃! k, (1 ≤ k ∧ k ≤ d.size.toNat) ∧
          d.presses (List.replicate k .tab) = .ok (d.select row)) := by
  obtain ⟨nonneg, small, row⟩ := id range
  refine ⟨?_, ?_, ?_, ?_⟩
  · intro key
    have answered := LogDisplayer.onEvent_eq range.bounded key
    exact ⟨_, _, answered, range.press key, rfl, by simp [LogDisplayer.select]⟩
  · exact ⟨_, LogDisplayer.presses_cons range _ _, LogDisplayer.presses_arrowDown range 10⟩
  · exact ⟨_, LogDisplayer.presses_cons range _ _, LogDisplayer.presses_arrowUp range 10⟩
  · intro positive
    have row : 0 ≤ d.selected ∧ d.selected < d.size := by omega
    obtain ⟨forth, back⟩ := LogDisplayer.presses_tab_tabReverse range positive
    refine ⟨forth, back, ?_, ?_⟩
    · have round := LogDisplayer.wrap row (k := d.size.toNat) (by omega)
      have home : (d.selected + d.size.toNat) % d.size = d.selected := by omega
      rw [LogDisplayer.presses_tab range positive, home]
      rfl
    · intro target least most
      have there : ∀ k, d.presses (List.replicate k .tab) = .ok (d.select target) ↔
          (d.selected + k) % d.size = target := by
        intro k
        rw [LogDisplayer.presses_tab range positive]
        simp [LogDisplayer.select]
      simp only [there]
      exact LogDisplayer.reached_once row least most

/-- A list of three topics, the last of which is selected. -/
theorem threeRows_coherent :
    ({ selected := 2, size := 3 } : LogDisplayer).presses [.tab, .tab, .tab] =
      .ok { selected := 2, size := 3 } := by
  have range : ({ selected := 2, size := 3 } : LogDisplayer).InRange := ⟨by decide, by decide, by decide⟩
  exact ((navigation_coherent range).2.2.2 (by decide)).2.2.1

end Dmon
