/-
Module: Dmon.Lib.Lines
Layer: Lib
Purpose: Reading back a text that has no lengths in it. Items that each end with a separator, and do not
  contain it, are recovered by splitting; blocks of a head and a body, with heads told from bodies by a
  test, are recovered by grouping from the right.
Imports: Mathlib.Data.List.Basic
Trusted boundary: none
Main exports: Lines.join, Lines.split, Lines.split_join, Lines.groups, Lines.groups_flatten,
  Lines.eq_of_append_cons_eq
-/
import Mathlib.Data.List.Basic

namespace Lines

variable {α : Type*}

/-- At the first occurrence of `a` a list splits in one way. -/
theorem eq_of_append_cons_eq {a : α} {xs xs' ys ys' : List α} (fresh : a ∉ xs) (fresh' : a ∉ xs')
    (same : xs ++ a :: ys = xs' ++ a :: ys') : xs = xs' ∧ ys = ys' := by
  induction xs generalizing xs' with
  | nil =>
      cases xs' with
      | nil => simpa using same
      | cons x' rest' =>
          simp only [List.nil_append, List.cons_append, List.cons.injEq] at same
          exact absurd same.1 (List.ne_of_not_mem_cons fresh')
  | cons x rest ih =>
      cases xs' with
      | nil =>
          simp only [List.nil_append, List.cons_append, List.cons.injEq] at same
          exact absurd same.1.symm (List.ne_of_not_mem_cons fresh)
      | cons x' rest' =>
          simp only [List.cons_append, List.cons.injEq] at same
          obtain ⟨rfl, tails⟩ := same
          obtain ⟨rfl, rfl⟩ :=
            ih (List.not_mem_of_not_mem_cons fresh) (List.not_mem_of_not_mem_cons fresh') tails
          exact ⟨rfl, rfl⟩

/-! ### Items with an end mark -/

section Join

variable [BEq α] [LawfulBEq α] {sep : α} {items : List (List α)}

omit [BEq α] [LawfulBEq α] in
/-- Every item is followed by the separator. -/
def join (sep : α) (items : List (List α)) : List α :=
  items.flatMap fun item => item ++ [sep]

omit [BEq α] [LawfulBEq α] in
@[simp] theorem join_cons (item : List α) (rest : List (List α)) :
    join sep (item :: rest) = item ++ sep :: join sep rest := by
  simp [join]

omit [BEq α] [LawfulBEq α] in
@[simp] theorem join_append (first second : List (List α)) :
    join sep (first ++ second) = join sep first ++ join sep second :=
  List.flatMap_append

/-- What precedes each separator. -/
def split (sep : α) (text : List α) : List (List α) :=
  (text.splitOn sep).dropLast

/-- Splitting a joined text gives back the items. -/
theorem split_join (clean : ∀ item ∈ items, sep ∉ item) : split sep (join sep items) = items := by
  have whole : (join sep items).splitOn sep = items ++ [[]] := by
    induction items with
    | nil => rfl
    | cons item rest ih =>
        have here : sep ∉ item := clean item (by simp)
        have later : (join sep rest).splitOn sep = rest ++ [[]] :=
          ih fun item member => clean item (by simp [member])
        calc (join sep (item :: rest)).splitOn sep
            = (item ++ sep :: join sep rest).splitOn sep := by rw [join_cons]
          _ = item :: (join sep rest).splitOn sep := List.splitOn_append_cons_self_of_not_mem here _
          _ = (item :: rest) ++ [[]] := by rw [later, List.cons_append]
  rw [split, whole, List.dropLast_concat]

end Join

/-! ### Blocks -/

section Groups

variable {isHead : α → Bool} {blocks : List (α × List α)}

/-- A block written out: its head and then its body. -/
def flatten (blocks : List (α × List α)) : List α :=
  blocks.flatMap fun block => block.1 :: block.2

@[simp] theorem flatten_cons (block : α × List α) (rest : List (α × List α)) :
    flatten (block :: rest) = block.1 :: (block.2 ++ flatten rest) := by
  simp [flatten]

/-- The items before the first head, and the blocks from there on. -/
def groups (isHead : α → Bool) : List α → List α × List (α × List α)
  | [] => ([], [])
  | item :: rest =>
      if isHead item then ([], (item, (groups isHead rest).1) :: (groups isHead rest).2)
      else (item :: (groups isHead rest).1, (groups isHead rest).2)

theorem groups_body {body rest : List α} (bodies : ∀ item ∈ body, isHead item = false) :
    groups isHead (body ++ rest) =
      (body ++ (groups isHead rest).1, (groups isHead rest).2) := by
  induction body with
  | nil => rfl
  | cons item body ih =>
      have later := ih fun item member => bodies item (by simp [member])
      simp [groups, bodies item (by simp), later]

/-- Grouping gives back the blocks of a text. -/
theorem groups_flatten (heads : ∀ block ∈ blocks, isHead block.1 = true)
    (bodies : ∀ block ∈ blocks, ∀ item ∈ block.2, isHead item = false) :
    groups isHead (flatten blocks) = ([], blocks) := by
  induction blocks with
  | nil => rfl
  | cons block rest ih =>
      have later : groups isHead (flatten rest) = ([], rest) :=
        ih (fun block member => heads block (by simp [member]))
          (fun block member => bodies block (by simp [member]))
      rw [flatten_cons, groups, if_pos (heads block (by simp)), groups_body (bodies block (by simp)), later]
      simp

end Groups

end Lines
