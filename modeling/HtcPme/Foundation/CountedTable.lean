import Mathlib.Data.List.Basic
import Mathlib.Logic.Function.Basic
import Mathlib.Tactic.Common

/-!
# Tables with a count

An array whose used entries are the first ones, with their number kept beside it.
-/

structure CountedTable (α : Type*) where
  entry : ℕ → Option α
  num : ℕ

namespace CountedTable

open List

variable {α : Type*} {table : CountedTable α} {list : List α}

structure Lists (table : CountedTable α) (list : List α) : Prop where
  num : table.num = list.length
  entry : ∀ pos < list.length, table.entry pos = list[pos]?

def put (table : CountedTable α) : ℕ → List α → CountedTable α
  | _, [] => table
  | pos, first :: rest =>
      put ⟨Function.update table.entry pos (some first), table.num + 1⟩ (pos + 1) rest

def Inside (size : ℕ) (table : CountedTable α) : Prop :=
  ∀ pos, (table.entry pos).isSome → pos < size

def cut (table : CountedTable α) (num : ℕ) : CountedTable α :=
  ⟨fun pos => if pos < num then table.entry pos else none, num⟩

theorem Lists.putOne (lists : table.Lists list) (new : α) :
    Lists ⟨Function.update table.entry list.length (some new), table.num + 1⟩ (list ++ [new]) where
  num := by simp [lists.num]
  entry pos within := by
    by_cases last : pos = list.length
    · simp [last]
    · have before : pos < list.length := by
        simp only [length_append, length_singleton] at within
        omega
      simp [last, lists.entry pos before, getElem?_append_left before]

theorem Lists.put (lists : table.Lists list) (new : List α) :
    (table.put list.length new).Lists (list ++ new) := by
  induction new generalizing table list with
  | nil => simpa [CountedTable.put] using lists
  | cons first rest ih => simpa [CountedTable.put] using ih (lists.putOne first)

theorem Lists.setNum {rest : List α} (lists : table.Lists (list ++ rest)) :
    Lists { table with num := list.length } list where
  num := rfl
  entry pos within := by
    have appended := lists.entry pos (by simp; omega)
    exact appended.trans (getElem?_append_left within)

theorem Lists.cut {rest : List α} (lists : table.Lists (list ++ rest)) :
    (table.cut list.length).Lists list where
  num := rfl
  entry pos within := by
    simp only [CountedTable.cut, if_pos within]
    exact lists.setNum.entry pos within

theorem num_put (table : CountedTable α) (pos : ℕ) (list : List α) :
    (table.put pos list).num = table.num + list.length := by
  induction list generalizing table pos with
  | nil => rfl
  | cons first rest ih =>
      rw [put, ih, length_cons, Nat.add_assoc, Nat.add_comm 1]

theorem entry_put (table : CountedTable α) (pos : ℕ) (list : List α) (other : ℕ) :
    (table.put pos list).entry other =
      if pos ≤ other ∧ other < pos + list.length then list[other - pos]? else table.entry
        other := by
  induction list generalizing table pos with
  | nil =>
      rw [if_neg (by simp only [length_nil]; omega)]
      rfl
  | cons first rest ih =>
      rw [put, ih, length_cons]
      by_cases isFirst : other = pos
      · subst isFirst
        rw [if_neg (by omega), if_pos (by omega)]
        simp
      · simp only [Function.update_of_ne isFirst]
        by_cases isBehind : pos + 1 ≤ other ∧ other < pos + 1 + rest.length
        · have isNext : other - pos = other - (pos + 1) + 1 := by omega
          rw [if_pos isBehind, if_pos (by omega), isNext, getElem?_cons_succ]
        · rw [if_neg isBehind, if_neg (by omega)]

theorem inside_put_iff {size : ℕ} {table : CountedTable α} (inside : Inside size table) (pos : ℕ)
    (list : List α) :
    Inside size (table.put pos list) ↔ list = [] ∨ pos + list.length ≤ size := by
  constructor
  · intro isInside
    cases isList : list with
    | nil => exact .inl rfl
    | cons first rest =>
        right
        rw [← isList]
        have isPos : 0 < list.length := by rw [isList]; exact Nat.succ_pos _
        have isLast := isInside (pos + list.length - 1) (by
          rw [entry_put, if_pos (by omega), getElem?_eq_getElem (by omega)]
          rfl)
        omega
  · intro isRoom other isWritten
    rw [entry_put] at isWritten
    split_ifs at isWritten with within
    · rcases isRoom with rfl | isRoom
      · simp only [length_nil] at within
        omega
      · omega
    · exact inside other isWritten

theorem put_append (table : CountedTable α) (pos : ℕ) (list rest : List α) :
    table.put pos (list ++ rest) = (table.put pos list).put (pos + list.length) rest := by
  induction list generalizing table pos with
  | nil => rfl
  | cons first list ih =>
      rw [cons_append, put, ih, put, length_cons, Nat.add_assoc, Nat.add_comm 1]

theorem lists_put_zero_iff (table : CountedTable α) (list : List α) :
    (table.put 0 list).Lists list ↔ table.num = 0 := by
  constructor
  · intro lists
    have counted := lists.num
    rw [num_put] at counted
    omega
  · intro noCount
    refine ⟨by rw [num_put, noCount, Nat.zero_add], fun pos within => ?_⟩
    rw [entry_put, if_pos ⟨Nat.zero_le pos, by omega⟩, Nat.sub_zero]

end CountedTable
