import Mathlib.Algebra.BigOperators.Group.Finset.Piecewise
import Mathlib.Data.Fintype.Card
import Mathlib.Logic.Function.Basic
import Mathlib.Tactic.Common

/-!
# How many slots of a table are used

The number of slots that meet a predicate, and how it and other sums over the slots change when
one slot is written.
-/

namespace SlotCount

open Finset Function

variable {α : Type*} {slots : ℕ}

theorem sum_update {ι : Type*} [Fintype ι] [DecidableEq ι] (weight : α → ℕ) (table : ι → α)
    (slot : ι) (value : α) :
    ∑ other, weight (update table slot value other) + weight (table slot) =
      ∑ other, weight (table other) + weight value := by
  rw [← add_sum_erase _ _ (mem_univ slot),
    ← add_sum_erase _ (fun other => weight (table other)) (mem_univ slot),
    update_self]
  have others : ∑ other ∈ univ.erase slot,
        weight (update table slot value other) =
      ∑ other ∈ univ.erase slot, weight (table other) := by
    apply sum_congr rfl
    intro other isOther
    rw [update_of_ne (ne_of_mem_erase isOther)]
  rw [others]
  omega

def count (used : α → Prop) [DecidablePred used] (table : Fin slots → α) : ℕ :=
  (Finset.univ.filter fun slot => used (table slot)).card

variable {used : α → Prop} [DecidablePred used] {table : Fin slots → α} {slot : Fin slots}
  {value : α}

theorem count_le (table : Fin slots → α) : count used table ≤ slots := by
  have bound := card_filter_le univ fun slot => used (table slot)
  rwa [card_univ, Fintype.card_fin] at bound

theorem count_eq_zero (notUsed : ∀ slot, ¬used (table slot)) : count used table = 0 := by
  rw [count, card_eq_zero, filter_eq_empty_iff]
  exact fun slot _ => notUsed slot

theorem count_update (used : α → Prop) [DecidablePred used] (table : Fin slots → α)
    (slot : Fin slots) (value : α) :
    count used (update table slot value) + (if used (table slot) then 1 else 0) =
      count used table + (if used value then 1 else 0) := by
  simp only [count, card_filter]
  exact sum_update (fun value => if used value then 1 else 0) table slot value

theorem count_fill (wasUnused : ¬used (table slot)) (isUsed : used value) :
    count used (update table slot value) = count used table + 1 := by
  have counted := count_update used table slot value
  simpa [wasUnused, isUsed] using counted

theorem count_release (wasUsed : used (table slot)) (notUsed : ¬used value) :
    count used (update table slot value) + 1 = count used table := by
  have counted := count_update used table slot value
  simpa [wasUsed, notUsed] using counted

theorem count_same (same : used value ↔ used (table slot)) :
    count used (update table slot value) = count used table := by
  have counted := count_update used table slot value
  simpa [same] using counted

end SlotCount
