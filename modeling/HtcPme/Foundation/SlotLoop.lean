import Mathlib.Tactic.Common

/-!
# Loops over the slots of a table

A loop that visits every slot of a table once, in order, and threads a state through its body.
-/

namespace SlotLoop

variable {σ α : Type*} {slots : ℕ}

/-- `for (cnt = 0; cnt < slots; cnt++) state = body(state, cnt)`. -/
def forEach (body : σ → Fin slots → σ) (state : σ) : σ :=
  Fin.foldl slots body state

variable {body : σ → Fin slots → σ}

theorem forEach_induct {state : σ} (motive : ℕ → σ → Prop) (start : motive 0 state)
    (visit : ∀ (cnt : Fin slots) state, motive cnt state → motive (cnt + 1) (body state cnt)) :
    motive slots (forEach body state) := by
  induction slots with
  | zero => simpa [forEach] using start
  | succ slots ih =>
      rw [forEach, Fin.foldl_succ_last]
      apply visit (Fin.last slots)
      apply ih
      intro cnt state reached
      exact visit cnt.castSucc state reached

theorem forEach_invariant {state : σ} (holds : σ → Prop)
    (start : holds state) (visit : ∀ cnt state, holds state → holds (body state cnt)) :
    holds (forEach body state) := by
  apply forEach_induct fun _ state => holds state
  · exact start
  · intro cnt state held
    exact visit cnt state held

/-- A slot is changed by its own visit only, in a state that still has it as it was. -/
theorem forEach_slot {state : σ} (view : σ → Fin slots → α)
    (frame : ∀ state cnt slot, slot ≠ cnt → view (body state cnt) slot = view state slot)
    (holds : σ → Prop) (start : holds state)
    (visit : ∀ cnt state, holds state → holds (body state cnt)) (slot : Fin slots) :
    ∃ before, holds before ∧ view before slot = view state slot ∧
      view (forEach body state) slot = view (body before slot) slot := by
  have reached : holds (forEach body state) ∧
      (slots ≤ slot → view (forEach body state) slot = view state slot) ∧
        (slot < slots → ∃ before, holds before ∧ view before slot = view state slot ∧
          view (forEach body state) slot = view (body before slot) slot) := by
    apply forEach_induct fun visited current => holds current ∧
      (visited ≤ slot → view current slot = view state slot) ∧
        (slot < visited → ∃ before, holds before ∧ view before slot = view state slot ∧
          view current slot = view (body before slot) slot)
    · exact ⟨start, fun _ => rfl, fun visited => absurd visited (Nat.not_lt_zero _)⟩
    · rintro cnt current ⟨held, before, after⟩
      refine ⟨visit cnt current held, ?_, ?_⟩
      · intro notYet
        rw [frame current cnt slot (by omega)]
        exact before (by omega)
      · intro done
        by_cases same : slot = cnt
        · subst same
          exact ⟨current, held, before (Nat.le_refl _), rfl⟩
        · rw [frame current cnt slot same]
          exact after (by omega)
  exact reached.2.2 slot.isLt

end SlotLoop
