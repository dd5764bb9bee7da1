import HtcPme.Foundation.HandleTable

/-!
# Rules that are written over

A rule that stays under its handle is written over, with what a write leaves of the old rule. Of
several writes to one handle the last one counts.
-/

namespace HandleTable

open List

variable {ρ σ : Type*} (write : σ → ρ → ρ)

def writeOne (table : HandleTable ρ) (entry : ℕ × σ) : HandleTable ρ where
  rules := table.rules.map fun old =>
    (old.1, if old.1 = entry.1 then write entry.2 old.2 else old.2)
  nodup := by simpa [Function.comp_def] using table.nodup
  nonzero := by simpa [Function.comp_def] using table.nonzero

def writeAll (table : HandleTable ρ) (writes : List (ℕ × σ)) : HandleTable ρ :=
  writes.foldl (writeOne write) table

def settle (hdl : ℕ) (writes : List (ℕ × σ)) (rule : ρ) : ρ :=
  writes.foldl (fun rule entry => if hdl = entry.1 then write entry.2 rule else rule) rule

variable {write} {table : HandleTable ρ} {hdl : ℕ} {rule : ρ} {writes later : List (ℕ × σ)}

theorem writeAll_append (table : HandleTable ρ) (writes later : List (ℕ × σ)) :
    table.writeAll write (writes ++ later) = (table.writeAll write writes).writeAll write later :=
  foldl_append

theorem rules_writeAll (table : HandleTable ρ) (writes : List (ℕ × σ)) :
    (table.writeAll write writes).rules =
      table.rules.map fun entry => (entry.1, settle write entry.1 writes entry.2) := by
  induction writes generalizing table with
  | nil => simp [writeAll, settle]
  | cons first rest ih =>
      have done : table.writeAll write (first :: rest) =
          (table.writeOne write first).writeAll write rest := rfl
      rw [done, ih, writeOne, map_map]
      rfl

theorem settle_append :
    settle write hdl (writes ++ later) rule =
      settle write hdl later (settle write hdl writes rule) :=
  foldl_append

theorem settle_preserves {τ : Type*} {part : ρ → τ}
    (preserves : ∀ data rule, part (write data rule) = part rule) :
    part (settle write hdl writes rule) = part rule := by
  induction writes generalizing rule with
  | nil => rfl
  | cons first rest ih =>
      have step : settle write hdl (first :: rest) rule = settle write hdl rest
          (if hdl = first.1 then write first.2 rule else rule) := rfl
      rw [step, ih]
      split
      · exact preserves first.2 rule
      · rfl

theorem settle_of_unhit (unhit : ∀ entry ∈ writes, entry.1 ≠ hdl) :
    settle write hdl writes rule = rule := by
  induction writes generalizing rule with
  | nil => rfl
  | cons first rest ih =>
      have notFirst : hdl ≠ first.1 := (unhit first (mem_cons_self ..)).symm
      have step : settle write hdl (first :: rest) rule = settle write hdl rest rule := by
        simp [settle, notFirst]
      rw [step, ih fun entry isIn => unhit entry (mem_cons_of_mem _ isIn)]

/-- If all writes to a handle are the same, and there is one, then that is what is left. -/
theorem settle_of_hit {data : σ} (absorbs : ∀ rule, write data (write data rule) = write data rule)
    (agree : ∀ entry ∈ writes, entry.1 = hdl → entry.2 = data)
    (isHit : ∃ entry ∈ writes, entry.1 = hdl) : settle write hdl writes rule = write data rule := by
  induction writes generalizing rule with
  | nil =>
      rcases isHit with ⟨_, isIn, _⟩
      cases isIn
  | cons first rest ih =>
      have agreeRest : ∀ entry ∈ rest, entry.1 = hdl → entry.2 = data :=
        fun entry isIn => agree entry (mem_cons_of_mem _ isIn)
      by_cases hitsRest : ∃ entry ∈ rest, entry.1 = hdl
      · by_cases isFirst : hdl = first.1
        · have isData : first.2 = data := agree first (mem_cons_self ..) isFirst.symm
          have step : settle write hdl (first :: rest) rule =
              settle write hdl rest (write data rule) := by
            simp [settle, isFirst, isData]
          rw [step, ih agreeRest hitsRest, absorbs]
        · have step : settle write hdl (first :: rest) rule = settle write hdl rest rule := by
            simp [settle, isFirst]
          rw [step, ih agreeRest hitsRest]
      · have unhit : ∀ entry ∈ rest, entry.1 ≠ hdl := by
          intro entry isIn isHdl
          exact hitsRest ⟨entry, isIn, isHdl⟩
        have isFirst : hdl = first.1 := by
          rcases isHit with ⟨entry, isIn, isHdl⟩
          rcases mem_cons.mp isIn with rfl | isRest
          · exact isHdl.symm
          · exact absurd isHdl (unhit entry isRest)
        have isData : first.2 = data := agree first (mem_cons_self ..) isFirst.symm
        have step : settle write hdl (first :: rest) rule =
            settle write hdl rest (write data rule) := by
          simp [settle, isFirst, isData]
        rw [step, settle_of_unhit unhit]

end HandleTable
