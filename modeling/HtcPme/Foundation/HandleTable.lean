import Mathlib.Data.List.Nodup
import Mathlib.Data.List.Perm.Basic
import Mathlib.Tactic.Common

/-!
# Rules installed under handles

A party that installs rules answers with a handle for each, by which the rule is deleted
later. Zero is the handle of no rule.
-/

structure HandleSource where
  next : List ℕ → ℕ
  isFresh : ∀ taken, next taken ∉ taken
  nonzero : ∀ taken, next taken ≠ 0

def HandleSource.counting : HandleSource where
  next taken := taken.foldr max 0 + 1
  isFresh taken isTaken := by
    have bounded : ∀ hdl ∈ taken, hdl ≤ taken.foldr max 0 := by
      clear isTaken
      induction taken with
      | nil => simp
      | cons first rest ih =>
          intro hdl isIn
          rcases List.mem_cons.mp isIn with rfl | isIn
          · exact Nat.le_max_left _ _
          · exact Nat.le_trans (ih hdl isIn) (Nat.le_max_right _ _)
    have absurd := bounded _ isTaken
    omega
  nonzero _ := Nat.succ_ne_zero _

structure HandleTable (ρ : Type*) where
  rules : List (ℕ × ρ)
  nodup : (rules.map Prod.fst).Nodup
  nonzero : 0 ∉ rules.map Prod.fst

namespace HandleTable

open List

variable {ρ τ : Type*} (table : HandleTable ρ) (source : HandleSource)

def empty : HandleTable ρ := ⟨[], List.nodup_nil, List.not_mem_nil⟩

def handles : List ℕ := table.rules.map Prod.fst

def addOne (rule : ρ) : HandleTable ρ where
  rules := table.rules ++ [(source.next table.handles, rule)]
  nodup := by
    rw [List.map_append]
    apply table.nodup.append (List.nodup_singleton _)
    intro hdl installed isNew
    cases List.mem_singleton.mp isNew
    exact source.isFresh table.handles installed
  nonzero := by
    rw [List.map_append, List.mem_append, not_or]
    exact ⟨table.nonzero, fun isNew => source.nonzero _ (List.mem_singleton.mp isNew).symm⟩

def add : HandleTable ρ → List ρ → List ℕ × HandleTable ρ
  | table, [] => ([], table)
  | table, rule :: rest =>
      let (hdls, added) := add (table.addOne source rule) rest
      (source.next table.handles :: hdls, added)

def delete (hdl : ℕ) : HandleTable ρ where
  rules := table.rules.filter (·.1 ≠ hdl)
  nodup := table.nodup.sublist (List.filter_sublist.map _)
  nonzero installed := table.nonzero ((List.filter_sublist.map _).subset installed)

def deleteAll (hdls : List ℕ) : HandleTable ρ := hdls.foldl delete table

def view (part : ρ → τ) : List (ℕ × τ) := table.rules.map (Prod.map id part)

variable {table}

theorem nodup_view (part : ρ → τ) : ((table.view part).map Prod.fst).Nodup := by
  simpa [view, Function.comp_def] using table.nodup

theorem length_add (rules : List ρ) : (table.add source rules).1.length = rules.length := by
  induction rules generalizing table with
  | nil => rfl
  | cons rule rest ih => simpa [add] using ih

theorem rules_add (rules : List ρ) :
    (table.add source rules).2.rules =
      table.rules ++ (table.add source rules).1.zip rules := by
  induction rules generalizing table with
  | nil => simp [add]
  | cons rule rest ih => simp [add, ih, addOne]

theorem view_add (part : ρ → τ) (rules : List ρ) :
    (table.add source rules).2.view part =
      table.view part ++ (table.add source rules).1.zip (rules.map part) := by
  simp [view, rules_add, zip_map_right]

theorem rules_deleteAll (hdls : List ℕ) :
    (table.deleteAll hdls).rules = table.rules.filter (·.1 ∉ hdls) := by
  induction hdls generalizing table with
  | nil => simp [deleteAll]
  | cons hdl rest ih =>
      calc (table.deleteAll (hdl :: rest)).rules = ((table.delete hdl).deleteAll rest).rules := rfl
        _ = (table.delete hdl).rules.filter (·.1 ∉ rest) := ih
        _ = table.rules.filter (·.1 ∉ hdl :: rest) := by
            simp [delete, filter_filter, Bool.and_comm]

theorem view_deleteAll (part : ρ → τ) (hdls : List ℕ) :
    (table.deleteAll hdls).view part = (table.view part).filter (·.1 ∉ hdls) := by
  simp [view, rules_deleteAll, filter_map, Function.comp_def]

theorem view_deleteAll_perm {part : ρ → τ} {block rest : List (ℕ × τ)}
    (present : (table.view part).Perm (block ++ rest)) :
    ((table.deleteAll (block.map Prod.fst)).view part).Perm rest := by
  have nodup : ((block ++ rest).map Prod.fst).Nodup :=
    (present.map Prod.fst).nodup_iff.mp (nodup_view part)
  rw [map_append] at nodup
  have apart := (nodup_append.mp nodup).2.2
  have kept : (block ++ rest).filter (·.1 ∉ block.map Prod.fst) = rest := by
    rw [filter_append, filter_eq_nil_iff.mpr, nil_append, filter_eq_self]
    · intro entry inRest
      apply decide_eq_true
      intro inBlock
      exact apart _ inBlock _ (mem_map_of_mem inRest) rfl
    · intro entry inBlock
      simpa using ⟨entry.2, inBlock⟩
  rw [view_deleteAll]
  rw [← kept]
  exact present.filter _

theorem rules_deleteAll_perm {block rest : List (ℕ × ρ)}
    (present : table.rules.Perm (block ++ rest)) :
    (table.deleteAll (block.map Prod.fst)).rules.Perm rest := by
  have same (table : HandleTable ρ) : table.view id = table.rules := by simp [view]
  rw [← same] at present ⊢
  exact view_deleteAll_perm present

section Blocks

variable {ε : Type*} {entries : List ε} {entry : ε} {found : ε → Bool}

theorem perm_cons_eraseP (isFirst : entries.find? found = some entry) :
    entries.Perm (entry :: entries.eraseP found) := by
  induction entries with
  | nil => cases isFirst
  | cons first rest ih =>
      cases isFound : found first with
      | true =>
          rw [find?_cons_of_pos isFound] at isFirst
          cases isFirst
          rw [eraseP_cons_of_pos isFound]
      | false =>
          have notFound : ¬ found first = true := by simp [isFound]
          rw [find?_cons_of_neg notFound] at isFirst
          rw [eraseP_cons_of_neg notFound]
          exact ((ih isFirst).cons first).trans (.swap entry first _)

theorem flatMap_perm_eraseP {block : ε → List (ℕ × τ)}
    (isFirst : entries.find? found = some entry) :
    (entries.flatMap block).Perm (block entry ++ (entries.eraseP found).flatMap block) :=
  (perm_cons_eraseP isFirst).flatMap_right block

end Blocks

theorem nodup_pairs {ι κ τ : Type*} {outer : List ι} {inner : List κ} {left right : ι → κ → τ}
    (distinctOuter : outer.Nodup) (distinctInner : inner.Nodup)
    (leftInj : ∀ i k i' k', left i k = left i' k' → i = i' ∧ k = k')
    (rightInj : ∀ i k i' k', right i k = right i' k' → i = i' ∧ k = k')
    (apart : ∀ i k i' k', left i k ≠ right i' k') :
    (outer.flatMap fun i => inner.flatMap fun k => [left i k, right i k]).Nodup := by
  have same {i i' : ι} {k k' : κ} {slot : τ} (isIn : slot ∈ [left i k, right i k])
      (isIn' : slot ∈ [left i' k', right i' k']) : i = i' ∧ k = k' := by
    simp only [mem_cons, not_mem_nil, or_false] at isIn isIn'
    rcases isIn with rfl | rfl <;> rcases isIn' with isEq | isEq
    · exact leftInj _ _ _ _ isEq
    · exact absurd isEq (apart _ _ _ _)
    · exact absurd isEq.symm (apart _ _ _ _)
    · exact rightInj _ _ _ _ isEq
  refine nodup_flatMap.mpr ⟨fun i _ => nodup_flatMap.mpr ⟨fun k _ => ?_, ?_⟩, ?_⟩
  · simpa using apart i k i k
  · apply distinctInner.imp
    intro k k' differs slot isIn isIn'
    exact differs (same isIn isIn').2
  · apply distinctOuter.imp
    intro i i' differs slot isIn isIn'
    rcases mem_flatMap.mp isIn with ⟨k, -, isIn⟩
    rcases mem_flatMap.mp isIn' with ⟨k', -, isIn'⟩
    exact differs (same isIn isIn').1

end HandleTable
