import Mathlib.Data.List.Count
import Mathlib.Data.List.Nodup
import Mathlib.Tactic.Common

/-!
# Ledgers of requests

Requests that add and delete things held by another party, recorded with the newest
first. What is held follows from the last request about each thing.
-/

namespace Ledger

variable {δ : Type*} [DecidableEq δ]

inductive Request (δ : Type*) where
  | add (what : δ)
  | del (what : δ)
  deriving DecidableEq, Repr

def Request.what : Request δ → δ
  | .add what => what
  | .del what => what

def held : List (Request δ) → δ → Bool
  | [], _ => false
  | .add what :: earlier, asked => what = asked || held earlier asked
  | .del what :: earlier, asked => what ≠ asked && held earlier asked

/-- The requests about a thing leave it as given, and it was added as often as it was
deleted, but for the time it is held. -/
def Settled (log : List (Request δ)) (asked : δ) (present : Bool) : Prop :=
  held log asked = present ∧
    log.count (.add asked) = log.count (.del asked) + present.toNat

def change (asked : δ) : Bool → Bool → List (Request δ)
  | false, true => [.add asked]
  | true, false => [.del asked]
  | _, _ => []

variable {log reqs : List (Request δ)} {asked : δ} {present before after : Bool}

theorem settled_nil : Settled ([] : List (Request δ)) asked false := by simp [Settled, held]

section

omit [DecidableEq δ]

theorem change_reverse : (change asked before after).reverse = change asked before after := by
  cases before <;> cases after <;> rfl

@[simp]
theorem change_self : change asked present present = [] := by cases present <;> rfl

end

theorem Settled.change (settled : Settled log asked before) :
    Settled (change asked before after ++ log) asked after := by
  rcases settled with ⟨isHeld, balanced⟩
  cases before <;> cases after <;> simp_all [Settled, Ledger.change, held]

theorem settled_append_filter :
    Settled (reqs ++ log) asked present ↔
      Settled (reqs.filter (·.what = asked) ++ log) asked present := by
  have counted (request : Request δ) (about : request.what = asked) :
      (reqs.filter (·.what = asked)).count request = reqs.count request := by
    apply List.count_filter
    simp [about]
  have same : held (reqs ++ log) asked = held (reqs.filter (·.what = asked) ++ log) asked := by
    induction reqs with
    | nil => rfl
    | cons request reqs ih =>
        cases request with
        | add what | del what => by_cases about : what = asked <;> simp_all [held, Request.what]
  simp only [Settled, same, List.count_append, counted (.add asked) rfl, counted (.del asked) rfl]

theorem Settled.append (settled : Settled log asked before)
    (changed : reqs.filter (·.what = asked) = Ledger.change asked before after) :
    Settled (reqs.reverse ++ log) asked after := by
  apply settled_append_filter.mpr
  rw [List.filter_reverse, changed, change_reverse]
  exact settled.change

variable {things : List δ}

variable (nodup : things.Nodup)

include nodup

theorem filter_map {request : δ → Request δ} (about : ∀ thing, (request thing).what = thing) :
    (things.map request).filter (·.what = asked) =
      if asked ∈ things then [request asked] else [] := by
  have only : (fun thing => decide ((request thing).what = asked)) = (· == asked) := by
    funext thing
    simp [about, Bool.beq_eq_decide_eq]
  simp only [List.filter_map, Function.comp_def, only, List.filter_beq]
  split_ifs with isIn
  · simp [List.count_eq_one_of_mem nodup isIn]
  · simp [List.count_eq_zero_of_not_mem isIn]

theorem filter_map_add :
    (things.map .add).filter (·.what = asked) = change asked false (things.contains asked) := by
  rw [filter_map nodup fun _ => rfl]
  split_ifs with isIn <;> simp [isIn, Ledger.change]

theorem filter_map_del :
    (things.map .del).filter (·.what = asked) = change asked (things.contains asked) false := by
  rw [filter_map nodup fun _ => rfl]
  split_ifs with isIn <;> simp [isIn, Ledger.change]

end Ledger
