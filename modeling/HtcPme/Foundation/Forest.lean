import Mathlib.Data.List.Basic
import Mathlib.Tactic.Common

/-!
# Walks over a forest

A forest is walked in document order, with a fold over the nodes that the walk visits.
-/

inductive Forest (α : Type*) where
  | nil
  | node (label : α) (children next : Forest α)

namespace Forest

open List

variable {α σ ε : Type*}

def walk (descends : α → Bool) (visit : α → Forest α → σ → Except ε σ) :
    Forest α → σ → Except ε σ
  | nil, state => .ok state
  | node label children next, state => do
      let visited ← visit label children state
      let below ← if descends label then walk descends visit children visited else .ok visited
      walk descends visit next below

def visits (descends : α → Bool) : Forest α → List (α × Forest α)
  | nil => []
  | node label children next =>
      (label, children) ::
        ((if descends label then visits descends children else []) ++ visits descends next)

variable {descends : α → Bool}

theorem walk_eq_foldlM (visit : α → Forest α → σ → Except ε σ) (forest : Forest α) (state : σ) :
    forest.walk descends visit state =
      (forest.visits descends).foldlM (fun state node => visit node.1 node.2 state) state := by
  induction forest generalizing state with
  | nil => rfl
  | node label children next ihChildren ihNext =>
      simp only [walk, visits, foldlM_cons, foldlM_append]
      congr 1
      funext visited
      split_ifs
      · simp only [ihChildren, ihNext]
      · simp only [foldlM_nil, ihNext]
        rfl

def append : Forest α → Forest α → Forest α
  | nil, after => after
  | node label children next, after => node label children (append next after)

def concat (forests : List (Forest α)) : Forest α := forests.foldr append nil

@[simp]
theorem visits_append (before after : Forest α) :
    (before.append after).visits descends = before.visits descends ++ after.visits descends := by
  induction before with
  | nil => rfl
  | node label children next _ ih => simp only [append, visits, ih, cons_append,
      append_assoc]

@[simp]
theorem visits_concat (forests : List (Forest α)) :
    (concat forests).visits descends = forests.flatMap (visits descends) := by
  induction forests with
  | nil => rfl
  | cons first rest ih =>
      rw [concat, foldr_cons, visits_append, ← concat, ih, flatMap_cons]

end Forest

/-- A fold goes through exactly if every item fits a summary of what came before it. -/
theorem foldlM_ok_iff {σ β τ ε : Type*} {step : σ → β → Except ε σ} (summary : σ → τ)
    (advance : τ → β → τ) (fits : τ → β → Prop)
    (ok : ∀ state item, (∃ next, step state item = .ok next) ↔ fits (summary state) item)
    (keeps : ∀ state item next, step state item = .ok next →
      summary next = advance (summary state) item)
    (items : List β) (state : σ) :
    (∃ last, items.foldlM step state = .ok last) ↔
      ∀ before item after, items = before ++ item :: after →
        fits (before.foldl advance (summary state)) item := by
  induction items generalizing state with
  | nil => simp [pure, Except.pure]
  | cons first rest ih =>
      rw [List.foldlM_cons]
      constructor
      · rintro ⟨last, ran⟩ before item after split
        cases stepped : step state first with
        | error fault =>
            rw [stepped] at ran
            cases ran
        | ok next =>
            rw [stepped] at ran
            cases before with
            | nil =>
                cases split
                exact (ok state first).mp ⟨next, stepped⟩
            | cons head tail =>
                cases split
                rw [List.foldl_cons, ← keeps state first next stepped]
                exact (ih next).mp ⟨last, ran⟩ tail item after rfl
      · intro fitting
        rcases (ok state first).mpr (fitting [] first rest rfl) with ⟨next, stepped⟩
        rw [stepped]
        refine (ih next).mpr ?_
        intro before item after split
        rw [keeps state first next stepped]
        exact fitting (first :: before) item after (by rw [split, List.cons_append])
