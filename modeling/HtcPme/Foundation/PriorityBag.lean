import HtcPme.Foundation.Run
import Mathlib.Data.Multiset.AddSub

/-!
# Bags of ranked elements

What a priority queue is for: a multiset to which elements are added, and from which a highest
ranking one or a given one is taken.
-/

namespace PriorityBag

variable {α : Type*}

structure IsRanking (outRanks : α → α → Prop) : Prop where
  asymm : ∀ one other, outRanks one other → ¬outRanks other one
  not_trans : ∀ one other third, ¬outRanks one other → ¬outRanks other third → ¬outRanks one third

def Dominates (outRanks : α → α → Prop) (top : α) (bag : Multiset α) : Prop :=
  ∀ element ∈ bag, ¬outRanks element top

section Dominates

variable {outRanks : α → α → Prop} {top upper : α} {bag bag' : Multiset α}

theorem IsRanking.irrefl (ranking : IsRanking outRanks) (element : α) :
    ¬outRanks element element :=
  fun higher => ranking.asymm _ _ higher higher

@[simp]
theorem dominates_zero : Dominates outRanks top 0 := by
  simp [Dominates]

@[simp]
theorem dominates_cons {element : α} :
    Dominates outRanks top (element ::ₘ bag) ↔
      ¬outRanks element top ∧ Dominates outRanks top bag := by
  simp [Dominates]

@[simp]
theorem dominates_add :
    Dominates outRanks top (bag + bag') ↔
      Dominates outRanks top bag ∧ Dominates outRanks top bag' := by
  simp only [Dominates, Multiset.mem_add]
  constructor
  · intro both
    exact ⟨fun element mem => both element (Or.inl mem),
      fun element mem => both element (Or.inr mem)⟩
  · rintro ⟨left, right⟩ element (mem | mem)
    · exact left element mem
    · exact right element mem

theorem Dominates.trans (dominates : Dominates outRanks top bag) (ranking : IsRanking outRanks)
    (lower : ¬outRanks top upper) : Dominates outRanks upper bag :=
  fun element mem => ranking.not_trans _ _ _ (dominates element mem) lower

end Dominates

inductive BagOp (α : Type*) where
  | push (element : α)
  | pop
  | remove (element : α)
deriving DecidableEq

variable [DecidableEq α]

inductive BagStep (outRanks : α → α → Prop) (bag : Multiset α) :
    BagOp α → Option α → Multiset α → Prop where
  | push (element : α) : BagStep outRanks bag (.push element) none (element ::ₘ bag)
  | popEmpty (isEmpty : bag = 0) : BagStep outRanks bag .pop none bag
  | pop (top : α) (mem : top ∈ bag) (dominates : Dominates outRanks top bag) :
      BagStep outRanks bag .pop (some top) (bag.erase top)
  | remove (element : α) (mem : element ∈ bag) :
      BagStep outRanks bag (.remove element) (some element) (bag.erase element)
  | removeOther (element : α) (notMem : element ∉ bag) :
      BagStep outRanks bag (.remove element) none bag

variable {outRanks : α → α → Prop}

theorem BagStep.remove_cases {bag bag' : Multiset α} {element : α}
    {answer : Option α} (step : BagStep outRanks bag (.remove element) answer bag') :
    (element ∈ bag ∧ answer = some element ∧ bag' = bag.erase element) ∨
      (element ∉ bag ∧ answer = none ∧ bag' = bag) := by
  cases step with
  | remove _ mem => exact .inl ⟨mem, rfl, rfl⟩
  | removeOther _ notMem => exact .inr ⟨notMem, rfl, rfl⟩

section Log

def pushed : List (BagOp α × Option α) → Multiset α
  | [] => 0
  | (.push element, _) :: log => element ::ₘ pushed log
  | (_, _) :: log => pushed log

/-- The elements that were answered by `pop` and `remove`. -/
def taken : List (BagOp α × Option α) → Multiset α
  | [] => 0
  | (.push _, _) :: log => taken log
  | (_, some element) :: log => element ::ₘ taken log
  | (_, none) :: log => taken log

theorem BagStep.conserved {outRanks : α → α → Prop} {bag bag' : Multiset α} {op : BagOp α}
    {result : Option α} {log : List (BagOp α × Option α)}
    (step : BagStep outRanks bag op result bag') (conserved : bag + taken log = pushed log) :
    bag' + taken ((op, result) :: log) = pushed ((op, result) :: log) := by
  cases step with
  | push element =>
      simp only [taken, pushed, Multiset.cons_add, conserved]
  | popEmpty isEmpty => exact conserved
  | pop top mem dominates | remove element mem =>
      simp only [taken, pushed]
      rw [Multiset.add_cons, ← Multiset.cons_add, Multiset.cons_erase mem, conserved]
  | removeOther element notMem => exact conserved

end Log

structure BagRun (α : Type*) where
  bag : Multiset α
  log : List (BagOp α × Option α)

def BagRun.Step (outRanks : α → α → Prop) (run : BagRun α) (op : BagOp α) (next : BagRun α) :
    Prop :=
  ∃ result, BagStep outRanks run.bag op result next.bag ∧ next.log = (op, result) :: run.log

/-- In every run what is in the bag is what was added and not taken. -/
theorem reachable_conserved {run : BagRun α}
    (reached : Run.Reachable (fun run => run = ⟨0, []⟩) (BagRun.Step outRanks) run) :
    run.bag + taken run.log = pushed run.log := by
  apply reached.invariant fun run => run.bag + taken run.log = pushed run.log
  · rintro _ rfl
    rfl
  · rintro run op next conserved ⟨result, step, logged⟩
    rw [logged]
    exact step.conserved conserved

end PriorityBag
