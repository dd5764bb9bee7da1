import HtcPme.Foundation.PriorityBag

/-!
# LocHeap

The heap behind the timer containers: a binary tree whose nodes know the size of their subtree. New
data goes down the smaller side; the top is swapped down to a leaf when it is popped.
-/

namespace HtcPme.Gps

open PriorityBag Multiset

/-- A pointer to a `LocHeapNode`, with the nodes it owns. `mSize` is an `int`, which no number of
nodes that fits the memory exceeds. -/
inductive LocHeapNode (α : Type*) where
  | null
  | node (mSize : ℤ) (mLeft mRight : LocHeapNode α) (mData : α)
deriving DecidableEq

inductive Side where
  | left
  | right
deriving DecidableEq

namespace LocHeapNode

variable {α : Type*}

def new (data : α) : LocHeapNode α := .node 1 .null .null data

def isNull : LocHeapNode α → Bool
  | .null => true
  | .node _ _ _ _ => false

def size : LocHeapNode α → ℤ
  | .null => 0
  | .node mSize _ _ _ => mSize

def data? : LocHeapNode α → Option α
  | .null => none
  | .node _ _ _ mData => some mData

variable (ranks : α → α → ℤ)

def OutRanks (data other : α) : Prop := 0 < ranks data other

instance : DecidableRel (OutRanks ranks) :=
  fun data other => inferInstanceAs (Decidable (0 < ranks data other))

def push : LocHeapNode α → α → LocHeapNode α
  | .null, data => new data
  | .node mSize mLeft mRight mData, data =>
      let upper := if OutRanks ranks data mData then data else mData
      let lower := if OutRanks ranks data mData then mData else data
      if mLeft.isNull then .node (mSize + 1) (new lower) mRight upper
      else if mRight.isNull then .node (mSize + 1) mLeft (new lower) upper
      else if mLeft.size ≤ mRight.size then .node (mSize + 1) (push mLeft lower) mRight upper
      else .node (mSize + 1) mLeft (push mRight lower) upper

/-- `subTop` of `LocHeapNode::pop`: the child whose data moves up, if there is one. -/
def subTop (mLeft mRight : LocHeapNode α) : Option (Side × α) :=
  match mLeft.data?, mRight.data? with
  | none, none => none
  | none, some right => some (.right, right)
  | some left, none => some (.left, left)
  | some left, some right =>
      if OutRanks ranks left right then some (.left, left) else some (.right, right)

def popSwapped : LocHeapNode α → α → α × LocHeapNode α
  | .null, data => (data, .null)
  | .node mSize mLeft mRight _, data =>
      match subTop ranks mLeft mRight with
      | none => (data, .null)
      | some (.left, mData) =>
          let (popped, mLeft) := popSwapped mLeft data
          (popped, .node (mSize - 1) mLeft mRight mData)
      | some (.right, mData) =>
          let (popped, mRight) := popSwapped mRight data
          (popped, .node (mSize - 1) mLeft mRight mData)

/-- `LocHeapNode::pop`: the data of the node that leaves the tree. -/
def pop : LocHeapNode α → Option α × LocHeapNode α
  | .null => (none, .null)
  | .node mSize mLeft mRight mData =>
      let (popped, top) := popSwapped ranks (.node mSize mLeft mRight mData) mData
      (some popped, top)

def remove [DecidableEq α] : LocHeapNode α → α → Option α × LocHeapNode α
  | .null, _ => (none, .null)
  | .node mSize mLeft mRight mData, data =>
      if data = mData then pop ranks (.node mSize mLeft mRight mData)
      else if OutRanks ranks data mData then (none, .node mSize mLeft mRight mData)
      else
        match remove mLeft data with
        | (some removed, mLeft) => (some removed, .node (mSize - 1) mLeft mRight mData)
        | (none, mLeft) =>
            match remove mRight data with
            | (some removed, mRight) => (some removed, .node (mSize - 1) mLeft mRight mData)
            | (none, mRight) => (none, .node mSize mLeft mRight mData)

/-- The test that `checkNodes` makes of a child. -/
def childOk (child : LocHeapNode α) (childChecked : Bool) (mData : α) : Bool :=
  match child.data? with
  | none => true
  | some data => !(OutRanks ranks data mData || !childChecked)

def checkNodes : LocHeapNode α → Bool
  | .null => true
  | .node mSize mLeft mRight mData =>
      if !childOk ranks mLeft (checkNodes mLeft) mData then false
      else if !childOk ranks mRight (checkNodes mRight) mData then false
      else mSize - mLeft.size - mRight.size = 1

def elements : LocHeapNode α → Multiset α
  | .null => 0
  | .node _ mLeft mRight mData => mData ::ₘ (mLeft.elements + mRight.elements)

/-- `mSize` of every node is the number of nodes of its subtree. -/
def Sized : LocHeapNode α → Prop
  | .null => True
  | .node mSize mLeft mRight _ =>
      mSize = mLeft.elements.card + mRight.elements.card + 1 ∧ mLeft.Sized ∧ mRight.Sized

def Ordered : LocHeapNode α → Prop
  | .null => True
  | .node _ mLeft mRight mData =>
      (∀ data ∈ mLeft.data?, ¬OutRanks ranks data mData) ∧
        (∀ data ∈ mRight.data?, ¬OutRanks ranks data mData) ∧
        mLeft.Ordered ∧ mRight.Ordered

section Lemmas

variable {ranks} {tree mLeft mRight : LocHeapNode α} {data mData : α} {mSize : ℤ}

@[simp]
theorem elements_null : (null : LocHeapNode α).elements = 0 := rfl

@[simp]
theorem elements_node : (node mSize mLeft mRight mData).elements =
    mData ::ₘ (mLeft.elements + mRight.elements) := rfl

@[simp]
theorem elements_new : (new data).elements = {data} := rfl

@[simp]
theorem data?_null : (null : LocHeapNode α).data? = none := rfl

@[simp]
theorem data?_node : (node mSize mLeft mRight mData).data? = some mData := rfl

theorem isNull_iff : tree.isNull = true ↔ tree = .null := by
  cases tree <;> simp [isNull]

theorem mem_of_data? (isTop : data ∈ tree.data?) : data ∈ tree.elements := by
  cases tree with
  | null => simp at isTop
  | node mSize mLeft mRight mData =>
      simp only [data?_node, Option.mem_some] at isTop
      simp [isTop]

theorem Sized.size_eq (sized : tree.Sized) : tree.size = tree.elements.card := by
  cases tree with
  | null => rfl
  | node mSize mLeft mRight mData =>
      rcases sized with ⟨sizeEq, -, -⟩
      simp only [size, sizeEq, elements_node, card_cons, card_add]
      omega

theorem dominates_of_top (ranking : IsRanking (OutRanks ranks))
    (dominates : ∀ top ∈ tree.data?, Dominates (OutRanks ranks) top tree.elements)
    (lower : ∀ top ∈ tree.data?, ¬OutRanks ranks top data) :
    Dominates (OutRanks ranks) data tree.elements := by
  cases tree with
  | null => simp
  | node mSize mLeft mRight mData => exact (dominates mData rfl).trans ranking (lower mData rfl)

theorem Ordered.dominates (ordered : tree.Ordered ranks) (ranking : IsRanking (OutRanks ranks)) :
    ∀ top ∈ tree.data?, Dominates (OutRanks ranks) top tree.elements := by
  induction tree with
  | null => simp
  | node mSize mLeft mRight mData ihLeft ihRight =>
      rcases ordered with ⟨leftLower, rightLower, leftOrdered, rightOrdered⟩
      intro top isTop
      simp only [data?_node, Option.mem_some] at isTop
      subst isTop
      simp only [elements_node, dominates_cons, dominates_add]
      refine ⟨ranking.irrefl mData, ?_, ?_⟩
      · exact dominates_of_top ranking (ihLeft leftOrdered) leftLower
      · exact dominates_of_top ranking (ihRight rightOrdered) rightLower

theorem ordered_of_dominates (left : Dominates (OutRanks ranks) mData mLeft.elements)
    (right : Dominates (OutRanks ranks) mData mRight.elements) (leftOrdered : mLeft.Ordered ranks)
    (rightOrdered : mRight.Ordered ranks) : (node mSize mLeft mRight mData).Ordered ranks :=
  ⟨fun _ isTop => left _ (mem_of_data? isTop), fun _ isTop => right _ (mem_of_data? isTop),
    leftOrdered, rightOrdered⟩

section Push

@[simp]
theorem push_null : push ranks .null data = new data := by
  simp [push]

theorem push_node (ranks : α → α → ℤ) (mSize : ℤ) (mLeft mRight : LocHeapNode α)
    (mData data : α) :
    ∃ upper lower, (upper = data ∧ lower = mData ∧ OutRanks ranks data mData ∨
        upper = mData ∧ lower = data ∧ ¬OutRanks ranks data mData) ∧
      (push ranks (.node mSize mLeft mRight mData) data =
          .node (mSize + 1) (push ranks mLeft lower) mRight upper ∨
        push ranks (.node mSize mLeft mRight mData) data =
          .node (mSize + 1) mLeft (push ranks mRight lower) upper) := by
  refine ⟨if OutRanks ranks data mData then data else mData,
    if OutRanks ranks data mData then mData else data, ?_, ?_⟩
  · by_cases higher : OutRanks ranks data mData
    · left
      simp [higher]
    · right
      simp [higher]
  · simp only [push]
    split
    · rename_i leftNull
      left
      rw [isNull_iff.mp leftNull, push_null]
    · split
      · rename_i rightNull
        right
        rw [isNull_iff.mp rightNull, push_null]
      · split
        · left
          rfl
        · right
          rfl

theorem elements_push : (push ranks tree data).elements = data ::ₘ tree.elements := by
  induction tree generalizing data with
  | null => simp
  | node mSize mLeft mRight mData ihLeft ihRight =>
      rcases push_node ranks mSize mLeft mRight mData data with ⟨upper, lower, chosen, side⟩
      have swapped : ∀ bag : Multiset α, upper ::ₘ lower ::ₘ bag = data ::ₘ mData ::ₘ bag := by
        intro bag
        rcases chosen with ⟨rfl, rfl, -⟩ | ⟨rfl, rfl, -⟩
        · rfl
        · apply cons_swap
      rcases side with eq | eq
      · simp only [eq, elements_node, ihLeft, cons_add, swapped]
      · simp only [eq, elements_node, ihRight, add_cons, swapped]

theorem Sized.push (sized : tree.Sized) : (push ranks tree data).Sized := by
  induction tree generalizing data with
  | null => simp [new, Sized]
  | node mSize mLeft mRight mData ihLeft ihRight =>
      rcases sized with ⟨sizeEq, leftSized, rightSized⟩
      rcases push_node ranks mSize mLeft mRight mData data with ⟨upper, lower, -, eq | eq⟩
      · rw [eq]
        refine ⟨?_, ihLeft leftSized, rightSized⟩
        simp only [sizeEq, elements_push, card_cons]
        omega
      · rw [eq]
        refine ⟨?_, leftSized, ihRight rightSized⟩
        simp only [sizeEq, elements_push, card_cons]
        omega

theorem Ordered.push (ordered : tree.Ordered ranks) (ranking : IsRanking (OutRanks ranks)) :
    (push ranks tree data).Ordered ranks := by
  induction tree generalizing data with
  | null => simp [new, Ordered]
  | node mSize mLeft mRight mData ihLeft ihRight =>
      have dominates := ordered.dominates ranking mData rfl
      simp only [elements_node, dominates_cons, dominates_add] at dominates
      rcases dominates with ⟨-, leftLower, rightLower⟩
      rcases ordered with ⟨-, -, leftOrdered, rightOrdered⟩
      rcases push_node ranks mSize mLeft mRight mData data with ⟨upper, lower, chosen, side⟩
      have lowerOk : ¬OutRanks ranks lower upper ∧ ¬OutRanks ranks mData upper := by
        rcases chosen with ⟨rfl, rfl, higher⟩ | ⟨rfl, rfl, notHigher⟩
        · exact ⟨ranking.asymm _ _ higher, ranking.asymm _ _ higher⟩
        · exact ⟨notHigher, ranking.irrefl _⟩
      have leftUpper := leftLower.trans ranking lowerOk.2
      have rightUpper := rightLower.trans ranking lowerOk.2
      rcases side with eq | eq
      · rw [eq]
        apply ordered_of_dominates
        · simp only [elements_push, dominates_cons]
          exact ⟨lowerOk.1, leftUpper⟩
        · exact rightUpper
        · exact ihLeft leftOrdered
        · exact rightOrdered
      · rw [eq]
        apply ordered_of_dominates
        · exact leftUpper
        · simp only [elements_push, dominates_cons]
          exact ⟨lowerOk.1, rightUpper⟩
        · exact leftOrdered
        · exact ihRight rightOrdered

end Push

section Pop

def swap : LocHeapNode α → α → LocHeapNode α
  | .null, _ => .null
  | .node mSize mLeft mRight _, data => .node mSize mLeft mRight data

theorem subTop_cases (ranking : IsRanking (OutRanks ranks)) (mLeft mRight : LocHeapNode α) :
    (subTop ranks mLeft mRight = none ∧ mLeft = .null ∧ mRight = .null) ∨
      (∃ top, subTop ranks mLeft mRight = some (.left, top) ∧ top ∈ mLeft.data? ∧
        ∀ other ∈ mRight.data?, ¬OutRanks ranks other top) ∨
      ∃ top, subTop ranks mLeft mRight = some (.right, top) ∧ top ∈ mRight.data? ∧
        ∀ other ∈ mLeft.data?, ¬OutRanks ranks other top := by
  cases mLeft with
  | null =>
      cases mRight with
      | null => simp [subTop]
      | node rightSize rightLeft rightRight right => simp [subTop]
  | node leftSize leftLeft leftRight left =>
      cases mRight with
      | null => simp [subTop]
      | node rightSize rightLeft rightRight right =>
          by_cases higher : OutRanks ranks left right
          · have lower := ranking.asymm _ _ higher
            simp [subTop, higher, lower]
          · simp [subTop, higher]

theorem popSwapped_fst : (popSwapped ranks tree data).1 = data := by
  induction tree generalizing data with
  | null => rfl
  | node mSize mLeft mRight mData ihLeft ihRight =>
      simp only [popSwapped]
      split
      · rfl
      · simp [ihLeft]
      · simp [ihRight]

theorem elements_popSwapped (ranking : IsRanking (OutRanks ranks)) (data : α) {top : α}
    (isTop : top ∈ tree.data?) :
    top ::ₘ (popSwapped ranks tree data).2.elements = tree.elements := by
  induction tree generalizing data top with
  | null => simp at isTop
  | node mSize mLeft mRight mData ihLeft ihRight =>
      simp only [data?_node, Option.mem_some] at isTop
      subst isTop
      simp only [popSwapped]
      rcases subTop_cases ranking mLeft mRight with
        ⟨chosen, leftNull, rightNull⟩ | ⟨top, chosen, isTop, -⟩ | ⟨top, chosen, isTop, -⟩
      · simp only [chosen]
        simp [leftNull, rightNull]
      · simp only [chosen, elements_node, ← cons_add, ihLeft data isTop]
      · simp only [chosen, elements_node, ← add_cons, ihRight data isTop]

theorem card_popSwapped (ranking : IsRanking (OutRanks ranks)) (data : α) {top : α}
    (isTop : top ∈ tree.data?) :
    (popSwapped ranks tree data).2.elements.card + 1 = tree.elements.card := by
  rw [← elements_popSwapped ranking data isTop, card_cons]

theorem Sized.popSwapped (sized : tree.Sized) (ranking : IsRanking (OutRanks ranks)) :
    (popSwapped ranks tree data).2.Sized := by
  induction tree generalizing data with
  | null => trivial
  | node mSize mLeft mRight mData ihLeft ihRight =>
      rcases sized with ⟨sizeEq, leftSized, rightSized⟩
      simp only [popSwapped]
      rcases subTop_cases ranking mLeft mRight with
        ⟨chosen, -, -⟩ | ⟨top, chosen, isTop, -⟩ | ⟨top, chosen, isTop, -⟩
      · simp [chosen, Sized]
      · have less := card_popSwapped ranking data isTop
        simp only [chosen]
        refine ⟨?_, ihLeft leftSized, rightSized⟩
        omega
      · have less := card_popSwapped ranking data isTop
        simp only [chosen]
        refine ⟨?_, leftSized, ihRight rightSized⟩
        omega

theorem Ordered.popSwapped (ordered : tree.Ordered ranks) (ranking : IsRanking (OutRanks ranks)) :
    (popSwapped ranks tree data).2.Ordered ranks := by
  induction tree generalizing data with
  | null => trivial
  | node mSize mLeft mRight mData ihLeft ihRight =>
      rcases ordered with ⟨-, -, leftOrdered, rightOrdered⟩
      simp only [popSwapped]
      rcases subTop_cases ranking mLeft mRight with
        ⟨chosen, -, -⟩ | ⟨top, chosen, isTop, lower⟩ | ⟨top, chosen, isTop, lower⟩
      · simp [chosen, Ordered]
      · have dominates := leftOrdered.dominates ranking top isTop
        have otherSide := dominates_of_top ranking (rightOrdered.dominates ranking) lower
        rw [← elements_popSwapped ranking data isTop, dominates_cons] at dominates
        simp only [chosen]
        exact ordered_of_dominates dominates.2 otherSide (ihLeft leftOrdered) rightOrdered
      · have dominates := rightOrdered.dominates ranking top isTop
        have otherSide := dominates_of_top ranking (leftOrdered.dominates ranking) lower
        rw [← elements_popSwapped ranking data isTop, dominates_cons] at dominates
        simp only [chosen]
        exact ordered_of_dominates otherSide dominates.2 leftOrdered (ihRight rightOrdered)

theorem pop_spec (ranking : IsRanking (OutRanks ranks)) {top : α} (isTop : top ∈ tree.data?) :
    (pop ranks tree).1 = some top ∧ top ::ₘ (pop ranks tree).2.elements = tree.elements := by
  cases tree with
  | null => simp at isTop
  | node mSize mLeft mRight mData =>
      have elements := elements_popSwapped ranking mData isTop
      simp only [data?_node, Option.mem_some] at isTop
      subst isTop
      refine ⟨?_, elements⟩
      simp only [pop, popSwapped_fst]

theorem Sized.pop (sized : tree.Sized) (ranking : IsRanking (OutRanks ranks)) :
    (pop ranks tree).2.Sized := by
  cases tree with
  | null => trivial
  | node mSize mLeft mRight mData => exact sized.popSwapped ranking

theorem Ordered.pop (ordered : tree.Ordered ranks) (ranking : IsRanking (OutRanks ranks)) :
    (pop ranks tree).2.Ordered ranks := by
  cases tree with
  | null => trivial
  | node mSize mLeft mRight mData => exact ordered.popSwapped ranking

end Pop

section Remove

variable [DecidableEq α]

theorem remove_spec (ordered : tree.Ordered ranks) (ranking : IsRanking (OutRanks ranks))
    (data : α) :
    (data ∈ tree.elements ∧ ∃ tree', remove ranks tree data = (some data, tree') ∧
        data ::ₘ tree'.elements = tree.elements ∧ (tree.Sized → tree'.Sized) ∧
        tree'.Ordered ranks) ∨
      (data ∉ tree.elements ∧ remove ranks tree data = (none, tree)) := by
  induction tree with
  | null => simp [remove]
  | node mSize mLeft mRight mData ihLeft ihRight =>
      have whole := ordered
      have dominates := ordered.dominates ranking mData rfl
      rcases ordered with ⟨-, -, leftOrdered, rightOrdered⟩
      by_cases isTop : data = mData
      · subst isTop
        left
        have isTop : data ∈ (node mSize mLeft mRight data).data? := rfl
        rcases pop_spec ranking isTop with ⟨popped, elements⟩
        refine ⟨by simp, (pop ranks (node mSize mLeft mRight data)).2, ?_, elements,
          fun sized => sized.pop ranking, whole.pop ranking⟩
        simp only [remove, if_true]
        exact Prod.ext popped rfl
      · by_cases higher : OutRanks ranks data mData
        · right
          have notMem : data ∉ (node mSize mLeft mRight mData).elements :=
            fun mem => dominates data mem higher
          refine ⟨notMem, ?_⟩
          simp only [remove, isTop, higher, if_true, if_false]
        · simp only [elements_node, dominates_cons, dominates_add] at dominates
          rcases dominates with ⟨-, leftLower, rightLower⟩
          simp only [remove, isTop, higher, if_false, elements_node, mem_cons,
            mem_add, false_or]
          rcases ihLeft leftOrdered with
            ⟨inLeft, left', removed, elements, leftSized, left'Ordered⟩ | ⟨notLeft, missed⟩
          · left
            have lower := leftLower
            rw [← elements, dominates_cons] at lower
            refine ⟨Or.inl inLeft, node (mSize - 1) left' mRight mData, by simp only [removed], ?_,
              ?_, ordered_of_dominates lower.2 rightLower left'Ordered rightOrdered⟩
            · rw [elements_node, cons_swap, ← cons_add, elements]
            · rintro ⟨sizeEq, sized, rightSized⟩
              have less := congrArg card elements
              rw [card_cons] at less
              refine ⟨?_, leftSized sized, rightSized⟩
              omega
          · rcases ihRight rightOrdered with
              ⟨inRight, right', removed, elements, rightSized, right'Ordered⟩ | ⟨notRight, missed'⟩
            · left
              have lower := rightLower
              rw [← elements, dominates_cons] at lower
              refine ⟨Or.inr inRight, node (mSize - 1) mLeft right' mData,
                by simp only [missed, removed], ?_, ?_,
                ordered_of_dominates leftLower lower.2 leftOrdered right'Ordered⟩
              · rw [elements_node, cons_swap, ← add_cons, elements]
              · rintro ⟨sizeEq, leftSized, sized⟩
                have less := congrArg card elements
                rw [card_cons] at less
                refine ⟨?_, leftSized, rightSized sized⟩
                omega
            · right
              refine ⟨by simp [notLeft, notRight], ?_⟩
              simp only [missed, missed']

end Remove

theorem childOk_iff : tree.childOk ranks (tree.checkNodes ranks) mData = true ↔
    (∀ data ∈ tree.data?, ¬OutRanks ranks data mData) ∧ tree.checkNodes ranks = true := by
  cases tree <;> simp [childOk, checkNodes]

theorem checkNodes_iff : tree.checkNodes ranks = true ↔ tree.Ordered ranks ∧ tree.Sized := by
  induction tree with
  | null => simp [checkNodes, Ordered, Sized]
  | node mSize mLeft mRight mData ihLeft ihRight =>
      have tested : (node mSize mLeft mRight mData).checkNodes ranks = true ↔
          mLeft.childOk ranks (mLeft.checkNodes ranks) mData = true ∧
            mRight.childOk ranks (mRight.checkNodes ranks) mData = true ∧
            mSize - mLeft.size - mRight.size = 1 := by
        rw [checkNodes]
        split
        · rename_i leftBad
          simp only [Bool.not_eq_true'] at leftBad
          simp [leftBad]
        · split
          · rename_i rightBad
            simp only [Bool.not_eq_true'] at rightBad
            simp [rightBad]
          · simp_all
      rw [tested, childOk_iff, childOk_iff, ihLeft, ihRight]
      constructor
      · rintro ⟨⟨leftLower, leftOrdered, leftSized⟩, ⟨rightLower, rightOrdered, rightSized⟩, total⟩
        rw [leftSized.size_eq, rightSized.size_eq] at total
        exact ⟨⟨leftLower, rightLower, leftOrdered, rightOrdered⟩, by omega, leftSized, rightSized⟩
      · rintro ⟨⟨leftLower, rightLower, leftOrdered, rightOrdered⟩, total, leftSized, rightSized⟩
        refine ⟨⟨leftLower, leftOrdered, leftSized⟩, ⟨rightLower, rightOrdered, rightSized⟩, ?_⟩
        rw [leftSized.size_eq, rightSized.size_eq]
        omega

end Lemmas

end LocHeapNode

structure LocHeap (α : Type*) where
  mTree : LocHeapNode α
deriving DecidableEq

namespace LocHeap

variable {α : Type*} (ranks : α → α → ℤ) (heap : LocHeap α)

def empty : LocHeap α := ⟨.null⟩

def push (node : α) : LocHeap α :=
  if heap.mTree.isNull then ⟨.new node⟩ else ⟨heap.mTree.push ranks node⟩

def peek : Option α := heap.mTree.data?

def pop : Option α × LocHeap α :=
  if heap.mTree.isNull then (none, heap)
  else ((heap.mTree.pop ranks).1, ⟨(heap.mTree.pop ranks).2⟩)

def remove [DecidableEq α] (rankable : α) : Option α × LocHeap α :=
  if heap.mTree.isNull then (none, heap)
  else ((heap.mTree.remove ranks rankable).1, ⟨(heap.mTree.remove ranks rankable).2⟩)

def elements : Multiset α := heap.mTree.elements

structure HeapOk : Prop where
  ordered : heap.mTree.Ordered ranks
  sized : heap.mTree.Sized

variable {ranks heap}

theorem heapOk_empty : (empty : LocHeap α).HeapOk ranks := ⟨trivial, trivial⟩

theorem push_mTree (node : α) : (heap.push ranks node).mTree = heap.mTree.push ranks node := by
  unfold push
  split
  · rename_i isNull
    rw [LocHeapNode.isNull_iff.mp isNull, LocHeapNode.push_null]
  · rfl

@[simp]
theorem elements_push (node : α) : (heap.push ranks node).elements = node ::ₘ heap.elements := by
  simp only [elements, push_mTree, LocHeapNode.elements_push]

section

variable (ok : heap.HeapOk ranks)

include ok

variable (ranking : IsRanking (LocHeapNode.OutRanks ranks))

include ranking

theorem HeapOk.push (node : α) : (heap.push ranks node).HeapOk ranks := by
  constructor
  · rw [push_mTree]
    exact ok.ordered.push ranking
  · rw [push_mTree]
    exact ok.sized.push

theorem HeapOk.peek_cases :
    (heap.peek = none ∧ heap.elements = 0) ∨
      ∃ top, heap.peek = some top ∧ top ∈ heap.elements ∧
        Dominates (LocHeapNode.OutRanks ranks) top heap.elements := by
  rcases heap with ⟨mTree⟩
  cases mTree with
  | null => exact Or.inl ⟨rfl, rfl⟩
  | node mSize mLeft mRight mData =>
      right
      exact ⟨mData, rfl, LocHeapNode.mem_of_data? rfl, ok.ordered.dominates ranking mData rfl⟩

theorem HeapOk.pop [DecidableEq α] :
    (heap.pop ranks).2.HeapOk ranks ∧ (heap.pop ranks).1 = heap.peek ∧
      BagStep (LocHeapNode.OutRanks ranks) heap.elements .pop (heap.pop ranks).1
        (heap.pop ranks).2.elements := by
  rcases heap with ⟨mTree⟩
  cases mTree with
  | null => exact ⟨ok, rfl, .popEmpty rfl⟩
  | node mSize mLeft mRight mData =>
      have isTop : mData ∈ (LocHeapNode.node mSize mLeft mRight mData).data? := rfl
      rcases LocHeapNode.pop_spec ranking isTop with ⟨popped, elements⟩
      have less : (LocHeapNode.pop ranks (.node mSize mLeft mRight mData)).2.elements =
          (LocHeapNode.node mSize mLeft mRight mData).elements.erase mData := by
        rw [← elements, erase_cons_head]
      refine ⟨⟨ok.ordered.pop ranking, ok.sized.pop ranking⟩, popped, ?_⟩
      simp only [LocHeap.pop, LocHeapNode.isNull, Bool.false_eq_true, if_false, LocHeap.elements,
        popped, less]
      exact .pop mData (LocHeapNode.mem_of_data? isTop) (ok.ordered.dominates ranking mData isTop)

theorem HeapOk.remove [DecidableEq α] (rankable : α) :
    (heap.remove ranks rankable).2.HeapOk ranks ∧
      BagStep (LocHeapNode.OutRanks ranks) heap.elements (.remove rankable)
        (heap.remove ranks rankable).1 (heap.remove ranks rankable).2.elements := by
  simp only [LocHeap.remove]
  split
  · rename_i isNull
    refine ⟨ok, .removeOther rankable ?_⟩
    simp [LocHeap.elements, LocHeapNode.isNull_iff.mp isNull]
  · rcases LocHeapNode.remove_spec ok.ordered ranking rankable with
      ⟨mem, tree', removed, elements, sized, ordered⟩ | ⟨notMem, missed⟩
    · have less : tree'.elements = heap.mTree.elements.erase rankable := by
        rw [← elements, erase_cons_head]
      rw [removed]
      refine ⟨⟨ordered, sized ok.sized⟩, ?_⟩
      simp only [LocHeap.elements, less]
      exact .remove rankable mem
    · rw [missed]
      exact ⟨ok, .removeOther rankable notMem⟩

end

/-- What a removal does: the search finds an element exactly when it is stored, and takes this
element only. -/
structure RemoveOk [DecidableEq α] (ranks : α → α → ℤ) (heap : LocHeap α) (rankable : α) :
    Prop where
  found : (heap.remove ranks rankable).1 = some rankable ↔ rankable ∈ heap.elements
  taken : rankable ∈ heap.elements →
    (heap.remove ranks rankable).2.elements = heap.elements.erase rankable
  missed : rankable ∉ heap.elements → heap.remove ranks rankable = (none, heap)

theorem HeapOk.removeOk [DecidableEq α] (ok : heap.HeapOk ranks)
    (ranking : IsRanking (LocHeapNode.OutRanks ranks)) (rankable : α) :
    heap.RemoveOk ranks rankable := by
  have missed : rankable ∉ heap.elements → heap.remove ranks rankable = (none, heap) := by
    intro notMem
    unfold LocHeap.remove
    split
    · rfl
    · rcases LocHeapNode.remove_spec ok.ordered ranking rankable with ⟨mem, -⟩ | ⟨-, missed⟩
      · exact absurd mem notMem
      · rw [missed]
  constructor
  · rcases (ok.remove ranking rankable).2.remove_cases with ⟨mem, found, -⟩ | ⟨notMem, lost, -⟩
    · simp [found, mem]
    · simp [lost, notMem]
  · intro mem
    rcases (ok.remove ranking rankable).2.remove_cases with ⟨-, -, less⟩ | ⟨notMem, -, -⟩
    · exact less
    · exact absurd mem notMem
  · exact missed

section Runs

variable [DecidableEq α]

def apply (ranks : α → α → ℤ) (heap : LocHeap α) : BagOp α → Option α × LocHeap α
  | .push node => (none, heap.push ranks node)
  | .pop => heap.pop ranks
  | .remove rankable => heap.remove ranks rankable

structure HeapRun (α : Type*) where
  heap : LocHeap α
  log : List (BagOp α × Option α)

def HeapRun.Step (ranks : α → α → ℤ) (run : HeapRun α) (op : BagOp α) (next : HeapRun α) : Prop :=
  next = ⟨(run.heap.apply ranks op).2, (op, (run.heap.apply ranks op).1) :: run.log⟩

theorem HeapOk.apply (ok : heap.HeapOk ranks)
    (ranking : IsRanking (LocHeapNode.OutRanks ranks)) (op : BagOp α) :
    (heap.apply ranks op).2.HeapOk ranks ∧
      BagStep (LocHeapNode.OutRanks ranks) heap.elements op (heap.apply ranks op).1
        (heap.apply ranks op).2.elements := by
  cases op with
  | push node =>
      refine ⟨ok.push ranking node, ?_⟩
      simp only [LocHeap.apply, elements_push]
      exact .push node
  | pop => exact ⟨(ok.pop ranking).1, (ok.pop ranking).2.2⟩
  | remove rankable => exact ok.remove ranking rankable

/-- After every run ranks and sizes are right, the stored elements are those that were pushed and
not taken, and every operation answers as a bag of ranked elements does. -/
theorem reachable_heapOk (ranking : IsRanking (LocHeapNode.OutRanks ranks)) {run : HeapRun α}
    (reached : Run.Reachable (fun run => run = ⟨empty, []⟩) (HeapRun.Step ranks) run) :
    run.heap.HeapOk ranks ∧ run.heap.mTree.checkNodes ranks = true ∧
      run.heap.elements + taken run.log = pushed run.log ∧
      ∀ op, BagStep (LocHeapNode.OutRanks ranks) run.heap.elements op
        (run.heap.apply ranks op).1 (run.heap.apply ranks op).2.elements := by
  have refined := reached.refines (fun run => run = ⟨0, []⟩)
    (BagRun.Step (LocHeapNode.OutRanks ranks))
    (fun run => run.heap.HeapOk ranks) (fun run => ⟨run.heap.elements, run.log⟩)
    (by
      rintro _ rfl
      exact ⟨heapOk_empty, rfl⟩)
    (by
      rintro run op _ ok rfl
      rcases ok.apply ranking op with ⟨nextOk, step⟩
      exact ⟨nextOk, _, step, rfl⟩)
  rcases refined with ⟨ok, bagReached⟩
  refine ⟨ok, ?_, reachable_conserved bagReached, fun op => (ok.apply ranking op).2⟩
  exact LocHeapNode.checkNodes_iff.mpr ⟨ok.ordered, ok.sized⟩

theorem reachable_heapOk_remove_pop :
    ∃ run : HeapRun ℤ, run.log.map Prod.snd = [some 4, some 5, none, none, none, none] ∧
      run.heap.elements + taken run.log = pushed run.log := by
  let ranks : ℤ → ℤ → ℤ := fun one other => one - other
  have ranking : IsRanking (LocHeapNode.OutRanks ranks) := by
    constructor
    · intro one other higher
      simp only [LocHeapNode.OutRanks, ranks] at *
      omega
    · intro one other third
      simp only [LocHeapNode.OutRanks, ranks]
      omega
  have reached : Run.Reachable (fun run => run = ⟨empty, []⟩) (HeapRun.Step ranks) _ :=
    .next .pop (.next (.remove 5) (.next (.push 1) (.next (.push 4) (.next (.push 5)
      (.next (.push 3) (.start rfl) rfl) rfl) rfl) rfl) rfl) rfl
  exact ⟨_, by decide, (reachable_heapOk ranking reached).2.2.1⟩

/-- After every run the search is complete, whatever ties there are. -/
theorem reachable_removeOk (ranking : IsRanking (LocHeapNode.OutRanks ranks)) {run : HeapRun α}
    (reached : Run.Reachable (fun run => run = ⟨empty, []⟩) (HeapRun.Step ranks) run)
    (rankable : α) : run.heap.RemoveOk ranks rankable :=
  (reachable_heapOk ranking reached).1.removeOk ranking rankable

theorem reachable_removeOk_ties :
    ∃ run : HeapRun ℤ, run.heap.elements = {1, 2, 4} ∧
      run.heap.RemoveOk (fun _ _ => 0) 4 ∧ run.heap.RemoveOk (fun _ _ => 0) 3 := by
  have ranking : IsRanking (LocHeapNode.OutRanks fun _ _ : ℤ => 0) := by
    constructor
    · intro one other higher
      cases higher
    · intro one other third _ _ higher
      cases higher
  have reached : Run.Reachable (fun run => run = ⟨empty, []⟩)
      (HeapRun.Step fun _ _ : ℤ => 0) _ :=
    .next (.remove 3) (.next (.push 4) (.next (.push 3) (.next (.push 2) (.next (.push 1)
      (.start rfl) rfl) rfl) rfl) rfl) rfl
  exact ⟨_, by decide, reachable_removeOk ranking reached 4, reachable_removeOk ranking reached 3⟩

/-- `pop` until the heap is empty, for at most `fuel` elements. -/
def popAll (ranks : α → α → ℤ) : ℕ → LocHeap α → List α
  | 0, _ => []
  | fuel + 1, heap =>
      match heap.pop ranks with
      | (some top, rest) => top :: popAll ranks fuel rest
      | (none, _) => []

theorem HeapOk.popAll (ok : heap.HeapOk ranks) (ranking : IsRanking (LocHeapNode.OutRanks ranks))
    {fuel : ℕ} (enough : heap.elements.card ≤ fuel) :
    (popAll ranks fuel heap : Multiset α) = heap.elements ∧
      (popAll ranks fuel heap).Pairwise fun top lower => ¬LocHeapNode.OutRanks ranks lower top := by
  induction fuel generalizing heap with
  | zero =>
      have isEmpty : heap.elements = 0 := card_eq_zero.mp (Nat.le_zero.mp enough)
      simp [LocHeap.popAll, isEmpty]
  | succ fuel ih =>
      rcases ok.pop ranking with ⟨restOk, -, step⟩
      rcases popped : heap.pop ranks with ⟨answer, rest⟩
      simp only [popped] at restOk step
      generalize left : rest.elements = bag at step
      cases step with
      | popEmpty isEmpty => simp [LocHeap.popAll, popped, isEmpty]
      | pop top mem dominates =>
          have less : rest.elements.card ≤ fuel := by
            rw [left, card_erase_of_mem mem]
            exact Nat.pred_le_iff.mpr enough
          rcases ih restOk less with ⟨elements, ordered⟩
          simp only [LocHeap.popAll, popped, List.pairwise_cons]
          refine ⟨?_, fun lower isLower => ?_, ordered⟩
          · rw [← cons_coe, elements, left, cons_erase mem]
          · apply dominates
            apply mem_of_mem_erase
            rw [← left, ← elements]
            exact isLower

/-- After every run the elements that are left are popped in the order of their ranks. -/
theorem reachable_popAll (ranking : IsRanking (LocHeapNode.OutRanks ranks)) {run : HeapRun α}
    (reached : Run.Reachable (fun run => run = ⟨empty, []⟩) (HeapRun.Step ranks) run) :
    (popAll ranks run.heap.elements.card run.heap : Multiset α) = run.heap.elements ∧
      (popAll ranks run.heap.elements.card run.heap).Pairwise fun top lower =>
        ¬LocHeapNode.OutRanks ranks lower top := by
  have ok : run.heap.HeapOk ranks := by
    apply reached.invariant fun run => run.heap.HeapOk ranks
    · rintro _ rfl
      exact heapOk_empty
    · rintro run op _ ok rfl
      exact (ok.apply ranking op).1
  exact ok.popAll ranking le_rfl

theorem reachable_popAll_sorted :
    ∃ run : HeapRun ℤ, run.heap.elements = {3, 4, 5} ∧
      (popAll (fun one other => one - other) run.heap.elements.card run.heap : Multiset ℤ) =
        run.heap.elements := by
  have ranking : IsRanking (LocHeapNode.OutRanks fun one other : ℤ => one - other) := by
    constructor <;> simp only [LocHeapNode.OutRanks] <;> omega
  have reached : Run.Reachable (fun run => run = ⟨empty, []⟩)
      (HeapRun.Step fun one other : ℤ => one - other) _ :=
    .next (.push 4) (.next (.push 5) (.next (.push 3) (.start rfl) rfl) rfl) rfl
  exact ⟨_, by decide, (reachable_popAll ranking reached).1⟩

end Runs

end LocHeap

end HtcPme.Gps
