import HtcPme.Foundation.HeapList

/-!
# linked_list

The doubly linked list behind the message queue: elements are added at the head and removed from the
tail. The operations have no result when an element that is not allocated is read.
-/

namespace HtcPme.Gps

open Function (update update_of_ne update_self)

open HeapList List

structure ListElement (α δ φ : Type) where
  next : Option α
  prev : Option α
  dataPtr : δ
  deallocFunc : Option φ
deriving DecidableEq

/-- `list_state`, with the elements that are allocated and their number. -/
structure LinkedList (α δ φ : Type) where
  pHead : Option α
  pTail : Option α
  nodes : α → Option (ListElement α δ φ)
  live : ℕ

inductive LinkedListErr where
  | success
  | failureGeneral
  | invalidParameter
  | invalidHandle
  | unavailableResource
  | insufficientBuffer
deriving DecidableEq

namespace LinkedList

variable {α δ φ : Type} [DecidableEq α] (list : LinkedList α δ φ)

def init : LinkedList α δ φ := ⟨none, none, fun _ => none, 0⟩

def isEmpty : Bool := list.pHead.isNone

def add (dataObj : Option δ) (dealloc : Option φ) (malloc : Malloc α (ListElement α δ φ)) :
    Option (LinkedListErr × LinkedList α δ φ) :=
  match dataObj with
  | none => some (.invalidParameter, list)
  | some dataObj =>
      match malloc.alloc list.nodes with
      | none => some (.failureGeneral, list)
      | some elem =>
          let nodes := update list.nodes elem (some ⟨list.pHead, none, dataObj, dealloc⟩)
          let live := list.live + 1
          match list.pHead with
          | none => some (.success, { pHead := some elem, pTail := some elem, nodes, live })
          | some tmp => do
              let old ← nodes tmp
              let nodes := update nodes tmp (some { old with prev := some elem })
              some (.success, { pHead := some elem, pTail := list.pTail, nodes, live })

def remove : Option (LinkedListErr × Option δ × LinkedList α δ φ) :=
  match list.pTail with
  | none => some (.unavailableResource, none, list)
  | some tmp => do
      let node ← list.nodes tmp
      let live := list.live - 1
      match node.prev with
      | none =>
          let nodes := update list.nodes tmp none
          some (.success, some node.dataPtr, { pHead := none, pTail := none, nodes, live })
      | some tail =>
          let before ← list.nodes tail
          let nodes := update list.nodes tail (some { before with next := none })
          let nodes := update nodes tmp none
          some (.success, some node.dataPtr,
            { pHead := list.pHead, pTail := some tail, nodes, live })

def deallocCall (entry : δ × Option φ) : Option (φ × δ) :=
  entry.2.map fun dealloc => (dealloc, entry.1)

/-- The loop of `linked_list_flush` and what follows it, for at most `fuel` elements: the calls of
dealloc functions, in order. -/
def flushLoop : ℕ → LinkedList α δ φ → Option (List (φ × δ) × LinkedList α δ φ)
  | fuel, list =>
      match list.pHead with
      | none => some ([], { list with pTail := none })
      | some head =>
          match fuel with
          | 0 => none
          | fuel + 1 => do
              let node ← list.nodes head
              let nodes := update list.nodes head none
              let (calls, flushed) ← flushLoop fuel
                { list with pHead := node.next, nodes, live := list.live - 1 }
              some ((deallocCall (node.dataPtr, node.deallocFunc)).toList ++ calls, flushed)

def flush : Option (List (φ × δ) × LinkedList α δ φ) := flushLoop list.live list

/-- What is met from the tail on, for at most `fuel` elements. -/
def walk (nodes : α → Option (ListElement α δ φ)) : ℕ → Option α → List (δ × Option φ)
  | 0, _ => []
  | _, none => []
  | fuel + 1, some elem =>
      match nodes elem with
      | none => []
      | some node => (node.dataPtr, node.deallocFunc) :: walk nodes fuel node.prev

def contents : List (δ × Option φ) := walk list.nodes list.live list.pTail

def entry (node : ListElement α δ φ) : δ × Option φ := (node.dataPtr, node.deallocFunc)

structure Holds (entries : List (α × δ × Option φ)) : Prop where
  backward : Segment ListElement.prev entry list.nodes list.pTail entries none
  forward : Segment ListElement.next entry list.nodes list.pHead entries.reverse none
  nodup : (entries.map Prod.fst).Nodup
  live : list.live = entries.length

variable {list} {entries rest : List (α × δ × Option φ)} {first : α × δ × Option φ}

omit [DecidableEq α] in
theorem holds_init : (init : LinkedList α δ φ).Holds [] :=
  ⟨rfl, rfl, nodup_nil, rfl⟩

omit [DecidableEq α] in
theorem Holds.isEmpty_iff (holds : list.Holds entries) : list.isEmpty = true ↔ entries = [] := by
  have forward := holds.forward
  rcases eq_nil_or_concat' entries with rfl | ⟨front, last, rfl⟩
  · simp [isEmpty, show list.pHead = none from forward]
  · rw [reverse_append] at forward
    simp [isEmpty, show list.pHead = some last.1 from forward.1]

omit [DecidableEq α] in
theorem walk_eq {nodes : α → Option (ListElement α δ φ)} {start : Option α} {fuel : ℕ}
    (segment : Segment ListElement.prev entry nodes start entries none)
    (enough : entries.length ≤ fuel) : walk nodes fuel start = entries.map Prod.snd := by
  induction entries generalizing start fuel with
  | nil =>
      have isNull : start = none := segment
      subst isNull
      cases fuel <;> rfl
  | cons first rest ih =>
      rcases segment with ⟨rfl, node, atFirst, isEntry, segment⟩
      cases fuel with
      | zero => simp at enough
      | succ fuel =>
          simp only [walk, atFirst, map_cons, ih segment (by simpa using enough), ← isEntry]
          rfl

omit [DecidableEq α] in
theorem Holds.contents_eq (holds : list.Holds entries) :
    list.contents = entries.map Prod.snd :=
  walk_eq holds.backward (Nat.le_of_eq holds.live.symm)

theorem Holds.add (holds : list.Holds entries) (dataObj : δ) (dealloc : Option φ)
    (malloc : Malloc α (ListElement α δ φ)) :
    list.add (some dataObj) dealloc malloc = some (.failureGeneral, list) ∨
      ∃ elem next, list.add (some dataObj) dealloc malloc = some (.success, next) ∧
        next.Holds (entries ++ [(elem, dataObj, dealloc)]) := by
  unfold LinkedList.add
  cases allocated : malloc.alloc list.nodes with
  | none => exact .inl rfl
  | some elem =>
      right
      refine ⟨elem, ?_⟩
      have isFree := malloc.fresh _ _ allocated
      have notMem := holds.backward.not_mem_of_free isFree
      have nodup : ((entries ++ [(elem, dataObj, dealloc)]).map Prod.fst).Nodup := by
        rw [map_append, nodup_append']
        refine ⟨holds.nodup, by simp, ?_⟩
        intro addr mem isNew
        rw [map_singleton, mem_singleton] at isNew
        subst isNew
        exact notMem mem
      rcases eq_nil_or_concat' entries with rfl | ⟨front, last, rfl⟩
      · have headNull : list.pHead = none := holds.forward
        simp only [headNull]
        refine ⟨_, rfl, ?_, ?_, nodup, by simp [holds.live]⟩
        · exact ⟨rfl, ⟨none, none, dataObj, dealloc⟩, by simp, rfl, rfl⟩
        · exact ⟨rfl, ⟨none, none, dataObj, dealloc⟩, by simp, rfl, rfl⟩
      · have notMemReverse : elem ∉ (front ++ [last]).reverse.map Prod.fst := by
          rw [map_reverse, mem_reverse]
          exact notMem
        have isHead : list.pHead = some last.1 := by
          have forward := holds.forward
          rw [reverse_append] at forward
          exact forward.1
        have differs : last.1 ≠ elem := by
          rintro rfl
          exact notMem (by simp)
        rcases holds.backward.allocated (show last ∈ front ++ [last] by simp) with
          ⟨old, atLast, oldEntry⟩
        have fresh := holds.forward.update notMemReverse
          (some ⟨some last.1, none, dataObj, dealloc⟩)
        have freshBack := holds.backward.update notMem
          (some ⟨some last.1, none, dataObj, dealloc⟩)
        have atLast' : update list.nodes elem
            (some ⟨some last.1, none, dataObj, dealloc⟩) last.1 = some old := by
          rw [update_of_ne differs, atLast]
        simp only [isHead, atLast', Option.bind_eq_bind, Option.bind_some]
        refine ⟨_, rfl, ?_, ?_, nodup, by simp [holds.live]⟩
        · refine segment_append.mpr ⟨some elem, ?_, rfl, ⟨some last.1, none, dataObj, dealloc⟩, ?_,
            rfl, rfl⟩
          · exact freshBack.relinkLast holds.nodup oldEntry rfl
          · dsimp only
            rw [update_of_ne differs.symm, update_self]
        · rw [reverse_append]
          refine ⟨rfl, ⟨some last.1, none, dataObj, dealloc⟩, ?_, rfl, ?_⟩
          · dsimp only [reverse_singleton]
            rw [update_of_ne differs.symm, update_self]
          · have kept : ∀ node, update list.nodes elem
                (some ⟨some last.1, none, dataObj, dealloc⟩) last.1 = some node →
                ListElement.next { old with prev := some elem } = node.next ∧
                  entry { old with prev := some elem } = entry node := by
              intro node atNode
              rw [atLast'] at atNode
              cases atNode
              exact ⟨rfl, rfl⟩
            have linked := fresh.update_keeps kept
            rw [isHead] at linked
            exact linked

theorem Holds.remove_nil (holds : list.Holds []) :
    list.remove = some (.unavailableResource, none, list) := by
  simp [LinkedList.remove, show list.pTail = none from holds.backward]

theorem Holds.remove_cons (holds : list.Holds (first :: rest)) :
    ∃ next, list.remove = some (.success, some first.2.1, next) ∧ next.Holds rest := by
  rcases holds with ⟨⟨tailEq, node, atFirst, isEntry, backward⟩, forward, nodup, live⟩
  have dataEq : node.dataPtr = first.2.1 := congrArg Prod.fst isEntry
  have liveRest : list.live - 1 = rest.length := by
    rw [live, length_cons]
    omega
  rw [map_cons, nodup_cons] at nodup
  rcases nodup with ⟨notMem, nodup⟩
  unfold LinkedList.remove
  cases rest with
  | nil =>
      have prevNull : node.prev = none := backward
      simp only [tailEq, atFirst, Option.bind_eq_bind, Option.bind_some, prevNull, dataEq]
      exact ⟨_, rfl, rfl, rfl, nodup_nil, liveRest⟩
  | cons second rest =>
      rcases backward with ⟨prevEq, before, atSecond, beforeEntry, backward⟩
      simp only [tailEq, atFirst, Option.bind_eq_bind, Option.bind_some, prevEq, atSecond, dataEq]
      refine ⟨_, rfl, ?_, ?_, nodup, liveRest⟩
      · have kept : ∀ node, list.nodes second.1 = some node →
            ListElement.prev { before with next := none } = node.prev ∧
              entry { before with next := none } = entry node := by
          intro node atNode
          rw [atSecond] at atNode
          cases atNode
          exact ⟨rfl, rfl⟩
        have whole : Segment ListElement.prev entry list.nodes (some second.1) (second :: rest)
            none := ⟨rfl, before, atSecond, beforeEntry, backward⟩
        exact (whole.update_keeps kept).update notMem none
      · rw [reverse_cons] at forward
        rcases segment_append.mp forward with ⟨mid, forward, -⟩
        rw [reverse_cons] at forward ⊢
        have nodupReverse : ((rest.reverse ++ [second]).map Prod.fst).Nodup := by
          rw [← reverse_cons, map_reverse, nodup_reverse]
          exact nodup
        have notMemReverse : first.1 ∉ (rest.reverse ++ [second]).map Prod.fst := by
          rw [← reverse_cons, map_reverse, mem_reverse]
          exact notMem
        have relinked : Segment ListElement.next entry
            (update list.nodes second.1 (some { before with next := none })) list.pHead
            (rest.reverse ++ [second]) none :=
          forward.relinkLast nodupReverse beforeEntry rfl
        exact relinked.update notMemReverse none

theorem flushLoop_eq {fuel : ℕ}
    (forward : Segment ListElement.next entry list.nodes list.pHead entries none)
    (nodup : (entries.map Prod.fst).Nodup) (live : list.live = entries.length)
    (enough : entries.length ≤ fuel) :
    ∃ next, flushLoop fuel list = some ((entries.map Prod.snd).filterMap deallocCall, next) ∧
      next.Holds [] := by
  induction entries generalizing fuel list with
  | nil =>
      have headNull : list.pHead = none := forward
      unfold flushLoop
      simp only [headNull]
      exact ⟨_, rfl, rfl, rfl, nodup_nil, live⟩
  | cons first rest ih =>
      rcases forward with ⟨headEq, node, atFirst, isEntry, forward⟩
      rw [map_cons, nodup_cons] at nodup
      cases fuel with
      | zero => simp at enough
      | succ fuel =>
          have liveRest : list.live - 1 = rest.length := by
            rw [live, length_cons]
            omega
          let freed : LinkedList α δ φ :=
            { list with
              pHead := node.next
              nodes := update list.nodes first.1 none
              live := list.live - 1 }
          have remains : Segment ListElement.next entry freed.nodes freed.pHead rest none :=
            forward.update nodup.1 none
          rcases ih remains nodup.2 liveRest (by simpa using enough) with
            ⟨next, flushed, nextHolds⟩
          refine ⟨next, ?_, nextHolds⟩
          have payload : (node.dataPtr, node.deallocFunc) = first.2 := isEntry
          unfold flushLoop
          simp only [freed] at flushed
          simp only [headEq, atFirst, Option.bind_eq_bind, Option.bind_some, flushed, payload,
            map_cons, filterMap_cons]
          cases deallocCall first.2 <;> rfl

theorem Holds.flush (holds : list.Holds entries) :
    ∃ next, list.flush = some ((entries.reverse.map Prod.snd).filterMap deallocCall, next) ∧
      next.Holds [] := by
  apply flushLoop_eq holds.forward
  · rw [map_reverse, nodup_reverse]
    exact holds.nodup
  · rw [length_reverse]
    exact holds.live
  · rw [length_reverse]
    exact Nat.le_of_eq holds.live.symm

end LinkedList

end HtcPme.Gps
