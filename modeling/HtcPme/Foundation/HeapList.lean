import Mathlib.Data.List.Nodup
import Mathlib.Logic.Function.Basic
import Mathlib.Tactic.Common

/-!
# Lists of heap nodes

A heap holds the allocated nodes by address. A segment of a linked list is the addresses that
following the link field visits.
-/

namespace HeapList

variable {α β ν : Type*}

/-- The allocator: the address that the next allocation returns, if it succeeds, is not in
use. -/
structure Malloc (α ν : Type*) where
  alloc : (α → Option ν) → Option α
  fresh : ∀ heap addr, alloc heap = some addr → heap addr = none

/-- Following `next` from `start` visits the nodes of `entries` and then reaches `stop`. -/
def Segment (next : ν → Option α) (payload : ν → β) (heap : α → Option ν) :
    Option α → List (α × β) → Option α → Prop
  | start, [], stop => start = stop
  | start, entry :: rest, stop => start = some entry.1 ∧
      ∃ node, heap entry.1 = some node ∧ payload node = entry.2 ∧
        Segment next payload heap (next node) rest stop

variable {next : ν → Option α} {payload : ν → β} {heap heap' : α → Option ν}
  {start stop stop' : Option α} {entries front back : List (α × β)} {entry : α × β} {node : ν}

@[simp]
theorem segment_nil : Segment next payload heap start [] stop ↔ start = stop := .rfl

@[simp]
theorem segment_cons : Segment next payload heap start (entry :: entries) stop ↔
    start = some entry.1 ∧ ∃ node, heap entry.1 = some node ∧ payload node = entry.2 ∧
      Segment next payload heap (next node) entries stop := .rfl

theorem segment_append : Segment next payload heap start (front ++ back) stop ↔
    ∃ mid, Segment next payload heap start front mid ∧
      Segment next payload heap mid back stop := by
  induction front generalizing start with
  | nil => simp
  | cons first rest ih =>
      simp only [List.cons_append, segment_cons, ih]
      constructor
      · rintro ⟨startEq, node, atFirst, isPayload, mid, frontSeg, backSeg⟩
        exact ⟨mid, ⟨startEq, node, atFirst, isPayload, frontSeg⟩, backSeg⟩
      · rintro ⟨mid, ⟨startEq, node, atFirst, isPayload, frontSeg⟩, backSeg⟩
        exact ⟨startEq, node, atFirst, isPayload, mid, frontSeg, backSeg⟩

section

variable (segment : Segment next payload heap start entries stop)

include segment

theorem Segment.allocated
    (mem : entry ∈ entries) : ∃ node, heap entry.1 = some node ∧ payload node = entry.2 := by
  induction entries generalizing start with
  | nil => simp at mem
  | cons first rest ih =>
      rcases segment with ⟨_, node, atFirst, isPayload, segment⟩
      rcases List.mem_cons.mp mem with rfl | inRest
      · exact ⟨node, atFirst, isPayload⟩
      · exact ih segment inRest

theorem Segment.start_unique {start' : Option α}
    (segment' : Segment next payload heap' start' entries stop) : start = start' := by
  cases entries with
  | nil => exact Eq.trans segment segment'.symm
  | cons first rest => exact segment.1.trans segment'.1.symm

theorem Segment.not_mem_of_free
    {addr : α} (isFree : heap addr = none) : addr ∉ entries.map Prod.fst := by
  intro mem
  rcases List.mem_map.mp mem with ⟨entry, entryMem, rfl⟩
  rcases segment.allocated entryMem with ⟨node, atEntry, _⟩
  simp [isFree] at atEntry

theorem Segment.congr (agree : ∀ entry ∈ entries, ∀ node, heap entry.1 = some node →
      ∃ node', heap' entry.1 = some node' ∧ next node' = next node ∧
        payload node' = payload node) :
    Segment next payload heap' start entries stop := by
  induction entries generalizing start with
  | nil => exact segment
  | cons first rest ih =>
      rcases segment with ⟨startEq, node, atFirst, isPayload, segment⟩
      rcases agree first (by simp) node atFirst with ⟨node', atFirst', sameNext, samePayload⟩
      refine ⟨startEq, node', atFirst', samePayload.trans isPayload, ?_⟩
      rw [sameNext]
      exact ih segment fun entry mem => agree entry (List.mem_cons_of_mem _ mem)

end

variable [DecidableEq α]

theorem Segment.update (segment : Segment next payload heap start entries stop) {addr : α}
    (elsewhere : addr ∉ entries.map Prod.fst) (cell : Option ν) :
    Segment next payload (Function.update heap addr cell) start entries stop := by
  apply segment.congr
  intro entry mem node atEntry
  have differs : entry.1 ≠ addr := by
    rintro rfl
    exact elsewhere (List.mem_map_of_mem mem)
  exact ⟨node, by rw [Function.update_of_ne differs, atEntry], rfl, rfl⟩

theorem Segment.update_keeps (segment : Segment next payload heap start entries stop) {addr : α}
    {node' : ν} (keeps : ∀ node, heap addr = some node →
      next node' = next node ∧ payload node' = payload node) :
    Segment next payload (Function.update heap addr (some node')) start entries stop := by
  apply segment.congr
  intro entry mem node atEntry
  by_cases same : entry.1 = addr
  · subst same
    exact ⟨node', by simp, keeps node atEntry⟩
  · exact ⟨node, by rw [Function.update_of_ne same, atEntry], rfl, rfl⟩

theorem Segment.relinkLast {last : α × β}
    (segment : Segment next payload heap start (entries ++ [last]) stop)
    (nodup : ((entries ++ [last]).map Prod.fst).Nodup) {node' : ν}
    (isPayload : payload node' = last.2) (isNext : next node' = stop') :
    Segment next payload (Function.update heap last.1 (some node')) start (entries ++ [last])
      stop' := by
  rcases segment_append.mp segment with ⟨mid, frontSeg, midEq, _⟩
  refine segment_append.mpr ⟨mid, frontSeg.update ?_ _, midEq, node', by simp, isPayload, isNext⟩
  rw [List.map_append, List.nodup_append'] at nodup
  exact fun mem => nodup.2.2 mem (by simp)

end HeapList
