import HtcPme.Foundation.HeapList
import HtcPme.Foundation.Run

/-!
# Command queue

Taking the last message leaves `Tail` at a message that is deleted later, whose address a new
message may get.
-/

namespace HtcPme.Ipacm

open HeapList List Function Prod

structure Message (α δ : Type) where
  mNext : Option α
  evt : δ
deriving DecidableEq

structure MessageQueue (α : Type) where
  head : Option α
  tail : Option α
deriving DecidableEq

structure CmdQueue (α δ : Type) where
  inst : MessageQueue α
  nodes : α → Option (Message α δ)

namespace CmdQueue

variable {α δ : Type} [DecidableEq α] (queue : CmdQueue α δ)

def init : CmdQueue α δ := ⟨⟨none, none⟩, fun _ => none⟩

/-- `new Message()`, with the command that is filled in before the message is enqueued. -/
def create (item : α) (evt : δ) : CmdQueue α δ :=
  { queue with nodes := Function.update queue.nodes item (some ⟨none, evt⟩) }

/-- `setnext`; there is no result for a message that is not allocated. -/
def setnext (message item : α) : Option (CmdQueue α δ) := do
  let node ← queue.nodes message
  some { queue with
    nodes := Function.update queue.nodes message (some { node with mNext := some item }) }

def enqueue (item : α) : Option (CmdQueue α δ) :=
  match queue.inst.head with
  | none => some { queue with inst := ⟨some item, some item⟩ }
  | some head => do
      let linked ← queue.setnext (queue.inst.tail.getD head) item
      some { linked with inst := { linked.inst with tail := some item } }

omit [DecidableEq α] in
def dequeue : Option (Option α × CmdQueue α δ) :=
  match queue.inst.head with
  | none => some (none, queue)
  | some tmp => do
      let node ← queue.nodes tmp
      some (some tmp, { queue with inst := { queue.inst with head := node.mNext } })

def delete (item : α) : CmdQueue α δ :=
  { queue with nodes := Function.update queue.nodes item none }

/-- The messages from `Head` on are the given ones. `Tail` is the last of them, and any address
where there is none. -/
structure Holds (entries : List (α × δ)) : Prop where
  segment : Segment Message.mNext Message.evt queue.nodes queue.inst.head entries none
  tail : ∀ last ∈ entries.getLast?, queue.inst.tail = some last.1
  nodup : (entries.map Prod.fst).Nodup

variable {queue} {entries rest : List (α × δ)} {first : α × δ} {item : α} {evt : δ}

omit [DecidableEq α] in
theorem holds_init : (init : CmdQueue α δ).Holds [] := by
  constructor
  · rfl
  · simp
  · exact nodup_nil

section

variable (holds : queue.Holds entries)

include holds

omit [DecidableEq α] in
theorem Holds.head_eq :
    queue.inst.head = entries.head?.map fst := by
  have segment := holds.segment
  cases entries with
  | nil => exact segment
  | cons first rest => exact segment.1

theorem Holds.update (elsewhere : item ∉ entries.map fst)
    (cell : Option (Message α δ)) :
    Holds { queue with nodes := update queue.nodes item cell } entries := by
  constructor
  · exact holds.segment.update elsewhere cell
  · exact holds.tail
  · exact holds.nodup

theorem Holds.enqueue (isNew : queue.nodes item = some ⟨none, evt⟩)
    (elsewhere : item ∉ entries.map fst) :
    ∃ next, queue.enqueue item = some next ∧ next.Holds (entries ++ [(item, evt)]) ∧
      ∀ other, other ∉ entries.map fst → next.nodes other = queue.nodes other := by
  have nodup : ((entries ++ [(item, evt)]).map fst).Nodup := by
    rw [map_append, nodup_append']
    refine ⟨holds.nodup, by simp, ?_⟩
    intro addr mem isItem
    rw [map_singleton, mem_singleton] at isItem
    subst isItem
    exact elsewhere mem
  have isHead := holds.head_eq
  unfold CmdQueue.enqueue
  rcases eq_nil_or_concat' entries with rfl | ⟨front, last, rfl⟩
  · simp only [head?_nil, Option.map_none] at isHead
    simp only [isHead]
    refine ⟨_, rfl, ⟨⟨rfl, _, isNew, rfl, rfl⟩, ?_, nodup⟩, fun _ _ => rfl⟩
    simp
  · have isTail := holds.tail last (by simp)
    rcases holds.segment.allocated (show last ∈ front ++ [last] by simp) with
      ⟨node, atLast, isEvt⟩
    have sameEvt : ({ node with mNext := some item } : Message α δ).evt = last.2 := isEvt
    have linked := holds.segment.relinkLast holds.nodup sameEvt rfl
    have differs : item ≠ last.1 := by
      rintro rfl
      exact elsewhere (by simp)
    cases headEq : queue.inst.head with
    | none => simp [headEq] at isHead
    | some head =>
        simp only [isTail, Option.getD_some, setnext, atLast, Option.bind_eq_bind,
          Option.bind_some]
        refine ⟨_, rfl, ⟨?_, by simp, nodup⟩, ?_⟩
        · refine segment_append.mpr ⟨_, linked, rfl, ⟨none, evt⟩, ?_, rfl, rfl⟩
          dsimp only
          rw [update_of_ne differs, isNew]
        · intro other notMem
          apply update_of_ne
          rintro rfl
          exact notMem (by simp)

end

omit [DecidableEq α] in
theorem Holds.dequeue_nil (holds : queue.Holds []) : queue.dequeue = some (none, queue) := by
  have isNull : queue.inst.head = none := holds.head_eq
  simp only [CmdQueue.dequeue, isNull]

omit [DecidableEq α] in
theorem Holds.dequeue_cons (holds : queue.Holds (first :: rest)) :
    ∃ next, queue.dequeue = some (some first.1, next) ∧ next.Holds rest ∧
      next.nodes = queue.nodes := by
  rcases holds with ⟨⟨isHead, node, atFirst, -, segment⟩, tail, nodup⟩
  rw [map_cons, nodup_cons] at nodup
  simp only [CmdQueue.dequeue, isHead, atFirst, Option.bind_eq_bind, Option.bind_some]
  refine ⟨_, rfl, ⟨segment, ?_, nodup.2⟩, rfl⟩
  intro last isLast
  apply tail last
  rw [Option.mem_def] at isLast ⊢
  rw [getLast?_cons, isLast]
  rfl

end CmdQueue

/-- The queue between its threads: the messages that were created and not yet enqueued, those that
were dequeued and not yet deleted, and what was enqueued and dequeued so far. -/
structure Posting (α δ : Type) where
  queue : CmdQueue α δ
  created : List α
  dequeued : List α
  sent : List (α × δ)
  received : List (α × δ)

/-- What a thread does: `PostEvt` creates a message and enqueues it under the lock, `Process`
dequeues it under the lock and deletes it after the callback. -/
inductive PostingEvent (α δ : Type) where
  | create (item : α) (evt : δ)
  | enqueue (item : α)
  | dequeue
  | delete (item : α)

namespace Posting

variable {α δ : Type} [DecidableEq α] (posting : Posting α δ)

def init : Posting α δ := ⟨.init, [], [], [], []⟩

/-- A message is created where none is, enqueued once by the thread that created it, and deleted
once it has been dequeued. -/
def Enabled : PostingEvent α δ → Prop
  | .create item _ => posting.queue.nodes item = none
  | .enqueue item => item ∈ posting.created
  | .dequeue => True
  | .delete item => item ∈ posting.dequeued

def entryAt (item : α) : Option (α × δ) :=
  (posting.queue.nodes item).map fun node => (item, node.evt)

def apply : PostingEvent α δ → Option (Option α × Posting α δ)
  | .create item evt =>
      some (none, { posting with
        queue := posting.queue.create item evt, created := item :: posting.created })
  | .enqueue item => do
      let queue ← posting.queue.enqueue item
      some (none, { posting with
        queue := queue
        created := posting.created.erase item
        sent := posting.sent ++ (posting.entryAt item).toList })
  | .dequeue => do
      let (answer, queue) ← posting.queue.dequeue
      some (answer, { posting with
        queue := queue
        dequeued := answer.toList ++ posting.dequeued
        received := posting.received ++ (answer.bind posting.entryAt).toList })
  | .delete item =>
      some (none, { posting with
        queue := posting.queue.delete item, dequeued := posting.dequeued.erase item })

def Step (event : PostingEvent α δ) (next : Posting α δ) : Prop :=
  posting.Enabled event ∧ ∃ answer, posting.apply event = some (answer, next)

structure FifoOk : Prop where
  /-- Messages were dequeued in the order in which they were enqueued, each once. -/
  order : posting.received <+: posting.sent
  /-- The next message is the oldest that was not dequeued, and `NULL` when all were. -/
  answer : ∃ next, posting.apply .dequeue =
    some ((posting.sent[posting.received.length]?).map Prod.fst, next)
  /-- No call reads or writes a message that is not allocated. -/
  returns : ∀ event, posting.Enabled event → ∃ ended, posting.apply event = some ended

structure Inv (entries : List (α × δ)) : Prop where
  holds : posting.queue.Holds entries
  sent : posting.sent = posting.received ++ entries
  created : ∀ item ∈ posting.created, ∃ evt, posting.queue.nodes item = some ⟨none, evt⟩
  dequeued : ∀ item ∈ posting.dequeued, (posting.queue.nodes item).isSome
  nodup : (posting.created ++ (entries.map Prod.fst ++ posting.dequeued)).Nodup

variable {posting next : Posting α δ} {entries : List (α × δ)} {item : α} {evt : δ}
  {answer : Option α}

section

variable (inv : posting.Inv entries)

include inv

omit [DecidableEq α] in
theorem Inv.next_eq :
    posting.sent[posting.received.length]? = entries.head? := by
  rw [inv.sent, getElem?_append_right (Nat.le_refl _), Nat.sub_self, head?_eq_getElem?]

theorem Inv.create (isFree : posting.queue.nodes item = none)
    (applied : posting.apply (.create item evt) = some (answer, next)) : next.Inv entries := by
  cases applied
  have notMem := inv.holds.segment.not_mem_of_free isFree
  have differs : ∀ other, (posting.queue.nodes other).isSome → other ≠ item := by
    rintro other isSome rfl
    simp [isFree] at isSome
  constructor
  · exact inv.holds.update notMem _
  · exact inv.sent
  · intro other mem
    rcases mem_cons.mp mem with rfl | old
    · exact ⟨evt, update_self ..⟩
    · rcases inv.created other old with ⟨evt', atOther⟩
      refine ⟨evt', ?_⟩
      rw [← atOther]
      exact update_of_ne (differs other (by simp [atOther])) ..
  · intro other mem
    have atOther := inv.dequeued other mem
    have kept : (posting.queue.create item evt).nodes other = posting.queue.nodes other :=
      update_of_ne (differs other atOther) ..
    rwa [kept]
  · rw [cons_append, nodup_cons]
    refine ⟨?_, inv.nodup⟩
    simp only [mem_append, not_or]
    refine ⟨?_, notMem, ?_⟩
    · intro mem
      rcases inv.created item mem with ⟨evt', atItem⟩
      simp [isFree] at atItem
    · intro mem
      exact differs item (inv.dequeued item mem) rfl

theorem Inv.enqueue (mem : item ∈ posting.created) :
    ∃ evt next, posting.apply (.enqueue item) = some (none, next) ∧
      next.Inv (entries ++ [(item, evt)]) := by
  rcases inv.created item mem with ⟨evt, isNew⟩
  have nodup := inv.nodup
  rw [nodup_append'] at nodup
  rcases nodup with ⟨createdNodup, restNodup, disjoint⟩
  have notEntry : item ∉ entries.map fst :=
    fun inQueue => disjoint mem (mem_append_left _ inQueue)
  rcases inv.holds.enqueue isNew notEntry with ⟨queue, enqueued, holds, others⟩
  refine ⟨evt, _, by simp only [apply, enqueued]; rfl, ?_⟩
  constructor
  · exact holds
  · simp [entryAt, isNew, inv.sent]
  · intro other otherMem
    have old := mem_of_mem_erase otherMem
    have notEntry : other ∉ entries.map fst :=
      fun inQueue => disjoint old (mem_append_left _ inQueue)
    rw [others other notEntry]
    exact inv.created other old
  · intro other otherMem
    have notEntry : other ∉ entries.map fst :=
      fun inQueue => (nodup_append'.mp restNodup).2.2 inQueue otherMem
    rw [others other notEntry]
    exact inv.dequeued other otherMem
  · have moved : (posting.created.erase item ++
        ((entries ++ [(item, evt)]).map fst ++ posting.dequeued)).Perm
        (posting.created ++ (entries.map fst ++ posting.dequeued)) := by
      have front := (perm_cons_erase mem).symm.append_right
        (entries.map fst ++ posting.dequeued)
      refine List.Perm.trans ?_ front
      simp only [map_append, map_cons, map_nil, append_assoc,
        cons_append, nil_append]
      rw [← append_assoc, ← append_assoc (posting.created.erase item)]
      exact perm_middle
    exact moved.nodup_iff.mpr inv.nodup

theorem Inv.dequeue :
    ∃ next, posting.apply .dequeue = some (entries.head?.map fst, next) ∧
      next.Inv entries.tail := by
  cases entries with
  | nil =>
      have answered := inv.holds.dequeue_nil
      refine ⟨posting, ?_, inv⟩
      simp [apply, answered]
  | cons first rest =>
      rcases inv.holds.segment.allocated (mem_cons_self (a := first)) with
        ⟨node, atFirst, isEvt⟩
      rcases inv.holds.dequeue_cons with ⟨queue, dequeued, holds, sameNodes⟩
      refine ⟨_, by simp only [apply, dequeued]; rfl, ?_⟩
      constructor
      · exact holds
      · simp [entryAt, atFirst, isEvt, inv.sent]
      · rw [sameNodes]
        exact inv.created
      · rw [sameNodes]
        intro other mem
        rcases mem_cons.mp mem with rfl | old
        · simp [atFirst]
        · exact inv.dequeued other old
      · have moved : (posting.created ++
            (rest.map fst ++ (first.1 :: posting.dequeued))).Perm
            (posting.created ++ ((first :: rest).map fst ++ posting.dequeued)) := by
          apply List.Perm.append_left
          exact perm_middle
        exact moved.nodup_iff.mpr inv.nodup

theorem Inv.delete (mem : item ∈ posting.dequeued)
    (applied : posting.apply (.delete item) = some (answer, next)) : next.Inv entries := by
  cases applied
  have nodup := inv.nodup
  rw [nodup_append', nodup_append'] at nodup
  rcases nodup with ⟨createdNodup, ⟨entriesNodup, dequeuedNodup, disjoint⟩, createdDisjoint⟩
  have notEntry : item ∉ entries.map fst := fun inQueue => disjoint inQueue mem
  constructor
  · exact inv.holds.update notEntry none
  · exact inv.sent
  · intro other otherMem
    have differs : other ≠ item := by
      rintro rfl
      exact createdDisjoint otherMem (mem_append_right _ mem)
    rcases inv.created other otherMem with ⟨evt, atOther⟩
    exact ⟨evt, (update_of_ne differs ..).trans atOther⟩
  · intro other otherMem
    rcases dequeuedNodup.mem_erase_iff.mp otherMem with ⟨differs, old⟩
    have kept : (posting.queue.delete item).nodes other = posting.queue.nodes other :=
      update_of_ne differs ..
    rw [kept]
    exact inv.dequeued other old
  · have fewer := (erase_sublist (a := item) (l := posting.dequeued)).append_left
      (entries.map fst)
    exact (fewer.append_left posting.created).nodup inv.nodup

theorem Inv.step {event : PostingEvent α δ}
    (stepped : posting.Step event next) : ∃ entries', next.Inv entries' := by
  rcases stepped with ⟨enabled, answer, applied⟩
  cases event with
  | create item evt => exact ⟨entries, inv.create enabled applied⟩
  | enqueue item =>
      rcases inv.enqueue enabled with ⟨evt, after, enqueued, afterInv⟩
      rw [enqueued] at applied
      cases applied
      exact ⟨_, afterInv⟩
  | dequeue =>
      rcases inv.dequeue with ⟨after, dequeued, afterInv⟩
      rw [dequeued] at applied
      cases applied
      exact ⟨_, afterInv⟩
  | delete item => exact ⟨entries, inv.delete enabled applied⟩

theorem Inv.fifoOk : posting.FifoOk := by
  constructor
  · rw [inv.sent]
    exact prefix_append ..
  · rcases inv.dequeue with ⟨next, dequeued, -⟩
    rw [inv.next_eq]
    exact ⟨next, dequeued⟩
  · intro event enabled
    cases event with
    | create item evt => exact ⟨_, rfl⟩
    | enqueue item =>
        rcases inv.enqueue enabled with ⟨evt, next, enqueued, -⟩
        exact ⟨_, enqueued⟩
    | dequeue =>
        rcases inv.dequeue with ⟨next, dequeued, -⟩
        exact ⟨_, dequeued⟩
    | delete item => exact ⟨_, rfl⟩

end

/-- After every history the queue is first-in first-out, whatever addresses new messages get. -/
theorem reachable_fifoOk (reached : Run.Reachable (· = init) Step posting) : posting.FifoOk := by
  have kept : ∃ entries, posting.Inv entries := by
    apply reached.invariant fun posting => ∃ entries, posting.Inv entries
    · rintro _ rfl
      exact ⟨[], CmdQueue.holds_init, rfl, by simp [init], by simp [init], List.nodup_nil⟩
    · rintro current event after ⟨entries, inv⟩ stepped
      exact inv.step stepped
  rcases kept with ⟨entries, inv⟩
  exact inv.fifoOk

theorem reachable_fifoOk_refilled :
    ∃ posting : Posting ℕ ℕ, posting.sent = [(1, 5), (1, 6), (2, 7)] ∧
      posting.received = [(1, 5)] ∧ posting.queue.inst = ⟨some 1, some 2⟩ ∧ posting.FifoOk := by
  have emptied : Run.Reachable (· = init) Step _ :=
    .next (.delete 1) (.next .dequeue (.next (.enqueue 1) (.next (.create 1 5) (.start rfl)
      ⟨rfl, _, rfl⟩) ⟨List.mem_singleton.mpr rfl, _, rfl⟩) ⟨trivial, _, rfl⟩)
      ⟨List.mem_singleton.mpr rfl, _, rfl⟩
  have created : Run.Reachable (· = init) Step _ :=
    .next (.create 2 7) (.next (.create 1 6) emptied ⟨rfl, _, rfl⟩) ⟨rfl, _, rfl⟩
  have refilled : Run.Reachable (· = init) Step _ :=
    .next (.enqueue 2) (.next (.enqueue 1) created ⟨by simp [Enabled], _, rfl⟩)
      ⟨List.mem_singleton.mpr rfl, _, rfl⟩
  exact ⟨_, rfl, rfl, rfl, reachable_fifoOk refilled⟩

end Posting

end HtcPme.Ipacm
