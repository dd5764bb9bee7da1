import HtcPme.Foundation.HeapList
import HtcPme.Foundation.Run

/-!
# Event dispatcher

The listeners that have registered for events, in one linked list, and the processing of
an event, which walks the list while the callbacks it makes edit it.
-/

namespace HtcPme.Ipacm

open HeapList List Option

structure CmdEvts (ε ω α : Type) where
  event : ε
  obj : ω
  next : Option α

/-- The list, the nodes that are allocated and their number, and how often each event has
been delivered. -/
structure EvtDispatcher (ε ω α : Type) where
  head : Option α
  nodes : α → Option (CmdEvts ε ω α)
  live : ℕ
  ipacmEventStats : ε → UInt32

namespace EvtDispatcher

variable {ε ω α : Type} [DecidableEq ε] [DecidableEq ω] [DecidableEq α]

/-- The loop `while(tmp->next)`, for at most `fuel` nodes; there is no result when a node
that is not allocated is read. -/
def lastNode (nodes : α → Option (CmdEvts ε ω α)) : ℕ → α → Option α
  | 0, _ => none
  | fuel + 1, tmp => do
      let node ← nodes tmp
      match node.next with
      | none => some tmp
      | some next => lastNode nodes fuel next

def registr (dispatcher : EvtDispatcher ε ω α) (event : ε) (obj : ω)
    (malloc : Malloc α (CmdEvts ε ω α)) : Option (Bool × EvtDispatcher ε ω α) :=
  match malloc.alloc dispatcher.nodes with
  | none => some (false, dispatcher)
  | some nw =>
      let nodes := Function.update dispatcher.nodes nw (some ⟨event, obj, none⟩)
      let live := dispatcher.live + 1
      match dispatcher.head with
      | none => some (true, { dispatcher with head := some nw, nodes, live })
      | some head => do
          let tmp ← lastNode nodes live head
          let last ← nodes tmp
          some (true, { dispatcher with
            nodes := Function.update nodes tmp (some { last with next := some nw }), live })

/-- Takes the node at `tmp` out of the list, where `prev` is the node before it. -/
def unlink (dispatcher : EvtDispatcher ε ω α) (prev : Option α) (tmp : α)
    (node : CmdEvts ε ω α) : Option (EvtDispatcher ε ω α) :=
  if some tmp = dispatcher.head then
    some { dispatcher with head := node.next }
  else do
    let prev ← prev
    let before ← dispatcher.nodes prev
    some { dispatcher with
      nodes := Function.update dispatcher.nodes prev (some { before with next := node.next }) }

def free (dispatcher : EvtDispatcher ε ω α) (addr : α) : EvtDispatcher ε ω α :=
  { dispatcher with
    nodes := Function.update dispatcher.nodes addr none, live := dispatcher.live - 1 }

def deregistrLoop (param : ω) : ℕ → EvtDispatcher ε ω α → Option α → Option α →
    Option (EvtDispatcher ε ω α)
  | _, dispatcher, _, none => some dispatcher
  | 0, _, _, some _ => none
  | fuel + 1, dispatcher, prev, some tmp => do
      let node ← dispatcher.nodes tmp
      if node.obj = param then
        let unlinked ← unlink dispatcher prev tmp node
        deregistrLoop param fuel (unlinked.free tmp) prev node.next
      else
        deregistrLoop param fuel dispatcher (some tmp) node.next

def deregistr (dispatcher : EvtDispatcher ε ω α) (param : ω) : Option (EvtDispatcher ε ω α) :=
  deregistrLoop param dispatcher.live dispatcher dispatcher.head dispatcher.head

end EvtDispatcher

namespace EvtDispatcher

variable {ε ω α : Type}

def entry (node : CmdEvts ε ω α) : ε × ω := (node.event, node.obj)

structure Holds (dispatcher : EvtDispatcher ε ω α) (entries : List (α × ε × ω)) : Prop where
  segment : Segment CmdEvts.next entry dispatcher.nodes dispatcher.head entries none
  nodup : (entries.map Prod.fst).Nodup
  live : dispatcher.live = entries.length

variable {dispatcher : EvtDispatcher ε ω α} {entries kept rest : List (α × ε × ω)}
  {last : α × ε × ω} {nodes : α → Option (CmdEvts ε ω α)} {tmp : Option α}

theorem lastNode_eq {fuel : ℕ} {start : α}
    (segment : Segment CmdEvts.next entry nodes (some start) (entries ++ [last]) none)
    (enough : entries.length < fuel) : lastNode nodes fuel start = some last.1 := by
  induction entries generalizing start fuel with
  | nil =>
      rcases segment with ⟨startEq, node, atLast, _, isNull⟩
      cases startEq
      cases fuel with
      | zero => simp at enough
      | succ fuel => simp [lastNode, atLast, show node.next = none from isNull]
  | cons first rest ih =>
      rcases segment with ⟨startEq, node, atFirst, _, segment⟩
      cases startEq
      cases fuel with
      | zero => simp at enough
      | succ fuel =>
          cases next : node.next with
          | none =>
              rw [next] at segment
              cases rest <;> cases segment.1
          | some addr =>
              rw [next] at segment
              simp only [lastNode, atFirst, bind_eq_bind, bind_some, next]
              exact ih segment (by simpa using enough)

variable [DecidableEq α]

theorem Holds.registr (holds : Holds dispatcher entries) (event : ε) (obj : ω)
    (malloc : Malloc α (CmdEvts ε ω α)) :
    dispatcher.registr event obj malloc = some (false, dispatcher) ∨
      ∃ addr next, dispatcher.registr event obj malloc = some (true, next) ∧
        next.Holds (entries ++ [(addr, event, obj)]) := by
  unfold EvtDispatcher.registr
  cases allocated : malloc.alloc dispatcher.nodes with
  | none => exact .inl rfl
  | some nw =>
      refine .inr ⟨nw, ?_⟩
      have isFree := malloc.fresh _ _ allocated
      have notMem := holds.segment.not_mem_of_free isFree
      have nodup : ((entries ++ [(nw, event, obj)]).map Prod.fst).Nodup := by
        rw [map_append, nodup_append']
        exact ⟨holds.nodup, by simp, by simpa using notMem⟩
      have written := holds.segment.update notMem (some ⟨event, obj, none⟩)
      rcases eq_nil_or_concat' entries with rfl | ⟨front, last, rfl⟩
      · have isEmpty : dispatcher.head = none := holds.segment
        simp only [isEmpty]
        refine ⟨_, rfl, ?_, nodup, by simp [holds.live]⟩
        exact ⟨rfl, ⟨event, obj, none⟩, by simp, rfl, rfl⟩
      · rcases segment_append.mp written with ⟨mid, frontSeg, midEq, node, atLast, isEntry, isNull⟩
        have isHead : ∃ head, dispatcher.head = some head := by
          cases front with
          | nil => exact ⟨_, holds.segment.1⟩
          | cons first rest => exact ⟨_, holds.segment.1⟩
        rcases isHead with ⟨head, isHead⟩
        rw [isHead] at written
        have found : lastNode (Function.update dispatcher.nodes nw (some ⟨event, obj, none⟩))
            (dispatcher.live + 1) head = some last.1 := by
          apply lastNode_eq written
          simp only [holds.live, length_append, length_singleton]
          omega
        simp only [isHead, found, atLast, bind_eq_bind, bind_some]
        refine ⟨_, rfl, ?_, nodup, by simp [holds.live]⟩
        refine segment_append.mpr ⟨some nw, ?_, rfl, ⟨event, obj, none⟩, ?_, rfl, rfl⟩
        · exact written.relinkLast holds.nodup (by exact isEntry) rfl
        · have differs : nw ≠ last.1 := by
            rintro rfl
            exact notMem (by simp)
          dsimp only
          rw [Function.update_of_ne differs, Function.update_self]

omit [DecidableEq α] in
theorem Holds.head_eq (holds : Holds dispatcher (kept ++ last :: rest)) :
    some last.1 = dispatcher.head ↔ kept = [] := by
  cases kept with
  | nil => simp [holds.segment.1]
  | cons first front =>
      have isFirst : dispatcher.head = some first.1 := holds.segment.1
      have nodup := holds.nodup
      simp only [cons_append, map_cons, nodup_cons] at nodup
      simp only [isFirst, some.injEq, reduceCtorEq, iff_false]
      rintro same
      exact nodup.1 (by simp [← same])

theorem Holds.unlink (holds : Holds dispatcher (kept ++ last :: rest)) {prev : Option α}
    (isPrev : ∀ before ∈ kept.getLast?, prev = some before.1) {node : CmdEvts ε ω α}
    (atLast : dispatcher.nodes last.1 = some node) :
    ∃ unlinked, dispatcher.unlink prev last.1 node = some unlinked ∧
      (unlinked.free last.1).Holds (kept ++ rest) := by
  have nodup := holds.nodup
  simp only [map_append, map_cons, nodup_middle, nodup_cons] at nodup
  rw [← map_append] at nodup
  have live : dispatcher.live - 1 = (kept ++ rest).length := by simp [holds.live]
  rcases segment_append.mp holds.segment with ⟨_, keptSeg, rfl, node', atLast', _, restSeg⟩
  rw [atLast] at atLast'
  cases atLast'
  unfold EvtDispatcher.unlink
  simp only [holds.head_eq]
  split
  · rename_i isFirst
    subst isFirst
    exact ⟨_, rfl, restSeg.update nodup.1 _, nodup.2, live⟩
  · rename_i notFirst
    rcases (eq_nil_or_concat' kept).resolve_left notFirst with ⟨front, before, rfl⟩
    have beforeMem : before ∈ front ++ [before] := by simp
    rcases keptSeg.allocated beforeMem with ⟨node', atBefore, isEntry⟩
    rw [map_append, nodup_append'] at nodup
    simp only [isPrev before (by simp), atBefore, bind_eq_bind, bind_some]
    rcases nodup with ⟨lastFresh, keptNodup, restNodup, disjoint⟩
    refine ⟨_, rfl, ?_, ?_, live⟩
    · apply Segment.update _ (by simpa using lastFresh)
      refine segment_append.mpr ⟨node.next, ?_, ?_⟩
      · exact keptSeg.relinkLast keptNodup isEntry rfl
      · exact restSeg.update (disjoint (mem_map_of_mem beforeMem)) _
    · rw [map_append, nodup_append']
      exact ⟨keptNodup, restNodup, disjoint⟩

variable [DecidableEq ω]

theorem Holds.deregistrLoop {param : ω} (holds : Holds dispatcher (kept ++ rest))
    (segment : Segment CmdEvts.next entry dispatcher.nodes tmp rest none) (prev : Option α)
    (isPrev : ∀ before ∈ kept.getLast?, prev = some before.1) {fuel : ℕ}
    (enough : rest.length ≤ fuel) :
    ∃ next, deregistrLoop param fuel dispatcher prev tmp = some next ∧
      next.Holds (kept ++ rest.filter (·.2.2 ≠ param)) := by
  induction rest generalizing kept dispatcher tmp prev fuel with
  | nil =>
      cases segment
      exact ⟨dispatcher, by simp [EvtDispatcher.deregistrLoop], by simpa using holds⟩
  | cons first rest ih =>
      cases fuel with
      | zero => simp at enough
      | succ fuel =>
          have enough : rest.length ≤ fuel := by simpa using enough
          rcases segment with ⟨rfl, node, atFirst, isEntry, segment⟩
          simp only [EvtDispatcher.deregistrLoop, atFirst, bind_eq_bind, bind_some]
          have sameObj : node.obj = first.2.2 := congrArg Prod.snd isEntry
          rw [sameObj]
          split
          · rename_i isParam
            rcases holds.unlink isPrev atFirst with ⟨unlinked, unlinks, holdsRest⟩
            rcases segment_append.mp holdsRest.segment with ⟨mid, _, restSeg⟩
            have sameStart := restSeg.start_unique segment
            rw [sameStart] at restSeg
            rcases ih holdsRest restSeg prev isPrev enough with ⟨next, result, holdsNext⟩
            refine ⟨next, by simpa [unlinks] using result, ?_⟩
            simpa [filter_cons, isParam] using holdsNext
          · rename_i other
            have kept' : kept ++ first :: rest = (kept ++ [first]) ++ rest := by simp
            rw [kept'] at holds
            rcases ih holds segment (some first.1) (by simp) enough with
              ⟨next, result, holdsNext⟩
            refine ⟨next, result, ?_⟩
            simpa [filter_cons, other] using holdsNext

theorem Holds.deregistr (holds : Holds dispatcher entries) (param : ω) :
    ∃ next, dispatcher.deregistr param = some next ∧
      next.Holds (entries.filter (·.2.2 ≠ param)) := by
  have holdsAll : dispatcher.Holds ([] ++ entries) := holds
  exact holdsAll.deregistrLoop holds.segment _ (by simp) (by simp [holds.live])

end EvtDispatcher

/-- What a callback does with the dispatcher: it registers a listener, or deregisters the
listener that it was called for, when this deletes itself. -/
inductive CallbackOp (ε ω α : Type) where
  | registr (event : ε) (obj : ω) (malloc : Malloc α (CmdEvts ε ω α))
  | deregistrSelf

/-- `ProcessEvt` while it runs: its event, the node that comes next, and which listeners were
registered and called since it started. -/
structure Processing (ε ω α : Type) where
  event : ε
  tmp : Option α
  registered : List ω
  called : List ω
  added : List ω
  deregistered : List ω

/-- The dispatcher between two accesses to its list. The history is what was registered
and not deregistered, in order. -/
structure Dispatching (ε ω α : Type) where
  dispatcher : EvtDispatcher ε ω α
  history : List (ε × ω)
  processing : Option (Processing ε ω α)

/-- What happens next: a call outside of `ProcessEvt`, the start of `ProcessEvt`, one turn
of its loop with the callback's operations, or its end. -/
inductive DispatchCall (ε ω α : Type) where
  | registr (event : ε) (obj : ω) (malloc : Malloc α (CmdEvts ε ω α))
  | deregistr (obj : ω)
  | processEvt (event : ε)
  | visit (callback : List (CallbackOp ε ω α))
  | finish

namespace Dispatching

variable {ε ω α : Type} [DecidableEq ε] [DecidableEq ω] [DecidableEq α]

def registr (state : Dispatching ε ω α) (event : ε) (obj : ω)
    (malloc : Malloc α (CmdEvts ε ω α)) : Option (Dispatching ε ω α) := do
  let (success, dispatcher) ← state.dispatcher.registr event obj malloc
  if success then
    some
      { dispatcher
        history := state.history ++ [(event, obj)]
        processing := state.processing.map fun processing =>
          if event = processing.event then
            { processing with added := processing.added ++ [obj] }
          else processing }
  else
    some { state with dispatcher }

def deregistr (state : Dispatching ε ω α) (obj : ω) : Option (Dispatching ε ω α) := do
  let dispatcher ← state.dispatcher.deregistr obj
  some
    { dispatcher
      history := state.history.filter (·.2 ≠ obj)
      processing := state.processing.map fun processing =>
        { processing with deregistered := processing.deregistered ++ [obj] } }

def callbackOp (obj : ω) (state : Dispatching ε ω α) :
    CallbackOp ε ω α → Option (Dispatching ε ω α)
  | .registr event other malloc => state.registr event other malloc
  | .deregistrSelf => state.deregistr obj

def eventCallback (obj : ω) : Dispatching ε ω α → List (CallbackOp ε ω α) →
    Option (Dispatching ε ω α)
  | state, [] => some state
  | state, op :: ops => do
      let state ← callbackOp obj state op
      eventCallback obj state ops

def listeners (event : ε) (registered : List (ε × ω)) : List ω :=
  (registered.filter (·.1 = event)).map Prod.snd

def delivered (processing : Processing ε ω α) (tmp1 : CmdEvts ε ω α) : Processing ε ω α :=
  { processing with tmp := tmp1.next, called := processing.called ++ [tmp1.obj] }

def deliver (state : Dispatching ε ω α) (processing : Processing ε ω α) (tmp1 : CmdEvts ε ω α) :
    Dispatching ε ω α :=
  { state with
    dispatcher := { state.dispatcher with
      ipacmEventStats := Function.update state.dispatcher.ipacmEventStats processing.event
        (state.dispatcher.ipacmEventStats processing.event + 1) }
    processing := some (delivered processing tmp1) }

/-- `ProcessEvt` before the first turn of its loop. -/
def start (state : Dispatching ε ω α) (event : ε) : Processing ε ω α where
  event
  tmp := state.dispatcher.head
  registered := listeners event state.history
  called := []
  added := []
  deregistered := []

/-- One turn of the loop of `ProcessEvt`. The node is copied to `tmp1` before the callback,
so that the node that comes next is known from then on. -/
def visit (state : Dispatching ε ω α) (processing : Processing ε ω α)
    (callback : List (CallbackOp ε ω α)) : Option (Dispatching ε ω α) := do
  let tmp ← processing.tmp
  let tmp1 ← state.dispatcher.nodes tmp
  if tmp1.event = processing.event then
    eventCallback tmp1.obj (state.deliver processing tmp1) callback
  else
    some { state with processing := some { processing with tmp := tmp1.next } }

def step (state : Dispatching ε ω α) (call : DispatchCall ε ω α) : Option (Dispatching ε ω α) :=
  match state.processing, call with
  | none, .registr event obj malloc => state.registr event obj malloc
  | none, .deregistr obj => state.deregistr obj
  | none, .processEvt event => some { state with processing := some (state.start event) }
  | some processing, .visit callback => state.visit processing callback
  | some processing, .finish =>
      if processing.tmp = none then some { state with processing := none } else none
  | _, _ => none

def Step (state : Dispatching ε ω α) (call : DispatchCall ε ω α)
    (next : Dispatching ε ω α) : Prop :=
  state.step call = some next

def IsInit (state : Dispatching ε ω α) : Prop :=
  state.dispatcher.head = none ∧ state.dispatcher.live = 0 ∧ state.history = [] ∧
    state.processing = none

end Dispatching

end HtcPme.Ipacm
