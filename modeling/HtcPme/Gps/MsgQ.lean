import HtcPme.Foundation.Run
import HtcPme.Gps.LinkedList

/-!
# msg_q

A message queue that threads share. Every critical section under the queue lock is one step, and so
is what a waiting receiver does from one wait to the next.
-/

namespace HtcPme.Gps

open HeapList List

inductive MsgQErr where
  | success
  | failureGeneral
  | invalidParameter
  | invalidHandle
  | unavailableResource
  | insufficientBuffer
deriving DecidableEq

def convertLinkedListErrType : LinkedListErr → MsgQErr
  | .success => .success
  | .invalidParameter => .invalidParameter
  | .invalidHandle => .invalidHandle
  | .unavailableResource => .unavailableResource
  | .insufficientBuffer => .insufficientBuffer
  | .failureGeneral => .failureGeneral

structure MsgQ (α δ φ : Type) where
  msgList : LinkedList α δ φ
  unblocked : Bool

/-- How a part of `msg_q_rcv` ends: it waits, or returns what it wrote to `msg_obj`. -/
inductive RcvEnd (α δ φ : Type) where
  | waits
  | returned (rv : MsgQErr) (msgObj : Option δ) (q : MsgQ α δ φ)

namespace MsgQ

variable {α δ φ : Type} [DecidableEq α] (q : MsgQ α δ φ)

def init : MsgQ α δ φ := ⟨.init, false⟩

def snd (msgObj : Option δ) (dealloc : Option φ) (malloc : Malloc α (ListElement α δ φ)) :
    Option (MsgQErr × MsgQ α δ φ) :=
  if msgObj.isNone then some (.invalidParameter, q)
  else if q.unblocked then some (.unavailableResource, q)
  else do
    let (rv, msgList) ← q.msgList.add msgObj dealloc malloc
    some (convertLinkedListErrType rv, { q with msgList })

/-- The loop of `msg_q_rcv`, from one test of its condition to the next. -/
def rcvLoop : Option (RcvEnd α δ φ) :=
  if q.msgList.isEmpty && !q.unblocked then some .waits
  else do
    let (rv, msgObj, msgList) ← q.msgList.remove
    some (.returned (convertLinkedListErrType rv) msgObj { q with msgList })

/-- `msg_q_rcv` up to its first wait; `msgObjNull` says that it got no place for the message. -/
def rcv (msgObjNull : Bool) : Option (RcvEnd α δ φ) :=
  if msgObjNull then some (.returned .invalidParameter none q)
  else if q.unblocked then some (.returned .unavailableResource none q)
  else q.rcvLoop

def flush : Option (List (φ × δ) × MsgQ α δ φ) := do
  let (calls, msgList) ← q.msgList.flush
  some (calls, { q with msgList })

def unblock : MsgQErr × MsgQ α δ φ :=
  if q.unblocked then (.unavailableResource, q) else (.success, { q with unblocked := true })

end MsgQ

inductive Fate (τ : Type) where
  | received (thread : τ)
  | flushed
deriving DecidableEq

/-- The queue, the threads that wait in `msg_q_rcv`, and what was sent, what became of it, what
receivers got, and which dealloc calls were made. -/
structure QState (α δ φ τ : Type) where
  q : MsgQ α δ φ
  waiting : τ → Bool
  sent : List (δ × Option φ)
  gone : List ((δ × Option φ) × Fate τ)
  received : List (τ × δ)
  calls : List (φ × δ)
  unblockCalled : Bool

inductive QEvent (α δ φ τ : Type) where
  | snd (thread : τ) (msgObj : Option δ) (dealloc : Option φ)
      (malloc : Malloc α (ListElement α δ φ))
  | rcv (thread : τ) (msgObjNull : Bool)
  | resume (thread : τ)
  | flush (thread : τ)
  | unblock (thread : τ)

namespace QState

variable {α δ φ τ : Type} [DecidableEq α] [DecidableEq τ] (state : QState α δ φ τ)

def init : QState α δ φ τ := ⟨.init, fun _ => false, [], [], [], [], false⟩

def Enabled : QEvent α δ φ τ → Prop
  | .snd thread _ _ _ | .rcv thread _ | .flush thread | .unblock thread =>
      state.waiting thread = false
  | .resume thread => state.waiting thread = true

/-- What a part of `msg_q_rcv` leaves behind; it took the oldest message if it succeeded. -/
def rcvEnd (thread : τ) : RcvEnd α δ φ → Option MsgQErr × QState α δ φ τ
  | .waits => (none, { state with waiting := Function.update state.waiting thread true })
  | .returned rv msgObj q =>
      (some rv, { state with
        q := q
        waiting := Function.update state.waiting thread false
        gone :=
          if rv = .success then
            state.gone ++ (state.q.msgList.contents.take 1).map fun msg => (msg, .received thread)
          else state.gone
        received := state.received ++ msgObj.toList.map fun obj => (thread, obj) })

def apply : QEvent α δ φ τ → Option (Option MsgQErr × QState α δ φ τ)
  | .snd _ msgObj dealloc malloc => do
      let (rv, q) ← state.q.snd msgObj dealloc malloc
      some (some rv, { state with
        q := q
        sent :=
          if rv = .success then state.sent ++ msgObj.toList.map fun obj => (obj, dealloc)
          else state.sent })
  | .rcv thread msgObjNull => do
      let ended ← state.q.rcv msgObjNull
      some (state.rcvEnd thread ended)
  | .resume thread => do
      let ended ← state.q.rcvLoop
      some (state.rcvEnd thread ended)
  | .flush _ => do
      let (calls, q) ← state.q.flush
      some (some .success, { state with
        q := q
        gone := state.gone ++ state.q.msgList.contents.map fun msg => (msg, .flushed)
        calls := state.calls ++ calls })
  | .unblock _ =>
      let (rv, q) := state.q.unblock
      some (some rv, { state with q := q, unblockCalled := true })

def Step (event : QEvent α δ φ τ) (next : QState α δ φ τ) : Prop :=
  state.Enabled event ∧ ∃ rv, state.apply event = some (rv, next)

end QState

def receivedOf {δ φ τ : Type} : (δ × Option φ) × Fate τ → Option (τ × δ)
  | (msg, .received thread) => some (thread, msg.1)
  | (_, .flushed) => none

def flushCallOf {δ φ τ : Type} : (δ × Option φ) × Fate τ → Option (φ × δ)
  | (_, .received _) => none
  | (msg, .flushed) => LinkedList.deallocCall msg

def QEvent.Starts {α δ φ τ : Type} : QEvent α δ φ τ → Prop
  | .snd _ _ _ _ | .rcv _ _ => True
  | .resume _ | .flush _ | .unblock _ => False

namespace QState

variable {α δ φ τ : Type} [DecidableEq α] [DecidableEq τ] (state : QState α δ φ τ)

structure QueueOk : Prop where
  /-- The list is what was sent, in sending order, without what was received or flushed. -/
  contents : state.sent = state.gone.map Prod.fst ++ state.q.msgList.contents
  /-- Receivers got the messages that count as received, in sending order. -/
  received : state.received = state.gone.filterMap receivedOf
  /-- Every flushed message was handed to its dealloc function once, if it has one. -/
  calls : state.calls.Perm (state.gone.filterMap flushCallOf)
  /-- After `msg_q_unblock` sends and receives fail and change nothing. -/
  unblocked : state.unblockCalled = true → ∀ event, event.Starts → state.Enabled event →
    ∃ rv, rv ≠ .success ∧ state.apply event = some (some rv, state)
  /-- No call reads an element that is not allocated. -/
  returns : ∀ event, ∃ ended, state.apply event = some ended

end QState

namespace MsgQ

variable {α δ φ : Type} [DecidableEq α] {q : MsgQ α δ φ} {entries : List (α × δ × Option φ)}

omit [DecidableEq α] in
theorem mk_eq {unblocked : Bool} (same : q.unblocked = unblocked) :
    (⟨q.msgList, unblocked⟩ : MsgQ α δ φ) = q := by
  rw [← same]

theorem snd_cases (holds : q.msgList.Holds entries) (msgObj : Option δ) (dealloc : Option φ)
    (malloc : Malloc α (ListElement α δ φ)) :
    (∃ rv, rv ≠ .success ∧ q.snd msgObj dealloc malloc = some (rv, q)) ∨
      q.unblocked = false ∧ ∃ obj elem next, msgObj = some obj ∧
        q.snd msgObj dealloc malloc = some (.success, next) ∧
        next.msgList.Holds (entries ++ [(elem, obj, dealloc)]) ∧ next.unblocked = false := by
  unfold snd
  cases msgObj with
  | none => exact .inl ⟨.invalidParameter, by simp, rfl⟩
  | some obj =>
      cases blocked : q.unblocked with
      | true => exact .inl ⟨.unavailableResource, by simp, rfl⟩
      | false =>
          rcases holds.add obj dealloc malloc with failed | ⟨elem, next, added, nextHolds⟩
          · left
            refine ⟨.failureGeneral, by simp, ?_⟩
            simp [failed, convertLinkedListErrType, mk_eq blocked]
          · right
            refine ⟨rfl, obj, elem, ⟨next, false⟩, rfl, ?_, nextHolds, rfl⟩
            simp [added, convertLinkedListErrType]

theorem rcvLoop_cases (holds : q.msgList.Holds entries) :
    (entries = [] ∧ q.rcvLoop = some .waits) ∨
      (entries = [] ∧ q.rcvLoop = some (.returned .unavailableResource none q)) ∨
      ∃ first rest next, entries = first :: rest ∧
        q.rcvLoop = some (.returned .success (some first.2.1) next) ∧
        next.msgList.Holds rest ∧ next.unblocked = q.unblocked := by
  cases entries with
  | nil =>
      have isEmpty := holds.isEmpty_iff.mpr rfl
      cases blocked : q.unblocked with
      | false => exact .inl ⟨rfl, by simp [rcvLoop, isEmpty, blocked]⟩
      | true =>
          right
          left
          refine ⟨rfl, ?_⟩
          simp [rcvLoop, isEmpty, blocked, holds.remove_nil, convertLinkedListErrType,
            mk_eq blocked]
  | cons first rest =>
      right
      right
      have notEmpty : q.msgList.isEmpty = false := by
        rw [← Bool.not_eq_true, holds.isEmpty_iff]
        simp
      rcases holds.remove_cons with ⟨next, removed, nextHolds⟩
      refine ⟨first, rest, ⟨next, q.unblocked⟩, rfl, ?_, nextHolds, rfl⟩
      simp [rcvLoop, notEmpty, removed, convertLinkedListErrType]

omit [DecidableEq α] in
theorem rcv_cases [DecidableEq α] (q : MsgQ α δ φ) (msgObjNull : Bool) :
    (∃ rv, rv ≠ .success ∧ q.rcv msgObjNull = some (.returned rv none q)) ∨
      q.unblocked = false ∧ q.rcv msgObjNull = q.rcvLoop := by
  cases msgObjNull with
  | true => exact .inl ⟨.invalidParameter, by simp, rfl⟩
  | false =>
      cases blocked : q.unblocked with
      | true => exact .inl ⟨.unavailableResource, by simp, by simp [rcv, blocked]⟩
      | false => exact .inr ⟨rfl, by simp [rcv, blocked]⟩

theorem flush_spec (holds : q.msgList.Holds entries) :
    ∃ next, q.flush =
        some ((entries.reverse.map Prod.snd).filterMap LinkedList.deallocCall, next) ∧
      next.msgList.Holds [] ∧ next.unblocked = q.unblocked := by
  rcases holds.flush with ⟨next, flushed, nextHolds⟩
  exact ⟨⟨next, q.unblocked⟩, by simp [flush, flushed], nextHolds, rfl⟩

end MsgQ

namespace QState

variable {α δ φ τ : Type} [DecidableEq α] [DecidableEq τ] {state next : QState α δ φ τ}
  {entries : List (α × δ × Option φ)}

structure Sound (state : QState α δ φ τ) (entries : List (α × δ × Option φ)) : Prop where
  holds : state.q.msgList.Holds entries
  contents : state.sent = state.gone.map Prod.fst ++ entries.map Prod.snd
  received : state.received = state.gone.filterMap receivedOf
  calls : state.calls.Perm (state.gone.filterMap flushCallOf)
  unblocked : state.unblockCalled = state.q.unblocked

omit [DecidableEq α] [DecidableEq τ] in
theorem sound_init : (init : QState α δ φ τ).Sound [] :=
  ⟨LinkedList.holds_init, rfl, rfl, .nil, rfl⟩

section

variable (sound : state.Sound entries)

include sound

theorem Sound.rcvLoop (thread : τ) :
    ∃ ended entries', state.q.rcvLoop = some ended ∧
      (state.rcvEnd thread ended).2.Sound entries' := by
  rcases MsgQ.rcvLoop_cases sound.holds with
    ⟨-, waits⟩ | ⟨-, failed⟩ | ⟨first, rest, q, rfl, taken, restHolds, unblocked⟩
  · exact ⟨_, entries, waits, sound.holds, sound.contents, sound.received, sound.calls,
      sound.unblocked⟩
  · refine ⟨_, entries, failed, sound.holds, sound.contents, ?_, sound.calls, sound.unblocked⟩
    simpa [rcvEnd] using sound.received
  · refine ⟨_, rest, taken, restHolds, ?_, ?_, ?_, sound.unblocked.trans unblocked.symm⟩
    · simp [rcvEnd, sound.holds.contents_eq, sound.contents]
    · simp [rcvEnd, sound.holds.contents_eq, sound.received, receivedOf]
    · have flushedNone : [(first.2, Fate.received thread)].filterMap flushCallOf = [] := rfl
      simp only [rcvEnd, if_true, sound.holds.contents_eq, map_cons, take_succ_cons,
        take_zero, map_nil, filterMap_append, flushedNone, append_nil]
      exact sound.calls

theorem Sound.apply (event : QEvent α δ φ τ) :
    ∃ rv next, state.apply event = some (rv, next) ∧ ∃ entries', next.Sound entries' := by
  cases event with
  | snd thread msgObj dealloc malloc =>
      rcases MsgQ.snd_cases sound.holds msgObj dealloc malloc with
        ⟨rv, failed, returned⟩ | ⟨unblocked, obj, elem, q, rfl, returned, holds, stays⟩
      · refine ⟨some rv, state, ?_, entries, sound⟩
        simp [QState.apply, returned, failed]
      · have applied : state.apply (.snd thread (some obj) dealloc malloc) =
            some (some .success,
              { state with q := q, sent := state.sent ++ [(obj, dealloc)] }) := by
          simp [QState.apply, returned]
        refine ⟨_, _, applied, _, holds, ?_, sound.received, sound.calls, ?_⟩
        · simp [sound.contents]
        · simp only [sound.unblocked, unblocked, stays]
  | rcv thread msgObjNull =>
      rcases state.q.rcv_cases msgObjNull with ⟨rv, failed, returned⟩ | ⟨-, tests⟩
      · have applied : state.apply (.rcv thread msgObjNull) =
            some (some rv,
              { state with waiting := Function.update state.waiting thread false }) := by
          simp [QState.apply, returned, failed, rcvEnd]
        exact ⟨_, _, applied, entries, sound.holds, sound.contents, sound.received, sound.calls,
          sound.unblocked⟩
      · rcases sound.rcvLoop thread with ⟨ended, entries', tested, nextSound⟩
        refine ⟨(state.rcvEnd thread ended).1, _, ?_, entries', nextSound⟩
        simp [QState.apply, tests, tested]
  | resume thread =>
      rcases sound.rcvLoop thread with ⟨ended, entries', tested, nextSound⟩
      refine ⟨(state.rcvEnd thread ended).1, _, ?_, entries', nextSound⟩
      simp [QState.apply, tested]
  | flush thread =>
      rcases MsgQ.flush_spec sound.holds with ⟨q, flushed, holds, stays⟩
      have applied : state.apply (.flush thread) =
          some (some .success,
            { state with
              q := q
              gone := state.gone ++ (entries.map Prod.snd).map fun msg => (msg, .flushed)
              calls := state.calls ++
                (entries.reverse.map Prod.snd).filterMap LinkedList.deallocCall }) := by
        simp [QState.apply, flushed, sound.holds.contents_eq]
      refine ⟨_, _, applied, [], holds, ?_, ?_, ?_, sound.unblocked.trans stays.symm⟩
      · simp [sound.contents, Function.comp_def]
      · have noneReceived : ((entries.map Prod.snd).map
            fun msg => (msg, (Fate.flushed : Fate τ))).filterMap receivedOf = [] := by
          simp [receivedOf]
        simp only [filterMap_append, noneReceived, append_nil, sound.received]
      · have flushCalls : ∀ msgs : List (δ × Option φ),
            (msgs.map fun msg => (msg, (Fate.flushed : Fate τ))).filterMap flushCallOf =
              msgs.filterMap LinkedList.deallocCall := by
          intro msgs
          rw [filterMap_map]
          rfl
        simp only [filterMap_append, flushCalls, map_reverse]
        apply sound.calls.append
        apply List.Perm.filterMap
        apply reverse_perm
  | unblock thread =>
      have applied : state.apply (.unblock thread) =
          some (some state.q.unblock.1,
            { state with q := state.q.unblock.2, unblockCalled := true }) := rfl
      cases blocked : state.q.unblocked with
      | true =>
          rw [MsgQ.unblock, if_pos blocked] at applied
          exact ⟨_, _, applied, entries, sound.holds, sound.contents, sound.received, sound.calls,
            blocked.symm⟩
      | false =>
          rw [MsgQ.unblock, if_neg (by simp [blocked])] at applied
          exact ⟨_, _, applied, entries, sound.holds, sound.contents, sound.received, sound.calls,
            rfl⟩

theorem Sound.starts (unblockCalled : state.unblockCalled = true)
    {event : QEvent α δ φ τ} (starts : event.Starts) (enabled : state.Enabled event) :
    ∃ rv, rv ≠ .success ∧ state.apply event = some (some rv, state) := by
  rw [sound.unblocked] at unblockCalled
  cases event with
  | snd thread msgObj dealloc malloc =>
      rcases MsgQ.snd_cases sound.holds msgObj dealloc malloc with
        ⟨rv, failed, returned⟩ | ⟨blocked, -⟩
      · exact ⟨rv, failed, by simp [QState.apply, returned, failed]⟩
      · simp [unblockCalled] at blocked
  | rcv thread msgObjNull =>
      rcases state.q.rcv_cases msgObjNull with ⟨rv, failed, returned⟩ | ⟨blocked, -⟩
      · refine ⟨rv, failed, ?_⟩
        have notWaiting : Function.update state.waiting thread false = state.waiting := by
          rw [← show state.waiting thread = false from enabled, Function.update_eq_self]
        simp [QState.apply, returned, failed, rcvEnd, notWaiting]
      · simp [unblockCalled] at blocked
  | resume thread => cases starts
  | flush thread => cases starts
  | unblock thread => cases starts

end

/-- In every run of any threads the list holds what was sent and not received or flushed. -/
theorem reachable_queueOk (reached : Run.Reachable (fun state => state = init) Step state) :
    state.QueueOk := by
  have sound : ∃ entries, state.Sound entries := by
    apply reached.invariant fun state => ∃ entries, state.Sound entries
    · rintro _ rfl
      exact ⟨[], sound_init⟩
    · rintro state event next ⟨entries, sound⟩ ⟨-, rv, applied⟩
      rcases sound.apply event with ⟨rv', next', applied', nextSound⟩
      rw [applied] at applied'
      cases applied'
      exact nextSound
  rcases sound with ⟨entries, sound⟩
  constructor
  · rw [sound.contents, sound.holds.contents_eq]
  · exact sound.received
  · exact sound.calls
  · exact fun unblockCalled event => sound.starts unblockCalled
  · intro event
    rcases sound.apply event with ⟨rv, next, applied, -⟩
    exact ⟨_, applied⟩

def twoCells (ν : Type) : Malloc Bool ν where
  alloc heap := [false, true].find? fun addr => (heap addr).isNone
  fresh heap addr found := by
    have isFree := List.find?_some found
    simpa using isFree

theorem reachable_queueOk_wait :
    ∃ state : QState Bool ℕ Unit (Fin 2), state.sent = [(10, some ()), (20, some ())] ∧
      state.received = [(1, 10)] ∧ state.calls = [((), 20)] ∧ state.QueueOk := by
  have reached : Run.Reachable (fun state : QState Bool ℕ Unit (Fin 2) => state = init) Step _ :=
    .next (.flush 0) (.next (.resume 1) (.next (.snd 0 (some 20) (some ()) (twoCells _))
      (.next (.snd 0 (some 10) (some ()) (twoCells _)) (.next (.rcv 1 false) (.start rfl)
        ⟨rfl, _, rfl⟩) ⟨rfl, _, rfl⟩) ⟨rfl, _, rfl⟩) ⟨rfl, _, rfl⟩) ⟨rfl, _, rfl⟩
  exact ⟨_, rfl, rfl, rfl, reachable_queueOk reached⟩

def AllHandedOver (state : QState α δ φ τ) : Prop :=
  (state.sent.map Prod.fst).Perm (state.received.map Prod.snd ++
    state.q.msgList.contents.map Prod.fst ++ state.calls.map Prod.snd)

/-- A message that is sent without a dealloc function is dropped by a flush. -/
theorem flush_not_allHandedOver :
    ¬∀ state : QState Bool ℕ Unit (Fin 2),
      Run.Reachable (fun state => state = init) Step state → state.AllHandedOver := by
  intro allHandedOver
  have reached : Run.Reachable (fun state : QState Bool ℕ Unit (Fin 2) => state = init) Step _ :=
    .next (.flush 0) (.next (.snd 0 (some 10) none (twoCells _)) (.start rfl) ⟨rfl, _, rfl⟩)
      ⟨rfl, _, rfl⟩
  have perm := (allHandedOver _ reached).length_eq
  exact absurd perm (by decide)

end QState

end HtcPme.Gps
