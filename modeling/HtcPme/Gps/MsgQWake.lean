import HtcPme.Gps.MsgQ
import Mathlib.Data.Finset.Card

/-!
# Wake-ups of msg_q

The condition variable that receivers wait on, with the threads that it has woken.
-/

namespace HtcPme.Gps

/-- The queue, and the receivers that have been woken and have not run since. -/
structure WakeState (α δ φ τ : Type) where
  queue : QState α δ φ τ
  woken : Finset τ

namespace WakeState

variable {α δ φ τ : Type} [DecidableEq α] [DecidableEq τ]

def init : WakeState α δ φ τ := ⟨.init, ∅⟩

/-- The thread is in `pthread_cond_wait` and has not been woken. -/
def Blocked (state : WakeState α δ φ τ) (thread : τ) : Prop :=
  state.queue.waiting thread = true ∧ thread ∉ state.woken

/-- `pthread_cond_signal` wakes a blocked thread if there is one, `pthread_cond_broadcast` all of
them, and only a thread that was woken goes on. -/
def Allows (state : WakeState α δ φ τ) (wakes : Finset τ) : QEvent α δ φ τ → Prop
  | .snd _ msgObj _ _ => msgObj.isSome → state.queue.q.unblocked = false →
      (∃ thread, state.Blocked thread) → wakes.Nonempty
  | .unblock _ => state.queue.q.unblocked = false → ∀ thread, state.Blocked thread → thread ∈ wakes
  | .resume thread => thread ∈ state.woken
  | .rcv _ _ | .flush _ => True

def resumed : QEvent α δ φ τ → Finset τ
  | .resume thread => {thread}
  | _ => ∅

inductive Step (state : WakeState α δ φ τ) :
    Option (QEvent α δ φ τ) → WakeState α δ φ τ → Prop
  /-- Threads may also wake without a signal. -/
  | spurious (wakes : Finset τ) (blocked : ∀ thread ∈ wakes, state.Blocked thread) :
      Step state none { state with woken := state.woken ∪ wakes }
  | run {event : QEvent α δ φ τ} {queue : QState α δ φ τ} (wakes : Finset τ)
      (blocked : ∀ thread ∈ wakes, state.Blocked thread) (allows : state.Allows wakes event)
      (ran : state.queue.Step event queue) :
      Step state (some event) ⟨queue, state.woken \ resumed event ∪ wakes⟩

structure WakeOk (state : WakeState α δ φ τ) : Prop where
  waiting : ∀ thread ∈ state.woken, state.queue.waiting thread = true
  /-- While a thread is blocked the woken receivers are enough for all messages. -/
  served : ∀ thread, state.Blocked thread →
    state.queue.q.msgList.contents.length ≤ state.woken.card
  /-- Nobody stays blocked after `msg_q_unblock`. -/
  unblocked : state.queue.q.unblocked = true → ∀ thread, ¬state.Blocked thread

end WakeState

namespace QState

variable {α δ φ τ : Type} [DecidableEq α] [DecidableEq τ] {state next : QState α δ φ τ}
  {entries : List (α × δ × Option φ)}

def pending (state : QState α δ φ τ) : ℕ := state.q.msgList.contents.length

/-- What is left after `thread` tested the list: one message less, or the thread waits for one. -/
structure Tested (state : QState α δ φ τ) (thread : τ) (next : QState α δ φ τ) : Prop where
  unblocked : next.q.unblocked = state.q.unblocked
  others : ∀ other ≠ thread, next.waiting other = state.waiting other
  pending : next.pending ≤ state.pending - 1
  waits : next.waiting thread = true → next.q.unblocked = false ∧ next.pending = 0

omit [DecidableEq τ] in
theorem rcvLoop_waits (waits : state.q.rcvLoop = some .waits) : state.q.unblocked = false := by
  unfold MsgQ.rcvLoop at waits
  split at waits
  · simp_all
  · cases removed : state.q.msgList.remove <;> simp [removed] at waits

theorem Sound.tested (sound : state.Sound entries) (thread : τ) {rv : Option MsgQErr}
    (ran : (do
      let ended ← state.q.rcvLoop
      some (state.rcvEnd thread ended)) = some (rv, next)) : Tested state thread next := by
  have pending : state.pending = entries.length := by simp [QState.pending, sound.holds.contents_eq]
  have others : ∀ (waits : Bool) (other : τ), other ≠ thread →
      Function.update state.waiting thread waits other = state.waiting other :=
    fun _ _ ne => Function.update_of_ne ne _ _
  rcases MsgQ.rcvLoop_cases sound.holds with
    ⟨rfl, waits⟩ | ⟨rfl, failed⟩ | ⟨first, rest, q, rfl, taken, restHolds, unblocked⟩
  · simp only [waits] at ran
    cases ran
    exact ⟨rfl, others true, pending.le.trans (Nat.zero_le _), fun _ =>
      ⟨rcvLoop_waits waits, pending⟩⟩
  · simp only [failed] at ran
    cases ran
    exact ⟨rfl, others false, pending.le.trans (Nat.zero_le _), by simp⟩
  · simp only [taken] at ran
    cases ran
    refine ⟨unblocked, others false, ?_, by simp⟩
    rw [pending]
    simp [QState.pending, restHolds.contents_eq]

end QState

namespace WakeState

variable {α δ φ τ : Type} [DecidableEq α] [DecidableEq τ] {state next : WakeState α δ φ τ}
  {event : QEvent α δ φ τ} {queue : QState α δ φ τ} {wakes gone : Finset τ} {thread : τ}

omit [DecidableEq α] [DecidableEq τ] in
theorem wakeOk_init : (init : WakeState α δ φ τ).WakeOk := by
  constructor <;> simp [init, QState.init, Blocked]

section

variable (ok : state.WakeOk) (blocked : ∀ thread ∈ wakes, state.Blocked thread)

include ok blocked

omit [DecidableEq α] in
theorem WakeOk.tested (tested : state.queue.Tested thread queue) (runs : ¬state.Blocked thread)
    (isGone : gone ⊆ {thread}) (leaves : thread ∉ state.woken \ gone) :
    WakeOk ⟨queue, state.woken \ gone ∪ wakes⟩ := by
  have stays : ∀ other ≠ thread, Blocked ⟨queue, state.woken \ gone ∪ wakes⟩ other →
      state.Blocked other := by
    rintro other ne ⟨waits, notWoken⟩
    rw [tested.others other ne] at waits
    refine ⟨waits, fun mem => notWoken (Finset.mem_union_left _ (Finset.mem_sdiff.mpr ⟨mem, ?_⟩))⟩
    exact fun inGone => ne (Finset.mem_singleton.mp (isGone inGone))
  constructor
  · intro other mem
    rcases Finset.mem_union.mp mem with mem | mem
    · have ne : other ≠ thread := fun same => leaves (same ▸ mem)
      rw [tested.others other ne]
      exact ok.waiting other (Finset.mem_sdiff.mp mem).1
    · have ne : other ≠ thread := fun same => runs (same ▸ blocked other mem)
      rw [tested.others other ne]
      exact (blocked other mem).1
  · intro other isBlocked
    by_cases same : other = thread
    · exact (tested.waits (same ▸ isBlocked.1)).2.trans_le (Nat.zero_le _)
    · have served := ok.served other (stays other same isBlocked)
      have pending := tested.pending
      have one : gone.card ≤ 1 := Finset.card_le_card isGone
      have left := Finset.le_card_sdiff gone state.woken
      have more : (state.woken \ gone).card ≤ (state.woken \ gone ∪ wakes).card :=
        Finset.card_le_card Finset.subset_union_left
      simp only [QState.pending] at pending
      dsimp only
      omega
  · intro unblocked other isBlocked
    by_cases same : other = thread
    · rw [(tested.waits (same ▸ isBlocked.1)).1] at unblocked
      cases unblocked
    · exact ok.unblocked (tested.unblocked ▸ unblocked) other (stays other same isBlocked)

omit [DecidableEq α] in
/-- Nobody begins or ends to wait; a message that comes wakes a thread. -/
theorem WakeOk.changed (waiting : queue.waiting = state.queue.waiting)
    (unblocked : queue.q.unblocked = true → ∀ thread, state.Blocked thread → thread ∈ wakes)
    (pending : queue.pending ≤ state.queue.pending ∨
      queue.pending ≤ state.queue.pending + 1 ∧
        ((∃ thread, state.Blocked thread) → wakes.Nonempty)) :
    WakeOk ⟨queue, state.woken \ ∅ ∪ wakes⟩ := by
  have stays : ∀ thread, Blocked ⟨queue, state.woken \ ∅ ∪ wakes⟩ thread →
      state.Blocked thread ∧ thread ∉ wakes := by
    rintro thread ⟨waits, notWoken⟩
    simp only [Finset.sdiff_empty, Finset.mem_union, not_or] at notWoken
    exact ⟨⟨waiting ▸ waits, notWoken.1⟩, notWoken.2⟩
  constructor
  · intro thread mem
    rw [waiting]
    simp only [Finset.sdiff_empty, Finset.mem_union] at mem
    exact mem.elim (ok.waiting thread) fun mem => (blocked thread mem).1
  · intro thread isBlocked
    have served := ok.served thread (stays thread isBlocked).1
    have disjoint : Disjoint state.woken wakes :=
      Finset.disjoint_right.mpr fun thread mem => (blocked thread mem).2
    have card := Finset.card_union_of_disjoint disjoint
    simp only [QState.pending] at pending
    simp only [Finset.sdiff_empty]
    rcases pending with pending | ⟨pending, signalled⟩
    · omega
    · have woken := Finset.card_pos.mpr (signalled ⟨thread, (stays thread isBlocked).1⟩)
      omega
  · intro isUnblocked thread isBlocked
    rcases stays thread isBlocked with ⟨wasBlocked, notWoken⟩
    exact notWoken (unblocked isUnblocked thread wasBlocked)

theorem WakeOk.run {entries : List (α × δ × Option φ)} (sound : state.queue.Sound entries)
    (allows : state.Allows wakes event) (ran : state.queue.Step event queue) :
    WakeOk ⟨queue, state.woken \ resumed event ∪ wakes⟩ := by
  rcases ran with ⟨enabled, rv, applied⟩
  have kept : queue.waiting = state.queue.waiting → queue.q = state.queue.q →
      WakeOk ⟨queue, state.woken \ ∅ ∪ wakes⟩ := by
    intro waiting same
    refine ok.changed blocked waiting ?_ (Or.inl (by rw [QState.pending, same, QState.pending]))
    exact fun unblocked thread isBlocked =>
      absurd isBlocked (ok.unblocked (same ▸ unblocked) thread)
  cases event with
  | snd thread msgObj dealloc malloc =>
      rcases MsgQ.snd_cases sound.holds msgObj dealloc malloc with
        ⟨rv, failed, returned⟩ | ⟨open', obj, elem, q, rfl, returned, holds, stays⟩
      · simp only [QState.apply, returned] at applied
        cases applied
        exact kept rfl rfl
      · simp only [QState.apply, returned] at applied
        cases applied
        refine ok.changed blocked rfl (fun unblocked => absurd unblocked (by simp [stays])) ?_
        right
        refine ⟨?_, allows rfl open'⟩
        simp [QState.pending, holds.contents_eq, sound.holds.contents_eq]
  | rcv thread msgObjNull =>
      have waiting : state.queue.waiting thread = false := enabled
      rcases state.queue.q.rcv_cases msgObjNull with ⟨rv, failed, returned⟩ | ⟨-, tests⟩
      · simp only [QState.apply, returned] at applied
        cases applied
        refine kept ?_ rfl
        rw [← waiting, Function.update_eq_self]
      · simp only [QState.apply, tests] at applied
        refine ok.tested blocked (sound.tested thread applied) ?_ (Finset.empty_subset _) ?_
        · simp [Blocked, waiting]
        · intro mem
          have woken := ok.waiting thread (Finset.mem_sdiff.mp mem).1
          simp [waiting] at woken
  | resume thread =>
      exact ok.tested blocked (sound.tested thread applied) (fun isBlocked => isBlocked.2 allows)
        (Finset.Subset.refl _) (by simp [resumed])
  | flush thread =>
      rcases MsgQ.flush_spec sound.holds with ⟨q, flushed, holds, stays⟩
      simp only [QState.apply, flushed] at applied
      cases applied
      refine ok.changed blocked rfl ?_ (Or.inl (by simp [QState.pending, holds.contents_eq]))
      exact fun unblocked thread isBlocked =>
        absurd isBlocked (ok.unblocked (stays ▸ unblocked) thread)
  | unblock thread =>
      cases before : state.queue.q.unblocked with
      | true =>
          simp only [QState.apply, MsgQ.unblock, before, if_true] at applied
          cases applied
          exact kept rfl rfl
      | false =>
          simp only [QState.apply, MsgQ.unblock, before, Bool.false_eq_true, if_false] at applied
          cases applied
          exact ok.changed blocked rfl (fun _ => allows before) (Or.inl le_rfl)

end

/-- No wake-up is lost: as long as a receiver is blocked, for each message in the list another one
is awake. -/
theorem reachable_wakeOk (reached : Run.Reachable (fun state => state = init) Step state) :
    state.WakeOk := by
  have both : (∃ entries, state.queue.Sound entries) ∧ state.WakeOk := by
    apply reached.invariant fun state => (∃ entries, state.queue.Sound entries) ∧ state.WakeOk
    · rintro _ rfl
      exact ⟨⟨[], QState.sound_init⟩, wakeOk_init⟩
    · rintro state event next ⟨⟨entries, sound⟩, ok⟩ stepped
      cases stepped with
      | spurious wakes blocked =>
          refine ⟨⟨entries, sound⟩, ?_⟩
          have changed := ok.changed blocked rfl
            (fun unblocked thread isBlocked => absurd isBlocked (ok.unblocked unblocked thread))
            (Or.inl le_rfl)
          rwa [Finset.sdiff_empty] at changed
      | run wakes blocked allows ran =>
          rcases sound.apply _ with ⟨_, _, applied, nextSound⟩
          rcases ran with ⟨enabled, rv, isNext⟩
          cases isNext.symm.trans applied
          exact ⟨nextSound, ok.run blocked sound allows ⟨enabled, _, isNext⟩⟩
  exact both.2

/-- Two receivers wait; one message wakes one of them. -/
theorem reachable_wakeOk_one : ∃ state : WakeState Bool ℕ Unit (Fin 3), state.woken = {1} ∧
    state.Blocked 2 ∧ state.queue.pending = 1 ∧ state.WakeOk := by
  have reached : Run.Reachable (fun state : WakeState Bool ℕ Unit (Fin 3) => state = init) Step _ :=
    .next (some (.snd 0 (some 10) none (QState.twoCells _)))
      (.next (some (.rcv 2 false)) (.next (some (.rcv 1 false)) (.start rfl)
        (.run ∅ (by simp) trivial ⟨rfl, _, rfl⟩)) (.run ∅ (by simp) trivial ⟨rfl, _, rfl⟩))
      (.run {1} (by simp [Blocked, init]) (fun _ _ _ => ⟨1, by simp⟩) ⟨rfl, _, rfl⟩)
  exact ⟨_, rfl, ⟨rfl, by decide⟩, rfl, reachable_wakeOk reached⟩

end WakeState

end HtcPme.Gps
