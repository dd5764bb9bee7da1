import HtcPme.Foundation.Run

/-!
# LocThread

A `LocThreadDelegate`, which the client that starts it shares with the thread that it runs. Each
access to its fields is one step, and so is each callback.
-/

namespace HtcPme.Gps

/-- The point of `destroy` that a thread is at: its test, its critical section, or behind it. -/
inductive DestroyPc where
  | test | locked | unlocked (callDelete : Bool)
deriving DecidableEq

/-- The client: in the constructor before `pthread_create`, before the test of `create`, with a
delegate, and in `stop` or `destroy`. -/
inductive ClientPc where
  | constructor | create | started | stop | joinTest | join | destroy (point : DestroyPc) | gone
deriving DecidableEq

/-- The thread in `threadMain`, if it was created. -/
inductive ThreadPc where
  | none | entry | prerunTest | prerun | runTest | run | postrunTest | postrun | clear | delete
  | destroy (point : DestroyPc) | ended
deriving DecidableEq

/-- `mRunnable` is only told from `NULL`. `misused` says that the delegate was accessed, or the
runnable called, after it was deleted; `taken`, that `threadMain` has got the runnable. -/
structure LocThreadDelegate where
  client : ClientPc
  thread : ThreadPc
  mRunnable : Bool
  mJoinable : Bool
  mRefCount : ℕ
  taken : Bool
  stopped : Bool
  joined : Bool
  callsAfterStop : ℕ
  runnableDeletes : ℕ
  deletes : ℕ
  misused : Bool
deriving DecidableEq

/-- What the client does, or what the thread does next, with what `run` returns. -/
inductive ThreadEvent where
  | construct (created : Bool) | stop | bye | client | thread (goesOn : Bool)

namespace LocThreadDelegate

variable (state : LocThreadDelegate)

def init (joinable : Bool) : LocThreadDelegate :=
  ⟨.constructor, .none, true, joinable, 2, false, false, false, 0, 0, 0, false⟩

def access : LocThreadDelegate := { state with misused := state.misused || 0 < state.deletes }

def callback : LocThreadDelegate :=
  { state with
    callsAfterStop := state.callsAfterStop + state.stopped.toNat
    misused := state.misused || 0 < state.runnableDeletes }

/-- One step of `destroy`, with the point that it leads to, if any. -/
def destroy : DestroyPc → Option DestroyPc × LocThreadDelegate
  | .test => (if 0 < state.mRefCount then some .locked else none, state.access)
  | .locked => (some (.unlocked (state.mRefCount = 1)),
      { state.access with mRefCount := state.mRefCount - 1 })
  | .unlocked callDelete =>
      (none, if callDelete then { state with deletes := state.deletes + 1 } else state)

/-- `create`, `stop` and `destroy`, from one access to the next. -/
def clientStep : Option LocThreadDelegate :=
  match state.client with
  | .create => some { state.access with
      client := if state.mRunnable then .started else .destroy .test }
  | .stop => some { state.access with mRunnable := false, stopped := true, client := .joinTest }
  | .joinTest => some { state.access with
      mJoinable := false
      client := if state.mJoinable then .join else .destroy .test }
  | .join =>
      if state.thread = .ended then some { state with joined := true, client := .destroy .test }
      else none
  | .destroy point => some { (state.destroy point).2 with
      client := (state.destroy point).1.elim .gone .destroy }
  | _ => none

/-- `threadMain`, from one access or callback to the next. -/
def threadStep (goesOn : Bool) : Option LocThreadDelegate :=
  match state.thread with
  | .none | .ended => none
  | .entry => some { state.access with
      taken := state.mRunnable
      thread := if state.mRunnable then .prerunTest else .destroy .test }
  | .prerunTest => some { state.access with
      thread := if state.mRunnable then .prerun else .runTest }
  | .prerun => some { state.callback with thread := .runTest }
  | .runTest => some { state.access with
      thread := if state.mRunnable then .run else .postrunTest }
  | .run => some { state.callback with thread := if goesOn then .runTest else .postrunTest }
  | .postrunTest => some { state.access with
      thread := if state.mRunnable then .postrun else .clear }
  | .postrun => some { state.callback with thread := .clear }
  | .clear => some { state.access with mRunnable := false, thread := .delete }
  | .delete => some { state with
      runnableDeletes := state.runnableDeletes + 1
      thread := .destroy .test }
  | .destroy point => some { (state.destroy point).2 with
      thread := (state.destroy point).1.elim .ended .destroy }

def step : ThreadEvent → Option LocThreadDelegate
  | .construct created =>
      if state.client = .constructor then
        some (if created then { state with client := .create, thread := .entry }
          else { state with
            client := .create
            mRunnable := false
            mJoinable := false
            mRefCount := 1 })
      else none
  | .stop => if state.client = .started then some { state with client := .stop } else none
  | .bye =>
      if state.client = .started then
        some { state.access with client := if state.mJoinable then .stop else .destroy .test }
      else none
  | .client => state.clientStep
  | .thread goesOn => state.threadStep goesOn

def IsInit : Prop := ∃ joinable, state = init joinable

structure DelegateOk : Prop where
  /-- Nothing is used after it was deleted. -/
  unused : state.misused = false
  /-- The delegate is deleted once, when the client and the thread have both left it. -/
  deleted : state.deletes ≤ 1 ∧
    (state.client = .gone → state.thread = .ended ∨ state.thread = .none → state.deletes = 1)
  /-- The runnable is deleted once, by the thread, unless `stop` came before it had got it. -/
  runnable : state.runnableDeletes ≤ 1 ∧ (state.thread = .ended →
    state.runnableDeletes = state.taken.toNat ∧ (state.taken = true ∨ state.stopped = true))
  /-- A callback is made at most once after `stop`, and none once the thread was joined. -/
  stops : state.callsAfterStop ≤ 1 ∧ (state.joined = true → state.thread = .ended)

end LocThreadDelegate

def DestroyPc.refs : DestroyPc → ℕ
  | .unlocked _ => 0
  | _ => 1

def DestroyPc.deletes : DestroyPc → ℕ
  | .unlocked callDelete => callDelete.toNat
  | _ => 0

def ClientPc.refs : ClientPc → ℕ
  | .constructor => 2
  | .destroy point => point.refs
  | .gone => 0
  | _ => 1

def ClientPc.deletes : ClientPc → ℕ
  | .destroy point => point.deletes
  | _ => 0

/-- While it is `inside` the thread has the runnable. -/
inductive ThreadPhase where
  | none | entry | inside | leaving | ended

def ClientPc.built : ClientPc → Bool
  | .constructor => false
  | _ => true

namespace ThreadPc

def refs : ThreadPc → ℕ
  | .destroy point => point.refs
  | .none | .ended => 0
  | _ => 1

def deletes : ThreadPc → ℕ
  | .destroy point => point.deletes
  | _ => 0

def calls : ThreadPc → Bool
  | .prerun | .run | .postrun => true
  | _ => false

def leaves : ThreadPc → Bool
  | .destroy _ | .ended => true
  | _ => false

def phase : ThreadPc → ThreadPhase
  | .none => .none
  | .entry => .entry
  | .destroy _ => .leaving
  | .ended => .ended
  | _ => .inside

theorem eq_ended {pc : ThreadPc} (ended : pc.phase = .ended) : pc = .ended := by
  cases pc <;> first | rfl | cases ended

end ThreadPc

namespace LocThreadDelegate

/-- Who has not left the delegate yet has a reference, and the last one deletes it. -/
structure Inv (state : LocThreadDelegate) : Prop where
  refs : state.mRefCount = state.client.refs + state.thread.refs
  deletes : state.deletes + state.client.deletes + state.thread.deletes + min state.mRefCount 1 = 1
  unused : state.misused = false
  created : state.client.built = false → state.thread.phase = .none
  taken : state.thread.phase = .inside → state.taken = true
  waits : state.client.built = false ∨ state.thread.phase = .entry →
    state.mRunnable = true ∨ state.stopped = true
  lost : state.thread.leaves = true → state.taken = true ∨ state.stopped = true
  runnable : state.runnableDeletes = (state.taken && state.thread.leaves).toNat
  cleared : state.stopped = true → state.mRunnable = false
  late : state.callsAfterStop + (state.stopped && state.thread.calls).toNat ≤ state.stopped.toNat
  joined : state.joined = true → state.thread.phase = .ended

variable {state next : LocThreadDelegate}

theorem inv_init (joinable : Bool) : (init joinable).Inv := by
  constructor <;> simp [init, ClientPc.built, ClientPc.refs, ClientPc.deletes, ThreadPc.refs,
    ThreadPc.deletes, ThreadPc.leaves, ThreadPc.phase]

theorem Inv.deletes_eq (inv : state.Inv) (held : 0 < state.client.refs + state.thread.refs) :
    state.deletes = 0 := by
  have refs := inv.refs
  have deletes := inv.deletes
  omega

theorem Inv.access (inv : state.Inv) (held : 0 < state.client.refs + state.thread.refs) :
    state.access.misused = false := by
  simp [LocThreadDelegate.access, inv.unused, inv.deletes_eq held]

theorem Inv.runs (inv : state.Inv) (runs : state.mRunnable = true) : state.stopped = false := by
  by_contra stopped
  simp [inv.cleared (by simpa using stopped)] at runs

theorem Inv.callback (inv : state.Inv) (stays : state.thread.leaves = false) :
    state.callback.misused = false := by
  simp [LocThreadDelegate.callback, inv.unused, inv.runnable, stays]

theorem deletes_locked {mRefCount : ℕ} (counted : 0 < mRefCount) :
    (decide (mRefCount = 1)).toNat + min (mRefCount - 1) 1 = min mRefCount 1 := by
  rcases mRefCount with _ | _ | _
  · cases counted
  · rfl
  · simp

theorem Inv.threadStep (inv : state.Inv) {goesOn : Bool}
    (stepped : state.threadStep goesOn = some next) : next.Inv := by
  rcases state with ⟨client, thread, mRunnable, mJoinable, mRefCount, taken, stopped, joined⟩
  have access := fun held => inv.access (Nat.add_pos_right client.refs held)
  have built : thread.phase ≠ .none → client.built ≠ false :=
    fun created built => created (inv.created built)
  have unjoined : thread.phase ≠ .ended → joined ≠ true :=
    fun unended joined => unended (inv.joined joined)
  cases thread with
  | none | ended => cases stepped
  | entry =>
    cases taken <;> cases mRunnable with
    | true =>
      cases stepped
      exact { inv with
        unused := access Nat.one_pos
        created := fun isBuilt => absurd isBuilt (built nofun)
        taken := fun _ => rfl
        waits := fun _ => Or.inl rfl
        lost := nofun
        runnable := inv.runnable
        joined := fun isJoined => absurd isJoined (unjoined nofun) }
    | false =>
      cases stepped
      exact { inv with
        unused := access Nat.one_pos
        created := fun isBuilt => absurd isBuilt (built nofun)
        taken := nofun
        waits := fun _ => inv.waits (Or.inr rfl)
        lost := fun _ => Or.inr ((inv.waits (Or.inr rfl)).resolve_left nofun)
        runnable := inv.runnable
        joined := fun isJoined => absurd isJoined (unjoined nofun) }
  | prerunTest | runTest | postrunTest =>
    cases mRunnable with
    | false =>
      cases stepped
      exact { inv with unused := access Nat.one_pos }
    | true =>
      -- `stop` has not been called, so that a callback may begin.
      obtain rfl : stopped = false := inv.runs rfl
      cases stepped
      exact { inv with unused := access Nat.one_pos, late := inv.late }
  | prerun | run | postrun =>
    cases goesOn <;> cases stopped <;> cases stepped <;>
      exact { inv with unused := inv.callback rfl, late := inv.late }
  | clear =>
    cases stepped
    exact { inv with
      unused := access Nat.one_pos
      waits := fun early => early.elim (fun isBuilt => absurd isBuilt (built nofun)) nofun
      cleared := fun _ => rfl }
  | delete =>
    obtain rfl : taken = true := inv.taken rfl
    cases stepped
    exact { inv with
      created := fun isBuilt => absurd isBuilt (built nofun)
      taken := nofun
      waits := fun early => early.elim (fun isBuilt => absurd isBuilt (built nofun)) nofun
      lost := fun _ => Or.inl rfl
      runnable := congrArg Nat.succ inv.runnable
      joined := fun isJoined => absurd isJoined (unjoined nofun) }
  | destroy point =>
    have refs := inv.refs
    have deletes := inv.deletes
    cases point with
    | test =>
      obtain rfl : mRefCount = client.refs + 1 := refs
      simp only [LocThreadDelegate.threadStep, destroy, Nat.succ_pos, if_true] at stepped
      cases stepped
      exact { inv with unused := access Nat.one_pos }
    | locked =>
      obtain rfl : mRefCount = client.refs + 1 := refs
      have last := deletes_locked (show 0 < client.refs + 1 from Nat.succ_pos _)
      simp only [ThreadPc.deletes, DestroyPc.deletes] at deletes
      cases stepped
      refine { inv with refs := rfl, deletes := ?_, unused := access Nat.one_pos }
      simp only [destroy, LocThreadDelegate.access, Option.elim, ThreadPc.deletes,
        DestroyPc.deletes]
      omega
    | unlocked callDelete =>
      cases callDelete <;> cases stepped <;>
        refine { inv with
          deletes := ?_
          created := fun isBuilt => absurd isBuilt (built nofun)
          taken := nofun
          waits := fun early => early.elim (fun isBuilt => absurd isBuilt (built nofun)) nofun
          joined := fun _ => rfl }
      · exact deletes
      · simpa [destroy, ThreadPc.deletes, DestroyPc.deletes, Nat.add_right_comm] using deletes

theorem Inv.clientStep (inv : state.Inv) (stepped : state.clientStep = some next) : next.Inv := by
  rcases state with ⟨client, thread, mRunnable, mJoinable, mRefCount, taken, stopped⟩
  have access := fun held => inv.access (Nat.add_pos_left held thread.refs)
  cases client with
  | constructor | started | gone => cases stepped
  | create =>
    cases mRunnable <;> cases stepped <;> exact { inv with unused := access Nat.one_pos }
  | joinTest =>
    cases mJoinable <;> cases stepped <;> exact { inv with unused := access Nat.one_pos }
  | stop =>
    have late : ∀ calls, calls + (stopped && thread.calls).toNat ≤ stopped.toNat →
        calls + thread.calls.toNat ≤ 1 := by
      intro calls late
      cases stopped with
      | false => exact Nat.add_le_add (show calls ≤ 0 from late) (Bool.toNat_le _)
      | true => exact late
    cases stepped
    exact { inv with
      unused := access Nat.one_pos
      waits := fun _ => Or.inr rfl
      lost := fun _ => Or.inr rfl
      cleared := fun _ => rfl
      late := late _ inv.late }
  | join =>
    simp only [LocThreadDelegate.clientStep, Option.ite_none_right_eq_some,
      Option.some.injEq] at stepped
    rcases stepped with ⟨rfl, rfl⟩
    exact { inv with joined := fun _ => rfl }
  | destroy point =>
    have refs := inv.refs
    have deletes := inv.deletes
    cases point with
    | test =>
      have counted : 0 < mRefCount := by
        rw [show mRefCount = 1 + thread.refs from refs]
        omega
      simp only [LocThreadDelegate.clientStep, destroy, counted, if_true] at stepped
      cases stepped
      exact { inv with unused := access Nat.one_pos }
    | locked =>
      obtain rfl : mRefCount = 1 + thread.refs := refs
      have last := deletes_locked (Nat.add_pos_left Nat.one_pos thread.refs)
      simp only [ClientPc.deletes, DestroyPc.deletes] at deletes
      cases stepped
      refine { inv with refs := ?_, deletes := ?_, unused := access Nat.one_pos }
      · simp [destroy, LocThreadDelegate.access, ClientPc.refs, DestroyPc.refs]
      · simp only [destroy, LocThreadDelegate.access, Option.elim, ClientPc.deletes,
          DestroyPc.deletes]
        omega
    | unlocked callDelete =>
      cases callDelete with
      | false =>
        cases stepped
        exact { inv with refs := refs }
      | true =>
        cases stepped
        exact { inv with
          deletes := by simpa [destroy, ClientPc.deletes, DestroyPc.deletes] using deletes }

theorem Inv.step (inv : state.Inv) {event : ThreadEvent} (stepped : state.step event = some next) :
    next.Inv := by
  cases event with
  | client => exact inv.clientStep stepped
  | thread goesOn => exact inv.threadStep stepped
  | construct created =>
    rcases state with ⟨client, thread, _, _, mRefCount⟩
    simp only [LocThreadDelegate.step, Option.ite_none_right_eq_some, Option.some.injEq] at stepped
    rcases stepped with ⟨rfl, rfl⟩
    cases thread with
    | none =>
      obtain rfl : mRefCount = 2 := inv.refs
      cases created with
      | true =>
        exact { inv with
          created := nofun
          taken := nofun
          waits := fun _ => inv.waits (Or.inl rfl)
          joined := fun joined => absurd (inv.joined joined) nofun }
      | false =>
        exact { inv with
          refs := rfl
          created := nofun
          waits := fun early => early.elim nofun nofun
          cleared := fun _ => rfl }
    | _ => cases inv.created rfl
  | stop =>
    rcases state with ⟨client⟩
    simp only [LocThreadDelegate.step, Option.ite_none_right_eq_some, Option.some.injEq] at stepped
    rcases stepped with ⟨rfl, rfl⟩
    exact { inv with refs := inv.refs }
  | bye =>
    rcases state with ⟨client, thread, _, mJoinable⟩
    simp only [LocThreadDelegate.step, Option.ite_none_right_eq_some, Option.some.injEq] at stepped
    rcases stepped with ⟨rfl, rfl⟩
    cases mJoinable <;>
      exact { inv with unused := inv.access (Nat.add_pos_left Nat.one_pos thread.refs) }

/-- The client and the thread may take their steps in any order. -/
theorem reachable_delegateOk
    (reached : Run.Reachable IsInit (fun state event next => state.step event = some next) state) :
    state.DelegateOk := by
  have inv : state.Inv := by
    refine reached.invariant Inv ?_ fun _ _ _ inv stepped => inv.step stepped
    rintro _ ⟨joinable, rfl⟩
    exact inv_init joinable
  have refs := inv.refs
  have deletes := inv.deletes
  refine ⟨inv.unused, ⟨by omega, fun gone left => ?_⟩, ?_, ?_,
    fun joined => ThreadPc.eq_ended (inv.joined joined)⟩
  · rcases left with left | left <;>
      simp_all [ClientPc.refs, ClientPc.deletes, ThreadPc.refs, ThreadPc.deletes]
  · rw [inv.runnable]
    have lost := inv.lost
    exact ⟨Bool.toNat_le _, fun ended => by simp_all [ThreadPc.leaves]⟩
  · have late := inv.late
    have := Bool.toNat_le state.stopped
    omega

/-- `stop` is called while `run` is, and the client joins the thread. -/
def joinedRun : List ThreadEvent :=
  [.construct true, .client] ++ List.replicate 4 (.thread true) ++ [.stop, .client, .client] ++
    List.replicate 8 (.thread true) ++ List.replicate 4 .client

theorem joinedRun_isSome : (Run.runAll step (init true) joinedRun).isSome = true := by decide

theorem reachable_delegateOk_joined :
    ((Run.runAll step (init true) joinedRun).get joinedRun_isSome).DelegateOk :=
  reachable_delegateOk (.runAll joinedRun (.start ⟨true, rfl⟩) (Option.some_get _).symm)

end LocThreadDelegate

end HtcPme.Gps
