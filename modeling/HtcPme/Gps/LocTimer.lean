import HtcPme.Gps.LocHeap
import Mathlib.Data.Int.ModEq
import Mathlib.Logic.Function.Basic

/-!
# LocTimer

The two timer containers with the threads around them. Clients start and stop timers, the poll
thread posts expire messages, and the message task keeps the heaps and programs the kernel timers.
The threads interleave wherever one reads what another writes.
-/

namespace HtcPme.Gps

open PriorityBag

/-- `struct timespec`, a reading of the boot clock in the first 2^31 seconds or a time to wait for.
It is never zero, which would disarm a timer. -/
structure Timespec where
  tvSec : ℕ
  tvNsec : ℕ
  secLt : tvSec < 2 ^ 31
  nsecLt : tvNsec < 1000000000
  positive : 0 < tvSec + tvNsec
deriving DecidableEq

namespace Timespec

def toNs (time : Timespec) : ℕ := time.tvSec * 1000000000 + time.tvNsec

/-- The reading of the clock that `LocTimer::start` adds the time-out to, as long as the seconds
fit. -/
def futureTime (now : Timespec) (timeOutInMs : UInt32) : Option Timespec :=
  let sec := now.tvSec + timeOutInMs.toNat / 1000
  let nsec := now.tvNsec + timeOutInMs.toNat % 1000 * 1000000
  let carry := if 1000000000 ≤ nsec then nsec / 1000000000 else 0
  if fits : sec + carry < 2 ^ 31 then
    some ⟨sec + carry, nsec % 1000000000, fits, Nat.mod_lt _ (by omega), by
      have := now.positive
      simp only [sec, nsec, carry]
      split <;> omega⟩
  else none

theorem toNs_inj {one other : Timespec} (same : one.toNs = other.toNs) : one = other := by
  rcases one with ⟨sec, nsec, secLt, nsecLt, positive⟩
  rcases other with ⟨sec', nsec', secLt', nsecLt', positive'⟩
  simp only [toNs] at same
  have secEq : sec = sec' := by omega
  have nsecEq : nsec = nsec' := by omega
  subst secEq nsecEq
  rfl

end Timespec

/-- `LocTimerDelegate` as the heap knows it, with the container that it was created for. Its other
fields change; `TimerState` has them. -/
structure LocTimerDelegate where
  id : ℕ
  mFutureTime : Timespec
  wakeOnExpire : Bool
deriving DecidableEq

namespace LocTimerDelegate

def toInt (value : ℤ) : ℤ := value.bmod (2 ^ 32)

def ranks (this timer : LocTimerDelegate) : ℤ :=
  let rank := toInt (timer.mFutureTime.tvSec - this.mFutureTime.tvSec)
  if rank = 0 then toInt (timer.mFutureTime.tvNsec - this.mFutureTime.tvNsec) else rank

variable {one other : LocTimerDelegate}

theorem toInt_of_small {value : ℤ} (lower : -(2 ^ 31) ≤ value) (upper : value < 2 ^ 31) :
    toInt value = value := by
  simp only [toInt, Int.bmod]
  omega

theorem outRanks_iff :
    LocHeapNode.OutRanks ranks one other ↔ one.mFutureTime.toNs < other.mFutureTime.toNs := by
  have := one.mFutureTime.secLt
  have := other.mFutureTime.secLt
  have := one.mFutureTime.nsecLt
  have := other.mFutureTime.nsecLt
  simp only [LocHeapNode.OutRanks, ranks, Timespec.toNs]
  rw [toInt_of_small (by omega) (by omega), toInt_of_small (by omega) (by omega)]
  split <;> omega

theorem ranking : IsRanking (LocHeapNode.OutRanks ranks) := by
  constructor
  · intro one other
    simp only [outRanks_iff]
    omega
  · intro one other third
    simp only [outRanks_iff]
    omega

end LocTimerDelegate

/-- What `updateSoonestTime` asks of the kernel. -/
inductive KernelUpdate where
  | disarm
  | arm (time : Timespec)
deriving DecidableEq

/-- `LocTimerContainer`: its heap, the time that its kernel timer is set to, and whether its
descriptor is in the poll set. -/
structure LocTimerContainer where
  heap : LocHeap LocTimerDelegate
  armed : Option Timespec
  inPoll : Bool

namespace LocTimerContainer

variable (container : LocTimerContainer)

def new : LocTimerContainer := ⟨.empty, none, false⟩

def getSoonestTimer : Option LocTimerDelegate := container.heap.peek

def push (timer : LocTimerDelegate) : LocTimerContainer :=
  { container with heap := container.heap.push LocTimerDelegate.ranks timer }

def pop : Option LocTimerDelegate × LocTimerContainer :=
  ((container.heap.pop LocTimerDelegate.ranks).1,
    { container with heap := (container.heap.pop LocTimerDelegate.ranks).2 })

def heapRemove (timer : LocTimerDelegate) : Option LocTimerDelegate × LocTimerContainer :=
  ((container.heap.remove LocTimerDelegate.ranks timer).1,
    { container with heap := (container.heap.remove LocTimerDelegate.ranks timer).2 })

def popIfOutRanks (timer : LocTimerDelegate) : Option LocTimerDelegate × LocTimerContainer :=
  match container.heap.peek with
  | none => (none, container)
  | some top =>
      if ¬LocHeapNode.OutRanks LocTimerDelegate.ranks timer top then container.pop
      else (none, container)

def updateSoonestTime (priorTop : Option LocTimerDelegate) : Option KernelUpdate :=
  if container.getSoonestTimer = priorTop then none
  else
    match container.getSoonestTimer, priorTop with
    | none, _ => some .disarm
    | some curTop, none => some (.arm curTop.mFutureTime)
    | some curTop, some priorTop =>
        if LocHeapNode.OutRanks LocTimerDelegate.ranks curTop priorTop then
          some (.arm curTop.mFutureTime)
        else none

/-- The first system call of an update: `removePoll` or `addPoll`. -/
def setPoll : KernelUpdate → LocTimerContainer
  | .disarm => { container with inPoll := false }
  | .arm _ => { container with inPoll := true }

def setTime : KernelUpdate → LocTimerContainer
  | .disarm => { container with armed := none }
  | .arm time => { container with armed := some time }

def procPush (timer : LocTimerDelegate) : Option KernelUpdate × LocTimerContainer :=
  let priorTop := container.getSoonestTimer
  let pushed := container.push timer
  (pushed.updateSoonestTime priorTop, pushed)

def procRemove (timer : LocTimerDelegate) : Option KernelUpdate × LocTimerContainer :=
  let priorTop := container.getSoonestTimer
  let (removed, left) := container.heapRemove timer
  (if priorTop = removed then left.updateSoonestTime none else none, left)

def Synced : Prop :=
  match container.getSoonestTimer with
  | none => container.armed = none ∧ container.inPoll = false
  | some top => container.armed = some top.mFutureTime ∧ container.inPoll = true

end LocTimerContainer

inductive TimerMsg where
  | push (timer : LocTimerDelegate)
  | remove (timer : LocTimerDelegate)
  /-- Posted for what the poll reported at this time. -/
  | expire (wakeOnExpire : Bool) (reportedAt : Timespec)
deriving DecidableEq

/-- `MsgTimerExpire::proc` with the container it is for and the time that it read. -/
structure Expiry where
  wakeOnExpire : Bool
  reportedAt : Timespec
  now : Timespec
deriving DecidableEq

inductive TaskPc (κ : Type) where
  | idle
  /-- The loop of `MsgTimerExpire::proc`; its first `pop` has no condition. -/
  | popping (expiry : Expiry) (first : Bool)
  /-- `LocTimerDelegate::expire` reads `mClient`. -/
  | expiring (expiry : Expiry) (timer : LocTimerDelegate)
  /-- It calls `client->stop()`. -/
  | stopping (expiry : Expiry) (timer : LocTimerDelegate) (client : κ)
  /-- It calls `client->timeOutCallback()`; `stop()` has ended this timer. -/
  | calling (expiry : Expiry) (client : κ) (ended : LocTimerDelegate)
  | settingPoll (wakeOnExpire : Bool) (update : KernelUpdate)
  | settingTime (wakeOnExpire : Bool) (update : KernelUpdate)
deriving DecidableEq

/-- How far `LocTimerContainer::expire` has come in the poll thread. -/
inductive PollStage where
  | setTime
  | removePoll
  | sendMsg
deriving DecidableEq

/-- The timers of clients, the containers and the threads. The last three fields record the timers
that were started, those that a client stopped, and the callbacks with the timer that each ended. -/
structure TimerState (κ : Type) where
  clock : Timespec
  mTimer : κ → Option LocTimerDelegate
  mClient : LocTimerDelegate → Option κ
  mContainer : LocTimerDelegate → Bool
  nextId : ℕ
  containers : Bool → LocTimerContainer
  queue : List TimerMsg
  task : TaskPc κ
  reported : List (Bool × Timespec)
  stage : PollStage
  started : List LocTimerDelegate
  stopped : List LocTimerDelegate
  callbacks : List (LocTimerDelegate × Timespec)

inductive TimerEvent (κ : Type) where
  | tick (now : Timespec)
  /-- The clock was read at `readAt`, under the lock. -/
  | start (client : κ) (timeOutInMs : UInt32) (wakeOnExpire : Bool) (readAt : Timespec)
  | stop (client : κ)
  | report (ready : List Bool)
  | poll
  | task

namespace TimerState

variable {κ : Type} [DecidableEq κ] (state : TimerState κ)

def init (clock : Timespec) : TimerState κ where
  clock := clock
  mTimer := fun _ => none
  mClient := fun _ => none
  mContainer := fun _ => false
  nextId := 0
  containers := fun _ => .new
  queue := []
  task := .idle
  reported := []
  stage := .setTime
  started := []
  stopped := []
  callbacks := []

def setContainer (wakeOnExpire : Bool) (container : LocTimerContainer) : TimerState κ :=
  { state with containers := Function.update state.containers wakeOnExpire container }

def start (client : κ) (timeOutInMs : UInt32) (wakeOnExpire : Bool) (readAt : Timespec) :
    Option (TimerState κ) :=
  if (state.mTimer client).isSome then some state
  else do
    let futureTime ← readAt.futureTime timeOutInMs
    let timer : LocTimerDelegate := ⟨state.nextId, futureTime, wakeOnExpire⟩
    some { state with
      mTimer := Function.update state.mTimer client (some timer)
      mClient := Function.update state.mClient timer (some client)
      mContainer := Function.update state.mContainer timer true
      nextId := state.nextId + 1
      queue := state.queue ++ [.push timer]
      started := timer :: state.started }

def destroyLocked (timer : LocTimerDelegate) : TimerState κ :=
  let cleared := { state with mClient := Function.update state.mClient timer none }
  if cleared.mContainer timer then
    { cleared with
      mContainer := Function.update cleared.mContainer timer false
      queue := cleared.queue ++ [.remove timer] }
  else cleared

def stop (client : κ) : Option LocTimerDelegate × TimerState κ :=
  match state.mTimer client with
  | none => (none, state)
  | some timer =>
      (some timer,
        { state with mTimer := Function.update state.mTimer client none }.destroyLocked timer)

def clientStop (client : κ) : TimerState κ :=
  let (ended, next) := state.stop client
  { next with stopped := ended.toList ++ next.stopped }

/-- `epoll_wait` returns: these containers are polled and their timers have run out. -/
def Ready (ready : List Bool) : Prop :=
  ready ≠ [] ∧ ready.Nodup ∧ ∀ wakeOnExpire ∈ ready,
    (state.containers wakeOnExpire).inPoll = true ∧
      ∃ time ∈ (state.containers wakeOnExpire).armed, time.toNs ≤ state.clock.toNs

instance (ready : List Bool) : Decidable (state.Ready ready) :=
  inferInstanceAs (Decidable (_ ∧ _ ∧ _))

/-- `LocTimerPollTask::run`, one system call or message of `LocTimerContainer::expire` at a time. -/
def poll : Option (TimerState κ) :=
  match state.reported, state.stage with
  | [], _ => none
  | (wakeOnExpire, _) :: _, .setTime =>
      some { state.setContainer wakeOnExpire ((state.containers wakeOnExpire).setTime .disarm) with
        stage := .removePoll }
  | (wakeOnExpire, _) :: _, .removePoll =>
      some { state.setContainer wakeOnExpire ((state.containers wakeOnExpire).setPoll .disarm) with
        stage := .sendMsg }
  | (wakeOnExpire, reportedAt) :: reported, .sendMsg =>
      some { state with
        queue := state.queue ++ [.expire wakeOnExpire reportedAt]
        reported := reported
        stage := .setTime }

/-- The end of a message: what `updateSoonestTime` asked for is still to be done. -/
def finish (wakeOnExpire : Bool) (update : Option KernelUpdate) : TimerState κ :=
  match update with
  | none => { state with task := .idle }
  | some update => { state with task := .settingPoll wakeOnExpire update }

def procMsg : TimerMsg → TimerState κ
  | .push timer =>
      let (update, container) := (state.containers timer.wakeOnExpire).procPush timer
      (state.setContainer timer.wakeOnExpire container).finish timer.wakeOnExpire update
  | .remove timer =>
      let (update, container) := (state.containers timer.wakeOnExpire).procRemove timer
      (state.setContainer timer.wakeOnExpire container).finish timer.wakeOnExpire update
  | .expire wakeOnExpire reportedAt =>
      { state with task := .popping ⟨wakeOnExpire, reportedAt, state.clock⟩ true }

def timerOfNow (expiry : Expiry) : LocTimerDelegate :=
  ⟨0, expiry.now, expiry.wakeOnExpire⟩

/-- The test of the loop of `MsgTimerExpire::proc`, with what it pops. -/
def popNext (expiry : Expiry) (first : Bool) : Option LocTimerDelegate × LocTimerContainer :=
  if first then (state.containers expiry.wakeOnExpire).pop
  else (state.containers expiry.wakeOnExpire).popIfOutRanks (timerOfNow expiry)

def runTask : Option (TimerState κ) :=
  match state.task with
  | .idle =>
      match state.queue with
      | [] => none
      | msg :: queue => some ({ state with queue := queue }.procMsg msg)
  | .popping expiry first =>
      let (timer, container) := state.popNext expiry first
      let next := state.setContainer expiry.wakeOnExpire container
      match timer with
      | none => some (next.finish expiry.wakeOnExpire (container.updateSoonestTime none))
      | some timer => some { next with task := .expiring expiry timer }
  | .expiring expiry timer =>
      match state.mClient timer with
      | none => some { state with task := .popping expiry false }
      | some client => some { state with task := .stopping expiry timer client }
  | .stopping expiry _ client =>
      match state.stop client with
      | (none, next) => some { next with task := .popping expiry false }
      | (some ended, next) => some { next with task := .calling expiry client ended }
  | .calling expiry _ ended =>
      some { state with
        callbacks := (ended, state.clock) :: state.callbacks
        task := .popping expiry false }
  | .settingPoll wakeOnExpire update =>
      some { state.setContainer wakeOnExpire ((state.containers wakeOnExpire).setPoll update) with
        task := .settingTime wakeOnExpire update }
  | .settingTime wakeOnExpire update =>
      some { state.setContainer wakeOnExpire ((state.containers wakeOnExpire).setTime update) with
        task := .idle }

def apply : TimerEvent κ → Option (TimerState κ)
  | .tick now => if state.clock.toNs ≤ now.toNs then some { state with clock := now } else none
  | .start client timeOutInMs wakeOnExpire readAt =>
      if readAt.toNs ≤ state.clock.toNs then state.start client timeOutInMs wakeOnExpire readAt
      else none
  | .stop client => some (state.clientStop client)
  | .report ready =>
      if state.reported = [] ∧ state.Ready ready then
        some { state with
          reported := ready.map fun wakeOnExpire => (wakeOnExpire, state.clock)
          stage := .setTime }
      else none
  | .poll => state.poll
  | .task => state.runTask

def IsInit (state : TimerState κ) : Prop := ∃ clock, state = init clock

def Step (state : TimerState κ) (event : TimerEvent κ) (next : TimerState κ) : Prop :=
  state.apply event = some next

end TimerState

end HtcPme.Gps
