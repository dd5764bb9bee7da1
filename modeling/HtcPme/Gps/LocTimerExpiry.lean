import HtcPme.Gps.LocTimerRun

/-!
# When callbacks are called

The expire message leaves no due timer behind, but may call too early: the first `pop` does not look
at the time.
-/

namespace HtcPme.Gps

open PriorityBag Option Function

namespace TaskPc

variable {κ : Type}

/-- The client that `LocTimerDelegate::expire` is about to stop. -/
def stops? : TaskPc κ → Option κ
  | .stopping _ _ client => some client
  | _ => none

def firstPop? : TaskPc κ → Option Expiry
  | .popping expiry true => some expiry
  | _ => none

end TaskPc

namespace TimerState

variable {κ : Type} {state next : TimerState κ}

/-- The expire message leaves no timer behind that was due when the poll reported. -/
def DueExpired (state : TimerState κ) : Prop :=
  ∀ expiry first, state.task = .popping expiry first → (state.popNext expiry first).1 = none →
    ∀ timer ∈ state.started, timer.wakeOnExpire = expiry.wakeOnExpire →
      timer.mFutureTime.toNs ≤ expiry.reportedAt.toNs →
        .push timer ∈ state.queue ∨ timer ∈ state.stopped ∨
          ∃ time, (timer, time) ∈ state.callbacks

theorem TimersOk.dueExpired (ok : state.TimersOk) : state.DueExpired := by
  intro expiry first isTask done timer mem same due
  cases isClient : state.mClient timer with
  | none =>
      right
      exact (ok.links.ended timer mem isClient).recorded (by simp [isTask])
  | some client =>
      rcases ok.places.placed timer client isClient with queued | stored | holds
      · exact Or.inl queued
      · rw [same] at stored
        have late := (ok.popNext expiry first).none done timer stored
        have times := (ok.times.expiry expiry (by simp [isTask, TaskPc.expiry?])).1
        omega
      · simp [isTask, TaskPc.Holds] at holds

/-- The first `pop` of an expire message finds a timer that is due, or one that has lost its
client; and no client starts its timer for later while `expire` is about to stop it. -/
def DueGuard (state : TimerState κ) : TimerEvent κ → Prop
  | .start client timeOutInMs _ readAt =>
      state.task.stops? = some client → state.mTimer client = none →
        ∀ futureTime ∈ readAt.futureTime timeOutInMs, futureTime.toNs ≤ state.clock.toNs
  | .task => ∀ expiry ∈ state.task.firstPop?,
      ∀ top ∈ (state.containers expiry.wakeOnExpire).getSoonestTimer,
        top.mFutureTime.toNs ≤ expiry.now.toNs ∨ (state.mClient top).isNone
  | _ => True

instance [DecidableEq κ] (state : TimerState κ) :
    (event : TimerEvent κ) → Decidable (state.DueGuard event)
  | .start _ _ _ _ => inferInstanceAs (Decidable (_ → _ → ∀ futureTime ∈ _, _))
  | .task => inferInstanceAs (Decidable (∀ expiry ∈ _, ∀ top ∈ _, _))
  | .tick _ | .stop _ | .report _ | .poll => inferInstanceAs (Decidable True)

def OnTime (state : TimerState κ) : Prop :=
  ∀ timer time, (timer, time) ∈ state.callbacks → timer.mFutureTime.toNs ≤ time.toNs

def Places (state : TimerState κ) (timer : LocTimerDelegate) : Prop :=
  .push timer ∈ state.queue ∨
    (∃ wakeOnExpire, timer ∈ (state.containers wakeOnExpire).elements) ∨ state.task.Holds timer

structure DueOk (state : TimerState κ) : Prop where
  known : ∀ timer, state.Places timer → timer ∈ state.started
  called : state.OnTime
  expiring : ∀ expiry timer, state.task = .expiring expiry timer →
    timer.mFutureTime.toNs ≤ state.clock.toNs ∨ state.mClient timer = none
  stopping : ∀ expiry timer client, state.task = .stopping expiry timer client →
    ∀ current ∈ state.mTimer client, current.mFutureTime.toNs ≤ state.clock.toNs
  calling : ∀ expiry client ended, state.task = .calling expiry client ended →
    ended.mFutureTime.toNs ≤ state.clock.toNs

section

variable (due : state.DueOk)

include due

variable {timer : LocTimerDelegate} {container : LocTimerContainer}

theorem DueOk.known_update (wakeOnExpire : Bool)
    (le : container.elements ≤ (state.containers wakeOnExpire).elements) {other : Bool}
    (stored : timer ∈ (update state.containers wakeOnExpire container other).elements) :
    timer ∈ state.started := by
  apply due.known
  right
  left
  rw [update_apply] at stored
  split at stored
  · exact ⟨wakeOnExpire, Multiset.mem_of_le le stored⟩
  · exact ⟨other, stored⟩

theorem DueOk.tick {now : Timespec} (later : state.clock.toNs ≤ now.toNs) :
    { state with clock := now }.DueOk := by
  constructor
  · exact due.known
  · exact due.called
  · exact fun expiry timer isTask => (due.expiring expiry timer isTask).imp_left fun less =>
      le_trans less later
  · exact fun expiry timer client isTask current mem =>
      le_trans (due.stopping expiry timer client isTask current mem) later
  · exact fun expiry client ended isTask =>
      le_trans (due.calling expiry client ended isTask) later

theorem DueOk.frame (callbacks : next.callbacks = state.callbacks)
    (clock : next.clock = state.clock) (mClient : next.mClient = state.mClient)
    (mTimer : next.mTimer = state.mTimer) (started : next.started = state.started)
    (known : ∀ timer, next.Places timer → timer ∈ state.started)
    (expiring : ∀ expiry timer, next.task = .expiring expiry timer →
      state.task = .expiring expiry timer ∨ timer.mFutureTime.toNs ≤ state.clock.toNs ∨
        state.mClient timer = none)
    (stopping : ∀ expiry timer client, next.task = .stopping expiry timer client →
      state.task = .stopping expiry timer client ∨
        ∀ current ∈ state.mTimer client, current.mFutureTime.toNs ≤ state.clock.toNs)
    (calling : ∀ expiry client ended, next.task = .calling expiry client ended →
      state.task = .calling expiry client ended) : next.DueOk := by
  constructor
  · rw [started]
    exact known
  · simp only [OnTime, callbacks]
    exact due.called
  · rw [clock, mClient]
    intro expiry timer isTask
    rcases expiring expiry timer isTask with before | new
    · exact due.expiring expiry timer before
    · exact new
  · rw [clock, mTimer]
    intro expiry timer client isTask
    rcases stopping expiry timer client isTask with before | new
    · exact due.stopping expiry timer client before
    · exact new
  · rw [clock]
    exact fun expiry client ended isTask =>
      due.calling expiry client ended (calling expiry client ended isTask)

theorem DueOk.release (containers : Bool → LocTimerContainer)
    (queue : List TimerMsg) (task : TaskPc κ)
    (known : ∀ timer, .push timer ∈ queue ∨
      (∃ wakeOnExpire, timer ∈ (containers wakeOnExpire).elements) → timer ∈ state.started)
    (notHolds : ∀ timer, ¬task.Holds timer)
    (notCalling : ∀ expiry client ended, task ≠ .calling expiry client ended) :
    { state with containers := containers, queue := queue, task := task }.DueOk := by
  refine due.frame rfl rfl rfl rfl rfl ?_ ?_ ?_ ?_
  · rintro timer (pushed | stored | holds)
    · exact known timer (Or.inl pushed)
    · exact known timer (Or.inr stored)
    · exact absurd holds (notHolds timer)
  · exact fun expiry timer same => absurd (Or.inl ⟨expiry, same⟩) (notHolds timer)
  · exact fun expiry timer client same => absurd (Or.inr ⟨expiry, client, same⟩) (notHolds timer)
  · exact fun expiry client ended same => absurd same (notCalling expiry client ended)

theorem DueOk.poll (polled : state.poll = some next) : next.DueOk := by
  have kept : ∀ wakeOnExpire container, container.elements ≤
      (state.containers wakeOnExpire).elements → ∀ stage,
      { state.setContainer wakeOnExpire container with stage := stage }.DueOk := by
    intro wakeOnExpire container le stage
    refine due.frame rfl rfl rfl rfl rfl ?_ (fun _ _ isTask => Or.inl isTask)
      (fun _ _ _ isTask => Or.inl isTask) (fun _ _ _ isTask => isTask)
    rintro timer (pushed | ⟨other, stored⟩ | holds)
    · exact due.known timer (Or.inl pushed)
    · exact due.known_update wakeOnExpire le stored
    · exact due.known timer (Or.inr (Or.inr holds))
  simp only [TimerState.poll] at polled
  split at polled
  · simp at polled
  · cases polled
    refine kept _ _ ?_ _
    exact le_rfl
  · cases polled
    refine kept _ _ ?_ _
    exact le_rfl
  · cases polled
    refine due.frame rfl rfl rfl rfl rfl ?_ (fun _ _ isTask => Or.inl isTask)
      (fun _ _ _ isTask => Or.inl isTask) (fun _ _ _ isTask => isTask)
    rintro timer (pushed | stored)
    · apply due.known timer
      left
      simpa using pushed
    · exact due.known timer (Or.inr stored)

theorem DueOk.procMsg (ok : state.TimersOk) {msg : TimerMsg}
    {queue : List TimerMsg} (isQueue : state.queue = msg :: queue) :
    ({ state with queue := queue }.procMsg msg).DueOk := by
  have pushed : ∀ timer, .push timer ∈ queue → timer ∈ state.started := by
    intro timer mem
    apply due.known timer
    left
    simp [isQueue, mem]
  cases msg with
  | push timer =>
      rcases (ok.places.ok timer.wakeOnExpire).procPush timer with ⟨-, elements⟩
      simp only [TimerState.procMsg]
      rcases finish_eq _ timer.wakeOnExpire _ with ⟨task, finished, rests⟩
      rw [finished]
      refine due.release _ queue task ?_ rests.not_holds rests.not_calling
      rintro other (mem | ⟨wakeOnExpire, stored⟩)
      · exact pushed other mem
      · simp only [setContainer, update_apply] at stored
        split at stored
        · rw [elements, Multiset.mem_cons] at stored
          rcases stored with rfl | stored
          · apply due.known
            left
            simp [isQueue]
          · exact due.known other (Or.inr (Or.inl ⟨_, stored⟩))
        · exact due.known other (Or.inr (Or.inl ⟨_, stored⟩))
  | remove timer =>
      rcases (ok.places.ok timer.wakeOnExpire).procRemove timer with ⟨-, le, -⟩
      simp only [TimerState.procMsg]
      rcases finish_eq _ timer.wakeOnExpire _ with ⟨task, finished, rests⟩
      rw [finished]
      refine due.release _ queue task ?_ rests.not_holds rests.not_calling
      rintro other (mem | ⟨wakeOnExpire, stored⟩)
      · exact pushed other mem
      · exact due.known_update timer.wakeOnExpire le stored
  | expire wakeOnExpire reportedAt =>
      refine due.release state.containers queue _ ?_ (by simp [TaskPc.Holds]) (by simp)
      rintro other (mem | stored)
      · exact pushed other mem
      · exact due.known other (Or.inr (Or.inl stored))

theorem DueOk.popped (ok : state.TimersOk) {expiry : Expiry} {first : Bool}
    (isTask : state.task = .popping expiry first) (guarded : state.DueGuard .task)
    (isNext : state.popNext expiry first = (some timer, container)) :
    { state.setContainer expiry.wakeOnExpire container with
      task := .expiring expiry timer }.DueOk := by
  have popped := ok.popNext expiry first
  rw [isNext] at popped
  have times := (ok.times.expiry expiry (by simp [isTask, TaskPc.expiry?])).2
  rcases popped.some timer rfl with ⟨mem, isTop, dueIfNext⟩
  refine due.frame rfl rfl rfl rfl rfl ?_ ?_ ?_ ?_
  · rintro other (mem | ⟨wakeOnExpire, stored⟩ | holds)
    · exact due.known other (Or.inl mem)
    · exact due.known_update expiry.wakeOnExpire popped.le stored
    · simp only [TaskPc.Holds, TaskPc.expiring.injEq, reduceCtorEq, exists_false, or_false]
        at holds
      rcases holds with ⟨_, -, rfl⟩
      exact due.known timer (Or.inr (Or.inl ⟨_, mem⟩))
  · intro _ other same
    simp only [TaskPc.expiring.injEq] at same
    rw [← same.2]
    right
    cases first with
    | false =>
        left
        exact le_trans (dueIfNext rfl) times
    | true =>
        have guarded := guarded expiry (by simp [isTask, TaskPc.firstPop?]) timer isTop
        rw [isNone_iff_eq_none] at guarded
        exact guarded.imp_left fun less => le_trans less times
  · simp
  · simp

end

variable [DecidableEq κ] {event : TimerEvent κ}

section

variable (due : state.DueOk)

include due

theorem DueOk.start (ok : state.TimersOk) {client : κ}
    {timeOutInMs : UInt32} {wakeOnExpire : Bool} {readAt : Timespec}
    (guarded : state.DueGuard (.start client timeOutInMs wakeOnExpire readAt))
    (started : state.start client timeOutInMs wakeOnExpire readAt = some next) :
    next.DueOk := by
  simp only [TimerState.start] at started
  split at started
  · simp only [some.injEq] at started
    subst started
    exact due
  · rename_i noTimer
    simp only [not_isSome_iff_eq_none] at noTimer
    rcases bind_eq_some_iff.mp started with ⟨futureTime, isFuture, started⟩
    simp only [some.injEq] at started
    subst started
    constructor
    · rintro timer (pushed | stored)
      · simp only [List.mem_append, List.mem_singleton, TimerMsg.push.injEq] at pushed
        rcases pushed with before | rfl
        · exact List.mem_cons_of_mem _ (due.known timer (Or.inl before))
        · exact List.mem_cons_self
      · exact List.mem_cons_of_mem _ (due.known timer (Or.inr stored))
    · exact due.called
    · intro expiry timer isTask
      have mem := due.known timer (Or.inr (Or.inr (Or.inl ⟨expiry, isTask⟩)))
      rcases due.expiring expiry timer isTask with less | noClient
      · exact Or.inl less
      · right
        have ne : timer ≠ ⟨state.nextId, futureTime, wakeOnExpire⟩ := by
          rintro rfl
          exact absurd (ok.links.fresh _ mem) (Nat.lt_irrefl _)
        simp only
        rwa [update_of_ne ne]
    · intro expiry timer other isTask current mem
      simp only [update_apply] at mem
      split at mem
      · rename_i same
        subst same
        simp only [mem_some] at mem
        subst mem
        exact guarded (congrArg TaskPc.stops? isTask) noTimer futureTime isFuture
      · exact due.stopping expiry timer other isTask current mem
    · exact due.calling

theorem DueOk.stop (client : κ) (timer : LocTimerDelegate)
    (mContainer : LocTimerDelegate → Bool) {removes : List TimerMsg}
    (onlyRemoves : ∀ msg ∈ removes, msg = .remove timer) (task : TaskPc κ)
    (stopped : List LocTimerDelegate)
    (same : task = state.task ∨ ∃ expiry, task = .calling expiry client timer ∧
      timer.mFutureTime.toNs ≤ state.clock.toNs) :
    { state with
      mTimer := update state.mTimer client none
      mClient := update state.mClient timer none
      mContainer := mContainer
      queue := state.queue ++ removes
      task := task
      stopped := stopped }.DueOk := by
  constructor
  · rintro other (pushed | stored | holds)
    · rcases List.mem_append.mp pushed with before | new
      · exact due.known other (Or.inl before)
      · simpa using onlyRemoves _ new
    · exact due.known other (Or.inr (Or.inl stored))
    · rcases same with rfl | ⟨expiry, rfl, -⟩
      · exact due.known other (Or.inr (Or.inr holds))
      · simp [TaskPc.Holds] at holds
  · exact due.called
  · intro expiry other isTask
    rcases same with rfl | ⟨expiry, rfl, -⟩
    · refine (due.expiring expiry other isTask).imp_right ?_
      intro noClient
      simp only [update_apply]
      split
      · rfl
      · exact noClient
    · simp at isTask
  · intro expiry other client' isTask current mem
    rcases same with rfl | ⟨expiry, rfl, -⟩
    · simp only [update_apply] at mem
      split at mem
      · simp at mem
      · exact due.stopping expiry other client' isTask current mem
    · simp at isTask
  · intro expiry client' ended isTask
    rcases same with rfl | ⟨expiry, rfl, less⟩
    · exact due.calling expiry client' ended isTask
    · simp only [TaskPc.calling.injEq] at isTask
      rw [← isTask.2.2]
      exact less

theorem DueOk.runTask (ok : state.TimersOk) (guarded : state.DueGuard .task)
    (ran : state.runTask = some next) : next.DueOk := by
  have kept : ∀ timer, .push timer ∈ state.queue ∨
      (∃ wakeOnExpire, timer ∈ (state.containers wakeOnExpire).elements) →
        timer ∈ state.started :=
    fun timer placed => due.known timer (placed.imp_right Or.inl)
  have keptLess : ∀ wakeOnExpire container, container.elements ≤
      (state.containers wakeOnExpire).elements → ∀ timer, .push timer ∈ state.queue ∨
        (∃ other, timer ∈ (update state.containers wakeOnExpire container
          other).elements) → timer ∈ state.started := by
    rintro wakeOnExpire container le timer (mem | ⟨other, stored⟩)
    · exact due.known timer (Or.inl mem)
    · exact due.known_update wakeOnExpire le stored
  cases runTask_cases ran with
  | message _ isQueue => exact due.procMsg ok isQueue
  | @emptied expiry first container _ isNext =>
      have popped := ok.popNext expiry first
      rw [isNext] at popped
      rcases finish_eq (state.setContainer expiry.wakeOnExpire container) expiry.wakeOnExpire
        (container.updateSoonestTime none) with ⟨task, finished, rests⟩
      rw [finished]
      exact due.release _ state.queue task (keptLess _ container popped.le) rests.not_holds
        rests.not_calling
  | popped isTask isNext => exact due.popped ok isTask guarded isNext
  | orphaned | missed =>
      exact due.release _ state.queue _ kept (by simp [TaskPc.Holds]) (by simp)
  | @claimed expiry timer client isTask isClient =>
      refine due.frame rfl rfl rfl rfl rfl ?_ ?_ ?_ ?_
      · rintro other (mem | stored | holds)
        · exact kept other (Or.inl mem)
        · exact kept other (Or.inr stored)
        · apply due.known other
          right
          right
          simpa [isTask, TaskPc.Holds] using holds
      · simp
      · intro _ other client' same
        simp only [TaskPc.stopping.injEq] at same
        rcases same with ⟨-, -, rfl⟩
        right
        intro current mem
        have isTimer := (ok.links.linked client timer).mpr isClient
        rw [isTimer, mem_some] at mem
        rw [← mem]
        rcases due.expiring expiry timer isTask with less | noClient
        · exact less
        · simp [isClient] at noClient
      · simp
  | @stopped expiry timer ended client isTask isTimer =>
      rcases stop_cases state client with
        ⟨noTimer, -⟩ | ⟨other, mContainer, removes, isOther, only, result⟩
      · simp [isTimer] at noTimer
      · rw [isTimer, some.injEq] at isOther
        subst isOther
        rw [result]
        exact due.stop client ended mContainer only (.calling expiry client ended) state.stopped
          (Or.inr ⟨expiry, rfl, due.stopping expiry timer client isTask ended isTimer⟩)
  | @called expiry client ended isTask =>
      have released := due.release state.containers state.queue (.popping expiry false) kept
        (by simp [TaskPc.Holds]) (by simp)
      refine ⟨released.known, ?_, released.expiring, released.stopping, released.calling⟩
      intro timer time mem
      rcases List.mem_cons.mp mem with same | before
      · simp only [Prod.mk.injEq] at same
        rw [same.1, same.2]
        exact due.calling expiry client ended isTask
      · exact due.called timer time before
  | @polled wakeOnExpire update =>
      refine due.release _ state.queue _ (keptLess wakeOnExpire _ ?_) (by simp [TaskPc.Holds])
        (by simp)
      simp [LocTimerContainer.elements, LocTimerContainer.setPoll_heap]
  | @timed wakeOnExpire update =>
      refine due.release _ state.queue _ (keptLess wakeOnExpire _ ?_) (by simp [TaskPc.Holds])
        (by simp)
      simp [LocTimerContainer.elements, LocTimerContainer.setTime_heap]

theorem DueOk.apply (ok : state.TimersOk) (guarded : state.DueGuard event)
    (applied : state.Step event next) : next.DueOk := by
  simp only [Step] at applied
  cases event with
  | tick now =>
      simp only [apply, ite_none_right_eq_some, some.injEq] at applied
      rcases applied with ⟨later, rfl⟩
      exact due.tick later
  | start client timeOutInMs wakeOnExpire readAt =>
      simp only [apply, ite_none_right_eq_some] at applied
      exact due.start ok guarded applied.2
  | stop client =>
      simp only [apply, some.injEq] at applied
      subst applied
      simp only [clientStop]
      rcases stop_cases state client with ⟨-, result⟩ |
        ⟨timer, mContainer, removes, -, only, result⟩
      · rw [result]
        exact due
      · rw [result]
        exact due.stop client timer mContainer only state.task _ (Or.inl rfl)
  | report ready =>
      simp only [apply, ite_none_right_eq_some, some.injEq] at applied
      rcases applied with ⟨-, rfl⟩
      exact due.frame rfl rfl rfl rfl rfl due.known (fun _ _ isTask => Or.inl isTask)
        (fun _ _ _ isTask => Or.inl isTask) (fun _ _ _ isTask => isTask)
  | poll => exact due.poll applied
  | task => exact due.runTask ok guarded applied

end

/-- As long as expire messages find a due timer and no client starts its timer under `expire`, no
callback comes early, and the expire message leaves no due timer behind. -/
theorem reachable_onTime (reached : Run.Reachable IsInit (Run.Guarded DueGuard Step) state) :
    state.OnTime ∧ state.DueExpired := by
  have both : state.TimersOk ∧ state.DueOk := by
    apply reached.invariant fun state => state.TimersOk ∧ state.DueOk
    · rintro _ ⟨clock, rfl⟩
      refine ⟨timersOk_init clock, ?_, ?_, ?_, ?_, ?_⟩
      · rintro timer (pushed | ⟨_, stored⟩ | holds)
        · simp [init] at pushed
        · simp [init, LocTimerContainer.elements, LocTimerContainer.new, LocHeap.elements,
            LocHeap.empty] at stored
        · simp [init, TaskPc.Holds] at holds
      · simp [init, OnTime]
      · simp [init]
      · simp [init]
      · simp [init]
    · rintro state event next ⟨ok, due⟩ ⟨guarded, applied⟩
      exact ⟨ok.apply applied, due.apply ok guarded applied⟩
  exact ⟨both.2.called, both.1.dueExpired⟩

section Runs

def dueRun : List (TimerEvent Bool) :=
  [.start false 10 false bootTime, .task, .task, .task,
    .start true 5000 false bootTime, .task,
    .tick shortlyAfter, .report [false], .poll, .poll, .poll,
    .task, .task, .task, .task, .task, .task, .task, .task, .task]

def earlyRun : List (TimerEvent Bool) :=
  [.start false 10 false bootTime, .task, .task, .task,
    .start true 5000 false bootTime, .task,
    .tick shortlyAfter, .report [false], .stop false,
    .poll, .poll, .poll, .task, .task, .task, .task, .task, .task, .task, .task]

theorem reachable_onTime_short :
    ∃ state : TimerState Bool, state.callbacks.length = 1 ∧ state.OnTime ∧ state.DueExpired := by
  have ran := Option.some_get (by decide +kernel :
    (Run.runGuarded DueGuard apply (init bootTime) dueRun).isSome)
  exact ⟨_, by decide +kernel,
    reachable_onTime (Run.Reachable.runGuarded dueRun (.start ⟨_, rfl⟩) ran.symm)⟩

/-- The five seconds are not over when the second client is called. -/
theorem reachable_not_onTime :
    ¬∀ state : TimerState Bool, Run.Reachable IsInit Step state →
      state.OnTime ∧ state.DueExpired := by
  intro always
  have ran := Option.some_get (by decide +kernel :
    (Run.runAll apply (init bootTime) earlyRun).isSome)
  have onTime := (always _ (Run.Reachable.runAll earlyRun (.start ⟨_, rfl⟩) ran.symm)).1
  have early := onTime ⟨1, ⟨6, 0, by decide, by decide, by decide⟩, false⟩
    shortlyAfter (by decide +kernel)
  simp [shortlyAfter, Timespec.toNs] at early

end Runs

end TimerState

end HtcPme.Gps
