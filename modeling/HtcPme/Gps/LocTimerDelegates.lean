import HtcPme.Gps.LocTimerRun

/-!
# The delegates of the timers

A delegate is shared by its client, the queue, the heap and the message task. The message task frees
it, when it removes it from the heap.
-/

namespace HtcPme.Gps

open Function (update_of_ne update_apply)

open PriorityBag List

theorem LocTimerContainer.Ok.mem_of_soonest {container : LocTimerContainer} (ok : container.Ok)
    {timer : LocTimerDelegate} (soonest : container.getSoonestTimer = some timer) :
    timer ∈ container.elements := by
  rcases ok.pop with ⟨-, ⟨isNone, -⟩ | ⟨top, mem, isTop, -⟩⟩
  · simp [soonest] at isNone
  · rw [soonest, Option.some.injEq] at isTop
    rw [isTop]
    exact mem

namespace TimerState

variable {κ : Type} (state : TimerState κ)

/-- A delegate is used in a step: by a client that stops it, by the message that adds or removes it,
by comparisons of the heap that it is in, or by its expiry. -/
def Uses (timer : LocTimerDelegate) : TimerEvent κ → Prop
  | .stop client => state.mTimer client = some timer
  | .task =>
      match state.task with
      | .idle => ∃ msg ∈ state.queue.head?,
          match msg with
          | .push other | .remove other =>
              timer = other ∨ timer ∈ (state.containers other.wakeOnExpire).elements
          | .expire _ _ => False
      | .popping expiry _ => timer ∈ (state.containers expiry.wakeOnExpire).elements
      | .expiring _ other => timer = other
      | .stopping _ _ client => state.mTimer client = some timer
      | .calling _ _ _ => False
      | .settingPoll wakeOnExpire _ | .settingTime wakeOnExpire _ =>
          (state.containers wakeOnExpire).getSoonestTimer = some timer
  | .tick _ | .start _ _ _ _ | .report _ | .poll => False

def frees : TimerEvent κ → List LocTimerDelegate
  | .task =>
      match state.task, state.queue with
      | .idle, .remove timer :: _ => [timer]
      | _, _ => []
  | _ => []

/-- The delegate whose expiry calls `client->stop()`, with the one that this ends. -/
def ends : TimerEvent κ → List (LocTimerDelegate × LocTimerDelegate)
  | .task =>
      match state.task with
      | .stopping _ timer client => (state.mTimer client).toList.map fun ended => (timer, ended)
      | _ => []
  | _ => []

end TimerState

/-- The timers, with the delegates that were freed, and those that were ended by an expiry with the
delegate that expired before them. -/
structure DelegateState (κ : Type) where
  timers : TimerState κ
  freed : List LocTimerDelegate
  endings : List (LocTimerDelegate × LocTimerDelegate)

namespace DelegateState

variable {κ : Type} [DecidableEq κ] (state : DelegateState κ)

def init (clock : Timespec) : DelegateState κ := ⟨.init clock, [], []⟩

def apply (event : TimerEvent κ) : Option (DelegateState κ) :=
  (state.timers.apply event).map fun timers =>
    ⟨timers, state.timers.frees event ++ state.freed, state.timers.ends event ++ state.endings⟩

def IsInit (state : DelegateState κ) : Prop := ∃ clock, state = init clock

def Step (state : DelegateState κ) (event : TimerEvent κ) (next : DelegateState κ) : Prop :=
  state.apply event = some next

/-- A delegate that has lost its client is freed once, and no other is; none is used after that; no
timer is called back for twice, and an expiry ends its own delegate only. -/
structure DelegatesOk (state : DelegateState κ) : Prop where
  freedOnce : ∀ timer, state.freed.count timer + state.timers.queue.count (.remove timer) =
    if timer ∈ state.timers.started ∧ state.timers.mClient timer = none then 1 else 0
  unused : ∀ event timer, state.timers.Uses timer event → timer ∉ state.freed
  calledOnce : (state.timers.callbacks.map Prod.fst).Nodup
  accounted : ∀ timer ∈ state.timers.callbacks.map Prod.fst, timer ∈ state.endings.map Prod.snd
  own : ∀ ending ∈ state.endings, ending.1 = ending.2

end DelegateState

namespace TimerState

variable {κ : Type} {state next : TimerState κ} {freed : List LocTimerDelegate}
  {endings : List (LocTimerDelegate × LocTimerDelegate)}

/-- The delegate that `client->stop()` ends is the one that expires: its client has not started
another timer since `mClient` was read. -/
def NotRestarted (state : TimerState κ) : TimerEvent κ → Prop
  | .task =>
      match state.task with
      | .stopping _ timer client => ∀ current ∈ state.mTimer client, current = timer
      | _ => True
  | _ => True

structure LifeOk (state : TimerState κ) (freed : List LocTimerDelegate) : Prop where
  contained : ∀ timer ∈ state.started, state.mContainer timer = (state.mClient timer).isSome
  ended : ∀ timer, freed.count timer + state.queue.count (.remove timer) =
    if timer ∈ state.started ∧ state.mClient timer = none then 1 else 0
  pushed : ∀ timer, .push timer ∈ state.queue → timer ∈ state.started ∧ timer ∉ freed
  stored : ∀ wakeOnExpire, ∀ timer ∈ (state.containers wakeOnExpire).elements,
    timer.wakeOnExpire = wakeOnExpire ∧ timer ∈ state.started ∧ timer ∉ freed
  once : ∀ timer, state.queue.count (.push timer) +
    (state.containers timer.wakeOnExpire).elements.count timer ≤ 1
  inOrder : state.queue.Pairwise fun first second =>
    ∀ timer, first = .remove timer → second ≠ .push timer
  expiring : ∀ expiry timer, state.task = .expiring expiry timer → timer ∉ freed

structure CallsOk (state : TimerState κ) (endings : List (LocTimerDelegate × LocTimerDelegate)) :
    Prop where
  calledOnce : (state.callbacks.map Prod.fst).Nodup
  called : ∀ timer ∈ state.callbacks.map Prod.fst, timer ∈ endings.map Prod.snd
  ended : ∀ timer ∈ endings.map Prod.snd, timer ∈ state.started ∧ state.mClient timer = none
  calling : ∀ expiry client timer, state.task = .calling expiry client timer →
    timer ∈ endings.map Prod.snd ∧ timer ∉ state.callbacks.map Prod.fst

variable {timer : LocTimerDelegate} {wakeOnExpire : Bool}

section

variable (ok : state.LifeOk freed)

include ok

theorem LifeOk.notFreed
    (notEnded : ¬(timer ∈ state.started ∧ state.mClient timer = none)) : timer ∉ freed := by
  have count := ok.ended timer
  rw [if_neg notEnded] at count
  intro mem
  have positive := count_pos_iff.mpr mem
  omega

theorem LifeOk.notRemoved (notEnded : ¬(timer ∈ state.started ∧ state.mClient timer = none)) :
    .remove timer ∉ state.queue := by
  have count := ok.ended timer
  rw [if_neg notEnded] at count
  intro mem
  have positive := count_pos_iff.mpr mem
  omega

theorem LifeOk.notFreed_of_remove (queued : .remove timer ∈ state.queue) : timer ∉ freed := by
  have count := ok.ended timer
  have positive := count_pos_iff.mpr queued
  intro mem
  have freedOnce := count_pos_iff.mpr mem
  split at count <;> omega

theorem LifeOk.unused (timersOk : state.TimersOk)
    {event : TimerEvent κ} (uses : state.Uses timer event) :
    timer ∉ freed := by
  have linked : ∀ client, state.mTimer client = some timer → timer ∉ freed := by
    intro client isTimer
    apply ok.notFreed
    rintro ⟨-, noClient⟩
    have isClient := (timersOk.links.linked client timer).mp isTimer
    simp [noClient] at isClient
  cases event with
  | stop client => exact linked client uses
  | task =>
      simp only [Uses] at uses
      split at uses
      · rcases uses with ⟨msg, isHead, uses⟩
        have queued := mem_of_mem_head? isHead
        split at uses
        · rcases uses with rfl | stored
          · exact (ok.pushed _ queued).2
          · exact (ok.stored _ timer stored).2.2
        · rcases uses with rfl | stored
          · exact ok.notFreed_of_remove queued
          · exact (ok.stored _ timer stored).2.2
        · exact absurd uses not_false
      · exact (ok.stored _ timer uses).2.2
      · rename_i expiry other isTask
        rw [uses]
        exact ok.expiring expiry other isTask
      · exact linked _ uses
      · exact absurd uses not_false
      all_goals
        exact (ok.stored _ timer ((timersOk.places.ok _).mem_of_soonest uses)).2.2
  | tick now | start client timeOutInMs wakeOnExpire readAt | report ready | poll =>
        exact absurd uses not_false

theorem LifeOk.frame (mContainer : next.mContainer = state.mContainer)
    (mClient : next.mClient = state.mClient) (started : next.started = state.started)
    (containers : ∀ wakeOnExpire, (next.containers wakeOnExpire).heap =
      (state.containers wakeOnExpire).heap)
    (queue : ∃ expires, (∀ msg ∈ expires, ∃ wakeOnExpire time, msg = .expire wakeOnExpire time) ∧
      next.queue = state.queue ++ expires)
    (expiring : ∀ expiry timer, next.task = .expiring expiry timer →
      state.task = .expiring expiry timer) : next.LifeOk freed := by
  rcases queue with ⟨expires, onlyExpires, isQueue⟩
  have notPush : ∀ timer, .push timer ∉ expires := by
    intro timer mem
    rcases onlyExpires _ mem with ⟨_, _, isExpire⟩
    simp at isExpire
  have notRemove : ∀ timer, .remove timer ∉ expires := by
    intro timer mem
    rcases onlyExpires _ mem with ⟨_, _, isExpire⟩
    simp at isExpire
  have elements : ∀ wakeOnExpire, (next.containers wakeOnExpire).elements =
      (state.containers wakeOnExpire).elements := by
    intro wakeOnExpire
    simp only [LocTimerContainer.elements, containers]
  constructor
  · rw [mContainer, mClient, started]
    exact ok.contained
  · intro timer
    rw [isQueue, count_append, count_eq_zero_of_not_mem (notRemove timer), mClient,
      started]
    exact ok.ended timer
  · intro timer mem
    rw [isQueue, mem_append] at mem
    rw [started]
    exact ok.pushed timer (mem.resolve_right (notPush timer))
  · intro wakeOnExpire timer mem
    rw [elements] at mem
    rw [started]
    exact ok.stored wakeOnExpire timer mem
  · intro timer
    rw [isQueue, count_append, count_eq_zero_of_not_mem (notPush timer), elements]
    exact ok.once timer
  · rw [isQueue, pairwise_append]
    refine ⟨ok.inOrder, ?_, ?_⟩
    · apply pairwise_of_forall_mem_list
      intro first isFirst second _ timer isRemove
      exact absurd (isRemove ▸ isFirst) (notRemove timer)
    · intro first _ second isSecond timer _ isPush
      exact absurd (isPush ▸ isSecond) (notPush timer)
  · exact fun expiry timer isTask => ok.expiring expiry timer (expiring expiry timer isTask)

end

theorem CallsOk.frame (ok : state.CallsOk endings)
    (ended : ∀ timer, timer ∈ state.started ∧ state.mClient timer = none →
      timer ∈ next.started ∧ next.mClient timer = none)
    (callbacks : next.callbacks = state.callbacks)
    (calling : ∀ expiry client timer, next.task = .calling expiry client timer →
      state.task = .calling expiry client timer) : next.CallsOk endings := by
  constructor
  · rw [callbacks]
    exact ok.calledOnce
  · rw [callbacks]
    exact ok.called
  · exact fun timer mem => ended timer (ok.ended timer mem)
  · rw [callbacks]
    exact fun expiry client timer isTask =>
      ok.calling expiry client timer (calling expiry client timer isTask)

theorem lifeOk_init (clock : Timespec) : (init clock : TimerState κ).LifeOk [] := by
  have empty : ∀ wakeOnExpire : Bool,
      (LocTimerContainer.elements ((init clock : TimerState κ).containers wakeOnExpire)) = 0 :=
    fun _ => rfl
  constructor
  · simp [init]
  · simp [init]
  · simp [init]
  · simp [empty]
  · intro timer
    rw [empty]
    simp [init]
  · simp [init]
  · simp [init]

theorem callsOk_init (clock : Timespec) : (init clock : TimerState κ).CallsOk [] := by
  constructor <;> simp [init]

section

variable (ok : state.LifeOk freed)

include ok

theorem LifeOk.take {container : LocTimerContainer}
    (le : container.elements ≤ (state.containers wakeOnExpire).elements) (task : TaskPc κ)
    (expiring : ∀ expiry timer, task = .expiring expiry timer →
      timer ∈ (state.containers wakeOnExpire).elements) :
    { state with
      containers := Function.update state.containers wakeOnExpire container
      task := task }.LifeOk freed := by
  constructor
  · exact ok.contained
  · exact ok.ended
  · exact ok.pushed
  · intro other timer mem
    simp only [update_apply] at mem
    split at mem
    · rename_i same
      rw [same]
      exact ok.stored wakeOnExpire timer (Multiset.mem_of_le le mem)
    · exact ok.stored other timer mem
  · intro timer
    have once := ok.once timer
    simp only [update_apply]
    split
    · rename_i same
      have less := Multiset.count_le_of_le timer le
      rw [same] at once
      omega
    · exact once
  · exact ok.inOrder
  · exact fun expiry timer isTask => (ok.stored _ timer (expiring expiry timer isTask)).2.2

theorem LifeOk.withTask (task : TaskPc κ)
    (expiring : ∀ expiry timer, task = .expiring expiry timer →
      state.task = .expiring expiry timer) : { state with task := task }.LifeOk freed :=
  ok.frame rfl rfl rfl (fun _ => rfl) ⟨[], by simp, by simp⟩ expiring

theorem LifeOk.finish (wakeOnExpire : Bool)
    (update : Option KernelUpdate) : (state.finish wakeOnExpire update).LifeOk freed := by
  cases update with
  | none => exact ok.withTask .idle (by simp)
  | some update => exact ok.withTask (.settingPoll wakeOnExpire update) (by simp)

variable {queue : List TimerMsg}

theorem LifeOk.push (timersOk : state.TimersOk) (isTask : state.task = .idle)
    (isQueue : state.queue = .push timer :: queue) :
    ({ state with queue := queue }.procMsg (.push timer)).LifeOk freed := by
  rcases (timersOk.places.ok timer.wakeOnExpire).procPush timer with ⟨-, elements⟩
  have isPushed := ok.pushed timer (by simp [isQueue])
  simp only [procMsg]
  generalize (state.containers timer.wakeOnExpire).procPush timer = result at elements ⊢
  apply LifeOk.finish
  constructor
  · exact ok.contained
  · intro other
    have ended := ok.ended other
    rw [isQueue, count_cons_of_ne (by simp)] at ended
    exact ended
  · intro other mem
    exact ok.pushed other (by rw [isQueue]; exact mem_cons_of_mem _ mem)
  · intro wakeOnExpire other mem
    simp only [setContainer, update_apply] at mem
    split at mem
    · rename_i same
      rw [elements, Multiset.mem_cons] at mem
      rcases mem with rfl | isOld
      · exact ⟨same.symm, isPushed⟩
      · rw [same]
        exact ok.stored _ other isOld
    · exact ok.stored wakeOnExpire other mem
  · intro other
    have once := ok.once other
    rw [isQueue] at once
    simp only [setContainer, update_apply]
    by_cases isTimer : other = timer
    · subst isTimer
      rw [count_cons_self] at once
      rw [if_pos rfl, elements, Multiset.count_cons_self]
      omega
    · rw [count_cons_of_ne (by simpa using fun same => isTimer same.symm)] at once
      split
      · rename_i same
        rw [elements, Multiset.count_cons_of_ne isTimer, ← same]
        exact once
      · exact once
  · have inOrder := ok.inOrder
    rw [isQueue] at inOrder
    exact (pairwise_cons.mp inOrder).2
  · intro expiry other isExpiring
    simp [setContainer, isTask] at isExpiring

theorem LifeOk.remove (timersOk : state.TimersOk) (isTask : state.task = .idle)
    (isQueue : state.queue = .remove timer :: queue) :
    ({ state with queue := queue }.procMsg (.remove timer)).LifeOk (timer :: freed) := by
  have inOrder := ok.inOrder
  rw [isQueue] at inOrder
  rcases pairwise_cons.mp inOrder with ⟨notPushed, inOrder⟩
  have gone : timer ∉ ((state.containers timer.wakeOnExpire).procRemove timer).2.elements ∧
      ((state.containers timer.wakeOnExpire).procRemove timer).2.elements ≤
        (state.containers timer.wakeOnExpire).elements := by
    have once := ok.once timer
    have step := (LocHeap.HeapOk.remove (timersOk.places.ok timer.wakeOnExpire)
      LocTimerDelegate.ranking timer).2
    rcases step.remove_cases with ⟨mem, -, left⟩ | ⟨notMem, -, left⟩
    · have left : ((state.containers timer.wakeOnExpire).procRemove timer).2.elements =
          (state.containers timer.wakeOnExpire).elements.erase timer := left
      rw [left]
      refine ⟨?_, Multiset.erase_le _ _⟩
      rw [← Multiset.count_eq_zero, Multiset.count_erase_self]
      omega
    · have left : ((state.containers timer.wakeOnExpire).procRemove timer).2.elements =
          (state.containers timer.wakeOnExpire).elements := left
      rw [left]
      exact ⟨notMem, le_rfl⟩
  simp only [procMsg]
  generalize (state.containers timer.wakeOnExpire).procRemove timer = result at gone ⊢
  apply LifeOk.finish
  constructor
  · exact ok.contained
  · intro other
    have ended := ok.ended other
    rw [isQueue] at ended
    by_cases isTimer : other = timer
    · subst isTimer
      rw [count_cons_self] at ended ⊢
      refine Eq.trans ?_ ended
      simp only [setContainer]
      omega
    · rw [count_cons_of_ne (by simpa using fun same => isTimer same.symm)] at ended
      rw [count_cons_of_ne (fun same => isTimer same.symm)]
      exact ended
  · intro other mem
    rcases ok.pushed other (by rw [isQueue]; exact mem_cons_of_mem _ mem) with
      ⟨isStarted, notFreed⟩
    refine ⟨isStarted, ?_⟩
    rw [mem_cons, not_or]
    refine ⟨?_, notFreed⟩
    rintro rfl
    exact notPushed _ mem other rfl rfl
  · intro wakeOnExpire other mem
    simp only [setContainer, update_apply] at mem
    split at mem
    · rename_i same
      rcases ok.stored _ other (Multiset.mem_of_le gone.2 mem) with ⟨isPlace, isStarted, notFreed⟩
      refine ⟨isPlace.trans same.symm, isStarted, ?_⟩
      rw [mem_cons, not_or]
      refine ⟨?_, notFreed⟩
      rintro rfl
      exact gone.1 mem
    · rename_i differs
      rcases ok.stored wakeOnExpire other mem with ⟨isPlace, isStarted, notFreed⟩
      refine ⟨isPlace, isStarted, ?_⟩
      rw [mem_cons, not_or]
      refine ⟨?_, notFreed⟩
      rintro rfl
      exact differs isPlace.symm
  · intro other
    have once := ok.once other
    rw [isQueue, count_cons_of_ne (by simp)] at once
    simp only [setContainer, update_apply]
    split
    · rename_i same
      have less := Multiset.count_le_of_le other gone.2
      rw [same] at once
      omega
    · exact once
  · exact inOrder
  · intro expiry other isExpiring
    simp [setContainer, isTask] at isExpiring

theorem LifeOk.expire {reportedAt : Timespec}
     (isQueue : state.queue = .expire wakeOnExpire reportedAt :: queue) :
    ({ state with queue := queue }.procMsg (.expire wakeOnExpire reportedAt)).LifeOk freed := by
  constructor
  · exact ok.contained
  · intro other
    have ended := ok.ended other
    rw [isQueue, count_cons_of_ne (by simp)] at ended
    exact ended
  · intro other mem
    exact ok.pushed other (by rw [isQueue]; exact mem_cons_of_mem _ mem)
  · exact ok.stored
  · intro other
    have once := ok.once other
    rw [isQueue, count_cons_of_ne (by simp)] at once
    exact once
  · have inOrder := ok.inOrder
    rw [isQueue] at inOrder
    exact (pairwise_cons.mp inOrder).2
  · simp [procMsg]

end

variable [DecidableEq κ]

variable {client : κ}

variable {timeOutInMs : UInt32} {readAt : Timespec}

theorem LifeOk.start (ok : state.LifeOk freed) (timersOk : state.TimersOk)
    (started : state.start client timeOutInMs wakeOnExpire readAt = some next) :
    next.LifeOk freed := by
  simp only [TimerState.start] at started
  split at started
  · simp only [Option.some.injEq] at started
    subst started
    exact ok
  · rcases Option.bind_eq_some_iff.mp started with ⟨futureTime, -, started⟩
    simp only [Option.some.injEq] at started
    let timer : LocTimerDelegate := ⟨state.nextId, futureTime, wakeOnExpire⟩
    have isNew : timer ∉ state.started :=
      fun mem => absurd (timersOk.links.fresh timer mem) (Nat.lt_irrefl _)
    have notEnded : ¬(timer ∈ state.started ∧ state.mClient timer = none) :=
      fun both => isNew both.1
    have notPushed : .push timer ∉ state.queue := fun mem => isNew (ok.pushed timer mem).1
    have notStored : ∀ wakeOnExpire, timer ∉ (state.containers wakeOnExpire).elements :=
      fun wakeOnExpire mem => isNew (ok.stored wakeOnExpire timer mem).2.1
    subst started
    constructor
    · intro other mem
      by_cases isTimer : other = timer
      · subst isTimer
        simp [timer]
      · simp only
        rw [update_of_ne isTimer, update_of_ne isTimer]
        exact ok.contained other ((mem_cons.mp mem).resolve_left isTimer)
    · intro other
      have ended := ok.ended other
      simp only [count_append]
      rw [count_singleton, if_neg (by simp)]
      by_cases isTimer : other = timer
      · subst isTimer
        rw [if_neg notEnded] at ended
        rw [if_neg (by simp [timer])]
        exact ended
      · have stays : (other ∈ timer :: state.started ∧
            Function.update state.mClient timer (some client) other = none) ↔
            other ∈ state.started ∧ state.mClient other = none := by
          rw [update_of_ne isTimer, mem_cons]
          simp [isTimer]
        rw [if_congr stays rfl rfl]
        exact ended
    · intro other mem
      rcases mem_append.mp mem with isOld | isLast
      · exact ⟨mem_cons_of_mem _ (ok.pushed other isOld).1, (ok.pushed other isOld).2⟩
      · simp only [mem_singleton, TimerMsg.push.injEq] at isLast
        rw [isLast]
        exact ⟨mem_cons_self, ok.notFreed notEnded⟩
    · intro place other mem
      rcases ok.stored place other mem with ⟨isPlace, isStarted, notFreed⟩
      exact ⟨isPlace, mem_cons_of_mem _ isStarted, notFreed⟩
    · intro other
      have once := ok.once other
      simp only [count_append]
      by_cases isTimer : other = timer
      · subst isTimer
        rw [count_eq_zero_of_not_mem notPushed,
          Multiset.count_eq_zero_of_notMem (notStored _)]
        simp [timer]
      · rw [count_singleton, if_neg (by simpa using fun same => isTimer same.symm)]
        exact once
    · refine pairwise_append.mpr ⟨ok.inOrder, pairwise_singleton _ _, ?_⟩
      intro first isFirst second isSecond other isRemove isPush
      simp only [mem_singleton] at isSecond
      rw [isPush, TimerMsg.push.injEq] at isSecond
      rw [isRemove, isSecond] at isFirst
      exact ok.notRemoved notEnded isFirst
    · exact ok.expiring

theorem stop_eq (isTimer : state.mTimer client = some timer)
    (contained : state.mContainer timer = true) :
    state.stop client = (some timer, { state with
      mTimer := Function.update state.mTimer client none
      mClient := Function.update state.mClient timer none
      mContainer := Function.update state.mContainer timer false
      queue := state.queue ++ [.remove timer] }) := by
  simp only [stop, isTimer, destroyLocked, contained, if_true]

theorem LifeOk.stop (ok : state.LifeOk freed) (timersOk : state.TimersOk)
     (isTimer : state.mTimer client = some timer) :
    (state.stop client).1 = some timer ∧ (state.stop client).2.LifeOk freed := by
  have isClient := (timersOk.links.linked client timer).mp isTimer
  have isStarted := timersOk.links.started timer client isClient
  have contained : state.mContainer timer = true := by
    rw [ok.contained timer isStarted, isClient]
    rfl
  have notEnded : ¬(timer ∈ state.started ∧ state.mClient timer = none) := by
    rintro ⟨-, noClient⟩
    simp [isClient] at noClient
  rw [stop_eq isTimer contained]
  refine ⟨rfl, ?_⟩
  constructor
  · intro other mem
    by_cases same : other = timer
    · subst same
      simp
    · simp only
      rw [update_of_ne same, update_of_ne same]
      exact ok.contained other mem
  · intro other
    have ended := ok.ended other
    simp only [count_append]
    by_cases same : other = timer
    · subst same
      rw [if_neg notEnded] at ended
      rw [if_pos (by simp [isStarted]), count_singleton_self]
      omega
    · rw [count_singleton, if_neg (by simpa using fun eq => same eq.symm)]
      have stays : (other ∈ state.started ∧
          Function.update state.mClient timer none other = none) ↔
          other ∈ state.started ∧ state.mClient other = none := by
        rw [update_of_ne same]
      rw [if_congr stays rfl rfl]
      exact ended
  · intro other mem
    rcases mem_append.mp mem with isOld | isLast
    · exact ok.pushed other isOld
    · simp at isLast
  · exact ok.stored
  · intro other
    simp only [count_append]
    rw [count_singleton, if_neg (by simp)]
    exact ok.once other
  · refine pairwise_append.mpr ⟨ok.inOrder, pairwise_singleton _ _, ?_⟩
    intro first _ second isSecond other _ isPush
    rw [isPush] at isSecond
    simp at isSecond
  · exact ok.expiring

omit [DecidableEq κ] in
theorem frees_of_task {task : TaskPc κ} (isTask : state.task = task) (notIdle : task ≠ .idle) :
    state.frees .task = [] := by
  simp only [frees]
  split
  · rename_i timer rest isIdle _
    exact absurd (isTask.symm.trans isIdle) notIdle
  · rfl

section

variable (ok : state.LifeOk freed)

include ok

theorem LifeOk.runTask (timersOk : state.TimersOk)
    (ran : state.runTask = some next) : next.LifeOk (state.frees .task ++ freed) := by
  cases runTask_cases ran with
  | @message msg queue isTask isQueue =>
      simp only [frees, isTask, isQueue]
      cases msg with
      | push timer => exact ok.push timersOk isTask isQueue
      | remove timer => exact ok.remove timersOk isTask isQueue
      | expire wakeOnExpire reportedAt => exact ok.expire isQueue
  | @emptied expiry first _ isTask isNext =>
      have popped := timersOk.popNext expiry first
      rw [isNext] at popped
      rw [frees_of_task isTask (by simp)]
      apply LifeOk.finish
      exact ok.take popped.le state.task (by simp [isTask])
  | @popped expiry first _ timer isTask isNext =>
      have popped := timersOk.popNext expiry first
      rw [isNext] at popped
      rw [frees_of_task isTask (by simp)]
      apply ok.take popped.le (.expiring expiry timer)
      intro _ other same
      simp only [TaskPc.expiring.injEq] at same
      rw [← same.2]
      exact (popped.some timer rfl).1
  | orphaned isTask | claimed isTask | missed isTask =>
      rw [frees_of_task isTask (by simp)]
      exact ok.withTask _ (by simp)
  | stopped isTask isTimer =>
      rw [frees_of_task isTask (by simp)]
      exact (ok.stop timersOk isTimer).2.withTask _ (by simp)
  | called isTask =>
      rw [frees_of_task isTask (by simp)]
      exact ok.frame rfl rfl rfl (fun _ => rfl) ⟨[], by simp, by simp⟩ (by simp)
  | @polled wakeOnExpire update isTask =>
      rw [frees_of_task isTask (by simp)]
      exact ok.frame rfl rfl rfl
        (setContainer_heap state wakeOnExpire _ (LocTimerContainer.setPoll_heap update))
        ⟨[], by simp, by simp [setContainer]⟩ (by simp)
  | @timed wakeOnExpire update isTask =>
      rw [frees_of_task isTask (by simp)]
      exact ok.frame rfl rfl rfl
        (setContainer_heap state wakeOnExpire _ (LocTimerContainer.setTime_heap update))
        ⟨[], by simp, by simp [setContainer]⟩ (by simp)

omit [DecidableEq κ] in
theorem LifeOk.poll (polled : state.poll = some next) :
    next.LifeOk freed := by
  simp only [TimerState.poll] at polled
  split at polled
  · simp at polled
  · rename_i wakeOnExpire _ _ _ _
    simp only [Option.some.injEq] at polled
    subst polled
    exact ok.frame rfl rfl rfl (setContainer_heap state wakeOnExpire _ rfl)
      ⟨[], by simp, by simp [setContainer]⟩ (fun _ _ isTask => isTask)
  · rename_i wakeOnExpire _ _ _ _
    simp only [Option.some.injEq] at polled
    subst polled
    exact ok.frame rfl rfl rfl (setContainer_heap state wakeOnExpire _ rfl)
      ⟨[], by simp, by simp [setContainer]⟩ (fun _ _ isTask => isTask)
  · rename_i wakeOnExpire reportedAt reported _ _
    simp only [Option.some.injEq] at polled
    subst polled
    exact ok.frame rfl rfl rfl (fun _ => rfl)
      ⟨[.expire wakeOnExpire reportedAt], by simp, rfl⟩ (fun _ _ isTask => isTask)

theorem LifeOk.clientStop (timersOk : state.TimersOk) (client : κ) :
    (state.clientStop client).LifeOk freed := by
  simp only [TimerState.clientStop]
  cases isTimer : state.mTimer client with
  | none =>
      have result : state.stop client = (none, state) := by simp only [TimerState.stop, isTimer]
      rw [result]
      exact ok
  | some timer =>
      have stopOk := (ok.stop timersOk isTimer).2
      exact stopOk.frame rfl rfl rfl (fun _ => rfl) ⟨[], by simp, by simp⟩
        (fun _ _ isTask => isTask)

theorem LifeOk.apply (timersOk : state.TimersOk)
    {event : TimerEvent κ} (applied : state.Step event next) :
    next.LifeOk (state.frees event ++ freed) := by
  simp only [Step] at applied
  cases event with
  | tick now | report ready =>
      simp only [TimerState.apply, Option.ite_none_right_eq_some, Option.some.injEq] at applied
      rcases applied with ⟨-, rfl⟩
      exact ok.frame rfl rfl rfl (fun _ => rfl) ⟨[], by simp, by simp⟩ (fun _ _ isTask => isTask)
  | start client timeOutInMs wakeOnExpire readAt =>
      simp only [TimerState.apply, Option.ite_none_right_eq_some] at applied
      exact ok.start timersOk applied.2
  | stop client =>
      simp only [TimerState.apply, Option.some.injEq] at applied
      subst applied
      exact ok.clientStop timersOk client
  | poll => exact ok.poll applied
  | task => exact ok.runTask timersOk applied

end

variable (ok : state.CallsOk endings)

include ok

omit [DecidableEq κ] in
theorem CallsOk.finish (wakeOnExpire : Bool)
    (update : Option KernelUpdate) : (state.finish wakeOnExpire update).CallsOk endings := by
  cases update with
  | none | some update => exact ok.frame (fun _ ended => ended) rfl (by simp [TimerState.finish])

omit [DecidableEq κ] in
theorem CallsOk.procMsg (queue : List TimerMsg) (msg : TimerMsg) :
    ({ state with queue := queue }.procMsg msg).CallsOk endings := by
  cases msg with
  | push timer | remove timer =>
      apply CallsOk.finish
      exact ok.frame (fun _ ended => ended) rfl (fun _ _ _ same => same)
  | expire wakeOnExpire reportedAt =>
      exact ok.frame (fun _ ended => ended) rfl (by simp [TimerState.procMsg])

theorem CallsOk.start (timersOk : state.TimersOk)
    (started : state.start client timeOutInMs wakeOnExpire readAt = some next) :
    next.CallsOk endings := by
  simp only [TimerState.start] at started
  split at started
  · simp only [Option.some.injEq] at started
    subst started
    exact ok
  · rcases Option.bind_eq_some_iff.mp started with ⟨futureTime, -, started⟩
    simp only [Option.some.injEq] at started
    subst started
    refine ok.frame ?_ rfl (fun _ _ _ isTask => isTask)
    rintro timer ⟨isStarted, noClient⟩
    have isOld := timersOk.links.fresh timer isStarted
    refine ⟨mem_cons_of_mem _ isStarted, ?_⟩
    simp only
    rw [update_of_ne, noClient]
    rintro rfl
    simp at isOld

variable (life : state.LifeOk freed)

include life

variable (timersOk : state.TimersOk)

include timersOk

theorem CallsOk.stop (isTimer : state.mTimer client = some timer) :
    (state.stop client).2.CallsOk endings ∧
      (state.stop client).2.mClient timer = none ∧ timer ∈ (state.stop client).2.started ∧
      timer ∉ (state.stop client).2.callbacks.map Prod.fst := by
  have isClient := (timersOk.links.linked client timer).mp isTimer
  have isStarted := timersOk.links.started timer client isClient
  have contained : state.mContainer timer = true := by
    rw [life.contained timer isStarted, isClient]
    rfl
  rw [stop_eq isTimer contained]
  refine ⟨?_, by simp, isStarted, ?_⟩
  · refine ok.frame ?_ rfl (fun _ _ _ isTask => isTask)
    rintro other ⟨isOther, noClient⟩
    refine ⟨isOther, ?_⟩
    simp only [update_apply]
    split
    · rfl
    · exact noClient
  · intro mem
    have noClient := (ok.ended timer (ok.called timer mem)).2
    simp [isClient] at noClient

theorem CallsOk.runTask (ran : state.runTask = some next) :
    next.CallsOk (state.ends .task ++ endings) := by
  cases runTask_cases ran with
  | @message msg queue isTask =>
      simp only [ends, isTask, nil_append]
      exact ok.procMsg queue msg
  | emptied isTask =>
      simp only [ends, isTask, nil_append]
      apply CallsOk.finish
      exact ok.frame (fun _ ended => ended) rfl (fun _ _ _ same => same)
  | popped isTask | orphaned isTask | claimed isTask | polled isTask | timed isTask =>
      simp only [ends, isTask, nil_append]
      exact ok.frame (fun _ ended => ended) rfl (by simp)
  | missed isTask noTimer =>
      simp only [ends, isTask, noTimer]
      exact ok.frame (fun _ ended => ended) rfl (by simp)
  | stopped isTask isTimer =>
      rcases ok.stop life timersOk isTimer with ⟨stopOk, noClient, isStarted, notCalled⟩
      simp only [ends, isTask, isTimer]
      constructor
      · exact stopOk.calledOnce
      · intro other mem
        exact mem_cons_of_mem _ (stopOk.called other mem)
      · intro other mem
        simp only [Option.toList_some, map_cons, map_nil, cons_append,
          nil_append, mem_cons] at mem
        rcases mem with rfl | isOld
        · exact ⟨isStarted, noClient⟩
        · exact stopOk.ended other isOld
      · intro _ _ other same
        simp only [TaskPc.calling.injEq] at same
        rw [← same.2.2]
        exact ⟨mem_cons_self, notCalled⟩
  | @called expiry client ended isTask =>
      rcases ok.calling expiry client ended isTask with ⟨isEnded, notCalled⟩
      simp only [ends, isTask, nil_append]
      constructor
      · exact nodup_cons.mpr ⟨notCalled, ok.calledOnce⟩
      · intro other mem
        rcases mem_cons.mp mem with rfl | isOld
        · exact isEnded
        · exact ok.called other isOld
      · exact ok.ended
      · simp

theorem CallsOk.apply {event : TimerEvent κ} (applied : state.Step event next) :
    next.CallsOk (state.ends event ++ endings) := by
  simp only [Step] at applied
  cases event with
  | tick now | report ready =>
      simp only [TimerState.apply, Option.ite_none_right_eq_some, Option.some.injEq] at applied
      rcases applied with ⟨-, rfl⟩
      exact ok.frame (fun _ ended => ended) rfl (fun _ _ _ isTask => isTask)
  | start client timeOutInMs wakeOnExpire readAt =>
      simp only [TimerState.apply, Option.ite_none_right_eq_some] at applied
      exact ok.start timersOk applied.2
  | stop client =>
      simp only [TimerState.apply, Option.some.injEq] at applied
      subst applied
      simp only [clientStop]
      cases isTimer : state.mTimer client with
      | none =>
          have result : state.stop client = (none, state) := by
            simp only [TimerState.stop, isTimer]
          rw [result]
          exact ok
      | some timer =>
          exact (ok.stop life timersOk isTimer).1.frame (fun _ ended => ended) rfl
            (fun _ _ _ isTask => isTask)
  | poll =>
      simp only [TimerState.apply, TimerState.poll] at applied
      split at applied
      · simp at applied
      all_goals
        simp only [Option.some.injEq] at applied
        subst applied
        exact ok.frame (fun _ ended => ended) rfl (fun _ _ _ isTask => isTask)
  | task => exact ok.runTask life timersOk applied

end TimerState

namespace DelegateState

variable {κ : Type} [DecidableEq κ] {state next : DelegateState κ} {event : TimerEvent κ}

structure RunOk (state : DelegateState κ) : Prop where
  timers : state.timers.TimersOk
  life : state.timers.LifeOk state.freed
  calls : state.timers.CallsOk state.endings

theorem apply_eq (applied : state.Step event next) :
    state.timers.Step event next.timers ∧
      next.freed = state.timers.frees event ++ state.freed ∧
      next.endings = state.timers.ends event ++ state.endings := by
  simp only [Step, apply, Option.map_eq_some_iff] at applied
  rcases applied with ⟨timers, applied, rfl⟩
  exact ⟨applied, rfl, rfl⟩

omit [DecidableEq κ] in
theorem runOk_init (clock : Timespec) : (init clock : DelegateState κ).RunOk :=
  ⟨TimerState.timersOk_init clock, TimerState.lifeOk_init clock, TimerState.callsOk_init clock⟩

theorem RunOk.step (ok : state.RunOk) (applied : state.Step event next) : next.RunOk := by
  rcases apply_eq applied with ⟨stepped, freed, endings⟩
  constructor
  · exact ok.timers.apply stepped
  · rw [freed]
    exact ok.life.apply ok.timers stepped
  · rw [endings]
    exact ok.calls.apply ok.life ok.timers stepped

omit [DecidableEq κ] in
theorem RunOk.delegatesOk (ok : state.RunOk)
    (own : ∀ ending ∈ state.endings, ending.1 = ending.2) : state.DelegatesOk := by
  constructor
  · intro timer
    rw [ok.life.ended timer]
  · exact fun event timer uses => ok.life.unused ok.timers uses
  · exact ok.calls.calledOnce
  · exact ok.calls.called
  · exact own

omit [DecidableEq κ] in
theorem ends_own_iff (state : TimerState κ) (event : TimerEvent κ) :
    (∀ ending ∈ state.ends event, ending.1 = ending.2) ↔ state.NotRestarted event := by
  cases event with
  | task =>
      simp only [TimerState.ends, TimerState.NotRestarted]
      split
      · rename_i expiry timer client isTask
        simp only [mem_map, Option.mem_toList, forall_exists_index, and_imp,
          forall_apply_eq_imp_iff₂]
        exact ⟨fun own current mem => (own current mem).symm,
          fun own current mem => (own current mem).symm⟩
      · simp
  | tick _ | start _ _ _ _ | stop _ | report _ | poll =>
      simp [TimerState.ends, TimerState.NotRestarted]

/-- As long as no client is restarted between the two steps of an expiry, every delegate is freed
once, not used after that, and called back for at most once; a step in which one was restarted ends
a later start. -/
theorem reachable_delegatesOk
    (reached : Run.Reachable IsInit
      (Run.Guarded (fun state => state.timers.NotRestarted) Step) state) :
    state.DelegatesOk ∧ ∀ event next, state.Step event next →
      (next.DelegatesOk ↔ state.timers.NotRestarted event) := by
  have both : state.RunOk ∧ ∀ ending ∈ state.endings, ending.1 = ending.2 := by
    apply reached.invariant fun state =>
      state.RunOk ∧ ∀ ending ∈ state.endings, ending.1 = ending.2
    · rintro _ ⟨clock, rfl⟩
      exact ⟨runOk_init clock, by simp [init]⟩
    · rintro state event next ⟨ok, own⟩ ⟨guarded, applied⟩
      refine ⟨ok.step applied, ?_⟩
      rw [(apply_eq applied).2.2]
      intro ending mem
      rcases List.mem_append.mp mem with isNew | isOld
      · exact (ends_own_iff state.timers event).mpr guarded ending isNew
      · exact own ending isOld
  refine ⟨both.1.delegatesOk both.2, ?_⟩
  intro event next applied
  have endings := (apply_eq applied).2.2
  constructor
  · intro ok
    apply (ends_own_iff state.timers event).mp
    intro ending mem
    exact ok.own ending (by rw [endings]; exact List.mem_append_left _ mem)
  · intro guarded
    apply (both.1.step applied).delegatesOk
    rw [endings]
    intro ending mem
    rcases List.mem_append.mp mem with isNew | isOld
    · exact (ends_own_iff state.timers event).mpr guarded ending isNew
    · exact both.2 ending isOld

section Runs

instance (state : TimerState κ) : (event : TimerEvent κ) → Decidable (state.NotRestarted event)
  | .task =>
      match isTask : state.task with
      | .stopping _ timer client =>
          decidable_of_iff (∀ current ∈ state.mTimer client, current = timer)
            (by simp only [TimerState.NotRestarted, isTask])
      | .idle | .popping _ _ | .expiring _ _ | .calling _ _ _ | .settingPoll _ _
      | .settingTime _ _ => isTrue (by simp only [TimerState.NotRestarted, isTask])
  | .tick _ | .start _ _ _ _ | .stop _ | .report _ | .poll => inferInstanceAs (Decidable True)

def stoppedRun : List (TimerEvent Bool) :=
  [.start false 10 false TimerState.bootTime, .task, .task, .task,
    .start true 5000 false TimerState.bootTime, .task,
    .tick TimerState.shortlyAfter, .report [false], .poll, .poll, .poll,
    .task, .task, .task, .task, .task, .stop true, .start true 10 false TimerState.shortlyAfter,
    .task, .task, .task, .task, .task]

def restartedRun : List (TimerEvent Bool) :=
  [.start false 10 false TimerState.bootTime, .task, .task, .task,
    .tick TimerState.shortlyAfter, .report [false], .poll, .poll, .poll,
    .task, .task, .task, .stop false, .start false 5000 false TimerState.shortlyAfter, .task]

theorem reachable_delegatesOk_stopped :
    ∃ state : DelegateState Bool, state.freed.length = 2 ∧ state.timers.callbacks.length = 1 ∧
      state.DelegatesOk := by
  have ran := Option.some_get (by decide +kernel :
    (Run.runGuarded (fun state : DelegateState Bool => state.timers.NotRestarted) apply
      (init TimerState.bootTime) stoppedRun).isSome)
  exact ⟨_, by decide +kernel, by decide +kernel,
    (reachable_delegatesOk (Run.Reachable.runGuarded stoppedRun (.start ⟨_, rfl⟩) ran.symm)).1⟩

/-- The timer of five seconds is stopped when the one of ten milliseconds expires. -/
theorem not_delegatesOk :
    ¬∀ state : DelegateState Bool, Run.Reachable IsInit Step state → state.DelegatesOk := by
  intro always
  have ran := Option.some_get (by decide +kernel :
    (Run.runAll apply (init TimerState.bootTime : DelegateState Bool) restartedRun).isSome)
  have own := (always _ (Run.Reachable.runAll restartedRun (.start ⟨_, rfl⟩) ran.symm)).own
  revert own
  decide +kernel

end Runs

end DelegateState

end HtcPme.Gps
