import HtcPme.Gps.LocTimer

/-!
# Runs of the timers

A timer that was started is on its way to the heap, in the heap, or being expired by the message
task, until it is stopped or its client is called.
-/

namespace HtcPme.Gps

open Function (update_of_ne update_self update_apply)

open PriorityBag LocTimerDelegate List Option Function

namespace LocTimerContainer

variable {container : LocTimerContainer} {timer : LocTimerDelegate}

def Ok (container : LocTimerContainer) : Prop := container.heap.HeapOk LocTimerDelegate.ranks

def elements (container : LocTimerContainer) : Multiset LocTimerDelegate :=
  container.heap.elements

section

variable (ok : container.Ok)

include ok

theorem Ok.procPush (timer : LocTimerDelegate) :
    (container.procPush timer).2.Ok ∧
      (container.procPush timer).2.elements = timer ::ₘ container.elements :=
  ⟨LocHeap.HeapOk.push ok ranking timer, LocHeap.elements_push timer⟩

theorem Ok.heapRemove (timer : LocTimerDelegate) :
    (container.heapRemove timer).2.Ok ∧
      ((container.heapRemove timer).1 = some timer ∧ timer ∈ container.elements ∧
          (container.heapRemove timer).2.elements = container.elements.erase timer ∨
        (container.heapRemove timer).1 = none ∧
          (container.heapRemove timer).2.elements = container.elements) := by
  rcases LocHeap.HeapOk.remove ok ranking timer with ⟨nextOk, step⟩
  refine ⟨nextOk, ?_⟩
  simp only [LocTimerContainer.heapRemove, elements]
  generalize (container.heap.remove ranks timer).2.elements = left at step ⊢
  generalize (container.heap.remove ranks timer).1 = result at step ⊢
  cases step with
  | remove _ mem => exact Or.inl ⟨rfl, mem, rfl⟩
  | removeOther _ _ => exact Or.inr ⟨rfl, rfl⟩

theorem Ok.procRemove (timer : LocTimerDelegate) :
    (container.procRemove timer).2.Ok ∧
      (container.procRemove timer).2.elements ≤ container.elements ∧
      ∀ other ∈ container.elements, other ≠ timer →
        other ∈ (container.procRemove timer).2.elements := by
  rcases ok.heapRemove timer with ⟨nextOk, ⟨-, -, left⟩ | ⟨-, left⟩⟩
  · have left : (container.procRemove timer).2.elements = container.elements.erase timer := left
    rw [left]
    exact ⟨nextOk, Multiset.erase_le _ _, fun other mem ne =>
      (Multiset.mem_erase_of_ne ne).mpr mem⟩
  · have left : (container.procRemove timer).2.elements = container.elements := left
    rw [left]
    exact ⟨nextOk, le_rfl, fun other mem _ => mem⟩

theorem Ok.pop :
    container.pop.2.Ok ∧
      (container.getSoonestTimer = none ∧ container.pop.1 = none ∧
          container.pop.2.elements = container.elements ∧ container.elements = 0 ∨
        ∃ top ∈ container.elements, container.getSoonestTimer = some top ∧
          container.pop.1 = some top ∧
          container.pop.2.elements = container.elements.erase top ∧
          Dominates (LocHeapNode.OutRanks ranks) top container.elements) := by
  rcases LocHeap.HeapOk.pop ok ranking with ⟨nextOk, popped, step⟩
  refine ⟨nextOk, ?_⟩
  simp only [LocTimerContainer.pop, getSoonestTimer, elements]
  rw [← popped]
  generalize (container.heap.pop ranks).2.elements = left at step
  generalize (container.heap.pop ranks).1 = result at step
  cases step with
  | popEmpty isEmpty => exact Or.inl ⟨rfl, rfl, rfl, isEmpty⟩
  | pop top mem dominates => exact Or.inr ⟨top, mem, rfl, rfl, rfl, dominates⟩

end

theorem setPoll_heap (update : KernelUpdate) : (container.setPoll update).heap =
    container.heap := by
  cases update <;> rfl

theorem setTime_heap (update : KernelUpdate) : (container.setTime update).heap =
    container.heap := by
  cases update <;> rfl

structure Popped (container : LocTimerContainer) (now : Timespec) (first : Bool)
    (result : Option LocTimerDelegate × LocTimerContainer) : Prop where
  ok : result.2.Ok
  none : result.1 = none → ∀ timer ∈ container.elements, now.toNs < timer.mFutureTime.toNs
  some : ∀ timer ∈ result.1, timer ∈ container.elements ∧
    container.getSoonestTimer = some timer ∧
    (first = false → timer.mFutureTime.toNs ≤ now.toNs)
  le : result.2.elements ≤ container.elements
  others : ∀ other ∈ container.elements, other ∉ result.1 → other ∈ result.2.elements

theorem Ok.popped_pop (ok : container.Ok) (now : Timespec) :
    container.Popped now true container.pop := by
  rcases ok.pop with ⟨nextOk, ⟨-, popped, left, isEmpty⟩ | ⟨top, mem, isTop, popped, left, -⟩⟩
  · refine ⟨nextOk, ?_, ?_, ?_, ?_⟩
    · intro _ timer mem
      simp [isEmpty] at mem
    · simp [popped]
    · rw [left]
    · intro other mem
      simp [isEmpty] at mem
  · refine ⟨nextOk, ?_, ?_, ?_, ?_⟩
    · simp [popped]
    · simp [popped, isTop, mem]
    · rw [left]
      apply Multiset.erase_le
    · intro other mem ne
      rw [left]
      apply (Multiset.mem_erase_of_ne ?_).mpr mem
      rintro rfl
      simp [popped] at ne

theorem Ok.popped_popIfOutRanks (ok : container.Ok) (timer : LocTimerDelegate) :
    container.Popped timer.mFutureTime false (container.popIfOutRanks timer) := by
  rcases ok.pop with ⟨nextOk, ⟨isTop, -, -, isEmpty⟩ | ⟨top, mem, isTop, popped, left, dominates⟩⟩
  · have peeked : container.heap.peek = none := isTop
    simp only [popIfOutRanks, peeked]
    refine ⟨ok, ?_, by simp, le_rfl, ?_⟩
    · intro _ other mem
      simp [isEmpty] at mem
    · exact fun other mem _ => mem
  · have peeked : container.heap.peek = some top := isTop
    simp only [popIfOutRanks, peeked, outRanks_iff]
    split
    · refine ⟨nextOk, by simp [popped], ?_, ?_, ?_⟩
      · intro other same
        simp only [popped, mem_some] at same
        subst same
        exact ⟨mem, isTop, fun _ => by omega⟩
      · rw [left]
        apply Multiset.erase_le
      · intro other mem ne
        rw [left]
        apply (Multiset.mem_erase_of_ne ?_).mpr mem
        rintro rfl
        simp [popped] at ne
    · refine ⟨ok, ?_, by simp, le_rfl, fun other mem _ => mem⟩
      intro _ other mem
      have lower := dominates other mem
      rw [outRanks_iff] at lower
      omega

end LocTimerContainer

namespace TaskPc

variable {κ : Type}

/-- The task has taken this timer off the heap and has not yet called `client->stop()`. -/
def Holds (task : TaskPc κ) (timer : LocTimerDelegate) : Prop :=
  (∃ expiry, task = .expiring expiry timer) ∨ ∃ expiry client, task = .stopping expiry timer client

def expiry? : TaskPc κ → Option Expiry
  | .popping expiry _ | .expiring expiry _ | .stopping expiry _ _ | .calling expiry _ _ =>
      some expiry
  | _ => none

end TaskPc

namespace TimerState

variable {κ : Type} {state next : TimerState κ}

def Ended (state : TimerState κ) (timer : LocTimerDelegate) : Prop :=
  timer ∈ state.stopped ∨ (∃ time, (timer, time) ∈ state.callbacks) ∨
    ∃ expiry client, state.task = .calling expiry client timer

structure LinksOk (state : TimerState κ) : Prop where
  fresh : ∀ timer ∈ state.started, timer.id < state.nextId
  linked : ∀ client timer, state.mTimer client = some timer ↔ state.mClient timer = some client
  started : ∀ timer client, state.mClient timer = some client → timer ∈ state.started
  ended : ∀ timer ∈ state.started, state.mClient timer = none → state.Ended timer

structure PlacesOk (state : TimerState κ) : Prop where
  ok : ∀ wakeOnExpire, (state.containers wakeOnExpire).Ok
  placed : ∀ timer client, state.mClient timer = some client →
    .push timer ∈ state.queue ∨ timer ∈ (state.containers timer.wakeOnExpire).elements ∨
      state.task.Holds timer
  removed : ∀ timer, .remove timer ∈ state.queue →
    timer ∈ state.started ∧ state.mClient timer = none
  stopping : ∀ expiry timer client, state.task = .stopping expiry timer client →
    timer ∈ state.started ∧ (state.mClient timer = some client ∨ state.mClient timer = none)

structure TimesOk (state : TimerState κ) : Prop where
  reported : ∀ wakeOnExpire time, (wakeOnExpire, time) ∈ state.reported →
    time.toNs ≤ state.clock.toNs
  queued : ∀ wakeOnExpire time, .expire wakeOnExpire time ∈ state.queue →
    time.toNs ≤ state.clock.toNs
  expiry : ∀ expiry ∈ state.task.expiry?,
    expiry.reportedAt.toNs ≤ expiry.now.toNs ∧ expiry.now.toNs ≤ state.clock.toNs

structure TimersOk (state : TimerState κ) : Prop where
  links : state.LinksOk
  places : state.PlacesOk
  times : state.TimesOk

theorem stop_cases [DecidableEq κ] (state : TimerState κ) (client : κ) :
    state.mTimer client = none ∧ state.stop client = (none, state) ∨
      ∃ timer mContainer removes, state.mTimer client = some timer ∧
        (∀ msg ∈ removes, msg = TimerMsg.remove timer) ∧
        state.stop client = (some timer, { state with
          mTimer := update state.mTimer client none
          mClient := update state.mClient timer none
          mContainer := mContainer
          queue := state.queue ++ removes }) := by
  simp only [stop, destroyLocked]
  split
  · rename_i noTimer
    exact Or.inl ⟨noTimer, rfl⟩
  · rename_i timer isTimer
    right
    split
    · exact ⟨timer, _, [.remove timer], isTimer, by simp, rfl⟩
    · refine ⟨timer, state.mContainer, [], isTimer, by simp, ?_⟩
      simp

theorem LinksOk.frame (ok : state.LinksOk) (mTimer : next.mTimer = state.mTimer)
    (mClient : next.mClient = state.mClient) (nextId : next.nextId = state.nextId)
    (started : next.started = state.started)
    (ended : ∀ timer, state.Ended timer → next.Ended timer) : next.LinksOk := by
  constructor
  · rw [started, nextId]
    exact ok.fresh
  · rw [mTimer, mClient]
    exact ok.linked
  · rw [mClient, started]
    exact ok.started
  · rw [mClient, started]
    exact fun timer mem noClient => ended timer (ok.ended timer mem noClient)

variable {timer : LocTimerDelegate} {client : κ} {task : TaskPc κ} {expiry : Expiry}

theorem LinksOk.unlink [DecidableEq κ] (ok : state.LinksOk)
    (isTimer : state.mTimer client = some timer)
    (mTimer : next.mTimer = update state.mTimer client none)
    (mClient : next.mClient = update state.mClient timer none)
    (nextId : next.nextId = state.nextId) (started : next.started = state.started)
    (ended : ∀ other, state.Ended other ∨ other = timer → next.Ended other) : next.LinksOk := by
  have isClient := (ok.linked client timer).mp isTimer
  constructor
  · rw [started, nextId]
    exact ok.fresh
  · intro client' timer'
    rw [mTimer, mClient]
    by_cases sameClient : client' = client
    · subst sameClient
      simp only [update_self, reduceCtorEq, false_iff]
      intro has
      rcases update_apply state.mClient timer none timer' with applied
      rw [applied] at has
      split at has
      · simp at has
      · rename_i ne
        have same := (ok.linked client' timer').mpr has
        rw [isTimer] at same
        simp only [some.injEq] at same
        exact ne same.symm
    · rw [update_of_ne sameClient]
      by_cases sameTimer : timer' = timer
      · subst sameTimer
        simp only [update_self, reduceCtorEq, iff_false]
        intro has
        have same := (ok.linked client' timer').mp has
        rw [isClient] at same
        simp only [some.injEq] at same
        exact sameClient same.symm
      · rw [update_of_ne sameTimer]
        exact ok.linked client' timer'
  · intro other client' has
    rw [mClient, update_apply] at has
    rw [started]
    split at has
    · simp at has
    · exact ok.started other client' has
  · intro other mem noClient
    rw [started] at mem
    apply ended
    by_cases same : other = timer
    · exact Or.inr same
    · rw [mClient, update_of_ne same] at noClient
      exact Or.inl (ok.ended other mem noClient)

theorem PlacesOk.frame (ok : state.PlacesOk)
    (containers : ∀ wakeOnExpire, (next.containers wakeOnExpire).heap =
      (state.containers wakeOnExpire).heap)
    (mClient : ∀ timer client, next.mClient timer = some client →
      state.mClient timer = some client)
    (pushes : ∀ timer, .push timer ∈ state.queue → .push timer ∈ next.queue)
    (started : next.started = state.started)
    (removes : ∀ timer, .remove timer ∈ next.queue →
      .remove timer ∈ state.queue ∨ timer ∈ state.started ∧ next.mClient timer = none)
    (held : ∀ timer client, next.mClient timer = some client → state.task.Holds timer →
      next.task.Holds timer)
    (stopping : ∀ expiry timer client, next.task = .stopping expiry timer client →
      timer ∈ next.started ∧ (next.mClient timer = some client ∨ next.mClient timer = none)) :
    next.PlacesOk := by
  have stays : ∀ timer, state.mClient timer = none → next.mClient timer = none := by
    intro timer noClient
    by_contra has
    rcases ne_none_iff_exists'.mp has with ⟨client, has⟩
    have before := mClient timer client has
    simp [noClient] at before
  constructor
  · intro wakeOnExpire
    have same := containers wakeOnExpire
    have before := ok.ok wakeOnExpire
    simp only [LocTimerContainer.Ok] at before ⊢
    rwa [same]
  · intro timer client has
    rcases ok.placed timer client (mClient timer client has) with queued | stored | holds
    · exact Or.inl (pushes timer queued)
    · right
      left
      simp only [LocTimerContainer.elements] at stored ⊢
      rwa [containers]
    · exact Or.inr (Or.inr (held timer client has holds))
  · intro timer mem
    rw [started]
    rcases removes timer mem with before | noClient
    · exact ⟨(ok.removed timer before).1, stays timer (ok.removed timer before).2⟩
    · exact noClient
  · exact stopping

theorem setContainer_heap (state : TimerState κ) (wakeOnExpire : Bool)
    (container : LocTimerContainer)
    (same : container.heap = (state.containers wakeOnExpire).heap) (other : Bool) :
    ((state.setContainer wakeOnExpire container).containers other).heap =
      (state.containers other).heap := by
  simp only [setContainer, update_apply]
  split
  · rename_i eq
    rw [eq, same]
  · rfl

theorem timersOk_init (clock : Timespec) : (init clock : TimerState κ).TimersOk := by
  constructor
  · constructor <;> simp [init]
  · constructor
    · exact fun _ => LocHeap.heapOk_empty
    · simp [init]
    · simp [init]
    · simp [init]
  · constructor <;> simp [init, TaskPc.expiry?]

theorem TimersOk.tick (ok : state.TimersOk) {now : Timespec}
    (later : state.clock.toNs ≤ now.toNs) : { state with clock := now }.TimersOk := by
  constructor
  · exact ok.links.frame rfl rfl rfl rfl fun _ ended => ended
  · exact ok.places.frame (fun _ => rfl) (fun _ _ has => has) (fun _ mem => mem) rfl
      (fun _ mem => Or.inl mem) (fun _ _ _ holds => holds) ok.places.stopping
  · constructor
    · exact fun wakeOnExpire time mem => le_trans (ok.times.reported wakeOnExpire time mem) later
    · exact fun wakeOnExpire time mem => le_trans (ok.times.queued wakeOnExpire time mem) later
    · exact fun expiry mem =>
        ⟨(ok.times.expiry expiry mem).1, le_trans (ok.times.expiry expiry mem).2 later⟩

theorem LinksOk.noClient (ok : state.LinksOk)
    (fresh : timer.id = state.nextId) : state.mClient timer = none := by
  by_contra has
  rcases ne_none_iff_exists'.mp has with ⟨client, has⟩
  have less := ok.fresh timer (ok.started timer client has)
  omega

section

variable (ok : state.TimersOk)

include ok

theorem TimersOk.report (ready : List Bool) :
    { state with
      reported := ready.map fun wakeOnExpire => (wakeOnExpire, state.clock)
      stage := .setTime }.TimersOk := by
  constructor
  · exact ok.links.frame rfl rfl rfl rfl fun _ ended => ended
  · exact ok.places.frame (fun _ => rfl) (fun _ _ has => has) (fun _ mem => mem) rfl
      (fun _ mem => Or.inl mem) (fun _ _ _ holds => holds) ok.places.stopping
  · constructor
    · intro wakeOnExpire time mem
      rcases mem_map.mp mem with ⟨other, -, same⟩
      simp only [Prod.mk.injEq] at same
      rw [same.2]
    · exact ok.times.queued
    · exact ok.times.expiry

theorem TimersOk.kernel (wakeOnExpire : Bool)
    (container : LocTimerContainer)
    (same : container.heap = (state.containers wakeOnExpire).heap) (stage : PollStage)
    (task : TaskPc κ) (held : ∀ timer, state.task.Holds timer → task.Holds timer)
    (ended : ∀ expiry client timer, state.task = .calling expiry client timer →
      task = .calling expiry client timer)
    (stopping : ∀ expiry timer client, task = .stopping expiry timer client →
      state.task = .stopping expiry timer client)
    (expiry : ∀ expiry ∈ task.expiry?, expiry ∈ state.task.expiry?) :
    { state.setContainer wakeOnExpire container with stage := stage, task := task }.TimersOk := by
  constructor
  · refine ok.links.frame rfl rfl rfl rfl ?_
    rintro timer (stopped | called | ⟨expiry, client, calling⟩)
    · exact Or.inl stopped
    · exact Or.inr (Or.inl called)
    · exact Or.inr (Or.inr ⟨expiry, client, ended expiry client timer calling⟩)
  · exact ok.places.frame (fun other => setContainer_heap state wakeOnExpire container same other)
      (fun _ _ has => has) (fun _ mem => mem) rfl (fun _ mem => Or.inl mem)
      (fun timer _ _ holds => held timer holds)
      (fun expiry timer client isTask =>
        ok.places.stopping expiry timer client (stopping expiry timer client isTask))
  · constructor
    · exact ok.times.reported
    · exact ok.times.queued
    · exact fun found isExpiry => ok.times.expiry found (expiry found isExpiry)

theorem TimersOk.poll (polled : state.poll = some next) :
    next.TimersOk := by
  simp only [TimerState.poll] at polled
  split at polled
  · simp at polled
  · rename_i wakeOnExpire _ _ _ _
    simp only [some.injEq] at polled
    subst polled
    exact ok.kernel wakeOnExpire ((state.containers wakeOnExpire).setTime .disarm) rfl .removePoll
      state.task (fun _ holds => holds) (fun _ _ _ isTask => isTask)
      (fun _ _ _ isTask => isTask) fun _ mem => mem
  · rename_i wakeOnExpire _ _ _ _
    simp only [some.injEq] at polled
    subst polled
    exact ok.kernel wakeOnExpire ((state.containers wakeOnExpire).setPoll .disarm) rfl .sendMsg
      state.task (fun _ holds => holds) (fun _ _ _ isTask => isTask)
      (fun _ _ _ isTask => isTask) fun _ mem => mem
  · rename_i wakeOnExpire reportedAt reported isReported isStage
    simp only [some.injEq] at polled
    subst polled
    constructor
    · exact ok.links.frame rfl rfl rfl rfl fun _ ended => ended
    · refine ok.places.frame ?_ ?_ ?_ rfl ?_ ?_ ok.places.stopping
      · exact fun _ => rfl
      · exact fun _ _ has => has
      · intro timer queued
        simp [queued]
      · intro timer queued
        left
        simpa using queued
      · exact fun _ _ _ holds => holds
    · constructor
      · intro other time mem
        apply ok.times.reported other
        rw [isReported]
        exact mem_cons_of_mem _ mem
      · intro other time mem
        rcases mem_append.mp mem with before | new
        · exact ok.times.queued other time before
        · simp only [mem_singleton, TimerMsg.expire.injEq] at new
          apply ok.times.reported wakeOnExpire
          rw [isReported, new.2]
          exact mem_cons_self
      · exact ok.times.expiry

theorem TimersOk.work (containers : Bool → LocTimerContainer)
    (queue : List TimerMsg) (task : TaskPc κ) (callbacks : List (LocTimerDelegate × Timespec))
    (heaps : ∀ wakeOnExpire, (containers wakeOnExpire).Ok)
    (queued : ∀ msg ∈ queue, msg ∈ state.queue)
    (placed : ∀ timer client, state.mClient timer = some client →
      .push timer ∈ state.queue ∨ timer ∈ (state.containers timer.wakeOnExpire).elements ∨
          state.task.Holds timer →
        .push timer ∈ queue ∨ timer ∈ (containers timer.wakeOnExpire).elements ∨
          task.Holds timer)
    (ended : ∀ timer, state.Ended timer →
      timer ∈ state.stopped ∨ (∃ time, (timer, time) ∈ callbacks) ∨
        ∃ expiry client, task = .calling expiry client timer)
    (stopping : ∀ expiry timer client, task = .stopping expiry timer client →
      timer ∈ state.started ∧
        (state.mClient timer = some client ∨ state.mClient timer = none))
    (expiry : ∀ expiry ∈ task.expiry?,
      expiry.reportedAt.toNs ≤ expiry.now.toNs ∧ expiry.now.toNs ≤ state.clock.toNs) :
    { state with
      containers := containers
      queue := queue
      task := task
      callbacks := callbacks }.TimersOk := by
  constructor
  · exact ok.links.frame rfl rfl rfl rfl ended
  · constructor
    · exact heaps
    · exact fun timer client has => placed timer client has (ok.places.placed timer client has)
    · exact fun timer mem => ok.places.removed timer (queued _ mem)
    · exact stopping
  · exact ⟨ok.times.reported, fun other time mem => ok.times.queued other time (queued _ mem),
      expiry⟩

end

def Rests (task : TaskPc κ) : Prop :=
  task = .idle ∨ ∃ wakeOnExpire update, task = .settingPoll wakeOnExpire update ∨
    task = .settingTime wakeOnExpire update

theorem finish_eq (state : TimerState κ) (wakeOnExpire : Bool) (update : Option KernelUpdate) :
    ∃ task, state.finish wakeOnExpire update = { state with task := task } ∧ Rests task := by
  cases update with
  | none => exact ⟨_, rfl, Or.inl rfl⟩
  | some update => exact ⟨_, rfl, Or.inr ⟨wakeOnExpire, update, Or.inl rfl⟩⟩

section

variable (rests : Rests task)

include rests

theorem Rests.not_holds (timer : LocTimerDelegate) :
    ¬task.Holds timer := by
  rcases rests with rfl | ⟨_, _, rfl | rfl⟩ <;> simp [TaskPc.Holds]

theorem Rests.expiry? : task.expiry? = none := by
  rcases rests with rfl | ⟨_, _, rfl | rfl⟩ <;> rfl

theorem Rests.not_stopping (expiry : Expiry)
    (timer : LocTimerDelegate) (client : κ) : task ≠ .stopping expiry timer client := by
  rcases rests with rfl | ⟨_, _, rfl | rfl⟩ <;> simp

theorem Rests.not_calling (expiry : Expiry)
    (client : κ) (timer : LocTimerDelegate) : task ≠ .calling expiry client timer := by
  rcases rests with rfl | ⟨_, _, rfl | rfl⟩ <;> simp

end

theorem Ended.recorded (ended : state.Ended timer)
    (notCalling : ∀ expiry client, state.task ≠ .calling expiry client timer) :
    timer ∈ state.stopped ∨ ∃ time, (timer, time) ∈ state.callbacks := by
  rcases ended with stopped | called | ⟨expiry, client, calling⟩
  · exact Or.inl stopped
  · exact Or.inr called
  · exact absurd calling (notCalling expiry client)

section

variable (ok : state.TimersOk)

include ok

theorem TimersOk.rest (wakeOnExpire : Bool)
    (container : LocTimerContainer) (queue : List TimerMsg) (task : TaskPc κ)
    (nextOk : container.Ok) (queued : ∀ msg ∈ queue, msg ∈ state.queue)
    (placed : ∀ timer client, state.mClient timer = some client →
      .push timer ∈ state.queue ∨ timer ∈ (state.containers timer.wakeOnExpire).elements →
        .push timer ∈ queue ∨
          timer ∈ (update state.containers wakeOnExpire container
            timer.wakeOnExpire).elements)
    (before : Rests state.task ∨ ∃ expiry first, state.task = .popping expiry first)
    (rests : Rests task) :
    { state with
      containers := update state.containers wakeOnExpire container
      queue := queue
      task := task }.TimersOk := by
  have notHolds : ∀ timer, ¬state.task.Holds timer := by
    intro timer
    rcases before with rests | ⟨expiry, first, isTask⟩
    · exact rests.not_holds timer
    · simp [isTask, TaskPc.Holds]
  have notCalling : ∀ timer expiry client, state.task ≠ .calling expiry client timer := by
    intro timer expiry client
    rcases before with rests | ⟨expiry, first, isTask⟩
    · exact rests.not_calling expiry client timer
    · simp [isTask]
  apply ok.work _ queue task state.callbacks
  · intro other
    rw [update_apply]
    split
    · exact nextOk
    · exact ok.places.ok other
  · exact queued
  · rintro timer client has (pushed | stored | holds)
    · rcases placed timer client has (Or.inl pushed) with queued | stored
      · exact Or.inl queued
      · exact Or.inr (Or.inl stored)
    · rcases placed timer client has (Or.inr stored) with queued | stored
      · exact Or.inl queued
      · exact Or.inr (Or.inl stored)
    · exact absurd holds (notHolds timer)
  · intro timer ended
    rcases ended.recorded (notCalling timer) with stopped | called
    · exact Or.inl stopped
    · exact Or.inr (Or.inl called)
  · exact fun expiry timer client isTask => absurd isTask (rests.not_stopping expiry timer client)
  · simp [rests.expiry?]

theorem TimersOk.procMsg {msg : TimerMsg} {queue : List TimerMsg}
    (isTask : state.task = .idle) (isQueue : state.queue = msg :: queue) :
    ({ state with queue := queue }.procMsg msg).TimersOk := by
  have before : Rests state.task := Or.inl isTask
  have queued : ∀ other ∈ queue, other ∈ state.queue := by
    intro other mem
    simp [isQueue, mem]
  cases msg with
  | push timer =>
      rcases (ok.places.ok timer.wakeOnExpire).procPush timer with ⟨nextOk, elements⟩
      simp only [TimerState.procMsg]
      rcases finish_eq _ timer.wakeOnExpire _ with ⟨task, finished, rests⟩
      rw [finished]
      apply ok.rest timer.wakeOnExpire _ queue task nextOk queued _ (Or.inl before)
        rests
      intro other client has pending
      simp only [isQueue, mem_cons, TimerMsg.push.injEq] at pending
      rw [update_apply]
      split
      · rename_i same
        rw [elements, Multiset.mem_cons, ← same]
        rcases pending with (same | queued) | stored
        · exact Or.inr (Or.inl same)
        · exact Or.inl queued
        · exact Or.inr (Or.inr stored)
      · rename_i ne
        rcases pending with (rfl | queued) | stored
        · exact absurd rfl ne
        · exact Or.inl queued
        · exact Or.inr stored
  | remove timer =>
      rcases (ok.places.ok timer.wakeOnExpire).procRemove timer with ⟨nextOk, -, others⟩
      have noClient := (ok.places.removed timer (by simp [isQueue])).2
      simp only [TimerState.procMsg]
      rcases finish_eq _ timer.wakeOnExpire _ with ⟨task, finished, rests⟩
      rw [finished]
      apply ok.rest timer.wakeOnExpire _ queue task nextOk queued _ (Or.inl before)
        rests
      intro other client has pending
      simp only [isQueue, mem_cons, reduceCtorEq, false_or] at pending
      have ne : other ≠ timer := by
        rintro rfl
        simp [noClient] at has
      rw [update_apply]
      split
      · rename_i same
        rcases pending with queued | stored
        · exact Or.inl queued
        · rw [same] at stored
          exact Or.inr (others other stored ne)
      · exact pending
  | expire wakeOnExpire reportedAt =>
      apply ok.work state.containers queue _ state.callbacks ok.places.ok queued
      · rintro timer client has (pushed | stored | holds)
        · left
          simpa [isQueue] using pushed
        · exact Or.inr (Or.inl stored)
        · exact absurd holds (before.not_holds timer)
      · intro timer ended
        rcases ended.recorded (before.not_calling · · timer) with stopped | called
        · exact Or.inl stopped
        · exact Or.inr (Or.inl called)
      · simp
      · rintro expiry ⟨⟩
        exact ⟨ok.times.queued wakeOnExpire reportedAt (by simp [isQueue]), le_rfl⟩

theorem TimersOk.popNext (expiry : Expiry) (first : Bool) :
    (state.containers expiry.wakeOnExpire).Popped expiry.now first
      (state.popNext expiry first) := by
  cases first with
  | false => exact (ok.places.ok expiry.wakeOnExpire).popped_popIfOutRanks (timerOfNow expiry)
  | true => exact (ok.places.ok expiry.wakeOnExpire).popped_pop expiry.now

variable {first : Bool} {container : LocTimerContainer}

theorem TimersOk.stays {result : Option LocTimerDelegate}
    (isNext : state.popNext expiry first = (result, container)) (ne : timer ∉ result)
    (pending : .push timer ∈ state.queue ∨
      timer ∈ (state.containers timer.wakeOnExpire).elements) :
    .push timer ∈ state.queue ∨
      timer ∈ (update state.containers expiry.wakeOnExpire container
        timer.wakeOnExpire).elements := by
  have popped := ok.popNext expiry first
  rw [isNext] at popped
  rcases pending with queued | stored
  · exact Or.inl queued
  · right
    rw [update_apply]
    split
    · rename_i same
      rw [same] at stored
      exact popped.others timer stored ne
    · exact stored

theorem TimersOk.goOn (task : TaskPc κ)
    (callbacks : List (LocTimerDelegate × Timespec))
    (held : ∀ timer client, state.mClient timer = some client → state.task.Holds timer →
      task.Holds timer)
    (ended : ∀ timer, state.Ended timer →
      timer ∈ state.stopped ∨ ∃ time, (timer, time) ∈ callbacks)
    (stopping : ∀ expiry timer client, task = .stopping expiry timer client →
      timer ∈ state.started ∧
        (state.mClient timer = some client ∨ state.mClient timer = none))
    (expiry : task.expiry? = state.task.expiry?) :
    { state with callbacks := callbacks, task := task }.TimersOk := by
  apply ok.work state.containers state.queue task callbacks ok.places.ok (fun _ mem => mem)
  · rintro timer client has (queued | stored | holds)
    · exact Or.inl queued
    · exact Or.inr (Or.inl stored)
    · exact Or.inr (Or.inr (held timer client has holds))
  · exact fun timer isEnded => (ended timer isEnded).imp_right Or.inl
  · exact stopping
  · rw [expiry]
    exact ok.times.expiry

theorem TimersOk.held_stopping
     (isTask : state.task = .stopping expiry timer client) {other : LocTimerDelegate}
    {client' : κ} (has : state.mClient other = some client') (holds : state.task.Holds other) :
    state.mTimer client = some other := by
  rcases holds with ⟨_, same⟩ | ⟨_, _, same⟩
  · simp [isTask] at same
  · simp only [isTask, TaskPc.stopping.injEq] at same
    rcases same with ⟨-, rfl, rfl⟩
    rcases (ok.places.stopping _ _ _ isTask).2 with isClient | noClient
    · exact (ok.links.linked _ _).mpr isClient
    · simp [noClient] at has

theorem TimersOk.popped (isTask : state.task = .popping expiry first)
    (isNext : state.popNext expiry first = (some timer, container)) :
    { state.setContainer expiry.wakeOnExpire container with
      task := .expiring expiry timer }.TimersOk := by
  have popped := ok.popNext expiry first
  rw [isNext] at popped
  apply ok.work (update state.containers expiry.wakeOnExpire container) state.queue
    (.expiring expiry timer) state.callbacks
  · intro other
    rw [update_apply]
    split
    · exact popped.ok
    · exact ok.places.ok other
  · exact fun _ mem => mem
  · intro other client has pending
    by_cases same : other = timer
    · subst same
      exact Or.inr (Or.inr (Or.inl ⟨expiry, rfl⟩))
    · have ne : other ∉ some timer := fun eq => same (some.inj eq).symm
      rcases pending with queued | stored | holds
      · exact Or.inl queued
      · rcases ok.stays isNext ne (Or.inr stored) with queued | stored
        · exact Or.inl queued
        · exact Or.inr (Or.inl stored)
      · simp [isTask, TaskPc.Holds] at holds
  · rintro other (stopped | called | ⟨_, _, calling⟩)
    · exact Or.inl stopped
    · exact Or.inr (Or.inl called)
    · simp [isTask] at calling
  · simp
  · rintro _ ⟨⟩
    exact ok.times.expiry expiry (by simp [isTask, TaskPc.expiry?])

end

variable [DecidableEq κ] {event : TimerEvent κ}

theorem TimersOk.start (ok : state.TimersOk) {timeOutInMs : UInt32}
    {wakeOnExpire : Bool} {readAt : Timespec}
    (started : state.start client timeOutInMs wakeOnExpire readAt = some next) :
    next.TimersOk := by
  simp only [TimerState.start] at started
  split at started
  · simp only [some.injEq] at started
    subst started
    exact ok
  · rename_i noTimer
    simp only [not_isSome_iff_eq_none] at noTimer
    rcases bind_eq_some_iff.mp started with ⟨futureTime, -, started⟩
    simp only [some.injEq] at started
    let timer : LocTimerDelegate := ⟨state.nextId, futureTime, wakeOnExpire⟩
    have noClient : state.mClient timer = none := ok.links.noClient rfl
    have isNew : ∀ other ∈ state.started, other ≠ timer := by
      rintro other mem rfl
      exact absurd (ok.links.fresh _ mem) (Nat.lt_irrefl _)
    subst started
    constructor
    · constructor
      · intro other mem
        rcases mem_cons.mp mem with rfl | before
        · simp
        · have less := ok.links.fresh other before
          simp only
          omega
      · intro client' other
        by_cases sameClient : client' = client
        · subst sameClient
          by_cases sameTimer : other = timer
          · subst sameTimer
            simp [timer]
          · have none : state.mClient other ≠ some client' := by
              intro has
              have has := (ok.links.linked client' other).mpr has
              simp [noTimer] at has
            simp only [update_self, some.injEq]
            rw [update_of_ne sameTimer]
            exact iff_of_false (fun eq => sameTimer eq.symm) none
        · simp only [update_of_ne sameClient]
          by_cases sameTimer : other = timer
          · subst sameTimer
            have notHis : state.mTimer client' ≠ some timer := by
              intro has
              have has := (ok.links.linked client' timer).mp has
              simp [noClient] at has
            simp only [timer, update_self, some.injEq]
            exact iff_of_false notHis fun eq => sameClient eq.symm
          · rw [update_of_ne sameTimer]
            exact ok.links.linked client' other
      · intro other client' has
        by_cases sameTimer : other = timer
        · subst sameTimer
          exact mem_cons_self
        · simp only at has
          rw [update_of_ne sameTimer] at has
          exact mem_cons_of_mem _ (ok.links.started other client' has)
      · intro other mem none
        by_cases sameTimer : other = timer
        · subst sameTimer
          simp [timer] at none
        · simp only at none
          rw [update_of_ne sameTimer] at none
          rcases mem_cons.mp mem with same | before
          · exact absurd same sameTimer
          · exact ok.links.ended other before none
    · constructor
      · exact ok.places.ok
      · intro other client' has
        by_cases sameTimer : other = timer
        · subst sameTimer
          left
          simp [timer]
        · simp only at has
          rw [update_of_ne sameTimer] at has
          rcases ok.places.placed other client' has with queued | stored
          · left
            simp [queued]
          · exact Or.inr stored
      · intro other mem
        have before : TimerMsg.remove other ∈ state.queue := by simpa using mem
        rcases ok.places.removed other before with ⟨mem, noClient⟩
        refine ⟨mem_cons_of_mem _ mem, ?_⟩
        simp only
        rwa [update_of_ne (isNew other mem)]
      · intro expiry other client' isTask
        rcases ok.places.stopping expiry other client' isTask with ⟨mem, has⟩
        refine ⟨mem_cons_of_mem _ mem, ?_⟩
        simp only
        rwa [update_of_ne (isNew other mem)]
    · constructor
      · exact ok.times.reported
      · intro other time mem
        have before : TimerMsg.expire other time ∈ state.queue := by simpa using mem
        exact ok.times.queued other time before
      · exact ok.times.expiry

theorem TimersOk.stop (ok : state.TimersOk)
    (isTimer : state.mTimer client = some timer) (mContainer : LocTimerDelegate → Bool)
    {removes : List TimerMsg} (onlyRemoves : ∀ msg ∈ removes, msg = .remove timer)
    (task : TaskPc κ) (stopped : List LocTimerDelegate)
    (ended : ∀ other, state.Ended other ∨ other = timer →
      other ∈ stopped ∨ (∃ time, (other, time) ∈ state.callbacks) ∨
        ∃ expiry client, task = .calling expiry client other)
    (held : ∀ other client, other ≠ timer → state.mClient other = some client →
      state.task.Holds other → task.Holds other)
    (stopping : ∀ expiry other client, task = .stopping expiry other client →
      state.task = .stopping expiry other client)
    (expiry : ∀ expiry ∈ task.expiry?, expiry ∈ state.task.expiry?) :
    { state with
      mTimer := update state.mTimer client none
      mClient := update state.mClient timer none
      mContainer := mContainer
      queue := state.queue ++ removes
      task := task
      stopped := stopped }.TimersOk := by
  have isClient := (ok.links.linked client timer).mp isTimer
  have mem := ok.links.started timer client isClient
  constructor
  · exact ok.links.unlink isTimer rfl rfl rfl rfl ended
  · refine ok.places.frame ?_ ?_ ?_ rfl ?_ ?_ ?_
    · exact fun _ => rfl
    · intro other client' has
      simp only [update_apply] at has
      split at has
      · simp at has
      · exact has
    · intro other queued
      simp [queued]
    · intro other queued
      rcases mem_append.mp queued with before | new
      · exact Or.inl before
      · right
        have same := onlyRemoves _ new
        simp only [TimerMsg.remove.injEq] at same
        subst same
        exact ⟨mem, by simp⟩
    · intro other client' has
      by_cases same : other = timer
      · subst same
        simp at has
      · simp only at has
        rw [update_of_ne same] at has
        exact held other client' same has
    · intro expiry other client' isTask
      rcases ok.places.stopping expiry other client' (stopping expiry other client' isTask) with
        ⟨mem, has⟩
      refine ⟨mem, ?_⟩
      simp only [update_apply]
      split
      · exact Or.inr rfl
      · exact has
  · constructor
    · exact ok.times.reported
    · intro other time queued
      rcases mem_append.mp queued with before | new
      · exact ok.times.queued other time before
      · simpa using onlyRemoves _ new
    · exact fun found isExpiry => ok.times.expiry found (expiry found isExpiry)

theorem TimersOk.clientStop (ok : state.TimersOk) (client : κ) :
    (state.clientStop client).TimersOk := by
  simp only [TimerState.clientStop]
  rcases stop_cases state client with ⟨-, result⟩ |
    ⟨timer, mContainer, removes, isTimer, only, result⟩
  · rw [result]
    exact ok
  · rw [result]
    apply ok.stop isTimer mContainer only
    · rintro other ((before | before) | rfl)
      · left
        simp [before]
      · exact Or.inr before
      · left
        simp
    · exact fun _ _ _ _ holds => holds
    · exact fun _ _ _ isTask => isTask
    · exact fun _ mem => mem

inductive TaskStep (state : TimerState κ) : TimerState κ → Prop
  | message {msg : TimerMsg} {queue : List TimerMsg} (isTask : state.task = .idle)
      (isQueue : state.queue = msg :: queue) :
      TaskStep state ({ state with queue := queue }.procMsg msg)
  | emptied {expiry : Expiry} {first : Bool} {container : LocTimerContainer}
      (isTask : state.task = .popping expiry first)
      (isNext : state.popNext expiry first = (none, container)) :
      TaskStep state ((state.setContainer expiry.wakeOnExpire container).finish
        expiry.wakeOnExpire (container.updateSoonestTime none))
  | popped {expiry : Expiry} {first : Bool} {container : LocTimerContainer}
      {timer : LocTimerDelegate} (isTask : state.task = .popping expiry first)
      (isNext : state.popNext expiry first = (some timer, container)) :
      TaskStep state { state.setContainer expiry.wakeOnExpire container with
        task := .expiring expiry timer }
  | orphaned {expiry : Expiry} {timer : LocTimerDelegate}
      (isTask : state.task = .expiring expiry timer) (noClient : state.mClient timer = none) :
      TaskStep state { state with task := .popping expiry false }
  | claimed {expiry : Expiry} {timer : LocTimerDelegate} {client : κ}
      (isTask : state.task = .expiring expiry timer)
      (isClient : state.mClient timer = some client) :
      TaskStep state { state with task := .stopping expiry timer client }
  | missed {expiry : Expiry} {timer : LocTimerDelegate} {client : κ}
      (isTask : state.task = .stopping expiry timer client) (noTimer : state.mTimer client = none) :
      TaskStep state { state with task := .popping expiry false }
  | stopped {expiry : Expiry} {timer ended : LocTimerDelegate} {client : κ}
      (isTask : state.task = .stopping expiry timer client)
      (isTimer : state.mTimer client = some ended) :
      TaskStep state { (state.stop client).2 with task := .calling expiry client ended }
  | called {expiry : Expiry} {client : κ} {ended : LocTimerDelegate}
      (isTask : state.task = .calling expiry client ended) :
      TaskStep state { state with
        callbacks := (ended, state.clock) :: state.callbacks
        task := .popping expiry false }
  | polled {wakeOnExpire : Bool} {update : KernelUpdate}
      (isTask : state.task = .settingPoll wakeOnExpire update) :
      TaskStep state { state.setContainer wakeOnExpire
        ((state.containers wakeOnExpire).setPoll update) with
        task := .settingTime wakeOnExpire update }
  | timed {wakeOnExpire : Bool} {update : KernelUpdate}
      (isTask : state.task = .settingTime wakeOnExpire update) :
      TaskStep state { state.setContainer wakeOnExpire
        ((state.containers wakeOnExpire).setTime update) with task := .idle }

theorem runTask_cases (ran : state.runTask = some next) : state.TaskStep next := by
  simp only [runTask] at ran
  split at ran
  · rename_i isTask
    split at ran
    · simp at ran
    · rename_i isQueue
      cases ran
      exact .message isTask isQueue
  · rename_i expiry first isTask
    cases isNext : state.popNext expiry first with
    | mk result container =>
        rw [isNext] at ran
        cases result with
        | none => cases ran; exact .emptied isTask isNext
        | some timer => cases ran; exact .popped isTask isNext
  · rename_i isTask
    split at ran
    · rename_i noClient
      cases ran
      exact .orphaned isTask noClient
    · rename_i isClient
      cases ran
      exact .claimed isTask isClient
  · rename_i expiry timer client isTask
    rcases stop_cases state client with
      ⟨noTimer, result⟩ | ⟨ended, mContainer, removes, isTimer, -, result⟩
    · rw [result] at ran
      cases ran
      exact .missed isTask noTimer
    · have stopped := TaskStep.stopped isTask isTimer
      rw [result] at ran stopped
      cases ran
      exact stopped
  · rename_i isTask
    cases ran
    exact .called isTask
  · rename_i isTask
    cases ran
    exact .polled isTask
  · rename_i isTask
    cases ran
    exact .timed isTask

theorem TimersOk.stopped (ok : state.TimersOk) {timer ended : LocTimerDelegate}
     (isTask : state.task = .stopping expiry timer client)
    (isTimer : state.mTimer client = some ended) :
    { (state.stop client).2 with task := .calling expiry client ended }.TimersOk := by
  rcases stop_cases state client with
    ⟨noTimer, -⟩ | ⟨other, mContainer, removes, isOther, only, result⟩
  · simp [isTimer] at noTimer
  · rw [isTimer, some.injEq] at isOther
    subst isOther
    rw [result]
    apply ok.stop isTimer mContainer only
    · rintro other (before | rfl)
      · exact (before.recorded (by simp [isTask])).imp_right Or.inl
      · exact Or.inr (Or.inr ⟨expiry, client, rfl⟩)
    · intro other client' ne has holds
      have same := ok.held_stopping isTask has holds
      rw [isTimer] at same
      exact absurd (some.inj same).symm ne
    · simp
    · rintro _ ⟨⟩
      simp [isTask, TaskPc.expiry?]

theorem TimersOk.runTask (ok : state.TimersOk) (ran : state.runTask = some next) :
    next.TimersOk := by
  cases runTask_cases ran with
  | message isTask isQueue => exact ok.procMsg isTask isQueue
  | @emptied expiry first container isTask isNext =>
      have popped := ok.popNext expiry first
      rw [isNext] at popped
      rcases finish_eq (state.setContainer expiry.wakeOnExpire container) expiry.wakeOnExpire
        (container.updateSoonestTime none) with ⟨task, finished, rests⟩
      rw [finished]
      exact ok.rest expiry.wakeOnExpire container state.queue task popped.ok (fun _ mem => mem)
        (fun timer client has => ok.stays isNext (by simp)) (Or.inr ⟨expiry, first, isTask⟩)
        rests
  | popped isTask isNext => exact ok.popped isTask isNext
  | orphaned isTask noClient =>
      apply ok.goOn _ state.callbacks
      · rintro other client has (⟨_, same⟩ | ⟨_, _, same⟩)
        · simp only [isTask, TaskPc.expiring.injEq] at same
          rw [← same.2, noClient] at has
          simp at has
        · simp [isTask] at same
      · exact fun other ended => ended.recorded (by simp [isTask])
      · simp
      · simp [isTask, TaskPc.expiry?]
  | @claimed expiry timer client isTask isClient =>
      apply ok.goOn _ state.callbacks
      · rintro other client' has (⟨_, same⟩ | ⟨_, _, same⟩)
        · simp only [isTask, TaskPc.expiring.injEq] at same
          rw [← same.2]
          exact Or.inr ⟨expiry, client, rfl⟩
        · simp [isTask] at same
      · exact fun other ended => ended.recorded (by simp [isTask])
      · intro _ other client' same
        simp only [TaskPc.stopping.injEq] at same
        rw [← same.2.1, ← same.2.2]
        exact ⟨ok.links.started timer client isClient, Or.inl isClient⟩
      · simp [isTask, TaskPc.expiry?]
  | missed isTask noTimer =>
      apply ok.goOn _ state.callbacks
      · intro other client' has holds
        have isTimer := ok.held_stopping isTask has holds
        simp [noTimer] at isTimer
      · exact fun other ended => ended.recorded (by simp [isTask])
      · simp
      · simp [isTask, TaskPc.expiry?]
  | stopped isTask isTimer => exact ok.stopped isTask isTimer
  | called isTask =>
      apply ok.goOn
      · rintro other client' has (⟨_, same⟩ | ⟨_, _, same⟩)
        · simp [isTask] at same
        · simp [isTask] at same
      · rintro other (stopped | ⟨time, called⟩ | ⟨_, _, same⟩)
        · exact Or.inl stopped
        · exact Or.inr ⟨time, mem_cons_of_mem _ called⟩
        · simp only [isTask, TaskPc.calling.injEq] at same
          rw [← same.2.2]
          exact Or.inr ⟨state.clock, mem_cons_self⟩
      · simp
      · simp [isTask, TaskPc.expiry?]
  | @polled wakeOnExpire update isTask =>
      apply ok.kernel wakeOnExpire _ (LocTimerContainer.setPoll_heap update) <;>
        simp [isTask, TaskPc.Holds, TaskPc.expiry?]
  | @timed wakeOnExpire update isTask =>
      apply ok.kernel wakeOnExpire _ (LocTimerContainer.setTime_heap update) <;>
        simp [isTask, TaskPc.Holds, TaskPc.expiry?]

theorem TimersOk.apply (ok : state.TimersOk) (applied : state.Step event next) :
    next.TimersOk := by
  simp only [Step] at applied
  cases event with
  | tick now =>
      simp only [apply, ite_none_right_eq_some, some.injEq] at applied
      rcases applied with ⟨later, rfl⟩
      exact ok.tick later
  | start client timeOutInMs wakeOnExpire readAt =>
      simp only [apply, ite_none_right_eq_some] at applied
      exact ok.start applied.2
  | stop client =>
      simp only [apply, some.injEq] at applied
      subst applied
      exact ok.clientStop client
  | report ready =>
      simp only [apply, ite_none_right_eq_some, some.injEq] at applied
      rcases applied with ⟨-, rfl⟩
      exact ok.report ready
  | poll => exact ok.poll applied
  | task => exact ok.runTask applied

theorem reachable_timersOk (reached : Run.Reachable IsInit Step state) : state.TimersOk := by
  apply reached.invariant
  · rintro _ ⟨clock, rfl⟩
    exact timersOk_init clock
  · intro state event next ok applied
    exact ok.apply applied

def bootTime : Timespec := ⟨1, 0, by decide, by decide, by decide⟩

def shortlyAfter : Timespec := ⟨1, 20000000, by decide, by decide, by decide⟩

/-- The expire message holds a timer that no heap has any more. -/
theorem reachable_timersOk_expiring : ∃ state : TimerState Bool,
    (∃ expiry timer, state.task = .expiring expiry timer ∧ state.mClient timer = some false) ∧
      state.TimersOk := by
  have ran := Option.some_get (by decide +kernel : (Run.runAll apply (init bootTime)
    [.start false 10 false bootTime, .task, .task, .task, .tick shortlyAfter, .report [false],
      .poll, .poll, .poll, .task, .task]).isSome)
  refine ⟨_, ⟨⟨false, shortlyAfter, shortlyAfter⟩,
    ⟨0, ⟨1, 10000000, by decide, by decide, by decide⟩, false⟩, ?_, ?_⟩,
    reachable_timersOk (Run.Reachable.runAll _ (.start ⟨_, rfl⟩) ran.symm)⟩
  · decide +kernel
  · decide +kernel

end TimerState

end HtcPme.Gps
