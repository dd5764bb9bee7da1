import HtcPme.Gps.LocTimerRun

/-!
# What the kernel timer is set to

Every message leaves the kernel timer at the soonest time, unless the heap has become empty:
`updateSoonestTime(NULL)` finds no top then.
-/

namespace HtcPme.Gps

open PriorityBag List Option Function

namespace LocTimerContainer

variable {container next : LocTimerContainer} {timer top : LocTimerDelegate}

theorem Ok.soonest (ok : container.Ok) :
    (container.getSoonestTimer = none ∧ container.elements = 0) ∨
      ∃ top, container.getSoonestTimer = some top ∧ top ∈ container.elements ∧
        ∀ other ∈ container.elements, top.mFutureTime.toNs ≤ other.mFutureTime.toNs := by
  rcases LocHeap.HeapOk.peek_cases ok LocTimerDelegate.ranking with
    isEmpty | ⟨top, isTop, mem, dominates⟩
  · exact Or.inl isEmpty
  · right
    refine ⟨top, isTop, mem, ?_⟩
    intro other stored
    have lower := dominates other stored
    rw [LocTimerDelegate.outRanks_iff] at lower
    omega

theorem synced_iff (isTop : container.getSoonestTimer = some top) :
    container.Synced ↔ container.armed = some top.mFutureTime ∧ container.inPoll = true := by
  simp only [Synced, isTop]

theorem synced_empty_iff (isEmpty : container.getSoonestTimer = none) :
    container.Synced ↔ container.armed = none ∧ container.inPoll = false := by
  simp only [Synced, isEmpty]

theorem Synced.of_sameTime (synced : container.Synced) (armed : next.armed = container.armed)
    (inPoll : next.inPoll = container.inPoll) {top' : LocTimerDelegate}
    (isTop : container.getSoonestTimer = some top) (isTop' : next.getSoonestTimer = some top')
    (same : top.mFutureTime.toNs = top'.mFutureTime.toNs) : next.Synced := by
  rw [synced_iff isTop] at synced
  rw [synced_iff isTop', armed, inPoll, ← Timespec.toNs_inj same]
  exact synced

theorem updateSoonestTime_none (container : LocTimerContainer) :
    container.updateSoonestTime none =
      container.getSoonestTimer.map fun top => .arm top.mFutureTime := by
  simp only [updateSoonestTime]
  cases container.getSoonestTimer <;> simp

def ForSoonest (container : LocTimerContainer) (update : KernelUpdate) : Prop :=
  ∃ top ∈ container.getSoonestTimer, update = .arm top.mFutureTime

theorem forSoonest_updateSoonestTime {update : KernelUpdate}
    (asked : update ∈ container.updateSoonestTime none) : container.ForSoonest update := by
  rw [updateSoonestTime_none] at asked
  rcases mem_map.mp asked with ⟨top, isTop, rfl⟩
  exact ⟨top, isTop, rfl⟩

theorem forSoonest_procRemove {update : KernelUpdate}
    (asked : update ∈ (container.procRemove timer).1) :
    (container.procRemove timer).2.ForSoonest update := by
  simp only [procRemove] at asked ⊢
  split at asked
  · exact forSoonest_updateSoonestTime asked
  · simp at asked

structure Updated (container : LocTimerContainer)
    (result : Option KernelUpdate × LocTimerContainer) : Prop where
  some : ∀ update ∈ result.1, result.2.ForSoonest update
  none : result.1 = none → container.Synced → result.2.Synced

theorem Ok.updated_procPush (ok : container.Ok) (timer : LocTimerDelegate) :
    container.Updated (container.procPush timer) := by
  rcases ok.procPush timer with ⟨nextOk, elements⟩
  rcases nextOk.soonest with ⟨-, isEmpty⟩ | ⟨top', isTop', mem', least'⟩
  · rw [elements] at isEmpty
    simp at isEmpty
  · have isTop'' : (container.push timer).getSoonestTimer = some top' := isTop'
    rcases ok.soonest with ⟨isEmpty, -⟩ | ⟨top, isTop, mem, least⟩
    · simp only [LocTimerContainer.procPush, isEmpty, updateSoonestTime_none, isTop'',
        map_some]
      exact ⟨by simp [ForSoonest, isTop''], by simp⟩
    · simp only [LocTimerContainer.procPush, updateSoonestTime, isTop, isTop'', some.injEq,
        LocTimerDelegate.outRanks_iff]
      have stored : top ∈ (container.procPush timer).2.elements := by simp [elements, mem]
      have notLater := least' top stored
      split
      · rename_i same
        refine ⟨by simp, fun _ synced => synced.of_sameTime rfl rfl isTop isTop'' ?_⟩
        rw [same]
      · split
        · exact ⟨by simp [ForSoonest, isTop''], by simp⟩
        · refine ⟨by simp, fun _ synced => synced.of_sameTime rfl rfl isTop isTop'' ?_⟩
          omega

theorem Ok.updated_procRemove (ok : container.Ok) (notLast : container.elements ≠ {timer}) :
    container.Updated (container.procRemove timer) := by
  rcases ok.heapRemove timer with ⟨nextOk, removed⟩
  simp only [LocTimerContainer.procRemove]
  have armed : (container.heapRemove timer).2.armed = container.armed := rfl
  have inPoll : (container.heapRemove timer).2.inPoll = container.inPoll := rfl
  generalize container.heapRemove timer = result at nextOk removed armed inPoll ⊢
  rcases result with ⟨result, next⟩
  simp only at nextOk removed armed inPoll ⊢
  split
  · -- the soonest timer was removed, or there was none
    rename_i same
    rw [updateSoonestTime_none]
    rcases nextOk.soonest with ⟨isEmpty', nothing'⟩ | ⟨top', isTop', -⟩
    · rw [isEmpty']
      refine ⟨by simp, fun _ synced => ?_⟩
      have isEmpty : container.getSoonestTimer = none := by
        rcases removed with ⟨-, mem, left⟩ | ⟨missed, -⟩
        · rw [nothing'] at left
          rcases Multiset.exists_cons_of_mem mem with ⟨rest, isCons⟩
          rw [isCons, Multiset.erase_cons_head] at left
          rw [isCons, ← left] at notLast
          exact absurd rfl notLast
        · rw [same, missed]
      rw [synced_empty_iff isEmpty] at synced
      rw [synced_empty_iff isEmpty', armed, inPoll]
      exact synced
    · rw [isTop']
      exact ⟨by simp [ForSoonest, isTop'], by simp⟩
  · rename_i notTop
    refine ⟨by simp, fun _ synced => ?_⟩
    rcases ok.soonest with ⟨isEmpty, nothing⟩ | ⟨top, isTop, mem, least⟩
    · rcases removed with ⟨-, mem, -⟩ | ⟨missed, -⟩
      · simp [nothing] at mem
      · exact absurd (isEmpty.trans missed.symm) notTop
    · have stays : top ∈ next.elements ∧ next.elements ≤ container.elements := by
        rcases removed with ⟨found, -, left⟩ | ⟨-, left⟩
        · have ne : top ≠ timer := by
            rintro rfl
            exact notTop (isTop.trans found.symm)
          rw [left]
          exact ⟨(Multiset.mem_erase_of_ne ne).mpr mem, Multiset.erase_le _ _⟩
        · rw [left]
          exact ⟨mem, le_rfl⟩
      rcases nextOk.soonest with ⟨-, nothing'⟩ | ⟨top', isTop', mem', least'⟩
      · simp [nothing'] at stays
      · apply synced.of_sameTime armed inPoll isTop isTop'
        have notLater := least' top stays.1
        have notSooner := least top' (Multiset.mem_of_le stays.2 mem')
        omega

end LocTimerContainer

def TimerMsg.IsExpire (wakeOnExpire : Bool) : TimerMsg → Prop
  | .expire other _ => other = wakeOnExpire
  | .push _ | .remove _ => False

instance (wakeOnExpire : Bool) : DecidablePred (TimerMsg.IsExpire wakeOnExpire)
  | .expire other _ => inferInstanceAs (Decidable (other = wakeOnExpire))
  | .push _ | .remove _ => inferInstanceAs (Decidable False)

namespace TaskPc

variable {κ : Type}

def worksOn? : TaskPc κ → Option Bool
  | .idle => none
  | .popping expiry _ | .expiring expiry _ | .stopping expiry _ _ | .calling expiry _ _ =>
      some expiry.wakeOnExpire
  | .settingPoll wakeOnExpire _ | .settingTime wakeOnExpire _ => some wakeOnExpire

end TaskPc

namespace TimerState

variable {κ : Type} {state next : TimerState κ}

def ExpireQueued (state : TimerState κ) (wakeOnExpire : Bool) : Prop :=
  ∃ msg ∈ state.queue, msg.IsExpire wakeOnExpire

/-- The poll thread is between its `timerfd_settime` and its `sendMsg`. -/
def MidExpire (state : TimerState κ) (wakeOnExpire : Bool) : Prop :=
  (∃ report ∈ state.reported.head?, report.1 = wakeOnExpire) ∧ state.stage ≠ .setTime

def Quiet (state : TimerState κ) (wakeOnExpire : Bool) : Prop :=
  ¬state.ExpireQueued wakeOnExpire ∧ ¬state.MidExpire wakeOnExpire

structure KernelOk (state : TimerState κ) : Prop where
  synced : ∀ wakeOnExpire, state.task.worksOn? ≠ some wakeOnExpire →
    state.Quiet wakeOnExpire → (state.containers wakeOnExpire).Synced
  settingPoll : ∀ wakeOnExpire update, state.task = .settingPoll wakeOnExpire update →
    (state.containers wakeOnExpire).ForSoonest update
  settingTime : ∀ wakeOnExpire update, state.task = .settingTime wakeOnExpire update →
    (state.containers wakeOnExpire).ForSoonest update ∧
      (state.Quiet wakeOnExpire → (state.containers wakeOnExpire).inPoll = true)

theorem KernelOk.frame (ok : state.KernelOk) (containers : next.containers = state.containers)
    (worksOn : next.task.worksOn? = state.task.worksOn?)
    (quiet : ∀ wakeOnExpire, next.Quiet wakeOnExpire → state.Quiet wakeOnExpire)
    (settingPoll : ∀ wakeOnExpire update, next.task = .settingPoll wakeOnExpire update →
      state.task = .settingPoll wakeOnExpire update)
    (settingTime : ∀ wakeOnExpire update, next.task = .settingTime wakeOnExpire update →
      state.task = .settingTime wakeOnExpire update) : next.KernelOk := by
  constructor
  · rw [worksOn, containers]
    exact fun wakeOnExpire notHere nextQuiet =>
      ok.synced wakeOnExpire notHere (quiet wakeOnExpire nextQuiet)
  · rw [containers]
    exact fun wakeOnExpire update isTask =>
      ok.settingPoll wakeOnExpire update (settingPoll wakeOnExpire update isTask)
  · rw [containers]
    intro wakeOnExpire update isTask
    rcases ok.settingTime wakeOnExpire update (settingTime wakeOnExpire update isTask) with
      ⟨soonest, inPoll⟩
    exact ⟨soonest, fun nextQuiet => inPoll (quiet wakeOnExpire nextQuiet)⟩

theorem Quiet.mono {wakeOnExpire : Bool} (quiet : next.Quiet wakeOnExpire)
    (queue : ∀ msg ∈ state.queue, msg.IsExpire wakeOnExpire → msg ∈ next.queue)
    (reported : next.reported = state.reported) (stage : next.stage = state.stage) :
    state.Quiet wakeOnExpire := by
  constructor
  · rintro ⟨msg, mem, isExpire⟩
    exact quiet.1 ⟨msg, queue msg mem isExpire, isExpire⟩
  · intro mid
    apply quiet.2
    simpa only [MidExpire, reported, stage] using mid

section

variable (ok : state.KernelOk)

include ok

theorem KernelOk.work (wakeOnExpire : Bool)
    (container : LocTimerContainer) (queue : List TimerMsg) (task : TaskPc κ)
    (before : state.task.worksOn? ∈ [none, some wakeOnExpire])
    (after : task.worksOn? ∈ [none, some wakeOnExpire])
    (queued : ∀ msg ∈ state.queue, ∀ other ≠ wakeOnExpire, msg.IsExpire other → msg ∈ queue)
    (synced : task.worksOn? = none →
      { state with queue := queue }.Quiet wakeOnExpire → container.Synced)
    (settingPoll : ∀ update, task = .settingPoll wakeOnExpire update →
      container.ForSoonest update)
    (settingTime : ∀ update, task = .settingTime wakeOnExpire update →
      container.ForSoonest update ∧
        ({ state with queue := queue }.Quiet wakeOnExpire → container.inPoll = true)) :
    { state with
      containers := update state.containers wakeOnExpire container
      queue := queue
      task := task }.KernelOk := by
  simp only [mem_cons, not_mem_nil, or_false] at before after
  have here : ∀ other, task.worksOn? = some other → other = wakeOnExpire := by
    intro other isOther
    rcases after with none | some
    · simp [none] at isOther
    · rw [some] at isOther
      exact (Option.some.inj isOther).symm
  constructor
  · intro other notHere quiet
    by_cases same : other = wakeOnExpire
    · subst same
      simp only [update_self]
      exact synced (after.resolve_right notHere) quiet
    · simp only [update_of_ne same]
      apply ok.synced other
      · rcases before with none | some
        · simp [none]
        · rw [some]
          exact fun eq => same (Option.some.inj eq).symm
      · exact quiet.mono (fun msg mem isExpire => queued msg mem other same isExpire) rfl rfl
  · intro other update isTask
    have same := here other (congrArg TaskPc.worksOn? isTask)
    subst same
    simp only [update_self]
    exact settingPoll update isTask
  · intro other update isTask
    have same := here other (congrArg TaskPc.worksOn? isTask)
    subst same
    simp only [update_self]
    exact settingTime update isTask

theorem KernelOk.pollStep (wakeOnExpire : Bool)
    (isHead : ∀ report ∈ state.reported.head?, report.1 = wakeOnExpire)
    (container : LocTimerContainer)
    (same : container.heap = (state.containers wakeOnExpire).heap) (task : next.task = state.task)
    (containers : next.containers = update state.containers wakeOnExpire container)
    (queue : ∀ msg ∈ state.queue, msg ∈ next.queue) (noisy : ¬next.Quiet wakeOnExpire) :
    next.KernelOk := by
  have quiet : ∀ other, next.Quiet other → other ≠ wakeOnExpire ∧ state.Quiet other := by
    intro other nextQuiet
    have ne : other ≠ wakeOnExpire := by
      rintro rfl
      exact noisy nextQuiet
    refine ⟨ne, ?_, ?_⟩
    · rintro ⟨msg, mem, isExpire⟩
      exact nextQuiet.1 ⟨msg, queue msg mem, isExpire⟩
    · rintro ⟨⟨report, mem, isOther⟩, -⟩
      exact ne (isOther.symm.trans (isHead report mem))
  have soonest : ∀ other update, (state.containers other).ForSoonest update →
      (next.containers other).ForSoonest update := by
    intro other update
    rw [containers, update_apply]
    split
    · rename_i eq
      rw [eq]
      simp only [LocTimerContainer.ForSoonest, LocTimerContainer.getSoonestTimer, same, imp_self]
    · exact id
  constructor
  · intro other notHere nextQuiet
    rcases quiet other nextQuiet with ⟨ne, before⟩
    rw [containers, update_of_ne ne]
    rw [task] at notHere
    exact ok.synced other notHere before
  · intro other update isTask
    rw [task] at isTask
    exact soonest other update (ok.settingPoll other update isTask)
  · intro other update isTask
    rw [task] at isTask
    rcases ok.settingTime other update isTask with ⟨isSoonest, inPoll⟩
    refine ⟨soonest other update isSoonest, ?_⟩
    intro nextQuiet
    rcases quiet other nextQuiet with ⟨ne, before⟩
    rw [containers, update_of_ne ne]
    exact inPoll before

theorem KernelOk.finish (wakeOnExpire : Bool)
    (container : LocTimerContainer) (queue : List TimerMsg) (update : Option KernelUpdate)
    (before : state.task.worksOn? ∈ [none, some wakeOnExpire])
    (queued : ∀ msg ∈ state.queue, ∀ other ≠ wakeOnExpire, msg.IsExpire other → msg ∈ queue)
    (asked : ∀ update' ∈ update, container.ForSoonest update')
    (synced : update = none → { state with queue := queue }.Quiet wakeOnExpire →
      container.Synced) :
    (({ state with queue := queue }.setContainer wakeOnExpire container).finish wakeOnExpire
      update).KernelOk := by
  cases update with
  | none =>
      exact ok.work wakeOnExpire container queue .idle before (by simp [TaskPc.worksOn?]) queued
        (fun _ => synced rfl) (by simp) (by simp)
  | some update =>
      apply ok.work wakeOnExpire container queue (.settingPoll wakeOnExpire update) before
        (by simp [TaskPc.worksOn?]) queued
      · simp [TaskPc.worksOn?]
      · intro update' isTask
        simp only [TaskPc.settingPoll.injEq, true_and] at isTask
        exact asked update' (by rw [isTask]; rfl)
      · simp

theorem KernelOk.poll (polled : state.poll = some next) : next.KernelOk := by
  simp only [TimerState.poll] at polled
  split at polled
  · simp at polled
  · rename_i wakeOnExpire _ _ isReported _
    simp only [some.injEq] at polled
    subst polled
    refine ok.pollStep wakeOnExpire (by simp [isReported]) _ ?_ rfl rfl (fun _ mem => mem) ?_
    · rfl
    · rintro ⟨-, notMid⟩
      apply notMid
      simp [MidExpire, setContainer, isReported]
  · rename_i wakeOnExpire _ _ isReported _
    simp only [some.injEq] at polled
    subst polled
    refine ok.pollStep wakeOnExpire (by simp [isReported]) _ ?_ rfl rfl (fun _ mem => mem) ?_
    · rfl
    · rintro ⟨-, notMid⟩
      apply notMid
      simp [MidExpire, setContainer, isReported]
  · rename_i wakeOnExpire reportedAt _ isReported _
    simp only [some.injEq] at polled
    subst polled
    refine ok.pollStep wakeOnExpire (by simp [isReported]) (state.containers wakeOnExpire) rfl rfl
      (update_eq_self _ _).symm (fun _ mem => mem_append_left _ mem) ?_
    rintro ⟨notQueued, -⟩
    apply notQueued
    exact ⟨.expire wakeOnExpire reportedAt, by simp, rfl⟩

end

def Completes [DecidableEq κ] (state : TimerState κ) : Prop :=
  state.runTask.map TimerState.task = some .idle

/-- A remove message does not take the last timer off a heap, and an expire message only with the
kernel timer disarmed and not polled, unless another one is queued. -/
def EmptyGuard (state : TimerState κ) : TaskPc κ → List TimerMsg → Prop
  | .idle, .remove timer :: _ =>
      (state.containers timer.wakeOnExpire).elements = {timer} →
        state.ExpireQueued timer.wakeOnExpire
  | .popping expiry _, _ =>
      (state.containers expiry.wakeOnExpire).elements = 0 →
        state.ExpireQueued expiry.wakeOnExpire ∨
          (state.containers expiry.wakeOnExpire).armed = none ∧
            (state.containers expiry.wakeOnExpire).inPoll = false
  | _, _ => True

/-- And no message ends while the poll thread is between `timerfd_settime` and `sendMsg`. -/
def KernelGuard [DecidableEq κ] (state : TimerState κ) : TimerEvent κ → Prop
  | .task =>
      (∀ wakeOnExpire, state.Completes → state.MidExpire wakeOnExpire →
          state.ExpireQueued wakeOnExpire) ∧
        state.EmptyGuard state.task state.queue
  | _ => True

instance (state : TimerState κ) (wakeOnExpire : Bool) :
    Decidable (state.ExpireQueued wakeOnExpire) :=
  inferInstanceAs (Decidable (∃ msg ∈ state.queue, msg.IsExpire wakeOnExpire))

instance (state : TimerState κ) (wakeOnExpire : Bool) :
    Decidable (state.MidExpire wakeOnExpire) :=
  inferInstanceAs (Decidable (_ ∧ _))

instance [DecidableEq κ] (state : TimerState κ) : Decidable state.Completes :=
  inferInstanceAs (Decidable (_ = _))

instance (state : TimerState κ) :
    (task : TaskPc κ) → (queue : List TimerMsg) → Decidable (state.EmptyGuard task queue)
  | .idle, .remove _ :: _ => inferInstanceAs (Decidable (_ → _))
  | .popping _ _, _ => inferInstanceAs (Decidable (_ → _ ∨ _ ∧ _))
  | .idle, [] | .idle, .push _ :: _ | .idle, .expire _ _ :: _ | .expiring _ _, _
  | .stopping _ _ _, _ | .calling _ _ _, _ | .settingPoll _ _, _ | .settingTime _ _, _ =>
      inferInstanceAs (Decidable True)

instance [DecidableEq κ] (state : TimerState κ) :
    (event : TimerEvent κ) → Decidable (state.KernelGuard event)
  | .task => inferInstanceAs (Decidable ((∀ _ : Bool, _) ∧ _))
  | .tick _ | .start _ _ _ _ | .stop _ | .report _ | .poll => inferInstanceAs (Decidable True)

theorem popNext_kernel (state : TimerState κ) (expiry : Expiry) (first : Bool) :
    (state.popNext expiry first).2.armed = (state.containers expiry.wakeOnExpire).armed ∧
      (state.popNext expiry first).2.inPoll = (state.containers expiry.wakeOnExpire).inPoll := by
  cases first with
  | true => exact ⟨rfl, rfl⟩
  | false =>
      simp only [popNext, Bool.false_eq_true, if_false, LocTimerContainer.popIfOutRanks]
      split
      · exact ⟨rfl, rfl⟩
      · split <;> exact ⟨rfl, rfl⟩

variable [DecidableEq κ] {event : TimerEvent κ}

section

variable (ok : state.KernelOk)

include ok

variable (timers : state.TimersOk)

include timers

theorem KernelOk.procMsg {msg : TimerMsg}
    {queue : List TimerMsg} (isTask : state.task = .idle) (isQueue : state.queue = msg :: queue)
    (guarded : state.KernelGuard .task) : ({ state with queue := queue }.procMsg msg).KernelOk := by
  have before : ∀ wakeOnExpire : Bool, state.task.worksOn? ∈ [none, some wakeOnExpire] := by
    simp [isTask, TaskPc.worksOn?]
  have stays : ∀ wakeOnExpire, ¬msg.IsExpire wakeOnExpire →
      { state with queue := queue }.Quiet wakeOnExpire → state.Quiet wakeOnExpire := by
    intro wakeOnExpire notExpire quiet
    refine quiet.mono ?_ rfl rfl
    intro other mem isExpire
    rw [isQueue] at mem
    rcases mem_cons.mp mem with rfl | mem
    · exact absurd isExpire notExpire
    · exact mem
  have idle : ∀ wakeOnExpire, state.task.worksOn? ≠ some wakeOnExpire := by
    simp [isTask, TaskPc.worksOn?]
  cases msg with
  | push timer =>
      have updated := (timers.places.ok timer.wakeOnExpire).updated_procPush timer
      apply ok.finish timer.wakeOnExpire _ queue _ (before _)
      · intro msg mem other _ isExpire
        rw [isQueue] at mem
        rcases mem_cons.mp mem with rfl | mem
        · exact absurd isExpire id
        · exact mem
      · exact updated.some
      · exact fun noUpdate quiet =>
          updated.none noUpdate (ok.synced _ (idle _) (stays _ id quiet))
  | remove timer =>
      apply ok.finish timer.wakeOnExpire _ queue _ (before _)
      · intro msg mem other _ isExpire
        rw [isQueue] at mem
        rcases mem_cons.mp mem with rfl | mem
        · exact absurd isExpire id
        · exact mem
      · exact fun _ asked => LocTimerContainer.forSoonest_procRemove asked
      · intro noUpdate quiet
        have wasQuiet := stays _ id quiet
        have guarded := guarded.2
        simp only [isTask, isQueue, EmptyGuard] at guarded
        have notLast := fun last => wasQuiet.1 (guarded last)
        have updated := (timers.places.ok timer.wakeOnExpire).updated_procRemove notLast
        exact updated.none noUpdate (ok.synced _ (idle _) wasQuiet)
  | expire wakeOnExpire reportedAt =>
      have updated := ok.work wakeOnExpire (state.containers wakeOnExpire) queue
        (.popping ⟨wakeOnExpire, reportedAt, state.clock⟩ true) (before _)
        (by simp [TaskPc.worksOn?])
      rw [update_eq_self] at updated
      apply updated
      · intro msg mem other ne isExpire
        rw [isQueue] at mem
        rcases mem_cons.mp mem with rfl | mem
        · exact absurd isExpire.symm ne
        · exact mem
      · simp [TaskPc.worksOn?]
      · simp
      · simp

theorem KernelOk.emptied {expiry : Expiry}
    {first : Bool} {container : LocTimerContainer} (isTask : state.task = .popping expiry first)
    (guarded : state.KernelGuard .task) (isNext : state.popNext expiry first = (none, container)) :
    ((state.setContainer expiry.wakeOnExpire container).finish expiry.wakeOnExpire
      (container.updateSoonestTime none)).KernelOk := by
  have popped := timers.popNext expiry first
  have kernel := popNext_kernel state expiry first
  rw [isNext] at popped kernel
  apply ok.finish expiry.wakeOnExpire container state.queue _
    (by simp [isTask, TaskPc.worksOn?]) (fun _ mem _ _ _ => mem)
  · exact fun _ asked => LocTimerContainer.forSoonest_updateSoonestTime asked
  · intro noUpdate quiet
    have isEmpty : container.getSoonestTimer = none := by
      simpa [LocTimerContainer.updateSoonestTime_none] using noUpdate
    have nothing : (state.containers expiry.wakeOnExpire).elements = 0 := by
      apply Multiset.eq_zero_of_forall_notMem
      intro timer mem
      have left := popped.others timer mem (by simp)
      rcases popped.ok.soonest with ⟨-, nothing⟩ | ⟨top, isTop, -⟩
      · simp [nothing] at left
      · simp [isEmpty] at isTop
    have guarded := guarded.2
    simp only [isTask, EmptyGuard] at guarded
    rw [LocTimerContainer.synced_empty_iff isEmpty, kernel.1, kernel.2]
    exact (guarded nothing).resolve_left quiet.1

theorem KernelOk.runTask
    (guarded : state.KernelGuard .task) (ran : state.runTask = some next) : next.KernelOk := by
  cases runTask_cases ran with
  | message isTask isQueue => exact ok.procMsg timers isTask isQueue guarded
  | emptied isTask isNext => exact ok.emptied timers isTask guarded isNext
  | @popped expiry first container timer isTask =>
      exact ok.work expiry.wakeOnExpire container state.queue (.expiring expiry timer)
        (by simp [isTask, TaskPc.worksOn?]) (by simp [TaskPc.worksOn?]) (fun _ mem _ _ _ => mem)
        (by simp [TaskPc.worksOn?]) (by simp) (by simp)
  | orphaned isTask | claimed isTask | missed isTask | called isTask =>
      exact ok.frame rfl (by simp [isTask, TaskPc.worksOn?]) (fun _ quiet => quiet) (by simp)
        (by simp)
  | @stopped _ _ _ client isTask =>
      rcases stop_cases state client with ⟨-, result⟩ | ⟨_, _, removes, -, -, result⟩ <;>
        rw [result]
      · exact ok.frame rfl (by simp [isTask, TaskPc.worksOn?]) (fun _ quiet => quiet) (by simp)
          (by simp)
      · refine ok.frame rfl (by simp [isTask, TaskPc.worksOn?]) ?_ (by simp) (by simp)
        exact fun _ quiet => quiet.mono (fun _ mem _ => mem_append_left _ mem) rfl rfl
  | @polled wakeOnExpire update isTask =>
      rcases ok.settingPoll wakeOnExpire update isTask with ⟨top, isTop, rfl⟩
      apply ok.work wakeOnExpire _ state.queue _ (by simp [isTask, TaskPc.worksOn?])
        (by simp [TaskPc.worksOn?]) (fun _ mem _ _ _ => mem)
      · simp [TaskPc.worksOn?]
      · simp
      · intro update isUpdate
        simp only [TaskPc.settingTime.injEq, true_and] at isUpdate
        exact ⟨⟨top, isTop, isUpdate.symm⟩, fun _ => rfl⟩
  | @timed wakeOnExpire update isTask =>
      rcases ok.settingTime wakeOnExpire update isTask with ⟨⟨top, isTop, rfl⟩, inPoll⟩
      apply ok.work wakeOnExpire _ state.queue _ (by simp [isTask, TaskPc.worksOn?])
        (by simp [TaskPc.worksOn?]) (fun _ mem _ _ _ => mem)
      · intro _ quiet
        have isTop' : ((state.containers wakeOnExpire).setTime
          (.arm top.mFutureTime)).getSoonestTimer = some top := isTop
        rw [LocTimerContainer.synced_iff isTop']
        exact ⟨rfl, inPoll quiet⟩
      · simp
      · simp

theorem KernelOk.apply
    (guarded : state.KernelGuard event) (applied : state.Step event next) : next.KernelOk := by
  simp only [Step] at applied
  cases event with
  | tick now =>
      simp only [apply, ite_none_right_eq_some, some.injEq] at applied
      rcases applied with ⟨-, rfl⟩
      exact ok.frame rfl rfl (fun _ quiet => quiet) (fun _ _ isTask => isTask)
        (fun _ _ isTask => isTask)
  | start client timeOutInMs wakeOnExpire readAt =>
      simp only [apply, ite_none_right_eq_some, start] at applied
      rcases applied with ⟨-, applied⟩
      split at applied
      · simp only [some.injEq] at applied
        subst applied
        exact ok
      · rcases bind_eq_some_iff.mp applied with ⟨futureTime, -, applied⟩
        simp only [some.injEq] at applied
        subst applied
        refine ok.frame rfl rfl ?_ (fun _ _ isTask => isTask) (fun _ _ isTask => isTask)
        exact fun _ quiet => quiet.mono (fun _ mem _ => mem_append_left _ mem) rfl rfl
  | stop client =>
      simp only [apply, some.injEq] at applied
      subst applied
      simp only [clientStop]
      rcases stop_cases state client with ⟨-, result⟩ | ⟨timer, mContainer, removes, -, -, result⟩
      · rw [result]
        exact ok
      · rw [result]
        refine ok.frame rfl rfl ?_ (fun _ _ isTask => isTask) (fun _ _ isTask => isTask)
        exact fun _ quiet => quiet.mono (fun _ mem _ => mem_append_left _ mem) rfl rfl
  | report ready =>
      simp only [apply, ite_none_right_eq_some, some.injEq] at applied
      rcases applied with ⟨⟨noneReported, -⟩, rfl⟩
      refine ok.frame rfl rfl ?_ (fun _ _ isTask => isTask) (fun _ _ isTask => isTask)
      intro wakeOnExpire quiet
      refine ⟨quiet.1, ?_⟩
      simp [MidExpire, noneReported]
  | poll => exact ok.poll applied
  | task => exact ok.runTask timers guarded applied

end

theorem reachable_kernelOk (reached : Run.Reachable IsInit (Run.Guarded KernelGuard Step) state) :
    state.TimersOk ∧ state.KernelOk := by
  apply reached.invariant fun state => state.TimersOk ∧ state.KernelOk
  · rintro _ ⟨clock, rfl⟩
    refine ⟨timersOk_init clock, ?_, by simp [init], by simp [init]⟩
    exact fun _ _ _ => ⟨rfl, rfl⟩
  · rintro state event next ⟨timers, ok⟩ ⟨guarded, applied⟩
    exact ⟨timers.apply applied, ok.apply timers guarded applied⟩

/-- The step ends a message, and afterwards every container without a queued expire message has its
kernel timer at the soonest time. -/
def SyncedAfter (state next : TimerState κ) : Prop :=
  state.Step .task next → next.task = .idle →
    ∀ wakeOnExpire, ¬next.ExpireQueued wakeOnExpire → (next.containers wakeOnExpire).Synced

theorem runTask_keeps (ran : state.runTask = some next) :
    next.reported = state.reported ∧ next.stage = state.stage ∧
      (next.task = .idle → ∀ wakeOnExpire, state.ExpireQueued wakeOnExpire →
        next.ExpireQueued wakeOnExpire) := by
  cases runTask_cases ran with
  | @message msg queue _ isQueue =>
      have tail : ¬(∃ wakeOnExpire, msg.IsExpire wakeOnExpire) → ∀ wakeOnExpire,
          state.ExpireQueued wakeOnExpire → ∃ msg ∈ queue, msg.IsExpire wakeOnExpire := by
        rintro notExpire wakeOnExpire ⟨other, mem, isExpire⟩
        rw [isQueue] at mem
        rcases mem_cons.mp mem with rfl | mem
        · exact absurd ⟨wakeOnExpire, isExpire⟩ notExpire
        · exact ⟨other, mem, isExpire⟩
      cases msg with
      | push timer | remove timer =>
          simp only [procMsg]
          rcases finish_eq _ timer.wakeOnExpire _ with ⟨task, finished, -⟩
          rw [finished]
          exact ⟨rfl, rfl, fun _ => tail (by simp [TimerMsg.IsExpire])⟩
      | expire wakeOnExpire reportedAt => exact ⟨rfl, rfl, by simp [procMsg]⟩
  | @emptied expiry _ container =>
      rcases finish_eq (state.setContainer expiry.wakeOnExpire container) expiry.wakeOnExpire
        (container.updateSoonestTime none) with ⟨task, finished, -⟩
      rw [finished]
      exact ⟨rfl, rfl, fun _ _ queued => queued⟩
  | popped | orphaned | claimed | missed | called | polled | timed =>
      exact ⟨rfl, rfl, fun _ _ queued => queued⟩
  | @stopped _ _ _ client =>
      rcases stop_cases state client with ⟨-, result⟩ | ⟨_, _, removes, -, -, result⟩ <;>
        rw [result] <;> exact ⟨rfl, rfl, by simp⟩

/-- In runs that meet the condition, every message leaves the kernel timer at the soonest time, or
disarmed and not polled if no timer is stored. -/
theorem reachable_synced (reached : Run.Reachable IsInit (Run.Guarded KernelGuard Step) state)
    (guarded : state.KernelGuard .task) : state.SyncedAfter next := by
  intro stepped done wakeOnExpire noExpire
  rcases reachable_kernelOk reached with ⟨timers, ok⟩
  have nextOk := ok.apply timers guarded stepped
  rcases runTask_keeps stepped with ⟨reported, stage, queued⟩
  apply nextOk.synced wakeOnExpire
  · simp [done, TaskPc.worksOn?]
  · refine ⟨noExpire, fun mid => noExpire (queued done wakeOnExpire ?_)⟩
    apply guarded.1 wakeOnExpire
    · have ran : state.runTask = some next := stepped
      simp [Completes, ran, done]
    · simpa only [MidExpire, reported, stage] using mid

section Runs

def resetRun : List (TimerEvent Bool) :=
  [.start true 5000 false bootTime, .task, .task, .task, .start false 10 false bootTime, .task,
    .task, .task, .stop false, .task, .task]

theorem resetRun_isSome : (Run.runGuarded KernelGuard apply (init bootTime) resetRun).isSome := by
  decide +kernel

def resetState : TimerState Bool := Option.get _ resetRun_isSome

theorem resetState_isSome : (resetState.apply .task).isSome := by decide +kernel

theorem reachable_synced_reset : ∃ next, resetState.Step .task next ∧ next.task = .idle ∧
    (next.containers false).getSoonestTimer.isSome ∧ resetState.SyncedAfter next := by
  have run : Run.Reachable IsInit (Run.Guarded KernelGuard Step) resetState :=
    Run.Reachable.runGuarded resetRun (.start ⟨bootTime, rfl⟩)
      (Option.some_get resetRun_isSome).symm
  exact ⟨Option.get _ resetState_isSome, (Option.some_get resetState_isSome).symm,
    by decide +kernel, by decide +kernel, reachable_synced run (by decide +kernel)⟩

def stopRun : List (TimerEvent Bool) :=
  [.start false 10 false bootTime, .task, .task, .task, .stop false]

theorem stopRun_isSome : (Run.runAll apply (init bootTime) stopRun).isSome := by decide +kernel

def stopState : TimerState Bool := Option.get _ stopRun_isSome

theorem stopState_isSome : (stopState.apply .task).isSome := by decide +kernel

/-- The only timer is stopped, but the kernel timer stays set to its time. -/
theorem reachable_not_synced :
    ¬∀ state next : TimerState Bool, Run.Reachable IsInit Step state →
      state.SyncedAfter next := by
  intro always
  have run : Run.Reachable IsInit Step stopState :=
    Run.Reachable.runAll stopRun (.start ⟨bootTime, rfl⟩) (Option.some_get stopRun_isSome).symm
  have synced := always _ _ run (Option.some_get stopState_isSome).symm (by decide +kernel) false
    (by decide +kernel)
  rw [LocTimerContainer.synced_empty_iff (by decide +kernel)] at synced
  exact absurd synced.2 (by decide +kernel)

end Runs

end TimerState

end HtcPme.Gps
