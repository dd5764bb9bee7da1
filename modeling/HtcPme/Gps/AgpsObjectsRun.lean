import HtcPme.Gps.AgpsObjectsLoop

/-!
# Runs of an AgpsStateMachine on its objects

Every object that leaves the list is deleted once.
-/

namespace HtcPme.Gps

namespace AgpsObjects

open Subscriber

variable {memory : SubscriberKind → List UInt8} {freed : ℕ → Subscriber}
  {machine next : AgpsObjects}
  {notice : NotificationPtr} {send : AgpsStateMachine.SendRsrcRequest} {subscriber : Subscriber}
  {entry : ℕ}

/-- No deleted object was used, and the objects that are not in the list any more were deleted
once. -/
structure MemoryOk (machine : AgpsObjects) : Prop where
  unused : machine.stale = []
  deletedOnce : ∀ address, machine.deletions address =
    if address < machine.allocated ∧ address ∉ machine.mSubscribers then 1 else 0
  listed : ∀ address ∈ machine.mSubscribers, address < machine.allocated
  nodup : machine.mSubscribers.Nodup

structure LastAlike (memory : SubscriberKind → List UInt8) (machine : AgpsObjects) (entry : ℕ) :
    Prop where
  others : ∀ other ∈ machine.mSubscribers,
    (machine.objects other).equals memory (machine.objects entry) = true
  last : machine.mSubscribers.getLast? = some entry

def found (memory : SubscriberKind → List UInt8) (machine : AgpsObjects)
    (subscriber : Subscriber) : Option ℕ :=
  machine.mSubscribers.find? fun address => (machine.objects address).equals memory subscriber

/-- A subscriber that leaves and does not wait for the interface to be closed is the last one in
the list, where the others are taken for it. -/
def LeavesLast (memory : SubscriberKind → List UInt8) (machine : AgpsObjects) : Call → Prop
  | .agps (.unsubscribeRsrc subscriber) _ => machine.mStatePtr ≠ .released →
      ∀ entry, machine.found memory subscriber = some entry →
        (machine.objects entry).waitForCloseComplete = false → machine.LastAlike memory entry
  | _ => True

section Spec

section

variable (ok : machine.MemoryOk)

include ok

theorem MemoryOk.live : machine.Live machine.mSubscribers := by
  intro address mem
  rw [ok.deletedOnce, if_neg]
  rintro ⟨-, notMem⟩
  exact notMem mem

theorem MemoryOk.of_same (subscribers : next.mSubscribers = machine.mSubscribers)
    (allocated : next.allocated = machine.allocated)
    (deletions : next.deletions = machine.deletions) (stale : next.stale = machine.stale) :
    next.MemoryOk := by
  constructor
  · rw [stale]
    exact ok.unused
  · rw [deletions, allocated, subscribers]
    exact ok.deletedOnce
  · rw [subscribers, allocated]
    exact ok.listed
  · rw [subscribers]
    exact ok.nodup

theorem MemoryOk.sameMemory (same : machine.SameMemory next) :
    next.MemoryOk :=
  ok.of_same same.subscribers same.allocated same.deletions same.stale

theorem MemoryOk.dropAll :
    (machine.dropAll memory freed notice).MemoryOk := by
  have same := sameMemory_informAll notice.rsrcStatus
    ((machine.mSubscribers.filter (machine.takes memory freed notice)).map machine.objects) machine
  constructor
  · exact same.stale.trans ok.unused
  · intro address
    have before := ok.deletedOnce address
    have below := ok.listed address
    simp only [AgpsObjects.dropAll, same.allocated, List.mem_filter, Bool.not_eq_eq_eq_not,
      Bool.not_true]
    by_cases mem : address ∈ machine.mSubscribers
    · cases machine.takes memory freed notice address with
      | true => simp [mem, below mem]
      | false => simp [mem, before]
    · simp [mem, before]
  · intro address mem
    rw [show (machine.dropAll memory freed notice).allocated = machine.allocated from
      same.allocated]
    exact ok.listed address (List.mem_of_mem_filter mem)
  · exact ok.nodup.filter _

section

variable (known : Known notice.rsrcStatus)

include known

theorem MemoryOk.notifySubscribers_eq
    (lasts : machine.mSubscribers ≠ [] → machine.Lasts memory freed notice)
    (liveReceiver : machine.LiveReceiver notice.receiver) :
    machine.notifySubscribers memory freed notice =
      if notice.postNotifyDelete then machine.dropAll memory freed notice
      else informAll notice.rsrcStatus
        ((machine.mSubscribers.filter (machine.takes memory freed notice)).map machine.objects)
        machine := by
  rw [notifySubscribers]
  cases delete : notice.postNotifyDelete with
  | true =>
      simp only [if_true]
      exact notifyLoop_eq known delete _ le_rfl ok.live ok.nodup lasts
  | false =>
      simp only [Bool.false_eq_true, if_false]
      rw [searchNotify_keep known ok.live liveReceiver delete]

theorem MemoryOk.notifySubscribers
    (lasts : machine.mSubscribers ≠ [] → machine.Lasts memory freed notice)
    (liveReceiver : machine.LiveReceiver notice.receiver) :
    (machine.notifySubscribers memory freed notice).MemoryOk := by
  rw [ok.notifySubscribers_eq known lasts liveReceiver]
  split
  · exact ok.dropAll
  · exact ok.sameMemory (sameMemory_informAll _ _ machine)

theorem MemoryOk.broadcast (isBroadcast : ∀ ptr, notice.receiver ≠ .rcver ptr) :
    (machine.notifySubscribers memory freed notice).MemoryOk := by
  apply ok.notifySubscribers known
  · intro _ entry receiver
    exact absurd receiver (isBroadcast (.object entry))
  · cases receiver : notice.receiver with
    | rcver ptr => exact absurd receiver (isBroadcast ptr)
    | broadcastAll => trivial
    | broadcastActive => trivial
    | broadcastInactive => trivial

end

theorem MemoryOk.searchHas_eq (receiver : ReceiverPtr)
    (liveReceiver : machine.LiveReceiver receiver) :
    searchHas memory freed receiver machine.mSubscribers machine =
      (machine.mSubscribers.find? (machine.takes memory freed ⟨receiver, .statusMax, false⟩),
        machine) :=
  searchHas_of_live ok.live liveReceiver

theorem MemoryOk.hasActiveSubscribers_snd
    (memory : SubscriberKind → List UInt8) (freed : ℕ → Subscriber) :
    (machine.hasActiveSubscribers memory freed).2 = machine := by
  simp only [hasActiveSubscribers, ok.searchHas_eq .broadcastActive trivial]

theorem MemoryOk.use_active {p : ℕ → Bool} :
    (machine.mSubscribers.find? p).elim machine machine.use = machine := by
  cases isActive : machine.mSubscribers.find? p with
  | none => rfl
  | some active => exact use_of_live (ok.live active (List.mem_of_find?_eq_some isActive))

theorem MemoryOk.sendRsrcRequest_eq (action : AGpsStatusValue) :
    machine.sendRsrcRequest memory freed send action =
      ((send action (machine.view freed)).1,
        { machine with
          mRetries := (send action (machine.view freed)).2.mRetries
          timers := (send action (machine.view freed)).2.timers
          messages := (send action (machine.view freed)).2.messages
          requests := (send action (machine.view freed)).2.requests }) := by
  simp only [sendRsrcRequest, ok.searchHas_eq .broadcastActive trivial, ok.use_active]

theorem MemoryOk.sendRsrcRequest (action : AGpsStatusValue) :
    (machine.sendRsrcRequest memory freed send action).2.MemoryOk := by
  rw [ok.sendRsrcRequest_eq]
  exact ok.of_same rfl rfl rfl rfl

theorem MemoryOk.found_eq (freed : ℕ → Subscriber)
    (subscriber : Subscriber) :
    searchHas memory freed (.rcver (.client subscriber)) machine.mSubscribers machine =
      (machine.found memory subscriber, machine) := ok.searchHas_eq _ trivial

theorem MemoryOk.addSubscriber_eq (subscriber : Subscriber) :
    machine.addSubscriber memory freed subscriber =
      if (machine.found memory subscriber).isSome then machine
      else
        { machine with
          mSubscribers := machine.allocated :: machine.mSubscribers
          allocated := machine.allocated + 1
          objects := Function.update machine.objects machine.allocated subscriber.clone } := by
  simp only [addSubscriber, ok.found_eq]
  cases machine.found memory subscriber with
  | none => rfl
  | some entry => rfl

theorem MemoryOk.addSubscriber (subscriber : Subscriber) :
    (machine.addSubscriber memory freed subscriber).MemoryOk := by
  rw [ok.addSubscriber_eq]
  split
  · exact ok
  · have isNew : machine.allocated ∉ machine.mSubscribers :=
      fun mem => (ok.listed _ mem).ne rfl
    constructor
    · exact ok.unused
    · intro address
      have before := ok.deletedOnce address
      simp only [List.mem_cons]
      by_cases isAllocated : address = machine.allocated
      · subst isAllocated
        simp [before]
      · have below : address < machine.allocated + 1 ↔ address < machine.allocated := by omega
        simp [isAllocated, before, below]
    · intro address mem
      rcases List.mem_cons.mp mem with rfl | isOld
      · exact Nat.lt_succ_self _
      · exact (ok.listed address isOld).trans (Nat.lt_succ_self _)
    · exact List.nodup_cons.mpr ⟨isNew, ok.nodup⟩

theorem MemoryOk.setInactive (mem : entry ∈ machine.mSubscribers) :
    (machine.setInactive freed entry).MemoryOk := by
  apply ok.of_same
  all_goals simp only [AgpsObjects.setInactive, use_of_live (ok.live entry mem)]

theorem MemoryOk.notifyRsrcStatus_self {ptr : SubscriberPtr}
    (live : ∀ address, ptr = .object address → address ∈ machine.mSubscribers)
    {status : AgpsRsrcStatus} (known : Known status) (delete : Bool) :
    (machine.notifyRsrcStatus memory freed ptr ⟨.rcver ptr, status, delete⟩).2 =
      informAll status [machine.deref freed ptr] machine := by
  have same : machine.usePtr ptr = machine := by
    cases ptr with
    | client _ => rfl
    | object address => exact use_of_live (ok.live address (live address rfl))
  rcases statusMessage_isSome (machine.deref freed ptr) known with ⟨message, isMessage⟩
  simp [notifyRsrcStatus, forMe, same, useReceiver, notification, receiver,
    Subscriber.forMe, equals_self, isMessage, informAll]

variable (mem : entry ∈ machine.mSubscribers)

include mem

theorem MemoryOk.lasts_iff (status : AgpsRsrcStatus) (delete : Bool) :
    machine.Lasts memory freed ⟨.rcver (.object entry), status, delete⟩ ↔
      machine.LastAlike memory entry := by
  have takes : machine.takes memory freed ⟨.rcver (.object entry), status, delete⟩ =
      fun other => (machine.objects other).equals memory (machine.objects entry) := by
    funext other
    simp only [takes, notification, receiver, deref, read_of_live (ok.live entry mem),
      Subscriber.forMe]
  constructor
  · intro lasts
    rcases lasts entry rfl with ⟨others, last⟩
    rw [takes] at others
    exact ⟨others, last⟩
  · rintro ⟨others, last⟩ other isOther
    cases isOther
    rw [takes]
    exact ⟨others, last⟩

theorem MemoryOk.leave (leavesLast : (machine.objects entry).waitForCloseComplete = false →
      machine.LastAlike memory entry) :
    (machine.leave memory freed entry).MemoryOk := by
  simp only [AgpsObjects.leave, read_of_live (ok.live entry mem), use_of_live (ok.live entry mem)]
  split
  · exact ok.setInactive mem
  · rename_i notWaiting
    rw [Bool.not_eq_true] at notWaiting
    apply ok.notifySubscribers (by simp [Known])
    · intro _
      exact (ok.lasts_iff mem .unsubscribe true).mpr (leavesLast notWaiting)
    · exact ok.live entry mem

theorem MemoryOk.leave_stale (notWaiting : (machine.objects entry).waitForCloseComplete = false)
    (notLast : ¬machine.LastAlike memory entry) :
    (machine.leave memory freed entry).stale ≠ [] := by
  simp only [AgpsObjects.leave, read_of_live (ok.live entry mem), use_of_live (ok.live entry mem),
    notWaiting, Bool.false_eq_true, if_false, AgpsObjects.notifySubscribers, if_true]
  apply notifyLoop_stale (by simp [Known]) rfl _ le_rfl ok.live ok.nodup rfl mem
  rw [ok.lasts_iff mem]
  exact notLast

end

theorem grows_hasActiveSubscribers (memory : SubscriberKind → List UInt8)
    (freed : ℕ → Subscriber) (machine : AgpsObjects) :
    machine.Grows (machine.hasActiveSubscribers memory freed).2 :=
  grows_searchHas memory freed .broadcastActive machine.mSubscribers machine

theorem leave_grows_unsubscribe (machine : AgpsObjects) (entry : ℕ) :
    (machine.leave memory freed entry).Grows (machine.unsubscribe memory freed send entry) := by
  simp only [unsubscribe]
  split
  · exact grows_sendRsrcRequest memory freed _ send .releaseAgpsDataConn
  · have grows := grows_hasActiveSubscribers memory freed (machine.leave memory freed entry)
    split
    · rename_i next isNext
      rw [isNext] at grows
      exact grows
    · rename_i next isNext
      rw [isNext] at grows
      exact grows.trans (grows_sendRsrcRequest memory freed next send .releaseAgpsDataConn)

theorem MemoryOk.withState (ok : machine.MemoryOk) (state : AgpsState) :
    ({ machine with mStatePtr := state } : AgpsObjects).MemoryOk := ok.of_same rfl rfl rfl rfl

theorem MemoryOk.unsubscribe (ok : machine.MemoryOk) (mem : entry ∈ machine.mSubscribers)
    (leavesLast : (machine.objects entry).waitForCloseComplete = false →
      machine.LastAlike memory entry) :
    (machine.unsubscribe memory freed send entry).MemoryOk := by
  have left : (machine.leave memory freed entry).MemoryOk := ok.leave mem leavesLast
  simp only [AgpsObjects.unsubscribe]
  split
  · exact (left.sendRsrcRequest _).withState _
  · have same := left.hasActiveSubscribers_snd memory freed
    split
    · rename_i next isNext
      rw [isNext] at same
      simp only at same
      rw [same]
      exact left
    · rename_i next isNext
      rw [isNext] at same
      simp only at same
      rw [same]
      exact (left.sendRsrcRequest _).withState _

end Spec

section Steps

section

variable (ok : machine.MemoryOk)

include ok

theorem MemoryOk.closed {status : AgpsRsrcStatus} (known : Known status) :
    (machine.closed memory freed send status).MemoryOk := by
  have told : (machine.notifySubscribers memory freed
      ⟨.broadcastInactive, status, true⟩).MemoryOk := ok.broadcast known (by simp)
  have same := told.hasActiveSubscribers_snd memory freed
  simp only [AgpsObjects.closed]
  split
  · rename_i next isNext
    rw [isNext] at same
    simp only at same
    rw [same]
    exact (told.sendRsrcRequest _).withState _
  · rename_i next isNext
    rw [isNext] at same
    simp only at same
    rw [same]
    exact told.withState _

theorem MemoryOk.subscribe (subscriber : Subscriber) :
    (machine.stateOnRsrcEvent memory freed send (.subscribe subscriber)).MemoryOk := by
  have added : (machine.addSubscriber memory freed subscriber).MemoryOk :=
    ok.addSubscriber subscriber
  simp only [stateOnRsrcEvent]
  split
  · simp only [releasedOnRsrcEvent]
    have sent : ((machine.addSubscriber memory freed subscriber).sendRsrcRequest memory freed send
        .requestAgpsDataConn).2.MemoryOk := added.sendRsrcRequest .requestAgpsDataConn
    split
    · exact sent.withState _
    · exact sent
  · exact added
  · simp only [acquiredOnRsrcEvent]
    rw [ok.notifyRsrcStatus_self (by simp) known_granted]
    exact (ok.sameMemory (sameMemory_informAll _ _ machine)).addSubscriber subscriber
  · exact added

theorem MemoryOk.unsubscribe_iff (mem : entry ∈ machine.mSubscribers) :
    (machine.stateOnRsrcEvent memory freed send (.unsubscribe entry)).MemoryOk ↔
      (machine.mStatePtr ≠ .released → (machine.objects entry).waitForCloseComplete = false →
        machine.LastAlike memory entry) := by
  have stale : ∀ {next : AgpsObjects}, (machine.leave memory freed entry).Grows next →
      next.MemoryOk → (machine.objects entry).waitForCloseComplete = false →
        machine.LastAlike memory entry := by
    intro next grows nextOk notWaiting
    by_contra notLast
    exact grows.stale_ne (ok.leave_stale mem notWaiting notLast) nextOk.unused
  simp only [stateOnRsrcEvent]
  cases state : machine.mStatePtr with
  | released =>
      simp only [releasedOnRsrcEvent, ne_eq, not_true_eq_false, false_imp_iff, iff_true]
      rw [ok.notifyRsrcStatus_self (by simpa using mem) (by simp [Known])]
      exact ok.sameMemory (sameMemory_informAll _ _ machine)
  | pending =>
      simp only [pendingOnRsrcEvent, ne_eq, reduceCtorEq, not_false_eq_true, forall_const]
      exact ⟨stale (leave_grows_unsubscribe machine entry), ok.unsubscribe mem⟩
  | acquired =>
      simp only [acquiredOnRsrcEvent, ne_eq, reduceCtorEq, not_false_eq_true, forall_const]
      exact ⟨stale (leave_grows_unsubscribe machine entry), ok.unsubscribe mem⟩
  | releasing =>
      simp only [releasingOnRsrcEvent, ne_eq, reduceCtorEq, not_false_eq_true, forall_const]
      constructor
      · intro nextOk
        refine stale ?_ nextOk
        split
        · exact Grows.refl _
        · exact Grows.refl _
      · intro leavesLast
        have left : (machine.leave memory freed entry).MemoryOk := ok.leave mem leavesLast
        split
        · exact left.withState _
        · exact left

end

theorem refused_eq (machine : AgpsObjects) (subscriber : Subscriber) :
    (machine.notifySubscriber memory freed ⟨.broadcastAll, .denied, true⟩ (.client subscriber)).2 =
      informAll .denied [subscriber] machine := by
  rcases statusMessage_isSome subscriber known_denied with ⟨message, isMessage⟩
  simp [notifySubscriber, notifyRsrcStatus, forMe, usePtr, useReceiver, notification,
    receiver, deref, Subscriber.forMe, isMessage, informAll]

theorem MemoryOk.fresh (ok : machine.MemoryOk) : machine.fresh.MemoryOk :=
  ok.of_same rfl rfl rfl rfl

theorem MemoryOk.call_iff (ok : machine.MemoryOk) (call : Call) :
    (machine.call memory freed call).MemoryOk ↔ machine.LeavesLast memory call := by
  have freshOk := ok.fresh
  cases call with
  | retryCallback =>
      simp only [call, retryCallback, ok.searchHas_eq .broadcastActive trivial,
        ok.use_active, LeavesLast, iff_true]
      exact ok
  | agps call send =>
      cases call with
      | subscribeRsrc subscriber =>
          simp only [call, subscribeRsrc, LeavesLast, iff_true]
          split
          · rw [refused_eq]
            exact freshOk.sameMemory (sameMemory_informAll _ _ machine.fresh)
          · exact freshOk.subscribe subscriber
      | unsubscribeRsrc subscriber =>
          simp only [call, unsubscribeRsrc, freshOk.found_eq, LeavesLast]
          have same : machine.fresh.found memory subscriber = machine.found memory subscriber := rfl
          cases isFound : machine.found memory subscriber with
          | none => simp [same, isFound, freshOk]
          | some entry =>
              have mem := List.mem_of_find?_eq_some isFound
              have alike : machine.fresh.LastAlike memory entry ↔
                  machine.LastAlike memory entry :=
                ⟨fun alike => ⟨alike.others, alike.last⟩, fun alike => ⟨alike.others, alike.last⟩⟩
              simp only [same, isFound, Option.some.injEq, forall_eq', ← alike]
              exact freshOk.unsubscribe_iff mem
      | granted =>
          simp only [call, stateOnRsrcEvent, LeavesLast, iff_true]
          split
          · exact freshOk
          · exact (freshOk.broadcast known_granted (by simp)).withState _
          · exact freshOk
          · exact freshOk
      | released =>
          simp only [call, stateOnRsrcEvent, LeavesLast, iff_true]
          split
          · exact freshOk
          · exact freshOk
          · exact (freshOk.broadcast known_released (by simp)).withState _
          · exact freshOk.closed known_released
      | denied =>
          simp only [call, stateOnRsrcEvent, LeavesLast, iff_true]
          split
          · exact freshOk
          · exact (freshOk.broadcast known_denied (by simp)).withState _
          · exact freshOk
          · exact freshOk.closed known_denied

end Steps

def IsInit (machine : AgpsObjects) : Prop :=
  ∃ enforceSingleSubscriber, machine = new enforceSingleSubscriber

def Step (memory : SubscriberKind → List UInt8) (freed : ℕ → Subscriber) (machine : AgpsObjects)
    (call : Call) (next : AgpsObjects) : Prop := next = machine.call memory freed call

theorem memoryOk_new (enforceSingleSubscriber : Bool) : (new enforceSingleSubscriber).MemoryOk :=
  ⟨rfl, by simp [new], by simp [new], by simp [new]⟩

/-- As long as those that leave at once are the last ones in the list, every object is deleted once
and none is used after that; a call that is no such step uses a deleted object. -/
theorem reachable_memoryOk
    (reached : Run.Reachable IsInit (Run.Guarded (LeavesLast memory) (Step memory freed))
      machine) :
    machine.MemoryOk ∧
      ∀ call, (machine.call memory freed call).MemoryOk ↔ machine.LeavesLast memory call := by
  have ok : machine.MemoryOk := by
    apply reached.invariant MemoryOk
    · rintro _ ⟨enforceSingleSubscriber, rfl⟩
      exact memoryOk_new enforceSingleSubscriber
    · rintro machine call _ ok ⟨leavesLast, rfl⟩
      exact (ok.call_iff call).mpr leavesLast
  exact ⟨ok, ok.call_iff⟩

section Runs

/-- A notification of one subscriber after the other: the first one leaves, and the second one is
compared with it. -/
theorem not_memoryOk :
    ¬∀ (memory : SubscriberKind → List UInt8) (freed : ℕ → Subscriber) (machine : AgpsObjects),
      Run.Reachable IsInit (Step memory freed) machine → machine.MemoryOk := by
  intro always
  have ok := always (fun _ => []) (fun _ => ⟨0, .ds, false⟩) _
    (.next (.agps (.unsubscribeRsrc ⟨1, .atl false, false⟩) AgpsStateMachine.sendRsrcRequest)
      (.next (.agps (.subscribeRsrc ⟨2, .atl false, false⟩) AgpsStateMachine.sendRsrcRequest)
        (.next (.agps (.subscribeRsrc ⟨1, .atl false, false⟩) AgpsStateMachine.sendRsrcRequest)
          (.start ⟨false, rfl⟩) rfl) rfl) rfl)
  exact absurd ok.unused (by decide)

theorem reachable_memoryOk_released :
    ∃ machine : AgpsObjects, machine.allocated = 3 ∧ machine.mSubscribers = [] ∧
      machine.MemoryOk := by
  refine ⟨_, ?_, ?_, (@reachable_memoryOk (fun _ => []) (fun _ => ⟨0, .ds, false⟩) _
    (.next (.agps (.unsubscribeRsrc ⟨3, .atl false, false⟩) AgpsStateMachine.sendRsrcRequest)
      (.next (.agps (.subscribeRsrc ⟨3, .atl false, false⟩) AgpsStateMachine.sendRsrcRequest)
        (.next (.agps .released AgpsStateMachine.sendRsrcRequest)
          (.next (.agps .granted AgpsStateMachine.sendRsrcRequest)
            (.next (.agps (.subscribeRsrc ⟨2, .wifi none none, false⟩)
                AgpsStateMachine.sendRsrcRequest)
              (.next (.agps (.subscribeRsrc ⟨1, .atl false, false⟩)
                  AgpsStateMachine.sendRsrcRequest)
                (.start ⟨false, rfl⟩) ⟨trivial, rfl⟩) ⟨trivial, rfl⟩) ⟨trivial, rfl⟩)
          ⟨trivial, rfl⟩) ⟨trivial, rfl⟩) ⟨?_, rfl⟩)).1⟩
  · decide
  · decide
  · rintro - entry isFound -
    have isThird : some 2 = some entry := Eq.trans (by decide) isFound
    cases isThird
    exact ⟨by decide, by decide⟩

end Runs

end AgpsObjects

end HtcPme.Gps
