import HtcPme.Gps.AgpsObjectsRun

/-!
# The machine of the objects

As long as no deleted object is used, a machine on its objects is the machine whose list holds the
subscribers themselves.
-/

namespace HtcPme.Gps

namespace AgpsObjects

open Subscriber List Function

variable {memory : SubscriberKind → List UInt8} {freed : ℕ → Subscriber}
  {machine next : AgpsObjects}
  {notice : NotificationPtr} {send : AgpsStateMachine.SendRsrcRequest} {subscriber : Subscriber}
  {entry : ℕ}

def RequestsOnly (send : AgpsStateMachine.SendRsrcRequest) : Prop :=
  ∀ action machine, (send action machine).2 =
    { machine with
      mRetries := (send action machine).2.mRetries
      timers := (send action machine).2.timers
      messages := (send action machine).2.messages
      requests := (send action machine).2.requests }

theorem requestsOnly_sendRsrcRequest : RequestsOnly AgpsStateMachine.sendRsrcRequest := by
  intro action machine
  simp only [AgpsStateMachine.sendRsrcRequest]
  split <;> rfl

section View

theorem view_informAll (status : AgpsRsrcStatus) (subscribers : List Subscriber)
    (machine : AgpsObjects) :
    (informAll status subscribers machine).view freed =
      AgpsStateMachine.informAll status subscribers (machine.view freed) := by
  induction subscribers generalizing machine with
  | nil => rfl
  | cons subscriber rest ih =>
      rw [AgpsStateMachine.informAll_cons]
      exact ih _

section

variable (ok : machine.MemoryOk)

include ok

theorem MemoryOk.map_read (freed : ℕ → Subscriber) :
    machine.mSubscribers.map (machine.read freed) = machine.mSubscribers.map machine.objects := by
  apply map_congr_left
  intro address mem
  exact read_of_live (ok.live address mem)

theorem MemoryOk.filter_takes (memory : SubscriberKind → List UInt8)
    (freed : ℕ → Subscriber) (notice : NotificationPtr) (change : Bool → Bool) :
    (machine.mSubscribers.filter fun address =>
        change (machine.takes memory freed notice address)).map machine.objects =
      (machine.view freed).mSubscribers.filter fun subscriber =>
        change (subscriber.forMe memory (machine.notification freed notice)) := by
  simp only [view, ok.map_read, filter_map]
  rfl

theorem MemoryOk.view_dropAll :
    (machine.dropAll memory freed notice).view freed =
      { AgpsStateMachine.informAll notice.rsrcStatus
          ((machine.view freed).mSubscribers.filter
            (·.forMe memory (machine.notification freed notice))) (machine.view freed) with
        mSubscribers := (machine.view freed).mSubscribers.filter
          (!·.forMe memory (machine.notification freed notice)) } := by
  have told := ok.filter_takes memory freed notice fun taken => taken
  have kept := ok.filter_takes memory freed notice (!·)
  have list : ((machine.dropAll memory freed notice).view freed).mSubscribers =
      (machine.view freed).mSubscribers.filter
        (!·.forMe memory (machine.notification freed notice)) := by
    rw [← kept]
    apply map_congr_left
    intro address mem
    have dropped : (machine.dropAll memory freed notice).MemoryOk := ok.dropAll
    rw [read_of_live (dropped.live address mem)]
    exact congrFun (sameMemory_informAll notice.rsrcStatus _ machine).objects address
  have rest : (machine.dropAll memory freed notice).view freed =
      { (informAll notice.rsrcStatus ((machine.mSubscribers.filter
          (machine.takes memory freed notice)).map machine.objects) machine).view freed with
        mSubscribers := ((machine.dropAll memory freed notice).view freed).mSubscribers } := rfl
  rw [rest, list, view_informAll, told]

theorem MemoryOk.view_notifySubscribers (known : Known notice.rsrcStatus)
    (lasts : machine.mSubscribers ≠ [] → machine.Lasts memory freed notice)
    (liveReceiver : machine.LiveReceiver notice.receiver) :
    (machine.notifySubscribers memory freed notice).view freed =
      (machine.view freed).notifySubscribers memory (machine.notification freed notice) := by
  have knownView : Known (machine.notification freed notice).rsrcStatus := known
  have status : (machine.notification freed notice).rsrcStatus = notice.rsrcStatus := rfl
  have delete : (machine.notification freed notice).postNotifyDelete =
      notice.postNotifyDelete := rfl
  rw [ok.notifySubscribers_eq known lasts liveReceiver,
    AgpsStateMachine.notifySubscribers_eq knownView, status, delete]
  cases notice.postNotifyDelete with
  | true => exact ok.view_dropAll
  | false =>
      have told := ok.filter_takes memory freed notice fun taken => taken
      simp only [Bool.false_eq_true, if_false]
      rw [view_informAll, told]
      exact AgpsStateMachine.informAll_withSubscribers (machine.view freed) _ _
        (machine.view freed).mSubscribers

theorem MemoryOk.view_broadcast (known : Known notice.rsrcStatus)
    (isBroadcast : ∀ ptr, notice.receiver ≠ .rcver ptr) :
    (machine.notifySubscribers memory freed notice).view freed =
      (machine.view freed).notifySubscribers memory (machine.notification freed notice) := by
  apply ok.view_notifySubscribers known
  · intro _ entry receiver
    exact absurd receiver (isBroadcast (.object entry))
  · cases receiver : notice.receiver with
    | rcver ptr => exact absurd receiver (isBroadcast ptr)
    | broadcastAll => trivial
    | broadcastActive => trivial
    | broadcastInactive => trivial

theorem MemoryOk.view_sendRsrcRequest
    (memory : SubscriberKind → List UInt8) (freed : ℕ → Subscriber) (requests : RequestsOnly send)
    (action : AGpsStatusValue) :
    (machine.sendRsrcRequest memory freed send action).1 =
        (send action (machine.view freed)).1 ∧
      (machine.sendRsrcRequest memory freed send action).2.view freed =
        (send action (machine.view freed)).2 := by
  rw [ok.sendRsrcRequest_eq]
  refine ⟨rfl, ?_⟩
  rw [requests action (machine.view freed)]
  rfl

end

theorem view_hasSubscribers (machine : AgpsObjects) :
    (machine.view freed).hasSubscribers = machine.hasSubscribers := by
  simp [AgpsStateMachine.hasSubscribers, hasSubscribers, view]

section

variable (ok : machine.MemoryOk)

include ok

theorem MemoryOk.view_hasActiveSubscribers :
    machine.hasActiveSubscribers memory freed =
      ((machine.view freed).hasActiveSubscribers, machine) := by
  simp only [hasActiveSubscribers, ok.searchHas_eq .broadcastActive trivial,
    AgpsStateMachine.hasActiveSubscribers, AgpsStateMachine.firstActive, view, ok.map_read,
    find?_map, Option.isSome_map]
  rfl

theorem MemoryOk.view_found (subscriber : Subscriber) :
    ((machine.view freed).mSubscribers.find? fun entry => entry.equals memory subscriber) =
      (machine.found memory subscriber).map machine.objects := by
  simp only [view, ok.map_read, find?_map, found]
  rfl

theorem MemoryOk.view_addSubscriber (subscriber : Subscriber) :
    (machine.addSubscriber memory freed subscriber).view freed =
      (machine.view freed).addSubscriber memory subscriber := by
  have isNew : ∀ address ∈ machine.mSubscribers, address ≠ machine.allocated :=
    fun address mem => (ok.listed address mem).ne
  have notDeleted : machine.deletions machine.allocated = 0 := by
    rw [ok.deletedOnce]
    simp
  rw [ok.addSubscriber_eq, AgpsStateMachine.addSubscriber, ok.view_found, Option.isSome_map]
  split
  · rfl
  · have old : (machine.mSubscribers.map fun address =>
        if machine.deletions address = 0 then
          update machine.objects machine.allocated subscriber.clone address
        else freed address) = machine.mSubscribers.map (machine.read freed) := by
      apply map_congr_left
      intro address mem
      simp only [read, update_of_ne (isNew address mem)]
    simp only [view, map_cons]
    congr 2
    · simp [read, notDeleted]

end

theorem map_inactivate {objects : ℕ → Subscriber} {addresses : List ℕ} (nodup : addresses.Nodup)
    (isFound : addresses.find? (fun address => (objects address).equals memory subscriber) =
      some entry) :
    addresses.map (update objects entry { objects entry with mIsInactive := true }) =
      AgpsStateMachine.inactivate memory subscriber (addresses.map objects) := by
  induction addresses with
  | nil => simp at isFound
  | cons first rest ih =>
      rcases nodup_cons.mp nodup with ⟨notMem, nodupRest⟩
      simp only [map_cons, AgpsStateMachine.inactivate]
      rw [find?_cons] at isFound
      split at isFound
      · rename_i isFirst
        cases isFound
        have others : rest.map (update objects entry
            { objects entry with mIsInactive := true }) = rest.map objects := by
          apply map_congr_left
          intro other mem
          apply update_of_ne
          rintro rfl
          exact notMem mem
        simp [isFirst, others]
      · rename_i notFirst
        have differs : first ≠ entry := by
          rintro rfl
          have holds := find?_some isFound
          simp [notFirst] at holds
        simp only [notFirst, Bool.false_eq_true, if_false, update_of_ne differs]
        rw [ih nodupRest isFound]

variable (ok : machine.MemoryOk)

include ok

theorem MemoryOk.view_setInactive (isFound : machine.found memory subscriber = some entry) :
    (machine.setInactive freed entry).view freed =
      (machine.view freed).setInactive memory subscriber (machine.objects entry) := by
  have mem := mem_of_find?_eq_some isFound
  have inactive : (machine.setInactive freed entry).MemoryOk := ok.setInactive mem
  have list := inactive.map_read freed
  have isLive := ok.live entry mem
  have objects : (machine.setInactive freed entry).objects =
      update machine.objects entry
        { machine.objects entry with mIsInactive := true } := by
    simp only [AgpsObjects.setInactive, read_of_live isLive]
  have subscribers : (machine.setInactive freed entry).mSubscribers = machine.mSubscribers := by
    simp only [AgpsObjects.setInactive, use_of_live isLive]
  rw [objects, subscribers, map_inactivate ok.nodup isFound] at list
  have rest : (machine.setInactive freed entry).view freed =
      { ((machine.setInactive freed entry).view freed) with
        mSubscribers :=
          machine.mSubscribers.map ((machine.setInactive freed entry).read freed) } := by
    rw [← subscribers]
    rfl
  rw [rest, list]
  simp only [AgpsStateMachine.setInactive, view, AgpsObjects.setInactive, use_of_live isLive,
    read_of_live isLive, ok.map_read]

theorem MemoryOk.view_leave (isFound : machine.found memory subscriber = some entry)
    (leavesLast : (machine.objects entry).waitForCloseComplete = false →
      machine.LastAlike memory entry) :
    (machine.leave memory freed entry).view freed =
      (machine.view freed).leave memory subscriber (machine.objects entry) := by
  have mem := mem_of_find?_eq_some isFound
  have isLive := ok.live entry mem
  simp only [AgpsObjects.leave, AgpsStateMachine.leave, read_of_live isLive, use_of_live isLive]
  split
  · exact ok.view_setInactive isFound
  · rename_i notWaiting
    rw [Bool.not_eq_true] at notWaiting
    rw [ok.view_notifySubscribers (by simp [Known])]
    · simp only [notification, receiver, deref, read_of_live isLive]
    · intro _
      exact (ok.lasts_iff mem .unsubscribe true).mpr (leavesLast notWaiting)
    · exact isLive

section

variable (requests : RequestsOnly send)

include requests

theorem MemoryOk.view_unsubscribe (isFound : machine.found memory subscriber = some entry)
    (leavesLast : (machine.objects entry).waitForCloseComplete = false →
      machine.LastAlike memory entry) :
    (machine.unsubscribe memory freed send entry).view freed =
      (machine.view freed).unsubscribe memory send subscriber (machine.objects entry) := by
  have left : (machine.leave memory freed entry).MemoryOk :=
    ok.leave (mem_of_find?_eq_some isFound) leavesLast
  have sent := left.view_sendRsrcRequest memory freed requests .releaseAgpsDataConn
  simp only [AgpsObjects.unsubscribe, AgpsStateMachine.unsubscribe,
    ← ok.view_leave isFound leavesLast,
    view_hasSubscribers, left.view_hasActiveSubscribers]
  split
  · rw [← sent.2]
    rfl
  · cases ((machine.leave memory freed entry).view freed).hasActiveSubscribers with
    | true => rfl
    | false =>
        simp only [Bool.not_false, if_true]
        rw [← sent.2]
        rfl

theorem MemoryOk.view_closed {status : AgpsRsrcStatus} (known : Known status) :
    (machine.closed memory freed send status).view freed =
      (machine.view freed).closed memory send status := by
  have told : (machine.notifySubscribers memory freed
      ⟨.broadcastInactive, status, true⟩).MemoryOk := ok.broadcast known (by simp)
  have sent := told.view_sendRsrcRequest memory freed requests .requestAgpsDataConn
  have same : (machine.notifySubscribers memory freed ⟨.broadcastInactive, status, true⟩).view
      freed = (machine.view freed).notifySubscribers memory ⟨.broadcastInactive, status, true⟩ :=
    ok.view_broadcast known (by simp)
  simp only [AgpsObjects.closed, AgpsStateMachine.closed, ← same, told.view_hasActiveSubscribers]
  cases ((machine.notifySubscribers memory freed
      ⟨.broadcastInactive, status, true⟩).view freed).hasActiveSubscribers with
  | true =>
      simp only [if_true]
      rw [← sent.2]
      rfl
  | false => rfl

theorem MemoryOk.view_subscribe (subscriber : Subscriber) :
    (machine.stateOnRsrcEvent memory freed send (.subscribe subscriber)).view freed =
      (machine.view freed).stateOnRsrcEvent memory send (.subscribe subscriber) := by
  have added : (machine.addSubscriber memory freed subscriber).MemoryOk :=
    ok.addSubscriber subscriber
  have same : (machine.addSubscriber memory freed subscriber).view freed =
      (machine.view freed).addSubscriber memory subscriber := ok.view_addSubscriber subscriber
  have state : (machine.view freed).mStatePtr = machine.mStatePtr := rfl
  simp only [stateOnRsrcEvent, AgpsStateMachine.stateOnRsrcEvent, state]
  cases machine.mStatePtr with
  | released =>
      have sent := added.view_sendRsrcRequest memory freed requests .requestAgpsDataConn
      simp only [releasedOnRsrcEvent, AgpsStateMachine.releasedOnRsrcEvent, ← same, sent.1]
      split
      · rw [← sent.2]
        rfl
      · exact sent.2
  | pending => exact same
  | releasing => exact same
  | acquired =>
      simp only [acquiredOnRsrcEvent, AgpsStateMachine.acquiredOnRsrcEvent]
      rw [ok.notifyRsrcStatus_self (by simp) known_granted,
        AgpsStateMachine.notifyRsrcStatus_self known_granted]
      have told : (informAll .granted [subscriber] machine).MemoryOk :=
        ok.sameMemory (sameMemory_informAll .granted [subscriber] machine)
      simp only [deref]
      rw [told.view_addSubscriber, view_informAll]

theorem MemoryOk.view_unsubscribeEvent (isFound : machine.found memory subscriber = some entry)
    (leavesLast : machine.mStatePtr ≠ .released →
      (machine.objects entry).waitForCloseComplete = false → machine.LastAlike memory entry) :
    (machine.stateOnRsrcEvent memory freed send (.unsubscribe entry)).view freed =
      (machine.view freed).stateOnRsrcEvent memory send
        (.unsubscribe subscriber (machine.objects entry)) := by
  have mem := mem_of_find?_eq_some isFound
  have isState : (machine.view freed).mStatePtr = machine.mStatePtr := rfl
  simp only [stateOnRsrcEvent, AgpsStateMachine.stateOnRsrcEvent, isState]
  cases state : machine.mStatePtr with
  | released =>
      simp only [releasedOnRsrcEvent, AgpsStateMachine.releasedOnRsrcEvent]
      rw [ok.notifyRsrcStatus_self (by simpa using mem) (by simp [Known]),
        AgpsStateMachine.notifyRsrcStatus_self (by simp [Known]), view_informAll]
      simp only [deref, read_of_live (ok.live entry mem)]
  | pending | acquired => exact ok.view_unsubscribe requests isFound (leavesLast (by simp [state]))
  | releasing =>
      simp only [releasingOnRsrcEvent, AgpsStateMachine.releasingOnRsrcEvent,
        ← ok.view_leave isFound (leavesLast (by simp [state])), view_hasSubscribers]
      split <;> rfl

end

theorem MemoryOk.view_call (call : AgpsStateMachine.Call)
    (leavesLast : machine.LeavesLast memory (.agps call AgpsStateMachine.sendRsrcRequest)) :
    (machine.call memory freed (.agps call AgpsStateMachine.sendRsrcRequest)).view freed =
      (machine.view freed).call memory call := by
  have freshOk := ok.fresh
  have requests := requestsOnly_sendRsrcRequest
  have same : (machine.view freed).fresh = machine.fresh.view freed := rfl
  have isState : (machine.fresh.view freed).mStatePtr = machine.fresh.mStatePtr := rfl
  cases call with
  | subscribeRsrc subscriber =>
      have enforced : (machine.fresh.view freed).mEnforceSingleSubscriber =
          machine.fresh.mEnforceSingleSubscriber := rfl
      simp only [call, AgpsStateMachine.call, subscribeRsrc,
        AgpsStateMachine.subscribeRsrc, same, view_hasSubscribers, enforced]
      split
      · have forAll : subscriber.forMe memory ⟨.broadcastAll, .denied, true⟩ = true := rfl
        rw [refused_eq, view_informAll,
          AgpsStateMachine.notifySubscriber_of_forMe known_denied forAll]
      · exact freshOk.view_subscribe requests subscriber
  | unsubscribeRsrc subscriber =>
      simp only [call, AgpsStateMachine.call, unsubscribeRsrc, freshOk.found_eq,
        AgpsStateMachine.unsubscribeRsrc, same, freshOk.view_found]
      cases isFound : machine.fresh.found memory subscriber with
      | none => rfl
      | some entry =>
          apply freshOk.view_unsubscribeEvent requests isFound
          intro notReleased notWaiting
          have alike := leavesLast notReleased entry isFound notWaiting
          exact ⟨alike.others, alike.last⟩
  | granted =>
      simp only [call, AgpsStateMachine.call, stateOnRsrcEvent,
        AgpsStateMachine.stateOnRsrcEvent, same, isState]
      cases machine.fresh.mStatePtr with
      | pending =>
          have told : (machine.fresh.notifySubscribers memory freed
              ⟨.broadcastActive, .granted, false⟩).view freed =
              (machine.fresh.view freed).notifySubscribers memory
                ⟨.broadcastActive, .granted, false⟩ :=
            freshOk.view_broadcast known_granted (by simp)
          simp only [pendingOnRsrcEvent, AgpsStateMachine.pendingOnRsrcEvent]
          rw [← told]
          rfl
      | released => rfl
      | acquired => rfl
      | releasing => rfl
  | released =>
      simp only [call, AgpsStateMachine.call, stateOnRsrcEvent,
        AgpsStateMachine.stateOnRsrcEvent, same, isState]
      cases machine.fresh.mStatePtr with
      | acquired =>
          have told : (machine.fresh.notifySubscribers memory freed
              ⟨.broadcastAll, .released, true⟩).view freed =
              (machine.fresh.view freed).notifySubscribers memory
                ⟨.broadcastAll, .released, true⟩ :=
            freshOk.view_broadcast known_released (by simp)
          simp only [acquiredOnRsrcEvent, AgpsStateMachine.acquiredOnRsrcEvent]
          rw [← told]
          rfl
      | releasing => exact freshOk.view_closed requests known_released
      | released => rfl
      | pending => rfl
  | denied =>
      simp only [call, AgpsStateMachine.call, stateOnRsrcEvent,
        AgpsStateMachine.stateOnRsrcEvent, same, isState]
      cases machine.fresh.mStatePtr with
      | pending =>
          have told : (machine.fresh.notifySubscribers memory freed
              ⟨.broadcastAll, .denied, true⟩).view freed =
              (machine.fresh.view freed).notifySubscribers memory ⟨.broadcastAll, .denied, true⟩ :=
            freshOk.view_broadcast known_denied (by simp)
          simp only [pendingOnRsrcEvent, AgpsStateMachine.pendingOnRsrcEvent]
          rw [← told]
          rfl
      | releasing => exact freshOk.view_closed requests known_denied
      | released => rfl
      | acquired => rfl

end View

/-- The calls of an `AgpsStateMachine`, on its objects. -/
def AgpsStep (memory : SubscriberKind → List UInt8) (freed : ℕ → Subscriber) (machine : AgpsObjects)
    (call : AgpsStateMachine.Call) (next : AgpsObjects) : Prop :=
  machine.LeavesLast memory (.agps call AgpsStateMachine.sendRsrcRequest) ∧
    next = machine.call memory freed (.agps call AgpsStateMachine.sendRsrcRequest)

end AgpsObjects

end HtcPme.Gps
