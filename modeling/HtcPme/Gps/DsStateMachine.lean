import HtcPme.Gps.AgpsRun
import Mathlib.Data.Int.Notation

/-!
# DSStateMachine

The state machine of emergency data calls, which starts a call itself and tries again after a while
when the modem is busy.
-/

namespace HtcPme.Gps

open List

namespace AgpsStateMachine

variable (memory : SubscriberKind → List UInt8) (machine : AgpsStateMachine) (ret : ℤ)

def maxStartDataCallRetries : UInt8 := 4

def errUnsupported : ℤ := 2

def errEngineBusy : ℤ := 6

/-- `informStatus` for `RSRC_DENIED`, with the connection handle of `sendRsrcRequest`. -/
def informDenied (subscriber : Option Subscriber) : AgpsStateMachine :=
  { machine with
    mRetries := 0
    messages := machine.messages ++ [.requestATL ((subscriber.map (·.id)).getD 0xFFFFFFFF)] }

/-- `DSStateMachine::sendRsrcRequest`, where `requestRsrc` answers a request to start a data call.
`loc_timer_start` answers with a timer, which is logged as an error. -/
def dsSendRsrcRequest : SendRsrcRequest := fun action machine =>
  let subscriber := machine.firstActive
  let requested := { machine with requests := machine.requests ++ [(action, subscriber)] }
  match action with
  | .releaseAgpsDataConn => (true, requested)
  | .requestAgpsDataConn =>
      if ret = errEngineBusy then
        let retried := { requested with mRetries := machine.mRetries + 1 }
        if retried.mRetries > maxStartDataCallRetries then
          (false, retried.informDenied subscriber)
        else (false, { retried with timers := machine.timers + 1 })
      else if ret = errUnsupported ∨ ret = -1 then (false, requested.informDenied subscriber)
      else (decide (ret = 0), requested)

def dsOnRsrcEvent : RsrcEvent → AgpsStateMachine
  | .released =>
      let next := machine.stateOnRsrcEvent memory (dsSendRsrcRequest ret) .released
      if next.mStatePtr ≠ machine.mStatePtr then next
      else next.stateOnRsrcEvent memory (dsSendRsrcRequest ret) .denied
  | event => machine.stateOnRsrcEvent memory (dsSendRsrcRequest ret) event

end AgpsStateMachine

structure DsStateMachine where
  machine : AgpsStateMachine
  queued : List UInt32
deriving DecidableEq

namespace DsStateMachine

open AgpsStateMachine Subscriber

variable (memory : SubscriberKind → List UInt8) (ds : DsStateMachine)

def new : DsStateMachine := ⟨AgpsStateMachine.new false, []⟩

def dsSubscriber (connHandle : UInt32) : Subscriber := ⟨connHandle, .ds, false⟩

/-- What reaches the machine: requests of the modem, data call events, a timer that expires, and a
request that a timer has queued. A data call that is started answers with `ret`. -/
inductive Call where
  | subscribeRsrc (connHandle : UInt32) (ret : ℤ)
  | unsubscribeRsrc (connHandle : UInt32)
  | granted
  | released (ret : ℤ)
  | denied (ret : ℤ)
  | retryCallback
  | retry (ret : ℤ)
deriving DecidableEq

def subscribe (connHandle : UInt32) (ret : ℤ) : AgpsStateMachine :=
  ds.machine.fresh.subscribeRsrc memory (dsSendRsrcRequest ret) (dsSubscriber connHandle)

def unsubscribe (connHandle : UInt32) : AgpsStateMachine :=
  ds.machine.fresh.unsubscribeRsrc memory (dsSendRsrcRequest 0) (dsSubscriber connHandle)

def call : Call → Option DsStateMachine
  | .subscribeRsrc connHandle ret =>
      some { ds with machine := ds.subscribe memory connHandle ret }
  | .unsubscribeRsrc connHandle => some { ds with machine := ds.unsubscribe memory connHandle }
  | .granted => some { ds with machine := ds.machine.fresh.dsOnRsrcEvent memory 0 .granted }
  | .released ret => some { ds with machine := ds.machine.fresh.dsOnRsrcEvent memory ret .released }
  | .denied ret => some { ds with machine := ds.machine.fresh.dsOnRsrcEvent memory ret .denied }
  | .retryCallback =>
      if ds.machine.timers = 0 then none
      else some
        { machine := { ds.machine.fresh with timers := ds.machine.timers - 1 }
          queued := ds.queued ++ (ds.machine.firstActive.map (·.id)).toList }
  | .retry ret =>
      match ds.queued with
      | [] => none
      | connHandle :: queued => some ⟨ds.subscribe memory connHandle ret, queued⟩

end DsStateMachine

namespace AgpsStateMachine

open Subscriber

variable {memory : SubscriberKind → List UInt8} {machine next : AgpsStateMachine} {ret : ℤ}
  {event : RsrcEvent}

section

variable (action : AGpsStatusValue)

include action

@[simp]
theorem dsSend_mSubscribers :
    (dsSendRsrcRequest ret action machine).2.mSubscribers = machine.mSubscribers := by
  simp only [dsSendRsrcRequest]
  repeat' split
  all_goals rfl

@[simp]
theorem dsSend_enforce :
    (dsSendRsrcRequest ret action machine).2.mEnforceSingleSubscriber =
      machine.mEnforceSingleSubscriber := by
  simp only [dsSendRsrcRequest]
  repeat' split
  all_goals rfl

@[simp]
theorem dsSend_mStatePtr :
    (dsSendRsrcRequest ret action machine).2.mStatePtr = machine.mStatePtr := by
  simp only [dsSendRsrcRequest]
  repeat' split
  all_goals rfl

end

theorem dsSend_release :
    dsSendRsrcRequest ret .releaseAgpsDataConn machine =
      (true, { machine with
        requests := machine.requests ++ [(.releaseAgpsDataConn, machine.firstActive)] }) := rfl

structure DsList (subscribers : List Subscriber) : Prop where
  kind : ∀ entry ∈ subscribers, entry.kind = .ds
  distinct : subscribers.Pairwise fun one other => one.id ≠ other.id

section DsList

variable {subscribers : List Subscriber} {subscriber entry : Subscriber}

theorem equals_of_ds (isDs : entry.kind = .ds) :
    entry.equals memory subscriber = (entry.id == subscriber.id) := by
  simp [equals, isDs]

theorem DsList.filter (list : DsList subscribers) (p : Subscriber → Bool) :
    DsList (subscribers.filter p) :=
  ⟨fun entry mem => list.kind entry (mem_filter.mp mem).1, list.distinct.filter p⟩

theorem DsList.inactivate (list : DsList subscribers) (subscriber : Subscriber) :
    DsList (inactivate memory subscriber subscribers) := by
  constructor
  · intro entry mem
    rcases mem_inactivate mem with same | ⟨before, isBefore, -, rfl⟩
    · exact list.kind entry same
    · exact list.kind before isBefore
  · exact pairwise_inactivate (fun _ _ _ differ => differ) (fun _ _ _ differ => differ)
      list.distinct

theorem DsList.addSubscriber (memory : SubscriberKind → List UInt8)
    (list : DsList machine.mSubscribers) (isDs : subscriber.kind = .ds) :
    DsList (machine.addSubscriber memory subscriber).mSubscribers := by
  rcases addSubscriber_cases memory machine subscriber with
    ⟨entry, mem, equal, same⟩ | ⟨none, added⟩
  · rw [same]
    exact list
  · rw [added]
    constructor
    · intro entry mem
      rcases mem_cons.mp mem with rfl | isOld
      · exact isDs
      · exact list.kind entry isOld
    · refine pairwise_cons.mpr ⟨?_, list.distinct⟩
      intro entry mem
      have differs := none entry mem
      rw [equals_of_ds (list.kind entry mem), beq_eq_false_iff_ne] at differs
      exact differs.symm

theorem inactive_of_inactivate (list : DsList subscribers)
    (mem : entry ∈ inactivate memory subscriber subscribers)
    (equal : entry.equals memory subscriber = true) : entry.isInactive = true := by
  induction subscribers with
  | nil => simp [inactivate] at mem
  | cons first rest ih =>
      rcases pairwise_cons.mp list.distinct with ⟨differs, restDistinct⟩
      have restKind := fun entry mem => list.kind entry (mem_cons_of_mem first mem)
      simp only [inactivate] at mem
      split at mem
      · rename_i found
        rcases mem_cons.mp mem with rfl | isRest
        · simp [isInactive, list.kind first mem_cons_self]
        · rw [equals_of_ds (list.kind first mem_cons_self), beq_iff_eq] at found
          rw [equals_of_ds (restKind entry isRest), beq_iff_eq] at equal
          exact absurd (found.trans equal.symm) (differs entry isRest)
      · rename_i notFound
        rcases mem_cons.mp mem with rfl | isRest
        · exact absurd equal notFound
        · exact ih ⟨restKind, restDistinct⟩ isRest

theorem exists_inactive (list : DsList subscribers)
    (found : subscribers.find? (fun entry => entry.equals memory subscriber) = some entry) :
    ∃ entry ∈ inactivate memory subscriber subscribers, entry.isInactive = true := by
  induction subscribers with
  | nil => simp at found
  | cons first rest ih =>
      simp only [inactivate]
      split
      · refine ⟨_, mem_cons_self, ?_⟩
        simp [isInactive, list.kind first mem_cons_self]
      · rename_i notFirst
        rw [Bool.not_eq_true] at notFirst
        simp only [find?_cons, notFirst] at found
        have restList : DsList rest :=
          ⟨fun entry mem => list.kind entry (mem_cons_of_mem first mem),
            (pairwise_cons.mp list.distinct).2⟩
        rcases ih restList found with ⟨entry, mem, isInactive⟩
        exact ⟨entry, mem_cons_of_mem first mem, isInactive⟩

end DsList

def DsEvent (memory : SubscriberKind → List UInt8) (machine : AgpsStateMachine) :
    RsrcEvent → Prop
  | .subscribe subscriber => subscriber.kind = .ds
  | .unsubscribe subscriber entry =>
      machine.mSubscribers.find? (fun entry => entry.equals memory subscriber) = some entry
  | _ => True

structure DsInv (machine : AgpsStateMachine) : Prop where
  list : DsList machine.mSubscribers
  enforce : machine.mEnforceSingleSubscriber = false
  releasing : machine.mStatePtr = .releasing →
    ∃ entry ∈ machine.mSubscribers, entry.isInactive = true

structure Quiet (machine next : AgpsStateMachine) : Prop where
  inv : DsInv next
  timers : next.timers = machine.timers
  retries : next.mRetries = machine.mRetries ∨ next.mRetries = 0
  requests : ∀ request ∈ next.requests, request ∈ machine.requests ∨ request.1 =
    .releaseAgpsDataConn
  released : next.mStatePtr = .released →
    machine.mStatePtr = .released ∧ next.mSubscribers = machine.mSubscribers ∨
      ∀ entry ∈ next.mSubscribers, entry.isInactive = true

theorem Quiet.refl (inv : DsInv machine) : Quiet machine machine :=
  ⟨inv, rfl, Or.inl rfl, fun _ mem => Or.inl mem, fun released => Or.inl ⟨released, rfl⟩⟩

theorem Quiet.trans {middle : AgpsStateMachine} (first : Quiet machine middle)
    (second : Quiet middle next) : Quiet machine next where
  inv := second.inv
  timers := second.timers.trans first.timers
  retries := by
    rcases second.retries with same | zero
    · rw [same]
      exact first.retries
    · exact Or.inr zero
  requests := by
    intro request mem
    rcases second.requests request mem with isOld | release
    · exact first.requests request isOld
    · exact Or.inr release
  released := by
    intro released
    rcases second.released released with ⟨wasReleased, same⟩ | inactive
    · rw [same]
      exact first.released wasReleased
    · exact Or.inr inactive

section Quiet

variable {subscriber entry : Subscriber} {status : AgpsRsrcStatus}

theorem informAll_mRetries (status : AgpsRsrcStatus) (told : List Subscriber)
    (machine : AgpsStateMachine) :
    (informAll status told machine).mRetries = machine.mRetries ∨
      (informAll status told machine).mRetries = 0 := by
  induction told generalizing machine with
  | nil => exact Or.inl rfl
  | cons first rest ih =>
      rw [informAll_cons]
      rcases ih (machine.inform first status ((first.statusMessage status).getD none)) with
        same | zero
      · rw [same]
        simp only [inform]
        split
        · exact Or.inr rfl
        · exact Or.inl rfl
      · exact Or.inr zero

theorem Quiet.informAll (inv : DsInv machine) (status : AgpsRsrcStatus) (told : List Subscriber) :
    Quiet machine (informAll status told machine) where
  inv := ⟨by simpa using inv.list, by simpa using inv.enforce, by simpa using inv.releasing⟩
  timers := by simp
  retries := informAll_mRetries status told machine
  requests := by simp +contextual
  released := by simp +contextual

theorem Quiet.addSubscriber (inv : DsInv machine) (isDs : subscriber.kind = .ds)
    (notReleased : machine.mStatePtr ≠ .released) :
    Quiet machine (machine.addSubscriber memory subscriber) := by
  have list := inv.list.addSubscriber memory isDs
  have state := addSubscriber_mStatePtr memory machine subscriber
  have stays := (mem_addSubscriber memory machine subscriber).1
  have releasing : (machine.addSubscriber memory subscriber).mStatePtr = .releasing →
      ∃ entry ∈ (machine.addSubscriber memory subscriber).mSubscribers,
        entry.isInactive = true := by
    rw [state]
    intro isReleasing
    rcases inv.releasing isReleasing with ⟨entry, mem, isInactive⟩
    exact ⟨entry, stays entry mem, isInactive⟩
  have enforce : (machine.addSubscriber memory subscriber).mEnforceSingleSubscriber = false := by
    simp only [AgpsStateMachine.addSubscriber]
    split <;> exact inv.enforce
  refine ⟨⟨list, enforce, releasing⟩, ?_, ?_, ?_, ?_⟩
  · simp only [AgpsStateMachine.addSubscriber]
    split <;> rfl
  · simp only [AgpsStateMachine.addSubscriber]
    split <;> exact Or.inl rfl
  · rw [addSubscriber_requests]
    exact fun _ mem => Or.inl mem
  · rw [state]
    exact fun released => absurd released notReleased

theorem leave_ds (isDs : entry.kind = .ds) :
    machine.leave memory subscriber entry = machine.setInactive memory subscriber entry := by
  simp [leave, waitForCloseComplete, isDs]

theorem setInactive_inv (inv : DsInv machine)
    (found : machine.mSubscribers.find? (fun entry => entry.equals memory subscriber) =
      some entry) :
    DsList (machine.setInactive memory subscriber entry).mSubscribers ∧
      (∃ entry ∈ (machine.setInactive memory subscriber entry).mSubscribers,
        entry.isInactive = true) :=
  ⟨inv.list.inactivate subscriber, exists_inactive inv.list found⟩

theorem hasSubscribers_setInactive (mem : entry ∈ machine.mSubscribers) :
    (machine.setInactive memory subscriber entry).hasSubscribers = true := by
  rw [hasSubscribers_iff]
  simp only [setInactive, ne_eq, inactivate_eq_nil]
  exact ne_nil_of_mem mem

variable (inv : DsInv machine)

include inv

theorem unsubscribe_ds (mem : entry ∈ machine.mSubscribers) :
    machine.unsubscribe memory (dsSendRsrcRequest ret) subscriber entry =
      let next := machine.setInactive memory subscriber entry
      if next.hasActiveSubscribers = false then
        { next with
          requests := next.requests ++ [(.releaseAgpsDataConn, next.firstActive)]
          mStatePtr := .releasing }
      else next := by
  simp [unsubscribe, leave_ds (inv.list.kind entry mem), hasSubscribers_setInactive mem,
    dsSend_release]

theorem unsubscribe_mSubscribers (mem : entry ∈ machine.mSubscribers) :
    (machine.unsubscribe memory (dsSendRsrcRequest ret) subscriber entry).mSubscribers =
      inactivate memory subscriber machine.mSubscribers := by
  rw [unsubscribe_ds inv mem]
  simp only
  split <;> rfl

theorem Quiet.unsubscribe
    (found : machine.mSubscribers.find? (fun entry => entry.equals memory subscriber) = some entry)
    (notReleased : machine.mStatePtr ≠ .released) :
    Quiet machine (machine.unsubscribe memory (dsSendRsrcRequest ret) subscriber entry) := by
  rcases setInactive_inv inv found with ⟨list, inactive⟩
  rw [unsubscribe_ds inv (mem_of_find?_eq_some found)]
  simp only
  split
  · refine ⟨⟨list, inv.enforce, fun _ => inactive⟩, rfl, Or.inl rfl, ?_, by simp⟩
    intro request mem
    simp only [setInactive, mem_append, mem_singleton] at mem
    rcases mem with isOld | rfl
    · exact Or.inl isOld
    · exact Or.inr rfl
  · refine ⟨⟨list, inv.enforce, fun _ => inactive⟩, rfl, Or.inl rfl, ?_, ?_⟩
    · exact fun _ mem => Or.inl mem
    · exact fun released => absurd released notReleased

theorem Quiet.dropAll (known : Known status) :
    Quiet machine
      { machine.notifySubscribers memory ⟨.broadcastAll, status, true⟩ with
        mStatePtr := .released } := by
  rw [notifySubscribers_eq known]
  have told := Quiet.informAll inv status
    (machine.mSubscribers.filter (·.forMe memory ⟨.broadcastAll, status, true⟩))
  refine ⟨⟨inv.list.filter _, told.inv.enforce, by simp⟩, told.timers, told.retries,
    told.requests, ?_⟩
  intro
  simp [forMe]

end Quiet

def requested (memory : SubscriberKind → List UInt8) (machine : AgpsStateMachine) (ret : ℤ)
    (subscriber : Subscriber) : AgpsStateMachine :=
  let (sent, next) :=
    dsSendRsrcRequest ret .requestAgpsDataConn (machine.addSubscriber memory subscriber)
  if sent then { next with mStatePtr := .pending } else next

def told (memory : SubscriberKind → List UInt8) (machine : AgpsStateMachine)
    (status : AgpsRsrcStatus) : AgpsStateMachine :=
  machine.notifySubscribers memory ⟨.broadcastInactive, status, true⟩

def reopened (memory : SubscriberKind → List UInt8) (machine : AgpsStateMachine) (ret : ℤ)
    (status : AgpsRsrcStatus) : AgpsStateMachine :=
  { (dsSendRsrcRequest ret .requestAgpsDataConn (machine.told memory status)).2 with
    mStatePtr := .pending }

inductive DsStep (memory : SubscriberKind → List UInt8) (machine : AgpsStateMachine) (ret : ℤ) :
    RsrcEvent → AgpsStateMachine → Prop where
  | quiet {event : RsrcEvent} {next : AgpsStateMachine} (quiet : Quiet machine next) :
      DsStep memory machine ret event next
  | requested {subscriber : Subscriber} (released : machine.mStatePtr = .released) :
      DsStep memory machine ret (.subscribe subscriber)
        (machine.requested memory ret subscriber)
  | released (releasing : machine.mStatePtr = .releasing) (active : machine.hasActiveSubscribers) :
      DsStep memory machine ret .released (machine.reopened memory ret .released)
  | denied (releasing : machine.mStatePtr = .releasing) (active : machine.hasActiveSubscribers) :
      DsStep memory machine ret .denied (machine.reopened memory ret .denied)

variable {status : AgpsRsrcStatus}

theorem told_eq (known : Known status) :
    machine.told memory status =
      { informAll status (machine.mSubscribers.filter (·.isInactive)) machine with
        mSubscribers := machine.mSubscribers.filter (!·.isInactive) } := by
  rw [told, notifySubscribers_eq known]
  simp [forMe]

theorem told_hasActive (known : Known status) :
    (machine.told memory status).hasActiveSubscribers = machine.hasActiveSubscribers := by
  rw [Bool.eq_iff_iff, hasActiveSubscribers_iff, hasActiveSubscribers_iff, told_eq known]
  simp

theorem closed_ds (memory : SubscriberKind → List UInt8) (ret : ℤ)
    (inv : DsInv machine) (known : Known status) :
    (machine.hasActiveSubscribers = true ∧
        machine.closed memory (dsSendRsrcRequest ret) status = machine.reopened memory ret status) ∨
      Quiet machine (machine.closed memory (dsSendRsrcRequest ret) status) := by
  have same : machine.notifySubscribers memory ⟨.broadcastInactive, status, true⟩ =
      machine.told memory status := rfl
  simp only [closed, same, told_hasActive known]
  cases active : machine.hasActiveSubscribers with
  | true => exact Or.inl ⟨rfl, by simp [reopened]⟩
  | false =>
      right
      simp only [Bool.false_eq_true, if_false, told_eq known]
      have told := Quiet.informAll inv status (machine.mSubscribers.filter (·.isInactive))
      refine ⟨⟨inv.list.filter _, told.inv.enforce, by simp⟩, told.timers, told.retries,
        told.requests, ?_⟩
      intro
      right
      intro entry mem
      by_contra notInactive
      rw [Bool.not_eq_true] at notInactive
      have isActive := hasActiveSubscribers_iff.mpr ⟨entry, (mem_filter.mp mem).1, notInactive⟩
      simp [active] at isActive

theorem dsStep (inv : DsInv machine) (isDs : DsEvent memory machine event) :
    DsStep memory machine ret event
      (machine.stateOnRsrcEvent memory (dsSendRsrcRequest ret) event) := by
  simp only [stateOnRsrcEvent]
  cases state : machine.mStatePtr with
  | released =>
      cases event with
      | subscribe subscriber => exact .requested state
      | unsubscribe subscriber entry =>
          apply DsStep.quiet
          simp only [releasedOnRsrcEvent]
          rw [notifyRsrcStatus_self (by simp [Known])]
          exact Quiet.informAll inv _ _
      | granted | released | denied => exact .quiet (Quiet.refl inv)
  | pending =>
      cases event with
      | subscribe subscriber => exact .quiet (Quiet.addSubscriber inv isDs (by simp [state]))
      | unsubscribe subscriber entry =>
          exact .quiet (Quiet.unsubscribe inv isDs (by simp [state]))
      | granted =>
          apply DsStep.quiet
          simp only [pendingOnRsrcEvent]
          rw [notifySubscribers_eq (by simp [Known])]
          have told := Quiet.informAll inv .granted
            (machine.mSubscribers.filter (·.forMe memory ⟨.broadcastActive, .granted, false⟩))
          exact ⟨⟨inv.list, told.inv.enforce, by simp⟩, told.timers, told.retries,
            told.requests, by simp⟩
      | released => exact .quiet (Quiet.refl inv)
      | denied => exact .quiet (Quiet.dropAll inv (by simp [Known]))
  | acquired =>
      cases event with
      | subscribe subscriber =>
          apply DsStep.quiet
          simp only [acquiredOnRsrcEvent]
          rw [notifyRsrcStatus_self (by simp [Known])]
          have told := Quiet.informAll inv .granted [subscriber]
          apply told.trans
          exact Quiet.addSubscriber told.inv isDs (by simp [inform, state])
      | unsubscribe subscriber entry =>
          exact .quiet (Quiet.unsubscribe inv isDs (by simp [state]))
      | granted => exact .quiet (Quiet.refl inv)
      | released => exact .quiet (Quiet.dropAll inv (by simp [Known]))
      | denied => exact .quiet (Quiet.refl inv)
  | releasing =>
      cases event with
      | subscribe subscriber => exact .quiet (Quiet.addSubscriber inv isDs (by simp [state]))
      | unsubscribe subscriber entry =>
          have mem := mem_of_find?_eq_some isDs
          rcases setInactive_inv inv isDs with ⟨list, inactive⟩
          apply DsStep.quiet
          simp only [releasingOnRsrcEvent, leave_ds (inv.list.kind entry mem),
            hasSubscribers_setInactive mem, Bool.not_true, Bool.false_eq_true, if_false]
          exact ⟨⟨list, inv.enforce, fun _ => inactive⟩, rfl, Or.inl rfl, fun _ mem => Or.inl mem,
            by simp [setInactive, state]⟩
      | granted => exact .quiet (Quiet.refl inv)
      | released =>
          rcases closed_ds memory ret inv known_released with ⟨active, same⟩ | quiet
          · simp only [releasingOnRsrcEvent, same]
            exact .released state active
          · exact .quiet quiet
      | denied =>
          rcases closed_ds memory ret inv known_denied with ⟨active, same⟩ | quiet
          · simp only [releasingOnRsrcEvent, same]
            exact .denied state active
          · exact .quiet quiet

theorem unsubscribe_inactivates {subscriber entry : Subscriber} (inv : DsInv machine)
    (mem : entry ∈ machine.mSubscribers) (notReleased : machine.mStatePtr ≠ .released) :
    (machine.stateOnRsrcEvent memory (dsSendRsrcRequest ret)
        (.unsubscribe subscriber entry)).mSubscribers =
      inactivate memory subscriber machine.mSubscribers := by
  simp only [stateOnRsrcEvent]
  split
  · rename_i released
    exact absurd released notReleased
  · exact unsubscribe_mSubscribers inv mem
  · exact unsubscribe_mSubscribers inv mem
  · simp only [releasingOnRsrcEvent, leave_ds (inv.list.kind entry mem),
      hasSubscribers_setInactive mem, Bool.not_true, Bool.false_eq_true, if_false]
    rfl

theorem dsOnRsrcEvent_released (inv : DsInv machine) :
    DsStep memory machine ret .released (machine.dsOnRsrcEvent memory ret .released) := by
  have step : DsStep memory machine ret .released
      (machine.stateOnRsrcEvent memory (dsSendRsrcRequest ret) .released) := dsStep inv trivial
  simp only [dsOnRsrcEvent]
  split
  · exact step
  · rename_i unchanged
    rw [not_not] at unchanged
    cases state : machine.mStatePtr with
    | released =>
        have same : machine.stateOnRsrcEvent memory (dsSendRsrcRequest ret) .released =
            machine := by
          simp only [stateOnRsrcEvent, state]
          rfl
        have still : machine.stateOnRsrcEvent memory (dsSendRsrcRequest ret) .denied = machine := by
          simp only [stateOnRsrcEvent, state]
          rfl
        rw [same, still]
        exact .quiet (Quiet.refl inv)
    | pending =>
        have same : machine.stateOnRsrcEvent memory (dsSendRsrcRequest ret) .released =
            machine := by
          simp only [stateOnRsrcEvent, state]
          rfl
        rw [same]
        simp only [stateOnRsrcEvent, state]
        exact .quiet (Quiet.dropAll inv known_denied)
    | acquired => simp [stateOnRsrcEvent, state, acquiredOnRsrcEvent] at unchanged
    | releasing =>
        simp only [stateOnRsrcEvent, state, releasingOnRsrcEvent, closed] at unchanged
        split at unchanged <;> simp at unchanged

section Start

structure Retried (machine next : AgpsStateMachine) : Prop where
  timers : next.timers = machine.timers + 1
  retries : next.mRetries.toNat = machine.mRetries.toNat + 1
  few : next.mRetries ≤ maxStartDataCallRetries
  messages : next.messages = machine.messages
  notified : next.notified = machine.notified

structure NotRetried (machine next : AgpsStateMachine) : Prop where
  timers : next.timers = machine.timers
  retries : next.mRetries = machine.mRetries ∨ next.mRetries = 0

theorem dsSend_request (ret : ℤ) (few : machine.mRetries ≤ maxStartDataCallRetries) :
    if ret = errEngineBusy ∧ machine.mRetries < maxStartDataCallRetries then
      (dsSendRsrcRequest ret .requestAgpsDataConn machine).1 = false ∧
        Retried machine (dsSendRsrcRequest ret .requestAgpsDataConn machine).2
    else
      (dsSendRsrcRequest ret .requestAgpsDataConn machine).1 = decide (ret = 0) ∧
        NotRetried machine (dsSendRsrcRequest ret .requestAgpsDataConn machine).2 := by
  simp only [maxStartDataCallRetries, UInt8.le_iff_toNat_le, UInt8.lt_iff_toNat_lt] at few ⊢
  have successor : (machine.mRetries + 1).toNat = machine.mRetries.toNat + 1 := by
    rw [UInt8.toNat_add]
    simp at few ⊢
    omega
  have four : (4 : UInt8).toNat = 4 := rfl
  simp only [four] at few ⊢
  simp only [dsSendRsrcRequest, maxStartDataCallRetries, gt_iff_lt, UInt8.lt_iff_toNat_lt,
    successor, four]
  by_cases busy : ret = errEngineBusy
  · by_cases left : machine.mRetries.toNat < 4
    · have notMany : ¬4 < machine.mRetries.toNat + 1 := by omega
      simp only [busy, left, notMany, and_self, if_true, if_false, true_and]
      refine ⟨rfl, successor, ?_, rfl, rfl⟩
      simp only [maxStartDataCallRetries, UInt8.le_iff_toNat_le, successor, four]
      omega
    · have many : 4 < machine.mRetries.toNat + 1 := by omega
      simp only [busy, left, many, and_false, if_true, if_false]
      exact ⟨by simp [errEngineBusy], rfl, Or.inr rfl⟩
  · simp only [busy, false_and, if_false]
    split
    · rename_i fails
      refine ⟨?_, rfl, Or.inr rfl⟩
      rcases fails with rfl | rfl <;> simp [errUnsupported]
    · exact ⟨rfl, rfl, Or.inl rfl⟩

structure Begins (machine : AgpsStateMachine) (event : RsrcEvent) (before : AgpsStateMachine) :
    Prop where
  timers : before.timers = machine.timers
  retries : before.mRetries = machine.mRetries ∨ before.mRetries = 0
  messages : ∀ handle, .requestATL handle ∈ before.messages →
    .requestATL handle ∈ machine.messages ∨
      ∃ told ∈ before.notified, told.2 = .denied ∧ told.1.id = handle
  newCall : (∃ subscriber, event = .subscribe subscriber ∧ machine.mStatePtr = .released) ∨
    (event = .released ∧ machine.mStatePtr = .releasing ∧ machine.hasActiveSubscribers = true) ∨
      before.mRetries = 0

structure Starts (machine : AgpsStateMachine) (ret : ℤ) (event : RsrcEvent)
    (before next : AgpsStateMachine) : Prop where
  begins : Begins machine event before
  inv : DsInv next
  isCall : ∃ state,
    next = { (dsSendRsrcRequest ret .requestAgpsDataConn before).2 with mStatePtr := state }
  released : next.mStatePtr = .released → machine.mStatePtr = .released ∧
    (∃ subscriber, event = .subscribe subscriber) ∧
      (dsSendRsrcRequest ret .requestAgpsDataConn before).1 = false

variable {subscriber : Subscriber} {status : AgpsRsrcStatus}

theorem starts_requested (inv : DsInv machine)
    (isDs : subscriber.kind = .ds) (released : machine.mStatePtr = .released) :
    Starts machine ret (.subscribe subscriber) (machine.addSubscriber memory subscriber)
      (machine.requested memory ret subscriber) := by
  have list := inv.list.addSubscriber memory isDs
  have enforce : (machine.addSubscriber memory subscriber).mEnforceSingleSubscriber = false := by
    simp only [addSubscriber]
    split <;> exact inv.enforce
  have state := addSubscriber_mStatePtr memory machine subscriber
  rw [released] at state
  refine ⟨?_, ?_, ?_, ?_⟩
  · rcases addSubscriber_cases memory machine subscriber with ⟨_, _, _, same⟩ | ⟨_, added⟩
    · rw [same]
      exact ⟨rfl, Or.inl rfl, fun _ mem => Or.inl mem, Or.inl ⟨subscriber, rfl, released⟩⟩
    · rw [added]
      exact ⟨rfl, Or.inl rfl, fun _ mem => Or.inl mem, Or.inl ⟨subscriber, rfl, released⟩⟩
  · simp only [requested]
    split
    · exact ⟨by simpa using list, by simpa using enforce, by simp⟩
    · exact ⟨by simpa using list, by simpa using enforce, by simp [state]⟩
  · simp only [requested]
    split
    · exact ⟨.pending, rfl⟩
    · exact ⟨_, rfl⟩
  · simp only [requested]
    split
    · simp
    · rename_i notSent
      rw [Bool.not_eq_true] at notSent
      exact fun _ => ⟨released, ⟨subscriber, rfl⟩, notSent⟩

theorem statusMessage_requestATL {handle : UInt32}
    (isMessage : subscriber.statusMessage status = some (some (.requestATL handle))) :
    status = .denied ∧ subscriber.id = handle := by
  rcases subscriber with ⟨id, kind, inactive⟩
  cases status <;> cases kind <;> simp_all [statusMessage]

theorem starts_reopened (inv : DsInv machine) (known : Known status)
    (newCall : (event = .released ∧ machine.mStatePtr = .releasing ∧
      machine.hasActiveSubscribers = true) ∨ (machine.told memory status).mRetries = 0) :
    Starts machine ret event (machine.told memory status) (machine.reopened memory ret status) := by
  rw [told_eq known] at newCall
  simp only [reopened, told_eq known]
  have told := Quiet.informAll inv status (machine.mSubscribers.filter (·.isInactive))
  refine ⟨⟨told.timers, told.retries, ?_, Or.inr newCall⟩, ?_, ⟨.pending, rfl⟩, by simp⟩
  · intro handle mem
    rcases mem_informAll_messages mem with isOld | ⟨subscriber, isTold, isMessage⟩
    · exact Or.inl isOld
    · rcases statusMessage_requestATL isMessage with ⟨rfl, isHandle⟩
      refine Or.inr ⟨(subscriber, .denied), ?_, rfl, isHandle⟩
      simp only [informAll_notified, mem_append, mem_map]
      exact Or.inr ⟨subscriber, isTold, rfl⟩
  · exact ⟨by simpa using inv.list.filter _, by simpa using inv.enforce, by simp⟩

theorem informAll_denied {told : List Subscriber} (isDs : ∀ entry ∈ told, entry.kind = .ds)
    (notEmpty : told ≠ []) : (informAll .denied told machine).mRetries = 0 := by
  cases told with
  | nil => contradiction
  | cons first rest =>
      rw [informAll_cons]
      rcases informAll_mRetries .denied rest
        (machine.inform first .denied ((first.statusMessage .denied).getD none)) with same | zero
      · rw [same]
        simp [inform, isDs first mem_cons_self]
      · exact zero

theorem Starts.answer {before : AgpsStateMachine} (starts : Starts machine ret event before next)
    (few : before.mRetries ≤ maxStartDataCallRetries) :
    if ret = errEngineBusy ∧ before.mRetries < maxStartDataCallRetries then Retried before next
    else NotRetried before next ∧ (next.mStatePtr = .released → ret ≠ 0) := by
  have sent := dsSend_request ret few
  rcases starts.isCall with ⟨state, isCall⟩
  split at sent
  · rename_i retried
    rw [if_pos retried, isCall]
    rcases sent.2 with ⟨timers, retries, few, messages, notified⟩
    exact ⟨timers, retries, few, messages, notified⟩
  · rename_i notRetried
    rw [if_neg notRetried]
    constructor
    · rw [isCall]
      exact ⟨sent.2.timers, sent.2.retries⟩
    · intro released success
      have notSent := (starts.released released).2.2
      rw [sent.1] at notSent
      simp [success] at notSent

theorem DsStep.starts (step : DsStep memory machine ret event next) (inv : DsInv machine)
    (isDs : DsEvent memory machine event) :
    Quiet machine next ∨ ∃ before, Starts machine ret event before next := by
  cases step with
  | quiet quiet => exact Or.inl quiet
  | requested released => exact Or.inr ⟨_, starts_requested inv isDs released⟩
  | released releasing active =>
      exact Or.inr ⟨_, starts_reopened inv known_released (Or.inl ⟨rfl, releasing, active⟩)⟩
  | denied releasing active =>
      refine Or.inr ⟨_, starts_reopened inv known_denied (Or.inr ?_)⟩
      rcases inv.releasing releasing with ⟨entry, mem, isInactive⟩
      rw [told_eq known_denied]
      apply informAll_denied
      · exact fun entry mem => inv.list.kind entry (mem_filter.mp mem).1
      · exact ne_nil_of_mem (mem_filter.mpr ⟨mem, isInactive⟩)

theorem dsSend_sent (machine : AgpsStateMachine) :
    (dsSendRsrcRequest ret .requestAgpsDataConn machine).2.Sent .requestAgpsDataConn := by
  refine ⟨(.requestAgpsDataConn, machine.firstActive), ?_, rfl⟩
  simp only [dsSendRsrcRequest]
  repeat' split
  all_goals simp [informDenied]

end Start

end AgpsStateMachine

end HtcPme.Gps
