import HtcPme.Gps.AgpsRun

/-!
# Requests that are answered

A subscriber waits until it is granted or denied. It is lost when the list has an inactive entry for
it: `addSubscriber` adds no second one.
-/

namespace HtcPme.Gps

namespace AgpsStateMachine

open Subscriber

variable {memory : SubscriberKind → List UInt8} {machine next : AgpsStateMachine} {call : Call}

structure Tracked where
  machine : AgpsStateMachine
  waiting : List Subscriber
deriving DecidableEq

def accepted (machine : AgpsStateMachine) : Call → List Subscriber
  | .subscribeRsrc subscriber =>
      if machine.mEnforceSingleSubscriber && machine.hasSubscribers then [] else [subscriber]
  | _ => []

def unsubscribed (memory : SubscriberKind → List UInt8) (machine : AgpsStateMachine) :
    Call → Option Subscriber
  | .unsubscribeRsrc subscriber =>
      machine.mSubscribers.find? fun entry => entry.equals memory subscriber
  | _ => none

def Done (memory : SubscriberKind → List UInt8) (machine : AgpsStateMachine) (call : Call)
    (next : AgpsStateMachine) (entry : Subscriber) : Prop :=
  (∃ told ∈ next.notified, told.1 = entry ∧ told.2 ≠ .released) ∨
    machine.unsubscribed memory call = some entry

def Ended (memory : SubscriberKind → List UInt8) (machine : AgpsStateMachine) (call : Call)
    (next : AgpsStateMachine) (subscriber : Subscriber) : Prop :=
  (∃ told ∈ next.notified, told.1.equals memory subscriber = true ∧ told.2 ≠ .released) ∨
    ∃ entry ∈ machine.unsubscribed memory call, entry.equals memory subscriber = true

instance (call : Call) (subscriber : Subscriber) :
    Decidable (Ended memory machine call next subscriber) :=
  inferInstanceAs (Decidable (_ ∨ _))

namespace Tracked

def handle (memory : SubscriberKind → List UInt8) (tracked : Tracked) (call : Call) : Tracked where
  machine := tracked.machine.call memory call
  waiting := (tracked.machine.accepted call ++ tracked.waiting).filter
    fun subscriber =>
      ¬Ended memory tracked.machine call (tracked.machine.call memory call) subscriber

def IsInit (tracked : Tracked) : Prop :=
  ∃ enforceSingleSubscriber, tracked = ⟨new enforceSingleSubscriber, []⟩

def Step (memory : SubscriberKind → List UInt8) (tracked : Tracked) (call : Call)
    (next : Tracked) : Prop := next = tracked.handle memory call

/-- Nobody subscribes while only inactive entries stand for it, unless it is granted at once. -/
def ResubscribeGuard (memory : SubscriberKind → List UInt8) (tracked : Tracked) (call : Call) :
    Prop :=
  ∀ subscriber ∈ tracked.machine.accepted call, tracked.machine.mStatePtr ≠ .acquired →
    (∃ entry ∈ tracked.machine.mSubscribers, entry.equals memory subscriber = true) →
      ∃ entry ∈ tracked.machine.mSubscribers,
        entry.isInactive = false ∧ entry.equals memory subscriber = true

def AllActive (memory : SubscriberKind → List UInt8) (tracked : Tracked) : Prop :=
  ∀ subscriber ∈ tracked.waiting, ∃ entry ∈ tracked.machine.mSubscribers,
    entry.isInactive = false ∧ entry.equals memory subscriber = true

end Tracked

def Keeps (memory : SubscriberKind → List UInt8) (machine : AgpsStateMachine) (call : Call)
    (next : AgpsStateMachine) : Prop :=
  ∀ entry ∈ machine.mSubscribers, entry.isInactive = false →
    entry ∈ next.mSubscribers ∨ Done memory machine call next entry

variable {entry : Subscriber} {subscriber found entry : Subscriber} {status : AgpsRsrcStatus}
  {subscriber : Subscriber}

theorem mem_notifySubscribers {notification : Notification} (known : Known notification.rsrcStatus)
     (mem : entry ∈ machine.mSubscribers) :
    entry ∈ (machine.notifySubscribers memory notification).mSubscribers ∨
      (entry, notification.rsrcStatus) ∈
        (machine.notifySubscribers memory notification).notified := by
  rw [notifySubscribers_eq known]
  by_cases forMe : entry.forMe memory notification = true
  · right
    simp [mem, forMe]
  · left
    simp only
    split
    · simp [mem, forMe]
    · exact mem

theorem mem_leave
    (first : machine.mSubscribers.find? (fun entry => entry.equals memory subscriber) = some found)
    (mem : entry ∈ machine.mSubscribers) :
    entry = found ∨ entry ∈ (machine.leave memory subscriber found).mSubscribers ∨
      (entry, .unsubscribe) ∈ (machine.leave memory subscriber found).notified := by
  simp only [leave]
  split
  · rcases mem_inactivate_of_mem first mem with same | kept
    · exact Or.inl same
    · exact Or.inr (Or.inl kept)
  · exact Or.inr (mem_notifySubscribers (by simp [Known]) mem)

theorem send_mSubscribers (action : AGpsStatusValue) :
    (sendRsrcRequest action machine).2.mSubscribers = machine.mSubscribers ∧
      (sendRsrcRequest action machine).2.notified = machine.notified := by
  simp only [sendRsrcRequest]
  split <;> exact ⟨rfl, rfl⟩

theorem mem_unsubscribe
    (first : machine.mSubscribers.find? (fun entry => entry.equals memory subscriber) = some found)
    (mem : entry ∈ machine.mSubscribers) :
    entry = found ∨
      entry ∈ (machine.unsubscribe memory sendRsrcRequest subscriber found).mSubscribers ∨
      (entry, .unsubscribe) ∈
        (machine.unsubscribe memory sendRsrcRequest subscriber found).notified := by
  have left := mem_leave first mem
  simp only [unsubscribe]
  split
  · simpa [send_mSubscribers] using left
  · split
    · simpa [send_mSubscribers] using left
    · exact left

theorem mem_closed (known : Known status)
    (mem : entry ∈ machine.mSubscribers) (active : entry.isInactive = false) :
    entry ∈ (machine.closed memory sendRsrcRequest status).mSubscribers := by
  have kept : entry ∈
      (machine.notifySubscribers memory ⟨.broadcastInactive, status, true⟩).mSubscribers := by
    rw [notifySubscribers_eq known]
    simp [forMe, mem, active]
  simp only [closed]
  split
  · simpa [send_mSubscribers] using kept
  · exact kept

theorem mem_unsubscribeEvent (machine : AgpsStateMachine)
    (first : machine.mSubscribers.find? (fun entry => entry.equals memory subscriber) = some found)
    (mem : entry ∈ machine.mSubscribers) :
    entry = found ∨
      entry ∈ (machine.stateOnRsrcEvent memory sendRsrcRequest
        (.unsubscribe subscriber found)).mSubscribers ∨
      (entry, .unsubscribe) ∈ (machine.stateOnRsrcEvent memory sendRsrcRequest
        (.unsubscribe subscriber found)).notified := by
  simp only [stateOnRsrcEvent]
  split
  · simp only [releasedOnRsrcEvent, notifyRsrcStatus_self (show Known .unsubscribe by simp [Known])]
    exact Or.inr (Or.inl (by simpa using mem))
  · exact mem_unsubscribe first mem
  · exact mem_unsubscribe first mem
  · have left := mem_leave first mem
    simp only [releasingOnRsrcEvent]
    split <;> exact left

variable {subscriber entry : Subscriber}

theorem mem_subscribe (mem : entry ∈ machine.mSubscribers) :
    entry ∈ (machine.stateOnRsrcEvent memory sendRsrcRequest
      (.subscribe subscriber)).mSubscribers := by
  have kept := (mem_addSubscriber memory machine subscriber).1 entry mem
  simp only [stateOnRsrcEvent]
  split
  · simp only [releasedOnRsrcEvent]
    split <;> simpa [send_mSubscribers] using kept
  · exact kept
  · simp only [acquiredOnRsrcEvent, notifyRsrcStatus_self known_granted]
    apply (mem_addSubscriber memory _ subscriber).1
    simpa using mem
  · exact kept

theorem keeps_call (machine : AgpsStateMachine) {call : Call}
    (notDropped : machine.mStatePtr = .acquired → call ≠ .released) :
    Keeps memory machine call (machine.call memory call) := by
  intro entry mem active
  cases call with
  | subscribeRsrc subscriber =>
      left
      simp only [call, subscribeRsrc]
      split
      · rw [notifySubscriber_of_forMe known_denied rfl]
        simpa [fresh] using mem
      · exact mem_subscribe mem
  | unsubscribeRsrc subscriber =>
      simp only [call, unsubscribeRsrc, Done, unsubscribed, fresh]
      cases found : machine.mSubscribers.find? (fun entry => entry.equals memory subscriber) with
      | none => exact Or.inl mem
      | some first =>
          simp only [Option.some.injEq]
          have left := mem_unsubscribeEvent (machine.fresh) found mem
          rcases left with same | kept | told
          · exact Or.inr (Or.inr same.symm)
          · exact Or.inl kept
          · exact Or.inr (Or.inl ⟨_, told, rfl, by simp⟩)
  | granted =>
      left
      simp only [call, stateOnRsrcEvent]
      split
      · exact mem
      · simp only [pendingOnRsrcEvent]
        rw [notifySubscribers_eq known_granted]
        exact mem
      · exact mem
      · exact mem
  | released =>
      simp only [call, stateOnRsrcEvent]
      split
      · exact Or.inl mem
      · exact Or.inl mem
      · rename_i acquired
        exact absurd rfl (notDropped acquired)
      · exact Or.inl (mem_closed known_released mem active)
  | denied =>
      simp only [call, stateOnRsrcEvent]
      split
      · exact Or.inl mem
      · refine Or.inr (Or.inl ⟨(entry, .denied), ?_, rfl, by simp⟩)
        simp only [pendingOnRsrcEvent]
        rw [notifySubscribers_eq known_denied]
        simpa [forMe, fresh] using mem
      · exact Or.inl mem
      · exact Or.inl (mem_closed known_denied mem active)

theorem accepted_iff :
    subscriber ∈ machine.accepted call ↔ call = .subscribeRsrc subscriber ∧
      (machine.mEnforceSingleSubscriber && machine.hasSubscribers) = false := by
  cases call with
  | subscribeRsrc other =>
      simp only [accepted, Call.subscribeRsrc.injEq]
      split
      · rename_i refused
        simp [refused]
      · rename_i notRefused
        rw [Bool.not_eq_true] at notRefused
        simp [notRefused, eq_comm]
  | unsubscribeRsrc other => simp [accepted]
  | granted => simp [accepted]
  | released => simp [accepted]
  | denied => simp [accepted]

theorem addSubscriber_notified (memory : SubscriberKind → List UInt8)
    (machine : AgpsStateMachine) (subscriber : Subscriber) :
    (machine.addSubscriber memory subscriber).notified = machine.notified := by
  simp only [addSubscriber]
  split <;> rfl

theorem call_refused
    (refused : (machine.mEnforceSingleSubscriber && machine.hasSubscribers) = true) :
    machine.call memory (.subscribeRsrc subscriber) =
      informAll .denied [subscriber] machine.fresh := by
  simp only [call, subscribeRsrc]
  refine (if_pos refused).trans ?_
  rw [notifySubscriber_of_forMe known_denied rfl]

theorem call_accepted
    (notRefused : (machine.mEnforceSingleSubscriber && machine.hasSubscribers) = false) :
    machine.call memory (.subscribeRsrc subscriber) =
      machine.fresh.stateOnRsrcEvent memory sendRsrcRequest (.subscribe subscriber) := by
  simp only [call, subscribeRsrc]
  exact if_neg (Bool.not_eq_true _ ▸ notRefused)

theorem sendRequest_true (action : AGpsStatusValue) :
    (sendRsrcRequest action machine).1 = true := by
  simp only [sendRsrcRequest]
  split <;> rfl

theorem granted_subscribe (acquired : machine.mStatePtr = .acquired) :
    (subscriber, .granted) ∈ (machine.stateOnRsrcEvent memory sendRsrcRequest
      (.subscribe subscriber)).notified := by
  simp only [stateOnRsrcEvent, acquired, acquiredOnRsrcEvent, notifyRsrcStatus_self known_granted]
  simp [addSubscriber_notified, inform]

theorem subscribe_active (machine : AgpsStateMachine) (guarded : machine.mStatePtr ≠ .acquired →
      (∃ entry ∈ machine.mSubscribers, entry.equals memory subscriber = true) →
        ∃ entry ∈ machine.mSubscribers,
          entry.isInactive = false ∧ entry.equals memory subscriber = true) :
    (machine.mStatePtr = .acquired ∧
        (subscriber, .granted) ∈ (machine.stateOnRsrcEvent memory sendRsrcRequest
          (.subscribe subscriber)).notified) ∨
      machine.mStatePtr ≠ .acquired ∧
        ∃ entry ∈ (machine.stateOnRsrcEvent memory sendRsrcRequest
            (.subscribe subscriber)).mSubscribers,
          entry.isInactive = false ∧ entry.equals memory subscriber = true := by
  by_cases acquired : machine.mStatePtr = .acquired
  · exact Or.inl ⟨acquired, granted_subscribe acquired⟩
  · refine Or.inr ⟨acquired, ?_⟩
    have added : ∃ entry ∈ (machine.addSubscriber memory subscriber).mSubscribers,
        entry.isInactive = false ∧ entry.equals memory subscriber = true := by
      rcases addSubscriber_cases memory machine subscriber with
        ⟨entry, mem, equal, same⟩ | ⟨none, isAdded⟩
      · rw [same]
        exact guarded acquired ⟨entry, mem, equal⟩
      · rw [isAdded]
        exact ⟨subscriber.clone, List.mem_cons_self, by simp, equals_self subscriber⟩
    simp only [stateOnRsrcEvent]
    split
    · simp only [releasedOnRsrcEvent]
      split <;> simpa [send_mSubscribers] using added
    · exact added
    · rename_i isAcquired
      exact absurd isAcquired acquired
    · exact added

def Settled (memory : SubscriberKind → List UInt8) (machine : AgpsStateMachine) (call : Call)
    (next : AgpsStateMachine) : Prop :=
  ((machine.mStatePtr = .released ∨ machine.mStatePtr = .acquired) ∧
      ∀ subscriber ∈ machine.accepted call, Ended memory machine call next subscriber) ∨
    ∀ entry ∈ next.mSubscribers, entry.isInactive = false → (entry, .granted) ∈ next.notified

theorem settled_subscribe (machine : AgpsStateMachine) (subscriber : Subscriber)
    (isIdle : (machine.call memory (.subscribeRsrc subscriber)).mStatePtr = .released ∨
      (machine.call memory (.subscribeRsrc subscriber)).mStatePtr = .acquired) :
    Settled memory machine (.subscribeRsrc subscriber)
      (machine.call memory (.subscribeRsrc subscriber)) := by
  left
  cases refused : machine.mEnforceSingleSubscriber && machine.hasSubscribers with
  | true =>
      rw [call_refused refused] at isIdle ⊢
      refine ⟨isIdle, ?_⟩
      intro other isAccepted
      simp [accepted_iff, refused] at isAccepted
  | false =>
      rw [call_accepted refused] at isIdle ⊢
      have acquired : machine.mStatePtr = .acquired := by
        by_contra notAcquired
        simp only [stateOnRsrcEvent, fresh] at isIdle
        split at isIdle
        · simp [releasedOnRsrcEvent, sendRequest_true] at isIdle
        · simp_all [pendingOnRsrcEvent, addSubscriber_mStatePtr]
        · contradiction
        · simp_all [releasingOnRsrcEvent, addSubscriber_mStatePtr]
      refine ⟨Or.inr acquired, ?_⟩
      intro other isAccepted
      rcases accepted_iff.mp isAccepted with ⟨same, -⟩
      cases same
      left
      refine ⟨(subscriber, .granted), ?_, equals_self subscriber, by simp⟩
      exact granted_subscribe acquired

theorem closed_noneActive
    (isIdle : (machine.closed memory sendRsrcRequest status).mStatePtr = .released ∨
      (machine.closed memory sendRsrcRequest status).mStatePtr = .acquired) :
    ∀ entry ∈ (machine.closed memory sendRsrcRequest status).mSubscribers,
      entry.isInactive = true := by
  simp only [closed] at isIdle ⊢
  split at isIdle
  · simp at isIdle
  · rename_i noneActive
    rw [if_neg noneActive]
    intro entry mem
    by_contra active
    rw [Bool.not_eq_true] at active
    exact noneActive (hasActiveSubscribers_iff.mpr ⟨entry, mem, active⟩)

theorem closed_pending (known : Known status)
    (mem : entry ∈ machine.mSubscribers) (active : entry.isInactive = false) :
    (machine.closed memory sendRsrcRequest status).mStatePtr = .pending ∧
      (machine.closed memory sendRsrcRequest status).Sent .requestAgpsDataConn := by
  have kept : entry ∈
      (machine.notifySubscribers memory ⟨.broadcastInactive, status, true⟩).mSubscribers := by
    rw [notifySubscribers_eq known]
    simp [forMe, mem, active]
  have isActive := hasActiveSubscribers_iff.mpr ⟨entry, kept, active⟩
  simp only [closed, isActive, if_true, sendRequest_of_active ⟨entry, kept, active⟩]
  simp [Sent]

theorem told_of_pending (memory : SubscriberKind → List UInt8)
    (pending : machine.fresh.mStatePtr = .pending) (isAnswer : call = .granted ∨ call = .denied)
    (mem : entry ∈ machine.mSubscribers) (active : entry.isInactive = false) :
    ∃ status, (entry, status) ∈ (machine.call memory call).notified ∧ status ≠ .released := by
  rcases isAnswer with rfl | rfl
  · refine ⟨.granted, ?_, by simp⟩
    simp only [call, stateOnRsrcEvent, pending, pendingOnRsrcEvent]
    rw [notifySubscribers_eq known_granted]
    simpa [forMe, active, fresh] using mem
  · refine ⟨.denied, ?_, by simp⟩
    simp only [call, stateOnRsrcEvent, pending, pendingOnRsrcEvent]
    rw [notifySubscribers_eq known_denied]
    simpa [forMe, fresh] using mem

theorem unsubscribe_noSubscribers (pending : machine.mStatePtr = .pending)
    (isIdle : (machine.unsubscribe memory sendRsrcRequest subscriber entry).mStatePtr = .released ∨
      (machine.unsubscribe memory sendRsrcRequest subscriber entry).mStatePtr = .acquired) :
    (machine.unsubscribe memory sendRsrcRequest subscriber entry).mSubscribers = [] := by
  have state := (leave_spec memory machine subscriber entry).1
  rw [pending] at state
  simp only [unsubscribe] at isIdle ⊢
  split at isIdle
  · rename_i none
    rw [if_pos none]
    simpa [send_mSubscribers, hasSubscribers] using none
  · split at isIdle
    · simp at isIdle
    · simp [state] at isIdle

theorem settled (machine : AgpsStateMachine) (call : Call)
    (isIdle : (machine.call memory call).mStatePtr = .released ∨
      (machine.call memory call).mStatePtr = .acquired) :
    Settled memory machine call (machine.call memory call) := by
  -- without an active entry nothing is left to show
  have noneActive : (∀ entry ∈ (machine.call memory call).mSubscribers, entry.isInactive = true) →
      Settled memory machine call (machine.call memory call) := by
    intro inactive
    right
    intro entry mem active
    simp [inactive entry mem] at active
  cases call with
  | subscribeRsrc subscriber => exact settled_subscribe machine subscriber isIdle
  | unsubscribeRsrc subscriber =>
      cases state : machine.mStatePtr with
      | released => exact Or.inl ⟨Or.inl state, by simp [accepted]⟩
      | acquired => exact Or.inl ⟨Or.inr state, by simp [accepted]⟩
      | pending =>
          apply noneActive
          have pending : machine.fresh.mStatePtr = .pending := state
          simp only [call, unsubscribeRsrc, stateOnRsrcEvent, pending,
            pendingOnRsrcEvent] at isIdle ⊢
          split at isIdle
          · simp [unsubscribe_noSubscribers pending isIdle]
          · simp [pending] at isIdle
      | releasing =>
          apply noneActive
          have releasing : machine.fresh.mStatePtr = .releasing := state
          simp only [call, unsubscribeRsrc, stateOnRsrcEvent, releasing,
            releasingOnRsrcEvent] at isIdle ⊢
          split at isIdle
          · rename_i found _
            split at isIdle
            · rename_i none
              rw [if_pos none]
              have isEmpty := none
              simp only [hasSubscribers, Bool.not_not, List.isEmpty_iff] at isEmpty
              simp [isEmpty]
            · simp [leave_spec memory machine.fresh subscriber found, releasing] at isIdle
          · simp [releasing] at isIdle
  | granted =>
      simp only [call, stateOnRsrcEvent] at isIdle noneActive ⊢
      cases state : machine.fresh.mStatePtr with
      | released => exact Or.inl ⟨Or.inl state, by simp [accepted]⟩
      | acquired => exact Or.inl ⟨Or.inr state, by simp [accepted]⟩
      | releasing => simp [state, releasingOnRsrcEvent] at isIdle
      | pending =>
          right
          intro entry mem active
          simp only [pendingOnRsrcEvent] at mem ⊢
          rw [notifySubscribers_eq known_granted] at mem ⊢
          simpa [forMe, active] using Or.inr mem
  | released =>
      simp only [call, stateOnRsrcEvent] at isIdle noneActive ⊢
      cases state : machine.fresh.mStatePtr with
      | released => exact Or.inl ⟨Or.inl state, by simp [accepted]⟩
      | acquired => exact Or.inl ⟨Or.inr state, by simp [accepted]⟩
      | pending => simp [state, pendingOnRsrcEvent] at isIdle
      | releasing =>
          simp only [state, releasingOnRsrcEvent] at isIdle noneActive
          exact noneActive (closed_noneActive isIdle)
  | denied =>
      simp only [call, stateOnRsrcEvent] at isIdle noneActive ⊢
      cases state : machine.fresh.mStatePtr with
      | released => exact Or.inl ⟨Or.inl state, by simp [accepted]⟩
      | acquired => exact Or.inl ⟨Or.inr state, by simp [accepted]⟩
      | pending =>
          right
          intro entry mem active
          simp only [pendingOnRsrcEvent] at mem
          rw [notifySubscribers_eq known_denied] at mem
          simp [forMe] at mem
      | releasing =>
          simp only [state, releasingOnRsrcEvent] at isIdle noneActive
          exact noneActive (closed_noneActive isIdle)

namespace Tracked

variable {tracked : Tracked}

def Idle (tracked : Tracked) : Prop :=
  tracked.machine.mStatePtr = .released ∨ tracked.machine.mStatePtr = .acquired →
    tracked.waiting = []

theorem mem_waiting {subscriber : Subscriber} :
    subscriber ∈ (tracked.handle memory call).waiting ↔
      (subscriber ∈ tracked.machine.accepted call ∨ subscriber ∈ tracked.waiting) ∧
        ¬Ended memory tracked.machine call (tracked.machine.call memory call) subscriber := by
  simp [handle, or_and_right]

theorem ended_of_done {entry subscriber : Subscriber}
    (equal : entry.equals memory subscriber = true)
    (done : Done memory machine call next entry) : Ended memory machine call next subscriber := by
  rcases done with ⟨told, mem, rfl, notReleased⟩ | unsubscribed
  · exact Or.inl ⟨told, mem, equal, notReleased⟩
  · exact Or.inr ⟨entry, unsubscribed, equal⟩

theorem AllActive.handle (active : AllActive memory tracked) (idle : Idle tracked)
    (guarded : ResubscribeGuard memory tracked call) :
    AllActive memory (tracked.handle memory call) := by
  intro subscriber waits
  rcases mem_waiting.mp waits with ⟨isAccepted | waited, notEnded⟩
  · rcases accepted_iff.mp isAccepted with ⟨rfl, notRefused⟩
    have kept := subscribe_active tracked.machine.fresh (guarded subscriber isAccepted)
    rw [← call_accepted notRefused] at kept
    rcases kept with ⟨-, told⟩ | ⟨-, kept⟩
    · exact absurd (Or.inl ⟨_, told, equals_self subscriber, by simp⟩) notEnded
    · exact kept
  · rcases active subscriber waited with ⟨entry, mem, isActive, equal⟩
    have notDropped : tracked.machine.mStatePtr = .acquired → call ≠ .released := by
      intro acquired
      simp [idle (Or.inr acquired)] at waited
    rcases keeps_call tracked.machine notDropped entry mem isActive with kept | done
    · exact ⟨entry, kept, isActive, equal⟩
    · exact absurd (ended_of_done equal done) notEnded

theorem Idle.handle (idle : Idle tracked)
    (kept : AllActive memory (tracked.handle memory call)) : Idle (tracked.handle memory call) := by
  intro isIdle
  apply List.eq_nil_iff_forall_not_mem.mpr
  intro subscriber waits
  rcases mem_waiting.mp waits with ⟨before, notEnded⟩
  apply notEnded
  rcases settled tracked.machine call isIdle with ⟨wasIdle, done⟩ | allGranted
  · rw [idle wasIdle] at before
    exact done subscriber (by simpa using before)
  · rcases kept subscriber waits with ⟨entry, mem, isActive, equal⟩
    exact Or.inl ⟨_, allGranted entry mem isActive, equal, by simp⟩

/-- An active entry stands for everyone who waits, who are all told the next time that the interface
is granted or denied. -/
structure WaitingOk (memory : SubscriberKind → List UInt8) (tracked : Tracked) : Prop where
  active : AllActive memory tracked
  idle : Idle tracked
  answered : ∀ call, call = .granted ∨ call = .denied → tracked.machine.mStatePtr ≠ .releasing →
    (tracked.handle memory call).waiting = []
  reopened : ∀ call, call = .released ∨ call = .denied → tracked.machine.mStatePtr = .releasing →
    tracked.waiting ≠ [] → (tracked.handle memory call).machine.mStatePtr = .pending ∧
      (tracked.handle memory call).machine.Sent .requestAgpsDataConn

theorem answered (active : AllActive memory tracked) (idle : Idle tracked)
    (isAnswer : call = .granted ∨ call = .denied)
    (notReleasing : tracked.machine.mStatePtr ≠ .releasing) :
    (tracked.handle memory call).waiting = [] := by
  apply List.eq_nil_iff_forall_not_mem.mpr
  intro subscriber waits
  rcases mem_waiting.mp waits with ⟨isAccepted | waited, notEnded⟩
  · rcases isAnswer with rfl | rfl <;> simp [accepted] at isAccepted
  · have pending : tracked.machine.fresh.mStatePtr = .pending := by
      cases state : tracked.machine.mStatePtr with
      | pending => exact state
      | releasing => contradiction
      | released => simp [idle (Or.inl state)] at waited
      | acquired => simp [idle (Or.inr state)] at waited
    rcases active subscriber waited with ⟨entry, mem, isActive, equal⟩
    rcases told_of_pending memory pending isAnswer mem isActive with ⟨status, told, notReleased⟩
    exact notEnded (Or.inl ⟨_, told, equal, notReleased⟩)

theorem reopened (active : AllActive memory tracked)
    (isClose : call = .released ∨ call = .denied)
    (releasing : tracked.machine.mStatePtr = .releasing) (waited : tracked.waiting ≠ []) :
    (tracked.handle memory call).machine.mStatePtr = .pending ∧
      (tracked.handle memory call).machine.Sent .requestAgpsDataConn := by
  rcases List.exists_mem_of_ne_nil _ waited with ⟨subscriber, waits⟩
  rcases active subscriber waits with ⟨entry, mem, isActive, -⟩
  have state : tracked.machine.fresh.mStatePtr = .releasing := releasing
  rcases isClose with rfl | rfl
  · simp only [handle, call, stateOnRsrcEvent, state, releasingOnRsrcEvent]
    exact closed_pending known_released mem isActive
  · simp only [handle, call, stateOnRsrcEvent, state, releasingOnRsrcEvent]
    exact closed_pending known_denied mem isActive

/-- As long as nobody subscribes while only inactive entries stand for it, nobody who waits is
lost. -/
theorem reachable_waitingOk
    (reached : Run.Reachable IsInit (Run.Guarded (ResubscribeGuard memory) (Step memory)) tracked) :
    tracked.WaitingOk memory := by
  have ok : AllActive memory tracked ∧ Idle tracked := by
    apply reached.invariant (fun tracked => AllActive memory tracked ∧ Idle tracked)
    · rintro _ ⟨enforceSingleSubscriber, rfl⟩
      exact ⟨by simp [AllActive], fun _ => rfl⟩
    · rintro tracked call _ ⟨active, idle⟩ ⟨guarded, rfl⟩
      have kept := active.handle idle guarded
      exact ⟨kept, idle.handle kept⟩
  exact ⟨ok.1, ok.2, fun _ isAnswer => answered ok.1 ok.2 isAnswer,
    fun _ isClose => reopened ok.1 isClose⟩

section Runs

def wifiClient : Subscriber := ⟨3, .wifi (some "net") none, false⟩

theorem reachable_waitingOk_one :
    ∃ tracked : Tracked, tracked.waiting = [wifiClient] ∧ tracked.WaitingOk fun _ => [] := by
  refine ⟨_, ?_, reachable_waitingOk (.next (.subscribeRsrc wifiClient)
    (.start ⟨false, rfl⟩) ⟨?_, rfl⟩)⟩
  · decide
  · rintro subscriber - - ⟨entry, mem, -⟩
    simp [new] at mem

/-- A client that subscribes again while its interface is released is lost. -/
theorem reachable_not_waitingOk :
    ¬∀ (memory : SubscriberKind → List UInt8) (tracked : Tracked),
      Run.Reachable IsInit (Step memory) tracked → tracked.WaitingOk memory := by
  intro always
  have ok := always (fun _ => []) _ (.next (.subscribeRsrc wifiClient)
    (.next (.unsubscribeRsrc wifiClient)
      (.next (.subscribeRsrc wifiClient) (.start ⟨false, rfl⟩) rfl) rfl) rfl)
  rcases ok.active wifiClient (by decide) with ⟨entry, mem, active, -⟩
  revert entry
  decide

end Runs

end Tracked

end AgpsStateMachine

end HtcPme.Gps
