import HtcPme.Foundation.Run
import HtcPme.Gps.AgpsNotify

/-!
# Runs of an AgpsStateMachine

The state says what the list holds, and requests are sent when the state changes.
-/

namespace HtcPme.Gps

open List

namespace Subscriber

variable {memory : SubscriberKind → List UInt8} {entry subscriber : Subscriber}

/-- A `BITSubscriber` without an IPv4 address takes another kind of subscriber, whose ID is
`INADDR_NONE`, for one with an IPv6 address, and finds it to be another than its own. -/
def Mistakes (memory : SubscriberKind → List UInt8) (entry subscriber : Subscriber) : Prop :=
  (∃ mIPv6Addr, entry.kind = .bit mIPv6Addr ∧
      sameString mIPv6Addr (subscriber.ipv6Read memory) = false) ∧
    (∀ mIPv6Addr, subscriber.kind ≠ .bit mIPv6Addr) ∧
      entry.id = inaddrNone ∧ subscriber.id = inaddrNone

theorem equals_comm (notMistaken : ¬Mistakes memory entry subscriber)
    (notEqual : entry.equals memory subscriber = false) :
    subscriber.equals memory entry = false := by
  rcases entry with ⟨id, kind, inactive⟩
  rcases subscriber with ⟨id', kind', inactive'⟩
  by_contra equal
  rw [Bool.not_eq_false] at equal
  have sameId : id' = id := by
    cases kind' <;> simp_all [equals]
  subst sameId
  cases kind with
  | bit mIPv6Addr =>
      cases kind' with
      | bit mIPv6Addr' =>
          simp only [equals, ipv6Read, sameString, beq_self_eq_true, Bool.true_and,
            Bool.or_eq_true, Bool.or_eq_false_iff, beq_iff_eq, beq_eq_false_iff_ne] at *
          rcases equal with ipv4 | same
          · simp [ipv4] at notEqual
          · exact notEqual.2 same.symm
      | atl _ | wifi _ _ | ds =>
          simp only [equals, beq_self_eq_true, Bool.true_and, Bool.or_eq_false_iff,
            bne_eq_false_iff_eq] at notEqual
          exact notMistaken ⟨⟨mIPv6Addr, rfl, notEqual.2⟩, by simp, notEqual.1, notEqual.1⟩
  | atl _ | wifi _ _ | ds => simp [equals] at notEqual

end Subscriber

namespace AgpsStateMachine

open Subscriber

variable {memory : SubscriberKind → List UInt8} {machine next : AgpsStateMachine} {call : Call}

def Distinct (memory : SubscriberKind → List UInt8) (one other : Subscriber) : Prop :=
  one.equals memory other = false ∧ other.equals memory one = false

instance (memory : SubscriberKind → List UInt8) : DecidableRel (Distinct memory) :=
  fun _ _ => inferInstanceAs (Decidable (_ ∧ _))

structure AgpsOk (memory : SubscriberKind → List UInt8) (machine : AgpsStateMachine) : Prop where
  released : machine.mStatePtr = .released ↔ machine.mSubscribers = []
  active : machine.mStatePtr = .pending ∨ machine.mStatePtr = .acquired →
    ∃ subscriber ∈ machine.mSubscribers, subscriber.isInactive = false
  distinct : machine.mSubscribers.Pairwise (Distinct memory)

def Sent (next : AgpsStateMachine) (action : AGpsStatusValue) : Prop :=
  ∃ request ∈ next.requests, request.1 = action

instance (next : AgpsStateMachine) (action : AGpsStatusValue) : Decidable (Sent next action) :=
  inferInstanceAs (Decidable (∃ request ∈ next.requests, request.1 = action))

/-- The interface is requested when the state becomes pending, and released when a subscriber
leaves the pending or acquired state without an active one; nothing is sent twice. -/
structure RequestsOk (machine : AgpsStateMachine) (call : Call) (next : AgpsStateMachine) :
    Prop where
  request : next.Sent .requestAgpsDataConn ↔
    machine.mStatePtr ≠ .pending ∧ next.mStatePtr = .pending
  release : next.Sent .releaseAgpsDataConn ↔
    (∃ subscriber, call = .unsubscribeRsrc subscriber) ∧
      (machine.mStatePtr = .pending ∨ machine.mStatePtr = .acquired) ∧
        ∀ subscriber ∈ next.mSubscribers, subscriber.isInactive = true
  once : next.requests.length ≤ 1

section Spec

theorem addSubscriber_cases (memory : SubscriberKind → List UInt8)
    (machine : AgpsStateMachine) (subscriber : Subscriber) :
    (∃ entry ∈ machine.mSubscribers, entry.equals memory subscriber = true ∧
        machine.addSubscriber memory subscriber = machine) ∨
      (∀ entry ∈ machine.mSubscribers, entry.equals memory subscriber = false) ∧
        machine.addSubscriber memory subscriber =
          { machine with mSubscribers := subscriber.clone :: machine.mSubscribers } := by
  simp only [addSubscriber, find?_isSome]
  split
  · rename_i found
    rcases found with ⟨entry, mem, equal⟩
    exact Or.inl ⟨entry, mem, equal, rfl⟩
  · rename_i notFound
    right
    refine ⟨?_, rfl⟩
    intro entry mem
    by_contra equal
    exact notFound ⟨entry, mem, by simpa using equal⟩

theorem sendRequest_of_active
    (active : ∃ subscriber ∈ machine.mSubscribers, subscriber.isInactive = false) :
    sendRsrcRequest .requestAgpsDataConn machine =
      (true, { machine with
        requests := machine.requests ++ [(.requestAgpsDataConn, machine.firstActive)] }) := by
  rw [← firstActive_isSome] at active
  rcases Option.isSome_iff_exists.mp active with ⟨subscriber, isFirst⟩
  simp [sendRsrcRequest, isFirst]

theorem sendRelease_of_inactive
    (inactive : ∀ subscriber ∈ machine.mSubscribers, subscriber.isInactive = true) :
    sendRsrcRequest .releaseAgpsDataConn machine =
      (true, { machine with
        requests := machine.requests ++ [(.releaseAgpsDataConn, none)] }) := by
  have isNone : machine.firstActive = none := by
    simpa [firstActive] using inactive
  simp [sendRsrcRequest, isNone]

theorem leave_spec (memory : SubscriberKind → List UInt8)
    (machine : AgpsStateMachine) (subscriber entry : Subscriber) :
    (machine.leave memory subscriber entry).mStatePtr = machine.mStatePtr ∧
      (machine.leave memory subscriber entry).requests = machine.requests ∧
      (machine.mSubscribers.Pairwise (Distinct memory) →
        (machine.leave memory subscriber entry).mSubscribers.Pairwise (Distinct memory)) := by
  simp only [leave]
  split
  · exact ⟨rfl, rfl, pairwise_inactivate (fun _ _ _ distinct => distinct)
      fun _ _ _ distinct => distinct⟩
  · rw [notifySubscribers_eq (by simp [Known])]
    simp only [informAll_mStatePtr, informAll_requests, if_true, true_and]
    exact List.Pairwise.filter _

theorem requestsOk_of_silent (silent : next.requests = [])
    (request : ¬(machine.mStatePtr ≠ .pending ∧ next.mStatePtr = .pending))
    (release : (∃ subscriber, call = .unsubscribeRsrc subscriber) →
      machine.mStatePtr = .pending ∨ machine.mStatePtr = .acquired →
        ∃ subscriber ∈ next.mSubscribers, subscriber.isInactive = false) :
    RequestsOk machine call next := by
  constructor
  · simp only [Sent, silent, not_mem_nil, false_and, exists_false, false_iff]
    exact request
  · simp only [Sent, silent, not_mem_nil, false_and, exists_false, false_iff]
    rintro ⟨isUnsubscribe, before, noneActive⟩
    rcases release isUnsubscribe before with ⟨subscriber, mem, active⟩
    simp [noneActive subscriber mem] at active
  · simp [silent]

end Spec

section Steps

theorem requestsOk_of_request {subscriber : Option Subscriber}
    (sent : next.requests = [(.requestAgpsDataConn, subscriber)])
    (before : machine.mStatePtr ≠ .pending) (after : next.mStatePtr = .pending)
    (notUnsubscribe : ∀ subscriber, call ≠ .unsubscribeRsrc subscriber) :
    RequestsOk machine call next := by
  constructor
  · simp [Sent, sent, before, after]
  · simp only [Sent, sent, mem_singleton, exists_eq_left, reduceCtorEq, false_iff]
    rintro ⟨⟨subscriber, isCall⟩, -⟩
    exact notUnsubscribe subscriber isCall
  · simp [sent]

theorem AgpsOk.unsubscribe (ok : AgpsOk memory machine) (none : machine.requests = [])
    {subscriber entry : Subscriber}
    (before : machine.mStatePtr = .pending ∨ machine.mStatePtr = .acquired) :
    AgpsOk memory (machine.unsubscribe memory sendRsrcRequest subscriber entry) ∧
      RequestsOk machine (.unsubscribeRsrc subscriber)
        (machine.unsubscribe memory sendRsrcRequest subscriber entry) := by
  rcases leave_spec memory machine subscriber entry with ⟨state, requests, distinct⟩
  have distinct := distinct ok.distinct
  simp only [AgpsStateMachine.unsubscribe]
  generalize machine.leave memory subscriber entry = next at state requests distinct ⊢
  rw [none] at requests
  by_cases isEmpty : next.mSubscribers = []
  · have inactive : ∀ subscriber ∈ next.mSubscribers, subscriber.isInactive = true := by
      simp [isEmpty]
    have hasNone : next.hasSubscribers = false := by simp [hasSubscribers, isEmpty]
    simp only [hasNone, Bool.not_false, if_true, sendRelease_of_inactive inactive]
    refine ⟨⟨by simp [isEmpty], by simp, distinct⟩, ?_, ?_, by simp [requests]⟩
    · simp [Sent, requests]
    · simp [Sent, requests, before, isEmpty]
  · have hasSome : next.hasSubscribers = true := hasSubscribers_iff.mpr isEmpty
    simp only [hasSome, Bool.not_true, Bool.false_eq_true, if_false]
    by_cases active : next.hasActiveSubscribers = true
    · simp only [active, Bool.not_true, Bool.false_eq_true, if_false]
      rw [hasActiveSubscribers_iff] at active
      have notReleased : next.mStatePtr ≠ .released := by
        rw [state]
        rcases before with pending | acquired
        · simp [pending]
        · simp [acquired]
      refine ⟨⟨iff_of_false notReleased isEmpty, fun _ => active, distinct⟩, ?_⟩
      apply requestsOk_of_silent requests
      · rw [state]
        simp
      · exact fun _ _ => active
    · rw [Bool.not_eq_true] at active
      have inactive : ∀ subscriber ∈ next.mSubscribers, subscriber.isInactive = true := by
        intro subscriber mem
        by_contra notInactive
        rw [Bool.not_eq_true] at notInactive
        have isActive := hasActiveSubscribers_iff.mpr ⟨subscriber, mem, notInactive⟩
        simp [active] at isActive
      simp only [active, Bool.not_false, if_true, sendRelease_of_inactive inactive]
      refine ⟨⟨by simp [isEmpty], by simp, distinct⟩, ?_, ?_, by simp [requests]⟩
      · simp [Sent, requests]
      · simp only [Sent, requests, nil_append, mem_singleton, exists_eq_left, true_iff]
        exact ⟨⟨subscriber, rfl⟩, before, inactive⟩

variable {subscriber : Subscriber} {status : AgpsRsrcStatus}

theorem distinct_addSubscriber (distinct : machine.mSubscribers.Pairwise (Distinct memory))
    (notMistaken : ∀ entry ∈ machine.mSubscribers, ¬Mistakes memory entry subscriber) :
    (machine.addSubscriber memory subscriber).mSubscribers.Pairwise (Distinct memory) := by
  rcases addSubscriber_cases memory machine subscriber with
    ⟨entry, mem, equal, same⟩ | ⟨none, added⟩
  · rw [same]
    exact distinct
  · rw [added]
    refine pairwise_cons.mpr ⟨?_, distinct⟩
    intro entry mem
    exact ⟨equals_comm (notMistaken entry mem) (none entry mem), none entry mem⟩

theorem addSubscriber_mStatePtr (memory : SubscriberKind → List UInt8)
    (machine : AgpsStateMachine) (subscriber : Subscriber) :
    (machine.addSubscriber memory subscriber).mStatePtr = machine.mStatePtr := by
  simp only [addSubscriber]
  split <;> rfl

theorem addSubscriber_requests (memory : SubscriberKind → List UInt8)
    (machine : AgpsStateMachine) (subscriber : Subscriber) :
    (machine.addSubscriber memory subscriber).requests = machine.requests := by
  simp only [addSubscriber]
  split <;> rfl

theorem mem_addSubscriber (memory : SubscriberKind → List UInt8)
    (machine : AgpsStateMachine) (subscriber : Subscriber) :
    (∀ entry ∈ machine.mSubscribers,
        entry ∈ (machine.addSubscriber memory subscriber).mSubscribers) ∧
      (machine.addSubscriber memory subscriber).mSubscribers ≠ [] := by
  rcases addSubscriber_cases memory machine subscriber with
    ⟨entry, mem, equal, same⟩ | ⟨none, added⟩
  · rw [same]
    exact ⟨fun _ mem => mem, ne_nil_of_mem mem⟩
  · rw [added]
    exact ⟨fun _ mem => mem_cons_of_mem _ mem, by simp⟩

theorem AgpsOk.addSubscriber (ok : AgpsOk memory machine) (none : machine.requests = [])
    (notReleased : machine.mStatePtr ≠ .released)
    (notMistaken : ∀ entry ∈ machine.mSubscribers, ¬Mistakes memory entry subscriber) :
    AgpsOk memory (machine.addSubscriber memory subscriber) ∧
      RequestsOk machine (.subscribeRsrc subscriber) (machine.addSubscriber memory subscriber) := by
  have distinct := distinct_addSubscriber ok.distinct notMistaken
  have kept := addSubscriber_mStatePtr memory machine subscriber
  have requests := addSubscriber_requests memory machine subscriber
  rw [none] at requests
  rcases mem_addSubscriber memory machine subscriber with ⟨stays, notEmpty⟩
  refine ⟨⟨?_, ?_, distinct⟩, ?_⟩
  · rw [kept]
    exact iff_of_false notReleased notEmpty
  · rw [kept]
    intro state
    rcases ok.active state with ⟨entry, mem, active⟩
    exact ⟨entry, stays entry mem, active⟩
  · apply requestsOk_of_silent requests
    · rw [kept]
      simp
    · simp

theorem AgpsOk.informAll (ok : AgpsOk memory machine) (status : AgpsRsrcStatus)
    (subscribers : List Subscriber) : AgpsOk memory (informAll status subscribers machine) := by
  constructor
  · simpa using ok.released
  · simpa using ok.active
  · simpa using ok.distinct

theorem notifyRsrcStatus_self (known : Known status) (subscriber : Subscriber) (delete : Bool) :
    (machine.notifyRsrcStatus memory subscriber ⟨.rcver subscriber, status, delete⟩).2 =
      informAll status [subscriber] machine := by
  rcases statusMessage_isSome subscriber known with ⟨message, isMessage⟩
  simp [notifyRsrcStatus, forMe, equals_self, isMessage]

section

variable (ok : AgpsOk memory machine)

include ok

variable (none : machine.requests = [])

include none

theorem AgpsOk.subscribe
    (notMistaken : ∀ entry ∈ machine.mSubscribers, ¬Mistakes memory entry subscriber) :
    AgpsOk memory (machine.stateOnRsrcEvent memory sendRsrcRequest (.subscribe subscriber)) ∧
      RequestsOk machine (.subscribeRsrc subscriber)
        (machine.stateOnRsrcEvent memory sendRsrcRequest (.subscribe subscriber)) := by
  simp only [stateOnRsrcEvent]
  cases state : machine.mStatePtr with
  | released =>
      have isEmpty := ok.released.mp state
      have added : machine.addSubscriber memory subscriber =
          { machine with mSubscribers := [subscriber.clone] } := by
        simp [AgpsStateMachine.addSubscriber, isEmpty]
      have active : ∃ entry ∈ (machine.addSubscriber memory subscriber).mSubscribers,
          entry.isInactive = false := by
        simp [added]
      simp only [releasedOnRsrcEvent]
      rw [sendRequest_of_active active]
      simp only [if_true, added]
      refine ⟨⟨by simp, by simp, by simp⟩, ?_⟩
      apply requestsOk_of_request
      · simp only [none, nil_append]
        rfl
      · simp [state]
      · rfl
      · simp
  | pending | releasing => exact ok.addSubscriber none (by simp [state]) notMistaken
  | acquired =>
      simp only [acquiredOnRsrcEvent]
      rw [notifyRsrcStatus_self (by simp [Known])]
      have notReleased : machine.mStatePtr ≠ .released := by simp [state]
      have told := (ok.informAll .granted [subscriber]).addSubscriber none notReleased notMistaken
      exact ⟨told.1, told.2.request, told.2.release, told.2.once⟩

theorem AgpsOk.unsubscribeRsrc
    {subscriber entry : Subscriber} (mem : entry ∈ machine.mSubscribers) :
    AgpsOk memory
        (machine.stateOnRsrcEvent memory sendRsrcRequest (.unsubscribe subscriber entry)) ∧
      RequestsOk machine (.unsubscribeRsrc subscriber)
        (machine.stateOnRsrcEvent memory sendRsrcRequest (.unsubscribe subscriber entry)) := by
  simp only [stateOnRsrcEvent]
  cases state : machine.mStatePtr with
  | released => simp [ok.released.mp state] at mem
  | pending => exact ok.unsubscribe none (Or.inl state)
  | acquired => exact ok.unsubscribe none (Or.inr state)
  | releasing =>
      rcases leave_spec memory machine subscriber entry with ⟨kept, requests, distinct⟩
      have distinct := distinct ok.distinct
      simp only [releasingOnRsrcEvent]
      generalize machine.leave memory subscriber entry = next at kept requests distinct ⊢
      rw [none] at requests
      by_cases isEmpty : next.mSubscribers = []
      · have hasNone : next.hasSubscribers = false := by simp [hasSubscribers, isEmpty]
        simp only [hasNone, Bool.not_false, if_true]
        refine ⟨⟨by simp [isEmpty], by simp, distinct⟩, ?_⟩
        refine requestsOk_of_silent requests ?_ ?_
        · simp
        · simp [state]
      · have hasSome : next.hasSubscribers = true := hasSubscribers_iff.mpr isEmpty
        simp only [hasSome, Bool.not_true, Bool.false_eq_true, if_false]
        refine ⟨⟨by simp [kept, state, isEmpty], by simp [kept, state], distinct⟩, ?_⟩
        apply requestsOk_of_silent requests
        · simp [kept, state]
        · simp [state]

theorem AgpsOk.closed (state : machine.mStatePtr = .releasing) (known : Known status)
    (notUnsubscribe : ∀ subscriber, call ≠ .unsubscribeRsrc subscriber) :
    AgpsOk memory (machine.closed memory sendRsrcRequest status) ∧
      RequestsOk machine call (machine.closed memory sendRsrcRequest status) := by
  have list : (machine.notifySubscribers memory ⟨.broadcastInactive, status, true⟩).mSubscribers =
      machine.mSubscribers.filter (!·.isInactive) := by
    rw [notifySubscribers_eq known]
    simp [forMe]
  have requests :
      (machine.notifySubscribers memory ⟨.broadcastInactive, status, true⟩).requests = [] := by
    rw [notifySubscribers_eq known]
    simp [none]
  simp only [AgpsStateMachine.closed]
  generalize machine.notifySubscribers memory ⟨.broadcastInactive, status, true⟩ = next
    at list requests ⊢
  have left : ∀ entry ∈ next.mSubscribers, entry.isInactive = false := by simp [list]
  have distinct : next.mSubscribers.Pairwise (Distinct memory) := by
    rw [list]
    exact ok.distinct.filter _
  split
  · rename_i active
    rw [hasActiveSubscribers_iff] at active
    simp only [sendRequest_of_active active]
    refine ⟨⟨?_, fun _ => active, distinct⟩, ?_⟩
    · rcases active with ⟨entry, mem, -⟩
      simp [ne_nil_of_mem mem]
    · apply requestsOk_of_request
      · simp only [requests, nil_append]
        rfl
      · simp [state]
      · rfl
      · exact notUnsubscribe
  · rename_i inactive
    have isEmpty : next.mSubscribers = [] := by
      apply eq_nil_iff_forall_not_mem.mpr
      intro entry mem
      exact inactive (hasActiveSubscribers_iff.mpr ⟨entry, mem, left entry mem⟩)
    refine ⟨⟨by simp [isEmpty], by simp, distinct⟩, ?_⟩
    refine requestsOk_of_silent requests ?_ ?_
    · simp
    · rintro ⟨subscriber, isCall⟩
      exact absurd isCall (notUnsubscribe subscriber)

end

theorem AgpsOk.dropAll (none : machine.requests = [])
    (known : Known status) (notUnsubscribe : ∀ subscriber, call ≠ .unsubscribeRsrc subscriber) :
    AgpsOk memory { machine.notifySubscribers memory ⟨.broadcastAll, status, true⟩ with
          mStatePtr := .released } ∧
      RequestsOk machine call
        { machine.notifySubscribers memory ⟨.broadcastAll, status, true⟩ with
          mStatePtr := .released } := by
  rw [notifySubscribers_eq known]
  have dropped : machine.mSubscribers.filter
      (!·.forMe memory ⟨.broadcastAll, status, true⟩) = [] := by
    simp [forMe]
  simp only [if_true, dropped]
  refine ⟨⟨by simp, by simp, by simp⟩, ?_⟩
  refine requestsOk_of_silent ?_ ?_ ?_
  · simp [none]
  · simp
  · rintro ⟨subscriber, isCall⟩
    exact absurd isCall (notUnsubscribe subscriber)

theorem requestsOk_same (none : machine.requests = [])
    (notUnsubscribe : ∀ subscriber, call ≠ .unsubscribeRsrc subscriber) :
    RequestsOk machine call machine := by
  apply requestsOk_of_silent none
  · simp
  · rintro ⟨subscriber, isCall⟩
    exact absurd isCall (notUnsubscribe subscriber)

end Steps

/-- No `BITSubscriber` in the list takes the new subscriber for another than itself because it is of
another kind, unless the subscriber is refused. -/
def KindGuard (memory : SubscriberKind → List UInt8) (machine : AgpsStateMachine) : Call → Prop
  | .subscribeRsrc subscriber => machine.mEnforceSingleSubscriber = false →
      ∀ entry ∈ machine.mSubscribers, ¬Mistakes memory entry subscriber
  | _ => True

def Step (memory : SubscriberKind → List UInt8) (machine : AgpsStateMachine) (call : Call)
    (next : AgpsStateMachine) : Prop := next = machine.call memory call

def IsInit (machine : AgpsStateMachine) : Prop :=
  ∃ enforceSingleSubscriber, machine = new enforceSingleSubscriber

theorem AgpsOk.step (ok : AgpsOk memory machine) (guarded : KindGuard memory machine call) :
    AgpsOk memory (machine.call memory call) ∧
      RequestsOk machine call (machine.call memory call) := by
  have freshOk : AgpsOk memory machine.fresh := ⟨ok.released, ok.active, ok.distinct⟩
  have none : machine.fresh.requests = [] := rfl
  -- what holds of the step from the state without records holds of the step
  have fromFresh : ∀ {next}, AgpsOk memory next ∧ RequestsOk machine.fresh call next →
      AgpsOk memory next ∧ RequestsOk machine call next :=
    fun both => ⟨both.1, both.2.request, both.2.release, both.2.once⟩
  cases call with
  | subscribeRsrc subscriber =>
      simp only [AgpsStateMachine.call, subscribeRsrc]
      split
      · rename_i refused
        have forAll : subscriber.forMe memory ⟨.broadcastAll, .denied, true⟩ = true := rfl
        rw [notifySubscriber_of_forMe (by simp [Known]) forAll]
        have told := freshOk.informAll .denied [subscriber]
        refine fromFresh ⟨told, ?_⟩
        exact requestsOk_of_silent none (by simp [inform]) (by simp)
      · rename_i notRefused
        apply fromFresh
        apply freshOk.subscribe none
        intro entry mem
        apply guarded _ entry mem
        by_contra enforced
        rw [Bool.not_eq_false] at enforced
        apply notRefused
        rw [Bool.and_eq_true, hasSubscribers_iff]
        exact ⟨enforced, ne_nil_of_mem mem⟩
  | unsubscribeRsrc subscriber =>
      simp only [AgpsStateMachine.call, AgpsStateMachine.unsubscribeRsrc]
      split
      · rename_i entry found
        exact fromFresh (freshOk.unsubscribeRsrc none (mem_of_find?_eq_some found))
      · rename_i notFound
        refine fromFresh ⟨freshOk, ?_⟩
        apply requestsOk_of_silent none
        · simp
        · exact fun _ before => freshOk.active before
  | granted =>
      simp only [AgpsStateMachine.call, stateOnRsrcEvent]
      cases state : machine.fresh.mStatePtr with
      | released | acquired | releasing => exact fromFresh ⟨freshOk, requestsOk_same none (by simp)⟩
      | pending =>
          simp only [pendingOnRsrcEvent]
          rw [notifySubscribers_eq (by simp [Known])]
          have notEmpty : machine.fresh.mSubscribers ≠ [] := by
            intro isEmpty
            simp [freshOk.released.mpr isEmpty] at state
          refine fromFresh ⟨⟨by simp [notEmpty], fun _ => ?_, freshOk.distinct⟩, ?_⟩
          · exact freshOk.active (Or.inl state)
          · refine requestsOk_of_silent ?_ (by simp) (by simp)
            simp [none]
  | released =>
      simp only [AgpsStateMachine.call, stateOnRsrcEvent]
      cases state : machine.fresh.mStatePtr with
      | released | pending => exact fromFresh ⟨freshOk, requestsOk_same none (by simp)⟩
      | acquired =>
          exact fromFresh (AgpsOk.dropAll none (by simp [Known]) (by simp))
      | releasing =>
          exact fromFresh (freshOk.closed none state (by simp [Known]) (by simp))
  | denied =>
      simp only [AgpsStateMachine.call, stateOnRsrcEvent]
      cases state : machine.fresh.mStatePtr with
      | released | acquired => exact fromFresh ⟨freshOk, requestsOk_same none (by simp)⟩
      | pending => exact fromFresh (AgpsOk.dropAll none (by simp [Known]) (by simp))
      | releasing =>
          exact fromFresh (freshOk.closed none state (by simp [Known]) (by simp))

structure MachineOk (memory : SubscriberKind → List UInt8) (machine : AgpsStateMachine)
    (allowed : Call → Prop) : Prop where
  released : machine.mStatePtr = .released ↔ machine.mSubscribers = []
  active : machine.mStatePtr = .pending ∨ machine.mStatePtr = .acquired →
    ∃ subscriber ∈ machine.mSubscribers, subscriber.isInactive = false
  releasing : machine.mStatePtr = .releasing → machine.mSubscribers ≠ []
  distinct : machine.mSubscribers.Pairwise (Distinct memory)
  requests : ∀ call, allowed call → RequestsOk machine call (machine.call memory call)

/-- As long as no subscriber is mistaken for another, the state says what the list holds, no two
subscribers in it are equal, and requests are sent when the state changes. -/
theorem reachable_machineOk
    (reached : Run.Reachable IsInit (Run.Guarded (KindGuard memory) (Step memory)) machine) :
    machine.MachineOk memory (KindGuard memory machine) := by
  have ok : AgpsOk memory machine := by
    apply reached.invariant (AgpsOk memory)
    · rintro _ ⟨enforceSingleSubscriber, rfl⟩
      exact ⟨by simp [new], by simp [new], by simp [new]⟩
    · rintro machine call _ ok ⟨guarded, rfl⟩
      exact (ok.step guarded).1
  refine ⟨ok.released, ok.active, ?_, ok.distinct, fun call guarded => (ok.step guarded).2⟩
  intro releasing isEmpty
  simp [ok.released.mpr isEmpty] at releasing

section Runs

def ipv6Only : Subscriber := ⟨inaddrNone, .bit [0x20, 0x01], false⟩

theorem reachable_machineOk_two :
    ∃ machine : AgpsStateMachine, machine.mSubscribers.length = 2 ∧
      machine.MachineOk (fun _ => []) (KindGuard (fun _ => []) machine) := by
  refine ⟨_, ?_, reachable_machineOk (.next (.subscribeRsrc ⟨1, .atl false, false⟩)
    (.next (.subscribeRsrc ipv6Only) (.start ⟨false, rfl⟩) ⟨?_, rfl⟩) ⟨?_, rfl⟩)⟩
  · decide
  · rintro - entry mem
    simp [new] at mem
  · rintro - entry mem ⟨-, -, -, isNone⟩
    simp [inaddrNone] at isNone

/-- A subscriber of another kind is added although the list has one with its ID. -/
theorem reachable_not_machineOk :
    ¬∀ (memory : SubscriberKind → List UInt8) (machine : AgpsStateMachine),
      Run.Reachable IsInit (Step memory) machine →
        machine.MachineOk memory fun _ => True := by
  intro always
  have ok := always (fun _ => []) _ (.next (.subscribeRsrc ⟨inaddrNone, .atl false, false⟩)
    (.next (.subscribeRsrc ipv6Only) (.start ⟨false, rfl⟩) rfl) rfl)
  exact absurd ok.distinct (by decide)

end Runs

end AgpsStateMachine

end HtcPme.Gps
