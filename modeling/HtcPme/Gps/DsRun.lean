import HtcPme.Gps.DsStateMachine

/-!
# Runs of a DSStateMachine

A subscriber that leaves is inactive, and one that is active while the machine is released is tried
again.
-/

namespace HtcPme.Gps

namespace DsStateMachine

open AgpsStateMachine Subscriber

def Call.ret : Call → ℤ
  | .subscribeRsrc _ ret | .released ret | .denied ret | .retry ret => ret
  | .unsubscribeRsrc _ | .granted | .retryCallback => 0

def Call.isRetry : Call → Bool
  | .retry _ => true
  | _ => false

def Busy (call : Call) (next : DsStateMachine) : Prop :=
  next.machine.Sent .requestAgpsDataConn ∧ call.ret = errEngineBusy

instance (call : Call) (next : DsStateMachine) : Decidable (Busy call next) :=
  inferInstanceAs (Decidable (_ ∧ _))

structure Counted where
  ds : DsStateMachine
  tries : ℕ
deriving DecidableEq

namespace Counted

variable (memory : SubscriberKind → List UInt8) (counted : Counted) (call : Call)

def tried (next : DsStateMachine) : ℕ :=
  if Busy call next then if call.isRetry then counted.tries + 1 else 1 else counted.tries

def handle : Option Counted :=
  (counted.ds.call memory call).map fun next => ⟨next, counted.tried call next⟩

def IsInit (counted : Counted) : Prop := counted = ⟨new, 0⟩

def UnsubscribeGuard : Call → Prop
  | .unsubscribeRsrc connHandle => counted.ds.machine.mStatePtr = .released →
      ∀ entry ∈ counted.ds.machine.mSubscribers, entry.id ≠ connHandle
  | _ => True

def StartGuard (ret : ℤ) (queued : List UInt32) : Prop :=
  counted.ds.machine.mStatePtr = .released →
    ret = 0 ∨ ret = errEngineBusy ∧ counted.ds.machine.mRetries < maxStartDataCallRetries ∨
      0 < counted.ds.machine.timers ∨ queued ≠ []

def ReleasedGuard : Call → Prop
  | .subscribeRsrc _ ret => counted.StartGuard ret counted.ds.queued
  | .retry ret => counted.StartGuard ret counted.ds.queued.tail
  | _ => True

/-- No retries are counted when a new data call finds the modem busy. A denial resets them first. -/
def RetriesGuard : Call → Prop
  | .subscribeRsrc _ ret => counted.ds.machine.mStatePtr = .released → ret = errEngineBusy →
      counted.ds.machine.mRetries = 0
  | .released ret => counted.ds.machine.mStatePtr = .releasing →
      counted.ds.machine.hasActiveSubscribers = true → ret = errEngineBusy →
        counted.ds.machine.mRetries = 0
  | _ => True

def DsGuard : Prop :=
  counted.UnsubscribeGuard call ∧ counted.ReleasedGuard call ∧ counted.RetriesGuard call

def Step (counted : Counted) (call : Call) (next : Counted) : Prop :=
  counted.handle memory call = some next

/-- A retry timer is started, and nobody is told to do without the data call who was not notified of
a denial. -/
def TriesAgain (next : DsStateMachine) : Prop :=
  next.machine.timers = counted.ds.machine.timers + 1 ∧
    ∀ handle, .requestATL handle ∈ next.machine.messages →
      ∃ told ∈ next.machine.notified, told.2 = .denied ∧ told.1.id = handle

structure DsOk (allowed : Call → Prop) : Prop where
  unsubscribed : ∀ connHandle next, allowed (.unsubscribeRsrc connHandle) →
    Step memory counted (.unsubscribeRsrc connHandle) next →
      ∀ entry ∈ next.ds.machine.mSubscribers,
        entry.equals memory (dsSubscriber connHandle) = true → entry.isInactive = true
  released : counted.ds.machine.mStatePtr = .released →
    counted.ds.machine.hasActiveSubscribers = true →
      0 < counted.ds.machine.timers ∨ counted.ds.queued ≠ []
  retried : ∀ call next, allowed call → Step memory counted call next → Busy call next.ds →
    next.tries ≤ maxStartDataCallRetries.toNat → counted.TriesAgain next.ds

variable {memory counted call}

structure Inv (counted : Counted) : Prop where
  inv : DsInv counted.ds.machine
  few : counted.ds.machine.mRetries ≤ maxStartDataCallRetries
  tries : counted.ds.machine.mRetries.toNat ≤ counted.tries
  released : counted.ds.machine.mStatePtr = .released →
    counted.ds.machine.hasActiveSubscribers = true →
      0 < counted.ds.machine.timers ∨ counted.ds.queued ≠ []

theorem Inv.fresh (inv : Inv counted) : DsInv counted.ds.machine.fresh :=
  ⟨inv.inv.list, inv.inv.enforce, inv.inv.releasing⟩

theorem retries_le {before after : UInt8} (same : after = before ∨ after = 0) :
    after.toNat ≤ before.toNat := by
  rcases same with rfl | rfl
  · exact Nat.le_refl _
  · exact Nat.zero_le _

section Steps

variable {ds : DsStateMachine}

theorem not_busy_of_quiet (quiet : Quiet counted.ds.machine.fresh ds.machine) : ¬Busy call ds := by
  rintro ⟨⟨request, mem, isRequest⟩, -⟩
  rcases quiet.requests request mem with isOld | release
  · simp [AgpsStateMachine.fresh] at isOld
  · simp [isRequest] at release

theorem Inv.quiet (inv : Inv counted) (quiet : Quiet counted.ds.machine.fresh ds.machine)
    (queue : counted.ds.machine.mStatePtr = .released → ds.queued = counted.ds.queued) :
    Inv ⟨ds, counted.tries⟩ := by
  have fewer := retries_le quiet.retries
  have few := inv.few
  have tries := inv.tries
  rw [UInt8.le_iff_toNat_le] at few
  simp only [AgpsStateMachine.fresh] at fewer
  refine ⟨quiet.inv, ?_, ?_, ?_⟩
  · rw [UInt8.le_iff_toNat_le]
    simp only
    omega
  · simp only
    omega
  · intro released active
    rcases quiet.released released with ⟨wasReleased, same⟩ | inactive
    · have timers : ds.machine.timers = counted.ds.machine.timers := quiet.timers
      simp only [timers, queue wasReleased]
      apply inv.released wasReleased
      rw [hasActiveSubscribers_iff] at active ⊢
      rw [same] at active
      exact active
    · rcases hasActiveSubscribers_iff.mp active with ⟨entry, mem, isActive⟩
      simp [inactive entry mem] at isActive

theorem busy_iff {event : RsrcEvent} {before : AgpsStateMachine}
    (starts : Starts counted.ds.machine.fresh call.ret event before ds.machine) :
    Busy call ds ↔ call.ret = errEngineBusy := by
  refine and_iff_right ?_
  rcases starts.isCall with ⟨state, isCall⟩
  rw [isCall]
  exact dsSend_sent before

theorem Inv.starts {event : RsrcEvent} {before : AgpsStateMachine} (inv : Inv counted)
    (starts : Starts counted.ds.machine.fresh call.ret event before ds.machine)
    (guarded : (∃ subscriber, event = .subscribe subscriber) →
      counted.StartGuard call.ret ds.queued)
    (few : call.ret = errEngineBusy →
      before.mRetries.toNat ≤ if call.isRetry then counted.tries else 0) :
    Inv ⟨ds, counted.tried call ds⟩ ∧
      (Busy call ds → counted.tried call ds ≤ maxStartDataCallRetries.toNat →
        counted.TriesAgain ds) := by
  have fewer := retries_le starts.begins.retries
  have tries := inv.tries
  have timers : before.timers = counted.ds.machine.timers := starts.begins.timers
  have wereFew : before.mRetries ≤ maxStartDataCallRetries := by
    have few := inv.few
    rw [UInt8.le_iff_toNat_le] at few ⊢
    exact Nat.le_trans fewer few
  have answer := starts.answer wereFew
  have busyIff := busy_iff starts
  simp only [AgpsStateMachine.fresh] at fewer
  split at answer
  · rename_i retried
    have few := few retried.1
    have isBusy := busyIff.mpr retried.1
    refine ⟨⟨starts.inv, answer.few, ?_, fun _ _ => ?_⟩, fun _ _ => ⟨?_, ?_⟩⟩
    · simp only [tried, isBusy, if_true, answer.retries]
      split <;> rename_i isRetry <;> simp only [isRetry] at few <;> simp at few ⊢ <;> omega
    · simp only [answer.timers]
      exact Or.inl (Nat.succ_pos _)
    · rw [answer.timers, timers]
    · intro handle mem
      rw [answer.messages] at mem
      rw [answer.notified]
      rcases starts.begins.messages handle mem with isOld | told
      · simp [AgpsStateMachine.fresh] at isOld
      · exact told
  · rename_i notRetried
    rcases answer with ⟨⟨sameTimers, retries⟩, fails⟩
    have fewerNext := retries_le retries
    rw [UInt8.le_iff_toNat_le] at wereFew
    refine ⟨⟨starts.inv, ?_, ?_, ?_⟩, ?_⟩
    · rw [UInt8.le_iff_toNat_le]
      exact Nat.le_trans fewerNext wereFew
    · simp only [tried]
      split
      · rename_i isBusy
        have few := few (busyIff.mp isBusy)
        split <;> rename_i isRetry <;> simp only [isRetry] at few <;> simp at few ⊢ <;> omega
      · exact Nat.le_trans (Nat.le_trans fewerNext fewer) tries
    · intro isReleased _
      simp only [sameTimers, timers]
      rcases starts.released isReleased with ⟨wasReleased, isSubscribe, -⟩
      rcases guarded isSubscribe wasReleased with success | ⟨busy, left⟩ | pending
      · exact absurd success (fails isReleased)
      · refine absurd ⟨busy, ?_⟩ notRetried
        rw [UInt8.lt_iff_toNat_lt] at left ⊢
        omega
      · exact pending
    · intro isBusy triesLeft
      have busy := busyIff.mp isBusy
      have few := few busy
      refine absurd ⟨busy, ?_⟩ notRetried
      rw [UInt8.lt_iff_toNat_lt]
      simp only [tried, isBusy, if_true] at triesLeft
      split at few <;> rename_i isRetry <;> simp only [isRetry] at triesLeft <;>
        simp at triesLeft <;> omega

theorem Inv.event {event : RsrcEvent} (inv : Inv counted)
    (step : DsStep memory counted.ds.machine.fresh call.ret event ds.machine)
    (isDs : DsEvent memory counted.ds.machine.fresh event)
    (queue : counted.ds.machine.mStatePtr = .released → ds.queued = counted.ds.queued)
    (guarded : (∃ subscriber, event = .subscribe subscriber) →
      counted.StartGuard call.ret ds.queued)
    (few : ∀ before, Begins counted.ds.machine.fresh event before → call.ret = errEngineBusy →
      before.mRetries.toNat ≤ if call.isRetry then counted.tries else 0) :
    Inv ⟨ds, counted.tried call ds⟩ ∧
      (Busy call ds → counted.tried call ds ≤ maxStartDataCallRetries.toNat →
        counted.TriesAgain ds) := by
  rcases step.starts inv.fresh isDs with quiet | ⟨before, starts⟩
  · have notBusy : ¬Busy call ds := not_busy_of_quiet quiet
    have same : counted.tried call ds = counted.tries := if_neg notBusy
    rw [same]
    exact ⟨inv.quiet quiet queue, fun isBusy => absurd isBusy notBusy⟩
  · exact inv.starts starts guarded (few before starts.begins)

end Steps

theorem subscribe_eq (inv : Inv counted) (connHandle : UInt32) (ret : ℤ) :
    counted.ds.subscribe memory connHandle ret =
      counted.ds.machine.fresh.stateOnRsrcEvent memory (dsSendRsrcRequest ret)
        (.subscribe (dsSubscriber connHandle)) := by
  simp only [subscribe, subscribeRsrc, inv.fresh.enforce]
  rfl

theorem step_unsubscribe (inv : Inv counted) (connHandle : UInt32) :
    DsStep memory counted.ds.machine.fresh 0 .granted
      (counted.ds.unsubscribe memory connHandle) := by
  simp only [unsubscribe, unsubscribeRsrc]
  split
  · rename_i entry found
    have step : DsStep memory counted.ds.machine.fresh 0
        (.unsubscribe (dsSubscriber connHandle) entry) _ := dsStep inv.fresh found
    cases step with
    | quiet quiet => exact .quiet quiet
  · exact .quiet (Quiet.refl inv.fresh)

theorem begins_zero {event : RsrcEvent} {before : AgpsStateMachine}
    (begins : Begins counted.ds.machine.fresh event before)
    (zero : counted.ds.machine.mRetries = 0) : before.mRetries.toNat ≤ 0 := by
  have fewer := retries_le begins.retries
  simpa [AgpsStateMachine.fresh, zero] using fewer

theorem Inv.handle {next : Counted} (inv : Inv counted) (guarded : DsGuard counted call)
    (stepped : Step memory counted call next) :
    Inv next ∧ (Busy call next.ds → next.tries ≤ maxStartDataCallRetries.toNat →
      counted.TriesAgain next.ds) := by
  rcases guarded with ⟨-, released, retries⟩
  rcases Option.map_eq_some_iff.mp stepped with ⟨ds, called, rfl⟩
  cases call with
  | subscribeRsrc connHandle ret =>
      cases called
      rw [subscribe_eq inv]
      refine inv.event (dsStep inv.fresh rfl) rfl (fun _ => rfl) (fun _ => released) ?_
      intro before begins busy
      rcases begins.newCall with ⟨-, -, isReleased⟩ | ⟨isRelease, -⟩ | zero
      · exact begins_zero begins (retries isReleased busy)
      · simp at isRelease
      · simp [zero]
  | unsubscribeRsrc connHandle =>
      cases called
      refine inv.event (step_unsubscribe inv connHandle) trivial (fun _ => rfl) ?_ ?_
      · exact fun _ _ => Or.inl rfl
      · simp [Call.ret, errEngineBusy]
  | granted =>
      cases called
      refine inv.event (dsStep inv.fresh trivial) trivial (fun _ => rfl) ?_ ?_
      · exact fun _ _ => Or.inl rfl
      · simp [Call.ret, errEngineBusy]
  | released ret =>
      cases called
      refine inv.event (dsOnRsrcEvent_released inv.fresh) trivial (fun _ => rfl) ?_ ?_
      · simp
      · intro before begins busy
        rcases begins.newCall with ⟨subscriber, isSubscribe, -⟩ | ⟨-, releasing, active⟩ | zero
        · simp at isSubscribe
        · exact begins_zero begins (retries releasing active busy)
        · simp [zero]
  | denied ret =>
      cases called
      refine inv.event (dsStep inv.fresh trivial) trivial (fun _ => rfl) ?_ ?_
      · simp
      · intro before begins busy
        rcases begins.newCall with ⟨subscriber, isSubscribe, -⟩ | ⟨isRelease, -⟩ | zero
        · simp at isSubscribe
        · simp at isRelease
        · simp [zero]
  | retryCallback =>
      simp only [DsStateMachine.call] at called
      split at called
      · contradiction
      · rename_i timers
        cases called
        have notBusy : ¬Busy .retryCallback
            ⟨{ counted.ds.machine.fresh with timers := counted.ds.machine.timers - 1 },
              counted.ds.queued ++ (counted.ds.machine.firstActive.map (·.id)).toList⟩ := by
          simp [Busy, Sent, AgpsStateMachine.fresh]
        refine ⟨?_, fun isBusy => absurd isBusy notBusy⟩
        simp only [tried, notBusy, if_false]
        refine ⟨⟨inv.inv.list, inv.inv.enforce, inv.inv.releasing⟩, inv.few, inv.tries,
          fun _ active => Or.inr ?_⟩
        have isActive : counted.ds.machine.firstActive.isSome = true := active
        rcases Option.isSome_iff_exists.mp isActive with ⟨subscriber, isFirst⟩
        simp [isFirst]
  | retry ret =>
      simp only [DsStateMachine.call] at called
      split at called
      · contradiction
      · rename_i connHandle queued isQueued
        cases called
        simp only [ReleasedGuard, isQueued, List.tail_cons] at released
        have few : ∀ before, Begins counted.ds.machine.fresh
            (.subscribe (dsSubscriber connHandle)) before → (Call.retry ret).ret = errEngineBusy →
              before.mRetries.toNat ≤ if (Call.retry ret).isRetry then counted.tries else 0 :=
          fun before begins _ => Nat.le_trans (retries_le begins.retries) inv.tries
        rw [subscribe_eq inv]
        by_cases isReleased : counted.ds.machine.mStatePtr = .released
        · have isFresh : counted.ds.machine.fresh.mStatePtr = .released := isReleased
          have isStart : counted.ds.machine.fresh.stateOnRsrcEvent memory (dsSendRsrcRequest ret)
              (.subscribe (dsSubscriber connHandle)) =
                counted.ds.machine.fresh.requested memory ret (dsSubscriber connHandle) := by
            simp only [stateOnRsrcEvent, isFresh]
            rfl
          rw [isStart]
          have starts : Starts counted.ds.machine.fresh ret (.subscribe (dsSubscriber connHandle)) _
              (counted.ds.machine.fresh.requested memory ret (dsSubscriber connHandle)) :=
            starts_requested inv.fresh rfl isFresh
          exact inv.starts starts (fun _ => released) (few _ starts.begins)
        · exact inv.event (dsStep inv.fresh rfl) rfl (fun same => absurd same isReleased)
            (fun _ => released) few

theorem Inv.unsubscribed {connHandle : UInt32} {next : Counted} (inv : Inv counted)
    (guarded : counted.UnsubscribeGuard (.unsubscribeRsrc connHandle))
    (stepped : Step memory counted (.unsubscribeRsrc connHandle) next) {entry : Subscriber}
    (mem : entry ∈ next.ds.machine.mSubscribers)
    (equal : entry.equals memory (dsSubscriber connHandle) = true) : entry.isInactive = true := by
  rcases Option.map_eq_some_iff.mp stepped with ⟨ds, called, rfl⟩
  cases called
  simp only [unsubscribe, unsubscribeRsrc] at mem
  split at mem
  · rename_i first found
    have isFirst := List.mem_of_find?_eq_some found
    have notReleased : counted.ds.machine.fresh.mStatePtr ≠ .released := by
      intro isReleased
      have equalFirst := List.find?_some found
      rw [equals_of_ds (inv.fresh.list.kind first isFirst), beq_iff_eq] at equalFirst
      exact guarded isReleased first isFirst equalFirst
    rw [unsubscribe_inactivates inv.fresh isFirst notReleased] at mem
    exact inactive_of_inactivate inv.fresh.list mem equal
  · rename_i notFound
    exact absurd equal (List.find?_eq_none.mp notFound entry mem)

/-- As long as nobody unsubscribes from the released machine, a subscriber that leaves is inactive,
one that is active in the released state is tried again, and every data call has all its retries. -/
theorem reachable_dsOk
    (reached : Run.Reachable IsInit (Run.Guarded DsGuard (Step memory)) counted) :
    DsOk memory counted (DsGuard counted) := by
  have inv : Inv counted := by
    apply reached.invariant Inv
    · rintro _ rfl
      refine ⟨⟨⟨?_, ?_⟩, rfl, ?_⟩, ?_, ?_, ?_⟩
      all_goals simp [new, AgpsStateMachine.new, hasActiveSubscribers, firstActive]
    · rintro counted call next inv ⟨guarded, stepped⟩
      exact (inv.handle guarded stepped).1
  refine ⟨?_, inv.released, ?_⟩
  · intro connHandle next guarded stepped entry mem equal
    exact inv.unsubscribed guarded.1 stepped mem equal
  · intro call next guarded stepped
    exact (inv.handle guarded stepped).2

section Runs

theorem reachable_dsOk_retry :
    ∃ counted : Counted, counted.ds.queued = [1] ∧
      DsOk (fun _ => []) counted (DsGuard counted) := by
  refine ⟨_, ?_, reachable_dsOk (.next .retryCallback (.next (.subscribeRsrc 1 errEngineBusy)
    (.start rfl) ⟨⟨trivial, fun _ => Or.inr (Or.inl ⟨rfl, ?_⟩), fun _ _ => rfl⟩, rfl⟩)
      ⟨⟨trivial, trivial, trivial⟩, rfl⟩)⟩
  · decide
  · decide

def emptyMemory : SubscriberKind → List UInt8 := fun _ => []

def after (calls : List Call) : Option Counted :=
  Run.runAll (fun counted call => counted.handle emptyMemory call) ⟨new, 0⟩ calls

theorem reachable_after {calls : List Call} {counted : Counted} (ran : after calls = some counted) :
    Run.Reachable IsInit (Step emptyMemory) counted :=
  Run.Reachable.runAll calls (.start rfl) ran

def fewRetries : List Call :=
  [.subscribeRsrc 1 errEngineBusy, .retryCallback, .retry 0, .granted, .released 0,
    .subscribeRsrc 2 errEngineBusy, .retryCallback, .retry errEngineBusy, .retryCallback,
    .retry errEngineBusy, .retryCallback]

theorem fewRetries_isSome : (after fewRetries).isSome = true := by decide +kernel

theorem denied_isSome :
    ((Option.get _ fewRetries_isSome).handle emptyMemory (.retry errEngineBusy)).isSome = true := by
  decide +kernel

/-- A subscriber that leaves the released machine is still active, and one for which the data call
is denied stays without a timer. -/
theorem reachable_not_dsOk :
    (∃ counted next, Run.Reachable IsInit (Step emptyMemory) counted ∧
        Step emptyMemory counted (.unsubscribeRsrc 1) next ∧
          ∃ entry ∈ next.ds.machine.mSubscribers,
            entry.equals emptyMemory (dsSubscriber 1) = true ∧ entry.isInactive = false) ∧
      (∃ counted, Run.Reachable IsInit (Step emptyMemory) counted ∧
        counted.ds.machine.mStatePtr = .released ∧
          counted.ds.machine.hasActiveSubscribers = true ∧
            counted.ds.machine.timers = 0 ∧ counted.ds.queued = []) ∧
      ∃ counted next, Run.Reachable IsInit (Step emptyMemory) counted ∧
        Step emptyMemory counted (.retry errEngineBusy) next ∧ Busy (.retry errEngineBusy) next.ds ∧
          next.tries ≤ maxStartDataCallRetries.toNat ∧ next.ds.machine.timers = 0 := by
  refine ⟨⟨_, _, .next (.subscribeRsrc 1 errEngineBusy) (.start rfl) rfl, rfl, ?_⟩,
    ⟨_, .next (.subscribeRsrc 1 errUnsupported) (.start rfl) rfl, ?_⟩,
    Option.get _ fewRetries_isSome, Option.get _ denied_isSome,
    reachable_after (Option.some_get _).symm, (Option.some_get _).symm, ?_⟩
  · decide
  · decide
  · decide +kernel

end Runs

end Counted

end DsStateMachine

end HtcPme.Gps
