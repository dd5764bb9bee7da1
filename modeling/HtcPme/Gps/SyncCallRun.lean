import HtcPme.Gps.SyncCall

/-!
# What a call is given

A slot is of one call from the time it is taken, and the call returns the one callback that it was
given.
-/

namespace HtcPme.Gps.LocSyncCall

open Option

open Function (update update_of_ne update_self)

variable {κ δ χ π : Type*}

namespace Pc

variable {pc : Pc π} {selectId : SelectId}

@[simp]
theorem signal_slot : (pc.signal selectId).slot = pc.slot := by
  cases pc with
  | waiting waitsAt =>
      simp only [signal]
      split <;> rfl
  | _ => rfl

theorem signal_of_ne (ne : pc.slot ≠ some selectId) : pc.signal selectId = pc := by
  cases pc with
  | waiting waitsAt =>
      simp only [slot, ne_eq, some.injEq] at ne
      simp [signal, ne]
  | _ => rfl

theorem signal_ne_waiting (at_ : pc.slot = some selectId) (waitsAt : SelectId) :
    pc.signal selectId ≠ .waiting waitsAt := by
  cases pc with
  | waiting other =>
      simp only [slot, some.injEq] at at_
      simp [signal, at_]
  | _ => simp_all [signal, slot]

end Pc

structure Serves (sync : LocSyncCall κ δ χ π) (call : κ) (selectId : SelectId) : Prop where
  inUse : (sync.slots selectId).inUse = true
  locHandle : (sync.slots selectId).locHandle = some (sync.call call).handle
  ioctlType : (sync.slots selectId).ioctlType = (sync.call call).ioctlType
  waitEventMask : (sync.call call).ioctlType = 0 → (sync.slots selectId).waitEventMask = 0
  unsent : (sync.slots selectId).signalSent = false → sync.given call = []
  sent : (sync.slots selectId).signalSent = true → ∃ delivery payload,
    sync.given call = [delivery] ∧ (sync.slots selectId).receivedPayload = some payload ∧
      (sync.callback delivery).Answers (sync.call call) payload

structure CallOk (sync : LocSyncCall κ δ χ π) (call : κ) : Prop where
  scanning : ∀ index, sync.pc call = .scanning index → sync.given call = []
  serves : ∀ selectId, sync.Holds call selectId → sync.Serves call selectId
  waiting : ∀ selectId, sync.pc call = .waiting selectId →
    (sync.slots selectId).signalSent = false
  answered : ∀ payload, sync.pc call = .done (.answered payload) →
    ∃ delivery ∈ sync.given call, ∃ report, payload = some report ∧
      (sync.callback delivery).Answers (sync.call call) report
  timedOut : sync.pc call = .done .timedOut → sync.given call = []

structure Owned (sync : LocSyncCall κ δ χ π) : Prop where
  exclusive : ∀ call other selectId, sync.Holds call selectId → sync.Holds other selectId →
    call = other
  callOk : ∀ call, sync.CallOk call
  held : ∀ selectId, (sync.slots selectId).inUse = true → ∃ call, sync.Holds call selectId
  once : ∀ delivery call other, delivery ∈ sync.given call → delivery ∈ sync.given other →
    call = other
  given : ∀ delivery call, delivery ∈ sync.given call → sync.looksAt delivery = slotsMax

theorem Owned.syncCallOk {sync : LocSyncCall κ δ χ π} (owned : sync.Owned) : sync.SyncCallOk :=
  ⟨owned.exclusive, owned.once, fun call => (owned.callOk call).answered,
    fun call => (owned.callOk call).timedOut⟩

structure StepsAt (sync sync' : LocSyncCall κ δ χ π) (caller : κ) (selectId : SelectId) : Prop where
  call : sync'.call = sync.call
  callback : sync'.callback = sync.callback
  looksAt : sync'.looksAt = sync.looksAt
  given : sync'.given = sync.given
  pc : ∀ other, other ≠ caller → sync'.pc other = sync.pc other
  slots : ∀ other, other ≠ selectId → sync'.slots other = sync.slots other

section Frame

variable {sync sync' : LocSyncCall κ δ χ π} {call : κ} {selectId : SelectId}

variable {at_ : SelectId}

theorem Serves.congr (served : sync.Serves call at_)
    (calls : sync'.call = sync.call) (callback : sync'.callback = sync.callback)
    (given : sync'.given call = sync.given call) (slot : sync'.slots at_ = sync.slots at_) :
    sync'.Serves call at_ := by
  rcases served with ⟨inUse, locHandle, ioctlType, waitEventMask, unsent, sent⟩
  constructor <;> simpa only [calls, callback, given, slot]

theorem CallOk.congr (ok : sync.CallOk call) (calls : sync'.call = sync.call)
    (callback : sync'.callback = sync.callback) (given : sync'.given call = sync.given call)
    (pc : sync'.pc call = sync.pc call)
    (slots : ∀ at_, sync.Holds call at_ → sync'.slots at_ = sync.slots at_) :
    sync'.CallOk call := by
  rcases ok with ⟨scanning, serves, waiting, answered, timedOut⟩
  constructor
  · simpa only [pc, given] using scanning
  · intro at_ holds
    simp only [Holds, pc] at holds
    exact (serves at_ holds).congr calls callback given (slots at_ holds)
  · intro at_ isWaiting
    rw [pc] at isWaiting
    rw [slots at_ (by rw [Holds, isWaiting]; rfl)]
    exact waiting at_ isWaiting
  · simpa only [pc, given, calls, callback] using answered
  · simpa only [pc, given] using timedOut

theorem Owned.keep (owned : sync.Owned) (steps : StepsAt sync sync' call selectId)
    (alone : ∀ other, other ≠ call → ¬ sync.Holds other selectId)
    (before : ∀ at_, sync.Holds call at_ → at_ = selectId)
    (own : ∀ at_, sync'.Holds call at_ → at_ = selectId) (ok : sync'.CallOk call)
    (held : (sync'.slots selectId).inUse = true → sync'.Holds call selectId) : sync'.Owned := by
  have holds : ∀ other, other ≠ call → ∀ at_, sync'.Holds other at_ ↔ sync.Holds other at_ := by
    intro other ne at_
    simp only [Holds, steps.pc other ne]
  constructor
  · intro first second at_ firstHolds secondHolds
    by_cases firstIs : first = call
    · by_cases secondIs : second = call
      · rw [firstIs, secondIs]
      · rw [firstIs] at firstHolds
        rw [own at_ firstHolds, holds second secondIs] at secondHolds
        exact absurd secondHolds (alone second secondIs)
    · by_cases secondIs : second = call
      · rw [secondIs] at secondHolds
        rw [own at_ secondHolds, holds first firstIs] at firstHolds
        exact absurd firstHolds (alone first firstIs)
      · rw [holds first firstIs] at firstHolds
        rw [holds second secondIs] at secondHolds
        exact owned.exclusive first second at_ firstHolds secondHolds
  · intro other
    by_cases isCall : other = call
    · rw [isCall]
      exact ok
    · apply (owned.callOk other).congr steps.call steps.callback (by rw [steps.given])
        (steps.pc other isCall)
      intro at_ otherHolds
      apply steps.slots
      rintro rfl
      exact alone other isCall otherHolds
  · intro at_ inUse
    by_cases isSelected : at_ = selectId
    · rw [isSelected] at inUse ⊢
      exact ⟨call, held inUse⟩
    · rw [steps.slots at_ isSelected] at inUse
      rcases owned.held at_ inUse with ⟨other, otherHolds⟩
      have isOther : other ≠ call := by
        rintro rfl
        exact isSelected (before at_ otherHolds)
      exact ⟨other, (holds other isOther at_).mpr otherHolds⟩
  · simpa only [steps.given] using owned.once
  · simpa only [steps.given, steps.looksAt] using owned.given

theorem Owned.alone (owned : sync.Owned) (holds : sync.Holds call selectId) (other : κ)
    (ne : other ≠ call) : ¬ sync.Holds other selectId := fun otherHolds =>
  ne (owned.exclusive other call selectId otherHolds holds)

theorem Holds.unique (holds : sync.Holds call selectId)
    (holdsAt : sync.Holds call at_) : at_ = selectId :=
  some.inj (holdsAt.symm.trans holds)

theorem Owned.init (calls : κ → Call χ) (callback : δ → Callback χ π) :
    (init calls callback).Owned := by
  constructor
  · simp [LocSyncCall.init, Holds, Pc.slot]
  · intro call
    constructor <;> simp [LocSyncCall.init, Holds, Pc.slot]
  · simp [LocSyncCall.init, Slot.init]
  · simp [LocSyncCall.init]
  · simp [LocSyncCall.init]

end Frame

section Steps

variable [DecidableEq κ] {sync : LocSyncCall κ δ χ π} {call : κ} {selectId : SelectId}

theorem stepsAt_goOn (pc : Pc π) : StepsAt sync (sync.goOn call pc) call selectId := by
  constructor
  · rfl
  · rfl
  · rfl
  · rfl
  · intro other ne
    exact update_of_ne ne _ _
  · exact fun _ _ => rfl

theorem stepsAt_finish (outcome : Outcome π) :
    StepsAt sync (sync.finish call selectId outcome) call selectId := by
  constructor
  · rfl
  · rfl
  · rfl
  · rfl
  · intro other ne
    exact update_of_ne ne _ _
  · intro other ne
    exact update_of_ne ne _ _

@[simp]
theorem goOn_pc (pc : Pc π) : (sync.goOn call pc).pc call = pc := update_self ..

variable (owned : sync.Owned)

include owned

variable {pc : Pc π}

theorem Owned.goOn_slot (holds : sync.Holds call selectId) (slot : pc.slot = some selectId)
    (waiting : ∀ at_, pc = .waiting at_ → (sync.slots at_).signalSent = false) :
    (sync.goOn call pc).Owned := by
  have served := (owned.callOk call).serves selectId holds
  have holds' : (sync.goOn call pc).Holds call selectId := by
    simpa [Holds] using slot
  apply owned.keep (stepsAt_goOn pc) (owned.alone holds) (fun _ => holds.unique)
    (fun _ => holds'.unique)
  · constructor
    · intro index isScanning
      rw [goOn_pc] at isScanning
      simp [isScanning, Pc.slot] at slot
    · intro at_ holdsAt
      rw [holds'.unique holdsAt]
      exact served.congr rfl rfl rfl rfl
    · intro at_ isWaiting
      rw [goOn_pc] at isWaiting
      exact waiting at_ isWaiting
    · intro payload isDone
      rw [goOn_pc] at isDone
      simp [isDone, Pc.slot] at slot
    · intro isDone
      rw [goOn_pc] at isDone
      simp [isDone, Pc.slot] at slot
  · exact fun _ => holds'

theorem Owned.goOn_none (noSlot : (sync.pc call).slot = none)
    (slot : pc.slot = none) (notGiven : sync.given call = [])
    (notAnswered : ∀ payload, pc ≠ .done (.answered payload)) : (sync.goOn call pc).Owned := by
  have holds : ∀ other at_, (sync.goOn call pc).Holds other at_ ↔ sync.Holds other at_ := by
    intro other at_
    by_cases isCall : other = call
    · simp [isCall, Holds, slot, noSlot]
    · simp [Holds, goOn, update_of_ne isCall]
  constructor
  · intro first second at_
    simp only [holds]
    exact owned.exclusive first second at_
  · intro other
    by_cases isCall : other = call
    · rw [isCall]
      constructor
      · exact fun _ _ => notGiven
      · simp [Holds, slot]
      · intro at_ isWaiting
        rw [goOn_pc] at isWaiting
        simp [isWaiting, Pc.slot] at slot
      · intro payload isDone
        rw [goOn_pc] at isDone
        exact absurd isDone (notAnswered payload)
      · exact fun _ => notGiven
    · exact (owned.callOk other).congr rfl rfl rfl (update_of_ne isCall ..)
        fun _ _ => rfl
  · intro at_ inUse
    rcases owned.held at_ inUse with ⟨other, otherHolds⟩
    exact ⟨other, (holds other at_).mpr otherHolds⟩
  · exact owned.once
  · exact owned.given

theorem Owned.finish {outcome : Outcome π} (holds : sync.Holds call selectId)
    (answered : ∀ payload, outcome = .answered payload →
      ∃ delivery ∈ sync.given call, ∃ report, payload = some report ∧
        (sync.callback delivery).Answers (sync.call call) report)
    (timedOut : outcome = .timedOut → sync.given call = []) :
    (sync.finish call selectId outcome).Owned := by
  have isDone : (sync.finish call selectId outcome).pc call = .done outcome := by
    simp [LocSyncCall.finish]
  apply owned.keep (stepsAt_finish outcome) (owned.alone holds) (fun _ => holds.unique)
  · intro at_ holdsAt
    simp [Holds, isDone, Pc.slot] at holdsAt
  · constructor
    · simp [isDone]
    · simp [Holds, isDone, Pc.slot]
    · simp [isDone]
    · intro payload isAnswered
      rw [isDone, Pc.done.injEq] at isAnswered
      exact answered payload isAnswered
    · intro isTimedOut
      rw [isDone, Pc.done.injEq] at isTimedOut
      exact timedOut isTimedOut
  · simp [LocSyncCall.finish]

theorem Owned.take (noSlot : (sync.pc call).slot = none)
    (notGiven : sync.given call = []) (notInUse : (sync.slots selectId).inUse = false)
    (isCalling : pc = .calling selectId) :
    ({ sync.goOn call pc with
      slots := update sync.slots selectId
        ((sync.slots selectId).take (sync.call call)) } : LocSyncCall κ δ χ π).Owned := by
  subst isCalling
  refine owned.keep (?_ : StepsAt sync _ call selectId) ?_ ?_ ?_ ?_ ?_
  · constructor
    · rfl
    · rfl
    · rfl
    · rfl
    · intro other ne
      exact update_of_ne ne _ _
    · intro other ne
      exact update_of_ne ne _ _
  · intro other _ holds
    have inUse := ((owned.callOk other).serves selectId holds).inUse
    rw [notInUse] at inUse
    cases inUse
  · simp [Holds, noSlot]
  · simp [Holds, Pc.slot]
  · constructor
    · simp
    · intro at_ holds
      simp only [Holds, goOn_pc, Pc.slot, some.injEq] at holds
      subst holds
      constructor
      · simp [Slot.take]
      · simp [Slot.take, goOn]
      · simp [Slot.take, goOn]
      · intro noType
        have same : (sync.call call).ioctlType = 0 := noType
        simp [Slot.take, same]
      · exact fun _ => notGiven
      · simp [Slot.take]
    · simp
    · simp
    · simp
  · simp [Holds, Pc.slot]

theorem Owned.locLockASlot {index : ℕ}
    (isScanning : sync.pc call = .scanning index) : (sync.locLockASlot call index).Owned := by
  have noSlot : (sync.pc call).slot = none := by
    rw [isScanning]
    rfl
  have notGiven : sync.given call = [] := (owned.callOk call).scanning index isScanning
  unfold LocSyncCall.locLockASlot
  split
  · dsimp only
    split
    · rename_i free
      exact owned.take noSlot notGiven (by simp_all) rfl
    · exact owned.goOn_none noSlot rfl notGiven (by simp)
  · exact owned.goOn_none noSlot rfl notGiven (by simp)

theorem Owned.locApiWaitCallback (holds : sync.Holds call selectId) :
    (sync.locApiWaitCallback call selectId).Owned := by
  have served := (owned.callOk call).serves selectId holds
  unfold LocSyncCall.locApiWaitCallback
  split
  · rename_i signalSent
    rcases served.sent signalSent with ⟨delivery, payload, given, received, answers⟩
    apply owned.finish holds
    · intro returned isAnswered
      cases isAnswered
      exact ⟨delivery, by simp [given], payload, received, answers⟩
    · simp
  · rename_i notSent
    apply owned.goOn_slot holds rfl
    intro at_ isWaiting
    cases isWaiting
    simpa using notSent

theorem Owned.locLockSlot {rc : ℤ} (isReturned : sync.pc call = .returned selectId rc) :
    (sync.locLockSlot call selectId rc).Owned := by
  have holds : sync.Holds call selectId := by rw [Holds, isReturned, Pc.slot]
  unfold LocSyncCall.locLockSlot
  split
  · apply owned.finish holds <;> simp
  · exact owned.locApiWaitCallback holds

theorem Owned.relock (isWoken : sync.pc call = .woken selectId true)
    (notSent : (sync.slots selectId).signalSent = false) :
    (sync.finish call selectId .timedOut).Owned := by
  have holds : sync.Holds call selectId := by rw [Holds, isWoken, Pc.slot]
  have served := (owned.callOk call).serves selectId holds
  apply owned.finish holds
  · simp
  · exact fun _ => served.unsent notSent

end Steps

section Deliveries

variable {sync : LocSyncCall κ δ χ π} {delivery : δ} {selectId : SelectId}

theorem Owned.answers (owned : sync.Owned)
    (isMatch : (sync.slots selectId).Matches (sync.callback delivery))
    (guarded : (sync.slots selectId).Awaits (sync.callback delivery) →
      (sync.callback delivery).locEvent = ioctlReport ∨
        ∃ payload ∈ (sync.callback delivery).payload,
          payload.type = (sync.slots selectId).ioctlType) :
    ∃ call payload, sync.Holds call selectId ∧ sync.given call = [] ∧
      (sync.callback delivery).payload = some payload ∧
      (sync.callback delivery).Answers (sync.call call) payload := by
  rcases isMatch with ⟨inUse, notSent, locHandle, matched⟩
  simp only [locMatchCallback, Bool.decide_and, Bool.decide_or, Bool.and_eq_true,
    decide_eq_true_eq, Bool.or_eq_true] at matched
  rcases owned.held selectId inUse with ⟨call, holds⟩
  have served := (owned.callOk call).serves selectId holds
  have sameHandle : (sync.callback delivery).locHandle = (sync.call call).handle :=
    some.inj (locHandle.symm.trans served.locHandle)
  have typed : ∃ payload ∈ (sync.callback delivery).payload,
      payload.type = (sync.slots selectId).ioctlType := by
    rcases guarded ⟨inUse, notSent, locHandle, matched.1⟩ with isReport | typed
    · rcases matched.2 with notReport | noType | typed
      · exact absurd isReport notReport
      · have noMask := served.waitEventMask (served.ioctlType.symm.trans noType)
        rw [noMask] at matched
        simp at matched
      · exact typed
    · exact typed
  rcases typed with ⟨payload, isPayload, type⟩
  refine ⟨call, payload, holds, served.unsent notSent, isPayload, sameHandle, isPayload, ?_⟩
  rw [type, served.ioctlType]

variable [DecidableEq κ] [DecidableEq δ]

theorem Owned.give (owned : sync.Owned)
    (isMatch : (sync.slots selectId).Matches (sync.callback delivery))
    (isNext : sync.looksAt delivery = selectId)
    (guarded : (sync.slots selectId).Awaits (sync.callback delivery) →
      (sync.callback delivery).locEvent = ioctlReport ∨
        ∃ payload ∈ (sync.callback delivery).payload,
          payload.type = (sync.slots selectId).ioctlType) :
    (sync.give delivery selectId).Owned := by
  rcases owned.answers isMatch guarded with ⟨call, payload, holds, notGiven, isPayload, answers⟩
  have holds_iff : ∀ other at_, (sync.give delivery selectId).Holds other at_ ↔
      sync.Holds other at_ := by
    intro other at_
    simp [Holds, LocSyncCall.give]
  have others : ∀ other, other ≠ call → (sync.pc other).slot ≠ some selectId := by
    intro other ne otherHolds
    exact ne (owned.exclusive other call selectId otherHolds holds)
  have given : (sync.give delivery selectId).given call = [delivery] := by
    have at_ : (sync.pc call).slot = some selectId := holds
    simp [LocSyncCall.give, at_, notGiven]
  have givenOther : ∀ other, other ≠ call →
      (sync.give delivery selectId).given other = sync.given other := by
    intro other ne
    simp [LocSyncCall.give, others other ne]
  have notYet : ∀ other, delivery ∉ sync.given other := by
    intro other isGiven
    have passed := owned.given delivery other isGiven
    rw [isNext] at passed
    omega
  constructor
  · intro first second at_
    simp only [holds_iff]
    exact owned.exclusive first second at_
  · intro other
    by_cases isCall : other = call
    · subst isCall
      have served := (owned.callOk other).serves selectId holds
      constructor
      · intro index isScanning
        have notScanning : (sync.give delivery selectId).Holds other selectId :=
          (holds_iff other selectId).mpr holds
        simp [Holds, isScanning, Pc.slot] at notScanning
      · intro at_ holdsAt
        rw [holds_iff] at holdsAt
        rw [holds.unique holdsAt]
        constructor
        · simpa [LocSyncCall.give, Slot.receive] using served.inUse
        · simpa [LocSyncCall.give, Slot.receive] using served.locHandle
        · simpa [LocSyncCall.give, Slot.receive] using served.ioctlType
        · simpa [LocSyncCall.give, Slot.receive] using served.waitEventMask
        · simp [LocSyncCall.give, Slot.receive]
        · intro _
          refine ⟨delivery, payload, given, ?_, answers⟩
          simpa [LocSyncCall.give, Slot.receive] using isPayload
      · intro at_ isWaiting
        exact absurd isWaiting (Pc.signal_ne_waiting holds at_)
      · intro answered isDone
        have notDone : (sync.give delivery selectId).Holds other selectId :=
          (holds_iff other selectId).mpr holds
        simp [Holds, isDone, Pc.slot] at notDone
      · intro isDone
        have notDone : (sync.give delivery selectId).Holds other selectId :=
          (holds_iff other selectId).mpr holds
        simp [Holds, isDone, Pc.slot] at notDone
    · refine (owned.callOk other).congr ?_ ?_ (givenOther other isCall) ?_ ?_
      · rfl
      · rfl
      · exact Pc.signal_of_ne (others other isCall)
      · intro at_ holdsAt
        apply update_of_ne
        rintro rfl
        exact others other isCall holdsAt
  · intro at_ inUse
    by_cases isSelected : at_ = selectId
    · exact ⟨call, (holds_iff call at_).mpr (isSelected ▸ holds)⟩
    · simp only [LocSyncCall.give, update_of_ne isSelected] at inUse
      rcases owned.held at_ inUse with ⟨other, otherHolds⟩
      exact ⟨other, (holds_iff other at_).mpr otherHolds⟩
  · intro other first second inFirst inSecond
    by_cases firstIs : first = call
    · by_cases secondIs : second = call
      · rw [firstIs, secondIs]
      · rw [firstIs, given, List.mem_singleton] at inFirst
        rw [givenOther second secondIs, inFirst] at inSecond
        exact absurd inSecond (notYet second)
    · rw [givenOther first firstIs] at inFirst
      by_cases secondIs : second = call
      · rw [secondIs, given, List.mem_singleton] at inSecond
        rw [inSecond] at inFirst
        exact absurd inFirst (notYet first)
      · rw [givenOther second secondIs] at inSecond
        exact owned.once other first second inFirst inSecond
  · intro other at_ isGiven
    by_cases isDelivery : other = delivery
    · simp [LocSyncCall.give, isDelivery]
    · have before : other ∈ sync.given at_ := by
        by_cases isCall : at_ = call
        · rw [isCall, given, List.mem_singleton] at isGiven
          exact absurd isGiven isDelivery
        · rwa [givenOther at_ isCall] at isGiven
      simpa [LocSyncCall.give, update_of_ne isDelivery] using owned.given other at_ before

omit [DecidableEq κ] in
theorem Owned.pass (owned : sync.Owned) (within : sync.looksAt delivery < slotsMax) :
    ({ sync with looksAt := update sync.looksAt delivery (sync.looksAt delivery + 1) } :
      LocSyncCall κ δ χ π).Owned := by
  constructor
  · exact owned.exclusive
  · intro call
    exact (owned.callOk call).congr rfl rfl rfl rfl fun _ _ => rfl
  · exact owned.held
  · exact owned.once
  · intro other call isGiven
    have passed := owned.given other call isGiven
    have ne : other ≠ delivery := by
      rintro rfl
      omega
    simpa only [update_of_ne ne] using passed

end Deliveries

section Runs

variable [DecidableEq κ] [DecidableEq δ] [DecidableEq χ] {sync : LocSyncCall κ δ χ π}

def Step (sync : LocSyncCall κ δ χ π) (event : Event κ δ) (sync' : LocSyncCall κ δ χ π) : Prop :=
  sync.step event = some sync'

theorem Owned.step {event : Event κ δ} {sync' : LocSyncCall κ δ χ π} (owned : sync.Owned)
    (guarded : sync.CallGuard event) (stepped : Step sync event sync') : sync'.Owned := by
  cases event with
  | tryLock call =>
      simp only [Step, LocSyncCall.step] at stepped
      split at stepped
      · rename_i index isScanning
        cases stepped
        exact owned.locLockASlot isScanning
      · contradiction
  | busy call holder =>
      simp only [Step, LocSyncCall.step] at stepped
      split at stepped
      · rename_i index isScanning
        rw [ite_none_right_eq_some, some.injEq] at stepped
        rcases stepped with ⟨_, rfl⟩
        refine owned.goOn_none (by rw [isScanning]; rfl) rfl ?_ (by simp)
        exact (owned.callOk call).scanning index isScanning
      · contradiction
  | ioctl call rc =>
      simp only [Step, LocSyncCall.step] at stepped
      split at stepped
      · rename_i selectId isCalling
        cases stepped
        have holds : sync.Holds call selectId := by rw [Holds, isCalling, Pc.slot]
        exact owned.goOn_slot holds rfl (by simp)
      · contradiction
  | lock call =>
      simp only [Step, LocSyncCall.step] at stepped
      split at stepped
      · rename_i selectId rc isReturned
        cases stepped
        exact owned.locLockSlot isReturned
      · contradiction
  | wake call | timeOut call =>
      simp only [Step, LocSyncCall.step] at stepped
      split at stepped
      · rename_i selectId isWaiting
        cases stepped
        have holds : sync.Holds call selectId := by rw [Holds, isWaiting, Pc.slot]
        exact owned.goOn_slot holds rfl (by simp)
      · contradiction
  | relock call =>
      simp only [Step, LocSyncCall.step] at stepped
      split at stepped
      · rename_i selectId isWoken
        cases stepped
        exact owned.relock isWoken (guarded selectId isWoken)
      · rename_i selectId isWoken
        cases stepped
        have holds : sync.Holds call selectId := by rw [Holds, isWoken, Pc.slot]
        exact owned.locApiWaitCallback holds
      · contradiction
  | deliver delivery =>
      simp only [Step, LocSyncCall.step] at stepped
      split at stepped
      · rename_i within
        split at stepped
        · rename_i isMatch
          rw [ite_none_right_eq_some, some.injEq] at stepped
          rcases stepped with ⟨_, rfl⟩
          exact owned.give isMatch rfl (guarded _ rfl)
        · cases stepped
          exact owned.pass within
      · contradiction

/-- As long as no callback comes between a time-out and the lock, or with other events to a slot of
another type, every call returns the one that it was given. -/
theorem reachable_syncCallOk
    (reached : Run.Reachable IsInit (Run.Guarded CallGuard Step) sync) : sync.SyncCallOk := by
  have owned : sync.Owned := by
    apply reached.invariant Owned
    · rintro _ ⟨call, callback, rfl⟩
      exact .init call callback
    · exact fun _ _ _ owned ⟨guarded, stepped⟩ => owned.step guarded stepped
  exact owned.syncCallOk

end Runs

section Orders

instance [DecidableEq χ] (slot : Slot χ π) (callback : Callback χ π) :
    Decidable (slot.Awaits callback) :=
  inferInstanceAs (Decidable (_ ∧ _ ∧ _ ∧ _))

instance [DecidableEq π] [DecidableEq χ] (sync : LocSyncCall κ δ χ π) (event : Event κ δ) :
    Decidable (sync.CallGuard event) := by
  cases event <;> unfold CallGuard <;> infer_instance

def twoCalls : LocSyncCall Bool Bool Unit Unit :=
  init (fun call => ⟨(), if call then 2 else 3⟩)
    (fun delivery =>
      if delivery then ⟨(), ioctlReport, some ⟨2, success, ()⟩⟩
      else ⟨(), ioctlReport ||| 1, some ⟨4, success, ()⟩⟩)

theorem twoCalls_isInit : IsInit twoCalls := ⟨_, _, rfl⟩

def answered : List (Event Bool Bool) :=
  [.tryLock true, .tryLock false, .tryLock false, .ioctl true success, .ioctl false success,
    .lock true, .deliver true, .relock true, .lock false, .timeOut false, .relock false]

theorem answered_isSome : (Run.runGuarded CallGuard step twoCalls answered).isSome = true := by
  decide +kernel

theorem reachable_syncCallOk_answered :
    ((Run.runGuarded CallGuard step twoCalls answered).get answered_isSome).SyncCallOk :=
  reachable_syncCallOk
    (.runGuarded answered (.start twoCalls_isInit) (Option.some_get answered_isSome).symm)

def lateSignal : List (Event Bool Bool) :=
  [.tryLock true, .ioctl true success, .lock true, .timeOut true, .deliver true, .relock true]

theorem lateSignal_isSome : (Run.runAll step twoCalls lateSignal).isSome = true := by
  decide +kernel

def mixedEvents : List (Event Bool Bool) :=
  [.tryLock true, .ioctl true success, .lock true, .deliver false, .relock true]

theorem mixedEvents_isSome : (Run.runAll step twoCalls mixedEvents).isSome = true := by
  decide +kernel

/-- A call whose slot is signalled before it leaves the wait times out, and a callback with another
event answers a call of another type. -/
theorem reachable_not_syncCallOk :
    (∃ sync : LocSyncCall Bool Bool Unit Unit, Run.Reachable IsInit Step sync ∧
        sync.pc true = .done .timedOut ∧ sync.given true = [true]) ∧
      ∃ sync : LocSyncCall Bool Bool Unit Unit, Run.Reachable IsInit Step sync ∧
        sync.pc true = .done (.answered (some ⟨4, success, ()⟩)) ∧
        (sync.call true).ioctlType = 2 := by
  refine ⟨⟨_, .runAll lateSignal (.start twoCalls_isInit)
    (Option.some_get lateSignal_isSome).symm, ?_⟩,
    _, .runAll mixedEvents (.start twoCalls_isInit) (Option.some_get mixedEvents_isSome).symm, ?_⟩
  · decide +kernel
  · decide +kernel

end Orders

end HtcPme.Gps.LocSyncCall
