import HtcPme.Gps.SyncReq

/-!
# Who a slot belongs to

The slot that a request has selected is of that request only, until the request frees it.
-/

namespace HtcPme.Gps.LocSync

open List

open Function (update update_of_ne update_self)

variable {κ χ π : Type*}

namespace Pc

variable (pc : Pc) (selectId : SelectId)

@[simp] theorem signal_selected : (pc.signal selectId).selected = pc.selected := by
  cases pc <;> rfl

@[simp] theorem signal_slot : (pc.signal selectId).slot = pc.slot := by
  cases pc <;> rfl

@[simp] theorem signal_isWaiting : (pc.signal selectId).isWaiting = pc.isWaiting := by
  cases pc <;> rfl

@[simp] theorem signal_isPending : (pc.signal selectId).isPending = pc.isPending := by
  cases pc <;> rfl

theorem signal_eq {pc' : Pc} (notWaiting : pc'.isWaiting = false) :
    pc.signal selectId = pc' ↔ pc = pc' := by
  cases pc <;> cases pc' <;> simp_all [signal, isWaiting]

variable {pc selectId}

theorem slot_of_selected (selected : pc.selected = some selectId) : pc.slot = some selectId := by
  cases pc <;> simp_all [slot, Pc.selected]

end Pc

structure Filled (sync : LocSync κ χ π) (request : κ) (selectId : SelectId) : Prop where
  clientHandle : (sync.slots selectId).clientHandle = some (sync.call request).clientHandle
  recvIndId : (sync.slots selectId).recvIndId = (sync.call request).indId
  recvIndPayloadPtr : (sync.slots selectId).recvIndPayloadPtr =
    if (sync.call request).wantsPayload then some request else none
  indIsWaiting : (sync.slots selectId).indIsWaiting = (sync.pc request).isWaiting

structure Serves (sync : LocSync κ χ π) (request : κ) (selectId : SelectId) : Prop where
  inUse : sync.slotInUse selectId = true
  allocated : sync.pc request = .allocated selectId → sync.slots selectId = .cleared
  filled : (sync.pc request).selected = some selectId → sync.Filled request selectId

structure Owned (sync : LocSync κ χ π) : Prop where
  exclusive : ∀ request other selectId, sync.Holds request selectId → sync.Holds other selectId →
    request = other
  serves : ∀ request selectId, sync.Holds request selectId → sync.Serves request selectId
  held : ∀ selectId, sync.slotInUse selectId = true → ∃ request, sync.Holds request selectId
  cleared : ∀ selectId, sync.slotInUse selectId = false → sync.slots selectId = .cleared
  freed : ∀ request, sync.frees request ≠ 0 →
    (∃ selectId status, sync.pc request = .failed selectId status) ∨
      ∃ status, sync.pc request = .done status
  notBusy : ∀ request selectId retryRem, sync.pc request ≠ .woken selectId retryRem .busy
  matched : ∀ request, ∀ ind ∈ sync.given request,
    ind.clientHandle = (sync.call request).clientHandle ∧ ind.indId = (sync.call request).indId
  written : ∀ request, ∀ ind ∈ sync.copied request, ind ∈ sync.given request
  copied : ∀ request, ∀ ind ∈ sync.given request, (sync.call request).wantsPayload = true →
    ind.payload.isSome = true → ind ∈ sync.copied request

structure StepsAt (sync sync' : LocSync κ χ π) (request : κ) (selectId : SelectId) : Prop where
  call : sync'.call = sync.call
  given : sync'.given = sync.given
  copied : sync'.copied = sync.copied
  pc : ∀ other, other ≠ request → sync'.pc other = sync.pc other
  frees : ∀ other, other ≠ request → sync'.frees other = sync.frees other
  slots : ∀ other, other ≠ selectId → sync'.slots other = sync.slots other
  slotInUse : ∀ other, other ≠ selectId → sync'.slotInUse other = sync.slotInUse other

section Frame

variable {sync sync' : LocSync κ χ π} {request other : κ} {selectId : SelectId}

theorem StepsAt.holds (steps : StepsAt sync sync' request selectId) (ne : other ≠ request)
    (at_ : SelectId) : sync'.Holds other at_ ↔ sync.Holds other at_ := by
  simp only [Holds, steps.pc other ne, steps.frees other ne]

theorem StepsAt.serves (steps : StepsAt sync sync' request selectId) (ne : other ≠ request)
    {at_ : SelectId} (elsewhere : at_ ≠ selectId) (served : sync.Serves other at_) :
    sync'.Serves other at_ := by
  constructor
  · simpa only [steps.slotInUse at_ elsewhere] using served.inUse
  · simpa only [steps.pc other ne, steps.slots at_ elsewhere] using served.allocated
  · intro selected
    rw [steps.pc other ne] at selected
    rcases served.filled selected with ⟨clientHandle, recvIndId, recvIndPayloadPtr, indIsWaiting⟩
    constructor <;> simpa only [steps.pc other ne, steps.slots at_ elsewhere, steps.call]

theorem Owned.keep (owned : sync.Owned) (request : κ) (selectId : SelectId)
    (steps : StepsAt sync sync' request selectId)
    (alone : ∀ other, other ≠ request → ¬ sync.Holds other selectId)
    (before : ∀ at_, sync.Holds request at_ → at_ = selectId)
    (own : ∀ at_, sync'.Holds request at_ → at_ = selectId ∧ sync'.Serves request selectId)
    (held : sync'.slotInUse selectId = true → sync'.Holds request selectId)
    (cleared : sync'.slotInUse selectId = false → sync'.slots selectId = .cleared)
    (freed : sync'.frees request ≠ 0 →
      (∃ selectId status, sync'.pc request = .failed selectId status) ∨
        ∃ status, sync'.pc request = .done status)
    (notBusy : ∀ at_ retryRem, sync'.pc request ≠ .woken at_ retryRem .busy) : sync'.Owned := by
  have elsewhere : ∀ other, other ≠ request → ∀ at_, sync'.Holds other at_ →
      sync.Holds other at_ ∧ at_ ≠ selectId := by
    intro other ne at_ holds
    rw [steps.holds ne] at holds
    refine ⟨holds, ?_⟩
    rintro rfl
    exact alone other ne holds
  constructor
  · intro first second at_ firstHolds secondHolds
    by_cases firstIs : first = request
    · by_cases secondIs : second = request
      · rw [firstIs, secondIs]
      · rw [firstIs] at firstHolds
        exact absurd (own at_ firstHolds).1 (elsewhere second secondIs at_ secondHolds).2
    · by_cases secondIs : second = request
      · rw [secondIs] at secondHolds
        exact absurd (own at_ secondHolds).1 (elsewhere first firstIs at_ firstHolds).2
      · exact owned.exclusive first second at_ (elsewhere first firstIs at_ firstHolds).1
          (elsewhere second secondIs at_ secondHolds).1
  · intro other at_ holds
    by_cases isRequest : other = request
    · rw [isRequest] at holds ⊢
      rcases own at_ holds with ⟨rfl, served⟩
      exact served
    · rcases elsewhere other isRequest at_ holds with ⟨holds, ne⟩
      exact steps.serves isRequest ne (owned.serves other at_ holds)
  · intro at_ inUse
    by_cases isSelected : at_ = selectId
    · rw [isSelected] at inUse ⊢
      exact ⟨request, held inUse⟩
    · rw [steps.slotInUse at_ isSelected] at inUse
      rcases owned.held at_ inUse with ⟨other, holds⟩
      have ne : other ≠ request := by
        rintro rfl
        exact isSelected (before at_ holds)
      exact ⟨other, (steps.holds ne at_).mpr holds⟩
  · intro at_ free
    by_cases isSelected : at_ = selectId
    · rw [isSelected] at free ⊢
      exact cleared free
    · rw [steps.slotInUse at_ isSelected] at free
      rw [steps.slots at_ isSelected]
      exact owned.cleared at_ free
  · intro other freedOther
    by_cases isRequest : other = request
    · rw [isRequest] at freedOther ⊢
      exact freed freedOther
    · rw [steps.frees other isRequest] at freedOther
      rw [steps.pc other isRequest]
      exact owned.freed other freedOther
  · intro other at_ retryRem
    by_cases isRequest : other = request
    · rw [isRequest]
      exact notBusy at_ retryRem
    · rw [steps.pc other isRequest]
      exact owned.notBusy other at_ retryRem
  · simpa only [steps.given, steps.call] using owned.matched
  · simpa only [steps.given, steps.copied] using owned.written
  · simpa only [steps.given, steps.copied, steps.call] using owned.copied

end Frame

section Steps

variable {sync : LocSync κ χ π} {request : κ} {selectId : SelectId} {retryRem : ℕ}

theorem Owned.holds (owned : sync.Owned) (at_ : (sync.pc request).slot = some selectId)
    (notFailed : ∀ at_ status, sync.pc request ≠ .failed at_ status) :
    sync.Holds request selectId := by
  refine ⟨at_, ?_⟩
  by_contra freed
  rcases owned.freed request freed with ⟨failedAt, status, isFailed⟩ | ⟨status, isDone⟩
  · exact notFailed failedAt status isFailed
  · simp [isDone, Pc.slot, Pc.selected] at at_

theorem Owned.alone (owned : sync.Owned) (holds : sync.Holds request selectId) (other : κ)
    (ne : other ≠ request) : ¬ sync.Holds other selectId := fun otherHolds =>
  ne (owned.exclusive other request selectId otherHolds holds)

theorem Holds.unique (holds : sync.Holds request selectId) (at_ : SelectId)
    (holdsAt : sync.Holds request at_) : at_ = selectId :=
  Option.some.inj (holdsAt.1.symm.trans holds.1)

theorem Owned.init (call : κ → Call χ) : (init call : LocSync κ χ π).Owned := by
  constructor <;> simp [LocSync.init, Holds, Pc.slot, Pc.selected]

theorem freeSlot_some (found : sync.freeSlot = some selectId) :
    sync.slotInUse selectId = false := by
  simpa using find?_some found

theorem Owned.goOn {sync' : LocSync κ χ π} (owned : sync.Owned) (request : κ)
    (selectId : SelectId) (steps : StepsAt sync sync' request selectId)
    (holds : sync.Holds request selectId)
    (slot : (sync'.pc request).slot = some selectId) (frees : sync'.frees = sync.frees)
    (slotInUse : sync'.slotInUse = sync.slotInUse)
    (allocated : sync'.pc request ≠ .allocated selectId)
    (filled : sync'.Filled request selectId)
    (notBusy : ∀ at_ retryRem, sync'.pc request ≠ .woken at_ retryRem .busy) : sync'.Owned := by
  have holds' : sync'.Holds request selectId := ⟨slot, by rw [frees]; exact holds.2⟩
  have inUse : sync'.slotInUse selectId = true := by
    rw [slotInUse]
    exact (owned.serves request selectId holds).inUse
  apply owned.keep request selectId steps (owned.alone holds) holds.unique
  · intro at_ holdsAt
    refine ⟨holds'.unique at_ holdsAt, inUse, ?_, fun _ => filled⟩
    intro isAllocated
    exact absurd isAllocated allocated
  · intro _
    exact holds'
  · intro free
    rw [inUse] at free
    cases free
  · intro freed
    exact absurd holds'.2 freed
  · exact notBusy

variable {ind : Indication χ π}

theorem Owned.filled_of_matches (owned : sync.Owned) (isMatch : sync.Matches ind selectId) :
    ∃ request, sync.Holds request selectId ∧ (sync.pc request).selected = some selectId ∧
      sync.Filled request selectId := by
  rcases owned.held selectId isMatch.1 with ⟨request, holds⟩
  have served := owned.serves request selectId holds
  have notAllocated : sync.pc request ≠ .allocated selectId := by
    intro isAllocated
    have clientHandle := isMatch.2.1
    simp [served.allocated isAllocated, Slot.cleared] at clientHandle
  have selected : (sync.pc request).selected = some selectId := by
    rcases at_ : sync.pc request <;> simp_all [Holds, Pc.slot, Pc.selected]
  exact ⟨request, holds, selected, served.filled selected⟩

theorem Owned.setInUse (owned : sync.Owned) (inUse : Bool) :
    ({ sync with inUse } : LocSync κ χ π).Owned := by
  rcases owned with ⟨exclusive, serves, held, cleared, freed, notBusy, matched, written, copied⟩
  refine ⟨exclusive, ?_, held, cleared, freed, notBusy, matched, written, copied⟩
  intro request selectId holds
  rcases serves request selectId holds with ⟨used, allocated, filled⟩
  refine ⟨used, allocated, ?_⟩
  intro selected
  rcases filled selected with ⟨clientHandle, recvIndId, recvIndPayloadPtr, indIsWaiting⟩
  exact ⟨clientHandle, recvIndId, recvIndPayloadPtr, indIsWaiting⟩

variable [DecidableEq κ]

section

variable (owned : sync.Owned)

include owned

theorem Owned.refuse (noSlot : ∀ at_, ¬ sync.Holds request at_)
    (notFreed : sync.frees request = 0) :
    ({ sync with pc := update sync.pc request .bufferFull } : LocSync κ χ π).Owned := by
  have same : ∀ other at_, ({ sync with pc := update sync.pc request .bufferFull } :
      LocSync κ χ π).Holds other at_ → other ≠ request ∧ sync.Holds other at_ := by
    intro other at_ holds
    have ne : other ≠ request := by
      rintro rfl
      simp [Holds, Pc.slot, Pc.selected] at holds
    simp only [Holds, update_of_ne ne] at holds
    exact ⟨ne, holds⟩
  constructor
  · intro first second at_ firstHolds secondHolds
    exact owned.exclusive first second at_ (same first at_ firstHolds).2
      (same second at_ secondHolds).2
  · intro other at_ holds
    rcases same other at_ holds with ⟨ne, holds⟩
    rcases owned.serves other at_ holds with ⟨inUse, allocated, filled⟩
    refine ⟨inUse, ?_, ?_⟩
    · simpa only [update_of_ne ne] using allocated
    · intro selected
      simp only [update_of_ne ne] at selected
      rcases filled selected with ⟨clientHandle, recvIndId, recvIndPayloadPtr, indIsWaiting⟩
      refine ⟨clientHandle, recvIndId, recvIndPayloadPtr, ?_⟩
      simpa only [update_of_ne ne] using indIsWaiting
  · intro at_ inUse
    rcases owned.held at_ inUse with ⟨other, holds⟩
    have ne : other ≠ request := by
      rintro rfl
      exact noSlot at_ holds
    exact ⟨other, by simpa only [Holds, update_of_ne ne] using holds⟩
  · exact owned.cleared
  · intro other freed
    have ne : other ≠ request := by
      rintro rfl
      exact freed notFreed
    simpa only [update_of_ne ne] using owned.freed other freed
  · intro other at_ retryRem
    by_cases isRequest : other = request
    · simp [isRequest]
    · simpa only [update_of_ne isRequest] using owned.notBusy other at_ retryRem
  · exact owned.matched
  · exact owned.written
  · exact owned.copied

theorem Owned.locAllocSlot (isIdle : sync.pc request = .idle) :
    (sync.locAllocSlot request).Owned := by
  have notFreed : sync.frees request = 0 := by
    by_contra freed
    simpa [isIdle] using owned.freed request freed
  have noSlot : ∀ at_, ¬ sync.Holds request at_ := by
    rintro at_ ⟨slot, -⟩
    simp [isIdle, Pc.slot, Pc.selected] at slot
  unfold LocSync.locAllocSlot
  rcases found : sync.freeSlot with _ | selectId
  · exact owned.refuse noSlot notFreed
  · have free := freeSlot_some found
    apply owned.keep request selectId
    · constructor <;> intros <;> simp_all
    · intro other _ holds
      simp [(owned.serves other selectId holds).inUse] at free
    · intro at_ holds
      exact absurd holds (noSlot at_)
    · rintro at_ ⟨slot, -⟩
      simp only [update_self, Pc.slot, Option.some.injEq] at slot
      refine ⟨slot.symm, ?_⟩
      constructor <;> simp [owned.cleared selectId free, Pc.selected]
    · intro _
      simp [Holds, Pc.slot, notFreed]
    · simp
    · simp [notFreed]
    · simp

theorem Owned.locSyncSelectInd (isAllocated : sync.pc request = .allocated selectId) :
    (sync.locSyncSelectInd request selectId).Owned := by
  have holds : sync.Holds request selectId :=
    owned.holds (by simp [isAllocated, Pc.slot]) (by simp [isAllocated])
  apply owned.goOn request selectId
  · constructor <;> intros <;> simp_all [LocSync.locSyncSelectInd]
  · exact holds
  · simp [LocSync.locSyncSelectInd, Pc.slot, Pc.selected]
  · rfl
  · rfl
  · simp [LocSync.locSyncSelectInd]
  · constructor
    · simp [LocSync.locSyncSelectInd]
    · simp [LocSync.locSyncSelectInd]
    · simp only [LocSync.locSyncSelectInd, update_self]
      rfl
    · simp [LocSync.locSyncSelectInd, Pc.isWaiting]
  · simp [LocSync.locSyncSelectInd]

theorem Owned.goOn_waiting (pc : Pc)
    (selected : (sync.pc request).selected = some selectId)
    (notFailed : ∀ at_ status, sync.pc request ≠ .failed at_ status)
    (slot : pc.selected = some selectId)
    (notBusy : ∀ at_ retryRem, pc ≠ .woken at_ retryRem .busy) :
    ({ sync with
      slots := update sync.slots selectId
        { sync.slots selectId with indIsWaiting := pc.isWaiting }
      pc := update sync.pc request pc } : LocSync κ χ π).Owned := by
  have holds : sync.Holds request selectId := owned.holds (Pc.slot_of_selected selected) notFailed
  apply owned.goOn request selectId
  · constructor <;> intros <;> simp_all
  · exact holds
  · simp [Pc.slot_of_selected slot]
  · rfl
  · rfl
  · rintro isAllocated
    simp only [update_self] at isAllocated
    simp [isAllocated, Pc.selected] at slot
  · rcases (owned.serves request selectId holds).filled selected with
      ⟨clientHandle, recvIndId, recvIndPayloadPtr, -⟩
    refine ⟨?_, ?_, ?_, by simp⟩ <;> simpa
  · simpa using notBusy

theorem Owned.goOn_slot {pc : Pc} (selected : (sync.pc request).selected = some selectId)
    (notFailed : ∀ at_ status, sync.pc request ≠ .failed at_ status)
    (isWaiting : pc.isWaiting = (sync.pc request).isWaiting) (slot : pc.selected = some selectId)
    (notBusy : ∀ at_ retryRem, pc ≠ .woken at_ retryRem .busy) :
    ({ sync with pc := update sync.pc request pc } : LocSync κ χ π).Owned := by
  have holds : sync.Holds request selectId := owned.holds (Pc.slot_of_selected selected) notFailed
  have filled := (owned.serves request selectId holds).filled selected
  have went := owned.goOn_waiting pc selected notFailed slot notBusy
  rw [isWaiting, ← filled.indIsWaiting] at went
  have same := Function.update_eq_self selectId sync.slots
  exact same ▸ went

end

theorem Pc.endTurn_failed (selectId : SelectId) (retryRem : ℕ) {status : LocClientStatus}
    (notSuccess : status ≠ .success) :
    (Pc.endTurn selectId retryRem status).selected = some selectId ∧
      (Pc.endTurn selectId retryRem status).isWaiting = false ∧
        ∀ at_ rem result, Pc.endTurn selectId retryRem status ≠ .woken at_ rem result := by
  unfold Pc.endTurn
  rw [if_neg notSuccess]
  split <;> simp [Pc.selected, Pc.isWaiting]

section

variable (owned : sync.Owned)

include owned

theorem Owned.locClientSendReq
    (isSending : sync.pc request = .sending selectId retryRem) (status : LocClientStatus) :
    (sync.locClientSendReq request selectId retryRem status).Owned := by
  have selected : (sync.pc request).selected = some selectId := by
    rw [isSending, Pc.selected]
  have notFailed : ∀ at_ status, sync.pc request ≠ .failed at_ status := by
    simp [isSending]
  unfold LocSync.locClientSendReq
  split
  · apply owned.goOn_slot selected notFailed <;> simp [isSending, Pc.isWaiting, Pc.selected]
  · rcases Pc.endTurn_failed selectId retryRem ‹_› with ⟨slot, isWaiting, notWoken⟩
    apply owned.goOn_slot selected notFailed
    · rw [isWaiting, isSending]
      rfl
    · exact slot
    · intro at_ rem
      exact notWoken at_ rem .busy

theorem Owned.locSyncWaitForInd_eq (isSent : sync.pc request = .sent selectId retryRem) :
    sync.locSyncWaitForInd request selectId retryRem =
      if (sync.slots selectId).indHasArrived then
        { sync with pc := update sync.pc request (.woken selectId retryRem .arrived) }
      else
        { sync with
          slots := update sync.slots selectId
            { sync.slots selectId with indIsWaiting := true }
          pc := update sync.pc request (.waiting selectId retryRem false) } := by
  have holds : sync.Holds request selectId :=
    owned.holds (by simp [isSent, Pc.slot, Pc.selected]) (by simp [isSent])
  have served := owned.serves request selectId holds
  have filled := served.filled (by rw [isSent, Pc.selected])
  have notWaiting : (sync.slots selectId).indIsWaiting = false := by
    simp [filled.indIsWaiting, isSent, Pc.isWaiting]
  simp [locSyncWaitForInd, served.inUse, notWaiting]

theorem Owned.locSyncWaitForInd (isSent : sync.pc request = .sent selectId retryRem) :
    (sync.locSyncWaitForInd request selectId retryRem).Owned := by
  have selected : (sync.pc request).selected = some selectId := by
    rw [isSent, Pc.selected]
  have notFailed : ∀ at_ status, sync.pc request ≠ .failed at_ status := by
    simp [isSent]
  rw [owned.locSyncWaitForInd_eq isSent]
  split
  · apply owned.goOn_slot selected notFailed <;> simp [isSent, Pc.isWaiting, Pc.selected]
  · exact owned.goOn_waiting (.waiting selectId retryRem false) selected notFailed rfl
      (by simp)

theorem Owned.leaveWait {signaled : Bool} {result : WaitResult}
    (isWaiting : sync.pc request = .waiting selectId retryRem signaled)
    (notBusy : result ≠ .busy) :
    (sync.leaveWait request selectId retryRem result).Owned := by
  apply owned.goOn_waiting (.woken selectId retryRem result)
  · rw [isWaiting, Pc.selected]
  · simp [isWaiting]
  · rfl
  · simpa using notBusy

theorem Owned.locFreeSlot {pc : Pc} (slot : (sync.pc request).slot = some selectId)
    (safe : sync.Holds request selectId ∨ sync.slotInUse selectId = false)
    (left : (∃ at_ status, pc = .failed at_ status) ∨ ∃ status, pc = .done status) :
    (sync.locFreeSlot request selectId pc).Owned := by
  apply owned.keep request selectId
  · constructor <;> intros <;> simp_all [LocSync.locFreeSlot]
  · intro other ne holds
    rcases safe with own | free
    · exact owned.alone own other ne holds
    · simp [(owned.serves other selectId holds).inUse] at free
  · rintro at_ ⟨slotAt, -⟩
    exact Option.some.inj (slotAt.symm.trans slot)
  · rintro at_ ⟨-, notFreed⟩
    simp [LocSync.locFreeSlot] at notFreed
  · simp [LocSync.locFreeSlot]
  · simp [LocSync.locFreeSlot]
  · intro _
    simpa [LocSync.locFreeSlot] using left
  · intro at_ rem isWoken
    simp only [LocSync.locFreeSlot, update_self] at isWoken
    rcases left with ⟨_, _, rfl⟩ | ⟨_, rfl⟩ <;> cases isWoken

end

variable {sync' : LocSync κ χ π}

def Pc.freed : Pc → ℕ
  | done _ => 1
  | _ => 0

theorem Pc.freed_selected {pc : Pc} (selected : pc.selected = some selectId) : pc.freed = 0 := by
  cases pc <;> simp_all [Pc.freed, Pc.selected]

structure FreedOnce (sync : LocSync κ χ π) : Prop where
  frees : ∀ request, sync.frees request = (sync.pc request).freed
  notTimedOut : ∀ request selectId retryRem,
    sync.pc request ≠ .woken selectId retryRem .timedOut

theorem FreedOnce.keep (once : sync.FreedOnce) (request : κ)
    (pcs : ∀ other, other ≠ request → sync'.pc other = sync.pc other)
    (others : ∀ other, other ≠ request → sync'.frees other = sync.frees other)
    (freed : sync'.frees request = (sync'.pc request).freed)
    (notTimedOut : ∀ selectId retryRem,
      sync'.pc request ≠ .woken selectId retryRem .timedOut) : sync'.FreedOnce := by
  constructor
  · intro other
    by_cases same : other = request
    · rw [same, freed]
    · rw [others other same, pcs other same]
      exact once.frees other
  · intro other at_ rem
    by_cases same : other = request
    · rw [same]
      exact notTimedOut at_ rem
    · rw [pcs other same]
      exact once.notTimedOut other at_ rem

theorem FreedOnce.goOn (once : sync.FreedOnce) (request : κ) (pc : Pc)
    (pcs : sync'.pc = update sync.pc request pc) (frees : sync'.frees = sync.frees)
    (same : (sync.pc request).freed = pc.freed)
    (notTimedOut : ∀ selectId retryRem, pc ≠ .woken selectId retryRem .timedOut) :
    sync'.FreedOnce := by
  apply once.keep request
  · intro other ne
    rw [pcs, update_of_ne ne]
  · intro other _
    rw [frees]
  · rw [frees, once.frees request, pcs, update_self, same]
  · rw [pcs, update_self]
    exact notTimedOut

section Give

variable (ind : Indication χ π) (other : κ)

@[simp] theorem give_call : (sync.give ind selectId).call = sync.call := rfl

@[simp] theorem give_frees : (sync.give ind selectId).frees = sync.frees := rfl

@[simp] theorem give_slotInUse : (sync.give ind selectId).slotInUse = sync.slotInUse := rfl

theorem give_pc : (sync.give ind selectId).pc other =
    if (sync.slots selectId).indIsWaiting then (sync.pc other).signal selectId
    else sync.pc other := rfl

theorem give_given : (sync.give ind selectId).given other =
    if (sync.pc other).selected = some selectId ∧ sync.frees other = 0 then
      sync.given other ++ [ind]
    else sync.given other := rfl

theorem give_copied : (sync.give ind selectId).copied other =
    if (sync.slots selectId).recvIndPayloadPtr = some other ∧ ind.payload.isSome = true then
      sync.copied other ++ [ind]
    else sync.copied other := by
  simp only [give, copyPayload]
  rcases (sync.slots selectId).recvIndPayloadPtr with _ | request
  · simp
  · by_cases payload : ind.payload.isSome = true
    · by_cases same : other = request
      · simp [same, payload]
      · simp [same, Ne.symm same, payload]
    · simp [payload]

theorem give_slots {at_ : SelectId} (ne : at_ ≠ selectId) :
    (sync.give ind selectId).slots at_ = sync.slots at_ := by
  simp [give, ne]

theorem give_slot : (sync.give ind selectId).slots selectId =
    if (sync.slots selectId).indIsWaiting then
      { sync.slots selectId with recvIndId := ind.indId }
    else { sync.slots selectId with indHasArrived := true } := by
  simp [give]

@[simp] theorem give_clientHandle (at_ : SelectId) :
    ((sync.give ind selectId).slots at_).clientHandle = (sync.slots at_).clientHandle := by
  by_cases here : at_ = selectId
  · rw [here, give_slot]
    split <;> rfl
  · rw [give_slots ind here]

@[simp] theorem give_recvIndPayloadPtr (at_ : SelectId) :
    ((sync.give ind selectId).slots at_).recvIndPayloadPtr =
      (sync.slots at_).recvIndPayloadPtr := by
  by_cases here : at_ = selectId
  · rw [here, give_slot]
    split <;> rfl
  · rw [give_slots ind here]

@[simp] theorem give_indIsWaiting (at_ : SelectId) :
    ((sync.give ind selectId).slots at_).indIsWaiting = (sync.slots at_).indIsWaiting := by
  by_cases here : at_ = selectId
  · rw [here, give_slot]
    split <;> rfl
  · rw [give_slots ind here]

theorem give_recvIndId [DecidableEq χ] {ind : Indication χ π} (isMatch : sync.Matches ind selectId)
    (at_ : SelectId) :
    ((sync.give ind selectId).slots at_).recvIndId = (sync.slots at_).recvIndId := by
  by_cases here : at_ = selectId
  · rw [here, give_slot]
    split
    · exact isMatch.2.2.1
    · rfl
  · rw [give_slots ind here]

@[simp] theorem give_pc_selected :
    ((sync.give ind selectId).pc other).selected = (sync.pc other).selected := by
  rw [give_pc]
  split <;> simp

@[simp] theorem give_pc_slot :
    ((sync.give ind selectId).pc other).slot = (sync.pc other).slot := by
  rw [give_pc]
  split <;> simp

@[simp] theorem give_pc_isPending :
    ((sync.give ind selectId).pc other).isPending = (sync.pc other).isPending := by
  rw [give_pc]
  split <;> simp

@[simp] theorem give_pc_isWaiting :
    ((sync.give ind selectId).pc other).isWaiting = (sync.pc other).isWaiting := by
  rw [give_pc]
  split <;> simp

theorem give_pc_eq {pc : Pc} (notWaiting : pc.isWaiting = false) :
    (sync.give ind selectId).pc other = pc ↔ sync.pc other = pc := by
  rw [give_pc]
  split
  · exact Pc.signal_eq _ _ notWaiting
  · rfl

@[simp] theorem give_holds (at_ : SelectId) :
    (sync.give ind selectId).Holds other at_ ↔ sync.Holds other at_ := by
  simp only [Holds, give_pc_slot, give_frees]

variable [DecidableEq χ] {ind} {other}

theorem Owned.give (owned : sync.Owned) (isMatch : sync.Matches ind selectId) :
    (sync.give ind selectId).Owned := by
  rcases owned.filled_of_matches isMatch with ⟨request, holds, selected, filled⟩
  constructor
  · intro first second at_ firstHolds secondHolds
    rw [give_holds] at firstHolds secondHolds
    exact owned.exclusive first second at_ firstHolds secondHolds
  · intro other at_ holdsAt
    rw [give_holds] at holdsAt
    rcases owned.serves other at_ holdsAt with ⟨inUse, allocated, filledAt⟩
    refine ⟨inUse, ?_, ?_⟩
    · intro isAllocated
      rw [give_pc_eq ind other rfl] at isAllocated
      have ne : at_ ≠ selectId := by
        rintro rfl
        have same := owned.exclusive other request at_ holdsAt holds
        simp [← same, isAllocated, Pc.selected] at selected
      rw [give_slots ind ne]
      exact allocated isAllocated
    · intro selectedAt
      rw [give_pc_selected] at selectedAt
      rcases filledAt selectedAt with ⟨clientHandle, recvIndId, recvIndPayloadPtr, indIsWaiting⟩
      refine ⟨by simpa, ?_, ?_, by simpa⟩
      · rw [give_recvIndId isMatch]
        exact recvIndId
      · rw [give_recvIndPayloadPtr]
        exact recvIndPayloadPtr
  · intro at_ inUse
    rw [give_slotInUse] at inUse
    simpa using owned.held at_ inUse
  · intro at_ free
    rw [give_slotInUse] at free
    have ne : at_ ≠ selectId := by
      rintro rfl
      simp [isMatch.1] at free
    rw [give_slots ind ne]
    exact owned.cleared at_ free
  · intro other freed
    rw [give_frees] at freed
    rcases owned.freed other freed with ⟨at_, status, isFailed⟩ | ⟨status, isDone⟩
    · left
      exact ⟨at_, status, (give_pc_eq ind other rfl).mpr isFailed⟩
    · right
      exact ⟨status, (give_pc_eq ind other rfl).mpr isDone⟩
  · intro other at_ rem isBusy
    rw [give_pc_eq ind other rfl] at isBusy
    exact owned.notBusy other at_ rem isBusy
  · intro other given isGiven
    rw [give_given] at isGiven
    split at isGiven
    · rename_i receives
      have same := owned.exclusive other request selectId
        ⟨Pc.slot_of_selected receives.1, receives.2⟩ holds
      subst same
      rcases mem_append.mp isGiven with before | now
      · simpa using owned.matched other given before
      · simp only [mem_singleton] at now
        subst now
        rw [give_call]
        refine ⟨Option.some.inj ?_, ?_⟩
        · exact isMatch.2.1.symm.trans filled.clientHandle
        · exact isMatch.2.2.1.trans filled.recvIndId
    · simpa using owned.matched other given isGiven
  · intro other given isCopied
    rw [give_copied] at isCopied
    rw [give_given]
    split at isCopied
    · rename_i writes
      have same : other = request := by
        rw [filled.recvIndPayloadPtr] at writes
        by_cases wants : (sync.call request).wantsPayload = true
        · simpa [wants, eq_comm] using writes.1
        · simp [wants] at writes
      subst same
      rw [if_pos ⟨selected, holds.2⟩]
      rcases mem_append.mp isCopied with before | now
      · exact mem_append_left _ (owned.written other given before)
      · exact mem_append_right _ now
    · split
      · exact mem_append_left _ (owned.written other given isCopied)
      · exact owned.written other given isCopied
  · intro other given isGiven wants payload
    rw [give_given] at isGiven
    rw [give_copied]
    split at isGiven
    · rename_i receives
      have same := owned.exclusive other request selectId
        ⟨Pc.slot_of_selected receives.1, receives.2⟩ holds
      subst same
      rw [give_call] at wants
      rcases mem_append.mp isGiven with before | now
      · split
        · exact mem_append_left _ (owned.copied other given before wants payload)
        · exact owned.copied other given before wants payload
      · simp only [mem_singleton] at now
        subst now
        rw [if_pos ⟨by rw [filled.recvIndPayloadPtr, if_pos wants], payload⟩]
        simp
    · split
      · exact mem_append_left _ (owned.copied other given isGiven wants payload)
      · exact owned.copied other given isGiven wants payload

theorem processSlots_invariant (holds : LocSync κ χ π → Prop)
    (keeps : ∀ sync selectId, holds sync → sync.Matches ind selectId →
      holds (sync.give ind selectId))
    (inUse : ∀ sync, holds sync → holds { sync with inUse := false })
    (slots : List SelectId) (any : Bool) (sync : LocSync κ χ π) (start : holds sync) :
    holds (processSlots ind slots any sync) := by
  induction slots generalizing any sync with
  | nil =>
      rw [processSlots]
      split
      · exact start
      · exact inUse sync start
  | cons selectId rest ih =>
      rw [processSlots]
      split
      · split
        · exact keeps sync selectId start ‹_›
        · exact ih _ _ (keeps sync selectId start ‹_›)
      · exact ih _ _ start

theorem locSyncProcessInd_invariant (holds : LocSync κ χ π → Prop)
    (keeps : ∀ sync selectId, holds sync → sync.Matches ind selectId →
      holds (sync.give ind selectId))
    (inUse : ∀ sync, holds sync → holds { sync with inUse := false })
    (start : holds sync) : holds (sync.locSyncProcessInd ind) := by
  unfold locSyncProcessInd
  split
  · exact processSlots_invariant holds keeps inUse _ _ sync start
  · exact start

theorem Owned.locSyncProcessInd (owned : sync.Owned) : (sync.locSyncProcessInd ind).Owned := by
  apply locSyncProcessInd_invariant
  · intro sync selectId owned isMatch
    exact owned.give isMatch
  · intro sync owned
    exact owned.setInUse false
  · exact owned

end Give

variable [DecidableEq χ] {event : Event κ χ π}

inductive Stepped (sync : LocSync κ χ π) : Event κ χ π → LocSync κ χ π → Prop where
  | alloc {request : κ} (isIdle : sync.pc request = .idle) :
      Stepped sync (.alloc request) (sync.locAllocSlot request)
  | select {request : κ} {selectId : SelectId}
      (isAllocated : sync.pc request = .allocated selectId) :
      Stepped sync (.select request) (sync.locSyncSelectInd request selectId)
  | send {request : κ} {selectId : SelectId} {retryRem : ℕ} (status : LocClientStatus)
      (isSending : sync.pc request = .sending selectId retryRem) :
      Stepped sync (.send request status)
        (sync.locClientSendReq request selectId retryRem status)
  | wait {request : κ} {selectId : SelectId} {retryRem : ℕ}
      (isSent : sync.pc request = .sent selectId retryRem) :
      Stepped sync (.wait request) (sync.locSyncWaitForInd request selectId retryRem)
  | wake {request : κ} {selectId : SelectId} {retryRem : ℕ} {signaled : Bool}
      (isWaiting : sync.pc request = .waiting selectId retryRem signaled) :
      Stepped sync (.wake request) (sync.leaveWait request selectId retryRem .arrived)
  | timeOut {request : κ} {selectId : SelectId} {retryRem : ℕ} {signaled : Bool}
      (isWaiting : sync.pc request = .waiting selectId retryRem signaled) :
      Stepped sync (.timeOut request) (sync.leaveWait request selectId retryRem .timedOut)
  | freeWoken {request : κ} {selectId : SelectId} {retryRem : ℕ} {result : WaitResult}
      (isWoken : sync.pc request = .woken selectId retryRem result) :
      Stepped sync (.free request)
        (sync.locFreeSlot request selectId (afterWait selectId retryRem result))
  | freeFailed {request : κ} {selectId : SelectId} {status : LocClientStatus}
      (isFailed : sync.pc request = .failed selectId status) :
      Stepped sync (.free request) (sync.locFreeSlot request selectId (.done status))
  | processInd (ind : Indication χ π) :
      Stepped sync (.processInd ind) (sync.locSyncProcessInd ind)

theorem stepped_of_step (stepped : sync.step event = some sync') : Stepped sync event sync' := by
  cases event with
  | alloc request =>
      simp only [step] at stepped
      split at stepped <;> cases stepped
      exact .alloc ‹_›
  | select request =>
      simp only [step] at stepped
      split at stepped <;> cases stepped
      exact .select ‹_›
  | send request status =>
      simp only [step] at stepped
      split at stepped <;> cases stepped
      exact .send status ‹_›
  | wait request =>
      simp only [step] at stepped
      split at stepped <;> cases stepped
      exact .wait ‹_›
  | wake request =>
      simp only [step] at stepped
      split at stepped <;> cases stepped
      exact .wake ‹_›
  | timeOut request =>
      simp only [step] at stepped
      split at stepped <;> cases stepped
      exact .timeOut ‹_›
  | free request =>
      simp only [step] at stepped
      split at stepped <;> cases stepped
      · exact .freeWoken ‹_›
      · exact .freeFailed ‹_›
  | processInd ind =>
      cases stepped
      exact .processInd ind

/-- No slot is freed under another request: a request that has freed its slot frees it again only
while it is free. -/
def SafeFree (sync : LocSync κ χ π) : Event κ χ π → Prop
  | .free request => sync.frees request = 0 ∨
      ∀ selectId, (sync.pc request).slot = some selectId → sync.slotInUse selectId = false
  | _ => True

theorem afterWait_left {result : WaitResult} (notBusy : result ≠ .busy) :
    (∃ at_ status, afterWait selectId retryRem result = .failed at_ status) ∨
      ∃ status, afterWait selectId retryRem result = .done status := by
  cases result with
  | arrived => simp [afterWait, Pc.endTurn, LocClientStatus.isRetried]
  | timedOut => simp [afterWait, Pc.endTurn, LocClientStatus.isRetried]
  | busy => exact absurd rfl notBusy

theorem Owned.step (owned : sync.Owned) (safe : sync.SafeFree event)
    (stepped : Stepped sync event sync') : sync'.Owned := by
  cases stepped with
  | alloc isIdle => exact owned.locAllocSlot isIdle
  | select isAllocated => exact owned.locSyncSelectInd isAllocated
  | send status isSending => exact owned.locClientSendReq isSending status
  | wait isSent => exact owned.locSyncWaitForInd isSent
  | wake isWaiting => exact owned.leaveWait isWaiting (by simp)
  | timeOut isWaiting => exact owned.leaveWait isWaiting (by simp)
  | @freeWoken request selectId retryRem result isWoken =>
      have slot : (sync.pc request).slot = some selectId := by
        simp [isWoken, Pc.slot, Pc.selected]
      have notBusy : result ≠ .busy := by
        rintro rfl
        exact owned.notBusy request selectId retryRem isWoken
      apply owned.locFreeSlot slot
      · left
        exact owned.holds slot (by simp [isWoken])
      · exact afterWait_left notBusy
  | @freeFailed request selectId status isFailed =>
      have slot : (sync.pc request).slot = some selectId := by
        simp [isFailed, Pc.slot, Pc.selected]
      apply owned.locFreeSlot slot
      · rcases safe with notFreed | isFree
        · left
          exact ⟨slot, notFreed⟩
        · right
          exact isFree selectId slot
      · right
        exact ⟨status, rfl⟩
  | processInd ind => exact owned.locSyncProcessInd

theorem FreedOnce.locSyncProcessInd (once : sync.FreedOnce) :
    (sync.locSyncProcessInd ind).FreedOnce := by
  apply locSyncProcessInd_invariant
  · intro sync selectId once isMatch
    constructor
    · intro request
      rw [give_frees, once.frees request, give_pc]
      split
      · cases sync.pc request <;> rfl
      · rfl
    · intro request at_ rem timedOut
      rw [give_pc_eq ind request rfl] at timedOut
      exact once.notTimedOut request at_ rem timedOut
  · exact fun sync once => ⟨once.frees, once.notTimedOut⟩
  · exact once

def NoTimeOut (_ : LocSync κ χ π) : Event κ χ π → Prop
  | .timeOut _ => False
  | _ => True

theorem FreedOnce.safeFree (once : sync.FreedOnce) (event : Event κ χ π)
    (stepped : Stepped sync event sync') : sync.SafeFree event := by
  cases stepped with
  | @freeWoken request _ _ _ isWoken =>
      left
      rw [once.frees request, isWoken, Pc.freed]
      simp
  | @freeFailed request _ _ isFailed =>
      left
      rw [once.frees request, isFailed, Pc.freed]
      simp
  | _ => trivial

theorem FreedOnce.step (once : sync.FreedOnce) (owned : sync.Owned)
    (inTime : sync.NoTimeOut event) (stepped : Stepped sync event sync') : sync'.FreedOnce := by
  cases stepped with
  | @alloc request isIdle =>
      unfold locAllocSlot
      rcases sync.freeSlot with _ | selectId
      · apply once.goOn request .bufferFull <;> simp [isIdle, Pc.freed]
      · apply once.goOn request (.allocated selectId) <;> simp [isIdle, Pc.freed]
  | @select request selectId isAllocated =>
      apply once.goOn request (.sending selectId 5) <;>
        simp [locSyncSelectInd, isAllocated, Pc.freed]
  | @send request selectId retryRem status isSending =>
      unfold locClientSendReq
      split
      · apply once.goOn request (.sent selectId retryRem) <;> simp [isSending, Pc.freed]
      · rename_i notSuccess
        rcases Pc.endTurn_failed selectId retryRem notSuccess with ⟨selected, -, notWoken⟩
        apply once.goOn request (.endTurn selectId retryRem status)
        · rfl
        · rfl
        · rw [isSending, Pc.freed_selected selected]
          rfl
        · intro at_ rem
          exact notWoken at_ rem .timedOut
  | @wait request selectId retryRem isSent =>
      rw [owned.locSyncWaitForInd_eq isSent]
      split
      · apply once.goOn request (.woken selectId retryRem .arrived) <;> simp [isSent, Pc.freed]
      · apply once.goOn request (.waiting selectId retryRem false) <;> simp [isSent, Pc.freed]
  | @wake request selectId retryRem signaled isWaiting =>
      apply once.goOn request (.woken selectId retryRem .arrived) <;>
        simp [leaveWait, isWaiting, Pc.freed]
  | timeOut isWaiting => cases inTime
  | @freeWoken request selectId retryRem result isWoken =>
      have arrived : result = .arrived := by
        cases result with
        | arrived => rfl
        | timedOut => exact absurd isWoken (once.notTimedOut request selectId retryRem)
        | busy => exact absurd isWoken (owned.notBusy request selectId retryRem)
      have freed : sync.frees request = 0 := by
        simp [once.frees request, isWoken, Pc.freed]
      subst arrived
      apply once.keep request
      · intro other ne
        simp [locFreeSlot, ne]
      · intro other ne
        simp [locFreeSlot, ne]
      · simp [locFreeSlot, freed, afterWait, Pc.endTurn, LocClientStatus.isRetried,
          Pc.freed]
      · simp [locFreeSlot, afterWait, Pc.endTurn, LocClientStatus.isRetried]
  | @freeFailed request selectId status isFailed =>
      have freed : sync.frees request = 0 := by
        simp [once.frees request, isFailed, Pc.freed]
      apply once.keep request
      · intro other ne
        simp [locFreeSlot, ne]
      · intro other ne
        simp [locFreeSlot, ne]
      · simp [locFreeSlot, freed, Pc.freed]
      · simp [locFreeSlot]
  | processInd ind => exact once.locSyncProcessInd

theorem Owned.receives (owned : sync.Owned) (request : κ)
    (writes : (sync.locSyncProcessInd ind).copied request ≠ sync.copied request) :
    ind.clientHandle = (sync.call request).clientHandle ∧
      ind.indId = (sync.call request).indId ∧
        ∃ selectId, (sync.pc request).selected = some selectId := by
  have given : (sync.locSyncProcessInd ind).Owned ∧
      (sync.locSyncProcessInd ind).call = sync.call ∧
        ((sync.locSyncProcessInd ind).pc request).selected = (sync.pc request).selected ∧
          ((sync.locSyncProcessInd ind).copied request ≠ sync.copied request →
            ind.clientHandle = (sync.call request).clientHandle ∧
              ind.indId = (sync.call request).indId ∧
                ∃ selectId, (sync.pc request).selected = some selectId) := by
    apply locSyncProcessInd_invariant fun current => current.Owned ∧ current.call = sync.call ∧
      (current.pc request).selected = (sync.pc request).selected ∧
        (current.copied request ≠ sync.copied request →
          ind.clientHandle = (sync.call request).clientHandle ∧
            ind.indId = (sync.call request).indId ∧
              ∃ selectId, (sync.pc request).selected = some selectId)
    · rintro current selectId ⟨owned, call, selected, known⟩ isMatch
      refine ⟨owned.give isMatch, ?_, ?_, ?_⟩
      · rw [give_call, call]
      · rw [give_pc_selected, selected]
      · rw [give_copied]
        split
        · rename_i takes
          intro _
          rcases owned.filled_of_matches isMatch with ⟨other, _, otherSelected, filled⟩
          have same : request = other := by
            rw [filled.recvIndPayloadPtr] at takes
            by_cases wants : (current.call other).wantsPayload = true
            · simpa [wants, eq_comm] using takes.1
            · simp [wants] at takes
          rw [← call, ← selected, same]
          refine ⟨?_, isMatch.2.2.1.trans filled.recvIndId, selectId, otherSelected⟩
          exact Option.some.inj (isMatch.2.1.symm.trans filled.clientHandle)
        · exact known
    · rintro current ⟨owned, call, selected, known⟩
      exact ⟨owned.setInUse false, call, selected, known⟩
    · exact ⟨owned, rfl, rfl, fun changed => absurd rfl changed⟩
  exact given.2.2.2 writes

/-- Every request has its slot to itself until it frees it, refers to it no more after that, frees
it once, and gets the payload of no other request. -/
structure SyncOk (sync : LocSync κ χ π) : Prop where
  exclusive : ∀ request other selectId, (sync.pc request).slot = some selectId →
    (sync.pc other).slot = some selectId → request = other
  inUse : ∀ request selectId, (sync.pc request).slot = some selectId →
    sync.slotInUse selectId = true
  kept : ∀ request selectId, (sync.pc request).selected = some selectId →
    sync.Filled request selectId
  notFreed : ∀ request selectId, (sync.pc request).slot = some selectId → sync.frees request = 0
  freedOnce : ∀ request status, sync.pc request = .done status → sync.frees request = 1
  receives : ∀ request ind sync', sync.step (.processInd ind) = some sync' →
    sync'.copied request ≠ sync.copied request →
      ind.clientHandle = (sync.call request).clientHandle ∧
        ind.indId = (sync.call request).indId ∧
          ∃ selectId, (sync.pc request).selected = some selectId

theorem FreedOnce.syncOk (once : sync.FreedOnce) (owned : sync.Owned) : sync.SyncOk := by
  have notFreed : ∀ request selectId, (sync.pc request).slot = some selectId →
      sync.frees request = 0 := by
    intro request selectId slot
    rw [once.frees request]
    cases pc : sync.pc request <;> simp_all [Pc.slot, Pc.selected, Pc.freed]
  have holds : ∀ request selectId, (sync.pc request).slot = some selectId →
      sync.Holds request selectId := fun request selectId slot =>
    ⟨slot, notFreed request selectId slot⟩
  constructor
  · intro request other selectId slot otherSlot
    exact owned.exclusive request other selectId (holds request selectId slot)
      (holds other selectId otherSlot)
  · intro request selectId slot
    exact (owned.serves request selectId (holds request selectId slot)).inUse
  · intro request selectId selected
    have slot := Pc.slot_of_selected selected
    exact (owned.serves request selectId (holds request selectId slot)).filled selected
  · exact notFreed
  · intro request status isDone
    rw [once.frees request, isDone, Pc.freed]
  · rintro request ind _ ⟨⟩ writes
    exact owned.receives request writes

def Step (sync : LocSync κ χ π) (event : Event κ χ π) (sync' : LocSync κ χ π) : Prop :=
  sync.step event = some sync'

/-- As long as no wait times out, every request has its slot to itself and frees it once. -/
theorem reachable_syncOk (reached : Run.Reachable IsInit (Run.Guarded NoTimeOut Step) sync) :
    sync.SyncOk := by
  have inv : sync.Owned ∧ sync.FreedOnce := by
    apply reached.invariant fun sync => sync.Owned ∧ sync.FreedOnce
    · rintro _ ⟨call, rfl⟩
      refine ⟨.init call, ?_⟩
      constructor <;> simp [init, Pc.freed]
    · rintro sync event sync' ⟨owned, once⟩ ⟨inTime, stepped⟩
      have stepped := stepped_of_step stepped
      exact ⟨owned.step (once.safeFree event stepped) stepped, once.step owned inTime stepped⟩
  exact inv.2.syncOk inv.1

end Steps

section Runs

instance (sync : LocSync κ χ π) (event : Event κ χ π) : Decidable (NoTimeOut sync event) :=
  match event with
  | .timeOut _ => isFalse id
  | .alloc _ | .select _ | .send _ _ | .wait _ | .wake _ | .free _ | .processInd _ => isTrue trivial

def sameCalls : Bool → Call ℕ := fun _ => ⟨1, 2, 2, true⟩

def upToWait (request : Bool) : List (Event Bool ℕ ℕ) :=
  [.alloc request, .select request, .send request .success, .wait request]

def oneAnswered : Option (LocSync Bool ℕ ℕ) :=
  Run.runGuarded NoTimeOut (fun sync event => sync.step event) (init sameCalls)
    (upToWait true ++ upToWait false ++ [.processInd ⟨1, 2, some 7⟩, .wake true, .free true])

theorem oneAnswered_isSome : oneAnswered.isSome = true := by decide +kernel

theorem reachable_syncOk_answered :
    ∃ sync : LocSync Bool ℕ ℕ, sync.pc true = .done .success ∧
      sync.pc false = .waiting 1 5 false ∧ sync.SyncOk := by
  refine ⟨oneAnswered.get oneAnswered_isSome, by decide +kernel, by decide +kernel, ?_⟩
  exact reachable_syncOk (Run.Reachable.runGuarded _ (.start ⟨sameCalls, rfl⟩)
    (Option.some_get oneAnswered_isSome).symm)

def freedTwice : Option (LocSync Bool ℕ ℕ) :=
  Run.runAll (fun sync event => sync.step event) (init sameCalls)
    (upToWait true ++ [.timeOut true, .free true, .alloc false, .select false, .free true])

theorem freedTwice_isSome : freedTwice.isSome = true := by decide +kernel

/-- A request that times out frees its slot twice, the second time under another request. -/
theorem reachable_not_syncOk :
    ∃ sync : LocSync Bool ℕ ℕ, Run.Reachable IsInit Step sync ∧ sync.frees true = 2 ∧
      (sync.pc false).slot = some 0 ∧ sync.slotInUse 0 = false ∧ ¬sync.SyncOk := by
  refine ⟨freedTwice.get freedTwice_isSome, ?_, by decide +kernel, by decide +kernel,
    by decide +kernel, ?_⟩
  · exact Run.Reachable.runAll _ (.start ⟨sameCalls, rfl⟩)
      (Option.some_get freedTwice_isSome).symm
  · intro ok
    have inUse := ok.inUse false 0 (by decide +kernel)
    revert inUse
    decide +kernel

end Runs

end HtcPme.Gps.LocSync
