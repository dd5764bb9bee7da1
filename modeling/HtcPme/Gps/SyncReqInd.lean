import HtcPme.Gps.SyncReqRun
import Mathlib.Data.Set.Card
import Mathlib.Order.WellFounded

/-!
# Which request an indication is given to

An indication goes to the first slot that takes it, be it of a request that waits for it or not.
-/

namespace HtcPme.Gps.LocSync

open Pc List Function

variable {κ χ π : Type*}

def Pc.knows : Pc → Bool
  | waiting _ _ signaled => signaled
  | woken _ _ result => result = .arrived
  | done status => status = .success
  | bufferFull => true
  | _ => false

def Pc.isSignaled : Pc → Bool
  | waiting _ _ signaled => signaled
  | _ => false

def Pc.gaveUp : Pc → Bool
  | woken _ _ result => result ≠ .arrived
  | failed _ _ => true
  | done status => status ≠ .success
  | _ => false

def Pc.begun : Pc → Bool
  | idle | allocated _ => false
  | _ => true

theorem Pc.begun_cases {pc : Pc} (begun : pc.begun = true) :
    pc.isPending = true ∨ pc.knows = true ∨ pc.gaveUp = true := by
  cases pc with
  | woken at_ retryRem result =>
    by_cases arrived : result = .arrived <;> simp [knows, gaveUp, arrived]
  | done status => by_cases success : status = .success <;> simp [knows, gaveUp, success]
  | _ => simp_all [Pc.begun, Pc.isPending, Pc.knows, Pc.gaveUp]

theorem Pc.knows_of_signal {pc : Pc} {selectId : SelectId}
    (knows : (pc.signal selectId).knows = true) :
    pc.knows = true ∨ ∃ retryRem signaled, pc = .waiting selectId retryRem signaled := by
  cases pc with
  | waiting at_ retryRem signaled =>
      simp only [Pc.signal, Pc.knows, Bool.or_eq_true, decide_eq_true_eq] at knows
      rcases knows with before | rfl
      · left
        exact before
      · right
        exact ⟨retryRem, signaled, rfl⟩
  | _ => exact .inl knows

structure Answered (sync : LocSync κ χ π) : Prop where
  arrived : ∀ request selectId, sync.Holds request selectId →
    (sync.slots selectId).indHasArrived = true → sync.given request ≠ []
  known : ∀ request, (sync.pc request).knows = true → sync.given request ≠ []
  failed : ∀ request selectId status, sync.pc request = .failed selectId status →
    status ≠ .success

def Flagged (sync : LocSync κ χ π) : Prop :=
  ∀ selectId, sync.slotInUse selectId = true → sync.inUse = true

section Steps

variable {sync sync' : LocSync κ χ π} {request other : κ} {selectId : SelectId} {retryRem : ℕ}

theorem Answered.keep (answered : sync.Answered) (request : κ) (selectId : SelectId)
    (steps : StepsAt sync sync' request selectId)
    (alone : ∀ other, other ≠ request → ¬ sync.Holds other selectId)
    (arrived : ∀ at_, sync'.Holds request at_ → (sync'.slots at_).indHasArrived = true →
      sync.given request ≠ [])
    (known : (sync'.pc request).knows = true → sync.given request ≠ [])
    (failed : ∀ at_ status, sync'.pc request = .failed at_ status → status ≠ .success) :
    sync'.Answered := by
  constructor
  · intro other at_ holds hasArrived
    rw [steps.given]
    by_cases same : other = request
    · rw [same] at holds ⊢
      exact arrived at_ holds hasArrived
    · rw [steps.holds same] at holds
      have elsewhere : at_ ≠ selectId := by
        rintro rfl
        exact alone other same holds
      rw [steps.slots at_ elsewhere] at hasArrived
      exact answered.arrived other at_ holds hasArrived
  · intro other knows
    rw [steps.given]
    by_cases same : other = request
    · rw [same] at knows ⊢
      exact known knows
    · rw [steps.pc other same] at knows
      exact answered.known other knows
  · intro other at_ status isFailed
    by_cases same : other = request
    · rw [same] at isFailed
      exact failed at_ status isFailed
    · rw [steps.pc other same] at isFailed
      exact answered.failed other at_ status isFailed

theorem Answered.goOn (answered : sync.Answered) (owned : sync.Owned)
    (steps : StepsAt sync sync' request selectId) (holds : sync.Holds request selectId)
    (slot : (sync'.pc request).slot = some selectId ∨ (sync'.pc request).slot = none)
    (arrived : (sync'.slots selectId).indHasArrived = true →
      (sync.slots selectId).indHasArrived = true)
    (known : (sync'.pc request).knows = true → sync.given request ≠ [])
    (failed : ∀ at_ status, sync'.pc request = .failed at_ status → status ≠ .success) :
    sync'.Answered := by
  apply answered.keep request selectId steps (owned.alone holds)
  · rintro at_ ⟨slotAt, -⟩ hasArrived
    have here : at_ = selectId := by
      rcases slot with slot | none
      · exact Option.some.inj (slotAt.symm.trans slot)
      · rw [none] at slotAt
        cases slotAt
    rw [here] at hasArrived
    exact answered.arrived request selectId holds (arrived hasArrived)
  · exact known
  · exact failed

/-- There is a free slot for each request that begins, none is woken without a signal, no slot is
freed under another request, and none takes an indication before those that wait for it. -/
def Answerable (sync : LocSync κ χ π) : Event κ χ π → Prop
  | .alloc _ => ∃ selectId, sync.slotInUse selectId = false
  | .wake request => (sync.pc request).isSignaled = true
  | .processInd ind => ∀ selectId, sync.Matches ind selectId → sync.Copies ind selectId →
      (∀ request, sync.Pending ind.clientHandle ind.indId request →
        (sync.pc request).selected ≠ some selectId) →
        ∀ request, sync.Pending ind.clientHandle ind.indId request →
          ∃ other before, sync.Pending ind.clientHandle ind.indId other ∧
            (sync.pc other).selected = some before ∧ before < selectId
  | event => sync.SafeFree event

variable {event : Event κ χ π}

theorem Answerable.safeFree (answerable : sync.Answerable event) : sync.SafeFree event := by
  cases event <;> first | exact answerable | trivial

variable {clientHandle : χ} {indId : ℕ} {ind : Indication χ π} {pc : Pc}
  {events : List (Event κ χ π)}

theorem Pending.holds (pending : sync.Pending clientHandle indId request) (owned : sync.Owned) :
    ∃ selectId, (sync.pc request).selected = some selectId ∧ sync.Holds request selectId := by
  have isPending := pending.isPending
  have some : ∃ selectId, (sync.pc request).selected = some selectId := by
    cases pc : sync.pc request <;> simp_all [Pc.isPending, Pc.selected]
  rcases some with ⟨selectId, selected⟩
  refine ⟨selectId, selected, owned.holds (Pc.slot_of_selected selected) ?_⟩
  intro at_ status isFailed
  simp [isFailed, Pc.isPending] at isPending

theorem Pending.finds
    (pending : sync.Pending ind.clientHandle ind.indId request) (owned : sync.Owned)
    (answered : sync.Answered) :
    ∃ selectId, (sync.pc request).selected = some selectId ∧ sync.frees request = 0 ∧
      sync.Matches ind selectId := by
  rcases pending.holds owned with ⟨selectId, selected, holds⟩
  have served := owned.serves request selectId holds
  have filled := served.filled selected
  refine ⟨selectId, selected, holds.2, served.inUse, ?_, ?_, ?_⟩
  · rw [filled.clientHandle, pending.clientHandle]
  · rw [filled.recvIndId, pending.indId]
  · by_contra arrived
    exact answered.arrived request selectId holds (Bool.not_eq_false _ ▸ arrived)
      pending.notGiven

theorem Owned.pending_finite (owned : sync.Owned) (clientHandle : χ) (indId : ℕ) :
    {request | sync.Pending clientHandle indId request}.Finite := by
  apply Set.Finite.of_finite_image (Set.toFinite ((fun request => (sync.pc request).slot) '' _))
  intro first firstPending second secondPending same
  rcases firstPending.holds owned with ⟨selectId, -, firstHolds⟩
  rcases secondPending.holds owned with ⟨at_, -, secondHolds⟩
  have here : at_ = selectId :=
    Option.some.inj (secondHolds.1.symm.trans (same.symm.trans firstHolds.1))
  subst here
  exact owned.exclusive first second at_ firstHolds secondHolds

def GivenFor (sync : LocSync κ χ π) (request : κ) (ind : Indication χ π) : Prop :=
  ind ∈ sync.given request ∧ ind.clientHandle = (sync.call request).clientHandle ∧
    ind.indId = (sync.call request).indId ∧
      ((sync.call request).wantsPayload = true → ind.payload.isSome = true →
        ind ∈ sync.copied request)

theorem Owned.givenFor (owned : sync.Owned) (given : ind ∈ sync.given request) :
    sync.GivenFor request ind :=
  ⟨given, (owned.matched request ind given).1, (owned.matched request ind given).2,
    owned.copied request ind given⟩

variable [DecidableEq κ]

theorem StepsAt.update (pc : Pc) (slot : Slot κ χ) :
    StepsAt sync { sync with
      slots := update sync.slots selectId slot
      pc := update sync.pc request pc } request selectId := by
  constructor <;> intros <;> simp_all

theorem StepsAt.updatePc (pc : Pc) (selectId : SelectId) :
    StepsAt sync { sync with pc := Function.update sync.pc request pc } request selectId := by
  constructor <;> intros <;> simp_all

theorem StepsAt.locFreeSlot (pc : Pc) :
    StepsAt sync (sync.locFreeSlot request selectId pc) request selectId := by
  constructor <;> intros <;> simp_all [LocSync.locFreeSlot]

theorem Answered.locAllocSlot (answered : sync.Answered) (owned : sync.Owned)
    (room : ∃ selectId, sync.slotInUse selectId = false) :
    (sync.locAllocSlot request).Answered := by
  unfold LocSync.locAllocSlot
  rcases found : sync.freeSlot with _ | selectId
  · rcases room with ⟨selectId, free⟩
    have used := find?_eq_none.mp found selectId (mem_finRange selectId)
    simp [free] at used
  · have free := freeSlot_some found
    apply answered.keep request selectId
    · constructor <;> intros <;> simp_all
    · intro other _ holds
      simp [(owned.serves other selectId holds).inUse] at free
    · rintro at_ ⟨slot, -⟩ hasArrived
      simp only [update_self, Pc.slot, Option.some.injEq] at slot
      simp [← slot, owned.cleared selectId free, Slot.cleared] at hasArrived
    · simp [Pc.knows]
    · simp

theorem Pc.endTurn_known {status : LocClientStatus} (notSuccess : status ≠ .success) :
    (endTurn selectId retryRem status).knows = false ∧
      ∀ at_ failed, endTurn selectId retryRem status = .failed at_ failed →
        failed ≠ .success := by
  unfold endTurn
  rw [if_neg notSuccess]
  split
  · simp [knows]
  · refine ⟨rfl, ?_⟩
    rintro at_ failed ⟨⟩
    exact notSuccess

section

variable (answered : sync.Answered)

include answered

variable (owned : sync.Owned)

include owned

theorem Answered.locClientSendReq
    (isSending : sync.pc request = .sending selectId retryRem) (status : LocClientStatus) :
    (sync.locClientSendReq request selectId retryRem status).Answered := by
  have holds : sync.Holds request selectId :=
    owned.holds (by simp [isSending, slot, selected]) (by simp [isSending])
  apply answered.goOn owned (.updatePc _ selectId) holds
  · left
    split
    · simp [slot, selected]
    · rename_i notSuccess
      simp [slot_of_selected (endTurn_failed selectId retryRem notSuccess).1]
  · exact id
  · simp only [Function.update_self]
    split
    · simp [knows]
    · simp [endTurn_known ‹_›]
  · simp only [Function.update_self]
    split
    · simp
    · exact (endTurn_known ‹_›).2

theorem Answered.locSyncWaitForInd (isSent : sync.pc request = .sent selectId retryRem) :
    (sync.locSyncWaitForInd request selectId retryRem).Answered := by
  have holds : sync.Holds request selectId :=
    owned.holds (by simp [isSent, slot, selected]) (by simp [isSent])
  rw [owned.locSyncWaitForInd_eq isSent]
  split
  · rename_i hasArrived
    apply answered.goOn owned (.updatePc _ selectId) holds
    · simp [slot, selected]
    · exact id
    · intro _
      exact answered.arrived request selectId holds hasArrived
    · simp
  · apply answered.goOn owned (.update _ _) holds
    · simp [slot, selected]
    · simp
    · simp [knows]
    · simp

theorem Answered.leaveWait {signaled : Bool} {result : WaitResult}
    (isWaiting : sync.pc request = .waiting selectId retryRem signaled)
    (known : result = .arrived → signaled = true) :
    (sync.leaveWait request selectId retryRem result).Answered := by
  have holds : sync.Holds request selectId :=
    owned.holds (by simp [isWaiting, Pc.slot, Pc.selected]) (by simp [isWaiting])
  apply answered.goOn owned (.update _ _) holds
  · simp [Pc.slot, Pc.selected]
  · simp
  · intro knows
    apply answered.known request
    rw [isWaiting]
    apply known
    simpa [Pc.knows] using knows
  · simp

end

theorem Flagged.locFreeSlot (flagged : sync.Flagged) (pc : Pc) :
    (sync.locFreeSlot request selectId pc).Flagged := by
  intro at_ used
  have any : (finRange bufferSize).any (update sync.slotInUse selectId false) =
      true := any_eq_true.mpr ⟨at_, mem_finRange at_, used⟩
  have ne : at_ ≠ selectId := by
    rintro rfl
    simp [LocSync.locFreeSlot] at used
  rw [LocSync.locFreeSlot, if_pos any]
  apply flagged at_
  simpa [LocSync.locFreeSlot, ne] using used

theorem Answered.locFreeSlot (answered : sync.Answered) (owned : sync.Owned)
    (safe : sync.Holds request selectId ∨ sync.slotInUse selectId = false)
    (known : pc.knows = true → sync.given request ≠ [])
    (failed : ∀ at_ status, pc = .failed at_ status → status ≠ .success) :
    (sync.locFreeSlot request selectId pc).Answered := by
  apply answered.keep request selectId (.locFreeSlot pc)
  · intro other ne holds
    rcases safe with own | free
    · exact owned.alone own other ne holds
    · simp [(owned.serves other selectId holds).inUse] at free
  · rintro at_ ⟨-, notFreed⟩
    simp [LocSync.locFreeSlot] at notFreed
  · simpa [LocSync.locFreeSlot] using known
  · simpa [LocSync.locFreeSlot] using failed

variable {ind : Indication χ π}

theorem Answered.give (answered : sync.Answered) (owned : sync.Owned)
    (isMatch : sync.Matches ind selectId) : (sync.give ind selectId).Answered := by
  have grows : ∀ other, sync.given other ≠ [] → (sync.give ind selectId).given other ≠ [] := by
    intro other given
    rw [give_given]
    split
    · simp
    · exact given
  have receives : ∀ other, (sync.pc other).selected = some selectId → sync.frees other = 0 →
      (sync.give ind selectId).given other ≠ [] := by
    intro other selected notFreed
    rw [give_given, if_pos ⟨selected, notFreed⟩]
    exact append_ne_nil_of_right_ne_nil _ (cons_ne_nil _ _)
  constructor
  · intro other at_ holds hasArrived
    rw [give_holds] at holds
    by_cases here : at_ = selectId
    · rcases owned.filled_of_matches isMatch with ⟨request, holdsHere, selected, -⟩
      rw [here] at holds
      rw [owned.exclusive other request selectId holds holdsHere]
      exact receives request selected holdsHere.2
    · rw [give_slots ind here] at hasArrived
      exact grows other (answered.arrived other at_ holds hasArrived)
  · intro other knows
    rw [give_pc] at knows
    split at knows
    · rcases knows_of_signal knows with before | ⟨rem, signaled, isWaiting⟩
      · exact grows other (answered.known other before)
      · have slot : (sync.pc other).selected = some selectId := by simp [isWaiting, selected]
        exact receives other slot
          (owned.holds (slot_of_selected slot) (by simp [isWaiting])).2
    · exact grows other (answered.known other knows)
  · intro other at_ status isFailed
    rw [give_pc_eq ind other rfl] at isFailed
    exact answered.failed other at_ status isFailed

theorem Pending.of_update (pending : sync'.Pending clientHandle indId other)
    (call : sync'.call = sync.call) (given : sync'.given = sync.given)
    (pcs : sync'.pc = update sync.pc request pc)
    (before : other = request → pc.isPending = true → (sync.pc request).isPending = true) :
    sync.Pending clientHandle indId other := by
  rcases pending with ⟨isPending, notGiven, hasClient, hasInd⟩
  rw [call] at hasClient hasInd
  rw [given] at notGiven
  refine ⟨?_, notGiven, hasClient, hasInd⟩
  rw [pcs] at isPending
  by_cases same : other = request
  · rw [same, update_self] at isPending
    rw [same]
    exact before same isPending
  · rwa [update_of_ne same] at isPending

theorem begun_of_update (pcs : sync'.pc = update sync.pc request pc)
    (begins : (sync.pc request).begun = true → pc.begun = true)
    (begun : (sync.pc other).begun = true) : (sync'.pc other).begun = true := by
  rw [pcs]
  by_cases same : other = request
  · rw [same] at begun ⊢
    rw [update_self]
    exact begins begun
  · rwa [update_of_ne same]

variable [DecidableEq χ]

theorem processSlots_inUse (slots : List SelectId) (any : Bool)
    (visited : ∀ at_, sync.slotInUse at_ = true → at_ ∈ slots ∨ any = true)
    (inUse : sync.inUse = true) (at_ : SelectId) (used : sync.slotInUse at_ = true) :
    (processSlots ind slots any sync).inUse = true := by
  induction slots generalizing any sync with
  | nil =>
      have seen : any = true := by simpa using visited at_ used
      rw [processSlots, if_pos seen]
      exact inUse
  | cons selectId rest ih =>
      have rest : ∀ at_, sync.slotInUse at_ = true → at_ ∈ rest ∨
          (any || sync.slotInUse selectId) = true := by
        intro at_ used
        rcases visited at_ used with member | before
        · rcases mem_cons.mp member with here | member
          · right
            rw [← here, used, Bool.or_true]
          · left
            exact member
        · right
          rw [before, Bool.true_or]
      rw [processSlots]
      split
      · split
        · exact inUse
        · exact ih _ rest inUse used
      · exact ih _ rest inUse used

theorem locSyncProcessInd_slotInUse :
    (sync.locSyncProcessInd ind).slotInUse = sync.slotInUse := by
  apply locSyncProcessInd_invariant fun current => current.slotInUse = sync.slotInUse
  · intro current selectId same _
    rw [give_slotInUse, same]
  · exact fun _ same => same
  · rfl

theorem Answered.locSyncProcessInd (answered : sync.Answered) (owned : sync.Owned) :
    (sync.locSyncProcessInd ind).Answered := by
  have kept : (sync.locSyncProcessInd ind).Owned ∧ (sync.locSyncProcessInd ind).Answered := by
    apply locSyncProcessInd_invariant fun current => current.Owned ∧ current.Answered
    · rintro current selectId ⟨owned, answered⟩ isMatch
      exact ⟨owned.give isMatch, answered.give owned isMatch⟩
    · rintro current ⟨owned, arrived, known, failed⟩
      exact ⟨owned.setInUse false, arrived, known, failed⟩
    · exact ⟨owned, answered⟩
  exact kept.2

theorem Answered.step (answered : sync.Answered) (owned : sync.Owned)
    (answerable : sync.Answerable event) (stepped : Stepped sync event sync') :
    sync'.Answered := by
  cases stepped with
  | alloc isIdle => exact answered.locAllocSlot owned answerable
  | @select request selectId isAllocated =>
      have holds : sync.Holds request selectId :=
        owned.holds (by simp [isAllocated, Pc.slot]) (by simp [isAllocated])
      apply answered.goOn owned (.update _ _) holds
      · simp [Pc.slot, Pc.selected]
      · simp
      · simp [Pc.knows]
      · simp
  | send status isSending => exact answered.locClientSendReq owned isSending status
  | wait isSent => exact answered.locSyncWaitForInd owned isSent
  | @wake request selectId retryRem signaled isWaiting =>
      apply answered.leaveWait owned isWaiting
      intro _
      simpa [Answerable, isWaiting, Pc.isSignaled] using answerable
  | timeOut isWaiting =>
      apply answered.leaveWait owned isWaiting
      simp
  | @freeWoken request selectId retryRem result isWoken =>
      have slot : (sync.pc request).slot = some selectId := by
        simp [isWoken, Pc.slot, Pc.selected]
      apply answered.locFreeSlot owned (.inl (owned.holds slot (by simp [isWoken])))
      · intro knows
        cases result with
        | arrived => exact answered.known request (by simp [isWoken, Pc.knows])
        | timedOut => cases knows
        | busy => exact absurd isWoken (owned.notBusy request selectId retryRem)
      · intro at_ status isFailed
        cases result with
        | arrived => cases isFailed
        | timedOut =>
            cases isFailed
            simp
        | busy => exact absurd isWoken (owned.notBusy request selectId retryRem)
  | @freeFailed request selectId status isFailed =>
      have slot : (sync.pc request).slot = some selectId := by
        simp [isFailed, Pc.slot, Pc.selected]
      apply answered.locFreeSlot owned
      · rcases answerable.safeFree with notFreed | isFree
        · left
          exact ⟨slot, notFreed⟩
        · right
          exact isFree selectId slot
      · intro knows
        simp only [Pc.knows, decide_eq_true_eq] at knows
        exact absurd knows (answered.failed request selectId status isFailed)
      · simp
  | processInd ind => exact answered.locSyncProcessInd owned

theorem Flagged.step (flagged : sync.Flagged) (owned : sync.Owned)
    (stepped : Stepped sync event sync') :
    sync'.Flagged := by
  cases stepped with
  | alloc isIdle =>
      unfold locAllocSlot
      split
      · exact fun _ _ => rfl
      · exact flagged
  | select isAllocated => exact flagged
  | send status isSending => exact flagged
  | wait isSent =>
      rw [owned.locSyncWaitForInd_eq isSent]
      split <;> exact flagged
  | wake isWaiting => exact flagged
  | timeOut isWaiting => exact flagged
  | freeWoken isWoken => exact flagged.locFreeSlot _
  | freeFailed isFailed => exact flagged.locFreeSlot _
  | processInd ind =>
      intro at_ used
      rw [locSyncProcessInd_slotInUse] at used
      have inUse := flagged at_ used
      rw [locSyncProcessInd, if_pos inUse]
      exact processSlots_inUse _ _ (fun at_ _ => .inl (mem_finRange at_)) inUse at_ used

theorem processSlots_mono (slots : List SelectId) (any : Bool) (request : κ)
    (given : ind ∈ sync.given request) :
    ind ∈ (processSlots ind slots any sync).given request := by
  apply processSlots_invariant fun current => ind ∈ current.given request
  · intro current selectId given _
    rw [give_given]
    split
    · exact mem_append_left _ given
    · exact given
  · exact fun _ given => given
  · exact given

theorem processSlots_gives (slots : List SelectId) (any : Bool) (request : κ)
    (sorted : slots.Pairwise (· < ·)) (member : selectId ∈ slots)
    (before : ∀ at_ ∈ slots, at_ < selectId → ¬(sync.Matches ind at_ ∧ sync.Copies ind at_))
    (isMatch : sync.Matches ind selectId) (selected : (sync.pc request).selected = some selectId)
    (notFreed : sync.frees request = 0) :
    ind ∈ (processSlots ind slots any sync).given request := by
  induction slots generalizing any sync with
  | nil => cases member
  | cons first rest ih =>
      rw [pairwise_cons] at sorted
      by_cases here : selectId = first
      · have given : ind ∈ (sync.give ind first).given request := by
          rw [give_given, if_pos ⟨here ▸ selected, notFreed⟩]
          simp
        rw [processSlots, if_pos (here ▸ isMatch)]
        split
        · exact given
        · exact processSlots_mono _ _ request given
      · have later : selectId ∈ rest := mem_of_ne_of_mem here member
        have notTaken := before first mem_cons_self (sorted.1 selectId later)
        rw [processSlots]
        split
        · rename_i found
          rw [if_neg fun copies => notTaken ⟨found, copies⟩]
          apply ih _ sorted.2 later
          · intro at_ member lt
            have ne : at_ ≠ first := (sorted.1 at_ member).ne'
            simpa only [Matches, Copies, give_slotInUse, give_slots ind ne] using
              before at_ (mem_cons_of_mem _ member) lt
          · simpa only [Matches, give_slotInUse, give_slots ind here] using isMatch
          · simpa using selected
          · simpa using notFreed
        · apply ih _ sorted.2 later
          · intro at_ member lt
            exact before at_ (mem_cons_of_mem _ member) lt
          · exact isMatch
          · exact selected
          · exact notFreed

theorem Answered.gives (answered : sync.Answered) (owned : sync.Owned) (flagged : sync.Flagged)
    (answerable : sync.Answerable (.processInd ind)) (request : κ)
    (pending : sync.Pending ind.clientHandle ind.indId request) :
    ∃ other, sync.Pending ind.clientHandle ind.indId other ∧
      ind ∈ (sync.locSyncProcessInd ind).given other := by
  let waits : Set SelectId := fun selectId => ∃ other,
    sync.Pending ind.clientHandle ind.indId other ∧ (sync.pc other).selected = some selectId
  have some : waits.Nonempty := by
    rcases pending.finds owned answered with ⟨selectId, selected, -, -⟩
    exact ⟨selectId, request, pending, selected⟩
  rcases wellFounded_lt.has_min waits some with ⟨selectId, ⟨other, isPending, selected⟩, least⟩
  rcases isPending.finds owned answered with ⟨at_, selectedAt, notFreed, isMatch⟩
  have same : at_ = selectId := Option.some.inj (selectedAt.symm.trans selected)
  subst same
  refine ⟨other, isPending, ?_⟩
  rw [LocSync.locSyncProcessInd, if_pos (flagged at_ isMatch.1)]
  apply processSlots_gives _ _ _ (pairwise_lt_finRange _) (mem_finRange at_)
  · rintro first - lt ⟨found, copies⟩
    have notWaiting : ∀ request, sync.Pending ind.clientHandle ind.indId request →
        (sync.pc request).selected ≠ Option.some first := by
      intro request isPending selected
      exact least first ⟨request, isPending, selected⟩ lt
    rcases answerable first found copies notWaiting other isPending with
      ⟨nearer, before, isPending, selected, ltFirst⟩
    exact least before ⟨nearer, isPending, selected⟩ (ltFirst.trans lt)
  · exact isMatch
  · exact selected
  · exact notFreed

variable {clientHandle : χ} {indId : ℕ}

theorem Pending.of_processInd (pending :
    (sync.locSyncProcessInd ind).Pending clientHandle indId other) :
    sync.Pending clientHandle indId other := by
  have frame : (sync.locSyncProcessInd ind).call = sync.call ∧
      ((sync.locSyncProcessInd ind).pc other).isPending = (sync.pc other).isPending ∧
        ((sync.locSyncProcessInd ind).given other = [] → sync.given other = []) := by
    apply locSyncProcessInd_invariant fun current => current.call = sync.call ∧
      (current.pc other).isPending = (sync.pc other).isPending ∧
        (current.given other = [] → sync.given other = [])
    · rintro current selectId ⟨call, isPending, given⟩ _
      refine ⟨call, ?_, ?_⟩
      · rw [give_pc_isPending, isPending]
      · rw [give_given]
        split
        · simp
        · exact given
    · exact fun _ frame => frame
    · exact ⟨rfl, rfl, id⟩
  rcases pending with ⟨isPending, notGiven, hasClient, hasInd⟩
  rw [frame.1] at hasClient hasInd
  rw [frame.2.1] at isPending
  exact ⟨isPending, frame.2.2 notGiven, hasClient, hasInd⟩

theorem Pending.of_step (pending : sync'.Pending clientHandle indId other) (owned : sync.Owned)
    (stepped : Stepped sync event sync')
    (notNew : event = .select other →
      ¬((sync.call other).clientHandle = clientHandle ∧ (sync.call other).indId = indId)) :
    sync.Pending clientHandle indId other := by
  cases stepped with
  | @alloc request isIdle =>
      unfold locAllocSlot at pending
      split at pending
      · exact pending.of_update rfl rfl rfl (by simp [Pc.isPending])
      · exact pending.of_update rfl rfl rfl (by simp [Pc.isPending])
  | @select request selectId isAllocated =>
      refine pending.of_update rfl rfl rfl ?_
      rintro rfl
      exact absurd ⟨pending.clientHandle, pending.indId⟩ (notNew rfl)
  | send status isSending =>
      refine pending.of_update rfl rfl rfl ?_
      simp [isSending, Pc.isPending]
  | wait isSent =>
      rw [owned.locSyncWaitForInd_eq isSent] at pending
      split at pending
      · exact pending.of_update rfl rfl rfl (by simp [Pc.isPending])
      · exact pending.of_update rfl rfl rfl (by simp [isSent, Pc.isPending])
  | wake isWaiting | timeOut isWaiting | freeFailed isFailed =>
        exact pending.of_update rfl rfl rfl (by simp [Pc.isPending])
  | @freeWoken request selectId retryRem result isWoken =>
      refine pending.of_update rfl rfl rfl ?_
      intro _ isPending
      cases result with
      | arrived => cases isPending
      | timedOut => cases isPending
      | busy => exact absurd isWoken (owned.notBusy request selectId retryRem)
  | processInd ind => exact pending.of_processInd

structure Served (sync : LocSync κ χ π) : Prop where
  owned : sync.Owned
  answered : sync.Answered
  flagged : sync.Flagged

theorem Served.step (served : sync.Served)
    (stepped : Run.Guarded Answerable Step sync event sync') : sync'.Served := by
  have isStep := stepped_of_step stepped.2
  constructor
  · exact served.owned.step stepped.1.safeFree isStep
  · exact served.answered.step served.owned stepped.1 isStep
  · exact served.flagged.step served.owned isStep

theorem Served.reachable
    (reached : Run.Reachable IsInit (Run.Guarded Answerable Step) sync) : sync.Served := by
  apply reached.invariant Served
  · rintro _ ⟨call, rfl⟩
    refine ⟨.init call, ?_, ?_⟩
    · constructor <;> simp [init, Slot.cleared, knows]
    · intro selectId inUse
      cases inUse
  · exact fun _ _ _ served stepped => served.step stepped

def Event.isFor (clientHandle : χ) (indId : ℕ) : Event κ χ π → Bool
  | .processInd ind => ind.clientHandle = clientHandle ∧ ind.indId = indId
  | _ => false

def NoneBegins (sync : LocSync κ χ π) (clientHandle : χ) (indId : ℕ)
    (events : List (Event κ χ π)) : Prop :=
  ∀ request, .select request ∈ events →
    ¬((sync.call request).clientHandle = clientHandle ∧ (sync.call request).indId = indId)

noncomputable def pendingCount (sync : LocSync κ χ π) (clientHandle : χ) (indId : ℕ) : ℕ :=
  {request | sync.Pending clientHandle indId request}.ncard

theorem Stepped.call (stepped : Stepped sync event sync') : sync'.call = sync.call := by
  cases stepped with
  | alloc isIdle =>
      unfold locAllocSlot
      split <;> rfl
  | wait isSent =>
      unfold locSyncWaitForInd
      dsimp only
      split
      · rfl
      · split
        · rfl
        · split <;> rfl
  | processInd ind =>
      apply locSyncProcessInd_invariant fun current => current.call = sync.call
      · exact fun _ _ same _ => same
      · exact fun _ same => same
      · rfl
  | _ => rfl

theorem Served.pendingCount_step (served : sync.Served)
    (stepped : Run.Guarded Answerable Step sync event sync')
    (noneBegins : sync.NoneBegins clientHandle indId [event]) :
    sync'.pendingCount clientHandle indId ≤ sync.pendingCount clientHandle indId ∧
      (event.isFor clientHandle indId = true →
        sync'.pendingCount clientHandle indId ≤ sync.pendingCount clientHandle indId - 1) := by
  have isStep := stepped_of_step stepped.2
  have finite := served.owned.pending_finite clientHandle indId
  have fewer : {request | sync'.Pending clientHandle indId request} ⊆
      {request | sync.Pending clientHandle indId request} := by
    intro request pending
    apply pending.of_step served.owned isStep
    rintro rfl
    exact noneBegins request (mem_singleton.mpr rfl)
  refine ⟨Set.ncard_le_ncard fewer finite, ?_⟩
  intro isFor
  rcases Set.eq_empty_or_nonempty {request | sync.Pending clientHandle indId request} with
    none | ⟨request, pending⟩
  · rw [none] at fewer
    simp [pendingCount, Set.subset_empty_iff.mp fewer]
  · cases event with
    | processInd ind =>
        simp only [Event.isFor, decide_eq_true_eq] at isFor
        rcases isFor with ⟨rfl, rfl⟩
        rcases served.answered.gives served.owned served.flagged stepped.1 request pending with
          ⟨other, isPending, given⟩
        have strictly : {request | sync'.Pending ind.clientHandle ind.indId request} ⊂
            {request | sync.Pending ind.clientHandle ind.indId request} := by
          refine ⟨fewer, fun all => ?_⟩
          have notGiven := (all isPending).notGiven
          cases isStep
          rw [notGiven] at given
          cases given
        have lt := Set.ncard_lt_ncard strictly finite
        simp only [pendingCount]
        omega
    | _ => cases isFor

theorem Served.answersAll (served : sync.Served)
    (path : Run.Path (Run.Guarded Answerable Step) sync events sync')
    (noneBegins : sync.NoneBegins clientHandle indId events)
    (enough : sync.pendingCount clientHandle indId ≤
      events.countP (Event.isFor clientHandle indId)) :
    ∀ request, ¬sync'.Pending clientHandle indId request := by
  induction path with
  | nil sync =>
      intro request pending
      have finite := served.owned.pending_finite clientHandle indId
      have none := (Set.ncard_eq_zero finite).mp (Nat.le_zero.mp enough)
      exact Set.eq_empty_iff_forall_notMem.mp none request pending
  | @cons sync next sync' event events stepped rest ih =>
      have counts := served.pendingCount_step stepped fun request member =>
        noneBegins request (mem_cons.mpr (.inl (mem_singleton.mp member)))
      apply ih (served.step stepped)
      · intro request member
        rw [(stepped_of_step stepped.2).call]
        exact noneBegins request (mem_cons_of_mem _ member)
      · rw [countP_cons] at enough
        split at enough
        · have fewer := counts.2 ‹_›
          omega
        · have notMore := counts.1
          omega

theorem Pc.begun_endTurn (status : LocClientStatus) :
    (endTurn selectId retryRem status).begun = true := by
  unfold endTurn
  split
  · rfl
  · split <;> rfl

theorem Stepped.begun (stepped : Stepped sync event sync') (owned : sync.Owned)
    (begun : (sync.pc other).begun = true) : (sync'.pc other).begun = true := by
  cases stepped with
  | alloc isIdle =>
      unfold locAllocSlot
      split
      · exact begun_of_update rfl (by simp [isIdle, Pc.begun]) begun
      · exact begun_of_update rfl (by simp [isIdle, Pc.begun]) begun
  | select isAllocated | wake isWaiting | timeOut isWaiting | freeFailed isFailed =>
        exact begun_of_update rfl (fun _ => rfl) begun
  | send status isSending =>
      unfold locClientSendReq
      split
      · exact begun_of_update rfl (fun _ => rfl) begun
      · exact begun_of_update rfl (fun _ => Pc.begun_endTurn status) begun
  | wait isSent =>
      rw [owned.locSyncWaitForInd_eq isSent]
      split
      · exact begun_of_update rfl (fun _ => rfl) begun
      · exact begun_of_update rfl (fun _ => rfl) begun
  | @freeWoken _ _ _ result isWoken =>
      refine begun_of_update rfl (fun _ => ?_) begun
      cases result <;> exact Pc.begun_endTurn _
  | processInd ind =>
      apply locSyncProcessInd_invariant fun current => (current.pc other).begun = true
      · intro current selectId begun _
        rw [give_pc]
        split
        · cases pc : current.pc other <;> simp_all [Pc.signal, Pc.begun]
        · exact begun
      · exact fun _ begun => begun
      · exact begun

theorem Served.path (served : sync.Served)
    (path : Run.Path (Run.Guarded Answerable Step) sync events sync') :
    sync'.Served ∧ sync'.call = sync.call ∧
      ∀ request, (sync.pc request).begun = true → (sync'.pc request).begun = true := by
  induction path with
  | nil sync => exact ⟨served, rfl, fun _ begun => begun⟩
  | cons stepped rest ih =>
      have isStep := stepped_of_step stepped.2
      rcases ih (served.step stepped) with ⟨served', call, begun⟩
      refine ⟨served', call.trans isStep.call, ?_⟩
      intro request hasBegun
      exact begun request (isStep.begun served.owned hasBegun)

/-- An indication is given to a request that waits for it if there is one, as many indications as
requests wait for one answer all that do not give up, and a request succeeds only with one. -/
structure AnswersOk (sync : LocSync κ χ π) : Prop where
  gives : ∀ ind sync' request, Run.Guarded Answerable Step sync (.processInd ind) sync' →
    sync.Pending ind.clientHandle ind.indId request →
      ∃ other, sync.Pending ind.clientHandle ind.indId other ∧ sync'.GivenFor other ind
  answersAll : ∀ clientHandle indId events sync',
    Run.Path (Run.Guarded Answerable Step) sync events sync' →
      sync.NoneBegins clientHandle indId events →
        sync.pendingCount clientHandle indId ≤ events.countP (Event.isFor clientHandle indId) →
          ∀ request, sync.Pending clientHandle indId request →
            (∃ ind, sync'.GivenFor request ind) ∨ (sync'.pc request).gaveUp = true
  succeeds : ∀ request, (sync.pc request).returned = some .success →
    ∃ ind, sync.GivenFor request ind

/-- As long as every request finds a slot, none is woken for nothing, no slot is freed under another
request and none that waits is passed over, the requests are answered. -/
theorem reachable_answersOk
    (reached : Run.Reachable IsInit (Run.Guarded Answerable Step) sync) : sync.AnswersOk := by
  have served := Served.reachable reached
  constructor
  · intro ind sync' request stepped pending
    rcases served.answered.gives served.owned served.flagged stepped.1 request pending with
      ⟨other, isPending, given⟩
    refine ⟨other, isPending, ?_⟩
    have owned := (served.step stepped).owned
    rcases stepped with ⟨_, ⟨⟩⟩
    exact owned.givenFor given
  · intro clientHandle indId events sync' path noneBegins enough request pending
    rcases served.path path with ⟨served', call, begun⟩
    have notPending := served.answersAll path noneBegins enough request
    have hasBegun : (sync.pc request).begun = true := by
      have isPending := pending.isPending
      cases pc : sync.pc request <;> simp_all [Pc.isPending, Pc.begun]
    have given : sync'.given request ≠ [] ∨ (sync'.pc request).gaveUp = true := by
      rcases Pc.begun_cases (begun request hasBegun) with isPending | knows | gaveUp
      · left
        intro notGiven
        apply notPending
        exact ⟨isPending, notGiven, by rw [call, pending.clientHandle],
          by rw [call, pending.indId]⟩
      · left
        exact served'.answered.known request knows
      · right
        exact gaveUp
    rcases given with given | gaveUp
    · left
      rcases List.exists_mem_of_ne_nil _ given with ⟨ind, member⟩
      exact ⟨ind, served'.owned.givenFor member⟩
    · right
      exact gaveUp
  · intro request returned
    have knows : (sync.pc request).knows = true := by
      cases pc : sync.pc request <;> simp_all [Pc.returned, Pc.knows]
    rcases List.exists_mem_of_ne_nil _ (served.answered.known request knows) with ⟨ind, member⟩
    exact ⟨ind, served.owned.givenFor member⟩

end Steps

section Runs

instance (sync : LocSync Bool ℕ ℕ) (clientHandle indId : ℕ) (request : Bool) :
    Decidable (sync.Pending clientHandle indId request) :=
  decidable_of_iff ((sync.pc request).isPending = true ∧ sync.given request = [] ∧
      (sync.call request).clientHandle = clientHandle ∧ (sync.call request).indId = indId)
    ⟨fun ⟨isPending, notGiven, hasClient, hasInd⟩ => ⟨isPending, notGiven, hasClient, hasInd⟩,
      fun pending => ⟨pending.isPending, pending.notGiven, pending.clientHandle, pending.indId⟩⟩

instance (sync : LocSync Bool ℕ ℕ) (event : Event Bool ℕ ℕ) :
    Decidable (Answerable sync event) :=
  match event with
  | .alloc _ => inferInstanceAs (Decidable (∃ selectId, sync.slotInUse selectId = false))
  | .wake request => inferInstanceAs (Decidable ((sync.pc request).isSignaled = true))
  | .free request => inferInstanceAs (Decidable (sync.frees request = 0 ∨ ∀ selectId,
      (sync.pc request).slot = some selectId → sync.slotInUse selectId = false))
  | .processInd ind => inferInstanceAs (Decidable (∀ selectId, sync.Matches ind selectId →
      sync.Copies ind selectId →
        (∀ request, sync.Pending ind.clientHandle ind.indId request →
          (sync.pc request).selected ≠ some selectId) →
          ∀ request, sync.Pending ind.clientHandle ind.indId request →
            ∃ other before, sync.Pending ind.clientHandle ind.indId other ∧
              (sync.pc other).selected = some before ∧ before < selectId))
  | .select _ | .send _ _ | .wait _ | .timeOut _ => isTrue trivial

def bothAnswered : Option (LocSync Bool ℕ ℕ) :=
  Run.runGuarded Answerable (fun sync event => sync.step event) (init sameCalls)
    (upToWait true ++ upToWait false ++ [.processInd ⟨1, 2, some 7⟩, .wake true, .free true,
      .processInd ⟨1, 2, some 8⟩, .wake false, .free false])

theorem bothAnswered_isSome : bothAnswered.isSome = true := by decide +kernel

theorem reachable_answersOk_both :
    ∃ sync : LocSync Bool ℕ ℕ, sync.pc true = .done .success ∧ sync.pc false = .done .success ∧
      sync.AnswersOk := by
  refine ⟨bothAnswered.get bothAnswered_isSome, by decide +kernel, by decide +kernel, ?_⟩
  exact reachable_answersOk (Run.Reachable.runGuarded _ (.start ⟨sameCalls, rfl⟩)
    (Option.some_get bothAnswered_isSome).symm)

def wokenForNothing : Option (LocSync Bool ℕ ℕ) :=
  Run.runAll (fun sync event => sync.step event) (init sameCalls)
    (upToWait true ++ [.wake true, .free true])

theorem wokenForNothing_isSome : wokenForNothing.isSome = true := by decide +kernel

def oneSignaled : Option (LocSync Bool ℕ ℕ) :=
  Run.runAll (fun sync event => sync.step event) (init sameCalls)
    (upToWait true ++ upToWait false ++ [.processInd ⟨1, 2, some 7⟩])

theorem oneSignaled_isSome : oneSignaled.isSome = true := by decide +kernel

def nineCalls : Option (LocSync (Fin 9) ℕ ℕ) :=
  Run.runAll (fun sync event => sync.step event) (init fun _ => ⟨1, 2, 2, true⟩)
    ((List.finRange 9).map .alloc)

theorem nineCalls_isSome : nineCalls.isSome = true := by decide +kernel

/-- A request that is woken for nothing succeeds, as does one that finds no slot, and an indication
that comes at the wrong time is given to no request that waits. -/
theorem reachable_not_answersOk :
    (∃ sync : LocSync Bool ℕ ℕ, Run.Reachable IsInit Step sync ∧
        sync.pc true = .done .success ∧ sync.given true = []) ∧
      (∃ sync : LocSync (Fin 9) ℕ ℕ, Run.Reachable IsInit Step sync ∧
        (sync.pc 8).returned = some .success ∧ sync.given 8 = []) ∧
      (∃ sync : LocSync Bool ℕ ℕ, Run.Reachable IsInit Step sync ∧ sync.Pending 1 2 false ∧
        ∀ request, sync.Pending 1 2 request →
          (sync.locSyncProcessInd ⟨1, 2, some 8⟩).given request = []) ∧
      ∃ sync : LocSync Bool ℕ ℕ, Run.Reachable IsInit Step sync ∧ sync.Pending 1 2 false ∧
        ∀ request, sync.Pending 1 2 request →
          (sync.locSyncProcessInd ⟨1, 2, some 8⟩).given request = [] := by
  refine ⟨⟨wokenForNothing.get wokenForNothing_isSome, ?_, by decide +kernel, by decide +kernel⟩,
    ⟨nineCalls.get nineCalls_isSome, ?_, by decide +kernel, by decide +kernel⟩,
    ⟨oneSignaled.get oneSignaled_isSome, ?_, by decide +kernel, by decide +kernel⟩,
    freedTwice.get freedTwice_isSome, ?_, by decide +kernel, by decide +kernel⟩
  · exact Run.Reachable.runAll _ (.start ⟨_, rfl⟩) (Option.some_get wokenForNothing_isSome).symm
  · exact Run.Reachable.runAll _ (.start ⟨_, rfl⟩) (Option.some_get nineCalls_isSome).symm
  · exact Run.Reachable.runAll _ (.start ⟨_, rfl⟩) (Option.some_get oneSignaled_isSome).symm
  · exact Run.Reachable.runAll _ (.start ⟨_, rfl⟩) (Option.some_get freedTwice_isSome).symm

end Runs

end HtcPme.Gps.LocSync
