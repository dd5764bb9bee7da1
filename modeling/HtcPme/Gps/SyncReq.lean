import HtcPme.Foundation.Run
import Mathlib.Logic.Function.Basic
import Mathlib.Data.List.FinRange

/-!
# Synchronous requests

`loc_sync_send_req` and the array of slots through which `loc_sync_process_ind` gives it the
indication that it waits for.
-/

namespace HtcPme.Gps

open Function (update)

inductive LocClientStatus where
  | success | failureGeneral | failureUnsupported | failureInvalidParameter | failureEngineBusy
  | failurePhoneOffline | failureTimeout | failureServiceNotPresent
  | failureServiceVersionUnsupported | failureClientVersionUnsupported | failureInvalidHandle
  | failureInternal | failureNotInitialized | failureNotEnoughMemory
deriving DecidableEq

def LocClientStatus.isRetried : LocClientStatus → Bool
  | failureEngineBusy | failurePhoneOffline | failureInternal => true
  | _ => false

namespace LocSync

abbrev bufferSize : ℕ := 8

abbrev SelectId := Fin bufferSize

/-- The arguments of a call, with whether `ind_payload_ptr` is given. -/
structure Call (χ : Type*) where
  clientHandle : χ
  reqId : ℕ
  indId : ℕ
  wantsPayload : Bool

structure Indication (χ π : Type*) where
  clientHandle : χ
  indId : ℕ
  payload : Option π
deriving DecidableEq

/-- `loc_sync_req_data_s_type`. No client is `LOC_CLIENT_INVALID_HANDLE_VALUE`, and a pointer is to
the buffer of the request that gave it. -/
structure Slot (κ χ : Type*) where
  clientHandle : Option χ
  indIsSelected : Bool
  indIsWaiting : Bool
  indHasArrived : Bool
  reqId : ℕ
  recvIndPayloadPtr : Option κ
  recvIndId : ℕ

/-- What `loc_sync_wait_for_ind` returns once it has the lock of the slot: `0`, `-ETIMEDOUT` or
`-EBUSY`. -/
inductive WaitResult where
  | arrived | timedOut | busy
deriving DecidableEq

/-- The point of `loc_sync_send_req` that a request is at, with `sendReqRetryRem` while it is in the
loop. -/
inductive Pc where
  | idle
  | allocated (selectId : SelectId)
  | sending (selectId : SelectId) (retryRem : ℕ)
  | sent (selectId : SelectId) (retryRem : ℕ)
  | waiting (selectId : SelectId) (retryRem : ℕ) (signaled : Bool)
  | woken (selectId : SelectId) (retryRem : ℕ) (result : WaitResult)
  | failed (selectId : SelectId) (status : LocClientStatus)
  | done (status : LocClientStatus)
  | bufferFull
deriving DecidableEq

namespace Pc

def selected : Pc → Option SelectId
  | sending selectId _ | sent selectId _ | waiting selectId _ _ | woken selectId _ _
  | failed selectId _ => some selectId
  | _ => none

def slot : Pc → Option SelectId
  | allocated selectId => some selectId
  | pc => pc.selected

def isWaiting : Pc → Bool
  | waiting _ _ _ => true
  | _ => false

def returned : Pc → Option LocClientStatus
  | done status => some status
  | bufferFull => some .success
  | _ => none

def isPending : Pc → Bool
  | sending _ _ | sent _ _ | waiting _ _ _ => true
  | _ => false

def signal (selectId : SelectId) : Pc → Pc
  | waiting at_ retryRem signaled => waiting at_ retryRem (signaled || at_ = selectId)
  | pc => pc

def endTurn (selectId : SelectId) (retryRem : ℕ) (status : LocClientStatus) : Pc :=
  if status.isRetried && 0 < retryRem then sending selectId (retryRem - 1)
  else if status = .success then done .success
  else failed selectId status

end Pc

end LocSync

/-- `loc_sync_array` and the requests. `frees`, `given` and `copied` are not in the source: how
often a request has freed a slot, and what it has been given and copied. -/
structure LocSync (κ χ π : Type*) where
  call : κ → LocSync.Call χ
  inUse : Bool
  slotInUse : LocSync.SelectId → Bool
  slots : LocSync.SelectId → LocSync.Slot κ χ
  pc : κ → LocSync.Pc
  frees : κ → ℕ
  given : κ → List (LocSync.Indication χ π)
  copied : κ → List (LocSync.Indication χ π)

namespace LocSync

variable {κ χ π : Type*}

/-- A slot that `loc_sync_req_init` or `loc_free_slot` has reset. -/
def Slot.cleared : Slot κ χ := ⟨none, false, false, false, 0, none, 0⟩

def init (call : κ → Call χ) : LocSync κ χ π :=
  ⟨call, false, fun _ => false, fun _ => .cleared, fun _ => .idle, fun _ => 0, fun _ => [],
    fun _ => []⟩

def IsInit (sync : LocSync κ χ π) : Prop := ∃ call, sync = init call

/-- A request has a slot from `loc_alloc_slot` until it first frees one. -/
def Holds (sync : LocSync κ χ π) (request : κ) (selectId : SelectId) : Prop :=
  (sync.pc request).slot = some selectId ∧ sync.frees request = 0

structure Pending (sync : LocSync κ χ π) (clientHandle : χ) (indId : ℕ) (request : κ) : Prop where
  isPending : (sync.pc request).isPending = true
  notGiven : sync.given request = []
  clientHandle : (sync.call request).clientHandle = clientHandle
  indId : (sync.call request).indId = indId

def Matches (sync : LocSync κ χ π) (ind : Indication χ π) (selectId : SelectId) : Prop :=
  sync.slotInUse selectId = true ∧ (sync.slots selectId).clientHandle = some ind.clientHandle ∧
    ind.indId = (sync.slots selectId).recvIndId ∧ (sync.slots selectId).indHasArrived = false

def Copies (sync : LocSync κ χ π) (ind : Indication χ π) (selectId : SelectId) : Prop :=
  (sync.slots selectId).recvIndPayloadPtr.isSome = true ∧ ind.payload.isSome = true

instance [DecidableEq χ] (sync : LocSync κ χ π) (ind : Indication χ π) (selectId : SelectId) :
    Decidable (sync.Matches ind selectId) :=
  inferInstanceAs (Decidable (_ ∧ _ ∧ _ ∧ _))

instance (sync : LocSync κ χ π) (ind : Indication χ π) (selectId : SelectId) :
    Decidable (sync.Copies ind selectId) :=
  inferInstanceAs (Decidable (_ ∧ _))

variable [DecidableEq κ] (sync : LocSync κ χ π)

def freeSlot : Option SelectId :=
  (List.finRange bufferSize).find? fun selectId => !sync.slotInUse selectId

def locAllocSlot (request : κ) : LocSync κ χ π :=
  match sync.freeSlot with
  | some selectId =>
      { sync with
        slotInUse := update sync.slotInUse selectId true
        inUse := true
        pc := update sync.pc request (.allocated selectId) }
  | none => { sync with pc := update sync.pc request .bufferFull }

def locSyncSelectInd (request : κ) (selectId : SelectId) : LocSync κ χ π :=
  let call := sync.call request
  { sync with
    slots := update sync.slots selectId
      { clientHandle := some call.clientHandle
        indIsSelected := true
        indIsWaiting := false
        indHasArrived := false
        reqId := call.reqId
        recvIndPayloadPtr := if call.wantsPayload then some request else none
        recvIndId := call.indId }
    pc := update sync.pc request (.sending selectId 5) }

/-- What `loc_sync_send_req` does with the status of `locClientSendReq`. -/
def locClientSendReq (request : κ) (selectId : SelectId) (retryRem : ℕ)
    (status : LocClientStatus) : LocSync κ χ π :=
  { sync with
    pc := update sync.pc request
      (if status = .success then .sent selectId retryRem else .endTurn selectId retryRem status) }

def locSyncWaitForInd (request : κ) (selectId : SelectId) (retryRem : ℕ) : LocSync κ χ π :=
  let slot := sync.slots selectId
  if sync.slotInUse selectId = false then
    { sync with
      pc := update sync.pc request (.endTurn selectId retryRem .failureInternal) }
  else if slot.indHasArrived then
    { sync with pc := update sync.pc request (.woken selectId retryRem .arrived) }
  else if slot.indIsWaiting then
    { sync with pc := update sync.pc request (.woken selectId retryRem .busy) }
  else
    { sync with
      slots := update sync.slots selectId { slot with indIsWaiting := true }
      pc := update sync.pc request (.waiting selectId retryRem false) }

def leaveWait (request : κ) (selectId : SelectId) (retryRem : ℕ) (result : WaitResult) :
    LocSync κ χ π :=
  { sync with
    slots := update sync.slots selectId
      { sync.slots selectId with indIsWaiting := false }
    pc := update sync.pc request (.woken selectId retryRem result) }

def locFreeSlot (request : κ) (selectId : SelectId) (pc : Pc) : LocSync κ χ π :=
  let slotInUse := update sync.slotInUse selectId false
  { sync with
    slotInUse
    slots := update sync.slots selectId .cleared
    inUse := if (List.finRange bufferSize).any slotInUse then sync.inUse else false
    pc := update sync.pc request pc
    frees := update sync.frees request (sync.frees request + 1) }

/-- The point after `loc_sync_wait_for_ind` has returned. -/
def afterWait (selectId : SelectId) (retryRem : ℕ) : WaitResult → Pc
  | .arrived => .endTurn selectId retryRem .success
  | .timedOut => .endTurn selectId retryRem .failureTimeout
  | .busy => .endTurn selectId retryRem .failureInternal

/-- The `memcpy` of `loc_sync_process_ind` to the buffer of a slot, if there are a buffer and a
payload. -/
def copyPayload (ind : Indication χ π) (selectId : SelectId) : κ → List (Indication χ π) :=
  match (sync.slots selectId).recvIndPayloadPtr with
  | some request =>
      if ind.payload.isSome then update sync.copied request (sync.copied request ++ [ind])
      else sync.copied
  | none => sync.copied

def give (ind : Indication χ π) (selectId : SelectId) : LocSync κ χ π :=
  let slot := sync.slots selectId
  { sync with
    slots := update sync.slots selectId
      (if slot.indIsWaiting then { slot with recvIndId := ind.indId }
      else { slot with indHasArrived := true })
    pc := fun request =>
      if slot.indIsWaiting then (sync.pc request).signal selectId else sync.pc request
    given := fun request =>
      if (sync.pc request).selected = some selectId ∧ sync.frees request = 0 then
        sync.given request ++ [ind]
      else sync.given request
    copied := sync.copyPayload ind selectId }

variable [DecidableEq χ]

/-- The loop of `loc_sync_process_ind` over the slots that are left, with its `in_use`. -/
def processSlots (ind : Indication χ π) : List SelectId → Bool → LocSync κ χ π → LocSync κ χ π
  | [], inUse, sync => if inUse then sync else { sync with inUse := false }
  | selectId :: rest, inUse, sync =>
      let inUse := inUse || sync.slotInUse selectId
      if sync.Matches ind selectId then
        if sync.Copies ind selectId then sync.give ind selectId
        else processSlots ind rest inUse (sync.give ind selectId)
      else processSlots ind rest inUse sync

def locSyncProcessInd (ind : Indication χ π) : LocSync κ χ π :=
  if sync.inUse then processSlots ind (List.finRange bufferSize) false sync else sync

/-- The steps of a request, and an indication that arrives. `wake` is a return of
`pthread_cond_timedwait` with anything but `ETIMEDOUT`. -/
inductive Event (κ χ π : Type*) where
  | alloc (request : κ)
  | select (request : κ)
  | send (request : κ) (status : LocClientStatus)
  | wait (request : κ)
  | wake (request : κ)
  | timeOut (request : κ)
  | free (request : κ)
  | processInd (ind : Indication χ π)

def step : Event κ χ π → Option (LocSync κ χ π)
  | .alloc request =>
      match sync.pc request with
      | .idle => some (sync.locAllocSlot request)
      | _ => none
  | .select request =>
      match sync.pc request with
      | .allocated selectId => some (sync.locSyncSelectInd request selectId)
      | _ => none
  | .send request status =>
      match sync.pc request with
      | .sending selectId retryRem => some (sync.locClientSendReq request selectId retryRem status)
      | _ => none
  | .wait request =>
      match sync.pc request with
      | .sent selectId retryRem => some (sync.locSyncWaitForInd request selectId retryRem)
      | _ => none
  | .wake request =>
      match sync.pc request with
      | .waiting selectId retryRem _ => some (sync.leaveWait request selectId retryRem .arrived)
      | _ => none
  | .timeOut request =>
      match sync.pc request with
      | .waiting selectId retryRem _ => some (sync.leaveWait request selectId retryRem .timedOut)
      | _ => none
  | .free request =>
      match sync.pc request with
      | .woken selectId retryRem result =>
          some (sync.locFreeSlot request selectId (afterWait selectId retryRem result))
      | .failed selectId status => some (sync.locFreeSlot request selectId (.done status))
      | _ => none
  | .processInd ind => some (sync.locSyncProcessInd ind)

end LocSync

end HtcPme.Gps
