import HtcPme.Foundation.Run
import Mathlib.Data.BitVec
import Mathlib.Logic.Function.Basic

/-!
# Synchronous IOCTL calls

`loc_api_sync_ioctl` and the array of slots through which `loc_api_callback_process_sync_call` gives
it the callback that it waits for. What is done under the lock of a slot is one step.
-/

namespace HtcPme.Gps

namespace LocSyncCall

abbrev slotsMax : ℕ := 8

abbrev SelectId := Fin slotsMax

def ioctlReport : BitVec 64 := 0x80

def success : ℤ := 0

def timeout : ℤ := 8

structure IoctlCallback (π : Type*) where
  type : ℕ
  status : ℤ
  data : π
deriving DecidableEq

/-- A callback; the payload is what its union has as `ioctl_report`, or none for a null pointer. -/
structure Callback (χ π : Type*) where
  locHandle : χ
  locEvent : BitVec 64
  payload : Option (IoctlCallback π)

structure Call (χ : Type*) where
  handle : χ
  ioctlType : ℕ

structure Slot (χ π : Type*) where
  locHandle : Option χ
  inUse : Bool
  signalSent : Bool
  notAvailable : Bool
  waitEventMask : BitVec 64
  ioctlType : ℕ
  receivedPayload : Option (IoctlCallback π)
  receivedEventMask : BitVec 64

/-- How a call ends: without a slot, with the error of `loc_ioctl`, or after its wait. -/
inductive Outcome (π : Type*) where
  | noSlot
  | failed (rc : ℤ)
  | timedOut
  | answered (payload : Option (IoctlCallback π))
deriving DecidableEq

def Outcome.rc {π : Type*} : Outcome π → ℤ
  | noSlot => -1
  | failed rc => rc
  | timedOut => timeout
  | answered (some payload) => if payload.status ≠ success then payload.status else success
  | answered none => success

/-- The point of `loc_api_sync_ioctl` that a call is at, by the function that comes next; `woken` is
out of `pthread_cond_timedwait` but without the lock. -/
inductive Pc (π : Type*) where
  | scanning (index : ℕ)
  | calling (selectId : SelectId)
  | returned (selectId : SelectId) (rc : ℤ)
  | waiting (selectId : SelectId)
  | woken (selectId : SelectId) (timedOut : Bool)
  | done (outcome : Outcome π)
deriving DecidableEq

namespace Pc

variable {π : Type*}

def slot : Pc π → Option SelectId
  | calling selectId | returned selectId _ | waiting selectId | woken selectId _ => some selectId
  | _ => none

def nextLock : Pc π → Option ℕ
  | scanning index => some index
  | returned selectId _ | woken selectId _ => some selectId
  | _ => none

def signal (selectId : SelectId) : Pc π → Pc π
  | waiting waitsAt => if waitsAt = selectId then woken waitsAt false else waiting waitsAt
  | pc => pc

end Pc

end LocSyncCall

/-- `loc_sync_data`, the calls and the deliveries. `given` is not in the source: the deliveries that
gave their callback to a slot while a call had it. -/
structure LocSyncCall (κ δ χ π : Type*) where
  call : κ → LocSyncCall.Call χ
  callback : δ → LocSyncCall.Callback χ π
  slots : LocSyncCall.SelectId → LocSyncCall.Slot χ π
  pc : κ → LocSyncCall.Pc π
  looksAt : δ → ℕ
  given : κ → List δ

namespace LocSyncCall

variable {κ δ χ π : Type*}

def Slot.init : Slot χ π := ⟨none, false, false, false, 0, 0, none, 0⟩

/-- `loc_api_sync_call_init`, before any call and any delivery. -/
def init (call : κ → Call χ) (callback : δ → Callback χ π) : LocSyncCall κ δ χ π :=
  ⟨call, callback, fun _ => .init, fun _ => .scanning 0, fun _ => 0, fun _ => []⟩

def IsInit (sync : LocSyncCall κ δ χ π) : Prop := ∃ call callback, sync = init call callback

def locMatchCallback (waitMask : BitVec 64) (waitIoctl : ℕ) (callback : Callback χ π) : Bool :=
  callback.locEvent &&& waitMask ≠ 0 ∧
    (callback.locEvent ≠ ioctlReport ∨ waitIoctl = 0 ∨
      ∃ payload ∈ callback.payload, payload.type = waitIoctl)

def Slot.Awaits (slot : Slot χ π) (callback : Callback χ π) : Prop :=
  slot.inUse = true ∧ slot.signalSent = false ∧ slot.locHandle = some callback.locHandle ∧
    callback.locEvent &&& slot.waitEventMask ≠ 0

/-- The test of `loc_api_callback_process_sync_call`. -/
def Slot.Matches (slot : Slot χ π) (callback : Callback χ π) : Prop :=
  slot.inUse = true ∧ slot.signalSent = false ∧ slot.locHandle = some callback.locHandle ∧
    locMatchCallback slot.waitEventMask slot.ioctlType callback = true

instance [DecidableEq χ] (slot : Slot χ π) (callback : Callback χ π) :
    Decidable (slot.Matches callback) :=
  inferInstanceAs (Decidable (_ ∧ _ ∧ _ ∧ _))

def Callback.Answers (callback : Callback χ π) (call : Call χ) (payload : IoctlCallback π) : Prop :=
  callback.locHandle = call.handle ∧ callback.payload = some payload ∧
    payload.type = call.ioctlType

/-- A call has a slot from `loc_lock_a_slot` until it sets `in_use` to false. -/
def Holds (sync : LocSyncCall κ δ χ π) (call : κ) (selectId : SelectId) : Prop :=
  (sync.pc call).slot = some selectId

/-- Slots and callbacks are of one call each, what a call returns is the callback that it was given,
and a call that was given one does not time out. -/
structure SyncCallOk (sync : LocSyncCall κ δ χ π) : Prop where
  exclusive : ∀ call other selectId, sync.Holds call selectId → sync.Holds other selectId →
    call = other
  once : ∀ delivery call other, delivery ∈ sync.given call → delivery ∈ sync.given other →
    call = other
  answered : ∀ call payload, sync.pc call = .done (.answered payload) →
    ∃ delivery ∈ sync.given call, ∃ report, payload = some report ∧
      (sync.callback delivery).Answers (sync.call call) report
  timedOut : ∀ call, sync.pc call = .done .timedOut → sync.given call = []

/-- What `loc_set_slot_in_use` and `loc_api_save_callback` write. -/
def Slot.take (slot : Slot χ π) (call : Call χ) : Slot χ π :=
  { slot with
    inUse := true
    signalSent := false
    locHandle := some call.handle
    waitEventMask := if call.ioctlType ≠ 0 then 0 ||| ioctlReport else 0
    ioctlType := call.ioctlType }

def Slot.receive (slot : Slot χ π) (callback : Callback χ π) : Slot χ π :=
  { slot with
    receivedPayload := callback.payload
    receivedEventMask := callback.locEvent
    signalSent := true }

section Sections

variable [DecidableEq κ] (sync : LocSyncCall κ δ χ π)

def goOn (call : κ) (pc : Pc π) : LocSyncCall κ δ χ π :=
  { sync with pc := Function.update sync.pc call pc }

/-- One turn of the loop of `loc_lock_a_slot`, with what `loc_api_sync_ioctl` does until it unlocks
the slot. -/
def locLockASlot (call : κ) (index : ℕ) : LocSyncCall κ δ χ π :=
  if within : index < slotsMax then
    let slot := sync.slots ⟨index, within⟩
    if !slot.inUse && !slot.notAvailable then
      { sync.goOn call (.calling ⟨index, within⟩) with
        slots := Function.update sync.slots ⟨index, within⟩ (slot.take (sync.call call)) }
    else sync.goOn call (.scanning (index + 1))
  else sync.goOn call (.done .noSlot)

/-- `loc_set_slot_in_use` and `loc_unlock_slot` at the end of a call. -/
def finish (call : κ) (selectId : SelectId) (outcome : Outcome π) : LocSyncCall κ δ χ π :=
  { sync.goOn call (.done outcome) with
    slots := Function.update sync.slots selectId { sync.slots selectId with inUse := false } }

/-- The test of the loop of `loc_api_wait_callback`, when `pthread_cond_timedwait` has not timed
out, and what follows the loop. -/
def locApiWaitCallback (call : κ) (selectId : SelectId) : LocSyncCall κ δ χ π :=
  if (sync.slots selectId).signalSent then
    sync.finish call selectId (.answered (sync.slots selectId).receivedPayload)
  else sync.goOn call (.waiting selectId)

/-- From `loc_lock_slot` to the wait or the end of the call. -/
def locLockSlot (call : κ) (selectId : SelectId) (rc : ℤ) : LocSyncCall κ δ χ π :=
  if rc ≠ success then sync.finish call selectId (.failed rc)
  else sync.locApiWaitCallback call selectId

/-- `loc_api_callback_process_sync_call` at a slot that matches. -/
def give [DecidableEq δ] (delivery : δ) (selectId : SelectId) : LocSyncCall κ δ χ π :=
  { sync with
    slots := Function.update sync.slots selectId
      ((sync.slots selectId).receive (sync.callback delivery))
    pc := fun call => (sync.pc call).signal selectId
    looksAt := Function.update sync.looksAt delivery slotsMax
    given := fun call =>
      if (sync.pc call).slot = some selectId then sync.given call ++ [delivery]
      else sync.given call }

end Sections

/-- The steps of the calls and of the deliveries; `busy` is a trylock that fails, `wake` a return of
`pthread_cond_timedwait` in time. -/
inductive Event (κ δ : Type*) where
  | tryLock (call : κ)
  | busy (call : κ) (holder : κ ⊕ δ)
  | ioctl (call : κ) (rc : ℤ)
  | lock (call : κ)
  | wake (call : κ)
  | timeOut (call : κ)
  | relock (call : κ)
  | deliver (delivery : δ)

def nextLock (sync : LocSyncCall κ δ χ π) : κ ⊕ δ → Option ℕ
  | .inl call => (sync.pc call).nextLock
  | .inr delivery => some (sync.looksAt delivery)

/-- One step, if the party is at the point for it. A null pointer is not copied. -/
def step [DecidableEq κ] [DecidableEq δ] [DecidableEq χ] (sync : LocSyncCall κ δ χ π) : Event κ δ →
    Option (LocSyncCall κ δ χ π)
  | .tryLock call =>
      match sync.pc call with
      | .scanning index => some (sync.locLockASlot call index)
      | _ => none
  | .busy call holder =>
      match sync.pc call with
      | .scanning index =>
          if index < slotsMax ∧ holder ≠ .inl call ∧ sync.nextLock holder = some index then
            some (sync.goOn call (.scanning (index + 1)))
          else none
      | _ => none
  | .ioctl call rc =>
      match sync.pc call with
      | .calling selectId => some (sync.goOn call (.returned selectId rc))
      | _ => none
  | .lock call =>
      match sync.pc call with
      | .returned selectId rc => some (sync.locLockSlot call selectId rc)
      | _ => none
  | .wake call =>
      match sync.pc call with
      | .waiting selectId => some (sync.goOn call (.woken selectId false))
      | _ => none
  | .timeOut call =>
      match sync.pc call with
      | .waiting selectId => some (sync.goOn call (.woken selectId true))
      | _ => none
  | .relock call =>
      match sync.pc call with
      | .woken selectId true => some (sync.finish call selectId .timedOut)
      | .woken selectId false => some (sync.locApiWaitCallback call selectId)
      | _ => none
  | .deliver delivery =>
      if within : sync.looksAt delivery < slotsMax then
        let selectId : SelectId := ⟨sync.looksAt delivery, within⟩
        if (sync.slots selectId).Matches (sync.callback delivery) then
          if (sync.callback delivery).payload.isSome then some (sync.give delivery selectId)
          else none
        else some { sync with
          looksAt := Function.update sync.looksAt delivery (sync.looksAt delivery + 1) }
      else none

/-- No call that has timed out finds a callback when it has the lock again, and a callback with
other events than the IOCTL report only comes to a slot that waits for its type. -/
def CallGuard (sync : LocSyncCall κ δ χ π) : Event κ δ → Prop
  | .relock call => ∀ selectId, sync.pc call = .woken selectId true →
      (sync.slots selectId).signalSent = false
  | .deliver delivery => ∀ selectId : SelectId, sync.looksAt delivery = selectId →
      (sync.slots selectId).Awaits (sync.callback delivery) →
      (sync.callback delivery).locEvent = ioctlReport ∨
        ∃ payload ∈ (sync.callback delivery).payload, payload.type = (sync.slots selectId).ioctlType
  | _ => True

end LocSyncCall

end HtcPme.Gps
