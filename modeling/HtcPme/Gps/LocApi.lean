import HtcPme.Foundation.BitMask
import HtcPme.Foundation.Run
import Mathlib.Logic.Function.Basic

/-!
# LocApiBase and LocApiV02

The adapters of a location API and the events that it registers with the modem for them, when a
`LocOpenMsg` is processed.
-/

namespace HtcPme.Gps

abbrev EventMask := BitVec 32

def maxAdapters : ℕ := 10

/-- A `LocApiV02` with the masks of its adapters, what the modem has registered for the client, and
the masks of the `LocOpenMsg`s that are posted. -/
structure LocApi (α : Type*) where
  mLocAdapters : List α
  mEvtMask : α → EventMask
  mExcludedMask : EventMask
  mMask : EventMask
  mQmiMask : BitVec 64
  mInSession : Bool
  clientOpen : Bool
  registered : BitVec 64
  posted : List EventMask

namespace LocApi

def convertBits : List (ℕ × BitVec 64) :=
  [(0, 0x1), (1, 0x2), (3, 0x4), (2, 0x4), (4, 0x8), (5, 0x20), (5, 0x10), (5, 0x40), (8, 0x80),
    (6, 0x2000), (9, 0x200), (10, 0x400), (11, 0x800), (12, 0x1000), (13, 0x4000), (14, 0x8000),
    (15, 0x10000), (21, 0x400000), (16, 0x20000), (28, 0x20000000), (17, 0x40000), (18, 0x200000),
    (19, 0x80000), (20, 0x100000), (22, 0x1000000), (23, 0x2000000), (24, 0x8000000),
    (25, 0x10000000), (26, 0x1000000), (27, 0x40000000)]

def convertMask (mask : EventMask) : BitVec 64 :=
  convertBits.foldl
    (fun eventMask (bit, event) => if mask.getLsbD bit then eventMask ||| event else eventMask) 0

def adjustMaskForNoSession (qmiMask : BitVec 64) : BitVec 64 := qmiMask &&& ~~~0x1000087

/-- The loop of `addAdapter` over the slots of the array: the new list, if a slot is taken. -/
def insertAdapter {α : Type*} [DecidableEq α] (adapter : α) : ℕ → List α → Option (List α)
  | 0, _ => none
  | _ + 1, [] => some [adapter]
  | room + 1, head :: rest =>
      if head = adapter then none else (insertAdapter adapter room rest).map (head :: ·)

variable {α : Type*} (api : LocApi α)

def new (mEvtMask : α → EventMask) (mExcludedMask : EventMask) : LocApi α :=
  ⟨[], mEvtMask, mExcludedMask, 0, 0, false, false, 0, []⟩

def getEvtMask : EventMask :=
  BitMask.union (api.mLocAdapters.map api.mEvtMask) &&& ~~~api.mExcludedMask

def IsInit (api : LocApi α) : Prop :=
  ∃ mEvtMask mExcludedMask, api = new mEvtMask mExcludedMask

/-- When every message is processed, the events of the adapters are registered, and the client is
open if there are any. -/
structure Registered (api : LocApi α) : Prop where
  mMask : api.mMask = api.getEvtMask
  clientOpen : api.clientOpen = true ↔ api.mLocAdapters ≠ []
  registered : api.clientOpen = true →
    api.registered = adjustMaskForNoSession (convertMask api.getEvtMask)

def registerEventMask (qmiMask : BitVec 64) : LocApi α :=
  { api with registered := if api.mInSession then qmiMask else adjustMaskForNoSession qmiMask }

def openClient (mask : EventMask) : LocApi α :=
  let newMask := api.mMask ||| (mask &&& ~~~api.mExcludedMask)
  let qmiMask := convertMask newMask
  if api.clientOpen = false then
    { api with
      clientOpen := true
      registered := adjustMaskForNoSession qmiMask
      mMask := newMask
      mQmiMask := qmiMask }
  else if newMask ≠ api.mMask then
    { api.registerEventMask qmiMask with mMask := newMask, mQmiMask := qmiMask }
  else api

def close : LocApi α := { api with mMask := 0, clientOpen := false, registered := 0 }

/-- `mMsgTask->sendMsg` of a `LocOpenMsg`. -/
def post (mask : EventMask) : LocApi α := { api with posted := api.posted ++ [mask] }

def updateEvtMask : LocApi α := api.post api.getEvtMask

variable [DecidableEq α]

def addAdapter (adapter : α) : LocApi α :=
  match insertAdapter adapter maxAdapters api.mLocAdapters with
  | some mLocAdapters => { api with mLocAdapters }.post (api.mEvtMask adapter)
  | none => api

/-- `removeAdapter`: the last adapter takes the place of the one that is removed. -/
def removeAdapter (adapter : α) : LocApi α :=
  match api.mLocAdapters.getLast? with
  | none => api
  | some last =>
      if adapter ∈ api.mLocAdapters then
        let mLocAdapters :=
          (api.mLocAdapters.set (api.mLocAdapters.idxOf adapter) last).dropLast
        let api := { api with mLocAdapters }
        if mLocAdapters = [] then api.close else api.post api.getEvtMask
      else api

/-- The mask that `LocAdapterBase::updateEvtMask` gives an adapter. -/
def changeMask (adapter : α) (event : EventMask) (isEnabled : Bool) : LocApi α :=
  { api with
    mEvtMask := Function.update api.mEvtMask adapter
      (if isEnabled then api.mEvtMask adapter ||| event else api.mEvtMask adapter &&& ~~~event) }

/-- What happens to the adapters: the constructor and the destructor of `LocAdapterBase`, its
`updateEvtMask` and that of `LocApiBase`, and a `LocOpenMsg` that is processed. -/
inductive Call (α : Type*) where
  | addAdapter (adapter : α) (mask : EventMask)
  | removeAdapter (adapter : α)
  | changeMask (adapter : α) (event : EventMask) (isEnabled : Bool)
  | updateEvtMask
  | openMsg
deriving DecidableEq

def call : Call α → Option (LocApi α)
  | .addAdapter adapter mask =>
      if adapter ∈ api.mLocAdapters then some api
      else some ({ api with mEvtMask := Function.update api.mEvtMask adapter mask }.addAdapter
        adapter)
  | .removeAdapter adapter => some (api.removeAdapter adapter)
  | .changeMask adapter event isEnabled =>
      some (api.changeMask adapter event isEnabled).updateEvtMask
  | .updateEvtMask => some api.updateEvtMask
  | .openMsg =>
      match api.posted with
      | [] => none
      | mask :: posted => some ({ api with posted }.openClient mask)

def Step (api : LocApi α) (call : Call α) (next : LocApi α) : Prop := api.call call = some next

/-- No event is lost that is registered, unless no adapter is left, and a message is only processed
while there are adapters for its events. -/
def MaskGuard (api : LocApi α) : Call α → Prop
  | .addAdapter _ _ => True
  | .removeAdapter adapter =>
      api.mLocAdapters.filter (· ≠ adapter) = [] ∨
        BitMask.Sub api.mMask
          { api with mLocAdapters := api.mLocAdapters.filter (· ≠ adapter) }.getEvtMask
  | .changeMask adapter event isEnabled =>
      BitMask.Sub api.mMask (api.changeMask adapter event isEnabled).getEvtMask
  | .updateEvtMask => True
  | .openMsg => ∀ mask, api.posted.head? = some mask → api.mLocAdapters ≠ [] ∧
      BitMask.Sub (mask &&& ~~~api.mExcludedMask) api.getEvtMask

end LocApi

end HtcPme.Gps
