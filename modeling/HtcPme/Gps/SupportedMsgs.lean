import HtcPme.Gps.SyncReq
import Mathlib.Data.BitVec
import Mathlib.Data.Nat.Bitwise

/-!
# Supported messages

`checkQmiMsgsSupported` tests a list of IDs on the array of bits of the modem, and `LocApiV02::open`
adds what batching can do.
-/

namespace HtcPme.Gps

open List

structure SupportedMsgsResp where
  supportedMsgsValid : Bool
  supportedMsgs : List UInt8
deriving DecidableEq

structure AonConfig where
  status : LocClientStatus
  indStatus : UInt32
  aonCapabilityValid : Bool
  aonCapability : BitVec 32
deriving DecidableEq

/-- `reqIdArray`, with at most as many IDs as a result has bits. -/
structure ReqIds where
  ids : List UInt32
  length_le : ids.length ≤ 64

namespace SupportedMsgsResp

variable (resp : SupportedMsgsResp)

def tests (reqId : UInt32) : Bool :=
  match resp.supportedMsgs[reqId.toNat >>> 3]? with
  | some byte => byte.toNat &&& (1 <<< (reqId.toNat &&& 7)) != 0
  | none => false

/-- The shift of the `int` one, which is only defined if the result is one. -/
def shiftOne (idx : ℕ) : Option (BitVec 64) :=
  if idx < 31 then some (BitVec.twoPow 64 idx) else none

/-- The loop of `checkQmiMsgsSupported` over the IDs from an index on, if its shifts are defined. -/
def loop : ℕ → List UInt32 → BitVec 64 → Option (BitVec 64)
  | _, [], result => some result
  | idx, reqId :: rest, result =>
      if resp.tests reqId then
        (shiftOne idx).bind fun bit => loop (idx + 1) rest (result ||| bit)
      else loop (idx + 1) rest result

def checkQmiMsgsSupported (reqIds : List UInt32) : Option (BitVec 64) :=
  if resp.supportedMsgsValid then
    resp.loop 0 (reqIds.take (min (min reqIds.length resp.supportedMsgs.length) 64)) 0
  else some 0

def Supports (reqId : UInt32) : Prop :=
  resp.supportedMsgsValid = true ∧ ∃ byte, resp.supportedMsgs[reqId.toNat / 8]? = some byte ∧
    byte.toNat.testBit (reqId.toNat % 8) = true

def Checks (reqIds : ReqIds) : Prop :=
  ∃ mask, resp.checkQmiMsgsSupported reqIds.ids = some mask ∧ ∀ idx, mask.getLsbD idx = true ↔
    ∃ reqId, reqIds.ids[idx]? = some reqId ∧ resp.Supports reqId

def CheckGuard (reqIds : ReqIds) : Prop :=
  ∀ idx reqId, reqIds.ids[idx]? = some reqId → resp.Supports reqId →
    idx < resp.supportedMsgs.length ∧ idx < 31

variable {resp}

theorem tests_iff (valid : resp.supportedMsgsValid = true) (reqId : UInt32) :
    resp.tests reqId = true ↔ resp.Supports reqId := by
  have low : reqId.toNat &&& 7 = reqId.toNat % 8 := Nat.and_two_pow_sub_one_eq_mod _ 3
  simp only [tests, Supports, valid, true_and, low, Nat.shiftRight_eq_div_pow, Nat.reducePow]
  cases resp.supportedMsgs[reqId.toNat / 8]? with
  | none => simp
  | some byte => simp [Nat.one_shiftLeft, Nat.and_two_pow]

variable {reqIds : List UInt32} {idx : ℕ} {bit : ℕ}

theorem loop_some {result mask : BitVec 64} (ran : resp.loop idx reqIds result = some mask) :
    (∀ k reqId, reqIds[k]? = some reqId → resp.tests reqId = true → idx + k < 31) ∧
      ∀ bit, mask.getLsbD bit = true ↔ result.getLsbD bit = true ∨
        ∃ k reqId, bit = idx + k ∧ reqIds[k]? = some reqId ∧ resp.tests reqId = true := by
  induction reqIds generalizing idx result with
  | nil =>
      cases ran
      simp
  | cons reqId rest ih =>
      have split : ∀ bit, (∃ k other, bit = idx + k ∧ (reqId :: rest)[k]? = some other ∧
          resp.tests other = true) ↔ (bit = idx ∧ resp.tests reqId = true) ∨
            ∃ k other, bit = idx + 1 + k ∧ rest[k]? = some other ∧ resp.tests other = true := by
        intro bit
        constructor
        · rintro ⟨_ | k, other, rfl, isOther, tested⟩
          · cases isOther
            exact .inl ⟨rfl, tested⟩
          · exact .inr ⟨k, other, by omega, isOther, tested⟩
        · rintro (⟨rfl, tested⟩ | ⟨k, other, rfl, isOther, tested⟩)
          · exact ⟨0, reqId, rfl, rfl, tested⟩
          · exact ⟨k + 1, other, by omega, isOther, tested⟩
      rw [loop] at ran
      by_cases tested : resp.tests reqId = true
      · rw [if_pos tested, shiftOne] at ran
        by_cases low : idx < 31
        · rw [if_pos low, Option.bind_some] at ran
          rcases ih ran with ⟨lower, bits⟩
          refine ⟨?_, fun bit => ?_⟩
          · rintro (_ | k) other isOther isTested
            · exact low
            · have bound := lower k other isOther isTested
              omega
          · rw [bits, split, BitVec.getLsbD_or, Bool.or_eq_true, or_assoc]
            simp only [BitVec.getLsbD_twoPow, tested, and_true, Bool.and_eq_true,
              decide_eq_true_eq]
            have isBit : idx < 64 ∧ idx = bit ↔ bit = idx := by omega
            rw [isBit]
        · rw [if_neg low] at ran
          cases ran
      · rw [if_neg tested] at ran
        rcases ih ran with ⟨lower, bits⟩
        refine ⟨?_, fun bit => ?_⟩
        · rintro (_ | k) other isOther isTested
          · cases isOther
            exact absurd isTested tested
          · have bound := lower k other isOther isTested
            omega
        · rw [bits, split]
          simp [tested]

theorem loop_isSome (result : BitVec 64)
    (low : ∀ k reqId, reqIds[k]? = some reqId → resp.tests reqId = true → idx + k < 31) :
    ∃ mask, resp.loop idx reqIds result = some mask := by
  induction reqIds generalizing idx result with
  | nil => exact ⟨result, rfl⟩
  | cons reqId rest ih =>
      have later : ∀ k reqId, rest[k]? = some reqId → resp.tests reqId = true →
          idx + 1 + k < 31 := by
        intro k other isOther tested
        have bound := low (k + 1) other isOther tested
        omega
      rw [loop]
      split
      · rename_i tested
        have bound : idx < 31 := low 0 reqId rfl tested
        rw [shiftOne, if_pos bound, Option.bind_some]
        exact ih _ later
      · exact ih _ later

theorem checks_iff (resp : SupportedMsgsResp) (reqIds : ReqIds) :
    resp.Checks reqIds ↔ resp.CheckGuard reqIds := by
  have short := reqIds.length_le
  cases valid : resp.supportedMsgsValid with
  | false => simp [Checks, CheckGuard, checkQmiMsgsSupported, Supports, valid]
  | true =>
      have tests := tests_iff valid
      have taken : ∀ idx reqId, (reqIds.ids.take (min (min reqIds.ids.length
          resp.supportedMsgs.length) 64))[idx]? = some reqId ↔
            idx < resp.supportedMsgs.length ∧ reqIds.ids[idx]? = some reqId := by
        intro idx reqId
        rw [List.getElem?_take, Option.ite_none_right_eq_some]
        constructor
        · exact fun both => ⟨by omega, both.2⟩
        · intro both
          have within := (List.getElem?_eq_some_iff.mp both.2).1
          exact ⟨by omega, both.2⟩
      simp only [Checks, CheckGuard, checkQmiMsgsSupported, valid, if_true]
      constructor
      · rintro ⟨mask, ran, bits⟩ idx reqId isHere supported
        rcases loop_some ran with ⟨low, isSet⟩
        rcases (isSet idx).mp ((bits idx).mpr ⟨reqId, isHere, supported⟩) with
          zero | ⟨k, other, rfl, isOther, tested⟩
        · simp at zero
        · have bound := low k other isOther tested
          exact ⟨by simpa using ((taken k other).mp isOther).1, bound⟩
      · intro guarded
        have low : ∀ k reqId, (reqIds.ids.take (min (min reqIds.ids.length
            resp.supportedMsgs.length) 64))[k]? = some reqId → resp.tests reqId = true →
              0 + k < 31 := by
          intro k reqId isHere tested
          rw [Nat.zero_add]
          exact (guarded k reqId ((taken k reqId).mp isHere).2 ((tests reqId).mp tested)).2
        rcases loop_isSome 0 low with ⟨mask, ran⟩
        refine ⟨mask, ran, fun idx => ?_⟩
        simp only [(loop_some ran).2, taken, tests, Nat.zero_add]
        constructor
        · rintro (zero | ⟨k, reqId, rfl, ⟨-, isHere⟩, supported⟩)
          · simp at zero
          · exact ⟨reqId, isHere, supported⟩
        · rintro ⟨reqId, isHere, supported⟩
          exact .inr ⟨idx, reqId, rfl, ⟨(guarded idx reqId isHere supported).1, isHere⟩, supported⟩

/-- `msgArray` of `LocApiV02::open`: the batch size, the batched geofence breach and the
distance-based tracking. -/
def msgArray : List UInt32 := [0x75, 0x80, 0x92]

/-- The bits of adaptive batching, of distance-based batching and of updates of the TBF, with those
of the capabilities. -/
def batchingBits : List (ℕ × BitVec 32) := [(3, 0x01), (4, 0x02), (5, 0x10)]

def addBatching (supportedMsgList : BitVec 64) (aon : AonConfig) : BitVec 64 :=
  if 1 &&& supportedMsgList = 1 ∧ aon.status = .success ∧ aon.indStatus = 0 ∧
      aon.aonCapabilityValid = true then
    batchingBits.foldl (fun supportedMsgList (bit, capability) =>
      if aon.aonCapability ||| capability ≠ 0 then supportedMsgList ||| BitVec.twoPow 64 bit
      else supportedMsgList) supportedMsgList
  else supportedMsgList

/-- The `supportedMsgList` of `LocApiV02::open`, from the answer that has been checked if it
succeeded. -/
def supportedMsgList (checked : Option SupportedMsgsResp) : BitVec 64 :=
  (checked.bind fun resp => resp.checkQmiMsgsSupported msgArray).getD 0

def Adds (checked : Option SupportedMsgsResp) (aon : AonConfig) : Prop :=
  ∀ bit capability, (bit, capability) ∈ batchingBits →
    (addBatching (supportedMsgList checked) aon).getLsbD bit = true →
      (supportedMsgList checked).getLsbD 0 = true ∧ aon.aonCapability &&& capability ≠ 0

def AddGuard (checked : Option SupportedMsgsResp) (aon : AonConfig) : Prop :=
  (supportedMsgList checked).getLsbD 0 = true → aon.status = .success → aon.indStatus = 0 →
    aon.aonCapabilityValid = true → ∀ bit capability, (bit, capability) ∈ batchingBits →
      aon.aonCapability &&& capability ≠ 0

theorem supportedMsgList_high (checked : Option SupportedMsgsResp) (high : 3 ≤ bit) :
    (supportedMsgList checked).getLsbD bit = false := by
  rcases checked with _ | resp
  · simp [supportedMsgList]
  · rw [supportedMsgList, Option.bind_some, checkQmiMsgsSupported]
    split
    · rcases ran : resp.loop 0 _ 0 with _ | mask
      · simp
      · rw [Option.getD_some, ← Bool.not_eq_true, (loop_some ran).2]
        rintro (zero | ⟨k, reqId, rfl, isHere, -⟩)
        · simp at zero
        · have within := (List.getElem?_eq_some_iff.mp isHere).1
          simp only [List.length_take, msgArray, List.length_cons, List.length_nil] at within
          omega
    · simp

theorem addBatching_bit {supportedMsgs : BitVec 64} {aon : AonConfig}
    {capability : BitVec 32} (batches : 1 &&& supportedMsgs = 1 ∧ aon.status = .success ∧
      aon.indStatus = 0 ∧ aon.aonCapabilityValid = true) (mem : (bit, capability) ∈ batchingBits) :
    (addBatching supportedMsgs aon).getLsbD bit = true := by
  have always : ∀ capability : BitVec 32, capability ≠ 0 →
      aon.aonCapability ||| capability ≠ 0 := by
    intro capability some isZero
    exact some (BitVec.or_eq_zero_iff.mp isZero).2
  rw [addBatching, if_pos batches]
  simp only [batchingBits, foldl_cons, foldl_nil, always 1 (by decide),
    always 2 (by decide), always 16 (by decide), ne_eq, not_false_eq_true, if_true]
  simp only [batchingBits, mem_cons, not_mem_nil, or_false, Prod.mk.injEq] at mem
  rcases mem with ⟨rfl, -⟩ | ⟨rfl, -⟩ | ⟨rfl, -⟩
  all_goals simp

theorem adds_iff (checked : Option SupportedMsgsResp) (aon : AonConfig) :
    Adds checked aon ↔ AddGuard checked aon := by
  have batching : 1 &&& supportedMsgList checked = 1 ↔
      (supportedMsgList checked).getLsbD 0 = true := by
    constructor
    · intro same
      have bit := congrArg (fun mask : BitVec 64 => mask.getLsbD 0) same
      simpa using bit
    · intro isSet
      apply BitVec.eq_of_getLsbD_eq
      intro i _
      by_cases first : i = 0
      · simp [first, isSet]
      · simp [first]
  by_cases batches : 1 &&& supportedMsgList checked = 1 ∧ aon.status = .success ∧
      aon.indStatus = 0 ∧ aon.aonCapabilityValid = true
  · constructor
    · intro adds _ _ _ _ bit capability mem
      exact (adds bit capability mem (addBatching_bit batches mem)).2
    · rcases batches with ⟨supported, succeeds, isOk, valid⟩
      intro guarded bit capability mem _
      exact ⟨batching.mp supported,
        guarded (batching.mp supported) succeeds isOk valid bit capability mem⟩
  · constructor
    · intro _ supported succeeds isOk valid
      exact absurd ⟨batching.mpr supported, succeeds, isOk, valid⟩ batches
    · intro _ bit capability mem isSet
      have high : 3 ≤ bit := by
        simp only [batchingBits, mem_cons, not_mem_nil, or_false, Prod.mk.injEq] at mem
        omega
      rw [addBatching, if_neg batches, supportedMsgList_high checked high] at isSet
      cases isSet

/-- The mask is right if and only if no supported ID comes too late in the list, and what is added
for batching if and only if the modem is capable of all of it. -/
theorem checks_and_adds_iff (resp : SupportedMsgsResp) (reqIds : ReqIds)
    (checked : Option SupportedMsgsResp) (aon : AonConfig) :
    (resp.Checks reqIds ↔ resp.CheckGuard reqIds) ∧ (Adds checked aon ↔ AddGuard checked aon) :=
  ⟨checks_iff resp reqIds, adds_iff checked aon⟩

def shortArray : SupportedMsgsResp := ⟨true, [0x03, 0x80]⟩

def batchSizeOnly : SupportedMsgsResp := ⟨true, List.replicate 14 0 ++ [0x20]⟩

/-- The third ID of a list is not tested on an array of two bytes, and a modem that batches by time
only gets all three bits. -/
theorem not_checks_shortArray :
    ¬shortArray.Checks ⟨[0, 1, 15], by decide⟩ ∧
      ¬Adds (some batchSizeOnly) ⟨.success, 0, true, 4⟩ := by
  constructor
  · rintro ⟨mask, ran, bits⟩
    cases ran
    have isSet := (bits 2).mpr ⟨15, rfl, rfl, 0x80, by decide, by decide⟩
    exact absurd isSet (by decide)
  · intro adds
    have capable := (adds 3 1 (by decide) (by decide)).2
    exact absurd capable (by decide)

end SupportedMsgsResp

end HtcPme.Gps
