import HtcPme.Gps.SyncReq
import Mathlib.Algebra.GroupWithZero.Nat

/-!
# XTRA data

`setXtraData` injects a block of XTRA data in parts. The offset in the block only moves after a part
that the modem has accepted, the number of the part after each one.
-/

namespace HtcPme.Gps

open List

inductive LocApiAdapterErr where
  | success | generalFailure | unsupported | invalidHandle | invalidParameter | engineBusy
  | phoneOffline | timeout | serviceNotPresent | internal | failure
deriving DecidableEq

def LocClientStatus.convertErr : LocClientStatus → LocApiAdapterErr
  | success => .success
  | failureGeneral => .generalFailure
  | failureUnsupported => .unsupported
  | failureInvalidParameter => .invalidParameter
  | failureEngineBusy => .engineBusy
  | failurePhoneOffline => .phoneOffline
  | failureTimeout => .timeout
  | failureInvalidHandle => .invalidHandle
  | failureServiceNotPresent => .serviceNotPresent
  | failureInternal => .internal
  | _ => .failure

theorem LocClientStatus.convertErr_eq_success {status : LocClientStatus} :
    status.convertErr = .success ↔ status = .success := by
  cases status <;> simp [convertErr]

abbrev maxPartLen : ℕ := 1024

/-- The block of a call, whose length is a positive `int`. -/
structure XtraBlock where
  data : List UInt8
  length_pos : 0 < data.length
  length_lt : data.length < 2 ^ 31

/-- `qmiLocInjectPredictedOrbitsDataReqMsgT_v02`. The offset of the data in the block is not in the
source. -/
structure XtraRequest where
  totalSize : UInt32
  totalParts : UInt16
  partNum : UInt16
  partData : List UInt8
  offset : ℕ
deriving DecidableEq

/-- What `loc_sync_send_req` returns, and the status and part number of the indication. -/
structure XtraAnswer where
  status : LocClientStatus
  indStatus : UInt32
  partNum : UInt16
deriving DecidableEq

def XtraAnswer.Accepts (answer : XtraAnswer) (partNum : UInt16) : Prop :=
  answer.status = .success ∧ answer.indStatus = 0 ∧ partNum = answer.partNum

instance (answer : XtraAnswer) (partNum : UInt16) : Decidable (answer.Accepts partNum) :=
  inferInstanceAs (Decidable (_ ∧ _))

namespace XtraBlock

variable (block : XtraBlock) (answers : ℕ → XtraAnswer)

def totalParts : ℕ := (block.data.length - 1) / maxPartLen + 1

def partDataLen (lenInjected : UInt16) : ℕ :=
  if maxPartLen > block.data.length - lenInjected.toNat then
    block.data.length - lenInjected.toNat
  else maxPartLen

def request (partNum : UInt16) (lenInjected : UInt16) : XtraRequest where
  totalSize := UInt32.ofNat block.data.length
  totalParts := UInt16.ofNat block.totalParts
  partNum
  partData := (block.data.drop lenInjected.toNat).take (block.partDataLen lenInjected)
  offset := lenInjected.toNat

def advance (answer : XtraAnswer) (partNum lenInjected : UInt16) : UInt16 :=
  if answer.Accepts partNum then lenInjected + UInt16.ofNat (block.partDataLen lenInjected)
  else lenInjected

/-- The loop of `setXtraData`, for at most `fuel` rounds, with the status of the last request and
all that were sent. -/
def loop : ℕ → UInt8 → UInt16 → LocClientStatus → List XtraRequest →
    Option (LocApiAdapterErr × List XtraRequest)
  | 0, _, _, _, _ => none
  | fuel + 1, part, lenInjected, status, sent =>
      if part.toNat ≤ block.totalParts then
        let answer := answers sent.length
        loop fuel (part + 1) (block.advance answer part.toUInt16 lenInjected) answer.status
          (sent ++ [block.request part.toUInt16 lenInjected])
      else some (status.convertErr, sent)

def setXtraData (fuel : ℕ) : Option (LocApiAdapterErr × List XtraRequest) :=
  block.loop answers fuel 1 0 .success []

def part (k : ℕ) : XtraRequest where
  totalSize := UInt32.ofNat block.data.length
  totalParts := UInt16.ofNat ((block.data.length + maxPartLen - 1) / maxPartLen)
  partNum := UInt16.ofNat (k + 1)
  partData := (block.data.drop (maxPartLen * k)).take maxPartLen
  offset := maxPartLen * k

/-- The call ends, its requests are the parts of the block in order, and it only succeeds if every
part was accepted. -/
def Injects : Prop :=
  ∃ fuel err sent, block.setXtraData answers fuel = some (err, sent) ∧
    sent = (List.range ((block.data.length + maxPartLen - 1) / maxPartLen)).map block.part ∧
      sent.flatMap (·.partData) = block.data ∧
        (err = .success → ∀ k < block.totalParts, (answers k).Accepts (UInt16.ofNat (k + 1)))

/-- The block has at most 64 parts, and each is accepted before the next, and the last one if its
request succeeds. -/
structure InjectGuard (block : XtraBlock) (answers : ℕ → XtraAnswer) : Prop where
  short : block.data.length ≤ 2 ^ 16
  accepts : ∀ k, k + 1 < block.totalParts → (answers k).Accepts (UInt16.ofNat (k + 1))
  last : (answers (block.totalParts - 1)).status = .success →
    (answers (block.totalParts - 1)).Accepts (UInt16.ofNat block.totalParts)

def injected : ℕ → UInt16
  | 0 => 0
  | k + 1 => block.advance (answers k) (UInt16.ofNat (k + 1)) (injected k)

def sent (k : ℕ) : List XtraRequest :=
  (List.range k).map fun k => block.request (UInt16.ofNat (k + 1)) (block.injected answers k)

variable {block answers}

theorem totalParts_eq : block.totalParts = (block.data.length + maxPartLen - 1) / maxPartLen := by
  have pos := block.length_pos
  simp only [totalParts, maxPartLen]
  omega

theorem loop_none (many : 255 ≤ block.totalParts) (fuel : ℕ) (part : UInt8) (lenInjected : UInt16)
    (status : LocClientStatus) (sent : List XtraRequest) :
    block.loop answers fuel part lenInjected status sent = none := by
  induction fuel generalizing part lenInjected status sent with
  | zero => rfl
  | succ fuel ih =>
      have bound := part.toNat_lt
      rw [loop, if_pos (by omega)]
      apply ih

variable {result : LocApiAdapterErr × List XtraRequest} {fuel : ℕ}

theorem loop_mono {part : UInt8} {lenInjected : UInt16} {status : LocClientStatus}
    {sent : List XtraRequest}
    (ended : block.loop answers fuel part lenInjected status sent = some result) (more : ℕ) :
    block.loop answers (fuel + more) part lenInjected status sent = some result := by
  induction fuel generalizing part lenInjected status sent with
  | zero => simp [loop] at ended
  | succ fuel ih =>
      rw [Nat.succ_add, loop]
      rw [loop] at ended
      split
      · rename_i goesOn
        rw [if_pos goesOn] at ended
        exact ih ended
      · rename_i isOver
        rwa [if_neg isOver] at ended

theorem loop_eq (few : block.totalParts < 255) (n k : ℕ) (isEnd : k + n = block.totalParts)
    (status : LocClientStatus) :
    block.loop answers (n + 1) (UInt8.ofNat (k + 1)) (block.injected answers k) status
        (block.sent answers k) =
      some ((if n = 0 then status else (answers (block.totalParts - 1)).status).convertErr,
        block.sent answers block.totalParts) := by
  have part : (UInt8.ofNat (k + 1)).toNat = k + 1 := by
    rw [UInt8.toNat_ofNat']
    omega
  induction n generalizing k status with
  | zero =>
      have isOver : ¬k + 1 ≤ block.totalParts := by omega
      rw [loop, part, if_neg isOver, if_pos rfl, ← isEnd, Nat.add_zero]
  | succ n ih =>
      have goesOn : k + 1 ≤ block.totalParts := by omega
      have next : UInt8.ofNat (k + 1) + 1 = UInt8.ofNat (k + 1 + 1) := by
        rw [UInt8.ofNat_add (k + 1) 1]
        rfl
      have wide : (UInt8.ofNat (k + 1)).toUInt16 = UInt16.ofNat (k + 1) := by
        apply UInt16.toNat_inj.mp
        rw [UInt8.toNat_toUInt16, part, UInt16.toNat_ofNat']
        omega
      have count : (block.sent answers k).length = k := by simp [sent]
      have sends : block.sent answers k ++
          [block.request (UInt16.ofNat (k + 1)) (block.injected answers k)] =
            block.sent answers (k + 1) := by
        simp [sent, range_succ]
      have rest := ih (k + 1) (by omega) (answers k).status (by
        rw [UInt8.toNat_ofNat']
        omega)
      rw [loop, part, if_pos goesOn, next, wide, count, sends]
      rw [injected] at rest
      rw [rest]
      cases n with
      | zero =>
          have isLast : block.totalParts - 1 = k := by omega
          simp [isLast]
      | succ n => simp

theorem setXtraData_eq_some (ended : block.setXtraData answers fuel = some result) :
    block.totalParts < 255 ∧ result = ((answers (block.totalParts - 1)).status.convertErr,
        block.sent answers block.totalParts) := by
  have few : block.totalParts < 255 := by
    by_contra many
    rw [setXtraData, loop_none (Nat.le_of_not_lt many)] at ended
    cases ended
  refine ⟨few, ?_⟩
  have looped : block.setXtraData answers (block.totalParts + 1) = _ :=
    loop_eq few block.totalParts 0 (Nat.zero_add _) .success
  have same := loop_mono looped fuel
  rw [Nat.add_comm] at same
  rw [setXtraData] at ended
  have done := loop_mono ended (block.totalParts + 1)
  rw [same, Option.some.injEq] at done
  rw [← done, if_neg]
  simp [totalParts]

theorem flatMap_parts (n : ℕ) :
    ((range n).map block.part).flatMap (·.partData) = block.data.take (maxPartLen * n) := by
  induction n with
  | zero => simp
  | succ n ih =>
      rw [range_succ, map_append, flatMap_append, ih, Nat.mul_succ, take_add]
      simp [part]

theorem injected_eq (k : ℕ) (within : k < block.totalParts) (short : k < 64)
    (accepts : ∀ j < k, (answers j).Accepts (UInt16.ofNat (j + 1))) :
    (block.injected answers k).toNat = maxPartLen * k := by
  induction k with
  | zero => rfl
  | succ k ih =>
      have before := ih (by omega) (by omega) fun j less => accepts j (by omega)
      have full : block.partDataLen (block.injected answers k) = maxPartLen := by
        rw [partDataLen, before, if_neg]
        simp only [totalParts, maxPartLen] at within ⊢
        omega
      rw [injected, advance, if_pos (accepts k (Nat.lt_succ_self k)), full, UInt16.toNat_add,
        before]
      simp only [maxPartLen, UInt16.toNat_ofNat']
      omega

theorem request_eq {k : ℕ}
    (offset : (block.injected answers k).toNat = maxPartLen * k) :
    block.request (UInt16.ofNat (k + 1)) (block.injected answers k) = block.part k := by
  have data : (block.data.drop (maxPartLen * k)).take
      (block.partDataLen (block.injected answers k)) =
        (block.data.drop (maxPartLen * k)).take maxPartLen := by
    rw [partDataLen, offset]
    split
    · rw [take_of_length_le, take_of_length_le]
      · simp
        omega
      · simp
    · rfl
  simp only [request, part, offset, data, totalParts_eq]

theorem sent_eq_iff :
    block.sent answers block.totalParts = (range block.totalParts).map block.part ↔
      block.data.length ≤ 2 ^ 16 ∧
        ∀ k, k + 1 < block.totalParts → (answers k).Accepts (UInt16.ofNat (k + 1)) := by
  rw [sent, map_inj_left]
  simp only [mem_range]
  constructor
  · intro same
    have offset : ∀ k < block.totalParts, (block.injected answers k).toNat = maxPartLen * k :=
      fun k within => congrArg XtraRequest.offset (same k within)
    constructor
    · by_contra long
      have beyond := offset 64 (by simp only [totalParts, maxPartLen]; omega)
      have bound := (block.injected answers 64).toNat_lt
      simp only [maxPartLen] at beyond
      omega
    · intro k within
      by_contra rejected
      have here := offset k (by omega)
      have next := offset (k + 1) within
      rw [injected, advance, if_neg rejected, here] at next
      simp only [maxPartLen] at next
      omega
  · rintro ⟨short, accepts⟩ k within
    apply request_eq
    apply injected_eq k within
    · simp only [totalParts, maxPartLen] at within
      omega
    · exact fun j less => accepts j (by omega)

/-- A call injects the block if and only if this has at most 64 parts, and each is accepted before
the next, and the last one if its request succeeds. -/
theorem injects_iff (block : XtraBlock) (answers : ℕ → XtraAnswer) :
    block.Injects answers ↔ InjectGuard block answers := by
  have isLast : block.totalParts - 1 + 1 = block.totalParts := by simp [totalParts]
  constructor
  · rintro ⟨fuel, err, sent, ended, isParts, -, accepted⟩
    rcases setXtraData_eq_some ended with ⟨few, result⟩
    cases result
    rw [← totalParts_eq] at isParts
    rcases sent_eq_iff.mp isParts with ⟨short, accepts⟩
    refine ⟨short, accepts, fun succeeds => ?_⟩
    have last := accepted (LocClientStatus.convertErr_eq_success.mpr succeeds)
      (block.totalParts - 1) (by omega)
    rwa [isLast] at last
  · rintro ⟨short, accepts, last⟩
    have few : block.totalParts < 255 := by
      simp only [totalParts, maxPartLen]
      omega
    have isParts := sent_eq_iff.mpr ⟨short, accepts⟩
    refine ⟨block.totalParts + 1, _, _, loop_eq few block.totalParts 0 (Nat.zero_add _) .success,
      ?_, ?_, ?_⟩
    · rw [isParts, ← totalParts_eq]
    · rw [isParts, flatMap_parts, List.take_of_length_le]
      simp only [totalParts, maxPartLen]
      omega
    · intro succeeds k within
      rw [LocClientStatus.convertErr_eq_success, if_neg (by simp [totalParts])] at succeeds
      rcases Nat.lt_or_ge (k + 1) block.totalParts with before | isEnd
      · exact accepts k before
      · have here : k = block.totalParts - 1 := by omega
        have accepted := last succeeds
        rw [← isLast, ← here] at accepted
        exact accepted

def twoParts : XtraBlock where
  data := List.replicate 1025 0
  length_pos := by rw [List.length_replicate]; omega
  length_lt := by rw [List.length_replicate]; omega

def firstRejected (k : ℕ) : XtraAnswer :=
  ⟨if k = 0 then .failureGeneral else .success, 0, UInt16.ofNat (k + 1)⟩

theorem not_injects_rejected : ¬twoParts.Injects firstRejected := by
  rintro ⟨fuel, err, sent, ended, -, -, accepted⟩
  have parts : twoParts.totalParts = 2 := by
    rw [totalParts, twoParts, List.length_replicate]
    simp only [maxPartLen, Nat.reduceSub, Nat.reduceDiv, Nat.reduceAdd]
  have result := (setXtraData_eq_some ended).2
  rw [parts] at result accepted
  have first := accepted (congrArg Prod.fst result) 0 (by omega)
  exact absurd first (by decide)

end XtraBlock

end HtcPme.Gps
