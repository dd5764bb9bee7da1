import HtcPme.Foundation.SlotShift
import Mathlib.Data.Int.Notation
import Mathlib.Tactic.Common

/-!
# The private subnets

The table of the private subnets, which starts as it is configured. An interface that gets an
address adds its subnet, and deletes it when it goes down.
-/

namespace HtcPme.Ipacm

open List

structure IpaPrivateSubnet where
  subnetAddr : UInt32
  subnetMask : UInt32
  deriving DecidableEq, Repr

namespace IpaPrivateSubnet

def Contains (subnet : IpaPrivateSubnet) (ipAddr : UInt32) : Prop :=
  ipAddr &&& subnet.subnetMask = subnet.subnetAddr &&& subnet.subnetMask

def IsNetwork (subnet : IpaPrivateSubnet) : Prop :=
  subnet.subnetAddr &&& subnet.subnetMask = subnet.subnetAddr

end IpaPrivateSubnet

structure PrivateSubnetConf where
  entries : List IpaPrivateSubnet
  bounded : entries.length ≤ 3

structure PrivateSubnets where
  privateSubnetTable : ℕ → IpaPrivateSubnet
  ipaNumPrivateSubnet : ℕ

/-- What a call returns, and the interface of the `IPA_PRIVATE_SUBNET_CHANGE_EVENT` that it
posts. -/
structure SubnetReply where
  config : PrivateSubnets
  ret : Bool
  posted : Option ℤ

namespace PrivateSubnets

abbrev maxEntries : ℕ := 3

/-- What `Init` leaves: the configured subnets in front of a cleared rest. -/
def init (conf : PrivateSubnetConf) : PrivateSubnets :=
  { privateSubnetTable := fun idx => conf.entries.getD idx ⟨0, 0⟩
    ipaNumPrivateSubnet := conf.entries.length }

def isPrivateSubnet (config : PrivateSubnets) (ipAddr : UInt32) : Bool :=
  (List.range config.ipaNumPrivateSubnet).any fun cnt =>
    (config.privateSubnetTable cnt).subnetAddr =
      (config.privateSubnetTable cnt).subnetMask &&& ipAddr

def findAddr (config : PrivateSubnets) (ipAddr : UInt32) : Option ℕ :=
  (List.range config.ipaNumPrivateSubnet).find? fun cnt =>
    (config.privateSubnetTable cnt).subnetAddr = ipAddr

def notify (config : PrivateSubnets) (ipaIfIndex : ℤ) (allocated : Bool) : SubnetReply :=
  { config
    ret := true
    posted := if allocated then some ipaIfIndex else none }

def addPrivateSubnet (config : PrivateSubnets) (ipAddr : UInt32) (ipaIfIndex : ℤ)
    (allocated : Bool) : SubnetReply :=
  match config.findAddr ipAddr with
  | some _ => { config, ret := true, posted := none }
  | none =>
      if config.ipaNumPrivateSubnet < maxEntries then
        notify
          { privateSubnetTable := Function.update config.privateSubnetTable
              config.ipaNumPrivateSubnet ⟨ipAddr, ((~~~0 : UInt32) >>> 8) <<< 8⟩
            ipaNumPrivateSubnet := config.ipaNumPrivateSubnet + 1 }
          ipaIfIndex allocated
      else { config, ret := false, posted := none }

/-- The copy that the inner loop of `DelPrivateSubnet` makes. -/
def copyAddr (entry next : IpaPrivateSubnet) : IpaPrivateSubnet :=
  { entry with subnetAddr := next.subnetAddr }

def delPrivateSubnet (config : PrivateSubnets) (ipAddr : UInt32) (ipaIfIndex : ℤ)
    (allocated : Bool) : SubnetReply :=
  match config.findAddr ipAddr with
  | some cnt =>
      notify
        { privateSubnetTable := SlotShift.closeUp copyAddr (config.ipaNumPrivateSubnet - 1 - cnt)
            cnt config.privateSubnetTable
          ipaNumPrivateSubnet := config.ipaNumPrivateSubnet - 1 }
        ipaIfIndex allocated
  | none => { config, ret := false, posted := none }

end PrivateSubnets

inductive SubnetOp where
  | add (ipAddr : UInt32) (ipaIfIndex : ℤ) (allocated : Bool)
  | del (ipAddr : UInt32) (ipaIfIndex : ℤ) (allocated : Bool)

namespace SubnetOp

def apply (config : PrivateSubnets) : SubnetOp → PrivateSubnets
  | add ipAddr ipaIfIndex allocated =>
      (config.addPrivateSubnet ipAddr ipaIfIndex allocated).config
  | del ipAddr ipaIfIndex allocated =>
      (config.delPrivateSubnet ipAddr ipaIfIndex allocated).config

def place (held : List IpaPrivateSubnet) (ipAddr : UInt32) : ℕ :=
  held.findIdx (·.subnetAddr = ipAddr)

/-- What the calls are for: the subnets that are held, with a new one taken while there is room. -/
def expect (held : List IpaPrivateSubnet) : SubnetOp → List IpaPrivateSubnet
  | add ipAddr _ _ =>
      if place held ipAddr < held.length ∨ PrivateSubnets.maxEntries ≤ held.length then held
      else held ++ [⟨ipAddr, 0xffffff00⟩]
  | del ipAddr _ _ => held.eraseIdx (place held ipAddr)

/-- Whether the masks may stay where they are: a subnet is deleted only if those behind it have
its mask. -/
def MasksStay (held : List IpaPrivateSubnet) : SubnetOp → Prop
  | add _ _ _ => True
  | del ipAddr _ _ =>
      ∀ pos (_ : place held ipAddr ≤ pos) (_ : pos + 1 < held.length),
        held[pos].subnetMask = held[pos + 1].subnetMask

end SubnetOp

namespace PrivateSubnets

def subnets (config : PrivateSubnets) : List IpaPrivateSubnet :=
  (List.range config.ipaNumPrivateSubnet).map config.privateSubnetTable

structure Holds (config : PrivateSubnets) (held : List IpaPrivateSubnet) : Prop where
  stored : config.subnets = held
  isPrivate : ∀ ipAddr, config.isPrivateSubnet ipAddr ↔ ∃ subnet ∈ held, subnet.Contains ipAddr

def Correct (config : PrivateSubnets) (held : List IpaPrivateSubnet) : List SubnetOp → Prop
  | [] => config.Holds held
  | op :: ops => config.Holds held ∧ Correct (op.apply config) (op.expect held) ops

def Covered (held : List IpaPrivateSubnet) : Prop :=
  ∀ subnet ∈ held, ¬subnet.IsNetwork → ∀ ipAddr, subnet.Contains ipAddr →
    ∃ network ∈ held, network.IsNetwork ∧ network.Contains ipAddr

def AllStay (held : List IpaPrivateSubnet) : List SubnetOp → Prop
  | [] => Covered held
  | op :: ops => Covered held ∧ op.MasksStay held ∧ AllStay (op.expect held) ops

variable {config : PrivateSubnets} {held : List IpaPrivateSubnet} {ipAddr : UInt32}

@[simp] theorem length_subnets (config : PrivateSubnets) :
    config.subnets.length = config.ipaNumPrivateSubnet := by
  simp [subnets]

theorem getElem_subnets {pos : ℕ} (within : pos < config.subnets.length) :
    config.subnets[pos] = config.privateSubnetTable pos := by
  simp [subnets]

theorem matches_iff (subnet : IpaPrivateSubnet) (ipAddr : UInt32) :
    subnet.subnetAddr = subnet.subnetMask &&& ipAddr ↔
      subnet.IsNetwork ∧ subnet.Contains ipAddr := by
  simp only [IpaPrivateSubnet.IsNetwork, IpaPrivateSubnet.Contains]
  constructor
  · intro isMatch
    have isNetwork : subnet.subnetAddr &&& subnet.subnetMask = subnet.subnetAddr := by
      rw [isMatch, UInt32.and_comm, ← UInt32.and_assoc, UInt32.and_self]
    exact ⟨isNetwork, by rw [isNetwork, UInt32.and_comm, ← isMatch]⟩
  · rintro ⟨isNetwork, isIn⟩
    rw [UInt32.and_comm, isIn, isNetwork]

theorem isPrivateSubnet_iff (config : PrivateSubnets) (ipAddr : UInt32) :
    config.isPrivateSubnet ipAddr ↔
      ∃ subnet ∈ config.subnets, subnet.IsNetwork ∧ subnet.Contains ipAddr := by
  simp [isPrivateSubnet, subnets, matches_iff]

section

variable (stored : config.subnets = held)

include stored

theorem holds_iff : config.Holds held ↔ Covered held := by
  constructor
  · rintro ⟨_, isPrivate⟩ subnet isHeld _ ipAddr isIn
    have found := (isPrivate ipAddr).mpr ⟨subnet, isHeld, isIn⟩
    rwa [isPrivateSubnet_iff, stored] at found
  · intro isCovered
    refine ⟨stored, fun ipAddr => ?_⟩
    rw [isPrivateSubnet_iff, stored]
    constructor
    · rintro ⟨subnet, isHeld, _, isIn⟩
      exact ⟨subnet, isHeld, isIn⟩
    · rintro ⟨subnet, isHeld, isIn⟩
      by_cases isNetwork : subnet.IsNetwork
      · exact ⟨subnet, isHeld, isNetwork, isIn⟩
      · exact isCovered subnet isHeld isNetwork ipAddr isIn

theorem findAddr_eq_some (isIn : SubnetOp.place held ipAddr < held.length) :
    config.findAddr ipAddr = some (SubnetOp.place held ipAddr) := by
  subst stored
  rw [findAddr, find?_range_eq_some]
  refine ⟨?_, by simpa using isIn, fun pos isBefore => ?_⟩
  · have isFound : config.subnets.findIdx (·.subnetAddr = ipAddr) < config.subnets.length := isIn
    have isAt := findIdx_getElem (w := isFound)
    rwa [getElem_subnets] at isAt
  · have notAt := not_of_lt_findIdx isBefore
    rw [getElem_subnets] at notAt
    simpa using notAt

theorem findAddr_eq_none
    (notIn : ¬SubnetOp.place held ipAddr < held.length) : config.findAddr ipAddr = none := by
  subst stored
  have isAbsent := mt findIdx_lt_length.mpr notIn
  simp only [subnets, mem_map, mem_range] at isAbsent
  rw [findAddr, find?_range_eq_none]
  intro pos within
  by_contra isAt
  exact isAbsent ⟨_, ⟨pos, within, rfl⟩, by simpa using isAt⟩

theorem subnets_add (ipAddr : UInt32) (ipaIfIndex : ℤ)
    (allocated : Bool) :
    (config.addPrivateSubnet ipAddr ipaIfIndex allocated).config.subnets =
      SubnetOp.expect held (.add ipAddr ipaIfIndex allocated) := by
  have counted : config.ipaNumPrivateSubnet = held.length := by
    rw [← stored, length_subnets]
  by_cases isIn : SubnetOp.place held ipAddr < held.length
  · simp only [addPrivateSubnet, findAddr_eq_some stored isIn, SubnetOp.expect]
    rw [if_pos (.inl isIn)]
    exact stored
  · simp only [addPrivateSubnet, findAddr_eq_none stored isIn, SubnetOp.expect, counted]
    by_cases isRoom : held.length < maxEntries
    · rw [if_pos isRoom, if_neg (not_or.mpr ⟨isIn, Nat.not_le.mpr isRoom⟩)]
      simp only [notify, subnets, range_succ, map_append, map_singleton,
        Function.update_self]
      rw [show ((~~~0 : UInt32) >>> 8) <<< 8 = 0xffffff00 by decide]
      apply congrArg (· ++ [_])
      rw [← counted]
      refine Eq.trans (map_congr_left fun pos within => ?_) stored
      exact Function.update_of_ne (Nat.ne_of_lt (mem_range.mp within)) _ _
    · rw [if_neg isRoom, if_pos (.inr (Nat.not_lt.mp isRoom))]
      exact stored

end

theorem copyAddr_eq_iff (entry next : IpaPrivateSubnet) :
    copyAddr entry next = next ↔ entry.subnetMask = next.subnetMask := by
  constructor
  · intro isNext
    rw [← isNext]
    rfl
  · intro same
    rw [copyAddr, same]

theorem closeUp_eq_eraseIdx_iff (table : ℕ → IpaPrivateSubnet) {num idx : ℕ} (within : idx ≤ num) :
    (range num).map (SlotShift.closeUp copyAddr (num - idx) idx table) =
        ((range (num + 1)).map table).eraseIdx idx ↔
      ∀ pos, idx ≤ pos → pos < num → (table pos).subnetMask = (table (pos + 1)).subnetMask := by
  rw [SlotShift.eraseIdx_map_range _ within, map_inj_left]
  simp only [mem_range, SlotShift.closeUp_apply]
  apply forall_congr'
  intro pos
  by_cases isBefore : pos < idx
  · rw [if_neg (by omega), if_pos isBefore]
    exact ⟨fun _ notBefore => by omega, fun _ _ => rfl⟩
  · rw [if_neg isBefore]
    constructor
    · intro same isBehind isIn
      have isNext := same isIn
      rw [if_pos (by omega)] at isNext
      exact (copyAddr_eq_iff _ _).mp isNext
    · intro same isIn
      rw [if_pos (by omega)]
      exact (copyAddr_eq_iff _ _).mpr (same (by omega) isIn)

theorem subnets_del_iff (stored : config.subnets = held) (ipAddr : UInt32) (ipaIfIndex : ℤ)
    (allocated : Bool) :
    (config.delPrivateSubnet ipAddr ipaIfIndex allocated).config.subnets =
        SubnetOp.expect held (.del ipAddr ipaIfIndex allocated) ↔
      SubnetOp.MasksStay held (.del ipAddr ipaIfIndex allocated) := by
  have counted : config.ipaNumPrivateSubnet = held.length := by
    rw [← stored, length_subnets]
  by_cases isIn : SubnetOp.place held ipAddr < held.length
  · rcases Nat.exists_eq_succ_of_ne_zero (Nat.ne_of_gt (Nat.zero_lt_of_lt isIn)) with ⟨num, isNum⟩
    simp only [delPrivateSubnet, findAddr_eq_some stored isIn, SubnetOp.expect,
      SubnetOp.MasksStay, notify, subnets, counted, isNum, Nat.succ_eq_add_one,
      Nat.add_sub_cancel]
    have isErased := closeUp_eq_eraseIdx_iff config.privateSubnetTable
      (show SubnetOp.place held ipAddr ≤ num by omega)
    have isStored : (range (num + 1)).map config.privateSubnetTable = held := by
      rw [← stored, subnets, counted, isNum]
    rw [isStored] at isErased
    rw [isErased]
    constructor
    · intro same pos isBehind within
      have isSame := same pos isBehind (by omega)
      simpa [← isStored] using isSame
    · intro same pos isBehind within
      have isSame := same pos isBehind (by omega)
      simpa [← isStored] using isSame
  · simp only [delPrivateSubnet, findAddr_eq_none stored isIn, SubnetOp.expect,
      SubnetOp.MasksStay, eraseIdx_of_length_le (Nat.not_lt.mp isIn)]
    exact ⟨fun _ pos isBehind within => by omega, fun _ => stored⟩

theorem subnets_apply_iff (stored : config.subnets = held) (op : SubnetOp) :
    (op.apply config).subnets = op.expect held ↔ op.MasksStay held := by
  cases op with
  | add ipAddr ipaIfIndex allocated =>
      exact ⟨fun _ => trivial, fun _ => subnets_add stored ipAddr ipaIfIndex allocated⟩
  | del ipAddr ipaIfIndex allocated => exact subnets_del_iff stored ipAddr ipaIfIndex allocated

theorem Correct.holds {ops : List SubnetOp} (isCorrect : config.Correct held ops) :
    config.Holds held := by
  cases ops with
  | nil => exact isCorrect
  | cons op ops => exact isCorrect.1

theorem correct_iff (stored : config.subnets = held) (ops : List SubnetOp) :
    config.Correct held ops ↔ AllStay held ops := by
  induction ops generalizing config held with
  | nil => exact holds_iff stored
  | cons op ops ih =>
      simp only [Correct, AllStay, holds_iff stored]
      apply and_congr_right
      intro _
      constructor
      · intro isCorrect
        have stored' := isCorrect.holds.stored
        exact ⟨(subnets_apply_iff stored op).mp stored', (ih stored').mp isCorrect⟩
      · rintro ⟨masksStay, allStay⟩
        exact (ih ((subnets_apply_iff stored op).mpr masksStay)).mpr allStay

theorem subnets_init (conf : PrivateSubnetConf) : (init conf).subnets = conf.entries := by
  apply ext_getElem
  · simp [init]
  · intro pos _ within
    rw [getElem_subnets]
    simp [init, within]

end PrivateSubnets

/-- The table is right through exactly the sequences of calls in which no subnet is to be moved
under another mask and the subnets held are networks or covered by networks. -/
theorem privateSubnets_correct_iff (conf : PrivateSubnetConf) (ops : List SubnetOp) :
    (PrivateSubnets.init conf).Correct conf.entries ops ↔
      PrivateSubnets.AllStay conf.entries ops :=
  PrivateSubnets.correct_iff (PrivateSubnets.subnets_init conf) ops

def privateNetworks : PrivateSubnetConf where
  entries := [⟨0x0a000000, 0xff000000⟩, ⟨0xac100000, 0xfff00000⟩, ⟨0xc0a80000, 0xffff0000⟩]
  bounded := by decide

/-- When 10.0.0.0 is deleted, 172.16.0.0 is left with its mask. -/
theorem not_privateSubnets_correct :
    ¬(PrivateSubnets.init privateNetworks).Correct privateNetworks.entries
      [.del 0x0a000000 0 true] := by
  rintro ⟨_, holds⟩
  have stored := holds.stored
  revert stored
  decide

end HtcPme.Ipacm
