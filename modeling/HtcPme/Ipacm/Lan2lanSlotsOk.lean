import HtcPme.Ipacm.Lan2lanSlots

/-!
# What the LAN-to-LAN functions keep

Each filtering slot has a handle of its own, and is valid while its rule is there.
-/

namespace HtcPme.Ipacm

open Function

namespace Lan2lan

variable {μ : Type*}

def validCount (lan : Lan2lan μ) (ip : IpaIpType) : ℕ :=
  SlotCount.count (fun hdl : FltRuleHdl => hdl.valid) (lan.fltRuleHdl ip)

def HasHdr (lan : Lan2lan μ) (ip : IpaIpType) (slot : Fin maxOffloadPair) : Prop :=
  ∃ hdl hdr, lan.hdrs hdl = some hdr ∧ hdr.ip = ip ∧ hdr.index = slot

/-- The counters are the numbers of valid slots, and a slot is valid if and only if its rule or its
header is there. -/
structure LanOk (lan : Lan2lan μ) : Prop where
  counted : ∀ ip, (lan.numFltRule ip).toNat = lan.validCount ip
  bounded : ∀ ip, (lan.numFltRule ip).toNat ≤ maxOffloadPair
  fltValid : ∀ ip slot, (lan.fltRuleHdl ip slot).valid ↔
    (lan.rules ip (lan.fltRuleHdl ip slot).ruleHdl).isSome
  hdrValid : ∀ ip slot, (lan.hdrHdl ip slot).valid ↔ lan.HasHdr ip slot

structure SlotsOk (lan : Lan2lan μ) : Prop where
  distinct : ∀ ip slot slot',
    (lan.fltRuleHdl ip slot).ruleHdl = (lan.fltRuleHdl ip slot').ruleHdl → slot = slot'
  counted : ∀ ip, (lan.numFltRule ip).toNat = lan.validCount ip
  fltValid : ∀ ip slot, (lan.fltRuleHdl ip slot).valid ↔
    (lan.rules ip (lan.fltRuleHdl ip slot).ruleHdl).isSome
  hdrValid : ∀ hdl hdr, lan.hdrs hdl = some hdr →
    lan.hdrHdl hdr.ip hdr.index = ⟨hdl, true⟩
  hdrIsIn : ∀ ip slot, (lan.hdrHdl ip slot).valid →
    ∃ hdr, lan.hdrs (lan.hdrHdl ip slot).hdrHdl = some hdr ∧ hdr.ip = ip ∧ hdr.index = slot
  below : ∀ ip slot slot', slot < slot' → (lan.hdrHdl ip slot').valid →
    (lan.hdrHdl ip slot).hdrHdl ≠ (lan.hdrHdl ip slot').hdrHdl

variable {lan : Lan2lan μ} {ip : IpaIpType} {slot : Fin maxOffloadPair}

theorem SlotsOk.lanOk (isOk : SlotsOk lan) : LanOk lan where
  counted := isOk.counted
  bounded := by
    intro ip
    rw [isOk.counted ip]
    exact SlotCount.count_le _
  fltValid := isOk.fltValid
  hdrValid := by
    intro ip slot
    constructor
    · intro isValid
      exact ⟨_, isOk.hdrIsIn ip slot isValid⟩
    · rintro ⟨hdl, hdr, isIn, rfl, rfl⟩
      rw [isOk.hdrValid hdl hdr isIn]

section Fields

theorem update_slot {α : Type*} (table : IpaIpType → Fin maxOffloadPair → α) (ip ip' : IpaIpType)
    (slot slot' : Fin maxOffloadPair) (value : α) :
    update table ip (update (table ip) slot value) ip' slot' =
      if ip' = ip ∧ slot' = slot then value else table ip' slot' := by
  by_cases sameIp : ip' = ip
  · subst sameIp
    by_cases same : slot' = slot
    · simp [same]
    · simp [same]
  · simp [sameIp]

theorem hdrHdl_setHdrHdl (lan : Lan2lan μ) (ip ip' : IpaIpType) (slot slot' : Fin maxOffloadPair)
    (hdrHdl : HdrHdl) :
    (lan.setHdrHdl ip slot hdrHdl).hdrHdl ip' slot' =
      if ip' = ip ∧ slot' = slot then hdrHdl else lan.hdrHdl ip' slot' :=
  update_slot lan.hdrHdl ip ip' slot slot' hdrHdl

theorem fltRuleHdl_setFltValid (lan : Lan2lan μ) (ip ip' : IpaIpType)
    (slot slot' : Fin maxOffloadPair) (valid : Bool) :
    (lan.setFltValid ip slot valid).fltRuleHdl ip' slot' =
      if ip' = ip ∧ slot' = slot then { lan.fltRuleHdl ip slot with valid }
      else lan.fltRuleHdl ip' slot' :=
  update_slot lan.fltRuleHdl ip ip' slot slot' _

@[simp] theorem ruleHdl_setFltValid (lan : Lan2lan μ) (ip ip' : IpaIpType)
    (slot slot' : Fin maxOffloadPair) (valid : Bool) :
    ((lan.setFltValid ip slot valid).fltRuleHdl ip' slot').ruleHdl =
      (lan.fltRuleHdl ip' slot').ruleHdl := by
  rw [fltRuleHdl_setFltValid]
  split_ifs with isSlot
  · rw [isSlot.1, isSlot.2]
  · rfl

theorem valid_setFltValid (lan : Lan2lan μ) (ip ip' : IpaIpType)
    (slot slot' : Fin maxOffloadPair) (valid : Bool) :
    ((lan.setFltValid ip slot valid).fltRuleHdl ip' slot').valid =
      if ip' = ip ∧ slot' = slot then valid else (lan.fltRuleHdl ip' slot').valid := by
  rw [fltRuleHdl_setFltValid]
  split_ifs <;> rfl

theorem numFltRule_setNumFltRule (lan : Lan2lan μ) (ip ip' : IpaIpType) (num : BitVec 8) :
    (lan.setNumFltRule ip num).numFltRule ip' = if ip' = ip then num else lan.numFltRule ip' :=
  update_apply lan.numFltRule ip num ip'

theorem validCount_setFltValid (lan : Lan2lan μ) (ip ip' : IpaIpType)
    (slot : Fin maxOffloadPair) (valid : Bool) :
    (lan.setFltValid ip slot valid).validCount ip' + (if ip' = ip then
        if (lan.fltRuleHdl ip slot).valid then 1 else 0 else 0) =
      lan.validCount ip' + if ip' = ip then if valid then 1 else 0 else 0 := by
  by_cases sameIp : ip' = ip
  · subst sameIp
    have counted := SlotCount.count_update (fun hdl : FltRuleHdl => hdl.valid)
      (lan.fltRuleHdl ip') slot { lan.fltRuleHdl ip' slot with valid }
    simpa [validCount, setFltValid] using counted
  · simp [validCount, setFltValid, sameIp]

theorem rules_setRule (lan : Lan2lan μ) (ip ip' : IpaIpType) (ruleHdl ruleHdl' : ℕ)
    (rule : Option Lan2lanFltRule) :
    (lan.setRule ip ruleHdl rule).rules ip' ruleHdl' =
      if ip' = ip ∧ ruleHdl' = ruleHdl then rule else lan.rules ip' ruleHdl' := by
  by_cases sameIp : ip' = ip
  · subst sameIp
    by_cases same : ruleHdl' = ruleHdl
    · simp [setRule, same]
    · simp [setRule, same]
  · simp [setRule, sameIp]

theorem freeFltSlot_eq_some (found : lan.freeFltSlot ip = some slot) :
    (lan.fltRuleHdl ip slot).valid = false :=
  decide_eq_true_iff.mp (Fin.eq_true_of_find?_eq_some found)

theorem fltSlotOf_eq_some {ruleHdl : ℕ} (found : lan.fltSlotOf ip ruleHdl = some slot) :
    (lan.fltRuleHdl ip slot).ruleHdl = ruleHdl :=
  decide_eq_true_iff.mp (Fin.eq_true_of_find?_eq_some found)

theorem freeHdrSlot_eq_some (found : lan.freeHdrSlot ip = some slot) :
    (lan.hdrHdl ip slot).valid = false ∧ ∀ slot' < slot, (lan.hdrHdl ip slot').valid := by
  rcases Fin.find?_eq_some_iff.mp found with ⟨isFree, notFree⟩
  refine ⟨of_decide_eq_true isFree, fun slot' isBelow => ?_⟩
  simpa using notFree slot' isBelow

theorem hdrSlotOf_eq_some {hdrHdl : ℕ} (found : lan.hdrSlotOf ip hdrHdl = some slot) :
    (lan.hdrHdl ip slot).hdrHdl = hdrHdl ∧
      ∀ slot' < slot, (lan.hdrHdl ip slot').hdrHdl ≠ hdrHdl := by
  rcases Fin.find?_eq_some_iff.mp found with ⟨isSlot, notSlot⟩
  refine ⟨of_decide_eq_true isSlot, fun slot' isBelow => ?_⟩
  simpa using notSlot slot' isBelow

end Fields

section Rules

variable (isOk : SlotsOk lan)

include isOk

theorem SlotsOk.setFlt {valid : Bool} {num : BitVec 8}
    {rule : Option Lan2lanFltRule} (isRule : rule.isSome ↔ valid)
    (counted : num.toNat + (if (lan.fltRuleHdl ip slot).valid then 1 else 0) =
      lan.validCount ip + if valid then 1 else 0) :
    SlotsOk (((lan.setRule ip (lan.fltRuleHdl ip slot).ruleHdl rule).setFltValid ip slot
      valid).setNumFltRule ip num) where
  distinct := by
    intro ip' slot' slot'' same
    have same' : ((lan.setFltValid ip slot valid).fltRuleHdl ip' slot').ruleHdl =
        ((lan.setFltValid ip slot valid).fltRuleHdl ip' slot'').ruleHdl := same
    simp only [ruleHdl_setFltValid] at same'
    exact isOk.distinct ip' slot' slot'' same'
  counted := by
    intro ip'
    rw [numFltRule_setNumFltRule]
    have slots := validCount_setFltValid
      (lan.setRule ip (lan.fltRuleHdl ip slot).ruleHdl rule) ip ip' slot valid
    change _ = ((lan.setRule ip (lan.fltRuleHdl ip slot).ruleHdl rule).setFltValid ip slot
      valid).validCount ip'
    have before : (lan.setRule ip (lan.fltRuleHdl ip slot).ruleHdl rule).validCount ip' =
        lan.validCount ip' := rfl
    have flag : (lan.setRule ip (lan.fltRuleHdl ip slot).ruleHdl rule).fltRuleHdl =
        lan.fltRuleHdl := rfl
    rw [before, flag] at slots
    by_cases sameIp : ip' = ip
    · subst sameIp
      simp only [if_true] at slots ⊢
      omega
    · rw [if_neg sameIp, if_neg sameIp] at slots
      rw [if_neg sameIp]
      exact (isOk.counted ip').trans slots.symm
  fltValid := by
    intro ip' slot'
    change ((lan.setFltValid ip slot valid).fltRuleHdl ip' slot').valid ↔
      ((lan.setRule ip (lan.fltRuleHdl ip slot).ruleHdl rule).rules ip'
        ((lan.setFltValid ip slot valid).fltRuleHdl ip' slot').ruleHdl).isSome
    rw [ruleHdl_setFltValid, valid_setFltValid, rules_setRule]
    by_cases isSlot : ip' = ip ∧ slot' = slot
    · rw [if_pos isSlot, if_pos ⟨isSlot.1, by rw [isSlot.1, isSlot.2]⟩]
      exact isRule.symm
    · have notRule :
          ¬(ip' = ip ∧ (lan.fltRuleHdl ip' slot').ruleHdl = (lan.fltRuleHdl ip slot).ruleHdl) := by
        rintro ⟨rfl, same⟩
        exact isSlot ⟨rfl, isOk.distinct ip' slot' slot same⟩
      rw [if_neg isSlot, if_neg notRule]
      exact isOk.fltValid ip' slot'
  hdrValid := isOk.hdrValid
  hdrIsIn := isOk.hdrIsIn
  below := isOk.below

theorem SlotsOk.addFlt (isFree : (lan.fltRuleHdl ip slot).valid = false)
    (rule : Lan2lanFltRule) :
    SlotsOk (((lan.setRule ip (lan.fltRuleHdl ip slot).ruleHdl (some rule)).setFltValid ip slot
      true).setNumFltRule ip (lan.numFltRule ip + 1)) := by
  apply isOk.setFlt
  · exact iff_of_true rfl rfl
  · have counted := isOk.counted ip
    have bounded := isOk.lanOk.bounded ip
    have isMax : maxOffloadPair = 3 := rfl
    have isSum : (lan.numFltRule ip + 1).toNat = (lan.numFltRule ip).toNat + 1 := by
      have isOne : BitVec.toNat (1 : BitVec 8) = 1 := rfl
      rw [BitVec.toNat_add, isOne]
      omega
    rw [isFree, isSum, if_neg Bool.false_ne_true, if_pos rfl]
    omega

theorem SlotsOk.delFlt (isValid : (lan.fltRuleHdl ip slot).valid) :
    SlotsOk (((lan.setRule ip (lan.fltRuleHdl ip slot).ruleHdl none).setFltValid ip slot
      false).setNumFltRule ip (lan.numFltRule ip - 1)) := by
  apply isOk.setFlt
  · exact iff_of_false Bool.false_ne_true Bool.false_ne_true
  · have counted := isOk.counted ip
    have isCounted : 0 < lan.validCount ip :=
      Finset.card_pos.mpr ⟨slot, Finset.mem_filter.mpr ⟨Finset.mem_univ slot, isValid⟩⟩
    have isDiff : (lan.numFltRule ip - 1).toNat = (lan.numFltRule ip).toNat - 1 := by
      have isOne : BitVec.toNat (1 : BitVec 8) = 1 := rfl
      rw [BitVec.toNat_sub, isOne]
      omega
    rw [isValid, isDiff, if_pos rfl, if_neg Bool.false_ne_true]
    omega

end Rules

section Hdrs

theorem setHdrHdl_setHdr_setHdrHdl (lan : Lan2lan μ) (ip : IpaIpType) (slot : Fin maxOffloadPair)
    (marked written : HdrHdl) (hdl : ℕ) (hdr : Option (Lan2lanHdr μ)) :
    ((lan.setHdrHdl ip slot marked).setHdr hdl hdr).setHdrHdl ip slot written =
      (lan.setHdr hdl hdr).setHdrHdl ip slot written := by
  simp [setHdrHdl, setHdr]

section

variable (isOk : SlotsOk lan)

include isOk

theorem SlotsOk.addHdr (found : lan.freeHdrSlot ip = some slot) {hdl : ℕ}
    (isFresh : lan.hdrs hdl = none) (copied : CopyHdr) (macs : Option (μ × μ)) :
    SlotsOk ((lan.setHdr hdl (some ⟨ip, slot, copied, macs⟩)).setHdrHdl ip slot ⟨hdl, true⟩) := by
  rcases freeHdrSlot_eq_some found with ⟨isFree, isBelow⟩
  have otherHdl : ∀ ip' slot', (lan.hdrHdl ip' slot').valid →
      (lan.hdrHdl ip' slot').hdrHdl ≠ hdl := by
    rintro ip' slot' isValid rfl
    rcases isOk.hdrIsIn ip' slot' isValid with ⟨hdr, isIn, _⟩
    rw [isFresh] at isIn
    cases isIn
  refine ⟨isOk.distinct, isOk.counted, isOk.fltValid, ?_, ?_, ?_⟩
  · intro hdl' hdr isIn
    rw [hdrHdl_setHdrHdl]
    by_cases isHdl : hdl' = hdl
    · subst isHdl
      have isHdr : some (⟨ip, slot, copied, macs⟩ : Lan2lanHdr μ) = some hdr := by
        simpa only [setHdrHdl, setHdr, update_self] using isIn
      cases isHdr
      exact if_pos ⟨rfl, rfl⟩
    · have wasIn : lan.hdrs hdl' = some hdr := by
        simpa only [setHdrHdl, setHdr, update_of_ne isHdl] using isIn
      have isSlot := isOk.hdrValid hdl' hdr wasIn
      rw [if_neg]
      · exact isSlot
      · rintro ⟨rfl, rfl⟩
        rw [isSlot] at isFree
        cases isFree
  · intro ip' slot' isValid
    rw [hdrHdl_setHdrHdl] at isValid ⊢
    simp only [setHdrHdl, setHdr]
    by_cases isSlot : ip' = ip ∧ slot' = slot
    · rcases isSlot with ⟨rfl, rfl⟩
      rw [if_pos ⟨rfl, rfl⟩, update_self]
      exact ⟨_, rfl, rfl, rfl⟩
    · rw [if_neg isSlot] at isValid ⊢
      rw [update_of_ne (otherHdl ip' slot' isValid)]
      exact isOk.hdrIsIn ip' slot' isValid
  · intro ip' slot' slot'' isLess isValid
    rw [hdrHdl_setHdrHdl] at isValid ⊢
    rw [hdrHdl_setHdrHdl]
    by_cases isSlot : ip' = ip ∧ slot'' = slot
    · rcases isSlot with ⟨rfl, rfl⟩
      rw [if_neg (fun same => (ne_of_lt isLess) same.2), if_pos ⟨rfl, rfl⟩]
      exact otherHdl ip' slot' (isBelow slot' isLess)
    · rw [if_neg isSlot] at isValid ⊢
      by_cases isSlot' : ip' = ip ∧ slot' = slot
      · rw [if_pos isSlot']
        exact (otherHdl ip' slot'' isValid).symm
      · rw [if_neg isSlot']
        exact isOk.below ip' slot' slot'' isLess isValid

theorem SlotsOk.delHdr (isValid : (lan.hdrHdl ip slot).valid) :
    SlotsOk ((lan.setHdr (lan.hdrHdl ip slot).hdrHdl none).setHdrHdl ip slot
      { lan.hdrHdl ip slot with valid := false }) := by
  have sameHdl : ∀ ip' slot', ((lan.setHdr (lan.hdrHdl ip slot).hdrHdl none).setHdrHdl ip slot
      { lan.hdrHdl ip slot with valid := false }).hdrHdl ip' slot' =
      if ip' = ip ∧ slot' = slot then { lan.hdrHdl ip slot with valid := false }
      else lan.hdrHdl ip' slot' :=
    fun ip' slot' => hdrHdl_setHdrHdl _ ip ip' slot slot' _
  have wasValid : ∀ {ip' slot'}, (if ip' = ip ∧ slot' = slot then
      ({ lan.hdrHdl ip slot with valid := false } : HdrHdl)
      else lan.hdrHdl ip' slot').valid →
      ¬(ip' = ip ∧ slot' = slot) ∧ (lan.hdrHdl ip' slot').valid := by
    intro ip' slot' isValid'
    split_ifs at isValid' with isSlot
    exact ⟨isSlot, isValid'⟩
  refine ⟨isOk.distinct, isOk.counted, isOk.fltValid, ?_, ?_, ?_⟩
  · intro hdl' hdr isIn
    rw [sameHdl]
    by_cases isHdl : hdl' = (lan.hdrHdl ip slot).hdrHdl
    · subst isHdl
      simp [setHdrHdl, setHdr] at isIn
    · have wasIn : lan.hdrs hdl' = some hdr := by
        simpa only [setHdrHdl, setHdr, update_of_ne isHdl] using isIn
      have isSlot := isOk.hdrValid hdl' hdr wasIn
      rw [if_neg]
      · exact isSlot
      · rintro ⟨rfl, rfl⟩
        rw [isSlot] at isHdl
        exact isHdl rfl
  · intro ip' slot' isValid'
    rw [sameHdl] at isValid' ⊢
    rcases wasValid isValid' with ⟨notSlot, isValid'⟩
    rw [if_neg notSlot]
    rcases isOk.hdrIsIn ip' slot' isValid' with ⟨hdr, isIn, isIp, isIndex⟩
    have otherHdl : (lan.hdrHdl ip' slot').hdrHdl ≠ (lan.hdrHdl ip slot).hdrHdl := by
      intro same
      rcases isOk.hdrIsIn ip slot isValid with ⟨hdr', isIn', isIp', isIndex'⟩
      rw [same, isIn'] at isIn
      cases isIn
      exact notSlot ⟨isIp.symm.trans isIp', isIndex.symm.trans isIndex'⟩
    refine ⟨hdr, ?_, isIp, isIndex⟩
    simpa only [setHdrHdl, setHdr, update_of_ne otherHdl] using isIn
  · intro ip' slot' slot'' isLess isValid'
    rw [sameHdl] at isValid'
    rcases wasValid isValid' with ⟨notSlot, isValid'⟩
    rw [sameHdl ip' slot'', if_neg notSlot, sameHdl]
    have isBelow := isOk.below ip' slot' slot'' isLess isValid'
    split_ifs with isSlot
    · rcases isSlot with ⟨rfl, rfl⟩
      exact isBelow
    · exact isBelow

theorem SlotsOk.hdrSlotOf_live {hdl : ℕ} {hdr : Lan2lanHdr μ}
    (isIn : lan.hdrs hdl = some hdr) : lan.hdrSlotOf hdr.ip hdl = some hdr.index := by
  have isSlot := isOk.hdrValid hdl hdr isIn
  refine Fin.find?_eq_some_iff.mpr ⟨decide_eq_true (by rw [isSlot]), fun slot isLess => ?_⟩
  have isBelow := isOk.below hdr.ip slot hdr.index isLess (by rw [isSlot])
  rw [isSlot] at isBelow
  simpa using isBelow

theorem SlotsOk.not_valid_of_gone
    (isGone : lan.hdrs (lan.hdrHdl ip slot).hdrHdl = none) : (lan.hdrHdl ip slot).valid =
      false := by
  by_contra isValid
  rw [Bool.not_eq_false] at isValid
  rcases isOk.hdrIsIn ip slot isValid with ⟨hdr, isIn, _⟩
  rw [isGone] at isIn
  cases isIn

end

theorem setHdr_none {hdl : ℕ} (isGone : lan.hdrs hdl = none) : lan.setHdr hdl none = lan := by
  rw [setHdr, ← isGone, update_eq_self]

theorem setHdrHdl_invalid (isInvalid : (lan.hdrHdl ip slot).valid = false) :
    lan.setHdrHdl ip slot { lan.hdrHdl ip slot with valid := false } = lan := by
  have same : ({ lan.hdrHdl ip slot with valid := false } : HdrHdl) = lan.hdrHdl ip slot := by
    rw [← isInvalid]
  rw [setHdrHdl, same, update_eq_self, update_eq_self]

end Hdrs

end Lan2lan

end HtcPme.Ipacm
