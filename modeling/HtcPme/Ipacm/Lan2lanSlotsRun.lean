import HtcPme.Foundation.Run
import HtcPme.Ipacm.Lan2lanSlotsOk

/-!
# Runs over the LAN-to-LAN slots

The deletion of a rule does not look at the flag of its slot, and that of a header looks among those
of one IP type only.
-/

namespace HtcPme.Ipacm

inductive Lan2lanOp (μ : Type*) where
  | addFltRule (env : Lan2lanFltEnv) (iptype : Option IpaIpType)
  | delFltRule (reset : Bool) (iptype : Option IpaIpType) (ruleHdl : ℕ)
  | addHdr (env : Lan2lanHdrEnv μ) (iptype : Option IpaIpType)
  | delHdr (deleted : Bool) (iptype : Option IpaIpType) (hdrHdl : ℕ)

namespace Lan2lan

variable {μ : Type*} {lan : Lan2lan μ}

section Calls

def DelFltCondition (lan : Lan2lan μ) (reset : Bool) (iptype : Option IpaIpType) (ruleHdl : ℕ) :
    Prop :=
  ∀ ip ∈ iptype, ∀ slot ∈ lan.fltSlotOf ip ruleHdl, reset → (lan.fltRuleHdl ip slot).valid

def AddHdrCondition (limits : HdrLimits) (lan : Lan2lan μ) (env : Lan2lanHdrEnv μ)
    (iptype : Option IpaIpType) : Prop :=
  ∀ ip ∈ iptype, ∀ txProp ∈ env.txProp, ∀ prop ∈ txProp.find? (·.ip = ip),
    ∀ copied ∈ env.copyHeader prop.hdrName, env.srcMac.isSome → env.dstMac.isSome →
      env.hasHdrHdl → env.allocated → copied.hdr.length ≤ limits.ipaHdrMaxSize →
        (lan.freeHdrSlot ip).isSome → env.addHeader.isSome

def DelHdrCondition (lan : Lan2lan μ) (deleted : Bool) (iptype : Option IpaIpType)
    (hdrHdl : ℕ) : Prop :=
  deleted → ∀ hdr ∈ lan.hdrs hdrHdl, iptype = some hdr.ip

structure SameSlots (lan lan' : Lan2lan μ) : Prop where
  fltRuleHdl : lan'.fltRuleHdl = lan.fltRuleHdl
  numFltRule : lan'.numFltRule = lan.numFltRule
  hdrHdl : lan'.hdrHdl = lan.hdrHdl

structure Keeps (lan : Lan2lan μ) (result : Lan2lanResult μ) : Prop where
  lanOk : LanOk result.lan
  failed : result.ret = ipacmFailure → SameSlots lan result.lan

variable {limits : HdrLimits} {iptype : Option IpaIpType}

theorem SlotsOk.keeps_refl (isOk : SlotsOk lan) (ret : ℤ) (hdl : Option ℕ) :
    Keeps lan ⟨ret, hdl, lan⟩ ∧ SlotsOk lan :=
  ⟨⟨isOk.lanOk, fun _ => ⟨rfl, rfl, rfl⟩⟩, isOk⟩

theorem SlotsOk.keeps_success {lan' : Lan2lan μ} (isOk : SlotsOk lan') (lan : Lan2lan μ)
    (hdl : Option ℕ) : Keeps lan ⟨ipacmSuccess, hdl, lan'⟩ ∧ SlotsOk lan' :=
  ⟨⟨isOk.lanOk, fun failed => by cases failed⟩, isOk⟩

theorem SlotsOk.addLan2lanFltRule (isOk : SlotsOk lan) (env : Lan2lanFltEnv)
    (iptype : Option IpaIpType) :
    Keeps lan (lan.addLan2lanFltRule env iptype) ∧
      SlotsOk (lan.addLan2lanFltRule env iptype).lan := by
  have left : Keeps lan lan.failure ∧ SlotsOk lan.failure.lan := isOk.keeps_refl _ _
  unfold Lan2lan.addLan2lanFltRule
  cases env.rxProp with
  | none => exact left
  | some attrib =>
      simp only
      split
      · cases iptype with
        | none => exact left
        | some ip =>
            simp only
            split
            · exact left
            · split
              · rename_i slot _ _ found
                split
                · exact (isOk.addFlt (freeFltSlot_eq_some found) _).keeps_success lan _
                · exact left
              · exact left
      · exact left

variable {reset : Bool} {ruleHdl : ℕ} {env : Lan2lanHdrEnv μ} {deleted : Bool}

theorem SlotsOk.delLan2lanFltRule (isOk : SlotsOk lan)
    (condition : lan.DelFltCondition reset iptype ruleHdl) :
    Keeps lan (lan.delLan2lanFltRule reset iptype ruleHdl) ∧
      SlotsOk (lan.delLan2lanFltRule reset iptype ruleHdl).lan := by
  have left : Keeps lan lan.failure ∧ SlotsOk lan.failure.lan := isOk.keeps_refl _ _
  unfold Lan2lan.delLan2lanFltRule
  cases iptype with
  | none => exact left
  | some ip =>
      simp only
      cases found : lan.fltSlotOf ip ruleHdl with
      | none => exact left
      | some slot =>
          simp only
          split
          · rename_i isReset
            have isValid := condition ip rfl slot found isReset
            have deleted := isOk.delFlt isValid
            rw [fltSlotOf_eq_some found] at deleted
            exact deleted.keeps_success lan _
          · exact left

theorem SlotsOk.not_keeps_delLan2lanFltRule (isOk : SlotsOk lan)
    (condition : ¬lan.DelFltCondition reset iptype ruleHdl) :
    ¬Keeps lan (lan.delLan2lanFltRule reset iptype ruleHdl) := by
  simp only [DelFltCondition, not_forall] at condition
  rcases condition with ⟨ip, rfl, slot, found, isReset, notValid⟩
  rw [Option.mem_def] at found
  rw [Bool.not_eq_true] at notValid
  intro keeps
  have counted := keeps.lanOk.counted ip
  simp only [Lan2lan.delLan2lanFltRule, found, if_pos isReset] at counted
  have slots := validCount_setFltValid (lan.setRule ip ruleHdl none) ip ip slot false
  have flag : (lan.setRule ip ruleHdl none).fltRuleHdl = lan.fltRuleHdl := rfl
  rw [flag, notValid] at slots
  simp only [if_true, Bool.false_eq_true, if_false, Nat.add_zero] at slots
  rw [numFltRule_setNumFltRule, if_pos rfl] at counted
  have same : (lan.numFltRule ip - 1).toNat = (lan.numFltRule ip).toNat :=
    (counted.trans slots).trans (isOk.counted ip).symm
  have isOne : BitVec.toNat (1 : BitVec 8) = 1 := rfl
  rw [BitVec.toNat_sub, isOne] at same
  omega

theorem hdrNameLength_le (limits : HdrLimits) (ip : IpaIpType) (index : Fin maxOffloadPair) :
    hdrNameLength limits ip index ≤ limits.ipaResourceNameMax := by
  have isDigit : (toString index.val).length = 1 := by
    revert index
    decide
  have isPos := limits.namePos
  rw [hdrNameLength, isDigit]
  omega

theorem SlotsOk.addLan2lanHdr (isOk : SlotsOk lan)
    (isFresh : ∀ hdl ∈ env.addHeader, lan.hdrs hdl = none)
    (condition : lan.AddHdrCondition limits env iptype) :
    Keeps lan (lan.addLan2lanHdr limits env iptype) ∧
      SlotsOk (lan.addLan2lanHdr limits env iptype).lan := by
  have left : Keeps lan lan.failure ∧ SlotsOk lan.failure.lan := isOk.keeps_refl _ _
  unfold Lan2lan.addLan2lanHdr
  split
  · rename_i txProp srcMac dstMac isTx isSrc isDst
    split
    · rename_i isReady
      cases iptype with
      | none => exact isOk.keeps_refl _ _
      | some ip =>
          simp only
          cases isProp : txProp.find? (·.ip = ip) with
          | none => exact isOk.keeps_refl _ _
          | some prop =>
              simp only
              cases isCopied : env.copyHeader prop.hdrName with
              | none => exact left
              | some copied =>
                  simp only
                  split
                  · exact left
                  · rename_i notOversize
                    cases found : lan.freeHdrSlot ip with
                    | none => exact left
                    | some slot =>
                        have isAdded := condition ip rfl txProp isTx prop isProp copied isCopied
                          (by rw [isSrc]; rfl) (by rw [isDst]; rfl) isReady.1 isReady.2
                          (Nat.le_of_not_lt notOversize) (by rw [found]; rfl)
                        rcases Option.isSome_iff_exists.mp isAdded with ⟨hdl, isHdl⟩
                        have added := isOk.addHdr found (isFresh hdl isHdl) copied
                          (copied.eth2Ofst.map fun _ => (dstMac, srcMac))
                        simp only [isHdl, if_neg (Nat.not_lt.mpr (hdrNameLength_le limits ip slot)),
                          setHdrHdl_setHdr_setHdrHdl]
                        exact added.keeps_success lan _
    · exact left
  · exact left

theorem SlotsOk.not_keeps_addLan2lanHdr (condition : ¬lan.AddHdrCondition limits env iptype) :
    ¬Keeps lan (lan.addLan2lanHdr limits env iptype) := by
  simp only [AddHdrCondition, not_forall] at condition
  rcases condition with ⟨ip, isIp, txProp, isTx, prop, isProp, copied, isCopied, isSrc,
    isDst, hasHdl,
    allocated, notOversize, isFree, notAdded⟩
  rcases Option.isSome_iff_exists.mp isSrc with ⟨srcMac, isSrc⟩
  rcases Option.isSome_iff_exists.mp isDst with ⟨dstMac, isDst⟩
  rcases Option.isSome_iff_exists.mp isFree with ⟨slot, found⟩
  rw [Option.mem_def] at isIp isTx isProp isCopied
  rw [Option.not_isSome_iff_eq_none] at notAdded
  intro keeps
  have failed := keeps.failed
  simp only [Lan2lan.addLan2lanHdr, isIp, isTx, isSrc, isDst, hasHdl, allocated, isProp, isCopied,
    found, notAdded, and_self, if_true, if_neg (Nat.not_lt.mpr notOversize), ite_self] at failed
  have same := congrFun (congrFun (failed rfl).hdrHdl ip) slot
  have isMarked : (lan.setHdrHdl ip slot { lan.hdrHdl ip slot with valid := true }).hdrHdl ip slot =
      { lan.hdrHdl ip slot with valid := true } := by
    rw [hdrHdl_setHdrHdl, if_pos ⟨rfl, rfl⟩]
  have wasFree := (freeHdrSlot_eq_some found).1
  have isValid := congrArg HdrHdl.valid (isMarked.symm.trans same)
  rw [wasFree] at isValid
  cases isValid

theorem SlotsOk.delLan2lanHdr (isOk : SlotsOk lan) {hdl : ℕ}
    (condition : lan.DelHdrCondition deleted iptype hdl) :
    Keeps lan (lan.delLan2lanHdr deleted iptype hdl) ∧
      SlotsOk (lan.delLan2lanHdr deleted iptype hdl).lan := by
  have left : Keeps lan lan.failure ∧ SlotsOk lan.failure.lan := isOk.keeps_refl _ _
  unfold Lan2lan.delLan2lanHdr
  split
  · rename_i isDeleted
    cases isIn : lan.hdrs hdl with
    | none =>
        simp only [setHdr_none isIn]
        cases iptype with
        | none => exact left
        | some ip =>
            simp only
            cases found : lan.hdrSlotOf ip hdl with
            | none => exact left
            | some slot =>
                have isGone : lan.hdrs (lan.hdrHdl ip slot).hdrHdl = none := by
                  rw [(hdrSlotOf_eq_some found).1]
                  exact isIn
                simp only [setHdrHdl_invalid (isOk.not_valid_of_gone isGone)]
                exact isOk.keeps_refl _ _
    | some hdr =>
        have isIp := condition isDeleted hdr isIn
        subst isIp
        have found : (lan.setHdr hdl none).hdrSlotOf hdr.ip hdl = some hdr.index :=
          isOk.hdrSlotOf_live isIn
        have isSlot := isOk.hdrValid hdl hdr isIn
        have isValid : (lan.hdrHdl hdr.ip hdr.index).valid := by rw [isSlot]
        have deleted := isOk.delHdr isValid
        rw [show (lan.hdrHdl hdr.ip hdr.index).hdrHdl = hdl by rw [isSlot]] at deleted
        simp only [found]
        exact deleted.keeps_success lan _
  · exact left

theorem SlotsOk.not_keeps_delLan2lanHdr (isOk : SlotsOk lan) {hdl : ℕ}
    (condition : ¬lan.DelHdrCondition deleted iptype hdl) :
    ¬Keeps lan (lan.delLan2lanHdr deleted iptype hdl) := by
  simp only [DelHdrCondition, not_forall] at condition
  rcases condition with ⟨isDeleted, hdr, isIn, notIp⟩
  have isSlot := isOk.hdrValid hdl hdr isIn
  intro keeps
  have hdrValid := keeps.lanOk.hdrValid hdr.ip hdr.index
  have isGone : (lan.delLan2lanHdr deleted iptype hdl).lan.hdrs =
      Function.update lan.hdrs hdl none := by
    unfold Lan2lan.delLan2lanHdr
    rw [if_pos isDeleted]
    cases iptype with
    | none => rfl
    | some ip =>
        simp only
        split <;> rfl
  have isKept : (lan.delLan2lanHdr deleted iptype hdl).lan.hdrHdl hdr.ip hdr.index =
      lan.hdrHdl hdr.ip hdr.index := by
    unfold Lan2lan.delLan2lanHdr
    rw [if_pos isDeleted]
    cases iptype with
    | none => rfl
    | some ip =>
        simp only
        split
        · rfl
        · simp only
          rw [hdrHdl_setHdrHdl, if_neg]
          · rfl
          · rintro ⟨rfl, _⟩
            exact notIp rfl
  rw [isKept, isSlot] at hdrValid
  rcases hdrValid.mp rfl with ⟨hdl', hdr', isIn', isIp, isIndex⟩
  rw [isGone] at isIn'
  by_cases isHdl : hdl' = hdl
  · subst isHdl
    simp at isIn'
  · rw [Function.update_of_ne isHdl] at isIn'
    have isSlot' := isOk.hdrValid hdl' hdr' isIn'
    rw [isIp, isIndex, isSlot] at isSlot'
    cases isSlot'
    exact isHdl rfl

end Calls

section Runs

variable {limits : HdrLimits} {op : Lan2lanOp μ}

structure IsInit (lan : Lan2lan μ) : Prop where
  distinct : ∀ ip slot slot',
    (lan.fltRuleHdl ip slot).ruleHdl = (lan.fltRuleHdl ip slot').ruleHdl → slot = slot'
  fltFree : ∀ ip slot, (lan.fltRuleHdl ip slot).valid = false
  numFltRule : ∀ ip, lan.numFltRule ip = 0
  hdrFree : ∀ ip slot, (lan.hdrHdl ip slot).valid = false
  rules : ∀ ip ruleHdl, lan.rules ip ruleHdl = none
  hdrs : ∀ hdl, lan.hdrs hdl = none

theorem IsInit.slotsOk (isInit : IsInit lan) : SlotsOk lan where
  distinct := isInit.distinct
  counted := by
    intro ip
    rw [isInit.numFltRule ip, validCount, SlotCount.count_eq_zero]
    · rfl
    · intro slot
      simp [isInit.fltFree ip slot]
  fltValid := by
    intro ip slot
    simp [isInit.fltFree ip slot, isInit.rules]
  hdrValid := by simp [isInit.hdrs]
  hdrIsIn := by simp [isInit.hdrFree]
  below := by simp [isInit.hdrFree]

def call (limits : HdrLimits) (lan : Lan2lan μ) : Lan2lanOp μ → Lan2lanResult μ
  | .addFltRule env iptype => lan.addLan2lanFltRule env iptype
  | .delFltRule reset iptype ruleHdl => lan.delLan2lanFltRule reset iptype ruleHdl
  | .addHdr env iptype => lan.addLan2lanHdr limits env iptype
  | .delHdr deleted iptype hdrHdl => lan.delLan2lanHdr deleted iptype hdrHdl

def Fresh (lan : Lan2lan μ) : Lan2lanOp μ → Prop
  | .addHdr env _ => ∀ hdl ∈ env.addHeader, lan.hdrs hdl = none
  | .addFltRule _ _ | .delFltRule _ _ _ | .delHdr _ _ _ => True

def Step (limits : HdrLimits) (lan : Lan2lan μ) (op : Lan2lanOp μ) (lan' : Lan2lan μ) : Prop :=
  lan.Fresh op ∧ (lan.call limits op).lan = lan'

/-- A rule is deleted from a valid slot, the request for a header succeeds, and a header is deleted
under its IP type. -/
def Condition (limits : HdrLimits) (lan : Lan2lan μ) : Lan2lanOp μ → Prop
  | .addFltRule _ _ => True
  | .delFltRule reset iptype ruleHdl => lan.DelFltCondition reset iptype ruleHdl
  | .addHdr env iptype => lan.AddHdrCondition limits env iptype
  | .delHdr deleted iptype hdrHdl => lan.DelHdrCondition deleted iptype hdrHdl

theorem SlotsOk.call (isOk : SlotsOk lan) (isFresh : lan.Fresh op)
    (condition : lan.Condition limits op) :
    Keeps lan (lan.call limits op) ∧ SlotsOk (lan.call limits op).lan := by
  cases op with
  | addFltRule env iptype => exact isOk.addLan2lanFltRule env iptype
  | delFltRule reset iptype ruleHdl => exact isOk.delLan2lanFltRule condition
  | addHdr env iptype => exact isOk.addLan2lanHdr isFresh condition
  | delHdr deleted iptype hdrHdl => exact isOk.delLan2lanHdr condition

theorem SlotsOk.keeps_iff (isOk : SlotsOk lan) (isFresh : lan.Fresh op) :
    Keeps lan (lan.call limits op) ↔ lan.Condition limits op := by
  refine ⟨fun keeps => ?_, fun condition => (isOk.call isFresh condition).1⟩
  by_contra notMet
  cases op with
  | addFltRule env iptype => exact notMet trivial
  | delFltRule reset iptype ruleHdl => exact isOk.not_keeps_delLan2lanFltRule notMet keeps
  | addHdr env iptype => exact SlotsOk.not_keeps_addLan2lanHdr notMet keeps
  | delHdr deleted iptype hdrHdl => exact isOk.not_keeps_delLan2lanHdr notMet keeps

theorem reachable_slotsOk
    (reached : Run.Reachable IsInit (Run.Guarded (Condition limits) (Step limits)) lan) :
    SlotsOk lan := by
  apply reached.invariant SlotsOk
  · intro lan isInit
    exact isInit.slotsOk
  · rintro lan op _ isOk ⟨condition, isFresh, rfl⟩
    exact (isOk.call isFresh condition).2

/-- In a run whose calls meet the condition the counters are right and a slot is valid if and only
if its rule or header is there; and exactly the calls that meet it keep this. -/
theorem reachable_lanOk
    (reached : Run.Reachable IsInit (Run.Guarded (Condition limits) (Step limits)) lan) :
    LanOk lan ∧
      ∀ op, lan.Fresh op → (Keeps lan (lan.call limits op) ↔ lan.Condition limits op) :=
  ⟨(reachable_slotsOk reached).lanOk, fun _ isFresh =>
    (reachable_slotsOk reached).keeps_iff isFresh⟩

theorem namePos32 : 0 < 32 := by decide

def limits32 : HdrLimits := ⟨32, 255, namePos32⟩

def dummyLan : Lan2lan ℕ where
  fltRuleHdl := fun _ slot => ⟨slot, false⟩
  numFltRule := fun _ => 0
  hdrHdl := fun _ _ => ⟨0, false⟩
  rules := fun _ _ => none
  hdrs := fun _ => none

def oneRule : Lan2lanFltEnv where
  rxProp := some ⟨false, 0⟩
  srcV4Addr := 1
  dstV4Addr := 2
  srcV6Addr := none
  dstV6Addr := none
  hasRuleHdl := true
  allocated := true
  rtTblHdl := some 7
  modified := true

def oneHdr (addHeader : Option ℕ) : Lan2lanHdrEnv ℕ where
  txProp := some [⟨.v4, "usb_v4"⟩]
  srcMac := some 1
  dstMac := some 2
  hasHdrHdl := true
  allocated := true
  copyHeader := fun _ => some ⟨[], some 0⟩
  addHeader := addHeader

theorem dummyLan_isInit : IsInit dummyLan where
  distinct := fun _ _ _ same => Fin.ext same
  fltFree := fun _ _ => rfl
  numFltRule := fun _ => rfl
  hdrFree := fun _ _ => rfl
  rules := fun _ _ => rfl
  hdrs := fun _ => rfl

theorem reachable_lanOk_ruleAndHdr :
    let rule := (dummyLan.call limits32 (.addFltRule oneRule (some .v4))).lan
    let lan := (rule.call limits32 (.addHdr (oneHdr (some 9)) (some .v4))).lan
    Keeps lan (lan.call limits32 (.delFltRule true (some .v4) 0)) ∧
      ¬Keeps lan (lan.call limits32 (.delHdr true (some .v6) 9)) := by
  intro rule lan
  have reached : Run.Reachable IsInit (Run.Guarded (Condition limits32) (Step limits32)) lan :=
    .next (.addHdr (oneHdr (some 9)) (some .v4))
      (.next (.addFltRule oneRule (some .v4)) (.start dummyLan_isInit) ⟨trivial, trivial, rfl⟩)
      ⟨fun _ _ _ _ _ _ _ _ _ _ _ _ _ _ => rfl, fun _ _ => rfl, rfl⟩
  have kept := reachable_lanOk reached
  refine ⟨(kept.2 (.delFltRule true (some .v4) 0) trivial).mpr ?_, fun keeps => ?_⟩
  · rintro ip isIp slot isSlot -
    cases isIp
    cases isSlot
    rfl
  · have isIp := (kept.2 (.delHdr true (some .v6) 9) trivial).mp keeps rfl _ rfl
    cases isIp

/-- The request for a header fails, and its slot stays valid. -/
theorem not_lanOk :
    ¬∀ lan : Lan2lan ℕ, Run.Reachable IsInit (Step limits32) lan →
      ∀ op, lan.Fresh op → Keeps lan (lan.call limits32 op) := by
  intro keeps
  have kept := keeps dummyLan (.start dummyLan_isInit) (.addHdr (oneHdr none) (some .v4))
    (fun _ isAdded => by cases isAdded)
  have isValid : ((dummyLan.call limits32 (.addHdr (oneHdr none) (some .v4))).lan.hdrHdl .v4
      ⟨0, by decide⟩).valid := rfl
  rcases (kept.lanOk.hdrValid _ _).mp isValid with ⟨_, _, isIn, _⟩
  cases isIn

end Runs

end Lan2lan

end HtcPme.Ipacm
