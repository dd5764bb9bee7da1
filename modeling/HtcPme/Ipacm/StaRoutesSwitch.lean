import HtcPme.Ipacm.StaRoutesClients

/-!
# Switches of the mode

A switch writes over the rules of the default routes, first for IPv4 and then for IPv6, and then
over those of the clients.
-/

namespace HtcPme.Ipacm

open HandleTable List

namespace StaRoutes

variable {μ : Type*} (sta : StaRoutes μ)

def Taken (sta : StaRoutes μ) : Prop :=
  sta.backhaulIsStaMode = true ∧ sta.iface.hasTxProp = true ∧ sta.isDefaultGateway = true

instance : Decidable (Taken sta) := inferInstanceAs (Decidable (_ ∧ _))

def dftPhase (isSccMode : Bool) (ip : IpaIpType) : List (ℕ × WanRtSpec) :=
  if sta.hasIp ip then sta.dftWrites isSccMode ip else []

def clientPhase (ip : IpaIpType) : List (ℕ × WanRtSpec) :=
  if sta.hasIp ip then (List.range sta.numWanClient).flatMap (sta.clientWrites ip) else []

def switchWrites (isSccMode : Bool) : List (ℕ × WanRtSpec) :=
  (sta.dftPhase isSccMode .v4 ++ sta.dftPhase isSccMode .v6) ++
    (sta.clientPhase .v4 ++ sta.clientPhase .v6)

theorem switch_of_taken (isTaken : Taken sta) (isSccMode : Bool) :
    sta.switch isSccMode = { sta with
      kernel := sta.kernel.writeAll WanRtRule.write (sta.switchWrites isSccMode) } := by
  rcases isTaken with ⟨isSta, hasTx, isGateway⟩
  rw [switchWrites, writeAll_append, writeAll_append,
    writeAll_append, switch, if_pos isSta]
  cases isV4 : sta.hasIp .v4 with
  | false =>
      cases isV6 : sta.hasIp .v6 with
      | false =>
          simp only [dftPhase, clientPhase, isV4, isV6, Bool.false_eq_true, if_false]
          rfl
      | true =>
          simp only [handleWlanSccMccSwitch, handleWanClientSccMccSwitch, hasTx, isGateway,
            dftPhase, clientPhase, isV4, isV6, Bool.false_eq_true, if_false, and_self, if_true]
          rfl
  | true =>
      cases isV6 : sta.hasIp .v6 <;>
        simp only [handleWlanSccMccSwitch, handleWanClientSccMccSwitch, hasTx, isGateway,
          dftPhase, clientPhase, isV4, isV6, Bool.false_eq_true, if_false, and_self, if_true] <;>
        rfl

theorem switch_of_not_taken (notTaken : ¬Taken sta) (isSccMode : Bool) :
    sta.switch isSccMode = sta := by
  have notWritten (sta : StaRoutes μ) (notBoth : ¬(sta.iface.hasTxProp = true ∧
      sta.isDefaultGateway = true)) (ip : IpaIpType) :
      sta.handleWlanSccMccSwitch isSccMode ip = sta ∧ sta.handleWanClientSccMccSwitch ip = sta :=
    ⟨if_neg notBoth, if_neg notBoth⟩
  rw [switch]
  split
  · rename_i isSta
    have notBoth : ¬(sta.iface.hasTxProp = true ∧ sta.isDefaultGateway = true) :=
      fun isBoth => notTaken ⟨isSta, isBoth⟩
    have kept := notWritten sta notBoth
    split <;> simp only [(kept _).1, (kept _).2]
  · rfl

/-- What is written over the rule of a client in `rt_tbl_wan_v6`. -/
def wanWrite (cltIndx txIndex numV6 : ℕ) : WanRtSpec :=
  ⟨sta.pipe sta.isMccMode txIndex, (sta.wanClient cltIndx).hdrHdl .v6,
    some (sta.iface.tx txIndex).attrib, some (.v6 ((sta.wanClient cltIndx).v6Addr numV6))⟩

variable {sta} {write : ℕ × WanRtSpec}

theorem mem_dftPhase {ip : IpaIpType} : write ∈ sta.dftPhase (!sta.isMccMode) ip ↔
    sta.hasIp ip = true ∧ ∃ txIndex ∈ sta.iface.indices ip,
      (sta.rtRuleHdl (.dft ip txIndex), sta.spec (.dft ip txIndex)) = write := by
  have sameSpec (txIndex : ℕ) : sta.spec (.dft ip txIndex) =
      ⟨if !sta.isMccMode then (sta.iface.tx txIndex).dstPipe else (sta.iface.tx txIndex).altDstPipe,
        sta.hdrHdlSta ip, some (sta.iface.tx txIndex).attrib, none⟩ := by
    cases isMcc : sta.isMccMode <;> simp [spec, pipe, isMcc]
  rw [dftPhase]
  split
  · rename_i hasIp
    simp only [dftWrites, mem_map, hasIp, true_and, sameSpec]
  · rename_i notIp
    simp [notIp]

theorem TableOk.mem_clientPhase_v4 (isOk : TableOk sta) : write ∈ sta.clientPhase .v4 ↔
    sta.hasIp .v4 = true ∧ ∃ cltIndx txIndex, sta.Live (.clientV4 cltIndx txIndex) ∧
      (sta.rtRuleHdl (.clientV4 cltIndx txIndex), sta.spec (.clientV4 cltIndx txIndex)) =
        write := by
  rw [clientPhase]
  split
  · rename_i hasIp
    simp only [mem_flatMap, mem_range, hasIp, true_and]
    constructor
    · rintro ⟨cltIndx, isClient, isIn⟩
      rw [clientWrites] at isIn
      split at isIn
      · cases isIn
      · rename_i isSet
        simp only [not_or, Bool.not_eq_false] at isSet
        rcases mem_map.mp isIn with ⟨txIndex, isTx, isWrite⟩
        exact ⟨cltIndx, txIndex, ⟨isClient, isSet.1, isTx⟩, isWrite⟩
    · rintro ⟨cltIndx, txIndex, ⟨isClient, isSet, isTx⟩, isWrite⟩
      refine ⟨cltIndx, isClient, ?_⟩
      have hasAddr := isOk.setV4 cltIndx isClient isSet
      simp only [clientWrites, isSet, hasAddr, Bool.true_eq_false, or_self, if_false]
      exact mem_map.mpr ⟨txIndex, isTx, isWrite⟩
  · rename_i notIp
    simp [notIp]

theorem mem_clientPhase_v6 : write ∈ sta.clientPhase .v6 ↔
    sta.hasIp .v6 = true ∧ ∃ cltIndx txIndex numV6, sta.Live (.clientV6Wan cltIndx txIndex numV6) ∧
      (sta.rtRuleHdl (.clientV6Wan cltIndx txIndex numV6), sta.wanWrite cltIndx txIndex numV6) =
        write := by
  rw [clientPhase]
  split
  · rename_i hasIp
    simp only [mem_flatMap, mem_range, hasIp, true_and, clientWrites, mem_map]
    constructor
    · rintro ⟨cltIndx, isClient, txIndex, isTx, numV6, isSet, isWrite⟩
      exact ⟨cltIndx, txIndex, numV6, ⟨isClient, isSet, isTx⟩, isWrite⟩
    · rintro ⟨cltIndx, txIndex, numV6, ⟨isClient, isSet, isTx⟩, isWrite⟩
      exact ⟨cltIndx, isClient, txIndex, isTx, numV6, isSet, isWrite⟩
  · rename_i notIp
    simp [notIp]

variable (sta) in
def PipesAgree : WanRtSlot → Prop
  | .dft _ txIndex | .clientV4 _ txIndex | .clientV6 _ txIndex _ =>
      (sta.iface.tx txIndex).dstPipe = (sta.iface.tx txIndex).altDstPipe
  | .dftA5 | .clientV6Wan _ _ _ => True

def DftHits (sta : StaRoutes μ) (entry : ℕ × WanRtRule) (ip : IpaIpType) (txIndex : ℕ) : Prop :=
  sta.hasIp ip = true ∧ txIndex ∈ sta.iface.indices ip ∧ sta.rtRuleHdl (.dft ip txIndex) = entry.1

/-- A rule has the right pipe or is written over, through no handle but that of its own route. A
write for IPv4 does no harm to a rule that one for IPv6 is made to. -/
structure DftSwitchOk (sta : StaRoutes μ) (entry : ℕ × WanRtRule) : Prop where
  isRight : sta.PipesAgree entry.2.slot ∨ ∃ ip txIndex, DftHits sta entry ip txIndex
  isOwn : ∀ ip txIndex, DftHits sta entry ip txIndex →
    entry.2.slot = .dft ip txIndex ∨ ip = .v4 ∧ ∃ txIndex', DftHits sta entry .v6 txIndex'

/-- The rules of clients are written over after those of default routes, in `rt_tbl_wan_v6` with
the pipe of the mode and the header of the client. -/
def RuleSwitchOk (sta : StaRoutes μ) (entry : ℕ × WanRtRule) : Prop :=
  match entry.2.slot with
  | .clientV4 _ _ => sta.hasIp .v4 = false → DftSwitchOk sta entry
  | .clientV6Wan cltIndx txIndex _ =>
      (sta.hasIp .v6 = false → DftSwitchOk sta entry) ∧
        (sta.hasIp .v6 = true → sta.pipe sta.isMccMode txIndex = sta.iface.excpPipe ∧
          (sta.wanClient cltIndx).hdrHdl .v6 = 0)
  | .dft _ _ | .dftA5 | .clientV6 _ _ _ => DftSwitchOk sta entry

/-- If a switch is taken then it ends right for every rule. Otherwise no pipe depends on the
mode. -/
structure SwitchOk (sta : StaRoutes μ) : Prop where
  taken : Taken sta → ∀ entry ∈ sta.kernel.rules, RuleSwitchOk sta entry
  notTaken : ¬Taken sta → ∀ entry ∈ sta.kernel.rules, sta.PipesAgree entry.2.slot

variable {entry : ℕ × WanRtRule} {writes : List (ℕ × WanRtSpec)}

theorem slot_settle {hdl : ℕ} {rule : WanRtRule} :
    (settle WanRtRule.write hdl writes rule).slot = rule.slot :=
  settle_preserves fun _ _ => rfl

theorem settle_write (hdl : ℕ) (writes : List (ℕ × WanRtSpec)) (rule : WanRtRule) :
    ∃ spec, settle WanRtRule.write hdl writes rule =
      ⟨rule.slot, rule.rtTblName, spec⟩ := by
  have rtTblName : (settle WanRtRule.write hdl writes rule).rtTblName =
      rule.rtTblName := settle_preserves fun _ _ => rfl
  exact ⟨_, by rw [← slot_settle, ← rtTblName]⟩

variable {slot : WanRtSlot} {old : WanRtSpec}

theorem settle_of_writes {old spec : WanRtSpec}
    (agree : ∀ write ∈ writes, write.1 = entry.1 → write.2 = spec)
    (isHit : ∃ write ∈ writes, write.1 = entry.1) :
    settle WanRtRule.write entry.1 writes ⟨slot, rtTblName slot, old⟩ =
      ⟨slot, rtTblName slot, spec⟩ :=
  settle_of_hit (fun _ => rfl) agree isHit

theorem DftSwitchOk.settle (switchOk : DftSwitchOk sta entry)
    (isOld : sta.PipesAgree entry.2.slot → old = sta.spec entry.2.slot) :
    settle WanRtRule.write entry.1
        (sta.dftPhase (!sta.isMccMode) .v4 ++ sta.dftPhase (!sta.isMccMode) .v6)
        ⟨entry.2.slot, rtTblName entry.2.slot, old⟩ = sta.rule entry.2.slot := by
  have hits {ip : IpaIpType} {write : ℕ × WanRtSpec}
      (isIn : write ∈ sta.dftPhase (!sta.isMccMode) ip) (isHdl : write.1 = entry.1) :
      ∃ txIndex, DftHits sta entry ip txIndex ∧ sta.spec (.dft ip txIndex) = write.2 := by
    rcases mem_dftPhase.mp isIn with ⟨hasIp, txIndex, isTx, rfl⟩
    exact ⟨txIndex, ⟨hasIp, isTx, isHdl⟩, rfl⟩
  have isWritten {ip : IpaIpType} {txIndex : ℕ} (isHit : DftHits sta entry ip txIndex) :
      ∃ write ∈ sta.dftPhase (!sta.isMccMode) ip, write.1 = entry.1 :=
    ⟨_, mem_dftPhase.mpr ⟨isHit.1, txIndex, isHit.2.1, rfl⟩, isHit.2.2⟩
  have unhit {ip : IpaIpType} (notHit : ∀ txIndex, ¬DftHits sta entry ip txIndex) :
      ∀ write ∈ sta.dftPhase (!sta.isMccMode) ip, write.1 ≠ entry.1 := by
    intro write isIn isHdl
    rcases hits isIn isHdl with ⟨txIndex, isHit, -⟩
    exact notHit txIndex isHit
  rw [settle_append]
  by_cases hitsV6 : ∃ txIndex, DftHits sta entry .v6 txIndex
  · -- every write for IPv6 is right, whatever those for IPv4 were
    rcases hitsV6 with ⟨txIndex, isHit⟩
    rcases settle_write entry.1 (sta.dftPhase (!sta.isMccMode) .v4)
      ⟨entry.2.slot, rtTblName entry.2.slot, old⟩ with ⟨left, isLeft⟩
    rw [isLeft]
    refine settle_of_writes ?_ (isWritten isHit)
    intro write isIn isHdl
    rcases hits isIn isHdl with ⟨txIndex', isHit', isWrite⟩
    rcases switchOk.isOwn .v6 txIndex' isHit' with isOwn | ⟨isV4, -⟩
    · rw [← isWrite, isOwn]
    · cases isV4
  · have unhitV6 := unhit fun txIndex isHit => hitsV6 ⟨txIndex, isHit⟩
    rw [settle_of_unhit unhitV6]
    by_cases hitsV4 : ∃ txIndex, DftHits sta entry .v4 txIndex
    · rcases hitsV4 with ⟨txIndex, isHit⟩
      refine settle_of_writes ?_ (isWritten isHit)
      intro write isIn isHdl
      rcases hits isIn isHdl with ⟨txIndex', isHit', isWrite⟩
      rcases switchOk.isOwn .v4 txIndex' isHit' with isOwn | ⟨-, isV6⟩
      · rw [← isWrite, isOwn]
      · exact absurd isV6 hitsV6
    · have unhitV4 := unhit fun txIndex isHit => hitsV4 ⟨txIndex, isHit⟩
      rw [settle_of_unhit unhitV4]
      have agrees : sta.PipesAgree entry.2.slot := by
        rcases switchOk.isRight with agrees | ⟨ip, txIndex, isHit⟩
        · exact agrees
        · cases ip with
          | v4 => exact absurd ⟨txIndex, isHit⟩ hitsV4
          | v6 => exact absurd ⟨txIndex, isHit⟩ hitsV6
      rw [isOld agrees]
      rfl

theorem TableOk.settle_clientPhase (isOk : TableOk sta) (isIn : entry ∈ sta.kernel.rules)
    (switchOk : RuleSwitchOk sta entry)
    (isOld : DftSwitchOk sta entry → old = sta.spec entry.2.slot) :
    settle WanRtRule.write entry.1 (sta.clientPhase .v4 ++ sta.clientPhase .v6)
        ⟨entry.2.slot, rtTblName entry.2.slot, old⟩ = sta.rule entry.2.slot := by
  have hitsV4 {write : ℕ × WanRtSpec} (isWrite : write ∈ sta.clientPhase .v4)
      (isHdl : write.1 = entry.1) : sta.hasIp .v4 = true ∧ ∃ cltIndx txIndex,
        entry.2.slot = .clientV4 cltIndx txIndex ∧ write.2 = sta.spec entry.2.slot := by
    rcases isOk.mem_clientPhase_v4.mp isWrite with ⟨hasIp, cltIndx, txIndex, isLive, rfl⟩
    have isSlot := isOk.slot_of_hdl isLive isIn isHdl
    exact ⟨hasIp, cltIndx, txIndex, isSlot, by rw [isSlot]⟩
  have hitsV6 {write : ℕ × WanRtSpec} (isWrite : write ∈ sta.clientPhase .v6)
      (isHdl : write.1 = entry.1) : sta.hasIp .v6 = true ∧ ∃ cltIndx txIndex numV6,
        entry.2.slot = .clientV6Wan cltIndx txIndex numV6 ∧
          write.2 = sta.wanWrite cltIndx txIndex numV6 := by
    rcases mem_clientPhase_v6.mp isWrite with ⟨hasIp, cltIndx, txIndex, numV6, isLive, rfl⟩
    exact ⟨hasIp, cltIndx, txIndex, numV6, isOk.slot_of_hdl isLive isIn isHdl, rfl⟩
  have unhitV4 (notHit : ∀ cltIndx txIndex, entry.2.slot = .clientV4 cltIndx txIndex →
      sta.hasIp .v4 = false) : ∀ write ∈ sta.clientPhase .v4, write.1 ≠ entry.1 := by
    intro write isWrite isHdl
    rcases hitsV4 isWrite isHdl with ⟨hasIp, cltIndx, txIndex, isSlot, -⟩
    exact absurd hasIp (by simp [notHit cltIndx txIndex isSlot])
  have unhitV6 (notHit : ∀ cltIndx txIndex numV6, entry.2.slot =
    .clientV6Wan cltIndx txIndex numV6 →
      sta.hasIp .v6 = false) : ∀ write ∈ sta.clientPhase .v6, write.1 ≠ entry.1 := by
    intro write isWrite isHdl
    rcases hitsV6 isWrite isHdl with ⟨hasIp, cltIndx, txIndex, numV6, isSlot, -⟩
    exact absurd hasIp (by simp [notHit cltIndx txIndex numV6 isSlot])
  rw [settle_append]
  rw [RuleSwitchOk] at switchOk
  cases isSlot : entry.2.slot with
  | dft _ _ | dftA5 | clientV6 _ _ _ =>
      simp only [isSlot] at switchOk
      rw [← isSlot, settle_of_unhit (unhitV4 (by simp [isSlot])),
        settle_of_unhit (unhitV6 (by simp [isSlot])), isOld switchOk]
      rfl
  | clientV4 cltIndx txIndex =>
      simp only [isSlot] at switchOk
      rw [← isSlot]
      cases hasIp : sta.hasIp .v4 with
      | false =>
          rw [settle_of_unhit (unhitV4 fun _ _ _ => hasIp),
            settle_of_unhit (unhitV6 (by simp [isSlot])), isOld (switchOk hasIp)]
          rfl
      | true =>
          rcases isOk.client entry isIn (by simp [isSlot, WanRtSlot.IsClient]) with
            ⟨isLive, isHdl⟩
          rw [isSlot] at isLive isHdl
          have isHit : ∃ write ∈ sta.clientPhase .v4, write.1 = entry.1 :=
            ⟨_, isOk.mem_clientPhase_v4.mpr ⟨hasIp, cltIndx, txIndex, isLive, rfl⟩, isHdl⟩
          have agree : ∀ write ∈ sta.clientPhase .v4, write.1 = entry.1 →
              write.2 = sta.spec entry.2.slot := by
            intro write isWrite isHdl
            rcases hitsV4 isWrite isHdl with ⟨-, _, _, -, same⟩
            exact same
          rw [settle_of_writes agree isHit,
            settle_of_unhit (unhitV6 (by simp [isSlot]))]
          rfl
  | clientV6Wan cltIndx txIndex numV6 =>
      simp only [isSlot] at switchOk
      rw [← isSlot, settle_of_unhit (unhitV4 (by simp [isSlot]))]
      cases hasIp : sta.hasIp .v6 with
      | false =>
          rw [settle_of_unhit (unhitV6 fun _ _ _ _ => hasIp),
            isOld (switchOk.1 hasIp)]
          rfl
      | true =>
          rcases isOk.client entry isIn (by simp [isSlot, WanRtSlot.IsClient]) with
            ⟨isLive, isHdl⟩
          rw [isSlot] at isLive isHdl
          rcases switchOk.2 hasIp with ⟨samePipe, noHdr⟩
          have isHit : ∃ write ∈ sta.clientPhase .v6, write.1 = entry.1 :=
            ⟨_, mem_clientPhase_v6.mpr ⟨hasIp, cltIndx, txIndex, numV6, isLive, rfl⟩, isHdl⟩
          have agree : ∀ write ∈ sta.clientPhase .v6, write.1 = entry.1 →
              write.2 = sta.spec entry.2.slot := by
            intro write isWrite isHdl
            rcases hitsV6 isWrite isHdl with ⟨-, _, _, _, isSlot', same⟩
            cases isSlot.symm.trans isSlot'
            rw [same, isSlot, wanWrite, samePipe, noHdr]
            rfl
          rw [settle_of_writes agree isHit]
          rfl

theorem TableOk.settle_switchWrites (isOk : TableOk sta) (isIn : entry ∈ sta.kernel.rules)
    (switchOk : RuleSwitchOk sta entry) (isTbl : entry.2.rtTblName = rtTblName entry.2.slot)
    (isOld : sta.PipesAgree entry.2.slot → entry.2.spec = sta.spec entry.2.slot) :
    settle WanRtRule.write entry.1 (sta.switchWrites (!sta.isMccMode)) entry.2 =
      sta.rule entry.2.slot := by
  have isRule : entry.2 = ⟨entry.2.slot, rtTblName entry.2.slot, entry.2.spec⟩ := by rw [← isTbl]
  rcases settle_write entry.1
    (sta.dftPhase (!sta.isMccMode) .v4 ++ sta.dftPhase (!sta.isMccMode) .v6)
    ⟨entry.2.slot, rtTblName entry.2.slot, entry.2.spec⟩ with ⟨left, isLeft⟩
  rw [switchWrites, settle_append]
  nth_rewrite 1 [isRule]
  rw [isLeft]
  apply isOk.settle_clientPhase isIn switchOk
  intro dftOk
  have isFresh := dftOk.settle isOld
  rw [isLeft] at isFresh
  exact congrArg WanRtRule.spec isFresh

theorem spec_of_pipesAgree (agrees : sta.PipesAgree slot) (isMccMode : Bool) :
    sta.spec slot = { sta with isMccMode }.spec slot := by
  cases slot <;> simp_all [spec, pipe, PipesAgree]

theorem TableOk.writeAll (isOk : TableOk sta) (writes : List (ℕ × WanRtSpec)) :
    TableOk { sta with kernel := sta.kernel.writeAll WanRtRule.write writes } := by
  have wasIn {entry : ℕ × WanRtRule}
      (isIn : entry ∈ (sta.kernel.writeAll WanRtRule.write writes).rules) :
      ∃ old ∈ sta.kernel.rules, old.1 = entry.1 ∧ old.2.slot = entry.2.slot := by
    rw [rules_writeAll] at isIn
    rcases mem_map.mp isIn with ⟨old, isOld, rfl⟩
    exact ⟨old, isOld, rfl, slot_settle.symm⟩
  refine ⟨?_, ?_, ?_, isOk.activeHeader, isOk.setV4, isOk.setV6⟩
  · intro slot isLive
    rcases isOk.installed slot isLive with ⟨rule, isIn, isSlot⟩
    refine ⟨settle WanRtRule.write (sta.rtRuleHdl slot) writes rule, ?_, ?_⟩
    · rw [rules_writeAll]
      exact mem_map_of_mem isIn
    · exact slot_settle.trans isSlot
  · intro entry isIn isClient
    rcases wasIn isIn with ⟨old, isOld, sameHdl, sameSlot⟩
    rw [← sameSlot] at isClient ⊢
    rw [← sameHdl]
    exact isOk.client old isOld isClient
  · intro entry isIn ip txIndex isDft
    rcases wasIn isIn with ⟨old, isOld, -, sameSlot⟩
    exact isOk.dftHeader old isOld ip txIndex (sameSlot.trans isDft)

theorem RunOk.modeNotice (isOk : RunOk sta) {isMccMode : Bool}
    (switchOk : sta.isMccMode ≠ isMccMode → SwitchOk { sta with isMccMode }) :
    RunOk (sta.modeNotice isMccMode) := by
  rw [StaRoutes.modeNotice]
  split
  · exact isOk
  · rename_i isOther
    let turned : StaRoutes μ := { sta with isMccMode }
    have turnedOk : TableOk turned :=
      isOk.table.kept rfl rfl (fun _ => Iff.rfl) (fun _ => id) rfl isOk.table.setV4 isOk.table.setV6
    have isOld (entry : ℕ × WanRtRule) (isIn : entry ∈ sta.kernel.rules)
        (agrees : sta.PipesAgree entry.2.slot) : entry.2.spec = turned.spec entry.2.slot := by
      rw [isOk.rulesOk entry isIn]
      exact spec_of_pipesAgree agrees isMccMode
    have isTbl (entry : ℕ × WanRtRule) (isIn : entry ∈ sta.kernel.rules) :
        entry.2.rtTblName = rtTblName entry.2.slot :=
      congrArg WanRtRule.rtTblName (isOk.rulesOk entry isIn)
    have endsRight := switchOk isOther
    change RunOk (turned.switch (!isMccMode))
    by_cases isTaken : Taken turned
    · rw [turned.switch_of_taken isTaken]
      refine ⟨turnedOk.writeAll _, ?_⟩
      intro entry isIn
      rw [rules_writeAll] at isIn
      rcases mem_map.mp isIn with ⟨old, wasIn, rfl⟩
      have isFresh := turnedOk.settle_switchWrites wasIn (endsRight.taken isTaken old wasIn)
        (isTbl old wasIn) (isOld old wasIn)
      dsimp only
      rw [isFresh]
      rfl
    · rw [turned.switch_of_not_taken isTaken]
      refine ⟨turnedOk, ?_⟩
      intro entry isIn
      have agrees := endsRight.notTaken isTaken entry isIn
      rw [rule, ← isTbl entry isIn, ← isOld entry isIn agrees]

end StaRoutes

end HtcPme.Ipacm
