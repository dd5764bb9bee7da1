import HtcPme.IpaNat.DmaOffsets
import HtcPme.IpaNat.RuleHandles

/-!
# Insertions with failing commands

`ipa_nati_add_ipv4_rule` when the allocation or the request of a DMA command may fail. The commands
that write next indices fail silently, the one that enables the rule does not.
-/

namespace HtcPme.IpaNat

open Halfword IpaNatIndxTblRule IpaNatIp4TableCache

inductive DmaOutcome where
  | posted
  | noMemory
  | refused
deriving DecidableEq

structure AddRuleEnv where
  linkRule : DmaOutcome
  linkIndex : DmaOutcome
  enable : DmaOutcome
deriving DecidableEq

def AddRuleEnv.allPosted : AddRuleEnv := ⟨.posted, .posted, .posted⟩

namespace IpaNatIp4TableCache

variable (tbl : IpaNatIp4TableCache)

def applyIfPosted (outcome : DmaOutcome) (cmds : List (DmaTarget × IpaIocNatDmaOne)) :
    IpaNatIp4TableCache :=
  if outcome = .posted then tbl.applyAll cmds else tbl

/-- `ipa_nati_copy_ipv4_rule_to_hw`, with the outcome of its command. -/
def copyRuleWith (outcome : DmaOutcome) (rule : IpaNatSwRule) (entry : ℕ) : IpaNatIp4TableCache :=
  (tbl.setRule entry rule.toHw).applyIfPosted outcome (tbl.linkRuleCmds rule entry)

/-- `ipa_nati_copy_ipv4_index_rule_to_hw`, with the outcome of its command. -/
def copyIndexRuleWith (outcome : DmaOutcome) (indxSwRule : IpaNatIndxTblSwRule) (entry : ℕ) :
    IpaNatIp4TableCache :=
  (tbl.setIndex entry (ofHalves indxSwRule.nextIndex indxSwRule.tblEntry)).applyIfPosted outcome
    (tbl.linkIndexCmds indxSwRule entry)

end IpaNatIp4TableCache

def GeneratedRule.linkRuleCmds (generated : GeneratedRule) (tbl : IpaNatIp4TableCache) :
    List (DmaTarget × IpaIocNatDmaOne) :=
  tbl.linkRuleCmds generated.swRule generated.tblEntry

def GeneratedRule.linkIndexCmds (generated : GeneratedRule) (tbl : IpaNatIp4TableCache) :
    List (DmaTarget × IpaIocNatDmaOne) :=
  tbl.linkIndexCmds generated.indexSwRule generated.indxTblEntry

def GeneratedRule.copyWith (generated : GeneratedRule) (env : AddRuleEnv)
    (tbl : IpaNatIp4TableCache) : IpaNatIp4TableCache :=
  (tbl.copyRuleWith env.linkRule generated.swRule generated.tblEntry).copyIndexRuleWith
    env.linkIndex generated.indexSwRule generated.indxTblEntry

/-- `ipa_nati_add_ipv4_rule`, with the outcomes of its commands. -/
def addIpv4RuleWith (env : AddRuleEnv) (tbl : IpaNatIp4TableCache) (clntRule : IpaNatIpv4Rule) :
    Option (Except Errno ℕ × IpaNatIp4TableCache) := do
  match ← ipaNatiGenerateRule tbl clntRule with
  | .error _ => return (.error .einval, tbl)
  | .ok (generated, tbl) =>
      let tbl := generated.copyWith env tbl
      if env.enable ≠ .posted then return (.error .eio, tbl)
      let tbl := ipaNatiPostIpv4DmaCmd tbl generated.tblEntry
      let (ruleHdl, tbl) := ipaNatiMakeRuleHdl tbl generated.tblEntry
      if ruleHdl = 0 then return (.error .einval, tbl)
      return (.ok ruleHdl, tbl)

section Failures

variable {env : AddRuleEnv} {tbl tbl₁ tbl' : IpaNatIp4TableCache} {clntRule : IpaNatIpv4Rule}
  {generated : GeneratedRule} {result : Except Errno ℕ}

def GeneratedRule.Fails (generated : GeneratedRule) (env : AddRuleEnv)
    (tbl : IpaNatIp4TableCache) : Prop :=
  generated.linkRuleCmds tbl ≠ [] ∧ env.linkRule ≠ .posted ∨
    generated.linkIndexCmds tbl ≠ [] ∧ env.linkIndex ≠ .posted ∨ env.enable ≠ .posted

/-- An error leaves everything as it was, and there is one if a command failed. -/
structure AddKept (env : AddRuleEnv) (tbl : IpaNatIp4TableCache) (clntRule : IpaNatIpv4Rule)
    (result : Except Errno ℕ) (tbl' : IpaNatIp4TableCache) : Prop where
  unchanged : ∀ errno, result = .error errno → tbl' = tbl
  reported : ∀ generated tbl₁, ipaNatiGenerateRule tbl clntRule = some (.ok (generated, tbl₁)) →
    generated.Fails env tbl₁ → ∃ errno, result = .error errno

/-- If both tables have a place for the rule, every command that is posted succeeds and a position
for the handle is free. -/
def AddMeets (env : AddRuleEnv) (tbl : IpaNatIp4TableCache) (clntRule : IpaNatIpv4Rule) : Prop :=
  ∀ generated tbl₁, ipaNatiGenerateRule tbl clntRule = some (.ok (generated, tbl₁)) →
    ¬ generated.Fails env tbl₁ ∧
      ∃ cnt < tbl.tableEntries + tbl.expnTableEntries, tbl.ruleIdArray cnt = 0

structure Picked (tbl : IpaNatIp4TableCache) (generated : GeneratedRule)
    (tbl₁ : IpaNatIp4TableCache) : Prop where
  tblEntry_pos : 0 < generated.tblEntry
  tblEntry_lt : generated.tblEntry < 2 ^ 16
  indx_pos : 0 < generated.indxTblEntry
  indx_lt : generated.indxTblEntry < 2 ^ 16
  free : (tbl.indexTable generated.indxTblEntry).tblEntry = 0
  names : generated.indexSwRule.tblEntry = BitVec.ofNat 16 generated.tblEntry
  indexTable : tbl₁.indexTable = tbl.indexTable
  tableEntries : tbl₁.tableEntries = tbl.tableEntries
  expnTableEntries : tbl₁.expnTableEntries = tbl.expnTableEntries
  ruleIdArray : tbl₁.ruleIdArray = tbl.ruleIdArray

section

variable (total : tbl.tableEntries + tbl.expnTableEntries < 2 ^ 16)

include total

variable {entry : ℕ}

theorem generateTblRule_lt {swRule : IpaNatSwRule}
    (isGenerated : ipaNatiGenerateTblRule tbl clntRule = some (entry, swRule)) :
    entry < 2 ^ 16 := by
  simp only [ipaNatiGenerateTblRule] at isGenerated
  split at isGenerated
  · cases isGenerated
    exact BitVec.isLt _
  · split at isGenerated
    · cases isGenerated
    · cases isGenerated
      exact Nat.two_pow_pos 16
    · split at isGenerated
      · cases isGenerated
        exact Nat.two_pow_pos 16
      · rename_i found
        cases isGenerated
        have inRange := (expnFreeEntry_spec found).2.1
        unfold ipaNatiExpnTblFreeEntry
        omega

theorem generateIndexRule_free {swRule swRule' : IpaNatIndxTblSwRule}
    (isGenerated : ipaNatiGenerateIndexRule tbl clntRule swRule = some (entry, swRule'))
    (valid : entry ≠ invalidNatEntry) :
    entry < 2 ^ 16 ∧ (tbl.indexTable entry).tblEntry = 0 ∧ swRule'.tblEntry = swRule.tblEntry := by
  simp only [ipaNatiGenerateIndexRule] at isGenerated
  split at isGenerated
  · rename_i isFree
    cases isGenerated
    exact ⟨BitVec.isLt _, isFree, rfl⟩
  · split at isGenerated
    · cases isGenerated
    · cases isGenerated
      exact absurd rfl valid
    · split at isGenerated
      · cases isGenerated
        exact absurd rfl valid
      · rename_i found
        split at isGenerated
        · cases isGenerated
          exact absurd rfl valid
        · cases isGenerated
          have isEntry := expnFreeEntry_spec found
          refine ⟨?_, ?_, rfl⟩
          · have inRange := isEntry.2.1
            unfold ipaNatiIndexExpnGetFreeEntry
            omega
          · have isFree := isEntry.2.2
            rw [Nat.add_comm]
            simpa [ipaNatiIndexExpnGetFreeEntry] using isFree

theorem picked_of_generated
    (isGenerated : ipaNatiGenerateRule tbl clntRule = some (.ok (generated, tbl₁))) :
    Picked tbl generated tbl₁ := by
  simp only [ipaNatiGenerateRule] at isGenerated
  rcases Option.bind_eq_some_iff.mp isGenerated with ⟨⟨entry, swRule⟩, entryEq, isGenerated⟩
  simp only at isGenerated
  split_ifs at isGenerated with invalid
  · cases isGenerated
  · rcases Option.bind_eq_some_iff.mp isGenerated with ⟨⟨indx, indexSwRule⟩, indxEq, isGenerated⟩
    simp only at isGenerated
    have entryLt := generateTblRule_lt total entryEq
    split_ifs at isGenerated with indxInvalid isExpn
    · cases isGenerated
    · cases isGenerated
      rcases generateIndexRule_free total indxEq indxInvalid with ⟨indxLt, free, names⟩
      exact ⟨Nat.pos_of_ne_zero invalid, entryLt, Nat.pos_of_ne_zero indxInvalid, indxLt, free,
        names, rfl, rfl, rfl, rfl⟩
    · cases isGenerated
      rcases generateIndexRule_free total indxEq indxInvalid with ⟨indxLt, free, names⟩
      exact ⟨Nat.pos_of_ne_zero invalid, entryLt, Nat.pos_of_ne_zero indxInvalid, indxLt, free,
        names, rfl, rfl, rfl, rfl⟩

end

section IndexEntry

variable {indx : ℕ}

variable {cmd : IpaIocNatDmaOne}

theorem indexTable_applyDma_rule (isRule : cmd.baseAddr = .baseTbl ∨ cmd.baseAddr = .expnTbl) :
    (tbl.applyDma cmd).indexTable = tbl.indexTable := by
  rcases isRule with isBase | isExpn
  · simp [applyDma, isBase, setRule]
  · simp [applyDma, isExpn, setRule]

variable (tbl) in
theorem indexTable_postIpv4DmaCmd (entry : ℕ) :
    (ipaNatiPostIpv4DmaCmd tbl entry).indexTable = tbl.indexTable := by
  unfold ipaNatiPostIpv4DmaCmd
  split
  · exact indexTable_applyDma_rule (.inl rfl)
  · exact indexTable_applyDma_rule (.inr rfl)

variable (tbl) in
theorem indexTable_makeRuleHdl (entry : ℕ) :
    (ipaNatiMakeRuleHdl tbl entry).2.indexTable = tbl.indexTable := by
  simp only [ipaNatiMakeRuleHdl]
  split <;> split <;> rfl

theorem tblEntry_writeHalfword_ne_zero {entry : IpaNatIndxTblRule} {data : BitVec 16}
    (used : entry.tblEntry ≠ 0) (nonzero : data.toNat ≠ 0) (offset : ℕ) :
    (writeHalfword entry offset data).tblEntry ≠ 0 := by
  unfold writeHalfword
  split
  · simpa [tblEntry, read16BitFieldValue] using nonzero
  · simpa [tblEntry, read16BitFieldValue] using used
  · exact used

theorem tblEntry_applyDma_ne_zero
    (used : (tbl.indexTable indx).tblEntry ≠ 0) (nonzero : cmd.data.toNat ≠ 0) :
    ((tbl.applyDma cmd).indexTable indx).tblEntry ≠ 0 := by
  have stays (slot offset : ℕ) :
      (Function.update tbl.indexTable slot
        (writeHalfword (tbl.indexTable slot) offset cmd.data) indx).tblEntry ≠
          0 := by
    by_cases same : indx = slot
    · subst same
      rw [Function.update_self]
      exact tblEntry_writeHalfword_ne_zero used nonzero offset
    · rwa [Function.update_of_ne same]
  cases table : cmd.baseAddr with
  | baseTbl => rwa [indexTable_applyDma_rule (.inl table)]
  | expnTbl => rwa [indexTable_applyDma_rule (.inr table)]
  | indxTbl | indexExpnTbl =>
      simp only [applyDma, table, setIndex]
      exact stays _ _

theorem tblEntry_copyIndexRuleWith_ne_zero {outcome : DmaOutcome}
    {indxSwRule : IpaNatIndxTblSwRule} (names : indxSwRule.tblEntry.toNat ≠ 0)
    (nonzero : (BitVec.ofNat 16 indx).toNat ≠ 0) :
    ((tbl.copyIndexRuleWith outcome indxSwRule indx).indexTable indx).tblEntry ≠ 0 := by
  have used : ((tbl.setIndex indx
      (ofHalves indxSwRule.nextIndex indxSwRule.tblEntry)).indexTable indx).tblEntry ≠ 0 := by
    simpa [setIndex, tblEntry, read16BitFieldValue] using
      names
  unfold copyIndexRuleWith applyIfPosted
  split
  · unfold linkIndexCmds
    simp only
    split
    · exact used
    · exact tblEntry_applyDma_ne_zero used nonzero
  · exact used

end IndexEntry

theorem Picked.used (picked : Picked tbl generated tbl₁) :
    ((generated.copyWith env tbl₁).indexTable generated.indxTblEntry).tblEntry ≠ 0 := by
  apply tblEntry_copyIndexRuleWith_ne_zero
  · rw [picked.names, BitVec.toNat_ofNat, Nat.mod_eq_of_lt picked.tblEntry_lt]
    exact picked.tblEntry_pos.ne'
  · rw [BitVec.toNat_ofNat, Nat.mod_eq_of_lt picked.indx_lt]
    exact picked.indx_pos.ne'

theorem Picked.changed (picked : Picked tbl generated tbl₁)
    (index : tbl'.indexTable = (generated.copyWith env tbl₁).indexTable) : tbl' ≠ tbl := by
  rintro rfl
  have used : ((generated.copyWith env tbl₁).indexTable generated.indxTblEntry).tblEntry ≠ 0 :=
    picked.used
  rw [← index] at used
  exact used picked.free

theorem addIpv4RuleWith_picked
    (isGenerated : ipaNatiGenerateRule tbl clntRule = some (.ok (generated, tbl₁)))
    (returns : addIpv4RuleWith env tbl clntRule = some (result, tbl')) :
    tbl'.indexTable = (generated.copyWith env tbl₁).indexTable ∧
      ((∃ ruleHdl, result = .ok ruleHdl) ↔ env.enable = .posted ∧
        (ipaNatiMakeRuleHdl (ipaNatiPostIpv4DmaCmd (generated.copyWith env tbl₁)
          generated.tblEntry) generated.tblEntry).1 ≠ 0) := by
  unfold addIpv4RuleWith at returns
  rw [isGenerated] at returns
  simp only [Option.bind_eq_bind, Option.bind_some] at returns
  split at returns
  · rename_i notPosted
    cases returns
    exact ⟨rfl, by simp [notPosted]⟩
  · rename_i isPosted
    have same := (indexTable_makeRuleHdl
      (ipaNatiPostIpv4DmaCmd (generated.copyWith env tbl₁) generated.tblEntry)
      generated.tblEntry).trans (indexTable_postIpv4DmaCmd _ generated.tblEntry)
    split at returns
    · rename_i full
      cases returns
      exact ⟨same, by simp [full]⟩
    · rename_i isFree
      cases returns
      exact ⟨same, by simp [isFree, not_not.mp isPosted]⟩

theorem makeRuleHdl_ne_zero_iff (entry : ℕ) :
    (ipaNatiMakeRuleHdl tbl entry).1 ≠ 0 ↔
      ∃ cnt < tbl.tableEntries + tbl.expnTableEntries, tbl.ruleIdArray cnt = 0 := by
  unfold ipaNatiMakeRuleHdl
  cases search : (List.range (tbl.tableEntries + tbl.expnTableEntries)).find?
      (fun cnt => tbl.ruleIdArray cnt = 0) with
  | none =>
      rw [List.find?_eq_none] at search
      simp only [ne_eq, not_true_eq_false, false_iff, not_exists, not_and]
      intro cnt inRange
      simpa using search cnt (List.mem_range.mpr inRange)
  | some cnt =>
      have inRange := List.mem_range.mp (List.mem_of_find?_eq_some search)
      have isFree := List.find?_some search
      simp only [ne_eq, Nat.add_eq_zero_iff, one_ne_zero, and_false, not_false_eq_true, true_iff]
      exact ⟨cnt, inRange, by simpa using isFree⟩

theorem idFields_copyWith (generated : GeneratedRule) (env : AddRuleEnv) :
    (generated.copyWith env tbl₁).idFields = tbl₁.idFields := by
  have applied (tbl : IpaNatIp4TableCache) (outcome : DmaOutcome)
      (cmds : List (DmaTarget × IpaIocNatDmaOne)) :
      (tbl.applyIfPosted outcome cmds).idFields = tbl.idFields := by
    unfold applyIfPosted applyAll
    split <;> simp
  simp [GeneratedRule.copyWith, copyRuleWith,
    copyIndexRuleWith, applied]

theorem Picked.succeeds_iff (picked : Picked tbl generated tbl₁)
    (isGenerated : ipaNatiGenerateRule tbl clntRule = some (.ok (generated, tbl₁)))
    (returns : addIpv4RuleWith env tbl clntRule = some (result, tbl')) :
    (∃ ruleHdl, result = .ok ruleHdl) ↔ env.enable = .posted ∧
      ∃ cnt < tbl.tableEntries + tbl.expnTableEntries, tbl.ruleIdArray cnt = 0 := by
  rw [(addIpv4RuleWith_picked isGenerated returns).2, makeRuleHdl_ne_zero_iff]
  have fields : (ipaNatiPostIpv4DmaCmd (generated.copyWith env tbl₁)
      generated.tblEntry).idFields = tbl₁.idFields := by
    rw [idFields_postIpv4DmaCmd, idFields_copyWith]
  simp only [idFields, Prod.mk.injEq] at fields
  rw [fields.1, fields.2.1, fields.2.2, picked.tableEntries, picked.expnTableEntries,
    picked.ruleIdArray]

theorem addIpv4RuleWith_refused {errno : Errno}
    (isGenerated : ipaNatiGenerateRule tbl clntRule = some (.error errno))
    (returns : addIpv4RuleWith env tbl clntRule = some (result, tbl')) :
    AddKept env tbl clntRule result tbl' := by
  unfold addIpv4RuleWith at returns
  rw [isGenerated] at returns
  cases returns
  refine ⟨fun _ _ => rfl, ?_⟩
  intro generated tbl₁ isPicked
  rw [isGenerated] at isPicked
  cases isPicked

/-- An insertion into an allocated table keeps to what is said of its errors exactly if the rule has
no place, or every command succeeds and the handle finds a position. -/
theorem addKept_iff (dims : tbl.Allocated)
    (returns : addIpv4RuleWith env tbl clntRule = some (result, tbl')) :
    AddKept env tbl clntRule result tbl' ↔ AddMeets env tbl clntRule := by
  have total : tbl.tableEntries + tbl.expnTableEntries < 2 ^ 16 := by
    have base := dims.base_le
    have expn := dims.expn_le
    omega
  cases isGenerated : ipaNatiGenerateRule tbl clntRule with
  | none => simp [addIpv4RuleWith, isGenerated] at returns
  | some answer =>
      cases answer with
      | error errno =>
          refine iff_of_true (addIpv4RuleWith_refused isGenerated returns) ?_
          intro generated tbl₁ isPicked
          rw [isGenerated] at isPicked
          cases isPicked
      | ok answer =>
          rcases answer with ⟨generated, tbl₁⟩
          have picked := picked_of_generated total isGenerated
          have succeeds := picked.succeeds_iff isGenerated returns
          have changed := picked.changed (addIpv4RuleWith_picked isGenerated returns).1
          have isOnly {generated' tbl₂}
              (other : ipaNatiGenerateRule tbl clntRule = some (.ok (generated', tbl₂))) :
              generated' = generated ∧ tbl₂ = tbl₁ := by
            rw [isGenerated] at other
            cases other
            exact ⟨rfl, rfl⟩
          constructor
          · intro kept generated' tbl₂ other
            rcases isOnly other with ⟨rfl, rfl⟩
            cases result with
            | error errno => exact absurd (kept.unchanged errno rfl) changed
            | ok ruleHdl =>
                refine ⟨fun fails => ?_, (succeeds.mp ⟨ruleHdl, rfl⟩).2⟩
                rcases kept.reported _ _ isGenerated fails with ⟨errno, isError⟩
                cases isError
          · intro meets
            rcases meets generated tbl₁ isGenerated with ⟨noFailure, isFree⟩
            have isPosted : env.enable = .posted := by
              by_contra notPosted
              exact noFailure (.inr (.inr notPosted))
            rcases succeeds.mpr ⟨isPosted, isFree⟩ with ⟨ruleHdl, rfl⟩
            refine ⟨fun errno isError => (nomatch isError), ?_⟩
            intro generated' tbl₂ other fails
            rcases isOnly other with ⟨rfl, rfl⟩
            exact absurd fails noFailure

def firstRule : IpaNatIpv4Rule := ⟨0x0A000001, 0xC0A80001, 80, 1000, 2000, 6⟩

def secondRule : IpaNatIpv4Rule := ⟨0x0A000001, 0xC0A80002, 80, 1000, 2000, 6⟩

theorem firstRule_isSome :
    (addIpv4RuleWith .allPosted (sixEntries 0) firstRule).isSome = true := by
  decide +kernel

def oneRule : IpaNatIp4TableCache :=
  ((addIpv4RuleWith .allPosted (IpaNatIp4TableCache.sixEntries 0) firstRule).get
    firstRule_isSome).2

theorem addKept_iff_firstRule :
    ∃ result tbl', addIpv4RuleWith .allPosted (IpaNatIp4TableCache.sixEntries 0) firstRule =
        some (result, tbl') ∧
      (AddKept .allPosted (IpaNatIp4TableCache.sixEntries 0) firstRule result tbl' ↔
        AddMeets .allPosted (IpaNatIp4TableCache.sixEntries 0) firstRule) := by
  have returns := (Option.some_get firstRule_isSome).symm
  exact ⟨_, _, returns, addKept_iff ⟨by decide, by decide, by decide, by decide⟩ returns⟩

def linkRefused : AddRuleEnv := ⟨.refused, .posted, .posted⟩

def picksLinked : Option (Except Errno (GeneratedRule × IpaNatIp4TableCache)) → Bool
  | some (.ok (generated, tbl)) => !(generated.linkRuleCmds tbl).isEmpty
  | _ => false

theorem of_picksLinked {answer : Option (Except Errno (GeneratedRule × IpaNatIp4TableCache))}
    (picks : picksLinked answer = true) :
    ∃ generated tbl, answer = some (.ok (generated, tbl)) ∧ generated.linkRuleCmds tbl ≠ [] := by
  rcases answer with _ | _ | ⟨generated, tbl⟩
  · cases picks
  · cases picks
  · refine ⟨generated, tbl, rfl, fun none => ?_⟩
    simp [picksLinked, none] at picks

theorem secondRule_isSome : (addIpv4RuleWith linkRefused oneRule secondRule).isSome = true := by
  decide +kernel

/-- The second rule is added although it is not linked to the first one. -/
theorem not_addKept :
    ∃ result tbl', addIpv4RuleWith linkRefused oneRule secondRule = some (result, tbl') ∧
      result.toOption = some 2 ∧
      (tbl'.ipv4Rules (tbl'.dstSlot secondRule)).nextIndex = 0 ∧
      ¬ AddKept linkRefused oneRule secondRule result tbl' := by
  have isAdded :
      ((addIpv4RuleWith linkRefused oneRule secondRule).get secondRule_isSome).1.toOption =
        some 2 := by decide +kernel
  refine ⟨((addIpv4RuleWith linkRefused oneRule secondRule).get secondRule_isSome).1,
    ((addIpv4RuleWith linkRefused oneRule secondRule).get secondRule_isSome).2,
    (Option.some_get secondRule_isSome).symm, isAdded, by decide +kernel, ?_⟩
  intro kept
  have picks : picksLinked (ipaNatiGenerateRule oneRule secondRule) = true := by decide +kernel
  rcases of_picksLinked picks with ⟨generated, tbl₁, isGenerated, linked⟩
  have fails : generated.Fails linkRefused tbl₁ := .inl ⟨linked, by decide⟩
  rcases kept.reported generated tbl₁ isGenerated fails with ⟨errno, isError⟩
  rw [isError] at isAdded
  cases isAdded

end Failures

end HtcPme.IpaNat
