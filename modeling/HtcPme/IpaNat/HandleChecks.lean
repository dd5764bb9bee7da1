import HtcPme.IpaNat.LinkBounds

/-!
# Handles of 32 bits

`ipa_nat_del_ipv4_rule` and `ipa_nat_query_timestamp` with every place of an array that they index,
for any two numbers as the handles.
-/

namespace HtcPme.IpaNat

open IpaNatIp4TableCache List

inductive NatArray where
  | ip4Tbl
  | ruleIdArray
  | rules (expnTbl : Bool)
  | index (expnTbl : Bool)
  | indexExpnTableMeta
deriving DecidableEq

structure ArrayAccess where
  array : NatArray
  index : ℤ
deriving DecidableEq

def tblIndex (tblHdl : BitVec 32) : ℕ := (tblHdl - 1).toNat % 2 ^ 8

def ruleHdlLow (ruleHdl : BitVec 32) : ℕ := ruleHdl.toNat % 2 ^ 16

def arraySize (tableEntries expnTableEntries : ℕ) : NatArray → ℕ
  | .ip4Tbl => ipaNatMaxIp4Tbls
  | .ruleIdArray => tableEntries + expnTableEntries
  | .rules expnTbl | .index expnTbl => if expnTbl then expnTableEntries else tableEntries
  | .indexExpnTableMeta => expnTableEntries

def InBounds (tableEntries expnTableEntries : ℕ) (access : ArrayAccess) : Prop :=
  0 ≤ access.index ∧ access.index < arraySize tableEntries expnTableEntries access.array

namespace IpaNatIp4TableCache

variable (tbl : IpaNatIp4TableCache)

def ruleAccess (entry : ℕ) : ArrayAccess :=
  if entry ≥ tbl.tableEntries then ⟨.rules true, (entry - tbl.tableEntries : ℕ)⟩
  else ⟨.rules false, entry⟩

def indexAccess (entry : ℕ) : ArrayAccess :=
  if entry ≥ tbl.tableEntries then ⟨.index true, (entry - tbl.tableEntries : ℕ)⟩
  else ⟨.index false, entry⟩

end IpaNatIp4TableCache

section Accesses

variable (tbl : IpaNatIp4TableCache)

def parseAccesses (index ruleHdl : ℕ) : List ArrayAccess :=
  ⟨.ip4Tbl, index⟩ ::
    if ruleHdl ≥ tbl.tableEntries + tbl.expnTableEntries then []
    else [⟨.ruleIdArray, (ruleHdl : ℤ) - 1⟩]

/-- What `ipa_nati_post_del_dma_cmd` updates in the rule table. -/
def finishRuleAccesses (expnTbl : Bool) (tblEntry : ℕ) : DelType → List ArrayAccess
  | .head => []
  | .middle =>
      let entry := if expnTbl then tbl.tableEntries + tblEntry else tblEntry
      [⟨.rules true, (sub16 (tbl.ipv4Rules entry).nextIndex tbl.tableEntries : ℕ)⟩,
        ⟨.rules true, tblEntry⟩]
  | .onlyOne | .last => [⟨.rules expnTbl, tblEntry⟩]

/-- What `ipa_nati_post_del_dma_cmd` updates for the index table. `indxNextEntry` is the entry whose
contents a deleted head received, in the expansion table. -/
def finishIndexAccesses (indxTblEntry indxNextEntry : ℕ) : DelType → List ArrayAccess
  | .head =>
      let nextEntry := tbl.tableEntries + indxNextEntry
      let nextNextEntry := (tbl.indexTable nextEntry).nextIndex
      let tableEntry := ((tbl.setIndex nextEntry 0).indexTable indxTblEntry).tblEntry
      ⟨.index true, indxNextEntry⟩ ::
        (if nextNextEntry ≠ 0 ∧ nextNextEntry ≥ tbl.tableEntries then
          [⟨.indexExpnTableMeta, (nextNextEntry - tbl.tableEntries : ℕ)⟩]
        else []) ++
        [⟨.index false, indxTblEntry⟩, tbl.ruleAccess tableEntry]
  | .middle =>
      let nextEntry := (tbl.indexTable indxTblEntry).nextIndex
      let nextEntry :=
        if nextEntry ≥ tbl.tableEntries then nextEntry - tbl.tableEntries else nextEntry
      [tbl.indexAccess indxTblEntry, ⟨.indexExpnTableMeta, nextEntry⟩,
        ⟨.indexExpnTableMeta, (indxTblEntry - tbl.tableEntries : ℕ)⟩]
  | .onlyOne | .last => [tbl.indexAccess indxTblEntry]

/-- What `ipa_nati_post_del_dma_cmd` reads of the index table for its commands. -/
def delIndexAccesses (indxTblEntry indxNextEntry : ℕ) : DelType → List ArrayAccess
  | .onlyOne => []
  | .head => [⟨.index true, indxNextEntry⟩]
  | .middle | .last => [⟨.indexExpnTableMeta, (indxTblEntry - tbl.tableEntries : ℕ)⟩]

/-- `ipa_nati_post_del_dma_cmd`, of which the commands fail for want of memory or are refused, or
take effect. -/
def postDelAccesses (outcome : DmaOutcome) (expnTbl : Bool) (tblEntry : ℕ) (rulePos : DelType) :
    List ArrayAccess :=
  let entry := if expnTbl then tbl.tableEntries + tblEntry else tblEntry
  if outcome = .noMemory then []
  else ⟨.rules expnTbl, tblEntry⟩ ::
    if (tbl.ipv4Rules entry).enable = 0 then []
    else
      let indxTblEntry := (tbl.ipv4Rules entry).indxTblEntry
      let indxRulePos := ipaNatiFindIndexRulePos tbl indxTblEntry
      let indxNextEntry := sub16 (tbl.indexTable indxTblEntry).nextIndex tbl.tableEntries
      let posted := delPosted tbl entry rulePos
      tbl.indexAccess indxTblEntry :: delIndexAccesses tbl indxTblEntry indxNextEntry indxRulePos ++
        if outcome = .refused then []
        else finishRuleAccesses posted expnTbl tblEntry rulePos ++
          finishIndexAccesses (finishRuleDelete posted entry rulePos) indxTblEntry indxNextEntry
            indxRulePos

def ipaNatDelIpv4Rule (outcome : DmaOutcome) (tblHdl ruleHdl : BitVec 32) :
    Except Errno Unit × IpaNatIp4TableCache :=
  if tblHdl = 0 ∨ ruleHdl = 0 then (.error .einval, tbl)
  else if outcome = .posted then ipaNatiDelIpv4Rule tbl ruleHdl.toNat
  else (.error .einval, tbl)

def delAccesses (outcome : DmaOutcome) (tblHdl ruleHdl : BitVec 32) : List ArrayAccess :=
  if tblHdl = 0 ∨ ruleHdl = 0 then []
  else
    let (expnTbl, tblEntry) := ipaNatiParseIpv4RuleHdl tbl (ruleHdlLow ruleHdl)
    let entry := if expnTbl then tbl.tableEntries + tblEntry else tblEntry
    let rulePos := ipaNatiFindRulePos tbl expnTbl entry
    parseAccesses tbl (tblIndex tblHdl) (ruleHdlLow ruleHdl) ++
      if tblEntry = invalidNatEntry ∨ !tbl.valid then []
      else ⟨.rules expnTbl, tblEntry⟩ :: postDelAccesses tbl outcome expnTbl tblEntry rulePos ++
        if (tbl.ipv4Rules entry).enable = 0 ∨ outcome ≠ .posted then []
        else (List.range tbl.tableEntries).map (fun cnt => ⟨.rules false, cnt⟩) ++
          [⟨.ruleIdArray, (ruleHdl.toNat : ℤ) - 1⟩]

def ipaNatQueryTimestamp (tblHdl ruleHdl : BitVec 32) : Except Errno (BitVec 32) :=
  if tblHdl = 0 ∨ tblHdl.toNat > ipaNatMaxIp4Tbls then .error .einval
  else if !tbl.valid then .error .einval
  else
    let (expnTbl, tblEntry) := ipaNatiParseIpv4RuleHdl tbl (ruleHdlLow ruleHdl)
    let entry := if expnTbl then tbl.tableEntries + tblEntry else tblEntry
    .ok ((tbl.ipv4Rules entry).tsProto &&& 0x00FFFFFF)

def queryAccesses (tblHdl ruleHdl : BitVec 32) : List ArrayAccess :=
  if tblHdl = 0 ∨ tblHdl.toNat > ipaNatMaxIp4Tbls then []
  else if !tbl.valid then [⟨.ip4Tbl, tblIndex tblHdl⟩]
  else
    let (expnTbl, tblEntry) := ipaNatiParseIpv4RuleHdl tbl (ruleHdlLow ruleHdl)
    parseAccesses tbl (tblIndex tblHdl) (ruleHdlLow ruleHdl) ++ [⟨.rules expnTbl, tblEntry⟩]

end Accesses

section Bounds

variable {te ex : ℕ} {tbl : IpaNatIp4TableCache} {entry : ℕ}

theorem inBounds_nat {array : NatArray} {index : ℕ} :
    InBounds te ex ⟨array, index⟩ ↔ index < arraySize te ex array := by
  simp [InBounds]

theorem LinksInRange.indexAccess (links : LinksInRange te ex tbl) (inTable : entry < te + ex) :
    InBounds te ex (tbl.indexAccess entry) := by
  unfold IpaNatIp4TableCache.indexAccess
  rw [links.tableEntries_eq]
  split
  · rw [inBounds_nat, arraySize, if_pos rfl]
    omega
  · rw [inBounds_nat, arraySize, if_neg Bool.false_ne_true]
    omega

theorem LinksInRange.ruleAccess (links : LinksInRange te ex tbl) (inTable : entry < te + ex) :
    InBounds te ex (tbl.ruleAccess entry) := by
  unfold IpaNatIp4TableCache.ruleAccess
  rw [links.tableEntries_eq]
  split
  · rw [inBounds_nat, arraySize, if_pos rfl]
    omega
  · rw [inBounds_nat, arraySize, if_neg Bool.false_ne_true]
    omega

theorem HandleSize.total (size : HandleSize te ex) : te + ex < 2 ^ 16 := by
  have base := size.base_le
  have expn := size.expn_lt
  omega

theorem IsLink.sub16_lt {next : ℕ} (isLink : IsLink te ex next) (size : HandleSize te ex)
    (nonzero : next ≠ 0) : sub16 next te < ex := by
  have total := size.total
  rcases isLink with zero | ⟨above, below⟩
  · exact absurd zero nonzero
  · rw [sub16_of_le above.le (by omega)]
    omega

variable {indxTblEntry : ℕ} {expnTbl : Bool}

theorem findIndexRulePos_head (isHead : ipaNatiFindIndexRulePos tbl indxTblEntry = .head) :
    indxTblEntry < tbl.tableEntries ∧ (tbl.indexTable indxTblEntry).nextIndex ≠ 0 := by
  unfold ipaNatiFindIndexRulePos at isHead
  by_cases inExpn : indxTblEntry ≥ tbl.tableEntries
  · rw [if_pos inExpn] at isHead
    split at isHead <;> cases isHead
  · rw [if_neg inExpn] at isHead
    split at isHead
    · cases isHead
    · rename_i nonzero
      exact ⟨Nat.lt_of_not_le inExpn, nonzero⟩

theorem findIndexRulePos_expn (isPos : ipaNatiFindIndexRulePos tbl indxTblEntry = .middle ∨
      ipaNatiFindIndexRulePos tbl indxTblEntry = .last) : tbl.tableEntries ≤ indxTblEntry := by
  by_contra inBase
  unfold ipaNatiFindIndexRulePos at isPos
  rw [if_neg inBase] at isPos
  split at isPos <;> rcases isPos with isPos | isPos <;> cases isPos

theorem findRulePos_middle (isMiddle : ipaNatiFindRulePos tbl expnTbl entry = .middle) :
    expnTbl = true ∧ (tbl.ipv4Rules entry).nextIndex ≠ 0 := by
  unfold ipaNatiFindRulePos at isMiddle
  cases expnTbl with
  | false => split at isMiddle <;> split at isMiddle <;> simp_all
  | true =>
      refine ⟨rfl, ?_⟩
      intro zero
      rw [if_pos rfl, if_pos zero] at isMiddle
      cases isMiddle

theorem nextIndex_writeHalfword_ne_zero {rule : IpaNatRule} {data : BitVec 16}
    (linked : rule.nextIndex ≠ 0) (nonzero : data.toNat ≠ 0) (offset : ℕ) :
    (rule.writeHalfword offset data).nextIndex ≠ 0 := by
  unfold IpaNatRule.writeHalfword
  split <;> simp_all [IpaNatRule.nextIndex_eq]

theorem nextIndex_applyDma_ne_zero {cmd : IpaIocNatDmaOne}
    (linked : (tbl.ipv4Rules entry).nextIndex ≠ 0)
    (keeps : (cmd.baseAddr = .indxTbl ∨ cmd.baseAddr = .indexExpnTbl) ∨ cmd.data.toNat ≠ 0) :
    ((tbl.applyDma cmd).ipv4Rules entry).nextIndex ≠ 0 := by
  have stays (slot offset : ℕ) (nonzero : cmd.data.toNat ≠ 0) :
      (Function.update tbl.ipv4Rules slot
        ((tbl.ipv4Rules slot).writeHalfword offset cmd.data) entry).nextIndex ≠ 0 := by
    by_cases same : entry = slot
    · subst same
      rw [Function.update_self]
      exact nextIndex_writeHalfword_ne_zero linked nonzero offset
    · rwa [Function.update_of_ne same]
  unfold applyDma
  cases table : cmd.baseAddr with
  | baseTbl | expnTbl =>
      rw [table] at keeps
      exact stays _ _ (by simpa using keeps)
  | indxTbl => exact linked
  | indexExpnTbl => exact linked

theorem nextIndex_delPosted_ne_zero (linked : (tbl.ipv4Rules entry).nextIndex ≠ 0) :
    ((delPosted tbl entry .middle).ipv4Rules entry).nextIndex ≠ 0 := by
  have keeps : ∀ cmd ∈ reorderCmds ((tbl.delCmds entry .middle).map Prod.snd),
      (cmd.baseAddr = .indxTbl ∨ cmd.baseAddr = .indexExpnTbl) ∨ cmd.data.toNat ≠ 0 := by
    intro cmd isIn
    have posted := mem_reorderCmds isIn
    rw [map_snd_delCmds] at posted
    rcases mem_cons.mp posted with isRule | isIndex
    · right
      have data : cmd.data = read16BitFieldValue (tbl.ipv4Rules entry).nxtIndxPubPort
          .nextIndexField := by
        rw [isRule, HtcPme.IpaNat.delRuleCmd, ruleNextCmd]
        split <;> rfl
      rw [data]
      exact linked
    · exact .inl (delIndexCmds_baseAddr _ cmd isIndex)
  unfold delPosted
  revert keeps
  generalize reorderCmds ((tbl.delCmds entry .middle).map Prod.snd) = cmds
  intro keeps
  induction cmds generalizing tbl with
  | nil => exact linked
  | cons cmd cmds ih =>
      rw [forall_mem_cons] at keeps
      exact ih (nextIndex_applyDma_ne_zero linked keeps.1) keeps.2

variable (links : LinksInRange te ex tbl)

include links

variable (size : HandleSize te ex)

include size

theorem delIndexAccesses_inBounds (inTable : indxTblEntry < te + ex) :
    ∀ access ∈ delIndexAccesses tbl indxTblEntry
      (sub16 (tbl.indexTable indxTblEntry).nextIndex tbl.tableEntries)
      (ipaNatiFindIndexRulePos tbl indxTblEntry), InBounds te ex access := by
  have entries := links.tableEntries_eq
  have expn (inExpn : tbl.tableEntries ≤ indxTblEntry) :
      InBounds te ex ⟨.indexExpnTableMeta, (indxTblEntry - tbl.tableEntries : ℕ)⟩ := by
    rw [inBounds_nat, arraySize]
    omega
  cases isPos : ipaNatiFindIndexRulePos tbl indxTblEntry with
  | onlyOne => exact forall_mem_nil _
  | head =>
      rw [delIndexAccesses, forall_mem_singleton, inBounds_nat, arraySize, if_pos rfl, entries]
      exact (links.index indxTblEntry).next.sub16_lt size (findIndexRulePos_head isPos).2
  | middle => exact forall_mem_singleton.mpr (expn (findIndexRulePos_expn (.inl isPos)))
  | last => exact forall_mem_singleton.mpr (expn (findIndexRulePos_expn (.inr isPos)))

variable {tblEntry : ℕ}

theorem finishRuleAccesses_inBounds {rulePos : DelType}
    (inTable : InBounds te ex ⟨.rules expnTbl, tblEntry⟩)
    (linked : rulePos = .middle → expnTbl = true ∧
      (tbl.ipv4Rules (tbl.tableEntries + tblEntry)).nextIndex ≠ 0) :
    ∀ access ∈ finishRuleAccesses tbl expnTbl tblEntry rulePos, InBounds te ex access := by
  cases rulePos with
  | head => exact forall_mem_nil _
  | onlyOne | last => exact forall_mem_singleton.mpr inTable
  | middle =>
      rcases linked rfl with ⟨rfl, nonzero⟩
      simp only [finishRuleAccesses, if_true, forall_mem_cons]
      refine ⟨?_, inTable, forall_mem_nil _⟩
      rw [inBounds_nat, arraySize, if_pos rfl, links.tableEntries_eq]
      rw [links.tableEntries_eq] at nonzero
      exact (links.rules (te + tblEntry)).next.sub16_lt size nonzero

theorem finishIndexAccesses_inBounds
    {indxTblEntry indxNextEntry : ℕ} {indxRulePos : DelType} (inTable : indxTblEntry < te + ex)
    (head : indxRulePos = .head → indxTblEntry < te ∧ indxNextEntry < ex)
    (middle : indxRulePos = .middle → te ≤ indxTblEntry) :
    ∀ access ∈ finishIndexAccesses tbl indxTblEntry indxNextEntry indxRulePos,
      InBounds te ex access := by
  have entries := links.tableEntries_eq
  have indexOk := links.indexAccess inTable
  cases indxRulePos with
  | onlyOne | last => exact forall_mem_singleton.mpr indexOk
  | middle =>
      have inExpn := middle rfl
      simp only [finishIndexAccesses, forall_mem_cons]
      refine ⟨indexOk, ?_, ?_, forall_mem_nil _⟩
      · rw [inBounds_nat, arraySize, entries]
        rcases (links.index indxTblEntry).next with zero | ⟨above, below⟩
        · rw [zero]
          split <;> omega
        · rw [if_pos above.le]
          omega
      · rw [inBounds_nat, arraySize, entries]
        omega
  | head =>
      rcases head rfl with ⟨inBase, nextLt⟩
      have zeroed := links.zeroIndex size.base_pos (tbl.tableEntries + indxNextEntry)
      simp only [finishIndexAccesses, cons_append, forall_mem_cons,
        forall_mem_append]
      refine ⟨?_, ?_, ?_, zeroed.ruleAccess (zeroed.index _).tbl, forall_mem_nil _⟩
      · rw [inBounds_nat, arraySize, if_pos rfl]
        exact nextLt
      · split
        · rename_i further
          rw [forall_mem_singleton, inBounds_nat, arraySize]
          rcases (links.index (tbl.tableEntries + indxNextEntry)).next with zero | ⟨above, below⟩
          · exact absurd zero further.1
          · omega
        · exact forall_mem_nil _
      · rw [inBounds_nat, arraySize, if_neg Bool.false_ne_true]
        exact inBase

theorem postDelAccesses_inBounds (inTable : InBounds te ex ⟨.rules expnTbl, tblEntry⟩)
    (isEntry : entry = if expnTbl then tbl.tableEntries + tblEntry else tblEntry)
    (outcome : DmaOutcome) :
    ∀ access ∈ postDelAccesses tbl outcome expnTbl tblEntry
      (ipaNatiFindRulePos tbl expnTbl entry), InBounds te ex access := by
  have indx := (links.rules entry).indx
  unfold postDelAccesses
  simp only [← isEntry]
  split
  · exact forall_mem_nil _
  · rw [forall_mem_cons]
    refine ⟨inTable, ?_⟩
    split
    · exact forall_mem_nil _
    · rw [cons_append, forall_mem_cons, forall_mem_append]
      refine ⟨links.indexAccess indx, delIndexAccesses_inBounds links size indx, ?_⟩
      split
      · exact forall_mem_nil _
      · rw [forall_mem_append]
        have entries := links.tableEntries_eq
        have posted := links.delPosted entry (ipaNatiFindRulePos tbl expnTbl entry)
        have finished := posted.finishRuleDelete size.base_pos entry
          (ipaNatiFindRulePos tbl expnTbl entry)
        constructor
        · apply finishRuleAccesses_inBounds posted size inTable
          intro isMiddle
          rcases findRulePos_middle isMiddle with ⟨rfl, linked⟩
          rw [if_pos rfl] at isEntry
          refine ⟨rfl, ?_⟩
          rw [posted.tableEntries_eq, ← entries, ← isEntry, isMiddle]
          exact nextIndex_delPosted_ne_zero linked
        · apply finishIndexAccesses_inBounds finished size indx
          · intro isHead
            rcases findIndexRulePos_head isHead with ⟨inBase, linked⟩
            rw [entries] at inBase ⊢
            exact ⟨inBase, (links.index _).next.sub16_lt size linked⟩
          · intro isMiddle
            have inExpn := findIndexRulePos_expn (.inl isMiddle)
            rwa [entries] at inExpn

end Bounds

namespace HandleSession

variable (session : HandleSession)

def LiveHandle (tblHdl ruleHdl : BitVec 32) : Prop :=
  tblHdl = 1 ∧ ∃ made ∈ session.live, made.ruleHdl = ruleHdl.toNat

/-- A deletion stays within the arrays, and an error for all but live handles changes nothing. -/
structure DelChecked (outcome : DmaOutcome) (tblHdl ruleHdl : BitVec 32) : Prop where
  inBounds : ∀ access ∈ delAccesses session.tbl outcome tblHdl ruleHdl,
    InBounds session.tbl.tableEntries session.tbl.expnTableEntries access
  refused : ¬ session.LiveHandle tblHdl ruleHdl →
    ∃ errno, ipaNatDelIpv4Rule session.tbl outcome tblHdl ruleHdl = (.error errno, session.tbl)

/-- A query stays within the arrays, and is answered for live handles only. -/
structure QueryChecked (tblHdl ruleHdl : BitVec 32) : Prop where
  inBounds : ∀ access ∈ queryAccesses session.tbl tblHdl ruleHdl,
    InBounds session.tbl.tableEntries session.tbl.expnTableEntries access
  refused : ¬ session.LiveHandle tblHdl ruleHdl →
    ∃ errno, ipaNatQueryTimestamp session.tbl tblHdl ruleHdl = .error errno

def Deletable (ruleHdl : BitVec 32) : Prop :=
  ruleHdlLow ruleHdl < session.tbl.tableEntries + session.tbl.expnTableEntries ∧
    ∃ made ∈ session.live, made.ruleHdl = ruleHdlLow ruleHdl ∧
      (session.tbl.ipv4Rules made.tblEntry).enable ≠ 0

/-- Either handle is 0, or that of the table is 1 up to a multiple of 256 and the low half of the
other is not 0; and where that half is the handle of a rule that gets deleted, neither has more. -/
def DelMeets (outcome : DmaOutcome) (tblHdl ruleHdl : BitVec 32) : Prop :=
  tblHdl = 0 ∨ ruleHdl = 0 ∨
    tblIndex tblHdl = 0 ∧ ruleHdlLow ruleHdl ≠ 0 ∧
      (outcome = .posted → session.Deletable ruleHdl → tblHdl = 1 ∧ ruleHdl.toNat < 2 ^ 16)

def QueryMeets (tblHdl ruleHdl : BitVec 32) : Prop :=
  tblHdl ≠ 1 ∨ ∃ made ∈ session.live, made.ruleHdl = ruleHdl.toNat

end HandleSession

section Parse

open HandleSession

variable {te ex : ℕ} {session : HandleSession} {tblHdl ruleHdl : BitVec 32}

variable {made : MadeHandle}

theorem HandleSession.IdsSound.parse_live (ids : session.IdsSound) (madeMem : made ∈ session.live) :
    made.ruleHdl < session.tbl.tableEntries + session.tbl.expnTableEntries ∧
      ipaNatiParseIpv4RuleHdl session.tbl made.ruleHdl = made.madeFrom session.tbl ∨
    made.ruleHdl = session.tbl.tableEntries + session.tbl.expnTableEntries ∧
      ipaNatiParseIpv4RuleHdl session.tbl made.ruleHdl = (false, invalidNatEntry) := by
  rcases (ids.hdl_le made madeMem).lt_or_eq with hdlLt | isLast
  · left
    refine ⟨hdlLt, ?_⟩
    rcases ipaNatiParseIpv4RuleHdl_eq ids.size (ids.slot made madeMem) hdlLt
      (ids.ruleId made madeMem) with ⟨isBase, parsed⟩ | ⟨isExpn, parsed⟩
    · rw [parsed, madeFrom_base isBase]
    · rw [parsed, madeFrom_expn isExpn]
  · right
    refine ⟨isLast, ?_⟩
    rw [ipaNatiParseIpv4RuleHdl, if_pos isLast.ge]

theorem HandleSession.IdsSound.parse_other (ids : session.IdsSound) {hdl : ℕ} (positive : hdl ≠ 0)
    (notLive : ∀ made ∈ session.live, made.ruleHdl ≠ hdl) :
    ipaNatiParseIpv4RuleHdl session.tbl hdl = (false, invalidNatEntry) := by
  have back : hdl - 1 + 1 = hdl := by omega
  have isFree := ids.free (hdl - 1) (by simpa [back] using notLive)
  unfold ipaNatiParseIpv4RuleHdl
  split
  · rfl
  · simp [isFree]

theorem madeFrom_spec {tbl : IpaNatIp4TableCache}
    (isSlot : tbl.IsSlot made.tblEntry) {expnTbl : Bool} {tblEntry : ℕ}
    (isFrom : made.madeFrom tbl = (expnTbl, tblEntry)) :
    tblEntry ≠ invalidNatEntry ∧
      (if expnTbl then tbl.tableEntries + tblEntry else tblEntry) = made.tblEntry ∧
      InBounds tbl.tableEntries tbl.expnTableEntries ⟨.rules expnTbl, tblEntry⟩ := by
  rcases isSlot with isBase | isExpn
  · rw [madeFrom_base isBase] at isFrom
    cases isFrom
    refine ⟨isBase.1.ne', rfl, ?_⟩
    rw [inBounds_nat, arraySize, if_neg Bool.false_ne_true]
    exact isBase.2
  · rw [madeFrom_expn isExpn] at isFrom
    cases isFrom
    rcases isExpn with ⟨above, below⟩
    refine ⟨(Nat.sub_pos_of_lt above).ne', ?_, ?_⟩
    · rw [if_pos rfl]
      omega
    · rw [inBounds_nat, arraySize, if_pos rfl]
      omega

end Parse

namespace HandleSession

variable {session : HandleSession} {outcome : DmaOutcome} {tblHdl ruleHdl : BitVec 32}

structure ChecksSound (session : HandleSession) : Prop where
  links : LinksInRange session.tbl.tableEntries session.tbl.expnTableEntries session.tbl
  ids : session.IdsSound

section Checked

theorem tblIndex_one : tblIndex 1 = 0 := by decide

theorem mem_delAccesses_of_parse (tblNonzero : tblHdl ≠ 0) (ruleNonzero : ruleHdl ≠ 0)
    {access : ArrayAccess}
    (isIn : access ∈ parseAccesses session.tbl (tblIndex tblHdl) (ruleHdlLow ruleHdl)) :
    access ∈ delAccesses session.tbl outcome tblHdl ruleHdl := by
  unfold delAccesses
  rw [if_neg (not_or.mpr ⟨tblNonzero, ruleNonzero⟩)]
  exact mem_append_left _ isIn

theorem parse_inBounds {tbl : IpaNatIp4TableCache} {index hdl : ℕ} (isFirst : index = 0)
    (nonzero : hdl ≠ 0) :
    ∀ access ∈ parseAccesses tbl index hdl,
      InBounds tbl.tableEntries tbl.expnTableEntries access := by
  unfold parseAccesses
  rw [forall_mem_cons]
  refine ⟨by rw [isFirst, inBounds_nat]; exact Nat.one_pos, ?_⟩
  split
  · exact forall_mem_nil _
  · rw [forall_mem_singleton]
    simp only [InBounds, arraySize]
    omega

theorem ChecksSound.del_ok (sound : session.ChecksSound) (tblNonzero : tblHdl ≠ 0)
    (ruleNonzero : ruleHdl ≠ 0) (deletable : session.Deletable ruleHdl) :
    (ipaNatDelIpv4Rule session.tbl .posted tblHdl ruleHdl).1 = .ok () := by
  rcases deletable with ⟨inTable, made, madeMem, hdlEq, enabled⟩
  rcases sound.ids.parse_live madeMem with ⟨-, parsed⟩ | ⟨isLast, -⟩
  · rw [hdlEq] at parsed
    have spec := madeFrom_spec (sound.ids.slot made madeMem) (Prod.mk.eta).symm
    unfold ipaNatDelIpv4Rule
    rw [if_neg (not_or.mpr ⟨tblNonzero, ruleNonzero⟩), if_pos rfl]
    unfold ipaNatiDelIpv4Rule
    rw [ruleHdlLow] at parsed
    simp only [parsed]
    rw [if_neg spec.1, if_neg (by simp [sound.links.valid]), spec.2.1,
      ipaNatiPostDelDmaCmd_eq_finish enabled]
  · omega

theorem ChecksSound.delMeets (sound : session.ChecksSound)
    (checked : session.DelChecked outcome tblHdl ruleHdl) :
    session.DelMeets outcome tblHdl ruleHdl := by
  by_cases tblZero : tblHdl = 0
  · exact .inl tblZero
  by_cases ruleZero : ruleHdl = 0
  · exact .inr (.inl ruleZero)
  right
  right
  refine ⟨?_, ?_, ?_⟩
  · have first := checked.inBounds _ (mem_delAccesses_of_parse tblZero ruleZero mem_cons_self)
    rw [inBounds_nat] at first
    exact Nat.lt_one_iff.mp first
  · intro lowZero
    have total : ¬ 0 ≥ session.tbl.tableEntries + session.tbl.expnTableEntries := by
      have positive := sound.ids.size.base_pos
      omega
    have second := checked.inBounds ⟨.ruleIdArray, ((0 : ℕ) : ℤ) - 1⟩
    rw [← lowZero] at second total
    have isIn := second (mem_delAccesses_of_parse tblZero ruleZero (by
      rw [parseAccesses, if_neg total]
      exact mem_cons_of_mem _ (mem_singleton_self _)))
    rw [lowZero] at isIn
    exact absurd isIn.1 (by decide)
  · rintro rfl deletable
    have isOk := sound.del_ok tblZero ruleZero deletable
    by_contra notBoth
    have notLive : ¬ session.LiveHandle tblHdl ruleHdl := by
      rintro ⟨isFirst, made, madeMem, hdlEq⟩
      have hdlLe := sound.ids.hdl_le made madeMem
      have total := sound.ids.size.total
      exact notBoth ⟨isFirst, by omega⟩
    rcases checked.refused notLive with ⟨errno, isError⟩
    rw [isError] at isOk
    cases isOk

theorem delChecked_zero (someZero : tblHdl = 0 ∨ ruleHdl = 0) :
    session.DelChecked outcome tblHdl ruleHdl := by
  constructor
  · rw [delAccesses, if_pos someZero]
    exact forall_mem_nil _
  · exact fun _ => ⟨.einval, if_pos someZero⟩

theorem delChecked_nowhere (nonzero : ¬ (tblHdl = 0 ∨ ruleHdl = 0)) (isFirst : tblIndex tblHdl = 0)
    (lowNonzero : ruleHdlLow ruleHdl ≠ 0)
    (nowhere : ipaNatiParseIpv4RuleHdl session.tbl (ruleHdlLow ruleHdl) =
      (false, invalidNatEntry)) :
    session.DelChecked outcome tblHdl ruleHdl := by
  constructor
  · unfold delAccesses
    rw [if_neg nonzero]
    simp only [nowhere, true_or, if_true, append_nil]
    exact parse_inBounds isFirst lowNonzero
  · intro _
    refine ⟨.einval, ?_⟩
    unfold ipaNatDelIpv4Rule
    rw [if_neg nonzero]
    split
    · unfold ipaNatiDelIpv4Rule
      rw [ruleHdlLow] at nowhere
      simp only [nowhere, if_true]
    · rfl

theorem del_error {made : MadeHandle} (nonzero : ¬ (tblHdl = 0 ∨ ruleHdl = 0))
    (isSlot : session.tbl.IsSlot made.tblEntry)
    (parsed : ipaNatiParseIpv4RuleHdl session.tbl (ruleHdlLow ruleHdl) = made.madeFrom session.tbl)
    (kept : outcome = .posted → (session.tbl.ipv4Rules made.tblEntry).enable = 0) :
    ipaNatDelIpv4Rule session.tbl outcome tblHdl ruleHdl = (.error .einval, session.tbl) := by
  have spec := madeFrom_spec isSlot (Prod.mk.eta).symm
  unfold ipaNatDelIpv4Rule
  rw [if_neg nonzero]
  split
  · rename_i isPosted
    unfold ipaNatiDelIpv4Rule
    rw [ruleHdlLow] at parsed
    simp only [parsed]
    rw [if_neg spec.1, spec.2.1]
    split
    · rfl
    · rw [ipaNatiPostDelDmaCmd, if_pos (kept isPosted)]
  · rfl

variable (sound : session.ChecksSound)

include sound

theorem ChecksSound.delChecked (meets : session.DelMeets outcome tblHdl ruleHdl) :
    session.DelChecked outcome tblHdl ruleHdl := by
  by_cases someZero : tblHdl = 0 ∨ ruleHdl = 0
  · exact delChecked_zero someZero
  rcases meets with tblZero | ruleZero | ⟨isFirst, lowNonzero, both⟩
  · exact absurd (.inl tblZero) someZero
  · exact absurd (.inr ruleZero) someZero
  by_cases isLive : ∃ made ∈ session.live, made.ruleHdl = ruleHdlLow ruleHdl
  · rcases isLive with ⟨made, madeMem, hdlEq⟩
    have parsed := sound.ids.parse_live madeMem
    rw [hdlEq] at parsed
    rcases parsed with ⟨hdlLt, parsed⟩ | ⟨-, nowhere⟩
    · have isSlot := sound.ids.slot made madeMem
      have spec := madeFrom_spec isSlot (Prod.mk.eta).symm
      have deletable (enabled : (session.tbl.ipv4Rules made.tblEntry).enable ≠ 0) :
          session.Deletable ruleHdl := ⟨hdlLt, made, madeMem, hdlEq, enabled⟩
      constructor
      · unfold delAccesses
        rw [if_neg someZero]
        simp only [parsed]
        rw [forall_mem_append, if_neg (not_or.mpr ⟨spec.1, by simp [sound.links.valid]⟩),
          cons_append, forall_mem_cons, forall_mem_append]
        refine ⟨parse_inBounds isFirst lowNonzero, spec.2.2,
          postDelAccesses_inBounds sound.links sound.ids.size spec.2.2 rfl outcome, ?_⟩
        rw [spec.2.1]
        split
        · exact forall_mem_nil _
        · rename_i deleted
          rw [not_or, not_not] at deleted
          have small := (both deleted.2 (deletable deleted.1)).2
          rw [ruleHdlLow, Nat.mod_eq_of_lt small] at hdlLt lowNonzero
          rw [forall_mem_append, forall_mem_singleton]
          constructor
          · intro access isIn
            rcases mem_map.mp isIn with ⟨cnt, inBase, rfl⟩
            rw [inBounds_nat, arraySize, if_neg Bool.false_ne_true]
            exact mem_range.mp inBase
          · simp only [InBounds, arraySize]
            omega
      · intro notLive
        refine ⟨.einval, del_error someZero isSlot parsed ?_⟩
        intro isPosted
        by_contra enabled
        rcases both isPosted (deletable enabled) with ⟨isOne, small⟩
        rw [ruleHdlLow, Nat.mod_eq_of_lt small] at hdlEq
        exact notLive ⟨isOne, made, madeMem, hdlEq⟩
    · exact delChecked_nowhere someZero isFirst lowNonzero nowhere
  · apply delChecked_nowhere someZero isFirst lowNonzero
    apply sound.ids.parse_other lowNonzero
    exact fun made madeMem hdlEq => isLive ⟨made, madeMem, hdlEq⟩

theorem ChecksSound.queryChecked_iff :
    session.QueryChecked tblHdl ruleHdl ↔ session.QueryMeets tblHdl ruleHdl := by
  have valid := sound.links.valid
  by_cases isOne : tblHdl = 1
  · subst isOne
    have accepted : ¬ ((1 : BitVec 32) = 0 ∨ (1 : BitVec 32).toNat > ipaNatMaxIp4Tbls) := by decide
    have notInvalid : ¬ (!session.tbl.valid) = true := by simp [valid]
    constructor
    · intro checked
      right
      by_contra notLive
      rcases checked.refused fun isLive => notLive isLive.2 with ⟨errno, isError⟩
      rw [ipaNatQueryTimestamp, if_neg accepted, if_neg notInvalid] at isError
      cases isError
    · rintro (notOne | ⟨made, madeMem, hdlEq⟩)
      · exact absurd rfl notOne
      have total := sound.ids.size.total
      have hdlLe := sound.ids.hdl_le made madeMem
      have positive := sound.ids.hdl_pos made madeMem
      have low : ruleHdlLow ruleHdl = made.ruleHdl := by
        rw [ruleHdlLow, ← hdlEq, Nat.mod_eq_of_lt (by omega)]
      refine ⟨?_, fun notLive => absurd ⟨rfl, made, madeMem, hdlEq⟩ notLive⟩
      unfold queryAccesses
      rw [if_neg accepted, if_neg notInvalid, low]
      simp only
      rw [forall_mem_append, forall_mem_singleton]
      refine ⟨parse_inBounds tblIndex_one positive.ne', ?_⟩
      rcases sound.ids.parse_live madeMem with ⟨-, parsed⟩ | ⟨-, nowhere⟩
      · rw [parsed]
        exact (madeFrom_spec (sound.ids.slot made madeMem) (Prod.mk.eta).symm).2.2
      · rw [nowhere, inBounds_nat, arraySize, if_neg Bool.false_ne_true]
        exact sound.ids.size.base_pos
  · refine iff_of_true ?_ (.inl isOne)
    have refused : tblHdl = 0 ∨ tblHdl.toNat > ipaNatMaxIp4Tbls := by
      by_contra accepted
      rw [not_or, not_lt] at accepted
      apply isOne
      apply BitVec.eq_of_toNat_eq
      have nonzero : tblHdl.toNat ≠ 0 := fun isZero => accepted.1 (BitVec.eq_of_toNat_eq isZero)
      have le : tblHdl.toNat ≤ 1 := accepted.2
      have isNat : (1 : BitVec 32).toNat = 1 := rfl
      omega
    constructor
    · rw [queryAccesses, if_pos refused]
      exact forall_mem_nil _
    · exact fun _ => ⟨.einval, if_pos refused⟩

theorem ChecksSound.delChecked_iff :
    session.DelChecked outcome tblHdl ruleHdl ↔ session.DelMeets outcome tblHdl ruleHdl :=
  ⟨sound.delMeets, sound.delChecked⟩

end Checked

inductive Call where
  | add (env : AddRuleEnv) (rule : IpaNatIpv4Rule)
  | del (outcome : DmaOutcome) (tblHdl ruleHdl : BitVec 32)

/-- One call, which fails or succeeds. A rule that is added is remembered with its entry, and is
forgotten when it is deleted by its handle. -/
def call (session : HandleSession) : Call → Option HandleSession
  | .add env rule =>
      match ipaNatiGenerateRule session.tbl rule, addIpv4RuleWith env session.tbl rule with
      | some (.ok (generated, _)), some (.ok ruleHdl, tbl) =>
          some ⟨tbl, ⟨ruleHdl, generated.tblEntry⟩ :: session.live⟩
      | _, some (_, tbl) => some ⟨tbl, session.live⟩
      | _, none => none
  | .del outcome tblHdl ruleHdl =>
      match ipaNatDelIpv4Rule session.tbl outcome tblHdl ruleHdl with
      | (.ok _, tbl) => some ⟨tbl, session.live.filter fun made => made.ruleHdl ≠ ruleHdl.toNat⟩
      | (.error _, tbl) => some ⟨tbl, session.live⟩

def CallStep (session : HandleSession) (one : Call) (next : HandleSession) : Prop :=
  session.call one = some next

def CallMeets (session : HandleSession) : Call → Prop
  | .add _ _ => True
  | .del outcome tblHdl ruleHdl => session.DelMeets outcome tblHdl ruleHdl

structure IsFresh (session : HandleSession) : Prop where
  size : HandleSize session.tbl.tableEntries session.tbl.expnTableEntries
  aligned : natTableEntrySize ∣ session.tbl.tblAddrOffset
  zeroed : session.tbl =
    { zeroed session.tbl.publicAddr session.tbl.tableEntries session.tbl.expnTableEntries with
      tblAddrOffset := session.tbl.tblAddrOffset }
  live : session.live = []

theorem IsFresh.checksSound (fresh : session.IsFresh) : session.ChecksSound := by
  have rules : session.tbl.ipv4Rules = fun _ => .zero := by rw [fresh.zeroed]; rfl
  have index : session.tbl.indexTable = fun _ => 0 := by rw [fresh.zeroed]; rfl
  have ids : session.tbl.ruleIdArray = fun _ => 0 := by rw [fresh.zeroed]; rfl
  have positive := fresh.size.base_pos
  constructor
  · refine ⟨by rw [fresh.zeroed]; rfl, rfl, rfl, fresh.aligned, ?_, ?_⟩
    · rw [rules]
      exact fun _ => ruleInRange_zero positive
    · rw [index]
      exact fun _ => indexInRange_zero positive
  · refine ⟨fresh.size, ?_, ?_, ?_, ?_, ?_, ?_⟩ <;> simp [fresh.live, ids]

theorem idFields_makeRuleHdl_zero {tbl : IpaNatIp4TableCache} {entry : ℕ}
    (full : (ipaNatiMakeRuleHdl tbl entry).1 = 0) :
    (ipaNatiMakeRuleHdl tbl entry).2.idFields = tbl.idFields := by
  simp only [ipaNatiMakeRuleHdl] at full ⊢
  split
  · rename_i search
    rw [search] at full
    cases full
  · simp only
    split <;> rfl

variable {env : AddRuleEnv} {rule : IpaNatIpv4Rule} {one : Call} {tbl tbl' : IpaNatIp4TableCache}

theorem addIpv4RuleWith_generated {tbl tbl₁ : IpaNatIp4TableCache} {generated : GeneratedRule}
    (isGenerated : ipaNatiGenerateRule tbl rule = some (.ok (generated, tbl₁))) :
    addIpv4RuleWith env tbl rule =
      let copied := generated.copyWith env tbl₁
      let made := ipaNatiMakeRuleHdl (ipaNatiPostIpv4DmaCmd copied generated.tblEntry)
        generated.tblEntry
      some (if env.enable ≠ .posted then (.error .eio, copied)
        else if made.1 = 0 then (.error .einval, made.2) else (.ok made.1, made.2)) := by
  unfold addIpv4RuleWith
  rw [isGenerated]
  simp only [Option.bind_eq_bind, Option.bind_some]
  split
  · rfl
  · split <;> rfl

variable {next : HandleSession}

theorem call_add_spec (size : HandleSize session.tbl.tableEntries session.tbl.expnTableEntries)
    (called : session.CallStep (.add env rule) next) :
    (next.live = session.live ∧ next.tbl.idFields = session.tbl.idFields) ∨
      ∃ cnt entry, session.tbl.IsSlot entry ∧ next.live = ⟨cnt + 1, entry⟩ :: session.live ∧
        (range (session.tbl.tableEntries + session.tbl.expnTableEntries)).find?
          (fun cnt => session.tbl.ruleIdArray cnt = 0) = some cnt ∧
        next.tbl.idFields = (session.tbl.tableEntries, session.tbl.expnTableEntries,
          Function.update session.tbl.ruleIdArray cnt (ruleIdOf session.tbl entry)) := by
  cases isGenerated : ipaNatiGenerateRule session.tbl rule with
  | none =>
      have added : addIpv4RuleWith env session.tbl rule = none := by
        rw [addIpv4RuleWith, isGenerated]
        rfl
      simp only [CallStep, call, isGenerated, added] at called
      cases called
  | some answer =>
      cases answer with
      | error errno =>
          have added : addIpv4RuleWith env session.tbl rule =
              some (.error .einval, session.tbl) := by
            rw [addIpv4RuleWith, isGenerated]
            rfl
          simp only [CallStep, call, isGenerated, added] at called
          cases called
          exact .inl ⟨rfl, rfl⟩
      | ok picked =>
          rcases picked with ⟨generated, tbl₁⟩
          rcases generateRule_isSlot size isGenerated with ⟨isSlot, same⟩
          have copied : (generated.copyWith env tbl₁).idFields = session.tbl.idFields :=
            (idFields_copyWith generated env).trans same
          have enabled : (ipaNatiPostIpv4DmaCmd (generated.copyWith env tbl₁)
              generated.tblEntry).idFields = session.tbl.idFields :=
            (idFields_postIpv4DmaCmd _ _).trans copied
          have added : addIpv4RuleWith env session.tbl rule = _ :=
            addIpv4RuleWith_generated isGenerated
          simp only at added
          by_cases isPosted : env.enable = .posted
          · rw [if_neg (not_not.mpr isPosted)] at added
            by_cases full : (ipaNatiMakeRuleHdl (ipaNatiPostIpv4DmaCmd
                (generated.copyWith env tbl₁) generated.tblEntry) generated.tblEntry).1 = 0
            · rw [if_pos full] at added
              simp only [CallStep, call, isGenerated, added] at called
              cases called
              exact .inl ⟨rfl, (idFields_makeRuleHdl_zero full).trans enabled⟩
            · rw [if_neg full] at added
              simp only [CallStep, call, isGenerated, added] at called
              cases called
              right
              rcases makeRuleHdl_eq full rfl with ⟨cnt, hdlEq, search, fields⟩
              simp only [idFields, Prod.mk.injEq] at enabled fields ⊢
              rcases enabled with ⟨baseSame, expnSame, idsSame⟩
              refine ⟨cnt, generated.tblEntry, isSlot, by rw [hdlEq], ?_, ?_⟩
              · rw [← baseSame, ← expnSame, ← idsSame]
                exact search
              · refine ⟨fields.1.trans baseSame, fields.2.1.trans expnSame, fields.2.2.trans ?_⟩
                simp [idsSame, ruleIdOf, baseSame]
          · rw [if_pos isPosted] at added
            simp only [CallStep, call, isGenerated, added] at called
            cases called
            exact .inl ⟨rfl, copied⟩

theorem ChecksSound.call_links (sound : session.ChecksSound) (called : session.CallStep one next) :
    LinksInRange session.tbl.tableEntries session.tbl.expnTableEntries next.tbl := by
  cases one with
  | add env rule =>
      simp only [CallStep, call] at called
      split at called
      · rename_i added
        cases called
        exact sound.links.addIpv4RuleWith sound.ids.size added
      · rename_i added _
        cases called
        exact sound.links.addIpv4RuleWith sound.ids.size added
      · cases called
  | del outcome tblHdl ruleHdl =>
      have kept {result : Except Errno Unit} {tbl' : IpaNatIp4TableCache}
          (deleted : ipaNatDelIpv4Rule session.tbl outcome tblHdl ruleHdl = (result, tbl')) :
          LinksInRange session.tbl.tableEntries session.tbl.expnTableEntries tbl' := by
        unfold ipaNatDelIpv4Rule at deleted
        split at deleted
        · cases deleted
          exact sound.links
        · split at deleted
          · exact sound.links.delIpv4Rule sound.ids.size.base_pos deleted
          · cases deleted
            exact sound.links
      simp only [CallStep, call] at called
      split at called
      · rename_i deleted
        cases called
        exact kept deleted
      · rename_i deleted
        cases called
        exact kept deleted

theorem tbl_of_del_error {errno : Errno}
    (failed : ipaNatDelIpv4Rule tbl outcome tblHdl ruleHdl = (.error errno, tbl')) :
    tbl' = tbl := by
  unfold ipaNatDelIpv4Rule ipaNatiDelIpv4Rule at failed
  simp only at failed
  split at failed
  · cases failed
    rfl
  · split at failed
    · split at failed
      · cases failed
        rfl
      · split at failed
        · cases failed
          rfl
        · split at failed
          · cases failed
            rfl
          · cases failed
    · cases failed
      rfl

theorem del_ok_spec (deleted : ipaNatDelIpv4Rule tbl outcome tblHdl ruleHdl = (.ok (), tbl')) :
    ruleHdl.toNat ≠ 0 ∧
      tbl'.idFields = (tbl.tableEntries, tbl.expnTableEntries,
        Function.update tbl.ruleIdArray (ruleHdl.toNat - 1) 0) := by
  unfold ipaNatDelIpv4Rule at deleted
  split at deleted
  · cases deleted
  · rename_i nonzero
    split at deleted
    · refine ⟨?_, (idFields_delIpv4Rule deleted).2⟩
      intro isZero
      exact nonzero (.inr (BitVec.eq_of_toNat_eq isZero))
    · cases deleted

theorem ChecksSound.call_ids (sound : session.ChecksSound)
    (called : session.CallStep one next) : next.IdsSound := by
  cases one with
  | add env rule =>
      rcases call_add_spec sound.ids.size called with
        ⟨live, fields⟩ | ⟨cnt, entry, isSlot, live, search, fields⟩
      · exact sound.ids.of_same live fields
      · have found := find?_range_eq_some.mp search
        have inTable := mem_range.mp found.2.1
        exact sound.ids.add isSlot live (of_decide_eq_true found.1) inTable fields
  | del outcome tblHdl ruleHdl =>
      simp only [CallStep, call] at called
      split at called
      · rename_i deleted
        cases called
        rcases del_ok_spec deleted with ⟨nonzero, fields⟩
        exact sound.ids.del nonzero rfl fields
      · rename_i deleted
        cases called
        exact sound.ids.of_same rfl (by rw [tbl_of_del_error deleted])

theorem reachable_checksSound
    (reached : Run.Reachable IsFresh (Run.Guarded CallMeets CallStep) session) :
    session.ChecksSound := by
  apply reached.invariant
  · exact fun session fresh => fresh.checksSound
  · rintro session one next sound ⟨-, called⟩
    have ids := sound.call_ids called
    have links := sound.call_links called
    refine ⟨?_, ids⟩
    rw [links.tableEntries_eq, links.expnTableEntries_eq]
    exact links

instance (session : HandleSession) (ruleHdl : BitVec 32) : Decidable (session.Deletable ruleHdl) :=
  inferInstanceAs (Decidable (_ < _ ∧ ∃ made ∈ session.live, _ = _ ∧ _ ≠ _))

instance (session : HandleSession) (outcome : DmaOutcome) (tblHdl ruleHdl : BitVec 32) :
    Decidable (session.DelMeets outcome tblHdl ruleHdl) :=
  inferInstanceAs (Decidable (_ = _ ∨ _ = _ ∨ _ = _ ∧ _ ≠ _ ∧
    (_ = _ → session.Deletable ruleHdl → _ = _ ∧ _ < _)))

instance (session : HandleSession) : (one : Call) → Decidable (session.CallMeets one)
  | .add _ _ => inferInstanceAs (Decidable True)
  | .del outcome tblHdl ruleHdl =>
      inferInstanceAs (Decidable (session.DelMeets outcome tblHdl ruleHdl))

def sixFresh : HandleSession := ⟨sixEntries 0, []⟩

theorem sixFresh_isFresh : sixFresh.IsFresh :=
  ⟨⟨by decide, by decide, by decide⟩, by decide, rfl, rfl⟩

def addAddDel : List Call :=
  [.add .allPosted firstRule, .add .allPosted secondRule, .del .posted 1 1]

theorem addAddDel_isSome : (Run.runGuarded CallMeets call sixFresh addAddDel).isSome = true := by
  decide +kernel

theorem oneAdded_isSome : (sixFresh.call (.add .allPosted firstRule)).isSome = true := by
  decide +kernel

def oneAdded : HandleSession := (sixFresh.call (.add .allPosted firstRule)).get oneAdded_isSome

end HandleSession

end HtcPme.IpaNat
