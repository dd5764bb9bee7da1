import HtcPme.Foundation.Run
import HtcPme.IpaNat.Delete

/-!
# Runs of the NAT driver

A session is a table with the rules its clients hold. It starts with the zeroed table and takes any
sequence of insertions and deletions.
-/

namespace HtcPme.IpaNat

open IpaNatIp4TableCache

namespace IpaNatIp4TableCache

def zeroed (publicAddr : BitVec 32) (tableEntries expnTableEntries : ℕ) : IpaNatIp4TableCache where
  valid := true
  publicAddr := publicAddr
  tblAddrOffset := 0
  tableEntries := tableEntries
  expnTableEntries := expnTableEntries
  ipv4Rules := fun _ => .zero
  indexTable := fun _ => 0
  indexExpnTableMeta := fun _ => 0
  ruleIdArray := fun _ => 0
  curTblCnt := 0
  curExpnTblCnt := 0

def hdlEntry (tbl : IpaNatIp4TableCache) (ruleHdl : ℕ) : ℕ :=
  let (expnTbl, tblEntry) := ipaNatiParseIpv4RuleHdl tbl ruleHdl
  if expnTbl then tbl.tableEntries + tblEntry else tblEntry

def ruleChainOf (tbl : IpaNatIp4TableCache) : ℕ → List ℕ :=
  ChainedTable.entriesOf tbl.ruleNext invalidNatEntry tbl.RuleUsed
    (tbl.tableEntries + tbl.expnTableEntries)

def indexChainOf (tbl : IpaNatIp4TableCache) : ℕ → List ℕ :=
  ChainedTable.entriesOf tbl.indexNext invalidNatEntry tbl.IndexUsed
    (tbl.tableEntries + tbl.expnTableEntries)

end IpaNatIp4TableCache

open IpaNatIp4TableCache

structure NatSession where
  tbl : IpaNatIp4TableCache
  held : List HeldRule

inductive NatOp where
  | add (rule : IpaNatIpv4Rule)
  | del (ruleHdl : ℕ)
deriving DecidableEq

/-- What a client may ask for: no reserved protocol, and only its own handles. -/
def NatOp.Allowed (held : List HeldRule) : NatOp → Prop
  | .add rule => rule.protocol ≠ natInvalidProtoFieldCmp
  | .del ruleHdl => ∃ one ∈ held, one.ruleHdl = ruleHdl

instance (held : List HeldRule) : (op : NatOp) → Decidable (op.Allowed held)
  | .add rule => inferInstanceAs (Decidable (rule.protocol ≠ natInvalidProtoFieldCmp))
  | .del ruleHdl => inferInstanceAs (Decidable (∃ one ∈ held, one.ruleHdl = ruleHdl))

/-- One operation; `none` when the driver does not return. -/
def NatSession.apply (session : NatSession) : NatOp → Option NatSession
  | .add rule =>
      match ipaNatiAddIpv4Rule session.tbl rule with
      | none => none
      | some (.ok ruleHdl, tbl) => some ⟨tbl, ⟨ruleHdl, rule⟩ :: session.held⟩
      | some (.error _, tbl) => some ⟨tbl, session.held⟩
  | .del ruleHdl =>
      match ipaNatiDelIpv4Rule session.tbl ruleHdl with
      | (.ok _, tbl) => some ⟨tbl, withoutHdl session.held ruleHdl⟩
      | (.error _, tbl) => some ⟨tbl, session.held⟩

structure TableSize (tableEntries expnTableEntries : ℕ) : Prop where
  base_pos : 0 < tableEntries
  base_fits : natTableEntrySize * tableEntries ≤ 2 ^ 16
  expn_fits : natTableEntrySize * expnTableEntries ≤ 2 ^ 16

def NatSession.Step (session : NatSession) (op : NatOp) (next : NatSession) : Prop :=
  op.Allowed session.held ∧ session.apply op = some next

def Reachable (publicAddr : BitVec 32) (tableEntries expnTableEntries : ℕ) : NatSession → Prop :=
  Run.Reachable (fun session => session = ⟨.zeroed publicAddr tableEntries expnTableEntries, []⟩)
    NatSession.Step

theorem Reachable.apply {publicAddr : BitVec 32} {tableEntries expnTableEntries : ℕ}
    {session : NatSession} (reached : Reachable publicAddr tableEntries expnTableEntries session)
    (op : NatOp) (allowed : op.Allowed session.held) (returns : (session.apply op).isSome) :
    Reachable publicAddr tableEntries expnTableEntries ((session.apply op).get returns) :=
  .next op reached ⟨allowed, (Option.some_get returns).symm⟩

namespace NatSession

variable {session next : NatSession} {publicAddr : BitVec 32} {tableEntries expnTableEntries : ℕ}

theorem wellFormed_zeroed (size : TableSize tableEntries expnTableEntries) :
    (zeroed publicAddr tableEntries expnTableEntries).WellFormed [] := by
  have ruleFree : ∀ slot, ¬(zeroed publicAddr tableEntries
      expnTableEntries).RuleUsed slot := fun _ isUsed => isUsed IpaNatRule.enable_zero
  have indexFree : ∀ slot, ¬(zeroed publicAddr tableEntries
      expnTableEntries).IndexUsed slot := fun _ isUsed => isUsed IpaNatIndxTblRule.tblEntry_zero
  have ruleEnds : ∀ slot, (zeroed publicAddr tableEntries
      expnTableEntries).ruleNext slot = 0 := fun _ => IpaNatRule.nextIndex_zero
  have indexEnds : ∀ slot, (zeroed publicAddr tableEntries
      expnTableEntries).indexNext slot = 0 := fun _ => IpaNatIndxTblRule.nextIndex_zero
  refine ⟨⟨rfl, rfl, size.base_pos, size.base_fits, size.expn_fits⟩, fun _ => [], fun _ => [],
    fun _ => 0, ⟨⟨?rules, ?index, ?_, ?_, ?_, ?_, ?_, ?_, ?_⟩, ?_⟩, ?handles⟩
  case rules =>
    exact .empty ruleEnds (fun slot isBase => isBase.not_expn) not_isExpnSlot_zero ruleFree
  case index =>
    exact .empty indexEnds (fun slot isBase => isBase.not_expn) not_isExpnSlot_zero indexFree
  case handles =>
    exact ⟨List.nodup_nil, by simp, by simp, by simp, by simp, by simp, by simp, by simp,
      fun slot _ isLive => absurd isLive.1 (ruleFree slot), fun _ _ => rfl⟩
  · exact fun slot isUsed => absurd isUsed (ruleFree slot)
  · exact fun slot isUsed => absurd isUsed (indexFree slot)
  · exact fun slot _ isUsed => absurd isUsed (ruleFree slot)
  · exact fun slot _ isLive => absurd isLive.1 (ruleFree slot)
  · exact fun slot _ isUsed => absurd isUsed (indexFree slot)
  · exact fun slot _ isLive => absurd isLive.1 (ruleFree slot)
  · exact fun slot _ isLive => absurd isLive.1 (ruleFree slot)
  · exact fun slot _ isDead => absurd isDead.1 (ruleFree slot)

theorem apply_wellFormed {op : NatOp} (wellFormed : session.tbl.WellFormed session.held)
    (allowed : op.Allowed session.held) :
    ∃ next, session.apply op = some next ∧ SameLayout session.tbl next.tbl ∧
      next.tbl.WellFormed next.held := by
  cases op with
  | add rule =>
      rcases wellFormed.add allowed with failed | ⟨ruleHdl, tbl', added, layout, wellFormed'⟩
      · exact ⟨session, by simp [apply, failed], .refl _, wellFormed⟩
      · exact ⟨⟨tbl', _⟩, by simp [apply, added], layout, wellFormed'⟩
  | del ruleHdl =>
      obtain ⟨gone, goneMem, rfl⟩ := allowed
      obtain ⟨tbl', deleted, layout, wellFormed', -⟩ := wellFormed.del goneMem
      exact ⟨⟨tbl', withoutHdl session.held gone.ruleHdl⟩, by simp only [apply, deleted], layout,
        wellFormed'⟩

theorem reachable_wellFormed (size : TableSize tableEntries expnTableEntries)
    (reached : Reachable publicAddr tableEntries expnTableEntries session) :
    session.tbl.WellFormed session.held ∧
      SameLayout (.zeroed publicAddr tableEntries expnTableEntries) session.tbl := by
  refine reached.invariant (fun session => session.tbl.WellFormed session.held ∧
    SameLayout (.zeroed publicAddr tableEntries expnTableEntries) session.tbl) ?_ ?_
  · rintro _ rfl
    exact ⟨wellFormed_zeroed size, .refl _⟩
  · rintro session op next ⟨wellFormed, layout⟩ ⟨allowed, applied⟩
    obtain ⟨_, appliedNext, layout', wellFormed'⟩ := apply_wellFormed wellFormed allowed
    obtain rfl := Option.some.inj (applied.symm.trans appliedNext)
    exact ⟨wellFormed', layout.trans layout'⟩

end NatSession

namespace IpaNatIp4TableCache

structure TablesOk (tbl : IpaNatIp4TableCache) (held : List HeldRule) : Prop where
  rule_ends : ∀ base < tbl.tableEntries, ∃ steps ≤ tbl.tableEntries + tbl.expnTableEntries,
    tbl.ruleNext^[steps] base = invalidNatEntry
  index_ends : ∀ base < tbl.tableEntries, ∃ steps ≤ tbl.tableEntries + tbl.expnTableEntries,
    tbl.indexNext^[steps] base = invalidNatEntry
  /-- A live rule is on one rule chain, that of its `dst_hash` slot. -/
  rule_place : ∀ one ∈ held, tbl.LiveRule (tbl.hdlEntry one.ruleHdl) ∧
    tbl.IsBaseSlot (tbl.dstSlot one.rule) ∧ ∀ base, tbl.IsBaseSlot base →
      (tbl.hdlEntry one.ruleHdl ∈ tbl.ruleChainOf base ↔ base = tbl.dstSlot one.rule)
  /-- It has one index entry, which is on one index chain, that of its `src_hash` slot. -/
  index_place : ∀ one ∈ held, tbl.IsBaseSlot (tbl.srcSlot one.rule) ∧ ∃ indx,
    (∀ other, (tbl.indexTable other).tblEntry = tbl.hdlEntry one.ruleHdl ↔ other = indx) ∧
    ∀ base, tbl.IsBaseSlot base → (indx ∈ tbl.indexChainOf base ↔ base = tbl.srcSlot one.rule)
  /-- Besides live rules a chain holds a dead head with successors at most. -/
  rule_only : ∀ base, tbl.IsBaseSlot base → ∀ slot ∈ tbl.ruleChainOf base,
    (∃ one ∈ held, tbl.hdlEntry one.ruleHdl = slot) ∨
      slot = base ∧ tbl.DeadHead slot ∧ tbl.ruleNext slot ≠ invalidNatEntry
  index_only : ∀ base, tbl.IsBaseSlot base → ∀ indx ∈ tbl.indexChainOf base,
    ∃ one ∈ held, tbl.hdlEntry one.ruleHdl = (tbl.indexTable indx).tblEntry
  /-- No chain meets an entry twice, and the entries in use are all on chains. -/
  rule_nodup : ∀ base, tbl.IsBaseSlot base → (tbl.ruleChainOf base).Nodup
  index_nodup : ∀ base, tbl.IsBaseSlot base → (tbl.indexChainOf base).Nodup
  rule_used : ∀ slot, tbl.RuleUsed slot → ∃ base, tbl.IsBaseSlot base ∧ slot ∈ tbl.ruleChainOf base
  index_used : ∀ indx, tbl.IndexUsed indx →
    ∃ base, tbl.IsBaseSlot base ∧ indx ∈ tbl.indexChainOf base
  /-- The stored prev index of an expansion entry is the entry before it. -/
  rule_linked : ∀ base, tbl.IsBaseSlot base →
    (tbl.ruleChainOf base).IsChain fun pred succ => tbl.ruleNext pred = succ ∧
      tbl.rulePrev succ = pred
  index_linked : ∀ base, tbl.IsBaseSlot base →
    (tbl.indexChainOf base).IsChain
      fun pred succ => tbl.indexNext pred = succ ∧ tbl.indexPrev succ = pred

variable {tbl : IpaNatIp4TableCache} {held : List HeldRule} {entryOf : ℕ → ℕ}
variable {ruleChain indexChain : ℕ → List ℕ}

theorem HandlesOk.hdlEntry_eq (handles : tbl.HandlesOk held entryOf) (geometry : tbl.Geometry)
    {one : HeldRule} (oneMem : one ∈ held) : tbl.hdlEntry one.ruleHdl = entryOf one.ruleHdl := by
  unfold hdlEntry
  rcases ipaNatiParseIpv4RuleHdl_eq geometry.handleSize (handles.slot one oneMem)
    (handles.hdl_lt one oneMem) (handles.ruleId one oneMem) with ⟨isBase, parsed⟩ | ⟨isExpn, parsed⟩
  · simp [parsed]
  · have := isExpn.1
    simp only [parsed, if_true]
    omega

section Table

variable {next prev : ℕ → ℕ} {used : ℕ → Prop} {chain : ℕ → List ℕ}

theorem Geometry.chain_fits (geometry : tbl.Geometry)
    (table : ChainedTable tbl.IsBaseSlot tbl.IsExpnSlot next prev 0 used chain) (base : ℕ)
    (isBase : tbl.IsBaseSlot base) :
    (chain base).length < tbl.tableEntries + tbl.expnTableEntries :=
  chain_length_lt (table.forest.nodup base isBase) (table.overflow_of_mem base isBase)
    geometry.base_pos

theorem Geometry.chain_ends (geometry : tbl.Geometry)
    (table : ChainedTable tbl.IsBaseSlot tbl.IsExpnSlot next prev 0 used chain) (base : ℕ)
    (baseLt : base < tbl.tableEntries) :
    ∃ steps ≤ tbl.tableEntries + tbl.expnTableEntries, next^[steps] base = invalidNatEntry := by
  rcases Nat.eq_zero_or_pos base with rfl | positive
  · exact ⟨0, Nat.zero_le _, rfl⟩
  · have isBase : tbl.IsBaseSlot base := ⟨positive, baseLt⟩
    exact ⟨_, geometry.chain_fits table base isBase, (table.forest.path base isBase).iterate⟩

end Table

theorem WellFormed.tablesOk (wellFormed : tbl.WellFormed held) : tbl.TablesOk held := by
  obtain ⟨geometry, ruleChain, indexChain, entryOf, chains, handles⟩ := wellFormed
  have baseNe : ∀ base, tbl.IsBaseSlot base → base ≠ 0 := fun base isBase => isBase.1.ne'
  have ruleFits := geometry.chain_fits chains.rules
  have indexFits := geometry.chain_fits chains.index
  have dstAt : ∀ one ∈ held, tbl.dstSlotAt (entryOf one.ruleHdl) = tbl.dstSlot one.rule := by
    intro one oneMem
    rw [dstSlotAt, handles.content one oneMem, clientRule_clientContent]
  have srcAt : ∀ one ∈ held, tbl.srcSlotAt (entryOf one.ruleHdl) = tbl.srcSlot one.rule := by
    intro one oneMem
    rw [srcSlotAt, handles.content one oneMem, clientRule_clientContent]
  constructor
  case rule_ends => exact geometry.chain_ends chains.rules
  case index_ends => exact geometry.chain_ends chains.index
  case rule_place =>
    intro one oneMem
    have isSlot := handles.slot one oneMem
    have isLive := handles.live one oneMem
    have dstBase := geometry.isBaseSlot_dstSlot one.rule (chains.many isSlot isLive.1)
    have place := chains.dst_place _ isSlot isLive
    rw [dstAt one oneMem] at place
    rw [handles.hdlEntry_eq geometry oneMem]
    refine ⟨isLive, dstBase, ?_⟩
    intro base isBase
    exact chains.rules.mem_entriesOf_iff dstBase isBase (baseNe base isBase)
      (ruleFits base isBase) isLive.1 place
  case index_place =>
    intro one oneMem
    have isSlot := handles.slot one oneMem
    have isLive := handles.live one oneMem
    have srcBase := geometry.isBaseSlot_srcSlot one.rule (chains.many isSlot isLive.1)
    have place := chains.src_place _ isSlot isLive
    have named := (chains.index_of_rule _ isSlot isLive).2
    rw [srcAt one oneMem] at place
    rw [handles.hdlEntry_eq geometry oneMem]
    refine ⟨srcBase, (tbl.ipv4Rules (entryOf one.ruleHdl)).indxTblEntry, ?_, ?_⟩
    · intro other
      constructor
      · intro otherNames
        have otherUsed : tbl.IndexUsed other := by
          rw [IndexUsed, otherNames]
          exact isSlot.pos
        have indxEq := (chains.rule_of_index other (chains.index_only_slots other otherUsed)
          otherUsed).2.2
        rw [otherNames] at indxEq
        exact indxEq.symm
      · rintro rfl
        exact named
    · intro base isBase
      refine chains.index.mem_entriesOf_iff srcBase isBase (baseNe base isBase)
        (indexFits base isBase) ?_ place
      rw [IndexUsed, named]
      exact isSlot.pos
  case rule_only =>
    intro base isBase slot slotMem
    have isUsed := chains.rules.used_of_mem_entriesOf isBase (baseNe base isBase)
      (ruleFits base isBase) slotMem
    obtain ⟨-, place⟩ := (chains.rules.mem_entriesOf isBase (baseNe base isBase)
      (ruleFits base isBase)).mp slotMem
    by_cases reserved : (tbl.ipv4Rules slot).protocol = natInvalidProtoFieldCmp
    · right
      rcases List.mem_cons.mp place with rfl | inChain
      · exact ⟨rfl, ⟨isUsed, reserved⟩, chains.dead_has_next slot isBase ⟨isUsed, reserved⟩⟩
      · have isExpn := chains.rules.overflow_of_mem base isBase slot inChain
        exact absurd reserved (chains.expn_live slot isExpn isUsed).2
    · left
      obtain ⟨one, oneMem, entryEq⟩ :=
        handles.covered slot (chains.rule_only_slots slot isUsed) ⟨isUsed, reserved⟩
      exact ⟨one, oneMem, (handles.hdlEntry_eq geometry oneMem).trans entryEq⟩
  case index_only =>
    intro base isBase indx indxMem
    have isUsed := chains.index.used_of_mem_entriesOf isBase (baseNe base isBase)
      (indexFits base isBase) indxMem
    obtain ⟨tblSlot, tblLive, -⟩ :=
      chains.rule_of_index indx (chains.index_only_slots indx isUsed) isUsed
    obtain ⟨one, oneMem, entryEq⟩ := handles.covered _ tblSlot tblLive
    exact ⟨one, oneMem, (handles.hdlEntry_eq geometry oneMem).trans entryEq⟩
  case rule_nodup =>
    exact fun base isBase => chains.rules.entriesOf_nodup isBase (baseNe base isBase)
      (ruleFits base isBase)
  case index_nodup =>
    exact fun base isBase => chains.index.entriesOf_nodup isBase (baseNe base isBase)
      (indexFits base isBase)
  case rule_used =>
    exact fun slot isUsed => chains.rules.exists_entriesOf baseNe ruleFits
      (chains.rule_only_slots slot isUsed) isUsed
  case index_used =>
    exact fun indx isUsed => chains.index.exists_entriesOf baseNe indexFits
      (chains.index_only_slots indx isUsed) isUsed
  case rule_linked =>
    exact fun base isBase => chains.rules.entriesOf_linked isBase (baseNe base isBase)
      (ruleFits base isBase)
  case index_linked =>
    exact fun base isBase => chains.index.entriesOf_linked isBase (baseNe base isBase)
      (indexFits base isBase)

end IpaNatIp4TableCache

/-- In every session the driver returns from every operation, and both tables are well formed. -/
theorem reachable_tablesOk {publicAddr : BitVec 32} {tableEntries expnTableEntries : ℕ}
    {session : NatSession} (size : TableSize tableEntries expnTableEntries)
    (reached : Reachable publicAddr tableEntries expnTableEntries session) :
    session.tbl.TablesOk session.held ∧
      ∀ op : NatOp, op.Allowed session.held → ∃ next, session.apply op = some next := by
  obtain ⟨wellFormed, -⟩ := NatSession.reachable_wellFormed size reached
  refine ⟨wellFormed.tablesOk, ?_⟩
  intro op allowed
  obtain ⟨next, applied, -, -⟩ := NatSession.apply_wellFormed wellFormed allowed
  exact ⟨next, applied⟩

theorem reachable_tablesOk_dead_head :
    let first : IpaNatIpv4Rule := ⟨0x0A000001, 0xC0A80001, 80, 1000, 2000, 6⟩
    let second : IpaNatIpv4Rule := ⟨0x0A000001, 0xC0A80002, 80, 1000, 2000, 6⟩
    ∃ session : NatSession, session.held = [⟨2, second⟩] ∧
      session.tbl.DeadHead (session.tbl.dstSlot first) ∧ session.tbl.TablesOk session.held := by
  intro first second
  have start : Reachable 0x01020304 4 2 ⟨.zeroed 0x01020304 4 2, []⟩ := .start rfl
  have reached := ((start.apply (.add first) (by decide) (by decide +kernel)).apply
    (.add second) (by decide) (by decide +kernel)).apply (.del 1) (by decide +kernel)
    (by decide +kernel)
  exact ⟨_, by decide +kernel, by decide +kernel,
    (reachable_tablesOk ⟨by decide, by decide, by decide⟩ reached).1⟩

end HtcPme.IpaNat
