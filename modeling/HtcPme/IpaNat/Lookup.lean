import HtcPme.IpaNat.Session
import Mathlib.Data.List.Perm.Basic

/-!
# What the two lookups find

An inbound lookup walks a chain of the rule table, an outbound lookup walks a chain of the index
table and follows `tbl_entry`.
-/

namespace HtcPme.IpaNat

open List

namespace IpaNatIp4TableCache

def foundByDst (tbl : IpaNatIp4TableCache) : List ℕ :=
  ((List.range tbl.tableEntries).flatMap tbl.ruleChainOf).filter fun slot => tbl.LiveRule slot

/-- The entries found by walking all chains of the index table and following `tbl_entry`. -/
def foundBySrc (tbl : IpaNatIp4TableCache) : List ℕ :=
  ((List.range tbl.tableEntries).flatMap tbl.indexChainOf).map
    fun indx => (tbl.indexTable indx).tblEntry

def contentAt (tbl : IpaNatIp4TableCache) (slot : ℕ) : RuleContent := (tbl.ipv4Rules slot).content

def heldContent (tbl : IpaNatIp4TableCache) (one : HeldRule) : RuleContent :=
  clientContent tbl.publicAddr one.rule

variable {tbl : IpaNatIp4TableCache} {held : List HeldRule}

theorem mem_flatMap_base {chainOf : ℕ → List ℕ} {slot : ℕ} (zero : chainOf 0 = []) :
    slot ∈ (range tbl.tableEntries).flatMap chainOf ↔
      ∃ base, tbl.IsBaseSlot base ∧ slot ∈ chainOf base := by
  rw [mem_flatMap]
  constructor
  · rintro ⟨base, baseMem, slotMem⟩
    refine ⟨base, ⟨?_, mem_range.mp baseMem⟩, slotMem⟩
    rw [Nat.pos_iff_ne_zero]
    rintro rfl
    rw [zero] at slotMem
    exact not_mem_nil slotMem
  · rintro ⟨base, isBase, slotMem⟩
    exact ⟨base, mem_range.mpr isBase.2, slotMem⟩

theorem nodup_flatMap_base {chainOf : ℕ → List ℕ} (zero : chainOf 0 = [])
    (nodup : ∀ base, tbl.IsBaseSlot base → (chainOf base).Nodup)
    (only : ∀ slot base other, tbl.IsBaseSlot base → tbl.IsBaseSlot other → slot ∈ chainOf base →
      slot ∈ chainOf other → base = other) :
    ((range tbl.tableEntries).flatMap chainOf).Nodup := by
  have isBase : ∀ base ∈ range tbl.tableEntries, ∀ slot ∈ chainOf base,
      tbl.IsBaseSlot base := by
    intro base baseMem slot slotMem
    refine ⟨?_, mem_range.mp baseMem⟩
    rw [Nat.pos_iff_ne_zero]
    rintro rfl
    rw [zero] at slotMem
    exact not_mem_nil slotMem
  rw [nodup_flatMap]
  constructor
  · intro base baseMem
    cases split : chainOf base with
    | nil => exact nodup_nil
    | cons first rest =>
        rw [← split]
        exact nodup base (isBase base baseMem first (by simp [split]))
  · refine List.Pairwise.imp_of_mem ?_ (nodup_range (n := tbl.tableEntries))
    intro base other baseMem otherMem baseNe slot inBase inOther
    exact baseNe (only slot base other (isBase base baseMem slot inBase)
      (isBase other otherMem slot inOther) inBase inOther)

section WellFormed

variable (wellFormed : tbl.WellFormed held)
include wellFormed

theorem WellFormed.chainOf_zero : tbl.ruleChainOf 0 = [] ∧ tbl.indexChainOf 0 = [] := by
  obtain ⟨-, _, _, _, chains, -⟩ := wellFormed
  exact ⟨if_neg fun isUsed => (chains.rule_only_slots 0 isUsed).pos rfl,
    if_neg fun isUsed => (chains.index_only_slots 0 isUsed).pos rfl⟩

theorem WellFormed.hdlEntry_inj {one other : HeldRule} (oneMem : one ∈ held)
    (otherMem : other ∈ held) (entryEq : tbl.hdlEntry one.ruleHdl = tbl.hdlEntry other.ruleHdl) :
    one = other := by
  obtain ⟨geometry, _, _, entryOf, -, handles⟩ := wellFormed
  rw [handles.hdlEntry_eq geometry oneMem, handles.hdlEntry_eq geometry otherMem] at entryEq
  exact inj_on_of_nodup_map handles.nodup oneMem otherMem
    (handles.inj one oneMem other otherMem entryEq)

theorem WellFormed.nodup_entries :
    (held.map fun one => tbl.hdlEntry one.ruleHdl).Nodup := by
  have distinct : held.Nodup := by
    obtain ⟨-, _, _, _, -, handles⟩ := wellFormed
    exact handles.nodup.of_map
  exact List.Nodup.map_on (fun one oneMem other otherMem => wellFormed.hdlEntry_inj oneMem otherMem)
    distinct

theorem WellFormed.contentAt_hdlEntry {one : HeldRule} (oneMem : one ∈ held) :
    tbl.contentAt (tbl.hdlEntry one.ruleHdl) = tbl.heldContent one := by
  obtain ⟨geometry, _, _, entryOf, -, handles⟩ := wellFormed
  rw [handles.hdlEntry_eq geometry oneMem]
  exact handles.content one oneMem

theorem WellFormed.foundByDst_perm :
    tbl.foundByDst.Perm (held.map fun one => tbl.hdlEntry one.ruleHdl) := by
  have ok := wellFormed.tablesOk
  have zero := wellFormed.chainOf_zero.1
  have distinct : tbl.foundByDst.Nodup := by
    refine (nodup_flatMap_base zero ok.rule_nodup ?_).filter _
    intro slot base other isBase otherIsBase inBase inOther
    rcases ok.rule_only base isBase slot inBase with ⟨one, oneMem, rfl⟩ | ⟨rfl, dead, -⟩
    · obtain ⟨-, -, onChain⟩ := ok.rule_place one oneMem
      exact ((onChain base isBase).mp inBase).trans ((onChain other otherIsBase).mp inOther).symm
    · rcases ok.rule_only other otherIsBase slot inOther with ⟨one, oneMem, rfl⟩ | ⟨isOther, -⟩
      · exact absurd dead.2 (ok.rule_place one oneMem).1.2
      · exact isOther
  refine (perm_ext_iff_of_nodup distinct wellFormed.nodup_entries).mpr ?_
  intro slot
  rw [foundByDst, mem_filter, mem_flatMap_base zero, mem_map]
  constructor
  · rintro ⟨⟨base, isBase, slotMem⟩, isLive⟩
    rcases ok.rule_only base isBase slot slotMem with found | ⟨-, dead, -⟩
    · exact found
    · exact absurd dead.2 (of_decide_eq_true isLive).2
  · rintro ⟨one, oneMem, rfl⟩
    obtain ⟨isLive, isBase, onChain⟩ := ok.rule_place one oneMem
    exact ⟨⟨_, isBase, (onChain _ isBase).mpr rfl⟩, decide_eq_true isLive⟩

theorem WellFormed.foundBySrc_perm :
    tbl.foundBySrc.Perm (held.map fun one => tbl.hdlEntry one.ruleHdl) := by
  have ok := wellFormed.tablesOk
  have zero := wellFormed.chainOf_zero.2
  -- An index entry on a chain is the only one that names its rule.
  have unique : ∀ indx base, tbl.IsBaseSlot base → indx ∈ tbl.indexChainOf base →
      ∃ one ∈ held, (∀ other, (tbl.indexTable other).tblEntry = tbl.hdlEntry one.ruleHdl ↔
        other = indx) ∧ ∀ other, tbl.IsBaseSlot other →
          (indx ∈ tbl.indexChainOf other ↔ other = tbl.srcSlot one.rule) := by
    intro indx base isBase indxMem
    obtain ⟨one, oneMem, entryEq⟩ := ok.index_only base isBase indx indxMem
    obtain ⟨-, found, names, onChain⟩ := ok.index_place one oneMem
    obtain rfl := (names indx).mp entryEq.symm
    exact ⟨one, oneMem, names, onChain⟩
  have distinct : tbl.foundBySrc.Nodup := by
    refine List.Nodup.map_on ?_ (nodup_flatMap_base zero ok.index_nodup ?_)
    · intro indx indxMem other otherMem entryEq
      obtain ⟨base, isBase, inChain⟩ := (mem_flatMap_base zero).mp indxMem
      obtain ⟨one, -, names, -⟩ := unique indx base isBase inChain
      exact ((names other).mp (entryEq.symm.trans ((names indx).mpr rfl))).symm
    · intro indx base other isBase otherIsBase inBase inOther
      obtain ⟨one, -, -, onChain⟩ := unique indx base isBase inBase
      exact ((onChain base isBase).mp inBase).trans ((onChain other otherIsBase).mp inOther).symm
  refine (perm_ext_iff_of_nodup distinct wellFormed.nodup_entries).mpr ?_
  intro slot
  rw [foundBySrc, mem_map, mem_map]
  constructor
  · rintro ⟨indx, indxMem, rfl⟩
    obtain ⟨base, isBase, inChain⟩ := (mem_flatMap_base zero).mp indxMem
    exact ok.index_only base isBase indx inChain
  · rintro ⟨one, oneMem, rfl⟩
    obtain ⟨isBase, indx, names, onChain⟩ := ok.index_place one oneMem
    exact ⟨indx, (mem_flatMap_base zero).mpr ⟨_, isBase, (onChain _ isBase).mpr rfl⟩,
      (names indx).mpr rfl⟩

theorem WellFormed.contents_perm {found : List ℕ}
    (perm : found.Perm (held.map fun one => tbl.hdlEntry one.ruleHdl)) :
    (found.map tbl.contentAt).Perm (held.map tbl.heldContent) := by
  have contents : held.map tbl.heldContent =
      (held.map fun one => tbl.hdlEntry one.ruleHdl).map tbl.contentAt := by
    rw [map_map]
    exact map_congr_left fun one oneMem => (wellFormed.contentAt_hdlEntry oneMem).symm
  rw [contents]
  exact perm.map _

end WellFormed

structure DeletedOnly (tbl tbl' : IpaNatIp4TableCache) (held : List HeldRule) (gone : HeldRule) :
    Prop where
  gone_dst : tbl.hdlEntry gone.ruleHdl ∉ tbl'.foundByDst
  gone_src : tbl.hdlEntry gone.ruleHdl ∉ tbl'.foundBySrc
  same_entry : ∀ other ∈ held, other ≠ gone →
    tbl'.hdlEntry other.ruleHdl = tbl.hdlEntry other.ruleHdl
  same_content : ∀ other ∈ held, other ≠ gone →
    tbl'.contentAt (tbl.hdlEntry other.ruleHdl) = tbl.contentAt (tbl.hdlEntry other.ruleHdl)
  found_dst : ∀ other ∈ held, other ≠ gone → tbl.hdlEntry other.ruleHdl ∈ tbl'.foundByDst
  found_src : ∀ other ∈ held, other ≠ gone → tbl.hdlEntry other.ruleHdl ∈ tbl'.foundBySrc

theorem WellFormed.deletedOnly (wellFormed : tbl.WellFormed held) {gone : HeldRule}
    (goneMem : gone ∈ held) :
    ∃ tbl', ipaNatiDelIpv4Rule tbl gone.ruleHdl = (.ok (), tbl') ∧
      DeletedOnly tbl tbl' held gone := by
  obtain ⟨tbl', deleted, layout, wellFormed', ruleIds⟩ := wellFormed.del goneMem
  have distinctHdl : ∀ other ∈ held, other ≠ gone → other.ruleHdl ≠ gone.ruleHdl := by
    intro other otherMem otherNe hdlEq
    exact otherNe (wellFormed.hdlEntry_inj otherMem goneMem (by rw [hdlEq]))
  have sameEntry : ∀ other ∈ held, other ≠ gone →
      tbl'.hdlEntry other.ruleHdl = tbl.hdlEntry other.ruleHdl := by
    intro other otherMem otherNe
    have hdlNe := distinctHdl other otherMem otherNe
    have positive : 0 < other.ruleHdl ∧ 0 < gone.ruleHdl := by
      obtain ⟨-, _, _, _, -, handles⟩ := wellFormed
      exact ⟨handles.hdl_pos other otherMem, handles.hdl_pos gone goneMem⟩
    unfold hdlEntry ipaNatiParseIpv4RuleHdl
    rw [layout.tableEntries, layout.expnTableEntries, ruleIds _ (by omega)]
  have stays : ∀ other ∈ held, other ≠ gone → other ∈ withoutHdl held gone.ruleHdl :=
    fun other otherMem otherNe =>
      mem_withoutHdl.mpr ⟨otherMem, distinctHdl other otherMem otherNe⟩
  have notFound : tbl.hdlEntry gone.ruleHdl ∉
      (withoutHdl held gone.ruleHdl).map fun one => tbl'.hdlEntry one.ruleHdl := by
    intro goneFound
    obtain ⟨other, otherMem, entryEq⟩ := mem_map.mp goneFound
    obtain ⟨wasHeld, hdlNe⟩ := mem_withoutHdl.mp otherMem
    have otherNe : other ≠ gone := fun isGone => hdlNe (by rw [isGone])
    rw [sameEntry other wasHeld otherNe] at entryEq
    exact otherNe (wellFormed.hdlEntry_inj wasHeld goneMem entryEq)
  have isFound : ∀ other ∈ held, other ≠ gone → tbl.hdlEntry other.ruleHdl ∈
      (withoutHdl held gone.ruleHdl).map fun one => tbl'.hdlEntry one.ruleHdl := by
    intro other otherMem otherNe
    exact mem_map.mpr ⟨other, stays other otherMem otherNe, sameEntry other otherMem otherNe⟩
  refine ⟨tbl', deleted, ?_⟩
  constructor
  case gone_dst => exact fun found => notFound (wellFormed'.foundByDst_perm.mem_iff.mp found)
  case gone_src => exact fun found => notFound (wellFormed'.foundBySrc_perm.mem_iff.mp found)
  case same_entry => exact sameEntry
  case same_content =>
    intro other otherMem otherNe
    rw [wellFormed.contentAt_hdlEntry otherMem, ← sameEntry other otherMem otherNe,
      wellFormed'.contentAt_hdlEntry (stays other otherMem otherNe), heldContent, heldContent,
      layout.publicAddr]
  case found_dst =>
    exact fun other otherMem otherNe =>
      wellFormed'.foundByDst_perm.mem_iff.mpr (isFound other otherMem otherNe)
  case found_src =>
    exact fun other otherMem otherNe =>
      wellFormed'.foundBySrc_perm.mem_iff.mpr (isFound other otherMem otherNe)

end IpaNatIp4TableCache

open IpaNatIp4TableCache

/-- In every session both lookups find exactly the held rules, with the contents they were added
with and each under its own handle; a deletion takes one rule out of both and touches no other. -/
theorem reachable_lookups {publicAddr : BitVec 32} {tableEntries expnTableEntries : ℕ}
    {session : NatSession} (size : TableSize tableEntries expnTableEntries)
    (reached : Reachable publicAddr tableEntries expnTableEntries session) :
    (session.tbl.foundByDst.map session.tbl.contentAt).Perm
        (session.held.map fun one => clientContent publicAddr one.rule) ∧
      (session.tbl.foundBySrc.map session.tbl.contentAt).Perm
        (session.held.map fun one => clientContent publicAddr one.rule) ∧
      (∀ one ∈ session.held, session.tbl.contentAt (session.tbl.hdlEntry one.ruleHdl) =
        clientContent publicAddr one.rule) ∧
      ∀ gone ∈ session.held, ∃ next, session.apply (.del gone.ruleHdl) = some next ∧
        next.held = withoutHdl session.held gone.ruleHdl ∧
        DeletedOnly session.tbl next.tbl session.held gone := by
  obtain ⟨wellFormed, layout⟩ := NatSession.reachable_wellFormed size reached
  have content : session.tbl.heldContent = fun one => clientContent publicAddr one.rule := by
    funext one
    rw [heldContent, layout.publicAddr]
    rfl
  refine ⟨?_, ?_, ?_, ?_⟩
  · rw [← content]
    exact wellFormed.contents_perm wellFormed.foundByDst_perm
  · rw [← content]
    exact wellFormed.contents_perm wellFormed.foundBySrc_perm
  · intro one oneMem
    rw [wellFormed.contentAt_hdlEntry oneMem, content]
  · intro gone goneMem
    obtain ⟨tbl', deleted, only⟩ := wellFormed.deletedOnly goneMem
    refine ⟨⟨tbl', withoutHdl session.held gone.ruleHdl⟩, ?_, rfl, only⟩
    simp only [NatSession.apply, deleted]

theorem reachable_lookups_reused_base :
    let first : IpaNatIpv4Rule := ⟨0x0A000001, 0xC0A80001, 80, 1000, 2000, 6⟩
    let second : IpaNatIpv4Rule := ⟨0x0A000001, 0xC0A80002, 80, 1000, 2000, 6⟩
    ∃ session : NatSession, session.held = [⟨1, first⟩] ∧
      session.tbl.hdlEntry 1 = session.tbl.dstSlot second ∧
      (session.tbl.foundByDst.map session.tbl.contentAt).Perm
        (session.held.map fun one => clientContent 0x01020304 one.rule) := by
  intro first second
  have start : Reachable 0x01020304 4 2 ⟨.zeroed 0x01020304 4 2, []⟩ := .start rfl
  have filled := (start.apply (.add second) (by decide) (by decide +kernel)).apply
    (.add first) (by decide) (by decide +kernel)
  have emptied := (filled.apply (.del 1) (by decide +kernel) (by decide +kernel)).apply
    (.del 2) (by decide +kernel) (by decide +kernel)
  have reached := emptied.apply (.add first) (by decide) (by decide +kernel)
  have found := (reachable_lookups ⟨by decide, by decide, by decide⟩ reached).1
  exact ⟨_, by decide +kernel, by decide +kernel, found⟩

namespace IpaNatIp4TableCache

/-- A packet from outside has the target and the public port of a rule. -/
def SameInbound (rule packet : IpaNatIpv4Rule) : Prop :=
  rule.targetIp = packet.targetIp ∧ rule.targetPort = packet.targetPort ∧
    rule.publicPort = packet.publicPort ∧ rule.protocol = packet.protocol
deriving Decidable

def SameOutbound (rule packet : IpaNatIpv4Rule) : Prop :=
  rule.privateIp = packet.privateIp ∧ rule.privatePort = packet.privatePort ∧
    rule.targetIp = packet.targetIp ∧ rule.targetPort = packet.targetPort ∧
    rule.protocol = packet.protocol
deriving Decidable

/-- The entries that match a packet on the chain of its hash. -/
def lookupDst (tbl : IpaNatIp4TableCache) (packet : IpaNatIpv4Rule) : List ℕ :=
  (tbl.ruleChainOf (tbl.dstSlot packet)).filter fun slot =>
    SameInbound (tbl.contentAt slot).clientRule packet

def lookupSrc (tbl : IpaNatIp4TableCache) (packet : IpaNatIpv4Rule) : List ℕ :=
  ((tbl.indexChainOf (tbl.srcSlot packet)).map fun indx => (tbl.indexTable indx).tblEntry).filter
    fun slot => SameOutbound (tbl.contentAt slot).clientRule packet

variable {tbl : IpaNatIp4TableCache} {held : List HeldRule} {packet : IpaNatIpv4Rule} {slot : ℕ}

theorem WellFormed.slot_cases (wellFormed : tbl.WellFormed held) (packet : IpaNatIpv4Rule) :
    tbl.IsBaseSlot (tbl.dstSlot packet) ∧ tbl.IsBaseSlot (tbl.srcSlot packet) ∨
      tbl.dstSlot packet = 0 ∧ tbl.srcSlot packet = 0 := by
  have geometry := wellFormed.1
  by_cases many : 1 < tbl.tableEntries
  · exact .inl ⟨geometry.isBaseSlot_dstSlot _ many, geometry.isBaseSlot_srcSlot _ many⟩
  · right
    have single : tbl.tableEntries = 1 := by
      have := geometry.base_pos
      omega
    simp [dstSlot, srcSlot, dstHash, srcHash, hashSize, single]

theorem WellFormed.clientRule_eq (wellFormed : tbl.WellFormed held) {one : HeldRule}
    (oneMem : one ∈ held) : (tbl.contentAt (tbl.hdlEntry one.ruleHdl)).clientRule = one.rule := by
  rw [wellFormed.contentAt_hdlEntry oneMem, heldContent, clientRule_clientContent]

theorem WellFormed.mem_lookupDst (wellFormed : tbl.WellFormed held)
    (real : packet.protocol ≠ natInvalidProtoFieldCmp) :
    slot ∈ tbl.lookupDst packet ↔
      ∃ one ∈ held, SameInbound one.rule packet ∧ tbl.hdlEntry one.ruleHdl = slot := by
  have ok := wellFormed.tablesOk
  simp only [lookupDst, mem_filter, decide_eq_true_eq]
  constructor
  · rintro ⟨onChain, same⟩
    rcases wellFormed.slot_cases packet with ⟨isBase, -⟩ | ⟨isZero, -⟩
    · rcases ok.rule_only _ isBase slot onChain with ⟨one, oneMem, rfl⟩ | ⟨-, dead, -⟩
      · rw [wellFormed.clientRule_eq oneMem] at same
        exact ⟨one, oneMem, same, rfl⟩
      · exact absurd (same.2.2.2.symm.trans dead.2) real
    · simp [isZero, wellFormed.chainOf_zero] at onChain
  · rintro ⟨one, oneMem, same, rfl⟩
    rw [wellFormed.clientRule_eq oneMem]
    have sameSlot : tbl.dstSlot packet = tbl.dstSlot one.rule := by
      rcases same with ⟨ip, port, publicPort, protocol⟩
      simp only [dstSlot, ip, port, publicPort, protocol]
    rcases ok.rule_place one oneMem with ⟨-, isBase, place⟩
    exact ⟨sameSlot ▸ (place _ isBase).mpr rfl, same⟩

theorem WellFormed.mem_lookupSrc (wellFormed : tbl.WellFormed held) :
    slot ∈ tbl.lookupSrc packet ↔
      ∃ one ∈ held, SameOutbound one.rule packet ∧ tbl.hdlEntry one.ruleHdl = slot := by
  have ok := wellFormed.tablesOk
  simp only [lookupSrc, mem_filter, mem_map, decide_eq_true_eq]
  constructor
  · rintro ⟨⟨indx, onChain, rfl⟩, same⟩
    rcases wellFormed.slot_cases packet with ⟨-, isBase⟩ | ⟨-, isZero⟩
    · rcases ok.index_only _ isBase indx onChain with ⟨one, oneMem, entryEq⟩
      rw [← entryEq, wellFormed.clientRule_eq oneMem] at same
      exact ⟨one, oneMem, same, entryEq⟩
    · simp [isZero, wellFormed.chainOf_zero] at onChain
  · rintro ⟨one, oneMem, same, rfl⟩
    rw [wellFormed.clientRule_eq oneMem]
    have sameSlot : tbl.srcSlot packet = tbl.srcSlot one.rule := by
      rcases same with ⟨privateIp, privatePort, ip, port, protocol⟩
      simp only [srcSlot, privateIp, privatePort, ip, port, protocol]
    rcases ok.index_place one oneMem with ⟨isBase, indx, named, place⟩
    exact ⟨⟨indx, sameSlot ▸ (place _ isBase).mpr rfl, (named indx).mpr rfl⟩, same⟩

end IpaNatIp4TableCache

/-- In every session the chains of a packet's hashes lead to the rules that are held for it, and to
no other. -/
theorem reachable_mem_lookup {publicAddr : BitVec 32} {tableEntries expnTableEntries : ℕ}
    {session : NatSession} (size : TableSize tableEntries expnTableEntries)
    (reached : Reachable publicAddr tableEntries expnTableEntries session)
    (packet : IpaNatIpv4Rule) (real : packet.protocol ≠ natInvalidProtoFieldCmp) (slot : ℕ) :
    (slot ∈ session.tbl.lookupDst packet ↔ ∃ one ∈ session.held,
        SameInbound one.rule packet ∧ session.tbl.hdlEntry one.ruleHdl = slot) ∧
      (slot ∈ session.tbl.lookupSrc packet ↔ ∃ one ∈ session.held,
        SameOutbound one.rule packet ∧ session.tbl.hdlEntry one.ruleHdl = slot) := by
  have wellFormed := (NatSession.reachable_wellFormed size reached).1
  exact ⟨wellFormed.mem_lookupDst real, wellFormed.mem_lookupSrc⟩

theorem reachable_mem_lookup_added :
    let rule : IpaNatIpv4Rule := ⟨0x0A000001, 0xC0A80001, 80, 1000, 2000, 6⟩
    ∃ session : NatSession, session.held = [⟨1, rule⟩] ∧
      session.tbl.hdlEntry 1 ∈ session.tbl.lookupDst { rule with privateIp := 0 } := by
  intro rule
  have start : Reachable 0x01020304 4 2 ⟨.zeroed 0x01020304 4 2, []⟩ := .start rfl
  have reached := start.apply (.add rule) (by decide) (by decide +kernel)
  have found := reachable_mem_lookup ⟨by decide, by decide, by decide⟩ reached
    { rule with privateIp := 0 } (by decide)
  exact ⟨_, by decide +kernel, (found _).1.mpr ⟨⟨1, rule⟩, by decide +kernel, by decide, rfl⟩⟩

end HtcPme.IpaNat
