import HtcPme.IpaNat.AddRule

/-!
# Rule handles

A handle is one more than a position of the rule id array, and the rule id there names the table and
the index of the entry.
-/

namespace HtcPme.IpaNat

open List

open Function (update update_of_ne update_self)

structure HandleSize (tableEntries expnTableEntries : ℕ) : Prop where
  base_pos : 0 < tableEntries
  base_le : tableEntries ≤ 2 ^ 15
  expn_lt : expnTableEntries < 2 ^ 15

namespace IpaNatIp4TableCache

variable {tbl tbl' : IpaNatIp4TableCache} {held : List HeldRule} {entryOf : ℕ → ℕ}

section RuleId

variable {slot : ℕ}

theorem ruleIdOf_base (isBase : tbl.IsBaseSlot slot) :
    ruleIdOf tbl slot = BitVec.ofNat 16 slot <<< 1 :=
  if_neg (Nat.not_le.mpr isBase.2)

theorem ruleIdOf_expn (isExpn : tbl.IsExpnSlot slot) :
    ruleIdOf tbl slot = (BitVec.ofNat 16 (slot - tbl.tableEntries) <<< 1) ||| 1 :=
  if_pos isExpn.1.le

theorem shifted_low (word : BitVec 16) : (word <<< 1) &&& 1 = 0 := by
  apply BitVec.eq_of_getLsbD_eq
  intro i bound
  cases i <;> simp

theorem marked_low (word : BitVec 16) : ((word <<< 1) ||| 1) &&& 1 ≠ 0 := by
  intro isZero
  have bit := congrArg (fun value : BitVec 16 => value.getLsbD 0) isZero
  simp at bit

theorem shifted_back {num : ℕ} (small : num < 2 ^ 15) :
    ((BitVec.ofNat 16 num <<< 1) >>> 1).toNat = num := by
  simp only [BitVec.toNat_ushiftRight, BitVec.toNat_shiftLeft, BitVec.toNat_ofNat]
  rw [Nat.mod_eq_of_lt (by omega : num < 2 ^ 16), Nat.shiftLeft_eq,
    Nat.mod_eq_of_lt (by omega), Nat.shiftRight_eq_div_pow]
  omega

theorem marked_back {num : ℕ} (small : num < 2 ^ 15) :
    (((BitVec.ofNat 16 num <<< 1) ||| 1) >>> 1).toNat = num := by
  have drop : ((BitVec.ofNat 16 num <<< 1) ||| 1) >>> 1 = (BitVec.ofNat 16 num <<< 1) >>> 1 := by
    apply BitVec.eq_of_getLsbD_eq
    intro i bound
    simp
  rw [drop, shifted_back small]

theorem Geometry.handleSize (geometry : tbl.Geometry) :
    HandleSize tbl.tableEntries tbl.expnTableEntries := by
  have base := geometry.base_fits
  have expn := geometry.expn_fits
  simp only [natTableEntrySize] at base expn
  exact ⟨geometry.base_pos, by omega, by omega⟩

section Size

variable (size : HandleSize tbl.tableEntries tbl.expnTableEntries)
include size

theorem ruleIdOf_ne_zero (isSlot : tbl.IsSlot slot) : ruleIdOf tbl slot ≠ 0 := by
  have small := size.base_le
  rcases isSlot with isBase | isExpn
  · rw [ruleIdOf_base isBase]
    intro isZero
    have back := shifted_back (isBase.2.trans_le small)
    rw [isZero] at back
    exact isBase.1.ne (by simpa using back)
  · rw [ruleIdOf_expn isExpn]
    intro isZero
    have low := marked_low (BitVec.ofNat 16 (slot - tbl.tableEntries))
    rw [isZero] at low
    simp at low

theorem ipaNatiParseIpv4RuleHdl_eq (isSlot : tbl.IsSlot slot) {ruleHdl : ℕ}
    (hdlLt : ruleHdl < tbl.tableEntries + tbl.expnTableEntries)
    (ruleId : tbl.ruleIdArray (ruleHdl - 1) = ruleIdOf tbl slot) :
    (tbl.IsBaseSlot slot ∧ ipaNatiParseIpv4RuleHdl tbl ruleHdl = (false, slot)) ∨
      (tbl.IsExpnSlot slot ∧
        ipaNatiParseIpv4RuleHdl tbl ruleHdl = (true, slot - tbl.tableEntries)) := by
  have baseSmall := size.base_le
  have expnSmall := size.expn_lt
  unfold ipaNatiParseIpv4RuleHdl
  rw [if_neg (Nat.not_le.mpr hdlLt), ruleId]
  rcases isSlot with isBase | isExpn
  · left
    refine ⟨isBase, ?_⟩
    simp only [ruleIdOf_base isBase, shifted_low, shifted_back (isBase.2.trans_le baseSmall)]
    simp
  · right
    have low := marked_low (BitVec.ofNat 16 (slot - tbl.tableEntries))
    have small : slot - tbl.tableEntries < 2 ^ 15 := by
      have := isExpn.2
      omega
    refine ⟨isExpn, ?_⟩
    simp only [ruleIdOf_expn isExpn, marked_back small]
    simpa using low

end Size

end RuleId

section Count

theorem exists_unused_position (hdls : List ℕ) : ∃ cnt ≤ hdls.length, cnt + 1 ∉ hdls := by
  by_contra allUsed
  push Not at allUsed
  have distinct : ((range (hdls.length + 1)).map (· + 1)).Nodup :=
    nodup_range.map (fun left right => by omega)
  have sub : (range (hdls.length + 1)).map (· + 1) ⊆ hdls := by
    intro hdl hdlMem
    obtain ⟨cnt, cntMem, rfl⟩ := mem_map.mp hdlMem
    exact allUsed cnt (by rw [mem_range] at cntMem; omega)
  have le := (distinct.subperm sub).length_le
  rw [length_map, length_range] at le
  omega

theorem HandlesOk.length_lt (handles : tbl.HandlesOk held entryOf) {entry : ℕ}
    (entrySlot : tbl.IsSlot entry) (entryFree : ¬tbl.LiveRule entry) :
    held.length + 1 < tbl.tableEntries + tbl.expnTableEntries := by
  have distinct : (held.map fun one => entryOf one.ruleHdl).Nodup := by
    refine List.Nodup.map_on ?_ handles.nodup.of_map
    intro one oneMem other otherMem entryEq
    exact inj_on_of_nodup_map handles.nodup oneMem otherMem
      (handles.inj one oneMem other otherMem entryEq)
  have entryNew : entry ∉ held.map fun one => entryOf one.ruleHdl := by
    intro entryMem
    obtain ⟨one, oneMem, rfl⟩ := mem_map.mp entryMem
    exact entryFree (handles.live one oneMem)
  have zeroNew : 0 ∉ entry :: held.map fun one => entryOf one.ruleHdl := by
    intro zeroMem
    rcases mem_cons.mp zeroMem with isEntry | inHeld
    · exact entrySlot.pos isEntry.symm
    · obtain ⟨one, oneMem, isZero⟩ := mem_map.mp inHeld
      exact (handles.slot one oneMem).pos isZero
  have sub : (0 :: entry :: held.map fun one => entryOf one.ruleHdl) ⊆
      range (tbl.tableEntries + tbl.expnTableEntries) := by
    intro slot slotMem
    rw [mem_range]
    rw [mem_cons, mem_cons] at slotMem
    rcases slotMem with rfl | rfl | inHeld
    · have := entrySlot.lt
      omega
    · exact entrySlot.lt
    · obtain ⟨one, oneMem, rfl⟩ := mem_map.mp inHeld
      exact (handles.slot one oneMem).lt
  have le := ((nodup_cons.mpr ⟨zeroNew, nodup_cons.mpr ⟨entryNew, distinct⟩⟩).subperm
    sub).length_le
  simp only [length_cons, length_map, length_range] at le
  omega

end Count

section MakeHandle

theorem HandlesOk.findPosition (handles : tbl.HandlesOk held entryOf) (geometry : tbl.Geometry)
    {entry : ℕ} (entrySlot : tbl.IsSlot entry) (entryFree : ¬tbl.LiveRule entry) :
    ∃ cnt, (range (tbl.tableEntries + tbl.expnTableEntries)).find?
        (fun cnt => tbl.ruleIdArray cnt = 0) = some cnt ∧
      cnt + 1 < tbl.tableEntries + tbl.expnTableEntries ∧
      ∀ one ∈ held, one.ruleHdl ≠ cnt + 1 := by
  obtain ⟨position, positionLe, notHeld⟩ := exists_unused_position (held.map HeldRule.ruleHdl)
  rw [length_map] at positionLe
  have room := handles.length_lt entrySlot entryFree
  have positionFree : tbl.ruleIdArray position = 0 := by
    refine handles.free position ?_
    intro one oneMem hdlEq
    exact notHeld (hdlEq ▸ mem_map_of_mem oneMem)
  cases search : (range (tbl.tableEntries + tbl.expnTableEntries)).find?
      (fun cnt => tbl.ruleIdArray cnt = 0) with
  | none =>
      rw [find?_eq_none] at search
      exact absurd positionFree
        (by simpa using search position (mem_range.mpr (by omega)))
  | some cnt =>
      obtain ⟨isFree, inRange, earlier⟩ := find?_range_eq_some.mp search
      refine ⟨cnt, rfl, ?_, ?_⟩
      · have cntLe : cnt ≤ position := by
          by_contra later
          simpa [positionFree] using earlier position (by omega)
        omega
      · intro one oneMem hdlEq
        have ruleId := handles.ruleId one oneMem
        have atCnt : one.ruleHdl - 1 = cnt := by omega
        rw [atCnt, of_decide_eq_true isFree] at ruleId
        exact ruleIdOf_ne_zero geometry.handleSize (handles.slot one oneMem) ruleId.symm

theorem Stored.handlesOk {rule : IpaNatIpv4Rule} {entry pred indxEntry indxPred cnt : ℕ}
    (stored : Stored tbl tbl' rule entry pred indxEntry indxPred)
    (handles : tbl.HandlesOk held entryOf) (notReserved : rule.protocol ≠ natInvalidProtoFieldCmp)
    (entrySlot : tbl.IsSlot entry) (entryFree : ¬tbl.LiveRule entry)
    (hdlLt : cnt + 1 < tbl.tableEntries + tbl.expnTableEntries)
    (hdlNew : ∀ one ∈ held, one.ruleHdl ≠ cnt + 1) :
    (tbl'.setRuleId cnt (ruleIdOf tbl' entry)).HandlesOk (⟨cnt + 1, rule⟩ :: held)
      (update entryOf (cnt + 1) entry) := by
  have live_iff := stored.liveRule_iff notReserved
  have entryOf_old : ∀ one ∈ held, update entryOf (cnt + 1) entry one.ruleHdl =
      entryOf one.ruleHdl := fun one oneMem => update_of_ne (hdlNew one oneMem) _ _
  have entryOf_ne : ∀ one ∈ held, entryOf one.ruleHdl ≠ entry := by
    intro one oneMem entryEq
    exact entryFree (entryEq ▸ handles.live one oneMem)
  have ruleIdOf_eq : ∀ slot, ruleIdOf tbl' slot = ruleIdOf tbl slot := by
    intro slot
    unfold ruleIdOf
    rw [stored.layout.tableEntries]
  constructor
  case nodup =>
    rw [map_cons, nodup_cons]
    refine ⟨?_, handles.nodup⟩
    intro hdlMem
    obtain ⟨one, oneMem, hdlEq⟩ := mem_map.mp hdlMem
    exact hdlNew one oneMem hdlEq
  case hdl_pos =>
    rw [forall_mem_cons]
    exact ⟨Nat.succ_pos cnt, handles.hdl_pos⟩
  case hdl_lt =>
    rw [forall_mem_cons]
    change _ < tbl'.tableEntries + tbl'.expnTableEntries ∧
      ∀ one ∈ held, one.ruleHdl < tbl'.tableEntries + tbl'.expnTableEntries
    rw [stored.layout.tableEntries, stored.layout.expnTableEntries]
    exact ⟨hdlLt, handles.hdl_lt⟩
  case ruleId =>
    rw [forall_mem_cons]
    refine ⟨by simp [setRuleId, ruleIdOf], ?_⟩
    intro one oneMem
    have notCnt : one.ruleHdl - 1 ≠ cnt := by
      have := handles.hdl_pos one oneMem
      have := hdlNew one oneMem
      omega
    rw [entryOf_old one oneMem]
    change update tbl'.ruleIdArray cnt _ (one.ruleHdl - 1) = ruleIdOf tbl' _
    rw [update_of_ne notCnt, ruleIdOf_eq, stored.ruleIds]
    exact handles.ruleId one oneMem
  case slot =>
    rw [forall_mem_cons]
    change tbl'.IsSlot _ ∧ ∀ one ∈ held, tbl'.IsSlot _
    rw [update_self, stored.layout.isSlot]
    refine ⟨entrySlot, ?_⟩
    intro one oneMem
    rw [entryOf_old one oneMem]
    exact handles.slot one oneMem
  case live =>
    rw [forall_mem_cons]
    change tbl'.LiveRule _ ∧ ∀ one ∈ held, tbl'.LiveRule _
    rw [update_self]
    refine ⟨(live_iff entry).mpr (Or.inr rfl), ?_⟩
    intro one oneMem
    rw [entryOf_old one oneMem, live_iff]
    exact Or.inl (handles.live one oneMem)
  case content =>
    rw [forall_mem_cons]
    change (tbl'.ipv4Rules _).content = clientContent tbl'.publicAddr rule ∧
      ∀ one ∈ held, (tbl'.ipv4Rules _).content = clientContent tbl'.publicAddr one.rule
    rw [update_self, stored.layout.publicAddr]
    refine ⟨stored.rules.content_entry, ?_⟩
    intro one oneMem
    rw [entryOf_old one oneMem, stored.rules.content_other _ (entryOf_ne one oneMem)]
    exact handles.content one oneMem
  case inj =>
    intro one oneMem other otherMem entryEq
    rw [mem_cons] at oneMem otherMem
    rcases oneMem with rfl | oneMem <;> rcases otherMem with rfl | otherMem
    · rfl
    · rw [update_self, entryOf_old other otherMem] at entryEq
      exact absurd entryEq.symm (entryOf_ne other otherMem)
    · rw [update_self, entryOf_old one oneMem] at entryEq
      exact absurd entryEq (entryOf_ne one oneMem)
    · rw [entryOf_old one oneMem, entryOf_old other otherMem] at entryEq
      exact handles.inj one oneMem other otherMem entryEq
  case covered =>
    intro slot isSlot isLive
    change tbl'.IsSlot slot at isSlot
    rw [stored.layout.isSlot] at isSlot
    rcases (live_iff slot).mp isLive with wasLive | rfl
    · obtain ⟨one, oneMem, entryEq⟩ := handles.covered slot isSlot wasLive
      refine ⟨one, mem_cons_of_mem _ oneMem, ?_⟩
      rw [entryOf_old one oneMem, entryEq]
    · exact ⟨_, mem_cons_self, update_self _ _ _⟩
  case free =>
    intro position notHeld
    rw [forall_mem_cons] at notHeld
    have notCnt : position ≠ cnt := by
      intro isCnt
      exact notHeld.1 (by rw [isCnt])
    change update tbl'.ruleIdArray cnt _ position = 0
    rw [update_of_ne notCnt, stored.ruleIds]
    exact handles.free position notHeld.2

end MakeHandle

theorem ChainsOk.of_same_tables {ruleChain indexChain : ℕ → List ℕ}
    (chains : tbl.ChainsOk ruleChain indexChain) (ruleIds : ℕ → BitVec 16) (baseCnt expnCnt : ℕ) :
    ChainsOk { tbl with ruleIdArray := ruleIds, curTblCnt := baseCnt, curExpnTblCnt := expnCnt }
      ruleChain indexChain where
  rules := chains.rules
  index := chains.index
  rule_only_slots := chains.rule_only_slots
  index_only_slots := chains.index_only_slots
  expn_live := chains.expn_live
  dead_has_next := chains.dead_has_next
  index_of_rule := chains.index_of_rule
  rule_of_index := chains.rule_of_index
  dst_place := chains.dst_place
  src_place := chains.src_place

theorem HandlesOk.of_same_tables (handles : tbl.HandlesOk held entryOf) (baseCnt expnCnt : ℕ) :
    HandlesOk { tbl with curTblCnt := baseCnt, curExpnTblCnt := expnCnt } held entryOf where
  nodup := handles.nodup
  hdl_pos := handles.hdl_pos
  hdl_lt := handles.hdl_lt
  ruleId := handles.ruleId
  slot := handles.slot
  live := handles.live
  content := handles.content
  inj := handles.inj
  covered := handles.covered
  free := handles.free

theorem makeHandle_eq (entry : ℕ) {cnt : ℕ}
    (search : (range (tbl.tableEntries + tbl.expnTableEntries)).find?
      (fun cnt => tbl.ruleIdArray cnt = 0) = some cnt) :
    ∃ baseCnt expnCnt, makeHandle tbl entry =
      (.ok (cnt + 1),
        { tbl.setRuleId cnt (ruleIdOf tbl entry) with
          curTblCnt := baseCnt, curExpnTblCnt := expnCnt }) := by
  unfold makeHandle ipaNatiMakeRuleHdl
  simp only [search, Nat.succ_ne_zero, if_false]
  by_cases inExpn : entry ≥ tbl.tableEntries
  · simp only [if_pos inExpn]
    exact ⟨_, _, rfl⟩
  · simp only [if_neg inExpn]
    exact ⟨_, _, rfl⟩

theorem WellFormed.add (wellFormed : tbl.WellFormed held) {rule : IpaNatIpv4Rule}
    (notReserved : rule.protocol ≠ natInvalidProtoFieldCmp) :
    ipaNatiAddIpv4Rule tbl rule = some (.error .einval, tbl) ∨
      ∃ ruleHdl tbl', ipaNatiAddIpv4Rule tbl rule = some (.ok ruleHdl, tbl') ∧
        SameLayout tbl tbl' ∧ tbl'.WellFormed (⟨ruleHdl, rule⟩ :: held) := by
  obtain ⟨geometry, ruleChain, indexChain, entryOf, chains, handles⟩ := wellFormed
  rcases geometry.ipaNatiAddIpv4Rule_cases chains rule with
    failed | ⟨entry, pred, indxEntry, indxPred, stored, place, indexPlace, isStored, added⟩
  · exact Or.inl failed
  right
  have entrySlot := place_entry_isSlot place
  have entryFree : ¬tbl.LiveRule entry := fun live => place_free place live.1
  obtain ⟨cnt, search, hdlLt, hdlNew⟩ := handles.findPosition geometry entrySlot entryFree
  rw [← isStored.layout.tableEntries, ← isStored.layout.expnTableEntries, ← isStored.ruleIds]
    at search
  obtain ⟨baseCnt, expnCnt, made⟩ := makeHandle_eq entry search
  obtain ⟨ruleChain', indexChain', chains'⟩ :=
    isStored.chainsOk chains notReserved place indexPlace
  have layout := isStored.layout
  have geometry' := layout.geometry geometry
  rw [made] at added
  refine ⟨cnt + 1, _, added, ⟨layout.valid, layout.publicAddr, layout.tblAddrOffset,
    layout.tableEntries, layout.expnTableEntries⟩, ?_⟩
  exact ⟨⟨geometry'.valid, geometry'.offset_zero, geometry'.base_pos, geometry'.base_fits,
      geometry'.expn_fits⟩, ruleChain', indexChain', _, chains'.of_same_tables _ _ _,
    (isStored.handlesOk handles notReserved entrySlot entryFree hdlLt hdlNew).of_same_tables _ _⟩

end IpaNatIp4TableCache

end HtcPme.IpaNat
