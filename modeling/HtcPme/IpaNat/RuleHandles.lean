import HtcPme.IpaNat.Session
import HtcPme.IpaNat.TableLifecycle

/-!
# Rule handles over a run

A handle is a position of the rule id array. Every live handle is remembered with the entry it was
made from.
-/

namespace HtcPme.IpaNat

open Function (update update_of_ne update_self)

open IpaNatIp4TableCache List

structure MadeHandle where
  ruleHdl : ℕ
  tblEntry : ℕ
deriving DecidableEq

def MadeHandle.madeFrom (made : MadeHandle) (tbl : IpaNatIp4TableCache) : Bool × ℕ :=
  if made.tblEntry ≥ tbl.tableEntries then (true, made.tblEntry - tbl.tableEntries)
  else (false, made.tblEntry)

structure HandleSession where
  tbl : IpaNatIp4TableCache
  live : List MadeHandle

namespace HandleSession

/-- One successful operation. The driver deletes the rule of the low half of a handle; a low half
of 0 makes it read in front of the rule id array. -/
def apply (session : HandleSession) : NatOp → Option HandleSession
  | .add rule =>
      match ipaNatiGenerateRule session.tbl rule, ipaNatiAddIpv4Rule session.tbl rule with
      | some (.ok (generated, _)), some (.ok ruleHdl, tbl) =>
          some ⟨tbl, ⟨ruleHdl, generated.tblEntry⟩ :: session.live⟩
      | _, _ => none
  | .del ruleHdl =>
      if ruleHdl % 2 ^ 16 = 0 then none
      else
        match ipaNatiDelIpv4Rule session.tbl ruleHdl with
        | (.ok _, tbl) =>
            some ⟨tbl, session.live.filter fun made => made.ruleHdl ≠ ruleHdl % 2 ^ 16⟩
        | (.error _, _) => none

def Step (session : HandleSession) (op : NatOp) (next : HandleSession) : Prop :=
  session.apply op = some next

/-- What clients rely on: handles are distinct, lead to their entries, and lead nowhere once they
are given back. -/
structure HandlesKept (session : HandleSession) : Prop where
  hdl_ne_zero : ∀ made ∈ session.live, made.ruleHdl ≠ 0
  hdl_nodup : (session.live.map MadeHandle.ruleHdl).Nodup
  parsed : ∀ made ∈ session.live,
    ipaNatiParseIpv4RuleHdl session.tbl made.ruleHdl = made.madeFrom session.tbl
  not_live : ∀ ruleHdl, 1 ≤ ruleHdl → (∀ made ∈ session.live, made.ruleHdl ≠ ruleHdl) →
    (ipaNatiParseIpv4RuleHdl session.tbl ruleHdl).2 = invalidNatEntry

/-- An insertion must not get the last position, whose handle is out of the parser's bounds; a
handle to delete must be one of 16 bits. -/
def Meets (session : HandleSession) : NatOp → Prop
  | .add _ => session.live.length + 1 < session.tbl.tableEntries + session.tbl.expnTableEntries
  | .del ruleHdl => ruleHdl < 2 ^ 16

end HandleSession

namespace IpaNatIp4TableCache

variable (tbl : IpaNatIp4TableCache)

def idFields : ℕ × ℕ × (ℕ → BitVec 16) :=
  (tbl.tableEntries, tbl.expnTableEntries, tbl.ruleIdArray)

@[simp]
theorem idFields_setRule (entry : ℕ) (rule : IpaNatRule) :
    (tbl.setRule entry rule).idFields = tbl.idFields := rfl

@[simp]
theorem idFields_setIndex (entry : ℕ) (rule : IpaNatIndxTblRule) :
    (tbl.setIndex entry rule).idFields = tbl.idFields := rfl

@[simp]
theorem idFields_setMeta (entry : ℕ) (prevIndex : BitVec 16) :
    (tbl.setMeta entry prevIndex).idFields = tbl.idFields := rfl

@[simp]
theorem idFields_setRuleId (slot : ℕ) (ruleId : BitVec 16) :
    (tbl.setRuleId slot ruleId).idFields =
      (tbl.idFields.1, tbl.idFields.2.1, update tbl.idFields.2.2 slot ruleId) := rfl

@[simp]
theorem idFields_applyDma (cmd : IpaIocNatDmaOne) :
    (tbl.applyDma cmd).idFields = tbl.idFields := by
  cases baseAddr : cmd.baseAddr <;> simp [applyDma, baseAddr]

@[simp]
theorem idFields_foldl_applyDma (cmds : List IpaIocNatDmaOne) :
    (cmds.foldl applyDma tbl).idFields = tbl.idFields := by
  induction cmds generalizing tbl with
  | nil => rfl
  | cons cmd cmds ih => simp [ih]

@[simp]
theorem idFields_copyIpv4RuleToHw (rule : IpaNatSwRule) (entry : ℕ) :
    (ipaNatiCopyIpv4RuleToHw tbl rule entry).idFields = tbl.idFields := by
  simp only [ipaNatiCopyIpv4RuleToHw, ipaNatiWriteNextIndex]
  split
  · simp
  · split <;> simp

@[simp]
theorem idFields_copyIpv4IndexRuleToHw (rule : IpaNatIndxTblSwRule) (entry : ℕ) :
    (ipaNatiCopyIpv4IndexRuleToHw tbl rule entry).idFields = tbl.idFields := by
  simp only [ipaNatiCopyIpv4IndexRuleToHw, ipaNatiWriteNextIndex]
  split
  · simp
  · split <;> simp

@[simp]
theorem idFields_postIpv4DmaCmd (entry : ℕ) :
    (ipaNatiPostIpv4DmaCmd tbl entry).idFields = tbl.idFields := by
  simp only [ipaNatiPostIpv4DmaCmd]
  split <;> simp

@[simp]
theorem idFields_finishRuleDelete (entry : ℕ) (rulePos : DelType) :
    (finishRuleDelete tbl entry rulePos).idFields = tbl.idFields := by
  cases rulePos <;> simp [finishRuleDelete]

@[simp]
theorem idFields_finishIndexDelete (indxTblEntry nextEntry : ℕ) (indxRulePos : DelType) :
    (finishIndexDelete tbl indxTblEntry indxRulePos nextEntry).idFields = tbl.idFields := by
  cases indxRulePos
  case head =>
    simp only [finishIndexDelete, if_true, idFields_setRule, idFields_setIndex]
    split <;> simp
  all_goals simp [finishIndexDelete]

@[simp]
theorem idFields_delDeadIpv4HeadNodes :
    (ipaNatiDelDeadIpv4HeadNodes tbl).idFields = tbl.idFields := by
  rw [ipaNatiDelDeadIpv4HeadNodes_eq]
  rfl

variable {tbl}

variable {tbl' : IpaNatIp4TableCache}

variable {entry : ℕ} {ruleHdl : ℕ} {generated : GeneratedRule}

theorem idFields_postDelDmaCmd {rulePos : DelType}
    (posted : ipaNatiPostDelDmaCmd tbl entry rulePos = some tbl') :
    tbl'.idFields = tbl.idFields := by
  simp only [ipaNatiPostDelDmaCmd] at posted
  split at posted
  · simp at posted
  · cases posted
    simp

theorem idFields_delIpv4Rule (deleted : ipaNatiDelIpv4Rule tbl ruleHdl = (.ok (), tbl')) :
    (ipaNatiParseIpv4RuleHdl tbl (ruleHdl % 2 ^ 16)).2 ≠ invalidNatEntry ∧
      tbl'.idFields = (tbl.tableEntries, tbl.expnTableEntries,
        update tbl.ruleIdArray (ruleHdl - 1) 0) := by
  simp only [ipaNatiDelIpv4Rule] at deleted
  split at deleted
  · simp at deleted
  · rename_i valid
    refine ⟨valid, ?_⟩
    split at deleted
    · simp at deleted
    · split at deleted
      · simp at deleted
      · rename_i posted
        have same := idFields_postDelDmaCmd posted
        cases deleted
        rw [idFields_setRuleId, idFields_delDeadIpv4HeadNodes, same]
        rfl

variable {rule : IpaNatIpv4Rule}

theorem generateTblRule_isSlot {swRule : IpaNatSwRule}
    (size : HandleSize tbl.tableEntries tbl.expnTableEntries)
    (generated : ipaNatiGenerateTblRule tbl rule = some (entry, swRule))
    (valid : entry ≠ invalidNatEntry) : tbl.IsSlot entry := by
  simp only [ipaNatiGenerateTblRule] at generated
  split at generated
  · cases generated
    left
    refine ⟨Nat.pos_of_ne_zero valid, ?_⟩
    apply dstSlot_lt rule size.base_pos
    have := size.base_le
    omega
  · split at generated
    · simp at generated
    · cases generated
      exact absurd rfl valid
    · split at generated
      · cases generated
        exact absurd rfl valid
      · rename_i found
        cases generated
        right
        rcases expnFreeEntry_spec found with ⟨positive, inSize, -⟩
        simp only [ipaNatiExpnTblFreeEntry, IsExpnSlot]
        omega

theorem generateRule_isSlot (size : HandleSize tbl.tableEntries tbl.expnTableEntries)
    (isGenerated : ipaNatiGenerateRule tbl rule = some (.ok (generated, tbl'))) :
    tbl.IsSlot generated.tblEntry ∧ tbl'.idFields = tbl.idFields := by
  simp only [ipaNatiGenerateRule] at isGenerated
  rcases Option.bind_eq_some_iff.mp isGenerated with ⟨⟨entry, swRule⟩, entryEq, isGenerated⟩
  simp only at isGenerated
  split at isGenerated
  · simp at isGenerated
  · rename_i valid
    rcases Option.bind_eq_some_iff.mp isGenerated with ⟨⟨indx, indexSwRule⟩, -, isGenerated⟩
    simp only at isGenerated
    split at isGenerated
    · simp at isGenerated
    · cases isGenerated
      refine ⟨generateTblRule_isSlot size entryEq valid, ?_⟩
      split <;> simp

theorem makeRuleHdl_eq {entry ruleHdl : ℕ} (positive : ruleHdl ≠ 0)
    (made : ipaNatiMakeRuleHdl tbl entry = (ruleHdl, tbl')) :
    ∃ cnt, ruleHdl = cnt + 1 ∧ (range (tbl.tableEntries + tbl.expnTableEntries)).find?
        (fun cnt => tbl.ruleIdArray cnt = 0) = some cnt ∧
      tbl'.idFields = (tbl.tableEntries, tbl.expnTableEntries,
        update tbl.ruleIdArray cnt (ruleIdOf tbl entry)) := by
  simp only [ipaNatiMakeRuleHdl] at made
  split at made
  · rename_i cnt search
    cases made
    refine ⟨cnt, rfl, search, ?_⟩
    rw [idFields_setRuleId]
    split <;> rfl
  · cases made
    exact absurd rfl positive

theorem idFields_addIpv4Rule {tbl₁ tbl' : IpaNatIp4TableCache}
    (isGenerated : ipaNatiGenerateRule tbl rule = some (.ok (generated, tbl₁)))
    (same : tbl₁.idFields = tbl.idFields)
    (added : ipaNatiAddIpv4Rule tbl rule = some (.ok ruleHdl, tbl')) :
    ∃ cnt, ruleHdl = cnt + 1 ∧ (range (tbl.tableEntries + tbl.expnTableEntries)).find?
        (fun cnt => tbl.ruleIdArray cnt = 0) = some cnt ∧
      tbl'.idFields = (tbl.tableEntries, tbl.expnTableEntries,
        update tbl.ruleIdArray cnt (ruleIdOf tbl generated.tblEntry)) := by
  have sameAll : (ipaNatiPostIpv4DmaCmd (ipaNatiCopyIpv4IndexRuleToHw
      (ipaNatiCopyIpv4RuleToHw tbl₁ generated.swRule generated.tblEntry) generated.indexSwRule
      generated.indxTblEntry) generated.tblEntry).idFields = tbl.idFields := by
    simp [same]
  simp only [ipaNatiAddIpv4Rule, isGenerated] at added
  simp only [Option.bind_eq_bind, Option.bind_some] at added
  split at added
  · simp at added
  · rename_i positive
    cases added
    rcases makeRuleHdl_eq positive rfl with ⟨cnt, hdlEq, search, fields⟩
    simp only [idFields, Prod.mk.injEq] at sameAll fields ⊢
    rcases sameAll with ⟨baseSame, expnSame, idsSame⟩
    refine ⟨cnt, hdlEq, ?_, ?_⟩
    · rw [← baseSame, ← expnSame, ← idsSame]
      exact search
    · refine ⟨fields.1.trans baseSame, fields.2.1.trans expnSame, fields.2.2.trans ?_⟩
      simp [idsSame, ruleIdOf, baseSame]

end IpaNatIp4TableCache

namespace HandleSession

variable {session next : HandleSession}

structure HandlesSound (session : HandleSession) : Prop where
  size : HandleSize session.tbl.tableEntries session.tbl.expnTableEntries
  hdl_nodup : (session.live.map MadeHandle.ruleHdl).Nodup
  hdl_pos : ∀ made ∈ session.live, 0 < made.ruleHdl
  hdl_lt : ∀ made ∈ session.live,
    made.ruleHdl < session.tbl.tableEntries + session.tbl.expnTableEntries
  slot : ∀ made ∈ session.live, session.tbl.IsSlot made.tblEntry
  ruleId : ∀ made ∈ session.live,
    session.tbl.ruleIdArray (made.ruleHdl - 1) = ruleIdOf session.tbl made.tblEntry
  free : ∀ position, (∀ made ∈ session.live, made.ruleHdl ≠ position + 1) →
    session.tbl.ruleIdArray position = 0

structure IdsSound (session : HandleSession) : Prop where
  size : HandleSize session.tbl.tableEntries session.tbl.expnTableEntries
  hdl_nodup : (session.live.map MadeHandle.ruleHdl).Nodup
  hdl_pos : ∀ made ∈ session.live, 0 < made.ruleHdl
  hdl_le : ∀ made ∈ session.live,
    made.ruleHdl ≤ session.tbl.tableEntries + session.tbl.expnTableEntries
  slot : ∀ made ∈ session.live, session.tbl.IsSlot made.tblEntry
  ruleId : ∀ made ∈ session.live,
    session.tbl.ruleIdArray (made.ruleHdl - 1) = ruleIdOf session.tbl made.tblEntry
  free : ∀ position, (∀ made ∈ session.live, made.ruleHdl ≠ position + 1) →
    session.tbl.ruleIdArray position = 0

theorem HandlesSound.idsSound (sound : session.HandlesSound) : session.IdsSound :=
  ⟨sound.size, sound.hdl_nodup, sound.hdl_pos, fun made madeMem => (sound.hdl_lt made madeMem).le,
    sound.slot, sound.ruleId, sound.free⟩

theorem IdsSound.handlesSound (ids : session.IdsSound)
    (hdlLt : ∀ made ∈ session.live,
      made.ruleHdl < session.tbl.tableEntries + session.tbl.expnTableEntries) :
    session.HandlesSound :=
  ⟨ids.size, ids.hdl_nodup, ids.hdl_pos, hdlLt, ids.slot, ids.ruleId, ids.free⟩

theorem IdsSound.of_same (ids : session.IdsSound) (live : next.live = session.live)
    (fields : next.tbl.idFields = session.tbl.idFields) : next.IdsSound := by
  simp only [idFields, Prod.mk.injEq] at fields
  rcases fields with ⟨baseSame, expnSame, idsSame⟩
  constructor
  case size =>
    rw [baseSame, expnSame]
    exact ids.size
  case hdl_nodup =>
    rw [live]
    exact ids.hdl_nodup
  case hdl_pos =>
    rw [live]
    exact ids.hdl_pos
  case hdl_le =>
    rw [live, baseSame, expnSame]
    exact ids.hdl_le
  case slot =>
    rw [live]
    simpa only [IsSlot, IsBaseSlot, IsExpnSlot, baseSame, expnSame] using ids.slot
  case ruleId =>
    rw [live, idsSame]
    simpa only [ruleIdOf, baseSame] using ids.ruleId
  case free =>
    rw [live, idsSame]
    exact ids.free

variable {made : MadeHandle} {tbl : IpaNatIp4TableCache}

theorem madeFrom_base
    (isBase : tbl.IsBaseSlot made.tblEntry) : made.madeFrom tbl = (false, made.tblEntry) :=
  if_neg (Nat.not_le.mpr isBase.2)

theorem madeFrom_expn (isExpn : tbl.IsExpnSlot made.tblEntry) :
    made.madeFrom tbl = (true, made.tblEntry - tbl.tableEntries) :=
  if_pos isExpn.1.le

theorem HandlesSound.handlesKept (sound : session.HandlesSound) : session.HandlesKept := by
  constructor
  case hdl_ne_zero => exact fun made madeMem => (sound.hdl_pos made madeMem).ne'
  case hdl_nodup => exact sound.hdl_nodup
  case parsed =>
    intro made madeMem
    rcases ipaNatiParseIpv4RuleHdl_eq sound.size (sound.slot made madeMem)
      (sound.hdl_lt made madeMem) (sound.ruleId made madeMem) with
      ⟨isBase, parsed⟩ | ⟨isExpn, parsed⟩
    · rw [parsed, madeFrom_base isBase]
    · rw [parsed, madeFrom_expn isExpn]
  case not_live =>
    intro ruleHdl positive notLive
    have back : ruleHdl - 1 + 1 = ruleHdl := by omega
    have isFree := sound.free (ruleHdl - 1) (by simpa [back] using notLive)
    simp only [ipaNatiParseIpv4RuleHdl]
    split
    · rfl
    · simp [isFree]

section Add

variable {cnt : ℕ}

theorem IdsSound.hdl_new (sound : session.IdsSound)
    (isFree : session.tbl.ruleIdArray cnt = 0) :
    ∀ made ∈ session.live, made.ruleHdl ≠ cnt + 1 := by
  intro made madeMem hdlEq
  have ruleId := sound.ruleId made madeMem
  have atCnt : made.ruleHdl - 1 = cnt := by omega
  rw [atCnt, isFree] at ruleId
  exact ruleIdOf_ne_zero sound.size (sound.slot made madeMem) ruleId.symm

theorem HandlesSound.room_iff (sound : session.HandlesSound)
    (search : (range (session.tbl.tableEntries + session.tbl.expnTableEntries)).find?
      (fun cnt => session.tbl.ruleIdArray cnt = 0) = some cnt) :
    cnt + 1 < session.tbl.tableEntries + session.tbl.expnTableEntries ↔
      session.live.length + 1 < session.tbl.tableEntries + session.tbl.expnTableEntries := by
  rcases find?_range_eq_some.mp search with ⟨isFree, -, earlier⟩
  constructor
  · intro room
    have new : cnt + 1 ∉ session.live.map MadeHandle.ruleHdl := by
      intro cntMem
      rcases mem_map.mp cntMem with ⟨made, madeMem, hdlEq⟩
      exact sound.idsSound.hdl_new (of_decide_eq_true isFree) made madeMem hdlEq
    have zero : 0 ∉ (cnt + 1) :: session.live.map MadeHandle.ruleHdl := by
      intro zeroMem
      rcases mem_cons.mp zeroMem with isCnt | inLive
      · omega
      · rcases mem_map.mp inLive with ⟨made, madeMem, isZero⟩
        exact (sound.hdl_pos made madeMem).ne' isZero
    have sub : (0 :: (cnt + 1) :: session.live.map MadeHandle.ruleHdl) ⊆
        range (session.tbl.tableEntries + session.tbl.expnTableEntries) := by
      intro hdl hdlMem
      rw [mem_range]
      simp only [mem_cons, mem_map] at hdlMem
      rcases hdlMem with rfl | rfl | ⟨made, madeMem, rfl⟩
      · omega
      · exact room
      · exact sound.hdl_lt made madeMem
    have distinct := nodup_cons.mpr ⟨zero, nodup_cons.mpr ⟨new, sound.hdl_nodup⟩⟩
    have le := (distinct.subperm sub).length_le
    simp only [length_cons, length_map, length_range] at le
    omega
  · intro room
    rcases exists_unused_position (session.live.map MadeHandle.ruleHdl) with
      ⟨position, positionLe, notLive⟩
    rw [length_map] at positionLe
    have positionFree : session.tbl.ruleIdArray position = 0 := by
      apply sound.free
      intro made madeMem hdlEq
      exact notLive (hdlEq ▸ mem_map_of_mem madeMem)
    have cntLe : cnt ≤ position := by
      by_contra later
      simpa [positionFree] using earlier position (by omega)
    omega

variable {rule : IpaNatIpv4Rule}

theorem add_spec (size : HandleSize session.tbl.tableEntries session.tbl.expnTableEntries)
    (applied : session.apply (.add rule) = some next) :
    ∃ cnt entry, session.tbl.IsSlot entry ∧ next.live = ⟨cnt + 1, entry⟩ :: session.live ∧
      (range (session.tbl.tableEntries + session.tbl.expnTableEntries)).find?
        (fun cnt => session.tbl.ruleIdArray cnt = 0) = some cnt ∧
      next.tbl.idFields = (session.tbl.tableEntries, session.tbl.expnTableEntries,
        update session.tbl.ruleIdArray cnt (ruleIdOf session.tbl entry)) := by
  simp only [apply] at applied
  split at applied
  · rename_i isGenerated added
    cases applied
    rcases generateRule_isSlot size isGenerated with ⟨isSlot, same⟩
    rcases idFields_addIpv4Rule isGenerated same added with ⟨cnt, rfl, search, fields⟩
    exact ⟨cnt, _, isSlot, rfl, search, fields⟩
  · simp at applied

variable {entry : ℕ}

theorem IdsSound.add (sound : session.IdsSound)
    (isSlot : session.tbl.IsSlot entry) (live : next.live = ⟨cnt + 1, entry⟩ :: session.live)
    (isFree : session.tbl.ruleIdArray cnt = 0)
    (room : cnt + 1 ≤ session.tbl.tableEntries + session.tbl.expnTableEntries)
    (fields : next.tbl.idFields = (session.tbl.tableEntries, session.tbl.expnTableEntries,
      update session.tbl.ruleIdArray cnt (ruleIdOf session.tbl entry))) :
    next.IdsSound := by
  have hdlNew := sound.hdl_new isFree
  simp only [idFields, Prod.mk.injEq] at fields
  rcases fields with ⟨baseSame, expnSame, ids⟩
  have slotSame : next.tbl.IsSlot = session.tbl.IsSlot := by
    funext slot
    simp only [IsSlot, IsBaseSlot, IsExpnSlot, baseSame, expnSame]
  constructor
  case size =>
    rw [baseSame, expnSame]
    exact sound.size
  case hdl_nodup =>
    rw [live, map_cons, nodup_cons]
    refine ⟨?_, sound.hdl_nodup⟩
    intro cntMem
    rcases mem_map.mp cntMem with ⟨made, madeMem, hdlEq⟩
    exact hdlNew made madeMem hdlEq
  case hdl_pos =>
    rw [live, forall_mem_cons]
    exact ⟨Nat.succ_pos cnt, sound.hdl_pos⟩
  case hdl_le =>
    rw [live, forall_mem_cons, baseSame, expnSame]
    exact ⟨room, sound.hdl_le⟩
  case slot =>
    rw [live, forall_mem_cons, slotSame]
    exact ⟨isSlot, sound.slot⟩
  case ruleId =>
    rw [live, forall_mem_cons, ids]
    simp only [ruleIdOf, baseSame]
    refine ⟨by simp, ?_⟩
    intro made madeMem
    have notCnt : made.ruleHdl - 1 ≠ cnt := by
      have := sound.hdl_pos made madeMem
      have := hdlNew made madeMem
      omega
    rw [update_of_ne notCnt, sound.ruleId made madeMem, ruleIdOf]
  case free =>
    intro position notLive
    rw [live, forall_mem_cons] at notLive
    have notCnt : position ≠ cnt := by
      intro isCnt
      exact notLive.1 (by rw [isCnt])
    rw [ids, update_of_ne notCnt]
    exact sound.free position notLive.2

theorem HandlesSound.add (sound : session.HandlesSound)
    (isSlot : session.tbl.IsSlot entry) (live : next.live = ⟨cnt + 1, entry⟩ :: session.live)
    (isFree : session.tbl.ruleIdArray cnt = 0)
    (room : cnt + 1 < session.tbl.tableEntries + session.tbl.expnTableEntries)
    (fields : next.tbl.idFields = (session.tbl.tableEntries, session.tbl.expnTableEntries,
      update session.tbl.ruleIdArray cnt (ruleIdOf session.tbl entry))) :
    next.HandlesSound := by
  apply (sound.idsSound.add isSlot live isFree room.le fields).handlesSound
  simp only [idFields, Prod.mk.injEq] at fields
  rw [live, forall_mem_cons, fields.1, fields.2.1]
  exact ⟨room, sound.hdl_lt⟩

theorem not_handlesKept_of_last
    (isSlot : session.tbl.IsSlot entry) (live : next.live = ⟨cnt + 1, entry⟩ :: session.live)
    (last : ¬cnt + 1 < session.tbl.tableEntries + session.tbl.expnTableEntries)
    (baseSame : next.tbl.tableEntries = session.tbl.tableEntries)
    (expnSame : next.tbl.expnTableEntries = session.tbl.expnTableEntries) :
    ¬next.HandlesKept := by
  intro kept
  have parsed := kept.parsed ⟨cnt + 1, entry⟩ (by simp [live])
  simp only [ipaNatiParseIpv4RuleHdl, MadeHandle.madeFrom, baseSame, expnSame] at parsed
  rw [if_pos (Nat.not_lt.mp last)] at parsed
  split at parsed
  · simp at parsed
  · have isNull := (Prod.mk.inj parsed).2
    exact isSlot.pos isNull.symm

theorem HandlesSound.add_iff (sound : session.HandlesSound)
    (applied : session.apply (.add rule) = some next) :
    (session.Meets (.add rule) → next.HandlesSound) ∧
      (next.HandlesKept → session.Meets (.add rule)) := by
  rcases add_spec sound.size applied with ⟨cnt, entry, isSlot, live, search, fields⟩
  have room := sound.room_iff search
  constructor
  · intro meets
    have isFree := (find?_range_eq_some.mp search).1
    exact sound.add isSlot live (of_decide_eq_true isFree) (room.mpr meets) fields
  · intro kept
    simp only [idFields, Prod.mk.injEq] at fields
    by_contra full
    exact not_handlesKept_of_last isSlot live (fun inBounds => full (room.mp inBounds)) fields.1
      fields.2.1 kept

end Add

section Del

variable {ruleHdl : ℕ}

theorem del_spec (applied : session.apply (.del ruleHdl) = some next) :
    ruleHdl % 2 ^ 16 ≠ 0 ∧
      next.live = session.live.filter (fun made => made.ruleHdl ≠ ruleHdl % 2 ^ 16) ∧
      (ipaNatiParseIpv4RuleHdl session.tbl (ruleHdl % 2 ^ 16)).2 ≠ invalidNatEntry ∧
      next.tbl.idFields = (session.tbl.tableEntries, session.tbl.expnTableEntries,
        update session.tbl.ruleIdArray (ruleHdl - 1) 0) := by
  simp only [apply] at applied
  split at applied
  · simp at applied
  · rename_i positive
    refine ⟨positive, ?_⟩
    split at applied
    · rename_i deleted
      cases applied
      exact ⟨rfl, idFields_delIpv4Rule deleted⟩
    · simp at applied

theorem IdsSound.del (sound : session.IdsSound) (positive : ruleHdl ≠ 0)
    (live : next.live = session.live.filter fun made => made.ruleHdl ≠ ruleHdl)
    (fields : next.tbl.idFields = (session.tbl.tableEntries, session.tbl.expnTableEntries,
      update session.tbl.ruleIdArray (ruleHdl - 1) 0)) :
    next.IdsSound := by
  simp only [idFields, Prod.mk.injEq] at fields
  rcases fields with ⟨baseSame, expnSame, ids⟩
  have slotSame : next.tbl.IsSlot = session.tbl.IsSlot := by
    funext slot
    simp only [IsSlot, IsBaseSlot, IsExpnSlot, baseSame, expnSame]
  have stays : ∀ made, made ∈ next.live ↔ made ∈ session.live ∧ made.ruleHdl ≠ ruleHdl := by
    simp [live]
  constructor
  case size =>
    rw [baseSame, expnSame]
    exact sound.size
  case hdl_nodup =>
    rw [live]
    exact sound.hdl_nodup.sublist (filter_sublist.map _)
  case hdl_pos => exact fun made madeMem => sound.hdl_pos made ((stays made).mp madeMem).1
  case hdl_le =>
    rw [baseSame, expnSame]
    exact fun made madeMem => sound.hdl_le made ((stays made).mp madeMem).1
  case slot =>
    rw [slotSame]
    exact fun made madeMem => sound.slot made ((stays made).mp madeMem).1
  case ruleId =>
    intro made madeMem
    rcases (stays made).mp madeMem with ⟨wasLive, hdlNe⟩
    have notGone : made.ruleHdl - 1 ≠ ruleHdl - 1 := by
      have := sound.hdl_pos made wasLive
      omega
    rw [ids, update_of_ne notGone, sound.ruleId made wasLive]
    simp only [ruleIdOf, baseSame]
  case free =>
    intro position notLive
    rw [ids]
    by_cases isGone : position = ruleHdl - 1
    · rw [isGone, update_self]
    · rw [update_of_ne isGone]
      apply sound.free
      intro made madeMem hdlEq
      apply notLive made ((stays made).mpr ⟨madeMem, ?_⟩) hdlEq
      omega

theorem HandlesSound.del (sound : session.HandlesSound) (positive : ruleHdl ≠ 0)
    (live : next.live = session.live.filter fun made => made.ruleHdl ≠ ruleHdl)
    (fields : next.tbl.idFields = (session.tbl.tableEntries, session.tbl.expnTableEntries,
      update session.tbl.ruleIdArray (ruleHdl - 1) 0)) :
    next.HandlesSound := by
  apply (sound.idsSound.del positive live fields).handlesSound
  simp only [idFields, Prod.mk.injEq] at fields
  intro made madeMem
  rw [live, mem_filter] at madeMem
  rw [fields.1, fields.2.1]
  exact sound.hdl_lt made madeMem.1

theorem HandlesSound.del_iff (sound : session.HandlesSound)
    (applied : session.apply (.del ruleHdl) = some next) :
    (session.Meets (.del ruleHdl) → next.HandlesSound) ∧
      (next.HandlesKept → session.Meets (.del ruleHdl)) := by
  rcases del_spec applied with ⟨positive, live, parsed, fields⟩
  constructor
  · intro meets
    rw [Nat.mod_eq_of_lt meets] at positive live
    exact sound.del positive live fields
  · intro kept
    by_contra wide
    -- The position that is zeroed is not that of the low half, which still names an entry.
    have notLive : ∀ made ∈ next.live, made.ruleHdl ≠ ruleHdl % 2 ^ 16 := by
      intro made madeMem
      rw [live, mem_filter] at madeMem
      simpa using madeMem.2
    have isNull := kept.not_live (ruleHdl % 2 ^ 16) (Nat.pos_of_ne_zero positive) notLive
    have other : ruleHdl % 2 ^ 16 - 1 ≠ ruleHdl - 1 := by
      have := Nat.mod_lt ruleHdl (show 2 ^ 16 > 0 by simp)
      simp only [Meets] at wide
      omega
    simp only [idFields, Prod.mk.injEq] at fields
    rcases fields with ⟨baseSame, expnSame, ids⟩
    apply parsed
    simpa only [ipaNatiParseIpv4RuleHdl, baseSame, expnSame, ids,
      update_of_ne other] using isNull

end Del

variable {publicAddr : BitVec 32} {tableEntries expnTableEntries : ℕ}

theorem handlesSound_zeroed (size : HandleSize tableEntries expnTableEntries) :
    HandlesSound ⟨.zeroed publicAddr tableEntries expnTableEntries, []⟩ :=
  ⟨size, nodup_nil, by simp, by simp, by simp, by simp, fun _ _ => rfl⟩

theorem HandlesSound.step_iff {op : NatOp} (sound : session.HandlesSound)
    (applied : session.Step op next) :
    (session.Meets op → next.HandlesSound) ∧ (next.HandlesKept → session.Meets op) := by
  cases op with
  | add rule => exact sound.add_iff applied
  | del ruleHdl => exact sound.del_iff applied

theorem reachable_handlesSound (size : HandleSize tableEntries expnTableEntries)
    (reached : Run.Reachable
      (fun session => session = ⟨.zeroed publicAddr tableEntries expnTableEntries, []⟩)
      (Run.Guarded Meets Step) session) : session.HandlesSound := by
  apply reached.invariant
  · rintro _ rfl
    exact handlesSound_zeroed size
  · rintro session op next sound ⟨meets, applied⟩
    exact (sound.step_iff applied).1 meets

/-- In every run whose operations meet the condition the live handles are distinct and lead to their
entries, no other one leads anywhere, and exactly such operations keep this. -/
theorem reachable_handlesKept (size : HandleSize tableEntries expnTableEntries)
    (reached : Run.Reachable
      (fun session => session = ⟨.zeroed publicAddr tableEntries expnTableEntries, []⟩)
      (Run.Guarded Meets Step) session) :
    session.HandlesKept ∧
      ∀ op next, session.Step op next → (next.HandlesKept ↔ session.Meets op) := by
  have sound := reachable_handlesSound size reached
  refine ⟨sound.handlesKept, ?_⟩
  intro op next applied
  rcases sound.step_iff applied with ⟨keeps, needs⟩
  exact ⟨needs, fun meets => (keeps meets).handlesKept⟩

theorem reachable_get {init : HandleSession → Prop} {condition : HandleSession → NatOp → Prop}
    (reached : Run.Reachable init (Run.Guarded condition Step) session) (op : NatOp)
    (meets : condition session op) (returns : (session.apply op).isSome) :
    Run.Reachable init (Run.Guarded condition Step) ((session.apply op).get returns) :=
  .next op reached ⟨meets, (Option.some_get returns).symm⟩

instance (session : HandleSession) : (op : NatOp) → Decidable (session.Meets op)
  | .add _ => inferInstanceAs (Decidable (_ < _))
  | .del _ => inferInstanceAs (Decidable (_ < _))

theorem reachable_handlesKept_reused :
    ∃ session : HandleSession, session.live = [⟨1, 6⟩, ⟨2, 5⟩] ∧ session.HandlesKept := by
  let first : IpaNatIpv4Rule := ⟨0x0A000001, 0xC0A80001, 80, 1000, 2000, 6⟩
  let second : IpaNatIpv4Rule := ⟨0x0A000001, 0xC0A80002, 80, 1000, 2000, 6⟩
  have start : Run.Reachable (fun session => session = ⟨.zeroed 0x01020304 4 4, []⟩)
      (Run.Guarded Meets Step) ⟨.zeroed 0x01020304 4 4, []⟩ := .start rfl
  have reached := reachable_get (reachable_get (reachable_get (reachable_get start
    (.add first) (by decide) (by decide +kernel))
    (.add second) (by decide +kernel) (by decide +kernel))
    (.del 1) (by decide) (by decide +kernel))
    (.add first) (by decide +kernel) (by decide +kernel)
  exact ⟨_, by decide +kernel, (reachable_handlesKept ⟨by decide, by decide, by decide⟩ reached).1⟩

/-- A handle of more than 16 bits: the rule is deleted, and its handle still leads to its entry. -/
theorem del_not_handlesKept :
    ¬∀ session, Run.Reachable (fun session => session = ⟨.zeroed 0x01020304 4 2, []⟩) Step session →
      session.HandlesKept := by
  intro allKept
  have start : Run.Reachable (fun session => session = ⟨.zeroed 0x01020304 4 2, []⟩)
      (Run.Guarded (fun _ _ => True) Step) ⟨.zeroed 0x01020304 4 2, []⟩ := .start rfl
  have reached := reachable_get (reachable_get start
    (.add ⟨0x0A000001, 0xC0A80001, 80, 1000, 2000, 6⟩) trivial (by decide +kernel))
    (.del 65537) trivial (by decide +kernel)
  have isNull := (allKept _ reached.of_guarded).not_live 1 (le_refl 1) (by decide +kernel)
  exact absurd isNull (by decide +kernel)

end HandleSession

end HtcPme.IpaNat
