import HtcPme.IpaNat.DelRule

/-!
# The invariant after a deletion

Each table on its own first: `RulesUnlinked` for the rule table, `IndexUnlinked` for the index
table, where the successor of a deleted head changes its slot.
-/

namespace HtcPme.IpaNat

open Function (update update_of_ne update_self)

open Halfword IpaNatIndxTblRule List

namespace IpaNatIp4TableCache

variable {tbl : IpaNatIp4TableCache} {ruleChain indexChain : ℕ → List ℕ}
variable {entry indxEntry : ℕ}

/-- The rule table after `entry` was taken out, as a dead head at most. -/
structure RulesUnlinked (tbl : IpaNatIp4TableCache) (ruleChain : ℕ → List ℕ) (entry : ℕ)
    (rules : ℕ → IpaNatRule) (ruleChain' : ℕ → List ℕ) : Prop where
  table : ChainedTable tbl.IsBaseSlot tbl.IsExpnSlot (fun slot => (rules slot).nextIndex)
    (fun slot => (rules slot).prevIndex) 0 (fun slot => (rules slot).enable ≠ 0) ruleChain'
  kept : ∀ head, ∀ slot ∈ head :: ruleChain head, slot ≠ entry → slot ∈ head :: ruleChain' head
  gone : (rules entry).enable = 0 ∨
    tbl.IsBaseSlot entry ∧ (rules entry).protocol = natInvalidProtoFieldCmp
  enable_other : ∀ slot, slot ≠ entry → (rules slot).enable = (tbl.ipv4Rules slot).enable
  indx_other : ∀ slot, slot ≠ entry → (rules slot).indxTblEntry = (tbl.ipv4Rules slot).indxTblEntry
  content_other : ∀ slot, slot ≠ entry → (rules slot).content = (tbl.ipv4Rules slot).content

structure ExpnDeleted (tbl : IpaNatIp4TableCache) (entry : ℕ) (rules : ℕ → IpaNatRule) :
    Prop where
  zeroed : rules entry = .zero
  next_prev : (rules (tbl.rulePrev entry)).nextIndex = tbl.ruleNext entry
  next_other : ∀ slot, slot ≠ entry → slot ≠ tbl.rulePrev entry →
    (rules slot).nextIndex = tbl.ruleNext slot
  prev_next : tbl.ruleNext entry ≠ 0 → tbl.ruleNext entry ≠ entry →
    (rules (tbl.ruleNext entry)).prevIndex = tbl.rulePrev entry
  prev_other : ∀ slot, slot ≠ entry → (tbl.ruleNext entry ≠ 0 → slot ≠ tbl.ruleNext entry) →
    (rules slot).prevIndex = tbl.rulePrev slot
  enable_other : ∀ slot, slot ≠ entry → (rules slot).enable = (tbl.ipv4Rules slot).enable
  indx_other : ∀ slot, slot ≠ entry → (rules slot).indxTblEntry = (tbl.ipv4Rules slot).indxTblEntry
  content_other : ∀ slot, slot ≠ entry → (rules slot).content = (tbl.ipv4Rules slot).content

theorem deletedRules_last (notPrev : tbl.rulePrev entry ≠ entry) (ended : tbl.ruleNext entry = 0) :
    ExpnDeleted tbl entry (deletedRules tbl entry .last) := by
  have atOther : ∀ slot, slot ≠ entry → deletedRules tbl entry .last slot =
      if slot = tbl.rulePrev entry then
        (tbl.ipv4Rules slot).writeHalfword natRuleNextFieldOffset 0
      else tbl.ipv4Rules slot := by
    intro slot slotNe
    simp only [deletedRules, update_of_ne slotNe]
    by_cases isPrev : slot = tbl.rulePrev entry
    · rw [if_pos isPrev, isPrev, update_self]
    · rw [if_neg isPrev, update_of_ne isPrev]
  constructor
  case zeroed => simp [deletedRules]
  case next_prev => simp [atOther _ notPrev, ended]
  case next_other =>
    intro slot slotNe notPrev
    rw [atOther slot slotNe, if_neg notPrev]
    rfl
  case prev_next => exact fun goesOn => absurd ended goesOn
  case prev_other | enable_other | indx_other | content_other =>
    intros
    rw [atOther _ ‹_›]
    split <;> simp [rulePrev]

theorem deletedRules_middle (notPrev : tbl.rulePrev entry ≠ entry)
    (goesOn : tbl.ruleNext entry ≠ 0) :
    ExpnDeleted tbl entry (deletedRules tbl entry .middle) := by
  have prevMod : tbl.rulePrev entry % 65536 = tbl.rulePrev entry :=
    Nat.mod_eq_of_lt (IpaNatRule.prevIndex_lt _)
  have nextMod : tbl.ruleNext entry % 65536 = tbl.ruleNext entry :=
    Nat.mod_eq_of_lt (IpaNatRule.nextIndex_lt _)
  have atOther : ∀ slot, slot ≠ entry → deletedRules tbl entry .middle slot =
      let linked :=
        if slot = tbl.rulePrev entry then
          (tbl.ipv4Rules slot).writeHalfword natRuleNextFieldOffset
            (BitVec.ofNat 16 (tbl.ruleNext entry))
        else tbl.ipv4Rules slot
      if slot = tbl.ruleNext entry then
        updateSwSpecParams linked false (BitVec.ofNat 16 (tbl.rulePrev entry))
      else linked := by
    intro slot slotNe
    simp only [deletedRules, update_of_ne slotNe]
    generalize tbl.ruleNext entry = next
    generalize tbl.rulePrev entry = prev
    have linkedAt : ∀ other, update tbl.ipv4Rules prev
        ((tbl.ipv4Rules prev).writeHalfword natRuleNextFieldOffset (BitVec.ofNat 16 next)) other =
        if other = prev then
          (tbl.ipv4Rules other).writeHalfword natRuleNextFieldOffset (BitVec.ofNat 16 next)
        else tbl.ipv4Rules other := by
      intro other
      by_cases isPrev : other = prev
      · rw [if_pos isPrev, isPrev, update_self]
      · rw [if_neg isPrev, update_of_ne isPrev]
    by_cases isNext : slot = next
    · rw [if_pos isNext, isNext, update_self, linkedAt]
    · rw [if_neg isNext, update_of_ne isNext, linkedAt]
  constructor
  case zeroed => simp [deletedRules]
  case next_prev =>
    rw [atOther _ notPrev]
    simp only [if_true]
    split <;> simp [nextMod]
  case next_other =>
    intro slot slotNe notPrev
    rw [atOther slot slotNe]
    simp only [if_neg notPrev]
    split <;> simp [ruleNext]
  case prev_next =>
    intro _ notSelf
    rw [atOther _ notSelf]
    simp [prevMod]
  case prev_other =>
    intro slot slotNe notNext
    rw [atOther slot slotNe]
    simp only [if_neg (notNext goesOn)]
    split <;> simp [rulePrev]
  case enable_other | indx_other | content_other =>
    intro slot slotNe
    rw [atOther slot slotNe]
    simp only
    split <;> split <;> simp

theorem ExpnDeleted.unlinked {rules : ℕ → IpaNatRule} (deleted : ExpnDeleted tbl entry rules)
    (links : tbl.LinkedOk ruleChain indexChain) (isExpn : tbl.IsExpnSlot entry)
    (entryUsed : tbl.RuleUsed entry) :
    ∃ ruleChain', RulesUnlinked tbl ruleChain entry rules ruleChain' := by
  obtain ⟨base, front, back, isBase, split, prevEq, nextEq⟩ := links.rules.locate isExpn entryUsed
  have inBack : ∀ succ ∈ back.head?, tbl.ruleNext entry = succ := by
    intro succ isSucc
    rw [nextEq, headD_eq_head?_getD, isSucc]
    rfl
  have backNode : ∀ succ ∈ back.head?, succ ≠ 0 ∧ succ ≠ entry := by
    intro succ isSucc
    have succMem : succ ∈ back := mem_of_mem_head? isSucc
    have distinct := links.rules.forest.nodup base isBase
    have notNull := links.rules.forest.node_ne_null base isBase
    rw [split] at distinct notNull
    rw [nodup_middle, nodup_cons, mem_append, not_or] at distinct
    constructor
    · rintro rfl
      exact notNull (by simp [succMem])
    · rintro rfl
      exact distinct.1.2 succMem
  refine ⟨update ruleChain base (front ++ back), ?_, ?_, ?_, deleted.enable_other,
    deleted.indx_other, deleted.content_other⟩
  · refine links.rules.unlink isBase split ?_ ?_ ?_ ?_ ?_
    · simp only [← prevEq, deleted.next_prev, nextEq]
    · intro slot slotNe notPrev
      exact deleted.next_other slot slotNe (prevEq ▸ notPrev)
    · intro succ isSucc
      have succNext := inBack succ isSucc
      obtain ⟨succPos, succNe⟩ := backNode succ isSucc
      rw [← prevEq, ← deleted.prev_next (succNext ▸ succPos) (succNext ▸ succNe), succNext]
    · intro slot _ slotNe notSucc
      refine deleted.prev_other slot slotNe ?_
      rintro goesOn rfl
      apply notSucc
      cases back with
      | nil => exact absurd nextEq goesOn
      | cons first rest => simpa using nextEq.symm
    · intro slot
      by_cases isEntry : slot = entry
      · simp [isEntry, deleted.zeroed]
      · simp [isEntry, RuleUsed, deleted.enable_other slot isEntry]
  · intro head slot slotMem slotNe
    by_cases isHead : head = base
    · subst isHead
      rw [split, mem_cons, mem_append, mem_cons] at slotMem
      rw [update_self, mem_cons, mem_append]
      tauto
    · rwa [update_of_ne isHead]
  · left
    simp [deleted.zeroed]

theorem deletedRules_unlinked {rulePos : DelType} (links : tbl.LinkedOk ruleChain indexChain)
    (pos : PosOk tbl tbl.ruleNext entry rulePos) (entryUsed : tbl.RuleUsed entry) :
    ∃ ruleChain', RulesUnlinked tbl ruleChain entry
      (deletedRules tbl entry rulePos) ruleChain' := by
  cases pos with
  | onlyOne isBase ended =>
      have atOther : ∀ slot, slot ≠ entry →
          deletedRules tbl entry .onlyOne slot = tbl.ipv4Rules slot :=
        fun slot slotNe => update_of_ne slotNe _ _
      have atEntry : deletedRules tbl entry .onlyOne entry = .zero := update_self _ _ _
      refine ⟨ruleChain, ?_, fun _ _ slotMem _ => slotMem, Or.inl (by simp [atEntry]), ?_, ?_, ?_⟩
      · refine links.rules.freeBase isBase ended (by simp [atEntry]) ?_ ?_ ?_
        · intro slot slotNe
          simp [atOther slot slotNe, ruleNext]
        · intro slot isExpn
          have slotNe : slot ≠ entry := by
            rintro rfl
            exact isBase.not_expn isExpn
          simp [atOther slot slotNe, rulePrev]
        · intro slot
          by_cases isEntry : slot = entry
          · simp [isEntry, atEntry]
          · simp [isEntry, RuleUsed, atOther slot isEntry]
      all_goals
        intro slot slotNe
        rw [atOther slot slotNe]
  | head isBase goesOn =>
      have atOther : ∀ slot, slot ≠ entry →
          deletedRules tbl entry .head slot = tbl.ipv4Rules slot :=
        fun slot slotNe => update_of_ne slotNe _ _
      have atEntry : deletedRules tbl entry .head entry =
          (tbl.ipv4Rules entry).writeHalfword natRuleProtoFieldOffset natInvalidProtoFieldValue :=
        update_self _ _ _
      refine ⟨ruleChain, ?_, fun _ _ slotMem _ => slotMem, Or.inr ⟨isBase, ?_⟩, ?_, ?_, ?_⟩
      · have same : ∀ slot, (deletedRules tbl entry .head slot).nextIndex = tbl.ruleNext slot ∧
            (deletedRules tbl entry .head slot).prevIndex = tbl.rulePrev slot ∧
            (deletedRules tbl entry .head slot).enable = (tbl.ipv4Rules slot).enable := by
          intro slot
          by_cases isEntry : slot = entry
          · subst isEntry
            rw [atEntry]
            exact ⟨rfl, rfl, rfl⟩
          · rw [atOther slot isEntry]
            exact ⟨rfl, rfl, rfl⟩
        refine links.rules.congr (fun slot _ _ => (same slot).1) (fun slot _ _ => (same slot).2.1)
          ?_ ?_
        · intro slot _
          simp only [(same slot).2.2]
          rfl
        · intro slot isBaseSlot notEmpty
          simp only [(same slot).2.2]
          intro unused
          exact notEmpty (links.rules.chain_of_unused slot isBaseSlot (not_not_intro unused))
      · rw [atEntry, IpaNatRule.protocol_write_proto]
      all_goals
        intro slot slotNe
        rw [atOther slot slotNe]
  | middle isExpn goesOn =>
      exact (deletedRules_middle (links.rules.prev_slot isExpn entryUsed).2 goesOn).unlinked links
        isExpn entryUsed
  | last isExpn ended =>
      exact (deletedRules_last (links.rules.prev_slot isExpn entryUsed).2 ended).unlinked links
        isExpn entryUsed

def renamed (tbl : IpaNatIp4TableCache) (indxEntry : ℕ) : DelType → ℕ → ℕ
  | .head, slot => if slot = tbl.indexNext indxEntry then indxEntry else slot
  | _, slot => slot

/-- The index table after the entry at `indxEntry` was taken out. -/
structure IndexUnlinked (tbl : IpaNatIp4TableCache) (indexChain : ℕ → List ℕ) (indxEntry : ℕ)
    (rename : ℕ → ℕ) (index : ℕ → IpaNatIndxTblRule) (prevs : ℕ → BitVec 16)
    (indexChain' : ℕ → List ℕ) : Prop where
  table : ChainedTable tbl.IsBaseSlot tbl.IsExpnSlot
    (fun slot => IpaNatIndxTblRule.nextIndex (index slot))
    (fun slot => (prevs (slot - tbl.tableEntries)).toNat) 0
    (fun slot => IpaNatIndxTblRule.tblEntry (index slot) ≠ 0) indexChain'
  kept : ∀ head, tbl.IsBaseSlot head → ∀ slot ∈ head :: indexChain head, slot ≠ indxEntry →
    rename slot ∈ head :: indexChain' head
  follows : ∀ slot, tbl.IsSlot slot → tbl.IndexUsed slot → slot ≠ indxEntry →
    tbl.IsSlot (rename slot) ∧
      IpaNatIndxTblRule.tblEntry (index (rename slot)) =
        IpaNatIndxTblRule.tblEntry (tbl.indexTable slot)
  origin : ∀ slot, IpaNatIndxTblRule.tblEntry (index slot) ≠ 0 →
    ∃ old, tbl.IndexUsed old ∧ old ≠ indxEntry ∧ rename old = slot

variable {rename : ℕ → ℕ} {prevs : ℕ → BitVec 16} {index : ℕ → IpaNatIndxTblRule}

theorem IndexUnlinked.of_same {indexChain' : ℕ → List ℕ} (rename_eq : ∀ slot, rename slot = slot)
    (table : ChainedTable tbl.IsBaseSlot tbl.IsExpnSlot (fun slot => nextIndex (index slot))
      (fun slot => (prevs (slot - tbl.tableEntries)).toNat) 0
      (fun slot => tblEntry (index slot) ≠ 0) indexChain')
    (kept : ∀ head, ∀ slot ∈ head :: indexChain head, slot ≠ indxEntry →
      slot ∈ head :: indexChain' head) (freed : tblEntry (index indxEntry) = 0)
    (same : ∀ slot, slot ≠ indxEntry → tblEntry (index slot) =
      tblEntry (tbl.indexTable slot)) :
    IndexUnlinked tbl indexChain indxEntry rename index prevs indexChain' where
  table := table
  kept head _ slot slotMem slotNe := by
    rw [rename_eq]
    exact kept head slot slotMem slotNe
  follows slot isSlot _ slotNe := by
    rw [rename_eq]
    exact ⟨isSlot, same slot slotNe⟩
  origin slot isUsed := by
    have slotNe : slot ≠ indxEntry := by
      rintro rfl
      exact isUsed freed
    refine ⟨slot, ?_, slotNe, rename_eq slot⟩
    rwa [IndexUsed, ← same slot slotNe]

theorem indexUnlinked_expn (links : tbl.LinkedOk ruleChain indexChain)
    (rename_eq : ∀ slot, rename slot = slot) (isExpn : tbl.IsExpnSlot indxEntry)
    (indxUsed : tbl.IndexUsed indxEntry) (zeroed : index indxEntry = 0)
    (next_prev : nextIndex (index (tbl.indexPrev indxEntry)) =
      tbl.indexNext indxEntry)
    (next_other : ∀ slot, slot ≠ indxEntry → slot ≠ tbl.indexPrev indxEntry →
      nextIndex (index slot) = tbl.indexNext slot)
    (same : ∀ slot, slot ≠ indxEntry → tblEntry (index slot) =
      tblEntry (tbl.indexTable slot))
    (prev_next : tbl.IsExpnSlot (tbl.indexNext indxEntry) → tbl.indexNext indxEntry ≠ indxEntry →
      (prevs (tbl.indexNext indxEntry - tbl.tableEntries)).toNat = tbl.indexPrev indxEntry)
    (prev_other : ∀ slot, tbl.IsExpnSlot slot → slot ≠ indxEntry →
      slot ≠ tbl.indexNext indxEntry →
      (prevs (slot - tbl.tableEntries)).toNat = tbl.indexPrev slot) :
    ∃ indexChain', IndexUnlinked tbl indexChain indxEntry rename index prevs indexChain' := by
  obtain ⟨base, front, back, isBase, split, prevEq, nextEq⟩ := links.index.locate isExpn indxUsed
  have distinct := links.index.forest.nodup base isBase
  rw [split, nodup_middle, nodup_cons, mem_append, not_or] at distinct
  have backNode : ∀ succ ∈ back.head?, tbl.indexNext indxEntry = succ ∧ tbl.IsExpnSlot succ ∧
      succ ≠ indxEntry := by
    intro succ isSucc
    have succMem : succ ∈ back := mem_of_mem_head? isSucc
    refine ⟨?_, ?_, ?_⟩
    · rw [nextEq, headD_eq_head?_getD, isSucc]
      rfl
    · exact links.index.overflow_of_mem base isBase succ (by simp [split, succMem])
    · rintro rfl
      exact distinct.1.2 succMem
  refine ⟨update indexChain base (front ++ back),
    .of_same rename_eq ?_ ?_ (by simp [zeroed]) same⟩
  · refine links.index.unlink isBase split ?_ ?_ ?_ ?_ ?_
    · simp only [← prevEq, next_prev, nextEq]
    · intro slot slotNe notPrev
      exact next_other slot slotNe (prevEq ▸ notPrev)
    · intro succ isSucc
      obtain ⟨succNext, succExpn, succNe⟩ := backNode succ isSucc
      rw [← prevEq, ← prev_next (succNext ▸ succExpn) (succNext ▸ succNe), succNext]
    · intro slot slotExpn slotNe notSucc
      refine prev_other slot slotExpn slotNe ?_
      rintro rfl
      apply notSucc
      cases back with
      | nil => exact absurd (nextEq ▸ slotExpn) not_isExpnSlot_zero
      | cons first rest => simpa using nextEq.symm
    · intro slot
      by_cases isEntry : slot = indxEntry
      · simp [isEntry, zeroed]
      · simp [isEntry, IndexUsed, same slot isEntry]
  · intro head slot slotMem slotNe
    by_cases isHead : head = base
    · subst isHead
      rw [split, mem_cons, mem_append, mem_cons] at slotMem
      rw [update_self, mem_cons, mem_append]
      tauto
    · rwa [update_of_ne isHead]

theorem indexUnlinked_head (geometry : tbl.Geometry) (links : tbl.LinkedOk ruleChain indexChain)
    (isBase : tbl.IsBaseSlot indxEntry) (indxUsed : tbl.IndexUsed indxEntry)
    (goesOn : tbl.indexNext indxEntry ≠ 0) :
    ∃ indexChain', IndexUnlinked tbl indexChain indxEntry (renamed tbl indxEntry .head)
      (deletedIndex tbl indxEntry .head) (deletedMeta tbl indxEntry .head) indexChain' := by
  have path := links.index.forest.path indxEntry isBase
  cases split : indexChain indxEntry with
  | nil =>
      rw [split, Chain.path_nil] at path
      exact absurd path goesOn
  | cons next back =>
  rw [split, Chain.path_cons] at path
  obtain ⟨nextEq, backPath⟩ := path
  have nextMem : next ∈ indexChain indxEntry := by simp [split]
  have nextExpn := links.index.overflow_of_mem indxEntry isBase next nextMem
  have nextUsed := links.index.used_of_mem indxEntry isBase next nextMem
  have nextNe : next ≠ indxEntry := by
    rintro rfl
    exact isBase.not_expn nextExpn
  have backHead : tbl.indexNext next = back.headD 0 := backPath.next_start
  have indexAt : ∀ slot, slot ≠ next → slot ≠ indxEntry →
      deletedIndex tbl indxEntry .head slot = tbl.indexTable slot := by
    intro slot notNext slotNe
    simp [deletedIndex, nextEq, notNext, slotNe]
  have atNext : deletedIndex tbl indxEntry .head next = 0 := by simp [deletedIndex, nextEq]
  have atEntry : deletedIndex tbl indxEntry .head indxEntry = tbl.indexTable next := by
    simp [deletedIndex, nextEq, nextNe.symm]
  have renamed_eq : ∀ slot, renamed tbl indxEntry .head slot =
      if slot = next then indxEntry else slot := by
    intro slot
    simp [renamed, nextEq]
  have metaAt : ∀ slot, tbl.IsExpnSlot slot → slot ∉ back.head? →
      (deletedMeta tbl indxEntry .head (slot - tbl.tableEntries)).toNat = tbl.indexPrev slot := by
    intro slot isExpn notSucc
    simp only [deletedMeta, nextEq]
    split
    · rename_i hasNextNext
      rw [update_of_ne]
      · rfl
      · intro sameMeta
        apply notSucc
        have slotEq : slot = tbl.indexNext next := by
          have := isExpn.1
          omega
        rw [backHead] at slotEq
        cases back with
        | nil => exact absurd (slotEq ▸ isExpn) not_isExpnSlot_zero
        | cons first rest => simpa using slotEq.symm
    · rfl
  have metaSucc : ∀ succ ∈ back.head?,
      (deletedMeta tbl indxEntry .head (succ - tbl.tableEntries)).toNat = indxEntry := by
    intro succ isSucc
    have succEq : tbl.indexNext next = succ := by
      rw [backHead, headD_eq_head?_getD, isSucc]
      rfl
    have succExpn := links.index.overflow_of_mem indxEntry isBase succ
      (by simp [split, mem_of_mem_head? isSucc])
    have hasNextNext : succ ≠ 0 ∧ succ ≥ tbl.tableEntries :=
      ⟨IsSlot.pos (Or.inr succExpn), succExpn.1.le⟩
    simp only [deletedMeta, nextEq, succEq]
    rw [if_pos hasNextNext, update_self, geometry.toNat_ofNat (Or.inl isBase)]
  refine ⟨update indexChain indxEntry ([] ++ back), ?_, ?_, ?_, ?_⟩
  · have splitNil : indexChain indxEntry = [] ++ next :: back := split
    refine links.index.unlink isBase splitNil ?_ ?_ metaSucc ?_ ?_
    · simp only [getLastD_nil, atEntry]
      exact backHead
    · intro slot notNext slotNe
      simp only [indexAt slot notNext slotNe]
      rfl
    · intro slot isExpn _ notSucc
      exact metaAt slot isExpn notSucc
    · intro slot
      by_cases isNext : slot = next
      · simp [isNext, atNext]
      · by_cases isEntry : slot = indxEntry
        · subst isEntry
          simp only [atEntry]
          exact ⟨fun _ => ⟨indxUsed, isNext⟩, fun _ => nextUsed⟩
        · simp [isNext, IndexUsed, indexAt slot isNext isEntry]
  · intro head isHead slot slotMem slotNe
    rw [renamed_eq]
    by_cases isNext : slot = next
    · subst isNext
      rw [if_pos rfl]
      have headEq : head = indxEntry := by
        rcases mem_cons.mp slotMem with isSlot | inChain
        · exact absurd (isSlot ▸ nextExpn) isHead.not_expn
        · exact links.index.forest.head_unique isHead isBase inChain nextMem
      simp [headEq]
    · rw [if_neg isNext]
      by_cases isEntry : head = indxEntry
      · subst isEntry
        rw [split, mem_cons, mem_cons] at slotMem
        rw [update_self, mem_cons]
        simp only [nil_append]
        tauto
      · rwa [update_of_ne isEntry]
  · intro slot isSlot _ slotNe
    rw [renamed_eq]
    by_cases isNext : slot = next
    · rw [if_pos isNext, atEntry, isNext]
      exact ⟨Or.inl isBase, rfl⟩
    · rw [if_neg isNext, indexAt slot isNext slotNe]
      exact ⟨isSlot, rfl⟩
  · intro slot isUsed
    have notNext : slot ≠ next := by
      rintro rfl
      rw [atNext] at isUsed
      exact isUsed tblEntry_zero
    by_cases isEntry : slot = indxEntry
    · refine ⟨next, nextUsed, nextNe, ?_⟩
      rw [renamed_eq, if_pos rfl, isEntry]
    · refine ⟨slot, ?_, isEntry, ?_⟩
      · rw [indexAt slot notNext isEntry] at isUsed
        exact isUsed
      · rw [renamed_eq, if_neg notNext]

theorem deletedIndex_unlinked {indxRulePos : DelType} (geometry : tbl.Geometry)
    (links : tbl.LinkedOk ruleChain indexChain)
    (pos : PosOk tbl tbl.indexNext indxEntry indxRulePos) (indxUsed : tbl.IndexUsed indxEntry) :
    ∃ indexChain', IndexUnlinked tbl indexChain indxEntry (renamed tbl indxEntry indxRulePos)
      (deletedIndex tbl indxEntry indxRulePos) (deletedMeta tbl indxEntry indxRulePos)
      indexChain' := by
  cases pos with
  | onlyOne isBase ended =>
      have atOther : ∀ slot, slot ≠ indxEntry →
          deletedIndex tbl indxEntry .onlyOne slot = tbl.indexTable slot :=
        fun slot slotNe => update_of_ne slotNe _ _
      have atEntry : deletedIndex tbl indxEntry .onlyOne indxEntry = 0 := update_self _ _ _
      refine ⟨indexChain, .of_same (fun _ => rfl) ?_ (fun _ _ slotMem _ => slotMem)
        (by simp [atEntry]) ?_⟩
      · refine links.index.freeBase isBase ended (by simp [atEntry]) ?_ (fun _ _ => rfl) ?_
        · intro slot slotNe
          simp only [atOther slot slotNe]
          rfl
        · intro slot
          by_cases isEntry : slot = indxEntry
          · simp [isEntry, atEntry]
          · simp [isEntry, IndexUsed, atOther slot isEntry]
      · intro slot slotNe
        rw [atOther slot slotNe]
  | head isBase goesOn => exact indexUnlinked_head geometry links isBase indxUsed goesOn
  | middle isExpn goesOn =>
      have nextMod : tbl.indexNext indxEntry % 65536 = tbl.indexNext indxEntry :=
        Nat.mod_eq_of_lt (nextIndex_lt _)
      have prevNe := (links.index.prev_slot isExpn indxUsed).2
      refine indexUnlinked_expn links (fun _ => rfl) isExpn indxUsed ?_ ?_ ?_ ?_ ?_ ?_
      · simp [deletedIndex]
      · simp [deletedIndex, prevNe, nextMod]
      · intro slot slotNe notPrev
        simp [deletedIndex, slotNe, notPrev, indexNext]
      · intro slot slotNe
        by_cases isPrev : slot = tbl.indexPrev indxEntry
        · simp [deletedIndex, isPrev, isPrev ▸ slotNe]
        · simp [deletedIndex, slotNe, isPrev]
      · intro nextExpn notSelf
        have metaNe : tbl.indexNext indxEntry - tbl.tableEntries ≠
            indxEntry - tbl.tableEntries := by
          have := nextExpn.1
          have := isExpn.1
          omega
        simp [deletedMeta, metaNe, indexPrev]
      · intro slot slotExpn slotNe notNext
        have metaNe : slot - tbl.tableEntries ≠ indxEntry - tbl.tableEntries := by
          have := slotExpn.1
          have := isExpn.1
          omega
        have metaNext : slot - tbl.tableEntries ≠ tbl.indexNext indxEntry - tbl.tableEntries := by
          have := slotExpn.1
          omega
        simp [deletedMeta, metaNe, metaNext, indexPrev]
  | last isExpn ended =>
      have prevNe := (links.index.prev_slot isExpn indxUsed).2
      refine indexUnlinked_expn links (fun _ => rfl) isExpn indxUsed ?_ ?_ ?_ ?_ ?_ ?_
      · simp [deletedIndex]
      · simp [deletedIndex, prevNe, ended]
      · intro slot slotNe notPrev
        simp [deletedIndex, slotNe, notPrev, indexNext]
      · intro slot slotNe
        by_cases isPrev : slot = tbl.indexPrev indxEntry
        · simp [deletedIndex, isPrev, isPrev ▸ slotNe]
        · simp [deletedIndex, slotNe, isPrev]
      · intro nextExpn
        rw [ended] at nextExpn
        exact absurd nextExpn not_isExpnSlot_zero
      · exact fun _ _ _ _ => rfl

end IpaNatIp4TableCache

end HtcPme.IpaNat
