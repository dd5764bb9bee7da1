import HtcPme.Foundation.Chain

/-!
# Chained tables

A table of base slots with an overflow area: each base slot heads a chain of overflow nodes, and a
node is used exactly while it is on a chain.
-/

/-- The chains of a table are a forest of used overflow nodes, and every used overflow node is on
one. `used` says which slots hold an entry. -/
structure ChainedTable {α : Type*} (IsBase IsOverflow : α → Prop) (next prev : α → α) (null : α)
    (used : α → Prop) (chain : α → List α) : Prop where
  forest : Chain.Forest next prev null IsBase chain
  base_not_overflow : ∀ slot, IsBase slot → ¬IsOverflow slot
  null_not_overflow : ¬IsOverflow null
  overflow_of_mem : ∀ base, IsBase base → ∀ node ∈ chain base, IsOverflow node
  used_of_mem : ∀ base, IsBase base → ∀ node ∈ chain base, used node
  mem_of_used : ∀ node, IsOverflow node → used node → ∃ base, IsBase base ∧ node ∈ chain base
  chain_of_unused : ∀ base, IsBase base → ¬used base → chain base = []

/-- Where a table puts a new entry that belongs to `base`: into the base slot if it is free, and
otherwise into a free overflow slot behind the last node of the chain. The second slot is the
predecessor, `null` for none. -/
inductive ChainedTable.Place {α : Type*} (IsBase IsOverflow : α → Prop) (null : α)
    (used : α → Prop) (chain : α → List α) (base : α) : α → α → Prop where
  | inBase (isBase : IsBase base) (free : ¬used base) : Place IsBase IsOverflow null used chain base
      base null
  | behind (entry : α) (isBase : IsBase base) (baseUsed : used base) (isOverflow : IsOverflow entry)
      (free : ¬used entry) : Place IsBase IsOverflow null used chain base entry
        ((chain base).getLastD base)

namespace ChainedTable

open List

open Function (update update_of_ne update_self)

variable {α : Type*} {IsBase IsOverflow : α → Prop} {next prev next' prev' : α → α} {null : α}
variable {used used' : α → Prop} {chain : α → List α} {base node : α}

theorem empty (ends : ∀ slot, next slot = null)
    (base_not_overflow : ∀ slot, IsBase slot → ¬IsOverflow slot)
    (null_not_overflow : ¬IsOverflow null) (free : ∀ slot, ¬used slot) :
    ChainedTable IsBase IsOverflow next prev null used (fun _ => []) where
  forest :=
    { path := fun head _ => Chain.path_nil.mpr (ends head)
      backPath := fun _ _ => Chain.backPath_nil
      nodup := fun _ _ => nodup_nil
      disjoint := fun _ _ _ _ _ => disjoint_nil_left _
      node_not_head := fun _ _ _ nodeMem => absurd nodeMem not_mem_nil
      node_ne_null := fun _ _ => not_mem_nil }
  base_not_overflow := base_not_overflow
  null_not_overflow := null_not_overflow
  overflow_of_mem _ _ _ nodeMem := absurd nodeMem not_mem_nil
  used_of_mem _ _ _ nodeMem := absurd nodeMem not_mem_nil
  mem_of_used node _ isUsed := absurd isUsed (free node)
  chain_of_unused _ _ _ := rfl

section

variable (table : ChainedTable IsBase IsOverflow next prev null used chain)

include table

theorem chain_eq_nil_iff (isBase : IsBase base) : chain base = [] ↔ next base = null := by
  have path := table.forest.path base isBase
  have nodesNe := table.forest.node_ne_null base isBase
  cases split : chain base with
  | nil => rw [split, Chain.path_nil] at path; simpa using path
  | cons first rest =>
      rw [split, Chain.path_cons] at path
      rw [split, mem_cons, not_or] at nodesNe
      simp only [reduceCtorEq, false_iff]
      intro ended
      exact nodesNe.1 (ended.symm.trans path.1)

/-- A used overflow node splits the chain it is on, and its links are the neighbours there. -/
theorem locate (isOverflow : IsOverflow node) (nodeUsed : used node) :
    ∃ base front back, IsBase base ∧ chain base = front ++ node :: back ∧
      prev node = front.getLastD base ∧ next node = back.headD null := by
  obtain ⟨base, isBase, inChain⟩ := table.mem_of_used node isOverflow nodeUsed
  obtain ⟨front, back, split⟩ := append_of_mem inChain
  have path := table.forest.path base isBase
  have backPath := table.forest.backPath base isBase
  rw [split, Chain.path_append_cons] at path
  rw [split, Chain.backPath_append_cons] at backPath
  exact ⟨base, front, back, isBase, split, backPath.2.1, path.2.next_start⟩

theorem prev_slot (isOverflow : IsOverflow node) (nodeUsed : used node) :
    (IsBase (prev node) ∨ IsOverflow (prev node)) ∧ prev node ≠ node := by
  obtain ⟨base, front, back, isBase, split, prevEq, -⟩ := table.locate isOverflow nodeUsed
  have distinct := table.forest.nodup base isBase
  rw [split, nodup_middle, nodup_cons, mem_append, not_or] at distinct
  rw [prevEq]
  rcases mem_cons.mp (Chain.getLastD_mem base front) with isHead | inFront
  · rw [isHead]
    refine ⟨Or.inl isBase, ?_⟩
    rintro rfl
    exact table.base_not_overflow _ isBase isOverflow
  · refine ⟨Or.inr (table.overflow_of_mem base isBase _ ?_), ?_⟩
    · rw [split]
      exact mem_append_left _ inFront
    · intro isNode
      exact distinct.1.1 (isNode ▸ inFront)

theorem next_slot (isSlot : IsBase node ∨ IsOverflow node ∧ used node) (goesOn : next node ≠ null) :
    IsOverflow (next node) ∧ used (next node) := by
  suffices inChain : ∃ base, IsBase base ∧ next node ∈ chain base by
    obtain ⟨base, isBase, inChain⟩ := inChain
    exact ⟨table.overflow_of_mem base isBase _ inChain, table.used_of_mem base isBase _ inChain⟩
  rcases isSlot with isBase | ⟨isOverflow, nodeUsed⟩
  · refine ⟨node, isBase, ?_⟩
    have nextEq := (table.forest.path node isBase).next_start
    cases split : chain node with
    | nil => simp [split] at nextEq; exact absurd nextEq goesOn
    | cons first rest => simp [split] at nextEq; simp [nextEq]
  · obtain ⟨base, front, back, isBase, split, -, nextEq⟩ := table.locate isOverflow nodeUsed
    refine ⟨base, isBase, ?_⟩
    cases back with
    | nil => simp at nextEq; exact absurd nextEq goesOn
    | cons first rest => simp at nextEq; simp [split, nextEq]

/-- The table depends on `next` and `prev` on the chains only, and on `used` up to equivalence
off the base slots that have no chain. -/
theorem congr (nextEq : ∀ slot, IsBase slot ∨ IsOverflow slot → used slot ∨ IsBase slot →
      next' slot = next slot)
    (prevEq : ∀ slot, IsOverflow slot → used slot → prev' slot = prev slot)
    (usedOverflow : ∀ slot, IsOverflow slot → (used' slot ↔ used slot))
    (usedBase : ∀ slot, IsBase slot → chain slot ≠ [] → used' slot) :
    ChainedTable IsBase IsOverflow next' prev' null used' chain where
  forest := by
    refine table.forest.congr ?_ ?_
    · intro head isHead member memberMem
      rcases mem_cons.mp memberMem with rfl | inChain
      · exact nextEq member (Or.inl isHead) (Or.inr isHead)
      · exact nextEq member (Or.inr (table.overflow_of_mem head isHead member inChain))
          (Or.inl (table.used_of_mem head isHead member inChain))
    · intro head isHead member memberMem
      exact prevEq member (table.overflow_of_mem head isHead member memberMem)
        (table.used_of_mem head isHead member memberMem)
  base_not_overflow := table.base_not_overflow
  null_not_overflow := table.null_not_overflow
  overflow_of_mem := table.overflow_of_mem
  used_of_mem head isHead member memberMem :=
    (usedOverflow member (table.overflow_of_mem head isHead member memberMem)).mpr
      (table.used_of_mem head isHead member memberMem)
  mem_of_used member isOverflow memberUsed :=
    table.mem_of_used member isOverflow ((usedOverflow member isOverflow).mp memberUsed)
  chain_of_unused head isHead unused := by
    by_contra notEmpty
    exact unused (usedBase head isHead notEmpty)

theorem freeBase (isBase : IsBase base) (ended : next base = null) (nextBase : next' base = null)
    (nextOther : ∀ slot, slot ≠ base → next' slot = next slot)
    (prevEq : ∀ slot, IsOverflow slot → prev' slot = prev slot)
    (usedEq : ∀ slot, used' slot ↔ used slot ∧ slot ≠ base) :
    ChainedTable IsBase IsOverflow next' prev' null used' chain := by
  have empty := (table.chain_eq_nil_iff isBase).mpr ended
  refine table.congr ?_ (fun slot isOverflow _ => prevEq slot isOverflow) ?_ ?_
  · intro slot _ _
    by_cases slotEq : slot = base
    · rw [slotEq, nextBase, ended]
    · exact nextOther slot slotEq
  · intro slot isOverflow
    rw [usedEq, and_iff_left_iff_imp]
    rintro - rfl
    exact table.base_not_overflow slot isBase isOverflow
  · intro slot slotIsBase notEmpty
    rw [usedEq]
    refine ⟨?_, fun slotEq => notEmpty (slotEq ▸ empty)⟩
    by_contra unused
    exact notEmpty (table.chain_of_unused slot slotIsBase unused)

end

section Update

variable [DecidableEq α]

variable (table : ChainedTable IsBase IsOverflow next prev null used chain)

include table

theorem append (isBase : IsBase base) (baseUsed : used base)
    (isOverflow : IsOverflow node) (nodeFree : ¬used node)
    (nextNode : next' node = null) (nextLast : next' ((chain base).getLastD base) = node)
    (nextOther : ∀ slot, slot ≠ node → slot ≠ (chain base).getLastD base →
      next' slot = next slot)
    (prevNode : prev' node = (chain base).getLastD base)
    (prevOther : ∀ slot, slot ≠ node → prev' slot = prev slot)
    (usedEq : ∀ slot, used' slot ↔ used slot ∨ slot = node) :
    ChainedTable IsBase IsOverflow next' prev' null used'
      (update chain base (chain base ++ [node])) where
  forest := by
    refine table.forest.append isBase ?_ ?_ ?_ nextNode nextLast nextOther prevNode prevOther
    · rintro rfl
      exact table.null_not_overflow isOverflow
    · intro nodeIsBase
      exact table.base_not_overflow node nodeIsBase isOverflow
    · intro other otherIsBase nodeMem
      exact nodeFree (table.used_of_mem other otherIsBase node nodeMem)
  base_not_overflow := table.base_not_overflow
  null_not_overflow := table.null_not_overflow
  overflow_of_mem other otherIsBase member memberMem := by
    by_cases otherEq : other = base
    · subst otherEq
      rw [update_self, mem_append, mem_singleton] at memberMem
      rcases memberMem with inChain | rfl
      · exact table.overflow_of_mem other otherIsBase member inChain
      · exact isOverflow
    · rw [update_of_ne otherEq] at memberMem
      exact table.overflow_of_mem other otherIsBase member memberMem
  used_of_mem other otherIsBase member memberMem := by
    rw [usedEq]
    by_cases otherEq : other = base
    · subst otherEq
      rw [update_self, mem_append, mem_singleton] at memberMem
      exact memberMem.imp_left (table.used_of_mem other otherIsBase member)
    · rw [update_of_ne otherEq] at memberMem
      exact Or.inl (table.used_of_mem other otherIsBase member memberMem)
  mem_of_used member memberIsOverflow memberUsed := by
    rcases (usedEq member).mp memberUsed with wasUsed | rfl
    · obtain ⟨other, otherIsBase, inChain⟩ := table.mem_of_used member memberIsOverflow wasUsed
      refine ⟨other, otherIsBase, ?_⟩
      by_cases otherEq : other = base
      · subst otherEq
        rw [update_self]
        exact mem_append_left _ inChain
      · rwa [update_of_ne otherEq]
    · exact ⟨base, isBase, by simp⟩
  chain_of_unused other otherIsBase unused := by
    rw [usedEq, not_or] at unused
    have otherNe : other ≠ base := by
      rintro rfl
      exact unused.1 baseUsed
    rw [update_of_ne otherNe]
    exact table.chain_of_unused other otherIsBase unused.1

theorem unlink
    {front back : List α} (isBase : IsBase base) (split : chain base = front ++ node :: back)
    (nextPred : next' (front.getLastD base) = back.headD null)
    (nextOther : ∀ slot, slot ≠ node → slot ≠ front.getLastD base → next' slot = next slot)
    (prevSucc : ∀ succ ∈ back.head?, prev' succ = front.getLastD base)
    (prevOther : ∀ slot, IsOverflow slot → slot ≠ node → slot ∉ back.head? →
      prev' slot = prev slot)
    (usedEq : ∀ slot, used' slot ↔ used slot ∧ slot ≠ node) :
    ChainedTable IsBase IsOverflow next' prev' null used'
      (update chain base (front ++ back)) := by
  have inChain : node ∈ chain base := by simp [split]
  have sub : ∀ member ∈ front ++ back, member ∈ chain base := by
    intro member memberMem
    rw [split]
    exact ((List.Sublist.refl front).append (sublist_cons_self node back)).subset memberMem
  have nodes := table.forest.nodup base isBase
  rw [split, nodup_middle, nodup_cons] at nodes
  have nodeOverflow := table.overflow_of_mem base isBase node inChain
  have keep : ∀ other, IsBase other →
      ∀ member ∈ update chain base (front ++ back) other,
        member ∈ chain other ∧ member ≠ node := by
    intro other otherIsBase member memberMem
    by_cases otherEq : other = base
    · subst otherEq
      rw [update_self] at memberMem
      refine ⟨sub member memberMem, ?_⟩
      rintro rfl
      exact nodes.1 memberMem
    · rw [update_of_ne otherEq] at memberMem
      refine ⟨memberMem, ?_⟩
      rintro rfl
      exact otherEq (table.forest.head_unique otherIsBase isBase memberMem inChain)
  refine ⟨?_, table.base_not_overflow, table.null_not_overflow, ?_, ?_, ?_, ?_⟩
  · -- Only overflow nodes have a `prev` value that matters, so it may change elsewhere.
    classical
    have unlinked : Chain.Forest next'
      (fun slot => if IsOverflow slot then prev' slot else prev slot)
        null IsBase (update chain base (front ++ back)) := by
      refine table.forest.unlink isBase split nextPred nextOther ?_ ?_
      · intro succ isSucc
        have isOverflow := table.overflow_of_mem base isBase succ
          (sub succ (mem_append_right _ (mem_of_mem_head? isSucc)))
        simpa [isOverflow] using prevSucc succ isSucc
      · intro other otherNe notSucc
        by_cases isOverflow : IsOverflow other
        · simpa [isOverflow] using prevOther other isOverflow otherNe notSucc
        · simp [isOverflow]
    refine unlinked.congr (fun _ _ _ _ => rfl) ?_
    intro other otherIsBase member memberMem
    have isOverflow :=
      table.overflow_of_mem other otherIsBase member (keep other otherIsBase member memberMem).1
    simp [isOverflow]
  · intro other otherIsBase member memberMem
    exact table.overflow_of_mem other otherIsBase member
      (keep other otherIsBase member memberMem).1
  · intro other otherIsBase member memberMem
    have kept := keep other otherIsBase member memberMem
    exact (usedEq member).mpr ⟨table.used_of_mem other otherIsBase member kept.1, kept.2⟩
  · intro member memberIsOverflow memberUsed
    obtain ⟨wasUsed, memberNe⟩ := (usedEq member).mp memberUsed
    obtain ⟨other, otherIsBase, wasIn⟩ := table.mem_of_used member memberIsOverflow wasUsed
    refine ⟨other, otherIsBase, ?_⟩
    by_cases otherEq : other = base
    · subst otherEq
      rw [update_self]
      rw [split, mem_append, mem_cons] at wasIn
      rw [mem_append]
      tauto
    · rwa [update_of_ne otherEq]
  · intro other otherIsBase unused
    rw [usedEq, not_and_or, not_not] at unused
    rcases unused with wasUnused | otherEqNode
    · have wasEmpty := table.chain_of_unused other otherIsBase wasUnused
      have otherNe : other ≠ base := by
        rintro rfl
        rw [split] at wasEmpty
        simp at wasEmpty
      rwa [update_of_ne otherNe]
    · exact absurd nodeOverflow (table.base_not_overflow node (otherEqNode ▸ otherIsBase))

theorem insert {entry pred : α} (baseNe : ∀ slot, IsBase slot → slot ≠ null)
    (place : Place IsBase IsOverflow null used chain base entry pred)
    (nextEntry : next' entry = null) (nextPred : pred ≠ null → next' pred = entry)
    (nextOther : ∀ slot, slot ≠ entry → slot ≠ pred → next' slot = next slot)
    (prevEntry : pred ≠ null → prev' entry = pred)
    (prevOther : ∀ slot, slot ≠ entry → prev' slot = prev slot)
    (usedEq : ∀ slot, used' slot ↔ used slot ∨ slot = entry) :
    ∃ chain', ChainedTable IsBase IsOverflow next' prev' null used' chain' ∧
      entry ∈ base :: chain' base ∧ ∀ head, ∀ slot ∈ head :: chain head,
        slot ∈ head :: chain' head := by
  cases place with
  | inBase isBase free =>
      refine ⟨chain, ?_, by simp, fun _ _ slotMem => slotMem⟩
      have empty := table.chain_of_unused base isBase free
      refine table.congr ?_ ?_ ?_ ?_
      · intro slot isSlot _
        by_cases slotEq : slot = base
        · subst slotEq
          rw [nextEntry, (table.chain_eq_nil_iff isBase).mp empty]
        · refine nextOther slot slotEq ?_
          rintro rfl
          rcases isSlot with slotBase | slotOverflow
          · exact baseNe slot slotBase rfl
          · exact table.null_not_overflow slotOverflow
      · intro slot slotOverflow _
        refine prevOther slot ?_
        rintro rfl
        exact table.base_not_overflow slot isBase slotOverflow
      · intro slot slotOverflow
        rw [usedEq]
        refine ⟨fun isUsed => isUsed.resolve_right ?_, Or.inl⟩
        rintro rfl
        exact table.base_not_overflow slot isBase slotOverflow
      · intro slot slotBase notEmpty
        rw [usedEq]
        by_contra unused
        exact notEmpty (table.chain_of_unused slot slotBase (fun isUsed => unused (Or.inl isUsed)))
  | behind _ isBase baseUsed isOverflow free =>
      have lastNe : (chain base).getLastD base ≠ null := by
        intro isNull
        rcases mem_cons.mp (Chain.getLastD_mem base (chain base)) with isBaseSlot | inChain
        · exact baseNe base isBase (isBaseSlot ▸ isNull)
        · exact table.forest.node_ne_null base isBase (isNull ▸ inChain)
      refine ⟨_, table.append isBase baseUsed isOverflow free nextEntry (nextPred lastNe)
        nextOther (prevEntry lastNe) prevOther usedEq, by simp, ?_⟩
      intro head slot slotMem
      by_cases headEq : head = base
      · subst headEq
        rw [update_self, ← cons_append]
        exact mem_append_left _ slotMem
      · rwa [update_of_ne headEq]

end Update

/-- The entries stored under a base slot, read off by following `next`. -/
def entriesOf [DecidableEq α] (next : α → α) (null : α) (used : α → Prop) [DecidablePred used]
    (fuel : ℕ) (base : α) : List α :=
  if used base then Chain.walk next null fuel base else []

section Entries

variable [DecidableEq α] [DecidablePred used] {fuel : ℕ} {other slot : α}

variable (table : ChainedTable IsBase IsOverflow next prev null used chain)

include table

section

variable (isBase : IsBase base)

include isBase

theorem entriesOf_eq (baseNe : base ≠ null) (enough : (chain base).length < fuel) :
    entriesOf next null used fuel base = if used base then base :: chain base else [] := by
  unfold entriesOf
  rw [Chain.walk_eq_of_path (table.forest.path base isBase) baseNe
    (table.forest.node_ne_null base isBase) enough]

theorem mem_entriesOf (baseNe : base ≠ null) (enough : (chain base).length < fuel) :
    slot ∈ entriesOf next null used fuel base ↔ used base ∧ slot ∈ base :: chain base := by
  rw [table.entriesOf_eq isBase baseNe enough]
  split <;> simp [*]

theorem used_of_mem_entriesOf (baseNe : base ≠ null) (enough : (chain base).length < fuel)
    (slotMem : slot ∈ entriesOf next null used fuel base) : used slot := by
  obtain ⟨baseUsed, inChain⟩ := (table.mem_entriesOf isBase baseNe enough).mp slotMem
  rcases mem_cons.mp inChain with rfl | inNodes
  · exact baseUsed
  · exact table.used_of_mem base isBase slot inNodes

theorem mem_entriesOf_iff (otherIsBase : IsBase other) (otherNe : other ≠ null)
    (enough : (chain other).length < fuel) (slotUsed : used slot)
    (place : slot ∈ base :: chain base) :
    slot ∈ entriesOf next null used fuel other ↔ other = base := by
  rw [table.mem_entriesOf otherIsBase otherNe enough]
  constructor
  · rintro ⟨-, inOther⟩
    rcases mem_cons.mp place with rfl | inChain <;>
      rcases mem_cons.mp inOther with rfl | inOtherChain
    · rfl
    · exact absurd isBase (table.forest.node_not_head other otherIsBase _ inOtherChain)
    · exact absurd otherIsBase (table.forest.node_not_head base isBase _ inChain)
    · exact table.forest.head_unique otherIsBase isBase inOtherChain inChain
  · rintro rfl
    refine ⟨?_, place⟩
    by_contra unused
    rcases mem_cons.mp place with rfl | inChain
    · exact unused slotUsed
    · rw [table.chain_of_unused other isBase unused] at inChain
      exact absurd inChain not_mem_nil

theorem entriesOf_linked (baseNe : base ≠ null) (enough : (chain base).length < fuel) :
    (entriesOf next null used fuel base).IsChain
      fun pred succ => next pred = succ ∧ prev succ = pred := by
  rw [table.entriesOf_eq isBase baseNe enough]
  split
  · exact (table.forest.path base isBase).linked (table.forest.backPath base isBase)
  · exact isChain_nil

theorem entriesOf_nodup (baseNe : base ≠ null) (enough : (chain base).length < fuel) :
    (entriesOf next null used fuel base).Nodup := by
  rw [table.entriesOf_eq isBase baseNe enough]
  split
  · exact table.forest.nodup_cons isBase
  · exact nodup_nil

end

theorem exists_entriesOf (baseNe : ∀ base, IsBase base → base ≠ null)
    (enough : ∀ base, IsBase base → (chain base).length < fuel)
    (isSlot : IsBase slot ∨ IsOverflow slot) (slotUsed : used slot) :
    ∃ base, IsBase base ∧ slot ∈ entriesOf next null used fuel base := by
  obtain ⟨base, isBase, place⟩ : ∃ base, IsBase base ∧ slot ∈ base :: chain base := by
    rcases isSlot with isBase | isOverflow
    · exact ⟨slot, isBase, mem_cons_self⟩
    · obtain ⟨base, isBase, inChain⟩ := table.mem_of_used slot isOverflow slotUsed
      exact ⟨base, isBase, mem_cons_of_mem _ inChain⟩
  exact ⟨base, isBase, (table.mem_entriesOf_iff isBase isBase (baseNe base isBase)
    (enough base isBase) slotUsed place).mpr rfl⟩

end Entries

end ChainedTable
