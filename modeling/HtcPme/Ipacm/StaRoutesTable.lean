import HtcPme.Ipacm.StaRoutes

/-!
# The handles of routing rules

The handles that are in use are those of rules that were added for their places, and the rule of a
client has no other.
-/

namespace HandleTable

variable {ρ : Type*} {table : HandleTable ρ}

theorem rule_unique {hdl : ℕ} {rule rule' : ρ} (isIn : (hdl, rule) ∈ table.rules)
    (isIn' : (hdl, rule') ∈ table.rules) : rule = rule' := by
  have same := List.inj_on_of_nodup_map table.nodup isIn isIn' rfl
  exact congrArg Prod.snd same

end HandleTable

namespace HtcPme.Ipacm

def WanRtSlot.IsClient : WanRtSlot → Prop
  | dft _ _ | dftA5 => False
  | clientV4 _ _ | clientV6 _ _ _ | clientV6Wan _ _ _ => True

namespace StaRoutes

variable {μ : Type*} (sta : StaRoutes μ)

def Live : WanRtSlot → Prop
  | .dft ip txIndex => sta.active ip = true ∧ txIndex ∈ sta.iface.indices ip
  | .dftA5 => sta.active .v6 = true
  | .clientV4 cltIndx txIndex =>
      cltIndx < sta.numWanClient ∧ (sta.wanClient cltIndx).routeRuleSetV4 = true ∧
        txIndex ∈ sta.iface.indices .v4
  | .clientV6 cltIndx txIndex numV6 | .clientV6Wan cltIndx txIndex numV6 =>
      cltIndx < sta.numWanClient ∧ numV6 < (sta.wanClient cltIndx).routeRuleSetV6 ∧
        txIndex ∈ sta.iface.indices .v6

def RulesOk (sta : StaRoutes μ) : Prop :=
  ∀ entry ∈ sta.kernel.rules, entry.2 = sta.rule entry.2.slot

structure TableOk (sta : StaRoutes μ) : Prop where
  installed : ∀ slot, sta.Live slot →
    ∃ rule, (sta.rtRuleHdl slot, rule) ∈ sta.kernel.rules ∧ rule.slot = slot
  client : ∀ entry ∈ sta.kernel.rules, entry.2.slot.IsClient →
    sta.Live entry.2.slot ∧ sta.rtRuleHdl entry.2.slot = entry.1
  dftHeader : ∀ entry ∈ sta.kernel.rules, ∀ ip txIndex, entry.2.slot = .dft ip txIndex →
    sta.headerSet ip = true
  activeHeader : ∀ ip, sta.active ip = true → sta.headerSet ip = true
  setV4 : ∀ cltIndx < sta.numWanClient,
    (sta.wanClient cltIndx).routeRuleSetV4 = true → (sta.wanClient cltIndx).ipv4Set = true
  setV6 : ∀ cltIndx < sta.numWanClient,
    (sta.wanClient cltIndx).routeRuleSetV6 ≤ (sta.wanClient cltIndx).ipv6Set

variable {sta} {after : StaRoutes μ} {source : HandleSource} {slots : List WanRtSlot}

variable {slot : WanRtSlot} {entry : ℕ × WanRtRule}

theorem rule_eq_iff : after.rule slot = sta.rule slot ↔
    after.spec slot = sta.spec slot := by
  simp [rule]

theorem TableOk.slot_of_hdl (isOk : TableOk sta) (isLive : sta.Live slot)
     (isIn : entry ∈ sta.kernel.rules)
    (isHdl : sta.rtRuleHdl slot = entry.1) : entry.2.slot = slot := by
  rcases isOk.installed slot isLive with ⟨rule, isRule, isSlot⟩
  rw [isHdl] at isRule
  rw [HandleTable.rule_unique isIn isRule, isSlot]

theorem TableOk.hdl_inj (isOk : TableOk sta) {slot slot' : WanRtSlot} (isLive : sta.Live slot)
    (isLive' : sta.Live slot') (same : sta.rtRuleHdl slot = sta.rtRuleHdl slot') : slot =
      slot' := by
  rcases isOk.installed slot isLive with ⟨rule, isRule, isSlot⟩
  rw [← isSlot]
  exact isOk.slot_of_hdl isLive' isRule same.symm

theorem addRules_eq (source : HandleSource) (sta : StaRoutes μ) (slots : List WanRtSlot) :
    sta.addRules source slots =
      { sta with
        rtRuleHdl := (sta.addRules source slots).rtRuleHdl
        kernel := (sta.addRules source slots).kernel } := by
  induction slots generalizing sta with
  | nil => rfl
  | cons first rest ih => exact ih (addRule source sta first)

@[simp]
theorem iface_addRules : (sta.addRules source slots).iface = sta.iface := by rw [addRules_eq]

@[simp]
theorem headerSet_addRules : (sta.addRules source slots).headerSet = sta.headerSet := by
  rw [addRules_eq]

@[simp]
theorem active_addRules : (sta.addRules source slots).active = sta.active := by rw [addRules_eq]

@[simp]
theorem wanClient_addRules : (sta.addRules source slots).wanClient = sta.wanClient := by
  rw [addRules_eq]

@[simp]
theorem numWanClient_addRules :
    (sta.addRules source slots).numWanClient = sta.numWanClient := by
  rw [addRules_eq]

theorem live_addRules :
    (sta.addRules source slots).Live slot ↔ sta.Live slot := by
  rw [addRules_eq]
  rfl

theorem spec_addRules (slot : WanRtSlot) :
    (sta.addRules source slots).spec slot = sta.spec slot := by
  rw [addRules_eq]
  rfl

theorem addRules_spec (source : HandleSource) (sta : StaRoutes μ) (nodup : slots.Nodup) :
    (∀ slot, slot ∉ slots → (sta.addRules source slots).rtRuleHdl slot = sta.rtRuleHdl slot) ∧
      (sta.addRules source slots).kernel.rules = sta.kernel.rules ++
        slots.map fun slot => ((sta.addRules source slots).rtRuleHdl slot, sta.rule slot) := by
  induction slots generalizing sta with
  | nil => exact ⟨fun _ _ => rfl, by simp [addRules]⟩
  | cons first rest ih =>
      rcases List.nodup_cons.mp nodup with ⟨notRest, nodupRest⟩
      rcases ih (addRule source sta first) nodupRest with ⟨others, rules⟩
      have own : (sta.addRules source (first :: rest)).rtRuleHdl first =
          source.next sta.kernel.handles :=
        (others first notRest).trans (Function.update_self ..)
      constructor
      · intro slot notIn
        have differs : slot ≠ first := by
          rintro rfl
          exact notIn (List.mem_cons_self ..)
        exact (others slot fun isRest => notIn (List.mem_cons_of_mem _ isRest)).trans
          (Function.update_of_ne differs _ _)
      · have added : (sta.addRules source (first :: rest)).kernel.rules =
            (sta.kernel.rules ++ [(source.next sta.kernel.handles, sta.rule first)]) ++
              rest.map fun slot =>
                ((sta.addRules source (first :: rest)).rtRuleHdl slot, sta.rule slot) := rules
        rw [added, List.append_assoc, List.map_cons, own]
        rfl

theorem TableOk.added (isOk : TableOk sta) (nodup : slots.Nodup)
    (kernel : after.kernel = (sta.addRules source slots).kernel)
    (rtRuleHdl : after.rtRuleHdl = (sta.addRules source slots).rtRuleHdl)
    (live : ∀ slot, after.Live slot ↔ sta.Live slot ∨ slot ∈ slots)
    (isNew : ∀ slot ∈ slots, slot.IsClient → ¬sta.Live slot)
    (header : ∀ ip txIndex, .dft ip txIndex ∈ slots → after.headerSet ip = true)
    (headerKept : ∀ ip, sta.headerSet ip = true → after.headerSet ip = true)
    (activeHeader : ∀ ip, after.active ip = true → after.headerSet ip = true)
    (setV4 : ∀ cltIndx < after.numWanClient, (after.wanClient cltIndx).routeRuleSetV4 = true →
      (after.wanClient cltIndx).ipv4Set = true)
    (setV6 : ∀ cltIndx < after.numWanClient,
      (after.wanClient cltIndx).routeRuleSetV6 ≤ (after.wanClient cltIndx).ipv6Set) :
    TableOk after := by
  rcases addRules_spec source sta nodup with ⟨others, rules⟩
  have isIn (entry : ℕ × WanRtRule) : entry ∈ after.kernel.rules ↔ entry ∈ sta.kernel.rules ∨
      ∃ slot ∈ slots, ((sta.addRules source slots).rtRuleHdl slot, sta.rule slot) = entry := by
    rw [kernel, rules, List.mem_append, List.mem_map]
  refine ⟨?_, ?_, ?_, activeHeader, setV4, setV6⟩
  · intro slot isLive
    by_cases isAddedSlot : slot ∈ slots
    · rw [rtRuleHdl]
      exact ⟨sta.rule slot, (isIn _).mpr (.inr ⟨slot, isAddedSlot, rfl⟩), rfl⟩
    · have wasLive := ((live slot).mp isLive).resolve_right isAddedSlot
      have sameHdl : after.rtRuleHdl slot = sta.rtRuleHdl slot := by
        rw [rtRuleHdl]
        exact others slot isAddedSlot
      rcases isOk.installed slot wasLive with ⟨rule, isRule, isSlot⟩
      rw [sameHdl]
      exact ⟨rule, (isIn _).mpr (.inl isRule), isSlot⟩
  · intro entry isEntry isClient
    rw [rtRuleHdl]
    rcases (isIn entry).mp isEntry with isOld | ⟨slot, isAddedSlot, rfl⟩
    · rcases isOk.client entry isOld isClient with ⟨wasLive, isHdl⟩
      refine ⟨(live _).mpr (.inl wasLive), ?_⟩
      rw [← isHdl]
      exact others _ fun isAddedSlot => isNew _ isAddedSlot isClient wasLive
    · exact ⟨(live _).mpr (.inr isAddedSlot), rfl⟩
  · intro entry isEntry ip txIndex isDft
    rcases (isIn entry).mp isEntry with isOld | ⟨slot, isAddedSlot, rfl⟩
    · exact headerKept ip (isOk.dftHeader entry isOld ip txIndex isDft)
    · exact header ip txIndex (isDft ▸ isAddedSlot)

theorem RulesOk.added (rulesOk : RulesOk sta) (nodup : slots.Nodup)
    (kernel : after.kernel = (sta.addRules source slots).kernel)
    (same : ∀ slot, after.spec slot = sta.spec slot) : RulesOk after := by
  intro entry isEntry
  rw [rule_eq_iff.mpr (same _)]
  rw [kernel, (addRules_spec source sta nodup).2, List.mem_append, List.mem_map] at isEntry
  rcases isEntry with isOld | ⟨slot, -, rfl⟩
  · exact rulesOk entry isOld
  · rfl

theorem TableOk.deleted (isOk : TableOk sta) (isLive : ∀ slot ∈ slots, sta.Live slot)
    (kernel : after.kernel = (sta.deleteRules slots).kernel)
    (rtRuleHdl : after.rtRuleHdl = sta.rtRuleHdl)
    (live : ∀ slot, after.Live slot ↔ sta.Live slot ∧ slot ∉ slots)
    (headerSet : after.headerSet = sta.headerSet)
    (activeHeader : ∀ ip, after.active ip = true → sta.active ip = true)
    (setV4 : ∀ cltIndx < after.numWanClient, (after.wanClient cltIndx).routeRuleSetV4 = true →
      (after.wanClient cltIndx).ipv4Set = true)
    (setV6 : ∀ cltIndx < after.numWanClient,
      (after.wanClient cltIndx).routeRuleSetV6 ≤ (after.wanClient cltIndx).ipv6Set) :
    TableOk after := by
  have isIn (entry : ℕ × WanRtRule) : entry ∈ after.kernel.rules ↔
      entry ∈ sta.kernel.rules ∧ entry.1 ∉ slots.map sta.rtRuleHdl := by
    rw [kernel, deleteRules, HandleTable.rules_deleteAll, List.mem_filter, decide_eq_true_iff]
  refine ⟨?_, ?_, ?_, ?_, setV4, setV6⟩
  · intro slot isLiveAfter
    rcases (live slot).mp isLiveAfter with ⟨wasLive, notDeleted⟩
    rcases isOk.installed slot wasLive with ⟨rule, isRule, isSlot⟩
    rw [rtRuleHdl]
    refine ⟨rule, (isIn _).mpr ⟨isRule, ?_⟩, isSlot⟩
    intro isDeleted
    rcases List.mem_map.mp isDeleted with ⟨other, isOther, same⟩
    exact notDeleted (isOk.hdl_inj (isLive other isOther) wasLive same ▸ isOther)
  · intro entry isEntry isClient
    rcases (isIn entry).mp isEntry with ⟨wasIn, notDeleted⟩
    rcases isOk.client entry wasIn isClient with ⟨wasLive, isHdl⟩
    rw [rtRuleHdl]
    refine ⟨(live _).mpr ⟨wasLive, ?_⟩, isHdl⟩
    intro isDeleted
    exact notDeleted (isHdl ▸ List.mem_map_of_mem isDeleted)
  · intro entry isEntry ip txIndex isDft
    rw [headerSet]
    exact isOk.dftHeader entry ((isIn entry).mp isEntry).1 ip txIndex isDft
  · intro ip isActive
    rw [headerSet]
    exact isOk.activeHeader ip (activeHeader ip isActive)

theorem mem_of_deleteRules (isIn : entry ∈ (sta.deleteRules slots).kernel.rules) :
    entry ∈ sta.kernel.rules ∧ entry.1 ∉ slots.map sta.rtRuleHdl := by
  rwa [deleteRules, HandleTable.rules_deleteAll, List.mem_filter, decide_eq_true_iff] at isIn

theorem TableOk.kept (isOk : TableOk sta) (kernel : after.kernel = sta.kernel)
    (rtRuleHdl : after.rtRuleHdl = sta.rtRuleHdl)
    (live : ∀ slot, after.Live slot ↔ sta.Live slot)
    (headerKept : ∀ ip, sta.headerSet ip = true → after.headerSet ip = true)
    (active : after.active = sta.active)
    (setV4 : ∀ cltIndx < after.numWanClient, (after.wanClient cltIndx).routeRuleSetV4 = true →
      (after.wanClient cltIndx).ipv4Set = true)
    (setV6 : ∀ cltIndx < after.numWanClient,
      (after.wanClient cltIndx).routeRuleSetV6 ≤ (after.wanClient cltIndx).ipv6Set) :
    TableOk after := by
  refine ⟨?_, ?_, ?_, ?_, setV4, setV6⟩
  · intro slot isLive
    rw [kernel, rtRuleHdl]
    exact isOk.installed slot ((live slot).mp isLive)
  · intro entry isEntry isClient
    rw [kernel] at isEntry
    rw [rtRuleHdl, live]
    exact isOk.client entry isEntry isClient
  · intro entry isEntry ip txIndex isDft
    rw [kernel] at isEntry
    exact headerKept ip (isOk.dftHeader entry isEntry ip txIndex isDft)
  · intro ip isActive
    rw [active] at isActive
    exact headerKept ip (isOk.activeHeader ip isActive)

theorem RulesOk.kept (rulesOk : RulesOk sta) (kernel : after.kernel = sta.kernel)
    (same : ∀ entry ∈ sta.kernel.rules, after.spec entry.2.slot = sta.spec entry.2.slot) :
    RulesOk after := by
  intro entry isEntry
  rw [kernel] at isEntry
  rw [rule_eq_iff.mpr (same entry isEntry)]
  exact rulesOk entry isEntry

end StaRoutes

end HtcPme.Ipacm
