import HtcPme.Ipacm.NatApp

/-!
# Enabled slots and live rules

An enabled slot of the cache stands for one live rule of the hardware table, and every live rule for
one enabled slot.
-/

namespace HtcPme.Ipacm

open Function (update update_of_ne update_self)

open IpaNat

variable {maxEntries : ℕ}

structure HandlesMatch (cache : Fin maxEntries → NatTableEntry) (driver : NatDriver) : Prop where
  live : ∀ cnt, (cache cnt).enabled → ⟨(cache cnt).ruleHdl, (cache cnt).natRule⟩ ∈ driver.rules
  distinct : ∀ cnt cnt', (cache cnt).enabled → (cache cnt').enabled →
    (cache cnt).ruleHdl = (cache cnt').ruleHdl → cnt = cnt'
  owned : ∀ held ∈ driver.rules, ∃ cnt, (cache cnt).enabled ∧ (cache cnt).ruleHdl = held.ruleHdl
  noTable : driver.table = none → ∀ cnt, ¬(cache cnt).enabled

structure HandlesOk (natTableHdl : ℕ) (cache : Fin maxEntries → NatTableEntry)
    (driver : NatDriver) : Prop extends HandlesMatch cache driver where
  tblHdl : natTableHdl ≠ 0 → driver.HasTable natTableHdl
  occupied : ∀ cnt, (cache cnt).enabled → (cache cnt).conn ≠ .unused

section Slots

variable {natTableHdl : ℕ} {cache : Fin maxEntries → NatTableEntry} {driver driver' : NatDriver}
  {cnt : Fin maxEntries} {entry : NatTableEntry}

theorem HandlesOk.of_disabled (disabled : ∀ cnt, (cache cnt).enabled = false)
    (noRules : driver.rules = []) (tblHdl : natTableHdl ≠ 0 → driver.HasTable natTableHdl) :
    HandlesOk natTableHdl cache driver where
  live := fun cnt enabled => by simp [disabled cnt] at enabled
  distinct := fun cnt _ enabled => by simp [disabled cnt] at enabled
  owned := fun held isHeld => by simp [noRules] at isHeld
  noTable := fun _ cnt => by simp [disabled cnt]
  tblHdl := tblHdl
  occupied := fun cnt enabled => by simp [disabled cnt] at enabled

variable (handlesOk : HandlesOk natTableHdl cache driver)

include handlesOk

theorem HandlesOk.setDisabled
    (wasDisabled : (cache cnt).enabled = false) (isDisabled : entry.enabled = false) :
    HandlesOk natTableHdl (update cache cnt entry) driver where
  live := by
    intro slot enabled
    by_cases same : slot = cnt
    · subst same
      rw [update_self, isDisabled] at enabled
      cases enabled
    · rw [update_of_ne same] at enabled ⊢
      exact handlesOk.live slot enabled
  distinct := by
    intro slot slot' enabled enabled'
    by_cases same : slot = cnt
    · subst same
      rw [update_self, isDisabled] at enabled
      cases enabled
    · by_cases same' : slot' = cnt
      · subst same'
        rw [update_self, isDisabled] at enabled'
        cases enabled'
      · rw [update_of_ne same] at enabled ⊢
        rw [update_of_ne same'] at enabled' ⊢
        exact handlesOk.distinct slot slot' enabled enabled'
  owned := by
    intro held isHeld
    rcases handlesOk.owned held isHeld with ⟨slot, enabled, sameHdl⟩
    have other : slot ≠ cnt := by
      rintro rfl
      rw [wasDisabled] at enabled
      cases enabled
    refine ⟨slot, ?_⟩
    rw [update_of_ne other]
    exact ⟨enabled, sameHdl⟩
  noTable := by
    intro noTable slot
    by_cases same : slot = cnt
    · subst same
      simp [isDisabled]
    · rw [update_of_ne same]
      exact handlesOk.noTable noTable slot
  tblHdl := handlesOk.tblHdl
  occupied := by
    intro slot enabled
    by_cases same : slot = cnt
    · subst same
      rw [update_self, isDisabled] at enabled
      cases enabled
    · rw [update_of_ne same] at enabled ⊢
      exact handlesOk.occupied slot enabled

theorem HandlesOk.setAdded {tblHdl ruleHdl : ℕ} {answer : Option ℕ}
    (added : driver.ipaNatAddIpv4Rule tblHdl entry.natRule answer = some (ruleHdl, driver'))
    (wasDisabled : (cache cnt).enabled = false) (isEnabled : entry.enabled)
    (hdlEq : entry.ruleHdl = ruleHdl) (occupied : entry.conn ≠ .unused) :
    HandlesOk natTableHdl (update cache cnt entry) driver' := by
  rcases NatDriver.ipaNatAddIpv4Rule_eq_some added with
    ⟨⟨_, hasTable⟩, _, fresh, rulesEq, tableEq⟩
  subst hdlEq
  have otherHdl : ∀ slot, (cache slot).enabled → (cache slot).ruleHdl ≠ entry.ruleHdl :=
    fun slot enabled => fresh.2 _ (handlesOk.live slot enabled)
  refine ⟨⟨?_, ?_, ?_, ?_⟩, ?_, ?_⟩
  · intro slot enabled
    rw [rulesEq]
    by_cases same : slot = cnt
    · subst same
      rw [update_self]
      exact List.mem_cons_self
    · rw [update_of_ne same] at enabled ⊢
      exact List.mem_cons_of_mem _ (handlesOk.live slot enabled)
  · intro slot slot' enabled enabled' sameHdl
    by_cases same : slot = cnt
    · by_cases same' : slot' = cnt
      · rw [same, same']
      · rw [update_of_ne same'] at enabled' sameHdl
        rw [same, update_self] at sameHdl
        exact absurd sameHdl.symm (otherHdl slot' enabled')
    · rw [update_of_ne same] at enabled sameHdl
      by_cases same' : slot' = cnt
      · rw [same', update_self] at sameHdl
        exact absurd sameHdl (otherHdl slot enabled)
      · rw [update_of_ne same'] at enabled' sameHdl
        exact handlesOk.distinct slot slot' enabled enabled' sameHdl
  · intro held isHeld
    rw [rulesEq] at isHeld
    rcases List.mem_cons.mp isHeld with rfl | isHeld
    · refine ⟨cnt, ?_⟩
      rw [update_self]
      exact ⟨isEnabled, rfl⟩
    · rcases handlesOk.owned held isHeld with ⟨slot, enabled, sameHdl⟩
      have other : slot ≠ cnt := by
        rintro rfl
        rw [wasDisabled] at enabled
        cases enabled
      refine ⟨slot, ?_⟩
      rw [update_of_ne other]
      exact ⟨enabled, sameHdl⟩
  · intro noTable
    rw [tableEq] at noTable
    exact absurd noTable hasTable
  · intro hdlNe
    rw [NatDriver.HasTable, tableEq]
    exact handlesOk.tblHdl hdlNe
  · intro slot enabled
    by_cases same : slot = cnt
    · subst same
      rw [update_self]
      exact occupied
    · rw [update_of_ne same] at enabled ⊢
      exact handlesOk.occupied slot enabled

theorem HandlesOk.setDeleted {tblHdl : ℕ} {deleted : Bool}
    (removed : driver.ipaNatDelIpv4Rule tblHdl (cache cnt).ruleHdl deleted = some driver')
    (wasEnabled : (cache cnt).enabled) (isDisabled : entry.enabled = false) :
    HandlesOk natTableHdl (update cache cnt entry) driver' := by
  rcases NatDriver.ipaNatDelIpv4Rule_eq_some removed with ⟨⟨_, hasTable⟩, _, rulesEq, tableEq⟩
  have enabled_update : ∀ slot, (update cache cnt entry slot).enabled →
      slot ≠ cnt ∧ (cache slot).enabled := by
    intro slot enabled
    by_cases same : slot = cnt
    · subst same
      rw [update_self, isDisabled] at enabled
      cases enabled
    · rw [update_of_ne same] at enabled
      exact ⟨same, enabled⟩
  refine ⟨⟨?_, ?_, ?_, ?_⟩, ?_, ?_⟩
  · intro slot enabled
    rcases enabled_update slot enabled with ⟨other, enabled⟩
    rw [update_of_ne other, rulesEq]
    apply List.mem_filter.mpr
    refine ⟨handlesOk.live slot enabled, ?_⟩
    rw [decide_eq_true_iff]
    intro sameHdl
    exact other (handlesOk.distinct slot cnt enabled wasEnabled sameHdl)
  · intro slot slot' enabled enabled' sameHdl
    rcases enabled_update slot enabled with ⟨other, enabled⟩
    rcases enabled_update slot' enabled' with ⟨other', enabled'⟩
    rw [update_of_ne other, update_of_ne other'] at sameHdl
    exact handlesOk.distinct slot slot' enabled enabled' sameHdl
  · intro held isHeld
    rw [rulesEq] at isHeld
    rcases List.mem_filter.mp isHeld with ⟨isHeld, notDeleted⟩
    rw [decide_eq_true_iff] at notDeleted
    rcases handlesOk.owned held isHeld with ⟨slot, enabled, sameHdl⟩
    have other : slot ≠ cnt := by
      rintro rfl
      exact notDeleted sameHdl.symm
    refine ⟨slot, ?_⟩
    rw [update_of_ne other]
    exact ⟨enabled, sameHdl⟩
  · intro noTable
    rw [tableEq] at noTable
    exact absurd noTable hasTable
  · intro hdlNe
    rw [NatDriver.HasTable, tableEq]
    exact handlesOk.tblHdl hdlNe
  · intro slot enabled
    rcases enabled_update slot enabled with ⟨other, enabled⟩
    rw [update_of_ne other]
    exact handlesOk.occupied slot enabled

end Slots

namespace NatApp

def SlotsOk (app : NatApp maxEntries) : Prop :=
  HandlesOk app.natTableHdl app.cache app.driver

section Operations

variable {app : NatApp maxEntries} {cnt : Fin maxEntries}

section

variable (slotsOk : app.SlotsOk)

include slotsOk

theorem SlotsOk.clearSlot (wasDisabled : (app.cache cnt).enabled = false) :
    (app.clearSlot cnt).SlotsOk :=
  HandlesOk.setDisabled slotsOk wasDisabled rfl

theorem SlotsOk.addBack (wasDisabled : (app.cache cnt).enabled = false)
    (privateIpNe : (app.cache cnt).privateIp ≠ 0) (answer : Option ℕ) :
    (app.addBack cnt answer).SlotsOk := by
  unfold NatApp.addBack
  cases added : app.driver.ipaNatAddIpv4Rule app.natTableHdl (app.cache cnt).natRule answer with
  | none => exact slotsOk.clearSlot wasDisabled
  | some result =>
      exact HandlesOk.setAdded slotsOk added wasDisabled rfl rfl
        (NatTableEntry.conn_ne_unused privateIpNe)

theorem SlotsOk.delRuleOf {after : NatApp maxEntries → NatApp maxEntries} {deleted : Bool}
    (removes : ∀ driver, app.driver.ipaNatDelIpv4Rule app.natTableHdl (app.cache cnt).ruleHdl
      deleted = some driver → (after { app with driver }).SlotsOk) :
    (app.delRuleOf cnt deleted after).SlotsOk := by
  unfold NatApp.delRuleOf
  cases removed : app.driver.ipaNatDelIpv4Rule app.natTableHdl (app.cache cnt).ruleHdl deleted with
  | none => exact slotsOk
  | some driver => exact removes driver removed

theorem SlotsOk.replacePwrSaveIf (old new : BitVec 32) :
    (app.replacePwrSaveIf old new).SlotsOk := by
  unfold NatApp.replacePwrSaveIf
  cases app.pwrSaveSlotOf old with
  | none => exact slotsOk
  | some slot => exact slotsOk

theorem SlotsOk.pwrSaveSlot (clientLanIp : BitVec 32) (deleted : Bool) :
    (app.pwrSaveSlot clientLanIp cnt deleted).SlotsOk := by
  unfold NatApp.pwrSaveSlot
  split
  · rename_i selected
    apply slotsOk.delRuleOf
    intro driver removed
    exact HandlesOk.setDeleted slotsOk removed selected.2 rfl
  · exact slotsOk

theorem SlotsOk.updatePwrSaveIf (clientLanIp : BitVec 32)
    (deleted : ℕ → Bool) : (app.updatePwrSaveIf clientLanIp deleted).2.SlotsOk := by
  unfold NatApp.updatePwrSaveIf
  split
  · exact slotsOk
  · split
    · exact slotsOk
    · apply SlotLoop.forEach_invariant SlotsOk
      · exact slotsOk.replacePwrSaveIf 0 clientLanIp
      · intro cnt app slotsOk
        exact slotsOk.pwrSaveSlot clientLanIp (deleted cnt)

theorem SlotsOk.resetPwrSaveIf (clientLanIp : BitVec 32)
    (answers : ℕ → Option ℕ) : (app.resetPwrSaveIf clientLanIp answers).2.SlotsOk := by
  unfold NatApp.resetPwrSaveIf
  split
  · exact slotsOk
  · rename_i isAddress
    apply SlotLoop.forEach_invariant SlotsOk
    · exact slotsOk.replacePwrSaveIf clientLanIp 0
    · intro cnt app slotsOk
      unfold NatApp.pwrResetSlot
      split
      · rename_i selected
        apply slotsOk.addBack selected.2
        rw [selected.1]
        exact isAddress
      · exact slotsOk

theorem SlotsOk.delEntriesOnClntDiscon (ipAddr : BitVec 32)
    (deleted : ℕ → Bool) : (app.delEntriesOnClntDiscon ipAddr deleted).2.SlotsOk := by
  unfold NatApp.delEntriesOnClntDiscon
  split
  · exact slotsOk
  · apply SlotLoop.forEach_invariant SlotsOk
    · exact slotsOk.replacePwrSaveIf ipAddr 0
    · intro cnt app slotsOk
      unfold NatApp.clntDisconSlot
      split
      · rename_i selected
        apply slotsOk.delRuleOf
        intro driver removed
        exact HandlesOk.setDeleted slotsOk removed selected.2 rfl
      · exact slotsOk

theorem SlotsOk.delEntriesOnSTAClntDiscon (ipAddr : BitVec 32)
    (deleted : ℕ → Bool) : (app.delEntriesOnSTAClntDiscon ipAddr deleted).2.SlotsOk := by
  unfold NatApp.delEntriesOnSTAClntDiscon
  split
  · exact slotsOk
  · apply SlotLoop.forEach_invariant SlotsOk
    · exact slotsOk
    · intro cnt app slotsOk
      unfold NatApp.staDisconSlot
      split
      · split
        · rename_i wasEnabled
          apply slotsOk.delRuleOf
          intro driver removed
          exact HandlesOk.setDeleted slotsOk removed wasEnabled rfl
        · rename_i notEnabled
          exact slotsOk.clearSlot (Bool.eq_false_iff.mpr notEnabled)
      · exact slotsOk

theorem SlotsOk.disabled_of_freeSlot {start : ℕ}
    (isFree : app.freeSlot start = some cnt) : (app.cache cnt).enabled = false := by
  rw [Bool.eq_false_iff]
  intro enabled
  have isUnused := Fin.eq_true_of_find?_eq_some isFree
  rw [decide_eq_true_iff] at isUnused
  exact slotsOk.occupied cnt enabled isUnused.2

theorem SlotsOk.addEntry (rule : NatTableEntry) (answer : Option ℕ) :
    (app.addEntry rule answer).2.SlotsOk := by
  unfold NatApp.addEntry
  split
  · exact slotsOk
  · split
    · exact slotsOk
    · split
      · exact slotsOk
      · rename_i valid
        rw [not_not] at valid
        split
        · exact slotsOk
        · cases isFree : app.freeSlot 0 with
          | none => exact slotsOk
          | some cnt =>
              have wasDisabled := slotsOk.disabled_of_freeSlot isFree
              simp only
              split
              · exact HandlesOk.setDisabled slotsOk wasDisabled rfl
              · cases added : app.driver.ipaNatAddIpv4Rule app.natTableHdl rule.natRule answer with
                | none => exact slotsOk
                | some result =>
                    exact HandlesOk.setAdded slotsOk added wasDisabled rfl rfl valid.ne_unused

theorem SlotsOk.setTemp (slot : Fin maxTempEntries)
    (entry : NatTableEntry) : (app.setTemp slot entry).SlotsOk := slotsOk

theorem SlotsOk.addTempEntry (newEntry : NatTableEntry) :
    (app.addTempEntry newEntry).SlotsOk := by
  unfold NatApp.addTempEntry
  repeat' split
  all_goals exact slotsOk

theorem SlotsOk.deleteTempEntry (entry : NatTableEntry) :
    (app.deleteTempEntry entry).SlotsOk := by
  unfold NatApp.deleteTempEntry
  split
  · exact slotsOk
  · exact slotsOk

theorem SlotsOk.flushTempEntries (ipAddr : BitVec 32) (isAdd : Bool)
    (answers : ℕ → Option ℕ) : (app.flushTempEntries ipAddr isAdd answers).SlotsOk := by
  apply SlotLoop.forEach_invariant SlotsOk
  · exact slotsOk
  · intro cnt app slotsOk
    unfold flushTempSlot
    split
    · split
      · simp only
        split
        · exact slotsOk.addEntry (app.temp cnt) (answers cnt)
        · exact (slotsOk.addEntry (app.temp cnt) (answers cnt)).setTemp cnt .zero
      · exact slotsOk.setTemp cnt .zero
    · exact slotsOk

end

theorem restoreSlot_cache_of_ne (answer : Option ℕ) {slot : Fin maxEntries} (other : slot ≠ cnt) :
    (app.restoreSlot cnt answer).cache slot = app.cache slot := by
  unfold restoreSlot
  split
  · exact app.addBack_cache_of_ne answer other
  · rfl

variable (slotsOk : app.SlotsOk)

include slotsOk

theorem SlotsOk.restore (disabled : ∀ cnt, (app.cache cnt).enabled = false)
    (answers : ℕ → Option ℕ) :
    (SlotLoop.forEach (fun app (cnt : Fin maxEntries) => app.restoreSlot cnt (answers cnt))
      app).SlotsOk := by
  let restored := SlotLoop.forEach
    (fun app (cnt : Fin maxEntries) => app.restoreSlot cnt (answers cnt)) app
  suffices kept : restored.SlotsOk ∧
      ∀ cnt : Fin maxEntries, maxEntries ≤ cnt → (restored.cache cnt).enabled = false by
    exact kept.1
  apply SlotLoop.forEach_induct fun visited (app : NatApp maxEntries) =>
    app.SlotsOk ∧ ∀ cnt : Fin maxEntries, visited ≤ cnt → (app.cache cnt).enabled = false
  · exact ⟨slotsOk, fun cnt _ => disabled cnt⟩
  · rintro cnt app ⟨slotsOk, notVisited⟩
    constructor
    · unfold restoreSlot
      split
      · rename_i privateIpNe
        exact slotsOk.addBack (notVisited cnt (Nat.le_refl _)) privateIpNe (answers cnt)
      · exact slotsOk
    · intro slot isLater
      rw [restoreSlot_cache_of_ne (answers cnt) (by omega)]
      exact notVisited slot (by omega)

theorem SlotsOk.addTable (pubIp : BitVec 32) (created : Bool)
    (answers : ℕ → Option ℕ) : (app.addTable pubIp created answers).2.SlotsOk := by
  unfold NatApp.addTable
  cases added : app.driver.ipaNatAddIpv4Tbl pubIp maxEntries created with
  | none =>
      refine ⟨slotsOk.toHandlesMatch, ?_, slotsOk.occupied⟩
      simp only
      split
      · exact slotsOk.tblHdl
      · intro hdlNe
        exact absurd rfl hdlNe
  | some result =>
      rcases result with ⟨tblHdl, driver⟩
      rcases NatDriver.ipaNatAddIpv4Tbl_eq_some added with ⟨noTable, _, hasTable, noRules⟩
      have disabled : ∀ cnt, (app.cache cnt).enabled = false := by
        intro cnt
        exact Bool.eq_false_iff.mpr (slotsOk.noTable noTable cnt)
      have start : SlotsOk { app with natTableHdl := tblHdl, driver } :=
        HandlesOk.of_disabled disabled noRules fun _ => hasTable
      simp only
      split
      · exact start.restore disabled answers
      · exact start

variable {deleted : Bool} {rule : NatTableEntry}

theorem SlotsOk.deleteTable {pubIp : BitVec 32}
    (allDisabled : app.natTableHdl ≠ 0 → app.pubIpAddr = pubIp → deleted →
      ∀ cnt, (app.cache cnt).enabled = false) : (app.deleteTable pubIp deleted).2.SlotsOk := by
  unfold NatApp.deleteTable
  split
  · exact slotsOk
  · split
    · exact slotsOk
    · rename_i hdlNe samePubIp
      rw [not_not] at samePubIp
      cases removed : app.driver.ipaNatDelIpv4Tbl app.natTableHdl deleted with
      | none => exact slotsOk
      | some driver =>
          rcases NatDriver.ipaNatDelIpv4Tbl_eq_some.mp removed with ⟨_, isDeleted, rfl⟩
          exact .of_disabled (allDisabled hdlNe samePubIp isDeleted) rfl fun hdlNe =>
            absurd rfl hdlNe

theorem SlotsOk.deleteEntry
    (removable : ∀ cnt, app.slotOf rule = some cnt → (app.cache cnt).enabled →
      app.natTableHdl ≠ 0 ∧ deleted) : (app.deleteEntry rule deleted).2.SlotsOk := by
  unfold NatApp.deleteEntry
  cases found : app.slotOf rule with
  | none => exact slotsOk
  | some cnt =>
      simp only
      split
      · rename_i wasEnabled
        rcases removable cnt found wasEnabled with ⟨hdlNe, isDeleted⟩
        rcases NatDriver.ipaNatDelIpv4Rule_succeeds (slotsOk.tblHdl hdlNe)
          (slotsOk.live cnt wasEnabled) with ⟨driver, removed⟩
        rw [isDeleted, removed]
        exact HandlesOk.setDeleted slotsOk removed wasEnabled rfl
      · rename_i notEnabled
        exact slotsOk.clearSlot (Bool.eq_false_iff.mpr notEnabled)

theorem SlotsOk.cacheEntry {cnt : ℤ}
    (inCache : rule.conn.Valid → app.chkForDup rule = false → 0 ≤ cnt ∧ cnt ≤ maxEntries) :
    ∃ next, app.cacheEntry rule cnt = .ok next ∧ next.SlotsOk := by
  unfold NatApp.cacheEntry
  split
  · exact ⟨app, rfl, slotsOk⟩
  · rename_i valid
    rw [not_not] at valid
    split
    · exact ⟨app, rfl, slotsOk⟩
    · rename_i notDup
      rcases inCache valid (Bool.eq_false_iff.mpr notDup) with ⟨nonneg, inBounds⟩
      rw [if_neg (by omega)]
      cases isFree : app.freeSlot cnt.toNat with
      | none => exact ⟨app, rfl, slotsOk⟩
      | some slot =>
          refine ⟨_, rfl, ?_⟩
          exact HandlesOk.setDisabled slotsOk (slotsOk.disabled_of_freeSlot isFree) rfl

end Operations

/-- A table is deleted only when no slot is enabled, the deletion of an enabled connection succeeds,
and a search for an unused slot starts inside the cache. -/
def HandlesCondition (app : NatApp maxEntries) : NatAppOp → Prop
  | .deleteTable pubIp deleted =>
      app.natTableHdl ≠ 0 → app.pubIpAddr = pubIp → deleted → ∀ cnt, (app.cache cnt).enabled = false
  | .deleteEntry rule deleted =>
      ∀ cnt, app.slotOf rule = some cnt → (app.cache cnt).enabled → app.natTableHdl ≠ 0 ∧ deleted
  | .cacheEntry rule cnt =>
      rule.conn.Valid → app.chkForDup rule = false → 0 ≤ cnt ∧ cnt ≤ maxEntries
  | _ => True

def KeepsHandles (app : NatApp maxEntries) (op : NatAppOp) : Prop :=
  ∃ next, app.Step op next ∧ HandlesMatch next.cache next.driver

section Runs

variable {app next : NatApp maxEntries} {op : NatAppOp}

theorem SlotsOk.apply (slotsOk : app.SlotsOk) (condition : app.HandlesCondition op) :
    ∃ next, app.Step op next ∧ next.SlotsOk := by
  cases op with
  | addTable pubIp created answers => exact ⟨_, rfl, slotsOk.addTable pubIp created answers⟩
  | deleteTable pubIp deleted => exact ⟨_, rfl, slotsOk.deleteTable condition⟩
  | addEntry rule answer => exact ⟨_, rfl, slotsOk.addEntry rule answer⟩
  | deleteEntry rule deleted => exact ⟨_, rfl, slotsOk.deleteEntry condition⟩
  | cacheEntry rule cnt => exact slotsOk.cacheEntry condition
  | updatePwrSaveIf clientLanIp deleted =>
      exact ⟨_, rfl, slotsOk.updatePwrSaveIf clientLanIp deleted⟩
  | resetPwrSaveIf clientLanIp answers =>
      exact ⟨_, rfl, slotsOk.resetPwrSaveIf clientLanIp answers⟩
  | delEntriesOnClntDiscon ipAddr deleted =>
      exact ⟨_, rfl, slotsOk.delEntriesOnClntDiscon ipAddr deleted⟩
  | delEntriesOnSTAClntDiscon ipAddr deleted =>
      exact ⟨_, rfl, slotsOk.delEntriesOnSTAClntDiscon ipAddr deleted⟩
  | addTempEntry newEntry => exact ⟨_, rfl, slotsOk.addTempEntry newEntry⟩
  | deleteTempEntry entry => exact ⟨_, rfl, slotsOk.deleteTempEntry entry⟩
  | flushTempEntries ipAddr isAdd answers =>
      exact ⟨_, rfl, slotsOk.flushTempEntries ipAddr isAdd answers⟩

theorem SlotsOk.step (slotsOk : app.SlotsOk)
    (stepped : Run.Guarded HandlesCondition Step app op next) : next.SlotsOk := by
  rcases slotsOk.apply stepped.1 with ⟨next', stepped', slotsOk'⟩
  have same : next = next' := Except.ok.inj (stepped.2.symm.trans stepped')
  rw [same]
  exact slotsOk'

theorem reachable_slotsOk
    (reached : Run.Reachable IsInit (Run.Guarded HandlesCondition Step) app) : app.SlotsOk := by
  apply reached.invariant
  · rintro _ ⟨algPorts, pubIpAddrPre, pwrSaveIfs, rfl⟩
    exact .of_disabled (fun _ => rfl) rfl fun hdlNe => absurd rfl hdlNe
  · intro app op next slotsOk stepped
    exact slotsOk.step stepped

variable {deleted : Bool} {rule : NatTableEntry}

theorem SlotsOk.not_keepsHandles_deleteTable (slotsOk : app.SlotsOk) {pubIp : BitVec 32}
     (condition : ¬app.HandlesCondition (.deleteTable pubIp deleted)) :
    ¬app.KeepsHandles (.deleteTable pubIp deleted) := by
  simp only [HandlesCondition, Classical.not_imp, not_forall, Bool.not_eq_false] at condition
  rcases condition with ⟨hdlNe, samePubIp, isDeleted, cnt, enabled⟩
  rintro ⟨next, stepped, handlesMatch⟩
  have removed : app.driver.ipaNatDelIpv4Tbl app.natTableHdl deleted = some .initial :=
    NatDriver.ipaNatDelIpv4Tbl_eq_some.mpr ⟨slotsOk.tblHdl hdlNe, isDeleted, rfl⟩
  simp only [Step, NatApp.apply, NatApp.deleteTable, if_neg hdlNe, samePubIp, ne_eq,
    not_true_eq_false, if_false, removed] at stepped
  cases stepped
  exact handlesMatch.noTable rfl cnt enabled

theorem SlotsOk.not_keepsHandles_deleteEntry (slotsOk : app.SlotsOk)
     (condition : ¬app.HandlesCondition (.deleteEntry rule deleted)) :
    ¬app.KeepsHandles (.deleteEntry rule deleted) := by
  simp only [HandlesCondition, Classical.not_imp, not_forall] at condition
  rcases condition with ⟨cnt, found, enabled, refused⟩
  rintro ⟨next, stepped, handlesMatch⟩
  have kept : app.driver.ipaNatDelIpv4Rule app.natTableHdl (app.cache cnt).ruleHdl deleted =
      none := by
    rw [Option.eq_none_iff_forall_ne_some]
    intro driver removed
    rcases NatDriver.ipaNatDelIpv4Rule_eq_some removed with ⟨hasTable, isDeleted, _⟩
    refine refused ⟨?_, isDeleted⟩
    rw [hasTable.1]
    exact Nat.one_ne_zero
  simp only [Step, NatApp.apply, NatApp.deleteEntry, found, enabled, if_true, kept] at stepped
  cases stepped
  rcases handlesMatch.owned _ (slotsOk.live cnt enabled) with ⟨slot, enabled', sameHdl⟩
  by_cases same : slot = cnt
  · subst same
    simp [NatApp.clearSlot, NatApp.setSlot] at enabled'
  · simp only [NatApp.clearSlot, NatApp.setSlot, update_of_ne same] at enabled' sameHdl
    exact same (slotsOk.distinct slot cnt enabled' enabled sameHdl)

theorem not_keepsHandles_cacheEntry {cnt : ℤ}
    (condition : ¬app.HandlesCondition (.cacheEntry rule cnt)) :
    ¬app.KeepsHandles (.cacheEntry rule cnt) := by
  simp only [HandlesCondition, Classical.not_imp] at condition
  rcases condition with ⟨valid, notDup, outside⟩
  rintro ⟨next, stepped, _⟩
  have isOutside : cnt < 0 ∨ maxEntries < cnt := by omega
  simp only [Step, apply, cacheEntry, valid, not_true_eq_false, if_false, notDup,
    Bool.false_eq_true, isOutside, if_true, reduceCtorEq] at stepped

/-- In every run of operations that meet the condition, enabled slots and live rules correspond,
and exactly the operations that meet it keep this. -/
theorem reachable_handlesMatch
    (reached : Run.Reachable IsInit (Run.Guarded HandlesCondition Step) app) :
    HandlesMatch app.cache app.driver ∧ ∀ op, app.KeepsHandles op ↔ app.HandlesCondition op := by
  have slotsOk := reachable_slotsOk reached
  refine ⟨slotsOk.toHandlesMatch, ?_⟩
  intro op
  constructor
  · intro keeps
    by_contra condition
    cases op with
    | deleteTable pubIp deleted => exact slotsOk.not_keepsHandles_deleteTable condition keeps
    | deleteEntry rule deleted => exact slotsOk.not_keepsHandles_deleteEntry condition keeps
    | cacheEntry rule cnt => exact not_keepsHandles_cacheEntry condition keeps
    | _ => exact condition trivial
  · intro condition
    rcases slotsOk.apply condition with ⟨next, stepped, nextOk⟩
    exact ⟨next, stepped, nextOk.toHandlesMatch⟩

theorem reachable_handlesMatch_session :
    ∃ app : NatApp 2, app.pubIpAddrPre = 7 ∧ app.natTableHdl = 0 ∧
      HandlesMatch app.cache app.driver ∧
        ∀ op, app.KeepsHandles op ↔ app.HandlesCondition op := by
  have created : Run.Reachable (@IsInit 2) (Run.Guarded HandlesCondition Step) _ :=
    .next (.addTable 7 true fun _ => none) (.start ⟨[], 0, fun _ => 0, rfl⟩) ⟨trivial, rfl⟩
  have added : Run.Reachable (@IsInit 2) (Run.Guarded HandlesCondition Step) _ :=
    .next (.addEntry .tcpSample (some 5)) created ⟨trivial, rfl⟩
  have removed : Run.Reachable (@IsInit 2) (Run.Guarded HandlesCondition Step) _ :=
    .next (.deleteEntry .tcpSample true) added ⟨fun _ _ _ => ⟨Nat.one_ne_zero, rfl⟩, rfl⟩
  have deleted : Run.Reachable (@IsInit 2) (Run.Guarded HandlesCondition Step) _ :=
    .next (.deleteTable 7 true) removed ⟨by intro _ _ _; decide, rfl⟩
  exact ⟨_, rfl, rfl, reachable_handlesMatch deleted⟩

/-- The table of an added connection is deleted. -/
theorem deleteTable_not_handlesMatch :
    ∃ added : NatApp 2, Run.Reachable (@IsInit 2) Step added ∧
      ∃ next, added.Step (.deleteTable 7 true) next ∧ next.driver.table = none ∧
        (next.cache 0).enabled ∧ ¬HandlesMatch next.cache next.driver := by
  have created : Run.Reachable (@IsInit 2) Step _ :=
    .next (.addTable 7 true fun _ => none) (.start ⟨[], 0, fun _ => 0, rfl⟩) rfl
  have added : Run.Reachable (@IsInit 2) Step _ :=
    .next (.addEntry .tcpSample (some 5)) created rfl
  refine ⟨_, added, _, rfl, rfl, rfl, ?_⟩
  intro handlesMatch
  exact handlesMatch.noTable rfl 0 rfl

end Runs

end NatApp

end HtcPme.Ipacm
