import HtcPme.Ipacm.NatAppTable

/-!
# Clients in power save

No rule of a client in power save is programmed, and its rules come back when it wakes up.
-/

namespace HtcPme.Ipacm

open SlotLoop Function

variable {maxEntries : ℕ}

namespace NatApp

def Asleep (app : NatApp maxEntries) (cnt : Fin maxEntries) : Prop :=
  app.isPwrSaveIf (app.cache cnt).privateIp ∨ app.isPwrSaveIf (app.cache cnt).targetIp

instance (app : NatApp maxEntries) (cnt : Fin maxEntries) : Decidable (app.Asleep cnt) :=
  inferInstanceAs (Decidable (_ ∨ _))

def SleepersDisabled (app : NatApp maxEntries) : Prop :=
  ∀ cnt, (app.cache cnt).enabled → ¬app.Asleep cnt

section PwrSaveIfs

variable (app : NatApp maxEntries) (ipAddr : BitVec 32)

theorem isPwrSaveIf_iff :
    app.isPwrSaveIf ipAddr = true ↔ ipAddr ≠ 0 ∧ ∃ cnt, app.pwrSaveIfs cnt = ipAddr := by
  simp only [isPwrSaveIf, List.any_eq_true, List.mem_finRange, true_and, decide_eq_true_iff]
  constructor
  · rintro ⟨cnt, isAddress, rfl⟩
    exact ⟨isAddress, cnt, rfl⟩
  · rintro ⟨isAddress, cnt, rfl⟩
    exact ⟨cnt, isAddress, rfl⟩

theorem isPwrSaveIf_congr {app app' : NatApp maxEntries}
    (same : app'.pwrSaveIfs = app.pwrSaveIfs) (ipAddr : BitVec 32) :
    app'.isPwrSaveIf ipAddr = app.isPwrSaveIf ipAddr := by
  unfold isPwrSaveIf
  rw [same]

variable {old new : BitVec 32}

theorem isPwrSaveIf_of_replacePwrSaveIf
    (recorded : (app.replacePwrSaveIf old new).isPwrSaveIf ipAddr) :
    app.isPwrSaveIf ipAddr ∨ ipAddr = new := by
  unfold replacePwrSaveIf at recorded
  split at recorded
  · exact .inl recorded
  · rename_i slot found
    rw [isPwrSaveIf_iff] at recorded
    rcases recorded with ⟨isAddress, cnt, recorded⟩
    by_cases same : cnt = slot
    · subst same
      right
      simpa using recorded.symm
    · left
      rw [isPwrSaveIf_iff]
      exact ⟨isAddress, cnt, by simpa [update_of_ne same] using recorded⟩

theorem isPwrSaveIf_of_replacePwrSaveIf_zero {old : BitVec 32}
    (recorded : (app.replacePwrSaveIf old 0).isPwrSaveIf ipAddr) : app.isPwrSaveIf ipAddr := by
  rcases app.isPwrSaveIf_of_replacePwrSaveIf ipAddr recorded with recorded | rfl
  · exact recorded
  · rw [isPwrSaveIf_iff] at recorded
    exact absurd rfl recorded.1

variable {app} in
theorem replacePwrSaveIf_of_none (notFound : app.pwrSaveSlotOf old = none) :
    app.replacePwrSaveIf old new = app := by
  unfold replacePwrSaveIf
  rw [notFound]

end PwrSaveIfs

/-- No slot becomes enabled, the enabled ones keep their addresses, and no address enters
power save. -/
structure Quieter (app next : NatApp maxEntries) : Prop where
  enabled : ∀ cnt, (next.cache cnt).enabled → (app.cache cnt).enabled
  privateIp : ∀ cnt, (next.cache cnt).enabled →
    (next.cache cnt).privateIp = (app.cache cnt).privateIp
  targetIp : ∀ cnt, (next.cache cnt).enabled →
    (next.cache cnt).targetIp = (app.cache cnt).targetIp
  asleep : ∀ ipAddr, next.isPwrSaveIf ipAddr → app.isPwrSaveIf ipAddr

section Quieter

variable {app app' next : NatApp maxEntries}

theorem Quieter.refl (app : NatApp maxEntries) : Quieter app app :=
  ⟨fun _ => id, fun _ _ => rfl, fun _ _ => rfl, fun _ => id⟩

theorem Quieter.trans (first : Quieter app app') (second : Quieter app' next) :
    Quieter app next where
  enabled := fun cnt enabled => first.enabled cnt (second.enabled cnt enabled)
  privateIp := fun cnt enabled =>
    (second.privateIp cnt enabled).trans (first.privateIp cnt (second.enabled cnt enabled))
  targetIp := fun cnt enabled =>
    (second.targetIp cnt enabled).trans (first.targetIp cnt (second.enabled cnt enabled))
  asleep := fun ipAddr recorded => first.asleep ipAddr (second.asleep ipAddr recorded)

theorem SleepersDisabled.quieter (disabled : app.SleepersDisabled) (quieter : Quieter app next) :
    next.SleepersDisabled := by
  intro cnt enabled asleep
  apply disabled cnt (quieter.enabled cnt enabled)
  rw [Asleep, ← quieter.privateIp cnt enabled, ← quieter.targetIp cnt enabled]
  exact asleep.imp (quieter.asleep _) (quieter.asleep _)

variable {entry : NatTableEntry}

theorem Quieter.setSlot (app : NatApp maxEntries) (cnt : Fin maxEntries)
    (isDisabled : entry.enabled = false) (cacheEq : next.cache = update app.cache cnt entry)
    (pwrSaveIfsEq : next.pwrSaveIfs = app.pwrSaveIfs) : Quieter app next := by
  have unchanged : ∀ slot, (next.cache slot).enabled → next.cache slot = app.cache slot := by
    intro slot enabled
    rw [cacheEq] at enabled ⊢
    by_cases same : slot = cnt
    · subst same
      rw [update_self, isDisabled] at enabled
      cases enabled
    · rw [update_of_ne same]
  refine ⟨?_, ?_, ?_, ?_⟩
  · intro slot enabled
    rw [← unchanged slot enabled]
    exact enabled
  · intro slot enabled
    rw [unchanged slot enabled]
  · intro slot enabled
    rw [unchanged slot enabled]
  · intro ipAddr recorded
    rwa [isPwrSaveIf_congr pwrSaveIfsEq] at recorded

theorem quieter_clearSlot (app : NatApp maxEntries) (cnt : Fin maxEntries) :
    Quieter app (app.clearSlot cnt) := .setSlot app cnt rfl rfl rfl

theorem quieter_replacePwrSaveIf_zero (app : NatApp maxEntries) (old : BitVec 32) :
    Quieter app (app.replacePwrSaveIf old 0) where
  enabled := fun cnt enabled => by simpa using enabled
  privateIp := fun cnt _ => by simp
  targetIp := fun cnt _ => by simp
  asleep := fun ipAddr recorded => app.isPwrSaveIf_of_replacePwrSaveIf_zero ipAddr recorded

theorem quieter_delRuleOf (cnt : Fin maxEntries) {deleted : Bool}
    {after : NatApp maxEntries → NatApp maxEntries} (quieter : ∀ app, Quieter app (after app)) :
    Quieter app (app.delRuleOf cnt deleted after) := by
  unfold delRuleOf
  split
  · exact .refl app
  · rename_i driver _
    have sameRules : Quieter app { app with driver } :=
      ⟨fun _ => id, fun _ _ => rfl, fun _ _ => rfl, fun _ => id⟩
    exact sameRules.trans (quieter { app with driver })

theorem Quieter.forEach {slots : ℕ} {body : NatApp maxEntries → Fin slots → NatApp maxEntries}
    {start : NatApp maxEntries} (before : Quieter app start)
    (visit : ∀ cnt app, Quieter app (body app cnt)) :
    Quieter app (forEach body start) := by
  apply forEach_invariant (Quieter app)
  · exact before
  · intro cnt app' quieter
    exact quieter.trans (visit cnt app')

theorem SleepersDisabled.setSlot {cnt : Fin maxEntries} (disabled : app.SleepersDisabled)
    (awake : entry.enabled → ¬(app.isPwrSaveIf entry.privateIp ∨ app.isPwrSaveIf entry.targetIp))
    (cacheEq : next.cache = update app.cache cnt entry)
    (pwrSaveIfsEq : next.pwrSaveIfs = app.pwrSaveIfs) : next.SleepersDisabled := by
  intro slot enabled
  unfold Asleep
  rw [isPwrSaveIf_congr pwrSaveIfsEq, isPwrSaveIf_congr pwrSaveIfsEq]
  rw [cacheEq] at enabled ⊢
  by_cases same : slot = cnt
  · subst same
    rw [update_self] at enabled ⊢
    exact awake enabled
  · rw [update_of_ne same] at enabled ⊢
    exact disabled slot enabled

end Quieter

section Operations

variable {app : NatApp maxEntries}

theorem quieter_deleteTable (app : NatApp maxEntries) (pubIp : BitVec 32) (deleted : Bool) :
    Quieter app (app.deleteTable pubIp deleted).2 := by
  unfold deleteTable
  repeat' split
  all_goals exact ⟨fun _ => id, fun _ _ => rfl, fun _ _ => rfl, fun _ => id⟩

theorem quieter_deleteEntry (app : NatApp maxEntries) (rule : NatTableEntry) (deleted : Bool) :
    Quieter app (app.deleteEntry rule deleted).2 := by
  unfold deleteEntry
  cases app.slotOf rule with
  | none => exact .refl app
  | some cnt =>
      simp only
      split
      · split
        · exact app.quieter_clearSlot cnt
        · exact .setSlot app cnt rfl rfl rfl
      · exact app.quieter_clearSlot cnt

theorem quieter_cacheEntry {rule : NatTableEntry} {cnt : ℤ} {next : NatApp maxEntries}
    (cached : app.cacheEntry rule cnt = .ok next) : Quieter app next := by
  unfold cacheEntry at cached
  split at cached
  · cases cached
    exact .refl app
  · split at cached
    · cases cached
      exact .refl app
    · split at cached
      · cases cached
      · split at cached
        · cases cached
          exact .refl app
        · cases cached
          exact .setSlot app _ rfl rfl rfl

theorem quieter_delEntriesOnClntDiscon (app : NatApp maxEntries) (ipAddr : BitVec 32)
    (deleted : ℕ → Bool) : Quieter app (app.delEntriesOnClntDiscon ipAddr deleted).2 := by
  unfold delEntriesOnClntDiscon
  split
  · exact .refl app
  · dsimp only
    apply Quieter.forEach
    · exact app.quieter_replacePwrSaveIf_zero ipAddr
    · intro cnt app
      unfold clntDisconSlot
      split
      · apply quieter_delRuleOf
        exact fun app => .setSlot app cnt rfl rfl rfl
      · exact .refl app

theorem quieter_delEntriesOnSTAClntDiscon (app : NatApp maxEntries) (ipAddr : BitVec 32)
    (deleted : ℕ → Bool) : Quieter app (app.delEntriesOnSTAClntDiscon ipAddr deleted).2 := by
  unfold delEntriesOnSTAClntDiscon
  split
  · exact .refl app
  · dsimp only
    apply Quieter.forEach
    · exact .refl app
    · intro cnt app
      unfold staDisconSlot
      split
      · split
        · apply quieter_delRuleOf
          exact fun app => app.quieter_clearSlot cnt
        · exact app.quieter_clearSlot cnt
      · exact .refl app

theorem quieter_addTempEntry (app : NatApp maxEntries) (newEntry : NatTableEntry) :
    Quieter app (app.addTempEntry newEntry) := by
  unfold addTempEntry
  repeat' split
  all_goals exact ⟨fun _ => id, fun _ _ => rfl, fun _ _ => rfl, fun _ => id⟩

theorem quieter_setTemp (app : NatApp maxEntries) (cnt : Fin maxTempEntries)
    (entry : NatTableEntry) : Quieter app (app.setTemp cnt entry) :=
  ⟨fun _ => id, fun _ _ => rfl, fun _ _ => rfl, fun _ => id⟩

theorem quieter_deleteTempEntry (app : NatApp maxEntries) (entry : NatTableEntry) :
    Quieter app (app.deleteTempEntry entry) := by
  unfold deleteTempEntry
  split
  · exact .refl app
  · exact app.quieter_setTemp _ .zero

theorem SleepersDisabled.addEntry (disabled : app.SleepersDisabled) (rule : NatTableEntry)
    (answer : Option ℕ) : (app.addEntry rule answer).2.SleepersDisabled := by
  unfold NatApp.addEntry
  split
  · exact disabled
  · split
    · exact disabled
    · split
      · exact disabled
      · split
        · exact disabled
        · cases app.freeSlot 0 with
          | none => exact disabled
          | some cnt =>
              simp only
              split
              · exact disabled.quieter (.setSlot app cnt rfl rfl rfl)
              · rename_i awake
                split
                · exact disabled
                · refine disabled.setSlot ?_ rfl rfl
                  exact fun _ => awake

theorem SleepersDisabled.flushTempEntries (disabled : app.SleepersDisabled) (ipAddr : BitVec 32)
    (isAdd : Bool) (answers : ℕ → Option ℕ) :
    (app.flushTempEntries ipAddr isAdd answers).SleepersDisabled := by
  apply forEach_invariant SleepersDisabled
  · exact disabled
  · intro cnt app disabled
    unfold flushTempSlot
    split
    · split
      · simp only
        split
        · exact disabled.addEntry (app.temp cnt) (answers cnt)
        · exact (disabled.addEntry (app.temp cnt) (answers cnt)).quieter
            (quieter_setTemp _ cnt .zero)
      · exact disabled.quieter (quieter_setTemp app cnt .zero)
    · exact disabled

end Operations

section Update

variable {app start cur : NatApp maxEntries} {ipAddr : BitVec 32} {deleted : ℕ → Bool}

/-- The rule of every enabled slot with this private address is live under its own handle, and
its deletion succeeds. -/
def Removable (app : NatApp maxEntries) (ipAddr : BitVec 32) (deleted : ℕ → Bool) : Prop :=
  ∀ cnt, (app.cache cnt).enabled → (app.cache cnt).privateIp = ipAddr →
    deleted cnt ∧ (∃ held ∈ app.driver.rules, held.ruleHdl = (app.cache cnt).ruleHdl) ∧
      ∀ cnt' < cnt, (app.cache cnt').enabled → (app.cache cnt').privateIp = ipAddr →
        (app.cache cnt').ruleHdl ≠ (app.cache cnt).ruleHdl

/-- What the loop of `UpdatePwrSaveIf` has done after a number of visits. -/
structure PwrSaveVisited (start : NatApp maxEntries) (ipAddr : BitVec 32) (visited : ℕ)
    (cur : NatApp maxEntries) : Prop where
  hasTable : cur.driver.HasTable cur.natTableHdl
  later : ∀ cnt : Fin maxEntries, visited ≤ cnt → cur.cache cnt = start.cache cnt
  live : ∀ cnt : Fin maxEntries, visited ≤ cnt → (start.cache cnt).enabled →
    (start.cache cnt).privateIp = ipAddr →
      ∃ held ∈ cur.driver.rules, held.ruleHdl = (start.cache cnt).ruleHdl
  disabled : ∀ cnt : Fin maxEntries, cnt < visited → (cur.cache cnt).enabled →
    (cur.cache cnt).privateIp ≠ ipAddr

theorem PwrSaveVisited.next {cnt : Fin maxEntries} (removable : start.Removable ipAddr deleted)
    (visited : PwrSaveVisited start ipAddr cnt cur) :
    PwrSaveVisited start ipAddr (cnt + 1) (cur.pwrSaveSlot ipAddr cnt (deleted cnt)) := by
  have sameSlot := visited.later cnt (Nat.le_refl _)
  unfold pwrSaveSlot
  split
  · rename_i selected
    rcases selected with ⟨isPrivate, enabled⟩
    rw [sameSlot] at isPrivate enabled
    rcases removable cnt enabled isPrivate with ⟨isDeleted, _, _⟩
    rcases visited.live cnt (Nat.le_refl _) enabled isPrivate with ⟨held, isHeld, sameHdl⟩
    rcases NatDriver.ipaNatDelIpv4Rule_succeeds visited.hasTable isHeld with ⟨driver, removed⟩
    rcases NatDriver.ipaNatDelIpv4Rule_eq_some removed with ⟨_, _, rulesEq, tableEq⟩
    rw [sameHdl, ← sameSlot] at removed
    simp only [delRuleOf, isDeleted, removed]
    refine ⟨?_, ?_, ?_, ?_⟩
    · refine ⟨visited.hasTable.1, ?_⟩
      show driver.table ≠ none
      rw [tableEq]
      exact visited.hasTable.2
    · intro slot isLater
      have other : slot ≠ cnt := by
        rintro rfl
        exact absurd isLater (by omega)
      rw [cache_setSlot_of_ne _ _ other]
      exact visited.later slot (by omega)
    · intro slot isLater enabled' isPrivate'
      rcases visited.live slot (by omega) enabled' isPrivate' with ⟨held', isHeld', sameHdl'⟩
      refine ⟨held', ?_, sameHdl'⟩
      show held' ∈ driver.rules
      rw [rulesEq]
      apply List.mem_filter.mpr
      refine ⟨isHeld', ?_⟩
      rw [decide_eq_true_iff, sameHdl, sameHdl']
      have before : cnt < slot := by
        rw [Fin.lt_def]
        omega
      exact ((removable slot enabled' isPrivate').2.2 cnt before enabled isPrivate).symm
    · intro slot isVisited enabled'
      by_cases same : slot = cnt
      · subst same
        rw [cache_setSlot_self] at enabled'
        cases enabled'
      · rw [cache_setSlot_of_ne _ _ same] at enabled' ⊢
        exact visited.disabled slot (by omega) enabled'
  · rename_i notSelected
    refine ⟨visited.hasTable, ?_, ?_, ?_⟩
    · intro slot isLater
      exact visited.later slot (by omega)
    · intro slot isLater
      exact visited.live slot (by omega)
    · intro slot isVisited enabled isPrivate
      by_cases same : slot = cnt
      · subst same
        exact notSelected ⟨isPrivate, enabled⟩
      · exact visited.disabled slot (by omega) enabled isPrivate

theorem quieter_pwrSaveSlot (app : NatApp maxEntries) (clientLanIp : BitVec 32)
    (cnt : Fin maxEntries) (deleted : Bool) :
    Quieter app (app.pwrSaveSlot clientLanIp cnt deleted) := by
  unfold pwrSaveSlot
  split
  · apply quieter_delRuleOf
    exact fun app => .setSlot app cnt rfl rfl rfl
  · exact .refl app

theorem pwrSaveLoop_disabled (hasTable : start.driver.HasTable start.natTableHdl)
    (removable : start.Removable ipAddr deleted) (cnt : Fin maxEntries) :
    ((forEach (fun app cnt => app.pwrSaveSlot ipAddr cnt (deleted cnt)) start).cache
      cnt).enabled → ((forEach (fun app cnt => app.pwrSaveSlot ipAddr cnt (deleted cnt))
        start).cache cnt).privateIp ≠ ipAddr := by
  let done := forEach (fun app cnt => app.pwrSaveSlot ipAddr cnt (deleted cnt)) start
  have visited : PwrSaveVisited start ipAddr maxEntries done := by
    apply forEach_induct (PwrSaveVisited start ipAddr)
    · refine ⟨hasTable, fun _ _ => rfl, ?_, ?_⟩
      · intro cnt _ enabled isPrivate
        exact (removable cnt enabled isPrivate).2.1
      · intro cnt isVisited
        exact absurd isVisited (Nat.not_lt_zero _)
    · intro cnt cur visited
      exact visited.next removable
  exact visited.disabled cnt cnt.isLt

theorem pwrSaveLoop_sleepersDisabled (hasTable : start.driver.HasTable start.natTableHdl)
    (removable : start.Removable ipAddr deleted)
    (almost : ∀ cnt, (start.cache cnt).enabled → start.Asleep cnt →
      (start.cache cnt).privateIp = ipAddr) :
    (forEach (fun app cnt => app.pwrSaveSlot ipAddr cnt (deleted cnt))
      start).SleepersDisabled := by
  have quieter : Quieter start
      (forEach (fun app cnt => app.pwrSaveSlot ipAddr cnt (deleted cnt)) start) := by
    apply Quieter.forEach
    · exact .refl start
    · exact fun cnt app => app.quieter_pwrSaveSlot ipAddr cnt (deleted cnt)
  intro cnt enabled asleep
  apply pwrSaveLoop_disabled hasTable removable cnt enabled
  rw [quieter.privateIp cnt enabled]
  apply almost cnt (quieter.enabled cnt enabled)
  rw [Asleep, quieter.privateIp cnt enabled, quieter.targetIp cnt enabled] at asleep
  exact asleep.imp (quieter.asleep _) (quieter.asleep _)

theorem SleepersDisabled.updatePwrSaveIf (disabled : app.SleepersDisabled)
    (hasTable : app.driver.HasTable app.natTableHdl)
    (removable : ipAddr ≠ invalidIpAddr → app.pwrSaveSlotOf ipAddr = none →
      app.pwrSaveSlotOf 0 ≠ none → app.Removable ipAddr deleted ∧
        ∀ cnt, (app.cache cnt).enabled → (app.cache cnt).targetIp = ipAddr →
          (app.cache cnt).privateIp = ipAddr) :
    (app.updatePwrSaveIf ipAddr deleted).2.SleepersDisabled := by
  unfold NatApp.updatePwrSaveIf
  split
  · exact disabled
  · rename_i isAddress
    split
    · exact disabled
    · rename_i notRecorded
      rw [Option.not_isSome_iff_eq_none] at notRecorded
      dsimp only
      by_cases full : app.pwrSaveSlotOf 0 = none
      · rw [replacePwrSaveIf_of_none full]
        apply disabled.quieter
        apply Quieter.forEach
        · exact .refl app
        · exact fun cnt app => app.quieter_pwrSaveSlot ipAddr cnt (deleted cnt)
      · rcases removable isAddress notRecorded full with ⟨removable, noTarget⟩
        apply pwrSaveLoop_sleepersDisabled
        · rw [driver_replacePwrSaveIf, (app.sameTable_replacePwrSaveIf 0 ipAddr).natTableHdl]
          exact hasTable
        · unfold Removable
          rw [cache_replacePwrSaveIf, driver_replacePwrSaveIf]
          exact removable
        · intro cnt enabled asleep
          rw [Asleep, cache_replacePwrSaveIf] at asleep
          rw [cache_replacePwrSaveIf] at enabled ⊢
          rcases asleep with asleep | asleep
          · rcases app.isPwrSaveIf_of_replacePwrSaveIf _ asleep with wasAsleep | isPrivate
            · exact absurd (.inl wasAsleep) (disabled cnt enabled)
            · exact isPrivate
          · rcases app.isPwrSaveIf_of_replacePwrSaveIf _ asleep with wasAsleep | isTarget
            · exact absurd (.inr wasAsleep) (disabled cnt enabled)
            · exact noTarget cnt enabled isTarget

end Update

section AddBack

variable {app : NatApp maxEntries} {answers : ℕ → Option ℕ}

theorem addBack_cache_self (app : NatApp maxEntries) (cnt : Fin maxEntries) (answer : Option ℕ) :
    (app.addBack cnt answer).cache cnt = .zero ∨
      ∃ ruleHdl, answer = some ruleHdl ∧
        (app.addBack cnt answer).cache cnt = { app.cache cnt with enabled := true, ruleHdl } := by
  unfold addBack
  cases added : app.driver.ipaNatAddIpv4Rule app.natTableHdl (app.cache cnt).natRule answer with
  | none => exact .inl (app.cache_clearSlot_self cnt)
  | some result =>
      right
      refine ⟨result.1, (NatDriver.ipaNatAddIpv4Rule_eq_some added).2.1, ?_⟩
      exact app.cache_setSlot_self cnt _

theorem addBack_pwrSaveIfs (app : NatApp maxEntries) (cnt : Fin maxEntries) (answer : Option ℕ) :
    (app.addBack cnt answer).pwrSaveIfs = app.pwrSaveIfs := by
  unfold addBack
  split
  · rfl
  · rfl

variable {body : NatApp maxEntries → Fin maxEntries → NatApp maxEntries} {cnt : Fin maxEntries}

theorem addBackLoop_slot (app : NatApp maxEntries) (select : NatTableEntry → Prop)
    [DecidablePred select] (bodyEq : ∀ app cnt, body app cnt =
      if select (app.cache cnt) then app.addBack cnt (answers cnt) else app)
    (cnt : Fin maxEntries) :
    (forEach body app).pwrSaveIfs = app.pwrSaveIfs ∧
      (¬select (app.cache cnt) ∧ (forEach body app).cache cnt = app.cache cnt ∨
        select (app.cache cnt) ∧ ((forEach body app).cache cnt = .zero ∨
          ∃ ruleHdl, answers cnt = some ruleHdl ∧ (forEach body app).cache cnt =
            { app.cache cnt with enabled := true, ruleHdl })) := by
  have keepsPwrSaveIfs : ∀ cnt app, (body app cnt).pwrSaveIfs = app.pwrSaveIfs := by
    intro cnt app
    rw [bodyEq]
    split
    · exact app.addBack_pwrSaveIfs cnt (answers cnt)
    · rfl
  refine ⟨?_, ?_⟩
  · apply forEach_invariant fun cur : NatApp maxEntries => cur.pwrSaveIfs = app.pwrSaveIfs
    · rfl
    · intro cnt cur same
      rw [keepsPwrSaveIfs]
      exact same
  · have frame : ∀ (app : NatApp maxEntries) (cnt slot : Fin maxEntries), slot ≠ cnt →
        (body app cnt).cache slot = app.cache slot := by
      intro app cnt slot other
      rw [bodyEq]
      split
      · exact app.addBack_cache_of_ne (answers cnt) other
      · rfl
    rcases forEach_slot cache frame (fun _ => True) trivial (fun _ _ _ => trivial)
      cnt with ⟨before, _, sameSlot, doneEq⟩
    rw [doneEq, bodyEq, sameSlot]
    split
    · rename_i selected
      right
      refine ⟨selected, ?_⟩
      rcases before.addBack_cache_self cnt (answers cnt) with dropped | ⟨ruleHdl, isAnswer, enabled⟩
      · exact .inl dropped
      · right
        refine ⟨ruleHdl, isAnswer, ?_⟩
        rw [enabled, sameSlot]
    · rename_i notSelected
      exact .inl ⟨notSelected, sameSlot⟩

theorem addBackLoop_sleepersDisabled (select : NatTableEntry → Prop) [DecidablePred select]
    (bodyEq : ∀ app cnt, body app cnt =
      if select (app.cache cnt) then app.addBack cnt (answers cnt) else app)
    (asleep : ∀ cnt, app.Asleep cnt →
      if select (app.cache cnt) then answers cnt = none else (app.cache cnt).enabled = false) :
    (forEach body app).SleepersDisabled := by
  intro cnt enabled isAsleep
  rcases app.addBackLoop_slot select bodyEq cnt with ⟨samePwrSaveIfs, slotCases⟩
  rw [Asleep, isPwrSaveIf_congr samePwrSaveIfs, isPwrSaveIf_congr samePwrSaveIfs] at isAsleep
  rcases slotCases with ⟨notSelected, same⟩ | ⟨selected, dropped | ⟨ruleHdl, isAnswer, isEnabled⟩⟩
  · rw [same] at enabled isAsleep
    have isDisabled := asleep cnt isAsleep
    rw [if_neg notSelected, enabled] at isDisabled
    cases isDisabled
  · rw [dropped] at enabled
    cases enabled
  · rw [isEnabled] at isAsleep
    have isRefused := asleep cnt isAsleep
    rw [if_pos selected, isAnswer] at isRefused
    cases isRefused

theorem addTable_sleepersDisabled {pubIp : BitVec 32} {created : Bool}
    (asleep : created → app.driver.table = none → ∀ cnt, app.Asleep cnt →
      if pubIp = app.pubIpAddrPre ∧ (app.cache cnt).privateIp ≠ 0 then answers cnt = none
      else (app.cache cnt).enabled = false)
    (tblHdlNe : (app.addTable pubIp created answers).2.natTableHdl ≠ 0) :
    (app.addTable pubIp created answers).2.SleepersDisabled := by
  unfold addTable at tblHdlNe ⊢
  cases added : app.driver.ipaNatAddIpv4Tbl pubIp maxEntries created with
  | none =>
      rw [added] at tblHdlNe
      by_cases noSlots : maxEntries = 0
      · subst noSlots
        exact fun cnt => cnt.elim0
      · simp only [if_neg noSlots, ne_eq, not_true_eq_false] at tblHdlNe
  | some result =>
      rcases result with ⟨newHdl, driver⟩
      rcases NatDriver.ipaNatAddIpv4Tbl_eq_some added with ⟨noTable, isCreated, _⟩
      have isAsleep := asleep isCreated noTable
      simp only
      split
      · rename_i samePubIp
        have restored : (forEach
            (fun (app : NatApp maxEntries) cnt => app.restoreSlot cnt (answers cnt))
              { app with natTableHdl := newHdl, driver }).SleepersDisabled := by
          apply addBackLoop_sleepersDisabled fun entry => entry.privateIp ≠ 0
          · intro app cnt
            rfl
          · intro cnt slotAsleep
            have slotCase := isAsleep cnt slotAsleep
            simp only [show pubIp = app.pubIpAddrPre from samePubIp, true_and] at slotCase
            exact slotCase
        exact restored
      · rename_i otherPubIp
        intro cnt enabled slotAsleep
        have isDisabled := isAsleep cnt slotAsleep
        rw [if_neg (fun both => otherPubIp both.1)] at isDisabled
        rw [show (app.cache cnt).enabled = true from enabled] at isDisabled
        cases isDisabled

variable {clientLanIp : BitVec 32}

theorem SleepersDisabled.resetPwrSaveIf (disabled : app.SleepersDisabled)
    (asleep : clientLanIp ≠ invalidIpAddr → ∀ cnt, (app.cache cnt).privateIp = clientLanIp →
      (app.cache cnt).enabled = false → (app.replacePwrSaveIf clientLanIp 0).Asleep cnt →
        answers cnt = none) :
    (app.resetPwrSaveIf clientLanIp answers).2.SleepersDisabled := by
  unfold NatApp.resetPwrSaveIf
  split
  · exact disabled
  · rename_i isAddress
    dsimp only
    apply addBackLoop_sleepersDisabled fun entry =>
      entry.privateIp = clientLanIp ∧ entry.enabled = false
    · intro app cnt
      rfl
    · intro cnt isAsleep
      rw [cache_replacePwrSaveIf]
      split
      · rename_i selected
        exact asleep isAddress cnt selected.1 selected.2 isAsleep
      · rw [Bool.eq_false_iff]
        intro enabled
        refine disabled.quieter (app.quieter_replacePwrSaveIf_zero clientLanIp) cnt ?_ isAsleep
        rw [cache_replacePwrSaveIf]
        exact enabled

variable (isAddress : clientLanIp ≠ invalidIpAddr)

include isAddress

theorem resetPwrSaveIf_slot (cnt : Fin maxEntries) :
    let selected := (app.cache cnt).privateIp = clientLanIp ∧ (app.cache cnt).enabled = false
    let next := (app.resetPwrSaveIf clientLanIp answers).2
    next.pwrSaveIfs = (app.replacePwrSaveIf clientLanIp 0).pwrSaveIfs ∧
      (¬selected ∧ next.cache cnt = app.cache cnt ∨
        selected ∧ (next.cache cnt = .zero ∨ ∃ ruleHdl, answers cnt = some ruleHdl ∧
          next.cache cnt = { app.cache cnt with enabled := true, ruleHdl })) := by
  have bodyEq : ∀ (app : NatApp maxEntries) cnt, app.pwrResetSlot clientLanIp cnt (answers cnt) =
      if (app.cache cnt).privateIp = clientLanIp ∧ (app.cache cnt).enabled = false then
        app.addBack cnt (answers cnt)
      else app := fun _ _ => rfl
  have slotCases := (app.replacePwrSaveIf clientLanIp 0).addBackLoop_slot
    (fun entry => entry.privateIp = clientLanIp ∧ entry.enabled = false) bodyEq cnt
  simp only [cache_replacePwrSaveIf] at slotCases
  unfold resetPwrSaveIf
  rw [if_neg isAddress]
  exact slotCases

theorem resetPwrSaveIf_enables (isPrivate : (app.cache cnt).privateIp = clientLanIp)
    (wasDisabled : (app.cache cnt).enabled = false)
    (cached : ((app.resetPwrSaveIf clientLanIp answers).2.cache cnt).conn ≠ .unused) :
    ((app.resetPwrSaveIf clientLanIp answers).2.cache cnt).enabled = true := by
  rcases (resetPwrSaveIf_slot isAddress cnt).2 with
    ⟨notSelected, _⟩ | ⟨_, dropped | ⟨ruleHdl, _, isEnabled⟩⟩
  · exact absurd ⟨isPrivate, wasDisabled⟩ notSelected
  · rw [dropped] at cached
    exact absurd rfl cached
  · rw [isEnabled]

theorem resetPwrSaveIf_asleep
    (cached : ((app.resetPwrSaveIf clientLanIp answers).2.cache cnt).conn ≠ .unused) :
    (app.resetPwrSaveIf clientLanIp answers).2.Asleep cnt ↔
      (app.replacePwrSaveIf clientLanIp 0).Asleep cnt := by
  rcases resetPwrSaveIf_slot isAddress cnt with ⟨samePwrSaveIfs, slotCases⟩
  rw [Asleep, Asleep, isPwrSaveIf_congr samePwrSaveIfs, isPwrSaveIf_congr samePwrSaveIfs,
    cache_replacePwrSaveIf]
  rcases slotCases with ⟨_, same⟩ | ⟨_, dropped | ⟨ruleHdl, _, isEnabled⟩⟩
  · rw [same]
  · rw [dropped] at cached
    exact absurd rfl cached
  · rw [isEnabled]

end AddBack

end NatApp

structure PwrSaveRun (maxEntries : ℕ) where
  app : NatApp maxEntries
  forPwrSave : Fin maxEntries → Bool

namespace PwrSaveRun

def isPwrSaveOp : NatAppOp → Bool
  | .updatePwrSaveIf _ _ => true
  | .addEntry _ _ => true
  | .flushTempEntries _ _ _ => true
  | _ => false

def isDisconnectOf (privateIp : BitVec 32) : NatAppOp → Bool
  | .delEntriesOnClntDiscon ipAddr _ => privateIp = ipAddr
  | _ => false

def nextForPwrSave (run : PwrSaveRun maxEntries) (op : NatAppOp) (next : NatApp maxEntries)
    (cnt : Fin maxEntries) : Bool :=
  if (next.cache cnt).enabled ∨ (next.cache cnt).conn = .unused then false
  else if (run.app.cache cnt).enabled ∨ (run.app.cache cnt).conn = .unused then isPwrSaveOp op
  else run.forPwrSave cnt && !isDisconnectOf (run.app.cache cnt).privateIp op

def IsInit (run : PwrSaveRun maxEntries) : Prop :=
  run.app.IsInit ∧ run.forPwrSave = fun _ => false

def Step (run : PwrSaveRun maxEntries) (op : NatAppOp) (next : PwrSaveRun maxEntries) : Prop :=
  run.app.Step op next.app ∧ next.forPwrSave = run.nextForPwrSave op next.app

/-- When an address has left power save, the rules that are awake and were disabled for power
save only are enabled, those excepted that are cached no more. -/
def WakesUp (run : PwrSaveRun maxEntries) (op : NatAppOp) (next : PwrSaveRun maxEntries) : Prop :=
  ∀ clientLanIp answers, op = .resetPwrSaveIf clientLanIp answers → run.app.natTableHdl ≠ 0 →
    run.app.isPwrSaveIf clientLanIp → ∀ cnt, run.forPwrSave cnt →
      (next.app.cache cnt).conn ≠ .unused → ¬next.app.Asleep cnt → (next.app.cache cnt).enabled

/-- While a table exists, no enabled rule has as its target only the address that enters power save,
the deletion of its other rules succeeds, and what `ResetPwrSaveIf` enables is awake. A table is
created without a rule that is asleep. -/
def PwrSaveCondition (run : PwrSaveRun maxEntries) : NatAppOp → Prop
  | .addTable pubIp created answers =>
      created → run.app.driver.table = none → ∀ cnt, run.app.Asleep cnt →
        if pubIp = run.app.pubIpAddrPre ∧ (run.app.cache cnt).privateIp ≠ 0 then answers cnt = none
        else (run.app.cache cnt).enabled = false
  | .updatePwrSaveIf clientLanIp deleted =>
      run.app.natTableHdl ≠ 0 → clientLanIp ≠ invalidIpAddr →
        run.app.pwrSaveSlotOf clientLanIp = none → run.app.pwrSaveSlotOf 0 ≠ none →
          run.app.Removable clientLanIp deleted ∧
            ∀ cnt, (run.app.cache cnt).enabled → (run.app.cache cnt).targetIp = clientLanIp →
              (run.app.cache cnt).privateIp = clientLanIp
  | .resetPwrSaveIf clientLanIp answers =>
      run.app.natTableHdl ≠ 0 → clientLanIp ≠ invalidIpAddr →
        (∀ cnt, (run.app.cache cnt).privateIp = clientLanIp →
          (run.app.cache cnt).enabled = false →
            (run.app.replacePwrSaveIf clientLanIp 0).Asleep cnt → answers cnt = none) ∧
          (run.app.isPwrSaveIf clientLanIp → ∀ cnt, run.forPwrSave cnt →
            ¬(run.app.replacePwrSaveIf clientLanIp 0).Asleep cnt →
              (run.app.cache cnt).privateIp = clientLanIp)
  | _ => True

structure PwrSaveOk (run : PwrSaveRun maxEntries) : Prop where
  tblHdl : run.app.HdlNames
  disabled : run.app.natTableHdl ≠ 0 → run.app.SleepersDisabled
  history : ∀ cnt, run.forPwrSave cnt → (run.app.cache cnt).enabled = false

section Runs

variable {run next : PwrSaveRun maxEntries} {op : NatAppOp}

theorem Step.history (stepped : run.Step op next) (cnt : Fin maxEntries)
    (forPwrSave : next.forPwrSave cnt) : (next.app.cache cnt).enabled = false := by
  rw [stepped.2, nextForPwrSave] at forPwrSave
  split at forPwrSave
  · cases forPwrSave
  · rename_i notEnabled
    rw [not_or] at notEnabled
    exact Bool.eq_false_iff.mpr notEnabled.1

theorem PwrSaveOk.disabled_of_step (pwrSaveOk : run.PwrSaveOk)
    (condition : run.PwrSaveCondition op) (keeps : ¬op.ChangesTable)
    (stepped : run.app.Step op next.app) (tblHdlNe : run.app.natTableHdl ≠ 0) :
    next.app.SleepersDisabled := by
  have disabled := pwrSaveOk.disabled tblHdlNe
  cases op with
  | addTable pubIp created answers => exact absurd trivial keeps
  | deleteTable pubIp deleted => exact absurd trivial keeps
  | cacheEntry rule cnt => exact disabled.quieter (NatApp.quieter_cacheEntry stepped)
  | addEntry rule answer =>
      rw [← Except.ok.inj stepped]
      exact disabled.addEntry rule answer
  | deleteEntry rule deleted =>
      rw [← Except.ok.inj stepped]
      exact disabled.quieter (run.app.quieter_deleteEntry rule deleted)
  | updatePwrSaveIf clientLanIp deleted =>
      rw [← Except.ok.inj stepped]
      exact disabled.updatePwrSaveIf (pwrSaveOk.tblHdl tblHdlNe) (condition tblHdlNe)
  | resetPwrSaveIf clientLanIp answers =>
      rw [← Except.ok.inj stepped]
      exact disabled.resetPwrSaveIf fun isAddress => (condition tblHdlNe isAddress).1
  | delEntriesOnClntDiscon ipAddr deleted =>
      rw [← Except.ok.inj stepped]
      exact disabled.quieter (run.app.quieter_delEntriesOnClntDiscon ipAddr deleted)
  | delEntriesOnSTAClntDiscon ipAddr deleted =>
      rw [← Except.ok.inj stepped]
      exact disabled.quieter (run.app.quieter_delEntriesOnSTAClntDiscon ipAddr deleted)
  | addTempEntry newEntry =>
      rw [← Except.ok.inj stepped]
      exact disabled.quieter (run.app.quieter_addTempEntry newEntry)
  | deleteTempEntry entry =>
      rw [← Except.ok.inj stepped]
      exact disabled.quieter (run.app.quieter_deleteTempEntry entry)
  | flushTempEntries ipAddr isAdd answers =>
      rw [← Except.ok.inj stepped]
      exact disabled.flushTempEntries ipAddr isAdd answers

theorem PwrSaveOk.step (pwrSaveOk : run.PwrSaveOk)
    (stepped : Run.Guarded PwrSaveCondition Step run op next) : next.PwrSaveOk := by
  rcases stepped with ⟨condition, stepped⟩
  refine ⟨pwrSaveOk.tblHdl.step stepped.1, ?_, stepped.history⟩
  intro tblHdlNe
  by_cases changes : op.ChangesTable
  · cases op with
    | addTable pubIp created answers =>
        rw [← Except.ok.inj stepped.1] at tblHdlNe ⊢
        exact NatApp.addTable_sleepersDisabled condition tblHdlNe
    | deleteTable pubIp deleted =>
        rw [← Except.ok.inj stepped.1] at tblHdlNe ⊢
        exact (pwrSaveOk.disabled (NatApp.natTableHdl_ne_of_deleteTable tblHdlNe)).quieter
          (run.app.quieter_deleteTable pubIp deleted)
    | _ => exact changes.elim
  · have same := stepped.1.sameTable changes
    rw [same.natTableHdl] at tblHdlNe
    exact pwrSaveOk.disabled_of_step condition changes stepped.1 tblHdlNe

theorem reachable_pwrSaveOk
    (reached : Run.Reachable IsInit (Run.Guarded PwrSaveCondition Step) run) : run.PwrSaveOk := by
  apply reached.invariant
  · rintro ⟨app, forPwrSave⟩ ⟨⟨algPorts, pubIpAddrPre, pwrSaveIfs, rfl⟩, rfl⟩
    exact ⟨fun hdlNe => absurd rfl hdlNe, fun hdlNe => absurd rfl hdlNe,
      fun _ isSet => by cases isSet⟩
  · intro run op next pwrSaveOk stepped
    exact pwrSaveOk.step stepped

theorem PwrSaveOk.wakesUp (pwrSaveOk : run.PwrSaveOk)
    (stepped : Run.Guarded PwrSaveCondition Step run op next) : run.WakesUp op next := by
  rcases stepped with ⟨condition, stepped⟩
  rintro clientLanIp answers rfl tblHdlNe recorded cnt forPwrSave cached awake
  have isAddress : clientLanIp ≠ invalidIpAddr :=
    ((run.app.isPwrSaveIf_iff clientLanIp).mp recorded).1
  have nextEq : (run.app.resetPwrSaveIf clientLanIp answers).2 = next.app :=
    Except.ok.inj stepped.1
  rw [← nextEq] at cached awake ⊢
  apply NatApp.resetPwrSaveIf_enables isAddress
  · apply (condition tblHdlNe isAddress).2 recorded cnt forPwrSave
    rw [← NatApp.resetPwrSaveIf_asleep isAddress cached]
    exact awake
  · exact pwrSaveOk.history cnt forPwrSave
  · exact cached

/-- In every run of operations that treat power save well, no enabled rule is asleep while a table
exists, and the rules of a client that leaves power save are enabled again. -/
theorem reachable_sleepersDisabled
    (reached : Run.Reachable IsInit (Run.Guarded PwrSaveCondition Step) run) :
    (run.app.natTableHdl ≠ 0 → run.app.SleepersDisabled) ∧
      ∀ op next, Run.Guarded PwrSaveCondition Step run op next → run.WakesUp op next := by
  have pwrSaveOk := reachable_pwrSaveOk reached
  exact ⟨pwrSaveOk.disabled, fun op next stepped => pwrSaveOk.wakesUp stepped⟩

theorem Step.of_apply {app : NatApp maxEntries} (applied : run.app.Step op app) :
    run.Step op ⟨app, run.nextForPwrSave op app⟩ := ⟨applied, rfl⟩

def created : PwrSaveRun 2 := ⟨.init [] 0 fun _ => 0, fun _ => false⟩

theorem created_isInit : created.IsInit := ⟨⟨[], 0, fun _ => 0, rfl⟩, rfl⟩

theorem reachable_sleepersDisabled_wake :
    ∃ run : PwrSaveRun 2, run.app.natTableHdl = 1 ∧ (run.app.cache 0).enabled ∧
      (run.app.natTableHdl ≠ 0 → run.app.SleepersDisabled) ∧
        ∀ op next, Run.Guarded PwrSaveCondition Step run op next → run.WakesUp op next := by
  have up : Run.Reachable IsInit (Run.Guarded PwrSaveCondition Step) _ :=
    .next (.addTable 7 true fun _ => none) (.start created_isInit)
      ⟨fun _ _ => by decide, .of_apply rfl⟩
  have asleep : Run.Reachable IsInit (Run.Guarded PwrSaveCondition Step) _ :=
    .next (.updatePwrSaveIf 10 fun _ => true) up
      ⟨fun _ _ _ _ => ⟨by unfold NatApp.Removable; decide, by decide⟩, .of_apply rfl⟩
  have added : Run.Reachable IsInit (Run.Guarded PwrSaveCondition Step) _ :=
    .next (.addEntry .tcpSample none) asleep ⟨trivial, .of_apply rfl⟩
  have awake : Run.Reachable IsInit (Run.Guarded PwrSaveCondition Step) _ :=
    .next (.resetPwrSaveIf 10 fun _ => some 5) added
      ⟨fun _ _ => ⟨by decide, fun _ => by decide⟩, .of_apply rfl⟩
  exact ⟨_, rfl, rfl, reachable_sleepersDisabled awake⟩

/-- The target of an enabled rule enters power save. -/
theorem updatePwrSaveIf_target_enabled :
    ∃ run : PwrSaveRun 2, Run.Reachable IsInit Step run ∧ run.app.natTableHdl ≠ 0 ∧
      run.app.isPwrSaveIf 20 ∧ (run.app.cache 0).enabled ∧ (run.app.cache 0).targetIp = 20 ∧
        ¬run.app.SleepersDisabled := by
  have up : Run.Reachable IsInit Step _ :=
    .next (.addTable 7 true fun _ => none) (.start created_isInit) (.of_apply rfl)
  have added : Run.Reachable IsInit Step _ :=
    .next (.addEntry .tcpSample (some 5)) up (.of_apply rfl)
  have asleep : Run.Reachable IsInit Step _ :=
    .next (.updatePwrSaveIf 20 fun _ => true) added (.of_apply rfl)
  refine ⟨_, asleep, by decide, by decide, rfl, rfl, ?_⟩
  intro disabled
  exact disabled 0 rfl (by decide)

end Runs

end PwrSaveRun

end HtcPme.Ipacm
