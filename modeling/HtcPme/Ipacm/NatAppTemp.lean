import HtcPme.Ipacm.NatAppCache

/-!
# Temporary entries and the cache together

A connection is held if it is in the cache or in a used slot of the temporary list, which are both
free of duplicates.
-/

namespace HtcPme.Ipacm

open Function

variable {maxEntries : ℕ}

def Conn.Used (conn : Conn) : Prop := ¬(conn.privateIp = 0 ∧ conn.targetIp = 0)

theorem Conn.not_used_unused : ¬Conn.unused.Used := by simp [Conn.Used, Conn.unused]

def TempOk (temp : Fin maxTempEntries → NatTableEntry) : Prop :=
  ∀ cnt cnt', (temp cnt).conn.Used → (temp cnt).conn = (temp cnt').conn → cnt = cnt'

def TempDrops (temp next : Fin maxTempEntries → NatTableEntry) : Prop :=
  ∀ cnt, (next cnt).conn = (temp cnt).conn ∨ ¬(next cnt).conn.Used

section TempDrops

variable {temp temp' next : Fin maxTempEntries → NatTableEntry}

theorem TempDrops.refl (temp : Fin maxTempEntries → NatTableEntry) : TempDrops temp temp :=
  fun _ => .inl rfl

theorem TempDrops.trans (first : TempDrops temp temp') (second : TempDrops temp' next) :
    TempDrops temp next := by
  intro cnt
  rcases second cnt with same | isFree
  · rw [same]
    exact first cnt
  · exact .inr isFree

theorem TempDrops.clear (cnt : Fin maxTempEntries) :
    TempDrops temp (update temp cnt .zero) := by
  intro slot
  by_cases same : slot = cnt
  · rw [same, update_self]
    exact .inr Conn.not_used_unused
  · rw [update_of_ne same]
    exact .inl rfl

theorem TempDrops.tempOk (drops : TempDrops temp next) (tempOk : TempOk temp) : TempOk next := by
  intro cnt cnt' isUsed sameConn
  have kept := (drops cnt).resolve_right fun isFree => isFree isUsed
  have kept' := (drops cnt').resolve_right fun isFree => isFree (sameConn ▸ isUsed)
  apply tempOk cnt cnt'
  · rwa [← kept]
  · rw [← kept, ← kept', sameConn]

end TempDrops

namespace NatApp

def Holds (app : NatApp maxEntries) (conn : Conn) : Prop :=
  Cached app.cache conn ∨ conn.Used ∧ ∃ cnt, (app.temp cnt).conn = conn

structure EntriesOk (app : NatApp maxEntries) : Prop where
  connsOk : ConnsOk app.cache
  tempOk : TempOk app.temp

section Temp

variable (app : NatApp maxEntries)

theorem temp_forEach {slots : ℕ} {body : NatApp maxEntries → Fin slots → NatApp maxEntries}
    {start : NatApp maxEntries} {temp : Fin maxTempEntries → NatTableEntry}
    (before : start.temp = temp) (visit : ∀ cnt app, (body app cnt).temp = app.temp) :
    (SlotLoop.forEach body start).temp = temp := by
  apply SlotLoop.forEach_invariant fun app : NatApp maxEntries => app.temp = temp
  · exact before
  · intro cnt app same
    rw [visit, same]

theorem temp_addBack (cnt : Fin maxEntries) (answer : Option ℕ) :
    (app.addBack cnt answer).temp = app.temp := by
  simp only [addBack]
  split <;> rfl

theorem temp_delRuleOf (cnt : Fin maxEntries) (deleted : Bool)
    {after : NatApp maxEntries → NatApp maxEntries}
    (keeps : ∀ driver, (after { app with driver }).temp = app.temp) :
    (app.delRuleOf cnt deleted after).temp = app.temp := by
  simp only [delRuleOf]
  split
  · rfl
  · exact keeps _

theorem temp_replacePwrSaveIf (old new : BitVec 32) :
    (app.replacePwrSaveIf old new).temp = app.temp := by
  unfold replacePwrSaveIf
  split
  · rfl
  · rfl

theorem temp_addEntry (rule : NatTableEntry) (answer : Option ℕ) :
    (app.addEntry rule answer).2.temp = app.temp := by
  unfold addEntry
  split
  · rfl
  · split
    · rfl
    · split
      · rfl
      · split
        · rfl
        · split
          · rfl
          · dsimp only
            split
            · rfl
            · split <;> rfl

theorem temp_addTable (pubIp : BitVec 32) (created : Bool) (answers : ℕ → Option ℕ) :
    (app.addTable pubIp created answers).2.temp = app.temp := by
  simp only [addTable]
  split
  · rfl
  · split
    · apply temp_forEach
      · rfl
      · intro cnt app
        simp only [restoreSlot]
        split
        · exact app.temp_addBack cnt _
        · rfl
    · rfl

theorem temp_deleteTable (pubIp : BitVec 32) (deleted : Bool) :
    (app.deleteTable pubIp deleted).2.temp = app.temp := by
  simp only [deleteTable]
  repeat' split
  all_goals rfl

theorem temp_deleteEntry (rule : NatTableEntry) (deleted : Bool) :
    (app.deleteEntry rule deleted).2.temp = app.temp := by
  simp only [deleteEntry]
  repeat' split
  all_goals rfl

theorem temp_updatePwrSaveIf (clientLanIp : BitVec 32) (deleted : ℕ → Bool) :
    (app.updatePwrSaveIf clientLanIp deleted).2.temp = app.temp := by
  simp only [updatePwrSaveIf]
  split
  · rfl
  · split
    · rfl
    · apply temp_forEach
      · exact app.temp_replacePwrSaveIf _ _
      · intro cnt app
        simp only [pwrSaveSlot]
        split
        · exact app.temp_delRuleOf cnt _ fun _ => rfl
        · rfl

theorem temp_resetPwrSaveIf (clientLanIp : BitVec 32) (answers : ℕ → Option ℕ) :
    (app.resetPwrSaveIf clientLanIp answers).2.temp = app.temp := by
  simp only [resetPwrSaveIf]
  split
  · rfl
  · apply temp_forEach
    · exact app.temp_replacePwrSaveIf _ _
    · intro cnt app
      simp only [pwrResetSlot]
      split
      · exact app.temp_addBack cnt _
      · rfl

theorem temp_delEntriesOnClntDiscon (ipAddr : BitVec 32) (deleted : ℕ → Bool) :
    (app.delEntriesOnClntDiscon ipAddr deleted).2.temp = app.temp := by
  simp only [delEntriesOnClntDiscon]
  split
  · rfl
  · apply temp_forEach
    · exact app.temp_replacePwrSaveIf _ _
    · intro cnt app
      simp only [clntDisconSlot]
      split
      · exact app.temp_delRuleOf cnt _ fun _ => rfl
      · rfl

theorem temp_delEntriesOnSTAClntDiscon (ipAddr : BitVec 32) (deleted : ℕ → Bool) :
    (app.delEntriesOnSTAClntDiscon ipAddr deleted).2.temp = app.temp := by
  simp only [delEntriesOnSTAClntDiscon]
  split
  · rfl
  · apply temp_forEach
    · rfl
    · intro cnt app
      simp only [staDisconSlot]
      repeat' split
      · exact app.temp_delRuleOf cnt _ fun _ => rfl
      · rfl
      · rfl

variable {rule : NatTableEntry} {conn : Conn}

theorem temp_cacheEntry {next : NatApp maxEntries} {cnt : ℤ}
    (cached : app.cacheEntry rule cnt = .ok next) : next.temp = app.temp := by
  unfold cacheEntry at cached
  split at cached
  · cases cached
    rfl
  · split at cached
    · cases cached
      rfl
    · split at cached
      · cases cached
      · split at cached
        · cases cached
          rfl
        · cases cached
          rfl

theorem tempDrops_flushTempEntries (ipAddr : BitVec 32) (isAdd : Bool) (answers : ℕ → Option ℕ) :
    TempDrops app.temp (app.flushTempEntries ipAddr isAdd answers).temp := by
  apply SlotLoop.forEach_invariant fun next : NatApp maxEntries => TempDrops app.temp next.temp
  · exact .refl app.temp
  · intro cnt next drops
    apply drops.trans
    unfold flushTempSlot
    split
    · split
      · dsimp only
        split
        · rw [temp_addEntry]
          exact .refl next.temp
        · simp only [setTemp, temp_addEntry]
          exact TempDrops.clear cnt
      · exact TempDrops.clear cnt
    · exact .refl next.temp

theorem tempDrops_deleteTempEntry (entry : NatTableEntry) :
    TempDrops app.temp (app.deleteTempEntry entry).temp := by
  unfold deleteTempEntry
  split
  · exact .refl app.temp
  · exact TempDrops.clear _

theorem tempSlotOf_eq_none {app : NatApp maxEntries} :
    app.tempSlotOf rule = none ↔ ∀ cnt, (app.temp cnt).conn ≠ rule.conn := by
  rw [tempSlotOf, Fin.find?_eq_none_iff]
  simp only [decide_eq_false_iff_not, ne_eq]

theorem addTempEntry_cases (newEntry : NatTableEntry) :
    app.addTempEntry newEntry = app ∨
      ∃ cnt, ¬(app.temp cnt).conn.Used ∧ (∀ cnt, (app.temp cnt).conn ≠ newEntry.conn) ∧
        ¬Cached app.cache newEntry.conn ∧ app.addTempEntry newEntry = app.setTemp cnt newEntry := by
  simp only [addTempEntry]
  split
  · exact .inl rfl
  · split
    · exact .inl rfl
    · rename_i notDup
      rw [Bool.not_eq_true, chkForDup_eq_false] at notDup
      split
      · exact .inl rfl
      · rename_i isNew
        rw [Bool.not_eq_true, Option.isSome_eq_false_iff, Option.isNone_iff_eq_none,
          tempSlotOf_eq_none] at isNew
        split
        · exact .inl rfl
        · rename_i cnt found
          have isFree := decide_eq_true_iff.mp (Fin.eq_true_of_find?_eq_some found)
          exact .inr ⟨cnt, fun isUsed => isUsed isFree, isNew, notDup, rfl⟩

theorem tempOk_addTempEntry {app : NatApp maxEntries} (tempOk : TempOk app.temp)
    (newEntry : NatTableEntry) : TempOk (app.addTempEntry newEntry).temp := by
  rcases app.addTempEntry_cases newEntry with same | ⟨free, isFree, isNew, -, stored⟩
  · rw [same]
    exact tempOk
  · rw [stored]
    intro cnt cnt' isUsed sameConn
    simp only [setTemp, update_apply] at isUsed sameConn
    by_cases isCnt : cnt = free <;> by_cases isCnt' : cnt' = free
    · rw [isCnt, isCnt']
    · rw [if_pos isCnt, if_neg isCnt'] at sameConn
      exact absurd sameConn.symm (isNew cnt')
    · rw [if_neg isCnt, if_pos isCnt'] at sameConn
      exact absurd sameConn (isNew cnt)
    · rw [if_neg isCnt] at isUsed
      rw [if_neg isCnt, if_neg isCnt'] at sameConn
      exact tempOk cnt cnt' isUsed sameConn

theorem drops_restoreSlot (cnt : Fin maxEntries) (answer : Option ℕ) :
    Drops (fun _ => True) app.cache (app.restoreSlot cnt answer).cache := by
  unfold restoreSlot addBack
  split
  · split
    · exact Drops.update (.inr ⟨rfl, trivial⟩)
    · exact Drops.update (.inl rfl)
  · exact .refl _ app.cache

theorem drops_addTable (pubIp : BitVec 32) (created : Bool) (answers : ℕ → Option ℕ) :
    Drops (fun _ => True) app.cache (app.addTable pubIp created answers).2.cache := by
  unfold addTable
  split
  · exact .refl _ app.cache
  · dsimp only
    split
    · apply Drops.forEach
      · exact .refl _ app.cache
      · exact fun cnt visited => visited.drops_restoreSlot cnt (answers cnt)
    · exact .refl _ app.cache

theorem keeps_cacheEntry {app next : NatApp maxEntries} {cnt : ℤ}
    (cached : app.cacheEntry rule cnt = .ok next) : Keeps (fun _ => False) app next := by
  unfold cacheEntry at cached
  split at cached
  · cases cached
    exact .refl _ app
  · rename_i valid
    split at cached
    · cases cached
      exact .refl _ app
    · rename_i notDup
      split at cached
      · cases cached
      · cases isFree : app.freeSlot cnt.toNat with
        | none =>
            rw [isFree] at cached
            cases cached
            exact .refl _ app
        | some slot =>
            rw [isFree] at cached
            cases cached
            rw [Bool.not_eq_true, chkForDup_eq_false] at notDup
            apply Keeps.store slot ?_ ?_ (freeSlot_eq_some isFree).2 rfl
            · exact not_not.mp valid
            · exact notDup

variable {app} {next : NatApp maxEntries}

theorem EntriesOk.of_keeps {removed : Conn → Prop} (entriesOk : app.EntriesOk)
    (keeps : Keeps removed app next) (tempDrops : TempDrops app.temp next.temp) :
    next.EntriesOk :=
  ⟨keeps.connsOk entriesOk.connsOk, tempDrops.tempOk entriesOk.tempOk⟩

theorem EntriesOk.apply {op : NatAppOp} (entriesOk : app.EntriesOk)
    (applied : app.apply op = .ok next) : next.EntriesOk := by
  have sameTemp {app next : NatApp maxEntries} (same : next.temp = app.temp) :
      TempDrops app.temp next.temp := same ▸ .refl app.temp
  cases op with
  | addTable pubIp created answers =>
      cases applied
      exact entriesOk.of_keeps (app.drops_addTable pubIp created answers).keeps
        (sameTemp (app.temp_addTable ..))
  | deleteTable pubIp deleted =>
      cases applied
      exact entriesOk.of_keeps (app.drops_deleteTable pubIp deleted).keeps
        (sameTemp (app.temp_deleteTable ..))
  | addEntry rule answer =>
      cases applied
      exact entriesOk.of_keeps (app.keeps_addEntry ..) (sameTemp (app.temp_addEntry ..))
  | deleteEntry rule deleted =>
      cases applied
      exact entriesOk.of_keeps (app.drops_deleteEntry rule deleted).keeps
        (sameTemp (app.temp_deleteEntry ..))
  | cacheEntry rule cnt =>
      exact entriesOk.of_keeps (keeps_cacheEntry applied) (sameTemp (temp_cacheEntry app applied))
  | updatePwrSaveIf clientLanIp deleted =>
      cases applied
      exact entriesOk.of_keeps (app.drops_updatePwrSaveIf clientLanIp deleted).keeps
        (sameTemp (app.temp_updatePwrSaveIf ..))
  | resetPwrSaveIf clientLanIp answers =>
      cases applied
      exact entriesOk.of_keeps (app.drops_resetPwrSaveIf clientLanIp answers).keeps
        (sameTemp (app.temp_resetPwrSaveIf ..))
  | delEntriesOnClntDiscon ipAddr deleted =>
      cases applied
      exact entriesOk.of_keeps (app.drops_delEntriesOnClntDiscon ipAddr deleted).keeps
        (sameTemp (app.temp_delEntriesOnClntDiscon ..))
  | delEntriesOnSTAClntDiscon ipAddr deleted =>
      cases applied
      exact entriesOk.of_keeps (app.drops_delEntriesOnSTAClntDiscon ipAddr deleted).keeps
        (sameTemp (app.temp_delEntriesOnSTAClntDiscon ..))
  | addTempEntry newEntry =>
      cases applied
      refine ⟨?_, tempOk_addTempEntry entriesOk.tempOk newEntry⟩
      rw [cache_addTempEntry]
      exact entriesOk.connsOk
  | deleteTempEntry entry =>
      cases applied
      refine ⟨?_, (app.tempDrops_deleteTempEntry entry).tempOk entriesOk.tempOk⟩
      rw [cache_deleteTempEntry]
      exact entriesOk.connsOk
  | flushTempEntries ipAddr isAdd answers =>
      have flushed : app.flushTempEntries ipAddr isAdd answers = next := Except.ok.inj applied
      rw [← flushed]
      exact entriesOk.of_keeps (app.keeps_flushTempEntries ipAddr isAdd answers)
        (app.tempDrops_flushTempEntries ipAddr isAdd answers)

theorem EntriesOk.init {algPorts : List IpacmAlg} {pubIpAddrPre : BitVec 32}
    {pwrSaveIfs : Fin ipaMaxNumWifiClients → BitVec 32} :
    (NatApp.init algPorts pubIpAddrPre pwrSaveIfs : NatApp maxEntries).EntriesOk := by
  have noneUsed (cnt : Fin maxEntries) :
      ((NatApp.init algPorts pubIpAddrPre pwrSaveIfs).cache cnt).conn = .unused := rfl
  have noneTemp (cnt : Fin maxTempEntries) :
      ((NatApp.init algPorts pubIpAddrPre pwrSaveIfs : NatApp maxEntries).temp cnt).conn =
        .unused := rfl
  refine ⟨⟨?_, ?_⟩, ?_⟩
  · exact fun cnt isUsed => absurd (noneUsed cnt) isUsed
  · exact fun cnt _ isUsed => absurd (noneUsed cnt) isUsed
  · intro cnt cnt' isUsed
    rw [noneTemp] at isUsed
    exact absurd isUsed Conn.not_used_unused

theorem cache_deleteEntry (rule : NatTableEntry) (deleted : Bool) :
    (app.deleteEntry rule deleted).2.cache =
      match app.slotOf rule with
      | none => app.cache
      | some cnt => update app.cache cnt .zero := by
  unfold deleteEntry
  cases app.slotOf rule with
  | none => rfl
  | some cnt =>
      dsimp only
      split
      · split <;> rfl
      · rfl

theorem cached_deleteEntry (connsOk : ConnsOk app.cache) (isUsed : conn ≠ .unused)
    (rule : NatTableEntry) (deleted : Bool) :
    Cached (app.deleteEntry rule deleted).2.cache conn ↔
      Cached app.cache conn ∧ conn ≠ rule.conn := by
  constructor
  · rintro ⟨slot, isConn⟩
    rw [cache_deleteEntry] at isConn
    cases found : app.slotOf rule with
    | none =>
        rw [found] at isConn
        refine ⟨⟨slot, isConn⟩, ?_⟩
        rintro rfl
        exact slotOf_eq_none.mp found ⟨slot, isConn⟩
    | some cnt =>
        rw [found] at isConn
        dsimp only at isConn
        have other : slot ≠ cnt := by
          rintro rfl
          rw [update_self] at isConn
          exact isUsed isConn.symm
        rw [update_of_ne other] at isConn
        refine ⟨⟨slot, isConn⟩, ?_⟩
        intro same
        apply other
        apply connsOk.unique slot cnt (isConn ▸ isUsed)
        rw [isConn, slotOf_eq_some found, same]
  · rintro ⟨isCached, differs⟩
    exact (app.drops_deleteEntry rule deleted).keeps.cached conn isUsed isCached differs

theorem deleteTempEntry_temp (entry : NatTableEntry) :
    (app.deleteTempEntry entry).temp =
      match app.tempSlotOf entry with
      | none => app.temp
      | some cnt => update app.temp cnt .zero := by
  unfold deleteTempEntry
  cases app.tempSlotOf entry with
  | none => rfl
  | some cnt => rfl

theorem hasTemp_deleteTempEntry (tempOk : TempOk app.temp) (isUsed : conn.Used)
    (entry : NatTableEntry) :
    (∃ cnt, ((app.deleteTempEntry entry).temp cnt).conn = conn) ↔
      (∃ cnt, (app.temp cnt).conn = conn) ∧ conn ≠ entry.conn := by
  rw [deleteTempEntry_temp]
  cases found : app.tempSlotOf entry with
  | none =>
      refine ⟨fun hasTemp => ⟨hasTemp, ?_⟩, And.left⟩
      rintro rfl
      rcases hasTemp with ⟨cnt, isConn⟩
      exact tempSlotOf_eq_none.mp found cnt isConn
  | some slot =>
      have isEntry := decide_eq_true_iff.mp (Fin.eq_true_of_find?_eq_some found)
      dsimp only
      constructor
      · rintro ⟨cnt, isConn⟩
        have other : cnt ≠ slot := by
          rintro rfl
          rw [update_self] at isConn
          rw [← isConn] at isUsed
          exact Conn.not_used_unused isUsed
        rw [update_of_ne other] at isConn
        refine ⟨⟨cnt, isConn⟩, ?_⟩
        intro same
        apply other
        apply tempOk cnt slot (isConn ▸ isUsed)
        rw [isConn, same, isEntry]
      · rintro ⟨⟨cnt, isConn⟩, differs⟩
        refine ⟨cnt, ?_⟩
        have other : cnt ≠ slot := by
          rintro rfl
          exact differs (isConn.symm.trans isEntry)
        rw [update_of_ne other]
        exact isConn

theorem EntriesOk.holds_delete (entriesOk : app.EntriesOk) (isUsed : conn ≠ .unused)
    (rule : NatTableEntry) (deleted : Bool) :
    ((app.deleteEntry rule deleted).2.deleteTempEntry rule).Holds conn ↔
      app.Holds conn ∧ conn ≠ rule.conn := by
  have applied : app.apply (.deleteEntry rule deleted) = .ok (app.deleteEntry rule deleted).2 :=
    rfl
  have afterOk := entriesOk.apply applied
  simp only [Holds, cache_deleteTempEntry, cached_deleteEntry entriesOk.connsOk isUsed]
  have inTemp (isUsed : conn.Used) := hasTemp_deleteTempEntry afterOk.tempOk isUsed rule
  rw [temp_deleteEntry] at inTemp
  constructor
  · rintro (isCached | ⟨isUsed, hasTemp⟩)
    · exact ⟨.inl isCached.1, isCached.2⟩
    · have before := (inTemp isUsed).mp hasTemp
      exact ⟨.inr ⟨isUsed, before.1⟩, before.2⟩
  · rintro ⟨isCached | ⟨isUsed, hasTemp⟩, differs⟩
    · exact .inl ⟨isCached, differs⟩
    · exact .inr ⟨isUsed, (inTemp isUsed).mpr ⟨hasTemp, differs⟩⟩

theorem Holds.start {op : NatAppOp} (holds : app.Holds conn) (isUsed : conn ≠ .unused)
    (starts : (∃ rule cnt, op = .cacheEntry rule cnt) ∨ (∃ rule, op = .addTempEntry rule) ∨
      ∃ rule answer, op = .addEntry rule answer)
    (applied : app.apply op = .ok next) : next.Holds conn := by
  rcases starts with ⟨rule, cnt, rfl⟩ | ⟨rule, rfl⟩ | ⟨rule, answer, rfl⟩
  · rcases holds with isCached | ⟨isUsed, hasTemp⟩
    · exact .inl ((keeps_cacheEntry applied).cached conn isUsed isCached id)
    · exact .inr ⟨isUsed, temp_cacheEntry app applied ▸ hasTemp⟩
  · cases applied
    rcases holds with isCached | ⟨tempUsed, cnt, isConn⟩
    · exact .inl (app.cache_addTempEntry rule ▸ isCached)
    · refine .inr ⟨tempUsed, cnt, ?_⟩
      rcases app.addTempEntry_cases rule with same | ⟨free, isFree, isNew, -, stored⟩
      · rw [same]
        exact isConn
      · have other : cnt ≠ free := by
          rintro rfl
          exact isFree (isConn ▸ tempUsed)
        rw [stored]
        simp only [setTemp, update_of_ne other]
        exact isConn
  · cases applied
    rcases holds with isCached | ⟨isUsed, hasTemp⟩
    · exact .inl ((app.keeps_addEntry rule answer).cached conn isUsed isCached id)
    · exact .inr ⟨isUsed, (app.temp_addEntry rule answer).symm ▸ hasTemp⟩

end Temp

end NatApp

end HtcPme.Ipacm
