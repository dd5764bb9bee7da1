import HtcPme.Ipacm.NatApp

/-!
# What changes the table

Only `AddTable` and `DeleteTable` touch the existence of the table, its handle and its public
addresses.
-/

namespace HtcPme.Ipacm

variable {maxEntries : ℕ}

structure SameTable (app next : NatApp maxEntries) : Prop where
  table : next.driver.table = app.driver.table
  natTableHdl : next.natTableHdl = app.natTableHdl
  pubIpAddr : next.pubIpAddr = app.pubIpAddr
  pubIpAddrPre : next.pubIpAddrPre = app.pubIpAddrPre

theorem SameTable.refl (app : NatApp maxEntries) : SameTable app app := ⟨rfl, rfl, rfl, rfl⟩

theorem SameTable.trans {app app' next : NatApp maxEntries} (first : SameTable app app')
    (second : SameTable app' next) : SameTable app next where
  table := second.table.trans first.table
  natTableHdl := second.natTableHdl.trans first.natTableHdl
  pubIpAddr := second.pubIpAddr.trans first.pubIpAddr
  pubIpAddrPre := second.pubIpAddrPre.trans first.pubIpAddrPre

theorem SameTable.forEach {slots : ℕ} {body : NatApp maxEntries → Fin slots → NatApp maxEntries}
    {app start : NatApp maxEntries} (before : SameTable app start)
    (visit : ∀ cnt app, SameTable app (body app cnt)) :
    SameTable app (SlotLoop.forEach body start) := by
  apply SlotLoop.forEach_invariant (SameTable app)
  · exact before
  · intro cnt app' same
    exact same.trans (visit cnt app')

namespace NatApp

section Frames

variable (app : NatApp maxEntries) (cnt : Fin maxEntries)

theorem sameTable_addBack (answer : Option ℕ) : SameTable app (app.addBack cnt answer) := by
  unfold addBack
  cases added : app.driver.ipaNatAddIpv4Rule app.natTableHdl (app.cache cnt).natRule answer with
  | none => exact ⟨rfl, rfl, rfl, rfl⟩
  | some result => exact ⟨(NatDriver.ipaNatAddIpv4Rule_eq_some added).2.2.2.2, rfl, rfl, rfl⟩

theorem sameTable_restoreSlot (answer : Option ℕ) : SameTable app (app.restoreSlot cnt answer) := by
  unfold restoreSlot
  split
  · exact app.sameTable_addBack cnt answer
  · exact .refl app

variable {app} in
theorem sameTable_delRuleOf {deleted : Bool} {after : NatApp maxEntries → NatApp maxEntries}
    (frame : ∀ app, SameTable app (after app)) :
    SameTable app (app.delRuleOf cnt deleted after) := by
  unfold delRuleOf
  cases removed : app.driver.ipaNatDelIpv4Rule app.natTableHdl (app.cache cnt).ruleHdl deleted with
  | none => exact .refl app
  | some driver =>
      have removal : SameTable app { app with driver } :=
        ⟨(NatDriver.ipaNatDelIpv4Rule_eq_some removed).2.2.2, rfl, rfl, rfl⟩
      exact removal.trans (frame { app with driver })

theorem sameTable_replacePwrSaveIf (old new : BitVec 32) :
    SameTable app (app.replacePwrSaveIf old new) := by
  unfold replacePwrSaveIf
  split
  · exact .refl app
  · exact ⟨rfl, rfl, rfl, rfl⟩

theorem sameTable_addEntry (rule : NatTableEntry) (answer : Option ℕ) :
    SameTable app (app.addEntry rule answer).2 := by
  unfold addEntry
  split
  · exact .refl app
  · split
    · exact .refl app
    · split
      · exact .refl app
      · split
        · exact .refl app
        · cases app.freeSlot 0 with
          | none => exact .refl app
          | some cnt =>
              simp only
              split
              · exact ⟨rfl, rfl, rfl, rfl⟩
              · cases added : app.driver.ipaNatAddIpv4Rule app.natTableHdl rule.natRule answer with
                | none => exact .refl app
                | some result =>
                    exact ⟨(NatDriver.ipaNatAddIpv4Rule_eq_some added).2.2.2.2, rfl, rfl, rfl⟩

theorem sameTable_deleteEntry (rule : NatTableEntry) (deleted : Bool) :
    SameTable app (app.deleteEntry rule deleted).2 := by
  unfold deleteEntry
  cases app.slotOf rule with
  | none => exact .refl app
  | some cnt =>
      simp only
      split
      · cases removed : app.driver.ipaNatDelIpv4Rule app.natTableHdl (app.cache cnt).ruleHdl
          deleted with
        | none => exact ⟨rfl, rfl, rfl, rfl⟩
        | some driver =>
            exact ⟨(NatDriver.ipaNatDelIpv4Rule_eq_some removed).2.2.2, rfl, rfl, rfl⟩
      · exact ⟨rfl, rfl, rfl, rfl⟩

variable {app} in
theorem sameTable_cacheEntry {rule : NatTableEntry} {cnt : ℤ} {next : NatApp maxEntries}
    (cached : app.cacheEntry rule cnt = .ok next) : SameTable app next := by
  unfold cacheEntry at cached
  split at cached
  · cases cached
    exact .refl app
  · split at cached
    · cases cached
      exact .refl app
    · split at cached
      · cases cached
      · split at cached
        · cases cached
          exact .refl app
        · cases cached
          exact ⟨rfl, rfl, rfl, rfl⟩

theorem sameTable_updatePwrSaveIf (clientLanIp : BitVec 32) (deleted : ℕ → Bool) :
    SameTable app (app.updatePwrSaveIf clientLanIp deleted).2 := by
  unfold updatePwrSaveIf
  split
  · exact .refl app
  · split
    · exact .refl app
    · dsimp only
      apply SameTable.forEach
      · exact app.sameTable_replacePwrSaveIf 0 clientLanIp
      · intro cnt app
        unfold pwrSaveSlot
        split
        · apply sameTable_delRuleOf
          exact fun _ => ⟨rfl, rfl, rfl, rfl⟩
        · exact .refl app

theorem sameTable_resetPwrSaveIf (clientLanIp : BitVec 32) (answers : ℕ → Option ℕ) :
    SameTable app (app.resetPwrSaveIf clientLanIp answers).2 := by
  unfold resetPwrSaveIf
  split
  · exact .refl app
  · dsimp only
    apply SameTable.forEach
    · exact app.sameTable_replacePwrSaveIf clientLanIp 0
    · intro cnt app
      unfold pwrResetSlot
      split
      · exact app.sameTable_addBack cnt (answers cnt)
      · exact .refl app

theorem sameTable_delEntriesOnClntDiscon (ipAddr : BitVec 32) (deleted : ℕ → Bool) :
    SameTable app (app.delEntriesOnClntDiscon ipAddr deleted).2 := by
  unfold delEntriesOnClntDiscon
  split
  · exact .refl app
  · dsimp only
    apply SameTable.forEach
    · exact app.sameTable_replacePwrSaveIf ipAddr 0
    · intro cnt app
      unfold clntDisconSlot
      split
      · apply sameTable_delRuleOf
        exact fun _ => ⟨rfl, rfl, rfl, rfl⟩
      · exact .refl app

theorem sameTable_delEntriesOnSTAClntDiscon (ipAddr : BitVec 32) (deleted : ℕ → Bool) :
    SameTable app (app.delEntriesOnSTAClntDiscon ipAddr deleted).2 := by
  unfold delEntriesOnSTAClntDiscon
  split
  · exact .refl app
  · dsimp only
    apply SameTable.forEach
    · exact .refl app
    · intro cnt app
      unfold staDisconSlot
      split
      · split
        · apply sameTable_delRuleOf
          exact fun _ => ⟨rfl, rfl, rfl, rfl⟩
        · exact ⟨rfl, rfl, rfl, rfl⟩
      · exact .refl app

theorem sameTable_addTempEntry (newEntry : NatTableEntry) :
    SameTable app (app.addTempEntry newEntry) := by
  unfold addTempEntry
  repeat' split
  all_goals exact ⟨rfl, rfl, rfl, rfl⟩

theorem sameTable_deleteTempEntry (entry : NatTableEntry) :
    SameTable app (app.deleteTempEntry entry) := by
  unfold deleteTempEntry
  split
  · exact .refl app
  · exact ⟨rfl, rfl, rfl, rfl⟩

theorem sameTable_flushTempEntries (ipAddr : BitVec 32) (isAdd : Bool)
    (answers : ℕ → Option ℕ) : SameTable app (app.flushTempEntries ipAddr isAdd answers) := by
  apply SameTable.forEach
  · exact .refl app
  · intro cnt app
    unfold flushTempSlot
    split
    · split
      · simp only
        split
        · exact app.sameTable_addEntry (app.temp cnt) (answers cnt)
        · exact (app.sameTable_addEntry (app.temp cnt) (answers cnt)).trans ⟨rfl, rfl, rfl, rfl⟩
      · exact ⟨rfl, rfl, rfl, rfl⟩
    · exact .refl app

end Frames

end NatApp

def NatAppOp.ChangesTable : NatAppOp → Prop
  | .addTable _ _ _ => True
  | .deleteTable _ _ => True
  | _ => False

theorem NatApp.Step.sameTable {app next : NatApp maxEntries} {op : NatAppOp}
    (stepped : app.Step op next) (keeps : ¬op.ChangesTable) : SameTable app next := by
  cases op with
  | addTable pubIp created answers => exact absurd trivial keeps
  | deleteTable pubIp deleted => exact absurd trivial keeps
  | cacheEntry rule cnt => exact sameTable_cacheEntry stepped
  | addEntry rule answer =>
      cases stepped
      exact app.sameTable_addEntry rule answer
  | deleteEntry rule deleted =>
      cases stepped
      exact app.sameTable_deleteEntry rule deleted
  | updatePwrSaveIf clientLanIp deleted =>
      cases stepped
      exact app.sameTable_updatePwrSaveIf clientLanIp deleted
  | resetPwrSaveIf clientLanIp answers =>
      cases stepped
      exact app.sameTable_resetPwrSaveIf clientLanIp answers
  | delEntriesOnClntDiscon ipAddr deleted =>
      cases stepped
      exact app.sameTable_delEntriesOnClntDiscon ipAddr deleted
  | delEntriesOnSTAClntDiscon ipAddr deleted =>
      cases stepped
      exact app.sameTable_delEntriesOnSTAClntDiscon ipAddr deleted
  | addTempEntry newEntry =>
      cases stepped
      exact app.sameTable_addTempEntry newEntry
  | deleteTempEntry entry =>
      cases stepped
      exact app.sameTable_deleteTempEntry entry
  | flushTempEntries ipAddr isAdd answers =>
      have nextEq : app.flushTempEntries ipAddr isAdd answers = next := Except.ok.inj stepped
      rw [← nextEq]
      exact app.sameTable_flushTempEntries ipAddr isAdd answers

namespace NatApp

variable {app : NatApp maxEntries}

variable {pubIp : BitVec 32} {next : NatApp maxEntries}

variable {created : Bool} {answers : ℕ → Option ℕ} {deleted : Bool}

theorem sameTable_addTable {tblHdl : ℕ} {driver : NatDriver}
    (added : app.driver.ipaNatAddIpv4Tbl pubIp maxEntries created = some (tblHdl, driver)) :
    SameTable { app with natTableHdl := tblHdl, pubIpAddr := pubIp, driver }
      (app.addTable pubIp created answers).2 := by
  unfold addTable
  rw [added]
  simp only
  split
  · have restored : SameTable { app with natTableHdl := tblHdl, driver }
        (SlotLoop.forEach (fun (app : NatApp maxEntries) cnt => app.restoreSlot cnt (answers cnt))
          { app with natTableHdl := tblHdl, driver }) := by
      apply SameTable.forEach
      · exact .refl _
      · exact fun cnt app => app.sameTable_restoreSlot cnt (answers cnt)
    exact ⟨restored.table, restored.natTableHdl, rfl, restored.pubIpAddrPre⟩
  · exact ⟨rfl, rfl, rfl, rfl⟩

def HdlNames (app : NatApp maxEntries) : Prop :=
  app.natTableHdl ≠ 0 → app.driver.HasTable app.natTableHdl

theorem HdlNames.sameTable (hdlNames : app.HdlNames)
    (same : SameTable app next) : next.HdlNames := by
  unfold HdlNames NatDriver.HasTable
  rw [same.table, same.natTableHdl]
  exact hdlNames

theorem HdlNames.addTable (hdlNames : app.HdlNames) (pubIp : BitVec 32) (created : Bool)
    (answers : ℕ → Option ℕ) : (app.addTable pubIp created answers).2.HdlNames := by
  cases added : app.driver.ipaNatAddIpv4Tbl pubIp maxEntries created with
  | none =>
      unfold NatApp.addTable
      rw [added]
      simp only [HdlNames]
      split
      · exact hdlNames
      · exact fun hdlNe => absurd rfl hdlNe
  | some result =>
      rcases result with ⟨tblHdl, driver⟩
      have fresh : HdlNames { app with natTableHdl := tblHdl, pubIpAddr := pubIp, driver } :=
        fun _ => (NatDriver.ipaNatAddIpv4Tbl_eq_some added).2.2.1
      exact fresh.sameTable (sameTable_addTable added)

theorem HdlNames.deleteTable (hdlNames : app.HdlNames) (pubIp : BitVec 32) (deleted : Bool) :
    (app.deleteTable pubIp deleted).2.HdlNames := by
  unfold NatApp.deleteTable
  repeat' split
  · exact hdlNames
  · exact hdlNames
  · exact hdlNames
  · exact fun hdlNe => absurd rfl hdlNe

theorem addTable_pubIpAddrPre (app : NatApp maxEntries) (pubIp : BitVec 32) (created : Bool)
    (answers : ℕ → Option ℕ) :
    (app.addTable pubIp created answers).2.pubIpAddrPre = app.pubIpAddrPre := by
  cases added : app.driver.ipaNatAddIpv4Tbl pubIp maxEntries created with
  | none =>
      unfold addTable
      rw [added]
  | some result => exact (sameTable_addTable added).pubIpAddrPre

theorem deleteTable_pubIpAddrPre (succeeded : (app.deleteTable pubIp deleted).1 = 0) :
    (app.deleteTable pubIp deleted).2.pubIpAddrPre = pubIp := by
  unfold deleteTable at succeeded ⊢
  split at succeeded
  · cases succeeded
  · rename_i hdlNe
    split at succeeded
    · cases succeeded
    · rename_i samePubIp
      rw [not_not] at samePubIp
      cases removed : app.driver.ipaNatDelIpv4Tbl app.natTableHdl deleted with
      | none =>
          rw [removed] at succeeded
          cases succeeded
      | some driver =>
          rw [if_neg hdlNe, if_neg (not_not_intro samePubIp)]
          exact samePubIp

theorem deleteTable_of_ne (failed : (app.deleteTable pubIp deleted).1 ≠ 0) :
    (app.deleteTable pubIp deleted).2 = app := by
  unfold deleteTable at failed ⊢
  split
  · rfl
  · rename_i hdlNe
    split
    · rfl
    · rename_i samePubIp
      cases removed : app.driver.ipaNatDelIpv4Tbl app.natTableHdl deleted with
      | none => rfl
      | some driver =>
          rw [if_neg hdlNe, if_neg samePubIp, removed] at failed
          exact absurd rfl failed

theorem natTableHdl_ne_of_deleteTable
    (hdlNe : (app.deleteTable pubIp deleted).2.natTableHdl ≠ 0) : app.natTableHdl ≠ 0 := by
  intro noHdl
  unfold deleteTable at hdlNe
  rw [if_pos noHdl] at hdlNe
  exact hdlNe noHdl

theorem deleteTable_of_hdl (hdlNe : (app.deleteTable pubIp deleted).2.natTableHdl ≠ 0) :
    (app.deleteTable pubIp deleted).2 = app := by
  unfold deleteTable at hdlNe ⊢
  split
  · rfl
  · rename_i hasHdl
    split
    · rfl
    · rename_i samePubIp
      split
      · rfl
      · rename_i driver removed
        rw [if_neg hasHdl, if_neg samePubIp, removed] at hdlNe
        exact absurd rfl hdlNe

theorem addTable_pubIpAddr
    (hasSlots : maxEntries ≠ 0) (hdlNe : (app.addTable pubIp created answers).2.natTableHdl ≠ 0) :
    (app.addTable pubIp created answers).2.pubIpAddr = pubIp := by
  cases added : app.driver.ipaNatAddIpv4Tbl pubIp maxEntries created with
  | none =>
      unfold addTable at hdlNe
      rw [added] at hdlNe
      simp only [hasSlots, if_false] at hdlNe
      exact absurd rfl hdlNe
  | some result => exact (sameTable_addTable added).pubIpAddr

theorem HdlNames.step {op : NatAppOp} (hdlNames : app.HdlNames)
    (stepped : app.Step op next) : next.HdlNames := by
  by_cases changes : op.ChangesTable
  · cases op with
    | addTable pubIp created answers =>
        rw [← Except.ok.inj stepped]
        exact hdlNames.addTable pubIp created answers
    | deleteTable pubIp deleted =>
        rw [← Except.ok.inj stepped]
        exact hdlNames.deleteTable pubIp deleted
    | _ => exact changes.elim
  · exact hdlNames.sameTable (stepped.sameTable changes)

def TblHdlOk (app : NatApp maxEntries) : Prop :=
  if app.driver.table = none then app.natTableHdl = 0 else app.driver.HasTable app.natTableHdl

variable (tblHdlOk : app.TblHdlOk)

include tblHdlOk

theorem TblHdlOk.sameTable (same : SameTable app next) : next.TblHdlOk := by
  unfold TblHdlOk NatDriver.HasTable
  rw [same.table, same.natTableHdl]
  exact tblHdlOk

theorem TblHdlOk.addTable (noTable : app.driver.table = none)
    (pubIp : BitVec 32) (created : Bool) (answers : ℕ → Option ℕ) :
    (app.addTable pubIp created answers).2.TblHdlOk := by
  cases added : app.driver.ipaNatAddIpv4Tbl pubIp maxEntries created with
  | none =>
      rw [TblHdlOk, if_pos noTable] at tblHdlOk
      unfold NatApp.addTable
      simp only [added, TblHdlOk, noTable, if_true]
      split
      · exact tblHdlOk
      · rfl
  | some result =>
      rcases result with ⟨tblHdl, driver⟩
      have hasTable := (NatDriver.ipaNatAddIpv4Tbl_eq_some added).2.2.1
      have fresh : TblHdlOk { app with natTableHdl := tblHdl, pubIpAddr := pubIp, driver } := by
        rw [TblHdlOk, if_neg hasTable.2]
        exact hasTable
      exact fresh.sameTable (sameTable_addTable added)

theorem TblHdlOk.deleteTable (pubIp : BitVec 32) (deleted : Bool) :
    (app.deleteTable pubIp deleted).2.TblHdlOk := by
  unfold NatApp.deleteTable
  split
  · exact tblHdlOk
  · split
    · exact tblHdlOk
    · cases removed : app.driver.ipaNatDelIpv4Tbl app.natTableHdl deleted with
      | none => exact tblHdlOk
      | some driver =>
          rcases NatDriver.ipaNatDelIpv4Tbl_eq_some.mp removed with ⟨_, _, rfl⟩
          exact rfl

theorem TblHdlOk.deleteTable_table (hasTable : app.driver.table ≠ none)
    (pubIp : BitVec 32) (deleted : Bool) :
    (app.deleteTable pubIp deleted).2.driver.table = none ↔ app.pubIpAddr = pubIp ∧ deleted := by
  rw [TblHdlOk, if_neg hasTable] at tblHdlOk
  have hdlNe : app.natTableHdl ≠ 0 := by
    rw [tblHdlOk.1]
    exact Nat.one_ne_zero
  unfold NatApp.deleteTable
  rw [if_neg hdlNe]
  split
  · rename_i otherPubIp
    exact ⟨fun noTable => absurd noTable hasTable, fun both => absurd both.1 otherPubIp⟩
  · rename_i samePubIp
    rw [not_not] at samePubIp
    cases deleted with
    | false =>
        have refused : app.driver.ipaNatDelIpv4Tbl app.natTableHdl false = none := if_neg (by simp)
        simp only [refused, hasTable, samePubIp, Bool.false_eq_true, and_false]
    | true =>
        have removed := NatDriver.ipaNatDelIpv4Tbl_eq_some.mpr ⟨tblHdlOk, rfl, rfl⟩
        simp only [removed, samePubIp, and_self, iff_true]
        rfl

end NatApp

end HtcPme.Ipacm
