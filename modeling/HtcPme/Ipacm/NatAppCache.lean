import HtcPme.Ipacm.NatAppTable

/-!
# Cached connections

A connection stays in one slot of the cache until it is deleted or its STA client disconnects.
-/

namespace HtcPme.Ipacm

open IpaNat Function NatApp Except

variable {maxEntries : ℕ}

/-- Every slot is unused or holds a valid connection, no two slots the same one. -/
structure ConnsOk (cache : Fin maxEntries → NatTableEntry) : Prop where
  valid : ∀ cnt, (cache cnt).conn ≠ .unused → (cache cnt).conn.Valid
  unique : ∀ cnt cnt', (cache cnt).conn ≠ .unused → (cache cnt).conn = (cache cnt').conn →
    cnt = cnt'

def Cached (cache : Fin maxEntries → NatTableEntry) (conn : Conn) : Prop :=
  ∃ cnt, (cache cnt).conn = conn

/-- Each slot keeps its connection, or loses one that `dropped` names. -/
def Drops (dropped : Conn → Prop) (cache next : Fin maxEntries → NatTableEntry) : Prop :=
  ∀ cnt, (next cnt).conn = (cache cnt).conn ∨ (next cnt).conn = .unused ∧ dropped (cache cnt).conn

section Drops

variable {dropped : Conn → Prop} {cache cache' next : Fin maxEntries → NatTableEntry}

theorem Drops.refl (dropped : Conn → Prop) (cache : Fin maxEntries → NatTableEntry) :
    Drops dropped cache cache := fun _ => .inl rfl

theorem Drops.trans (first : Drops dropped cache cache') (second : Drops dropped cache' next) :
    Drops dropped cache next := by
  intro cnt
  rcases second cnt with same | ⟨isUnused, isDropped⟩
  · rw [same]
    exact first cnt
  · rcases first cnt with same | ⟨_, isDropped'⟩
    · rw [same] at isDropped
      exact .inr ⟨isUnused, isDropped⟩
    · exact .inr ⟨isUnused, isDropped'⟩

theorem Drops.update {cnt : Fin maxEntries} {entry : NatTableEntry}
    (slotCase : entry.conn = (cache cnt).conn ∨ entry.conn = .unused ∧ dropped (cache cnt).conn) :
    Drops dropped cache (update cache cnt entry) := by
  intro slot
  by_cases same : slot = cnt
  · subst same
    rw [update_self]
    exact slotCase
  · rw [update_of_ne same]
    exact .inl rfl

theorem Drops.connsOk (drops : Drops dropped cache next) (connsOk : ConnsOk cache) :
    ConnsOk next := by
  have kept : ∀ cnt, (next cnt).conn ≠ .unused → (next cnt).conn = (cache cnt).conn :=
    fun cnt isUsed => (drops cnt).resolve_right fun both => isUsed both.1
  constructor
  · intro cnt isUsed
    have same := kept cnt isUsed
    rw [same] at isUsed ⊢
    exact connsOk.valid cnt isUsed
  · intro cnt cnt' isUsed sameConn
    have isUsed' : (next cnt').conn ≠ .unused := sameConn ▸ isUsed
    have same := kept cnt isUsed
    rw [same] at isUsed sameConn
    rw [kept cnt' isUsed'] at sameConn
    exact connsOk.unique cnt cnt' isUsed sameConn

theorem Drops.cached (drops : Drops dropped cache next) {conn : Conn}
    (isCached : Cached cache conn) (isKept : ¬dropped conn) : Cached next conn := by
  rcases isCached with ⟨cnt, rfl⟩
  rcases drops cnt with same | ⟨_, isDropped⟩
  · exact ⟨cnt, same⟩
  · exact absurd isDropped isKept

theorem Drops.forEach {slots : ℕ} {body : NatApp maxEntries → Fin slots → NatApp maxEntries}
    {start : NatApp maxEntries} (before : Drops dropped cache start.cache)
    (visit : ∀ cnt (app : NatApp maxEntries), Drops dropped app.cache (body app cnt).cache) :
    Drops dropped cache (SlotLoop.forEach body start).cache := by
  apply SlotLoop.forEach_invariant fun app : NatApp maxEntries => Drops dropped cache app.cache
  · exact before
  · intro cnt app drops
    exact drops.trans (visit cnt app)

end Drops

section Store

variable {cache : Fin maxEntries → NatTableEntry} {cnt : Fin maxEntries} {entry : NatTableEntry}

theorem ConnsOk.store (connsOk : ConnsOk cache) (valid : entry.conn.Valid)
    (isNew : ¬Cached cache entry.conn) : ConnsOk (update cache cnt entry) := by
  constructor
  · intro slot isUsed
    by_cases same : slot = cnt
    · subst same
      rw [update_self]
      exact valid
    · rw [update_of_ne same] at isUsed ⊢
      exact connsOk.valid slot isUsed
  · intro slot slot' isUsed sameConn
    by_cases same : slot = cnt
    · by_cases same' : slot' = cnt
      · rw [same, same']
      · rw [same, update_self, update_of_ne same'] at sameConn
        exact absurd ⟨slot', sameConn.symm⟩ isNew
    · rw [update_of_ne same] at isUsed sameConn
      by_cases same' : slot' = cnt
      · rw [same', update_self] at sameConn
        exact absurd ⟨slot, sameConn⟩ isNew
      · rw [update_of_ne same'] at sameConn
        exact connsOk.unique slot slot' isUsed sameConn

theorem Cached.store {conn : Conn} (isCached : Cached cache conn) (isUsed : conn ≠ .unused)
    (wasUnused : (cache cnt).conn = .unused) : Cached (update cache cnt entry) conn := by
  rcases isCached with ⟨slot, rfl⟩
  have other : slot ≠ cnt := by
    rintro rfl
    exact isUsed wasUnused
  refine ⟨slot, ?_⟩
  rw [update_of_ne other]

theorem cached_store_self : Cached (update cache cnt entry) entry.conn :=
  ⟨cnt, by rw [update_self]⟩

end Store

/-- The cache stays well formed, and cached connections stay cached but for those `removed`. -/
structure Keeps (removed : Conn → Prop) (app next : NatApp maxEntries) : Prop where
  connsOk : ConnsOk app.cache → ConnsOk next.cache
  cached : ∀ conn, conn ≠ .unused → Cached app.cache conn → ¬removed conn → Cached next.cache conn

section Keeps

variable {removed : Conn → Prop} {app app' next : NatApp maxEntries}

theorem Keeps.refl (removed : Conn → Prop) (app : NatApp maxEntries) : Keeps removed app app :=
  ⟨id, fun _ _ isCached _ => isCached⟩

theorem Keeps.trans (first : Keeps removed app app') (second : Keeps removed app' next) :
    Keeps removed app next where
  connsOk := fun connsOk => second.connsOk (first.connsOk connsOk)
  cached := fun conn isUsed isCached isKept =>
    second.cached conn isUsed (first.cached conn isUsed isCached isKept) isKept

theorem Drops.keeps (drops : Drops removed app.cache next.cache) : Keeps removed app next where
  connsOk := drops.connsOk
  cached := fun _ _ isCached isKept => drops.cached isCached isKept

theorem Keeps.of_cache (same : next.cache = app.cache) : Keeps removed app next := by
  apply Drops.keeps
  rw [same]
  exact .refl _ app.cache

theorem Keeps.forEach {slots : ℕ} {body : NatApp maxEntries → Fin slots → NatApp maxEntries}
    {start : NatApp maxEntries} (before : Keeps removed app start)
    (visit : ∀ cnt app, Keeps removed app (body app cnt)) :
    Keeps removed app (SlotLoop.forEach body start) := by
  apply SlotLoop.forEach_invariant (Keeps removed app)
  · exact before
  · intro cnt app' keeps
    exact keeps.trans (visit cnt app')

theorem Keeps.store (cnt : Fin maxEntries) {entry : NatTableEntry} (valid : entry.conn.Valid)
    (isNew : ¬Cached app.cache entry.conn) (wasUnused : (app.cache cnt).conn = .unused)
    (cacheEq : next.cache = update app.cache cnt entry) : Keeps removed app next := by
  constructor
  · intro connsOk
    rw [cacheEq]
    exact connsOk.store valid isNew
  · intro conn isUsed isCached _
    rw [cacheEq]
    exact isCached.store isUsed wasUnused

end Keeps

namespace NatApp

section Searches

variable {app : NatApp maxEntries} {rule : NatTableEntry} {cnt : Fin maxEntries} {start : ℕ}

theorem slotOf_eq_some (found : app.slotOf rule = some cnt) :
    (app.cache cnt).conn = rule.conn := by
  have isConn := Fin.eq_true_of_find?_eq_some found
  exact decide_eq_true_iff.mp isConn

theorem slotOf_eq_none : app.slotOf rule = none ↔ ¬Cached app.cache rule.conn := by
  rw [slotOf, Fin.find?_eq_none_iff]
  simp only [decide_eq_false_iff_not, Cached, not_exists]

theorem chkForDup_eq_false : app.chkForDup rule = false ↔ ¬Cached app.cache rule.conn := by
  rw [chkForDup, Option.isSome_eq_false_iff, Option.isNone_iff_eq_none, slotOf_eq_none]

theorem freeSlot_eq_some (isFree : app.freeSlot start = some cnt) :
    start ≤ cnt ∧ (app.cache cnt).conn = .unused := by
  have isUnused := Fin.eq_true_of_find?_eq_some isFree
  exact decide_eq_true_iff.mp isUnused

end Searches

section Operations

variable (app : NatApp maxEntries)

theorem apply_eq_ok {op : NatAppOp} (notCache : ∀ rule cnt, op ≠ .cacheEntry rule cnt) :
    ∃ next, app.Step op next := by
  cases op with
  | cacheEntry rule cnt => exact absurd rfl (notCache rule cnt)
  | _ => exact ⟨_, rfl⟩

theorem keeps_addEntry (rule : NatTableEntry) (answer : Option ℕ) :
    Keeps (fun _ => False) app (app.addEntry rule answer).2 := by
  unfold addEntry
  split
  · exact .refl _ app
  · split
    · exact .refl _ app
    · split
      · exact .refl _ app
      · rename_i valid
        rw [not_not] at valid
        split
        · exact .refl _ app
        · rename_i notDup
          rw [Bool.not_eq_true, chkForDup_eq_false] at notDup
          cases isFree : app.freeSlot 0 with
          | none => exact .refl _ app
          | some cnt =>
              have wasUnused := (freeSlot_eq_some isFree).2
              simp only
              split
              · apply Keeps.store cnt ?_ ?_ wasUnused rfl
                · exact valid
                · exact notDup
              · split
                · exact .refl _ app
                · apply Keeps.store cnt ?_ ?_ wasUnused rfl
                  · exact valid
                  · exact notDup

theorem drops_deleteTable (pubIp : BitVec 32) (deleted : Bool) :
    Drops (fun _ => False) app.cache (app.deleteTable pubIp deleted).2.cache := by
  unfold deleteTable
  repeat' split
  all_goals exact .refl _ app.cache

theorem drops_deleteEntry (rule : NatTableEntry) (deleted : Bool) :
    Drops (· = rule.conn) app.cache (app.deleteEntry rule deleted).2.cache := by
  unfold deleteEntry
  cases found : app.slotOf rule with
  | none => exact .refl _ app.cache
  | some cnt =>
      have dropped : Drops (· = rule.conn) app.cache (update app.cache cnt .zero) :=
        Drops.update (.inr ⟨rfl, slotOf_eq_some found⟩)
      simp only
      split
      · split
        · exact dropped
        · exact dropped
      · exact dropped

variable {removed : Conn → Prop}

theorem drops_delRuleOf (cnt : Fin maxEntries) (deleted : Bool)
    {after : NatApp maxEntries → NatApp maxEntries}
    (drops : ∀ driver, Drops removed app.cache (after { app with driver }).cache) :
    Drops removed app.cache (app.delRuleOf cnt deleted after).cache := by
  unfold delRuleOf
  split
  · exact .refl _ app.cache
  · exact drops _

theorem drops_replacePwrSaveIf (old new : BitVec 32) :
    Drops removed app.cache (app.replacePwrSaveIf old new).cache := by
  rw [cache_replacePwrSaveIf]
  exact .refl _ app.cache

theorem drops_updatePwrSaveIf (clientLanIp : BitVec 32) (deleted : ℕ → Bool) :
    Drops (fun _ => False) app.cache (app.updatePwrSaveIf clientLanIp deleted).2.cache := by
  unfold updatePwrSaveIf
  split
  · exact .refl _ app.cache
  · split
    · exact .refl _ app.cache
    · dsimp only
      apply Drops.forEach
      · exact app.drops_replacePwrSaveIf 0 clientLanIp
      · intro cnt app
        unfold pwrSaveSlot
        split
        · apply drops_delRuleOf
          intro driver
          exact Drops.update (.inl rfl)
        · exact .refl _ app.cache

theorem drops_delEntriesOnClntDiscon (ipAddr : BitVec 32) (deleted : ℕ → Bool) :
    Drops (fun _ => False) app.cache (app.delEntriesOnClntDiscon ipAddr deleted).2.cache := by
  unfold delEntriesOnClntDiscon
  split
  · exact .refl _ app.cache
  · dsimp only
    apply Drops.forEach
    · exact app.drops_replacePwrSaveIf ipAddr 0
    · intro cnt app
      unfold clntDisconSlot
      split
      · apply drops_delRuleOf
        intro driver
        exact Drops.update (.inl rfl)
      · exact .refl _ app.cache

theorem drops_delEntriesOnSTAClntDiscon (ipAddr : BitVec 32) (deleted : ℕ → Bool) :
    Drops (·.targetIp = ipAddr) app.cache
      (app.delEntriesOnSTAClntDiscon ipAddr deleted).2.cache := by
  unfold delEntriesOnSTAClntDiscon
  split
  · exact .refl _ app.cache
  · dsimp only
    apply Drops.forEach
    · exact .refl _ app.cache
    · intro cnt app
      unfold staDisconSlot
      split
      · rename_i isTarget
        split
        · apply drops_delRuleOf
          intro driver
          exact Drops.update (.inr ⟨rfl, isTarget⟩)
        · exact Drops.update (.inr ⟨rfl, isTarget⟩)
      · exact .refl _ app.cache

theorem drops_resetPwrSaveIf (clientLanIp : BitVec 32) (answers : ℕ → Option ℕ) :
    Drops (·.privateIp = clientLanIp) app.cache
      (app.resetPwrSaveIf clientLanIp answers).2.cache := by
  unfold resetPwrSaveIf
  split
  · exact .refl _ app.cache
  · dsimp only
    apply Drops.forEach
    · exact app.drops_replacePwrSaveIf clientLanIp 0
    · intro cnt app
      unfold pwrResetSlot addBack
      split
      · rename_i selected
        split
        · exact Drops.update (.inr ⟨rfl, selected.1⟩)
        · exact Drops.update (.inl rfl)
      · exact .refl _ app.cache

@[simp]
theorem cache_setTemp (cnt : Fin maxTempEntries) (entry : NatTableEntry) :
    (app.setTemp cnt entry).cache = app.cache := rfl

@[simp]
theorem cache_addTempEntry (newEntry : NatTableEntry) :
    (app.addTempEntry newEntry).cache = app.cache := by
  unfold addTempEntry
  repeat' split
  all_goals rfl

@[simp]
theorem cache_deleteTempEntry (entry : NatTableEntry) :
    (app.deleteTempEntry entry).cache = app.cache := by
  unfold deleteTempEntry
  split <;> rfl

theorem keeps_flushTempEntries (ipAddr : BitVec 32) (isAdd : Bool) (answers : ℕ → Option ℕ) :
    Keeps (fun _ => False) app (app.flushTempEntries ipAddr isAdd answers) := by
  apply Keeps.forEach
  · exact .refl _ app
  · intro cnt app
    unfold flushTempSlot
    split
    · split
      · simp only
        split
        · exact app.keeps_addEntry (app.temp cnt) (answers cnt)
        · exact (app.keeps_addEntry (app.temp cnt) (answers cnt)).trans (.of_cache rfl)
      · exact .of_cache rfl
    · exact .refl _ app

end Operations

section AddBack

variable {app start cur : NatApp maxEntries}

def AllAdded (driver : NatDriver) (answers : ℕ → Option ℕ) : Prop :=
  ∃ hdl : ℕ → ℕ, Function.Injective hdl ∧
    ∀ cnt, answers cnt = some (hdl cnt) ∧ driver.Fresh (hdl cnt)

structure AddBackVisited (start : NatApp maxEntries) (select : NatTableEntry → Prop)
    (hdl : ℕ → ℕ) (visited : ℕ) (cur : NatApp maxEntries) : Prop where
  hasTable : cur.driver.HasTable cur.natTableHdl
  rules : ∀ held ∈ cur.driver.rules,
    held ∈ start.driver.rules ∨ ∃ cnt < visited, held.ruleHdl = hdl cnt
  conn : ∀ cnt, (cur.cache cnt).conn = (start.cache cnt).conn
  later : ∀ cnt : Fin maxEntries, visited ≤ cnt → cur.cache cnt = start.cache cnt
  programmed : ∀ cnt : Fin maxEntries, cnt < visited → select (start.cache cnt) →
    (cur.cache cnt).enabled ∧ ⟨(cur.cache cnt).ruleHdl, (cur.cache cnt).natRule⟩ ∈ cur.driver.rules

variable {hdl : ℕ → ℕ} {answers : ℕ → Option ℕ}

theorem AddBackVisited.next {select : NatTableEntry → Prop} [DecidablePred select]
    {cnt : Fin maxEntries} (injective : Function.Injective hdl)
    (fresh : ∀ cnt, start.driver.Fresh (hdl cnt))
    (visited : AddBackVisited start select hdl cnt cur) :
    AddBackVisited start select hdl (cnt + 1)
      (if select (cur.cache cnt) then cur.addBack cnt (some (hdl cnt)) else cur) := by
  have sameSlot := visited.later cnt (Nat.le_refl _)
  split
  · rename_i selected
    have isFresh : cur.driver.Fresh (hdl cnt) := by
      refine ⟨(fresh cnt).1, ?_⟩
      intro held isHeld sameHdl
      rcases visited.rules held isHeld with wasHeld | ⟨cnt', before, sameHdl'⟩
      · exact (fresh cnt).2 held wasHeld sameHdl
      · have same := injective (sameHdl.symm.trans sameHdl')
        omega
    rcases NatDriver.ipaNatAddIpv4Rule_succeeds (cur.cache cnt).natRule visited.hasTable isFresh
      with ⟨driver, added⟩
    rcases NatDriver.ipaNatAddIpv4Rule_eq_some added with ⟨_, _, _, rulesEq, tableEq⟩
    simp only [addBack, added]
    refine ⟨?_, ?_, ?_, ?_, ?_⟩
    · refine ⟨visited.hasTable.1, ?_⟩
      show driver.table ≠ none
      rw [tableEq]
      exact visited.hasTable.2
    · intro held isHeld
      rw [show driver.rules = _ from rulesEq] at isHeld
      rcases List.mem_cons.mp isHeld with rfl | isHeld
      · exact .inr ⟨cnt, by omega, rfl⟩
      · exact (visited.rules held isHeld).imp_right fun ⟨cnt', before, sameHdl⟩ =>
          ⟨cnt', by omega, sameHdl⟩
    · intro slot
      by_cases same : slot = cnt
      · subst same
        rw [cache_setSlot_self]
        exact visited.conn slot
      · rw [cache_setSlot_of_ne _ _ same]
        exact visited.conn slot
    · intro slot isLater
      have other : slot ≠ cnt := by
        rintro rfl
        exact absurd isLater (by omega)
      rw [cache_setSlot_of_ne _ _ other]
      exact visited.later slot (by omega)
    · intro slot isVisited wasSelected
      show _ ∧ _ ∈ driver.rules
      rw [rulesEq]
      by_cases same : slot = cnt
      · subst same
        rw [cache_setSlot_self]
        exact ⟨rfl, List.mem_cons_self⟩
      · rw [cache_setSlot_of_ne _ _ same]
        rcases visited.programmed slot (by omega) wasSelected with ⟨enabled, isLive⟩
        exact ⟨enabled, List.mem_cons_of_mem _ isLive⟩
  · rename_i notSelected
    refine ⟨visited.hasTable, ?_, visited.conn, ?_, ?_⟩
    · intro held isHeld
      exact (visited.rules held isHeld).imp_right fun ⟨cnt', before, sameHdl⟩ =>
        ⟨cnt', by omega, sameHdl⟩
    · intro slot isLater
      exact visited.later slot (by omega)
    · intro slot isVisited wasSelected
      by_cases same : slot = cnt
      · subst same
        rw [sameSlot] at notSelected
        exact absurd wasSelected notSelected
      · exact visited.programmed slot (by omega) wasSelected

theorem addBackVisited (start : NatApp maxEntries) (select : NatTableEntry → Prop)
    [DecidablePred select] {body : NatApp maxEntries → Fin maxEntries → NatApp maxEntries}
    (bodyEq : ∀ app cnt, body app cnt =
      if select (app.cache cnt) then app.addBack cnt (answers cnt) else app)
    (injective : Function.Injective hdl)
    (added : ∀ cnt, answers cnt = some (hdl cnt) ∧ start.driver.Fresh (hdl cnt))
    (hasTable : start.driver.HasTable start.natTableHdl) :
    AddBackVisited start select hdl maxEntries (SlotLoop.forEach body start) := by
  apply SlotLoop.forEach_induct (AddBackVisited start select hdl)
  · exact ⟨hasTable, fun _ isHeld => .inl isHeld, fun _ => rfl, fun _ _ => rfl,
      fun _ isVisited => absurd isVisited (Nat.not_lt_zero _)⟩
  · intro cnt cur visited
    rw [bodyEq, (added cnt).1]
    exact visited.next injective fun cnt => (added cnt).2

theorem keeps_resetPwrSaveIf_of_table (clientLanIp : BitVec 32)
    (hasTable : app.driver.HasTable app.natTableHdl) (allAdded : AllAdded app.driver answers) :
    Keeps (fun _ => False) app (app.resetPwrSaveIf clientLanIp answers).2 := by
  unfold resetPwrSaveIf
  split
  · exact .refl _ app
  · rcases allAdded with ⟨hdl, injective, added⟩
    have bodyEq : ∀ (app : NatApp maxEntries) cnt, app.pwrResetSlot clientLanIp cnt (answers cnt) =
        if (app.cache cnt).privateIp = clientLanIp ∧ (app.cache cnt).enabled = false then
          app.addBack cnt (answers cnt)
        else app := fun _ _ => rfl
    have same := app.sameTable_replacePwrSaveIf clientLanIp 0
    have driverEq := app.driver_replacePwrSaveIf clientLanIp 0
    have visited := addBackVisited (app.replacePwrSaveIf clientLanIp 0)
      (fun entry => entry.privateIp = clientLanIp ∧ entry.enabled = false) bodyEq
      injective (by rw [driverEq]; exact added) (by rw [driverEq, same.natTableHdl]; exact hasTable)
    apply Drops.keeps
    apply (app.drops_replacePwrSaveIf clientLanIp 0).trans
    exact fun cnt => .inl (visited.conn cnt)

theorem addTable_restores (allAdded : AllAdded .initial answers)
    (pubIp : BitVec 32) (created : Bool) :
    Keeps (fun _ => False) app (app.addTable pubIp created answers).2 ∧
      ((app.addTable pubIp created answers).1 = 0 → pubIp = app.pubIpAddrPre →
        ∀ cnt, (app.cache cnt).privateIp ≠ 0 →
          let next := (app.addTable pubIp created answers).2
          (next.cache cnt).conn = (app.cache cnt).conn ∧ (next.cache cnt).enabled ∧
            ⟨(next.cache cnt).ruleHdl, (next.cache cnt).natRule⟩ ∈ next.driver.rules) := by
  unfold addTable
  cases created' : app.driver.ipaNatAddIpv4Tbl pubIp maxEntries created with
  | none =>
      refine ⟨Drops.keeps (.refl _ app.cache), ?_⟩
      intro succeeded
      cases succeeded
  | some result =>
      rcases result with ⟨tblHdl, driver⟩
      rcases NatDriver.ipaNatAddIpv4Tbl_eq_some created' with ⟨_, _, hasTable, noRules⟩
      rcases allAdded with ⟨hdl, injective, added⟩
      have bodyEq : ∀ (app : NatApp maxEntries) cnt, app.restoreSlot cnt (answers cnt) =
          if (app.cache cnt).privateIp ≠ 0 then app.addBack cnt (answers cnt) else app :=
        fun _ _ => rfl
      have visited := addBackVisited { app with natTableHdl := tblHdl, driver }
        (fun entry => entry.privateIp ≠ 0) bodyEq injective
        (fun cnt => ⟨(added cnt).1, (added cnt).2.1, by simp [noRules]⟩) hasTable
      simp only
      constructor
      · apply Drops.keeps
        split
        · exact fun cnt => .inl (visited.conn cnt)
        · exact .refl _ app.cache
      · intro _ samePubIp cnt isUsed
        rw [if_pos (show pubIp = app.pubIpAddrPre from samePubIp)]
        exact ⟨visited.conn cnt, visited.programmed cnt cnt.isLt isUsed⟩

end AddBack

end NatApp

/-- The state, the connections that were cached and not removed since, and the public address of
the last table that was deleted. -/
structure CacheRun (maxEntries : ℕ) where
  app : NatApp maxEntries
  held : List Conn
  lastPubIp : Option (BitVec 32)

namespace CacheRun

def nextHeld (run : CacheRun maxEntries) : NatAppOp → List Conn
  | .cacheEntry rule _ =>
      if rule.conn.Valid ∧ ((run.app.slotOf rule).isSome ∨ (run.app.freeSlot 0).isSome) then
        rule.conn :: run.held
      else run.held
  | .deleteEntry rule _ => run.held.filter (· ≠ rule.conn)
  | .delEntriesOnSTAClntDiscon ipAddr _ => run.held.filter (·.targetIp ≠ ipAddr)
  | .resetPwrSaveIf clientLanIp _ =>
      if run.app.natTableHdl = 0 then run.held.filter (·.privateIp ≠ clientLanIp) else run.held
  | _ => run.held

def nextLastPubIp (run : CacheRun maxEntries) : NatAppOp → Option (BitVec 32)
  | .deleteTable pubIp deleted =>
      if (run.app.deleteTable pubIp deleted).1 = 0 then some pubIp else run.lastPubIp
  | _ => run.lastPubIp

def IsInit (run : CacheRun maxEntries) : Prop :=
  run.app.IsInit ∧ run.held = [] ∧ run.lastPubIp = none

def Step (run : CacheRun maxEntries) (op : NatAppOp) (next : CacheRun maxEntries) : Prop :=
  run.app.Step op next.app ∧ next.held = run.nextHeld op ∧ next.lastPubIp = run.nextLastPubIp op

def AddsSucceed (run : CacheRun maxEntries) : NatAppOp → Prop
  | .addTable _ _ answers => NatApp.AllAdded .initial answers
  | .resetPwrSaveIf _ answers =>
      run.app.natTableHdl ≠ 0 → NatApp.AllAdded run.app.driver answers
  | _ => True

def HeldOk (run : CacheRun maxEntries) : Prop :=
  ∀ conn ∈ run.held, ∃! cnt, (run.app.cache cnt).conn = conn

def Programs (run : CacheRun maxEntries) (op : NatAppOp) (next : CacheRun maxEntries) : Prop :=
  ∀ pubIp created answers, op = .addTable pubIp created answers →
    (run.app.addTable pubIp created answers).1 = 0 → run.lastPubIp = some pubIp →
      ∀ conn ∈ run.held, ∃ cnt, (next.app.cache cnt).conn = conn ∧ (next.app.cache cnt).enabled ∧
        ⟨(next.app.cache cnt).ruleHdl, (next.app.cache cnt).natRule⟩ ∈ next.app.driver.rules

def KeepsHeld (run : CacheRun maxEntries) (op : NatAppOp) : Prop :=
  ∃ next, run.Step op next ∧ next.HeldOk ∧ run.Programs op next

/-- The search of `CacheEntry` starts inside the cache, and at or before an unused slot if there
is one. -/
def CacheCondition (run : CacheRun maxEntries) : NatAppOp → Prop
  | .cacheEntry rule cnt =>
      rule.conn.Valid → run.app.chkForDup rule = false → 0 ≤ cnt ∧ cnt ≤ maxEntries ∧
        ((run.app.freeSlot 0).isSome → (run.app.freeSlot cnt.toNat).isSome)
  | _ => True

structure CacheRunOk (run : CacheRun maxEntries) : Prop where
  connsOk : ConnsOk run.app.cache
  held : ∀ conn ∈ run.held, conn.Valid ∧ Cached run.app.cache conn
  lastPubIp : ∀ pubIp, run.lastPubIp = some pubIp → run.app.pubIpAddrPre = pubIp
  tblHdl : run.app.HdlNames

section Runs

variable {run next : CacheRun maxEntries} {op : NatAppOp}

theorem CacheRunOk.heldOk (runOk : run.CacheRunOk) : run.HeldOk := by
  intro conn isHeld
  rcases runOk.held conn isHeld with ⟨valid, cnt, rfl⟩
  refine ⟨cnt, rfl, ?_⟩
  intro cnt' sameConn
  exact (runOk.connsOk.unique cnt cnt' valid.ne_unused sameConn.symm).symm

def removedBy (run : CacheRun maxEntries) : NatAppOp → Conn → Prop
  | .deleteEntry rule _, conn => conn = rule.conn
  | .delEntriesOnSTAClntDiscon ipAddr _, conn => conn.targetIp = ipAddr
  | .resetPwrSaveIf clientLanIp _, conn =>
      run.app.natTableHdl = 0 ∧ conn.privateIp = clientLanIp
  | _, _ => False

variable {app : NatApp maxEntries}

theorem CacheRunOk.keeps (runOk : run.CacheRunOk) (adds : run.AddsSucceed op)
    (notCache : ∀ rule cnt, op ≠ .cacheEntry rule cnt) (stepped : run.app.Step op app) :
    Keeps (run.removedBy op) run.app app := by
  cases op with
  | cacheEntry rule cnt => exact absurd rfl (notCache rule cnt)
  | addTable pubIp created answers =>
      rw [← ok.inj stepped]
      exact (addTable_restores adds pubIp created).1
  | deleteTable pubIp deleted =>
      rw [← ok.inj stepped]
      exact (run.app.drops_deleteTable pubIp deleted).keeps
  | addEntry rule answer =>
      rw [← ok.inj stepped]
      exact run.app.keeps_addEntry rule answer
  | deleteEntry rule deleted =>
      rw [← ok.inj stepped]
      exact (run.app.drops_deleteEntry rule deleted).keeps
  | updatePwrSaveIf clientLanIp deleted =>
      rw [← ok.inj stepped]
      exact (run.app.drops_updatePwrSaveIf clientLanIp deleted).keeps
  | resetPwrSaveIf clientLanIp answers =>
      rw [← ok.inj stepped]
      by_cases hdlNe : run.app.natTableHdl = 0
      · have keeps := (run.app.drops_resetPwrSaveIf clientLanIp answers).keeps
        refine ⟨keeps.connsOk, ?_⟩
        intro conn isUsed isCached isKept
        exact keeps.cached conn isUsed isCached fun isPrivate => isKept ⟨hdlNe, isPrivate⟩
      · have keeps := run.app.keeps_resetPwrSaveIf_of_table clientLanIp (runOk.tblHdl hdlNe)
          (adds hdlNe)
        exact ⟨keeps.connsOk, fun conn isUsed isCached _ => keeps.cached conn isUsed isCached id⟩
  | delEntriesOnClntDiscon ipAddr deleted =>
      rw [← ok.inj stepped]
      exact (run.app.drops_delEntriesOnClntDiscon ipAddr deleted).keeps
  | delEntriesOnSTAClntDiscon ipAddr deleted =>
      rw [← ok.inj stepped]
      exact (run.app.drops_delEntriesOnSTAClntDiscon ipAddr deleted).keeps
  | addTempEntry newEntry =>
      rw [← ok.inj stepped]
      exact .of_cache (run.app.cache_addTempEntry newEntry)
  | deleteTempEntry entry =>
      rw [← ok.inj stepped]
      exact .of_cache (run.app.cache_deleteTempEntry entry)
  | flushTempEntries ipAddr isAdd answers =>
      rw [← ok.inj stepped]
      exact run.app.keeps_flushTempEntries ipAddr isAdd answers

theorem mem_of_mem_nextHeld (notCache : ∀ rule cnt, op ≠ .cacheEntry rule cnt) {conn : Conn}
    (isHeld : conn ∈ run.nextHeld op) : conn ∈ run.held ∧ ¬run.removedBy op conn := by
  cases op with
  | cacheEntry rule cnt => exact absurd rfl (notCache rule cnt)
  | deleteEntry rule deleted | delEntriesOnSTAClntDiscon ipAddr deleted =>
      rcases List.mem_filter.mp isHeld with ⟨wasHeld, isKept⟩
      exact ⟨wasHeld, by simpa [removedBy] using isKept⟩
  | resetPwrSaveIf clientLanIp answers =>
      rw [nextHeld] at isHeld
      split at isHeld
      · rcases List.mem_filter.mp isHeld with ⟨wasHeld, isKept⟩
        exact ⟨wasHeld, fun both => decide_eq_true_iff.mp isKept both.2⟩
      · rename_i hdlNe
        exact ⟨isHeld, fun both => hdlNe both.1⟩
  | _ => exact ⟨isHeld, id⟩

section

variable (runOk : run.CacheRunOk)

include runOk

theorem CacheRunOk.cacheEntry {rule : NatTableEntry} {cnt : ℤ}
    (condition : run.CacheCondition (.cacheEntry rule cnt)) :
    ∃ app, run.app.cacheEntry rule cnt = .ok app ∧ ConnsOk app.cache ∧
      ∀ conn ∈ run.nextHeld (.cacheEntry rule cnt), conn.Valid ∧ Cached app.cache conn := by
  unfold NatApp.cacheEntry
  simp only [nextHeld]
  by_cases valid : rule.conn.Valid
  · by_cases notDup : run.app.chkForDup rule = false
    · rcases condition valid notDup with ⟨nonneg, inBounds, freeFound⟩
      rw [if_neg (not_not_intro valid), notDup, if_neg Bool.false_ne_true, if_neg (by omega)]
      rw [NatApp.chkForDup_eq_false] at notDup
      cases isFree : run.app.freeSlot cnt.toNat with
      | none =>
          refine ⟨run.app, rfl, runOk.connsOk, ?_⟩
          rw [if_neg]
          · exact runOk.held
          · rintro ⟨_, found | free⟩
            · rw [Option.isSome_iff_ne_none, ne_eq, NatApp.slotOf_eq_none] at found
              exact found notDup
            · have isSome := freeFound free
              rw [isFree] at isSome
              cases isSome
      | some slot =>
          have wasUnused := (NatApp.freeSlot_eq_some isFree).2
          refine ⟨_, rfl, runOk.connsOk.store valid notDup, ?_⟩
          intro conn isHeld
          have isNewOrHeld : conn = rule.conn ∨ conn ∈ run.held := by
            split at isHeld
            · exact List.mem_cons.mp isHeld
            · exact .inr isHeld
          rcases isNewOrHeld with rfl | wasHeld
          · exact ⟨valid, cached_store_self⟩
          · rcases runOk.held conn wasHeld with ⟨connValid, isCached⟩
            exact ⟨connValid, isCached.store connValid.ne_unused wasUnused⟩
    · rw [if_neg (not_not_intro valid), if_pos (Bool.not_eq_false _ ▸ notDup)]
      refine ⟨run.app, rfl, runOk.connsOk, ?_⟩
      rw [NatApp.chkForDup_eq_false, not_not] at notDup
      intro conn isHeld
      have isNewOrHeld : conn = rule.conn ∨ conn ∈ run.held := by
        split at isHeld
        · exact List.mem_cons.mp isHeld
        · exact .inr isHeld
      rcases isNewOrHeld with rfl | wasHeld
      · exact ⟨valid, notDup⟩
      · exact runOk.held conn wasHeld
  · rw [if_pos valid, if_neg fun both => valid both.1]
    exact ⟨run.app, rfl, runOk.connsOk, runOk.held⟩

theorem CacheRunOk.lastPubIp_step (stepped : run.Step op next)
    {pubIp : BitVec 32} (isLast : next.lastPubIp = some pubIp) : next.app.pubIpAddrPre = pubIp := by
  rcases stepped with ⟨stepped, _, lastEq⟩
  rw [lastEq] at isLast
  by_cases changes : op.ChangesTable
  · cases op with
    | addTable pubIp' created answers =>
        rw [← ok.inj stepped, addTable_pubIpAddrPre]
        exact runOk.lastPubIp pubIp isLast
    | deleteTable pubIp' deleted =>
        rw [← ok.inj stepped]
        rw [nextLastPubIp] at isLast
        split at isLast
        · rename_i succeeded
          cases isLast
          exact deleteTable_pubIpAddrPre succeeded
        · rename_i failed
          rw [deleteTable_of_ne failed]
          exact runOk.lastPubIp pubIp isLast
    | _ => exact changes.elim
  · rw [(stepped.sameTable changes).pubIpAddrPre]
    apply runOk.lastPubIp pubIp
    cases op with
    | deleteTable pubIp' deleted => exact absurd trivial changes
    | _ => exact isLast

variable (adds : run.AddsSucceed op)

include adds

theorem CacheRunOk.apply
    (condition : run.CacheCondition op) : ∃ next, run.Step op next ∧ next.CacheRunOk := by
  have isApplied : ∃ app, run.app.Step op app ∧ ConnsOk app.cache ∧
      ∀ conn ∈ run.nextHeld op, conn.Valid ∧ Cached app.cache conn := by
    by_cases isCache : ∃ rule cnt, op = .cacheEntry rule cnt
    · rcases isCache with ⟨rule, cnt, rfl⟩
      exact runOk.cacheEntry condition
    · have notCache : ∀ rule cnt, op ≠ .cacheEntry rule cnt :=
        fun rule cnt isOp => isCache ⟨rule, cnt, isOp⟩
      rcases apply_eq_ok run.app notCache with ⟨app, stepped⟩
      have keeps := runOk.keeps adds notCache stepped
      refine ⟨app, stepped, keeps.connsOk runOk.connsOk, ?_⟩
      intro conn isHeld
      rcases mem_of_mem_nextHeld notCache isHeld with ⟨wasHeld, isKept⟩
      rcases runOk.held conn wasHeld with ⟨valid, isCached⟩
      exact ⟨valid, keeps.cached conn valid.ne_unused isCached isKept⟩
  rcases isApplied with ⟨app, stepped, connsOk, held⟩
  let next : CacheRun maxEntries := ⟨app, run.nextHeld op, run.nextLastPubIp op⟩
  have isStep : run.Step op next := ⟨stepped, rfl, rfl⟩
  refine ⟨next, isStep, connsOk, held, ?_, runOk.tblHdl.step stepped⟩
  intro pubIp isLast
  exact runOk.lastPubIp_step isStep isLast

theorem CacheRunOk.programs (stepped : run.Step op next) : run.Programs op next := by
  rintro pubIp created answers rfl succeeded isLast conn isHeld
  rcases runOk.held conn isHeld with ⟨valid, cnt, rfl⟩
  have nextEq : (run.app.addTable pubIp created answers).2 = next.app := ok.inj stepped.1
  have privateIpNe : (run.app.cache cnt).privateIp ≠ 0 := fun isZero => valid (.inl isZero)
  rw [← nextEq]
  exact ⟨cnt, (addTable_restores adds pubIp created).2 succeeded
    (runOk.lastPubIp pubIp isLast).symm cnt privateIpNe⟩

theorem CacheRunOk.step
    (condition : run.CacheCondition op) (stepped : run.Step op next) : next.CacheRunOk := by
  rcases runOk.apply adds condition with ⟨next', stepped', runOk'⟩
  have sameApp : next.app = next'.app := ok.inj (stepped.1.symm.trans stepped'.1)
  have same : next = next' := by
    rcases next with ⟨app, held, lastPubIp⟩
    rcases next' with ⟨app', held', lastPubIp'⟩
    rw [CacheRun.mk.injEq]
    exact ⟨sameApp, stepped.2.1.trans stepped'.2.1.symm, stepped.2.2.trans stepped'.2.2.symm⟩
  rw [same]
  exact runOk'

end

theorem reachable_cacheRunOk
    (reached : Run.Reachable IsInit
      (Run.Guarded (fun run op => run.AddsSucceed op ∧ run.CacheCondition op) Step) run) :
    run.CacheRunOk := by
  apply reached.invariant
  · rintro ⟨app, held, lastPubIp⟩ ⟨⟨algPorts, pubIpAddrPre, pwrSaveIfs, rfl⟩, rfl, rfl⟩
    refine ⟨⟨?_, ?_⟩, ?_, ?_, ?_⟩
    · intro cnt isUsed
      exact absurd rfl isUsed
    · intro cnt cnt' isUsed
      exact absurd rfl isUsed
    · intro conn isHeld
      cases isHeld
    · intro pubIp isLast
      cases isLast
    · exact fun hdlNe => absurd rfl hdlNe
  · intro run op next runOk stepped
    exact runOk.step stepped.1.1 stepped.1.2 stepped.2

theorem CacheRunOk.not_keepsHeld {rule : NatTableEntry} {cnt : ℤ}
    (condition : ¬run.CacheCondition (.cacheEntry rule cnt)) :
    ¬run.KeepsHeld (.cacheEntry rule cnt) := by
  simp only [CacheCondition, Classical.not_imp] at condition
  rcases condition with ⟨valid, notDup, outside⟩
  rintro ⟨next, ⟨stepped, heldEq, _⟩, heldOk, _⟩
  simp only [NatApp.Step, NatApp.apply, NatApp.cacheEntry, valid, not_true_eq_false, if_false,
    notDup, Bool.false_eq_true] at stepped
  split at stepped
  · cases stepped
  · rename_i inCache
    have passedBy : (run.app.freeSlot 0).isSome ∧ run.app.freeSlot cnt.toNat = none := by
      rw [← Option.not_isSome_iff_eq_none]
      by_contra found
      rw [not_and, not_not] at found
      exact outside ⟨by omega, by omega, found⟩
    rw [passedBy.2] at stepped
    have sameApp : run.app = next.app := ok.inj stepped
    have isHeld : rule.conn ∈ next.held := by
      rw [heldEq, nextHeld, if_pos ⟨valid, .inr passedBy.1⟩]
      exact List.mem_cons_self
    rcases heldOk rule.conn isHeld with ⟨slot, isConn, _⟩
    rw [← sameApp] at isConn
    exact NatApp.chkForDup_eq_false.mp notDup ⟨slot, isConn⟩

/-- In every run whose searches for an unused slot meet the condition, every connection that is held
is in exactly one slot, and exactly such operations keep this. -/
theorem reachable_heldOk
    (reached : Run.Reachable IsInit
      (Run.Guarded (fun run op => run.AddsSucceed op ∧ run.CacheCondition op) Step) run) :
    run.HeldOk ∧ ∀ op, run.AddsSucceed op → (run.KeepsHeld op ↔ run.CacheCondition op) := by
  have runOk := reachable_cacheRunOk reached
  refine ⟨runOk.heldOk, ?_⟩
  intro op adds
  constructor
  · intro keeps
    by_contra condition
    cases op with
    | cacheEntry rule cnt => exact CacheRunOk.not_keepsHeld condition keeps
    | _ => exact condition trivial
  · intro condition
    rcases runOk.apply adds condition with ⟨next, stepped, nextOk⟩
    exact ⟨next, stepped, nextOk.heldOk, runOk.programs adds stepped⟩

theorem Step.of_apply (applied : run.app.Step op app) :
    run.Step op ⟨app, run.nextHeld op, run.nextLastPubIp op⟩ := ⟨applied, rfl, rfl⟩

def created : CacheRun 2 := ⟨.init [] 0 fun _ => 0, [], none⟩

theorem created_isInit : created.IsInit := ⟨⟨[], 0, fun _ => 0, rfl⟩, rfl, rfl⟩

theorem allAdded_succ : NatApp.AllAdded .initial fun cnt => some (cnt + 1) := by
  refine ⟨(· + 1), Nat.succ_injective, ?_⟩
  intro cnt
  exact ⟨rfl, Nat.succ_ne_zero cnt, by rintro held ⟨⟩⟩

theorem reachable_heldOk_restore :
    ∃ run : CacheRun 2, run.held = [NatTableEntry.tcpSample.conn] ∧ (run.app.cache 0).enabled ∧
      run.HeldOk ∧ ∀ op, run.AddsSucceed op → (run.KeepsHeld op ↔ run.CacheCondition op) := by
  have up : Run.Reachable IsInit
      (Run.Guarded (fun run op => run.AddsSucceed op ∧ run.CacheCondition op) Step) _ :=
    .next (.addTable 7 true fun cnt => some (cnt + 1)) (.start created_isInit)
      ⟨⟨allAdded_succ, trivial⟩, .of_apply rfl⟩
  have down : Run.Reachable IsInit
      (Run.Guarded (fun run op => run.AddsSucceed op ∧ run.CacheCondition op) Step) _ :=
    .next (.deleteTable 7 true) up ⟨⟨trivial, trivial⟩, .of_apply rfl⟩
  have arrived : Run.Reachable IsInit
      (Run.Guarded (fun run op => run.AddsSucceed op ∧ run.CacheCondition op) Step) _ :=
    .next (.cacheEntry .tcpSample 0) down
      ⟨⟨trivial, fun _ _ => ⟨by decide, by decide, by decide⟩⟩, .of_apply rfl⟩
  have upAgain : Run.Reachable IsInit
      (Run.Guarded (fun run op => run.AddsSucceed op ∧ run.CacheCondition op) Step) _ :=
    .next (.addTable 7 true fun cnt => some (cnt + 1)) arrived
      ⟨⟨allAdded_succ, trivial⟩, .of_apply rfl⟩
  exact ⟨_, rfl, rfl, reachable_heldOk upAgain⟩

/-- The search of `CacheEntry` starts at the end of the cache: the connection that arrives is not
stored although every slot is unused. -/
theorem cacheEntry_not_keepsHeld :
    created.AddsSucceed (.cacheEntry .tcpSample 2) ∧
      created.Step (.cacheEntry .tcpSample 2) ⟨created.app, [NatTableEntry.tcpSample.conn], none⟩ ∧
        (∀ cnt, (created.app.cache cnt).conn = .unused) ∧
          ¬created.KeepsHeld (.cacheEntry .tcpSample 2) := by
  refine ⟨trivial, ⟨rfl, rfl, rfl⟩, fun _ => rfl, ?_⟩
  apply CacheRunOk.not_keepsHeld
  intro condition
  exact absurd ((condition (by decide) rfl).2.2 rfl) (by decide)

end Runs

end CacheRun

end HtcPme.Ipacm
