import HtcPme.Ipacm.NatAppTemp

/-!
# Temporary entries that come into the cache

A temporary entry whose address is flushed is added to the cache and leaves the list, if the cache
takes it.
-/

namespace HtcPme.Ipacm

open Function (update update_of_ne update_self)

variable {maxEntries : ℕ}

variable {conn : Conn}

theorem Conn.Valid.used (valid : conn.Valid) : conn.Used := by
  rintro ⟨isZero, -⟩
  exact valid (.inl isZero)

theorem Drops.was_cached {dropped : Conn → Prop} {cache next : Fin maxEntries → NatTableEntry}
    (drops : Drops dropped cache next) (isUsed : conn ≠ .unused)
    (isCached : Cached next conn) : Cached cache conn := by
  rcases isCached with ⟨cnt, rfl⟩
  rcases drops cnt with same | ⟨isUnused, -⟩
  · exact ⟨cnt, same.symm⟩
  · exact absurd isUnused isUsed

theorem cached_update {cache : Fin maxEntries → NatTableEntry} {cnt : Fin maxEntries}
    {entry : NatTableEntry} (isCached : Cached (update cache cnt entry) conn) :
    Cached cache conn ∨ conn = entry.conn := by
  rcases isCached with ⟨slot, rfl⟩
  by_cases same : slot = cnt
  · rw [same, update_self]
    exact .inr rfl
  · rw [update_of_ne same]
    exact .inl ⟨slot, rfl⟩

def TempClears (temp next : Fin maxTempEntries → NatTableEntry) : Prop :=
  ∀ cnt, next cnt = temp cnt ∨ next cnt = .zero

namespace TempClears

variable {temp temp' next : Fin maxTempEntries → NatTableEntry}

theorem refl (temp : Fin maxTempEntries → NatTableEntry) : TempClears temp temp := fun _ => .inl rfl

theorem trans (first : TempClears temp temp') (second : TempClears temp' next) :
    TempClears temp next := by
  intro cnt
  rcases second cnt with same | isZero
  · rw [same]
    exact first cnt
  · exact .inr isZero

theorem clear (temp : Fin maxTempEntries → NatTableEntry) (cnt : Fin maxTempEntries) :
    TempClears temp (update temp cnt .zero) := by
  intro slot
  by_cases same : slot = cnt
  · rw [same, update_self]
    exact .inr rfl
  · rw [update_of_ne same]
    exact .inl rfl

end TempClears

namespace NatApp

def Waits (app : NatApp maxEntries) (conn : Conn) : Prop := ∃ cnt, (app.temp cnt).conn = conn

def Apart (app : NatApp maxEntries) : Prop :=
  ∀ conn, conn ≠ .unused → app.Waits conn → ¬Cached app.cache conn

structure Flushes (app : NatApp maxEntries) (ipAddr : BitVec 32) (entry : NatTableEntry) :
    Prop where
  isMatch : entry.privateIp = ipAddr ∨ entry.targetIp = ipAddr
  publicIp : entry.publicIp = app.pubIpAddr
  natTableHdl : app.natTableHdl ≠ 0
  valid : entry.conn.Valid

variable {app next : NatApp maxEntries} {conn : Conn} {rule : NatTableEntry} {answer : Option ℕ}
  {cnt : ℤ} {ipAddr : BitVec 32} {isAdd : Bool} {answers : ℕ → Option ℕ}

theorem addEntry_cache (app : NatApp maxEntries) (rule : NatTableEntry) (answer : Option ℕ) :
    (app.addEntry rule answer).2.cache = app.cache ∨
      ((app.addEntry rule answer).1 = 0 ∧ app.natTableHdl ≠ 0 ∧ rule.conn.Valid ∧
        ∃ cnt entry, (app.addEntry rule answer).2.cache = update app.cache cnt entry ∧
          entry.conn = rule.conn) := by
  unfold addEntry
  split
  · exact .inl rfl
  · rename_i hasTable
    split
    · exact .inl rfl
    · split
      · exact .inl rfl
      · rename_i valid
        split
        · exact .inl rfl
        · split
          · exact .inl rfl
          · dsimp only
            split
            · exact .inr ⟨rfl, hasTable, not_not.mp valid, _, _, rfl, rfl⟩
            · split
              · exact .inl rfl
              · exact .inr ⟨rfl, hasTable, not_not.mp valid, _, _, rfl, rfl⟩

theorem cached_addEntry (isCached : Cached (app.addEntry rule answer).2.cache conn) :
    Cached app.cache conn ∨ ((app.addEntry rule answer).1 = 0 ∧ app.natTableHdl ≠ 0 ∧
      rule.conn.Valid ∧ conn = rule.conn) := by
  rcases app.addEntry_cache rule answer with same |
    ⟨isAdded, hasTable, valid, _, _, cacheEq, isConn⟩
  · rw [same] at isCached
    exact .inl isCached
  · rw [cacheEq] at isCached
    rcases cached_update isCached with wasCached | isNew
    · exact .inl wasCached
    · exact .inr ⟨isAdded, hasTable, valid, isNew.trans isConn⟩

theorem cached_cacheEntry (stored : app.cacheEntry rule cnt = .ok next)
    (isCached : Cached next.cache conn) :
    Cached app.cache conn ∨ rule.conn.Valid ∧ conn = rule.conn := by
  unfold cacheEntry at stored
  split at stored
  · cases stored
    exact .inl isCached
  · rename_i valid
    split at stored
    · cases stored
      exact .inl isCached
    · split at stored
      · cases stored
      · split at stored
        · cases stored
          exact .inl isCached
        · cases stored
          exact (cached_update isCached).imp_right fun isNew => ⟨not_not.mp valid, isNew⟩

structure FlushVisited (start : NatApp maxEntries) (ipAddr : BitVec 32) (isAdd : Bool)
    (visited : ℕ) (cur : NatApp maxEntries) : Prop where
  sameTable : SameTable start cur
  clears : TempClears start.temp cur.temp
  later : ∀ cnt : Fin maxTempEntries, visited ≤ cnt → cur.temp cnt = start.temp cnt
  cached : ∀ conn, Cached cur.cache conn → Cached start.cache conn ∨
    isAdd = true ∧ ∃ cnt : Fin maxTempEntries, cnt < visited ∧
      start.Flushes ipAddr (start.temp cnt) ∧ (start.temp cnt).conn = conn ∧ cur.temp cnt = .zero

theorem FlushVisited.start (app : NatApp maxEntries) : FlushVisited app ipAddr isAdd 0 app :=
  ⟨.refl app, .refl app.temp, fun _ _ => rfl, fun _ isCached => .inl isCached⟩

variable {start cur : NatApp maxEntries}

theorem temp_setTemp (app : NatApp maxEntries) (cnt : Fin maxTempEntries) (entry : NatTableEntry) :
    (app.setTemp cnt entry).temp = update app.temp cnt entry := rfl

theorem sameTable_setTemp (app : NatApp maxEntries) (cnt : Fin maxTempEntries)
    (entry : NatTableEntry) : SameTable app (app.setTemp cnt entry) :=
  ⟨rfl, rfl, rfl, rfl⟩

variable {slot : Fin maxTempEntries}

theorem FlushVisited.clear (visited : FlushVisited start ipAddr isAdd slot cur) :
    FlushVisited start ipAddr isAdd (slot + 1) (cur.setTemp slot .zero) where
  sameTable := visited.sameTable.trans (cur.sameTable_setTemp slot .zero)
  clears := visited.clears.trans (.clear cur.temp slot)
  later := by
    intro other isLater
    have differs : other ≠ slot := by
      rintro rfl
      omega
    rw [temp_setTemp, update_of_ne differs]
    exact visited.later other (by omega)
  cached := by
    intro conn isCached
    rcases visited.cached conn isCached with wasCached |
      ⟨adds, other, isVisited, flushes, isConn, isZero⟩
    · exact .inl wasCached
    · have differs : other ≠ slot := by
        rintro rfl
        omega
      refine .inr ⟨adds, other, by omega, flushes, isConn, ?_⟩
      rw [temp_setTemp, update_of_ne differs]
      exact isZero

theorem FlushVisited.add (visited : FlushVisited start ipAddr isAdd slot cur) (adds : isAdd = true)
    (isMatch : (cur.temp slot).privateIp = ipAddr ∨ (cur.temp slot).targetIp = ipAddr)
    (publicIp : (cur.temp slot).publicIp = cur.pubIpAddr) (answer : Option ℕ)
    (isNext : next = if (cur.addEntry (cur.temp slot) answer).1 ≠ 0 then
      (cur.addEntry (cur.temp slot) answer).2
      else (cur.addEntry (cur.temp slot) answer).2.setTemp slot .zero) :
    FlushVisited start ipAddr isAdd (slot + 1) next := by
  have sameEntry := visited.later slot (Nat.le_refl _)
  have sameTemp := cur.temp_addEntry (cur.temp slot) answer
  have sameTable := visited.sameTable.trans (cur.sameTable_addEntry (cur.temp slot) answer)
  have flushes (hasTable : cur.natTableHdl ≠ 0) (valid : (cur.temp slot).conn.Valid) :
      start.Flushes ipAddr (start.temp slot) := by
    rw [sameEntry] at isMatch publicIp valid
    rw [visited.sameTable.natTableHdl] at hasTable
    rw [visited.sameTable.pubIpAddr] at publicIp
    exact ⟨isMatch, publicIp, hasTable, valid⟩
  by_cases isAdded : (cur.addEntry (cur.temp slot) answer).1 = 0
  · rw [if_neg (not_not.mpr isAdded)] at isNext
    have cleared := visited.clear
    subst isNext
    refine ⟨sameTable.trans (sameTable_setTemp _ slot .zero), ?_, ?_, ?_⟩
    · rw [temp_setTemp, sameTemp]
      exact cleared.clears
    · intro other isLater
      rw [temp_setTemp, sameTemp]
      exact cleared.later other isLater
    · intro conn isCached
      rcases cached_addEntry isCached with wasCached | ⟨-, hasTable, valid, rfl⟩
      · rw [temp_setTemp, sameTemp]
        exact cleared.cached conn wasCached
      · refine .inr ⟨adds, slot, by omega, flushes hasTable valid, by rw [sameEntry], ?_⟩
        rw [temp_setTemp, update_self]
  · rw [if_pos isAdded] at isNext
    subst isNext
    refine ⟨sameTable, ?_, ?_, ?_⟩
    · rw [sameTemp]
      exact visited.clears
    · intro other isLater
      rw [sameTemp]
      exact visited.later other (by omega)
    · intro conn isCached
      rcases cached_addEntry isCached with wasCached | ⟨isAdded', -⟩
      · rcases visited.cached conn wasCached with wasCached | ⟨_, other, isVisited, flushed⟩
        · exact .inl wasCached
        · rw [sameTemp]
          exact .inr ⟨adds, other, by omega, flushed⟩
      · exact absurd isAdded' isAdded

theorem flushVisited (app : NatApp maxEntries) (ipAddr : BitVec 32) (isAdd : Bool)
    (answers : ℕ → Option ℕ) :
    FlushVisited app ipAddr isAdd maxTempEntries (app.flushTempEntries ipAddr isAdd answers) := by
  apply SlotLoop.forEach_induct (FlushVisited app ipAddr isAdd)
  · exact .start app
  · intro slot cur visited
    unfold flushTempSlot
    split
    · rename_i isMatch
      split
      · rename_i both
        exact visited.add both.1 isMatch both.2 (answers slot) rfl
      · exact visited.clear
    · exact ⟨visited.sameTable, visited.clears, fun other isLater => visited.later other (by omega),
        fun conn isCached => (visited.cached conn isCached).imp_right
          fun ⟨adds, other, isVisited, flushed⟩ => ⟨adds, other, by omega, flushed⟩⟩

structure TempsOk (app : NatApp maxEntries) : Prop where
  entriesOk : app.EntriesOk
  apart : app.Apart
  foreign : ∀ cnt, (app.temp cnt).privateIp ≠ 0 → (app.temp cnt).privateIp ≠ (app.temp cnt).publicIp

/-- What is stored does not wait, and what is to wait is not for its own public address. -/
def TempCondition (app : NatApp maxEntries) : NatAppOp → Prop
  | .addEntry rule _ => app.natTableHdl ≠ 0 → rule.conn.Valid → ¬app.Waits rule.conn
  | .cacheEntry rule _ => rule.conn.Valid → ¬app.Waits rule.conn
  | .addTempEntry newEntry => newEntry.privateIp ≠ newEntry.publicIp
  | _ => True

theorem Waits.of_clears (clears : TempClears app.temp next.temp) (isUsed : conn ≠ .unused)
    (waits : next.Waits conn) : app.Waits conn := by
  rcases waits with ⟨cnt, rfl⟩
  rcases clears cnt with same | isZero
  · exact ⟨cnt, by rw [same]⟩
  · rw [isZero] at isUsed
    exact absurd rfl isUsed

theorem TempsOk.of_clears (isOk : app.TempsOk) (entriesOk : next.EntriesOk)
    (clears : TempClears app.temp next.temp)
    (cached : ∀ conn, conn ≠ .unused → next.Waits conn → Cached next.cache conn →
      Cached app.cache conn) : next.TempsOk where
  entriesOk := entriesOk
  apart := by
    intro conn isUsed waits isCached
    exact isOk.apart conn isUsed (.of_clears clears isUsed waits)
      (cached conn isUsed waits isCached)
  foreign := by
    intro cnt isSet
    rcases clears cnt with same | isZero
    · rw [same] at isSet ⊢
      exact isOk.foreign cnt isSet
    · rw [isZero] at isSet
      exact absurd rfl isSet

theorem TempsOk.of_drops (isOk : app.TempsOk) (entriesOk : next.EntriesOk)
    {dropped : Conn → Prop} (drops : Drops dropped app.cache next.cache)
    (sameTemp : next.temp = app.temp) : next.TempsOk :=
  isOk.of_clears entriesOk (sameTemp ▸ .refl app.temp)
    fun _ isUsed _ isCached => drops.was_cached isUsed isCached

theorem TempsOk.flushTempEntries (isOk : app.TempsOk) (entriesOk : next.EntriesOk)
    (flushed : app.flushTempEntries ipAddr isAdd answers = next) : next.TempsOk := by
  have visited := flushVisited app ipAddr isAdd answers
  rw [flushed] at visited
  apply isOk.of_clears entriesOk visited.clears
  rintro conn isUsed ⟨cnt, rfl⟩ isCached
  rcases visited.cached _ isCached with wasCached | ⟨-, other, -, flushes, isConn, isZero⟩
  · exact wasCached
  · have kept : next.temp cnt = app.temp cnt := by
      rcases visited.clears cnt with same | isZero
      · exact same
      · rw [isZero] at isUsed
        exact absurd rfl isUsed
    rw [kept] at isConn
    have same := isOk.entriesOk.tempOk other cnt flushes.valid.used isConn
    rw [← same, isZero] at isUsed
    exact absurd rfl isUsed

theorem clears_deleteTempEntry (app : NatApp maxEntries) (entry : NatTableEntry) :
    TempClears app.temp (app.deleteTempEntry entry).temp := by
  rw [deleteTempEntry_temp]
  split
  · exact .refl app.temp
  · exact .clear app.temp _

theorem TempsOk.addTempEntry (isOk : app.TempsOk) {newEntry : NatTableEntry}
    (entriesOk : (app.addTempEntry newEntry).EntriesOk)
    (foreign : newEntry.privateIp ≠ newEntry.publicIp) : (app.addTempEntry newEntry).TempsOk := by
  refine ⟨entriesOk, ?_, ?_⟩
  · rintro conn isUsed ⟨cnt, rfl⟩ isCached
    rw [cache_addTempEntry] at isCached
    rcases app.addTempEntry_cases newEntry with same | ⟨free, -, -, notCached, stored⟩
    · rw [same] at isUsed isCached
      exact isOk.apart _ isUsed ⟨cnt, rfl⟩ isCached
    · rw [stored, temp_setTemp] at isUsed isCached
      by_cases isFree : cnt = free
      · rw [isFree, update_self] at isCached
        exact notCached isCached
      · rw [update_of_ne isFree] at isUsed isCached
        exact isOk.apart _ isUsed ⟨cnt, rfl⟩ isCached
  · intro cnt isSet
    rcases app.addTempEntry_cases newEntry with same | ⟨free, -, -, -, stored⟩
    · rw [same] at isSet ⊢
      exact isOk.foreign cnt isSet
    · rw [stored, temp_setTemp] at isSet ⊢
      by_cases isFree : cnt = free
      · rw [isFree, update_self]
        exact foreign
      · rw [update_of_ne isFree] at isSet ⊢
        exact isOk.foreign cnt isSet

theorem TempsOk.apply (isOk : app.TempsOk) {op : NatAppOp} (condition : app.TempCondition op)
    (applied : app.apply op = .ok next) : next.TempsOk := by
  have entriesOk := isOk.entriesOk.apply applied
  cases op with
  | addTable pubIp created answers =>
      cases applied
      exact isOk.of_drops entriesOk (app.drops_addTable pubIp created answers)
        (app.temp_addTable pubIp created answers)
  | deleteTable pubIp deleted =>
      cases applied
      exact isOk.of_drops entriesOk (app.drops_deleteTable pubIp deleted)
        (app.temp_deleteTable pubIp deleted)
  | addEntry rule answer =>
      cases applied
      have sameTemp := app.temp_addEntry rule answer
      apply isOk.of_clears entriesOk (sameTemp ▸ .refl app.temp)
      intro conn isUsed waits isCached
      rcases cached_addEntry isCached with wasCached | ⟨-, hasTable, valid, rfl⟩
      · exact wasCached
      · rw [Waits, sameTemp] at waits
        exact absurd waits (condition hasTable valid)
  | deleteEntry rule deleted =>
      cases applied
      exact isOk.of_drops entriesOk (app.drops_deleteEntry rule deleted)
        (app.temp_deleteEntry rule deleted)
  | cacheEntry rule cnt =>
      have sameTemp := temp_cacheEntry app applied
      apply isOk.of_clears entriesOk (sameTemp ▸ .refl app.temp)
      intro conn isUsed waits isCached
      rcases cached_cacheEntry applied isCached with wasCached | ⟨valid, rfl⟩
      · exact wasCached
      · rw [Waits, sameTemp] at waits
        exact absurd waits (condition valid)
  | updatePwrSaveIf clientLanIp deleted =>
      cases applied
      exact isOk.of_drops entriesOk (app.drops_updatePwrSaveIf clientLanIp deleted)
        (app.temp_updatePwrSaveIf clientLanIp deleted)
  | resetPwrSaveIf clientLanIp answers =>
      cases applied
      exact isOk.of_drops entriesOk (app.drops_resetPwrSaveIf clientLanIp answers)
        (app.temp_resetPwrSaveIf clientLanIp answers)
  | delEntriesOnClntDiscon ipAddr deleted =>
      cases applied
      exact isOk.of_drops entriesOk (app.drops_delEntriesOnClntDiscon ipAddr deleted)
        (app.temp_delEntriesOnClntDiscon ipAddr deleted)
  | delEntriesOnSTAClntDiscon ipAddr deleted =>
      cases applied
      exact isOk.of_drops entriesOk (app.drops_delEntriesOnSTAClntDiscon ipAddr deleted)
        (app.temp_delEntriesOnSTAClntDiscon ipAddr deleted)
  | addTempEntry newEntry =>
      cases applied
      exact isOk.addTempEntry entriesOk condition
  | deleteTempEntry entry =>
      cases applied
      apply isOk.of_clears entriesOk (app.clears_deleteTempEntry entry)
      intro conn _ _ isCached
      rwa [cache_deleteTempEntry] at isCached
  | flushTempEntries ipAddr isAdd answers =>
      exact isOk.flushTempEntries entriesOk (Except.ok.inj applied)

theorem TempsOk.init (algPorts : List IpacmAlg) (pubIpAddrPre : BitVec 32)
    (pwrSaveIfs : Fin ipaMaxNumWifiClients → BitVec 32) :
    (NatApp.init algPorts pubIpAddrPre pwrSaveIfs : NatApp maxEntries).TempsOk where
  entriesOk := .init
  apart := by
    rintro conn isUsed ⟨cnt, rfl⟩
    exact absurd rfl isUsed
  foreign := fun cnt isSet => absurd rfl isSet

end NatApp

end HtcPme.Ipacm
