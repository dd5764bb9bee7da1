import HtcPme.Ipacm.CtTeardown
import HtcPme.Ipacm.NatAppPromote

/-!
# Connections that wait for a table of the listener

A connection whose addresses the tables do not know yet waits in the temporary list.
-/

namespace HtcPme.Ipacm

open Option

variable {maxEntries : ℕ}

def NatAppOp.StoresNone : NatAppOp → Prop
  | .addEntry _ _ | .cacheEntry _ _ | .addTempEntry _ => False
  | .flushTempEntries _ isAdd _ => isAdd = false
  | _ => True

namespace NatApp

variable {app next : NatApp maxEntries} {op : NatAppOp} {conn : Conn}

theorem tempCondition_of_storesNone (storesNone : op.StoresNone) : app.TempCondition op := by
  cases op <;> first | exact trivial | exact storesNone.elim

theorem was_cached_of_storesNone (storesNone : op.StoresNone) (applied : app.apply op = .ok next)
    (isUsed : conn ≠ .unused) (isCached : Cached next.cache conn) : Cached app.cache conn := by
  cases op with
  | addTable pubIp created answers =>
      cases applied
      exact (app.drops_addTable pubIp created answers).was_cached isUsed isCached
  | deleteTable pubIp deleted =>
      cases applied
      exact (app.drops_deleteTable pubIp deleted).was_cached isUsed isCached
  | addEntry rule answer | cacheEntry rule cnt | addTempEntry newEntry => exact storesNone.elim
  | deleteEntry rule deleted =>
      cases applied
      exact (app.drops_deleteEntry rule deleted).was_cached isUsed isCached
  | updatePwrSaveIf clientLanIp deleted =>
      cases applied
      exact (app.drops_updatePwrSaveIf clientLanIp deleted).was_cached isUsed isCached
  | resetPwrSaveIf clientLanIp answers =>
      cases applied
      exact (app.drops_resetPwrSaveIf clientLanIp answers).was_cached isUsed isCached
  | delEntriesOnClntDiscon ipAddr deleted =>
      cases applied
      exact (app.drops_delEntriesOnClntDiscon ipAddr deleted).was_cached isUsed isCached
  | delEntriesOnSTAClntDiscon ipAddr deleted =>
      cases applied
      exact (app.drops_delEntriesOnSTAClntDiscon ipAddr deleted).was_cached isUsed isCached
  | deleteTempEntry entry =>
      cases applied
      rwa [cache_deleteTempEntry] at isCached
  | flushTempEntries ipAddr isAdd answers =>
      have flushed : app.flushTempEntries ipAddr isAdd answers = next := Except.ok.inj applied
      have visited := flushVisited app ipAddr isAdd answers
      rw [flushed] at visited
      rcases visited.cached conn isCached with wasCached | ⟨adds, -⟩
      · exact wasCached
      · exact absurd (storesNone.symm.trans adds) (by decide)

end NatApp

namespace CtListener

/-- `ProcessTCPorUDPMsg` would add the connection of an entry. -/
structure Adds (listener : CtListener maxEntries) (entry : NatTableEntry) : Prop where
  natIface : listener.isNatIface entry = true
  staClnt : listener.staMatch entry.targetIp ≠ .notFound
  classify : ∀ msg dstNat, natStatus listener.wanIpaddr msg = some dstNat →
    (msg.tuples.rule dstNat).conn = entry.conn →
      ∃ rule, listener.classify msg = some (rule, false) ∧ rule.conn = entry.conn

def TempsApart (listener : CtListener maxEntries) : Prop :=
  ∀ natInst, listener.natInst = some natInst → natInst.Apart

def HasCached (listener : CtListener maxEntries) (conn : Conn) : Prop :=
  ∃ natInst, listener.natInst = some natInst ∧ Cached natInst.cache conn

structure Promotes (listener : CtListener maxEntries) (event : CtEvent)
    (next : CtListener maxEntries) (entry : NatTableEntry) : Prop where
  notMessage : ∀ msg cnt answer deleted, event ≠ .processCTMessage msg cnt answer deleted
  waits : ∃ natInst, listener.natInst = some natInst ∧ ∃ cnt, natInst.temp cnt = entry
  isUsed : entry.conn ≠ .unused
  notCached : ¬listener.HasCached entry.conn
  cached : next.HasCached entry.conn

def PromotesOk (listener : CtListener maxEntries) (event : CtEvent) : Prop :=
  ∀ next, listener.handle event = .ok next →
    ∀ entry, listener.Promotes event next entry → next.Adds entry

/-- The listener after `HandleSTAClientAddEvt` has stored an address. -/
def withStaClnt (listener : CtListener maxEntries) (clntIpAddr : BitVec 32) :
    CtListener maxEntries :=
  match storeAddr clntIpAddr listener.staClntIpv4Addr with
  | some (true, slots) =>
      { listener with staClntIpv4Addr := slots, staClntCnt := listener.staClntCnt + 1 }
  | _ => listener

/-- A connection that a message stores does not wait, and an entry that a neighbour or an STA client
makes go waits for no other table. -/
def PromoteCondition (listener : CtListener maxEntries) : CtEvent → Prop
  | .processCTMessage msg _ _ _ =>
      ∀ natInst, listener.natInst = some natInst →
        ∀ rule isTempEntry, listener.classify msg = some (rule, isTempEntry) →
          msg.action = .start → rule.conn.Valid →
            (listener.wanUp = true → isTempEntry = false ∧ natInst.natTableHdl ≠ 0) →
              ¬natInst.Waits rule.conn
  | .handleNeighIpAddrAddEvt ipv4Addr isIpv4 (some (natIfaces, ifrName)) _ =>
      ipv4Addr ≠ 0 → isIpv4 = true → ifrName ∈ natIfaces →
        ∀ natInst, listener.natInst = some natInst →
          ∀ slots, storeAddr ipv4Addr listener.natIfaceIpv4Addr = some (true, slots) →
            ∀ cnt, natInst.Flushes ipv4Addr (natInst.temp cnt) →
              listener.staMatch (natInst.temp cnt).targetIp ≠ .notFound
  | .staEvent (.handleSTAClientAddEvt clntIpAddr _) =>
      listener.staClntCnt < maxStaClntIfaces → ∀ natInst, listener.natInst = some natInst →
        ∀ cnt, natInst.Flushes clntIpAddr (natInst.temp cnt) →
          listener.isNatIface (natInst.temp cnt) = true ∧
            (listener.withStaClnt clntIpAddr).staMatch (natInst.temp cnt).targetIp ≠ .notFound
  | _ => True

/-- What every event that meets the condition keeps. While there is a table, it has the address of
the WAN. -/
structure PromoteOk (listener : CtListener maxEntries) : Prop where
  tempsOk : ∀ natInst, listener.natInst = some natInst → natInst.TempsOk
  pubIp : maxEntries ≠ 0 → ∀ natInst, listener.natInst = some natInst → natInst.natTableHdl ≠ 0 →
    natInst.pubIpAddr = listener.wanIpaddr

variable {listener mid next : CtListener maxEntries} {op : NatAppOp} {conn : Conn}
  {entry rule : NatTableEntry} {msg : CtMessage} {isTempEntry : Bool}

theorem Adds.of_known (natIface : listener.isNatIface entry = true)
    (staClnt : listener.staMatch entry.targetIp ≠ .notFound)
    (notWan : entry.privateIp ≠ listener.wanIpaddr) : listener.Adds entry := by
  refine ⟨natIface, staClnt, ?_⟩
  intro msg dstNat hasStatus sameConn
  have privateIp : (msg.tuples.rule dstNat).privateIp = entry.privateIp :=
    congrArg Conn.privateIp sameConn
  have targetIp : (msg.tuples.rule dstNat).targetIp = entry.targetIp :=
    congrArg Conn.targetIp sameConn
  have isNat : listener.isNatIface (msg.tuples.rule dstNat) = true := by
    rwa [isNatIface, privateIp, targetIp]
  have admitted : listener.admitRule (msg.tuples.rule dstNat) =
      some (msg.tuples.rule dstNat, false) := by
    rw [admitRule, if_pos (by rwa [privateIp]), if_pos isNat]
  refine ⟨{ msg.tuples.rule dstNat with publicIp := listener.wanIpaddr }, ?_, sameConn⟩
  simp [CtListener.classify, hasStatus, admitted, targetIp, staClnt]

theorem foreign_of_classify (classified : listener.classify msg = some (rule, true)) :
    rule.privateIp ≠ rule.publicIp := by
  simp only [classify, bind_eq_bind, bind_eq_some_iff] at classified
  rcases classified with ⟨dstNat, -, ⟨admitted, isTemp⟩, isAdmitted, classified⟩
  have both := Prod.mk.inj (some.inj classified)
  rw [← both.1]
  have fst := admitRule_fst isAdmitted
  by_cases isWan : (msg.tuples.rule dstNat).privateIp = listener.wanIpaddr
  · rw [admitRule, if_neg (not_not.mpr isWan)] at isAdmitted
    split at isAdmitted
    · cases isAdmitted
    · rename_i notSta
      cases isAdmitted
      have notChecked : listener.staMatch (msg.tuples.rule dstNat).targetIp = .notChecked := by
        rw [staMatch, if_pos (.inl (by simpa using notSta))]
      simp [notChecked] at both
  · rw [if_neg isWan] at fst
    rw [fst]
    exact isWan

theorem PromoteOk.congr (isOk : listener.PromoteOk) (natInst : next.natInst = listener.natInst)
    (wanIpaddr : next.wanIpaddr = listener.wanIpaddr) : next.PromoteOk := by
  constructor
  · rw [natInst]
    exact isOk.tempsOk
  · rw [natInst, wanIpaddr]
    exact isOk.pubIp

theorem PromoteOk.of_onNat (isOk : listener.PromoteOk) (applied : listener.onNat op = .ok next)
    (sameTable : ¬op.ChangesTable)
    (condition : ∀ natInst, listener.natInst = some natInst → natInst.TempCondition op) :
    next.PromoteOk := by
  rcases onNat_eq_ok.mp applied with ⟨before, after, isBefore, stepped, rfl⟩
  have same := NatApp.Step.sameTable stepped sameTable
  constructor
  · rintro natInst ⟨⟩
    exact (isOk.tempsOk before isBefore).apply (condition before isBefore) stepped
  · rintro hasSlots natInst ⟨⟩ hasTable
    rw [same.natTableHdl] at hasTable
    rw [same.pubIpAddr]
    exact isOk.pubIp hasSlots before isBefore hasTable

structure Quiet (listener next : CtListener maxEntries) : Prop where
  isOk : next.PromoteOk
  cached : ∀ conn, conn ≠ .unused → next.HasCached conn → listener.HasCached conn

theorem PromoteOk.quiet (isOk : listener.PromoteOk) : Quiet listener listener :=
  ⟨isOk, fun _ _ => id⟩

theorem Quiet.trans (first : Quiet listener mid) (second : Quiet mid next) :
    Quiet listener next :=
  ⟨second.isOk, fun conn isUsed isCached =>
    first.cached conn isUsed (second.cached conn isUsed isCached)⟩

theorem Quiet.of_same (isOk : listener.PromoteOk) (natInst : next.natInst = listener.natInst)
    (wanIpaddr : next.wanIpaddr = listener.wanIpaddr) : Quiet listener next := by
  refine ⟨isOk.congr natInst wanIpaddr, ?_⟩
  intro conn _ isCached
  rwa [HasCached, natInst] at isCached

theorem Quiet.of_onNat (isOk : listener.PromoteOk) (applied : listener.onNat op = .ok next)
    (sameTable : ¬op.ChangesTable) (storesNone : op.StoresNone) : Quiet listener next := by
  refine ⟨isOk.of_onNat applied sameTable
    fun _ _ => NatApp.tempCondition_of_storesNone storesNone, ?_⟩
  intro conn isUsed isCached
  rcases onNat_eq_ok.mp applied with ⟨before, after, isBefore, stepped, rfl⟩
  rcases isCached with ⟨natInst, ⟨⟩, isCached⟩
  exact ⟨before, isBefore, NatApp.was_cached_of_storesNone storesNone stepped isUsed isCached⟩

theorem Quiet.not_promotes (quiet : Quiet listener next) {event : CtEvent} :
    ¬listener.Promotes event next entry :=
  fun promotes => promotes.notCached (quiet.cached _ promotes.isUsed promotes.cached)

variable {answers : ℕ → Option ℕ} {ipv4Addr : BitVec 32}

section

variable (isOk : listener.PromoteOk)

include isOk

theorem PromoteOk.adds_of_flush {before start : NatApp maxEntries}
    (isBefore : listener.natInst = some before) (isStart : mid.natInst = some start)
    (sameTable : SameTable before start) (sameTemp : start.temp = before.temp)
    (wasCached : ∀ conn, conn ≠ .unused → Cached start.cache conn → Cached before.cache conn)
    {ipAddr : BitVec 32} (flushed : mid.onNat (.flushTempEntries ipAddr true answers) = .ok next)
    (wanIpaddr : mid.wanIpaddr = listener.wanIpaddr) {event : CtEvent}
    (promotes : listener.Promotes event next entry)
    (known : ∀ cnt, before.Flushes ipAddr (before.temp cnt) →
      mid.isNatIface (before.temp cnt) = true ∧
        mid.staMatch (before.temp cnt).targetIp ≠ .notFound) : next.Adds entry := by
  rcases onNat_eq_ok.mp flushed with ⟨start', after, isStart', applied, rfl⟩
  cases isStart.symm.trans isStart'
  have isFlushed : start.flushTempEntries ipAddr true answers = after := Except.ok.inj applied
  have visited := start.flushVisited ipAddr true answers
  rw [isFlushed] at visited
  rcases promotes.waits with ⟨before', isBefore', slot, isEntry⟩
  cases isBefore.symm.trans isBefore'
  rcases promotes.cached with ⟨_, ⟨⟩, isCached⟩
  have hasSlots : maxEntries ≠ 0 := by
    rcases isCached with ⟨cnt, -⟩
    have isLt := cnt.isLt
    omega
  rcases visited.cached _ isCached with wasIn | ⟨-, cnt, -, flushes, isConn, -⟩
  · exact absurd ⟨before, isBefore, wasCached _ promotes.isUsed wasIn⟩ promotes.notCached
  · have flushesBefore : before.Flushes ipAddr (before.temp cnt) := by
      rw [sameTemp] at flushes
      exact ⟨flushes.isMatch, flushes.publicIp.trans sameTable.pubIpAddr,
        sameTable.natTableHdl ▸ flushes.natTableHdl, flushes.valid⟩
    have isSlot : cnt = slot := by
      rw [sameTemp] at isConn
      exact (isOk.tempsOk before isBefore).entriesOk.tempOk cnt slot flushesBefore.valid.used
        (isConn.trans (congrArg NatTableEntry.conn isEntry.symm))
    subst isSlot
    subst isEntry
    rcases known cnt flushesBefore with ⟨natIface, staClnt⟩
    refine Adds.of_known natIface staClnt ?_
    have isSet : (before.temp cnt).privateIp ≠ 0 := fun isZero => flushesBefore.valid (.inl isZero)
    have isForeign := (isOk.tempsOk before isBefore).foreign cnt isSet
    rw [flushesBefore.publicIp, isOk.pubIp hasSlots before isBefore flushesBefore.natTableHdl,
      ← wanIpaddr] at isForeign
    exact isForeign

theorem PromoteOk.processCTMessage {cnt : ℤ} {answer : Option ℕ}
    {deleted : Bool}
    (condition : listener.PromoteCondition (.processCTMessage msg cnt answer deleted))
    (processed : listener.processCTMessage msg cnt answer deleted = .ok next) :
    next.PromoteOk := by
  simp only [CtListener.processCTMessage, CtListener.processTCPorUDPMsg] at processed
  split at processed
  · cases processed
    exact isOk
  · split at processed
    · cases processed
      exact isOk
    · rename_i rule isTempEntry classified
      split at processed
      · cases processed
        exact isOk
      · split at processed
        · rename_i isStart
          simp only [CtListener.startConn] at processed
          split at processed
          · rename_i isDown
            apply isOk.of_onNat processed id
            intro natInst isInst valid
            apply condition natInst isInst rule isTempEntry classified isStart valid
            intro isUp
            simp [isUp] at isDown
          · split at processed
            · rename_i isTemp
              apply isOk.of_onNat processed id
              intro natInst isInst
              rw [isTemp] at classified
              exact foreign_of_classify classified
            · rename_i notTemp
              apply isOk.of_onNat processed id
              intro natInst isInst hasTable valid
              exact condition natInst isInst rule isTempEntry classified isStart valid
                fun _ => ⟨by simpa using notTemp, hasTable⟩
        · rcases except_bind_eq_ok.mp processed with ⟨mid, removed, processed⟩
          have midOk : mid.PromoteOk := isOk.of_onNat removed id fun _ _ => trivial
          exact midOk.of_onNat processed id fun _ _ => trivial
        · cases processed
          exact isOk

theorem PromoteOk.triggerWANUp (ipv4Addr : BitVec 32)
    (isSta created : Bool)
    (answers : ℕ → Option ℕ) :
    Quiet listener { listener with
      toConntrackListener :=
        listener.toConntrackListener.triggerWANUp ipv4Addr isSta created answers } := by
  simp only [ConntrackListener.triggerWANUp]
  split
  · exact isOk.quiet
  · refine ⟨⟨?_, ?_⟩, ?_⟩
    · intro natInst isInst
      rcases map_eq_some_iff.mp isInst with ⟨before, isBefore, rfl⟩
      have applied : before.apply (.addTable ipv4Addr created answers) = .ok _ := rfl
      refine (isOk.tempsOk before isBefore).apply ?_ applied
      exact trivial
    · intro hasSlots natInst isInst hasTable
      rcases map_eq_some_iff.mp isInst with ⟨before, isBefore, rfl⟩
      exact NatApp.addTable_pubIpAddr hasSlots hasTable
    · rintro conn isUsed ⟨natInst, isInst, isCached⟩
      rcases map_eq_some_iff.mp isInst with ⟨before, isBefore, rfl⟩
      exact ⟨before, isBefore,
        (before.drops_addTable ipv4Addr created answers).was_cached isUsed isCached⟩

theorem PromoteOk.triggerWANDown (wanAddr : BitVec 32)
    (deleted : Bool) :
    Quiet listener { listener with
      toConntrackListener := listener.toConntrackListener.triggerWANDown wanAddr deleted } := by
  refine ⟨⟨?_, ?_⟩, ?_⟩
  · intro natInst isInst
    rcases map_eq_some_iff.mp isInst with ⟨before, isBefore, rfl⟩
    have applied : before.apply (.deleteTable wanAddr deleted) = .ok _ := rfl
    refine (isOk.tempsOk before isBefore).apply ?_ applied
    exact trivial
  · intro hasSlots natInst isInst hasTable
    rcases map_eq_some_iff.mp isInst with ⟨before, isBefore, rfl⟩
    have same := NatApp.deleteTable_of_hdl hasTable
    rw [same] at hasTable ⊢
    exact isOk.pubIp hasSlots before isBefore hasTable
  · rintro conn isUsed ⟨natInst, isInst, isCached⟩
    rcases map_eq_some_iff.mp isInst with ⟨before, isBefore, rfl⟩
    exact ⟨before, isBefore, (before.drops_deleteTable wanAddr deleted).was_cached isUsed isCached⟩

theorem PromoteOk.addNonnatIface (added : listener.addNonnatIface ipv4Addr answers = .ok next) :
    Quiet listener next := by
  simp only [CtListener.addNonnatIface] at added
  split at added
  · cases added
    exact isOk.quiet
  · rename_i slots stored
    have isStored : Quiet listener { listener with nonnatIfaceIpv4Addr := slots } :=
      .of_same isOk rfl rfl
    exact isStored.trans (.of_onNat isStored.isOk added id rfl)

end

theorem mem_of_storeAddr {addr : BitVec 32} {slots stored : List (BitVec 32)}
    (isStored : storeAddr addr slots = some (true, stored)) : addr ∈ stored := by
  induction slots generalizing stored with
  | nil => cases isStored
  | cons slot slots ih =>
      rw [storeAddr] at isStored
      split at isStored
      · cases isStored
      · split at isStored
        · cases isStored
          exact List.mem_cons_self
        · rcases map_eq_some_iff.mp isStored with ⟨⟨isNew, rest⟩, inRest, isStored⟩
          cases isStored
          exact List.mem_cons_of_mem _ (ih inRest)

theorem isNatIface_of_mem {addr : BitVec 32} (isStored : addr ∈ listener.natIfaceIpv4Addr)
    (isAddr : addr ≠ 0) (isMatch : entry.privateIp = addr ∨ entry.targetIp = addr) :
    listener.isNatIface entry = true := by
  rw [isNatIface, List.any_eq_true]
  exact ⟨addr, isStored, decide_eq_true ⟨isAddr, isMatch⟩⟩

section

variable (isOk : listener.PromoteOk)

include isOk

theorem PromoteOk.addNatIface
    {answers : ℕ → ℕ → Option ℕ} {isNatIface : Bool} (isAddr : ipv4Addr ≠ 0)
    (condition : ∀ natInst, listener.natInst = some natInst →
      ∀ slots, storeAddr ipv4Addr listener.natIfaceIpv4Addr = some (true, slots) →
        ∀ cnt, natInst.Flushes ipv4Addr (natInst.temp cnt) →
          listener.staMatch (natInst.temp cnt).targetIp ≠ .notFound)
    (added : listener.addNatIface ipv4Addr answers = .ok (isNatIface, next)) :
    next.PromoteOk ∧ (isNatIface = false → next = listener) ∧
      ∀ event entry, listener.Promotes event next entry → next.Adds entry := by
  simp only [CtListener.addNatIface] at added
  split at added
  · cases added
    exact ⟨isOk, fun _ => rfl, fun _ _ promotes => absurd promotes isOk.quiet.not_promotes⟩
  · cases added
    exact ⟨isOk, fun isFalse => absurd isFalse (by decide),
      fun _ _ promotes => absurd promotes isOk.quiet.not_promotes⟩
  · rename_i slots stored
    rcases except_bind_eq_ok.mp added with ⟨mid, reset, added⟩
    rcases except_bind_eq_ok.mp added with ⟨last, flushed, added⟩
    cases added
    have storedOk : PromoteOk { listener with natIfaceIpv4Addr := slots } := isOk.congr rfl rfl
    have midOk : mid.PromoteOk := storedOk.of_onNat reset id fun _ _ => trivial
    refine ⟨midOk.of_onNat flushed id fun _ _ => trivial,
      fun isFalse => absurd isFalse (by decide), ?_⟩
    intro event entry promotes
    rcases onNat_eq_ok.mp reset with ⟨before, after, isBefore, applied, rfl⟩
    cases applied
    refine isOk.adds_of_flush isBefore rfl (before.sameTable_resetPwrSaveIf ipv4Addr _)
      (before.temp_resetPwrSaveIf ipv4Addr _) ?_ flushed rfl promotes ?_
    · intro conn isUsed isCached
      exact (before.drops_resetPwrSaveIf ipv4Addr _).was_cached isUsed isCached
    · intro cnt flushes
      exact ⟨isNatIface_of_mem (mem_of_storeAddr stored) isAddr flushes.isMatch,
        condition before isBefore slots stored cnt flushes⟩

theorem PromoteOk.handleNeighIpAddrAddEvt
    {isIpv4 : Bool} {query : Option (List String × String)} {answers : ℕ → ℕ → Option ℕ}
    (condition : listener.PromoteCondition (.handleNeighIpAddrAddEvt ipv4Addr isIpv4 query answers))
    (handled : listener.handleNeighIpAddrAddEvt ipv4Addr isIpv4 query answers = .ok next) :
    next.PromoteOk ∧ ∀ event entry, listener.Promotes event next entry → next.Adds entry := by
  simp only [CtListener.handleNeighIpAddrAddEvt] at handled
  split at handled
  · cases handled
    exact ⟨isOk, fun _ _ promotes => absurd promotes isOk.quiet.not_promotes⟩
  · rename_i isTaken
    simp only [not_or, Bool.not_eq_true', Bool.not_eq_false] at isTaken
    split at handled
    · cases handled
      exact ⟨isOk, fun _ _ promotes => absurd promotes isOk.quiet.not_promotes⟩
    · split at handled
      · rename_i isNat
        rcases except_bind_eq_ok.mp handled with ⟨⟨isNatIface, mid⟩, searched, handled⟩
        rcases isOk.addNatIface isTaken.1 (condition isTaken.1 isTaken.2 isNat) searched with
          ⟨midOk, notNat, adds⟩
        split at handled
        · cases handled
          exact ⟨midOk, adds⟩
        · rename_i isFalse
          rw [notNat (by simpa using isFalse)] at handled
          have quiet := isOk.addNonnatIface handled
          exact ⟨quiet.isOk, fun _ _ promotes => absurd promotes quiet.not_promotes⟩
      · have quiet := isOk.addNonnatIface handled
        exact ⟨quiet.isOk, fun _ _ promotes => absurd promotes quiet.not_promotes⟩

theorem PromoteOk.handleNeighIpAddrDelEvt {deleted : ℕ → Bool}
    (handled : listener.handleNeighIpAddrDelEvt ipv4Addr deleted answers = .ok next) :
    Quiet listener next := by
  simp only [CtListener.handleNeighIpAddrDelEvt] at handled
  split at handled
  · cases handled
    exact isOk.quiet
  · rcases except_bind_eq_ok.mp handled with ⟨mid, flushed, handled⟩
    have reset : Quiet listener
        { listener with
          natIfaceIpv4Addr := listener.natIfaceIpv4Addr.map fun slot =>
            if slot = ipv4Addr then 0 else slot
          nonnatIfaceIpv4Addr := listener.nonnatIfaceIpv4Addr.map fun slot =>
            if slot = ipv4Addr then 0 else slot } := .of_same isOk rfl rfl
    have midQuiet := reset.trans (.of_onNat reset.isOk flushed id rfl)
    exact midQuiet.trans (.of_onNat midQuiet.isOk handled id trivial)

end

theorem natInst_withStaClnt (listener : CtListener maxEntries) (clntIpAddr : BitVec 32) :
    (listener.withStaClnt clntIpAddr).natInst = listener.natInst ∧
      (listener.withStaClnt clntIpAddr).wanIpaddr = listener.wanIpaddr ∧
        (listener.withStaClnt clntIpAddr).natIfaceIpv4Addr = listener.natIfaceIpv4Addr := by
  rw [withStaClnt]
  split <;> exact ⟨rfl, rfl, rfl⟩

section

variable (isOk : listener.PromoteOk)

include isOk

theorem PromoteOk.handleSTAClientAddEvt {clntIpAddr : BitVec 32}
    (condition : listener.PromoteCondition (.staEvent (.handleSTAClientAddEvt clntIpAddr answers)))
    (handled : listener.handleSTAClientAddEvt clntIpAddr answers = .ok next) :
    next.PromoteOk ∧ ∀ event entry, listener.Promotes event next entry → next.Adds entry := by
  rw [CtListener.handleSTAClientAddEvt] at handled
  split at handled
  · cases handled
    exact ⟨isOk, fun _ _ promotes => absurd promotes isOk.quiet.not_promotes⟩
  · rename_i hasRoom
    change (listener.withStaClnt clntIpAddr).onNat _ = .ok next at handled
    rcases listener.natInst_withStaClnt clntIpAddr with ⟨natInst, wanIpaddr, natIfaces⟩
    have storedOk := isOk.congr natInst wanIpaddr
    refine ⟨storedOk.of_onNat handled id fun _ _ => trivial, ?_⟩
    intro event entry promotes
    rcases promotes.waits with ⟨before, isBefore, -⟩
    refine isOk.adds_of_flush isBefore (natInst.trans isBefore) (.refl before) rfl
      (fun _ _ => id) handled wanIpaddr promotes ?_
    intro cnt flushes
    rcases condition (by omega) before isBefore cnt flushes with ⟨natIface, staClnt⟩
    refine ⟨?_, staClnt⟩
    rwa [isNatIface, natIfaces]

theorem PromoteOk.handleSTAClientDelEvt {clntIpAddr : BitVec 32}
    {deleted : ℕ → Bool}
    (handled : listener.handleSTAClientDelEvt clntIpAddr deleted answers = .ok next) :
    Quiet listener next := by
  simp only [CtListener.handleSTAClientDelEvt] at handled
  split at handled
  · exact .of_onNat isOk handled id rfl
  · rename_i slots cleared
    rcases except_bind_eq_ok.mp handled with ⟨mid, disconnected, handled⟩
    have stored : Quiet listener { listener with staClntIpv4Addr := slots } :=
      .of_same isOk rfl rfl
    have midQuiet := stored.trans (.of_onNat stored.isOk disconnected id trivial)
    have counted : Quiet listener { mid with staClntCnt := mid.staClntCnt - 1 } :=
      midQuiet.trans (.of_same midQuiet.isOk rfl rfl)
    exact counted.trans (.of_onNat counted.isOk handled id rfl)

theorem PromoteOk.handle {event : CtEvent}
    (condition : listener.PromoteCondition event) (handled : listener.handle event = .ok next) :
    next.PromoteOk ∧ ∀ entry, listener.Promotes event next entry → next.Adds entry := by
  have ofQuiet (quiet : Quiet listener next) :
      next.PromoteOk ∧ ∀ entry, listener.Promotes event next entry → next.Adds entry :=
    ⟨quiet.isOk, fun _ promotes => absurd promotes quiet.not_promotes⟩
  cases event with
  | processCTMessage msg cnt answer deleted =>
      exact ⟨isOk.processCTMessage condition handled,
        fun _ promotes => absurd rfl (promotes.notMessage msg cnt answer deleted)⟩
  | handleWanUp ipv4Addr isSta created answers =>
      cases handled
      apply ofQuiet
      split
      · exact isOk.triggerWANUp ipv4Addr isSta created answers
      · exact isOk.quiet
  | handleWanDown ipv4Addr deleted =>
      cases handled
      apply ofQuiet
      split
      · exact isOk.triggerWANDown ipv4Addr deleted
      · exact isOk.quiet
  | handleNeighIpAddrAddEvt ipv4Addr isIpv4 query answers =>
      rcases isOk.handleNeighIpAddrAddEvt condition handled with ⟨nextOk, adds⟩
      exact ⟨nextOk, adds _⟩
  | handleNeighIpAddrDelEvt ipv4Addr deleted answers =>
      exact ofQuiet (isOk.handleNeighIpAddrDelEvt handled)
  | staEvent event =>
      cases event with
      | handleSTAClientAddEvt clntIpAddr answers =>
          rcases isOk.handleSTAClientAddEvt condition handled with ⟨nextOk, adds⟩
          exact ⟨nextOk, adds _⟩
      | handleSTAClientDelEvt clntIpAddr deleted answers =>
          exact ofQuiet (isOk.handleSTAClientDelEvt handled)
  | setPrivateSubnets privateSubnetTable =>
      cases handled
      exact ofQuiet (.of_same isOk rfl rfl)
  | updatePwrSaveIf clientLanIp deleted =>
      have applied : listener.onNat (.updatePwrSaveIf clientLanIp deleted) = .ok next := handled
      exact ofQuiet (.of_onNat isOk applied id trivial)
  | resetPwrSaveIf clientLanIp answers =>
      have applied : listener.onNat (.resetPwrSaveIf clientLanIp answers) = .ok next := handled
      exact ofQuiet (.of_onNat isOk applied id trivial)

end

theorem IsInit.promoteOk (isInit : listener.IsInit) : listener.PromoteOk := by
  rcases isInit with ⟨⟨-, natInit⟩, -⟩
  constructor
  · intro natInst isInst
    rcases natInit natInst isInst with ⟨algPorts, pubIpAddrPre, pwrSaveIfs, rfl⟩
    exact .init algPorts pubIpAddrPre pwrSaveIfs
  · intro _ natInst isInst hasTable
    rcases natInit natInst isInst with ⟨algPorts, pubIpAddrPre, pwrSaveIfs, rfl⟩
    exact absurd rfl hasTable

def HandleStep (listener : CtListener maxEntries) (event : CtEvent)
    (next : CtListener maxEntries) : Prop :=
  listener.handle event = .ok next

/-- In a run whose events meet the condition no connection is both in the temporary list and in the
cache, and such an event promotes only what a message would add. -/
theorem reachable_promotesOk
    (reached : Run.Reachable IsInit (Run.Guarded PromoteCondition HandleStep) listener) :
    listener.TempsApart ∧ ∀ event, listener.PromoteCondition event → listener.PromotesOk event := by
  have isOk : listener.PromoteOk := by
    apply reached.invariant PromoteOk (fun _ isInit => isInit.promoteOk)
    rintro listener event next isOk ⟨condition, handled⟩
    exact (isOk.handle condition handled).1
  refine ⟨fun natInst isInst => (isOk.tempsOk natInst isInst).apart, ?_⟩
  intro event condition next handled
  exact (isOk.handle condition handled).2

def privateSample (target : BitVec 32) : CtMessage where
  type := .new
  tuples := ⟨0xC0A80002, target, 1000, 53, ipprotoUdp, target, 53, 2000, ipprotoUdp⟩
  srcNat := true
  dstNat := false
  tcpState := .other

def privateEntry (target : BitVec 32) : NatTableEntry :=
  { (privateSample target).tuples.rule false with publicIp := 7 }

def privateNeigh : CtEvent :=
  .handleNeighIpAddrAddEvt 0xC0A80002 true (some (["rndis0"], "rndis0")) fun _ _ => some 5

set_option maxRecDepth 20000 in
theorem reachable_promotesOk_otherSubnet : ∃ listener : CtListener 2, listener.TempsApart ∧
    listener.PromotesOk privateNeigh ∧
      ∃ next, listener.handle privateNeigh = .ok next ∧
        listener.Promotes privateNeigh next (privateEntry 0x0B000005) := by
  have start : Run.Reachable (@IsInit 2) (Run.Guarded PromoteCondition HandleStep) _ :=
    .start StaRun.created_isInit.1
  have subnets : Run.Reachable (@IsInit 2) (Run.Guarded PromoteCondition HandleStep) _ :=
    .next (.setPrivateSubnets [⟨0xC0A80000, 0xFFFF0000⟩]) start ⟨trivial, rfl⟩
  have up : Run.Reachable (@IsInit 2) (Run.Guarded PromoteCondition HandleStep) _ :=
    .next (.handleWanUp 7 true true fun _ => none) subnets ⟨trivial, rfl⟩
  have client : Run.Reachable (@IsInit 2) (Run.Guarded PromoteCondition HandleStep) _ :=
    .next (.staEvent (.handleSTAClientAddEvt 0x0A000001 fun _ => none)) up
      ⟨by
        rintro _ natInst ⟨⟩ cnt flushes
        exact absurd (.inl rfl) flushes.valid, rfl⟩
  have waits : Run.Reachable (@IsInit 2) (Run.Guarded PromoteCondition HandleStep) _ :=
    .next (.processCTMessage (privateSample 0x0B000005) 0 none true) client
      ⟨by
        intro _ _ rule isTempEntry classified _ _ notTemp
        have isTemp : some (privateEntry 0x0B000005, true) = some (rule, isTempEntry) := classified
        cases isTemp
        exact absurd (notTemp rfl).1 (by decide), rfl⟩
  have isOk := reachable_promotesOk waits
  refine ⟨_, isOk.1, isOk.2 privateNeigh ?_, _, rfl,
    ⟨?_, ⟨_, rfl, 0, rfl⟩, by decide, ?_, ⟨_, rfl, 0, rfl⟩⟩⟩
  · rintro _ _ _ natInst ⟨⟩ _ _ cnt flushes
    by_cases isFirst : cnt = 0
    · subst isFirst
      exact fun isUnknown => absurd (show StaMatch.otherSubnet = .notFound from isUnknown)
        (by decide)
    · have isZero : Function.update (fun _ => NatTableEntry.zero) 0 (privateEntry 0x0B000005) cnt =
          NatTableEntry.zero := Function.update_of_ne isFirst _ _
      exact absurd (.inl (congrArg NatTableEntry.privateIp isZero)) flushes.valid
  · intro _ _ _ _ isMessage
    cases isMessage
  · rintro ⟨_, ⟨⟩, cnt, isConn⟩
    have isUnused : (0 : BitVec 32) = 0xC0A80002 := congrArg Conn.privateIp isConn
    exact absurd isUnused (by decide)

set_option maxRecDepth 20000 in
/-- The WAN is a station with the address 7, which has the client 10.0.0.1, and then a connection
from the private subnet waits. -/
theorem not_promotesOk : ¬∀ listener : CtListener 2, Run.Reachable IsInit HandleStep listener →
    listener.TempsApart ∧ ∀ event, listener.PromotesOk event := by
  intro claimed
  have start : Run.Reachable (@IsInit 2) HandleStep _ := .start StaRun.created_isInit.1
  have subnets : Run.Reachable (@IsInit 2) HandleStep _ :=
    .next (.setPrivateSubnets [⟨0xC0A80000, 0xFFFF0000⟩]) start rfl
  have up : Run.Reachable (@IsInit 2) HandleStep _ :=
    .next (.handleWanUp 7 true true fun _ => none) subnets rfl
  have client : Run.Reachable (@IsInit 2) HandleStep _ :=
    .next (.staEvent (.handleSTAClientAddEvt 0x0A000001 fun _ => none)) up rfl
  have waits : Run.Reachable (@IsInit 2) HandleStep _ :=
    .next (.processCTMessage (privateSample 0x0A000005) 0 none true) client rfl
  have promotes := (claimed _ waits).2 privateNeigh _ rfl (privateEntry 0x0A000005)
  refine (promotes ⟨?_, ⟨_, rfl, 0, rfl⟩, by decide, ?_, ⟨_, rfl, 0, rfl⟩⟩).staClnt ?_
  · intro _ _ _ _ isMessage
    cases isMessage
  · rintro ⟨_, ⟨⟩, cnt, isConn⟩
    have isUnused : (0 : BitVec 32) = 0xC0A80002 := congrArg Conn.privateIp isConn
    exact absurd isUnused (by decide)
  · rfl

end CtListener

end HtcPme.Ipacm
