import HtcPme.Foundation.SlotCount
import HtcPme.Ipacm.NatAppCache

/-!
# The count of cached connections

`curCnt` is kept beside the cache by each operation that fills or clears a slot.
-/

namespace HtcPme.Ipacm

open IpaNat Function

variable {maxEntries : ℕ}

/-- The outcomes of the calls that the update of a time stamp makes: `ipa_nat_query_timestamp`,
the handles of conntrack, `nfct_query`, and the deletion of a rule. -/
structure UdpQuery where
  ts : Option (BitVec 32)
  opened : Bool
  updated : Bool
  deleted : Bool

namespace NatApp

def updateCtUdpTs (app : NatApp maxEntries) (cnt : Fin maxEntries) (newTs : BitVec 32)
    (query : UdpQuery) : NatApp maxEntries :=
  if query.opened then
    if query.updated then app.setSlot cnt { app.cache cnt with timestamp := newTs }
    else (app.deleteEntry (app.cache cnt) query.deleted).2
  else app

def udpTimeStampSlot (app : NatApp maxEntries) (cnt : Fin maxEntries) (query : UdpQuery) :
    NatApp maxEntries :=
  if (app.cache cnt).enabled then
    match query.ts with
    | none => app
    | some ts => if (app.cache cnt).timestamp = ts then app else app.updateCtUdpTs cnt ts query
  else app

def updateUDPTimeStamp (app : NatApp maxEntries) (queries : ℕ → UdpQuery) : NatApp maxEntries :=
  SlotLoop.forEach (fun app (cnt : Fin maxEntries) => app.udpTimeStampSlot cnt (queries cnt)) app

end NatApp

inductive NatCountOp where
  | op (op : NatAppOp)
  | updateUDPTimeStamp (queries : ℕ → UdpQuery)

def NatTableEntry.Occupied (entry : NatTableEntry) : Prop := entry.conn ≠ .unused

instance NatTableEntry.decidableOccupied : DecidablePred NatTableEntry.Occupied :=
  fun entry => inferInstanceAs (Decidable (entry.conn ≠ .unused))

/-- `curCnt` is the number of occupied slots, and no two of them hold the same connection. -/
structure CountOk (cache : Fin maxEntries → NatTableEntry) (curCnt : ℤ) : Prop where
  counted : curCnt = SlotCount.count NatTableEntry.Occupied cache
  nonneg : 0 ≤ curCnt
  bounded : curCnt ≤ maxEntries
  unique : ∀ cnt cnt', (cache cnt).Occupied → (cache cnt).conn = (cache cnt').conn → cnt = cnt'

structure Counted (cache : Fin maxEntries → NatTableEntry) (curCnt : ℤ) : Prop where
  counted : curCnt = SlotCount.count NatTableEntry.Occupied cache
  connsOk : ConnsOk cache
  occupied : ∀ cnt, (cache cnt).enabled → (cache cnt).Occupied

section Slots

variable {cache : Fin maxEntries → NatTableEntry} {curCnt : ℤ} {cnt : Fin maxEntries}
  {entry : NatTableEntry}

theorem Counted.countOk (isCounted : Counted cache curCnt) : CountOk cache curCnt where
  counted := isCounted.counted
  nonneg := by
    rw [isCounted.counted]
    exact Int.natCast_nonneg _
  bounded := by
    rw [isCounted.counted]
    exact_mod_cast SlotCount.count_le cache
  unique := isCounted.connsOk.unique

theorem occupied_update (occupied : ∀ cnt, (cache cnt).enabled → (cache cnt).Occupied)
    (isOccupied : entry.enabled → entry.Occupied) (slot : Fin maxEntries)
    (enabled : (update cache cnt entry slot).enabled) :
    (update cache cnt entry slot).Occupied := by
  by_cases same : slot = cnt
  · subst same
    rw [update_self] at enabled ⊢
    exact isOccupied enabled
  · rw [update_of_ne same] at enabled ⊢
    exact occupied slot enabled

variable (isCounted : Counted cache curCnt)

include isCounted

theorem Counted.setSame
    (sameConn : entry.conn = (cache cnt).conn) (isOccupied : entry.enabled → entry.Occupied) :
    Counted (update cache cnt entry) curCnt where
  counted := by
    rw [isCounted.counted, SlotCount.count_same]
    rw [NatTableEntry.Occupied, NatTableEntry.Occupied, sameConn]
  connsOk := by
    have drops : Drops (fun _ => False) cache (update cache cnt entry) :=
      Drops.update (.inl sameConn)
    exact drops.connsOk isCounted.connsOk
  occupied := occupied_update isCounted.occupied isOccupied

theorem Counted.fill (wasUnused : (cache cnt).conn = .unused) (valid : entry.conn.Valid)
    (isNew : ¬Cached cache entry.conn) :
    Counted (update cache cnt entry) (curCnt + 1) where
  counted := by
    have notOccupied : ¬(cache cnt).Occupied := not_not_intro wasUnused
    have isOccupied : entry.Occupied := valid.ne_unused
    rw [isCounted.counted, SlotCount.count_fill notOccupied isOccupied]
    exact (Nat.cast_succ _).symm
  connsOk := isCounted.connsOk.store valid isNew
  occupied := occupied_update isCounted.occupied fun _ => valid.ne_unused

theorem Counted.clear (wasOccupied : (cache cnt).Occupied) :
    Counted (update cache cnt .zero) (curCnt - 1) where
  counted := by
    have isCleared : ¬NatTableEntry.zero.Occupied := not_not_intro rfl
    have released := SlotCount.count_release wasOccupied isCleared
    rw [isCounted.counted]
    omega
  connsOk := by
    have drops : Drops (fun _ => True) cache (update cache cnt .zero) :=
      Drops.update (.inr ⟨rfl, trivial⟩)
    exact drops.connsOk isCounted.connsOk
  occupied := occupied_update isCounted.occupied fun enabled => by cases enabled

end Slots

namespace NatApp

def SlotsCounted (app : NatApp maxEntries) : Prop := Counted app.cache app.curCnt

section Operations

variable {app : NatApp maxEntries} {cnt : Fin maxEntries}

variable (isCounted : app.SlotsCounted)

include isCounted

theorem SlotsCounted.addBack (privateIpNe : (app.cache cnt).privateIp ≠ 0) (answer : Option ℕ) :
    (app.addBack cnt answer).SlotsCounted := by
  unfold NatApp.addBack
  split
  · exact Counted.clear isCounted (NatTableEntry.conn_ne_unused privateIpNe)
  · exact Counted.setSame isCounted rfl fun _ => NatTableEntry.conn_ne_unused privateIpNe

theorem SlotsCounted.delRuleOf {after : NatApp maxEntries → NatApp maxEntries} {deleted : Bool}
    (removes : ∀ driver, (after { app with driver }).SlotsCounted) :
    (app.delRuleOf cnt deleted after).SlotsCounted := by
  unfold NatApp.delRuleOf
  split
  · exact isCounted
  · exact removes _

theorem SlotsCounted.replacePwrSaveIf (old new : BitVec 32) :
    (app.replacePwrSaveIf old new).SlotsCounted := by
  unfold NatApp.replacePwrSaveIf
  split
  · exact isCounted
  · exact isCounted

theorem SlotsCounted.updatePwrSaveIf (clientLanIp : BitVec 32)
    (deleted : ℕ → Bool) : (app.updatePwrSaveIf clientLanIp deleted).2.SlotsCounted := by
  unfold NatApp.updatePwrSaveIf
  split
  · exact isCounted
  · split
    · exact isCounted
    · apply SlotLoop.forEach_invariant SlotsCounted
      · exact isCounted.replacePwrSaveIf 0 clientLanIp
      · intro cnt app isCounted
        unfold NatApp.pwrSaveSlot
        split
        · apply isCounted.delRuleOf
          intro driver
          exact Counted.setSame isCounted rfl fun enabled => by cases enabled
        · exact isCounted

theorem SlotsCounted.resetPwrSaveIf (clientLanIp : BitVec 32)
    (answers : ℕ → Option ℕ) : (app.resetPwrSaveIf clientLanIp answers).2.SlotsCounted := by
  unfold NatApp.resetPwrSaveIf
  split
  · exact isCounted
  · rename_i isAddress
    apply SlotLoop.forEach_invariant SlotsCounted
    · exact isCounted.replacePwrSaveIf clientLanIp 0
    · intro cnt app isCounted
      unfold NatApp.pwrResetSlot
      split
      · rename_i selected
        apply isCounted.addBack
        rw [selected.1]
        exact isAddress
      · exact isCounted

theorem SlotsCounted.delEntriesOnClntDiscon (ipAddr : BitVec 32)
    (deleted : ℕ → Bool) : (app.delEntriesOnClntDiscon ipAddr deleted).2.SlotsCounted := by
  unfold NatApp.delEntriesOnClntDiscon
  split
  · exact isCounted
  · apply SlotLoop.forEach_invariant SlotsCounted
    · exact isCounted.replacePwrSaveIf ipAddr 0
    · intro cnt app isCounted
      unfold NatApp.clntDisconSlot
      split
      · apply isCounted.delRuleOf
        intro driver
        exact Counted.setSame isCounted rfl fun enabled => by cases enabled
      · exact isCounted

theorem SlotsCounted.delEntriesOnSTAClntDiscon (ipAddr : BitVec 32) (deleted : ℕ → Bool) :
    (app.delEntriesOnSTAClntDiscon ipAddr deleted).2.SlotsCounted := by
  unfold NatApp.delEntriesOnSTAClntDiscon
  split
  · exact isCounted
  · rename_i isAddress
    apply SlotLoop.forEach_invariant SlotsCounted
    · exact isCounted
    · intro cnt app isCounted
      unfold NatApp.staDisconSlot
      split
      · rename_i isTarget
        have wasOccupied : (app.cache cnt).Occupied := by
          intro isUnused
          exact isAddress (isTarget.symm.trans (congrArg Conn.targetIp isUnused))
        split
        · apply isCounted.delRuleOf
          intro driver
          exact Counted.clear isCounted wasOccupied
        · exact Counted.clear isCounted wasOccupied
      · exact isCounted

theorem SlotsCounted.addEntry (rule : NatTableEntry)
    (answer : Option ℕ) : (app.addEntry rule answer).2.SlotsCounted := by
  unfold NatApp.addEntry
  split
  · exact isCounted
  · split
    · exact isCounted
    · split
      · exact isCounted
      · rename_i valid
        rw [not_not] at valid
        split
        · exact isCounted
        · rename_i notDup
          rw [Bool.not_eq_true, chkForDup_eq_false] at notDup
          cases isFree : app.freeSlot 0 with
          | none => exact isCounted
          | some cnt =>
              have wasUnused := (freeSlot_eq_some isFree).2
              simp only
              split
              · exact Counted.fill isCounted wasUnused valid notDup
              · split
                · exact isCounted
                · exact Counted.fill isCounted wasUnused valid notDup

theorem SlotsCounted.addTempEntry (newEntry : NatTableEntry) :
    (app.addTempEntry newEntry).SlotsCounted := by
  unfold NatApp.addTempEntry
  repeat' split
  all_goals exact isCounted

theorem SlotsCounted.deleteTempEntry (entry : NatTableEntry) :
    (app.deleteTempEntry entry).SlotsCounted := by
  unfold NatApp.deleteTempEntry
  split
  · exact isCounted
  · exact isCounted

theorem SlotsCounted.flushTempEntries (ipAddr : BitVec 32)
    (isAdd : Bool) (answers : ℕ → Option ℕ) :
    (app.flushTempEntries ipAddr isAdd answers).SlotsCounted := by
  apply SlotLoop.forEach_invariant SlotsCounted
  · exact isCounted
  · intro cnt app isCounted
    unfold flushTempSlot
    split
    · split
      · have isAdded := isCounted.addEntry (app.temp cnt) (answers cnt)
        simp only
        split
        · exact isAdded
        · exact isAdded
      · exact isCounted
    · exact isCounted

theorem SlotsCounted.addTable (pubIp : BitVec 32) (created : Bool)
    (answers : ℕ → Option ℕ) : (app.addTable pubIp created answers).2.SlotsCounted := by
  unfold NatApp.addTable
  split
  · exact isCounted
  · simp only
    split
    · apply SlotLoop.forEach_invariant SlotsCounted
      · exact isCounted
      · intro cnt app isCounted
        unfold NatApp.restoreSlot
        split
        · rename_i privateIpNe
          exact isCounted.addBack privateIpNe (answers cnt)
        · exact isCounted
    · exact isCounted

theorem SlotsCounted.deleteTable (pubIp : BitVec 32)
    (deleted : Bool) : (app.deleteTable pubIp deleted).2.SlotsCounted := by
  unfold NatApp.deleteTable
  repeat' split
  all_goals exact isCounted

variable {rule : NatTableEntry}

theorem SlotsCounted.deleteEntry
    (isConn : rule.conn = .unused → app.slotOf rule = none) (deleted : Bool) :
    (app.deleteEntry rule deleted).2.SlotsCounted := by
  unfold NatApp.deleteEntry
  cases found : app.slotOf rule with
  | none => exact isCounted
  | some cnt =>
      have wasOccupied : (app.cache cnt).Occupied := by
        intro isUnused
        rw [isConn ((slotOf_eq_some found).symm.trans isUnused)] at found
        cases found
      simp only
      split
      · split
        · exact Counted.clear isCounted wasOccupied
        · exact Counted.clear isCounted wasOccupied
      · exact Counted.clear isCounted wasOccupied

theorem SlotsCounted.cacheEntry {cnt : ℤ}
    (inCache : rule.conn.Valid → app.chkForDup rule = false → 0 ≤ cnt ∧ cnt ≤ maxEntries) :
    ∃ next, app.cacheEntry rule cnt = .ok next ∧ next.SlotsCounted := by
  unfold NatApp.cacheEntry
  split
  · exact ⟨app, rfl, isCounted⟩
  · rename_i valid
    rw [not_not] at valid
    split
    · exact ⟨app, rfl, isCounted⟩
    · rename_i notDup
      rw [Bool.not_eq_true] at notDup
      rcases inCache valid notDup with ⟨nonneg, inBounds⟩
      rw [if_neg (by omega)]
      cases isFree : app.freeSlot cnt.toNat with
      | none => exact ⟨app, rfl, isCounted⟩
      | some slot =>
          refine ⟨_, rfl, ?_⟩
          exact Counted.fill isCounted (freeSlot_eq_some isFree).2 valid
            (chkForDup_eq_false.mp notDup)

theorem SlotsCounted.updateUDPTimeStamp (queries : ℕ → UdpQuery) :
    (app.updateUDPTimeStamp queries).SlotsCounted := by
  apply SlotLoop.forEach_invariant SlotsCounted
  · exact isCounted
  · intro cnt app isCounted
    unfold udpTimeStampSlot
    split
    · rename_i enabled
      have isOccupied := isCounted.occupied cnt enabled
      split
      · exact isCounted
      · split
        · exact isCounted
        · unfold updateCtUdpTs
          split
          · split
            · exact Counted.setSame isCounted rfl fun _ => isOccupied
            · exact isCounted.deleteEntry (fun isUnused => absurd isUnused isOccupied) _
          · exact isCounted
    · exact isCounted

end Operations

def applyCount (app : NatApp maxEntries) : NatCountOp → Except NatFault (NatApp maxEntries)
  | .op op => app.apply op
  | .updateUDPTimeStamp queries => .ok (app.updateUDPTimeStamp queries)

def CountStep (app : NatApp maxEntries) (op : NatCountOp) (next : NatApp maxEntries) : Prop :=
  app.applyCount op = .ok next

/-- The operations that keep the count: what is deleted is a connection, or no slot is unused, and
a search for an unused slot starts inside the cache. -/
def CountCondition (app : NatApp maxEntries) : NatCountOp → Prop
  | .op (.deleteEntry rule _) => rule.conn = .unused → app.slotOf rule = none
  | .op (.cacheEntry rule cnt) =>
      rule.conn.Valid → app.chkForDup rule = false → 0 ≤ cnt ∧ cnt ≤ maxEntries
  | _ => True

def KeepsCount (app : NatApp maxEntries) (op : NatCountOp) : Prop :=
  ∃ next, app.CountStep op next ∧ CountOk next.cache next.curCnt

section Runs

variable {app : NatApp maxEntries} {op : NatCountOp}

theorem SlotsCounted.apply (isCounted : app.SlotsCounted) (condition : app.CountCondition op) :
    ∃ next, app.CountStep op next ∧ next.SlotsCounted := by
  cases op with
  | updateUDPTimeStamp queries => exact ⟨_, rfl, isCounted.updateUDPTimeStamp queries⟩
  | op op =>
      cases op with
      | addTable pubIp created answers =>
          exact ⟨_, rfl, isCounted.addTable pubIp created answers⟩
      | deleteTable pubIp deleted => exact ⟨_, rfl, isCounted.deleteTable pubIp deleted⟩
      | addEntry rule answer => exact ⟨_, rfl, isCounted.addEntry rule answer⟩
      | deleteEntry rule deleted => exact ⟨_, rfl, isCounted.deleteEntry condition deleted⟩
      | cacheEntry rule cnt => exact isCounted.cacheEntry condition
      | updatePwrSaveIf clientLanIp deleted =>
          exact ⟨_, rfl, isCounted.updatePwrSaveIf clientLanIp deleted⟩
      | resetPwrSaveIf clientLanIp answers =>
          exact ⟨_, rfl, isCounted.resetPwrSaveIf clientLanIp answers⟩
      | delEntriesOnClntDiscon ipAddr deleted =>
          exact ⟨_, rfl, isCounted.delEntriesOnClntDiscon ipAddr deleted⟩
      | delEntriesOnSTAClntDiscon ipAddr deleted =>
          exact ⟨_, rfl, isCounted.delEntriesOnSTAClntDiscon ipAddr deleted⟩
      | addTempEntry newEntry => exact ⟨_, rfl, isCounted.addTempEntry newEntry⟩
      | deleteTempEntry entry => exact ⟨_, rfl, isCounted.deleteTempEntry entry⟩
      | flushTempEntries ipAddr isAdd answers =>
          exact ⟨_, rfl, isCounted.flushTempEntries ipAddr isAdd answers⟩

theorem SlotsCounted.step {next : NatApp maxEntries} (isCounted : app.SlotsCounted)
    (stepped : Run.Guarded CountCondition CountStep app op next) : next.SlotsCounted := by
  rcases isCounted.apply stepped.1 with ⟨next', stepped', isCounted'⟩
  have same : next = next' := Except.ok.inj (stepped.2.symm.trans stepped')
  rw [same]
  exact isCounted'

theorem slotsCounted_init (algPorts : List IpacmAlg) (pubIpAddrPre : BitVec 32)
    (pwrSaveIfs : Fin ipaMaxNumWifiClients → BitVec 32) :
    (init algPorts pubIpAddrPre pwrSaveIfs : NatApp maxEntries).SlotsCounted where
  counted := by
    have noneUsed : ∀ cnt : Fin maxEntries,
        ¬((init algPorts pubIpAddrPre pwrSaveIfs).cache cnt).Occupied :=
      fun _ => not_not_intro rfl
    rw [SlotCount.count_eq_zero noneUsed]
    rfl
  connsOk :=
    { valid := fun _ isUsed => absurd rfl isUsed
      unique := fun _ _ isUsed => absurd rfl isUsed }
  occupied := fun _ enabled => by cases enabled

theorem reachable_slotsCounted
    (reached : Run.Reachable IsInit (Run.Guarded CountCondition CountStep) app) :
    app.SlotsCounted := by
  apply reached.invariant
  · rintro _ ⟨algPorts, pubIpAddrPre, pwrSaveIfs, rfl⟩
    exact slotsCounted_init algPorts pubIpAddrPre pwrSaveIfs
  · intro app op next isCounted stepped
    exact isCounted.step stepped

variable {rule : NatTableEntry}

theorem SlotsCounted.not_keepsCount_deleteEntry (isCounted : app.SlotsCounted) {deleted : Bool}
    (condition : ¬app.CountCondition (.op (.deleteEntry rule deleted))) :
    ¬app.KeepsCount (.op (.deleteEntry rule deleted)) := by
  simp only [CountCondition, Classical.not_imp] at condition
  rcases condition with ⟨isUnused, isFound⟩
  rcases Option.ne_none_iff_exists'.mp isFound with ⟨cnt, found⟩
  have wasUnused : (app.cache cnt).conn = .unused := (slotOf_eq_some found).trans isUnused
  have notEnabled : (app.cache cnt).enabled = false := by
    rw [Bool.eq_false_iff]
    intro enabled
    exact isCounted.occupied cnt enabled wasUnused
  rintro ⟨next, stepped, countOk⟩
  simp only [CountStep, applyCount, NatApp.apply, NatApp.deleteEntry, found, notEnabled,
    Bool.false_eq_true, if_false] at stepped
  cases stepped
  have counted := countOk.counted
  simp only [clearSlot, setSlot] at counted
  have notOccupied : NatTableEntry.zero.Occupied ↔ (app.cache cnt).Occupied :=
    iff_of_false (not_not_intro rfl) (not_not_intro wasUnused)
  rw [SlotCount.count_same notOccupied, isCounted.counted] at counted
  omega

theorem not_keepsCount_cacheEntry {cnt : ℤ}
    (condition : ¬app.CountCondition (.op (.cacheEntry rule cnt))) :
    ¬app.KeepsCount (.op (.cacheEntry rule cnt)) := by
  simp only [CountCondition, Classical.not_imp] at condition
  rcases condition with ⟨valid, notDup, outside⟩
  rintro ⟨next, stepped, _⟩
  have isOutside : cnt < 0 ∨ maxEntries < cnt := by omega
  simp only [CountStep, applyCount, apply, cacheEntry, valid, not_true_eq_false,
    if_false, notDup, Bool.false_eq_true, isOutside, if_true, reduceCtorEq] at stepped

/-- In every run of operations that meet the condition `curCnt` counts the connections, of which
no two are the same, and exactly the operations that meet it keep this. -/
theorem reachable_countOk
    (reached : Run.Reachable IsInit (Run.Guarded CountCondition CountStep) app) :
    CountOk app.cache app.curCnt ∧ ∀ op, app.KeepsCount op ↔ app.CountCondition op := by
  have isCounted := reachable_slotsCounted reached
  refine ⟨Counted.countOk isCounted, ?_⟩
  intro op
  constructor
  · intro keeps
    by_contra condition
    rcases op with op | queries
    · cases op with
      | deleteEntry rule deleted => exact isCounted.not_keepsCount_deleteEntry condition keeps
      | cacheEntry rule cnt => exact not_keepsCount_cacheEntry condition keeps
      | _ => exact condition trivial
    · exact condition trivial
  · intro condition
    rcases isCounted.apply condition with ⟨next, stepped, isCounted'⟩
    exact ⟨next, stepped, Counted.countOk isCounted'⟩

theorem reachable_countOk_cached :
    ∃ app : NatApp 2, app.curCnt = 1 ∧ CountOk app.cache app.curCnt ∧
      ∀ op, app.KeepsCount op ↔ app.CountCondition op := by
  have cached : Run.Reachable (@IsInit 2) (Run.Guarded CountCondition CountStep) _ :=
    .next (.op (.cacheEntry .tcpSample 0)) (.start ⟨[], 0, fun _ => 0, rfl⟩)
      ⟨fun _ _ => by decide, rfl⟩
  exact ⟨_, rfl, reachable_countOk cached⟩

/-- The search starts behind the cache, and the connection is counted but not cached. -/
theorem cacheEntry_not_keepsCount :
    ∃ app : NatApp 2, Run.Reachable IsInit CountStep app ∧
      ¬app.KeepsCount (.op (.cacheEntry .tcpSample 3)) := by
  refine ⟨init [] 0 fun _ => 0, .start ⟨_, _, _, rfl⟩, ?_⟩
  rintro ⟨next, stepped, _⟩
  have isOutside : (init [] 0 (fun _ => 0) : NatApp 2).cacheEntry .tcpSample 3 =
      .error (.cacheIndex 3) := rfl
  cases isOutside.symm.trans stepped

end Runs

end NatApp

end HtcPme.Ipacm
