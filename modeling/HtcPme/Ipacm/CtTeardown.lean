import HtcPme.Ipacm.NatAppTemp
import HtcPme.Ipacm.StaClient

/-!
# The end of a connection

The message that ends a connection is classified like the one that started it, but by the tables of
its own time.
-/

namespace HtcPme.Ipacm

open CtListener

variable {maxEntries : ℕ}

/-- The connection that the tuples give for a direction, with the dummy private port of an
embedded one. -/
def CtTuples.key (tuples : CtTuples) (dstNat embedded : Bool) : Conn :=
  let rule := tuples.rule dstNat
  if embedded then { rule.conn with privatePort := rule.publicPort } else rule.conn

structure StoredConn where
  tuples : CtTuples
  dstNat : Bool
  embedded : Bool

def StoredConn.conn (stored : StoredConn) : Conn := stored.tuples.key stored.dstNat stored.embedded

inductive CtEvent where
  | processCTMessage (msg : CtMessage) (cnt : ℤ) (answer : Option ℕ) (deleted : Bool)
  | handleWanUp (ipv4Addr : BitVec 32) (isSta created : Bool) (answers : ℕ → Option ℕ)
  | handleWanDown (ipv4Addr : BitVec 32) (deleted : Bool)
  | handleNeighIpAddrAddEvt (ipv4Addr : BitVec 32) (isIpv4 : Bool)
      (query : Option (List String × String)) (answers : ℕ → ℕ → Option ℕ)
  | handleNeighIpAddrDelEvt (ipv4Addr : BitVec 32) (deleted : ℕ → Bool) (answers : ℕ → Option ℕ)
  | staEvent (event : StaEvent)
  | setPrivateSubnets (privateSubnetTable : List PrivateSubnet)
  | updatePwrSaveIf (clientLanIp : BitVec 32) (deleted : ℕ → Bool)
  | resetPwrSaveIf (clientLanIp : BitVec 32) (answers : ℕ → Option ℕ)

namespace CtListener

def handle (listener : CtListener maxEntries) : CtEvent → Except CtFault (CtListener maxEntries)
  | .processCTMessage msg cnt answer deleted => listener.processCTMessage msg cnt answer deleted
  | .handleWanUp ipv4Addr isSta created answers =>
      .ok (if !listener.wanUp then
        { listener with
          toConntrackListener :=
            listener.toConntrackListener.triggerWANUp ipv4Addr isSta created answers }
      else listener)
  | .handleWanDown ipv4Addr deleted =>
      .ok (if listener.wanUp then
        { listener with
          toConntrackListener := listener.toConntrackListener.triggerWANDown ipv4Addr deleted }
      else listener)
  | .handleNeighIpAddrAddEvt ipv4Addr isIpv4 query answers =>
      listener.handleNeighIpAddrAddEvt ipv4Addr isIpv4 query answers
  | .handleNeighIpAddrDelEvt ipv4Addr deleted answers =>
      listener.handleNeighIpAddrDelEvt ipv4Addr deleted answers
  | .staEvent event => listener.staEvent event
  | .setPrivateSubnets privateSubnetTable => .ok { listener with privateSubnetTable }
  | .updatePwrSaveIf clientLanIp deleted => listener.onNat (.updatePwrSaveIf clientLanIp deleted)
  | .resetPwrSaveIf clientLanIp answers => listener.onNat (.resetPwrSaveIf clientLanIp answers)

/-- The connection that a message is about to store through `AddEntry`, `CacheEntry` or
`AddTempEntry`. -/
def stores (listener : CtListener maxEntries) : CtEvent → Option StoredConn
  | .processCTMessage msg _ _ _ => do
      if ipprotoUdp ≠ msg.tuples.origL4proto ∧ ipprotoTcp ≠ msg.tuples.origL4proto then none
      else if listener.natInst.isNone ∨ msg.action ≠ .start then none
      else
        let dstNat ← natStatus listener.wanIpaddr msg
        let rule := msg.tuples.rule dstNat
        if (listener.admitRule rule).isNone then none
        else some ⟨msg.tuples, dstNat, rule.privateIp = listener.wanIpaddr⟩
  | _ => none

/-- The tests on the tables admit a rule: an embedded connection unless in STA mode, another one
with an address of a NAT interface or of a private subnet. -/
def Admits (listener : CtListener maxEntries) (rule : NatTableEntry) : Prop :=
  if rule.privateIp = listener.wanIpaddr then listener.isStaMode = false
  else
    listener.isNatIface rule ∨ listener.isPrivateSubnet rule.privateIp ∨
      listener.isPrivateSubnet rule.targetIp

def Holds (listener : CtListener maxEntries) (conn : Conn) : Prop :=
  ∃ natInst, listener.natInst = some natInst ∧ natInst.Holds conn

end CtListener

/-- A TCP message in `FIN_WAIT`, or a `DESTROY` message. -/
def CtMessage.EndsConn (msg : CtMessage) : Prop :=
  (msg.tuples.replL4proto = ipprotoTcp ∧ (msg.tcpState = .finWait ∨ msg.type = .destroy)) ∨
    (msg.tuples.replL4proto = ipprotoUdp ∧ msg.type = .destroy)

structure CtRun (maxEntries : ℕ) where
  listener : CtListener maxEntries
  stored : List StoredConn

namespace CtRun

def IsInit (run : CtRun maxEntries) : Prop := run.listener.IsInit ∧ run.stored = []

def Step (run : CtRun maxEntries) (event : CtEvent) (next : CtRun maxEntries) : Prop :=
  run.listener.handle event = .ok next.listener ∧
    next.stored = (run.listener.stores event).toList ++ run.stored

def Removes (run : CtRun maxEntries) (msg : CtMessage) (conn : Conn) (cnt : ℤ)
    (answer : Option ℕ) (deleted : Bool) : Prop :=
  ∃ next, run.listener.processCTMessage msg cnt answer deleted = .ok next ∧ ¬next.Holds conn

/-- The message is of UDP or of a TCP connection that is not `ESTABLISHED`, the tables admit it, and
it has the tuples of the start of the connection. -/
structure Recognised (run : CtRun maxEntries) (msg : CtMessage) (stored : StoredConn) : Prop where
  notEstablished : msg.tuples.replL4proto = ipprotoTcp → msg.tcpState ≠ .established
  admitted : ∃ dstNat, natStatus run.listener.wanIpaddr msg = some dstNat ∧
    run.listener.Admits (msg.tuples.rule dstNat) ∧
      msg.tuples.key dstNat ((msg.tuples.rule dstNat).privateIp = run.listener.wanIpaddr) =
        stored.conn

def TeardownOk (run : CtRun maxEntries) : Prop :=
  ∀ stored ∈ run.stored, run.listener.Holds stored.conn →
    ∀ msg : CtMessage, msg.tuples = stored.tuples → msg.EndsConn →
      ∀ cnt answer deleted, run.Removes msg stored.conn cnt answer deleted

end CtRun

section Classify

variable {listener next : CtListener maxEntries} {msg : CtMessage} {rule rule' : NatTableEntry}
  {isTempEntry : Bool}

theorem admitRule_isSome_iff : (listener.admitRule rule).isSome ↔ listener.Admits rule := by
  simp only [admitRule, CtListener.Admits]
  by_cases embedded : rule.privateIp = listener.wanIpaddr
  · cases isSta : listener.isStaMode <;> simp [embedded]
  · by_cases isNat : listener.isNatIface rule
    · simp [embedded, isNat]
    · by_cases isPrivate : listener.isPrivateSubnet rule.privateIp ∨
        listener.isPrivateSubnet rule.targetIp
      · simp [embedded, isNat, isPrivate]
      · simp [embedded, isNat, isPrivate]

theorem admitRule_fst (admitted : listener.admitRule rule = some (rule', isTempEntry)) :
    rule' = if rule.privateIp = listener.wanIpaddr then
      { rule with privatePort := rule.publicPort } else rule := by
  simp only [admitRule] at admitted
  by_cases embedded : rule.privateIp = listener.wanIpaddr
  · rw [if_neg (not_not.mpr embedded)] at admitted
    split at admitted
    · cases admitted
    · cases admitted
      rw [if_pos embedded]
  · simp only [ne_eq, embedded, not_false_eq_true, if_true] at admitted
    rw [if_neg embedded]
    split at admitted
    · cases admitted
      rfl
    · split at admitted
      · cases admitted
        rfl
      · cases admitted

theorem classify_eq_some (classified : listener.classify msg = some (rule', isTempEntry)) :
    ∃ dstNat, natStatus listener.wanIpaddr msg = some dstNat ∧
      listener.Admits (msg.tuples.rule dstNat) ∧
        rule'.conn = msg.tuples.key dstNat
          ((msg.tuples.rule dstNat).privateIp = listener.wanIpaddr) := by
  simp only [classify, Option.bind_eq_bind, Option.bind_eq_some_iff] at classified
  rcases classified with ⟨dstNat, hasStatus, ⟨rule, isTemp⟩, admitted, classified⟩
  refine ⟨dstNat, hasStatus, admitRule_isSome_iff.mp (by rw [admitted]; rfl), ?_⟩
  cases classified
  have fst := admitRule_fst admitted
  subst fst
  by_cases embedded : (msg.tuples.rule dstNat).privateIp = listener.wanIpaddr <;>
    simp [embedded, CtTuples.key, NatTableEntry.conn]

theorem classify_eq_none (ignored : listener.classify msg = none) {dstNat : Bool}
    (hasStatus : natStatus listener.wanIpaddr msg = some dstNat) :
    ¬listener.Admits (msg.tuples.rule dstNat) := by
  intro admits
  rcases Option.isSome_iff_exists.mp (admitRule_isSome_iff.mpr admits) with ⟨admitted, isAdmitted⟩
  simp [classify, hasStatus, isAdmitted] at ignored

theorem CtMessage.EndsConn.action_eq (ends : msg.EndsConn) :
    msg.action = if msg.tuples.replL4proto = ipprotoTcp ∧ msg.tcpState = .established then .start
      else .finish := by
  simp only [CtMessage.action]
  rcases ends with ⟨isTcp, isEnd⟩ | ⟨isUdp, isDestroy⟩
  · by_cases established : msg.tcpState = .established
    · simp [isTcp, established]
    · simp [isTcp, established, isEnd]
  · simp [isUdp, isDestroy]

theorem CtTuples.key_protocol (tuples : CtTuples) (dstNat embedded : Bool) :
    (tuples.key dstNat embedded).protocol = tuples.replL4proto := by
  cases dstNat <;> cases embedded <;> rfl

theorem StoredConn.conn_ne_unused {stored : StoredConn} (same : msg.tuples = stored.tuples)
    (ends : msg.EndsConn) : stored.conn ≠ .unused := by
  intro isUnused
  have protocol : stored.tuples.replL4proto = 0 := by
    rw [← CtTuples.key_protocol stored.tuples stored.dstNat stored.embedded]
    exact congrArg Conn.protocol isUnused
  rw [← same] at protocol
  rcases ends with ⟨isTcp, _⟩ | ⟨isUdp, _⟩
  · rw [protocol] at isTcp
    exact absurd isTcp (by decide)
  · rw [protocol] at isUdp
    exact absurd isUdp (by decide)

end Classify

namespace CtListener

def EntriesOk (listener : CtListener maxEntries) : Prop :=
  ∀ natInst, listener.natInst = some natInst → natInst.EntriesOk

variable {listener next : CtListener maxEntries} {msg : CtMessage} {rule : NatTableEntry}
  {isTempEntry : Bool} {conn : Conn} {cnt : ℤ} {answer : Option ℕ} {deleted : Bool}

theorem Holds.startConn (holds : listener.Holds conn) (isUsed : conn ≠ .unused)
    (started : listener.startConn rule isTempEntry cnt answer = .ok next) : next.Holds conn := by
  rcases holds with ⟨natInst, isInst, holds⟩
  have keeps {op : NatAppOp} (starts : (∃ rule cnt, op = .cacheEntry rule cnt) ∨
      (∃ rule, op = .addTempEntry rule) ∨ ∃ rule answer, op = .addEntry rule answer)
      (applied : listener.onNat op = .ok next) : next.Holds conn := by
    rcases onNat_eq_ok.mp applied with ⟨before, after, isBefore, applied, rfl⟩
    cases isInst.symm.trans isBefore
    exact ⟨after, rfl, holds.start isUsed starts applied⟩
  simp only [CtListener.startConn] at started
  split at started
  · exact keeps (.inl ⟨_, _, rfl⟩) started
  · split at started
    · exact keeps (.inr (.inl ⟨_, rfl⟩)) started
    · exact keeps (.inr (.inr ⟨_, _, rfl⟩)) started

theorem EntriesOk.endConn (entriesOk : listener.EntriesOk) (holds : listener.Holds conn)
    (isUsed : conn ≠ .unused) (rule : NatTableEntry) (deleted : Bool) :
    ∃ next, listener.endConn rule deleted = .ok next ∧ (next.Holds conn ↔ conn ≠ rule.conn) := by
  rcases holds with ⟨natInst, isInst, holds⟩
  have removed := (entriesOk natInst isInst).holds_delete isUsed rule deleted
  let after := (natInst.deleteEntry rule deleted).2.deleteTempEntry rule
  refine ⟨{ listener with natInst := some after }, ?_, ?_⟩
  · simp only [CtListener.endConn, onNat, isInst]
    rfl
  · constructor
    · rintro ⟨after, ⟨⟩, stillHolds⟩
      exact (removed.mp stillHolds).2
    · exact fun differs => ⟨_, rfl, removed.mpr ⟨holds, differs⟩⟩

theorem EntriesOk.of_onNat {op : NatAppOp} (applied : listener.onNat op = .ok next)
    (entriesOk : listener.EntriesOk) : next.EntriesOk := by
  rcases onNat_eq_ok.mp applied with ⟨before, after, isBefore, stepped, rfl⟩
  rintro natInst ⟨⟩
  exact (entriesOk before isBefore).apply stepped

variable (entriesOk : listener.EntriesOk)

include entriesOk

theorem EntriesOk.processCTMessage
    (processed : listener.processCTMessage msg cnt answer deleted = .ok next) :
    next.EntriesOk := by
  simp only [CtListener.processCTMessage, CtListener.processTCPorUDPMsg] at processed
  split at processed
  · cases processed
    exact entriesOk
  · split at processed
    · cases processed
      exact entriesOk
    · split at processed
      · cases processed
        exact entriesOk
      · split at processed
        · simp only [CtListener.startConn] at processed
          split at processed
          · exact .of_onNat processed entriesOk
          · split at processed
            · exact .of_onNat processed entriesOk
            · exact .of_onNat processed entriesOk
        · rcases except_bind_eq_ok.mp processed with ⟨mid, removed, processed⟩
          exact .of_onNat processed (.of_onNat removed entriesOk)
        · cases processed
          exact entriesOk

theorem EntriesOk.staEvent {event : StaEvent}
    (handled : listener.staEvent event = .ok next) : next.EntriesOk := by
  cases event with
  | handleSTAClientAddEvt clntIpAddr answers =>
      simp only [CtListener.staEvent, handleSTAClientAddEvt] at handled
      split at handled
      · cases handled
        exact entriesOk
      · refine .of_onNat handled ?_
        split <;> exact entriesOk
  | handleSTAClientDelEvt clntIpAddr deleted answers =>
      simp only [CtListener.staEvent, handleSTAClientDelEvt] at handled
      split at handled
      · exact .of_onNat handled entriesOk
      · rcases except_bind_eq_ok.mp handled with ⟨mid, disconnected, handled⟩
        have midOk : mid.EntriesOk := .of_onNat disconnected entriesOk
        exact .of_onNat handled midOk

variable {ipv4Addr : BitVec 32}

theorem EntriesOk.addNatIface {answers : ℕ → ℕ → Option ℕ} {isNatIface : Bool}
    (added : listener.addNatIface ipv4Addr answers = .ok (isNatIface, next)) :
    next.EntriesOk := by
  simp only [CtListener.addNatIface] at added
  split at added
  · cases added
    exact entriesOk
  · cases added
    exact entriesOk
  · rcases except_bind_eq_ok.mp added with ⟨mid, reset, added⟩
    rcases except_bind_eq_ok.mp added with ⟨last, flushed, added⟩
    cases added
    have midOk : mid.EntriesOk := .of_onNat reset entriesOk
    exact .of_onNat flushed midOk

variable {answers : ℕ → Option ℕ}

theorem EntriesOk.addNonnatIface (added : listener.addNonnatIface ipv4Addr answers = .ok next) :
    next.EntriesOk := by
  simp only [CtListener.addNonnatIface] at added
  split at added
  · cases added
    exact entriesOk
  · exact .of_onNat added entriesOk

theorem EntriesOk.handleNeighIpAddrAddEvt
    {isIpv4 : Bool} {query : Option (List String × String)} {answers : ℕ → ℕ → Option ℕ}
    (handled : listener.handleNeighIpAddrAddEvt ipv4Addr isIpv4 query answers = .ok next) :
    next.EntriesOk := by
  simp only [CtListener.handleNeighIpAddrAddEvt] at handled
  split at handled
  · cases handled
    exact entriesOk
  · split at handled
    · cases handled
      exact entriesOk
    · split at handled
      · rcases except_bind_eq_ok.mp handled with ⟨⟨isNatIface, mid⟩, searched, handled⟩
        have midOk := entriesOk.addNatIface searched
        split at handled
        · cases handled
          exact midOk
        · exact midOk.addNonnatIface handled
      · exact entriesOk.addNonnatIface handled

theorem EntriesOk.handleNeighIpAddrDelEvt {deleted : ℕ → Bool}
    (handled : listener.handleNeighIpAddrDelEvt ipv4Addr deleted answers = .ok next) :
    next.EntriesOk := by
  simp only [CtListener.handleNeighIpAddrDelEvt] at handled
  split at handled
  · cases handled
    exact entriesOk
  · rcases except_bind_eq_ok.mp handled with ⟨mid, flushed, handled⟩
    have midOk : mid.EntriesOk := .of_onNat flushed entriesOk
    exact .of_onNat handled midOk

theorem EntriesOk.map (op : NatAppOp)
    {after : NatApp maxEntries → NatApp maxEntries}
    (same : next.natInst = listener.natInst.map after)
    (applies : ∀ natInst : NatApp maxEntries, natInst.apply op = .ok (after natInst)) :
    next.EntriesOk := by
  intro natInst isInst
  rw [same] at isInst
  rcases Option.map_eq_some_iff.mp isInst with ⟨before, isBefore, rfl⟩
  exact (entriesOk before isBefore).apply (applies before)

theorem EntriesOk.handle {event : CtEvent}
    (handled : listener.handle event = .ok next) : next.EntriesOk := by
  cases event with
  | processCTMessage msg cnt answer deleted => exact entriesOk.processCTMessage handled
  | handleWanUp ipv4Addr isSta created answers =>
      cases handled
      split
      · simp only [ConntrackListener.triggerWANUp]
        split
        · exact entriesOk
        · exact entriesOk.map (.addTable ipv4Addr created answers) rfl fun _ => rfl
      · exact entriesOk
  | handleWanDown ipv4Addr deleted =>
      cases handled
      split
      · exact entriesOk.map (.deleteTable ipv4Addr deleted) rfl fun _ => rfl
      · exact entriesOk
  | handleNeighIpAddrAddEvt ipv4Addr isIpv4 query answers =>
      exact entriesOk.handleNeighIpAddrAddEvt handled
  | handleNeighIpAddrDelEvt ipv4Addr deleted answers =>
      exact entriesOk.handleNeighIpAddrDelEvt handled
  | staEvent event => exact entriesOk.staEvent handled
  | setPrivateSubnets privateSubnetTable =>
      cases handled
      exact entriesOk
  | updatePwrSaveIf clientLanIp deleted | resetPwrSaveIf clientLanIp answers =>
      simp only [CtListener.handle] at handled
      exact .of_onNat handled entriesOk

end CtListener

namespace CtRun

variable {run next : CtRun maxEntries} {event : CtEvent} {stored : StoredConn} {msg : CtMessage}
  {cnt : ℤ} {answer : Option ℕ} {deleted : Bool}

structure RunOk (run : CtRun maxEntries) : Prop where
  entriesOk : run.listener.EntriesOk
  l4proto : ∀ stored ∈ run.stored,
    ¬(ipprotoUdp ≠ stored.tuples.origL4proto ∧ ipprotoTcp ≠ stored.tuples.origL4proto)

theorem RunOk.removes_iff (runOk : run.RunOk) (isStored : stored ∈ run.stored)
    (holds : run.listener.Holds stored.conn) (same : msg.tuples = stored.tuples)
    (ends : msg.EndsConn) :
    run.Removes msg stored.conn cnt answer deleted ↔ run.Recognised msg stored := by
  have isUsed := StoredConn.conn_ne_unused same ends
  have l4proto := runOk.l4proto stored isStored
  have action := ends.action_eq
  have hasInst : run.listener.natInst.isNone = false := by
    rcases holds with ⟨natInst, isInst, _⟩
    rw [isInst]
    rfl
  simp only [Removes, processCTMessage, same, if_neg l4proto,
    processTCPorUDPMsg]
  cases classified : run.listener.classify msg with
  | none =>
      constructor
      · rintro ⟨next, processed, removed⟩
        cases processed
        exact absurd holds removed
      · rintro ⟨_, dstNat, hasStatus, admits, _⟩
        exact absurd admits (classify_eq_none classified hasStatus)
  | some result =>
      rcases result with ⟨rule, isTempEntry⟩
      rcases classify_eq_some classified with ⟨dstNat, hasStatus, admits, key⟩
      simp only [hasInst, Bool.false_eq_true, if_false]
      by_cases established : msg.tuples.replL4proto = ipprotoTcp ∧ msg.tcpState = .established
      · rw [action, if_pos established]
        constructor
        · rintro ⟨next, started, removed⟩
          exact absurd (holds.startConn isUsed started) removed
        · intro recognised
          exact absurd established.2 (recognised.notEstablished established.1)
      · rw [action, if_neg established]
        rcases runOk.entriesOk.endConn holds isUsed rule deleted with ⟨after, ended, kept⟩
        rw [ended]
        constructor
        · rintro ⟨next, ⟨⟩, removed⟩
          refine ⟨fun isTcp isEstablished => established ⟨isTcp, isEstablished⟩, dstNat,
            hasStatus, admits, ?_⟩
          rw [← key]
          by_contra differs
          exact removed (kept.mpr (Ne.symm differs))
        · rintro ⟨_, dstNat', hasStatus', _, key'⟩
          cases hasStatus.symm.trans hasStatus'
          exact ⟨after, rfl, fun stillHolds => kept.mp stillHolds (key'.symm.trans key.symm)⟩

theorem RunOk.init (isInit : run.IsInit) : run.RunOk := by
  rcases isInit with ⟨⟨⟨_, natInit⟩, _⟩, noneStored⟩
  refine ⟨?_, by simp [noneStored]⟩
  intro natInst isInst
  rcases natInit natInst isInst with ⟨algPorts, pubIpAddrPre, pwrSaveIfs, rfl⟩
  exact .init

theorem stores_l4proto {listener : CtListener maxEntries}
    (stores : listener.stores event = some stored) :
    ¬(ipprotoUdp ≠ stored.tuples.origL4proto ∧ ipprotoTcp ≠ stored.tuples.origL4proto) := by
  cases event with
  | processCTMessage msg cnt answer deleted =>
      simp only [CtListener.stores] at stores
      split at stores
      · cases stores
      · rename_i isKnown
        split at stores
        · cases stores
        · rcases Option.bind_eq_some_iff.mp stores with ⟨dstNat, _, stores⟩
          split at stores
          · cases stores
          · cases stores
            exact isKnown
  | _ => cases stores

theorem RunOk.step (runOk : run.RunOk) (stepped : run.Step event next) : next.RunOk := by
  rcases stepped with ⟨handled, storedEq⟩
  refine ⟨runOk.entriesOk.handle handled, ?_⟩
  intro stored isStored
  rw [storedEq, List.mem_append, Option.mem_toList] at isStored
  rcases isStored with isNew | isStored
  · exact stores_l4proto isNew
  · exact runOk.l4proto stored isStored

/-- In every run, a message that ends a connection removes it from the cache and from the
temporary list exactly if it is recognised by the tables that it finds. -/
theorem reachable_removes_iff (reached : Run.Reachable IsInit Step run)
    (isStored : stored ∈ run.stored) (holds : run.listener.Holds stored.conn)
    (same : msg.tuples = stored.tuples) (ends : msg.EndsConn) :
    run.Removes msg stored.conn cnt answer deleted ↔ run.Recognised msg stored := by
  have runOk : run.RunOk := by
    apply reached.invariant
    · exact fun run isInit => .init isInit
    · exact fun run event next runOk stepped => runOk.step stepped
  exact runOk.removes_iff isStored holds same ends

def udpSample (type : CtMsgType) : CtMessage where
  type := type
  tuples := ⟨7, 9, 1000, 53, ipprotoUdp, 9, 53, 2000, ipprotoUdp⟩
  srcNat := true
  dstNat := false
  tcpState := .other

def storedSample : StoredConn := ⟨(udpSample .new).tuples, false, true⟩

theorem udpSample_endsConn : (udpSample .destroy).EndsConn := .inr ⟨rfl, rfl⟩

theorem reachable_removes_udpSample :
    ∃ run : CtRun 2, run.stored = [storedSample] ∧
      run.Removes (udpSample .destroy) storedSample.conn 0 none true := by
  have start : Run.Reachable (@IsInit 2) Step ⟨StaRun.created.listener, []⟩ :=
    .start ⟨StaRun.created_isInit.1, rfl⟩
  have up : Run.Reachable (@IsInit 2) Step ⟨_, []⟩ :=
    .next (.handleWanUp 7 false true fun _ => none) start ⟨rfl, rfl⟩
  have stored : Run.Reachable (@IsInit 2) Step ⟨_, [storedSample]⟩ :=
    .next (.processCTMessage (udpSample .new) 0 (some 5) true) up ⟨rfl, rfl⟩
  have same : (udpSample .destroy).tuples = storedSample.tuples := rfl
  refine ⟨_, rfl, (reachable_removes_iff stored List.mem_cons_self ⟨_, rfl, .inl ⟨0, rfl⟩⟩ same
    udpSample_endsConn).mpr ⟨by decide, false, rfl, rfl, rfl⟩⟩

/-- The connection starts while the WAN has the address 7. It comes up again with the address 8,
and the end of the connection is ignored. -/
theorem processCTMessage_ignores_end :
    ¬∀ run : CtRun 2, Run.Reachable IsInit Step run → run.TeardownOk := by
  intro claimed
  have start : Run.Reachable (@IsInit 2) Step ⟨StaRun.created.listener, []⟩ :=
    .start ⟨StaRun.created_isInit.1, rfl⟩
  have up : Run.Reachable (@IsInit 2) Step ⟨_, []⟩ :=
    .next (.handleWanUp 7 false true fun _ => none) start ⟨rfl, rfl⟩
  have stored : Run.Reachable (@IsInit 2) Step ⟨_, [storedSample]⟩ :=
    .next (.processCTMessage (udpSample .new) 0 (some 5) true) up ⟨rfl, rfl⟩
  have down : Run.Reachable (@IsInit 2) Step ⟨_, [storedSample]⟩ :=
    .next (.handleWanDown 7 true) stored ⟨rfl, rfl⟩
  have upAgain : Run.Reachable (@IsInit 2) Step ⟨_, [storedSample]⟩ :=
    .next (.handleWanUp 8 false true fun _ => none) down ⟨rfl, rfl⟩
  rcases claimed _ upAgain storedSample List.mem_cons_self ⟨_, rfl, .inl ⟨0, rfl⟩⟩
    (udpSample .destroy) rfl udpSample_endsConn 0 none true with ⟨next, processed, removed⟩
  cases processed
  exact removed ⟨_, rfl, .inl ⟨0, rfl⟩⟩

end CtRun

end HtcPme.Ipacm
