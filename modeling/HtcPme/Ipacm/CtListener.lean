import HtcPme.Ipacm.ConntrackListener

/-!
# Conntrack messages

The tables by which `IPACM_ConntrackListener` tells the connections that it offloads.
-/

namespace HtcPme.Ipacm

abbrev maxNatIfaces : ℕ := 50

abbrev maxStaClntIfaces : ℕ := 10

structure PrivateSubnet where
  subnetAddr : BitVec 32
  subnetMask : BitVec 32
deriving DecidableEq

/-- `IPACM_ConntrackListener`, with the private subnets of the configuration. -/
structure CtListener (maxEntries : ℕ) extends ConntrackListener maxEntries where
  staClntCnt : ℤ
  natIfaceIpv4Addr : List (BitVec 32)
  nonnatIfaceIpv4Addr : List (BitVec 32)
  staClntIpv4Addr : List (BitVec 32)
  privateSubnetTable : List PrivateSubnet

inductive CtFault where
  | natInst
  | nat (fault : NatFault)
deriving DecidableEq

/-- `nf_conntrack_msg_type` -/
inductive CtMsgType where
  | new
  | update
  | destroy
deriving DecidableEq

inductive TcpState where
  | established
  | finWait
  | other
deriving DecidableEq

structure CtTuples where
  origIpv4Src : BitVec 32
  origIpv4Dst : BitVec 32
  origPortSrc : BitVec 16
  origPortDst : BitVec 16
  origL4proto : BitVec 8
  replIpv4Src : BitVec 32
  replPortSrc : BitVec 16
  replPortDst : BitVec 16
  replL4proto : BitVec 8
deriving DecidableEq

/-- A conntrack message; `ATTR_STATUS` by its two bits that are read. -/
structure CtMessage where
  type : CtMsgType
  tuples : CtTuples
  srcNat : Bool
  dstNat : Bool
  tcpState : TcpState
deriving DecidableEq

abbrev ipprotoTcp : BitVec 8 := 6

abbrev ipprotoUdp : BitVec 8 := 17

/-- Stores an address in the first free slot, unless it is found before that. The loop ends
without a result where no slot is free. -/
def storeAddr (addr : BitVec 32) : List (BitVec 32) → Option (Bool × List (BitVec 32))
  | [] => none
  | slot :: slots =>
      if slot ≠ 0 ∧ slot = addr then some (false, slot :: slots)
      else if slot = 0 then some (true, addr :: slots)
      else (storeAddr addr slots).map fun (stored, slots) => (stored, slot :: slots)

def clearAddr (addr : BitVec 32) : List (BitVec 32) → Option (List (BitVec 32))
  | [] => none
  | slot :: slots =>
      if slot ≠ 0 ∧ slot = addr then some (0 :: slots)
      else (clearAddr addr slots).map fun slots => slot :: slots

def storeNonnatAddr (addr : BitVec 32) : List (BitVec 32) → Option (List (BitVec 32))
  | [] => none
  | slot :: slots =>
      if slot = 0 then some (addr :: slots)
      else (storeNonnatAddr addr slots).map fun slots => slot :: slots

inductive StaMatch where
  | notChecked
  | otherSubnet
  | found
  | notFound
deriving DecidableEq

def natStatus (wanIpaddr : BitVec 32) (msg : CtMessage) : Option Bool :=
  if msg.dstNat then some true
  else if msg.srcNat then some false
  else if msg.tuples.origIpv4Src = 0 then none
  else if msg.tuples.origIpv4Dst = 0 then none
  else if msg.tuples.origIpv4Src = wanIpaddr then some false
  else if msg.tuples.origIpv4Dst = wanIpaddr then some true
  else none

def CtTuples.rule (tuples : CtTuples) (dstNat : Bool) : NatTableEntry :=
  if dstNat then
    { NatTableEntry.zero with
      protocol := tuples.replL4proto
      dstNat := true
      targetIp := tuples.origIpv4Src
      targetPort := tuples.origPortSrc
      publicPort := tuples.origPortDst
      privateIp := tuples.replIpv4Src
      privatePort := tuples.replPortSrc }
  else
    { NatTableEntry.zero with
      protocol := tuples.replL4proto
      dstNat := false
      targetIp := tuples.origIpv4Dst
      targetPort := tuples.origPortDst
      publicPort := tuples.replPortDst
      privateIp := tuples.origIpv4Src
      privatePort := tuples.origPortSrc }

theorem except_bind_eq_ok {ε α β : Type} {first : Except ε α} {rest : α → Except ε β}
    {result : β} :
    first >>= rest = .ok result ↔ ∃ mid, first = .ok mid ∧ rest mid = .ok result := by
  cases first with
  | error fault => simp [bind, Except.bind]
  | ok mid => simp [bind, Except.bind]

namespace CtListener

variable {maxEntries : ℕ}

def onNat (listener : CtListener maxEntries) (op : NatAppOp) :
    Except CtFault (CtListener maxEntries) :=
  match listener.natInst with
  | none => .error .natInst
  | some natInst =>
      match natInst.apply op with
      | .error fault => .error (.nat fault)
      | .ok natInst => .ok { listener with natInst := some natInst }

theorem onNat_eq_ok {listener next : CtListener maxEntries} {op : NatAppOp} :
    listener.onNat op = .ok next ↔ ∃ before after, listener.natInst = some before ∧
      before.apply op = .ok after ∧ next = { listener with natInst := some after } := by
  cases isInst : listener.natInst with
  | none => simp [onNat, isInst]
  | some before =>
      cases applied : before.apply op with
      | error fault => simp [onNat, isInst, applied]
      | ok after => simp [onNat, isInst, applied, eq_comm]

def handleSTAClientAddEvt (listener : CtListener maxEntries) (clntIpAddr : BitVec 32)
    (answers : ℕ → Option ℕ) : Except CtFault (CtListener maxEntries) :=
  if maxStaClntIfaces ≤ listener.staClntCnt then .ok listener
  else
    let listener :=
      match storeAddr clntIpAddr listener.staClntIpv4Addr with
      | some (true, slots) =>
          { listener with staClntIpv4Addr := slots, staClntCnt := listener.staClntCnt + 1 }
      | _ => listener
    listener.onNat (.flushTempEntries clntIpAddr true answers)

def handleSTAClientDelEvt (listener : CtListener maxEntries) (clntIpAddr : BitVec 32)
    (deleted : ℕ → Bool) (answers : ℕ → Option ℕ) : Except CtFault (CtListener maxEntries) :=
  match clearAddr clntIpAddr listener.staClntIpv4Addr with
  | none => listener.onNat (.flushTempEntries clntIpAddr false answers)
  | some slots => do
      let listener ← { listener with staClntIpv4Addr := slots }.onNat
        (.delEntriesOnSTAClntDiscon clntIpAddr deleted)
      { listener with staClntCnt := listener.staClntCnt - 1 }.onNat
        (.flushTempEntries clntIpAddr false answers)

def addNatIface (listener : CtListener maxEntries) (ipv4Addr : BitVec 32)
    (answers : ℕ → ℕ → Option ℕ) : Except CtFault (Bool × CtListener maxEntries) :=
  match storeAddr ipv4Addr listener.natIfaceIpv4Addr with
  | none => .ok (false, listener)
  | some (false, _) => .ok (true, listener)
  | some (true, slots) => do
      let listener ← { listener with natIfaceIpv4Addr := slots }.onNat
        (.resetPwrSaveIf ipv4Addr (answers 0))
      let listener ← listener.onNat (.flushTempEntries ipv4Addr true (answers 1))
      return (true, listener)

def addNonnatIface (listener : CtListener maxEntries) (ipv4Addr : BitVec 32)
    (answers : ℕ → Option ℕ) : Except CtFault (CtListener maxEntries) :=
  match storeNonnatAddr ipv4Addr listener.nonnatIfaceIpv4Addr with
  | none => .ok listener
  | some slots =>
      { listener with nonnatIfaceIpv4Addr := slots }.onNat
        (.flushTempEntries ipv4Addr false answers)

/-- `HandleNeighIpAddrAddEvt`; `query` has the names of the NAT interfaces and that of the
interface of the event, unless one of the calls for them fails. -/
def handleNeighIpAddrAddEvt (listener : CtListener maxEntries) (ipv4Addr : BitVec 32)
    (isIpv4 : Bool) (query : Option (List String × String)) (answers : ℕ → ℕ → Option ℕ) :
    Except CtFault (CtListener maxEntries) :=
  if ipv4Addr = 0 ∨ !isIpv4 then .ok listener
  else
    match query with
    | none => .ok listener
    | some (natIfaces, ifrName) => do
        let (isNatIface, listener) ←
          if ifrName ∈ natIfaces then listener.addNatIface ipv4Addr answers
          else .ok (false, listener)
        if isNatIface then .ok listener else listener.addNonnatIface ipv4Addr (answers 1)

def handleNeighIpAddrDelEvt (listener : CtListener maxEntries) (ipv4Addr : BitVec 32)
    (deleted : ℕ → Bool) (answers : ℕ → Option ℕ) : Except CtFault (CtListener maxEntries) :=
  if ipv4Addr = 0 then .ok listener
  else do
    let reset := fun slot => if slot = ipv4Addr then 0 else slot
    let listener :=
      { listener with
        natIfaceIpv4Addr := listener.natIfaceIpv4Addr.map reset
        nonnatIfaceIpv4Addr := listener.nonnatIfaceIpv4Addr.map reset }
    let listener ← listener.onNat (.flushTempEntries ipv4Addr false answers)
    listener.onNat (.delEntriesOnClntDiscon ipv4Addr deleted)

def isPrivateSubnet (listener : CtListener maxEntries) (ipAddr : BitVec 32) : Bool :=
  listener.privateSubnetTable.any fun subnet =>
    subnet.subnetAddr = subnet.subnetMask &&& ipAddr

def isNatIface (listener : CtListener maxEntries) (rule : NatTableEntry) : Bool :=
  listener.natIfaceIpv4Addr.any fun slot =>
    slot ≠ 0 ∧ (rule.privateIp = slot ∨ rule.targetIp = slot)

def staMatch (listener : CtListener maxEntries) (targetIp : BitVec 32) : StaMatch :=
  if !listener.isStaMode ∨ listener.staClntCnt = 0 then .notChecked
  else if listener.staClntIpv4Addr.headD 0 &&& 0xFFFFFF00 ≠ targetIp &&& 0xFFFFFF00 then
    .otherSubnet
  else if (listener.staClntIpv4Addr.take listener.staClntCnt.toNat).contains targetIp then .found
  else .notFound

/-- The tests of `ProcessTCPorUDPMsg` on an entry: the entry that is added or deleted, and
whether it is a temporary one. -/
def admitRule (listener : CtListener maxEntries) (rule : NatTableEntry) :
    Option (NatTableEntry × Bool) :=
  if rule.privateIp ≠ listener.wanIpaddr then
    if listener.isNatIface rule then some (rule, false)
    else if listener.isPrivateSubnet rule.privateIp ∨ listener.isPrivateSubnet rule.targetIp then
      some (rule, true)
    else none
  else if listener.isStaMode then none
  else some ({ rule with privatePort := rule.publicPort }, false)

/-- `ProcessTCPorUDPMsg` up to the entry with its public address. -/
def classify (listener : CtListener maxEntries) (msg : CtMessage) :
    Option (NatTableEntry × Bool) := do
  let dstNat ← natStatus listener.wanIpaddr msg
  let (rule, isTempEntry) ← listener.admitRule (msg.tuples.rule dstNat)
  return ({ rule with publicIp := listener.wanIpaddr },
    isTempEntry || listener.staMatch rule.targetIp = .notFound)

/-- A connection starts; the search of `CacheEntry` starts at `cnt`. -/
def startConn (listener : CtListener maxEntries) (rule : NatTableEntry) (isTempEntry : Bool)
    (cnt : ℤ) (answer : Option ℕ) : Except CtFault (CtListener maxEntries) :=
  if !listener.wanUp then listener.onNat (.cacheEntry rule cnt)
  else if isTempEntry then listener.onNat (.addTempEntry rule)
  else listener.onNat (.addEntry rule answer)

def endConn (listener : CtListener maxEntries) (rule : NatTableEntry) (deleted : Bool) :
    Except CtFault (CtListener maxEntries) := do
  let listener ← listener.onNat (.deleteEntry rule deleted)
  listener.onNat (.deleteTempEntry rule)

inductive CtAction where
  | start
  | finish
  | nothing
deriving DecidableEq

end CtListener

/-- The tests of `ProcessTCPorUDPMsg` on protocol, state and type. -/
def CtMessage.action (msg : CtMessage) : CtListener.CtAction :=
  if msg.tuples.replL4proto = ipprotoTcp then
    if msg.tcpState = .established then .start
    else if msg.tcpState = .finWait ∨ msg.type = .destroy then .finish
    else .nothing
  else if msg.tuples.replL4proto = ipprotoUdp then
    if msg.type = .new then .start
    else if msg.type = .destroy then .finish
    else .nothing
  else .nothing

namespace CtListener

variable {maxEntries : ℕ}

def processTCPorUDPMsg (listener : CtListener maxEntries) (msg : CtMessage) (cnt : ℤ)
    (answer : Option ℕ) (deleted : Bool) : Except CtFault (CtListener maxEntries) :=
  match listener.classify msg with
  | none => .ok listener
  | some (rule, isTempEntry) =>
      if listener.natInst.isNone then .ok listener
      else
        match msg.action with
        | .start => listener.startConn rule isTempEntry cnt answer
        | .finish => listener.endConn rule deleted
        | .nothing => .ok listener

def processCTMessage (listener : CtListener maxEntries) (msg : CtMessage) (cnt : ℤ)
    (answer : Option ℕ) (deleted : Bool) : Except CtFault (CtListener maxEntries) :=
  if ipprotoUdp ≠ msg.tuples.origL4proto ∧ ipprotoTcp ≠ msg.tuples.origL4proto then .ok listener
  else listener.processTCPorUDPMsg msg cnt answer deleted

def IsInit (listener : CtListener maxEntries) : Prop :=
  listener.toConntrackListener.IsInit ∧
    listener.staClntCnt = 0 ∧
    listener.natIfaceIpv4Addr = .replicate maxNatIfaces 0 ∧
    listener.nonnatIfaceIpv4Addr = .replicate maxNatIfaces 0 ∧
    listener.staClntIpv4Addr = .replicate maxStaClntIfaces 0

end CtListener

end HtcPme.Ipacm
