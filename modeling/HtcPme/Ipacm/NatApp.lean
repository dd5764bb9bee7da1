import HtcPme.Foundation.Run
import HtcPme.Foundation.SlotLoop
import HtcPme.Ipacm.NatDriver
import Mathlib.Data.Fin.Basic
import Mathlib.Logic.Function.Basic

/-!
# The NAT cache of the configuration manager

`NatApp` keeps the connections it wants in the NAT table: a cache with one slot for each rule, a
short list of temporary entries, and the addresses in power save. The outcomes of the calls into the
driver come with the operation.
-/

namespace HtcPme.Ipacm

open IpaNat

structure Conn where
  privateIp : BitVec 32
  targetIp : BitVec 32
  privatePort : BitVec 16
  targetPort : BitVec 16
  protocol : BitVec 8
deriving DecidableEq

def Conn.unused : Conn := ⟨0, 0, 0, 0, 0⟩

def Conn.Valid (conn : Conn) : Prop :=
  ¬(conn.privateIp = 0 ∨ conn.targetIp = 0 ∨ conn.privatePort = 0 ∨ conn.targetPort = 0 ∨
    conn.protocol = 0)

instance (conn : Conn) : Decidable conn.Valid :=
  inferInstanceAs (Decidable (¬(conn.privateIp = 0 ∨ conn.targetIp = 0 ∨ conn.privatePort = 0 ∨
    conn.targetPort = 0 ∨ conn.protocol = 0)))

theorem Conn.Valid.ne_unused {conn : Conn} (valid : conn.Valid) : conn ≠ .unused := by
  rintro rfl
  exact valid (.inl rfl)

structure NatTableEntry where
  privateIp : BitVec 32
  privatePort : BitVec 16
  targetIp : BitVec 32
  targetPort : BitVec 16
  publicIp : BitVec 32
  publicPort : BitVec 16
  protocol : BitVec 8
  timestamp : BitVec 32
  dstNat : Bool
  enabled : Bool
  ruleHdl : ℕ
deriving DecidableEq

namespace NatTableEntry

def zero : NatTableEntry := ⟨0, 0, 0, 0, 0, 0, 0, 0, false, false, 0⟩

def tcpSample : NatTableEntry := ⟨10, 1000, 20, 80, 7, 2000, 6, 0, false, false, 0⟩

def conn (entry : NatTableEntry) : Conn :=
  ⟨entry.privateIp, entry.targetIp, entry.privatePort, entry.targetPort, entry.protocol⟩

def natRule (entry : NatTableEntry) : IpaNatIpv4Rule :=
  ⟨entry.targetIp, entry.privateIp, entry.targetPort, entry.privatePort, entry.publicPort,
    entry.protocol⟩

theorem conn_ne_unused {entry : NatTableEntry} (privateIpNe : entry.privateIp ≠ 0) :
    entry.conn ≠ .unused := by
  intro isUnused
  exact privateIpNe (congrArg Conn.privateIp isUnused)

@[simp]
theorem conn_zero : zero.conn = .unused := rfl

@[simp]
theorem enabled_zero : zero.enabled = false := rfl

end NatTableEntry

abbrev ipaMaxNumWifiClients : ℕ := 32

abbrev maxTempEntries : ℕ := 25

abbrev invalidIpAddr : BitVec 32 := 0

structure IpacmAlg where
  protocol : BitVec 8
  port : BitVec 16
deriving DecidableEq

structure NatApp (maxEntries : ℕ) where
  cache : Fin maxEntries → NatTableEntry
  temp : Fin maxTempEntries → NatTableEntry
  pubIpAddr : BitVec 32
  pubIpAddrPre : BitVec 32
  natTableHdl : ℕ
  curCnt : ℤ
  algPorts : List IpacmAlg
  pwrSaveIfs : Fin ipaMaxNumWifiClients → BitVec 32
  driver : NatDriver

inductive NatFault where
  | cacheIndex (cnt : ℤ)
deriving DecidableEq

abbrev einval : ℤ := -22

namespace NatApp

variable {maxEntries : ℕ}

/-- After the constructor and `Init`, which leave `pub_ip_addr_pre` and `PwrSaveIfs` as they
find them. -/
def init (algPorts : List IpacmAlg) (pubIpAddrPre : BitVec 32)
    (pwrSaveIfs : Fin ipaMaxNumWifiClients → BitVec 32) : NatApp maxEntries where
  cache := fun _ => .zero
  temp := fun _ => .zero
  pubIpAddr := 0
  pubIpAddrPre := pubIpAddrPre
  natTableHdl := 0
  curCnt := 0
  algPorts := algPorts
  pwrSaveIfs := pwrSaveIfs
  driver := .initial

def setSlot (app : NatApp maxEntries) (cnt : Fin maxEntries) (entry : NatTableEntry) :
    NatApp maxEntries :=
  { app with cache := Function.update app.cache cnt entry }

def clearSlot (app : NatApp maxEntries) (cnt : Fin maxEntries) : NatApp maxEntries :=
  { app.setSlot cnt .zero with curCnt := app.curCnt - 1 }

section Slots

variable (app : NatApp maxEntries) (cnt : Fin maxEntries) (entry : NatTableEntry)

@[simp]
theorem cache_setSlot_self : (app.setSlot cnt entry).cache cnt = entry := by
  simp only [setSlot, Function.update_self]

@[simp]
theorem cache_clearSlot_self : (app.clearSlot cnt).cache cnt = .zero := by
  simp only [clearSlot, cache_setSlot_self]

variable {cnt} {slot : Fin maxEntries}

theorem cache_setSlot_of_ne (other : slot ≠ cnt) :
    (app.setSlot cnt entry).cache slot = app.cache slot := by
  simp only [setSlot, Function.update_of_ne other]

theorem cache_clearSlot_of_ne (other : slot ≠ cnt) :
    (app.clearSlot cnt).cache slot = app.cache slot := by
  simp only [clearSlot, cache_setSlot_of_ne app .zero other]

end Slots

def addBack (app : NatApp maxEntries) (cnt : Fin maxEntries) (answer : Option ℕ) :
    NatApp maxEntries :=
  match app.driver.ipaNatAddIpv4Rule app.natTableHdl (app.cache cnt).natRule answer with
  | none => app.clearSlot cnt
  | some (ruleHdl, driver) =>
      { app.setSlot cnt { app.cache cnt with enabled := true, ruleHdl } with driver }

theorem addBack_cache_of_ne (app : NatApp maxEntries) {cnt slot : Fin maxEntries}
    (answer : Option ℕ) (other : slot ≠ cnt) :
    (app.addBack cnt answer).cache slot = app.cache slot := by
  unfold addBack
  split
  · exact app.cache_clearSlot_of_ne other
  · exact app.cache_setSlot_of_ne _ other

def restoreSlot (app : NatApp maxEntries) (cnt : Fin maxEntries) (answer : Option ℕ) :
    NatApp maxEntries :=
  if (app.cache cnt).privateIp ≠ 0 then app.addBack cnt answer else app

def addTable (app : NatApp maxEntries) (pubIp : BitVec 32) (created : Bool)
    (answers : ℕ → Option ℕ) : ℤ × NatApp maxEntries :=
  match app.driver.ipaNatAddIpv4Tbl pubIp maxEntries created with
  | none => (einval, { app with natTableHdl := if maxEntries = 0 then app.natTableHdl else 0 })
  | some (tblHdl, driver) =>
      let app := { app with natTableHdl := tblHdl, driver }
      let app :=
        if pubIp = app.pubIpAddrPre then
          SlotLoop.forEach (fun app (cnt : Fin maxEntries) => app.restoreSlot cnt (answers cnt)) app
        else app
      (0, { app with pubIpAddr := pubIp })

/-- `Reset`. Its loop compares `enabled` with `false` and stores nothing. -/
def reset (app : NatApp maxEntries) : NatApp maxEntries :=
  { app with natTableHdl := 0, pubIpAddr := 0 }

def deleteTable (app : NatApp maxEntries) (pubIp : BitVec 32) (deleted : Bool) :
    ℤ × NatApp maxEntries :=
  if app.natTableHdl = 0 then (-1, app)
  else if app.pubIpAddr ≠ pubIp then (-1, app)
  else
    match app.driver.ipaNatDelIpv4Tbl app.natTableHdl deleted with
    | none => (einval, app)
    | some driver => (0, { app with driver, pubIpAddrPre := app.pubIpAddr }.reset)

def slotOf (app : NatApp maxEntries) (rule : NatTableEntry) : Option (Fin maxEntries) :=
  Fin.find? fun cnt => (app.cache cnt).conn = rule.conn

def chkForDup (app : NatApp maxEntries) (rule : NatTableEntry) : Bool :=
  (app.slotOf rule).isSome

def freeSlot (app : NatApp maxEntries) (start : ℕ) : Option (Fin maxEntries) :=
  Fin.find? fun cnt => start ≤ cnt ∧ (app.cache cnt).conn = .unused

def deleteEntry (app : NatApp maxEntries) (rule : NatTableEntry) (deleted : Bool) :
    ℤ × NatApp maxEntries :=
  match app.slotOf rule with
  | none => (0, app)
  | some cnt =>
      let app :=
        if (app.cache cnt).enabled then
          match app.driver.ipaNatDelIpv4Rule app.natTableHdl (app.cache cnt).ruleHdl deleted with
          | none => app
          | some driver => { app with driver }
        else app
      (0, app.clearSlot cnt)

def isAlgPort (app : NatApp maxEntries) (proto : BitVec 8) (port : BitVec 16) : Bool :=
  app.algPorts.any fun alg => proto = alg.protocol ∧ port = alg.port

def isPwrSaveIf (app : NatApp maxEntries) (ipAddr : BitVec 32) : Bool :=
  (List.finRange ipaMaxNumWifiClients).any fun cnt =>
    app.pwrSaveIfs cnt ≠ 0 ∧ ipAddr = app.pwrSaveIfs cnt

/-- `AddEntry`. `public_ip` is the one field it does not copy. -/
def addEntry (app : NatApp maxEntries) (rule : NatTableEntry) (answer : Option ℕ) :
    ℤ × NatApp maxEntries :=
  if app.natTableHdl = 0 then (-1, app)
  else if app.isAlgPort rule.protocol rule.privatePort ∨
      app.isAlgPort rule.protocol rule.targetPort then (-1, app)
  else if ¬rule.conn.Valid then (0, app)
  else if app.chkForDup rule then (-1, app)
  else
    match app.freeSlot 0 with
    | none => (-1, app)
    | some cnt =>
        let entry := { rule with timestamp := 0, publicIp := (app.cache cnt).publicIp }
        if app.isPwrSaveIf rule.privateIp ∨ app.isPwrSaveIf rule.targetIp then
          (0, { app.setSlot cnt { entry with enabled := false, ruleHdl := 0 } with
            curCnt := app.curCnt + 1 })
        else
          match app.driver.ipaNatAddIpv4Rule app.natTableHdl rule.natRule answer with
          | none => (-1, app)
          | some (ruleHdl, driver) =>
              (0, { app.setSlot cnt { entry with enabled := true, ruleHdl } with
                curCnt := app.curCnt + 1, driver })

def delRuleOf (app : NatApp maxEntries) (cnt : Fin maxEntries) (deleted : Bool)
    (after : NatApp maxEntries → NatApp maxEntries) : NatApp maxEntries :=
  match app.driver.ipaNatDelIpv4Rule app.natTableHdl (app.cache cnt).ruleHdl deleted with
  | none => app
  | some driver => after { app with driver }

/-- The first of the power save addresses that is `ipAddr`. -/
def pwrSaveSlotOf (app : NatApp maxEntries) (ipAddr : BitVec 32) :
    Option (Fin ipaMaxNumWifiClients) :=
  Fin.find? fun cnt => app.pwrSaveIfs cnt = ipAddr

/-- `PwrSaveIfs[cnt] = to` at the first `cnt` that holds `from`. -/
def replacePwrSaveIf (app : NatApp maxEntries) (old new : BitVec 32) : NatApp maxEntries :=
  match app.pwrSaveSlotOf old with
  | none => app
  | some cnt => { app with pwrSaveIfs := Function.update app.pwrSaveIfs cnt new }

section PwrSaveIfs

variable (app : NatApp maxEntries) (old new : BitVec 32)

@[simp]
theorem cache_replacePwrSaveIf : (app.replacePwrSaveIf old new).cache = app.cache := by
  unfold replacePwrSaveIf
  split
  · rfl
  · rfl

@[simp]
theorem driver_replacePwrSaveIf : (app.replacePwrSaveIf old new).driver = app.driver := by
  unfold replacePwrSaveIf
  split
  · rfl
  · rfl

end PwrSaveIfs

def pwrSaveSlot (app : NatApp maxEntries) (clientLanIp : BitVec 32) (cnt : Fin maxEntries)
    (deleted : Bool) : NatApp maxEntries :=
  if (app.cache cnt).privateIp = clientLanIp ∧ (app.cache cnt).enabled then
    app.delRuleOf cnt deleted fun app =>
      app.setSlot cnt { app.cache cnt with enabled := false, ruleHdl := 0 }
  else app

def updatePwrSaveIf (app : NatApp maxEntries) (clientLanIp : BitVec 32) (deleted : ℕ → Bool) :
    ℤ × NatApp maxEntries :=
  if clientLanIp = invalidIpAddr then (-1, app)
  else if (app.pwrSaveSlotOf clientLanIp).isSome then (0, app)
  else
    let app := app.replacePwrSaveIf 0 clientLanIp
    (0, SlotLoop.forEach (fun app (cnt : Fin maxEntries) =>
      app.pwrSaveSlot clientLanIp cnt (deleted cnt)) app)

def pwrResetSlot (app : NatApp maxEntries) (clientLanIp : BitVec 32) (cnt : Fin maxEntries)
    (answer : Option ℕ) : NatApp maxEntries :=
  if (app.cache cnt).privateIp = clientLanIp ∧ (app.cache cnt).enabled = false then
    app.addBack cnt answer
  else app

def resetPwrSaveIf (app : NatApp maxEntries) (clientLanIp : BitVec 32)
    (answers : ℕ → Option ℕ) : ℤ × NatApp maxEntries :=
  if clientLanIp = invalidIpAddr then (-1, app)
  else
    let app := app.replacePwrSaveIf clientLanIp 0
    (-1, SlotLoop.forEach (fun app (cnt : Fin maxEntries) =>
      app.pwrResetSlot clientLanIp cnt (answers cnt)) app)

def clntDisconSlot (app : NatApp maxEntries) (ipAddr : BitVec 32) (cnt : Fin maxEntries)
    (deleted : Bool) : NatApp maxEntries :=
  if (app.cache cnt).privateIp = ipAddr ∧ (app.cache cnt).enabled then
    app.delRuleOf cnt deleted fun app => app.setSlot cnt { app.cache cnt with enabled := false }
  else app

/-- `DelEntriesOnClntDiscon`: the connections stay cached. -/
def delEntriesOnClntDiscon (app : NatApp maxEntries) (ipAddr : BitVec 32) (deleted : ℕ → Bool) :
    ℤ × NatApp maxEntries :=
  if ipAddr = invalidIpAddr then (-1, app)
  else
    let app := app.replacePwrSaveIf ipAddr 0
    (0, SlotLoop.forEach (fun app (cnt : Fin maxEntries) =>
      app.clntDisconSlot ipAddr cnt (deleted cnt)) app)

def staDisconSlot (app : NatApp maxEntries) (ipAddr : BitVec 32) (cnt : Fin maxEntries)
    (deleted : Bool) : NatApp maxEntries :=
  if (app.cache cnt).targetIp = ipAddr then
    if (app.cache cnt).enabled then app.delRuleOf cnt deleted fun app => app.clearSlot cnt
    else app.clearSlot cnt
  else app

def delEntriesOnSTAClntDiscon (app : NatApp maxEntries) (ipAddr : BitVec 32)
    (deleted : ℕ → Bool) : ℤ × NatApp maxEntries :=
  if ipAddr = invalidIpAddr then (-1, app)
  else
    (0, SlotLoop.forEach (fun app (cnt : Fin maxEntries) =>
      app.staDisconSlot ipAddr cnt (deleted cnt)) app)

/-- `CacheEntry`. Its search starts at a variable that nothing initialised. -/
def cacheEntry (app : NatApp maxEntries) (rule : NatTableEntry) (cnt : ℤ) :
    Except NatFault (NatApp maxEntries) :=
  if ¬rule.conn.Valid then .ok app
  else if app.chkForDup rule then .ok app
  else if cnt < 0 ∨ maxEntries < cnt then .error (.cacheIndex cnt)
  else
    match app.freeSlot cnt.toNat with
    | none => .ok app
    | some slot =>
        .ok { app.setSlot slot { rule with timestamp := 0, enabled := false, ruleHdl := 0 } with
          curCnt := app.curCnt + 1 }

def setTemp (app : NatApp maxEntries) (cnt : Fin maxTempEntries) (entry : NatTableEntry) :
    NatApp maxEntries :=
  { app with temp := Function.update app.temp cnt entry }

def tempSlotOf (app : NatApp maxEntries) (rule : NatTableEntry) : Option (Fin maxTempEntries) :=
  Fin.find? fun cnt => (app.temp cnt).conn = rule.conn

def addTempEntry (app : NatApp maxEntries) (newEntry : NatTableEntry) : NatApp maxEntries :=
  if app.isAlgPort newEntry.protocol newEntry.privatePort ∨
      app.isAlgPort newEntry.protocol newEntry.targetPort then app
  else if app.chkForDup newEntry then app
  else if (app.tempSlotOf newEntry).isSome then app
  else
    match (Fin.find? fun cnt => (app.temp cnt).privateIp = 0 ∧ (app.temp cnt).targetIp = 0 :
        Option (Fin maxTempEntries)) with
    | none => app
    | some cnt => app.setTemp cnt newEntry

def deleteTempEntry (app : NatApp maxEntries) (entry : NatTableEntry) : NatApp maxEntries :=
  match app.tempSlotOf entry with
  | none => app
  | some cnt => app.setTemp cnt .zero

def flushTempSlot (app : NatApp maxEntries) (ipAddr : BitVec 32) (isAdd : Bool)
    (cnt : Fin maxTempEntries) (answer : Option ℕ) : NatApp maxEntries :=
  if (app.temp cnt).privateIp = ipAddr ∨ (app.temp cnt).targetIp = ipAddr then
    if isAdd ∧ (app.temp cnt).publicIp = app.pubIpAddr then
      let (ret, app) := app.addEntry (app.temp cnt) answer
      if ret ≠ 0 then app else app.setTemp cnt .zero
    else app.setTemp cnt .zero
  else app

def flushTempEntries (app : NatApp maxEntries) (ipAddr : BitVec 32) (isAdd : Bool)
    (answers : ℕ → Option ℕ) : NatApp maxEntries :=
  SlotLoop.forEach (fun app (cnt : Fin maxTempEntries) =>
    app.flushTempSlot ipAddr isAdd cnt (answers cnt)) app

end NatApp

inductive NatAppOp where
  | addTable (pubIp : BitVec 32) (created : Bool) (answers : ℕ → Option ℕ)
  | deleteTable (pubIp : BitVec 32) (deleted : Bool)
  | addEntry (rule : NatTableEntry) (answer : Option ℕ)
  | deleteEntry (rule : NatTableEntry) (deleted : Bool)
  | cacheEntry (rule : NatTableEntry) (cnt : ℤ)
  | updatePwrSaveIf (clientLanIp : BitVec 32) (deleted : ℕ → Bool)
  | resetPwrSaveIf (clientLanIp : BitVec 32) (answers : ℕ → Option ℕ)
  | delEntriesOnClntDiscon (ipAddr : BitVec 32) (deleted : ℕ → Bool)
  | delEntriesOnSTAClntDiscon (ipAddr : BitVec 32) (deleted : ℕ → Bool)
  | addTempEntry (newEntry : NatTableEntry)
  | deleteTempEntry (entry : NatTableEntry)
  | flushTempEntries (ipAddr : BitVec 32) (isAdd : Bool) (answers : ℕ → Option ℕ)

namespace NatApp

variable {maxEntries : ℕ}

def apply (app : NatApp maxEntries) : NatAppOp → Except NatFault (NatApp maxEntries)
  | .addTable pubIp created answers => .ok (app.addTable pubIp created answers).2
  | .deleteTable pubIp deleted => .ok (app.deleteTable pubIp deleted).2
  | .addEntry rule answer => .ok (app.addEntry rule answer).2
  | .deleteEntry rule deleted => .ok (app.deleteEntry rule deleted).2
  | .cacheEntry rule cnt => app.cacheEntry rule cnt
  | .updatePwrSaveIf clientLanIp deleted => .ok (app.updatePwrSaveIf clientLanIp deleted).2
  | .resetPwrSaveIf clientLanIp answers => .ok (app.resetPwrSaveIf clientLanIp answers).2
  | .delEntriesOnClntDiscon ipAddr deleted => .ok (app.delEntriesOnClntDiscon ipAddr deleted).2
  | .delEntriesOnSTAClntDiscon ipAddr deleted =>
      .ok (app.delEntriesOnSTAClntDiscon ipAddr deleted).2
  | .addTempEntry newEntry => .ok (app.addTempEntry newEntry)
  | .deleteTempEntry entry => .ok (app.deleteTempEntry entry)
  | .flushTempEntries ipAddr isAdd answers => .ok (app.flushTempEntries ipAddr isAdd answers)

def IsInit (app : NatApp maxEntries) : Prop :=
  ∃ algPorts pubIpAddrPre pwrSaveIfs, app = init algPorts pubIpAddrPre pwrSaveIfs

def Step (app : NatApp maxEntries) (op : NatAppOp) (next : NatApp maxEntries) : Prop :=
  app.apply op = .ok next

end NatApp

end HtcPme.Ipacm
