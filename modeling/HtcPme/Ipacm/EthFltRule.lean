import HtcPme.Ipacm.EthBridge
import Mathlib.Data.Fin.Basic
import Mathlib.Logic.Function.Basic

/-!
# Filtering rules of bridged clients

A client of a bridge takes a dummy rule for each IP type, which then sends what goes to its MAC
address to routing.
-/

namespace HtcPme.Ipacm

abbrev ipacmSuccess : ℤ := 0

abbrev ipacmFailure : ℤ := -1

structure FltRuleHdl where
  ruleHdl : ℕ
  valid : Bool
  deriving DecidableEq

structure EthBridgeClientFltInfo (μ : Type*) where
  mac : μ
  fltRuleSet : IpaIpType → Bool
  fltRuleHdl : IpaIpType → ℕ

inductive HdrL2Type where
  | ethernetII
  | hdr8023
  | none
  deriving DecidableEq

/-- The attributes of the first rx property: whether `IPA_FLT_META_DATA` is among them, and the
rest. -/
structure RxAttrib where
  metaData : Bool
  rest : ℕ
  deriving DecidableEq

inductive EthRtTbl where
  | lanWlan
  | wlanWlan
  | lanLan
  deriving DecidableEq

structure EthFltRule (μ : Type*) where
  rtTblHdl : ℕ
  attrib : RxAttrib
  hdrType : HdrL2Type
  dstMacAddr : μ

/-- What a call finds outside of the pool and the table, with the outcomes of `malloc`,
`GetRoutingTable` and `ModifyFilteringRule`. -/
structure EthFltEnv where
  rxProp : Option RxAttrib
  isGuestAp : Bool
  wlanApIndex : ℕ
  numWlanApIface : ℕ
  ipaNumWlanGuestAp : ℕ
  wlanToWlanValid : Bool
  lanToWlanValid : Bool
  usbToCpeValid : Bool
  cpeToUsbValid : Bool
  wlanHdrType : HdrL2Type
  lanHdrType : HdrL2Type
  allocated : Bool
  rtTblHdl : EthRtTbl → IpaIpType → Option ℕ
  modified : Bool

namespace EthFltEnv

variable {μ : Type*} (env : EthFltEnv)

/-- The rule for a client, if there is a routing table and the headers are of a known type. -/
def fltRule (tbl : EthRtTbl) (ip : IpaIpType) (attrib : RxAttrib) (hdrType : HdrL2Type) (mac : μ) :
    Option (EthFltRule μ) :=
  match env.rtTblHdl tbl ip with
  | none => none
  | some rtTblHdl =>
      if hdrType = .none then none else some { rtTblHdl, attrib, hdrType, dstMacAddr := mac }

def wlanAttrib (attrib : RxAttrib) : RxAttrib :=
  if (¬env.isGuestAp ∧ env.numWlanApIface = 1) ∨ env.ipaNumWlanGuestAp = 0 then
    { attrib with metaData := false }
  else attrib

end EthFltEnv

/-- A pool of handles, the tables of the instances that use it, and the rules that the kernel has
in the place of dummy rules. -/
structure FltPool (num : ℕ) (ι μ : Type*) where
  hdls : IpaIpType → Fin num → FltRuleHdl
  infos : ι → List (EthBridgeClientFltInfo μ)
  kernel : IpaIpType → ℕ → Option (EthFltRule μ)

namespace FltPool

variable {num : ℕ} {ι μ : Type*} [DecidableEq ι] [DecidableEq μ]

def setValid (pool : FltPool num ι μ) (ip : IpaIpType) (slot : Fin num) (valid : Bool) :
    FltPool num ι μ :=
  { pool with
    hdls := Function.update pool.hdls ip
      (Function.update (pool.hdls ip) slot { pool.hdls ip slot with valid }) }

def setInfos (pool : FltPool num ι μ) (inst : ι) (infos : List (EthBridgeClientFltInfo μ)) :
    FltPool num ι μ :=
  { pool with infos := Function.update pool.infos inst infos }

def setRule (pool : FltPool num ι μ) (ip : IpaIpType) (ruleHdl : ℕ)
    (rule : Option (EthFltRule μ)) : FltPool num ι μ :=
  { pool with
    kernel := Function.update pool.kernel ip (Function.update (pool.kernel ip) ruleHdl rule) }

def validSlot (pool : FltPool num ι μ) (ip : IpaIpType) : Option (Fin num) :=
  Fin.find? fun slot => (pool.hdls ip slot).valid

def client (pool : FltPool num ι μ) (inst : ι) (mac : μ) :
    Option (ℕ × EthBridgeClientFltInfo μ) :=
  ((pool.infos inst).findIdx? (·.mac = mac)).bind fun pos =>
    ((pool.infos inst)[pos]?).map fun info => (pos, info)

def takeRule (ip : IpaIpType) (ruleHdl : ℕ) (info : EthBridgeClientFltInfo μ) :
    EthBridgeClientFltInfo μ :=
  { info with
    fltRuleSet := Function.update info.fltRuleSet ip true
    fltRuleHdl := Function.update info.fltRuleHdl ip ruleHdl }

def newClient (mac : μ) : EthBridgeClientFltInfo μ := ⟨mac, fun _ => false, fun _ => 0⟩

def recordRule (pool : FltPool num ι μ) (inst : ι) (mac : μ) (ip : IpaIpType) (ruleHdl : ℕ) :
    FltPool num ι μ :=
  match pool.client inst mac with
  | some (pos, info) => pool.setInfos inst ((pool.infos inst).set pos (takeRule ip ruleHdl info))
  | none => pool.setInfos inst (pool.infos inst ++ [takeRule ip ruleHdl (newClient mac)])

def hasRule (pool : FltPool num ι μ) (inst : ι) (mac : μ) (ip : IpaIpType) : Bool :=
  (pool.client inst mac).any (·.2.fltRuleSet ip)

def isFull (pool : FltPool num ι μ) (inst : ι) (mac : μ) : Bool :=
  (pool.client inst mac).isNone ∧ (pool.infos inst).length = num

/-- What the functions that add a rule share, once their own tests are passed. The handle leaves
the pool before the request is made. -/
def addClientFltRule (pool : FltPool num ι μ) (env : EthFltEnv) (rule : Option (EthFltRule μ))
    (inst : ι) (mac : μ) (ip : IpaIpType) : ℤ × FltPool num ι μ :=
  if pool.hasRule inst mac ip then (ipacmSuccess, pool)
  else if pool.isFull inst mac then (ipacmFailure, pool)
  else if env.allocated then
    match rule with
    | none => (ipacmFailure, pool)
    | some rule =>
        match pool.validSlot ip with
        | none => (ipacmFailure, pool)
        | some slot =>
            let ruleHdl := (pool.hdls ip slot).ruleHdl
            let pool := pool.setValid ip slot false
            if env.modified then
              (ipacmSuccess,
                (pool.setRule ip ruleHdl (some rule)).recordRule inst mac ip ruleHdl)
            else (ipacmFailure, pool)
  else (ipacmFailure, pool)

def slotOf (pool : FltPool num ι μ) (ip : IpaIpType) (ruleHdl : ℕ) : Option (Fin num) :=
  Fin.find? fun slot => (pool.hdls ip slot).ruleHdl = ruleHdl

/-- The part of a deletion for one IP type: the rule of the client is made a dummy rule by
`reset_to_dummy_flt_rule`, and its handle goes back into the pool. -/
def releaseRule (pool : FltPool num ι μ) (reset : Bool) (info : EthBridgeClientFltInfo μ)
    (ip : IpaIpType) : Bool × FltPool num ι μ :=
  if info.fltRuleSet ip then
    if reset then
      let pool := pool.setRule ip (info.fltRuleHdl ip) none
      match pool.slotOf ip (info.fltRuleHdl ip) with
      | none => (false, pool)
      | some slot => (true, pool.setValid ip slot true)
    else (false, pool)
  else (true, pool)

/-- What the functions that delete the rules of a client share. The table is closed up at the
end. -/
def delClientFltRule (pool : FltPool num ι μ) (reset : IpaIpType → Bool) (inst : ι)
    (mac : Option μ) : ℤ × FltPool num ι μ :=
  match mac with
  | none => (ipacmFailure, pool)
  | some mac =>
      match pool.client inst mac with
      | none => (ipacmFailure, pool)
      | some (pos, info) =>
          match pool.releaseRule (reset .v4) info .v4 with
          | (false, pool) => (ipacmFailure, pool)
          | (true, pool) =>
              match pool.releaseRule (reset .v6) info .v6 with
              | (false, pool) => (ipacmFailure, pool)
              | (true, pool) =>
                  (ipacmSuccess, pool.setInfos inst ((pool.infos inst).eraseIdx pos))

end FltPool

/-- The pools, each with the two functions that add and delete its rules. -/
inductive EthFltMember where
  | wlanLanClient
  | wlanSelfClient
  | lanWlanClient
  | lanLanClient
  deriving DecidableEq

namespace EthFltMember

def max : EthFltMember → ℕ
  | wlanLanClient | lanLanClient => ipaLanToLanMaxLanClient
  | wlanSelfClient | lanWlanClient => ipaLanToLanMaxWlanClient

end EthFltMember

section Functions

variable {ι μ : Type*} [DecidableEq ι] [DecidableEq μ] (env : EthFltEnv) (inst : ι)
  (mac : Option μ) (ip : IpaIpType) (reset : IpaIpType → Bool)

def EthFltMember.wlanAddLanClientFltRule (pool : FltPool (max wlanLanClient) ι μ) :
    ℤ × FltPool (max wlanLanClient) ι μ :=
  match env.rxProp, mac with
  | some attrib, some mac =>
      if env.isGuestAp then (ipacmSuccess, pool)
      else if env.wlanApIndex ≠ 0 then (ipacmSuccess, pool)
      else
        pool.addClientFltRule env
          (env.fltRule .lanWlan ip (env.wlanAttrib attrib) env.wlanHdrType mac) inst mac ip
  | _, _ => (ipacmFailure, pool)

def EthFltMember.wlanAddSelfClientFltRule (pool : FltPool (max wlanSelfClient) ι μ) :
    ℤ × FltPool (max wlanSelfClient) ι μ :=
  match env.rxProp, mac with
  | some attrib, some mac =>
      if env.wlanToWlanValid then
        pool.addClientFltRule env
          (env.fltRule .wlanWlan ip (env.wlanAttrib attrib) env.wlanHdrType mac) inst mac ip
      else (ipacmFailure, pool)
  | _, _ => (ipacmFailure, pool)

def EthFltMember.lanAddWlanClientFltRule (pool : FltPool (max lanWlanClient) ι μ) :
    ℤ × FltPool (max lanWlanClient) ι μ :=
  match env.rxProp, mac with
  | some attrib, some mac =>
      if env.lanToWlanValid then
        pool.addClientFltRule env (env.fltRule .lanWlan ip attrib env.lanHdrType mac) inst mac ip
      else (ipacmFailure, pool)
  | _, _ => (ipacmFailure, pool)

def EthFltMember.lanAddLanClientFltRule (pool : FltPool (max lanLanClient) ι μ) :
    ℤ × FltPool (max lanLanClient) ι μ :=
  match env.rxProp, mac with
  | some attrib, some mac =>
      if env.usbToCpeValid ∨ env.cpeToUsbValid then
        pool.addClientFltRule env (env.fltRule .lanLan ip attrib env.lanHdrType mac) inst mac ip
      else (ipacmFailure, pool)
  | _, _ => (ipacmFailure, pool)

def EthFltMember.wlanDelLanClientFltRule (pool : FltPool (max wlanLanClient) ι μ) :
    ℤ × FltPool (max wlanLanClient) ι μ :=
  pool.delClientFltRule reset inst mac

def EthFltMember.wlanDelSelfClientFltRule (pool : FltPool (max wlanSelfClient) ι μ) :
    ℤ × FltPool (max wlanSelfClient) ι μ :=
  pool.delClientFltRule reset inst mac

def EthFltMember.lanDelWlanClientFltRule (pool : FltPool (max lanWlanClient) ι μ) :
    ℤ × FltPool (max lanWlanClient) ι μ :=
  pool.delClientFltRule reset inst mac

def EthFltMember.lanDelLanClientFltRule (pool : FltPool (max lanLanClient) ι μ) :
    ℤ × FltPool (max lanLanClient) ι μ :=
  pool.delClientFltRule reset inst mac

end Functions

end HtcPme.Ipacm
