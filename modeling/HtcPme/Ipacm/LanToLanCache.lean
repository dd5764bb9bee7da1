import HtcPme.Ipacm.CfgXml
import HtcPme.Ipacm.LanToLan

/-!
# Connections between LAN clients

In a build with `CT_OPT`, a connection between two clients of the table is posted to the event
queue; one that could become such a connection waits in a cache until the second of its clients
enters the table.
-/

namespace HtcPme.Ipacm

structure EventConnection (α : Type) where
  srcAddr : α
  dstAddr : α
deriving DecidableEq

/-- What depends on the IP type and the configuration: the keys of addresses, which of them are
valid, and `if_cat` of an interface. -/
structure LanConfig (α κ ι : Type) where
  key : α → κ
  isValid : α → Bool
  ifCat : ι → IpacmIfaceType

namespace LanConfig

variable {α κ ι : Type}

def ipv4 (subnets : PrivateSubnets) (ifCat : ι → IpacmIfaceType) : LanConfig UInt32 UInt32 ι where
  key := id
  isValid addr := (List.range subnets.ipaNumPrivateSubnet).any fun i =>
    addr &&& (subnets.privateSubnetTable i).subnetMask =
      (subnets.privateSubnetTable i).subnetAddr &&& (subnets.privateSubnetTable i).subnetMask
  ifCat := ifCat

local instance : NeZero 4 := ⟨by decide⟩

def ipv6 (ifCat : ι → IpacmIfaceType) : LanConfig (Fin 4 → UInt32) UInt64 ι where
  key addr := (addr 3).toUInt64 <<< 32 ||| (addr 2).toUInt64
  isValid addr := addr 0 &&& 0xff000000 ≠ 0xff000000
  ifCat := ifCat

variable (config : LanConfig α κ ι)

def areLan2lan (pIface : κ → Option ι) (src dst : κ) : Bool :=
  match pIface src, pIface dst with
  | some srcIface, some dstIface => config.ifCat srcIface ≠ config.ifCat dstIface
  | _, _ => false

def isLan2lanConnection (pIface : κ → Option ι) (conn : EventConnection α) : Bool :=
  config.areLan2lan pIface (config.key conn.srcAddr) (config.key conn.dstAddr)

def isPotentialLan2lanConnection (conn : EventConnection α) : Bool :=
  config.isValid conn.srcAddr && config.isValid conn.dstAddr

/-- The test of `check_cache_connection`: one end has the address of the client, and the other one
is in the table. -/
def isReplayed [DecidableEq α] (pIface : κ → Option ι) (addr : α) (conn : EventConnection α) :
    Bool :=
  (conn.srcAddr = addr && (pIface (config.key conn.dstAddr)).isSome) ||
    (conn.dstAddr = addr && (pIface (config.key conn.srcAddr)).isSome)

end LanConfig

def EventLanClient.keyed {α κ ι μ : Type} (key : α → κ) (data : EventLanClient α ι μ) :
    EventLanClient κ ι μ where
  addr := key data.addr
  macAddr := data.macAddr
  ipv6AddrSet := data.ipv6AddrSet
  pIface := data.pIface

/-- The events of the queue that are for `IPACM_LanToLan`. -/
inductive LanEvent (α ι μ : Type) where
  | clientActive (data : EventLanClient α ι μ)
  | newConnection (conn : EventConnection α)
  | delConnection (conn : EventConnection α)

structure CtLanToLan (α κ ι μ : Type) where
  app : LanToLan κ ι μ
  connections : List (EventConnection α)
  queue : List (LanEvent α ι μ)

def maxCacheConnection : ℕ := 20

namespace CtLanToLan

variable {α κ ι μ : Type} [DecidableEq α] (config : LanConfig α κ ι) (lan : CtLanToLan α κ ι μ)

def postEvt (event : LanEvent α ι μ) : CtLanToLan α κ ι μ :=
  { lan with queue := lan.queue ++ [event] }

def cacheNewConnection (conn : EventConnection α) : CtLanToLan α κ ι μ :=
  if config.isPotentialLan2lanConnection conn then
    let room := if lan.connections.length = maxCacheConnection then [] else lan.connections
    { lan with connections := room ++ [conn] }
  else lan

def removeCacheConnection (conn : EventConnection α) : CtLanToLan α κ ι μ :=
  if config.isPotentialLan2lanConnection conn then
    { lan with connections := lan.connections.erase conn }
  else lan

def checkCacheConnection (addr : α) : CtLanToLan α κ ι μ :=
  let hits := lan.connections.filter (config.isReplayed lan.app.pIface addr)
  { lan with
    connections := lan.connections.filter (!config.isReplayed lan.app.pIface addr ·)
    queue := lan.queue ++ hits.map .newConnection }

def handleNewConnection (conn : EventConnection α) : CtLanToLan α κ ι μ :=
  if config.isLan2lanConnection lan.app.pIface conn then lan.postEvt (.newConnection conn)
  else lan.cacheNewConnection config conn

def handleDelConnection (conn : EventConnection α) : CtLanToLan α κ ι μ :=
  if config.isLan2lanConnection lan.app.pIface conn then lan.postEvt (.delConnection conn)
  else lan.removeCacheConnection config conn

variable [DecidableEq κ] [DecidableEq ι] [DecidableEq μ]

def isKept (app : LanToLan κ ι μ) (client : κ) (macAddr : μ) : Bool :=
  match app.clientInfo client with
  | some info => info.isActive && info.macAddr = macAddr
  | none => false

def handleClientActive (answers : LanAnswers κ) (data : EventLanClient α ι μ) :
    CtLanToLan α κ ι μ :=
  let active := { lan with app := lan.app.handleClientActive answers (data.keyed config.key) }
  match data.populated with
  | none => active
  | some (macAddr, _) =>
      if isKept lan.app (config.key data.addr) macAddr then active
      else active.checkCacheConnection config data.addr

def eventCallback (answers : LanAnswers κ) : LanEvent α ι μ → CtLanToLan α κ ι μ
  | .clientActive data => lan.handleClientActive config answers data
  | .newConnection conn =>
      { lan with
        app := lan.app.handleNewLan2lanConnection answers (config.key conn.srcAddr)
          (config.key conn.dstAddr) }
  | .delConnection conn =>
      { lan with
        app := lan.app.handleDelLan2lanConnection answers (config.key conn.srcAddr)
          (config.key conn.dstAddr) }

def processEvt (answers : LanAnswers κ) : CtLanToLan α κ ι μ :=
  match lan.queue with
  | [] => lan
  | event :: rest => eventCallback config { lan with queue := rest } answers event

end CtLanToLan

end HtcPme.Ipacm
