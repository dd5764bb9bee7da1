import HtcPme.Foundation.HandleTable
import HtcPme.Foundation.Run
import HtcPme.Ipacm.WlanClient

/-!
# Bridging rules of a LAN interface

The clients of a LAN interface have routing rules for the packets from WLAN and other LAN
interfaces. The rules refer to header-processing contexts, which WLAN interfaces set and remove.
-/

namespace HtcPme.Ipacm

inductive EthBridgeSrcIface where
  | srcWlan
  | srcLan
deriving DecidableEq

/-- `ipacm_iface_type`, of the interfaces that bridge. -/
inductive EthIfCat where
  | lanIf
  | wlanIf
  | oduIf
deriving DecidableEq

def ipaLanToLanMaxLanClient : ℕ := 16

def ipaLanToLanMaxWlanClient : ℕ := 16

structure HdrProcCtxInfo where
  procCtxHdl : ℕ
  valid : Bool
deriving DecidableEq

structure HdrProcCtxs where
  lanToWlan : HdrProcCtxInfo
  wlanToUsb : HdrProcCtxInfo
  cpeToUsb : HdrProcCtxInfo
  usbToCpe : HdrProcCtxInfo

/-- What is fixed: the tx properties, the number of the interface, and whether the WLAN and the LAN
headers are those of Ethernet II. -/
structure EthIface where
  txProp : List TxProp
  ipaIfNum : ℕ
  wlanHdrEtherII : Bool
  lanHdrEtherII : Bool

def EthIface.eachClientRtRuleCount (iface : EthIface) (ip : IpaIpType) : ℕ :=
  (iface.txProp.filter (·.ip = ip)).length

structure EthRtRule (μ : Type*) where
  rtTblName : EthBridgeSrcIface
  dst : ℕ
  hdrProcCtxHdl : ℕ
  attrib : ℕ
  etherII : Bool
  dstMacAddr : μ
deriving DecidableEq

def EthRtRule.target {μ : Type*} (rule : EthRtRule μ) : EthBridgeSrcIface × ℕ × μ :=
  (rule.rtTblName, rule.dst, rule.dstMacAddr)

structure EthBridgeClientRtInfo (μ : Type*) where
  mac : μ
  rtRuleHdl : List ℕ

/-- The four tables of rules and what the kernel has. `reach`, which is not in the source, is one
more than the last index at which a table was accessed. -/
structure EthRtTables (μ : Type*) where
  rtInfo : EthBridgeSrcIface × IpaIpType → List (EthBridgeClientRtInfo μ)
  kernel : IpaIpType → HandleTable (EthRtRule μ)
  reach : EthBridgeSrcIface × IpaIpType → ℕ

namespace EthRtTables

variable {μ : Type*} (tables : EthRtTables μ) (iface : EthIface)
  (ctxs : HdrProcCtxs) (source : HandleSource) (mac : μ) (src : EthBridgeSrcIface) (ip : IpaIpType)

def init : EthRtTables μ := ⟨fun _ => [], fun _ => .empty, fun _ => 0⟩

def allocated : EthBridgeSrcIface × IpaIpType → ℕ
  | (_, .v4) => ipaLanToLanMaxLanClient
  | (_, .v6) => ipaLanToLanMaxWlanClient

def macs (key : EthBridgeSrcIface × IpaIpType) : List μ := (tables.rtInfo key).map (·.mac)

def maxClient : EthBridgeSrcIface → ℕ
  | .srcLan => ipaLanToLanMaxLanClient
  | .srcWlan => ipaLanToLanMaxWlanClient

def access (key : EthBridgeSrcIface × IpaIpType) (upTo : ℕ) : EthRtTables μ :=
  { tables with reach := Function.update tables.reach key (max (tables.reach key) upTo) }

def clientRules : List (EthRtRule μ) :=
  (iface.txProp.filter (·.ip = ip)).map fun tx =>
    { rtTblName := src
      dst := tx.dstPipe
      hdrProcCtxHdl :=
        match src with
        | .srcWlan => ctxs.wlanToUsb.procCtxHdl
        | .srcLan => ctxs.cpeToUsb.procCtxHdl
      attrib := tx.attrib
      etherII :=
        match src with
        | .srcWlan => iface.wlanHdrEtherII
        | .srcLan => iface.lanHdrEtherII
      dstMacAddr := mac }

variable [DecidableEq μ]

def ethBridgeAddLanClientRtRule : EthRtTables μ :=
  if src = .srcWlan ∧ ctxs.wlanToUsb.valid = false then tables
  else if src = .srcLan ∧ ctxs.usbToCpe.valid = false ∧ ctxs.cpeToUsb.valid = false then tables
  else if (tables.rtInfo (src, ip)).length = maxClient src then tables
  else if mac ∈ tables.macs (src, ip) then
    tables.access (src, ip) (tables.rtInfo (src, ip)).length
  else
    let tables := tables.access (src, ip) ((tables.rtInfo (src, ip)).length + 1)
    let (hdls, added) := (tables.kernel ip).add source (clientRules iface ctxs mac src ip)
    { tables with
      kernel := Function.update tables.kernel ip added
      rtInfo := Function.update tables.rtInfo (src, ip) (tables.rtInfo (src, ip) ++ [⟨mac, hdls⟩]) }

/-- What `eth_bridge_del_lan_client_rt_rule` does with the table of one IP type: none if the client
is not found. -/
def delFromTable : Option (EthRtTables μ) :=
  match (tables.rtInfo (src, ip)).find? (·.mac = mac) with
  | none => none
  | some info =>
      let tables := tables.access (src, ip) (tables.rtInfo (src, ip)).length
      some
        { tables with
          kernel := Function.update tables.kernel ip
            ((tables.kernel ip).deleteAll info.rtRuleHdl)
          rtInfo := Function.update tables.rtInfo (src, ip)
            ((tables.rtInfo (src, ip)).eraseP (·.mac = mac)) }

def ethBridgeDelLanClientRtRule : EthRtTables μ :=
  match tables.delFromTable mac src .v4 with
  | none => tables.access (src, .v4) (tables.rtInfo (src, .v4)).length
  | some tables =>
      match tables.delFromTable mac src .v6 with
      | none => tables.access (src, .v6) (tables.rtInfo (src, .v6)).length
      | some tables => tables

/-- Both IP types, as every caller of `eth_bridge_add_lan_client_rt_rule` does. -/
def addLanClientRtRules : EthRtTables μ :=
  (tables.ethBridgeAddLanClientRtRule iface ctxs source mac src .v4).ethBridgeAddLanClientRtRule
    iface ctxs source mac src .v6

end EthRtTables

/-- `IPA_ETH_BRIDGE_HDR_PROC_CTX_SET_EVENT` and `IPA_ETH_BRIDGE_HDR_PROC_CTX_UNSET_EVENT`. -/
inductive HdrProcCtxEvent where
  | set
  | unset
deriving DecidableEq

/-- A LAN interface, with the statics and the event queue. `connected`, which is not in the source,
has the clients whose neighbour was added and not deleted over IPv4. -/
structure EthBridge (μ : Type*) where
  iface : EthIface
  ctxs : HdrProcCtxs
  lanClient : List (μ × ℕ)
  tables : EthRtTables μ
  queue : List (HdrProcCtxEvent × EthIfCat)
  connected : List μ

inductive EthBridgeEvent (μ : Type*) where
  | neighAdd (mac : μ) (ipAddrSet : Bool) (source : HandleSource)
  | neighDel (mac : μ)
  | addHdrProcCtx (lanToWlanHdl wlanToUsbHdl : ℕ)
  | delHdrProcCtx
  | dispatch (source : HandleSource)

namespace EthBridge

variable {μ : Type*} (bridge : EthBridge μ) (source : HandleSource) (mac : μ)

/-- `add_hdr_proc_ctx`, called by a WLAN interface while the LAN interface is up. -/
def addHdrProcCtx (lanToWlanHdl wlanToUsbHdl : ℕ) : EthBridge μ :=
  let bridge :=
    if bridge.ctxs.lanToWlan.valid then bridge
    else
      { bridge with
        ctxs.lanToWlan := ⟨lanToWlanHdl, true⟩
        queue := bridge.queue ++ [(.set, .wlanIf)] }
  if bridge.ctxs.wlanToUsb.valid then bridge
  else { bridge with ctxs.wlanToUsb := ⟨wlanToUsbHdl, true⟩ }

def delHdrProcCtx : EthBridge μ :=
  let bridge :=
    if bridge.ctxs.lanToWlan.valid then
      { bridge with
        ctxs.lanToWlan.valid := false
        queue := bridge.queue ++ [(.unset, .wlanIf)] }
    else bridge
  if bridge.ctxs.wlanToUsb.valid then { bridge with ctxs.wlanToUsb.valid := false } else bridge

def ownClients : List μ :=
  (bridge.lanClient.filter (·.2 = bridge.iface.ipaIfNum)).map Prod.fst

def srcOf : EthIfCat → EthBridgeSrcIface
  | .wlanIf => .srcWlan
  | _ => .srcLan

variable [DecidableEq μ]

def addClientRules : EthRtTables μ :=
  let tables :=
    if bridge.ctxs.cpeToUsb.valid then
      bridge.tables.addLanClientRtRules bridge.iface bridge.ctxs source mac .srcLan
    else bridge.tables
  if bridge.ctxs.wlanToUsb.valid then
    tables.addLanClientRtRules bridge.iface bridge.ctxs source mac .srcWlan
  else tables

def delClientRules : EthRtTables μ :=
  let tables :=
    if bridge.ctxs.cpeToUsb.valid then bridge.tables.ethBridgeDelLanClientRtRule mac .srcLan
    else bridge.tables
  if bridge.ctxs.wlanToUsb.valid then tables.ethBridgeDelLanClientRtRule mac .srcWlan else tables

def ethBridgeAddLanClient : List (μ × ℕ) :=
  if bridge.lanClient.length = ipaLanToLanMaxLanClient then bridge.lanClient
  else if mac ∈ bridge.lanClient.map Prod.fst then bridge.lanClient
  else bridge.lanClient ++ [(mac, bridge.iface.ipaIfNum)]

def ethBridgeDelLanClient : List (μ × ℕ) := bridge.lanClient.eraseP (·.1 = mac)

/-- `IPA_NEIGH_CLIENT_IP_ADDR_ADD_EVENT`. It returns early where `handle_eth_client_ipaddr` fails.
-/
def neighAdd (ipAddrSet : Bool) : EthBridge μ :=
  if ipAddrSet then
    { bridge with
      tables := bridge.addClientRules source mac
      lanClient := bridge.ethBridgeAddLanClient mac
      connected := bridge.connected.insert mac }
  else bridge

def neighDel : EthBridge μ :=
  { bridge with
    tables := bridge.delClientRules mac
    lanClient := bridge.ethBridgeDelLanClient mac
    connected := bridge.connected.filter (· ≠ mac) }

def handleHdrProcCtxEvent : HdrProcCtxEvent × EthIfCat → EthRtTables μ
  | (_, .lanIf) => bridge.tables
  | (.set, cat) =>
      bridge.ownClients.foldl
        (fun tables mac =>
          tables.addLanClientRtRules bridge.iface bridge.ctxs source mac (srcOf cat))
        bridge.tables
  | (.unset, cat) =>
      bridge.ownClients.foldl
        (fun tables mac => tables.ethBridgeDelLanClientRtRule mac (srcOf cat)) bridge.tables

def step : EthBridgeEvent μ → Option (EthBridge μ)
  | .neighAdd mac ipAddrSet source => some (bridge.neighAdd source mac ipAddrSet)
  | .neighDel mac => some (bridge.neighDel mac)
  | .addHdrProcCtx lanToWlanHdl wlanToUsbHdl =>
      some (bridge.addHdrProcCtx lanToWlanHdl wlanToUsbHdl)
  | .delHdrProcCtx => some bridge.delHdrProcCtx
  | .dispatch source =>
      match bridge.queue with
      | [] => none
      | event :: queue =>
          some { bridge with tables := bridge.handleHdrProcCtxEvent source event, queue }

end EthBridge

end HtcPme.Ipacm
