import Mathlib.Data.List.Range
import Mathlib.Logic.Function.Basic
import Mathlib.Tactic.Common

/-!
# Clients of an access point

The table of the WLAN clients of an interface, the events that change a client, and its removal,
which moves the clients after it down by one slot.
-/

namespace HtcPme.Ipacm

inductive IpaIpType where
  | v4
  | v6
  deriving DecidableEq

structure Ipv6Addr where
  word0 : ℕ
  word1 : ℕ
  word2 : ℕ
  word3 : ℕ
  deriving DecidableEq

def ipv6NumAddr : ℕ := 3

structure WlanClientRtHdl where
  wifiRtRuleHdlV4 : ℕ
  wifiRtRuleHdlV6 : ℕ → ℕ
  wifiRtRuleHdlV6Wan : ℕ → ℕ

structure IpaWlanClient (η μ : Type) where
  pHdrInfo : η
  mac : μ
  v4Addr : ℕ
  v6Addr : ℕ → Ipv6Addr
  hdrHdlV4 : ℕ
  hdrHdlV6 : ℕ
  routeRuleSetV4 : Bool
  routeRuleSetV6 : ℕ
  ipv4Set : Bool
  ipv6Set : ℕ
  ipv4HeaderSet : Bool
  ipv6HeaderSet : Bool
  powerSaveSet : Bool
  wifiRtHdl : ℕ → WlanClientRtHdl

/-- A tx property of the interface, where `attrib` stands for its attributes. -/
structure TxProp where
  ip : IpaIpType
  dstPipe : ℕ
  altDstPipe : ℕ
  attrib : ℕ
  deriving DecidableEq

structure WlanIface where
  txProp : Option (List TxProp)
  excpPipe : ℕ

def WlanIface.tx (iface : WlanIface) : List TxProp := iface.txProp.getD []

inductive RtTbl where
  | lanV4
  | v6
  | wanV6
  deriving DecidableEq

structure RtRule where
  rtTblName : RtTbl
  dst : ℕ
  hdrHdl : ℕ
  attrib : Option ℕ
  dstAddr : ℕ ⊕ Ipv6Addr
  deriving DecidableEq

inductive LanClientEvent where
  | active
  | disconnect
  | powerSave
  | powerRecover
  deriving DecidableEq

/-- What the interface asks of the driver, the NAT application, the connection tracker and
the event queue. -/
inductive WlanRequest where
  | deleteRoutingHdl (rtHdl : ℕ) (ip : IpaIpType)
  | addRoutingRule (rule : RtRule)
  | deleteHeaderHdl (hdrHdl : ℕ)
  | updatePwrSaveIf (addr : ℕ)
  | resetPwrSaveIf (addr : ℕ)
  | handleNeighIpAddrAddEvt (addr : ℕ)
  | handleNeighIpAddrDelEvt (addr : ℕ)
  | postEvt (event : LanClientEvent) (addr : ℕ ⊕ Ipv6Addr)
  deriving DecidableEq

structure WlanEnv where
  isMccMode : Bool
  ipv4Up : Bool
  ipv6Up : Bool
  allocates : Bool
  deleteRoutingHdl : ℕ → IpaIpType → Bool
  deleteHeaderHdl : ℕ → Bool
  addRoutingRule : RtRule → Option ℕ

structure WlanClients (η μ : Type) where
  wlanClient : ℕ → IpaWlanClient η μ
  numWifiClient : ℕ
  totalNumWifiClients : ℤ
  requests : List WlanRequest

namespace IpaWlanClient

variable {η μ : Type}

def requestAll {α : Type} (request : α → WlanRequest) (answer : α → Bool) :
    List α → List WlanRequest × Bool
  | [] => ([], true)
  | first :: rest =>
      if answer first then
        let done := requestAll request answer rest
        (request first :: done.1, done.2)
      else
        ([request first], false)

/-- The IPv4 routing rules that `delete_default_qos_rtrules` deletes, in order. -/
def rtHdlsV4 (iface : WlanIface) (client : IpaWlanClient η μ) : List ℕ :=
  (iface.tx.zipIdx.filter fun tx => tx.1.ip = .v4 ∧ client.routeRuleSetV4 = true).map fun tx =>
    (client.wifiRtHdl tx.2).wifiRtRuleHdlV4

/-- The IPv6 routing rules that `delete_default_qos_rtrules` deletes, in order. -/
def rtHdlsV6 (iface : WlanIface) (client : IpaWlanClient η μ) : List ℕ :=
  (iface.tx.zipIdx.filter fun tx => tx.1.ip = .v6).flatMap fun tx =>
    (List.range client.routeRuleSetV6).flatMap fun numV6 =>
      [(client.wifiRtHdl tx.2).wifiRtRuleHdlV6 numV6,
        (client.wifiRtHdl tx.2).wifiRtRuleHdlV6Wan numV6]

/-- `delete_default_qos_rtrules` for IPv4: the requests, whether they succeeded, and the
client afterwards. -/
def deleteDefaultQosRtrulesV4 (iface : WlanIface) (env : WlanEnv) (client : IpaWlanClient η μ) :
    (List WlanRequest × Bool) × IpaWlanClient η μ :=
  let done := requestAll (.deleteRoutingHdl · .v4) (env.deleteRoutingHdl · .v4)
    (client.rtHdlsV4 iface)
  (done, if done.2 then { client with routeRuleSetV4 := false } else client)

def deleteDefaultQosRtrulesV6 (iface : WlanIface) (env : WlanEnv) (client : IpaWlanClient η μ) :
    (List WlanRequest × Bool) × IpaWlanClient η μ :=
  let done := requestAll (.deleteRoutingHdl · .v6) (env.deleteRoutingHdl · .v6)
    (client.rtHdlsV6 iface)
  (done, if done.2 then { client with routeRuleSetV6 := 0 } else client)

def handleLan2lanMsgPost (env : WlanEnv) (event : LanClientEvent) (ip : IpaIpType)
    (client : IpaWlanClient η μ) : List WlanRequest :=
  match ip with
  | .v4 =>
      if client.ipv4Set ∧ env.ipv4Up ∧ env.allocates then [.postEvt event (.inl client.v4Addr)]
      else []
  | .v6 =>
      if env.ipv6Up ∧ env.allocates then
        (List.range client.ipv6Set).map fun i => .postEvt event (.inr (client.v6Addr i))
      else []

/-- `IPA_WLAN_CLIENT_POWER_SAVE_EVENT`, with `handle_wlan_client_pwrsave`. -/
def pwrsave (iface : WlanIface) (env : WlanEnv) (client : IpaWlanClient η μ) :
    List WlanRequest × IpaWlanClient η μ :=
  let posts := client.handleLan2lanMsgPost env .powerSave .v4 ++
    client.handleLan2lanMsgPost env .powerSave .v6
  if client.powerSaveSet then
    (posts, client)
  else
    let nat := if client.ipv4Set then [.updatePwrSaveIf client.v4Addr] else []
    -- whether the routing rules could be deleted is not looked at
    let v4 := client.deleteDefaultQosRtrulesV4 iface env
    let v6 := v4.2.deleteDefaultQosRtrulesV6 iface env
    (posts ++ nat ++ v4.1.1 ++ v6.1.1, { v6.2 with powerSaveSet := true })

inductive RtSlot where
  | v4
  | v6 (numV6 : ℕ)
  | v6Wan (numV6 : ℕ)
  deriving DecidableEq

def writeRtHdl (wifiRtHdl : ℕ → WlanClientRtHdl) (txIndex : ℕ) (slot : RtSlot) (rtHdl : ℕ) :
    ℕ → WlanClientRtHdl :=
  let old := wifiRtHdl txIndex
  Function.update wifiRtHdl txIndex
    (match slot with
      | .v4 => { old with wifiRtRuleHdlV4 := rtHdl }
      | .v6 numV6 =>
          { old with wifiRtRuleHdlV6 := Function.update old.wifiRtRuleHdlV6 numV6 rtHdl }
      | .v6Wan numV6 =>
          { old with wifiRtRuleHdlV6Wan := Function.update old.wifiRtRuleHdlV6Wan numV6 rtHdl })

def txPipe (env : WlanEnv) (tx : TxProp) : ℕ := if env.isMccMode then tx.altDstPipe else tx.dstPipe

def rtRulesV4 (iface : WlanIface) (env : WlanEnv) (client : IpaWlanClient η μ) :
    List (RtRule × ℕ × RtSlot) :=
  (iface.tx.zipIdx.filter fun tx => tx.1.ip = .v4).map fun tx =>
    (⟨.lanV4, txPipe env tx.1, client.hdrHdlV4, some tx.1.attrib, .inl client.v4Addr⟩, tx.2, .v4)

def rtRulesV6 (iface : WlanIface) (env : WlanEnv) (client : IpaWlanClient η μ) :
    List (RtRule × ℕ × RtSlot) :=
  (iface.tx.zipIdx.filter fun tx => tx.1.ip = .v6).flatMap fun tx =>
    (List.range' client.routeRuleSetV6 (client.ipv6Set - client.routeRuleSetV6)).flatMap
      fun numV6 =>
        [(⟨.v6, iface.excpPipe, 0, none, .inr (client.v6Addr numV6)⟩, tx.2, .v6 numV6),
          (⟨.wanV6, txPipe env tx.1, client.hdrHdlV6, some tx.1.attrib, .inr (client.v6Addr numV6)⟩,
            tx.2, .v6Wan numV6)]

def addRoutingRules (env : WlanEnv) (client : IpaWlanClient η μ) :
    List (RtRule × ℕ × RtSlot) → (List WlanRequest × Bool) × IpaWlanClient η μ
  | [] => (([], true), client)
  | (rule, txIndex, slot) :: rest =>
      match env.addRoutingRule rule with
      | none => (([.addRoutingRule rule], false), client)
      | some rtHdl =>
          let done := addRoutingRules env
            { client with wifiRtHdl := writeRtHdl client.wifiRtHdl txIndex slot rtHdl } rest
          ((.addRoutingRule rule :: done.1.1, done.1.2), done.2)

def handleWlanClientRouteRule (iface : WlanIface) (env : WlanEnv) (ip : IpaIpType)
    (client : IpaWlanClient η μ) : List WlanRequest × IpaWlanClient η μ :=
  if iface.txProp = none ∨ client.powerSaveSet = true then
    ([], client)
  else
    match ip with
    | .v4 =>
        if client.routeRuleSetV4 = false ∧ client.ipv4Set = true ∧ env.allocates = true then
          let done := client.addRoutingRules env (client.rtRulesV4 iface env)
          (done.1.1, if done.1.2 then { done.2 with routeRuleSetV4 := true } else done.2)
        else
          ([], client)
    | .v6 =>
        if client.routeRuleSetV6 < client.ipv6Set ∧ env.allocates = true then
          let done := client.addRoutingRules env (client.rtRulesV6 iface env)
          (done.1.1, if done.1.2 then { done.2 with routeRuleSetV6 := client.ipv6Set } else done.2)
        else
          ([], client)

def recover (iface : WlanIface) (env : WlanEnv) (client : IpaWlanClient η μ) :
    List WlanRequest × IpaWlanClient η μ :=
  let posts := client.handleLan2lanMsgPost env .powerRecover .v4 ++
    client.handleLan2lanMsgPost env .powerRecover .v6
  if client.powerSaveSet then
    let awake := { client with powerSaveSet := false }
    let v4 : List WlanRequest × IpaWlanClient η μ :=
      if awake.ipv4Set then
        let added := awake.handleWlanClientRouteRule iface env .v4
        (added.1 ++ [.resetPwrSaveIf added.2.v4Addr], added.2)
      else ([], awake)
    let v6 : List WlanRequest × IpaWlanClient η μ :=
      if v4.2.ipv6Set ≠ 0 then v4.2.handleWlanClientRouteRule iface env .v6 else ([], v4.2)
    (posts ++ v4.1 ++ v6.1, v6.2)
  else
    (posts, client)

/-- `handle_wlan_client_ipaddr` for a client in the table, and whether it succeeds. -/
def handleWlanClientIpaddr (iface : WlanIface) (env : WlanEnv) (addr : ℕ ⊕ Ipv6Addr)
    (client : IpaWlanClient η μ) : (List WlanRequest × Bool) × IpaWlanClient η μ :=
  match addr with
  | .inl ipv4Addr =>
      if ipv4Addr = 0 then
        (([], false), client)
      else if client.ipv4Set = false then
        (([], true), { client with v4Addr := ipv4Addr, ipv4Set := true })
      else if ipv4Addr = client.v4Addr then
        (([], false), client)
      else
        let deleted := client.deleteDefaultQosRtrulesV4 iface env
        ((.handleNeighIpAddrDelEvt client.v4Addr :: deleted.1.1, true),
          { deleted.2 with routeRuleSetV4 := false, v4Addr := ipv4Addr })
  | .inr ipv6Addr =>
      if ipv6Addr = ⟨0, 0, 0, 0⟩ then
        (([], true), client)
      else if ipv6NumAddr ≤ client.ipv6Set then
        (([], false), client)
      else if ∃ numV6 ∈ List.range client.ipv6Set, client.v6Addr numV6 = ipv6Addr then
        (([], false), client)
      else
        (([], true), { client with
          v6Addr := Function.update client.v6Addr client.ipv6Set ipv6Addr
          ipv6Set := client.ipv6Set + 1 })

def neighAdd (iface : WlanIface) (env : WlanEnv) (addr : ℕ ⊕ Ipv6Addr)
    (client : IpaWlanClient η μ) : List WlanRequest × IpaWlanClient η μ :=
  let entered := client.handleWlanClientIpaddr iface env addr
  if entered.1.2 then
    match addr with
    | .inl ipv4Addr =>
        let routed := entered.2.handleWlanClientRouteRule iface env .v4
        (entered.1.1 ++ [.postEvt .active addr] ++ routed.1 ++ [.handleNeighIpAddrAddEvt ipv4Addr],
          routed.2)
    | .inr _ =>
        let routed := entered.2.handleWlanClientRouteRule iface env .v6
        (entered.1.1 ++ [.postEvt .active addr] ++ routed.1, routed.2)
  else
    (entered.1.1, entered.2)

/-- What `handle_wlan_client_down_evt` does to the client before the table closes up, and
whether it gets that far. -/
def tearDown (iface : WlanIface) (env : WlanEnv) (client : IpaWlanClient η μ) :
    (List WlanRequest × Bool) × IpaWlanClient η μ :=
  let nat := if client.ipv4Set then [.handleNeighIpAddrDelEvt client.v4Addr] else []
  let v4 := client.deleteDefaultQosRtrulesV4 iface env
  if v4.1.2 then
    let v6 := v4.2.deleteDefaultQosRtrulesV6 iface env
    if v6.1.2 then
      let requests := nat ++ v4.1.1 ++ v6.1.1
      let hdrV4 := requestAll .deleteHeaderHdl env.deleteHeaderHdl
        (if v6.2.ipv4HeaderSet then [v6.2.hdrHdlV4] else [])
      if hdrV4.2 then
        let noV4 := { v6.2 with ipv4HeaderSet := false }
        let hdrV6 := requestAll .deleteHeaderHdl env.deleteHeaderHdl
          (if noV4.ipv6HeaderSet then [noV4.hdrHdlV6] else [])
        if hdrV6.2 then
          ((requests ++ hdrV4.1 ++ hdrV6.1, true),
            { noV4 with
              ipv4Set := false, ipv6Set := 0, ipv4HeaderSet := false, ipv6HeaderSet := false
              routeRuleSetV4 := false, routeRuleSetV6 := 0 })
        else ((requests ++ hdrV4.1 ++ hdrV6.1, false), noV4)
      else ((requests ++ hdrV4.1, false), v6.2)
    else ((nat ++ v4.1.1 ++ v6.1.1, false), v6.2)
  else ((nat ++ v4.1.1, false), v4.2)

def copyFrom (numTxProps : ℕ) (client next : IpaWlanClient η μ) : IpaWlanClient η μ :=
  { client with
    pHdrInfo := next.pHdrInfo
    mac := next.mac
    hdrHdlV4 := next.hdrHdlV4
    hdrHdlV6 := next.hdrHdlV6
    v4Addr := next.v4Addr
    ipv4Set := next.ipv4Set
    ipv6Set := next.ipv6Set
    ipv4HeaderSet := next.ipv4HeaderSet
    ipv6HeaderSet := next.ipv6HeaderSet
    routeRuleSetV4 := next.routeRuleSetV4
    routeRuleSetV6 := next.routeRuleSetV6
    v6Addr := fun numV6 => if numV6 < next.ipv6Set then next.v6Addr numV6 else client.v6Addr numV6
    wifiRtHdl := fun txIndex =>
      if txIndex < numTxProps then
        { wifiRtRuleHdlV4 := (next.wifiRtHdl txIndex).wifiRtRuleHdlV4
          wifiRtRuleHdlV6 := fun numV6 =>
            if numV6 < next.routeRuleSetV6 then (next.wifiRtHdl txIndex).wifiRtRuleHdlV6 numV6
            else (client.wifiRtHdl txIndex).wifiRtRuleHdlV6 numV6
          wifiRtRuleHdlV6Wan := fun numV6 =>
            if numV6 < next.routeRuleSetV6 then (next.wifiRtHdl txIndex).wifiRtRuleHdlV6Wan numV6
            else (client.wifiRtHdl txIndex).wifiRtRuleHdlV6Wan numV6 }
      else client.wifiRtHdl txIndex }

end IpaWlanClient

inductive WlanEvent (μ : Type) where
  | powerSave (mac : μ)
  | recover (mac : μ)
  | neighIpAddrAdd (mac : μ) (addr : ℕ ⊕ Ipv6Addr)
  | clientDel (mac : μ)

namespace WlanClients

variable {η μ : Type} [DecidableEq μ]

def getWlanClientIndex (clients : WlanClients η μ) (mac : μ) : Option ℕ :=
  (List.range clients.numWifiClient).find? fun cnt => (clients.wlanClient cnt).mac = mac

def atClient (clients : WlanClients η μ) (mac : μ)
    (handle : IpaWlanClient η μ → List WlanRequest × IpaWlanClient η μ) : WlanClients η μ :=
  match clients.getWlanClientIndex mac with
  | none => clients
  | some index =>
      let handled := handle (clients.wlanClient index)
      { clients with
        wlanClient := Function.update clients.wlanClient index handled.2
        requests := clients.requests ++ handled.1 }

/-- The loop that closes the table up, for `count` clients from `cltIndx` on. -/
def closeUp (numTxProps : ℕ) : ℕ → ℕ → (ℕ → IpaWlanClient η μ) → ℕ → IpaWlanClient η μ
  | 0, _, wlanClient => wlanClient
  | count + 1, cltIndx, wlanClient =>
      closeUp numTxProps count (cltIndx + 1) (Function.update wlanClient cltIndx
        ((wlanClient cltIndx).copyFrom numTxProps (wlanClient (cltIndx + 1))))

def handleWlanClientDownEvt (iface : WlanIface) (env : WlanEnv) (clients : WlanClients η μ)
    (mac : μ) : WlanClients η μ :=
  match clients.getWlanClientIndex mac with
  | none => clients
  | some cltIndx =>
      let down := (clients.wlanClient cltIndx).tearDown iface env
      let wlanClient := Function.update clients.wlanClient cltIndx down.2
      let requests := clients.requests ++ down.1.1
      if down.1.2 then
        { wlanClient :=
            closeUp iface.tx.length (clients.numWifiClient - 1 - cltIndx) cltIndx wlanClient
          numWifiClient := clients.numWifiClient - 1
          totalNumWifiClients := clients.totalNumWifiClients - 1
          requests }
      else
        { clients with wlanClient, requests }

/-- The posts of `IPA_WLAN_CLIENT_DEL_EVENT`, before the client is removed. -/
def postDisconnect (env : WlanEnv) (client : IpaWlanClient η μ) :
    List WlanRequest × IpaWlanClient η μ :=
  (client.handleLan2lanMsgPost env .disconnect .v4 ++
    client.handleLan2lanMsgPost env .disconnect .v6, client)

def eventCallback (iface : WlanIface) (env : WlanEnv) (clients : WlanClients η μ) :
    WlanEvent μ → WlanClients η μ
  | .powerSave mac => clients.atClient mac (·.pwrsave iface env)
  | .recover mac => clients.atClient mac (·.recover iface env)
  | .neighIpAddrAdd mac addr => clients.atClient mac (·.neighAdd iface env addr)
  | .clientDel mac =>
      (clients.atClient mac (postDisconnect env)).handleWlanClientDownEvt iface env mac

def runEvents (iface : WlanIface) (clients : WlanClients η μ) :
    List (WlanEnv × WlanEvent μ) → WlanClients η μ
  | [] => clients
  | (env, event) :: events => runEvents iface (clients.eventCallback iface env event) events

end WlanClients

end HtcPme.Ipacm
