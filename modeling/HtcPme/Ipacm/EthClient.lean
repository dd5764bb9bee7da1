import HtcPme.Foundation.HandleTable
import HtcPme.Foundation.Run
import HtcPme.Foundation.SlotShift
import HtcPme.Ipacm.WlanClient

/-!
# Clients of a LAN interface

The clients of a LAN interface with their addresses and the handles of their routing rules, one
array of handles for each tx property. NAT rules and dependencies are left out.
-/

namespace HtcPme.Ipacm

def ipaMaxNumEthClients : ℕ := 15

/-- Where `eth_rt_hdl` has a handle, by the index of the tx property. -/
inductive EthRtSlot where
  | v4 (txIndex : ℕ)
  | v6 (txIndex numV6 : ℕ)
  | v6Wan (txIndex numV6 : ℕ)
deriving DecidableEq

structure IpaEthClient (μ : Type*) where
  mac : μ
  v4Addr : ℕ
  v6Addr : ℕ → Ipv6Addr
  hdrHdlV4 : ℕ
  hdrHdlV6 : ℕ
  routeRuleSetV4 : Bool
  routeRuleSetV6 : ℕ
  ipv4Set : Bool
  ipv6Set : ℕ
  ipv4HeaderSet : Bool
  ipv6HeaderSet : Bool
  ethRtHdl : EthRtSlot → ℕ

/-- What is fixed: the tx properties and `IPA_CLIENT_APPS_LAN_CONS`. -/
structure EthTx where
  tx : List TxProp
  appsLanCons : ℕ

namespace EthTx

variable (iface : EthTx)

def indices (ip : IpaIpType) : List ℕ :=
  (List.range iface.tx.length).filter fun txIndex => iface.tx[txIndex]?.map (·.ip) = some ip

def slotsV4 : List EthRtSlot := (iface.indices .v4).map .v4

def slotsV6 (first count : ℕ) : List EthRtSlot :=
  (iface.indices .v6).flatMap fun txIndex =>
    (List.range' first count).flatMap fun numV6 =>
      [.v6 txIndex numV6, .v6Wan txIndex numV6]

end EthTx

namespace IpaEthClient

variable {μ : Type*} (iface : EthTx) (client : IpaEthClient μ) (source : HandleSource)
  (kernel : HandleTable RtRule)

def slotRule : EthRtSlot → RtRule
  | .v4 txIndex =>
      { rtTblName := .lanV4
        dst := (iface.tx[txIndex]?.map (·.dstPipe)).getD 0
        hdrHdl := client.hdrHdlV4
        attrib := iface.tx[txIndex]?.map (·.attrib)
        dstAddr := .inl client.v4Addr }
  | .v6 _ numV6 =>
      { rtTblName := .v6
        dst := iface.appsLanCons
        hdrHdl := 0
        attrib := none
        dstAddr := .inr (client.v6Addr numV6) }
  | .v6Wan txIndex numV6 =>
      { rtTblName := .wanV6
        dst := (iface.tx[txIndex]?.map (·.dstPipe)).getD 0
        hdrHdl := client.hdrHdlV6
        attrib := iface.tx[txIndex]?.map (·.attrib)
        dstAddr := .inr (client.v6Addr numV6) }

def addrs : List Ipv6Addr := (List.range client.ipv6Set).map client.v6Addr

def deleteEthRtrules (ip : IpaIpType) : IpaEthClient μ × HandleTable RtRule :=
  match ip with
  | .v4 =>
      if client.routeRuleSetV4 then
        ({ client with routeRuleSetV4 := false },
          kernel.deleteAll (iface.slotsV4.map client.ethRtHdl))
      else (client, kernel)
  | .v6 =>
      ({ client with routeRuleSetV6 := 0 },
        kernel.deleteAll ((iface.slotsV6 0 client.routeRuleSetV6).map client.ethRtHdl))

def handleEthClientIpaddr : ℕ ⊕ Ipv6Addr → Option (IpaEthClient μ × HandleTable RtRule)
  | .inl addr =>
      if addr = 0 then none
      else if client.ipv4Set = false then
        some ({ client with v4Addr := addr, ipv4Set := true }, kernel)
      else if addr = client.v4Addr then none
      else
        let (client, kernel) := client.deleteEthRtrules iface kernel .v4
        some ({ client with routeRuleSetV4 := false, v4Addr := addr }, kernel)
  | .inr addr =>
      if addr = ⟨0, 0, 0, 0⟩ then some (client, kernel)
      else if client.ipv6Set < ipv6NumAddr then
        if addr ∈ client.addrs then none
        else
          some
            ({ client with
              v6Addr := Function.update client.v6Addr client.ipv6Set addr
              ipv6Set := client.ipv6Set + 1 },
              kernel)
      else none

def addSlot (clientKernel : IpaEthClient μ × HandleTable RtRule) (slot : EthRtSlot) :
    IpaEthClient μ × HandleTable RtRule :=
  let (client, kernel) := clientKernel
  let rtRuleHdl := source.next kernel.handles
  ({ client with ethRtHdl := Function.update client.ethRtHdl slot rtRuleHdl },
    kernel.addOne source (client.slotRule iface slot))

def handleEthClientRouteRule (ip : IpaIpType) : IpaEthClient μ × HandleTable RtRule :=
  match ip with
  | .v4 =>
      if client.routeRuleSetV4 = false ∧ client.ipv4Set = true then
        let (client, kernel) := iface.slotsV4.foldl (addSlot iface source) (client, kernel)
        ({ client with routeRuleSetV4 := true }, kernel)
      else (client, kernel)
  | .v6 =>
      if client.routeRuleSetV6 < client.ipv6Set then
        let (client, kernel) :=
          (iface.slotsV6 client.routeRuleSetV6 (client.ipv6Set - client.routeRuleSetV6)).foldl
            (addSlot iface source) (client, kernel)
        ({ client with routeRuleSetV6 := client.ipv6Set }, kernel)
      else (client, kernel)

/-- The handles of one tx property after the one at `numV6` is closed up. -/
def closeUpHdls (txIndex numV6 count : ℕ) : EthRtSlot → ℕ
  | .v4 txIndex' => client.ethRtHdl (.v4 txIndex')
  | .v6 txIndex' pos =>
      if txIndex' = txIndex then
        SlotShift.closeUp (fun _ next => next) count numV6
          (fun pos => client.ethRtHdl (.v6 txIndex pos)) pos
      else client.ethRtHdl (.v6 txIndex' pos)
  | .v6Wan txIndex' pos =>
      if txIndex' = txIndex then
        SlotShift.closeUp (fun _ next => next) count numV6
          (fun pos => client.ethRtHdl (.v6Wan txIndex pos)) pos
      else client.ethRtHdl (.v6Wan txIndex' pos)

/-- The loop of `handle_del_ipv6_addr` over the tx properties. It changes the counters and `num_v6`,
with which it goes on to the next one. -/
def delIpv6Loop : List ℕ → ℕ → IpaEthClient μ → HandleTable RtRule →
    IpaEthClient μ × HandleTable RtRule
  | [], _, client, kernel => (client, kernel)
  | txIndex :: rest, numV6, client, kernel =>
      if client.routeRuleSetV6 = 0 then delIpv6Loop rest numV6 client kernel
      else
        let left := client.ipv6Set - 1
        delIpv6Loop rest (max numV6 left)
          { client with
            ipv6Set := left
            routeRuleSetV6 := client.routeRuleSetV6 - 1
            v6Addr := SlotShift.closeUp (fun _ next => next) (left - numV6) numV6 client.v6Addr
            ethRtHdl := client.closeUpHdls txIndex numV6 (left - numV6) }
          ((kernel.delete (client.ethRtHdl (.v6 txIndex numV6))).delete
            (client.ethRtHdl (.v6Wan txIndex numV6)))

/-- `handle_del_ipv6_addr`, for a client that is found. Without a search, for the zero address,
`num_v6` is not initialized. -/
def handleDelIpv6Addr (addr : Ipv6Addr) (uninit : ℕ) : IpaEthClient μ × HandleTable RtRule :=
  let numV6 :=
    if addr = ⟨0, 0, 0, 0⟩ then uninit
    else ((List.range client.ipv6Set).find? (client.v6Addr · = addr)).getD client.ipv6Set
  if numV6 = ipv6NumAddr then (client, kernel)
  else delIpv6Loop (iface.indices .v6) numV6 client kernel

def copyFrom (numTxProps : ℕ) (client next : IpaEthClient μ) : IpaEthClient μ :=
  { next with
    v6Addr := fun pos => if pos < next.ipv6Set then next.v6Addr pos else client.v6Addr pos
    ethRtHdl := fun
      | .v4 txIndex =>
          if txIndex < numTxProps then next.ethRtHdl (.v4 txIndex)
          else client.ethRtHdl (.v4 txIndex)
      | .v6 txIndex pos =>
          if txIndex < numTxProps ∧ pos < next.routeRuleSetV6 then next.ethRtHdl (.v6 txIndex pos)
          else client.ethRtHdl (.v6 txIndex pos)
      | .v6Wan txIndex pos =>
          if txIndex < numTxProps ∧ pos < next.routeRuleSetV6 then
            next.ethRtHdl (.v6Wan txIndex pos)
          else client.ethRtHdl (.v6Wan txIndex pos) }

end IpaEthClient

/-- The table, the routing rules of the interface and its headers. `ledger`, which is not in the
source, has for each client the addresses that were added and not deleted. -/
structure EthClients (μ : Type*) where
  iface : EthTx
  ethClient : ℕ → IpaEthClient μ
  numEthClient : ℕ
  kernel : HandleTable RtRule
  headers : List ℕ
  ledger : List (μ × List Ipv6Addr)

/-- The events, where `source` and the header handles are what the kernel answers. -/
inductive EthClientEvent (μ : Type*) where
  | hdrInit (mac : μ) (hdrHdlV4 hdrHdlV6 : ℕ)
  | addrAdd (mac : μ) (addr : ℕ ⊕ Ipv6Addr) (source : HandleSource)
  | addrDel (mac : μ) (addr : Ipv6Addr) (uninit : ℕ)
  | clientDown (mac : μ)

namespace EthClients

variable {μ : Type*} [DecidableEq μ] (clients : EthClients μ) (mac : μ)

def getEthClientIndex : Option ℕ :=
  (List.range clients.numEthClient).find? fun cnt => (clients.ethClient cnt).mac = mac

def joinLedger (ledger : List (μ × List Ipv6Addr)) : List (μ × List Ipv6Addr) :=
  if mac ∈ ledger.map Prod.fst ∨ ipaMaxNumEthClients ≤ ledger.length then ledger
  else ledger ++ [(mac, [])]

def atEntry (change : List Ipv6Addr → List Ipv6Addr) (ledger : List (μ × List Ipv6Addr)) :
    List (μ × List Ipv6Addr) :=
  ledger.map fun entry => if entry.1 = mac then (entry.1, change entry.2) else entry

def addAddr (addr : Ipv6Addr) (addrs : List Ipv6Addr) : List Ipv6Addr :=
  if addr ≠ ⟨0, 0, 0, 0⟩ ∧ addr ∉ addrs ∧ addrs.length < ipv6NumAddr then addrs ++ [addr] else addrs

def addLedger : ℕ ⊕ Ipv6Addr → List (μ × List Ipv6Addr) → List (μ × List Ipv6Addr)
  | .inl _, ledger => ledger
  | .inr addr, ledger => atEntry mac (addAddr addr) ledger

def leaveLedger (ledger : List (μ × List Ipv6Addr)) : List (μ × List Ipv6Addr) :=
  ledger.filter (·.1 ≠ mac)

def handleEthHdrInit (hdrHdlV4 hdrHdlV6 : ℕ) : EthClients μ :=
  match clients.getEthClientIndex mac with
  | some _ => clients
  | none =>
      if ipaMaxNumEthClients ≤ clients.numEthClient then clients
      else
        let hasV4 := clients.iface.indices .v4 ≠ []
        let hasV6 := clients.iface.indices .v6 ≠ []
        let old := clients.ethClient clients.numEthClient
        { clients with
          ethClient := Function.update clients.ethClient clients.numEthClient
            { old with
              mac
              hdrHdlV4 := if hasV4 then hdrHdlV4 else old.hdrHdlV4
              hdrHdlV6 := if hasV6 then hdrHdlV6 else old.hdrHdlV6
              ipv4HeaderSet := if hasV4 then true else old.ipv4HeaderSet
              ipv6HeaderSet := if hasV6 then true else old.ipv6HeaderSet
              routeRuleSetV4 := false
              routeRuleSetV6 := 0
              ipv4Set := false
              ipv6Set := 0 }
          numEthClient := clients.numEthClient + 1
          headers := clients.headers ++ (if hasV4 then [hdrHdlV4] else []) ++
            (if hasV6 then [hdrHdlV6] else []) }

def atClient (handle : IpaEthClient μ → HandleTable RtRule → IpaEthClient μ × HandleTable RtRule) :
    EthClients μ :=
  match clients.getEthClientIndex mac with
  | none => clients
  | some cltIndx =>
      let (client, kernel) := handle (clients.ethClient cltIndx) clients.kernel
      { clients with ethClient := Function.update clients.ethClient cltIndx client, kernel }

/-- `handle_eth_client_ipaddr` and, where it succeeds, `handle_eth_client_route_rule`. -/
def handleEthClientAddr (addr : ℕ ⊕ Ipv6Addr) (source : HandleSource) : EthClients μ :=
  clients.atClient mac fun client kernel =>
    match client.handleEthClientIpaddr clients.iface kernel addr with
    | none => (client, kernel)
    | some (client, kernel) =>
        client.handleEthClientRouteRule clients.iface source kernel
          (match addr with
          | .inl _ => .v4
          | .inr _ => .v6)

def handleDelIpv6Addr (addr : Ipv6Addr) (uninit : ℕ) : EthClients μ :=
  clients.atClient mac fun client kernel =>
    client.handleDelIpv6Addr clients.iface kernel addr uninit

def handleEthClientDownEvt : EthClients μ :=
  match clients.getEthClientIndex mac with
  | none => clients
  | some cltIndx =>
      let before := clients.ethClient cltIndx
      let (client, kernel) := before.deleteEthRtrules clients.iface clients.kernel .v4
      let (client, kernel) := client.deleteEthRtrules clients.iface kernel .v6
      let headers := clients.headers.filter fun hdrHdl =>
        ¬ (before.ipv4HeaderSet ∧ hdrHdl = before.hdrHdlV4 ∨
          before.ipv6HeaderSet ∧ hdrHdl = before.hdrHdlV6)
      let client :=
        { client with
          ipv4Set := false
          ipv6Set := 0
          ipv4HeaderSet := false
          ipv6HeaderSet := false
          routeRuleSetV4 := false
          routeRuleSetV6 := 0 }
      { clients with
        ethClient := SlotShift.closeUp (IpaEthClient.copyFrom clients.iface.tx.length)
          (clients.numEthClient - 1 - cltIndx) cltIndx
          (Function.update clients.ethClient cltIndx client)
        numEthClient := clients.numEthClient - 1
        kernel
        headers }

def step : EthClientEvent μ → EthClients μ
  | .hdrInit mac hdrHdlV4 hdrHdlV6 =>
      { clients.handleEthHdrInit mac hdrHdlV4 hdrHdlV6 with
        ledger := joinLedger mac clients.ledger }
  | .addrAdd mac addr source =>
      { clients.handleEthClientAddr mac addr source with
        ledger := addLedger mac addr clients.ledger }
  | .addrDel mac addr uninit =>
      { clients.handleDelIpv6Addr mac addr uninit with
        ledger := atEntry mac (·.erase addr) clients.ledger }
  | .clientDown mac =>
      { clients.handleEthClientDownEvt mac with ledger := leaveLedger mac clients.ledger }

end EthClients

end HtcPme.Ipacm
