import HtcPme.Foundation.HandleWrites
import HtcPme.Ipacm.WanSta

/-!
# Routing rules of a WAN interface in STA mode

The rules of the default routes and of the clients on the WAN side go to the pipe of the mode, SCC
or MCC. When the mode switches, they are written over.
-/

namespace HtcPme.Ipacm

open Function (update)

/-- The places of the handles: `wan_route_rule_v4_hdl` and `wan_route_rule_v6_hdl`,
`wan_route_rule_v6_hdl_a5`, and those in `wan_rt_hdl` of a client. -/
inductive WanRtSlot where
  | dft (ip : IpaIpType) (txIndex : ℕ)
  | dftA5
  | clientV4 (cltIndx txIndex : ℕ)
  | clientV6 (cltIndx txIndex numV6 : ℕ)
  | clientV6Wan (cltIndx txIndex numV6 : ℕ)
  deriving DecidableEq

/-- `rt_tbl_wan_v4`, `rt_tbl_v6` and `rt_tbl_wan_v6` -/
inductive WanRtTbl where
  | wanV4
  | v6
  | wanV6
  deriving DecidableEq

/-- The part of a rule that `ModifyRoutingRule` writes, without attributes or an address where it
has none. -/
structure WanRtSpec where
  dst : ℕ
  hdrHdl : ℕ
  attrib : Option ℕ
  dstAddr : Option IpAddr
  deriving DecidableEq

/-- A rule of the kernel. `slot`, which is not in the source, is what it was added for. -/
structure WanRtRule where
  slot : WanRtSlot
  rtTblName : WanRtTbl
  spec : WanRtSpec
  deriving DecidableEq

namespace WanRtRule

def write (spec : WanRtSpec) (rule : WanRtRule) : WanRtRule := { rule with spec }

end WanRtRule

/-- What is fixed of the interface, with `IPA_CLIENT_APPS_LAN_CONS` and the exception pipe. -/
structure StaRtIface (μ : Type*) where
  hasTxProp : Bool
  numTxProps : ℕ
  tx : ℕ → TxProp
  excpPipe : ℕ
  appsLanCons : ℕ
  isWlan : Bool
  invalidMac : μ

def StaRtIface.indices {μ : Type*} (iface : StaRtIface μ) (ip : IpaIpType) : List ℕ :=
  (List.range iface.numTxProps).filter fun txIndex => (iface.tx txIndex).ip = ip

structure IpaWanClient (μ : Type*) where
  mac : μ
  v4Addr : ℕ
  v6Addr : ℕ → Ipv6Addr
  hdrHdl : IpaIpType → ℕ
  headerSet : IpaIpType → Bool
  routeRuleSetV4 : Bool
  routeRuleSetV6 : ℕ
  ipv4Set : Bool
  ipv6Set : ℕ

namespace IpaWanClient

variable {μ : Type*} (client : IpaWanClient μ)

/-- The test of `get_wan_client_index_ipv4` and `get_wan_client_index_ipv6`. -/
def Has : IpAddr → Prop
  | .v4 addr => client.ipv4Set = true ∧ client.v4Addr = addr
  | .v6 addr => ∃ numV6 ∈ List.range client.ipv6Set, client.v6Addr numV6 = addr

instance (addr : IpAddr) : Decidable (client.Has addr) :=
  match addr with
  | .v4 addr => inferInstanceAs (Decidable (client.ipv4Set = true ∧ client.v4Addr = addr))
  | .v6 addr => inferInstanceAs
      (Decidable (∃ numV6 ∈ List.range client.ipv6Set, client.v6Addr numV6 = addr))

end IpaWanClient

/-- An `IPACM_Wan` object in STA mode with its routing rules. `gateway` is there while
`wan_v4_addr_gw_set` or `wan_v6_addr_gw_set` is, and `hasIp` stands for `ip_type`. -/
structure StaRoutes (μ : Type*) where
  iface : StaRtIface μ
  isMccMode : Bool
  backhaulIsStaMode : Bool
  isDefaultGateway : Bool
  hasIp : IpaIpType → Bool
  ownAddr : List IpAddr
  gateway : IpaIpType → Option IpAddr
  headerSet : IpaIpType → Bool
  headerPartial : IpaIpType → Bool
  hdrHdlSta : IpaIpType → ℕ
  active : IpaIpType → Bool
  wanClient : ℕ → IpaWanClient μ
  numWanClient : ℕ
  rtRuleHdl : WanRtSlot → ℕ
  kernel : HandleTable WanRtRule

namespace StaRoutes

variable {μ : Type*} (sta : StaRoutes μ) (source : HandleSource)

def pipe (isMccMode : Bool) (txIndex : ℕ) : ℕ :=
  if isMccMode then (sta.iface.tx txIndex).altDstPipe else (sta.iface.tx txIndex).dstPipe

/-- What `handle_route_add_evt` and `handle_wan_client_route_rule` fill in. -/
def spec : WanRtSlot → WanRtSpec
  | .dft ip txIndex =>
      ⟨sta.pipe sta.isMccMode txIndex, sta.hdrHdlSta ip, some (sta.iface.tx txIndex).attrib, none⟩
  | .dftA5 => ⟨sta.iface.appsLanCons, 0, none, none⟩
  | .clientV4 cltIndx txIndex =>
      ⟨sta.pipe sta.isMccMode txIndex, (sta.wanClient cltIndx).hdrHdl .v4,
        some (sta.iface.tx txIndex).attrib, some (.v4 (sta.wanClient cltIndx).v4Addr)⟩
  | .clientV6 cltIndx txIndex numV6 =>
      ⟨sta.pipe sta.isMccMode txIndex, (sta.wanClient cltIndx).hdrHdl .v6, none,
        some (.v6 ((sta.wanClient cltIndx).v6Addr numV6))⟩
  | .clientV6Wan cltIndx txIndex numV6 =>
      ⟨sta.iface.excpPipe, 0, some (sta.iface.tx txIndex).attrib,
        some (.v6 ((sta.wanClient cltIndx).v6Addr numV6))⟩

def rtTblName : WanRtSlot → WanRtTbl
  | .dft .v4 _ | .clientV4 _ _ => .wanV4
  | .dft .v6 _ | .clientV6 _ _ _ => .v6
  | .dftA5 | .clientV6Wan _ _ _ => .wanV6

def rule (slot : WanRtSlot) : WanRtRule := ⟨slot, rtTblName slot, sta.spec slot⟩

def addRule (sta : StaRoutes μ) (slot : WanRtSlot) : StaRoutes μ :=
  { sta with
    rtRuleHdl := update sta.rtRuleHdl slot (source.next sta.kernel.handles)
    kernel := sta.kernel.addOne source (sta.rule slot) }

def addRules (slots : List WanRtSlot) : StaRoutes μ := slots.foldl (addRule source) sta

def deleteRules (slots : List WanRtSlot) : StaRoutes μ :=
  { sta with kernel := sta.kernel.deleteAll (slots.map sta.rtRuleHdl) }

def routeSlots (ip : IpaIpType) : List WanRtSlot :=
  (sta.iface.indices ip).map (.dft ip) ++ if ip = .v6 then [.dftA5] else []

def handleRouteAddEvt (ip : IpaIpType) : StaRoutes μ :=
  if sta.iface.hasTxProp then
    let sta := { sta with isDefaultGateway := true, backhaulIsStaMode := true }
    if sta.headerSet ip then
      let sta := sta.addRules source (sta.routeSlots ip)
      { sta with active := update sta.active ip true }
    else { sta with headerPartial := update sta.headerPartial ip true }
  else sta

def handleRouteDelEvt (ip : IpaIpType) : StaRoutes μ :=
  if sta.iface.hasTxProp then
    let sta := { sta with isDefaultGateway := false }
    if sta.active ip then
      let sta := sta.deleteRules (sta.routeSlots ip)
      { sta with active := update sta.active ip false }
    else sta
  else sta

/-- `get_wan_client_index_ipv4` and `get_wan_client_index_ipv6` -/
def clientOf (addr : IpAddr) : Option ℕ :=
  (List.range sta.numWanClient).find? fun cnt => (sta.wanClient cnt).Has addr

/-- `hdr_hdl_sta_v4` or `hdr_hdl_sta_v6` becomes the handle of a client. -/
def setHeader (ip : IpaIpType) (cltIndx : ℕ) : StaRoutes μ :=
  { sta with
    hdrHdlSta := update sta.hdrHdlSta ip ((sta.wanClient cltIndx).hdrHdl ip)
    headerSet := update sta.headerSet ip true }

/-- The check of one gateway in `handle_sta_header_add_evt`, with whether it goes on. -/
def takeHeaders (ip : IpaIpType) : Bool × StaRoutes μ :=
  match sta.gateway ip with
  | none => (true, sta)
  | some gateway =>
      match sta.clientOf gateway with
      | none => (false, sta)
      | some cltIndx =>
          if (sta.wanClient cltIndx).headerSet ip then
            if (sta.wanClient cltIndx).headerSet ip.other then
              (true, (sta.setHeader ip cltIndx).setHeader ip.other cltIndx)
            else (false, sta.setHeader ip cltIndx)
          else (false, sta)

/-- The end of `handle_sta_header_add_evt`: a route that waits is added. -/
def addPending (ip : IpaIpType) : StaRoutes μ :=
  if sta.headerPartial ip then sta.handleRouteAddEvt source ip else sta

def handleStaHeaderAddEvt : StaRoutes μ :=
  if sta.headerSet .v4 || sta.headerSet .v6 then sta
  else
    let (goesOn, sta) := sta.takeHeaders .v4
    if goesOn then
      let (goesOn, sta) := sta.takeHeaders .v6
      if goesOn then (sta.addPending source .v4).addPending source .v6 else sta
    else sta

def routeAdd (gateway : IpAddr) : StaRoutes μ :=
  if sta.active gateway.ip = false ∧ sta.hasIp gateway.ip = true then
    let sta := { sta with gateway := update sta.gateway gateway.ip (some gateway) }
    (sta.handleStaHeaderAddEvt source).handleRouteAddEvt source gateway.ip
  else sta

def upstreamRouteAdd (ip : IpaIpType) : StaRoutes μ :=
  if sta.active ip = false ∧ sta.hasIp ip = true then sta.handleRouteAddEvt source ip else sta

/-- A default route is deleted, or another interface has it. `IPA_ROUTE_DEL_EVENT` forgets the
gateway of IPv4. -/
def routeDel (forgets : Bool) (ip : IpaIpType) : StaRoutes μ :=
  if sta.active ip then
    let sta := { sta with
      gateway := if forgets = true ∧ ip = IpaIpType.v4 then update sta.gateway ip none
        else sta.gateway }
    sta.handleRouteDelEvt ip
  else sta

def setClient (cltIndx : ℕ) (set : IpaWanClient μ → IpaWanClient μ) : StaRoutes μ :=
  { sta with wanClient := update sta.wanClient cltIndx (set (sta.wanClient cltIndx)) }

variable [DecidableEq μ]

def clientIndex (mac : μ) : Option ℕ :=
  (List.range sta.numWanClient).find? fun cnt => (sta.wanClient cnt).mac = mac

/-- `handle_wan_hdr_init`, where `hdrHdls` are the handles of the headers. -/
def handleWanHdrInit (mac : μ) (hdrHdls : IpaIpType → ℕ) : StaRoutes μ :=
  match sta.clientIndex mac with
  | some _ => sta
  | none =>
      if maxNumWanClients ≤ sta.numWanClient then sta
      else
        let sta := sta.setClient sta.numWanClient fun client => { client with mac := mac }
        if sta.iface.hasTxProp then
          let hasHdr (ip : IpaIpType) : Bool := !(sta.iface.indices ip).isEmpty
          let sta := sta.setClient sta.numWanClient fun client =>
            { client with
              hdrHdl := fun ip => if hasHdr ip then hdrHdls ip else client.hdrHdl ip
              headerSet := fun ip => hasHdr ip || client.headerSet ip
              routeRuleSetV4 := false
              routeRuleSetV6 := 0
              ipv4Set := false
              ipv6Set := 0 }
          { sta with numWanClient := sta.numWanClient + 1 }
        else sta

def clientV4Slots (cltIndx : ℕ) : List WanRtSlot :=
  (sta.iface.indices .v4).map (.clientV4 cltIndx)

def clientV6Slots (cltIndx first count : ℕ) : List WanRtSlot :=
  (sta.iface.indices .v6).flatMap fun txIndex =>
    (List.range' first count).flatMap fun numV6 =>
      [.clientV6 cltIndx txIndex numV6, .clientV6Wan cltIndx txIndex numV6]

def deleteWanRtrulesV4 (cltIndx : ℕ) : StaRoutes μ :=
  if (sta.wanClient cltIndx).routeRuleSetV4 then
    (sta.deleteRules (sta.clientV4Slots cltIndx)).setClient cltIndx fun client =>
      { client with routeRuleSetV4 := false }
  else sta

/-- `handle_wan_client_ipaddr` for the client of an index, with whether it succeeds. -/
def handleWanClientIpaddr (cltIndx : ℕ) : IpAddr → Bool × StaRoutes μ
  | .v4 addr =>
      if addr = 0 then (false, sta)
      else if (sta.wanClient cltIndx).ipv4Set then
        if addr = (sta.wanClient cltIndx).v4Addr then (false, sta)
        else
          (true, (sta.deleteWanRtrulesV4 cltIndx).setClient cltIndx fun client =>
            { client with routeRuleSetV4 := false, v4Addr := addr })
      else
        (true, sta.setClient cltIndx fun client => { client with v4Addr := addr, ipv4Set := true })
  | .v6 addr =>
      let client := sta.wanClient cltIndx
      if addr = ⟨0, 0, 0, 0⟩ then (true, sta)
      else if client.ipv6Set < ipv6NumAddr then
        if ∃ numV6 ∈ List.range client.ipv6Set, client.v6Addr numV6 = addr then (false, sta)
        else
          (true, sta.setClient cltIndx fun client =>
            { client with
              v6Addr := update client.v6Addr client.ipv6Set addr
              ipv6Set := client.ipv6Set + 1 })
      else (false, sta)

def handleWanClientRouteRule (cltIndx : ℕ) (ip : IpaIpType) : StaRoutes μ :=
  let client := sta.wanClient cltIndx
  if sta.iface.hasTxProp then
    match ip with
    | .v4 =>
        if client.routeRuleSetV4 = false ∧ client.ipv4Set = true then
          (sta.addRules source (sta.clientV4Slots cltIndx)).setClient cltIndx fun client =>
            { client with routeRuleSetV4 := true }
        else sta
    | .v6 =>
        if client.routeRuleSetV6 < client.ipv6Set then
          (sta.addRules source (sta.clientV6Slots cltIndx client.routeRuleSetV6
              (client.ipv6Set - client.routeRuleSetV6))).setClient cltIndx fun client =>
            { client with routeRuleSetV6 := client.ipv6Set }
        else sta
  else sta

def neighAdd (mac : μ) (addr : IpAddr) (hdrHdls : IpaIpType → ℕ) : StaRoutes μ :=
  if sta.iface.isWlan = true ∧ addr ∈ sta.ownAddr then sta
  else if mac = sta.iface.invalidMac then sta
  else
    let sta := sta.handleWanHdrInit mac hdrHdls
    match sta.clientIndex mac with
    | none => sta
    | some cltIndx =>
        let (goesOn, sta) := sta.handleWanClientIpaddr cltIndx addr
        if goesOn then
          (sta.handleWanClientRouteRule source cltIndx addr.ip).handleStaHeaderAddEvt source
        else sta

def dftWrites (isSccMode : Bool) (ip : IpaIpType) : List (ℕ × WanRtSpec) :=
  (sta.iface.indices ip).map fun txIndex =>
    (sta.rtRuleHdl (.dft ip txIndex),
      ⟨if isSccMode then (sta.iface.tx txIndex).dstPipe else (sta.iface.tx txIndex).altDstPipe,
        sta.hdrHdlSta ip, some (sta.iface.tx txIndex).attrib, none⟩)

def handleWlanSccMccSwitch (isSccMode : Bool) (ip : IpaIpType) : StaRoutes μ :=
  if sta.iface.hasTxProp = true ∧ sta.isDefaultGateway = true then
    { sta with kernel := sta.kernel.writeAll WanRtRule.write (sta.dftWrites isSccMode ip) }
  else sta

/-- What `handle_wan_client_SCC_MCC_switch` writes for a client. -/
def clientWrites (ip : IpaIpType) (cltIndx : ℕ) : List (ℕ × WanRtSpec) :=
  let client := sta.wanClient cltIndx
  match ip with
  | .v4 =>
      if client.routeRuleSetV4 = false ∨ client.ipv4Set = false then []
      else
        (sta.iface.indices .v4).map fun txIndex =>
          (sta.rtRuleHdl (.clientV4 cltIndx txIndex),
            ⟨sta.pipe sta.isMccMode txIndex, client.hdrHdl .v4,
              some (sta.iface.tx txIndex).attrib, some (.v4 client.v4Addr)⟩)
  | .v6 =>
      -- only the rules in `rt_tbl_wan_v6` are written over
      (sta.iface.indices .v6).flatMap fun txIndex =>
        (List.range client.routeRuleSetV6).map fun numV6 =>
          (sta.rtRuleHdl (.clientV6Wan cltIndx txIndex numV6),
            ⟨sta.pipe sta.isMccMode txIndex, client.hdrHdl .v6,
              some (sta.iface.tx txIndex).attrib, some (.v6 (client.v6Addr numV6))⟩)

def handleWanClientSccMccSwitch (ip : IpaIpType) : StaRoutes μ :=
  if sta.iface.hasTxProp = true ∧ sta.isDefaultGateway = true then
    { sta with
      kernel := sta.kernel.writeAll WanRtRule.write
        ((List.range sta.numWanClient).flatMap (sta.clientWrites ip)) }
  else sta

def switch (isSccMode : Bool) : StaRoutes μ :=
  if sta.backhaulIsStaMode then
    match sta.hasIp .v4, sta.hasIp .v6 with
    | true, true =>
        let sta := sta.handleWlanSccMccSwitch isSccMode .v4
        let sta := sta.handleWlanSccMccSwitch isSccMode .v6
        let sta := sta.handleWanClientSccMccSwitch .v4
        sta.handleWanClientSccMccSwitch .v6
    | true, false =>
        (sta.handleWlanSccMccSwitch isSccMode .v4).handleWanClientSccMccSwitch .v4
    | false, true =>
        (sta.handleWlanSccMccSwitch isSccMode .v6).handleWanClientSccMccSwitch .v6
    | false, false => sta
  else sta

def modeNotice (isMccMode : Bool) : StaRoutes μ :=
  if sta.isMccMode = isMccMode then sta else { sta with isMccMode }.switch (!isMccMode)

/-- Addresses of the interface, neighbours, default routes of this interface and others, and notices
of the mode. -/
inductive Event (μ : Type*) where
  | addrAdd (addr : IpAddr)
  | neighAdd (mac : μ) (addr : IpAddr) (hdrHdls : IpaIpType → ℕ)
  | routeAdd (gateway : IpAddr)
  | upstreamRouteAdd (ip : IpaIpType)
  | otherRouteAdd (isUpstream : Bool) (ip : IpaIpType) (backhaulIsStaMode : Bool)
  | routeDel (ip : IpaIpType)
  | upstreamRouteDel (ip : IpaIpType)
  | modeNotice (isMccMode : Bool)

/-- `event_callback`, for the events that concern routing rules. -/
def handle : Event μ → StaRoutes μ
  | .addrAdd addr =>
      { sta with
        hasIp := update sta.hasIp addr.ip true
        ownAddr := addr ::
          match addr with
          | .v4 _ => sta.ownAddr.filter fun own => own.ip = .v6
          | .v6 _ => sta.ownAddr }
  | .neighAdd mac addr hdrHdls => sta.neighAdd source mac addr hdrHdls
  | .routeAdd gateway => sta.routeAdd source gateway
  | .upstreamRouteAdd ip => sta.upstreamRouteAdd source ip
  | .otherRouteAdd isUpstream ip backhaulIsStaMode =>
      { sta.routeDel (!isUpstream) ip with backhaulIsStaMode }
  | .routeDel ip => sta.routeDel true ip
  | .upstreamRouteDel ip => sta.routeDel false ip
  | .modeNotice isMccMode => sta.modeNotice isMccMode

end StaRoutes

end HtcPme.Ipacm
