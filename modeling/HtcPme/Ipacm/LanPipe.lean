import HtcPme.Foundation.RuleGroups
import HtcPme.Foundation.Run
import HtcPme.Ipacm.UplinkRule
import HtcPme.Ipacm.WlanAp

/-!
# Filter rules of a LAN interface's pipe

The rules on the pipe of a LAN interface, for its addresses, the backhaul and software routing, and
the count that `IPACM_Config` keeps of them.
-/

namespace HtcPme.Ipacm

structure LanFltConfig extends DummyFltConfig where
  featureIpaAndroid : Bool
  featureIpaV3 : Bool
  featureEthBridgeLe : Bool

def LanFltConfig.ipv6DefaultFiltertingRules (config : LanFltConfig) : ℕ :=
  if config.featureIpaAndroid then 6 else 3

/-- How many rules there are for private subnets: dummy ones for as many as may come, or those
of the subnets. -/
def LanFltConfig.privateSubnetRules (config : LanFltConfig) : ℕ :=
  if config.featureIpaAndroid then ipaMaxPrivateSubnetEntries else config.ipaNumPrivateSubnet

def numIpv4IcmpFltRule : ℕ := 1

def numIpv6IcmpFltRule : ℕ := 1

def numIpv6PrefixFltRule : ℕ := 1

def lanToLanMaxWlanClient : ℕ := 16

def lanToLanMaxCpeClient : ℕ := 15

def maxDefaultV6RouteRules : ℕ := 2

/-- The handle arrays of an interface, for one IP type. `sta` is `lan_wan_fl_rule_hdl`, or
`dft_v6fl_rule_hdl[IPV6_DEFAULT_FILTERTING_RULES]`. -/
inductive FltGroup where
  | tcpCtl
  | dft
  | wlanClient
  | lanClient
  | lan2lan
  | icmp
  | privateSubnet
  | ipv6Prefix
  | wanUl
  | sta
  | softwareRouting
  deriving DecidableEq

inductive IfaceIpType where
  | null
  | v4
  | v6
  | max
  deriving DecidableEq

structure UplinkExtProp where
  filterHdl : ℕ
  ruleId : ℕ

/-- The list in `ipa_fltr_installed_notif_req_msg_v01`. -/
inductive FltIndexList where
  | filterIndex (entries : List (ℤ × ℕ))
  | ruleId (ids : List ℕ)
  deriving DecidableEq

structure UplinkNotice where
  ip : IpaIpType
  sent : FltIndexList
  positions : List ℕ
  deriving DecidableEq

inductive LanFltEvt where
  | ipv4AddrAdd (addr : BitVec 32)
  | ipv6AddrAdd (addr : BitVec 128)
  | wanUp (ip : IpaIpType) (isSta : Bool)
  | wanDown (ip : IpaIpType) (isSta : Bool)
  | swRouting (enable : Bool)
  | linkDown
  deriving DecidableEq

/-- An `IPACM_Lan` with rx properties, the statics that it reads and the events that are still
queued. `notices` is not in the source. -/
structure LanPipe where
  pipe : IpaIpType → RuleGroups FltGroup
  ipType : IfaceIpType
  ipv6Addr : List (BitVec 128)
  modemUlSet : IpaIpType → Bool
  softwareroutingAct : Bool
  isActive : Bool
  isWanUP : IpaIpType → Bool
  backhaulIsStaMode : Bool
  ipaSwRtEnable : Bool
  queue : List LanFltEvt
  notices : List UplinkNotice

namespace LanPipe

variable (config : LanFltConfig) (source : HandleSource) (lan : LanPipe)

def hasIp : IpaIpType → Bool
  | .v4 => lan.ipType = .v4 || lan.ipType = .max
  | .v6 => lan.ipType = .v6 || lan.ipType = .max

def setPipe (ip : IpaIpType) (groups : RuleGroups FltGroup) : LanPipe :=
  { lan with pipe := Function.update lan.pipe ip groups }

@[simp]
theorem pipe_setPipe (ip : IpaIpType) (groups : RuleGroups FltGroup) :
    (lan.setPipe ip groups).pipe ip = groups := Function.update_self _ _ _

theorem pipe_setPipe_of_ne {ip other : IpaIpType} (differs : other ≠ ip)
    (groups : RuleGroups FltGroup) : (lan.setPipe ip groups).pipe other = lan.pipe other :=
  Function.update_of_ne differs _ _

@[simp]
theorem setPipe_setPipe (ip : IpaIpType) (groups groups' : RuleGroups FltGroup) :
    (lan.setPipe ip groups).setPipe ip groups' = lan.setPipe ip groups' := by
  simp [setPipe]

/-- `AddFilteringRule` and `increaseFltRuleCount`. -/
def addRules (atRear : Bool) (ip : IpaIpType) (group : FltGroup) (num : ℕ) : LanPipe :=
  lan.setPipe ip ((lan.pipe ip).add source atRear group num)

/-- `DeleteFilteringHdls`, and `decreaseFltRuleCount` if it succeeds. -/
def deleteRules (ip : IpaIpType) (group : FltGroup) (num : ℕ) (lan : LanPipe) :
    Bool × LanPipe :=
  let (deleted, groups) := (lan.pipe ip).delete group num
  (deleted, lan.setPipe ip groups)

def setIpType (ip : IpaIpType) : LanPipe :=
  { lan with
    ipType :=
      match ip with
      | .v4 => if lan.ipType = .v6 then .max else .v4
      | .v6 => if lan.ipType = .v4 then .max else .v6 }

def initFlRule (ip : IpaIpType) : LanPipe :=
  if lan.hasIp ip then lan
  else
    match ip with
    | .v4 =>
        (lan.setIpType .v4).addRules source (!config.featureIpaV3) .v4 .dft
          ipv4DefaultFiltertingRules
    | .v6 =>
        (lan.setIpType .v6).addRules source true .v6 .dft config.ipv6DefaultFiltertingRules

def ethBridgeHandleDummyWlanClientFltRule (ip : IpaIpType) : LanPipe :=
  lan.addRules source true ip .wlanClient lanToLanMaxWlanClient

def ethBridgeHandleDummyLanClientFltRule (ip : IpaIpType) : LanPipe :=
  lan.addRules source true ip .lanClient lanToLanMaxCpeClient

def installTcpCtlFltRule (ip : IpaIpType) : LanPipe :=
  lan.addRules source true ip .tcpCtl numTcpCtlFltRule

def addDummyLan2lanFltRule (ip : IpaIpType) : LanPipe :=
  lan.addRules source true ip .lan2lan maxOffloadPair

def installIpv4IcmpFltRule : LanPipe :=
  lan.addRules source true .v4 .icmp numIpv4IcmpFltRule

def installIpv6IcmpFltRule : LanPipe :=
  lan.addRules source true .v6 .icmp numIpv6IcmpFltRule

/-- `add_dummy_private_subnet_flt_rule` for Android, and `handle_private_subnet` otherwise. -/
def handlePrivateSubnet : IpaIpType → LanPipe
  | .v4 =>
      lan.addRules source true .v4 .privateSubnet config.privateSubnetRules
  | .v6 => lan

def handleAddrEvtV4 : LanPipe :=
  if config.featureEthBridgeLe then
    ((lan.initFlRule config source .v4).ethBridgeHandleDummyWlanClientFltRule source
      .v4).ethBridgeHandleDummyLanClientFltRule source .v4
  else
    ((if config.ctOpt then lan.installTcpCtlFltRule source .v4 else lan).initFlRule config source
      .v4).addDummyLan2lanFltRule source .v4

/-- `handle_addr_evt` for an IPv6 address, or none if it is there already. The rules are those of
the first address. -/
def handleAddrEvtV6 (addr : BitVec 128) : Option LanPipe :=
  if addr ∈ lan.ipv6Addr then none
  else
    let installed :=
      if lan.ipv6Addr.length = 0 then
        if config.featureEthBridgeLe then
          ((lan.ethBridgeHandleDummyWlanClientFltRule source
            .v6).ethBridgeHandleDummyLanClientFltRule source .v6).initFlRule config source .v6
        else
          ((if config.ctOpt then lan.installTcpCtlFltRule source .v6
            else lan).addDummyLan2lanFltRule source .v6).initFlRule config source .v6
      else lan
    some { installed with ipv6Addr := installed.ipv6Addr ++ [addr] }

def handleWanUp (ip : IpaIpType) : LanPipe := lan.addRules source true ip .sta 1

def installIpv6PrefixFltRule : LanPipe := lan.addRules source true .v6 .ipv6Prefix 1

/-- The list that is sent for the properties, whose rules come to stand from `index` on. -/
def fltIndexList (index : ℤ) (ext : List UplinkExtProp) : FltIndexList :=
  if config.featureIpaV3 then .ruleId (ext.map (·.ruleId))
  else .filterIndex (ext.mapIdx fun cnt prop => (index + cnt, prop.filterHdl))

def handleUplinkFilterRule (ip : IpaIpType) (ext : List UplinkExtProp) : LanPipe :=
  if ext = [] then lan
  else if ext.length > maxWanUlFilterRules then lan
  else
    let groups := (lan.pipe ip).append source true .wanUl ext.length
    let added := (groups.hdl .wanUl).drop ((lan.pipe ip).hdl .wanUl).length
    { lan.setPipe ip groups with
      notices :=
        { ip
          sent := fltIndexList config (lan.pipe ip).count ext
          positions := added.map (groups.kernel.handles.idxOf ·) } :: lan.notices }

def handleWanUpEx (ip : IpaIpType) (ext : List UplinkExtProp) : LanPipe :=
  if (ip = .v4 ∨ lan.ipv6Addr.length = 1) ∧ lan.modemUlSet ip = false then
    { lan.handleUplinkFilterRule config source ip ext with
      modemUlSet := Function.update lan.modemUlSet ip true }
  else lan

def deleteIpv6PrefixFltRule : LanPipe := (lan.deleteRules .v6 .ipv6Prefix numIpv6PrefixFltRule).2

def deleteWanUl (ip : IpaIpType) : LanPipe :=
  let num := ((lan.pipe ip).hdl .wanUl).length
  if num > maxWanUlFilterRules then lan
  else
    let (deleted, lan) := lan.deleteRules ip .wanUl num
    if deleted then
      { lan.setPipe ip ((lan.pipe ip).forget .wanUl) with
        modemUlSet := Function.update lan.modemUlSet ip false
        notices :=
          { ip, sent := fltIndexList config 0 [], positions := [] } :: lan.notices }
    else lan

/-- `handle_wan_down`, or the part of `handle_wan_down_v6` behind the deletion of the prefix rule.
-/
def deleteUplink (ip : IpaIpType) (isStaMode : Bool) : LanPipe :=
  if isStaMode then (lan.deleteRules ip .sta 1).2 else lan.deleteWanUl config ip

def handleWanDown (isStaMode : Bool) : LanPipe := lan.deleteUplink config .v4 isStaMode

/-- `handle_wan_down_v6`, which returns when no rule for the modem is there. -/
def handleWanDownV6 (isStaMode : Bool) : LanPipe :=
  let lan := lan.deleteIpv6PrefixFltRule
  if isStaMode = false ∧ (lan.pipe .v6).hdl .wanUl = [] then lan
  else lan.deleteUplink config .v6 isStaMode

def handleSoftwareRoutingEnable : LanPipe :=
  if lan.softwareroutingAct then lan
  else
    { (lan.addRules source false .v4 .softwareRouting 1).addRules source false .v6
        .softwareRouting 1 with softwareroutingAct := true }

def untilFail : List (LanPipe → Bool × LanPipe) → LanPipe → Bool × LanPipe
  | [], lan => (true, lan)
  | action :: rest, lan =>
      let (succeeded, lan) := action lan
      if succeeded then untilFail rest lan else (false, lan)

def handleSoftwareRoutingDisable : LanPipe :=
  if lan.softwareroutingAct = false then lan
  else
    let (succeeded, lan) := untilFail
      [deleteRules .v4 .softwareRouting 1,
        deleteRules .v6 .softwareRouting 1] lan
    if succeeded then { lan with softwareroutingAct := false } else lan

def deleteLan2lan (ip : IpaIpType) (lan : LanPipe) : Bool × LanPipe :=
  let (deleted, groups) := (lan.pipe ip).deleteSingly .lan2lan maxOffloadPair
  (deleted, lan.setPipe ip groups)

def bridgeDeletions (ip : IpaIpType) : List (LanPipe → Bool × LanPipe) :=
  if config.featureEthBridgeLe then
    [deleteRules ip .wlanClient lanToLanMaxWlanClient,
      deleteRules ip .lanClient lanToLanMaxCpeClient]
  else if config.ctOpt then
    [deleteRules ip .tcpCtl numTcpCtlFltRule, deleteLan2lan ip]
  else [deleteLan2lan ip]

def defaultDeletions : IpaIpType → List (LanPipe → Bool × LanPipe)
  | .v4 =>
      deleteRules .v4 .icmp numIpv4IcmpFltRule ::
      deleteRules .v4 .dft ipv4DefaultFiltertingRules ::
      (bridgeDeletions config .v4 ++
        [deleteRules .v4 .privateSubnet config.privateSubnetRules])
  | .v6 =>
      deleteRules .v6 .icmp numIpv6IcmpFltRule ::
      deleteRules .v6 .dft config.ipv6DefaultFiltertingRules ::
      bridgeDeletions config .v6

/-- `handle_down_evt`. Routing rules and headers are deleted without a failure. -/
def handleDownEvt : LanPipe :=
  if lan.ipType = .null then { lan with isActive := false }
  else
    let lan := if lan.isWanUP .v4 then lan.handleWanDown config lan.backhaulIsStaMode else lan
    let lan := if lan.isWanUP .v6 then lan.handleWanDownV6 config lan.backhaulIsStaMode else lan
    let (succeeded, lan) := untilFail
      ((if lan.ipType ≠ .v6 then defaultDeletions config .v4 else []) ++
        (if lan.ipType ≠ .v4 then defaultDeletions config .v6 else [])) lan
    let lan :=
      if succeeded ∧ lan.softwareroutingAct then lan.handleSoftwareRoutingDisable else lan
    { lan with isActive := false }

def installUplink (ip : IpaIpType) (isSta : Bool) (ext : List UplinkExtProp) : LanPipe :=
  if isSta then lan.handleWanUp source ip else lan.handleWanUpEx config source ip ext

/-- `IPA_ADDR_ADD_EVENT`, at its end. -/
def checkSwRouting : LanPipe :=
  if lan.ipaSwRtEnable then lan.handleSoftwareRoutingEnable source else lan

def ipv4AddrAdd (addr : BitVec 32) (ext : List UplinkExtProp) : LanPipe :=
  if addr = 0 then lan
  else if lan.ipType ≠ .v4 ∧ lan.ipType ≠ .max then
    let lan := ((lan.handleAddrEvtV4 config source).installIpv4IcmpFltRule
      source).handlePrivateSubnet config source .v4
    let lan :=
      if lan.isWanUP .v4 then lan.installUplink config source .v4 lan.backhaulIsStaMode ext
      else lan
    lan.checkSwRouting source
  else lan.checkSwRouting source

def ipv6AddrAdd (addr : BitVec 128) (ext : List UplinkExtProp) : LanPipe :=
  if addr = 0 then lan
  else if lan.ipType ≠ .v6 ∧ lan.ipType ≠ .max ∨ lan.ipv6Addr.length ≠ maxDefaultV6RouteRules then
    match lan.handleAddrEvtV6 config source addr with
    | none => lan
    | some lan =>
        let isFirst := lan.ipv6Addr.length = 1
        let lan := if isFirst then lan.installIpv6IcmpFltRule source else lan
        let lan := lan.handlePrivateSubnet config source .v6
        let lan :=
          if lan.isWanUP .v6 ∧ isFirst then
            (lan.installIpv6PrefixFltRule source).installUplink config source .v6
              lan.backhaulIsStaMode ext
          else lan
        lan.checkSwRouting source
  else lan.checkSwRouting source

def wanUp (ip : IpaIpType) (isSta : Bool) (ext : List UplinkExtProp) : LanPipe :=
  if lan.hasIp ip then
    let lan := if ip = .v6 then lan.installIpv6PrefixFltRule source else lan
    lan.installUplink config source ip isSta ext
  else lan

def wanDown (ip : IpaIpType) (isSta : Bool) : LanPipe :=
  if lan.hasIp ip then
    if ip = .v4 then lan.handleWanDown config isSta else lan.handleWanDownV6 config isSta
  else lan

def eventCallback (ext : List UplinkExtProp) : LanFltEvt → LanPipe
  | evt =>
      if lan.isActive = false then lan
      else
        match evt with
        | .ipv4AddrAdd addr => lan.ipv4AddrAdd config source addr ext
        | .ipv6AddrAdd addr => lan.ipv6AddrAdd config source addr ext
        | .wanUp ip isSta => lan.wanUp config source ip isSta ext
        | .wanDown ip isSta => lan.wanDown config ip isSta
        | .swRouting true => lan.handleSoftwareRoutingEnable source
        | .swRouting false => lan.handleSoftwareRoutingDisable
        | .linkDown => lan.handleDownEvt config

def setStatics : LanFltEvt → LanPipe
  | .wanUp ip isSta =>
      { lan with isWanUP := Function.update lan.isWanUP ip true, backhaulIsStaMode := isSta }
  | .wanDown ip _ => { lan with isWanUP := Function.update lan.isWanUP ip false }
  | .swRouting enable => { lan with ipaSwRtEnable := enable }
  | _ => lan

inductive Act where
  | posted (evt : LanFltEvt)
  | handled (ext : List UplinkExtProp)

/-- `PostEvt`, or the dispatch of an event if there is one. -/
def act : Act → Option LanPipe
  | .posted evt =>
      let lan := lan.setStatics evt
      some { lan with queue := lan.queue ++ [evt] }
  | .handled ext =>
      match lan.queue with
      | [] => none
      | evt :: rest => some ({ lan with queue := rest }.eventCallback config source ext evt)

end LanPipe

end HtcPme.Ipacm
