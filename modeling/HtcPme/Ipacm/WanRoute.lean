import HtcPme.Foundation.Run
import HtcPme.Ipacm.IfaceManager
import HtcPme.Ipacm.WanSta

/-!
# Default routes and WAN-up events

A WAN interface that gets the default route posts a WAN-up event, and a WAN-down event when it loses
it.
-/

namespace HtcPme.Ipacm

/-- The address that a WAN-up or WAN-down event carries, `none` before there is one, or the prefix.
-/
inductive WanAddr where
  | v4 (addr : Option ℕ)
  | v6 (word0 word1 : ℕ)
deriving DecidableEq

/-- `IPA_HANDLE_WAN_UP`, `IPA_HANDLE_WAN_DOWN` and those of IPv6, with their `ipacm_event_iface_up`.
-/
structure WanPost where
  isUp : Bool
  addr : WanAddr
  isSta : Bool
deriving DecidableEq

/-- The static members of `IPACM_Wan`, and the events that were posted, the last one first. -/
structure WanShared where
  wanUp : IpaIpType → Bool
  ipaIfNumTether : IpaIpType → List ℕ
  posted : IpaIpType → List WanPost

/-- An `IPACM_Wan` object: its interface and mode, its properties and addresses, and what it knows
of its default routes. -/
structure WanInst where
  ipaIfNum : ℕ
  isStaMode : IpacmWanIfaceType
  hasTx : Bool
  hasRx : Bool
  hasExt : Bool
  hasIp : IpaIpType → Bool
  isXlat : Bool
  isDefaultGateway : Bool
  active : IpaIpType → Bool
  wanV4Addr : Option ℕ
  ipv6Addr : List Ipv6Addr
  ipv6Prefix : ℕ × ℕ

structure Wan where
  shared : WanShared
  inst : WanInst

/-- What `IPACM_Wan` listens to of the routes: default routes and upstream routes of the interface
`ipaIfNum`, the latter for a tethered interface. -/
inductive RouteEvent where
  | routeAdd (ipaIfNum : ℕ) (ip : IpaIpType)
  | routeDel (ipaIfNum : ℕ) (ip : IpaIpType)
  | upstreamAdd (ipaIfNum : ℕ) (ip : IpaIpType) (ipaIfNumTether : ℕ)
  | upstreamDel (ipaIfNum : ℕ) (ip : IpaIpType) (ipaIfNumTether : ℕ)
deriving DecidableEq

def WanInst.current (inst : WanInst) : IpaIpType → WanAddr
  | .v4 => .v4 inst.wanV4Addr
  | .v6 => .v6 inst.ipv6Prefix.1 inst.ipv6Prefix.2

def WanInst.isSta (inst : WanInst) : Bool := inst.isStaMode ≠ .q6Wan

namespace Wan

variable (wan : Wan)

/-- A WAN-up or WAN-down event is posted, with `wan_up` and `active_v4` or those of IPv6. -/
def post (ip : IpaIpType) (isUp : Bool) : Wan :=
  { shared := { wan.shared with
      wanUp := Function.update wan.shared.wanUp ip isUp
      posted := Function.update wan.shared.posted ip
        (⟨isUp, wan.inst.current ip, wan.inst.isSta⟩ :: wan.shared.posted ip) }
    inst := { wan.inst with active := Function.update wan.inst.active ip isUp } }

/-- `handle_route_add_evt`, with the headers of a STA constructed. -/
def handleRouteAddEvt (ip : IpaIpType) : Wan :=
  if wan.inst.hasTx = false then wan
  else
    let wan := { wan with inst := { wan.inst with isDefaultGateway := true } }
    if wan.inst.isStaMode = .q6Wan ∧ wan.inst.hasExt = false then wan
    else wan.post ip true

def handleRouteDelEvt (ip : IpaIpType) : Wan :=
  if wan.inst.hasTx = false then wan
  else
    let wan := { wan with inst := { wan.inst with isDefaultGateway := false } }
    if wan.inst.active ip then wan.post ip false else wan

def otherRouteAdd (ip : IpaIpType) : Wan :=
  if wan.inst.active ip then wan.handleRouteDelEvt ip else wan

def WithV6 (ip : IpaIpType) : Prop :=
  ip = .v4 ∧ wan.inst.isXlat = true ∧ wan.inst.isStaMode = .q6Wan

instance (ip : IpaIpType) : Decidable (wan.WithV6 ip) :=
  inferInstanceAs (Decidable (_ ∧ _ ∧ _))

def ownRouteAdd (ip : IpaIpType) : Wan :=
  if wan.inst.active ip = false ∧ wan.inst.hasIp ip = true then
    let wan := wan.handleRouteAddEvt ip
    if wan.WithV6 ip ∧ wan.inst.active .v6 = false then wan.handleRouteAddEvt .v6 else wan
  else wan

def ownRouteDel (ip : IpaIpType) : Wan :=
  if wan.inst.active ip then
    let wan := wan.handleRouteDelEvt ip
    if wan.WithV6 ip ∧ wan.inst.active .v6 = true then wan.handleRouteDelEvt .v6 else wan
  else wan

def setTether (ip : IpaIpType) (ipaIfNumTether : List ℕ) : Wan :=
  { wan with
    shared := { wan.shared with
      ipaIfNumTether := Function.update wan.shared.ipaIfNumTether ip ipaIfNumTether } }

/-- `isAndroid` is `FEATURE_IPA_ANDROID`. -/
def ownUpstreamAdd (isAndroid : Bool) (ip : IpaIpType) (ipaIfNumTether : ℕ) : Wan :=
  if wan.inst.hasIp ip then
    let wan := if wan.inst.active ip then wan else wan.handleRouteAddEvt ip
    if isAndroid then wan.setTether ip (wan.shared.ipaIfNumTether ip ++ [ipaIfNumTether]) else wan
  else wan

def ownUpstreamDel (isAndroid : Bool) (ip : IpaIpType) (ipaIfNumTether : ℕ) : Wan :=
  if wan.inst.active ip then
    if isAndroid then
      let wan := wan.setTether ip ((wan.shared.ipaIfNumTether ip).erase ipaIfNumTether)
      if wan.shared.ipaIfNumTether ip ≠ [] then wan else wan.handleRouteDelEvt ip
    else wan.handleRouteDelEvt ip
  else wan

/-- `event_callback` for the events of routes. -/
def routeCallback (isAndroid : Bool) : RouteEvent → Wan
  | .routeAdd ipaIfNum ip =>
      if ipaIfNum = wan.inst.ipaIfNum then wan.ownRouteAdd ip else wan.otherRouteAdd ip
  | .routeDel ipaIfNum ip =>
      if ipaIfNum = wan.inst.ipaIfNum then wan.ownRouteDel ip else wan
  | .upstreamAdd ipaIfNum ip ipaIfNumTether =>
      if ipaIfNum = wan.inst.ipaIfNum then wan.ownUpstreamAdd isAndroid ip ipaIfNumTether
      else wan.otherRouteAdd ip
  | .upstreamDel ipaIfNum ip ipaIfNumTether =>
      if ipaIfNum = wan.inst.ipaIfNum then wan.ownUpstreamDel isAndroid ip ipaIfNumTether else wan

end Wan

end HtcPme.Ipacm
