import HtcPme.Foundation.Run
import HtcPme.Ipacm.WlanClient

/-!
# The default route of a WAN interface in STA mode

A default route that comes before the gateway's client is known waits, and
`handle_sta_header_add_evt` installs it when the header is constructed.
-/

namespace HtcPme.Ipacm

open Function (update)

inductive IpAddr where
  | v4 (addr : ℕ)
  | v6 (addr : Ipv6Addr)
deriving DecidableEq

def IpAddr.ip : IpAddr → IpaIpType
  | v4 _ => .v4
  | v6 _ => .v6

def IpaIpType.other : IpaIpType → IpaIpType
  | v4 => .v6
  | v6 => .v4

theorem IpaIpType.forall_iff {holds : IpaIpType → Prop} :
    (∀ ip, holds ip) ↔ holds .v4 ∧ holds .v6 :=
  ⟨fun all => ⟨all .v4, all .v6⟩, fun both ip => by cases ip; exacts [both.1, both.2]⟩

instance {holds : IpaIpType → Prop} [DecidablePred holds] : Decidable (∀ ip, holds ip) :=
  decidable_of_iff _ IpaIpType.forall_iff.symm

structure WanClient (μ : Type*) where
  mac : μ
  v4Addr : Option ℕ
  v6Addr : List Ipv6Addr
  headerSet : IpaIpType → Bool

def maxNumWanClients : ℕ := 10

/-- The client has the address, as `get_wan_client_index_ipv4` and `get_wan_client_index_ipv6` see
it. -/
def WanClient.Has {μ : Type*} (client : WanClient μ) : IpAddr → Prop
  | .v4 addr => client.v4Addr = some addr
  | .v6 addr => addr ∈ client.v6Addr

instance {μ : Type*} (client : WanClient μ) (addr : IpAddr) : Decidable (client.Has addr) := by
  cases addr <;> unfold WanClient.Has <;> infer_instance

/-- What is fixed of the interface: the IP types that it has an address of and those of its tx
properties, whether it is a `WLAN_WAN`, and its own addresses. -/
structure WanIface (μ : Type*) where
  hasIp : IpaIpType → Bool
  hasTx : IpaIpType → Bool
  isWlan : Bool
  ownAddr : List IpAddr
  invalidMac : μ

/-- An `IPACM_Wan` object in STA mode. `route` and `known` are not in the source: the gateway of the
default route, and whether the header of its client has been constructed. -/
structure WanSta (μ : Type*) where
  iface : WanIface μ
  wanClient : List (WanClient μ)
  gateway : IpaIpType → Option IpAddr
  headerSet : IpaIpType → Bool
  headerPartial : IpaIpType → Bool
  active : IpaIpType → Bool
  route : IpaIpType → Option IpAddr
  known : IpaIpType → Bool

namespace WanSta

variable {μ : Type*}

def IsInit (wan : WanSta μ) : Prop :=
  wan = ⟨wan.iface, [], fun _ => none, fun _ => false, fun _ => false, fun _ => false,
    fun _ => none, fun _ => false⟩

def Knows (wan : WanSta μ) (addr : IpAddr) : Prop :=
  ∃ client ∈ wan.wanClient, client.Has addr ∧ client.headerSet addr.ip = true

instance (wan : WanSta μ) (addr : IpAddr) : Decidable (wan.Knows addr) :=
  inferInstanceAs (Decidable (∃ client ∈ wan.wanClient, _ ∧ _))

/-- An IP type is active exactly when it has a default route whose gateway's header is constructed.
-/
def ActiveOk (wan : WanSta μ) : Prop :=
  ∀ ip, wan.active ip = true ↔ (wan.route ip).isSome = true ∧ wan.known ip = true

variable (wan : WanSta μ)

def handleRouteAdd (ip : IpaIpType) : WanSta μ :=
  if wan.headerSet ip = false then
    { wan with headerPartial := update wan.headerPartial ip true }
  else { wan with active := update wan.active ip true }

/-- The check of one gateway in `handle_sta_header_add_evt`, with whether it goes on. -/
def takeHeaders (ip : IpaIpType) : Bool × WanSta μ :=
  match wan.gateway ip with
  | none => (true, wan)
  | some gateway =>
      match wan.wanClient.find? fun client => client.Has gateway with
      | none => (false, wan)
      | some client =>
          if client.headerSet ip = false then (false, wan)
          else
            let wan := { wan with headerSet := update wan.headerSet ip true }
            if client.headerSet ip.other = false then (false, wan)
            else (true, { wan with headerSet := update wan.headerSet ip.other true })

/-- The end of `handle_sta_header_add_evt`: a route that waits is added. -/
def addPending (ip : IpaIpType) : WanSta μ :=
  if wan.headerPartial ip then wan.handleRouteAdd ip else wan

def handleStaHeaderAdd : WanSta μ :=
  if wan.headerSet .v4 || wan.headerSet .v6 then wan
  else
    let (goesOn, wan) := wan.takeHeaders .v4
    if goesOn then
      let (goesOn, wan) := wan.takeHeaders .v6
      if goesOn then (wan.addPending .v4).addPending .v6 else wan
    else wan

/-- `handle_route_del_evt` and what `event_callback` does before it. -/
def handleRouteDel (ip : IpaIpType) : WanSta μ :=
  if wan.active ip then
    { wan with
      gateway := if ip = .v4 then update wan.gateway ip none else wan.gateway
      active := update wan.active ip false }
  else wan

abbrev setGateway (gateway : IpAddr) : WanSta μ :=
  { wan with gateway := update wan.gateway gateway.ip (some gateway) }

def routeAdd (gateway : IpAddr) : WanSta μ :=
  if wan.active gateway.ip = false ∧ wan.iface.hasIp gateway.ip = true then
    (wan.setGateway gateway).handleStaHeaderAdd.handleRouteAdd gateway.ip
  else wan

variable [DecidableEq μ]

/-- `handle_wan_hdr_init`: a client that is not known gets its headers. -/
def handleWanHdrInit (mac : μ) : WanSta μ :=
  if ∃ client ∈ wan.wanClient, client.mac = mac then wan
  else if wan.wanClient.length ≥ maxNumWanClients then wan
  else { wan with wanClient := wan.wanClient ++ [⟨mac, none, [], wan.iface.hasTx⟩] }

/-- What `handle_wan_client_ipaddr` makes of the client, if it succeeds. -/
def newAddr (client : WanClient μ) : IpAddr → Option (WanClient μ)
  | .v4 addr =>
      if addr = 0 ∨ client.v4Addr = some addr then none else some
        { client with v4Addr := some addr }
  | .v6 addr =>
      if addr = ⟨0, 0, 0, 0⟩ then some client
      else if client.v6Addr.length < ipv6NumAddr then
        if addr ∈ client.v6Addr then none
        else some { client with v6Addr := client.v6Addr ++ [addr] }
      else none

def updateClient (mac : μ) (addr : IpAddr) : List (WanClient μ) → Option (List (WanClient μ))
  | [] => none
  | client :: rest =>
      if client.mac = mac then (newAddr client addr).map (· :: rest)
      else (updateClient mac addr rest).map (client :: ·)

/-- `IPA_NEIGH_CLIENT_IP_ADDR_ADD_EVENT` up to `handle_wan_client_ipaddr`, with whether it goes on.
-/
def clientAdd (mac : μ) (addr : IpAddr) : Bool × WanSta μ :=
  if wan.iface.isWlan = true ∧ addr ∈ wan.iface.ownAddr then (false, wan)
  else if mac = wan.iface.invalidMac then (false, wan)
  else
    let wan := wan.handleWanHdrInit mac
    match updateClient mac addr wan.wanClient with
    | none => (false, wan)
    | some wanClient => (true, { wan with wanClient })

def neighAdd (mac : μ) (addr : IpAddr) : WanSta μ :=
  let (goesOn, wan) := wan.clientAdd mac addr
  if goesOn then wan.handleStaHeaderAdd else wan

def learn (before : IpaIpType → Bool) : WanSta μ :=
  { wan with
    known := fun ip => before ip || decide (∃ gateway ∈ wan.route ip, wan.Knows gateway) }

inductive Event (μ : Type*) where
  | routeAdd (gateway : IpAddr)
  | routeDel (ip : IpaIpType)
  | neighAdd (mac : μ) (addr : IpAddr)
deriving DecidableEq

def step : Event μ → WanSta μ
  | .routeAdd gateway =>
      { wan.routeAdd gateway with
        route := update wan.route gateway.ip (some gateway) }.learn
          (update wan.known gateway.ip false)
  | .routeDel ip =>
      { wan.handleRouteDel ip with route := update wan.route ip none }.learn
        (update wan.known ip false)
  | .neighAdd mac addr => (wan.neighAdd mac addr).learn wan.known

end WanSta

end HtcPme.Ipacm
