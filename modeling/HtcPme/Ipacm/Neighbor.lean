import HtcPme.Foundation.SlotShift
import Mathlib.Algebra.GroupWithZero.Nat
import Mathlib.Data.Int.Notation
import Mathlib.Data.List.Nodup

/-!
# The cache of neighbour clients

`IPACM_Neighbor::event_callback`. A model function returns `none` where an index is not below the
size of the array of clients. What is looked up about the interface is given with the event.
-/

namespace HtcPme.Ipacm

abbrev ipaMaxNumNeighborClients : ℕ := 100

abbrev ipv4AddrLinklocal : BitVec 32 := 0xA9FE0000
abbrev ipv4AddrLinklocalMask : BitVec 32 := 0xFFFF0000

structure NeighborClient (μ : Type) where
  macAddr : μ
  ifaceIndex : ℤ
  v4Addr : BitVec 32
  ipaIfNum : ℤ
deriving DecidableEq

/-- The address of an event, of the IP type that `iptype` says. -/
inductive NeighAddr where
  | v4 (addr : BitVec 32)
  | v6 (addr : BitVec 128)
deriving DecidableEq

/-- `ipacm_event_data_all`, as far as neighbours are concerned. -/
structure NeighData (μ : Type) where
  ifIndex : ℤ
  addr : NeighAddr
  macAddr : μ
deriving DecidableEq

inductive WlanAttrib (μ : Type) where
  | macAddr (mac : μ)
  | other
deriving DecidableEq

/-- The events that are registered for. `stale` is what the stack held where the address of the
client is copied to. -/
inductive NeighEvent (μ : Type) where
  | wlanClientAddEx (ifIndex : ℤ) (attribs : List (WlanAttrib μ)) (stale : μ)
  | newNeigh (data : NeighData μ)
  | delNeigh (data : NeighData μ)
deriving DecidableEq

structure IfaceQuery where
  ipaInterfaceIndex : ℤ
  isBridge : Bool
deriving DecidableEq

/-- `IPA_NEIGH_CLIENT_IP_ADDR_ADD_EVENT` or `IPA_NEIGH_CLIENT_IP_ADDR_DEL_EVENT`. -/
structure ClientAddrEvent (μ : Type) where
  isAdd : Bool
  data : NeighData μ
deriving DecidableEq

structure Neighbor (μ : Type) where
  numNeighborClient : ℕ
  circularIndex : ℕ
  neighborClient : ℕ → NeighborClient μ

/-- What handling an event leaves behind. Later listeners see the interface of the event data as the
handler left it. -/
structure NeighHandled (μ : Type) where
  cache : Neighbor μ
  posts : List (ClientAddrEvent μ)
  ifIndex : ℤ

variable {μ : Type}

namespace Neighbor

def client (cache : Neighbor μ) (index : ℕ) : Option (NeighborClient μ) :=
  if index < ipaMaxNumNeighborClients then some (cache.neighborClient index) else none

def setClient (cache : Neighbor μ) (index : ℕ) (new : NeighborClient μ) : Option (Neighbor μ) :=
  if index < ipaMaxNumNeighborClients then
    some { cache with neighborClient := Function.update cache.neighborClient index new }
  else none

def searchFrom [DecidableEq μ] (cache : Neighbor μ) (mac : μ) : ℕ → ℕ → Option (Option ℕ)
  | 0, _ => some none
  | left + 1, i => do
      let client ← cache.client i
      if client.macAddr = mac then some (some i) else searchFrom cache mac left (i + 1)

def search [DecidableEq μ] (cache : Neighbor μ) (mac : μ) : Option (Option ℕ) :=
  cache.searchFrom mac cache.numNeighborClient 0

/-- `for (; i < num_neighbor_client_temp - 1; i++)`, with the number of rounds. -/
def closeUp : ℕ → ℕ → Neighbor μ → Option (Neighbor μ)
  | 0, _, cache => some cache
  | rounds + 1, i, cache => do
      let next ← cache.client (i + 1)
      let cache ← cache.setClient i next
      closeUp rounds (i + 1) cache

def cleanClient [Zero μ] (cache : Neighbor μ) (i : ℕ) : Option (Neighbor μ) := do
  let cleaned ← cache.setClient i ⟨0, 0, 0, 0⟩
  let closed ← closeUp (cache.numNeighborClient - 1 - i) i cleaned
  some { closed with numNeighborClient := cache.numNeighborClient - 1 }

/-- What is done with a client that was not found: it gets the next entry, or an old one is
recycled, without an address. -/
def insertClient (cache : Neighbor μ) (new : NeighborClient μ) : Option (Neighbor μ) :=
  if cache.numNeighborClient < ipaMaxNumNeighborClients then do
    let cached ← cache.setClient cache.numNeighborClient new
    some { cached with numNeighborClient := cache.numNeighborClient + 1 }
  else do
    let recycled ← cache.setClient cache.circularIndex { new with v4Addr := 0 }
    some { recycled with circularIndex := cache.circularIndex + 1 }

def repost (client : NeighborClient μ) (isAdd : Bool) : List (ClientAddrEvent μ) :=
  if client.v4Addr ≠ 0 then
    [⟨isAdd, ⟨client.ifaceIndex, .v4 client.v4Addr, client.macAddr⟩⟩]
  else []

/-- `client_mac_addr` after the loop over the attributes. -/
def clientMacAddr (stale : μ) (attribs : List (WlanAttrib μ)) : μ :=
  attribs.foldl (fun mac attrib =>
    match attrib with
    | .macAddr new => new
    | .other => mac) stale

section Callback

variable [DecidableEq μ] [Zero μ] (cache : Neighbor μ) (query : IfaceQuery)

def wlanClientAddEx (ifIndex : ℤ) (mac : μ) : Option (NeighHandled μ) := do
  match ← cache.search mac with
  | none => some ⟨cache, [], ifIndex⟩
  | some i =>
      if query.isBridge then some ⟨cache, [], ifIndex⟩
      else
        let client ← cache.client i
        let client := { client with ifaceIndex := ifIndex }
        let cache ← cache.setClient i client
        if query.ipaInterfaceIndex ≠ client.ipaIfNum then some ⟨cache, [], ifIndex⟩
        else some ⟨cache, repost client true, ifIndex⟩

def bridgeV4 (isNew : Bool) (addr : BitVec 32) (data : NeighData μ) :
    Option (NeighHandled μ) := do
  match ← cache.search data.macAddr with
  | none => some ⟨cache, [], data.ifIndex⟩
  | some i =>
      let client ← cache.client i
      let data := { data with ifIndex := client.ifaceIndex }
      let cache ← cache.setClient i { client with v4Addr := addr }
      let cache ← if isNew then some cache else cache.cleanClient i
      some ⟨cache, [⟨isNew, data⟩], data.ifIndex⟩

def ownV4 (isNew : Bool) (addr : BitVec 32) (data : NeighData μ) : Option (NeighHandled μ) := do
  let new : NeighborClient μ := ⟨data.macAddr, data.ifIndex, addr, query.ipaInterfaceIndex⟩
  let found ← cache.search data.macAddr
  let cache ←
    if isNew then
      match found with
      | some i => cache.setClient i new
      | none => cache.insertClient new
    else
      match found with
      | some i => cache.cleanClient i
      | none => some cache
  some ⟨cache, [⟨isNew, data⟩], data.ifIndex⟩

def bridgeV6 (isNew : Bool) (data : NeighData μ) : Option (NeighHandled μ) := do
  match ← cache.search data.macAddr with
  | none => some ⟨cache, [], data.ifIndex⟩
  | some i =>
      let client ← cache.client i
      let data := { data with ifIndex := client.ifaceIndex }
      some ⟨cache, [⟨isNew, data⟩], data.ifIndex⟩

def addressless (isNew : Bool) (data : NeighData μ) : Option (NeighHandled μ) := do
  match ← cache.search data.macAddr with
  | some i =>
      let client ← cache.client i
      let returned := { client with ifaceIndex := data.ifIndex }
      let cache ← if query.isBridge then some cache else cache.setClient i returned
      let cache ← if isNew then some cache else cache.cleanClient i
      some ⟨cache, if query.isBridge then [] else repost returned isNew, data.ifIndex⟩
  | none =>
      if isNew ∧ !query.isBridge then
        let cache ← cache.insertClient ⟨data.macAddr, data.ifIndex, 0, query.ipaInterfaceIndex⟩
        some ⟨cache, [], data.ifIndex⟩
      else some ⟨cache, [], data.ifIndex⟩

def neighEvent (isNew : Bool) (data : NeighData μ) : Option (NeighHandled μ) :=
  match data.addr with
  | .v4 addr =>
      if addr = 0 ∨ addr &&& ipv4AddrLinklocalMask = ipv4AddrLinklocal then
        some ⟨cache, [], data.ifIndex⟩
      else if query.isBridge then cache.bridgeV4 isNew addr data
      else cache.ownV4 query isNew addr data
  | .v6 addr =>
      if addr ≠ 0 then
        if query.isBridge then cache.bridgeV6 isNew data
        else some ⟨cache, [⟨isNew, data⟩], data.ifIndex⟩
      else cache.addressless query isNew data

def eventCallback : NeighEvent μ → Option (NeighHandled μ)
  | .wlanClientAddEx ifIndex attribs stale =>
      cache.wlanClientAddEx query ifIndex (clientMacAddr stale attribs)
  | .newNeigh data => cache.neighEvent query true data
  | .delNeigh data => cache.neighEvent query false data

end Callback

def initial [Zero μ] : Neighbor μ := ⟨0, 0, fun _ => ⟨0, 0, 0, 0⟩⟩

end Neighbor

end HtcPme.Ipacm
