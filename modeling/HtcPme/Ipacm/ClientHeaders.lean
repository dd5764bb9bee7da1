import HtcPme.Foundation.HandleTable
import HtcPme.Foundation.SlotShift
import HtcPme.Ipacm.EthClient
import HtcPme.Ipacm.Lan2lanSlots
import HtcPme.Ipacm.NatApp

/-!
# The headers of clients

An interface adds a header to the kernel for each IP type when a client arrives, and deletes them
when it leaves. Of the numbers in the name of a header only the first digit fits in the array that
it is printed to. The bytes of a header are left out.
-/

namespace HtcPme.Ipacm

/-- The clients of `IPACM_Wlan` and of `IPACM_Lan`. -/
inductive ClientKind where
  | wlan
  | eth
  deriving DecidableEq

namespace ClientKind

def partialHdrName : ClientKind → IpaIpType → String
  | wlan, .v4 => "IEEE802_3_v4"
  | wlan, .v6 => "IEEE802_3_v6"
  | eth, .v4 => "IPACM_ETH_v4"
  | eth, .v6 => "IPACM_ETH_v6"

end ClientKind

/-- `snprintf(index, sizeof(index), "%d", number)` for an array of two characters. -/
def indexOf (number : ℕ) : List Char := (Nat.toDigits 10 number).take 1

/-- `strlcat` for an array of some size: the string, and the length that it should have. -/
def strlcat (size : ℕ) (dst src : List Char) : List Char × ℕ :=
  ((dst ++ src).take (size - 1), dst.length + src.length)

def hdrName (limits : HdrLimits) (kind : ClientKind) (ip : IpaIpType)
    (ipaIfNum headerNameCount : ℕ) : Option (List Char) :=
  let index := (indexOf ipaIfNum).take (limits.ipaResourceNameMax - 1)
  let named := strlcat limits.ipaResourceNameMax index (kind.partialHdrName ip).toList
  if limits.ipaResourceNameMax < named.2 then none
  else
    let counted := strlcat limits.ipaResourceNameMax named.1 (indexOf headerNameCount)
    if limits.ipaResourceNameMax < counted.2 then none else some counted.1

structure ClientHdr where
  kind : ClientKind
  ip : IpaIpType
  ipaIfNum : ℕ
  headerNameCount : ℕ
  name : List Char

structure HdrClient (μ : Type*) where
  mac : μ
  hdrHdl : IpaIpType → ℕ
  headerSet : IpaIpType → Bool

/-- An interface with its clients, where `txProp` are the IP types of the tx properties. -/
structure HdrIface (μ : Type*) where
  kind : ClientKind
  ipaIfNum : ℕ
  txProp : Option (List IpaIpType)
  client : ℕ → HdrClient μ
  numClient : ℕ
  headerNameCount : ℕ

/-- What the requests of an arrival meet with: the length of the partial header of each IP type, if
it is there, whether a header is added, and where its handle comes from. -/
structure HdrEnv where
  allocates : Bool
  copyHeader : IpaIpType → Option ℕ
  addHeader : IpaIpType → Bool
  source : HandleSource

structure HdrDownEnv where
  deletesRoutes : Bool
  deletesHeader : IpaIpType → Bool

/-- `ipa_wlan_hdr_attrib_val`, of which only the MAC address is kept. -/
inductive WlanHdrAttrib (μ : Type*) where
  | macAddr (mac : μ)
  | other

namespace HdrIface

variable {μ : Type*} (iface : HdrIface μ) (limits : HdrLimits) (env : HdrEnv)
  (ip : IpaIpType) (kernel : HandleTable ClientHdr)

def tx : List IpaIpType := iface.txProp.getD []

def setClient (idx : ℕ) (set : HdrClient μ → HdrClient μ) : HdrIface μ :=
  { iface with client := Function.update iface.client idx (set (iface.client idx)) }

def nextHdr (name : List Char) : ClientHdr :=
  ⟨iface.kind, ip, iface.ipaIfNum, iface.headerNameCount, name⟩

/-- The loop for an IP type in `handle_wlan_client_init_ex` and `handle_eth_hdr_init`, where
`setMac` is what is done with the MAC address in it. -/
def addClientHdr (setMac : μ → μ) : Bool × HdrIface μ × HandleTable ClientHdr :=
  if ip ∈ iface.tx then
    match env.copyHeader ip with
    | none => (false, iface, kernel)
    | some hdrLen =>
        if limits.ipaHdrMaxSize < hdrLen then (false, iface, kernel)
        else
          let iface := iface.setClient iface.numClient fun client =>
            { client with mac := setMac client.mac }
          match hdrName limits iface.kind ip iface.ipaIfNum iface.headerNameCount with
          | none => (false, iface, kernel)
          | some name =>
              if env.addHeader ip then
                let hdl := env.source.next kernel.handles
                (true, iface.setClient iface.numClient fun client =>
                    { client with
                      hdrHdl := Function.update client.hdrHdl ip hdl
                      headerSet := Function.update client.headerSet ip true },
                  kernel.addOne env.source (iface.nextHdr ip name))
              else (false, iface, kernel)
  else (true, iface, kernel)

def addClientHdrs (setMac : μ → μ) : Bool × HdrIface μ × HandleTable ClientHdr :=
  let (isV4, iface, kernel) := iface.addClientHdr limits env .v4 kernel setMac
  if isV4 then
    let (isV6, iface, kernel) := iface.addClientHdr limits env .v6 kernel setMac
    if isV6 then
      (true, { iface with
        numClient := iface.numClient + 1
        headerNameCount := iface.headerNameCount + 1 }, kernel)
    else (false, iface, kernel)
  else (false, iface, kernel)

def macOf (attribs : List (WlanHdrAttrib μ)) (old : μ) : μ :=
  attribs.foldl (fun mac attrib =>
    match attrib with
    | .macAddr new => new
    | .other => mac) old

variable [DecidableEq μ]

def clientIndex (mac : μ) : Option ℕ :=
  (List.range iface.numClient).find? fun cnt => (iface.client cnt).mac = mac

def deleteClientHdr (down : HdrDownEnv) (idx : ℕ) :
    Bool × HdrIface μ × HandleTable ClientHdr :=
  if (iface.client idx).headerSet ip then
    if down.deletesHeader ip then
      (true, iface.setClient idx fun client =>
          { client with headerSet := Function.update client.headerSet ip false },
        kernel.delete ((iface.client idx).hdrHdl ip))
    else (false, iface, kernel)
  else (true, iface, kernel)

/-- `handle_wlan_client_down_evt` and `handle_eth_client_down_evt`: whether a client left, and what
is left. -/
def handleClientDownEvt (mac : μ) (down : HdrDownEnv) :
    Bool × HdrIface μ × HandleTable ClientHdr :=
  match iface.clientIndex mac with
  | none => (false, iface, kernel)
  | some idx =>
      if down.deletesRoutes then
        let (isV4, iface, kernel) := iface.deleteClientHdr .v4 kernel down idx
        if isV4 then
          let (isV6, iface, kernel) := iface.deleteClientHdr .v6 kernel down idx
          if isV6 then
            let iface := iface.setClient idx fun client =>
              { client with headerSet := fun _ => false }
            (true, { iface with
              client := SlotShift.closeUp (fun _ next => next) (iface.numClient - 1 - idx) idx
                iface.client
              numClient := iface.numClient - 1 }, kernel)
          else (false, iface, kernel)
        else (false, iface, kernel)
      else (false, iface, kernel)

end HdrIface

/-- The interfaces, `total_num_wifi_clients`, and the headers of the kernel. -/
structure HdrSystem (ι μ : Type*) where
  iface : ι → HdrIface μ
  totalNumWifiClients : ℤ
  kernel : HandleTable ClientHdr

inductive HdrEvent (ι μ : Type*) where
  | wlanClientAdd (idx : ι) (attribs : List (WlanHdrAttrib μ)) (env : HdrEnv)
  | ethClientAdd (idx : ι) (mac : μ) (env : HdrEnv)
  | wlanClientDel (idx : ι) (mac : μ) (down : HdrDownEnv)
  | ethClientDel (idx : ι) (mac : μ) (down : HdrDownEnv)

namespace HdrSystem

variable {ι μ : Type*} [DecidableEq ι] (system : HdrSystem ι μ) (limits : HdrLimits)
  (idx : ι)

def put (after : HdrIface μ × HandleTable ClientHdr) : HdrSystem ι μ :=
  { system with
    iface := Function.update system.iface idx after.1
    kernel := after.2 }

def handleWlanClientInitEx (attribs : List (WlanHdrAttrib μ)) (env : HdrEnv) : HdrSystem ι μ :=
  if ipaMaxNumWifiClients ≤ (system.iface idx).numClient ∨
      (ipaMaxNumWifiClients : ℤ) ≤ system.totalNumWifiClients then system
  else
    match (system.iface idx).txProp with
    | none => system
    | some _ =>
        if env.allocates then
          let added := (system.iface idx).addClientHdrs limits env system.kernel
            (HdrIface.macOf attribs)
          { system.put idx added.2 with
            totalNumWifiClients :=
              if added.1 then system.totalNumWifiClients + 1 else system.totalNumWifiClients }
        else system

variable [DecidableEq μ]

def handleEthHdrInit (mac : μ) (env : HdrEnv) : HdrSystem ι μ :=
  match (system.iface idx).clientIndex mac with
  | some _ => system
  | none =>
      if ipaMaxNumEthClients ≤ (system.iface idx).numClient then system
      else
        let iface := (system.iface idx).setClient (system.iface idx).numClient fun client =>
          { client with mac := mac }
        match iface.txProp with
        | none => system.put idx (iface, system.kernel)
        | some _ =>
            if env.allocates then
              system.put idx (iface.addClientHdrs limits env system.kernel id).2
            else system.put idx (iface, system.kernel)

def handleWlanClientDownEvt (mac : μ) (down : HdrDownEnv) : HdrSystem ι μ :=
  let left := (system.iface idx).handleClientDownEvt system.kernel mac down
  { system.put idx left.2 with
    totalNumWifiClients :=
      if left.1 then system.totalNumWifiClients - 1 else system.totalNumWifiClients }

def handleEthClientDownEvt (mac : μ) (down : HdrDownEnv) : HdrSystem ι μ :=
  system.put idx ((system.iface idx).handleClientDownEvt system.kernel mac down).2

def handle : HdrEvent ι μ → HdrSystem ι μ
  | .wlanClientAdd idx attribs env => system.handleWlanClientInitEx limits idx attribs env
  | .ethClientAdd idx mac env => system.handleEthHdrInit limits idx mac env
  | .wlanClientDel idx mac down => system.handleWlanClientDownEvt idx mac down
  | .ethClientDel idx mac down => system.handleEthClientDownEvt idx mac down

end HdrSystem

end HtcPme.Ipacm
