import HtcPme.Foundation.LengthWalk
import HtcPme.Ipacm.WlanClient
import Mathlib.Data.Fintype.Pi

/-!
# Decoding netlink messages

`ipa_nl_decode_nlmsg` and the decoders that it calls. A read is one of a memory that says what may
be read; a model function returns `none` where more is read, or a loop leaves the buffer behind. A
field of an event that is not written is `none`.
-/

namespace HtcPme.Ipacm

abbrev ipaNlMsgMaxLen : ℕ := 2048

def nlmsghdr : ItemFormat := ⟨16, 4, 4⟩

def rtattr : ItemFormat := ⟨4, 2, 2⟩

inductive RtmType where
  | newLink
  | delLink
  | newAddr
  | newRoute
  | delRoute
  | newNeigh
  | delNeigh
deriving DecidableEq

def rtmType : ℕ → Option RtmType
  | 16 => some .newLink
  | 17 => some .delLink
  | 20 => some .newAddr
  | 24 => some .newRoute
  | 25 => some .delRoute
  | 28 => some .newNeigh
  | 29 => some .delNeigh
  | _ => none

abbrev afInet : ℕ := 2
abbrev afBridge : ℕ := 7
abbrev afInet6 : ℕ := 10

abbrev iffUp : BitVec 32 := 0x1
abbrev iffRunning : BitVec 32 := 0x40
abbrev iffLowerUp : BitVec 32 := 0x10000

abbrev nudPermanent : ℕ := 0x80

abbrev rtnUnicast : ℕ := 1
abbrev rtprotKernel : ℕ := 2
abbrev rtprotBoot : ℕ := 3
abbrev rtprotRa : ℕ := 9
abbrev rtScopeUniverse : ℕ := 0
abbrev rtTableMain : ℕ := 254

abbrev ifaAddress : ℕ := 1
abbrev ndaDst : ℕ := 1
abbrev ndaLladdr : ℕ := 2
abbrev rtaDst : ℕ := 1
abbrev rtaSrc : ℕ := 2
abbrev rtaIif : ℕ := 3
abbrev rtaOif : ℕ := 4
abbrev rtaGateway : ℕ := 5
abbrev rtaPriority : ℕ := 6

abbrev ipaRtaParamDst : BitVec 32 := 0x0001
abbrev ipaRtaParamSrc : BitVec 32 := 0x0002
abbrev ipaRtaParamGateway : BitVec 32 := 0x0004
abbrev ipaRtaParamIif : BitVec 32 := 0x0008
abbrev ipaRtaParamOif : BitVec 32 := 0x0010
abbrev ipaRtaParamPriority : BitVec 32 := 0x0080

/-- `ntohl`, on a host that stores the lowest byte first. -/
def ntohl (word : BitVec 32) : BitVec 32 :=
  word <<< 24 ||| (word &&& 0xff00) <<< 8 ||| (word >>> 8) &&& 0xff00 ||| word >>> 24

def field (raw : List UInt8) (offset size : ℕ) : ℕ :=
  littleEndian ((raw.drop offset).take size)

def field32 (raw : List UInt8) (offset : ℕ) : BitVec 32 := BitVec.ofNat 32 (field raw offset 4)

structure SockaddrStorage where
  ssFamily : ℕ
  data : List UInt8
deriving DecidableEq

namespace SockaddrStorage

abbrev dataSize : ℕ := 126

def cleared : SockaddrStorage := ⟨0, List.replicate dataSize 0⟩

def word (addr : SockaddrStorage) (index : ℕ) : BitVec 32 := field32 addr.data (4 * index)

end SockaddrStorage

structure Ifinfomsg where
  ifiFamily : ℕ
  ifiIndex : BitVec 32
  ifiFlags : BitVec 32
  ifiChange : BitVec 32
deriving DecidableEq

def Ifinfomsg.ofBytes (raw : List UInt8) : Ifinfomsg :=
  ⟨field raw 0 1, field32 raw 4, field32 raw 8, field32 raw 12⟩

structure Ifaddrmsg where
  ifaFamily : ℕ
  ifaIndex : BitVec 32
deriving DecidableEq

def Ifaddrmsg.ofBytes (raw : List UInt8) : Ifaddrmsg := ⟨field raw 0 1, field32 raw 4⟩

structure Ndmsg where
  ndmFamily : ℕ
  ndmIfindex : BitVec 32
  ndmState : ℕ
deriving DecidableEq

def Ndmsg.ofBytes (raw : List UInt8) : Ndmsg := ⟨field raw 0 1, field32 raw 4, field raw 8 2⟩

structure Rtmsg where
  rtmFamily : ℕ
  rtmDstLen : ℕ
  rtmTable : ℕ
  rtmProtocol : ℕ
  rtmScope : ℕ
  rtmType : ℕ
deriving DecidableEq

def Rtmsg.ofBytes (raw : List UInt8) : Rtmsg :=
  ⟨field raw 0 1, field raw 1 1, field raw 4 1, field raw 5 1, field raw 6 1, field raw 7 1⟩

structure AddrInfo where
  metainfo : Ifaddrmsg
  prefixAddr : SockaddrStorage
deriving DecidableEq

structure NeighInfo where
  metainfo : Ndmsg
  localAddr : SockaddrStorage
  lladdrHwaddr : List UInt8
deriving DecidableEq

structure RouteInfo where
  metainfo : Rtmsg
  paramMask : BitVec 32
  dstAddr : SockaddrStorage
  srcAddr : SockaddrStorage
  gatewayAddr : SockaddrStorage
  iifIndex : BitVec 32
  oifIndex : BitVec 32
  priority : BitVec 32
deriving DecidableEq

def RouteInfo.Has (route : RouteInfo) (param : BitVec 32) : Prop := route.paramMask &&& param ≠ 0

instance RouteInfo.decidableHas (route : RouteInfo) (param : BitVec 32) :
    Decidable (route.Has param) :=
  inferInstanceAs (Decidable (_ ≠ _))

section Decoders

variable (mem : Memory)

def decodeRtmLink : Option Ifinfomsg := do
  let raw ← mem.bytes 16 16
  some (.ofBytes raw)

/-- `IPACM_NL_COPY_ADDR`: as many bytes are copied as the destination holds. -/
def nlCopyAddr (family data : ℕ) : Option SockaddrStorage := do
  let raw ← mem.bytes data SockaddrStorage.dataSize
  some ⟨family, raw⟩

def copy32 (data : ℕ) : Option (BitVec 32) := do
  let raw ← mem.bytes data 4
  some (field32 raw 0)

/-- The loop over the attributes, from the address `rtah` on. Only the message header is taken off
the count. -/
def decodeAttrs {σ : Type} (copy : ℕ → ℕ → σ → Option σ) (rtah buflen : ℕ) (info : σ) : Option σ :=
  rtattr.walk mem
    (fun attr _ info => (copy attr.type (attr.pos + 4) info).map fun info => (info, true))
    buflen rtah (sub32 buflen 16) info

def copyAddrAttr (type data : ℕ) (info : AddrInfo) : Option AddrInfo :=
  if type = ifaAddress then do
    let addr ← nlCopyAddr mem info.metainfo.ifaFamily data
    some { info with prefixAddr := addr }
  else some info

def decodeRtmAddr (buflen : ℕ) (info : AddrInfo) : Option AddrInfo := do
  let raw ← mem.bytes 16 8
  decodeAttrs mem (copyAddrAttr mem) 24 buflen { info with metainfo := .ofBytes raw }

def copyNeighAttr (type data : ℕ) (info : NeighInfo) : Option NeighInfo :=
  if type = ndaDst then do
    let addr ← nlCopyAddr mem info.metainfo.ndmFamily data
    some { info with localAddr := addr }
  else if type = ndaLladdr then do
    let saData ← mem.bytes data 14
    some { info with lladdrHwaddr := saData }
  else some info

def decodeRtmNeigh (buflen : ℕ) (info : NeighInfo) : Option NeighInfo := do
  let raw ← mem.bytes 16 12
  decodeAttrs mem (copyNeighAttr mem) 28 buflen { info with metainfo := .ofBytes raw }

def copyRouteAttr (type data : ℕ) (info : RouteInfo) : Option RouteInfo :=
  if type = rtaDst then do
    let addr ← nlCopyAddr mem info.metainfo.rtmFamily data
    some { info with dstAddr := addr, paramMask := info.paramMask ||| ipaRtaParamDst }
  else if type = rtaSrc then do
    let addr ← nlCopyAddr mem info.metainfo.rtmFamily data
    some { info with srcAddr := addr, paramMask := info.paramMask ||| ipaRtaParamSrc }
  else if type = rtaGateway then do
    let addr ← nlCopyAddr mem info.metainfo.rtmFamily data
    some { info with gatewayAddr := addr, paramMask := info.paramMask ||| ipaRtaParamGateway }
  else if type = rtaIif then do
    let index ← copy32 mem data
    some { info with iifIndex := index, paramMask := info.paramMask ||| ipaRtaParamIif }
  else if type = rtaOif then do
    let index ← copy32 mem data
    some { info with oifIndex := index, paramMask := info.paramMask ||| ipaRtaParamOif }
  else if type = rtaPriority then do
    let priority ← copy32 mem data
    some { info with priority := priority, paramMask := info.paramMask ||| ipaRtaParamPriority }
  else some info

def decodeRtmRoute (buflen : ℕ) (info : RouteInfo) : Option RouteInfo := do
  let raw ← mem.bytes 16 12
  decodeAttrs mem (copyRouteAttr mem) 28 buflen
    { info with metainfo := .ofBytes raw, paramMask := 0 }

end Decoders

structure EventDataAddr where
  iptype : IpaIpType
  ifIndex : BitVec 32
  ipv4AddrGw : Option (BitVec 32)
  ipv4Addr : Option (BitVec 32)
  ipv4AddrMask : Option (BitVec 32)
  ipv6Addr : Fin 4 → Option (BitVec 32)
  ipv6AddrMask : Fin 4 → Option (BitVec 32)
  ipv6AddrGw : Fin 4 → Option (BitVec 32)
deriving DecidableEq

def EventDataAddr.fresh (iptype : IpaIpType) (ifIndex : BitVec 32) : EventDataAddr :=
  ⟨iptype, ifIndex, none, none, none, fun _ => none, fun _ => none, fun _ => none⟩

structure EventDataAll where
  iptype : IpaIpType
  ifIndex : BitVec 32
  ipv4Addr : BitVec 32
  ipv6Addr : Fin 4 → BitVec 32
  macAddr : List UInt8
deriving DecidableEq

inductive NlEvent where
  | linkUp (ifIndex : BitVec 32)
  | linkDown (ifIndex : BitVec 32)
  | usbLinkUp (ifIndex : BitVec 32)
  | addrAdd (data : EventDataAddr)
  | routeAdd (data : EventDataAddr)
  | routeDel (data : EventDataAddr)
  | newNeigh (data : EventDataAll)
  | delNeigh (data : EventDataAll)
  | bridgeLinkUp (data : EventDataAll)
deriving DecidableEq

/-- Which of the calls of `ipa_get_if_name` and of the allocations succeed while one message is
handled, by their place in the source. -/
structure NlCalls where
  named : ℕ → Bool
  allocated : ℕ → Bool

def NlCalls.succeed : NlCalls := ⟨fun _ => true, fun _ => true⟩

/-- What handling a decoded message leaves: the events, `if_ipipv4_addr_mask`, and whether
`ipa_nl_decode_nlmsg` goes on to the next message. -/
structure NlHandled where
  posts : List NlEvent
  ipv4AddrMask : BitVec 32
  goesOn : Bool

namespace NlHandled

def stop (mask : BitVec 32) : NlHandled := ⟨[], mask, false⟩

def pass (mask : BitVec 32) : NlHandled := ⟨[], mask, true⟩

def post (event : NlEvent) (mask : BitVec 32) : NlHandled := ⟨[event], mask, true⟩

def andThen (first : NlHandled) (second : BitVec 32 → NlHandled) : NlHandled :=
  if first.goesOn then
    { second first.ipv4AddrMask with
      posts := first.posts ++ (second first.ipv4AddrMask).posts }
  else first

variable (event : NlEvent) (mask : BitVec 32)

@[simp] theorem stop_goesOn : (stop mask).goesOn = false := rfl

@[simp] theorem pass_goesOn : (pass mask).goesOn = true := rfl

@[simp] theorem post_goesOn : (post event mask).goesOn = true := rfl

@[simp] theorem stop_posts : (stop mask).posts = [] := rfl

@[simp] theorem pass_posts : (pass mask).posts = [] := rfl

@[simp] theorem post_posts : (post event mask).posts = [event] := rfl

@[simp] theorem pass_mask : (pass mask).ipv4AddrMask = mask := rfl

@[simp] theorem post_mask : (post event mask).ipv4AddrMask = mask := rfl

@[simp]
theorem andThen_goesOn (first : NlHandled) (second : BitVec 32 → NlHandled) :
    (first.andThen second).goesOn = (first.goesOn && (second first.ipv4AddrMask).goesOn) := by
  unfold NlHandled.andThen
  split
  · rename_i goes
    rw [goes, Bool.true_and]
  · rename_i stops
    rw [Bool.not_eq_true] at stops
    rw [stops, Bool.false_and]

end NlHandled

section Handlers

variable (calls : NlCalls) (mask : BitVec 32)

/-- `RTM_NEWLINK`: first whether the interface was brought up or down, then whether its link is up.
-/
def handleNewLink (link : Ifinfomsg) : NlHandled :=
  if link.ifiFamily = afBridge then .stop mask
  else
    let changed : NlHandled :=
      if iffUp &&& link.ifiChange ≠ 0 then
        if calls.named 0 && calls.allocated 0 then
          if link.ifiFlags &&& iffUp ≠ 0 then .post (.linkUp link.ifiIndex) mask
          else .post (.linkDown link.ifiIndex) mask
        else .stop mask
      else .pass mask
    changed.andThen fun mask =>
      if link.ifiFlags &&& iffRunning ≠ 0 ∧ link.ifiFlags &&& iffLowerUp ≠ 0 then
        if calls.allocated 1 && calls.named 1 then .post (.usbLinkUp link.ifiIndex) mask
        else .stop mask
      else if link.ifiFlags &&& iffLowerUp = 0 then
        if calls.allocated 2 && calls.named 2 then .post (.linkDown link.ifiIndex) mask
        else .stop mask
      else .pass mask

def handleDelLink (link : Ifinfomsg) : NlHandled :=
  if link.ifiFamily = afBridge then .stop mask
  else if calls.named 0 && calls.allocated 0 then .post (.linkDown link.ifiIndex) mask
  else .stop mask

def SockaddrStorage.ipv6Words (addr : SockaddrStorage) (index : Fin 4) : BitVec 32 :=
  ntohl (addr.word index)

/-- `RTM_NEWADDR`. A failed look-up of the name is only logged. -/
def handleNewAddr (info : AddrInfo) : NlHandled :=
  if calls.allocated 0 then
    let data :=
      if info.prefixAddr.ssFamily = afInet6 then
        { EventDataAddr.fresh .v6 info.metainfo.ifaIndex with
          ipv6Addr := fun i => some (info.prefixAddr.ipv6Words i) }
      else
        { EventDataAddr.fresh .v4 info.metainfo.ifaIndex with
          ipv4Addr := some (ntohl (info.prefixAddr.word 0)) }
    .post (.addrAdd data) mask
  else .stop mask

/-- `mask_v6`, which leaves the mask alone for other indices. -/
def maskV6 : ℕ → Option (BitVec 32)
  | 0 => some 0x00000000
  | 4 => some 0xf0000000
  | 8 => some 0xff000000
  | 12 => some 0xfff00000
  | 16 => some 0xffff0000
  | 20 => some 0xfffff000
  | 24 => some 0xffffff00
  | 28 => some 0xfffffff0
  | 32 => some 0xffffffff
  | _ => none

def writeMaskV6 (index : ℕ) (words : Fin 4 → Option (BitVec 32)) (target : Fin 4) :
    Fin 4 → Option (BitVec 32) :=
  match maskV6 index with
  | some word => Function.update words target (some word)
  | none => words

/-- The loop over the words of a mask. `target` is the word that is written once fewer than 32 bits
are left. -/
def v6MaskLoop (target : Fin 4 → Fin 4) (dstLen : ℕ) : Fin 4 → Option (BitVec 32) :=
  let round := fun (words, maskValue) maskIndex =>
    if 32 ≤ maskValue then (writeMaskV6 32 words maskIndex, maskValue - 32)
    else (writeMaskV6 maskValue words (target maskIndex), 0)
  (([0, 1, 2, 3].foldl round (fun _ => none, dstLen)).1 ·)

def newRouteMask (dstLen : ℕ) (i : Fin 4) : Option (BitVec 32) :=
  (v6MaskLoop id dstLen i).map ntohl

def delRouteMask (dstLen : ℕ) (i : Fin 4) : Option (BitVec 32) :=
  (v6MaskLoop (fun _ => 0) dstLen i).map ntohl

def Rtmsg.IsUniroute (metainfo : Rtmsg) : Prop :=
  metainfo.rtmType = rtnUnicast ∧
    (metainfo.rtmProtocol = rtprotBoot ∨ metainfo.rtmProtocol = rtprotRa) ∧
    metainfo.rtmScope = rtScopeUniverse ∧ metainfo.rtmTable = rtTableMain

instance (metainfo : Rtmsg) : Decidable metainfo.IsUniroute :=
  inferInstanceAs (Decidable (_ ∧ _))

def Rtmsg.IsV6Route (metainfo : Rtmsg) : Prop :=
  afInet6 = metainfo.rtmFamily ∧ metainfo.rtmType = rtnUnicast ∧
    metainfo.rtmProtocol = rtprotKernel ∧ metainfo.rtmTable = rtTableMain

instance (metainfo : Rtmsg) : Decidable metainfo.IsV6Route :=
  inferInstanceAs (Decidable (_ ∧ _))

variable (route : RouteInfo)

def v6DefaultData : EventDataAddr :=
  { EventDataAddr.fresh .v6 route.oifIndex with
    ipv6Addr := fun i => some (route.dstAddr.ipv6Words i)
    ipv6AddrMask := fun i => some (route.dstAddr.ipv6Words i)
    ipv6AddrGw := fun i => some (route.gatewayAddr.ipv6Words i) }

/-- The first part of `RTM_NEWROUTE`. With a destination the mask is the one that is left from
before. -/
def newUniroute : NlHandled :=
  if route.metainfo.IsUniroute then
    if route.Has ipaRtaParamDst then
      if calls.named 0 && calls.allocated 0 then
        .post (.routeAdd
          { EventDataAddr.fresh .v4 route.oifIndex with
            ipv4Addr := some (ntohl (route.dstAddr.word 0))
            ipv4AddrMask := some (ntohl mask) }) mask
      else .stop mask
    else if calls.named 1 && calls.allocated 1 then
      if afInet6 = route.metainfo.rtmFamily then .post (.routeAdd (v6DefaultData route)) mask
      else
        .post (.routeAdd
          { EventDataAddr.fresh .v4 route.oifIndex with
            ipv4Addr := some (ntohl (route.dstAddr.word 0))
            ipv4AddrGw := some (ntohl (route.gatewayAddr.word 0))
            ipv4AddrMask := some (ntohl (route.dstAddr.word 0)) })
          (route.dstAddr.word 0)
    else .stop mask
  else .pass mask

def newV6Route : NlHandled :=
  if route.metainfo.IsV6Route then
    if calls.named 2 then
      let toDst : NlHandled :=
        if route.Has ipaRtaParamDst then
          if calls.allocated 2 then
            .post (.routeAdd
              { EventDataAddr.fresh .v6 route.oifIndex with
                ipv6Addr := fun i => some (route.dstAddr.ipv6Words i)
                ipv6AddrMask := newRouteMask route.metainfo.rtmDstLen }) mask
          else .stop mask
        else .pass mask
      toDst.andThen fun mask =>
        if route.Has ipaRtaParamGateway then
          if calls.allocated 3 then
            .post (.routeAdd
              { EventDataAddr.fresh .v6 route.oifIndex with
                ipv6Addr := fun i => some (route.dstAddr.ipv6Words i)
                ipv6AddrMask := fun i => some (route.dstAddr.ipv6Words i) }) mask
          else .stop mask
        else .pass mask
    else .stop mask
  else .pass mask

def handleNewRoute : NlHandled :=
  (newUniroute calls mask route).andThen fun mask => newV6Route calls mask route

def delUniroute : NlHandled :=
  if route.metainfo.IsUniroute then
    if route.Has ipaRtaParamDst then
      if calls.named 0 && calls.allocated 0 then
        let mask := ntohl (-1)
        .post (.routeDel
          { EventDataAddr.fresh .v4 route.oifIndex with
            ipv4Addr := some (ntohl (route.dstAddr.word 0))
            ipv4AddrMask := some (ntohl mask) }) mask
      else .stop mask
    else if calls.named 1 && calls.allocated 1 then
      if afInet6 = route.metainfo.rtmFamily then .post (.routeDel (v6DefaultData route)) mask
      else
        .post (.routeDel
          { EventDataAddr.fresh .v4 route.oifIndex with
            ipv4Addr := some (ntohl (route.dstAddr.word 0))
            ipv4AddrMask := some (ntohl (route.dstAddr.word 0)) }) mask
    else .stop mask
  else .pass mask

def delV6Route : NlHandled :=
  if route.metainfo.IsV6Route then
    if calls.named 2 then
      if route.Has ipaRtaParamDst then
        if calls.allocated 2 then
          .post (.routeDel
            { EventDataAddr.fresh .v6 route.oifIndex with
              ipv6Addr := fun i => some (route.dstAddr.ipv6Words i)
              ipv6AddrMask := delRouteMask route.metainfo.rtmDstLen }) mask
        else .stop mask
      else .pass mask
    else .stop mask
  else .pass mask

def handleDelRoute : NlHandled :=
  (delUniroute calls mask route).andThen fun mask => delV6Route calls mask route

variable (neigh : NeighInfo)

def neighData : EventDataAll :=
  let data : EventDataAll :=
    ⟨.v6, neigh.metainfo.ndmIfindex, 0, fun _ => 0, neigh.lladdrHwaddr.take 6⟩
  if neigh.localAddr.ssFamily = afInet6 then { data with ipv6Addr := neigh.localAddr.ipv6Words }
  else if neigh.localAddr.ssFamily = afInet then
    { data with iptype := .v4, ipv4Addr := ntohl (neigh.localAddr.word 0) }
  else data

def handleNewNeigh : NlHandled :=
  if calls.named 0 && calls.allocated 0 then
    if neigh.metainfo.ndmFamily = afBridge ∧ neigh.metainfo.ndmState = nudPermanent then
      .post (.bridgeLinkUp (neighData neigh)) mask
    else .post (.newNeigh (neighData neigh)) mask
  else .stop mask

def handleDelNeigh : NlHandled :=
  if calls.named 0 && calls.allocated 0 then .post (.delNeigh (neighData neigh)) mask
  else .stop mask

end Handlers

/-- `ipa_nl_msg_t`, the variable of `ipa_nl_decode_nlmsg` that outlives a message, and the events.
-/
structure NlState where
  addr : AddrInfo
  neigh : NeighInfo
  route : RouteInfo
  ipv4AddrMask : BitVec 32
  posts : List NlEvent

namespace NlState

def cleared : NlState where
  addr := ⟨⟨0, 0⟩, .cleared⟩
  neigh := ⟨⟨0, 0, 0⟩, .cleared, List.replicate 14 0⟩
  route := ⟨⟨0, 0, 0, 0, 0, 0⟩, 0, .cleared, .cleared, .cleared, 0, 0, 0⟩
  ipv4AddrMask := 0
  posts := []

def handled (state : NlState) (done : NlHandled) : NlState × Bool :=
  ({ state with ipv4AddrMask := done.ipv4AddrMask, posts := state.posts ++ done.posts },
    done.goesOn)

end NlState

structure NlView where
  headers : Memory
  message : Item → Memory

def NlView.total (contents : ℕ → UInt8) : NlView :=
  ⟨.total contents, fun _ => .total contents⟩

def NlView.confined (contents : ℕ → UInt8) (buflen : ℕ) : NlView where
  headers := (Memory.total contents).within 0 buflen
  message item := ((Memory.total contents).within 0 buflen).within item.pos (item.pos + item.length)

def decodeMessage (env : Item → NlCalls) (view : NlView) (item : Item) (buflen : ℕ)
    (state : NlState) : Option (NlState × Bool) :=
  let mem := view.message item
  let calls := env item
  match rtmType item.type with
  | some .newLink => do
      let link ← decodeRtmLink mem
      some (state.handled (handleNewLink calls state.ipv4AddrMask link))
  | some .delLink => do
      let link ← decodeRtmLink mem
      some (state.handled (handleDelLink calls state.ipv4AddrMask link))
  | some .newAddr => do
      let addr ← decodeRtmAddr mem buflen state.addr
      some ({ state with addr := addr }.handled (handleNewAddr calls state.ipv4AddrMask addr))
  | some .newRoute => do
      let route ← decodeRtmRoute mem buflen state.route
      some ({ state with route := route }.handled
        (handleNewRoute calls state.ipv4AddrMask route))
  | some .delRoute => do
      let route ← decodeRtmRoute mem buflen state.route
      some ({ state with route := route }.handled
        (handleDelRoute calls state.ipv4AddrMask route))
  | some .newNeigh => do
      let neigh ← decodeRtmNeigh mem buflen state.neigh
      some ({ state with neigh := neigh }.handled
        (handleNewNeigh calls state.ipv4AddrMask neigh))
  | some .delNeigh => do
      let neigh ← decodeRtmNeigh mem buflen state.neigh
      some ({ state with neigh := neigh }.handled
        (handleDelNeigh calls state.ipv4AddrMask neigh))
  | none => some (state, true)

/-- `ipa_nl_decode_nlmsg`, called with a cleared `ipa_nl_msg_t`, and what it posts. -/
def decodeNlmsg (env : Item → NlCalls) (view : NlView) (buflen : ℕ) : Option (List NlEvent) :=
  (nlmsghdr.walk view.headers (decodeMessage env view) buflen 0 buflen .cleared).map (·.posts)

end HtcPme.Ipacm
