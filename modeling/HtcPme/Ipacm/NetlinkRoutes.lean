import HtcPme.Ipacm.NetlinkBatch
import Mathlib.Tactic.FinCases

/-!
# Added and deleted routes

What the event of a deleted route says is compared with what the event of the added route said.
-/

namespace HtcPme.Ipacm

open NlHandled

def networkMask (prefixLen word : ℕ) : BitVec 32 :=
  BitVec.allOnes 32 <<< (32 - min 32 (prefixLen - 32 * word))

def Carried (added removed : Option (BitVec 32)) : Prop :=
  ∃ word, added = some word ∧ removed = some word

structure SameRoute (route : RouteInfo) (added removed : EventDataAddr) : Prop where
  ifIndex : added.ifIndex = removed.ifIndex
  iptype : added.iptype = removed.iptype
  v4 : added.iptype = .v4 →
    Carried added.ipv4Addr removed.ipv4Addr ∧ Carried added.ipv4AddrMask removed.ipv4AddrMask
  v6 : added.iptype = .v6 → ∀ i, Carried (added.ipv6Addr i) (removed.ipv6Addr i) ∧
    Carried (added.ipv6AddrMask i) (removed.ipv6AddrMask i)
  gateway : ¬ route.Has ipaRtaParamDst →
    (added.iptype = .v4 → Carried added.ipv4AddrGw removed.ipv4AddrGw) ∧
      (added.iptype = .v6 → ∀ i, Carried (added.ipv6AddrGw i) (removed.ipv6AddrGw i))
  isMask : route.Has ipaRtaParamDst →
    (added.iptype = .v4 → added.ipv4AddrMask = some (networkMask route.metainfo.rtmDstLen 0)) ∧
      (added.iptype = .v6 →
        ∀ i, added.ipv6AddrMask i = some (networkMask route.metainfo.rtmDstLen i))

def RoutesAgree (route : RouteInfo) (added removed : List NlEvent) : Prop :=
  List.Forall₂ (fun add del => ∃ addData delData, add = .routeAdd addData ∧
    del = .routeDel delData ∧ SameRoute route addData delData) added removed

/-- A route of the first kind is a default route over IPv6, one of the second kind has no gateway
and, if it has a destination, a destination that is one address. -/
def RouteInfo.DecodedAlike (route : RouteInfo) : Prop :=
  (route.metainfo.IsUniroute →
    ¬ route.Has ipaRtaParamDst ∧ afInet6 = route.metainfo.rtmFamily) ∧
  (route.metainfo.IsV6Route →
    ¬ route.Has ipaRtaParamGateway ∧
      (route.Has ipaRtaParamDst → 128 ≤ route.metainfo.rtmDstLen))

section Masks

variable {dstLen : ℕ}

theorem v6MaskLoop_full (target : Fin 4 → Fin 4) (full : 128 ≤ dstLen) (i : Fin 4) :
    v6MaskLoop target dstLen i = some 0xffffffff := by
  have first : 32 ≤ dstLen := by omega
  have second : 32 ≤ dstLen - 32 := by omega
  have third : 32 ≤ dstLen - 32 - 32 := by omega
  have fourth : 32 ≤ dstLen - 32 - 32 - 32 := by omega
  simp only [v6MaskLoop, List.foldl_cons, List.foldl_nil, if_pos first, if_pos second, if_pos third,
    if_pos fourth]
  fin_cases i
  · rfl
  · rfl
  · rfl
  · rfl

theorem networkMask_full (full : 128 ≤ dstLen) (i : Fin 4) :
    networkMask dstLen i = 0xffffffff := by
  have noShift : 32 - min 32 (dstLen - 32 * i) = 0 := by omega
  rw [networkMask, noShift]
  rfl

theorem delRouteMask_last : ∀ dstLen < 128, delRouteMask dstLen 3 = none := by
  decide +kernel

theorem newRouteMask_full (full : 128 ≤ dstLen) (i : Fin 4) :
    newRouteMask dstLen i = some (networkMask dstLen i) := by
  rw [newRouteMask, v6MaskLoop_full _ full, networkMask_full full]
  rfl

theorem delRouteMask_full (full : 128 ≤ dstLen) (i : Fin 4) :
    delRouteMask dstLen i = some (networkMask dstLen i) := by
  rw [delRouteMask, v6MaskLoop_full _ full, networkMask_full full]
  rfl

end Masks

section Agreement

variable {route : RouteInfo}

theorem Rtmsg.IsUniroute.not_isV6Route {metainfo : Rtmsg} (isUniroute : metainfo.IsUniroute) :
    ¬ metainfo.IsV6Route := by
  rintro ⟨-, -, isKernel, -⟩
  rcases isUniroute with ⟨-, isBoot | isRa, -⟩
  · exact absurd (isBoot.symm.trans isKernel) (by decide)
  · exact absurd (isRa.symm.trans isKernel) (by decide)

theorem routesAgree_singleton {added removed : EventDataAddr} :
    RoutesAgree route [.routeAdd added] [.routeDel removed] ↔ SameRoute route added removed := by
  constructor
  · rintro (_ | ⟨⟨addData, delData, isAdd, isDel, same⟩, -⟩)
    cases isAdd
    cases isDel
    exact same
  · exact fun same => .cons ⟨added, removed, rfl, rfl, same⟩ .nil

theorem sameRoute_v6Default (noDst : ¬ route.Has ipaRtaParamDst) :
    SameRoute route (v6DefaultData route) (v6DefaultData route) where
  ifIndex := rfl
  iptype := rfl
  v4 isV4 := by cases isV4
  v6 _ _ := ⟨⟨_, rfl, rfl⟩, ⟨_, rfl, rfl⟩⟩
  gateway _ := ⟨fun isV4 => (by cases isV4), fun _ _ => ⟨_, rfl, rfl⟩⟩
  isMask hasDst := absurd hasDst noDst

theorem uniroute_agree_iff (isUniroute : route.metainfo.IsUniroute) :
    RoutesAgree route (handleNewRoute .succeed 0 route).posts
        (handleDelRoute .succeed 0 route).posts ↔
      ¬ route.Has ipaRtaParamDst ∧ afInet6 = route.metainfo.rtmFamily := by
  have notV6 := isUniroute.not_isV6Route
  simp only [handleNewRoute, handleDelRoute, newUniroute, delUniroute, newV6Route, delV6Route,
    andThen, NlCalls.succeed, isUniroute, notV6, if_true, if_false, Bool.and_self]
  by_cases hasDst : route.Has ipaRtaParamDst
  · simp only [hasDst, if_true, post_goesOn, post_posts, pass_posts,
      List.append_nil, routesAgree_singleton, not_true_eq_false, false_and, iff_false]
    intro same
    rcases (same.v4 rfl).2 with ⟨word, isAdded, isRemoved⟩
    have clash : some (ntohl 0) = some (ntohl (ntohl (-1))) := isAdded.trans isRemoved.symm
    exact absurd clash (by decide)
  · by_cases isV6 : afInet6 = route.metainfo.rtmFamily
    · simp only [hasDst, isV6, if_true, if_false, post_goesOn, post_posts,
        pass_posts, List.append_nil, routesAgree_singleton, not_false_eq_true, and_self,
        iff_true]
      exact sameRoute_v6Default hasDst
    · simp only [hasDst, isV6, if_true, if_false, post_goesOn, post_posts,
        pass_posts, List.append_nil, routesAgree_singleton, and_false, iff_false]
      intro same
      rcases (same.gateway hasDst).1 rfl with ⟨word, -, isRemoved⟩
      cases isRemoved

theorem sameRoute_v6Dst_iff (hasDst : route.Has ipaRtaParamDst) :
    SameRoute route
        { EventDataAddr.fresh .v6 route.oifIndex with
          ipv6Addr := fun i => some (route.dstAddr.ipv6Words i)
          ipv6AddrMask := newRouteMask route.metainfo.rtmDstLen }
        { EventDataAddr.fresh .v6 route.oifIndex with
          ipv6Addr := fun i => some (route.dstAddr.ipv6Words i)
          ipv6AddrMask := delRouteMask route.metainfo.rtmDstLen } ↔
      128 ≤ route.metainfo.rtmDstLen := by
  constructor
  · intro same
    by_contra isShort
    rcases (same.v6 rfl 3).2 with ⟨word, -, isRemoved⟩
    have isWord : delRouteMask route.metainfo.rtmDstLen 3 = some word := isRemoved
    rw [delRouteMask_last _ (not_le.mp isShort)] at isWord
    cases isWord
  · intro full
    constructor
    · rfl
    · rfl
    · intro isV4
      cases isV4
    · intro _ i
      exact ⟨⟨_, rfl, rfl⟩, _, newRouteMask_full full i, delRouteMask_full full i⟩
    · exact fun noDst => absurd hasDst noDst
    · exact fun _ => ⟨fun isV4 => (by cases isV4), fun _ i => newRouteMask_full full i⟩

theorem v6Route_agree_iff (isV6Route : route.metainfo.IsV6Route) :
    RoutesAgree route (handleNewRoute .succeed 0 route).posts
        (handleDelRoute .succeed 0 route).posts ↔
      ¬ route.Has ipaRtaParamGateway ∧
        (route.Has ipaRtaParamDst → 128 ≤ route.metainfo.rtmDstLen) := by
  have notUniroute : ¬ route.metainfo.IsUniroute := fun isUniroute =>
    isUniroute.not_isV6Route isV6Route
  simp only [handleNewRoute, handleDelRoute, newUniroute, delUniroute, newV6Route, delV6Route,
    andThen, NlCalls.succeed, isV6Route, notUniroute, if_true, if_false,
    pass_goesOn, pass_posts, pass_mask, List.nil_append]
  by_cases hasDst : route.Has ipaRtaParamDst
  · by_cases hasGateway : route.Has ipaRtaParamGateway
    · simp only [hasDst, hasGateway, if_true, post_goesOn, post_posts,
        not_true_eq_false, false_and, iff_false]
      intro agree
      have lengths := agree.length_eq
      simp at lengths
    · simp only [hasDst, hasGateway, if_true, if_false, post_goesOn, post_posts,
        pass_posts, List.append_nil, routesAgree_singleton, not_false_eq_true, true_and,
        true_implies]
      exact sameRoute_v6Dst_iff hasDst
  · by_cases hasGateway : route.Has ipaRtaParamGateway
    · simp only [hasDst, hasGateway, if_true, if_false, pass_goesOn, post_posts,
        pass_posts, not_true_eq_false, false_and, iff_false]
      intro agree
      have lengths := agree.length_eq
      simp at lengths
    · simp only [hasDst, hasGateway, if_true, if_false, pass_goesOn, pass_posts,
        not_false_eq_true, true_and, false_implies, iff_true]
      exact .nil

theorem handleRoutes_agree_iff :
    RoutesAgree route (handleNewRoute .succeed 0 route).posts
        (handleDelRoute .succeed 0 route).posts ↔ route.DecodedAlike := by
  unfold RouteInfo.DecodedAlike
  by_cases isUniroute : route.metainfo.IsUniroute
  · rw [uniroute_agree_iff isUniroute]
    simp only [isUniroute, isUniroute.not_isV6Route, true_implies, false_implies, and_true]
  · by_cases isV6Route : route.metainfo.IsV6Route
    · rw [v6Route_agree_iff isV6Route]
      simp only [isUniroute, isV6Route, true_implies, false_implies, true_and]
    · simp only [handleNewRoute, handleDelRoute, newUniroute, delUniroute, newV6Route, delV6Route,
        andThen, isUniroute, isV6Route, if_true, if_false, pass_goesOn,
        pass_posts, List.append_nil, false_implies, and_self, iff_true]
      exact .nil

end Agreement

section Received

structure HoldsMessage (contents : ℕ → UInt8) (buflen : ℕ) (type : RtmType) : Prop where
  isWord : buflen < 2 ^ 32
  isItem : nlmsghdr.IsItem contents 0 buflen
  isWhole : alignUp (nlmsghdr.lengthAt contents 0) ≤ buflen
  isAlone : buflen < alignUp (nlmsghdr.lengthAt contents 0) + nlmsghdr.header
  isType : rtmType (nlmsghdr.typeAt contents 0) = some type

instance (contents : ℕ → UInt8) (buflen : ℕ) (type : RtmType) :
    Decidable (HoldsMessage contents buflen type) :=
  decidable_of_iff
    (buflen < 2 ^ 32 ∧ nlmsghdr.IsItem contents 0 buflen ∧
      alignUp (nlmsghdr.lengthAt contents 0) ≤ buflen ∧
      buflen < alignUp (nlmsghdr.lengthAt contents 0) + nlmsghdr.header ∧
      rtmType (nlmsghdr.typeAt contents 0) = some type)
    ⟨fun ⟨isWord, isItem, isWhole, isAlone, isType⟩ => ⟨isWord, isItem, isWhole, isAlone, isType⟩,
      fun ⟨isWord, isItem, isWhole, isAlone, isType⟩ => ⟨isWord, isItem, isWhole, isAlone, isType⟩⟩

variable {contents : ℕ → UInt8} {buflen : ℕ} {type : RtmType} (env : Item → NlCalls)

theorem decodeNlmsg_alone (holds : HoldsMessage contents buflen type) :
    decodeNlmsg env (.total contents) buflen =
      (decodeMessage env (.total contents) (nlmsghdr.itemAt contents 0) buflen .cleared).map
        (·.1.posts) := by
  have isLong : 16 ≤ nlmsghdr.lengthAt contents 0 := holds.isItem.1
  have enough : 16 ≤ buflen := isLong.trans holds.isItem.2
  have isShort : sub32 buflen (alignUp (nlmsghdr.lengthAt contents 0)) < nlmsghdr.header := by
    rw [sub32_of_le holds.isWord holds.isWhole]
    exact (Nat.sub_lt_iff_lt_add' holds.isWhole).mpr holds.isAlone
  have isWalk : nlmsghdr.walk (.total contents) (decodeMessage env (.total contents)) buflen 0
      buflen
      .cleared = _ := ItemFormat.walk_alone (by omega) enough holds.isItem isShort
  have isDecoded : decodeNlmsg env (.total contents) buflen =
      (nlmsghdr.walk (.total contents) (decodeMessage env (.total contents)) buflen 0 buflen
        .cleared).map (·.posts) := rfl
  rw [isDecoded, isWalk, Option.map_map]
  rfl

variable {new del : ℕ → UInt8} {newLen delLen : ℕ} {route route' : RouteInfo} {family : ℕ}

theorem decodeNlmsg_newRoute (isNew : HoldsMessage new newLen .newRoute)
    (isAdded : decodeRtmRoute (.total new) newLen NlState.cleared.route = some route) :
    decodeNlmsg env (.total new) newLen =
      some (handleNewRoute (env (nlmsghdr.itemAt new 0)) 0 route).posts := by
  rw [decodeNlmsg_alone _ isNew]
  have isType : rtmType (nlmsghdr.itemAt new 0).type = some .newRoute := isNew.isType
  simp only [decodeMessage, isType, NlView.total, isAdded]
  rfl

theorem decodeNlmsg_delRoute (isDel : HoldsMessage del delLen .delRoute)
    (isDeleted : decodeRtmRoute (.total del) delLen NlState.cleared.route = some route) :
    decodeNlmsg env (.total del) delLen =
      some (handleDelRoute (env (nlmsghdr.itemAt del 0)) 0 route).posts := by
  rw [decodeNlmsg_alone _ isDel]
  have isType : rtmType (nlmsghdr.itemAt del 0).type = some .delRoute := isDel.isType
  simp only [decodeMessage, isType, NlView.total, isDeleted]
  rfl

/-- The events of one route, received in a buffer of its own as added and as deleted, carry the same
of it if and only if it is decoded alike. -/
theorem decodeNlmsg_routes_agree_iff (isNew : HoldsMessage new newLen .newRoute)
    (isDel : HoldsMessage del delLen .delRoute)
    (isAdded : decodeRtmRoute (.total new) newLen NlState.cleared.route = some route)
    (isDeleted : decodeRtmRoute (.total del) delLen NlState.cleared.route = some route')
    (same : SameRouteInfo family route route') :
    (∃ added removed,
      decodeNlmsg (fun _ => .succeed) (.total new) newLen = some added ∧
      decodeNlmsg (fun _ => .succeed) (.total del) delLen = some removed ∧
      RoutesAgree route added removed) ↔ route.DecodedAlike := by
  rw [← handleRoutes_agree_iff, decodeNlmsg_newRoute _ isNew isAdded,
    decodeNlmsg_delRoute _ isDel isDeleted, ← (handleRoute_congr _ _ same).2]
  constructor
  · rintro ⟨added, removed, isPosted, isRemoved, agree⟩
    cases isPosted
    cases isRemoved
    exact agree
  · exact fun agree => ⟨_, _, rfl, rfl, agree⟩

end Received

instance (route : RouteInfo) : Decidable route.DecodedAlike :=
  inferInstanceAs (Decidable (_ ∧ _))

def routeMessage (type : UInt8) (header dst : List UInt8) (pos : ℕ) : UInt8 :=
  let body := header ++ dst ++ [8, 0, 4, 0, 7, 0, 0, 0]
  (leBytes 4 (16 + body.length) ++ [type, 0, 0, 0, 1, 0, 0, 0, 0, 0, 0, 0] ++ body).getD pos 0

def hostRoute (type : UInt8) : ℕ → UInt8 :=
  routeMessage type [10, 128, 0, 0, 254, 2, 0, 1, 0, 0, 0, 0]
    [20, 0, 1, 0, 32, 1, 13, 184, 0, 0, 0, 0, 0, 0, 0, 0, 0, 0, 0, 1]

def networkRoute (type : UInt8) : ℕ → UInt8 :=
  routeMessage type [10, 64, 0, 0, 254, 2, 0, 1, 0, 0, 0, 0]
    [20, 0, 1, 0, 32, 1, 13, 184, 0, 0, 0, 0, 0, 0, 0, 0, 0, 0, 0, 0]

def bootRoute (type : UInt8) : ℕ → UInt8 :=
  routeMessage type [2, 24, 0, 0, 254, 3, 0, 1, 0, 0, 0, 0] [8, 0, 1, 0, 192, 168, 1, 0]

theorem hostRoute_isSome :
    (decodeRtmRoute (.total (hostRoute 24)) 56 NlState.cleared.route).isSome = true := by
  decide +kernel

theorem decodeNlmsg_routes_agree_hostRoute :
    ∃ added removed route,
      decodeNlmsg (fun _ => .succeed) (.total (hostRoute 24)) 56 = some added ∧
      decodeNlmsg (fun _ => .succeed) (.total (hostRoute 25)) 56 = some removed ∧
      RoutesAgree route added removed := by
  have isNew : HoldsMessage (hostRoute 24) 56 .newRoute := by decide +kernel
  have isDel : HoldsMessage (hostRoute 25) 56 .delRoute := by decide +kernel
  have same : SameRouteInfo afInet6 (Option.get _ hostRoute_isSome)
      (Option.get _ hostRoute_isSome) :=
    ⟨rfl, by decide +kernel, rfl, ⟨rfl, by decide +kernel, fun _ _ => rfl⟩,
      ⟨rfl, by decide +kernel, fun _ _ => rfl⟩, rfl⟩
  have agree := (decodeNlmsg_routes_agree_iff isNew isDel
    (Option.some_get hostRoute_isSome).symm (by decide +kernel) same).mpr (by decide +kernel)
  rcases agree with ⟨added, removed, isAdded, isRemoved, agree⟩
  exact ⟨added, removed, _, isAdded, isRemoved, agree⟩

theorem networkRoute_isSome :
    (decodeRtmRoute (.total (networkRoute 24)) 56 NlState.cleared.route).isSome = true := by
  decide +kernel

theorem networkRoute_decodes :
    ∃ route, decodeRtmRoute (.total (networkRoute 24)) 56 NlState.cleared.route = some route ∧
      decodeRtmRoute (.total (networkRoute 25)) 56 NlState.cleared.route = some route ∧
      ¬ route.DecodedAlike :=
  ⟨_, (Option.some_get networkRoute_isSome).symm, by decide +kernel, by decide +kernel⟩

theorem bootRoute_isSome :
    (decodeRtmRoute (.total (bootRoute 24)) 44 NlState.cleared.route).isSome = true := by
  decide +kernel

theorem bootRoute_decodes :
    ∃ route, decodeRtmRoute (.total (bootRoute 24)) 44 NlState.cleared.route = some route ∧
      decodeRtmRoute (.total (bootRoute 25)) 44 NlState.cleared.route = some route ∧
      ¬ route.DecodedAlike :=
  ⟨_, (Option.some_get bootRoute_isSome).symm, by decide +kernel, by decide +kernel⟩

/-- The events of the IPv6 network carry different masks, and so do those of the IPv4 network. -/
theorem not_decodeNlmsg_routes_agree :
    (∃ route added removed,
      decodeRtmRoute (.total (networkRoute 24)) 56 NlState.cleared.route = some route ∧
      decodeRtmRoute (.total (networkRoute 25)) 56 NlState.cleared.route = some route ∧
      decodeNlmsg (fun _ => .succeed) (.total (networkRoute 24)) 56 = some added ∧
      decodeNlmsg (fun _ => .succeed) (.total (networkRoute 25)) 56 = some removed ∧
      ¬ RoutesAgree route added removed) ∧
    ∃ route added removed,
      decodeRtmRoute (.total (bootRoute 24)) 44 NlState.cleared.route = some route ∧
      decodeRtmRoute (.total (bootRoute 25)) 44 NlState.cleared.route = some route ∧
      decodeNlmsg (fun _ => .succeed) (.total (bootRoute 24)) 44 = some added ∧
      decodeNlmsg (fun _ => .succeed) (.total (bootRoute 25)) 44 = some removed ∧
      ¬ RoutesAgree route added removed := by
  constructor
  · rcases networkRoute_decodes with ⟨route, isAdded, isDeleted, notAlike⟩
    have isNew : HoldsMessage (networkRoute 24) 56 .newRoute := by decide +kernel
    have isDel : HoldsMessage (networkRoute 25) 56 .delRoute := by decide +kernel
    exact ⟨route, _, _, isAdded, isDeleted, decodeNlmsg_newRoute _ isNew isAdded,
      decodeNlmsg_delRoute _ isDel isDeleted, fun agree => notAlike
        (handleRoutes_agree_iff.mp agree)⟩
  · rcases bootRoute_decodes with ⟨route, isAdded, isDeleted, notAlike⟩
    have isNew : HoldsMessage (bootRoute 24) 44 .newRoute := by decide +kernel
    have isDel : HoldsMessage (bootRoute 25) 44 .delRoute := by decide +kernel
    exact ⟨route, _, _, isAdded, isDeleted, decodeNlmsg_newRoute _ isNew isAdded,
      decodeNlmsg_delRoute _ isDel isDeleted, fun agree => notAlike
        (handleRoutes_agree_iff.mp agree)⟩

end HtcPme.Ipacm
