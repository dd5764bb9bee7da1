import HtcPme.Ipacm.NetlinkEncode

/-!
# Messages that are received together

The decoders of attributes are given the buffer, and not the message that is decoded.
-/

namespace HtcPme.Ipacm

open NlMessage Memory List Option

structure SameAddr (family : ℕ) (addr addr' : SockaddrStorage) : Prop where
  ssFamily : addr.ssFamily = addr'.ssFamily
  isFamily : addr.ssFamily = 0 ∨ addr.ssFamily = family
  words : ∀ i, i = 0 ∨ family = afInet6 ∧ i < 4 → addr.word i = addr'.word i

structure SameAddrInfo (family : ℕ) (info info' : AddrInfo) : Prop where
  metainfo : info.metainfo = info'.metainfo
  isFamily : info.metainfo.ifaFamily = family
  prefixAddr : SameAddr family info.prefixAddr info'.prefixAddr

structure SameNeighInfo (family : ℕ) (info info' : NeighInfo) : Prop where
  metainfo : info.metainfo = info'.metainfo
  isFamily : info.metainfo.ndmFamily = family
  localAddr : SameAddr family info.localAddr info'.localAddr
  lladdr : info.lladdrHwaddr.take 6 = info'.lladdrHwaddr.take 6

structure SameRouteInfo (family : ℕ) (info info' : RouteInfo) : Prop where
  metainfo : info.metainfo = info'.metainfo
  isFamily : info.metainfo.rtmFamily = family
  paramMask : info.paramMask = info'.paramMask
  dstAddr : SameAddr family info.dstAddr info'.dstAddr
  gatewayAddr : SameAddr family info.gatewayAddr info'.gatewayAddr
  oifIndex : info.oifIndex = info'.oifIndex

section Copies

variable {family : ℕ} {contents contents' : ℕ → UInt8} {data data' : ℕ}

theorem SameAddr.cleared : SameAddr family .cleared .cleared :=
  ⟨rfl, .inl rfl, fun _ _ => rfl⟩

theorem SameAddr.ipv6Words {addr addr' : SockaddrStorage} (same : SameAddr family addr addr')
    (isV6 : family = afInet6) : addr.ipv6Words = addr'.ipv6Words := by
  funext i
  exact congrArg ntohl (same.words i (.inr ⟨isV6, i.isLt⟩))

theorem field32_slice {pos count offset : ℕ} (within : offset + 4 ≤ count) :
    field32 (slice contents pos count) offset =
      BitVec.ofNat 32 (littleEndian (slice contents (pos + offset) 4)) := by
  rw [field32, field, drop_slice (by omega), take_slice (by omega)]

theorem sameAddr_copy
    (agree : ∀ i < if family = afInet6 then 16 else 4, contents (data + i) =
      contents' (data' + i)) :
    SameAddr family ⟨family, slice contents data SockaddrStorage.dataSize⟩
      ⟨family, slice contents' data' SockaddrStorage.dataSize⟩ where
  ssFamily := rfl
  isFamily := .inr rfl
  words i isUsed := by
    have within : 4 * i + 4 ≤ if family = afInet6 then 16 else 4 := by
      rcases isUsed with rfl | ⟨isV6, below⟩
      · split
        · omega
        · omega
      · rw [if_pos isV6]
        omega
    have few : 4 * i + 4 ≤ SockaddrStorage.dataSize := by
      split at within
      · exact within.trans (by decide)
      · exact within.trans (by decide)
    rw [SockaddrStorage.word, SockaddrStorage.word, field32_slice few, field32_slice few]
    have isSlice : slice contents (data + 4 * i) 4 = slice contents' (data' + 4 * i) 4 := by
      apply slice_congr
      intro j below
      rw [Nat.add_assoc, Nat.add_assoc]
      exact agree (4 * i + j) (by omega)
    rw [isSlice]

theorem copyAddrAttr_related :
    CopyRelated (SameAddrInfo family) copyAddrAttr (RtmType.newAddr.needed family) where
  copies := by
    intro contents contents' data data' type info info' same agree
    by_cases isAddr : type = ifaAddress
    · simp only [copyAddrAttr, nlCopyAddr, isAddr, if_true, bytes_total, bind_eq_bind,
        bind_some, RtmType.needed] at agree ⊢
      rw [← same.metainfo, same.isFamily]
      exact ⟨_, _, rfl, rfl, rfl, same.isFamily, sameAddr_copy agree⟩
    · simp only [copyAddrAttr, isAddr, if_false]
      exact ⟨_, _, rfl, rfl, same⟩
  skips := rfl
  isSome := by
    intro contents data type info
    simp only [copyAddrAttr, nlCopyAddr, bytes_total, bind_eq_bind, bind_some]
    split
    · rfl
    · rfl

theorem copyNeighAttr_related :
    CopyRelated (SameNeighInfo family) copyNeighAttr (RtmType.newNeigh.needed family) where
  copies := by
    intro contents contents' data data' type info info' same agree
    by_cases isAddr : type = ndaDst
    · simp only [copyNeighAttr, nlCopyAddr, isAddr, if_true, bytes_total,
        bind_eq_bind,
        bind_some, RtmType.needed] at agree ⊢
      rw [← same.metainfo, same.isFamily]
      exact ⟨_, _, rfl, rfl, rfl, same.isFamily, sameAddr_copy agree, same.lladdr⟩
    by_cases isLladdr : type = ndaLladdr
    · have noAddr : ndaLladdr ≠ ndaDst := by decide
      simp only [copyNeighAttr, isLladdr, noAddr, if_true, if_false, bytes_total,
        bind_eq_bind, bind_some, RtmType.needed] at agree ⊢
      refine ⟨_, _, rfl, rfl, same.metainfo, same.isFamily, same.localAddr, ?_⟩
      rw [take_slice (by decide), take_slice (by decide)]
      exact slice_congr agree
    · simp only [copyNeighAttr, isAddr, isLladdr, if_false]
      exact ⟨_, _, rfl, rfl, same⟩
  skips := rfl
  isSome := by
    intro contents data type info
    simp only [copyNeighAttr, nlCopyAddr, bytes_total, bind_eq_bind, bind_some]
    split
    · rfl
    split
    · rfl
    · rfl

theorem copyRouteAttr_related :
    CopyRelated (SameRouteInfo family) copyRouteAttr (RtmType.newRoute.needed family) where
  copies := by
    intro contents contents' data data' type info info' same agree
    have isMask := same.paramMask
    simp only [copyRouteAttr, nlCopyAddr, copy32, bytes_total, bind_eq_bind,
      bind_some]
    split
    · rename_i isDst
      simp only [RtmType.needed, isDst, true_or, if_true] at agree
      rw [← same.metainfo, same.isFamily, ← isMask]
      exact ⟨_, _, rfl, rfl, rfl, same.isFamily, rfl, sameAddr_copy agree, same.gatewayAddr,
        same.oifIndex⟩
    split
    · rw [← isMask]
      exact ⟨_, _, rfl, rfl, same.metainfo, same.isFamily, rfl, same.dstAddr, same.gatewayAddr,
        same.oifIndex⟩
    split
    · rename_i isGateway
      simp only [RtmType.needed, isGateway, or_true, if_true] at agree
      rw [← same.metainfo, same.isFamily, ← isMask]
      exact ⟨_, _, rfl, rfl, rfl, same.isFamily, rfl, same.dstAddr, sameAddr_copy agree,
        same.oifIndex⟩
    split
    · rw [← isMask]
      exact ⟨_, _, rfl, rfl, same.metainfo, same.isFamily, rfl, same.dstAddr, same.gatewayAddr,
        same.oifIndex⟩
    split
    · rename_i isOif
      have noAddr : ¬ (rtaOif = rtaDst ∨ rtaOif = rtaGateway) := by decide
      simp only [RtmType.needed, isOif, noAddr, if_true, if_false] at agree
      rw [← isMask, slice_congr agree]
      exact ⟨_, _, rfl, rfl, same.metainfo, same.isFamily, rfl, same.dstAddr, same.gatewayAddr, rfl⟩
    split
    · rw [← isMask]
      exact ⟨_, _, rfl, rfl, same.metainfo, same.isFamily, rfl, same.dstAddr, same.gatewayAddr,
        same.oifIndex⟩
    · exact ⟨_, _, rfl, rfl, same⟩
  skips := rfl
  isSome := by
    intro contents data type info
    simp only [copyRouteAttr, nlCopyAddr, copy32, bytes_total, bind_eq_bind,
      bind_some]
    repeat' split
    all_goals rfl

end Copies

section Events

variable {family : ℕ} (calls : NlCalls) (mask : BitVec 32)

theorem handleNewAddr_congr {info info' : AddrInfo} (same : SameAddrInfo family info info') :
    handleNewAddr calls mask info = handleNewAddr calls mask info' := by
  have isFamily := same.prefixAddr.ssFamily
  have isWord := same.prefixAddr.words 0 (.inl rfl)
  by_cases isV6 : info.prefixAddr.ssFamily = afInet6
  · have isWide : family = afInet6 := by
      rcases same.prefixAddr.isFamily with isZero | isFamily
      · exact absurd (isZero.symm.trans isV6) (by decide)
      · exact isFamily.symm.trans isV6
    simp only [handleNewAddr, ← isFamily, isV6, if_true, same.metainfo,
      same.prefixAddr.ipv6Words isWide]
  · simp only [handleNewAddr, ← isFamily, isV6, if_false, same.metainfo, isWord]

variable {info info' : NeighInfo}

section

variable (same : SameNeighInfo family info info')

include same

theorem neighData_congr :
    neighData info = neighData info' := by
  have isFamily := same.localAddr.ssFamily
  have isWord := same.localAddr.words 0 (.inl rfl)
  by_cases isV6 : info.localAddr.ssFamily = afInet6
  · have isWide : family = afInet6 := by
      rcases same.localAddr.isFamily with isZero | isFamily
      · exact absurd (isZero.symm.trans isV6) (by decide)
      · exact isFamily.symm.trans isV6
    simp only [neighData, ← isFamily, isV6, if_true, same.metainfo, same.lladdr,
      same.localAddr.ipv6Words isWide]
  · simp only [neighData, ← isFamily, isV6, if_false, same.metainfo, same.lladdr, isWord]

theorem handleNewNeigh_congr :
    handleNewNeigh calls mask info = handleNewNeigh calls mask info' := by
  simp only [handleNewNeigh, neighData_congr same, same.metainfo]

theorem handleDelNeigh_congr :
    handleDelNeigh calls mask info = handleDelNeigh calls mask info' := by
  simp only [handleDelNeigh, neighData_congr same]

end

theorem handleRoute_congr {info info' : RouteInfo} (same : SameRouteInfo family info info') :
    handleNewRoute calls mask info = handleNewRoute calls mask info' ∧
      handleDelRoute calls mask info = handleDelRoute calls mask info' := by
  have hasParam (param : BitVec 32) : info.Has param ↔ info'.Has param := by
    rw [RouteInfo.Has, RouteInfo.Has, same.paramMask]
  have isDst := same.dstAddr.words 0 (.inl rfl)
  have isGateway := same.gatewayAddr.words 0 (.inl rfl)
  by_cases isV6 : afInet6 = info'.metainfo.rtmFamily
  · have isWide : family = afInet6 := by
      rw [isV6, ← same.metainfo, same.isFamily]
    simp only [handleNewRoute, handleDelRoute, newUniroute, newV6Route, delUniroute, delV6Route,
      v6DefaultData, hasParam, same.metainfo, same.oifIndex, isDst, isGateway,
      same.dstAddr.ipv6Words isWide, same.gatewayAddr.ipv6Words isWide, and_self]
  · have notV6Route : ¬ info'.metainfo.IsV6Route := fun isRoute => isV6 isRoute.1
    simp only [handleNewRoute, handleDelRoute, newUniroute, newV6Route, delUniroute, delV6Route,
      hasParam, same.metainfo, same.oifIndex, isDst, isGateway, isV6, notV6Route, if_false,
      and_self]

end Events

section Headers

variable (mem : Memory) (buflen : ℕ)

theorem decodeRtmAddr_eq (info : AddrInfo) :
    decodeRtmAddr mem buflen info =
      (mem.bytes 16 RtmType.newAddr.headerSize).bind fun raw =>
        decodeAttrs mem (copyAddrAttr mem) (16 + RtmType.newAddr.headerSize) buflen
          { info with metainfo := .ofBytes raw } :=
  rfl

variable {type : RtmType}

theorem decodeRtmNeigh_eq (isNeigh : type = .newNeigh ∨ type = .delNeigh) (info : NeighInfo) :
    decodeRtmNeigh mem buflen info = (mem.bytes 16 type.headerSize).bind fun raw =>
        decodeAttrs mem (copyNeighAttr mem) (16 + type.headerSize) buflen
          { info with metainfo := .ofBytes raw } := by
  rcases isNeigh with rfl | rfl
  · rfl
  · rfl

theorem decodeRtmRoute_eq (isRoute : type = .newRoute ∨ type = .delRoute) (info : RouteInfo) :
    decodeRtmRoute mem buflen info = (mem.bytes 16 type.headerSize).bind fun raw =>
        decodeAttrs mem (copyRouteAttr mem) (16 + type.headerSize) buflen
          { info with metainfo := .ofBytes raw, paramMask := 0 } := by
  rcases isRoute with rfl | rfl
  · rfl
  · rfl

end Headers

section First

variable {message : NlMessage} {rest : List NlMessage} {after : ℕ → UInt8} {type : RtmType}

theorem slice_first {count : ℕ} (within : 16 + count ≤ message.encode.length) :
    slice (bytesThen (message.encode ++ rest.flatMap encode) after) 16 count =
      slice (bytesThen message.encode after) 16 count := by
  apply slice_congr
  intro i below
  exact bytesThen_of_lt _ _ after after (by omega)

variable (after) in
theorem decodeFirst_attrs {σ : Type} {related : ℕ → σ → σ → Prop}
    (copy : Memory → ℕ → ℕ → σ → Option σ) (init : List UInt8 → σ)
    (spec : ∀ family, CopyRelated (related family) copy (type.needed family))
    (isInit : ∀ raw, related (field raw 0 1) (init raw) (init raw))
    (isType : type ∈ rtmType message.type) (notLink : ¬ type.IsLink)
    (wellFormed : message.WellFormed)
    (follow : ∀ message ∈ rest, message.WellFormed ∧ message.length < 2 ^ 16)
    (isWord : (message.encode ++ rest.flatMap encode).length < 2 ^ 32) :
    ∃ family next next', related family next next' ∧
      (((total (bytesThen message.encode after)).bytes 16 type.headerSize).bind fun raw =>
        decodeAttrs (.total (bytesThen message.encode after))
          (copy (.total (bytesThen message.encode after))) (16 + type.headerSize)
          message.encode.length (init raw)) = some next ∧
      (((total (bytesThen (message.encode ++ rest.flatMap encode) after)).bytes 16
        type.headerSize).bind fun raw =>
        decodeAttrs (.total (bytesThen (message.encode ++ rest.flatMap encode) after))
          (copy (.total (bytesThen (message.encode ++ rest.flatMap encode) after)))
          (16 + type.headerSize) (message.encode ++ rest.flatMap encode).length
          (init raw)) = some next' := by
  rcases wellFormed.hasAttrs type isType notLink with ⟨header, attrs, isHeader, isBody, attrsOk⟩
  set first := leBytes 4 message.length ++ leBytes 2 message.type ++ message.rest with isFirst
  have firstLength : first.length = 16 := by
    simp only [isFirst, length_append, length_leBytes, wellFormed.isRest]
  have isEncode : message.encode = first ++ header ++ attrs.flatMap NlAttr.encode := by
    rw [encode, append_assoc _ message.body, isBody, append_assoc first]
  have startLength : (first ++ header).length = 16 + type.headerSize := by
    rw [length_append, firstLength, isHeader]
  have isStart : (first ++ header).length = 24 ∨ (first ++ header).length = 28 := by
    rw [startLength]
    cases type with
    | newLink => exact absurd (.inl rfl) notLink
    | delLink => exact absurd (.inr rfl) notLink
    | newAddr => exact .inl rfl
    | newRoute => exact .inr rfl
    | delRoute => exact .inr rfl
    | newNeigh => exact .inr rfl
    | delNeigh => exact .inr rfl
  have rawAlone : slice (bytesThen message.encode after) 16 type.headerSize = header := by
    rw [isEncode, ← firstLength, ← isHeader]
    exact slice_bytesThen_append first header after _
  have rawBatch : slice (bytesThen (message.encode ++ rest.flatMap encode) after) 16
      type.headerSize = header := by
    rw [slice_first, rawAlone]
    rw [isEncode, length_append, startLength]
    exact Nat.le_add_right _ _
  rw [bytes_total, bytes_total, bind_some, bind_some, rawAlone,
    rawBatch,
    ← startLength, isEncode]
  rw [isEncode] at isWord
  rcases decodeAttrs_related (spec (field header 0 1)) attrs attrsOk rest follow isStart isWord
    (isInit header) with ⟨next, next', isRelated, isAlone, isBatch⟩
  exact ⟨_, next, next', isRelated, isAlone, isBatch⟩

section Decoders

variable (wellFormed : message.WellFormed)
  (follow : ∀ message ∈ rest, message.WellFormed ∧ message.length < 2 ^ 16)
  (isWord : (message.encode ++ rest.flatMap encode).length < 2 ^ 32)

include wellFormed

theorem decodeFirst_link (isType : type ∈ rtmType message.type) (isLink : type.IsLink) :
    decodeRtmLink (.total (bytesThen (message.encode ++ rest.flatMap encode) after)) =
      decodeRtmLink (.total (bytesThen message.encode after)) := by
  have within : 16 + 16 ≤ message.encode.length := by
    have isHeaded := wellFormed.headed type isType
    have isLong : 16 ≤ message.body.length := by
      rcases isLink with rfl | rfl
      · exact isHeaded
      · exact isHeaded
    rw [length_encode wellFormed]
    exact (Nat.add_le_add_left isLong 16).trans (le_alignUp _)
  simp only [decodeRtmLink, bytes_total, slice_first within]

include follow isWord

variable (after)

theorem decodeFirst_addr (info : AddrInfo)
    (isCleared : ∀ family, SameAddr family info.prefixAddr info.prefixAddr)
    (isType : .newAddr ∈ rtmType message.type) :
    ∃ family next next', SameAddrInfo family next next' ∧
      decodeRtmAddr (.total (bytesThen message.encode after)) message.encode.length info =
        some next ∧
      decodeRtmAddr (.total (bytesThen (message.encode ++ rest.flatMap encode) after))
        (message.encode ++ rest.flatMap encode).length info = some next' := by
  simp only [decodeRtmAddr_eq]
  exact decodeFirst_attrs after copyAddrAttr (fun raw => { info with metainfo := .ofBytes raw })
    (fun _ => copyAddrAttr_related) (fun _ => ⟨rfl, rfl, isCleared _⟩) isType (by decide) wellFormed
    follow isWord

theorem decodeFirst_neigh (info : NeighInfo)
    (isCleared : ∀ family, SameAddr family info.localAddr info.localAddr)
    (isType : type ∈ rtmType message.type) (isNeigh : type = .newNeigh ∨ type = .delNeigh) :
    ∃ family next next', SameNeighInfo family next next' ∧
      decodeRtmNeigh (.total (bytesThen message.encode after)) message.encode.length info =
        some next ∧
      decodeRtmNeigh (.total (bytesThen (message.encode ++ rest.flatMap encode) after))
        (message.encode ++ rest.flatMap encode).length info = some next' := by
  have spec (family : ℕ) : CopyRelated (SameNeighInfo family) copyNeighAttr
      (type.needed family) := by
    rcases isNeigh with rfl | rfl
    · exact copyNeighAttr_related
    · exact copyNeighAttr_related
  have notLink : ¬ type.IsLink := by
    rcases isNeigh with rfl | rfl
    · decide
    · decide
  simp only [decodeRtmNeigh_eq _ _ isNeigh]
  exact decodeFirst_attrs after copyNeighAttr
    (fun raw => { info with metainfo := .ofBytes raw }) spec
    (fun _ => ⟨rfl, rfl, isCleared _, rfl⟩) isType notLink wellFormed follow
    isWord

theorem decodeFirst_route (info : RouteInfo)
    (isCleared : ∀ family, SameAddr family info.dstAddr info.dstAddr ∧
      SameAddr family info.gatewayAddr info.gatewayAddr)
    (isType : type ∈ rtmType message.type) (isRoute : type = .newRoute ∨ type = .delRoute) :
    ∃ family next next', SameRouteInfo family next next' ∧
      decodeRtmRoute (.total (bytesThen message.encode after)) message.encode.length info =
        some next ∧
      decodeRtmRoute (.total (bytesThen (message.encode ++ rest.flatMap encode) after))
        (message.encode ++ rest.flatMap encode).length info = some next' := by
  have spec (family : ℕ) : CopyRelated (SameRouteInfo family) copyRouteAttr
      (type.needed family) := by
    rcases isRoute with rfl | rfl
    · exact copyRouteAttr_related
    · exact copyRouteAttr_related
  have notLink : ¬ type.IsLink := by
    rcases isRoute with rfl | rfl
    · decide
    · decide
  simp only [decodeRtmRoute_eq _ _ isRoute]
  exact decodeFirst_attrs after copyRouteAttr
    (fun raw => { info with metainfo := .ofBytes raw, paramMask := 0 }) spec
    (fun _ => ⟨rfl, rfl, rfl, (isCleared _).1, (isCleared _).2, rfl⟩) isType notLink
      wellFormed follow
    isWord

theorem decodeFirst :
    ∃ done done',
      decodeMessage (fun _ => .succeed) (.total (bytesThen message.encode after))
        ⟨0, message.length, message.type⟩ message.encode.length .cleared = some done ∧
      decodeMessage (fun _ => .succeed)
        (.total (bytesThen (message.encode ++ rest.flatMap encode) after))
        ⟨0, message.length, message.type⟩
        (message.encode ++ rest.flatMap encode).length .cleared = some done' ∧
      done.1.posts = done'.1.posts := by
  unfold decodeMessage
  cases isType : rtmType message.type with
  | none => exact ⟨_, _, rfl, rfl, rfl⟩
  | some type =>
      cases type with
      | newLink =>
          simp only [NlView.total, decodeFirst_link wellFormed isType (.inl rfl)]
          exact ⟨_, _, rfl, rfl, rfl⟩
      | delLink =>
          simp only [NlView.total, decodeFirst_link wellFormed isType (.inr rfl)]
          exact ⟨_, _, rfl, rfl, rfl⟩
      | newAddr =>
          rcases decodeFirst_addr after wellFormed follow isWord
            NlState.cleared.addr (fun _ => .cleared) isType with
            ⟨family, next, next', same, alone, batch⟩
          simp only [NlView.total, alone, batch]
          exact ⟨_, _, rfl, rfl, congrArg NlHandled.posts (handleNewAddr_congr _ _ same)⟩
      | newRoute =>
          rcases decodeFirst_route after wellFormed follow isWord
            NlState.cleared.route (fun _ => ⟨.cleared, .cleared⟩) isType (.inl rfl) with
            ⟨family, next, next', same, alone, batch⟩
          simp only [NlView.total, alone, batch]
          exact ⟨_, _, rfl, rfl, congrArg NlHandled.posts (handleRoute_congr _ _ same).1⟩
      | delRoute =>
          rcases decodeFirst_route after wellFormed follow isWord
            NlState.cleared.route (fun _ => ⟨.cleared, .cleared⟩) isType (.inr rfl) with
            ⟨family, next, next', same, alone, batch⟩
          simp only [NlView.total, alone, batch]
          exact ⟨_, _, rfl, rfl, congrArg NlHandled.posts (handleRoute_congr _ _ same).2⟩
      | newNeigh =>
          rcases decodeFirst_neigh after wellFormed follow isWord
            NlState.cleared.neigh (fun _ => .cleared) isType (.inl rfl) with
            ⟨family, next, next', same, alone, batch⟩
          simp only [NlView.total, alone, batch]
          exact ⟨_, _, rfl, rfl, congrArg NlHandled.posts (handleNewNeigh_congr _ _ same)⟩
      | delNeigh =>
          rcases decodeFirst_neigh after wellFormed follow isWord
            NlState.cleared.neigh (fun _ => .cleared) isType (.inr rfl) with
            ⟨family, next, next', same, alone, batch⟩
          simp only [NlView.total, alone, batch]
          exact ⟨_, _, rfl, rfl, congrArg NlHandled.posts (handleDelNeigh_congr _ _ same)⟩

end Decoders

end First

/-- What is posted of messages that are received in one buffer, with what was left in the memory
behind them. Every look-up and allocation succeeds. -/
def decodeReceived (messages : List NlMessage) (after : ℕ → UInt8) : Option (List NlEvent) :=
  decodeNlmsg (fun _ => .succeed) (.total (bytesThen (messages.flatMap NlMessage.encode) after))
    (messages.flatMap NlMessage.encode).length

def DecodedAsAlone (messages : List NlMessage) (after : ℕ → UInt8) : Prop :=
  ∃ alone, messages.mapM (fun message => decodeReceived [message] after) = some alone ∧
    decodeReceived messages after = some alone.flatten

section Buffer

variable {message : NlMessage} {rest : List NlMessage} {after contents : ℕ → UInt8}
  {pos left : ℕ} {state : NlState}

theorem isItem_of_holds (wellFormed : message.WellFormed) (isWord : left < 2 ^ 32)
    (holds : slice contents pos message.encode.length = message.encode)
    (fits : message.encode.length ≤ left) :
    nlmsghdr.itemAt contents pos = ⟨pos, message.length, message.type⟩ ∧
      nlmsghdr.IsItem contents pos left ∧ nlmsghdr.header ≤ left := by
  have isLong : message.length ≤ message.encode.length := by
    rw [length_encode wellFormed]
    exact le_alignUp _
  have isItemAt := itemAt wellFormed (by omega) holds
  have isLength : nlmsghdr.lengthAt contents pos = message.length := congrArg Item.length isItemAt
  have hasHeader : nlmsghdr.header ≤ message.length := Nat.le_add_right 16 _
  refine ⟨isItemAt, ?_, hasHeader.trans (isLong.trans fits)⟩
  rw [ItemFormat.IsItem, isLength]
  exact ⟨hasHeader, isLong.trans fits⟩

theorem walk_ignored (env : Item → NlCalls) (rounds : ℕ) (messages : List NlMessage)
    (wellFormed : ∀ message ∈ messages, message.WellFormed)
    (ignored : ∀ message ∈ messages, rtmType message.type = none)
    (holds : slice contents pos (messages.flatMap encode).length =
      messages.flatMap encode)
    (fits : (messages.flatMap encode).length ≤ left) (isWord : left < 2 ^ 32) :
    nlmsghdr.walk (.total contents) (decodeMessage env (.total contents))
        (messages.length + rounds) pos left state =
      nlmsghdr.walk (.total contents) (decodeMessage env (.total contents)) rounds
        (pos + (messages.flatMap encode).length)
        (left - (messages.flatMap encode).length) state := by
  induction messages generalizing pos left with
  | nil => simp
  | cons message rest ih =>
      have isFirst := wellFormed message mem_cons_self
      have isIgnored := ignored message mem_cons_self
      rw [flatMap_cons] at holds fits
      rcases slice_append_iff.mp holds with ⟨holdsFirst, holdsRest⟩
      rw [length_append] at fits
      have fitsFirst : message.encode.length ≤ left := by omega
      rcases isItem_of_holds isFirst isWord holdsFirst fitsFirst with ⟨isItemAt, isItem, enough⟩
      have isLength : nlmsghdr.lengthAt contents pos = message.length :=
        congrArg Item.length isItemAt
      rw [length_cons, Nat.add_right_comm,
        ItemFormat.walk_item _ word_total word_total enough isItem, isItemAt,
          isLength,
        ← length_encode isFirst, sub32_of_le isWord fitsFirst]
      simp only [decodeMessage, isIgnored, bind_some, if_true]
      rw [ih (fun message isIn => wellFormed message (mem_cons_of_mem _ isIn))
        (fun message isIn => ignored message (mem_cons_of_mem _ isIn)) holdsRest
        (Nat.le_sub_of_add_le' fits) ((Nat.sub_le _ _).trans_lt isWord),
        flatMap_cons, length_append, Nat.add_assoc, Nat.sub_sub]

theorem decodeReceived_cons (wellFormed : ∀ message' ∈ message :: rest, message'.WellFormed)
    (ignored : ∀ message ∈ rest, rtmType message.type = none)
    (isWord : (message.encode ++ rest.flatMap encode).length < 2 ^ 32) :
    decodeReceived (message :: rest) after =
      (decodeMessage (fun _ => .succeed)
        (.total (bytesThen (message.encode ++ rest.flatMap encode) after))
        ⟨0, message.length, message.type⟩
        (message.encode ++ rest.flatMap encode).length .cleared).map (·.1.posts) := by
  set buffer := message.encode ++ rest.flatMap encode with isBuffer
  set contents := bytesThen buffer after with isContents
  have isFirst := wellFormed message mem_cons_self
  have isRest (message' : NlMessage) (isIn : message' ∈ rest) : message'.WellFormed :=
    wellFormed message' (mem_cons_of_mem _ isIn)
  have holds : slice contents 0 buffer.length = buffer := slice_bytesThen buffer after
  rcases slice_append_iff.mp holds with ⟨holdsFirst, holdsRest⟩
  have bufferLength : buffer.length = message.encode.length +
      (rest.flatMap encode).length := length_append
  rcases isItem_of_holds isFirst isWord holdsFirst (by omega) with ⟨isItemAt, isItem, enough⟩
  have isLength : nlmsghdr.lengthAt contents 0 = message.length := congrArg Item.length isItemAt
  have restCount := length_le_encode rest isRest
  have hasHeader : 16 ≤ buffer.length := enough
  have hasRounds : ∃ rounds, buffer.length = rest.length + rounds + 1 :=
    ⟨buffer.length - 1 - rest.length, by omega⟩
  rcases hasRounds with ⟨rounds, isRounds⟩
  have isDecoded : decodeReceived (message :: rest) after =
      (nlmsghdr.walk (.total contents) (decodeMessage (fun _ => .succeed) (.total contents))
        (rest.length + rounds + 1) 0 buffer.length .cleared).map (·.posts) := by
    rw [← isRounds]
    rfl
  rw [isDecoded, ItemFormat.walk_item _ word_total word_total enough isItem, isItemAt,
    isLength, ← length_encode isFirst, sub32_of_le isWord (by omega)]
  cases decodeMessage (fun _ => .succeed) (.total contents) ⟨0, message.length, message.type⟩
    buffer.length .cleared with
  | none => rfl
  | some done =>
      rcases done with ⟨next, goes⟩
      cases goes with
      | false => rfl
      | true =>
          have fitsRest : (rest.flatMap encode).length ≤
              buffer.length - message.encode.length := by omega
          have isWordRest : buffer.length - message.encode.length < 2 ^ 32 := by omega
          have isEnd : buffer.length - message.encode.length -
              (rest.flatMap encode).length < nlmsghdr.header := by
            rw [bufferLength, Nat.add_sub_cancel_left, Nat.sub_self]
            decide
          simp only [bind_some, if_true]
          rw [walk_ignored _ rounds rest isRest ignored holdsRest fitsRest isWordRest,
            ItemFormat.walk_short _ isEnd]
          rfl

theorem decodeReceived_ignored (wellFormed : message.WellFormed)
    (ignored : rtmType message.type = none) (isWord : message.encode.length < 2 ^ 32) :
    decodeReceived [message] after = some [] := by
  rw [decodeReceived_cons]
  · simp only [decodeMessage, ignored]
    rfl
  · intro message' isIn
    cases mem_singleton.mp isIn
    exact wellFormed
  · exact forall_mem_nil _
  · rw [flatMap_nil, append_nil]
    exact isWord

theorem mapM_ignored (messages : List NlMessage)
    (wellFormed : ∀ message ∈ messages, message.WellFormed)
    (ignored : ∀ message ∈ messages, rtmType message.type = none)
    (isWord : (messages.flatMap encode).length < 2 ^ 32) :
    messages.mapM (fun message => decodeReceived [message] after) =
      some (messages.map fun _ => []) := by
  induction messages with
  | nil => rfl
  | cons message rest ih =>
      rw [flatMap_cons, length_append] at isWord
      rw [mapM_cons,
        decodeReceived_ignored (wellFormed _ mem_cons_self) (ignored _ mem_cons_self)
          (by omega),
        ih (fun message isIn => wellFormed message (mem_cons_of_mem _ isIn))
          (fun message isIn => ignored message (mem_cons_of_mem _ isIn)) (by omega)]
      rfl

theorem decodedAsAlone_of_ignored (messages : List NlMessage)
    (wellFormed : ∀ message ∈ messages, message.WellFormed)
    (ignored : ∀ message ∈ messages.tail, rtmType message.type = none)
    (fits : (messages.flatMap encode).length ≤ ipaNlMsgMaxLen) :
    DecodedAsAlone messages after := by
  cases messages with
  | nil => exact ⟨[], rfl, rfl⟩
  | cons message rest =>
      have isFirst := wellFormed message mem_cons_self
      have isRest (message' : NlMessage) (isIn : message' ∈ rest) : message'.WellFormed :=
        wellFormed message' (mem_cons_of_mem _ isIn)
      rw [flatMap_cons] at fits
      have isWord : (message.encode ++ rest.flatMap encode).length < 2 ^ 32 :=
        fits.trans_lt (by decide)
      have isMax : ipaNlMsgMaxLen = 2048 := rfl
      rw [length_append, isMax] at fits
      have isWordFirst : (message.encode ++ [].flatMap encode).length < 2 ^ 32 := by
        rw [flatMap_nil, append_nil]
        omega
      have follow (message' : NlMessage) (isIn : message' ∈ rest) :
          message'.WellFormed ∧ message'.length < 2 ^ 16 := by
        refine ⟨isRest message' isIn, ?_⟩
        have isPart : message'.encode.length ≤ (rest.flatMap encode).length :=
          (sublist_flatten_of_mem (mem_map_of_mem isIn)).length_le
        have isLong := le_alignUp message'.length
        rw [length_encode (isRest message' isIn)] at isPart
        omega
      rcases decodeFirst after isFirst follow isWord with ⟨done, done', isAlone, isBatch, same⟩
      have alone : decodeReceived [message] after = some done.1.posts := by
        rw [decodeReceived_cons (forall_mem_singleton.mpr isFirst) (forall_mem_nil _)
          isWordFirst]
        simp only [flatMap_nil, append_nil, isAlone, map_some]
      have isWordRest : (rest.flatMap encode).length < 2 ^ 32 := by omega
      refine ⟨done.1.posts :: rest.map fun _ => [], ?_, ?_⟩
      · rw [mapM_cons, alone, mapM_ignored rest isRest ignored isWordRest]
        rfl
      · rw [decodeReceived_cons wellFormed ignored isWord, isBatch, map_some, ← same]
        simp

end Buffer

end HtcPme.Ipacm
