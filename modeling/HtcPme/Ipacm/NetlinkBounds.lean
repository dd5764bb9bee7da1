import HtcPme.Ipacm.Netlink

/-!
# What is read of a netlink buffer

The decoders take only the message header off the count of bytes that are left, and copy as many
bytes of an attribute as the destination holds.
-/

namespace HtcPme.Ipacm

open Memory Option

namespace RtmType

def headerSize : RtmType → ℕ
  | .newLink | .delLink => 16
  | .newAddr => 8
  | .newRoute | .delRoute | .newNeigh | .delNeigh => 12

def IsLink (type : RtmType) : Prop := type = .newLink ∨ type = .delLink

instance (type : RtmType) : Decidable type.IsLink := inferInstanceAs (Decidable (_ ∨ _))

def copied : RtmType → ℕ → ℕ
  | .newLink, _ | .delLink, _ => 0
  | .newAddr, attr => if attr = ifaAddress then SockaddrStorage.dataSize else 0
  | .newNeigh, attr | .delNeigh, attr =>
      if attr = ndaDst then SockaddrStorage.dataSize else if attr = ndaLladdr then 14 else 0
  | .newRoute, attr | .delRoute, attr =>
      if attr = rtaDst ∨ attr = rtaSrc ∨ attr = rtaGateway then SockaddrStorage.dataSize
      else if attr = rtaIif ∨ attr = rtaOif ∨ attr = rtaPriority then 4 else 0

end RtmType

section

variable (contents : ℕ → UInt8) (start stop : ℕ)

/-- The attributes from an address on end before `stop`, and so does what is copied of each. -/
def AttrsClosed (copied : ℕ → ℕ) : ℕ → ℕ → Prop :=
  rtattr.Closed contents start stop (fun attr _ => attr.pos + 4 + copied attr.type ≤ stop)
    fun _ => True

variable (buflen : ℕ) (item : Item)

/-- A message that is decoded begins within the first header, contains the headers that are read,
and its attributes end in it. -/
def MessageClosed (left : ℕ) : Prop :=
  ∀ type ∈ rtmType item.type,
    item.pos ≤ 16 ∧ 16 + type.headerSize ≤ min buflen (item.pos + item.length) ∧
      (¬ type.IsLink →
        AttrsClosed contents item.pos (min buflen (item.pos + item.length)) type.copied
          (16 + type.headerSize) (sub32 left 16))

def GoesOn : Prop :=
  ∀ type ∈ rtmType item.type, type.IsLink → (contents 16).toNat ≠ afBridge

def BufferClosed : Prop :=
  nlmsghdr.Closed contents 0 buflen (MessageClosed contents buflen) (GoesOn contents) 0 buflen

end

section Attributes

variable {contents : ℕ → UInt8} {start stop type data : ℕ}

theorem isSome_bind_some {α β : Type} (read : Option α) (f : α → β) :
    (read.bind fun value => some (f value)).isSome = read.isSome := by
  cases read with
  | none => rfl
  | some value => rfl

theorem bytes_isSome_iff {count : ℕ} (isRead : 0 < count) (after : start ≤ data) :
    (((total contents).within start stop).bytes data count).isSome ↔ data + count ≤ stop :=
      by
  rw [bytes_within isRead]
  split
  · rename_i inside
    simp [inside.2]
  · simp only [isSome_none, Bool.false_eq_true, false_iff]
    omega

theorem nlCopyAddr_isSome_iff (family : ℕ) (after : start ≤ data) :
    (nlCopyAddr ((total contents).within start stop) family data).isSome ↔
      data + SockaddrStorage.dataSize ≤ stop := by
  unfold nlCopyAddr
  rw [bind_eq_bind, isSome_bind_some]
  exact bytes_isSome_iff (by decide) after

theorem copy32_isSome_iff (after : start ≤ data) :
    (copy32 ((total contents).within start stop) data).isSome ↔ data + 4 ≤ stop := by
  unfold copy32
  rw [bind_eq_bind, isSome_bind_some]
  exact bytes_isSome_iff (by decide) after

theorem copyAddrAttr_isSome_iff (info : AddrInfo) (after : start ≤ data) (before : data ≤ stop) :
    (copyAddrAttr ((total contents).within start stop) type data info).isSome ↔
      data + RtmType.newAddr.copied type ≤ stop := by
  simp only [copyAddrAttr, RtmType.copied, bind_eq_bind]
  split
  · rw [isSome_bind_some]
    exact nlCopyAddr_isSome_iff _ after
  · simp [before]

theorem copyNeighAttr_isSome_iff (info : NeighInfo) (after : start ≤ data) (before : data ≤ stop) :
    (copyNeighAttr ((total contents).within start stop) type data info).isSome ↔
      data + RtmType.newNeigh.copied type ≤ stop := by
  simp only [copyNeighAttr, RtmType.copied, bind_eq_bind]
  split
  · rw [isSome_bind_some]
    exact nlCopyAddr_isSome_iff _ after
  split
  · rw [isSome_bind_some]
    exact bytes_isSome_iff (by decide) after
  · simp [before]

theorem copyRouteAttr_isSome_iff (info : RouteInfo) (after : start ≤ data) (before : data ≤ stop) :
    (copyRouteAttr ((total contents).within start stop) type data info).isSome ↔
      data + RtmType.newRoute.copied type ≤ stop := by
  simp only [copyRouteAttr, RtmType.copied, bind_eq_bind]
  by_cases isAddr : type = rtaDst ∨ type = rtaSrc ∨ type = rtaGateway
  · rw [if_pos isAddr]
    rcases isAddr with rfl | rfl | rfl
    · rw [if_pos rfl, isSome_bind_some]
      exact nlCopyAddr_isSome_iff _ after
    · rw [if_neg (by decide), if_pos rfl, isSome_bind_some]
      exact nlCopyAddr_isSome_iff _ after
    · rw [if_neg (by decide), if_neg (by decide), if_pos rfl, isSome_bind_some]
      exact nlCopyAddr_isSome_iff _ after
  · rw [if_neg isAddr, if_neg (by tauto), if_neg (by tauto), if_neg (by tauto)]
    by_cases isWord : type = rtaIif ∨ type = rtaOif ∨ type = rtaPriority
    · rw [if_pos isWord]
      rcases isWord with rfl | rfl | rfl
      · rw [if_pos rfl, isSome_bind_some]
        exact copy32_isSome_iff after
      · rw [if_neg (by decide), if_pos rfl, isSome_bind_some]
        exact copy32_isSome_iff after
      · rw [if_neg (by decide), if_neg (by decide), if_pos rfl, isSome_bind_some]
        exact copy32_isSome_iff after
    · rw [if_neg isWord, if_neg (by tauto), if_neg (by tauto), if_neg (by tauto)]
      simp [before]

variable {σ : Type} {copy : ℕ → ℕ → σ → Option σ} {copied : ℕ → ℕ} {size : ℕ}

theorem decodeAttrs_isSome_iff {rtah buflen : ℕ} (info : σ)
    (isCopy : ∀ type data info, start ≤ data → data ≤ stop →
      ((copy type data info).isSome ↔ data + copied type ≤ stop)) (rounded : stop ≤ rtah + buflen) :
    (decodeAttrs ((total contents).within start stop) copy rtah buflen info).isSome ↔
      AttrsClosed contents start stop copied rtah (sub32 buflen 16) := by
  constructor
  · apply ItemFormat.closed_of_walk_isSome (by decide)
    intro attr left info next goes after before fits isDone
    rcases map_eq_some_iff.mp isDone with ⟨copiedInfo, isCopied, isPair⟩
    cases isPair
    have isSome : (copy attr.type (attr.pos + 4) info).isSome := by
      rw [isCopied]
      rfl
    exact ⟨(isCopy _ _ _ (by omega) before).mp isSome, by simp⟩
  · intro closed
    apply ItemFormat.walk_isSome_of_closed (by decide) closed _ rounded
    intro attr left info after fits ok
    have isSome := (isCopy attr.type (attr.pos + 4) info (by omega) (by omega)).mpr ok
    rcases isSome_iff_exists.mp isSome with ⟨copiedInfo, isCopied⟩
    exact ⟨copiedInfo, true, by rw [isCopied]; rfl, fun _ => trivial⟩

theorem header_isSome_iff {α : Type} (isRead : 0 < size) (decode : List UInt8 → Option α) :
    ((((total contents).within start stop).bytes 16 size).bind decode).isSome ↔
      start ≤ 16 ∧ 16 + size ≤ stop ∧ (decode (slice contents 16 size)).isSome := by
  rw [bytes_within isRead]
  split
  · rename_i inside
    rw [bind_some]
    exact ⟨fun isSome => ⟨inside.1, inside.2, isSome⟩, fun decoded => decoded.2.2⟩
  · rename_i outside
    simp only [bind_none, isSome_none, Bool.false_eq_true, false_iff]
    exact fun decoded => outside ⟨decoded.1, decoded.2.1⟩

theorem decodeRtmLink_isSome_iff :
    (decodeRtmLink ((total contents).within start stop)).isSome ↔
      start ≤ 16 ∧ 16 + RtmType.newLink.headerSize ≤ stop := by
  refine (header_isSome_iff (by decide) _).trans (and_congr_right fun _ => ?_)
  exact and_iff_left rfl

variable {buflen : ℕ} (rounded : start ≤ 16 → stop ≤ 16 + buflen)

include rounded

/-- A decoder that copies its header, with a part after it that starts from the header's bytes. -/
theorem attrs_isSome_iff (isRead : 0 < size) (info : List UInt8 → σ)
    (isCopy : ∀ type data info, start ≤ data → data ≤ stop →
      ((copy type data info).isSome ↔ data + copied type ≤ stop)) :
    ((((total contents).within start stop).bytes 16 size).bind fun raw =>
        decodeAttrs ((total contents).within start stop) copy (16 + size) buflen
          (info raw)).isSome ↔
      start ≤ 16 ∧ 16 + size ≤ stop ∧
        AttrsClosed contents start stop copied (16 + size) (sub32 buflen 16) := by
  refine (header_isSome_iff isRead _).trans
    (and_congr_right fun within => and_congr_right fun _ => ?_)
  apply decodeAttrs_isSome_iff _ isCopy
  have enough := rounded within
  omega

theorem decodeRtmAddr_isSome_iff (info : AddrInfo) :
    (decodeRtmAddr ((total contents).within start stop) buflen info).isSome ↔
      start ≤ 16 ∧ 16 + RtmType.newAddr.headerSize ≤ stop ∧
        AttrsClosed contents start stop RtmType.newAddr.copied (16 + RtmType.newAddr.headerSize)
          (sub32 buflen 16) :=
  attrs_isSome_iff rounded (by decide) _ fun _ _ info => copyAddrAttr_isSome_iff info

theorem decodeRtmNeigh_isSome_iff (info : NeighInfo) :
    (decodeRtmNeigh ((total contents).within start stop) buflen info).isSome ↔
      start ≤ 16 ∧ 16 + RtmType.newNeigh.headerSize ≤ stop ∧
        AttrsClosed contents start stop RtmType.newNeigh.copied (16 + RtmType.newNeigh.headerSize)
          (sub32 buflen 16) :=
  attrs_isSome_iff rounded (by decide) _ fun _ _ info => copyNeighAttr_isSome_iff info

theorem decodeRtmRoute_isSome_iff (info : RouteInfo) :
    (decodeRtmRoute ((total contents).within start stop) buflen info).isSome ↔
      start ≤ 16 ∧ 16 + RtmType.newRoute.headerSize ≤ stop ∧
        AttrsClosed contents start stop RtmType.newRoute.copied (16 + RtmType.newRoute.headerSize)
          (sub32 buflen 16) :=
  attrs_isSome_iff rounded (by decide) _ fun _ _ info => copyRouteAttr_isSome_iff info

end Attributes

section Messages

variable {contents : ℕ → UInt8} {buflen left : ℕ} {item : Item} {env : Item → NlCalls}
  {state next : NlState} {goes : Bool}

theorem confined_message :
    (NlView.confined contents buflen).message item =
      (total contents).within item.pos (min buflen (item.pos + item.length)) := by
  simp only [NlView.confined, within_within, Nat.zero_max]

theorem decodeMessage_isSome_iff (fits : item.length ≤ left) :
    (decodeMessage env (NlView.confined contents buflen) item left state).isSome ↔
      MessageClosed contents buflen item left := by
  have rounded : item.pos ≤ 16 → min buflen (item.pos + item.length) ≤ 16 + left := by omega
  unfold decodeMessage MessageClosed
  rw [confined_message]
  cases rtmType item.type with
  | none => simp
  | some type =>
      cases type with
      | newLink =>
          simp [isSome_bind_some, decodeRtmLink_isSome_iff, RtmType.IsLink]
      | delLink =>
          simp [isSome_bind_some, decodeRtmLink_isSome_iff, RtmType.IsLink]
          exact fun _ => Iff.rfl
      | newAddr =>
          simp [isSome_bind_some, decodeRtmAddr_isSome_iff rounded, RtmType.IsLink]
      | newRoute =>
          simp [isSome_bind_some, decodeRtmRoute_isSome_iff rounded, RtmType.IsLink]
      | delRoute =>
          simp [isSome_bind_some, decodeRtmRoute_isSome_iff rounded, RtmType.IsLink]
          exact fun _ => Iff.rfl
      | newNeigh =>
          simp [isSome_bind_some, decodeRtmNeigh_isSome_iff rounded, RtmType.IsLink]
      | delNeigh =>
          simp [isSome_bind_some, decodeRtmNeigh_isSome_iff rounded, RtmType.IsLink]
          exact fun _ => Iff.rfl

section Handlers

variable (calls : NlCalls) (mask : BitVec 32)

theorem handleNewLink_goesOn (link : Ifinfomsg) :
    (handleNewLink .succeed mask link).goesOn = true ↔ link.ifiFamily ≠ afBridge := by
  unfold handleNewLink
  split
  · rename_i isBridge
    simp [isBridge]
  · rename_i notBridge
    simp [NlCalls.succeed, apply_ite NlHandled.goesOn, notBridge]

theorem handleDelLink_goesOn (link : Ifinfomsg) :
    (handleDelLink .succeed mask link).goesOn = true ↔ link.ifiFamily ≠ afBridge := by
  unfold handleDelLink
  split
  · rename_i isBridge
    simp [isBridge]
  · rename_i notBridge
    simp [NlCalls.succeed, notBridge]

theorem handleNewAddr_goesOn (info : AddrInfo) :
    (handleNewAddr .succeed mask info).goesOn = true := by
  simp [handleNewAddr, NlCalls.succeed]

theorem handleNewRoute_goesOn (route : RouteInfo) :
    (handleNewRoute .succeed mask route).goesOn = true := by
  simp [handleNewRoute, newUniroute, newV6Route, NlCalls.succeed, apply_ite NlHandled.goesOn]

theorem handleDelRoute_goesOn (route : RouteInfo) :
    (handleDelRoute .succeed mask route).goesOn = true := by
  simp [handleDelRoute, delUniroute, delV6Route, NlCalls.succeed, apply_ite NlHandled.goesOn]

theorem handleNewNeigh_goesOn (neigh : NeighInfo) :
    (handleNewNeigh .succeed mask neigh).goesOn = true := by
  simp [handleNewNeigh, NlCalls.succeed, apply_ite NlHandled.goesOn]

theorem handleDelNeigh_goesOn (neigh : NeighInfo) :
    (handleDelNeigh .succeed mask neigh).goesOn = true := by
  simp [handleDelNeigh, NlCalls.succeed]

theorem handleLink_stops {link : Ifinfomsg} (isBridge : link.ifiFamily = afBridge) :
    (handleNewLink calls mask link).goesOn = false ∧
      (handleDelLink calls mask link).goesOn = false := by
  simp [handleNewLink, handleDelLink, isBridge]

end Handlers

theorem decodeRtmLink_family {mem : Memory} {link : Ifinfomsg} {start stop : ℕ}
    (isMem : mem = (total contents).within start stop)
    (isLink : decodeRtmLink mem = some link) : link.ifiFamily = (contents 16).toNat := by
  subst isMem
  unfold decodeRtmLink at isLink
  rw [bytes_within (by decide)] at isLink
  split at isLink
  · cases isLink
    simp [Ifinfomsg.ofBytes, field, slice, littleEndian]
  · cases isLink

theorem goesOn_of_decodeMessage
    (isDone : decodeMessage env (NlView.confined contents buflen) item left state =
      some (next, goes)) (going : goes = true) : GoesOn contents item := by
  subst going
  intro type isType isLink isBridge
  unfold decodeMessage at isDone
  rw [confined_message, isType] at isDone
  rcases isLink with rfl | rfl
  · rcases bind_eq_some_iff.mp isDone with ⟨link, decoded, isPair⟩
    have isFamily := decodeRtmLink_family rfl decoded
    have stops := (handleLink_stops (env item) state.ipv4AddrMask (isFamily.trans isBridge)).1
    have goesOn : (handleNewLink (env item) state.ipv4AddrMask link).goesOn = true :=
      congrArg Prod.snd (some.inj isPair)
    rw [goesOn] at stops
    cases stops
  · rcases bind_eq_some_iff.mp isDone with ⟨link, decoded, isPair⟩
    have isFamily := decodeRtmLink_family rfl decoded
    have stops := (handleLink_stops (env item) state.ipv4AddrMask (isFamily.trans isBridge)).2
    have goesOn : (handleDelLink (env item) state.ipv4AddrMask link).goesOn = true :=
      congrArg Prod.snd (some.inj isPair)
    rw [goesOn] at stops
    cases stops

theorem decodeMessage_goesOn
    (isDone : decodeMessage (fun _ => .succeed) (NlView.confined contents buflen) item left state =
      some (next, goes)) (goesOn : GoesOn contents item) : goes = true := by
  unfold decodeMessage at isDone
  rw [confined_message] at isDone
  cases isType : rtmType item.type with
  | none =>
      rw [isType] at isDone
      cases isDone
      rfl
  | some type =>
      rw [isType] at isDone
      cases type with
      | newLink =>
          rcases bind_eq_some_iff.mp isDone with ⟨link, decoded, isPair⟩
          cases isPair
          apply (handleNewLink_goesOn _ link).mpr
          rw [decodeRtmLink_family rfl decoded]
          exact goesOn _ isType (.inl rfl)
      | delLink =>
          rcases bind_eq_some_iff.mp isDone with ⟨link, decoded, isPair⟩
          cases isPair
          apply (handleDelLink_goesOn _ link).mpr
          rw [decodeRtmLink_family rfl decoded]
          exact goesOn _ isType (.inr rfl)
      | newAddr =>
          rcases bind_eq_some_iff.mp isDone with ⟨addr, -, isPair⟩
          cases isPair
          exact handleNewAddr_goesOn _ addr
      | newRoute =>
          rcases bind_eq_some_iff.mp isDone with ⟨route, -, isPair⟩
          cases isPair
          exact handleNewRoute_goesOn _ route
      | delRoute =>
          rcases bind_eq_some_iff.mp isDone with ⟨route, -, isPair⟩
          cases isPair
          exact handleDelRoute_goesOn _ route
      | newNeigh =>
          rcases bind_eq_some_iff.mp isDone with ⟨neigh, -, isPair⟩
          cases isPair
          exact handleNewNeigh_goesOn _ neigh
      | delNeigh =>
          rcases bind_eq_some_iff.mp isDone with ⟨neigh, -, isPair⟩
          cases isPair
          exact handleDelNeigh_goesOn _ neigh

end Messages

/-- Whatever fails outside of it, `ipa_nl_decode_nlmsg` reads nothing but the buffer and the message
that it decodes if and only if every message that it reaches is closed. -/
theorem decodeNlmsg_inside_iff (contents : ℕ → UInt8) (buflen : ℕ) :
    (∀ env, (decodeNlmsg env (NlView.confined contents buflen) buflen).isSome) ↔
      BufferClosed contents buflen := by
  have isHeader : 4 ≤ nlmsghdr.header ∧ 0 < nlmsghdr.lengthSize ∧
      nlmsghdr.lengthSize ≤ nlmsghdr.typeOffset + 2 := by decide
  constructor
  · intro inside
    have isSome := inside fun _ => .succeed
    rw [decodeNlmsg, Option.isSome_map] at isSome
    refine ItemFormat.closed_of_walk_isSome isHeader ?_ isSome
    intro item left state next goes after before fits isDone
    have isSome : (decodeMessage (fun _ => .succeed) (NlView.confined contents buflen) item left
        state).isSome := by
      rw [isDone]
      rfl
    have decoded := (decodeMessage_isSome_iff fits).mp isSome
    exact ⟨decoded, decodeMessage_goesOn isDone, goesOn_of_decodeMessage isDone⟩
  · intro closed env
    rw [decodeNlmsg, Option.isSome_map]
    refine ItemFormat.walk_isSome_of_closed isHeader closed ?_ (by omega)
    intro item left state after fits ok
    have isSome : (decodeMessage env (NlView.confined contents buflen) item left state).isSome :=
      (decodeMessage_isSome_iff fits).mpr ok
    rcases Option.isSome_iff_exists.mp isSome with ⟨⟨next, goes⟩, isDone⟩
    exact ⟨next, goes, isDone, goesOn_of_decodeMessage isDone⟩

/-- `RTM_NEWADDR` for the interface 7, without an attribute. -/
def bareNewAddr : List UInt8 :=
  [24, 0, 0, 0, 20, 0, 0, 0, 1, 0, 0, 0, 0, 0, 0, 0, 2, 24, 0, 0, 7, 0, 0, 0]

/-- `RTM_NEWADDR` for the interface 7, with its address. -/
def newAddrMessage : List UInt8 :=
  [32, 0, 0, 0, 20, 0, 0, 0, 1, 0, 0, 0, 0, 0, 0, 0, 2, 24, 0, 0, 7, 0, 0, 0,
    8, 0, 1, 0, 192, 168, 0, 1]

/-- Of the message without an attribute the header of one is read behind the buffer, and of the
other one as many bytes are copied as an address of any family takes. -/
theorem not_decodeNlmsg_inside :
    ¬ (decodeNlmsg (fun _ => .succeed) (NlView.confined (bareNewAddr.getD · 0) 24) 24).isSome ∧
      ¬ (decodeNlmsg (fun _ => .succeed)
        (NlView.confined (newAddrMessage.getD · 0) 32) 32).isSome := by
  decide +kernel

/-- A message on a link is decoded from its own bytes. -/
example : decodeNlmsg (fun _ => .succeed)
    (NlView.confined ([32, 0, 0, 0, 16, 0, 0, 0, 1, 0, 0, 0, 0, 0, 0, 0,
      0, 0, 1, 0, 7, 0, 0, 0, 1, 0, 1, 0, 1, 0, 0, 0].getD · 0) 32) 32 =
    some [.linkUp 7] := by
  decide +kernel

end HtcPme.Ipacm
