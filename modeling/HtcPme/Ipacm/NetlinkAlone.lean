import HtcPme.Ipacm.NetlinkBatch

/-!
# Which messages may be received together

A later message marks its event with an interface or a route that the first message does not know.
-/

namespace HtcPme.Ipacm

open NlMessage Option

def leastLength (type : ℕ) : ℕ :=
  16 + ((rtmType type).map RtmType.headerSize).getD 0

abbrev markIndex : BitVec 32 := 0x010003fe

def NlEvent.IsMarked : NlEvent → Bool
  | .linkUp index | .linkDown index | .usbLinkUp index => index = markIndex
  | .addrAdd data => data.ifIndex = markIndex
  | .newNeigh data | .delNeigh data | .bridgeLinkUp data => data.ifIndex = markIndex
  | .routeAdd _ | .routeDel _ => true

section Unmarked

variable {contents : ℕ → UInt8} {buflen left : ℕ} {item : Item} {state next : NlState} {goes : Bool}
  {calls : NlCalls} {mask : BitVec 32} {event : NlEvent}

theorem mem_andThen_posts {first : NlHandled} {second : BitVec 32 → NlHandled}
    (isPosted : event ∈ (first.andThen second).posts) :
    event ∈ first.posts ∨ event ∈ (second first.ipv4AddrMask).posts := by
  unfold NlHandled.andThen at isPosted
  split at isPosted
  · exact List.mem_append.mp isPosted
  · exact .inl isPosted

theorem handleLink_posts {link : Ifinfomsg} (notMarked : link.ifiIndex ≠ markIndex)
    (isPosted : event ∈ (handleNewLink calls mask link).posts ∨
      event ∈ (handleDelLink calls mask link).posts) : event.IsMarked = false := by
  have unmarked (posted : event = .linkUp link.ifiIndex ∨ event = .linkDown link.ifiIndex ∨
      event = .usbLinkUp link.ifiIndex) : event.IsMarked = false := by
    rcases posted with rfl | rfl | rfl
    all_goals exact decide_eq_false notMarked
  apply unmarked
  rcases isPosted with isPosted | isPosted
  · simp only [handleNewLink] at isPosted
    split at isPosted
    · exact absurd isPosted List.not_mem_nil
    rcases mem_andThen_posts isPosted with isPosted | isPosted
    all_goals repeat' split at isPosted
    all_goals simp at isPosted
    all_goals simp [isPosted]
  · simp only [handleDelLink] at isPosted
    repeat' split at isPosted
    all_goals simp at isPosted
    all_goals simp [isPosted]

theorem decodeRtmAddr_metainfo {info info' : AddrInfo}
    (isDecoded : decodeRtmAddr (.total contents) buflen info = some info') :
    info'.metainfo = .ofBytes (slice contents 16 8) := by
  rw [decodeRtmAddr, Memory.bytes_total, bind_eq_bind, bind_some] at isDecoded
  refine ItemFormat.walk_invariant (fun info => info.metainfo = .ofBytes (slice contents 16 8)) ?_
    isDecoded rfl
  intro attr left info next goes isMeta isDone
  rcases map_eq_some_iff.mp isDone with ⟨copied, isCopied, isPair⟩
  cases isPair
  simp only [copyAddrAttr, nlCopyAddr, Memory.bytes_total, bind_eq_bind,
    bind_some] at isCopied
  split at isCopied
  · cases isCopied
    exact isMeta
  · cases isCopied
    exact isMeta

theorem decodeRtmNeigh_metainfo {info info' : NeighInfo}
    (isDecoded : decodeRtmNeigh (.total contents) buflen info = some info') :
    info'.metainfo = .ofBytes (slice contents 16 12) := by
  rw [decodeRtmNeigh, Memory.bytes_total, bind_eq_bind, bind_some] at isDecoded
  refine ItemFormat.walk_invariant (fun info => info.metainfo = .ofBytes (slice contents 16 12)) ?_
    isDecoded rfl
  intro attr left info next goes isMeta isDone
  rcases map_eq_some_iff.mp isDone with ⟨copied, isCopied, isPair⟩
  cases isPair
  simp only [copyNeighAttr, nlCopyAddr, Memory.bytes_total, bind_eq_bind,
    bind_some] at isCopied
  split at isCopied
  · cases isCopied
    exact isMeta
  split at isCopied
  · cases isCopied
    exact isMeta
  · cases isCopied
    exact isMeta

variable {info info' : RouteInfo}

theorem decodeRtmRoute_metainfo
    (isDecoded : decodeRtmRoute (.total contents) buflen info = some info') :
    info'.metainfo = .ofBytes (slice contents 16 12) := by
  rw [decodeRtmRoute, Memory.bytes_total, bind_eq_bind, bind_some] at isDecoded
  refine ItemFormat.walk_invariant (fun info => info.metainfo = .ofBytes (slice contents 16 12)) ?_
    isDecoded rfl
  intro attr left info next goes isMeta isDone
  rcases map_eq_some_iff.mp isDone with ⟨copied, isCopied, isPair⟩
  cases isPair
  simp only [copyRouteAttr, nlCopyAddr, copy32, Memory.bytes_total, bind_eq_bind,
    bind_some] at isCopied
  repeat' split at isCopied
  all_goals
    cases isCopied
    exact isMeta

theorem handleRoute_posts {route : RouteInfo} (notUnicast : route.metainfo.rtmType ≠ rtnUnicast) :
    (handleNewRoute calls mask route).posts = [] ∧ (handleDelRoute calls mask route).posts =
    [] := by
  have notUniroute : ¬ route.metainfo.IsUniroute := fun isRoute => notUnicast isRoute.1
  have notV6Route : ¬ route.metainfo.IsV6Route := fun isRoute => notUnicast isRoute.2.1
  constructor
  · simp only [handleNewRoute, newUniroute, newV6Route, notUniroute, notV6Route, if_false]
    rfl
  · simp only [handleDelRoute, delUniroute, delV6Route, notUniroute, notV6Route, if_false]
    rfl

theorem decodeRtmRoute_notUnicast (noType : contents 23 = 0)
    (isDecoded : decodeRtmRoute (.total contents) buflen info = some info') :
    info'.metainfo.rtmType ≠ rtnUnicast := by
  rw [decodeRtmRoute_metainfo isDecoded]
  simp [Rtmsg.ofBytes, field, slice, littleEndian, noType]

section Bytes

variable (noIndex : contents 22 = 0) (noType : contents 23 = 0)

include noIndex noType

theorem field32_unmarked {count : ℕ} (within : 8 ≤ count) :
    field32 (slice contents 16 count) 4 ≠ markIndex := by
  intro isMark
  rw [field32_slice within] at isMark
  have isLow : littleEndian (slice contents 20 4) < 2 ^ 16 := by
    have first := (contents 20).toNat_lt
    have second := (contents 21).toNat_lt
    simp only [slice, littleEndian, Nat.reduceAdd, noIndex, noType, UInt8.toNat_zero]
    omega
  have isNat := congrArg BitVec.toNat isMark
  rw [BitVec.toNat_ofNat, Nat.mod_eq_of_lt (isLow.trans (by decide))] at isNat
  rw [isNat] at isLow
  exact absurd isLow (by decide)

theorem decodeRtmLink_unmarked {link : Ifinfomsg}
    (isDecoded : decodeRtmLink (.total contents) = some link) : link.ifiIndex ≠ markIndex := by
  rw [decodeRtmLink, Memory.bytes_total, bind_eq_bind, bind_some] at isDecoded
  cases isDecoded
  exact field32_unmarked noIndex noType (by decide)

theorem decodeRtmAddr_unmarked {info info' : AddrInfo}
    (isDecoded : decodeRtmAddr (.total contents) buflen info = some info') :
    info'.metainfo.ifaIndex ≠ markIndex := by
  rw [decodeRtmAddr_metainfo isDecoded]
  exact field32_unmarked noIndex noType (by decide)

theorem decodeRtmNeigh_unmarked {info info' : NeighInfo}
    (isDecoded : decodeRtmNeigh (.total contents) buflen info = some info') :
    (neighData info').ifIndex ≠ markIndex := by
  have isIndex : (neighData info').ifIndex = info'.metainfo.ndmIfindex := by
    unfold neighData
    split
    · rfl
    split
    · rfl
    · rfl
  rw [isIndex, decodeRtmNeigh_metainfo isDecoded]
  exact field32_unmarked noIndex noType (by decide)

theorem decodeMessage_unmarked (unmarked : ∀ event ∈ state.posts, event.IsMarked = false)
    (isDone : decodeMessage (fun _ => .succeed) (.total contents) item buflen state =
      some (next, goes)) :
    ∀ event ∈ next.posts, event.IsMarked = false := by
  have handled (state' : NlState) (done : NlHandled) (isState : state'.posts = state.posts)
      (posts : ∀ event ∈ done.posts, event.IsMarked = false)
      (isNext : some (state'.handled done) = some (next, goes)) :
      ∀ event ∈ next.posts, event.IsMarked = false := by
    cases isNext
    simp only [isState]
    exact List.forall_mem_append.mpr ⟨unmarked, posts⟩
  have posted (event : NlEvent) (isUnmarked : event.IsMarked = false) :
      ∀ posted ∈ [event], posted.IsMarked = false :=
    List.forall_mem_singleton.mpr isUnmarked
  unfold decodeMessage at isDone
  cases isType : rtmType item.type with
  | none =>
      rw [isType] at isDone
      cases isDone
      exact unmarked
  | some type =>
      rw [isType] at isDone
      cases type with
      | newLink =>
          rcases bind_eq_some_iff.mp isDone with ⟨link, isDecoded, isNext⟩
          exact handled _ _ rfl (fun event isPosted => handleLink_posts
            (decodeRtmLink_unmarked noIndex noType isDecoded) (.inl isPosted)) isNext
      | delLink =>
          rcases bind_eq_some_iff.mp isDone with ⟨link, isDecoded, isNext⟩
          exact handled _ _ rfl (fun event isPosted => handleLink_posts
            (decodeRtmLink_unmarked noIndex noType isDecoded) (.inr isPosted)) isNext
      | newAddr =>
          rcases bind_eq_some_iff.mp isDone with ⟨addr, isDecoded, isNext⟩
          have isUnmarked := decodeRtmAddr_unmarked noIndex noType isDecoded
          refine handled _ _ ?_ (posted _ ?_) isNext
          · rfl
          · split
            · exact decide_eq_false isUnmarked
            · exact decide_eq_false isUnmarked
      | newRoute =>
          rcases bind_eq_some_iff.mp isDone with ⟨route, isDecoded, isNext⟩
          refine handled _ _ ?_ ?_ isNext
          · rfl
          · rw [(handleRoute_posts (decodeRtmRoute_notUnicast noType isDecoded)).1]
            exact List.forall_mem_nil _
      | delRoute =>
          rcases bind_eq_some_iff.mp isDone with ⟨route, isDecoded, isNext⟩
          refine handled _ _ ?_ ?_ isNext
          · rfl
          · rw [(handleRoute_posts (decodeRtmRoute_notUnicast noType isDecoded)).2]
            exact List.forall_mem_nil _
      | newNeigh =>
          rcases bind_eq_some_iff.mp isDone with ⟨neigh, isDecoded, isNext⟩
          have isUnmarked := decodeRtmNeigh_unmarked noIndex noType isDecoded
          refine handled _ (handleNewNeigh .succeed state.ipv4AddrMask neigh) ?_ ?_ isNext
          · rfl
          · simp only [handleNewNeigh, NlCalls.succeed, Bool.and_self, if_true]
            split
            · exact posted _ (decide_eq_false isUnmarked)
            · exact posted _ (decide_eq_false isUnmarked)
      | delNeigh =>
          rcases bind_eq_some_iff.mp isDone with ⟨neigh, isDecoded, isNext⟩
          have isUnmarked := decodeRtmNeigh_unmarked noIndex noType isDecoded
          refine handled _ (handleDelNeigh .succeed state.ipv4AddrMask neigh) ?_ ?_ isNext
          · rfl
          · exact posted _ (decide_eq_false isUnmarked)

end Bytes

end Unmarked

def plainMessage (type : ℕ) : NlMessage :=
  ⟨type, List.replicate 10 0, List.replicate (((rtmType type).map RtmType.headerSize).getD 0) 0, []⟩

def markedMessage (type : ℕ) : NlMessage :=
  match rtmType type with
  | none => plainMessage type
  | some rtm => ⟨type, List.replicate 10 0,
      [2, 0, 0, 0, 254, 3, 0, 1] ++ List.replicate (rtm.headerSize - 8) 0, []⟩

section Messages

variable {type : ℕ} (isWord : type < 2 ^ 16)

theorem wellFormed_of_header {message : NlMessage} (isType : message.type < 2 ^ 16)
    (isRest : message.rest.length = 10) (noPad : message.pad = [])
    (isBody : message.body.length = ((rtmType message.type).map RtmType.headerSize).getD 0) :
    message.WellFormed ∧ message.encode.length = leastLength message.type := by
  have isLength : message.length = leastLength message.type := by
    rw [length, isBody, leastLength]
  have isAligned : message.length % 4 = 0 := by
    rw [isLength, leastLength]
    cases rtmType message.type with
    | none => rfl
    | some rtm => cases rtm <;> rfl
  have isPadded : message.length + message.pad.length = alignUp message.length := by
    rw [noPad, alignUp_of_aligned isAligned]
    rfl
  have wellFormed : message.WellFormed := by
    refine ⟨isType, isRest, isPadded, ?_, ?_⟩
    · intro rtm isRtm
      rw [isBody, mem_def.mp isRtm]
      exact le_rfl
    · intro rtm isRtm _
      rw [mem_def.mp isRtm] at isBody
      refine ⟨message.body, [], isBody, ?_, List.forall_mem_nil _⟩
      rw [noPad]
      rfl
  refine ⟨wellFormed, ?_⟩
  rw [length_encode wellFormed, alignUp_of_aligned isAligned, isLength]

theorem markedMessage_type (type : ℕ) : (markedMessage type).type = type := by
  unfold markedMessage
  split
  · rfl
  · rfl

include isWord

theorem plainMessage_wellFormed :
    (plainMessage type).WellFormed ∧ (plainMessage type).encode.length = leastLength type :=
  wellFormed_of_header isWord rfl rfl (List.length_replicate ..)

theorem markedMessage_wellFormed :
    (markedMessage type).WellFormed ∧ (markedMessage type).encode.length = leastLength type := by
  cases isRtm : rtmType type with
  | none =>
      rw [markedMessage, isRtm]
      exact plainMessage_wellFormed isWord
  | some rtm =>
      rw [markedMessage, isRtm]
      apply wellFormed_of_header isWord
      · rfl
      · rfl
      · rw [isRtm]
        cases rtm <;> rfl

end Messages

theorem decodeReceived_marked {type : ℕ} (isDecoded : rtmType type ≠ none) :
    ∃ posts, decodeReceived [markedMessage type] (fun _ => 0) = some posts ∧
      ∃ event ∈ posts, event.IsMarked = true := by
  have isAny : (decodeReceived [markedMessage type] fun _ => 0).any (·.any NlEvent.IsMarked) := by
    unfold rtmType at isDecoded
    split at isDecoded
    · decide +kernel
    · decide +kernel
    · decide +kernel
    · decide +kernel
    · decide +kernel
    · decide +kernel
    · decide +kernel
    · exact absurd rfl isDecoded
  rcases any_eq_true_iff_get .. |>.mp isAny with ⟨isSome, isAny⟩
  exact ⟨_, (some_get isSome).symm, List.any_eq_true.mp isAny⟩

variable {messages : List NlMessage} {after : ℕ → UInt8}

theorem mem_of_mapM {message : NlMessage} {alone : List (List NlEvent)}
    (isAlone : messages.mapM (fun message => decodeReceived [message] after) = some alone)
    (isIn : message ∈ messages) :
    ∃ posts ∈ alone, decodeReceived [message] after = some posts := by
  induction messages generalizing alone with
  | nil => exact absurd isIn List.not_mem_nil
  | cons first rest ih =>
      rw [List.mapM_cons] at isAlone
      rcases bind_eq_some_iff.mp isAlone with ⟨posts, isFirst, isAlone⟩
      rcases bind_eq_some_iff.mp isAlone with ⟨others, isRest, isAlone⟩
      cases isAlone
      rcases List.mem_cons.mp isIn with rfl | isIn
      · exact ⟨posts, List.mem_cons_self, isFirst⟩
      · rcases ih isRest isIn with ⟨posts', isPosts, isDecoded⟩
        exact ⟨posts', List.mem_cons_of_mem _ isPosts, isDecoded⟩

theorem decodeReceived_unmarked
    {posts : List NlEvent} (noIndex : bytesThen (messages.flatMap encode) after 22 = 0)
    (noType : bytesThen (messages.flatMap encode) after 23 = 0)
    (isDecoded : decodeReceived messages after = some posts) :
    ∀ event ∈ posts, event.IsMarked = false := by
  rcases map_eq_some_iff.mp isDecoded with ⟨last, isWalk, rfl⟩
  refine ItemFormat.walk_invariant (fun state => ∀ event ∈ state.posts, event.IsMarked = false)
    ?_ isWalk (List.forall_mem_nil _)
  intro item left state next goes unmarked isDone
  exact decodeMessage_unmarked noIndex noType unmarked isDone

section PlainMarked

variable {first : ℕ} {later : List ℕ} (areTypes : ∀ type ∈ first :: later, type < 2 ^ 16)

theorem map_type_plain_marked (first : ℕ) (later : List ℕ) :
    (plainMessage first :: later.map markedMessage).map type = first :: later := by
  have areSame : type ∘ markedMessage = id := funext markedMessage_type
  rw [List.map_cons, List.map_map, areSame, List.map_id]
  rfl

include areTypes

theorem wellFormed_plain_marked :
    ∀ message ∈ plainMessage first :: later.map markedMessage, message.WellFormed := by
  rcases List.forall_mem_cons.mp areTypes with ⟨isFirst, areLater⟩
  intro message isIn
  rcases List.mem_cons.mp isIn with rfl | isIn
  · exact (plainMessage_wellFormed isFirst).1
  · rcases List.mem_map.mp isIn with ⟨type, isLater, rfl⟩
    exact (markedMessage_wellFormed (areLater type isLater)).1

theorem length_plain_marked :
    ((plainMessage first :: later.map markedMessage).flatMap encode).length =
      ((first :: later).map leastLength).sum := by
  rcases List.forall_mem_cons.mp areTypes with ⟨isFirst, areLater⟩
  have areLong : (later.map markedMessage).map (List.length ∘ encode) =
      later.map leastLength := by
    rw [List.map_map]
    apply List.map_congr_left
    intro type isLater
    exact (markedMessage_wellFormed (areLater type isLater)).2
  rw [List.flatMap_cons, List.length_append, (plainMessage_wellFormed isFirst).2,
    List.length_flatMap, List.map_cons, List.sum_cons, ← areLong]
  rfl

end PlainMarked

theorem bytes_markedMessage (type : ℕ) (rest : List UInt8) (after : ℕ → UInt8) {i : ℕ}
    (isByte : i = 6 ∨ i = 7) : bytesThen ((markedMessage type).encode ++ rest) after i = 0 := by
  have isRest : (markedMessage type).rest = List.replicate 10 0 := by
    unfold markedMessage
    split
    · rfl
    · rfl
  rcases isByte with rfl | rfl
  · simp [bytesThen, encode, isRest, leBytes, List.replicate]
  · simp [bytesThen, encode, isRest, leBytes, List.replicate]

theorem bytes_plain_marked (type : ℕ) (types : List ℕ) {i : ℕ} (isByte : i = 22 ∨ i = 23) :
    bytesThen ((plainMessage type :: types.map markedMessage).flatMap encode)
      (fun _ => 0) i = 0 := by
  rw [List.flatMap_cons]
  cases isRtm : rtmType type with
  | some rtm =>
      have isEncode : (plainMessage type).encode = leBytes 4 (16 + rtm.headerSize) ++
          leBytes 2 type ++ List.replicate 10 0 ++ List.replicate rtm.headerSize 0 := by
        simp [encode, length, plainMessage, isRtm]
      rw [isEncode]
      rcases isByte with rfl | rfl
      · cases rtm <;> rfl
      · cases rtm <;> rfl
  | none =>
      have isLength : (plainMessage type).encode.length = 16 := by
        simp [encode, plainMessage, isRtm]
      have isFlag : ∃ j, i = (plainMessage type).encode.length + j ∧ (j = 6 ∨ j = 7) :=
        ⟨i - 16, by omega, by omega⟩
      rcases isFlag with ⟨j, rfl, isFlag⟩
      rw [bytesThen_append]
      cases types with
      | nil => rfl
      | cons next rest => exact bytes_markedMessage next _ _ isFlag

/-- Messages of these types that fit into the buffer are always decoded as if each had been received
alone if and only if no type after the first is one that is decoded. -/
theorem decodedAsAlone_iff (types : List ℕ) (areTypes : ∀ type ∈ types, type < 2 ^ 16)
    (fit : (types.map leastLength).sum ≤ ipaNlMsgMaxLen) :
    (∀ messages after, messages.map NlMessage.type = types →
      (∀ message ∈ messages, message.WellFormed) →
      (messages.flatMap NlMessage.encode).length ≤ ipaNlMsgMaxLen →
      DecodedAsAlone messages after) ↔
    ∀ type ∈ types.tail, rtmType type = none := by
  constructor
  · intro asAlone type isLater
    by_contra isDecoded
    cases types with
    | nil => exact List.not_mem_nil isLater
    | cons first later =>
        rcases asAlone (plainMessage first :: later.map markedMessage) (fun _ => 0)
          (map_type_plain_marked first later) (wellFormed_plain_marked areTypes)
          ((length_plain_marked areTypes).trans_le fit) with ⟨alone, isAlone, isBatch⟩
        have isMarked : markedMessage type ∈ plainMessage first :: later.map markedMessage :=
          List.mem_cons_of_mem _ (List.mem_map_of_mem isLater)
        rcases mem_of_mapM isAlone isMarked with ⟨posts, isIn, isDecoded'⟩
        rcases decodeReceived_marked isDecoded with ⟨posts', isDecoded'', event, isPosted, marked⟩
        cases isDecoded'.symm.trans isDecoded''
        have unmarked := decodeReceived_unmarked (bytes_plain_marked first later (.inl rfl))
          (bytes_plain_marked first later (.inr rfl)) isBatch event
          (List.mem_flatten_of_mem isIn isPosted)
        exact Bool.false_ne_true (unmarked.symm.trans marked)
  · rintro ignored messages after rfl wellFormed fits
    apply decodedAsAlone_of_ignored messages wellFormed _ fits
    intro message isIn
    apply ignored
    rw [← List.map_tail]
    exact List.mem_map_of_mem isIn

theorem decodedAsAlone_oneLink :
    (∀ type ∈ [16, 3], type < 2 ^ 16) ∧ ([16, 3].map leastLength).sum ≤ ipaNlMsgMaxLen ∧
      ((∀ messages after, messages.map NlMessage.type = [16, 3] →
        (∀ message ∈ messages, message.WellFormed) →
        (messages.flatMap NlMessage.encode).length ≤ ipaNlMsgMaxLen →
        DecodedAsAlone messages after) ↔
      ∀ type ∈ [16, 3].tail, rtmType type = none) :=
  ⟨by decide, by decide, decodedAsAlone_iff [16, 3] (by decide) (by decide)⟩

/-- The link of the interface 5 goes down, and then that of the interface 6: both events are on the
interface 5. -/
theorem not_decodedAsAlone :
    ¬ ∀ messages after, (∀ message ∈ messages, message.WellFormed) →
      (messages.flatMap NlMessage.encode).length ≤ ipaNlMsgMaxLen →
      DecodedAsAlone messages after := by
  let message (index : UInt8) : NlMessage :=
    ⟨16, List.replicate 10 0, [0, 0, 1, 0, index] ++ List.replicate 11 0, []⟩
  intro asAlone
  have isType : 16 < 2 ^ 16 := by decide
  have wellFormed (index : UInt8) : (message index).WellFormed :=
    (wellFormed_of_header isType rfl rfl rfl).1
  rcases asAlone [message 5, message 6] (fun _ => 0)
    (List.forall_mem_cons.mpr ⟨wellFormed 5, List.forall_mem_singleton.mpr (wellFormed 6)⟩)
    (by decide) with ⟨alone, isAlone, isBatch⟩
  have isAlone' : [message 5, message 6].mapM (fun message => decodeReceived [message] fun _ => 0) =
      some [[.linkDown 5], [.linkDown 6]] := by
    decide +kernel
  have isBatch' : decodeReceived [message 5, message 6] (fun _ => 0) =
      some [.linkDown 5, .linkDown 5] := by
    decide +kernel
  cases isAlone.symm.trans isAlone'
  cases isBatch.symm.trans isBatch'

end HtcPme.Ipacm
