import HtcPme.Ipacm.NetlinkBounds

/-!
# Well-formed netlink messages

Messages and attributes as the kernel writes them, and what the decoders make of the attributes of
the first message of a buffer.
-/

namespace HtcPme.Ipacm

open ItemFormat List

structure NlAttr where
  type : ℕ
  payload : List UInt8
  pad : List UInt8

namespace NlAttr

variable (attr : NlAttr)

def length : ℕ := 4 + attr.payload.length

def encode : List UInt8 :=
  leBytes 2 attr.length ++ leBytes 2 attr.type ++ attr.payload ++ attr.pad

structure WellFormed : Prop where
  isType : attr.type < 2 ^ 16
  isLength : attr.length < 2 ^ 16
  isPadded : attr.length + attr.pad.length = alignUp attr.length

end NlAttr

/-- How much of an attribute finds its way into an event, by the family of the message. An address
has 16 bytes in IPv6 and otherwise 4, a link-layer address 6. -/
def RtmType.needed (family : ℕ) : RtmType → ℕ → ℕ
  | .newLink, _ | .delLink, _ => 0
  | .newAddr, attr => if attr = ifaAddress then if family = afInet6 then 16 else 4 else 0
  | .newNeigh, attr | .delNeigh, attr =>
      if attr = ndaDst then if family = afInet6 then 16 else 4
      else if attr = ndaLladdr then 6 else 0
  | .newRoute, attr | .delRoute, attr =>
      if attr = rtaDst ∨ attr = rtaGateway then if family = afInet6 then 16 else 4
      else if attr = rtaOif then 4 else 0

/-- A message: its type, the flags, number and port of its header, what follows the header, and the
padding. -/
structure NlMessage where
  type : ℕ
  rest : List UInt8
  body : List UInt8
  pad : List UInt8

namespace NlMessage

variable (message : NlMessage)

def length : ℕ := 16 + message.body.length

def encode : List UInt8 :=
  leBytes 4 message.length ++ leBytes 2 message.type ++ message.rest ++ message.body ++ message.pad

def HasAttrs (type : RtmType) : Prop :=
  ∃ (header : List UInt8) (attrs : List NlAttr), header.length = type.headerSize ∧
    message.body ++ message.pad = header ++ attrs.flatMap NlAttr.encode ∧
    ∀ attr ∈ attrs, attr.WellFormed ∧
      type.needed (field header 0 1) attr.type ≤ attr.payload.length

structure WellFormed : Prop where
  isType : message.type < 2 ^ 16
  isRest : message.rest.length = 10
  isPadded : message.length + message.pad.length = alignUp message.length
  headed : ∀ type ∈ rtmType message.type, type.headerSize ≤ message.body.length
  hasAttrs : ∀ type ∈ rtmType message.type, ¬ type.IsLink → message.HasAttrs type

end NlMessage

section Encoding

variable {attr : NlAttr} {message : NlMessage}

theorem NlAttr.length_encode (wellFormed : attr.WellFormed) :
    attr.encode.length = alignUp attr.length := by
  rw [← wellFormed.isPadded]
  simp only [NlAttr.encode, NlAttr.length, length_append, length_leBytes]

theorem NlMessage.length_encode (wellFormed : message.WellFormed) :
    message.encode.length = alignUp message.length := by
  rw [← wellFormed.isPadded]
  simp only [NlMessage.encode, NlMessage.length, length_append, length_leBytes,
    wellFormed.isRest]

theorem alignUp_mod (length : ℕ) : alignUp length % 4 = 0 := Nat.mul_mod_left _ _

variable {contents : ℕ → UInt8} {pos : ℕ}

theorem NlAttr.itemAt (wellFormed : attr.WellFormed)
    (holds : slice contents pos attr.encode.length = attr.encode) :
    rtattr.itemAt contents pos = ⟨pos, attr.length, attr.type⟩ := by
  have isLength : slice contents (pos + 0) 2 = leBytes 2 attr.length := by
    have asParts : attr.encode =
        [] ++ leBytes 2 attr.length ++ (leBytes 2 attr.type ++ attr.payload ++ attr.pad) := by
      simp [NlAttr.encode]
    rw [asParts] at holds
    simpa using slice_of_append holds
  have isType : slice contents (pos + 2) 2 = leBytes 2 attr.type := by
    have asParts : attr.encode =
        leBytes 2 attr.length ++ leBytes 2 attr.type ++ (attr.payload ++ attr.pad) := by
      simp [NlAttr.encode]
    rw [asParts] at holds
    simpa using slice_of_append holds
  rw [Nat.add_zero] at isLength
  have lengthValue : littleEndian (leBytes 2 attr.length) = attr.length :=
    littleEndian_leBytes_of_lt wellFormed.isLength
  have typeValue : littleEndian (leBytes 2 attr.type) = attr.type :=
    littleEndian_leBytes_of_lt wellFormed.isType
  simp only [ItemFormat.itemAt, ItemFormat.lengthAt, ItemFormat.typeAt, rtattr, isLength, isType,
    lengthValue, typeValue]

theorem NlMessage.itemAt (wellFormed : message.WellFormed) (fits : message.length < 2 ^ 32)
    (holds : slice contents pos message.encode.length = message.encode) :
    nlmsghdr.itemAt contents pos = ⟨pos, message.length, message.type⟩ := by
  have isLength : slice contents (pos + 0) 4 = leBytes 4 message.length := by
    have asParts : message.encode = [] ++ leBytes 4 message.length ++
        (leBytes 2 message.type ++ message.rest ++ message.body ++ message.pad) := by
      simp [NlMessage.encode]
    rw [asParts] at holds
    simpa using slice_of_append holds
  have isType : slice contents (pos + 4) 2 = leBytes 2 message.type := by
    have asParts : message.encode = leBytes 4 message.length ++ leBytes 2 message.type ++
        (message.rest ++ message.body ++ message.pad) := by
      simp [NlMessage.encode]
    rw [asParts] at holds
    simpa using slice_of_append holds
  rw [Nat.add_zero] at isLength
  have lengthValue : littleEndian (leBytes 4 message.length) = message.length :=
    littleEndian_leBytes_of_lt fits
  have typeValue : littleEndian (leBytes 2 message.type) = message.type :=
    littleEndian_leBytes_of_lt wellFormed.isType
  simp only [ItemFormat.itemAt, ItemFormat.lengthAt, ItemFormat.typeAt, nlmsghdr, isLength, isType,
    lengthValue, typeValue]

theorem NlMessage.itemAt_rtattr (fits : message.length < 2 ^ 16)
    (holds : slice contents pos message.encode.length = message.encode) :
    rtattr.itemAt contents pos = ⟨pos, message.length, 0⟩ := by
  have isWord : leBytes 4 message.length = leBytes 2 message.length ++ [0, 0] := by
    have low : message.length / 256 / 256 = 0 := by omega
    simp [leBytes, low]
  have isLength : slice contents (pos + 0) 2 = leBytes 2 message.length := by
    have asParts : message.encode = [] ++ leBytes 2 message.length ++
        ([0, 0] ++ leBytes 2 message.type ++ message.rest ++ message.body ++ message.pad) := by
      simp [NlMessage.encode, isWord]
    rw [asParts] at holds
    simpa using slice_of_append holds
  have isType : slice contents (pos + 2) 2 = [0, 0] := by
    have asParts : message.encode = leBytes 2 message.length ++ [0, 0] ++
        (leBytes 2 message.type ++ message.rest ++ message.body ++ message.pad) := by
      simp [NlMessage.encode, isWord]
    rw [asParts] at holds
    simpa using slice_of_append holds
  rw [Nat.add_zero] at isLength
  have lengthValue : littleEndian (leBytes 2 message.length) = message.length :=
    littleEndian_leBytes_of_lt fits
  simp only [ItemFormat.itemAt, ItemFormat.lengthAt, ItemFormat.typeAt, rtattr, isLength, isType,
    lengthValue]
  rfl

end Encoding

section Walks

variable {σ : Type}

structure CopyRelated (related : σ → σ → Prop) (copy : Memory → ℕ → ℕ → σ → Option σ)
    (needed : ℕ → ℕ) : Prop where
  copies : ∀ {contents contents' : ℕ → UInt8} {data data' type : ℕ} {info info' : σ},
    related info info' → (∀ i < needed type, contents (data + i) = contents' (data' + i)) →
    ∃ next next', copy (.total contents) type data info = some next ∧
      copy (.total contents') type data' info' = some next' ∧ related next next'
  skips : ∀ {mem : Memory} {data : ℕ} {info : σ}, copy mem 0 data info = some info
  isSome : ∀ {contents : ℕ → UInt8} {data type : ℕ} {info : σ},
    (copy (.total contents) type data info).isSome

def attrBody (copy : ℕ → ℕ → σ → Option σ) (attr : Item) (_ : ℕ) (info : σ) : Option (σ × Bool) :=
  (copy attr.type (attr.pos + 4) info).map fun info => (info, true)

variable {related : σ → σ → Prop} {copy : Memory → ℕ → ℕ → σ → Option σ} {needed : ℕ → ℕ}
  {contents contents' : ℕ → UInt8} {pos left left' rounds rounds' : ℕ} {info info' : σ}

theorem walk_attr {attr : NlAttr} (wellFormed : attr.WellFormed)
    (holds : slice contents pos attr.encode.length = attr.encode)
    (fits : attr.encode.length ≤ left) (isWord : left < 2 ^ 32) {next : σ}
    (isCopied : copy (.total contents) attr.type (pos + 4) info = some next) :
    rtattr.walk (.total contents) (attrBody (copy (.total contents))) (rounds + 1) pos left info =
      rtattr.walk (.total contents) (attrBody (copy (.total contents))) rounds
        (pos + attr.encode.length) (left - attr.encode.length) next := by
  have isItemAt := NlAttr.itemAt wellFormed holds
  have isLength : rtattr.lengthAt contents pos = attr.length := congrArg Item.length isItemAt
  have isLong : attr.length ≤ attr.encode.length := by
    rw [NlAttr.length_encode wellFormed]
    exact le_alignUp _
  have hasHeader : rtattr.header ≤ attr.length := Nat.le_add_right 4 _
  have isItem : rtattr.IsItem contents pos left := by
    rw [ItemFormat.IsItem, isLength]
    exact ⟨hasHeader, isLong.trans fits⟩
  rw [walk_item _ Memory.word_total Memory.word_total
    (hasHeader.trans (isLong.trans fits)) isItem, isItemAt, isLength,
    ← NlAttr.length_encode wellFormed, sub32_of_le isWord fits, attrBody, isCopied]
  rfl

theorem walk_attrs (rounds rounds' : ℕ) (spec : CopyRelated related copy needed)
    (attrs : List NlAttr)
    (wellFormed : ∀ attr ∈ attrs, attr.WellFormed ∧ needed attr.type ≤ attr.payload.length)
    (holds : slice contents pos (attrs.flatMap NlAttr.encode).length =
      attrs.flatMap NlAttr.encode)
    (holds' : slice contents' pos (attrs.flatMap NlAttr.encode).length =
      attrs.flatMap NlAttr.encode)
    (fits : (attrs.flatMap NlAttr.encode).length ≤ left) (isWord : left < 2 ^ 32)
    (fits' : (attrs.flatMap NlAttr.encode).length ≤ left') (isWord' : left' < 2 ^ 32)
    (isRelated : related info info') :
    ∃ next next', related next next' ∧
      rtattr.walk (.total contents) (attrBody (copy (.total contents))) (attrs.length + rounds) pos
          left info =
        rtattr.walk (.total contents) (attrBody (copy (.total contents))) rounds
          (pos + (attrs.flatMap NlAttr.encode).length)
          (left - (attrs.flatMap NlAttr.encode).length) next ∧
      rtattr.walk (.total contents') (attrBody (copy (.total contents'))) (attrs.length + rounds')
          pos left' info' =
        rtattr.walk (.total contents') (attrBody (copy (.total contents'))) rounds'
          (pos + (attrs.flatMap NlAttr.encode).length)
          (left' - (attrs.flatMap NlAttr.encode).length) next' := by
  induction attrs generalizing pos left left' info info' with
  | nil => exact ⟨info, info', isRelated, by simp, by simp⟩
  | cons attr rest ih =>
      have isFirst := wellFormed attr mem_cons_self
      rw [flatMap_cons] at holds holds' fits fits'
      rcases slice_append_iff.mp holds with ⟨holdsFirst, holdsRest⟩
      rcases slice_append_iff.mp holds' with ⟨holdsFirst', holdsRest'⟩
      rw [length_append] at fits fits'
      have isLength := isFirst.1.isPadded
      rw [← NlAttr.length_encode isFirst.1, NlAttr.length] at isLength
      have same (i : ℕ) (below : i < needed attr.type) :
          contents (pos + 4 + i) = contents' (pos + 4 + i) := by
        rw [Nat.add_assoc]
        exact eq_of_slice_eq (holdsFirst.trans holdsFirst'.symm) (by omega)
      rcases spec.copies isRelated same with ⟨next, next', isCopied, isCopied', nextRelated⟩
      rcases ih (fun attr isIn => wellFormed attr (mem_cons_of_mem _ isIn)) holdsRest
        holdsRest' (Nat.le_sub_of_add_le' fits) ((Nat.sub_le _ _).trans_lt isWord)
        (Nat.le_sub_of_add_le' fits') ((Nat.sub_le _ _).trans_lt isWord') nextRelated with
        ⟨last, last', lastRelated, isWalk, isWalk'⟩
      refine ⟨last, last', lastRelated, ?_, ?_⟩
      · rw [length_cons, Nat.add_right_comm,
          walk_attr isFirst.1 holdsFirst (by omega) isWord isCopied, isWalk, flatMap_cons,
          length_append, Nat.add_assoc, Nat.sub_sub]
      · rw [length_cons, Nat.add_right_comm,
          walk_attr isFirst.1 holdsFirst' (by omega) isWord' isCopied', isWalk', flatMap_cons,
          length_append, Nat.add_assoc, Nat.sub_sub]

theorem walk_message (spec : CopyRelated related copy needed) {message : NlMessage}
    (wellFormed : message.WellFormed) (isShort : message.length < 2 ^ 16)
    (holds : slice contents pos message.encode.length = message.encode)
    (fits : message.encode.length ≤ left) (isWord : left < 2 ^ 32) :
    rtattr.walk (.total contents) (attrBody (copy (.total contents))) (rounds + 1) pos left info =
      rtattr.walk (.total contents) (attrBody (copy (.total contents))) rounds
        (pos + message.encode.length) (left - message.encode.length) info := by
  have isItemAt := NlMessage.itemAt_rtattr isShort holds
  have isLength : rtattr.lengthAt contents pos = message.length := congrArg Item.length isItemAt
  have isLong : message.length ≤ message.encode.length := by
    rw [NlMessage.length_encode wellFormed]
    exact le_alignUp _
  have hasHeader : rtattr.header ≤ message.length :=
    (by decide : rtattr.header ≤ 16).trans (Nat.le_add_right 16 _)
  have isItem : rtattr.IsItem contents pos left := by
    rw [ItemFormat.IsItem, isLength]
    exact ⟨hasHeader, isLong.trans fits⟩
  rw [walk_item _ Memory.word_total Memory.word_total
    (hasHeader.trans (isLong.trans fits)) isItem, isItemAt, isLength,
    ← NlMessage.length_encode wellFormed, sub32_of_le isWord fits, attrBody, spec.skips]
  rfl

theorem walk_messages (rounds : ℕ) (spec : CopyRelated related copy needed)
    (messages : List NlMessage)
    (wellFormed : ∀ message ∈ messages, message.WellFormed ∧ message.length < 2 ^ 16)
    (holds : slice contents pos (messages.flatMap NlMessage.encode).length =
      messages.flatMap NlMessage.encode)
    (fits : (messages.flatMap NlMessage.encode).length ≤ left) (isWord : left < 2 ^ 32) :
    rtattr.walk (.total contents) (attrBody (copy (.total contents))) (messages.length + rounds) pos
        left info =
      rtattr.walk (.total contents) (attrBody (copy (.total contents))) rounds
        (pos + (messages.flatMap NlMessage.encode).length)
        (left - (messages.flatMap NlMessage.encode).length) info := by
  induction messages generalizing pos left with
  | nil => simp
  | cons message rest ih =>
      have isFirst := wellFormed message mem_cons_self
      rw [flatMap_cons] at holds fits
      rcases slice_append_iff.mp holds with ⟨holdsFirst, holdsRest⟩
      rw [length_append] at fits
      rw [length_cons, Nat.add_right_comm,
        walk_message spec isFirst.1 isFirst.2 holdsFirst (by omega) isWord,
        ih (fun message isIn => wellFormed message (mem_cons_of_mem _ isIn)) holdsRest
          (Nat.le_sub_of_add_le' fits) ((Nat.sub_le _ _).trans_lt isWord),
        flatMap_cons, length_append, Nat.add_assoc, Nat.sub_sub]

theorem length_le_encode (messages : List NlMessage)
    (wellFormed : ∀ message ∈ messages, message.WellFormed) :
    16 * messages.length ≤ (messages.flatMap NlMessage.encode).length := by
  induction messages with
  | nil => simp
  | cons message rest ih =>
      have isRest := ih fun message isIn => wellFormed message (mem_cons_of_mem _ isIn)
      have isFirst := NlMessage.length_encode (wellFormed message mem_cons_self)
      have isLong := le_alignUp message.length
      have hasHeader : 16 ≤ message.length := Nat.le_add_right 16 _
      rw [flatMap_cons, length_append, length_cons]
      omega

theorem length_le_encodeAttrs (attrs : List NlAttr)
    (wellFormed : ∀ attr ∈ attrs, attr.WellFormed) :
    4 * attrs.length ≤ (attrs.flatMap NlAttr.encode).length ∧
      (attrs.flatMap NlAttr.encode).length % 4 = 0 := by
  induction attrs with
  | nil => simp
  | cons attr rest ih =>
      have isRest := ih fun attr isIn => wellFormed attr (mem_cons_of_mem _ isIn)
      have isFirst := NlAttr.length_encode (wellFormed attr mem_cons_self)
      have isLong := le_alignUp attr.length
      have isAligned := alignUp_mod attr.length
      have hasHeader : 4 ≤ attr.length := Nat.le_add_right 4 _
      rw [flatMap_cons, length_append, length_cons]
      omega

variable {start : List UInt8} {after : ℕ → UInt8}

theorem decodeAttrs_related (spec : CopyRelated related copy needed) (attrs : List NlAttr)
    (wellFormed : ∀ attr ∈ attrs, attr.WellFormed ∧ needed attr.type ≤ attr.payload.length)
    (messages : List NlMessage)
    (follow : ∀ message ∈ messages, message.WellFormed ∧ message.length < 2 ^ 16)
    (isHeader : start.length = 24 ∨ start.length = 28)
    (isWord : (start ++ attrs.flatMap NlAttr.encode ++
      messages.flatMap NlMessage.encode).length < 2 ^ 32)
    (isRelated : related info info') :
    ∃ next next', related next next' ∧
      decodeAttrs (.total (bytesThen (start ++ attrs.flatMap NlAttr.encode) after))
        (copy (.total (bytesThen (start ++ attrs.flatMap NlAttr.encode) after))) start.length
        (start ++ attrs.flatMap NlAttr.encode).length info = some next ∧
      decodeAttrs (.total (bytesThen (start ++ attrs.flatMap NlAttr.encode ++
          messages.flatMap NlMessage.encode) after))
        (copy (.total (bytesThen (start ++ attrs.flatMap NlAttr.encode ++
          messages.flatMap NlMessage.encode) after))) start.length
        (start ++ attrs.flatMap NlAttr.encode ++ messages.flatMap NlMessage.encode).length info' =
        some next' := by
  set inside := attrs.flatMap NlAttr.encode with isInside
  set behind := messages.flatMap NlMessage.encode with isBehind
  set alone := bytesThen (start ++ inside) after with isAlone
  set batch := bytesThen (start ++ inside ++ behind) after with isBatch
  have holds : slice alone start.length inside.length = inside := by
    have middle := slice_bytesThen_append start inside after []
    rwa [append_nil] at middle
  have holds' : slice batch start.length inside.length = inside :=
    slice_bytesThen_append start inside after behind
  have holdsBehind : slice batch (start.length + inside.length) behind.length = behind := by
    have middle := slice_bytesThen_append (start ++ inside) behind after []
    rwa [append_nil, length_append] at middle
  have attrCount := length_le_encodeAttrs attrs fun attr isIn => (wellFormed attr isIn).1
  have messageCount := length_le_encode messages fun message isIn => (follow message isIn).1
  rw [← isInside] at attrCount
  rw [← isBehind] at messageCount
  simp only [length_append] at isWord ⊢
  have hasRounds : ∃ rounds, start.length + inside.length = attrs.length + rounds ∧ 3 ≤ rounds :=
    ⟨start.length + inside.length - attrs.length, by omega, by omega⟩
  have hasRounds' : ∃ rounds, start.length + inside.length + behind.length =
      attrs.length + (messages.length + rounds) ∧ 3 ≤ rounds :=
    ⟨start.length + inside.length + behind.length - attrs.length - messages.length,
      by omega, by omega⟩
  rcases hasRounds with ⟨rounds, isRounds, enough⟩
  rcases hasRounds' with ⟨rounds', isRounds', enough'⟩
  have isWordLeft : start.length - 16 + behind.length < 2 ^ 32 := by omega
  -- The loop passes over the attributes, then over the messages, and comes to the bytes behind.
  rcases walk_attrs rounds (messages.length + rounds') spec attrs wellFormed holds holds'
    (by omega : inside.length ≤ start.length - 16 + inside.length) (by omega)
    (by omega : inside.length ≤ start.length - 16 + behind.length + inside.length) (by omega)
    isRelated with ⟨next, next', nextRelated, isWalk, isWalk'⟩
  rw [← isInside, Nat.add_sub_cancel] at isWalk
  rw [← isInside, Nat.add_sub_cancel, walk_messages rounds' spec messages follow holdsBehind
    (Nat.le_add_left _ _) isWordLeft, ← isBehind, Nat.add_sub_cancel] at isWalk'
  have agree (i : ℕ) : alone (start.length + inside.length + i) =
      batch (start.length + inside.length + behind.length + i) := by
    have atAlone := bytesThen_after (start ++ inside) after i
    have atBatch := bytesThen_after (start ++ inside ++ behind) after i
    rw [length_append] at atAlone
    rw [length_append, length_append] at atBatch
    exact atAlone.trans atBatch.symm
  have isBody (i length type left : ℕ) (info info' : σ) (isRelated : related info info') :
      Option.Rel (fun done done' => related done.1 done'.1 ∧ done.2 = done'.2)
        (attrBody (copy (.total alone)) ⟨start.length + inside.length + i, length, type⟩ left info)
        (attrBody (copy (.total batch))
          ⟨start.length + inside.length + behind.length + i, length, type⟩ left info') := by
    have same (j : ℕ) (_ : j < needed type) :
        alone (start.length + inside.length + i + 4 + j) =
          batch (start.length + inside.length + behind.length + i + 4 + j) := by
      have shifted := agree (i + 4 + j)
      simp only [← Nat.add_assoc] at shifted
      exact shifted
    rcases spec.copies isRelated same with ⟨next, next', isCopied, isCopied', both⟩
    simp only [attrBody, isCopied, isCopied', Option.map_some]
    exact .some ⟨both, rfl⟩
  have sameWalk : Option.Rel related
      (rtattr.walk (.total alone) (attrBody (copy (.total alone))) 3
        (start.length + inside.length + 0) (start.length - 16) next)
      (rtattr.walk (.total batch) (attrBody (copy (.total batch))) 3
        (start.length + inside.length + behind.length + 0) (start.length - 16) next') :=
    walk_rel agree isBody nextRelated 0
  have isSome : (rtattr.walk (.total alone) (attrBody (copy (.total alone))) 3
      (start.length + inside.length + 0) (start.length - 16) next).isSome := by
    apply walk_total_isSome (by decide)
    · intro attr left info
      rw [attrBody, Option.isSome_map]
      exact spec.isSome
    · omega
    · omega
    · omega
  rcases Option.isSome_iff_exists.mp isSome with ⟨last, isLast⟩
  rw [isLast] at sameWalk
  generalize isLast' : rtattr.walk (.total batch) (attrBody (copy (.total batch))) 3
    (start.length + inside.length + behind.length + 0) (start.length - 16) next' = result
    at sameWalk
  cases sameWalk with
  | @some _ last' lastRelated =>
      have isLeft : sub32 (start.length + inside.length) 16 =
          start.length - 16 + inside.length := by
        rw [sub32_of_le (by omega) (by omega)]
        omega
      have isLeft' : sub32 (start.length + inside.length + behind.length) 16 =
          start.length - 16 + behind.length + inside.length := by
        rw [sub32_of_le (by omega) (by omega)]
        omega
      refine ⟨last, last', lastRelated, ?_, ?_⟩
      · have isDecoded := isWalk.trans (walk_more isLast enough)
        rw [← isRounds, ← isLeft] at isDecoded
        exact isDecoded
      · have isDecoded := isWalk'.trans (walk_more isLast' enough')
        rw [← isRounds', ← isLeft'] at isDecoded
        exact isDecoded

end Walks

end HtcPme.Ipacm
