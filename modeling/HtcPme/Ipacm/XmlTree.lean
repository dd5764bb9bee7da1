import HtcPme.Foundation.Forest
import HtcPme.Gps.LocCfg
import HtcPme.Ipacm.NatIfaces
import HtcPme.Ipacm.Netlink

/-!
# Configuration files

What the parsers of the two configuration files share. A parser stops with a fault where the program
would write beyond a buffer or take an entry that the table does not have.
-/

namespace HtcPme.Ipacm

def maxXmlStrLen : ℕ := 120

inductive XmlLabel where
  | element (name : List Char)
  | text (content : List Char)
  | other
deriving DecidableEq

/-- `xmlNode`, with its `children` and its `next`. -/
abbrev XmlNode := Forest XmlLabel

/-- What a parser must not do: copy a text beyond `content_buf` or beyond the name of an interface,
or take an entry outside a table. -/
inductive XmlFault where
  | contentBuf
  | ifaceName
  | index
deriving DecidableEq

/-- `inet_addr`, and `inet_pton` for IPv6, with the words of an address in network order. The last
field is what a local variable for an address holds before it is written. -/
structure TextReaders where
  inetAddr : List Char → BitVec 32
  inetPton : List Char → Option (List (BitVec 32))
  ip6Addr : List (BitVec 32)

def ipacmReadContentElement : XmlNode → Option (List Char)
  | .nil => none
  | .node (.text content) _ _ => some content
  | .node (.element _) _ next | .node .other _ next => ipacmReadContentElement next

def strncasecmp (first second : List Char) (size : ℕ) : Bool :=
  (first.take size).map Char.toLower = (second.take size).map Char.toLower

/-- Whether `IPACM_util_icmp_string` finds no difference; the lengths are 32-bit numbers. -/
def ipacmUtilIcmpString (xmlStr str : List Char) : Bool :=
  str.length % 2 ^ 32 = xmlStr.length % 2 ^ 32 ∧ strncasecmp xmlStr str (str.length % 2 ^ 32)

/-- `str_size`, an `int`. -/
def strSize (content : List Char) : ℤ := (content.length : ℤ).bmod (2 ^ 32)

def InContentBuf (content : List Char) : Prop :=
  0 ≤ strSize content ∧ strSize content ≤ maxXmlStrLen

instance (content : List Char) : Decidable (InContentBuf content) :=
  inferInstanceAs (Decidable (_ ∧ _))

def contentBuf (content : List Char) : List Char := content.take (strSize content).toNat

/-- The string in `content_buf` once its last byte has been cleared. -/
def terminated (contentBuf : List Char) : List Char := contentBuf.take (maxXmlStrLen - 1)

def withContent {σ : Type*} (content : Option (List Char)) (config : σ)
    (act : List Char → Except XmlFault σ) : Except XmlFault σ :=
  match content with
  | none => .ok config
  | some text => if InContentBuf text then act (contentBuf text) else .error .contentBuf

section Content

variable {σ : Type*} {content : Option (List Char)} {config next : σ}
  {act : List Char → Except XmlFault σ}

theorem withContent_ok_iff :
    (∃ next, withContent content config act = .ok next) ↔
      ∀ text ∈ content, InContentBuf text ∧ ∃ next, act (contentBuf text) = .ok next := by
  cases content with
  | none => simp [withContent]
  | some text =>
      simp only [withContent, Option.mem_some_iff, forall_eq']
      split_ifs with inBuf
      · simp [inBuf]
      · simp [inBuf]

theorem withContent_keeps (holds : σ → Prop) (before : holds config)
    (after : ∀ buf next, act buf = .ok next → holds next)
    (ran : withContent content config act = .ok next) : holds next := by
  cases content with
  | none =>
      cases ran
      exact before
  | some text =>
      simp only [withContent] at ran
      split_ifs at ran
      exact after _ next ran

variable {text : List Char}

theorem contentBuf_of_short (short : text.length < maxXmlStrLen) :
    InContentBuf text ∧ contentBuf text = text ∧ terminated text = text := by
  simp only [maxXmlStrLen] at short
  have size : strSize text = text.length := by
    apply Int.bmod_eq_of_le
    · omega
    · omega
  refine ⟨?_, ?_, ?_⟩
  · simp only [InContentBuf, size, maxXmlStrLen]
    omega
  · simp only [contentBuf, size, Int.toNat_natCast, List.take_length]
  · apply List.take_of_length_le
    simp only [maxXmlStrLen]
    omega

theorem withContent_of_short (short : text.length < maxXmlStrLen) :
    withContent (some text) config act = act text := by
  rcases contentBuf_of_short short with ⟨inBuf, same, -⟩
  rw [withContent, if_pos inBuf, same]

end Content

structure EntryTable (α : Type*) (capacity : ℕ) where
  num : UInt8
  entries : Fin capacity → α

variable {ε α β : Type} {build : α → β} {result : Except ε α}

theorem exists_bind_ok :
    (∃ next, (do let value ← result; Except.ok (build value)) = .ok next) ↔
      ∃ value, result = .ok value := by
  cases result with
  | error fault => simp [bind, Except.bind]
  | ok value => simp [bind, Except.bind]

theorem of_bind_ok {next : β} (ran : (do let value ← result; Except.ok (build value)) = .ok next) :
    ∃ value, result = .ok value ∧ build value = next := by
  cases result with
  | error fault => cases ran
  | ok value => exact ⟨value, rfl, Except.ok.inj ran⟩

namespace EntryTable

variable {α : Type*} {capacity : ℕ} (table : EntryTable α capacity)

def increase : EntryTable α capacity := { table with num := table.num + 1 }

def HasLast : Prop := 1 ≤ table.num.toNat ∧ table.num.toNat ≤ capacity

instance : Decidable table.HasLast := inferInstanceAs (Decidable (_ ∧ _))

def modifyLast (change : α → α) : Except XmlFault (EntryTable α capacity) :=
  if hasLast : table.HasLast then
    have isLt : table.num.toNat - 1 < capacity := by
      rcases hasLast with ⟨positive, within⟩
      omega
    .ok { table with
      entries := Function.update table.entries ⟨table.num.toNat - 1, isLt⟩
        (change (table.entries ⟨table.num.toNat - 1, isLt⟩)) }
  else .error .index

variable {table}

variable {change : α → α}

theorem modifyLast_ok_iff :
    (∃ next, table.modifyLast change = .ok next) ↔ table.HasLast := by
  rw [modifyLast]
  split_ifs with hasLast
  · simp [hasLast]
  · simp [hasLast]

theorem modifyLast_of_num {index : ℕ} (isNum : table.num.toNat = index + 1)
    (isLt : index < capacity) (change : α → α) :
    table.modifyLast change = .ok { table with
      entries := Function.update table.entries ⟨index, isLt⟩
        (change (table.entries ⟨index, isLt⟩)) } := by
  have hasLast : table.HasLast := by
    rw [HasLast]
    omega
  simp only [modifyLast, dif_pos hasLast, isNum, Nat.add_sub_cancel]

theorem modifyLast_num {next : EntryTable α capacity}
    (ran : table.modifyLast change = .ok next) : next.num = table.num := by
  rw [modifyLast] at ran
  split_ifs at ran
  cases ran
  rfl

end EntryTable

/-- The elements that a parser knows, in the order in which it compares a name with theirs; those
that it descends into; and what it does at one, with the text of the element. -/
structure XmlParser (τ σ : Type*) where
  tags : List τ
  name : τ → List Char
  descends : τ → Bool
  visit : τ → Option (List Char) → σ → Except XmlFault σ

namespace XmlParser

variable {τ σ : Type*} (parser : XmlParser τ σ)

def tagOf : XmlLabel → Option τ
  | .element name => parser.tags.find? fun tag => ipacmUtilIcmpString name (parser.name tag)
  | .text _ | .other => none

def parseTree : XmlNode → σ → Except XmlFault σ :=
  Forest.walk (fun label => (parser.tagOf label).any parser.descends) fun label children config =>
    match parser.tagOf label with
    | none => .ok config
    | some tag => parser.visit tag (ipacmReadContentElement children) config

def events (tree : XmlNode) : List (τ × Option (List Char)) :=
  (tree.visits fun label => (parser.tagOf label).any parser.descends).filterMap fun node =>
    (parser.tagOf node.1).map fun tag => (tag, ipacmReadContentElement node.2)

theorem parseTree_eq (tree : XmlNode) (config : σ) :
    parser.parseTree tree config =
      (parser.events tree).foldlM (fun config event => parser.visit event.1 event.2 config)
        config := by
  rw [parseTree, Forest.walk_eq_foldlM, events, List.foldlM_filterMap]
  congr 1
  funext config node
  cases parser.tagOf node.1 with
  | none => rfl
  | some tag => rfl

variable {tag : τ}

theorem foldlM_visit {content : Option (List Char)} {config next : σ}
    (visited : parser.visit tag content config = .ok next)
    (events : List (τ × Option (List Char))) :
    ((tag, content) :: events).foldlM
        (fun config event => parser.visit event.1 event.2 config) config =
      events.foldlM (fun config event => parser.visit event.1 event.2 config) next := by
  rw [List.foldlM_cons, visited]
  rfl

theorem events_concat (trees : List XmlNode) :
    parser.events (Forest.concat trees) = trees.flatMap parser.events := by
  rw [events, Forest.visits_concat, List.filterMap_flatMap]
  rfl

variable {name : List Char}

theorem events_element (isTag : parser.tagOf (.element name) = some tag) (children : XmlNode) :
    parser.events (.node (.element name) children .nil) = (tag, ipacmReadContentElement children) ::
        if parser.descends tag then parser.events children else [] := by
  simp only [events, Forest.visits, isTag, Option.any_some, List.append_nil]
  split_ifs with descends
  · simp [isTag]
  · simp [isTag]

theorem events_unknown (unknown : parser.tagOf (.element name) = none)
    (children : XmlNode) : parser.events (.node (.element name) children .nil) = [] := by
  simp [events, Forest.visits, unknown]

theorem parseTree_ok_iff {κ : Type*} [DecidableEq κ] (num : σ → κ → UInt8) (opens : τ → Option κ)
    (fits : (κ → UInt8) → τ × Option (List Char) → Prop)
    (ok : ∀ config (event : τ × Option (List Char)),
      (∃ next, parser.visit event.1 event.2 config = .ok next) ↔ fits (num config) event)
    (keeps : ∀ config (event : τ × Option (List Char)) next, parser.visit event.1 event.2 config =
      .ok next → ∀ key,
      num next key = num config key + if opens event.1 = some key then 1 else 0)
    (tree : XmlNode) (config : σ) :
    (∃ last, parser.parseTree tree config = .ok last) ↔
      ∀ before event after, parser.events tree = before ++ event :: after →
        fits (fun key => num config key +
          UInt8.ofNat (before.countP fun event => opens event.1 = some key)) event := by
  have counted (before : List (τ × Option (List Char))) (start : κ → UInt8) :
      before.foldl (fun num event key => num key + if opens event.1 = some key then 1 else 0)
        start = fun key => start key +
          UInt8.ofNat (before.countP fun event => opens event.1 = some key) := by
    induction before generalizing start with
    | nil => simp
    | cons event rest ih =>
        rw [List.foldl_cons, ih]
        funext key
        rw [List.countP_cons]
        by_cases isKey : opens event.1 = some key
        · simp only [isKey, if_true, decide_true, UInt8.ofNat_add, UInt8.add_assoc]
          congr 1
          exact UInt8.add_comm _ _
        · simp [isKey]
  rw [parseTree_eq, foldlM_ok_iff num
    (fun num event key => num key + if opens event.1 = some key then 1 else 0) fits ok
    (fun config event next ran => funext (keeps config event next ran))]
  simp only [counted]

end XmlParser

end HtcPme.Ipacm
