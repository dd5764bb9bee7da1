import HtcPme.Ipacm.FirewallXml

/-!
# Rules written as a firewall file

A rule is written as one element for each thing that it gives, in any order, and is read back unless
it gives an SPI or a prefix that `mask_v6` has no mask for.
-/

namespace HtcPme.Ipacm

open List

open Gps (atoi)

structure Ip6Prefix where
  addr : List (BitVec 32)
  length : ℕ
  bounded : length ≤ 128

structure PortRange where
  protocol : PortProtocol
  port : ℕ
  range : ℕ
  bounded : port + range ≤ 65535

structure V4Rule where
  tos : Option (BitVec 8 × BitVec 8)
  protocol : Option (BitVec 8)
  src : Option (BitVec 32 × BitVec 32)
  dst : Option (BitVec 32 × BitVec 32)

structure V6Rule where
  tc : Option (BitVec 8 × BitVec 8)
  nextHdr : Option (BitVec 8)
  src : Option Ip6Prefix
  dst : Option Ip6Prefix

inductive RuleFamily where
  | v4 (rule : V4Rule)
  | v6 (rule : V6Rule)

/-- `firewall_ip_version_enum`. -/
def RuleFamily.ipVsn : RuleFamily → BitVec 32
  | v4 _ => 4
  | v6 _ => 6

structure FirewallRule where
  family : RuleFamily
  srcPorts : Option PortRange
  dstPorts : Option PortRange
  icmpType : Option (BitVec 8)
  icmpCode : Option (BitVec 8)
  spi : Option (BitVec 32)

inductive RuleField where
  | ipVsn (vsn : BitVec 32)
  | tos (value mask : BitVec 8)
  | protocol (value : BitVec 8)
  | v4Addr (side : Side) (addr mask : BitVec 32)
  | tc (value mask : BitVec 8)
  | nextHdr (value : BitVec 8)
  | v6Addr (side : Side) (addr : Ip6Prefix)
  | ports (side : Side) (range : PortRange)
  | icmpType (value : BitVec 8)
  | icmpCode (value : BitVec 8)
  | spi (value : BitVec 32)

def RuleFamily.fields : RuleFamily → List RuleField
  | v4 rule =>
      rule.tos.toList.map (fun tos => .tos tos.1 tos.2) ++
        (rule.protocol.toList.map .protocol ++
          (rule.src.toList.map (fun src => .v4Addr .src src.1 src.2) ++
            rule.dst.toList.map fun dst => .v4Addr .dst dst.1 dst.2))
  | v6 rule =>
      rule.tc.toList.map (fun tc => .tc tc.1 tc.2) ++
        (rule.nextHdr.toList.map .nextHdr ++
          (rule.src.toList.map (.v6Addr .src) ++ rule.dst.toList.map (.v6Addr .dst)))

def FirewallRule.fields (rule : FirewallRule) : List RuleField :=
  .ipVsn rule.family.ipVsn :: (rule.family.fields ++
    (rule.srcPorts.toList.map (.ports .src) ++ (rule.dstPorts.toList.map (.ports .dst) ++
      (rule.icmpType.toList.map .icmpType ++ (rule.icmpCode.toList.map .icmpCode ++
        rule.spi.toList.map .spi)))))

inductive FirewallField where
  | ipFamily (family : List Char)
  | ipv4Address (side : Side) (addr mask : List Char)
  | ipv4TypeOfService (value mask : List Char)
  | ipv4NextHeaderProtocol (protocol : List Char)
  | ipv6Address (side : Side) (addr length : List Char)
  | ipv6TrafficClass (value mask : List Char)
  | ipv6NextHeaderProtocol (protocol : List Char)
  | ports (protocol : PortProtocol) (side : Side) (port range : List Char)
  | icmpType (type : List Char)
  | icmpCode (code : List Char)
  | esp (spi : List Char)

def ReadsNumber (text : List Char) (value : ℕ) : Prop :=
  text.length < maxXmlStrLen ∧ atoi text = BitVec.ofNat 32 value

instance (text : List Char) (value : ℕ) : Decidable (ReadsNumber text value) :=
  inferInstanceAs (Decidable (_ ∧ _))

def TextReaders.ReadsAddr (readers : TextReaders) (text : List Char) (addr : BitVec 32) : Prop :=
  text.length < maxXmlStrLen ∧ ntohl (readers.inetAddr text) = addr

instance (readers : TextReaders) (text : List Char) (addr : BitVec 32) :
    Decidable (readers.ReadsAddr text addr) := inferInstanceAs (Decidable (_ ∧ _))

def TextReaders.ReadsIp6 (readers : TextReaders) (text : List Char) (addr : List (BitVec 32)) :
    Prop :=
  text.length < maxXmlStrLen ∧ (readers.inetPton text).map (·.map ntohl) = some addr

instance (readers : TextReaders) (text : List Char) (addr : List (BitVec 32)) :
    Decidable (readers.ReadsIp6 text addr) := inferInstanceAs (Decidable (_ ∧ _))

inductive FirewallField.Reads (readers : TextReaders) : FirewallField → RuleField → Prop where
  | ipFamily {text vsn} (isVsn : ReadsNumber text (BitVec.toNat vsn)) :
      Reads readers (.ipFamily text) (.ipVsn vsn)
  | ipv4Address {side text maskText addr mask} (isAddr : readers.ReadsAddr text addr)
      (isMask : readers.ReadsAddr maskText mask) :
      Reads readers (.ipv4Address side text maskText) (.v4Addr side addr mask)
  | ipv4TypeOfService {text maskText value mask} (isValue : ReadsNumber text (BitVec.toNat value))
      (isMask : ReadsNumber maskText (BitVec.toNat mask)) :
      Reads readers (.ipv4TypeOfService text maskText) (.tos value mask)
  | ipv4NextHeaderProtocol {text value} (isValue : ReadsNumber text (BitVec.toNat value)) :
      Reads readers (.ipv4NextHeaderProtocol text) (.protocol value)
  | ipv6Address {side text lengthText addr} (isAddr : readers.ReadsIp6 text (Ip6Prefix.addr addr))
      (isLength : ReadsNumber lengthText (Ip6Prefix.length addr)) :
      Reads readers (.ipv6Address side text lengthText) (.v6Addr side addr)
  | ipv6TrafficClass {text maskText value mask} (isValue : ReadsNumber text (BitVec.toNat value))
      (isMask : ReadsNumber maskText (BitVec.toNat mask)) :
      Reads readers (.ipv6TrafficClass text maskText) (.tc value mask)
  | ipv6NextHeaderProtocol {text value} (isValue : ReadsNumber text (BitVec.toNat value)) :
      Reads readers (.ipv6NextHeaderProtocol text) (.nextHdr value)
  | ports {protocol side portText rangeText range}
    (isProtocol : PortRange.protocol range = protocol)
      (isPort : ReadsNumber portText (PortRange.port range))
      (isRange : ReadsNumber rangeText (PortRange.range range)) :
      Reads readers (.ports protocol side portText rangeText) (.ports side range)
  | icmpType {text value} (isValue : ReadsNumber text (BitVec.toNat value)) :
      Reads readers (.icmpType text) (.icmpType value)
  | icmpCode {text value} (isValue : ReadsNumber text (BitVec.toNat value)) :
      Reads readers (.icmpCode text) (.icmpCode value)
  | esp {text value} (isValue : ReadsNumber text (BitVec.toNat value)) :
      Reads readers (.esp text) (.spi value)

def FirewallRule.WrittenAs (rule : FirewallRule) (readers : TextReaders)
    (fields : List FirewallField) : Prop :=
  ∃ order, order.Perm rule.fields ∧ List.Forall₂ (FirewallField.Reads readers) fields order

section Tree

def leaf (tag : FirewallTag) (text : List Char) : XmlNode :=
  .node (.element tag.text) (.node (.text text) .nil .nil) .nil

def group (name : List Char) (children : List XmlNode) : XmlNode :=
  .node (.element name) (.concat children) .nil

def espTag : List Char := "ESP".toList

def FirewallField.tree : FirewallField → XmlNode
  | ipFamily family => leaf .ipFamily family
  | ipv4Address side addr mask =>
      group (FirewallTag.ipv4Address side).text
        [leaf (.ipv4IpAddress side) addr, leaf (.ipv4SubnetMask side) mask]
  | ipv4TypeOfService value mask =>
      group FirewallTag.ipv4TypeOfService.text [leaf .tosValue value, leaf .tosMask mask]
  | ipv4NextHeaderProtocol protocol => leaf .ipv4NextHeaderProtocol protocol
  | ipv6Address side addr length =>
      group (FirewallTag.ipv6Address side).text
        [leaf (.ipv6IpAddress side) addr, leaf (.ipv6Prefix side) length]
  | ipv6TrafficClass value mask =>
      group FirewallTag.ipv6TrafficClass.text [leaf .trfClsValue value, leaf .trfClsMask mask]
  | ipv6NextHeaderProtocol protocol => leaf .ipv6NextHeaderProtocol protocol
  | ports protocol side port range =>
      group (FirewallTag.ports protocol side).text
        [leaf (.port protocol side) port, leaf (.range protocol side) range]
  | icmpType type => leaf .icmpType type
  | icmpCode code => leaf .icmpCode code
  | esp spi => group espTag [leaf .espSpi spi]

def ruleTree (fields : List FirewallField) : XmlNode :=
  group FirewallTag.firewall.text (fields.map FirewallField.tree)

def firewallTree (enabled allowed : List Char) (rules : List (List FirewallField)) : XmlNode :=
  group FirewallTag.system.text [group FirewallTag.mobileApFirewallCfg.text
    (leaf .firewallEnabled enabled :: leaf .firewallPktsAllowed allowed :: rules.map ruleTree)]

end Tree

section Events

variable (readers : TextReaders) (layout : UnionLayout)

theorem tagOf_text (tag : FirewallTag) :
    (firewallXmlParser readers layout).tagOf (.element tag.text) = some tag := by
  have isTag : ∀ tag ∈ FirewallTag.all, (FirewallTag.all.find? fun other =>
      ipacmUtilIcmpString tag.text other.text) = some tag := by decide +kernel
  have mem : tag ∈ FirewallTag.all := by
    rcases tag with _ | _ | _ | _ | _ | _ | side | side | side | _ | _ | _ | _ | side | side |
      side | _ | _ | _ | _ | ⟨protocol, side⟩ | ⟨protocol, side⟩ | ⟨protocol, side⟩ | _ | _ | _
    all_goals try cases protocol
    all_goals try cases side
    all_goals decide
  exact isTag tag mem

theorem tagOf_esp : (firewallXmlParser readers layout).tagOf (.element espTag) = none := by
  have unknown : (FirewallTag.all.find? fun tag => ipacmUtilIcmpString espTag tag.text) = none := by
    decide +kernel
  exact unknown

theorem events_leaf (tag : FirewallTag) (text : List Char) :
    (firewallXmlParser readers layout).events (leaf tag text) = [(tag, some text)] := by
  have below : (firewallXmlParser readers layout).events (.node (.text text) .nil .nil) = [] := rfl
  rw [leaf, XmlParser.events_element _ (tagOf_text readers layout tag), below, ite_self]
  rfl

theorem events_group (tag : FirewallTag) (children : List XmlNode) :
    (firewallXmlParser readers layout).events (group tag.text children) =
      (tag, ipacmReadContentElement (.concat children)) ::
        if tag.descends then children.flatMap (firewallXmlParser readers layout).events else
          [] := by
  rw [group, XmlParser.events_element _ (tagOf_text readers layout tag), XmlParser.events_concat]
  rfl

end Events

def IpacmFirewallConf.ofEntries (entries : List ExtdFirewallEntryConf) (accept enable : Bool) :
    IpacmFirewallConf :=
  ⟨⟨UInt8.ofNat entries.length, fun index => entries.getD index .cleared⟩, accept, enable⟩

namespace IpacmFirewallConf

variable {entries : List ExtdFirewallEntryConf} {entry : ExtdFirewallEntryConf}
  {accept enable : Bool}

theorem cleared_eq : cleared = ofEntries [] false false := rfl

theorem ofEntries_increase :
    { ofEntries entries accept enable with
      extdFirewallEntries := (ofEntries entries accept enable).extdFirewallEntries.increase } =
      ofEntries (entries ++ [.cleared]) accept enable := by
  have num : UInt8.ofNat entries.length + 1 = UInt8.ofNat
      (entries ++ [ExtdFirewallEntryConf.cleared]).length := by
    rw [length_append, length_singleton, UInt8.ofNat_add]
    rfl
  have same : (fun index : Fin ipacmMaxFirewallEntries => entries.getD index .cleared) =
      fun index : Fin ipacmMaxFirewallEntries =>
        (entries ++ [ExtdFirewallEntryConf.cleared]).getD index .cleared := by
    funext index
    simp only [getD_eq_getElem?_getD]
    rcases Nat.lt_trichotomy index entries.length with inside | isLast | beyond
    · rw [getElem?_append_left inside]
    · rw [isLast, getElem?_eq_none (Nat.le_refl _), getElem?_concat_length]
      rfl
    · rw [getElem?_eq_none (by omega), getElem?_eq_none (by simp; omega)]
  simp only [ofEntries, EntryTable.increase, num, same]

theorem modifyEntry_ofEntries (room : entries.length < ipacmMaxFirewallEntries)
    (change : ExtdFirewallEntryConf → ExtdFirewallEntryConf) :
    (ofEntries (entries ++ [entry]) accept enable).modifyEntry change =
      .ok (ofEntries (entries ++ [change entry]) accept enable) := by
  have small : entries.length + 1 < 256 := by
    simp only [ipacmMaxFirewallEntries] at room
    omega
  have num : (UInt8.ofNat (entries ++ [entry]).length).toNat = entries.length + 1 := by
    rw [length_append, length_singleton, UInt8.toNat_ofNat_of_lt' small]
  have same : (fun index : Fin ipacmMaxFirewallEntries =>
        (entries ++ [change entry]).getD index .cleared) =
      Function.update (fun index : Fin ipacmMaxFirewallEntries =>
        (entries ++ [entry]).getD index .cleared) ⟨entries.length, room⟩ (change entry) := by
    funext index
    simp only [getD_eq_getElem?_getD, Function.update_apply, Fin.ext_iff]
    rcases Nat.lt_trichotomy index entries.length with inside | isLast | beyond
    · rw [getElem?_append_left inside, getElem?_append_left inside,
        if_neg (Nat.ne_of_lt inside)]
    · rw [isLast, getElem?_concat_length, if_pos rfl]
      rfl
    · rw [getElem?_eq_none (by simp; omega), getElem?_eq_none (by simp; omega),
        if_neg (Nat.ne_of_gt beyond)]
  have last : (entries ++ [entry]).getD entries.length .cleared = entry := by
    rw [getD_eq_getElem?_getD, getElem?_concat_length]
    rfl
  have modified : (ofEntries (entries ++ [entry]) accept enable).extdFirewallEntries.modifyLast
      change = _ := EntryTable.modifyLast_of_num num room change
  simp only [modifyEntry, modified]
  simp only [ofEntries, last, same, length_append, length_singleton]
  rfl

end IpacmFirewallConf

section Parsing

variable (readers : TextReaders) (layout : UnionLayout)

def RuleField.change (entry : ExtdFirewallEntryConf) : RuleField → ExtdFirewallEntryConf
  | ipVsn vsn => { entry with ipVsn := vsn }
  | tos value mask =>
      { entry with
        attrib := entry.attrib.modifyV4 layout fun rule => { rule with tos := value &&& mask } }
  | protocol value =>
      { entry with
        attrib := entry.attrib.modifyV4 layout fun rule => { rule with protocol := value } }
  | v4Addr side addr mask =>
      { entry with
        attrib := entry.attrib.modifyV4 layout fun rule =>
          (rule.setAddr side addr).setMask side mask }
  | tc value mask =>
      { entry with
        attrib := entry.attrib.modifyV6 layout fun rule => { rule with tc := value &&& mask } }
  | nextHdr value =>
      { entry with
        attrib := entry.attrib.modifyV6 layout fun rule => { rule with nextHdr := value } }
  | v6Addr side addr =>
      { entry with
        attrib := entry.attrib.modifyV6 layout fun rule =>
          (rule.setAddr side addr.addr).setPrefix side addr.length }
  | ports .src range =>
      { entry with
        attrib := { entry.attrib with
          srcPort := if range.range = 0 then .ofNat 16 range.port else 0
          srcPortLo :=
            if range.range = 0 then entry.attrib.srcPortLo else .ofNat 16 range.port
          srcPortHi :=
            if range.range = 0 then entry.attrib.srcPortHi
            else .ofNat 16 (range.port + range.range) } }
  | ports .dst range =>
      { entry with
        attrib := { entry.attrib with
          dstPort := if range.range = 0 then .ofNat 16 range.port else 0
          dstPortLo :=
            if range.range = 0 then entry.attrib.dstPortLo else .ofNat 16 range.port
          dstPortHi :=
            if range.range = 0 then entry.attrib.dstPortHi
            else .ofNat 16 (range.port + range.range) } }
  | icmpType value => { entry with attrib := { entry.attrib with type := value } }
  | icmpCode value => { entry with attrib := { entry.attrib with code := value } }
  | spi _ => entry

def RuleField.flt : RuleField → Option IpaFlt
  | ipVsn _ => none
  | tos _ _ => some .tos
  | protocol _ => some .protocol
  | v4Addr side _ _ | v6Addr side _ => some side.addrFlt
  | tc _ _ => some .tc
  | nextHdr _ => some .nextHdr
  | ports .src range => some (if range.range = 0 then .srcPort else .srcPortRange)
  | ports .dst range => some (if range.range = 0 then .dstPort else .dstPortRange)
  | icmpType _ => some .type
  | icmpCode _ => some .code
  | spi _ => some .spi

def RuleField.parsedFlt : RuleField → Option IpaFlt
  | spi _ => none
  | field => field.flt

def ExtdFirewallEntryConf.flagged (entry : ExtdFirewallEntryConf) (flt : Option IpaFlt) :
    ExtdFirewallEntryConf :=
  { entry with
    attrib := { entry.attrib with
      attribMask := flt.elim entry.attrib.attribMask (insert · entry.attrib.attribMask) } }

def RuleField.apply (entry : ExtdFirewallEntryConf) (field : RuleField) : ExtdFirewallEntryConf :=
  (field.change layout entry).flagged field.parsedFlt

def Changes (events : List (FirewallTag × Option (List Char)))
    (change : ExtdFirewallEntryConf → ExtdFirewallEntryConf) : Prop :=
  ∀ entries entry accept enable, entries.length < ipacmMaxFirewallEntries →
    events.foldlM (fun config event =>
        (firewallXmlParser readers layout).visit event.1 event.2 config)
      (IpacmFirewallConf.ofEntries (entries ++ [entry]) accept enable) =
      .ok (.ofEntries (entries ++ [change entry]) accept enable)

variable {readers layout}

theorem Changes.nil : Changes readers layout [] id :=
  fun _ _ _ _ _ => rfl

theorem Changes.append {first second : List (FirewallTag × Option (List Char))}
    {change changeThen : ExtdFirewallEntryConf → ExtdFirewallEntryConf}
    (changes : Changes readers layout first change)
    (changesThen : Changes readers layout second changeThen) :
    Changes readers layout (first ++ second) (changeThen ∘ change) := by
  intro entries entry accept enable room
  rw [foldlM_append, changes entries entry accept enable room]
  exact changesThen entries (change entry) accept enable room

theorem Changes.leaf {tag : FirewallTag} {text : List Char} (isLeaf : tag.descends = false)
    (short : text.length < maxXmlStrLen) :
    Changes readers layout [(tag, some text)] (tag.leaf readers layout text) := by
  intro entries entry accept enable room
  simp only [foldlM_cons, foldlM_nil, firewallXmlParser, isLeaf, Bool.false_eq_true,
    if_false, withContent_of_short short, IpacmFirewallConf.modifyEntry_ofEntries room]
  rfl

theorem Changes.group {tag : FirewallTag} {flt : IpaFlt} (isGroup : tag.groupFlag = some flt)
    (content : Option (List Char)) :
    Changes readers layout [(tag, content)] (·.flagged (some flt)) := by
  intro entries entry accept enable room
  have visited : (firewallXmlParser readers layout).visit tag content
      (.ofEntries (entries ++ [entry]) accept enable) =
        (IpacmFirewallConf.ofEntries (entries ++ [entry]) accept enable).modifyEntry
          (·.flagged (some flt)) := by
    cases tag <;> first
      | cases isGroup
        rfl
      | cases isGroup
  rw [foldlM_cons, visited, IpacmFirewallConf.modifyEntry_ofEntries room]
  rfl

theorem Changes.ports (protocol : PortProtocol) (side : Side) (content : Option (List Char)) :
    Changes readers layout [(.ports protocol side, content)] id :=
  fun _ _ _ _ _ => rfl

theorem Changes.of_eq {events : List (FirewallTag × Option (List Char))}
    {change other : ExtdFirewallEntryConf → ExtdFirewallEntryConf}
    (changes : Changes readers layout events change) (same : ∀ entry, change entry = other entry) :
    Changes readers layout events other :=
  funext same ▸ changes

theorem Changes.pair {tag first second : FirewallTag} {text textThen : List Char}
    {change : ExtdFirewallEntryConf → ExtdFirewallEntryConf} (descends : tag.descends = true)
    (isGroup : ∀ content, Changes readers layout [(tag, content)] change)
    (isLeaf : first.descends = false) (isLeafThen : second.descends = false)
    (short : text.length < maxXmlStrLen) (shortThen : textThen.length < maxXmlStrLen) :
    Changes readers layout
      ((firewallXmlParser readers layout).events
        (Ipacm.group tag.text [Ipacm.leaf first text, Ipacm.leaf second textThen]))
      fun entry => second.leaf readers layout textThen
        (first.leaf readers layout text (change entry)) := by
  rw [events_group, if_pos descends]
  simp only [flatMap_cons, flatMap_nil, events_leaf, append_nil]
  exact ((isGroup _).append (.leaf isLeaf short)).append (.leaf isLeafThen shortThen)

theorem setWidth_ofNat {size : ℕ} (isLe : size ≤ 32) (value : BitVec size) :
    (BitVec.ofNat 32 value.toNat).setWidth size = value := by
  have isLt : value.toNat < 2 ^ 32 :=
    lt_of_lt_of_le value.isLt (Nat.pow_le_pow_right (by omega) isLe)
  apply BitVec.eq_of_toNat_eq
  rw [BitVec.toNat_setWidth, BitVec.toNat_ofNat, Nat.mod_eq_of_lt isLt,
    Nat.mod_eq_of_lt value.isLt]

theorem PortRange.parsed (range : PortRange) (entry : ExtdFirewallEntryConf) (side : Side) :
    { entry with
      attrib := (entry.attrib.setPort side ((BitVec.ofNat 32 range.port).setWidth 16)).setRange side
        (BitVec.ofNat 32 range.range) } = RuleField.apply layout entry (.ports side range) := by
  have bounded := range.bounded
  have port : (BitVec.ofNat 32 range.port).setWidth 16 = BitVec.ofNat 16 range.port := by
    apply BitVec.eq_of_toNat_eq
    simp only [BitVec.toNat_setWidth, BitVec.toNat_ofNat]
    omega
  have last : ((BitVec.ofNat 16 range.port).setWidth 32 + BitVec.ofNat 32 range.range).setWidth 16 =
      BitVec.ofNat 16 (range.port + range.range) := by
    apply BitVec.eq_of_toNat_eq
    simp only [BitVec.toNat_setWidth, BitVec.toNat_add, BitVec.toNat_ofNat]
    omega
  have isZero : BitVec.ofNat 32 range.range = 0 ↔ range.range = 0 := by
    rw [← BitVec.toNat_inj, BitVec.toNat_ofNat]
    simp only [BitVec.ofNat_eq_ofNat, BitVec.toNat_ofNat]
    omega
  cases side with
  | src | dst =>
      simp only [IpaRuleAttrib.setPort, IpaRuleAttrib.setRange, port, last, ne_eq, isZero, ite_not,
        RuleField.apply, RuleField.change, RuleField.parsedFlt, RuleField.flt]
      split_ifs
      · rfl
      · rfl

theorem Changes.field {field : FirewallField} {value : RuleField}
    (reads : field.Reads readers value) :
    Changes readers layout ((firewallXmlParser readers layout).events field.tree)
      (RuleField.apply layout · value) := by
  cases reads with
  | @ipFamily text vsn isVsn =>
      rw [FirewallField.tree, events_leaf]
      refine (Changes.leaf rfl isVsn.1).of_eq ?_
      intro entry
      simp only [FirewallTag.leaf, isVsn.2, BitVec.ofNat_toNat, BitVec.setWidth_eq]
      rfl
  | @ipv4Address side text maskText addr mask isAddr isMask =>
      refine (Changes.pair rfl (Changes.group rfl) rfl rfl isAddr.1 isMask.1).of_eq ?_
      intro entry
      simp only [FirewallTag.leaf, (contentBuf_of_short isAddr.1).2.2,
        (contentBuf_of_short isMask.1).2.2, isAddr.2, isMask.2]
      rfl
  | @ipv4TypeOfService text maskText tos mask isValue isMask
  | @ipv6TrafficClass text maskText tc mask isValue isMask =>
      refine (Changes.pair rfl (Changes.group rfl) rfl rfl isValue.1 isMask.1).of_eq ?_
      intro entry
      simp only [FirewallTag.leaf, isValue.2, isMask.2, setWidth_ofNat (by omega : 8 ≤ 32)]
      rfl
  | ipv4NextHeaderProtocol isValue | ipv6NextHeaderProtocol isValue | icmpType isValue
  | icmpCode isValue =>
      rw [FirewallField.tree, events_leaf]
      refine (Changes.leaf rfl isValue.1).of_eq ?_
      intro entry
      simp only [FirewallTag.leaf, isValue.2, setWidth_ofNat (by omega : 8 ≤ 32)]
      rfl
  | @ipv6Address side text lengthText addr isAddr isLength =>
      refine (Changes.pair rfl (Changes.group rfl) rfl rfl isAddr.1 isLength.1).of_eq ?_
      intro entry
      have words : readers.ip6Words text = addr.addr := by
        rcases Option.map_eq_some_iff.mp isAddr.2 with ⟨words, read, isWords⟩
        rw [TextReaders.ip6Words, read, Option.getD_some, isWords]
      have length : (atoi lengthText).toInt = addr.length := by
        have bounded := addr.bounded
        have toNat : (BitVec.ofNat 32 addr.length).toNat = addr.length := by
          rw [BitVec.toNat_ofNat]
          omega
        rw [isLength.2, BitVec.toInt_eq_toNat_of_lt (by omega), toNat]
      simp only [FirewallTag.leaf, words, length]
      rfl
  | @ports protocol side portText rangeText range isProtocol isPort isRange =>
      refine (Changes.pair rfl (Changes.ports _ side) rfl rfl isPort.1 isRange.1).of_eq ?_
      intro entry
      simp only [FirewallTag.leaf, isPort.2, isRange.2]
      exact range.parsed entry side
  | esp isValue =>
      rw [FirewallField.tree, Ipacm.group, XmlParser.events_unknown _ (tagOf_esp readers layout)]
      exact Changes.nil

theorem Changes.fields {fields : List FirewallField} {order : List RuleField}
    (reads : List.Forall₂ (FirewallField.Reads readers) fields order) :
    Changes readers layout
      ((fields.map FirewallField.tree).flatMap (firewallXmlParser readers layout).events)
      (order.foldl (RuleField.apply layout)) := by
  induction reads with
  | nil => exact Changes.nil
  | cons first _ ih => exact (Changes.field first).append ih

end Parsing

def RuleFamily.Gives : RuleFamily → RuleField → Prop
  | v4 rule, .tos value mask => rule.tos = some (value, mask)
  | v4 rule, .protocol value => rule.protocol = some value
  | v4 rule, .v4Addr .src addr mask => rule.src = some (addr, mask)
  | v4 rule, .v4Addr .dst addr mask => rule.dst = some (addr, mask)
  | v6 rule, .tc value mask => rule.tc = some (value, mask)
  | v6 rule, .nextHdr value => rule.nextHdr = some value
  | v6 rule, .v6Addr .src addr => rule.src = some addr
  | v6 rule, .v6Addr .dst addr => rule.dst = some addr
  | _, _ => False

namespace FirewallRule

variable (rule : FirewallRule)

def Gives : RuleField → Prop
  | .ipVsn vsn => vsn = rule.family.ipVsn
  | .ports .src range => rule.srcPorts = some range
  | .ports .dst range => rule.dstPorts = some range
  | .icmpType value => rule.icmpType = some value
  | .icmpCode value => rule.icmpCode = some value
  | .spi value => rule.spi = some value
  | field => rule.family.Gives field

theorem family_mem_fields (family : RuleFamily) (field : RuleField) :
    field ∈ family.fields ↔ family.Gives field := by
  cases family with
  | v4 rule | v6 rule =>
      simp only [RuleFamily.fields, mem_append, mem_map, Option.mem_toList,
        Prod.exists]
      cases field with
      | v4Addr side addr mask => cases side <;> simp [RuleFamily.Gives]
      | v6Addr side addr => cases side <;> simp [RuleFamily.Gives]
      | _ => simp [RuleFamily.Gives]

theorem gives_of_family {field : RuleField} (given : rule.family.Gives field) :
    rule.Gives field := by
  cases family : rule.family with
  | v4 rule4 =>
      rw [family] at given
      cases field with
      | tos | protocol | v4Addr => simpa only [Gives, family] using given
      | _ => exact given.elim
  | v6 rule6 =>
      rw [family] at given
      cases field with
      | tc | nextHdr | v6Addr => simpa only [Gives, family] using given
      | _ => exact given.elim

theorem mem_fields (field : RuleField) : field ∈ rule.fields ↔ rule.Gives field := by
  simp only [fields, mem_cons, mem_append, family_mem_fields, mem_map,
    Option.mem_toList]
  constructor
  · rintro (rfl | given | ⟨range, given, rfl⟩ | ⟨range, given, rfl⟩ | ⟨value, given, rfl⟩ |
      ⟨value, given, rfl⟩ | ⟨value, given, rfl⟩)
    · rfl
    · exact rule.gives_of_family given
    all_goals exact given
  · intro given
    cases field with
    | ports side range => cases side <;> simp [show _ = _ from given]
    | ipVsn vsn => exact .inl (congrArg _ given)
    | icmpType value | icmpCode value | spi value => simp [show _ = _ from given]
    | _ => exact .inr (.inl given)

theorem change_comm (layout : UnionLayout) {first second : RuleField} (gives : rule.Gives first)
    (givesThen : rule.Gives second) (entry : ExtdFirewallEntryConf) :
    second.change layout (first.change layout entry) =
      first.change layout (second.change layout entry) := by
  rcases rule with ⟨rule | rule, srcPorts, dstPorts, icmpType, icmpCode, spi⟩
  all_goals
    rcases first with _ | _ | _ | ⟨_ | _⟩ | _ | _ | ⟨_ | _⟩ | ⟨_ | _⟩ | _ | _ | _
    all_goals first
      | exact gives.elim
      | rcases second with _ | _ | _ | ⟨_ | _⟩ | _ | _ | ⟨_ | _⟩ | ⟨_ | _⟩ | _ | _ | _
        all_goals first
          | rfl
          | exact givesThen.elim
          | cases gives.symm.trans givesThen
            rfl
          | cases gives.trans givesThen.symm
            rfl

end FirewallRule

def ExtdFirewallEntryConf.withMask (entry : ExtdFirewallEntryConf) (attribMask : Finset IpaFlt) :
    ExtdFirewallEntryConf :=
  { entry with attrib := { entry.attrib with attribMask := attribMask } }

namespace RuleField

variable (layout : UnionLayout) (entry : ExtdFirewallEntryConf) (field : RuleField)

theorem change_withMask (attribMask : Finset IpaFlt) :
    field.change layout (entry.withMask attribMask) =
      (field.change layout entry).withMask attribMask := by
  rcases field with _ | _ | _ | ⟨_ | _⟩ | _ | _ | ⟨_ | _⟩ | ⟨_ | _⟩ | _ | _ | _
  all_goals rfl

theorem change_attribMask :
    (field.change layout entry).attrib.attribMask = entry.attrib.attribMask := by
  rcases field with _ | _ | _ | ⟨_ | _⟩ | _ | _ | ⟨_ | _⟩ | ⟨_ | _⟩ | _ | _ | _
  all_goals rfl

theorem apply_eq : field.apply layout entry =
    (field.change layout entry).withMask
      (field.parsedFlt.elim entry.attrib.attribMask (insert · entry.attrib.attribMask)) := by
  rw [apply, ExtdFirewallEntryConf.flagged, change_attribMask]
  rfl

theorem apply_withMask (attribMask : Finset IpaFlt) :
    field.apply layout (entry.withMask attribMask) =
      (field.change layout entry).withMask
        (field.parsedFlt.elim attribMask (insert · attribMask)) := by
  rw [apply_eq, change_withMask]
  rfl

def flags (fields : List RuleField) (attribMask : Finset IpaFlt) : Finset IpaFlt :=
  fields.foldl (fun mask field => field.parsedFlt.elim mask (insert · mask)) attribMask

theorem foldl_apply (fields : List RuleField) (attribMask : Finset IpaFlt) :
    fields.foldl (apply layout) (entry.withMask attribMask) =
      (fields.foldl (change layout) entry).withMask (flags fields attribMask) := by
  induction fields generalizing entry attribMask with
  | nil => rfl
  | cons field fields ih =>
      rw [foldl_cons, apply_withMask, ih, foldl_cons]
      rfl

theorem mem_flags (fields : List RuleField) (attribMask : Finset IpaFlt) (flt : IpaFlt) :
    flt ∈ flags fields attribMask ↔
      flt ∈ attribMask ∨ ∃ field ∈ fields, field.parsedFlt = some flt := by
  induction fields generalizing attribMask with
  | nil => simp [flags]
  | cons field fields ih =>
      rw [flags, foldl_cons, ← flags, ih]
      cases isFlt : field.parsedFlt with
      | none => simp [isFlt]
      | some flt' =>
          simp only [Option.elim_some, Finset.mem_insert, exists_mem_cons_iff, isFlt,
            Option.some_inj, eq_comm (a := flt)]
          rw [or_assoc, or_left_comm]

theorem parsedFlt_ne_spi : field.parsedFlt ≠ some .spi := by
  rcases field with _ | _ | _ | ⟨_ | _⟩ | _ | _ | ⟨_ | _⟩ | ⟨_ | _⟩ | _ | _ | _
  all_goals
    simp only [parsedFlt, flt, Side.addrFlt]
    first
      | split_ifs
        all_goals simp
      | simp

end RuleField

namespace FirewallRule

variable (rule : FirewallRule) (layout : UnionLayout)

def parsed : ExtdFirewallEntryConf := rule.fields.foldl (RuleField.apply layout) .cleared

theorem foldl_order {order : List RuleField} (isOrder : order.Perm rule.fields) :
    order.foldl (RuleField.apply layout) .cleared = rule.parsed layout := by
  have changed : order.foldl (RuleField.change layout) .cleared =
      rule.fields.foldl (RuleField.change layout) .cleared := by
    apply isOrder.foldl_eq'
    intro first isFirst second isSecond entry
    have gives := (rule.mem_fields first).mp (isOrder.mem_iff.mp isFirst)
    have givesThen := (rule.mem_fields second).mp (isOrder.mem_iff.mp isSecond)
    exact rule.change_comm layout gives givesThen entry
  have masks : RuleField.flags order ∅ = RuleField.flags rule.fields ∅ := by
    ext flt
    simp only [RuleField.mem_flags, isOrder.mem_iff]
  have ordered := RuleField.foldl_apply layout .cleared order ∅
  have inRule := RuleField.foldl_apply layout .cleared rule.fields ∅
  rw [changed, masks] at ordered
  exact ordered.trans inRule.symm

end FirewallRule

end HtcPme.Ipacm
