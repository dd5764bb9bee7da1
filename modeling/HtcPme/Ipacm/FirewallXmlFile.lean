import HtcPme.Ipacm.FirewallXmlRules

/-!
# What the firewall parser makes of a file

The parser lists an entry for each rule of the file in order, which holds the rule exactly if it
gives no SPI and no prefix whose length is not a multiple of four.
-/

namespace HtcPme.Ipacm

open IpacmFirewallConf List

open Gps (atoi)

def prefixMask (length : ℕ) : List (BitVec 32) :=
  (List.range 4).map fun word => BitVec.allOnes 32 <<< (32 - min 32 (length - 32 * word))

def ip6Zero : List (BitVec 32) := [0, 0, 0, 0]

def V4Rule.attrib (rule : V4Rule) : RuleV4 where
  tos := rule.tos.elim 0 fun tos => tos.1 &&& tos.2
  protocol := rule.protocol.getD 0
  srcAddr := rule.src.elim 0 Prod.fst
  srcAddrMask := rule.src.elim 0 Prod.snd
  dstAddr := rule.dst.elim 0 Prod.fst
  dstAddrMask := rule.dst.elim 0 Prod.snd

def V6Rule.attrib (rule : V6Rule) : RuleV6 where
  tc := rule.tc.elim 0 fun tc => tc.1 &&& tc.2
  nextHdr := rule.nextHdr.getD 0
  srcAddr := rule.src.elim ip6Zero Ip6Prefix.addr
  srcAddrMask := rule.src.elim ip6Zero fun src => prefixMask src.length
  dstAddr := rule.dst.elim ip6Zero Ip6Prefix.addr
  dstAddrMask := rule.dst.elim ip6Zero fun dst => prefixMask dst.length

def PortsHeld (ports : Option PortRange) (port low high : BitVec 16) : Prop :=
  match ports with
  | none => port = 0 ∧ low = 0 ∧ high = 0
  | some range =>
      if range.range = 0 then port.toNat = range.port ∧ low = 0 ∧ high = 0
      else port = 0 ∧ low.toNat = range.port ∧ high.toNat = range.port + range.range

namespace FirewallRule

structure HeldBy (rule : FirewallRule) (layout : UnionLayout) (entry : ExtdFirewallEntryConf) :
    Prop where
  ipVsn : entry.ipVsn = rule.family.ipVsn
  attribMask : ∀ flt, flt ∈ entry.attrib.attribMask ↔
    ∃ field, rule.Gives field ∧ field.flt = some flt
  srcPorts :
    PortsHeld rule.srcPorts entry.attrib.srcPort entry.attrib.srcPortLo entry.attrib.srcPortHi
  dstPorts :
    PortsHeld rule.dstPorts entry.attrib.dstPort entry.attrib.dstPortLo entry.attrib.dstPortHi
  type : entry.attrib.type = rule.icmpType.getD 0
  code : entry.attrib.code = rule.icmpCode.getD 0
  spi : entry.attrib.spi = rule.spi.getD 0
  addrs : match rule.family with
    | .v4 rule => entry.attrib.u.asV4 layout = rule.attrib
    | .v6 rule => entry.attrib.u.asV6 layout = rule.attrib

def Parsable (rule : FirewallRule) : Prop :=
  rule.spi = none ∧ match rule.family with
    | .v4 _ => True
    | .v6 rule => (∀ src ∈ rule.src, 4 ∣ src.length) ∧ ∀ dst ∈ rule.dst, 4 ∣ dst.length

end FirewallRule

theorem maskWords_iff (addr : Ip6Prefix) :
    maskWords addr.length ip6Zero = prefixMask addr.length ↔ 4 ∣ addr.length := by
  have all : ∀ length : Fin 129,
      (maskWords (length : ℕ) ip6Zero = prefixMask length ↔ 4 ∣ (length : ℕ)) := by
    decide +kernel
  exact all ⟨addr.length, Nat.lt_succ_of_le addr.bounded⟩

namespace RuleField

variable (layout : UnionLayout) (entry : ExtdFirewallEntryConf)

theorem foldl_type (icmpType : Option (BitVec 8)) :
    (icmpType.toList.map RuleField.icmpType).foldl (change layout) entry =
      { entry with
        attrib := { entry.attrib with type := icmpType.getD entry.attrib.type } } := by
  cases icmpType <;> rfl

theorem foldl_code (icmpCode : Option (BitVec 8)) :
    (icmpCode.toList.map RuleField.icmpCode).foldl (change layout) entry =
      { entry with
        attrib := { entry.attrib with code := icmpCode.getD entry.attrib.code } } := by
  cases icmpCode <;> rfl

theorem foldl_spi (spi : Option (BitVec 32)) :
    (spi.toList.map RuleField.spi).foldl (change layout) entry = entry := by
  cases spi <;> rfl

theorem foldl_srcPorts (ports : Option PortRange) :
    (ports.toList.map (RuleField.ports .src)).foldl (change layout) entry =
      { entry with
        attrib := { entry.attrib with
          srcPort := ports.elim entry.attrib.srcPort fun range =>
            if range.range = 0 then .ofNat 16 range.port else 0
          srcPortLo := ports.elim entry.attrib.srcPortLo fun range =>
            if range.range = 0 then entry.attrib.srcPortLo else .ofNat 16 range.port
          srcPortHi := ports.elim entry.attrib.srcPortHi fun range =>
            if range.range = 0 then entry.attrib.srcPortHi
            else .ofNat 16 (range.port + range.range) } } := by
  cases ports <;> rfl

theorem foldl_dstPorts (ports : Option PortRange) :
    (ports.toList.map (RuleField.ports .dst)).foldl (change layout) entry =
      { entry with
        attrib := { entry.attrib with
          dstPort := ports.elim entry.attrib.dstPort fun range =>
            if range.range = 0 then .ofNat 16 range.port else 0
          dstPortLo := ports.elim entry.attrib.dstPortLo fun range =>
            if range.range = 0 then entry.attrib.dstPortLo else .ofNat 16 range.port
          dstPortHi := ports.elim entry.attrib.dstPortHi fun range =>
            if range.range = 0 then entry.attrib.dstPortHi
            else .ofNat 16 (range.port + range.range) } } := by
  cases ports <;> rfl

theorem foldl_v4 (rule : V4Rule) (cleared : entry.attrib.u = .cleared) :
    ∃ u, (RuleFamily.v4 rule).fields.foldl (change layout) entry =
      { entry with attrib := { entry.attrib with u := u } } ∧ u.asV4 layout = rule.attrib := by
  rcases entry with ⟨⟨_, _, _, _, _, _, _, _, _, _, u⟩, _⟩
  cases cleared
  rcases rule with ⟨_ | _, _ | _, _ | _, _ | _⟩
  all_goals exact ⟨_, rfl, rfl⟩

def parsedV6 (rule : V6Rule) : RuleV6 :=
  { rule.attrib with
    srcAddrMask := rule.src.elim ip6Zero fun src => maskWords src.length ip6Zero
    dstAddrMask := rule.dst.elim ip6Zero fun dst => maskWords dst.length ip6Zero }

theorem foldl_v6 (rule : V6Rule) (cleared : entry.attrib.u = .cleared) :
    ∃ u, (RuleFamily.v6 rule).fields.foldl (change layout) entry =
      { entry with attrib := { entry.attrib with u := u } } ∧ u.asV6 layout = parsedV6 rule := by
  rcases entry with ⟨⟨_, _, _, _, _, _, _, _, _, _, u⟩, _⟩
  cases cleared
  rcases rule with ⟨_ | _, _ | _, _ | _, _ | _⟩
  all_goals exact ⟨_, rfl, rfl⟩

end RuleField

namespace FirewallRule

variable (rule : FirewallRule) (layout : UnionLayout)

theorem mem_parsed_attribMask (flt : IpaFlt) :
    flt ∈ (rule.parsed layout).attrib.attribMask ↔
      ∃ field, rule.Gives field ∧ field.parsedFlt = some flt := by
  have folded : rule.parsed layout = _ :=
    RuleField.foldl_apply layout ExtdFirewallEntryConf.cleared rule.fields ∅
  rw [folded]
  refine (RuleField.mem_flags rule.fields ∅ flt).trans ?_
  simp only [Finset.notMem_empty, false_or, rule.mem_fields]

theorem parsed_spec : ∃ u, (match rule.family with
      | .v4 rule => u.asV4 layout = rule.attrib
      | .v6 rule => u.asV6 layout = RuleField.parsedV6 rule) ∧
    ∃ attribMask, rule.parsed layout =
      ⟨⟨attribMask,
        rule.srcPorts.elim 0 fun range =>
          if range.range = 0 then 0 else .ofNat 16 range.port,
        rule.srcPorts.elim 0 fun range =>
          if range.range = 0 then 0 else .ofNat 16 (range.port + range.range),
        rule.dstPorts.elim 0 fun range =>
          if range.range = 0 then 0 else .ofNat 16 range.port,
        rule.dstPorts.elim 0 fun range =>
          if range.range = 0 then 0 else .ofNat 16 (range.port + range.range),
        rule.icmpType.getD 0, rule.icmpCode.getD 0, 0,
        rule.srcPorts.elim 0 fun range =>
          if range.range = 0 then .ofNat 16 range.port else 0,
        rule.dstPorts.elim 0 fun range =>
          if range.range = 0 then .ofNat 16 range.port else 0, u⟩, rule.family.ipVsn⟩ := by
  have folded : rule.parsed layout = _ :=
    RuleField.foldl_apply layout ExtdFirewallEntryConf.cleared rule.fields ∅
  have family : ∃ u, rule.family.fields.foldl (RuleField.change layout)
        (RuleField.change layout .cleared (.ipVsn rule.family.ipVsn)) =
          ⟨⟨∅, 0, 0, 0, 0, 0, 0, 0, 0, 0, u⟩, rule.family.ipVsn⟩ ∧
      match rule.family with
      | .v4 rule => u.asV4 layout = rule.attrib
      | .v6 rule => u.asV6 layout = RuleField.parsedV6 rule := by
    cases rule.family with
    | v4 rule => exact RuleField.foldl_v4 layout _ rule rfl
    | v6 rule => exact RuleField.foldl_v6 layout _ rule rfl
  rcases family with ⟨u, changed, held⟩
  refine ⟨u, held, RuleField.flags rule.fields ∅, folded.trans ?_⟩
  rw [fields, foldl_cons, foldl_append, changed, foldl_append, foldl_append,
    foldl_append, foldl_append, RuleField.foldl_srcPorts, RuleField.foldl_dstPorts,
    RuleField.foldl_type, RuleField.foldl_code, RuleField.foldl_spi]
  rfl

theorem portsHeld_parsed (ports : Option PortRange) :
    PortsHeld ports
      (ports.elim 0 fun range => if range.range = 0 then .ofNat 16 range.port else 0)
      (ports.elim 0 fun range => if range.range = 0 then 0 else .ofNat 16 range.port)
      (ports.elim 0 fun range =>
        if range.range = 0 then 0 else .ofNat 16 (range.port + range.range)) := by
  cases ports with
  | none => exact ⟨rfl, rfl, rfl⟩
  | some range =>
      have bounded := range.bounded
      simp only [PortsHeld, Option.elim_some]
      split_ifs
      · refine ⟨?_, rfl, rfl⟩
        rw [BitVec.toNat_ofNat]
        omega
      · refine ⟨rfl, ?_, ?_⟩
        · rw [BitVec.toNat_ofNat]
          omega
        · rw [BitVec.toNat_ofNat]
          omega

theorem parsedFlt_of_gives (noSpi : rule.spi = none) {field : RuleField}
    (gives : rule.Gives field) : field.parsedFlt = field.flt := by
  cases field with
  | spi value =>
      have isSpi : rule.spi = some value := gives
      rw [noSpi] at isSpi
      cases isSpi
  | _ => rfl

theorem parsedV6_iff (rule6 : V6Rule) :
    RuleField.parsedV6 rule6 = rule6.attrib ↔
      (∀ src ∈ rule6.src, 4 ∣ src.length) ∧ ∀ dst ∈ rule6.dst, 4 ∣ dst.length := by
  have masks : RuleField.parsedV6 rule6 = rule6.attrib ↔
      (RuleField.parsedV6 rule6).srcAddrMask = rule6.attrib.srcAddrMask ∧
        (RuleField.parsedV6 rule6).dstAddrMask = rule6.attrib.dstAddrMask := by
    simp [RuleField.parsedV6, V6Rule.attrib]
  have words (addr : Option Ip6Prefix) :
      (addr.elim ip6Zero fun addr => maskWords addr.length ip6Zero) =
          (addr.elim ip6Zero fun addr => prefixMask addr.length) ↔
        ∀ value ∈ addr, 4 ∣ value.length := by
    cases addr with
    | none => simp
    | some addr => simpa using maskWords_iff addr
  exact masks.trans (and_congr (words rule6.src) (words rule6.dst))

theorem heldBy_parsed_iff : rule.HeldBy layout (rule.parsed layout) ↔ rule.Parsable := by
  rcases rule.parsed_spec layout with ⟨u, addrs, attribMask, spec⟩
  constructor
  · intro held
    have noSpi : rule.spi = none := by
      cases isSpi : rule.spi with
      | none => rfl
      | some value =>
          rcases (rule.mem_parsed_attribMask layout .spi).mp
            ((held.attribMask .spi).mpr ⟨.spi value, isSpi, rfl⟩) with ⟨field, -, isFlt⟩
          exact absurd isFlt field.parsedFlt_ne_spi
    refine ⟨noSpi, ?_⟩
    have read := held.addrs
    rw [spec] at read
    cases family : rule.family with
    | v4 rule4 => trivial
    | v6 rule6 =>
        rw [family] at read addrs
        exact (parsedV6_iff rule6).mp (addrs.symm.trans read)
  · rintro ⟨noSpi, prefixes⟩
    refine ⟨?_, ?_, ?_, ?_, ?_, ?_, ?_, ?_⟩
    · rw [spec]
    · intro flt
      rw [mem_parsed_attribMask]
      constructor
      · rintro ⟨field, gives, isFlt⟩
        exact ⟨field, gives, (rule.parsedFlt_of_gives noSpi gives).symm.trans isFlt⟩
      · rintro ⟨field, gives, isFlt⟩
        exact ⟨field, gives, (rule.parsedFlt_of_gives noSpi gives).trans isFlt⟩
    · rw [spec]
      exact portsHeld_parsed rule.srcPorts
    · rw [spec]
      exact portsHeld_parsed rule.dstPorts
    · rw [spec]
    · rw [spec]
    · rw [spec, noSpi]
      rfl
    · rw [spec]
      cases family : rule.family with
      | v4 rule4 =>
          rw [family] at addrs
          exact addrs
      | v6 rule6 =>
          rw [family] at addrs prefixes
          exact addrs.trans ((parsedV6_iff rule6).mpr prefixes)

end FirewallRule

def IpacmFirewallConf.Yields (config : IpacmFirewallConf) (layout : UnionLayout)
    (rules : List FirewallRule) : Prop :=
  config.extdFirewallEntries.num.toNat = rules.length ∧
    ∀ index : Fin ipacmMaxFirewallEntries, match rules[(index : ℕ)]? with
      | some rule => rule.HeldBy layout (config.extdFirewallEntries.entries index)
      | none => config.extdFirewallEntries.entries index = .cleared

section File

variable {readers : TextReaders} {layout : UnionLayout} {accept enable : Bool}

theorem foldlM_rule {entries : List ExtdFirewallEntryConf} {rule : FirewallRule}
    {fields : List FirewallField} (written : rule.WrittenAs readers fields)
    (room : entries.length < ipacmMaxFirewallEntries) :
    ((firewallXmlParser readers layout).events (ruleTree fields)).foldlM
        (fun config event => (firewallXmlParser readers layout).visit event.1 event.2 config)
        (.ofEntries entries accept enable) =
      .ok (.ofEntries (entries ++ [rule.parsed layout]) accept enable) := by
  rcases written with ⟨order, isOrder, reads⟩
  have counted (content : Option (List Char)) :
      (firewallXmlParser readers layout).visit .firewall content
        (.ofEntries entries accept enable) =
      .ok (.ofEntries (entries ++ [.cleared]) accept enable) :=
    congrArg Except.ok ofEntries_increase
  have changes : Changes readers layout _ _ := Changes.fields reads
  rw [ruleTree, events_group, foldlM_cons, counted]
  refine (changes entries .cleared accept enable room).trans ?_
  simp only [rule.foldl_order layout isOrder]

variable {rules : List FirewallRule} {files : List (List FirewallField)}

theorem foldlM_rules
    (written : List.Forall₂ (fun rule fields => rule.WrittenAs readers fields) rules files)
    (entries : List ExtdFirewallEntryConf)
    (room : entries.length + rules.length ≤ ipacmMaxFirewallEntries) :
    (files.flatMap fun fields => (firewallXmlParser readers layout).events (ruleTree fields)).foldlM
        (fun config event => (firewallXmlParser readers layout).visit event.1 event.2 config)
        (.ofEntries entries accept enable) =
      .ok (.ofEntries (entries ++ rules.map (·.parsed layout)) accept enable) := by
  induction written generalizing entries with
  | nil => simp [pure, Except.pure]
  | @cons rule fields rules files first _ ih =>
      rw [length_cons] at room
      have rest := ih (entries ++ [rule.parsed layout]) (by simp; omega)
      rw [flatMap_cons, foldlM_append, foldlM_rule first (by omega)]
      refine Eq.trans rest ?_
      rw [append_assoc, map_cons, singleton_append]

theorem events_firewallTree (enabled allowed : List Char) (files : List (List FirewallField)) :
    ∃ content contentBelow, (firewallXmlParser readers layout).events
        (firewallTree enabled allowed files) =
      (.system, content) :: (.mobileApFirewallCfg, contentBelow) ::
        (.firewallEnabled, some enabled) :: (.firewallPktsAllowed, some allowed) ::
          files.flatMap fun fields =>
            (firewallXmlParser readers layout).events (ruleTree fields) := by
  have below := events_group readers layout .mobileApFirewallCfg
    (leaf .firewallEnabled enabled :: leaf .firewallPktsAllowed allowed :: files.map ruleTree)
  simp only [FirewallTag.descends, if_true, flatMap_cons, events_leaf, flatMap_map,
    cons_append, nil_append] at below
  have outer := events_group readers layout .system [group FirewallTag.mobileApFirewallCfg.text
    (leaf .firewallEnabled enabled :: leaf .firewallPktsAllowed allowed :: files.map ruleTree)]
  simp only [FirewallTag.descends, if_true, flatMap_cons, flatMap_nil, append_nil,
    below] at outer
  exact ⟨_, _, outer⟩

theorem parse_firewallTree
    {enabled allowed : List Char} (few : rules.length ≤ ipacmMaxFirewallEntries)
    (written : List.Forall₂ (fun rule fields => rule.WrittenAs readers fields) rules files)
    (shortEnabled : enabled.length < maxXmlStrLen) (shortAllowed : allowed.length < maxXmlStrLen) :
    ipacmFirewallXmlParseTree readers layout (firewallTree enabled allowed files) .cleared =
      .ok (.ofEntries (rules.map (·.parsed layout)) (atoi allowed = 1) (atoi enabled = 1)) := by
  have isEnabled : (firewallXmlParser readers layout).visit .firewallEnabled (some enabled)
      (.ofEntries [] false false) = .ok (.ofEntries [] false (atoi enabled = 1)) := by
    simp only [firewallXmlParser, FirewallTag.descends, if_true, container,
      withContent_of_short shortEnabled, ofEntries]
  have isAllowed (enable : Bool) : (firewallXmlParser readers layout).visit .firewallPktsAllowed
      (some allowed) (.ofEntries [] false enable) =
        .ok (.ofEntries [] (atoi allowed = 1) enable) := by
    simp only [firewallXmlParser, FirewallTag.descends, if_true, container,
      withContent_of_short shortAllowed, ofEntries]
  have parsed : (files.flatMap fun fields => (firewallXmlParser readers layout).events
        (ruleTree fields)).foldlM
        (fun config event => (firewallXmlParser readers layout).visit event.1 event.2 config)
        (ofEntries [] (atoi allowed = 1) (atoi enabled = 1)) =
      .ok (.ofEntries (rules.map (·.parsed layout)) (atoi allowed = 1) (atoi enabled = 1)) :=
    foldlM_rules written [] (by simpa using few)
  have container (content : Option (List Char)) (tag : FirewallTag)
      (isOuter : tag = .system ∨ tag = .mobileApFirewallCfg) :
      (firewallXmlParser readers layout).visit tag content
        (.ofEntries [] false false) = .ok (.ofEntries [] false false) := by
    rcases isOuter with rfl | rfl <;> rfl
  rcases events_firewallTree enabled allowed files with ⟨content, contentBelow, events⟩
  rw [ipacmFirewallXmlParseTree, XmlParser.parseTree_eq, events, cleared_eq,
    XmlParser.foldlM_visit _ (container content _ (.inl rfl)),
    XmlParser.foldlM_visit _ (container contentBelow _ (.inr rfl)),
    XmlParser.foldlM_visit _ isEnabled, XmlParser.foldlM_visit _ (isAllowed _)]
  exact parsed

theorem yields_ofEntries_iff (few : rules.length ≤ ipacmMaxFirewallEntries) :
    (ofEntries (rules.map (·.parsed layout)) accept enable).Yields layout rules ↔
      ∀ rule ∈ rules, rule.Parsable := by
  have num : (UInt8.ofNat (rules.map (·.parsed layout)).length).toNat = rules.length := by
    simp only [ipacmMaxFirewallEntries] at few
    rw [List.length_map, UInt8.toNat_ofNat_of_lt']
    simp only [UInt8.size]
    omega
  have entry (index : Fin ipacmMaxFirewallEntries) :
      (ofEntries (rules.map (·.parsed layout)) accept
        enable).extdFirewallEntries.entries index =
      (rules[(index : ℕ)]?.map (·.parsed layout)).getD .cleared := by
    simp only [ofEntries, List.getD_eq_getElem?_getD, List.getElem?_map]
  constructor
  · rintro ⟨-, held⟩ rule mem
    rcases List.getElem?_of_mem mem with ⟨position, atPosition⟩
    have isLt : position < rules.length := (List.getElem?_eq_some_iff.mp atPosition).1
    have heldBy := held ⟨position, lt_of_lt_of_le isLt few⟩
    rw [entry] at heldBy
    simp only [atPosition, Option.map_some, Option.getD_some] at heldBy
    exact (rule.heldBy_parsed_iff layout).mp heldBy
  · intro parsable
    refine ⟨num, ?_⟩
    intro index
    rw [entry]
    cases atIndex : rules[(index : ℕ)]? with
    | none => rfl
    | some rule =>
        exact (rule.heldBy_parsed_iff layout).mpr (parsable rule (List.mem_of_getElem? atIndex))

end File

/-- For every file of at most fifty rules, the parser yields these rules exactly if it can hold each
of them. -/
theorem firewallXmlParse_yields_iff (readers : TextReaders) (layout : UnionLayout)
    (rules : List FirewallRule) (files : List (List FirewallField)) (enabled allowed : List Char)
    (few : rules.length ≤ ipacmMaxFirewallEntries)
    (written : List.Forall₂ (fun rule fields => rule.WrittenAs readers fields) rules files)
    (shortEnabled : enabled.length < maxXmlStrLen) (shortAllowed : allowed.length < maxXmlStrLen) :
    (∃ config, ipacmFirewallXmlParseTree readers layout (firewallTree enabled allowed files)
        .cleared = .ok config ∧ config.Yields layout rules) ↔
      ∀ rule ∈ rules, rule.Parsable := by
  rw [parse_firewallTree few written shortEnabled shortAllowed]
  constructor
  · rintro ⟨config, parsed, yields⟩
    cases parsed
    exact (yields_ofEntries_iff few).mp yields
  · intro parsable
    exact ⟨_, rfl, (yields_ofEntries_iff few).mpr parsable⟩

section Samples

def sampleReaders : TextReaders where
  inetAddr text :=
    if text = "10.0.0.0".toList then 0x0000000a
    else if text = "255.0.0.0".toList then 0x000000ff
    else 0xffffffff
  inetPton text := if text = "2001:db8::".toList then some [0xb80d0120, 0, 0, 0] else none
  ip6Addr := ip6Zero

def sampleLayout : UnionLayout := ⟨fun _ => .cleared, fun _ => .cleared⟩

def sampleRules : List FirewallRule :=
  [⟨.v4 ⟨none, some 6, some (0x0a000000, 0xff000000), none⟩, none,
      some ⟨.tcp, 80, 3, by omega⟩, none, none, none⟩,
    ⟨.v6 ⟨none, some 17, some ⟨[0x20010db8, 0, 0, 0], 64, by omega⟩, none⟩,
      some ⟨.udp, 53, 0, by omega⟩, none, none, none, none⟩]

def sampleFiles : List (List FirewallField) :=
  [[.ipv4NextHeaderProtocol "6".toList, .ipFamily "4".toList,
      .ipv4Address .src "10.0.0.0".toList "255.0.0.0".toList,
      .ports .tcp .dst "80".toList "3".toList],
    [.ipFamily "6".toList, .ipv6NextHeaderProtocol "17".toList,
      .ipv6Address .src "2001:db8::".toList "64".toList,
      .ports .udp .src "53".toList "0".toList]]

theorem firewallXmlParse_yields_sample :
    ∃ config, ipacmFirewallXmlParseTree sampleReaders sampleLayout
      (firewallTree "1".toList "1".toList sampleFiles) .cleared = .ok config ∧
        config.Yields sampleLayout sampleRules := by
  have written : List.Forall₂ (fun rule fields => FirewallRule.WrittenAs rule sampleReaders fields)
      sampleRules sampleFiles := by
    refine .cons ⟨_, .swap _ _ _, ?_⟩ (.cons ⟨_, .refl _, ?_⟩ .nil)
    · exact .cons (.ipv4NextHeaderProtocol (by decide)) (.cons (.ipFamily (by decide))
        (.cons (.ipv4Address (by decide) (by decide)) (.cons (.ports rfl (by decide) (by decide))
          .nil)))
    · exact .cons (.ipFamily (by decide)) (.cons (.ipv6NextHeaderProtocol (by decide))
        (.cons (.ipv6Address (by decide) (by decide)) (.cons (.ports rfl (by decide) (by decide))
          .nil)))
  apply (firewallXmlParse_yields_iff sampleReaders sampleLayout sampleRules sampleFiles
    "1".toList "1".toList (by decide) written (by decide) (by decide)).mpr
  intro rule mem
  rcases List.mem_pair.mp mem with rfl | rfl
  · exact ⟨rfl, trivial⟩
  · refine ⟨rfl, ?_, ?_⟩
    · rintro src ⟨⟩
      decide
    · rintro dst ⟨⟩

def espRule : FirewallRule :=
  ⟨.v4 ⟨none, some 50, none, none⟩, none, none, none, none, some 7⟩

def espFile : List FirewallField :=
  [.ipFamily "4".toList, .ipv4NextHeaderProtocol "50".toList, .esp "7".toList]

theorem not_firewallXmlParse_yields :
    ¬∀ (readers : TextReaders) (layout : UnionLayout) (rules : List FirewallRule)
      (files : List (List FirewallField)) (enabled allowed : List Char),
      rules.length ≤ ipacmMaxFirewallEntries →
      List.Forall₂ (fun rule fields => FirewallRule.WrittenAs rule readers fields) rules files →
      enabled.length < maxXmlStrLen → allowed.length < maxXmlStrLen →
        ∃ config, ipacmFirewallXmlParseTree readers layout (firewallTree enabled allowed files)
          .cleared = .ok config ∧ config.Yields layout rules := by
  intro always
  have written : List.Forall₂ (fun rule fields => FirewallRule.WrittenAs rule sampleReaders fields)
      [espRule] [espFile] := by
    refine .cons ⟨_, .refl _, ?_⟩ .nil
    exact .cons (.ipFamily (by decide)) (.cons (.ipv4NextHeaderProtocol (by decide))
      (.cons (.esp (by decide)) .nil))
  rcases always sampleReaders sampleLayout [espRule] [espFile] "1".toList "1".toList (by decide)
    written (by decide) (by decide) with ⟨config, parsed, yields⟩
  rw [parse_firewallTree (by decide) written (by decide) (by decide)] at parsed
  cases parsed
  have parsable := (yields_ofEntries_iff (by decide)).mp yields espRule List.mem_cons_self
  cases parsable.1

end Samples

end HtcPme.Ipacm
