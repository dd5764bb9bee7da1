import HtcPme.Ipacm.CfgXml
import HtcPme.Ipacm.FirewallXml

/-!
# Bounds of the configuration parsers

A parser stays within its buffers and tables exactly if every text is short enough and no leaf has
too many containers before it, or none.
-/

namespace HtcPme.Ipacm

theorem bmod_le_self (size modulus : ℕ) : (size : ℤ).bmod modulus ≤ size := by
  have isLe : (size : ℤ) % modulus ≤ size := by
    rw [← Int.natCast_emod]
    exact_mod_cast Nat.mod_le size modulus
  rw [Int.bmod]
  split_ifs
  · exact isLe
  · omega

theorem length_contentBuf {text : List Char} (inBuf : InContentBuf text) :
    ((contentBuf text).length : ℤ) = strSize text := by
  have isLe : strSize text ≤ text.length := bmod_le_self text.length (2 ^ 32)
  rcases inBuf with ⟨nonneg, -⟩
  rw [contentBuf, List.length_take]
  omega

def WithinTable (num : UInt8) (capacity : ℕ) : Prop := 1 ≤ num.toNat ∧ num.toNat ≤ capacity

inductive CfgTable where
  | iface
  | subnet
  | alg
deriving DecidableEq

def CfgTable.capacity : CfgTable → ℕ
  | iface => ipaMaxIfaceEntries
  | subnet => ipaMaxPrivateSubnetEntries
  | alg => ipaMaxAlgEntries

def IpacmConf.num (config : IpacmConf) : CfgTable → UInt8
  | .iface => config.ifaceConfig.num
  | .subnet => config.privateSubnetConfig.num
  | .alg => config.algConfig.num

namespace CfgTag

def opens : CfgTag → Option CfgTable
  | iface => some .iface
  | subnet => some .subnet
  | alg => some .alg
  | system | odu | ipacmCfg | ipacmIfaceCfg | ipacmPrivateSubnetCfg | ipacmAlg | ipacmNat
  | oduMode | oduEmbmsOffload | name | category | mode | wlanMode | subnetAddress | subnetMask
  | protocol | port | natMaxEntries => none

def touches (contentBuf : List Char) : CfgTag → Option CfgTable
  | name => some .iface
  | category => (recognise categories contentBuf).map fun _ => .iface
  | mode => (recognise ifaceModes contentBuf).map fun _ => .iface
  | wlanMode => (recognise wlanModes contentBuf).map fun _ => .iface
  | subnetAddress | subnetMask => some .subnet
  | protocol => (recognise protocols (terminated contentBuf)).map fun _ => .alg
  | port => some .alg
  | system | odu | ipacmCfg | ipacmIfaceCfg | iface | ipacmPrivateSubnetCfg | subnet | ipacmAlg
  | alg | ipacmNat | oduMode | oduEmbmsOffload | natMaxEntries => none

def Fits (num : CfgTable → UInt8) (event : CfgTag × Option (List Char)) : Prop :=
  event.1.isContainer = false → ∀ text ∈ event.2, InContentBuf text ∧
    (event.1 = name → strSize text ≤ ipaIfaceNameLen) ∧
      ∀ table ∈ event.1.touches (contentBuf text), WithinTable (num table) table.capacity

end CfgTag

namespace IpacmConf

variable {config next : IpacmConf} {readers : TextReaders}

theorem modifyIface_ok_iff {change : IpaIfiDevName → IpaIfiDevName} :
    (∃ next, config.modifyIface change = .ok next) ↔
      WithinTable (config.num .iface) ipaMaxIfaceEntries :=
  exists_bind_ok.trans EntryTable.modifyLast_ok_iff

theorem modifySubnet_ok_iff {change : IpaPrivateSubnet → IpaPrivateSubnet} :
    (∃ next, config.modifySubnet change = .ok next) ↔
      WithinTable (config.num .subnet) ipaMaxPrivateSubnetEntries :=
  exists_bind_ok.trans EntryTable.modifyLast_ok_iff

variable {change : IpacmAlg → IpacmAlg}

theorem modifyAlg_ok_iff :
    (∃ next, config.modifyAlg change = .ok next) ↔
      WithinTable (config.num .alg) ipaMaxAlgEntries :=
  exists_bind_ok.trans EntryTable.modifyLast_ok_iff

theorem modifyIface_num {change : IpaIfiDevName → IpaIfiDevName}
    (ran : config.modifyIface change = .ok next) : next.num = config.num := by
  rcases of_bind_ok ran with ⟨table, modified, rfl⟩
  funext key
  cases key with
  | iface => exact EntryTable.modifyLast_num modified
  | subnet | alg => rfl

theorem modifySubnet_num {change : IpaPrivateSubnet → IpaPrivateSubnet}
    (ran : config.modifySubnet change = .ok next) : next.num = config.num := by
  rcases of_bind_ok ran with ⟨table, modified, rfl⟩
  funext key
  cases key with
  | subnet => exact EntryTable.modifyLast_num modified
  | iface | alg => rfl

theorem modifyAlg_num (ran : config.modifyAlg change = .ok next) : next.num = config.num := by
  rcases of_bind_ok ran with ⟨table, modified, rfl⟩
  funext key
  cases key with
  | alg => exact EntryTable.modifyLast_num modified
  | iface | subnet => rfl

theorem leaf_ok_iff (tag : CfgTag) (buf : List Char) :
    (∃ next, config.leaf readers tag buf = .ok next) ↔
      (tag = .name → buf.length ≤ ipaIfaceNameLen) ∧
        ∀ table ∈ tag.touches buf, WithinTable (config.num table) table.capacity := by
  cases tag with
  | name =>
      simp only [leaf, copyName, CfgTag.touches, Option.mem_some_iff, forall_eq', true_imp_iff]
      split_ifs with short
      · simp only [modifyIface_ok_iff, short, true_and, CfgTable.capacity]
      · simp [short]
  | category =>
      simp only [leaf, CfgTag.touches]
      cases recognise categories buf with
      | none => simp
      | some ifCat => simp [modifyIface_ok_iff, CfgTable.capacity]
  | mode =>
      simp only [leaf, CfgTag.touches]
      cases recognise ifaceModes buf with
      | none => simp
      | some ifMode => simp [modifyIface_ok_iff, CfgTable.capacity]
  | wlanMode =>
      simp only [leaf, CfgTag.touches]
      cases recognise wlanModes buf with
      | none => simp
      | some wlanMode =>
          cases wlanMode with
          | full => simp [modifyIface_ok_iff, CfgTable.capacity]
          | internet => simp [modifyIface_ok_iff, CfgTable.capacity, num]
  | protocol =>
      simp only [leaf, CfgTag.touches]
      cases recognise protocols (terminated buf) with
      | none => simp
      | some protocol => simp [modifyAlg_ok_iff, CfgTable.capacity]
  | subnetAddress | subnetMask =>
      simp [leaf, CfgTag.touches, modifySubnet_ok_iff, CfgTable.capacity]
  | port => simp [leaf, CfgTag.touches, modifyAlg_ok_iff, CfgTable.capacity]
  | system | odu | ipacmCfg | ipacmIfaceCfg | iface | ipacmPrivateSubnetCfg | subnet | ipacmAlg
  | alg | ipacmNat | oduMode | oduEmbmsOffload | natMaxEntries => simp [leaf, CfgTag.touches]

theorem leaf_num (tag : CfgTag) (buf : List Char)
    (ran : config.leaf readers tag buf = .ok next) : next.num = config.num := by
  have unchanged {changed : IpacmConf} (isNext : Except.ok (ε := XmlFault) changed = .ok next)
      (same : changed.num = config.num) : next.num = config.num := by
    cases isNext
    exact same
  cases tag with
  | name =>
      simp only [leaf, copyName] at ran
      split_ifs at ran
      exact modifyIface_num ran
  | category =>
      simp only [leaf] at ran
      cases recognised : recognise categories buf with
      | none => exact unchanged (by rwa [recognised] at ran) rfl
      | some ifCat =>
          rw [recognised] at ran
          exact modifyIface_num ran
  | mode =>
      simp only [leaf] at ran
      cases recognised : recognise ifaceModes buf with
      | none => exact unchanged (by rwa [recognised] at ran) rfl
      | some ifMode =>
          rw [recognised] at ran
          exact modifyIface_num ran
  | wlanMode =>
      simp only [leaf] at ran
      cases recognised : recognise wlanModes buf with
      | none => exact unchanged (by rwa [recognised] at ran) rfl
      | some wlanMode =>
          rw [recognised] at ran
          cases wlanMode with
          | full => exact modifyIface_num ran
          | internet => exact (modifyIface_num ran).trans rfl
  | protocol =>
      simp only [leaf] at ran
      cases recognised : recognise protocols (terminated buf) with
      | none => exact unchanged (by rwa [recognised] at ran) rfl
      | some protocol =>
          rw [recognised] at ran
          exact modifyAlg_num ran
  | subnetAddress | subnetMask => exact modifySubnet_num ran
  | port => exact modifyAlg_num ran
  | system | odu | ipacmCfg | ipacmIfaceCfg | iface | ipacmPrivateSubnetCfg | subnet | ipacmAlg
  | alg | ipacmNat | oduMode | oduEmbmsOffload | natMaxEntries => exact unchanged ran rfl

theorem container_num (tag : CfgTag) (key : CfgTable) :
    (config.container tag).num key =
      config.num key + if tag.opens = some key then 1 else 0 := by
  cases tag <;> cases key <;>
    simp [container, CfgTag.opens, num, EntryTable.increase]

def Admits (config : IpacmConf) (readers : TextReaders) (tree : XmlNode) : Prop :=
  ∀ before event after, (cfgXmlParser readers).events tree = before ++ event :: after →
    CfgTag.Fits (fun table => config.num table +
      UInt8.ofNat (before.countP fun event => event.1.opens = some table)) event

theorem parseTree_ok_iff (config : IpacmConf) (readers : TextReaders) (tree : XmlNode) :
    (∃ parsed, ipacmCfgXmlParseTree readers tree config = .ok parsed) ↔
      config.Admits readers tree := by
  apply (cfgXmlParser readers).parseTree_ok_iff num CfgTag.opens CfgTag.Fits
  · rintro config ⟨tag, content⟩
    simp only [cfgXmlParser, CfgTag.Fits]
    cases isContainer : tag.isContainer with
    | true => simp
    | false =>
        simp only [Bool.false_eq_true, if_false, withContent_ok_iff, leaf_ok_iff, true_imp_iff]
        apply forall₂_congr
        intro text _
        apply and_congr_right
        intro inBuf
        have length := length_contentBuf inBuf
        apply and_congr_left'
        apply imp_congr_right
        intro _
        omega
  · rintro config ⟨tag, content⟩ next ran key
    simp only [cfgXmlParser] at ran
    split_ifs at ran with isContainer
    · cases ran
      exact container_num tag key
    · have notOpens : tag.opens = none := by
        cases tag <;> first | rfl | exact absurd rfl isContainer
      rw [notOpens, if_neg (Option.some_ne_none key).symm, UInt8.add_zero]
      apply withContent_keeps (fun next => next.num key = config.num key) rfl ?_ ran
      intro buf next ran
      rw [leaf_num tag buf ran]

end IpacmConf

namespace FirewallTag

def copies (tag : FirewallTag) : Bool :=
  tag.descends = false ∨ tag = firewallEnabled ∨ tag = firewallPktsAllowed

/-- An element that sets a flag, or a leaf with a text, has an entry; and the text does not exceed
the buffer. -/
def Fits (num : UInt8) (event : FirewallTag × Option (List Char)) : Prop :=
  (event.1.groupFlag.isSome → WithinTable num ipacmMaxFirewallEntries) ∧
    (event.1.copies = true → ∀ text ∈ event.2, InContentBuf text ∧
      (event.1.descends = false → WithinTable num ipacmMaxFirewallEntries))

end FirewallTag

namespace IpacmFirewallConf

variable {config next : IpacmFirewallConf} {readers : TextReaders} {layout : UnionLayout}

variable {change : ExtdFirewallEntryConf → ExtdFirewallEntryConf}

theorem modifyEntry_ok_iff :
    (∃ next, config.modifyEntry change = .ok next) ↔
      WithinTable config.extdFirewallEntries.num ipacmMaxFirewallEntries :=
  exists_bind_ok.trans EntryTable.modifyLast_ok_iff

theorem modifyEntry_num (ran : config.modifyEntry change = .ok next) :
    next.extdFirewallEntries.num = config.extdFirewallEntries.num := by
  rcases of_bind_ok ran with ⟨table, modified, rfl⟩
  exact EntryTable.modifyLast_num modified

theorem container_ok_iff (tag : FirewallTag) (content : Option (List Char))
    (descends : tag.descends = true) :
    (∃ next, config.container tag content = .ok next) ↔
      FirewallTag.Fits config.extdFirewallEntries.num (tag, content) := by
  cases tag with
  | firewallEnabled | firewallPktsAllowed =>
      simp [container, FirewallTag.Fits, FirewallTag.groupFlag, FirewallTag.copies,
        FirewallTag.descends, withContent_ok_iff]
  | system | mobileApFirewallCfg | firewall | ports protocol side =>
      simp [container, FirewallTag.Fits, FirewallTag.groupFlag, FirewallTag.copies,
        FirewallTag.descends]
  | ipv4Address side | ipv6Address side | ipv4TypeOfService | ipv6TrafficClass =>
      simp [container, FirewallTag.Fits, FirewallTag.groupFlag, FirewallTag.copies,
        FirewallTag.descends, modifyEntry_ok_iff]
  | _ => cases descends

theorem container_num (tag : FirewallTag) (content : Option (List Char))
    (ran : config.container tag content = .ok next) :
    next.extdFirewallEntries.num =
      config.extdFirewallEntries.num + if tag = .firewall then 1 else 0 := by
  have kept (isKept : next.extdFirewallEntries.num = config.extdFirewallEntries.num)
      (notFirewall : tag ≠ .firewall) : next.extdFirewallEntries.num =
        config.extdFirewallEntries.num + if tag = .firewall then 1 else 0 := by
    rw [if_neg notFirewall, isKept, UInt8.add_zero]
  cases tag with
  | firewall =>
      rcases Except.ok.inj ran with rfl
      rw [if_pos rfl]
      rfl
  | firewallEnabled | firewallPktsAllowed =>
      refine kept ?_ (by simp)
      simp only [container] at ran
      apply withContent_keeps
        (fun next => next.extdFirewallEntries.num = config.extdFirewallEntries.num) rfl ?_ ran
      intro buf next ran
      cases ran
      rfl
  | ipv4Address side | ipv6Address side | ipv4TypeOfService | ipv6TrafficClass =>
      exact kept (modifyEntry_num ran) (by simp)
  | _ =>
      cases ran
      exact kept rfl (by simp)

def Admits (config : IpacmFirewallConf) (readers : TextReaders) (layout : UnionLayout)
    (tree : XmlNode) : Prop :=
  ∀ before event after, (firewallXmlParser readers layout).events tree = before ++ event :: after →
    FirewallTag.Fits (config.extdFirewallEntries.num +
      UInt8.ofNat (before.countP fun event => event.1 = .firewall)) event

theorem parseTree_ok_iff (config : IpacmFirewallConf) (readers : TextReaders)
    (layout : UnionLayout) (tree : XmlNode) :
    (∃ parsed, ipacmFirewallXmlParseTree readers layout tree config = .ok parsed) ↔
      config.Admits readers layout tree := by
  have bounded := (firewallXmlParser readers layout).parseTree_ok_iff
    (fun config (_ : Unit) => config.extdFirewallEntries.num)
    (fun tag => if tag = .firewall then some () else none)
    (fun num event => FirewallTag.Fits (num ()) event) ?_ ?_ tree config
  · have same (tag : FirewallTag) :
        (if tag = .firewall then some () else none) = some () ↔ tag = .firewall := by simp
    refine bounded.trans ?_
    simp only [same]
    exact Iff.rfl
  · rintro config ⟨tag, content⟩
    simp only [firewallXmlParser]
    cases descends : tag.descends with
    | true =>
        rw [if_pos rfl]
        exact container_ok_iff tag content descends
    | false =>
        have noFlag : tag.groupFlag = none := by
          cases tag <;> first | rfl | cases descends
        simp [FirewallTag.Fits, FirewallTag.copies, noFlag, descends, withContent_ok_iff,
          modifyEntry_ok_iff]
  · rintro config ⟨tag, content⟩ next ran -
    simp only [firewallXmlParser] at ran
    split_ifs at ran with descends
    · rw [container_num tag content ran]
      simp
    · have notFirewall : tag ≠ .firewall := by
        rintro rfl
        exact descends rfl
      rw [if_neg notFirewall, if_neg (Option.some_ne_none ()).symm, UInt8.add_zero]
      apply withContent_keeps
        (fun next => next.extdFirewallEntries.num = config.extdFirewallEntries.num) rfl ?_ ran
      intro buf next ran
      exact modifyEntry_num ran

end IpacmFirewallConf

/-- Both parsers stay within their buffers and tables exactly if each element they reach fits what
the elements before it have counted. -/
theorem xmlParseTrees_ok_iff (readers : TextReaders) (layout : UnionLayout) (tree : XmlNode) :
    (∀ config : IpacmConf, (∃ parsed, ipacmCfgXmlParseTree readers tree config = .ok parsed) ↔
        config.Admits readers tree) ∧
      ∀ config : IpacmFirewallConf,
        (∃ parsed, ipacmFirewallXmlParseTree readers layout tree config = .ok parsed) ↔
          config.Admits readers layout tree :=
  ⟨fun config => config.parseTree_ok_iff readers tree,
    fun config => config.parseTree_ok_iff readers layout tree⟩

def noReaders : TextReaders := ⟨fun _ => 0, fun _ => none, [0, 0, 0, 0]⟩

def IpacmConf.cleared : IpacmConf :=
  ⟨⟨0, fun _ => ⟨[], .lanIf, .router, .full⟩⟩, ⟨0, fun _ => ⟨0, 0⟩⟩, ⟨0, fun _ => ⟨0, 0⟩⟩, 0, false,
    false, 0⟩

def nameAlone : XmlNode :=
  .node (.element "Name".toList) (.node (.text "wlan0".toList) .nil .nil) .nil

theorem not_xmlParseTrees_ok :
    ¬∀ (readers : TextReaders) (layout : UnionLayout) (tree : XmlNode),
      (∀ config : IpacmConf, ∃ parsed, ipacmCfgXmlParseTree readers tree config = .ok parsed) ∧
        ∀ config : IpacmFirewallConf,
          ∃ parsed, ipacmFirewallXmlParseTree readers layout tree config = .ok parsed := by
  intro always
  rcases (always noReaders ⟨fun _ => .cleared, fun _ => .cleared⟩ nameAlone).1 .cleared with
    ⟨parsed, ran⟩
  have faults : ipacmCfgXmlParseTree noReaders nameAlone .cleared = .error .index := by
    rfl
  rw [faults] at ran
  cases ran

end HtcPme.Ipacm
