import HtcPme.Ipacm.StaFirewall
import HtcPme.Ipacm.XmlTree
import Mathlib.Data.Finset.Insert

/-!
# The firewall file

`IPACM_firewall_xml_parse_tree`. A rule is counted at its element, and its attributes are those of
the elements below it.
-/

namespace HtcPme.Ipacm

open Gps (atoi)

/-- The flags of `attrib_mask`, each of which is a bit of its own. -/
inductive IpaFlt where
  | tos
  | protocol
  | srcAddr
  | dstAddr
  | srcPortRange
  | dstPortRange
  | type
  | code
  | spi
  | srcPort
  | dstPort
  | tc
  | nextHdr
deriving DecidableEq

structure RuleV4 where
  tos : BitVec 8
  protocol : BitVec 8
  srcAddr : BitVec 32
  srcAddrMask : BitVec 32
  dstAddr : BitVec 32
  dstAddrMask : BitVec 32
deriving DecidableEq

/-- `attrib.u.v6`, with addresses of four words. -/
structure RuleV6 where
  tc : BitVec 8
  nextHdr : BitVec 8
  srcAddr : List (BitVec 32)
  srcAddrMask : List (BitVec 32)
  dstAddr : List (BitVec 32)
  dstAddrMask : List (BitVec 32)
deriving DecidableEq

def RuleV4.cleared : RuleV4 := ⟨0, 0, 0, 0, 0, 0⟩

def RuleV6.cleared : RuleV6 := ⟨0, 0, [0, 0, 0, 0], [0, 0, 0, 0], [0, 0, 0, 0], [0, 0, 0, 0]⟩

/-- `attrib.u`, as it was written last. -/
inductive RuleUnion where
  | cleared
  | v4 (rule : RuleV4)
  | v6 (rule : RuleV6)
deriving DecidableEq

structure UnionLayout where
  v4OfV6 : RuleV6 → RuleV4
  v6OfV4 : RuleV4 → RuleV6

namespace RuleUnion

variable (layout : UnionLayout)

def asV4 : RuleUnion → RuleV4
  | cleared => .cleared
  | v4 rule => rule
  | v6 rule => layout.v4OfV6 rule

def asV6 : RuleUnion → RuleV6
  | cleared => .cleared
  | v4 rule => layout.v6OfV4 rule
  | v6 rule => rule

end RuleUnion

structure IpaRuleAttrib where
  attribMask : Finset IpaFlt
  srcPortLo : BitVec 16
  srcPortHi : BitVec 16
  dstPortLo : BitVec 16
  dstPortHi : BitVec 16
  type : BitVec 8
  code : BitVec 8
  spi : BitVec 32
  srcPort : BitVec 16
  dstPort : BitVec 16
  u : RuleUnion
deriving DecidableEq

structure ExtdFirewallEntryConf where
  attrib : IpaRuleAttrib
  ipVsn : BitVec 32
deriving DecidableEq

def ExtdFirewallEntryConf.cleared : ExtdFirewallEntryConf :=
  ⟨⟨∅, 0, 0, 0, 0, 0, 0, 0, 0, 0, .cleared⟩, 0⟩

structure IpacmFirewallConf where
  extdFirewallEntries : EntryTable ExtdFirewallEntryConf ipacmMaxFirewallEntries
  ruleActionAccept : Bool
  firewallEnable : Bool

def IpacmFirewallConf.cleared : IpacmFirewallConf := ⟨⟨0, fun _ => .cleared⟩, false, false⟩

inductive Side where
  | src
  | dst
deriving DecidableEq

inductive PortProtocol where
  | tcp
  | udp
  | tcpUdp
deriving DecidableEq

/-- The elements; those of the source and of the destination, and those of the ports of different
protocols, are alike. -/
inductive FirewallTag where
  | system
  | mobileApFirewallCfg
  | firewall
  | firewallEnabled
  | firewallPktsAllowed
  | ipFamily
  | ipv4Address (side : Side)
  | ipv4IpAddress (side : Side)
  | ipv4SubnetMask (side : Side)
  | ipv4TypeOfService
  | tosValue
  | tosMask
  | ipv4NextHeaderProtocol
  | ipv6Address (side : Side)
  | ipv6IpAddress (side : Side)
  | ipv6Prefix (side : Side)
  | ipv6TrafficClass
  | trfClsValue
  | trfClsMask
  | ipv6NextHeaderProtocol
  | ports (protocol : PortProtocol) (side : Side)
  | port (protocol : PortProtocol) (side : Side)
  | range (protocol : PortProtocol) (side : Side)
  | icmpType
  | icmpCode
  | espSpi
deriving DecidableEq

namespace FirewallTag

def all : List FirewallTag :=
  [system, mobileApFirewallCfg, firewall, firewallEnabled, firewallPktsAllowed, ipFamily,
    ipv4Address .src, ipv4IpAddress .src, ipv4SubnetMask .src, ipv4Address .dst,
    ipv4IpAddress .dst, ipv4SubnetMask .dst, ipv4TypeOfService, tosValue, tosMask,
    ipv4NextHeaderProtocol, ipv6Address .src, ipv6IpAddress .src, ipv6Prefix .src,
    ipv6Address .dst, ipv6IpAddress .dst, ipv6Prefix .dst, ipv6TrafficClass, trfClsValue,
    trfClsMask, ipv6NextHeaderProtocol, ports .tcp .src, port .tcp .src, range .tcp .src,
    ports .tcp .dst, port .tcp .dst, range .tcp .dst, ports .udp .src, port .udp .src,
    range .udp .src, ports .udp .dst, port .udp .dst, range .udp .dst, icmpType, icmpCode, espSpi,
    ports .tcpUdp .src, port .tcpUdp .src, range .tcpUdp .src, ports .tcpUdp .dst,
    port .tcpUdp .dst, range .tcpUdp .dst]

def text : FirewallTag → List Char
  | system => "system".toList
  | mobileApFirewallCfg => "MobileAPFirewallCfg".toList
  | firewall => "Firewall".toList
  | firewallEnabled => "FirewallEnabled".toList
  | firewallPktsAllowed => "FirewallPktsAllowed".toList
  | ipFamily => "IPFamily".toList
  | ipv4Address .src => "IPV4SourceAddress".toList
  | ipv4IpAddress .src => "IPV4SourceIPAddress".toList
  | ipv4SubnetMask .src => "IPV4SourceSubnetMask".toList
  | ipv4Address .dst => "IPV4DestinationAddress".toList
  | ipv4IpAddress .dst => "IPV4DestinationIPAddress".toList
  | ipv4SubnetMask .dst => "IPV4DestinationSubnetMask".toList
  | ipv4TypeOfService => "IPV4TypeOfService".toList
  | tosValue => "TOSValue".toList
  | tosMask => "TOSMask".toList
  | ipv4NextHeaderProtocol => "IPV4NextHeaderProtocol".toList
  | ipv6Address .src => "IPV6SourceAddress".toList
  | ipv6IpAddress .src => "IPV6SourceIPAddress".toList
  | ipv6Prefix .src => "IPV6SourcePrefix".toList
  | ipv6Address .dst => "IPV6DestinationAddress".toList
  | ipv6IpAddress .dst => "IPV6DestinationIPAddress".toList
  | ipv6Prefix .dst => "IPV6DestinationPrefix".toList
  | ipv6TrafficClass => "IPV6TrafficClass".toList
  | trfClsValue => "TrfClsValue".toList
  | trfClsMask => "TrfClsMask".toList
  | ipv6NextHeaderProtocol => "IPV6NextHeaderProtocol".toList
  | ports .tcp .src => "TCPSource".toList
  | port .tcp .src => "TCPSourcePort".toList
  | range .tcp .src => "TCPSourceRange".toList
  | ports .tcp .dst => "TCPDestination".toList
  | port .tcp .dst => "TCPDestinationPort".toList
  | range .tcp .dst => "TCPDestinationRange".toList
  | ports .udp .src => "UDPSource".toList
  | port .udp .src => "UDPSourcePort".toList
  | range .udp .src => "UDPSourceRange".toList
  | ports .udp .dst => "UDPDestination".toList
  | port .udp .dst => "UDPDestinationPort".toList
  | range .udp .dst => "UDPDestinationRange".toList
  | icmpType => "ICMPType".toList
  | icmpCode => "ICMPCode".toList
  | espSpi => "ESPSPI".toList
  | ports .tcpUdp .src => "TCP_UDPSource".toList
  | port .tcpUdp .src => "TCP_UDPSourcePort".toList
  | range .tcpUdp .src => "TCP_UDPSourceRange".toList
  | ports .tcpUdp .dst => "TCP_UDPDestination".toList
  | port .tcpUdp .dst => "TCP_UDPDestinationPort".toList
  | range .tcpUdp .dst => "TCP_UDPDestinationRange".toList

def descends : FirewallTag → Bool
  | system | mobileApFirewallCfg | firewall | firewallEnabled | firewallPktsAllowed
  | ipv4Address _ | ipv4TypeOfService | ipv6Address _ | ipv6TrafficClass | ports _ _ => true
  | ipFamily | ipv4IpAddress _ | ipv4SubnetMask _ | tosValue | tosMask | ipv4NextHeaderProtocol
  | ipv6IpAddress _ | ipv6Prefix _ | trfClsValue | trfClsMask | ipv6NextHeaderProtocol
  | port _ _ | range _ _ | icmpType | icmpCode | espSpi => false

end FirewallTag

/-- `mask_v6` on a word, with an index that may be negative. -/
def writeMask (index : ℤ) (mask : BitVec 32) : BitVec 32 :=
  if 0 ≤ index then (maskV6 index.toNat).getD mask else mask

/-- The words of a mask, for what is left of `mask_value_v6`. -/
def maskWords : ℤ → List (BitVec 32) → List (BitVec 32)
  | _, [] => []
  | maskValueV6, mask :: masks =>
      if 32 ≤ maskValueV6 then writeMask 32 mask :: maskWords (maskValueV6 - 32) masks
      else writeMask maskValueV6 mask :: maskWords 0 masks

namespace IpaRuleAttrib

variable (attrib : IpaRuleAttrib)

def flag (flt : IpaFlt) : IpaRuleAttrib :=
  { attrib with attribMask := insert flt attrib.attribMask }

def modifyV4 (layout : UnionLayout) (change : RuleV4 → RuleV4) : IpaRuleAttrib :=
  { attrib with u := .v4 (change (attrib.u.asV4 layout)) }

def modifyV6 (layout : UnionLayout) (change : RuleV6 → RuleV6) : IpaRuleAttrib :=
  { attrib with u := .v6 (change (attrib.u.asV6 layout)) }

def setPort (side : Side) (port : BitVec 16) : IpaRuleAttrib :=
  match side with
  | .src => { attrib with srcPort := port }
  | .dst => { attrib with dstPort := port }

def setRange (side : Side) (range : BitVec 32) : IpaRuleAttrib :=
  match side with
  | .src =>
      if range ≠ 0 then
        { attrib.flag .srcPortRange with
          srcPortLo := attrib.srcPort
          srcPortHi := (attrib.srcPort.setWidth 32 + range).setWidth 16
          srcPort := 0 }
      else attrib.flag .srcPort
  | .dst =>
      if range ≠ 0 then
        { attrib.flag .dstPortRange with
          dstPortLo := attrib.dstPort
          dstPortHi := (attrib.dstPort.setWidth 32 + range).setWidth 16
          dstPort := 0 }
      else attrib.flag .dstPort

end IpaRuleAttrib

namespace RuleV4

def setAddr (rule : RuleV4) (side : Side) (addr : BitVec 32) : RuleV4 :=
  match side with
  | .src => { rule with srcAddr := addr }
  | .dst => { rule with dstAddr := addr }

def setMask (rule : RuleV4) (side : Side) (mask : BitVec 32) : RuleV4 :=
  match side with
  | .src => { rule with srcAddrMask := mask }
  | .dst => { rule with dstAddrMask := mask }

end RuleV4

namespace RuleV6

def setAddr (rule : RuleV6) (side : Side) (addr : List (BitVec 32)) : RuleV6 :=
  match side with
  | .src => { rule with srcAddr := addr }
  | .dst => { rule with dstAddr := addr }

def setPrefix (rule : RuleV6) (side : Side) (maskValueV6 : ℤ) : RuleV6 :=
  match side with
  | .src => { rule with srcAddrMask := maskWords maskValueV6 rule.srcAddrMask }
  | .dst => { rule with dstAddrMask := maskWords maskValueV6 rule.dstAddrMask }

end RuleV6

def Side.addrFlt : Side → IpaFlt
  | src => .srcAddr
  | dst => .dstAddr

def TextReaders.ip6Words (readers : TextReaders) (text : List Char) : List (BitVec 32) :=
  ((readers.inetPton text).getD readers.ip6Addr).map ntohl

namespace FirewallTag

variable (readers : TextReaders) (layout : UnionLayout)

def leaf (tag : FirewallTag) (contentBuf : List Char) (entry : ExtdFirewallEntryConf) :
    ExtdFirewallEntryConf :=
  match tag with
  | .ipFamily => { entry with ipVsn := atoi contentBuf }
  | .ipv4IpAddress side =>
      { entry with
        attrib := entry.attrib.modifyV4 layout
          (·.setAddr side (ntohl (readers.inetAddr (terminated contentBuf)))) }
  | .ipv4SubnetMask side =>
      { entry with
        attrib := entry.attrib.modifyV4 layout
          (·.setMask side (ntohl (readers.inetAddr (terminated contentBuf)))) }
  | .tosValue =>
      { entry with
        attrib := entry.attrib.modifyV4 layout fun rule =>
          { rule with tos := (atoi contentBuf).setWidth 8 } }
  | .tosMask =>
      { entry with
        attrib := entry.attrib.modifyV4 layout fun rule =>
          { rule with tos := rule.tos &&& (atoi contentBuf).setWidth 8 } }
  | .ipv4NextHeaderProtocol =>
      { entry with
        attrib := (entry.attrib.flag .protocol).modifyV4 layout fun rule =>
          { rule with protocol := (atoi contentBuf).setWidth 8 } }
  | .ipv6IpAddress side =>
      { entry with
        attrib := entry.attrib.modifyV6 layout (·.setAddr side (readers.ip6Words contentBuf)) }
  | .ipv6Prefix side =>
      { entry with
        attrib := entry.attrib.modifyV6 layout (·.setPrefix side (atoi contentBuf).toInt) }
  | .trfClsValue =>
      { entry with
        attrib := entry.attrib.modifyV6 layout fun rule =>
          { rule with tc := (atoi contentBuf).setWidth 8 } }
  | .trfClsMask =>
      { entry with
        attrib := entry.attrib.modifyV6 layout fun rule =>
          { rule with tc := rule.tc &&& (atoi contentBuf).setWidth 8 } }
  | .ipv6NextHeaderProtocol =>
      { entry with
        attrib := (entry.attrib.flag .nextHdr).modifyV6 layout fun rule =>
          { rule with nextHdr := (atoi contentBuf).setWidth 8 } }
  | .port _ side =>
      { entry with attrib := entry.attrib.setPort side ((atoi contentBuf).setWidth 16) }
  | .range _ side => { entry with attrib := entry.attrib.setRange side (atoi contentBuf) }
  | .icmpType =>
      { entry with
        attrib := { entry.attrib with type := (atoi contentBuf).setWidth 8 }.flag .type }
  | .icmpCode =>
      { entry with
        attrib := { entry.attrib with code := (atoi contentBuf).setWidth 8 }.flag .code }
  | .espSpi =>
      { entry with attrib := { entry.attrib with spi := atoi contentBuf }.flag .spi }
  | .system | .mobileApFirewallCfg | .firewall | .firewallEnabled | .firewallPktsAllowed
  | .ipv4Address _ | .ipv4TypeOfService | .ipv6Address _ | .ipv6TrafficClass | .ports _ _ => entry

def groupFlag : FirewallTag → Option IpaFlt
  | .ipv4Address side | .ipv6Address side => some side.addrFlt
  | .ipv4TypeOfService => some .tos
  | .ipv6TrafficClass => some .tc
  | .system | .mobileApFirewallCfg | .firewall | .firewallEnabled | .firewallPktsAllowed
  | .ipFamily | .ipv4IpAddress _ | .ipv4SubnetMask _ | .tosValue | .tosMask
  | .ipv4NextHeaderProtocol | .ipv6IpAddress _ | .ipv6Prefix _ | .trfClsValue | .trfClsMask
  | .ipv6NextHeaderProtocol | .ports _ _ | .port _ _ | .range _ _ | .icmpType | .icmpCode
  | .espSpi => none

end FirewallTag

namespace IpacmFirewallConf

variable (config : IpacmFirewallConf)

def modifyEntry (change : ExtdFirewallEntryConf → ExtdFirewallEntryConf) :
    Except XmlFault IpacmFirewallConf := do
  let entries ← config.extdFirewallEntries.modifyLast change
  .ok { config with extdFirewallEntries := entries }

def container (tag : FirewallTag) (content : Option (List Char)) :
    Except XmlFault IpacmFirewallConf :=
  match tag with
  | .firewall => .ok { config with extdFirewallEntries := config.extdFirewallEntries.increase }
  | .firewallPktsAllowed =>
      withContent content config fun contentBuf =>
        .ok { config with ruleActionAccept := atoi contentBuf = 1 }
  | .firewallEnabled =>
      withContent content config fun contentBuf =>
        .ok { config with firewallEnable := atoi contentBuf = 1 }
  | tag =>
      match tag.groupFlag with
      | none => .ok config
      | some flt =>
          config.modifyEntry fun entry => { entry with attrib := entry.attrib.flag flt }

end IpacmFirewallConf

section Parser

variable (readers : TextReaders) (layout : UnionLayout)

def firewallXmlParser : XmlParser FirewallTag IpacmFirewallConf where
  tags := FirewallTag.all
  name := FirewallTag.text
  descends := FirewallTag.descends
  visit tag content config :=
    if tag.descends then config.container tag content
    else withContent content config fun contentBuf =>
      config.modifyEntry (tag.leaf readers layout contentBuf)

def ipacmFirewallXmlParseTree : XmlNode → IpacmFirewallConf → Except XmlFault IpacmFirewallConf :=
  (firewallXmlParser readers layout).parseTree

end Parser

end HtcPme.Ipacm
