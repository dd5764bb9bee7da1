import HtcPme.Ipacm.NatApp
import HtcPme.Ipacm.PrivateSubnet
import HtcPme.Ipacm.TetherList
import HtcPme.Ipacm.WlanAp
import HtcPme.Ipacm.XmlTree

/-!
# The configuration of the IPA connection manager

`ipacm_cfg_xml_parse_tree`. A container for an entry counts it, and the leaves fill in the entry
before the counter, wherever they stand.
-/

namespace HtcPme.Ipacm

open Gps (atoi)

def ipaMaxAlgEntries : ℕ := 20

inductive IpacmIfaceType where
  | lanIf
  | wlanIf
  | wanIf
  | virtualIf
  | ethIf
  | embmsIf
  | oduIf
  | unknownIf
deriving DecidableEq

inductive IpacmCradleIfaceMode where
  | router
  | bridge
deriving DecidableEq

inductive IpacmWlanAccessMode where
  | full
  | internet
deriving DecidableEq

structure IpaIfiDevName where
  ifaceName : List Char
  ifCat : IpacmIfaceType
  ifMode : IpacmCradleIfaceMode
  wlanMode : IpacmWlanAccessMode
deriving DecidableEq

structure IpacmConf where
  ifaceConfig : EntryTable IpaIfiDevName ipaMaxIfaceEntries
  privateSubnetConfig : EntryTable IpaPrivateSubnet ipaMaxPrivateSubnetEntries
  algConfig : EntryTable IpacmAlg ipaMaxAlgEntries
  natMaxEntries : BitVec 32
  routerModeEnable : Bool
  oduEmbmsEnable : Bool
  numWlanGuestAp : BitVec 32

inductive CfgTag where
  | system
  | odu
  | ipacmCfg
  | ipacmIfaceCfg
  | iface
  | ipacmPrivateSubnetCfg
  | subnet
  | ipacmAlg
  | alg
  | ipacmNat
  | oduMode
  | oduEmbmsOffload
  | name
  | category
  | mode
  | wlanMode
  | subnetAddress
  | subnetMask
  | protocol
  | port
  | natMaxEntries
deriving DecidableEq

namespace CfgTag

def all : List CfgTag :=
  [system, odu, ipacmCfg, ipacmIfaceCfg, iface, ipacmPrivateSubnetCfg, subnet, ipacmAlg, alg,
    ipacmNat, oduMode, oduEmbmsOffload, name, category, mode, wlanMode, subnetAddress, subnetMask,
    protocol, port, natMaxEntries]

def text : CfgTag → List Char
  | system => "system".toList
  | odu => "ODUCFG".toList
  | ipacmCfg => "IPACM".toList
  | ipacmIfaceCfg => "IPACMIface".toList
  | iface => "Iface".toList
  | ipacmPrivateSubnetCfg => "IPACMPrivateSubnet".toList
  | subnet => "Subnet".toList
  | ipacmAlg => "IPACMALG".toList
  | alg => "ALG".toList
  | ipacmNat => "IPACMNAT".toList
  | oduMode => "OduMode".toList
  | oduEmbmsOffload => "eMBMS_offload".toList
  | name => "Name".toList
  | category => "Category".toList
  | mode => "Mode".toList
  | wlanMode => "WlanMode".toList
  | subnetAddress => "SubnetAddress".toList
  | subnetMask => "SubnetMask".toList
  | protocol => "Protocol".toList
  | port => "Port".toList
  | natMaxEntries => "MaxNatEntries".toList

def isContainer : CfgTag → Bool
  | system | odu | ipacmCfg | ipacmIfaceCfg | iface | ipacmPrivateSubnetCfg | subnet | ipacmAlg
  | alg | ipacmNat => true
  | oduMode | oduEmbmsOffload | name | category | mode | wlanMode | subnetAddress | subnetMask
  | protocol | port | natMaxEntries => false

end CfgTag

def recognise {β : Type*} (choices : List (List Char × β)) (contentBuf : List Char) : Option β :=
  (choices.find? fun choice => strncasecmp contentBuf choice.1 contentBuf.length).map Prod.snd

def categories : List (List Char × IpacmIfaceType) :=
  [("WAN".toList, .wanIf), ("LAN".toList, .lanIf), ("WLAN".toList, .wlanIf),
    ("VIRTUAL".toList, .virtualIf), ("UNKNOWN".toList, .unknownIf), ("ETH".toList, .ethIf),
    ("ODU".toList, .oduIf)]

def ifaceModes : List (List Char × IpacmCradleIfaceMode) :=
  [("ROUTER".toList, .router), ("BRIDGE".toList, .bridge)]

def wlanModes : List (List Char × IpacmWlanAccessMode) :=
  [("full".toList, .full), ("internet".toList, .internet)]

def protocols : List (List Char × BitVec 8) := [("TCP".toList, 6), ("UDP".toList, 17)]

def oduModes : List (List Char × Bool) := [("router".toList, true), ("bridge".toList, false)]

namespace IpacmConf

variable (config : IpacmConf)

def modifyIface (change : IpaIfiDevName → IpaIfiDevName) : Except XmlFault IpacmConf := do
  let ifaceConfig ← config.ifaceConfig.modifyLast change
  .ok { config with ifaceConfig := ifaceConfig }

def modifySubnet (change : IpaPrivateSubnet → IpaPrivateSubnet) : Except XmlFault IpacmConf := do
  let privateSubnetConfig ← config.privateSubnetConfig.modifyLast change
  .ok { config with privateSubnetConfig := privateSubnetConfig }

def modifyAlg (change : IpacmAlg → IpacmAlg) : Except XmlFault IpacmConf := do
  let algConfig ← config.algConfig.modifyLast change
  .ok { config with algConfig := algConfig }

/-- `strncpy` of the whole buffer, which leaves the rest of the name as it is. -/
def copyName (contentBuf : List Char) : Except XmlFault IpacmConf :=
  if contentBuf.length ≤ ipaIfaceNameLen then
    config.modifyIface fun entry =>
      { entry with ifaceName := contentBuf ++ entry.ifaceName.drop contentBuf.length }
  else .error .ifaceName

def leaf (readers : TextReaders) (tag : CfgTag) (contentBuf : List Char) :
    Except XmlFault IpacmConf :=
  match tag with
  | .oduMode =>
      .ok { config with
        routerModeEnable := (recognise oduModes contentBuf).getD config.routerModeEnable }
  | .oduEmbmsOffload => .ok { config with oduEmbmsEnable := atoi contentBuf ≠ 0 }
  | .name => config.copyName contentBuf
  | .category =>
      match recognise categories contentBuf with
      | none => .ok config
      | some ifCat => config.modifyIface fun entry => { entry with ifCat := ifCat }
  | .mode =>
      match recognise ifaceModes contentBuf with
      | none => .ok config
      | some ifMode => config.modifyIface fun entry => { entry with ifMode := ifMode }
  | .wlanMode =>
      match recognise wlanModes contentBuf with
      | none => .ok config
      | some .full => config.modifyIface fun entry => { entry with wlanMode := .full }
      | some .internet =>
          { config with numWlanGuestAp := config.numWlanGuestAp + 1 }.modifyIface fun entry =>
            { entry with wlanMode := .internet }
  | .subnetAddress =>
      config.modifySubnet fun entry =>
        { entry with
          subnetAddr := .ofBitVec (ntohl (readers.inetAddr (terminated contentBuf))) }
  | .subnetMask =>
      config.modifySubnet fun entry =>
        { entry with
          subnetMask := .ofBitVec (ntohl (readers.inetAddr (terminated contentBuf))) }
  | .protocol =>
      match recognise protocols (terminated contentBuf) with
      | none => .ok config
      | some protocol => config.modifyAlg fun entry => { entry with protocol := protocol }
  | .port => config.modifyAlg fun entry => { entry with port := (atoi contentBuf).setWidth 16 }
  | .natMaxEntries => .ok { config with natMaxEntries := atoi contentBuf }
  | .system | .odu | .ipacmCfg | .ipacmIfaceCfg | .iface | .ipacmPrivateSubnetCfg | .subnet
  | .ipacmAlg | .alg | .ipacmNat => .ok config

def container (tag : CfgTag) : IpacmConf :=
  match tag with
  | .iface => { config with ifaceConfig := config.ifaceConfig.increase }
  | .subnet => { config with privateSubnetConfig := config.privateSubnetConfig.increase }
  | .alg => { config with algConfig := config.algConfig.increase }
  | .system | .odu | .ipacmCfg | .ipacmIfaceCfg | .ipacmPrivateSubnetCfg | .ipacmAlg | .ipacmNat
  | .oduMode | .oduEmbmsOffload | .name | .category | .mode | .wlanMode | .subnetAddress
  | .subnetMask | .protocol | .port | .natMaxEntries => config

end IpacmConf

def cfgXmlParser (readers : TextReaders) : XmlParser CfgTag IpacmConf where
  tags := CfgTag.all
  name := CfgTag.text
  descends := CfgTag.isContainer
  visit tag content config :=
    if tag.isContainer then .ok (config.container tag)
    else withContent content config (config.leaf readers tag)

def ipacmCfgXmlParseTree (readers : TextReaders) : XmlNode → IpacmConf →
    Except XmlFault IpacmConf :=
  (cfgXmlParser readers).parseTree

end HtcPme.Ipacm
