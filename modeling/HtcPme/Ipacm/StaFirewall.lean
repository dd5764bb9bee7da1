import HtcPme.Foundation.CountedTable
import HtcPme.Foundation.HandleTable
import HtcPme.Ipacm.EthFltRule
import HtcPme.Ipacm.WanFirewall

/-!
# The firewall of a station

A WAN interface in station mode adds the rules of the firewall file one by one, and keeps their
handles in an array with a counter.
-/

namespace HtcPme.Ipacm

def ipacmMaxFirewallEntries : ℕ := 50

inductive StaAction where
  | passToException
  | passToDstNat
  | passToRouting
  deriving DecidableEq

structure StaRule (ρ : Type*) where
  action : StaAction
  rtTbl : Option DlTable
  matches' : DlMatch ρ
  deriving DecidableEq

/-- A request of `config_dft_firewall_rules`. The handle of a rule goes to the field of its kind. -/
inductive DftRequest (ρ : Type*) where
  | getRoutingTable (rtTbl : DlTable)
  | addFrag (rule : StaRule ρ)
  | addFirewall (ruleNum : ℕ) (rule : StaRule ρ)
  | addDft (slot : Fin 3) (rule : StaRule ρ)

structure StaFirewall (ρ : Type*) where
  hasRxProp : Bool
  isRouter : Bool
  file : FirewallConf ρ
  firewallConfig : FirewallConf ρ
  active : IpaIpType → Bool
  firewallHdl : IpaIpType → CountedTable ℕ
  dftWanFlHdl : Fin 3 → ℕ
  ipv6FragFirewallFltRuleHdl : ℕ
  kernel : IpaIpType → HandleTable (StaRule ρ)

namespace DlMatch

variable {ρ : Type*}

def isFragment : DlMatch ρ → Bool
  | .fragment => true
  | _ => false

end DlMatch

namespace FirewallConf

variable {ρ : Type*} (conf : FirewallConf ρ)

def hasFragRule : Bool := conf.firewallEnable && WanFirewall.checkDftFirewallRulesAttrMask conf

def splitEntry (entry : FirewallEntry ρ) : List (DlMatch ρ) :=
  if entry.protocol = ipProtocolTcpUdp then
    [.entry ipProtocolTcp entry.attrib, .entry ipProtocolUdp entry.attrib]
  else [.entry entry.protocol entry.attrib]

def ipVsnOf : IpaIpType → ℕ
  | .v4 => 4
  | .v6 => 6

def splitEntries (ip : IpaIpType) : List (DlMatch ρ) :=
  (conf.entries.filter fun entry => entry.ipVsn = ipVsnOf ip).flatMap splitEntry

/-- `rule_v4` and `rule_v6`: what is not IPv4 counts for IPv6. -/
def ruleNum : IpaIpType → ℕ
  | .v4 => conf.entries.countP fun entry => entry.ipVsn = 4
  | .v6 => conf.entries.countP fun entry => entry.ipVsn ≠ 4

def matchedAction (isRouter : Bool) : IpaIpType → StaAction
  | .v4 =>
      if conf.ruleActionAccept then if isRouter then .passToDstNat else .passToRouting
      else .passToException
  | .v6 => if conf.ruleActionAccept then .passToRouting else .passToException

def otherAction (isRouter : Bool) : IpaIpType → StaAction
  | .v4 =>
      if conf.firewallEnable && conf.ruleActionAccept then .passToException
      else if isRouter then .passToDstNat
      else .passToRouting
  | .v6 =>
      if conf.firewallEnable && conf.ruleActionAccept then .passToException else .passToRouting

def staTable : IpaIpType → DlTable
  | .v4 => .lanV4
  | .v6 => .wanV6

def entryRequests (isRouter : Bool) (ip : IpaIpType) : List (DftRequest ρ) :=
  if conf.firewallEnable then
    (conf.splitEntries ip).mapIdx fun ruleNum match' =>
      .addFirewall ruleNum ⟨conf.matchedAction isRouter ip, some (staTable ip), match'⟩
  else []

def otherRequest (isRouter : Bool) (ip : IpaIpType) : DftRequest ρ :=
  .addDft (match ip with | .v4 => 0 | .v6 => 1)
    ⟨conf.otherAction isRouter ip, some (staTable ip), .any⟩

def icmpRequest : DftRequest ρ := .addDft 2 ⟨.passToException, none, .icmp⟩

/-- The requests of `config_dft_firewall_rules`, in order. -/
def dftRequests (isRouter : Bool) : IpaIpType → List (DftRequest ρ)
  | .v4 =>
      .getRoutingTable .lanV4 ::
        ((if conf.ruleNum .v4 = 0 then [] else conf.entryRequests isRouter .v4) ++
          [conf.otherRequest isRouter .v4])
  | .v6 =>
      (if conf.hasFragRule then [.addFrag ⟨.passToException, none, .fragment⟩] else []) ++
        if conf.ruleNum .v6 = 0 then
          [icmpRequest, .getRoutingTable .wanV6, conf.otherRequest isRouter .v6]
        else
          .getRoutingTable .wanV6 :: (conf.entryRequests isRouter .v6 ++
            [icmpRequest, conf.otherRequest isRouter .v6])

end FirewallConf

namespace StaFirewall

variable {ρ : Type*} (sta : StaFirewall ρ) (source : HandleSource)

/-- `AddFilteringRule`, which gives a rule a handle that is not in use. -/
def addFilteringRule (ip : IpaIpType) (rule : StaRule ρ) : ℕ × StaFirewall ρ :=
  (source.next (sta.kernel ip).handles,
    { sta with kernel := Function.update sta.kernel ip ((sta.kernel ip).addOne source rule) })

def perform (ip : IpaIpType) (sta : StaFirewall ρ) : DftRequest ρ → StaFirewall ρ
  | .getRoutingTable _ => sta
  | .addFrag rule =>
      let (hdl, sta) := sta.addFilteringRule source ip rule
      { sta with ipv6FragFirewallFltRuleHdl := hdl }
  | .addFirewall ruleNum rule =>
      let (hdl, sta) := sta.addFilteringRule source ip rule
      { sta with
        firewallHdl :=
          Function.update sta.firewallHdl ip ((sta.firewallHdl ip).put ruleNum [hdl]) }
  | .addDft slot rule =>
      let (hdl, sta) := sta.addFilteringRule source ip rule
      { sta with dftWanFlHdl := Function.update sta.dftWanFlHdl slot hdl }

/-- `IPACM_Wan::config_dft_firewall_rules`. The requests are made one after the other until one
fails, after as many as `granted` says, if it says so. -/
def configDftFirewallRules (granted : Option ℕ) (ip : IpaIpType) : ℤ × StaFirewall ρ :=
  if sta.hasRxProp then
    let sta := { sta with firewallConfig := sta.file }
    let requests := sta.firewallConfig.dftRequests sta.isRouter ip
    let made := requests.take (granted.getD requests.length)
    (if made.length = requests.length then ipacmSuccess else ipacmFailure,
      made.foldl (perform source ip) sta)
  else (ipacmSuccess, sta)

/-- `DeleteFilteringHdls`: a handle of 0 is passed over, and the first one that is not installed
ends it. -/
def deleteFilteringHdls (ip : IpaIpType) : StaFirewall ρ → List ℕ → Bool × StaFirewall ρ
  | sta, [] => (true, sta)
  | sta, hdl :: rest =>
      if hdl = 0 then deleteFilteringHdls ip sta rest
      else if hdl ∈ (sta.kernel ip).handles then
        deleteFilteringHdls ip
          { sta with kernel := Function.update sta.kernel ip ((sta.kernel ip).delete hdl) } rest
      else (false, sta)

def firewallHdls (ip : IpaIpType) : List ℕ :=
  (List.range (sta.firewallHdl ip).num).map fun pos => ((sta.firewallHdl ip).entry pos).getD 0

/-- The handles that are deleted, in the order of the calls. Whether the fragment rule is among them
is decided by the configuration that was parsed last. -/
def hdlsToDelete : IpaIpType → List ℕ
  | .v4 => sta.firewallHdls .v4 ++ [sta.dftWanFlHdl 0]
  | .v6 =>
      sta.firewallHdls .v6 ++ [sta.dftWanFlHdl 1, sta.dftWanFlHdl 2] ++
        if sta.firewallConfig.hasFragRule then [sta.ipv6FragFirewallFltRuleHdl] else []

def delDftFirewallRules (ip : IpaIpType) : ℤ × StaFirewall ρ :=
  if sta.hasRxProp then
    if sta.active ip then
      if ipacmMaxFirewallEntries < (sta.firewallHdl ip).num then (ipacmFailure, sta)
      else
        match deleteFilteringHdls ip sta (sta.hdlsToDelete ip) with
        | (false, sta) => (ipacmFailure, sta)
        | (true, sta) =>
            (ipacmSuccess,
              { sta with
                firewallHdl :=
                  Function.update sta.firewallHdl ip { sta.firewallHdl ip with num := 0 } })
    else (ipacmSuccess, sta)
  else (ipacmSuccess, sta)

def dftHdls (sta : StaFirewall ρ) : IpaIpType → List ℕ
  | .v4 => [sta.dftWanFlHdl 0]
  | .v6 => [sta.dftWanFlHdl 2, sta.dftWanFlHdl 1]

def ownHdls (sta : StaFirewall ρ) (hasFrag : Bool) : IpaIpType → List ℕ
  | .v4 => sta.firewallHdls .v4 ++ [sta.dftWanFlHdl 0]
  | .v6 =>
      sta.firewallHdls .v6 ++ [sta.dftWanFlHdl 1, sta.dftWanFlHdl 2] ++
        if hasFrag then [sta.ipv6FragFirewallFltRuleHdl] else []

end StaFirewall

end HtcPme.Ipacm
