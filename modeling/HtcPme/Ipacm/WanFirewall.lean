import HtcPme.Foundation.CountedTable
import HtcPme.Foundation.Run
import HtcPme.Ipacm.WanSta

/-!
# The downlink rules of a modem interface

The cache of an IP type has the default rules, then the ICMP and ALG rules and those of the firewall
file while the IP type is active.
-/

namespace HtcPme.Ipacm

/-- An entry of the firewall file. `protocol` is `protocol` or `next_hdr`; `ihlBased` says whether
the attributes are among those that need the fragment rule. -/
structure FirewallEntry (ρ : Type*) where
  ipVsn : ℕ
  protocol : ℕ
  ihlBased : Bool
  attrib : ρ
deriving DecidableEq

structure FirewallConf (ρ : Type*) where
  firewallEnable : Bool
  ruleActionAccept : Bool
  entries : List (FirewallEntry ρ)
deriving DecidableEq

inductive DlAction where
  | passToRouting
  | passToDstNat
deriving DecidableEq

inductive DlTable where
  | wanDl
  | lanV4
  | wanV6
deriving DecidableEq

inductive DlMatch (ρ : Type*) where
  | icmp
  | algSrc (port protocol : ℕ)
  | algDst (port protocol : ℕ)
  | fragment
  | entry (protocol : ℕ) (attrib : ρ)
  | any
deriving DecidableEq

inductive DlRule (ρ : Type*) where
  | default (index : ℕ)
  | rule (action : DlAction) (rtTbl : DlTable) (matches' : DlMatch ρ)
deriving DecidableEq

def ipProtocolTcpUdp : ℕ := 253

def ipProtocolTcp : ℕ := 6

def ipProtocolUdp : ℕ := 17

/-- What is fixed: whether the modem has an extended property, XLAT and a bridge, the ALG ports with
their protocols, and the numbers of default rules. -/
structure DlConfig where
  hasExt : Bool
  isXlat : Bool
  isBridge : Bool
  algTable : List (ℕ × ℕ)
  numDefault : IpaIpType → ℕ

structure WanFirewall (ρ : Type*) where
  config : DlConfig
  file : FirewallConf ρ
  isDefaultGateway : Bool
  active : IpaIpType → Bool
  fltRule : IpaIpType → CountedTable (DlRule ρ)

namespace WanFirewall

variable {ρ : Type*}

def entryRules (action : DlAction) (rtTbl : DlTable) (entry : FirewallEntry ρ) : List (DlRule ρ) :=
  if entry.protocol = ipProtocolTcpUdp then
    [.rule action rtTbl (.entry ipProtocolTcp entry.attrib),
      .rule action rtTbl (.entry ipProtocolUdp entry.attrib)]
  else [.rule action rtTbl (.entry entry.protocol entry.attrib)]

def v4Table : DlAction → DlTable
  | .passToRouting => .wanDl
  | .passToDstNat => .lanV4

/-- The rules that `config_dft_firewall_rules_ex` writes for IPv4. -/
def firewallRulesV4 (isBridge : Bool) (conf : FirewallConf ρ) : List (DlRule ρ) :=
  let matched := if conf.ruleActionAccept then DlAction.passToDstNat else .passToRouting
  let other :=
    if conf.firewallEnable then
      if conf.ruleActionAccept then DlAction.passToRouting else .passToDstNat
    else if isBridge then .passToRouting
    else .passToDstNat
  (if conf.firewallEnable then
    (conf.entries.filter fun entry => entry.ipVsn = 4).flatMap
      (entryRules matched (v4Table matched))
  else []) ++ [.rule other (v4Table other) .any]

def checkDftFirewallRulesAttrMask (conf : FirewallConf ρ) : Bool :=
  conf.entries.any fun entry => entry.ipVsn = 6 && entry.ihlBased

/-- The rules that `config_dft_firewall_rules_ex` writes for IPv6. -/
def firewallRulesV6 (conf : FirewallConf ρ) : List (DlRule ρ) :=
  let matched := if conf.ruleActionAccept then DlTable.wanV6 else .wanDl
  let other :=
    if conf.firewallEnable then if conf.ruleActionAccept then DlTable.wanDl else .wanV6
    else .wanV6
  (if conf.firewallEnable && checkDftFirewallRulesAttrMask conf then
    [.rule .passToRouting .wanDl .fragment]
  else []) ++
  (if conf.firewallEnable then
    (conf.entries.filter fun entry => entry.ipVsn = 6).flatMap (entryRules .passToRouting matched)
  else []) ++ [.rule .passToRouting other .any]

end WanFirewall

namespace DlConfig

variable {ρ : Type*} (config : DlConfig)

def defaultRules (ip : IpaIpType) : List (DlRule ρ) :=
  (List.range (config.numDefault ip)).map .default

def icmpAlgRules : IpaIpType → List (DlRule ρ)
  | .v4 => .rule .passToRouting .wanDl .icmp ::
      (config.algTable.map fun alg => .rule .passToRouting .wanDl (.algSrc alg.1 alg.2)) ++
      config.algTable.map fun alg => .rule .passToRouting .wanDl (.algDst alg.1 alg.2)
  | .v6 => [.rule .passToRouting .wanDl .icmp]

def firewallRules : IpaIpType → FirewallConf ρ → List (DlRule ρ)
  | .v4, conf => WanFirewall.firewallRulesV4 config.isBridge conf
  | .v6, conf => WanFirewall.firewallRulesV6 conf

/-- `add_icmp_alg_rules`: the rules stand at fixed offsets, those of the ports for IPv4 only. -/
def addIcmpAlgRules (table : CountedTable (DlRule ρ)) (ruleOffset : ℕ) (ip : IpaIpType) :
    CountedTable (DlRule ρ) :=
  let table := table.put ruleOffset [.rule .passToRouting .wanDl .icmp]
  match ip with
  | .v4 =>
      let table := table.put (ruleOffset + 1) (config.algTable.map fun alg =>
        .rule .passToRouting .wanDl (.algSrc alg.1 alg.2))
      table.put (ruleOffset + config.algTable.length + 1) (config.algTable.map fun alg =>
        .rule .passToRouting .wanDl (.algDst alg.1 alg.2))
  | .v6 => table

end DlConfig

namespace WanFirewall

variable {ρ : Type*} (wan : WanFirewall ρ)

def configWanFirewallRule (ip : IpaIpType) : WanFirewall ρ :=
  let table := { wan.fltRule ip with num := wan.config.numDefault ip }
  let table := wan.config.addIcmpAlgRules table table.num ip
  { wan with
    fltRule := Function.update wan.fltRule ip (table.put table.num
      (wan.config.firewallRules ip wan.file)) }

def delWanFirewallRule (ip : IpaIpType) : WanFirewall ρ :=
  { wan with
    fltRule := Function.update wan.fltRule ip
      ((wan.fltRule ip).cut (wan.config.numDefault ip)) }

def handleRouteAddEvt (ip : IpaIpType) : WanFirewall ρ :=
  let wan := { wan with isDefaultGateway := true }
  if wan.config.hasExt then
    { wan with active := Function.update wan.active ip true }.configWanFirewallRule ip
  else wan

/-- `handle_route_del_evt_ex`, with the deletion of the rules before it. -/
def handleRouteDelEvtEx (ip : IpaIpType) : WanFirewall ρ :=
  let wan := wan.delWanFirewallRule ip
  { wan with isDefaultGateway := false, active := Function.update wan.active ip false }

inductive Event (ρ : Type*) where
  | routeAdd (isOwn : Bool) (ip : IpaIpType)
  | routeDel (ip : IpaIpType)
  | firewallChange (file : FirewallConf ρ)

def step : Event ρ → WanFirewall ρ
  | .routeAdd true ip =>
      if wan.active ip then wan
      else
        let wan := wan.handleRouteAddEvt ip
        if ip = .v4 ∧ wan.config.isXlat = true ∧ wan.active .v6 = false then wan.handleRouteAddEvt
          .v6
        else wan
  | .routeAdd false ip => if wan.active ip then wan.handleRouteDelEvtEx ip else wan
  | .routeDel ip =>
      if wan.active ip then
        let wan := wan.handleRouteDelEvtEx ip
        if ip = .v4 ∧ wan.config.isXlat = true ∧ wan.active .v6 = true then wan.handleRouteDelEvtEx
          .v6
        else wan
      else wan
  | .firewallChange file =>
      let wan := { wan with file }
      if wan.isDefaultGateway then
        let wan := (wan.delWanFirewallRule .v4).configWanFirewallRule .v4
        (wan.delWanFirewallRule .v6).configWanFirewallRule .v6
      else wan

def Step (wan : WanFirewall ρ) (event : Event ρ) (next : WanFirewall ρ) : Prop :=
  next = wan.step event

def expected (ip : IpaIpType) : List (DlRule ρ) :=
  wan.config.defaultRules ip ++
    if wan.active ip then wan.config.icmpAlgRules ip ++ wan.config.firewallRules ip wan.file else []

structure IsInit (wan : WanFirewall ρ) : Prop where
  notDefault : wan.isDefaultGateway = false
  inactive : wan.active = fun _ => false
  default : ∀ ip, (wan.fltRule ip).Lists (wan.config.defaultRules ip)

def CacheOk (wan : WanFirewall ρ) : Prop := ∀ ip, (wan.fltRule ip).Lists (wan.expected ip)

/-- What is asked of a change of the firewall file: both IP types are active, or the interface is no
default gateway and the change makes no difference for those that are. -/
def FirewallGuard (wan : WanFirewall ρ) : Event ρ → Prop
  | .firewallChange file => ∀ ip,
      if wan.isDefaultGateway then wan.active ip = true
      else wan.active ip = true → wan.config.firewallRules ip file = wan.config.firewallRules ip
        wan.file
  | _ => True

section Steps

variable {wan : WanFirewall ρ} {ip : IpaIpType}

theorem addIcmpAlgRules_lists {table : CountedTable (DlRule ρ)} {rules : List (DlRule ρ)}
    (config : DlConfig) (lists : table.Lists rules) (ip : IpaIpType) :
    (config.addIcmpAlgRules table table.num ip).Lists (rules ++ config.icmpAlgRules ip) := by
  have icmp := lists.put [.rule .passToRouting .wanDl .icmp]
  rw [lists.num]
  cases ip with
  | v6 => exact icmp
  | v4 =>
      have src := icmp.put (config.algTable.map fun alg =>
        .rule .passToRouting .wanDl (.algSrc alg.1 alg.2))
      have dst := src.put (config.algTable.map fun alg =>
        .rule .passToRouting .wanDl (.algDst alg.1 alg.2))
      simpa [DlConfig.addIcmpAlgRules, DlConfig.icmpAlgRules, Nat.add_assoc] using dst

variable {rest : List (DlRule ρ)}

theorem configWanFirewallRule_lists
    (lists : (wan.fltRule ip).Lists (wan.config.defaultRules ip ++ rest)) :
    ((wan.configWanFirewallRule ip).fltRule ip).Lists (wan.config.defaultRules ip ++
      (wan.config.icmpAlgRules ip ++ wan.config.firewallRules ip wan.file)) := by
  have reset := lists.setNum
  have length : (wan.config.defaultRules ip : List (DlRule ρ)).length = wan.config.numDefault ip :=
    by
    simp [DlConfig.defaultRules]
  rw [length] at reset
  have added := addIcmpAlgRules_lists wan.config reset ip
  have written := added.put (wan.config.firewallRules ip wan.file)
  rw [← added.num] at written
  simpa [configWanFirewallRule] using written

theorem delWanFirewallRule_lists
    (lists : (wan.fltRule ip).Lists (wan.config.defaultRules ip ++ rest)) :
    ((wan.delWanFirewallRule ip).fltRule ip).Lists (wan.config.defaultRules ip) := by
  have cut := lists.cut
  have length : (wan.config.defaultRules ip : List (DlRule ρ)).length = wan.config.numDefault ip :=
    by
    simp [DlConfig.defaultRules]
  rw [length] at cut
  simpa [delWanFirewallRule] using cut

theorem CacheOk.handleRouteAddEvt (cacheOk : CacheOk wan) (ip : IpaIpType) :
    CacheOk (wan.handleRouteAddEvt ip) := by
  simp only [WanFirewall.handleRouteAddEvt]
  split_ifs with ext
  · intro other
    by_cases same : other = ip
    · subst same
      have lists := configWanFirewallRule_lists (cacheOk other)
      simpa [configWanFirewallRule, expected] using lists
    · have kept := cacheOk other
      simpa [configWanFirewallRule, expected, same] using kept
  · exact cacheOk

theorem CacheOk.handleRouteDelEvtEx (cacheOk : CacheOk wan) (ip : IpaIpType) :
    CacheOk (wan.handleRouteDelEvtEx ip) := by
  intro other
  by_cases same : other = ip
  · subst same
    have lists := delWanFirewallRule_lists (cacheOk other)
    simpa [WanFirewall.handleRouteDelEvtEx, delWanFirewallRule, expected] using lists
  · have kept := cacheOk other
    simpa [WanFirewall.handleRouteDelEvtEx, delWanFirewallRule, expected, same] using kept

theorem rewritten_lists (wan : WanFirewall ρ) (ip : IpaIpType)
    (lists : (wan.fltRule ip).Lists (wan.config.defaultRules ip ++ rest)) :
    (((wan.delWanFirewallRule ip).configWanFirewallRule ip).fltRule ip).Lists
        (wan.config.defaultRules ip ++
          (wan.config.icmpAlgRules ip ++ wan.config.firewallRules ip wan.file)) ∧
      ∀ other ≠ ip, ((wan.delWanFirewallRule ip).configWanFirewallRule ip).fltRule other =
        wan.fltRule other := by
  have cleared := delWanFirewallRule_lists lists
  constructor
  · have again : ((wan.delWanFirewallRule ip).fltRule ip).Lists
        ((wan.delWanFirewallRule ip).config.defaultRules ip ++ []) := by
      rw [List.append_nil]
      exact cleared
    exact configWanFirewallRule_lists again
  · intro other differs
    simp [configWanFirewallRule, delWanFirewallRule, differs]

theorem CacheOk.firewallChange (cacheOk : CacheOk wan) {file : FirewallConf ρ}
    (guarded : wan.FirewallGuard (.firewallChange file)) :
    CacheOk (wan.step (.firewallChange file)) := by
  simp only [FirewallGuard] at guarded
  simp only [step]
  by_cases isDefault : wan.isDefaultGateway = true
  · simp only [isDefault, if_true] at guarded ⊢
    rcases rewritten_lists { wan with file } .v4 (cacheOk .v4) with ⟨four, kept4⟩
    have before6 := cacheOk .v6
    rw [expected, ← kept4 .v6 (by decide)] at before6
    rcases rewritten_lists _ .v6 before6 with ⟨six, kept6⟩
    intro ip
    cases ip with
    | v4 =>
        rw [← kept6 .v4 (by decide)] at four
        simpa [expected, configWanFirewallRule, delWanFirewallRule, guarded] using four
    | v6 => simpa [expected, configWanFirewallRule, delWanFirewallRule, guarded] using six
  · simp only [isDefault] at guarded ⊢
    intro ip
    have kept := cacheOk ip
    by_cases active : wan.active ip = true
    · simpa [expected, active, guarded ip active] using kept
    · simpa [expected, active] using kept

theorem CacheOk.step (cacheOk : CacheOk wan) {event : Event ρ} (guarded : wan.FirewallGuard event) :
    CacheOk (wan.step event) := by
  cases event with
  | routeAdd isOwn ip =>
      cases isOwn with
      | true =>
          simp only [WanFirewall.step]
          split_ifs
          · exact cacheOk
          · exact (cacheOk.handleRouteAddEvt ip).handleRouteAddEvt .v6
          · exact cacheOk.handleRouteAddEvt ip
      | false =>
          simp only [WanFirewall.step]
          split_ifs
          · exact cacheOk.handleRouteDelEvtEx ip
          · exact cacheOk
  | routeDel ip =>
      simp only [WanFirewall.step]
      split_ifs
      · exact (cacheOk.handleRouteDelEvtEx ip).handleRouteDelEvtEx .v6
      · exact cacheOk.handleRouteDelEvtEx ip
      · exact cacheOk
  | firewallChange file => exact cacheOk.firewallChange guarded

end Steps

theorem reachable_firewallOk {wan : WanFirewall ρ}
    (reached : Run.Reachable IsInit (Run.Guarded FirewallGuard Step) wan) : wan.CacheOk := by
  apply reached.invariant CacheOk
  · intro wan isInit ip
    simpa [expected, isInit.inactive] using isInit.default ip
  · rintro wan event _ cacheOk ⟨guarded, rfl⟩
    exact cacheOk.step guarded

section Histories

def modem : WanFirewall Unit where
  config := ⟨true, false, false, [(21, ipProtocolTcp)], fun _ => 1⟩
  file := ⟨false, false, []⟩
  isDefaultGateway := false
  active _ := false
  fltRule _ := CountedTable.put ⟨fun _ => none, 0⟩ 0 [.default 0]

theorem modem_isInit : IsInit modem := by
  refine ⟨rfl, rfl, fun ip => ?_⟩
  have empty : CountedTable.Lists (⟨fun _ => none, 0⟩ : CountedTable (DlRule Unit)) [] :=
    ⟨rfl, fun pos within => by cases within⟩
  exact empty.put [.default 0]

def accepting : FirewallConf Unit := ⟨true, true, [⟨4, ipProtocolTcpUdp, false, ()⟩]⟩

theorem reachable_firewallOk_changed :
    CacheOk (((modem.step (.routeAdd true .v4)).step (.routeAdd true .v6)).step
      (.firewallChange accepting)) := by
  have both : ((modem.step (.routeAdd true .v4)).step (.routeAdd true .v6)).FirewallGuard
      (.firewallChange accepting) := by
    intro ip
    cases ip <;> decide
  exact reachable_firewallOk (.next (.firewallChange accepting) (.next (.routeAdd true .v6)
    (.next (.routeAdd true .v4) (.start modem_isInit) ⟨trivial, rfl⟩) ⟨trivial, rfl⟩) ⟨both, rfl⟩)

/-- With one IP type active a change of the firewall file gives the other rules too, and after one
has lost its route it gives the other none. -/
theorem reachable_not_firewallOk :
    (∃ wan : WanFirewall Unit, Run.Reachable IsInit Step wan ∧ wan.active .v6 = false ∧
        (wan.fltRule .v6).num = 3) ∧
      ∃ wan : WanFirewall Unit, Run.Reachable IsInit Step wan ∧ wan.active .v4 = true ∧
        wan.file = accepting ∧ ¬ wan.CacheOk := by
  refine ⟨⟨_, .next (.firewallChange accepting) (.next (.routeAdd true .v4) (.start modem_isInit)
    rfl)
      rfl, rfl, rfl⟩,
    ⟨_, .next (.firewallChange accepting) (.next (.routeDel .v6) (.next (.routeAdd true .v6)
      (.next (.routeAdd true .v4) (.start modem_isInit) rfl) rfl) rfl) rfl, rfl, rfl, ?_⟩⟩
  intro cacheOk
  have num := (cacheOk .v4).num
  revert num
  decide

end Histories

end WanFirewall

end HtcPme.Ipacm
