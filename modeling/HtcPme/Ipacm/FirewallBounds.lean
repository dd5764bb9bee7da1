import HtcPme.Ipacm.StaFirewallRules

/-!
# How many firewall rules there is room for

The handles of a station and the rules of a modem interface go to arrays whose sizes nobody looks
at.
-/

namespace HtcPme.Ipacm

open CountedTable List

def ipaMaxFltRule : ℕ := 50

namespace StaFirewall

variable {ρ : Type*} {source : HandleSource} {ip : IpaIpType}

def newEntryHdls (before after : StaFirewall ρ) (ip : IpaIpType) : List ℕ :=
  (((after.kernel ip).rules.drop (before.kernel ip).rules.length).filter fun entry =>
    entry.2.matches'.isEntry).map Prod.fst

structure HdlsStored (before after : StaFirewall ρ) (ip : IpaIpType) : Prop where
  lists : (after.firewallHdl ip).Lists (newEntryHdls before after ip)
  inside : (after.firewallHdl ip).Inside ipacmMaxFirewallEntries

def firewallCount (sta : StaFirewall ρ) (granted : Option ℕ) (ip : IpaIpType) : ℕ :=
  if sta.hasRxProp then
    let requests := sta.file.dftRequests sta.isRouter ip
    (requests.take (granted.getD requests.length)).countP DftRequest.isFirewall
  else 0

theorem hdlsStored_iff {sta : StaFirewall ρ}
    (inside : (sta.firewallHdl ip).Inside ipacmMaxFirewallEntries) (granted : Option ℕ) :
    HdlsStored sta (sta.configDftFirewallRules source granted ip).2 ip ↔
      (sta.firewallHdl ip).num = 0 ∧
        sta.firewallCount granted ip ≤ ipacmMaxFirewallEntries := by
  by_cases hasRx : sta.hasRxProp
  · rcases foldl_perform source ip { sta with firewallConfig := sta.file }
      ((sta.file.sequential_dftRequests sta.isRouter ip).take
        (granted.getD (sta.file.dftRequests sta.isRouter ip).length)) with
      ⟨new, rules, hdls, counted, _⟩
    have after : (sta.configDftFirewallRules source granted ip).2 =
        ((sta.file.dftRequests sta.isRouter ip).take
          (granted.getD (sta.file.dftRequests sta.isRouter ip).length)).foldl (perform source ip)
            { sta with firewallConfig := sta.file } := by
      rw [configDftFirewallRules, if_pos hasRx]
    have isCount : sta.firewallCount granted ip =
        ((new.filter fun entry => entry.2.matches'.isEntry).map Prod.fst).length := by
      rw [firewallCount, if_pos hasRx, length_map, counted]
    have isNew : newEntryHdls sta (sta.configDftFirewallRules source granted ip).2 ip =
        (new.filter fun entry => entry.2.matches'.isEntry).map Prod.fst := by
      rw [newEntryHdls, after, rules, drop_left]
    have isTable : (sta.configDftFirewallRules source granted ip).2.firewallHdl ip =
        (sta.firewallHdl ip).put 0
          ((new.filter fun entry => entry.2.matches'.isEntry).map Prod.fst) := by
      rw [after, hdls]
    rw [isCount]
    constructor
    · intro stored
      have lists := stored.lists
      have isInside := stored.inside
      rw [isNew, isTable] at lists
      rw [isTable, inside_put_iff inside] at isInside
      refine ⟨(lists_put_zero_iff _ _).mp lists, ?_⟩
      rcases isInside with isEmpty | isRoom
      · rw [isEmpty]
        exact Nat.zero_le _
      · omega
    · rintro ⟨noCount, isRoom⟩
      refine ⟨?_, ?_⟩
      · rw [isNew, isTable]
        exact (lists_put_zero_iff _ _).mpr noCount
      · rw [isTable, inside_put_iff inside]
        right
        omega
  · have after : (sta.configDftFirewallRules source granted ip).2 = sta := by
      rw [configDftFirewallRules, if_neg hasRx]
    have isNew : newEntryHdls sta sta ip = [] := by
      rw [newEntryHdls, drop_length]
      rfl
    rw [after, firewallCount, if_neg hasRx]
    constructor
    · intro stored
      have lists := stored.lists
      rw [isNew] at lists
      exact ⟨lists.num, Nat.zero_le _⟩
    · rintro ⟨noCount, _⟩
      refine ⟨?_, inside⟩
      rw [isNew]
      exact ⟨noCount, fun pos within => absurd within (Nat.not_lt_zero pos)⟩

end StaFirewall

namespace DlRule

variable {ρ : Type*}

def isFragment : DlRule ρ → Bool
  | .rule _ _ .fragment => true
  | _ => false

end DlRule

structure WanFirewallRules (ρ : Type*) extends WanFirewall ρ where
  numFirewall : IpaIpType → ℕ

namespace WanFirewallRules

variable {ρ : Type*} (wan : WanFirewallRules ρ) (granted : Option ℕ) (ip : IpaIpType)

/-- The rules of `add_icmp_alg_rules` before a request fails, where those of both functions are
counted through. -/
def icmpAlgMade : List (DlRule ρ) :=
  match granted with
  | none => wan.config.icmpAlgRules ip
  | some granted => (wan.config.icmpAlgRules ip).take granted

/-- The rules of `config_dft_firewall_rules_ex` before a request fails. -/
def firewallMade : List (DlRule ρ) :=
  match granted with
  | none => wan.config.firewallRules ip wan.file
  | some granted =>
      (wan.config.firewallRules ip wan.file).take
        (granted - (wan.config.icmpAlgRules ip : List (DlRule ρ)).length)

/-- `config_wan_firewall_rule`. The second function is called only when the first one succeeds; it
does not count the rule for fragments in `num_firewall_v6`. -/
def configWanFirewallRule : ℤ × WanFirewallRules ρ :=
  let table := { wan.fltRule ip with num := wan.config.numDefault ip }
  let icmpAlg := wan.icmpAlgMade granted ip
  let table := table.put table.num icmpAlg
  if icmpAlg.length = (wan.config.icmpAlgRules ip : List (DlRule ρ)).length then
    let firewall := wan.firewallMade granted ip
    (if firewall.length = (wan.config.firewallRules ip wan.file).length then ipacmSuccess
      else ipacmFailure,
      { wan with
        fltRule := Function.update wan.fltRule ip (table.put table.num firewall)
        numFirewall := Function.update wan.numFirewall ip
          (wan.numFirewall ip + firewall.countP fun rule => !rule.isFragment) })
  else (ipacmFailure, { wan with fltRule := Function.update wan.fltRule ip table })

def rulesMade : List (DlRule ρ) := wan.icmpAlgMade granted ip ++ wan.firewallMade granted ip

/-- The rules are behind the default ones in the array and counted, and the array ends behind
them. -/
structure RulesStored (after : WanFirewallRules ρ) : Prop where
  counted : (after.fltRule ip).num = wan.config.numDefault ip + (wan.rulesMade granted ip).length
  entry : ∀ pos < (wan.rulesMade granted ip).length,
    (after.fltRule ip).entry (wan.config.numDefault ip + pos) = (wan.rulesMade granted ip)[pos]?
  inside : (after.fltRule ip).Inside ipaMaxFltRule
  bounded : (after.fltRule ip).num ≤ ipaMaxFltRule

/-- How many rules `config_wan_firewall_rule` makes: one for ICMP, two for each port of an ALG in
IPv4, those of the entries, one for fragments in IPv6, and one for all other packets. -/
def ruleCount (config : DlConfig) (file : FirewallConf ρ) : IpaIpType → ℕ
  | .v4 =>
      1 + 2 * config.algTable.length +
        ((if file.firewallEnable then (file.splitEntries .v4).length else 0) + 1)
  | .v6 =>
      1 + ((if file.hasFragRule then 1 else 0) +
        (if file.firewallEnable then (file.splitEntries .v6).length else 0) + 1)

variable {wan granted ip}

theorem firewallMade_of_failure
    (notDone : (wan.icmpAlgMade granted ip).length ≠
      (wan.config.icmpAlgRules ip : List (DlRule ρ)).length) : wan.firewallMade granted ip =
        [] := by
  cases granted with
  | none => exact absurd rfl notDone
  | some granted =>
      simp only [icmpAlgMade, length_take] at notDone
      rw [firewallMade, Nat.sub_eq_zero_of_le (by omega), take_zero]

theorem fltRule_configWanFirewallRule :
    (wan.configWanFirewallRule granted ip).2.fltRule ip =
      ({ wan.fltRule ip with num := wan.config.numDefault ip } : CountedTable (DlRule ρ)).put
        (wan.config.numDefault ip) (wan.rulesMade granted ip) := by
  rw [rulesMade, put_append]
  unfold configWanFirewallRule
  simp only
  split
  · simp only [Function.update_self, num_put]
  · rename_i notDone
    rw [firewallMade_of_failure notDone]
    simp only [Function.update_self, put]

theorem length_entryRules (file : FirewallConf ρ) {ip : IpaIpType} {ipVsn : ℕ}
    (isVsn : FirewallConf.ipVsnOf ip = ipVsn) (action : DlAction) (rtTbl : DlTable) :
    (if file.firewallEnable then
        (file.entries.filter fun entry => entry.ipVsn = ipVsn).flatMap
          (WanFirewall.entryRules action rtTbl)
      else []).length = if file.firewallEnable then (file.splitEntries ip).length else 0 := by
  subst isVsn
  split
  · rw [FirewallConf.splitEntries, length_flatMap, length_flatMap]
    congr 1
    apply map_congr_left
    intro entry _
    unfold WanFirewall.entryRules FirewallConf.splitEntry
    split <;> rfl
  · rfl

theorem length_rulesMade_none :
    (wan.rulesMade none ip).length = ruleCount wan.config wan.file ip := by
  rw [rulesMade, length_append]
  cases ip with
  | v4 =>
      simp only [icmpAlgMade, firewallMade, ruleCount, DlConfig.icmpAlgRules,
        DlConfig.firewallRules, WanFirewall.firewallRulesV4]
      have isVsn : FirewallConf.ipVsnOf .v4 = 4 := rfl
      have entries := length_entryRules wan.file isVsn
      rw [cons_append, length_cons, length_append, length_map,
        length_map, length_append, length_singleton, entries]
      omega
  | v6 =>
      simp only [icmpAlgMade, firewallMade, ruleCount, DlConfig.icmpAlgRules,
        DlConfig.firewallRules, WanFirewall.firewallRulesV6]
      have isVsn : FirewallConf.ipVsnOf .v6 = 6 := rfl
      have entries := length_entryRules wan.file isVsn
      have frag : (if wan.file.hasFragRule then
          [DlRule.rule .passToRouting .wanDl .fragment]
          else ([] : List (DlRule ρ))).length = if wan.file.hasFragRule then 1 else 0 := by
        split <;> rfl
      unfold FirewallConf.hasFragRule at frag ⊢
      rw [length_append, length_append, entries, frag, length_singleton,
        length_singleton]

theorem length_rulesMade : (wan.rulesMade granted ip).length =
    min (granted.getD (ruleCount wan.config wan.file ip)) (ruleCount wan.config wan.file ip) := by
  have total : (wan.rulesMade none ip).length = ruleCount wan.config wan.file ip :=
    length_rulesMade_none
  cases granted with
  | none => rw [total, Option.getD_none, Nat.min_self]
  | some granted =>
      rw [rulesMade, length_append] at total ⊢
      simp only [icmpAlgMade, firewallMade, length_take, Option.getD_some] at total ⊢
      omega

theorem rulesStored_iff (inside : (wan.fltRule ip).Inside ipaMaxFltRule) :
    wan.RulesStored granted ip (wan.configWanFirewallRule granted ip).2 ↔
      wan.config.numDefault ip +
        min (granted.getD (ruleCount wan.config wan.file ip))
          (ruleCount wan.config wan.file ip) ≤ ipaMaxFltRule := by
  rw [← length_rulesMade]
  have isTable : (wan.configWanFirewallRule granted ip).2.fltRule ip = _ :=
    fltRule_configWanFirewallRule
  have counted : ((wan.configWanFirewallRule granted ip).2.fltRule ip).num =
      wan.config.numDefault ip + (wan.rulesMade granted ip).length := by
    rw [isTable, num_put]
  constructor
  · intro stored
    rw [← counted]
    exact stored.bounded
  · intro isRoom
    refine ⟨counted, fun pos within => ?_, ?_, by rwa [counted]⟩
    · rw [isTable, entry_put, if_pos (by omega), Nat.add_sub_cancel_left]
    · have reset : CountedTable.Inside ipaMaxFltRule
          { wan.fltRule ip with num := wan.config.numDefault ip } := inside
      rw [isTable, inside_put_iff reset]
      exact .inr isRoom

theorem numFirewall_iff :
    (wan.configWanFirewallRule granted ip).2.numFirewall ip =
        (wan.firewallMade granted ip).length ↔
      wan.numFirewall ip = (wan.firewallMade granted ip).countP DlRule.isFragment := by
  have counted : (wan.configWanFirewallRule granted ip).2.numFirewall ip =
      wan.numFirewall ip + (wan.firewallMade granted ip).countP fun rule => !rule.isFragment := by
    unfold configWanFirewallRule
    simp only
    split
    · simp only [Function.update_self]
    · rename_i notDone
      rw [firewallMade_of_failure notDone]
      rfl
  have total : (wan.firewallMade granted ip).length = _ :=
    length_eq_countP_add_countP DlRule.isFragment
  have others : (wan.firewallMade granted ip).countP (fun rule => !rule.isFragment) =
      (wan.firewallMade granted ip).countP fun rule => ¬rule.isFragment := by
    congr 1
    funext rule
    cases rule.isFragment <;> rfl
  rw [counted, others, total]
  omega

end WanFirewallRules

section Bounds

variable {ρ : Type*} {sta : StaFirewall ρ} {wan : WanFirewallRules ρ}

/-- The handles and the rules are in their arrays and counted if and only if they fit and the counts
of firewall rules were reset. -/
theorem firewallStored_iff (source : HandleSource) (granted granted' : Option ℕ) (ip : IpaIpType)
    (hdlsInside : (sta.firewallHdl ip).Inside ipacmMaxFirewallEntries)
    (rulesInside : (wan.fltRule ip).Inside ipaMaxFltRule) :
    (sta.HdlsStored (sta.configDftFirewallRules source granted ip).2 ip ↔
      (sta.firewallHdl ip).num = 0 ∧ sta.firewallCount granted ip ≤ ipacmMaxFirewallEntries) ∧
    (wan.RulesStored granted' ip (wan.configWanFirewallRule granted' ip).2 ↔
      wan.config.numDefault ip +
        min (granted'.getD (WanFirewallRules.ruleCount wan.config wan.file ip))
          (WanFirewallRules.ruleCount wan.config wan.file ip) ≤ ipaMaxFltRule) ∧
    ((wan.configWanFirewallRule granted' ip).2.numFirewall ip =
        (wan.firewallMade granted' ip).length ↔
      wan.numFirewall ip = (wan.firewallMade granted' ip).countP DlRule.isFragment) :=
  ⟨StaFirewall.hdlsStored_iff hdlsInside granted,
    WanFirewallRules.rulesStored_iff rulesInside, WanFirewallRules.numFirewall_iff⟩

def tcpUdpFile (num : ℕ) : FirewallConf Unit :=
  ⟨true, true, List.replicate num ⟨4, ipProtocolTcpUdp, false, ()⟩⟩

def newStation (file : FirewallConf Unit) : StaFirewall Unit where
  hasRxProp := true
  isRouter := true
  file := file
  firewallConfig := ⟨false, false, []⟩
  active := fun _ => true
  firewallHdl := fun _ => ⟨fun _ => none, 0⟩
  dftWanFlHdl := fun _ => 0
  ipv6FragFirewallFltRuleHdl := 0
  kernel := fun _ => .empty

def newModem (algTable : List (ℕ × ℕ)) (file : FirewallConf Unit) : WanFirewallRules Unit where
  config := ⟨true, false, false, algTable, fun ip => match ip with | .v4 => 2 | .v6 => 3⟩
  file := file
  isDefaultGateway := true
  active := fun _ => true
  fltRule := fun _ => ⟨fun _ => none, 0⟩
  numFirewall := fun _ => 0

theorem firewallStored_iff_two :
    (newStation (tcpUdpFile 1)).HdlsStored
        ((newStation (tcpUdpFile 1)).configDftFirewallRules .counting none .v4).2 .v4 ∧
      (newModem [(21, 6)] (tcpUdpFile 1)).RulesStored none .v4
        ((newModem [(21, 6)] (tcpUdpFile 1)).configWanFirewallRule none .v4).2 := by
  have hdlsInside : ((newStation (tcpUdpFile 1)).firewallHdl .v4).Inside
      ipacmMaxFirewallEntries := fun _ isWritten => by cases isWritten
  have rulesInside : ((newModem [(21, 6)] (tcpUdpFile 1)).fltRule .v4).Inside ipaMaxFltRule :=
    fun _ isWritten => by cases isWritten
  have stored := firewallStored_iff .counting none none .v4 hdlsInside rulesInside
  exact ⟨stored.1.mpr (by decide), stored.2.1.mpr (by decide)⟩

/-- Twenty-six entries for TCP and UDP, or the largest table of ALG ports with six entries, are too
many. -/
theorem not_firewallStored :
    ¬(∀ file : FirewallConf Unit, file.entries.length ≤ ipacmMaxFirewallEntries →
        (newStation file).HdlsStored
          ((newStation file).configDftFirewallRules .counting none .v4).2 .v4) ∧
      ¬∀ algTable : List (ℕ × ℕ), algTable.length ≤ 20 → ∀ file : FirewallConf Unit,
        file.entries.length ≤ ipacmMaxFirewallEntries →
          (newModem algTable file).RulesStored none .v4
            ((newModem algTable file).configWanFirewallRule none .v4).2 := by
  constructor
  · intro stored
    have isStored := stored (tcpUdpFile 26) (by decide)
    have tooMany := ((StaFirewall.hdlsStored_iff fun _ isWritten => by cases isWritten) none).mp
      isStored
    exact absurd tooMany.2 (by decide)
  · intro stored
    have isStored := stored (List.replicate 20 (21, 6)) (by decide) (tcpUdpFile 6) (by decide)
    have tooMany := (WanFirewallRules.rulesStored_iff fun _ isWritten => by cases isWritten).mp
      isStored
    exact absurd tooMany (by decide)

end Bounds

end HtcPme.Ipacm
