import HtcPme.Foundation.Run
import HtcPme.Ipacm.StaFirewallRecorded

/-!
# Runs over the firewall of a station

Whether the rule for fragments is deleted is decided by the configuration that was parsed last, be
it for IPv4.
-/

namespace HtcPme.Ipacm

open List

open Function (update update_of_ne update_self update_apply)

/-- A default route of this interface or another, a notice that the firewall file changed, and the
change itself. -/
inductive StaFirewallEvent (ρ : Type*) where
  | routeAdd (isOwn : Bool) (ip : IpaIpType)
  | routeDel (ip : IpaIpType)
  | firewallChange
  | fileChange (file : FirewallConf ρ)

/-- A station with the IP types that it has, the rules that `config_dft_firewall_rules` added last
for each, and whether a deletion was refused. -/
structure StaFirewallRun (ρ : Type*) where
  sta : StaFirewall ρ
  hasIpType : IpaIpType → Bool
  installed : IpaIpType → List (ℕ × StaRule ρ)
  refused : Bool

namespace FirewallConf

variable {ρ : Type*}

def Fits (conf : FirewallConf ρ) : Prop :=
  ∀ ip, (conf.splitEntries ip).length ≤ ipacmMaxFirewallEntries

end FirewallConf

namespace StaFirewallRun

variable {ρ : Type*} (run : StaFirewallRun ρ) (source : HandleSource)

def configRules (ip : IpaIpType) : StaFirewallRun ρ :=
  let sta := (run.sta.configDftFirewallRules source none ip).2
  { run with
    sta
    installed := update run.installed ip
      ((sta.kernel ip).rules.drop (run.sta.kernel ip).rules.length) }

def delRules (ip : IpaIpType) : StaFirewallRun ρ :=
  let (ret, sta) := run.sta.delDftFirewallRules ip
  { run with sta, refused := run.refused || decide (ret = ipacmFailure) }

/-- The part of `handle_route_add_evt` and `handle_route_del_evt` that concerns the flag. -/
def setActive (ip : IpaIpType) (active : Bool) : StaFirewallRun ρ :=
  { run with sta := { run.sta with active := update run.sta.active ip active } }

def deleteRoute (ip : IpaIpType) : StaFirewallRun ρ :=
  if run.sta.active ip then (run.delRules ip).setActive ip false else run

def refresh (ip : IpaIpType) : StaFirewallRun ρ :=
  if run.sta.active ip then (run.delRules ip).configRules source ip else run

/-- `event_callback` for a station whose headers are constructed. -/
def handle : StaFirewallEvent ρ → StaFirewallRun ρ
  | .routeAdd true ip =>
      if run.sta.active ip = false ∧ run.hasIpType ip then
        (run.setActive ip true).configRules source ip
      else run
  | .routeAdd false ip => run.deleteRoute ip
  | .routeDel ip => run.deleteRoute ip
  | .firewallChange => (run.refresh source .v4).refresh source .v6
  | .fileChange file => { run with sta := { run.sta with file } }

def Step (run : StaFirewallRun ρ) (event : StaFirewallEvent ρ) (run' : StaFirewallRun ρ) : Prop :=
  (∀ file, event = .fileChange file → file.Fits) ∧ run' = run.handle source event

structure IsInit (run : StaFirewallRun ρ) : Prop where
  fits : run.sta.file.Fits
  inactive : ∀ ip, run.sta.active ip = false
  kernel : ∀ ip, (run.sta.kernel ip).rules = []
  num : ∀ ip, (run.sta.firewallHdl ip).num = 0
  notRefused : run.refused = false

/-- The rules of an active IP type are those that were added last, there are no others, and no
deletion was refused. -/
structure RulesOk (run : StaFirewallRun ρ) : Prop where
  present : ∀ ip, ((run.sta.kernel ip).rules).Perm
    (if run.sta.active ip then run.installed ip else [])
  notRefused : run.refused = false

def hasFrag (ip : IpaIpType) : Bool :=
  (run.installed ip).any fun entry => entry.2.matches'.isFragment

/-- A configuration has a rule for fragments if and only if one was added, or it has one and the
handle was never written and is 0, which is passed over. -/
def FragAgrees (conf : FirewallConf ρ) : Prop :=
  run.sta.hasRxProp → run.sta.active .v6 →
    conf.hasFragRule = run.hasFrag .v6 ∨
      conf.hasFragRule ∧ run.hasFrag .v6 = false ∧ run.sta.ipv6FragFirewallFltRuleHdl = 0

/-- When the rules of IPv6 are deleted, the configuration that was parsed last agrees with what was
added. A notice makes that the file if IPv4 is active. -/
def Condition (run : StaFirewallRun ρ) : StaFirewallEvent ρ → Prop
  | .routeAdd isOwn ip => isOwn = false → ip = .v6 → run.FragAgrees run.sta.firewallConfig
  | .routeDel ip => ip = .v6 → run.FragAgrees run.sta.firewallConfig
  | .firewallChange =>
      run.FragAgrees (if run.sta.active .v4 then run.sta.file else run.sta.firewallConfig)
  | .fileChange _ => True

variable {run} {run' : StaFirewallRun ρ} {source} {ip : IpaIpType}

structure FamilyRecorded (run : StaFirewallRun ρ) (ip : IpaIpType) : Prop where
  rules : (run.sta.kernel ip).rules = run.installed ip
  noRx : ¬run.sta.hasRxProp → run.installed ip = [] ∧ (run.sta.firewallHdl ip).num = 0
  recorded : run.sta.hasRxProp → ∃ frag entries others,
    run.installed ip = frag ++ entries ++ others ∧
      run.sta.Recorded ip (run.hasFrag ip) frag entries others

structure FamilyCleared (run : StaFirewallRun ρ) (ip : IpaIpType) : Prop where
  rules : (run.sta.kernel ip).rules = []
  num : (run.sta.firewallHdl ip).num = 0

structure RunOk (run : StaFirewallRun ρ) : Prop where
  fits : run.sta.file.Fits
  notRefused : run.refused = false
  active : ∀ ip, run.sta.active ip = true → run.FamilyRecorded ip
  inactive : ∀ ip, run.sta.active ip = false → run.FamilyCleared ip

structure SameFamily (run run' : StaFirewallRun ρ) (ip : IpaIpType) : Prop where
  hasRxProp : run'.sta.hasRxProp = run.sta.hasRxProp
  kernel : run'.sta.kernel ip = run.sta.kernel ip
  firewallHdl : run'.sta.firewallHdl ip = run.sta.firewallHdl ip
  dftHdls : run'.sta.dftHdls ip = run.sta.dftHdls ip
  fragHdl : ip = .v6 →
    run'.sta.ipv6FragFirewallFltRuleHdl = run.sta.ipv6FragFirewallFltRuleHdl
  installed : run'.installed ip = run.installed ip

structure SameRest (run run' : StaFirewallRun ρ) : Prop where
  hasRxProp : run'.sta.hasRxProp = run.sta.hasRxProp
  file : run'.sta.file = run.sta.file
  active : run'.sta.active = run.sta.active
  refused : run'.refused = run.refused

theorem SameFamily.recorded (same : SameFamily run run' ip) (recorded : run.FamilyRecorded ip) :
    run'.FamilyRecorded ip where
  rules := by rw [same.kernel, same.installed, recorded.rules]
  noRx := by
    rw [same.hasRxProp, same.installed, same.firewallHdl]
    exact recorded.noRx
  recorded := by
    rw [same.hasRxProp, same.installed, hasFrag, same.installed]
    intro hasRx
    rcases recorded.recorded hasRx with ⟨frag, entries, others, rules, recorded⟩
    refine ⟨frag, entries, others, rules, ?_, recorded.isFrag, ?_, recorded.bounded, ?_,
      recorded.notFrag, recorded.onlyV6⟩
    · rw [recorded.fragHdl]
      cases ip with
      | v4 =>
          rw [recorded.onlyV6 rfl]
          rw [show (run.installed .v4).any (fun entry => entry.2.matches'.isFragment) = false from
            recorded.onlyV6 rfl]
          rfl
      | v6 =>
          rw [same.fragHdl rfl]
          rfl
    · rw [same.firewallHdl]
      exact recorded.entryHdls
    · rw [same.dftHdls]
      exact recorded.otherHdls

theorem SameFamily.cleared (same : SameFamily run run' ip) (cleared : run.FamilyCleared ip) :
    run'.FamilyCleared ip := by
  refine ⟨?_, ?_⟩
  · rw [same.kernel]
    exact cleared.rules
  · rw [same.firewallHdl]
    exact cleared.num

theorem any_isFragment {sta : StaFirewall ρ} {hasFrag : Bool}
    {frag entries others : List (ℕ × StaRule ρ)}
    (recorded : sta.Recorded ip hasFrag frag entries others) :
    (frag ++ entries ++ others).any (fun entry => entry.2.matches'.isFragment) = hasFrag := by
  rw [append_assoc, any_append]
  have notRest : (entries ++ others).any (fun entry => entry.2.matches'.isFragment) = false := by
    rw [any_eq_false]
    intro entry isIn
    rw [recorded.notFrag entry isIn]
    exact Bool.false_ne_true
  rw [notRest, Bool.or_false]
  have isLength := congrArg length recorded.fragHdl
  rw [length_map] at isLength
  cases hasFrag with
  | false =>
      have isEmpty : frag = [] := length_eq_zero_iff.mp isLength
      rw [isEmpty]
      rfl
  | true =>
      rcases length_eq_one_iff.mp isLength with ⟨entry, isOne⟩
      have isFragment := recorded.isFrag entry (isOne ▸ mem_singleton_self entry)
      simp [isOne, isFragment]

theorem FamilyRecorded.delRules (recorded : run.FamilyRecorded ip)
    (isActive : run.sta.active ip = true)
    (agrees : ip = .v6 → run.FragAgrees run.sta.firewallConfig) :
    (run.delRules ip).FamilyCleared ip ∧ SameRest run (run.delRules ip) ∧
      (∀ ip' ≠ ip, SameFamily run (run.delRules ip) ip') ∧
      (run.delRules ip).sta.firewallConfig = run.sta.firewallConfig := by
  by_cases hasRx : run.sta.hasRxProp
  · rcases recorded.recorded hasRx with ⟨frag, entries, others, rules, isRecorded⟩
    have isAgreed : ip = .v6 → run.sta.Agrees (run.hasFrag ip) := by
      rintro rfl
      exact agrees rfl hasRx isActive
    rcases isRecorded.delDftFirewallRules hasRx isActive (recorded.rules.trans rules) isAgreed with
      ⟨kernel, isEmpty, deleted⟩
    have isDel : run.delRules ip = { run with sta := { run.sta with
        kernel := update run.sta.kernel ip kernel
        firewallHdl := update run.sta.firewallHdl ip
          { run.sta.firewallHdl ip with num := 0 } } } := by
      have notFailure : ipacmSuccess ≠ ipacmFailure := by decide
      rw [StaFirewallRun.delRules, deleted]
      simp [notFailure]
    rw [isDel]
    refine ⟨⟨?_, ?_⟩, ⟨rfl, rfl, rfl, rfl⟩, fun ip' isOther => ?_, rfl⟩
    · simp only [update_self]
      exact isEmpty
    · simp only [update_self]
    · refine ⟨rfl, ?_, ?_, rfl, fun _ => rfl, rfl⟩
      · simp only [update_of_ne isOther]
      · simp only [update_of_ne isOther]
  · have isDel : run.delRules ip = run := by
      have notFailure : ipacmSuccess ≠ ipacmFailure := by decide
      rw [StaFirewallRun.delRules, StaFirewall.delDftFirewallRules, if_neg hasRx]
      simp [notFailure]
    rw [isDel]
    refine ⟨⟨?_, (recorded.noRx hasRx).2⟩, ⟨rfl, rfl, rfl, rfl⟩, fun ip' _ => ?_, rfl⟩
    · rw [recorded.rules]
      exact (recorded.noRx hasRx).1
    · exact ⟨rfl, rfl, rfl, rfl, fun _ => rfl, rfl⟩

theorem FamilyCleared.configRules (cleared : run.FamilyCleared ip) (fits : run.sta.file.Fits)
    (source : HandleSource) :
    (run.configRules source ip).FamilyRecorded ip ∧ SameRest run (run.configRules source ip) ∧
      (∀ ip' ≠ ip, SameFamily run (run.configRules source ip) ip') ∧
      (run.sta.hasRxProp →
        (run.configRules source ip).sta.firewallConfig = run.sta.file) := by
  by_cases hasRx : run.sta.hasRxProp
  · rcases StaFirewall.configDftFirewallRules_spec hasRx cleared.num (fits ip) source with
      ⟨frag, entries, others, rules, recorded, keeps, isConfig, sameHdl⟩
    rw [cleared.rules, nil_append] at rules
    have isInstalled : (run.configRules source ip).installed ip = frag ++ entries ++ others := by
      simp only [StaFirewallRun.configRules, update_self, cleared.rules, length_nil,
        drop_zero]
      exact rules
    refine ⟨⟨?_, ?_, fun _ => ⟨frag, entries, others, isInstalled, ?_⟩⟩,
      ⟨keeps.hasRxProp, keeps.file, keeps.active, rfl⟩, fun ip' isOther => ?_, fun _ => isConfig⟩
    · rw [isInstalled]
      exact rules
    · intro noRx
      exact absurd (keeps.hasRxProp.trans hasRx) noRx
    · rw [hasFrag, isInstalled, any_isFragment recorded]
      exact recorded
    · refine ⟨keeps.hasRxProp, keeps.kernel ip' isOther, keeps.firewallHdl ip' isOther,
        keeps.dftHdls ip' isOther, ?_, ?_⟩
      · rintro rfl
        apply sameHdl
        cases ip with
        | v4 => rfl
        | v6 => exact absurd rfl isOther
      · simp only [StaFirewallRun.configRules, update_of_ne isOther]
  · have isConfig : (run.sta.configDftFirewallRules source none ip).2 = run.sta := by
      rw [StaFirewall.configDftFirewallRules, if_neg hasRx]
    have isInstalled : (run.configRules source ip).installed ip = [] := by
      simp only [StaFirewallRun.configRules, update_self, isConfig, cleared.rules]
      rfl
    have isSta : (run.configRules source ip).sta = run.sta := isConfig
    refine ⟨⟨?_, fun _ => ⟨isInstalled, ?_⟩, ?_⟩, ⟨?_, ?_, ?_, rfl⟩, fun ip' isOther => ?_, ?_⟩
    · rw [isInstalled, isSta]
      exact cleared.rules
    · rw [isSta]
      exact cleared.num
    · rw [isSta]
      exact fun isRx => absurd isRx hasRx
    · rw [isSta]
    · rw [isSta]
    · rw [isSta]
    · refine ⟨?_, ?_, ?_, ?_, fun _ => ?_, ?_⟩
      · rw [isSta]
      · rw [isSta]
      · rw [isSta]
      · rw [isSta]
      · rw [isSta]
      · simp only [StaFirewallRun.configRules, update_of_ne isOther]
    · exact fun isRx => absurd isRx hasRx

theorem sameFamily_setActive (run : StaFirewallRun ρ) (ip ip' : IpaIpType) (active : Bool) :
    SameFamily run (run.setActive ip active) ip' :=
  ⟨rfl, rfl, rfl, rfl, fun _ => rfl, rfl⟩

theorem active_setActive (run : StaFirewallRun ρ) (ip ip' : IpaIpType) (active : Bool) :
    (run.setActive ip active).sta.active ip' =
      if ip' = ip then active else run.sta.active ip' :=
  update_apply run.sta.active ip active ip'

theorem RunOk.deleteRoute (isOk : RunOk run)
    (agrees : ip = .v6 → run.FragAgrees run.sta.firewallConfig) : RunOk (run.deleteRoute ip) := by
  unfold StaFirewallRun.deleteRoute
  split
  · rename_i isActive
    rcases (isOk.active ip isActive).delRules isActive agrees with ⟨cleared, rest, others, _⟩
    refine ⟨?_, ?_, fun ip' isActive' => ?_, fun ip' notActive' => ?_⟩
    · rw [StaFirewallRun.setActive, rest.file]
      exact isOk.fits
    · rw [StaFirewallRun.setActive, rest.refused]
      exact isOk.notRefused
    · rw [active_setActive] at isActive'
      split_ifs at isActive' with isIp
      rw [rest.active] at isActive'
      exact (sameFamily_setActive _ ip ip' false).recorded
        ((others ip' isIp).recorded (isOk.active ip' isActive'))
    · apply (sameFamily_setActive _ ip ip' false).cleared
      rw [active_setActive] at notActive'
      split_ifs at notActive' with isIp
      · rw [isIp]
        exact cleared
      · rw [rest.active] at notActive'
        exact (others ip' isIp).cleared (isOk.inactive ip' notActive')
  · exact isOk

theorem RunOk.addRoute (isOk : RunOk run) (notActive : run.sta.active ip = false)
    (source : HandleSource) : RunOk ((run.setActive ip true).configRules source ip) := by
  have cleared := (sameFamily_setActive run ip ip true).cleared (isOk.inactive ip notActive)
  rcases cleared.configRules isOk.fits source with ⟨recorded, rest, others, _⟩
  refine ⟨?_, ?_, fun ip' isActive' => ?_, fun ip' notActive' => ?_⟩
  · rw [rest.file]
    exact isOk.fits
  · rw [rest.refused]
    exact isOk.notRefused
  · rw [rest.active, active_setActive] at isActive'
    split_ifs at isActive' with isIp
    · rw [isIp]
      exact recorded
    · exact (others ip' isIp).recorded
        ((sameFamily_setActive run ip ip' true).recorded (isOk.active ip' isActive'))
  · rw [rest.active, active_setActive] at notActive'
    split_ifs at notActive' with isIp
    exact (others ip' isIp).cleared
      ((sameFamily_setActive run ip ip' true).cleared (isOk.inactive ip' notActive'))

theorem SameFamily.trans {run'' : StaFirewallRun ρ} (same : SameFamily run run' ip)
    (same' : SameFamily run' run'' ip) : SameFamily run run'' ip :=
  ⟨same'.hasRxProp.trans same.hasRxProp, same'.kernel.trans same.kernel,
    same'.firewallHdl.trans same.firewallHdl, same'.dftHdls.trans same.dftHdls,
    fun isV6 => (same'.fragHdl isV6).trans (same.fragHdl isV6),
    same'.installed.trans same.installed⟩

theorem RunOk.refresh (isOk : RunOk run)
    (agrees : ip = .v6 → run.FragAgrees run.sta.firewallConfig) (source : HandleSource) :
    RunOk (run.refresh source ip) ∧ SameRest run (run.refresh source ip) ∧
      (∀ ip' ≠ ip, SameFamily run (run.refresh source ip) ip') ∧
      (run.sta.hasRxProp → (run.refresh source ip).sta.firewallConfig =
        if run.sta.active ip then run.sta.file else run.sta.firewallConfig) := by
  unfold StaFirewallRun.refresh
  split
  · rename_i isActive
    rcases (isOk.active ip isActive).delRules isActive agrees with ⟨cleared, rest, others, _⟩
    have fits : (run.delRules ip).sta.file.Fits := by
      rw [rest.file]
      exact isOk.fits
    rcases cleared.configRules fits source with ⟨recorded, rest', others', isConfig⟩
    have same := fun ip' isOther => (others ip' isOther).trans (others' ip' isOther)
    refine ⟨⟨?_, ?_, fun ip' isActive' => ?_, fun ip' notActive' => ?_⟩,
      ⟨rest'.hasRxProp.trans rest.hasRxProp, rest'.file.trans rest.file,
        rest'.active.trans rest.active, rest'.refused.trans rest.refused⟩, same, fun hasRx => ?_⟩
    · rw [rest'.file]
      exact fits
    · rw [rest'.refused, rest.refused]
      exact isOk.notRefused
    · rw [rest'.active, rest.active] at isActive'
      by_cases isIp : ip' = ip
      · rw [isIp]
        exact recorded
      · exact (same ip' isIp).recorded (isOk.active ip' isActive')
    · rw [rest'.active, rest.active] at notActive'
      by_cases isIp : ip' = ip
      · rw [isIp, isActive] at notActive'
        cases notActive'
      · exact (same ip' isIp).cleared (isOk.inactive ip' notActive')
    · rw [isConfig (rest.hasRxProp.trans hasRx), rest.file]
  · exact ⟨isOk, ⟨rfl, rfl, rfl, rfl⟩, fun _ _ => ⟨rfl, rfl, rfl, rfl, fun _ => rfl, rfl⟩,
      fun _ => rfl⟩

theorem RunOk.step {event : StaFirewallEvent ρ} (isOk : RunOk run)
    (stepped : Run.Guarded Condition (Step source) run event run') : RunOk run' := by
  rcases stepped with ⟨condition, fits, rfl⟩
  cases event with
  | routeAdd isOwn ip =>
      cases isOwn with
      | true =>
          simp only [handle]
          split
          · rename_i isNew
            exact isOk.addRoute isNew.1 source
          · exact isOk
      | false => exact isOk.deleteRoute (condition rfl)
  | routeDel ip => exact isOk.deleteRoute condition
  | firewallChange =>
      have notV6 : IpaIpType.v4 = .v6 → run.FragAgrees run.sta.firewallConfig := by simp
      rcases isOk.refresh notV6 source with ⟨isOk', rest, others, isConfig⟩
      have sameV6 := others .v6 (by decide)
      refine (isOk'.refresh (fun _ hasRx isActive => ?_) source).1
      rw [rest.hasRxProp] at hasRx
      rw [rest.active] at isActive
      rw [isConfig hasRx, hasFrag, sameV6.installed, sameV6.fragHdl rfl]
      exact condition hasRx isActive
  | fileChange file =>
      refine ⟨fits file rfl, isOk.notRefused, fun ip isActive => ?_, fun ip notActive => ?_⟩
      · have same : SameFamily run (run.handle source (.fileChange file)) ip :=
          ⟨rfl, rfl, rfl, rfl, fun _ => rfl, rfl⟩
        exact same.recorded (isOk.active ip isActive)
      · have same : SameFamily run (run.handle source (.fileChange file)) ip :=
          ⟨rfl, rfl, rfl, rfl, fun _ => rfl, rfl⟩
        exact same.cleared (isOk.inactive ip notActive)

theorem IsInit.runOk (isInit : IsInit run) : RunOk run where
  fits := isInit.fits
  notRefused := isInit.notRefused
  active := by
    intro ip isActive
    rw [isInit.inactive ip] at isActive
    cases isActive
  inactive := fun ip _ => ⟨isInit.kernel ip, isInit.num ip⟩

theorem RunOk.rulesOk (isOk : RunOk run) : RulesOk run where
  present := by
    intro ip
    cases isActive : run.sta.active ip with
    | true =>
        rw [if_pos rfl, (isOk.active ip isActive).rules]
    | false =>
        rw [if_neg Bool.false_ne_true, (isOk.inactive ip isActive).rules]
  notRefused := isOk.notRefused

theorem reachable_runOk
    (reached : Run.Reachable IsInit (Run.Guarded Condition (Step source)) run) : RunOk run := by
  apply reached.invariant RunOk
  · intro run isInit
    exact isInit.runOk
  · intro run event run' isOk stepped
    exact isOk.step stepped

theorem not_rulesOk_of_refused (refused : run.refused = true) : ¬RulesOk run := by
  intro rulesOk
  rw [rulesOk.notRefused] at refused
  cases refused

section

variable (isOk : RunOk run)

include isOk

section

variable (notAgrees : ¬run.FragAgrees run.sta.firewallConfig)

include notAgrees

theorem RunOk.delRules_left :
    run.sta.hasRxProp ∧ run.sta.active .v6 = true ∧
      ((run.delRules .v6).refused = true ∨
        ((run.delRules .v6).sta.kernel .v6).rules ≠ [] ∧
          ((run.delRules .v6).sta.firewallHdl .v6).num = 0 ∧ SameRest run (run.delRules .v6)) := by
  simp only [FragAgrees, Classical.not_imp] at notAgrees
  rcases notAgrees with ⟨hasRx, isActive, notAgrees⟩
  have recorded := isOk.active .v6 isActive
  rcases recorded.recorded hasRx with ⟨frag, entries, others, rules, isRecorded⟩
  refine ⟨hasRx, isActive, ?_⟩
  rcases isRecorded.not_agrees hasRx isActive (recorded.rules.trans rules) notAgrees with
    isRefused | ⟨kernel, notEmpty, deleted⟩
  · left
    simp [delRules, isRefused]
  · right
    have notFailure : ipacmSuccess ≠ ipacmFailure := by decide
    have isDel : run.delRules .v6 = { run with sta := { run.sta with
        kernel := update run.sta.kernel .v6 kernel
        firewallHdl := update run.sta.firewallHdl .v6
          { run.sta.firewallHdl .v6 with num := 0 } } } := by
      rw [delRules, deleted]
      simp [notFailure]
    rw [isDel]
    refine ⟨?_, ?_, rfl, rfl, rfl, rfl⟩
    · simp only [update_self]
      exact notEmpty
    · simp only [update_self]

theorem RunOk.not_rulesOk_deleteRoute : ¬RulesOk (run.deleteRoute .v6) := by
  rcases isOk.delRules_left notAgrees with ⟨_, isActive, isRefused | ⟨notEmpty, _, _⟩⟩
  · rw [StaFirewallRun.deleteRoute, if_pos isActive]
    exact not_rulesOk_of_refused isRefused
  · rw [StaFirewallRun.deleteRoute, if_pos isActive]
    intro rulesOk
    have present := rulesOk.present .v6
    rw [active_setActive, if_pos rfl, if_neg Bool.false_ne_true] at present
    exact notEmpty present.eq_nil

theorem RunOk.not_rulesOk_refresh (source : HandleSource) :
    ¬RulesOk (run.refresh source .v6) := by
  rcases isOk.delRules_left notAgrees with ⟨hasRx, isActive, isRefused | ⟨notEmpty, noCount, rest⟩⟩
  · rw [StaFirewallRun.refresh, if_pos isActive]
    exact not_rulesOk_of_refused isRefused
  · rw [StaFirewallRun.refresh, if_pos isActive]
    intro rulesOk
    have present := rulesOk.present .v6
    have hasRx' : (run.delRules .v6).sta.hasRxProp := rest.hasRxProp.trans hasRx
    have fits : ((run.delRules .v6).sta.file.splitEntries .v6).length ≤
        ipacmMaxFirewallEntries := by
      rw [rest.file]
      exact isOk.fits .v6
    rcases StaFirewall.configDftFirewallRules_spec hasRx' noCount fits source with
      ⟨frag, entries, others, rules, _, keeps, _⟩
    have isInstalled : ((run.delRules .v6).configRules source .v6).installed .v6 =
        frag ++ entries ++ others := by
      simp only [StaFirewallRun.configRules, update_self]
      rw [rules, drop_left]
    have stillActive : ((run.delRules .v6).configRules source .v6).sta.active .v6 = true := by
      have same : ((run.delRules .v6).configRules source .v6).sta.active = run.sta.active :=
        keeps.active.trans rest.active
      rw [same]
      exact isActive
    have isKernel : (((run.delRules .v6).configRules source .v6).sta.kernel .v6).rules =
        ((run.delRules .v6).sta.kernel .v6).rules ++ (frag ++ entries ++ others) := rules
    rw [stillActive, if_pos rfl, isInstalled, isKernel] at present
    have isLength := present.length_eq
    rw [length_append] at isLength
    exact notEmpty (length_eq_zero_iff.mp (by omega))

end

theorem RunOk.rulesOk_iff {event : StaFirewallEvent ρ}
    (fits : ∀ file, event = .fileChange file → file.Fits) (source : HandleSource) :
    RulesOk (run.handle source event) ↔ run.Condition event := by
  refine ⟨fun rulesOk => ?_, fun condition => (isOk.step ⟨condition, fits, rfl⟩).rulesOk⟩
  cases event with
  | routeAdd isOwn ip =>
      rintro rfl rfl
      by_contra notAgrees
      exact isOk.not_rulesOk_deleteRoute notAgrees rulesOk
  | routeDel ip =>
      rintro rfl
      by_contra notAgrees
      exact isOk.not_rulesOk_deleteRoute notAgrees rulesOk
  | firewallChange =>
      by_contra notAgrees
      have notV6 : IpaIpType.v4 = .v6 → run.FragAgrees run.sta.firewallConfig := by simp
      rcases isOk.refresh notV6 source with ⟨isOk', rest, others, isConfig⟩
      have sameV6 := others .v6 (by decide)
      refine isOk'.not_rulesOk_refresh (fun agrees => notAgrees fun hasRx isActive => ?_) source
        rulesOk
      have isAgreed := agrees (rest.hasRxProp.trans hasRx)
      rw [rest.active] at isAgreed
      have agreed := isAgreed isActive
      rw [isConfig hasRx, hasFrag, sameV6.installed, sameV6.fragHdl rfl] at agreed
      exact agreed
  | fileChange file => trivial

end

/-- In a run whose events meet the condition the rules of an active IP type are those that were
added last, and no deletion is refused; and exactly such events keep this. -/
theorem reachable_rulesOk
    (reached : Run.Reachable IsInit (Run.Guarded Condition (Step source)) run) :
    RulesOk run ∧ ∀ event, (∀ file, event = .fileChange file → file.Fits) →
      (RulesOk (run.handle source event) ↔ run.Condition event) :=
  ⟨(reachable_runOk reached).rulesOk,
    fun _ fits => (reachable_runOk reached).rulesOk_iff fits source⟩

def portFile : FirewallConf Unit := ⟨true, true, [⟨6, ipProtocolTcp, true, ()⟩]⟩

def emptyFile : FirewallConf Unit := ⟨true, true, []⟩

def idle : StaFirewallRun Unit where
  sta := {
    hasRxProp := true
    isRouter := true
    file := portFile
    firewallConfig := emptyFile
    active := fun _ => false
    firewallHdl := fun _ => ⟨fun _ => none, 0⟩
    dftWanFlHdl := fun _ => 0
    ipv6FragFirewallFltRuleHdl := 0
    kernel := fun _ => .empty }
  hasIpType := fun _ => true
  installed := fun _ => []
  refused := false

theorem emptyFile_fits : emptyFile.Fits := fun _ => Nat.zero_le _

theorem idle_isInit : IsInit idle where
  fits := by
    intro ip
    cases ip <;> decide
  inactive := fun _ => rfl
  kernel := fun _ => rfl
  num := fun _ => rfl
  notRefused := rfl

def bothActive : StaFirewallRun Unit :=
  ((idle.handle .counting (.routeAdd true .v4)).handle .counting (.routeAdd true .v6)).handle
    .counting (.fileChange emptyFile)

theorem reachable_rulesOk_bothActive :
    RulesOk bothActive ∧ RulesOk (bothActive.handle .counting (.routeDel .v6)) ∧
      ¬RulesOk (bothActive.handle .counting .firewallChange) := by
  have reached : Run.Reachable IsInit (Run.Guarded Condition (Step .counting)) bothActive :=
    .next (.fileChange emptyFile)
      (.next (.routeAdd true .v6)
        (.next (.routeAdd true .v4) (.start idle_isInit)
          ⟨(fun isOther => nomatch isOther), (fun _ isChange => nomatch isChange), rfl⟩)
        ⟨(fun isOther => nomatch isOther), (fun _ isChange => nomatch isChange), rfl⟩)
      ⟨trivial, (fun _ isChange => StaFirewallEvent.fileChange.inj isChange ▸ emptyFile_fits), rfl⟩
  have kept := reachable_rulesOk reached
  refine ⟨kept.1, (kept.2 (.routeDel .v6) (fun _ isChange => nomatch isChange)).mpr ?_, ?_⟩
  · intro _ _ _
    exact .inl rfl
  · intro rulesOk
    have agrees := (kept.2 .firewallChange (fun _ isChange => nomatch isChange)).mp rulesOk
    exact absurd (agrees rfl rfl) (by decide)

/-- The file has no port any more when the rules for IPv4 are refreshed, so that the rule for
fragments is left. -/
theorem not_rulesOk :
    ¬∀ run : StaFirewallRun Unit, Run.Reachable IsInit (Step .counting) run → RulesOk run := by
  intro kept
  have rulesOk := kept (bothActive.handle .counting .firewallChange)
    (.next .firewallChange
      (.next (.fileChange emptyFile)
        (.next (.routeAdd true .v6)
          (.next (.routeAdd true .v4) (.start idle_isInit)
            ⟨(fun _ isChange => nomatch isChange), rfl⟩)
          ⟨(fun _ isChange => nomatch isChange), rfl⟩)
        ⟨(fun _ isChange => StaFirewallEvent.fileChange.inj isChange ▸ emptyFile_fits), rfl⟩)
      ⟨(fun _ isChange => nomatch isChange), rfl⟩)
  exact absurd (rulesOk.present .v6).length_eq (by decide)

end StaFirewallRun

end HtcPme.Ipacm
