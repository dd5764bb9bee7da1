import HtcPme.Ipacm.UplinkRule

/-!
# The mux id of XLAT rules

The id reaches the uplink rules on two routes: with the WAN-up event, and through
`IPACM_Wan::getXlat_Mux_Id` at an address event that finds the WAN up.
-/

namespace HtcPme.Ipacm

open List

/-- What is fixed: the LAN interface and the properties of the modem WAN. `muxId` is
`ext_prop->ext[0].mux_id`. -/
structure XlatConfig (α : Type*) where
  iface : UplinkIface
  ext : IpacmExtProp α
  isXlat : Bool
  muxId : BitVec 8

/-- `ipV4` says whether the interface has an IPv4 address; `queue` has the mux ids of the WAN-up
events that are posted. -/
structure XlatRun (α : Type*) where
  wanUp : Bool
  xlatMuxId : BitVec 8
  queue : List (BitVec 8)
  ipV4 : Bool
  rules : UplinkRules α

namespace XlatRun

variable {α : Type*}

/-- `getXlat_Mux_Id`, which returns a `bool`. -/
def getXlatMuxId (run : XlatRun α) : Bool := run.xlatMuxId ≠ 0

/-- The conversion of a `bool` to the parameter of `handle_wan_up_ex`. -/
def toUint8 (flag : Bool) : BitVec 8 := if flag then 1 else 0

def IsInit (run : XlatRun α) : Prop :=
  run = ⟨false, 0, [], false, .init⟩

def XlatConfig.announced (config : XlatConfig α) : BitVec 8 :=
  if config.isXlat then config.muxId else 0

inductive Event where
  | addrAdd (reply : UpReply)
  | routeAdd
  | wanUp (reply : UpReply)

variable (config : XlatConfig α)

/-- `handle_route_add_evt` of the modem WAN, if it is not active. -/
def routeAdd (run : XlatRun α) : XlatRun α :=
  if run.wanUp then run
  else
    { run with
      wanUp := true
      xlatMuxId := XlatConfig.announced config
      queue := run.queue ++ [XlatConfig.announced config] }

/-- `IPA_ADDR_ADD_EVENT` for an IPv4 address, if there is none yet. -/
def addrAdd (run : XlatRun α) (reply : UpReply) : XlatRun α :=
  if run.ipV4 then run
  else
    { run with
      ipV4 := true
      rules :=
        if run.wanUp then
          run.rules.wanUp config.iface .v4 false config.ext (toUint8 run.getXlatMuxId) reply
        else run.rules }

def handleWanUp (run : XlatRun α) (xlatMuxId : BitVec 8) (reply : UpReply) : XlatRun α :=
  if run.ipV4 then
    { run with rules := run.rules.wanUp config.iface .v4 false config.ext xlatMuxId reply }
  else run

def Accepts (reply : UpReply) : Prop :=
  reply.qmapIdWritten = true ∧ reply.indexSent = true ∧
    ∃ added, reply.added = some added ∧ added.length = config.ext.prop.length ∧ none ∉ added

def Step (run : XlatRun α) (event : Event) (next : XlatRun α) : Prop :=
  match event with
  | .addrAdd reply => Accepts config reply ∧ next = run.addrAdd config reply
  | .routeAdd => next = run.routeAdd config
  | .wanUp reply => Accepts config reply ∧ ∃ xlatMuxId queue, run.queue = xlatMuxId :: queue ∧
      next = { run with queue }.handleWanUp config xlatMuxId reply

def Done (run : XlatRun α) : Prop := run.ipV4 = true ∧ run.wanUp = true ∧ run.queue = []

def installed (run : XlatRun α) : List (UplinkRule α) := run.rules.present.map Prod.snd

def expected (xlatMuxId : BitVec 8) : List (UplinkRule α) :=
  config.ext.prop.map (UplinkRules.uplinkRule config.iface .v4 xlatMuxId)

def SameId : Prop :=
  XlatConfig.announced config = 0 ∨ XlatConfig.announced config = 1 ∨
    ∀ prop ∈ config.ext.prop, prop.isXlatRule = false

section Rules

variable {config : XlatConfig α} {rules : UplinkRules α} {reply : UpReply}

open UplinkRules

theorem addFilteringRule_rules {added : List (Option ℕ)} {requested : List (UplinkRule α)}
    (length : added.length = requested.length) (notRefused : none ∉ added) :
    (addFilteringRule added requested []).2.map Prod.snd = requested := by
  simp only [addFilteringRule, nil_append]
  induction added generalizing requested with
  | nil =>
      rw [length_nil] at length
      rw [length_eq_zero_iff.mp length.symm]
      rfl
  | cons head rest ih =>
      rcases requested with _ | ⟨rule, requested⟩
      · simp at length
      · simp only [length_cons, Nat.add_right_cancel_iff] at length
        simp only [mem_cons, not_or] at notRefused
        cases head with
        | none => exact absurd rfl notRefused.1
        | some hdl => simp [ih length notRefused.2]

theorem wanUp_installs (accepts : Accepts config reply) (notSet : rules.modemUlSet = false)
    (isEmpty : rules.present = []) (xlatMuxId : BitVec 8) :
    (rules.wanUp config.iface .v4 false config.ext xlatMuxId reply).modemUlSet = true ∧
      (rules.wanUp config.iface .v4 false config.ext xlatMuxId reply).present.map Prod.snd =
        expected config xlatMuxId := by
  rcases accepts with ⟨written, sent, added, isAdded, length, notRefused⟩
  have within : ¬ config.ext.prop.length > maxWanUlFilterRules := Nat.not_lt.mpr config.ext.within
  have sameLength : added.length = (expected config xlatMuxId).length := by
    rw [length, expected, length_map]
  have installs := addFilteringRule_rules sameLength notRefused
  simp only [UplinkRules.wanUp, handleWanUpEx, handleUplinkFilterRule, written, notSet, sent,
    isAdded, isEmpty, within, Bool.false_eq_true, Bool.true_eq_false, if_false, true_or, and_self,
    if_true]
  by_cases none : config.ext.prop = []
  · simp [none, expected, isEmpty]
  · simp only [none, if_false, true_and]
    exact installs

theorem wanUp_stays (isSet : rules.modemUlSet = true) (xlatMuxId : BitVec 8) :
    (rules.wanUp config.iface .v4 false config.ext xlatMuxId reply).modemUlSet = true ∧
      (rules.wanUp config.iface .v4 false config.ext xlatMuxId reply).present = rules.present := by
  simp [UplinkRules.wanUp, handleWanUpEx, isSet]

theorem expected_eq_iff (xlatMuxId : BitVec 8) :
    expected config xlatMuxId = expected config (toUint8 (xlatMuxId ≠ 0)) ↔
      xlatMuxId = 0 ∨ xlatMuxId = 1 ∨ ∀ prop ∈ config.ext.prop, prop.isXlatRule = false := by
  constructor
  · intro same
    by_contra other
    simp only [not_or, not_forall, Bool.not_eq_false] at other
    rcases other with ⟨notZero, notOne, prop, mem, isXlat⟩
    change ¬ xlatMuxId = 0#8 at notZero
    have isOne : toUint8 (decide (xlatMuxId ≠ 0)) = 1 := by simp [toUint8, notZero]
    rw [isOne, expected, expected, map_inj_left] at same
    have sameRule := same prop mem
    simp only [uplinkRule, UplinkRule.modem.injEq, isXlat] at sameRule
    have injective : ∀ muxId : BitVec 8, xlatMetadata muxId = xlatMetadata 1 → muxId = 1 := by
      decide +kernel
    apply notOne
    apply injective
    simpa [notZero] using sameRule
  · rintro (rfl | rfl | noXlat)
    · rfl
    · rfl
    · apply map_congr_left
      intro prop mem
      simp [uplinkRule, noXlat prop mem]

end Rules

section Runs

variable {config : XlatConfig α} {run : XlatRun α}

def RulesOk (config : XlatConfig α) (rules : UplinkRules α) : Prop :=
  (rules.modemUlSet = false ∧ rules.present = []) ∨
    rules.modemUlSet = true ∧
      (rules.present.map Prod.snd = expected config (XlatConfig.announced config) ∨
        rules.present.map Prod.snd =
          expected config (toUint8 (XlatConfig.announced config ≠ 0)))

structure RunInv (config : XlatConfig α) (run : XlatRun α) : Prop where
  xlatMuxId : run.wanUp = true → run.xlatMuxId = XlatConfig.announced config
  queue : ∀ xlatMuxId ∈ run.queue, xlatMuxId = XlatConfig.announced config
  posted : run.queue ≠ [] → run.wanUp = true
  rules : RulesOk config run.rules
  done : run.ipV4 = true → run.wanUp = true → run.queue = [] → run.rules.modemUlSet = true

variable {reply : UpReply} {xlatMuxId : BitVec 8}

theorem RulesOk.wanUp {rules : UplinkRules α} (ok : RulesOk config rules)
    (accepts : Accepts config reply) (isId : xlatMuxId = XlatConfig.announced config ∨
      xlatMuxId = toUint8 (XlatConfig.announced config ≠ 0)) :
    RulesOk config (rules.wanUp config.iface .v4 false config.ext xlatMuxId reply) ∧
      (rules.wanUp config.iface .v4 false config.ext xlatMuxId reply).modemUlSet = true := by
  rcases ok with ⟨notSet, isEmpty⟩ | ⟨isSet, installed⟩
  · rcases wanUp_installs accepts notSet isEmpty xlatMuxId with ⟨isSet, installed⟩
    refine ⟨Or.inr ⟨isSet, ?_⟩, isSet⟩
    rcases isId with rfl | rfl
    · exact Or.inl installed
    · exact Or.inr installed
  · have stays : _ ∧ (rules.wanUp config.iface .v4 false config.ext xlatMuxId reply).present =
        rules.present := wanUp_stays isSet xlatMuxId
    exact ⟨Or.inr ⟨stays.1, by rwa [stays.2]⟩, stays.1⟩

theorem RunInv.init {run : XlatRun α} (isInit : IsInit run) : RunInv config run := by
  rw [IsInit] at isInit
  subst isInit
  refine ⟨by simp, by simp, by simp, Or.inl ⟨rfl, rfl⟩, by simp⟩

section

variable (inv : RunInv config run)

include inv

theorem RunInv.addrAdd
    (accepts : Accepts config reply) : RunInv config (run.addrAdd config reply) := by
  unfold XlatRun.addrAdd
  split
  · exact inv
  · split
    · rename_i isUp
      have isId : toUint8 run.getXlatMuxId = toUint8 (XlatConfig.announced config ≠ 0) := by
        rw [getXlatMuxId, inv.xlatMuxId isUp]
      rcases inv.rules.wanUp accepts (Or.inr isId) with ⟨ok, isSet⟩
      exact ⟨inv.xlatMuxId, inv.queue, inv.posted, ok, fun _ _ _ => isSet⟩
    · rename_i notUp
      exact ⟨inv.xlatMuxId, inv.queue, inv.posted, inv.rules, fun _ isUp => absurd isUp notUp⟩

theorem RunInv.routeAdd : RunInv config (run.routeAdd config) := by
  unfold XlatRun.routeAdd
  split
  · exact inv
  · refine ⟨fun _ => rfl, ?_, fun _ => rfl, inv.rules, ?_⟩
    · intro xlatMuxId mem
      rcases mem_append.mp mem with isOld | isNew
      · exact inv.queue xlatMuxId isOld
      · exact mem_singleton.mp isNew
    · intro _ _ isEmpty
      simp at isEmpty

theorem RunInv.handleWanUp {queue : List (BitVec 8)} (isNext : run.queue = xlatMuxId :: queue)
    (accepts : Accepts config reply) :
    RunInv config ({ run with queue }.handleWanUp config xlatMuxId reply) := by
  have isUp : run.wanUp = true := inv.posted (by simp [isNext])
  have isId := inv.queue xlatMuxId (by simp [isNext])
  have others : ∀ other ∈ queue, other = XlatConfig.announced config := fun other mem =>
    inv.queue other (by simp [isNext, mem])
  unfold XlatRun.handleWanUp
  split
  · rcases inv.rules.wanUp accepts (Or.inl isId) with ⟨ok, isSet⟩
    exact ⟨inv.xlatMuxId, others, fun _ => isUp, ok, fun _ _ _ => isSet⟩
  · rename_i noAddr
    exact ⟨inv.xlatMuxId, others, fun _ => isUp, inv.rules, fun hasAddr => absurd hasAddr noAddr⟩

end

theorem RunInv.reachable (reached : Run.Reachable IsInit (Step config) run) :
    RunInv config run := by
  apply reached.invariant (RunInv config)
  · exact fun _ isInit => .init isInit
  · intro run event next inv stepped
    cases event with
    | addrAdd reply =>
        rcases stepped with ⟨accepts, rfl⟩
        exact inv.addrAdd accepts
    | routeAdd =>
        cases stepped
        exact inv.routeAdd
    | wanUp reply =>
        rcases stepped with ⟨accepts, xlatMuxId, queue, isNext, rfl⟩
        exact inv.handleWanUp isNext accepts

def accepted (config : XlatConfig α) : UpReply :=
  ⟨true, true, true, some (List.replicate config.ext.prop.length (some 1))⟩

theorem accepts_accepted : Accepts config (accepted config) :=
  ⟨rfl, rfl, _, rfl, length_replicate, by simp [mem_replicate]⟩

theorem addr_first : ∃ run : XlatRun α, Run.Reachable IsInit (Step config) run ∧ run.Done ∧
    run.installed = expected config (XlatConfig.announced config) := by
  refine ⟨_, .next (.wanUp (accepted config)) (.next .routeAdd (.next (.addrAdd (accepted config))
    (.start rfl) ⟨accepts_accepted, rfl⟩) rfl) ⟨accepts_accepted, _, [], rfl, rfl⟩, ?_, ?_⟩
  · exact ⟨rfl, rfl, rfl⟩
  · exact (wanUp_installs accepts_accepted rfl rfl _).2

theorem wan_first : ∃ run : XlatRun α, Run.Reachable IsInit (Step config) run ∧ run.Done ∧
    run.installed = expected config (toUint8 (XlatConfig.announced config ≠ 0)) := by
  refine ⟨_, .next (.addrAdd (accepted config)) (.next (.wanUp (accepted config))
    (.next .routeAdd (.start rfl) rfl) ⟨accepts_accepted, _, [], rfl, rfl⟩)
    ⟨accepts_accepted, rfl⟩, ?_, ?_⟩
  · exact ⟨rfl, rfl, rfl⟩
  · exact (wanUp_installs accepts_accepted rfl rfl _).2

/-- Every two orders install the same rules exactly when the announced mux id is 0 or 1, or no
property is an XLAT rule. -/
theorem installed_eq_iff (config : XlatConfig α) :
    (∀ run other : XlatRun α, Run.Reachable IsInit (Step config) run →
      Run.Reachable IsInit (Step config) other → run.Done → other.Done →
        run.installed = other.installed) ↔ SameId config := by
  constructor
  · intro same
    have addrFirst : ∃ run : XlatRun α, Run.Reachable IsInit (Step config) run ∧ run.Done ∧
        run.installed = expected config (XlatConfig.announced config) := addr_first
    have wanFirst : ∃ run : XlatRun α, Run.Reachable IsInit (Step config) run ∧ run.Done ∧
        run.installed = expected config (toUint8 (XlatConfig.announced config ≠ 0)) := wan_first
    rcases addrFirst with ⟨run, reached, isDone, installed⟩
    rcases wanFirst with ⟨other, otherReached, otherDone, otherInstalled⟩
    have equal := same run other reached otherReached isDone otherDone
    rw [installed, otherInstalled] at equal
    exact (expected_eq_iff _).mp equal
  · intro sameId
    have one : ∀ run : XlatRun α, Run.Reachable IsInit (Step config) run → run.Done →
        run.installed = expected config (XlatConfig.announced config) := by
      rintro run reached ⟨hasAddr, isUp, isEmpty⟩
      have inv := RunInv.reachable reached
      rcases inv.rules with ⟨notSet, _⟩ | ⟨_, installed | installed⟩
      · cases notSet.symm.trans (inv.done hasAddr isUp isEmpty)
      · exact installed
      · exact installed.trans ((expected_eq_iff _).mpr sameId).symm
    intro run other reached otherReached isDone otherDone
    rw [one run reached isDone, one other otherReached otherDone]

def muxTwo : XlatConfig Unit :=
  ⟨⟨false, false, 1⟩, ⟨[⟨⟨none, ()⟩, 0, true, 2, 1, true⟩], by decide⟩, true, 2⟩

/-- With the mux id 2, the two orders install rules of another metadata value. -/
theorem installed_ne : ∃ run other : XlatRun Unit,
    Run.Reachable IsInit (Step muxTwo) run ∧ Run.Reachable IsInit (Step muxTwo) other ∧
      run.Done ∧ other.Done ∧
      run.installed = [.modem .passToSrcNat ⟨some ⟨0, 0x20000, 0xFF0000⟩, ()⟩ 0 1 true] ∧
      other.installed = [.modem .passToSrcNat ⟨some ⟨0, 0x10000, 0xFF0000⟩, ()⟩ 0 1 true] := by
  have addrFirst : ∃ run : XlatRun Unit, Run.Reachable IsInit (Step muxTwo) run ∧ run.Done ∧
      run.installed = expected muxTwo (XlatConfig.announced muxTwo) := addr_first
  have wanFirst : ∃ run : XlatRun Unit, Run.Reachable IsInit (Step muxTwo) run ∧ run.Done ∧
      run.installed = expected muxTwo (toUint8 (XlatConfig.announced muxTwo ≠ 0)) := wan_first
  rcases addrFirst with ⟨run, reached, isDone, installed⟩
  rcases wanFirst with ⟨other, otherReached, otherDone, otherInstalled⟩
  refine ⟨run, other, reached, otherReached, isDone, otherDone, ?_, ?_⟩
  · rw [installed]
    decide
  · rw [otherInstalled]
    decide

end Runs

end XlatRun

end HtcPme.Ipacm
