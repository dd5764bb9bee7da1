import HtcPme.Foundation.Run
import HtcPme.Ipacm.StaRoutesSwitch

/-!
# Runs over the routing rules of a station

Every rule of the kernel is the one that would be added afresh in the current mode.
-/

namespace HtcPme.Ipacm

namespace StaRoutes

variable {μ : Type*} {source : HandleSource} {sta : StaRoutes μ}

/-- The start of an interface in STA mode, where no handle and no flag of the default gateway is
written. -/
structure IsInit (sta : StaRoutes μ) : Prop where
  noIp : ∀ ip, sta.hasIp ip = false
  noAddr : sta.ownAddr = []
  noGateway : ∀ ip, sta.gateway ip = none
  noHeader : ∀ ip, sta.headerSet ip = false
  notPartial : ∀ ip, sta.headerPartial ip = false
  inactive : ∀ ip, sta.active ip = false
  noClient : sta.numWanClient = 0
  noRule : sta.kernel.rules = []

def Condition (sta : StaRoutes μ) : Event μ → Prop
  | .modeNotice isMccMode => sta.isMccMode ≠ isMccMode → SwitchOk { sta with isMccMode }
  | _ => True

theorem IsInit.runOk (isInit : IsInit sta) : RunOk sta := by
  have noEntry {entry : ℕ × WanRtRule} (isIn : entry ∈ sta.kernel.rules) : False := by
    rw [isInit.noRule] at isIn
    cases isIn
  have noClient {cltIndx : ℕ} (isIn : cltIndx < sta.numWanClient) : False := by
    rw [isInit.noClient] at isIn
    omega
  refine ⟨⟨?_, ?_, ?_, ?_, ?_, ?_⟩, fun _ isIn => (noEntry isIn).elim⟩
  · intro slot isLive
    cases slot with
    | dft ip _ => exact absurd isLive.1 (by simp [isInit.inactive ip])
    | dftA5 => exact absurd isLive (by simp [Live, isInit.inactive .v6])
    | clientV4 _ _ | clientV6 _ _ _ | clientV6Wan _ _ _ => exact (noClient isLive.1).elim
  · exact fun _ isIn => (noEntry isIn).elim
  · exact fun _ isIn => (noEntry isIn).elim
  · intro ip isActive
    exact absurd isActive (by simp [isInit.inactive ip])
  · exact fun _ isIn => (noClient isIn).elim
  · exact fun _ isIn => (noClient isIn).elim

variable [DecidableEq μ]

def Step (source : HandleSource) (sta : StaRoutes μ) (event : Event μ) (sta' : StaRoutes μ) :
    Prop :=
  sta' = sta.handle source event

theorem RunOk.handle (isOk : RunOk sta) {event : Event μ} (meets : Condition sta event) :
    RunOk (sta.handle source event) := by
  cases event with
  | addrAdd addr =>
      exact ⟨isOk.table.kept rfl rfl (fun _ => Iff.rfl) (fun _ => id) rfl isOk.table.setV4
        isOk.table.setV6, isOk.rulesOk.kept rfl fun _ _ => rfl⟩
  | neighAdd mac addr hdrHdls => exact isOk.neighAdd mac addr hdrHdls
  | routeAdd gateway => exact isOk.routeAdd gateway
  | upstreamRouteAdd ip => exact isOk.upstreamRouteAdd ip
  | otherRouteAdd isUpstream ip backhaulIsStaMode =>
      have isDeleted := isOk.routeDel (!isUpstream) ip
      exact ⟨isDeleted.table.kept rfl rfl (fun _ => Iff.rfl) (fun _ => id) rfl
        isDeleted.table.setV4 isDeleted.table.setV6, isDeleted.rulesOk.kept rfl fun _ _ => rfl⟩
  | routeDel ip => exact isOk.routeDel true ip
  | upstreamRouteDel ip => exact isOk.routeDel false ip
  | modeNotice isMccMode => exact isOk.modeNotice meets

/-- In a run whose switches end right every rule is the one that would be added afresh. -/
theorem reachable_routesOk
    (reached : Run.Reachable IsInit (Run.Guarded Condition (Step source)) sta) : RulesOk sta := by
  have isOk : RunOk sta := by
    apply reached.invariant RunOk (fun _ isInit => isInit.runOk)
    rintro sta event _ isOk ⟨meets, rfl⟩
    exact isOk.handle meets
  exact isOk.rulesOk

def dualIface : StaRtIface ℕ where
  hasTxProp := true
  numTxProps := 2
  tx := fun txIndex => if txIndex = 0 then ⟨.v4, 10, 20, 1⟩ else ⟨.v6, 11, 21, 2⟩
  excpPipe := 7
  appsLanCons := 8
  isWlan := true
  invalidMac := 0

def dualStart : StaRoutes ℕ where
  iface := dualIface
  isMccMode := false
  backhaulIsStaMode := false
  isDefaultGateway := false
  hasIp := fun _ => false
  ownAddr := []
  gateway := fun _ => none
  headerSet := fun _ => false
  headerPartial := fun _ => false
  hdrHdlSta := fun _ => 0
  active := fun _ => false
  wanClient := fun _ => ⟨0, 0, fun _ => ⟨0, 0, 0, 0⟩, fun _ => 0, fun _ => false, false, 0,
    false, 0⟩
  numWanClient := 0
  rtRuleHdl := fun _ => 0
  kernel := .empty

theorem dualStart_isInit : IsInit dualStart where
  noIp := fun _ => rfl
  noAddr := rfl
  noGateway := fun _ => rfl
  noHeader := fun _ => rfl
  notPartial := fun _ => rfl
  inactive := fun _ => rfl
  noClient := rfl
  noRule := rfl

def dualV4 : StaRoutes ℕ :=
  ((dualStart.handle .counting (.addrAdd (.v4 5))).handle .counting
    (.neighAdd 9 (.v4 77) fun ip => if ip = .v4 then 101 else 102)).handle .counting
    (.routeAdd (.v4 77))

theorem dualV4_reached :
    Run.Reachable IsInit (Run.Guarded Condition (Step .counting)) dualV4 :=
  .next (.routeAdd (.v4 77))
    (.next (.neighAdd 9 (.v4 77) fun ip => if ip = .v4 then 101 else 102)
      (.next (.addrAdd (.v4 5)) (.start dualStart_isInit) ⟨trivial, rfl⟩) ⟨trivial, rfl⟩)
    ⟨trivial, rfl⟩

theorem dualV4_rules : dualV4.kernel.rules =
    [(1, dualV4.rule (.clientV4 0 0)), (2, dualV4.rule (.dft .v4 0))] := by
  decide

theorem dualV4_switchOk : SwitchOk { dualV4 with isMccMode := true } where
  notTaken := fun notTaken => absurd (by decide) notTaken
  taken := by
    intro _ entry isIn
    rw [show ({ dualV4 with isMccMode := true } : StaRoutes ℕ).kernel = dualV4.kernel from rfl,
      dualV4_rules] at isIn
    rcases List.mem_cons.mp isIn with rfl | isIn
    · exact fun noIp => absurd noIp (by decide)
    · cases List.mem_singleton.mp isIn
      refine ⟨.inr ⟨.v4, 0, by decide, by decide, by decide⟩, ?_⟩
      rintro ip txIndex ⟨hasIp, isTx, -⟩
      cases ip with
      | v4 =>
          have isFirst : txIndex ∈ [0] := isTx
          rw [List.mem_singleton.mp isFirst]
          exact .inl rfl
      | v6 => exact absurd hasIp (by decide)

theorem reachable_routesOk_switched :
    RulesOk (dualV4.handle .counting (.modeNotice true)) ∧
      (dualV4.handle .counting (.modeNotice true)).kernel.rules.map
        (fun entry => entry.2.spec.dst) =
        [20, 20] :=
  ⟨reachable_routesOk (.next (.modeNotice true) dualV4_reached ⟨fun _ => dualV4_switchOk, rfl⟩),
    by decide⟩

def dualBoth : StaRoutes ℕ :=
  (dualV4.handle .counting (.addrAdd (.v6 ⟨1, 2, 3, 4⟩))).handle .counting
    (.neighAdd 9 (.v6 ⟨1, 1, 1, 1⟩) fun _ => 0)

/-- The rule of the client in `rt_tbl_v6` keeps the pipe of the old mode, and that in
`rt_tbl_wan_v6` is written over. -/
theorem not_routesOk :
    ¬∀ sta : StaRoutes ℕ, Run.Reachable IsInit (Step .counting) sta → RulesOk sta := by
  intro kept
  have rulesOk := kept (dualBoth.handle .counting (.modeNotice true))
    (.next (.modeNotice true)
      (.next (.neighAdd 9 (.v6 ⟨1, 1, 1, 1⟩) fun _ => 0)
        (.next (.addrAdd (.v6 ⟨1, 2, 3, 4⟩)) dualV4_reached.of_guarded rfl) rfl) rfl)
  have isIn : (4, WanRtRule.mk (.clientV6Wan 0 1 0) .wanV6
      ⟨21, 102, some 2, some (.v6 ⟨1, 1, 1, 1⟩)⟩) ∈
      (dualBoth.handle .counting (.modeNotice true)).kernel.rules := by
    decide
  exact absurd (rulesOk _ isIn) (by decide)

end StaRoutes

end HtcPme.Ipacm
