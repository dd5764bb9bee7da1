import HtcPme.Ipacm.WanRoute

/-!
# WAN-up and WAN-down events in pairs

One modem interface, from its creation to its link-down. Its WAN-up and WAN-down events alternate,
and each down tells what the up before it told.
-/

namespace HtcPme.Ipacm

def Paired : List WanPost → Prop
  | [] => True
  | [post] => post.isUp = true
  | post :: before :: posts =>
      post.isUp ≠ before.isUp ∧
        (post.isUp = false → post.addr = before.addr ∧ post.isSta = before.isSta) ∧
          Paired (before :: posts)

def LastUp (posts : List WanPost) : Prop := ∃ post ∈ posts.head?, post.isUp = true

section Posts

variable {posts : List WanPost} {post : WanPost}

theorem Paired.up (paired : Paired posts) (isUp : post.isUp = true) (lastDown : ¬ LastUp posts) :
    Paired (post :: posts) := by
  cases posts with
  | nil => exact isUp
  | cons before posts =>
      refine ⟨fun same => lastDown ⟨before, rfl, same ▸ isUp⟩, fun down => ?_, paired⟩
      cases down.symm.trans isUp

theorem Paired.down (paired : Paired posts) (isDown : post.isUp = false) (lastUp : LastUp posts)
    (same : ∀ before ∈ posts.head?, post.addr = before.addr ∧ post.isSta = before.isSta) :
    Paired (post :: posts) := by
  cases posts with
  | nil =>
      rcases lastUp with ⟨_, head, _⟩
      cases head
  | cons before posts =>
      rcases lastUp with ⟨_, ⟨⟩, isUp⟩
      refine ⟨fun eq => ?_, fun _ => same before rfl, paired⟩
      cases isDown.symm.trans (eq.trans isUp)

end Posts

structure WanRun where
  wan : Wan
  closed : Bool

namespace WanRun

inductive Event where
  | addrAdd (addr : IpAddr)
  | xlatConnect
  | route (event : RouteEvent)
  | others (ipaIfNumTether : IpaIpType → List ℕ)
  | linkDown

def isGlobalIpv6Addr (addr : Ipv6Addr) : Bool := addr.word0 &&& 0xFFC00000 ≠ 0xFE800000

def maxDefaultV6RouteRules : ℕ := 2

def handleAddrEvt (inst : WanInst) : IpAddr → WanInst
  | .v4 addr =>
      if addr = 0 ∨ inst.hasTx = false ∨ inst.hasRx = false ∨ inst.wanV4Addr = some addr then inst
      else
        { inst with hasIp := Function.update inst.hasIp .v4 true, wanV4Addr := some addr }
  | .v6 addr =>
      if addr = ⟨0, 0, 0, 0⟩ ∨ inst.ipv6Addr.length = maxDefaultV6RouteRules ∨
          inst.hasTx = false ∨ inst.hasRx = false ∨ addr ∈ inst.ipv6Addr then inst
      else
        { inst with
          hasIp := Function.update inst.hasIp .v6 true
          ipv6Addr := inst.ipv6Addr ++ [addr]
          ipv6Prefix := if isGlobalIpv6Addr addr then (addr.word0, addr.word1) else inst.ipv6Prefix
            }

def downIp (isAndroid : Bool) (wan : Wan) (ip : IpaIpType) : Wan :=
  if wan.inst.hasIp ip then
    let wan := { wan with
      shared := { wan.shared with wanUp := Function.update wan.shared.wanUp ip false } }
    let wan := wan.handleRouteDelEvt ip
    if isAndroid then wan.setTether ip [] else wan
  else wan

def handleDownEvtEx (isAndroid : Bool) (wan : Wan) : Wan :=
  if wan.inst.isDefaultGateway then downIp isAndroid (downIp isAndroid wan .v4) .v6 else wan

def step (isAndroid : Bool) (run : WanRun) : Event → WanRun
  | .addrAdd addr => { run with wan := { run.wan with inst := handleAddrEvt run.wan.inst addr } }
  | .xlatConnect => { run with wan := { run.wan with inst := { run.wan.inst with isXlat := true } }
    }
  | .route event => { run with wan := run.wan.routeCallback isAndroid event }
  | .others ipaIfNumTether =>
      { run with wan := { run.wan with shared := { run.wan.shared with ipaIfNumTether } } }
  | .linkDown => ⟨handleDownEvtEx isAndroid run.wan, true⟩

def handle (isAndroid : Bool) (run : WanRun) (event : Event) : Option WanRun :=
  if run.closed then none else some (run.step isAndroid event)

def Step (isAndroid : Bool) (run : WanRun) (event : Event) (next : WanRun) : Prop :=
  run.handle isAndroid event = some next

structure IsInit (run : WanRun) : Prop where
  isOpen : run.closed = false
  isModem : run.wan.inst.isStaMode = .q6Wan
  noAddr : run.wan.inst.hasIp = fun _ => false
  inactive : run.wan.inst.active = fun _ => false
  nothingPosted : run.wan.shared.posted = fun _ => []

structure PairedOk (run : WanRun) : Prop where
  paired : ∀ ip, Paired (run.wan.shared.posted ip)
  closedDown : run.closed = true → ∀ ip, ¬ LastUp (run.wan.shared.posted ip)

end WanRun

namespace Wan

def Unchanged (wan : Wan) (ip : IpaIpType) : Prop :=
  ∀ post ∈ (wan.shared.posted ip).head?, wan.inst.current ip = post.addr

def Withdraws (isAndroid : Bool) (wan : Wan) (ip : IpaIpType) : RouteEvent → Prop
  | .routeAdd ipaIfNum ip' => ipaIfNum ≠ wan.inst.ipaIfNum ∧ ip' = ip
  | .routeDel ipaIfNum ip' =>
      ipaIfNum = wan.inst.ipaIfNum ∧
        (ip' = ip ∨ wan.inst.active ip' = true ∧ wan.WithV6 ip' ∧ ip = .v6)
  | .upstreamAdd ipaIfNum ip' _ => ipaIfNum ≠ wan.inst.ipaIfNum ∧ ip' = ip
  | .upstreamDel ipaIfNum ip' ipaIfNumTether =>
      ipaIfNum = wan.inst.ipaIfNum ∧ ip' = ip ∧
        (isAndroid = true → (wan.shared.ipaIfNumTether ip).erase ipaIfNumTether = [])

structure RouteInv (wan : Wan) : Prop where
  paired : ∀ ip, Paired (wan.shared.posted ip)
  active : ∀ ip, wan.inst.active ip = true ↔ LastUp (wan.shared.posted ip)
  isSta : ∀ ip, ∀ post ∈ wan.shared.posted ip, post.isSta = wan.inst.isSta
  hasTx : ∀ ip, wan.inst.active ip = true → wan.inst.hasTx = true

section Steps

variable {wan : Wan}

variable {ip : IpaIpType}

section

variable (inv : RouteInv wan)

include inv

theorem RouteInv.post {isUp : Bool} (hasTx : wan.inst.hasTx = true)
    (paired : Paired (⟨isUp, wan.inst.current ip, wan.inst.isSta⟩ :: wan.shared.posted ip)) :
    RouteInv (wan.post ip isUp) where
  paired other := by
    by_cases same : other = ip
    · subst same
      simpa [Wan.post] using paired
    · simpa [Wan.post, same] using inv.paired other
  active other := by
    by_cases same : other = ip
    · simp [Wan.post, same, LastUp]
    · simpa [Wan.post, same] using inv.active other
  isSta other posted mem := by
    by_cases same : other = ip
    · subst same
      rcases List.mem_cons.mp (by simpa [Wan.post] using mem) with rfl | mem
      · rfl
      · exact inv.isSta other posted mem
    · exact inv.isSta other posted (by simpa [Wan.post, same] using mem)
  hasTx _ _ := hasTx

theorem RouteInv.setDefaultGateway (isDefaultGateway : Bool) :
    RouteInv { wan with inst := { wan.inst with isDefaultGateway } } :=
  ⟨inv.paired, inv.active, inv.isSta, inv.hasTx⟩

theorem RouteInv.setTether (ip : IpaIpType) (tether : List ℕ) :
    RouteInv (wan.setTether ip tether) :=
  ⟨inv.paired, inv.active, inv.isSta, inv.hasTx⟩

theorem RouteInv.add (inactive : wan.inst.active ip = false) :
    RouteInv (wan.handleRouteAddEvt ip) := by
  simp only [handleRouteAddEvt]
  split_ifs with noTx noExt
  · exact inv
  · exact inv.setDefaultGateway true
  · have lastDown : ¬ LastUp (wan.shared.posted ip) := fun lastUp =>
      Bool.false_ne_true (inactive.symm.trans ((inv.active ip).mpr lastUp))
    exact (inv.setDefaultGateway true).post (by simpa using noTx)
      ((inv.paired ip).up rfl lastDown)

theorem RouteInv.del (unchanged : wan.inst.active ip = true → wan.Unchanged ip) :
    RouteInv (wan.handleRouteDelEvt ip) := by
  simp only [handleRouteDelEvt]
  split_ifs with noTx active
  · exact inv
  · have told : ∀ before ∈ (wan.shared.posted ip).head?,
        wan.inst.current ip = before.addr ∧ wan.inst.isSta = before.isSta := fun before head =>
      ⟨unchanged active before head, (inv.isSta ip before (List.mem_of_mem_head? head)).symm⟩
    exact (inv.setDefaultGateway false).post (by simpa using noTx)
      ((inv.paired ip).down rfl ((inv.active ip).mp active) told)
  · exact inv.setDefaultGateway false

end

variable {ip other : IpaIpType} {isAndroid : Bool}

theorem handleRouteDelEvt_unchanged (differs : other ≠ ip)
    (unchanged : wan.Unchanged other) : (wan.handleRouteDelEvt ip).Unchanged other := by
  simp only [handleRouteDelEvt]
  split_ifs
  · exact unchanged
  · intro post head
    have told := unchanged post (by simpa [Wan.post, differs] using head)
    cases other <;> exact told
  · exact unchanged

theorem handleRouteDelEvt_active (differs : other ≠ ip) :
    (wan.handleRouteDelEvt ip).inst.active other = wan.inst.active other := by
  simp only [handleRouteDelEvt]
  split_ifs
  · rfl
  · exact Function.update_of_ne differs ..
  · rfl

theorem handleRouteDelEvt_withV6 (ip ip' : IpaIpType) :
    (wan.handleRouteDelEvt ip).WithV6 ip' ↔ wan.WithV6 ip' := by
  simp only [handleRouteDelEvt]
  split_ifs <;> rfl

variable (inv : RouteInv wan)

include inv

theorem RouteInv.ownRouteAdd (ip : IpaIpType) :
    RouteInv (wan.ownRouteAdd ip) := by
  simp only [Wan.ownRouteAdd]
  split_ifs with taken both
  · exact (inv.add taken.1).add both.2
  · exact inv.add taken.1
  · exact inv

theorem RouteInv.ownRouteDel (unchanged : wan.inst.active ip = true → wan.Unchanged ip)
    (unchanged6 : wan.inst.active ip = true → wan.WithV6 ip → wan.inst.active .v6 = true →
      wan.Unchanged .v6) :
    RouteInv (wan.ownRouteDel ip) := by
  simp only [Wan.ownRouteDel]
  split_ifs with active both
  · refine (inv.del unchanged).del fun _ => ?_
    have withV6 := (handleRouteDelEvt_withV6 ip ip).mp both.1
    have differs : IpaIpType.v6 ≠ ip := by
      rw [withV6.1]
      decide
    have active6 := (handleRouteDelEvt_active differs).symm.trans both.2
    exact handleRouteDelEvt_unchanged differs (unchanged6 active withV6 active6)
  · exact inv.del unchanged
  · exact inv

theorem RouteInv.ownUpstreamAdd (isAndroid : Bool) (ip : IpaIpType)
    (tether : ℕ) : RouteInv (wan.ownUpstreamAdd isAndroid ip tether) := by
  simp only [Wan.ownUpstreamAdd]
  split_ifs with hasIp android active active
  · exact inv.setTether ip _
  · exact (inv.add (Bool.eq_false_iff.mpr active)).setTether ip _
  · exact inv
  · exact inv.add (Bool.eq_false_iff.mpr active)
  · exact inv

theorem RouteInv.ownUpstreamDel {tether : ℕ} (unchanged : wan.inst.active ip = true →
      (isAndroid = true → (wan.shared.ipaIfNumTether ip).erase tether = []) → wan.Unchanged ip) :
    RouteInv (wan.ownUpstreamDel isAndroid ip tether) := by
  simp only [Wan.ownUpstreamDel]
  split_ifs with active android others
  · exact inv.setTether ip _
  · have last : (wan.shared.ipaIfNumTether ip).erase tether = [] :=
      (Function.update_self ip _ wan.shared.ipaIfNumTether).symm.trans (not_not.mp others)
    exact (inv.setTether ip _).del fun _ => unchanged active fun _ => last
  · exact inv.del fun active => unchanged active fun isAndroid => absurd isAndroid android
  · exact inv

theorem RouteInv.otherRouteAdd (unchanged : wan.inst.active ip = true → wan.Unchanged ip) :
    RouteInv (wan.otherRouteAdd ip) := by
  simp only [Wan.otherRouteAdd]
  split_ifs
  · exact inv.del unchanged
  · exact inv

theorem RouteInv.routeCallback {event : RouteEvent}
    (unchanged : ∀ ip, wan.inst.active ip = true → wan.Withdraws isAndroid ip event →
      wan.Unchanged ip) :
    RouteInv (wan.routeCallback isAndroid event) := by
  cases event with
  | routeAdd ipaIfNum ip =>
      simp only [Wan.routeCallback]
      split_ifs with own
      · exact inv.ownRouteAdd ip
      · exact inv.otherRouteAdd fun active => unchanged ip active ⟨own, rfl⟩
  | routeDel ipaIfNum ip =>
      simp only [Wan.routeCallback]
      split_ifs with own
      · exact inv.ownRouteDel (fun active => unchanged ip active ⟨own, .inl rfl⟩)
          fun active withV6 active6 => unchanged .v6 active6 ⟨own, .inr ⟨active, withV6, rfl⟩⟩
      · exact inv
  | upstreamAdd ipaIfNum ip tether =>
      simp only [Wan.routeCallback]
      split_ifs with own
      · exact inv.ownUpstreamAdd isAndroid ip tether
      · exact inv.otherRouteAdd fun active => unchanged ip active ⟨own, rfl⟩
  | upstreamDel ipaIfNum ip tether =>
      simp only [Wan.routeCallback]
      split_ifs with own
      · exact inv.ownUpstreamDel fun active last => unchanged ip active ⟨own, rfl, last⟩
      · exact inv

theorem RouteInv.setWanUp (wanUp : IpaIpType → Bool) :
    RouteInv { wan with shared := { wan.shared with wanUp } } :=
  ⟨inv.paired, inv.active, inv.isSta, inv.hasTx⟩

theorem RouteInv.del_inactive (ip : IpaIpType) :
    (wan.handleRouteDelEvt ip).inst.active ip = false := by
  simp only [handleRouteDelEvt]
  split_ifs with noTx active
  · apply Bool.eq_false_iff.mpr
    intro active
    cases noTx.symm.trans (inv.hasTx ip active)
  · exact Function.update_self ..
  · exact Bool.eq_false_iff.mpr active

end Steps

end Wan

namespace WanRun

open Wan

/-- A route that is withdrawn is told with the address that was announced, and when the link goes
down the interface still is a default gateway. -/
def PairGuard (isAndroid : Bool) (run : WanRun) : Event → Prop
  | .route event => ∀ ip, run.wan.inst.active ip = true →
      run.wan.Withdraws isAndroid ip event → run.wan.Unchanged ip
  | .linkDown => ∀ ip, run.wan.inst.active ip = true → run.wan.inst.isDefaultGateway = true ∧
      run.wan.inst.hasIp ip = true ∧ run.wan.Unchanged ip
  | _ => True

section Steps

variable {wan : Wan} {isAndroid : Bool}

theorem routeInv_handleAddrEvt (inv : RouteInv wan) (addr : IpAddr) :
    RouteInv { wan with inst := handleAddrEvt wan.inst addr } := by
  cases addr <;> simp only [handleAddrEvt] <;> split_ifs <;>
    exact ⟨inv.paired, inv.active, inv.isSta, inv.hasTx⟩

variable {ip : IpaIpType}

theorem routeInv_downIp (inv : RouteInv wan)
    (unchanged : wan.inst.active ip = true → wan.Unchanged ip) :
    RouteInv (downIp isAndroid wan ip) := by
  have del := (inv.setWanUp (Function.update wan.shared.wanUp ip false)).del unchanged
  simp only [downIp]
  split_ifs
  · exact del.setTether ip []
  · exact del
  · exact inv

theorem downIp_inactive (inv : RouteInv wan)
    (hasIp : wan.inst.active ip = true → wan.inst.hasIp ip = true) :
    (downIp isAndroid wan ip).inst.active ip = false := by
  have inactive := (inv.setWanUp (Function.update wan.shared.wanUp ip false)).del_inactive ip
  simp only [downIp]
  split_ifs with has
  · exact inactive
  · exact inactive
  · exact Bool.eq_false_iff.mpr fun active => has (hasIp active)

theorem handleRouteDelEvt_hasIp (wan : Wan) (ip : IpaIpType) :
    (wan.handleRouteDelEvt ip).inst.hasIp = wan.inst.hasIp := by
  simp only [handleRouteDelEvt]
  split_ifs <;> rfl

theorem downIp_other (isAndroid : Bool) (wan : Wan) {ip other : IpaIpType} (differs : other ≠ ip) :
    (downIp isAndroid wan ip).inst.active other = wan.inst.active other ∧
      (downIp isAndroid wan ip).inst.hasIp other = wan.inst.hasIp other ∧
        (wan.Unchanged other → (downIp isAndroid wan ip).Unchanged other) := by
  let lowered : Wan := { wan with
    shared := { wan.shared with wanUp := Function.update wan.shared.wanUp ip false } }
  have active : (lowered.handleRouteDelEvt ip).inst.active other = wan.inst.active other :=
    handleRouteDelEvt_active differs
  have hasIp := congrFun (handleRouteDelEvt_hasIp lowered ip) other
  have unchanged (told : wan.Unchanged other) : (lowered.handleRouteDelEvt ip).Unchanged other :=
    handleRouteDelEvt_unchanged differs told
  simp only [downIp]
  split_ifs
  · exact ⟨active, hasIp, unchanged⟩
  · exact ⟨active, hasIp, unchanged⟩
  · exact ⟨rfl, rfl, id⟩

theorem handleDownEvtEx_inv (inv : RouteInv wan)
    (guarded : ∀ ip, wan.inst.active ip = true → wan.inst.isDefaultGateway = true ∧
      wan.inst.hasIp ip = true ∧ wan.Unchanged ip) :
    RouteInv (handleDownEvtEx isAndroid wan) ∧
      ∀ ip, (handleDownEvtEx isAndroid wan).inst.active ip = false := by
  simp only [handleDownEvtEx]
  split_ifs with isDefault
  · have differs : IpaIpType.v6 ≠ .v4 := by decide
    rcases downIp_other isAndroid wan differs with ⟨active6, hasIp6, unchanged6⟩
    have inv4 : RouteInv (downIp isAndroid wan .v4) :=
      routeInv_downIp inv fun active => (guarded _ active).2.2
    have inactive4 : (downIp isAndroid wan .v4).inst.active .v4 = false :=
      downIp_inactive inv fun active => (guarded _ active).2.1
    have guarded6 (active : (downIp isAndroid wan .v4).inst.active .v6 = true) :=
      guarded .v6 (active6.symm.trans active)
    refine ⟨routeInv_downIp inv4 fun active => unchanged6 (guarded6 active).2.2, fun ip => ?_⟩
    cases ip with
    | v4 => exact (downIp_other _ _ differs.symm).1.trans inactive4
    | v6 => exact downIp_inactive inv4 fun active => hasIp6.trans (guarded6 active).2.1
  · refine ⟨inv, fun ip => Bool.eq_false_iff.mpr fun active => ?_⟩
    exact isDefault (guarded ip active).1

end Steps

theorem reachable_routeInv {isAndroid : Bool} {run : WanRun}
    (reached : Run.Reachable IsInit (Run.Guarded (PairGuard isAndroid) (Step isAndroid)) run) :
    RouteInv run.wan ∧ (run.closed = true → ∀ ip, run.wan.inst.active ip = false) := by
  apply reached.invariant fun run =>
    RouteInv run.wan ∧ (run.closed = true → ∀ ip, run.wan.inst.active ip = false)
  · intro run isInit
    refine ⟨⟨fun ip => ?_, fun ip => ?_, fun ip post mem => ?_, fun ip active => ?_⟩, ?_⟩
    · rw [isInit.nothingPosted]
      trivial
    · simp [isInit.nothingPosted, isInit.inactive, LastUp]
    · rw [isInit.nothingPosted] at mem
      cases mem
    · rw [isInit.inactive] at active
      cases active
    · intro closed
      cases isInit.isOpen.symm.trans closed
  · rintro run event next ⟨inv, _⟩ ⟨guarded, stepped⟩
    rcases Option.ite_none_left_eq_some.mp stepped with ⟨isOpen, ⟨⟩⟩
    replace isOpen := Bool.eq_false_iff.mpr isOpen
    have stays {next : WanRun} (same : next.closed = run.closed) :
        next.closed = true → ∀ ip, next.wan.inst.active ip = false := by
      intro closed
      cases isOpen.symm.trans (same.symm.trans closed)
    cases event with
    | addrAdd addr => exact ⟨routeInv_handleAddrEvt inv addr, stays rfl⟩
    | xlatConnect | others tether =>
          exact ⟨⟨inv.paired, inv.active, inv.isSta, inv.hasTx⟩, stays rfl⟩
    | route event => exact ⟨inv.routeCallback guarded, stays rfl⟩
    | linkDown =>
        rcases handleDownEvtEx_inv inv guarded with ⟨kept, inactive⟩
        exact ⟨kept, fun _ => inactive⟩

/-- The WAN-up and WAN-down events of each IP type alternate, each down tells what the up before it
told, and after the link-down the last one is not an up. -/
theorem reachable_pairedOk {isAndroid : Bool} {run : WanRun}
    (reached : Run.Reachable IsInit (Run.Guarded (PairGuard isAndroid) (Step isAndroid)) run) :
    run.PairedOk := by
  rcases reachable_routeInv reached with ⟨inv, inactive⟩
  refine ⟨inv.paired, fun closed ip lastUp => ?_⟩
  cases (inactive closed ip).symm.trans ((inv.active ip).mpr lastUp)

section Histories

def runStart : WanRun :=
  ⟨⟨⟨fun _ => false, fun _ => [], fun _ => []⟩,
    ⟨0, .q6Wan, true, true, true, fun _ => false, false, false, fun _ => false, none, [], (0, 0)⟩⟩,
    false⟩

theorem runStart_isInit : IsInit runStart := ⟨rfl, rfl, rfl, rfl, rfl⟩

instance (wan : Wan) (ip : IpaIpType) : Decidable (wan.Unchanged ip) :=
  inferInstanceAs (Decidable (∀ post ∈ (wan.shared.posted ip).head?, _ = post.addr))

instance (isAndroid : Bool) (wan : Wan) (ip : IpaIpType) :
    (event : RouteEvent) → Decidable (wan.Withdraws isAndroid ip event)
  | .routeAdd .. => inferInstanceAs (Decidable (_ ≠ _ ∧ _ = _))
  | .routeDel .. => inferInstanceAs (Decidable (_ = _ ∧ (_ = _ ∨ _ = _ ∧ wan.WithV6 _ ∧ _ = _)))
  | .upstreamAdd .. => inferInstanceAs (Decidable (_ ≠ _ ∧ _ = _))
  | .upstreamDel .. => inferInstanceAs (Decidable (_ = _ ∧ _ = _ ∧ (_ → _ = _)))

instance (isAndroid : Bool) (run : WanRun) : (event : Event) → Decidable
    (run.PairGuard isAndroid event)
  | .route event => inferInstanceAs (Decidable (∀ ip, _ → run.wan.Withdraws isAndroid ip event → _))
  | .linkDown => inferInstanceAs (Decidable (∀ ip, _ → _ ∧ _ ∧ run.wan.Unchanged ip))
  | .addrAdd _ => inferInstanceAs (Decidable True)
  | .xlatConnect => inferInstanceAs (Decidable True)
  | .others _ => inferInstanceAs (Decidable True)

def upDownUp : List Event :=
  [.addrAdd (.v4 1), .route (.routeAdd 0 .v4), .route (.routeDel 0 .v4), .route (.routeAdd 0 .v4),
    .linkDown]

theorem upDownUp_isSome :
    (Run.runGuarded (PairGuard false) (handle false) runStart upDownUp).isSome = true := by
  decide

theorem reachable_pairedOk_upDownUp :
    ((Run.runGuarded (PairGuard false) (handle false) runStart upDownUp).get
      upDownUp_isSome).PairedOk :=
  reachable_pairedOk (Run.Reachable.runGuarded upDownUp (.start runStart_isInit)
    (Option.some_get upDownUp_isSome).symm)

def oneLost : List Event :=
  [.addrAdd (.v4 1), .addrAdd (.v6 ⟨1, 0, 0, 0⟩), .route (.routeAdd 0 .v4),
    .route (.routeAdd 0 .v6), .route (.routeDel 0 .v4), .linkDown]

def changedAddr : List Event :=
  [.addrAdd (.v4 1), .route (.routeAdd 0 .v4), .addrAdd (.v4 2), .route (.routeDel 0 .v4)]

def xlatOnly : List Event :=
  [.addrAdd (.v4 1), .xlatConnect, .route (.routeAdd 0 .v4), .linkDown]

theorem runAll_isSome : (Run.runAll (handle false) runStart oneLost).isSome = true ∧
    (Run.runAll (handle false) runStart changedAddr).isSome = true ∧
      (Run.runAll (handle false) runStart xlatOnly).isSome = true := by
  decide

/-- The link goes down without a down of IPv6, and a down tells an address that was never up. -/
theorem reachable_not_pairedOk :
    (∃ run, Run.Reachable IsInit (Step false) run ∧ run.closed = true ∧
        run.wan.inst.hasIp .v6 = true ∧ LastUp (run.wan.shared.posted .v6)) ∧
      (∃ run, Run.Reachable IsInit (Step false) run ∧ ¬ Paired (run.wan.shared.posted .v4)) ∧
      ∃ run, Run.Reachable IsInit (Step false) run ∧ run.closed = true ∧
        run.wan.inst.hasIp .v6 = false ∧ LastUp (run.wan.shared.posted .v6) := by
  rcases runAll_isSome with ⟨lost, changed, xlat⟩
  have reached {events : List Event} (ran : (Run.runAll (handle false) runStart events).isSome) :
      Run.Reachable IsInit (Step false) ((Run.runAll (handle false) runStart events).get ran) :=
    Run.Reachable.runAll events (.start runStart_isInit) (Option.some_get ran).symm
  refine ⟨⟨_, reached lost, rfl, rfl, ⟨true, .v6 1 0, false⟩, rfl, rfl⟩, ⟨_, reached changed, ?_⟩,
    ⟨_, reached xlat, rfl, rfl, ⟨true, .v6 0 0, false⟩, rfl, rfl⟩⟩
  rintro ⟨_, told, _⟩
  cases (told rfl).1

end Histories

end WanRun

end HtcPme.Ipacm
