import HtcPme.Ipacm.WanSta

/-!
# Runs of a WAN interface in STA mode

An interface is active for an IP type exactly when it has a default route whose gateway is known.
-/

namespace HtcPme.Ipacm

open List Function Option

namespace WanSta

variable {μ : Type*}

def HeaderUnset (wan : WanSta μ) : Prop := ∀ ip, wan.headerSet ip = false

def firstGateway (wan : WanSta μ) : Option IpAddr := (wan.gateway .v4).or (wan.gateway .v6)

/-- `handle_sta_header_add_evt` comes to its end, where waiting routes are added. -/
def Completes (wan : WanSta μ) : Prop :=
  ∀ ip, wan.iface.hasTx ip = true ∧ ∀ gateway ∈ wan.gateway ip, wan.Knows gateway

def ClientsHave (wan : WanSta μ) : Prop :=
  ∀ client ∈ wan.wanClient, client.headerSet = wan.iface.hasTx

def GatewayIp (wan : WanSta μ) : Prop := ∀ ip, ∀ gateway ∈ wan.gateway ip, gateway.ip = ip

def HeadersTx (wan : WanSta μ) : Prop :=
  ∀ ip, wan.headerSet ip = true → wan.iface.hasTx ip = true

section Headers

variable {wan : WanSta μ}

theorem Knows.hasTx {addr : IpAddr} (knows : wan.Knows addr) (clientsHave : wan.ClientsHave) :
    wan.iface.hasTx addr.ip = true := by
  rcases knows with ⟨client, mem, _, set⟩
  exact (congrFun (clientsHave client mem) _).symm.trans set

variable {ip : IpaIpType}

theorem update_headerSet_of_other (headersTx : wan.HeadersTx)
    (hasTx : wan.iface.hasTx ip = true) (other : wan.iface.hasTx ip.other = false) :
    update wan.headerSet ip true = wan.iface.hasTx := by
  have unset : wan.headerSet ip.other = false :=
    Bool.eq_false_iff.mpr fun set => Bool.false_ne_true (other.symm.trans (headersTx _ set))
  funext ip'
  cases ip <;> cases ip' <;> simp_all [IpaIpType.other, update]

theorem update_headerSet_both (hasTx : wan.iface.hasTx ip = true)
    (other : wan.iface.hasTx ip.other = true) :
    update (update wan.headerSet ip true) ip.other true = wan.iface.hasTx := by
  funext ip'
  cases ip <;> cases ip' <;> simp_all [IpaIpType.other, update]

variable {gateway : IpAddr}

theorem takeHeaders_of_knows (wan : WanSta μ) (clientsHave : wan.ClientsHave)
    (headersTx : wan.HeadersTx) (isGateway : wan.gateway ip = some gateway)
    (ofIp : gateway.ip = ip) (knows : wan.Knows gateway) :
    wan.takeHeaders ip = (wan.iface.hasTx ip.other, { wan with headerSet := wan.iface.hasTx }) := by
  have hasTx := knows.hasTx clientsHave
  subst ofIp
  rcases knows with ⟨client, mem, has, set⟩
  cases found : wan.wanClient.find? fun client => client.Has gateway with
  | none =>
      have hasNot := find?_eq_none.mp found client mem
      exact absurd (decide_eq_true has) hasNot
  | some first =>
      have headers : first.headerSet = wan.iface.hasTx :=
        clientsHave first (mem_of_find?_eq_some found)
      cases other : wan.iface.hasTx gateway.ip.other with
      | false =>
          simp [takeHeaders, isGateway, found, headers, hasTx, other,
            update_headerSet_of_other headersTx hasTx other]
      | true =>
          simp [takeHeaders, isGateway, found, headers, hasTx, other,
            update_headerSet_both hasTx other]

theorem takeHeaders_of_not_knows (wan : WanSta μ)
    (isGateway : wan.gateway ip = some gateway) (ofIp : gateway.ip = ip)
    (unknown : ¬ wan.Knows gateway) :
    wan.takeHeaders ip = (false, wan) := by
  subst ofIp
  cases found : wan.wanClient.find? fun client => client.Has gateway with
  | none => simp [takeHeaders, isGateway, found]
  | some first =>
      have unset : first.headerSet gateway.ip = false := by
        apply Bool.eq_false_iff.mpr
        intro set
        exact unknown ⟨first, mem_of_find?_eq_some found,
          of_decide_eq_true (find?_some found :), set⟩
      simp [takeHeaders, isGateway, found, unset]

theorem takeHeaders_of_none (wan : WanSta μ) (none : wan.gateway ip = none) :
    wan.takeHeaders ip = (true, wan) := by
  simp only [takeHeaders, none]

theorem addPending_eq_of_unset (unset : wan.headerSet ip = false) :
    wan.addPending ip = wan := by
  cases pending : wan.headerPartial ip with
  | false => simp [addPending, pending]
  | true =>
      have kept : update wan.headerPartial ip true = wan.headerPartial := by
        rw [← pending, update_eq_self]
      simp [addPending, pending, handleRouteAdd, unset, kept]

theorem addPending_eq_of_set (set : wan.headerSet ip = true) :
    wan.addPending ip = { wan with
      active := update wan.active ip (wan.active ip || wan.headerPartial ip) } := by
  cases pending : wan.headerPartial ip <;> simp [addPending, pending, handleRouteAdd, set]

theorem handleStaHeaderAdd_of_unknown (wan : WanSta μ) (gatewayIp : wan.GatewayIp)
    (unset : wan.HeaderUnset) (firstUnknown : ∀ gateway ∈ wan.firstGateway, ¬ wan.Knows gateway) :
    wan.handleStaHeaderAdd = wan := by
  cases gateway4 : wan.gateway .v4 with
  | some gateway =>
      have unknown : ¬ wan.Knows gateway := firstUnknown gateway (by simp [firstGateway, gateway4])
      simp [handleStaHeaderAdd, unset .v4, unset .v6,
        takeHeaders_of_not_knows wan gateway4 (gatewayIp _ _ gateway4) unknown]
  | none =>
      cases gateway6 : wan.gateway .v6 with
      | some gateway =>
          have unknown : ¬ wan.Knows gateway :=
            firstUnknown gateway (by simp [firstGateway, gateway4, gateway6])
          simp [handleStaHeaderAdd, unset .v4, unset .v6, takeHeaders_of_none wan gateway4,
            takeHeaders_of_not_knows wan gateway6 (gatewayIp _ _ gateway6) unknown]
      | none =>
          simp [handleStaHeaderAdd, unset .v4, unset .v6, takeHeaders_of_none wan gateway4,
            takeHeaders_of_none wan gateway6, addPending_eq_of_unset (unset .v4),
            addPending_eq_of_unset (unset .v6)]

theorem HeaderUnset.headersTx (unset : wan.HeaderUnset) : wan.HeadersTx := by
  intro ip set
  cases (unset ip).symm.trans set

theorem addPending_both (wan : WanSta μ) (set : ∀ ip, wan.headerSet ip = true) :
    (wan.addPending .v4).addPending .v6 =
      { wan with active := fun ip => wan.active ip || wan.headerPartial ip } := by
  rw [addPending_eq_of_set (set .v4)]
  refine (addPending_eq_of_set ?_).trans ?_
  · exact set .v6
  have active : (fun ip => wan.active ip || wan.headerPartial ip) =
      update (update wan.active .v4 (wan.active .v4 || wan.headerPartial .v4)) .v6
        (wan.active .v6 || wan.headerPartial .v6) := by
    funext ip
    cases ip <;> rfl
  rw [active]
  rfl

theorem handleStaHeaderAdd_of_completes (wan : WanSta μ) (clientsHave : wan.ClientsHave)
    (gatewayIp : wan.GatewayIp) (unset : wan.HeaderUnset) (completes : wan.Completes)
    (first : wan.firstGateway = some gateway) :
    wan.handleStaHeaderAdd = { wan with
        headerSet := wan.iface.hasTx
        active := fun ip => wan.active ip || wan.headerPartial ip } := by
  have set (ip : IpaIpType) : wan.iface.hasTx ip = true := (completes ip).1
  have added := addPending_both { wan with headerSet := wan.iface.hasTx } set
  have taken6 (headers : IpaIpType → Bool) (headersTx : ∀ ip, headers ip = true → wan.iface.hasTx
    ip = true)
      {gateway : IpAddr} (isGateway : wan.gateway .v6 = some gateway) :
      { wan with headerSet := headers }.takeHeaders .v6 =
        (true, { wan with headerSet := wan.iface.hasTx }) := by
    have taken := takeHeaders_of_knows { wan with headerSet := headers } clientsHave headersTx
      isGateway (gatewayIp _ _ isGateway) ((completes .v6).2 _ isGateway)
    exact taken.trans (by rw [set]) 
  cases gateway4 : wan.gateway .v4 with
  | some gateway4' =>
      have taken := takeHeaders_of_knows wan clientsHave unset.headersTx gateway4
        (gatewayIp _ _ gateway4) ((completes .v4).2 _ gateway4)
      cases gateway6 : wan.gateway .v6 with
      | some gateway6' =>
          simp [handleStaHeaderAdd, unset .v4, unset .v6, taken, IpaIpType.other, set, added,
            taken6 wan.iface.hasTx (fun _ tx => tx) gateway6]
      | none =>
          have none := takeHeaders_of_none { wan with headerSet := wan.iface.hasTx } gateway6
          simp [handleStaHeaderAdd, unset .v4, unset .v6, taken, IpaIpType.other, set, added, none]
  | none =>
      have gateway6 : wan.gateway .v6 = some gateway := by
        simpa [firstGateway, gateway4] using first
      simp [handleStaHeaderAdd, unset .v4, unset .v6, takeHeaders_of_none wan gateway4, added,
        taken6 wan.headerSet unset.headersTx gateway6]

theorem handleStaHeaderAdd_of_leaves (wan : WanSta μ) (clientsHave : wan.ClientsHave)
    (gatewayIp : wan.GatewayIp) (unset : wan.HeaderUnset) (leaves : ¬ wan.Completes)
    (first : wan.firstGateway = some gateway) (knows : wan.Knows gateway) :
    wan.handleStaHeaderAdd = { wan with headerSet := wan.iface.hasTx } := by
  cases gateway4 : wan.gateway .v4 with
  | some gateway4' =>
      have same : gateway4' = gateway := by simpa [firstGateway, gateway4] using first
      subst same
      have hasTx := knows.hasTx clientsHave
      rw [gatewayIp _ _ gateway4] at hasTx
      have taken := takeHeaders_of_knows wan clientsHave unset.headersTx gateway4
        (gatewayIp _ _ gateway4) knows
      cases other : wan.iface.hasTx .v6 with
      | false => simp [handleStaHeaderAdd, unset .v4, unset .v6, taken, IpaIpType.other, other]
      | true =>
          have both (ip : IpaIpType) : wan.iface.hasTx ip = true := by cases ip <;> assumption
          cases gateway6 : wan.gateway .v6 with
          | none =>
              refine absurd (fun ip => ⟨both ip, ?_⟩) leaves
              intro gateway isGateway
              cases ip with
              | v4 => cases gateway4.symm.trans isGateway; exact knows
              | v6 => cases gateway6.symm.trans isGateway
          | some gateway6' =>
              have unknown : ¬ wan.Knows gateway6' := by
                intro knows6
                refine leaves fun ip => ⟨both ip, ?_⟩
                intro gateway isGateway
                cases ip with
                | v4 => cases gateway4.symm.trans isGateway; exact knows
                | v6 => cases gateway6.symm.trans isGateway; exact knows6
              have stopped := takeHeaders_of_not_knows { wan with headerSet := wan.iface.hasTx }
                gateway6 (gatewayIp _ _ gateway6) unknown
              simp [handleStaHeaderAdd, unset .v4, unset .v6, taken, IpaIpType.other, other,
                stopped]
  | none =>
      have gateway6 : wan.gateway .v6 = some gateway := by
        simpa [firstGateway, gateway4] using first
      have hasTx := knows.hasTx clientsHave
      rw [gatewayIp _ _ gateway6] at hasTx
      have other : wan.iface.hasTx .v4 = false := by
        apply Bool.eq_false_iff.mpr
        intro tx
        refine leaves fun ip => ⟨by cases ip <;> assumption, ?_⟩
        intro gateway isGateway
        cases ip with
        | v4 => cases gateway4.symm.trans isGateway
        | v6 => cases gateway6.symm.trans isGateway; exact knows
      have taken := takeHeaders_of_knows wan clientsHave unset.headersTx gateway6
        (gatewayIp _ _ gateway6) knows
      simp [handleStaHeaderAdd, unset .v4, unset .v6, takeHeaders_of_none wan gateway4, taken,
        IpaIpType.other, other]

end Headers

/-- A gateway whose client is known can be used at once, none that is not known is added when the
headers are set, and waiting routes that are added were not withdrawn. -/
def StaGuard [DecidableEq μ] (wan : WanSta μ) : Event μ → Prop
  | .routeAdd gateway =>
      (wan.Knows gateway → wan.iface.hasIp gateway.ip = true ∧
        (wan.HeaderUnset → gateway.ip = .v6 → wan.gateway .v4 = none)) ∧
      (wan.active gateway.ip = true ∨
        wan.headerSet gateway.ip = true ∧ wan.iface.hasIp gateway.ip = true → wan.Knows gateway) ∧
      (wan.HeaderUnset → wan.iface.hasIp gateway.ip = true →
        (wan.setGateway gateway).Completes →
          ∀ ip ≠ gateway.ip, wan.headerPartial ip = true → (wan.route ip).isSome = true)
  | .routeDel _ => True
  | .neighAdd mac addr =>
      (wan.clientAdd mac addr).1 = true →
        (∀ ip, wan.active ip = false → ∀ gateway ∈ wan.route ip,
          (wan.clientAdd mac addr).2.Knows gateway →
            wan.iface.hasIp ip = true ∧ wan.HeaderUnset ∧ (wan.clientAdd mac addr).2.Completes) ∧
        (wan.HeaderUnset → (wan.clientAdd mac addr).2.Completes →
          ∀ ip, wan.headerPartial ip = true → (wan.route ip).isSome = true)

/-- What holds apart from the routes that are known: a route that waits is pending with its gateway,
and the gateway looked at first is not known while no header is set. -/
structure Kept (wan : WanSta μ) : Prop where
  clientsHave : wan.ClientsHave
  gatewayIp : wan.GatewayIp
  activeSet : ∀ ip, wan.active ip = true → wan.headerSet ip = true
  set : ¬ wan.HeaderUnset → wan.headerSet = wan.iface.hasTx
  waits : wan.HeaderUnset → ∀ ip, ∀ gateway ∈ wan.route ip, wan.iface.hasIp ip = true →
    wan.headerPartial ip = true ∧ wan.gateway ip = some gateway
  pending : wan.HeaderUnset → ∀ ip, wan.headerPartial ip = true →
    wan.iface.hasIp ip = true ∧ ∃ gateway, wan.gateway ip = some gateway
  firstUnknown : wan.HeaderUnset → ∀ gateway ∈ wan.firstGateway, ¬ wan.Knows gateway

structure StaInv (wan : WanSta μ) : Prop extends Kept wan where
  ok : wan.ActiveOk
  learnt : ∀ ip, ∀ gateway ∈ wan.route ip, wan.Knows gateway → wan.known ip = true

section Steps

variable {wan : WanSta μ}

variable {before : IpaIpType → Bool} {ip : IpaIpType} {gateway : IpAddr} {first : IpAddr}

theorem learn_known :
    (wan.learn before).known ip = true ↔
      before ip = true ∨ ∃ gateway ∈ wan.route ip, wan.Knows gateway := by
  simp [learn]

theorem Kept.learn (kept : Kept wan) (before : IpaIpType → Bool) : Kept (wan.learn before) :=
  ⟨kept.clientsHave, kept.gatewayIp, kept.activeSet, kept.set, kept.waits, kept.pending,
    kept.firstUnknown⟩

theorem Kept.staInv (kept : Kept wan)
    (ok : ∀ ip, wan.active ip = true ↔ (wan.route ip).isSome = true ∧
      (before ip = true ∨ ∃ gateway ∈ wan.route ip, wan.Knows gateway)) :
    StaInv (wan.learn before) where
  toKept := kept.learn before
  ok ip := (ok ip).trans (and_congr Iff.rfl learn_known.symm)
  learnt _ gateway isRoute knows := learn_known.mpr (.inr ⟨gateway, isRoute, knows⟩)

theorem StaInv.unknown (inv : StaInv wan) (unset : wan.HeaderUnset)
     (isRoute : wan.route ip = some gateway) :
    wan.known ip = false ∧ ¬ wan.Knows gateway := by
  have notKnown : wan.known ip ≠ true := by
    intro known
    have active := (inv.ok ip).mpr ⟨by simp [isRoute], known⟩
    exact Bool.false_ne_true ((unset ip).symm.trans (inv.activeSet ip active))
  exact ⟨Bool.eq_false_iff.mpr notKnown, fun knows => notKnown
    (inv.learnt ip gateway isRoute knows)⟩

theorem StaInv.known_iff (inv : StaInv wan) (ip : IpaIpType) :
    (wan.known ip = true ∨ ∃ gateway ∈ wan.route ip, wan.Knows gateway) ↔ wan.known ip = true := by
  refine ⟨?_, .inl⟩
  rintro (known | ⟨gateway, isRoute, knows⟩)
  · exact known
  · exact inv.learnt ip gateway isRoute knows

theorem IsInit.staInv (isInit : wan.IsInit) : StaInv wan := by
  rw [IsInit] at isInit
  have noClient : wan.wanClient = [] := by rw [isInit]
  have noGateway (ip : IpaIpType) : wan.gateway ip = none := by rw [isInit]
  have noHeader : wan.HeaderUnset := fun ip => by rw [isInit]
  have notActive (ip : IpaIpType) : wan.active ip = false := by rw [isInit]
  have noRoute (ip : IpaIpType) : wan.route ip = none := by rw [isInit]
  have notPending (ip : IpaIpType) : wan.headerPartial ip = false := by rw [isInit]
  refine ⟨⟨?_, ?_, ?_, ?_, ?_, ?_, ?_⟩, ?_, ?_⟩
  · intro client mem
    simp [noClient] at mem
  · intro ip gateway isGateway
    cases (noGateway ip).symm.trans isGateway
  · intro ip active
    cases (notActive ip).symm.trans active
  · exact fun set => absurd noHeader set
  · intro _ ip gateway isRoute
    cases (noRoute ip).symm.trans isRoute
  · intro _ ip pending
    cases (notPending ip).symm.trans pending
  · intro _ gateway isGateway
    simp [firstGateway, noGateway] at isGateway
  · intro ip
    simp [notActive, noRoute]
  · intro ip gateway isRoute
    cases (noRoute ip).symm.trans isRoute

theorem Kept.of_set (clientsHave : wan.ClientsHave) (gatewayIp : wan.GatewayIp)
    (activeSet : ∀ ip, wan.active ip = true → wan.headerSet ip = true)
    (set : wan.headerSet = wan.iface.hasTx) (isSet : ¬ wan.HeaderUnset) : Kept wan :=
  ⟨clientsHave, gatewayIp, activeSet, fun _ => set, fun unset => absurd unset isSet,
    fun unset => absurd unset isSet, fun unset => absurd unset isSet⟩

theorem GatewayIp.update (gatewayIp : wan.GatewayIp) {gateway : Option IpAddr}
    (ofIp : ∀ addr ∈ gateway, addr.ip = ip) :
    { wan with gateway := update wan.gateway ip gateway }.GatewayIp := by
  intro other addr isGateway
  by_cases same : other = ip
  · subst same
    exact ofIp addr (by simpa using isGateway)
  · exact gatewayIp other addr (by simpa [same] using isGateway)

theorem GatewayIp.setGateway (gatewayIp : wan.GatewayIp) (gateway : IpAddr) :
    (wan.setGateway gateway).GatewayIp := by
  apply gatewayIp.update
  rintro _ ⟨⟩
  rfl

theorem Kept.handleRouteDel (kept : Kept wan) (ip : IpaIpType) :
    Kept { wan.handleRouteDel ip with route := update wan.route ip none } := by
  by_cases active : wan.active ip = true
  · have isSet : ¬ wan.HeaderUnset := fun unset =>
      Bool.false_ne_true ((unset ip).symm.trans (kept.activeSet ip active))
    simp only [WanSta.handleRouteDel, active, if_true]
    refine .of_set kept.clientsHave ?_ ?_ (kept.set isSet) isSet
    · split_ifs with v4
      · exact kept.gatewayIp.update (by simp)
      · exact kept.gatewayIp
    · intro other stays
      by_cases same : other = ip
      · simp [same] at stays
      · exact kept.activeSet other (by simpa [same] using stays)
  · simp only [WanSta.handleRouteDel, active]
    refine ⟨kept.clientsHave, kept.gatewayIp, kept.activeSet, kept.set, ?_, kept.pending,
      kept.firstUnknown⟩
    intro unset other gateway isRoute hasIp
    by_cases same : other = ip
    · simp [same] at isRoute
    · exact kept.waits unset other gateway (by simpa [same] using isRoute) hasIp

theorem handleRouteDel_active (ip other : IpaIpType) :
    (wan.handleRouteDel ip).active other = update wan.active ip false other := by
  by_cases active : wan.active ip = true
  · simp [handleRouteDel, active]
  · have inactive : wan.active ip = false := Bool.eq_false_iff.mpr active
    by_cases same : other = ip
    · simp [handleRouteDel, same, inactive]
    · simp [handleRouteDel, same, inactive]

theorem handleRouteDel_knows (ip : IpaIpType) (addr : IpAddr) :
    { wan.handleRouteDel ip with route := update wan.route ip none }.Knows addr ↔
      wan.Knows addr := by
  unfold handleRouteDel
  split_ifs <;> rfl

theorem StaInv.routeDel (inv : StaInv wan) (ip : IpaIpType) :
    StaInv ({ wan.handleRouteDel ip with route := update wan.route ip none }.learn
      (update wan.known ip false)) := by
  refine (inv.toKept.handleRouteDel ip).staInv ?_
  intro other
  simp only [handleRouteDel_active, handleRouteDel_knows]
  by_cases same : other = ip
  · simp [same]
  · simp only [update_of_ne same]
    exact (inv.ok other).trans (and_congr Iff.rfl (inv.known_iff other).symm)

theorem handleStaHeaderAdd_of_set (wan : WanSta μ) (isSet : ¬ wan.HeaderUnset) :
    wan.handleStaHeaderAdd = wan := by
  have some : (wan.headerSet .v4 || wan.headerSet .v6) = true := by
    by_contra none
    simp only [Bool.or_eq_true, not_or, Bool.not_eq_true] at none
    refine isSet fun ip => ?_
    cases ip
    · exact none.1
    · exact none.2
  simp [handleStaHeaderAdd, some]

theorem StaInv.inactive (inv : StaInv wan) (unset : wan.HeaderUnset) (ip : IpaIpType) :
    wan.active ip = false :=
  Bool.eq_false_iff.mpr fun active =>
    Bool.false_ne_true ((unset ip).symm.trans (inv.activeSet ip active))

theorem StaInv.ok_other (inv : StaInv wan) {ip other : IpaIpType} (differs : other ≠ ip)
    (route : Option IpAddr) :
    wan.active other = true ↔ (update wan.route ip route other).isSome = true ∧
      (update wan.known ip false other = true ∨
        ∃ gateway ∈ update wan.route ip route other, wan.Knows gateway) := by
  simp only [update_of_ne differs]
  exact (inv.ok other).trans (and_congr Iff.rfl (inv.known_iff other).symm)

section RouteAdd

variable {gateway : IpAddr}

section

variable (inv : StaInv wan)

include inv

theorem StaInv.routeAdd_ignored
    (ignored : ¬ (wan.active gateway.ip = false ∧ wan.iface.hasIp gateway.ip = true))
    (hasIp : wan.Knows gateway → wan.iface.hasIp gateway.ip = true)
    (knows : wan.active gateway.ip = true → wan.Knows gateway) :
    StaInv ({ wan with route := update wan.route gateway.ip (some gateway) }.learn
      (update wan.known gateway.ip false)) := by
  apply Kept.staInv
  · refine ⟨inv.clientsHave, inv.gatewayIp, inv.activeSet, inv.set, ?_, inv.pending,
      inv.firstUnknown⟩
    intro unset ip addr isRoute hasIp
    by_cases same : ip = gateway.ip
    · subst same
      exact absurd ⟨inv.inactive unset _, hasIp⟩ ignored
    · exact inv.waits unset ip addr (by simpa [same] using isRoute) hasIp
  · intro ip
    by_cases same : ip = gateway.ip
    · subst same
      simp only [update_self, isSome_some, true_and, Bool.false_eq_true, false_or,
        mem_some_iff, exists_eq_left']
      refine ⟨knows, fun known => ?_⟩
      by_contra inactive
      exact ignored ⟨Bool.eq_false_iff.mpr inactive, hasIp known⟩
    · exact inv.ok_other same (some gateway)

theorem StaInv.routeAdd_set (isSet : ¬ wan.HeaderUnset)
    (inactive : wan.active gateway.ip = false)
    (knows : wan.headerSet gateway.ip = true → wan.Knows gateway) :
    StaInv ({ (wan.setGateway gateway).handleRouteAdd gateway.ip with
      route := update wan.route gateway.ip (some gateway) }.learn
        (update wan.known gateway.ip false)) := by
  have gatewayIp := inv.gatewayIp.setGateway gateway
  by_cases header : wan.headerSet gateway.ip = true
  · have notFalse : wan.headerSet gateway.ip ≠ false := by simp [header]
    simp only [handleRouteAdd, if_neg notFalse]
    apply Kept.staInv
    · refine .of_set inv.clientsHave gatewayIp ?_ (inv.set isSet) isSet
      intro ip active
      by_cases same : ip = gateway.ip
      · exact same ▸ header
      · exact inv.activeSet ip (by simpa [same] using active)
    · intro ip
      by_cases same : ip = gateway.ip
      · subst same
        exact iff_of_true (by simp) ⟨by simp, .inr ⟨gateway, by simp, knows header⟩⟩
      · simp only [update_of_ne same (f := wan.active)]
        exact inv.ok_other same (some gateway)
  · have unset : wan.headerSet gateway.ip = false := Bool.eq_false_iff.mpr header
    simp only [handleRouteAdd, if_pos unset]
    apply Kept.staInv
    · exact .of_set inv.clientsHave gatewayIp inv.activeSet (inv.set isSet) isSet
    · intro ip
      by_cases same : ip = gateway.ip
      · subst same
        refine iff_of_false (by simp [inactive]) ?_
        rintro ⟨_, stale | ⟨addr, isRoute, known⟩⟩
        · simp at stale
        · have isGateway : addr = gateway := by simpa using isRoute.symm
          subst isGateway
          exact header ((congrFun (inv.set isSet) _).trans (Knows.hasTx known inv.clientsHave))
      · exact inv.ok_other same (some gateway)

variable (unset : wan.HeaderUnset)

include unset

theorem StaInv.routeAdd_waits (hasIp : wan.iface.hasIp gateway.ip = true)
    (firstUnknown : ∀ addr ∈ (wan.setGateway gateway).firstGateway,
        ¬ wan.Knows addr)
    (unknown : ¬ wan.Knows gateway) :
    StaInv ({ (wan.setGateway gateway).handleRouteAdd gateway.ip with
      route := update wan.route gateway.ip (some gateway) }.learn
        (update wan.known gateway.ip false)) := by
  have gatewayIp := inv.gatewayIp.setGateway gateway
  simp only [handleRouteAdd, if_pos (unset gateway.ip)]
  apply Kept.staInv
  · refine ⟨inv.clientsHave, gatewayIp, inv.activeSet, inv.set, ?_, ?_, fun _ => firstUnknown⟩
    · intro _ ip addr isRoute hasIp
      by_cases same : ip = gateway.ip
      · subst same
        have isGateway : gateway = addr := by simpa using isRoute
        simp [isGateway]
      · have kept := inv.waits unset ip addr (by simpa [same] using isRoute) hasIp
        simpa [same] using kept
    · intro _ ip pending
      by_cases same : ip = gateway.ip
      · subst same
        exact ⟨hasIp, gateway, by simp⟩
      · have kept := inv.pending unset ip (by simpa [same] using pending)
        simpa [same] using kept
  · intro ip
    by_cases same : ip = gateway.ip
    · subst same
      refine iff_of_false (by simp [inv.inactive unset]) ?_
      rintro ⟨_, stale | ⟨addr, isRoute, known⟩⟩
      · simp at stale
      · have isGateway : gateway = addr := by simpa using isRoute
        exact unknown (isGateway ▸ known)
    · exact inv.ok_other same (some gateway)

theorem StaInv.routeAdd_installs (known : wan.Knows gateway) (active : IpaIpType → Bool)
    (othersInactive : ∀ ip ≠ gateway.ip, active ip = false) :
    StaInv ({ { wan with
        gateway := update wan.gateway gateway.ip (some gateway)
        headerSet := wan.iface.hasTx
        active }.handleRouteAdd gateway.ip with
      route := update wan.route gateway.ip (some gateway) }.learn
        (update wan.known gateway.ip false)) := by
  have gatewayIp := inv.gatewayIp.setGateway gateway
  have hasTx := known.hasTx inv.clientsHave
  have set : wan.iface.hasTx gateway.ip ≠ false := by simp [hasTx]
  simp only [handleRouteAdd, if_neg set]
  have isActive {ip : IpaIpType} (isActive : update active gateway.ip true ip = true) :
      ip = gateway.ip := by
    by_contra differs
    rw [update_of_ne differs, othersInactive ip differs] at isActive
    cases isActive
  apply Kept.staInv
  · refine .of_set inv.clientsHave gatewayIp ?_ rfl ?_
    · intro ip ipActive
      exact isActive ipActive ▸ hasTx
    · intro stillUnset
      exact set (stillUnset gateway.ip)
  · intro ip
    by_cases same : ip = gateway.ip
    · subst same
      exact iff_of_true (by simp) ⟨by simp, .inr ⟨gateway, by simp, known⟩⟩
    · refine iff_of_false (fun ipActive => same (isActive ipActive)) ?_
      simp only [update_of_ne same]
      rintro ⟨_, wasKnown | ⟨addr, isRoute, isKnown⟩⟩
      · rcases isSome_iff_exists.mp ‹_› with ⟨addr, isRoute⟩
        exact Bool.false_ne_true ((inv.unknown unset isRoute).1.symm.trans wasKnown)
      · exact (inv.unknown unset isRoute).2 isKnown

theorem StaInv.first_of_knows {addr : IpAddr}
    (first : (wan.setGateway gateway).firstGateway = some addr)
    (known : wan.Knows addr) : addr = gateway := by
  have old := inv.firstUnknown unset
  simp only [firstGateway] at first old
  cases ofIp : gateway.ip with
  | v4 => simpa [ofIp] using first.symm
  | v6 =>
      cases gateway4 : wan.gateway .v4 with
      | none => simpa [ofIp, gateway4] using first.symm
      | some other =>
          have isOther : other = addr := by simpa [ofIp, gateway4] using first
          exact absurd (isOther ▸ known) (old other (by simp [gateway4]))

end

theorem first_eq_new (wan : WanSta μ) (none4 : gateway.ip = .v6 → wan.gateway .v4 = none) :
    (wan.setGateway gateway).firstGateway =
        some gateway := by
  cases ofIp : gateway.ip with
  | v4 => simp [firstGateway, ofIp]
  | v6 => simp [firstGateway, ofIp, none4 ofIp]

theorem StaInv.routeAdd [DecidableEq μ] (inv : StaInv wan)
    (guarded : wan.StaGuard (.routeAdd gateway)) : StaInv (wan.step (.routeAdd gateway)) := by
  rcases guarded with ⟨usable, isKnown, notStale⟩
  simp only [step]
  by_cases taken : wan.active gateway.ip = false ∧ wan.iface.hasIp gateway.ip = true
  · have added : wan.routeAdd gateway = (wan.setGateway gateway).handleStaHeaderAdd.handleRouteAdd
      gateway.ip := if_pos taken
    rw [added]
    have gatewayIp := inv.gatewayIp.setGateway gateway
    by_cases unset : wan.HeaderUnset
    · by_cases known : wan.Knows gateway
      · have first := first_eq_new wan ((usable known).2 unset)
        by_cases completes : (wan.setGateway gateway).Completes
        · rw [handleStaHeaderAdd_of_completes (wan.setGateway gateway) inv.clientsHave gatewayIp
            unset completes first]
          apply inv.routeAdd_installs unset known
          intro ip differs
          simp only [inv.inactive unset, Bool.false_or]
          by_contra pending
          have pending : wan.headerPartial ip = true := by simpa using pending
          rcases isSome_iff_exists.mp (notStale unset taken.2 completes ip differs pending)
            with ⟨addr, isRoute⟩
          have waits := inv.waits unset ip addr isRoute (inv.pending unset ip pending).1
          exact (inv.unknown unset isRoute).2
            ((completes ip).2 addr (by simpa [differs] using waits.2))
        · rw [handleStaHeaderAdd_of_leaves (wan.setGateway gateway) inv.clientsHave gatewayIp unset
            completes first known]
          exact inv.routeAdd_installs unset known wan.active fun ip _ => inv.inactive unset ip
      · have firstUnknown : ∀ addr ∈ (wan.setGateway gateway).firstGateway,
              ¬ wan.Knows addr :=
          fun addr first isKnown => known (inv.first_of_knows unset first isKnown ▸ isKnown)
        rw [handleStaHeaderAdd_of_unknown (wan.setGateway gateway) gatewayIp unset firstUnknown]
        exact inv.routeAdd_waits unset taken.2 firstUnknown known
    · rw [handleStaHeaderAdd_of_set (wan.setGateway gateway) unset]
      exact inv.routeAdd_set unset taken.1 fun header => isKnown (.inr ⟨header, taken.2⟩)
  · have ignored : wan.routeAdd gateway = wan := if_neg taken
    rw [ignored]
    exact inv.routeAdd_ignored taken (fun known => (usable known).1) fun active => isKnown
      (.inl active)

end RouteAdd

variable {wanClient : List (WanClient μ)}

theorem StaInv.neighAdd_set (inv : StaInv wan)
    (clientsHave : { wan with wanClient }.ClientsHave) (isSet : ¬ wan.HeaderUnset)
    (active : ∀ ip, ∀ gateway ∈ wan.route ip, { wan with wanClient }.Knows gateway →
      wan.active ip = true) :
    StaInv ({ wan with wanClient }.learn wan.known) := by
  apply Kept.staInv
  · exact .of_set clientsHave inv.gatewayIp inv.activeSet (inv.set isSet) isSet
  · intro ip
    constructor
    · intro isActive
      exact ((inv.ok ip).mp isActive).imp_right .inl
    · rintro ⟨isRoute, known | ⟨gateway, isRoute, knows⟩⟩
      · exact (inv.ok ip).mpr ⟨isRoute, known⟩
      · exact active ip gateway isRoute knows

theorem StaInv.neighAdd_waits (inv : StaInv wan) (clientsHave : { wan with wanClient }.ClientsHave)
    (firstUnknown : ∀ gateway ∈ wan.firstGateway, ¬ { wan with wanClient }.Knows gateway)
    (unknown : ∀ ip, ∀ gateway ∈ wan.route ip, ¬ { wan with wanClient }.Knows gateway) :
    StaInv ({ wan with wanClient }.learn wan.known) := by
  apply Kept.staInv
  · exact ⟨clientsHave, inv.gatewayIp, inv.activeSet, inv.set, inv.waits, inv.pending,
      fun _ => firstUnknown⟩
  · intro ip
    refine (inv.ok ip).trans (and_congr Iff.rfl ⟨.inl, ?_⟩)
    rintro (known | ⟨gateway, isRoute, knows⟩)
    · exact known
    · exact absurd knows (unknown ip gateway isRoute)

theorem StaInv.neighAdd_installs (inv : StaInv wan)
     (clientsHave : { wan with wanClient }.ClientsHave) (unset : wan.HeaderUnset)
    (knows : { wan with wanClient }.Knows first) {active : IpaIpType → Bool}
    (isActive : ∀ ip, active ip = true ↔
      ∃ gateway ∈ wan.route ip, { wan with wanClient }.Knows gateway)
    (hasTx : ∀ ip, active ip = true → wan.iface.hasTx ip = true) :
    StaInv ({ wan with wanClient, headerSet := wan.iface.hasTx, active }.learn wan.known) := by
  apply Kept.staInv
  · refine .of_set clientsHave inv.gatewayIp hasTx rfl ?_
    intro stillUnset
    exact Bool.false_ne_true ((stillUnset first.ip).symm.trans (knows.hasTx clientsHave))
  · intro ip
    refine (isActive ip).trans ⟨?_, ?_⟩
    · rintro ⟨gateway, isRoute, known⟩
      exact ⟨isSome_iff_exists.mpr ⟨gateway, isRoute⟩, .inr ⟨gateway, isRoute, known⟩⟩
    · rintro ⟨hasRoute, known | known⟩
      · rcases isSome_iff_exists.mp hasRoute with ⟨gateway, isRoute⟩
        exact absurd known (Bool.eq_false_iff.mp (inv.unknown unset isRoute).1)
      · exact known

theorem exists_firstGateway
    (isGateway : wan.gateway ip = some gateway) : ∃ first, wan.firstGateway = some first := by
  cases ip with
  | v4 => exact ⟨gateway, by simp [firstGateway, isGateway]⟩
  | v6 => cases gateway4 : wan.gateway .v4 <;> simp [firstGateway, gateway4, isGateway]

theorem firstGateway_mem (isFirst : wan.firstGateway = some first) :
    ∃ ip, wan.gateway ip = some first := by
  cases gateway4 : wan.gateway .v4 with
  | some gateway => exact ⟨.v4, by simpa [firstGateway, gateway4] using isFirst⟩
  | none => exact ⟨.v6, by simpa [firstGateway, gateway4] using isFirst⟩

section NeighAdd

theorem newAddr_headerSet {addr : IpAddr} {client client' : WanClient μ}
    (changed : newAddr client addr = some client') :
    client'.headerSet = client.headerSet := by
  cases addr <;> simp only [newAddr] at changed <;> split_ifs at changed <;> cases changed <;> rfl

variable [DecidableEq μ] {mac : μ} {addr : IpAddr}

theorem updateClient_headerSet {clients clients' : List (WanClient μ)}
    (updated : updateClient mac addr clients = some clients') :
    ∀ client ∈ clients', ∃ old ∈ clients, client.headerSet = old.headerSet := by
  induction clients generalizing clients' with
  | nil => cases updated
  | cons first rest ih =>
      intro client mem
      simp only [updateClient] at updated
      split_ifs at updated
      · rcases map_eq_some_iff.mp updated with ⟨changed, isChanged, rfl⟩
        rcases mem_cons.mp mem with rfl | mem
        · exact ⟨first, mem_cons_self, newAddr_headerSet isChanged⟩
        · exact ⟨client, mem_cons_of_mem _ mem, rfl⟩
      · rcases map_eq_some_iff.mp updated with ⟨rest', isRest, rfl⟩
        rcases mem_cons.mp mem with rfl | mem
        · exact ⟨client, mem_cons_self, rfl⟩
        · rcases ih isRest client mem with ⟨old, oldMem, same⟩
          exact ⟨old, mem_cons_of_mem _ oldMem, same⟩

theorem handleWanHdrInit_cases (wan : WanSta μ) (mac : μ) :
    wan.handleWanHdrInit mac = wan ∨ wan.handleWanHdrInit mac =
      { wan with wanClient := wan.wanClient ++ [⟨mac, none, [], wan.iface.hasTx⟩] } := by
  unfold handleWanHdrInit
  split_ifs <;> simp

theorem handleWanHdrInit_clientsHave (clientsHave : wan.ClientsHave) (mac : μ) :
    (wan.handleWanHdrInit mac).ClientsHave := by
  rcases handleWanHdrInit_cases wan mac with same | added
  · rw [same]
    exact clientsHave
  · rw [added]
    intro client mem
    rcases mem_append.mp mem with mem | mem
    · exact clientsHave client mem
    · cases mem_singleton.mp mem
      rfl

theorem handleWanHdrInit_knows (mac : μ) (gateway : IpAddr) :
    (wan.handleWanHdrInit mac).Knows gateway ↔ wan.Knows gateway := by
  rcases handleWanHdrInit_cases wan mac with same | added
  · rw [same]
  · have hasNone (headers : IpaIpType → Bool) :
        ¬ (⟨mac, none, [], headers⟩ : WanClient μ).Has gateway := by
      cases gateway <;> simp [WanClient.Has]
    simp [added, Knows, hasNone, or_and_right, exists_or]

theorem clientAdd_cases (wan : WanSta μ) (mac : μ) (addr : IpAddr) :
    ∃ wanClient, (wan.clientAdd mac addr).2 = { wan with wanClient } ∧
      (wan.ClientsHave → { wan with wanClient }.ClientsHave) := by
  have initOnly : ∃ wanClient, wan.handleWanHdrInit mac = { wan with wanClient } := by
    rcases handleWanHdrInit_cases wan mac with same | added
    · exact ⟨wan.wanClient, same⟩
    · exact ⟨_, added⟩
  rcases initOnly with ⟨withNew, init⟩
  have initHave (clientsHave : wan.ClientsHave) := handleWanHdrInit_clientsHave clientsHave mac
  simp only [clientAdd]
  split_ifs with own invalid
  · exact ⟨wan.wanClient, rfl, id⟩
  · exact ⟨wan.wanClient, rfl, id⟩
  · rw [init] at initHave ⊢
    cases updated : updateClient mac addr withNew with
    | none => exact ⟨withNew, by simp, initHave⟩
    | some wanClient =>
        refine ⟨wanClient, by simp, fun clientsHave client mem => ?_⟩
        rcases updateClient_headerSet updated client mem with ⟨old, oldMem, same⟩
        exact same.trans (initHave clientsHave old oldMem)

theorem clientAdd_stops (stops : (wan.clientAdd mac addr).1 = false) (gateway : IpAddr) :
    (wan.clientAdd mac addr).2.Knows gateway ↔ wan.Knows gateway := by
  simp only [clientAdd] at stops ⊢
  split_ifs with own invalid
  · rfl
  · rfl
  · simp only [own, invalid, if_false] at stops
    cases updated : updateClient mac addr (wan.handleWanHdrInit mac).wanClient with
    | none => exact handleWanHdrInit_knows mac gateway
    | some wanClient => simp [updated] at stops

theorem StaInv.neighAdd_stops (inv : StaInv wan) (stops : (wan.clientAdd mac addr).1 = false) :
    StaInv ((wan.clientAdd mac addr).2.learn wan.known) := by
  have knows := clientAdd_stops stops
  rcases clientAdd_cases wan mac addr with ⟨wanClient, same, clientsHave⟩
  rw [same] at knows ⊢
  apply Kept.staInv
  · refine ⟨clientsHave inv.clientsHave, inv.gatewayIp, inv.activeSet, inv.set, inv.waits,
      inv.pending,
      ?_⟩
    intro unset gateway first known
    exact inv.firstUnknown unset gateway first ((knows gateway).mp known)
  · intro ip
    simp only [knows]
    exact (inv.ok ip).trans (and_congr Iff.rfl (inv.known_iff ip).symm)

theorem StaInv.neighAdd (inv : StaInv wan) (guarded : wan.StaGuard (.neighAdd mac addr)) :
    StaInv (wan.step (.neighAdd mac addr)) := by
  simp only [step, WanSta.neighAdd]
  cases goesOn : (wan.clientAdd mac addr).1 with
  | false => exact inv.neighAdd_stops goesOn
  | true =>
      rcases guarded goesOn with ⟨installable, notStale⟩
      rcases clientAdd_cases wan mac addr with ⟨wanClient, same, clientsHave⟩
      rw [same] at installable notStale ⊢
      replace clientsHave := clientsHave inv.clientsHave
      simp only [if_true]
      by_cases unset : wan.HeaderUnset
      · have waits {ip : IpaIpType} {gateway : IpAddr} (isRoute : wan.route ip = some gateway)
            (knows : { wan with wanClient }.Knows gateway) :
            wan.headerPartial ip = true ∧ wan.gateway ip = some gateway ∧
              { wan with wanClient }.Completes := by
          rcases installable ip (inv.inactive unset ip) gateway isRoute knows with
            ⟨hasIp, _, completes⟩
          rcases inv.waits unset ip gateway isRoute hasIp with ⟨pending, isGateway⟩
          exact ⟨pending, isGateway, completes⟩
        by_cases firstUnknown : ∀ gateway ∈ wan.firstGateway, ¬ { wan with wanClient }.Knows gateway
        · rw [handleStaHeaderAdd_of_unknown { wan with wanClient } inv.gatewayIp unset firstUnknown]
          refine inv.neighAdd_waits clientsHave firstUnknown ?_
          intro ip gateway isRoute knows
          rcases waits isRoute knows with ⟨_, isGateway, completes⟩
          rcases exists_firstGateway isGateway with ⟨first, isFirst⟩
          rcases firstGateway_mem isFirst with ⟨ip', isGateway'⟩
          exact firstUnknown first isFirst ((completes ip').2 first isGateway')
        · push Not at firstUnknown
          rcases firstUnknown with ⟨first, isFirst, knows⟩
          by_cases completes : { wan with wanClient }.Completes
          · rw [handleStaHeaderAdd_of_completes { wan with wanClient } clientsHave inv.gatewayIp
              unset
              completes isFirst]
            refine inv.neighAdd_installs clientsHave unset knows ?_ fun ip _ => (completes ip).1
            intro ip
            simp only [inv.inactive unset, Bool.false_or]
            constructor
            · intro pending
              rcases isSome_iff_exists.mp (notStale unset completes ip pending)
                with ⟨gateway, isRoute⟩
              have hasIp := (inv.pending unset ip pending).1
              exact ⟨gateway, isRoute,
                (completes ip).2 gateway (inv.waits unset ip gateway isRoute hasIp).2⟩
            · rintro ⟨gateway, isRoute, known⟩
              exact (waits isRoute known).1
          · rw [handleStaHeaderAdd_of_leaves { wan with wanClient } clientsHave inv.gatewayIp unset
              completes isFirst knows]
            refine inv.neighAdd_installs clientsHave unset knows ?_ ?_
            · intro ip
              refine iff_of_false (by simp [inv.inactive unset]) ?_
              rintro ⟨gateway, isRoute, known⟩
              exact completes (waits isRoute known).2.2
            · intro ip active
              simp [inv.inactive unset] at active
      · rw [handleStaHeaderAdd_of_set { wan with wanClient } unset]
        refine inv.neighAdd_set clientsHave unset ?_
        intro ip gateway isRoute knows
        by_contra inactive
        exact unset (installable ip (Bool.eq_false_iff.mpr inactive) gateway isRoute knows).2.1

end NeighAdd

theorem StaInv.step [DecidableEq μ] (inv : StaInv wan) {event : Event μ}
    (guarded : wan.StaGuard event) : StaInv (wan.step event) := by
  cases event with
  | routeAdd gateway => exact inv.routeAdd guarded
  | routeDel ip => exact inv.routeDel ip
  | neighAdd mac addr => exact inv.neighAdd guarded

end Steps

section Histories

variable [DecidableEq μ]

def Next (wan : WanSta μ) (event : Event μ) (next : WanSta μ) : Prop := next = wan.step event

variable {wan : WanSta μ}

theorem reachable_staInv
    (reached : Run.Reachable IsInit (Run.Guarded StaGuard Next) wan) : StaInv wan := by
  apply reached.invariant StaInv
  · exact fun wan isInit => IsInit.staInv isInit
  · rintro wan event _ inv ⟨guarded, rfl⟩
    exact inv.step guarded

/-- The interface is active for an IP type exactly when it has a default route whose gateway's
header has been constructed. -/
theorem reachable_activeOk {wan : WanSta μ}
    (reached : Run.Reachable IsInit (Run.Guarded StaGuard Next) wan) : wan.ActiveOk :=
  (reachable_staInv reached).ok

def staStart : WanSta ℕ :=
  ⟨⟨fun _ => true, fun _ => true, true, [], 0⟩, [], fun _ => none, fun _ => false, fun _ => false,
    fun _ => false, fun _ => none, fun _ => false⟩

theorem staStart_isInit : IsInit staStart := rfl

instance (wan : WanSta ℕ) : Decidable wan.HeaderUnset :=
  inferInstanceAs (Decidable (∀ ip, wan.headerSet ip = false))

instance (wan : WanSta ℕ) : Decidable wan.Completes :=
  inferInstanceAs (Decidable (∀ ip, _ ∧ ∀ gateway ∈ wan.gateway ip, wan.Knows gateway))

instance (wan : WanSta ℕ) : (event : Event ℕ) → Decidable (wan.StaGuard event)
  | .routeAdd _ => @instDecidableAnd _ _ inferInstance
    (@instDecidableAnd _ _ inferInstance inferInstance)
  | .routeDel _ => inferInstanceAs (Decidable True)
  | .neighAdd _ _ => inferInstanceAs (Decidable (_ → _ ∧ _))

theorem reachable_activeOk_waiting :
    ActiveOk ((staStart.step (.routeAdd (.v4 1))).step (.neighAdd 7 (.v4 1))) ∧
      ((staStart.step (.routeAdd (.v4 1))).step (.neighAdd 7 (.v4 1))).active .v4 = true :=
  ⟨reachable_activeOk (.next (.neighAdd 7 (.v4 1)) (.next (.routeAdd (.v4 1))
    (.start staStart_isInit) ⟨by decide, rfl⟩) ⟨by decide, rfl⟩), by decide⟩

def steps (wan : WanSta μ) : List (Event μ) → WanSta μ
  | [] => wan
  | event :: events => (wan.step event).steps events

theorem reachable_steps (reached : Run.Reachable IsInit Next wan)
    (events : List (Event μ)) : Run.Reachable IsInit Next (wan.steps events) := by
  induction events generalizing wan with
  | nil => exact reached
  | cons event events ih => exact ih (.next event reached rfl)

/-- A route that was withdrawn while it waited is added, and one that waits is not added when the
other gateway is not known. -/
theorem reachable_not_activeOk :
    (∃ wan : WanSta ℕ, Run.Reachable IsInit Next wan ∧ wan.route .v4 = none ∧
        wan.active .v4 = true) ∧
      (∃ wan : WanSta ℕ, Run.Reachable IsInit Next wan ∧ wan.route .v4 = some (.v4 1) ∧
        wan.route .v6 = some (.v6 ⟨1, 0, 0, 0⟩) ∧ wan.known = (fun _ => true) ∧
        wan.active = fun _ => false) ∧
      ∃ wan : WanSta ℕ, Run.Reachable IsInit Next wan ∧ wan.route .v4 = some (.v4 2) ∧
        wan.known .v4 = false ∧ wan.active .v4 = true := by
  have start : Run.Reachable IsInit Next staStart := .start staStart_isInit
  refine ⟨⟨staStart.steps [.routeAdd (.v4 1), .routeDel .v4, .neighAdd 7 (.v4 1)],
      reachable_steps start _, by decide, by decide⟩,
    ⟨staStart.steps [.routeAdd (.v6 ⟨1, 0, 0, 0⟩), .routeAdd (.v4 1), .neighAdd 7 (.v4 1),
      .neighAdd 7 (.v6 ⟨1, 0, 0, 0⟩)], reachable_steps start _, by decide, by decide, ?_, ?_⟩,
    ⟨staStart.steps [.neighAdd 7 (.v4 1), .routeAdd (.v4 1), .routeDel .v4, .routeAdd (.v4 2)],
      reachable_steps start _, by decide, by decide, by decide⟩⟩
  · funext ip
    cases ip <;> decide
  · funext ip
    cases ip <;> decide

end Histories

end WanSta

end HtcPme.Ipacm
