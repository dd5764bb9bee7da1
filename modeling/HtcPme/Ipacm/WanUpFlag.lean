import HtcPme.Ipacm.WanPairing

/-!
# The flag that all WAN interfaces share

At most one interface is active for an IP type, the flag is set exactly when one is, and the last
event posted agrees with it.
-/

namespace HtcPme.Ipacm

open List

structure WanSystem where
  shared : WanShared
  insts : List WanInst

namespace WanSystem

def deliver (isAndroid : Bool) (event : RouteEvent) : WanShared → List WanInst → WanSystem
  | shared, [] => ⟨shared, []⟩
  | shared, inst :: insts =>
      let wan := Wan.routeCallback ⟨shared, inst⟩ isAndroid event
      let rest := deliver isAndroid event wan.shared insts
      ⟨rest.shared, wan.inst :: rest.insts⟩

def Step (isAndroid : Bool) (system : WanSystem) (event : RouteEvent) (next : WanSystem) : Prop :=
  next = deliver isAndroid event system.shared system.insts

structure IsInit (system : WanSystem) : Prop where
  nodup : (system.insts.map WanInst.ipaIfNum).Nodup
  hasTx : ∀ inst ∈ system.insts, inst.hasTx = true
  inactive : ∀ inst ∈ system.insts, inst.active = fun _ => false
  wanDown : system.shared.wanUp = fun _ => false
  nothingPosted : system.shared.posted = fun _ => []

/-- At most one interface is active for the IP type, the flag says whether one is, and the last
event posted is an up exactly when the flag is set. -/
structure UpOk (system : WanSystem) (ip : IpaIpType) : Prop where
  atMostOne : system.insts.countP (fun inst => inst.active ip) ≤ 1
  flag : system.shared.wanUp ip = true ↔ ∃ inst ∈ system.insts, inst.active ip = true
  posted : LastUp (system.shared.posted ip) ↔ system.shared.wanUp ip = true

end WanSystem

def RouteEvent.ip : RouteEvent → IpaIpType
  | routeAdd _ ip | routeDel _ ip | upstreamAdd _ ip _ | upstreamDel _ ip _ => ip

def RouteEvent.IsAdd : RouteEvent → Prop
  | routeAdd .. | upstreamAdd .. => True
  | routeDel .. | upstreamDel .. => False

def RouteEvent.ipaIfNum : RouteEvent → ℕ
  | routeAdd ipaIfNum _ | routeDel ipaIfNum _ | upstreamAdd ipaIfNum _ _
  | upstreamDel ipaIfNum _ _ => ipaIfNum

def WanInst.Ready (inst : WanInst) : Prop := inst.isStaMode = .q6Wan → inst.hasExt = true

instance (inst : WanInst) : Decidable inst.Ready := inferInstanceAs (Decidable (_ → _))

def WanInst.Gains (inst : WanInst) (event : RouteEvent) (ip : IpaIpType) : Prop :=
  event.IsAdd ∧ event.ipaIfNum = inst.ipaIfNum ∧ inst.hasIp event.ip = true ∧
    inst.active ip = false ∧ inst.Ready ∧
    (ip = event.ip ∨ ip = .v6 ∧ inst.active .v4 = false ∧ inst.isXlat = true ∧
      inst.isStaMode = .q6Wan ∧ event = .routeAdd inst.ipaIfNum .v4)

namespace Wan

variable {wan : Wan}

def Sets (wan next : Wan) (ip : IpaIpType) (isUp : Option Bool) : Prop :=
  next.inst.active ip = isUp.getD (wan.inst.active ip) ∧
    next.shared.wanUp ip = isUp.getD (wan.shared.wanUp ip)

theorem Sets.refl (wan : Wan) (ip : IpaIpType) : wan.Sets wan ip none := ⟨rfl, rfl⟩

variable {ip : IpaIpType} {event : RouteEvent}

variable {next last : Wan} {next : Wan}

theorem Sets.then {first second : Option Bool}
    (sets : wan.Sets next ip first) (setsThen : next.Sets last ip second) :
    wan.Sets last ip (second.or first) := by
  cases second with
  | some isUp => exact setsThen
  | none => exact ⟨setsThen.1.trans sets.1, setsThen.2.trans sets.2⟩

theorem post_sets (wan : Wan) (ip ip' : IpaIpType) (isUp : Bool) :
    wan.Sets (wan.post ip isUp) ip' (if ip' = ip then some isUp else none) := by
  by_cases same : ip' = ip
  · simp [Sets, post, same]
  · simp [Sets, post, same]

section

variable (hasTx : wan.inst.hasTx = true)

include hasTx

theorem handleRouteAddEvt_eq (ip : IpaIpType) :
    wan.handleRouteAddEvt ip = if wan.inst.Ready then
      ({ wan with inst := { wan.inst with isDefaultGateway := true } } : Wan).post ip true
    else { wan with inst := { wan.inst with isDefaultGateway := true } } := by
  have has : ¬ wan.inst.hasTx = false := by simp [hasTx]
  have notReady : (wan.inst.isStaMode = .q6Wan ∧ wan.inst.hasExt = false) ↔ ¬ wan.inst.Ready := by
    simp [WanInst.Ready]
  simp only [handleRouteAddEvt, if_neg has, notReady, ite_not]

theorem handleRouteAddEvt_sets (ip ip' : IpaIpType) :
    wan.Sets (wan.handleRouteAddEvt ip) ip'
      (if wan.inst.Ready ∧ ip' = ip then some true else none) := by
  rw [handleRouteAddEvt_eq hasTx]
  by_cases ready : wan.inst.Ready
  · simp only [ready, true_and]
    exact post_sets { wan with inst := { wan.inst with isDefaultGateway := true } } ip ip' true
  · simp only [ready, false_and, if_false]
    exact ⟨rfl, rfl⟩

theorem handleRouteDelEvt_sets (ip ip' : IpaIpType) :
    wan.Sets (wan.handleRouteDelEvt ip) ip'
      (if wan.inst.active ip = true ∧ ip' = ip then some false else none) := by
  have has : ¬ wan.inst.hasTx = false := by simp [hasTx]
  simp only [handleRouteDelEvt, if_neg has]
  by_cases active : wan.inst.active ip = true
  · simp only [active, true_and]
    exact post_sets { wan with inst := { wan.inst with isDefaultGateway := false } } ip ip' false
  · simp only [active]
    exact ⟨rfl, rfl⟩

end

theorem handleRouteAddEvt_keeps (wan : Wan) (ip : IpaIpType) :
    (wan.handleRouteAddEvt ip).inst.hasTx = wan.inst.hasTx ∧
      (wan.handleRouteAddEvt ip).inst.Ready = wan.inst.Ready ∧
        (wan.handleRouteAddEvt ip).inst.ipaIfNum = wan.inst.ipaIfNum := by
  simp only [handleRouteAddEvt]
  split_ifs <;> exact ⟨rfl, rfl, rfl⟩

theorem handleRouteAddEvt_withV6 (ip ip' : IpaIpType) :
    (wan.handleRouteAddEvt ip).WithV6 ip' ↔ wan.WithV6 ip' := by
  simp only [handleRouteAddEvt]
  split_ifs <;> rfl

theorem handleRouteDelEvt_keeps (wan : Wan) (ip : IpaIpType) :
    (wan.handleRouteDelEvt ip).inst.hasTx = wan.inst.hasTx ∧
      (wan.handleRouteDelEvt ip).inst.ipaIfNum = wan.inst.ipaIfNum := by
  simp only [handleRouteDelEvt]
  split_ifs <;> exact ⟨rfl, rfl⟩

theorem routeCallback_keeps (wan : Wan) (isAndroid : Bool) (event : RouteEvent) :
    (wan.routeCallback isAndroid event).inst.hasTx = wan.inst.hasTx ∧
      (wan.routeCallback isAndroid event).inst.ipaIfNum = wan.inst.ipaIfNum := by
  have add (wan : Wan) (ip : IpaIpType) := handleRouteAddEvt_keeps wan ip
  have del (wan : Wan) (ip : IpaIpType) := handleRouteDelEvt_keeps wan ip
  have tether (wan : Wan) (ip : IpaIpType) (tether : List ℕ) :
      (wan.setTether ip tether).inst = wan.inst := rfl
  cases event <;>
    simp only [routeCallback, ownRouteAdd, ownRouteDel, otherRouteAdd, ownUpstreamAdd,
      ownUpstreamDel] <;>
    split_ifs <;> simp only [add, del, tether, and_self]

/-- What one interface does with an event for an IP type: it goes up exactly when it gains the
route, and goes down only from up. -/
def Reacts (wan next : Wan) (event : RouteEvent) (ip : IpaIpType) : Prop :=
  ∃ isUp, wan.Sets next ip isUp ∧ (isUp = some true ↔ wan.inst.Gains event ip) ∧
    (isUp = some false → wan.inst.active ip = true)

theorem Sets.gains (sets : wan.Sets next ip (some true)) (gains : wan.inst.Gains event ip) :
    wan.Reacts next event ip :=
  ⟨some true, sets, iff_of_true rfl gains, fun down => by cases down⟩

theorem Sets.keeps (sets : wan.Sets next ip none) (lacks : ¬ wan.inst.Gains event ip) :
    wan.Reacts next event ip :=
  ⟨none, sets, iff_of_false (fun up => by cases up) lacks, fun down => by cases down⟩

theorem handleRouteDelEvt_reacts (wan : Wan) (hasTx : wan.inst.hasTx = true)
    {ip ip' : IpaIpType} (lacks : ¬ wan.inst.Gains event ip') :
    wan.Reacts (wan.handleRouteDelEvt ip) event ip' := by
  refine ⟨_, handleRouteDelEvt_sets hasTx ip ip', iff_of_false ?_ lacks, ?_⟩
  · split_ifs <;> simp
  · split_ifs with active
    · exact fun _ => active.2 ▸ active.1
    · exact fun down => by cases down

theorem ownRouteAdd_reacts (hasTx : wan.inst.hasTx = true) (ip ip' : IpaIpType) :
    wan.Reacts (wan.ownRouteAdd ip) (.routeAdd wan.inst.ipaIfNum ip) ip' := by
  have first (ip' : IpaIpType) := handleRouteAddEvt_sets hasTx ip ip'
  rcases handleRouteAddEvt_keeps wan ip with ⟨txKept, readyKept, _⟩
  have second := handleRouteAddEvt_sets (txKept.trans hasTx) .v6 ip'
  simp only [ownRouteAdd]
  by_cases taken : wan.inst.active ip = false ∧ wan.inst.hasIp ip = true
  · simp only [if_pos taken]
    rcases taken with ⟨inactive, hasIp⟩
    by_cases ready : wan.inst.Ready
    · simp only [ready, readyKept, true_and] at first second
      split_ifs with both
      · rcases both with ⟨withV6, inactive6⟩
        rcases (handleRouteAddEvt_withV6 ip ip).mp withV6 with ⟨rfl, xlat, modem⟩
        have total := (first ip').then second
        cases ip' with
        | v4 => exact total.gains ⟨trivial, rfl, hasIp, inactive, ready, .inl rfl⟩
        | v6 =>
            have inactive6 : wan.inst.active .v6 = false := (first .v6).1.symm.trans inactive6
            exact total.gains ⟨trivial, rfl, hasIp, inactive6, ready,
              .inr ⟨rfl, inactive, xlat, modem, rfl⟩⟩
      · by_cases same : ip' = ip
        · subst same
          exact Sets.gains (by simpa using first ip')
            ⟨trivial, rfl, hasIp, inactive, ready, .inl rfl⟩
        · refine Sets.keeps (by simpa [same] using first ip') ?_
          rintro ⟨_, _, _, inactive', _, rfl | ⟨rfl, _, xlat, modem, isAdd⟩⟩
          · exact same rfl
          · cases isAdd
            exact both ⟨(handleRouteAddEvt_withV6 _ _).mpr ⟨rfl, xlat, modem⟩,
              (first .v6).1.trans inactive'⟩
    · have lacks : ¬ wan.inst.Gains (.routeAdd wan.inst.ipaIfNum ip) ip' := fun gains =>
        ready gains.2.2.2.2.1
      simp only [ready, readyKept, false_and, if_false] at first second
      split_ifs
      · exact ((first ip').then second).keeps lacks
      · exact (first ip').keeps lacks
  · simp only [if_neg taken]
    refine (Sets.refl wan ip').keeps ?_
    rintro ⟨_, _, hasIp, inactive, _, rfl | ⟨_, inactive4, _, _, isAdd⟩⟩
    · exact taken ⟨inactive, hasIp⟩
    · cases isAdd
      exact taken ⟨inactive4, hasIp⟩

theorem Reacts.then (first : wan.Reacts next event ip) (second : next.Reacts last event ip)
    (lacks : ∀ inst : WanInst, ¬ inst.Gains event ip) : wan.Reacts last event ip := by
  rcases first with ⟨isUp, sets, ups, downs⟩
  rcases second with ⟨isUp', sets', ups', downs'⟩
  have notUp : isUp ≠ some true := fun up => lacks _ (ups.mp up)
  have notUp' : isUp' ≠ some true := fun up => lacks _ (ups'.mp up)
  refine ⟨_, sets.then sets', iff_of_false ?_ (lacks _), ?_⟩
  · cases isUp' with
    | none => exact notUp
    | some isUp' => exact notUp'
  · intro down
    cases isUp with
    | some isUp =>
        cases isUp with
        | true => exact absurd rfl notUp
        | false => exact downs rfl
    | none =>
        have down' : isUp' = some false := by simpa using down
        exact sets.1.symm.trans (downs' down')

theorem ownRouteDel_reacts (hasTx : wan.inst.hasTx = true) (ip ip' : IpaIpType) (ipaIfNum : ℕ) :
    wan.Reacts (wan.ownRouteDel ip) (.routeDel ipaIfNum ip) ip' := by
  have lacks (inst : WanInst) : ¬ inst.Gains (.routeDel ipaIfNum ip) ip' := fun gains => gains.1
  rcases handleRouteDelEvt_keeps wan ip with ⟨txKept, _⟩
  simp only [ownRouteDel]
  split_ifs with active both
  · exact (handleRouteDelEvt_reacts wan hasTx (lacks _)).then
      (handleRouteDelEvt_reacts _ (txKept.trans hasTx) (lacks _)) lacks
  · exact handleRouteDelEvt_reacts wan hasTx (lacks _)
  · exact (Sets.refl wan ip').keeps (lacks _)

theorem Reacts.setTether (reacts : wan.Reacts next event ip) (ip' : IpaIpType) (tether : List ℕ) :
    wan.Reacts (next.setTether ip' tether) event ip := reacts

section

variable (hasTx : wan.inst.hasTx = true)

include hasTx

theorem ownUpstreamAdd_reacts (isAndroid : Bool)
    (ip ip' : IpaIpType) (tether : ℕ) :
    wan.Reacts (wan.ownUpstreamAdd isAndroid ip tether)
      (.upstreamAdd wan.inst.ipaIfNum ip tether) ip' := by
  have routed : wan.inst.hasIp ip = true →
      wan.Reacts (if wan.inst.active ip = true then wan else wan.handleRouteAddEvt ip)
        (.upstreamAdd wan.inst.ipaIfNum ip tether) ip' := by
    intro hasIp
    split_ifs with active
    · refine (Sets.refl wan ip').keeps ?_
      rintro ⟨_, _, _, inactive, _, rfl | ⟨_, _, _, _, isAdd⟩⟩
      · cases inactive.symm.trans active
      · cases isAdd
    · have first := handleRouteAddEvt_sets hasTx ip ip'
      split_ifs at first with up
      · rcases up with ⟨ready, rfl⟩
        exact first.gains
          ⟨trivial, rfl, hasIp, Bool.eq_false_iff.mpr active, ready, .inl rfl⟩
      · refine first.keeps ?_
        rintro ⟨_, _, _, _, ready, rfl | ⟨_, _, _, _, isAdd⟩⟩
        · exact up ⟨ready, rfl⟩
        · cases isAdd
  simp only [ownUpstreamAdd]
  by_cases hasIp : wan.inst.hasIp ip = true
  · simp only [if_pos hasIp]
    by_cases android : isAndroid = true
    · simp only [if_pos android]
      exact (routed hasIp).setTether ip _
    · simp only [if_neg android]
      exact routed hasIp
  · simp only [if_neg hasIp]
    exact (Sets.refl wan ip').keeps fun gains => hasIp gains.2.2.1

theorem ownUpstreamDel_reacts (isAndroid : Bool)
    (ip ip' : IpaIpType) (tether : ℕ) (ipaIfNum : ℕ) :
    wan.Reacts (wan.ownUpstreamDel isAndroid ip tether) (.upstreamDel ipaIfNum ip tether) ip' := by
  have lacks : ¬ wan.inst.Gains (.upstreamDel ipaIfNum ip tether) ip' := fun gains => gains.1
  simp only [ownUpstreamDel]
  split_ifs
  · exact (Sets.refl wan ip').keeps lacks
  · exact handleRouteDelEvt_reacts (wan.setTether ip _) hasTx lacks
  · exact handleRouteDelEvt_reacts wan hasTx lacks
  · exact (Sets.refl wan ip').keeps lacks

theorem otherRouteAdd_reacts (event : RouteEvent)
    (other : event.ipaIfNum ≠ wan.inst.ipaIfNum) (ip ip' : IpaIpType) :
    wan.Reacts (wan.otherRouteAdd ip) event ip' := by
  have lacks : ¬ wan.inst.Gains event ip' := fun gains => other gains.2.1
  simp only [otherRouteAdd]
  split_ifs
  · exact handleRouteDelEvt_reacts wan hasTx lacks
  · exact (Sets.refl wan ip').keeps lacks

theorem routeCallback_reacts (isAndroid : Bool)
    (event : RouteEvent) (ip : IpaIpType) :
    wan.Reacts (wan.routeCallback isAndroid event) event ip := by
  cases event with
  | routeAdd ipaIfNum ip' =>
      simp only [routeCallback]
      split_ifs with own
      · subst own
        exact ownRouteAdd_reacts hasTx ip' ip
      · exact otherRouteAdd_reacts hasTx (.routeAdd ipaIfNum ip') own ip' ip
  | routeDel ipaIfNum ip' =>
      simp only [routeCallback]
      split_ifs
      · exact ownRouteDel_reacts hasTx ip' ip ipaIfNum
      · exact (Sets.refl wan ip).keeps fun gains => gains.1
  | upstreamAdd ipaIfNum ip' tether =>
      simp only [routeCallback]
      split_ifs with own
      · subst own
        exact ownUpstreamAdd_reacts hasTx isAndroid ip' ip tether
      · exact otherRouteAdd_reacts hasTx (.upstreamAdd ipaIfNum ip' tether) own ip' ip
  | upstreamDel ipaIfNum ip' tether =>
      simp only [routeCallback]
      split_ifs
      · exact ownUpstreamDel_reacts hasTx isAndroid ip' ip tether ipaIfNum
      · exact (Sets.refl wan ip).keeps fun gains => gains.1

theorem routeCallback_other (isAndroid : Bool)
    (isAdd : event.IsAdd) (other : event.ipaIfNum ≠ wan.inst.ipaIfNum) :
    (wan.routeCallback isAndroid event).inst.active event.ip = false := by
  have down (ip : IpaIpType) : (wan.otherRouteAdd ip).inst.active ip = false := by
    simp only [otherRouteAdd]
    split_ifs with active
    · have sets := handleRouteDelEvt_sets hasTx ip ip
      simp only [active, true_and, if_true] at sets
      exact sets.1
    · exact Bool.eq_false_iff.mpr active
  cases event with
  | routeAdd ipaIfNum ip | upstreamAdd ipaIfNum ip tether =>
      have isOther : ¬ ipaIfNum = wan.inst.ipaIfNum := other
      simp only [routeCallback, if_neg isOther]
      exact down ip
  | routeDel | upstreamDel => exact isAdd.elim

end

def PostedOk (shared : WanShared) : Prop :=
  ∀ ip, LastUp (shared.posted ip) ↔ shared.wanUp ip = true

theorem PostedOk.post (wan : Wan) (postedOk : PostedOk wan.shared) (ip : IpaIpType) (isUp : Bool) :
    PostedOk (wan.post ip isUp).shared := by
  intro ip'
  by_cases same : ip' = ip
  · simp [Wan.post, same, LastUp]
  · simpa [Wan.post, same] using postedOk ip'

theorem PostedOk.add (postedOk : PostedOk wan.shared) (ip : IpaIpType) :
    PostedOk (wan.handleRouteAddEvt ip).shared := by
  simp only [handleRouteAddEvt]
  split_ifs
  · exact postedOk
  · exact postedOk
  · exact PostedOk.post { wan with inst := _ } postedOk ip true

theorem PostedOk.del (postedOk : PostedOk wan.shared) (ip : IpaIpType) :
    PostedOk (wan.handleRouteDelEvt ip).shared := by
  simp only [handleRouteDelEvt]
  split_ifs
  · exact postedOk
  · exact PostedOk.post { wan with inst := _ } postedOk ip false
  · exact postedOk

theorem PostedOk.routeCallback (wan : Wan) (postedOk : PostedOk wan.shared) (isAndroid : Bool)
    (event : RouteEvent) : PostedOk (wan.routeCallback isAndroid event).shared := by
  have tethered {wan : Wan} (postedOk : PostedOk wan.shared) (ip : IpaIpType) (tether : List ℕ) :
      PostedOk (wan.setTether ip tether).shared := postedOk
  cases event <;>
    simp only [Wan.routeCallback, ownRouteAdd, ownRouteDel, otherRouteAdd, ownUpstreamAdd,
      ownUpstreamDel] <;>
    split_ifs <;>
    simp only [postedOk, PostedOk.add, PostedOk.del, tethered]

end Wan

namespace WanSystem

def Agrees (shared : WanShared) (insts : List WanInst) (ip : IpaIpType) : Prop :=
  insts.countP (fun inst => inst.active ip) ≤ 1 ∧
    (shared.wanUp ip = true ↔ 0 < insts.countP fun inst => inst.active ip)

/-- An interface gains a route only when no other that comes later in the order is active, and with
XLAT no other at all. -/
def UpGuard (system : WanSystem) (event : RouteEvent) : Prop :=
  ∀ before inst after, system.insts = before ++ inst :: after → ∀ ip, inst.Gains event ip →
    (∀ other ∈ after, other.active ip = false) ∧
      (ip ≠ event.ip → ∀ other ∈ before, other.active ip = false)

section Steps

variable {event : RouteEvent} {ip : IpaIpType} {isAndroid : Bool}

theorem countP_split (done rest : List WanInst) (inst : WanInst) (ip : IpaIpType) :
    (done ++ inst :: rest).countP (fun inst => inst.active ip) =
      (done ++ rest).countP (fun inst => inst.active ip) + if inst.active ip then 1 else 0 := by
  simp only [countP_append, countP_cons]
  omega

theorem Agrees.reacts {done rest : List WanInst} (wan : Wan) {next : Wan}
    (agrees : Agrees wan.shared (done ++ wan.inst :: rest) ip) (reacts : wan.Reacts next event ip)
    (alone : wan.inst.Gains event ip → ∀ other ∈ done ++ rest, other.active ip = false) :
    Agrees next.shared (done ++ next.inst :: rest) ip := by
  rcases reacts with ⟨isUp, ⟨active, flag⟩, ups, downs⟩
  rcases agrees with ⟨atMostOne, isFlag⟩
  simp only [Agrees, countP_split, active, flag] at atMostOne isFlag ⊢
  cases isUp with
  | none => exact ⟨atMostOne, isFlag⟩
  | some isUp =>
      cases isUp with
      | true =>
          have none : (done ++ rest).countP (fun inst => inst.active ip) = 0 := by
            apply countP_eq_zero.mpr
            intro other mem
            simp [alone (ups.mp rfl) other mem]
          simp [none]
      | false =>
          simp only [downs rfl, if_true] at atMostOne
          have none : (done ++ rest).countP (fun inst => inst.active ip) = 0 := by omega
          simp [none]

theorem inactive_of_reacts {wan next : Wan} (reacts : wan.Reacts next event ip)
    (lacks : ¬ wan.inst.Gains event ip) (inactive : wan.inst.active ip = false) :
    next.inst.active ip = false := by
  rcases reacts with ⟨isUp, ⟨active, _⟩, ups, downs⟩
  cases isUp with
  | none => exact active.trans inactive
  | some isUp =>
      cases isUp with
      | true => exact absurd (ups.mp rfl) lacks
      | false => exact active

theorem deliver_agrees (isAndroid : Bool) (event : RouteEvent) (ip : IpaIpType)
    (insts : List WanInst) (shared : WanShared) (done : List WanInst)
    (nodup : (insts.map WanInst.ipaIfNum).Nodup) (hasTx : ∀ inst ∈ insts, inst.hasTx = true)
    (agrees : Agrees shared (done ++ insts) ip)
    (alone : ∀ before inst after, insts = before ++ inst :: after → inst.Gains event ip →
      (∀ other ∈ done ++ after, other.active ip = false) ∧
        (ip ≠ event.ip → ∀ other ∈ before, other.active ip = false)) :
    Agrees (deliver isAndroid event shared insts).shared
      (done ++ (deliver isAndroid event shared insts).insts) ip := by
  induction insts generalizing shared done with
  | nil => exact agrees
  | cons inst insts ih =>
      rcases nodup_cons.mp nodup with ⟨fresh, nodup⟩
      have tx : inst.hasTx = true := hasTx inst mem_cons_self
      have reacts : Wan.Reacts ⟨shared, inst⟩ (Wan.routeCallback ⟨shared, inst⟩ isAndroid event)
        event ip := Wan.routeCallback_reacts tx isAndroid event ip
      have handled := Agrees.reacts ⟨shared, inst⟩ agrees reacts fun gains =>
        (alone [] inst insts rfl gains).1
      have later (before : List WanInst) (gainer : WanInst) (after : List WanInst)
          (split : insts = before ++ gainer :: after) (gains : gainer.Gains event ip) :
          (∀ other ∈ done ++ [(Wan.routeCallback ⟨shared, inst⟩ isAndroid event).inst] ++ after,
            other.active ip = false) ∧
            (ip ≠ event.ip → ∀ other ∈ before, other.active ip = false) := by
        rcases alone (inst :: before) gainer after (by simp [split]) gains with ⟨others, earlier⟩
        have differs : event.ipaIfNum ≠ inst.ipaIfNum := by
          intro same
          refine fresh (mem_map.mpr ⟨gainer, by simp [split], ?_⟩)
          exact gains.2.1.symm.trans same
        have down : (Wan.routeCallback ⟨shared, inst⟩ isAndroid event).inst.active ip = false := by
          by_cases same : ip = event.ip
          · subst same
            exact Wan.routeCallback_other tx isAndroid gains.1 differs
          · exact inactive_of_reacts reacts (fun own => differs own.2.1)
              (earlier same inst mem_cons_self)
        refine ⟨?_, fun same other mem => earlier same other (mem_cons_of_mem _ mem)⟩
        intro other mem
        simp only [append_assoc, mem_append, mem_singleton] at mem
        rcases mem with mem | rfl | mem
        · exact others other (mem_append_left _ mem)
        · exact down
        · exact others other (mem_append_right _ mem)
      have rest := ih (Wan.routeCallback ⟨shared, inst⟩ isAndroid event).shared
        (done ++ [(Wan.routeCallback ⟨shared, inst⟩ isAndroid event).inst]) nodup
        (fun inst mem => hasTx inst (mem_cons_of_mem _ mem)) (by simpa using handled) later
      simpa [deliver] using rest

theorem deliver_postedOk (isAndroid : Bool) (event : RouteEvent) (insts : List WanInst)
    {shared : WanShared} (postedOk : Wan.PostedOk shared) :
    Wan.PostedOk (deliver isAndroid event shared insts).shared := by
  induction insts generalizing shared with
  | nil => exact postedOk
  | cons inst insts ih =>
      exact ih (Wan.PostedOk.routeCallback ⟨shared, inst⟩ postedOk isAndroid event)

theorem deliver_keeps (isAndroid : Bool) (event : RouteEvent) (insts : List WanInst)
    (shared : WanShared) :
    (deliver isAndroid event shared insts).insts.map WanInst.ipaIfNum =
        insts.map WanInst.ipaIfNum ∧
      (deliver isAndroid event shared insts).insts.map WanInst.hasTx = insts.map WanInst.hasTx := by
  induction insts generalizing shared with
  | nil => exact ⟨rfl, rfl⟩
  | cons inst insts ih =>
      rcases Wan.routeCallback_keeps ⟨shared, inst⟩ isAndroid event with ⟨tx, num⟩
      rcases ih (Wan.routeCallback ⟨shared, inst⟩ isAndroid event).shared with ⟨nums, txs⟩
      simp only [deliver, map_cons, nums, txs, tx, num, and_self]

end Steps

structure SystemInv (system : WanSystem) : Prop where
  nodup : (system.insts.map WanInst.ipaIfNum).Nodup
  hasTx : ∀ inst ∈ system.insts, inst.hasTx = true
  agrees : ∀ ip, Agrees system.shared system.insts ip
  postedOk : Wan.PostedOk system.shared

variable {system : WanSystem} {isAndroid : Bool}

theorem IsInit.systemInv (isInit : IsInit system) : SystemInv system where
  nodup := isInit.nodup
  hasTx := isInit.hasTx
  agrees ip := by
    have none : system.insts.countP (fun inst => inst.active ip) = 0 := by
      apply countP_eq_zero.mpr
      intro inst mem
      simp [isInit.inactive inst mem]
    simp [Agrees, none, isInit.wanDown]
  postedOk ip := by simp [LastUp, isInit.nothingPosted, isInit.wanDown]

theorem SystemInv.deliver (inv : SystemInv system)
    {event : RouteEvent} (guarded : system.UpGuard event) :
    SystemInv (deliver isAndroid event system.shared system.insts) where
  nodup := by
    rw [(deliver_keeps isAndroid event system.insts system.shared).1]
    exact inv.nodup
  hasTx inst mem := by
    have kept := mem_map_of_mem (f := WanInst.hasTx) mem
    rw [(deliver_keeps isAndroid event system.insts system.shared).2] at kept
    rcases mem_map.mp kept with ⟨old, oldMem, same⟩
    exact same.symm.trans (inv.hasTx old oldMem)
  agrees ip := deliver_agrees isAndroid event ip system.insts system.shared [] inv.nodup inv.hasTx
    (inv.agrees ip) fun before inst after split gains => guarded before inst after split ip gains
  postedOk := deliver_postedOk isAndroid event system.insts inv.postedOk

theorem reachable_systemInv
    (reached : Run.Reachable IsInit (Run.Guarded UpGuard (Step isAndroid)) system) :
    SystemInv system := by
  apply reached.invariant SystemInv
  · exact fun system isInit => isInit.systemInv
  · rintro system event _ inv ⟨guarded, rfl⟩
    exact inv.deliver guarded

/-- At most one interface is active for each IP type, the flag is set exactly when one is, and the
last event posted is an up exactly when the flag is set. -/
theorem reachable_upOk {isAndroid : Bool} {system : WanSystem}
    (reached : Run.Reachable IsInit (Run.Guarded UpGuard (Step isAndroid)) system) (ip : IpaIpType)
      :
    system.UpOk ip := by
  have inv := reachable_systemInv reached
  refine ⟨(inv.agrees ip).1, (inv.agrees ip).2.trans ?_, inv.postedOk ip⟩
  exact List.countP_pos_iff

section Histories

def instOf (ipaIfNum : ℕ) (isStaMode : IpacmWanIfaceType) (isXlat : Bool) : WanInst :=
  ⟨ipaIfNum, isStaMode, true, true, true, fun _ => true, isXlat, false, fun _ => false, some 1, [],
    (0, 0)⟩

def systemOf (insts : List WanInst) : WanSystem :=
  ⟨⟨fun _ => false, fun _ => [], fun _ => []⟩, insts⟩

def after (system : WanSystem) (event : RouteEvent) : WanSystem :=
  deliver false event system.shared system.insts

def handedOver : WanSystem :=
  ((systemOf [instOf 0 .q6Wan false, instOf 1 .wlanWan false]).after (.routeAdd 0 .v4)).after
    (.routeAdd 1 .v4)

theorem systemOf_isInit {insts : List WanInst} (nodup : (insts.map WanInst.ipaIfNum).Nodup)
    (fresh : ∀ inst ∈ insts, inst.hasTx = true ∧ inst.active = fun _ => false) :
    IsInit (systemOf insts) :=
  ⟨nodup, fun inst mem => (fresh inst mem).1, fun inst mem => (fresh inst mem).2, rfl, rfl⟩

theorem reachable_upOk_handedOver : handedOver.UpOk .v4 ∧ handedOver.shared.wanUp .v4 = true := by
  have isInit : IsInit (systemOf [instOf 0 .q6Wan false, instOf 1 .wlanWan false]) := by
    refine systemOf_isInit (by decide) fun inst mem => ?_
    rcases List.mem_pair.mp mem with rfl | rfl <;> exact ⟨rfl, rfl⟩
  have first : UpGuard (systemOf [instOf 0 .q6Wan false, instOf 1 .wlanWan false])
      (.routeAdd 0 .v4) := by
    intro before inst after split ip _
    have inactive {other : WanInst} (mem : other ∈ before ++ inst :: after) :
        other.active ip = false := by
      rw [← split] at mem
      rcases List.mem_pair.mp mem with rfl | rfl <;> rfl
    exact ⟨fun other mem => inactive (by simp [mem]), fun _ other mem => inactive (by simp [mem])⟩
  -- only the station gains the route, and it is the last in the order
  have second : UpGuard ((systemOf [instOf 0 .q6Wan false, instOf 1 .wlanWan false]).after
      (.routeAdd 0 .v4)) (.routeAdd 1 .v4) := by
    rintro before inst after split ip ⟨_, isOwn, _, _, _, route⟩
    rcases before with _ | ⟨_, _ | ⟨_, before⟩⟩
    · cases split
      cases isOwn
    · cases split
      refine ⟨fun other mem => absurd mem List.not_mem_nil, fun differs => ?_⟩
      rcases route with rfl | ⟨_, _, xlat, _⟩
      · exact absurd rfl differs
      · cases xlat
    · simp [systemOf, WanSystem.after, deliver] at split
  exact ⟨reachable_upOk (.next (.routeAdd 1 .v4) (.next (.routeAdd 0 .v4) (.start isInit)
    ⟨first, rfl⟩) ⟨second, rfl⟩) .v4, by decide⟩

/-- The interface that loses its route is registered after the one that gets it and clears the flag,
and XLAT makes an interface active beside another. -/
theorem reachable_not_upOk :
    (∃ system, Run.Reachable IsInit (Step false) system ∧ system.shared.wanUp .v4 = false ∧
        ∃ inst ∈ system.insts, inst.active .v4 = true) ∧
      ∃ system, Run.Reachable IsInit (Step false) system ∧
        system.insts.countP (fun inst => inst.active .v6) = 2 := by
  have flagInit : IsInit (systemOf [instOf 1 .wlanWan false, instOf 0 .q6Wan false]) := by
    refine systemOf_isInit (by decide) fun inst mem => ?_
    rcases List.mem_pair.mp mem with rfl | rfl <;> exact ⟨rfl, rfl⟩
  have xlatInit : IsInit (systemOf [instOf 0 .q6Wan false, instOf 1 .q6Wan true]) := by
    refine systemOf_isInit (by decide) fun inst mem => ?_
    rcases List.mem_pair.mp mem with rfl | rfl <;> exact ⟨rfl, rfl⟩
  refine ⟨⟨_, .next (.routeAdd 1 .v4) (.next (.routeAdd 0 .v4) (.start flagInit) rfl) rfl, rfl,
      _, List.mem_cons_self, rfl⟩,
    _, .next (.routeAdd 1 .v4) (.next (.routeAdd 0 .v6) (.start xlatInit) rfl) rfl, rfl⟩

end Histories

end WanSystem

end HtcPme.Ipacm
