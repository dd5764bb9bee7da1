import HtcPme.Ipacm.WanUpFlag

/-!
# The tethered interfaces of the upstream

In a build for Android, two lists that all WAN interfaces share have the interfaces that are
tethered to the upstream. The one that an upstream route is added to appends, whatever is in the
list.
-/

namespace HtcPme.Ipacm

open List Function

def ipaMaxIfaceEntries : ℕ := 15

/-- `IPA_WAN_UPSTREAM_ROUTE_ADD_EVENT` and `IPA_WAN_UPSTREAM_ROUTE_DEL_EVENT` with
`ipacm_event_data_iptype`. -/
structure UpstreamEvent where
  isAdd : Bool
  ipaIfNum : ℕ
  ip : IpaIpType
  ipaIfNumTether : ℕ
deriving DecidableEq

def UpstreamEvent.route (event : UpstreamEvent) : RouteEvent :=
  if event.isAdd then .upstreamAdd event.ipaIfNum event.ip event.ipaIfNumTether
  else .upstreamDel event.ipaIfNum event.ip event.ipaIfNumTether

namespace WanSystem

def Active (system : WanSystem) (ip : IpaIpType) (ipaIfNum : ℕ) : Prop :=
  ∃ inst ∈ system.insts, inst.ipaIfNum = ipaIfNum ∧ inst.active ip = true

instance (system : WanSystem) (ip : IpaIpType) (ipaIfNum : ℕ) :
    Decidable (system.Active ip ipaIfNum) :=
  inferInstanceAs (Decidable (∃ inst ∈ system.insts, _))

def tethers (system : WanSystem) (ip : IpaIpType) : List ℕ := system.shared.ipaIfNumTether ip

def isWanUp (system : WanSystem) (ip : IpaIpType) (ipaIfNumTether : ℕ) : Bool :=
  if ipaIfNumTether ∈ system.tethers ip then system.shared.wanUp ip else false

end WanSystem

structure TetherRun where
  system : WanSystem
  events : List UpstreamEvent

namespace TetherRun

variable (run : TetherRun)

def handle (event : UpstreamEvent) : TetherRun :=
  ⟨WanSystem.deliver true event.route run.system.shared run.system.insts, event :: run.events⟩

def Step (run : TetherRun) (event : UpstreamEvent) (next : TetherRun) : Prop :=
  next = run.handle event

structure IsInit (run : TetherRun) : Prop where
  nodup : (run.system.insts.map WanInst.ipaIfNum).Nodup
  inactive : ∀ inst ∈ run.system.insts, inst.active = fun _ => false
  noTether : run.system.shared.ipaIfNumTether = fun _ => []
  noEvent : run.events = []

def lastEvent (ip : IpaIpType) (ipaIfNumTether : ℕ) : Option UpstreamEvent :=
  run.events.find? fun event => event.ip = ip ∧ event.ipaIfNumTether = ipaIfNumTether

/-- The list is within its bound, has no interface twice, and has those whose last event was an
addition to the upstream. -/
structure TethersOk (run : TetherRun) (ip : IpaIpType) : Prop where
  bounded : (run.system.tethers ip).length ≤ ipaMaxIfaceEntries
  nodup : (run.system.tethers ip).Nodup
  mem_iff : ∀ ipaIfNumTether, ipaIfNumTether ∈ run.system.tethers ip ↔
    ∃ event ∈ run.lastEvent ip ipaIfNumTether,
      event.isAdd = true ∧ run.system.Active ip event.ipaIfNum

def TornDown (run next : TetherRun) (ip : IpaIpType) : Prop :=
  ∃ ipaIfNum, run.system.Active ip ipaIfNum ∧ ¬next.system.Active ip ipaIfNum

def Empties (run next : TetherRun) (ip : IpaIpType) : Prop :=
  run.system.tethers ip ≠ [] ∧ next.system.tethers ip = []

def Moves (run : TetherRun) (event : UpstreamEvent) (ip : IpaIpType) : Prop :=
  event.isAdd = true ∧ event.ip = ip ∧
    ∃ ipaIfNum, run.system.Active ip ipaIfNum ∧ ipaIfNum ≠ event.ipaIfNum

/-- An addition finds no other upstream, and a list with room and without the tethered interface; a
deletion of another route than the upstream's is not for an interface in the list. -/
def Regular (run : TetherRun) (event : UpstreamEvent) : Prop :=
  (event.isAdd = true →
    (∀ inst ∈ run.system.insts, inst.active event.ip = true → inst.ipaIfNum = event.ipaIfNum) ∧
      ∀ inst ∈ run.system.insts, inst.ipaIfNum = event.ipaIfNum → inst.hasIp event.ip = true →
        inst.hasTx = true ∧ inst.Ready ∧
          event.ipaIfNumTether ∉ run.system.tethers event.ip ∧
            (run.system.tethers event.ip).length < ipaMaxIfaceEntries) ∧
    (event.isAdd = false → ¬run.system.Active event.ip event.ipaIfNum →
      event.ipaIfNumTether ∉ run.system.tethers event.ip)

instance (event : UpstreamEvent) : Decidable (run.Regular event) :=
  inferInstanceAs (Decidable ((_ → (∀ inst ∈ run.system.insts, _ → _) ∧
    ∀ inst ∈ run.system.insts, _ → _ → _) ∧ (_ → _ → _)))

end TetherRun

structure WanInst.SetActive (inst next : WanInst) (ip : IpaIpType) (isActive : Bool) : Prop where
  ipaIfNum : next.ipaIfNum = inst.ipaIfNum
  hasTx : next.hasTx = inst.hasTx
  hasIp : next.hasIp = inst.hasIp
  ready : next.Ready ↔ inst.Ready
  active : next.active = Function.update inst.active ip isActive

def WanInst.afterAdd (inst : WanInst) (ipaIfNum : ℕ) (ip : IpaIpType) : Bool :=
  if inst.ipaIfNum = ipaIfNum then
    inst.active ip || (inst.hasIp ip && (inst.hasTx && decide inst.Ready))
  else inst.active ip && !inst.hasTx

def WanInst.afterDel (inst : WanInst) (ipaIfNum : ℕ) (ip : IpaIpType) (left : List ℕ) : Bool :=
  if inst.ipaIfNum = ipaIfNum then inst.active ip && !(decide (left = []) && inst.hasTx)
  else inst.active ip

namespace Wan

variable (wan : Wan)

theorem setActive_refl (ip : IpaIpType) :
    wan.inst.SetActive wan.inst ip (wan.inst.active ip) :=
  ⟨rfl, rfl, rfl, Iff.rfl, (update_eq_self ip wan.inst.active).symm⟩

theorem handleRouteAddEvt_setActive (ip : IpaIpType) :
    wan.inst.SetActive (wan.handleRouteAddEvt ip).inst ip
        (wan.inst.active ip || (wan.inst.hasTx && decide wan.inst.Ready)) ∧
      (wan.handleRouteAddEvt ip).shared.ipaIfNumTether = wan.shared.ipaIfNumTether := by
  simp only [handleRouteAddEvt]
  split_ifs with noTx noExt
  · refine ⟨?_, rfl⟩
    rw [noTx, Bool.false_and, Bool.or_false]
    exact wan.setActive_refl ip
  · refine ⟨?_, rfl⟩
    have notReady : ¬wan.inst.Ready := by simpa [WanInst.Ready] using noExt
    rw [decide_eq_false notReady, Bool.and_false, Bool.or_false]
    exact ⟨rfl, rfl, rfl, Iff.rfl, (update_eq_self ip wan.inst.active).symm⟩
  · refine ⟨?_, rfl⟩
    have ready : wan.inst.Ready := by simpa [WanInst.Ready] using noExt
    have isActive : (wan.inst.active ip || (wan.inst.hasTx && decide wan.inst.Ready)) = true := by
      simp [noTx, ready]
    rw [isActive]
    exact ⟨rfl, rfl, rfl, Iff.rfl, rfl⟩

theorem handleRouteDelEvt_setActive (ip : IpaIpType) :
    wan.inst.SetActive (wan.handleRouteDelEvt ip).inst ip
        (wan.inst.active ip && !wan.inst.hasTx) ∧
      (wan.handleRouteDelEvt ip).shared.ipaIfNumTether = wan.shared.ipaIfNumTether := by
  simp only [handleRouteDelEvt]
  split_ifs with noTx active
  · refine ⟨?_, rfl⟩
    rw [noTx, Bool.not_false, Bool.and_true]
    exact wan.setActive_refl ip
  · refine ⟨?_, rfl⟩
    have isInactive : (wan.inst.active ip && !wan.inst.hasTx) = false := by simp [noTx]
    rw [isInactive]
    exact ⟨rfl, rfl, rfl, Iff.rfl, rfl⟩
  · refine ⟨?_, rfl⟩
    rw [Bool.not_eq_true] at active
    rw [active, Bool.false_and, ← active]
    exact ⟨rfl, rfl, rfl, Iff.rfl, (update_eq_self ip wan.inst.active).symm⟩

theorem routeCallback_add (ipaIfNum : ℕ) (ip : IpaIpType) (ipaIfNumTether : ℕ) :
    wan.inst.SetActive
        (wan.routeCallback true (.upstreamAdd ipaIfNum ip ipaIfNumTether)).inst ip
        (wan.inst.afterAdd ipaIfNum ip) ∧
      (wan.routeCallback true (.upstreamAdd ipaIfNum ip ipaIfNumTether)).shared.ipaIfNumTether =
        if wan.inst.ipaIfNum = ipaIfNum ∧ wan.inst.hasIp ip = true then
          update wan.shared.ipaIfNumTether ip
            (wan.shared.ipaIfNumTether ip ++ [ipaIfNumTether])
        else wan.shared.ipaIfNumTether := by
  simp only [routeCallback, WanInst.afterAdd, eq_comm (a := ipaIfNum)]
  by_cases own : wan.inst.ipaIfNum = ipaIfNum
  · simp only [own, if_true, true_and, ownUpstreamAdd]
    split_ifs with hasIp active
    · refine ⟨?_, rfl⟩
      rw [active, Bool.true_or, ← active]
      exact wan.setActive_refl ip
    · rcases wan.handleRouteAddEvt_setActive ip with ⟨setActive, tethers⟩
      rw [hasIp, Bool.true_and]
      refine ⟨setActive, ?_⟩
      simp only [setTether, tethers]
    · refine ⟨?_, rfl⟩
      rw [Bool.not_eq_true] at hasIp
      rw [hasIp, Bool.false_and, Bool.or_false]
      exact wan.setActive_refl ip
  · simp only [own, if_false, false_and, otherRouteAdd]
    split_ifs with active
    · exact wan.handleRouteDelEvt_setActive ip
    · refine ⟨?_, rfl⟩
      rw [Bool.not_eq_true] at active
      rw [active, Bool.false_and, ← active]
      exact wan.setActive_refl ip

theorem routeCallback_del (ipaIfNum : ℕ) (ip : IpaIpType) (ipaIfNumTether : ℕ) :
    wan.inst.SetActive
        (wan.routeCallback true (.upstreamDel ipaIfNum ip ipaIfNumTether)).inst ip
        (wan.inst.afterDel ipaIfNum ip ((wan.shared.ipaIfNumTether ip).erase ipaIfNumTether)) ∧
      (wan.routeCallback true (.upstreamDel ipaIfNum ip ipaIfNumTether)).shared.ipaIfNumTether =
        if wan.inst.ipaIfNum = ipaIfNum ∧ wan.inst.active ip = true then
          update wan.shared.ipaIfNumTether ip
            ((wan.shared.ipaIfNumTether ip).erase ipaIfNumTether)
        else wan.shared.ipaIfNumTether := by
  simp only [routeCallback, WanInst.afterDel, eq_comm (a := ipaIfNum)]
  by_cases own : wan.inst.ipaIfNum = ipaIfNum
  · simp only [own, if_true, true_and, ownUpstreamDel]
    have left : (wan.setTether ip
        ((wan.shared.ipaIfNumTether ip).erase ipaIfNumTether)).shared.ipaIfNumTether ip =
        (wan.shared.ipaIfNumTether ip).erase ipaIfNumTether := update_self ..
    rw [left]
    split_ifs with active some
    · refine ⟨?_, rfl⟩
      rw [active, decide_eq_false some, Bool.false_and, Bool.not_false, Bool.and_true, ← active]
      exact (wan.setTether ip _).setActive_refl ip
    · rcases (wan.setTether ip
        ((wan.shared.ipaIfNumTether ip).erase ipaIfNumTether)).handleRouteDelEvt_setActive ip with
        ⟨setActive, tethers⟩
      rw [not_not] at some
      rw [decide_eq_true some, Bool.true_and]
      exact ⟨setActive, tethers⟩
    · refine ⟨?_, rfl⟩
      rw [Bool.not_eq_true] at active
      rw [active, Bool.false_and, ← active]
      exact wan.setActive_refl ip
  · rw [if_neg own, if_neg own, if_neg fun both => own both.1]
    exact ⟨wan.setActive_refl ip, rfl⟩

end Wan

theorem forall₂_of_mem {α β : Type*} {relation other : α → β → Prop} {list : List α}
    {list' : List β} (related : List.Forall₂ relation list list')
    (implies : ∀ first ∈ list, ∀ second, relation first second → other first second) :
    List.Forall₂ other list list' := by
  induction related with
  | nil => exact .nil
  | cons holds _ ih =>
      refine .cons (implies _ mem_cons_self _ holds) (ih ?_)
      exact fun first mem => implies first (mem_cons_of_mem _ mem)

namespace WanSystem

variable (ipaIfNum ipaIfNumTether : ℕ) {ip : IpaIpType}

theorem deliver_spec {event : RouteEvent} {owns : WanInst → Bool}
    (value : WanInst → List ℕ → Bool) (change : List ℕ → List ℕ)
    (each : ∀ wan : Wan, wan.inst.SetActive (wan.routeCallback true event).inst ip
        (value wan.inst (change (wan.shared.ipaIfNumTether ip))) ∧
      (wan.routeCallback true event).shared.ipaIfNumTether =
        if wan.inst.ipaIfNum = ipaIfNum ∧ owns wan.inst = true then
          update wan.shared.ipaIfNumTether ip (change (wan.shared.ipaIfNumTether ip))
        else wan.shared.ipaIfNumTether)
    (others : ∀ inst left left', inst.ipaIfNum ≠ ipaIfNum → value inst left = value inst left')
    (insts : List WanInst) (shared : WanShared) (nodup : (insts.map WanInst.ipaIfNum).Nodup) :
    List.Forall₂ (fun inst next => inst.SetActive next ip
          (value inst (change (shared.ipaIfNumTether ip)))) insts
        (deliver true event shared insts).insts ∧
      (deliver true event shared insts).shared.ipaIfNumTether =
        if ∃ inst ∈ insts, inst.ipaIfNum = ipaIfNum ∧ owns inst = true then
          update shared.ipaIfNumTether ip (change (shared.ipaIfNumTether ip))
        else shared.ipaIfNumTether := by
  induction insts generalizing shared with
  | nil => exact ⟨.nil, by simp [deliver]⟩
  | cons inst rest ih =>
      rcases nodup_cons.mp nodup with ⟨notMem, nodupRest⟩
      rcases each ⟨shared, inst⟩ with ⟨setActive, tethers⟩
      rcases ih (Wan.routeCallback ⟨shared, inst⟩ true event).shared nodupRest with
        ⟨restActive, restTethers⟩
      have atRest : (deliver true event shared (inst :: rest)).shared =
          (deliver true event (Wan.routeCallback ⟨shared, inst⟩ true event).shared rest).shared :=
        rfl
      rw [atRest, restTethers, tethers]
      rw [tethers] at restActive
      by_cases own : inst.ipaIfNum = ipaIfNum ∧ owns inst = true
      · have isOther : ∀ other ∈ rest, other.ipaIfNum ≠ ipaIfNum := by
          intro other mem isOther
          apply notMem
          rw [own.1, ← isOther]
          exact mem_map_of_mem mem
        have noOther : ¬∃ other ∈ rest, other.ipaIfNum = ipaIfNum ∧ owns other = true := by
          rintro ⟨other, mem, same, -⟩
          exact isOther other mem same
        have some : ∃ other ∈ inst :: rest, other.ipaIfNum = ipaIfNum ∧ owns other = true :=
          ⟨inst, mem_cons_self, own⟩
        rw [if_neg noOther, if_pos own, if_pos some]
        refine ⟨.cons setActive (forall₂_of_mem restActive ?_), rfl⟩
        intro other mem next restSet
        rwa [others other _ _ (isOther other mem)] at restSet
      · rw [if_neg own]
        rw [if_neg own] at restActive
        have same : (∃ other ∈ inst :: rest, other.ipaIfNum = ipaIfNum ∧ owns other = true) ↔
            ∃ other ∈ rest, other.ipaIfNum = ipaIfNum ∧ owns other = true := by
          simp [own]
        rw [if_congr same rfl rfl]
        exact ⟨.cons setActive restActive, rfl⟩

theorem deliver_add (ip : IpaIpType) (insts : List WanInst) (shared : WanShared)
    (nodup : (insts.map WanInst.ipaIfNum).Nodup) :
    List.Forall₂ (fun inst next => inst.SetActive next ip (inst.afterAdd ipaIfNum ip)) insts
        (deliver true (.upstreamAdd ipaIfNum ip ipaIfNumTether) shared insts).insts ∧
      (deliver true (.upstreamAdd ipaIfNum ip ipaIfNumTether) shared insts).shared.ipaIfNumTether =
        if ∃ inst ∈ insts, inst.ipaIfNum = ipaIfNum ∧ inst.hasIp ip = true then
          update shared.ipaIfNumTether ip (shared.ipaIfNumTether ip ++ [ipaIfNumTether])
        else shared.ipaIfNumTether := by
  apply deliver_spec ipaIfNum (fun inst _ => inst.afterAdd ipaIfNum ip) (· ++ [ipaIfNumTether])
  · exact fun wan => wan.routeCallback_add ipaIfNum ip ipaIfNumTether
  · exact fun _ _ _ _ => rfl
  · exact nodup

theorem deliver_del (ip : IpaIpType) (insts : List WanInst) (shared : WanShared)
    (nodup : (insts.map WanInst.ipaIfNum).Nodup) :
    List.Forall₂ (fun inst next => inst.SetActive next ip
          (inst.afterDel ipaIfNum ip ((shared.ipaIfNumTether ip).erase ipaIfNumTether))) insts
        (deliver true (.upstreamDel ipaIfNum ip ipaIfNumTether) shared insts).insts ∧
      (deliver true (.upstreamDel ipaIfNum ip ipaIfNumTether) shared insts).shared.ipaIfNumTether =
        if ∃ inst ∈ insts, inst.ipaIfNum = ipaIfNum ∧ inst.active ip = true then
          update shared.ipaIfNumTether ip
            ((shared.ipaIfNumTether ip).erase ipaIfNumTether)
        else shared.ipaIfNumTether := by
  apply deliver_spec ipaIfNum (fun inst left => inst.afterDel ipaIfNum ip left)
    (List.erase · ipaIfNumTether)
  · exact fun wan => wan.routeCallback_del ipaIfNum ip ipaIfNumTether
  · intro inst left left' isOther
    rw [WanInst.afterDel, WanInst.afterDel, if_neg isOther, if_neg isOther]
  · exact nodup

variable {insts next : List WanInst} {value : WanInst → Bool}

theorem exists_setActive
    (related : List.Forall₂ (fun inst next => inst.SetActive next ip (value inst)) insts next)
    (other : IpaIpType) (isOther : WanInst → Prop)
    (same : ∀ inst next, inst.SetActive next ip (value inst) → (isOther next ↔ isOther inst)) :
    (∃ inst ∈ next, isOther inst ∧ inst.active other = true) ↔
      ∃ inst ∈ insts, isOther inst ∧
        (if other = ip then value inst else inst.active other) = true := by
  induction related with
  | nil => simp
  | @cons inst changed _ _ setActive _ ih =>
      simp only [exists_mem_cons_iff, same inst changed setActive, setActive.active,
        update_apply, ih]

theorem forall_setActive
    (related : List.Forall₂ (fun inst next => inst.SetActive next ip (value inst)) insts next) :
    next.map WanInst.ipaIfNum = insts.map WanInst.ipaIfNum ∧
      ∀ changed ∈ next, ∃ inst ∈ insts, inst.SetActive changed ip (value inst) := by
  induction related with
  | nil => simp
  | @cons inst first _ _ setActive _ ih =>
      refine ⟨by simp [setActive.ipaIfNum, ih.1], ?_⟩
      intro changed mem
      rcases mem_cons.mp mem with rfl | inRest
      · exact ⟨inst, mem_cons_self, setActive⟩
      · rcases ih.2 changed inRest with ⟨before, isBefore, isSet⟩
        exact ⟨before, mem_cons_of_mem _ isBefore, isSet⟩

end WanSystem

namespace TetherRun

variable {run : TetherRun} {event : UpstreamEvent} {ip : IpaIpType} {ipaIfNum : ℕ}

def after (run : TetherRun) (event : UpstreamEvent) (inst : WanInst) : Bool :=
  if event.isAdd then inst.afterAdd event.ipaIfNum event.ip
  else inst.afterDel event.ipaIfNum event.ip
    ((run.system.tethers event.ip).erase event.ipaIfNumTether)

/-- An interface changes the list: that of an added route if it has the IP type, and that of a
deleted one if it is active. -/
def Listed (run : TetherRun) (event : UpstreamEvent) : Prop :=
  ∃ inst ∈ run.system.insts, inst.ipaIfNum = event.ipaIfNum ∧
    (if event.isAdd then inst.hasIp event.ip else inst.active event.ip) = true

def listed (run : TetherRun) (event : UpstreamEvent) : List ℕ :=
  if event.isAdd then run.system.tethers event.ip ++ [event.ipaIfNumTether]
  else (run.system.tethers event.ip).erase event.ipaIfNumTether

section

variable (nodup : (run.system.insts.map WanInst.ipaIfNum).Nodup)

include nodup

theorem handle_spec (event : UpstreamEvent) :
    List.Forall₂ (fun inst next => inst.SetActive next event.ip (run.after event inst))
        run.system.insts (run.handle event).system.insts ∧
      (run.Listed event → (run.handle event).system.shared.ipaIfNumTether =
        update run.system.shared.ipaIfNumTether event.ip (run.listed event)) ∧
      (¬run.Listed event → (run.handle event).system.shared.ipaIfNumTether =
        run.system.shared.ipaIfNumTether) := by
  rcases event with ⟨isAdd, ipaIfNum, ip, ipaIfNumTether⟩
  cases isAdd with
  | true =>
      rcases WanSystem.deliver_add ipaIfNum ipaIfNumTether ip run.system.insts run.system.shared
        nodup with ⟨related, tethers⟩
      refine ⟨related, ?_, ?_⟩
      · intro isListed
        exact tethers.trans (if_pos isListed)
      · intro notListed
        exact tethers.trans (if_neg notListed)
  | false =>
      rcases WanSystem.deliver_del ipaIfNum ipaIfNumTether ip run.system.insts run.system.shared
        nodup with ⟨related, tethers⟩
      refine ⟨related, ?_, ?_⟩
      · intro isListed
        exact tethers.trans (if_pos isListed)
      · intro notListed
        exact tethers.trans (if_neg notListed)

theorem active_handle :
    (run.handle event).system.Active ip ipaIfNum ↔ ∃ inst ∈ run.system.insts,
      inst.ipaIfNum = ipaIfNum ∧
        (if ip = event.ip then run.after event inst else inst.active ip) = true := by
  apply WanSystem.exists_setActive (handle_spec nodup event).1 ip (·.ipaIfNum = ipaIfNum)
  intro inst next setActive
  rw [setActive.ipaIfNum]

theorem active_handle_other (isOther : ip ≠ event.ip) :
    (run.handle event).system.Active ip ipaIfNum ↔ run.system.Active ip ipaIfNum := by
  rw [active_handle nodup]
  simp only [if_neg isOther]
  exact Iff.rfl

theorem tethers_handle_other (isOther : ip ≠ event.ip) :
    (run.handle event).system.tethers ip = run.system.tethers ip := by
  rcases handle_spec nodup event with ⟨-, listed, notListed⟩
  by_cases isListed : run.Listed event
  · rw [WanSystem.tethers, listed isListed, update_of_ne isOther, WanSystem.tethers]
  · rw [WanSystem.tethers, notListed isListed, WanSystem.tethers]

theorem tethers_handle_listed (isListed : run.Listed event) :
    (run.handle event).system.tethers event.ip = run.listed event := by
  rw [WanSystem.tethers, (handle_spec nodup event).2.1 isListed, update_self]

theorem tethers_handle_notListed (notListed : ¬run.Listed event) :
    (run.handle event).system.tethers ip = run.system.tethers ip := by
  rw [WanSystem.tethers, (handle_spec nodup event).2.2 notListed, WanSystem.tethers]

end

theorem lastEvent_handle (ipaIfNumTether : ℕ) :
    (run.handle event).lastEvent ip ipaIfNumTether =
      if event.ip = ip ∧ event.ipaIfNumTether = ipaIfNumTether then some event
      else run.lastEvent ip ipaIfNumTether := by
  simp only [lastEvent, handle, find?_cons]
  split_ifs with same
  · simp [same]
  · simp [same]

def Able (run : TetherRun) (event : UpstreamEvent) : Prop :=
  ∃ inst ∈ run.system.insts, inst.ipaIfNum = event.ipaIfNum ∧ inst.hasIp event.ip = true ∧
    inst.hasTx = true ∧ inst.Ready

structure RunInv (run : TetherRun) : Prop where
  nodup : (run.system.insts.map WanInst.ipaIfNum).Nodup
  able : ∀ inst ∈ run.system.insts, ∀ ip, inst.active ip = true →
    inst.hasIp ip = true ∧ inst.hasTx = true ∧ inst.Ready
  one : ∀ ip first second, run.system.Active ip first → run.system.Active ip second →
    first = second
  nonempty : ∀ ip ipaIfNum, run.system.Active ip ipaIfNum → run.system.tethers ip ≠ []
  added : ∀ ip ipaIfNumTether, ∀ event ∈ run.lastEvent ip ipaIfNumTether, event.isAdd = true →
    (∃ inst ∈ run.system.insts, inst.ipaIfNum = event.ipaIfNum ∧ inst.hasIp ip = true) →
      run.system.Active ip event.ipaIfNum
  tethers : ∀ ip, run.TethersOk ip

theorem regular_del (isDel : event.isAdd = false) :
    run.Regular event ↔ (¬run.system.Active event.ip event.ipaIfNum →
      event.ipaIfNumTether ∉ run.system.tethers event.ip) := by
  simp only [Regular, isDel, Bool.false_eq_true, false_imp_iff, true_imp_iff, true_and]

namespace RunInv

variable (inv : run.RunInv)

include inv

theorem active_add (isAdd : event.isAdd = true) :
    (run.handle event).system.Active event.ip ipaIfNum ↔ ipaIfNum = event.ipaIfNum ∧
      (run.system.Active event.ip ipaIfNum ∨ run.Able event) := by
  rw [active_handle inv.nodup]
  simp only [if_true, after, isAdd, WanInst.afterAdd]
  constructor
  · rintro ⟨inst, mem, rfl, isActive⟩
    split_ifs at isActive with own
    · refine ⟨own, ?_⟩
      rcases Bool.or_eq_true_iff.mp isActive with active | gains
      · exact .inl ⟨inst, mem, rfl, active⟩
      · simp only [Bool.and_eq_true, decide_eq_true_eq] at gains
        exact .inr ⟨inst, mem, own, gains⟩
    · rw [Bool.and_eq_true, Bool.not_eq_true'] at isActive
      have hasTx := (inv.able inst mem event.ip isActive.1).2.1
      cases hasTx.symm.trans isActive.2
  · rintro ⟨rfl, ⟨inst, mem, own, active⟩ | ⟨inst, mem, own, hasIp, hasTx, ready⟩⟩
    · exact ⟨inst, mem, own, by simp [own, active]⟩
    · exact ⟨inst, mem, own, by simp [own, hasIp, hasTx, ready]⟩

theorem active_del (isDel : event.isAdd = false) :
    (run.handle event).system.Active event.ip ipaIfNum ↔ run.system.Active event.ip ipaIfNum ∧
      ¬(ipaIfNum = event.ipaIfNum ∧
        (run.system.tethers event.ip).erase event.ipaIfNumTether = []) := by
  rw [active_handle inv.nodup]
  simp only [if_true, after, isDel, Bool.false_eq_true, if_false, WanInst.afterDel]
  constructor
  · rintro ⟨inst, mem, rfl, isActive⟩
    have active : inst.active event.ip = true := by
      split_ifs at isActive
      · exact (Bool.and_eq_true_iff.mp isActive).1
      · exact isActive
    refine ⟨⟨inst, mem, rfl, active⟩, ?_⟩
    rintro ⟨own, left⟩
    simp [own, left, (inv.able inst mem event.ip active).2.1] at isActive
  · rintro ⟨⟨inst, mem, rfl, active⟩, stays⟩
    refine ⟨inst, mem, rfl, ?_⟩
    by_cases own : inst.ipaIfNum = event.ipaIfNum
    · have left : (run.system.tethers event.ip).erase event.ipaIfNumTether ≠ [] := by
        intro isNil
        exact stays ⟨own, isNil⟩
      simp [own, active, left]
    · simp [own, active]

theorem notListed_of_notHas (isAdd : event.isAdd = true)
    (notHas : ¬∃ inst ∈ run.system.insts, inst.ipaIfNum = event.ipaIfNum ∧
      inst.hasIp event.ip = true) :
    (run.handle event).system.tethers ip = run.system.tethers ip := by
  apply tethers_handle_notListed inv.nodup
  simpa only [Listed, isAdd, if_true] using notHas

theorem tethers_add (isAdd : event.isAdd = true)
    (has : ∃ inst ∈ run.system.insts, inst.ipaIfNum = event.ipaIfNum ∧
      inst.hasIp event.ip = true) :
    (run.handle event).system.tethers event.ip =
      run.system.tethers event.ip ++ [event.ipaIfNumTether] := by
  rw [tethers_handle_listed inv.nodup (by simpa only [Listed, isAdd, if_true] using has), listed,
    if_pos isAdd]

theorem tethers_del (isDel : event.isAdd = false)
    (active : run.system.Active event.ip event.ipaIfNum) :
    (run.handle event).system.tethers event.ip =
      (run.system.tethers event.ip).erase event.ipaIfNumTether := by
  have isListed : run.Listed event := by
    simpa only [Listed, isDel, Bool.false_eq_true, if_false, WanSystem.Active] using active
  rw [tethers_handle_listed inv.nodup isListed, listed, isDel, if_neg Bool.false_ne_true]

theorem tethers_del_inactive (isDel : event.isAdd = false)
    (inactive : ¬run.system.Active event.ip event.ipaIfNum) :
    (run.handle event).system.tethers ip = run.system.tethers ip := by
  apply tethers_handle_notListed inv.nodup
  simpa only [Listed, isDel, Bool.false_eq_true, if_false, WanSystem.Active] using inactive

theorem eq_nil (none : ∀ ipaIfNum, ¬run.system.Active ip ipaIfNum) :
    run.system.tethers ip = [] := by
  apply eq_nil_iff_forall_not_mem.mpr
  intro ipaIfNumTether mem
  rcases ((inv.tethers ip).mem_iff ipaIfNumTether).mp mem with ⟨event, -, -, active⟩
  exact none event.ipaIfNum active

theorem tornDown_iff (event : UpstreamEvent) (ip : IpaIpType) :
    run.TornDown (run.handle event) ip ↔
      run.Empties (run.handle event) ip ∨ run.Moves event ip := by
  by_cases isOther : ip ≠ event.ip
  · simp only [TornDown, Empties, Moves, active_handle_other inv.nodup isOther,
      tethers_handle_other inv.nodup isOther, isOther.symm, false_and, and_false, or_false,
      and_not_self, exists_false, false_iff, not_and]
    exact id
  rw [not_ne_iff] at isOther
  subst isOther
  by_cases isAdd : event.isAdd = true
  · have grows : ¬run.Empties (run.handle event) event.ip := by
      rintro ⟨notNil, isNil⟩
      by_cases has : ∃ inst ∈ run.system.insts, inst.ipaIfNum = event.ipaIfNum ∧
          inst.hasIp event.ip = true
      · rw [inv.tethers_add isAdd has] at isNil
        exact append_ne_nil_of_right_ne_nil _ (cons_ne_nil _ _) isNil
      · rw [inv.notListed_of_notHas isAdd has] at isNil
        exact notNil isNil
    simp only [grows, false_or, TornDown, Moves, inv.active_add isAdd, isAdd, true_and]
    constructor
    · rintro ⟨ipaIfNum, active, gone⟩
      refine ⟨ipaIfNum, active, ?_⟩
      intro own
      exact gone ⟨own, .inl active⟩
    · rintro ⟨ipaIfNum, active, notOwn⟩
      refine ⟨ipaIfNum, active, ?_⟩
      rintro ⟨own, -⟩
      exact notOwn own
  · have isDel : event.isAdd = false := Bool.eq_false_iff.mpr isAdd
    have stays : ¬run.Moves event event.ip := fun moves => isAdd moves.1
    simp only [stays, or_false, TornDown, Empties, inv.active_del isDel]
    constructor
    · rintro ⟨ipaIfNum, active, gone⟩
      rcases not_not.mp (fun kept => gone ⟨active, kept⟩) with ⟨rfl, left⟩
      exact ⟨inv.nonempty _ _ active, (inv.tethers_del isDel active).trans left⟩
    · rintro ⟨notNil, isNil⟩
      by_cases active : run.system.Active event.ip event.ipaIfNum
      · refine ⟨event.ipaIfNum, active, ?_⟩
        rintro ⟨-, kept⟩
        exact kept ⟨rfl, (inv.tethers_del isDel active).symm.trans isNil⟩
      · rw [inv.tethers_del_inactive isDel active] at isNil
        exact absurd isNil notNil

theorem tethersOk_other (isOther : ip ≠ event.ip) :
    (run.handle event).TethersOk ip := by
  have same : (run.handle event).system.tethers ip = run.system.tethers ip :=
    tethers_handle_other inv.nodup isOther
  refine ⟨?_, ?_, ?_⟩
  · rw [same]
    exact (inv.tethers ip).bounded
  · rw [same]
    exact (inv.tethers ip).nodup
  · intro ipaIfNumTether
    have notLast : ¬(event.ip = ip ∧ event.ipaIfNumTether = ipaIfNumTether) :=
      fun last => isOther last.1.symm
    simp only [same, (inv.tethers ip).mem_iff, lastEvent_handle, if_neg notLast,
      active_handle_other inv.nodup isOther]

theorem able_handle (inst : WanInst) (mem : inst ∈ (run.handle event).system.insts)
    (ip : IpaIpType) (active : inst.active ip = true) :
    inst.hasIp ip = true ∧ inst.hasTx = true ∧ inst.Ready := by
  rcases (WanSystem.forall_setActive (handle_spec inv.nodup event).1).2 inst mem with
    ⟨before, isBefore, setActive⟩
  rw [setActive.active] at active
  rw [setActive.hasIp, setActive.hasTx, setActive.ready]
  by_cases isOther : ip = event.ip
  · subst isOther
    rw [update_self, after] at active
    split_ifs at active with isAdd
    · rw [WanInst.afterAdd] at active
      split_ifs at active
      · rcases Bool.or_eq_true_iff.mp active with was | gains
        · exact inv.able before isBefore _ was
        · simpa only [Bool.and_eq_true, decide_eq_true_eq] using gains
      · exact inv.able before isBefore _ (Bool.and_eq_true_iff.mp active).1
    · rw [WanInst.afterDel] at active
      split_ifs at active
      · exact inv.able before isBefore _ (Bool.and_eq_true_iff.mp active).1
      · exact inv.able before isBefore _ active
  · rw [update_of_ne isOther] at active
    exact inv.able before isBefore ip active

theorem has_handle (ip : IpaIpType) (ipaIfNum : ℕ) :
    (∃ inst ∈ (run.handle event).system.insts, inst.ipaIfNum = ipaIfNum ∧
      inst.hasIp ip = true) →
      ∃ inst ∈ run.system.insts, inst.ipaIfNum = ipaIfNum ∧ inst.hasIp ip = true := by
  rintro ⟨inst, mem, own, hasIp⟩
  rcases (WanSystem.forall_setActive (handle_spec inv.nodup event).1).2 inst mem with
    ⟨before, isBefore, setActive⟩
  exact ⟨before, isBefore, setActive.ipaIfNum ▸ own, setActive.hasIp ▸ hasIp⟩

theorem regular_add (isAdd : event.isAdd = true) :
    run.Regular event ↔
      (∀ ipaIfNum, run.system.Active event.ip ipaIfNum → ipaIfNum = event.ipaIfNum) ∧
        ((∃ inst ∈ run.system.insts, inst.ipaIfNum = event.ipaIfNum ∧
            inst.hasIp event.ip = true) →
          run.Able event ∧ event.ipaIfNumTether ∉ run.system.tethers event.ip ∧
            (run.system.tethers event.ip).length < ipaMaxIfaceEntries) := by
  simp only [Regular, isAdd, true_imp_iff, Bool.true_eq_false, false_imp_iff, and_true]
  constructor
  · rintro ⟨one, own⟩
    constructor
    · rintro ipaIfNum ⟨inst, mem, rfl, active⟩
      exact one inst mem active
    · rintro ⟨inst, mem, isOwn, hasIp⟩
      rcases own inst mem isOwn hasIp with ⟨hasTx, ready, notMem, room⟩
      exact ⟨⟨inst, mem, isOwn, hasIp, hasTx, ready⟩, notMem, room⟩
  · rintro ⟨one, own⟩
    constructor
    · intro inst mem active
      exact one inst.ipaIfNum ⟨inst, mem, rfl, active⟩
    · intro inst mem isOwn hasIp
      rcases own ⟨inst, mem, isOwn, hasIp⟩ with ⟨⟨other, isOther, same, -, able⟩, rest⟩
      have isSame : other = inst :=
        inj_on_of_nodup_map inv.nodup isOther mem (same.trans isOwn.symm)
      subst isSame
      exact ⟨able.1, able.2, rest⟩

theorem tethersOk_add (isAdd : event.isAdd = true) (regular : run.Regular event) :
    (run.handle event).TethersOk event.ip := by
  rcases (inv.regular_add isAdd).mp regular with ⟨one, own⟩
  have ok := inv.tethers event.ip
  by_cases has : ∃ inst ∈ run.system.insts, inst.ipaIfNum = event.ipaIfNum ∧
      inst.hasIp event.ip = true
  · rcases own has with ⟨able, notMem, room⟩
    have tethers := inv.tethers_add isAdd has
    refine ⟨?_, ?_, ?_⟩
    · rw [tethers, length_append, length_singleton]
      omega
    · rw [tethers]
      exact ok.nodup.append (nodup_singleton _) (by simpa using notMem)
    · intro ipaIfNumTether
      rw [tethers, mem_append, mem_singleton, lastEvent_handle, ok.mem_iff]
      simp only [inv.active_add isAdd, able, or_true, and_true]
      by_cases same : event.ipaIfNumTether = ipaIfNumTether
      · simp [same, isAdd]
      · simp only [same, and_false, if_false, Ne.symm same, or_false]
        constructor
        · rintro ⟨last, isLast, lastAdd, active⟩
          exact ⟨last, isLast, lastAdd, one last.ipaIfNum active⟩
        · rintro ⟨last, isLast, lastAdd, isOwn⟩
          refine ⟨last, isLast, lastAdd, ?_⟩
          apply inv.added event.ip ipaIfNumTether last isLast lastAdd
          rw [isOwn]
          exact has
  · have tethers : (run.handle event).system.tethers event.ip = run.system.tethers event.ip :=
      inv.notListed_of_notHas isAdd has
    have notAble : ¬run.Able event := by
      rintro ⟨inst, mem, isOwn, hasIp, -⟩
      exact has ⟨inst, mem, isOwn, hasIp⟩
    have none (ipaIfNum : ℕ) : ¬run.system.Active event.ip ipaIfNum := by
      intro active
      rcases active with ⟨inst, mem, isOwn, isActive⟩
      have isUpstream := one ipaIfNum ⟨inst, mem, isOwn, isActive⟩
      exact has ⟨inst, mem, isOwn.trans isUpstream, (inv.able inst mem event.ip isActive).1⟩
    have isNil := inv.eq_nil none
    refine ⟨?_, ?_, ?_⟩
    · rw [tethers]
      exact ok.bounded
    · rw [tethers]
      exact ok.nodup
    · intro ipaIfNumTether
      simp only [tethers, isNil, not_mem_nil, false_iff]
      rintro ⟨last, -, -, active⟩
      rcases (inv.active_add isAdd).mp active with ⟨-, was | able⟩
      · exact none last.ipaIfNum was
      · exact notAble able

theorem tethersOk_del (isDel : event.isAdd = false) (regular : run.Regular event) :
    (run.handle event).TethersOk event.ip := by
  have ok := inv.tethers event.ip
  by_cases active : run.system.Active event.ip event.ipaIfNum
  · have tethers := inv.tethers_del isDel active
    refine ⟨?_, ?_, ?_⟩
    · rw [tethers]
      exact length_erase_le.trans ok.bounded
    · rw [tethers]
      exact ok.nodup.erase _
    · intro ipaIfNumTether
      rw [tethers, ok.nodup.mem_erase_iff, lastEvent_handle, ok.mem_iff]
      by_cases same : event.ipaIfNumTether = ipaIfNumTether
      · simp [same, isDel]
      · simp only [same, and_false, if_false, Ne.symm same, ne_eq, not_false_eq_true, true_and,
          inv.active_del isDel]
        constructor
        · rintro ⟨last, isLast, lastAdd, lastActive⟩
          refine ⟨last, isLast, lastAdd, lastActive, ?_⟩
          rintro ⟨-, left⟩
          have mem : ipaIfNumTether ∈ run.system.tethers event.ip :=
            (ok.mem_iff ipaIfNumTether).mpr ⟨last, isLast, lastAdd, lastActive⟩
          have isLeft := (mem_erase_of_ne (Ne.symm same)).mpr mem
          rw [left] at isLeft
          exact not_mem_nil isLeft
        · rintro ⟨last, isLast, lastAdd, lastActive, -⟩
          exact ⟨last, isLast, lastAdd, lastActive⟩
  · have tethers : (run.handle event).system.tethers event.ip = run.system.tethers event.ip :=
      inv.tethers_del_inactive isDel active
    have notMem := (regular_del isDel).mp regular active
    refine ⟨?_, ?_, ?_⟩
    · rw [tethers]
      exact ok.bounded
    · rw [tethers]
      exact ok.nodup
    · intro ipaIfNumTether
      rw [tethers, lastEvent_handle]
      by_cases same : event.ipaIfNumTether = ipaIfNumTether
      · subst same
        simp [isDel, notMem]
      · have stays (last : UpstreamEvent) : run.system.Active event.ip last.ipaIfNum →
            ¬(last.ipaIfNum = event.ipaIfNum ∧
              (run.system.tethers event.ip).erase event.ipaIfNumTether = []) := by
          rintro lastActive ⟨isOwn, -⟩
          exact active (isOwn ▸ lastActive)
        simp only [same, and_false, if_false, ok.mem_iff, inv.active_del isDel]
        constructor
        · rintro ⟨last, isLast, lastAdd, lastActive⟩
          exact ⟨last, isLast, lastAdd, lastActive, stays last lastActive⟩
        · rintro ⟨last, isLast, lastAdd, lastActive, -⟩
          exact ⟨last, isLast, lastAdd, lastActive⟩

theorem tethersOk_handle (regular : run.Regular event) (ip : IpaIpType) :
    (run.handle event).TethersOk ip := by
  by_cases isOther : ip ≠ event.ip
  · exact inv.tethersOk_other isOther
  rw [not_ne_iff] at isOther
  subst isOther
  cases isAdd : event.isAdd with
  | true => exact inv.tethersOk_add isAdd regular
  | false => exact inv.tethersOk_del isAdd regular

theorem regular_of_tethersOk (next : (run.handle event).TethersOk event.ip) :
    run.Regular event := by
  have ok := inv.tethers event.ip
  cases isAdd : event.isAdd with
  | false =>
      refine (regular_del isAdd).mpr ?_
      intro inactive mem
      rw [← inv.tethers_del_inactive isAdd inactive] at mem
      rcases (next.mem_iff _).mp mem with ⟨last, isLast, lastAdd, -⟩
      rw [lastEvent_handle, if_pos ⟨rfl, rfl⟩, Option.mem_some_iff] at isLast
      subst isLast
      cases isAdd.symm.trans lastAdd
  | true =>
      refine (inv.regular_add isAdd).mpr ⟨?_, ?_⟩
      · intro upstream active
        by_contra notOwn
        -- An interface that was added to the other upstream stays in the list.
        rcases exists_mem_of_ne_nil _ (inv.nonempty _ _ active) with ⟨tether, mem⟩
        rcases (ok.mem_iff tether).mp mem with ⟨first, isFirst, -, firstActive⟩
        have isUpstream := inv.one _ _ _ firstActive active
        by_cases has : ∃ inst ∈ run.system.insts, inst.ipaIfNum = event.ipaIfNum ∧
            inst.hasIp event.ip = true
        · have tethers := inv.tethers_add isAdd has
          have nodup := next.nodup
          rw [tethers, nodup_append] at nodup
          have isNew : event.ipaIfNumTether ≠ tether := by
            intro same
            exact nodup.2.2 tether mem event.ipaIfNumTether (by simp) same.symm
          have inList : tether ∈ (run.handle event).system.tethers event.ip := by
            rw [tethers]
            exact mem_append_left _ mem
          rcases (next.mem_iff tether).mp inList with ⟨last, isLast, -, lastActive⟩
          rw [lastEvent_handle, if_neg fun same => isNew same.2] at isLast
          cases Option.mem_unique isLast isFirst
          exact notOwn (isUpstream.symm.trans ((inv.active_add isAdd).mp lastActive).1)
        · have inList := mem
          rw [← inv.notListed_of_notHas isAdd has] at inList
          rcases (next.mem_iff tether).mp inList with ⟨last, -, -, lastActive⟩
          rcases (inv.active_add isAdd).mp lastActive with
            ⟨isOwn, was | ⟨inst, instMem, instOwn, hasIp, -⟩⟩
          · rw [isOwn] at was
            exact notOwn (inv.one _ _ _ active was)
          · exact has ⟨inst, instMem, instOwn, hasIp⟩
      · intro has
        have tethers := inv.tethers_add isAdd has
        have bounded := next.bounded
        have nodup := next.nodup
        rw [tethers, length_append, length_singleton] at bounded
        rw [tethers, nodup_append] at nodup
        refine ⟨?_, ?_, by omega⟩
        · have inList : event.ipaIfNumTether ∈ (run.handle event).system.tethers event.ip := by
            rw [tethers]
            exact mem_append_right _ mem_cons_self
          rcases (next.mem_iff _).mp inList with ⟨last, isLast, -, active⟩
          rw [lastEvent_handle, if_pos ⟨rfl, rfl⟩, Option.mem_some_iff] at isLast
          subst isLast
          rcases (inv.active_add isAdd).mp active with ⟨-, ⟨inst, mem, isOwn, isActive⟩ | able⟩
          · exact ⟨inst, mem, isOwn, inv.able inst mem event.ip isActive⟩
          · exact able
        · intro mem
          exact nodup.2.2 _ mem event.ipaIfNumTether (by simp) rfl

theorem tethersOk_handle_iff (event : UpstreamEvent) :
    (∀ ip, (run.handle event).TethersOk ip) ↔ run.Regular event :=
  ⟨fun next => inv.regular_of_tethersOk (next event.ip), inv.tethersOk_handle⟩

theorem added_handle (regular : run.Regular event) (ip : IpaIpType) (ipaIfNumTether : ℕ)
    (last : UpstreamEvent) (isLast : last ∈ (run.handle event).lastEvent ip ipaIfNumTether)
    (lastAdd : last.isAdd = true)
    (has : ∃ inst ∈ run.system.insts, inst.ipaIfNum = last.ipaIfNum ∧ inst.hasIp ip = true) :
    (run.handle event).system.Active ip last.ipaIfNum := by
  rw [lastEvent_handle] at isLast
  split_ifs at isLast with isEvent
  · rcases isEvent with ⟨rfl, rfl⟩
    cases Option.mem_some_iff.mp isLast
    exact (inv.active_add lastAdd).mpr ⟨rfl, .inr (((inv.regular_add lastAdd).mp regular).2 has).1⟩
  have active := inv.added ip ipaIfNumTether last isLast lastAdd has
  by_cases isOther : ip ≠ event.ip
  · exact (active_handle_other inv.nodup isOther).mpr active
  rw [not_ne_iff] at isOther
  subst isOther
  cases isAdd : event.isAdd with
  | true =>
      exact (inv.active_add isAdd).mpr
        ⟨((inv.regular_add isAdd).mp regular).1 last.ipaIfNum active, .inl active⟩
  | false =>
      refine (inv.active_del isAdd).mpr ⟨active, ?_⟩
      rintro ⟨-, left⟩
      have mem := ((inv.tethers event.ip).mem_iff ipaIfNumTether).mpr
        ⟨last, isLast, lastAdd, active⟩
      have notEvent : ipaIfNumTether ≠ event.ipaIfNumTether :=
        fun same => isEvent ⟨rfl, same.symm⟩
      have isLeft := (mem_erase_of_ne notEvent).mpr mem
      rw [left] at isLeft
      exact not_mem_nil isLeft

theorem one_handle (ip : IpaIpType) (first second : ℕ)
    (isFirst : (run.handle event).system.Active ip first)
    (isSecond : (run.handle event).system.Active ip second) : first = second := by
  by_cases isOther : ip ≠ event.ip
  · rw [active_handle_other inv.nodup isOther] at isFirst isSecond
    exact inv.one ip first second isFirst isSecond
  rw [not_ne_iff] at isOther
  subst isOther
  cases isAdd : event.isAdd with
  | true =>
      exact ((inv.active_add isAdd).mp isFirst).1.trans ((inv.active_add isAdd).mp isSecond).1.symm
  | false =>
      exact inv.one _ _ _ ((inv.active_del isAdd).mp isFirst).1
        ((inv.active_del isAdd).mp isSecond).1

theorem nonempty_handle (ip : IpaIpType) (ipaIfNum : ℕ)
    (active : (run.handle event).system.Active ip ipaIfNum) :
    (run.handle event).system.tethers ip ≠ [] := by
  by_cases isOther : ip ≠ event.ip
  · rw [active_handle_other inv.nodup isOther] at active
    rw [tethers_handle_other inv.nodup isOther]
    exact inv.nonempty ip ipaIfNum active
  rw [not_ne_iff] at isOther
  subst isOther
  cases isAdd : event.isAdd with
  | true =>
      by_cases has : ∃ inst ∈ run.system.insts, inst.ipaIfNum = event.ipaIfNum ∧
          inst.hasIp event.ip = true
      · rw [inv.tethers_add isAdd has]
        exact append_ne_nil_of_right_ne_nil _ (cons_ne_nil _ _)
      · rw [inv.notListed_of_notHas isAdd has]
        rcases (inv.active_add isAdd).mp active with ⟨-, was | ⟨inst, mem, isOwn, hasIp, -⟩⟩
        · exact inv.nonempty _ ipaIfNum was
        · exact absurd ⟨inst, mem, isOwn, hasIp⟩ has
  | false =>
      rcases (inv.active_del isAdd).mp active with ⟨was, stays⟩
      by_cases own : run.system.Active event.ip event.ipaIfNum
      · rw [inv.tethers_del isAdd own]
        exact fun left => stays ⟨inv.one _ _ _ was own, left⟩
      · rw [inv.tethers_del_inactive isAdd own]
        exact inv.nonempty _ ipaIfNum was

theorem handle (regular : run.Regular event) : (run.handle event).RunInv where
  nodup := by
    rw [(WanSystem.forall_setActive (handle_spec inv.nodup event).1).1]
    exact inv.nodup
  able := inv.able_handle
  one := inv.one_handle
  nonempty := inv.nonempty_handle
  added ip ipaIfNumTether last isLast lastAdd has :=
    inv.added_handle regular ip ipaIfNumTether last isLast lastAdd
      (inv.has_handle ip last.ipaIfNum has)
  tethers := inv.tethersOk_handle regular

end RunInv

theorem IsInit.runInv (isInit : run.IsInit) : run.RunInv := by
  have inactive (ip : IpaIpType) (ipaIfNum : ℕ) : ¬run.system.Active ip ipaIfNum := by
    rintro ⟨inst, mem, -, active⟩
    rw [isInit.inactive inst mem] at active
    cases active
  have noLast (ip : IpaIpType) (ipaIfNumTether : ℕ) : run.lastEvent ip ipaIfNumTether = none := by
    rw [lastEvent, isInit.noEvent, find?_nil]
  have isNil (ip : IpaIpType) : run.system.tethers ip = [] := by
    rw [WanSystem.tethers, isInit.noTether]
  refine ⟨isInit.nodup, ?_, ?_, ?_, ?_, ?_⟩
  · intro inst mem ip active
    exact absurd ⟨inst, mem, rfl, active⟩ (inactive ip inst.ipaIfNum)
  · exact fun ip first _ active => absurd active (inactive ip first)
  · exact fun ip ipaIfNum active => absurd active (inactive ip ipaIfNum)
  · intro ip ipaIfNumTether event isLast
    rw [noLast] at isLast
    cases isLast
  · intro ip
    refine ⟨by simp [isNil], by simp [isNil], ?_⟩
    simp [isNil, noLast]

theorem reachable_runInv
    (reached : Run.Reachable IsInit (Run.Guarded Regular Step) run) : run.RunInv := by
  apply reached.invariant RunInv
  · exact fun run isInit => isInit.runInv
  · rintro run event _ inv ⟨regular, rfl⟩
    exact inv.handle regular

section Histories

def modemAndStation : TetherRun :=
  ⟨WanSystem.systemOf [WanSystem.instOf 0 .q6Wan false, WanSystem.instOf 1 .wlanWan false], []⟩

theorem modemAndStation_isInit : modemAndStation.IsInit := by
  refine ⟨by decide, ?_, rfl, rfl⟩
  intro inst mem
  rcases mem_pair.mp mem with rfl | rfl <;> rfl

def tethered : TetherRun :=
  ((((modemAndStation.handle ⟨true, 0, .v4, 5⟩).handle ⟨true, 0, .v4, 6⟩).handle
    ⟨false, 0, .v4, 5⟩).handle ⟨false, 0, .v4, 6⟩).handle ⟨true, 1, .v4, 6⟩

end Histories

end TetherRun

end HtcPme.Ipacm
