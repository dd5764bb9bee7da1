import HtcPme.Ipacm.StaRoutesTable

/-!
# Events that add and delete routing rules

Every event but a switch of the mode leaves rules that are as they would be added afresh.
-/

namespace HtcPme.Ipacm

open Function

namespace StaRoutes

variable {μ : Type*} {sta : StaRoutes μ} {source : HandleSource} {ip : IpaIpType}

structure RunOk (sta : StaRoutes μ) : Prop where
  table : TableOk sta
  rulesOk : RulesOk sta

theorem nodup_indices (iface : StaRtIface μ) (ip : IpaIpType) : (iface.indices ip).Nodup :=
  List.nodup_range.filter _

variable {slot : WanRtSlot} {after : StaRoutes μ}

theorem mem_routeSlots : slot ∈ sta.routeSlots ip ↔
    (∃ txIndex ∈ sta.iface.indices ip, .dft ip txIndex = slot) ∨ ip = .v6 ∧ slot = .dftA5 := by
  rw [routeSlots, List.mem_append, List.mem_map]
  split <;> simp [*]

theorem nodup_routeSlots : (sta.routeSlots ip).Nodup := by
  have isDft : ((sta.iface.indices ip).map (WanRtSlot.dft ip)).Nodup := by
    apply (nodup_indices _ ip).map
    intro txIndex txIndex' same
    simpa using same
  rw [routeSlots]
  split
  · apply isDft.append (List.nodup_singleton _)
    intro slot inDft isA5
    cases List.mem_singleton.mp isA5
    rcases List.mem_map.mp inDft with ⟨_, -, same⟩
    cases same
  · simpa using isDft

theorem not_isClient_of_mem_routeSlots (isIn : slot ∈ sta.routeSlots ip) :
    ¬slot.IsClient := by
  rcases mem_routeSlots.mp isIn with ⟨_, -, rfl⟩ | ⟨-, rfl⟩ <;> exact id

/-- The default route of one IP type is taken up or given up. -/
theorem live_of_update (value : Bool) (iface : after.iface = sta.iface)
    (active : after.active = update sta.active ip value)
    (wanClient : after.wanClient = sta.wanClient) (num : after.numWanClient = sta.numWanClient)
    (slot : WanRtSlot) : after.Live slot ↔
      if value then sta.Live slot ∨ slot ∈ sta.routeSlots ip
      else sta.Live slot ∧ slot ∉ sta.routeSlots ip := by
  rw [mem_routeSlots]
  cases slot with
  | dft ip' txIndex =>
      simp only [Live, active, iface]
      by_cases same : ip' = ip
      · subst same
        cases value <;> simp
      · simp [same, Ne.symm same]
  | dftA5 =>
      simp only [Live, active]
      by_cases same : ip = .v6
      · subst same
        cases value <;> simp
      · simp [same, Ne.symm same]
  | clientV4 cltIndx txIndex => simp [Live, iface, wanClient, num]
  | clientV6 cltIndx txIndex numV6 | clientV6Wan cltIndx txIndex numV6 =>
      simp [Live, iface, wanClient, num]

theorem RunOk.handleRouteAddEvt (isOk : RunOk sta) (ip : IpaIpType) :
    RunOk (sta.handleRouteAddEvt source ip) := by
  cases hasTx : sta.iface.hasTxProp with
  | false => simpa [StaRoutes.handleRouteAddEvt, hasTx] using isOk
  | true =>
      let opened : StaRoutes μ := { sta with isDefaultGateway := true, backhaulIsStaMode := true }
      have isOpened : RunOk opened :=
        ⟨isOk.table.kept rfl rfl (fun _ => Iff.rfl) (fun _ => id) rfl isOk.table.setV4
          isOk.table.setV6, isOk.rulesOk.kept rfl fun _ _ => rfl⟩
      cases isSet : sta.headerSet ip with
      | false =>
          have isAfter : sta.handleRouteAddEvt source ip =
              { opened with headerPartial := update sta.headerPartial ip true } := by
            simp [StaRoutes.handleRouteAddEvt, hasTx, isSet, opened]
          rw [isAfter]
          exact ⟨isOpened.table.kept rfl rfl (fun _ => Iff.rfl) (fun _ => id) rfl isOk.table.setV4
            isOk.table.setV6, isOpened.rulesOk.kept rfl fun _ _ => rfl⟩
      | true =>
          have isAfter : sta.handleRouteAddEvt source ip =
              { opened.addRules source (opened.routeSlots ip) with
                active := update sta.active ip true } := by
            simp [StaRoutes.handleRouteAddEvt, hasTx, isSet, opened]
          rw [isAfter]
          have headers : ∀ ip', update sta.active ip true ip' = true →
              sta.headerSet ip' = true := by
            intro ip' isActive
            by_cases same : ip' = ip
            · rwa [same]
            · rw [update_of_ne same] at isActive
              exact isOk.table.activeHeader ip' isActive
          constructor
          · refine isOpened.table.added nodup_routeSlots rfl rfl ?_ ?_ ?_ ?_ ?_ ?_ ?_
            · exact live_of_update true (by simp) rfl (by simp) (by simp)
            · exact fun slot isIn isClient => absurd isClient (not_isClient_of_mem_routeSlots isIn)
            · intro ip' txIndex isIn
              rcases mem_routeSlots.mp isIn with ⟨_, -, same⟩ | ⟨-, same⟩
              · cases same
                simpa [opened] using isSet
              · cases same
            · simp [opened]
            · simpa [opened] using headers
            · simpa [opened] using isOk.table.setV4
            · simpa [opened] using isOk.table.setV6
          · exact isOpened.rulesOk.added nodup_routeSlots rfl fun slot => spec_addRules slot

theorem live_of_mem_routeSlots (sta : StaRoutes μ) (isActive : sta.active ip = true)
    (isIn : slot ∈ sta.routeSlots ip) : sta.Live slot := by
  rcases mem_routeSlots.mp isIn with ⟨txIndex, isTx, rfl⟩ | ⟨rfl, rfl⟩
  · exact ⟨isActive, isTx⟩
  · exact isActive

theorem RunOk.handleRouteDelEvt (isOk : RunOk sta) (ip : IpaIpType) :
    RunOk (sta.handleRouteDelEvt ip) := by
  cases hasTx : sta.iface.hasTxProp with
  | false => simpa [StaRoutes.handleRouteDelEvt, hasTx] using isOk
  | true =>
      let closed : StaRoutes μ := { sta with isDefaultGateway := false }
      have isClosed : RunOk closed :=
        ⟨isOk.table.kept rfl rfl (fun _ => Iff.rfl) (fun _ => id) rfl isOk.table.setV4
          isOk.table.setV6, isOk.rulesOk.kept rfl fun _ _ => rfl⟩
      cases isActive : sta.active ip with
      | false =>
          have isAfter : sta.handleRouteDelEvt ip = closed := by
            simp [StaRoutes.handleRouteDelEvt, hasTx, isActive, closed]
          rw [isAfter]
          exact isClosed
      | true =>
          have isAfter : sta.handleRouteDelEvt ip =
              { closed.deleteRules (closed.routeSlots ip) with
                active := update sta.active ip false } := by
            simp only [StaRoutes.handleRouteDelEvt, hasTx, isActive, if_true]
            rfl
          rw [isAfter]
          constructor
          · refine isClosed.table.deleted
              (fun slot isIn => closed.live_of_mem_routeSlots isActive isIn) rfl rfl
              (live_of_update false rfl rfl rfl rfl) rfl ?_ isOk.table.setV4 isOk.table.setV6
            intro ip' isActive'
            by_cases same : ip' = ip
            · rw [same]
              exact isActive
            · simpa [same] using isActive'
          · intro entry isEntry
            exact isClosed.rulesOk entry (mem_of_deleteRules isEntry).1

def NoDft (sta : StaRoutes μ) : Prop :=
  ∀ entry ∈ sta.kernel.rules, ∀ ip txIndex, entry.2.slot ≠ .dft ip txIndex

theorem RunOk.setHeader (isOk : RunOk sta) (noDft : NoDft sta) (ip : IpaIpType) (cltIndx : ℕ) :
    RunOk (sta.setHeader ip cltIndx) := by
  constructor
  · refine isOk.table.kept rfl rfl (fun _ => Iff.rfl) ?_ rfl isOk.table.setV4 isOk.table.setV6
    intro ip' isSet
    by_cases same : ip' = ip
    · simp [StaRoutes.setHeader, same]
    · simpa [StaRoutes.setHeader, same] using isSet
  · refine isOk.rulesOk.kept rfl ?_
    intro entry isEntry
    cases isSlot : entry.2.slot with
    | dft ip' txIndex => exact absurd isSlot (noDft entry isEntry ip' txIndex)
    | dftA5 | clientV4 _ _ | clientV6 _ _ _ | clientV6Wan _ _ _ => rfl

theorem RunOk.takeHeaders (isOk : RunOk sta) (noDft : NoDft sta) (ip : IpaIpType) :
    RunOk (sta.takeHeaders ip).2 ∧ NoDft (sta.takeHeaders ip).2 := by
  rw [StaRoutes.takeHeaders]
  split
  · exact ⟨isOk, noDft⟩
  · split
    · exact ⟨isOk, noDft⟩
    · rename_i cltIndx _
      have isOwn := isOk.setHeader noDft ip cltIndx
      split
      · split
        · exact ⟨isOwn.setHeader noDft ip.other cltIndx, noDft⟩
        · exact ⟨isOwn, noDft⟩
      · exact ⟨isOk, noDft⟩

theorem RunOk.addPending (isOk : RunOk sta) (ip : IpaIpType) :
    RunOk (sta.addPending source ip) := by
  rw [StaRoutes.addPending]
  split
  · exact isOk.handleRouteAddEvt ip
  · exact isOk

theorem TableOk.noDft (isOk : TableOk sta) (isV4 : sta.headerSet .v4 = false)
    (isV6 : sta.headerSet .v6 = false) : NoDft sta := by
  intro entry isEntry ip txIndex isDft
  have isSet := isOk.dftHeader entry isEntry ip txIndex isDft
  cases ip with
  | v4 => exact absurd isSet (by simp [isV4])
  | v6 => exact absurd isSet (by simp [isV6])

variable (isOk : RunOk sta)

include isOk

theorem RunOk.handleStaHeaderAddEvt :
    RunOk (sta.handleStaHeaderAddEvt source) := by
  rw [StaRoutes.handleStaHeaderAddEvt]
  split
  · exact isOk
  · rename_i notSet
    simp only [Bool.or_eq_true, not_or, Bool.not_eq_true] at notSet
    have noDft := isOk.table.noDft notSet.1 notSet.2
    rcases isOk.takeHeaders noDft .v4 with ⟨isOkV4, noDftV4⟩
    have isOkV6 := (isOkV4.takeHeaders noDftV4 .v6).1
    dsimp only
    split
    · split
      · exact (isOkV6.addPending .v4).addPending .v6
      · exact isOkV6
    · exact isOkV4

theorem RunOk.routeAdd (gateway : IpAddr) :
    RunOk (sta.routeAdd source gateway) := by
  rw [StaRoutes.routeAdd]
  split
  · apply RunOk.handleRouteAddEvt
    apply RunOk.handleStaHeaderAddEvt
    exact ⟨isOk.table.kept rfl rfl (fun _ => Iff.rfl) (fun _ => id) rfl isOk.table.setV4
      isOk.table.setV6, isOk.rulesOk.kept rfl fun _ _ => rfl⟩
  · exact isOk

theorem RunOk.upstreamRouteAdd (ip : IpaIpType) :
    RunOk (sta.upstreamRouteAdd source ip) := by
  rw [StaRoutes.upstreamRouteAdd]
  split
  · exact isOk.handleRouteAddEvt ip
  · exact isOk

theorem RunOk.routeDel (forgets : Bool) (ip : IpaIpType) :
    RunOk (sta.routeDel forgets ip) := by
  rw [StaRoutes.routeDel]
  split
  · apply RunOk.handleRouteDelEvt
    exact ⟨isOk.table.kept rfl rfl (fun _ => Iff.rfl) (fun _ => id) rfl isOk.table.setV4
      isOk.table.setV6, isOk.rulesOk.kept rfl fun _ _ => rfl⟩
  · exact isOk

end StaRoutes

end HtcPme.Ipacm
