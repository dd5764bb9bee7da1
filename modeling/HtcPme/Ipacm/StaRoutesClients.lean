import HtcPme.Ipacm.StaRoutesEvents

/-!
# Neighbours of a WAN interface in STA mode

A neighbour becomes a client, gets an address, and has rules added for it.
-/

namespace HtcPme.Ipacm

open List Function

def WanRtSlot.cltIndx : WanRtSlot → Option ℕ
  | dft _ _ | dftA5 => none
  | clientV4 cltIndx _ | clientV6 cltIndx _ _ | clientV6Wan cltIndx _ _ => some cltIndx

namespace StaRoutes

variable {μ : Type*} {sta : StaRoutes μ} {source : HandleSource} {cltIndx : ℕ}
  {set : IpaWanClient μ → IpaWanClient μ} {slot : WanRtSlot}

theorem wanClient_setClient (sta : StaRoutes μ) (cltIndx : ℕ)
    (set : IpaWanClient μ → IpaWanClient μ) :
    (sta.setClient cltIndx set).wanClient cltIndx = set (sta.wanClient cltIndx) :=
  update_self ..

theorem wanClient_setClient_of_ne {other : ℕ} (differs : other ≠ cltIndx) :
    (sta.setClient cltIndx set).wanClient other = sta.wanClient other :=
  update_of_ne differs ..

theorem spec_setClient (notOwn : slot.cltIndx ≠ some cltIndx) :
    (sta.setClient cltIndx set).spec slot = sta.spec slot := by
  cases slot with
  | dft _ _ | dftA5 => rfl
  | clientV4 other _ | clientV6 other _ _ | clientV6Wan other _ _ =>
      have differs : other ≠ cltIndx := fun same => notOwn (congrArg some same)
      simp only [spec, wanClient_setClient_of_ne differs]
      rfl

theorem live_setClient (notOwn : slot.cltIndx ≠ some cltIndx) :
    (sta.setClient cltIndx set).Live slot ↔ sta.Live slot := by
  cases slot with
  | dft _ _ | dftA5 => rfl
  | clientV4 other _ | clientV6 other _ _ | clientV6Wan other _ _ =>
      have differs : other ≠ cltIndx := fun same => notOwn (congrArg some same)
      simp only [Live, wanClient_setClient_of_ne differs]
      rfl

theorem lt_of_live (isLive : sta.Live slot) (isOwn : slot.cltIndx = some cltIndx) :
    cltIndx < sta.numWanClient := by
  cases slot with
  | dft _ _ | dftA5 => cases isOwn
  | clientV4 _ _ | clientV6 _ _ _ | clientV6Wan _ _ _ =>
      cases isOwn
      exact isLive.1

theorem isClient_of_cltIndx (isOwn : slot.cltIndx = some cltIndx) : slot.IsClient := by
  cases slot with
  | dft _ _ | dftA5 => cases isOwn
  | clientV4 _ _ | clientV6 _ _ _ | clientV6Wan _ _ _ => trivial

theorem RunOk.setClient_of_le (isOk : RunOk sta) (isOut : sta.numWanClient ≤ cltIndx)
    (set : IpaWanClient μ → IpaWanClient μ) : RunOk (sta.setClient cltIndx set) := by
  have others (other : ℕ) (isIn : other < sta.numWanClient) :
      (sta.setClient cltIndx set).wanClient other = sta.wanClient other :=
    wanClient_setClient_of_ne (by omega)
  constructor
  · refine isOk.table.kept rfl rfl ?_ (fun _ => id) rfl ?_ ?_
    · intro slot
      by_cases isOwn : slot.cltIndx = some cltIndx
      · constructor
        · intro isLive
          have isIn : cltIndx < (sta.setClient cltIndx set).numWanClient := lt_of_live isLive isOwn
          change cltIndx < sta.numWanClient at isIn
          omega
        · intro isLive
          have isIn := lt_of_live isLive isOwn
          omega
      · exact live_setClient isOwn
    · intro other isIn
      rw [others other isIn]
      exact isOk.table.setV4 other isIn
    · intro other isIn
      rw [others other isIn]
      exact isOk.table.setV6 other isIn
  · refine isOk.rulesOk.kept rfl ?_
    intro entry isEntry
    apply spec_setClient
    intro isOwn
    have isLive := (isOk.table.client entry isEntry (isClient_of_cltIndx isOwn)).1
    have isIn := lt_of_live isLive isOwn
    omega

structure Extends (client client' : IpaWanClient μ) : Prop where
  routeRuleSetV4 : client'.routeRuleSetV4 = client.routeRuleSetV4
  routeRuleSetV6 : client'.routeRuleSetV6 = client.routeRuleSetV6
  hdrHdl : client'.hdrHdl = client.hdrHdl
  v4Addr : client.routeRuleSetV4 = true → client'.v4Addr = client.v4Addr
  v6Addr : ∀ numV6 < client.routeRuleSetV6, client'.v6Addr numV6 = client.v6Addr numV6
  ipv4Set : client.ipv4Set = true → client'.ipv4Set = true
  ipv6Set : client.ipv6Set ≤ client'.ipv6Set

theorem RunOk.setClient (isOk : RunOk sta)
    (extension : Extends (sta.wanClient cltIndx) (set (sta.wanClient cltIndx))) :
    RunOk (sta.setClient cltIndx set) := by
  have own := sta.wanClient_setClient cltIndx set
  constructor
  · refine isOk.table.kept rfl rfl ?_ (fun _ => id) rfl ?_ ?_
    · intro slot
      by_cases isOwn : slot.cltIndx = some cltIndx
      · cases slot with
        | dft _ _ | dftA5 => rfl
        | clientV4 _ _ =>
            cases isOwn
            simp only [Live, own, extension.routeRuleSetV4]
            rfl
        | clientV6 _ _ _ | clientV6Wan _ _ _ =>
            cases isOwn
            simp only [Live, own, extension.routeRuleSetV6]
            rfl
      · exact live_setClient isOwn
    · intro other isIn
      by_cases same : other = cltIndx
      · subst same
        rw [own, extension.routeRuleSetV4]
        exact fun isSet => extension.ipv4Set (isOk.table.setV4 other isIn isSet)
      · rw [wanClient_setClient_of_ne same]
        exact isOk.table.setV4 other isIn
    · intro other isIn
      by_cases same : other = cltIndx
      · subst same
        rw [own, extension.routeRuleSetV6]
        exact (isOk.table.setV6 other isIn).trans extension.ipv6Set
      · rw [wanClient_setClient_of_ne same]
        exact isOk.table.setV6 other isIn
  · refine isOk.rulesOk.kept rfl ?_
    intro entry isEntry
    by_cases isOwn : entry.2.slot.cltIndx = some cltIndx
    · have isLive := (isOk.table.client entry isEntry (isClient_of_cltIndx isOwn)).1
      cases isSlot : entry.2.slot with
      | dft _ _ | dftA5 => rfl
      | clientV4 _ _ =>
          rw [isSlot] at isOwn isLive
          cases isOwn
          simp only [spec, own, extension.hdrHdl, extension.v4Addr isLive.2.1]
          rfl
      | clientV6 _ _ _ | clientV6Wan _ _ _ =>
          rw [isSlot] at isOwn isLive
          cases isOwn
          simp only [spec, own, extension.hdrHdl, extension.v6Addr _ isLive.2.1]
          rfl
    · exact spec_setClient isOwn

theorem RunOk.addClient (isOk : RunOk sta)
    (noV4 : (sta.wanClient sta.numWanClient).routeRuleSetV4 = false)
    (noV6 : (sta.wanClient sta.numWanClient).routeRuleSetV6 = 0) :
    RunOk { sta with numWanClient := sta.numWanClient + 1 } := by
  constructor
  · refine isOk.table.kept rfl rfl ?_ (fun _ => id) rfl ?_ ?_
    · intro slot
      cases slot with
      | dft _ _ | dftA5 => rfl
      | clientV4 other _ =>
          by_cases same : other = sta.numWanClient
          · subst same
            simp [Live, noV4]
          · simp only [Live, Nat.lt_succ_iff_lt_or_eq, same, or_false]
      | clientV6 other _ _ | clientV6Wan other _ _ =>
          by_cases same : other = sta.numWanClient
          · subst same
            simp [Live, noV6]
          · simp only [Live, Nat.lt_succ_iff_lt_or_eq, same, or_false]
    · intro other isIn isSet
      rcases Nat.lt_succ_iff_lt_or_eq.mp isIn with isOld | rfl
      · exact isOk.table.setV4 other isOld isSet
      · exact absurd isSet (by simp [noV4])
    · intro other isIn
      rcases Nat.lt_succ_iff_lt_or_eq.mp isIn with isOld | rfl
      · exact isOk.table.setV6 other isOld
      · simp [noV6]
  · exact isOk.rulesOk.kept rfl fun _ _ => rfl

theorem spec_setClient_of_same
    (hdrHdl : (set (sta.wanClient cltIndx)).hdrHdl = (sta.wanClient cltIndx).hdrHdl)
    (v4Addr : (set (sta.wanClient cltIndx)).v4Addr = (sta.wanClient cltIndx).v4Addr)
    (v6Addr : (set (sta.wanClient cltIndx)).v6Addr = (sta.wanClient cltIndx).v6Addr)
    (slot : WanRtSlot) : (sta.setClient cltIndx set).spec slot = sta.spec slot := by
  by_cases isOwn : slot.cltIndx = some cltIndx
  · have own := sta.wanClient_setClient cltIndx set
    cases slot with
    | dft _ _ | dftA5 => rfl
    | clientV4 _ _ | clientV6 _ _ _ | clientV6Wan _ _ _ =>
        cases isOwn
        simp only [spec, own, hdrHdl, v4Addr, v6Addr]
        rfl
  · exact spec_setClient isOwn

theorem mem_clientV4Slots : slot ∈ sta.clientV4Slots cltIndx ↔
    ∃ txIndex ∈ sta.iface.indices .v4, .clientV4 cltIndx txIndex = slot := by
  rw [clientV4Slots, mem_map]

theorem nodup_clientV4Slots : (sta.clientV4Slots cltIndx).Nodup := by
  apply (nodup_indices _ .v4).map
  intro txIndex txIndex' same
  simpa using same

theorem cltIndx_of_mem_clientV4Slots (isSlot : slot ∈ sta.clientV4Slots cltIndx) :
    slot.cltIndx = some cltIndx := by
  rcases mem_clientV4Slots.mp isSlot with ⟨_, -, rfl⟩
  rfl

theorem live_setV4 (sta : StaRoutes μ) (isIn : cltIndx < sta.numWanClient) (slot : WanRtSlot) :
    (sta.setClient cltIndx fun client => { client with routeRuleSetV4 := true }).Live slot ↔
      sta.Live slot ∨ slot ∈ sta.clientV4Slots cltIndx := by
  by_cases isOwn : slot.cltIndx = some cltIndx
  · cases slot with
    | dft _ _ | dftA5 => cases isOwn
    | clientV4 _ _ | clientV6 _ _ _ | clientV6Wan _ _ _ =>
        cases isOwn
        simp [Live, mem_clientV4Slots, setClient, isIn]
  · rw [live_setClient isOwn, or_iff_left fun isSlot => isOwn (cltIndx_of_mem_clientV4Slots isSlot)]

theorem live_clearV4 (isIn : cltIndx < sta.numWanClient) (slot : WanRtSlot) :
    (sta.setClient cltIndx fun client => { client with routeRuleSetV4 := false }).Live slot ↔
      sta.Live slot ∧ slot ∉ sta.clientV4Slots cltIndx := by
  by_cases isOwn : slot.cltIndx = some cltIndx
  · cases slot with
    | dft _ _ | dftA5 => cases isOwn
    | clientV4 _ _ | clientV6 _ _ _ | clientV6Wan _ _ _ =>
        cases isOwn
        simp [Live, mem_clientV4Slots, setClient, isIn]
  · rw [live_setClient isOwn, and_iff_left fun isSlot =>
      isOwn (cltIndx_of_mem_clientV4Slots isSlot)]

variable {client : IpaWanClient μ} {first count : ℕ}

theorem TableOk.setV4_update (isOk : TableOk sta) (cltIndx : ℕ)
    (own : client.routeRuleSetV4 = true → client.ipv4Set = true) :
    ∀ other < sta.numWanClient, (update sta.wanClient cltIndx client other).routeRuleSetV4 = true →
        (update sta.wanClient cltIndx client other).ipv4Set = true := by
  intro other isIn
  by_cases same : other = cltIndx
  · rw [same, update_self]
    exact own
  · rw [update_of_ne same]
    exact isOk.setV4 other isIn

theorem TableOk.setV6_update (isOk : TableOk sta) (cltIndx : ℕ)
    (own : client.routeRuleSetV6 ≤ client.ipv6Set) :
    ∀ other < sta.numWanClient, (update sta.wanClient cltIndx client other).routeRuleSetV6 ≤
        (update sta.wanClient cltIndx client other).ipv6Set := by
  intro other isIn
  by_cases same : other = cltIndx
  · rw [same, update_self]
    exact own
  · rw [update_of_ne same]
    exact isOk.setV6 other isIn

theorem RunOk.deleteWanRtrulesV4 (isOk : RunOk sta) (isIn : cltIndx < sta.numWanClient) :
    RunOk (sta.deleteWanRtrulesV4 cltIndx) := by
  rw [StaRoutes.deleteWanRtrulesV4]
  split
  · rename_i isSet
    have isLive : ∀ slot ∈ sta.clientV4Slots cltIndx, sta.Live slot := by
      intro slot isSlot
      rcases mem_clientV4Slots.mp isSlot with ⟨txIndex, isTx, rfl⟩
      exact ⟨isIn, isSet, isTx⟩
    constructor
    · exact isOk.table.deleted isLive rfl rfl (live_clearV4 isIn) rfl (fun _ => id)
        (isOk.table.setV4_update cltIndx fun isSet => absurd isSet (by simp))
        (isOk.table.setV6_update cltIndx (isOk.table.setV6 cltIndx isIn))
    · intro entry isEntry
      rw [rule_eq_iff.mpr (spec_setClient_of_same rfl rfl rfl _)]
      exact isOk.rulesOk entry (mem_of_deleteRules isEntry).1
  · exact isOk

theorem numWanClient_deleteWanRtrulesV4 :
    (sta.deleteWanRtrulesV4 cltIndx).numWanClient = sta.numWanClient := by
  rw [deleteWanRtrulesV4]
  split <;> rfl

theorem wanClient_deleteWanRtrulesV4 :
    (sta.deleteWanRtrulesV4 cltIndx).wanClient cltIndx =
      { sta.wanClient cltIndx with routeRuleSetV4 := false } := by
  rw [deleteWanRtrulesV4]
  split
  · exact wanClient_setClient _ _ _
  · rename_i notSet
    rw [Bool.not_eq_true] at notSet
    rw [← notSet]

theorem RunOk.handleWanClientIpaddr (isOk : RunOk sta) (isIn : cltIndx < sta.numWanClient)
    (addr : IpAddr) : RunOk (sta.handleWanClientIpaddr cltIndx addr).2 ∧
      (sta.handleWanClientIpaddr cltIndx addr).2.numWanClient = sta.numWanClient := by
  cases addr with
  | v4 addr =>
      simp only [StaRoutes.handleWanClientIpaddr]
      split
      · exact ⟨isOk, rfl⟩
      · split
        · rename_i isSet
          split
          · exact ⟨isOk, rfl⟩
          · refine ⟨?_, numWanClient_deleteWanRtrulesV4⟩
            dsimp only
            refine (isOk.deleteWanRtrulesV4 isIn).setClient ?_
            rw [wanClient_deleteWanRtrulesV4]
            exact ⟨rfl, rfl, rfl, fun isSet => absurd isSet (by simp), fun _ _ => rfl, id,
              Nat.le_refl _⟩
        · rename_i notSet
          dsimp only
          refine ⟨isOk.setClient ?_, rfl⟩
          have noRules : (sta.wanClient cltIndx).routeRuleSetV4 ≠ true :=
            fun isSet => notSet (isOk.table.setV4 cltIndx isIn isSet)
          exact ⟨rfl, rfl, rfl, fun isSet => absurd isSet noRules, fun _ _ => rfl, fun _ => rfl,
            Nat.le_refl _⟩
  | v6 addr =>
      simp only [StaRoutes.handleWanClientIpaddr]
      split
      · exact ⟨isOk, rfl⟩
      · split
        · split
          · exact ⟨isOk, rfl⟩
          · dsimp only
            refine ⟨isOk.setClient ?_, rfl⟩
            refine ⟨rfl, rfl, rfl, fun _ => rfl, ?_, id, Nat.le_succ _⟩
            intro numV6 hasRules
            have within := isOk.table.setV6 cltIndx isIn
            exact update_of_ne (by omega) _ _
        · exact ⟨isOk, rfl⟩

theorem mem_clientV6Slots : slot ∈ sta.clientV6Slots cltIndx first count ↔
    ∃ txIndex ∈ sta.iface.indices .v6, ∃ numV6, first ≤ numV6 ∧ numV6 < first + count ∧
      (slot = .clientV6 cltIndx txIndex numV6 ∨ slot = .clientV6Wan cltIndx txIndex numV6) := by
  simp [clientV6Slots, mem_range'_1, and_assoc]

theorem nodup_clientV6Slots :
    (sta.clientV6Slots cltIndx first count).Nodup := by
  apply HandleTable.nodup_pairs (nodup_indices _ .v6) nodup_range' <;> simp

def newV6Slots (sta : StaRoutes μ) (cltIndx : ℕ) : List WanRtSlot :=
  sta.clientV6Slots cltIndx (sta.wanClient cltIndx).routeRuleSetV6
    ((sta.wanClient cltIndx).ipv6Set - (sta.wanClient cltIndx).routeRuleSetV6)

theorem live_setV6 (sta : StaRoutes μ) (isIn : cltIndx < sta.numWanClient)
    (within : (sta.wanClient cltIndx).routeRuleSetV6 ≤ (sta.wanClient cltIndx).ipv6Set)
    (slot : WanRtSlot) :
    (sta.setClient cltIndx fun client => { client with routeRuleSetV6 := client.ipv6Set }).Live
        slot ↔ sta.Live slot ∨ slot ∈ sta.newV6Slots cltIndx := by
  by_cases isOwn : slot.cltIndx = some cltIndx
  · cases slot with
    | dft _ _ | dftA5 => cases isOwn
    | clientV4 _ _ =>
        cases isOwn
        simp [Live, newV6Slots, mem_clientV6Slots, setClient, isIn]
    | clientV6 _ txIndex numV6 | clientV6Wan _ txIndex numV6 =>
        cases isOwn
        simp only [Live, newV6Slots, wanClient_setClient, mem_clientV6Slots]
        constructor
        · rintro ⟨-, isSet, isTx⟩
          by_cases isOld : numV6 < (sta.wanClient cltIndx).routeRuleSetV6
          · exact .inl ⟨isIn, isOld, isTx⟩
          · exact .inr ⟨txIndex, isTx, numV6, by omega, by omega, by simp⟩
        · rintro (⟨-, isOld, isTx⟩ | ⟨txIndex', isTx, numV6', _, isNew, same⟩)
          · exact ⟨isIn, by omega, isTx⟩
          · have same : txIndex = txIndex' ∧ numV6 = numV6' := by simpa using same
            rw [same.1, same.2]
            exact ⟨isIn, by omega, isTx⟩
  · have notSlot : slot ∉ sta.newV6Slots cltIndx := by
      intro isSlot
      rcases mem_clientV6Slots.mp isSlot with ⟨_, -, _, -, -, rfl | rfl⟩ <;> exact isOwn rfl
    rw [live_setClient isOwn, or_iff_left notSlot]

theorem RunOk.addV4 (isOk : RunOk sta) (isIn : cltIndx < sta.numWanClient)
    (notSet : (sta.wanClient cltIndx).routeRuleSetV4 = false)
    (hasAddr : (sta.wanClient cltIndx).ipv4Set = true) :
    RunOk ((sta.addRules source (sta.clientV4Slots cltIndx)).setClient cltIndx fun client =>
      { client with routeRuleSetV4 := true }) := by
  let withRules : IpaWanClient μ := { sta.wanClient cltIndx with routeRuleSetV4 := true }
  constructor
  · refine isOk.table.added nodup_clientV4Slots rfl rfl ?_ ?_ ?_ ?_ ?_ ?_ ?_
    · intro slot
      have live := (sta.addRules source (sta.clientV4Slots cltIndx)).live_setV4
        (by rwa [numWanClient_addRules]) slot
      rw [live, live_addRules, clientV4Slots, iface_addRules]
      rfl
    · intro slot isSlot _ isLive
      rcases mem_clientV4Slots.mp isSlot with ⟨_, -, rfl⟩
      exact absurd isLive.2.1 (by simp [notSet])
    · intro ip txIndex isSlot
      rcases mem_clientV4Slots.mp isSlot with ⟨_, -, same⟩
      cases same
    · simp [StaRoutes.setClient]
    · simpa [StaRoutes.setClient] using isOk.table.activeHeader
    · have own : withRules.routeRuleSetV4 = true → withRules.ipv4Set = true := fun _ => hasAddr
      simpa [StaRoutes.setClient] using isOk.table.setV4_update cltIndx own
    · have own : withRules.routeRuleSetV6 ≤ withRules.ipv6Set := isOk.table.setV6 cltIndx isIn
      simpa [StaRoutes.setClient] using isOk.table.setV6_update cltIndx own
  · refine isOk.rulesOk.added nodup_clientV4Slots rfl fun slot => ?_
    exact (spec_setClient_of_same rfl rfl rfl slot).trans (spec_addRules slot)

theorem RunOk.addV6 (isOk : RunOk sta) (isIn : cltIndx < sta.numWanClient) :
    RunOk ((sta.addRules source (sta.newV6Slots cltIndx)).setClient cltIndx fun client =>
      { client with routeRuleSetV6 := client.ipv6Set }) := by
  have within := isOk.table.setV6 cltIndx isIn
  let withRules : IpaWanClient μ :=
    { sta.wanClient cltIndx with routeRuleSetV6 := (sta.wanClient cltIndx).ipv6Set }
  constructor
  · refine isOk.table.added nodup_clientV6Slots rfl rfl ?_ ?_ ?_ ?_ ?_ ?_ ?_
    · intro slot
      have live := (sta.addRules source (sta.newV6Slots cltIndx)).live_setV6
        (by rwa [numWanClient_addRules]) (by rwa [wanClient_addRules]) slot
      rw [live, live_addRules, newV6Slots, clientV6Slots, iface_addRules, wanClient_addRules]
      rfl
    · intro slot isSlot _ isLive
      rcases mem_clientV6Slots.mp isSlot with ⟨_, -, numV6, isNew, -, rfl | rfl⟩ <;>
        exact absurd isLive.2.1 (by omega)
    · intro ip txIndex isSlot
      rcases mem_clientV6Slots.mp isSlot with ⟨_, -, _, -, -, same | same⟩ <;> cases same
    · simp [StaRoutes.setClient]
    · simpa [StaRoutes.setClient] using isOk.table.activeHeader
    · have own : withRules.routeRuleSetV4 = true → withRules.ipv4Set = true :=
        isOk.table.setV4 cltIndx isIn
      simpa [StaRoutes.setClient] using isOk.table.setV4_update cltIndx own
    · have own : withRules.routeRuleSetV6 ≤ withRules.ipv6Set := Nat.le_refl _
      simpa [StaRoutes.setClient] using isOk.table.setV6_update cltIndx own
  · refine isOk.rulesOk.added nodup_clientV6Slots rfl fun slot => ?_
    exact (spec_setClient_of_same rfl rfl rfl slot).trans (spec_addRules slot)

theorem RunOk.handleWanClientRouteRule (isOk : RunOk sta) (isIn : cltIndx < sta.numWanClient)
    (ip : IpaIpType) : RunOk (sta.handleWanClientRouteRule source cltIndx ip) := by
  simp only [StaRoutes.handleWanClientRouteRule]
  split
  · cases ip with
    | v4 =>
        dsimp only
        split
        · rename_i toSet
          exact isOk.addV4 isIn toSet.1 toSet.2
        · exact isOk
    | v6 =>
        dsimp only
        split
        · exact isOk.addV6 isIn
        · exact isOk
  · exact isOk

variable [DecidableEq μ]

theorem RunOk.handleWanHdrInit (isOk : RunOk sta) (mac : μ) (hdrHdls : IpaIpType → ℕ) :
    RunOk (sta.handleWanHdrInit mac hdrHdls) := by
  rw [StaRoutes.handleWanHdrInit]
  split
  · exact isOk
  · split
    · exact isOk
    · dsimp only
      have isNamed := isOk.setClient_of_le (Nat.le_refl sta.numWanClient)
        fun client => { client with mac := mac }
      split
      · have isNew := isNamed.setClient_of_le (Nat.le_refl sta.numWanClient)
        apply (isNew _).addClient
        · exact congrArg IpaWanClient.routeRuleSetV4 (wanClient_setClient _ _ _)
        · exact congrArg IpaWanClient.routeRuleSetV6 (wanClient_setClient _ _ _)
      · exact isNamed

theorem lt_of_clientIndex {mac : μ} (isFound : sta.clientIndex mac = some cltIndx) :
    cltIndx < sta.numWanClient :=
  mem_range.mp (mem_of_find?_eq_some isFound)

theorem RunOk.neighAdd (isOk : RunOk sta) (mac : μ) (addr : IpAddr) (hdrHdls : IpaIpType → ℕ) :
    RunOk (sta.neighAdd source mac addr hdrHdls) := by
  rw [StaRoutes.neighAdd]
  split
  · exact isOk
  · split
    · exact isOk
    · have isInit := isOk.handleWanHdrInit mac hdrHdls
      dsimp only
      split
      · exact isInit
      · rename_i cltIndx isFound
        have isIn := lt_of_clientIndex isFound
        rcases isInit.handleWanClientIpaddr isIn addr with ⟨hasAddr, sameNum⟩
        split
        · apply RunOk.handleStaHeaderAddEvt
          apply hasAddr.handleWanClientRouteRule
          omega
        · exact hasAddr

end StaRoutes

end HtcPme.Ipacm
