import HtcPme.Ipacm.EthClientRules

/-!
# Runs of LAN client events

The table has the addresses that were added and not deleted, and the kernel their rules.
-/

namespace HtcPme.Ipacm

namespace EthClients

open Function (update update_of_ne update_self)

open IpaEthClient List

variable {μ : Type*} (clients : EthClients μ)

def listed : List (μ × List Ipv6Addr) :=
  (List.range clients.numEthClient).map fun cnt =>
    ((clients.ethClient cnt).mac, (clients.ethClient cnt).addrs)

def rules : List (ℕ × RtRule) :=
  (List.range clients.numEthClient).flatMap fun cnt =>
    (clients.ethClient cnt).clientRules clients.iface

structure EthInv : Prop where
  clientOk : ∀ cnt < clients.numEthClient, (clients.ethClient cnt).ClientOk
  within : clients.numEthClient ≤ ipaMaxNumEthClients
  ledger : clients.ledger = clients.listed
  nodup : (clients.ledger.map Prod.fst).Nodup
  rules : clients.kernel.rules.Perm clients.rules

structure IsInit : Prop where
  noClient : clients.numEthClient = 0
  kernel : clients.kernel.rules = []
  ledger : clients.ledger = []

variable {clients}

theorem IsInit.inv (isInit : clients.IsInit) : clients.EthInv where
  clientOk cnt within := by
    rw [isInit.noClient] at within
    omega
  within := by simp [isInit.noClient]
  ledger := by simp [listed, isInit.noClient, isInit.ledger]
  nodup := by simp [isInit.ledger]
  rules := by simp [rules, isInit.noClient, isInit.kernel]

variable [DecidableEq μ] {mac : μ} {cltIndx : ℕ}

theorem getEthClientIndex_spec (found : clients.getEthClientIndex mac = some cltIndx) :
    cltIndx < clients.numEthClient ∧ (clients.ethClient cltIndx).mac = mac :=
  ⟨mem_range.mp (mem_of_find?_eq_some found), by simpa using find?_some found⟩

theorem not_mem_of_getEthClientIndex (inv : clients.EthInv)
    (notFound : clients.getEthClientIndex mac = none) : mac ∉ clients.ledger.map Prod.fst := by
  rw [inv.ledger, listed, map_map]
  intro isIn
  rcases mem_map.mp isIn with ⟨cnt, inRange, same⟩
  exact absurd same (by simpa using find?_eq_none.mp notFound cnt inRange)

omit [DecidableEq μ] in
theorem mac_ne (inv : clients.EthInv) {cnt : ℕ} (within : cltIndx < clients.numEthClient)
    (within' : cnt < clients.numEthClient) (differs : cnt ≠ cltIndx) :
    (clients.ethClient cnt).mac ≠ (clients.ethClient cltIndx).mac := by
  have nodup := inv.nodup
  rw [inv.ledger, listed, map_map] at nodup
  intro same
  exact differs (inj_on_of_nodup_map nodup (mem_range.mpr within')
    (mem_range.mpr within) same)

variable {change : List Ipv6Addr → List Ipv6Addr}

variable {ledger : List (μ × List Ipv6Addr)} {uninit : ℕ} {addr : Ipv6Addr}

theorem atEntry_not_mem
    (notIn : mac ∉ ledger.map Prod.fst) : atEntry mac change ledger = ledger := by
  calc atEntry mac change ledger = ledger.map id := by
        apply map_congr_left
        intro entry isIn
        have differs : entry.1 ≠ mac := fun same => notIn (same ▸ mem_map_of_mem isIn)
        rw [if_neg differs, id]
    _ = ledger := map_id _

@[simp]
theorem atEntry_id (ledger : List (μ × List Ipv6Addr)) : atEntry mac id ledger = ledger := by
  simp [atEntry]

theorem map_fst_atEntry (change : List Ipv6Addr → List Ipv6Addr)
    (ledger : List (μ × List Ipv6Addr)) :
    (atEntry mac change ledger).map Prod.fst = ledger.map Prod.fst := by
  simp only [atEntry, map_map]
  apply map_congr_left
  intro entry _
  simp only [Function.comp_apply]
  split_ifs <;> rfl

section

variable (inv : clients.EthInv)

include inv

variable {client : IpaEthClient μ}

theorem EthInv.setClient (within : cltIndx < clients.numEthClient) {kernel : HandleTable RtRule}
    (handled : Handled clients.iface change (clients.ethClient cltIndx) clients.kernel
      (client, kernel)) :
    EthInv { clients with
        ethClient := update clients.ethClient cltIndx client
        kernel
        ledger := atEntry (clients.ethClient cltIndx).mac change clients.ledger } := by
  refine ⟨fun cnt inTable => ?_, inv.within, ?_, ?_, ?_⟩
  · by_cases same : cnt = cltIndx
    · subst same
      simpa using handled.ok
    · simpa [same] using inv.clientOk cnt inTable
  · simp only [inv.ledger, listed, atEntry, map_map]
    apply map_congr_left
    intro cnt inRange
    by_cases same : cnt = cltIndx
    · subst same
      have isMac : client.mac = (clients.ethClient cnt).mac := handled.mac
      simp [isMac, handled.addrs]
    · have other := mac_ne inv within (mem_range.mp inRange) same
      simp [same, other]
  · rw [map_fst_atEntry]
    exact inv.nodup
  · have before := inv.rules.trans (SlotShift.flatMap_range_perm
      (fun cnt => (clients.ethClient cnt).clientRules clients.iface) within)
    apply (handled.rules _ before).trans
    apply List.Perm.symm
    apply (SlotShift.flatMap_range_perm (fun cnt =>
      (update clients.ethClient cltIndx client cnt).clientRules clients.iface)
        within).trans
    apply List.Perm.of_eq
    rw [update_self]
    congr 2
    apply SlotShift.eraseIdx_map_congr
    intro cnt _ differs
    rw [update_of_ne differs]

theorem EthInv.atClient
    {handle : IpaEthClient μ → HandleTable RtRule → IpaEthClient μ × HandleTable RtRule}
    (handled : ∀ cltIndx, clients.getEthClientIndex mac = some cltIndx →
      Handled clients.iface change (clients.ethClient cltIndx) clients.kernel
        (handle (clients.ethClient cltIndx) clients.kernel)) :
    EthInv { clients.atClient mac handle with ledger := atEntry mac change clients.ledger } := by
  simp only [EthClients.atClient]
  split
  · next notFound =>
    rw [atEntry_not_mem (not_mem_of_getEthClientIndex inv notFound)]
    exact inv
  · next cltIndx found =>
    rcases getEthClientIndex_spec found with ⟨within, rfl⟩
    exact inv.setClient within (handled cltIndx found)

omit [DecidableEq μ] in
theorem EthInv.push {headers : List ℕ} (room : clients.numEthClient < ipaMaxNumEthClients)
    (isNew : client.mac ∉ clients.ledger.map Prod.fst) (noV4 : client.routeRuleSetV4 = false)
    (noRules : client.routeRuleSetV6 = 0) (noAddrs : client.ipv6Set = 0) :
    EthInv { clients with
        ethClient := update clients.ethClient clients.numEthClient client
        numEthClient := clients.numEthClient + 1
        headers
        ledger := clients.ledger ++ [(client.mac, [])] } := by
  have kept (cnt : ℕ) (inRange : cnt ∈ range clients.numEthClient) :
      update clients.ethClient clients.numEthClient client cnt = clients.ethClient cnt :=
    update_of_ne (mem_range.mp inRange).ne _ _
  have addrs : client.addrs = [] := by simp [addrs, noAddrs]
  refine ⟨fun cnt inTable => ?_, room, ?_, ?_, ?_⟩
  · rcases Nat.lt_succ_iff_lt_or_eq.mp inTable with before | rfl
    · simpa only [kept cnt (mem_range.mpr before)] using inv.clientOk cnt before
    · have ok : client.ClientOk :=
        ⟨noRules.trans noAddrs.symm, by simp [noAddrs], by simp [addrs], by simp [noV4]⟩
      simpa using ok
  · simp only [inv.ledger, listed, range_succ, map_append, map_singleton,
      update_self, addrs]
    congr 1
    apply map_congr_left
    intro cnt inRange
    rw [kept cnt inRange]
  · simpa using inv.nodup.concat isNew
  · have none : client.clientRules clients.iface = [] := by
      simp [clientRules, liveSlots, noV4, noRules, EthTx.slotsV6]
    apply inv.rules.trans
    apply List.Perm.of_eq
    simp only [EthClients.rules, range_succ, flatMap_append, flatMap_singleton,
      update_self, none, append_nil]
    apply flatMap_congr
    intro cnt inRange
    rw [kept cnt inRange]

theorem EthInv.hdrInit (hdrHdlV4 hdrHdlV6 : ℕ) :
    EthInv { clients.handleEthHdrInit mac hdrHdlV4 hdrHdlV6 with
      ledger := joinLedger mac clients.ledger } := by
  have length : clients.ledger.length = clients.numEthClient := by
    rw [inv.ledger]
    simp [listed]
  simp only [handleEthHdrInit, joinLedger, length]
  split
  · next cltIndx found =>
    rcases getEthClientIndex_spec found with ⟨within, isMac⟩
    have known : mac ∈ clients.ledger.map Prod.fst := by
      rw [inv.ledger, listed, map_map]
      exact mem_map.mpr ⟨cltIndx, mem_range.mpr within, isMac⟩
    simp only [known, true_or, if_true]
    exact inv
  · next notFound =>
    have isNew := not_mem_of_getEthClientIndex inv notFound
    by_cases full : ipaMaxNumEthClients ≤ clients.numEthClient
    · simp only [full, or_true, if_true]
      exact inv
    · simp only [isNew, full, or_self, if_false]
      exact inv.push (Nat.lt_of_not_le full) isNew rfl rfl rfl

end

theorem eraseIdx_eq_filter
    (nodup : (ledger.map Prod.fst).Nodup) {idx : ℕ} (within : idx < ledger.length) :
    ledger.eraseIdx idx = ledger.filter (·.1 ≠ ledger[idx].1) := by
  induction ledger generalizing idx with
  | nil => simp at within
  | cons first later ih =>
      simp only [map_cons, nodup_cons] at nodup
      rcases nodup with ⟨isNew, nodupLater⟩
      cases idx with
      | zero =>
          have others : later.filter (·.1 ≠ first.1) = later := by
            apply filter_eq_self.mpr
            intro entry isIn
            exact decide_eq_true fun same => isNew (same ▸ mem_map_of_mem isIn)
          simpa using others.symm
      | succ idx =>
          have inLater : idx < later.length := by simpa using within
          have differs : first.1 ≠ later[idx].1 := fun same =>
            isNew (same ▸ mem_map_of_mem (getElem_mem inLater))
          simpa [differs] using ih nodupLater inLater

omit [DecidableEq μ] in
theorem map_closedTable {β : Type*} (inv : clients.EthInv) (view : IpaEthClient μ → β)
    (copied : ∀ client next : IpaEthClient μ, next.ClientOk →
      view (client.copyFrom clients.iface.tx.length next) = view next)
    (within : cltIndx < clients.numEthClient) (client : IpaEthClient μ) :
    (range (clients.numEthClient - 1)).map (fun cnt =>
        view (SlotShift.closeUp (IpaEthClient.copyFrom clients.iface.tx.length)
          (clients.numEthClient - 1 - cltIndx) cltIndx
          (update clients.ethClient cltIndx client) cnt)) =
      ((range clients.numEthClient).map fun cnt =>
        view (clients.ethClient cnt)).eraseIdx cltIndx := by
  have sizes : clients.numEthClient - 1 + 1 = clients.numEthClient := by omega
  have isWithin : cltIndx ≤ clients.numEthClient - 1 := by omega
  have closed := SlotShift.map_closeUp (IpaEthClient.copyFrom clients.iface.tx.length) view
    (update clients.ethClient cltIndx client) isWithin fun cnt atLeast below => by
      have next : update clients.ethClient cltIndx client (cnt + 1) =
          clients.ethClient (cnt + 1) := update_of_ne (by omega) _ _
      rw [next]
      exact copied _ _ (inv.clientOk _ (by omega))
  rw [closed, sizes]
  apply SlotShift.eraseIdx_map_congr
  intro cnt _ differs
  rw [update_of_ne differs]

theorem EthInv.remove (inv : clients.EthInv) (within : cltIndx < clients.numEthClient)
    (client : IpaEthClient μ) {kernel : HandleTable RtRule} {headers : List ℕ}
    (deleted : ∀ rest, clients.kernel.rules.Perm
        ((clients.ethClient cltIndx).clientRules clients.iface ++ rest) →
      kernel.rules.Perm rest) :
    EthInv
      { clients with
        ethClient := SlotShift.closeUp (IpaEthClient.copyFrom clients.iface.tx.length)
          (clients.numEthClient - 1 - cltIndx) cltIndx
          (update clients.ethClient cltIndx client)
        numEthClient := clients.numEthClient - 1
        kernel
        headers
        ledger := leaveLedger (clients.ethClient cltIndx).mac clients.ledger } := by
  have left : leaveLedger (clients.ethClient cltIndx).mac clients.ledger =
      clients.ledger.eraseIdx cltIndx := by
    have length : cltIndx < clients.ledger.length := by
      rw [inv.ledger]
      simpa [listed] using within
    have isMac : clients.ledger[cltIndx].1 = (clients.ethClient cltIndx).mac := by
      simp [inv.ledger, listed]
    rw [eraseIdx_eq_filter inv.nodup length, isMac]
    rfl
  refine ⟨fun cnt inTable => ?_, (Nat.sub_le _ _).trans inv.within, ?_, ?_, ?_⟩
  · have isIn : cnt < clients.numEthClient - 1 := inTable
    have kept (pos : ℕ) (differs : pos ≠ cltIndx) :
        update clients.ethClient cltIndx client pos = clients.ethClient pos :=
      update_of_ne differs _ _
    simp only [SlotShift.closeUp_apply]
    split_ifs with isAfter
    · rw [kept (cnt + 1) (by omega)]
      exact (inv.clientOk (cnt + 1) (by omega)).copyFrom
    · rw [kept cnt (by omega)]
      exact inv.clientOk cnt (by omega)
  · rw [left, inv.ledger]
    exact (map_closedTable inv (fun client => (client.mac, client.addrs))
      (fun _ _ _ => Prod.ext rfl addrs_copyFrom) within client).symm
  · rw [left]
    exact inv.nodup.sublist ((eraseIdx_sublist _ _).map _)
  · apply (deleted _ (inv.rules.trans (SlotShift.flatMap_range_perm
      (fun cnt => (clients.ethClient cnt).clientRules clients.iface) within))).trans
    apply List.Perm.of_eq
    rw [← map_closedTable inv (·.clientRules clients.iface)
      (fun _ _ ok => clientRules_copyFrom ok.rules.le) within client, ← flatMap_def]
    rfl

theorem EthInv.clientDown (inv : clients.EthInv) :
    EthInv { clients.handleEthClientDownEvt mac with ledger := leaveLedger mac clients.ledger } :=
      by
  simp only [handleEthClientDownEvt]
  split
  · next notFound =>
    have notIn := not_mem_of_getEthClientIndex inv notFound
    have same : leaveLedger mac clients.ledger = clients.ledger := by
      apply filter_eq_self.mpr
      intro entry isIn
      exact decide_eq_true fun same => notIn (same ▸ mem_map_of_mem isIn)
    rw [same]
    exact inv
  · next cltIndx found =>
    rcases getEthClientIndex_spec found with ⟨within, rfl⟩
    exact inv.remove within _ fun _ => deleteEthRtrules_rules

/-- A deleted address is listed, and there is exactly one IPv6 tx property; or it is not listed, and
nothing is left to go wrong. -/
def DelGuard (clients : EthClients μ) : EthClientEvent μ → Prop
  | .addrDel mac addr _ =>
      ∀ cltIndx, clients.getEthClientIndex mac = some cltIndx →
        addr ≠ ⟨0, 0, 0, 0⟩ ∧ addr ∈ (clients.ethClient cltIndx).addrs ∧
            (clients.iface.indices .v6).length = 1 ∨
          addr ∉ (clients.ethClient cltIndx).addrs ∧
            (clients.ethClient cltIndx).Ignores clients.iface addr
  | _ => True

theorem EthInv.addrDel (inv : clients.EthInv)
    (guarded : clients.DelGuard (.addrDel mac addr uninit)) :
    EthInv { clients.handleDelIpv6Addr mac addr uninit with
      ledger := atEntry mac (·.erase addr) clients.ledger } := by
  apply inv.atClient
  intro cltIndx found
  have ok := inv.clientOk cltIndx (getEthClientIndex_spec found).1
  rcases guarded cltIndx found with ⟨nonzero, isListed, single⟩ | ⟨notListed, ignores⟩
  · rcases length_eq_one_iff.mp single with ⟨txIndex, single⟩
    exact handled_delIpv6 ok single nonzero isListed uninit
  · rw [handleDelIpv6Addr_ignored ok notListed ignores]
    exact ⟨rfl, ok, (erase_of_not_mem notListed).symm, fun _ => id⟩

theorem EthInv.step (inv : clients.EthInv) {event : EthClientEvent μ}
    (guarded : clients.DelGuard event) : (clients.step event).EthInv := by
  cases event with
  | hdrInit mac hdrHdlV4 hdrHdlV6 => exact inv.hdrInit hdrHdlV4 hdrHdlV6
  | addrAdd mac addr source =>
      cases addr with
      | inl addr =>
          have kept : EthInv { clients.handleEthClientAddr mac (.inl addr) source with
              ledger := atEntry mac id clients.ledger } :=
            inv.atClient fun cltIndx found =>
              handled_addrV4 (inv.clientOk cltIndx (getEthClientIndex_spec found).1) addr
          rw [atEntry_id] at kept
          exact kept
      | inr addr =>
          exact inv.atClient fun cltIndx found =>
            handled_addrV6 (inv.clientOk cltIndx (getEthClientIndex_spec found).1) addr
  | addrDel mac addr uninit => exact inv.addrDel guarded
  | clientDown mac => exact inv.clientDown

/-- The addresses are those of the ledger, each once, and the rules are those of the addresses;
under the guard, other deletions do nothing. -/
structure EthOk (clients : EthClients μ) : Prop where
  addrs : clients.listed = clients.ledger
  once : ∀ entry ∈ clients.ledger, entry.2.Nodup
  counters : ∀ cnt < clients.numEthClient,
    (clients.ethClient cnt).routeRuleSetV6 = (clients.ethClient cnt).ipv6Set ∧
      (clients.ethClient cnt).ipv6Set ≤ ipv6NumAddr
  rules : clients.kernel.rules.Perm clients.rules
  ignored : ∀ mac addr uninit, clients.DelGuard (.addrDel mac addr uninit) →
    (∀ entry ∈ clients.ledger, entry.1 = mac → addr ∉ entry.2) →
    clients.step (.addrDel mac addr uninit) = clients

theorem EthInv.ignored (inv : clients.EthInv)
    (guarded : clients.DelGuard (.addrDel mac addr uninit))
    (notListed : ∀ entry ∈ clients.ledger, entry.1 = mac → addr ∉ entry.2) :
    clients.step (.addrDel mac addr uninit) = clients := by
  have sameLedger : atEntry mac (·.erase addr) clients.ledger = clients.ledger := by
    calc atEntry mac (·.erase addr) clients.ledger = clients.ledger.map id := by
          apply map_congr_left
          intro entry isIn
          split_ifs with isMac
          · exact Prod.ext rfl (erase_of_not_mem (notListed entry isIn isMac))
          · rfl
      _ = clients.ledger := map_id _
  have sameTable : clients.handleDelIpv6Addr mac addr uninit = clients := by
    simp only [EthClients.handleDelIpv6Addr, EthClients.atClient]
    split
    · rfl
    · next cltIndx found =>
      rcases getEthClientIndex_spec found with ⟨within, isMac⟩
      have isEntry : (mac, (clients.ethClient cltIndx).addrs) ∈ clients.ledger := by
        rw [inv.ledger]
        exact mem_map.mpr ⟨cltIndx, mem_range.mpr within, by rw [isMac]⟩
      have isAbsent := notListed _ isEntry rfl
      rcases guarded cltIndx found with ⟨-, isListed, -⟩ | ⟨-, ignores⟩
      · exact absurd isListed isAbsent
      · rw [handleDelIpv6Addr_ignored (inv.clientOk cltIndx within) isAbsent ignores]
        simp
  simp only [EthClients.step, sameTable, sameLedger]

theorem EthInv.ok (inv : clients.EthInv) : clients.EthOk where
  addrs := inv.ledger.symm
  once entry isIn := by
    rw [inv.ledger] at isIn
    rcases mem_map.mp isIn with ⟨cnt, inRange, rfl⟩
    exact (inv.clientOk cnt (mem_range.mp inRange)).nodup
  counters cnt within := ⟨(inv.clientOk cnt within).rules, (inv.clientOk cnt within).within⟩
  rules := inv.rules
  ignored _ _ _ guarded notListed := inv.ignored guarded notListed

def Step (clients : EthClients μ) (event : EthClientEvent μ) (clients' : EthClients μ) : Prop :=
  clients' = clients.step event

theorem reachable_ethOk (reached : Run.Reachable IsInit (Run.Guarded DelGuard Step) clients) :
    clients.EthOk := by
  apply EthInv.ok
  apply reached.invariant EthInv
  · exact fun _ isInit => isInit.inv
  · rintro _ _ _ inv ⟨guarded, rfl⟩
    exact inv.step guarded

section Histories

def idle (tx : List TxProp) : EthClients ℕ where
  iface := ⟨tx, 5⟩
  ethClient _ := ⟨0, 0, fun _ => ⟨0, 0, 0, 0⟩, 0, 0, false, 0, false, 0, false, false, fun _ => 0⟩
  numEthClient := 0
  kernel := .empty
  headers := []
  ledger := []

theorem idle_isInit (tx : List TxProp) : (idle tx).IsInit := ⟨rfl, rfl, rfl⟩

def firstAddr : Ipv6Addr := ⟨0xfe80, 0, 0, 1⟩

def secondAddr : Ipv6Addr := ⟨0xfe80, 0, 0, 2⟩

def withTwoAddrs (tx : List TxProp) : EthClients ℕ :=
  ((((idle tx).step (.hdrInit 7 21 22)).step (.addrAdd 7 (.inl 9) .counting)).step
    (.addrAdd 7 (.inr firstAddr) .counting)).step (.addrAdd 7 (.inr secondAddr) .counting)

theorem withTwoAddrs_reachable (tx : List TxProp) :
    Run.Reachable IsInit (Run.Guarded DelGuard Step) (withTwoAddrs tx) :=
  .next (.addrAdd 7 (.inr secondAddr) .counting) (.next (.addrAdd 7 (.inr firstAddr) .counting)
    (.next (.addrAdd 7 (.inl 9) .counting) (.next (.hdrInit 7 21 22) (.start (idle_isInit tx))
      ⟨trivial, rfl⟩) ⟨trivial, rfl⟩) ⟨trivial, rfl⟩) ⟨trivial, rfl⟩

theorem reachable_ethOk_replaced :
    ((((withTwoAddrs [⟨.v4, 10, 0, 0⟩, ⟨.v6, 11, 0, 0⟩]).step (.addrDel 7 firstAddr 0)).step
      (.hdrInit 8 23 24)).step (.clientDown 7)).EthOk := by
  have guarded : (withTwoAddrs [⟨.v4, 10, 0, 0⟩, ⟨.v6, 11, 0, 0⟩]).DelGuard
      (.addrDel 7 firstAddr 0) := by
    intro cltIndx found
    have isFirst : cltIndx = 0 := (Option.some.inj found).symm
    subst isFirst
    exact .inl ⟨by decide, by decide, rfl⟩
  exact reachable_ethOk (.next (.clientDown 7) (.next (.hdrInit 8 23 24)
    (.next (.addrDel 7 firstAddr 0) (withTwoAddrs_reachable _) ⟨guarded, rfl⟩) ⟨trivial, rfl⟩)
      ⟨trivial, rfl⟩)

/-- With two IPv6 tx properties the deletion of one address deletes both, and with one the deletion
of an address that is not listed deletes the last one. -/
theorem reachable_not_ethOk :
    (∃ clients, Run.Reachable IsInit Step clients ∧ clients.listed = [(7, [])] ∧
        clients.ledger = [(7, [secondAddr])] ∧ ¬ clients.EthOk) ∧
      ∃ clients, Run.Reachable IsInit Step clients ∧ clients.listed = [(7, [firstAddr])] ∧
        clients.ledger = [(7, [firstAddr, secondAddr])] ∧ ¬ clients.EthOk := by
  have notOk {clients : EthClients ℕ} (differs : clients.listed ≠ clients.ledger) :
      ¬ clients.EthOk := fun ok => differs ok.addrs
  refine ⟨⟨(withTwoAddrs [⟨.v6, 10, 0, 0⟩, ⟨.v6, 11, 0, 0⟩]).step (.addrDel 7 firstAddr 0),
      .next _ (withTwoAddrs_reachable _).of_guarded rfl, by decide, by decide,
      notOk (by decide)⟩,
    ⟨(withTwoAddrs [⟨.v4, 10, 0, 0⟩, ⟨.v6, 11, 0, 0⟩]).step (.addrDel 7 ⟨0xfe80, 0, 0, 3⟩ 0),
      .next _ (withTwoAddrs_reachable _).of_guarded rfl, by decide, by decide, notOk (by decide)⟩⟩

end Histories

end EthClients

end HtcPme.Ipacm
