import HtcPme.Ipacm.EthClient

/-!
# The rules of one LAN client

What the operations on a client keep: the kernel has the rules of its live handles, one
for each tx property and address, beside the rules of the other clients.
-/

namespace HtcPme.Ipacm

open List Function

namespace EthTx

variable {iface : EthTx} {first count more : ℕ} {slot : EthRtSlot}

theorem mem_slotsV6 : slot ∈ iface.slotsV6 first count ↔
    ∃ txIndex ∈ iface.indices .v6, ∃ numV6, first ≤ numV6 ∧ numV6 < first + count ∧
      (slot = .v6 txIndex numV6 ∨ slot = .v6Wan txIndex numV6) := by
  simp [slotsV6, mem_range'_1, and_assoc]

theorem not_mem_slotsV4_of_slotsV6 (isV6 : slot ∈ iface.slotsV6 first count) :
    slot ∉ iface.slotsV4 := by
  rcases mem_slotsV6.mp isV6 with ⟨txIndex, -, numV6, -, -, rfl | rfl⟩ <;> simp [slotsV4]

theorem nodup_indices (ip : IpaIpType) : (iface.indices ip).Nodup :=
  nodup_range.filter _

theorem nodup_slotsV4 : iface.slotsV4.Nodup := by
  apply (nodup_indices .v4).map
  intro txIndex txIndex' same
  simpa using same

theorem nodup_slotsV6 : (iface.slotsV6 first count).Nodup := by
  apply HandleTable.nodup_pairs (nodup_indices .v6) nodup_range' <;> simp

theorem slotsV6_add : (iface.slotsV6 0 (count + more)).Perm
    (iface.slotsV6 0 count ++ iface.slotsV6 count more) := by
  apply List.Perm.symm
  apply (flatMap_append_perm _ _ _).trans
  apply List.Perm.of_eq
  apply flatMap_congr
  intro txIndex _
  have joined : range' 0 count ++ range' (0 + count) more =
      range' 0 (count + more) := range'_append_1
  rw [Nat.zero_add] at joined
  rw [← flatMap_append, joined]

end EthTx

namespace IpaEthClient

open EthTx

variable {μ : Type*} (iface : EthTx) (client : IpaEthClient μ)

def liveSlots : List EthRtSlot :=
  (if client.routeRuleSetV4 then iface.slotsV4 else []) ++ iface.slotsV6 0 client.routeRuleSetV6

def entry (slot : EthRtSlot) : ℕ × RtRule := (client.ethRtHdl slot, client.slotRule iface slot)

/-- The rules that a client should have, each under its handle. -/
def clientRules : List (ℕ × RtRule) := (client.liveSlots iface).map (client.entry iface)

structure ClientOk : Prop where
  rules : client.routeRuleSetV6 = client.ipv6Set
  within : client.ipv6Set ≤ ipv6NumAddr
  nodup : client.addrs.Nodup
  v4 : client.routeRuleSetV4 = true → client.ipv4Set = true

variable {iface client} {source : HandleSource} {kernel : HandleTable RtRule}
  {rest : List (ℕ × RtRule)}

@[simp]
theorem length_addrs : client.addrs.length = client.ipv6Set := by simp [addrs]

@[simp]
theorem slotRule_ethRtHdl (ethRtHdl : EthRtSlot → ℕ) (slot : EthRtSlot) :
    slotRule iface { client with ethRtHdl } slot = client.slotRule iface slot := by
  cases slot <;> rfl

theorem foldl_addSlot_client (slots : List EthRtSlot) :
    (slots.foldl (addSlot iface source) (client, kernel)).1 =
      { client with
        ethRtHdl := (slots.foldl (addSlot iface source) (client, kernel)).1.ethRtHdl } := by
  induction slots generalizing client kernel with
  | nil => rfl
  | cons slot slots ih => exact ih

variable (source) in
theorem foldl_addSlot_rules {slots live : List EthRtSlot}
    (held : kernel.rules.Perm (live.map (client.entry iface) ++ rest))
    (isNew : ∀ slot ∈ slots, slot ∉ live) (nodup : slots.Nodup) :
    (slots.foldl (addSlot iface source) (client, kernel)).2.rules.Perm
      ((live ++ slots).map ((slots.foldl (addSlot iface source) (client, kernel)).1.entry iface) ++
        rest) := by
  induction slots generalizing client kernel live with
  | nil => simpa using held
  | cons slot slots ih =>
      rcases nodup_cons.mp nodup with ⟨notLater, nodupLater⟩
      have notLive : slot ∉ live := isNew slot (mem_cons_self ..)
      let added : IpaEthClient μ :=
        { client with
          ethRtHdl := update client.ethRtHdl slot (source.next kernel.handles) }
      have kept : live.map (added.entry iface) = live.map (client.entry iface) := by
        apply map_congr_left
        intro other isLive
        have differs : other ≠ slot := fun same => notLive (same ▸ isLive)
        simp [added, entry, differs]
      have heldAdded : (kernel.addOne source (client.slotRule iface slot)).rules.Perm
          ((live ++ [slot]).map (added.entry iface) ++ rest) := by
        have own : added.entry iface slot =
            (source.next kernel.handles, client.slotRule iface slot) := by
          simp [added, entry]
        rw [map_append, kept, map_singleton, own, append_assoc]
        apply (held.append_right _).trans
        rw [append_assoc]
        exact perm_append_comm.append_left _
      have isNewLater : ∀ other ∈ slots, other ∉ live ++ [slot] := by
        intro other isLater
        simp only [mem_append, mem_singleton, not_or]
        exact ⟨isNew other (mem_cons_of_mem _ isLater),
          fun same => notLater (same ▸ isLater)⟩
      have result := ih heldAdded isNewLater nodupLater
      rw [append_assoc, singleton_append] at result
      exact result

variable {slots : List EthRtSlot}

variable (iface client source kernel) in
theorem foldl_addSlot (nodup : slots.Nodup) :
    ∃ ethRtHdl kernel', slots.foldl (addSlot iface source) (client, kernel) =
        ({ client with ethRtHdl }, kernel') ∧
      ∀ live rest, kernel.rules.Perm (live.map (client.entry iface) ++ rest) →
        (∀ slot ∈ slots, slot ∉ live) → kernel'.rules.Perm
          ((live ++ slots).map (entry iface { client with ethRtHdl }) ++ rest) := by
  refine ⟨_, _, Prod.ext (foldl_addSlot_client slots) rfl, fun live rest held isNew => ?_⟩
  have added := foldl_addSlot_rules source held isNew nodup
  rw [foldl_addSlot_client] at added
  exact added

theorem deleteAll_slots {slots others : List EthRtSlot}
    (held : kernel.rules.Perm ((slots ++ others).map (client.entry iface) ++ rest)) :
    (kernel.deleteAll (slots.map client.ethRtHdl)).rules.Perm
      (others.map (client.entry iface) ++ rest) := by
  have hdls : slots.map client.ethRtHdl = (slots.map (client.entry iface)).map Prod.fst := by
    simp [entry, comp_def]
  rw [hdls]
  apply HandleTable.rules_deleteAll_perm
  simpa using held

variable (iface) in
/-- What an operation on a client must do: the rules are those of the new client, whatever the other
clients have, and the list of addresses changes as it should. -/
structure Handled (change : List Ipv6Addr → List Ipv6Addr) (client : IpaEthClient μ)
    (kernel : HandleTable RtRule) (result : IpaEthClient μ × HandleTable RtRule) : Prop where
  mac : result.1.mac = client.mac
  ok : result.1.ClientOk
  addrs : result.1.addrs = change client.addrs
  rules : ∀ rest, kernel.rules.Perm (client.clientRules iface ++ rest) →
    result.2.rules.Perm (result.1.clientRules iface ++ rest)

theorem Handled.refl (ok : client.ClientOk) : Handled iface id client kernel (client, kernel) :=
  ⟨rfl, ok, rfl, fun _ => id⟩

theorem map_entry_slotsV6 {client' : IpaEthClient μ} {count : ℕ}
    (hdl : ∀ slot ∈ iface.slotsV6 0 count, client'.ethRtHdl slot = client.ethRtHdl slot)
    (addr : ∀ pos < count, client'.v6Addr pos = client.v6Addr pos)
    (hdr : client'.hdrHdlV6 = client.hdrHdlV6) :
    (iface.slotsV6 0 count).map (client'.entry iface) =
      (iface.slotsV6 0 count).map (client.entry iface) := by
  apply map_congr_left
  intro slot isV6
  have sameHdl := hdl slot isV6
  rcases mem_slotsV6.mp isV6 with ⟨txIndex, -, numV6, -, within, rfl | rfl⟩
  · simp [entry, slotRule, sameHdl, addr numV6 (by omega)]
  · simp [entry, slotRule, sameHdl, addr numV6 (by omega), hdr]

theorem Handled.trans {change change' : List Ipv6Addr → List Ipv6Addr}
    {middle result : IpaEthClient μ × HandleTable RtRule}
    (first : Handled iface change client kernel middle)
    (second : Handled iface change' middle.1 middle.2 result) :
    Handled iface (change' ∘ change) client kernel result :=
  ⟨second.mac.trans first.mac, second.ok, second.addrs.trans (congrArg change' first.addrs),
    fun rest held => second.rules rest (first.rules rest held)⟩

theorem clientRules_perm (perm : (client.liveSlots iface).Perm slots) :
    (client.clientRules iface).Perm (slots.map (client.entry iface)) := perm.map _

theorem handled_routeRuleV4 (ok : client.ClientOk) :
    Handled iface id client kernel
      (client.handleEthClientRouteRule iface source kernel .v4) := by
  simp only [handleEthClientRouteRule]
  split_ifs with missing
  · rcases foldl_addSlot iface client source kernel nodup_slotsV4 with
      ⟨ethRtHdl, kernel', result, added⟩
    rw [result]
    refine ⟨rfl, ⟨ok.rules, ok.within, ok.nodup, fun _ => missing.2⟩, rfl, fun rest held => ?_⟩
    have live : client.liveSlots iface = iface.slotsV6 0 client.routeRuleSetV6 := by
      simp [liveSlots, missing.1]
    rw [clientRules, live] at held
    apply (added _ rest held fun slot isV4 isV6 => not_mem_slotsV4_of_slotsV6 isV6 isV4).trans
    apply List.Perm.append_right
    have perm : (liveSlots iface { client with ethRtHdl, routeRuleSetV4 := true }).Perm
        (iface.slotsV6 0 client.routeRuleSetV6 ++ iface.slotsV4) := by
      simpa [liveSlots] using perm_append_comm
    have entries : entry iface { client with ethRtHdl, routeRuleSetV4 := true } =
        entry iface { client with ethRtHdl } := by
      funext slot
      cases slot <;> rfl
    rw [← entries]
    exact (clientRules_perm perm).symm
  · exact .refl ok

variable (iface kernel) in
theorem handled_newV4 (ok : client.ClientOk) (isSet : client.ipv4Set = true) (addr : ℕ) :
    Handled iface id client kernel
      ({ (client.deleteEthRtrules iface kernel .v4).1 with
          routeRuleSetV4 := false
          v4Addr := addr },
        (client.deleteEthRtrules iface kernel .v4).2) := by
  have kept : (iface.slotsV6 0 client.routeRuleSetV6).map
        (entry iface { client with routeRuleSetV4 := false, v4Addr := addr }) =
      (iface.slotsV6 0 client.routeRuleSetV6).map (client.entry iface) :=
    map_entry_slotsV6 (fun _ _ => rfl) (fun _ _ => rfl) rfl
  simp only [deleteEthRtrules]
  split_ifs with hasRules
  · refine ⟨rfl, ⟨ok.rules, ok.within, ok.nodup, fun _ => isSet⟩, rfl, fun rest held => ?_⟩
    simp only [clientRules, liveSlots, hasRules, if_true] at held
    have deleted := deleteAll_slots held
    simpa [clientRules, liveSlots, kept] using deleted
  · refine ⟨rfl, ⟨ok.rules, ok.within, ok.nodup, fun _ => isSet⟩, rfl, fun rest held => ?_⟩
    simp only [clientRules, liveSlots, hasRules] at held
    simpa [clientRules, liveSlots, kept] using held

variable (iface kernel) in
theorem handled_firstV4 (ok : client.ClientOk) (notSet : client.ipv4Set = false) (addr : ℕ) :
    Handled iface id client kernel ({ client with v4Addr := addr, ipv4Set := true }, kernel) := by
  have noRules : client.routeRuleSetV4 = false := by
    cases hasRules : client.routeRuleSetV4 with
    | false => rfl
    | true => exact absurd (ok.v4 hasRules) (by simp [notSet])
  have kept : (iface.slotsV6 0 client.routeRuleSetV6).map
        (entry iface { client with v4Addr := addr, ipv4Set := true }) =
      (iface.slotsV6 0 client.routeRuleSetV6).map (client.entry iface) :=
    map_entry_slotsV6 (fun _ _ => rfl) (fun _ _ => rfl) rfl
  have live : client.liveSlots iface = iface.slotsV6 0 client.routeRuleSetV6 := by
    simp [liveSlots, noRules]
  refine ⟨rfl, ⟨ok.rules, ok.within, ok.nodup, fun _ => rfl⟩, rfl, fun rest held => ?_⟩
  rw [clientRules, live, ← kept] at held
  rw [← live] at held
  exact held

variable (iface client source kernel) in
theorem routeRuleV6_rules (oneMore : client.ipv6Set = client.routeRuleSetV6 + 1) :
    ∃ ethRtHdl kernel', client.handleEthClientRouteRule iface source kernel .v6 =
        ({ client with ethRtHdl, routeRuleSetV6 := client.ipv6Set }, kernel') ∧
      ∀ rest, kernel.rules.Perm (client.clientRules iface ++ rest) →
        kernel'.rules.Perm (clientRules iface
          { client with ethRtHdl, routeRuleSetV6 := client.ipv6Set } ++ rest) := by
  have missing : client.routeRuleSetV6 < client.ipv6Set := by omega
  have count : client.ipv6Set - client.routeRuleSetV6 = 1 := by omega
  have nodup : (iface.slotsV6 client.routeRuleSetV6 1).Nodup := nodup_slotsV6
  rcases foldl_addSlot iface client source kernel nodup with ⟨ethRtHdl, kernel', result, added⟩
  refine ⟨ethRtHdl, kernel', ?_, fun rest held => ?_⟩
  · simp only [handleEthClientRouteRule, if_pos missing, count, result]
  · have isNew : ∀ slot ∈ iface.slotsV6 client.routeRuleSetV6 1, slot ∉ client.liveSlots iface := by
      intro slot isNewSlot isLive
      rcases mem_append.mp isLive with isV4 | isV6
      · split_ifs at isV4
        · exact not_mem_slotsV4_of_slotsV6 isNewSlot isV4
        · cases isV4
      · rcases mem_slotsV6.mp isNewSlot with ⟨txIndex, -, numV6, atLeast, -, same⟩
        rcases mem_slotsV6.mp isV6 with ⟨txIndex', -, numV6', -, below, same'⟩
        rcases same with rfl | rfl <;> rcases same' with same' | same' <;> cases same' <;> omega
    apply (added _ rest held isNew).trans
    apply List.Perm.append_right
    have entries : entry iface { client with ethRtHdl, routeRuleSetV6 := client.ipv6Set } =
        entry iface { client with ethRtHdl } := by
      funext slot
      cases slot <;> rfl
    have perm : (liveSlots iface { client with ethRtHdl, routeRuleSetV6 := client.ipv6Set }).Perm
        (client.liveSlots iface ++ iface.slotsV6 client.routeRuleSetV6 1) := by
      simp only [liveSlots, oneMore, append_assoc]
      exact slotsV6_add.append_left _
    rw [← entries]
    exact (clientRules_perm perm).symm

variable (iface source kernel) in
theorem handled_newV6 (ok : client.ClientOk) (room : client.ipv6Set < ipv6NumAddr)
    {addr : Ipv6Addr} (isNew : addr ∉ client.addrs) :
    Handled iface (· ++ [addr]) client kernel
      (handleEthClientRouteRule iface
        { client with
          v6Addr := update client.v6Addr client.ipv6Set addr
          ipv6Set := client.ipv6Set + 1 } source kernel .v6) := by
  have kept (pos : ℕ) (within : pos < client.ipv6Set) :
      update client.v6Addr client.ipv6Set addr pos = client.v6Addr pos :=
    update_of_ne within.ne _ _
  have addrs : (range (client.ipv6Set + 1)).map
      (update client.v6Addr client.ipv6Set addr) = client.addrs ++ [addr] := by
    rw [range_succ, map_append, map_singleton, update_self]
    congr 1
    exact map_congr_left fun pos inRange => kept pos (mem_range.mp inRange)
  have before : clientRules iface
        { client with
          v6Addr := update client.v6Addr client.ipv6Set addr
          ipv6Set := client.ipv6Set + 1 } = client.clientRules iface := by
    simp only [clientRules, liveSlots, map_append]
    congr 1
    · split_ifs
      · simp [slotsV4, entry, slotRule]
      · rfl
    · exact map_entry_slotsV6 (fun _ _ => rfl) (fun pos within => kept pos (ok.rules ▸ within)) rfl
  rcases routeRuleV6_rules iface
      { client with
        v6Addr := update client.v6Addr client.ipv6Set addr
        ipv6Set := client.ipv6Set + 1 } source kernel (congrArg (· + 1) ok.rules.symm) with
    ⟨ethRtHdl, kernel', result, rules⟩
  rw [result]
  refine ⟨rfl, ⟨rfl, room, ?_, ok.v4⟩, addrs, fun rest held => rules rest (before ▸ held)⟩
  have nodup := ok.nodup.concat isNew
  rw [concat_eq_append, ← addrs] at nodup
  exact nodup

theorem handled_addrV4 (ok : client.ClientOk) (addr : ℕ) :
    Handled iface id client kernel
      (match client.handleEthClientIpaddr iface kernel (.inl addr) with
      | none => (client, kernel)
      | some (client, kernel) => client.handleEthClientRouteRule iface source kernel .v4) := by
  simp only [handleEthClientIpaddr]
  split_ifs with isZero notSet same
  · exact .refl ok
  · have first := handled_firstV4 iface kernel ok notSet addr
    exact first.trans (handled_routeRuleV4 first.ok)
  · exact .refl ok
  · have isSet : client.ipv4Set = true := by simpa using notSet
    have changed := handled_newV4 iface kernel ok isSet addr
    exact changed.trans (handled_routeRuleV4 changed.ok)

open EthClients in
theorem handled_addrV6 (ok : client.ClientOk) (addr : Ipv6Addr) :
    Handled iface (addAddr addr) client kernel
      (match client.handleEthClientIpaddr iface kernel (.inr addr) with
      | none => (client, kernel)
      | some (client, kernel) => client.handleEthClientRouteRule iface source kernel .v6) := by
  have refused (full : addAddr addr client.addrs = client.addrs) :
      Handled iface (addAddr addr) client kernel (client, kernel) :=
    ⟨rfl, ok, full.symm, fun _ => id⟩
  simp only [handleEthClientIpaddr]
  split_ifs with isZero room known
  · have noRoute : client.handleEthClientRouteRule iface source kernel .v6 = (client, kernel) := by
      simp [handleEthClientRouteRule, ok.rules]
    simp only [noRoute]
    exact refused (by simp [addAddr, isZero])
  · exact refused (by simp [addAddr, known])
  · have added := handled_newV6 iface source kernel ok room known
    refine ⟨added.mac, added.ok, added.addrs.trans ?_, added.rules⟩
    simp [addAddr, isZero, known, room]
  · exact refused (by simp [addAddr, room])

section Deletion

variable {txIndex numV6 : ℕ}

def closedUp (client : IpaEthClient μ) (txIndex numV6 : ℕ) : IpaEthClient μ :=
  { client with
    ipv6Set := client.ipv6Set - 1
    routeRuleSetV6 := client.routeRuleSetV6 - 1
    v6Addr :=
      SlotShift.closeUp (fun _ next => next) (client.ipv6Set - 1 - numV6) numV6 client.v6Addr
    ethRtHdl := client.closeUpHdls txIndex numV6 (client.ipv6Set - 1 - numV6) }

variable (txIndex) in
theorem addrs_closedUp (ok : client.ClientOk) (within : numV6 < client.ipv6Set) :
    (client.closedUp txIndex numV6).addrs = client.addrs.erase (client.v6Addr numV6) := by
  have isIn : numV6 < client.addrs.length := by simpa using within
  have atPos : client.addrs[numV6] = client.v6Addr numV6 := by simp [addrs]
  have sizes : client.ipv6Set - 1 + 1 = client.ipv6Set := by omega
  calc (client.closedUp txIndex numV6).addrs = client.addrs.eraseIdx numV6 := by
        have isWithin : numV6 ≤ client.ipv6Set - 1 := by omega
        have closed := SlotShift.map_closeUp (fun _ next => next) id client.v6Addr isWithin
          fun _ _ _ => rfl
        rw [sizes] at closed
        exact closed
    _ = client.addrs.erase client.addrs[numV6] := (ok.nodup.erase_getElem numV6 isIn).symm
    _ = client.addrs.erase (client.v6Addr numV6) := by rw [atPos]

def addrSlots (txIndex numV6 : ℕ) : List EthRtSlot := [.v6 txIndex numV6, .v6Wan txIndex numV6]

theorem slotsV6_single (single : iface.indices .v6 = [txIndex]) (count : ℕ) :
    iface.slotsV6 0 count = ((range count).map (addrSlots txIndex)).flatten := by
  simp [slotsV6, single, flatMap_def, range_eq_range']
  rfl

theorem entries_closedUp (pos : ℕ) (within : pos < client.ipv6Set - 1) :
    (addrSlots txIndex pos).map ((client.closedUp txIndex numV6).entry iface) =
      (if pos < numV6 then addrSlots txIndex pos else addrSlots txIndex (pos + 1)).map
        (client.entry iface) := by
  by_cases isBefore : pos < numV6
  · simp [addrSlots, entry, closedUp, closeUpHdls, slotRule, SlotShift.closeUp_next _ within,
      isBefore]
  · simp [addrSlots, entry, closedUp, closeUpHdls, slotRule, SlotShift.closeUp_next _ within,
      isBefore]

theorem map_slotsV6_single (single : iface.indices .v6 = [txIndex]) (count : ℕ) :
    (iface.slotsV6 0 count).map (client.entry iface) =
      ((range count).map fun pos => (addrSlots txIndex pos).map (client.entry iface)).flatten
        := by
  simp [slotsV6_single single, map_flatten, comp_def]

theorem clientRules_closedUp (ok : client.ClientOk) (single : iface.indices .v6 = [txIndex])
    (within : numV6 < client.ipv6Set) :
    (client.clientRules iface).Perm ((addrSlots txIndex numV6).map (client.entry iface) ++
      (client.closedUp txIndex numV6).clientRules iface) := by
  have v4 : (if client.routeRuleSetV4 then iface.slotsV4 else []).map
        ((client.closedUp txIndex numV6).entry iface) =
      (if client.routeRuleSetV4 then iface.slotsV4 else []).map (client.entry iface) := by
    split_ifs
    · simp [slotsV4, entry, slotRule, closedUp, closeUpHdls]
    · rfl
  have v6 : ((range client.ipv6Set).map fun pos =>
        (addrSlots txIndex pos).map (client.entry iface)).eraseIdx numV6 =
      (range (client.ipv6Set - 1)).map fun pos =>
        (addrSlots txIndex pos).map ((client.closedUp txIndex numV6).entry iface) := by
    have sizes : client.ipv6Set - 1 + 1 = client.ipv6Set := by omega
    rw [← sizes, SlotShift.eraseIdx_map_range _ (by omega)]
    apply map_congr_left
    intro pos inRange
    rw [entries_closedUp pos (mem_range.mp inRange)]
    split_ifs <;> rfl
  have perm := (SlotShift.map_range_perm
    (fun pos => (addrSlots txIndex pos).map (client.entry iface)) within).flatten
  rw [v6, flatten_cons, ← map_slotsV6_single single, ← map_slotsV6_single single] at perm
  simp only [clientRules, liveSlots, map_append]
  rw [show (client.closedUp txIndex numV6).routeRuleSetV4 = client.routeRuleSetV4 from rfl, v4,
    show (client.closedUp txIndex numV6).routeRuleSetV6 = client.ipv6Set - 1 from
      congrArg (· - 1) ok.rules, ok.rules]
  apply (perm.append_left _).trans
  rw [← append_assoc, ← append_assoc]
  exact perm_append_comm.append_right _

variable {addr : Ipv6Addr}

theorem find_addr (listed : addr ∈ client.addrs) :
    ∃ numV6 < client.ipv6Set, client.v6Addr numV6 = addr ∧
      (range client.ipv6Set).find? (client.v6Addr · = addr) = some numV6 := by
  rcases mem_map.mp listed with ⟨pos, inRange, same⟩
  cases found : (range client.ipv6Set).find? (client.v6Addr · = addr) with
  | none => exact absurd same (by simpa using find?_eq_none.mp found pos inRange)
  | some numV6 =>
      refine ⟨numV6, mem_range.mp (mem_of_find?_eq_some found), ?_, rfl⟩
      simpa using find?_some found

theorem handled_delIpv6 (ok : client.ClientOk) (single : iface.indices .v6 = [txIndex])
     (nonzero : addr ≠ ⟨0, 0, 0, 0⟩) (listed : addr ∈ client.addrs) (uninit : ℕ) :
    Handled iface (·.erase addr) client kernel
      (client.handleDelIpv6Addr iface kernel addr uninit) := by
  rcases find_addr listed with ⟨numV6, within, isAddr, found⟩
  have notLast : numV6 ≠ ipv6NumAddr := (within.trans_le ok.within).ne
  have hasRules : client.routeRuleSetV6 ≠ 0 := by
    have rules := ok.rules
    omega
  have result : client.handleDelIpv6Addr iface kernel addr uninit =
      (client.closedUp txIndex numV6,
        kernel.deleteAll ((addrSlots txIndex numV6).map client.ethRtHdl)) := by
    simp only [handleDelIpv6Addr, if_neg nonzero, found, Option.getD_some, if_neg notLast, single,
      delIpv6Loop, if_neg hasRules]
    rfl
  have addrs := addrs_closedUp txIndex ok within
  rw [result]
  refine ⟨rfl, ⟨congrArg (· - 1) ok.rules, ?_, ?_, ok.v4⟩, isAddr ▸ addrs, fun rest held => ?_⟩
  · exact (Nat.sub_le _ _).trans ok.within
  · rw [addrs]
    exact ok.nodup.erase _
  · have hdls : (addrSlots txIndex numV6).map client.ethRtHdl =
        ((addrSlots txIndex numV6).map (client.entry iface)).map Prod.fst := rfl
    rw [hdls]
    apply HandleTable.rules_deleteAll_perm
    rw [← append_assoc]
    exact held.trans ((clientRules_closedUp ok single within).append_right _)

def Ignores (iface : EthTx) (client : IpaEthClient μ) (addr : Ipv6Addr) : Prop :=
  iface.indices .v6 = [] ∨ client.ipv6Set = 0 ∨
    addr ≠ ⟨0, 0, 0, 0⟩ ∧ client.ipv6Set = ipv6NumAddr

theorem delIpv6Loop_noRules (noRules : client.routeRuleSetV6 = 0) (indices : List ℕ) (numV6 : ℕ) :
    delIpv6Loop indices numV6 client kernel = (client, kernel) := by
  induction indices with
  | nil => rfl
  | cons txIndex indices ih => simpa [delIpv6Loop, noRules] using ih

theorem handleDelIpv6Addr_ignored (ok : client.ClientOk)
    (notListed : addr ∉ client.addrs) (ignores : client.Ignores iface addr) (uninit : ℕ) :
    client.handleDelIpv6Addr iface kernel addr uninit = (client, kernel) := by
  have loop (numV6 : ℕ) (noLoop : iface.indices .v6 = [] ∨ client.ipv6Set = 0) :
      delIpv6Loop (iface.indices .v6) numV6 client kernel = (client, kernel) := by
    rcases noLoop with none | none
    · rw [none]
      rfl
    · exact delIpv6Loop_noRules (ok.rules.trans none) _ _
  have notFound : (range client.ipv6Set).find? (client.v6Addr · = addr) = none := by
    apply find?_eq_none.mpr
    intro pos inRange
    simpa using fun same => notListed (mem_map.mpr ⟨pos, inRange, same⟩)
  simp only [handleDelIpv6Addr, notFound, Option.getD_none]
  rcases ignores with none | none | ⟨nonzero, full⟩
  · simp only [loop _ (.inl none), ite_self]
  · simp only [loop _ (.inr none), ite_self]
  · rw [if_neg nonzero, if_pos full]

end Deletion

section Removal

variable {client next : IpaEthClient μ}

theorem clientRules_copyFrom {iface : EthTx} (rules : next.routeRuleSetV6 ≤ next.ipv6Set) :
    (client.copyFrom iface.tx.length next).clientRules iface = next.clientRules iface := by
  have isIndex {ip : IpaIpType} {txIndex : ℕ} (isIn : txIndex ∈ iface.indices ip) :
      txIndex < iface.tx.length := mem_range.mp (mem_filter.mp isIn).1
  apply map_congr_left
  intro slot isLive
  rcases mem_append.mp isLive with isV4 | isV6
  · split_ifs at isV4
    · rcases mem_map.mp isV4 with ⟨txIndex, isIn, rfl⟩
      simp [entry, slotRule, copyFrom, isIndex isIn]
    · cases isV4
  · rcases EthTx.mem_slotsV6.mp isV6 with ⟨txIndex, isIn, numV6, -, below, same⟩
    have hasRules : numV6 < next.routeRuleSetV6 := by simpa [copyFrom] using below
    have isListed : numV6 < next.ipv6Set := by omega
    rcases same with rfl | rfl <;>
      simp [entry, slotRule, copyFrom, isIndex isIn, hasRules, isListed]

variable {numTxProps : ℕ}

theorem addrs_copyFrom :
    (client.copyFrom numTxProps next).addrs = next.addrs := by
  apply map_congr_left
  intro pos inRange
  have within : pos < next.ipv6Set := mem_range.mp inRange
  simp [copyFrom, within]

theorem ClientOk.copyFrom (ok : next.ClientOk) :
    (client.copyFrom numTxProps next).ClientOk :=
  ⟨ok.rules, ok.within, by simpa only [addrs_copyFrom] using ok.nodup, ok.v4⟩

theorem deleteEthRtrules_rules (held : kernel.rules.Perm (client.clientRules iface ++ rest)) :
    ((client.deleteEthRtrules iface kernel .v4).1.deleteEthRtrules iface
      (client.deleteEthRtrules iface kernel .v4).2 .v6).2.rules.Perm rest := by
  have v6 {kernel : HandleTable RtRule}
      (held : kernel.rules.Perm ((iface.slotsV6 0 client.routeRuleSetV6).map (client.entry iface) ++
        rest)) : (kernel.deleteAll
          ((iface.slotsV6 0 client.routeRuleSetV6).map client.ethRtHdl)).rules.Perm rest := by
    have appended : kernel.rules.Perm ((iface.slotsV6 0 client.routeRuleSetV6 ++ []).map
        (client.entry iface) ++ rest) := by simpa using held
    simpa using deleteAll_slots appended
  simp only [deleteEthRtrules]
  split_ifs with hasRules
  · simp only [clientRules, liveSlots, hasRules, if_true] at held
    exact v6 (deleteAll_slots held)
  · simp only [clientRules, liveSlots, hasRules] at held
    exact v6 (by simpa using held)

end Removal

end IpaEthClient

end HtcPme.Ipacm
