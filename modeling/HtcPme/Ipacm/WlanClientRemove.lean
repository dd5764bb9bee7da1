import HtcPme.Ipacm.WlanClient
import Mathlib.Data.List.Find

/-!
# Removal of a WLAN client

Which entries of the arrays of a client matter, and when the removal of a client leaves the others
as they were.
-/

namespace HtcPme.Ipacm

open List

open Function (update update_of_ne update_self update_apply)

variable {η μ : Type} {iface : WlanIface} {env : WlanEnv}

namespace IpaWlanClient

def readRtHdl (wifiRtHdl : ℕ → WlanClientRtHdl) (txIndex : ℕ) : RtSlot → ℕ
  | .v4 => (wifiRtHdl txIndex).wifiRtRuleHdlV4
  | .v6 numV6 => (wifiRtHdl txIndex).wifiRtRuleHdlV6 numV6
  | .v6Wan numV6 => (wifiRtHdl txIndex).wifiRtRuleHdlV6Wan numV6

theorem readRtHdl_writeRtHdl (wifiRtHdl : ℕ → WlanClientRtHdl) (txIndex other : ℕ)
    (slot otherSlot : RtSlot) (rtHdl : ℕ) :
    readRtHdl (writeRtHdl wifiRtHdl txIndex slot rtHdl) other otherSlot =
      if other = txIndex ∧ otherSlot =
        slot then rtHdl else readRtHdl wifiRtHdl other otherSlot := by
  unfold writeRtHdl
  by_cases sameTx : other = txIndex
  · subst sameTx
    cases slot <;> cases otherSlot <;> simp [readRtHdl, update_apply]
  · cases otherSlot <;> simp [readRtHdl, sameTx]

/-- The handles that may be used: those of the tx properties of their IP type, for the IPv6
addresses that have rules. -/
def KnownRtHdl (iface : WlanIface) (routeRuleSetV6 txIndex : ℕ) : RtSlot → Prop
  | .v4 => ∃ tx, (tx, txIndex) ∈ iface.tx.zipIdx ∧ tx.ip = .v4
  | .v6 numV6 | .v6Wan numV6 =>
      (∃ tx, (tx, txIndex) ∈ iface.tx.zipIdx ∧ tx.ip = .v6) ∧ numV6 < routeRuleSetV6

def SameClient (iface : WlanIface) (client other : IpaWlanClient η μ) : Prop :=
  ∃ v6Addr wifiRtHdl, other = { client with v6Addr, wifiRtHdl } ∧
    (∀ numV6 < client.ipv6Set, v6Addr numV6 = client.v6Addr numV6) ∧
    ∀ txIndex slot, KnownRtHdl iface client.routeRuleSetV6 txIndex slot →
      readRtHdl wifiRtHdl txIndex slot = readRtHdl client.wifiRtHdl txIndex slot

/-- A handler that makes the same requests for clients that behave in the same way, and
leaves such clients. -/
def Respects (iface : WlanIface) {ρ : Type} (handle : IpaWlanClient η μ → ρ × IpaWlanClient η μ) :
    Prop :=
  ∀ client other, SameClient iface client other →
    (handle other).1 = (handle client).1 ∧ SameClient iface (handle client).2 (handle other).2

variable {client other : IpaWlanClient η μ}

theorem SameClient.rtHdlsV4 (same : SameClient iface client other) :
    other.rtHdlsV4 iface = client.rtHdlsV4 iface := by
  rcases same with ⟨v6Addr, wifiRtHdl, rfl, _, known⟩
  apply map_congr_left
  intro tx mem
  rw [mem_filter] at mem
  have isV4 : tx.1.ip = .v4 := by simpa using (of_decide_eq_true mem.2).1
  exact known tx.2 .v4 ⟨tx.1, mem.1, isV4⟩

theorem SameClient.rtHdlsV6 (same : SameClient iface client other) :
    other.rtHdlsV6 iface = client.rtHdlsV6 iface := by
  rcases same with ⟨v6Addr, wifiRtHdl, rfl, _, known⟩
  apply flatMap_congr
  intro tx mem
  rw [mem_filter] at mem
  have isV6 : ∃ prop, (prop, tx.2) ∈ iface.tx.zipIdx ∧ prop.ip = .v6 :=
    ⟨tx.1, mem.1, by simpa using mem.2⟩
  apply flatMap_congr
  intro numV6 below
  rw [mem_range] at below
  have v6 := known tx.2 (.v6 numV6) ⟨isV6, below⟩
  have v6Wan := known tx.2 (.v6Wan numV6) ⟨isV6, below⟩
  simp only [readRtHdl] at v6 v6Wan
  rw [v6, v6Wan]

theorem respects_deleteDefaultQosRtrulesV4 (env : WlanEnv) :
    Respects iface (deleteDefaultQosRtrulesV4 iface env (η := η) (μ := μ)) := by
  intro client other same
  unfold deleteDefaultQosRtrulesV4
  simp only [same.rtHdlsV4, true_and]
  split
  · rcases same with ⟨v6Addr, wifiRtHdl, rfl, v6, known⟩
    exact ⟨v6Addr, wifiRtHdl, rfl, v6, known⟩
  · exact same

theorem respects_deleteDefaultQosRtrulesV6 (env : WlanEnv) :
    Respects iface (deleteDefaultQosRtrulesV6 iface env (η := η) (μ := μ)) := by
  intro client other same
  unfold deleteDefaultQosRtrulesV6
  simp only [same.rtHdlsV6, true_and]
  split
  · rcases same with ⟨v6Addr, wifiRtHdl, rfl, v6, known⟩
    refine ⟨v6Addr, wifiRtHdl, rfl, v6, fun txIndex slot isKnown => known txIndex slot ?_⟩
    cases slot with
    | v4 => exact isKnown
    | v6 numV6 => exact absurd isKnown.2 (Nat.not_lt_zero _)
    | v6Wan numV6 => exact absurd isKnown.2 (Nat.not_lt_zero _)
  · exact same

theorem SameClient.handleLan2lanMsgPost (same : SameClient iface client other)
    (event : LanClientEvent) (ip : IpaIpType) :
    other.handleLan2lanMsgPost env event ip = client.handleLan2lanMsgPost env event ip := by
  rcases same with ⟨v6Addr, wifiRtHdl, rfl, v6, _⟩
  cases ip with
  | v4 => rfl
  | v6 =>
      unfold IpaWlanClient.handleLan2lanMsgPost
      dsimp only
      split
      · apply map_congr_left
        intro i below
        rw [v6 i (mem_range.mp below)]
      · rfl

theorem addRoutingRules_same (env : WlanEnv) (rules : List (RtRule × ℕ × RtSlot))
    (client : IpaWlanClient η μ)
    (v6Addr : ℕ → Ipv6Addr) (wifiRtHdl : ℕ → WlanClientRtHdl) (known : ℕ → RtSlot → Prop)
    (agree : ∀ txIndex slot, known txIndex slot →
      readRtHdl wifiRtHdl txIndex slot = readRtHdl client.wifiRtHdl txIndex slot) :
    ∃ added added', (addRoutingRules env client rules).2 = { client with wifiRtHdl := added } ∧
      addRoutingRules env { client with v6Addr, wifiRtHdl } rules =
        ((addRoutingRules env client rules).1, { client with v6Addr, wifiRtHdl := added' }) ∧
      ∀ txIndex slot, known txIndex slot ∨ (addRoutingRules env client rules).1.2 = true ∧
          (∃ rule, (rule, txIndex, slot) ∈ rules) →
        readRtHdl added' txIndex slot = readRtHdl added txIndex slot := by
  induction rules generalizing client wifiRtHdl known with
  | nil => exact ⟨client.wifiRtHdl, wifiRtHdl, rfl, rfl, by simpa using agree⟩
  | cons first rest ih =>
      rcases first with ⟨rule, txIndex, slot⟩
      cases answer : env.addRoutingRule rule with
      | none =>
          simp only [addRoutingRules, answer]
          exact ⟨client.wifiRtHdl, wifiRtHdl, rfl, rfl, by simpa using agree⟩
      | some rtHdl =>
          simp only [addRoutingRules, answer]
          rcases ih { client with wifiRtHdl := writeRtHdl client.wifiRtHdl txIndex slot rtHdl }
            (writeRtHdl wifiRtHdl txIndex slot rtHdl)
            (fun other otherSlot => known other otherSlot ∨ (other = txIndex ∧ otherSlot = slot))
            (by
              intro other otherSlot isKnown
              simp only [readRtHdl_writeRtHdl]
              split
              · rfl
              · rename_i differs
                exact agree other otherSlot (isKnown.resolve_right differs)) with
            ⟨added, added', result, result', same⟩
          refine ⟨added, added', result, by rw [result'], ?_⟩
          intro other otherSlot isKnown
          apply same
          rcases isKnown with before | ⟨done, otherRule, mem⟩
          · exact .inl (.inl before)
          · rcases mem_cons.mp mem with isFirst | inRest
            · simp only [Prod.mk.injEq] at isFirst
              exact .inl (.inr isFirst.2)
            · exact .inr ⟨done, otherRule, inRest⟩

theorem rtRulesV6_congr {v6Addr : ℕ → Ipv6Addr} {wifiRtHdl : ℕ → WlanClientRtHdl}
    (v6 : ∀ numV6 < client.ipv6Set, v6Addr numV6 = client.v6Addr numV6) :
    rtRulesV6 iface env { client with v6Addr, wifiRtHdl } = rtRulesV6 iface env client := by
  apply flatMap_congr
  intro tx _
  apply flatMap_congr
  intro numV6 mem
  dsimp only at mem ⊢
  rw [mem_range'_1] at mem
  rw [v6 numV6 (by omega)]

theorem mem_rtRulesV6 {txIndex numV6 : ℕ}
    (isV6 : ∃ tx, (tx, txIndex) ∈ iface.tx.zipIdx ∧ tx.ip = .v6)
    (unset : client.routeRuleSetV6 ≤ numV6) (isSet : numV6 < client.ipv6Set) :
    (∃ rule, (rule, txIndex, .v6 numV6) ∈ client.rtRulesV6 iface env) ∧
      ∃ rule, (rule, txIndex, .v6Wan numV6) ∈ client.rtRulesV6 iface env := by
  rcases isV6 with ⟨tx, mem, isV6⟩
  have inRange : numV6 ∈
      range' client.routeRuleSetV6 (client.ipv6Set - client.routeRuleSetV6) := by
    rw [mem_range'_1]
    omega
  have isTx : (tx, txIndex) ∈ iface.tx.zipIdx.filter fun tx => tx.1.ip = .v6 := by
    rw [mem_filter]
    exact ⟨mem, by simpa using isV6⟩
  constructor
  · exact ⟨_, mem_flatMap.mpr ⟨_, isTx, mem_flatMap.mpr ⟨_, inRange, mem_cons_self⟩⟩⟩
  · exact ⟨_, mem_flatMap.mpr ⟨_, isTx, mem_flatMap.mpr ⟨_, inRange,
      mem_cons_of_mem _ mem_cons_self⟩⟩⟩

theorem respects_handleWlanClientRouteRule (env : WlanEnv) (ip : IpaIpType) :
    Respects iface (handleWlanClientRouteRule iface env ip (η := η) (μ := μ)) := by
  intro client other same
  have sameClient := same
  rcases same with ⟨v6Addr, wifiRtHdl, rfl, v6, known⟩
  unfold handleWlanClientRouteRule
  dsimp only
  split
  · exact ⟨rfl, sameClient⟩
  · cases ip with
    | v4 =>
        dsimp only
        split
        · have sameRules : rtRulesV4 iface env { client with v6Addr, wifiRtHdl } =
              rtRulesV4 iface env client := rfl
          rcases addRoutingRules_same env (client.rtRulesV4 iface env) client v6Addr
            wifiRtHdl _ known with ⟨added, added', result, result', same⟩
          rw [sameRules, result', result]
          refine ⟨rfl, ?_⟩
          have sameKnown := fun txIndex slot isKnown => same txIndex slot (.inl isKnown)
          split
          · exact ⟨v6Addr, added', rfl, v6, sameKnown⟩
          · exact ⟨v6Addr, added', rfl, v6, sameKnown⟩
        · exact ⟨rfl, sameClient⟩
    | v6 =>
        dsimp only
        split
        · rcases addRoutingRules_same env (client.rtRulesV6 iface env) client v6Addr
            wifiRtHdl _ known with ⟨added, added', result, result', same⟩
          rw [rtRulesV6_congr v6, result', result]
          refine ⟨rfl, ?_⟩
          dsimp only
          split
          · rename_i done
            refine ⟨v6Addr, added', rfl, v6, ?_⟩
            intro txIndex slot isKnown
            apply same
            cases slot with
            | v4 => exact .inl isKnown
            | v6 numV6 =>
                by_cases before : numV6 < client.routeRuleSetV6
                · exact .inl ⟨isKnown.1, before⟩
                · exact .inr ⟨done, (mem_rtRulesV6 isKnown.1 (by omega) isKnown.2).1⟩
            | v6Wan numV6 =>
                by_cases before : numV6 < client.routeRuleSetV6
                · exact .inl ⟨isKnown.1, before⟩
                · exact .inr ⟨done, (mem_rtRulesV6 isKnown.1 (by omega) isKnown.2).2⟩
          · exact ⟨v6Addr, added', rfl, v6, fun txIndex slot isKnown =>
              same txIndex slot (.inl isKnown)⟩
        · exact ⟨rfl, sameClient⟩

section

variable (same : SameClient iface client other)

include same

theorem SameClient.setPowerSave (powerSaveSet : Bool) :
    SameClient iface { client with powerSaveSet } { other with powerSaveSet } := by
  rcases same with ⟨v6Addr, wifiRtHdl, rfl, v6, known⟩
  exact ⟨v6Addr, wifiRtHdl, rfl, v6, known⟩

theorem SameClient.powerSaveSet :
    other.powerSaveSet = client.powerSaveSet := by
  rcases same with ⟨_, _, rfl, _⟩
  rfl

theorem SameClient.ipv4Set :
    other.ipv4Set = client.ipv4Set := by
  rcases same with ⟨_, _, rfl, _⟩
  rfl

theorem SameClient.ipv6Set :
    other.ipv6Set = client.ipv6Set := by
  rcases same with ⟨_, _, rfl, _⟩
  rfl

theorem SameClient.v4Addr :
    other.v4Addr = client.v4Addr := by
  rcases same with ⟨_, _, rfl, _⟩
  rfl

end

theorem respects_pwrsave (env : WlanEnv) :
    Respects iface (pwrsave iface env (η := η) (μ := μ)) := by
  intro client other same
  unfold pwrsave
  simp only [same.handleLan2lanMsgPost, same.powerSaveSet, same.ipv4Set, same.v4Addr]
  split
  · exact ⟨rfl, same⟩
  · rcases respects_deleteDefaultQosRtrulesV4 env client other same with ⟨v4, sameV4⟩
    rcases respects_deleteDefaultQosRtrulesV6 env _ _ sameV4 with ⟨v6, sameV6⟩
    exact ⟨by rw [v4, v6], sameV6.setPowerSave true⟩

theorem respects_recoverV4 (env : WlanEnv) : Respects iface fun client : IpaWlanClient η μ =>
    if client.ipv4Set then
      ((client.handleWlanClientRouteRule iface env .v4).1 ++
        [.resetPwrSaveIf (client.handleWlanClientRouteRule iface env .v4).2.v4Addr],
        (client.handleWlanClientRouteRule iface env .v4).2)
    else ([], client) := by
  intro client other same
  dsimp only
  rw [same.ipv4Set]
  split
  · rcases respects_handleWlanClientRouteRule env .v4 client other same with
      ⟨requests, sameAdded⟩
    exact ⟨by rw [requests, sameAdded.v4Addr], sameAdded⟩
  · exact ⟨rfl, same⟩

theorem respects_recoverV6 (env : WlanEnv) : Respects iface fun client : IpaWlanClient η μ =>
    if client.ipv6Set ≠ 0 then client.handleWlanClientRouteRule iface env .v6 else
      ([], client) := by
  intro client other same
  dsimp only
  rw [same.ipv6Set]
  split
  · exact respects_handleWlanClientRouteRule env .v6 client other same
  · exact ⟨rfl, same⟩

theorem respects_recover (env : WlanEnv) :
    Respects iface (recover iface env (η := η) (μ := μ)) := by
  intro client other same
  unfold recover
  simp only [same.handleLan2lanMsgPost, same.powerSaveSet]
  split
  · rcases respects_recoverV4 env _ _ (same.setPowerSave false) with ⟨v4, sameV4⟩
    rcases respects_recoverV6 env _ _ sameV4 with ⟨v6, sameV6⟩
    dsimp only at v4 v6 sameV6
    exact ⟨by rw [v4, v6], sameV6⟩
  · exact ⟨rfl, same⟩

theorem respects_handleWlanClientIpaddr (env : WlanEnv) (addr : ℕ ⊕ Ipv6Addr) :
    Respects iface (handleWlanClientIpaddr iface env addr (η := η) (μ := μ)) := by
  intro client other same
  unfold handleWlanClientIpaddr
  cases addr with
  | inl ipv4Addr =>
      simp only [same.ipv4Set, same.v4Addr]
      split
      · exact ⟨rfl, same⟩
      · split
        · rcases same with ⟨v6Addr, wifiRtHdl, rfl, v6, known⟩
          exact ⟨rfl, v6Addr, wifiRtHdl, rfl, v6, known⟩
        · split
          · exact ⟨rfl, same⟩
          · rcases respects_deleteDefaultQosRtrulesV4 env client other same with
              ⟨requests, sameDeleted⟩
            rw [requests]
            rcases sameDeleted with ⟨v6Addr, wifiRtHdl, isDeleted, v6, known⟩
            rw [isDeleted]
            exact ⟨rfl, v6Addr, wifiRtHdl, rfl, v6, known⟩
  | inr ipv6Addr =>
      have sameClient := same
      rcases same with ⟨v6Addr, wifiRtHdl, rfl, v6, known⟩
      have seen : (∃ numV6 ∈ range client.ipv6Set, v6Addr numV6 = ipv6Addr) ↔
          ∃ numV6 ∈ range client.ipv6Set, client.v6Addr numV6 = ipv6Addr := by
        apply exists_congr
        intro numV6
        apply and_congr_right
        intro below
        rw [v6 numV6 (mem_range.mp below)]
      simp only [seen]
      split
      · exact ⟨rfl, sameClient⟩
      · split
        · exact ⟨rfl, sameClient⟩
        · split
          · exact ⟨rfl, sameClient⟩
          · refine ⟨rfl, _, wifiRtHdl, rfl, ?_, known⟩
            intro numV6 below
            dsimp only at below ⊢
            by_cases isNew : numV6 = client.ipv6Set
            · subst isNew
              simp
            · rw [update_of_ne isNew, update_of_ne isNew]
              apply v6
              omega

theorem respects_neighAdd (env : WlanEnv) (addr : ℕ ⊕ Ipv6Addr) :
    Respects iface (neighAdd iface env addr (η := η) (μ := μ)) := by
  intro client other same
  unfold neighAdd
  rcases respects_handleWlanClientIpaddr env addr client other same with ⟨entered, sameEntered⟩
  simp only [entered]
  split
  · cases addr with
    | inl ipv4Addr =>
        rcases respects_handleWlanClientRouteRule env .v4 _ _ sameEntered with
          ⟨routed, sameRouted⟩
        exact ⟨by rw [routed], sameRouted⟩
    | inr ipv6Addr =>
        rcases respects_handleWlanClientRouteRule env .v6 _ _ sameEntered with
          ⟨routed, sameRouted⟩
        exact ⟨by rw [routed], sameRouted⟩
  · exact ⟨rfl, sameEntered⟩

theorem respects_tearDown (env : WlanEnv) :
    Respects iface (tearDown iface env (η := η) (μ := μ)) := by
  intro client other same
  unfold tearDown
  rcases respects_deleteDefaultQosRtrulesV4 env client other same with ⟨v4, sameV4⟩
  rcases respects_deleteDefaultQosRtrulesV6 env _ _ sameV4 with ⟨v6, sameV6⟩
  simp only [v4, v6, same.ipv4Set, same.v4Addr]
  split
  · split
    · -- the headers are the same, and no array entry of the client is in use afterwards
      have sameClient := sameV6
      rcases sameV6 with ⟨v6Addr, wifiRtHdl, isOther, addrs, known⟩
      rw [isOther] at sameClient ⊢
      generalize ((client.deleteDefaultQosRtrulesV4 iface env).2.deleteDefaultQosRtrulesV6 iface
        env).2 = cleared at *
      dsimp only
      generalize requestAll WlanRequest.deleteHeaderHdl env.deleteHeaderHdl
        (if cleared.ipv4HeaderSet = true then [cleared.hdrHdlV4] else []) = hdrV4
      generalize requestAll WlanRequest.deleteHeaderHdl env.deleteHeaderHdl
        (if cleared.ipv6HeaderSet = true then [cleared.hdrHdlV6] else []) = hdrV6
      split
      · split
        · refine ⟨rfl, v6Addr, wifiRtHdl, rfl, fun numV6 below =>
            absurd below (Nat.not_lt_zero _), ?_⟩
          intro txIndex slot isKnown
          cases slot with
          | v4 => exact known txIndex .v4 isKnown
          | v6 numV6 => exact absurd isKnown.2 (Nat.not_lt_zero _)
          | v6Wan numV6 => exact absurd isKnown.2 (Nat.not_lt_zero _)
        · exact ⟨rfl, v6Addr, wifiRtHdl, rfl, addrs, known⟩
      · exact ⟨rfl, sameClient⟩
    · exact ⟨rfl, sameV6⟩
  · exact ⟨rfl, sameV4⟩

theorem SameClient.copyFrom {next nextOther : IpaWlanClient η μ}
    (same : SameClient iface client other) (sameNext : SameClient iface next nextOther) :
    SameClient iface (client.copyFrom iface.tx.length next)
      (other.copyFrom iface.tx.length nextOther) := by
  rcases same with ⟨v6Addr, wifiRtHdl, rfl, _, _⟩
  rcases sameNext with ⟨v6AddrNext, wifiRtHdlNext, rfl, v6, known⟩
  refine ⟨_, _, rfl, ?_, ?_⟩
  · intro numV6 below
    have isSet : numV6 < next.ipv6Set := below
    simp only [IpaWlanClient.copyFrom, isSet, if_true]
    exact v6 numV6 isSet
  · intro txIndex slot isKnown
    have same := known txIndex slot isKnown
    cases slot with
    | v4 =>
        rcases isKnown with ⟨tx, mem, _⟩
        have isTx : txIndex < iface.tx.length := by
          simpa using snd_lt_of_mem_zipIdx mem
        simpa only [readRtHdl, IpaWlanClient.copyFrom, isTx, if_true] using same
    | v6 numV6 | v6Wan numV6 =>
        rcases isKnown with ⟨⟨tx, mem, _⟩, below⟩
        have isTx : txIndex < iface.tx.length := by
          simpa using snd_lt_of_mem_zipIdx mem
        have isSet : numV6 < next.routeRuleSetV6 := below
        simpa only [readRtHdl, IpaWlanClient.copyFrom, isTx, isSet, if_true] using same

structure SameRecord (numTxProps : ℕ) (client moved : IpaWlanClient η μ) : Prop where
  pHdrInfo : moved.pHdrInfo = client.pHdrInfo
  mac : moved.mac = client.mac
  v4Addr : moved.v4Addr = client.v4Addr
  hdrHdlV4 : moved.hdrHdlV4 = client.hdrHdlV4
  hdrHdlV6 : moved.hdrHdlV6 = client.hdrHdlV6
  routeRuleSetV4 : moved.routeRuleSetV4 = client.routeRuleSetV4
  routeRuleSetV6 : moved.routeRuleSetV6 = client.routeRuleSetV6
  ipv4Set : moved.ipv4Set = client.ipv4Set
  ipv6Set : moved.ipv6Set = client.ipv6Set
  ipv4HeaderSet : moved.ipv4HeaderSet = client.ipv4HeaderSet
  ipv6HeaderSet : moved.ipv6HeaderSet = client.ipv6HeaderSet
  powerSaveSet : moved.powerSaveSet = client.powerSaveSet
  v6Addr : ∀ numV6 < client.ipv6Set, moved.v6Addr numV6 = client.v6Addr numV6
  rtHdlV4 : ∀ txIndex < numTxProps,
    readRtHdl moved.wifiRtHdl txIndex .v4 = readRtHdl client.wifiRtHdl txIndex .v4
  rtHdlV6 : ∀ txIndex < numTxProps, ∀ numV6 < client.routeRuleSetV6,
    readRtHdl moved.wifiRtHdl txIndex (.v6 numV6) = readRtHdl client.wifiRtHdl txIndex (.v6 numV6) ∧
      readRtHdl moved.wifiRtHdl txIndex (.v6Wan numV6) =
        readRtHdl client.wifiRtHdl txIndex (.v6Wan numV6)

theorem SameRecord.refl (numTxProps : ℕ) (client : IpaWlanClient η μ) :
    SameRecord numTxProps client client := by
  constructor <;> intros <;> (try constructor) <;> rfl

theorem SameRecord.sameClient {moved : IpaWlanClient η μ}
    (same : SameRecord iface.tx.length client moved) : SameClient iface client moved := by
  refine ⟨moved.v6Addr, moved.wifiRtHdl, ?_, same.v6Addr, ?_⟩
  · cases moved
    cases client
    rcases same with ⟨rfl, rfl, rfl, rfl, rfl, rfl, rfl, rfl, rfl, rfl, rfl, rfl, _, _, _⟩
    rfl
  · intro txIndex slot isKnown
    cases slot with
    | v4 =>
        rcases isKnown with ⟨tx, mem, _⟩
        exact same.rtHdlV4 txIndex (by simpa using snd_lt_of_mem_zipIdx mem)
    | v6 numV6 =>
        rcases isKnown with ⟨⟨tx, mem, _⟩, below⟩
        exact (same.rtHdlV6 txIndex (by simpa using snd_lt_of_mem_zipIdx mem) numV6 below).1
    | v6Wan numV6 =>
        rcases isKnown with ⟨⟨tx, mem, _⟩, below⟩
        exact (same.rtHdlV6 txIndex (by simpa using snd_lt_of_mem_zipIdx mem) numV6 below).2

theorem sameRecord_copyFrom {next : IpaWlanClient η μ} {numTxProps : ℕ} :
    SameRecord numTxProps next (client.copyFrom numTxProps next) ↔
      client.powerSaveSet = next.powerSaveSet := by
  constructor
  · exact fun same => same.powerSaveSet
  · intro samePowerSave
    refine ⟨rfl, rfl, rfl, rfl, rfl, rfl, rfl, rfl, rfl, rfl, rfl, samePowerSave, ?_, ?_, ?_⟩
    · intro numV6 below
      simp [copyFrom, below]
    · intro txIndex isTx
      simp [copyFrom, readRtHdl, isTx]
    · intro txIndex isTx numV6 below
      simp [copyFrom, readRtHdl, isTx, below]

def DeletesOk (iface : WlanIface) (env : WlanEnv) (client : IpaWlanClient η μ) : Prop :=
  (∀ rtHdl ∈ client.rtHdlsV4 iface, env.deleteRoutingHdl rtHdl .v4 = true) ∧
    (∀ rtHdl ∈ client.rtHdlsV6 iface, env.deleteRoutingHdl rtHdl .v6 = true) ∧
    (client.ipv4HeaderSet = true → env.deleteHeaderHdl client.hdrHdlV4 = true) ∧
    (client.ipv6HeaderSet = true → env.deleteHeaderHdl client.hdrHdlV6 = true)

theorem requestAll_succeeds {α : Type} {request : α → WlanRequest} {answer : α → Bool}
    (items : List α) : (requestAll request answer items).2 = true ↔ ∀ item ∈ items, answer item =
      true := by
  induction items with
  | nil => simp [requestAll]
  | cons first rest ih =>
      unfold requestAll
      split
      · rename_i accepted
        simp [ih, accepted]
      · rename_i refused
        simp [refused]

theorem deleteHeader_succeeds {headerSet : Bool} {hdrHdl : ℕ} :
    (requestAll WlanRequest.deleteHeaderHdl env.deleteHeaderHdl
      (if headerSet = true then [hdrHdl] else [])).2 = true ↔
        (headerSet = true → env.deleteHeaderHdl hdrHdl = true) := by
  rw [requestAll_succeeds]
  cases headerSet <;> simp

theorem deleteDefaultQosRtrulesV4_fields (iface : WlanIface) (env : WlanEnv)
    (client : IpaWlanClient η μ) : ∃ routeRuleSetV4,
      (client.deleteDefaultQosRtrulesV4 iface env).2 = { client with routeRuleSetV4 } := by
  unfold deleteDefaultQosRtrulesV4
  dsimp only
  split
  · exact ⟨false, rfl⟩
  · exact ⟨client.routeRuleSetV4, rfl⟩

theorem deleteDefaultQosRtrulesV6_fields (iface : WlanIface) (env : WlanEnv)
    (client : IpaWlanClient η μ) : ∃ routeRuleSetV6,
      (client.deleteDefaultQosRtrulesV6 iface env).2 = { client with routeRuleSetV6 } := by
  unfold deleteDefaultQosRtrulesV6
  dsimp only
  split
  · exact ⟨0, rfl⟩
  · exact ⟨client.routeRuleSetV6, rfl⟩

theorem tearDown_succeeds :
    (client.tearDown iface env).1.2 = true ↔ DeletesOk iface env client := by
  rcases deleteDefaultQosRtrulesV4_fields iface env client with ⟨setV4, clearedV4⟩
  rcases deleteDefaultQosRtrulesV6_fields iface env { client with routeRuleSetV4 := setV4 } with
    ⟨setV6, clearedV6⟩
  have deletesV4 : (client.deleteDefaultQosRtrulesV4 iface env).1.2 = true ↔
      ∀ rtHdl ∈ client.rtHdlsV4 iface, env.deleteRoutingHdl rtHdl .v4 = true :=
    requestAll_succeeds _
  have deletesV6 : ({ client with routeRuleSetV4 := setV4 }.deleteDefaultQosRtrulesV6 iface
      env).1.2 = true ↔ ∀ rtHdl ∈ client.rtHdlsV6 iface, env.deleteRoutingHdl rtHdl .v6 = true :=
    requestAll_succeeds _
  unfold tearDown DeletesOk
  simp only [clearedV4, clearedV6]
  rw [← deletesV4, ← deletesV6, ← deleteHeader_succeeds, ← deleteHeader_succeeds]
  generalize requestAll WlanRequest.deleteHeaderHdl env.deleteHeaderHdl
    (if client.ipv4HeaderSet = true then [client.hdrHdlV4] else []) = hdrV4
  generalize requestAll WlanRequest.deleteHeaderHdl env.deleteHeaderHdl
    (if client.ipv6HeaderSet = true then [client.hdrHdlV6] else []) = hdrV6
  split
  · rename_i doneV4
    split
    · rename_i doneV6
      split
      · rename_i doneHdrV4
        split
        · rename_i doneHdrV6
          simp [doneV4, doneV6, doneHdrV4, doneHdrV6]
        · rename_i failed
          simp [failed]
      · rename_i failed
        simp [failed]
    · rename_i failed
      simp [failed]
  · rename_i failed
    simp [failed]

end IpaWlanClient

namespace WlanClients

open IpaWlanClient

variable [DecidableEq μ] {clients others : WlanClients η μ}

structure SameClients (iface : WlanIface) (clients others : WlanClients η μ) : Prop where
  numWifiClient : others.numWifiClient = clients.numWifiClient
  totalNumWifiClients : others.totalNumWifiClients = clients.totalNumWifiClients
  requests : others.requests = clients.requests
  wlanClient : ∀ cnt < clients.numWifiClient,
    SameClient iface (clients.wlanClient cnt) (others.wlanClient cnt)

omit [DecidableEq μ] in
theorem SameClient.mac {client other : IpaWlanClient η μ} (same : SameClient iface client other) :
    other.mac = client.mac := by
  rcases same with ⟨_, _, rfl, _⟩
  rfl

theorem SameClients.getWlanClientIndex (same : SameClients iface clients others) (mac : μ) :
    others.getWlanClientIndex mac = clients.getWlanClientIndex mac := by
  unfold WlanClients.getWlanClientIndex
  rw [same.numWifiClient]
  apply find?_congr
  intro cnt mem
  rw [SameClient.mac (same.wlanClient cnt (mem_range.mp mem))]

theorem getWlanClientIndex_eq_some {mac : μ} {index : ℕ}
    (found : clients.getWlanClientIndex mac = some index) :
    index < clients.numWifiClient ∧ (clients.wlanClient index).mac = mac := by
  have mem := mem_of_find?_eq_some found
  have isMac := find?_some found
  exact ⟨mem_range.mp mem, by simpa using isMac⟩

theorem SameClients.atClient (same : SameClients iface clients others) (mac : μ)
    {handle : IpaWlanClient η μ → List WlanRequest × IpaWlanClient η μ}
    (respects : Respects iface handle) :
    SameClients iface (clients.atClient mac handle) (others.atClient mac handle) := by
  unfold WlanClients.atClient
  rw [same.getWlanClientIndex]
  split
  · exact same
  · rename_i index found
    rcases respects _ _ (same.wlanClient index (getWlanClientIndex_eq_some found).1) with
      ⟨requests, sameHandled⟩
    refine ⟨same.numWifiClient, same.totalNumWifiClients, ?_, ?_⟩
    · dsimp only
      rw [requests, same.requests]
    · intro cnt below
      by_cases isIndex : cnt = index
      · subst isIndex
        simpa using sameHandled
      · simpa [isIndex] using same.wlanClient cnt below

omit [DecidableEq μ] in
theorem closeUp_eq (numTxProps count cltIndx : ℕ) (wlanClient : ℕ → IpaWlanClient η μ) (cnt : ℕ) :
    closeUp numTxProps count cltIndx wlanClient cnt =
      if cltIndx ≤ cnt ∧ cnt < cltIndx + count then
        (wlanClient cnt).copyFrom numTxProps (wlanClient (cnt + 1))
      else wlanClient cnt := by
  induction count generalizing cltIndx wlanClient with
  | zero =>
      rw [if_neg (by omega)]
      rfl
  | succ count ih =>
      unfold closeUp
      rw [ih]
      by_cases isFirst : cnt = cltIndx
      · subst isFirst
        rw [if_neg (by omega), if_pos (by omega), update_self]
      · have notNext : cnt + 1 ≠ cltIndx ∨ ¬ cltIndx + 1 ≤ cnt := by omega
        rw [update_of_ne isFirst]
        by_cases inside : cltIndx + 1 ≤ cnt ∧ cnt < cltIndx + 1 + count
        · rw [if_pos inside, if_pos (by omega), update_of_ne (by omega)]
        · rw [if_neg inside, if_neg (by omega)]

theorem SameClients.handleWlanClientDownEvt (same : SameClients iface clients others) (mac : μ) :
    SameClients iface (clients.handleWlanClientDownEvt iface env mac)
      (others.handleWlanClientDownEvt iface env mac) := by
  unfold WlanClients.handleWlanClientDownEvt
  rw [same.getWlanClientIndex]
  split
  · exact same
  · rename_i index found
    have inTable := (getWlanClientIndex_eq_some found).1
    rcases respects_tearDown env _ _ (same.wlanClient index inTable) with
      ⟨tornDown, sameTornDown⟩
    have sameSlots : ∀ cnt < clients.numWifiClient, SameClient iface
        (update clients.wlanClient index
          ((clients.wlanClient index).tearDown iface env).2 cnt)
        (update others.wlanClient index
          ((others.wlanClient index).tearDown iface env).2 cnt) := by
      intro cnt below
      by_cases isIndex : cnt = index
      · subst isIndex
        simpa using sameTornDown
      · simpa [isIndex] using same.wlanClient cnt below
    simp only [tornDown, same.requests, same.numWifiClient, same.totalNumWifiClients]
    split
    · refine ⟨rfl, rfl, rfl, ?_⟩
      intro cnt below
      dsimp only at below ⊢
      rw [closeUp_eq, closeUp_eq]
      split
      · exact (sameSlots cnt (by omega)).copyFrom (sameSlots (cnt + 1) (by omega))
      · exact sameSlots cnt (by omega)
    · exact ⟨rfl, rfl, rfl, sameSlots⟩

omit [DecidableEq μ] in
theorem respects_postDisconnect (env : WlanEnv) :
    Respects iface (postDisconnect env (η := η) (μ := μ)) := by
  intro client other same
  unfold postDisconnect
  simp only [same.handleLan2lanMsgPost]
  exact ⟨trivial, same⟩

theorem SameClients.eventCallback (same : SameClients iface clients others) (event : WlanEvent μ) :
    SameClients iface (clients.eventCallback iface env event)
      (others.eventCallback iface env event) := by
  cases event with
  | powerSave mac => exact same.atClient mac (respects_pwrsave env)
  | recover mac => exact same.atClient mac (respects_recover env)
  | neighIpAddrAdd mac addr => exact same.atClient mac (respects_neighAdd env addr)
  | clientDel mac => exact (same.atClient mac
    (respects_postDisconnect env)).handleWlanClientDownEvt mac

theorem SameClients.runEvents (same : SameClients iface clients others)
    (events : List (WlanEnv × WlanEvent μ)) :
    SameClients iface (clients.runEvents iface events) (others.runEvents iface events) := by
  induction events generalizing clients others with
  | nil => exact same
  | cons first rest ih => exact ih (same.eventCallback first.2)

def without (clients : WlanClients η μ) (index : ℕ) (requests : List WlanRequest) :
    WlanClients η μ where
  wlanClient cnt := if cnt < index then clients.wlanClient cnt else clients.wlanClient (cnt + 1)
  numWifiClient := clients.numWifiClient - 1
  totalNumWifiClients := clients.totalNumWifiClients - 1
  requests

/-- The client at an index has been removed and nothing else: whatever events come, the same
requests are made as if the client had never been there. -/
structure RemovesExactly (iface : WlanIface) (clients : WlanClients η μ) (index : ℕ)
    (after : WlanClients η μ) : Prop where
  numWifiClient : after.numWifiClient + 1 = clients.numWifiClient
  before : ∀ cnt < index, SameRecord iface.tx.length (clients.wlanClient cnt) (after.wlanClient cnt)
  later : ∀ cnt, index ≤ cnt → cnt + 1 < clients.numWifiClient →
    SameRecord iface.tx.length (clients.wlanClient (cnt + 1)) (after.wlanClient cnt)
  behaves : ∀ events, (after.runEvents iface events).requests =
    ((clients.without index after.requests).runEvents iface events).requests

def SamePowerSave (clients : WlanClients η μ) (index : ℕ) : Prop :=
  ∀ cnt, index ≤ cnt → cnt + 1 < clients.numWifiClient →
    (clients.wlanClient cnt).powerSaveSet = (clients.wlanClient (cnt + 1)).powerSaveSet

omit [DecidableEq μ] in
theorem tearDown_powerSaveSet (client : IpaWlanClient η μ) :
    (client.tearDown iface env).2.powerSaveSet = client.powerSaveSet := by
  rcases deleteDefaultQosRtrulesV4_fields iface env client with ⟨setV4, clearedV4⟩
  rcases deleteDefaultQosRtrulesV6_fields iface env { client with routeRuleSetV4 := setV4 } with
    ⟨setV6, clearedV6⟩
  unfold tearDown
  simp only [clearedV4, clearedV6]
  generalize requestAll WlanRequest.deleteHeaderHdl env.deleteHeaderHdl
    (if client.ipv4HeaderSet = true then [client.hdrHdlV4] else []) = hdrV4
  generalize requestAll WlanRequest.deleteHeaderHdl env.deleteHeaderHdl
    (if client.ipv6HeaderSet = true then [client.hdrHdlV6] else []) = hdrV6
  split
  · split
    · split
      · split <;> rfl
      · rfl
    · rfl
  · rfl

/-- A client of the table is removed, and nothing else, exactly when the driver accepts the
deletions and the clients from it on have the same power-save flag. -/
theorem handleWlanClientDownEvt_removesExactly (clients : WlanClients η μ) (mac : μ) {index : ℕ}
    (found : clients.getWlanClientIndex mac = some index) :
    RemovesExactly iface clients index (clients.handleWlanClientDownEvt iface env mac) ↔
      DeletesOk iface env (clients.wlanClient index) ∧ SamePowerSave clients index := by
  have inTable := (getWlanClientIndex_eq_some found).1
  unfold WlanClients.handleWlanClientDownEvt
  simp only [found]
  rw [← tearDown_succeeds]
  split
  · rename_i succeeds
    rw [and_iff_right succeeds]
    generalize isTorn : ((clients.wlanClient index).tearDown iface env).2 = torn
    have tornPowerSave : torn.powerSaveSet = (clients.wlanClient index).powerSaveSet := by
      rw [← isTorn]
      exact tearDown_powerSaveSet _
    generalize isClosed : closeUp iface.tx.length (clients.numWifiClient - 1 - index) index
      (update clients.wlanClient index torn) = closed
    have before : ∀ cnt < index, closed cnt = clients.wlanClient cnt := by
      intro cnt below
      rw [← isClosed, closeUp_eq, if_neg (by omega), update_of_ne (by omega)]
    have later : ∀ cnt, index ≤ cnt → cnt + 1 < clients.numWifiClient → ∃ old : IpaWlanClient η μ,
        old.powerSaveSet = (clients.wlanClient cnt).powerSaveSet ∧
          closed cnt = old.copyFrom iface.tx.length (clients.wlanClient (cnt + 1)) := by
      intro cnt above inTable
      refine ⟨update clients.wlanClient index torn cnt, ?_, ?_⟩
      · by_cases isIndex : cnt = index
        · subst isIndex
          rw [update_self, tornPowerSave]
        · rw [update_of_ne isIndex]
      · rw [← isClosed, closeUp_eq, if_pos (by omega),
          update_of_ne (show cnt + 1 ≠ index by omega)]
    constructor
    · intro removes cnt above inTable
      rcases later cnt above inTable with ⟨old, oldPowerSave, isCopy⟩
      have sameRecord := removes.later cnt above inTable
      dsimp only at sameRecord
      rw [isCopy, sameRecord_copyFrom] at sameRecord
      exact oldPowerSave.symm.trans sameRecord
    · intro samePowerSave
      have sameBefore : ∀ cnt < index,
          SameRecord iface.tx.length (clients.wlanClient cnt) (closed cnt) := by
        intro cnt below
        rw [before cnt below]
        exact SameRecord.refl _ _
      have sameLater : ∀ cnt, index ≤ cnt → cnt + 1 < clients.numWifiClient →
          SameRecord iface.tx.length (clients.wlanClient (cnt + 1)) (closed cnt) := by
        intro cnt above inTable
        rcases later cnt above inTable with ⟨old, oldPowerSave, isCopy⟩
        rw [isCopy, sameRecord_copyFrom]
        exact oldPowerSave.trans (samePowerSave cnt above inTable)
      have sameClients : ∀ requests, SameClients iface (clients.without index requests)
          ⟨closed, clients.numWifiClient - 1, clients.totalNumWifiClients - 1, requests⟩ := by
        intro requests
        refine ⟨rfl, rfl, rfl, fun cnt inTable => ?_⟩
        dsimp only [without] at inTable ⊢
        split
        · rename_i below
          exact (sameBefore cnt below).sameClient
        · rename_i above
          exact (sameLater cnt (by omega) (by omega)).sameClient
      exact ⟨by dsimp only; omega, sameBefore, sameLater,
        fun events => ((sameClients _).runEvents events).requests⟩
  · rename_i fails
    refine iff_of_false ?_ fun both => fails both.1
    intro removes
    have numWifiClient := removes.numWifiClient
    dsimp only at numWifiClient
    omega

def attached (mac : ℕ) (powerSaveSet : Bool) : IpaWlanClient Unit ℕ where
  pHdrInfo := ()
  mac
  v4Addr := 0
  v6Addr _ := ⟨0, 0, 0, 0⟩
  hdrHdlV4 := mac
  hdrHdlV6 := mac
  routeRuleSetV4 := false
  routeRuleSetV6 := 0
  ipv4Set := false
  ipv6Set := 0
  ipv4HeaderSet := true
  ipv6HeaderSet := false
  powerSaveSet
  wifiRtHdl _ := ⟨0, fun _ => 0, fun _ => 0⟩

def twoClients (firstSaves : Bool) : WlanClients Unit ℕ where
  wlanClient cnt := if cnt = 0 then attached 0 firstSaves else attached 1 false
  numWifiClient := 2
  totalNumWifiClients := 2
  requests := []

def accepting : WlanEnv where
  isMccMode := false
  ipv4Up := true
  ipv6Up := true
  allocates := true
  deleteRoutingHdl _ _ := true
  deleteHeaderHdl _ := true
  addRoutingRule _ := some 0

def oneTxProp : WlanIface := ⟨some [⟨.v4, 1, 2, 0⟩], 0⟩

theorem handleWlanClientDownEvt_removesExactly_awake :
    RemovesExactly oneTxProp (twoClients false) 0
      ((twoClients false).handleWlanClientDownEvt oneTxProp accepting 0) := by
  apply (handleWlanClientDownEvt_removesExactly (twoClients false) 0 (by decide)).mpr
  constructor
  · exact ⟨fun _ _ => rfl, fun _ _ => rfl, fun _ => rfl, fun _ => rfl⟩
  · intro cnt _ inTable
    have isFirst : cnt = 0 := by
      simp only [twoClients] at inTable
      omega
    subst isFirst
    rfl

/-- When the first client is in power save, the second one is in power save after its
removal. -/
theorem handleWlanClientDownEvt_moves_powerSave :
    ¬ ∀ (clients : WlanClients Unit ℕ) (mac index : ℕ),
      clients.getWlanClientIndex mac = some index →
        RemovesExactly oneTxProp clients index
          (clients.handleWlanClientDownEvt oneTxProp accepting mac) := by
  intro removes
  have sameRecord := (removes (twoClients true) 0 0 (by decide)).later 0 (by decide) (by decide)
  have powerSave := sameRecord.powerSaveSet
  revert powerSave
  decide

end WlanClients

end HtcPme.Ipacm
