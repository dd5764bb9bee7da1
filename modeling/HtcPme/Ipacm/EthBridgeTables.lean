import HtcPme.Ipacm.EthBridge
import Mathlib.Data.List.Perm.Subperm

/-!
# The tables of the bridging rules

What adding and deleting the rules of a client keeps: the kernel has exactly the rules of the
tables, with a handle for each tx property.
-/

namespace HtcPme.Ipacm

open List Function

def EthBridgeSrcIface.other : EthBridgeSrcIface → EthBridgeSrcIface
  | .srcWlan => .srcLan
  | .srcLan => .srcWlan

theorem EthBridgeSrcIface.other_ne (src : EthBridgeSrcIface) : src.other ≠ src := by
  cases src <;> decide

namespace EthRtTables

variable {μ : Type*} (iface : EthIface) (tables : EthRtTables μ)

def targets (key : EthBridgeSrcIface × IpaIpType) (mac : μ) : List (EthBridgeSrcIface × ℕ × μ) :=
  (iface.txProp.filter (·.ip = key.2)).map fun tx => (key.1, tx.dstPipe, mac)

def block (key : EthBridgeSrcIface × IpaIpType) (info : EthBridgeClientRtInfo μ) :
    List (ℕ × EthBridgeSrcIface × ℕ × μ) :=
  info.rtRuleHdl.zip (targets iface key info.mac)

def listing (key : EthBridgeSrcIface × IpaIpType) : List (ℕ × EthBridgeSrcIface × ℕ × μ) :=
  (tables.rtInfo key).flatMap (block iface key)

structure Ok : Prop where
  nodup : ∀ key, (tables.macs key).Nodup
  within : ∀ key, (tables.rtInfo key).length ≤ allocated key
  reach : ∀ key, tables.reach key ≤ allocated key
  hdls : ∀ key, ∀ info ∈ tables.rtInfo key,
    info.rtRuleHdl.length = iface.eachClientRtRuleCount key.2
  booked : ∀ src ip, ((tables.kernel ip).view EthRtRule.target).Perm
    (tables.listing iface (src, ip) ++ tables.listing iface (src.other, ip))

variable {iface tables} {ctxs : HdrProcCtxs} {source : HandleSource} {mac : μ}
  {src : EthBridgeSrcIface} {ip : IpaIpType}

theorem init_ok : (init : EthRtTables μ).Ok iface where
  nodup _ := nodup_nil
  within _ := Nat.zero_le _
  reach _ := Nat.zero_le _
  hdls _ _ listed := by cases listed
  booked _ _ := .refl _

@[simp]
theorem maxClient_eq (key : EthBridgeSrcIface × IpaIpType) : maxClient key.1 = allocated key := by
  rcases key with ⟨src, ip⟩
  cases src <;> cases ip <;> rfl

theorem map_target_clientRules :
    (clientRules iface ctxs mac src ip).map EthRtRule.target = targets iface (src, ip) mac := by
  simp [clientRules, targets, EthRtRule.target, comp_def]

theorem Ok.access (ok : tables.Ok iface) (key : EthBridgeSrcIface × IpaIpType) {upTo : ℕ}
    (within : upTo ≤ allocated key) : (tables.access key upTo).Ok iface where
  nodup := ok.nodup
  within := ok.within
  reach key' := by
    by_cases same : key' = key
    · subst same
      simpa [EthRtTables.access] using Nat.max_le.mpr ⟨ok.reach key', within⟩
    · simpa [EthRtTables.access, same] using ok.reach key'
  hdls := ok.hdls
  booked := ok.booked

theorem booked_of {ip : IpaIpType} (src : EthBridgeSrcIface)
    (booked : ((tables.kernel ip).view EthRtRule.target).Perm
      (tables.listing iface (src, ip) ++ tables.listing iface (src.other, ip)))
    (src' : EthBridgeSrcIface) : ((tables.kernel ip).view EthRtRule.target).Perm
      (tables.listing iface (src', ip) ++ tables.listing iface (src'.other, ip)) := by
  cases src <;> cases src' <;> first | exact booked | exact booked.trans perm_append_comm

theorem Ok.put (ok : tables.Ok iface) (notFull : (tables.rtInfo (src, ip)).length < allocated
    (src, ip))
    (isNew : mac ∉ tables.macs (src, ip)) {rules : List (EthRtRule μ)}
    (forClient : rules.map EthRtRule.target = targets iface (src, ip) mac) :
    Ok iface
      { tables with
        kernel := update tables.kernel ip ((tables.kernel ip).add source rules).2
        rtInfo := update tables.rtInfo (src, ip)
          (tables.rtInfo (src, ip) ++ [⟨mac, ((tables.kernel ip).add source rules).1⟩]) } where
  nodup key := by
    by_cases same : key = (src, ip)
    · subst same
      have fresh := (ok.nodup (src, ip)).concat isNew
      simpa [macs] using fresh
    · simpa [macs, same] using ok.nodup key
  within key := by
    by_cases same : key = (src, ip)
    · subst same
      simpa using Nat.succ_le_of_lt notFull
    · simpa [same] using ok.within key
  reach := ok.reach
  hdls key info listed := by
    by_cases same : key = (src, ip)
    · subst same
      simp only [update_self, mem_append, mem_singleton] at listed
      rcases listed with before | rfl
      · exact ok.hdls _ info before
      · have length := congrArg length forClient
        simpa [HandleTable.length_add, targets, EthIface.eachClientRtRuleCount] using length
    · exact ok.hdls key info (by simpa [same] using listed)
  booked := by
    intro src' ip'
    by_cases same : ip' = ip
    · subst same
      apply booked_of src
      have others : src.other ≠ src := src.other_ne
      have before := ok.booked src ip'
      simp only [listing, update_self, HandleTable.view_add, forClient,
        flatMap_append, flatMap_singleton, ne_eq, Prod.mk.injEq, others, false_and,
        not_false_eq_true, update_of_ne]
      apply (before.append_right _).trans
      rw [append_assoc, append_assoc]
      exact perm_append_comm.append_left _
    · simpa [listing, same] using ok.booked src' ip'

variable [DecidableEq μ]

section

variable (ok : tables.Ok iface)

include ok

theorem Ok.remove {info : EthBridgeClientRtInfo μ}
    (isFound : (tables.rtInfo (src, ip)).find? (·.mac = mac) = some info) :
    Ok iface
      { tables with
        kernel := update tables.kernel ip ((tables.kernel ip).deleteAll info.rtRuleHdl)
        rtInfo := update tables.rtInfo (src, ip)
          ((tables.rtInfo (src, ip)).eraseP (·.mac = mac)) } where
  nodup key := by
    by_cases same : key = (src, ip)
    · subst same
      simpa [macs] using (ok.nodup (src, ip)).sublist ((eraseP_sublist).map _)
    · simpa [macs, same] using ok.nodup key
  within key := by
    by_cases same : key = (src, ip)
    · subst same
      simpa using (eraseP_sublist.length_le).trans (ok.within (src, ip))
    · simpa [same] using ok.within key
  reach := ok.reach
  hdls key info' listed := by
    by_cases same : key = (src, ip)
    · subst same
      apply ok.hdls _ info'
      exact mem_of_mem_eraseP (by simpa using listed)
    · exact ok.hdls key info' (by simpa [same] using listed)
  booked := by
    intro src' ip'
    by_cases same : ip' = ip
    · subst same
      apply booked_of src
      have others : src.other ≠ src := src.other_ne
      have ofInfo : (block iface (src, ip') info).map Prod.fst = info.rtRuleHdl := by
        apply map_fst_zip
        have length := ok.hdls _ info (mem_of_find?_eq_some isFound)
        simp [length, targets, EthIface.eachClientRtRuleCount]
      have before : ((tables.kernel ip').view EthRtRule.target).Perm
          (block iface (src, ip') info ++
            (((tables.rtInfo (src, ip')).eraseP (·.mac = mac)).flatMap (block iface (src, ip')) ++
              tables.listing iface (src.other, ip'))) := by
        rw [← append_assoc]
        apply (ok.booked src ip').trans
        exact (HandleTable.flatMap_perm_eraseP isFound).append_right _
      have removed := HandleTable.view_deleteAll_perm before
      rw [ofInfo] at removed
      simpa [listing, others] using removed
    · simpa [listing, same] using ok.booked src' ip'

theorem Ok.ethBridgeAddLanClientRtRule :
    (tables.ethBridgeAddLanClientRtRule iface ctxs source mac src ip).Ok iface := by
  simp only [EthRtTables.ethBridgeAddLanClientRtRule]
  split_ifs with noCtx noLanCtx full before
  · exact ok
  · exact ok
  · exact ok
  · exact ok.access _ (ok.within _)
  · have notFull : (tables.rtInfo (src, ip)).length < allocated (src, ip) := by
      rw [maxClient_eq (src, ip)] at full
      have within := ok.within (src, ip)
      omega
    exact (ok.access (src, ip) notFull).put notFull before map_target_clientRules

theorem Ok.delFromTable {tables' : EthRtTables μ}
    (deleted : tables.delFromTable mac src ip = some tables') : tables'.Ok iface := by
  simp only [EthRtTables.delFromTable] at deleted
  split at deleted
  · cases deleted
  · next info isFound =>
    cases deleted
    exact (ok.access (src, ip) (ok.within _)).remove isFound

theorem Ok.ethBridgeDelLanClientRtRule :
    (tables.ethBridgeDelLanClientRtRule mac src).Ok iface := by
  simp only [EthRtTables.ethBridgeDelLanClientRtRule]
  split
  · exact ok.access _ (ok.within _)
  · next half deleted =>
    have halfOk := ok.delFromTable deleted
    split
    · exact halfOk.access _ (halfOk.within _)
    · next whole deleted' => exact halfOk.delFromTable deleted'

theorem Ok.addLanClientRtRules :
    (tables.addLanClientRtRules iface ctxs source mac src).Ok iface :=
  ok.ethBridgeAddLanClientRtRule.ethBridgeAddLanClientRtRule

end

def WlanMacs (tables : EthRtTables μ) (listed : List μ) : Prop :=
  ∀ ip, tables.macs (.srcWlan, ip) = listed

variable {listed : List μ}

theorem macs_addLan (key : EthBridgeSrcIface × IpaIpType) (differs : key ≠ (src, ip)) :
    (tables.ethBridgeAddLanClientRtRule iface ctxs source mac src ip).macs key =
      tables.macs key := by
  simp only [ethBridgeAddLanClientRtRule]
  split_ifs <;> simp [macs, access, differs]

theorem macs_addWlan (valid : ctxs.wlanToUsb.valid = true)
    (room : mac ∉ tables.macs (.srcWlan, ip) →
      (tables.macs (.srcWlan, ip)).length ≠ ipaLanToLanMaxWlanClient) :
    (tables.ethBridgeAddLanClientRtRule iface ctxs source mac .srcWlan ip).macs (.srcWlan, ip) =
      if mac ∈ tables.macs (.srcWlan, ip) then tables.macs (.srcWlan, ip)
      else tables.macs (.srcWlan, ip) ++ [mac] := by
  simp only [ethBridgeAddLanClientRtRule, valid, reduceCtorEq, false_and, and_false,
    if_false]
  split_ifs with full before before
  · rfl
  · exact absurd (by simpa [macs, maxClient] using full) (room before)
  · rfl
  · simp [macs, access]

theorem macs_addWlan_invalid (invalid : ctxs.wlanToUsb.valid = false) :
    tables.ethBridgeAddLanClientRtRule iface ctxs source mac .srcWlan ip = tables := by
  simp [ethBridgeAddLanClientRtRule, invalid]

section

variable (wlan : tables.WlanMacs listed)

include wlan

theorem WlanMacs.addLan :
    (tables.addLanClientRtRules iface ctxs source mac .srcLan).WlanMacs listed := by
  intro ip
  simp only [addLanClientRtRules]
  rw [macs_addLan _ (by simp), macs_addLan _ (by simp)]
  exact wlan ip

variable (iface source) in
theorem WlanMacs.addWlan (valid : ctxs.wlanToUsb.valid = true)
    (room : mac ∉ listed → listed.length ≠ ipaLanToLanMaxWlanClient) :
    (tables.addLanClientRtRules iface ctxs source mac .srcWlan).WlanMacs
      (if mac ∈ listed then listed else listed ++ [mac]) := by
  have v6 : (tables.ethBridgeAddLanClientRtRule iface ctxs source mac .srcWlan .v4).macs
      (.srcWlan, .v6) = listed := (macs_addLan _ (by simp)).trans (wlan .v6)
  intro ip
  simp only [addLanClientRtRules]
  cases ip with
  | v4 =>
      rw [macs_addLan _ (by simp), macs_addWlan valid (by simpa [wlan .v4] using room), wlan .v4]
  | v6 => rw [macs_addWlan valid (by simpa [v6] using room), v6]

theorem WlanMacs.addWlan_invalid (invalid : ctxs.wlanToUsb.valid = false) :
    (tables.addLanClientRtRules iface ctxs source mac .srcWlan).WlanMacs listed := by
  simpa [addLanClientRtRules, macs_addWlan_invalid invalid] using wlan

end

theorem macs_delFromTable {tables' : EthRtTables μ}
    (deleted : tables.delFromTable mac src ip = some tables')
    (key : EthBridgeSrcIface × IpaIpType) :
    tables'.macs key = if key = (src, ip) then (tables.macs key).erase mac
      else tables.macs key := by
  simp only [delFromTable] at deleted
  split at deleted
  · cases deleted
  · cases deleted
    by_cases same : key = (src, ip)
    · subst same
      simp [macs, access, erase_eq_eraseP, eraseP_map, comp_def,
        Bool.beq_eq_decide_eq, eq_comm]
    · simp [macs, access, same]

theorem delFromTable_none (notFound : tables.delFromTable mac src ip = none) :
    mac ∉ tables.macs (src, ip) := by
  simp only [delFromTable] at notFound
  split at notFound
  · next isNone =>
    simpa [macs] using isNone
  · cases notFound

theorem WlanMacs.delLan (wlan : tables.WlanMacs listed) :
    (tables.ethBridgeDelLanClientRtRule mac .srcLan).WlanMacs listed := by
  intro ip
  simp only [ethBridgeDelLanClientRtRule]
  split
  · exact wlan ip
  · next half deleted =>
    have same : half.macs (.srcWlan, ip) = listed := by
      simp [macs_delFromTable deleted, wlan ip]
    split
    · exact same
    · next whole deleted' => simp [macs_delFromTable deleted', same]

theorem WlanMacs.delWlan (wlan : tables.WlanMacs listed) :
    (tables.ethBridgeDelLanClientRtRule mac .srcWlan).WlanMacs (listed.erase mac) := by
  intro ip
  simp only [ethBridgeDelLanClientRtRule]
  split
  · next notFound =>
    have isAbsent := delFromTable_none notFound
    rw [wlan .v4] at isAbsent
    rw [erase_of_not_mem isAbsent]
    exact wlan ip
  · next half deleted =>
    have four : half.macs (.srcWlan, .v4) = listed.erase mac := by
      simp [macs_delFromTable deleted, wlan .v4]
    have six : half.macs (.srcWlan, .v6) = listed := by
      simp [macs_delFromTable deleted, wlan .v6]
    split
    · next notFound =>
      have isAbsent := delFromTable_none notFound
      rw [six] at isAbsent
      rw [erase_of_not_mem isAbsent] at four ⊢
      cases ip with
      | v4 => exact four
      | v6 => exact six
    · next whole deleted' =>
      cases ip with
      | v4 => simp [macs_delFromTable deleted', four]
      | v6 => simp [macs_delFromTable deleted', six]

section Folds

variable {clients : List μ}

theorem Ok.foldl_add (ok : tables.Ok iface) :
    (clients.foldl (fun tables mac => tables.addLanClientRtRules iface ctxs source mac src)
      tables).Ok iface := by
  induction clients generalizing tables with
  | nil => exact ok
  | cons mac clients ih => exact ih ok.addLanClientRtRules

theorem Ok.foldl_del (ok : tables.Ok iface) :
    (clients.foldl (fun tables mac => tables.ethBridgeDelLanClientRtRule mac src)
      tables).Ok iface := by
  induction clients generalizing tables with
  | nil => exact ok
  | cons mac clients ih => exact ih ok.ethBridgeDelLanClientRtRule

section

variable (wlan : tables.WlanMacs listed)

include wlan

theorem WlanMacs.foldl_addLan :
    (clients.foldl (fun tables mac => tables.addLanClientRtRules iface ctxs source mac .srcLan)
      tables).WlanMacs listed := by
  induction clients generalizing tables with
  | nil => exact wlan
  | cons mac clients ih => exact ih wlan.addLan

theorem WlanMacs.foldl_delLan :
    (clients.foldl (fun tables mac => tables.ethBridgeDelLanClientRtRule mac .srcLan)
      tables).WlanMacs listed := by
  induction clients generalizing tables with
  | nil => exact wlan
  | cons mac clients ih => exact ih wlan.delLan

theorem WlanMacs.foldl_addWlan_invalid (invalid : ctxs.wlanToUsb.valid = false) :
    (clients.foldl (fun tables mac => tables.addLanClientRtRules iface ctxs source mac .srcWlan)
      tables).WlanMacs listed := by
  induction clients generalizing tables with
  | nil => exact wlan
  | cons mac clients ih => exact ih (wlan.addWlan_invalid invalid)

theorem WlanMacs.foldl_delWlan :
    (clients.foldl (fun tables mac => tables.ethBridgeDelLanClientRtRule mac .srcWlan)
      tables).WlanMacs (listed.diff clients) := by
  induction clients generalizing tables listed with
  | nil => simpa using wlan
  | cons mac clients ih =>
      rw [diff_cons]
      exact ih wlan.delWlan

end

omit [DecidableEq μ] in
theorem room (all : List μ) (nodup : listed.Nodup) (known : ∀ mac ∈ listed, mac ∈ all)
    (within : all.length ≤ ipaLanToLanMaxLanClient) (isKnown : mac ∈ all) (isNew : mac ∉ listed) :
    listed.length ≠ ipaLanToLanMaxWlanClient := by
  have longer : (mac :: listed).length ≤ all.length := by
    apply (nodup_cons.mpr ⟨isNew, nodup⟩).length_le_of_subset
    exact cons_subset.mpr ⟨isKnown, known⟩
  simp only [ipaLanToLanMaxLanClient, length_cons] at within longer
  simp only [ipaLanToLanMaxWlanClient]
  omega

theorem WlanMacs.foldl_addWlan {all : List μ} (ok : tables.Ok iface) (wlan : tables.WlanMacs listed)
    (valid : ctxs.wlanToUsb.valid = true) (within : all.length ≤ ipaLanToLanMaxLanClient)
    (known : ∀ mac ∈ listed, mac ∈ all) (isKnown : ∀ mac ∈ clients, mac ∈ all) :
    ∃ listed', (clients.foldl
        (fun tables mac => tables.addLanClientRtRules iface ctxs source mac .srcWlan)
        tables).WlanMacs listed' ∧
      ∀ mac, mac ∈ listed' ↔ mac ∈ listed ∨ mac ∈ clients := by
  induction clients generalizing tables listed with
  | nil => exact ⟨listed, wlan, by simp⟩
  | cons mac clients ih =>
      have nodup : listed.Nodup := wlan .v4 ▸ ok.nodup _
      have hasRoom := room all nodup known within (isKnown mac (mem_cons_self ..))
      have added := wlan.addWlan iface source valid hasRoom
      have known' : ∀ mac' ∈ (if mac ∈ listed then listed else listed ++ [mac]), mac' ∈ all := by
        intro mac' isIn
        split_ifs at isIn
        · exact known mac' isIn
        · rcases mem_append.mp isIn with before | isNew
          · exact known mac' before
          · exact mem_singleton.mp isNew ▸ isKnown mac (mem_cons_self ..)
      rcases ih ok.addLanClientRtRules added known'
        (fun mac' isIn => isKnown mac' (mem_cons_of_mem _ isIn)) with ⟨listed', wlan', iff⟩
      refine ⟨listed', wlan', fun mac' => ?_⟩
      rw [iff, mem_cons]
      split_ifs with before
      · exact ⟨fun isIn => isIn.imp_right .inr, fun isIn => by
          rcases isIn with isIn | rfl | isIn
          · exact .inl isIn
          · exact .inl before
          · exact .inr isIn⟩
      · rw [mem_append, mem_singleton, or_assoc]

end Folds

end EthRtTables

end HtcPme.Ipacm
