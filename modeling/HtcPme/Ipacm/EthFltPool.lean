import HtcPme.Foundation.SlotCount
import HtcPme.Ipacm.EthFltRule

/-!
# The handles of a pool

Each handle of a pool is valid or owned by one client.
-/

namespace HtcPme.Ipacm

open List

namespace FltPool

variable {num : ℕ} {ι μ : Type*}

def owns (ip : IpaIpType) (ruleHdl : ℕ) (info : EthBridgeClientFltInfo μ) : Bool :=
  info.fltRuleSet ip && decide (info.fltRuleHdl ip = ruleHdl)

def owners [Fintype ι] (pool : FltPool num ι μ) (ip : IpaIpType) (ruleHdl : ℕ) : ℕ :=
  ∑ inst, (pool.infos inst).countP (owns ip ruleHdl)

def Conserved [Fintype ι] (installed : IpaIpType → Prop) (pool : FltPool num ι μ) : Prop :=
  ∀ ip, installed ip → ∀ slot,
    pool.owners ip (pool.hdls ip slot).ruleHdl = if (pool.hdls ip slot).valid then 0 else 1

structure PoolOk [Fintype ι] (installed : IpaIpType → Prop) (pool : FltPool num ι μ) : Prop where
  distinct : ∀ ip, installed ip → ∀ slot slot',
    (pool.hdls ip slot).ruleHdl = (pool.hdls ip slot').ruleHdl → slot = slot'
  conserved : pool.Conserved installed
  known : ∀ inst, ∀ info ∈ pool.infos inst, ∀ ip, info.fltRuleSet ip →
    installed ip ∧ ∃ slot, (pool.hdls ip slot).ruleHdl = info.fltRuleHdl ip
  unused : ∀ ip, ¬installed ip → ∀ slot, (pool.hdls ip slot).valid = false
  programmed : ∀ inst, ∀ info ∈ pool.infos inst, ∀ ip, info.fltRuleSet ip →
    ∃ rule, pool.kernel ip (info.fltRuleHdl ip) = some rule ∧ rule.dstMacAddr = info.mac
  dummy : ∀ ip, installed ip → ∀ slot, (pool.hdls ip slot).valid →
    pool.kernel ip (pool.hdls ip slot).ruleHdl = none

variable {installed : IpaIpType → Prop} {pool pool' : FltPool num ι μ} {inst : ι} {mac : μ}
  {ip : IpaIpType} {ruleHdl : ℕ} {slot : Fin num} {info : EthBridgeClientFltInfo μ} {pos : ℕ}

section Slots

@[simp] theorem ruleHdl_setValid (pool : FltPool num ι μ) (ip ip' : IpaIpType)
    (slot slot' : Fin num) (valid : Bool) :
    ((pool.setValid ip slot valid).hdls ip' slot').ruleHdl = (pool.hdls ip' slot').ruleHdl := by
  by_cases sameIp : ip' = ip
  · subst sameIp
    by_cases same : slot' = slot
    · simp [setValid, same]
    · simp [setValid, same]
  · simp [setValid, sameIp]

theorem valid_setValid (pool : FltPool num ι μ) (ip ip' : IpaIpType) (slot slot' : Fin num)
    (valid : Bool) :
    ((pool.setValid ip slot valid).hdls ip' slot').valid =
      if ip' = ip ∧ slot' = slot then valid else (pool.hdls ip' slot').valid := by
  by_cases sameIp : ip' = ip
  · subst sameIp
    by_cases same : slot' = slot
    · simp [setValid, same]
    · simp [setValid, same]
  · simp [setValid, sameIp]

@[simp] theorem infos_setValid (pool : FltPool num ι μ) (ip : IpaIpType) (slot : Fin num)
    (valid : Bool) : (pool.setValid ip slot valid).infos = pool.infos := rfl

@[simp] theorem kernel_setValid (pool : FltPool num ι μ) (ip : IpaIpType) (slot : Fin num)
    (valid : Bool) : (pool.setValid ip slot valid).kernel = pool.kernel := rfl

@[simp] theorem hdls_setRule (pool : FltPool num ι μ) (ip : IpaIpType) (ruleHdl : ℕ)
    (rule : Option (EthFltRule μ)) : (pool.setRule ip ruleHdl rule).hdls = pool.hdls := rfl

@[simp] theorem infos_setRule (pool : FltPool num ι μ) (ip : IpaIpType) (ruleHdl : ℕ)
    (rule : Option (EthFltRule μ)) : (pool.setRule ip ruleHdl rule).infos = pool.infos := rfl

theorem kernel_setRule (pool : FltPool num ι μ) (ip ip' : IpaIpType) (ruleHdl ruleHdl' : ℕ)
    (rule : Option (EthFltRule μ)) :
    (pool.setRule ip ruleHdl rule).kernel ip' ruleHdl' =
      if ip' = ip ∧ ruleHdl' = ruleHdl then rule else pool.kernel ip' ruleHdl' := by
  by_cases sameIp : ip' = ip
  · subst sameIp
    by_cases same : ruleHdl' = ruleHdl
    · simp [setRule, same]
    · simp [setRule, same]
  · simp [setRule, sameIp]

theorem validSlot_eq_some (found : pool.validSlot ip = some slot) :
    (pool.hdls ip slot).valid := Fin.eq_true_of_find?_eq_some found

theorem slotOf_eq_some (found : pool.slotOf ip ruleHdl = some slot) :
    (pool.hdls ip slot).ruleHdl = ruleHdl :=
  decide_eq_true_iff.mp (Fin.eq_true_of_find?_eq_some found)

theorem slotOf_eq_none (notFound : pool.slotOf ip ruleHdl = none) (slot : Fin num) :
    (pool.hdls ip slot).ruleHdl ≠ ruleHdl := by
  rw [slotOf, Fin.find?_eq_none_iff] at notFound
  simpa using notFound slot

end Slots

section Valid

variable [Fintype ι]

variable (isOk : PoolOk installed pool)

include isOk

variable (isValid : (pool.hdls ip slot).valid)

include isValid

theorem PoolOk.installed_of_valid : installed ip := by
  by_contra notInstalled
  simp [isOk.unused ip notInstalled slot] at isValid

theorem PoolOk.owners_eq_zero : pool.owners ip (pool.hdls ip slot).ruleHdl = 0 := by
  rw [isOk.conserved ip (isOk.installed_of_valid isValid) slot, if_pos isValid]

theorem PoolOk.not_conserved_of_taken :
    ¬(pool.setValid ip slot false).Conserved installed := by
  intro conserved
  have lost := conserved ip (isOk.installed_of_valid isValid) slot
  simp only [valid_setValid, and_self, if_true, ruleHdl_setValid, Bool.false_eq_true,
    if_false] at lost
  exact absurd (lost.symm.trans (isOk.owners_eq_zero isValid)) Nat.one_ne_zero

end Valid

section Tables

theorem client_eq_some [DecidableEq μ] (found : pool.client inst mac = some (pos, info)) :
    (pool.infos inst)[pos]? = some info ∧ info.mac = mac := by
  rcases Option.bind_eq_some_iff.mp found with ⟨pos', isAt, isInfo⟩
  rcases Option.map_eq_some_iff.mp isInfo with ⟨info', isIn, same⟩
  cases same
  rcases findIdx?_eq_some_iff_getElem.mp isAt with ⟨within, isMac, _⟩
  rw [getElem?_eq_getElem within, Option.some.injEq] at isIn
  subst isIn
  exact ⟨getElem?_eq_getElem within, by simpa using isMac⟩

variable [DecidableEq ι]

@[simp] theorem hdls_setInfos (pool : FltPool num ι μ) (inst : ι)
    (infos : List (EthBridgeClientFltInfo μ)) : (pool.setInfos inst infos).hdls = pool.hdls := rfl

@[simp] theorem infos_setInfos_self (pool : FltPool num ι μ) (inst : ι)
    (infos : List (EthBridgeClientFltInfo μ)) : (pool.setInfos inst infos).infos inst = infos := by
  simp only [setInfos, Function.update_self]

theorem infos_setInfos_of_ne (pool : FltPool num ι μ) {inst inst' : ι}
    (infos : List (EthBridgeClientFltInfo μ)) (isOther : inst' ≠ inst) :
    (pool.setInfos inst infos).infos inst' = pool.infos inst' := by
  simp only [setInfos, Function.update_of_ne isOther]

@[simp] theorem kernel_setInfos (pool : FltPool num ι μ) (inst : ι)
    (infos : List (EthBridgeClientFltInfo μ)) :
    (pool.setInfos inst infos).kernel = pool.kernel := rfl

variable [Fintype ι]

theorem owners_setInfos (pool : FltPool num ι μ) (inst : ι)
    (infos : List (EthBridgeClientFltInfo μ)) (ip : IpaIpType) (ruleHdl : ℕ) :
    (pool.setInfos inst infos).owners ip ruleHdl + (pool.infos inst).countP (owns ip ruleHdl) =
      pool.owners ip ruleHdl + infos.countP (owns ip ruleHdl) :=
  SlotCount.sum_update (countP (owns ip ruleHdl)) pool.infos inst infos

theorem owners_pos (isIn : info ∈ pool.infos inst) (isSet : info.fltRuleSet ip) :
    0 < pool.owners ip (info.fltRuleHdl ip) := by
  have isOwner : 0 < (pool.infos inst).countP (owns ip (info.fltRuleHdl ip)) :=
    countP_pos_iff.mpr ⟨info, isIn, by simp [owns, isSet]⟩
  rw [owners, ← Finset.add_sum_erase _ _ (Finset.mem_univ inst)]
  omega

end Tables

section Add

theorem owns_takeRule (notSet : info.fltRuleSet ip = false) (ip' : IpaIpType) (ruleHdl' : ℕ) :
    owns ip' ruleHdl' (takeRule ip ruleHdl info) =
      (owns ip' ruleHdl' info || decide (ip' = ip ∧ ruleHdl' = ruleHdl)) := by
  by_cases sameIp : ip' = ip
  · subst sameIp
    simp [owns, takeRule, notSet, eq_comm]
  · simp [owns, takeRule, sameIp]

theorem owns_newClient (mac : μ) (ip : IpaIpType) (ruleHdl : ℕ) :
    owns ip ruleHdl (newClient mac) = false := rfl

variable [DecidableEq ι] [DecidableEq μ]

theorem recordRule_eq (noRule : pool.hasRule inst mac ip = false) (ruleHdl : ℕ) :
    (∃ pos info, pool.recordRule inst mac ip ruleHdl =
        pool.setInfos inst ((pool.infos inst).set pos (takeRule ip ruleHdl info)) ∧
      (pool.infos inst)[pos]? = some info ∧ info.mac = mac ∧ info.fltRuleSet ip = false) ∨
    pool.recordRule inst mac ip ruleHdl =
      pool.setInfos inst (pool.infos inst ++ [takeRule ip ruleHdl (newClient mac)]) := by
  rw [recordRule]
  cases found : pool.client inst mac with
  | none => exact .inr rfl
  | some client =>
      rcases client_eq_some found with ⟨isAt, isMac⟩
      refine .inl ⟨client.1, client.2, rfl, isAt, isMac, ?_⟩
      simpa [hasRule, found] using noRule

theorem mem_recordRule (noRule : pool.hasRule inst mac ip = false) {inst' : ι}
    (isIn : info ∈ (pool.recordRule inst mac ip ruleHdl).infos inst') :
    info ∈ pool.infos inst' ∨ ∃ base, info = takeRule ip ruleHdl base ∧ base.mac = mac ∧
      (base ∈ pool.infos inst' ∨ base = newClient mac) := by
  by_cases isInst : inst' = inst
  · subst isInst
    rcases recordRule_eq noRule ruleHdl with ⟨pos, base, isSet, isAt, isMac, _⟩ | isSet
    · rw [isSet, infos_setInfos_self] at isIn
      rcases mem_or_eq_of_mem_set isIn with wasIn | isNew
      · exact .inl wasIn
      · exact .inr ⟨base, isNew, isMac, .inl (mem_of_getElem? isAt)⟩
    · rw [isSet, infos_setInfos_self] at isIn
      rcases mem_append.mp isIn with wasIn | isNew
      · exact .inl wasIn
      · exact .inr ⟨_, mem_singleton.mp isNew, rfl, .inr rfl⟩
  · left
    rcases recordRule_eq noRule ruleHdl with ⟨pos, base, isSet, _⟩ | isSet
    · rwa [isSet, infos_setInfos_of_ne pool _ isInst] at isIn
    · rwa [isSet, infos_setInfos_of_ne pool _ isInst] at isIn

@[simp] theorem hdls_recordRule (pool : FltPool num ι μ) (inst : ι) (mac : μ) (ip : IpaIpType)
    (ruleHdl : ℕ) : (pool.recordRule inst mac ip ruleHdl).hdls = pool.hdls := by
  unfold recordRule
  split <;> rfl

@[simp] theorem kernel_recordRule (pool : FltPool num ι μ) (inst : ι) (mac : μ) (ip : IpaIpType)
    (ruleHdl : ℕ) : (pool.recordRule inst mac ip ruleHdl).kernel = pool.kernel := by
  unfold recordRule
  split <;> rfl

variable [Fintype ι]

theorem owners_recordRule (noRule : pool.hasRule inst mac ip = false) (ip' : IpaIpType)
    (ruleHdl' : ℕ) :
    (pool.recordRule inst mac ip ruleHdl).owners ip' ruleHdl' =
      pool.owners ip' ruleHdl' + if ip' = ip ∧ ruleHdl' = ruleHdl then 1 else 0 := by
  rcases recordRule_eq noRule ruleHdl with ⟨pos, info, isSet, isAt, _, notSet⟩ | isSet
  · rcases List.getElem?_eq_some_iff.mp isAt with ⟨within, isInfo⟩
    have counted := owners_setInfos pool inst
      ((pool.infos inst).set pos (takeRule ip ruleHdl info)) ip' ruleHdl'
    have isOwner : 0 < (pool.infos inst).countP (owns ip' ruleHdl') ∨
        ¬owns ip' ruleHdl' info := by
      by_cases isOwner : owns ip' ruleHdl' info
      · exact .inl (List.countP_pos_iff.mpr ⟨info, List.mem_of_getElem? isAt, isOwner⟩)
      · exact .inr isOwner
    rw [List.countP_set within, isInfo, owns_takeRule notSet] at counted
    rw [isSet]
    by_cases isTaken : ip' = ip ∧ ruleHdl' = ruleHdl
    · rcases isTaken with ⟨rfl, rfl⟩
      have notOwner : owns ip' ruleHdl' info = false := by simp [owns, notSet]
      simp only [notOwner, and_self, decide_true, Bool.or_true, if_true, Bool.false_eq_true,
        if_false] at counted ⊢
      omega
    · simp only [isTaken, decide_false, Bool.or_false, if_false, Nat.add_zero] at counted ⊢
      split_ifs at counted with isOwner'
      · have isPos := isOwner.resolve_right (not_not_intro isOwner')
        omega
      · omega
  · have counted := owners_setInfos pool inst
      (pool.infos inst ++ [takeRule ip ruleHdl (newClient mac)]) ip' ruleHdl'
    rw [List.countP_append, List.countP_singleton, owns_takeRule rfl] at counted
    rw [isSet]
    simp only [owns_newClient, Bool.false_or, decide_eq_true_eq] at counted
    omega

theorem PoolOk.addRule (isOk : PoolOk installed pool) (noRule : pool.hasRule inst mac ip = false)
    (isValid : (pool.hdls ip slot).valid) {rule : EthFltRule μ} (isMac : rule.dstMacAddr = mac) :
    PoolOk installed
      (((pool.setValid ip slot false).setRule ip (pool.hdls ip slot).ruleHdl (some rule)).recordRule
        inst mac ip (pool.hdls ip slot).ruleHdl) := by
  have isInstalled := isOk.installed_of_valid isValid
  have noOwner := isOk.owners_eq_zero isValid
  have otherHdl : ∀ slot', slot' ≠ slot →
      (pool.hdls ip slot').ruleHdl ≠ (pool.hdls ip slot).ruleHdl :=
    fun slot' isOther same => isOther (isOk.distinct ip isInstalled slot' slot same)
  have noRule' : ((pool.setValid ip slot false).setRule ip (pool.hdls ip slot).ruleHdl
      (some rule)).hasRule inst mac ip = false := noRule
  refine ⟨?_, ?_, ?_, ?_, ?_, ?_⟩
  · simpa using isOk.distinct
  · intro ip' isInstalled' slot'
    rw [owners_recordRule noRule']
    simp only [hdls_recordRule, hdls_setRule, ruleHdl_setValid, valid_setValid]
    have conserved := isOk.conserved ip' isInstalled' slot'
    by_cases isSlot : ip' = ip ∧ slot' = slot
    · rcases isSlot with ⟨rfl, rfl⟩
      simp only [and_self, if_true, Bool.false_eq_true, if_false]
      exact congrArg (· + 1) noOwner
    · rw [if_neg isSlot, if_neg]
      · exact conserved
      · rintro ⟨rfl, same⟩
        exact otherHdl slot' (fun isSame => isSlot ⟨rfl, isSame⟩) same
  · intro inst' info isIn ip' isSet
    simp only [hdls_recordRule, hdls_setRule, ruleHdl_setValid]
    rcases mem_recordRule noRule' isIn with wasIn | ⟨base, rfl, _, isBase⟩
    · exact isOk.known inst' info wasIn ip' isSet
    · by_cases sameIp : ip' = ip
      · subst sameIp
        exact ⟨isInstalled, slot, by simp [takeRule]⟩
      · simp only [takeRule, Function.update_of_ne sameIp] at isSet ⊢
        rcases isBase with wasIn | rfl
        · exact isOk.known inst' base wasIn ip' isSet
        · simp [newClient] at isSet
  · intro ip' notInstalled slot'
    simp only [hdls_recordRule, hdls_setRule, valid_setValid]
    rw [if_neg (by rintro ⟨rfl, _⟩; exact notInstalled isInstalled)]
    exact isOk.unused ip' notInstalled slot'
  · intro inst' info isIn ip' isSet
    simp only [kernel_recordRule, kernel_setRule, kernel_setValid]
    rcases mem_recordRule noRule' isIn with wasIn | ⟨base, rfl, baseMac, isBase⟩
    · rw [if_neg]
      · exact isOk.programmed inst' info wasIn ip' isSet
      · rintro ⟨rfl, same⟩
        have isOwner := owners_pos wasIn isSet
        rw [same] at isOwner
        exact absurd noOwner (Nat.ne_of_gt isOwner)
    · by_cases sameIp : ip' = ip
      · subst sameIp
        rw [if_pos ⟨rfl, by simp [takeRule]⟩]
        exact ⟨rule, rfl, isMac.trans baseMac.symm⟩
      · rw [if_neg fun both => sameIp both.1]
        simp only [takeRule, Function.update_of_ne sameIp] at isSet ⊢
        rcases isBase with wasIn | rfl
        · exact isOk.programmed inst' base wasIn ip' isSet
        · simp [newClient] at isSet
  · intro ip' isInstalled' slot' isValid'
    simp only [hdls_recordRule, hdls_setRule, valid_setValid] at isValid'
    simp only [hdls_recordRule, hdls_setRule, ruleHdl_setValid, kernel_recordRule, kernel_setRule,
      kernel_setValid]
    by_cases isSlot : ip' = ip ∧ slot' = slot
    · rw [if_pos isSlot] at isValid'
      cases isValid'
    · rw [if_neg isSlot] at isValid'
      rw [if_neg]
      · exact isOk.dummy ip' isInstalled' slot' isValid'
      · rintro ⟨rfl, same⟩
        exact otherHdl slot' (fun isSame => isSlot ⟨rfl, isSame⟩) same

end Add

section Delete

structure Released (info : EthBridgeClientFltInfo μ) (done : IpaIpType → Prop)
    (pool pool' : FltPool num ι μ) : Prop where
  infos : pool'.infos = pool.infos
  ruleHdl : ∀ ip slot, (pool'.hdls ip slot).ruleHdl = (pool.hdls ip slot).ruleHdl
  valid : ∀ ip slot, (pool'.hdls ip slot).valid ↔ (pool.hdls ip slot).valid ∨
    done ip ∧ info.fltRuleSet ip ∧ (pool.hdls ip slot).ruleHdl = info.fltRuleHdl ip
  reset : ∀ ip, done ip → info.fltRuleSet ip → pool'.kernel ip (info.fltRuleHdl ip) = none
  kept : ∀ ip ruleHdl, ¬(info.fltRuleSet ip ∧ ruleHdl = info.fltRuleHdl ip) →
    pool'.kernel ip ruleHdl = pool.kernel ip ruleHdl
  notDone : ∀ ip, ¬done ip → pool'.hdls ip = pool.hdls ip ∧ pool'.kernel ip = pool.kernel ip

theorem Released.refl (info : EthBridgeClientFltInfo μ) (pool : FltPool num ι μ) :
    Released info (fun _ => False) pool pool where
  infos := rfl
  ruleHdl _ _ := rfl
  valid _ _ := by simp
  reset _ isDone := isDone.elim
  kept _ _ _ := rfl
  notDone _ _ := ⟨rfl, rfl⟩

variable {done : IpaIpType → Prop}

theorem Released.releaseRule {start : FltPool num ι μ}
    (released : Released info done start pool) (notDone : ¬done ip)
    (distinct : info.fltRuleSet ip → ∀ slot slot',
      (start.hdls ip slot).ruleHdl = (start.hdls ip slot').ruleHdl → slot = slot')
    {reset : Bool} (succeeded : pool.releaseRule reset info ip = (true, pool')) :
    Released info (fun ip' => done ip' ∨ ip' = ip) start pool' := by
  unfold FltPool.releaseRule at succeeded
  split at succeeded
  · rename_i isSet
    split at succeeded
    · simp only at succeeded
      split at succeeded
      · cases succeeded
      · rename_i slot found
        cases succeeded
        have isHdl := slotOf_eq_some found
        simp only [hdls_setRule, released.ruleHdl] at isHdl
        refine ⟨released.infos, ?_, ?_, ?_, ?_, ?_⟩
        · intro ip' slot'
          simp only [ruleHdl_setValid, hdls_setRule, released.ruleHdl]
        · intro ip' slot'
          rw [valid_setValid]
          by_cases sameIp : ip' = ip
          · subst sameIp
            by_cases same : slot' = slot
            · subst same
              simp [isSet, isHdl]
            · have otherHdl : (start.hdls ip' slot').ruleHdl ≠ info.fltRuleHdl ip' := by
                rw [← isHdl]
                exact fun sameHdl => same (distinct isSet slot' slot sameHdl)
              simp [same, released.valid, otherHdl, notDone]
          · simp [sameIp, released.valid]
        · intro ip' isDone isSet'
          rw [kernel_setValid, kernel_setRule]
          by_cases sameIp : ip' = ip
          · subst sameIp
            simp
          · rw [if_neg fun both => sameIp both.1]
            exact released.reset ip' (isDone.resolve_right sameIp) isSet'
        · intro ip' ruleHdl isOther
          rw [kernel_setValid, kernel_setRule, if_neg]
          · exact released.kept ip' ruleHdl isOther
          · rintro ⟨rfl, rfl⟩
            exact isOther ⟨isSet, rfl⟩
        · intro ip' isNotDone
          have notIp : ip' ≠ ip := fun sameIp => isNotDone (.inr sameIp)
          have same := released.notDone ip' fun isDone => isNotDone (.inl isDone)
          simpa [setValid, setRule, notIp] using same
    · cases succeeded
  · rename_i notSet
    cases succeeded
    refine ⟨released.infos, released.ruleHdl, ?_, ?_, released.kept, ?_⟩
    · intro ip' slot'
      rw [released.valid]
      by_cases sameIp : ip' = ip
      · subst sameIp
        simp [notSet]
      · simp [sameIp]
    · intro ip' isDone isSet
      by_cases sameIp : ip' = ip
      · subst sameIp
        exact absurd isSet notSet
      · exact released.reset ip' (isDone.resolve_right sameIp) isSet
    · intro ip' isNotDone
      exact released.notDone ip' fun isDone => isNotDone (.inl isDone)

variable [DecidableEq ι] [Fintype ι]

theorem owners_eraseIdx (isAt : (pool.infos inst)[pos]? = some info) (ip : IpaIpType)
    (ruleHdl : ℕ) :
    (pool.setInfos inst ((pool.infos inst).eraseIdx pos)).owners ip ruleHdl +
      (if owns ip ruleHdl info then 1 else 0) = pool.owners ip ruleHdl := by
  rcases List.getElem?_eq_some_iff.mp isAt with ⟨within, isInfo⟩
  have counted := owners_setInfos pool inst ((pool.infos inst).eraseIdx pos) ip ruleHdl
  have isPerm := (List.getElem_cons_eraseIdx_perm within).countP_eq (owns ip ruleHdl)
  rw [isInfo, List.countP_cons] at isPerm
  omega

theorem PoolOk.delete (isOk : PoolOk installed pool) (isAt : (pool.infos inst)[pos]? = some info)
    (released : Released info done pool pool') (allDone : ∀ ip, done ip) :
    PoolOk installed (pool'.setInfos inst ((pool'.infos inst).eraseIdx pos)) := by
  have isIn : info ∈ pool.infos inst := mem_of_getElem? isAt
  have erased : ∀ ip ruleHdl,
      (pool'.setInfos inst ((pool'.infos inst).eraseIdx pos)).owners ip ruleHdl +
        (if owns ip ruleHdl info then 1 else 0) = pool.owners ip ruleHdl := by
    intro ip ruleHdl
    rw [owners_eraseIdx (by rw [released.infos]; exact isAt), owners, owners, released.infos]
  have wasIn : ∀ {inst' info'},
      info' ∈ (pool'.setInfos inst ((pool'.infos inst).eraseIdx pos)).infos inst' →
        info' ∈ pool.infos inst' := by
    intro inst' info' isLeft
    by_cases isInst : inst' = inst
    · subst isInst
      rw [infos_setInfos_self, released.infos] at isLeft
      exact mem_of_mem_eraseIdx isLeft
    · rwa [infos_setInfos_of_ne _ _ isInst, released.infos] at isLeft
  have wasOwned : ∀ ip slot, info.fltRuleSet ip →
      (pool.hdls ip slot).ruleHdl = info.fltRuleHdl ip →
        pool.owners ip (pool.hdls ip slot).ruleHdl = 1 := by
    intro ip slot isSet isHdl
    have isPos := owners_pos isIn isSet
    have conserved := isOk.conserved ip (isOk.known inst info isIn ip isSet).1 slot
    rw [← isHdl] at isPos
    split_ifs at conserved
    · omega
    · exact conserved
  refine ⟨?_, ?_, ?_, ?_, ?_, ?_⟩
  · simpa only [hdls_setInfos, released.ruleHdl] using isOk.distinct
  · intro ip isInstalled slot
    show _ = if (pool'.hdls ip slot).valid then 0 else 1
    rw [hdls_setInfos, released.ruleHdl]
    have left := erased ip (pool.hdls ip slot).ruleHdl
    by_cases isOwner : info.fltRuleSet ip ∧ (pool.hdls ip slot).ruleHdl = info.fltRuleHdl ip
    · rw [if_pos (by simp [owns, isOwner]), wasOwned ip slot isOwner.1 isOwner.2] at left
      rw [if_pos ((released.valid ip slot).mpr (.inr ⟨allDone ip, isOwner⟩))]
      omega
    · have notOwner : owns ip (pool.hdls ip slot).ruleHdl info = false := by
        rw [Bool.eq_false_iff]
        intro isOwned
        rw [owns, Bool.and_eq_true, decide_eq_true_eq] at isOwned
        exact isOwner ⟨isOwned.1, isOwned.2.symm⟩
      have sameValid : (pool'.hdls ip slot).valid = (pool.hdls ip slot).valid := by
        rw [Bool.eq_iff_iff, released.valid]
        simp [isOwner]
      rw [notOwner] at left
      rw [sameValid, ← isOk.conserved ip isInstalled slot]
      simpa using left
  · intro inst' info' isLeft ip isSet
    simp only [hdls_setInfos, released.ruleHdl]
    exact isOk.known inst' info' (wasIn isLeft) ip isSet
  · intro ip notInstalled slot
    rw [hdls_setInfos, Bool.eq_false_iff]
    intro isValid
    rcases (released.valid ip slot).mp isValid with wasValid | ⟨_, isSet, _⟩
    · simp [isOk.unused ip notInstalled slot] at wasValid
    · exact notInstalled (isOk.known inst info isIn ip isSet).1
  · intro inst' info' isLeft ip isSet
    have notOwner : ¬(info.fltRuleSet ip ∧ info'.fltRuleHdl ip = info.fltRuleHdl ip) := by
      rintro ⟨isSet', sameHdl⟩
      rcases (isOk.known inst' info' (wasIn isLeft) ip isSet).2 with ⟨slot, isHdl⟩
      have left := erased ip (info'.fltRuleHdl ip)
      rw [if_pos (by simp [owns, isSet', sameHdl]), ← isHdl,
        wasOwned ip slot isSet' (isHdl.trans sameHdl)] at left
      have isPos := owners_pos isLeft isSet
      rw [← isHdl] at isPos
      omega
    rw [kernel_setInfos, released.kept ip _ notOwner]
    exact isOk.programmed inst' info' (wasIn isLeft) ip isSet
  · intro ip isInstalled slot isValid
    simp only [hdls_setInfos, released.ruleHdl, kernel_setInfos]
    by_cases isOwner : info.fltRuleSet ip ∧ (pool.hdls ip slot).ruleHdl = info.fltRuleHdl ip
    · rw [isOwner.2]
      exact released.reset ip (allDone ip) isOwner.1
    · rw [released.kept ip _ isOwner]
      rcases (released.valid ip slot).mp isValid with wasValid | ⟨_, isOwner'⟩
      · exact isOk.dummy ip isInstalled slot wasValid
      · exact absurd isOwner' isOwner

end Delete

end FltPool

end HtcPme.Ipacm
