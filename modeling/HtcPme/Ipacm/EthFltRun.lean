import HtcPme.Foundation.Run
import HtcPme.Ipacm.EthFltPool

/-!
# Runs over the filtering rules of bridged clients

A handle is lost when the request of an addition fails, and is valid too early when the second
request of a deletion fails.
-/

namespace HtcPme.Ipacm

namespace FltPool

variable {num : ℕ} {ι μ : Type*}

def AddCondition [DecidableEq μ] (pool : FltPool num ι μ) (env : EthFltEnv)
    (rule : Option (EthFltRule μ))
    (inst : ι) (mac : μ) (ip : IpaIpType) : Prop :=
  pool.hasRule inst mac ip = false → pool.isFull inst mac = false → env.allocated → rule.isSome →
    (pool.validSlot ip).isSome → env.modified

def DelCondition [DecidableEq μ] (pool : FltPool num ι μ) (reset : IpaIpType → Bool) (inst : ι)
    (mac : Option μ) : Prop :=
  ∀ client ∈ mac.bind (pool.client inst), client.2.fltRuleSet .v4 → client.2.fltRuleSet .v6 →
    reset .v4 → reset .v6

structure Keeps [Fintype ι] (installed : IpaIpType → Prop) (pool : FltPool num ι μ)
    (result : ℤ × FltPool num ι μ) : Prop where
  conserved : result.2.Conserved installed
  failed : result.1 = ipacmFailure →
    result.2.hdls = pool.hdls ∧ result.2.infos = pool.infos

variable {installed : IpaIpType → Prop} {pool : FltPool num ι μ} {inst : ι} {mac : μ}
  {ip : IpaIpType} {env : EthFltEnv} {rule : Option (EthFltRule μ)} {reset : IpaIpType → Bool}
  {info : EthBridgeClientFltInfo μ} {pos : ℕ}

theorem Released.releaseRule_eq {start : FltPool num ι μ} {done : IpaIpType → Prop}
    (released : Released info done start pool)
    (known : info.fltRuleSet ip → ∃ slot, (start.hdls ip slot).ruleHdl = info.fltRuleHdl ip)
    (granted : Bool) :
    (info.fltRuleSet ip → granted) ∧
        (∃ pool', pool.releaseRule granted info ip = (true, pool')) ∨
      info.fltRuleSet ip ∧ ¬granted ∧ pool.releaseRule granted info ip = (false, pool) := by
  unfold FltPool.releaseRule
  split
  · rename_i isSet
    split
    · rename_i isGranted
      refine .inl ⟨fun _ => isGranted, ?_⟩
      cases found : (pool.setRule ip (info.fltRuleHdl ip) none).slotOf ip
        (info.fltRuleHdl ip) with
      | some slot =>
          simp only [found]
          exact ⟨_, rfl⟩
      | none =>
          rcases known isSet with ⟨slot, isHdl⟩
          have notHdl := slotOf_eq_none found slot
          rw [hdls_setRule, released.ruleHdl] at notHdl
          exact absurd isHdl notHdl
    · rename_i notGranted
      exact .inr ⟨isSet, notGranted, rfl⟩
  · rename_i notSet
    exact .inl ⟨fun isSet => absurd isSet notSet, _, rfl⟩

variable [Fintype ι]

theorem keeps_refl (isOk : PoolOk installed pool) (ret : ℤ) :
    Keeps installed pool (ret, pool) ∧ PoolOk installed (ret, pool).2 :=
  ⟨⟨isOk.conserved, fun _ => ⟨rfl, rfl⟩⟩, isOk⟩

variable [DecidableEq ι]

theorem PoolOk.not_conserved_of_released (isOk : PoolOk installed pool)
    (isIn : info ∈ pool.infos inst) (isSet : info.fltRuleSet ip) {pool' : FltPool num ι μ}
    {done : IpaIpType → Prop} (released : Released info done pool pool') (isDone : done ip) :
    ¬pool'.Conserved installed := by
  intro conserved
  rcases isOk.known inst info isIn ip isSet with ⟨isInstalled, slot, isHdl⟩
  have isOwned := owners_pos isIn isSet
  have isFree := conserved ip isInstalled slot
  rw [if_pos ((released.valid ip slot).mpr (.inr ⟨isDone, isSet, isHdl⟩)), released.ruleHdl,
    isHdl, owners, released.infos] at isFree
  rw [owners] at isOwned
  omega

variable [DecidableEq μ]

variable (isOk : PoolOk installed pool)

include isOk

theorem PoolOk.addClientFltRule (isMac : ∀ written ∈ rule, written.dstMacAddr = mac)
    (condition : pool.AddCondition env rule inst mac ip) :
    Keeps installed pool (pool.addClientFltRule env rule inst mac ip) ∧
      PoolOk installed (pool.addClientFltRule env rule inst mac ip).2 := by
  unfold FltPool.addClientFltRule
  split
  · exact keeps_refl isOk _
  · rename_i noRule
    rw [Bool.not_eq_true] at noRule
    split
    · exact keeps_refl isOk _
    · rename_i notFull
      rw [Bool.not_eq_true] at notFull
      split
      · rename_i allocated
        cases rule with
        | none => exact keeps_refl isOk _
        | some written =>
            cases found : pool.validSlot ip with
            | none => exact keeps_refl isOk _
            | some slot =>
                have isModified := condition noRule notFull allocated rfl (by rw [found]; rfl)
                have added := isOk.addRule noRule (validSlot_eq_some found) (isMac written rfl)
                simp only [if_pos isModified]
                exact ⟨⟨added.conserved, fun failed => by cases failed⟩, added⟩
      · exact keeps_refl isOk _

theorem PoolOk.not_keeps_addClientFltRule (condition : ¬pool.AddCondition env rule inst mac ip) :
    ¬Keeps installed pool (pool.addClientFltRule env rule inst mac ip) := by
  simp only [AddCondition, Classical.not_imp] at condition
  rcases condition with ⟨noRule, notFull, allocated, isSome, hasSlot, notModified⟩
  rcases Option.isSome_iff_exists.mp isSome with ⟨written, rfl⟩
  rcases Option.isSome_iff_exists.mp hasSlot with ⟨slot, found⟩
  intro keeps
  have conserved := keeps.conserved
  simp only [FltPool.addClientFltRule, noRule, Bool.false_eq_true, if_false, notFull, allocated,
    if_true, found, if_neg notModified] at conserved
  exact isOk.not_conserved_of_taken (validSlot_eq_some found) conserved

theorem PoolOk.delClientFltRule {mac : Option μ}
    (condition : pool.DelCondition reset inst mac) :
    Keeps installed pool (pool.delClientFltRule reset inst mac) ∧
      PoolOk installed (pool.delClientFltRule reset inst mac).2 := by
  unfold FltPool.delClientFltRule
  cases mac with
  | none => exact keeps_refl isOk _
  | some mac =>
      cases found : pool.client inst mac with
      | none =>
          simp only [found]
          exact keeps_refl isOk _
      | some client =>
          rcases client with ⟨pos, info⟩
          have isAt := (client_eq_some found).1
          have isIn := List.mem_of_getElem? isAt
          have known := fun ip isSet => (isOk.known inst info isIn ip isSet).2
          have distinct := fun ip isSet =>
            isOk.distinct ip (isOk.known inst info isIn ip isSet).1
          have start := Released.refl info pool
          simp only [found]
          rcases start.releaseRule_eq (known .v4) (reset .v4) with
            ⟨granted, pool', isReset⟩ | ⟨_, _, isRefused⟩
          · have released := start.releaseRule id (distinct .v4) isReset
            rw [isReset]
            simp only
            rcases released.releaseRule_eq (known .v6) (reset .v6) with
              ⟨_, pool'', isReset'⟩ | ⟨isSet', notGranted, isRefused⟩
            · have released' := released.releaseRule (by simp) (distinct .v6) isReset'
              have deleted := isOk.delete isAt released' (by intro ip; cases ip <;> simp)
              rw [isReset']
              exact ⟨⟨deleted.conserved, fun failed => by cases failed⟩, deleted⟩
            · rw [isRefused]
              have notSet : ¬info.fltRuleSet .v4 := by
                intro isSet
                refine notGranted (condition (pos, info) ?_ isSet isSet' (granted isSet))
                exact found
              have same : pool' = pool := by
                rw [FltPool.releaseRule, if_neg notSet] at isReset
                exact (Prod.ext_iff.mp isReset).2.symm
              rw [same]
              exact keeps_refl isOk _
          · rw [isRefused]
            exact keeps_refl isOk _

theorem PoolOk.not_keeps_delClientFltRule {mac : Option μ}
    (condition : ¬pool.DelCondition reset inst mac) :
    ¬Keeps installed pool (pool.delClientFltRule reset inst mac) := by
  simp only [DelCondition, not_forall] at condition
  rcases condition with ⟨⟨pos, info⟩, isClient, isSet, isSet', isReset, notReset⟩
  simp only at isSet isSet'
  rcases Option.bind_eq_some_iff.mp isClient with ⟨mac, rfl, found⟩
  have isAt := (client_eq_some found).1
  have isIn := List.mem_of_getElem? isAt
  have known := fun ip isSet => (isOk.known inst info isIn ip isSet).2
  have start := Released.refl info pool
  rcases start.releaseRule_eq (known .v4) (reset .v4) with
    ⟨_, pool', released⟩ | ⟨_, refused, _⟩
  · have isReleased := start.releaseRule id
      (fun isSet => isOk.distinct .v4 (isOk.known inst info isIn .v4 isSet).1) released
    have isRefused : pool'.releaseRule (reset .v6) info .v6 = (false, pool') := by
      simp [FltPool.releaseRule, isSet', notReset]
    intro keeps
    have conserved := keeps.conserved
    simp only [FltPool.delClientFltRule, found, released, isRefused] at conserved
    exact isOk.not_conserved_of_released isIn isSet isReleased (.inr rfl) conserved
  · exact absurd isReset refused

end FltPool

namespace EthFltMember

variable {ι μ : Type*}

def home (inst : ι) : EthFltMember → Option ι
  | wlanLanClient | wlanSelfClient => none
  | lanWlanClient | lanLanClient => some inst

def asks (env : EthFltEnv) (ip : IpaIpType) (member : EthFltMember) (mac : Option μ) :
    Option (μ × Option (EthFltRule μ)) :=
  match env.rxProp, mac with
  | some attrib, some mac =>
      match member with
      | wlanLanClient =>
          if env.isGuestAp ∨ env.wlanApIndex ≠ 0 then none
          else some (mac, env.fltRule .lanWlan ip (env.wlanAttrib attrib) env.wlanHdrType mac)
      | wlanSelfClient =>
          if env.wlanToWlanValid then
            some (mac, env.fltRule .wlanWlan ip (env.wlanAttrib attrib) env.wlanHdrType mac)
          else none
      | lanWlanClient =>
          if env.lanToWlanValid then
            some (mac, env.fltRule .lanWlan ip attrib env.lanHdrType mac)
          else none
      | lanLanClient =>
          if env.usbToCpeValid ∨ env.cpeToUsbValid then
            some (mac, env.fltRule .lanLan ip attrib env.lanHdrType mac)
          else none
  | _, _ => none

theorem dstMacAddr_of_mem_fltRule {env : EthFltEnv} {ip : IpaIpType} {tbl : EthRtTbl}
    {attrib : RxAttrib} {hdrType : HdrL2Type} {mac : μ} {written : EthFltRule μ}
    (isWritten : written ∈ env.fltRule tbl ip attrib hdrType mac) : written.dstMacAddr = mac := by
  unfold EthFltEnv.fltRule at isWritten
  split at isWritten
  · cases isWritten
  · split_ifs at isWritten
    · cases isWritten
    · cases isWritten
      rfl

theorem asks_mac {env : EthFltEnv} {ip : IpaIpType} {mac : Option μ} {member : EthFltMember}
    {asked : μ × Option (EthFltRule μ)}
    (passes : asks env ip member mac = some asked) :
    ∀ written ∈ asked.2, written.dstMacAddr = asked.1 := by
  cases isRx : env.rxProp with
  | none => simp [asks, isRx] at passes
  | some attrib =>
      cases mac with
      | none => simp [asks, isRx] at passes
      | some mac =>
          intro written
          cases member <;> simp only [asks, isRx] at passes <;> split_ifs at passes <;>
            cases passes <;> exact dstMacAddr_of_mem_fltRule

variable [DecidableEq ι] [DecidableEq μ] (env : EthFltEnv) (inst : ι) (mac : Option μ)
  (ip : IpaIpType) (reset : IpaIpType → Bool)

def addFltRule : (member : EthFltMember) → FltPool member.max ι μ → ℤ × FltPool member.max ι μ
  | wlanLanClient => wlanAddLanClientFltRule env inst mac ip
  | wlanSelfClient => wlanAddSelfClientFltRule env inst mac ip
  | lanWlanClient => lanAddWlanClientFltRule env inst mac ip
  | lanLanClient => lanAddLanClientFltRule env inst mac ip

def delFltRule : (member : EthFltMember) → FltPool member.max ι μ → ℤ × FltPool member.max ι μ
  | wlanLanClient => wlanDelLanClientFltRule inst mac reset
  | wlanSelfClient => wlanDelSelfClientFltRule inst mac reset
  | lanWlanClient => lanDelWlanClientFltRule inst mac reset
  | lanLanClient => lanDelLanClientFltRule inst mac reset

variable {env inst mac ip reset}

theorem addFltRule_of_asks {member : EthFltMember} {asked : μ × Option (EthFltRule μ)}
    (passes : asks env ip member mac = some asked) (pool : FltPool member.max ι μ) :
    addFltRule env inst mac ip member pool =
      pool.addClientFltRule env asked.2 inst asked.1 ip := by
  cases isRx : env.rxProp with
  | none => simp [asks, isRx] at passes
  | some attrib =>
      cases mac with
      | none => simp [asks, isRx] at passes
      | some mac =>
          cases member with
          | wlanLanClient =>
              simp only [asks, isRx] at passes
              split_ifs at passes with isStopped
              rw [not_or, not_not] at isStopped
              cases passes
              simp only [addFltRule, wlanAddLanClientFltRule, isRx]
              rw [if_neg isStopped.1, if_neg (not_not_intro isStopped.2)]
          | wlanSelfClient =>
              simp only [asks, isRx] at passes
              split_ifs at passes with isValid
              cases passes
              simp only [addFltRule, wlanAddSelfClientFltRule, isRx, if_pos isValid]
          | lanWlanClient =>
              simp only [asks, isRx] at passes
              split_ifs at passes with isValid
              cases passes
              simp only [addFltRule, lanAddWlanClientFltRule, isRx, if_pos isValid]
          | lanLanClient =>
              simp only [asks, isRx] at passes
              split_ifs at passes with isValid
              cases passes
              simp only [addFltRule, lanAddLanClientFltRule, isRx, if_pos isValid]

theorem delFltRule_eq (member : EthFltMember) (pool : FltPool member.max ι μ) :
    delFltRule inst mac reset member pool = pool.delClientFltRule reset inst mac := by
  cases member <;> rfl

theorem addFltRule_of_not_asks {member : EthFltMember} (notPassed : asks env ip member mac = none)
    (pool : FltPool member.max ι μ) :
    ∃ ret, addFltRule env inst mac ip member pool = (ret, pool) := by
  cases isRx : env.rxProp with
  | none =>
      refine ⟨ipacmFailure, ?_⟩
      cases member <;> simp [addFltRule, wlanAddLanClientFltRule, wlanAddSelfClientFltRule,
        lanAddWlanClientFltRule, lanAddLanClientFltRule, isRx]
  | some attrib =>
      cases mac with
      | none =>
          refine ⟨ipacmFailure, ?_⟩
          cases member <;> simp [addFltRule, wlanAddLanClientFltRule, wlanAddSelfClientFltRule,
            lanAddWlanClientFltRule, lanAddLanClientFltRule, isRx]
      | some mac =>
          cases member with
          | wlanLanClient =>
              simp only [asks, isRx, ite_eq_left_iff, reduceCtorEq, imp_false, not_not]
                at notPassed
              simp only [addFltRule, wlanAddLanClientFltRule, isRx]
              by_cases isGuest : env.isGuestAp
              · exact ⟨ipacmSuccess, if_pos isGuest⟩
              · rw [if_neg isGuest, if_pos (notPassed.resolve_left isGuest)]
                exact ⟨ipacmSuccess, rfl⟩
          | wlanSelfClient =>
              simp only [asks, isRx, ite_eq_right_iff, reduceCtorEq, imp_false] at notPassed
              simp only [addFltRule, wlanAddSelfClientFltRule, isRx, if_neg notPassed]
              exact ⟨ipacmFailure, rfl⟩
          | lanWlanClient =>
              simp only [asks, isRx, ite_eq_right_iff, reduceCtorEq, imp_false] at notPassed
              simp only [addFltRule, lanAddWlanClientFltRule, isRx, if_neg notPassed]
              exact ⟨ipacmFailure, rfl⟩
          | lanLanClient =>
              simp only [asks, isRx, ite_eq_right_iff, reduceCtorEq, imp_false] at notPassed
              simp only [addFltRule, lanAddLanClientFltRule, isRx, if_neg notPassed]
              exact ⟨ipacmFailure, rfl⟩

end EthFltMember

abbrev EthFltState (ι μ : Type*) : Type _ :=
  (key : EthFltMember × Option ι) → FltPool key.1.max ι μ

/-- A call of the function of a pool that adds a rule, or of the one that deletes those of a
client, by an instance. -/
inductive EthFltOp (ι μ : Type*) where
  | add (member : EthFltMember) (env : EthFltEnv) (inst : ι) (mac : Option μ) (ip : IpaIpType)
  | del (member : EthFltMember) (reset : IpaIpType → Bool) (inst : ι) (mac : Option μ)

namespace EthFltState

variable {ι μ : Type*}

structure IsInit (installed : EthFltMember × Option ι → IpaIpType → Prop)
    (state : EthFltState ι μ) : Prop where
  distinct : ∀ key ip, installed key ip → ∀ slot slot',
    ((state key).hdls ip slot).ruleHdl = ((state key).hdls ip slot').ruleHdl → slot = slot'
  valid : ∀ key ip slot, ((state key).hdls ip slot).valid ↔ installed key ip
  infos : ∀ key inst, (state key).infos inst = []
  kernel : ∀ key ip ruleHdl, (state key).kernel ip ruleHdl = none

theorem IsInit.poolOk [Fintype ι] {installed : EthFltMember × Option ι → IpaIpType → Prop}
    {state : EthFltState ι μ} (isInit : IsInit installed state) (key : EthFltMember × Option ι) :
    (state key).PoolOk (installed key) where
  distinct := isInit.distinct key
  conserved := by
    intro ip isInstalled slot
    rw [if_pos ((isInit.valid key ip slot).mpr isInstalled), FltPool.owners]
    simp [isInit.infos]
  known := by simp [isInit.infos]
  unused := by
    intro ip notInstalled slot
    by_contra isValid
    rw [Bool.not_eq_false] at isValid
    exact notInstalled ((isInit.valid key ip slot).mp isValid)
  programmed := by simp [isInit.infos]
  dummy := fun ip _ slot _ => isInit.kernel key ip _

variable [DecidableEq ι]

def setPool (state : EthFltState ι μ) (member : EthFltMember) (home : Option ι)
    (pool : FltPool member.max ι μ) : EthFltState ι μ :=
  Function.update state (member, home) pool

@[simp] theorem setPool_self (state : EthFltState ι μ) (member : EthFltMember) (home : Option ι)
    (pool : FltPool member.max ι μ) : state.setPool member home pool (member, home) = pool :=
  Function.update_self _ _ _

theorem setPool_of_ne (state : EthFltState ι μ) (member : EthFltMember) (home : Option ι)
    (pool : FltPool member.max ι μ) {key : EthFltMember × Option ι}
    (isOther : key ≠ (member, home)) : state.setPool member home pool key = state key :=
  Function.update_of_ne isOther _ _

variable [DecidableEq μ]

def call (state : EthFltState ι μ) : EthFltOp ι μ → ℤ × EthFltState ι μ
  | .add member env inst mac ip =>
      let result := member.addFltRule env inst mac ip (state (member, member.home inst))
      (result.1, state.setPool member (member.home inst) result.2)
  | .del member reset inst mac =>
      let result := member.delFltRule inst mac reset (state (member, member.home inst))
      (result.1, state.setPool member (member.home inst) result.2)

def Step (state : EthFltState ι μ) (op : EthFltOp ι μ) (state' : EthFltState ι μ) : Prop :=
  (state.call op).2 = state'

/-- No request for a rule fails, and no deletion stops between its two requests. -/
def Condition (state : EthFltState ι μ) : EthFltOp ι μ → Prop
  | .add member env inst mac ip => ∀ asked ∈ member.asks env ip mac,
      (state (member, member.home inst)).AddCondition env asked.2 inst asked.1 ip
  | .del member reset inst mac => (state (member, member.home inst)).DelCondition reset inst mac

variable [Fintype ι] {installed : EthFltMember × Option ι → IpaIpType → Prop}
  {state state' : EthFltState ι μ} {op : EthFltOp ι μ}

/-- After a call each handle is valid or has one owner, and if the call fails the pools and the
tables are as they were. -/
structure Keeps (installed : EthFltMember × Option ι → IpaIpType → Prop) (state : EthFltState ι μ)
    (op : EthFltOp ι μ) : Prop where
  conserved : ∀ key, ((state.call op).2 key).Conserved (installed key)
  failed : (state.call op).1 = ipacmFailure → ∀ key,
    ((state.call op).2 key).hdls = (state key).hdls ∧
      ((state.call op).2 key).infos = (state key).infos

section

variable (isOk : ∀ key, (state key).PoolOk (installed key))

include isOk

theorem keeps_update (member : EthFltMember) (home : Option ι) (result : ℤ × FltPool member.max ι μ)
    (isCall : state.call op = (result.1, state.setPool member home result.2)) :
    state.Keeps installed op ↔
      FltPool.Keeps (installed (member, home)) (state (member, home)) result := by
  constructor
  · intro keeps
    have conserved := keeps.conserved (member, home)
    have failed := keeps.failed
    simp only [isCall, setPool_self] at conserved failed
    refine ⟨conserved, fun isFailed => ?_⟩
    have same := failed isFailed (member, home)
    simp only [setPool_self] at same
    exact same
  · intro keeps
    refine ⟨fun key => ?_, fun isFailed key => ?_⟩
    · simp only [isCall]
      by_cases isKey : key = (member, home)
      · subst isKey
        rw [setPool_self]
        exact keeps.conserved
      · rw [setPool_of_ne state member home result.2 isKey]
        exact (isOk key).conserved
    · simp only [isCall] at isFailed ⊢
      by_cases isKey : key = (member, home)
      · subst isKey
        simp only [setPool_self]
        exact keeps.failed isFailed
      · simp only [setPool_of_ne state member home result.2 isKey, and_self]

theorem keeps_iff (op : EthFltOp ι μ) :
    state.Keeps installed op ↔ state.Condition op := by
  cases op with
  | add member env inst mac ip =>
      rw [keeps_update isOk member (member.home inst) _ rfl]
      cases passes : member.asks env ip mac with
      | none =>
          have left : ∃ ret, member.addFltRule env inst mac ip (state (member, member.home inst)) =
              (ret, state (member, member.home inst)) :=
            EthFltMember.addFltRule_of_not_asks passes _
          rcases left with ⟨ret, isSame⟩
          rw [isSame]
          refine ⟨fun _ => ?_, fun _ => (FltPool.keeps_refl (isOk _) ret).1⟩
          intro asked isAsked
          rw [passes] at isAsked
          cases isAsked
      | some asked =>
          rw [EthFltMember.addFltRule_of_asks passes]
          have isMac := EthFltMember.asks_mac passes
          constructor
          · intro keeps asked' isAsked
            rw [passes, Option.mem_some_iff] at isAsked
            subst isAsked
            by_contra notMet
            exact (isOk _).not_keeps_addClientFltRule notMet keeps
          · intro condition
            exact ((isOk _).addClientFltRule isMac (condition asked passes)).1
  | del member reset inst mac =>
      rw [keeps_update isOk member (member.home inst) _ rfl]
      rw [EthFltMember.delFltRule_eq]
      constructor
      · intro keeps
        by_contra notMet
        exact (isOk _).not_keeps_delClientFltRule notMet keeps
      · intro condition
        exact ((isOk _).delClientFltRule condition).1

theorem poolOk_step
    (stepped : Run.Guarded Condition Step state op state') (key : EthFltMember × Option ι) :
    (state' key).PoolOk (installed key) := by
  rcases stepped with ⟨condition, rfl⟩
  cases op with
  | add member env inst mac ip =>
      by_cases isKey : key = (member, member.home inst)
      · subst isKey
        simp only [call, setPool_self]
        cases passes : member.asks env ip mac with
        | none =>
            have left :
                ∃ ret, member.addFltRule env inst mac ip (state (member, member.home inst)) =
                  (ret, state (member, member.home inst)) :=
              EthFltMember.addFltRule_of_not_asks passes _
            rcases left with ⟨ret, isSame⟩
            rw [isSame]
            exact isOk _
        | some asked =>
            rw [EthFltMember.addFltRule_of_asks passes]
            exact ((isOk _).addClientFltRule (EthFltMember.asks_mac passes)
              (condition asked passes)).2
      · simp only [call, setPool_of_ne _ _ _ _ isKey]
        exact isOk key
  | del member reset inst mac =>
      by_cases isKey : key = (member, member.home inst)
      · subst isKey
        simp only [call, setPool_self, EthFltMember.delFltRule_eq]
        exact ((isOk _).delClientFltRule condition).2
      · simp only [call, setPool_of_ne _ _ _ _ isKey]
        exact isOk key

end

theorem reachable_poolOk
    (reached : Run.Reachable (IsInit installed) (Run.Guarded Condition Step) state)
    (key : EthFltMember × Option ι) : (state key).PoolOk (installed key) := by
  revert key
  apply reached.invariant fun state => ∀ key, (state key).PoolOk (installed key)
  · intro state isInit
    exact isInit.poolOk
  · intro state op state' isOk stepped
    exact poolOk_step isOk stepped

/-- As long as no request for a rule fails and no deletion stops between its two requests, each
handle is valid or has one owner; and exactly the calls that meet this keep it. -/
theorem reachable_fltHdlsOk
    (reached : Run.Reachable (IsInit installed) (Run.Guarded Condition Step) state) :
    (∀ key, (state key).Conserved (installed key)) ∧
      ∀ op, state.Keeps installed op ↔ state.Condition op :=
  ⟨fun key => (reachable_poolOk reached key).conserved, keeps_iff (reachable_poolOk reached)⟩

def dummies : EthFltState Unit ℕ := fun _ =>
  { hdls := fun _ slot => ⟨slot, true⟩, infos := fun _ => [], kernel := fun _ _ => none }

def accessPoint (modified : Bool) : EthFltEnv where
  rxProp := some ⟨false, 0⟩
  isGuestAp := false
  wlanApIndex := 0
  numWlanApIface := 1
  ipaNumWlanGuestAp := 0
  wlanToWlanValid := true
  lanToWlanValid := true
  usbToCpeValid := false
  cpeToUsbValid := false
  wlanHdrType := .hdr8023
  lanHdrType := .ethernetII
  allocated := true
  rtTblHdl := fun _ _ => some 7
  modified := modified

def oneClient : EthFltState Unit ℕ :=
  let added := (dummies.call (.add .lanWlanClient (accessPoint true) () (some 1) .v4)).2
  (added.call (.add .lanWlanClient (accessPoint true) () (some 1) .v6)).2

theorem dummies_isInit : IsInit (fun _ _ => True) dummies where
  distinct := fun _ _ _ _ _ same => Fin.ext same
  valid := fun _ _ _ => iff_of_true rfl trivial
  infos := fun _ _ => rfl
  kernel := fun _ _ _ => rfl

theorem reachable_fltHdlsOk_oneClient :
    oneClient.Keeps (fun _ _ => True) (.del .lanWlanClient (fun _ => true) () (some 1)) ∧
      ¬oneClient.Keeps (fun _ _ => True) (.del .lanWlanClient (· = .v4) () (some 1)) := by
  have reached : Run.Reachable (IsInit fun _ _ => True) (Run.Guarded Condition Step) oneClient :=
    .next (.add .lanWlanClient (accessPoint true) () (some 1) .v6)
      (.next (.add .lanWlanClient (accessPoint true) () (some 1) .v4) (.start dummies_isInit)
        ⟨fun _ _ _ _ _ _ _ => rfl, rfl⟩)
      ⟨fun _ _ _ _ _ _ _ => rfl, rfl⟩
  have kept := reachable_fltHdlsOk reached
  refine ⟨(kept.2 _).mpr fun _ _ _ _ _ => rfl, fun keeps => ?_⟩
  have condition := (kept.2 _).mp keeps
  have reset := condition
    (0, FltPool.takeRule .v6 0 (FltPool.takeRule .v4 0 (FltPool.newClient 1))) rfl rfl rfl rfl
  exact absurd reset (by decide)

/-- The request of an addition fails, and the handle is lost. -/
theorem not_fltHdlsOk :
    ¬∀ state : EthFltState Unit ℕ,
      Run.Reachable (IsInit fun _ _ => True) Step state →
        ∀ op, state.Keeps (fun _ _ => True) op := by
  intro keeps
  have kept := keeps dummies (.start dummies_isInit)
    (.add .lanWlanClient (accessPoint false) () (some 1) .v4)
  have owned := kept.conserved (.lanWlanClient, some ()) .v4 trivial ⟨0, by decide⟩
  revert owned
  decide

end EthFltState

end HtcPme.Ipacm
