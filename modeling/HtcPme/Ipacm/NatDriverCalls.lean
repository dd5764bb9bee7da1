import HtcPme.IpaNat.HandleChecks
import HtcPme.Ipacm.NatDriver

/-!
# What the NAT driver does for its clients

Any sequence of calls of `libipanat`, on its one slot and the table behind it, is answered as the
driver of its clients may answer it.
-/

namespace HtcPme.Ipacm

open IpaNat IpaNatIp4TableCache

structure DriverState where
  cache : IpaNatCache
  session : NatSession

inductive DriverCall where
  | tbl (call : TblCall)
  | addRule (tblHdl : ℕ) (clntRule : IpaNatIpv4Rule)
  | delRule (outcome : DmaOutcome) (tblHdl ruleHdl : BitVec 32)

namespace DriverState

/-- The table of a slot after `ipa_nati_reset_tbl`. -/
def cleared (slot : IpaNatTblSlot) : NatSession where
  tbl :=
    { zeroed slot.publicAddr slot.tableEntries slot.expnTableEntries with
      valid := slot.valid
      tblAddrOffset := slot.tblAddrOffset }
  held := []

def initial : DriverState := ⟨.initial, cleared .zero⟩

/-- `ipa_nat_add_ipv4_rule`, which faults where the table is not mapped. -/
def ipaNatAddIpv4Rule (state : DriverState) (tblHdl : ℕ) (clntRule : IpaNatIpv4Rule) :
    Option (Option ℕ × DriverState) :=
  if tblHdl = invalidNatEntry ∨ tblHdl > ipaNatMaxIp4Tbls then some (none, state)
  else if !(state.cache.ip4Tbl 0).rulesMapped then none
  else
    match ipaNatiAddIpv4Rule state.session.tbl clntRule with
    | none => none
    | some (.error _, tbl) => some (none, ⟨state.cache, tbl, state.session.held⟩)
    | some (.ok ruleHdl, tbl) =>
        some (some ruleHdl, ⟨state.cache, tbl, ⟨ruleHdl, clntRule⟩ :: state.session.held⟩)

/-- The handle that a call returns, or `none` when it fails; that of a new table is the count. A
call that faults or does not return has no next state. -/
def apply (state : DriverState) : DriverCall → Option (Option ℕ × DriverState)
  | .tbl call =>
      match call.apply state.cache with
      | .error _ => none
      | .ok (false, cache) => some (none, { state with cache })
      | .ok (true, cache) => some (some cache.tableCnt, ⟨cache, cleared (cache.ip4Tbl 0)⟩)
  | .addRule tblHdl clntRule => state.ipaNatAddIpv4Rule tblHdl clntRule
  | .delRule outcome tblHdl ruleHdl =>
      match ipaNatDelIpv4Rule state.session.tbl outcome tblHdl ruleHdl with
      | (.error _, tbl) => some (none, ⟨state.cache, tbl, state.session.held⟩)
      | (.ok _, tbl) =>
          some (some 0, ⟨state.cache, tbl, withoutHdl state.session.held ruleHdl.toNat⟩)

/-- A table is created while there is none, from memory at the offset 0 and with offsets of 16 bits;
rules are added while there is one, and rule handles have 16 bits. -/
def Allowed (state : DriverState) : DriverCall → Prop
  | .tbl call => call.Accepted ∧ CallCondition state.cache call ∧
      ∀ publicAddr numberOfEntries env mem cache,
        call = .add publicAddr numberOfEntries env →
          ipaNatiAllocTable state.cache numberOfEntries env = (.ok mem, cache) →
            mem.offset = 0 ∧ TableSize mem.tableEntries mem.expnTableEntries
  | .addRule tblHdl clntRule =>
      clntRule.protocol ≠ natInvalidProtoFieldCmp ∧ (tblHdl = 1 → state.cache.tableCnt = 1)
  | .delRule _ tblHdl ruleHdl => tblHdl.toNat ≤ ipaNatMaxIp4Tbls ∧ ruleHdl.toNat < 2 ^ 16

def Step (state : DriverState) (event : DriverCall × Option ℕ) (next : DriverState) : Prop :=
  state.Allowed event.1 ∧ state.apply event.1 = some (event.2, next)

end DriverState

namespace NatDriver

def Answers (driver : NatDriver) : DriverCall → Option (ℕ × NatDriver) → Prop
  | .tbl (.add publicAddr numberOfEntries _), answer =>
      ∃ succeeds, answer = driver.ipaNatAddIpv4Tbl publicAddr numberOfEntries succeeds
  | .tbl (.del tblHdl _), answer =>
      ∃ succeeds, answer = (driver.ipaNatDelIpv4Tbl tblHdl succeeds).map (0, ·)
  | .addRule tblHdl clntRule, answer =>
      ∃ ruleHdl, answer = driver.ipaNatAddIpv4Rule tblHdl clntRule ruleHdl
  | .delRule outcome tblHdl ruleHdl, answer =>
      answer =
        (driver.ipaNatDelIpv4Rule tblHdl.toNat ruleHdl.toNat (outcome = .posted)).map (0, ·)

def Step (driver : NatDriver) (event : DriverCall × Option ℕ) (next : NatDriver) : Prop :=
  ∃ answer, driver.Answers event.1 answer ∧ event.2 = answer.map Prod.fst ∧
    next = (answer.map Prod.snd).getD driver

theorem step_none (driver : NatDriver) (call : TblCall) : driver.Step (.tbl call, none) driver := by
  refine ⟨none, ?_, rfl, rfl⟩
  cases call with
  | add | del => exact ⟨false, by simp [ipaNatAddIpv4Tbl, ipaNatDelIpv4Tbl]⟩

end NatDriver

namespace DriverState

inductive Refines (state : DriverState) (driver : NatDriver) : Prop where
  | noTable (cnt : state.cache.tableCnt = 0) (slot : state.cache.ip4Tbl 0 = .zero)
      (empty : state.session = cleared .zero) (noTable : driver.table = none)
  | oneTable (cnt : state.cache.tableCnt = 1) (mapped : (state.cache.ip4Tbl 0).rulesMapped = true)
      (wellFormed : state.session.tbl.WellFormed state.session.held)
      (table : driver.table = some state.session.tbl.publicAddr)
      (rules : driver.rules = state.session.held)

def Answered (state : DriverState) (driver : NatDriver) (call : DriverCall) : Prop :=
  ∃ result next, state.apply call = some (result, next) ∧
    ∃ driver', driver.Step (call, result) driver' ∧ next.Refines driver'

variable {state next : DriverState} {driver : NatDriver}

theorem Refines.tbl (refines : state.Refines driver) {call : TblCall}
    (allowed : state.Allowed (.tbl call)) : state.Answered driver (.tbl call) := by
  rcases allowed with ⟨accepted, condition, fits⟩
  cases call with
  | add publicAddr numberOfEntries env =>
      by_cases fails : env.AllocFails state.cache
      · rcases apply_add_allocFails publicAddr accepted.1 fails with ⟨fd, failed⟩
        refine ⟨none, ⟨{ state.cache with ipaFd := fd }, state.session⟩,
          by simp only [apply, failed], driver, driver.step_none _, ?_⟩
        cases refines with
        | noTable cnt slot empty noTable => exact .noTable cnt slot empty noTable
        | oneTable cnt mapped wellFormed table rules =>
            exact .oneTable cnt mapped wellFormed table rules
      · rcases condition.resolve_left fails with ⟨cnt, rest⟩
        cases refines with
        | oneTable cnt' =>
            rw [cnt] at cnt'
            cases cnt'
        | noTable _ slot _ noTable =>
            rcases apply_add_allocated publicAddr accepted.1 cnt slot fails rest with
              ⟨mem, fd, natFd, allocated, added⟩
            rcases fits _ _ _ _ _ rfl allocated with ⟨offset, size⟩
            refine ⟨some 1, _, by simp only [apply, added]; rfl,
              ⟨some publicAddr, [], .nil, by simp, by simp⟩,
              ⟨some (1, _), ⟨true, ?_⟩, rfl, rfl⟩, ?_⟩
            · rw [NatDriver.ipaNatAddIpv4Tbl, if_pos ⟨accepted.1.ne', noTable, rfl⟩]
            · apply Refines.oneTable rfl rfl
              · simp only [cleared, offset]
                exact NatSession.wellFormed_zeroed size
              · rfl
              · rfl
  | del tblHdl env =>
      rcases apply_del_cases state.cache tblHdl env with failed | ⟨valid, deleted⟩
      · exact ⟨none, state, by simp only [apply, failed], driver, driver.step_none _, refines⟩
      · have isFirst : tblHdl = 1 := by
          by_contra notFirst
          have outOfRange : tblHdl = invalidNatEntry ∨ tblHdl > ipaNatMaxIp4Tbls := by
            simp only [invalidNatEntry, ipaNatMaxIp4Tbls]
            omega
          simp only [TblCall.apply, IpaNat.ipaNatDelIpv4Tbl, outOfRange, if_true] at deleted
          cases deleted
        cases refines with
        | noTable _ slot =>
            rw [slot] at valid
            cases valid
        | oneTable cnt _ _ table =>
            rw [cnt] at deleted
            refine ⟨some 0, _, by simp only [apply, deleted]; rfl, .initial,
              ⟨some (0, .initial), ⟨true, ?_⟩, rfl, rfl⟩, .noTable rfl rfl rfl rfl⟩
            simp [NatDriver.ipaNatDelIpv4Tbl, NatDriver.HasTable, isFirst, table]

theorem Refines.addRule (refines : state.Refines driver) {tblHdl : ℕ} {clntRule : IpaNatIpv4Rule}
    (allowed : state.Allowed (.addRule tblHdl clntRule)) :
    state.Answered driver (.addRule tblHdl clntRule) := by
  by_cases outOfRange : tblHdl = invalidNatEntry ∨ tblHdl > ipaNatMaxIp4Tbls
  · exact ⟨none, state, if_pos outOfRange, driver, ⟨none, ⟨none, rfl⟩, rfl, rfl⟩, refines⟩
  obtain rfl : tblHdl = 1 := by
    simp only [invalidNatEntry, ipaNatMaxIp4Tbls] at outOfRange
    omega
  have inUse := allowed.2 rfl
  cases refines with
  | noTable cnt =>
      rw [cnt] at inUse
      cases inUse
  | oneTable cnt mapped wellFormed table rules =>
      have hasTable : driver.HasTable 1 := ⟨rfl, by simp [table]⟩
      rcases wellFormed.add allowed.1 with failed | ⟨ruleHdl, tbl', added, layout, wellFormed'⟩
      · exact ⟨none, state, by simp [apply, ipaNatAddIpv4Rule, mapped, failed], driver,
          ⟨none, ⟨none, rfl⟩, rfl, rfl⟩, .oneTable cnt mapped wellFormed table rules⟩
      · have fresh : driver.Fresh ruleHdl := by
          obtain ⟨-, _, _, _, -, handles⟩ := wellFormed'
          refine ⟨(handles.hdl_pos _ (List.mem_cons_self ..)).ne', ?_⟩
          intro held isHeld same
          rw [rules] at isHeld
          exact (List.nodup_cons.mp handles.nodup).1 (List.mem_map.mpr ⟨held, isHeld, same⟩)
        rcases NatDriver.ipaNatAddIpv4Rule_succeeds clntRule hasTable fresh with ⟨driver', answer⟩
        rcases NatDriver.ipaNatAddIpv4Rule_eq_some answer with ⟨_, _, _, rulesEq, tableEq⟩
        refine ⟨some ruleHdl, ⟨state.cache, tbl', _⟩, by
            simp [apply, ipaNatAddIpv4Rule, mapped, added], driver',
          ⟨some (ruleHdl, driver'), ⟨some ruleHdl, answer.symm⟩, rfl, rfl⟩,
          .oneTable cnt mapped wellFormed' ?_ ?_⟩
        · rw [tableEq, table, layout.publicAddr]
        · rw [rulesEq, rules]

theorem Refines.delRule (refines : state.Refines driver) {outcome : DmaOutcome}
    {tblHdl ruleHdl : BitVec 32} (allowed : state.Allowed (.delRule outcome tblHdl ruleHdl)) :
    state.Answered driver (.delRule outcome tblHdl ruleHdl) := by
  rcases allowed with ⟨inRange, fits⟩
  by_cases accepted : driver.HasTable tblHdl.toNat ∧
      (∃ held ∈ driver.rules, held.ruleHdl = ruleHdl.toNat) ∧ outcome = .posted
  · rcases accepted with ⟨⟨isFirst, hasTable⟩, ⟨gone, isHeld, goneHdl⟩, rfl⟩
    rcases NatDriver.ipaNatDelIpv4Rule_succeeds ⟨isFirst, hasTable⟩ isHeld with ⟨driver', answer⟩
    rcases NatDriver.ipaNatDelIpv4Rule_eq_some answer with ⟨_, _, rulesEq, tableEq⟩
    rw [goneHdl] at answer rulesEq
    have nonzero : ¬(tblHdl = 0 ∨ ruleHdl = 0) := by
      have := driver.hdl_ne_zero gone isHeld
      rintro (rfl | rfl)
      · cases isFirst
      · exact this goneHdl
    cases refines with
    | noTable _ _ _ noTable => exact absurd noTable hasTable
    | oneTable cnt mapped wellFormed table rules =>
        rw [rules] at isHeld
        obtain ⟨tbl', deleted, layout, wellFormed', -⟩ := wellFormed.del isHeld
        rw [goneHdl] at deleted wellFormed'
        refine ⟨some 0, ⟨state.cache, tbl', withoutHdl state.session.held ruleHdl.toNat⟩, ?_,
          driver', ⟨some (0, driver'), ?_, rfl, rfl⟩, .oneTable cnt mapped wellFormed' ?_ ?_⟩
        · simp only [apply, ipaNatDelIpv4Rule, nonzero, if_false, if_true, deleted]
        · simp only [NatDriver.Answers, decide_true, answer, Option.map_some]
        · rw [tableEq, table, layout.publicAddr]
        · rw [rulesEq, rules]
          rfl
  · have refused : driver.ipaNatDelIpv4Rule tblHdl.toNat ruleHdl.toNat (outcome = .posted) =
        none := by
      rw [NatDriver.ipaNatDelIpv4Rule, if_neg (by simpa using accepted)]
    have failed : ipaNatDelIpv4Rule state.session.tbl outcome tblHdl ruleHdl =
        (.error .einval, state.session.tbl) := by
      unfold ipaNatDelIpv4Rule
      split_ifs with isZero posted
      · rfl
      · rw [not_or] at isZero
        have isFirst : tblHdl.toNat = 1 := by
          simp only [ipaNatMaxIp4Tbls] at inRange
          bv_omega
        cases refines with
        | noTable _ _ empty =>
            rw [empty]
            rfl
        | oneTable _ _ wellFormed table rules =>
            apply wellFormed.del_unknown (by bv_omega) fits
            intro one isHeld same
            rw [← rules] at isHeld
            exact accepted ⟨⟨isFirst, by simp [table]⟩, ⟨one, isHeld, same⟩, posted⟩
      · rfl
    exact ⟨none, state, by simp only [apply, failed], driver,
      ⟨none, by rw [NatDriver.Answers, refused, Option.map_none], rfl, rfl⟩, refines⟩

theorem Refines.answered (refines : state.Refines driver) (call : DriverCall)
    (allowed : state.Allowed call) : state.Answered driver call := by
  cases call with
  | tbl => exact refines.tbl allowed
  | addRule => exact refines.addRule allowed
  | delRule => exact refines.delRule allowed

/-- Every sequence of calls is answered as the clients of the driver assume, and leaves the rules in
the table that they hold; and each call returns. -/
theorem path_refines {events : List (DriverCall × Option ℕ)}
    (path : Run.Path Step initial events state) :
    ∃ driver, Run.Path NatDriver.Step .initial events driver ∧ state.Refines driver ∧
      ∀ call, state.Allowed call → ∃ result next, state.apply call = some (result, next) := by
  have keeps : ∀ state driver (event : DriverCall × Option ℕ) next, Refines state driver →
      Step state event next → ∃ driver', driver.Step event driver' ∧ next.Refines driver' := by
    rintro state driver ⟨call, result⟩ next refines ⟨allowed, applied⟩
    rcases refines.answered call allowed with ⟨_, _, applied', driver', stepped, refines'⟩
    cases applied.symm.trans applied'
    exact ⟨driver', stepped, refines'⟩
  have start : initial.Refines .initial := .noTable rfl rfl rfl rfl
  rcases path.simulated Refines keeps start with ⟨driver, path', refines⟩
  refine ⟨driver, path', refines, ?_⟩
  intro call allowed
  rcases refines.answered call allowed with ⟨result, next, applied, _⟩
  exact ⟨result, next, applied⟩

theorem Step.of_isSome (state : DriverState) (call : DriverCall) (allowed : state.Allowed call)
    (returns : (state.apply call).isSome) :
    Step state (call, ((state.apply call).get returns).1) ((state.apply call).get returns).2 :=
  ⟨allowed, (Option.some_get returns).symm⟩

theorem path_refines_added :
    let rule : IpaNatIpv4Rule := ⟨0x0A000001, 0xC0A80001, 80, 1000, 2000, 6⟩
    ∃ (events : List (DriverCall × Option ℕ)) (state : DriverState) (driver : NatDriver),
      events.map Prod.snd = [some 1, some 1] ∧ Run.Path NatDriver.Step .initial events driver ∧
        state.Refines driver ∧ state.session.held = [⟨1, rule⟩] := by
  intro rule
  have fits : initial.Allowed (.tbl (.add 0x01020304 5 .allSucceed)) := by
    refine ⟨⟨by decide, by decide⟩, .inr ⟨rfl, by decide⟩, ?_⟩
    rintro _ _ _ _ _ ⟨⟩ ⟨⟩
    exact ⟨rfl, by decide, by decide, by decide⟩
  rcases path_refines (.cons (.of_isSome _ _ fits (by decide +kernel))
    (.cons (.of_isSome _ (.addRule 1 rule) ⟨by decide, fun _ => by decide +kernel⟩
      (by decide +kernel)) (.nil _))) with ⟨driver, path, refines, _⟩
  exact ⟨_, _, driver, by decide +kernel, path, refines, by decide +kernel⟩

end DriverState

end HtcPme.Ipacm
