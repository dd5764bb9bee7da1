import HtcPme.Foundation.Run
import HtcPme.IpaNat.Types
import Mathlib.Data.List.FinRange

/-!
# Creating and deleting NAT tables

`ipa_nati_add_ipv4_tbl`, `ipa_nati_del_ipv4_table` and what they call, over the bookkeeping of the
slots: an array is the number of entries it was allocated with. The outcomes of calls come with the
event.
-/

namespace HtcPme.IpaNat

abbrev ipaNatMaxIp4Tbls : ℕ := 1

/-- `ipa_nat_ip4_table_cache` as the creation and deletion of tables see it. -/
structure IpaNatTblSlot where
  valid : Bool
  publicAddr : BitVec 32
  natFd : ℕ
  size : ℕ
  tblAddrOffset : ℕ
  tableEntries : ℕ
  expnTableEntries : ℕ
  /-- Whether `ipv4_rules_addr` was set. -/
  rulesMapped : Bool
  indexExpnTableMeta : Option ℕ
  ruleIdArray : Option ℕ
deriving DecidableEq

def IpaNatTblSlot.zero : IpaNatTblSlot := ⟨false, 0, 0, 0, 0, 0, 0, false, none, none⟩

structure IpaNatCache where
  ip4Tbl : Fin ipaNatMaxIp4Tbls → IpaNatTblSlot
  ipaFd : ℕ
  tableCnt : ℕ

def IpaNatCache.initial : IpaNatCache := ⟨fun _ => .zero, 0, 0⟩

/-- What ends the process, or leaves the bounds of `ip4_tbl`. -/
inductive DriverFault where
  | outOfBounds (index : ℕ)
  | nullStore
deriving DecidableEq

def IpaNatCache.withSlot {α : Type} (cache : IpaNatCache) (index : ℕ)
    (access : IpaNatTblSlot → Except DriverFault (α × IpaNatTblSlot)) :
    Except DriverFault (α × IpaNatCache) :=
  if inBounds : index < ipaNatMaxIp4Tbls then do
    let (result, slot) ← access (cache.ip4Tbl ⟨index, inBounds⟩)
    return (result, { cache with ip4Tbl := Function.update cache.ip4Tbl ⟨index, inBounds⟩ slot })
  else .error (.outOfBounds index)

structure AddTblEnv where
  openIpa : Option ℕ
  allocNatMem : Option ℕ
  mallocMeta : Bool
  mallocRuleId : Bool
  openNat : Option ℕ
  mmap : Bool
  initNat : Bool
deriving DecidableEq

structure DelTblEnv where
  close : Bool
  delNat : Bool
deriving DecidableEq

/-- The loop of `GetNearest2Power`; sixteen rounds empty a 16-bit number. -/
def nearest2PowerLoop (number : ℕ) : ℕ → ℕ → ℕ → ℕ
  | 0, _, tmp => tmp
  | rounds + 1, num, tmp =>
      if num = 1 then if number ≠ tmp then tmp * 2 % 2 ^ 16 else tmp
      else nearest2PowerLoop number rounds (num >>> 1) (tmp * 2 % 2 ^ 16)

def getNearest2Power (num : ℕ) : Option ℕ :=
  if num = 0 then none
  else if num = 1 then some 2
  else some (nearest2PowerLoop num 16 num 1)

def getNearestEven (num : ℕ) : ℕ :=
  if num < 2 then 2 else if num % 2 ≠ 0 then (num + 1) % 2 ^ 16 else num

/-- `ipa_ioc_nat_alloc_mem` with the two table dimensions. -/
structure AllocatedMem where
  size : ℕ
  offset : ℕ
  tableEntries : ℕ
  expnTableEntries : ℕ
deriving DecidableEq

/-- `ipa_nati_alloc_table`, with `CreateNatDevice`. The percentages .8 and .2 of a 16-bit number,
cut to an integer, are these quotients. -/
def ipaNatiAllocTable (cache : IpaNatCache) (numberOfEntries : ℕ) (env : AddTblEnv) :
    Except Errno AllocatedMem × IpaNatCache :=
  let tableEntries := numberOfEntries * 4 / 5
  let tableEntries := if tableEntries = 0 then 1 else tableEntries
  match getNearest2Power tableEntries with
  | none => (.error .einval, cache)
  | some tableEntries =>
      let expnTableEntries := getNearestEven (numberOfEntries / 5)
      let totalEntries := (tableEntries + expnTableEntries) % 2 ^ 16
      let size := natTableEntrySize * totalEntries + natIndexTableEntrySize * totalEntries
      match if cache.ipaFd = 0 then env.openIpa else some cache.ipaFd with
      | none => (.error .eio, cache)
      | some fd =>
          let cache := { cache with ipaFd := fd }
          match env.allocNatMem with
          | none => (.error .einval, cache)
          | some offset => (.ok { size, offset, tableEntries, expnTableEntries }, cache)

/-- `ipa_nati_update_cache` on its slot. A failing `malloc` is reported as success. -/
def ipaNatiUpdateCache (slot : IpaNatTblSlot) (mem : AllocatedMem) (publicAddr : BitVec 32)
    (env : AddTblEnv) : Except Errno Unit × IpaNatTblSlot :=
  let slot :=
    { slot with
      valid := true
      publicAddr := publicAddr
      size := mem.size
      tblAddrOffset := mem.offset
      tableEntries := mem.tableEntries
      expnTableEntries := mem.expnTableEntries }
  if slot.indexExpnTableMeta = none ∧ !env.mallocMeta then (.ok (), slot)
  else
    let slot :=
      { slot with
        indexExpnTableMeta := some (slot.indexExpnTableMeta.getD mem.expnTableEntries) }
    if slot.ruleIdArray = none ∧ !env.mallocRuleId then (.ok (), slot)
    else
      let slot :=
        { slot with
          ruleIdArray := some (slot.ruleIdArray.getD (mem.tableEntries + mem.expnTableEntries)) }
      match env.openNat with
      | none => (.error .eio, slot)
      | some fd =>
          let slot := { slot with natFd := fd }
          if env.mmap then (.ok (), { slot with rulesMapped := true }) else (.error .einval, slot)

def ipaNatiResetTbl (slot : IpaNatTblSlot) : Except DriverFault (Unit × IpaNatTblSlot) :=
  if slot.rulesMapped then .ok ((), slot) else .error .nullStore

def ipaNatiAddIpv4Tbl (cache : IpaNatCache) (publicAddr : BitVec 32) (numberOfEntries : ℕ)
    (env : AddTblEnv) : Except DriverFault (Except Errno ℕ × IpaNatCache) := do
  let tblIndx := cache.tableCnt
  match ipaNatiAllocTable cache numberOfEntries env with
  | (.error _, cache) => return (.error .enomem, cache)
  | (.ok mem, cache) =>
      let (updated, cache) ← cache.withSlot cache.tableCnt fun slot =>
        .ok (ipaNatiUpdateCache slot mem publicAddr env)
      match updated with
      | .error _ => return (.error .einval, cache)
      | .ok _ =>
          let (_, cache) ← cache.withSlot tblIndx ipaNatiResetTbl
          let (posted, cache) ← cache.withSlot tblIndx fun slot => .ok (env.initNat, slot)
          if !posted then return (.error .einval, cache)
          let tableCnt := (cache.tableCnt + 1) % 2 ^ 8
          return (.ok tableCnt, { cache with tableCnt })

def ipaNatAddIpv4Tbl (cache : IpaNatCache) (publicAddr : BitVec 32) (numberOfEntries : ℕ)
    (env : AddTblEnv) : Except DriverFault (Except Errno ℕ × IpaNatCache) := do
  if numberOfEntries = 0 then return (.error .einval, cache)
  match ← ipaNatiAddIpv4Tbl cache publicAddr numberOfEntries env with
  | (.error _, cache) => return (.error .einval, cache)
  | (.ok tblHdl, cache) => return (.ok tblHdl, cache)

def ipaNatiDelIpv4Table (cache : IpaNatCache) (tblHdl : ℕ) (env : DelTblEnv) :
    Except DriverFault (Except Errno Unit × IpaNatCache) := do
  let index := (tblHdl + 2 ^ 8 - 1) % 2 ^ 8
  let (deleted, cache) ← cache.withSlot index fun slot =>
    .ok (if !slot.valid ∨ !env.close ∨ !env.delNat then (false, slot) else (true, .zero))
  if !deleted then return (.error .einval, cache)
  return (.ok (), { cache with tableCnt := (cache.tableCnt + 2 ^ 8 - 1) % 2 ^ 8 })

def ipaNatDelIpv4Tbl (cache : IpaNatCache) (tblHdl : ℕ) (env : DelTblEnv) :
    Except DriverFault (Except Errno Unit × IpaNatCache) :=
  if tblHdl = invalidNatEntry ∨ tblHdl > ipaNatMaxIp4Tbls then .ok (.error .einval, cache)
  else ipaNatiDelIpv4Table cache tblHdl env

inductive TblCall where
  | add (publicAddr : BitVec 32) (numberOfEntries : ℕ) (env : AddTblEnv)
  | del (tblHdl : ℕ) (env : DelTblEnv)
deriving DecidableEq

def TblCall.apply (cache : IpaNatCache) : TblCall → Except DriverFault (Bool × IpaNatCache)
  | .add publicAddr numberOfEntries env => do
      let (result, cache) ← ipaNatAddIpv4Tbl cache publicAddr numberOfEntries env
      return (result.isOk, cache)
  | .del tblHdl env => do
      let (result, cache) ← ipaNatDelIpv4Tbl cache tblHdl env
      return (result.isOk, cache)

def IpaNatCache.validCnt (cache : IpaNatCache) : ℕ :=
  (List.finRange ipaNatMaxIp4Tbls).countP fun index => (cache.ip4Tbl index).valid

def TblCall.Accepted : TblCall → Prop
  | .add _ numberOfEntries _ => 0 < numberOfEntries ∧ numberOfEntries < 2 ^ 16
  | .del _ _ => True

def TblStep (cache : IpaNatCache) (call : TblCall) (next : IpaNatCache) : Prop :=
  call.Accepted ∧ ∃ succeeded, call.apply cache = .ok (succeeded, next)

def IpaNatTblSlot.Sized (slot : IpaNatTblSlot) : Prop :=
  slot.indexExpnTableMeta = some slot.expnTableEntries ∧
    slot.ruleIdArray = some (slot.tableEntries + slot.expnTableEntries)

def AddTblEnv.AllocFails (env : AddTblEnv) (cache : IpaNatCache) : Prop :=
  cache.ipaFd = 0 ∧ env.openIpa = none ∨ env.allocNatMem = none

def AddTblEnv.RestSucceeds (env : AddTblEnv) : Prop :=
  env.mallocMeta ∧ env.mallocRuleId ∧ env.openNat.isSome ∧ env.mmap ∧ env.initNat

instance (env : AddTblEnv) : Decidable env.RestSucceeds :=
  inferInstanceAs (Decidable (env.mallocMeta ∧ env.mallocRuleId ∧ env.openNat.isSome ∧ env.mmap ∧
    env.initNat))

/-- While the count leaves a slot free, an insertion whose calls all succeed returns a table with
arrays of its own size. -/
def IpaNatCache.AllowsAdd (cache : IpaNatCache) : Prop :=
  cache.tableCnt < ipaNatMaxIp4Tbls →
    ∀ publicAddr numberOfEntries env, TblCall.Accepted (.add publicAddr numberOfEntries env) →
      ¬env.AllocFails cache → env.RestSucceeds →
        ∃ next, TblCall.apply cache (.add publicAddr numberOfEntries env) = .ok (true, next) ∧
          next.tableCnt = next.validCnt ∧ ∃ index, (next.ip4Tbl index).valid ∧
            (next.ip4Tbl index).Sized

/-- What a call has to leave: the count, the sizes and, after a failed insertion, another try. -/
structure CallKept (call : TblCall) (succeeded : Bool) (next : IpaNatCache) : Prop where
  count : next.tableCnt = next.validCnt
  sized : ∀ index, (next.ip4Tbl index).valid → (next.ip4Tbl index).Sized
  retry : ∀ publicAddr numberOfEntries env, call = .add publicAddr numberOfEntries env →
    succeeded = false → next.AllowsAdd

def CallOk (cache : IpaNatCache) (call : TblCall) : Prop :=
  ∃ succeeded next, call.apply cache = .ok (succeeded, next) ∧ CallKept call succeeded next

/-- The condition of a well-behaved call: once the memory of a table is allocated, there is no
other table and nothing fails. -/
def CallCondition (cache : IpaNatCache) : TblCall → Prop
  | .add _ _ env => env.AllocFails cache ∨ cache.tableCnt = 0 ∧ env.RestSucceeds
  | .del _ _ => True

inductive CacheOk (cache : IpaNatCache) : Prop where
  | noTable (cnt : cache.tableCnt = 0) (slot : cache.ip4Tbl 0 = .zero)
  | oneTable (cnt : cache.tableCnt = 1) (valid : (cache.ip4Tbl 0).valid = true)
      (sized : (cache.ip4Tbl 0).Sized)

theorem validCnt_eq (cache : IpaNatCache) :
    cache.validCnt = if (cache.ip4Tbl 0).valid then 1 else 0 := by
  simp only [IpaNatCache.validCnt, List.finRange_succ, List.finRange_zero, List.map_nil,
    List.countP_singleton]

section Alloc

theorem getNearest2Power_isSome (num : ℕ) (positive : num ≠ 0) :
    ∃ power, getNearest2Power num = some power := by
  unfold getNearest2Power
  rw [if_neg positive]
  split
  · exact ⟨_, rfl⟩
  · exact ⟨_, rfl⟩

variable {cache : IpaNatCache} {env : AddTblEnv}

theorem ipaNatiAllocTable_fails (numberOfEntries : ℕ) (fails : env.AllocFails cache) :
    ∃ errno fd, ipaNatiAllocTable cache numberOfEntries env =
      (.error errno, { cache with ipaFd := fd }) := by
  obtain ⟨power, powerEq⟩ := getNearest2Power_isSome
    (if numberOfEntries * 4 / 5 = 0 then 1 else numberOfEntries * 4 / 5) (by split <;> omega)
  unfold ipaNatiAllocTable
  simp only [powerEq]
  rcases fails with ⟨closed, noFd⟩ | noMem
  · simp only [closed, noFd, if_true]
    exact ⟨_, 0, by rw [← closed]⟩
  · simp only [noMem]
    cases (if cache.ipaFd = 0 then env.openIpa else some cache.ipaFd) with
    | none => exact ⟨_, cache.ipaFd, rfl⟩
    | some fd => exact ⟨_, fd, rfl⟩

theorem ipaNatiAllocTable_succeeds (numberOfEntries : ℕ) (succeeds : ¬env.AllocFails cache) :
    ∃ mem fd, ipaNatiAllocTable cache numberOfEntries env =
      (.ok mem, { cache with ipaFd := fd }) := by
  obtain ⟨power, powerEq⟩ := getNearest2Power_isSome
    (if numberOfEntries * 4 / 5 = 0 then 1 else numberOfEntries * 4 / 5) (by split <;> omega)
  rw [AddTblEnv.AllocFails, not_or, not_and_or] at succeeds
  rcases Option.ne_none_iff_exists'.mp succeeds.2 with ⟨offset, offsetEq⟩
  have opened : ∃ fd, (if cache.ipaFd = 0 then env.openIpa else some cache.ipaFd) = some fd := by
    by_cases closed : cache.ipaFd = 0
    · rw [if_pos closed]
      exact Option.ne_none_iff_exists'.mp (succeeds.1.resolve_left (not_not_intro closed))
    · exact ⟨_, if_neg closed⟩
  rcases opened with ⟨fd, fdEq⟩
  unfold ipaNatiAllocTable
  simp only [powerEq, fdEq, offsetEq]
  exact ⟨_, fd, rfl⟩

end Alloc

section UpdateCache

variable (mem : AllocatedMem) (publicAddr : BitVec 32) {env : AddTblEnv}

theorem ipaNatiUpdateCache_valid (slot : IpaNatTblSlot) (env : AddTblEnv) :
    (ipaNatiUpdateCache slot mem publicAddr env).2.valid = true := by
  simp only [ipaNatiUpdateCache]
  split
  · rfl
  · split
    · rfl
    · split
      · rfl
      · split
        · rfl
        · rfl

theorem ipaNatiUpdateCache_zero_succeeds (metaOk : env.mallocMeta = true)
    (ruleIdOk : env.mallocRuleId = true) (opened : env.openNat.isSome = true)
    (mapped : env.mmap = true) :
    ∃ slot, ipaNatiUpdateCache .zero mem publicAddr env = (.ok (), slot) ∧ slot.Sized ∧
      slot.rulesMapped = true := by
  rcases Option.isSome_iff_exists.mp opened with ⟨natFd, natFdEq⟩
  simp only [ipaNatiUpdateCache, metaOk, ruleIdOk, natFdEq, mapped, Bool.not_true, and_false,
    if_false, if_true, reduceCtorEq]
  exact ⟨_, rfl, ⟨rfl, rfl⟩, rfl⟩

theorem ipaNatiUpdateCache_zero_fails
    (fails : ¬(env.mallocMeta = true ∧ env.mallocRuleId = true ∧ env.openNat.isSome = true ∧
      env.mmap = true)) :
    (∃ errno slot, ipaNatiUpdateCache .zero mem publicAddr env = (.error errno, slot)) ∨
      ∃ slot, ipaNatiUpdateCache .zero mem publicAddr env = (.ok (), slot) ∧
        slot.rulesMapped = false := by
  rcases env with ⟨openIpa, allocNatMem, mallocMeta, mallocRuleId, openNat, mmap, initNat⟩
  cases mallocMeta with
  | false => exact .inr ⟨_, rfl, rfl⟩
  | true =>
      cases mallocRuleId with
      | false => exact .inr ⟨_, rfl, rfl⟩
      | true =>
          cases openNat with
          | none => exact .inl ⟨_, _, rfl⟩
          | some fd =>
              cases mmap with
              | false => exact .inl ⟨_, _, rfl⟩
              | true => exact absurd ⟨rfl, rfl, rfl, rfl⟩ fails

end UpdateCache

section Apply

variable {cache : IpaNatCache} (publicAddr : BitVec 32) {numberOfEntries : ℕ} {env : AddTblEnv}

theorem withSlot_zero {α : Type} (cache : IpaNatCache)
    (access : IpaNatTblSlot → Except DriverFault (α × IpaNatTblSlot)) :
    cache.withSlot 0 access = (do
      let (result, slot) ← access (cache.ip4Tbl 0)
      return (result, { cache with ip4Tbl := fun _ => slot })) := by
  have updated : ∀ slot : IpaNatTblSlot,
      Function.update cache.ip4Tbl (0 : Fin ipaNatMaxIp4Tbls) slot = fun _ => slot := by
    intro slot
    funext index
    rw [Subsingleton.elim index 0, Function.update_self]
  rw [IpaNatCache.withSlot, dif_pos (by decide)]
  show (access (cache.ip4Tbl 0) >>= _) = _
  cases access (cache.ip4Tbl 0) with
  | error fault => rfl
  | ok updatedSlot =>
      exact congrArg (fun tbl => Except.ok (_, { cache with ip4Tbl := tbl })) (updated _)

section

variable (accepted : 0 < numberOfEntries)

include accepted

theorem apply_add_noTable_eq (cnt : cache.tableCnt = 0)
    (slot : cache.ip4Tbl 0 = .zero) (succeeds : ¬env.AllocFails cache) :
    ∃ mem fd, TblCall.apply cache (.add publicAddr numberOfEntries env) =
      match ipaNatiUpdateCache .zero mem publicAddr env with
      | (.error _, slot) => .ok (false, ⟨fun _ => slot, fd, 0⟩)
      | (.ok _, slot) =>
          if slot.rulesMapped then
            if env.initNat then .ok (true, ⟨fun _ => slot, fd, 1⟩)
            else .ok (false, ⟨fun _ => slot, fd, 0⟩)
          else .error .nullStore := by
  rcases ipaNatiAllocTable_succeeds numberOfEntries succeeds with ⟨mem, fd, allocated⟩
  refine ⟨mem, fd, ?_⟩
  simp only [TblCall.apply, ipaNatAddIpv4Tbl, ipaNatiAddIpv4Tbl, accepted.ne', if_false, allocated,
    cnt, withSlot_zero, slot]
  rcases ipaNatiUpdateCache .zero mem publicAddr env with ⟨updated, slot'⟩
  cases updated with
  | error errno => rfl
  | ok done =>
      cases mapped : slot'.rulesMapped with
      | false => simp [ipaNatiResetTbl, mapped, bind, Except.bind, pure, Except.pure]
      | true =>
          cases posted : env.initNat with
          | false | true =>
              simp [ipaNatiResetTbl, mapped, bind, Except.bind, pure, Except.pure, Except.isOk,
                Except.toBool]

theorem apply_add_allocFails (fails : env.AllocFails cache) :
    ∃ fd, TblCall.apply cache (.add publicAddr numberOfEntries env) =
      .ok (false, { cache with ipaFd := fd }) := by
  rcases ipaNatiAllocTable_fails numberOfEntries fails with ⟨errno, fd, failed⟩
  refine ⟨fd, ?_⟩
  simp only [TblCall.apply, ipaNatAddIpv4Tbl, ipaNatiAddIpv4Tbl, accepted.ne', if_false, failed]
  rfl

theorem apply_add_oneTable (cnt : cache.tableCnt = 1)
    (succeeds : ¬env.AllocFails cache) :
    TblCall.apply cache (.add publicAddr numberOfEntries env) = .error (.outOfBounds 1) := by
  rcases ipaNatiAllocTable_succeeds numberOfEntries succeeds with ⟨mem, fd, allocated⟩
  simp only [TblCall.apply, ipaNatAddIpv4Tbl, ipaNatiAddIpv4Tbl, accepted.ne', if_false, allocated,
    cnt, IpaNatCache.withSlot]
  rfl

theorem apply_add_noTable (cnt : cache.tableCnt = 0)
    (slot : cache.ip4Tbl 0 = .zero) (succeeds : ¬env.AllocFails cache)
    (rest : env.RestSucceeds) :
    ∃ next, TblCall.apply cache (.add publicAddr numberOfEntries env) = .ok (true, next) ∧
      next.tableCnt = 1 ∧ (next.ip4Tbl 0).valid = true ∧ (next.ip4Tbl 0).Sized := by
  rcases apply_add_noTable_eq publicAddr accepted cnt slot succeeds with
    ⟨mem, fd, applied⟩
  rcases rest with ⟨metaOk, ruleIdOk, opened, mapped, posted⟩
  rcases ipaNatiUpdateCache_zero_succeeds mem publicAddr metaOk ruleIdOk
    opened mapped with ⟨slot', updated, sized, mapped'⟩
  have valid := ipaNatiUpdateCache_valid mem publicAddr .zero env
  rw [updated] at applied valid
  refine ⟨⟨fun _ => slot', fd, 1⟩, ?_, rfl, valid, sized⟩
  simp only [applied, mapped', posted, if_true]

theorem apply_add_allocated (cnt : cache.tableCnt = 0) (slot : cache.ip4Tbl 0 = .zero)
    (succeeds : ¬env.AllocFails cache) (rest : env.RestSucceeds) :
    ∃ mem fd natFd, ipaNatiAllocTable cache numberOfEntries env =
        (.ok mem, { cache with ipaFd := fd }) ∧
      TblCall.apply cache (.add publicAddr numberOfEntries env) =
        .ok (true, ⟨fun _ => ⟨true, publicAddr, natFd, mem.size, mem.offset, mem.tableEntries,
          mem.expnTableEntries, true, some mem.expnTableEntries,
          some (mem.tableEntries + mem.expnTableEntries)⟩, fd, 1⟩) := by
  rcases ipaNatiAllocTable_succeeds numberOfEntries succeeds with ⟨mem, fd, allocated⟩
  rcases rest with ⟨metaOk, ruleIdOk, opened, mapped, posted⟩
  rcases Option.isSome_iff_exists.mp opened with ⟨natFd, natFdEq⟩
  refine ⟨mem, fd, natFd, allocated, ?_⟩
  simp only [TblCall.apply, ipaNatAddIpv4Tbl, ipaNatiAddIpv4Tbl, accepted.ne', if_false, allocated,
    cnt, withSlot_zero, slot, ipaNatiUpdateCache, metaOk, ruleIdOk, natFdEq, mapped, posted]
  rfl

theorem apply_add_noTable_restFails (cnt : cache.tableCnt = 0)
    (slot : cache.ip4Tbl 0 = .zero) (succeeds : ¬env.AllocFails cache)
    (rest : ¬env.RestSucceeds) :
    TblCall.apply cache (.add publicAddr numberOfEntries env) = .error .nullStore ∨
      ∃ next, TblCall.apply cache (.add publicAddr numberOfEntries env) = .ok (false, next) ∧
        next.tableCnt = 0 ∧ (next.ip4Tbl 0).valid = true := by
  rcases apply_add_noTable_eq publicAddr accepted cnt slot succeeds with
    ⟨mem, fd, applied⟩
  have valid := ipaNatiUpdateCache_valid mem publicAddr .zero env
  by_cases upToMap : env.mallocMeta = true ∧ env.mallocRuleId = true ∧
      env.openNat.isSome = true ∧ env.mmap = true
  · rcases upToMap with ⟨metaOk, ruleIdOk, opened, mapped⟩
    have notPosted : env.initNat = false := by
      cases posted : env.initNat with
      | false => rfl
      | true => exact absurd ⟨metaOk, ruleIdOk, opened, mapped, posted⟩ rest
    rcases ipaNatiUpdateCache_zero_succeeds mem publicAddr metaOk ruleIdOk opened mapped with
      ⟨slot', updated, _, mapped'⟩
    rw [updated] at applied valid
    right
    refine ⟨⟨fun _ => slot', fd, 0⟩, ?_, rfl, valid⟩
    simp only [applied, mapped', notPosted, if_true, if_false, reduceCtorEq]
  · rcases ipaNatiUpdateCache_zero_fails mem publicAddr upToMap with
      ⟨errno, slot', updated⟩ | ⟨slot', updated, unmapped⟩
    · rw [updated] at applied valid
      right
      exact ⟨⟨fun _ => slot', fd, 0⟩, applied, rfl, valid⟩
    · rw [updated] at applied
      left
      simp only [applied, unmapped, if_false, reduceCtorEq]

end

theorem apply_del_cases (cache : IpaNatCache) (tblHdl : ℕ) (env : DelTblEnv) :
    TblCall.apply cache (.del tblHdl env) = .ok (false, cache) ∨
      (cache.ip4Tbl 0).valid = true ∧ TblCall.apply cache (.del tblHdl env) =
        .ok (true, ⟨fun _ => .zero, cache.ipaFd, (cache.tableCnt + 2 ^ 8 - 1) % 2 ^ 8⟩) := by
  simp only [TblCall.apply, ipaNatDelIpv4Tbl]
  split
  · exact .inl rfl
  · rename_i inRange
    have index : (tblHdl + 2 ^ 8 - 1) % 2 ^ 8 = 0 := by
      simp only [not_or, invalidNatEntry, ipaNatMaxIp4Tbls] at inRange
      omega
    have same : (⟨fun _ => cache.ip4Tbl 0, cache.ipaFd, cache.tableCnt⟩ : IpaNatCache) = cache := by
      rcases cache with ⟨ip4Tbl, ipaFd, tableCnt⟩
      simp only [IpaNatCache.mk.injEq, and_true]
      funext slot
      rw [Subsingleton.elim slot 0]
    simp only [ipaNatiDelIpv4Table, index, withSlot_zero]
    by_cases refused : (!(cache.ip4Tbl 0).valid) = true ∨ (!env.close) = true ∨ (!env.delNat) = true
    · left
      simp only [refused, if_true, bind, Except.bind, pure, Except.pure, same, Bool.not_false]
      rfl
    · right
      simp only [refused, if_false, bind, Except.bind, pure, Except.pure]
      simp only [not_or, Bool.not_eq_true, Bool.not_eq_false'] at refused
      exact ⟨refused.1, rfl⟩

end Apply

section Runs

variable {cache next : IpaNatCache} {call : TblCall}

theorem CacheOk.count (cacheOk : CacheOk cache) : cache.tableCnt = cache.validCnt := by
  rw [validCnt_eq]
  cases cacheOk with
  | noTable cnt slot => simp [cnt, slot, IpaNatTblSlot.zero]
  | oneTable cnt valid _ => simp [cnt, valid]

theorem CacheOk.sized (cacheOk : CacheOk cache) (index : Fin ipaNatMaxIp4Tbls)
    (isValid : (cache.ip4Tbl index).valid = true) : (cache.ip4Tbl index).Sized := by
  rw [Subsingleton.elim index 0] at isValid ⊢
  cases cacheOk with
  | noTable _ slot =>
      rw [slot] at isValid
      cases isValid
  | oneTable _ _ sized => exact sized

theorem CacheOk.allowsAdd (cacheOk : CacheOk cache) : cache.AllowsAdd := by
  intro free publicAddr numberOfEntries env accepted succeeds rest
  cases cacheOk with
  | noTable cnt slot =>
      rcases apply_add_noTable publicAddr accepted.1 cnt slot succeeds rest with
        ⟨next, applied, nextCnt, valid, sized⟩
      exact ⟨next, applied, (CacheOk.oneTable nextCnt valid sized).count, 0, valid, sized⟩
  | oneTable cnt _ _ =>
      rw [cnt] at free
      exact absurd free (lt_irrefl _)

theorem CacheOk.callKept (nextOk : CacheOk next) (succeeded : Bool) :
    CallKept call succeeded next where
  count := nextOk.count
  sized := nextOk.sized
  retry := fun _ _ _ _ _ => nextOk.allowsAdd

theorem CacheOk.apply (cacheOk : CacheOk cache) (accepted : call.Accepted)
    (condition : CallCondition cache call) :
    ∃ succeeded next, call.apply cache = .ok (succeeded, next) ∧ CacheOk next := by
  cases call with
  | add publicAddr numberOfEntries env =>
      by_cases fails : env.AllocFails cache
      · rcases apply_add_allocFails publicAddr accepted.1 fails with ⟨fd, applied⟩
        refine ⟨false, _, applied, ?_⟩
        cases cacheOk with
        | noTable cnt slot => exact .noTable cnt slot
        | oneTable cnt valid sized => exact .oneTable cnt valid sized
      · rcases condition.resolve_left fails with ⟨cnt, rest⟩
        cases cacheOk with
        | noTable _ slot =>
            rcases apply_add_noTable publicAddr accepted.1 cnt slot fails rest with
              ⟨next, applied, nextCnt, valid, sized⟩
            exact ⟨true, next, applied, .oneTable nextCnt valid sized⟩
        | oneTable cnt' _ _ =>
            rw [cnt] at cnt'
            cases cnt'
  | del tblHdl env =>
      rcases apply_del_cases cache tblHdl env with applied | ⟨valid, applied⟩
      · exact ⟨false, cache, applied, cacheOk⟩
      · refine ⟨true, _, applied, ?_⟩
        cases cacheOk with
        | noTable _ slot =>
            rw [slot] at valid
            cases valid
        | oneTable cnt _ _ =>
            apply CacheOk.noTable
            · simp only [cnt]
              rfl
            · rfl

theorem CacheOk.step (cacheOk : CacheOk cache)
    (stepped : Run.Guarded CallCondition TblStep cache call next) : CacheOk next := by
  rcases stepped with ⟨condition, accepted, succeeded, applied⟩
  rcases cacheOk.apply accepted condition with ⟨succeeded', next', applied', nextOk⟩
  rw [applied] at applied'
  cases applied'
  exact nextOk

theorem reachable_cacheOk
    (reached : Run.Reachable (· = IpaNatCache.initial) (Run.Guarded CallCondition TblStep) cache) :
    CacheOk cache := by
  apply reached.invariant
  · rintro _ rfl
    exact .noTable rfl rfl
  · intro cache call next cacheOk stepped
    exact cacheOk.step stepped

theorem CacheOk.not_callOk (cacheOk : CacheOk cache) (accepted : call.Accepted)
    (condition : ¬CallCondition cache call) : ¬CallOk cache call := by
  rintro ⟨succeeded, next, applied, kept⟩
  cases call with
  | add publicAddr numberOfEntries env =>
      rw [CallCondition, not_or, not_and] at condition
      rcases condition with ⟨succeeds, restFails⟩
      cases cacheOk with
      | noTable cnt slot =>
          rcases apply_add_noTable_restFails publicAddr accepted.1 cnt slot succeeds
            (restFails cnt) with faulted | ⟨next', applied', cnt', valid⟩
          · rw [faulted] at applied
            cases applied
          · rw [applied'] at applied
            cases applied
            have count := kept.count
            rw [validCnt_eq, cnt', if_pos valid] at count
            cases count
      | oneTable cnt _ _ =>
          rw [apply_add_oneTable publicAddr accepted.1 cnt succeeds] at applied
          cases applied
  | del tblHdl env => exact condition trivial

/-- In every run of well-behaved calls the count and the sizes are right, and exactly the
well-behaved calls are handled within bounds and leave them right. -/
theorem reachable_callOk
    (reached : Run.Reachable (· = IpaNatCache.initial) (Run.Guarded CallCondition TblStep) cache) :
    cache.tableCnt = cache.validCnt ∧
      (∀ index, (cache.ip4Tbl index).valid → (cache.ip4Tbl index).Sized) ∧
        ∀ call : TblCall, call.Accepted → (CallOk cache call ↔ CallCondition cache call) := by
  have cacheOk := reachable_cacheOk reached
  refine ⟨cacheOk.count, cacheOk.sized, ?_⟩
  intro call accepted
  constructor
  · intro callOk
    by_contra notCondition
    exact cacheOk.not_callOk accepted notCondition callOk
  · intro condition
    rcases cacheOk.apply accepted condition with ⟨succeeded, next, applied, nextOk⟩
    exact ⟨succeeded, next, applied, nextOk.callKept succeeded⟩

def AddTblEnv.allSucceed : AddTblEnv := ⟨some 3, some 0, true, true, some 4, true, true⟩

theorem reachable_callOk_refused :
    ∃ cache : IpaNatCache, cache.ipaFd = 3 ∧ cache.tableCnt = cache.validCnt ∧
      (∀ index, (cache.ip4Tbl index).valid → (cache.ip4Tbl index).Sized) ∧
        ∀ call : TblCall, call.Accepted → (CallOk cache call ↔ CallCondition cache call) := by
  have created : Run.Reachable (· = .initial) (Run.Guarded CallCondition TblStep) _ :=
    .next (.add 7 100 .allSucceed) (.start rfl)
      ⟨.inr ⟨rfl, by decide⟩, ⟨by decide, by decide⟩, true, rfl⟩
  have refused : Run.Reachable (· = .initial) (Run.Guarded CallCondition TblStep) _ :=
    .next (.add 7 100 { AddTblEnv.allSucceed with allocNatMem := none }) created
      ⟨.inl (.inr rfl), ⟨by decide, by decide⟩, false, rfl⟩
  have outOfRange : Run.Reachable (· = .initial) (Run.Guarded CallCondition TblStep) _ :=
    .next (.del 2 ⟨true, true⟩) refused ⟨trivial, trivial, false, rfl⟩
  exact ⟨_, rfl, reachable_callOk outOfRange⟩

/-- Opening the nat device fails: a valid slot stays behind a count of zero. A second table
after a first one: the slot behind the last is accessed. -/
theorem initial_add_not_callOk :
    TblCall.Accepted (.add 7 100 { AddTblEnv.allSucceed with openNat := none }) ∧
      ¬CallOk .initial (.add 7 100 { AddTblEnv.allSucceed with openNat := none }) ∧
        ∃ cache, TblCall.apply .initial (.add 7 100 .allSucceed) = .ok (true, cache) ∧
          TblCall.apply cache (.add 7 100 .allSucceed) = .error (.outOfBounds 1) := by
  refine ⟨⟨by decide, by decide⟩, ?_, _, rfl, rfl⟩
  rintro ⟨succeeded, next, applied, kept⟩
  cases applied
  have count := kept.count
  rw [validCnt_eq] at count
  exact absurd count (by decide)

end Runs

end HtcPme.IpaNat
