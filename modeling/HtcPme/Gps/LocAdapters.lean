import HtcPme.Gps.LocApiRun

/-!
# The adapters of LocApiBase

The array that keeps the adapters, through which a report goes until the first empty slot.
-/

namespace HtcPme.Gps

open List

open Function (update update_of_ne update_apply)

abbrev LocAdapters (α : Type*) := ℕ → Option α

namespace LocAdapters

/-- What `addAdapter` and `removeAdapter` do besides. -/
inductive Action where
  | openMsg
  | close
deriving DecidableEq

inductive Call (α : Type*) where
  | addAdapter (adapter : α)
  | removeAdapter (adapter : α)
deriving DecidableEq

variable {α : Type*}

/-- `TO_ALL_LOCADAPTERS` from a slot on, with the number of slots that are left: the adapters that
are called. -/
def toAllFrom (mLocAdapters : LocAdapters α) : ℕ → ℕ → List α
  | 0, _ => []
  | room + 1, i =>
      match mLocAdapters i with
      | none => []
      | some adapter => adapter :: toAllFrom mLocAdapters room (i + 1)

/-- `TO_1ST_HANDLING_LOCADAPTERS` from a slot on. -/
def toFirstHandlingFrom (mLocAdapters : LocAdapters α) (handles : α → Bool) : ℕ → ℕ → List α
  | 0, _ => []
  | room + 1, i =>
      match mLocAdapters i with
      | none => []
      | some adapter =>
          adapter ::
            if handles adapter then [] else toFirstHandlingFrom mLocAdapters handles room (i + 1)

def toAll (mLocAdapters : LocAdapters α) : List α := toAllFrom mLocAdapters maxAdapters 0

def toFirstHandling (mLocAdapters : LocAdapters α) (handles : α → Bool) : List α :=
  toFirstHandlingFrom mLocAdapters handles maxAdapters 0

/-- The loop in `removeAdapter` to the first slot that is empty, or out of the array. -/
def firstFree (mLocAdapters : LocAdapters α) : ℕ → ℕ → ℕ
  | 0, i => i
  | room + 1, i => if mLocAdapters i = none then i else firstFree mLocAdapters room (i + 1)

section DecidableEq

variable [DecidableEq α]

def addLoop (adapter : α) (mLocAdapters : LocAdapters α) : ℕ → ℕ → LocAdapters α × List Action
  | 0, _ => (mLocAdapters, [])
  | room + 1, i =>
      if mLocAdapters i = some adapter then (mLocAdapters, [])
      else if mLocAdapters i = none then
        (update mLocAdapters i (some adapter), [.openMsg])
      else addLoop adapter mLocAdapters room (i + 1)

def removeLoop (adapter : α) : ℕ → ℕ → LocAdapters α → LocAdapters α × List Action
  | 0, _, mLocAdapters => (mLocAdapters, [])
  | fuel + 1, i, mLocAdapters =>
      if maxAdapters ≤ i ∨ mLocAdapters i = none then (mLocAdapters, [])
      else if mLocAdapters i = some adapter then
        let cleared := update mLocAdapters i none
        let last := firstFree cleared (maxAdapters - (i + 1)) (i + 1) - 1
        let moved := update cleared i (cleared last)
        let (left, actions) := removeLoop adapter fuel (last + 1) (update moved last none)
        (left, (if last = 0 then .close else .openMsg) :: actions)
      else removeLoop adapter fuel (i + 1) mLocAdapters

variable (mLocAdapters : LocAdapters α)

def addAdapter (adapter : α) : LocAdapters α × List Action :=
  addLoop adapter mLocAdapters maxAdapters 0

def removeAdapter (adapter : α) : LocAdapters α × List Action :=
  removeLoop adapter (maxAdapters + 1) 0 mLocAdapters

def call : Call α → LocAdapters α × List Action
  | .addAdapter adapter => mLocAdapters.addAdapter adapter
  | .removeAdapter adapter => mLocAdapters.removeAdapter adapter

def Step (mLocAdapters : LocAdapters α) (event : Call α) (next : LocAdapters α) : Prop :=
  next = (mLocAdapters.call event).1

end DecidableEq

def IsInit (mLocAdapters : LocAdapters α) : Prop := mLocAdapters = fun _ => none

structure Stores (mLocAdapters : LocAdapters α) (adapters : List α) : Prop where
  slots : mLocAdapters = fun i => adapters[i]?
  room : adapters.length ≤ maxAdapters
  nodup : adapters.Nodup

variable {mLocAdapters : LocAdapters α} {adapters : List α} {adapter : α}

section

variable (stores : mLocAdapters.Stores adapters)

include stores

theorem Stores.toAllFrom (room i : ℕ)
    (isEnd : i + room = maxAdapters) : mLocAdapters.toAllFrom room i = adapters.drop i := by
  have short := stores.room
  induction room generalizing i with
  | zero =>
      rw [LocAdapters.toAllFrom, drop_eq_nil_of_le]
      omega
  | succ room ih =>
      rw [LocAdapters.toAllFrom, ih (i + 1) (by omega)]
      simp only [stores.slots]
      by_cases within : i < adapters.length
      · simp [within]
      · simp [within, drop_eq_nil_of_le (Nat.le_of_not_lt within)]

theorem Stores.toFirstHandlingFrom (handles : α → Bool)
    (room i : ℕ) (isEnd : i + room = maxAdapters) :
    mLocAdapters.toFirstHandlingFrom handles room i =
      (adapters.drop i).take ((adapters.drop i).findIdx handles + 1) := by
  have short := stores.room
  induction room generalizing i with
  | zero =>
      rw [LocAdapters.toFirstHandlingFrom, drop_eq_nil_of_le]
      · rfl
      · omega
  | succ room ih =>
      rw [LocAdapters.toFirstHandlingFrom, ih (i + 1) (by omega)]
      simp only [stores.slots]
      by_cases within : i < adapters.length
      · rw [drop_eq_getElem_cons within, findIdx_cons]
        cases handled : handles adapters[i] <;>
          simp only [getElem?_eq_getElem within, handled, if_true, if_false, cond_true,
            cond_false, take_succ_cons, take_zero, Bool.false_eq_true]
      · simp [within, drop_eq_nil_of_le (Nat.le_of_not_lt within)]

theorem Stores.addLoop [DecidableEq α] (room i : ℕ)
    (isEnd : i + room = maxAdapters) (within : i ≤ adapters.length) :
    mLocAdapters.addLoop adapter room i =
      if adapter ∈ adapters.drop i ∨ adapters.length = maxAdapters then (mLocAdapters, [])
      else (fun i => (adapters ++ [adapter])[i]?, [.openMsg]) := by
  have short := stores.room
  induction room generalizing i with
  | zero =>
      have full : adapters.length = maxAdapters := by omega
      simp [LocAdapters.addLoop, full]
  | succ room ih =>
      simp only [LocAdapters.addLoop, stores.slots] at ih ⊢
      rcases Nat.lt_or_eq_of_le within with isUsed | rfl
      · rw [drop_eq_getElem_cons isUsed]
        simp only [getElem?_eq_getElem isUsed, Option.some.injEq, reduceCtorEq, if_false,
          mem_cons]
        by_cases same : adapters[i] = adapter
        · simp [same]
        · rw [if_neg same, ih (i + 1) (by omega) isUsed]
          simp [Ne.symm same]
      · have notFull : adapters.length ≠ maxAdapters := by omega
        simp only [getElem?_eq_none (Nat.le_refl _), reduceCtorEq, if_false, if_true,
          drop_length, not_mem_nil, notFull, or_self, Prod.mk.injEq, and_true]
        funext k
        rcases Nat.lt_trichotomy k adapters.length with isLess | rfl | isMore
        · simp [update_of_ne (Nat.ne_of_lt isLess), getElem?_append_left isLess]
        · simp
        · rw [update_of_ne (Nat.ne_of_gt isMore), getElem?_eq_none (by omega),
            getElem?_eq_none]
          simp
          omega

end

theorem firstFree_eq {free : ℕ} (room i : ℕ) (isEnd : i + room = maxAdapters) (after : i ≤ free)
    (short : free ≤ maxAdapters) (used : ∀ k, i ≤ k → k < free → mLocAdapters k ≠ none)
    (isFree : free < maxAdapters → mLocAdapters free = none) :
    mLocAdapters.firstFree room i = free := by
  induction room generalizing i with
  | zero =>
      rw [firstFree]
      omega
  | succ room ih =>
      rw [firstFree]
      rcases Nat.lt_or_eq_of_le after with isLess | rfl
      · rw [if_neg (used i (Nat.le_refl i) isLess)]
        apply ih
        · omega
        · exact isLess
        · exact fun k above below => used k (Nat.le_of_succ_le above) below
      · rw [if_pos]
        apply isFree
        omega

theorem removed_eq {i : ℕ} (isUsed : i < adapters.length) :
    update (update (update (fun k => adapters[k]?) i none) i
        (update (fun k => adapters[k]?) i none (adapters.length - 1)))
        (adapters.length - 1) none =
      fun k => (adapters.set i (adapters[adapters.length - 1])).dropLast[k]? := by
  funext k
  rw [getElem?_dropLast, length_set, getElem?_set]
  simp only [update_apply]
  by_cases isLast : k = adapters.length - 1
  · simp [isLast]
  · by_cases here : k = i
    · subst here
      have differs : adapters.length - 1 ≠ k := Ne.symm isLast
      have before : k < adapters.length - 1 := by omega
      simp [isLast, differs, before, isUsed]
    · by_cases before : k < adapters.length - 1
      · simp [isLast, here, Ne.symm here, before]
      · have beyond : adapters.length ≤ k := by omega
        simp [isLast, here, before, beyond]

theorem removeLoop_of_none [DecidableEq α] {i : ℕ} (fuel : ℕ) (isFree : mLocAdapters i = none) :
    removeLoop adapter fuel i mLocAdapters = (mLocAdapters, []) := by
  cases fuel with
  | zero => rfl
  | succ fuel => simp [removeLoop, isFree]

theorem Stores.removeHere [DecidableEq α] (stores : mLocAdapters.Stores adapters) (fuel i : ℕ)
    (isUsed : i < adapters.length) (isHere : adapters[i] = adapter) :
    ∃ left : List α, left.Perm (adapters.erase adapter) ∧
      removeLoop adapter (fuel + 1) i mLocAdapters =
        (fun i => left[i]?, [if left = [] then .close else .openMsg]) := by
  rcases stores with ⟨rfl, short, nodup⟩
  have mem : adapter ∈ adapters := isHere ▸ getElem_mem isUsed
  have isLast : adapters.getLast? = some adapters[adapters.length - 1] := by
    simp [getLast?_eq_getElem?]
  have index : adapters.idxOf adapter = i := by
    rw [← isHere]
    exact nodup.idxOf_getElem i isUsed
  have isFree : firstFree (update (fun k => adapters[k]?) i none) (maxAdapters - (i + 1))
      (i + 1) = adapters.length := by
    apply firstFree_eq
    · omega
    · exact isUsed
    · exact short
    · intro k above below
      have differs : k ≠ i := by omega
      simp [update_of_ne differs, below]
    · intro _
      have differs : adapters.length ≠ i := by omega
      simp [update_of_ne differs]
  have perm := LocApi.removed_perm nodup mem isLast
  rw [index] at perm
  refine ⟨_, perm, ?_⟩
  have within : ¬maxAdapters ≤ i := by omega
  have ended : adapters.length - 1 + 1 = adapters.length := by omega
  have isEmpty : (adapters.set i adapters[adapters.length - 1]).dropLast = [] ↔
      adapters.length - 1 = 0 := by
    rw [← length_eq_zero_iff]
    simp
  simp only [removeLoop, within, getElem?_eq_getElem isUsed, isHere, reduceCtorEq,
    or_self, if_false, if_true, isFree, ended, removed_eq isUsed, isEmpty]
  rw [removeLoop_of_none]
  simp

theorem Stores.removeLoop [DecidableEq α] (stores : mLocAdapters.Stores adapters) (adapter : α)
    (fuel i : ℕ) (enough : maxAdapters < i + fuel)
    (notBefore : adapter ∉ adapters.take i) :
    ∃ left : List α, left.Perm (adapters.erase adapter) ∧
      removeLoop adapter fuel i mLocAdapters = (fun i => left[i]?,
        if adapter ∈ adapters then [if left = [] then .close else .openMsg] else []) := by
  have short := stores.room
  induction fuel generalizing i with
  | zero =>
      rw [take_of_length_le (by omega)] at notBefore
      refine ⟨adapters, ?_, ?_⟩
      · rw [erase_of_not_mem notBefore]
      · rw [LocAdapters.removeLoop, if_neg notBefore, stores.slots]
  | succ fuel ih =>
      rcases Nat.lt_or_ge i adapters.length with isUsed | isEnd
      · by_cases isHere : adapters[i] = adapter
        · have mem : adapter ∈ adapters := isHere ▸ getElem_mem isUsed
          simp only [if_pos mem]
          exact stores.removeHere fuel i isUsed isHere
        · have notYet : adapter ∉ adapters.take (i + 1) := by
            rw [take_succ_eq_append_getElem isUsed, mem_append, mem_singleton]
            rintro (before | here)
            · exact notBefore before
            · exact isHere here.symm
          have within : ¬maxAdapters ≤ i := by omega
          have isSome : mLocAdapters i = some adapters[i] := by simp [stores.slots, isUsed]
          simp only [LocAdapters.removeLoop, within, isSome, reduceCtorEq, or_self, if_false,
            Option.some.injEq, isHere]
          exact ih (i + 1) (by omega) notYet
      · rw [take_of_length_le isEnd] at notBefore
        refine ⟨adapters, ?_, ?_⟩
        · rw [erase_of_not_mem notBefore]
        · rw [removeLoop_of_none, if_neg notBefore, stores.slots]
          simp [stores.slots, isEnd]

/-- What a sequence of calls leaves in the array, what it gives the next call, and whom a report
reaches: all adapters, or those up to the first that handles it. -/
structure Reaches [DecidableEq α] (mLocAdapters : LocAdapters α) (adapters : List α) : Prop where
  stores : mLocAdapters.Stores adapters
  removes : ∀ adapter, ∃ left : List α, left.Perm (adapters.erase adapter) ∧
    (mLocAdapters.removeAdapter adapter).1.Stores left ∧
      (mLocAdapters.removeAdapter adapter).2 =
        if adapter ∈ adapters then [if left = [] then .close else .openMsg] else []
  toAll : mLocAdapters.toAll = adapters
  toFirstHandling : ∀ handles, mLocAdapters.toFirstHandling handles =
    adapters.take (adapters.findIdx handles + 1)

theorem Stores.addAdapter [DecidableEq α] (stores : mLocAdapters.Stores adapters) (adapter : α) :
    ∃ added, (mLocAdapters.addAdapter adapter).1.Stores added := by
  have short := stores.room
  rw [LocAdapters.addAdapter, stores.addLoop maxAdapters 0 rfl (Nat.zero_le _), drop_zero]
  split
  · exact ⟨adapters, stores⟩
  · rename_i isNew
    rw [not_or] at isNew
    refine ⟨adapters ++ [adapter], rfl, ?_, ?_⟩
    · rw [length_append, length_singleton]
      omega
    · refine nodup_append.mpr ⟨stores.nodup, nodup_singleton adapter, ?_⟩
      intro other isOther added isAdded
      rw [mem_singleton.mp isAdded]
      rintro rfl
      exact isNew.1 isOther

theorem Stores.removeAdapter [DecidableEq α] (stores : mLocAdapters.Stores adapters) (adapter : α) :
    ∃ left : List α, left.Perm (adapters.erase adapter) ∧
      (mLocAdapters.removeAdapter adapter).1.Stores left ∧
        (mLocAdapters.removeAdapter adapter).2 =
          if adapter ∈ adapters then [if left = [] then .close else .openMsg] else [] := by
  rcases stores.removeLoop adapter (maxAdapters + 1) 0 (by omega) (by simp) with
    ⟨left, perm, removed⟩
  have fewer : left.length ≤ adapters.length := by
    rw [perm.length_eq]
    exact length_erase_le
  rw [LocAdapters.removeAdapter, removed]
  refine ⟨left, perm, ⟨rfl, ?_, ?_⟩, rfl⟩
  · exact fewer.trans stores.room
  · exact perm.nodup_iff.mpr (stores.nodup.erase adapter)

end LocAdapters

end HtcPme.Gps
