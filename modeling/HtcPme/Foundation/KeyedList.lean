import Mathlib.Data.List.Nodup
import Mathlib.Tactic.Common

/-!
# Lists with keys

Lists of which no two entries have the same key. The entry of a key is changed, taken out, or put in
the place of another one.
-/

namespace KeyedList

open List

variable {α κ : Type*} [DecidableEq κ] (key : α → κ)

def touch (wanted : κ) (change : α → α) (list : List α) : List α :=
  list.map fun entry => if key entry = wanted then change entry else entry

def remove (wanted : κ) (list : List α) : List α :=
  list.filter fun entry => key entry ≠ wanted

variable {key} {wanted : κ} {change : α → α} {list : List α}

theorem touch_id : touch key wanted id list = list := by
  simp [touch]

theorem remove_of_notMem (notMem : wanted ∉ list.map key) : remove key wanted list = list := by
  apply filter_eq_self.mpr
  intro entry isIn
  apply decide_eq_true
  rintro rfl
  exact notMem (mem_map_of_mem isIn)

theorem keys_touch (keeps : ∀ entry, key entry = wanted → key (change entry) = wanted) :
    (touch key wanted change list).map key = list.map key := by
  rw [touch, map_map]
  apply map_congr_left
  intro entry _
  by_cases same : key entry = wanted
  · simp [same, keeps entry same]
  · simp [same]

theorem remove_touch (keeps : ∀ entry, key entry = wanted → key (change entry) = wanted) :
    remove key wanted (touch key wanted change list) = remove key wanted list := by
  unfold remove touch
  induction list with
  | nil => rfl
  | cons first later ih =>
      rw [map_cons]
      by_cases same : key first = wanted
      · rw [if_pos same, filter_cons_of_neg (by simp [keeps first same]),
          filter_cons_of_neg (by simp [same])]
        exact ih
      · rw [if_neg same, filter_cons_of_pos (by simp [same]),
          filter_cons_of_pos (by simp [same]), ih]

theorem remove_remove : remove key wanted (remove key wanted list) = remove key wanted list := by
  simp [remove]

theorem mem_touch {entry : α} : entry ∈ touch key wanted change list ↔
    ∃ before ∈ list, (if key before = wanted then change before else before) = entry :=
  mem_map

theorem mem_remove {entry : α} : entry ∈ remove key wanted list ↔
    entry ∈ list ∧ key entry ≠ wanted := by
  simp [remove]

section Distinct

variable (distinct : (list.map key).Nodup)
include distinct

theorem distinct_remove : ((remove key wanted list).map key).Nodup :=
  distinct.sublist (filter_sublist.map key)

theorem set_eq_touch {idx : ℕ} (within : idx < list.length) (isWanted : key list[idx] = wanted) :
    list.set idx (change list[idx]) = touch key wanted change list := by
  apply ext_getElem
  · simp [touch]
  · intro pos before after
    have inList : pos < list.length := by simpa using before
    simp only [touch, getElem_set, getElem_map]
    by_cases same : idx = pos
    · subst same
      rw [if_pos rfl, if_pos isWanted]
    · rw [if_neg same, if_neg]
      intro isAlso
      have entries := inj_on_of_nodup_map distinct (getElem_mem within)
        (getElem_mem inList) (isWanted.trans isAlso.symm)
      exact same ((List.Nodup.getElem_inj_iff (List.Nodup.of_map key distinct)).mp entries)

theorem eraseIdx_eq_remove {idx : ℕ} (within : idx < list.length)
    (isWanted : key list[idx] = wanted) : list.eraseIdx idx = remove key wanted list := by
  induction list generalizing idx with
  | nil => simp at within
  | cons first later ih =>
      rw [map_cons, nodup_cons] at distinct
      rcases distinct with ⟨isNew, distinctLater⟩
      cases idx with
      | zero =>
          have isFirst : key first = wanted := isWanted
          have others := remove_of_notMem (isFirst ▸ isNew)
          rw [remove, filter_cons_of_neg (by simp [isFirst]), eraseIdx_cons_zero]
          exact others.symm
      | succ idx =>
          have inLater : idx < later.length := by simpa using within
          have isLater : key later[idx] = wanted := by simpa using isWanted
          have differs : key first ≠ wanted := by
            intro same
            exact isNew (same.trans isLater.symm ▸ mem_map_of_mem (getElem_mem inLater))
          rw [remove, filter_cons_of_pos (by simp [differs]), eraseIdx_cons_succ]
          exact congrArg _ (ih distinctLater inLater isLater)

end Distinct

end KeyedList
