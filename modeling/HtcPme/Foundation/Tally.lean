import HtcPme.Foundation.Adjacency

/-!
# Tallies

A list of entries that carry a key and a number each is a tally: it says how often every key has
been counted. A key is counted up and down in its entry, which is entered with the first count and
erased with the last.
-/

namespace Tally

open Adjacency List

section Number

variable {ε κ : Type*} [DecidableEq κ] (key : ε → κ) (number : ε → ℤ)

def numberOf (entries : List ε) (wanted : κ) : ℤ :=
  match entries.find? (key · = wanted) with
  | some entry => number entry
  | none => 0

structure Sound (entries : List ε) : Prop where
  nodup : (entries.map key).Nodup
  positive : ∀ entry ∈ entries, 0 < number entry

variable {key number} {entries : List ε} {entry : ε} {wanted other : κ} {change : ε → ε}

@[simp] theorem numberOf_nil : numberOf key number [] wanted = 0 := rfl

theorem numberOf_cons : numberOf key number (entry :: entries) wanted =
    if key entry = wanted then number entry else numberOf key number entries wanted := by
  by_cases same : key entry = wanted
  · simp [numberOf, same]
  · simp [numberOf, same]

theorem numberOf_eq_zero (absent : ∀ entry ∈ entries, key entry ≠ wanted) :
    numberOf key number entries wanted = 0 := by
  have notFound : entries.find? (key · = wanted) = none := by simpa using absent
  simp [numberOf, notFound]

theorem numberOf_of_mem (nodup : (entries.map key).Nodup) (mem : entry ∈ entries) :
    numberOf key number entries (key entry) = number entry := by
  induction entries with
  | nil => cases mem
  | cons head rest ih =>
      rw [map_cons, nodup_cons] at nodup
      rw [numberOf_cons]
      rcases mem_cons.mp mem with rfl | later
      · exact if_pos rfl
      · have differs : key head ≠ key entry :=
          fun same => nodup.1 (same ▸ mem_map_of_mem later)
        rw [if_neg differs]
        exact ih nodup.2 later

omit [DecidableEq κ] in
theorem Sound.nil : Sound key number ([] : List ε) := ⟨nodup_nil, by simp⟩

theorem Sound.nonneg (sound : Sound key number entries) :
    0 ≤ numberOf key number entries wanted := by
  by_cases present : ∃ entry ∈ entries, key entry = wanted
  · rcases present with ⟨entry, mem, rfl⟩
    rw [numberOf_of_mem sound.nodup mem]
    exact (sound.positive entry mem).le
  · push Not at present
    exact (numberOf_eq_zero present).ge

theorem Sound.pos_iff (sound : Sound key number entries) :
    0 < numberOf key number entries wanted ↔ ∃ entry ∈ entries, key entry = wanted := by
  constructor
  · intro isPos
    by_contra absent
    push Not at absent
    rw [numberOf_eq_zero absent] at isPos
    exact isPos.false
  · rintro ⟨entry, mem, rfl⟩
    rw [numberOf_of_mem sound.nodup mem]
    exact sound.positive entry mem

theorem numberOf_push (absent : ∀ old ∈ entries, key old ≠ key entry) :
    numberOf key number (entries ++ [entry]) other =
      numberOf key number entries other + if other = key entry then number entry else 0 := by
  induction entries with
  | nil => simp [numberOf_cons, eq_comm]
  | cons head rest ih =>
      rw [forall_mem_cons] at absent
      rw [cons_append, numberOf_cons, numberOf_cons, ih absent.2]
      by_cases same : key head = other
      · subst same
        simp [absent.1]
      · simp [same]

omit [DecidableEq κ] in
theorem Sound.push (sound : Sound key number entries)
    (absent : ∀ old ∈ entries, key old ≠ key entry) (positive : 0 < number entry) :
    Sound key number (entries ++ [entry]) := by
  constructor
  · rw [map_append, map_singleton, nodup_append_comm, singleton_append,
      nodup_cons]
    refine ⟨?_, sound.nodup⟩
    simpa using absent
  · intro old mem
    rcases mem_append.mp mem with earlier | last
    · exact sound.positive old earlier
    · rw [mem_singleton.mp last]
      exact positive

theorem numberOf_updateFirst (difference : ℤ) (keeps : ∀ entry, key (change entry) = key entry)
    (counts : ∀ entry, number (change entry) = number entry + difference)
    (present : ∃ entry ∈ entries, key entry = wanted) :
    numberOf key number (updateFirst (key · = wanted) change entries) other =
      numberOf key number entries other + if other = wanted then difference else 0 := by
  induction entries with
  | nil => simp at present
  | cons head rest ih =>
      by_cases same : key head = wanted
      · subst same
        by_cases isOther : key head = other
        · subst isOther
          simp [updateFirst, numberOf_cons, keeps, counts]
        · simp [updateFirst, numberOf_cons, keeps, isOther, Ne.symm isOther]
      · have later : ∃ entry ∈ rest, key entry = wanted := by simpa [same] using present
        simp only [updateFirst, same, decide_false, Bool.false_eq_true, if_false, numberOf_cons,
          ih later]
        by_cases isOther : key head = other
        · subst isOther
          simp [same]
        · simp [isOther]

theorem Sound.updateFirst (sound : Sound key number entries)
    (keeps : ∀ entry, key (change entry) = key entry)
    (positive : ∀ entry ∈ entries, key entry = wanted → 0 < number (change entry)) :
    Sound key number (updateFirst (key · = wanted) change entries) := by
  constructor
  · rw [map_updateFirst keeps]
    exact sound.nodup
  · intro entry mem
    rcases (mem_updateFirst sound.nodup).mp mem with ⟨old, -⟩ | ⟨old, oldMem, isWanted, rfl⟩
    · exact sound.positive entry old
    · exact positive old oldMem isWanted

theorem numberOf_eraseP (nodup : (entries.map key).Nodup) :
    numberOf key number (entries.eraseP (key · = wanted)) other =
      if other = wanted then 0 else numberOf key number entries other := by
  split
  · rename_i isWanted
    apply numberOf_eq_zero
    intro entry mem
    rw [isWanted]
    exact ((mem_eraseP nodup).mp mem).2
  · rename_i notWanted
    by_cases present : ∃ entry ∈ entries, key entry = other
    · rcases present with ⟨entry, mem, rfl⟩
      have stays := (mem_eraseP nodup).mpr ⟨mem, notWanted⟩
      rw [numberOf_of_mem nodup mem, numberOf_of_mem (nodup_eraseP nodup) stays]
    · push Not at present
      rw [numberOf_eq_zero present]
      exact numberOf_eq_zero fun entry mem => present entry ((mem_eraseP nodup).mp mem).1

theorem Sound.eraseP (sound : Sound key number entries) :
    Sound key number (entries.eraseP (key · = wanted)) :=
  ⟨nodup_eraseP sound.nodup, fun entry mem =>
    sound.positive entry (eraseP_sublist.subset mem)⟩

end Number

/-- What an event does to a number. A number that is zero is not counted down. -/
inductive Change where
  | up
  | down
  | keep
deriving DecidableEq

def Change.apply : Change → ℤ → ℤ
  | up, number => number + 1
  | down, number => max (number - 1) 0
  | keep, number => number

def settle (changes : List Change) (number : ℤ) : ℤ :=
  changes.foldl (fun number change => change.apply number) number

section Settle

variable {changes later : List Change} {number : ℤ}

@[simp] theorem settle_nil : settle [] number = number := rfl

@[simp] theorem settle_cons {change : Change} :
    settle (change :: changes) number = settle changes (change.apply number) := rfl

theorem settle_append : settle (changes ++ later) number = settle later (settle changes number) :=
  foldl_append

theorem settle_of_keep (keeps : ∀ change ∈ changes, change = .keep) :
    settle changes number = number := by
  induction changes with
  | nil => rfl
  | cons change rest ih =>
      rw [forall_mem_cons] at keeps
      rw [settle_cons, keeps.1]
      exact ih keeps.2

theorem settle_zero (noUp : ∀ change ∈ changes, change ≠ .up) : settle changes 0 = 0 := by
  induction changes with
  | nil => rfl
  | cons change rest ih =>
      rw [forall_mem_cons] at noUp
      have stays : change.apply 0 = 0 := by
        cases change with
        | up => exact absurd rfl noUp.1
        | down => rfl
        | keep => rfl
      rw [settle_cons, stays]
      exact ih noUp.2

theorem settle_map {α : Type*} (counts : α → Bool) (events : List α) :
    settle (events.map fun event => if counts event then .up else .keep) number =
      number + events.countP counts := by
  induction events generalizing number with
  | nil => simp
  | cons event rest ih =>
      rw [map_cons, settle_cons, ih]
      cases counted : counts event with
      | true =>
          simp only [if_true, Change.apply, counted, countP_cons_of_pos]
          push_cast
          omega
      | false => simp [Change.apply, counted]

end Settle

theorem countP_congr_count {α : Type*} [DecidableEq α] {counts : α → Bool} {list list' : List α}
    (same : ∀ entry, counts entry = true → list.count entry = list'.count entry) :
    list.countP counts = list'.countP counts := by
  rw [countP_eq_length_filter, countP_eq_length_filter]
  apply List.Perm.length_eq
  rw [perm_iff_count]
  intro entry
  by_cases counted : counts entry = true
  · rw [count_filter counted, count_filter counted]
    exact same entry counted
  · rw [count_eq_zero_of_not_mem fun mem => counted (mem_filter.mp mem).2,
      count_eq_zero_of_not_mem fun mem => counted (mem_filter.mp mem).2]

end Tally
