import HtcPme.Foundation.HandleTable
import Mathlib.Data.Int.Notation
import Mathlib.Logic.Function.Basic

/-!
# Rules installed in groups

The rules of a table are installed in groups, each of which keeps the handles of its
rules. How many rules there are is counted by hand beside them.
-/

namespace HandleTable

open List

variable {ρ : Type*} (table : HandleTable ρ) (source : HandleSource)

def addOneFront (rule : ρ) : HandleTable ρ where
  rules := (source.next table.handles, rule) :: table.rules
  nodup := List.nodup_cons.mpr ⟨source.isFresh table.handles, table.nodup⟩
  nonzero isIn := by
    rcases List.mem_cons.mp isIn with isNew | installed
    · exact source.nonzero _ isNew.symm
    · exact table.nonzero installed

def addFront : HandleTable ρ → List ρ → List ℕ × HandleTable ρ
  | table, [] => ([], table)
  | table, rule :: rest =>
      let (hdls, added) := addFront (table.addOneFront source rule) rest
      (source.next table.handles :: hdls, added)

/-- The rules of the handles go one after the other, up to a handle that no rule has. Zero is
passed over. -/
def deleteHdls : HandleTable ρ → List ℕ → Bool × HandleTable ρ
  | table, [] => (true, table)
  | table, hdl :: rest =>
      if hdl = 0 then deleteHdls table rest
      else if hdl ∈ table.handles then deleteHdls (table.delete hdl) rest
      else (false, table)

variable {table}

theorem length_addFront (rules : List ρ) :
    (table.addFront source rules).1.length = rules.length := by
  induction rules generalizing table with
  | nil => rfl
  | cons rule rest ih => simpa [addFront] using ih

theorem rules_addFront_perm (rules : List ρ) :
    (table.addFront source rules).2.rules.Perm
      ((table.addFront source rules).1.zip rules ++ table.rules) := by
  induction rules generalizing table with
  | nil => simp [addFront]
  | cons rule rest ih =>
      apply ih.trans
      simp only [addFront, addOneFront, zip_cons_cons, cons_append]
      exact perm_middle

theorem deleteHdls_of_perm {block rest : List (ℕ × ρ)}
    (present : table.rules.Perm (block ++ rest)) :
    table.deleteHdls (block.map Prod.fst) = (true, table.deleteAll (block.map Prod.fst)) := by
  induction block generalizing table with
  | nil => rfl
  | cons entry block ih =>
      have isIn : entry.1 ∈ table.handles := by
        apply mem_map_of_mem
        apply present.mem_iff.mpr
        simp
      have nonzero : entry.1 ≠ 0 := fun isZero => table.nonzero (isZero ▸ isIn)
      have deleted : (table.deleteAll ([entry].map Prod.fst)).rules.Perm (block ++ rest) :=
        rules_deleteAll_perm present
      have rest := ih deleted
      simpa [deleteHdls, nonzero, isIn, deleteAll] using rest

theorem deleteHdls_subset (hdls : List ℕ) :
    (table.deleteHdls hdls).2.handles ⊆ table.handles := by
  induction hdls generalizing table with
  | nil => exact List.Subset.refl _
  | cons hdl rest ih =>
      rw [deleteHdls]
      split_ifs
      · exact ih
      · exact List.Subset.trans ih (filter_sublist.map _).subset
      · exact List.Subset.refl _

theorem map_idxOf_add (rules : List ρ) :
    (table.add source rules).1.map ((table.add source rules).2.handles.idxOf ·) =
      range' table.rules.length rules.length := by
  have handles : (table.add source rules).2.handles =
      table.handles ++ (table.add source rules).1 := by
    simp [HandleTable.handles, rules_add, map_fst_zip, length_add]
  have nodup := (table.add source rules).2.nodup
  rw [show (table.add source rules).2.rules.map Prod.fst = _ from handles] at nodup
  have length : table.handles.length = table.rules.length := length_map _
  rw [handles]
  apply ext_getElem
  · simp [length_add]
  · intro pos before _
    have within : pos < (table.add source rules).1.length := by simpa using before
    have inside : table.handles.length + pos <
        (table.handles ++ (table.add source rules).1).length := by simp [within]
    have behind : (table.handles ++ (table.add source rules).1)[table.handles.length + pos] =
        (table.add source rules).1[pos] := by simp
    rw [getElem_map, ← behind, nodup.idxOf_getElem, length]
    simp

end HandleTable

structure RuleGroups (γ : Type*) where
  kernel : HandleTable γ
  hdl : γ → List ℕ
  count : ℤ

namespace RuleGroups

variable {γ : Type*} [DecidableEq γ] (groups : RuleGroups γ) (source : HandleSource)

def forget (group : γ) : RuleGroups γ :=
  { groups with hdl := Function.update groups.hdl group [] }

def append (atRear : Bool) (group : γ) (num : ℕ) : RuleGroups γ :=
  let (hdls, kernel) :=
    if atRear then groups.kernel.add source (List.replicate num group)
    else groups.kernel.addFront source (List.replicate num group)
  { kernel
    hdl := Function.update groups.hdl group (groups.hdl group ++ hdls)
    count := groups.count + num }

def add (atRear : Bool) (group : γ) (num : ℕ) : RuleGroups γ :=
  (groups.forget group).append source atRear group num

omit [DecidableEq γ] in
/-- The first rules of a group go. The count is lowered if none of the deletions failed. -/
def delete (group : γ) (num : ℕ) : Bool × RuleGroups γ :=
  let (deleted, kernel) := groups.kernel.deleteHdls ((groups.hdl group).take num)
  (deleted, { groups with kernel, count := if deleted then groups.count - num else groups.count })

omit [DecidableEq γ] in
/-- As many rules of a group go one at a time, and the count is lowered for each. -/
def deleteSingly (group : γ) (num : ℕ) : Bool × RuleGroups γ :=
  go groups ((groups.hdl group).take num)
where
  go : RuleGroups γ → List ℕ → Bool × RuleGroups γ
    | groups, [] => (true, groups)
    | groups, hdl :: rest =>
        let (deleted, kernel) := groups.kernel.deleteHdls [hdl]
        if deleted then go { groups with kernel, count := groups.count - 1 } rest
        else (false, { groups with kernel })

variable (booked : List (γ × ℕ))

omit [DecidableEq γ] in
def block (group : γ) : List (ℕ × γ) := (groups.hdl group).map (·, group)

omit [DecidableEq γ] in
structure Books : Prop where
  count : groups.count = groups.kernel.rules.length
  length : ∀ entry ∈ booked, (groups.hdl entry.1).length = entry.2
  nodup : (booked.map Prod.fst).Nodup
  perm : groups.kernel.rules.Perm (booked.flatMap fun entry => groups.block entry.1)

omit [DecidableEq γ] in
def IsInstalled (group : γ) : Prop :=
  ∃ hdl ∈ groups.hdl group, (hdl, group) ∈ groups.kernel.rules

omit [DecidableEq γ] in
def IsGone (group : γ) : Prop :=
  ∀ hdl ∈ groups.hdl group, hdl ≠ 0 ∧ hdl ∉ groups.kernel.handles

instance (group : γ) : Decidable (groups.IsInstalled group) :=
  inferInstanceAs (Decidable (∃ hdl ∈ groups.hdl group, (hdl, group) ∈ groups.kernel.rules))

omit [DecidableEq γ] in
instance (group : γ) : Decidable (groups.IsGone group) :=
  inferInstanceAs (Decidable (∀ hdl ∈ groups.hdl group, hdl ≠ 0 ∧ hdl ∉ groups.kernel.handles))

variable {groups booked} {group : γ} {num : ℕ}

omit [DecidableEq γ] in
@[simp]
theorem map_fst_block : (groups.block group).map Prod.fst = groups.hdl group := by
  simp [block, Function.comp_def]

namespace Books

omit [DecidableEq γ] in
theorem of_perm {booked' : List (γ × ℕ)} (books : groups.Books booked)
    (perm : booked.Perm booked') :
    groups.Books booked' where
  count := books.count
  length entry isIn := books.length entry (perm.mem_iff.mpr isIn)
  nodup := (perm.map Prod.fst).nodup_iff.mp books.nodup
  perm := books.perm.trans (perm.flatMap_right _)

omit [DecidableEq γ] in
theorem of_nil (books : groups.Books []) : groups.kernel.rules = [] ∧ groups.count = 0 := by
  have empty : groups.kernel.rules = [] := books.perm.eq_nil
  have count := books.count
  rw [empty] at count
  exact ⟨empty, count⟩

theorem setHdl (books : groups.Books booked) (notBooked : group ∉ booked.map Prod.fst)
    (hdls : List ℕ) :
    Books { groups with hdl := Function.update groups.hdl group hdls } booked := by
  have same : ∀ entry ∈ booked,
      Function.update groups.hdl group hdls entry.1 = groups.hdl entry.1 := by
    intro entry isIn
    apply Function.update_of_ne
    rintro rfl
    exact notBooked (List.mem_map_of_mem isIn)
  refine ⟨books.count, fun entry isIn => ?_, books.nodup, ?_⟩
  · rw [← books.length entry isIn]
    exact congrArg List.length (same entry isIn)
  · apply books.perm.trans
    apply List.Perm.of_eq
    apply List.flatMap_congr
    intro entry isIn
    simp only [block, same entry isIn]

end Books

/-- What an addition does: the new handles are kept, and their rules are there. -/
theorem append_spec (atRear : Bool) (group : γ) (num : ℕ) :
    ∃ hdls kernel, groups.append source atRear group num =
        { kernel
          hdl := Function.update groups.hdl group (groups.hdl group ++ hdls)
          count := groups.count + num } ∧
      hdls.length = num ∧
      kernel.rules.Perm (hdls.map (·, group) ++ groups.kernel.rules) := by
  have paired {hdls : List ℕ} (length : hdls.length = num) :
      hdls.zip (List.replicate num group) = hdls.map (·, group) := by
    apply List.ext_getElem
    · simp [length]
    · intro pos _ _
      simp
  cases atRear with
  | true =>
      have length : (groups.kernel.add source (List.replicate num group)).1.length = num := by
        rw [HandleTable.length_add, List.length_replicate]
      refine ⟨_, _, rfl, length, ?_⟩
      rw [← paired length, HandleTable.rules_add]
      exact List.perm_append_comm
  | false =>
      have length :
          (groups.kernel.addFront source (List.replicate num group)).1.length = num := by
        rw [HandleTable.length_addFront, List.length_replicate]
      refine ⟨_, _, rfl, length, ?_⟩
      rw [← paired length]
      exact HandleTable.rules_addFront_perm source _

namespace Books

theorem append (books : groups.Books booked) (notBooked : group ∉ booked.map Prod.fst)
    (noHdl : groups.hdl group = []) (atRear : Bool) :
    (groups.append source atRear group num).Books ((group, num) :: booked) := by
  rcases groups.append_spec source atRear group num with ⟨hdls, kernel, appended, length, perm⟩
  rw [appended, noHdl, List.nil_append]
  have kept := books.setHdl notBooked hdls
  have block : RuleGroups.block
      { kernel, hdl := Function.update groups.hdl group hdls, count := groups.count + num } group =
      hdls.map (·, group) := by
    simp [RuleGroups.block]
  refine ⟨?_, ?_, ?_, ?_⟩
  · have total := perm.length_eq
    rw [List.length_append, List.length_map, length] at total
    simp only [total, books.count]
    push_cast
    omega
  · intro entry isIn
    rcases List.mem_cons.mp isIn with rfl | isIn
    · simpa using length
    · exact kept.length entry isIn
  · exact List.nodup_cons.mpr ⟨notBooked, books.nodup⟩
  · rw [List.flatMap_cons, block]
    exact perm.trans (List.Perm.append_left _ kept.perm)

theorem add (books : groups.Books booked) (notBooked : group ∉ booked.map Prod.fst)
    (atRear : Bool) : (groups.add source atRear group num).Books ((group, num) :: booked) :=
  (books.setHdl notBooked []).append source notBooked (Function.update_self _ _ _) atRear

variable (books : groups.Books ((group, num) :: booked))

include books

omit [DecidableEq γ] in
theorem present :
    groups.kernel.rules.Perm
      (groups.block group ++ booked.flatMap fun entry => groups.block entry.1) :=
  books.perm.trans (.of_eq List.flatMap_cons)

omit [DecidableEq γ] in
theorem take_hdl :
    (groups.hdl group).take num = groups.hdl group := by
  have length : (groups.hdl group).length = num := books.length _ List.mem_cons_self
  rw [← length, List.take_length]

omit [DecidableEq γ] in
theorem deleteBlock :
    Books { groups with
      kernel := groups.kernel.deleteAll (groups.hdl group)
      count := groups.count - num } booked := by
  have length : (groups.block group).length = num := by
    simpa [block] using books.length _ List.mem_cons_self
  have left := HandleTable.rules_deleteAll_perm books.present
  rw [map_fst_block] at left
  refine ⟨?_, fun entry isIn => books.length entry (List.mem_cons_of_mem _ isIn),
    (List.nodup_cons.mp books.nodup).2, left⟩
  have before := books.perm.length_eq
  rw [List.flatMap_cons, List.length_append, length, ← left.length_eq] at before
  simp only [books.count, before]
  push_cast
  omega

omit [DecidableEq γ] in
theorem delete :
    (groups.delete group num).1 = true ∧ (groups.delete group num).2.Books booked := by
  have deleted := HandleTable.deleteHdls_of_perm books.present
  rw [map_fst_block] at deleted
  simp only [RuleGroups.delete, books.take_hdl, deleted, if_true, true_and]
  exact books.deleteBlock

end Books

omit [DecidableEq γ] in
theorem deleteSingly_go {hdls : List ℕ} {rest : List (ℕ × γ)}
    (present : groups.kernel.rules.Perm (hdls.map (·, group) ++ rest)) :
    deleteSingly.go groups hdls =
      (true, { groups with
        kernel := groups.kernel.deleteAll hdls
        count := groups.count - hdls.length }) := by
  induction hdls generalizing groups with
  | nil => simp [deleteSingly.go, HandleTable.deleteAll]
  | cons hdl hdls ih =>
      have one : groups.kernel.deleteHdls ([(hdl, group)].map Prod.fst) =
          (true, groups.kernel.deleteAll ([(hdl, group)].map Prod.fst)) :=
        HandleTable.deleteHdls_of_perm present
      have left : (groups.kernel.deleteAll ([(hdl, group)].map Prod.fst)).rules.Perm
          (hdls.map (·, group) ++ rest) :=
        HandleTable.rules_deleteAll_perm present
      simp only [List.map_cons, List.map_nil] at one left
      have others : deleteSingly.go
          { groups with kernel := groups.kernel.deleteAll [hdl], count := groups.count - 1 } hdls =
          _ := ih left
      have count : groups.count - 1 - (hdls.length : ℤ) =
          groups.count - ((hdl :: hdls).length : ℕ) := by
        rw [List.length_cons]
        push_cast
        omega
      rw [deleteSingly.go, one]
      simp only [if_true, others, count]
      rfl

namespace Books

omit [DecidableEq γ] in
theorem deleteSingly (books : groups.Books ((group, num) :: booked)) :
    (groups.deleteSingly group num).1 = true ∧
      (groups.deleteSingly group num).2.Books booked := by
  have length : (groups.hdl group).length = num := books.length _ List.mem_cons_self
  have deleted := deleteSingly_go books.present
  rw [RuleGroups.deleteSingly, books.take_hdl, deleted, length]
  exact ⟨rfl, books.deleteBlock⟩

omit [DecidableEq γ] in
theorem isInstalled_iff (books : groups.Books booked) (some : groups.hdl group ≠ []) :
    groups.IsInstalled group ↔ group ∈ booked.map Prod.fst := by
  constructor
  · rintro ⟨hdl, _, isIn⟩
    rcases List.mem_flatMap.mp (books.perm.mem_iff.mp isIn) with ⟨entry, isBooked, inBlock⟩
    rcases List.mem_map.mp inBlock with ⟨_, _, same⟩
    cases same
    exact List.mem_map_of_mem isBooked
  · intro isBooked
    rcases List.mem_map.mp isBooked with ⟨entry, inBook, rfl⟩
    rcases List.exists_mem_of_ne_nil _ some with ⟨hdl, isKept⟩
    refine ⟨hdl, isKept, books.perm.mem_iff.mpr ?_⟩
    exact List.mem_flatMap.mpr ⟨entry, inBook, List.mem_map_of_mem isKept⟩

omit [DecidableEq γ] in
theorem consZero (books : groups.Books booked) (notBooked : group ∉ booked.map Prod.fst)
    (noHdl : groups.hdl group = []) : groups.Books ((group, 0) :: booked) where
  count := books.count
  length entry isIn := by
    rcases List.mem_cons.mp isIn with rfl | isIn
    · simp [noHdl]
    · exact books.length entry isIn
  nodup := List.nodup_cons.mpr ⟨notBooked, books.nodup⟩
  perm := by simpa [block, noHdl] using books.perm

omit [DecidableEq γ] in
theorem of_zero (books : groups.Books ((group, 0) :: booked)) : groups.Books booked := by
  have empty : groups.block group = [] := by
    apply List.eq_nil_of_length_eq_zero
    simpa [block] using books.length _ List.mem_cons_self
  have present := books.present
  rw [empty, List.nil_append] at present
  exact ⟨books.count, fun entry isIn => books.length entry (List.mem_cons_of_mem _ isIn),
    (List.nodup_cons.mp books.nodup).2, present⟩

end Books

@[simp]
theorem hdl_forget : (groups.forget group).hdl group = [] := Function.update_self _ _ _

variable {other : γ}

section

variable (differs : other ≠ group)

include differs

theorem hdl_forget_of_ne :
    (groups.forget group).hdl other = groups.hdl other :=
  Function.update_of_ne differs _ _

theorem hdl_append_of_ne (atRear : Bool) :
    (groups.append source atRear group num).hdl other = groups.hdl other :=
  Function.update_of_ne differs _ _

theorem hdl_add_of_ne (atRear : Bool) :
    (groups.add source atRear group num).hdl other = groups.hdl other :=
  (hdl_append_of_ne source differs atRear).trans (hdl_forget_of_ne differs)

end

omit [DecidableEq γ] in
@[simp]
theorem hdl_delete : (groups.delete group num).2.hdl = groups.hdl := rfl

omit [DecidableEq γ] in
theorem delete_of_isGone (single : (groups.hdl group).length = 1) (gone : groups.IsGone group) :
    groups.delete group 1 = (false, groups) := by
  rcases List.length_eq_one_iff.mp single with ⟨hdl, isHdl⟩
  rcases gone hdl (by simp [isHdl]) with ⟨nonzero, notIn⟩
  simp [delete, isHdl, HandleTable.deleteHdls, nonzero, notIn]

omit [DecidableEq γ] in
theorem IsGone.delete (gone : groups.IsGone other) :
    (groups.delete group num).2.IsGone other := by
  intro hdl isKept
  rcases gone hdl isKept with ⟨nonzero, notIn⟩
  exact ⟨nonzero, fun isIn => notIn (HandleTable.deleteHdls_subset _ isIn)⟩

omit [DecidableEq γ] in
theorem not_isGone (installed : groups.IsInstalled group) : ¬ groups.IsGone group := by
  rcases installed with ⟨hdl, isKept, isIn⟩
  intro gone
  exact (gone hdl isKept).2 (List.mem_map_of_mem isIn)

theorem map_idxOf_append (group : γ) (num : ℕ) :
    (((groups.append source true group num).hdl group).drop (groups.hdl group).length).map
        ((groups.append source true group num).kernel.handles.idxOf ·) =
      List.range' groups.kernel.rules.length num := by
  have positions := groups.kernel.map_idxOf_add source
    (List.replicate num group)
  rw [List.length_replicate] at positions
  have hdls : ((groups.append source true group num).hdl group).drop (groups.hdl group).length =
      (groups.kernel.add source (List.replicate num group)).1 := by
    simp [append]
  rw [hdls]
  exact positions

end RuleGroups
