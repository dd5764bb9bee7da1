import Mathlib.Data.Sym.Sym2
import Mathlib.Data.Set.Card
import Mathlib.Tactic.Common

/-!
# Mirrored adjacency lists

An undirected graph stored twice, as one list of entries for each vertex, where every entry has an
equally labelled entry at its other end.
-/

namespace Adjacency

open List

variable {κ ε ℓ : Type*}

def updateFirst (found : ε → Bool) (change : ε → ε) : List ε → List ε
  | [] => []
  | entry :: rest =>
      if found entry then change entry :: rest else entry :: updateFirst found change rest

theorem map_updateFirst {α : Type*} {found : ε → Bool} {change : ε → ε} {view : ε → α}
    (keeps : ∀ entry, view (change entry) = view entry) (entries : List ε) :
    (updateFirst found change entries).map view = entries.map view := by
  induction entries with
  | nil => rfl
  | cons entry rest ih =>
      unfold updateFirst
      split
      · simp [keeps]
      · simp [ih]

section Entries

variable [DecidableEq κ] {key : ε → κ} {change : ε → ε} {entries : List ε} {other : κ}

variable (nodup : (entries.map key).Nodup)

include nodup

variable {entry : ε}

theorem mem_updateFirst :
    entry ∈ updateFirst (key · = other) change entries ↔
      entry ∈ entries ∧ key entry ≠ other ∨
        ∃ old ∈ entries, key old = other ∧ entry = change old := by
  induction entries with
  | nil => simp [updateFirst]
  | cons head rest ih =>
      simp only [map_cons, nodup_cons, mem_map, not_exists, not_and] at nodup
      rcases nodup with ⟨fresh, nodupRest⟩
      by_cases same : key head = other
      · have notLater : ∀ later ∈ rest, key later ≠ other :=
          fun later mem => same ▸ fresh later mem
        simp only [updateFirst, same, decide_true, if_true, mem_cons]
        constructor
        · rintro (rfl | later)
          · exact .inr ⟨head, .inl rfl, same, rfl⟩
          · exact .inl ⟨.inr later, notLater _ later⟩
        · rintro (⟨rfl | later, differs⟩ | ⟨old, rfl | later, named, rfl⟩)
          · exact absurd same differs
          · exact .inr later
          · exact .inl rfl
          · exact absurd named (notLater _ later)
      · simp only [updateFirst, same, decide_false, Bool.false_eq_true, if_false, mem_cons,
          ih nodupRest]
        constructor
        · rintro (rfl | ⟨later, differs⟩ | ⟨old, later, named, rfl⟩)
          · exact .inl ⟨.inl rfl, same⟩
          · exact .inl ⟨.inr later, differs⟩
          · exact .inr ⟨old, .inr later, named, rfl⟩
        · rintro (⟨rfl | later, differs⟩ | ⟨old, rfl | later, named, rfl⟩)
          · exact .inl rfl
          · exact .inr (.inl ⟨later, differs⟩)
          · exact absurd named same
          · exact .inr (.inr ⟨old, later, named, rfl⟩)

theorem updateFirst_of_find? {found : ε → Bool} (isFound : entries.find? found = some entry) :
    updateFirst found change entries = updateFirst (key · = key entry) change entries := by
  induction entries with
  | nil => simp at isFound
  | cons head rest ih =>
      simp only [map_cons, nodup_cons, mem_map, not_exists, not_and] at nodup
      by_cases satisfies : found head = true
      · rw [find?_cons_of_pos satisfies] at isFound
        cases isFound
        simp [updateFirst, satisfies]
      · rw [find?_cons_of_neg satisfies] at isFound
        have differs : key head ≠ key entry :=
          fun same => nodup.1 entry (mem_of_find?_eq_some isFound) same.symm
        simp [updateFirst, satisfies, differs, ih nodup.2 isFound]

theorem mem_eraseP :
    entry ∈ entries.eraseP (key · = other) ↔ entry ∈ entries ∧ key entry ≠ other := by
  induction entries with
  | nil => simp
  | cons head rest ih =>
      simp only [map_cons, nodup_cons, mem_map, not_exists, not_and] at nodup
      rcases nodup with ⟨fresh, nodupRest⟩
      by_cases same : key head = other
      · have notLater : ∀ later ∈ rest, key later ≠ other :=
          fun later mem => same ▸ fresh later mem
        rw [eraseP_cons_of_pos (by simpa using same), mem_cons]
        constructor
        · intro later
          exact ⟨.inr later, notLater _ later⟩
        · rintro ⟨rfl | later, differs⟩
          · exact absurd same differs
          · exact later
      · rw [eraseP_cons_of_neg (by simpa using same), mem_cons, mem_cons,
          ih nodupRest]
        constructor
        · rintro (rfl | ⟨later, differs⟩)
          · exact ⟨.inl rfl, same⟩
          · exact ⟨.inr later, differs⟩
        · rintro ⟨rfl | later, differs⟩
          · exact .inl rfl
          · exact .inr ⟨later, differs⟩

theorem nodup_eraseP :
    ((entries.eraseP (key · = other)).map key).Nodup :=
  nodup.sublist (eraseP_sublist.map key)

omit [DecidableEq κ] in
theorem eq_of_key_eq {entry entry' : ε} (mem : entry ∈ entries)
    (mem' : entry' ∈ entries) (sameKey : key entry = key entry') : entry = entry' :=
  inj_on_of_nodup_map nodup mem mem' sameKey

end Entries

structure Mirrored (key : ε → κ) (label : ε → ℓ) (adj : κ → List ε) : Prop where
  nodup : ∀ vertex, ((adj vertex).map key).Nodup
  irrefl : ∀ vertex, ∀ entry ∈ adj vertex, key entry ≠ vertex
  mirror : ∀ vertex, ∀ entry ∈ adj vertex,
    ∃ back ∈ adj (key entry), key back = vertex ∧ label back = label entry

def Adjacent (key : ε → κ) (adj : κ → List ε) (a b : κ) : Prop :=
  ∃ entry ∈ adj a, key entry = b

def edges (key : ε → κ) (adj : κ → List ε) : Set (Sym2 κ) :=
  {pair | ∃ a b, pair = s(a, b) ∧ Adjacent key adj a b}

section Mirrored

variable {key : ε → κ} {label : ε → ℓ} {adj adj' : κ → List ε}

section

variable (mirrored : Mirrored key label adj)

include mirrored

variable {a b : κ}

theorem Mirrored.symm (adjacent : Adjacent key adj a b) : Adjacent key adj b a := by
  rcases adjacent with ⟨entry, mem, rfl⟩
  rcases mirrored.mirror a entry mem with ⟨back, backMem, named, _⟩
  exact ⟨back, backMem, named⟩

theorem Mirrored.ne (adjacent : Adjacent key adj a b) : b ≠ a := by
  rcases adjacent with ⟨entry, mem, rfl⟩
  exact mirrored.irrefl a entry mem

theorem Mirrored.mem_edges :
    s(a, b) ∈ edges key adj ↔ Adjacent key adj a b := by
  constructor
  · rintro ⟨c, d, same, adjacent⟩
    rcases Sym2.eq_iff.mp same with ⟨rfl, rfl⟩ | ⟨rfl, rfl⟩
    · exact adjacent
    · exact mirrored.symm adjacent
  · intro adjacent
    exact ⟨a, b, rfl, adjacent⟩

theorem Mirrored.congr (same : ∀ vertex, (adj' vertex).map (fun entry => (key entry, label entry)) =
      (adj vertex).map fun entry => (key entry, label entry)) : Mirrored key label adj' := by
  have forward : ∀ vertex, ∀ entry ∈ adj' vertex,
      ∃ old ∈ adj vertex, key old = key entry ∧ label old = label entry := by
    intro vertex entry mem
    have mapped : (key entry, label entry) ∈
        (adj vertex).map fun entry => (key entry, label entry) := by
      rw [← same]
      exact mem_map_of_mem mem
    rcases mem_map.mp mapped with ⟨old, oldMem, pairEq⟩
    exact ⟨old, oldMem, (Prod.mk.inj pairEq).1, (Prod.mk.inj pairEq).2⟩
  have backward : ∀ vertex, ∀ entry ∈ adj vertex,
      ∃ new ∈ adj' vertex, key new = key entry ∧ label new = label entry := by
    intro vertex entry mem
    have mapped : (key entry, label entry) ∈
        (adj' vertex).map fun entry => (key entry, label entry) := by
      rw [same]
      exact mem_map_of_mem mem
    rcases mem_map.mp mapped with ⟨new, newMem, pairEq⟩
    exact ⟨new, newMem, (Prod.mk.inj pairEq).1, (Prod.mk.inj pairEq).2⟩
  constructor
  · intro vertex
    have sameKeys := congrArg (map Prod.fst) (same vertex)
    simp only [map_map, Function.comp_def] at sameKeys
    rw [sameKeys]
    exact mirrored.nodup vertex
  · intro vertex entry mem
    rcases forward vertex entry mem with ⟨old, oldMem, sameKey, _⟩
    exact sameKey ▸ mirrored.irrefl vertex old oldMem
  · intro vertex entry mem
    rcases forward vertex entry mem with ⟨old, oldMem, sameKey, sameLabel⟩
    rcases mirrored.mirror vertex old oldMem with ⟨back, backMem, named, mirrorLabel⟩
    rcases backward _ back backMem with ⟨new, newMem, newKey, newLabel⟩
    rw [← sameKey]
    exact ⟨new, newMem, newKey.trans named, newLabel.trans (mirrorLabel.trans sameLabel)⟩

end

theorem adjacent_congr (same : ∀ vertex, (adj' vertex).map key = (adj vertex).map key) {a b : κ} :
    Adjacent key adj' a b ↔ Adjacent key adj a b := by
  have mapped : ∀ adj : κ → List ε, Adjacent key adj a b ↔ b ∈ (adj a).map key := by
    intro adj
    simp [Adjacent]
  rw [mapped, mapped, same]

theorem edges_congr (same : ∀ vertex, (adj' vertex).map key = (adj vertex).map key) :
    edges key adj' = edges key adj := by
  simp only [edges, adjacent_congr same]

def replaceBoth [DecidableEq κ] (adj : κ → List ε) (a b : κ) (entriesA entriesB : List ε) :
    κ → List ε :=
  Function.update (Function.update adj a entriesA) b entriesB

variable [DecidableEq κ] {a b : κ} {entriesA entriesB : List ε}

theorem replaceBoth_left (distinct : a ≠ b) : replaceBoth adj a b entriesA entriesB a =
    entriesA := by
  simp [replaceBoth, distinct]

theorem replaceBoth_right : replaceBoth adj a b entriesA entriesB b = entriesB := by
  simp [replaceBoth]

theorem replaceBoth_other {c : κ} (notA : c ≠ a) (notB : c ≠ b) :
    replaceBoth adj a b entriesA entriesB c = adj c := by
  simp [replaceBoth, notA, notB]

/-- Two lists may be replaced when the new ones keep every entry that names a third
vertex, name each other with equal labels or not at all, and name nothing else. -/
theorem Mirrored.replaceBoth (mirrored : Mirrored key label adj) (distinct : a ≠ b)
    (nodupA : (entriesA.map key).Nodup) (nodupB : (entriesB.map key).Nodup)
    (restA : ∀ entry, key entry ≠ b → (entry ∈ entriesA ↔ entry ∈ adj a))
    (restB : ∀ entry, key entry ≠ a → (entry ∈ entriesB ↔ entry ∈ adj b))
    (edgeA : ∀ entry ∈ entriesA, key entry = b →
      ∃ back ∈ entriesB, key back = a ∧ label back = label entry)
    (edgeB : ∀ entry ∈ entriesB, key entry = a →
      ∃ back ∈ entriesA, key back = b ∧ label back = label entry) :
    Mirrored key label (Adjacency.replaceBoth adj a b entriesA entriesB) := by
  -- the entries of a third vertex are as before, and their mirrors are kept
  have keepsMirror : ∀ vertex entry, entry ∈ adj vertex →
      (vertex ≠ a ∨ key entry ≠ b) → (vertex ≠ b ∨ key entry ≠ a) →
      ∃ back ∈ Adjacency.replaceBoth adj a b entriesA entriesB (key entry),
        key back = vertex ∧ label back = label entry := by
    intro vertex entry mem notAB notBA
    rcases mirrored.mirror vertex entry mem with ⟨back, backMem, named, sameLabel⟩
    refine ⟨back, ?_, named, sameLabel⟩
    by_cases isB : key entry = b
    · rw [isB, replaceBoth_right]
      rw [isB] at backMem
      exact (restB back (named ▸ notAB.resolve_right fun differs => differs isB)).mpr backMem
    · by_cases isA : key entry = a
      · rw [isA, replaceBoth_left distinct]
        rw [isA] at backMem
        exact (restA back (named ▸ notBA.resolve_right fun differs => differs isA)).mpr backMem
      · rw [replaceBoth_other isA isB]
        exact backMem
  constructor
  · intro vertex
    by_cases isB : vertex = b
    · subst isB
      rwa [replaceBoth_right]
    · by_cases isA : vertex = a
      · subst isA
        rwa [replaceBoth_left distinct]
      · rw [replaceBoth_other isA isB]
        exact mirrored.nodup vertex
  · intro vertex entry mem
    by_cases isB : vertex = b
    · subst isB
      rw [replaceBoth_right] at mem
      by_cases namesA : key entry = a
      · rw [namesA]
        exact distinct
      · exact mirrored.irrefl _ entry ((restB entry namesA).mp mem)
    · by_cases isA : vertex = a
      · subst isA
        rw [replaceBoth_left distinct] at mem
        by_cases namesB : key entry = b
        · rw [namesB]
          exact distinct.symm
        · exact mirrored.irrefl _ entry ((restA entry namesB).mp mem)
      · rw [replaceBoth_other isA isB] at mem
        exact mirrored.irrefl vertex entry mem
  · intro vertex entry mem
    by_cases isB : vertex = b
    · subst isB
      rw [replaceBoth_right] at mem
      by_cases namesA : key entry = a
      · rcases edgeB entry mem namesA with ⟨back, backMem, named, sameLabel⟩
        refine ⟨back, ?_, named, sameLabel⟩
        rwa [namesA, replaceBoth_left distinct]
      · exact keepsMirror vertex entry ((restB entry namesA).mp mem) (.inl distinct.symm)
          (.inr namesA)
    · by_cases isA : vertex = a
      · subst isA
        rw [replaceBoth_left distinct] at mem
        by_cases namesB : key entry = b
        · rcases edgeA entry mem namesB with ⟨back, backMem, named, sameLabel⟩
          refine ⟨back, ?_, named, sameLabel⟩
          rwa [namesB, replaceBoth_right]
        · exact keepsMirror vertex entry ((restA entry namesB).mp mem) (.inr namesB) (.inl isB)
      · rw [replaceBoth_other isA isB] at mem
        exact keepsMirror vertex entry mem (.inl isA) (.inl isB)

theorem adjacent_replaceBoth (distinct : a ≠ b)
    (restA : ∀ entry, key entry ≠ b → (entry ∈ entriesA ↔ entry ∈ adj a))
    (restB : ∀ entry, key entry ≠ a → (entry ∈ entriesB ↔ entry ∈ adj b)) {c d : κ}
    (otherPair : s(c, d) ≠ s(a, b)) :
    Adjacent key (replaceBoth adj a b entriesA entriesB) c d ↔ Adjacent key adj c d := by
  have sameEntries : ∀ entry, key entry = d →
      (entry ∈ replaceBoth adj a b entriesA entriesB c ↔ entry ∈ adj c) := by
    rintro entry rfl
    by_cases isB : c = b
    · subst isB
      rw [replaceBoth_right]
      apply restB
      intro namesA
      exact otherPair (by rw [namesA, Sym2.eq_swap])
    · by_cases isA : c = a
      · subst isA
        rw [replaceBoth_left distinct]
        apply restA
        intro namesB
        exact otherPair (by rw [namesB])
      · rw [replaceBoth_other isA isB]
  constructor
  · rintro ⟨entry, mem, named⟩
    exact ⟨entry, (sameEntries entry named).mp mem, named⟩
  · rintro ⟨entry, mem, named⟩
    exact ⟨entry, (sameEntries entry named).mpr mem, named⟩

end Mirrored

section Edges

variable [DecidableEq κ] {key : ε → κ} {label : ε → ℓ} {adj : κ → List ε} {a b : κ}

def push (adj : κ → List ε) (a b : κ) (entryA entryB : ε) : κ → List ε :=
  replaceBoth adj a b (adj a ++ [entryA]) (adj b ++ [entryB])

def erase (key : ε → κ) (adj : κ → List ε) (a b : κ) : κ → List ε :=
  replaceBoth adj a b ((adj a).eraseP (key · = b)) ((adj b).eraseP (key · = a))

variable (mirrored : Mirrored key label adj)

include mirrored

section

variable (distinct : a ≠ b)

include distinct

variable {entryA entryB : ε}

theorem Mirrored.push
    (namesB : key entryA = b) (namesA : key entryB = a) (sameLabel : label entryA = label entryB)
    (fresh : ¬ Adjacent key adj a b) :
    Mirrored key label (push adj a b entryA entryB) := by
  have freshBack : ¬ Adjacent key adj b a := fun back => fresh (mirrored.symm back)
  have nodupPush : ∀ vertex entry, ¬ Adjacent key adj vertex (key entry) →
      ((adj vertex ++ [entry]).map key).Nodup := by
    intro vertex entry notAdjacent
    rw [map_append, nodup_append]
    refine ⟨mirrored.nodup vertex, by simp, ?_⟩
    intro old oldMem new newMem
    simp only [map_cons, map_nil, mem_singleton] at newMem
    rcases mem_map.mp oldMem with ⟨oldEntry, mem, rfl⟩
    rw [newMem]
    exact fun same => notAdjacent ⟨oldEntry, mem, same⟩
  have restPush : ∀ vertex entry other, key entry = other → ∀ entry', key entry' ≠ other →
      (entry' ∈ adj vertex ++ [entry] ↔ entry' ∈ adj vertex) := by
    rintro vertex entry _ rfl entry' differs
    simp only [mem_append, mem_singleton]
    exact or_iff_left fun same => differs (congrArg key same)
  apply mirrored.replaceBoth distinct
  · exact nodupPush a entryA (namesB ▸ fresh)
  · exact nodupPush b entryB (namesA ▸ freshBack)
  · exact restPush a entryA b namesB
  · exact restPush b entryB a namesA
  · intro entry mem named
    rcases mem_append.mp mem with old | new
    · exact absurd ⟨entry, old, named⟩ fresh
    · simp only [mem_singleton] at new
      subst new
      exact ⟨entryB, by simp, namesA, sameLabel.symm⟩
  · intro entry mem named
    rcases mem_append.mp mem with old | new
    · exact absurd ⟨entry, old, named⟩ freshBack
    · simp only [mem_singleton] at new
      subst new
      exact ⟨entryA, by simp, namesB, sameLabel⟩

theorem Mirrored.erase :
    Mirrored key label (erase key adj a b) := by
  apply mirrored.replaceBoth distinct
  · exact nodup_eraseP (mirrored.nodup a)
  · exact nodup_eraseP (mirrored.nodup b)
  · intro entry differs
    rw [mem_eraseP (mirrored.nodup a), and_iff_left differs]
  · intro entry differs
    rw [mem_eraseP (mirrored.nodup b), and_iff_left differs]
  · intro entry mem named
    exact absurd named ((mem_eraseP (mirrored.nodup a)).mp mem).2
  · intro entry mem named
    exact absurd named ((mem_eraseP (mirrored.nodup b)).mp mem).2

theorem Mirrored.updateFirst {change : ε → ε} (keepsKey : ∀ entry, key (change entry) = key entry)
    (changesLabel : ∀ entry entry', label entry = label entry' →
      label (change entry) = label (change entry')) :
    Mirrored key label (Adjacency.replaceBoth adj a b
      (Adjacency.updateFirst (key · = b) change (adj a))
      (Adjacency.updateFirst (key · = a) change (adj b))) := by
  have rest : ∀ vertex other entry, key entry ≠ other →
      (entry ∈ Adjacency.updateFirst (key · = other) change (adj vertex) ↔ entry ∈ adj vertex) := by
    intro vertex other entry differs
    rw [mem_updateFirst (mirrored.nodup vertex), and_iff_left differs, or_iff_left]
    rintro ⟨old, _, named, rfl⟩
    exact differs ((keepsKey old).trans named)
  have edge : ∀ vertex other entry, entry ∈
    Adjacency.updateFirst (key · = other) change (adj vertex) →
      key entry = other → ∃ back ∈ Adjacency.updateFirst (key · = vertex) change (adj other),
        key back = vertex ∧ label back = label entry := by
    intro vertex other entry mem named
    rcases (mem_updateFirst (mirrored.nodup vertex)).mp mem with ⟨_, differs⟩ |
      ⟨old, oldMem, isOther, rfl⟩
    · exact absurd named differs
    · rcases mirrored.mirror vertex old oldMem with ⟨back, backMem, backNamed, sameLabel⟩
      rw [isOther] at backMem
      refine ⟨change back, ?_, (keepsKey back).trans backNamed, changesLabel _ _ sameLabel⟩
      exact (mem_updateFirst (mirrored.nodup other)).mpr (.inr ⟨back, backMem, backNamed, rfl⟩)
  apply mirrored.replaceBoth distinct
  · rw [map_updateFirst keepsKey]
    exact mirrored.nodup a
  · rw [map_updateFirst keepsKey]
    exact mirrored.nodup b
  · exact rest a b
  · exact rest b a
  · exact edge a b
  · exact edge b a

theorem Mirrored.edges_push (namesB : key entryA = b) (namesA : key entryB = a)
    (sameLabel : label entryA = label entryB) (fresh : ¬ Adjacent key adj a b) :
    edges key (Adjacency.push adj a b entryA entryB) = insert s(a, b) (edges key adj) := by
  have pushed := mirrored.push distinct namesB namesA sameLabel fresh
  ext pair
  induction pair using Sym2.ind with
  | _ c d =>
      rw [pushed.mem_edges, Set.mem_insert_iff, mirrored.mem_edges]
      by_cases same : s(c, d) = s(a, b)
      · simp only [same, true_or, iff_true]
        rw [← pushed.mem_edges, same, pushed.mem_edges]
        exact ⟨entryA, by rw [Adjacency.push, replaceBoth_left distinct]; simp, namesB⟩
      · simp only [same, false_or]
        apply adjacent_replaceBoth distinct
        · intro entry differs
          simp only [mem_append, mem_singleton]
          exact or_iff_left fun same => differs (same ▸ namesB)
        · intro entry differs
          simp only [mem_append, mem_singleton]
          exact or_iff_left fun same => differs (same ▸ namesA)
        · exact same

theorem Mirrored.edges_erase :
    edges key (Adjacency.erase key adj a b) = edges key adj \ {s(a, b)} := by
  have erased := mirrored.erase distinct
  ext pair
  induction pair using Sym2.ind with
  | _ c d =>
      rw [erased.mem_edges, Set.mem_sdiff, Set.mem_singleton_iff, mirrored.mem_edges]
      by_cases same : s(c, d) = s(a, b)
      · simp only [same, not_true_eq_false, and_false, iff_false]
        rw [← erased.mem_edges, same, erased.mem_edges]
        rintro ⟨entry, mem, named⟩
        rw [Adjacency.erase, replaceBoth_left distinct] at mem
        exact ((mem_eraseP (mirrored.nodup a)).mp mem).2 named
      · simp only [same, not_false_eq_true, and_true]
        apply adjacent_replaceBoth distinct
        · intro entry differs
          rw [mem_eraseP (mirrored.nodup a), and_iff_left differs]
        · intro entry differs
          rw [mem_eraseP (mirrored.nodup b), and_iff_left differs]
        · exact same

theorem Mirrored.encard_push (namesB : key entryA = b) (namesA : key entryB = a)
    (sameLabel : label entryA = label entryB) (fresh : ¬ Adjacent key adj a b) :
    (edges key (Adjacency.push adj a b entryA entryB)).encard = (edges key adj).encard + 1 := by
  rw [mirrored.edges_push distinct namesB namesA sameLabel fresh, Set.encard_insert_of_notMem]
  rwa [mirrored.mem_edges]

end

theorem Mirrored.encard_erase (adjacent : Adjacent key adj a b) :
    (edges key (Adjacency.erase key adj a b)).encard + 1 = (edges key adj).encard := by
  rw [mirrored.edges_erase (mirrored.ne adjacent).symm]
  exact Set.encard_sdiff_singleton_add_one (mirrored.mem_edges.mpr adjacent)

end Edges

end Adjacency
