import Mathlib.Data.BitVec
import Mathlib.Data.Int.ModEq
import Mathlib.Tactic.Common
import Mathlib.Tactic.Ring

/-!
# One's complement sums

Words of a fixed width are added with the carry out of the width added back in. Modulo the greatest
word such a sum is the ordinary one, and the complement of a word is its negation.
-/

namespace OnesComplement

variable {width : ℕ}

def add (width sum term : ℕ) : ℕ :=
  if sum + term < 2 ^ width then sum + term else sum + term - 2 ^ width + 1

def sum (words : List (BitVec width)) : ℕ :=
  words.foldl (fun sum word => add width sum word.toNat) 0

def total (words : List (BitVec width)) : ℤ := (words.map fun word => (word.toNat : ℤ)).sum

@[simp]
theorem total_nil : total ([] : List (BitVec width)) = 0 := rfl

@[simp]
theorem total_cons (word : BitVec width) (words : List (BitVec width)) :
    total (word :: words) = word.toNat + total words := by
  simp [total]

theorem total_append (front back : List (BitVec width)) :
    total (front ++ back) = total front + total back := by
  simp [total]

theorem add_lt {sum term : ℕ} (sumFits : sum < 2 ^ width) (termFits : term < 2 ^ width) :
    add width sum term < 2 ^ width := by
  unfold add
  split <;> omega

theorem add_modEq (width sum term : ℕ) :
    (add width sum term : ℤ) ≡ sum + term [ZMOD 2 ^ width - 1] := by
  unfold add
  split_ifs with noCarry
  · push_cast
    exact Int.ModEq.refl _
  · have carry : ((sum + term - 2 ^ width + 1 : ℕ) : ℤ) =
        sum + term - (2 ^ width - 1) := by
      have fits : 2 ^ width ≤ sum + term := by omega
      push_cast [fits]
      ring
    rw [carry]
    apply Int.modEq_iff_dvd.mpr
    exact ⟨1, by ring⟩

section

variable (words : List (BitVec width))

include words

theorem foldl_add_lt {start : ℕ} (fits : start < 2 ^ width) :
    words.foldl (fun sum word => add width sum word.toNat) start < 2 ^ width := by
  induction words generalizing start with
  | nil => exact fits
  | cons word words ih => exact ih (add_lt fits word.isLt)

theorem sum_lt : sum words < 2 ^ width :=
  foldl_add_lt words (Nat.two_pow_pos width)

theorem foldl_add_modEq (start : ℕ) :
    ((words.foldl (fun sum word => add width sum word.toNat) start : ℕ) : ℤ) ≡
      start + total words [ZMOD 2 ^ width - 1] := by
  induction words generalizing start with
  | nil => simp
  | cons word words ih =>
      have rest := ih (add width start word.toNat)
      have first := (add_modEq width start word.toNat).add_right (total words)
      apply (rest.trans first).trans
      rw [total_cons, add_assoc]

theorem sum_modEq :
    (sum words : ℤ) ≡ total words [ZMOD 2 ^ width - 1] := by
  have all := foldl_add_modEq words 0
  rwa [Nat.cast_zero, zero_add] at all

end

theorem complement_modEq (word : BitVec width) :
    ((~~~word).toNat : ℤ) ≡ -word.toNat [ZMOD 2 ^ width - 1] := by
  have complement : ((~~~word).toNat : ℤ) = 2 ^ width - 1 - word.toNat := by
    rw [BitVec.toNat_not]
    have least : word.toNat ≤ 2 ^ width - 1 := by omega
    push_cast [least, Nat.one_le_two_pow]
    rfl
  rw [complement]
  apply Int.modEq_iff_dvd.mpr
  exact ⟨-1, by ring⟩

theorem total_complement_modEq (words : List (BitVec width)) :
    total (words.map (~~~·)) ≡ -total words [ZMOD 2 ^ width - 1] := by
  induction words with
  | nil => rfl
  | cons word words ih =>
      rw [List.map_cons, total_cons, total_cons, neg_add]
      exact (complement_modEq word).add ih

section Substitute

def substitute (words : List (BitVec width)) (edits : List (ℕ × BitVec width)) :
    List (BitVec width) :=
  edits.foldl (fun words edit => words.set edit.1 edit.2) words

variable {words : List (BitVec width)}

theorem total_set {pos : ℕ} {old : BitVec width} (found : words[pos]? = some old)
    (new : BitVec width) :
    total (words.set pos new) = total words + (new.toNat - old.toNat) := by
  induction words generalizing pos with
  | nil => simp at found
  | cons word words ih =>
      cases pos with
      | zero =>
          cases found
          simp only [List.set_cons_zero, total_cons]
          ring
      | succ pos =>
          have rest := ih found
          simp only [List.set_cons_succ, total_cons, rest]
          ring

variable {positions : List ℕ} {old new : List (BitVec width)}

theorem total_substitute
    (distinct : positions.Nodup) (found : positions.map (words[·]?) = old.map some)
    (sameLength : new.length = old.length) :
    total (substitute words (positions.zip new)) = total words + (total new - total old) := by
  induction positions generalizing words old new with
  | nil =>
      have noOld : old = [] := by simpa using found.symm
      have noNew : new = [] := by simpa [noOld] using sameLength
      simp [substitute, noOld, noNew]
  | cons pos positions ih =>
      cases old with
      | nil => simp at found
      | cons oldWord old =>
          cases new with
          | nil => simp at sameLength
          | cons newWord new =>
              rw [List.nodup_cons] at distinct
              simp only [List.map_cons, List.cons.injEq] at found
              have stillFound : positions.map ((words.set pos newWord)[·]?) = old.map some := by
                rw [← found.2]
                apply List.map_congr_left
                intro other isIn
                have differs : pos ≠ other := fun same => distinct.1 (same ▸ isIn)
                exact List.getElem?_set_ne differs
              have rest := ih distinct.2 stillFound (by simpa using sameLength)
              have first := total_set found.1 newWord
              simp only [total_cons]
              calc total (substitute words ((pos :: positions).zip (newWord :: new)))
                  = total (substitute (words.set pos newWord) (positions.zip new)) := rfl
                _ = _ := by
                  rw [rest, first]
                  ring

/-- A word that stands for the difference makes up for the words that are replaced. -/
theorem add_sum_modEq_substitute {delta : ℕ}
    (isDelta : (delta : ℤ) ≡ total new - total old [ZMOD 2 ^ width - 1])
    (distinct : positions.Nodup) (found : positions.map (words[·]?) = old.map some)
    (sameLength : new.length = old.length) :
    (add width (sum words) delta : ℤ) ≡ sum (substitute words (positions.zip new))
      [ZMOD 2 ^ width - 1] := by
  have added := (add_modEq width (sum words) delta).trans ((sum_modEq words).add isDelta)
  rw [← total_substitute distinct found sameLength] at added
  exact added.trans (sum_modEq _).symm

end Substitute

end OnesComplement
