import HtcPme.Foundation.ByteMemory
import Mathlib.Data.Option.Defs

/-!
# Walking items that begin with their length

Items that begin with their own length are walked with a count, of 32 bits, of the bytes that are
left.
-/

namespace HtcPme

open Memory Option

/-- The header of an item: its size, the size of the length it begins with, and where the type is.
-/
structure ItemFormat where
  header : ℕ
  lengthSize : ℕ
  typeOffset : ℕ

structure Item where
  pos : ℕ
  length : ℕ
  type : ℕ
deriving DecidableEq

def alignUp (length : ℕ) : ℕ := (length + 3) / 4 * 4

def sub32 (left taken : ℕ) : ℕ := (left + 2 ^ 32 - taken) % 2 ^ 32

theorem le_alignUp (length : ℕ) : length ≤ alignUp length := by
  unfold alignUp
  omega

theorem alignUp_of_aligned {length : ℕ} (aligned : length % 4 = 0) : alignUp length = length := by
  unfold alignUp
  omega

theorem alignUp_le {length left : ℕ} (aligned : left % 4 = 0) (within : length ≤ left) :
    alignUp length ≤ left := by
  unfold alignUp
  omega

theorem sub32_of_le {left taken : ℕ} (isWord : left < 2 ^ 32) (within : taken ≤ left) :
    sub32 left taken = left - taken := by
  unfold sub32
  omega

namespace ItemFormat

variable {σ τ : Type} (format : ItemFormat)

def walk (mem : Memory) (body : Item → ℕ → σ → Option (σ × Bool)) : ℕ → ℕ → ℕ → σ → Option σ
  | 0, _, left, state => if left < format.header then some state else none
  | rounds + 1, pos, left, state =>
      if left < format.header then some state
      else do
        let length ← mem.word pos format.lengthSize
        if length < format.header ∨ left < length then some state
        else do
          let type ← mem.word (pos + format.typeOffset) 2
          let (next, goesOn) ← body ⟨pos, length, type⟩ left state
          if goesOn then
            walk mem body rounds (pos + alignUp length) (sub32 left (alignUp length)) next
          else some next

variable (contents : ℕ → UInt8)

def lengthAt (pos : ℕ) : ℕ := littleEndian (slice contents pos format.lengthSize)

def typeAt (pos : ℕ) : ℕ := littleEndian (slice contents (pos + format.typeOffset) 2)

def itemAt (pos : ℕ) : Item := ⟨pos, format.lengthAt contents pos, format.typeAt contents pos⟩

def IsItem (pos left : ℕ) : Prop :=
  format.header ≤ format.lengthAt contents pos ∧ format.lengthAt contents pos ≤ left

instance (pos left : ℕ) : Decidable (format.IsItem contents pos left) :=
  inferInstanceAs (Decidable (_ ∧ _))

/-- The items from an address on end before `stop`: either the count is used up, or a header is
reached that is not one of an item, or an item at which the walk does not go on. -/
inductive Closed (start stop : ℕ) (bodyOk : Item → ℕ → Prop) (goesOn : Item → Prop) : ℕ → ℕ → Prop
  | short {pos left : ℕ} (isShort : left < format.header) : Closed start stop bodyOk goesOn pos left
  | noItem {pos left : ℕ} (enough : format.header ≤ left) (after : start ≤ pos)
      (before : pos + format.lengthSize ≤ stop) (noItem : ¬ format.IsItem contents pos left) :
      Closed start stop bodyOk goesOn pos left
  | last {pos left : ℕ} (enough : format.header ≤ left) (after : start ≤ pos)
      (before : pos + format.typeOffset + 2 ≤ stop) (isItem : format.IsItem contents pos left)
      (ok : bodyOk (format.itemAt contents pos) left)
      (isLast : ¬ goesOn (format.itemAt contents pos)) : Closed start stop bodyOk goesOn pos left
  | next {pos left : ℕ} (enough : format.header ≤ left) (after : start ≤ pos)
      (before : pos + format.typeOffset + 2 ≤ stop) (isItem : format.IsItem contents pos left)
      (ok : bodyOk (format.itemAt contents pos) left) (goes : goesOn (format.itemAt contents pos))
      (rest : Closed start stop bodyOk goesOn (pos + alignUp (format.lengthAt contents pos))
        (sub32 left (alignUp (format.lengthAt contents pos)))) :
      Closed start stop bodyOk goesOn pos left

variable {format contents} {start stop rounds pos left : ℕ} {bodyOk : Item → ℕ → Prop}
  {goesOn : Item → Prop} {body : Item → ℕ → σ → Option (σ × Bool)} {state : σ}

theorem walk_item (mem : Memory) (isLength : mem.word pos format.lengthSize =
      some (format.lengthAt contents pos))
    (isType : mem.word (pos + format.typeOffset) 2 = some (format.typeAt contents pos))
    (enough : format.header ≤ left) (isItem : format.IsItem contents pos left) :
    format.walk mem body (rounds + 1) pos left state =
      (body (format.itemAt contents pos) left state).bind fun (next, goes) =>
        if goes then format.walk mem body rounds (pos + alignUp (format.lengthAt contents pos))
          (sub32 left (alignUp (format.lengthAt contents pos))) next
        else some next := by
  have fits : ¬ (format.lengthAt contents pos < format.header ∨
      left < format.lengthAt contents pos) := by
    rcases isItem with ⟨isLong, isWithin⟩
    omega
  simp only [walk, if_neg (not_lt_of_ge enough), isLength, isType, if_neg fits,
    bind_eq_bind, bind_some]
  rfl

theorem walk_noItem (mem : Memory) (isLength : mem.word pos format.lengthSize =
      some (format.lengthAt contents pos)) (noItem : ¬ format.IsItem contents pos left) :
    format.walk mem body (rounds + 1) pos left state = some state := by
  have misfits : format.lengthAt contents pos < format.header ∨
      left < format.lengthAt contents pos := by
    unfold IsItem at noItem
    omega
  simp only [walk, isLength, if_pos misfits, bind_eq_bind, bind_some, ite_self]

theorem walk_short (mem : Memory) (isShort : left < format.header) :
    format.walk mem body rounds pos left state = some state := by
  cases rounds with
  | zero => exact if_pos isShort
  | succ rounds => exact if_pos isShort

def round (format : ItemFormat) (mem : Memory) (body : Item → ℕ → σ → Option (σ × Bool))
    (pos left : ℕ) (state : σ) : Option (σ ⊕ ℕ × ℕ × σ) :=
  if left < format.header then some (.inl state)
  else do
    let length ← mem.word pos format.lengthSize
    if length < format.header ∨ left < length then some (.inl state)
    else do
      let type ← mem.word (pos + format.typeOffset) 2
      let (next, goesOn) ← body ⟨pos, length, type⟩ left state
      some (if goesOn then .inr (pos + alignUp length, sub32 left (alignUp length), next)
        else .inl next)

theorem walk_succ (mem : Memory) :
    format.walk mem body (rounds + 1) pos left state =
      (format.round mem body pos left state).bind fun
        | .inl state => some state
        | .inr (pos, left, state) => format.walk mem body rounds pos left state := by
  rw [walk, round]
  split
  · rfl
  cases mem.word pos format.lengthSize with
  | none => rfl
  | some length =>
      simp only [bind_eq_bind, bind_some]
      split
      · rfl
      cases mem.word (pos + format.typeOffset) 2 with
      | none => rfl
      | some type =>
          simp only [bind_some]
          cases body ⟨pos, length, type⟩ left state with
          | none => rfl
          | some done =>
              rcases done with ⟨next, goes⟩
              cases goes with
              | false => rfl
              | true => rfl

theorem walk_more {mem : Memory} {state' : σ} {rounds' : ℕ}
    (isWalk : format.walk mem body rounds pos left state = some state') (more : rounds ≤ rounds') :
    format.walk mem body rounds' pos left state = some state' := by
  induction rounds generalizing pos left state rounds' with
  | zero =>
      rw [walk, ite_none_right_eq_some] at isWalk
      rw [walk_short _ isWalk.1, isWalk.2]
  | succ rounds ih =>
      rcases Nat.exists_eq_add_of_lt more with ⟨extra, rfl⟩
      rw [walk_succ] at isWalk ⊢
      rcases bind_eq_some_iff.mp isWalk with ⟨done, isRound, isRest⟩
      rw [isRound, bind_some]
      rcases done with last | ⟨pos, left, next⟩
      · exact isRest
      · exact ih isRest (Nat.le_add_right _ _)

theorem walk_invariant {mem : Memory} {state' : σ} (holds : σ → Prop)
    (isKept : ∀ item left state next goes, holds state → body item left state = some (next, goes) →
      holds next)
    (isWalk : format.walk mem body rounds pos left state = some state') (init : holds state) :
    holds state' := by
  induction rounds generalizing pos left state with
  | zero =>
      rw [walk, ite_none_right_eq_some] at isWalk
      rcases isWalk with ⟨-, isSame⟩
      cases isSame
      exact init
  | succ rounds ih =>
      unfold walk at isWalk
      split at isWalk
      · cases isWalk
        exact init
      rcases bind_eq_some_iff.mp isWalk with ⟨length, -, isWalk⟩
      split at isWalk
      · cases isWalk
        exact init
      rcases bind_eq_some_iff.mp isWalk with ⟨type, -, isWalk⟩
      rcases bind_eq_some_iff.mp isWalk with ⟨⟨next, goes⟩, isDone, isWalk⟩
      have kept := isKept _ _ _ _ _ init isDone
      cases goes with
      | false =>
          cases isWalk
          exact kept
      | true => exact ih isWalk kept

section Confined

variable (isFormat : 4 ≤ format.header ∧ 0 < format.lengthSize ∧
  format.lengthSize ≤ format.typeOffset + 2)

include isFormat

theorem walk_within : format.walk ((total contents).within start stop) body (rounds + 1) pos
      left state =
    if left < format.header then some state
    else if ¬ (start ≤ pos ∧ pos + format.lengthSize ≤ stop) then none
    else if ¬ format.IsItem contents pos left then some state
    else if ¬ pos + format.typeOffset + 2 ≤ stop then none
    else (body (format.itemAt contents pos) left state).bind fun (next, goes) =>
      if goes then format.walk ((total contents).within start stop) body rounds
        (pos + alignUp (format.lengthAt contents pos))
        (sub32 left (alignUp (format.lengthAt contents pos))) next
      else some next := by
  by_cases isShort : left < format.header
  · rw [if_pos isShort, walk_short _ isShort]
  rw [if_neg isShort]
  have isLength : ((total contents).within start stop).word pos format.lengthSize = _ :=
    word_within isFormat.2.1
  by_cases inside : start ≤ pos ∧ pos + format.lengthSize ≤ stop
  · rw [if_pos inside] at isLength
    rw [if_neg (not_not_intro inside)]
    by_cases isItem : format.IsItem contents pos left
    · rw [if_neg (not_not_intro isItem)]
      have isType : ((total contents).within start stop).word (pos + format.typeOffset) 2 =
          _ := word_within Nat.two_pos
      by_cases before : pos + format.typeOffset + 2 ≤ stop
      · rw [if_pos ⟨by omega, before⟩] at isType
        rw [if_neg (not_not_intro before)]
        exact walk_item _ isLength isType (not_lt.mp isShort) isItem
      · rw [if_neg (by omega)] at isType
        rw [if_pos before]
        have fits : ¬ (littleEndian (slice contents pos format.lengthSize) < format.header ∨
            left < littleEndian (slice contents pos format.lengthSize)) := by
          rcases isItem with ⟨isLong, isWithin⟩
          unfold lengthAt at isLong isWithin
          omega
        simp only [walk, if_neg isShort, isLength, isType, if_neg fits, bind_eq_bind,
          bind_some, bind_none]
    · rw [if_pos isItem]
      exact walk_noItem _ isLength isItem
  · rw [if_neg inside] at isLength
    rw [if_pos inside]
    simp only [walk, if_neg isShort, isLength, bind_eq_bind, bind_none]

/-- Items that end between the two addresses are walked to their end, with nothing read beyond. -/
theorem walk_isSome_of_closed
    (closed : format.Closed contents start stop bodyOk goesOn pos left)
    (isBody : ∀ item left state, start ≤ item.pos → item.length ≤ left → bodyOk item left →
      ∃ next goes, body item left state = some (next, goes) ∧ (goes = true → goesOn item))
    (rounded : stop ≤ pos + rounds) :
    (format.walk ((total contents).within start stop) body rounds pos left state).isSome :=
      by
  induction closed generalizing rounds state with
  | short isShort =>
      rw [walk_short _ isShort]
      rfl
  | noItem enough after before noItem =>
      cases rounds with
      | zero => omega
      | succ rounds =>
          rw [walk_within isFormat, if_neg (not_lt_of_ge enough),
            if_neg (not_not_intro ⟨after, before⟩), if_pos noItem]
          rfl
  | last enough after before isItem ok isLast =>
      cases rounds with
      | zero => omega
      | succ rounds =>
          rcases isBody _ _ state after isItem.2 ok with ⟨next, goes, isDone, mayGo⟩
          have stays : goes = false := by
            rw [Bool.eq_false_iff]
            exact fun isGoing => isLast (mayGo isGoing)
          rw [walk_within isFormat, if_neg (not_lt_of_ge enough),
            if_neg (not_not_intro ⟨after, by omega⟩), if_neg (not_not_intro isItem),
            if_neg (not_not_intro before), isDone, stays]
          rfl
  | @next pos left enough after before isItem ok goes rest ih =>
      cases rounds with
      | zero => omega
      | succ rounds =>
          rcases isBody _ _ state after isItem.2 ok with ⟨next, going, isDone, -⟩
          have advances := le_alignUp (format.lengthAt contents pos)
          have isLong := isItem.1
          rw [walk_within isFormat, if_neg (not_lt_of_ge enough),
            if_neg (not_not_intro ⟨after, by omega⟩), if_neg (not_not_intro isItem),
            if_neg (not_not_intro before), isDone]
          cases going with
          | false => rfl
          | true => exact ih (by omega)

/-- A walk that reads nothing beyond the two addresses comes to an end of the items between them. -/
theorem closed_of_walk_isSome
    (isBody : ∀ item left state next goes, start ≤ item.pos →
      item.pos + format.typeOffset + 2 ≤ stop → item.length ≤ left →
      body item left state = some (next, goes) → bodyOk item left ∧ (goesOn item ↔ goes = true))
    (isSome : (format.walk ((total contents).within start stop) body rounds pos left
      state).isSome) :
    format.Closed contents start stop bodyOk goesOn pos left := by
  induction rounds generalizing pos left state with
  | zero =>
      by_cases isShort : left < format.header
      · exact .short isShort
      · simp only [walk, if_neg isShort, isSome_none, Bool.false_eq_true] at isSome
  | succ rounds ih =>
      rw [walk_within isFormat] at isSome
      split at isSome
      · rename_i isShort
        exact .short isShort
      rename_i enough
      split at isSome
      · cases isSome
      rename_i inside
      rw [not_not] at inside
      split at isSome
      · rename_i noItem
        exact .noItem (not_lt.mp enough) inside.1 inside.2 noItem
      rename_i isItem
      rw [not_not] at isItem
      split at isSome
      · cases isSome
      rename_i before
      rw [not_not] at before
      cases isDone : body (format.itemAt contents pos) left state with
      | none =>
          rw [isDone] at isSome
          cases isSome
      | some done =>
          rcases done with ⟨next, goes⟩
          rcases isBody _ _ _ _ _ inside.1 before isItem.2 isDone with ⟨ok, isGoing⟩
          rw [isDone] at isSome
          cases goes with
          | false =>
              exact .last (not_lt.mp enough) inside.1 before isItem ok
                fun going => Bool.false_ne_true (isGoing.mp going)
          | true =>
              exact .next (not_lt.mp enough) inside.1 before isItem ok (isGoing.mpr rfl) (ih isSome)

end Confined

section Unconfined

variable {contents' : ℕ → UInt8} {body' : Item → ℕ → τ → Option (τ × Bool)} {state' : τ}

theorem walk_rel {Related : σ → τ → Prop} {pos' : ℕ}
    (agree : ∀ i, contents (pos + i) = contents' (pos' + i))
    (isBody : ∀ i length type left state state', Related state state' →
      Option.Rel (fun done done' => Related done.1 done'.1 ∧ done.2 = done'.2)
        (body ⟨pos + i, length, type⟩ left state) (body' ⟨pos' + i, length, type⟩ left state'))
    (related : Related state state') (i : ℕ) :
    Option.Rel Related
      (format.walk (total contents) body rounds (pos + i) left state)
      (format.walk (total contents') body' rounds (pos' + i) left state') := by
  have sameWord (j count : ℕ) : slice contents (pos + j) count = slice contents' (pos' + j) count
    := by
    apply slice_congr
    intro k below
    rw [Nat.add_assoc, Nat.add_assoc]
    exact agree (j + k)
  induction rounds generalizing i left state state' with
  | zero =>
      unfold walk
      split
      · exact .some related
      · exact .none
  | succ rounds ih =>
      simp only [walk, word_total, Nat.add_assoc, sameWord, bind_eq_bind,
        bind_some]
      split
      · exact .some related
      split
      · exact .some related
      have done := isBody i (littleEndian (slice contents' (pos' + i) format.lengthSize))
        (littleEndian (slice contents' (pos' + (i + format.typeOffset)) 2)) left state state'
          related
      generalize body _ left state = first at done
      generalize body' _ left state' = second at done
      cases done with
      | none => exact .none
      | @some done done' both =>
          rcases done with ⟨next, goes⟩
          rcases done' with ⟨next', goes'⟩
          rcases both with ⟨nextRelated, same⟩
          cases same
          simp only [bind_some]
          split
          · exact ih nextRelated _
          · exact .some nextRelated

theorem walk_alone (isRound : 0 < rounds) (enough : format.header ≤ left)
    (isItem : format.IsItem contents pos left)
    (isShort : sub32 left (alignUp (format.lengthAt contents pos)) < format.header) :
    format.walk (total contents) body rounds pos left state =
      (body (format.itemAt contents pos) left state).map Prod.fst := by
  cases rounds with
  | zero => exact absurd isRound (lt_irrefl 0)
  | succ rounds =>
      rw [walk_item _ word_total word_total enough isItem]
      cases body (format.itemAt contents pos) left state with
      | none => rfl
      | some done =>
          rcases done with ⟨next, goes⟩
          cases goes with
          | false => rfl
          | true => exact walk_short _ isShort

theorem walk_total_isSome (isFormat : 4 ≤ format.header)
    (isBody : ∀ item left state, (body item left state).isSome) (isWord : left < 2 ^ 32)
    (aligned : left % 4 = 0) (rounded : left ≤ 4 * rounds) :
    (format.walk (total contents) body rounds pos left state).isSome := by
  induction rounds generalizing pos left state with
  | zero =>
      rw [walk_short _ (by omega)]
      rfl
  | succ rounds ih =>
      by_cases isShort : left < format.header
      · rw [walk_short _ isShort]
        rfl
      · by_cases isItem : format.IsItem contents pos left
        · rw [walk_item _ word_total word_total (not_lt.mp isShort) isItem]
          rcases isSome_iff_exists.mp (isBody (format.itemAt contents pos) left state) with
            ⟨⟨next, goes⟩, isDone⟩
          have isLong := isItem.1
          have advances := le_alignUp (format.lengthAt contents pos)
          have within := alignUp_le aligned isItem.2
          have isAligned : alignUp (format.lengthAt contents pos) % 4 = 0 := Nat.mul_mod_left _ _
          rw [isDone, bind_some, sub32_of_le isWord within]
          cases goes with
          | false => rfl
          | true => exact ih (by omega) (by omega) (by omega)
        · rw [walk_noItem _ word_total isItem]
          rfl

end Unconfined

end ItemFormat

end HtcPme
