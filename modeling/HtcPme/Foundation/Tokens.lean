import Mathlib.Algebra.GroupWithZero.Nat
import Mathlib.Data.List.TakeWhile
import Mathlib.Tactic.Common

/-!
# Cutting texts

A text is cut into tokens at delimiters, into lines behind each end of line, and into the pieces
that a buffer of bounded size holds, which are the lines if these fit.
-/

namespace Tokens

open List

variable {α : Type*}

section Delim

variable (isDelim : α → Bool)

def tokens (text : List α) : List (List α) :=
  (text.splitOnP isDelim).filter fun part => !part.isEmpty

def strtok (text : List α) : Option (List α × List α) :=
  let start := text.dropWhile isDelim
  if start.isEmpty then none
  else some (start.takeWhile (!isDelim ·), (start.dropWhile (!isDelim ·)).tail)

variable {isDelim} {text token rest : List α} {delim : α}

theorem tokens_nil : tokens isDelim [] = [] := by
  simp [tokens]

theorem tokens_cons_delim (ends : isDelim delim = true) :
    tokens isDelim (delim :: rest) = tokens isDelim rest := by
  simp [tokens, splitOnP_cons_eq_if_modifyHead, ends]

theorem tokens_dropWhile : tokens isDelim (text.dropWhile isDelim) = tokens isDelim text := by
  induction text with
  | nil => rfl
  | cons first rest ih =>
      rw [dropWhile_cons]
      split
      · rename_i ends
        rw [ih, tokens_cons_delim ends]
      · rfl

theorem tokens_word (notEmpty : token ≠ []) (noDelim : ∀ letter ∈ token, isDelim letter = false) :
    tokens isDelim token = [token] := by
  simp [tokens, splitOnP_eq_singleton noDelim, notEmpty]

theorem tokens_word_append (notEmpty : token ≠ [])
    (noDelim : ∀ letter ∈ token, isDelim letter = false) (ends : isDelim delim = true) :
    tokens isDelim (token ++ delim :: rest) = token :: tokens isDelim rest := by
  simp [tokens, splitOnP_append_cons_of_forall_mem noDelim delim ends, notEmpty]

theorem strtok_eq_none (isNone : strtok isDelim text = none) : tokens isDelim text = [] := by
  simp only [strtok] at isNone
  split at isNone
  · rename_i noStart
    rw [← tokens_dropWhile, isEmpty_iff.mp noStart, tokens_nil]
  · cases isNone

theorem strtok_eq_some (isSome : strtok isDelim text = some (token, rest)) :
    tokens isDelim text = token :: tokens isDelim rest ∧ rest.length < text.length := by
  simp only [strtok] at isSome
  split at isSome
  · cases isSome
  · rename_i notEmpty
    cases isSome
    have shorter := (text.dropWhile_sublist isDelim).length_le
    have startHead : ∀ first ∈ (text.dropWhile isDelim).head?, isDelim first = false := by
      intro first isFirst
      have kept := head?_dropWhile_not isDelim text
      rw [Option.mem_def.mp isFirst] at kept
      simpa using kept
    rw [← tokens_dropWhile]
    generalize text.dropWhile isDelim = start at notEmpty shorter startHead ⊢
    cases start with
    | nil => simp at notEmpty
    | cons first more =>
        have isWord : isDelim first = false := startHead first rfl
        have split := takeWhile_append_dropWhile (p := (!isDelim ·)) (l := first :: more)
        have noDelim : ∀ letter ∈ (first :: more).takeWhile (!isDelim ·),
            isDelim letter = false := by
          intro letter mem
          simpa using mem_takeWhile_imp mem
        have tokenNotEmpty : (first :: more).takeWhile (!isDelim ·) ≠ [] := by
          simp [isWord]
        cases behind : (first :: more).dropWhile (!isDelim ·) with
        | nil =>
            rw [behind, append_nil] at split
            rw [tail_nil, tokens_nil, split]
            rw [split] at noDelim tokenNotEmpty
            refine ⟨tokens_word tokenNotEmpty noDelim, ?_⟩
            rw [length_nil]
            exact Nat.lt_of_lt_of_le (Nat.succ_pos _) shorter
        | cons delim rest =>
            have ends : isDelim delim = true := by
              have kept := head?_dropWhile_not (!isDelim ·) (first :: more)
              rw [behind] at kept
              simpa using kept
            rw [behind] at split
            constructor
            · rw [tail_cons, ← tokens_word_append tokenNotEmpty noDelim ends, split]
            · have parts := congrArg length split
              simp only [length_append, length_cons] at parts shorter
              rw [tail_cons]
              omega

end Delim

section Lines

variable (isEnd : α → Bool)

def consHead (letter : α) : List (List α) → List (List α)
  | [] => [[letter]]
  | part :: parts => (letter :: part) :: parts

def lines : List α → List (List α)
  | [] => []
  | letter :: rest => if isEnd letter then [letter] :: lines rest else consHead letter (lines rest)

/-- The pieces of at most `size` letters, `room` of which are left for the first, that end where
a line does. -/
def pieces (size : ℕ) : ℕ → List α → List (List α)
  | _, [] => []
  | room, letter :: rest =>
      if isEnd letter ∨ room ≤ 1 then [letter] :: pieces size size rest
      else consHead letter (pieces size (room - 1) rest)

def takePiece : ℕ → List α → List α × List α
  | 0, text => ([], text)
  | _ + 1, [] => ([], [])
  | room + 1, letter :: rest =>
      if isEnd letter then ([letter], rest)
      else (letter :: (takePiece room rest).1, (takePiece room rest).2)

variable {isEnd} {text : List α} {size room : ℕ}

theorem takePiece_pieces (notEmpty : text ≠ []) :
    pieces isEnd size (room + 1) text =
      (takePiece isEnd (room + 1) text).1 ::
        pieces isEnd size size (takePiece isEnd (room + 1) text).2 := by
  induction text generalizing room with
  | nil => exact absurd rfl notEmpty
  | cons letter rest ih =>
      simp only [pieces, takePiece]
      by_cases ends : isEnd letter = true
      · simp [ends]
      · cases room with
        | zero => simp [ends, takePiece]
        | succ room =>
            have more : ¬room + 1 + 1 ≤ 1 := by omega
            simp only [ends, more, Bool.false_eq_true, or_self, if_false, Nat.add_sub_cancel]
            cases rest with
            | nil => simp [pieces, takePiece, consHead]
            | cons next rest =>
                rw [ih (by simp)]
                rfl

theorem takePiece_length (room : ℕ) (notEmpty : text ≠ []) :
    (takePiece isEnd (room + 1) text).2.length < text.length := by
  induction text generalizing room with
  | nil => exact absurd rfl notEmpty
  | cons letter rest ih =>
      simp only [takePiece, length_cons]
      split
      · exact Nat.lt_succ_self _
      · cases room with
        | zero => exact Nat.lt_succ_self _
        | succ room =>
            cases rest with
            | nil => exact Nat.succ_pos _
            | cons next rest =>
                have shorter := ih room (by simp)
                exact Nat.lt_succ_of_lt shorter

theorem consHead_ne_nil (letter : α) (parts : List (List α)) : consHead letter parts ≠ [] := by
  cases parts <;> simp [consHead]

theorem lines_eq_nil (isNil : lines isEnd text = []) : text = [] := by
  cases text with
  | nil => rfl
  | cons letter rest =>
      simp only [lines] at isNil
      split at isNil
      · cases isNil
      · exact absurd isNil (consHead_ne_nil letter _)

theorem length_pos_of_mem_lines {line : List α} (mem : line ∈ lines isEnd text) :
    0 < line.length := by
  induction text with
  | nil => simp [lines] at mem
  | cons letter rest ih =>
      simp only [lines] at mem
      split at mem
      · rcases mem_cons.mp mem with rfl | later
        · exact Nat.one_pos
        · exact ih later
      · cases restLines : lines isEnd rest with
        | nil =>
            rw [restLines, consHead, mem_singleton] at mem
            rw [mem]
            exact Nat.one_pos
        | cons first more =>
            rw [restLines, consHead] at mem
            rcases mem_cons.mp mem with rfl | later
            · exact Nat.succ_pos _
            · exact ih (restLines ▸ mem_cons_of_mem _ later)

theorem pieces_eq_lines_of_head (first : ∀ line ∈ (lines isEnd text).head?, line.length ≤ room)
    (others : ∀ line ∈ (lines isEnd text).tail, line.length ≤ size) :
    pieces isEnd size room text = lines isEnd text := by
  induction text generalizing room with
  | nil => rfl
  | cons letter rest ih =>
      by_cases ends : isEnd letter = true
      · simp only [lines, ends, if_true, tail_cons] at others
        simp only [pieces, lines, ends, true_or, if_true, cons.injEq, true_and]
        apply ih
        · intro line mem
          exact others line (mem_of_mem_head? mem)
        · intro line mem
          exact others line (mem_of_mem_tail mem)
      · simp only [lines, ends, if_false, Bool.false_eq_true] at first others
        cases restLines : lines isEnd rest with
        | nil =>
            have noRest := lines_eq_nil restLines
            subst noRest
            by_cases full : room ≤ 1 <;> simp [pieces, lines, ends, full, consHead]
        | cons line more =>
            simp only [restLines, consHead, head?_cons, Option.mem_some,
              forall_eq'] at first
            simp only [restLines, consHead, tail_cons] at others
            have fits : line.length + 1 ≤ room := by simpa using first
            have notFull : ¬room ≤ 1 := by
              have positive := length_pos_of_mem_lines (restLines ▸ mem_cons_self)
              omega
            simp only [pieces, lines, ends, notFull, Bool.false_eq_true, or_self, if_false]
            rw [ih]
            · intro other mem
              simp only [restLines, head?_cons, Option.mem_some] at mem
              subst mem
              omega
            · simpa [restLines] using others

theorem pieces_eq_lines (fits : ∀ line ∈ lines isEnd text, line.length ≤ size) :
    pieces isEnd size size text = lines isEnd text :=
  pieces_eq_lines_of_head (fun line mem => fits line (mem_of_mem_head? mem))
    fun line mem => fits line (mem_of_mem_tail mem)

end Lines

section Budget

variable {w : ℕ}

/-- The elements up to the `n`-th that counts. -/
def upTo (counts : α → Bool) : ℕ → List α → List α
  | 0, _ => []
  | _ + 1, [] => []
  | left + 1, element :: rest =>
      element :: upTo counts (if counts element then left else left + 1) rest

/-- The elements that a reader takes whose budget is a machine number and is tested for zero. -/
def spend (cost : α → BitVec w) : BitVec w → List α → List α
  | _, [] => []
  | left, element :: rest =>
      if left = 0 then [] else element :: spend cost (left - cost element) rest

variable {counts : α → Bool} {cost : α → BitVec w} {elements : List α} {left : ℕ}

theorem upTo_sublist : (upTo counts left elements).Sublist elements := by
  induction elements generalizing left with
  | nil => cases left <;> simp [upTo]
  | cons element rest ih =>
      cases left with
      | zero => simp [upTo]
      | succ left => exact ih.cons_cons element

theorem spend_sublist {left : BitVec w} : (spend cost left elements).Sublist elements := by
  induction elements generalizing left with
  | nil => simp [spend]
  | cons element rest ih =>
      simp only [spend]
      split
      · exact nil_sublist _
      · exact ih.cons_cons element

/-- Where each element costs at most one, the budget counts down to zero and not beyond. -/
theorem spend_eq_upTo (unit : ∀ element ∈ elements,
      cost element = BitVec.ofNat w (if counts element then 1 else 0)) (fits : left < 2 ^ w) :
    spend cost (BitVec.ofNat w left) elements = upTo counts left elements := by
  induction elements generalizing left with
  | nil => cases left <;> simp [spend, upTo]
  | cons element rest ih =>
      have unitRest := fun later mem => unit later (mem_cons_of_mem _ mem)
      cases left with
      | zero => simp [spend, upTo]
      | succ left =>
          have notZero : BitVec.ofNat w (left + 1) ≠ 0 := by
            intro isZero
            have same := congrArg BitVec.toNat isZero
            rw [BitVec.toNat_ofNat, Nat.mod_eq_of_lt fits] at same
            simp at same
          simp only [spend, notZero, if_false, upTo, cons.injEq, true_and]
          rw [unit element mem_cons_self]
          by_cases counted : counts element = true
          · have less : BitVec.ofNat w (left + 1) - BitVec.ofNat w 1 = BitVec.ofNat w left := by
              rw [BitVec.ofNat_add]
              exact BitVec.add_sub_cancel _ _
            simp only [counted, if_true, less]
            exact ih unitRest (by omega)
          · have same : BitVec.ofNat w (left + 1) - BitVec.ofNat w 0 = BitVec.ofNat w (left + 1) :=
              BitVec.sub_zero _
            simp only [counted, if_false, Bool.false_eq_true, same]
            exact ih unitRest fits

end Budget

end Tokens
