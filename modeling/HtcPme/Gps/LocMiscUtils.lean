import HtcPme.Gps.LocCfg

/-!
# loc_misc_utils

Trimming a string and splitting it, in place. A string stands in an array, with a zero behind it.
-/

namespace HtcPme.Gps.LocMiscUtils

open List

/-- The variables of `loc_util_trim_space`, with the index that a pointer points to. -/
structure Trim where
  memory : List Char
  writePtr : ℕ
  firstNonspace : Option ℕ
  lastNonspace : Option ℕ

def trimStep (scanPtr : ℕ) (letter : Char) (vars : Trim) : Trim :=
  let first :=
    if !isspace letter && vars.firstNonspace.isNone then some scanPtr else vars.firstNonspace
  if first.isSome then
    { memory := vars.memory.set vars.writePtr letter
      writePtr := vars.writePtr + 1
      firstNonspace := first
      lastNonspace := if isspace letter then vars.lastNonspace else some (vars.writePtr + 1) }
  else { vars with firstNonspace := first }

def trimLoop : ℕ → ℕ → Trim → Trim
  | 0, _, vars => vars
  | more + 1, scanPtr, vars =>
      let letter := vars.memory.getD scanPtr '\x00'
      if letter = '\x00' then vars else trimLoop more (scanPtr + 1) (trimStep scanPtr letter vars)

/-- `loc_util_trim_space`: the string that is left in the array. -/
def trimSpace (string : List Char) : List Char :=
  let vars := trimLoop (string.length + 1) 0 ⟨string ++ ['\x00'], 0, none, none⟩
  cString <|
    match vars.lastNonspace with
    | some last => vars.memory.set last '\x00'
    | none => vars.memory

/-- The variables of `loc_util_split_string`. The pointers are stored one behind the other. -/
structure Split where
  memory : List Char
  splitStringsPtr : List ℕ
  numSplitStrings : ℕ

def splitLoop (max : ℕ) (delimiter : Char) : ℕ → ℕ → Split → Split
  | 0, _, vars => vars
  | more + 1, index, vars =>
      let letter := vars.memory.getD index '\x00'
      if letter = delimiter ∨ letter = '\x00' then
        let cut := { vars with
          memory := vars.memory.set index '\x00', numSplitStrings := vars.numSplitStrings + 1 }
        if 0 < more ∧ cut.numSplitStrings < max then
          let next := { cut with splitStringsPtr := cut.splitStringsPtr ++ [index + 1] }
          if letter = '\x00' then next else splitLoop max delimiter more (index + 1) next
        else cut
      else splitLoop max delimiter more (index + 1) vars

/-- `raw_string_length`, which is an `int`, where the loop compares it with an index. -/
def rawStringLength (string : List Char) : ℕ := (BitVec.ofNat 32 (string.length + 1)).toInt.toNat

def splitString (string : List Char) (max : ℕ) (delimiter : Char) : Split :=
  splitLoop max delimiter (rawStringLength string) 0 ⟨string ++ ['\x00'], [0], 0⟩

def Split.pieces (split : Split) : List (List Char) :=
  split.splitStringsPtr.map fun pointer => cString (split.memory.drop pointer)

def TrimRight (string : List Char) : Prop :=
  trimSpace string = (string.dropWhile isspace).rdropWhile isspace

structure SplitRight (string : List Char) (max : ℕ) (delimiter : Char) : Prop where
  count : (splitString string max delimiter).numSplitStrings =
    1 + min (max - 1) (string.count delimiter)
  isPiece : (splitString string max delimiter).pieces.length =
    (splitString string max delimiter).numSplitStrings
  stored : (splitString string max delimiter).splitStringsPtr.length ≤ max
  /-- The part that is consumed ends at the end of the string, or at a delimiter after as many
  pieces as are allowed. -/
  join : ∃ rest,
    [delimiter].intercalate (splitString string max delimiter).pieces ++ rest = string ∧
      (rest = [] ∨ rest.head? = some delimiter ∧
        (splitString string max delimiter).numSplitStrings = max)

variable {string : List Char} {letter delimiter : Char} {max : ℕ}

theorem cString_append_zero {rest : List Char} (noZero : '\x00' ∉ string) :
    cString (string ++ '\x00' :: rest) = string := by
  rw [cString, takeWhile_append_of_pos]
  · simp
  · intro letter mem
    simpa using ne_of_mem_of_not_mem mem noZero

theorem getD_append_length (done rest : List Char) (other : Char) :
    (done ++ letter :: rest).getD done.length other = letter := by
  simp

theorem rdropWhile_cons (rest : List Char) :
    (letter :: rest).rdropWhile isspace =
      if rest.all isspace then if isspace letter then [] else [letter]
      else letter :: rest.rdropWhile isspace := by
  rw [rdropWhile, reverse_cons, dropWhile_append, rdropWhile]
  by_cases blank : rest.all isspace = true
  · have gone : rest.reverse.dropWhile isspace = [] := by
      simpa using blank
    rw [if_pos blank, gone, if_pos isEmpty_nil, dropWhile_cons]
    split <;> simp
  · have left : rest.reverse.dropWhile isspace ≠ [] := by
      simpa using blank
    rw [if_neg blank, if_neg (by simpa using left), reverse_append]
    rfl

theorem trimLoop_spaces (spaces done rest : List Char) (more write : ℕ)
    (blank : ∀ letter ∈ spaces, isspace letter = true) :
    trimLoop (spaces.length + more) done.length ⟨done ++ spaces ++ rest, write, none, none⟩ =
      trimLoop more (done ++ spaces).length ⟨done ++ spaces ++ rest, write, none, none⟩ := by
  induction spaces generalizing done with
  | nil => simp
  | cons letter spaces ih =>
      have isBlank := blank letter mem_cons_self
      have notZero : letter ≠ '\x00' := by
        rintro rfl
        exact absurd isBlank (by decide)
      have next := ih (done ++ [letter]) fun other mem => blank other (mem_cons_of_mem _ mem)
      rw [length_cons, Nat.add_right_comm, trimLoop]
      simp only [append_assoc, cons_append, nil_append] at next ⊢
      rw [getD_append_length, if_neg notZero]
      simpa [trimStep, isBlank] using next

/-- The array starts with a text, and the last letter that is not white space is behind an index. -/
def Trim.Holds (vars : Trim) (text : List Char) (last : Option ℕ) : Prop :=
  (∃ next after, vars.memory = text ++ next :: after) ∧ vars.lastNonspace = last

theorem trimLoop_kept (rest kept between : List Char) (first more : ℕ) (last : Option ℕ)
    (noZero : '\x00' ∉ rest) (room : rest.length < more) :
    (trimLoop more (kept ++ between).length
      ⟨kept ++ between ++ rest ++ ['\x00'], kept.length, some first, last⟩).Holds (kept ++ rest)
        (if rest.all isspace then last
          else some (kept.length + (rest.rdropWhile isspace).length)) := by
  induction rest generalizing kept between last more with
  | nil =>
      cases more with
      | zero => cases room
      | succ more =>
          rw [append_nil, trimLoop, getD_append_length, if_pos rfl]
          cases between with
          | nil => exact ⟨⟨'\x00', [], by simp⟩, rfl⟩
          | cons next between => exact ⟨⟨next, between ++ ['\x00'], by simp⟩, rfl⟩
  | cons letter rest ih =>
      cases more with
      | zero => cases room
      | succ more =>
          rw [mem_cons, not_or] at noZero
          have shifted : ∃ between', between'.length = between.length ∧ ∀ tail : List Char,
              (kept ++ between ++ letter :: tail).set kept.length letter =
                kept ++ [letter] ++ between' ++ tail := by
            cases between with
            | nil => exact ⟨[], by simp⟩
            | cons next between => exact ⟨between ++ [letter], by simp⟩
          rcases shifted with ⟨between', sameLength, shifted⟩
          have moved := ih (kept ++ [letter]) between' more
            (if isspace letter then last else some (kept.length + 1)) noZero.2
            (Nat.lt_of_succ_lt_succ room)
          rw [trimLoop, append_assoc _ (letter :: rest), cons_append,
            getD_append_length, if_neg (Ne.symm noZero.1)]
          simp only [trimStep, Option.isNone_some, Bool.and_false, Bool.false_eq_true, if_false,
            Option.isSome_some, if_true, shifted, length_append]
          rw [rdropWhile_cons, all_cons]
          cases wasBlank : rest.all isspace <;> cases isBlank : isspace letter <;>
            simpa [wasBlank, isBlank, sameLength, Nat.add_assoc, Nat.add_left_comm, Nat.add_comm]
              using moved

/-- Nothing is different once the first letter that is not white space is known. -/
theorem trimLoop_first {spaces rest : List Char} {more : ℕ} (isWord : isspace letter = false)
    (notZero : letter ≠ '\x00') :
    trimLoop (more + 1) spaces.length ⟨spaces ++ letter :: rest, 0, none, none⟩ =
      trimLoop (more + 1) spaces.length
        ⟨spaces ++ letter :: rest, 0, some spaces.length, none⟩ := by
  change (if getD _ _ _ = _ then _ else trimLoop _ _ (trimStep _ _ _)) =
    if getD _ _ _ = _ then _ else trimLoop _ _ (trimStep _ _ _)
  rw [getD_append_length, if_neg notZero, if_neg notZero]
  simp only [trimStep, isWord, Bool.not_false, Option.isNone_none, Bool.and_self, if_true]
  rfl

/-- The string is trimmed as the reader of configuration files takes it to be. -/
theorem trimSpace_eq (noZero : '\x00' ∉ string) : trimSpace string = locUtilTrimSpace string := by
  have isSplit := takeWhile_append_dropWhile (p := isspace) (l := string)
  have blank : ∀ letter ∈ string.takeWhile isspace, isspace letter = true :=
    fun letter mem => mem_takeWhile_imp mem
  have start := head?_dropWhile_not isspace string
  rw [trimSpace, locUtilTrimSpace]
  generalize string.takeWhile isspace = spaces at isSplit blank
  generalize string.dropWhile isspace = body at isSplit start
  subst isSplit
  have skipped := trimLoop_spaces spaces [] (body ++ ['\x00']) (body.length + 1) 0 blank
  simp only [nil_append, ← Nat.add_assoc, ← append_assoc, ← length_append,
    length_nil] at skipped
  rw [skipped]
  cases body with
  | nil =>
      rw [append_nil, trimLoop, getD_append_length, if_pos rfl]
      rw [if_pos (by simpa using blank)]
      exact cString_append_zero (by simpa using noZero)
  | cons letter rest =>
      have isWord : isspace letter = false := by
        simpa using start
      have noZeroBehind : '\x00' ∉ letter :: rest := fun mem => noZero (mem_append_right _ mem)
      have kept := trimLoop_kept (letter :: rest) [] spaces spaces.length (rest.length + 2) none
        noZeroBehind (Nat.lt_succ_self _)
      have isPrefix := rdropWhile_prefix isspace (letter :: rest)
      simp only [nil_append, length_nil] at kept
      rw [append_assoc, cons_append] at kept ⊢
      rw [length_cons, trimLoop_first isWord fun isZero =>
        noZeroBehind (isZero ▸ mem_cons_self)]
      rcases kept with ⟨⟨next, after, isMemory⟩, isLast⟩
      rcases isPrefix with ⟨cut, isCut⟩
      simp only [all_cons, isWord, Bool.false_and, Bool.false_eq_true, if_false,
        Nat.zero_add] at isLast
      simp only [all_append, all_cons, isWord, Bool.false_and, Bool.and_false,
        Bool.false_eq_true, if_false, isLast, isMemory]
      have noZeroLeft : '\x00' ∉ (letter :: rest).rdropWhile isspace :=
        fun mem => noZeroBehind (isCut ▸ mem_append_left _ mem)
      generalize (letter :: rest).rdropWhile isspace = trimmed at isCut noZeroLeft ⊢
      rw [← isCut]
      cases cut with
      | nil => simpa using cString_append_zero noZeroLeft
      | cons other cut => simpa using cString_append_zero noZeroLeft

theorem set_append_length (done rest : List Char) (other : Char) :
    (done ++ letter :: rest).set done.length other = done ++ other :: rest := by
  simp

variable {count more : ℕ} {pointers : List ℕ} {done rest : List Char}

theorem splitLoop_delimiter (notZero : delimiter ≠ '\x00') :
    splitLoop max delimiter (more + 1) done.length ⟨done ++ delimiter :: rest, pointers, count⟩ =
      if 0 < more ∧ count + 1 < max then
        splitLoop max delimiter more (done ++ ['\x00']).length
          ⟨done ++ '\x00' :: rest, pointers ++ [(done ++ ['\x00']).length], count + 1⟩
      else ⟨done ++ '\x00' :: rest, pointers, count + 1⟩ := by
  simp only [splitLoop, getD_append_length, true_or, if_true, set_append_length, if_neg notZero,
    length_append, length_singleton]

theorem splitLoop_letter (notDelimiter : letter ≠ delimiter) (notZero : letter ≠ '\x00') :
    splitLoop max delimiter (more + 1) done.length ⟨done ++ letter :: rest, pointers, count⟩ =
      splitLoop max delimiter more (done ++ [letter]).length
        ⟨done ++ letter :: rest, pointers, count⟩ := by
  simp only [splitLoop, getD_append_length, notDelimiter, notZero, or_self, if_false,
    length_append, length_singleton]

/-- What the loop does with the rest of a string, when a piece is begun: the pieces with the
delimiter between them are that piece and the rest, up to the delimiter behind the last one. -/
theorem splitLoop_pieces (rest done piece : List Char) (pointers : List ℕ) (count more : ℕ)
    (noZero : '\x00' ∉ rest) (noZeroPiece : '\x00' ∉ piece) (space : count < max)
    (reaches : more = rest.length + 1 ∨ max ≤ count + (rest.take more).count delimiter) :
    ∃ pieces behind left starts,
      splitLoop max delimiter more (done ++ piece).length
        ⟨done ++ piece ++ (rest ++ ['\x00']), pointers ++ [done.length], count⟩ =
          ⟨done ++ behind, pointers ++ starts, count + pieces.length⟩ ∧
      starts.map (fun pointer => cString ((done ++ behind).drop pointer)) = pieces ∧
      pieces.length = 1 + min (max - count - 1) (rest.count delimiter) ∧
      [delimiter].intercalate pieces ++ left = piece ++ rest ∧
      (left = [] ∨ left.head? = some delimiter ∧ count + pieces.length = max) := by
  induction rest generalizing done piece pointers count more with
  | nil =>
      have isLast : more = 1 := by
        simpa [Nat.not_le.mpr space] using reaches
      subst isLast
      refine ⟨[piece], piece ++ ['\x00'], [], [done.length], ?_, ?_, ?_, ?_, .inl rfl⟩
      · rw [splitLoop, nil_append, getD_append_length, if_pos (.inr rfl), set_append_length,
          append_assoc]
        exact if_neg fun goesOn => Nat.lt_irrefl _ goesOn.1
      · simp [cString_append_zero noZeroPiece]
      · simp
      · simp
  | cons letter rest ih =>
      rw [mem_cons, not_or] at noZero
      have notZero := Ne.symm noZero.1
      cases more with
      | zero => simp [Nat.not_le.mpr space] at reaches
      | succ more =>
          rw [cons_append]
          by_cases ends : letter = delimiter
          · subst ends
            have isPiece (behind : List Char) :
                cString ((done ++ piece ++ '\x00' :: behind).drop done.length) = piece := by
              simp [cString_append_zero noZeroPiece]
            rw [take_succ_cons, count_cons_self] at reaches
            rw [splitLoop_delimiter notZero, count_cons_self]
            split
            · rename_i goesOn
              have next := ih (done ++ piece ++ ['\x00']) [] (pointers ++ [done.length]) (count + 1)
                more noZero.2 not_mem_nil goesOn.2
                (by simpa [Nat.add_assoc, Nat.add_comm 1] using reaches)
              rcases next with
                ⟨pieces, behind, left, starts, isLoop, arePieces, length, join, isLeft⟩
              refine ⟨piece :: pieces, piece ++ '\x00' :: behind, left, done.length :: starts,
                ?_, ?_, ?_, ?_, ?_⟩
              · simpa [Nat.add_assoc, Nat.add_comm 1] using isLoop
              · have first := isPiece behind
                simp only [append_assoc, singleton_append] at first arePieces ⊢
                rw [map_cons, first, arePieces]
              · rw [length_cons, length]
                omega
              · cases pieces with
                | nil =>
                    rw [length_nil] at length
                    omega
                | cons second pieces => simpa [intercalate] using join
              · simpa [Nat.add_assoc, Nat.add_comm 1] using isLeft
            · rename_i stops
              have isMax : count + 1 = max := by
                cases more with
                | zero =>
                    simp only [take_zero, count_nil] at reaches
                    simp at reaches
                    omega
                | succ more => omega
              refine ⟨[piece], piece ++ '\x00' :: (rest ++ ['\x00']), letter :: rest, [done.length],
                ?_, ?_, ?_, ?_, .inr ⟨rfl, isMax⟩⟩
              · simp
              · simpa using isPiece (rest ++ ['\x00'])
              · rw [length_singleton]
                omega
              · simp
          · have next := ih done (piece ++ [letter]) pointers count more noZero.2
              (by simp [noZeroPiece, Ne.symm notZero]) space (by simpa [ends] using reaches)
            rw [splitLoop_letter ends notZero]
            simpa [ends] using next

theorem splitLoop_short (rest done : List Char) (pointers : List ℕ) (count more : ℕ)
    (noZero : '\x00' ∉ rest) (space : count < max) (short : more ≤ rest.length) :
    (splitLoop max delimiter more done.length
      ⟨done ++ (rest ++ ['\x00']), pointers, count⟩).numSplitStrings =
        min max (count + (rest.take more).count delimiter) := by
  induction rest generalizing done pointers count more with
  | nil =>
      rw [Nat.le_zero.mp short, take_zero, count_nil]
      exact (Nat.min_eq_right space.le).symm
  | cons letter rest ih =>
      rw [mem_cons, not_or] at noZero
      cases more with
      | zero =>
          rw [take_zero, count_nil]
          exact (Nat.min_eq_right space.le).symm
      | succ more =>
          have shorter := Nat.le_of_succ_le_succ short
          rw [cons_append, take_succ_cons]
          by_cases ends : letter = delimiter
          · subst ends
            rw [splitLoop_delimiter (Ne.symm noZero.1), count_cons_self]
            split
            · rename_i goesOn
              have next := ih (done ++ ['\x00']) (pointers ++ [(done ++ ['\x00']).length])
                (count + 1) more noZero.2 goesOn.2 shorter
              rw [append_assoc, singleton_append] at next
              omega
            · change count + 1 = _
              cases more with
              | zero =>
                  rw [take_zero, count_nil]
                  omega
              | succ more => omega
          · have next := ih (done ++ [letter]) pointers count more noZero.2 space shorter
            rw [append_assoc, singleton_append] at next
            rw [splitLoop_letter ends (Ne.symm noZero.1), next, count_cons_of_ne ends]

theorem rawStringLength_eq (short : string.length + 1 < 2 ^ 31) :
    rawStringLength string = string.length + 1 := by
  rw [rawStringLength, BitVec.toInt_ofNat', Int.bmod_eq_of_le (by omega) (by omega),
    Int.toNat_natCast]

theorem rawStringLength_le (long : 2 ^ 31 ≤ string.length + 1) :
    rawStringLength string ≤ string.length := by
  have bound : (BitVec.ofNat 32 (string.length + 1)).toInt < 2 ^ 31 := BitVec.toInt_lt
  rw [rawStringLength]
  omega

theorem splitRight_iff (noZero : '\x00' ∉ string) (positive : 0 < max) :
    SplitRight string max delimiter ↔ string.length + 1 < 2 ^ 31 ∨
      max ≤ (string.take (rawStringLength string)).count delimiter := by
  constructor
  · intro isRight
    apply or_iff_not_imp_left.mpr
    intro long
    have counted := @splitLoop_short delimiter max string [] [0] 0 _ noZero
      positive (rawStringLength_le (Nat.le_of_not_lt long))
    have fewer := (string.take_sublist (rawStringLength string)).count_le delimiter
    have isCount := isRight.count
    rw [nil_append, length_nil, Nat.zero_add] at counted
    rw [splitString, counted] at isCount
    omega
  · intro reaches
    have reaches : rawStringLength string = string.length + 1 ∨
        max ≤ 0 + (string.take (rawStringLength string)).count delimiter := by
      rw [Nat.zero_add]
      exact reaches.imp_left rawStringLength_eq
    have result := @splitLoop_pieces delimiter max string [] [] [] 0 _ noZero not_mem_nil positive
      reaches
    simp only [nil_append, length_nil, Nat.zero_add] at result
    rcases result with ⟨pieces, behind, left, starts, isLoop, arePieces, length, join, isLeft⟩
    have isSplit : splitString string max delimiter = ⟨behind, starts, pieces.length⟩ := isLoop
    have isPieces : (splitString string max delimiter).pieces = pieces := by
      rw [isSplit]
      exact arePieces
    have sameLength : starts.length = pieces.length := by
      rw [← arePieces, length_map]
    constructor
    · rw [isSplit]
      exact length
    · rw [isPieces, isSplit]
    · rw [isSplit, sameLength, length]
      omega
    · rw [isPieces, isSplit]
      exact ⟨left, join, isLeft⟩

theorem trimRight_iff (noZero : '\x00' ∉ string) :
    TrimRight string ↔ string = [] ∨ ∃ letter ∈ string, isspace letter = false := by
  rw [TrimRight, trimSpace_eq noZero, locUtilTrimSpace]
  split
  · rename_i blank
    rw [all_eq_true] at blank
    rw [dropWhile_eq_nil_iff.mpr blank, rdropWhile_nil]
    apply (or_iff_left _).symm
    rintro ⟨letter, mem, isWord⟩
    exact absurd (blank letter mem) (by simp [isWord])
  · rename_i notBlank
    simp only [all_eq_true, not_forall, Bool.not_eq_true] at notBlank
    rcases notBlank with ⟨letter, mem, isWord⟩
    exact iff_of_true rfl (.inr ⟨letter, mem, isWord⟩)

/-- A string is trimmed and split rightly if and only if it is empty or not only white space, and
its length is an `int`, or the delimiters in what an `int` takes it to be are as many as the pieces
that are allowed. -/
theorem trim_split_iff (noZero : '\x00' ∉ string) (positive : 0 < max) :
    TrimRight string ∧ SplitRight string max delimiter ↔
      (string = [] ∨ ∃ letter ∈ string, isspace letter = false) ∧
        (string.length + 1 < 2 ^ 31 ∨
          max ≤ (string.take (BitVec.ofNat 32 (string.length + 1)).toInt.toNat).count delimiter) :=
  and_congr (trimRight_iff noZero) (splitRight_iff noZero positive)

theorem trim_split_name : TrimRight "a;b ".toList ∧ SplitRight "a;b ".toList 1 ';' :=
  (trim_split_iff (by decide) (by decide)).mpr ⟨.inr ⟨'a', by decide, by decide⟩, .inl (by decide)⟩

theorem not_trimRight_blank : ¬(TrimRight [' '] ∧ SplitRight [' '] 1 ';') := by
  rintro ⟨isRight, -⟩
  exact absurd (show trimSpace [' '] = [] from isRight) (by decide)

end HtcPme.Gps.LocMiscUtils
