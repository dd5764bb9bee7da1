import HtcPme.Foundation.Run
import HtcPme.Gps.LocCfg
import Mathlib.Data.List.Forall2

/-!
# Reading and updating a configuration

`loc_read_conf_r` counts every line that names an entry, so that repeated lines use up the count;
`loc_update_conf` begins with one less.
-/

namespace HtcPme.Gps

open Tokens LocParam List

variable {δ : Type} {floats : Floats δ} {configTable : List (LocParam δ)}

/-- An entry that some line names was written, and holds what such a line has for it. -/
def IsSet (floats : Floats δ) (lines : List (List Char)) (before after : LocParam δ) : Prop :=
  (∃ line ∈ lines, (valueIn floats before line).isSome) →
    ∃ old ∈ before.paramPtr, ∃ new ∈ after.paramPtr, old.writes < new.writes ∧
      ∃ line ∈ lines, valueIn floats before line = some new.value

def IsUntouched (floats : Floats δ) (lines : List (List Char)) (before after : LocParam δ) : Prop :=
  (∀ line ∈ lines, valueIn floats before line = none) → after.paramPtr = before.paramPtr

def lastValue (floats : Floats δ) (entry : LocParam δ) (lines : List (List Char)) :
    Option (ParamValue δ) :=
  (lines.filterMap (valueIn floats entry)).getLast?

theorem lastValue_eq_none {entry : LocParam δ} {lines : List (List Char)} :
    lastValue floats entry lines = none ↔ ∀ line ∈ lines, valueIn floats entry line = none := by
  rw [lastValue, getLast?_eq_none_iff, filterMap_eq_nil_iff]

theorem lastValue_mem {entry : LocParam δ} {lines : List (List Char)} {value : ParamValue δ}
    (isLast : lastValue floats entry lines = some value) :
    ∃ line ∈ lines, valueIn floats entry line = some value :=
  mem_filterMap.mp (mem_of_getLast? isLast)

theorem ptr_of_valueIn {entry : LocParam δ} {line : List Char}
    (names : (valueIn floats entry line).isSome) : ∃ old, entry.paramPtr = some old := by
  unfold valueIn at names
  split at names
  · simp at names
  · split at names
    · rename_i settable
      exact Option.isSome_iff_exists.mp settable.2.1
    · simp at names

theorem ptr_foldl_fillEntry (floats : Floats δ) (entry : LocParam δ) (lines : List (List Char)) :
    (lastValue floats entry lines = none ∧
        (lines.foldl (fillEntry floats) entry).paramPtr = entry.paramPtr) ∨
      ∃ old value, entry.paramPtr = some old ∧ lastValue floats entry lines = some value ∧
        ∃ writes, old.writes < writes ∧
          (lines.foldl (fillEntry floats) entry).paramPtr = some ⟨value, writes⟩ := by
  have after := foldl_write entry (lines.filterMap (valueIn floats entry))
  rw [← foldl_fillEntry] at after
  cases isLast : lastValue floats entry lines with
  | none =>
      left
      have noValues := getLast?_eq_none_iff.mp isLast
      refine ⟨rfl, ?_⟩
      rw [after, noValues]
      cases entry.paramPtr <;> rfl
  | some value =>
      right
      rcases lastValue_mem isLast with ⟨line, mem, named⟩
      rcases ptr_of_valueIn (by rw [named]; rfl) with ⟨old, isOld⟩
      have written : 0 < (lines.filterMap (valueIn floats entry)).length :=
        length_pos_of_mem (mem_filterMap.mpr ⟨line, mem, named⟩)
      have valueEq : (lines.filterMap (valueIn floats entry)).getLast? = some value := isLast
      refine ⟨old, value, isOld, rfl, _, Nat.lt_add_of_pos_right written, ?_⟩
      rw [after, isOld, valueEq]
      rfl

def filledBy (floats : Floats δ) (configTable : List (LocParam δ)) (line : List Char) : ℕ :=
  configTable.countP fun entry => (valueIn floats entry line).isSome

theorem filledBy_fillEntry (line other : List Char) :
    filledBy floats (configTable.map fun entry => fillEntry floats entry other) line =
      filledBy floats configTable line := by
  unfold filledBy
  rw [countP_map]
  apply countP_congr
  intro entry _
  simp only [Function.comp_apply, valueIn_fillEntry]

def lineCost (floats : Floats δ) (configTable : List (LocParam δ)) (line : List Char) :
    BitVec 32 :=
  BitVec.ofNat 32 (filledBy floats configTable line)

theorem lineCost_fillEntry (other : List Char) :
    lineCost floats (configTable.map fun entry => fillEntry floats entry other) =
      lineCost floats configTable := by
  funext line
  rw [lineCost, filledBy_fillEntry, lineCost]

theorem paramName_fillEntry (entry : LocParam δ) (line : List Char) :
    (fillEntry floats entry line).paramName = entry.paramName := by
  unfold fillEntry
  split <;> rfl

section Read

def filePieces (text : List Char) : List (List Char) :=
  pieces (· = '\n') (locMaxParamLine - 1) (locMaxParamLine - 1) text

theorem fgets_eq_none {text : List Char} (isNone : fgets locMaxParamLine text = none) :
    filePieces text = [] := by
  unfold fgets at isNone
  split at isNone
  · rename_i isEmpty
    rw [isEmpty_iff.mp isEmpty]
    rfl
  · cases isNone

theorem fgets_eq_some {text inputBuf rest : List Char}
    (isSome : fgets locMaxParamLine text = some (inputBuf, rest)) :
    filePieces text = inputBuf :: filePieces rest ∧ rest.length < text.length := by
  unfold fgets at isSome
  split at isSome
  · cases isSome
  · rename_i notEmpty
    have notNil : text ≠ [] := by simpa using notEmpty
    rw [Option.some.injEq] at isSome
    have first : (takePiece (· = '\n') (locMaxParamLine - 1) text).1 = inputBuf := by rw [isSome]
    have left : (takePiece (· = '\n') (locMaxParamLine - 1) text).2 = rest := by rw [isSome]
    rw [← first, ← left]
    exact ⟨takePiece_pieces notNil, takePiece_length _ notNil⟩

theorem readLoop_eq (fuel : ℕ) (read : ConfRead δ) (enough : read.confFp.length ≤ fuel) :
    (readLoop floats fuel read).configTable = read.configTable.map
      ((spend (lineCost floats read.configTable) read.numParams (filePieces read.confFp)).foldl
        (fillEntry floats)) := by
  induction fuel generalizing read with
  | zero =>
      have isNil := eq_nil_of_length_eq_zero (Nat.le_zero.mp enough)
      rw [isNil]
      simp [readLoop, filePieces, pieces, spend]
  | succ fuel ih =>
      unfold readLoop readStep
      by_cases isZero : read.numParams = 0
      · simp only [isZero, if_true]
        cases filePieces read.confFp <;> simp [spend]
      · simp only [isZero, if_false]
        cases next : fgets locMaxParamLine read.confFp with
        | none => simp [fgets_eq_none next, spend]
        | some parts =>
            rcases parts with ⟨inputBuf, rest⟩
            rcases fgets_eq_some next with ⟨split, shorter⟩
            simp only [locFillConfItem_eq]
            rw [ih _ (by dsimp only; omega), map_map]
            dsimp only
            rw [lineCost_fillEntry, split, spend, if_neg isZero]
            rfl

theorem filledBy_le_one (floats : Floats δ)
    (distinct : (configTable.map paramName).Nodup) (line : List Char) :
    filledBy floats configTable line ≤ 1 := by
  unfold filledBy
  induction configTable with
  | nil => simp
  | cons entry rest ih =>
      rw [map_cons, nodup_cons] at distinct
      rw [countP_cons]
      by_cases named : (valueIn floats entry line).isSome = true
      · have others : rest.countP (fun entry => (valueIn floats entry line).isSome) = 0 := by
          rw [countP_eq_zero]
          intro other mem otherNamed
          apply distinct.1
          have sameName : entry.paramName = other.paramName := by
            unfold valueIn at named otherNamed
            cases parts : operands line with
            | none => simp [parts] at named
            | some parts' =>
                simp only [parts] at named otherNamed
                split at named
                · rename_i isEntry
                  split at otherNamed
                  · rename_i isOther
                    exact isEntry.1.trans isOther.1.symm
                  · simp at otherNamed
                · simp at named
          rw [sameName]
          exact mem_map_of_mem mem
        simp [others, named]
      · simp only [named, Bool.false_eq_true, if_false]
        exact ih distinct.2

theorem filledBy_eq (distinct : (configTable.map paramName).Nodup) (line : List Char) :
    filledBy floats configTable line = if namesEntry floats configTable line then 1 else 0 := by
  have atMostOne := filledBy_le_one floats distinct line
  by_cases named : namesEntry floats configTable line = true
  · have positive : 0 < filledBy floats configTable line := by
      rw [filledBy, countP_pos_iff]
      simpa [namesEntry] using named
    rw [if_pos named]
    omega
  · rw [if_neg named, filledBy, countP_eq_zero]
    simpa [namesEntry] using named

def CountsOk (floats : Floats δ) (start : ConfRead δ) : Prop :=
  ∀ read, Run.Reachable (· = start)
      (fun read (_ : Unit) next => readStep floats read = some next) read →
    ∀ inputBuf rest, read.numParams ≠ 0 →
      fgets locMaxParamLine read.confFp = some (inputBuf, rest) →
      (locFillConfItem floats inputBuf read.configTable).1 ≤ read.numParams.toNat

theorem countsOk (text : List Char) (distinct : (configTable.map paramName).Nodup) :
    CountsOk floats (readStart text configTable) := by
  intro read reached inputBuf rest notZero _
  have kept : read.configTable.map paramName = configTable.map paramName := by
    apply reached.invariant fun read =>
      read.configTable.map paramName = configTable.map paramName
    · rintro _ rfl
      simp [readStart]
    · intro current _ next same stepped
      unfold readStep at stepped
      split at stepped
      · cases stepped
      · split at stepped
        · cases stepped
        · rw [locFillConfItem_eq] at stepped
          cases stepped
          rw [map_map, ← same]
          exact map_congr_left fun entry _ => paramName_fillEntry entry _
  rw [← kept] at distinct
  rw [locFillConfItem_eq]
  have atMostOne := filledBy_le_one floats distinct inputBuf
  have positive : 0 < read.numParams.toNat := by
    rcases Nat.eq_zero_or_pos read.numParams.toNat with isZero | positive
    · exact absurd (BitVec.eq_of_toNat_eq isZero) notZero
    · exact positive
  exact atMostOne.trans positive

/-- Every entry of the table is as it is to be after reading the text, and the count never goes
below zero. -/
structure ReadOk (floats : Floats δ) (text : List Char) (configTable : List (LocParam δ)) :
    Prop where
  entries : List.Forall₂
    (fun before after => IsSet floats (lines (· = '\n') text) before after ∧
      IsUntouched floats (lines (· = '\n') text) before after)
    configTable (locReadConfR floats (some text) configTable).2
  counts : CountsOk floats (readStart text configTable)

/-- The pieces of the file up to the one that is the `n`-th to name an entry, where the table has
`n` entries. -/
def piecesInTime (floats : Floats δ) (text : List Char) (configTable : List (LocParam δ)) :
    List (List Char) :=
  upTo (namesEntry floats configTable) configTable.length (filePieces text)

def FoundIn (floats : Floats δ) (all read : List (List Char)) (entry : LocParam δ) : Prop :=
  (lastValue floats entry read = none ∧ ∀ line ∈ all, valueIn floats entry line = none) ∨
    ∃ line ∈ all, valueIn floats entry line ≠ none ∧
      lastValue floats entry read = valueIn floats entry line

/-- The last of the pieces in time that names an entry has the value of a line; where there is none,
no line names the entry. -/
def FoundInTime (floats : Floats δ) (text : List Char) (configTable : List (LocParam δ)) : Prop :=
  ∀ entry ∈ configTable,
    FoundIn floats (lines (· = '\n') text) (piecesInTime floats text configTable) entry

instance [DecidableEq δ] (floats : Floats δ) (all read : List (List Char)) (entry : LocParam δ) :
    Decidable (FoundIn floats all read entry) :=
  inferInstanceAs (Decidable (_ ∨ _))

instance [DecidableEq δ] (floats : Floats δ) (text : List Char)
    (configTable : List (LocParam δ)) : Decidable (FoundInTime floats text configTable) :=
  inferInstanceAs (Decidable (∀ entry ∈ configTable, _))

theorem lineCost_eq (distinct : (configTable.map paramName).Nodup) (line : List Char) :
    lineCost floats configTable line =
      BitVec.ofNat 32 (if namesEntry floats configTable line then 1 else 0) := by
  rw [lineCost, filledBy_eq distinct]

theorem locReadConfR_eq (text : List Char)
    (distinct : (configTable.map paramName).Nodup) (fits : configTable.length < 2 ^ 32) :
    (locReadConfR floats (some text) configTable).2 =
      (readStart text configTable).configTable.map
        ((piecesInTime floats text configTable).foldl (fillEntry floats)) := by
  have cleared : ∀ line, filledBy floats (readStart text configTable).configTable line =
      filledBy floats configTable line := by
    intro line
    simp only [filledBy, readStart, countP_map]
    rfl
  have sameCost : lineCost floats (readStart text configTable).configTable =
      lineCost floats configTable := by
    funext line
    rw [lineCost, cleared, lineCost]
  unfold locReadConfR
  dsimp only
  rw [readLoop_eq text.length (readStart text configTable) (Nat.le_refl _), sameCost]
  have inTime : spend (lineCost floats configTable) (BitVec.ofNat 32 configTable.length)
      (filePieces text) = piecesInTime floats text configTable :=
    spend_eq_upTo (fun line _ => lineCost_eq distinct line) fits
  rw [← inTime]
  rfl

theorem isSet_isUntouched_iff {entry after : LocParam δ} {all read : List (List Char)}
    (isAfter : after.paramPtr = (read.foldl (fillEntry floats) entry).paramPtr) :
    (IsSet floats all entry after ∧ IsUntouched floats all entry after) ↔
      FoundIn floats all read entry := by
  rcases ptr_foldl_fillEntry floats entry read with
    ⟨noValue, same⟩ | ⟨old, value, isOld, isLast, writes, more, isNew⟩
  · rw [same] at isAfter
    simp only [FoundIn, noValue, true_and]
    constructor
    · rintro ⟨isSet, -⟩
      left
      by_contra named
      push Not at named
      rcases named with ⟨line, mem, notNone⟩
      rcases isSet ⟨line, mem, Option.isSome_iff_ne_none.mpr notNone⟩ with
        ⟨old, isOld, new, isNew, more, -⟩
      rw [isAfter, Option.mem_unique isOld isNew] at *
      exact absurd more (lt_irrefl _)
    · rintro (unnamed | ⟨line, mem, notNone, isNone⟩)
      · constructor
        · rintro ⟨line, mem, named⟩
          rw [unnamed line mem] at named
          cases named
        · exact fun _ => isAfter
      · exact absurd isNone.symm notNone
  · rw [isNew] at isAfter
    simp only [FoundIn, isLast]
    constructor
    · rintro ⟨isSet, isUntouched⟩
      right
      by_cases named : ∃ line ∈ all, (valueIn floats entry line).isSome
      · rcases isSet named with ⟨old', isOld', new, isNew', -, line, mem, found⟩
        rw [isAfter, Option.mem_some] at isNew'
        subst isNew'
        exact ⟨line, mem, by simp [found], found.symm⟩
      · have unnamed : ∀ line ∈ all, valueIn floats entry line = none := by
          intro line mem
          by_contra notNone
          exact named ⟨line, mem, Option.isSome_iff_ne_none.mpr notNone⟩
        have same := isUntouched unnamed
        rw [isAfter, isOld, Option.some.injEq] at same
        rw [← same] at more
        exact absurd more (lt_irrefl _)
    · rintro (⟨isNone, -⟩ | ⟨line, mem, -, named⟩)
      · cases isNone
      · constructor
        · exact fun _ => ⟨old, isOld, _, isAfter, more, line, mem, named.symm⟩
        · intro unnamed
          rw [unnamed line mem] at named
          cases named

theorem forall₂_map {σ τ : Type} {holds : σ → τ → Prop} {entries : List σ} {change : σ → τ} :
    List.Forall₂ holds entries (entries.map change) ↔
      ∀ entry ∈ entries, holds entry (change entry) := by
  rw [forall₂_map_right_iff, forall₂_same]

theorem readOk_iff_foundInTime (text : List Char)
    (distinct : (configTable.map paramName).Nodup) (fits : configTable.length < 2 ^ 32) :
    ReadOk floats text configTable ↔ FoundInTime floats text configTable := by
  have entries : List.Forall₂
      (fun before after => IsSet floats (lines (· = '\n') text) before after ∧
        IsUntouched floats (lines (· = '\n') text) before after)
      configTable (locReadConfR floats (some text) configTable).2 ↔
        FoundInTime floats text configTable := by
    rw [locReadConfR_eq text distinct fits]
    simp only [readStart, map_map]
    rw [forall₂_map]
    apply forall₂_congr
    intro entry _
    apply isSet_isUntouched_iff
    rw [Function.comp_apply, foldl_fillEntry, foldl_fillEntry, foldl_write, foldl_write]
    rfl
  constructor
  · exact fun readOk => entries.mp readOk.entries
  · exact fun found => ⟨entries.mpr found, countsOk text distinct⟩

theorem foundInTime_of_fits (text : List Char)
    (short : ∀ line ∈ lines (· = '\n') text, line.length < locMaxParamLine) :
    FoundInTime floats text configTable ↔
      ∀ entry ∈ configTable, (∃ line ∈ lines (· = '\n') text, valueIn floats entry line ≠ none) →
        ∃ line ∈ upTo (namesEntry floats configTable) configTable.length (lines (· = '\n') text),
          valueIn floats entry line ≠ none := by
  have samePieces : filePieces text = lines (· = '\n') text :=
    pieces_eq_lines fun line mem => Nat.le_sub_one_of_lt (short line mem)
  simp only [FoundInTime, piecesInTime, samePieces]
  apply forall₂_congr
  intro entry _
  cases isLast : lastValue floats entry (upTo (namesEntry floats configTable) configTable.length
      (lines (· = '\n') text)) with
  | none =>
      have unread := lastValue_eq_none.mp isLast
      simp only [FoundIn, isLast, true_and]
      constructor
      · rintro (unnamed | ⟨line, -, notNone, isNone⟩) ⟨other, mem, named⟩
        · exact absurd (unnamed other mem) named
        · exact absurd isNone.symm notNone
      · intro found
        left
        intro line mem
        by_contra named
        rcases found ⟨line, mem, named⟩ with ⟨other, otherMem, otherNamed⟩
        exact otherNamed (unread other otherMem)
  | some value =>
      rcases lastValue_mem isLast with ⟨line, mem, named⟩
      have inAll := upTo_sublist.subset mem
      simp only [FoundIn, isLast]
      constructor
      · exact fun _ _ => ⟨line, mem, by simp [named]⟩
      · exact fun _ => .inr ⟨line, inAll, by simp [named], named.symm⟩

def noFloats : Floats Unit := ⟨(), fun _ => ()⟩

def twoNumbers : List (LocParam Unit) :=
  [⟨['A'], some ⟨.int 0, 0⟩, none, 'n'⟩, ⟨['B'], some ⟨.int 0, 0⟩, none, 'n'⟩]

end Read

section Update

/-- The lines of a buffer that `strtok_r` finds. -/
def bufferLines (confData : List Char) : List (List Char) := tokens (· = '\n') (cString confData)

theorem updateLoop_eq (fuel : ℕ) (numParams : BitVec 32) (text : List Char)
    (configTable : List (LocParam δ)) (enough : text.length ≤ fuel) :
    updateLoop floats fuel numParams text configTable =
      (((spend (lineCost floats configTable) numParams (tokens (· = '\n') text)).length : ℤ),
        configTable.map
          ((spend (lineCost floats configTable) numParams (tokens (· = '\n') text)).foldl
            (fillEntry floats))) := by
  induction fuel generalizing numParams text configTable with
  | zero =>
      have isNil := eq_nil_of_length_eq_zero (Nat.le_zero.mp enough)
      rw [isNil, tokens_nil]
      simp [updateLoop, spend]
  | succ fuel ih =>
      unfold updateLoop
      cases first : strtok (· = '\n') text with
      | none =>
          rw [strtok_eq_none first]
          simp [spend]
      | some parts =>
          rcases parts with ⟨inputBuf, rest⟩
          rcases strtok_eq_some first with ⟨split, shorter⟩
          rw [split, spend]
          by_cases isZero : numParams = 0
          · simp [isZero]
          · simp only [isZero, if_false, locFillConfItem_eq]
            rw [ih _ _ _ (by omega), lineCost_fillEntry, map_map]
            rfl

def writesOf (entry : LocParam δ) : ℕ := (entry.paramPtr.map ParamVariable.writes).getD 0

def updated (before after : List (LocParam δ)) : ℕ :=
  (before.zip after).countP fun entry => writesOf entry.1 < writesOf entry.2

/-- Every entry that a line of the buffer names is set, and the number of entries that were updated
is returned. -/
structure UpdateOk (floats : Floats δ) (malloc : Bool) (confData : List Char)
    (configTable : List (LocParam δ)) : Prop where
  entries : List.Forall₂ (IsSet floats (bufferLines confData)) configTable
    (locUpdateConf floats malloc confData configTable).2
  count : (locUpdateConf floats malloc confData configTable).1 =
    updated configTable (locUpdateConf floats malloc confData configTable).2

/-- The lines of the buffer before which the entries that were named do not add up to one less than
the table has, modulo the range of the count. -/
def linesInTime (floats : Floats δ) (confData : List Char) (configTable : List (LocParam δ)) :
    List (List Char) :=
  spend (lineCost floats configTable) (BitVec.ofNat 32 configTable.length - 1)
    (bufferLines confData)

def NamedIn (floats : Floats δ) (lines : List (List Char)) (entry : LocParam δ) : Prop :=
  ∃ line ∈ lines, valueIn floats entry line ≠ none

instance [DecidableEq δ] (floats : Floats δ) (lines : List (List Char)) (entry : LocParam δ) :
    Decidable (NamedIn floats lines entry) :=
  inferInstanceAs (Decidable (∃ line ∈ lines, _))

/-- There is a buffer, a table and memory; every entry that a line names is named by a line in time;
and there are as many of these lines as entries that they name. -/
structure UpdatedInTime [DecidableEq δ] (floats : Floats δ) (malloc : Bool) (confData : List Char)
    (configTable : List (LocParam δ)) : Prop where
  copied : confData ≠ [] ∧ configTable ≠ [] ∧ malloc = true
  inTime : ∀ entry ∈ configTable, NamedIn floats (bufferLines confData) entry →
    NamedIn floats (linesInTime floats confData configTable) entry
  oneEach : (linesInTime floats confData configTable).length =
    configTable.countP fun entry => NamedIn floats (linesInTime floats confData configTable) entry

theorem writes_lt_iff (entry : LocParam δ) (lines : List (List Char)) :
    writesOf entry < writesOf (lines.foldl (fillEntry floats) entry) ↔
      NamedIn floats lines entry := by
  rcases ptr_foldl_fillEntry floats entry lines with
    ⟨noValue, same⟩ | ⟨old, value, isOld, isLast, writes, more, isNew⟩
  · have unnamed := lastValue_eq_none.mp noValue
    simp only [writesOf, same, lt_irrefl, NamedIn, false_iff]
    rintro ⟨line, mem, named⟩
    exact named (unnamed line mem)
  · rcases lastValue_mem isLast with ⟨line, mem, named⟩
    simp only [writesOf, isOld, isNew, Option.map_some, Option.getD_some, more, true_iff]
    exact ⟨line, mem, by simp [named]⟩

theorem isSet_iff {entry : LocParam δ} {all read : List (List Char)} (sub : read.Sublist all) :
    IsSet floats all entry (read.foldl (fillEntry floats) entry) ↔
      (NamedIn floats all entry → NamedIn floats read entry) := by
  constructor
  · rintro isSet ⟨line, mem, named⟩
    rcases isSet ⟨line, mem, Option.isSome_iff_ne_none.mpr named⟩ with
      ⟨old, isOld, new, isNew, more, -⟩
    rw [← writes_lt_iff]
    simp only [writesOf, Option.mem_def.mp isOld, Option.mem_def.mp isNew, Option.map_some,
      Option.getD_some, more]
  · rintro found ⟨line, mem, named⟩
    have written := found ⟨line, mem, Option.isSome_iff_ne_none.mp named⟩
    rcases ptr_foldl_fillEntry floats entry read with
      ⟨noValue, -⟩ | ⟨old, value, isOld, isLast, writes, more, isNew⟩
    · rcases written with ⟨other, otherMem, otherNamed⟩
      exact absurd (lastValue_eq_none.mp noValue other otherMem) otherNamed
    · rcases lastValue_mem isLast with ⟨other, otherMem, otherNamed⟩
      exact ⟨old, isOld, _, isNew, more, other, sub.subset otherMem, otherNamed⟩

theorem updated_map (change : LocParam δ → LocParam δ) :
    updated configTable (configTable.map change) =
      configTable.countP fun entry => writesOf entry < writesOf (change entry) := by
  induction configTable with
  | nil => rfl
  | cons entry rest ih =>
      simp only [updated, map_cons, zip_cons_cons, countP_cons] at ih ⊢
      rw [ih]

theorem locUpdateConf_eq {malloc : Bool} {confData : List Char}
    (copied : confData ≠ [] ∧ configTable ≠ [] ∧ malloc = true) :
    locUpdateConf floats malloc confData configTable =
      (((linesInTime floats confData configTable).length : ℤ), configTable.map
        ((linesInTime floats confData configTable).foldl (fillEntry floats))) := by
  have isCopied : confData.length ≠ 0 ∧ configTable.length ≠ 0 ∧ malloc = true := by
    simpa using copied
  rw [locUpdateConf, if_pos isCopied]
  exact updateLoop_eq _ _ _ _ (takeWhile_sublist _).length_le

/-- An update is right exactly when it comes to a line for every entry that the buffer names, and
to no others. -/
theorem updateOk_iff [DecidableEq δ] (floats : Floats δ) (malloc : Bool) (confData : List Char)
    (configTable : List (LocParam δ)) :
    UpdateOk floats malloc confData configTable ↔
      UpdatedInTime floats malloc confData configTable := by
  by_cases copied : confData ≠ [] ∧ configTable ≠ [] ∧ malloc = true
  · have entries : List.Forall₂ (IsSet floats (bufferLines confData)) configTable
        (locUpdateConf floats malloc confData configTable).2 ↔
          ∀ entry ∈ configTable, NamedIn floats (bufferLines confData) entry →
            NamedIn floats (linesInTime floats confData configTable) entry := by
      rw [locUpdateConf_eq copied, forall₂_map]
      apply forall₂_congr
      intro entry _
      exact isSet_iff spend_sublist
    have count : updated configTable (locUpdateConf floats malloc confData configTable).2 =
        configTable.countP fun entry =>
          NamedIn floats (linesInTime floats confData configTable) entry := by
      rw [locUpdateConf_eq copied, updated_map]
      simp only [writes_lt_iff]
    have returned : (locUpdateConf floats malloc confData configTable).1 =
        (linesInTime floats confData configTable).length := by
      rw [locUpdateConf_eq copied]
    constructor
    · rintro ⟨isSet, isCount⟩
      rw [returned, count] at isCount
      exact ⟨copied, entries.mp isSet, by exact_mod_cast isCount⟩
    · rintro ⟨-, inTime, oneEach⟩
      refine ⟨entries.mpr inTime, ?_⟩
      rw [returned, count, oneEach]
  · constructor
    · rintro ⟨-, isCount⟩
      have failed : locUpdateConf floats malloc confData configTable = (-1, configTable) := by
        rw [locUpdateConf, if_neg]
        simpa using copied
      rw [failed] at isCount
      dsimp only at isCount
      omega
    · rintro ⟨isCopied, -, -⟩
      exact absurd isCopied copied

/-- The last entry of a table is not set. -/
theorem not_updateOk_lastEntry :
    ¬∀ (confData : List Char) (configTable : List (LocParam Unit)), confData ≠ [] →
      configTable ≠ [] → UpdateOk noFloats true confData configTable := by
  intro claimed
  have entries := (claimed ['A', '=', '1', '\n', 'B', '=', '2'] twoNumbers (by decide)
    (by decide)).entries
  rw [locUpdateConf_eq (by decide), forall₂_map] at entries
  have inTime := (isSet_iff spend_sublist).mp
    (entries ⟨['B'], some ⟨.int 0, 0⟩, none, 'n'⟩ (by decide))
  revert inTime
  decide

end Update

end HtcPme.Gps
