import HtcPme.Foundation.Tokens
import Mathlib.Algebra.Group.Int.Defs
import Mathlib.Data.List.DropRight

/-!
# loc_cfg

The reader of configuration files: every entry of a table whose name stands before the `=` of a line
is given the value behind it. A variable keeps how often it was written. Floating-point numbers are
those that `atof` yields.
-/

namespace HtcPme.Gps

open Tokens List

inductive ParamValue (δ : Type) where
  | string (text : List Char)
  | int (value : BitVec 32)
  | double (value : δ)
deriving DecidableEq

structure ParamVariable (δ : Type) where
  value : ParamValue δ
  writes : ℕ
deriving DecidableEq

/-- `loc_param_s_type`. The pointers are given by what they point to. -/
structure LocParam (δ : Type) where
  paramName : List Char
  paramPtr : Option (ParamVariable δ)
  paramSet : Option ℕ
  paramType : Char
deriving DecidableEq

structure LocParamV (δ : Type) where
  paramName : List Char
  paramStrValue : List Char
  paramIntValue : BitVec 32
  paramDoubleValue : δ

structure Floats (δ : Type) where
  zero : δ
  atof : List Char → δ

def locMaxParamString : ℕ := 80

def locMaxParamLine : ℕ := 160

def cString (buffer : List Char) : List Char := buffer.takeWhile (· ≠ '\x00')

def isspace (letter : Char) : Bool := letter = ' ' ∨ ('\t' ≤ letter ∧ letter ≤ '\r')

/-- `loc_util_trim_space`. A string of spaces only stays as it is. -/
def locUtilTrimSpace (string : List Char) : List Char :=
  if string.all isspace then string else (string.dropWhile isspace).rdropWhile isspace

def digitValue (letter : Char) : ℕ :=
  if '0' ≤ letter ∧ letter ≤ '9' then letter.toNat - '0'.toNat
  else if 'a' ≤ letter.toLower ∧ letter.toLower ≤ 'z' then letter.toLower.toNat - 'a'.toNat + 10
  else 36

def strtol (string : List Char) (base : ℕ) : ℤ :=
  let start := string.dropWhile isspace
  let negative := start.head? = some '-'
  let unsigned := if negative ∨ start.head? = some '+' then start.tail else start
  let digits :=
    match unsigned with
    | '0' :: mark :: digit :: rest =>
        if base = 16 ∧ mark.toLower = 'x' ∧ digitValue digit < base then digit :: rest
        else unsigned
    | _ => unsigned
  let value := (digits.takeWhile (digitValue · < base)).foldl
    (fun value digit => value * base + digitValue digit) 0
  if negative then max (-(value : ℤ)) (-2 ^ 63) else min (value : ℤ) (2 ^ 63 - 1)

def atoi (string : List Char) : BitVec 32 := BitVec.ofInt 32 (strtol string 10)

namespace LocParam

variable {δ : Type} (configEntry : LocParam δ) (configValue : LocParamV δ)

def write (value : ParamValue δ) : LocParam δ :=
  { configEntry with
    paramPtr := configEntry.paramPtr.map fun target =>
      { value := value, writes := target.writes + 1 }
    paramSet := configEntry.paramSet.map fun _ => 1 }

def locSetConfigEntry : ℤ × LocParam δ :=
  if configEntry.paramName = configValue.paramName ∧ configEntry.paramPtr.isSome then
    match configEntry.paramType with
    | 's' =>
        if configValue.paramStrValue = ['N', 'U', 'L', 'L'] then (0, configEntry.write (.string []))
        else (0, configEntry.write (.string (configValue.paramStrValue.take locMaxParamString)))
    | 'n' => (0, configEntry.write (.int configValue.paramIntValue))
    | 'f' => (0, configEntry.write (.double configValue.paramDoubleValue))
    | _ => (-1, configEntry)
  else (-1, configEntry)

end LocParam

section Fill

variable {δ : Type} (floats : Floats δ)

def operands (inputBuf : List Char) : Option (List Char × List Char) := do
  let (paramName, lasts) ← strtok (· = '=') (cString inputBuf)
  let (paramStrValue, _) ← strtok (· = '=') lasts
  some (locUtilTrimSpace paramName, locUtilTrimSpace paramStrValue)

def configValueOf (paramName paramStrValue : List Char) : LocParamV δ :=
  match paramStrValue with
  | '0' :: mark :: digit :: rest =>
      if mark.toLower = 'x' then
        { paramName := paramName, paramStrValue := paramStrValue
          paramIntValue := BitVec.ofInt 32 (strtol (digit :: rest) 16)
          paramDoubleValue := floats.zero }
      else
        { paramName := paramName, paramStrValue := paramStrValue
          paramIntValue := atoi paramStrValue, paramDoubleValue := floats.atof paramStrValue }
  | _ =>
      { paramName := paramName, paramStrValue := paramStrValue
        paramIntValue := atoi paramStrValue, paramDoubleValue := floats.atof paramStrValue }

/-- `loc_fill_conf_item`, with the number of entries that it filled. -/
def locFillConfItem (inputBuf : List Char) (configTable : List (LocParam δ)) :
    ℕ × List (LocParam δ) :=
  match operands inputBuf with
  | none => (0, configTable)
  | some (paramName, paramStrValue) =>
      let configValue := configValueOf floats paramName paramStrValue
      let filled := configTable.map (·.locSetConfigEntry configValue)
      (filled.countP (·.1 = 0), filled.map Prod.snd)

def LocParam.Settable (entry : LocParam δ) : Prop :=
  entry.paramPtr.isSome = true ∧ entry.paramType ∈ ['s', 'n', 'f']

instance (entry : LocParam δ) : Decidable entry.Settable :=
  inferInstanceAs (Decidable (_ ∧ _))

def LocParam.stored (entry : LocParam δ) (configValue : LocParamV δ) : ParamValue δ :=
  if entry.paramType = 's' then
    .string (if configValue.paramStrValue = ['N', 'U', 'L', 'L'] then []
      else configValue.paramStrValue.take locMaxParamString)
  else if entry.paramType = 'n' then .int configValue.paramIntValue
  else .double configValue.paramDoubleValue

/-- The value that a line `name = value` has for an entry of this name. -/
def valueIn (entry : LocParam δ) (line : List Char) : Option (ParamValue δ) :=
  match operands line with
  | none => none
  | some (paramName, paramStrValue) =>
      if entry.paramName = paramName ∧ entry.Settable then
        some (entry.stored (configValueOf floats paramName paramStrValue))
      else none

def fillEntry (entry : LocParam δ) (line : List Char) : LocParam δ :=
  match valueIn floats entry line with
  | none => entry
  | some value => entry.write value

def namesEntry (configTable : List (LocParam δ)) (line : List Char) : Bool :=
  configTable.any fun entry => (valueIn floats entry line).isSome

variable {floats} {entry : LocParam δ} {configTable : List (LocParam δ)} {line : List Char}

theorem locSetConfigEntry_eq (configValue : LocParamV δ) :
    entry.locSetConfigEntry configValue =
      if entry.paramName = configValue.paramName ∧ entry.Settable then
        (0, entry.write (entry.stored configValue))
      else (-1, entry) := by
  unfold LocParam.locSetConfigEntry LocParam.Settable LocParam.stored
  by_cases sameName : entry.paramName = configValue.paramName ∧ entry.paramPtr.isSome = true
  · rcases sameName with ⟨sameName, isSome⟩
    simp only [sameName, isSome, and_self, if_true, true_and]
    split
    · rename_i isString
      simp only [isString]
      split <;> simp_all
    · rename_i isInt
      simp [isInt]
    · rename_i isDouble
      simp [isDouble]
    · rename_i notString notInt notDouble
      have notSettable : entry.paramType ∉ ['s', 'n', 'f'] := by
        simp only [mem_cons, not_mem_nil, or_false, not_or]
        exact ⟨notString, notInt, notDouble⟩
      rw [if_neg notSettable]
  · have notBoth : ¬(entry.paramName = configValue.paramName ∧ entry.paramPtr.isSome = true ∧
        entry.paramType ∈ ['s', 'n', 'f']) := fun both => sameName ⟨both.1, both.2.1⟩
    rw [if_neg sameName, if_neg notBoth]

theorem configValueOf_name (paramName paramStrValue : List Char) :
    (configValueOf floats paramName paramStrValue).paramName = paramName := by
  unfold configValueOf
  split
  · split <;> rfl
  · rfl

theorem locFillConfItem_eq : locFillConfItem floats line configTable =
    (configTable.countP fun entry => (valueIn floats entry line).isSome,
      configTable.map fun entry => fillEntry floats entry line) := by
  unfold locFillConfItem fillEntry valueIn
  cases operands line with
  | none => simp
  | some parts =>
      simp only [locSetConfigEntry_eq, configValueOf_name, countP_map, map_map]
      congr 1
      · apply countP_congr
        intro entry _
        dsimp only [Function.comp_apply]
        split <;> simp
      · apply map_congr_left
        intro entry _
        dsimp only [Function.comp_apply]
        split <;> simp

theorem settable_write (value : ParamValue δ) : (entry.write value).Settable ↔ entry.Settable := by
  unfold LocParam.Settable LocParam.write
  rw [Option.isSome_map]

theorem valueIn_write (value : ParamValue δ) :
    valueIn floats (entry.write value) line = valueIn floats entry line := by
  unfold valueIn
  cases operands line with
  | none => rfl
  | some parts =>
      simp only [settable_write]
      rfl

theorem valueIn_fillEntry (other : List Char) :
    valueIn floats (fillEntry floats entry other) line = valueIn floats entry line := by
  unfold fillEntry
  split
  · rfl
  · exact valueIn_write _

theorem foldl_fillEntry (lines : List (List Char)) :
    lines.foldl (fillEntry floats) entry =
      (lines.filterMap (valueIn floats entry)).foldl LocParam.write entry := by
  induction lines generalizing entry with
  | nil => rfl
  | cons line rest ih =>
      have sameValues : valueIn floats (fillEntry floats entry line) = valueIn floats entry := by
        funext later
        exact valueIn_fillEntry line
      rw [foldl_cons, ih, sameValues]
      cases written : valueIn floats entry line with
      | none => rw [filterMap_cons_none written, fillEntry, written]
      | some value => rw [filterMap_cons_some written, fillEntry, written, foldl_cons]

theorem foldl_write (entry : LocParam δ) (values : List (ParamValue δ)) :
    (values.foldl LocParam.write entry).paramPtr = entry.paramPtr.map fun target =>
      { value := values.getLast?.getD target.value, writes := target.writes + values.length } := by
  induction values generalizing entry with
  | nil => simp
  | cons value rest ih =>
      rw [foldl_cons, ih]
      cases entryPtr : entry.paramPtr with
      | none => simp [LocParam.write, entryPtr]
      | some target =>
          simp only [LocParam.write, entryPtr, Option.map_some, getLast?_cons,
            length_cons, Option.some.injEq, ParamVariable.mk.injEq]
          refine ⟨rfl, ?_⟩
          omega

variable (floats)

structure ConfRead (δ : Type) where
  confFp : List Char
  numParams : BitVec 32
  configTable : List (LocParam δ)

def fgets (size : ℕ) (stream : List Char) : Option (List Char × List Char) :=
  if stream.isEmpty then none else some (takePiece (· = '\n') (size - 1) stream)

/-- One iteration of the loop of `loc_read_conf_r`; there is none when it ends. -/
def readStep (read : ConfRead δ) : Option (ConfRead δ) :=
  if read.numParams = 0 then none
  else
    match fgets locMaxParamLine read.confFp with
    | none => none
    | some (inputBuf, confFp) =>
        let (filled, configTable) := locFillConfItem floats inputBuf read.configTable
        some ⟨confFp, read.numParams - BitVec.ofNat 32 filled, configTable⟩

/-- The loop of `loc_read_conf_r`, for at most `fuel` iterations. -/
def readLoop : ℕ → ConfRead δ → ConfRead δ
  | 0, read => read
  | fuel + 1, read =>
      match readStep floats read with
      | none => read
      | some next => readLoop fuel next

/-- The loop of `loc_read_conf_r` begins with all validity bits cleared. -/
def readStart (confFp : List Char) (configTable : List (LocParam δ)) : ConfRead δ :=
  { confFp := confFp
    numParams := BitVec.ofNat 32 configTable.length
    configTable := configTable.map fun entry =>
      { entry with paramSet := entry.paramSet.map fun _ => 0 } }

def locReadConfR (confFp : Option (List Char)) (configTable : List (LocParam δ)) :
    ℤ × List (LocParam δ) :=
  match confFp with
  | none => (-1, configTable)
  | some confFp =>
      (0, (readLoop floats confFp.length (readStart confFp configTable)).configTable)

/-- The loop of `loc_update_conf`, for at most `fuel` lines, from `strtok_r` on the text that is
left: the number of lines it came to. -/
def updateLoop : ℕ → BitVec 32 → List Char → List (LocParam δ) → ℤ × List (LocParam δ)
  | 0, _, _, configTable => (0, configTable)
  | fuel + 1, numParams, saveptr, configTable =>
      match strtok (· = '\n') saveptr with
      | none => (0, configTable)
      | some (inputBuf, saveptr) =>
          if numParams = 0 then (0, configTable)
          else
            let (filled, configTable) := locFillConfItem floats inputBuf configTable
            let (ret, configTable) :=
              updateLoop fuel (numParams - BitVec.ofNat 32 filled) saveptr configTable
            (ret + 1, configTable)

/-- `loc_update_conf` for a buffer of `length` bytes, with what it returns; `malloc` says whether
there is memory for a copy. -/
def locUpdateConf (malloc : Bool) (confData : List Char) (configTable : List (LocParam δ)) :
    ℤ × List (LocParam δ) :=
  if confData.length ≠ 0 ∧ configTable.length ≠ 0 ∧ malloc then
    updateLoop floats confData.length (BitVec.ofNat 32 configTable.length - 1) (cString confData)
      configTable
  else (-1, configTable)

end Fill

end HtcPme.Gps
