import Mathlib.Data.List.Infix
import Mathlib.Data.List.TakeWhile
import Mathlib.Tactic.Common

/-!
# The fields of the XTRA user agent

Each field is encoded in the buffer that it is read into, so that it has none of the characters that
separate the fields.
-/

namespace HtcPme.Gps

open List

def hexValue (ch : UInt8) : Option UInt8 :=
  if 0x30 ≤ ch ∧ ch ≤ 0x39 then some (ch - 0x30)
  else if 0x41 ≤ ch ∧ ch ≤ 0x46 then some (ch - 0x37)
  else if 0x61 ≤ ch ∧ ch ≤ 0x66 then some (ch - 0x57)
  else none

/-- What a percent-encoded string stands for; `none` if an escape in it is not complete. -/
def percentDecode : List UInt8 → Option (List UInt8)
  | 0x25 :: high :: low :: rest => do
      let high ← hexValue high
      let low ← hexValue low
      let decoded ← percentDecode rest
      return (16 * high + low) :: decoded
  | 0x25 :: _ => none
  | ch :: rest => return ch :: (← percentDecode rest)
  | [] => some []

structure StringBuffer (size : ℕ) where
  bytes : List UInt8
  length_eq : bytes.length = size
  terminated : 0 ∈ bytes

namespace StringBuffer

variable {size : ℕ}

def stringOf (bytes : List UInt8) : List UInt8 := bytes.takeWhile (· ≠ 0)

def encodings : List (UInt8 × List UInt8) :=
  [(0x2F, [0x25, 0x32, 0x46]), (0x2B, [0x25, 0x32, 0x42]), (0x7C, [0x25, 0x37, 0x43]),
    (0x25, [0x25, 0x32, 0x35])]

/-- The loop over the input, with `buffer` up to `outpos`; `none` if it reads past the end. -/
def encodeLoop (size : ℕ) : List UInt8 → List UInt8 → Option (List UInt8)
  | [], _ => none
  | ch :: rest, buffer =>
      if ch ≠ 0 ∧ buffer.length < size - 1 then
        match encodings.lookup ch with
        | none => encodeLoop size rest (buffer ++ [ch])
        | some code =>
            if buffer.length + 3 ≥ size then some buffer
            else encodeLoop size rest (buffer ++ code)
      else some buffer

def copyBack (buffer : List UInt8) : ℕ → List UInt8 → List UInt8
  | 0, value => value
  | outpos + 1, value => copyBack buffer outpos (value.set outpos (buffer.getD outpos 0))

def encodeInPlace (value : StringBuffer size) : Option (List UInt8) := do
  let buffer ← encodeLoop size value.bytes []
  return copyBack buffer buffer.length (value.bytes.set buffer.length 0)

def code (ch : UInt8) : List UInt8 := (encodings.lookup ch).getD [ch]

def encode (string : List UInt8) : List UInt8 := string.flatMap code

theorem lookup_some {ch : UInt8} {escape : List UInt8} (found : encodings.lookup ch = some escape) :
    ch = 0x2F ∧ escape = [0x25, 0x32, 0x46] ∨ ch = 0x2B ∧ escape = [0x25, 0x32, 0x42] ∨
      ch = 0x7C ∧ escape = [0x25, 0x37, 0x43] ∨ ch = 0x25 ∧ escape = [0x25, 0x32, 0x35] := by
  rcases lookup_eq_some_iff.mp found with ⟨before, after, isSplit, -⟩
  have mem : (ch, escape) ∈ encodings := by
    rw [isSplit]
    exact mem_append_right _ mem_cons_self
  simpa [encodings] using mem

theorem lookup_none {ch : UInt8} (notFound : encodings.lookup ch = none) :
    ch ≠ 0x2F ∧ ch ≠ 0x2B ∧ ch ≠ 0x7C ∧ ch ≠ 0x25 := by
  have others := lookup_eq_none_iff.mp notFound
  simpa [encodings] using others

theorem percentDecode_code (ch : UInt8) (rest : List UInt8) :
    percentDecode (code ch ++ rest) = (percentDecode rest).map (ch :: ·) := by
  rcases found : encodings.lookup ch with _ | escape
  · rcases lookup_none found with ⟨-, -, -, notEscape⟩
    simp only [code, found, Option.getD_none, singleton_append]
    rw [percentDecode]
    · cases percentDecode rest <;> rfl
    · intro high low others isEscape
      exact absurd isEscape notEscape
    · exact notEscape
  · simp only [code, found, Option.getD_some]
    rcases lookup_some found with ⟨rfl, rfl⟩ | ⟨rfl, rfl⟩ | ⟨rfl, rfl⟩ | ⟨rfl, rfl⟩
    all_goals
      simp only [cons_append, nil_append, percentDecode]
      cases percentDecode rest <;> rfl

theorem percentDecode_encode (string : List UInt8) :
    percentDecode (encode string) = some string := by
  induction string with
  | nil => rfl
  | cons ch rest ih =>
      rw [encode, flatMap_cons, percentDecode_code]
      exact congrArg (Option.map (ch :: ·)) ih

theorem mem_code {ch encoded : UInt8} (notEnd : ch ≠ 0) (mem : encoded ∈ code ch) :
    encoded ≠ 0 ∧ encoded ≠ 0x2F ∧ encoded ≠ 0x2B ∧ encoded ≠ 0x7C := by
  rcases found : encodings.lookup ch with _ | escape
  · rcases lookup_none found with ⟨notSlash, notPlus, notBar, -⟩
    simp only [code, found, Option.getD_none, mem_singleton] at mem
    exact mem ▸ ⟨notEnd, notSlash, notPlus, notBar⟩
  · simp only [code, found, Option.getD_some] at mem
    rcases lookup_some found with ⟨-, rfl⟩ | ⟨-, rfl⟩ | ⟨-, rfl⟩ | ⟨-, rfl⟩
    all_goals simp only [mem_cons, not_mem_nil, or_false] at mem
    all_goals rcases mem with rfl | rfl | rfl <;> decide

theorem encodeLoop_cons (ch : UInt8) (rest buffer : List UInt8) :
    encodeLoop size (ch :: rest) buffer =
      if ch ≠ 0 ∧ buffer.length + (code ch).length < size then
        encodeLoop size rest (buffer ++ code ch)
      else some buffer := by
  rw [encodeLoop]
  rcases found : encodings.lookup ch with _ | escape
  · have isCode : code ch = [ch] := by rw [code, found, Option.getD_none]
    simp only [isCode, length_singleton, Nat.lt_sub_iff_add_lt]
  · have isCode : code ch = escape := by rw [code, found, Option.getD_some]
    have three : escape.length = 3 := by
      rcases lookup_some found with ⟨-, rfl⟩ | ⟨-, rfl⟩ | ⟨-, rfl⟩ | ⟨-, rfl⟩ <;> rfl
    simp only [isCode, three]
    split
    · rename_i goesOn
      by_cases full : buffer.length + 3 ≥ size
      · rw [if_pos full, if_neg (by omega)]
      · rw [if_neg full, if_pos ⟨goesOn.1, by omega⟩]
    · rename_i ends
      rw [if_neg]
      rintro ⟨some, fits⟩
      exact ends ⟨some, by omega⟩

theorem encodeLoop_eq (value taken : List UInt8) (terminated : 0 ∈ value)
    (short : (encode taken).length < size) :
    ∃ more, encodeLoop size value (encode taken) = some (encode (taken ++ more)) ∧
      more <+: stringOf value ∧ (encode (taken ++ more)).length < size ∧
        ((encode (taken ++ stringOf value)).length < size → more = stringOf value) := by
  induction value generalizing taken with
  | nil => cases terminated
  | cons ch rest ih =>
      have one : encode taken ++ code ch = encode (taken ++ [ch]) := by simp [encode]
      rw [encodeLoop_cons, ← length_append, one]
      by_cases isEnd : ch = 0
      · subst isEnd
        have isString : stringOf (0 :: rest) = [] := by simp [stringOf]
        refine ⟨[], by simp, nil_prefix, by simpa, fun _ => isString.symm⟩
      · have isString : stringOf (ch :: rest) = ch :: stringOf rest :=
          takeWhile_cons_of_pos (by simpa using isEnd)
        by_cases fits : (encode (taken ++ [ch])).length < size
        · have atEnd := (mem_cons.mp terminated).resolve_left (Ne.symm isEnd)
          rcases ih (taken ++ [ch]) atEnd fits with ⟨more, ran, isPrefix, within, whole⟩
          simp only [append_assoc, singleton_append] at ran within whole
          refine ⟨ch :: more, by rw [if_pos ⟨isEnd, fits⟩, ran], ?_, within, ?_⟩
          · rw [isString]
            exact cons_prefix_cons.mpr ⟨rfl, isPrefix⟩
          · rw [isString]
            intro fitsAll
            rw [whole fitsAll]
        · have stops : ¬(ch ≠ 0 ∧ (encode (taken ++ [ch])).length < size) :=
            fun goesOn => fits goesOn.2
          refine ⟨[], by rw [if_neg stops, append_nil], nil_prefix, by simpa, ?_⟩
          intro fitsAll
          have longer : encode (taken ++ stringOf (ch :: rest)) =
              encode (taken ++ [ch]) ++ encode (stringOf rest) := by
            rw [isString]
            simp [encode]
          rw [longer, length_append] at fitsAll
          omega

theorem copyBack_eq (buffer : List UInt8) {outpos : ℕ} {value : List UInt8}
    (within : outpos ≤ buffer.length) (fits : outpos ≤ value.length) :
    copyBack buffer outpos value = buffer.take outpos ++ value.drop outpos := by
  induction outpos generalizing value with
  | zero => rfl
  | succ outpos ih =>
      have isHere : buffer[outpos]? = some (buffer.getD outpos 0) := by
        rw [getD_eq_getElem?_getD, getElem?_eq_getElem within, Option.getD_some]
      have rest : (value.set outpos (buffer.getD outpos 0)).drop outpos =
          buffer.getD outpos 0 :: value.drop (outpos + 1) := by
        rw [drop_set, if_neg (lt_irrefl _), Nat.sub_self, drop_eq_getElem_cons fits,
          set_cons_zero]
      rw [copyBack, ih (by omega) (by rw [length_set]; omega), rest,
        take_add_one, isHere, append_assoc]
      rfl

/-- Encoding in place leaves a string without separators that percent-decodes to a prefix of the
string, and to all of it if its full encoding fits. -/
theorem encodeInPlace_encodes (value : StringBuffer size) :
    ∃ (result : StringBuffer size) (decoded : List UInt8),
      value.encodeInPlace = some result.bytes ∧
        (stringOf result.bytes).length ≤ size - 1 ∧
        (∀ ch ∈ stringOf result.bytes, ch ≠ 0x2F ∧ ch ≠ 0x2B ∧ ch ≠ 0x7C) ∧
        percentDecode (stringOf result.bytes) = some decoded ∧
        decoded <+: stringOf value.bytes ∧
        ((encode (stringOf value.bytes)).length ≤ size - 1 → decoded = stringOf value.bytes) := by
  have positive : 0 < size := by
    rw [← value.length_eq]
    exact List.length_pos_of_mem value.terminated
  rcases encodeLoop_eq value.bytes [] value.terminated positive with
    ⟨decoded, ran, isPrefix, within, whole⟩
  change encodeLoop size value.bytes [] = _ at ran
  simp only [List.nil_append] at ran within whole
  have notEnd {ch : UInt8} (mem : ch ∈ encode decoded) :
      ch ≠ 0 ∧ ch ≠ 0x2F ∧ ch ≠ 0x2B ∧ ch ≠ 0x7C := by
    rcases List.mem_flatMap.mp mem with ⟨plain, isPlain, isCode⟩
    have some := List.mem_takeWhile_imp (isPrefix.subset isPlain)
    exact mem_code (by simpa using some) isCode
  have fits : (encode decoded).length < value.bytes.length := by rwa [value.length_eq]
  have copied : copyBack (encode decoded) (encode decoded).length
      (value.bytes.set (encode decoded).length 0) =
        encode decoded ++ 0 :: value.bytes.drop ((encode decoded).length + 1) := by
    rw [copyBack_eq _ le_rfl (by rw [List.length_set]; omega), List.take_length, List.drop_set,
      if_neg (lt_irrefl _), Nat.sub_self, List.drop_eq_getElem_cons fits, List.set_cons_zero]
  have isString : stringOf (encode decoded ++ 0 :: value.bytes.drop ((encode decoded).length + 1)) =
      encode decoded := by
    rw [stringOf, List.takeWhile_append_of_pos (fun ch mem => by simpa using (notEnd mem).1)]
    simp
  refine ⟨⟨encode decoded ++ 0 :: value.bytes.drop ((encode decoded).length + 1), ?_, ?_⟩, decoded,
    ?_, ?_⟩
  · rw [List.length_append, List.length_cons, List.length_drop, value.length_eq]
    omega
  · exact List.mem_append_right _ List.mem_cons_self
  · rw [encodeInPlace, ran]
    exact congrArg some copied
  · rw [isString]
    refine ⟨by omega, fun ch mem => (notEnd mem).2, percentDecode_encode decoded, isPrefix, ?_⟩
    intro fitsAll
    exact whole (by omega)

end StringBuffer

end HtcPme.Gps
