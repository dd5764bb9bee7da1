import HtcPme.Gps.NmeaSv
import Mathlib.Algebra.Order.BigOperators.Group.List
import Mathlib.Algebra.Order.Ring.Nat

/-!
# The satellites that are used

What a position report says of the satellites that the report before it marks as used in the fix.
-/

namespace HtcPme.Gps.Nmea

open List

variable {data : NmeaData} {report : PosReport}

theorem mem_usedList (fuel : ℕ) (mask : BitVec 32) (svid : ℕ)
    (short : ∀ i, fuel ≤ i → mask.getLsbD i = false) (id : ℕ) :
    id ∈ usedList fuel mask svid ↔ svid ≤ id ∧ mask.getLsbD (id - svid) = true := by
  induction fuel generalizing mask svid with
  | zero => simp [usedList, short]
  | succ fuel ih =>
      have next := ih (mask >>> 1) (svid + 1) fun i above => by
        rw [BitVec.getLsbD_ushiftRight]
        exact short (1 + i) (by omega)
      rw [BitVec.getLsbD_ushiftRight] at next
      rw [usedList]
      split
      · rename_i isZero
        simp [isZero]
      · rcases Nat.lt_trichotomy id svid with below | rfl | above
        · have notLater : ¬svid + 1 ≤ id := by
            omega
          split <;> simp [next, notLater, Nat.not_le.mpr below, Nat.ne_of_lt below]
        · split <;> simp_all
        · rw [show 1 + (id - (svid + 1)) = id - svid by omega] at next
          split <;> simp [next, Nat.ne_of_gt above, Nat.le_of_lt above, Nat.succ_le_of_lt above]

theorem usedList_pairwise (fuel : ℕ) (mask : BitVec 32) (svid : ℕ) :
    (usedList fuel mask svid).Pairwise (· < ·) ∧ ∀ id ∈ usedList fuel mask svid, svid ≤ id := by
  induction fuel generalizing mask svid with
  | zero => simp [usedList]
  | succ fuel ih =>
      rcases ih (mask >>> 1) (svid + 1) with ⟨ascending, above⟩
      rw [usedList]
      split
      · simp
      · split
        · refine ⟨pairwise_cons.mpr ⟨above, ascending⟩, ?_⟩
          intro id mem
          rcases mem_cons.mp mem with rfl | isLater
          · exact Nat.le_refl _
          · exact Nat.le_of_succ_le (above id isLater)
        · exact ⟨ascending, fun id mem => Nat.le_of_succ_le (above id mem)⟩

theorem usedList_shift (fuel : ℕ) (mask : BitVec 32) (svid : ℕ) :
    usedList fuel mask (64 + svid) = (usedList fuel mask svid).map (64 + ·) := by
  induction fuel generalizing mask svid with
  | zero => rfl
  | succ fuel ih =>
      have next := ih (mask >>> 1) (svid + 1)
      rw [← Nat.add_assoc] at next
      rw [usedList, usedList, next]
      split
      · rfl
      · split <;> rfl

theorem getLsbD_usedMask (constellation : Constellation) (svs : List GnssSv) (i : ℕ) :
    (usedMask constellation svs).getLsbD i = true ↔
      i < 32 ∧ ∃ sv ∈ svs, sv.constellation = constellation ∧ sv.usedInFix = true ∧
        sv.svid = i + 1 := by
  have isBit (svid : ℕ) : (usedBit svid).getLsbD i = true ↔ i < 32 ∧ svid = i + 1 := by
    rw [usedBit]
    split
    · rw [BitVec.getLsbD_twoPow, Bool.and_eq_true, decide_eq_true_eq, decide_eq_true_eq]
      omega
    · rw [BitVec.ofNat_eq_ofNat, BitVec.getLsbD_zero]
      simp only [Bool.false_eq_true, false_iff]
      omega
  have fromMask (mask : BitVec 32) : (svs.foldl (fun mask sv =>
      if sv.constellation = constellation ∧ sv.usedInFix = true then mask ||| usedBit sv.svid
      else mask) mask).getLsbD i = true ↔ mask.getLsbD i = true ∨ i < 32 ∧ ∃ sv ∈ svs,
        sv.constellation = constellation ∧ sv.usedInFix = true ∧ sv.svid = i + 1 := by
    induction svs generalizing mask with
    | nil => simp
    | cons sv rest ih =>
        simp only [foldl_cons, ih, mem_cons, exists_eq_or_imp]
        split
        · rename_i isUsed
          rw [BitVec.getLsbD_or, Bool.or_eq_true, isBit]
          tauto
        · tauto
  simpa [usedMask] using fromMask 0

structure UsedIn (svStatus : GnssSvStatus) (constellation : Constellation) (used : List ℕ) :
    Prop where
  ascending : used.Pairwise (· < ·)
  mem : ∀ id, id ∈ used ↔ (1 ≤ id ∧ id ≤ 32) ∧ ∃ info ∈ svStatus.gnssSvList,
    info.constellation = constellation ∧ info.usedInFix = true ∧ info.svid.toNat = id

theorem usedIn_usedList (svStatus : GnssSvStatus) (constellation : Constellation) :
    UsedIn svStatus constellation
      (usedList 32 (usedMask constellation svStatus.report.gnssSvList) 1) := by
  refine ⟨(usedList_pairwise _ _ _).1, fun id => ?_⟩
  rw [mem_usedList _ _ _ (fun i above => BitVec.getLsbD_of_ge _ _ above), getLsbD_usedMask]
  simp only [GnssSvStatus.report, mem_map, exists_exists_and_eq_and]
  by_cases positive : 1 ≤ id
  · rw [Nat.sub_add_cancel positive]
    constructor
    · rintro ⟨-, small, isUsed⟩
      exact ⟨⟨positive, by omega⟩, isUsed⟩
    · rintro ⟨⟨-, small⟩, isUsed⟩
      exact ⟨positive, by omega, isUsed⟩
  · exact iff_of_false (fun isUsed => positive isUsed.1) fun isUsed => positive isUsed.1.1

def fields (used : List ℕ) : List Text :=
  (used.take 12).map (cFormat.d02 · ++ comma) ++ List.replicate (12 - used.length) comma

def gsaOf (data : NmeaData) (report : PosReport) (address : Text) (used : List ℕ) : Sentence :=
  { gsa cFormat data report address used with
    checked := (address ++ automatic ++ fixType used ++ comma) :: fields used }

def field (used : List ℕ) (i : ℕ) : Text :=
  match used[i]? with
  | some svid => cFormat.d02 svid ++ comma
  | none => comma

theorem fields_eq (used : List ℕ) : (range 12).map (field used) = fields used := by
  have lengths : ((range 12).map (field used)).length = (fields used).length := by
    simp only [fields, length_map, length_range, length_append, length_take,
      length_replicate]
    omega
  apply ext_getElem lengths
  intro i isPlace _
  have isPlace : i < 12 := by
    simpa using isPlace
  by_cases below : i < used.length <;>
    simp [fields, field, below, isPlace, getElem_append]

theorem gsa_eq (address : Text) (used : List ℕ) :
    gsa cFormat data report address used = gsaOf data report address used := by
  rw [gsaOf, ← fields_eq]
  rfl

theorem gsaOf_fits {address : Text} (isShort : address.chars.length ≤ 5) (used : List ℕ) :
    (gsaOf data report address used).Fits := by
  have isComma : comma.chars.length = 1 := by decide
  have heading : (address ++ automatic ++ fixType used ++ comma).chars.length ≤ 10 := by
    have mode : automatic.chars.length = 3 := by decide
    have isType : (fixType used).chars.length = 1 := by
      rw [fixType]
      split
      · decide
      · split <;> decide
    simp only [Text.length_append, mode, isType, isComma]
    omega
  have isField (i : ℕ) : (field used i).chars.length ≤ 7 := by
    rw [field]
    split
    · rw [Text.length_append, isComma]
      exact Nat.succ_le_succ (length_d02 _)
    · decide
  have sum := sum_le_card_nsmul ((fields used).map (·.chars.length)) 7 (by
    rw [← fields_eq]
    simpa using fun i _ => isField i)
  rw [length_map, ← fields_eq, length_map, length_range, fields_eq] at sum
  simp only [Sentence.Fits, gsaOf, map_cons, sum_cons, maxLength]
  change _ ≤ 12 * 7 at sum
  omega

def bothUsed : GnssSvStatus where
  gnssSvList := [⟨.gps, 1, true, 45, 90, true, 40⟩, ⟨.glonass, 1, true, 45, 90, true, 40⟩]
  numSvs := by decide
  dop := none

def bothCached : NmeaData :=
  (generateSv cFormat ⟨0, 0, .zero, .standalone, true⟩ bothUsed.report).1

end HtcPme.Gps.Nmea
