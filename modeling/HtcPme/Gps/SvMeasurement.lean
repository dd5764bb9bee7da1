import Mathlib.Data.BitVec
import Mathlib.Data.List.Forall2
import Mathlib.Tactic.Common

/-!
# Measurements of satellites

`reportSvMeasurement` turns an indication of the modem into the set that is reported. A measurement
is copied to the index that it has in the indication, and left out if it is not valid.
-/

namespace HtcPme.Gps

open List

/-- The fields that are copied as they are, with the bits of those that are `float`. -/
structure SvFields where
  gnssSvId : UInt16
  gloFrequency : UInt8
  svStatus : UInt32
  svInfoMask : UInt8
  cNo : UInt16
  gloRfLoss : UInt16
  svTimeMs : UInt32
  svTimeSubMs : UInt32
  svTimeUncMs : UInt32
  dopplerShift : UInt32
  dopplerShiftUnc : UInt32
deriving DecidableEq

structure QmiSvMeasurement extends SvFields where
  validMask : UInt16
  measurementStatus : BitVec 64
  measLatency : BitVec 32
  lossOfLock : UInt8
  healthStatus : UInt8
  multipathEstimate : UInt32
  fineSpeed : UInt32
  fineSpeedUnc : UInt32
  carrierPhase : UInt64
  svElevation : UInt32
  svAzimuth : UInt32
  cycleSlipCount : UInt8
  dopplerAccelValid : Bool
  dopplerAccel : UInt32
deriving DecidableEq

/-- `Gnss_SVMeasurementStructType`, with `none` for a field that is not marked as valid. -/
structure GnssSvMeasurement extends SvFields where
  measurementStatus : BitVec 64
  measLatency : BitVec 16
  lossOfLock : Bool
  healthStatus : Option UInt8
  multipathEstimate : Option UInt32
  fineSpeed : Option UInt32
  fineSpeedUnc : Option UInt32
  carrierPhase : Option UInt64
  svDirection : Option (UInt32 × UInt32)
  cycleSlipCount : Option UInt8
  dopplerAccel : UInt32
deriving DecidableEq

def qmiMeasListMaxSize : ℕ := 16

/-- `GNSS_LOC_SV_MEAS_LIST_MAX_SIZE`. -/
def gnssMeasListMaxSize : ℕ := 16

structure QmiSvMeasurements where
  svMeasurement : List QmiSvMeasurement
  length_le : svMeasurement.length ≤ qmiMeasListMaxSize

structure GnssMeas where
  numSvs : ℕ
  svMeasurement : List GnssSvMeasurement
  cnt : ℕ
deriving DecidableEq

namespace GnssSvMeasurement

/-- What `memset` leaves. -/
def zero : GnssSvMeasurement :=
  ⟨⟨0, 0, 0, 0, 0, 0, 0, 0, 0, 0, 0⟩, 0, 0, false, none, none, none, none, none, none, none, 0⟩

end GnssSvMeasurement

namespace QmiSvMeasurement

variable (sv : QmiSvMeasurement)

/-- A field with its bit in `validMask`. -/
def field {α : Type*} (bit : UInt16) (value : α) : Option α :=
  if sv.validMask &&& bit ≠ 0 then some value else none

def isValid : Bool := sv.gnssSvId != 0 && sv.measurementStatus != 0

def copyTo (entry : GnssSvMeasurement) : GnssSvMeasurement where
  toSvFields := sv.toSvFields
  measurementStatus := (sv.measurementStatus.setWidth 32).setWidth 64
  measLatency := sv.measLatency.setWidth 16
  lossOfLock := (sv.field 0x80 (sv.lossOfLock != 0)).getD entry.lossOfLock
  healthStatus := (sv.field 0x01 sv.healthStatus).or entry.healthStatus
  multipathEstimate := (sv.field 0x02 sv.multipathEstimate).or entry.multipathEstimate
  fineSpeed := (sv.field 0x04 sv.fineSpeed).or entry.fineSpeed
  fineSpeedUnc := (sv.field 0x08 sv.fineSpeedUnc).or entry.fineSpeedUnc
  carrierPhase := (sv.field 0x10 sv.carrierPhase).or entry.carrierPhase
  svDirection := (sv.field 0x20 (sv.svElevation, sv.svAzimuth)).or entry.svDirection
  cycleSlipCount := (sv.field 0x40 sv.cycleSlipCount).or entry.cycleSlipCount
  dopplerAccel := entry.dopplerAccel

structure IsCopy (sv : QmiSvMeasurement) (entry : GnssSvMeasurement) : Prop where
  fields : entry.toSvFields = sv.toSvFields
  measurementStatus : entry.measurementStatus = sv.measurementStatus
  measLatency : entry.measLatency.toInt = sv.measLatency.toInt
  lossOfLock : entry.lossOfLock = (sv.field 0x80 (sv.lossOfLock != 0)).getD false
  healthStatus : entry.healthStatus = sv.field 0x01 sv.healthStatus
  multipathEstimate : entry.multipathEstimate = sv.field 0x02 sv.multipathEstimate
  fineSpeed : entry.fineSpeed = sv.field 0x04 sv.fineSpeed
  fineSpeedUnc : entry.fineSpeedUnc = sv.field 0x08 sv.fineSpeedUnc
  carrierPhase : entry.carrierPhase = sv.field 0x10 sv.carrierPhase
  svDirection : entry.svDirection = sv.field 0x20 (sv.svElevation, sv.svAzimuth)
  cycleSlipCount : entry.cycleSlipCount = sv.field 0x40 sv.cycleSlipCount
  dopplerAccel : entry.dopplerAccel = if sv.dopplerAccelValid then sv.dopplerAccel else 0

structure Fits (sv : QmiSvMeasurement) : Prop where
  measurementStatus : sv.measurementStatus.toNat < 2 ^ 32
  measLatency : -2 ^ 15 ≤ sv.measLatency.toInt ∧ sv.measLatency.toInt < 2 ^ 15
  dopplerAccel : sv.dopplerAccelValid = true → sv.dopplerAccel = 0

variable {sv}

theorem isCopy_copyTo : sv.IsCopy (sv.copyTo .zero) ↔ sv.Fits := by
  have status : (sv.measurementStatus.setWidth 32).setWidth 64 = sv.measurementStatus ↔
      sv.measurementStatus.toNat < 2 ^ 32 := by
    rw [← BitVec.toNat_inj]
    simp only [BitVec.toNat_setWidth]
    omega
  have latency : (sv.measLatency.setWidth 16).toInt = sv.measLatency.toInt ↔
      -2 ^ 15 ≤ sv.measLatency.toInt ∧ sv.measLatency.toInt < 2 ^ 15 := by
    simp only [BitVec.toInt_eq_toNat_cond, BitVec.toNat_setWidth]
    omega
  constructor
  · intro isCopy
    refine ⟨status.mp isCopy.measurementStatus, latency.mp isCopy.measLatency, fun valid => ?_⟩
    have same := isCopy.dopplerAccel
    rw [if_pos valid] at same
    exact same.symm
  · intro fits
    refine ⟨rfl, status.mpr fits.measurementStatus, latency.mpr fits.measLatency, rfl, ?_, ?_, ?_,
      ?_, ?_, ?_, ?_, ?_⟩
    all_goals try exact Option.or_none
    split
    · rename_i valid
      exact (fits.dopplerAccel valid).symm
    · rfl

theorem not_isCopy_zero (valid : sv.isValid = true) : ¬sv.IsCopy .zero := by
  intro isCopy
  have isZero : 0 = sv.gnssSvId := congrArg SvFields.gnssSvId isCopy.fields
  simp [isValid, ← isZero] at valid

end QmiSvMeasurement

open QmiSvMeasurement GnssSvMeasurement

namespace GnssMeas

/-- The loop over the measurements, from an index on; `none` if it writes out of the array. -/
def loop : ℕ → List QmiSvMeasurement → GnssMeas → Option GnssMeas
  | _, [], gnssMeas => some gnssMeas
  | i, sv :: rest, gnssMeas =>
      if i < gnssMeasListMaxSize then
        let cnt := if sv.isValid then gnssMeas.cnt + 1 else gnssMeas.cnt
        let svMeasurement :=
          if sv.isValid then gnssMeas.svMeasurement.modify i sv.copyTo else gnssMeas.svMeasurement
        loop (i + 1) rest ⟨cnt, svMeasurement, cnt⟩
      else none

def report (raw : QmiSvMeasurements) : Option GnssMeas :=
  loop 0 raw.svMeasurement
    ⟨raw.svMeasurement.length, List.replicate gnssMeasListMaxSize .zero, 0⟩

def Reports (gnssMeas : GnssMeas) (raw : QmiSvMeasurements) : Prop :=
  List.Forall₂ IsCopy (raw.svMeasurement.filter isValid)
    (gnssMeas.svMeasurement.take gnssMeas.numSvs)

def entryOf (sv : QmiSvMeasurement) : GnssSvMeasurement :=
  if sv.isValid then sv.copyTo .zero else .zero

theorem modify_middle {α : Type*} (f : α → α) (before after : List α) (entry : α) {i : ℕ}
    (index : i = before.length) :
    (before ++ entry :: after).modify i f = before ++ f entry :: after := by
  subst index
  induction before with
  | nil => rfl
  | cons head before ih => simp [ih]

theorem loop_eq (before svs : List QmiSvMeasurement) (room : ℕ)
    (short : before.length + svs.length + room = gnssMeasListMaxSize) (numSvs : ℕ)
    (counted : svs = [] → numSvs = before.countP isValid) :
    loop before.length svs ⟨numSvs, before.map entryOf ++ replicate (svs.length + room) .zero,
        before.countP isValid⟩ =
      some ⟨(before ++ svs).countP isValid,
        (before ++ svs).map entryOf ++ replicate room .zero,
        (before ++ svs).countP isValid⟩ := by
  induction svs generalizing before numSvs with
  | nil => simp [loop, counted rfl]
  | cons sv rest ih =>
      have within : before.length < gnssMeasListMaxSize := by
        rw [length_cons] at short
        omega
      have counts : (before ++ [sv]).countP isValid =
          if sv.isValid then before.countP isValid + 1 else before.countP isValid := by
        rw [countP_append, countP_singleton]
        split <;> rfl
      have entries : (before ++ [sv]).map entryOf ++ replicate (rest.length + room) zero =
          if sv.isValid then (before.map entryOf ++
            replicate ((sv :: rest).length + room) zero).modify before.length sv.copyTo
          else before.map entryOf ++ replicate ((sv :: rest).length + room) zero := by
        have one : (sv :: rest).length + room = rest.length + room + 1 := by
          rw [length_cons]
          omega
        rw [one, replicate_succ, modify_middle _ _ _ _ (by simp)]
        cases valid : sv.isValid <;> simp [entryOf, valid]
      have next := ih (before ++ [sv]) (by simp at short ⊢; omega) _ fun _ => rfl
      rw [loop, if_pos within, ← counts, ← entries]
      simpa using next

theorem reports_iff (svs : List QmiSvMeasurement) (rest : List GnssSvMeasurement) :
    List.Forall₂ IsCopy (svs.filter isValid)
        ((svs.map entryOf ++ rest).take (svs.countP isValid)) ↔
      (svs.Pairwise fun sv later => later.isValid = true → sv.isValid = true) ∧
        ∀ sv ∈ svs, sv.isValid = true → sv.Fits := by
  induction svs with
  | nil => simp
  | cons sv svs ih =>
      cases valid : sv.isValid with
      | true =>
          simp only [filter_cons, valid, if_true, countP_cons_of_pos, map_cons,
            cons_append, take_succ_cons, forall₂_cons, ih, entryOf, isCopy_copyTo,
            pairwise_cons, forall_mem_cons, forall_const, implies_true, true_and]
          exact and_left_comm
      | false =>
          simp only [filter_cons, valid, countP_cons_of_neg, map_cons,
            cons_append, entryOf, pairwise_cons, forall_mem_cons,
            Bool.false_eq_true, if_false, false_implies, true_and, not_false_eq_true]
          rcases kept : svs.filter isValid with _ | ⟨later, others⟩
          · have none : ∀ later ∈ svs, later.isValid = false := by
              simpa using filter_eq_nil_iff.mp kept
            have counts : svs.countP isValid = 0 := by
              rw [countP_eq_length_filter, kept, length_nil]
            rw [kept, counts, take_zero] at ih
            rw [counts, take_zero, and_assoc, ← ih]
            simpa using none
          · have mem : later ∈ svs ∧ later.isValid = true := by
              rw [← mem_filter, kept]
              exact mem_cons_self
            have counts : svs.countP isValid = others.length + 1 := by
              rw [countP_eq_length_filter, kept, length_cons]
            rw [counts, take_succ_cons, forall₂_cons]
            constructor
            · exact fun both => absurd both.1 (not_isCopy_zero mem.2)
            · exact fun both => absurd mem.2 (both.1.1 later mem.1)

/-- What is reported of an indication are its valid measurements if and only if none of them comes
after one that is not valid, and each fits. -/
theorem report_iff (raw : QmiSvMeasurements) :
    ∃ gnssMeas, report raw = some gnssMeas ∧
      (gnssMeas.Reports raw ↔
        (raw.svMeasurement.Pairwise fun sv later => later.isValid = true → sv.isValid = true) ∧
          ∀ sv ∈ raw.svMeasurement, sv.isValid = true → sv.Fits) := by
  have short : raw.svMeasurement.length + (gnssMeasListMaxSize - raw.svMeasurement.length) =
      gnssMeasListMaxSize := Nat.add_sub_of_le raw.length_le
  have looped := loop_eq [] raw.svMeasurement _ (by rw [List.length_nil, Nat.zero_add, short])
    raw.svMeasurement.length (by simp +contextual)
  rw [short] at looped
  exact ⟨_, looped, reports_iff raw.svMeasurement _⟩

def indication (svMeasurement : List QmiSvMeasurement) : QmiSvMeasurements :=
  ⟨svMeasurement.take qmiMeasListMaxSize, List.length_take_le _ _⟩

def measured (gnssSvId : UInt16) : QmiSvMeasurement :=
  ⟨⟨gnssSvId, 0, 0, 0, 0, 0, 0, 0, 0, 0, 0⟩, 0, 1, 0, 0, 0, 0, 0, 0, 0, 0, 0, 0, false, 0⟩

/-- The second measurement is counted, and the first entry is reported for it. -/
theorem not_reports_gap :
    ∃ gnssMeas, report (indication [measured 0, measured 7]) = some gnssMeas ∧
      ¬gnssMeas.Reports (indication [measured 0, measured 7]) := by
  refine ⟨_, rfl, ?_⟩
  intro reports
  rcases reports with _ | ⟨isCopy, _⟩
  exact not_isCopy_zero (by decide) isCopy

end GnssMeas

end HtcPme.Gps
