import Mathlib.Algebra.GroupWithZero.Nat
import Mathlib.Data.Nat.Log
import Mathlib.Tactic.Common

/-!
# The clock of a measurement report

The discontinuity count tells a client which times of two reports can be compared.
-/

namespace HtcPme.Gps

open List

/-- The natural number nearest to `n` that a `double` holds, with its 53 bits. -/
def toDouble (n : ℕ) : ℕ :=
  let unit := 2 ^ (n.log2 + 1 - 53)
  if unit < 2 * (n % unit) ∨ unit = 2 * (n % unit) ∧ n / unit % 2 = 1 then (n / unit + 1) * unit
  else n / unit * unit

theorem toDouble_eq {n : ℕ} (exact : n < 2 ^ 53) : toDouble n = n := by
  have short : n.log2 + 1 - 53 = 0 := by
    rcases Nat.eq_zero_or_pos n with rfl | positive
    · rfl
    · have bits : n.log2 < 53 := (Nat.log2_lt (by omega)).mpr exact
      omega
  simp only [toDouble, short, Nat.pow_zero, Nat.mod_one, Nat.div_one, Nat.mul_one]
  rw [if_neg (by omega)]

structure SvMeasInfo where
  refFCount : Option UInt32
  numClockResets : Option UInt32
deriving DecidableEq

/-- `GnssClock`, of which `timeNs` is what the multiplication by `1e6` gives. -/
structure GnssClock where
  timeNs : ℕ
  hwClockDiscontinuityCount : UInt32
deriving DecidableEq

/-- The variables of `convertGnssClock`, and `mMeasurementsStarted`. -/
structure ClockState where
  oldRefFCount : UInt32
  oldDiscCount : UInt32
  localDiscCount : UInt32
  mMeasurementsStarted : Bool
deriving DecidableEq

namespace ClockState

def init : ClockState := ⟨0, 0, 0, false⟩

/-- Times before and after `newRefFCount` cannot be compared. -/
def Discontinuous (state : ClockState) (newRefFCount newDiscCount : UInt32) : Prop :=
  state.mMeasurementsStarted = true ∨ state.oldDiscCount ≠ newDiscCount ∨
    newRefFCount ≤ state.oldRefFCount

instance (state : ClockState) (newRefFCount newDiscCount : UInt32) :
    Decidable (state.Discontinuous newRefFCount newDiscCount) :=
  inferInstanceAs (Decidable (_ ∨ _))

/-- `convertGnssClock`, with the clock of a report that carries both counters. -/
def convertGnssClock (state : ClockState) (info : SvMeasInfo) : ClockState × Option GnssClock :=
  match info.refFCount, info.numClockResets with
  | some newRefFCount, some newDiscCount =>
      let localDiscCount :=
        if state.Discontinuous newRefFCount newDiscCount then state.localDiscCount + 1
        else state.localDiscCount
      (⟨newRefFCount, newDiscCount, localDiscCount, false⟩,
        some ⟨toDouble (toDouble newRefFCount.toNat * 1000000), localDiscCount⟩)
  | _, _ => (state, none)

/-- A report that carries both counters, and `startFix`. -/
inductive Event where
  | report (refFCount numClockResets : UInt32)
  | startFix
deriving DecidableEq

def Event.isReport : Event → Bool
  | .report .. => true
  | .startFix => false

def step (state : ClockState) : Event → ClockState
  | .report refFCount numClockResets =>
      (state.convertGnssClock ⟨some refFCount, some numClockResets⟩).1
  | .startFix => { state with mMeasurementsStarted := true }

def run (state : ClockState) (events : List Event) : ClockState := events.foldl step state

def clockOf (before : List Event) (refFCount numClockResets : UInt32) : Option GnssClock :=
  ((run init before).convertGnssClock ⟨some refFCount, some numClockResets⟩).2

/-- A report counts on from the last one, and so do those between, with no start of measurements. -/
structure Continues (state : ClockState) (between : List Event)
    (refFCount numClockResets : UInt32) : Prop where
  notStarted : state.mMeasurementsStarted = false
  noStartFix : .startFix ∉ between
  sameBetween : ∀ time resets, .report time resets ∈ between → resets = state.oldDiscCount
  same : numClockResets = state.oldDiscCount
  later : state.oldRefFCount < refFCount

theorem step_report (state : ClockState) (refFCount numClockResets : UInt32) :
    ∃ ups ≤ 1, (state.step (.report refFCount numClockResets)).localDiscCount.toNat =
        (state.localDiscCount.toNat + ups) % 2 ^ 32 ∧
      (ups = 0 → state.Continues [] refFCount numClockResets) := by
  have small := state.localDiscCount.toNat_lt
  by_cases jumps : state.Discontinuous refFCount numClockResets
  · refine ⟨1, le_rfl, ?_, by omega⟩
    simp [step, convertGnssClock, jumps, UInt32.toNat_add]
  · refine ⟨0, by omega, ?_, fun _ => ?_⟩
    · simp only [step, convertGnssClock, if_neg jumps]
      omega
    · simp only [Discontinuous, not_or, Bool.not_eq_true, not_not, UInt32.not_le] at jumps
      rcases jumps with ⟨notStarted, sameCount, later⟩
      exact ⟨notStarted, not_mem_nil, by simp, sameCount.symm, later⟩

theorem run_report (state : ClockState) (between : List Event) (refFCount numClockResets : UInt32) :
    ∃ ups ≤ between.countP Event.isReport + 1,
      ((state.run between).step (.report refFCount numClockResets)).localDiscCount.toNat =
        (state.localDiscCount.toNat + ups) % 2 ^ 32 ∧
      (ups = 0 → state.Continues between refFCount numClockResets) := by
  induction between generalizing state with
  | nil => exact step_report state refFCount numClockResets
  | cons event rest ih =>
      rcases ih (state.step event) with ⟨ups, few, counts, continues⟩
      cases event with
      | report time resets =>
          rcases step_report state time resets with ⟨up, atMostOne, countsOne, continuesOne⟩
          refine ⟨up + ups, ?_, ?_, fun none => ?_⟩
          · rw [countP_cons_of_pos rfl]
            omega
          · rw [countsOne] at counts
            rw [run, foldl_cons]
            exact counts.trans (by omega)
          · rcases continuesOne (by omega) with ⟨notStarted, -, -, same, later⟩
            rcases continues (by omega) with ⟨-, noStartFix, sameBetween, sameLast, laterLast⟩
            have discCount : (state.step (.report time resets)).oldDiscCount = state.oldDiscCount :=
              same
            rw [discCount] at sameBetween sameLast
            refine ⟨notStarted, ?_, ?_, sameLast, UInt32.lt_trans later laterLast⟩
            · exact not_mem_cons_of_ne_of_not_mem nofun noStartFix
            · intro otherTime others mem
              rcases mem_cons.mp mem with isFirst | isLater
              · cases isFirst
                exact same
              · exact sameBetween otherTime others isLater
      | startFix =>
          refine ⟨ups, by simpa [Event.isReport] using few, counts, fun none => ?_⟩
          exact absurd (continues none).notStarted (by simp [step])

/-- Of two reports with equal counts, fewer than `2 ^ 32 - 1` apart, the later one has the greater
time, and measurements were neither started nor reset between them. -/
theorem timeNs_lt {before between : List Event} {refFCount numClockResets laterRefFCount
    laterNumClockResets : UInt32} {clock laterClock : GnssClock}
    (isClock : clockOf before refFCount numClockResets = some clock)
    (isLater : clockOf (before ++ .report refFCount numClockResets :: between) laterRefFCount
      laterNumClockResets = some laterClock)
    (few : between.countP Event.isReport < 2 ^ 32 - 1)
    (same : clock.hwClockDiscontinuityCount = laterClock.hwClockDiscontinuityCount) :
    clock.timeNs < laterClock.timeNs ∧ .startFix ∉ between ∧
      (∀ time resets, .report time resets ∈ between → resets = numClockResets) ∧
      laterNumClockResets = numClockResets := by
  have isExact (time : UInt32) :
      toDouble (toDouble time.toNat * 1000000) = time.toNat * 1000000 := by
    have small := time.toNat_lt
    rw [toDouble_eq (by omega : time.toNat < 2 ^ 53), toDouble_eq (by omega)]
  rw [clockOf, run, List.foldl_append, List.foldl_cons] at isLater
  cases isClock
  cases isLater
  rcases run_report ((run init before).step (.report refFCount numClockResets)) between
    laterRefFCount laterNumClockResets with ⟨ups, atMost, counts, continues⟩
  have none : ups = 0 := by
    have sameCount := congrArg UInt32.toNat same
    change _ = UInt32.toNat (((run ((run init before).step (.report refFCount numClockResets))
      between).step (.report laterRefFCount laterNumClockResets)).localDiscCount) at sameCount
    rw [counts] at sameCount
    change ((run init before).step (.report refFCount numClockResets)).localDiscCount.toNat = _
      at sameCount
    omega
  rcases continues none with ⟨-, noStartFix, sameBetween, sameLast, later⟩
  refine ⟨?_, noStartFix, sameBetween, sameLast⟩
  rw [isExact, isExact]
  exact Nat.mul_lt_mul_of_pos_right (UInt32.lt_iff_toNat_lt.mp later) (by omega)

theorem timeNs_lt_twenty :
    (⟨10000000, 0⟩ : GnssClock).timeNs < (⟨30000000, 0⟩ : GnssClock).timeNs ∧
      Event.startFix ∉ [Event.report 20 0] ∧
      (∀ time resets, Event.report time resets ∈ [Event.report 20 0] → resets = 0) ∧
      (0 : UInt32) = 0 :=
  @timeNs_lt [] [.report 20 0] 10 0 30 0 ⟨10000000, 0⟩ ⟨30000000, 0⟩ (by decide +kernel)
    (by decide +kernel) (by decide) rfl

theorem run_stopped (n : ℕ) (state : ClockState) (stopped : state.oldRefFCount = 0) :
    (state.run (replicate n (.report 0 0))).oldRefFCount = 0 ∧
      (state.run (replicate n (.report 0 0))).localDiscCount.toNat =
        (state.localDiscCount.toNat + n) % 2 ^ 32 := by
  induction n generalizing state with
  | zero =>
      have small := state.localDiscCount.toNat_lt
      exact ⟨stopped, by simp only [replicate_zero, run, foldl_nil]; omega⟩
  | succ n ih =>
      have jumps : state.Discontinuous 0 0 := .inr (.inr (by rw [stopped]; exact UInt32.le_refl 0))
      have one : (state.step (.report 0 0)).localDiscCount.toNat =
          (state.localDiscCount.toNat + 1) % 2 ^ 32 := by
        simp [step, convertGnssClock, jumps, UInt32.toNat_add]
      rcases ih (state.step (.report 0 0)) rfl with ⟨stays, counts⟩
      refine ⟨stays, counts.trans ?_⟩
      rw [one]
      omega

theorem clockOf_stopped {n : ℕ} (turn : n = 2 ^ 32 - 1) :
    clockOf (.report 0 0 :: replicate n (.report 0 0)) 0 0 = some ⟨0, 1⟩ := by
  rcases run_stopped n (init.step (.report 0 0)) rfl with ⟨stopped, counts⟩
  have isZero : ((init.step (.report 0 0)).run (replicate n (.report 0 0))).localDiscCount =
      0 := by
    apply UInt32.toNat_inj.mp
    rw [counts, turn]
    decide
  have jumps : ((init.step (.report 0 0)).run
      (replicate n (.report 0 0))).Discontinuous 0 0 :=
    .inr (.inr (by rw [stopped]; exact UInt32.le_refl 0))
  change (((init.step (.report 0 0)).run (replicate n (.report 0 0))).convertGnssClock
    ⟨some 0, some 0⟩).2 = _
  simp only [convertGnssClock, if_pos jumps, isZero]
  decide +kernel

/-- With `2 ^ 32 - 1` reports between two reports of a counter that stands still, the count has come
round. -/
theorem not_timeNs_lt :
    ¬∀ (before between : List Event) (refFCount numClockResets laterRefFCount laterNumClockResets :
        UInt32) (clock laterClock : GnssClock),
      clockOf before refFCount numClockResets = some clock →
      clockOf (before ++ .report refFCount numClockResets :: between) laterRefFCount
        laterNumClockResets = some laterClock →
      between.countP Event.isReport < 2 ^ 32 →
      clock.hwClockDiscontinuityCount = laterClock.hwClockDiscontinuityCount →
      clock.timeNs < laterClock.timeNs ∧ .startFix ∉ between ∧
        ∀ time resets, .report time resets ∈ between → resets = numClockResets := by
  intro ordered
  have turn : ∃ n, n = 2 ^ 32 - 1 := ⟨_, rfl⟩
  rcases turn with ⟨n, turn⟩
  have few : (List.replicate n (Event.report 0 0)).countP Event.isReport < 2 ^ 32 := by
    rw [List.countP_replicate, if_pos (by rfl)]
    omega
  have less := (ordered [] _ 0 0 0 0 ⟨0, 1⟩ ⟨0, 1⟩ (by decide +kernel) (clockOf_stopped turn) few
    rfl).1
  exact absurd less (lt_irrefl 0)

end ClockState

end HtcPme.Gps
