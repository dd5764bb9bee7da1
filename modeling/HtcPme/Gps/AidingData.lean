import HtcPme.Foundation.BitMask
import HtcPme.Gps.LocEng

/-!
# Aiding data

The aiding data that the location engine is asked to delete, which it has to keep while the engine
is on.
-/

namespace HtcPme.Gps

/-- `loc_eng_data_s_type` with its aiding data, of which a mask has `w` bits. `requested` is not in
the source: what was requested since `deleteAidingData` was called last. -/
structure AidingData (w : ℕ) where
  locEng : LocEng
  aidingDataForDeletion : BitVec w
  requested : BitVec w
deriving DecidableEq

namespace AidingData

open BitMask LocEng

variable {w : ℕ}

/-- `LocEngDelAidData` and `LocEngReportStatus`. -/
inductive Msg (w : ℕ) where
  | delAidData (mType : BitVec w)
  | reportStatus (status : UInt16)
deriving DecidableEq

def init : AidingData w := ⟨LocEng.init, 0, 0⟩

def IsInit (data : AidingData w) : Prop := data = init

variable (config : LocEngConfig) (data : AidingData w)

/-- `update_aiding_data_for_deletion`, with the mask that `deleteAidingData` gets. -/
def updateAidingDataForDeletion : AidingData w × Option (BitVec w) :=
  if data.locEng.engineStatus ≠ engineOn ∧ data.aidingDataForDeletion ≠ 0 then
    ({ data with aidingDataForDeletion := 0, requested := 0 }, some data.aidingDataForDeletion)
  else (data, none)

def receive : Msg w → AidingData w
  | .delAidData mType =>
      { data with aidingDataForDeletion := mType, requested := data.requested ||| mType }
  | .reportStatus status => { data with locEng := (data.locEng.reportStatus config status).1 }

def proc (msg : Msg w) : AidingData w × Option (BitVec w) :=
  (data.receive config msg).updateAidingDataForDeletion

def Step (config : LocEngConfig) (data : AidingData w) (msg : Msg w) (next : AidingData w) : Prop :=
  next = (data.proc config msg).1

def due (msg : Msg w) : Option (BitVec w) :=
  let received := data.receive config msg
  if received.locEng.engineStatus = engineOn ∨ received.requested = 0 then none
  else some received.requested

def RepeatGuard (data : AidingData w) : Msg w → Prop
  | .delAidData mType => Sub data.aidingDataForDeletion mType
  | .reportStatus _ => True

instance (msg : Msg w) : Decidable (RepeatGuard data msg) := by
  cases msg
  · exact inferInstanceAs (Decidable (Sub _ _))
  · exact inferInstanceAs (Decidable True)

structure DeletesOk (config : LocEngConfig) (data : AidingData w) (allowed : Msg w → Prop) :
    Prop where
  pending : data.aidingDataForDeletion = data.requested
  waits : data.locEng.engineStatus ≠ engineOn → data.requested = 0
  deletes : ∀ msg, allowed msg → (data.proc config msg).2 = data.due config msg

variable {config data} {msg : Msg w}

theorem receive_pending (pending : data.aidingDataForDeletion = data.requested)
    (guarded : RepeatGuard data msg) :
    (data.receive config msg).aidingDataForDeletion = (data.receive config msg).requested := by
  cases msg with
  | delAidData mType =>
      have repeated : Sub data.requested mType := pending ▸ guarded
      apply Sub.antisymm
      · exact sub_or_right
      · exact or_sub.mpr ⟨repeated, Sub.refl mType⟩
  | reportStatus status => exact pending

theorem proc_eq (pending : data.aidingDataForDeletion = data.requested)
    (guarded : RepeatGuard data msg) :
    (data.proc config msg).2 = data.due config msg ∧
      (data.proc config msg).1.aidingDataForDeletion = (data.proc config msg).1.requested ∧
        ((data.proc config msg).1.locEng.engineStatus ≠ engineOn →
          (data.proc config msg).1.requested = 0) := by
  have received : (data.receive config msg).aidingDataForDeletion = _ :=
    receive_pending pending guarded
  simp only [proc, due, updateAidingDataForDeletion, received]
  by_cases deletes : (data.receive config msg).locEng.engineStatus ≠ engineOn ∧
      (data.receive config msg).requested ≠ 0
  · have isDue : ¬((data.receive config msg).locEng.engineStatus = engineOn ∨
        (data.receive config msg).requested = 0) := by
      rintro (isOn | nothing)
      · exact deletes.1 isOn
      · exact deletes.2 nothing
    simp only [if_pos deletes, if_neg isDue]
    exact ⟨trivial, trivial, fun _ => trivial⟩
  · have notDue : (data.receive config msg).locEng.engineStatus = engineOn ∨
        (data.receive config msg).requested = 0 := by
      simpa only [not_and_or, not_not] using deletes
    simp only [if_neg deletes, if_pos notDue, received]
    exact ⟨trivial, trivial, notDue.resolve_left⟩

/-- In every run in which a request that comes while another one waits repeats it, each call of
`deleteAidingData` is for what was requested since the last one. -/
theorem reachable_deletesOk
    (reached : Run.Reachable IsInit (Run.Guarded RepeatGuard (Step config)) data) :
    data.DeletesOk config (RepeatGuard data) := by
  have inv : data.aidingDataForDeletion = data.requested ∧
      (data.locEng.engineStatus ≠ engineOn → data.requested = 0) := by
    apply reached.invariant fun data => data.aidingDataForDeletion = data.requested ∧
      (data.locEng.engineStatus ≠ engineOn → data.requested = 0)
    · rintro _ rfl
      exact ⟨rfl, fun _ => rfl⟩
    · rintro data msg _ ⟨pending, -⟩ ⟨guarded, rfl⟩
      exact (proc_eq pending guarded).2
  exact ⟨inv.1, inv.2, fun msg guarded => (proc_eq inv.1 guarded).1⟩

def silent : LocEngConfig := ⟨false, false, false, false, false, false, false, false, false⟩

theorem reachable_deletesOk_waiting :
    ∃ data : AidingData 16, data.requested = 3 ∧ data.DeletesOk silent (RepeatGuard data) := by
  refine ⟨_, ?_, reachable_deletesOk (.next (.delAidData 3) (.next (.delAidData 1)
    (.next (.reportStatus engineOn) (.start rfl) ⟨trivial, rfl⟩) ⟨?_, rfl⟩) ⟨?_, rfl⟩)⟩
  all_goals decide

/-- The second of two requests takes the place of the first. -/
theorem reachable_not_deletesOk :
    ¬∀ data : AidingData 16, Run.Reachable IsInit (Step silent) data →
      data.DeletesOk silent fun _ => True := by
  intro always
  have lost := (always _ (.next (.delAidData 2) (.next (.delAidData 1)
    (.next (.reportStatus engineOn) (.start rfl) rfl) rfl) rfl)).deletes (.reportStatus engineOff)
    trivial
  revert lost
  decide

end AidingData

end HtcPme.Gps
