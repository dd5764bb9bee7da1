import HtcPme.Gps.LocEng

/-!
# The restart of a session

The criteria of a fix are kept in the adapter, from which a session is started again when the modem
has come back.
-/

namespace HtcPme.Gps

inductive LocPositionMode where
  | invalid
  | standalone
  | msBased
  | msAssisted
  | reserved1
  | reserved2
  | reserved3
  | reserved4
  | reserved5
deriving DecidableEq

inductive GpsPositionRecurrence where
  | periodic
  | single
deriving DecidableEq

structure LocPosMode where
  mode : LocPositionMode
  recurrence : GpsPositionRecurrence
  minInterval : UInt32
  preferredAccuracy : UInt32
  preferredTime : UInt32
  sharePosition : Bool
  credentials : Vector UInt8 14
  provider : Vector UInt8 8
deriving DecidableEq

inductive OperMode where
  | msb
  | msa
  | cellId
  | wwan
  | standalone
deriving DecidableEq

/-- The mode that `LocApiV02::startFix` asks the modem for. -/
def LocPosMode.operationMode (fixCriteria : LocPosMode) : OperMode :=
  match fixCriteria.mode with
  | .msBased => .msb
  | .msAssisted => .msa
  | .reserved4 => .cellId
  | .reserved5 => .wwan
  | _ => .standalone

/-- `loc_eng_data_s_type` with the criteria in its adapter. -/
structure FixSession where
  locEng : LocEng
  mFixCriteria : LocPosMode
deriving DecidableEq

namespace FixSession

/-- The messages, of which `setPositionMode` may have no criteria. -/
inductive Msg where
  | setPositionMode (posMode : Option LocPosMode)
  | locEng (msg : LocEngMsg)
deriving DecidableEq

/-- The criteria of `LocPosMode()`. -/
def init : FixSession :=
  ⟨LocEng.init, .msBased, .periodic, 1000, 50, 120000, true, Vector.replicate 14 0,
    Vector.replicate 8 0⟩

variable (config : LocEngConfig) (fix : FixSession)

def endSession : FixSession :=
  ⟨{ fix.locEng with isInSession := false }, { fix.mFixCriteria with mode := .invalid }⟩

/-- `loc_eng_start_handler`, with the criteria that `startFix` gets. -/
def startHandler (ret : ℤ) : FixSession × List LocPosMode :=
  if fix.locEng.isInSession then (fix, [])
  else ({ fix with locEng := fix.locEng.startHandler ret }, [fix.mFixCriteria])

def handleEngineUp (ret : ℤ) : FixSession × List LocPosMode :=
  if fix.locEng.isInSession then fix.endSession.startHandler ret else (fix, [])

def reportPosition (report : PositionReport) : FixSession :=
  if fix.locEng.muteSessionState ≠ .inSession ∧ LocEng.reported config report = true ∧
      fix.mFixCriteria.recurrence = .single then fix.endSession
  else fix

def proc : Msg → FixSession × List LocPosMode
  | .setPositionMode posMode => ({ fix with mFixCriteria := posMode.getD fix.mFixCriteria }, [])
  | .locEng (.startFix ret) => fix.startHandler ret
  | .locEng .stopFix => (if fix.locEng.isInSession then fix.endSession else fix, [])
  | .locEng (.up ret) => fix.handleEngineUp ret
  | .locEng (.reportPosition report) => (fix.reportPosition config report, [])
  | .locEng msg => ({ fix with locEng := (fix.locEng.proc config msg).1 }, [])

def run (msgs : List Msg) : FixSession := msgs.foldl (fun fix msg => (fix.proc config msg).1) fix

/-- The messages while the modem is down: neither does the framework stop the session or set other
criteria, nor does a fix come. -/
def Msg.Waits : Msg → Prop
  | .locEng .stopFix | .locEng (.up _) | .locEng (.reportPosition _) | .setPositionMode _ => False
  | _ => True

def Restarts (outage : List Msg) (ret : ℤ) : Prop :=
  ((fix.run config outage).proc config (.locEng (.up ret))).2 = [fix.mFixCriteria] ∧
    ((fix.run config outage).proc config (.locEng (.up ret))).1.locEng.isInSession = true

variable {config fix}

theorem proc_waits (config : LocEngConfig) {msg : Msg} (waits : msg.Waits)
    (inSession : fix.locEng.isInSession = true) :
    (fix.proc config msg).1.mFixCriteria = fix.mFixCriteria ∧
      (fix.proc config msg).1.locEng.isInSession = true := by
  rcases msg with posMode | (ret | _ | status | request | emergencySupl | _ | ret | report |
    sentences | _ | _)
  · cases waits
  · simp [proc, startHandler, inSession]
  · cases waits
  · exact ⟨rfl, inSession⟩
  · refine ⟨rfl, ?_⟩
    simp only [proc, LocEng.proc, LocEng.niRequestHandler, LocEng.muteOneSession]
    grind
  · cases emergencySupl <;> exact ⟨rfl, inSession⟩
  · refine ⟨rfl, ?_⟩
    simp only [proc, LocEng.proc, LocEng.handleEngineDown, LocEng.reportStatus, LocEng.niReset]
    grind
  · cases waits
  · cases waits
  all_goals exact ⟨rfl, inSession⟩

theorem run_waits (config : LocEngConfig) {outage : List Msg} (waits : ∀ msg ∈ outage, msg.Waits)
    (inSession : fix.locEng.isInSession = true) :
    (fix.run config outage).mFixCriteria = fix.mFixCriteria ∧
      (fix.run config outage).locEng.isInSession = true := by
  induction outage generalizing fix with
  | nil => exact ⟨rfl, inSession⟩
  | cons msg rest ih =>
      rcases List.forall_mem_cons.mp waits with ⟨first, others⟩
      rcases proc_waits config first inSession with ⟨same, stays⟩
      rcases ih others stays with ⟨sameRun, staysRun⟩
      exact ⟨sameRun.trans same, staysRun⟩

/-- A session goes on with its own criteria after the modem was down if and only if these had no
mode, and the modem takes it up. -/
theorem restarts_iff {outage : List Msg} (ret : ℤ) (inSession : fix.locEng.isInSession = true)
    (waits : ∀ msg ∈ outage, msg.Waits) :
    fix.Restarts config (.locEng .down :: outage) ret ↔
      fix.mFixCriteria.mode = .invalid ∧ (ret = 0 ∨ ret = 7 ∨ ret = 10) := by
  have allWait : ∀ msg ∈ .locEng .down :: outage, Msg.Waits msg :=
    List.forall_mem_cons.mpr ⟨trivial, waits⟩
  rcases run_waits config allWait inSession with ⟨same, stays⟩
  have ended : ¬(fix.run config (.locEng .down :: outage)).endSession.locEng.isInSession = true :=
    nofun
  rw [Restarts, proc, handleEngineUp, if_pos stays, startHandler, if_neg ended, endSession, same,
    LocEng.startHandler]
  apply and_congr
  · constructor
    · intro passed
      exact (congrArg LocPosMode.mode (List.singleton_inj.mp passed)).symm
    · intro noMode
      rw [← noMode]
  · simp only [Bool.not_false, Bool.true_and]
    split <;> simp_all [or_assoc]

def withoutCallbacks : LocEngConfig :=
  ⟨false, false, false, false, false, false, false, false, false⟩

def started (mode : LocPositionMode) : FixSession :=
  init.run withoutCallbacks
    [.setPositionMode (some { init.mFixCriteria with mode }), .locEng (.startFix 0)]

theorem restarts_iff_invalid :
    (started .invalid).Restarts withoutCallbacks [.locEng .down] 0 ↔
      (started .invalid).mFixCriteria.mode = .invalid ∧
        ((0 : ℤ) = 0 ∨ (0 : ℤ) = 7 ∨ (0 : ℤ) = 10) :=
  restarts_iff 0 (by decide) (List.forall_mem_nil _)

/-- An MS-based session is restarted without a mode, so that the modem is asked for a standalone
one. -/
theorem not_restarts_msBased :
    (started .msBased).locEng.isInSession = true ∧
      ¬(started .msBased).Restarts withoutCallbacks [.locEng .down] 0 ∧
      (started .msBased).mFixCriteria.operationMode = .msb ∧
      (((started .msBased).run withoutCallbacks [.locEng .down]).proc withoutCallbacks
        (.locEng (.up 0))).2.map LocPosMode.operationMode = [.standalone] := by
  refine ⟨by decide, ?_, by decide, by decide⟩
  intro restarts
  have passed := congrArg (List.map LocPosMode.mode) restarts.1
  exact absurd passed (by decide)

end FixSession

end HtcPme.Gps
