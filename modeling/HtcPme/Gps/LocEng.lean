import HtcPme.Foundation.Run
import Mathlib.Data.Int.Notation

/-!
# loc_eng

What the engine delivers to the framework. An overriding request mutes one session, and the reports
look at `mute_session_state`.
-/

namespace HtcPme.Gps

inductive MuteSession where
  | none
  | wait
  | inSession
deriving DecidableEq

inductive SessStatus where
  | success
  | intermediate
  | failure
deriving DecidableEq

structure LocEngConfig where
  locationCb : Bool
  statusCb : Bool
  nmeaCb : Bool
  gnssSvStatusCb : Bool
  gnssMeasurementCb : Bool
  niNotifyCb : Bool
  intermediateFix : Bool
  generateNmea : Bool
  recurrenceSingle : Bool
deriving DecidableEq

/-- `loc_eng_data_s_type`, as far as the reports use it. Of the two NI sessions it has whether they
have a raw request. -/
structure LocEng where
  muteSessionState : MuteSession
  isInSession : Bool
  engineStatus : UInt16
  fixSessionStatus : UInt16
  session : Bool
  sessionEs : Bool
deriving DecidableEq

inductive Callback where
  | location
  | svStatus
  | nmea
  | measurement
  | status (value : UInt16)
deriving DecidableEq

/-- `LocEngReportPosition`: whether a satellite, sensor or hybrid fix, whether the accuracy exceeds
the threshold, and how many sentences are generated for it. -/
structure PositionReport where
  status : SessStatus
  satellite : Bool
  inaccurate : Bool
  sentences : ℕ
deriving DecidableEq

/-- `GpsNiNotification`, with whether there is a raw request. -/
structure NiRequest where
  emergencySupl : Bool
  privacyOverride : Bool
  passThrough : Bool
deriving DecidableEq

inductive LocEngMsg where
  | startFix (ret : ℤ)
  | stopFix
  | reportStatus (status : UInt16)
  | requestNi (request : NiRequest)
  | niDone (emergencySupl : Bool)
  | down
  | up (ret : ℤ)
  | reportPosition (report : PositionReport)
  | reportSv (sentences : ℕ)
  | reportNmea
  | reportMeasurement
deriving DecidableEq

namespace LocEng

def sessionBegin : UInt16 := 1

def sessionEnd : UInt16 := 2

def engineOn : UInt16 := 3

def engineOff : UInt16 := 4

variable (config : LocEngConfig) (locEng : LocEng)

def init : LocEng := ⟨.none, false, 0, 0, false, false⟩

def muteOneSession : LocEng := { locEng with muteSessionState := .wait }

/-- `loc_eng_start_handler`, where `startFix` answers with success, engine down, phone offline or
internal error. -/
def startHandler (ret : ℤ) : LocEng :=
  if !locEng.isInSession && (ret = 0 || ret = 7 || ret = 10) then
    { locEng with isInSession := true }
  else locEng

def reportStatus (status : UInt16) : LocEng × List Callback :=
  let muteSessionState :=
    if (status = sessionBegin ∨ status = engineOn) ∧ locEng.muteSessionState = .wait then
      .inSession
    else locEng.muteSessionState
  let muteSessionState :=
    if muteSessionState = .inSession ∧ (status = sessionEnd ∨ status = engineOff) then .none
    else muteSessionState
  let told := status ≠ 0 ∧ ¬(status = sessionEnd ∧ locEng.isInSession = true) ∧
    ¬(status = sessionBegin ∧ locEng.isInSession = false)
  ({ locEng with
      muteSessionState
      engineStatus :=
        if status = engineOn ∨ status = engineOff then status else locEng.engineStatus
      fixSessionStatus :=
        if status = sessionBegin ∨ status = sessionEnd then status
        else locEng.fixSessionStatus },
    if told ∧ muteSessionState ≠ .inSession ∧ config.statusCb = true then [.status status] else [])

/-- The session that `loc_eng_ni_request_handler` takes for a request is free. -/
def accepts (request : NiRequest) : Bool :=
  config.niNotifyCb &&
    if request.emergencySupl then !locEng.sessionEs else !locEng.session && !locEng.sessionEs

def niRequestHandler (request : NiRequest) : LocEng :=
  if locEng.accepts config request then
    let locEng :=
      if request.emergencySupl then { locEng with sessionEs := request.passThrough }
      else { locEng with session := request.passThrough }
    if request.privacyOverride then locEng.muteOneSession else locEng
  else locEng

def niReset : LocEng :=
  if config.niNotifyCb then { locEng with session := false, sessionEs := false } else locEng

def handleEngineDown : LocEng × List Callback :=
  (locEng.niReset config).reportStatus config engineOff

def handleEngineUp (ret : ℤ) : LocEng :=
  if locEng.isInSession then { locEng with isInSession := false }.startHandler ret else locEng

def nmeaSend (sentences : ℕ) : List Callback :=
  if config.nmeaCb then List.replicate sentences .nmea else []

/-- `LocEngReportPosition::proc` delivers the fix. -/
def reported (report : PositionReport) : Bool :=
  config.locationCb && (report.status == .failure ||
    (report.status == .success && report.satellite) ||
      (config.intermediateFix && !report.inaccurate))

def reportPosition (report : PositionReport) : LocEng × List Callback :=
  if locEng.muteSessionState = .inSession then (locEng, [])
  else
    let reported := reported config report
    let next :=
      if reported && config.recurrenceSingle then { locEng with isInSession := false } else locEng
    (next, (if reported then [.location] else []) ++
      if config.generateNmea && next.isInSession then nmeaSend config report.sentences else [])

def reportSv (sentences : ℕ) : List Callback :=
  if locEng.muteSessionState = .inSession then []
  else (if config.gnssSvStatusCb then [.svStatus] else []) ++
    if config.generateNmea then nmeaSend config sentences else []

def reportNmea : List Callback := if config.nmeaCb then [.nmea] else []

def reportMeasurement : List Callback :=
  if locEng.muteSessionState = .inSession then []
  else if config.gnssMeasurementCb then [.measurement] else []

def proc : LocEngMsg → LocEng × List Callback
  | .startFix ret => (locEng.startHandler ret, [])
  | .stopFix => ({ locEng with isInSession := false }, [])
  | .reportStatus status => locEng.reportStatus config status
  | .requestNi request => (locEng.niRequestHandler config request, [])
  | .niDone true => ({ locEng with sessionEs := false }, [])
  | .niDone false => ({ locEng with session := false }, [])
  | .down => locEng.handleEngineDown config
  | .up ret => (locEng.handleEngineUp ret, [])
  | .reportPosition report => locEng.reportPosition config report
  | .reportSv sentences => (locEng, locEng.reportSv config sentences)
  | .reportNmea => (locEng, reportNmea config)
  | .reportMeasurement => (locEng, locEng.reportMeasurement config)

/-- What muting one session means: a session that runs, a mute that waits for one to begin, and one
that is muted. -/
structure Mute where
  running : Bool
  pending : Bool
  muted : Bool
deriving DecidableEq

namespace Mute

variable (mute : Mute)

def request : Mute :=
  if mute.running then { mute with muted := true } else { mute with pending := true }

def report (status : UInt16) : Mute :=
  if status = sessionBegin ∨ status = engineOn then
    ⟨mute.running || status = sessionBegin, false, mute.muted || mute.pending⟩
  else if status = sessionEnd ∨ status = engineOff then ⟨false, mute.pending, false⟩
  else mute

end Mute

def mutes : LocEngMsg → Bool
  | .requestNi request => locEng.accepts config request && request.privacyOverride
  | _ => false

def muteAfter (mute : Mute) (msg : LocEngMsg) : Mute :=
  match msg with
  | .reportStatus status => mute.report status
  | .down => mute.report engineOff
  | .requestNi _ => if locEng.mutes config msg then mute.request else mute
  | _ => mute

theorem muteAfter_requestNi (mute : Mute) (request : NiRequest) :
    locEng.muteAfter config mute (.requestNi request) =
      if locEng.mutes config (.requestNi request) then mute.request else mute := rfl

theorem muteAfter_down (mute : Mute) :
    locEng.muteAfter config mute .down = mute.report engineOff := rfl

theorem muteAfter_reportPosition (mute : Mute) (report : PositionReport) :
    locEng.muteAfter config mute (.reportPosition report) = mute := rfl

theorem muteAfter_reportSv (mute : Mute) (sentences : ℕ) :
    locEng.muteAfter config mute (.reportSv sentences) = mute := rfl

theorem muteAfter_reportNmea (mute : Mute) :
    locEng.muteAfter config mute .reportNmea = mute := rfl

theorem muteAfter_reportMeasurement (mute : Mute) :
    locEng.muteAfter config mute .reportMeasurement = mute := rfl

structure Muting where
  locEng : LocEng
  mute : Mute
deriving DecidableEq

namespace Muting

variable {config} {muting : Muting} {msg : LocEngMsg}

def IsInit (muting : Muting) : Prop := muting = ⟨init, ⟨false, false, false⟩⟩

def Step (config : LocEngConfig) (muting : Muting) (msg : LocEngMsg) (next : Muting) : Prop :=
  next = ⟨(muting.locEng.proc config msg).1, muting.locEng.muteAfter config muting.mute msg⟩

/-- No session runs or is muted when another one is to be muted, and no NMEA report of the modem
comes while one is muted. -/
def MuteGuard (config : LocEngConfig) (muting : Muting) (msg : LocEngMsg) : Prop :=
  (muting.locEng.mutes config msg = true →
      muting.mute.running = false ∧ muting.mute.muted = false) ∧
    (msg = .reportNmea → config.nmeaCb = true → muting.mute.muted = false)

/-- A message delivers nothing in a muted session, and otherwise what it would deliver if no session
had ever been muted. -/
def Delivers (config : LocEngConfig) (muting : Muting) (msg : LocEngMsg) : Prop :=
  (muting.locEng.proc config msg).2 =
    if (muting.locEng.muteAfter config muting.mute msg).muted = true then []
    else ({ muting.locEng with muteSessionState := .none }.proc config msg).2

instance (config : LocEngConfig) (muting : Muting) (msg : LocEngMsg) :
    Decidable (muting.Delivers config msg) :=
  inferInstanceAs (Decidable (_ = _))

structure Synced (muting : Muting) : Prop where
  pending : muting.locEng.muteSessionState = .wait ↔ muting.mute.pending = true
  muted : muting.locEng.muteSessionState = .inSession ↔ muting.mute.muted = true

theorem begin_ne_end {status : UInt16} (begins : status = sessionBegin ∨ status = engineOn) :
    ¬(status = sessionEnd ∨ status = engineOff) := by
  rcases begins with rfl | rfl <;> decide

variable {mute : Mute} {locEng : LocEng}

theorem Synced.reportStatus (synced : Synced ⟨locEng, mute⟩) (status : UInt16) :
    Synced ⟨(locEng.reportStatus config status).1, mute.report status⟩ := by
  rcases synced with ⟨pending, muted⟩
  simp only at pending muted
  by_cases begins : status = sessionBegin ∨ status = engineOn
  · have notEnds := begin_ne_end begins
    cases state : locEng.muteSessionState <;>
      constructor <;>
      simp_all [LocEng.reportStatus, Mute.report]
  · by_cases ends : status = sessionEnd ∨ status = engineOff
    · cases state : locEng.muteSessionState <;>
        constructor <;>
        simp_all [LocEng.reportStatus, Mute.report]
    · constructor <;> simp_all [LocEng.reportStatus, Mute.report]

theorem Synced.keep {locEng next : LocEng} (synced : Synced ⟨locEng, mute⟩)
    (same : next.muteSessionState = locEng.muteSessionState) : Synced ⟨next, mute⟩ := by
  constructor
  · simp only [same]
    exact synced.pending
  · simp only [same]
    exact synced.muted

@[simp]
theorem startHandler_muteSessionState (locEng : LocEng) (ret : ℤ) :
    (locEng.startHandler ret).muteSessionState = locEng.muteSessionState := by
  simp only [startHandler]
  split <;> rfl

@[simp]
theorem niReset_muteSessionState (locEng : LocEng) :
    (locEng.niReset config).muteSessionState = locEng.muteSessionState := by
  simp only [niReset]
  split <;> rfl

@[simp]
theorem handleEngineUp_muteSessionState (locEng : LocEng) (ret : ℤ) :
    (locEng.handleEngineUp ret).muteSessionState = locEng.muteSessionState := by
  simp only [handleEngineUp]
  split <;> simp

@[simp]
theorem reportPosition_muteSessionState (locEng : LocEng) (report : PositionReport) :
    (locEng.reportPosition config report).1.muteSessionState = locEng.muteSessionState := by
  simp only [reportPosition]
  repeat' split
  all_goals rfl

theorem Synced.requestNi (synced : Synced muting) (request : NiRequest)
    (guarded : MuteGuard config muting (.requestNi request)) :
    Synced ⟨muting.locEng.niRequestHandler config request,
      muting.locEng.muteAfter config muting.mute (.requestNi request)⟩ := by
  have idle := guarded.1
  rcases synced with ⟨pending, muted⟩
  simp only [mutes, Bool.and_eq_true] at idle
  simp only [niRequestHandler, muteAfter_requestNi, mutes]
  by_cases accepted : muting.locEng.accepts config request = true
  · by_cases override : request.privacyOverride = true
    · rcases idle ⟨accepted, override⟩ with ⟨notRunning, notMuted⟩
      simp only [accepted, override, Bool.and_true, if_true, Mute.request, notRunning,
        Bool.false_eq_true, if_false]
      constructor
      · simp [muteOneSession]
      · simp [muteOneSession, notMuted]
    · simp only [accepted, override, if_true, if_false, Bool.and_false, Bool.false_eq_true]
      split <;> exact ⟨pending, muted⟩
  · simp only [accepted, Bool.false_eq_true, if_false, Bool.false_and]
    exact ⟨pending, muted⟩

theorem Synced.step (synced : Synced muting) (guarded : MuteGuard config muting msg) :
    Synced ⟨(muting.locEng.proc config msg).1, muting.locEng.muteAfter config muting.mute msg⟩ := by
  cases msg with
  | startFix ret => exact synced.keep (startHandler_muteSessionState _ ret)
  | stopFix | reportSv sentences | reportNmea | reportMeasurement => exact synced.keep rfl
  | reportStatus status => exact Synced.reportStatus synced status
  | requestNi request => exact synced.requestNi request guarded
  | niDone emergencySupl => cases emergencySupl <;> exact synced.keep rfl
  | down =>
      have reset : Synced ⟨muting.locEng.niReset config, muting.mute⟩ :=
        synced.keep (niReset_muteSessionState muting.locEng)
      exact reset.reportStatus engineOff
  | up ret => exact synced.keep (handleEngineUp_muteSessionState _ ret)
  | reportPosition report => exact synced.keep (reportPosition_muteSessionState _ report)

theorem reportStatus_snd (locEng : LocEng) (status : UInt16) :
    (locEng.reportStatus config status).2 =
      if (status ≠ 0 ∧ ¬(status = sessionEnd ∧ locEng.isInSession = true) ∧
            ¬(status = sessionBegin ∧ locEng.isInSession = false)) ∧
          (locEng.reportStatus config status).1.muteSessionState ≠ .inSession ∧
            config.statusCb = true then
        [.status status]
      else [] := rfl

theorem delivered_status (synced : Synced ⟨locEng, mute⟩) (status : UInt16) :
    (locEng.reportStatus config status).2 =
      if (mute.report status).muted = true then []
      else ({ locEng with muteSessionState := .none }.reportStatus config status).2 := by
  have after : Synced ⟨(locEng.reportStatus config status).1, mute.report status⟩ :=
    synced.reportStatus status
  have never : ({ locEng with muteSessionState := .none }.reportStatus config
      status).1.muteSessionState ≠ .inSession := by
    simp [reportStatus]
  simp only [reportStatus_snd]
  cases muted : (mute.report status).muted with
  | true =>
      have inSession := after.muted.mpr muted
      simp only at inSession
      simp [inSession]
  | false =>
      have notInSession : (locEng.reportStatus config status).1.muteSessionState ≠ .inSession := by
        intro inSession
        have isMuted := after.muted.mp inSession
        simp [muted] at isMuted
      simp [never, notInSession]

theorem Synced.delivers (synced : Synced muting) (guarded : MuteGuard config muting msg) :
    Delivers config muting msg := by
  cases msg with
  | startFix ret | stopFix | requestNi request | up ret => simp [Delivers, proc]
  | reportStatus status => exact delivered_status synced status
  | niDone emergencySupl => cases emergencySupl <;> simp [Delivers, proc]
  | down =>
      have reset : Synced ⟨muting.locEng.niReset config, muting.mute⟩ :=
        synced.keep (niReset_muteSessionState muting.locEng)
      have same : { muting.locEng with muteSessionState := .none }.niReset config =
          { muting.locEng.niReset config with muteSessionState := .none } := by
        simp only [niReset]
        split <;> rfl
      simp only [Delivers, proc, handleEngineDown, muteAfter_down, same]
      exact delivered_status reset engineOff
  | reportPosition report =>
      simp only [Delivers, proc, muteAfter_reportPosition, reportPosition, synced.muted]
      split
      · rfl
      · simp
        split <;> rfl
  | reportSv sentences =>
      simp [Delivers, proc, muteAfter_reportSv, reportSv, synced.muted]
  | reportNmea =>
      simp only [Delivers, proc, muteAfter_reportNmea, reportNmea]
      cases nmea : config.nmeaCb with
      | true => simp [guarded.2 rfl nmea]
      | false => simp
  | reportMeasurement =>
      simp [Delivers, proc, muteAfter_reportMeasurement, reportMeasurement, synced.muted]

section Runs

def allCallbacks : LocEngConfig := ⟨true, true, true, true, true, true, false, false, false⟩

def privacyOverride (emergencySupl : Bool) : NiRequest := ⟨emergencySupl, true, true⟩

def finalFix : PositionReport := ⟨.success, true, false, 0⟩

end Runs

end Muting

end LocEng

end HtcPme.Gps
