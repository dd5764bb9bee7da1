import HtcPme.Foundation.Run
import Mathlib.Data.Fintype.Basic
import Mathlib.Logic.Function.Basic

/-!
# Network-initiated requests

Each accepted request has a record, a thread that waits for the user, and a raw payload. What is not
under the lock of the record is cut into steps.
-/

namespace HtcPme.Gps

open Function (update)

inductive UserResponse where
  | accept | deny | noResp
deriving DecidableEq

/-- `resp` of a record: not set yet, of the user or `GPS_NI_RESPONSE_NORESP`, or
`GPS_NI_RESPONSE_IGNORE`. -/
inductive NiResponse where
  | unset
  | user (response : UserResponse)
  | ignore
deriving DecidableEq

/-- The two records of `loc_eng_ni_data_s_type`. -/
inductive NiKind where
  | session | sessionEs
deriving DecidableEq

instance : Fintype NiKind := ⟨{.session, .sessionEs}, fun kind => by cases kind <;> decide⟩

/-- `loc_eng_ni_session_s_type` without `respTimeLeft`, as time-outs may come at any time. -/
structure NiSession where
  respRecvd : Bool
  rawRequest : Option ℕ
  reqID : ℕ
  resp : NiResponse
deriving DecidableEq

namespace LocEngNi

/-- A statement of `loc_eng_ni_reset_on_engine_restart` for one record: the test, `free`, the
assignment of `NULL`, and what is under the lock. -/
inductive ResetStage where
  | test | free | clear | signal
deriving DecidableEq

/-- The thread that handles the messages: idle, in `loc_eng_ni_request_handler` with the request
saved, or in `loc_eng_ni_reset_on_engine_restart`. -/
inductive Handler where
  | idle
  | storing (kind : NiKind) (payload : ℕ)
  | resetting (kind : NiKind) (stage : ResetStage)
deriving DecidableEq

def Handler.stores : Handler → Option NiKind
  | storing kind _ => some kind
  | _ => none

/-- `ni_thread_proc`: before its lock, in `pthread_cond_timedwait`, after its lock with `msg`, with
`reqID` reset, and at its end. -/
inductive Timer where
  | none
  | starting (kind : NiKind)
  | waiting (kind : NiKind)
  | unlocked (kind : NiKind) (msg : Option (ℕ × NiResponse))
  | cleared (msg : Option (ℕ × NiResponse))
  | finished
deriving DecidableEq

namespace Timer

def awaits : Timer → Option NiKind
  | starting kind | waiting kind => some kind
  | _ => Option.none

def holdsID : Timer → Option NiKind
  | unlocked kind _ => some kind
  | _ => Option.none

/-- The `LocEngInformNiResponse` that a thread has still to send. -/
def message : Timer → Option (ℕ × NiResponse)
  | unlocked _ msg | cleared msg => msg
  | _ => Option.none

end Timer

/-- A call of `loc_eng_ni_respond`: before its tests, before the lock of the record that it ignores,
and before that of the one that it is for. -/
inductive Responder where
  | idle
  | ignoring (notifId : ℕ) (response : UserResponse)
  | responding (kind : NiKind) (notifId : ℕ) (response : UserResponse)
  | done
deriving DecidableEq

end LocEngNi

/-- `loc_eng_ni_data_s_type` and the threads. The rest is not in the source: the notification ID of
each request, what became of its payload, what was given for it, and whether its thread timed out.
-/
structure LocEngNi (κ : Type*) where
  session : NiKind → NiSession
  reqIDCounter : ℕ
  handler : LocEngNi.Handler
  timer : ℕ → LocEngNi.Timer
  responder : κ → LocEngNi.Responder
  arrivals : ℕ
  reqOf : ℕ → ℕ
  freed : ℕ → ℕ
  passed : ℕ → List NiResponse
  given : ℕ → List (ℕ × UserResponse)
  timedOut : ℕ → Bool

namespace LocEngNi

variable {κ : Type*}

def init : LocEngNi κ where
  session _ := ⟨false, none, 0, .unset⟩
  reqIDCounter := 0
  handler := .idle
  timer _ := .none
  responder _ := .idle
  arrivals := 0
  reqOf _ := 0
  freed _ := 0
  passed _ := []
  given _ := []
  timedOut _ := false

variable (ni : LocEngNi κ)

/-- Whether `loc_eng_ni_request_handler` has a record for a request. -/
def accepts : NiKind → Bool
  | .sessionEs => (ni.session .sessionEs).rawRequest.isNone
  | .session => (ni.session .session).rawRequest.isNone &&
      (ni.session .sessionEs).rawRequest.isNone

/-- `loc_eng_ni_request_handler` up to where the request is saved, or ignored. -/
def saveRequest (kind : NiKind) : LocEngNi κ :=
  let payload := ni.arrivals
  if ni.accepts kind then
    { ni with
      arrivals := ni.arrivals + 1
      session := update ni.session kind
        { ni.session kind with rawRequest := some payload }
      handler := .storing kind payload }
  else
    { ni with
      arrivals := ni.arrivals + 1
      freed := update ni.freed payload (ni.freed payload + 1) }

def startThread (kind : NiKind) (payload : ℕ) : LocEngNi κ :=
  let reqID := ni.reqIDCounter + 1
  { ni with
    reqIDCounter := reqID
    session := update ni.session kind { ni.session kind with reqID }
    reqOf := update ni.reqOf payload reqID
    timer := update ni.timer payload (.starting kind)
    handler := .idle }

/-- What `loc_eng_ni_reset_on_engine_restart` goes on with after a record. -/
def afterReset : NiKind → Handler
  | .sessionEs => .resetting .session .test
  | .session => .idle

def resetStep (kind : NiKind) : ResetStage → LocEngNi κ
  | .test =>
      { ni with
        handler :=
          if (ni.session kind).rawRequest.isSome then .resetting kind .free
          else afterReset kind }
  | .free =>
      { ni with
        freed := match (ni.session kind).rawRequest with
          | some payload => update ni.freed payload (ni.freed payload + 1)
          | none => ni.freed
        handler := .resetting kind .clear }
  | .clear =>
      { ni with
        session := update ni.session kind { ni.session kind with rawRequest := none }
        handler := .resetting kind .signal }
  | .signal =>
      { ni with
        session := update ni.session kind { ni.session kind with respRecvd := true }
        handler := afterReset kind }

/-- The record that `loc_eng_ni_respond` finds for a notification ID. -/
def sessionFor (notifId : ℕ) : Option NiKind :=
  if notifId = (ni.session .sessionEs).reqID ∧ (ni.session .sessionEs).rawRequest ≠ none then
    some .sessionEs
  else if notifId = (ni.session .session).reqID ∧ (ni.session .session).rawRequest ≠ none then
    some .session
  else none

/-- What `loc_eng_ni_respond` does with the record that it finds. -/
def respondTo (notifId : ℕ) (response : UserResponse) : Option NiKind → Responder
  | some .sessionEs =>
      if response = .accept ∧ (ni.session .session).rawRequest ≠ none then
        .ignoring notifId response
      else .responding .sessionEs notifId response
  | some .session => .responding .session notifId response
  | none => .done

variable [DecidableEq κ]

def respond (call : κ) (notifId : ℕ) (response : UserResponse) : LocEngNi κ :=
  { ni with
    responder := update ni.responder call
      (ni.respondTo notifId response (ni.sessionFor notifId)) }

/-- The part of `loc_eng_ni_respond` under the lock of the record that is to be ignored. -/
def ignoreSession (call : κ) (notifId : ℕ) (response : UserResponse) : LocEngNi κ :=
  { ni with
    session := update ni.session .session
      { ni.session .session with resp := .ignore, respRecvd := true }
    responder := update ni.responder call (.responding .sessionEs notifId response) }

/-- The part of `loc_eng_ni_respond` under the lock of the record that it is for. -/
def giveResponse (call : κ) (kind : NiKind) (notifId : ℕ) (response : UserResponse) :
    LocEngNi κ :=
  { ni with
    session := update ni.session kind
      { ni.session kind with resp := .user response, respRecvd := true }
    responder := update ni.responder call .done
    given := match (ni.session kind).rawRequest with
      | some payload => update ni.given payload (ni.given payload ++ [(notifId, response)])
      | none => ni.given }

/-- `ni_thread_proc` from the end of its loop to where it leaves the lock. -/
def leaveLock (thread : ℕ) (kind : NiKind) : LocEngNi κ :=
  let session := ni.session kind
  match session.rawRequest with
  | some payload =>
      if session.resp ≠ .ignore then
        { ni with
          session := update ni.session kind
            { session with respRecvd := false, rawRequest := none }
          timer := update ni.timer thread (.unlocked kind (some (payload, session.resp))) }
      else
        { ni with
          session := update ni.session kind
            { session with respRecvd := false, rawRequest := none }
          freed := update ni.freed payload (ni.freed payload + 1)
          timer := update ni.timer thread (.unlocked kind none) }
  | none =>
      { ni with
        session := update ni.session kind { session with respRecvd := false }
        timer := update ni.timer thread (.unlocked kind none) }

def testResponse (thread : ℕ) (kind : NiKind) : LocEngNi κ :=
  if (ni.session kind).respRecvd then ni.leaveLock thread kind
  else { ni with timer := update ni.timer thread (.waiting kind) }

def expire (thread : ℕ) (kind : NiKind) : LocEngNi κ :=
  let expired := { ni with
    session := update ni.session kind { ni.session kind with resp := .user .noResp }
    timedOut := update ni.timedOut thread true }
  expired.leaveLock thread kind

def clearReqID (thread : ℕ) (kind : NiKind) (msg : Option (ℕ × NiResponse)) : LocEngNi κ :=
  { ni with
    session := update ni.session kind { ni.session kind with reqID := 0 }
    timer := update ni.timer thread (.cleared msg) }

def sendMsg (thread : ℕ) (msg : Option (ℕ × NiResponse)) : LocEngNi κ :=
  { ni with
    passed := match msg with
      | some (payload, resp) =>
          update ni.passed payload (ni.passed payload ++ [resp])
      | none => ni.passed
    timer := update ni.timer thread .finished }

/-- The steps: a request comes and is stored, the engine restarts, a user responds, and what the
threads do next. -/
inductive Event (κ : Type*) where
  | request (kind : NiKind)
  | start
  | restart
  | reset
  | respond (call : κ) (notifId : ℕ) (response : UserResponse)
  | lock (call : κ)
  | wake (thread : ℕ)
  | expire (thread : ℕ)
  | clear (thread : ℕ)
  | send (thread : ℕ)

def step : Event κ → Option (LocEngNi κ)
  | .request kind =>
      match ni.handler with
      | .idle => some (ni.saveRequest kind)
      | _ => none
  | .start =>
      match ni.handler with
      | .storing kind payload => some (ni.startThread kind payload)
      | _ => none
  | .restart =>
      match ni.handler with
      | .idle => some { ni with handler := .resetting .sessionEs .test }
      | _ => none
  | .reset =>
      match ni.handler with
      | .resetting kind stage => some (ni.resetStep kind stage)
      | _ => none
  | .respond call notifId response =>
      match ni.responder call with
      | .idle => some (ni.respond call notifId response)
      | _ => none
  | .lock call =>
      match ni.responder call with
      | .ignoring notifId response => some (ni.ignoreSession call notifId response)
      | .responding kind notifId response => some (ni.giveResponse call kind notifId response)
      | _ => none
  | .wake thread =>
      match ni.timer thread with
      | .starting kind | .waiting kind => some (ni.testResponse thread kind)
      | _ => none
  | .expire thread =>
      match ni.timer thread with
      | .waiting kind => some (ni.expire thread kind)
      | _ => none
  | .clear thread =>
      match ni.timer thread with
      | .unlocked kind msg => some (ni.clearReqID thread kind msg)
      | _ => none
  | .send thread =>
      match ni.timer thread with
      | .cleared msg => some (ni.sendMsg thread msg)
      | _ => none

def IsInit (ni : LocEngNi κ) : Prop := ni = init

def Step (ni : LocEngNi κ) (event : Event κ) (ni' : LocEngNi κ) : Prop := ni.step event = some ni'

def IsAnswered (ni : LocEngNi κ) (kind : NiKind) : Prop :=
  (ni.session kind).respRecvd = true ∧ (ni.session kind).resp ≠ .ignore

def Own (ni : LocEngNi κ) (payload : ℕ) (resp : NiResponse) : Prop :=
  (resp = .user .noResp ∧ ni.timedOut payload = true) ∨
    ∃ response, resp = .user response ∧ (ni.reqOf payload, response) ∈ ni.given payload

/-- Every payload is freed or passed once, with what is for its own request, and what the user gives
for a request is found and passed. -/
structure NiOk (ni : LocEngNi κ) : Prop where
  atMostOnce : ∀ payload, ni.freed payload + (ni.passed payload).length ≤ 1
  notLost : ∀ payload < ni.arrivals, ni.freed payload + (ni.passed payload).length = 0 →
    (∃ kind, (ni.session kind).rawRequest = some payload ∧
      (ni.handler = .storing kind payload ∨ (ni.timer payload).awaits = some kind)) ∨
        ∃ resp, (ni.timer payload).message = some (payload, resp)
  own : ∀ payload, ∀ resp ∈ ni.passed payload, ni.Own payload resp
  found : ∀ kind payload, (ni.session kind).rawRequest = some payload →
    (ni.timer payload).awaits = some kind → ni.sessionFor (ni.reqOf payload) = some kind
  delivered : ∀ payload response, (ni.reqOf payload, response) ∈ ni.given payload →
    ni.passed payload = [.user response] ∨
      (ni.timer payload).message = some (payload, .user response) ∨
        ∃ kind, (ni.timer payload).awaits = some kind ∧
          (ni.session kind).rawRequest = some payload ∧
            (ni.session kind).respRecvd = true ∧ (ni.session kind).resp = .user response

/-- A response of a user reaches the request that it is for, and neither it nor the end of a request
overwrites one that its thread has not looked at yet. -/
def LockGuard (ni : LocEngNi κ) : Responder → Prop
  | .ignoring _ _ => (ni.session .session).rawRequest ≠ none → ¬ni.IsAnswered .session
  | .responding kind notifId response => (ni.session kind).rawRequest ≠ none →
      (ni.session kind).reqID = notifId ∧ ni.handler.stores ≠ some kind ∧
        ni.handler ≠ .resetting kind .clear ∧
          (ni.IsAnswered kind → (ni.session kind).resp = .user response)
  | _ => True

/-- A record is used again and its notification ID reset only when no request is in it, nothing is
done between `free` and the assignment of `NULL`, and a response is not overwritten before its
thread has looked at it. -/
def NiGuard (ni : LocEngNi κ) : Event κ → Prop
  | .request kind => ni.accepts kind = true → (ni.session kind).respRecvd = false
  | .reset => ∀ kind, ni.handler = .resetting kind .free →
      (ni.session kind).rawRequest ≠ none → ¬ni.IsAnswered kind
  | .lock call => ni.LockGuard (ni.responder call)
  | .wake thread => ∀ kind, (ni.timer thread).awaits = some kind →
      (ni.session kind).respRecvd = true → ni.handler ≠ .resetting kind .clear
  | .expire thread => ∀ kind, (ni.timer thread).awaits = some kind →
      ni.handler ≠ .resetting kind .clear ∧
        ((ni.session kind).rawRequest ≠ none → ¬ni.IsAnswered kind)
  | .clear thread => ∀ kind, (ni.timer thread).holdsID = some kind →
      (ni.session kind).rawRequest = none
  | _ => True

instance (ni : LocEngNi κ) (kind : NiKind) : Decidable (ni.IsAnswered kind) :=
  inferInstanceAs (Decidable (_ ∧ _))

instance (ni : LocEngNi κ) (responder : Responder) : Decidable (ni.LockGuard responder) :=
  match responder with
  | .ignoring _ _ => inferInstanceAs (Decidable (_ → _))
  | .responding _ _ _ => inferInstanceAs (Decidable (_ → _))
  | .idle | .done => isTrue trivial

instance (ni : LocEngNi κ) (event : Event κ) : Decidable (ni.NiGuard event) :=
  match event with
  | .request _ => inferInstanceAs (Decidable (_ → _))
  | .reset => inferInstanceAs (Decidable (∀ _, _))
  | .lock call => inferInstanceAs (Decidable (ni.LockGuard (ni.responder call)))
  | .wake _ => inferInstanceAs (Decidable (∀ _, _))
  | .expire _ => inferInstanceAs (Decidable (∀ _, _))
  | .clear _ => inferInstanceAs (Decidable (∀ _, _))
  | .start | .restart | .respond _ _ _ | .send _ => isTrue trivial

end LocEngNi

end HtcPme.Gps
