import HtcPme.Gps.LocApi

/-!
# Sessions of LocApiV02

The events that are registered with the modem while fixes are started and stopped, the engine goes
on and off, and the modem restarts.
-/

namespace HtcPme.Gps

open BitMask LocApi

/-- A `LocApiV02` with `mEngineOn`. `engineReported` and `restarted` are not in the source: whether
the engine was last reported on, and whether the modem has restarted since the last start or stop.
-/
structure LocApiV02 (α : Type*) extends LocApi α where
  mEngineOn : Bool
  engineReported : Bool
  restarted : Bool

namespace LocApiV02

def engineState : BitVec 64 := 0x80

def tracking : BitVec 64 := 0x1000087

variable {α : Type*}

def new (mEvtMask : α → EventMask) (mExcludedMask : EventMask) : LocApiV02 α :=
  { LocApi.new mEvtMask mExcludedMask with
    mEngineOn := false, engineReported := false, restarted := false }

def IsInit (api : LocApiV02 α) : Prop :=
  ∃ mEvtMask mExcludedMask, api = new mEvtMask mExcludedMask

variable (api : LocApiV02 α)

def noSession : BitVec 64 := LocApi.adjustMaskForNoSession (LocApi.convertMask api.mMask)

structure SessionOk (api : LocApiV02 α) : Prop where
  inSession : api.mInSession = true → api.registered = LocApi.convertMask api.mMask
  engineOn : api.mInSession = false → api.engineReported = true → Sub engineState api.registered
  noSession : api.mInSession = false → api.engineReported = false →
    api.registered = api.noSession ∧ api.registered &&& tracking = 0

def startFix : LocApiV02 α :=
  { api with
    toLocApi := { api.toLocApi with mInSession := true }.registerEventMask api.mQmiMask
    restarted := false }

def stopFix : LocApiV02 α :=
  let stopped := { api.toLocApi with mInSession := false }
  { api with
    toLocApi := if api.mEngineOn then stopped else stopped.registerEventMask api.mQmiMask
    restarted := false }

def updateEngineState (engineOn : Bool) : LocApiV02 α :=
  { api with
    toLocApi :=
      if api.mEngineOn && !api.mInSession && !engineOn then
        api.toLocApi.registerEventMask api.mQmiMask
      else api.toLocApi
    mEngineOn := engineOn
    engineReported := engineOn }

def ssr (evtMask : EventMask) : LocApiV02 α :=
  { api with
    toLocApi := api.toLocApi.close.openClient evtMask
    engineReported := false
    restarted := true }

def openMsg (mask : EventMask) : LocApiV02 α :=
  { api with
    toLocApi := api.toLocApi.openClient mask
    engineReported := api.clientOpen && api.engineReported }

inductive Msg where
  | openMsg (mask : EventMask)
  | startFix
  | stopFix
  | engineState (engineOn : Bool)
  | ssr (evtMask : EventMask)
deriving DecidableEq

/-- The processing of a message. A fix is started and stopped while the client is open, as its
requests fail otherwise. -/
def proc : Msg → Option (LocApiV02 α)
  | .openMsg mask => some (api.openMsg mask)
  | .startFix => if api.clientOpen then some api.startFix else none
  | .stopFix => if api.clientOpen then some api.stopFix else none
  | .engineState engineOn => some (api.updateEngineState engineOn)
  | .ssr evtMask => some (api.ssr evtMask)

def Step (api : LocApiV02 α) (msg : Msg) (next : LocApiV02 α) : Prop := api.proc msg = some next

/-- No mask is changed between a stop and the engine-off, no engine-on comes after a stop that left
its event unregistered, and a fix is stopped with the events registered that the engine calls for.
-/
def SessionGuard (api : LocApiV02 α) : Msg → Prop
  | .openMsg mask => api.mInSession = false → api.restarted = false → api.engineReported = true →
      Sub (mask &&& ~~~api.mExcludedMask) api.mMask
  | .startFix => True
  | .stopFix => api.mEngineOn = true →
      if api.engineReported then Sub engineState api.registered else api.registered = api.noSession
  | .engineState engineOn => api.mInSession = false → api.restarted = false → engineOn = true →
      Sub engineState api.registered
  | .ssr _ => True

instance (api : LocApiV02 α) (msg : Msg) : Decidable (SessionGuard api msg) := by
  cases msg <;> unfold SessionGuard <;> infer_instance

structure SessionInv (api : LocApiV02 α) : Prop where
  mQmiMask : api.mQmiMask = LocApi.convertMask api.mMask
  mEngineOn : api.engineReported = true → api.mEngineOn = true
  closed : api.clientOpen = false →
    api.mInSession = false ∧ api.restarted = false ∧ api.mEngineOn = false ∧ api.registered = 0
  ok : api.restarted = false → SessionOk api

variable {api : LocApiV02 α}

theorem adjustMaskForNoSession_tracking (qmiMask : BitVec 64) :
    adjustMaskForNoSession qmiMask &&& tracking = 0 := by
  simp only [adjustMaskForNoSession, tracking, BitVec.and_assoc]
  exact BitVec.and_zero

theorem SessionOk.of_noSession (notInSession : api.mInSession = false)
    (notReported : api.engineReported = false) (registered : api.registered = api.noSession) :
    SessionOk api := by
  constructor
  · simp [notInSession]
  · simp [notReported]
  · intro _ _
    refine ⟨registered, ?_⟩
    rw [registered]
    exact adjustMaskForNoSession_tracking _

theorem openClient_of_ne {api : LocApi α} {mask : EventMask} (isOpen : api.clientOpen = true)
    (changed : api.mMask ||| (mask &&& ~~~api.mExcludedMask) ≠ api.mMask) :
    api.openClient mask =
      { api.registerEventMask (convertMask (api.mMask ||| (mask &&& ~~~api.mExcludedMask)))
        with
        mMask := api.mMask ||| (mask &&& ~~~api.mExcludedMask)
        mQmiMask := convertMask (api.mMask ||| (mask &&& ~~~api.mExcludedMask)) } := by
  simp [openClient, isOpen, changed]

theorem openClient_of_eq {api : LocApi α} {mask : EventMask} (isOpen : api.clientOpen = true)
    (same : api.mMask ||| (mask &&& ~~~api.mExcludedMask) = api.mMask) :
    api.openClient mask = api := by
  simp [openClient, isOpen, same]

theorem openClient_of_closed {api : LocApi α} {mask : EventMask} (closed : api.clientOpen = false) :
    api.openClient mask =
      { api with
        clientOpen := true
        registered := adjustMaskForNoSession
          (convertMask (api.mMask ||| (mask &&& ~~~api.mExcludedMask)))
        mMask := api.mMask ||| (mask &&& ~~~api.mExcludedMask)
        mQmiMask := convertMask (api.mMask ||| (mask &&& ~~~api.mExcludedMask)) } := by
  simp [openClient, closed]

theorem sub_iff_or {a b : EventMask} : Sub a b ↔ b ||| a = b := by
  constructor
  · intro sub
    exact Sub.antisymm (or_sub.mpr ⟨Sub.refl b, sub⟩) sub_or_left
  · intro same
    exact sub_or_right.trans (.of_eq same)

section

variable (inv : SessionInv api)

include inv

theorem SessionInv.openMsg (mask : EventMask)
    (guarded : SessionGuard api (.openMsg mask)) : SessionInv (api.openMsg mask) := by
  cases isOpen : api.clientOpen with
  | false =>
      rcases inv.closed isOpen with ⟨notInSession, _⟩
      simp only [LocApiV02.openMsg, openClient_of_closed isOpen, isOpen, Bool.false_and]
      refine ⟨rfl, by simp, by simp, fun _ => ?_⟩
      exact .of_noSession notInSession rfl rfl
  | true =>
      simp only [LocApiV02.openMsg, isOpen, Bool.true_and]
      by_cases changed : api.mMask ||| (mask &&& ~~~api.mExcludedMask) = api.mMask
      · rw [openClient_of_eq isOpen changed]
        exact inv
      · rw [openClient_of_ne isOpen changed]
        refine ⟨rfl, inv.mEngineOn, by simp [registerEventMask, isOpen],
          fun notRestarted => ?_⟩
        cases inSession : api.mInSession with
        | true =>
            constructor <;> simp [registerEventMask, inSession]
        | false =>
            cases reported : api.engineReported with
            | true =>
                have unchanged := sub_iff_or.mp (guarded inSession notRestarted reported)
                exact absurd unchanged changed
            | false =>
                refine .of_noSession inSession rfl ?_
                simp [registerEventMask, inSession, noSession]

theorem SessionInv.startFix (isOpen : api.clientOpen = true) :
    SessionInv api.startFix := by
  refine ⟨inv.mQmiMask, inv.mEngineOn, ?_, fun _ => ⟨fun _ => inv.mQmiMask, ?_, ?_⟩⟩
  · intro closed
    cases isOpen.symm.trans closed
  · intro notInSession
    cases notInSession
  · intro notInSession
    cases notInSession

theorem SessionInv.stopFix (isOpen : api.clientOpen = true)
    (guarded : SessionGuard api .stopFix) : SessionInv api.stopFix := by
  cases engineOn : api.mEngineOn with
  | true =>
      have told := guarded engineOn
      simp only [LocApiV02.stopFix, engineOn, if_true]
      refine ⟨inv.mQmiMask, fun _ => rfl, by simp [isOpen], fun _ => ?_⟩
      cases reported : api.engineReported with
      | true =>
          simp only [reported, if_true] at told
          constructor
          · simp
          · exact fun _ _ => told
          · simp
      | false =>
          simp only [reported, Bool.false_eq_true, if_false] at told
          exact .of_noSession rfl rfl told
  | false =>
      have notReported : api.engineReported = false := by
        cases reported : api.engineReported with
        | false => rfl
        | true => cases engineOn.symm.trans (inv.mEngineOn reported)
      simp only [LocApiV02.stopFix, engineOn, Bool.false_eq_true, if_false]
      refine ⟨inv.mQmiMask, by simp [notReported], by simp [isOpen, registerEventMask],
        fun _ => ?_⟩
      refine .of_noSession rfl notReported ?_
      simp [registerEventMask, noSession, inv.mQmiMask]

theorem SessionInv.updateEngineState (engineOn : Bool)
    (guarded : SessionGuard api (.engineState engineOn)) :
    SessionInv (api.updateEngineState engineOn) := by
  cases engineOn with
  | true =>
      simp only [LocApiV02.updateEngineState, Bool.not_true, Bool.and_false, Bool.false_eq_true,
        if_false]
      refine ⟨inv.mQmiMask, fun _ => rfl, ?_, fun notRestarted => ?_⟩
      · intro closed
        rcases inv.closed closed with ⟨notInSession, notRestarted, _, registered⟩
        have isSub := guarded notInSession notRestarted rfl
        rw [registered] at isSub
        exact absurd isSub (by decide)
      refine ⟨(inv.ok notRestarted).inSession, ?_, by simp⟩
      intro notInSession _
      exact guarded notInSession notRestarted rfl
  | false =>
      cases inSession : api.mInSession with
      | true =>
          simp only [LocApiV02.updateEngineState, inSession, Bool.not_true, Bool.and_false,
            Bool.false_and, Bool.false_eq_true, if_false]
          refine ⟨inv.mQmiMask, by simp, ?_, fun notRestarted => ?_⟩
          · intro closed
            cases inSession.symm.trans (inv.closed closed).1
          · refine ⟨(inv.ok notRestarted).inSession, ?_, ?_⟩ <;> simp [inSession]
      | false =>
          cases wasOn : api.mEngineOn with
          | true =>
              simp only [LocApiV02.updateEngineState, inSession, wasOn, Bool.not_false,
                Bool.and_self, if_true]
              refine ⟨inv.mQmiMask, by simp, ?_, fun _ => ?_⟩
              · intro closed
                cases wasOn.symm.trans (inv.closed closed).2.2.1
              · refine .of_noSession inSession rfl ?_
                simp [registerEventMask, inSession, noSession, inv.mQmiMask]
          | false =>
              have notReported : api.engineReported = false := by
                cases reported : api.engineReported with
                | false => rfl
                | true => cases wasOn.symm.trans (inv.mEngineOn reported)
              simp only [LocApiV02.updateEngineState, wasOn, Bool.false_and, Bool.false_eq_true,
                if_false]
              refine ⟨inv.mQmiMask, by simp, ?_, fun notRestarted => ?_⟩
              · intro closed
                rcases inv.closed closed with ⟨notInSession, notRestarted, _, registered⟩
                exact ⟨notInSession, notRestarted, rfl, registered⟩
              have kept := (inv.ok notRestarted).noSession inSession notReported
              exact .of_noSession inSession rfl kept.1

end

theorem SessionInv.ssr (evtMask : EventMask) : SessionInv (api.ssr evtMask) := by
  have closed : api.toLocApi.close.clientOpen = false := rfl
  simp only [LocApiV02.ssr, openClient_of_closed closed]
  exact ⟨rfl, by simp, by simp, by simp⟩

theorem SessionInv.step {msg : Msg} {next : LocApiV02 α} (inv : SessionInv api)
    (guarded : SessionGuard api msg) (stepped : Step api msg next) : SessionInv next := by
  cases msg with
  | openMsg mask =>
      cases stepped
      exact inv.openMsg mask guarded
  | startFix =>
      rcases Option.ite_none_right_eq_some.mp stepped with ⟨isOpen, ⟨⟩⟩
      exact inv.startFix isOpen
  | stopFix =>
      rcases Option.ite_none_right_eq_some.mp stepped with ⟨isOpen, ⟨⟩⟩
      exact inv.stopFix isOpen guarded
  | engineState engineOn =>
      cases stepped
      exact inv.updateEngineState engineOn guarded
  | ssr evtMask =>
      cases stepped
      exact .ssr evtMask

theorem SessionInv.new (mEvtMask : α → EventMask) (mExcludedMask : EventMask) :
    SessionInv (new mEvtMask mExcludedMask) := by
  refine ⟨?_, by simp [LocApiV02.new], ?_, fun _ => .of_noSession rfl rfl ?_⟩
  · change (0 : BitVec 64) = convertMask 0
    decide
  · exact fun _ => ⟨rfl, rfl, rfl, rfl⟩
  · change (0 : BitVec 64) = adjustMaskForNoSession (convertMask 0)
    decide

/-- As long as the messages come in an order that loses no event, the registered events are those of
the session and the engine but between a restart and the next start or stop. -/
theorem reachable_sessionOk (reached : Run.Reachable IsInit (Run.Guarded SessionGuard Step) api)
    (notRestarted : api.restarted = false) : SessionOk api := by
  have inv : SessionInv api := by
    apply reached.invariant SessionInv
    · rintro _ ⟨mEvtMask, mExcludedMask, rfl⟩
      exact .new mEvtMask mExcludedMask
    · exact fun _ _ _ inv ⟨guarded, stepped⟩ => inv.step guarded stepped
  exact inv.ok notRestarted

section Orders

def start : LocApiV02 Unit := new (fun _ => 0x101) 0

theorem start_isInit : IsInit start := ⟨_, _, rfl⟩

def fixed : List Msg :=
  [.openMsg 0x101, .startFix, .engineState true, .stopFix, .engineState false]

theorem fixed_isSome : (Run.runGuarded SessionGuard proc start fixed).isSome = true := by
  decide +kernel

theorem reachable_sessionOk_fixed :
    SessionOk ((Run.runGuarded SessionGuard proc start fixed).get fixed_isSome) :=
  reachable_sessionOk
    (.runGuarded fixed (.start start_isInit) (Option.some_get fixed_isSome).symm)
    (by decide +kernel)

def changed : List Msg :=
  [.openMsg 0x101, .startFix, .engineState true, .stopFix, .openMsg 0x10]

theorem changed_isSome : (Run.runAll proc start changed).isSome = true := by decide +kernel

def late : List Msg := [.openMsg 0x101, .startFix, .stopFix, .engineState true]

theorem late_isSome : (Run.runAll proc start late).isSome = true := by decide +kernel

def restart : List Msg :=
  [.openMsg 0x101, .startFix, .engineState true, .ssr 0x101, .startFix, .stopFix]

theorem restart_isSome : (Run.runAll proc start restart).isSome = true := by decide +kernel

/-- A mask that changes before the engine-off and an engine-on after the stop lose the engine-off,
and a restart leaves the events of tracking registered. -/
theorem reachable_not_sessionOk :
    (∃ api : LocApiV02 Unit, Run.Reachable IsInit Step api ∧ api.restarted = false ∧
        api.mInSession = false ∧ api.engineReported = true ∧
        LocApi.convertMask api.mMask &&& engineState = engineState ∧
        api.registered &&& engineState = 0) ∧
      (∃ api : LocApiV02 Unit, Run.Reachable IsInit Step api ∧ api.restarted = false ∧
        api.mInSession = false ∧ api.engineReported = true ∧ api.mMask = 0x101 ∧
        api.registered &&& engineState = 0) ∧
      ∃ api : LocApiV02 Unit, Run.Reachable IsInit Step api ∧ api.restarted = false ∧
        api.mInSession = false ∧ api.engineReported = false ∧ api.registered &&& tracking ≠ 0 := by
  refine ⟨⟨_, .runAll changed (.start start_isInit) (Option.some_get changed_isSome).symm, ?_⟩,
    ⟨_, .runAll late (.start start_isInit) (Option.some_get late_isSome).symm, ?_⟩,
    _, .runAll restart (.start start_isInit) (Option.some_get restart_isSome).symm, ?_⟩
  · decide +kernel
  · decide +kernel
  · decide +kernel

end Orders

end LocApiV02

end HtcPme.Gps
