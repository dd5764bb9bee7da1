import HtcPme.Foundation.Run
import HtcPme.Gps.DsStateMachine

/-!
# Assisted GPS after a restart of the modem

The machines of `loc_eng_data`, whose lists of subscribers are emptied when the modem comes up.
-/

namespace HtcPme.Gps

/-- Whether `agps_status_cb` is set, and the machines that were created. -/
structure AgpsNifs where
  agpsStatusCb : Bool
  agnssNif : Option AgpsStateMachine
  internetNif : Option AgpsStateMachine
  dsNif : Option DsStateMachine
deriving DecidableEq

namespace AgpsStateMachine

variable (memory : SubscriberKind → List UInt8) {machine : AgpsStateMachine}

def dropAllSubscribers (machine : AgpsStateMachine) : AgpsStateMachine :=
  { machine with mSubscribers := [] }

def Initial (machine : AgpsStateMachine) : Prop :=
  machine.mStatePtr = .released ∧ machine.mSubscribers = []

theorem Initial.sends (initial : machine.Initial) {send : SendRsrcRequest}
    (requests : ∀ next : AgpsStateMachine, next.hasActiveSubscribers = true →
      (send .requestAgpsDataConn next).2.Sent .requestAgpsDataConn) (subscriber : Subscriber) :
    (machine.subscribeRsrc memory send subscriber).Sent .requestAgpsDataConn := by
  rcases initial with ⟨isReleased, none⟩
  have free : ¬(machine.mEnforceSingleSubscriber && machine.hasSubscribers) = true := by
    simp [hasSubscribers, none]
  have added : (machine.addSubscriber memory subscriber).hasActiveSubscribers = true := by
    simp only [addSubscriber, none, hasActiveSubscribers, firstActive, Subscriber.isInactive,
      Subscriber.clone, List.find?_nil]
    cases subscriber.kind <;> rfl
  rw [subscribeRsrc, if_neg free, stateOnRsrcEvent, isReleased]
  simp only [releasedOnRsrcEvent]
  split <;> exact requests _ added

end AgpsStateMachine

namespace AgpsNifs

open AgpsStateMachine

variable (memory : SubscriberKind → List UInt8) (nifs : AgpsNifs)

def handleEngineUp : AgpsNifs :=
  if nifs.agpsStatusCb then
    { nifs with
      agnssNif := nifs.agnssNif.map dropAllSubscribers
      internetNif := nifs.internetNif.map dropAllSubscribers }
  else nifs

/-- Each machine is released with no subscriber, and requests a data connection for the next one. -/
structure Restored (nifs : AgpsNifs) : Prop where
  agnss : ∀ machine ∈ nifs.agnssNif, machine.Initial ∧
    ∀ subscriber, (machine.call memory (.subscribeRsrc subscriber)).Sent .requestAgpsDataConn
  internet : ∀ machine ∈ nifs.internetNif, machine.Initial ∧
    ∀ subscriber, (machine.call memory (.subscribeRsrc subscriber)).Sent .requestAgpsDataConn
  ds : ∀ ds ∈ nifs.dsNif, ds.machine.Initial ∧
    ∀ connHandle ret, (ds.subscribe memory connHandle ret).Sent .requestAgpsDataConn

def Dropped (nifs : AgpsNifs) (machine : AgpsStateMachine) : Prop :=
  machine.mStatePtr = .released ∧ (nifs.agpsStatusCb = false → machine.mSubscribers = [])

structure UpGuard (nifs : AgpsNifs) : Prop where
  agnss : ∀ machine ∈ nifs.agnssNif, nifs.Dropped machine
  internet : ∀ machine ∈ nifs.internetNif, nifs.Dropped machine
  ds : ∀ ds ∈ nifs.dsNif, ds.machine.Initial

variable {memory nifs}

theorem call_sends {machine : AgpsStateMachine} (initial : machine.Initial)
    (subscriber : Subscriber) :
    (machine.call memory (.subscribeRsrc subscriber)).Sent .requestAgpsDataConn := by
  have fresh : machine.fresh.Initial := initial
  apply fresh.sends
  intro next active
  rw [hasActiveSubscribers, firstActive_isSome] at active
  rw [sendRequest_of_active active]
  exact ⟨(.requestAgpsDataConn, next.firstActive), by simp, rfl⟩

theorem subscribe_sends {ds : DsStateMachine} (initial : ds.machine.Initial) (connHandle : UInt32)
    (ret : ℤ) : (ds.subscribe memory connHandle ret).Sent .requestAgpsDataConn := by
  have fresh : ds.machine.fresh.Initial := initial
  apply fresh.sends
  intro next _
  exact dsSend_sent next

theorem restored_of_initial (agnss : ∀ machine ∈ nifs.agnssNif, machine.Initial)
    (internet : ∀ machine ∈ nifs.internetNif, machine.Initial)
    (isDs : ∀ ds ∈ nifs.dsNif, ds.machine.Initial) : nifs.Restored memory where
  agnss machine mem := ⟨agnss machine mem, call_sends (agnss machine mem)⟩
  internet machine mem := ⟨internet machine mem, call_sends (internet machine mem)⟩
  ds ds mem := ⟨isDs ds mem, subscribe_sends (isDs ds mem)⟩

theorem dropped_iff (isSet : nifs.agpsStatusCb = true) (nif : Option AgpsStateMachine) :
    (∀ machine ∈ nif.map dropAllSubscribers, machine.Initial) ↔
      ∀ machine ∈ nif, nifs.Dropped machine := by
  simp [Dropped, Initial, dropAllSubscribers, isSet]

theorem kept_iff (notSet : nifs.agpsStatusCb = false) (nif : Option AgpsStateMachine) :
    (∀ machine ∈ nif, machine.Initial) ↔ ∀ machine ∈ nif, nifs.Dropped machine := by
  simp [Dropped, Initial, notSet]

/-- After the modem has come up, the machines are as new if and only if they were all released
before, and those whose subscribers are not dropped had none. -/
theorem restored_iff (memory : SubscriberKind → List UInt8) (nifs : AgpsNifs) :
    nifs.handleEngineUp.Restored memory ↔ nifs.UpGuard := by
  have agnss : (∀ machine ∈ nifs.handleEngineUp.agnssNif, machine.Initial) ↔
      ∀ machine ∈ nifs.agnssNif, nifs.Dropped machine := by
    cases isSet : nifs.agpsStatusCb
    · simp only [handleEngineUp, isSet, Bool.false_eq_true, if_false, kept_iff isSet]
    · simp only [handleEngineUp, isSet, if_true, dropped_iff isSet]
  have internet : (∀ machine ∈ nifs.handleEngineUp.internetNif, machine.Initial) ↔
      ∀ machine ∈ nifs.internetNif, nifs.Dropped machine := by
    cases isSet : nifs.agpsStatusCb
    · simp only [handleEngineUp, isSet, Bool.false_eq_true, if_false, kept_iff isSet]
    · simp only [handleEngineUp, isSet, if_true, dropped_iff isSet]
  have kept : nifs.handleEngineUp.dsNif = nifs.dsNif := by
    rw [handleEngineUp]
    split <;> rfl
  constructor
  · intro restored
    refine ⟨agnss.mp fun machine mem => (restored.agnss machine mem).1,
      internet.mp fun machine mem => (restored.internet machine mem).1, ?_⟩
    rw [← kept]
    exact fun ds mem => (restored.ds ds mem).1
  · intro guarded
    apply restored_of_initial (agnss.mpr guarded.agnss) (internet.mpr guarded.internet)
    rw [kept]
    exact guarded.ds

inductive Event where
  | agnss (call : AgpsStateMachine.Call)
  | internet (call : AgpsStateMachine.Call)
  | ds (call : DsStateMachine.Call)
  | engineUp
deriving DecidableEq

def handle (memory : SubscriberKind → List UInt8) (nifs : AgpsNifs) : Event → AgpsNifs
  | .agnss call => { nifs with agnssNif := nifs.agnssNif.map (·.call memory call) }
  | .internet call => { nifs with internetNif := nifs.internetNif.map (·.call memory call) }
  | .ds call => { nifs with dsNif := nifs.dsNif.map fun ds => (ds.call memory call).getD ds }
  | .engineUp => nifs.handleEngineUp

def created : AgpsNifs :=
  ⟨true, some (AgpsStateMachine.new false), some (AgpsStateMachine.new false),
    some DsStateMachine.new⟩

def IsInit (nifs : AgpsNifs) : Prop := nifs = created

def Step (memory : SubscriberKind → List UInt8) (nifs : AgpsNifs) (event : Event)
    (next : AgpsNifs) : Prop := next = nifs.handle memory event

/-- A machine that waited for its interface when the modem went down still waits, and requests
nothing for the next subscriber. -/
theorem not_restored :
    ∃ nifs : AgpsNifs, Run.Reachable IsInit (Step fun _ => []) nifs ∧
      ¬nifs.handleEngineUp.Restored (fun _ => []) ∧
      ∃ machine ∈ nifs.handleEngineUp.agnssNif, machine.mStatePtr = .pending ∧
        machine.mSubscribers = [] ∧
        (machine.call (fun _ => []) (.subscribeRsrc ⟨2, .atl false, false⟩)).requests = [] := by
  refine ⟨_, .next (.agnss (.subscribeRsrc ⟨1, .atl false, false⟩)) (.start rfl) rfl, ?_, _, rfl,
    by decide, by decide, by decide⟩
  intro restored
  exact absurd (restored.agnss _ rfl).1.1 (by decide)

end AgpsNifs

end HtcPme.Gps
