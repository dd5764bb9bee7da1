import Mathlib.Tactic.Common

/-!
# Runs of a state machine

The states that a machine reaches by steps from its initial states, and what carries over from one
machine to another. A guard restricts the events that a run may take.
-/

namespace Run

variable {σ ε : Type*}

/-- The states reached from an initial one by any number of steps. -/
inductive Reachable (init : σ → Prop) (step : σ → ε → σ → Prop) : σ → Prop where
  | start {state : σ} (isInit : init state) : Reachable init step state
  | next {state state' : σ} (event : ε) (reached : Reachable init step state)
      (stepped : step state event state') : Reachable init step state'

/-- Steps that meet a condition on the event and the state it is handled in. -/
def Guarded (condition : σ → ε → Prop) (step : σ → ε → σ → Prop) (state : σ) (event : ε)
    (state' : σ) : Prop :=
  condition state event ∧ step state event state'

variable {init : σ → Prop} {step : σ → ε → σ → Prop} {condition : σ → ε → Prop} {state : σ}

theorem Reachable.invariant (reached : Reachable init step state) (holds : σ → Prop)
    (base : ∀ state, init state → holds state)
    (keeps : ∀ state event state', holds state → step state event state' → holds state') :
    holds state := by
  induction reached with
  | start isInit => exact base _ isInit
  | next event _ stepped ih => exact keeps _ _ _ ih stepped

/-- A machine whose steps keep an invariant and are steps of an abstract machine refines it. -/
theorem Reachable.refines {τ : Type*} (reached : Reachable init step state)
    (abstractInit : τ → Prop) (abstractStep : τ → ε → τ → Prop) (holds : σ → Prop)
    (abstraction : σ → τ)
    (base : ∀ state, init state → holds state ∧ abstractInit (abstraction state))
    (keeps : ∀ state event state', holds state → step state event state' →
      holds state' ∧ abstractStep (abstraction state) event (abstraction state')) :
    holds state ∧ Reachable abstractInit abstractStep (abstraction state) := by
  induction reached with
  | start isInit => exact ⟨(base _ isInit).1, .start (base _ isInit).2⟩
  | next event _ stepped ih =>
      rcases keeps _ _ _ ih.1 stepped with ⟨kept, simulated⟩
      exact ⟨kept, .next event ih.2 simulated⟩

theorem Reachable.of_guarded (reached : Reachable init (Guarded condition step) state) :
    Reachable init step state := by
  induction reached with
  | start isInit => exact .start isInit
  | next event _ stepped ih => exact .next event ih stepped.2

/-- The steps from one state to another, with their events in order. -/
inductive Path (step : σ → ε → σ → Prop) : σ → List ε → σ → Prop where
  | nil (state : σ) : Path step state [] state
  | cons {state next state' : σ} {event : ε} {events : List ε} (stepped : step state event next)
      (rest : Path step next events state') : Path step state (event :: events) state'

/-- A relation that every step keeps carries a run over to another machine, event by event. -/
theorem Path.simulated {τ : Type*} {abstractStep : τ → ε → τ → Prop} {state' : σ}
    {events : List ε} {abstract : τ} (path : Path step state events state') (related : σ → τ → Prop)
    (keeps : ∀ state abstract event next, related state abstract → step state event next →
      ∃ abstract', abstractStep abstract event abstract' ∧ related next abstract')
    (start : related state abstract) :
    ∃ abstract', Path abstractStep abstract events abstract' ∧ related state' abstract' := by
  induction path generalizing abstract with
  | nil state => exact ⟨abstract, .nil abstract, start⟩
  | cons stepped rest ih =>
      rcases keeps _ _ _ _ start stepped with ⟨next, abstractStepped, relatedNext⟩
      rcases ih relatedNext with ⟨abstract', abstractRest, related'⟩
      exact ⟨abstract', .cons abstractStepped abstractRest, related'⟩

def runAll (step : σ → ε → Option σ) : σ → List ε → Option σ
  | state, [] => some state
  | state, event :: events => (step state event).bind fun next => runAll step next events

variable {state' : σ} {step : σ → ε → Option σ}

theorem Reachable.runAll (events : List ε)
    (reached : Reachable init (fun state event next => step state event = some next) state)
    (ran : runAll step state events = some state') :
    Reachable init (fun state event next => step state event = some next) state' := by
  induction events generalizing state with
  | nil =>
      cases ran
      exact reached
  | cons event events ih =>
      rcases Option.bind_eq_some_iff.mp ran with ⟨next, stepped, ran⟩
      exact ih (.next event reached stepped) ran

/-- The events in order, as long as each meets the condition in the state it is handled in. -/
def runGuarded (condition : σ → ε → Prop) [∀ state event, Decidable (condition state event)]
    (step : σ → ε → Option σ) : σ → List ε → Option σ
  | state, [] => some state
  | state, event :: events =>
      if condition state event then
        (step state event).bind fun next => runGuarded condition step next events
      else none

/-- What a list of events leads to under a guard is reached by a guarded run. -/
theorem Reachable.runGuarded [∀ state event, Decidable (condition state event)] (events : List ε)
    (reached : Reachable init
      (Guarded condition fun state event next => step state event = some next) state)
    (ran : runGuarded condition step state events = some state') :
    Reachable init (Guarded condition fun state event next => step state event = some next)
      state' := by
  induction events generalizing state with
  | nil =>
      cases ran
      exact reached
  | cons event events ih =>
      simp only [Run.runGuarded, Option.ite_none_right_eq_some] at ran
      rcases ran with ⟨guarded, ran⟩
      rcases Option.bind_eq_some_iff.mp ran with ⟨next, stepped, ran⟩
      exact ih (.next event reached ⟨guarded, stepped⟩) ran

end Run
