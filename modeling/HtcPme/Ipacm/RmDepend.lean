import HtcPme.Foundation.Ledger
import HtcPme.Foundation.Run
import Mathlib.Algebra.Group.Int.Defs
import Mathlib.Data.Int.Notation
import Mathlib.Data.List.Pairwise
import Mathlib.Tactic.Common

/-!
# Resource manager dependencies

The table by which the configuration adds and deletes the dependencies between the endpoints that
are up.
-/

namespace HtcPme.Ipacm

open Ledger List

inductive IpaRmResourceName where
  | q6Prod
  | usbProd
  | wlanProd
  | oduAdaptProd
  | q6Cons
  | usbCons
  | wlanCons
  | oduAdaptCons
  | other (index : ℕ)
  deriving DecidableEq, Repr

structure RmDependency where
  resourceName : IpaRmResourceName
  dependsOnName : IpaRmResourceName
  deriving DecidableEq, Repr

structure IpaRmClient where
  producerRm1 : IpaRmResourceName
  consumerRm1 : IpaRmResourceName
  producerRm2 : IpaRmResourceName
  consumerRm2 : IpaRmResourceName
  producer1Up : Bool
  consumer1Up : Bool
  rmSet : Bool
  rxBypassIpa : Bool
  deriving DecidableEq, Repr

namespace IpaRmClient

def dep1 (entry : IpaRmClient) : RmDependency := ⟨entry.producerRm1, entry.consumerRm1⟩

def dep2 (entry : IpaRmClient) : RmDependency := ⟨entry.producerRm2, entry.consumerRm2⟩

def dependencies (entry : IpaRmClient) : List RmDependency :=
  if entry.rxBypassIpa then [entry.dep2] else [entry.dep1, entry.dep2]

def setUp (otherUp : Bool) (entry : IpaRmClient) : IpaRmClient × List (Request RmDependency) :=
  if otherUp && !entry.rmSet then
    ({ entry with rmSet := true },
      (if entry.rxBypassIpa then [] else [.add entry.dep1]) ++ [.add entry.dep2])
  else (entry, [])

def addProducer (rm1 : IpaRmResourceName) (rxBypassIpa : Bool) (entry : IpaRmClient) :
    IpaRmClient × List (Request RmDependency) :=
  if rm1 = entry.producerRm1 then
    setUp entry.consumer1Up { entry with producer1Up := true, rxBypassIpa := rxBypassIpa }
  else (entry, [])

def addConsumer (rm1 : IpaRmResourceName) (entry : IpaRmClient) :
    IpaRmClient × List (Request RmDependency) :=
  if rm1 = entry.consumerRm1 then
    setUp entry.producer1Up { entry with consumer1Up := true }
  else (entry, [])

def add (rm1 : IpaRmResourceName) (rxBypassIpa : Bool) (entry : IpaRmClient) :
    IpaRmClient × List (Request RmDependency) :=
  let (entry, reqs) := entry.addProducer rm1 rxBypassIpa
  let (entry, reqs') := entry.addConsumer rm1
  (entry, reqs ++ reqs')

def takeDown (entry : IpaRmClient) : IpaRmClient × List (Request RmDependency) :=
  if entry.rmSet then
    ({ entry with rmSet := false },
      (if entry.rxBypassIpa then [] else [.del entry.dep1]) ++ [.del entry.dep2])
  else (entry, [])

def delProducer (rm1 : IpaRmResourceName) (entry : IpaRmClient) :
    IpaRmClient × List (Request RmDependency) :=
  if rm1 = entry.producerRm1 then
    let (entry, reqs) := entry.takeDown
    ({ entry with producer1Up := false, rxBypassIpa := false }, reqs)
  else (entry, [])

def delConsumer (rm1 : IpaRmResourceName) (ipaRmA2Check : ℤ) (entry : IpaRmClient) :
    IpaRmClient × List (Request RmDependency) :=
  if rm1 = entry.consumerRm1 then
    if entry.consumerRm1 = .q6Cons ∧ ipaRmA2Check = 1 then (entry, [])
    else
      let (entry, reqs) := entry.takeDown
      ({ entry with consumer1Up := false }, reqs)
  else (entry, [])

def del (rm1 : IpaRmResourceName) (ipaRmA2Check : ℤ) (entry : IpaRmClient) :
    IpaRmClient × List (Request RmDependency) :=
  let (entry, reqs) := entry.delProducer rm1
  let (entry, reqs') := entry.delConsumer rm1 ipaRmA2Check
  (entry, reqs ++ reqs')

def Consistent (entry : IpaRmClient) : Prop :=
  entry.rmSet = (entry.producer1Up && entry.consumer1Up)

def present (entry : IpaRmClient) (dependency : RmDependency) : Bool :=
  entry.rmSet && entry.dependencies.contains dependency

def stops (rm1 : IpaRmResourceName) (ipaRmA2Check : ℤ) (entry : IpaRmClient) : Bool :=
  rm1 = entry.consumerRm1 ∧ ¬(entry.consumerRm1 = .q6Cons ∧ ipaRmA2Check = 1)

def names (entry : IpaRmClient) : List RmDependency := [entry.dep1, entry.dep2]

def afterAdd (rm1 : IpaRmResourceName) (rxBypassIpa : Bool) (entry : IpaRmClient) : IpaRmClient :=
  { entry with
    producer1Up := entry.producer1Up || rm1 = entry.producerRm1
    consumer1Up := entry.consumer1Up || rm1 = entry.consumerRm1
    rxBypassIpa := if rm1 = entry.producerRm1 then rxBypassIpa else entry.rxBypassIpa
    rmSet := (entry.producer1Up || rm1 = entry.producerRm1) &&
      (entry.consumer1Up || rm1 = entry.consumerRm1) }

def afterDel (rm1 : IpaRmResourceName) (ipaRmA2Check : ℤ) (entry : IpaRmClient) : IpaRmClient :=
  { entry with
    producer1Up := entry.producer1Up && rm1 ≠ entry.producerRm1
    consumer1Up := entry.consumer1Up && !entry.stops rm1 ipaRmA2Check
    rxBypassIpa := entry.rxBypassIpa && rm1 ≠ entry.producerRm1
    rmSet := (entry.producer1Up && rm1 ≠ entry.producerRm1) &&
      (entry.consumer1Up && !entry.stops rm1 ipaRmA2Check) }

variable {entry : IpaRmClient} {rm1 : IpaRmResourceName} {rxBypassIpa : Bool} {ipaRmA2Check : ℤ}
  {dependency : RmDependency}

theorem setUp_eq (otherUp : Bool) :
    setUp otherUp entry =
      if otherUp && !entry.rmSet then
        ({ entry with rmSet := true }, entry.dependencies.map .add)
      else (entry, []) := by
  cases bypass : entry.rxBypassIpa <;> simp [setUp, dependencies, dep1, dep2, bypass]

theorem takeDown_eq :
    entry.takeDown = ({ entry with rmSet := false },
      if entry.rmSet then entry.dependencies.map .del else []) := by
  rcases entry with ⟨_, _, _, _, _, _, _ | _, _ | _⟩ <;> rfl

theorem add_eq (consistent : entry.Consistent) :
    entry.add rm1 rxBypassIpa =
      (entry.afterAdd rm1 rxBypassIpa,
        if !entry.rmSet && (entry.afterAdd rm1 rxBypassIpa).rmSet then
          (entry.afterAdd rm1 rxBypassIpa).dependencies.map .add
        else []) := by
  rcases entry with ⟨producerRm1, consumerRm1, _, _, producer1Up, consumer1Up, _, _⟩
  have isSet := consistent
  simp only [Consistent] at isSet
  subst isSet
  rcases Classical.propComplete (rm1 = producerRm1) with isProducer | isProducer <;>
    rcases Classical.propComplete (rm1 = consumerRm1) with isConsumer | isConsumer <;>
    cases producer1Up <;> cases consumer1Up <;>
    simp [add, afterAdd, addProducer, addConsumer, setUp_eq, isProducer, isConsumer,
      dependencies, dep1, dep2]

theorem del_eq (consistent : entry.Consistent) :
    entry.del rm1 ipaRmA2Check =
      (entry.afterDel rm1 ipaRmA2Check,
        if entry.rmSet && !(entry.afterDel rm1 ipaRmA2Check).rmSet then
          entry.dependencies.map .del
        else []) := by
  rcases entry with ⟨producerRm1, consumerRm1, _, _, producer1Up, consumer1Up, _, _⟩
  have isSet := consistent
  simp only [Consistent] at isSet
  subst isSet
  rcases Classical.propComplete (rm1 = producerRm1) with isProducer | isProducer <;>
    rcases Classical.propComplete (rm1 = consumerRm1) with isConsumer | isConsumer <;>
    rcases Classical.propComplete (consumerRm1 = .q6Cons ∧ ipaRmA2Check = 1) with kept | kept <;>
    cases producer1Up <;> cases consumer1Up <;>
    simp [del, afterDel, delProducer, delConsumer, takeDown_eq, stops, isProducer, isConsumer, kept,
      dependencies, dep1, dep2]

theorem mem_names_of_mem_dependencies (asked : dependency ∈ entry.dependencies) :
    dependency ∈ entry.names := by
  simp only [dependencies] at asked
  split_ifs at asked
  · exact mem_cons_of_mem _ asked
  · exact asked

theorem mem_names (isPresent : entry.present dependency = true) : dependency ∈ entry.names := by
  simp only [present, Bool.and_eq_true, contains_iff_mem] at isPresent
  exact mem_names_of_mem_dependencies isPresent.2

theorem present_dep1 (differ : entry.names.Nodup) :
    entry.present entry.dep1 = (entry.rmSet && !entry.rxBypassIpa) := by
  have differ : entry.dep1 ≠ entry.dep2 := by simpa [names] using differ
  cases bypass : entry.rxBypassIpa <;> simp [present, dependencies, bypass, differ]

theorem dependencies_nodup (differ : entry.names.Nodup) : entry.dependencies.Nodup := by
  simp only [dependencies]
  split_ifs
  · simp
  · exact differ

variable (consistent : entry.Consistent)

include consistent

variable (differ : entry.names.Nodup)

include differ

theorem add_filter
    (same : rm1 = entry.producerRm1 → entry.rmSet = true → entry.rxBypassIpa = rxBypassIpa) :
    (entry.add rm1 rxBypassIpa).2.filter (·.what = dependency) =
      change dependency (entry.present dependency)
        ((entry.add rm1 rxBypassIpa).1.present dependency) := by
  simp only [add_eq consistent, present]
  cases isSet : entry.rmSet with
  | true =>
      have up : entry.producer1Up = true ∧ entry.consumer1Up = true := by
        simpa using consistent.symm.trans isSet
      have keepsSet : (entry.afterAdd rm1 rxBypassIpa).rmSet = true := by
        simp [afterAdd, up]
      have keepsBypass : (entry.afterAdd rm1 rxBypassIpa).rxBypassIpa = entry.rxBypassIpa := by
        simp only [afterAdd]
        split_ifs with isProducer
        · exact (same isProducer isSet).symm
        · rfl
      have keeps : (entry.afterAdd rm1 rxBypassIpa).dependencies = entry.dependencies := by
        simp only [dependencies, keepsBypass]
        rfl
      simp [keepsSet, keeps]
  | false =>
      cases nowSet : (entry.afterAdd rm1 rxBypassIpa).rmSet with
      | true =>
          have nodup : (entry.afterAdd rm1 rxBypassIpa).dependencies.Nodup := by
            apply dependencies_nodup
            exact differ
          simp [filter_map_add nodup]
      | false => simp

theorem add_filter_of_not_mem (absent : dependency ∉ entry.names) :
    (entry.add rm1 rxBypassIpa).2.filter (·.what = dependency) = [] := by
  have notAsked : dependency ∉ (entry.afterAdd rm1 rxBypassIpa).dependencies := by
    intro asked
    have isName := mem_names_of_mem_dependencies asked
    exact absent isName
  have nodup : (entry.afterAdd rm1 rxBypassIpa).dependencies.Nodup := by
    apply dependencies_nodup
    exact differ
  rw [add_eq consistent]
  dsimp only
  split_ifs
  · simp [filter_map_add nodup, notAsked]
  · rfl

theorem del_filter :
    (entry.del rm1 ipaRmA2Check).2.filter (·.what = dependency) =
      change dependency (entry.present dependency)
        ((entry.del rm1 ipaRmA2Check).1.present dependency) := by
  simp only [del_eq consistent, present]
  cases nowSet : (entry.afterDel rm1 ipaRmA2Check).rmSet with
  | true =>
      simp only [afterDel, Bool.and_eq_true, decide_eq_true_eq] at nowSet
      have isSet : entry.rmSet = true := by
        rw [consistent, nowSet.1.1, nowSet.2.1]
        rfl
      have keeps : (entry.afterDel rm1 ipaRmA2Check).dependencies = entry.dependencies := by
        simp [dependencies, afterDel, nowSet.1.2, dep1, dep2]
      simp [isSet, keeps]
  | false =>
      cases isSet : entry.rmSet with
      | true => simp [filter_map_del (dependencies_nodup differ)]
      | false => simp

end IpaRmClient

def ipaRmClient (producerRm1 consumerRm1 producerRm2 consumerRm2 : IpaRmResourceName) :
    IpaRmClient :=
  ⟨producerRm1, consumerRm1, producerRm2, consumerRm2, false, false, false, false⟩

def ipaRmTbl : List IpaRmClient :=
  [ipaRmClient .wlanProd .q6Cons .q6Prod .wlanCons,
    ipaRmClient .usbProd .q6Cons .q6Prod .usbCons,
    ipaRmClient .wlanProd .usbCons .usbProd .wlanCons,
    ipaRmClient .oduAdaptProd .q6Cons .q6Prod .oduAdaptCons,
    ipaRmClient .wlanProd .oduAdaptCons .oduAdaptProd .wlanCons,
    ipaRmClient .oduAdaptProd .usbCons .usbProd .oduAdaptCons]

def intMax : ℤ := 2 ^ 31 - 1

def intMin : ℤ := -2 ^ 31

def intSucc (value : ℤ) : ℤ := if value = intMax then intMin else value + 1

def intPred (value : ℤ) : ℤ := if value = intMin then intMax else value - 1

/-- The part of `IPACM_Config` that follows the dependencies, with the requests sent. -/
structure RmConfig where
  ipaRmTbl : List IpaRmClient
  ipaRmA2Check : ℤ
  requests : List (Request RmDependency)
  deriving DecidableEq, Repr

namespace RmConfig

def addRmDepend (config : RmConfig) (rm1 : IpaRmResourceName) (rxBypassIpa : Bool) : RmConfig :=
  { ipaRmA2Check := if rm1 = .q6Cons then intSucc config.ipaRmA2Check else config.ipaRmA2Check
    ipaRmTbl := config.ipaRmTbl.map fun entry => (entry.add rm1 rxBypassIpa).1
    requests :=
      (config.ipaRmTbl.flatMap fun entry => (entry.add rm1 rxBypassIpa).2).reverse ++
        config.requests }

def delRmDepend (config : RmConfig) (rm1 : IpaRmResourceName) : RmConfig :=
  let ipaRmA2Check :=
    if rm1 = .q6Cons then intPred config.ipaRmA2Check else config.ipaRmA2Check
  { ipaRmA2Check := ipaRmA2Check
    ipaRmTbl := config.ipaRmTbl.map fun entry => (entry.del rm1 ipaRmA2Check).1
    requests :=
      (config.ipaRmTbl.flatMap fun entry => (entry.del rm1 ipaRmA2Check).2).reverse ++
        config.requests }

end RmConfig

inductive RmCall where
  | addRmDepend (rm1 : IpaRmResourceName) (rxBypassIpa : Bool)
  | delRmDepend (rm1 : IpaRmResourceName)
  deriving DecidableEq, Repr

namespace RmConfig

def call (config : RmConfig) : RmCall → RmConfig
  | .addRmDepend rm1 rxBypassIpa => config.addRmDepend rm1 rxBypassIpa
  | .delRmDepend rm1 => config.delRmDepend rm1

def init : RmConfig := ⟨Ipacm.ipaRmTbl, 0, []⟩

def IsInit (config : RmConfig) : Prop := config = init

def Step (config : RmConfig) (event : RmCall) (config' : RmConfig) : Prop :=
  config' = config.call event

/-- The references to the consumer of an entry. Only those to the A2 endpoint are counted;
another consumer is up or it is not. -/
def refCount (config : RmConfig) (entry : IpaRmClient) : ℤ :=
  if entry.consumerRm1 = .q6Cons then config.ipaRmA2Check
  else if entry.consumer1Up then 1 else 0

structure DependOk (config : RmConfig) : Prop where
  held_iff : ∀ dependency, held config.requests dependency = true ↔
    ∃ entry ∈ config.ipaRmTbl, entry.rmSet = true ∧ dependency ∈ entry.dependencies
  present_iff : ∀ entry ∈ config.ipaRmTbl, ∀ dependency ∈ entry.dependencies,
    held config.requests dependency = true ↔
      entry.producer1Up = true ∧ 0 < config.refCount entry
  balanced : ∀ dependency, config.requests.count (.add dependency) =
    config.requests.count (.del dependency) + (held config.requests dependency).toNat

def tablePresent (tbl : List IpaRmClient) (dependency : RmDependency) : Bool :=
  tbl.any (·.present dependency)

variable {dependency : RmDependency} {rm1 : IpaRmResourceName}

variable {tbl : List IpaRmClient}

theorem flatMap_filter {body : IpaRmClient → IpaRmClient × List (Request RmDependency)}
    (differ : (tbl.flatMap (·.names)).Nodup)
    (keeps : ∀ entry ∈ tbl, (body entry).1.names = entry.names)
    (requested : ∀ entry ∈ tbl, (body entry).2.filter (·.what = dependency) =
      change dependency (entry.present dependency) ((body entry).1.present dependency)) :
    (tbl.flatMap fun entry => (body entry).2).filter (·.what = dependency) =
      change dependency (tablePresent tbl dependency)
        (tablePresent (tbl.map fun entry => (body entry).1) dependency) := by
  induction tbl with
  | nil => rfl
  | cons entry tbl ih =>
      rw [flatMap_cons, nodup_append'] at differ
      rcases differ with ⟨_, restDiffer, disjoint⟩
      have ih := ih restDiffer (fun other isIn => keeps other (mem_cons_of_mem _ isIn))
        (fun other isIn => requested other (mem_cons_of_mem _ isIn))
      have here := requested entry mem_cons_self
      simp only [flatMap_cons, filter_append, here, ih, tablePresent, map_cons,
        any_cons]
      by_cases isName : dependency ∈ entry.names
      · have absent (other : IpaRmClient) (isIn : other ∈ tbl) : dependency ∉ other.names :=
          fun also => disjoint isName (mem_flatMap.mpr ⟨other, isIn, also⟩)
        have before : tbl.any (·.present dependency) = false := by
          simp only [any_eq_false]
          exact fun other isIn isPresent => absent other isIn (IpaRmClient.mem_names isPresent)
        have after : (tbl.map fun entry => (body entry).1).any (·.present dependency) = false := by
          simp only [any_map, any_eq_false]
          intro other isIn isPresent
          apply absent other isIn
          rw [← keeps other (mem_cons_of_mem _ isIn)]
          exact IpaRmClient.mem_names isPresent
        simp [before, after]
      · have before : entry.present dependency = false :=
          Bool.eq_false_iff.mpr fun isPresent => isName (IpaRmClient.mem_names isPresent)
        have after : (body entry).1.present dependency = false := by
          apply Bool.eq_false_iff.mpr
          intro isPresent
          apply isName
          rw [← keeps entry mem_cons_self]
          exact IpaRmClient.mem_names isPresent
        simp [before, after]

theorem tablePresent_eq {entry : IpaRmClient}
    (differ : (tbl.flatMap (·.names)).Nodup) (isIn : entry ∈ tbl)
    (isName : dependency ∈ entry.names) :
    tablePresent tbl dependency = entry.present dependency := by
  induction tbl with
  | nil => cases isIn
  | cons first tbl ih =>
      rw [flatMap_cons, nodup_append'] at differ
      rcases differ with ⟨_, restDiffer, disjoint⟩
      simp only [tablePresent, any_cons]
      rcases mem_cons.mp isIn with rfl | isIn
      · have absent : tbl.any (·.present dependency) = false := by
          simp only [any_eq_false]
          intro other isIn isPresent
          apply disjoint isName
          exact mem_flatMap.mpr ⟨other, isIn, IpaRmClient.mem_names isPresent⟩
        rw [absent, Bool.or_false]
      · have absent : first.present dependency = false := by
          apply Bool.eq_false_iff.mpr
          intro isPresent
          apply disjoint (IpaRmClient.mem_names isPresent)
          exact mem_flatMap.mpr ⟨entry, isIn, isName⟩
        rw [absent, Bool.false_or]
        exact ih restDiffer isIn

def resources (entry : IpaRmClient) :
    IpaRmResourceName × IpaRmResourceName × IpaRmResourceName × IpaRmResourceName :=
  (entry.producerRm1, entry.consumerRm1, entry.producerRm2, entry.consumerRm2)

structure WellFormed (config : RmConfig) : Prop where
  resources_eq : config.ipaRmTbl.map resources = Ipacm.ipaRmTbl.map resources
  consistent : ∀ entry ∈ config.ipaRmTbl, entry.Consistent
  range : intMin ≤ config.ipaRmA2Check ∧ config.ipaRmA2Check ≤ intMax

theorem WellFormed.init : WellFormed init := by
  refine ⟨rfl, ?_, by decide⟩
  simp only [RmConfig.init, IpaRmClient.Consistent]
  decide

theorem WellFormed.step {config config' : RmConfig} {event : RmCall} (wf : WellFormed config)
    (stepped : Step config event config') : WellFormed config' := by
  cases stepped
  rcases wf with ⟨resourcesEq, consistent, range⟩
  cases event with
  | addRmDepend rm1 rxBypassIpa =>
      refine ⟨?_, ?_, ?_⟩
      · simp only [call, addRmDepend, map_map]
        rw [← resourcesEq]
        apply map_congr_left
        intro entry isIn
        simp [IpaRmClient.add_eq (consistent entry isIn), resources, IpaRmClient.afterAdd]
      · simp only [call, addRmDepend, forall_mem_map]
        intro entry isIn
        rw [IpaRmClient.add_eq (consistent entry isIn)]
        rfl
      · simp only [call, addRmDepend, intSucc, intMin, intMax] at *
        split_ifs <;> omega
  | delRmDepend rm1 =>
      refine ⟨?_, ?_, ?_⟩
      · simp only [call, delRmDepend, map_map]
        rw [← resourcesEq]
        apply map_congr_left
        intro entry isIn
        simp [IpaRmClient.del_eq (consistent entry isIn), resources, IpaRmClient.afterDel]
      · simp only [call, delRmDepend, forall_mem_map]
        intro entry isIn
        rw [IpaRmClient.del_eq (consistent entry isIn)]
        rfl
      · simp only [call, delRmDepend, intPred, intMin, intMax] at *
        split_ifs <;> omega

variable {config config' : RmConfig} {entry : IpaRmClient} {event : RmCall}

section

variable (wf : WellFormed config)

include wf

theorem WellFormed.differ :
    (config.ipaRmTbl.flatMap (·.names)).Nodup := by
  have byResources (tbl : List IpaRmClient) : tbl.flatMap (·.names) =
      (tbl.map resources).flatMap fun (producer1, consumer1, producer2, consumer2) =>
        [⟨producer1, consumer1⟩, ⟨producer2, consumer2⟩] := by
    simp only [flatMap_map]
    rfl
  rw [byResources, wf.resources_eq]
  decide

theorem WellFormed.names_nodup (isIn : entry ∈ config.ipaRmTbl) :
    entry.names.Nodup :=
  (nodup_flatMap.mp wf.differ).1 entry isIn

theorem WellFormed.sides (isIn : entry ∈ config.ipaRmTbl) :
    entry.producerRm1 ≠ .q6Cons ∧ entry.producerRm1 ≠ entry.consumerRm1 := by
  have isOne : resources entry ∈ Ipacm.ipaRmTbl.map resources := by
    rw [← wf.resources_eq]
    exact mem_map_of_mem isIn
  have all : ∀ these ∈ Ipacm.ipaRmTbl.map resources, these.1 ≠ .q6Cons ∧ these.1 ≠ these.2.1 := by
    decide
  exact all _ isOne

end

theorem mem_dependencies_dep2 : entry.dep2 ∈ entry.dependencies := by
  simp only [IpaRmClient.dependencies]
  split_ifs <;> simp

theorem tablePresent_iff :
    tablePresent tbl dependency = true ↔
      ∃ entry ∈ tbl, entry.rmSet = true ∧ dependency ∈ entry.dependencies := by
  simp [tablePresent, IpaRmClient.present]

theorem WellFormed.tablePresent_eq (wf : WellFormed config) (isIn : entry ∈ config.ipaRmTbl)
     (asked : dependency ∈ entry.dependencies) :
    tablePresent config.ipaRmTbl dependency = (entry.producer1Up && entry.consumer1Up) := by
  rw [RmConfig.tablePresent_eq wf.differ isIn (IpaRmClient.mem_names_of_mem_dependencies asked),
    ← wf.consistent entry isIn]
  simp [IpaRmClient.present, asked]

def CountOk (config : RmConfig) : Prop :=
  ∀ entry ∈ config.ipaRmTbl, entry.producer1Up = true →
    (entry.consumer1Up = true ↔ 0 < config.refCount entry)

theorem dependOk_iff (wf : WellFormed config) :
    DependOk config ↔
      (∀ dependency,
        Settled config.requests dependency (tablePresent config.ipaRmTbl dependency)) ∧
      CountOk config := by
  constructor
  · rintro ⟨heldIff, presentIff, balanced⟩
    have settled (dependency : RmDependency) :
        Settled config.requests dependency (tablePresent config.ipaRmTbl dependency) := by
      have same : held config.requests dependency =
          tablePresent config.ipaRmTbl dependency := by
        rw [Bool.eq_iff_iff, heldIff, tablePresent_iff]
      refine ⟨same, ?_⟩
      rw [← same]
      exact balanced dependency
    refine ⟨settled, fun entry isIn producerUp => ?_⟩
    have presentIff := presentIff entry isIn entry.dep2 mem_dependencies_dep2
    rw [(settled _).1, wf.tablePresent_eq isIn mem_dependencies_dep2] at presentIff
    simpa [producerUp] using presentIff
  · rintro ⟨settled, countOk⟩
    refine ⟨fun dependency => ?_, fun entry isIn dependency asked => ?_, fun dependency => ?_⟩
    · rw [(settled dependency).1, tablePresent_iff]
    · rw [(settled dependency).1, wf.tablePresent_eq isIn asked, Bool.and_eq_true]
      exact and_congr_right fun producerUp => countOk entry isIn producerUp
    · rw [(settled dependency).1]
      exact (settled dependency).2

/-- A producer that comes up finds the count and the consumer side agree, and keeps its bypass
property while its dependencies are set; while a producer of the A2 endpoint is up, its references
are counted up from zero or more and down from two or less. -/
def CallOk (config : RmConfig) : RmCall → Prop
  | .addRmDepend rm1 rxBypassIpa =>
      (∀ entry ∈ config.ipaRmTbl, rm1 = entry.producerRm1 →
        (entry.rmSet = true → entry.rxBypassIpa = rxBypassIpa) ∧
          (entry.consumer1Up = true ↔ 0 < config.refCount entry)) ∧
      (rm1 = .q6Cons → ∀ entry ∈ config.ipaRmTbl, entry.consumerRm1 = .q6Cons →
        entry.producer1Up = true → 0 ≤ config.ipaRmA2Check ∧ config.ipaRmA2Check < intMax)
  | .delRmDepend rm1 =>
      rm1 = .q6Cons → ∀ entry ∈ config.ipaRmTbl, entry.consumerRm1 = .q6Cons →
        entry.producer1Up = true → intMin < config.ipaRmA2Check ∧ config.ipaRmA2Check ≤ 2

theorem refCount_of_other (config : RmConfig) (entry : IpaRmClient)
    (other : entry.consumerRm1 ≠ .q6Cons) :
    entry.consumer1Up = true ↔ 0 < config.refCount entry := by
  cases up : entry.consumer1Up <;> simp [refCount, other, up]

theorem zero_lt_intSucc {value : ℤ} (range : intMin ≤ value ∧ value ≤ intMax) :
    0 < intSucc value ↔ 0 ≤ value ∧ value < intMax := by
  simp only [intSucc, intMin, intMax] at *
  split_ifs <;> omega

theorem intPred_agrees {value : ℤ} (range : intMin ≤ value ∧ value ≤ intMax) :
    (0 < value ∧ intPred value = 1 ↔ 0 < intPred value) ↔ intMin < value ∧ value ≤ 2 := by
  simp only [intPred, intMin, intMax] at *
  split_ifs <;> omega

section

variable (wf : WellFormed config)

include wf

variable {rxBypassIpa : Bool}

theorem countOk_afterAdd_iff (isIn : entry ∈ config.ipaRmTbl) (countOk : CountOk config) :
    ((entry.afterAdd rm1 rxBypassIpa).producer1Up = true →
      ((entry.afterAdd rm1 rxBypassIpa).consumer1Up = true ↔
        0 < (config.addRmDepend rm1 rxBypassIpa).refCount (entry.afterAdd rm1 rxBypassIpa))) ↔
      (rm1 = entry.producerRm1 → (entry.consumer1Up = true ↔ 0 < config.refCount entry)) ∧
      (rm1 = .q6Cons → entry.consumerRm1 = .q6Cons →
        entry.producer1Up = true → 0 ≤ config.ipaRmA2Check ∧ config.ipaRmA2Check < intMax) := by
  by_cases isQ6 : entry.consumerRm1 = .q6Cons
  · have countOk := countOk entry isIn
    have sides := wf.sides isIn
    simp only [refCount, isQ6, if_true] at countOk
    simp only [refCount, IpaRmClient.afterAdd, isQ6, if_true, addRmDepend, Bool.or_eq_true,
      decide_eq_true_eq]
    by_cases here : rm1 = .q6Cons
    · have notProducer : rm1 ≠ entry.producerRm1 := fun same => sides.1 (same ▸ here)
      simp [here, here ▸ notProducer, zero_lt_intSucc wf.range]
    · simp only [here, if_false, or_false, false_implies, and_true]
      exact ⟨fun all isProducer => all (.inr isProducer), fun all up => up.elim countOk all⟩
  · have before := refCount_of_other config entry isQ6
    have after := refCount_of_other (config.addRmDepend rm1 rxBypassIpa)
      (entry.afterAdd rm1 rxBypassIpa) isQ6
    exact iff_of_true (fun _ => after) ⟨fun _ => before, fun _ also => absurd also isQ6⟩

theorem countOk_addRmDepend_iff (countOk : CountOk config) :
    CountOk (config.addRmDepend rm1 rxBypassIpa) ↔
      (∀ entry ∈ config.ipaRmTbl, rm1 = entry.producerRm1 →
        (entry.consumer1Up = true ↔ 0 < config.refCount entry)) ∧
      (rm1 = .q6Cons → ∀ entry ∈ config.ipaRmTbl, entry.consumerRm1 = .q6Cons →
        entry.producer1Up = true → 0 ≤ config.ipaRmA2Check ∧ config.ipaRmA2Check < intMax) := by
  have each : CountOk (config.addRmDepend rm1 rxBypassIpa) ↔ ∀ entry ∈ config.ipaRmTbl,
      (rm1 = entry.producerRm1 → (entry.consumer1Up = true ↔ 0 < config.refCount entry)) ∧
      (rm1 = .q6Cons → entry.consumerRm1 = .q6Cons →
        entry.producer1Up = true → 0 ≤ config.ipaRmA2Check ∧ config.ipaRmA2Check < intMax) := by
    simp only [CountOk, addRmDepend, forall_mem_map]
    apply forall₂_congr
    intro entry isIn
    rw [IpaRmClient.add_eq (wf.consistent entry isIn)]
    exact countOk_afterAdd_iff wf isIn countOk
  rw [each]
  constructor
  · exact fun all => ⟨fun entry isIn => (all entry isIn).1, fun isQ6 entry isIn =>
      (all entry isIn).2 isQ6⟩
  · exact fun ⟨first, second⟩ entry isIn => ⟨first entry isIn, fun isQ6 => second isQ6 entry isIn⟩

theorem countOk_afterDel_iff (isIn : entry ∈ config.ipaRmTbl)
    (countOk : CountOk config) {ipaRmA2Check : ℤ}
    (counted : ipaRmA2Check = (config.delRmDepend rm1).ipaRmA2Check) :
    ((entry.afterDel rm1 ipaRmA2Check).producer1Up = true →
      ((entry.afterDel rm1 ipaRmA2Check).consumer1Up = true ↔
        0 < (config.delRmDepend rm1).refCount (entry.afterDel rm1 ipaRmA2Check))) ↔
      (rm1 = .q6Cons → entry.consumerRm1 = .q6Cons →
        entry.producer1Up = true → intMin < config.ipaRmA2Check ∧ config.ipaRmA2Check ≤ 2) := by
  by_cases isQ6 : entry.consumerRm1 = .q6Cons
  · have countOk := countOk entry isIn
    have sides := wf.sides isIn
    simp only [refCount, isQ6, if_true] at countOk
    simp only [refCount, IpaRmClient.afterDel, isQ6, if_true, ← counted, Bool.and_eq_true,
      IpaRmClient.stops]
    simp only [delRmDepend] at counted
    by_cases here : rm1 = .q6Cons
    · have notProducer : IpaRmResourceName.q6Cons ≠ entry.producerRm1 := sides.1.symm
      have agrees := intPred_agrees wf.range
      simp only [here, if_true] at counted
      rw [← counted] at agrees
      simp only [here, notProducer, ne_eq, not_false_eq_true, decide_true, and_true, true_and,
        Bool.not_eq_true', decide_eq_false_iff_not, not_not, true_implies]
      apply forall_congr'
      intro producerUp
      rw [countOk producerUp]
      exact agrees
    · simp only [here, if_false] at counted
      simp only [counted, here, ne_eq, false_and, decide_false, Bool.not_false, and_true,
        false_implies, iff_true, and_imp]
      exact fun producerUp _ => countOk producerUp
  · have after := refCount_of_other (config.delRmDepend rm1)
      (entry.afterDel rm1 ipaRmA2Check) isQ6
    exact iff_of_true (fun _ => after) fun _ also => absurd also isQ6

theorem countOk_delRmDepend_iff (countOk : CountOk config) :
    CountOk (config.delRmDepend rm1) ↔ CallOk config (.delRmDepend rm1) := by
  have each : CountOk (config.delRmDepend rm1) ↔ ∀ entry ∈ config.ipaRmTbl,
      rm1 = .q6Cons → entry.consumerRm1 = .q6Cons →
        entry.producer1Up = true → intMin < config.ipaRmA2Check ∧ config.ipaRmA2Check ≤ 2 := by
    simp only [CountOk, delRmDepend, forall_mem_map]
    apply forall₂_congr
    intro entry isIn
    rw [IpaRmClient.del_eq (wf.consistent entry isIn)]
    exact countOk_afterDel_iff wf isIn countOk rfl
  rw [each]
  exact ⟨fun all isQ6 entry isIn => all entry isIn isQ6, fun all entry isIn isQ6 =>
    all isQ6 entry isIn⟩

theorem settled_delRmDepend
    (settled : Settled config.requests dependency (tablePresent config.ipaRmTbl dependency)) :
    Settled (config.delRmDepend rm1).requests dependency
      (tablePresent (config.delRmDepend rm1).ipaRmTbl dependency) := by
  apply settled.append
  apply flatMap_filter wf.differ
  · intro entry isIn
    rw [IpaRmClient.del_eq (wf.consistent entry isIn)]
    rfl
  · exact fun entry isIn =>
      IpaRmClient.del_filter (wf.consistent entry isIn) (wf.names_nodup isIn)

theorem WellFormed.unique {entry' : IpaRmClient}
    (isIn : entry ∈ config.ipaRmTbl) (isIn' : entry' ∈ config.ipaRmTbl)
    (isName : dependency ∈ entry.names) (isName' : dependency ∈ entry'.names) :
    entry = entry' := by
  by_contra distinct
  have : Std.Symm (Function.onFun List.Disjoint fun entry : IpaRmClient => entry.names) :=
    ⟨fun _ _ disjoint _ isFirst isSecond => disjoint isSecond isFirst⟩
  exact (nodup_flatMap.mp wf.differ).2.forall isIn isIn' distinct isName isName'

theorem settled_addRmDepend_iff (settled : ∀ dependency,
      Settled config.requests dependency (tablePresent config.ipaRmTbl dependency)) :
    (∀ dependency, Settled (config.addRmDepend rm1 rxBypassIpa).requests dependency
      (tablePresent (config.addRmDepend rm1 rxBypassIpa).ipaRmTbl dependency)) ↔
      ∀ entry ∈ config.ipaRmTbl, rm1 = entry.producerRm1 → entry.rmSet = true →
        entry.rxBypassIpa = rxBypassIpa := by
  constructor
  · intro settled' entry isIn isProducer isSet
    have up : entry.producer1Up = true ∧ entry.consumer1Up = true := by
      simpa using (wf.consistent entry isIn).symm.trans isSet
    have eq : entry.add rm1 rxBypassIpa = _ := IpaRmClient.add_eq (wf.consistent entry isIn)
    have keepsSet : (entry.afterAdd rm1 rxBypassIpa).rmSet = true := by
      simp only [IpaRmClient.afterAdd, up.1, up.2, Bool.true_or, Bool.and_self]
    have silent : (config.ipaRmTbl.flatMap fun entry => (entry.add rm1 rxBypassIpa).2).filter
        (·.what = entry.dep1) = [] := by
      rw [filter_flatMap, flatMap_eq_nil_iff]
      intro other otherIn
      by_cases isName : entry.dep1 ∈ other.names
      · cases wf.unique isIn otherIn mem_cons_self isName
        rw [eq, isSet]
        rfl
      · exact IpaRmClient.add_filter_of_not_mem (wf.consistent other otherIn)
          (wf.names_nodup otherIn) isName
    have unchanged : Settled (config.addRmDepend rm1 rxBypassIpa).requests entry.dep1
        (tablePresent config.ipaRmTbl entry.dep1) :=
      (settled entry.dep1).append (silent.trans change_self.symm)
    have same := unchanged.1.symm.trans (settled' entry.dep1).1
    have stepped : Step config (.addRmDepend rm1 rxBypassIpa)
      (config.addRmDepend rm1 rxBypassIpa) := rfl
    have wf' := wf.step stepped
    have isIn' : entry.afterAdd rm1 rxBypassIpa ∈ (config.addRmDepend rm1 rxBypassIpa).ipaRmTbl :=
      mem_map.mpr ⟨entry, isIn, by rw [eq]⟩
    have isName : entry.dep1 ∈ (entry.afterAdd rm1 rxBypassIpa).names := mem_cons_self
    have bypass : (entry.afterAdd rm1 rxBypassIpa).rxBypassIpa = rxBypassIpa := if_pos isProducer
    have here := IpaRmClient.present_dep1 (wf.names_nodup isIn)
    have there : (entry.afterAdd rm1 rxBypassIpa).present entry.dep1 = _ :=
      IpaRmClient.present_dep1 (wf'.names_nodup isIn')
    rw [tablePresent_eq wf.differ isIn mem_cons_self,
      tablePresent_eq wf'.differ isIn' isName, here, there, isSet, keepsSet, bypass] at same
    simpa using same
  · intro same dependency
    apply (settled dependency).append
    apply flatMap_filter wf.differ
    · intro entry isIn
      rw [IpaRmClient.add_eq (wf.consistent entry isIn)]
      rfl
    · exact fun entry isIn => IpaRmClient.add_filter (wf.consistent entry isIn)
        (wf.names_nodup isIn) (same entry isIn)

theorem DependOk.call_iff (ok : DependOk config)
    (stepped : Step config event config') : DependOk config' ↔ CallOk config event := by
  have wf' := wf.step stepped
  rw [dependOk_iff wf']
  rcases (dependOk_iff wf).mp ok with ⟨settled, countOk⟩
  cases stepped
  cases event with
  | addRmDepend rm1 rxBypassIpa =>
      simp only [call, CallOk]
      rw [settled_addRmDepend_iff wf settled, countOk_addRmDepend_iff wf countOk]
      constructor
      · exact fun ⟨same, agrees, counted⟩ =>
          ⟨fun entry isIn isProducer => ⟨same entry isIn isProducer, agrees entry isIn isProducer⟩,
            counted⟩
      · exact fun ⟨producer, counted⟩ =>
          ⟨fun entry isIn isProducer => (producer entry isIn isProducer).1,
            fun entry isIn isProducer => (producer entry isIn isProducer).2, counted⟩
  | delRmDepend rm1 =>
      simp only [call]
      rw [countOk_delRmDepend_iff wf countOk]
      exact and_iff_right fun dependency => settled_delRmDepend wf (settled dependency)

end

theorem DependOk.init : DependOk init := by
  apply (dependOk_iff .init).mpr
  constructor
  · intro dependency
    have nonePresent : tablePresent Ipacm.ipaRmTbl dependency = false := by
      apply any_eq_false.mpr
      intro entry isIn isPresent
      have noneSet : ∀ entry ∈ Ipacm.ipaRmTbl, entry.rmSet = false := by decide
      simp [IpaRmClient.present, noneSet entry isIn] at isPresent
    simp only [RmConfig.init, nonePresent]
    exact settled_nil
  · intro entry isIn producerUp
    have noneUp : ∀ entry ∈ Ipacm.ipaRmTbl, entry.producer1Up = false := by decide
    rw [noneUp entry isIn] at producerUp
    cases producerUp

/-- In every run of calls that each find a state that they handle, the kernel holds what the table
says and the requests balance; and exactly such calls keep this. -/
theorem reachable_dependOk (reached : Run.Reachable IsInit (Run.Guarded CallOk Step) config) :
    DependOk config ∧
      ∀ event config', Step config event config' → (DependOk config' ↔ CallOk config event) := by
  have both : WellFormed config ∧ DependOk config := by
    apply reached.invariant
    · rintro _ rfl
      exact ⟨.init, .init⟩
    · rintro before event after ⟨wf, ok⟩ ⟨callOk, stepped⟩
      exact ⟨wf.step stepped, (ok.call_iff wf stepped).mpr callOk⟩
  exact ⟨both.2, fun event config' stepped => both.2.call_iff both.1 stepped⟩

def callAll (events : List RmCall) : RmConfig := events.foldl call init

theorem reachable_callAll (events : List RmCall) : Run.Reachable IsInit Step (callAll events) := by
  have reached : Run.Reachable IsInit Step init := .start rfl
  rw [callAll]
  generalize init = config at reached
  induction events generalizing config with
  | nil => exact reached
  | cons event events ih => exact ih _ (.next event reached rfl)

theorem reachable_dependOk_lastReference :
    DependOk (callAll [.addRmDepend .wlanProd false, .addRmDepend .q6Cons false,
      .addRmDepend .q6Cons false, .delRmDepend .q6Cons]) := by
  refine (reachable_dependOk ?_).1
  refine .next (.delRmDepend .q6Cons) (.next (.addRmDepend .q6Cons false)
    (.next (.addRmDepend .q6Cons false) (.next (.addRmDepend .wlanProd false)
      (.start rfl) ⟨?_, rfl⟩) ⟨?_, rfl⟩) ⟨?_, rfl⟩) ⟨?_, rfl⟩
  all_goals
    simp only [CallOk]
    decide

/-- Three references to the A2 endpoint, of which one is deleted. -/
theorem delRmDepend_two_references_left :
    ¬ ∀ config, Run.Reachable IsInit Step config → DependOk config := by
  intro claimed
  have ok := claimed (callAll [.addRmDepend .wlanProd false, .addRmDepend .q6Cons false,
    .addRmDepend .q6Cons false, .addRmDepend .q6Cons false, .delRmDepend .q6Cons])
    (reachable_callAll _)
  have isHeld := (ok.present_iff
    ⟨.wlanProd, .q6Cons, .q6Prod, .wlanCons, true, false, false, false⟩ (by decide)
    ⟨.q6Prod, .wlanCons⟩ (by decide)).mpr (by decide)
  revert isHeld
  decide

end RmConfig

end HtcPme.Ipacm
