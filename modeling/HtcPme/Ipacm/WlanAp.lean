import HtcPme.Foundation.Run
import HtcPme.Ipacm.LanFilter
import Mathlib.Tactic.Ring

/-!
# Access point instances

The index of the access point instances, by which each addresses its part of the dummy
filtering rules that the instances share.
-/

namespace HtcPme.Ipacm

open List

def ipv4DefaultFiltertingRules : ℕ := 3

def numTcpCtlFltRule : ℕ := 3

def ipaMaxPrivateSubnetEntries : ℕ := 3

structure DummyFltConfig where
  ctOpt : Bool
  ipaNumPrivateSubnet : ℕ
  bounded : ipaNumPrivateSubnet ≤ ipaMaxPrivateSubnetEntries

namespace DummyFltConfig

def numTcpCtl (config : DummyFltConfig) : ℕ := if config.ctOpt then numTcpCtlFltRule else 0

def offset (config : DummyFltConfig) (wlanApIndex : ℤ) : ℤ :=
  wlanApIndex * (ipv4DefaultFiltertingRules + config.numTcpCtl + maxOffloadPair +
      config.ipaNumPrivateSubnet) +
    wlanApIndex * (ipaMaxPrivateSubnetEntries - config.ipaNumPrivateSubnet)

def slots (offset : ℤ) (count : ℕ) : List ℤ := (List.range count).map fun i : ℕ => offset + (i : ℤ)

def tcpCtlFltRule (config : DummyFltConfig) (wlanApIndex : ℤ) : List ℤ :=
  slots (config.offset wlanApIndex) config.numTcpCtl

def initFlRule (config : DummyFltConfig) (wlanApIndex : ℤ) : List ℤ :=
  slots (config.offset wlanApIndex + config.numTcpCtl) ipv4DefaultFiltertingRules

def lan2lanFltRule (config : DummyFltConfig) (wlanApIndex : ℤ) : List ℤ :=
  slots (config.offset wlanApIndex + config.numTcpCtl + ipv4DefaultFiltertingRules) maxOffloadPair

def privateSubnetFltRule (config : DummyFltConfig) (wlanApIndex : ℤ) : List ℤ :=
  slots (config.offset wlanApIndex + ipv4DefaultFiltertingRules + maxOffloadPair + config.numTcpCtl)
    ipaMaxPrivateSubnetEntries

def dummyFltRuleHdlV4 (config : DummyFltConfig) (wlanApIndex : ℤ) : List ℤ :=
  config.tcpCtlFltRule wlanApIndex ++ config.initFlRule wlanApIndex ++
    config.lan2lanFltRule wlanApIndex ++ config.privateSubnetFltRule wlanApIndex

def share (config : DummyFltConfig) : ℕ :=
  config.numTcpCtl + ipv4DefaultFiltertingRules + maxOffloadPair + ipaMaxPrivateSubnetEntries

theorem mem_slots {offset slot : ℤ} {count : ℕ} :
    slot ∈ slots offset count ↔ offset ≤ slot ∧ slot < offset + count := by
  simp only [slots, mem_map, mem_range]
  constructor
  · rintro ⟨i, below, rfl⟩
    omega
  · rintro ⟨lower, upper⟩
    exact ⟨(slot - offset).toNat, by omega, by omega⟩

theorem mem_dummyFltRuleHdlV4 (config : DummyFltConfig) {wlanApIndex slot : ℤ} :
    slot ∈ config.dummyFltRuleHdlV4 wlanApIndex ↔
      wlanApIndex * config.share ≤ slot ∧ slot < wlanApIndex * config.share + config.share := by
  have start : config.offset wlanApIndex = wlanApIndex * config.share := by
    simp only [offset, share]
    push_cast
    ring
  simp only [dummyFltRuleHdlV4, tcpCtlFltRule, initFlRule, lan2lanFltRule, privateSubnetFltRule,
    mem_append, mem_slots, start]
  have share' : (config.share : ℤ) =
    config.numTcpCtl + ipv4DefaultFiltertingRules + maxOffloadPair +
    ipaMaxPrivateSubnetEntries := by
    simp [share]
  omega

end DummyFltConfig

structure WlanAp (ι : Type) where
  ipaIfNum : ι
  wlanApIndex : ℤ
  deriving DecidableEq

structure WlanAps (ι : Type) where
  live : List (WlanAp ι)
  numWlanApIface : ℤ

/-- A constructor, which may be cut short when it gets no memory for its clients or no NAT
application, or the end of an instance. -/
inductive WlanApCall (ι : Type) where
  | create (ipaIfNum : ι) (cutShort : Bool)
  | lanDeleteSelf (ipaIfNum : ι)

namespace WlanAps

variable {ι : Type} [DecidableEq ι]

def create (state : WlanAps ι) (ipaIfNum : ι) (cutShort : Bool) : WlanAps ι :=
  let wlanApIndex := state.numWlanApIface
  if wlanApIndex < 0 ∨ 1 < wlanApIndex then
    state
  else if cutShort then
    { state with live := state.live ++ [⟨ipaIfNum, wlanApIndex⟩] }
  else
    { live := state.live ++ [⟨ipaIfNum, wlanApIndex⟩]
      numWlanApIface := state.numWlanApIface + 1 }

def lanDeleteSelf (state : WlanAps ι) (ipaIfNum : ι) : WlanAps ι where
  live := state.live.filter (·.ipaIfNum ≠ ipaIfNum)
  numWlanApIface := state.numWlanApIface - 1

def Step (state : WlanAps ι) (call : WlanApCall ι) (next : WlanAps ι) : Prop :=
  match call with
  | .create ipaIfNum cutShort => ipaIfNum ∉ state.live.map WlanAp.ipaIfNum ∧
      state.live.length < 2 ∧ next = state.create ipaIfNum cutShort
  | .lanDeleteSelf ipaIfNum => ipaIfNum ∈ state.live.map WlanAp.ipaIfNum ∧
      next = state.lanDeleteSelf ipaIfNum

def IsInit (state : WlanAps ι) : Prop := state.live = [] ∧ state.numWlanApIface = 0

structure IndicesOk (config : DummyFltConfig) (state : WlanAps ι) : Prop where
  distinct : (state.live.map WlanAp.wlanApIndex).Nodup
  range : ∀ ap ∈ state.live, ap.wlanApIndex = 0 ∨ ap.wlanApIndex = 1
  slots : state.live.Pairwise fun ap other =>
    (config.dummyFltRuleHdlV4 ap.wlanApIndex).Disjoint (config.dummyFltRuleHdlV4 other.wlanApIndex)

def CountIsFree (state : WlanAps ι) (call : WlanApCall ι) : Prop :=
  match call with
  | .create _ _ => ∀ ap ∈ state.live, ap.wlanApIndex ≠ state.numWlanApIface
  | .lanDeleteSelf _ => True

variable {state next : WlanAps ι} {config : DummyFltConfig} {call : WlanApCall ι}

omit [DecidableEq ι] in
theorem IndicesOk.of_distinct (distinct : (state.live.map WlanAp.wlanApIndex).Nodup)
    (range : ∀ ap ∈ state.live, ap.wlanApIndex = 0 ∨ ap.wlanApIndex = 1) :
    IndicesOk config state := by
  refine ⟨distinct, range, ?_⟩
  have pairwise := pairwise_map.mp distinct
  apply pairwise.imp_of_mem
  intro ap other mem otherMem differs slot slotMem otherSlotMem
  rw [config.mem_dummyFltRuleHdlV4] at slotMem otherSlotMem
  rcases range ap mem with isZero | isOne <;> rcases range other otherMem with otherZero |
    otherOne <;>
    simp_all <;> omega

omit [DecidableEq ι] in
theorem IndicesOk.append (ok : IndicesOk config state) {ipaIfNum : ι}
    (inRange : ¬ (state.numWlanApIface < 0 ∨ 1 < state.numWlanApIface))
    (isNext : next.live = state.live ++ [⟨ipaIfNum, state.numWlanApIface⟩]) :
    IndicesOk config next ↔ ∀ ap ∈ state.live, ap.wlanApIndex ≠ state.numWlanApIface := by
  constructor
  · intro nextOk ap mem same
    have distinct := nextOk.distinct
    rw [isNext, map_append, nodup_append'] at distinct
    exact distinct.2.2 (mem_map_of_mem mem) (by simp [same])
  · intro isFree
    apply IndicesOk.of_distinct
    · rw [isNext, map_append, nodup_append']
      refine ⟨ok.distinct, by simp, ?_⟩
      simpa using fun ap mem => isFree ap mem
    · intro ap mem
      rw [isNext, mem_append, mem_singleton] at mem
      rcases mem with earlier | rfl
      · exact ok.range ap earlier
      · dsimp only
        omega

theorem IndicesOk.step (ok : IndicesOk config state) (stepped : Step state call next) :
    IndicesOk config next ↔ CountIsFree state call := by
  cases call with
  | create ipaIfNum cutShort =>
      rcases stepped with ⟨_, _, rfl⟩
      unfold create CountIsFree
      dsimp only
      split
      · rename_i outOfRange
        refine iff_of_true ok fun ap mem => ?_
        rcases ok.range ap mem with isZero | isOne <;> omega
      · rename_i inRange
        split
        · exact ok.append inRange rfl
        · exact ok.append inRange rfl
  | lanDeleteSelf ipaIfNum =>
      rcases stepped with ⟨_, rfl⟩
      refine iff_of_true ?_ trivial
      have sublist : (state.lanDeleteSelf ipaIfNum).live.Sublist state.live := filter_sublist
      apply IndicesOk.of_distinct
      · exact ok.distinct.sublist (sublist.map _)
      · exact fun ap mem => ok.range ap (sublist.subset mem)

omit [DecidableEq ι] in
theorem IndicesOk.of_isInit (isInit : IsInit state) : IndicesOk config state := by
  constructor <;> simp [isInit.1]

/-- In every run whose steps meet the condition the live instances have different indices,
and a further step keeps this exactly when it meets the condition. -/
theorem reachable_indicesOk (config : DummyFltConfig)
    (reached : Run.Reachable IsInit (Run.Guarded CountIsFree Step) state) :
    IndicesOk config state ∧ ∀ call next, Step state call next →
      (IndicesOk config next ↔ CountIsFree state call) := by
  have ok : IndicesOk config state := by
    apply reached.invariant (IndicesOk config)
    · exact fun _ isInit => IndicesOk.of_isInit isInit
    · rintro state call next ok ⟨isFree, stepped⟩
      exact (ok.step stepped).mpr isFree
  exact ⟨ok, fun call next stepped => ok.step stepped⟩

def oneSubnet : DummyFltConfig := ⟨false, 1, by decide⟩

def noAps : WlanAps ℕ := ⟨[], 0⟩

def oneAp : WlanAps ℕ := noAps.create 0 false

def twoAps : WlanAps ℕ := oneAp.create 1 false

theorem twoAps_reachable : Run.Reachable IsInit (Run.Guarded CountIsFree Step) twoAps := by
  have start : Run.Reachable IsInit (Run.Guarded CountIsFree Step) noAps := .start ⟨rfl, rfl⟩
  have first : Run.Reachable IsInit (Run.Guarded CountIsFree Step) oneAp := by
    apply Run.Reachable.next (.create 0 false) start
    refine ⟨?_, by decide, by decide, rfl⟩
    intro ap mem
    cases mem
  apply Run.Reachable.next (.create 1 false) first
  refine ⟨?_, by decide, by decide, rfl⟩
  intro ap mem
  rcases mem_singleton.mp mem with rfl
  decide

theorem reachable_indicesOk_second :
    IndicesOk oneSubnet ((twoAps.lanDeleteSelf 1).create 1 false) := by
  have deleted : Run.Reachable IsInit (Run.Guarded CountIsFree Step) (twoAps.lanDeleteSelf 1) :=
    .next (.lanDeleteSelf 1) twoAps_reachable ⟨trivial, by decide, rfl⟩
  have created : Run.Reachable IsInit (Run.Guarded CountIsFree Step)
      ((twoAps.lanDeleteSelf 1).create 1 false) := by
    apply Run.Reachable.next (.create 1 false) deleted
    refine ⟨?_, by decide, by decide, rfl⟩
    intro ap mem
    rcases List.mem_singleton.mp mem with rfl
    decide
  exact (reachable_indicesOk oneSubnet created).1

/-- When the older of two access points is created again, it gets the index of the other. -/
theorem create_second_index_twice :
    ¬ ∀ state : WlanAps ℕ, Run.Reachable IsInit Step state → IndicesOk oneSubnet state := by
  intro indicesOk
  have deleted : Run.Reachable IsInit Step (twoAps.lanDeleteSelf 0) :=
    .next (.lanDeleteSelf 0) twoAps_reachable.of_guarded ⟨by decide, rfl⟩
  have created : Run.Reachable IsInit Step ((twoAps.lanDeleteSelf 0).create 0 false) :=
    .next (.create 0 false) deleted ⟨by decide, by decide, rfl⟩
  have distinct := (indicesOk _ created).distinct
  have same : ((twoAps.lanDeleteSelf 0).create 0 false).live.map WlanAp.wlanApIndex = [1, 1] := by
    decide
  rw [same] at distinct
  simp at distinct

end WlanAps

end HtcPme.Ipacm
