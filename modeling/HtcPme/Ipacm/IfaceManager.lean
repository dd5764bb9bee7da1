import HtcPme.Ipacm.EvtProcessing

/-!
# Interface manager

The events that the interface instances register for, and the runs of the dispatcher in
which an instance deletes itself.
-/

namespace HtcPme.Ipacm

inductive IpaCmEventId where
  | ipaCfgChangeEvent
  | ipaLinkDownEvent
  | ipaAddrAddEvent
  | ipaRouteAddEvent
  | ipaRouteDelEvent
  | ipaFirewallChangeEvent
  | ipaWlanClientAddEvent
  | ipaWlanClientDelEvent
  | ipaWlanClientPowerSaveEvent
  | ipaWlanClientRecoverEvent
  | ipaNeighClientIpAddrAddEvent
  | ipaNeighClientIpAddrDelEvent
  | ipaSwRoutingEnable
  | ipaSwRoutingDisable
  | ipaHandleWanUp
  | ipaHandleWanDown
  | ipaWlanClientAddEventEx
  | ipaHandleWanUpV6
  | ipaHandleWanDownV6
  | ipaLanDeleteSelf
  | ipaWlanLinkDownEvent
  | ipaPrivateSubnetChangeEvent
  | ipaWanUpstreamRouteAddEvent
  | ipaWanUpstreamRouteDelEvent
  | ipaEthBridgeLanClientAddEvent
  | ipaEthBridgeWlanClientAddEvent
  | ipaEthBridgeLanClientDelEvent
  | ipaEthBridgeWlanClientDelEvent
  | ipaEthBridgeHdrProcCtxSetEvent
  | ipaEthBridgeHdrProcCtxUnsetEvent
  | ipaWlanSwitchToScc
  | ipaWlanSwitchToMcc
  | ipaCradleWanModeSwitch
  | ipaWanXlatConnectEvent
  | ipaTetheringStatsUpdateEvent
  | ipaNetworkStatsUpdateEvent
  | ipaHandleWanUpTether
  | ipaHandleWanDownTether
  | ipaHandleWanUpV6Tether
  | ipaHandleWanDownV6Tether
  deriving DecidableEq

inductive IpacmWanIfaceType where
  | q6Wan
  | wlanWan
  | ecmWan
  deriving DecidableEq

inductive IfaceInstance where
  | lan
  | eth
  | oduRouter
  | oduBridge
  | wlan
  | wan (isStaMode : IpacmWanIfaceType)
  | embms
  deriving DecidableEq

structure Features where
  ipaAndroid : Bool
  ethBridgeLe : Bool

namespace IfaceInstance

open IpaCmEventId IpacmWanIfaceType

def wanEvents (tether : Bool) : List IpaCmEventId :=
  if tether then
    [ipaHandleWanUpTether, ipaHandleWanUpV6Tether, ipaHandleWanDownTether, ipaHandleWanDownV6Tether]
  else
    [ipaHandleWanUp, ipaHandleWanUpV6, ipaHandleWanDown, ipaHandleWanDownV6]

def ethBridgeEvents : List IpaCmEventId :=
  [ipaEthBridgeLanClientAddEvent, ipaEthBridgeLanClientDelEvent, ipaEthBridgeWlanClientAddEvent,
    ipaEthBridgeWlanClientDelEvent, ipaEthBridgeHdrProcCtxSetEvent,
    ipaEthBridgeHdrProcCtxUnsetEvent]

/-- The events that `create_iface_instance` registers the new instance for, in order. -/
def registrations (features : Features) : IfaceInstance → List IpaCmEventId
  | lan =>
      [ipaAddrAddEvent, ipaNeighClientIpAddrAddEvent, ipaNeighClientIpAddrDelEvent,
        ipaSwRoutingEnable, ipaSwRoutingDisable] ++ wanEvents features.ipaAndroid ++
      [ipaCfgChangeEvent, ipaPrivateSubnetChangeEvent] ++
      (if features.ethBridgeLe then ethBridgeEvents else []) ++
      (if features.ipaAndroid then [ipaTetheringStatsUpdateEvent] else []) ++
      [ipaCradleWanModeSwitch, ipaLinkDownEvent, ipaLanDeleteSelf]
  | eth =>
      [ipaAddrAddEvent, ipaNeighClientIpAddrAddEvent, ipaSwRoutingEnable, ipaSwRoutingDisable] ++
      wanEvents false ++ [ipaCradleWanModeSwitch, ipaLinkDownEvent, ipaLanDeleteSelf]
  | oduRouter =>
      [ipaAddrAddEvent, ipaNeighClientIpAddrAddEvent, ipaNeighClientIpAddrDelEvent,
        ipaSwRoutingEnable, ipaSwRoutingDisable] ++ wanEvents false ++
      (if features.ethBridgeLe then ethBridgeEvents else []) ++
      [ipaCradleWanModeSwitch, ipaLinkDownEvent, ipaLanDeleteSelf]
  | oduBridge =>
      [ipaAddrAddEvent, ipaNeighClientIpAddrAddEvent, ipaSwRoutingEnable, ipaSwRoutingDisable,
        ipaLinkDownEvent, ipaLanDeleteSelf]
  | wlan =>
      [ipaAddrAddEvent, ipaRouteDelEvent, ipaWlanClientAddEvent, ipaWlanClientAddEventEx,
        ipaWlanClientDelEvent, ipaWlanClientPowerSaveEvent, ipaWlanClientRecoverEvent,
        ipaNeighClientIpAddrAddEvent, ipaSwRoutingEnable, ipaSwRoutingDisable] ++
      wanEvents features.ipaAndroid ++ [ipaPrivateSubnetChangeEvent] ++
      (if features.ethBridgeLe then
        [ipaEthBridgeLanClientAddEvent, ipaEthBridgeLanClientDelEvent,
          ipaEthBridgeHdrProcCtxSetEvent, ipaEthBridgeHdrProcCtxUnsetEvent, ipaCfgChangeEvent]
      else []) ++
      [ipaCradleWanModeSwitch, ipaWlanLinkDownEvent, ipaLanDeleteSelf] ++
      (if features.ipaAndroid then [ipaTetheringStatsUpdateEvent]
      else [ipaWlanSwitchToScc, ipaWlanSwitchToMcc])
  | wan isStaMode =>
      [ipaAddrAddEvent] ++
      (if features.ipaAndroid then
        [ipaWanUpstreamRouteAddEvent, ipaWanUpstreamRouteDelEvent] ++
          (if isStaMode = q6Wan then [ipaNetworkStatsUpdateEvent] else [])
      else [ipaRouteAddEvent, ipaRouteDelEvent]) ++
      [ipaFirewallChangeEvent, ipaNeighClientIpAddrAddEvent, ipaSwRoutingEnable,
        ipaSwRoutingDisable, ipaCfgChangeEvent, ipaWanXlatConnectEvent] ++
      -- the macro that guards the last two is misspelled, so they are always compiled in
      (if isStaMode = wlanWan then [ipaWlanLinkDownEvent, ipaWlanSwitchToScc, ipaWlanSwitchToMcc]
      else [ipaLinkDownEvent])
  | embms => [ipaLinkDownEvent]

end IfaceInstance

open Dispatching

def firstFree : HeapList.Malloc ℕ (CmdEvts ε ω ℕ) where
  alloc heap := (List.range 64).find? fun addr => (heap addr).isNone
  fresh heap addr found := by simpa using List.find?_some found

def noListeners : Dispatching ε ω ℕ where
  dispatcher :=
    { head := none, nodes := fun _ => none, live := 0, ipacmEventStats := fun _ => 0 }
  history := []
  processing := none

theorem noListeners_isInit : IsInit (noListeners : Dispatching ε ω ℕ) := ⟨rfl, rfl, rfl, rfl⟩

def createAndDelete (instance' : IfaceInstance) (features : Features) (event : IpaCmEventId) :
    List (DispatchCall IpaCmEventId ℕ ℕ) :=
  let registrations := instance'.registrations features
  registrations.map (DispatchCall.registr · 0 firstFree) ++
    [.processEvt event] ++
    List.replicate (registrations.idxOf event) (.visit []) ++
    [.visit [.deregistrSelf]]

/-- An access point that deletes itself leaves the loop at one of its nodes, which has been
freed. -/
theorem wlanDeleteSelf_reads_freed :
    ¬ ∀ state : Dispatching IpaCmEventId ℕ ℕ, Run.Reachable IsInit Step state →
      DispatchesOk state := by
  intro dispatchesOk
  have dangles : ((Run.runAll Dispatching.step noListeners
      (createAndDelete .wlan ⟨true, false⟩ .ipaLanDeleteSelf)).map fun state =>
        (state.processing.bind (·.tmp)).map fun addr => (state.dispatcher.nodes addr).isSome) =
      some (some false) := by
    decide +kernel
  rcases Option.map_eq_some_iff.mp dangles with ⟨state, ran, isFreed⟩
  rcases Option.map_eq_some_iff.mp isFreed with ⟨addr, isTmp, freed⟩
  rcases Option.bind_eq_some_iff.mp isTmp with ⟨processing, isProcessing, isTmp⟩
  have reached : Run.Reachable IsInit Step state :=
    Run.Reachable.runAll _ (.start noListeners_isInit) ran
  have allocated := (dispatchesOk state reached).allocated processing isProcessing addr isTmp
  rw [freed] at allocated
  cases allocated

def firstDeletesItself : List (DispatchCall ℕ ℕ ℕ) :=
  [.registr 0 0 firstFree, .registr 0 1 firstFree, .processEvt 0, .visit [.deregistrSelf],
    .visit []]

theorem reachable_dispatchesOk_deregistrSelf :
    ∃ state, Run.runAll Dispatching.step (noListeners : Dispatching ℕ ℕ ℕ) firstDeletesItself =
      some state ∧ DispatchesOk state := by
  refine ⟨_, rfl, ?_⟩
  apply reachable_dispatchesOk
  refine .next (.visit []) (.next (.visit [.deregistrSelf]) (.next (.processEvt 0)
    (.next (.registr 0 1 firstFree) (.next (.registr 0 0 firstFree) (.start noListeners_isInit)
      ⟨?_, rfl⟩) ⟨?_, rfl⟩) ⟨?_, rfl⟩) ⟨?_, rfl⟩) ⟨?_, rfl⟩
  · intro _ _ isProcessing
    cases isProcessing
  · intro _ _ isProcessing
    cases isProcessing
  · intro _ _ isProcessing
    cases isProcessing
  · intro processing callback isProcessing isCall tmp node next nextNode isTmp atTmp _ _
      isNext atNext
    cases isProcessing
    cases isTmp
    cases atTmp
    cases isNext
    cases atNext
    decide
  · intro processing callback isProcessing isCall tmp node next nextNode _ _ _ deregisters
    cases isCall
    cases deregisters

end HtcPme.Ipacm
