import HtcPme.Foundation.Run
import Mathlib.Algebra.Order.Group.Multiset
import Mathlib.Tactic.Abel

/-!
# Conntrack filters

The filters that keep connections of local interfaces from being reported, one for TCP and one for
UDP. Each interface that comes up extends both.
-/

namespace HtcPme.Ipacm

open Multiset Option

inductive NfctFilterAttr where
  | l4Proto
  | l4ProtoState
  | srcIpv4
  | dstIpv4
deriving DecidableEq

inductive NfctFilterLogic where
  | positive
  | negative
deriving DecidableEq

/-- What is added for an attribute: a protocol, `nfct_filter_proto` or `nfct_filter_ipv4`. -/
inductive NfctFilterValue where
  | u32 (value : BitVec 32)
  | proto (proto state : ℕ)
  | ipv4 (addr mask : BitVec 32)
deriving DecidableEq

/-- `nfct_filter`: the logic of each attribute and what was added, in order. -/
structure NfctFilter where
  logic : NfctFilterAttr → Option NfctFilterLogic
  attrs : List (NfctFilterAttr × NfctFilterValue)

structure EventIfaceUp where
  ipv4Addr : BitVec 32
  addrMask : BitVec 32
deriving DecidableEq

namespace NfctFilter

variable (filter : NfctFilter)

def create : NfctFilter := ⟨fun _ => none, []⟩

def setLogic (type : NfctFilterAttr) (logic : NfctFilterLogic) : NfctFilter :=
  { filter with logic := Function.update filter.logic type (some logic) }

def addAttr (type : NfctFilterAttr) (value : NfctFilterValue) : NfctFilter :=
  { filter with attrs := filter.attrs ++ [(type, value)] }

def ignore (type : NfctFilterAttr) (addr : BitVec 32) : NfctFilter :=
  (filter.setLogic type .negative).addAttr type (.ipv4 addr 0xffffffff)

def tcpFilterInit : NfctFilter :=
  let proto := (filter.setLogic .l4Proto .positive).addAttr .l4Proto (.u32 6)
  -- the states ESTABLISHED and FIN_WAIT
  let established := (proto.setLogic .l4ProtoState .positive).addAttr .l4ProtoState (.proto 6 3)
  (established.setLogic .l4ProtoState .positive).addAttr .l4ProtoState (.proto 6 4)

def udpFilterInit : NfctFilter :=
  (filter.setLogic .l4Proto .positive).addAttr .l4Proto (.u32 17)

/-- `IPA_Conntrack_Filters_Ignore_Bridge_Addrs`, with the address that the lookup finds. -/
def ignoreBridgeAddrs (ipv4Addr : Option (BitVec 32)) : NfctFilter :=
  match ipv4Addr with
  | none => filter
  | some ipv4Addr => (filter.ignore .dstIpv4 ipv4Addr).ignore .srcIpv4 ipv4Addr

/-- `bc_ip_addr` of `IPA_Conntrack_Filters_Ignore_Local_Iface`. -/
def broadcastAddr (param : EventIfaceUp) : BitVec 32 :=
  (0xffffffff &&& ~~~param.addrMask) ||| (param.ipv4Addr &&& param.addrMask)

def ignoreLocalIface (param : EventIfaceUp) : NfctFilter :=
  ((filter.ignore .dstIpv4 param.ipv4Addr).ignore .srcIpv4 param.ipv4Addr).ignore .dstIpv4
    (broadcastAddr param)

def ignoreLocalAddrs : NfctFilter :=
  (filter.ignore .dstIpv4 0xffffffff).ignore .srcIpv4 0xffffffff

end NfctFilter

/-- The filters of `IPACM_ConntrackClient`, and `isIgnore` of each of the two functions that extend
them. -/
structure ConntrackClient where
  tcpFilter : Option NfctFilter
  udpFilter : Option NfctFilter
  tcpIsIgnore : Bool
  udpIsIgnore : Bool

namespace ConntrackClient

variable (client : ConntrackClient)

def getInstance : ConntrackClient := ⟨some .create, some .create, false, false⟩

/-- `UpdateUDPFilters`, with the address of the bridge. There is no result when the library gets a
null pointer. -/
def updateUDPFilters (bridge : Option (BitVec 32)) (param : EventIfaceUp) (isWan : Bool) :
    Option ConntrackClient :=
  match client.udpFilter with
  | none => some client
  | some udpFilter =>
      if isWan then some client
      else
        let local' := udpFilter.ignoreLocalIface param
        if client.udpIsIgnore then some { client with udpFilter := some local' }
        else
          some { client with
            udpFilter := some (local'.ignoreBridgeAddrs bridge).ignoreLocalAddrs
            udpIsIgnore := true }

def updateTCPFilters (bridge : Option (BitVec 32)) (param : EventIfaceUp) (isWan : Bool) :
    Option ConntrackClient :=
  match client.tcpFilter with
  | none => some client
  | some tcpFilter =>
      if isWan then some client
      else
        let local' := { client with tcpFilter := some (tcpFilter.ignoreLocalIface param) }
        if client.tcpIsIgnore then some local'
        else do
          -- the source extends the filter for UDP here
          let udpFilter ← client.udpFilter
          some { local' with
            udpFilter := some (udpFilter.ignoreBridgeAddrs bridge).ignoreLocalAddrs
            tcpIsIgnore := true }

end ConntrackClient

namespace NfctFilter

def ignoredBy (logic : NfctFilterAttr → Option NfctFilterLogic) :
    NfctFilterAttr × NfctFilterValue → Option (NfctFilterAttr × BitVec 32)
  | (type, .ipv4 addr mask) =>
      if logic type = some .negative ∧ mask = 0xffffffff then some (type, addr) else none
  | (_, _) => none

def ignored (filter : NfctFilter) : Multiset (NfctFilterAttr × BitVec 32) :=
  ↑(filter.attrs.filterMap (ignoredBy filter.logic))

def IsAddr (type : NfctFilterAttr) : Prop := type = .srcIpv4 ∨ type = .dstIpv4

def OnlyIgnores (filter : NfctFilter) : Prop :=
  ∀ type addr mask, (type, NfctFilterValue.ipv4 addr mask) ∈ filter.attrs →
    IsAddr type ∧ filter.logic type = some .negative

def localIface (param : EventIfaceUp) : Multiset (NfctFilterAttr × BitVec 32) :=
  {(.dstIpv4, param.ipv4Addr), (.srcIpv4, param.ipv4Addr), (.dstIpv4, broadcastAddr param)}

def overall (bridge : BitVec 32) : Multiset (NfctFilterAttr × BitVec 32) :=
  {(.dstIpv4, bridge), (.srcIpv4, bridge), (.dstIpv4, 0xffffffff), (.srcIpv4, 0xffffffff)}

theorem not_isAddr_l4Proto : ¬IsAddr .l4Proto := by simp [IsAddr]

theorem not_isAddr_l4ProtoState : ¬IsAddr .l4ProtoState := by simp [IsAddr]

variable {filter : NfctFilter} {type : NfctFilterAttr} {addr : BitVec 32}

theorem ignored_setLogic (logic : NfctFilterLogic)
    (same : ∀ addr mask, (type, NfctFilterValue.ipv4 addr mask) ∈ filter.attrs →
      filter.logic type = some logic) :
    (filter.setLogic type logic).ignored = filter.ignored := by
  apply congrArg ofList
  apply List.filterMap_congr
  rintro ⟨other, value⟩ mem
  cases value with
  | u32 value => rfl
  | proto proto state => rfl
  | ipv4 addr mask =>
      have kept : (filter.setLogic type logic).logic other = filter.logic other := by
        by_cases isType : other = type
        · subst isType
          rw [same addr mask mem]
          exact Function.update_self ..
        · exact Function.update_of_ne isType ..
      simp only [ignoredBy, kept]

variable (only : filter.OnlyIgnores)

include only

theorem OnlyIgnores.ignore (isAddr : IsAddr type) (addr : BitVec 32) :
    (filter.ignore type addr).OnlyIgnores ∧
      (filter.ignore type addr).ignored = filter.ignored + {(type, addr)} := by
  constructor
  · intro other addr' mask mem
    by_cases isType : other = type
    · subst isType
      exact ⟨isAddr, Function.update_self ..⟩
    · have old : (other, NfctFilterValue.ipv4 addr' mask) ∈ filter.attrs := by
        simpa [NfctFilter.ignore, addAttr, setLogic, isType] using mem
      rcases only other addr' mask old with ⟨otherAddr, negative⟩
      exact ⟨otherAddr, (Function.update_of_ne isType ..).trans negative⟩
  · have same := ignored_setLogic .negative fun addr mask mem =>
      (only type addr mask mem).2
    rw [← same]
    simp [ignored, NfctFilter.ignore, addAttr, setLogic, ignoredBy, ← coe_add]

theorem OnlyIgnores.ignoreLocalIface (param : EventIfaceUp) :
    (filter.ignoreLocalIface param).OnlyIgnores ∧
      (filter.ignoreLocalIface param).ignored = filter.ignored + localIface param := by
  rcases only.ignore (.inr rfl) param.ipv4Addr with ⟨dstOnly, dst⟩
  rcases dstOnly.ignore (.inl rfl) param.ipv4Addr with ⟨srcOnly, src⟩
  rcases srcOnly.ignore (.inr rfl) (broadcastAddr param) with ⟨broadcastOnly, broadcast⟩
  refine ⟨broadcastOnly, ?_⟩
  simp only [NfctFilter.ignoreLocalIface, broadcast, src, dst, localIface, add_assoc,
    insert_eq_cons, ← singleton_add]

theorem OnlyIgnores.ignoreOverall (bridge : BitVec 32) :
    (filter.ignoreBridgeAddrs (some bridge)).ignoreLocalAddrs.OnlyIgnores ∧
      (filter.ignoreBridgeAddrs (some bridge)).ignoreLocalAddrs.ignored =
        filter.ignored + overall bridge := by
  rcases only.ignore (.inr rfl) bridge with ⟨dstOnly, dst⟩
  rcases dstOnly.ignore (.inl rfl) bridge with ⟨srcOnly, src⟩
  rcases srcOnly.ignore (.inr rfl) 0xffffffff with ⟨dstAllOnly, dstAll⟩
  rcases dstAllOnly.ignore (.inl rfl) 0xffffffff with ⟨srcAllOnly, srcAll⟩
  refine ⟨srcAllOnly, ?_⟩
  simp only [ignoreBridgeAddrs, ignoreLocalAddrs, srcAll, dstAll, src, dst, overall, add_assoc,
    insert_eq_cons, ← singleton_add]

theorem OnlyIgnores.addOther (logic : NfctFilterLogic)
    (value : NfctFilterValue) (notAddr : ¬IsAddr type)
    (notIpv4 : ∀ addr mask, value ≠ .ipv4 addr mask) :
    ((filter.setLogic type logic).addAttr type value).OnlyIgnores ∧
      ((filter.setLogic type logic).addAttr type value).ignored = filter.ignored := by
  constructor
  · intro other addr mask mem
    have old : (other, NfctFilterValue.ipv4 addr mask) ∈ filter.attrs := by
      rcases List.mem_append.mp mem with old | isNew
      · exact old
      · rw [List.mem_singleton, Prod.mk.injEq] at isNew
        exact absurd isNew.2.symm (notIpv4 addr mask)
    rcases only other addr mask old with ⟨isAddr, negative⟩
    have differs : other ≠ type := by
      rintro rfl
      exact notAddr isAddr
    exact ⟨isAddr, (Function.update_of_ne differs ..).trans negative⟩
  · have same := ignored_setLogic logic fun addr mask mem =>
      absurd (only type addr mask mem).1 notAddr
    rw [← same]
    have skipped : ignoredBy (filter.setLogic type logic).logic (type, value) = none := by
      cases value with
      | u32 value => rfl
      | proto proto state => rfl
      | ipv4 addr mask => exact absurd rfl (notIpv4 addr mask)
    simp only [ignored, addAttr, List.filterMap_append, List.filterMap_cons, List.filterMap_nil,
      skipped, List.append_nil]

theorem OnlyIgnores.tcpFilterInit :
    filter.tcpFilterInit.OnlyIgnores ∧ filter.tcpFilterInit.ignored = filter.ignored := by
  have proto := only.addOther .positive (.u32 6) not_isAddr_l4Proto (by simp)
  have established := proto.1.addOther .positive (.proto 6 3) not_isAddr_l4ProtoState (by simp)
  have finWait := established.1.addOther .positive (.proto 6 4) not_isAddr_l4ProtoState (by simp)
  exact ⟨finWait.1, finWait.2.trans (established.2.trans proto.2)⟩

theorem OnlyIgnores.udpFilterInit :
    filter.udpFilterInit.OnlyIgnores ∧ filter.udpFilterInit.ignored = filter.ignored :=
  only.addOther .positive (.u32 17) not_isAddr_l4Proto (by simp)

end NfctFilter

namespace ConntrackClient

structure Ignores (client : ConntrackClient) (tcp udp : Multiset (NfctFilterAttr × BitVec 32)) :
    Prop where
  tcp : ∃ filter, client.tcpFilter = some filter ∧ filter.OnlyIgnores ∧ filter.ignored = tcp
  udp : ∃ filter, client.udpFilter = some filter ∧ filter.OnlyIgnores ∧ filter.ignored = udp

variable {client : ConntrackClient} {tcp udp : Multiset (NfctFilterAttr × BitVec 32)}

variable (ignores : client.Ignores tcp udp)

include ignores

variable (bridge : BitVec 32)

include bridge

variable (param : EventIfaceUp)

include param

theorem Ignores.updateUDPFilters :
    ∃ next, client.updateUDPFilters (some bridge) param false = some next ∧
      next.Ignores tcp (udp + NfctFilter.localIface param +
        if client.udpIsIgnore then 0 else NfctFilter.overall bridge) ∧
      next.tcpIsIgnore = client.tcpIsIgnore ∧ next.udpIsIgnore = true := by
  rcases ignores.udp with ⟨filter, isUdp, only, isIgnored⟩
  rcases only.ignoreLocalIface param with ⟨localOnly, localIgnored⟩
  rcases localOnly.ignoreOverall bridge with ⟨overallOnly, overallIgnored⟩
  simp only [ConntrackClient.updateUDPFilters, isUdp, Bool.false_eq_true, if_false]
  split
  · rename_i isIgnore
    refine ⟨_, rfl, ⟨ignores.tcp, _, rfl, localOnly, ?_⟩, rfl, isIgnore⟩
    rw [localIgnored, ← isIgnored, add_zero]
  · refine ⟨_, rfl, ⟨ignores.tcp, _, rfl, overallOnly, ?_⟩, rfl, rfl⟩
    rw [overallIgnored, localIgnored, ← isIgnored]

theorem Ignores.updateTCPFilters :
    ∃ next, client.updateTCPFilters (some bridge) param false = some next ∧
      next.Ignores (tcp + NfctFilter.localIface param)
        (udp + if client.tcpIsIgnore then 0 else NfctFilter.overall bridge) ∧
      next.tcpIsIgnore = true ∧ next.udpIsIgnore = client.udpIsIgnore := by
  rcases ignores.tcp with ⟨tcpFilter, isTcp, tcpOnly, tcpIgnored⟩
  rcases ignores.udp with ⟨udpFilter, isUdp, udpOnly, udpIgnored⟩
  rcases tcpOnly.ignoreLocalIface param with ⟨localOnly, localIgnored⟩
  rcases udpOnly.ignoreOverall bridge with ⟨overallOnly, overallIgnored⟩
  have tcpAfter : (tcpFilter.ignoreLocalIface param).ignored =
      tcp + NfctFilter.localIface param := by
    rw [localIgnored, ← tcpIgnored]
  simp only [ConntrackClient.updateTCPFilters, isTcp, Bool.false_eq_true, if_false]
  split
  · rename_i isIgnore
    refine ⟨_, rfl, ⟨⟨_, rfl, localOnly, tcpAfter⟩, ?_⟩, isIgnore, rfl⟩
    rw [add_zero]
    exact ignores.udp
  · simp only [isUdp, bind_eq_bind, bind_some]
    refine ⟨_, rfl, ⟨⟨_, rfl, localOnly, tcpAfter⟩, _, rfl, overallOnly, ?_⟩, rfl, rfl⟩
    rw [overallIgnored, ← udpIgnored]

theorem Ignores.wanUp :
    client.updateUDPFilters (some bridge) param true = some client ∧
      client.updateTCPFilters (some bridge) param true = some client := by
  rcases ignores.tcp with ⟨tcpFilter, isTcp, -⟩
  rcases ignores.udp with ⟨udpFilter, isUdp, -⟩
  simp [ConntrackClient.updateUDPFilters, ConntrackClient.updateTCPFilters, isTcp, isUdp]

end ConntrackClient

structure CtFilterRun where
  client : ConntrackClient
  lans : List EventIfaceUp

/-- What happens to the filters: an interface comes up and both are updated, the one for UDP first
or the one for TCP; or the thread of a protocol initializes its filter. -/
inductive CtFilterEvent where
  | ifaceUp (param : EventIfaceUp) (isWan tcpFirst : Bool)
  | tcpFilterInit
  | udpFilterInit

namespace CtFilterRun

variable (bridge : BitVec 32) (run : CtFilterRun)

def init : CtFilterRun := ⟨.getInstance, []⟩

def apply : CtFilterEvent → Option CtFilterRun
  | .ifaceUp param isWan tcpFirst => do
      let client ←
        if tcpFirst then do
          let first ← run.client.updateTCPFilters (some bridge) param isWan
          first.updateUDPFilters (some bridge) param isWan
        else do
          let first ← run.client.updateUDPFilters (some bridge) param isWan
          first.updateTCPFilters (some bridge) param isWan
      some ⟨client, if isWan then run.lans else run.lans ++ [param]⟩
  | .tcpFilterInit =>
      some { run with
        client := { run.client with
          tcpFilter := run.client.tcpFilter.map NfctFilter.tcpFilterInit } }
  | .udpFilterInit =>
      some { run with
        client := { run.client with
          udpFilter := run.client.udpFilter.map NfctFilter.udpFilterInit } }

def Step (event : CtFilterEvent) (next : CtFilterRun) : Prop :=
  run.apply bridge event = some next

def tcpIgnored : Multiset (NfctFilterAttr × BitVec 32) :=
  (run.client.tcpFilter.map NfctFilter.ignored).getD 0

def udpIgnored : Multiset (NfctFilterAttr × BitVec 32) :=
  (run.client.udpFilter.map NfctFilter.ignored).getD 0

def perIface (lans : List EventIfaceUp) : Multiset (NfctFilterAttr × BitVec 32) :=
  (lans.map NfctFilter.localIface).sum

/-- Both filters ignore the addresses of every notification and the ones that are added once, each
as often as it is to be added. -/
structure FiltersOk : Prop where
  tcp : run.tcpIgnored = perIface run.lans + NfctFilter.overall bridge
  udp : run.udpIgnored = perIface run.lans + NfctFilter.overall bridge

def FiltersAgree : Prop := ∀ entry, entry ∈ run.tcpIgnored ↔ entry ∈ run.udpIgnored

structure Inv : Prop where
  ignores : run.client.Ignores (perIface run.lans) (perIface run.lans +
    if run.lans = [] then 0 else NfctFilter.overall bridge + NfctFilter.overall bridge)
  tcpIsIgnore : run.client.tcpIsIgnore = !run.lans.isEmpty
  udpIsIgnore : run.client.udpIsIgnore = !run.lans.isEmpty

variable {bridge run} {next : CtFilterRun}

theorem perIface_append (lans : List EventIfaceUp) (param : EventIfaceUp) :
    perIface (lans ++ [param]) = perIface lans + NfctFilter.localIface param := by
  simp [perIface]

theorem Inv.lanUp (inv : run.Inv bridge) {param : EventIfaceUp} {tcpFirst : Bool}
    (stepped : run.Step bridge (.ifaceUp param false tcpFirst) next) : next.Inv bridge := by
  rcases inv with ⟨ignores, tcpIsIgnore, udpIsIgnore⟩
  have both : ∃ client, next = ⟨client, run.lans ++ [param]⟩ ∧
      client.Ignores (perIface (run.lans ++ [param])) (perIface (run.lans ++ [param]) +
        (NfctFilter.overall bridge + NfctFilter.overall bridge)) ∧
      client.tcpIsIgnore = true ∧ client.udpIsIgnore = true := by
    cases tcpFirst with
    | true =>
        rcases ignores.updateTCPFilters bridge param with
          ⟨first, tcpUpdated, afterTcp, firstTcp, firstUdp⟩
        rcases afterTcp.updateUDPFilters bridge param with
          ⟨second, udpUpdated, afterUdp, secondTcp, secondUdp⟩
        simp only [Step, apply, tcpUpdated, udpUpdated, if_true, bind_eq_bind,
          bind_some, Bool.false_eq_true, if_false, some.injEq] at stepped
        refine ⟨second, stepped.symm, ?_, secondTcp.trans firstTcp, secondUdp⟩
        rw [firstUdp, udpIsIgnore, tcpIsIgnore] at afterUdp
        rw [perIface_append]
        convert afterUdp using 1
        cases run.lans <;> simp <;> abel
    | false =>
        rcases ignores.updateUDPFilters bridge param with
          ⟨first, udpUpdated, afterUdp, firstTcp, firstUdp⟩
        rcases afterUdp.updateTCPFilters bridge param with
          ⟨second, tcpUpdated, afterTcp, secondTcp, secondUdp⟩
        simp only [Step, apply, tcpUpdated, udpUpdated, if_false, bind_eq_bind,
          bind_some, Bool.false_eq_true, some.injEq] at stepped
        refine ⟨second, stepped.symm, ?_, secondTcp, secondUdp.trans firstUdp⟩
        rw [firstTcp, udpIsIgnore, tcpIsIgnore] at afterTcp
        rw [perIface_append]
        convert afterTcp using 1
        cases run.lans <;> simp <;> abel
  rcases both with ⟨client, rfl, clientIgnores, tcpFlag, udpFlag⟩
  refine ⟨?_, ?_, ?_⟩
  · simpa using clientIgnores
  · simp [tcpFlag]
  · simp [udpFlag]

theorem Inv.step (inv : run.Inv bridge) {event : CtFilterEvent}
    (stepped : run.Step bridge event next) : next.Inv bridge := by
  cases event with
  | ifaceUp param isWan tcpFirst =>
      cases isWan with
      | true =>
          rcases inv.ignores.wanUp bridge param with ⟨udpSame, tcpSame⟩
          cases tcpFirst <;> simp [Step, apply, udpSame, tcpSame] at stepped <;> subst stepped
          · exact inv
          · exact inv
      | false => exact inv.lanUp stepped
  | tcpFilterInit =>
      rcases inv.ignores.tcp with ⟨filter, isTcp, only, isIgnored⟩
      rcases only.tcpFilterInit with ⟨initOnly, initIgnored⟩
      cases stepped
      refine ⟨⟨⟨_, by simp only [isTcp, map_some], initOnly, ?_⟩, inv.ignores.udp⟩,
        inv.tcpIsIgnore, inv.udpIsIgnore⟩
      rw [initIgnored, isIgnored]
  | udpFilterInit =>
      rcases inv.ignores.udp with ⟨filter, isUdp, only, isIgnored⟩
      rcases only.udpFilterInit with ⟨initOnly, initIgnored⟩
      cases stepped
      refine ⟨⟨inv.ignores.tcp, _, by simp only [isUdp, map_some], initOnly, ?_⟩,
        inv.tcpIsIgnore, inv.udpIsIgnore⟩
      rw [initIgnored, isIgnored]

theorem inv_init : init.Inv bridge := by
  have onlyIgnores : NfctFilter.create.OnlyIgnores := by
    intro type addr mask mem
    simp [NfctFilter.create] at mem
  exact ⟨⟨⟨_, rfl, onlyIgnores, rfl⟩, ⟨_, rfl, onlyIgnores, rfl⟩⟩, rfl, rfl⟩

theorem reachable_inv (reached : Run.Reachable (· = init) (fun run => run.Step bridge) run) :
    run.Inv bridge := by
  apply reached.invariant fun run => run.Inv bridge
  · rintro _ rfl
    exact inv_init
  · intro current event after inv stepped
    exact inv.step stepped

theorem Inv.ignored_eq (inv : run.Inv bridge) :
    run.tcpIgnored = perIface run.lans ∧ run.udpIgnored = perIface run.lans +
      if run.lans = [] then 0 else NfctFilter.overall bridge + NfctFilter.overall bridge := by
  rcases inv.ignores.tcp with ⟨tcp, isTcp, -, tcpIgnored⟩
  rcases inv.ignores.udp with ⟨udp, isUdp, -, udpIgnored⟩
  constructor
  · simp only [CtFilterRun.tcpIgnored, isTcp, map_some, getD_some, tcpIgnored]
  · simp only [CtFilterRun.udpIgnored, isUdp, map_some, getD_some, udpIgnored]

theorem Inv.filtersOk_iff (inv : run.Inv bridge) :
    (run.lans ≠ [] → run.FiltersOk bridge) ↔ run.lans = [] := by
  constructor
  · intro claimed
    by_contra isUp
    have tooFew := (claimed isUp).tcp
    rw [inv.ignored_eq.1, left_eq_add] at tooFew
    simp [NfctFilter.overall] at tooFew
  · intro none isUp
    exact absurd none isUp

theorem mem_perIface (lans : List EventIfaceUp) (entry : NfctFilterAttr × BitVec 32) :
    entry ∈ perIface lans ↔ ∃ param ∈ lans, entry ∈ NfctFilter.localIface param := by
  induction lans with
  | nil => simp [perIface]
  | cons param rest ih =>
      have split : perIface (param :: rest) = NfctFilter.localIface param + perIface rest := by
        simp [perIface]
      simp [split, ih]

theorem mem_perIface_src (lans : List EventIfaceUp) (addr : BitVec 32) :
    (NfctFilterAttr.srcIpv4, addr) ∈ perIface lans ↔ ∃ param ∈ lans, param.ipv4Addr = addr := by
  simp [mem_perIface, NfctFilter.localIface, eq_comm]

theorem mem_perIface_dst {lans : List EventIfaceUp} {addr : BitVec 32}
    (isSrc : (NfctFilterAttr.srcIpv4, addr) ∈ perIface lans) :
    (NfctFilterAttr.dstIpv4, addr) ∈ perIface lans := by
  rcases (mem_perIface_src lans addr).mp isSrc with ⟨param, mem, rfl⟩
  exact (mem_perIface lans _).mpr ⟨param, mem, by simp [NfctFilter.localIface]⟩

theorem Inv.filtersAgree_iff (inv : run.Inv bridge) (isUp : run.lans ≠ []) :
    run.FiltersAgree ↔ (∃ param ∈ run.lans, param.ipv4Addr = bridge) ∧
      ∃ param ∈ run.lans, param.ipv4Addr = 0xffffffff := by
  rcases inv.ignored_eq with ⟨tcp, udp⟩
  simp only [FiltersAgree, tcp, udp, isUp, if_false, ← mem_perIface_src]
  constructor
  · intro agree
    constructor
    · exact (agree _).mpr (by simp [NfctFilter.overall])
    · exact (agree _).mpr (by simp [NfctFilter.overall])
  · rintro ⟨isBridge, isBroadcast⟩ entry
    have overall : ∀ entry ∈ NfctFilter.overall bridge, entry ∈ perIface run.lans := by
      simp only [NfctFilter.overall, insert_eq_cons, mem_cons,
        mem_singleton]
      rintro entry (rfl | rfl | rfl | rfl)
      · exact mem_perIface_dst isBridge
      · exact isBridge
      · exact mem_perIface_dst isBroadcast
      · exact isBroadcast
    simp only [mem_add]
    constructor
    · exact .inl
    · rintro (mem | mem | mem)
      · exact mem
      · exact overall entry mem
      · exact overall entry mem

/-- Once a local interface came up, the filters are never as they are to be, and agree in the
addresses only where the bridge and the broadcast address are its or another's. -/
theorem reachable_filtersOk_iff
    (reached : Run.Reachable (· = init) (fun run => run.Step bridge) run) :
    ((run.lans ≠ [] → run.FiltersOk bridge) ↔ run.lans = []) ∧
      (run.lans ≠ [] → (run.FiltersAgree ↔ (∃ param ∈ run.lans, param.ipv4Addr = bridge) ∧
        ∃ param ∈ run.lans, param.ipv4Addr = 0xffffffff)) :=
  ⟨(reachable_inv reached).filtersOk_iff, (reachable_inv reached).filtersAgree_iff⟩

def oneUp : CtFilterRun :=
  ((init.apply 0xc0a8e101 (.ifaceUp ⟨0xc0a80101, 0xffffff00⟩ false false)).getD init)

theorem oneUp_reachable :
    Run.Reachable (· = init) (fun run => run.Step 0xc0a8e101) oneUp := by
  have isNext : init.Step 0xc0a8e101 (.ifaceUp ⟨0xc0a80101, 0xffffff00⟩ false false) oneUp := rfl
  exact .next _ (.start rfl) isNext

theorem oneUp_lans : oneUp.lans = [⟨0xc0a80101, 0xffffff00⟩] := rfl

theorem reachable_filtersOk_iff_oneUp :
    ¬(oneUp.lans ≠ [] → oneUp.FiltersOk 0xc0a8e101) ∧ ¬oneUp.FiltersAgree := by
  rcases reachable_filtersOk_iff oneUp_reachable with ⟨okIff, agreeIff⟩
  rw [okIff, agreeIff (by simp [oneUp_lans]), oneUp_lans]
  decide

/-- The filter for TCP lacks what is to be added once. -/
theorem not_filtersOk : ¬∀ (bridge : BitVec 32) (run : CtFilterRun),
    Run.Reachable (· = init) (fun run => run.Step bridge) run → run.lans ≠ [] →
      run.FiltersOk bridge := by
  intro claimed
  have ok := claimed _ _ oneUp_reachable (by simp [oneUp_lans])
  have tooFew := congrArg Multiset.card ok.tcp
  revert tooFew
  decide

end CtFilterRun

end HtcPme.Ipacm
