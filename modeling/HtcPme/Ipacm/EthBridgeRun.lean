import HtcPme.Foundation.Adjacency
import HtcPme.Ipacm.EthBridgeTables

/-!
# Runs of the bridging rules

A client that leaves while the context from WLAN is gone, but the event about it is still queued,
leaves its rules behind.
-/

namespace HtcPme.Ipacm

namespace EthBridge

open EthRtTables List

variable {μ : Type*} (bridge : EthBridge μ)

def wlanRules (ip : IpaIpType) : List (ℕ × EthBridgeSrcIface × ℕ × μ) :=
  ((bridge.tables.kernel ip).view EthRtRule.target).filter (·.2.1 = .srcWlan)

/-- The table of one IP type has each connected client once, with a handle for each tx property, and
the kernel has these rules and no others. Without a valid context there are none. -/
structure Bridges (ip : IpaIpType) : Prop where
  nodup : (bridge.tables.macs (.srcWlan, ip)).Nodup
  macs : ∀ mac, mac ∈ bridge.tables.macs (.srcWlan, ip) ↔
    bridge.ctxs.wlanToUsb.valid = true ∧ mac ∈ bridge.connected
  hdls : ∀ info ∈ bridge.tables.rtInfo (.srcWlan, ip),
    info.rtRuleHdl.length = bridge.iface.eachClientRtRuleCount ip
  rules : (bridge.wlanRules ip).Perm (bridge.tables.listing bridge.iface (.srcWlan, ip))

structure BridgeOk : Prop where
  settled : bridge.queue = [] → ∀ ip, bridge.Bridges ip
  within : ∀ key, bridge.tables.reach key ≤ allocated key

/-- The LAN interface has just come up: it has no clients, its constructor has set the contexts as
far as WLAN is up, and no event of a WLAN interface is queued. -/
structure IsInit : Prop where
  lanNodup : (bridge.lanClient.map Prod.fst).Nodup
  lanWithin : bridge.lanClient.length ≤ ipaLanToLanMaxLanClient
  notOwn : ∀ client ∈ bridge.lanClient, client.2 ≠ bridge.iface.ipaIfNum
  ctxs : bridge.ctxs.lanToWlan.valid = bridge.ctxs.wlanToUsb.valid
  tables : bridge.tables = .init
  queue : ∀ event ∈ bridge.queue, event.2 ≠ .wlanIf
  connected : bridge.connected = []

/-- The number of clients is within the limit of the client list, and no client of this interface is
one of another. -/
def Within : EthBridgeEvent μ → Prop
  | .neighAdd mac true _ =>
      (mac, bridge.iface.ipaIfNum) ∈ bridge.lanClient ∨
        bridge.lanClient.length < ipaLanToLanMaxLanClient ∧
          mac ∉ bridge.lanClient.map Prod.fst
  | _ => True

def BridgeGuard : EthBridgeEvent μ → Prop
  | .neighDel mac =>
      bridge.ctxs.wlanToUsb.valid = true ∨ ∀ ip, mac ∉ bridge.tables.macs (.srcWlan, ip)
  | _ => True

def pending : List HdrProcCtxEvent :=
  (bridge.queue.filter (·.2 = .wlanIf)).map Prod.fst

/-- The last queued event of a WLAN interface says whether the context is valid; with none queued
the listed clients are those they should be. -/
def Due (pending : List HdrProcCtxEvent) (valid : Bool) (connected listed : List μ) : Prop :=
  match pending.getLast? with
  | none => if valid then ∀ mac ∈ connected, mac ∈ listed else listed = []
  | some .set => valid = true
  | some .unset => valid = false

structure BridgeInv : Prop where
  lanNodup : (bridge.lanClient.map Prod.fst).Nodup
  lanWithin : bridge.lanClient.length ≤ ipaLanToLanMaxLanClient
  listed : ∀ mac, mac ∈ bridge.connected ↔ (mac, bridge.iface.ipaIfNum) ∈ bridge.lanClient
  ctxs : bridge.ctxs.lanToWlan.valid = bridge.ctxs.wlanToUsb.valid
  tables : bridge.tables.Ok bridge.iface
  wlan : ∃ listed, bridge.tables.WlanMacs listed ∧ (∀ mac ∈ listed, mac ∈ bridge.connected) ∧
    Due bridge.pending bridge.ctxs.wlanToUsb.valid bridge.connected listed

section Steps

variable {bridge} {source : HandleSource} {mac : μ} {listed : List μ}

theorem Due.change {pending : List HdrProcCtxEvent} {valid : Bool}
    {connected connected' listed' : List μ} (due : Due pending valid connected listed)
    (whenValid : valid = true → (∀ mac ∈ connected, mac ∈ listed) →
      ∀ mac ∈ connected', mac ∈ listed')
    (whenInvalid : valid = false → listed = [] → listed' = []) :
    Due pending valid connected' listed' := by
  simp only [Due] at due ⊢
  split at due
  · cases valid with
    | true => exact whenValid rfl due
    | false => exact whenInvalid rfl due
  · exact due
  · exact due

theorem mem_ownClients :
    mac ∈ bridge.ownClients ↔ (mac, bridge.iface.ipaIfNum) ∈ bridge.lanClient := by
  simp [ownClients]

theorem BridgeInv.bridges (inv : bridge.BridgeInv) (empty : bridge.queue = []) (ip : IpaIpType) :
    bridge.Bridges ip := by
  rcases inv.wlan with ⟨listed, wlan, isConnected, due⟩
  simp only [Due, pending, empty, filter_nil, map_nil, getLast?_nil] at due
  refine ⟨inv.tables.nodup _, fun mac => ?_, inv.tables.hdls _, ?_⟩
  · rw [wlan ip]
    split_ifs at due with valid
    · exact ⟨fun isListed => ⟨valid, isConnected mac isListed⟩, fun ⟨_, member⟩ => due mac member⟩
    · simp [due, valid]
  · have own : (bridge.tables.listing bridge.iface (.srcWlan, ip)).filter (·.2.1 = .srcWlan) =
        bridge.tables.listing bridge.iface (.srcWlan, ip) := by
      apply filter_eq_self.mpr
      intro entry isIn
      rcases mem_flatMap.mp isIn with ⟨info, -, inBlock⟩
      have target := of_mem_zip inBlock |>.2
      rcases mem_map.mp target with ⟨tx, -, same⟩
      simp [← same]
    have others : (bridge.tables.listing bridge.iface (.srcLan, ip)).filter
        (·.2.1 = .srcWlan) = [] := by
      apply filter_eq_nil_iff.mpr
      intro entry isIn
      rcases mem_flatMap.mp isIn with ⟨info, -, inBlock⟩
      have target := of_mem_zip inBlock |>.2
      rcases mem_map.mp target with ⟨tx, -, same⟩
      simp [← same]
    have booked := (inv.tables.booked .srcWlan ip).filter fun entry => entry.2.1 = .srcWlan
    rw [filter_append, own, EthBridgeSrcIface.other, others, append_nil] at booked
    exact booked

theorem BridgeInv.ok (inv : bridge.BridgeInv) : bridge.BridgeOk :=
  ⟨inv.bridges, inv.tables.reach⟩

theorem IsInit.inv (isInit : bridge.IsInit) : bridge.BridgeInv where
  lanNodup := isInit.lanNodup
  lanWithin := isInit.lanWithin
  listed mac := by
    simpa [isInit.connected] using fun isIn => isInit.notOwn _ isIn rfl
  ctxs := isInit.ctxs
  tables := isInit.tables ▸ init_ok
  wlan := by
    have none : bridge.pending = [] := by simpa [pending] using isInit.queue
    refine ⟨[], fun ip => ?_, by simp, ?_⟩
    · rw [isInit.tables]
      rfl
    · simp [Due, none, isInit.connected]

variable [DecidableEq μ]

section

variable (inv : bridge.BridgeInv)

include inv

theorem ethBridgeAddLanClient_spec (within : bridge.Within (.neighAdd mac true source)) :
    ((bridge.ethBridgeAddLanClient mac).map Prod.fst).Nodup ∧
      (bridge.ethBridgeAddLanClient mac).length ≤ ipaLanToLanMaxLanClient ∧
      ∀ mac', (mac', bridge.iface.ipaIfNum) ∈ bridge.ethBridgeAddLanClient mac ↔
        mac' = mac ∨ (mac', bridge.iface.ipaIfNum) ∈ bridge.lanClient := by
  rcases within with isOwn | ⟨room, isNew⟩
  · have same : bridge.ethBridgeAddLanClient mac = bridge.lanClient := by
      have isIn : mac ∈ bridge.lanClient.map Prod.fst := mem_map_of_mem isOwn
      simp [ethBridgeAddLanClient, isIn]
    rw [same]
    refine ⟨inv.lanNodup, inv.lanWithin, fun mac' => ⟨.inr, ?_⟩⟩
    rintro (rfl | isIn)
    · exact isOwn
    · exact isIn
  · have appended : bridge.ethBridgeAddLanClient mac =
        bridge.lanClient ++ [(mac, bridge.iface.ipaIfNum)] := by
      simp only [ethBridgeAddLanClient, if_neg room.ne, if_neg isNew]
    rw [appended]
    refine ⟨?_, ?_, fun mac' => ?_⟩
    · simpa using inv.lanNodup.concat isNew
    · simpa using Nat.succ_le_of_lt room
    · simp [or_comm]

theorem addClientRules_ok :
    (bridge.addClientRules source mac).Ok bridge.iface := by
  simp only [addClientRules]
  split_ifs
  · exact inv.tables.addLanClientRtRules.addLanClientRtRules
  · exact inv.tables.addLanClientRtRules
  · exact inv.tables.addLanClientRtRules
  · exact inv.tables

theorem delClientRules_ok :
    (bridge.delClientRules mac).Ok bridge.iface := by
  simp only [delClientRules]
  split_ifs
  · exact inv.tables.ethBridgeDelLanClientRtRule.ethBridgeDelLanClientRtRule
  · exact inv.tables.ethBridgeDelLanClientRtRule
  · exact inv.tables.ethBridgeDelLanClientRtRule
  · exact inv.tables

end

theorem addClientRules_wlan (wlan : bridge.tables.WlanMacs listed)
    (hasRoom : mac ∉ listed → listed.length ≠ ipaLanToLanMaxWlanClient) :
    (bridge.addClientRules source mac).WlanMacs
      (if bridge.ctxs.wlanToUsb.valid = true ∧ mac ∉ listed then listed ++ [mac] else listed) := by
  have fromLan : (if bridge.ctxs.cpeToUsb.valid = true then
      bridge.tables.addLanClientRtRules bridge.iface bridge.ctxs source mac .srcLan
      else bridge.tables).WlanMacs listed := by
    split_ifs
    · exact wlan.addLan
    · exact wlan
  simp only [addClientRules]
  by_cases valid : bridge.ctxs.wlanToUsb.valid = true
  · have added := fromLan.addWlan bridge.iface source valid hasRoom
    simpa [valid] using added
  · simpa [valid] using fromLan

theorem delClientRules_wlan (wlan : bridge.tables.WlanMacs listed) :
    (bridge.delClientRules mac).WlanMacs
      (if bridge.ctxs.wlanToUsb.valid then listed.erase mac else listed) := by
  have fromLan : (if bridge.ctxs.cpeToUsb.valid = true then
      bridge.tables.ethBridgeDelLanClientRtRule mac .srcLan
      else bridge.tables).WlanMacs listed := by
    split_ifs
    · exact wlan.delLan
    · exact wlan
  simp only [delClientRules]
  by_cases valid : bridge.ctxs.wlanToUsb.valid = true
  · simpa only [valid, if_true] using fromLan.delWlan
  · simpa only [if_neg valid] using fromLan

section

variable (inv : bridge.BridgeInv)

include inv

theorem BridgeInv.neighAdd {ipAddrSet : Bool}
    (within : bridge.Within (.neighAdd mac ipAddrSet source)) :
    (bridge.neighAdd source mac ipAddrSet).BridgeInv := by
  cases ipAddrSet with
  | false => exact inv
  | true =>
      rcases ethBridgeAddLanClient_spec inv within with ⟨nodup, isWithin, member⟩
      rcases inv.wlan with ⟨listed, wlan, isConnected, due⟩
      have hasRoom : mac ∉ listed → listed.length ≠ ipaLanToLanMaxWlanClient := by
        apply room ((bridge.ethBridgeAddLanClient mac).map Prod.fst)
        · exact wlan .v4 ▸ inv.tables.nodup _
        · intro mac' isListed
          have own := (inv.listed mac').mp (isConnected mac' isListed)
          exact mem_map_of_mem ((member mac').mpr (.inr own))
        · simpa using isWithin
        · exact mem_map_of_mem ((member mac).mpr (.inl rfl))
      have added : ∀ mac', mac' ∈ (if bridge.ctxs.wlanToUsb.valid = true ∧ mac ∉ listed then
          listed ++ [mac] else listed) ↔
          mac' ∈ listed ∨ (bridge.ctxs.wlanToUsb.valid = true ∧ mac' = mac) := by
        intro mac'
        split_ifs with isNew
        · simp [isNew.1]
        · refine ⟨.inl, ?_⟩
          rintro (before | ⟨valid, rfl⟩)
          · exact before
          · by_contra isNew'
            exact isNew ⟨valid, isNew'⟩
      refine ⟨nodup, isWithin, fun mac' => ?_, inv.ctxs, addClientRules_ok inv,
        _, addClientRules_wlan wlan hasRoom, fun mac' isListed => ?_, due.change ?_ ?_⟩
      · simp [EthBridge.neighAdd, member, inv.listed]
      · have known := (added mac').mp isListed
        simpa [EthBridge.neighAdd, or_comm] using known.imp (isConnected mac') And.right
      · intro valid all mac' isConnected'
        rcases mem_insert_iff.mp isConnected' with rfl | before
        · exact (added mac').mpr (.inr ⟨valid, rfl⟩)
        · exact (added mac').mpr (.inl (all mac' before))
      · intro invalid none
        simp [invalid, none]

theorem BridgeInv.neighDel (guarded : bridge.BridgeGuard (.neighDel mac)) :
    (bridge.neighDel mac).BridgeInv := by
  rcases inv.wlan with ⟨listed, wlan, isConnected, due⟩
  have nodup : listed.Nodup := wlan .v4 ▸ inv.tables.nodup _
  have removed : ∀ mac', mac' ∈ (if bridge.ctxs.wlanToUsb.valid then listed.erase mac else listed) ↔
      mac' ≠ mac ∧ mac' ∈ listed := by
    intro mac'
    split_ifs with valid
    · exact nodup.mem_erase_iff
    · have isAbsent : mac ∉ listed := wlan .v4 ▸ (guarded.resolve_left valid) .v4
      exact ⟨fun isIn => ⟨fun same => isAbsent (same ▸ isIn), isIn⟩, And.right⟩
  refine ⟨Adjacency.nodup_eraseP inv.lanNodup,
    (eraseP_sublist.length_le).trans inv.lanWithin, fun mac' => ?_, inv.ctxs,
    delClientRules_ok inv, _, delClientRules_wlan wlan, fun mac' isListed => ?_, due.change ?_ ?_⟩
  · have erased : (mac', bridge.iface.ipaIfNum) ∈ bridge.lanClient.eraseP (·.1 = mac) ↔
        (mac', bridge.iface.ipaIfNum) ∈ bridge.lanClient ∧ mac' ≠ mac :=
      Adjacency.mem_eraseP inv.lanNodup
    simp [EthBridge.neighDel, ethBridgeDelLanClient, erased, inv.listed]
  · rcases (removed mac').mp isListed with ⟨differs, before⟩
    simpa [EthBridge.neighDel] using And.intro (isConnected mac' before) differs
  · intro valid all mac' isConnected'
    have kept : mac' ∈ bridge.connected ∧ mac' ≠ mac := by
      simpa [EthBridge.neighDel] using isConnected'
    exact (removed mac').mpr ⟨kept.2, all mac' kept.1⟩
  · intro invalid none
    simp [none]

omit [DecidableEq μ] in
theorem BridgeInv.addHdrProcCtx (lanToWlanHdl wlanToUsbHdl : ℕ) :
    (bridge.addHdrProcCtx lanToWlanHdl wlanToUsbHdl).BridgeInv := by
  have ctxs := inv.ctxs
  simp only [EthBridge.addHdrProcCtx]
  cases valid : bridge.ctxs.wlanToUsb.valid with
  | true => simpa [ctxs, valid] using inv
  | false =>
      rcases inv.wlan with ⟨listed, wlan, isConnected, -⟩
      simp only [ctxs, valid, Bool.false_eq_true, if_false]
      refine ⟨inv.lanNodup, inv.lanWithin, inv.listed, rfl, inv.tables, listed, wlan, isConnected,
        ?_⟩
      simp [Due, pending]

omit [DecidableEq μ] in
theorem BridgeInv.delHdrProcCtx : bridge.delHdrProcCtx.BridgeInv := by
  have ctxs := inv.ctxs
  simp only [EthBridge.delHdrProcCtx]
  cases valid : bridge.ctxs.wlanToUsb.valid with
  | false => simpa [ctxs, valid] using inv
  | true =>
      rcases inv.wlan with ⟨listed, wlan, isConnected, -⟩
      simp only [ctxs, valid, if_true]
      refine ⟨inv.lanNodup, inv.lanWithin, inv.listed, rfl, inv.tables, listed, wlan, isConnected,
        ?_⟩
      simp [Due, pending]

theorem handleHdrProcCtxEvent_ok (event : HdrProcCtxEvent × EthIfCat) :
    (bridge.handleHdrProcCtxEvent source event).Ok bridge.iface := by
  rcases event with ⟨kind, cat⟩
  cases kind <;> cases cat
  · exact inv.tables
  · exact inv.tables.foldl_add
  · exact inv.tables.foldl_add
  · exact inv.tables
  · exact inv.tables.foldl_del
  · exact inv.tables.foldl_del

end

theorem handleHdrProcCtxEvent_other (wlan : bridge.tables.WlanMacs listed)
    (event : HdrProcCtxEvent × EthIfCat) (notWlan : event.2 ≠ .wlanIf) :
    (bridge.handleHdrProcCtxEvent source event).WlanMacs listed := by
  rcases event with ⟨kind, cat⟩
  cases kind <;> cases cat
  · exact wlan
  · exact absurd rfl notWlan
  · exact wlan.foldl_addLan
  · exact wlan
  · exact absurd rfl notWlan
  · exact wlan.foldl_delLan

variable (inv : bridge.BridgeInv)

include inv

theorem handleHdrProcCtxEvent_wlan (wlan : bridge.tables.WlanMacs listed)
    (isConnected : ∀ mac ∈ listed, mac ∈ bridge.connected) (kind : HdrProcCtxEvent)
    {later : List HdrProcCtxEvent}
    (due : Due (kind :: later) bridge.ctxs.wlanToUsb.valid bridge.connected listed) :
    ∃ listed', (bridge.handleHdrProcCtxEvent source (kind, .wlanIf)).WlanMacs listed' ∧
      (∀ mac ∈ listed', mac ∈ bridge.connected) ∧
      Due later bridge.ctxs.wlanToUsb.valid bridge.connected listed' := by
  have own (mac : μ) : mac ∈ bridge.ownClients ↔ mac ∈ bridge.connected :=
    mem_ownClients.trans (inv.listed mac).symm
  have within : bridge.ownClients.length ≤ ipaLanToLanMaxLanClient := by
    apply le_trans _ inv.lanWithin
    simpa [ownClients] using length_filter_le _ _
  have nodup : listed.Nodup := wlan .v4 ▸ inv.tables.nodup _
  have dueLater (listed' : List μ) (notLast : later ≠ []) :
      Due later bridge.ctxs.wlanToUsb.valid bridge.connected listed' := by
    rcases exists_cons_of_ne_nil notLast with ⟨next, rest, rfl⟩
    simp only [Due, getLast?_cons_cons] at due ⊢
    cases last : (next :: rest).getLast? with
    | none => simp at last
    | some final => cases final <;> simpa only [last] using due
  cases kind with
  | set =>
      cases valid : bridge.ctxs.wlanToUsb.valid with
      | true =>
          have added : ∃ listed',
              (bridge.handleHdrProcCtxEvent source (.set, .wlanIf)).WlanMacs listed' ∧
                ∀ mac, mac ∈ listed' ↔ mac ∈ listed ∨ mac ∈ bridge.ownClients :=
            wlan.foldl_addWlan inv.tables valid within
              (fun mac isListed => (own mac).mpr (isConnected mac isListed)) fun _ isOwn => isOwn
          rcases added with ⟨listed', wlan', member⟩
          refine ⟨listed', wlan', fun mac isIn => ?_, ?_⟩
          · exact ((member mac).mp isIn).elim (isConnected mac) (own mac).mp
          · by_cases last : later = []
            · subst last
              exact fun mac isIn => (member mac).mpr (.inr ((own mac).mpr isIn))
            · exact valid ▸ dueLater listed' last
      | false =>
          refine ⟨listed, wlan.foldl_addWlan_invalid valid, isConnected, ?_⟩
          have notLast : later ≠ [] := by
            rintro rfl
            simp [Due, valid] at due
          exact valid ▸ dueLater listed notLast
  | unset =>
      refine ⟨listed.diff bridge.ownClients, wlan.foldl_delWlan, fun mac isIn => ?_, ?_⟩
      · exact isConnected mac ((nodup.mem_sdiff_iff).mp isIn).1
      · by_cases last : later = []
        · subst last
          have invalid : bridge.ctxs.wlanToUsb.valid = false := due
          have none : listed.diff bridge.ownClients = [] := by
            apply eq_nil_iff_forall_not_mem.mpr
            intro mac isIn
            rcases (nodup.mem_sdiff_iff).mp isIn with ⟨isListed, notOwn⟩
            exact notOwn ((own mac).mpr (isConnected mac isListed))
          simp [Due, invalid, none]
        · exact dueLater _ last

theorem BridgeInv.dispatch {event : HdrProcCtxEvent × EthIfCat}
    {queue : List (HdrProcCtxEvent × EthIfCat)} (queued : bridge.queue = event :: queue) :
    BridgeInv { bridge with tables := bridge.handleHdrProcCtxEvent source event, queue } := by
  rcases inv.wlan with ⟨listed, wlan, isConnected, due⟩
  refine ⟨inv.lanNodup, inv.lanWithin, inv.listed, inv.ctxs, handleHdrProcCtxEvent_ok inv event, ?_⟩
  rcases event with ⟨kind, cat⟩
  by_cases isWlan : cat = .wlanIf
  · subst isWlan
    apply handleHdrProcCtxEvent_wlan inv wlan isConnected kind
    simpa [pending, queued] using due
  · refine ⟨listed, handleHdrProcCtxEvent_other wlan _ isWlan, isConnected, ?_⟩
    simpa [pending, queued, isWlan] using due

theorem BridgeInv.step {event : EthBridgeEvent μ} {bridge' : EthBridge μ}
    (guarded : bridge.BridgeGuard event) (within : bridge.Within event)
    (stepped : bridge.step event = some bridge') : bridge'.BridgeInv := by
  cases event with
  | neighAdd mac ipAddrSet source =>
      cases stepped
      exact inv.neighAdd within
  | neighDel mac =>
      cases stepped
      exact inv.neighDel guarded
  | addHdrProcCtx lanToWlanHdl wlanToUsbHdl =>
      cases stepped
      exact inv.addHdrProcCtx lanToWlanHdl wlanToUsbHdl
  | delHdrProcCtx =>
      cases stepped
      exact inv.delHdrProcCtx
  | dispatch source =>
      simp only [EthBridge.step] at stepped
      split at stepped
      · cases stepped
      · next event queue queued =>
        cases stepped
        exact inv.dispatch queued

end Steps

variable [DecidableEq μ]

def Step (bridge : EthBridge μ) (event : EthBridgeEvent μ) (bridge' : EthBridge μ) : Prop :=
  bridge.Within event ∧ bridge.step event = some bridge'

variable {bridge}

theorem reachable_bridgeOk (reached : Run.Reachable IsInit (Run.Guarded BridgeGuard Step) bridge) :
    bridge.BridgeOk := by
  apply BridgeInv.ok
  apply reached.invariant BridgeInv
  · exact fun _ isInit => isInit.inv
  · rintro _ _ _ inv ⟨guarded, within, stepped⟩
    exact inv.step guarded within stepped

section Histories

def start : EthBridge ℕ where
  iface := ⟨[⟨.v4, 10, 0, 0⟩, ⟨.v6, 11, 0, 0⟩], 2, true, true⟩
  ctxs := ⟨⟨0, false⟩, ⟨0, false⟩, ⟨0, false⟩, ⟨0, false⟩⟩
  lanClient := []
  tables := .init
  queue := []
  connected := []

theorem start_isInit : start.IsInit where
  lanNodup := nodup_nil
  lanWithin := Nat.zero_le _
  notOwn _ listed := by cases listed
  ctxs := rfl
  tables := rfl
  queue _ queued := by cases queued
  connected := rfl

def joinedAndLeft : List (EthBridgeEvent ℕ) :=
  [.addHdrProcCtx 1 2, .neighAdd 5 true .counting, .neighAdd 6 true .counting,
    .dispatch .counting, .neighDel 6, .delHdrProcCtx, .dispatch .counting]

theorem reachable_bridgeOk_joinedAndLeft :
    ∃ bridge, Run.runAll (fun bridge event => bridge.step event) start joinedAndLeft = some bridge
      ∧ bridge.BridgeOk := by
  refine ⟨_, rfl, reachable_bridgeOk
    (.next (.dispatch .counting)
      (.next .delHdrProcCtx
        (.next (.neighDel 6)
          (.next (.dispatch .counting)
            (.next (.neighAdd 6 true .counting)
              (.next (.neighAdd 5 true .counting)
                (.next (.addHdrProcCtx 1 2) (.start start_isInit) ⟨trivial, trivial, rfl⟩)
                ⟨trivial, .inr ⟨by decide, by decide⟩, rfl⟩)
              ⟨trivial, .inr ⟨by decide, by decide⟩, rfl⟩)
            ⟨trivial, trivial, rfl⟩)
          ⟨.inl rfl, trivial, rfl⟩)
        ⟨trivial, trivial, rfl⟩)
      ⟨trivial, trivial, rfl⟩)⟩

/-- A client leaves between the loss of the context and the event about it: its rules stay. -/
theorem reachable_not_bridgeOk :
    ∃ bridge : EthBridge ℕ, Run.Reachable IsInit Step bridge ∧ bridge.queue = [] ∧
      bridge.ctxs.wlanToUsb.valid = false ∧ bridge.connected = [] ∧
      (bridge.wlanRules .v4).length = 1 ∧ ¬ bridge.BridgeOk := by
  refine ⟨_, .next (.dispatch .counting)
    (.next (.neighDel 5)
      (.next .delHdrProcCtx
        (.next (.dispatch .counting)
          (.next (.neighAdd 5 true .counting)
            (.next (.addHdrProcCtx 1 2) (.start start_isInit) ⟨trivial, rfl⟩)
            ⟨.inr ⟨by decide, by decide⟩, rfl⟩)
          ⟨trivial, rfl⟩)
        ⟨trivial, rfl⟩)
      ⟨trivial, rfl⟩)
    ⟨trivial, rfl⟩, rfl, rfl, rfl, rfl, ?_⟩
  intro ok
  have listed := ((ok.settled rfl .v4).macs 5).mp (by decide)
  exact absurd listed.1 (by decide)

end Histories

end EthBridge

end HtcPme.Ipacm
