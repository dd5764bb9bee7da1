import HtcPme.Ipacm.UplinkRule
import Mathlib.Data.List.Nodup
import Mathlib.Data.List.ReduceOption

/-!
# Runs of WAN-ups and WAN-downs

The kernel has the rules whose handles are stored, and a WAN-down leaves none.
-/

namespace HtcPme.Ipacm

open List

/-- An `IPACM_Lan` object with rx properties, both IP types and one IPv6 address. -/
structure LanUplink (α : Type*) where
  iface : UplinkIface
  rules : IpaIpType → UplinkRules α

namespace LanUplink

variable {α : Type*}

def IsInit (lan : LanUplink α) : Prop :=
  lan.iface.numDftRtV6 = 1 ∧ lan.rules = fun _ => .init

inductive Event (α : Type*) where
  | up (ip : IpaIpType) (isSta : Bool) (ext : IpacmExtProp α) (xlatMuxId : BitVec 8)
      (reply : UpReply)
  | down (ip : IpaIpType) (isSta : Bool) (failsAt : Option ℕ)

def requested (isSta : Bool) (ext : IpacmExtProp α) : ℕ := if isSta then 1 else ext.prop.length

/-- The kernel answers for as many rules as it is asked for, with handles that are not 0 and that it
does not have. -/
def ValidReply (lan : LanUplink α) (ip : IpaIpType) (isSta : Bool) (ext : IpacmExtProp α)
    (reply : UpReply) : Prop :=
  ∀ added ∈ reply.added, added.length = requested isSta ext ∧ added.reduceOption.Nodup ∧
    ∀ hdl ∈ added.reduceOption, hdl ≠ 0 ∧ hdl ∉ (lan.rules ip).handles

/-- A step is an event that can happen: a WAN-down has the backhaul type of the WAN-up before it. -/
def Step (lan : LanUplink α) (event : Event α) (next : LanUplink α) : Prop :=
  match event with
  | .up ip isSta ext xlatMuxId reply =>
      lan.ValidReply ip isSta ext reply ∧
        next = { lan with
          rules := Function.update lan.rules ip
            ((lan.rules ip).wanUp lan.iface ip isSta ext xlatMuxId reply) }
  | .down ip isSta failsAt =>
      (lan.rules ip).lastUp = some isSta ∧
        next = { lan with
          rules := Function.update lan.rules ip ((lan.rules ip).wanDown ip isSta failsAt) }

structure Succeeds (isSta : Bool) (reply : UpReply) : Prop where
  qmapIdWritten : isSta = false → reply.qmapIdWritten = true
  indexSent : isSta = false → reply.indexSent = true
  routingTable : isSta = true → reply.routingTable = true
  added : ∃ added, reply.added = some added ∧ none ∉ added

/-- The rules that the kernel has are those whose handles are stored, installed at most once since
the last WAN-down, and none after it. -/
structure UplinkOk (rules : UplinkRules α) : Prop where
  stored : rules.handles = rules.wanUlFlRuleHdl ∨
    rules.wanUlFlRuleHdl = [] ∧ rules.handles = [rules.staFlRuleHdl]
  once : rules.installs ≤ 1
  down : rules.isUp = false → rules.present = []

def UpInstalls (lan : LanUplink α) (event : Event α) (next : LanUplink α) : Prop :=
  match event with
  | .up ip isSta ext _ reply =>
      (lan.rules ip).present = [] → Succeeds isSta reply → 0 < requested isSta ext →
        (next.rules ip).present.length = requested isSta ext
  | .down _ _ _ => True

/-- A WAN-up finds no rules of another backhaul in the way, none of its rules is refused alone, and
the flag is not set without any. The deletions of a WAN-down succeed. -/
def UplinkGuard (lan : LanUplink α) : Event α → Prop
  | .up ip isSta ext _ reply =>
      (if isSta then (lan.rules ip).present = []
        else (lan.rules ip).handles = (lan.rules ip).wanUlFlRuleHdl) ∧
      (∀ added ∈ reply.added, none ∉ added) ∧
      (Succeeds isSta reply → 0 < requested isSta ext → isSta = false →
        (lan.rules ip).modemUlSet = true → (lan.rules ip).wanUlFlRuleHdl ≠ [])
  | .down _ _ failsAt => failsAt = none

structure UplinkInv (rules : UplinkRules α) : Prop where
  nodup : rules.handles.Nodup
  nonzero : ∀ hdl ∈ rules.handles, hdl ≠ 0
  stored : rules.handles = rules.wanUlFlRuleHdl ∨
    rules.wanUlFlRuleHdl = [] ∧ rules.handles = [rules.staFlRuleHdl] ∧ rules.lastUp = some true
  modem : rules.wanUlFlRuleHdl ≠ [] → rules.lastUp = some false ∧ rules.modemUlSet = true
  within : rules.wanUlFlRuleHdl.length ≤ maxWanUlFilterRules
  down : rules.isUp = false → rules.present = []
  once : rules.installs ≤ 1
  fresh : rules.present = [] → rules.installs = 0

theorem UplinkInv.uplinkOk {rules : UplinkRules α} (inv : UplinkInv rules) : UplinkOk rules := by
  refine ⟨?_, inv.once, inv.down⟩
  rcases inv.stored with modem | ⟨none, sta, _⟩
  · exact Or.inl modem
  · exact Or.inr ⟨none, sta⟩

end LanUplink

namespace UplinkRules

variable {α : Type*}

theorem addFilteringRule_handles {added : List (Option ℕ)} {requested : List (UplinkRule α)}
    (present : List (ℕ × UplinkRule α)) (length : added.length = requested.length)
    (notRefused : none ∉ added) :
    (addFilteringRule added requested present).1 = added.reduceOption ∧
      (addFilteringRule added requested present).2.map Prod.fst =
        present.map Prod.fst ++ added.reduceOption := by
  simp only [addFilteringRule, map_append, append_cancel_left_eq]
  induction added generalizing requested with
  | nil => simp
  | cons head rest ih =>
      rcases requested with _ | ⟨rule, requested⟩
      · simp at length
      · simp only [length_cons, Nat.add_right_cancel_iff] at length
        simp only [mem_cons, not_or] at notRefused
        rcases head with _ | hdl
        · exact absurd rfl notRefused.1
        · rcases ih length notRefused.2 with ⟨first, second⟩
          simp [first, second]

theorem deleteFilteringHdls_all {present : List (ℕ × UplinkRule α)}
    (nodup : (present.map Prod.fst).Nodup) (nonzero : ∀ hdl ∈ present.map Prod.fst, hdl ≠ 0) :
    deleteFilteringHdls none (present.map Prod.fst) present = (true, []) := by
  induction present with
  | nil => rfl
  | cons head rest ih =>
      simp only [map_cons, nodup_cons] at nodup
      simp only [map_cons, forall_mem_cons] at nonzero
      have left : (head :: rest).filter (fun entry => entry.1 ≠ head.1) = rest := by
        simp only [ne_eq, decide_not, filter_cons, decide_true, Bool.not_true,
          Bool.false_eq_true, if_false]
        apply filter_eq_self.mpr
        intro entry mem
        have ne : entry.1 ≠ head.1 := by
          intro same
          exact nodup.1 (same ▸ mem_map_of_mem mem)
        simpa using ne
      rw [map_cons, deleteFilteringHdls, if_neg nonzero.1, if_neg (by simp), left]
      exact ih nodup.2 nonzero.2

theorem deleteFilteringHdls_empty (failsAt : Option ℕ) (hdls : List ℕ) :
    (deleteFilteringHdls failsAt hdls ([] : List (ℕ × UplinkRule α))).2 = [] := by
  induction hdls with
  | nil => rfl
  | cons hdl rest ih =>
      rw [deleteFilteringHdls]
      split
      · exact ih
      · simp

theorem handleUplinkFilterRule_cases (iface : UplinkIface) (rules : UplinkRules α) (ip : IpaIpType)
    (ext : IpacmExtProp α) (xlatMuxId : BitVec 8) (reply : UpReply) :
    rules.handleUplinkFilterRule iface ip ext xlatMuxId reply = rules ∧
        (ext.prop = [] ∨ reply.indexSent = false ∨ reply.added = none) ∨
      ∃ added, ext.prop ≠ [] ∧ reply.added = some added ∧
        rules.handleUplinkFilterRule iface ip ext xlatMuxId reply =
          { rules with
            wanUlFlRuleHdl := rules.wanUlFlRuleHdl ++ (addFilteringRule added
              (ext.prop.map (uplinkRule iface ip xlatMuxId)) rules.present).1
            present := (addFilteringRule added
              (ext.prop.map (uplinkRule iface ip xlatMuxId)) rules.present).2
            installs := rules.installs + 1 } := by
  have within : ¬ ext.prop.length > maxWanUlFilterRules := Nat.not_lt.mpr ext.within
  unfold handleUplinkFilterRule
  by_cases none : ext.prop = []
  · simp [none]
  · rw [if_neg none, if_neg within]
    cases sent : reply.indexSent with
    | false => simp
    | true =>
        cases isAdded : reply.added with
        | none => simp
        | some added => exact Or.inr ⟨added, none, rfl, by simp⟩

theorem handleWanUp_cases (iface : UplinkIface) (rules : UplinkRules α) (ip : IpaIpType)
    (reply : UpReply) :
    rules.handleWanUp iface ip reply = rules ∧
        (reply.routingTable = false ∨ reply.added = none) ∨
      ∃ added action, reply.added = some added ∧ rules.handleWanUp iface ip reply =
        { rules with
          staFlRuleHdl := (addFilteringRule added [.sta action] rules.present).1.headD 0
          present := (addFilteringRule added [.sta action] rules.present).2
          installs := rules.installs + 1 } := by
  unfold handleWanUp
  cases found : reply.routingTable with
  | false => simp
  | true =>
      cases isAdded : reply.added with
      | none => simp
      | some added => exact Or.inr ⟨added, _, rfl, rfl⟩

end UplinkRules

namespace LanUplink

variable {α : Type*} {rules : UplinkRules α}

open UplinkRules

theorem handles_eq_nil : rules.handles = [] ↔ rules.present = [] := by
  simp [UplinkRules.handles]

section

variable (inv : UplinkInv rules)

include inv

theorem UplinkInv.stored_nil (none : rules.present = []) :
    rules.wanUlFlRuleHdl = [] := by
  rcases inv.stored with same | ⟨isNil, _⟩
  · rw [← same, handles_eq_nil, none]
  · exact isNil

theorem UplinkInv.stay (isSta : Bool) (modemUlSet : Bool)
    (kept : rules.modemUlSet = true → modemUlSet = true)
    (guarded : if isSta then rules.present = [] else rules.handles = rules.wanUlFlRuleHdl) :
    UplinkInv { rules with modemUlSet, lastUp := some isSta, isUp := true } := by
  cases isSta with
  | true =>
      simp only [if_true] at guarded
      have isNil := inv.stored_nil guarded
      refine ⟨inv.nodup, inv.nonzero, Or.inl ?_, ?_, inv.within, by simp, inv.once, inv.fresh⟩
      · exact (handles_eq_nil.mpr guarded).trans isNil.symm
      · exact fun some => absurd isNil some
  | false =>
      simp only [Bool.false_eq_true, if_false] at guarded
      refine ⟨inv.nodup, inv.nonzero, Or.inl guarded, ?_, inv.within, by simp, inv.once, inv.fresh⟩
      exact fun some => ⟨rfl, kept (inv.modem some).2⟩

variable {added : List (Option ℕ)}

theorem UplinkInv.installModem
    {requests : List (UplinkRule α)} (isEmpty : rules.present = []) (asked : requests ≠ [])
    (within : requests.length ≤ maxWanUlFilterRules) (length : added.length = requests.length)
    (notRefused : none ∉ added) (nodup : added.reduceOption.Nodup)
    (nonzero : ∀ hdl ∈ added.reduceOption, hdl ≠ 0) :
    UplinkInv { rules with
      modemUlSet := true
      wanUlFlRuleHdl := rules.wanUlFlRuleHdl ++ (addFilteringRule added requests rules.present).1
      present := (addFilteringRule added requests rules.present).2
      installs := rules.installs + 1
      lastUp := some false
      isUp := true } ∧
      (addFilteringRule added requests rules.present).2.length = requests.length := by
  rcases addFilteringRule_handles rules.present length notRefused with ⟨hdls, handles⟩
  have isNil := inv.stored_nil isEmpty
  have reduced : added.reduceOption.length = requests.length := by
    rw [← length]
    apply reduceOption_length_eq_iff.mpr
    intro hdl mem
    cases hdl with
    | none => exact absurd mem notRefused
    | some hdl => rfl
  have present : (addFilteringRule added requests rules.present).2.length = requests.length := by
    rw [← reduced, ← length_map Prod.fst, handles, isEmpty, map_nil, nil_append]
  rw [isEmpty, map_nil, nil_append] at handles
  refine ⟨⟨?_, ?_, ?_, ?_, ?_, by simp, ?_, ?_⟩, present⟩
  · change (map Prod.fst _).Nodup
    rw [isEmpty, handles]
    exact nodup
  · change ∀ hdl ∈ map Prod.fst _, hdl ≠ 0
    rw [isEmpty, handles]
    exact nonzero
  · left
    change map Prod.fst _ = _
    rw [isEmpty] at hdls ⊢
    rw [handles, isNil, hdls, nil_append]
  · exact fun _ => ⟨rfl, rfl⟩
  · change (rules.wanUlFlRuleHdl ++ _).length ≤ _
    rw [hdls, isNil, nil_append, reduced]
    exact within
  · change rules.installs + 1 ≤ 1
    rw [inv.fresh isEmpty]
  · intro none
    change (addFilteringRule added requests rules.present).2 = [] at none
    rw [none, length_nil] at present
    exact absurd (length_eq_zero_iff.mp present.symm) asked

theorem UplinkInv.installSta
    (action : FltAction) (isEmpty : rules.present = []) (length : added.length = 1)
    (notRefused : none ∉ added) (nonzero : ∀ hdl ∈ added.reduceOption, hdl ≠ 0) :
    UplinkInv { rules with
      staFlRuleHdl := (addFilteringRule added [.sta action] rules.present).1.headD 0
      present := (addFilteringRule added [.sta action] rules.present).2
      installs := rules.installs + 1
      lastUp := some true
      isUp := true } ∧
      (addFilteringRule added [.sta action] rules.present).2.length = 1 := by
  have isNil := inv.stored_nil isEmpty
  rcases length_eq_one_iff.mp length with ⟨hdl, rfl⟩
  cases hdl with
  | none => simp at notRefused
  | some hdl =>
      have requested : addFilteringRule [some hdl] [.sta action] rules.present =
          ([hdl], [(hdl, .sta action)]) := by
        simp [addFilteringRule, isEmpty]
      rw [requested]
      refine ⟨⟨?_, ?_, Or.inr ⟨isNil, rfl, rfl⟩, ?_, inv.within, by simp, ?_, by simp⟩, rfl⟩
      · simp [UplinkRules.handles]
      · intro other mem
        rw [UplinkRules.handles, map_singleton, mem_singleton] at mem
        rw [mem]
        exact nonzero hdl (by simp)
      · exact fun some => absurd isNil some
      · change rules.installs + 1 ≤ 1
        rw [inv.fresh isEmpty]

end

variable {lan : LanUplink α} {isSta : Bool}

theorem UplinkInv.wanUp {ip : IpaIpType} (inv : UplinkInv (lan.rules ip))
     {ext : IpacmExtProp α} {xlatMuxId : BitVec 8} {reply : UpReply}
    (oneAddr : lan.iface.numDftRtV6 = 1) (valid : lan.ValidReply ip isSta ext reply)
    (guarded : lan.UplinkGuard (.up ip isSta ext xlatMuxId reply)) :
    UplinkInv ((lan.rules ip).wanUp lan.iface ip isSta ext xlatMuxId reply) ∧
      ((lan.rules ip).present = [] → Succeeds isSta reply → 0 < requested isSta ext →
        ((lan.rules ip).wanUp lan.iface ip isSta ext xlatMuxId reply).present.length =
          requested isSta ext) := by
  rcases guarded with ⟨alone, notRefused, notStuck⟩
  cases isSta with
  | true =>
      simp only [if_true] at alone
      simp only [UplinkRules.wanUp, if_true]
      rcases handleWanUp_cases lan.iface (lan.rules ip) ip reply with
        ⟨unchanged, why⟩ | ⟨added, action, isAdded, changed⟩
      · rw [unchanged]
        refine ⟨inv.stay true (lan.rules ip).modemUlSet id alone, ?_⟩
        intro _ succeeds _
        rcases succeeds.added with ⟨added, isAdded, _⟩
        simp [succeeds.routingTable rfl, isAdded] at why
      · rw [changed]
        rcases valid added (by simp [isAdded]) with ⟨length, nodup, fresh⟩
        have installed := inv.installSta action alone length
          (notRefused added (by simp [isAdded])) (fun hdl mem => (fresh hdl mem).1)
        exact ⟨installed.1, fun _ _ _ => installed.2⟩
  | false =>
      simp only [Bool.false_eq_true, if_false] at alone
      simp only [UplinkRules.wanUp, Bool.false_eq_true, if_false]
      unfold handleWanUpEx
      cases written : reply.qmapIdWritten with
      | false =>
          rw [if_pos rfl]
          refine ⟨inv.stay false (lan.rules ip).modemUlSet id (by simpa using alone), ?_⟩
          intro _ succeeds _
          cases written.symm.trans (succeeds.qmapIdWritten rfl)
      | true =>
          rw [if_neg (by simp)]
          cases isSet : (lan.rules ip).modemUlSet with
          | true =>
              rw [if_neg (by simp)]
              refine ⟨inv.stay false (lan.rules ip).modemUlSet id (by simpa using alone), ?_⟩
              intro isEmpty succeeds asked
              exact absurd (inv.stored_nil isEmpty) (notStuck succeeds asked rfl isSet)
          | false =>
              have isNil : (lan.rules ip).wanUlFlRuleHdl = [] := by
                by_contra stored
                cases isSet.symm.trans (inv.modem stored).2
              have isEmpty : (lan.rules ip).present = [] := by
                rw [← handles_eq_nil, alone, isNil]
              rw [if_pos ⟨Or.inr oneAddr, rfl⟩]
              rcases handleUplinkFilterRule_cases lan.iface (lan.rules ip) ip ext xlatMuxId reply
                with ⟨unchanged, why⟩ | ⟨added, asked, isAdded, changed⟩
              · rw [unchanged]
                refine ⟨inv.stay false true (fun _ => rfl) (by simpa using alone), ?_⟩
                intro _ succeeds asked
                rcases succeeds.added with ⟨added, isAdded, _⟩
                have some : ext.prop ≠ [] := ne_nil_of_length_pos asked
                simp [succeeds.indexSent rfl, isAdded, some] at why
              · rw [changed]
                rcases valid added (by simp [isAdded]) with ⟨length, nodup, fresh⟩
                have someAsked : ext.prop.map (uplinkRule lan.iface ip xlatMuxId) ≠ [] :=
                  map_eq_nil_iff.not.mpr asked
                have within : (ext.prop.map (uplinkRule lan.iface ip xlatMuxId)).length ≤
                    maxWanUlFilterRules := (length_map _).trans_le ext.within
                have installed := inv.installModem isEmpty someAsked within
                  (by simpa [requested] using length)
                  (notRefused added (by simp [isAdded])) nodup (fun hdl mem => (fresh hdl mem).1)
                exact ⟨installed.1, fun _ _ _ => by simpa [requested] using installed.2⟩

theorem UplinkInv.deleteUplink (inv : UplinkInv rules)
    (same : rules.handles = rules.wanUlFlRuleHdl) :
    rules.deleteUplink none =
      { rules with present := [], wanUlFlRuleHdl := [], modemUlSet := false } := by
  have deleted : deleteFilteringHdls none rules.wanUlFlRuleHdl rules.present = (true, []) := by
    rw [← same]
    exact deleteFilteringHdls_all inv.nodup inv.nonzero
  unfold UplinkRules.deleteUplink
  rw [if_neg (Nat.not_lt.mpr inv.within), deleted]
  simp

theorem UplinkInv.deleteSta (inv : UplinkInv rules) (none : rules.wanUlFlRuleHdl = []) :
    rules.deleteSta Option.none = { rules with present := [] } := by
  unfold UplinkRules.deleteSta
  rcases inv.stored with same | ⟨_, same, _⟩
  · rw [none, handles_eq_nil] at same
    rw [same, deleteFilteringHdls_empty]
  · have deleted := deleteFilteringHdls_all inv.nodup inv.nonzero
    rw [UplinkRules.handles] at same
    rw [same] at deleted
    rw [deleted]

theorem UplinkInv.wanDown (inv : UplinkInv rules) (ip : IpaIpType)
    (isLast : rules.lastUp = some isSta) : UplinkInv (rules.wanDown ip isSta none) := by
  cases isSta with
  | true =>
      have isNil : rules.wanUlFlRuleHdl = [] := by
        by_contra stored
        cases isLast.symm.trans (inv.modem stored).1
      have deleted : rules.wanDown ip true none =
          { rules with present := [], isUp := false, installs := 0 } := by
        cases ip <;> simp [UplinkRules.wanDown, handleWanDown, handleWanDownV6, inv.deleteSta isNil]
      rw [deleted]
      refine ⟨by simp [UplinkRules.handles], by simp [UplinkRules.handles], Or.inl ?_, ?_,
        inv.within, fun _ => rfl, by simp, fun _ => rfl⟩
      · exact isNil.symm
      · exact fun some => absurd isNil some
  | false =>
      have same : rules.handles = rules.wanUlFlRuleHdl := by
        rcases inv.stored with same | ⟨_, _, isSta⟩
        · exact same
        · cases isLast.symm.trans isSta
      have deleted : ∃ modemUlSet, rules.wanDown ip false none =
          { rules with
            present := [], wanUlFlRuleHdl := [], modemUlSet, isUp := false, installs := 0 } := by
        cases ip with
        | v4 =>
            refine ⟨false, ?_⟩
            simp [UplinkRules.wanDown, handleWanDown, inv.deleteUplink same]
        | v6 =>
            by_cases isNil : rules.wanUlFlRuleHdl = []
            · have isEmpty : rules.present = [] := by rw [← handles_eq_nil, same, isNil]
              refine ⟨rules.modemUlSet, ?_⟩
              simp [UplinkRules.wanDown, handleWanDownV6, isNil, ← isEmpty]
            · refine ⟨false, ?_⟩
              have notOver : ¬ rules.wanUlFlRuleHdl.length > maxWanUlFilterRules :=
                Nat.not_lt.mpr inv.within
              simp [UplinkRules.wanDown, handleWanDownV6, isNil, notOver, inv.deleteUplink same]
      rcases deleted with ⟨modemUlSet, deleted⟩
      rw [deleted]
      refine ⟨by simp [UplinkRules.handles], by simp [UplinkRules.handles], Or.inl rfl, by simp,
        by simp, fun _ => rfl, by simp, fun _ => rfl⟩

structure LanInv (lan : LanUplink α) : Prop where
  oneAddr : lan.iface.numDftRtV6 = 1
  rules : ∀ ip, UplinkInv (lan.rules ip)

theorem LanInv.init (isInit : IsInit lan) : LanInv lan := by
  rcases isInit with ⟨oneAddr, isInit⟩
  refine ⟨oneAddr, fun ip => ?_⟩
  rw [isInit]
  constructor <;> simp [UplinkRules.init, UplinkRules.handles]

theorem LanInv.update (inv : LanInv lan) (ip : IpaIpType) (kept : UplinkInv rules) :
    LanInv { lan with rules := Function.update lan.rules ip rules } := by
  refine ⟨inv.oneAddr, fun other => ?_⟩
  by_cases isIp : other = ip
  · rw [isIp]
    simpa using kept
  · simpa only [Function.update_of_ne isIp] using inv.rules other

theorem LanInv.step {lan next : LanUplink α} {event : Event α} (inv : LanInv lan)
    (guarded : lan.UplinkGuard event) (stepped : lan.Step event next) :
    LanInv next ∧ lan.UpInstalls event next := by
  cases event with
  | up ip isSta ext xlatMuxId reply =>
      rcases stepped with ⟨valid, rfl⟩
      rcases (inv.rules ip).wanUp inv.oneAddr valid guarded with ⟨kept, installs⟩
      refine ⟨inv.update ip kept, ?_⟩
      simpa [UpInstalls] using installs
  | down ip isSta failsAt =>
      rcases stepped with ⟨isLast, rfl⟩
      cases guarded
      exact ⟨inv.update ip ((inv.rules ip).wanDown ip isLast), trivial⟩

/-- As long as the rules of a backhaul do not meet those of another or a stale flag, the kernel has
the rules that are stored, installed once for an up and gone after a down. -/
theorem reachable_uplinkOk {lan : LanUplink α}
    (reached : Run.Reachable IsInit (Run.Guarded UplinkGuard Step) lan) :
    (∀ ip, UplinkOk (lan.rules ip)) ∧
      ∀ event next, Run.Guarded UplinkGuard Step lan event next → lan.UpInstalls event next := by
  have inv : LanInv lan := by
    apply reached.invariant LanInv
    · exact fun _ isInit => .init isInit
    · exact fun _ _ _ inv ⟨guarded, stepped⟩ => (inv.step guarded stepped).1
  exact ⟨fun ip => (inv.rules ip).uplinkOk,
    fun _ _ ⟨guarded, stepped⟩ => (inv.step guarded stepped).2⟩

section Histories

def noProps : IpacmExtProp Unit := ⟨[], by decide⟩

def oneProp : IpacmExtProp Unit := ⟨[⟨⟨none, ()⟩, 0, false, 1, 1, true⟩], by decide⟩

def granted (hdl : ℕ) : UpReply := ⟨true, true, true, some [some hdl]⟩

def nothingAsked : UpReply := ⟨true, true, true, none⟩

def lanStart : LanUplink Unit := ⟨⟨false, false, 1⟩, fun _ => .init⟩

theorem lanStart_isInit : IsInit lanStart := ⟨rfl, rfl⟩

def after (lan : LanUplink Unit) : Event Unit → LanUplink Unit
  | .up ip isSta ext xlatMuxId reply =>
      { lan with
        rules := Function.update lan.rules ip
          ((lan.rules ip).wanUp lan.iface ip isSta ext xlatMuxId reply) }
  | .down ip isSta failsAt =>
      { lan with rules := Function.update lan.rules ip ((lan.rules ip).wanDown ip isSta failsAt) }

instance (lan : LanUplink Unit) (ip : IpaIpType) (isSta : Bool) (ext : IpacmExtProp Unit)
    (reply : UpReply) : Decidable (lan.ValidReply ip isSta ext reply) :=
  inferInstanceAs (Decidable (∀ added ∈ reply.added, _ ∧ _ ∧ _))

theorem reachable_uplinkOk_modem :
    (∀ ip, UplinkOk ((after (after lanStart (.up .v6 false oneProp 0 (granted 7)))
      (.down .v6 false none)).rules ip)) ∧
      ((after (after (after lanStart (.up .v6 false oneProp 0 (granted 7)))
        (.down .v6 false none)) (.up .v6 false oneProp 0 (granted 8))).rules .v6).present.length =
          1 := by
  have guardedUp (lan : LanUplink Unit) (hdl : ℕ) (fresh : (lan.rules .v6).handles = [])
      (none : (lan.rules .v6).wanUlFlRuleHdl = []) (notSet : (lan.rules .v6).modemUlSet = false) :
      lan.UplinkGuard (.up .v6 false oneProp 0 (granted hdl)) := by
    refine ⟨by simp [fresh, none], ?_, ?_⟩
    · rintro _ ⟨⟩
      simp
    · intro _ _ _ isSet
      cases notSet.symm.trans isSet
  have first : Run.Reachable IsInit (Run.Guarded UplinkGuard Step)
      (after lanStart (.up .v6 false oneProp 0 (granted 7))) :=
    .next (.up .v6 false oneProp 0 (granted 7)) (.start lanStart_isInit)
      ⟨guardedUp lanStart 7 rfl rfl rfl, by decide +kernel, rfl⟩
  have second : Run.Reachable IsInit (Run.Guarded UplinkGuard Step)
      (after (after lanStart (.up .v6 false oneProp 0 (granted 7))) (.down .v6 false none)) :=
    .next (.down .v6 false none) first ⟨rfl, rfl, rfl⟩
  rcases reachable_uplinkOk second with ⟨ok, installs⟩
  refine ⟨ok, ?_⟩
  have again := installs (.up .v6 false oneProp 0 (granted 8)) _
    ⟨guardedUp _ 8 rfl rfl rfl, by decide +kernel, rfl⟩
  refine again rfl ⟨fun _ => rfl, fun _ => rfl, fun _ => rfl, _, rfl, by decide⟩ (by decide)

/-- An IPv6 up without extended properties leaves the flag set, a second up in STA mode forgets the
first rule, and a deletion that fails leaves the rules in place. -/
theorem reachable_not_uplinkOk :
    (∃ lan : LanUplink Unit, Run.Reachable IsInit Step lan ∧ (lan.rules .v6).isUp = false ∧
        (lan.rules .v6).present = [] ∧ ∃ event next, Step lan event next ∧
          ¬ lan.UpInstalls event next) ∧
      (∃ lan : LanUplink Unit, Run.Reachable IsInit Step lan ∧ (lan.rules .v4).isUp = false ∧
        (lan.rules .v4).handles = [7]) ∧
      ∃ lan : LanUplink Unit, Run.Reachable IsInit Step lan ∧ (lan.rules .v4).isUp = false ∧
        (lan.rules .v4).handles = [7] ∧ (lan.rules .v4).wanUlFlRuleHdl = [7] := by
  refine ⟨⟨after (after lanStart (.up .v6 false noProps 0 nothingAsked)) (.down .v6 false none),
    .next (.down .v6 false none) (.next (.up .v6 false noProps 0 nothingAsked)
      (.start lanStart_isInit) ⟨by decide +kernel, rfl⟩) ⟨rfl, rfl⟩, rfl, rfl,
    .up .v6 false oneProp 0 (granted 7), after _ (.up .v6 false oneProp 0 (granted 7)),
    ⟨by decide +kernel, rfl⟩, ?_⟩,
    ⟨after (after (after lanStart (.up .v4 true noProps 0 (granted 7)))
      (.up .v4 true noProps 0 (granted 8))) (.down .v4 true none),
    .next (.down .v4 true none) (.next (.up .v4 true noProps 0 (granted 8))
      (.next (.up .v4 true noProps 0 (granted 7)) (.start lanStart_isInit)
        ⟨by decide +kernel, rfl⟩) ⟨by decide +kernel, rfl⟩) ⟨rfl, rfl⟩, rfl, rfl⟩,
    after (after lanStart (.up .v4 false oneProp 0 (granted 7))) (.down .v4 false (some 0)),
    .next (.down .v4 false (some 0)) (.next (.up .v4 false oneProp 0 (granted 7))
      (.start lanStart_isInit) ⟨by decide +kernel, rfl⟩) ⟨rfl, rfl⟩, rfl, rfl, rfl⟩
  intro installs
  have length := installs rfl ⟨fun _ => rfl, fun _ => rfl, fun _ => rfl, _, rfl, by decide⟩
    (by decide)
  revert length
  decide +kernel

end Histories

end LanUplink

end HtcPme.Ipacm
