import HtcPme.Foundation.Run
import HtcPme.Ipacm.WlanClient
import Mathlib.Data.BitVec

/-!
# Uplink filter rules of a LAN interface

The rules that a LAN interface has installed for the backhaul: one for each extended property of a
modem, and one rule for any other backhaul.
-/

namespace HtcPme.Ipacm

structure MetadataEq where
  offset : ℕ
  value : BitVec 32
  mask : BitVec 32
deriving DecidableEq

/-- `ipa_rule_attrib_eq`; `rest` stands for what nothing here changes. -/
structure EqAttrib (α : Type*) where
  metadataMeq32 : Option MetadataEq
  rest : α
deriving DecidableEq

structure ExtProp (α : Type*) where
  eqAttrib : EqAttrib α
  rtTblIdx : ℕ
  isXlatRule : Bool
  muxId : BitVec 8
  ruleId : ℕ
  isRuleHashable : Bool
deriving DecidableEq

def maxNumExtProps : ℕ := 15

def maxWanUlFilterRules : ℕ := maxNumExtProps

/-- `ipacm_ext_prop`, whose table `SetExtProp` does not overrun. -/
structure IpacmExtProp (α : Type*) where
  prop : List (ExtProp α)
  within : prop.length ≤ maxNumExtProps

inductive FltAction where
  | passToRouting
  | passToSrcNat
deriving DecidableEq

/-- What is set of a rule: those of the modem have the attributes of an extended property, the one
of another backhaul matches every destination. -/
inductive UplinkRule (α : Type*) where
  | modem (action : FltAction) (eqAttrib : EqAttrib α) (rtTblIdx : ℕ) (ruleId : ℕ) (hashable : Bool)
  | sta (action : FltAction)
deriving DecidableEq

/-- The rules of one IP type. `present` is what the kernel has; `lastUp`, `isUp` and `installs` are
not in the source: the backhaul of the last WAN-up, whether no WAN-down has come since, and how
often rules were installed since the last one. -/
structure UplinkRules (α : Type*) where
  modemUlSet : Bool
  wanUlFlRuleHdl : List ℕ
  staFlRuleHdl : ℕ
  present : List (ℕ × UplinkRule α)
  lastUp : Option Bool
  isUp : Bool
  installs : ℕ

namespace UplinkRules

variable {α : Type*}

def handles (rules : UplinkRules α) : List ℕ := rules.present.map Prod.fst

/-- A rule that the kernel refuses keeps the handle `-1`. -/
def noHdl : ℕ := 0xFFFFFFFF

def init : UplinkRules α := ⟨false, [], 0, [], none, false, 0⟩

end UplinkRules

/-- What the kernel answers to a WAN-up, with the handle of each rule, or none for a rule that is
refused alone. -/
structure UpReply where
  qmapIdWritten : Bool
  routingTable : Bool
  indexSent : Bool
  added : Option (List (Option ℕ))

/-- What `handle_uplink_filter_rule` is given of the interface, besides the rules. -/
structure UplinkIface where
  isOdu : Bool
  isWanBridgeMode : Bool
  numDftRtV6 : ℕ

namespace UplinkRules

variable {α : Type*}

/-- `AddFilteringRule`: the handles that stand in the request, and what the kernel has. -/
def addFilteringRule (added : List (Option ℕ)) (requested : List (UplinkRule α))
    (present : List (ℕ × UplinkRule α)) : List ℕ × List (ℕ × UplinkRule α) :=
  (added.map (·.getD noHdl),
    present ++ (added.zip requested).filterMap fun (hdl, rule) => hdl.map (·, rule))

/-- `DeleteFilteringHdls`. The request at `failsAt` fails, and one for a handle that the kernel does
not have. -/
def deleteFilteringHdls : Option ℕ → List ℕ → List (ℕ × UplinkRule α) →
    Bool × List (ℕ × UplinkRule α)
  | _, [], present => (true, present)
  | failsAt, hdl :: rest, present =>
      if hdl = 0 then deleteFilteringHdls failsAt rest present
      else if failsAt = some 0 ∨ hdl ∉ present.map Prod.fst then (false, present)
      else
        deleteFilteringHdls (failsAt.map (· - 1)) rest (present.filter (·.1 ≠ hdl))

def xlatMetadata (xlatMuxId : BitVec 8) : MetadataEq :=
  { offset := 0
    value := (xlatMuxId.setWidth 32 &&& 0xFF) <<< 16
    mask := 0x00FF0000 }

/-- The rule that `handle_uplink_filter_rule` makes of an extended property. -/
def uplinkRule (iface : UplinkIface) (ip : IpaIpType) (xlatMuxId : BitVec 8) (prop : ExtProp α) :
    UplinkRule α :=
  .modem
    (if ip = .v4 then
      if iface.isOdu && iface.isWanBridgeMode then .passToRouting else .passToSrcNat
    else .passToRouting)
    (if ip = .v4 && prop.isXlatRule && xlatMuxId ≠ 0 then
      { prop.eqAttrib with metadataMeq32 := some (xlatMetadata xlatMuxId) }
    else prop.eqAttrib)
    prop.rtTblIdx prop.ruleId prop.isRuleHashable

variable (iface : UplinkIface) (rules : UplinkRules α)

def handleUplinkFilterRule (ip : IpaIpType) (ext : IpacmExtProp α) (xlatMuxId : BitVec 8)
    (reply : UpReply) : UplinkRules α :=
  if ext.prop = [] then rules
  else if ext.prop.length > maxWanUlFilterRules then rules
  else if reply.indexSent = false then rules
  else
    match reply.added with
    | none => rules
    | some added =>
        let (hdls, present) := addFilteringRule added
          (ext.prop.map (uplinkRule iface ip xlatMuxId)) rules.present
        { rules with
          wanUlFlRuleHdl := rules.wanUlFlRuleHdl ++ hdls
          present
          installs := rules.installs + 1 }

def handleWanUpEx (ip : IpaIpType) (ext : IpacmExtProp α) (xlatMuxId : BitVec 8) (reply : UpReply) :
    UplinkRules α :=
  if reply.qmapIdWritten = false then rules
  else if (ip = .v4 ∨ iface.numDftRtV6 = 1) ∧ rules.modemUlSet = false then
    { rules.handleUplinkFilterRule iface ip ext xlatMuxId reply with modemUlSet := true }
  else rules

def handleWanUp (ip : IpaIpType) (reply : UpReply) : UplinkRules α :=
  if reply.routingTable = false then rules
  else
    match reply.added with
    | none => rules
    | some added =>
        let action :=
          if ip = .v4 && !iface.isWanBridgeMode then FltAction.passToSrcNat else .passToRouting
        let (hdls, present) := addFilteringRule added [.sta action] rules.present
        { rules with
          staFlRuleHdl := hdls.headD 0
          present
          installs := rules.installs + 1 }

def deleteUplink (failsAt : Option ℕ) : UplinkRules α :=
  if rules.wanUlFlRuleHdl.length > maxWanUlFilterRules then rules
  else
    let (deleted, present) := deleteFilteringHdls failsAt rules.wanUlFlRuleHdl rules.present
    if deleted then { rules with present, wanUlFlRuleHdl := [], modemUlSet := false }
    else { rules with present }

def deleteSta (failsAt : Option ℕ) : UplinkRules α :=
  { rules with
    present := (deleteFilteringHdls failsAt [rules.staFlRuleHdl] rules.present).2 }

def handleWanDown (isSta : Bool) (failsAt : Option ℕ) : UplinkRules α :=
  if isSta then rules.deleteSta failsAt else rules.deleteUplink failsAt

/-- `handle_wan_down_v6`, which returns when no rule is stored. -/
def handleWanDownV6 (isSta : Bool) (failsAt : Option ℕ) : UplinkRules α :=
  if isSta then rules.deleteSta failsAt
  else if rules.wanUlFlRuleHdl.length > maxWanUlFilterRules then rules
  else if rules.wanUlFlRuleHdl = [] then rules
  else rules.deleteUplink failsAt

def wanUp (ip : IpaIpType) (isSta : Bool) (ext : IpacmExtProp α) (xlatMuxId : BitVec 8)
    (reply : UpReply) : UplinkRules α :=
  let rules :=
    if isSta then rules.handleWanUp iface ip reply
    else rules.handleWanUpEx iface ip ext xlatMuxId reply
  { rules with lastUp := some isSta, isUp := true }

def wanDown (ip : IpaIpType) (isSta : Bool) (failsAt : Option ℕ) : UplinkRules α :=
  let rules :=
    if ip = .v4 then rules.handleWanDown isSta failsAt else rules.handleWanDownV6 isSta failsAt
  { rules with isUp := false, installs := 0 }

end UplinkRules

end HtcPme.Ipacm
