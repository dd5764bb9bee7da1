import HtcPme.Foundation.SlotCount
import HtcPme.Ipacm.EthFltRule
import HtcPme.Ipacm.LanFilter

/-!
# The slots of LAN-to-LAN rules and headers

For each IP type an interface has a few slots for filtering rules, which are written over dummy
rules, and as many for headers.
-/

namespace HtcPme.Ipacm

structure HdrHdl where
  hdrHdl : ℕ
  valid : Bool

inductive Lan2lanAddrs where
  | v4 (srcAddr dstAddr : BitVec 32)
  | v6 (srcAddr dstAddr : BitVec 128)

structure Lan2lanFltRule where
  rtTblHdl : ℕ
  attrib : RxAttrib
  addrs : Lan2lanAddrs

/-- `ipa_ioc_copy_hdr`: a partial header with its Ethernet II offset, if that is valid. -/
structure CopyHdr where
  hdr : List (BitVec 8)
  eth2Ofst : Option ℕ

structure Lan2lanHdr (μ : Type*) where
  ip : IpaIpType
  index : Fin maxOffloadPair
  copied : CopyHdr
  macs : Option (μ × μ)

structure Lan2lanTxProp where
  ip : IpaIpType
  hdrName : String

/-- `IPA_RESOURCE_NAME_MAX` and `IPA_HDR_MAX_SIZE` of the driver. -/
structure HdrLimits where
  ipaResourceNameMax : ℕ
  ipaHdrMaxSize : ℕ
  namePos : 0 < ipaResourceNameMax

/-- What `add_lan2lan_flt_rule` is called with, and the outcomes of `malloc`, `GetRoutingTable` and
`ModifyFilteringRule`. -/
structure Lan2lanFltEnv where
  rxProp : Option RxAttrib
  srcV4Addr : BitVec 32
  dstV4Addr : BitVec 32
  srcV6Addr : Option (BitVec 128)
  dstV6Addr : Option (BitVec 128)
  hasRuleHdl : Bool
  allocated : Bool
  rtTblHdl : Option ℕ
  modified : Bool

/-- What `add_lan2lan_hdr` is called with and finds: the addresses, whether there is a place for the
handle, and the outcomes of `malloc`, `CopyHeader` and `AddHeader`. -/
structure Lan2lanHdrEnv (μ : Type*) where
  txProp : Option (List Lan2lanTxProp)
  srcMac : Option μ
  dstMac : Option μ
  hasHdrHdl : Bool
  allocated : Bool
  copyHeader : String → Option CopyHdr
  addHeader : Option ℕ

/-- The slots and counters of an interface, the rules in the place of its dummy rules, and the
headers that it added. -/
structure Lan2lan (μ : Type*) where
  fltRuleHdl : IpaIpType → Fin maxOffloadPair → FltRuleHdl
  numFltRule : IpaIpType → BitVec 8
  hdrHdl : IpaIpType → Fin maxOffloadPair → HdrHdl
  rules : IpaIpType → ℕ → Option Lan2lanFltRule
  hdrs : ℕ → Option (Lan2lanHdr μ)

structure Lan2lanResult (μ : Type*) where
  ret : ℤ
  hdl : Option ℕ
  lan : Lan2lan μ

namespace Lan2lanFltEnv

def addrs (env : Lan2lanFltEnv) : IpaIpType → Option Lan2lanAddrs
  | .v4 => some (.v4 env.srcV4Addr env.dstV4Addr)
  | .v6 =>
      match env.srcV6Addr, env.dstV6Addr with
      | some srcAddr, some dstAddr => some (.v6 srcAddr dstAddr)
      | _, _ => none

end Lan2lanFltEnv

namespace Lan2lan

variable {μ : Type*}

/-- `IPA_LAN_TO_LAN_USB_HDR_NAME_V4` and `IPA_LAN_TO_LAN_USB_HDR_NAME_V6` -/
def usbHdrName : IpaIpType → String
  | .v4 => "Lan2Lan_USB_v4"
  | .v6 => "Lan2Lan_USB_v6"

/-- What `strlcat` returns for the name with the index. -/
def hdrNameLength (limits : HdrLimits) (ip : IpaIpType) (index : Fin maxOffloadPair) : ℕ :=
  min (usbHdrName ip).length (limits.ipaResourceNameMax - 1) + (toString index.val).length

def setFltValid (lan : Lan2lan μ) (ip : IpaIpType) (slot : Fin maxOffloadPair) (valid : Bool) :
    Lan2lan μ :=
  { lan with
    fltRuleHdl := Function.update lan.fltRuleHdl ip
      (Function.update (lan.fltRuleHdl ip) slot { lan.fltRuleHdl ip slot with valid }) }

def setNumFltRule (lan : Lan2lan μ) (ip : IpaIpType) (num : BitVec 8) : Lan2lan μ :=
  { lan with numFltRule := Function.update lan.numFltRule ip num }

def setRule (lan : Lan2lan μ) (ip : IpaIpType) (ruleHdl : ℕ) (rule : Option Lan2lanFltRule) :
    Lan2lan μ :=
  { lan with
    rules := Function.update lan.rules ip (Function.update (lan.rules ip) ruleHdl rule) }

def setHdrHdl (lan : Lan2lan μ) (ip : IpaIpType) (slot : Fin maxOffloadPair) (hdrHdl : HdrHdl) :
    Lan2lan μ :=
  { lan with
    hdrHdl := Function.update lan.hdrHdl ip (Function.update (lan.hdrHdl ip) slot hdrHdl) }

def setHdr (lan : Lan2lan μ) (hdl : ℕ) (hdr : Option (Lan2lanHdr μ)) : Lan2lan μ :=
  { lan with hdrs := Function.update lan.hdrs hdl hdr }

def freeFltSlot (lan : Lan2lan μ) (ip : IpaIpType) : Option (Fin maxOffloadPair) :=
  Fin.find? fun slot => (lan.fltRuleHdl ip slot).valid = false

def fltSlotOf (lan : Lan2lan μ) (ip : IpaIpType) (ruleHdl : ℕ) : Option (Fin maxOffloadPair) :=
  Fin.find? fun slot => (lan.fltRuleHdl ip slot).ruleHdl = ruleHdl

def freeHdrSlot (lan : Lan2lan μ) (ip : IpaIpType) : Option (Fin maxOffloadPair) :=
  Fin.find? fun slot => (lan.hdrHdl ip slot).valid = false

def hdrSlotOf (lan : Lan2lan μ) (ip : IpaIpType) (hdrHdl : ℕ) : Option (Fin maxOffloadPair) :=
  Fin.find? fun slot => (lan.hdrHdl ip slot).hdrHdl = hdrHdl

def failure (lan : Lan2lan μ) : Lan2lanResult μ := ⟨ipacmFailure, none, lan⟩

def addLan2lanFltRule (lan : Lan2lan μ) (env : Lan2lanFltEnv) (iptype : Option IpaIpType) :
    Lan2lanResult μ :=
  match env.rxProp with
  | none => lan.failure
  | some attrib =>
      if env.hasRuleHdl ∧ env.allocated then
        match iptype with
        | none => lan.failure
        | some ip =>
            if maxOffloadPair ≤ (lan.numFltRule ip).toNat then lan.failure
            else
              match env.addrs ip, env.rtTblHdl, lan.freeFltSlot ip with
              | some addrs, some rtTblHdl, some slot =>
                  if env.modified then
                    let ruleHdl := (lan.fltRuleHdl ip slot).ruleHdl
                    ⟨ipacmSuccess, some ruleHdl,
                      ((lan.setRule ip ruleHdl (some ⟨rtTblHdl, attrib, addrs⟩)).setFltValid ip slot
                        true).setNumFltRule ip (lan.numFltRule ip + 1)⟩
                  else lan.failure
              | _, _, _ => lan.failure
      else lan.failure

/-- `IPACM_Lan::del_lan2lan_flt_rule`, where the outcome of `reset_to_dummy_flt_rule` is given. -/
def delLan2lanFltRule (lan : Lan2lan μ) (reset : Bool) (iptype : Option IpaIpType)
    (ruleHdl : ℕ) : Lan2lanResult μ :=
  match iptype with
  | none => lan.failure
  | some ip =>
      match lan.fltSlotOf ip ruleHdl with
      | none => lan.failure
      | some slot =>
          if reset then
            ⟨ipacmSuccess, none,
              ((lan.setRule ip ruleHdl none).setFltValid ip slot false).setNumFltRule ip
                (lan.numFltRule ip - 1)⟩
          else lan.failure

/-- `IPACM_Lan::add_lan2lan_hdr`. The slot is valid before the request is made. -/
def addLan2lanHdr (limits : HdrLimits) (lan : Lan2lan μ) (env : Lan2lanHdrEnv μ)
    (iptype : Option IpaIpType) : Lan2lanResult μ :=
  match env.txProp, env.srcMac, env.dstMac with
  | some txProp, some srcMac, some dstMac =>
      if env.hasHdrHdl ∧ env.allocated then
        match iptype with
        | none => ⟨ipacmSuccess, none, lan⟩
        | some ip =>
            match txProp.find? (·.ip = ip) with
            | none => ⟨ipacmSuccess, none, lan⟩
            | some prop =>
                match env.copyHeader prop.hdrName with
                | none => lan.failure
                | some copied =>
                    if limits.ipaHdrMaxSize < copied.hdr.length then lan.failure
                    else
                      match lan.freeHdrSlot ip with
                      | none => lan.failure
                      | some slot =>
                          let lan := lan.setHdrHdl ip slot { lan.hdrHdl ip slot with valid := true }
                          if limits.ipaResourceNameMax < hdrNameLength limits ip slot then
                            lan.failure
                          else
                            match env.addHeader with
                            | none => lan.failure
                            | some hdl =>
                                let macs := copied.eth2Ofst.map fun _ => (dstMac, srcMac)
                                ⟨ipacmSuccess, some hdl,
                                  (lan.setHdr hdl (some ⟨ip, slot, copied, macs⟩)).setHdrHdl ip slot
                                    ⟨hdl, true⟩⟩
      else lan.failure
  | _, _, _ => lan.failure

/-- `IPACM_Lan::del_lan2lan_hdr`, where the outcome of `DeleteHeaderHdl` is given. -/
def delLan2lanHdr (lan : Lan2lan μ) (deleted : Bool) (iptype : Option IpaIpType)
    (hdrHdl : ℕ) : Lan2lanResult μ :=
  if deleted then
    let lan := lan.setHdr hdrHdl none
    match iptype with
    | none => lan.failure
    | some ip =>
        match lan.hdrSlotOf ip hdrHdl with
        | none => lan.failure
        | some slot =>
            ⟨ipacmSuccess, none,
              lan.setHdrHdl ip slot { lan.hdrHdl ip slot with valid := false }⟩
  else lan.failure

end Lan2lan

end HtcPme.Ipacm
