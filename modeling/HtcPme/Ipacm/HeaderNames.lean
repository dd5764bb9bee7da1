import HtcPme.Foundation.Run
import HtcPme.Ipacm.ClientHeaders

/-!
# Names of headers

Two headers have the same name if and only if they are of the same kind and IP type and their
numbers have the same first digits.
-/

namespace HtcPme.Ipacm

open List

theorem length_indexOf (number : ℕ) : (indexOf number).length = 1 := by
  have isPos : 0 < (Nat.toDigits 10 number).length := Nat.length_toDigits_pos
  rw [indexOf, length_take]
  omega

namespace ClientKind

theorem length_partialHdrName (kind : ClientKind) (ip : IpaIpType) :
    (kind.partialHdrName ip).toList.length = 12 := by
  cases kind <;> cases ip <;> rfl

theorem partialHdrName_inj {kind kind' : ClientKind} {ip ip' : IpaIpType} :
    (kind.partialHdrName ip).toList = (kind'.partialHdrName ip').toList ↔
      kind = kind' ∧ ip = ip' := by
  cases kind <;> cases kind' <;> cases ip <;> cases ip' <;> decide

end ClientKind

def fullName (kind : ClientKind) (ip : IpaIpType) (ipaIfNum headerNameCount : ℕ) : List Char :=
  indexOf ipaIfNum ++ (kind.partialHdrName ip).toList ++ indexOf headerNameCount

theorem fullName_inj {kind kind' : ClientKind} {ip ip' : IpaIpType}
    {ipaIfNum ipaIfNum' count count' : ℕ} :
    fullName kind ip ipaIfNum count = fullName kind' ip' ipaIfNum' count' ↔
      (kind = kind' ∧ ip = ip') ∧ indexOf ipaIfNum = indexOf ipaIfNum' ∧
        indexOf count = indexOf count' := by
  constructor
  · intro same
    rcases append_inj' same (by simp only [length_indexOf]) with ⟨named, counts⟩
    rcases append_inj named (by simp only [length_indexOf]) with ⟨numbers, partials⟩
    exact ⟨ClientKind.partialHdrName_inj.mp partials, numbers, counts⟩
  · rintro ⟨⟨rfl, rfl⟩, numbers, counts⟩
    rw [fullName, numbers, counts]
    rfl

theorem hdrName_eq {limits : HdrLimits} (isLong : 14 < limits.ipaResourceNameMax)
    (kind : ClientKind) (ip : IpaIpType) (ipaIfNum headerNameCount : ℕ) :
    hdrName limits kind ip ipaIfNum headerNameCount =
      some (fullName kind ip ipaIfNum headerNameCount) := by
  have index : (indexOf ipaIfNum).take (limits.ipaResourceNameMax - 1) = indexOf ipaIfNum :=
    take_of_length_le (by rw [length_indexOf]; omega)
  have named : (indexOf ipaIfNum ++ (kind.partialHdrName ip).toList).length = 13 := by
    rw [length_append, length_indexOf, kind.length_partialHdrName]
  have full : (fullName kind ip ipaIfNum headerNameCount).length = 14 := by
    rw [fullName, length_append, named, length_indexOf]
  have keepsNamed : (indexOf ipaIfNum ++ (kind.partialHdrName ip).toList).take
      (limits.ipaResourceNameMax - 1) = indexOf ipaIfNum ++ (kind.partialHdrName ip).toList :=
    take_of_length_le (by omega)
  have keepsFull : (fullName kind ip ipaIfNum headerNameCount).take
      (limits.ipaResourceNameMax - 1) = fullName kind ip ipaIfNum headerNameCount :=
    take_of_length_le (by omega)
  simp only [hdrName, strlcat, index, keepsNamed]
  rw [if_neg (by rw [← length_append]; omega), if_neg (by
    rw [named, length_indexOf]
    omega)]
  exact congrArg some keepsFull

def ClientHdr.Clashes (hdr other : ClientHdr) : Prop :=
  hdr.kind = other.kind ∧ hdr.ip = other.ip ∧
    indexOf hdr.ipaIfNum = indexOf other.ipaIfNum ∧
    indexOf hdr.headerNameCount = indexOf other.headerNameCount

instance (hdr other : ClientHdr) : Decidable (hdr.Clashes other) :=
  inferInstanceAs (Decidable (_ ∧ _))

def ClientHdr.Named (hdr : ClientHdr) : Prop :=
  hdr.name = fullName hdr.kind hdr.ip hdr.ipaIfNum hdr.headerNameCount

theorem ClientHdr.Named.name_eq_iff {hdr other : ClientHdr} (isNamed : hdr.Named)
    (isOther : other.Named) : hdr.name = other.name ↔ hdr.Clashes other := by
  rw [isNamed, isOther, fullName_inj, and_assoc]
  rfl

def hdrsOf (kernel : HandleTable ClientHdr) : List ClientHdr := kernel.rules.map Prod.snd

namespace HdrIface

variable {μ : Type*} (iface : HdrIface μ) (limits : HdrLimits) (env : HdrEnv) (ip : IpaIpType)

def isAdded : Bool :=
  env.addHeader ip &&
    match env.copyHeader ip with
    | none => false
    | some hdrLen => decide (hdrLen ≤ limits.ipaHdrMaxSize)

def ownHdr : ClientHdr := iface.nextHdr ip
    (fullName iface.kind ip iface.ipaIfNum iface.headerNameCount)

def addedHdr : List ClientHdr :=
  if ip ∈ iface.tx ∧ isAdded limits env ip = true then [iface.ownHdr ip] else []

def addedHdrs : List ClientHdr :=
  iface.addedHdr limits env .v4 ++
    if .v4 ∈ iface.tx ∧ isAdded limits env .v4 = false then [] else iface.addedHdr limits env .v6

variable {iface limits env}

theorem named_of_mem_addedHdrs {hdr : ClientHdr} (isAdded : hdr ∈ iface.addedHdrs limits env) :
    hdr.Named := by
  have isOwn (ip : IpaIpType) (isIn : hdr ∈ iface.addedHdr limits env ip) : hdr.Named := by
    rw [addedHdr] at isIn
    split at isIn
    · cases mem_singleton.mp isIn
      rfl
    · cases isIn
  rcases mem_append.mp isAdded with isV4 | isV6
  · exact isOwn .v4 isV4
  · split at isV6
    · cases isV6
    · exact isOwn .v6 isV6

theorem nodup_addedHdrs : ((iface.addedHdrs limits env).map ClientHdr.name).Nodup := by
  have apart : (iface.ownHdr .v4).name ≠ (iface.ownHdr .v6).name :=
    fun same => absurd (fullName_inj.mp same).1.2 (by decide)
  simp only [addedHdrs, addedHdr]
  split <;> split <;> try split
  all_goals simp [apart]

theorem addedHdrs_eq_nil (isNone : iface.txProp = none) : iface.addedHdrs limits env = [] := by
  simp [addedHdrs, addedHdr, tx, isNone]

structure SameNumbers (iface after : HdrIface μ) : Prop where
  kind : after.kind = iface.kind
  ipaIfNum : after.ipaIfNum = iface.ipaIfNum
  txProp : after.txProp = iface.txProp
  headerNameCount : after.headerNameCount = iface.headerNameCount

variable {after : HdrIface μ}

section

variable (same : SameNumbers iface after)

include same

theorem SameNumbers.tx :
    after.tx = iface.tx := congrArg (Option.getD · []) same.txProp

theorem SameNumbers.ownHdr (ip : IpaIpType) : after.ownHdr ip = iface.ownHdr ip := by
  simp only [HdrIface.ownHdr, nextHdr, same.kind, same.ipaIfNum, same.headerNameCount]

theorem SameNumbers.addedHdr
    (ip : IpaIpType) : after.addedHdr limits env ip = iface.addedHdr limits env ip :=
  if_congr (by rw [same.tx]) (by rw [same.ownHdr]) rfl

theorem SameNumbers.addedHdrs :
    after.addedHdrs limits env = iface.addedHdrs limits env :=
  congrArg₂ (· ++ ·) (same.addedHdr .v4) (if_congr (by rw [same.tx]) rfl (same.addedHdr .v6))

end

theorem sameNumbers_setClient (iface : HdrIface μ) (idx : ℕ)
    (set : HdrClient μ → HdrClient μ) : SameNumbers iface (iface.setClient idx set) :=
    ⟨rfl, rfl, rfl, rfl⟩

theorem hdrsOf_addOne (kernel : HandleTable ClientHdr) (source : HandleSource) (hdr : ClientHdr) :
    hdrsOf (kernel.addOne source hdr) = hdrsOf kernel ++ [hdr] := by
  simp [hdrsOf, HandleTable.addOne]

variable (iface env) in
theorem addClientHdr_spec (isLong : 14 < limits.ipaResourceNameMax)
    (kernel : HandleTable ClientHdr) (setMac : μ → μ) :
    let after := iface.addClientHdr limits env ip kernel setMac
    (after.1 = false ↔ ip ∈ iface.tx ∧ isAdded limits env ip = false) ∧
      SameNumbers iface after.2.1 ∧
      hdrsOf after.2.2 = hdrsOf kernel ++ iface.addedHdr limits env ip := by
  intro after
  by_cases isTx : ip ∈ iface.tx
  · cases copied : env.copyHeader ip with
    | none =>
        have isAfter : after = (false, iface, kernel) := by
          simp only [after, addClientHdr, if_pos isTx, copied]
        simp [isAfter, isTx, isAdded, copied, addedHdr, SameNumbers.mk]
    | some hdrLen =>
        by_cases isOver : limits.ipaHdrMaxSize < hdrLen
        · have isAfter : after = (false, iface, kernel) := by
            simp only [after, addClientHdr, if_pos isTx, copied, if_pos isOver]
          simp [isAfter, isTx, isAdded, copied, addedHdr, isOver, SameNumbers.mk]
        · have fits : hdrLen ≤ limits.ipaHdrMaxSize := by omega
          cases added : env.addHeader ip with
          | false =>
              have isAfter : after = (false, iface.setClient iface.numClient fun client =>
                  { client with mac := setMac client.mac }, kernel) := by
                simp [after, addClientHdr, isTx, copied, isOver, hdrName_eq isLong, added]
              rw [isAfter]
              exact ⟨by simp [isTx, isAdded, added],
                iface.sameNumbers_setClient iface.numClient fun client =>
                  { client with mac := setMac client.mac },
                by simp [isAdded, added, addedHdr]⟩
          | true =>
              have isAfter : after.1 = true ∧ SameNumbers iface after.2.1 ∧
                  after.2.2 = kernel.addOne env.source (iface.ownHdr ip) := by
                simp [after, addClientHdr, isTx, copied, isOver, hdrName_eq isLong, added, ownHdr,
                  nextHdr, setClient, SameNumbers.mk]
              refine ⟨?_, isAfter.2.1, ?_⟩
              · simp [isAfter.1, isAdded, added, copied, fits]
              · rw [isAfter.2.2, hdrsOf_addOne]
                simp [addedHdr, isTx, isAdded, added, copied, fits]
  · have isAfter : after = (true, iface, kernel) := by
      simp only [after, addClientHdr, if_neg isTx]
    simp [isAfter, isTx, addedHdr, SameNumbers.mk]

variable (iface env) in
theorem hdrsOf_addClientHdrs (isLong : 14 < limits.ipaResourceNameMax)
    (kernel : HandleTable ClientHdr) (setMac : μ → μ) :
    hdrsOf (iface.addClientHdrs limits env kernel setMac).2.2 =
      hdrsOf kernel ++ iface.addedHdrs limits env := by
  have v4 := addClientHdr_spec iface env .v4 isLong kernel setMac
  rcases isAfterV4 : iface.addClientHdr limits env .v4 kernel setMac with ⟨isV4, afterV4, kernelV4⟩
  simp only [isAfterV4] at v4
  rcases v4 with ⟨failsV4, sameV4, hdrsV4⟩
  have v6 := addClientHdr_spec afterV4 env .v6 isLong kernelV4 setMac
  rcases isAfterV6 : afterV4.addClientHdr limits env .v6 kernelV4 setMac with
    ⟨isV6, afterV6, kernelV6⟩
  simp only [isAfterV6] at v6
  rcases v6 with ⟨-, -, hdrsV6⟩
  cases isV4 with
  | false =>
      have isAfter : (iface.addClientHdrs limits env kernel setMac).2.2 = kernelV4 := by
        simp [addClientHdrs, isAfterV4]
      rw [isAfter, hdrsV4, addedHdrs, if_pos (failsV4.mp rfl), append_nil]
  | true =>
      have isAfter : (iface.addClientHdrs limits env kernel setMac).2.2 = kernelV6 := by
        cases isV6 <;> simp [addClientHdrs, isAfterV4, isAfterV6]
      rw [isAfter, hdrsV6, hdrsV4, sameV4.addedHdr, addedHdrs,
        if_neg fun fails => absurd (failsV4.mpr fails) (by decide), append_assoc]

theorem hdrsOf_delete (kernel : HandleTable ClientHdr) (hdl : ℕ) :
    (hdrsOf (kernel.delete hdl)).Sublist (hdrsOf kernel) :=
  filter_sublist.map _

theorem hdrsOf_deleteClientHdr (iface : HdrIface μ) (ip : IpaIpType)
    (kernel : HandleTable ClientHdr) (down : HdrDownEnv) (idx : ℕ) :
    (hdrsOf (iface.deleteClientHdr ip kernel down idx).2.2).Sublist (hdrsOf kernel) := by
  rw [deleteClientHdr]
  split
  · split
    · exact hdrsOf_delete kernel _
    · exact List.Sublist.refl _
  · exact List.Sublist.refl _

variable [DecidableEq μ]

theorem hdrsOf_handleClientDownEvt (iface : HdrIface μ) (kernel : HandleTable ClientHdr) (mac : μ)
    (down : HdrDownEnv) :
    (hdrsOf (iface.handleClientDownEvt kernel mac down).2.2).Sublist (hdrsOf kernel) := by
  rw [handleClientDownEvt]
  split
  · exact List.Sublist.refl _
  · rename_i idx _
    have v4 := hdrsOf_deleteClientHdr iface .v4 kernel down idx
    have v6 := hdrsOf_deleteClientHdr (iface.deleteClientHdr .v4 kernel down idx).2.1 .v6
      (iface.deleteClientHdr .v4 kernel down idx).2.2 down idx
    split
    · dsimp only
      split
      · split
        · exact v6.trans v4
        · exact v6.trans v4
      · exact v4
    · exact List.Sublist.refl _

end HdrIface

namespace HdrSystem

variable {ι μ : Type*} (system : HdrSystem ι μ)
  (limits : HdrLimits)

def Takes : HdrEvent ι μ → Prop
  | .wlanClientAdd idx _ _ | .wlanClientDel idx _ _ => (system.iface idx).kind = .wlan
  | .ethClientAdd idx _ _ | .ethClientDel idx _ _ => (system.iface idx).kind = .eth

structure IsInit (system : HdrSystem ι μ) : Prop where
  numClient : ∀ idx, (system.iface idx).numClient = 0
  headerNameCount : ∀ idx, (system.iface idx).headerNameCount = 0
  total : system.totalNumWifiClients = 0
  kernel : system.kernel.rules = []

def NamesOk (system : HdrSystem ι μ) : Prop :=
  ((hdrsOf system.kernel).map ClientHdr.name).Nodup

instance (system : HdrSystem ι μ) : Decidable (NamesOk system) :=
  inferInstanceAs (Decidable (List.Nodup _))

structure HdrsOk (system : HdrSystem ι μ) : Prop where
  namesOk : NamesOk system
  named : ∀ hdr ∈ hdrsOf system.kernel, hdr.Named

theorem IsInit.hdrsOk {system : HdrSystem ι μ} (isInit : IsInit system) : HdrsOk system := by
  have isEmpty : hdrsOf system.kernel = [] := by rw [hdrsOf, isInit.kernel, map_nil]
  constructor
  · rw [NamesOk, isEmpty]
    exact nodup_nil
  · intro hdr isIn
    rw [isEmpty] at isIn
    cases isIn

variable [DecidableEq μ]

def newHdrs : HdrEvent ι μ → List ClientHdr
  | .wlanClientAdd idx _ env =>
      if (system.iface idx).numClient < ipaMaxNumWifiClients ∧
          system.totalNumWifiClients < ipaMaxNumWifiClients ∧ env.allocates = true then
        (system.iface idx).addedHdrs limits env
      else []
  | .ethClientAdd idx mac env =>
      if (system.iface idx).clientIndex mac = none ∧
          (system.iface idx).numClient < ipaMaxNumEthClients ∧ env.allocates = true then
        (system.iface idx).addedHdrs limits env
      else []
  | .wlanClientDel _ _ _ | .ethClientDel _ _ _ => []

/-- No header is added while one of the same kind and IP type is there whose numbers have the same
first digits. -/
def Condition (system : HdrSystem ι μ) (event : HdrEvent ι μ) : Prop :=
  ∀ new ∈ system.newHdrs limits event, ∀ hdr ∈ hdrsOf system.kernel, ¬hdr.Clashes new

instance (event : HdrEvent ι μ) : Decidable (system.Condition limits event) :=
  inferInstanceAs (Decidable (∀ new ∈ system.newHdrs limits event, _))

variable {system limits}

variable {event : HdrEvent ι μ}

theorem named_of_mem_newHdrs {hdr : ClientHdr}
    (isNew : hdr ∈ system.newHdrs limits event) : hdr.Named := by
  cases event with
  | wlanClientAdd idx _ env | ethClientAdd idx _ env =>
      rw [newHdrs] at isNew
      split at isNew
      · exact HdrIface.named_of_mem_addedHdrs isNew
      · cases isNew
  | wlanClientDel _ _ _ | ethClientDel _ _ _ => cases isNew

theorem nodup_newHdrs (event : HdrEvent ι μ) :
    ((system.newHdrs limits event).map ClientHdr.name).Nodup := by
  cases event with
  | wlanClientAdd idx _ env | ethClientAdd idx _ env =>
      rw [newHdrs]
      split
      · exact HdrIface.nodup_addedHdrs
      · exact nodup_nil
  | wlanClientDel _ _ _ | ethClientDel _ _ _ => exact nodup_nil

theorem HdrsOk.condition_iff (isOk : HdrsOk system) (event : HdrEvent ι μ) :
    ((hdrsOf system.kernel ++ system.newHdrs limits event).map ClientHdr.name).Nodup ↔
      system.Condition limits event := by
  rw [map_append, nodup_append]
  constructor
  · rintro ⟨-, -, apart⟩ new isNew hdr isOld clashes
    exact apart _ (mem_map_of_mem isOld) _ (mem_map_of_mem isNew)
      (((isOk.named hdr isOld).name_eq_iff (named_of_mem_newHdrs isNew)).mpr clashes)
  · intro free
    refine ⟨isOk.namesOk, nodup_newHdrs event, ?_⟩
    intro name inOld name' inNew same
    rcases mem_map.mp inOld with ⟨hdr, isOld, rfl⟩
    rcases mem_map.mp inNew with ⟨new, isNew, rfl⟩
    exact free new isNew hdr isOld
      (((isOk.named hdr isOld).name_eq_iff (named_of_mem_newHdrs isNew)).mp same)

variable [DecidableEq ι]

def Step (limits : HdrLimits) (system : HdrSystem ι μ) (event : HdrEvent ι μ)
    (system' : HdrSystem ι μ) : Prop :=
  system.Takes event ∧ system' = system.handle limits event

section

variable (isLong : 14 < limits.ipaResourceNameMax)

include isLong

theorem hdrsOf_handleWlanClientInitEx (idx : ι)
    (attribs : List (WlanHdrAttrib μ)) (env : HdrEnv) :
    hdrsOf (system.handleWlanClientInitEx limits idx attribs env).kernel =
      hdrsOf system.kernel ++ system.newHdrs limits (.wlanClientAdd idx attribs env) := by
  by_cases isFull : ipaMaxNumWifiClients ≤ (system.iface idx).numClient ∨
      (ipaMaxNumWifiClients : ℤ) ≤ system.totalNumWifiClients
  · rw [handleWlanClientInitEx, if_pos isFull, newHdrs, if_neg (by omega), append_nil]
  · rw [handleWlanClientInitEx, if_neg isFull]
    cases isTx : (system.iface idx).txProp with
    | none => simp [newHdrs, HdrIface.addedHdrs_eq_nil isTx]
    | some tx =>
        cases allocates : env.allocates with
        | false => simp [newHdrs, allocates]
        | true =>
            have hasPlace : (system.iface idx).numClient < ipaMaxNumWifiClients ∧
                system.totalNumWifiClients < ipaMaxNumWifiClients ∧ env.allocates = true :=
              ⟨by omega, by omega, allocates⟩
            rw [newHdrs, if_pos hasPlace]
            exact HdrIface.hdrsOf_addClientHdrs _ env isLong system.kernel (HdrIface.macOf attribs)

theorem hdrsOf_handleEthHdrInit (idx : ι) (mac : μ)
    (env : HdrEnv) :
    hdrsOf (system.handleEthHdrInit limits idx mac env).kernel =
      hdrsOf system.kernel ++ system.newHdrs limits (.ethClientAdd idx mac env) := by
  cases isThere : (system.iface idx).clientIndex mac with
  | some pos => simp [handleEthHdrInit, newHdrs, isThere]
  | none =>
      by_cases isFull : ipaMaxNumEthClients ≤ (system.iface idx).numClient
      · simp [handleEthHdrInit, newHdrs, isThere, isFull, Nat.not_lt.mpr isFull]
      · have same := (system.iface idx).sameNumbers_setClient (system.iface idx).numClient
          fun client => { client with mac := mac }
        cases isTx : (system.iface idx).txProp with
        | none =>
            simp [handleEthHdrInit, newHdrs, isThere, isFull, HdrIface.addedHdrs_eq_nil isTx,
              same.txProp,
              isTx, put]
        | some tx =>
            cases allocates : env.allocates with
            | false =>
                simp [handleEthHdrInit, newHdrs, isThere, isFull, allocates, same.txProp, isTx, put]
            | true =>
                have added := ((system.iface idx).setClient (system.iface idx).numClient
                  fun client => { client with mac := mac }).hdrsOf_addClientHdrs env isLong
                  system.kernel id
                rw [same.addedHdrs] at added
                simpa [handleEthHdrInit, newHdrs, isThere, isFull, Nat.not_le.mp isFull, allocates,
                  same.txProp, isTx, put] using added

variable (system) in
theorem hdrsOf_handle (event : HdrEvent ι μ) :
    (hdrsOf (system.handle limits event).kernel).Sublist (hdrsOf system.kernel) ∧
        system.newHdrs limits event = [] ∨
      hdrsOf (system.handle limits event).kernel =
        hdrsOf system.kernel ++ system.newHdrs limits event := by
  cases event with
  | wlanClientAdd idx attribs env =>
      right
      exact hdrsOf_handleWlanClientInitEx isLong idx attribs env
  | ethClientAdd idx mac env =>
      right
      exact hdrsOf_handleEthHdrInit isLong idx mac env
  | wlanClientDel idx mac down | ethClientDel idx mac down =>
      left
      exact ⟨HdrIface.hdrsOf_handleClientDownEvt _ _ mac down, rfl⟩

end

theorem HdrsOk.namesOk_iff (isOk : HdrsOk system) (isLong : 14 < limits.ipaResourceNameMax)
    (event : HdrEvent ι μ) :
    NamesOk (system.handle limits event) ↔ system.Condition limits event := by
  rcases hdrsOf_handle system isLong event with ⟨fewer, noNew⟩ | more
  · constructor
    · intro _ new isNew
      rw [noNew] at isNew
      cases isNew
    · intro _
      exact isOk.namesOk.sublist (fewer.map _)
  · rw [NamesOk, more]
    exact isOk.condition_iff event

theorem HdrsOk.step {system' : HdrSystem ι μ} (isOk : HdrsOk system)
    (isLong : 14 < limits.ipaResourceNameMax)
    (stepped : Run.Guarded (Condition limits) (Step limits) system event system') :
    HdrsOk system' := by
  rcases stepped with ⟨free, -, rfl⟩
  constructor
  · exact (isOk.namesOk_iff isLong event).mpr free
  · intro hdr isIn
    rcases hdrsOf_handle system isLong event with ⟨fewer, -⟩ | more
    · exact isOk.named hdr (fewer.subset isIn)
    · rw [more] at isIn
      rcases mem_append.mp isIn with isOld | isNew
      · exact isOk.named hdr isOld
      · exact named_of_mem_newHdrs isNew

theorem reachable_hdrsOk (isLong : 14 < limits.ipaResourceNameMax)
    (reached : Run.Reachable IsInit (Run.Guarded (Condition limits) (Step limits)) system) :
    HdrsOk system :=
  reached.invariant HdrsOk (fun _ isInit => isInit.hdrsOk)
    fun _ _ _ isOk stepped => isOk.step isLong stepped

/-- As long as no client arrives while a header with the same first digits is there, and no longer,
the names are distinct. -/
theorem reachable_namesOk (isLong : 14 < limits.ipaResourceNameMax)
    (reached : Run.Reachable IsInit (Run.Guarded (Condition limits) (Step limits)) system) :
    NamesOk system ∧ ∀ event,
      NamesOk (system.handle limits event) ↔ system.Condition limits event :=
  ⟨(reachable_hdrsOk isLong reached).namesOk, (reachable_hdrsOk isLong reached).namesOk_iff isLong⟩

def driverLimits : HdrLimits := ⟨32, 255, by decide⟩

def accessPoint : HdrSystem Unit ℕ where
  iface := fun _ => ⟨.wlan, 0, some [.v4, .v6], fun _ => ⟨0, fun _ => 0, fun _ => false⟩, 0, 0⟩
  totalNumWifiClients := 0
  kernel := .empty

def arrival (mac : ℕ) : HdrEvent Unit ℕ :=
  .wlanClientAdd () [.macAddr mac] ⟨true, fun _ => some 14, fun _ => true, .counting⟩

def arrivals : ℕ → HdrSystem Unit ℕ
  | 0 => accessPoint
  | count + 1 => (arrivals count).handle driverLimits (arrival count)

theorem accessPoint_isInit : IsInit accessPoint :=
  ⟨fun _ => rfl, fun _ => rfl, rfl, rfl⟩

theorem reached_arrivals {count : ℕ} (few : count ≤ 10) :
    Run.Reachable IsInit (Run.Guarded (Condition driverLimits) (Step driverLimits))
      (arrivals count) := by
  have isWlan : ∀ count < 10, ((arrivals count).iface ()).kind = .wlan := by decide
  have isFree : ∀ count < 10, (arrivals count).Condition driverLimits (arrival count) := by decide
  induction count with
  | zero => exact .start accessPoint_isInit
  | succ count ih =>
      exact .next (arrival count) (ih (by omega))
        ⟨isFree count (by omega), isWlan count (by omega), rfl⟩

theorem reachable_namesOk_tenClients : NamesOk (arrivals 10) ∧ ¬NamesOk (arrivals 11) := by
  have kept := reachable_namesOk (by decide) (reached_arrivals (Nat.le_refl 10))
  refine ⟨kept.1, ?_⟩
  intro namesOk
  exact absurd ((kept.2 (arrival 10)).mp namesOk) (by decide)

theorem not_namesOk :
    ¬∀ system : HdrSystem Unit ℕ, Run.Reachable IsInit (Step driverLimits) system →
      NamesOk system := by
  intro kept
  have isWlan : ((arrivals 10).iface ()).kind = .wlan := by decide
  have reached : Run.Reachable IsInit (Step driverLimits) (arrivals 11) :=
    .next (arrival 10) (reached_arrivals (Nat.le_refl 10)).of_guarded ⟨isWlan, rfl⟩
  exact absurd (kept _ reached) (by decide)

end HdrSystem

end HtcPme.Ipacm
