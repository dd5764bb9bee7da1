import HtcPme.Ipacm.LanPipe

/-!
# The rules that belong on a LAN interface's pipe

The rules that came with an address, those for the backhaul, the prefix rule and one for software
routing, each group with its handles.
-/

namespace HtcPme.Ipacm

open RuleGroups List Prod

def LanFltConfig.bridgeGroups (config : LanFltConfig) : List (FltGroup × ℕ) :=
  if config.featureEthBridgeLe then
    [(.wlanClient, lanToLanMaxWlanClient), (.lanClient, lanToLanMaxCpeClient)]
  else if config.ctOpt then [(.tcpCtl, numTcpCtlFltRule), (.lan2lan, maxOffloadPair)]
  else [(.lan2lan, maxOffloadPair)]

def LanFltConfig.defaultGroups (config : LanFltConfig) : IpaIpType → List (FltGroup × ℕ)
  | .v4 =>
      (.icmp, numIpv4IcmpFltRule) :: (.dft, ipv4DefaultFiltertingRules) ::
        (config.bridgeGroups ++ [(.privateSubnet, config.privateSubnetRules)])
  | .v6 =>
      (.icmp, numIpv6IcmpFltRule) :: (.dft, config.ipv6DefaultFiltertingRules) ::
        config.bridgeGroups

def FltGroup.IsDynamic (group : FltGroup) : Prop :=
  group = .sta ∨ group = .ipv6Prefix ∨ group = .wanUl ∨ group = .softwareRouting

instance (group : FltGroup) : Decidable group.IsDynamic :=
  inferInstanceAs (Decidable (_ ∨ _))

structure Uplink where
  sta : Bool
  ipv6Prefix : Bool
  modemUlSet : Bool
  softwareRouting : Bool

def Uplink.book (uplink : Uplink) (fixed : List (FltGroup × ℕ)) (numWanUl : ℕ) :
    List (FltGroup × ℕ) :=
  (if uplink.sta then [(.sta, 1)] else []) ++
    (if uplink.ipv6Prefix then [(.ipv6Prefix, 1)] else []) ++
    (if uplink.softwareRouting then [(.softwareRouting, 1)] else []) ++ (.wanUl, numWanUl) :: fixed

structure PipeInv (groups : RuleGroups FltGroup) (fixed : List (FltGroup × ℕ)) (uplink : Uplink) :
    Prop where
  books : groups.Books (uplink.book fixed (groups.hdl .wanUl).length)
  apart : ∀ group ∈ fixed.map Prod.fst, ¬ group.IsDynamic
  sta : (groups.hdl .sta).length = 1
  ipv6Prefix : (groups.hdl .ipv6Prefix).length = 1
  unset : uplink.modemUlSet = false → groups.hdl .wanUl = []
  bounded : (groups.hdl .wanUl).length ≤ maxWanUlFilterRules

namespace PipeInv

variable {groups : RuleGroups FltGroup} {fixed : List (FltGroup × ℕ)} {uplink : Uplink}
variable (source : HandleSource)

theorem mem_book {num : ℕ} {group : FltGroup} : group ∈ (uplink.book fixed num).map fst ↔
    uplink.sta ∧ group = .sta ∨ uplink.ipv6Prefix ∧ group = .ipv6Prefix ∨
      uplink.softwareRouting ∧ group = .softwareRouting ∨ group = .wanUl ∨
      group ∈ fixed.map fst := by
  rcases uplink with ⟨sta, ipv6Prefix, set, softwareRouting⟩
  cases sta <;> cases ipv6Prefix <;> cases softwareRouting <;> simp [Uplink.book]

section

variable (inv : PipeInv groups fixed uplink)

include inv

theorem isInstalled_sta :
    groups.IsInstalled .sta ↔ uplink.sta := by
  have some : groups.hdl .sta ≠ [] := by
    intro isNil
    simpa [isNil] using inv.sta
  have notFixed : FltGroup.sta ∉ fixed.map fst := fun isIn => inv.apart _ isIn (.inl rfl)
  rw [inv.books.isInstalled_iff some, mem_book]
  simp [notFixed]

theorem isInstalled_ipv6Prefix :
    groups.IsInstalled .ipv6Prefix ↔ uplink.ipv6Prefix := by
  have some : groups.hdl .ipv6Prefix ≠ [] := by
    intro isNil
    simpa [isNil] using inv.ipv6Prefix
  have notFixed : FltGroup.ipv6Prefix ∉ fixed.map fst :=
    fun isIn => inv.apart _ isIn (.inr (.inl rfl))
  rw [inv.books.isInstalled_iff some, mem_book]
  simp [notFixed]

variable {uplink' : Uplink} {group : FltGroup}

theorem addOne (perm : ((group, 1) :: uplink.book fixed (groups.hdl .wanUl).length).Perm
      (uplink'.book fixed (groups.hdl .wanUl).length))
    (notBooked : group ∉ (uplink.book fixed (groups.hdl .wanUl).length).map fst)
    (sameSet : uplink'.modemUlSet = uplink.modemUlSet) (atRear : Bool) :
    PipeInv (groups.add source atRear group 1) fixed uplink' := by
  have books : (groups.add source atRear group 1).Books
      ((group, 1) :: uplink.book fixed (groups.hdl .wanUl).length) :=
    inv.books.add source notBooked atRear
  have differs : FltGroup.wanUl ≠ group := by
    rintro rfl
    exact notBooked (mem_book.mpr (by simp))
  have wanUl : (groups.add source atRear group 1).hdl .wanUl = groups.hdl .wanUl :=
    hdl_add_of_ne source differs atRear
  have length (other : FltGroup) (single : (groups.hdl other).length = 1) :
      ((groups.add source atRear group 1).hdl other).length = 1 := by
    by_cases same : other = group
    · subst same
      exact books.length _ mem_cons_self
    · rw [hdl_add_of_ne source same, single]
  refine ⟨?_, inv.apart, length _ inv.sta, length _ inv.ipv6Prefix, ?_, ?_⟩
  · rw [wanUl]
    exact books.of_perm perm
  · rw [wanUl, sameSet]
    exact inv.unset
  · rw [wanUl]
    exact inv.bounded

theorem deleteOne (perm : (uplink.book fixed (groups.hdl .wanUl).length).Perm
      ((group, 1) :: uplink'.book fixed (groups.hdl .wanUl).length))
    (sameSet : uplink'.modemUlSet = uplink.modemUlSet) :
    (groups.delete group 1).1 = true ∧ PipeInv (groups.delete group 1).2 fixed uplink' := by
  rcases (inv.books.of_perm perm).delete with ⟨succeeded, books⟩
  refine ⟨succeeded, books, inv.apart, inv.sta, inv.ipv6Prefix, ?_, inv.bounded⟩
  rw [sameSet]
  exact inv.unset

end

theorem book_sta (uplink : Uplink) (fixed : List (FltGroup × ℕ)) (num : ℕ) :
    ((.sta, 1) :: { uplink with sta := false }.book fixed num).Perm
      ({ uplink with sta := true }.book fixed num) :=
  .refl _

theorem book_ipv6Prefix (uplink : Uplink) (fixed : List (FltGroup × ℕ)) (num : ℕ) :
    ((.ipv6Prefix, 1) :: { uplink with ipv6Prefix := false }.book fixed num).Perm
      ({ uplink with ipv6Prefix := true }.book fixed num) := by
  simp only [Uplink.book, append_assoc]
  exact perm_middle.symm

theorem book_softwareRouting (uplink : Uplink) (fixed : List (FltGroup × ℕ)) (num : ℕ) :
    ((.softwareRouting, 1) :: { uplink with softwareRouting := false }.book fixed num).Perm
      ({ uplink with softwareRouting := true }.book fixed num) := by
  simp only [Uplink.book, if_true, Bool.false_eq_true, if_false, append_nil]
  rw [append_assoc (_ ++ _) [_]]
  exact perm_middle.symm

section

variable (inv : PipeInv groups fixed uplink)

include inv

theorem addSta (isOff : uplink.sta = false) :
    PipeInv (groups.add source true .sta 1) fixed { uplink with sta := true } := by
  have notFixed : FltGroup.sta ∉ fixed.map fst := fun isIn => inv.apart _ isIn (.inl rfl)
  have notBooked : FltGroup.sta ∉ (uplink.book fixed (groups.hdl .wanUl).length).map fst := by
    rw [mem_book]
    simp [isOff, notFixed]
  have perm := book_sta uplink fixed (groups.hdl .wanUl).length
  rw [← isOff] at perm
  exact inv.addOne source perm notBooked rfl true

theorem addIpv6Prefix (isOff : uplink.ipv6Prefix = false) :
    PipeInv (groups.add source true .ipv6Prefix 1) fixed { uplink with ipv6Prefix := true } := by
  have notFixed : FltGroup.ipv6Prefix ∉ fixed.map fst :=
    fun isIn => inv.apart _ isIn (.inr (.inl rfl))
  have notBooked : FltGroup.ipv6Prefix ∉
      (uplink.book fixed (groups.hdl .wanUl).length).map fst := by
    rw [mem_book]
    simp [isOff, notFixed]
  have perm := book_ipv6Prefix uplink fixed (groups.hdl .wanUl).length
  rw [← isOff] at perm
  exact inv.addOne source perm notBooked rfl true

theorem addSoftwareRouting (isOff : uplink.softwareRouting = false) :
    PipeInv (groups.add source false .softwareRouting 1) fixed
      { uplink with softwareRouting := true } := by
  have notFixed : FltGroup.softwareRouting ∉ fixed.map fst :=
    fun isIn => inv.apart _ isIn (.inr (.inr (.inr rfl)))
  have notBooked : FltGroup.softwareRouting ∉
      (uplink.book fixed (groups.hdl .wanUl).length).map fst := by
    rw [mem_book]
    simp [isOff, notFixed]
  have perm := book_softwareRouting uplink fixed (groups.hdl .wanUl).length
  rw [← isOff] at perm
  exact inv.addOne source perm notBooked rfl false

theorem deleteSoftwareRouting (isOn : uplink.softwareRouting = true) :
    (groups.delete .softwareRouting 1).1 = true ∧
      PipeInv (groups.delete .softwareRouting 1).2 fixed
        { uplink with softwareRouting := false } := by
  have perm := (book_softwareRouting uplink fixed (groups.hdl .wanUl).length).symm
  rw [← isOn] at perm
  exact inv.deleteOne perm rfl

end

def CanDelete (groups : RuleGroups FltGroup) (group : FltGroup) : Prop :=
  groups.IsInstalled group ∨ groups.IsGone group

instance (groups : RuleGroups FltGroup) (group : FltGroup) : Decidable (CanDelete groups group) :=
  inferInstanceAs (Decidable (_ ∨ _))

theorem deleteSta (inv : PipeInv groups fixed uplink) (can : CanDelete groups .sta) :
    PipeInv (groups.delete .sta 1).2 fixed { uplink with sta := false } := by
  rcases can with installed | gone
  · have isOn := inv.isInstalled_sta.mp installed
    have perm := (book_sta uplink fixed (groups.hdl .wanUl).length).symm
    rw [← isOn] at perm
    exact (inv.deleteOne perm rfl).2
  · have isOff : uplink.sta = false := by
      by_contra isOn
      exact not_isGone (inv.isInstalled_sta.mpr (by simpa using isOn)) gone
    rw [delete_of_isGone inv.sta gone, ← isOff]
    exact inv

theorem deleteIpv6Prefix (inv : PipeInv groups fixed uplink)
    (can : CanDelete groups .ipv6Prefix) :
    PipeInv (groups.delete .ipv6Prefix 1).2 fixed { uplink with ipv6Prefix := false } := by
  rcases can with installed | gone
  · have isOn := inv.isInstalled_ipv6Prefix.mp installed
    have perm := (book_ipv6Prefix uplink fixed (groups.hdl .wanUl).length).symm
    rw [← isOn] at perm
    exact (inv.deleteOne perm rfl).2
  · have isOff : uplink.ipv6Prefix = false := by
      by_contra isOn
      exact not_isGone (inv.isInstalled_ipv6Prefix.mpr (by simpa using isOn)) gone
    rw [delete_of_isGone inv.ipv6Prefix gone, ← isOff]
    exact inv

def others (uplink : Uplink) (fixed : List (FltGroup × ℕ)) : List (FltGroup × ℕ) :=
  (if uplink.sta then [(.sta, 1)] else []) ++
    (if uplink.ipv6Prefix then [(.ipv6Prefix, 1)] else []) ++
    (if uplink.softwareRouting then [(.softwareRouting, 1)] else []) ++ fixed

theorem book_wanUl (uplink : Uplink) (fixed : List (FltGroup × ℕ)) (num : ℕ) :
    (uplink.book fixed num).Perm ((.wanUl, num) :: others uplink fixed) :=
  perm_middle

theorem wanUl_not_mem (apart : ∀ group ∈ fixed.map fst, ¬ group.IsDynamic) :
    FltGroup.wanUl ∉ (others uplink fixed).map fst := by
  have notFixed : FltGroup.wanUl ∉ fixed.map fst :=
    fun isIn => apart _ isIn (.inr (.inr (.inl rfl)))
  simp only [others, map_append, mem_append, notFixed, or_false]
  split_ifs <;> simp

section

variable (inv : PipeInv groups fixed uplink)

include inv

theorem appendWanUl (unset : uplink.modemUlSet = false)
    {num : ℕ} (within : num ≤ maxWanUlFilterRules) :
    PipeInv (groups.append source true .wanUl num) fixed { uplink with modemUlSet := true } := by
  have noHdl := inv.unset unset
  have books := inv.books
  rw [noHdl] at books
  have added : (groups.append source true .wanUl num).Books
      ((.wanUl, num) :: others uplink fixed) :=
    (books.of_perm (book_wanUl uplink fixed 0)).of_zero.append source
      (wanUl_not_mem inv.apart) noHdl true
  have length := added.length _ mem_cons_self
  have others {other : FltGroup} (differs : other ≠ .wanUl) :
      (groups.append source true .wanUl num).hdl other = groups.hdl other :=
    hdl_append_of_ne source differs true
  refine ⟨?_, inv.apart, ?_, ?_, by simp, ?_⟩
  · rw [length]
    exact added.of_perm (book_wanUl _ fixed num).symm
  · rw [others (by decide)]
    exact inv.sta
  · rw [others (by decide)]
    exact inv.ipv6Prefix
  · rw [length]
    exact within

theorem setModemUl :
    PipeInv groups fixed { uplink with modemUlSet := true } :=
  { inv with unset := by simp }

theorem deleteWanUl :
    (groups.delete .wanUl (groups.hdl .wanUl).length).1 = true ∧
      PipeInv ((groups.delete .wanUl (groups.hdl .wanUl).length).2.forget .wanUl) fixed
        { uplink with modemUlSet := false } := by
  have books := inv.books.of_perm (book_wanUl uplink fixed _)
  rcases books.delete with ⟨succeeded, left⟩
  have notBooked : FltGroup.wanUl ∉ (others uplink fixed).map fst :=
    wanUl_not_mem inv.apart
  have kept {other : FltGroup} (differs : other ≠ .wanUl) :
      ((groups.delete .wanUl (groups.hdl .wanUl).length).2.forget .wanUl).hdl other =
        groups.hdl other :=
    hdl_forget_of_ne differs
  have none : ((groups.delete .wanUl (groups.hdl .wanUl).length).2.forget .wanUl).hdl .wanUl = [] :=
    hdl_forget
  refine ⟨succeeded, ?_, inv.apart, ?_, ?_, fun _ => none, by simp⟩
  · rw [none]
    exact ((left.setHdl notBooked []).consZero notBooked none).of_perm (book_wanUl _ fixed 0).symm
  · rw [kept (by decide)]
    exact inv.sta
  · rw [kept (by decide)]
    exact inv.ipv6Prefix

theorem addFixed {group : FltGroup} {num : ℕ}
    (notDynamic : ¬ group.IsDynamic) (isNew : group ∉ fixed.map fst) (atRear : Bool) :
    PipeInv (groups.add source atRear group num) ((group, num) :: fixed) uplink := by
  have notBooked : group ∉ (uplink.book fixed (groups.hdl .wanUl).length).map fst := by
    rw [mem_book]
    unfold FltGroup.IsDynamic at notDynamic
    grind
  have books : (groups.add source atRear group num).Books
      ((group, num) :: uplink.book fixed (groups.hdl .wanUl).length) :=
    inv.books.add source notBooked atRear
  have others {other : FltGroup} (isDynamic : other.IsDynamic) :
      (groups.add source atRear group num).hdl other = groups.hdl other := by
    apply hdl_add_of_ne
    rintro rfl
    exact notDynamic isDynamic
  have wanUl := others (.inr (.inr (.inl rfl)))
  refine ⟨?_, ?_, ?_, ?_, ?_, ?_⟩
  · rw [wanUl]
    apply books.of_perm
    exact perm_middle.symm.trans ((List.Perm.swap _ _ _).append_left _)
  · intro other isIn
    rcases mem_cons.mp isIn with rfl | isIn
    · exact notDynamic
    · exact inv.apart other isIn
  · rw [others (.inl rfl)]
    exact inv.sta
  · rw [others (.inr (.inl rfl))]
    exact inv.ipv6Prefix
  · rw [wanUl]
    exact inv.unset
  · rw [wanUl]
    exact inv.bounded

theorem of_perm {fixed' : List (FltGroup × ℕ)}
    (perm : fixed.Perm fixed') : PipeInv groups fixed' uplink :=
  { inv with
    books := inv.books.of_perm ((perm.cons _).append_left _)
    apart := fun group isIn => inv.apart group ((perm.map fst).mem_iff.mpr isIn) }

end

def routing (on : Bool) : List (FltGroup × ℕ) := if on then [(.softwareRouting, 1)] else []

theorem of_cleared {modemUlSet softwareRouting : Bool}
    (inv : PipeInv groups fixed ⟨false, false, modemUlSet, softwareRouting⟩)
    (none : groups.hdl .wanUl = []) : groups.Books (fixed ++ routing softwareRouting) := by
  have books := inv.books.of_perm (book_wanUl _ fixed _)
  rw [none] at books
  exact books.of_zero.of_perm perm_append_comm

end PipeInv

end HtcPme.Ipacm
