import HtcPme.Ipacm.StaFirewallRules

/-!
# The firewall rules of a station and their handles

The rules of an IP type lie in the kernel among others, and their handles are kept in the order in
which they were added.
-/

namespace HtcPme.Ipacm

open FirewallConf HandleTable List

namespace StaFirewall

open Function (update update_of_ne update_self update_eq_self)

variable {ρ : Type*} {sta : StaFirewall ρ} {source : HandleSource} {ip : IpaIpType}

/-- The rules of an IP type with their handles where these are kept: the one for fragments, those
for entries, and those that are always there. -/
structure Recorded (sta : StaFirewall ρ) (ip : IpaIpType) (hasFrag : Bool)
    (frag entries others : List (ℕ × StaRule ρ)) : Prop where
  fragHdl : frag.map Prod.fst = if hasFrag then [sta.ipv6FragFirewallFltRuleHdl] else []
  isFrag : ∀ entry ∈ frag, entry.2.matches'.isFragment
  entryHdls : (sta.firewallHdl ip).Lists (entries.map Prod.fst)
  bounded : entries.length ≤ ipacmMaxFirewallEntries
  otherHdls : others.map Prod.fst = sta.dftHdls ip
  notFrag : ∀ entry ∈ entries ++ others, entry.2.matches'.isFragment = false
  onlyV6 : ip = .v4 → hasFrag = false

section Delete

theorem deleteFilteringHdls_append (sta : StaFirewall ρ) (hdls rest : List ℕ) :
    deleteFilteringHdls ip sta (hdls ++ rest) =
      match deleteFilteringHdls ip sta hdls with
      | (true, sta) => deleteFilteringHdls ip sta rest
      | (false, sta) => (false, sta) := by
  induction hdls generalizing sta with
  | nil => rfl
  | cons hdl hdls ih =>
      rw [cons_append, deleteFilteringHdls.eq_2, deleteFilteringHdls.eq_2]
      split_ifs
      · exact ih sta
      · exact ih _
      · rfl

theorem deleteFilteringHdls_eq (sta : StaFirewall ρ) {hdls : List ℕ} (isNodup : hdls.Nodup)
    (isIn : ∀ hdl ∈ hdls, hdl ∈ (sta.kernel ip).handles) :
    deleteFilteringHdls ip sta hdls =
      (true, { sta with
        kernel := update sta.kernel ip ((sta.kernel ip).deleteAll hdls) }) := by
  induction hdls generalizing sta with
  | nil => simp [deleteFilteringHdls, deleteAll]
  | cons hdl rest ih =>
      rcases nodup_cons.mp isNodup with ⟨notIn, isNodup⟩
      have isHdl := isIn hdl mem_cons_self
      have nonzero : hdl ≠ 0 := fun isZero => (sta.kernel ip).nonzero (isZero ▸ isHdl)
      rw [deleteFilteringHdls, if_neg nonzero, if_pos isHdl, ih _ isNodup]
      · simp [deleteAll]
      · intro hdl' isIn'
        have wasIn := isIn hdl' (mem_cons_of_mem _ isIn')
        have isOther : hdl' ≠ hdl := fun same => notIn (same ▸ isIn')
        simp only [update_self, handles, delete]
        rcases mem_map.mp wasIn with ⟨entry, isEntry, rfl⟩
        exact mem_map_of_mem (mem_filter.mpr ⟨isEntry, decide_eq_true isOther⟩)

end Delete

section Recorded

variable {hasFrag : Bool} {frag entries others : List (ℕ × StaRule ρ)}

theorem firewallHdls_of_lists {hdls : List ℕ} (lists : (sta.firewallHdl ip).Lists hdls) :
    sta.firewallHdls ip = hdls := by
  apply ext_getElem
  · rw [firewallHdls, length_map, length_range, lists.num]
  · intro pos within within'
    simp only [firewallHdls, getElem_map, getElem_range]
    rw [lists.entry pos within', getElem?_eq_getElem within', Option.getD_some]

theorem hdlsToDelete_eq (sta : StaFirewall ρ) (ip : IpaIpType) :
    sta.hdlsToDelete ip = sta.ownHdls sta.firewallConfig.hasFragRule ip := by
  cases ip <;> rfl

theorem Recorded.ownHdls_perm (recorded : Recorded sta ip hasFrag frag entries others) :
    (sta.ownHdls hasFrag ip).Perm ((frag ++ entries ++ others).map Prod.fst) := by
  rw [map_append, map_append, recorded.fragHdl, recorded.otherHdls]
  cases ip with
  | v4 =>
      rw [ownHdls, firewallHdls_of_lists recorded.entryHdls, recorded.onlyV6 rfl, dftHdls]
      exact List.Perm.refl _
  | v6 =>
      rw [ownHdls, firewallHdls_of_lists recorded.entryHdls, dftHdls]
      have swapped : [sta.dftWanFlHdl 1, sta.dftWanFlHdl 2].Perm
          [sta.dftWanFlHdl 2, sta.dftWanFlHdl 1] := List.Perm.swap _ _ _
      rw [append_assoc, append_assoc]
      apply List.Perm.trans _ perm_append_comm.symm
      rw [append_assoc]
      exact (swapped.append_right _).append_left _

theorem Recorded.delete_ownHdls (recorded : Recorded sta ip hasFrag frag entries others)
    (rules : (sta.kernel ip).rules = frag ++ entries ++ others) :
    ∃ kernel : HandleTable (StaRule ρ), kernel.rules = [] ∧
      deleteFilteringHdls ip sta (sta.ownHdls hasFrag ip) =
        (true, { sta with kernel := update sta.kernel ip kernel }) := by
  have isHandles : (sta.ownHdls hasFrag ip).Perm (sta.kernel ip).handles := by
    rw [handles, rules]
    exact recorded.ownHdls_perm
  refine ⟨(sta.kernel ip).deleteAll (sta.ownHdls hasFrag ip), ?_, ?_⟩
  · rw [rules_deleteAll, filter_eq_nil_iff]
    intro entry isIn
    simpa using isHandles.mem_iff.mpr (mem_map_of_mem isIn)
  · exact deleteFilteringHdls_eq sta (isHandles.nodup_iff.mpr (sta.kernel ip).nodup)
      fun hdl => isHandles.mem_iff.mp

def Agrees (sta : StaFirewall ρ) (hasFrag : Bool) : Prop :=
  sta.firewallConfig.hasFragRule = hasFrag ∨
    sta.firewallConfig.hasFragRule ∧ hasFrag = false ∧ sta.ipv6FragFirewallFltRuleHdl = 0

theorem Recorded.delete_left (recorded : Recorded sta .v6 true frag entries others)
    (rules : (sta.kernel .v6).rules = frag ++ entries ++ others) :
    ∃ kernel : HandleTable (StaRule ρ), kernel.rules ≠ [] ∧
      deleteFilteringHdls .v6 sta (sta.ownHdls false .v6) =
        (true, { sta with kernel := update sta.kernel .v6 kernel }) := by
  have isHandles : (sta.ownHdls true .v6).Perm (sta.kernel .v6).handles := by
    rw [handles, rules]
    exact recorded.ownHdls_perm
  have withFrag : sta.ownHdls true .v6 =
      sta.ownHdls false .v6 ++ [sta.ipv6FragFirewallFltRuleHdl] := by
    simp [ownHdls]
  have isNodup := isHandles.nodup_iff.mpr (sta.kernel .v6).nodup
  rw [withFrag] at isHandles isNodup
  refine ⟨(sta.kernel .v6).deleteAll (sta.ownHdls false .v6), ?_, ?_⟩
  · intro isEmpty
    rw [rules_deleteAll, filter_eq_nil_iff] at isEmpty
    have isFragIn : sta.ipv6FragFirewallFltRuleHdl ∈ (sta.kernel .v6).handles :=
      isHandles.mem_iff.mp (mem_append_right _ (mem_singleton_self _))
    rcases mem_map.mp isFragIn with ⟨entry, isEntry, isHdl⟩
    have isDeleted := isEmpty entry isEntry
    rw [isHdl] at isDeleted
    simp only [decide_not, Bool.not_eq_true', decide_eq_false_iff_not, not_not] at isDeleted
    have notTwice := (nodup_append.mp isNodup).2.2
    exact notTwice _ isDeleted _ (mem_singleton_self _) rfl
  · exact deleteFilteringHdls_eq sta (nodup_append.mp isNodup).1
      fun hdl isIn => isHandles.mem_iff.mp (mem_append_left _ isIn)

theorem Recorded.not_agrees (recorded : Recorded sta .v6 hasFrag frag entries others)
    (hasRx : sta.hasRxProp) (isActive : sta.active .v6)
    (rules : (sta.kernel .v6).rules = frag ++ entries ++ others) (notAgrees : ¬sta.Agrees hasFrag) :
    (sta.delDftFirewallRules .v6).1 = ipacmFailure ∨
      ∃ kernel : HandleTable (StaRule ρ), kernel.rules ≠ [] ∧
        sta.delDftFirewallRules .v6 = (ipacmSuccess, { sta with
          kernel := update sta.kernel .v6 kernel
          firewallHdl := update sta.firewallHdl .v6
            { sta.firewallHdl .v6 with num := 0 } }) := by
  have bounded : (sta.firewallHdl .v6).num ≤ ipacmMaxFirewallEntries := by
    rw [recorded.entryHdls.num, length_map]
    exact recorded.bounded
  rw [StaFirewall.delDftFirewallRules, if_pos hasRx, if_pos isActive,
    if_neg (Nat.not_lt.mpr bounded), hdlsToDelete_eq]
  rw [Agrees, not_or] at notAgrees
  rcases notAgrees with ⟨isOther, notZero⟩
  cases hasFrag with
  | true =>
      right
      rw [Bool.not_eq_true] at isOther
      rcases recorded.delete_left rules with ⟨kernel, notEmpty, deleted⟩
      refine ⟨kernel, notEmpty, ?_⟩
      rw [isOther, deleted]
  | false =>
      left
      rw [Bool.not_eq_false] at isOther
      have nonzero : sta.ipv6FragFirewallFltRuleHdl ≠ 0 :=
        fun isZero => notZero ⟨isOther, rfl, isZero⟩
      rcases recorded.delete_ownHdls rules with ⟨kernel, isEmpty, isOwn⟩
      have withFrag : sta.ownHdls true .v6 =
          sta.ownHdls false .v6 ++ [sta.ipv6FragFirewallFltRuleHdl] := by
        simp [ownHdls]
      have notIn : sta.ipv6FragFirewallFltRuleHdl ∉ kernel.handles := by
        rw [handles, isEmpty]
        exact not_mem_nil
      rw [isOther, withFrag, deleteFilteringHdls_append, isOwn]
      simp only [deleteFilteringHdls, if_neg nonzero, update_self, if_neg notIn]

theorem Recorded.delDftFirewallRules (recorded : Recorded sta ip hasFrag frag entries others)
    (hasRx : sta.hasRxProp) (isActive : sta.active ip)
    (rules : (sta.kernel ip).rules = frag ++ entries ++ others)
    (agrees : ip = .v6 → sta.Agrees hasFrag) :
    ∃ kernel : HandleTable (StaRule ρ), kernel.rules = [] ∧
      sta.delDftFirewallRules ip = (ipacmSuccess, { sta with
        kernel := update sta.kernel ip kernel
        firewallHdl := update sta.firewallHdl ip
          { sta.firewallHdl ip with num := 0 } }) := by
  rcases recorded.delete_ownHdls rules with ⟨kernel, isEmpty, isOwn⟩
  have deleted : deleteFilteringHdls ip sta (sta.hdlsToDelete ip) =
      (true, { sta with kernel := update sta.kernel ip kernel }) := by
    rw [hdlsToDelete_eq]
    cases ip with
    | v4 => exact isOwn
    | v6 =>
        rcases agrees rfl with same | ⟨isFrag, notFrag, isZero⟩
        · rw [same]
          exact isOwn
        · have isLast : sta.ownHdls sta.firewallConfig.hasFragRule .v6 =
              sta.ownHdls hasFrag .v6 ++ [0] := by
            rw [ownHdls, ownHdls, isFrag, notFrag, isZero]
            simp
          rw [isLast, deleteFilteringHdls_append, isOwn]
          rfl
  have bounded : (sta.firewallHdl ip).num ≤ ipacmMaxFirewallEntries := by
    rw [recorded.entryHdls.num, length_map]
    exact recorded.bounded
  refine ⟨kernel, isEmpty, ?_⟩
  rw [StaFirewall.delDftFirewallRules, if_pos hasRx, if_pos isActive,
    if_neg (Nat.not_lt.mpr bounded), deleted]

end Recorded

section Config

variable {conf : FirewallConf ρ} {isRouter : Bool}

def fragRequests (conf : FirewallConf ρ) : IpaIpType → List (DftRequest ρ)
  | .v4 => []
  | .v6 => if conf.hasFragRule then [.addFrag ⟨.passToException, none, .fragment⟩] else []

def otherRequests (conf : FirewallConf ρ) (isRouter : Bool) : IpaIpType → List (DftRequest ρ)
  | .v4 => [conf.otherRequest isRouter .v4]
  | .v6 => [FirewallConf.icmpRequest, conf.otherRequest isRouter .v6]

theorem foldl_dftRequests (sta : StaFirewall ρ) :
    (conf.dftRequests isRouter ip).foldl (perform source ip) sta =
      (fragRequests conf ip ++ conf.entryRequests isRouter ip ++
        otherRequests conf isRouter ip).foldl (perform source ip) sta := by
  have noEntries : conf.ruleNum ip = 0 → conf.entryRequests isRouter ip = [] := by
    intro noRule
    rw [entryRequests, conf.splitEntries_of_ruleNum ip noRule]
    split_ifs <;> rfl
  cases ip with
  | v4 =>
      simp only [dftRequests, fragRequests, otherRequests, nil_append]
      split_ifs with noRule
      · rw [noEntries noRule]
        rfl
      · rfl
  | v6 =>
      simp only [dftRequests, fragRequests, otherRequests]
      rw [append_assoc, foldl_append, foldl_append]
      split_ifs with _ noRule noRule
      · rw [noEntries noRule]
        rfl
      · rfl
      · rw [noEntries noRule]
        rfl
      · rfl

theorem foldl_entries (source : HandleSource) (ip : IpaIpType) {requests : List (DftRequest ρ)}
    (sta : StaFirewall ρ) (isEntries : ∀ request ∈ requests, request.isFirewall) :
    ∃ (kernel : HandleTable (StaRule ρ)) (table : CountedTable ℕ),
      requests.foldl (perform source ip) sta = { sta with
        kernel := update sta.kernel ip kernel
        firewallHdl := update sta.firewallHdl ip table } := by
  induction requests generalizing sta with
  | nil => exact ⟨sta.kernel ip, sta.firewallHdl ip, by simp⟩
  | cons first rest ih =>
      have isFirst := isEntries first mem_cons_self
      cases first with
      | getRoutingTable rtTbl => cases isFirst
      | addFrag rule => cases isFirst
      | addDft slot rule => cases isFirst
      | addFirewall ruleNum rule =>
          rcases ih (perform source ip sta (.addFirewall ruleNum rule))
            (fun request isIn => isEntries request (mem_cons_of_mem _ isIn)) with
            ⟨kernel, table, isSame⟩
          refine ⟨kernel, table, ?_⟩
          rw [foldl_cons, isSame]
          simp [perform, addFilteringRule]

def hasFragFor (conf : FirewallConf ρ) (ip : IpaIpType) : Bool :=
    decide (ip = .v6) && conf.hasFragRule

theorem foldl_fragRequests (source : HandleSource) (ip : IpaIpType) (sta : StaFirewall ρ)
    (conf : FirewallConf ρ) :
    ∃ (kernel : HandleTable (StaRule ρ)) (hdl : ℕ) (frag : List (ℕ × StaRule ρ)),
      (fragRequests conf ip).foldl (perform source ip) sta = { sta with
        kernel := update sta.kernel ip kernel
        ipv6FragFirewallFltRuleHdl := hdl } ∧
      kernel.rules = (sta.kernel ip).rules ++ frag ∧
      frag.map Prod.fst = (if hasFragFor conf ip then [hdl] else []) ∧
      (∀ entry ∈ frag, entry.2.matches'.isFragment) ∧
      (hasFragFor conf ip = false → hdl = sta.ipv6FragFirewallFltRuleHdl) := by
  by_cases hasFrag : hasFragFor conf ip
  · have isFrag : ip = .v6 ∧ conf.hasFragRule := by
      simpa [hasFragFor] using hasFrag
    rcases isFrag with ⟨rfl, isFrag⟩
    refine ⟨(sta.kernel .v6).addOne source ⟨.passToException, none, .fragment⟩,
      source.next (sta.kernel .v6).handles,
      [(source.next (sta.kernel .v6).handles, ⟨.passToException, none, .fragment⟩)], ?_, rfl, ?_,
      ?_, ?_⟩
    · simp [fragRequests, isFrag, perform, addFilteringRule]
    · rw [if_pos hasFrag]
      rfl
    · intro entry isIn
      rw [mem_singleton.mp isIn]
      rfl
    · intro notFrag
      rw [hasFrag] at notFrag
      cases notFrag
  · have noRequest : fragRequests conf ip = [] := by
      cases ip with
      | v4 => rfl
      | v6 =>
          have notFrag : ¬conf.hasFragRule := by simpa [hasFragFor] using hasFrag
          rw [fragRequests, if_neg notFrag]
    refine ⟨sta.kernel ip, sta.ipv6FragFirewallFltRuleHdl, [], ?_, ?_, ?_, ?_, fun _ => rfl⟩
    · rw [noRequest, foldl_nil, update_eq_self]
    · rw [append_nil]
    · rw [if_neg hasFrag]
      rfl
    · intro entry isIn
      cases isIn

theorem foldl_otherRequests (source : HandleSource) (ip : IpaIpType) (sta : StaFirewall ρ)
    (conf : FirewallConf ρ) (isRouter : Bool) :
    ∃ (kernel : HandleTable (StaRule ρ)) (dft : Fin 3 → ℕ) (others : List (ℕ × StaRule ρ)),
      (otherRequests conf isRouter ip).foldl (perform source ip) sta = { sta with
        kernel := update sta.kernel ip kernel
        dftWanFlHdl := dft } ∧
      kernel.rules = (sta.kernel ip).rules ++ others ∧
      others.map Prod.fst = dftHdls { sta with dftWanFlHdl := dft } ip ∧
      (∀ entry ∈ others, entry.2.matches'.isFragment = false) ∧
      ∀ ip' ≠ ip, dftHdls { sta with dftWanFlHdl := dft } ip' = dftHdls sta ip' := by
  cases ip with
  | v4 =>
      refine ⟨(sta.kernel .v4).addOne source ⟨conf.otherAction isRouter .v4, some .lanV4, .any⟩,
        update sta.dftWanFlHdl 0 (source.next (sta.kernel .v4).handles),
        [(source.next (sta.kernel .v4).handles,
          ⟨conf.otherAction isRouter .v4, some .lanV4, .any⟩)], ?_, rfl, ?_, ?_, ?_⟩
      · simp [otherRequests, otherRequest, staTable, perform,
          addFilteringRule]
      · simp [dftHdls]
      · intro entry isIn
        rw [mem_singleton.mp isIn]
        rfl
      · intro ip' isOther
        cases ip' with
        | v4 => exact absurd rfl isOther
        | v6 => simp [dftHdls]
  | v6 =>
      let icmp : HandleTable (StaRule ρ) :=
        (sta.kernel .v6).addOne source ⟨.passToException, none, .icmp⟩
      refine ⟨icmp.addOne source ⟨conf.otherAction isRouter .v6, some .wanV6, .any⟩,
        update (update sta.dftWanFlHdl 2 (source.next (sta.kernel .v6).handles)) 1
          (source.next icmp.handles),
        [(source.next (sta.kernel .v6).handles, ⟨.passToException, none, .icmp⟩),
          (source.next icmp.handles, ⟨conf.otherAction isRouter .v6, some .wanV6, .any⟩)],
        ?_, ?_, ?_, ?_, ?_⟩
      · simp [otherRequests, otherRequest, icmpRequest,
          staTable, perform, addFilteringRule, icmp]
      · simp [addOne, icmp]
      · simp [dftHdls]
      · intro entry isIn
        simp only [mem_cons, not_mem_nil, or_false] at isIn
        rcases isIn with rfl | rfl <;> rfl
      · intro ip' isOther
        cases ip' with
        | v4 => simp [dftHdls]
        | v6 => exact absurd rfl isOther

theorem isFirewall_of_mem_entryRequests (conf : FirewallConf ρ) (isRouter : Bool)
    (ip : IpaIpType) : ∀ request ∈ conf.entryRequests isRouter ip, request.isFirewall := by
  intro request isIn
  unfold entryRequests at isIn
  split at isIn
  · rcases mem_mapIdx.mp isIn with ⟨pos, _, rfl⟩
    rfl
  · cases isIn

theorem isEntry_of_added (conf : FirewallConf ρ) (isRouter : Bool) (ip : IpaIpType)
    {new : List (ℕ × StaRule ρ)}
    (added : new.map Prod.snd = (conf.entryRequests isRouter ip).filterMap DftRequest.rule) :
    ∀ entry ∈ new, entry.2.matches'.isEntry := by
  intro entry isIn
  have isAdded : entry.2 ∈ (conf.entryRequests isRouter ip).filterMap DftRequest.rule := by
    rw [← added]
    exact mem_map_of_mem isIn
  rcases mem_filterMap.mp isAdded with ⟨request, isRequest, isRule⟩
  unfold entryRequests at isRequest
  split at isRequest
  · rcases mem_mapIdx.mp isRequest with ⟨pos, within, rfl⟩
    rw [← Option.some.inj isRule]
    exact conf.isEntry_of_mem_splitEntries ip (getElem_mem within)
  · cases isRequest

structure Keeps (sta after : StaFirewall ρ) (ip : IpaIpType) : Prop where
  hasRxProp : after.hasRxProp = sta.hasRxProp
  isRouter : after.isRouter = sta.isRouter
  file : after.file = sta.file
  active : after.active = sta.active
  kernel : ∀ ip' ≠ ip, after.kernel ip' = sta.kernel ip'
  firewallHdl : ∀ ip' ≠ ip, after.firewallHdl ip' = sta.firewallHdl ip'
  dftHdls : ∀ ip' ≠ ip, after.dftHdls ip' = sta.dftHdls ip'

theorem configDftFirewallRules_spec {sta : StaFirewall ρ} (hasRx : sta.hasRxProp)
    (noCount : (sta.firewallHdl ip).num = 0)
    (fits : (sta.file.splitEntries ip).length ≤ ipacmMaxFirewallEntries) (source : HandleSource) :
    ∃ frag entries others : List (ℕ × StaRule ρ),
      ((sta.configDftFirewallRules source none ip).2.kernel ip).rules =
          (sta.kernel ip).rules ++ (frag ++ entries ++ others) ∧
        Recorded (sta.configDftFirewallRules source none ip).2 ip (hasFragFor sta.file ip) frag
          entries others ∧
        Keeps sta (sta.configDftFirewallRules source none ip).2 ip ∧
        (sta.configDftFirewallRules source none ip).2.firewallConfig = sta.file ∧
        (hasFragFor sta.file ip = false →
          (sta.configDftFirewallRules source none ip).2.ipv6FragFirewallFltRuleHdl =
            sta.ipv6FragFirewallFltRuleHdl) := by
  have after : (sta.configDftFirewallRules source none ip).2 =
      (fragRequests sta.file ip ++ sta.file.entryRequests sta.isRouter ip ++
        otherRequests sta.file sta.isRouter ip).foldl (perform source ip)
          { sta with firewallConfig := sta.file } := by
    rw [configDftFirewallRules, if_pos hasRx]
    simp only [Option.getD_none, take_length]
    exact foldl_dftRequests _
  rcases foldl_fragRequests source ip { sta with firewallConfig := sta.file }
    sta.file with ⟨kernel, hdl, frag, isFragState, fragRules, fragHdls, isFrag, sameHdl⟩
  rw [foldl_append, foldl_append, isFragState] at after
  rcases foldl_entries source ip { sta with
      firewallConfig := sta.file
      kernel := update sta.kernel ip kernel
      ipv6FragFirewallFltRuleHdl := hdl }
    (isFirewall_of_mem_entryRequests sta.file sta.isRouter ip) with ⟨kernel', table, isEntryState⟩
  rcases foldl_perform source ip { sta with
      firewallConfig := sta.file
      kernel := update sta.kernel ip kernel
      ipv6FragFirewallFltRuleHdl := hdl }
    (sta.file.sequential_entryRequests sta.isRouter ip) with
    ⟨entries, entryRules, entryHdls, counted, added⟩
  have areEntries := isEntry_of_added sta.file sta.isRouter ip added
  rw [filter_eq_self.mpr areEntries] at entryHdls counted
  rw [isEntryState] at entryRules entryHdls after
  simp only [update_self] at entryRules entryHdls
  rcases foldl_otherRequests source ip { sta with
      firewallConfig := sta.file
      kernel := update (update sta.kernel ip kernel) ip kernel'
      firewallHdl := update sta.firewallHdl ip table
      ipv6FragFirewallFltRuleHdl := hdl } sta.file sta.isRouter with
    ⟨kernel'', dft, others, isOtherState, otherRules, otherHdls, notFrag, sameDft⟩
  rw [isOtherState] at after
  simp only [update_self] at otherRules
  rw [after]
  refine ⟨frag, entries, others, ?_, ?_, ?_, rfl, sameHdl⟩
  · simp only [update_self]
    rw [otherRules, entryRules, fragRules]
    simp only [append_assoc]
  · refine ⟨fragHdls, isFrag, ?_, ?_, otherHdls, ?_, ?_⟩
    · simp only [update_self]
      rw [entryHdls]
      exact (CountedTable.lists_put_zero_iff _ _).mpr noCount
    · rw [counted, countP_entryRequests]
      split_ifs
      · exact fits
      · exact Nat.zero_le _
    · intro entry isIn
      rcases mem_append.mp isIn with isIn | isIn
      · exact DlMatch.not_isFragment_of_isEntry (areEntries entry isIn)
      · exact notFrag entry isIn
    · rintro rfl
      rfl
  · refine ⟨rfl, rfl, rfl, rfl, fun ip' isOther => ?_, fun ip' isOther => ?_, sameDft⟩
    · simp only [update_of_ne isOther]
    · simp only [update_of_ne isOther]

end Config

end StaFirewall

end HtcPme.Ipacm
