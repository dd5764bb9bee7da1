import HtcPme.Ipacm.LanPipeRules

/-!
# Runs of a LAN interface's pipe

The count of the rules is right and the pipe is left empty as long as the events find what the
statics say.
-/

namespace HtcPme.Ipacm

open LanFltConfig List

open Function (update update_of_ne update_self update_eq_self)

def UplinkNotice.Ok (notice : UplinkNotice) : Prop :=
  ∀ entries, notice.sent = .filterIndex entries →
    entries.map Prod.fst = notice.positions.map Nat.cast

namespace LanPipe

open PipeInv

variable (config : LanFltConfig) (source : HandleSource) (lan : LanPipe)

def fixed (ip : IpaIpType) : List (FltGroup × ℕ) :=
  if lan.hasIp ip then config.defaultGroups ip else []

def uplink (sta ipv6Prefix : IpaIpType → Bool) (ip : IpaIpType) : Uplink :=
  ⟨sta ip, ipv6Prefix ip, lan.modemUlSet ip, lan.softwareroutingAct⟩

structure LanInv (sta ipv6Prefix : IpaIpType → Bool) : Prop where
  pipe : ∀ ip, PipeInv (lan.pipe ip) (lan.fixed config ip) (lan.uplink sta ipv6Prefix ip)
  noPrefix : ipv6Prefix .v4 = false
  absent : ∀ ip, lan.hasIp ip = false →
    sta ip = false ∧ ipv6Prefix ip = false ∧ lan.modemUlSet ip = false
  addrs : lan.hasIp .v6 = false ↔ lan.ipv6Addr = []
  told : ∀ notice ∈ lan.notices, notice.Ok
  isActive : lan.isActive = true

variable {config lan} {sta ipv6Prefix : IpaIpType → Bool} {ip : IpaIpType}
  {groups : RuleGroups FltGroup} {staOn prefixOn modemUlOn : Bool}

section

variable (inv : lan.LanInv config sta ipv6Prefix)

include inv

theorem LanInv.setPipe (pipe : PipeInv groups (lan.fixed config ip)
      ⟨staOn, prefixOn, modemUlOn, lan.softwareroutingAct⟩)
    (noPrefix : ip = .v4 → prefixOn = false)
    (absent : lan.hasIp ip = false → staOn = false ∧ prefixOn = false ∧ modemUlOn = false) :
    LanInv config
      { lan.setPipe ip groups with modemUlSet := update lan.modemUlSet ip modemUlOn }
      (update sta ip staOn) (update ipv6Prefix ip prefixOn) where
  pipe other := by
    change PipeInv (update lan.pipe ip groups other) (lan.fixed config other)
      ⟨update sta ip staOn other, update ipv6Prefix ip prefixOn other,
        update lan.modemUlSet ip modemUlOn other, lan.softwareroutingAct⟩
    by_cases same : other = ip
    · subst same
      simpa using pipe
    · simpa [same, uplink] using inv.pipe other
  noPrefix := by
    by_cases same : IpaIpType.v4 = ip
    · simpa [← same] using noPrefix same.symm
    · simpa [same] using inv.noPrefix
  absent other notThere := by
    by_cases same : other = ip
    · subst same
      simpa using absent notThere
    · simpa [same] using inv.absent other notThere
  addrs := inv.addrs
  told := inv.told
  isActive := inv.isActive

theorem LanInv.changePipe (pipe : PipeInv groups (lan.fixed config ip)
      ⟨staOn, prefixOn, lan.modemUlSet ip, lan.softwareroutingAct⟩)
    (noPrefix : ip = .v4 → prefixOn = false)
    (absent : lan.hasIp ip = false → staOn = false ∧ prefixOn = false) :
    LanInv config (lan.setPipe ip groups) (update sta ip staOn)
      (update ipv6Prefix ip prefixOn) := by
  have changed := inv.setPipe pipe noPrefix fun notThere =>
    ⟨(absent notThere).1, (absent notThere).2, (inv.absent ip notThere).2.2⟩
  rw [update_eq_self] at changed
  exact changed

theorem LanInv.noPrefix' (isV4 : ip = .v4) :
    ipv6Prefix ip = false := isV4 ▸ inv.noPrefix

end

section Uplink

theorem LanInv.handleWanUp (inv : lan.LanInv config sta ipv6Prefix) (isThere : lan.hasIp ip = true)
    (isOff : sta ip = false) :
    LanInv config (lan.handleWanUp source ip) (update sta ip true) ipv6Prefix := by
  have added := inv.changePipe ((inv.pipe ip).addSta source isOff) inv.noPrefix' (by simp [isThere])
  rwa [show (lan.uplink sta ipv6Prefix ip).ipv6Prefix = ipv6Prefix ip from rfl,
    update_eq_self] at added

theorem LanInv.installIpv6PrefixFltRule (inv : lan.LanInv config sta ipv6Prefix)
    (isThere : lan.hasIp .v6 = true) (isOff : ipv6Prefix .v6 = false) :
    LanInv config (lan.installIpv6PrefixFltRule source) sta
      (update ipv6Prefix .v6 true) := by
  have added := inv.changePipe ((inv.pipe .v6).addIpv6Prefix source isOff) (by simp)
    (by simp [isThere])
  rwa [show (lan.uplink sta ipv6Prefix .v6).sta = sta .v6 from rfl,
    update_eq_self] at added

theorem ok_of_count {groups : RuleGroups FltGroup}
    (count : groups.count = groups.kernel.rules.length) (ext : List UplinkExtProp) :
    UplinkNotice.Ok
      { ip
        sent := fltIndexList config groups.count ext
        positions :=
          (((groups.append source true .wanUl ext.length).hdl .wanUl).drop
            (groups.hdl .wanUl).length).map
            ((groups.append source true .wanUl ext.length).kernel.handles.idxOf ·) } := by
  intro entries isSent
  rw [RuleGroups.map_idxOf_append]
  simp only [fltIndexList] at isSent
  split_ifs at isSent
  cases isSent
  apply ext_getElem
  · simp
  · intro pos _ _
    simp [count]

variable (inv : lan.LanInv config sta ipv6Prefix)

include inv

theorem LanInv.handleWanUpEx (isThere : lan.hasIp ip = true) (ext : List UplinkExtProp) :
    LanInv config (lan.handleWanUpEx config source ip ext) sta ipv6Prefix := by
  have none {groups : RuleGroups FltGroup} (pipe : PipeInv groups (lan.fixed config ip)
      { lan.uplink sta ipv6Prefix ip with modemUlSet := true }) :
      LanInv config
        { lan.setPipe ip groups with modemUlSet := update lan.modemUlSet ip true }
        sta ipv6Prefix := by
    have changed := inv.setPipe pipe inv.noPrefix' (by simp [isThere])
    simpa [uplink] using changed
  unfold LanPipe.handleWanUpEx
  split_ifs with isNew
  · unfold handleUplinkFilterRule
    split_ifs with isEmpty tooMany
    · have kept := none (inv.pipe ip).setModemUl
      rwa [LanPipe.setPipe, update_eq_self] at kept
    · have kept := none (inv.pipe ip).setModemUl
      rwa [LanPipe.setPipe, update_eq_self] at kept
    · have added := none ((inv.pipe ip).appendWanUl source isNew.2 (Nat.le_of_not_lt tooMany))
      refine { added with told := fun notice isIn => ?_ }
      rcases mem_cons.mp isIn with rfl | isIn
      · exact ok_of_count source (inv.pipe ip).books.count ext
      · exact inv.told notice isIn
  · exact inv

theorem LanInv.installUplink
    (isThere : lan.hasIp ip = true) {isSta : Bool} (isOff : isSta = true → sta ip = false)
    (ext : List UplinkExtProp) :
    ∃ sta', LanInv config (lan.installUplink config source ip isSta ext) sta' ipv6Prefix := by
  unfold LanPipe.installUplink
  split_ifs with inSta
  · exact ⟨_, inv.handleWanUp source isThere (isOff inSta)⟩
  · exact ⟨_, inv.handleWanUpEx source isThere ext⟩

theorem LanInv.deleteSta (can : CanDelete (lan.pipe ip) .sta) :
    LanInv config (lan.deleteRules ip .sta 1).2 (update sta ip false) ipv6Prefix := by
  have deleted := inv.changePipe ((inv.pipe ip).deleteSta can) inv.noPrefix'
    fun notThere => ⟨rfl, (inv.absent ip notThere).2.1⟩
  rwa [show (lan.uplink sta ipv6Prefix ip).ipv6Prefix = ipv6Prefix ip from rfl,
    update_eq_self] at deleted

theorem LanInv.deleteIpv6PrefixFltRule (can : CanDelete (lan.pipe .v6) .ipv6Prefix) :
    LanInv config lan.deleteIpv6PrefixFltRule sta (update ipv6Prefix .v6 false) := by
  have deleted := inv.changePipe ((inv.pipe .v6).deleteIpv6Prefix can) (by simp)
    fun notThere => ⟨(inv.absent .v6 notThere).1, rfl⟩
  rwa [show (lan.uplink sta ipv6Prefix .v6).sta = sta .v6 from rfl,
    update_eq_self] at deleted

theorem LanInv.deleteWanUl (ip : IpaIpType) :
    LanInv config (lan.deleteWanUl config ip) sta ipv6Prefix ∧
      ((lan.deleteWanUl config ip).pipe ip).hdl .wanUl = [] := by
  rcases (inv.pipe ip).deleteWanUl with ⟨succeeded, pipe⟩
  have changed := inv.setPipe pipe inv.noPrefix'
    fun notThere => ⟨(inv.absent ip notThere).1, (inv.absent ip notThere).2.1, rfl⟩
  simp only [uplink, update_eq_self] at changed
  have result : lan.deleteWanUl config ip =
      { lan.setPipe ip (((lan.pipe ip).delete .wanUl
          ((lan.pipe ip).hdl .wanUl).length).2.forget .wanUl) with
        modemUlSet := update lan.modemUlSet ip false
        notices :=
          { ip, sent := fltIndexList config 0 [], positions := [] } :: lan.notices } := by
    unfold LanPipe.deleteWanUl
    rw [if_neg (Nat.not_lt.mpr (inv.pipe ip).bounded)]
    simp only [deleteRules, succeeded, if_true, pipe_setPipe, setPipe_setPipe]
    rfl
  rw [result]
  refine ⟨{ changed with told := fun notice isIn => ?_ }, ?_⟩
  · rcases mem_cons.mp isIn with rfl | isIn
    · intro entries isSent
      simp only [fltIndexList] at isSent
      split_ifs at isSent
      cases isSent
      rfl
    · exact inv.told notice isIn
  · simp [LanPipe.setPipe]

theorem LanInv.canDelete
    (can : CanDelete (lan.pipe .v6) .ipv6Prefix) (canSta : CanDelete (lan.pipe .v6) .sta) :
    CanDelete (lan.deleteIpv6PrefixFltRule.pipe .v6) .sta := by
  rcases canSta with installed | gone
  · have isOn := (inv.pipe .v6).isInstalled_sta.mp installed
    exact .inl (((inv.deleteIpv6PrefixFltRule can).pipe .v6).isInstalled_sta.mpr isOn)
  · right
    rw [show lan.deleteIpv6PrefixFltRule.pipe .v6 =
      ((lan.pipe .v6).delete .ipv6Prefix numIpv6PrefixFltRule).2 from pipe_setPipe _ _ _]
    exact gone.delete

end Uplink

section LinkDown

def Deletes (lan : LanPipe) (ip : IpaIpType) : Bool → Prop
  | true => CanDelete (lan.pipe ip) .sta ∧ (lan.pipe ip).hdl .wanUl = []
  | false => ¬ (lan.pipe ip).IsInstalled .sta

instance (lan : LanPipe) (ip : IpaIpType) : (isSta : Bool) → Decidable (lan.Deletes ip isSta)
  | true => inferInstanceAs (Decidable (_ ∧ _))
  | false => inferInstanceAs (Decidable (¬ _))

def StaticsOk (lan : LanPipe) (ip : IpaIpType) : Prop :=
  if lan.isWanUP ip then
    lan.Deletes ip lan.backhaulIsStaMode ∧ (ip = .v6 → CanDelete (lan.pipe ip) .ipv6Prefix)
  else
    ¬ (lan.pipe ip).IsInstalled .sta ∧ (lan.pipe ip).hdl .wanUl = [] ∧
      (ip = .v6 → ¬ (lan.pipe ip).IsInstalled .ipv6Prefix)

instance (lan : LanPipe) (ip : IpaIpType) : Decidable (lan.StaticsOk ip) :=
  inferInstanceAs (Decidable (ite _ _ _))

structure Cleared (config : LanFltConfig) (lan : LanPipe) (sta ipv6Prefix : IpaIpType → Bool)
    (ip : IpaIpType) : Prop where
  inv : lan.LanInv config sta ipv6Prefix
  sta : sta ip = false
  ipv6Prefix : ipv6Prefix ip = false
  wanUl : (lan.pipe ip).hdl .wanUl = []

section

variable (inv : lan.LanInv config sta ipv6Prefix)

include inv

theorem LanInv.sta_eq_false (notThere : ¬ (lan.pipe ip).IsInstalled .sta) : sta ip = false := by
  rw [(inv.pipe ip).isInstalled_sta] at notThere
  exact Bool.eq_false_iff.mpr notThere

theorem LanInv.ipv6Prefix_eq_false
    (notThere : ¬ (lan.pipe ip).IsInstalled .ipv6Prefix) : ipv6Prefix ip = false := by
  rw [(inv.pipe ip).isInstalled_ipv6Prefix] at notThere
  exact Bool.eq_false_iff.mpr notThere

variable {isSta : Bool}

theorem LanInv.deleteUplink (noPrefix : ipv6Prefix ip = false) (deletes : lan.Deletes ip isSta) :
    ∃ sta', Cleared config (lan.deleteUplink config ip isSta) sta' ipv6Prefix ip := by
  cases isSta with
  | true =>
      refine ⟨_, inv.deleteSta deletes.1, update_self _ _ _, noPrefix, ?_⟩
      rw [← deletes.2]
      simp [LanPipe.deleteUplink, deleteRules]
  | false =>
      rcases inv.deleteWanUl ip with ⟨deleted, none⟩
      exact ⟨_, deleted, inv.sta_eq_false deletes, noPrefix, none⟩

theorem LanInv.handleWanDownV6
    (can : CanDelete (lan.pipe .v6) .ipv6Prefix) (deletes : lan.Deletes .v6 isSta) :
    ∃ sta' ipv6Prefix',
      Cleared config (lan.handleWanDownV6 config isSta) sta' ipv6Prefix' .v6 := by
  have noPrefix := inv.deleteIpv6PrefixFltRule can
  have isOff := update_self IpaIpType.v6 false ipv6Prefix
  have hdl : (lan.deleteIpv6PrefixFltRule.pipe .v6).hdl = (lan.pipe .v6).hdl := by
    simp [LanPipe.deleteIpv6PrefixFltRule, deleteRules]
  have deletes' : lan.deleteIpv6PrefixFltRule.Deletes .v6 isSta := by
    cases isSta with
    | true => exact ⟨inv.canDelete can deletes.1, by rw [hdl, deletes.2]⟩
    | false =>
        intro installed
        rw [(noPrefix.pipe .v6).isInstalled_sta] at installed
        exact deletes ((inv.pipe .v6).isInstalled_sta.mpr installed)
  unfold LanPipe.handleWanDownV6
  simp only
  split_ifs with none
  · rw [none.1] at deletes'
    exact ⟨_, _, noPrefix, noPrefix.sta_eq_false deletes', isOff, none.2⟩
  · rcases noPrefix.deleteUplink isOff deletes' with ⟨sta', cleared⟩
    exact ⟨_, _, cleared⟩

end

structure OnlyPipe (ip : IpaIpType) (lan lan' : LanPipe) : Prop where
  pipe : ∀ other, other ≠ ip → lan'.pipe other = lan.pipe other
  ipType : lan'.ipType = lan.ipType
  softwareroutingAct : lan'.softwareroutingAct = lan.softwareroutingAct
  isWanUP : lan'.isWanUP = lan.isWanUP
  backhaulIsStaMode : lan'.backhaulIsStaMode = lan.backhaulIsStaMode

theorem OnlyPipe.refl (ip : IpaIpType) (lan : LanPipe) : OnlyPipe ip lan lan :=
  ⟨fun _ _ => rfl, rfl, rfl, rfl, rfl⟩

theorem OnlyPipe.trans {lan' lan'' : LanPipe} (first : OnlyPipe ip lan lan')
    (second : OnlyPipe ip lan' lan'') : OnlyPipe ip lan lan'' where
  pipe other differs := (second.pipe other differs).trans (first.pipe other differs)
  ipType := second.ipType.trans first.ipType
  softwareroutingAct := second.softwareroutingAct.trans first.softwareroutingAct
  isWanUP := second.isWanUP.trans first.isWanUP
  backhaulIsStaMode := second.backhaulIsStaMode.trans first.backhaulIsStaMode

theorem onlyPipe_setPipe (groups : RuleGroups FltGroup) :
    OnlyPipe ip lan (lan.setPipe ip groups) :=
  ⟨fun _ differs => update_of_ne differs _ _, rfl, rfl, rfl, rfl⟩

theorem onlyPipe_deleteUplink (isSta : Bool) :
    OnlyPipe ip lan (lan.deleteUplink config ip isSta) := by
  simp only [deleteUplink, deleteWanUl, deleteRules, setPipe_setPipe]
  split_ifs
  · exact onlyPipe_setPipe _
  · exact .refl _ _
  · exact ⟨fun _ differs => update_of_ne differs _ _, rfl, rfl, rfl, rfl⟩
  · exact onlyPipe_setPipe _

theorem onlyPipe_handleWanDownV6 (isSta : Bool) :
    OnlyPipe .v6 lan (lan.handleWanDownV6 config isSta) := by
  unfold handleWanDownV6
  simp only
  split_ifs
  · exact onlyPipe_setPipe _
  · exact (onlyPipe_setPipe _).trans (onlyPipe_deleteUplink isSta)

theorem Cleared.other {lan' : LanPipe} {sta' ipv6Prefix' : IpaIpType → Bool} {other : IpaIpType}
    (cleared : Cleared config lan sta ipv6Prefix ip) (only : OnlyPipe other lan lan')
    (differs : ip ≠ other) (inv : lan'.LanInv config sta' ipv6Prefix') :
    Cleared config lan' sta' ipv6Prefix' ip := by
  have pipe := only.pipe ip differs
  have kept := cleared.inv.pipe ip
  refine ⟨inv, ?_, ?_, ?_⟩
  · apply inv.sta_eq_false
    rw [pipe, kept.isInstalled_sta]
    exact Bool.eq_false_iff.mp cleared.sta
  · apply inv.ipv6Prefix_eq_false
    rw [pipe, kept.isInstalled_ipv6Prefix]
    exact Bool.eq_false_iff.mp cleared.ipv6Prefix
  · rw [pipe]
    exact cleared.wanUl

theorem StaticsOk.other {lan' : LanPipe} {other : IpaIpType} (staticsOk : lan.StaticsOk ip)
    (only : OnlyPipe other lan lan') (differs : ip ≠ other) : lan'.StaticsOk ip := by
  have deletes (isSta : Bool) : lan'.Deletes ip isSta ↔ lan.Deletes ip isSta := by
    cases isSta <;> simp [Deletes, only.pipe ip differs]
  unfold StaticsOk at staticsOk ⊢
  rwa [only.isWanUP, only.backhaulIsStaMode, deletes, only.pipe ip differs]

theorem LanInv.cleared (inv : lan.LanInv config sta ipv6Prefix) (staticsOk : lan.StaticsOk ip)
    (isDown : lan.isWanUP ip = false) : Cleared config lan sta ipv6Prefix ip := by
  simp only [StaticsOk, isDown, Bool.false_eq_true, if_false] at staticsOk
  refine ⟨inv, inv.sta_eq_false staticsOk.1, ?_, staticsOk.2.1⟩
  cases ip with
  | v4 => exact inv.noPrefix
  | v6 => exact inv.ipv6Prefix_eq_false (staticsOk.2.2 rfl)

theorem LanInv.deleteUplinks (inv : lan.LanInv config sta ipv6Prefix)
    (staticsOk : ∀ ip, lan.StaticsOk ip) :
    let lan4 := if lan.isWanUP .v4 then lan.handleWanDown config lan.backhaulIsStaMode else lan
    let lan6 :=
      if lan4.isWanUP .v6 then lan4.handleWanDownV6 config lan4.backhaulIsStaMode else lan4
    lan6.ipType = lan.ipType ∧ lan6.softwareroutingAct = lan.softwareroutingAct ∧
      ∃ sta' ipv6Prefix', ∀ ip, Cleared config lan6 sta' ipv6Prefix' ip := by
  intro lan4 lan6
  have only4 : OnlyPipe .v4 lan lan4 := by
    unfold lan4
    split_ifs
    · exact onlyPipe_deleteUplink _
    · exact .refl _ _
  have only6 : OnlyPipe .v6 lan4 lan6 := by
    unfold lan6
    split_ifs
    · exact onlyPipe_handleWanDownV6 _
    · exact .refl _ _
  have cleared4 : ∃ sta', Cleared config lan4 sta' ipv6Prefix .v4 := by
    unfold lan4
    split_ifs with isUp
    · have deletes := staticsOk .v4
      rw [StaticsOk, if_pos isUp] at deletes
      exact inv.deleteUplink inv.noPrefix deletes.1
    · exact ⟨_, inv.cleared (staticsOk .v4) (Bool.eq_false_iff.mpr isUp)⟩
  rcases cleared4 with ⟨sta4, cleared4⟩
  have staticsOk6 : lan4.StaticsOk .v6 := (staticsOk .v6).other only4 (by decide)
  have cleared6 : ∃ sta' ipv6Prefix', Cleared config lan6 sta' ipv6Prefix' .v6 := by
    unfold lan6
    split_ifs with isUp
    · rw [StaticsOk, if_pos isUp] at staticsOk6
      exact cleared4.inv.handleWanDownV6 (staticsOk6.2 rfl) staticsOk6.1
    · exact ⟨_, _, cleared4.inv.cleared staticsOk6 (Bool.eq_false_iff.mpr isUp)⟩
  rcases cleared6 with ⟨sta6, ipv6Prefix6, cleared6⟩
  refine ⟨only6.ipType.trans only4.ipType,
    only6.softwareroutingAct.trans only4.softwareroutingAct, sta6, ipv6Prefix6, fun ip => ?_⟩
  cases ip with
  | v4 => exact cleared4.other only6 (by decide) cleared6.inv
  | v6 => exact cleared6

def Removes (ip : IpaIpType) (action : LanPipe → Bool × LanPipe) (entry : FltGroup × ℕ) : Prop :=
  ∀ (lan : LanPipe) (rest : List (FltGroup × ℕ)), (lan.pipe ip).Books (entry :: rest) →
    ∃ groups, action lan = (true, lan.setPipe ip groups) ∧ groups.Books rest

theorem removes_deleteRules (ip : IpaIpType) (group : FltGroup) (num : ℕ) :
    Removes ip (deleteRules ip group num) (group, num) := by
  intro lan rest books
  rcases books.delete with ⟨succeeded, left⟩
  refine ⟨_, ?_, left⟩
  simp only [deleteRules, succeeded]

theorem removes_deleteLan2lan (ip : IpaIpType) :
    Removes ip (deleteLan2lan ip) (.lan2lan, maxOffloadPair) := by
  intro lan rest books
  rcases books.deleteSingly with ⟨succeeded, left⟩
  refine ⟨_, ?_, left⟩
  simp only [deleteLan2lan, succeeded]

theorem untilFail_removes {actions : List (LanPipe → Bool × LanPipe)}
    {entries rest : List (FltGroup × ℕ)} (removes : List.Forall₂ (Removes ip) actions entries)
    (books : (lan.pipe ip).Books (entries ++ rest)) :
    ∃ groups, untilFail actions lan = (true, lan.setPipe ip groups) ∧ groups.Books rest := by
  induction removes generalizing lan with
  | nil =>
      refine ⟨lan.pipe ip, ?_, books⟩
      simp [untilFail, setPipe]
  | cons first _ ih =>
      rcases first lan _ books with ⟨groups, done, left⟩
      rw [← pipe_setPipe lan ip groups] at left
      rcases ih left with ⟨groups', rest, left'⟩
      refine ⟨groups', ?_, left'⟩
      simp only [untilFail, done, if_true, rest, setPipe_setPipe]

theorem untilFail_append {actions actions' : List (LanPipe → Bool × LanPipe)} {lan' : LanPipe}
    (done : untilFail actions lan = (true, lan')) :
    untilFail (actions ++ actions') lan = untilFail actions' lan' := by
  induction actions generalizing lan with
  | nil =>
      cases done
      rfl
  | cons action rest ih =>
      simp only [untilFail] at done
      split_ifs at done with succeeded
      · simp only [cons_append, untilFail, succeeded, if_true]
        exact ih done
      · cases (Prod.mk.inj done).1

variable (config) in
theorem removes_defaultDeletions (ip : IpaIpType) :
    List.Forall₂ (Removes ip) (defaultDeletions config ip) (config.defaultGroups ip) := by
  have bridge (ip : IpaIpType) :
      List.Forall₂ (Removes ip) (bridgeDeletions config ip) config.bridgeGroups := by
    unfold bridgeDeletions bridgeGroups
    split_ifs
    · exact .cons (removes_deleteRules _ _ _) (.cons (removes_deleteRules _ _ _) .nil)
    · exact .cons (removes_deleteRules _ _ _) (.cons (removes_deleteLan2lan _) .nil)
    · exact .cons (removes_deleteLan2lan _) .nil
  cases ip with
  | v4 =>
      refine .cons (removes_deleteRules _ _ _) (.cons (removes_deleteRules _ _ _) ?_)
      exact rel_append (bridge .v4) (.cons (removes_deleteRules _ _ _) .nil)
  | v6 => exact .cons (removes_deleteRules _ _ _) (.cons (removes_deleteRules _ _ _) (bridge .v6))

theorem untilFail_both {actions4 actions6 : List (LanPipe → Bool × LanPipe)}
    {entries4 entries6 rest4 rest6 : List (FltGroup × ℕ)}
    (removes4 : List.Forall₂ (Removes .v4) actions4 entries4)
    (removes6 : List.Forall₂ (Removes .v6) actions6 entries6)
    (books4 : (lan.pipe .v4).Books (entries4 ++ rest4))
    (books6 : (lan.pipe .v6).Books (entries6 ++ rest6)) :
    ∃ groups4 groups6, untilFail (actions4 ++ actions6) lan =
        (true, (lan.setPipe .v4 groups4).setPipe .v6 groups6) ∧
      groups4.Books rest4 ∧ groups6.Books rest6 := by
  rcases untilFail_removes removes4 books4 with ⟨groups4, done4, left4⟩
  have others : (lan.setPipe .v4 groups4).pipe .v6 = lan.pipe .v6 :=
    pipe_setPipe_of_ne lan (by decide) groups4
  rw [← others] at books6
  rcases untilFail_removes removes6 books6 with ⟨groups6, done6, left6⟩
  exact ⟨groups4, groups6, (untilFail_append done4).trans done6, left4, left6⟩

def IsEmpty (lan : LanPipe) : Prop :=
  ∀ ip, (lan.pipe ip).kernel.rules = [] ∧ (lan.pipe ip).count = 0

theorem isEmpty_of_books {groups4 groups6 : RuleGroups FltGroup} (books4 : groups4.Books [])
    (books6 : groups6.Books []) : IsEmpty ((lan.setPipe .v4 groups4).setPipe .v6 groups6) := by
  intro ip
  cases ip with
  | v4 => exact books4.of_nil
  | v6 => exact books6.of_nil

theorem isEmpty_of_routing {lan : LanPipe} {on : Bool} (isOn : lan.softwareroutingAct = on)
    (books : ∀ ip, (lan.pipe ip).Books (routing on)) :
    let lan' := if true = true ∧ lan.softwareroutingAct = true then
      lan.handleSoftwareRoutingDisable else lan
    IsEmpty lan' ∧ lan'.notices = lan.notices := by
  cases on with
  | false =>
      rw [if_neg (by simp [isOn])]
      exact ⟨fun ip => (books ip).of_nil, rfl⟩
  | true =>
      have removes (ip : IpaIpType) : List.Forall₂ (Removes ip) [deleteRules ip .softwareRouting 1]
          [(.softwareRouting, 1)] :=
        .cons (removes_deleteRules _ _ _) .nil
      rcases untilFail_both (removes .v4) (removes .v6) (books .v4) (books .v6) with
        ⟨groups4, groups6, done, left4, left6⟩
      rw [if_pos ⟨rfl, isOn⟩, handleSoftwareRoutingDisable, if_neg (by simp [isOn])]
      rw [singleton_append] at done
      simp only [done, if_true]
      exact ⟨isEmpty_of_books left4 left6, rfl⟩

variable (config) in
theorem removes_fixed (hasSome : lan.ipType ≠ .null) :
    List.Forall₂ (Removes .v4)
        (if lan.ipType ≠ .v6 then defaultDeletions config .v4 else []) (lan.fixed config .v4) ∧
      List.Forall₂ (Removes .v6)
        (if lan.ipType ≠ .v4 then defaultDeletions config .v6 else []) (lan.fixed config .v6) := by
  have defaults (ip : IpaIpType) := removes_defaultDeletions config ip
  cases isType : lan.ipType <;> simp_all [fixed, hasIp]

theorem isEmpty_of_cleared (cleared : ∀ ip, Cleared config lan sta ipv6Prefix ip)
    (hasSome : lan.ipType ≠ .null) :
    let deleted := untilFail
      ((if lan.ipType ≠ .v6 then defaultDeletions config .v4 else []) ++
        (if lan.ipType ≠ .v4 then defaultDeletions config .v6 else [])) lan
    let lan' := if deleted.1 = true ∧ deleted.2.softwareroutingAct = true then
      deleted.2.handleSoftwareRoutingDisable else deleted.2
    IsEmpty lan' ∧ lan'.notices = lan.notices := by
  have books (ip : IpaIpType) :
      (lan.pipe ip).Books (lan.fixed config ip ++ routing lan.softwareroutingAct) := by
    have pipe := (cleared ip).inv.pipe ip
    rw [uplink, (cleared ip).sta, (cleared ip).ipv6Prefix] at pipe
    exact pipe.of_cleared (cleared ip).wanUl
  rcases removes_fixed config hasSome with ⟨removes4, removes6⟩
  rcases untilFail_both removes4 removes6 (books .v4) (books .v6) with
    ⟨groups4, groups6, done, left4, left6⟩
  intro deleted
  have isDeleted : deleted = (true, (lan.setPipe .v4 groups4).setPipe .v6 groups6) := done
  rw [isDeleted]
  apply isEmpty_of_routing rfl
  intro ip
  cases ip with
  | v4 => exact left4
  | v6 => exact left6

theorem LanInv.handleDownEvt (inv : lan.LanInv config sta ipv6Prefix)
    (noRouting : lan.ipType = .null → lan.softwareroutingAct = false)
    (staticsOk : lan.ipType ≠ .null → ∀ ip, lan.StaticsOk ip) :
    IsEmpty (lan.handleDownEvt config) ∧
      ∀ notice ∈ (lan.handleDownEvt config).notices, notice.Ok := by
  unfold LanPipe.handleDownEvt
  by_cases isNull : lan.ipType = .null
  · rw [if_pos isNull]
    refine ⟨fun ip => ?_, inv.told⟩
    have notThere : lan.hasIp ip = false := by cases ip <;> simp [hasIp, isNull]
    rcases inv.absent ip notThere with ⟨noSta, noPrefix, unset⟩
    have pipe := inv.pipe ip
    simp only [uplink, noSta, noPrefix, noRouting isNull, LanPipe.fixed, notThere,
      Bool.false_eq_true, if_false] at pipe
    exact (pipe.of_cleared (pipe.unset unset)).of_nil
  · rcases inv.deleteUplinks (staticsOk isNull) with ⟨isType, _, sta', ipv6Prefix', cleared⟩
    rw [if_neg isNull]
    rw [← isType] at isNull
    rcases isEmpty_of_cleared cleared isNull with ⟨isEmpty, notices⟩
    refine ⟨isEmpty, fun notice isIn => (cleared .v4).inv.told notice ?_⟩
    rw [← notices]
    exact isIn

end LinkDown

section SwRouting

variable (inv : lan.LanInv config sta ipv6Prefix)

include inv

theorem LanInv.handleSoftwareRoutingEnable :
    LanInv config (lan.handleSoftwareRoutingEnable source) sta ipv6Prefix := by
  unfold LanPipe.handleSoftwareRoutingEnable
  split_ifs with isOn
  · exact inv
  · have isOff (ip : IpaIpType) : (lan.uplink sta ipv6Prefix ip).softwareRouting = false :=
      Bool.eq_false_iff.mpr isOn
    have added (ip : IpaIpType) := (inv.pipe ip).addSoftwareRouting source (isOff ip)
    refine ⟨fun ip => ?_, inv.noPrefix, inv.absent, inv.addrs, inv.told, inv.isActive⟩
    cases ip with
    | v4 => exact added .v4
    | v6 => exact added .v6

theorem LanInv.handleSoftwareRoutingDisable :
    LanInv config lan.handleSoftwareRoutingDisable sta ipv6Prefix := by
  unfold LanPipe.handleSoftwareRoutingDisable
  split_ifs with isOff
  · exact inv
  · have isOn (ip : IpaIpType) : (lan.uplink sta ipv6Prefix ip).softwareRouting = true := by
      simpa [uplink] using isOff
    have deleted (ip : IpaIpType) := (inv.pipe ip).deleteSoftwareRouting (isOn ip)
    have others : (lan.setPipe .v4 ((lan.pipe .v4).delete .softwareRouting 1).2).pipe .v6 =
        lan.pipe .v6 :=
      pipe_setPipe_of_ne lan (by decide) _
    simp only [untilFail, deleteRules, (deleted .v4).1, if_true, others, (deleted .v6).1]
    refine ⟨fun ip => ?_, inv.noPrefix, inv.absent, inv.addrs, inv.told, inv.isActive⟩
    cases ip with
    | v4 => exact (deleted .v4).2
    | v6 => exact (deleted .v6).2

theorem LanInv.checkSwRouting :
    LanInv config (lan.checkSwRouting source) sta ipv6Prefix := by
  unfold LanPipe.checkSwRouting
  split_ifs
  · exact inv.handleSoftwareRoutingEnable source
  · exact inv

end SwRouting

section Addr

theorem hasIp_setIpType (notThere : lan.hasIp ip = false) (other : IpaIpType) :
    (lan.setIpType ip).hasIp other = (decide (other = ip) || lan.hasIp other) := by
  cases ip <;> cases other <;> cases isType : lan.ipType <;> simp_all [hasIp, setIpType]

theorem LanInv.setIpType (inv : lan.LanInv config sta ipv6Prefix)
    (notThere : lan.hasIp ip = false)
    (pipe : PipeInv groups (config.defaultGroups ip) (lan.uplink sta ipv6Prefix ip))
    {addrs : List (BitVec 128)} (isV6 : ip = .v6 ↔ addrs ≠ lan.ipv6Addr)
    (hasAddr : ip = .v6 → addrs ≠ []) :
    LanInv config { (lan.setIpType ip).setPipe ip groups with ipv6Addr := addrs } sta
      ipv6Prefix := by
  have hasIp := hasIp_setIpType notThere
  have fixed (other : IpaIpType) : LanPipe.fixed config
      { (lan.setIpType ip).setPipe ip groups with ipv6Addr := addrs } other =
      (lan.setIpType ip).fixed config other := rfl
  refine ⟨fun other => ?_, inv.noPrefix, fun other isAbsent => ?_, ?_, inv.told, inv.isActive⟩
  · rw [fixed, LanPipe.fixed, hasIp]
    change PipeInv (update lan.pipe ip groups other) _ (lan.uplink sta ipv6Prefix other)
    by_cases same : other = ip
    · subst same
      simpa using pipe
    · have kept := inv.pipe other
      rw [LanPipe.fixed] at kept
      simpa [same] using kept
  · apply inv.absent
    have isAbsent : (lan.setIpType ip).hasIp other = false := isAbsent
    rw [hasIp, Bool.or_eq_false_iff] at isAbsent
    exact isAbsent.2
  · change (lan.setIpType ip).hasIp .v6 = false ↔ addrs = []
    rw [hasIp]
    cases ip with
    | v4 =>
        have same : addrs = lan.ipv6Addr := by simpa using isV6
        simpa [same] using inv.addrs
    | v6 => simpa using hasAddr rfl

def Installed (ip : IpaIpType) (uplink : Uplink) (before lan : LanPipe)
    (fixed : List (FltGroup × ℕ)) : Prop :=
  ∃ groups, lan = before.setPipe ip groups ∧ PipeInv groups fixed uplink

namespace Installed

variable {before : LanPipe} {fixed : List (FltGroup × ℕ)} {uplink : Uplink}

theorem start (pipe : PipeInv (lan.pipe ip) fixed uplink) : Installed ip uplink lan lan fixed :=
  ⟨lan.pipe ip, by simp [setPipe], pipe⟩

theorem addRules (installed : Installed ip uplink before lan fixed) (atRear : Bool)
    (group : FltGroup) (num : ℕ) (notDynamic : ¬ group.IsDynamic)
    (isNew : group ∉ fixed.map Prod.fst) :
    Installed ip uplink before (lan.addRules source atRear ip group num)
      ((group, num) :: fixed) := by
  rcases installed with ⟨groups, rfl, pipe⟩
  refine ⟨_, ?_, pipe.addFixed source notDynamic isNew atRear⟩
  simp [addRules]

theorem setIpType (installed : Installed ip uplink before lan fixed) :
    Installed ip uplink (before.setIpType ip) (lan.setIpType ip) fixed := by
  rcases installed with ⟨groups, rfl, pipe⟩
  exact ⟨groups, rfl, pipe⟩

def numDefault (config : LanFltConfig) : IpaIpType → ℕ
  | .v4 => ipv4DefaultFiltertingRules
  | .v6 => config.ipv6DefaultFiltertingRules

variable (config) in
theorem initFlRule (installed : Installed ip uplink before lan fixed)
    (notThere : before.hasIp ip = false) (isNew : .dft ∉ fixed.map Prod.fst) :
    Installed ip uplink (before.setIpType ip) (lan.initFlRule config source ip)
      ((.dft, numDefault config ip) :: fixed) := by
  have still : lan.hasIp ip = false := by
    rcases installed with ⟨groups, rfl, _⟩
    exact notThere
  unfold LanPipe.initFlRule
  rw [if_neg (by simp [still])]
  cases ip with
  | v4 | v6 => exact installed.setIpType.addRules source _ _ _ (by decide) isNew

theorem of_perm (installed : Installed ip uplink before lan fixed)
    {fixed' : List (FltGroup × ℕ)} (perm : fixed.Perm fixed') :
    Installed ip uplink before lan fixed' := by
  rcases installed with ⟨groups, same, pipe⟩
  exact ⟨groups, same, pipe.of_perm perm⟩

end Installed

variable (inv : lan.LanInv config sta ipv6Prefix)

include inv

theorem LanInv.ipv4Rules (notThere : lan.hasIp .v4 = false) :
    Installed .v4 (lan.uplink sta ipv6Prefix .v4) (lan.setIpType .v4)
      (((lan.handleAddrEvtV4 config source).installIpv4IcmpFltRule
        source).handlePrivateSubnet config source .v4) (config.defaultGroups .v4) := by
  have pipe := inv.pipe .v4
  simp only [fixed, notThere, Bool.false_eq_true, if_false] at pipe
  have start := Installed.start pipe
  have finish {lan' : LanPipe} {fixed : List (FltGroup × ℕ)}
      (installed : Installed .v4 (lan.uplink sta ipv6Prefix .v4) (lan.setIpType .v4) lan' fixed)
      (perm : fixed.Perm ((.dft, ipv4DefaultFiltertingRules) :: config.bridgeGroups)) :
      Installed .v4 (lan.uplink sta ipv6Prefix .v4) (lan.setIpType .v4)
        ((lan'.installIpv4IcmpFltRule source).handlePrivateSubnet config source .v4)
        (config.defaultGroups .v4) := by
    have groups := installed.of_perm perm
    have noIcmp : FltGroup.icmp ∉
        ((.dft, ipv4DefaultFiltertingRules) :: config.bridgeGroups).map Prod.fst := by
      unfold bridgeGroups
      split_ifs <;> simp
    have noSubnet : FltGroup.privateSubnet ∉ ((.icmp, numIpv4IcmpFltRule) ::
        (.dft, ipv4DefaultFiltertingRules) :: config.bridgeGroups).map Prod.fst := by
      unfold bridgeGroups
      split_ifs <;> simp
    have icmp := groups.addRules source true .icmp numIpv4IcmpFltRule (by decide) noIcmp
    have subnet := icmp.addRules source true .privateSubnet config.privateSubnetRules (by decide)
      noSubnet
    exact subnet.of_perm (perm_append_singleton _ _).symm
  unfold handleAddrEvtV4
  split_ifs with ethBridge ctOpt
  · have dft := start.initFlRule config source notThere (by simp)
    have wlan := dft.addRules source true .wlanClient lanToLanMaxWlanClient (by decide) (by simp)
    have lan := wlan.addRules source true .lanClient lanToLanMaxCpeClient (by decide) (by simp)
    apply finish lan
    simp only [bridgeGroups, ethBridge, if_true]
    exact reverse_perm [_, _, _]
  · have tcpCtl := start.addRules source true .tcpCtl numTcpCtlFltRule (by decide) (by simp)
    have dft := tcpCtl.initFlRule config source notThere (by simp)
    have lan2lan := dft.addRules source true .lan2lan maxOffloadPair (by decide) (by simp)
    apply finish lan2lan
    simp only [bridgeGroups, ethBridge, ctOpt, if_true]
    exact (perm_append_singleton _ [_, _]).symm
  · have dft := start.initFlRule config source notThere (by simp)
    have lan2lan := dft.addRules source true .lan2lan maxOffloadPair (by decide) (by simp)
    apply finish lan2lan
    simp only [bridgeGroups, ethBridge, ctOpt, Bool.false_eq_true, if_false]
    exact reverse_perm [_, _]

theorem LanInv.ipv6Rules (notThere : lan.hasIp .v6 = false) (addr : BitVec 128) :
    ∃ lan' : LanPipe, lan.handleAddrEvtV6 config source addr =
        some { lan' with ipv6Addr := lan'.ipv6Addr ++ [addr] } ∧
      Installed .v6 (lan.uplink sta ipv6Prefix .v6) (lan.setIpType .v6)
        (lan'.installIpv6IcmpFltRule source) (config.defaultGroups .v6) := by
  have pipe := inv.pipe .v6
  simp only [fixed, notThere, Bool.false_eq_true, if_false] at pipe
  have start := Installed.start pipe
  have finish {lan' : LanPipe} {fixed : List (FltGroup × ℕ)}
      (installed : Installed .v6 (lan.uplink sta ipv6Prefix .v6) (lan.setIpType .v6) lan' fixed)
      (perm : fixed.Perm ((.dft, config.ipv6DefaultFiltertingRules) :: config.bridgeGroups)) :
      Installed .v6 (lan.uplink sta ipv6Prefix .v6) (lan.setIpType .v6)
        (lan'.installIpv6IcmpFltRule source) (config.defaultGroups .v6) := by
    have groups := installed.of_perm perm
    have noIcmp : FltGroup.icmp ∉
        ((.dft, config.ipv6DefaultFiltertingRules) :: config.bridgeGroups).map Prod.fst := by
      unfold bridgeGroups
      split_ifs <;> simp
    exact groups.addRules source true .icmp numIpv6IcmpFltRule (by decide) noIcmp
  have noAddr := inv.addrs.mp notThere
  unfold handleAddrEvtV6
  simp only [noAddr, not_mem_nil, if_false, length_nil, if_true]
  refine ⟨_, rfl, ?_⟩
  split_ifs with ethBridge ctOpt
  · have wlan := start.addRules source true .wlanClient lanToLanMaxWlanClient (by decide) (by simp)
    have lan := wlan.addRules source true .lanClient lanToLanMaxCpeClient (by decide) (by simp)
    apply finish (lan.initFlRule config source notThere (by simp))
    simp only [bridgeGroups, ethBridge, if_true]
    exact (List.Perm.swap _ _ _).cons _
  · have tcpCtl := start.addRules source true .tcpCtl numTcpCtlFltRule (by decide) (by simp)
    have lan2lan := tcpCtl.addRules source true .lan2lan maxOffloadPair (by decide) (by simp)
    apply finish (lan2lan.initFlRule config source notThere (by simp))
    simp only [bridgeGroups, ethBridge, ctOpt, if_true]
    exact (List.Perm.swap _ _ _).cons _
  · have lan2lan := start.addRules source true .lan2lan maxOffloadPair (by decide) (by simp)
    apply finish (lan2lan.initFlRule config source notThere (by simp))
    simp only [bridgeGroups, ethBridge, ctOpt, Bool.false_eq_true, if_false]
    exact .refl _

theorem LanInv.ipv4AddrAdd (addr : BitVec 32)
    (ext : List UplinkExtProp) :
    ∃ sta', LanInv config (lan.ipv4AddrAdd config source addr ext) sta' ipv6Prefix := by
  unfold LanPipe.ipv4AddrAdd
  split_ifs with isInvalid isNew
  · exact ⟨_, inv⟩
  · have notThere : lan.hasIp .v4 = false := by simp [hasIp, isNew]
    rcases inv.ipv4Rules source notThere with ⟨groups, installed, pipe⟩
    have added : LanInv config ((lan.setIpType .v4).setPipe .v4 groups) sta ipv6Prefix :=
      inv.setIpType notThere pipe (by simp [LanPipe.setIpType]) (by simp)
    have isThere : ((lan.setIpType .v4).setPipe .v4 groups).hasIp .v4 = true :=
      (hasIp_setIpType notThere .v4).trans (by simp)
    have isOff := (inv.absent .v4 notThere).1
    rw [installed]
    simp only
    split_ifs
    · rcases added.installUplink source isThere (fun _ => isOff) ext with ⟨sta', up⟩
      exact ⟨sta', up.checkSwRouting source⟩
    · exact ⟨sta, added.checkSwRouting source⟩
  · exact ⟨_, inv.checkSwRouting source⟩

theorem LanInv.ipv6First (notThere : lan.hasIp .v6 = false) (addr : BitVec 128) :
    ∃ lan', lan.handleAddrEvtV6 config source addr = some lan' ∧ lan'.ipv6Addr.length = 1 ∧
      (lan'.installIpv6IcmpFltRule source).hasIp .v6 = true ∧
      LanInv config (lan'.installIpv6IcmpFltRule source) sta ipv6Prefix := by
  rcases inv.ipv6Rules source notThere addr with ⟨lan', handled, groups, installed, pipe⟩
  have noAddr : lan'.ipv6Addr = [] := by
    calc lan'.ipv6Addr = (lan'.installIpv6IcmpFltRule source).ipv6Addr := rfl
      _ = lan.ipv6Addr := by rw [installed]; rfl
      _ = [] := inv.addrs.mp notThere
  rw [noAddr, nil_append] at handled
  have added : LanInv config
      { (lan.setIpType .v6).setPipe .v6 groups with ipv6Addr := [addr] } sta ipv6Prefix :=
    inv.setIpType notThere pipe (by simp [inv.addrs.mp notThere]) (by simp)
  have same : installIpv6IcmpFltRule source { lan' with ipv6Addr := [addr] } =
      { (lan.setIpType .v6).setPipe .v6 groups with ipv6Addr := [addr] } := by
    rw [← installed]
    rfl
  refine ⟨_, handled, rfl, ?_, ?_⟩
  · rw [same]
    exact (hasIp_setIpType notThere .v6).trans (by simp)
  · rw [same]
    exact added

theorem LanInv.ipv6Next (isThere : lan.hasIp .v6 = true) {addr : BitVec 128} {lan' : LanPipe}
    (handled : lan.handleAddrEvtV6 config source addr = some lan') :
    lan'.ipv6Addr.length ≠ 1 ∧ LanInv config lan' sta ipv6Prefix := by
  have hasAddr : lan.ipv6Addr ≠ [] := by
    intro noAddr
    simp [inv.addrs.mpr noAddr] at isThere
  have notFirst : lan.ipv6Addr.length ≠ 0 := by simpa using hasAddr
  by_cases listed : addr ∈ lan.ipv6Addr
  · simp [handleAddrEvtV6, listed] at handled
  simp only [handleAddrEvtV6, listed, if_false, notFirst] at handled
  cases handled
  refine ⟨?_, inv.pipe, inv.noPrefix, inv.absent, ?_, inv.told, inv.isActive⟩
  · have positive := length_pos_iff.mpr hasAddr
    rw [length_append, length_singleton]
    omega
  · change lan.hasIp .v6 = false ↔ _
    simp [isThere]

theorem LanInv.ipv6AddrAdd (addr : BitVec 128)
    (ext : List UplinkExtProp) :
    ∃ sta' ipv6Prefix', LanInv config (lan.ipv6AddrAdd config source addr ext) sta'
      ipv6Prefix' := by
  unfold LanPipe.ipv6AddrAdd
  by_cases isInvalid : addr = 0
  · rw [if_pos isInvalid]
    exact ⟨_, _, inv⟩
  rw [if_neg isInvalid]
  by_cases isNew : lan.ipType ≠ .v6 ∧ lan.ipType ≠ .max ∨
      lan.ipv6Addr.length ≠ maxDefaultV6RouteRules
  · rw [if_pos isNew]
    by_cases isThere : lan.hasIp .v6 = true
    · cases handled : lan.handleAddrEvtV6 config source addr with
      | none => exact ⟨_, _, inv⟩
      | some lan' =>
          rcases inv.ipv6Next source isThere handled with ⟨notFirst, added⟩
          simp only [notFirst, if_false, and_false]
          exact ⟨_, _, added.checkSwRouting source⟩
    · have notThere : lan.hasIp .v6 = false := Bool.eq_false_iff.mpr isThere
      rcases inv.ipv6First source notThere addr with ⟨lan', handled, isFirst, hasV6, added⟩
      rw [handled]
      simp only [isFirst, if_true, and_true]
      have isOff := inv.absent .v6 notThere
      split_ifs
      · have prefixed := added.installIpv6PrefixFltRule source hasV6 isOff.2.1
        have stillV6 : ((lan'.installIpv6IcmpFltRule source).installIpv6PrefixFltRule
            source).hasIp .v6 = true :=
          hasV6
        rcases prefixed.installUplink source stillV6 (fun _ => isOff.1) ext with ⟨sta', up⟩
        exact ⟨_, _, up.checkSwRouting source⟩
      · exact ⟨_, _, added.checkSwRouting source⟩
  · rw [if_neg isNew]
    exact ⟨_, _, inv.checkSwRouting source⟩

end Addr

section Run

section

variable (inv : lan.LanInv config sta ipv6Prefix)

include inv

variable {isSta : Bool}

theorem LanInv.wanUp (notYet : lan.hasIp ip = true →
      (isSta = true → ¬ (lan.pipe ip).IsInstalled .sta) ∧
        (ip = .v6 → ¬ (lan.pipe ip).IsInstalled .ipv6Prefix)) (ext : List UplinkExtProp) :
    ∃ sta' ipv6Prefix', LanInv config (lan.wanUp config source ip isSta ext) sta' ipv6Prefix' := by
  unfold LanPipe.wanUp
  by_cases isThere : lan.hasIp ip = true
  · rw [if_pos isThere]
    have notYet := notYet isThere
    have isOff : isSta = true → sta ip = false := fun inSta => inv.sta_eq_false (notYet.1 inSta)
    cases ip with
    | v4 =>
        rcases inv.installUplink source isThere isOff ext with ⟨sta', up⟩
        exact ⟨sta', _, up⟩
    | v6 =>
        have prefixed := inv.installIpv6PrefixFltRule source isThere
          (inv.ipv6Prefix_eq_false (notYet.2 rfl))
        have stillThere : (lan.installIpv6PrefixFltRule source).hasIp .v6 = true := isThere
        rcases prefixed.installUplink source stillThere isOff ext with ⟨sta', up⟩
        exact ⟨sta', _, up⟩
  · rw [if_neg isThere]
    exact ⟨_, _, inv⟩

theorem LanInv.deleteUplink_kept (can : isSta = true → CanDelete (lan.pipe ip) .sta) :
    ∃ sta', LanInv config (lan.deleteUplink config ip isSta) sta' ipv6Prefix := by
  cases isSta with
  | true => exact ⟨_, inv.deleteSta (can rfl)⟩
  | false => exact ⟨_, (inv.deleteWanUl ip).1⟩

theorem LanInv.wanDown (can : lan.hasIp ip = true → (isSta = true → CanDelete (lan.pipe ip) .sta) ∧
        (ip = .v6 → CanDelete (lan.pipe ip) .ipv6Prefix)) :
    ∃ sta' ipv6Prefix', LanInv config (lan.wanDown config ip isSta) sta' ipv6Prefix' := by
  unfold LanPipe.wanDown
  by_cases isThere : lan.hasIp ip = true
  · rw [if_pos isThere]
    have can := can isThere
    cases ip with
    | v4 =>
        rcases inv.deleteUplink_kept can.1 with ⟨sta', down⟩
        exact ⟨sta', _, down⟩
    | v6 =>
        have canPrefix := can.2 rfl
        have noPrefix := inv.deleteIpv6PrefixFltRule canPrefix
        have stillCan (inSta : isSta = true) := inv.canDelete canPrefix (can.1 inSta)
        rcases noPrefix.deleteUplink_kept stillCan with ⟨sta', down⟩
        rw [if_neg (by decide)]
        unfold LanPipe.handleWanDownV6
        simp only
        split_ifs
        · exact ⟨_, _, noPrefix⟩
        · exact ⟨_, _, down⟩
  · rw [if_neg isThere]
    exact ⟨_, _, inv⟩

end

/-- A WAN-up that adds a rule finds none, the deletion of a rule finds it or fails, and the link
goes down while the statics say what is installed. -/
def CanHandle (lan : LanPipe) : LanFltEvt → Prop
  | .wanUp ip isSta => lan.hasIp ip = true →
      (isSta = true → ¬ (lan.pipe ip).IsInstalled .sta) ∧
        (ip = .v6 → ¬ (lan.pipe ip).IsInstalled .ipv6Prefix)
  | .wanDown ip isSta => lan.hasIp ip = true →
      (isSta = true → CanDelete (lan.pipe ip) .sta) ∧
        (ip = .v6 → CanDelete (lan.pipe ip) .ipv6Prefix)
  | .linkDown =>
      if lan.ipType = .null then lan.softwareroutingAct = false
      else lan.StaticsOk .v4 ∧ lan.StaticsOk .v6
  | _ => True

instance (lan : LanPipe) : (evt : LanFltEvt) → Decidable (lan.CanHandle evt)
  | .wanUp _ _ => inferInstanceAs (Decidable (_ → _))
  | .wanDown _ _ => inferInstanceAs (Decidable (_ → _))
  | .linkDown => inferInstanceAs (Decidable (ite _ _ _))
  | .ipv4AddrAdd _ => .isTrue trivial
  | .ipv6AddrAdd _ => .isTrue trivial
  | .swRouting _ => .isTrue trivial

def CanAct (lan : LanPipe) : Act → Prop
  | .posted _ => True
  | .handled _ =>
      match lan.queue with
      | [] => True
      | evt :: _ => lan.isActive = true → lan.CanHandle evt

instance (lan : LanPipe) : (act : Act) → Decidable (lan.CanAct act)
  | .posted _ => .isTrue trivial
  | .handled _ =>
      decidable_of_iff (∀ evt ∈ lan.queue.head?, lan.isActive = true → lan.CanHandle evt) (by
        cases queued : lan.queue <;> simp [CanAct, queued])

inductive PipeKept (config : LanFltConfig) (lan : LanPipe) : Prop where
  | isOpen (sta ipv6Prefix : IpaIpType → Bool) (inv : lan.LanInv config sta ipv6Prefix)
  | isClosed (notActive : lan.isActive = false) (isEmpty : lan.IsEmpty)
      (told : ∀ notice ∈ lan.notices, notice.Ok)

/-- The count is that of the rules, the indices that were sent are the positions of the rules, and
nothing is left once the link is down. -/
structure PipeOk (lan : LanPipe) : Prop where
  count : ∀ ip, (lan.pipe ip).count = (lan.pipe ip).kernel.rules.length
  told : ∀ notice ∈ lan.notices, notice.Ok
  closed : lan.isActive = false → lan.IsEmpty

theorem PipeKept.ok (kept : lan.PipeKept config) : lan.PipeOk := by
  rcases kept with ⟨_, _, inv⟩ | ⟨_, isEmpty, told⟩
  · exact ⟨fun ip => (inv.pipe ip).books.count, inv.told, by simp [inv.isActive]⟩
  · refine ⟨fun ip => ?_, told, fun _ => isEmpty⟩
    rw [(isEmpty ip).1, (isEmpty ip).2]
    rfl

theorem not_isActive_handleDownEvt (lan : LanPipe) : (lan.handleDownEvt config).isActive =
    false := by
  unfold handleDownEvt
  by_cases isNull : lan.ipType = .null
  · rw [if_pos isNull]
  · rw [if_neg isNull]

section

variable (inv : lan.LanInv config sta ipv6Prefix)

include inv

theorem LanInv.eventCallback {evt : LanFltEvt}
    (can : lan.CanHandle evt) (ext : List UplinkExtProp) :
    PipeKept config (lan.eventCallback config source ext evt) := by
  unfold LanPipe.eventCallback
  rw [if_neg (by simp [inv.isActive])]
  cases evt with
  | ipv4AddrAdd addr =>
      rcases inv.ipv4AddrAdd source addr ext with ⟨_, added⟩
      exact .isOpen _ _ added
  | ipv6AddrAdd addr =>
      rcases inv.ipv6AddrAdd source addr ext with ⟨_, _, added⟩
      exact .isOpen _ _ added
  | wanUp ip isSta =>
      rcases inv.wanUp source can ext with ⟨_, _, up⟩
      exact .isOpen _ _ up
  | wanDown ip isSta =>
      rcases inv.wanDown can with ⟨_, _, down⟩
      exact .isOpen _ _ down
  | swRouting enable =>
      cases enable with
      | true => exact .isOpen _ _ (inv.handleSoftwareRoutingEnable source)
      | false => exact .isOpen _ _ inv.handleSoftwareRoutingDisable
  | linkDown =>
      simp only [CanHandle] at can
      have noRouting : lan.ipType = .null → lan.softwareroutingAct = false := by
        intro isNull
        rwa [if_pos isNull] at can
      have staticsOk : lan.ipType ≠ .null → ∀ ip, lan.StaticsOk ip := by
        intro isSome ip
        rw [if_neg isSome] at can
        cases ip with
        | v4 => exact can.1
        | v6 => exact can.2
      rcases inv.handleDownEvt noRouting staticsOk with ⟨isEmpty, told⟩
      exact .isClosed (not_isActive_handleDownEvt lan) isEmpty told

theorem LanInv.setStatics (evt : LanFltEvt) :
    LanInv config (lan.setStatics evt) sta ipv6Prefix := by
  cases evt <;>
    exact ⟨inv.pipe, inv.noPrefix, inv.absent, inv.addrs, inv.told, inv.isActive⟩

theorem LanInv.setQueue (queue : List LanFltEvt) :
    LanInv config { lan with queue } sta ipv6Prefix :=
  ⟨inv.pipe, inv.noPrefix, inv.absent, inv.addrs, inv.told, inv.isActive⟩

end

theorem PipeKept.act (kept : lan.PipeKept config) {act : Act} (can : lan.CanAct act)
    {lan' : LanPipe} (acted : lan.act config source act = some lan') : lan'.PipeKept config := by
  cases act with
  | posted evt =>
      cases acted
      rcases kept with ⟨_, _, inv⟩ | ⟨notActive, isEmpty, told⟩
      · exact .isOpen _ _ ((inv.setStatics evt).setQueue _)
      · cases evt <;> exact .isClosed notActive isEmpty told
  | handled ext =>
      simp only [LanPipe.act] at acted
      cases queued : lan.queue with
      | nil => simp [queued] at acted
      | cons evt rest =>
          simp only [queued] at acted
          cases acted
          simp only [CanAct, queued] at can
          rcases kept with ⟨_, _, inv⟩ | ⟨notActive, isEmpty, told⟩
          · have canHandle : CanHandle { lan with queue := rest } evt := can inv.isActive
            exact (inv.setQueue rest).eventCallback source canHandle ext
          · unfold eventCallback
            rw [if_pos notActive]
            exact .isClosed notActive isEmpty told

/-- An interface that has just come up, on a pipe without rules. The statics, the queue and
`lan_wan_fl_rule_hdl` may be anything. -/
structure IsInit (lan : LanPipe) : Prop where
  kernel : ∀ ip, (lan.pipe ip).kernel.rules = []
  count : ∀ ip, (lan.pipe ip).count = 0
  sta : ∀ ip, ((lan.pipe ip).hdl .sta).length = 1
  ipv6Prefix : ∀ ip, ((lan.pipe ip).hdl .ipv6Prefix).length = 1
  wanUl : ∀ ip, (lan.pipe ip).hdl .wanUl = []
  ipType : lan.ipType = .null
  ipv6Addr : lan.ipv6Addr = []
  modemUlSet : ∀ ip, lan.modemUlSet ip = false
  softwareroutingAct : lan.softwareroutingAct = false
  isActive : lan.isActive = true
  notices : lan.notices = []

theorem IsInit.inv (isInit : lan.IsInit) :
    lan.LanInv config (fun _ => false) (fun _ => false) := by
  have notThere (ip : IpaIpType) : lan.hasIp ip = false := by
    cases ip <;> simp [hasIp, isInit.ipType]
  refine ⟨fun ip => ?_, rfl, fun ip _ => ⟨rfl, rfl, isInit.modemUlSet ip⟩, ?_, ?_,
    isInit.isActive⟩
  · have books : (lan.pipe ip).Books [] :=
      ⟨by simp [isInit.kernel ip, isInit.count ip], by simp, by simp, by simp [isInit.kernel ip]⟩
    have booked := books.consZero (by simp) (isInit.wanUl ip)
    refine ⟨?_, ?_, isInit.sta ip, isInit.ipv6Prefix ip, fun _ => isInit.wanUl ip, ?_⟩
    · simpa [uplink, Uplink.book, isInit.softwareroutingAct, fixed, notThere,
        isInit.wanUl ip] using booked
    · simp [fixed, notThere]
    · simp [isInit.wanUl ip]
  · simp [notThere, isInit.ipv6Addr]
  · simp [isInit.notices]

variable (config) in
/-- The count, the indices and the deletion of the rules in every run whose events can be handled.
-/
theorem reachable_pipeOk
    (reached : Run.Reachable IsInit
      (Run.Guarded CanAct fun lan act lan' => lan.act config source act = some lan') lan) :
    lan.PipeOk := by
  have kept := reached.invariant (PipeKept config)
    (fun _ isInit => .isOpen _ _ isInit.inv)
    (fun _ _ _ kept stepped => kept.act source stepped.1 stepped.2)
  exact kept.ok

def oneSubnet : LanFltConfig where
  ctOpt := false
  ipaNumPrivateSubnet := 1
  bounded := WlanAps.oneSubnet.bounded
  featureIpaAndroid := false
  featureIpaV3 := false
  featureEthBridgeLe := false

def comeUp : LanPipe where
  pipe _ := ⟨.empty, fun group => if group = .wanUl then [] else [0], 0⟩
  ipType := .null
  ipv6Addr := []
  modemUlSet _ := false
  softwareroutingAct := false
  isActive := true
  isWanUP _ := false
  backhaulIsStaMode := false
  ipaSwRtEnable := false
  queue := []
  notices := []

theorem comeUp_isInit : comeUp.IsInit :=
  ⟨fun _ => rfl, fun _ => rfl, fun _ => rfl, fun _ => rfl, fun _ => rfl, rfl, rfl, fun _ => rfl,
    rfl, rfl, rfl⟩

def oneByOne (evts : List LanFltEvt) : List Act :=
  evts.flatMap fun evt => [.posted evt, .handled [⟨11, 1⟩]]

def upAndDown : Option LanPipe :=
  Run.runGuarded CanAct (fun lan act => lan.act oneSubnet .counting act) comeUp
    (oneByOne [.ipv4AddrAdd 5, .wanUp .v4 false, .ipv6AddrAdd 7, .swRouting true,
      .wanUp .v6 false, .linkDown])

theorem upAndDown_isSome : upAndDown.isSome = true := by decide +kernel

theorem reachable_pipeOk_upAndDown :
    ∃ lan : LanPipe, lan.isActive = false ∧ lan.notices.length = 4 ∧ lan.PipeOk := by
  refine ⟨upAndDown.get upAndDown_isSome, by decide +kernel, by decide +kernel, ?_⟩
  exact reachable_pipeOk oneSubnet .counting (Run.Reachable.runGuarded _ (.start comeUp_isInit)
    (Option.some_get upAndDown_isSome).symm)

def routingFirst : Option LanPipe :=
  Run.runAll (fun lan act => lan.act oneSubnet .counting act) comeUp
    (oneByOne [.swRouting true, .linkDown])

theorem routingFirst_isSome : routingFirst.isSome = true := by decide +kernel

/-- The rules for software routing are left when the link goes down without an address. -/
theorem reachable_not_pipeOk :
    ∃ lan : LanPipe,
      Run.Reachable IsInit
        (fun lan act lan' => lan.act oneSubnet .counting act = some lan') lan ∧
      lan.isActive = false ∧ (lan.pipe .v4).kernel.rules.length = 1 ∧
      (lan.pipe .v6).count = 1 ∧ ¬ lan.PipeOk := by
  refine ⟨routingFirst.get routingFirst_isSome, ?_, by decide +kernel, by decide +kernel,
    by decide +kernel, ?_⟩
  · exact Run.Reachable.runAll _ (.start comeUp_isInit) (Option.some_get routingFirst_isSome).symm
  · intro ok
    have isEmpty := ok.closed (by decide +kernel) .v4
    have none := isEmpty.2
    revert none
    decide +kernel

end Run

end LanPipe

end HtcPme.Ipacm
