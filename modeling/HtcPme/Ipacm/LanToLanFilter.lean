import HtcPme.Ipacm.LanToLanRun

/-!
# Filtering rules of the offload links

Each direction of a link has a filtering rule on the interface of its client, and the link records
the rule's handle.
-/

namespace HtcPme.Ipacm

open Function (update update_of_ne update_self update_eq_self)

open Adjacency OffloadLinkInfo List

variable {κ ι μ : Type}

/-- A rule that is deleted is the one of the link it is deleted for, and a rule that is
installed takes over from no rule of the same link. -/
def FltCall.Sound : FltCall κ → Prop
  | .delete client peer found => found = some (client, peer)
  | .install client peer stored => stored ≠ some (client, peer)

namespace LanToLan

def RuleInstalled (app : LanToLan κ ι μ) (client : κ) (link : OffloadLinkInfo κ) : Prop :=
  ∃ iface, app.pIface client = some iface ∧
    ⟨link.fltRuleHdl, some (client, link.peerPointer)⟩ ∈ (app.lan iface).lan2lanFltRuleHdl

/-- The rules in place are those of the links that are on, each recorded in its link, and the calls
so far were sound. -/
structure FltOk (on : κ → κ → Prop) (links : κ → List (OffloadLinkInfo κ)) (app : LanToLan κ ι μ) :
    Prop where
  distinct : ∀ iface, (app.lan iface).Distinct
  installed : ∀ client, ∀ link ∈ links client,
    (RuleInstalled app client link ↔ on client link.peerPointer)
  recorded : ∀ iface, ∀ slot ∈ (app.lan iface).lan2lanFltRuleHdl, ∀ client peer,
    slot.rule = some (client, peer) → app.pIface client = some iface ∧
      ∃ link ∈ links client, link.peerPointer = peer ∧ link.fltRuleHdl = slot.ruleHdl
  sound : ∀ call ∈ app.fltCalls, call.Sound

section FltOk

variable {on on' : κ → κ → Prop} {links links' : κ → List (OffloadLinkInfo κ)}
  {app next : LanToLan κ ι μ} {a b : κ}

section

variable (fltOk : FltOk on links app)

include fltOk

theorem FltOk.congr (sameLan : next.lan = app.lan)
    (sameCalls : next.fltCalls = app.fltCalls)
    (sameIface : ∀ client, links client ≠ [] → next.pIface client = app.pIface client) :
    FltOk on links next := by
  constructor
  · rw [sameLan]
    exact fltOk.distinct
  · intro client link mem
    rw [← fltOk.installed client link mem]
    simp only [RuleInstalled, sameLan, sameIface client (ne_nil_of_mem mem)]
  · intro iface slot mem client peer ruleEq
    rw [sameLan] at mem
    rcases fltOk.recorded iface slot mem client peer ruleEq with ⟨onIface, link, linkMem, named⟩
    rw [sameIface client (ne_nil_of_mem linkMem)]
    exact ⟨onIface, link, linkMem, named⟩
  · rw [sameCalls]
    exact fltOk.sound

theorem FltOk.congr_on (same : ∀ client, ∀ link ∈ links client, (on' client link.peerPointer ↔
      on client link.peerPointer)) : FltOk on' links app := by
  constructor
  · exact fltOk.distinct
  · intro client link mem
    rw [same client link mem]
    exact fltOk.installed client link mem
  · exact fltOk.recorded
  · exact fltOk.sound

theorem FltOk.on_of_rule {iface : ι} {hdl : ℕ}
    (mem : ⟨hdl, some (a, b)⟩ ∈ (app.lan iface).lan2lanFltRuleHdl) : on a b := by
  rcases fltOk.recorded iface _ mem a b rfl with ⟨onIface, link, linkMem, named, sameHdl⟩
  rw [← named, ← fltOk.installed a link linkMem]
  refine ⟨iface, onIface, ?_⟩
  rw [sameHdl, named]
  exact mem

end

variable [DecidableEq ι]

variable {link : OffloadLinkInfo κ}

variable {reset : Bool}

theorem FltOk.delete (fltOk : FltOk on links app) (mem : link ∈ links a)
    (nodup : ((links a).map peerPointer).Nodup) (isOn : on a link.peerPointer)
    (done : (app.delLan2lanFltRule reset a link.peerPointer link.fltRuleHdl).1 = true) :
    FltOk (fun x y => on x y ∧ ¬ (x = a ∧ y = link.peerPointer)) links
      (app.delLan2lanFltRule reset a link.peerPointer link.fltRuleHdl).2 := by
  rcases (fltOk.installed a link mem).mpr isOn with ⟨iface, onIface, inPlace⟩
  rcases app.delLan2lanFltRule_cases a link.peerPointer reset link.fltRuleHdl with
    ⟨iface', found, flt, onIface', deleted, result⟩ | result
  · have sameIface : iface' = iface := by
      rw [onIface] at onIface'
      exact (Option.some.inj onIface').symm
    subst sameIface
    have distinct := fltOk.distinct iface'
    rcases LanFlt.delLan2lanFltRule_mem distinct deleted with ⟨foundMem, slots⟩
    have foundEq : found = some (a, link.peerPointer) :=
      congrArg Lan2lanFltRuleHdl.rule (eq_of_key_eq distinct foundMem inPlace rfl)
    -- the other slots are as before, and that of the link holds the dummy rule
    have sameSlots : ∀ other hdl pair, ⟨hdl, some pair⟩ ∈
          ((update app.lan iface' flt) other).lan2lanFltRuleHdl ↔
        ⟨hdl, some pair⟩ ∈ (app.lan other).lan2lanFltRuleHdl ∧ pair ≠ (a, link.peerPointer) := by
      intro other hdl pair
      by_cases same : other = iface'
      · subst same
        rw [update_self, slots]
        simp only [Lan2lanFltRuleHdl.mk.injEq, reduceCtorEq, and_false, or_false]
        apply and_congr_right
        intro slotMem
        constructor
        · rintro otherHdl rfl
          apply otherHdl
          rcases fltOk.recorded other _ slotMem a link.peerPointer rfl with
            ⟨_, recorder, recorderMem, named, sameHdl⟩
          rw [← eq_of_key_eq nodup recorderMem mem named]
          exact sameHdl.symm
        · rintro otherPair rfl
          have slotEq := eq_of_key_eq distinct slotMem inPlace rfl
          simp only [Lan2lanFltRuleHdl.mk.injEq, Option.some.injEq, true_and] at slotEq
          exact otherPair slotEq
      · rw [update_of_ne same]
        constructor
        · intro slotMem
          refine ⟨slotMem, ?_⟩
          rintro rfl
          have elsewhere := (fltOk.recorded other _ slotMem a link.peerPointer rfl).1
          rw [onIface'] at elsewhere
          exact same (Option.some.inj elsewhere).symm
        · exact fun both => both.1
    rw [result]
    constructor
    · intro other
      by_cases same : other = iface'
      · subst same
        simp only [update_self]
        exact distinct.of_handles (LanFlt.delLan2lanFltRule_handles deleted)
      · simp only [update_of_ne same]
        exact fltOk.distinct other
    · intro client other otherMem
      rw [← fltOk.installed client other otherMem]
      simp only [RuleInstalled, sameSlots, ne_eq, Prod.mk.injEq]
      constructor
      · rintro ⟨at', atIface, slotMem, differs⟩
        exact ⟨⟨at', atIface, slotMem⟩, differs⟩
      · rintro ⟨⟨at', atIface, slotMem⟩, differs⟩
        exact ⟨at', atIface, slotMem, differs⟩
    · intro other slot slotMem client peer ruleEq
      have slotEq : slot = ⟨slot.ruleHdl, some (client, peer)⟩ := by
        rw [← ruleEq]
      rw [slotEq] at slotMem
      exact fltOk.recorded other _ ((sameSlots _ _ _).mp slotMem).1 client peer rfl
    · intro call callMem
      rcases mem_append.mp callMem with earlier | last
      · exact fltOk.sound call earlier
      · rw [mem_singleton.mp last]
        exact foundEq
  · rw [result] at done
    cases done

variable {mdfy : Bool} {stored : Option ℕ}

theorem FltOk.install (fltOk : FltOk on links app) {hdl : ℕ}
    (isOff : ¬ ∃ iface hdl, ⟨hdl, some (a, b)⟩ ∈ (app.lan iface).lan2lanFltRuleHdl)
    (added : app.addLan2lanFltRule mdfy a b stored = some (hdl, next))
    (others : ∀ client link, (client, link.peerPointer) ≠ (a, b) →
      (link ∈ links' client ↔ link ∈ links client))
    (newLink : ∃ link ∈ links' a, link.peerPointer = b ∧ link.fltRuleHdl = hdl)
    (onlyNew : ∀ link ∈ links' a, link.peerPointer = b → link.fltRuleHdl = hdl) :
    FltOk (fun x y => on x y ∨ (x = a ∧ y = b)) links' next := by
  rcases addLan2lanFltRule_eq_some added with ⟨iface, flt, onIface, isAdded, rfl⟩
  have distinct := fltOk.distinct iface
  rcases LanFlt.addLan2lanFltRule_mem distinct isAdded with ⟨dummyMem, slots⟩
  have sameSlots : ∀ other hdl' pair, pair ≠ (a, b) →
      (⟨hdl', some pair⟩ ∈ ((update app.lan iface flt) other).lan2lanFltRuleHdl ↔
        ⟨hdl', some pair⟩ ∈ (app.lan other).lan2lanFltRuleHdl) := by
    intro other hdl' pair differs
    by_cases same : other = iface
    · subst same
      rw [update_self, slots]
      simp only [Lan2lanFltRuleHdl.mk.injEq, Option.some.injEq, differs, and_false, or_false]
      refine and_iff_left_of_imp fun slotMem => ?_
      rintro rfl
      have slotEq := eq_of_key_eq distinct slotMem dummyMem rfl
      simp at slotEq
    · rw [update_of_ne same]
  have newSlot : ∀ other hdl', ⟨hdl', some (a, b)⟩ ∈
        ((update app.lan iface flt) other).lan2lanFltRuleHdl ↔
      other = iface ∧ hdl' = hdl := by
    intro other hdl'
    by_cases same : other = iface
    · subst same
      rw [update_self, slots]
      simp only [Lan2lanFltRuleHdl.mk.injEq, and_true, true_and]
      refine or_iff_right ?_
      rintro ⟨slotMem, _⟩
      exact isOff ⟨other, hdl', slotMem⟩
    · rw [update_of_ne same]
      simp only [same, false_and, iff_false]
      exact fun slotMem => isOff ⟨other, hdl', slotMem⟩
  constructor
  · intro other
    by_cases same : other = iface
    · subst same
      simp only [update_self]
      exact distinct.of_handles (LanFlt.addLan2lanFltRule_handles isAdded)
    · simp only [update_of_ne same]
      exact fltOk.distinct other
  · intro client link mem
    by_cases isPair : (client, link.peerPointer) = (a, b)
    · simp only [Prod.mk.injEq] at isPair
      rcases isPair with ⟨rfl, named⟩
      simp only [named, and_self, or_true, iff_true]
      refine ⟨iface, onIface, ?_⟩
      rw [named]
      exact (newSlot iface _).mpr ⟨rfl, onlyNew link mem named⟩
    · have oldMem := (others client link isPair).mp mem
      have notPair : ¬ (client = a ∧ link.peerPointer = b) := by simpa using isPair
      rw [or_iff_left notPair, ← fltOk.installed client link oldMem]
      exact exists_congr fun other => and_congr_right fun _ => sameSlots other _ _ isPair
  · intro other slot slotMem client peer ruleEq
    have slotEq : slot = ⟨slot.ruleHdl, some (client, peer)⟩ := by
      rw [← ruleEq]
    rw [slotEq] at slotMem
    by_cases isPair : (client, peer) = (a, b)
    · simp only [Prod.mk.injEq] at isPair
      rcases isPair with ⟨rfl, rfl⟩
      rcases (newSlot other _).mp slotMem with ⟨rfl, sameHdl⟩
      rw [sameHdl]
      exact ⟨onIface, newLink⟩
    · rcases fltOk.recorded other _ ((sameSlots other _ _ isPair).mp slotMem) client peer rfl with
        ⟨atIface, link, linkMem, named, recordsHdl⟩
      exact ⟨atIface, link, (others client link (named ▸ isPair)).mpr linkMem, named, recordsHdl⟩
  · intro call callMem
    rcases mem_append.mp callMem with earlier | last
    · exact fltOk.sound call earlier
    · rw [mem_singleton.mp last]
      intro overwritten
      rcases Option.bind_eq_some_iff.mp overwritten with ⟨storedHdl, _, inPlace⟩
      exact isOff ⟨iface, storedHdl, LanFlt.mem_of_ruleAt inPlace⟩

variable [DecidableEq κ]

variable (fltOk : FltOk on links app)

include fltOk

omit [DecidableEq ι] in
theorem FltOk.removeLink (nodup : ((links a).map peerPointer).Nodup) (isOff : ¬ on a b) :
    FltOk on (update links a ((links a).eraseP (·.peerPointer = b))) app := by
  have subset : ∀ client link,
      link ∈ update links a ((links a).eraseP (·.peerPointer = b)) client →
        link ∈ links client := by
    intro client link mem
    by_cases same : client = a
    · subst same
      rw [update_self] at mem
      exact ((mem_eraseP nodup).mp mem).1
    · rwa [update_of_ne same] at mem
  constructor
  · exact fltOk.distinct
  · exact fun client link mem => fltOk.installed client link (subset client link mem)
  · intro iface slot mem client peer ruleEq
    rcases fltOk.recorded iface slot mem client peer ruleEq with ⟨onIface, link, linkMem, named⟩
    refine ⟨onIface, link, ?_, named⟩
    by_cases same : client = a
    · subst same
      rw [update_self, mem_eraseP nodup]
      refine ⟨linkMem, ?_⟩
      rw [named.1]
      rintro rfl
      have slotEq : slot = ⟨slot.ruleHdl, some (client, peer)⟩ := by
        rw [← ruleEq]
      rw [slotEq] at mem
      exact isOff (fltOk.on_of_rule mem)
    · rwa [update_of_ne same]
  · exact fltOk.sound

theorem FltOk.deleteLink (mem : link ∈ links a) (nodup : ((links a).map peerPointer).Nodup)
    (named : link.peerPointer = b) (isOn : on a b)
    (done : (app.delLan2lanFltRule reset a link.peerPointer link.fltRuleHdl).1 = true) :
    FltOk on (update links a ((links a).eraseP (·.peerPointer = b)))
      (app.delLan2lanFltRule reset a link.peerPointer link.fltRuleHdl).2 := by
  subst named
  apply ((fltOk.delete mem nodup isOn done).removeLink nodup fun isOff =>
    isOff.2 ⟨rfl, rfl⟩).congr_on
  intro client other otherMem
  refine (and_iff_left_of_imp fun _ => ?_).symm
  rintro ⟨rfl, sameKey⟩
  rw [update_self] at otherMem
  exact ((mem_eraseP nodup).mp otherMem).2 sameKey

theorem FltOk.pushLink
    (added : app.addLan2lanFltRule mdfy a b stored = some (link.fltRuleHdl, next))
    (named : link.peerPointer = b) (isOn : on a b) (notLinked : ¬ Adjacent peerPointer links a b) :
    FltOk on (update links a (links a ++ [link])) next := by
  have isOff : ¬ ∃ iface hdl, ⟨hdl, some (a, b)⟩ ∈ (app.lan iface).lan2lanFltRuleHdl := by
    rintro ⟨iface, hdl, mem⟩
    rcases (fltOk.recorded iface _ mem a b rfl).2 with ⟨old, oldMem, oldNamed, _⟩
    exact notLinked ⟨old, oldMem, oldNamed⟩
  have installed : FltOk (fun x y => on x y ∨ (x = a ∧ y = b))
      (update links a (links a ++ [link])) next := by
    apply fltOk.install isOff added
    · intro client other differs
      by_cases same : client = a
      · subst same
        rw [update_self, mem_append, mem_singleton]
        refine or_iff_left ?_
        rintro rfl
        exact differs (by rw [named])
      · rw [update_of_ne same]
    · exact ⟨link, by simp, named, rfl⟩
    · intro other otherMem otherNamed
      rw [update_self, mem_append, mem_singleton] at otherMem
      rcases otherMem with old | rfl
      · exact absurd ⟨other, old, otherNamed⟩ notLinked
      · rfl
  apply installed.congr_on
  intro client other _
  refine (or_iff_left_of_imp ?_).symm
  rintro ⟨rfl, sameKey⟩
  rw [sameKey]
  exact isOn

theorem FltOk.restoreLink {hdl : ℕ} (mem : link ∈ links a)
    (nodup : ((links a).map peerPointer).Nodup) (named : link.peerPointer = b)
    (isOff : ¬ on a b) (added : app.addLan2lanFltRule mdfy a b stored = some (hdl, next)) :
    FltOk (fun x y => on x y ∨ (x = a ∧ y = b)) (update links a (updateFirst (·.peerPointer = b)
        (fun link => { link with fltRuleHdl := hdl }) (links a))) next := by
  apply fltOk.install _ added
  · intro client other differs
    by_cases same : client = a
    · subst same
      have notNamed : other.peerPointer ≠ b := fun isNamed => differs (by rw [isNamed])
      rw [update_self, mem_updateFirst nodup, and_iff_left notNamed]
      refine or_iff_left ?_
      rintro ⟨old, _, oldNamed, rfl⟩
      exact notNamed oldNamed
    · rw [update_of_ne same]
  · refine ⟨{ link with fltRuleHdl := hdl }, ?_, named, rfl⟩
    rw [update_self, mem_updateFirst nodup]
    exact .inr ⟨link, mem, named, rfl⟩
  · intro other otherMem isNamed
    rw [update_self, mem_updateFirst nodup] at otherMem
    rcases otherMem with ⟨_, differs⟩ | ⟨old, _, _, rfl⟩
    · exact absurd isNamed differs
    · rfl
  · rintro ⟨iface, hdl', slotMem⟩
    exact isOff (fltOk.on_of_rule slotMem)

end FltOk

def Awake (app : LanToLan κ ι μ) (a b : κ) : Prop :=
  app.isPowersave a = false ∧ app.isPowersave b = false

def ResetOk (answers : LanAnswers κ) (app : LanToLan κ ι μ) (client : κ)
    (link : OffloadLinkInfo κ) :
    Prop :=
  app.KnowsHandle client link.fltRuleHdl ∧ answers.resetFltRule client link.peerPointer = true

/-- The pairs of the client can all be deleted and their clients are awake, or already the
first rule cannot be reset. -/
def TurnoffFltOk (answers : LanAnswers κ) (app : LanToLan κ ι μ) (client : κ) : Prop :=
  (∀ link ∈ app.links client,
      PairDeletable answers app client link.peerPointer ∧ Awake app client link.peerPointer) ∨
    ∃ link rest, app.links client = link :: rest ∧ ¬ ResetOk answers app client link

section Handlers

variable [DecidableEq κ] [DecidableEq ι] {answers : LanAnswers κ} {app : LanToLan κ ι μ}
  {on : κ → κ → Prop} {a b client : κ}

theorem FltOk.addOffloadLink (fltOk : FltOk on app.links app)
    (few : app.numOffloadPair < maxOffloadPair)
    (offers : Offers answers app.pIface app.room a b) (isOn : on a b)
    (notLinked : ¬ Linked app a b) :
    FltOk on (addOffloadLink answers app a b).2.links (addOffloadLink answers app a b).2 := by
  rcases addOffloadLink_succeeds few offers.1 offers.2 with
    ⟨link, hdl, next, result, added, named, rfl⟩
  have sameInfo := (addLan2lanFltRule_clientInfo added).1
  have pushed := fltOk.pushLink added named isOn notLinked
  have present : (next.pIface a).isSome := by
    rw [(SameClients.of_clientInfo sameInfo).pIface]
    rcases addLan2lanFltRule_eq_some added with ⟨iface, _, onIface, _, _⟩
    simp [onIface]
  rw [result, links_modify_link (· ++ [link]) (.inl present), links_of_clientInfo sameInfo]
  exact pushed.congr rfl rfl fun _ _ =>
    congrFun (sameClients_modify_link (· ++ [link])).pIface _

theorem FltOk.addedPair (fltOk : FltOk on app.links app) (graphOk : GraphOk app) (distinct : a ≠ b)
    (few : app.numOffloadPair < maxOffloadPair)
    (offersFirst : Offers answers app.pIface app.room a b)
    (offersSecond : Offers answers app.pIface (takeRoom app.pIface app.room a) b a)
    (isOn : on a b) (isOnBack : on b a) (notLinked : ¬ Linked app a b) :
    FltOk on (addedPair answers app a b).links (addedPair answers app a b) := by
  rcases addOffloadLink_links few offersFirst with ⟨link, _, _, links, clients, num, room⟩
  have first := fltOk.addOffloadLink few offersFirst isOn notLinked
  have notBack : ¬ Linked (LanToLan.addOffloadLink answers app a b).2 b a := by
    unfold Linked Adjacent
    rw [links, update_of_ne distinct.symm]
    exact fun back => notLinked (graphOk.links.mirrored.symm back)
  rw [← num] at few
  rw [← clients.pIface] at offersSecond
  rw [clients.pIface, ← room, ← clients.pIface] at offersSecond
  exact (first.addOffloadLink few offersSecond isOnBack notBack).congr rfl rfl fun _ _ => rfl

theorem FltOk.checkPotentialLink (fltOk : FltOk (Awake app) app.links app) (graphOk : GraphOk app)
    (activeAwake : ∀ peer, app.isActive peer = true → app.isPowersave peer = false)
    (isActive : app.isActive client = true)
    (visitsOk : VisitsOk answers app client app.numOffloadPair app.room (app.peers client)) :
    FltOk (Awake app) (checkPotentialLink answers app client).links
      (checkPotentialLink answers app client) := by
  apply (checkPotentialLink_ok (fun current => FltOk (Awake app) current.links current) _ fltOk
    graphOk visitsOk).1
  intro current peer held currentOk _ peerActive distinct few offersFirst offersSecond notLinked
  exact held.addedPair currentOk distinct few offersFirst offersSecond
    ⟨activeAwake _ isActive, activeAwake _ peerActive⟩
    ⟨activeAwake _ peerActive, activeAwake _ isActive⟩ notLinked

variable {rest : List (OffloadLinkInfo κ)} {current : LanToLan κ ι μ} {link : OffloadLinkInfo κ}

variable {links : κ → List (OffloadLinkInfo κ)} {link back : OffloadLinkInfo κ}
  {before rest : List (OffloadLinkInfo κ)}

theorem FltOk.deletedPair (fltOk : FltOk on links app) (head : links client = link :: rest)
    (nodup : ∀ vertex, ((links vertex).map peerPointer).Nodup)
    (distinct : link.peerPointer ≠ client) (backMem : back ∈ links link.peerPointer)
    (named : back.peerPointer = client) (isOn : on client link.peerPointer)
    (isOnBack : on link.peerPointer client) (deletable : LinkDeletable answers app client link)
    (backDeletable : LinkDeletable answers app link.peerPointer back) :
    FltOk on (update (update links client rest) link.peerPointer
      ((links link.peerPointer).eraseP (·.peerPointer = client)))
      (deletedPair answers app client link back) := by
  have ownDone : (app.delLan2lanFltRule (answers.resetFltRule client link.peerPointer) client
      link.peerPointer link.fltRuleHdl).1 = true :=
    delLan2lanFltRule_succeeds.mpr ⟨deletable.2.1, deletable.1⟩
  have own := fltOk.deleteLink (head ▸ mem_cons_self) (nodup client) rfl isOn ownDone
  rw [head, eraseP_cons_of_pos (by simp)] at own
  have ownInfo := delOffloadLink_clientInfo answers app client link
  have sameBack : update links client rest link.peerPointer = links link.peerPointer :=
    update_of_ne distinct _ _
  have backDone : ((delOffloadLink answers app client link).2.delLan2lanFltRule
      (answers.resetFltRule link.peerPointer back.peerPointer) link.peerPointer back.peerPointer
        back.fltRuleHdl).1 = true := by
    rw [delLan2lanFltRule_succeeds, knowsHandle_congr (SameClients.of_clientInfo ownInfo.1).pIface
      (delOffloadLink_handles answers app client link)]
    exact ⟨backDeletable.2.1, backDeletable.1⟩
  have both := FltOk.deleteLink own (sameBack.symm ▸ backMem) (sameBack.symm ▸ nodup _) named
    isOnBack backDone
  rw [sameBack] at both
  exact both

theorem FltOk.turnoffPair (fltOk : FltOk on (update current.links client (link :: rest)) current)
    (isOn : on client link.peerPointer) (isOnBack : on link.peerPointer client)
    (linksOk : LinksOk (update current.links client (link :: rest)) current.numOffloadPair)
    (backMem : back ∈ current.links link.peerPointer) (named : back.peerPointer = client)
    (deletable : LinkDeletable answers current client link)
    (backDeletable : LinkDeletable answers current link.peerPointer back) :
    FltOk on (update ((LanToLan.deletedPair answers current client link back).eraseLink
        link.peerPointer client).decOffloadPair.links client rest)
      ((LanToLan.deletedPair answers current client link back).eraseLink
        link.peerPointer client).decOffloadPair := by
  have linked : Adjacent peerPointer
      (update current.links client (link :: rest)) client link.peerPointer :=
    ⟨link, by simp, rfl⟩
  have distinct := linksOk.mirrored.ne linked
  have backMem' : back ∈ update current.links client (link :: rest) link.peerPointer := by
    rwa [update_of_ne distinct]
  have removed := fltOk.deletedPair (update_self client (link :: rest) current.links)
    linksOk.mirrored.nodup distinct backMem' named isOn isOnBack deletable backDeletable
  have sameLinks := links_of_clientInfo (deletedPair_clientInfo answers current client link back).1
  have nextLinks : ((LanToLan.deletedPair answers current client link back).eraseLink
      link.peerPointer client).decOffloadPair.links = update current.links
        link.peerPointer ((current.links link.peerPointer).eraseP (·.peerPointer = client)) := by
    rw [← sameLinks]
    exact eraseLink_links _ _ _
  rw [nextLinks, Function.update_comm distinct]
  rw [Function.update_idem, update_of_ne distinct] at removed
  exact removed.congr rfl rfl fun _ _ => congrFun (sameClients_eraseLink _ _ _).pIface _

theorem FltOk.turnoffOffloadLinks (fltOk : FltOk (Awake app) app.links app) (graphOk : GraphOk app)
    (deletable : ∀ link ∈ app.links client,
      PairDeletable answers app client link.peerPointer ∧ Awake app client link.peerPointer) :
    FltOk (Awake app) (turnoffOffloadLinks answers app client).2.links
      (turnoffOffloadLinks answers app client).2 := by
  have start : FltOk (Awake app) (update app.links client (app.links client)) app := by
    rw [update_eq_self]
    exact fltOk
  rcases turnoffOffloadLinks_all
    (fun rest current => FltOk (Awake app) (update current.links client rest) current ∧
      ∀ link ∈ rest, Awake app client link.peerPointer)
    (fun link rest current back held _ linksOk backMem named ownDeletable backDeletable =>
      ⟨held.1.turnoffPair (held.2 link mem_cons_self) (held.2 link mem_cons_self).symm
        linksOk backMem named ownDeletable backDeletable,
        fun later mem => held.2 later (mem_cons_of_mem _ mem)⟩)
    ⟨start, fun link mem => (deletable link mem).2⟩ graphOk
    (fun link mem => (deletable link mem).1) with ⟨final, result, held, _, _, _⟩
  have finalLinks : (final.modify client fun info => { info with link := [] }).links =
      update final.links client [] := links_modify_link (fun _ => []) (.inr rfl)
  rw [result, finalLinks]
  exact held.1.congr rfl rfl fun _ _ => congrFun (sameClients_modify_link fun _ => []).pIface _

theorem turnoffOffloadLinks_unreset
    (head : app.links client = link :: rest) (refused : ¬ ResetOk answers app client link) :
    turnoffOffloadLinks answers app client = (false, app) := by
  have notDone : ¬ (app.delLan2lanFltRule (answers.resetFltRule client link.peerPointer) client
      link.peerPointer link.fltRuleHdl).1 = true := by
    rw [delLan2lanFltRule_succeeds]
    exact fun both => refused ⟨both.2, both.1⟩
  rcases app.delLan2lanFltRule_cases client link.peerPointer
    (answers.resetFltRule client link.peerPointer) link.fltRuleHdl with
    ⟨_, _, _, _, _, result⟩ | result
  · rw [result] at notDone
    exact absurd rfl notDone
  · simp [turnoffOffloadLinks, head, turnoffLinks, delOffloadLink, result]

theorem FltOk.eraseOffloadLink (fltOk : FltOk on app.links app) (graphOk : GraphOk app)
    (deletable : Linked app a b → PairDeletable answers app a b ∧ on a b ∧ on b a) :
    FltOk on (eraseOffloadLink answers app a b).links (eraseOffloadLink answers app a b) := by
  by_cases linked : Linked app a b
  · rcases deletable linked with ⟨pairDeletable, isOn, isOnBack⟩
    have distinct := graphOk.links.mirrored.ne linked
    rcases eraseOffloadLink_of_linked graphOk linked pairDeletable with
      ⟨link, back, linkMem, rfl, backMem, namesA, result, resultLinks, _, _⟩
    have ownDone : (app.delLan2lanFltRule (answers.resetFltRule a link.peerPointer) a
        link.peerPointer link.fltRuleHdl).1 = true := by
      have ownDeletable := pairDeletable.1 link linkMem rfl
      exact delLan2lanFltRule_succeeds.mpr ⟨ownDeletable.2.1, ownDeletable.1⟩
    have own := (fltOk.deleteLink linkMem (graphOk.links.mirrored.nodup a) rfl isOn ownDone)
    have ownInfo := delOffloadLink_clientInfo answers app a link
    have ownClients := (SameClients.of_clientInfo ownInfo.1).trans
      (sameClients_eraseLink _ a link.peerPointer)
    have erased : FltOk on (update app.links a
        ((app.links a).eraseP (·.peerPointer = link.peerPointer)))
        ((delOffloadLink answers app a link).2.eraseLink a link.peerPointer) :=
      FltOk.congr own rfl rfl fun _ _ => congrFun (sameClients_eraseLink _ _ _).pIface _
    have sameBack : update app.links a ((app.links a).eraseP
        (·.peerPointer = link.peerPointer)) link.peerPointer = app.links link.peerPointer :=
      update_of_ne distinct _ _
    have backDone : (((delOffloadLink answers app a link).2.eraseLink a
        link.peerPointer).delLan2lanFltRule (answers.resetFltRule link.peerPointer back.peerPointer)
          link.peerPointer back.peerPointer back.fltRuleHdl).1 = true := by
      have backDeletable := pairDeletable.2 back backMem namesA
      rw [delLan2lanFltRule_succeeds, knowsHandle_congr ownClients.pIface
        (delOffloadLink_handles answers app a link)]
      exact ⟨backDeletable.2.1, backDeletable.1⟩
    have both := erased.deleteLink (sameBack.symm ▸ backMem)
      (sameBack.symm ▸ graphOk.links.mirrored.nodup _) namesA isOnBack backDone
    rw [sameBack] at both
    rw [resultLinks, result]
    exact FltOk.congr both rfl rfl fun _ _ => congrFun (sameClients_eraseLink _ _ _).pIface _
  · rw [eraseOffloadLink_of_not_linked graphOk linked]
    exact fltOk

def OnWhileSaving (app : LanToLan κ ι μ) (client : κ) (rest : List (OffloadLinkInfo κ)) (x y : κ) :
    Prop :=
  Awake app x y ∧ (x = client → y ∈ rest.map OffloadLinkInfo.peerPointer) ∧
    (y = client → x ∈ rest.map OffloadLinkInfo.peerPointer)

def ResetsAwake (answers : LanAnswers κ) (app : LanToLan κ ι μ) (client : κ) : Prop :=
  ∀ link ∈ app.links client,
    (ResetOk answers app client link ↔ Awake app client link.peerPointer) ∧
      ∀ back ∈ app.links link.peerPointer, back.peerPointer = client →
        (ResetOk answers app link.peerPointer back ↔ Awake app client link.peerPointer)

omit [DecidableEq κ] [DecidableEq ι] in
theorem resetOk_congr {next : LanToLan κ ι μ} (sameIface : next.pIface = app.pIface)
    (handles : SameHandles app next) :
    ResetOk answers next client link ↔ ResetOk answers app client link := by
  simp only [ResetOk, knowsHandle_congr sameIface handles]

omit [DecidableEq κ] in
theorem FltOk.deleteIfOn (fltOk : FltOk on links app)
     (mem : link ∈ links client) (nodup : ((links client).map peerPointer).Nodup)
    (resets : ResetOk answers app client link ↔ on client link.peerPointer) :
    FltOk (fun x y => on x y ∧ ¬ (x = client ∧ y = link.peerPointer)) links
      (app.delLan2lanFltRule (answers.resetFltRule client link.peerPointer) client link.peerPointer
        link.fltRuleHdl).2 := by
  by_cases isOn : on client link.peerPointer
  · have reset := resets.mpr isOn
    exact fltOk.delete mem nodup isOn (delLan2lanFltRule_succeeds.mpr ⟨reset.2, reset.1⟩)
  · have notDone : ¬ (app.delLan2lanFltRule (answers.resetFltRule client link.peerPointer) client
        link.peerPointer link.fltRuleHdl).1 = true := by
      rw [delLan2lanFltRule_succeeds]
      exact fun both => isOn (resets.mp ⟨both.2, both.1⟩)
    rcases app.delLan2lanFltRule_cases client link.peerPointer
      (answers.resetFltRule client link.peerPointer) link.fltRuleHdl with
      ⟨_, _, _, _, _, result⟩ | result
    · rw [result] at notDone
      exact absurd rfl notDone
    · rw [result]
      apply fltOk.congr_on
      intro other otherLink otherMem
      refine and_iff_left_of_imp ?_
      rintro otherOn ⟨rfl, sameKey⟩
      exact isOn (sameKey ▸ otherOn)

theorem FltOk.removeFltRulesLoop (graphOk : GraphOk app) (resets : ResetsAwake answers app client)
    (rest : List (OffloadLinkInfo κ)) (subset : ∀ link ∈ rest, link ∈ app.links client)
    (nodup : (rest.map peerPointer).Nodup)
    (same : current.clientInfo = app.clientInfo) (handles : SameHandles app current)
    (fltOk : FltOk (OnWhileSaving app client rest) app.links current) :
    (removeFltRulesLoop answers client rest current).1 = true ∧
      FltOk (OnWhileSaving app client []) app.links
        (removeFltRulesLoop answers client rest current).2 := by
  induction rest generalizing current with
  | nil => exact ⟨rfl, fltOk⟩
  | cons link rest ih =>
      have linkMem := subset link mem_cons_self
      have linked : Linked app client link.peerPointer := ⟨link, linkMem, rfl⟩
      have distinct := graphOk.links.mirrored.ne linked
      rcases find_back (graphOk.links.mirrored.symm linked) with ⟨back, found, backMem, named⟩
      rcases resets link linkMem with ⟨resetOwn, resetBack⟩
      have isOn : OnWhileSaving app client (link :: rest) client link.peerPointer ↔
          Awake app client link.peerPointer := by
        simp [OnWhileSaving, distinct]
      have isOnBack : OnWhileSaving app client (link :: rest) link.peerPointer client ↔
          Awake app client link.peerPointer := by
        simp only [OnWhileSaving, distinct, false_implies, true_implies, map_cons,
          mem_cons, true_or, and_true]
        exact ⟨And.symm, And.symm⟩
      have ownReset : ResetOk answers current client link ↔
          OnWhileSaving app client (link :: rest) client link.peerPointer := by
        rw [resetOk_congr (SameClients.of_clientInfo same).pIface handles, resetOwn, isOn]
      have own := fltOk.deleteIfOn linkMem (graphOk.links.mirrored.nodup client) ownReset
      have ownInfo := current.delLan2lanFltRule_clientInfo client link.peerPointer
        (answers.resetFltRule client link.peerPointer) link.fltRuleHdl
      have ownHandles := handles.trans (current.delLan2lanFltRule_handles client link.peerPointer
        (answers.resetFltRule client link.peerPointer) link.fltRuleHdl)
      have foundAfter : ((current.delLan2lanFltRule (answers.resetFltRule client link.peerPointer)
          client link.peerPointer link.fltRuleHdl).2.links link.peerPointer).find?
            (·.peerPointer = client) = some back := by
        rw [links_of_clientInfo (ownInfo.1.trans same)]
        exact found
      simp only [LanToLan.removeFltRulesLoop, foundAfter]
      generalize current.delLan2lanFltRule (answers.resetFltRule client link.peerPointer) client
        link.peerPointer link.fltRuleHdl = ownCall at own ownInfo ownHandles
      have backReset : ResetOk answers ownCall.2 link.peerPointer back ↔
          (fun x y => OnWhileSaving app client (link :: rest) x y ∧
            ¬ (x = client ∧ y = link.peerPointer)) link.peerPointer back.peerPointer := by
        rw [resetOk_congr (SameClients.of_clientInfo (ownInfo.1.trans same)).pIface ownHandles,
          resetBack back backMem named, named]
        simp only [distinct, false_and, not_false_eq_true, and_true]
        exact isOnBack.symm
      have both := own.deleteIfOn backMem (graphOk.links.mirrored.nodup _) backReset
      rw [named] at both
      have backInfo := ownCall.2.delLan2lanFltRule_clientInfo link.peerPointer client
        (answers.resetFltRule link.peerPointer client) back.fltRuleHdl
      rw [map_cons, nodup_cons] at nodup
      apply ih
      · exact fun later mem => subset later (mem_cons_of_mem _ mem)
      · exact nodup.2
      · exact (backInfo.1.trans ownInfo.1).trans same
      · exact ownHandles.trans (ownCall.2.delLan2lanFltRule_handles _ _ _ _)
      · -- the pair that was dealt with is off, and the others are as before
        apply both.congr_on
        intro x other otherMem
        simp only [OnWhileSaving, map_cons, mem_cons]
        constructor
        · rintro ⟨awake, fromClient, toClient⟩
          refine ⟨⟨⟨awake, fun isClient => .inr (fromClient isClient),
            fun isClient => .inr (toClient isClient)⟩, ?_⟩, ?_⟩
          · rintro ⟨isClient, isPeer⟩
            exact nodup.1 (isPeer ▸ fromClient isClient)
          · rintro ⟨isPeer, isClient⟩
            exact nodup.1 (isPeer ▸ toClient isClient)
        · rintro ⟨⟨⟨awake, fromClient, toClient⟩, notPair⟩, notBack⟩
          refine ⟨awake, ?_, ?_⟩
          · intro isClient
            exact (fromClient isClient).resolve_left fun isPeer => notPair ⟨isClient, isPeer⟩
          · intro isClient
            exact (toClient isClient).resolve_left fun isPeer => notBack ⟨isPeer, isClient⟩

def OnWhileRecovering (app : LanToLan κ ι μ) (client : κ) (rest : List (OffloadLinkInfo κ))
    (x y : κ) : Prop :=
  Awake app x y ∨ (x = client ∧ y ∉ rest.map OffloadLinkInfo.peerPointer) ∨
    (y = client ∧ x ∉ rest.map OffloadLinkInfo.peerPointer)

omit [DecidableEq ι] in
theorem modify_eq_updateFirst {change : OffloadLinkInfo κ → OffloadLinkInfo κ}
    (nodup : ((before ++ link :: rest).map peerPointer).Nodup) :
    (before ++ link :: rest).modify before.length change = before ++ change link :: rest ∧
      updateFirst (·.peerPointer = link.peerPointer) change (before ++ link :: rest) =
        before ++ change link :: rest := by
  induction before with
  | nil => simp [updateFirst]
  | cons first before ih =>
      rw [cons_append, map_cons, nodup_cons] at nodup
      rcases ih nodup.2 with ⟨byPosition, byKey⟩
      have differs : first.peerPointer ≠ link.peerPointer := by
        intro same
        apply nodup.1
        rw [same]
        simp
      constructor
      · simp [byPosition]
      · simp [updateFirst, differs, byKey]

theorem FltOk.addFltRulesPair (graphOk : GraphOk app)
     (links : app.links client = before ++ link :: rest)
    (fltOk : FltOk on app.links app) (isOff : ¬ on client link.peerPointer)
    (isOffBack : ¬ on link.peerPointer client)
    (granted : answers.restoreFltRule client link.peerPointer = true)
    (hasRoom : 0 < fltRoom app.pIface app.room client)
    (grantedBack : answers.restoreFltRule link.peerPointer client = true)
    (hasRoomBack : 0 < fltRoom app.pIface (takeRoom app.pIface app.room client) link.peerPointer) :
    ∃ next hdl, addFltRulesLoop answers client before.length (link :: rest) app =
        addFltRulesLoop answers client (before.length + 1) rest next ∧
      next.links client = before ++ { link with fltRuleHdl := hdl } :: rest ∧
      SameGraph app next ∧
      next.room = takeRoom app.pIface (takeRoom app.pIface app.room client) link.peerPointer ∧
      FltOk (fun x y => (on x y ∨ (x = client ∧ y = link.peerPointer)) ∨
        (x = link.peerPointer ∧ y = client)) next.links next := by
  have linkMem : link ∈ app.links client := by
    rw [links]
    simp
  have linked : Linked app client link.peerPointer := ⟨link, linkMem, rfl⟩
  have distinct := graphOk.links.mirrored.ne linked
  have nodup := graphOk.links.mirrored.nodup client
  have nodupSplit := nodup
  rw [links] at nodupSplit
  rcases find_back (graphOk.links.mirrored.symm linked) with ⟨back, found, backMem, named⟩
  have isAdded : (app.addLan2lanFltRule (answers.restoreFltRule client link.peerPointer) client
      link.peerPointer (some link.fltRuleHdl)).isSome :=
    addLan2lanFltRule_isSome.mpr ⟨granted, hasRoom⟩
  rcases Option.isSome_iff_exists.mp isAdded with ⟨⟨hdl, added⟩, addedEq⟩
  have addedInfo := addLan2lanFltRule_clientInfo addedEq
  have own := fltOk.restoreLink linkMem nodup rfl isOff addedEq
  -- the handle is written at the position of the link
  generalize ownEq : (added.modify client fun info => { info with
    link := info.link.modify before.length fun link => { link with fltRuleHdl := hdl } }) = current
  have ownGraph : SameGraph app current := by
    rw [← ownEq]
    refine (SameGraph.of_clientInfo addedInfo).trans (sameGraph_modify_link added client
      (fun links => links.modify before.length fun link => { link with fltRuleHdl := hdl }) ?_)
    intro links
    apply map_modify_of_keeps
    intro link
    rfl
  have ownLinks : current.links = update app.links client
      (updateFirst (·.peerPointer = link.peerPointer)
        (fun link => { link with fltRuleHdl := hdl }) (app.links client)) := by
    rw [← ownEq, links_modify_link (fun links => links.modify before.length fun link =>
      { link with fltRuleHdl := hdl }) (.inr (by simp)), links_of_clientInfo addedInfo.1, links,
      (modify_eq_updateFirst nodupSplit).1, (modify_eq_updateFirst nodupSplit).2]
  have ownOk : FltOk (fun x y => on x y ∨ (x = client ∧ y = link.peerPointer)) current.links
      current := by
    rw [ownLinks, ← ownEq]
    exact own.congr rfl rfl fun _ _ => congrFun (sameClients_modify_link fun links =>
      links.modify before.length fun link => { link with fltRuleHdl := hdl }).pIface _
  have ownRoom : current.room = takeRoom app.pIface app.room client := by
    have taken : added.room = _ := addLan2lanFltRule_room addedEq
    rw [← ownEq]
    exact taken
  have sameBack : current.links link.peerPointer = app.links link.peerPointer := by
    rw [ownLinks, update_of_ne distinct]
  have isAddedBack : (current.addLan2lanFltRule (answers.restoreFltRule link.peerPointer client)
      link.peerPointer client (some back.fltRuleHdl)).isSome := by
    rw [addLan2lanFltRule_isSome, ownGraph.clients.pIface, ownRoom]
    exact ⟨grantedBack, hasRoomBack⟩
  rcases Option.isSome_iff_exists.mp isAddedBack with ⟨⟨backHdl, addedBack⟩, addedBackEq⟩
  have backInfo := addLan2lanFltRule_clientInfo addedBackEq
  have isOffAfter : ¬ (on link.peerPointer client ∨
      (link.peerPointer = client ∧ client = link.peerPointer)) := by
    rintro (isOn | ⟨same, _⟩)
    · exact isOffBack isOn
    · exact distinct same
  have both := ownOk.restoreLink (sameBack.symm ▸ backMem)
    (sameBack.symm ▸ graphOk.links.mirrored.nodup _) named isOffAfter addedBackEq
  generalize nextEq : (addedBack.modify link.peerPointer fun info => { info with
    link := updateFirst (·.peerPointer = client) (fun link => { link with fltRuleHdl := backHdl })
      info.link }) = next
  have nextLinks : next.links = update current.links link.peerPointer
      (updateFirst (·.peerPointer = client) (fun link => { link with fltRuleHdl := backHdl })
        (current.links link.peerPointer)) := by
    rw [← nextEq, links_modify_link (updateFirst (·.peerPointer = client) fun link =>
      { link with fltRuleHdl := backHdl }) (.inr rfl), links_of_clientInfo backInfo.1]
  refine ⟨next, hdl, ?_, ?_, ?_, ?_, ?_⟩
  · simp only [LanToLan.addFltRulesLoop, addedEq, ownEq, sameBack, found, addedBackEq, nextEq]
  · rw [nextLinks, update_of_ne distinct.symm, ownLinks, update_self, links,
      (modify_eq_updateFirst nodupSplit).2]
  · rw [← nextEq]
    refine (ownGraph.trans (.of_clientInfo backInfo)).trans (sameGraph_modify_link addedBack
      link.peerPointer (updateFirst (·.peerPointer = client) fun link =>
        { link with fltRuleHdl := backHdl }) ?_)
    intro links
    apply map_updateFirst
    intro link
    rfl
  · rw [← nextEq]
    have taken : addedBack.room = _ := addLan2lanFltRule_room addedBackEq
    rw [ownRoom, ownGraph.clients.pIface] at taken
    exact taken
  · rw [nextLinks, ← nextEq]
    exact both.congr rfl rfl fun _ _ => congrFun (sameClients_modify_link
      (updateFirst (·.peerPointer = client) fun link =>
        { link with fltRuleHdl := backHdl })).pIface _

theorem FltOk.addFltRulesLoop (graphOk : GraphOk app) (asleep : app.isPowersave client = true)
    (before rest : List (OffloadLinkInfo κ))
    (links : current.links client = before ++ rest) (same : SameGraph app current)
    (restoresOk : RestoresOk answers app.pIface client current.room rest)
    (fltOk : FltOk (OnWhileRecovering app client rest) current.links current) :
    (addFltRulesLoop answers client before.length rest current).1 = true ∧
      FltOk (OnWhileRecovering app client [])
        (addFltRulesLoop answers client before.length rest current).2.links
        (addFltRulesLoop answers client before.length rest current).2 := by
  induction rest generalizing before current with
  | nil => exact ⟨rfl, fltOk⟩
  | cons link rest ih =>
      have currentOk := same.graphOk graphOk
      rcases restoresOk with ⟨granted, hasRoom, grantedBack, hasRoomBack, later⟩
      rw [← same.clients.pIface] at hasRoom hasRoomBack later
      have linked : Linked current client link.peerPointer := ⟨link, by rw [links]; simp, rfl⟩
      have distinct := currentOk.links.mirrored.ne linked
      have isOff : ¬ OnWhileRecovering app client (link :: rest) client link.peerPointer := by
        simp [OnWhileRecovering, Awake, asleep, distinct]
      have isOffBack : ¬ OnWhileRecovering app client (link :: rest) link.peerPointer client := by
        simp [OnWhileRecovering, Awake, asleep, distinct]
      rcases FltOk.addFltRulesPair currentOk links fltOk isOff isOffBack granted hasRoom grantedBack
        hasRoomBack with ⟨next, hdl, result, nextLinks, nextGraph, nextRoom, nextOk⟩
      have nodup := currentOk.links.mirrored.nodup client
      rw [links, map_append, map_cons] at nodup
      have notLater : link.peerPointer ∉ rest.map peerPointer :=
        (nodup_cons.mp (nodup_append.mp nodup).2.1).1
      have nextSame := same.trans nextGraph
      rw [result]
      have position : before.length + 1 = (before ++ [{ link with fltRuleHdl := hdl }]).length := by
        simp
      rw [position]
      apply ih
      · rw [nextLinks]
        simp
      · exact nextSame
      · rw [nextRoom, ← same.clients.pIface]
        exact later
      · -- the pair that was dealt with is on, and the others are as before
        apply nextOk.congr_on
        intro x other otherMem
        simp only [OnWhileRecovering, map_cons, mem_cons, not_or]
        constructor
        · rintro (awake | ⟨isClient, notRest⟩ | ⟨isClient, notRest⟩)
          · exact .inl (.inl (.inl awake))
          · by_cases isPeer : other.peerPointer = link.peerPointer
            · exact .inl (.inr ⟨isClient, isPeer⟩)
            · exact .inl (.inl (.inr (.inl ⟨isClient, isPeer, notRest⟩)))
          · by_cases isPeer : x = link.peerPointer
            · exact .inr ⟨isPeer, isClient⟩
            · exact .inl (.inl (.inr (.inr ⟨isClient, isPeer, notRest⟩)))
        · rintro (((awake | ⟨isClient, _, notRest⟩ | ⟨isClient, _, notRest⟩) | ⟨isClient, isPeer⟩) |
            ⟨isPeer, isClient⟩)
          · exact .inl awake
          · exact .inr (.inl ⟨isClient, notRest⟩)
          · exact .inr (.inr ⟨isClient, notRest⟩)
          · exact .inr (.inl ⟨isClient, isPeer ▸ notLater⟩)
          · exact .inr (.inr ⟨isClient, isPeer ▸ notLater⟩)

end Handlers

end LanToLan

end HtcPme.Ipacm
