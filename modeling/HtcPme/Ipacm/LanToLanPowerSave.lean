import HtcPme.Ipacm.LanToLanFilter

/-!
# Power save of LAN-to-LAN clients

Which filtering rules are in place is decided by which clients sleep.
-/

namespace HtcPme.Ipacm.LanToLan

open Adjacency List

variable {κ ι μ : Type}

def ActiveAwake (app : LanToLan κ ι μ) : Prop :=
  ∀ client, app.isActive client = true → app.isPowersave client = false

/-- The graph is as it should be, and the rules in place are those of the links between
awake clients. -/
structure FltRulesOk (app : LanToLan κ ι μ) : Prop where
  graph : GraphOk app
  flt : FltOk (Awake app) app.links app
  activeAwake : ActiveAwake app

section Events

variable {app next : LanToLan κ ι μ}

theorem FltOk.awake_congr {links : κ → List (OffloadLinkInfo κ)}
    (fltOk : FltOk (Awake app) links next) (same : next.isPowersave = app.isPowersave) :
    FltOk (Awake next) links next := by
  apply fltOk.congr_on
  intro client link _
  simp only [Awake, same]

theorem ActiveAwake.congr (activeAwake : ActiveAwake app)
    (sameActive : next.isActive = app.isActive)
    (samePowersave : next.isPowersave = app.isPowersave) : ActiveAwake next := by
  intro client active
  rw [samePowersave]
  rw [sameActive] at active
  exact activeAwake client active

variable [DecidableEq κ]

variable {client : κ} {data : EventLanClient κ ι μ}

theorem ActiveAwake.modify (activeAwake : ActiveAwake app)
    {change : ClientInfo κ ι μ → ClientInfo κ ι μ}
    (keeps : ∀ info, (info.isActive = true → info.isPowersave = false) →
      (change info).isActive = true → (change info).isPowersave = false) :
    ActiveAwake (app.modify client change) := by
  intro other active
  have before := activeAwake other
  by_cases same : other = client
  · subst same
    cases found : app.clientInfo other with
    | none => simp [isPowersave, LanToLan.modify, found]
    | some info =>
        simp only [isActive, isPowersave, LanToLan.modify, Function.update_self, found,
          Option.map_some] at active before ⊢
        exact keeps info before active
  · simp only [isActive, isPowersave, LanToLan.modify, Function.update_of_ne same]
      at active before ⊢
    exact before active

theorem ActiveAwake.eraseClient (activeAwake : ActiveAwake app) (client : κ) :
    ActiveAwake (app.eraseClient client) := by
  intro other active
  by_cases same : other = client
  · subst same
    simp [isActive, LanToLan.eraseClient] at active
  · simp only [isActive, isPowersave, LanToLan.eraseClient, Function.update_of_ne same] at active ⊢
    exact activeAwake other active

theorem FltOk.eraseClient {on : κ → κ → Prop} (fltOk : FltOk on app.links app)
    (noLinks : app.links client = []) :
    FltOk on (app.eraseClient client).links (app.eraseClient client) := by
  rw [links_eraseClient noLinks]
  apply fltOk.congr
  · rfl
  · rfl
  · intro other hasLinks
    have differs : other ≠ client := fun same => hasLinks (same ▸ noLinks)
    simp [pIface, LanToLan.eraseClient, differs]

theorem FltOk.activate (fltOk : FltOk (Awake app) app.links app) (graphOk : GraphOk app)
     {macAddr : μ} {pIface : ι} (keeps : app.links client ≠ [] →
      app.isPowersave client = false ∧ app.pIface client = some pIface) :
    FltOk (Awake (activate app client macAddr pIface)) (activate app client macAddr pIface).links
      (activate app client macAddr pIface) := by
  have sameLinks : (LanToLan.activate app client macAddr pIface).links = app.links :=
    links_modify fun _ => rfl
  have sameOthers : ∀ other, other ≠ client →
      (LanToLan.activate app client macAddr pIface).clientInfo other = app.clientInfo other := by
    intro other differs
    simp [LanToLan.activate, LanToLan.modify, differs]
  have activated : FltOk (Awake app) app.links (LanToLan.activate app client macAddr pIface) := by
    apply fltOk.congr
    · rfl
    · rfl
    · intro other hasLinks
      by_cases same : other = client
      · subst same
        rcases keeps hasLinks with ⟨_, onIface⟩
        rw [onIface]
        rcases Option.map_eq_some_iff.mp onIface with ⟨info, present, _⟩
        simp [LanToLan.pIface, LanToLan.activate, LanToLan.modify, present]
      · simp only [LanToLan.pIface, sameOthers other same]
  have sameAwake : ∀ other, app.links other ≠ [] →
      (LanToLan.activate app client macAddr pIface).isPowersave other = app.isPowersave other := by
    intro other hasLinks
    by_cases same : other = client
    · subst same
      rw [(keeps hasLinks).1]
      cases present : app.clientInfo other with
      | none | some info => simp [isPowersave, LanToLan.activate, LanToLan.modify, present]
    · simp only [isPowersave, sameOthers other same]
  rw [sameLinks]
  apply activated.congr_on
  intro other link mem
  have linked : Linked app other link.peerPointer := ⟨link, mem, rfl⟩
  rcases graphOk.links.mirrored.symm linked with ⟨back, backMem, _⟩
  simp only [Awake, sameAwake other (ne_nil_of_mem mem),
    sameAwake _ (ne_nil_of_mem backMem)]

theorem FltOk.awake_eraseClient (fltOk : FltOk (Awake app) app.links app) (graphOk : GraphOk app)
     (noLinks : app.links client = []) :
    FltOk (Awake (app.eraseClient client)) (app.eraseClient client).links
      (app.eraseClient client) := by
  apply (fltOk.eraseClient noLinks).congr_on
  intro other link mem
  rw [links_eraseClient noLinks] at mem
  have linked : Linked app other link.peerPointer := ⟨link, mem, rfl⟩
  rcases graphOk.links.mirrored.symm linked with ⟨back, backMem, _⟩
  have differs : other ≠ client := fun same => by simp [same, noLinks] at mem
  have peerDiffers : link.peerPointer ≠ client := fun same => by simp [same, noLinks] at backMem
  simp [Awake, isPowersave, LanToLan.eraseClient, differs, peerDiffers]

variable [DecidableEq ι] {answers : LanAnswers κ}

/-- Rules are deleted and links removed between awake clients, a client leaves power save only while
its peers are awake, and a client with links keeps its interface. -/
def FltCondition (answers : LanAnswers κ) (app : LanToLan κ ι μ) : Event κ ι μ → Prop
  | .clientActive data => ∀ macAddr pIface, data.populated = some (macAddr, pIface) →
      ∀ info, app.clientInfo data.addr = some info →
        (info.isActive = true → info.macAddr ≠ macAddr →
          (∀ link ∈ app.links data.addr, PairDeletable answers app data.addr link.peerPointer ∧
              Awake app data.addr link.peerPointer) ∨
            ∃ link rest, app.links data.addr = link :: rest ∧
              ¬ ResetOk answers app data.addr link ∧ info.pIface = pIface) ∧
          (info.isActive = false → app.links data.addr ≠ [] →
            info.isPowersave = false ∧ info.pIface = pIface)
  | .clientInactive data => data.populated.isSome → TurnoffFltOk answers app data.addr
  | .clientDisconnect data => data.populated.isSome →
      ∀ link ∈ app.links data.addr, Awake app data.addr link.peerPointer
  | .clientPowerSave data => data.populated.isSome → ResetsAwake answers app data.addr
  | .clientPowerRecover data => data.populated.isSome → app.isActive data.addr = false →
      app.isPowersave data.addr = true →
        ((∀ link ∈ app.links data.addr, app.isPowersave link.peerPointer = false) ∧
            RestoresOk answers app.pIface data.addr app.room (app.links data.addr)) ∨
          ∃ link rest, app.links data.addr = link :: rest ∧
            ¬ (answers.restoreFltRule data.addr link.peerPointer = true ∧
              0 < fltRoom app.pIface app.room data.addr)
  | .newConnection _ _ => True
  | .delConnection src dst => LastConnection app src dst → ErasesLinks app src dst →
      Linked app src dst → Awake app src dst

section

variable (rulesOk : FltRulesOk app)

include rulesOk

theorem turnoffOffloadLinks_flt (turnoffOk : TurnoffFltOk answers app client) :
    FltOk (Awake app) (turnoffOffloadLinks answers app client).2.links
      (turnoffOffloadLinks answers app client).2 := by
  rcases turnoffOk with deletable | ⟨link, rest, head, refused⟩
  · exact rulesOk.flt.turnoffOffloadLinks rulesOk.graph deletable
  · rw [turnoffOffloadLinks_unreset head refused]
    exact rulesOk.flt

theorem handleClientInactive_flt
    (graphCondition : GraphCondition answers app (.clientInactive data))
    (condition : FltCondition answers app (.clientInactive data)) :
    FltRulesOk (handleClientInactive answers app data) := by
  have graphOk := handleClientInactive_ok rulesOk.graph graphCondition
  unfold handleClientInactive at graphOk ⊢
  split
  · rename_i fields info populated present
    simp only [populated, present] at graphOk
    rcases graphCondition (by simp [populated]) with ⟨turnoffOk, lastPeer⟩
    rcases turnoffOffloadLinks_ok rulesOk.graph turnoffOk with ⟨offOk, clients, noLinks⟩
    have offFlt := turnoffOffloadLinks_flt rulesOk (condition (by simp [populated]))
    dsimp only at graphOk ⊢
    have activeAwake : ActiveAwake ((turnoffOffloadLinks answers app data.addr).2.modify data.addr
        fun info => { info with isActive := false }) :=
      (rulesOk.activeAwake.congr clients.isActive clients.isPowersave).modify fun _ _ isActive =>
        absurd isActive (by simp)
    generalize flagged : (turnoffOffloadLinks answers app data.addr).2.modify data.addr
      (fun info => { info with isActive := false }) = flag at graphOk activeAwake ⊢
    have samePeers : flag.peers = (turnoffOffloadLinks answers app data.addr).2.peers := by
      rw [← flagged]
      exact peers_modify fun _ => rfl
    have sameLinks : flag.links = (turnoffOffloadLinks answers app data.addr).2.links := by
      rw [← flagged]
      exact links_modify fun _ => rfl
    have sameIface : flag.pIface = (turnoffOffloadLinks answers app data.addr).2.pIface := by
      rw [← flagged]
      exact pIface_modify fun _ => rfl
    have samePowersave : flag.isPowersave =
        (turnoffOffloadLinks answers app data.addr).2.isPowersave := by
      rw [← flagged]
      exact isPowersave_modify fun _ => rfl
    have flagOk : GraphOk flag := offOk.congr samePeers sameLinks (by rw [← flagged]; rfl)
    have flagFlt : FltOk (Awake flag) flag.links flag := by
      rw [sameLinks]
      apply FltOk.awake_congr _ (samePowersave.trans clients.isPowersave)
      exact offFlt.congr (by rw [← flagged]; rfl) (by rw [← flagged]; rfl)
        fun _ _ => congrFun sameIface _
    split
    · rename_i noPeers
      simp only [noPeers, if_true] at graphOk
      have noPeersBefore : app.peers data.addr = [] := by
        rw [← clients.peers, ← samePeers]
        exact eq_nil_of_length_eq_zero noPeers
      have noLinksAfter := noLinks (lastPeer noPeersBefore)
      rw [← sameLinks] at noLinksAfter
      exact ⟨graphOk, flagFlt.awake_eraseClient flagOk noLinksAfter,
        activeAwake.eraseClient data.addr⟩
    · exact ⟨flagOk, flagFlt, activeAwake⟩
  · exact rulesOk

theorem handleClientDisconnect_flt
    (graphCondition : GraphCondition answers app (.clientDisconnect data))
    (condition : FltCondition answers app (.clientDisconnect data)) :
    FltRulesOk (handleClientDisconnect answers app data) := by
  have graphOk := handleClientDisconnect_ok rulesOk.graph graphCondition
  unfold handleClientDisconnect at graphOk ⊢
  split
  · rename_i fields info populated present
    simp only [populated, present] at graphOk
    have deletable := graphCondition (by simp [populated])
    have awake := condition (by simp [populated])
    rcases turnoffOffloadLinks_ok rulesOk.graph (.inl deletable) with ⟨offOk, clients, noLinks⟩
    have offFlt := turnoffOffloadLinks_flt rulesOk
      (.inl fun link mem => ⟨deletable link mem, awake link mem⟩)
    rcases clearPeerList_ok data.addr offOk with ⟨clearOk, same, _⟩
    have clearFlt : FltOk (Awake (clearPeerList (turnoffOffloadLinks answers app data.addr).2
        data.addr).2) (clearPeerList
          (turnoffOffloadLinks answers app data.addr).2 data.addr).2.links
        (clearPeerList (turnoffOffloadLinks answers app data.addr).2 data.addr).2 := by
      rw [same.links]
      exact (offFlt.congr same.lan same.fltCalls fun _ _ => congrFun same.pIface _).awake_congr
        (same.isPowersave.trans clients.isPowersave)
    refine ⟨graphOk, clearFlt.awake_eraseClient clearOk ?_, ?_⟩
    · rw [same.links]
      exact noLinks deletable
    · exact (rulesOk.activeAwake.congr (same.isActive.trans clients.isActive)
        (same.isPowersave.trans clients.isPowersave)).eraseClient data.addr
  · exact rulesOk

theorem handleClientPowerSave_flt (condition : FltCondition answers app (.clientPowerSave data)) :
    FltRulesOk (handleClientPowerSave answers app data) := by
  have graphOk := handleClientPowerSave_ok answers data rulesOk.graph
  unfold handleClientPowerSave at graphOk ⊢
  split
  · rename_i fields info populated present
    simp only [populated, present] at graphOk
    have start : FltOk (OnWhileSaving app data.addr (app.links data.addr)) app.links app := by
      apply rulesOk.flt.congr_on
      intro client link mem
      have linked : Linked app client link.peerPointer := ⟨link, mem, rfl⟩
      rcases rulesOk.graph.links.mirrored.symm linked with ⟨back, backMem, named⟩
      refine and_iff_left_of_imp fun _ => ⟨?_, ?_⟩
      · rintro rfl
        exact mem_map_of_mem mem
      · intro isClient
        rw [isClient] at backMem
        exact named ▸ mem_map_of_mem backMem
    have removed := FltOk.removeFltRulesLoop rulesOk.graph (condition (by simp [populated]))
      (app.links data.addr) (fun _ mem => mem) (rulesOk.graph.links.mirrored.nodup _) rfl
        (.refl app)
      start
    have info := removeFltRulesLoop_clientInfo answers data.addr (app.links data.addr) app
    unfold removeFltRules at graphOk ⊢
    simp only [removed.1, if_true] at graphOk ⊢
    have clients := SameClients.of_clientInfo info.1
    generalize (removeFltRulesLoop answers data.addr (app.links data.addr) app).2 = after at *
    have present' : after.clientInfo data.addr = some _ := (congrFun info.1 _).trans present
    have activeAwake : ActiveAwake (after.modify data.addr fun info =>
        { info with isActive := false, isPowersave := true }) :=
      (rulesOk.activeAwake.congr clients.isActive clients.isPowersave).modify
        fun _ _ isActive => absurd isActive (by simp)
    have asleep : ∀ client, (after.modify data.addr fun info =>
        { info with isActive := false, isPowersave := true }).isPowersave client = false ↔
          app.isPowersave client = false ∧ client ≠ data.addr := by
      intro client
      rw [← clients.isPowersave]
      by_cases same : client = data.addr
      · subst same
        simp [isPowersave, modify, present']
      · simp [isPowersave, modify, same]
    refine ⟨graphOk, ?_, activeAwake⟩
    generalize slept : (after.modify data.addr fun info =>
      { info with isActive := false, isPowersave := true }) = next at asleep ⊢
    have sameLinks : next.links = after.links := by
      rw [← slept]
      exact links_modify fun _ => rfl
    have sameIface : next.pIface = after.pIface := by
      rw [← slept]
      exact pIface_modify fun _ => rfl
    have off : FltOk (OnWhileSaving app data.addr []) app.links next :=
      removed.2.congr (by rw [← slept]; rfl) (by rw [← slept]; rfl) fun _ _ => congrFun sameIface _
    rw [sameLinks, links_of_clientInfo info.1]
    apply off.congr_on
    intro client link _
    simp only [Awake, asleep, OnWhileSaving, map_nil, not_mem_nil, imp_false]
    tauto
  · exact rulesOk

theorem handleClientPowerRecover_flt
    (graphCondition : GraphCondition answers app (.clientPowerRecover data))
    (condition : FltCondition answers app (.clientPowerRecover data)) :
    FltRulesOk (handleClientPowerRecover answers app data) := by
  have graphOk := handleClientPowerRecover_ok rulesOk.graph graphCondition
  unfold handleClientPowerRecover at graphOk ⊢
  split
  · rename_i fields info populated present
    simp only [populated, present] at graphOk
    split
    · exact rulesOk
    · rename_i asleep
      have inactive : app.isActive data.addr = false := by simp_all [isActive]
      have sleeps : app.isPowersave data.addr = true := by simp_all [isPowersave]
      simp only [asleep, if_false] at graphOk
      rcases condition (by simp [populated]) inactive sleeps with ⟨peersAwake, restoresOk⟩ |
        ⟨link, rest, head, refused⟩
      · have start : FltOk (OnWhileRecovering app data.addr (app.links data.addr)) app.links
            app := by
          apply rulesOk.flt.congr_on
          intro client link mem
          have linked : Linked app client link.peerPointer := ⟨link, mem, rfl⟩
          rcases rulesOk.graph.links.mirrored.symm linked with ⟨back, backMem, named⟩
          refine or_iff_left ?_
          rintro (⟨rfl, notLinked⟩ | ⟨isClient, notLinked⟩)
          · exact notLinked (mem_map_of_mem mem)
          · rw [isClient] at backMem
            exact notLinked (named ▸ mem_map_of_mem backMem)
        have same : SameGraph app (addFltRules answers app data.addr).2 :=
          addFltRulesLoop_sameGraph _ _ _
        have restored : (addFltRules answers app data.addr).1 = true ∧
            FltOk (OnWhileRecovering app data.addr []) (addFltRules answers app data.addr).2.links
              (addFltRules answers app data.addr).2 :=
          FltOk.addFltRulesLoop rulesOk.graph sleeps [] (app.links data.addr) rfl
            (.of_clientInfo ⟨rfl, rfl⟩) restoresOk start
        have sameRoom := (addFltRulesLoop_room _ _ _ restored.1).2
        have visitsOk := graphCondition (by simp [populated]) inactive sleeps restoresOk
        simp only [restored.1, if_true] at graphOk ⊢
        have activeAwake : ActiveAwake ((addFltRules answers app data.addr).2.modify data.addr
            fun info => { info with isActive := true, isPowersave := false }) :=
          (rulesOk.activeAwake.congr same.clients.isActive same.clients.isPowersave).modify
            fun _ _ _ => rfl
        have present' : ((addFltRules answers app data.addr).2.pIface data.addr).isSome := by
          rw [same.clients.pIface]
          simp [pIface, present]
        have flags : ((addFltRules answers app data.addr).2.modify data.addr fun info =>
              { info with isActive := true, isPowersave := false }).isActive data.addr = true ∧
            ∀ client, ((addFltRules answers app data.addr).2.modify data.addr fun info =>
              { info with isActive := true, isPowersave := false }).isPowersave client = false ↔
                app.isPowersave client = false ∨ client = data.addr := by
          rcases Option.isSome_iff_exists.mp (by simpa [pIface] using present') with
            ⟨after, isThere⟩
          constructor
          · simp [isActive, modify, isThere]
          · intro client
            rw [← same.clients.isPowersave]
            by_cases isClient : client = data.addr
            · subst isClient
              simp [isPowersave, modify, isThere]
            · simp [isPowersave, modify, isClient]
        generalize recovered : ((addFltRules answers app data.addr).2.modify data.addr fun info =>
          { info with isActive := true, isPowersave := false }) =
            next at graphOk activeAwake flags ⊢
        rcases recovered_visitsOk rulesOk.graph same sameRoom visitsOk recovered.symm with
          ⟨nextOk, nextLinks, nextIface, nextVisits⟩
        have nextFlt : FltOk (Awake next) next.links next := by
          rw [nextLinks]
          have off : FltOk (OnWhileRecovering app data.addr [])
              (addFltRules answers app data.addr).2.links next :=
            restored.2.congr (by rw [← recovered]; rfl) (by rw [← recovered]; rfl)
              fun _ _ => congrFun (nextIface.trans same.clients.pIface.symm) _
          apply off.congr_on
          intro client link mem
          -- the peers of the client's links are awake
          have linked : Linked app client link.peerPointer := same.linked.mp ⟨link, mem, rfl⟩
          have peerAwake : ∀ peer, Linked app data.addr peer → app.isPowersave peer = false := by
            rintro peer ⟨toPeer, toPeerMem, rfl⟩
            exact peersAwake toPeer toPeerMem
          simp only [Awake, flags.2, OnWhileRecovering, map_nil, not_mem_nil,
            not_false_eq_true, and_true]
          constructor
          · rintro ⟨awake | isClient, awakePeer | isClient'⟩
            · exact .inl ⟨awake, awakePeer⟩
            · exact .inr (.inr isClient')
            · exact .inr (.inl isClient)
            · exact .inr (.inl isClient)
          · rintro (⟨awake, awakePeer⟩ | isClient | isClient)
            · exact ⟨.inl awake, .inl awakePeer⟩
            · exact ⟨.inr isClient, .inl (peerAwake _ (isClient ▸ linked))⟩
            · exact ⟨.inl (peerAwake _ (isClient ▸ rulesOk.graph.links.mirrored.symm linked)),
                .inr isClient⟩
        have visited := (checkPotentialLink_ok (fun _ => True)
          (fun _ _ _ _ _ _ _ _ _ _ _ => trivial) trivial nextOk nextVisits).2.2
        exact ⟨graphOk, (nextFlt.checkPotentialLink nextOk activeAwake flags.1
          nextVisits).awake_congr visited.isPowersave,
          activeAwake.congr visited.isActive visited.isPowersave⟩
      · have unchanged : addFltRules answers app data.addr = (false, app) := by
          have notAdded : ¬ (app.addLan2lanFltRule
            (answers.restoreFltRule data.addr link.peerPointer)
              data.addr link.peerPointer (some link.fltRuleHdl)).isSome := by
            rw [addLan2lanFltRule_isSome]
            exact refused
          simp [addFltRules, head, addFltRulesLoop, Option.not_isSome_iff_eq_none.mp notAdded]
        simp only [unchanged, Bool.false_eq_true, if_false]
        exact rulesOk
  · exact rulesOk

variable {src dst : κ}

theorem handleNewLan2lanConnection_flt
    (graphCondition : GraphCondition answers app (.newConnection src dst : Event κ ι μ)) :
    FltRulesOk (handleNewLan2lanConnection answers app src dst) := by
  have graphOk := handleNewLan2lanConnection_ok rulesOk.graph graphCondition
  unfold handleNewLan2lanConnection at graphOk ⊢
  split
  · rename_i srcInfo dstInfo srcPresent dstPresent
    simp only [srcPresent, dstPresent] at graphOk
    have presentSrc : (app.pIface src).isSome := by simp [pIface, srcPresent]
    have presentDst : (app.pIface dst).isSome := by simp [pIface, dstPresent]
    rcases graphCondition presentSrc presentDst with ⟨distinct, addsBoth⟩
    rcases addConnection_ok rulesOk.graph distinct presentSrc presentDst with
      ⟨addedOk, same, isFirst⟩
    have addedFlt : FltOk (Awake (addConnection app src dst).2) (addConnection app src dst).2.links
        (addConnection app src dst).2 := by
      rw [same.links]
      exact (rulesOk.flt.congr same.lan same.fltCalls fun _ _ => congrFun same.pIface _).awake_congr
        same.isPowersave
    have addedRules : FltRulesOk (addConnection app src dst).2 :=
      ⟨addedOk, addedFlt, rulesOk.activeAwake.congr same.isActive same.isPowersave⟩
    have sameRoom : (addConnection app src dst).2.room = app.room := by
      funext iface
      simp only [room, same.lan]
    dsimp only at graphOk ⊢
    split
    · rename_i firstConnection
      simp only [firstConnection, and_self, if_true] at graphOk
      rcases firstConnection with ⟨first, srcActive, dstActive⟩
      have notPeered := isFirst.mp first
      by_cases few : (addConnection app src dst).2.numOffloadPair < maxOffloadPair
      · by_cases offers : Offers answers (addConnection app src dst).2.pIface
            (addConnection app src dst).2.room src dst
        · have granted := addsBoth notPeered (by rwa [same.isActive] at srcActive)
            (by rwa [same.isActive] at dstActive) (by rwa [same.numOffloadPair] at few)
            (by rwa [same.pIface, sameRoom] at offers)
          rw [← same.pIface, ← sameRoom] at granted
          have notLinked : ¬ Linked (addConnection app src dst).2 src dst := by
            unfold Linked
            rw [same.links]
            exact granted.2
          rcases addOffloadLink_both addedOk distinct few offers granted.1 notLinked with
            ⟨firstDone, secondDone, _, clients, _⟩
          have awake : Awake (addConnection app src dst).2 src dst :=
            ⟨addedRules.activeAwake _ srcActive, addedRules.activeAwake _ dstActive⟩
          have pairFlt := addedFlt.addedPair addedOk distinct few offers granted.1 awake awake.symm
            notLinked
          have pairClients := clients.trans (sameClients_incOffloadPair _)
          simp only [firstDone, secondDone, if_true] at graphOk ⊢
          exact ⟨graphOk, pairFlt.awake_congr pairClients.isPowersave,
            addedRules.activeAwake.congr pairClients.isActive pairClients.isPowersave⟩
        · rw [addOffloadLink_fails fun _ => offers]
          exact addedRules
      · rw [addOffloadLink_fails fun isFew => absurd isFew few]
        exact addedRules
    · exact addedRules
  · exact rulesOk

theorem eraseLinksOfConnection_flt (deletable : ErasesLinks app src dst → Linked app src dst →
      PairDeletable answers app src dst ∧ Awake app src dst) :
    FltOk (Awake app) (eraseLinksOfConnection answers app src dst).links
      (eraseLinksOfConnection answers app src dst) := by
  unfold eraseLinksOfConnection
  split
  · rename_i bothActive
    apply rulesOk.flt.eraseOffloadLink rulesOk.graph
    intro linked
    rcases deletable (.inl bothActive) linked with ⟨pairDeletable, awake⟩
    exact ⟨pairDeletable, awake, awake.symm⟩
  · dsimp only
    by_cases bySrc : app.isPowersave src = true ∧
      (app.isActive dst = true ∨ app.isPowersave dst = true)
    · -- a sleeper of the connection has no link
      have notLinked : ¬ Linked app src dst := by
        intro linked
        have awake := (deletable (.inr (.inl bySrc)) linked).2.1
        rw [bySrc.1] at awake
        cases awake
      rw [if_pos bySrc, eraseOffloadLink_of_not_linked rulesOk.graph notLinked]
      split
      · rw [eraseOffloadLink_of_not_linked rulesOk.graph
          fun back => notLinked (rulesOk.graph.links.mirrored.symm back)]
        exact rulesOk.flt
      · exact rulesOk.flt
    · rw [if_neg bySrc]
      split
      · rename_i byDst
        have notLinked : ¬ Linked app dst src := by
          intro linked
          have awake := (deletable (.inr (.inr byDst))
            (rulesOk.graph.links.mirrored.symm linked)).2.2
          rw [byDst.1] at awake
          cases awake
        rw [eraseOffloadLink_of_not_linked rulesOk.graph notLinked]
        exact rulesOk.flt
      · exact rulesOk.flt

omit [DecidableEq ι] in
theorem FltRulesOk.eraseIfLeft
    (noLinks : NoLinksIfLeft app client) : FltRulesOk (eraseIfLeft app client) := by
  have graphOk := (eraseIfLeft_ok rulesOk.graph noLinks).1
  unfold LanToLan.eraseIfLeft at graphOk ⊢
  split
  · exact rulesOk
  · rename_i info present
    split
    · rename_i left
      simp only [present, left, and_self, if_true] at graphOk
      have noLinksClient := noLinks (by simp [isActive, present, left.1])
        (by simp [isPowersave, present, left.2.1])
        (by simpa [peers, present] using eq_nil_of_length_eq_zero left.2.2)
      exact ⟨graphOk, rulesOk.flt.awake_eraseClient rulesOk.graph noLinksClient,
        rulesOk.activeAwake.eraseClient client⟩
    · exact rulesOk

theorem handleDelLan2lanConnection_flt
    (graphCondition : GraphCondition answers app (.delConnection src dst : Event κ ι μ))
    (condition : FltCondition answers app (.delConnection src dst : Event κ ι μ)) :
    FltRulesOk (handleDelLan2lanConnection answers app src dst) := by
  unfold handleDelLan2lanConnection
  rcases removeConnection_ok src dst rulesOk.graph with ⟨removedOk, same, isLast, _⟩
  have removedFlt : FltOk (Awake (removeConnection app src dst).2)
      (removeConnection app src dst).2.links (removeConnection app src dst).2 := by
    rw [same.links]
    exact (rulesOk.flt.congr same.lan same.fltCalls fun _ _ => congrFun same.pIface _).awake_congr
      same.isPowersave
  have removedRules : FltRulesOk (removeConnection app src dst).2 :=
    ⟨removedOk, removedFlt, rulesOk.activeAwake.congr same.isActive same.isPowersave⟩
  split
  · dsimp only
    split
    · rename_i last
      have lastConnection := isLast.mp last
      rcases erasedLinks_noLinksIfLeft rulesOk.graph lastConnection graphCondition rfl rfl with
        ⟨distinct, _, _, erasedOk, clients, srcLeft, dstLeft⟩
      have deletable : ErasesLinks (removeConnection app src dst).2 src dst →
          Linked (removeConnection app src dst).2 src dst →
          PairDeletable answers (removeConnection app src dst).2 src dst ∧
            Awake (removeConnection app src dst).2 src dst := by
        unfold ErasesLinks Linked Awake
        rw [same.isActive, same.isPowersave, same.links]
        intro erases linked
        exact ⟨same.pairDeletable ((graphCondition lastConnection).1 erases linked),
          condition lastConnection erases linked⟩
      have erasedFlt := eraseLinksOfConnection_flt removedRules deletable
      have erasedRules : FltRulesOk (eraseLinksOfConnection answers
          (removeConnection app src dst).2 src dst) :=
        ⟨erasedOk, erasedFlt.awake_congr clients.isPowersave,
          removedRules.activeAwake.congr clients.isActive clients.isPowersave⟩
      exact (erasedRules.eraseIfLeft srcLeft).eraseIfLeft
        (srcLeft.eraseIfLeft dstLeft erasedOk distinct)
    · exact removedRules
  · exact rulesOk

end

variable [DecidableEq μ]

theorem handleClientActive_flt (rulesOk : FltRulesOk app)
    (graphCondition : GraphCondition answers app (.clientActive data))
    (condition : FltCondition answers app (.clientActive data)) :
    FltRulesOk (handleClientActive answers app data) := by
  have graphOk := handleClientActive_ok rulesOk.graph graphCondition
  unfold handleClientActive at graphOk ⊢
  split
  · exact rulesOk
  · rename_i macAddr pIface populated
    simp only [populated] at graphOk
    split
    · rename_i absent
      simp only [absent] at graphOk
      have noLinks : app.links data.addr = [] := by simp [links, absent]
      have sameOthers : ∀ client, client ≠ data.addr → (app.insert data.addr
          { macAddr := macAddr, isActive := true, isPowersave := false, pIface := pIface,
            peer := [],
            link := [] }).clientInfo client = app.clientInfo client := by
        intro client differs
        simp [insert, differs]
      refine ⟨graphOk, ?_, ?_⟩
      · have sameLinks : (app.insert data.addr
            { macAddr := macAddr, isActive := true, isPowersave := false, pIface := pIface,
              peer := [], link := [] }).links = app.links := by
          funext client
          by_cases same : client = data.addr
          · rw [same, noLinks]
            simp [links, insert]
          · simp only [links, sameOthers client same]
        rw [sameLinks]
        have inserted : FltOk (Awake app) app.links (app.insert data.addr
            { macAddr := macAddr, isActive := true, isPowersave := false, pIface := pIface,
              peer := [], link := [] }) := by
          apply rulesOk.flt.congr
          · rfl
          · rfl
          · intro client hasLinks
            have differs : client ≠ data.addr := fun same => hasLinks (same ▸ noLinks)
            simp only [LanToLan.pIface, sameOthers client differs]
        apply inserted.congr_on
        intro client link mem
        have linked : Linked app client link.peerPointer := ⟨link, mem, rfl⟩
        rcases rulesOk.graph.links.mirrored.symm linked with ⟨back, backMem, _⟩
        have differs : client ≠ data.addr := fun same => by simp [same, noLinks] at mem
        have peerDiffers : link.peerPointer ≠ data.addr := fun same => by
          simp [same, noLinks] at backMem
        simp only [Awake, isPowersave, sameOthers _ differs, sameOthers _ peerDiffers]
      · intro client active
        by_cases same : client = data.addr
        · subst same
          simp [isPowersave, insert]
        · simp only [isActive, isPowersave, sameOthers client same] at active ⊢
          exact rulesOk.activeAwake client active
    · rename_i info present
      simp only [present] at graphOk
      rcases condition macAddr pIface populated info present with ⟨onOtherMac, onInactive⟩
      split
      · rename_i active
        simp only [active, if_true] at graphOk
        split
        · exact rulesOk
        · rename_i otherMac
          simp only [otherMac, if_false] at graphOk
          have awake : app.isPowersave data.addr = false :=
            rulesOk.activeAwake data.addr (by simpa [isActive, present] using active)
          have condition := onOtherMac active otherMac
          have turnoffFlt := turnoffOffloadLinks_flt rulesOk
            (condition.imp id <| Exists.imp fun link => Exists.imp fun rest first =>
              ⟨first.1, first.2.1⟩)
          rcases turnoffOffloadLinks_ok rulesOk.graph ((graphCondition macAddr pIface populated info
            present).1 active otherMac) with ⟨offOk, clients, noLinks⟩
          rcases clearPeerList_ok data.addr offOk with ⟨clearOk, same, _⟩
          have clearFlt : FltOk (Awake (clearPeerList (turnoffOffloadLinks answers app data.addr).2
              data.addr).2) (clearPeerList (turnoffOffloadLinks answers app data.addr).2
              data.addr).2.links (clearPeerList (turnoffOffloadLinks answers app data.addr).2
              data.addr).2 := by
            rw [same.links]
            exact (turnoffFlt.congr same.lan same.fltCalls fun _ _ =>
              congrFun same.pIface _).awake_congr (same.isPowersave.trans clients.isPowersave)
          refine ⟨graphOk, clearFlt.activate clearOk ?_, ?_⟩
          · rw [same.links, same.isPowersave, same.pIface, clients.isPowersave, clients.pIface]
            intro hasLinks
            refine ⟨awake, ?_⟩
            rcases condition with deletable | ⟨_, _, _, _, sameIface⟩
            · exact absurd (noLinks fun link mem => (deletable link mem).1) hasLinks
            · simp [LanToLan.pIface, present, sameIface]
          · exact (rulesOk.activeAwake.congr (same.isActive.trans clients.isActive)
              (same.isPowersave.trans clients.isPowersave)).modify fun _ _ _ => rfl
      · rename_i inactive
        simp only [inactive] at graphOk
        have isInactive : info.isActive = false := by simpa using inactive
        have activatedOk : GraphOk (activate app data.addr macAddr pIface) :=
          rulesOk.graph.congr (peers_modify fun _ => rfl) (links_modify fun _ => rfl) rfl
        have activatedFlt : FltOk (Awake (activate app data.addr macAddr pIface))
            (activate app data.addr macAddr pIface).links
            (activate app data.addr macAddr pIface) := by
          apply rulesOk.flt.activate rulesOk.graph
          intro hasLinks
          rcases onInactive isInactive hasLinks with ⟨awake, sameIface⟩
          exact ⟨by simpa [isPowersave, present] using awake,
            by simp [LanToLan.pIface, present, sameIface]⟩
        have activatedAwake : ActiveAwake (activate app data.addr macAddr pIface) :=
          rulesOk.activeAwake.modify fun _ _ _ => rfl
        have isActive' : (activate app data.addr macAddr pIface).isActive data.addr = true := by
          simp [isActive, activate, LanToLan.modify, present]
        have samePeers : (activate app data.addr macAddr pIface).peers = app.peers :=
          peers_modify fun _ => rfl
        have visitsOk := (graphCondition macAddr pIface populated info present).2 isInactive
        rw [← samePeers] at visitsOk
        have visited := (checkPotentialLink_ok (fun _ => True)
          (fun _ _ _ _ _ _ _ _ _ _ _ => trivial) trivial activatedOk visitsOk).2.2
        exact ⟨graphOk, (activatedFlt.checkPotentialLink activatedOk activatedAwake isActive'
          visitsOk).awake_congr visited.isPowersave,
          activatedAwake.congr visited.isActive visited.isPowersave⟩

theorem FltRulesOk.eventCallback (rulesOk : FltRulesOk app) {event : Event κ ι μ}
    (graphCondition : GraphCondition answers app event)
    (condition : FltCondition answers app event) :
    FltRulesOk (eventCallback answers app event) := by
  cases event with
  | clientActive data => exact handleClientActive_flt rulesOk graphCondition condition
  | clientInactive data => exact handleClientInactive_flt rulesOk graphCondition condition
  | clientDisconnect data => exact handleClientDisconnect_flt rulesOk graphCondition condition
  | clientPowerSave data => exact handleClientPowerSave_flt rulesOk condition
  | clientPowerRecover data => exact handleClientPowerRecover_flt rulesOk graphCondition condition
  | newConnection src dst => exact handleNewLan2lanConnection_flt rulesOk graphCondition
  | delConnection src dst => exact handleDelLan2lanConnection_flt rulesOk graphCondition condition

end Events

/-- The constructor's state, while the interfaces have only dummy rules, of different
handles. -/
def IsInitDummies (app : LanToLan κ ι μ) : Prop :=
  IsInit app ∧ ∀ iface, (app.lan iface).Distinct ∧
    ∀ slot ∈ (app.lan iface).lan2lanFltRuleHdl, slot.rule = none

/-- The rules of a link are in place exactly when neither client is in power save, and no call
deleted a rule that was not in place or installed one over another. -/
structure FltRulesConsistent (app : LanToLan κ ι μ) : Prop where
  installed : ∀ a, ∀ link ∈ app.links a, (RuleInstalled app a link ↔
    app.isPowersave a = false ∧ app.isPowersave link.peerPointer = false)
  recorded : ∀ iface, ∀ slot ∈ (app.lan iface).lan2lanFltRuleHdl, ∀ a b,
    slot.rule = some (a, b) → app.pIface a = some iface ∧
      ∃ link ∈ app.links a, link.peerPointer = b ∧ link.fltRuleHdl = slot.ruleHdl
  sound : ∀ call ∈ app.fltCalls, call.Sound

variable {app : LanToLan κ ι μ}

theorem FltRulesOk.consistent (rulesOk : FltRulesOk app) :
    FltRulesConsistent app :=
  ⟨rulesOk.flt.installed, rulesOk.flt.recorded, rulesOk.flt.sound⟩

theorem FltRulesOk.of_isInitDummies (isInit : IsInitDummies app) :
    FltRulesOk app := by
  rcases isInit with ⟨isInit, dummies⟩
  have noLinks : ∀ client, app.links client = [] := fun client => by
    simp [links, isInit.1 client]
  refine ⟨GraphOk.of_isInit isInit, ?_, ?_⟩
  · constructor
    · exact fun iface => (dummies iface).1
    · simp [noLinks]
    · intro iface slot mem client peer ruleEq
      rw [(dummies iface).2 slot mem] at ruleEq
      cases ruleEq
    · simp [isInit.2.2]
  · intro client active
    simp [isActive, isInit.1 client] at active

section Runs

variable [DecidableEq κ] [DecidableEq ι] [DecidableEq μ]

def KeepsRules (app : LanToLan κ ι μ) (input : Event κ ι μ × LanAnswers κ) : Prop :=
  GraphCondition input.2 app input.1 ∧ FltCondition input.2 app input.1

/-- In every run whose events meet the conditions, the filtering rules stay consistent. -/
theorem reachable_fltRulesConsistent {app : LanToLan κ ι μ}
    (reached : Run.Reachable IsInitDummies (Run.Guarded KeepsRules Step) app) :
    FltRulesConsistent app := by
  apply FltRulesOk.consistent
  apply reached.invariant FltRulesOk
  · exact fun _ isInit => FltRulesOk.of_isInitDummies isInit
  · rintro app input _ rulesOk ⟨⟨graphCondition, condition⟩, rfl⟩
    exact rulesOk.eventCallback graphCondition condition

end Runs

theorem created_isInitDummies : IsInitDummies created := by
  refine ⟨created_isInit, fun iface => ⟨?_, ?_⟩⟩
  · simp [LanFlt.Distinct, created]
  · simp [created]

theorem connected_reachable_flt :
    Run.Reachable IsInitDummies (Run.Guarded KeepsRules Step) connected := by
  have absent : ∀ (app : LanToLan ℕ ℕ ℕ) (client : ℕ), app.clientInfo client = none →
      KeepsRules app (.clientActive (clientData client), granting) := by
    intro app client isNone
    constructor
    · intro _ _ _ _ present
      rw [show (clientData client).addr = client from rfl, isNone] at present
      cases present
    · intro _ _ _ _ present
      rw [show (clientData client).addr = client from rfl, isNone] at present
      cases present
  have third : KeepsRules (eventCallback granting (eventCallback granting created
      (.clientActive (clientData 1))) (.clientActive (clientData 2)))
      (.newConnection 1 2, granting) := by
    refine ⟨fun _ _ => ⟨by decide, fun _ _ _ _ _ => ⟨⟨⟨rfl, rfl, rfl⟩, by decide⟩, ?_⟩⟩, trivial⟩
    rintro ⟨link, mem, _⟩
    cases mem
  exact .next _ (.next _ (.next _ (.start created_isInitDummies) ⟨absent _ 1 rfl, rfl⟩)
    ⟨absent _ 2 rfl, rfl⟩) ⟨third, rfl⟩

theorem reachable_fltRulesConsistent_sleeper :
    FltRulesConsistent (eventCallback granting connected (.clientPowerSave (clientData 1))) := by
  have condition : KeepsRules connected (.clientPowerSave (clientData 1), granting) := by
    refine ⟨trivial, fun _ link mem => ?_⟩
    have firstReset : ResetOk granting connected 1 link := ⟨⟨1, rfl, ?_⟩, rfl⟩
    · rcases List.mem_singleton.mp mem with rfl
      refine ⟨iff_of_true firstReset ⟨rfl, rfl⟩, fun back backMem _ => ?_⟩
      rcases List.mem_singleton.mp backMem with rfl
      exact iff_of_true ⟨⟨2, rfl, by decide⟩, rfl⟩ ⟨rfl, rfl⟩
    · rcases List.mem_singleton.mp mem with rfl
      decide
  exact reachable_fltRulesConsistent (.next _ connected_reachable_flt ⟨condition, rfl⟩)

/-- When the second of two linked clients goes to sleep, the rules that the first one took
out are deleted once more. -/
theorem powerSave_deletes_twice :
    ¬ ∀ app : LanToLan ℕ ℕ ℕ, Run.Reachable IsInitDummies Step app → FltRulesConsistent app := by
  intro consistent
  have saved : Run.Reachable IsInitDummies Step
      (eventCallback granting connected (.clientPowerSave (clientData 1))) :=
    .next (.clientPowerSave (clientData 1), granting) connected_reachable_flt.of_guarded rfl
  have savedBoth : Run.Reachable IsInitDummies Step (eventCallback granting
      (eventCallback granting connected (.clientPowerSave (clientData 1)))
      (.clientPowerSave (clientData 2))) :=
    .next (.clientPowerSave (clientData 2), granting) saved rfl
  have sound := (consistent _ savedBoth).sound (.delete 2 1 none) (by decide)
  cases sound

end HtcPme.Ipacm.LanToLan
