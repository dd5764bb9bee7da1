import HtcPme.Ipacm.LanToLanGraph

/-!
# Runs of the LAN-to-LAN handlers

Every event keeps the client graph, unless an interface fails between the two ends of a pair, or
links are added to a pair that has them.
-/

namespace HtcPme.Ipacm.LanToLan

open Adjacency

variable {κ ι μ : Type}

structure SameGraph (app next : LanToLan κ ι μ) : Prop where
  clients : SameClients app next
  linkPeers : ∀ client, (next.links client).map OffloadLinkInfo.peerPointer =
    (app.links client).map OffloadLinkInfo.peerPointer
  numOffloadPair : next.numOffloadPair = app.numOffloadPair

theorem SameGraph.trans {app app' next : LanToLan κ ι μ} (first : SameGraph app app')
    (second : SameGraph app' next) : SameGraph app next :=
  ⟨first.clients.trans second.clients,
    fun client => (second.linkPeers client).trans (first.linkPeers client),
    second.numOffloadPair.trans first.numOffloadPair⟩

variable {app next : LanToLan κ ι μ}

theorem SameGraph.of_clientInfo
    (same : next.clientInfo = app.clientInfo ∧ next.numOffloadPair = app.numOffloadPair) :
    SameGraph app next :=
  ⟨.of_clientInfo same.1, fun client => by rw [links_of_clientInfo same.1], same.2⟩

theorem SameGraph.graphOk (same : SameGraph app next) (graphOk : GraphOk app) : GraphOk next := by
  constructor
  · rw [same.clients.peers]
    exact graphOk.peers
  · constructor
    · apply graphOk.links.mirrored.congr
      intro client
      have mapped := congrArg (List.map fun peer => (peer, ())) (same.linkPeers client)
      simpa [List.map_map, Function.comp_def] using mapped
    · rw [edges_congr same.linkPeers, same.numOffloadPair]
      exact graphOk.links.pairs
    · rw [same.numOffloadPair]
      exact graphOk.links.bound

theorem SameGraph.linked (same : SameGraph app next) {a b : κ} :
    Linked next a b ↔ Linked app a b :=
  adjacent_congr same.linkPeers

theorem map_modify_of_keeps {α β : Type} {view : α → β} {change : α → α}
    (keeps : ∀ entry, view (change entry) = view entry) (entries : List α) (position : ℕ) :
    (entries.modify position change).map view = entries.map view := by
  induction entries generalizing position with
  | nil => simp
  | cons entry rest ih =>
      cases position with
      | zero => simp [keeps]
      | succ position => simp [ih]

section PowerSave

variable [DecidableEq κ]

theorem sameGraph_modify_link (app : LanToLan κ ι μ) (client : κ)
    (update : List (OffloadLinkInfo κ) → List (OffloadLinkInfo κ))
    (keeps : ∀ links, (update links).map OffloadLinkInfo.peerPointer =
      links.map OffloadLinkInfo.peerPointer) :
    SameGraph app (app.modify client fun info => { info with link := update info.link }) := by
  have keepsNil : update [] = [] := by simpa using keeps []
  refine ⟨sameClients_modify_link update, ?_, rfl⟩
  intro other
  rw [links_modify_link update (.inr keepsNil)]
  by_cases same : other = client
  · subst same
    simpa using keeps _
  · rw [Function.update_of_ne same]

variable [DecidableEq ι] {answers : LanAnswers κ} {client : κ}

theorem addFltRulesLoop_sameGraph (position : ℕ) (rest : List (OffloadLinkInfo κ))
    (current : LanToLan κ ι μ) :
    SameGraph current (addFltRulesLoop answers client position rest current).2 := by
  induction rest generalizing position current with
  | nil => exact .of_clientInfo ⟨rfl, rfl⟩
  | cons link rest ih =>
      unfold addFltRulesLoop
      split
      · exact .of_clientInfo ⟨rfl, rfl⟩
      · rename_i hdl added isAdded
        have own := (SameGraph.of_clientInfo (addLan2lanFltRule_clientInfo isAdded)).trans
          (sameGraph_modify_link added client
            (fun links => links.modify position fun link => { link with fltRuleHdl := hdl })
            (by intro links; apply map_modify_of_keeps; intro link; rfl))
        dsimp only
        split
        · exact own
        · rename_i back found
          split
          · exact own
          · rename_i backHdl addedBack isAddedBack
            have other := (SameGraph.of_clientInfo (addLan2lanFltRule_clientInfo isAddedBack)).trans
              (sameGraph_modify_link addedBack link.peerPointer
                (updateFirst (·.peerPointer = client) fun link =>
                  { link with fltRuleHdl := backHdl })
                (by intro links; apply map_updateFirst; intro link; rfl))
            exact (own.trans other).trans (ih _ _)

def RestoresOk (answers : LanAnswers κ) (pIface : κ → Option ι) (client : κ) :
    (ι → ℕ) → List (OffloadLinkInfo κ) → Prop
  | _, [] => True
  | room, link :: rest =>
      answers.restoreFltRule client link.peerPointer = true ∧ 0 < fltRoom pIface room client ∧
        answers.restoreFltRule link.peerPointer client = true ∧
        0 < fltRoom pIface (takeRoom pIface room client) link.peerPointer ∧
        RestoresOk answers pIface client
          (takeRoom pIface (takeRoom pIface room client) link.peerPointer) rest

def restoredRoom (pIface : κ → Option ι) (client : κ) (room : ι → ℕ) :
    List (OffloadLinkInfo κ) → ι → ℕ
  | [] => room
  | link :: rest =>
      restoredRoom pIface client (takeRoom pIface
        (takeRoom pIface room client) link.peerPointer) rest

theorem addFltRulesLoop_room (position : ℕ) (rest : List (OffloadLinkInfo κ))
    (current : LanToLan κ ι μ)
    (done : (addFltRulesLoop answers client position rest current).1 = true) :
    RestoresOk answers current.pIface client current.room rest ∧
      (addFltRulesLoop answers client position rest current).2.room =
        restoredRoom current.pIface client current.room rest := by
  induction rest generalizing position current with
  | nil => exact ⟨trivial, rfl⟩
  | cons link rest ih =>
      unfold addFltRulesLoop at done ⊢
      split at done
      · cases done
      · rename_i hdl added isAdded
        have ownClients := SameClients.of_clientInfo (addLan2lanFltRule_clientInfo isAdded).1
        have ownGranted := addLan2lanFltRule_isSome.mp (Option.isSome_of_mem isAdded)
        have ownRoom := addLan2lanFltRule_room isAdded
        dsimp only at done ⊢
        have ownIface : (added.modify client fun info => { info with
            link := info.link.modify position fun link =>
              { link with fltRuleHdl := hdl } }).pIface =
              current.pIface :=
          (sameClients_modify_link fun links => links.modify position fun link =>
            { link with fltRuleHdl := hdl }).pIface.trans ownClients.pIface
        split at done
        · cases done
        · rename_i back found
          split at done
          · cases done
          · rename_i backHdl addedBack isAddedBack
            have backClients := SameClients.of_clientInfo
              (addLan2lanFltRule_clientInfo isAddedBack).1
            have backGranted := addLan2lanFltRule_isSome.mp (Option.isSome_of_mem isAddedBack)
            have backRoom := addLan2lanFltRule_room isAddedBack
            rw [ownIface] at backGranted backRoom
            have later := ih _ _ done
            have nextIface : (addedBack.modify link.peerPointer fun info => { info with
                link := updateFirst (·.peerPointer = client)
                  (fun link => { link with fltRuleHdl := backHdl }) info.link }).pIface =
                    current.pIface :=
              (sameClients_modify_link (updateFirst (·.peerPointer = client) fun link =>
                { link with fltRuleHdl := backHdl })).pIface.trans
                  (backClients.pIface.trans ownIface)
            rw [nextIface] at later
            have sameOwn : ∀ change, (added.modify client change).room = added.room := fun _ => rfl
            have sameBack : ∀ change, (addedBack.modify link.peerPointer change).room =
                addedBack.room := fun _ => rfl
            rw [sameOwn, ownRoom] at backGranted backRoom
            rw [sameBack, backRoom] at later
            exact ⟨⟨ownGranted.1, ownGranted.2, backGranted.1, backGranted.2, later.1⟩, later.2⟩

theorem removeFltRulesLoop_clientInfo (answers : LanAnswers κ) (client : κ)
    (rest : List (OffloadLinkInfo κ)) (current : LanToLan κ ι μ) :
    (removeFltRulesLoop answers client rest current).2.clientInfo = current.clientInfo ∧
      (removeFltRulesLoop answers client rest current).2.numOffloadPair =
        current.numOffloadPair := by
  induction rest generalizing current with
  | nil => exact ⟨rfl, rfl⟩
  | cons link rest ih =>
      have own := current.delLan2lanFltRule_clientInfo client link.peerPointer
        (answers.resetFltRule client link.peerPointer) link.fltRuleHdl
      unfold removeFltRulesLoop
      dsimp only
      split
      · exact own
      · rename_i back found
        have other := (current.delLan2lanFltRule
          (answers.resetFltRule client link.peerPointer) client
          link.peerPointer link.fltRuleHdl).2.delLan2lanFltRule_clientInfo link.peerPointer client
            (answers.resetFltRule link.peerPointer client) back.fltRuleHdl
        have later := ih ((current.delLan2lanFltRule (answers.resetFltRule client link.peerPointer)
          client link.peerPointer link.fltRuleHdl).2.delLan2lanFltRule
            (answers.resetFltRule link.peerPointer client) link.peerPointer client
              back.fltRuleHdl).2
        exact ⟨later.1.trans (other.1.trans own.1), later.2.trans (other.2.trans own.2)⟩

end PowerSave

section Events

variable [DecidableEq ι] {answers : LanAnswers κ} {app : LanToLan κ ι μ}

variable {next : LanToLan κ ι μ} {data : EventLanClient κ ι μ}

variable {client : κ} {src dst : κ}

theorem VisitsOk.congr (sameIface : next.pIface = app.pIface)
    (sameLinked : ∀ peer, Linked next client peer ↔ Linked app client peer)
    (records : List (PeerInfo κ)) (sameActive : ∀ record ∈ records,
      next.isActive record.peerPointer = app.isActive record.peerPointer) {num : ℕ} {room : ι → ℕ}
    (visitsOk : VisitsOk answers app client num room records) :
    VisitsOk answers next client num room records := by
  induction records generalizing num room with
  | nil => trivial
  | cons record rest ih =>
      have activeRest := fun later mem => sameActive later (List.mem_cons_of_mem _ mem)
      simp only [VisitsOk, sameIface, sameLinked, sameActive record List.mem_cons_self]
        at visitsOk ⊢
      rcases visitsOk with ⟨tried, first, second, notLinked, later⟩ |
        ⟨tried, first, second, later⟩ |
        ⟨untried, later⟩
      · exact .inl ⟨tried, first, second, notLinked, ih activeRest later⟩
      · exact .inr (.inl ⟨tried, first, second, ih activeRest later⟩)
      · exact .inr (.inr ⟨untried, ih activeRest later⟩)

def ErasesLinks (app : LanToLan κ ι μ) (src dst : κ) : Prop :=
  (app.isActive src = true ∧ app.isActive dst = true) ∨
    (app.isPowersave src = true ∧ (app.isActive dst = true ∨ app.isPowersave dst = true)) ∨
    (app.isPowersave dst = true ∧ (app.isActive src = true ∨ app.isPowersave src = true))

def LeavesClean (app : LanToLan κ ι μ) (client peer : κ) : Prop :=
  app.isActive client = false → app.isPowersave client = false →
    (∀ record ∈ app.peers client, record.peerPointer = peer) → app.links client = []

variable [DecidableEq κ]

/-- Where both ends of a pair are edited the interfaces answer alike, no links are added to a pair
that has them, and a client that is erased has none left. -/
def GraphCondition (answers : LanAnswers κ) (app : LanToLan κ ι μ) : Event κ ι μ → Prop
  | .clientActive data => ∀ macAddr pIface, data.populated = some (macAddr, pIface) →
      ∀ info, app.clientInfo data.addr = some info →
        (info.isActive = true → info.macAddr ≠ macAddr → TurnoffOk answers app data.addr) ∧
          (info.isActive = false →
            VisitsOk answers (activate app data.addr macAddr pIface) data.addr app.numOffloadPair
              app.room (app.peers data.addr))
  | .clientInactive data => data.populated.isSome →
      TurnoffOk answers app data.addr ∧ (app.peers data.addr = [] →
        ∀ link ∈ app.links data.addr, PairDeletable answers app data.addr link.peerPointer)
  | .clientDisconnect data => data.populated.isSome →
      ∀ link ∈ app.links data.addr, PairDeletable answers app data.addr link.peerPointer
  | .clientPowerSave _ => True
  | .clientPowerRecover data => data.populated.isSome → app.isActive data.addr = false →
      app.isPowersave data.addr = true →
      RestoresOk answers app.pIface data.addr app.room (app.links data.addr) →
        VisitsOk answers app data.addr app.numOffloadPair
          (restoredRoom app.pIface data.addr app.room (app.links data.addr)) (app.peers data.addr)
  | .newConnection src dst => (app.pIface src).isSome → (app.pIface dst).isSome →
      src ≠ dst ∧ (¬ Peered app src dst → app.isActive src = true → app.isActive dst = true →
        app.numOffloadPair < maxOffloadPair → Offers answers app.pIface app.room src dst →
          Offers answers app.pIface (takeRoom app.pIface app.room src) dst src ∧
            ¬ Linked app src dst)
  | .delConnection src dst => LastConnection app src dst →
      (ErasesLinks app src dst → Linked app src dst → PairDeletable answers app src dst) ∧
        LeavesClean app src dst ∧ LeavesClean app dst src

theorem handleClientInactive_ok (graphOk : GraphOk app)
    (condition : GraphCondition answers app (.clientInactive data)) :
    GraphOk (handleClientInactive answers app data) := by
  unfold handleClientInactive
  split
  · rename_i fields info populated present
    rcases condition (by simp [populated]) with ⟨turnoffOk, lastPeer⟩
    rcases turnoffOffloadLinks_ok graphOk turnoffOk with ⟨offOk, clients, noLinks⟩
    dsimp only
    have samePeers : ((turnoffOffloadLinks answers app data.addr).2.modify data.addr
        fun info => { info with isActive := false }).peers = _ := peers_modify fun _ => rfl
    have sameLinks : ((turnoffOffloadLinks answers app data.addr).2.modify data.addr
        fun info => { info with isActive := false }).links = _ := links_modify fun _ => rfl
    have flagOk := offOk.congr samePeers sameLinks rfl
    split
    · rename_i noPeers
      have noPeersAfter := List.eq_nil_of_length_eq_zero noPeers
      have noPeersBefore : app.peers data.addr = [] := by
        rw [← clients.peers, ← samePeers]
        exact noPeersAfter
      apply flagOk.eraseClient noPeersAfter
      rw [sameLinks]
      exact noLinks (lastPeer noPeersBefore)
    · exact flagOk
  · exact graphOk

theorem handleClientDisconnect_ok (graphOk : GraphOk app)
    (condition : GraphCondition answers app (.clientDisconnect data)) :
    GraphOk (handleClientDisconnect answers app data) := by
  unfold handleClientDisconnect
  split
  · rename_i fields info populated present
    have deletable := condition (by simp [populated])
    rcases turnoffOffloadLinks_ok graphOk (.inl deletable) with ⟨offOk, _, noLinks⟩
    rcases clearPeerList_ok data.addr offOk with ⟨clearOk, same, noPeers⟩
    apply clearOk.eraseClient noPeers
    rw [same.links]
    exact noLinks deletable
  · exact graphOk

theorem handleClientPowerSave_ok (answers : LanAnswers κ) (data : EventLanClient κ ι μ)
    (graphOk : GraphOk app) :
    GraphOk (handleClientPowerSave answers app data) := by
  unfold handleClientPowerSave
  split
  · have removedOk : GraphOk (removeFltRules answers app data.addr).2 :=
      graphOk.of_clientInfo (removeFltRulesLoop_clientInfo _ _ _ _)
    dsimp only
    split
    · exact removedOk.congr (peers_modify fun _ => rfl) (links_modify fun _ => rfl) rfl
    · exact removedOk
  · exact graphOk

/-- The client that leaves power save has only its flags changed after `add_flt_rules`, and
it is no peer of its own. -/
theorem recovered_visitsOk {added : LanToLan κ ι μ} (graphOk : GraphOk app)
    (same : SameGraph app added)
    (restored : added.room = restoredRoom app.pIface client app.room (app.links client))
    (visitsOk : VisitsOk answers app client app.numOffloadPair
      (restoredRoom app.pIface client app.room (app.links client)) (app.peers client))
     (recovered : next = added.modify client fun info =>
      { info with isActive := true, isPowersave := false }) :
    GraphOk next ∧ next.links = added.links ∧ next.pIface = app.pIface ∧
      VisitsOk answers next client next.numOffloadPair next.room (next.peers client) := by
  have samePeers : next.peers = added.peers := by
    rw [recovered]
    exact peers_modify fun _ => rfl
  have sameLinks : next.links = added.links := by
    rw [recovered]
    exact links_modify fun _ => rfl
  have sameIface : next.pIface = added.pIface := by
    rw [recovered]
    exact pIface_modify fun _ => rfl
  have sameNum : next.numOffloadPair = added.numOffloadPair := by
    rw [recovered]
    rfl
  have sameRoom : next.room = added.room := by
    rw [recovered]
    rfl
  have nextOk := (same.graphOk graphOk).congr samePeers sameLinks sameNum
  refine ⟨nextOk, sameLinks, sameIface.trans same.clients.pIface, ?_⟩
  rw [samePeers, same.clients.peers, sameNum, same.numOffloadPair, sameRoom, restored]
  apply visitsOk.congr (sameIface.trans same.clients.pIface)
  · intro peer
    rw [← same.linked]
    unfold Linked
    rw [sameLinks]
  · intro record mem
    have notSelf := graphOk.peers.irrefl _ record mem
    rw [← same.clients.isActive, recovered]
    simp [isActive, modify, notSelf]

theorem handleClientPowerRecover_ok (graphOk : GraphOk app)
    (condition : GraphCondition answers app (.clientPowerRecover data)) :
    GraphOk (handleClientPowerRecover answers app data) := by
  unfold handleClientPowerRecover
  split
  · rename_i fields info populated present
    split
    · exact graphOk
    · rename_i asleep
      have same : SameGraph app (addFltRules answers app data.addr).2 :=
        addFltRulesLoop_sameGraph _ _ _
      dsimp only
      split
      · rename_i done
        rcases addFltRulesLoop_room _ _ _ done with ⟨restoresOk, restored⟩
        have visitsOk := condition (by simp [populated]) (by simp_all [isActive])
          (by simp_all [isPowersave]) restoresOk
        rcases recovered_visitsOk graphOk same restored visitsOk rfl with ⟨nextOk, _, _, nextVisits⟩
        exact (checkPotentialLink_ok (fun _ => True) (fun _ _ _ _ _ _ _ _ _ _ _ => trivial) trivial
          nextOk nextVisits).2.1
      · exact same.graphOk graphOk
  · exact graphOk

theorem handleNewLan2lanConnection_ok (graphOk : GraphOk app)
    (condition : GraphCondition answers app (.newConnection src dst : Event κ ι μ)) :
    GraphOk (handleNewLan2lanConnection answers app src dst) := by
  unfold handleNewLan2lanConnection
  split
  · rename_i srcInfo dstInfo srcPresent dstPresent
    have presentSrc : (app.pIface src).isSome := by simp [pIface, srcPresent]
    have presentDst : (app.pIface dst).isSome := by simp [pIface, dstPresent]
    rcases condition presentSrc presentDst with ⟨distinct, addsBoth⟩
    rcases addConnection_ok graphOk distinct presentSrc presentDst with ⟨addedOk, same, isFirst⟩
    dsimp only
    split
    · rename_i firstConnection
      rcases firstConnection with ⟨first, srcActive, dstActive⟩
      have notPeered := isFirst.mp first
      rw [same.isActive] at srcActive dstActive
      have sameRoom : (addConnection app src dst).2.room = app.room := by
        funext iface
        simp only [room, same.lan]
      by_cases few : app.numOffloadPair < maxOffloadPair
      · by_cases offers : Offers answers app.pIface app.room src dst
        · rcases addsBoth notPeered srcActive dstActive few offers with ⟨offersBack, notLinked⟩
          have notLinkedAfter : ¬ Linked (addConnection app src dst).2 src dst := by
            unfold Linked
            rw [same.links]
            exact notLinked
          rw [← same.numOffloadPair] at few
          rw [← same.pIface, ← sameRoom] at offers offersBack
          rcases addOffloadLink_both addedOk distinct few offers offersBack notLinkedAfter with
            ⟨firstDone, secondDone, bothOk, _⟩
          simp only [firstDone, secondDone, if_true]
          exact bothOk
        · rw [← same.pIface, ← sameRoom] at offers
          rw [addOffloadLink_fails fun _ => offers]
          exact addedOk
      · rw [← same.numOffloadPair] at few
        rw [addOffloadLink_fails fun isFew => absurd isFew few]
        exact addedOk
    · exact addedOk
  · exact graphOk

omit [DecidableEq κ] [DecidableEq ι] in
theorem SameLinks.pairDeletable (same : SameLinks app next) {a b : κ}
    (deletable : PairDeletable answers app a b) : PairDeletable answers next a b := by
  have handles : SameHandles app next := fun iface => by rw [same.lan]
  unfold PairDeletable
  simp only [same.links, linkDeletable_congr same.pIface handles]
  exact deletable

theorem eraseLinksOfConnection_ok (graphOk : GraphOk app)
    (deletable : ErasesLinks app src dst → Linked app src dst → PairDeletable answers app src dst) :
    GraphOk (eraseLinksOfConnection answers app src dst) ∧
      SameClients app (eraseLinksOfConnection answers app src dst) ∧
      ∀ client, app.links client = [] →
        (eraseLinksOfConnection answers app src dst).links client = [] := by
  have eraseOk : ∀ a b, (Linked app a b → PairDeletable answers app a b) →
      GraphOk (eraseOffloadLink answers app a b) ∧
        SameClients app (eraseOffloadLink answers app a b) ∧
        ¬ Linked (eraseOffloadLink answers app a b) a b ∧
        ∀ client, app.links client = [] → (eraseOffloadLink answers app a b).links client = [] := by
    intro a b pairDeletable
    by_cases linked : Linked app a b
    · rcases eraseOffloadLink_of_linked graphOk linked (pairDeletable linked) with
        ⟨_, _, _, _, _, _, _, erased, clients, nextOk⟩
      refine ⟨nextOk, clients, ?_, ?_⟩
      · intro stillLinked
        have distinct := graphOk.links.mirrored.ne linked
        rcases stillLinked with ⟨link, mem, named⟩
        rw [erased, Adjacency.erase, replaceBoth_left distinct.symm] at mem
        exact ((mem_eraseP (graphOk.links.mirrored.nodup a)).mp mem).2 named
      · intro client noLinks
        rw [erased]
        by_cases isB : client = b
        · subst isB
          simp [Adjacency.erase, replaceBoth, noLinks]
        · by_cases isA : client = a
          · subst isA
            simp [Adjacency.erase, replaceBoth, isB, noLinks]
          · simp [Adjacency.erase, replaceBoth, isA, isB, noLinks]
    · rw [eraseOffloadLink_of_not_linked graphOk linked]
      exact ⟨graphOk, .refl app, linked, fun _ noLinks => noLinks⟩
  unfold eraseLinksOfConnection
  split
  · rename_i bothActive
    rcases eraseOk src dst (deletable (.inl bothActive)) with ⟨nextOk, clients, _, noLinks⟩
    exact ⟨nextOk, clients, noLinks⟩
  · rename_i notBothActive
    by_cases bySrc : app.isPowersave src = true ∧
      (app.isActive dst = true ∨ app.isPowersave dst = true)
    · rcases eraseOk src dst (deletable (.inr (.inl bySrc))) with
        ⟨nextOk, clients, notLinked, noLinks⟩
      dsimp only
      rw [if_pos bySrc]
      split
      · -- the links are gone, and the second attempt finds none
        rw [eraseOffloadLink_of_not_linked nextOk
          fun back => notLinked (nextOk.links.mirrored.symm back)]
        exact ⟨nextOk, clients, noLinks⟩
      · exact ⟨nextOk, clients, noLinks⟩
    · dsimp only
      rw [if_neg bySrc]
      split
      · rename_i byDst
        have backDeletable : Linked app dst src → PairDeletable answers app dst src :=
          fun back => (deletable (.inr (.inr byDst)) (graphOk.links.mirrored.symm back)).symm
        rcases eraseOk dst src backDeletable with ⟨nextOk, clients, _, noLinks⟩
        exact ⟨nextOk, clients, noLinks⟩
      · exact ⟨graphOk, .refl app, fun _ noLinks => noLinks⟩

theorem erasedLinks_noLinksIfLeft (graphOk : GraphOk app) (last : LastConnection app src dst)
    (condition : GraphCondition answers app (.delConnection src dst : Event κ ι μ))
    {removed erased : LanToLan κ ι μ} (isRemoved : removed = (removeConnection app src dst).2)
    (isErased : erased = eraseLinksOfConnection answers removed src dst) :
    src ≠ dst ∧ GraphOk removed ∧ SameLinks app removed ∧ GraphOk erased ∧
      SameClients removed erased ∧ NoLinksIfLeft erased src ∧ NoLinksIfLeft erased dst := by
  subst isErased
  rcases removeConnection_ok src dst graphOk with ⟨removedOk, same, _, peersGone⟩
  rw [← isRemoved] at removedOk same peersGone
  have distinct : src ≠ dst := by
    rcases last with ⟨record, mem, named, _⟩
    exact named ▸ (graphOk.peers.irrefl src record mem).symm
  rcases condition last with ⟨deletable, srcClean, dstClean⟩
  have deletableAfter : ErasesLinks removed src dst → Linked removed src dst →
      PairDeletable answers removed src dst := by
    unfold ErasesLinks Linked
    rw [same.isActive, same.isPowersave, same.links]
    exact fun erases linked => same.pairDeletable (deletable erases linked)
  rcases eraseLinksOfConnection_ok removedOk deletableAfter with ⟨erasedOk, clients, noLinks⟩
  have namesOther : ∀ c d, (app.peers c).eraseP (·.peerPointer = d) = [] →
      ∀ record ∈ app.peers c, record.peerPointer = d := by
    intro c d gone record mem
    by_contra differs
    have stays := (mem_eraseP (graphOk.peers.nodup c)).mpr ⟨mem, differs⟩
    rw [gone] at stays
    cases stays
  have leaves : ∀ c d, removed.peers c = (app.peers c).eraseP (·.peerPointer = d) →
      LeavesClean app c d → NoLinksIfLeft (eraseLinksOfConnection answers removed src dst) c := by
    intro c d peersLeft clean inactive awake noPeers
    rw [clients.isActive, same.isActive] at inactive
    rw [clients.isPowersave, same.isPowersave] at awake
    rw [clients.peers, peersLeft] at noPeers
    apply noLinks
    rw [same.links]
    exact clean inactive awake (namesOther c d noPeers)
  refine ⟨distinct, removedOk, same, erasedOk, clients, leaves src dst ?_ srcClean,
    leaves dst src ?_ dstClean⟩
  · rw [peersGone last, Adjacency.erase, replaceBoth_left distinct]
  · rw [peersGone last, Adjacency.erase, replaceBoth_right]

omit [DecidableEq ι] in
theorem NoLinksIfLeft.eraseIfLeft {a b : κ} (noLinks : NoLinksIfLeft app a)
    (noLinksOther : NoLinksIfLeft app b) (graphOk : GraphOk app) (distinct : a ≠ b) :
    NoLinksIfLeft (eraseIfLeft app a) b := by
  rcases eraseIfLeft_ok graphOk noLinks with ⟨_, samePeers, sameLinks, sameOthers⟩
  have sameInfo := sameOthers b distinct.symm
  intro inactive awake noPeers
  rw [samePeers] at noPeers
  rw [sameLinks]
  exact noLinksOther (by simpa only [isActive, sameInfo] using inactive)
    (by simpa only [isPowersave, sameInfo] using awake) noPeers

theorem handleDelLan2lanConnection_ok (graphOk : GraphOk app)
    (condition : GraphCondition answers app (.delConnection src dst : Event κ ι μ)) :
    GraphOk (handleDelLan2lanConnection answers app src dst) := by
  unfold handleDelLan2lanConnection
  rcases removeConnection_ok src dst graphOk with ⟨removedOk, same, isLast, _⟩
  split
  · dsimp only
    split
    · rename_i last
      rcases erasedLinks_noLinksIfLeft graphOk (isLast.mp last) condition rfl rfl with
        ⟨distinct, _, _, erasedOk, _, srcLeft, dstLeft⟩
      exact (eraseIfLeft_ok (eraseIfLeft_ok erasedOk srcLeft).1
        (srcLeft.eraseIfLeft dstLeft erasedOk distinct)).1
    · exact removedOk
  · exact graphOk

variable [DecidableEq μ]

theorem handleClientActive_ok (graphOk : GraphOk app)
    (condition : GraphCondition answers app (.clientActive data)) :
    GraphOk (handleClientActive answers app data) := by
  unfold handleClientActive
  split
  · exact graphOk
  · rename_i macAddr pIface populated
    split
    · -- a client that is not in the table has no lists, and enters it with none
      rename_i absent
      have noLinks : app.links data.addr = [] := by simp [links, absent]
      have noPeers : app.peers data.addr = [] := by simp [peers, absent]
      apply graphOk.congr
      · funext other
        by_cases same : other = data.addr
        · rw [same, noPeers]
          simp [peers, insert]
        · simp [peers, insert, same]
      · funext other
        by_cases same : other = data.addr
        · rw [same, noLinks]
          simp [links, insert]
        · simp [links, insert, same]
      · rfl
    · rename_i info present
      have cases := condition macAddr pIface populated info present
      split
      · rename_i active
        split
        · exact graphOk
        · rename_i otherMac
          rcases turnoffOffloadLinks_ok graphOk (cases.1 active otherMac) with ⟨offOk, _, _⟩
          rcases clearPeerList_ok data.addr offOk with ⟨clearOk, _, _⟩
          exact clearOk.congr (peers_modify fun _ => rfl) (links_modify fun _ => rfl) rfl
      · rename_i inactive
        have activateOk : GraphOk (activate app data.addr macAddr pIface) :=
          graphOk.congr (peers_modify fun _ => rfl) (links_modify fun _ => rfl) rfl
        have samePeers : (activate app data.addr macAddr pIface).peers = app.peers :=
          peers_modify fun _ => rfl
        have visitsOk := cases.2 (by simpa using inactive)
        rw [← samePeers] at visitsOk
        exact (checkPotentialLink_ok (fun _ => True) (fun _ _ _ _ _ _ _ _ _ _ _ => trivial) trivial
          activateOk visitsOk).2.1

theorem GraphOk.eventCallback (graphOk : GraphOk app) {event : Event κ ι μ}
    (condition : GraphCondition answers app event) : GraphOk (eventCallback answers app event) := by
  cases event with
  | clientActive data => exact handleClientActive_ok graphOk condition
  | clientInactive data => exact handleClientInactive_ok graphOk condition
  | clientDisconnect data => exact handleClientDisconnect_ok graphOk condition
  | clientPowerSave data => exact handleClientPowerSave_ok answers data graphOk
  | clientPowerRecover data => exact handleClientPowerRecover_ok graphOk condition
  | newConnection src dst => exact handleNewLan2lanConnection_ok graphOk condition
  | delConnection src dst => exact handleDelLan2lanConnection_ok graphOk condition

omit [DecidableEq κ] [DecidableEq ι] [DecidableEq μ] in
theorem GraphOk.of_isInit (isInit : IsInit app) : GraphOk app := by
  have noLinks : ∀ client, app.links client = [] := fun client => by
    simp [LanToLan.links, isInit.1 client]
  have noPeers : ∀ client, app.peers client = [] := fun client => by
    simp [LanToLan.peers, isInit.1 client]
  have noPairs : edges OffloadLinkInfo.peerPointer app.links = ∅ := by
    ext pair
    simp [edges, Adjacent, noLinks]
  constructor
  · constructor <;> simp [noPeers]
  · constructor
    · constructor <;> simp [noLinks]
    · simp [noPairs, isInit.2.1]
    · simp [isInit.2.1]

end Events

/-- The client graph is consistent: the peer lists and the link lists are stored at both
ends, once for each pair and for clients in the table only, and the pairs are counted. -/
structure ClientGraphConsistent (app : LanToLan κ ι μ) : Prop where
  peersAgree : ∀ a b count, ⟨b, count⟩ ∈ app.peers a ↔ ⟨a, count⟩ ∈ app.peers b
  onePeerRecord : ∀ a, ((app.peers a).map PeerInfo.peerPointer).Nodup
  peersInTable : ∀ a, ∀ record ∈ app.peers a, (app.clientInfo record.peerPointer).isSome
  linksInTable : ∀ a, ∀ link ∈ app.links a, (app.clientInfo link.peerPointer).isSome
  linksAgree : ∀ a b, Linked app a b ↔ Linked app b a
  oneLink : ∀ a, ((app.links a).map OffloadLinkInfo.peerPointer).Nodup
  pairsCounted : {pair : Sym2 κ | ∃ a b, pair = s(a, b) ∧ Linked app a b}.encard =
    app.numOffloadPair
  pairsBounded : app.numOffloadPair ≤ maxOffloadPair

theorem GraphOk.consistent {app : LanToLan κ ι μ} (graphOk : GraphOk app) :
    ClientGraphConsistent app := by
  have inTable : ∀ client, (app.pIface client).isSome → (app.clientInfo client).isSome := by
    intro client present
    simpa [pIface] using present
  have agree : ∀ a b count, ⟨b, count⟩ ∈ app.peers a → ⟨a, count⟩ ∈ app.peers b := by
    intro a b count mem
    rcases graphOk.peers.mirror a _ mem with ⟨back, backMem, named, sameCount⟩
    have backEq : back = ⟨a, count⟩ := by
      cases back
      simp_all
    exact backEq ▸ backMem
  constructor
  · exact fun a b count => ⟨agree a b count, agree b a count⟩
  · exact graphOk.peers.nodup
  · intro a record mem
    rcases graphOk.peers.mirror a record mem with ⟨back, backMem, _, _⟩
    exact inTable _ (present_of_peer backMem)
  · intro a link mem
    rcases graphOk.links.mirrored.mirror a link mem with ⟨back, backMem, _, _⟩
    exact inTable _ (present_of_link backMem)
  · exact fun a b => ⟨graphOk.links.mirrored.symm, graphOk.links.mirrored.symm⟩
  · exact graphOk.links.mirrored.nodup
  · exact graphOk.links.pairs
  · exact graphOk.links.bound

section Runs

variable [DecidableEq κ] [DecidableEq ι] [DecidableEq μ]

def KeepsGraph (app : LanToLan κ ι μ) (input : Event κ ι μ × LanAnswers κ) : Prop :=
  GraphCondition input.2 app input.1

/-- In every run whose events meet the condition, the client graph stays consistent. -/
theorem reachable_clientGraphConsistent {app : LanToLan κ ι μ}
    (reached : Run.Reachable IsInit (Run.Guarded KeepsGraph Step) app) :
    ClientGraphConsistent app := by
  apply GraphOk.consistent
  apply reached.invariant GraphOk
  · exact fun _ isInit => GraphOk.of_isInit isInit
  · rintro app input _ graphOk ⟨condition, rfl⟩
    exact graphOk.eventCallback condition

end Runs

def granting : LanAnswers ℕ where
  addHdr _ _ := some 0
  addRtRule _ _ := some { ruleHdl := [0], numRule := 1 }
  mdfyFltRule _ _ := true
  restoreFltRule _ _ := true
  resetFltRule _ _ := true
  delRtRule _ _ := true
  delHdr _ _ := true

def created : LanToLan ℕ ℕ ℕ where
  clientInfo _ := none
  numOffloadPair := 0
  lan iface :=
    { lan2lanFltRuleHdl := [⟨3 * iface, none⟩, ⟨3 * iface + 1, none⟩, ⟨3 * iface + 2, none⟩]
      numLan2lanFltRule := 0 }
  fltCalls := []

theorem created_isInit : IsInit created := ⟨fun _ => rfl, rfl, rfl⟩

def clientData (client : ℕ) : EventLanClient ℕ ℕ ℕ :=
  { addr := client, macAddr := some client, ipv6AddrSet := true, pIface := some client }

def connected : LanToLan ℕ ℕ ℕ :=
  eventCallback granting (eventCallback granting (eventCallback granting created
    (.clientActive (clientData 1))) (.clientActive (clientData 2))) (.newConnection 1 2)

theorem connected_reachable :
    Run.Reachable IsInit (Run.Guarded KeepsGraph Step) connected := by
  have first : KeepsGraph created (.clientActive (clientData 1), granting) := by
    intro _ _ _ _ present
    cases present
  have second : KeepsGraph (eventCallback granting created (.clientActive (clientData 1)))
      (.clientActive (clientData 2), granting) := by
    intro _ _ _ _ present
    cases present
  have third : KeepsGraph (eventCallback granting (eventCallback granting created
      (.clientActive (clientData 1))) (.clientActive (clientData 2)))
      (.newConnection 1 2, granting) := by
    intro _ _
    refine ⟨by decide, fun _ _ _ _ _ => ⟨⟨⟨rfl, rfl, rfl⟩, by decide⟩, ?_⟩⟩
    rintro ⟨link, mem, _⟩
    cases mem
  exact .next _ (.next _ (.next _ (.start created_isInit) ⟨first, rfl⟩) ⟨second, rfl⟩) ⟨third, rfl⟩

theorem reachable_clientGraphConsistent_sleeper :
    ClientGraphConsistent (eventCallback granting (eventCallback granting connected
      (.clientPowerSave (clientData 1))) (.delConnection 1 2)) := by
  have saved : Run.Reachable IsInit (Run.Guarded KeepsGraph Step)
      (eventCallback granting connected (.clientPowerSave (clientData 1))) :=
    .next (.clientPowerSave (clientData 1), granting) connected_reachable ⟨trivial, rfl⟩
  have condition : KeepsGraph (eventCallback granting connected (.clientPowerSave (clientData 1)))
      (.delConnection 1 2, granting) := by
    intro _
    refine ⟨fun _ _ => ⟨?_, ?_⟩, ?_, ?_⟩
    · intro link mem _
      rcases List.mem_singleton.mp mem with rfl
      exact ⟨⟨1, rfl, by decide⟩, rfl, rfl, rfl⟩
    · intro link mem _
      rcases List.mem_singleton.mp mem with rfl
      exact ⟨⟨2, rfl, by decide⟩, rfl, rfl, rfl⟩
    · intro _ awake
      cases awake
    · intro inactive
      cases inactive
  exact reachable_clientGraphConsistent (.next _ saved ⟨condition, rfl⟩)

/-- A client that sleeps and wakes has two links to its peer afterwards. -/
theorem powerRecover_links_twice :
    ¬ ∀ app : LanToLan ℕ ℕ ℕ, Run.Reachable IsInit Step app → ClientGraphConsistent app := by
  intro consistent
  have saved : Run.Reachable IsInit Step
      (eventCallback granting connected (.clientPowerSave (clientData 1))) :=
    .next (.clientPowerSave (clientData 1), granting) connected_reachable.of_guarded rfl
  have recovered : Run.Reachable IsInit Step (eventCallback granting
      (eventCallback granting connected (.clientPowerSave (clientData 1)))
      (.clientPowerRecover (clientData 1))) :=
    .next (.clientPowerRecover (clientData 1), granting) saved rfl
  have oneLink := (consistent _ recovered).oneLink 1
  have twoLinks : ((eventCallback granting
      (eventCallback granting connected (.clientPowerSave (clientData 1)))
      (.clientPowerRecover (clientData 1))).links 1).map OffloadLinkInfo.peerPointer = [2, 2] := by
    decide
  rw [twoLinks] at oneLink
  simp at oneLink

end HtcPme.Ipacm.LanToLan
