import HtcPme.Ipacm.LanToLanSteps
import HtcPme.Foundation.Run

/-!
# The client graph

The peers and the offload links of the clients form two graphs, each stored at both ends, and a
counter holds the number of linked pairs.
-/

namespace HtcPme.Ipacm.LanToLan

open Adjacency OffloadLinkInfo Adjacency List Function

variable {κ ι μ : Type}

structure LinksOk (links : κ → List (OffloadLinkInfo κ)) (numOffloadPair : ℕ) : Prop where
  mirrored : Mirrored OffloadLinkInfo.peerPointer (fun _ => ()) links
  pairs : (edges OffloadLinkInfo.peerPointer links).encard = numOffloadPair
  bound : numOffloadPair ≤ maxOffloadPair

structure GraphOk (app : LanToLan κ ι μ) : Prop where
  peers : Mirrored PeerInfo.peerPointer PeerInfo.numConnection app.peers
  links : LinksOk app.links app.numOffloadPair

variable {app next : LanToLan κ ι μ}

theorem GraphOk.congr (graphOk : GraphOk app)
    (samePeers : next.peers = app.peers) (sameLinks : next.links = app.links)
    (sameNum : next.numOffloadPair = app.numOffloadPair) : GraphOk next := by
  constructor
  · rw [samePeers]
    exact graphOk.peers
  · rw [sameLinks, sameNum]
    exact graphOk.links

theorem GraphOk.of_clientInfo (graphOk : GraphOk app)
    (same : next.clientInfo = app.clientInfo ∧ next.numOffloadPair = app.numOffloadPair) :
    GraphOk next :=
  graphOk.congr (SameClients.of_clientInfo same.1).peers (links_of_clientInfo same.1) same.2

section LinksOk

variable [DecidableEq κ] {links : κ → List (OffloadLinkInfo κ)} {num : ℕ} {a b : κ}

theorem LinksOk.push (linksOk : LinksOk links num) (few : num < maxOffloadPair) (distinct : a ≠ b)
    {linkA linkB : OffloadLinkInfo κ} (namesB : linkA.peerPointer = b)
    (namesA : linkB.peerPointer = a)
    (fresh : ¬ Adjacent peerPointer links a b) :
    LinksOk (push links a b linkA linkB) ((num + 1) % 256) := by
  have noWrap : (num + 1) % 256 = num + 1 := by
    unfold maxOffloadPair at few
    omega
  constructor
  · exact linksOk.mirrored.push distinct namesB namesA rfl fresh
  · rw [linksOk.mirrored.encard_push distinct namesB namesA rfl fresh, linksOk.pairs, noWrap]
    rfl
  · omega

theorem LinksOk.erase (linksOk : LinksOk links num)
    (linked : Adjacent peerPointer links a b) :
    LinksOk (Adjacency.erase peerPointer links a b) ((num + 255) % 256) := by
  have counted := linksOk.mirrored.encard_erase linked
  rw [linksOk.pairs] at counted
  have finite : (edges peerPointer
      (Adjacency.erase peerPointer links a b)).encard ≠ ⊤ := by
    intro infinite
    rw [infinite] at counted
    simp at counted
  rcases ENat.ne_top_iff_exists.mp finite with ⟨left, leftEq⟩
  rw [← leftEq] at counted
  have oneMore : left + 1 = num := by exact_mod_cast counted
  have few := linksOk.bound
  unfold maxOffloadPair at few
  have noWrap : (num + 255) % 256 = left := by omega
  constructor
  · exact linksOk.mirrored.erase (linksOk.mirrored.ne linked).symm
  · rw [← leftEq, noWrap]
  · have := linksOk.bound
    omega

end LinksOk

section AddPair

variable [DecidableEq κ] [DecidableEq ι] {answers : LanAnswers κ} {app : LanToLan κ ι μ} {a b : κ}

def takeRoom (pIface : κ → Option ι) (room : ι → ℕ) (client : κ) : ι → ℕ :=
  fun iface => room iface - if pIface client = some iface then 1 else 0

def Offers (answers : LanAnswers κ) (pIface : κ → Option ι) (room : ι → ℕ)
    (client peer : κ) : Prop :=
  OffersLink answers client peer ∧ 0 < fltRoom pIface room client

theorem addOffloadLink_links (few : app.numOffloadPair < maxOffloadPair)
    (offers : Offers answers app.pIface app.room a b) :
    ∃ link, link.peerPointer = b ∧ (addOffloadLink answers app a b).1 = true ∧
      (addOffloadLink answers app a b).2.links =
        update app.links a (app.links a ++ [link]) ∧
      SameClients app (addOffloadLink answers app a b).2 ∧
      (addOffloadLink answers app a b).2.numOffloadPair = app.numOffloadPair ∧
      (addOffloadLink answers app a b).2.room = takeRoom app.pIface app.room a := by
  rcases addOffloadLink_succeeds few offers.1 offers.2 with
    ⟨link, hdl, next, result, added, named, _⟩
  have same := addLan2lanFltRule_clientInfo added
  have sameClients := SameClients.of_clientInfo same.1
  have present : (next.pIface a).isSome := by
    rw [sameClients.pIface]
    rcases addLan2lanFltRule_eq_some added with ⟨iface, _, onIface, _, _⟩
    simp [onIface]
  rw [result]
  refine ⟨link, named, rfl, ?_, ?_, ?_, ?_⟩
  · rw [links_modify_link (· ++ [link]) (.inl present), links_of_clientInfo same.1]
  · exact sameClients.trans (sameClients_modify_link (· ++ [link]))
  · exact same.2
  · have taken : next.room = _ := addLan2lanFltRule_room added
    exact taken

theorem addOffloadLink_both (graphOk : GraphOk app) (distinct : a ≠ b)
    (few : app.numOffloadPair < maxOffloadPair)
    (offersFirst : Offers answers app.pIface app.room a b)
    (offersSecond : Offers answers app.pIface (takeRoom app.pIface app.room a) b a)
    (notLinked : ¬ Linked app a b) :
    (addOffloadLink answers app a b).1 = true ∧
      (addOffloadLink answers (addOffloadLink answers app a b).2 b a).1 = true ∧
      GraphOk (addOffloadLink answers (addOffloadLink answers app a b).2 b a).2.incOffloadPair ∧
      SameClients app (addOffloadLink answers (addOffloadLink answers app a b).2 b a).2 ∧
      (addOffloadLink answers (addOffloadLink answers app a b).2 b a).2.room =
        takeRoom app.pIface (takeRoom app.pIface app.room a) b ∧
      (addOffloadLink answers (addOffloadLink answers app a b).2 b a).2.numOffloadPair =
        app.numOffloadPair ∧
      ∀ c, c ≠ a → c ≠ b → (addOffloadLink answers
        (addOffloadLink answers app a b).2 b a).2.links c =
        app.links c := by
  rcases addOffloadLink_links few offersFirst with
    ⟨linkA, namesB, first, links, clients, num, room⟩
  generalize (addOffloadLink answers app a b).1 = res at first ⊢
  generalize (addOffloadLink answers app a b).2 = mid at links clients num room ⊢
  have few' : mid.numOffloadPair < maxOffloadPair := num ▸ few
  have offersBack : Offers answers mid.pIface mid.room b a := by
    rw [room, clients.pIface]
    exact offersSecond
  rcases addOffloadLink_links few' offersBack with
    ⟨linkB, namesA, second, links', clients', num', room'⟩
  generalize (addOffloadLink answers mid b a).1 = res' at second ⊢
  generalize (addOffloadLink answers mid b a).2 = next at links' clients' num' room' ⊢
  have sameClients := clients.trans clients'
  have pushed : next.links = push app.links a b linkA linkB := by
    rw [links', links]
    simp [push, replaceBoth, distinct.symm]
  refine ⟨first, second, ?_, sameClients, ?_, num'.trans num, ?_⟩
  · constructor
    · have sameIncremented : next.incOffloadPair.peers = app.peers := sameClients.peers
      rw [sameIncremented]
      exact graphOk.peers
    · have sameIncremented : next.incOffloadPair.links = next.links := rfl
      have counted : next.incOffloadPair.numOffloadPair = (app.numOffloadPair + 1) % 256 := by
        rw [← num, ← num']
        rfl
      rw [sameIncremented, counted, pushed]
      exact graphOk.links.push few distinct namesB namesA notLinked
  · rw [room', room, clients.pIface]
  · intro c notA notB
    rw [pushed, push, replaceBoth_other notA notB]

theorem addOffloadLink_neither (refused : app.numOffloadPair < maxOffloadPair →
      ¬ Offers answers app.pIface app.room a b ∧ ¬ Offers answers app.pIface app.room b a) :
    addOffloadLink answers app a b = (false, app) ∧
      addOffloadLink answers app b a = (false, app) := by
  constructor
  · exact addOffloadLink_fails fun few => (refused few).1
  · exact addOffloadLink_fails fun few => (refused few).2

/-- The records that `check_potential_link` comes to: the interfaces grant both directions of a pair
or none, and both only where there is no link yet. -/
def VisitsOk (answers : LanAnswers κ) (app : LanToLan κ ι μ) (client : κ) :
    ℕ → (ι → ℕ) → List (PeerInfo κ) → Prop
  | _, _, [] => True
  | num, room, record :: rest =>
      let tried := app.isActive record.peerPointer = true ∧ 0 < record.numConnection ∧
        num < maxOffloadPair
      (tried ∧ Offers answers app.pIface room client record.peerPointer ∧
          Offers answers app.pIface (takeRoom app.pIface room client) record.peerPointer client ∧
          ¬ Linked app client record.peerPointer ∧
          VisitsOk answers app client (num + 1)
            (takeRoom app.pIface (takeRoom app.pIface room client) record.peerPointer) rest) ∨
        (tried ∧ ¬ Offers answers app.pIface room client record.peerPointer ∧
          ¬ Offers answers app.pIface room record.peerPointer client ∧
          VisitsOk answers app client num room rest) ∨
        (¬ tried ∧ VisitsOk answers app client num room rest)

def addedPair (answers : LanAnswers κ) (app : LanToLan κ ι μ) (a b : κ) : LanToLan κ ι μ :=
  (addOffloadLink answers (addOffloadLink answers app a b).2 b a).2.incOffloadPair

variable {client : κ}

theorem checkPotentialPeer_eq_self {record : PeerInfo κ}
    (untried : app.isActive record.peerPointer = true → 0 < record.numConnection →
      app.numOffloadPair < maxOffloadPair →
        ¬ Offers answers app.pIface app.room client record.peerPointer ∧
          ¬ Offers answers app.pIface app.room record.peerPointer client) :
    checkPotentialPeer answers client app record = app := by
  unfold checkPotentialPeer
  split
  · rename_i visited
    rcases addOffloadLink_neither (untried visited.1 visited.2) with ⟨first, second⟩
    simp [first, second]
  · rfl

theorem foldl_checkPotentialPeer (holds : LanToLan κ ι μ → Prop)
    (keeps : ∀ current peer, holds current → GraphOk current → SameClients app current →
      app.isActive peer = true → client ≠ peer → current.numOffloadPair < maxOffloadPair →
      Offers answers current.pIface current.room client peer →
      Offers answers current.pIface (takeRoom current.pIface current.room client) peer client →
      ¬ Linked current client peer → holds (addedPair answers current client peer))
    (rest : List (PeerInfo κ)) (others : ∀ record ∈ rest, record.peerPointer ≠ client)
    (nodup : (rest.map PeerInfo.peerPointer).Nodup) {current : LanToLan κ ι μ}
    (held : holds current) (graphOk : GraphOk current) (clients : SameClients app current)
    (sameLinked : ∀ record ∈ rest, Linked current client record.peerPointer →
      Linked app client record.peerPointer)
    (visitsOk : VisitsOk answers app client current.numOffloadPair current.room rest) :
    holds (rest.foldl (checkPotentialPeer answers client) current) ∧
      GraphOk (rest.foldl (checkPotentialPeer answers client) current) ∧
      SameClients app (rest.foldl (checkPotentialPeer answers client) current) := by
  induction rest generalizing current with
  | nil => exact ⟨held, graphOk, clients⟩
  | cons record rest ih =>
      rw [foldl_cons]
      have othersRest := fun later mem => others later (mem_cons_of_mem _ mem)
      have sameRest := fun later mem => sameLinked later (mem_cons_of_mem _ mem)
      rw [map_cons, nodup_cons] at nodup
      have distinct : client ≠ record.peerPointer := (others record mem_cons_self).symm
      rcases visitsOk with ⟨tried, first, second, notLinked, later⟩ |
        ⟨tried, first, second, later⟩ |
        ⟨untried, later⟩
      · rw [← clients.pIface] at first second
        have fresh : ¬ Linked current client record.peerPointer :=
          fun linked => notLinked (sameLinked record mem_cons_self linked)
        rcases addOffloadLink_both graphOk distinct tried.2.2 first second fresh with
          ⟨_, added, addedOk, addedClients, addedRoom, addedNum, addedLinks⟩
        have visit : checkPotentialPeer answers client current record =
            addedPair answers current client record.peerPointer := by
          have active : current.isActive record.peerPointer = true := by
            rw [clients.isActive]
            exact tried.1
          simp [checkPotentialPeer, addedPair, active, tried.2.1, added]
        rw [visit]
        apply ih othersRest nodup.2
        · exact keeps current record.peerPointer held graphOk clients tried.1 distinct tried.2.2
            first second fresh
        · exact addedOk
        · exact (clients.trans addedClients).trans (sameClients_incOffloadPair _)
        · -- a later peer has another list
          intro later mem linked
          have notRecord : later.peerPointer ≠ record.peerPointer := by
            intro same
            exact nodup.1 (same ▸ mem_map_of_mem mem)
          have linkedBack := addedOk.links.mirrored.symm linked
          have sameList := addedLinks later.peerPointer (others later (mem_cons_of_mem _ mem))
            notRecord
          apply sameRest later mem
          apply graphOk.links.mirrored.symm
          rcases linkedBack with ⟨link, linkMem, named⟩
          exact ⟨link, sameList ▸ linkMem, named⟩
        · have counted : (addedPair answers current client record.peerPointer).numOffloadPair =
              current.numOffloadPair + 1 := by
            have few := tried.2.2
            unfold maxOffloadPair at few
            simp only [addedPair, incOffloadPair, addedNum]
            omega
          have taken : (addedPair answers current client record.peerPointer).room = _ := addedRoom
          rw [counted, taken, clients.pIface]
          exact later
      · have visit : checkPotentialPeer answers client current record = current := by
          apply checkPotentialPeer_eq_self
          rw [clients.pIface]
          exact fun _ _ _ => ⟨first, second⟩
        rw [visit]
        exact ih othersRest nodup.2 held graphOk clients sameRest later
      · have visit : checkPotentialPeer answers client current record = current := by
          apply checkPotentialPeer_eq_self
          rw [clients.isActive]
          exact fun active counted few => absurd ⟨active, counted, few⟩ untried
        rw [visit]
        exact ih othersRest nodup.2 held graphOk clients sameRest later

theorem checkPotentialLink_ok (holds : LanToLan κ ι μ → Prop)
    (keeps : ∀ current peer, holds current → GraphOk current → SameClients app current →
      app.isActive peer = true → client ≠ peer → current.numOffloadPair < maxOffloadPair →
      Offers answers current.pIface current.room client peer →
      Offers answers current.pIface (takeRoom current.pIface current.room client) peer client →
      ¬ Linked current client peer → holds (addedPair answers current client peer))
    (held : holds app) (graphOk : GraphOk app)
    (visitsOk : VisitsOk answers app client app.numOffloadPair app.room (app.peers client)) :
    holds (checkPotentialLink answers app client) ∧
      GraphOk (checkPotentialLink answers app client) ∧
      SameClients app (checkPotentialLink answers app client) :=
  foldl_checkPotentialPeer holds keeps (app.peers client) (graphOk.peers.irrefl client)
    (graphOk.peers.nodup client) held graphOk (.refl app) (fun _ _ linked => linked) visitsOk

end AddPair

section RemoveLinks

variable {answers : LanAnswers κ} {app : LanToLan κ ι μ} {a b : κ}

def PairDeletable (answers : LanAnswers κ) (app : LanToLan κ ι μ) (a b : κ) : Prop :=
  (∀ link ∈ app.links a, link.peerPointer = b → LinkDeletable answers app a link) ∧
    ∀ link ∈ app.links b, link.peerPointer = a → LinkDeletable answers app b link

theorem PairDeletable.symm (deletable : PairDeletable answers app a b) :
    PairDeletable answers app b a :=
  ⟨deletable.2, deletable.1⟩

section Deleted

variable [DecidableEq ι]

def deletedPair (answers : LanAnswers κ) (app : LanToLan κ ι μ) (client : κ)
    (link back : OffloadLinkInfo κ) : LanToLan κ ι μ :=
  (delOffloadLink answers (delOffloadLink answers app client link).2 link.peerPointer back).2

theorem deletedPair_clientInfo (answers : LanAnswers κ) (app : LanToLan κ ι μ) (client : κ)
    (link back : OffloadLinkInfo κ) :
    (deletedPair answers app client link back).clientInfo = app.clientInfo ∧
      (deletedPair answers app client link back).numOffloadPair = app.numOffloadPair := by
  have own := delOffloadLink_clientInfo answers app client link
  have other := delOffloadLink_clientInfo answers (delOffloadLink answers app client link).2
    link.peerPointer back
  exact ⟨other.1.trans own.1, other.2.trans own.2⟩

theorem deletedPair_handles (answers : LanAnswers κ) (app : LanToLan κ ι μ) (client : κ)
    (link back : OffloadLinkInfo κ) :
    SameHandles app (deletedPair answers app client link back) :=
  (delOffloadLink_handles answers app client link).trans
    (delOffloadLink_handles answers _ link.peerPointer back)

end Deleted

variable [DecidableEq κ]

variable {links : κ → List (OffloadLinkInfo κ)} {link : OffloadLinkInfo κ}
  {rest : List (OffloadLinkInfo κ)}

theorem find_back (linked : Adjacent peerPointer links a b) :
    ∃ link, (links a).find? (·.peerPointer = b) = some link ∧ link ∈ links a ∧
      link.peerPointer = b := by
  rcases linked with ⟨link, mem, named⟩
  have found : ((links a).find? (·.peerPointer = b)).isSome := by
    rw [find?_isSome]
    exact ⟨link, mem, by simpa using named⟩
  rcases Option.isSome_iff_exists.mp found with ⟨first, isFirst⟩
  exact ⟨first, isFirst, mem_of_find?_eq_some isFirst, by simpa using find?_some isFirst⟩

theorem eraseLink_links (app : LanToLan κ ι μ) (a b : κ) :
    (app.eraseLink a b).links =
      update app.links a ((app.links a).eraseP (·.peerPointer = b)) :=
  links_modify_link (·.eraseP (·.peerPointer = b)) (.inr rfl)

theorem sameClients_eraseLink (app : LanToLan κ ι μ) (a b : κ) :
    SameClients app (app.eraseLink a b) :=
  sameClients_modify_link (·.eraseP (·.peerPointer = b))

/-- An iteration of `turnoff_offload_links` removes the pair at the head of the list, as
long as the client's own list is read as the part that is left. -/
theorem linksOk_turnoff {num : ℕ} (linksOk : LinksOk (update links a (link :: rest)) num) :
    LinksOk (update (update links link.peerPointer
      ((links link.peerPointer).eraseP (·.peerPointer = a))) a rest) ((num + 255) % 256) := by
  have linked : Adjacent peerPointer (update links a (link :: rest)) a
      link.peerPointer := ⟨link, by simp, rfl⟩
  have distinct := linksOk.mirrored.ne linked
  have erased := linksOk.erase linked
  have sameLists : erase peerPointer (update links a (link :: rest)) a
      link.peerPointer = update (update links link.peerPointer
        ((links link.peerPointer).eraseP (·.peerPointer = a))) a rest := by
    funext other
    by_cases isPeer : other = link.peerPointer
    · subst isPeer
      simp [erase, replaceBoth, distinct]
    · by_cases isClient : other = a
      · subst isClient
        simp [erase, replaceBoth, Ne.symm distinct]
      · simp [erase, replaceBoth, isPeer, isClient]
  rwa [sameLists] at erased

variable [DecidableEq ι]

variable {client : κ}

/-- The loop of `turnoff_offload_links` removes every pair of the client, when all can be
deleted. What is kept by the removal of one pair is kept by the loop. -/
theorem turnoffLinks_all (holds : List (OffloadLinkInfo κ) → LanToLan κ ι μ → Prop)
    (keeps : ∀ link rest current back, holds (link :: rest) current → SameClients app current →
      LinksOk (update current.links client (link :: rest)) current.numOffloadPair →
      back ∈ current.links link.peerPointer → back.peerPointer = client →
      LinkDeletable answers current client link →
      LinkDeletable answers current link.peerPointer back → holds rest
        ((deletedPair answers current client link back).eraseLink link.peerPointer
          client).decOffloadPair)
    (rest : List (OffloadLinkInfo κ)) {current : LanToLan κ ι μ} (held : holds rest current)
    (clients : SameClients app current) (handles : SameHandles app current)
    (linksOk : LinksOk (update current.links client rest) current.numOffloadPair)
    (sameBack : ∀ link ∈ rest, current.links link.peerPointer = app.links link.peerPointer)
    (deletable : ∀ link ∈ rest, LinkDeletable answers app client link ∧
      ∀ back ∈ app.links link.peerPointer, back.peerPointer = client →
        LinkDeletable answers app link.peerPointer back) :
    ∃ final, turnoffLinks answers client rest current = (true, final) ∧ holds [] final ∧
      SameClients app final ∧ SameHandles app final ∧
      LinksOk (update final.links client []) final.numOffloadPair := by
  induction rest generalizing current with
  | nil => exact ⟨current, rfl, held, clients, handles, linksOk⟩
  | cons link rest ih =>
      have linked : Adjacent peerPointer
          (update current.links client (link :: rest)) client link.peerPointer :=
        ⟨link, by simp, rfl⟩
      have distinct := linksOk.mirrored.ne linked
      have linkedBack : Adjacent peerPointer current.links link.peerPointer
          client := by
        rcases linksOk.mirrored.symm linked with ⟨back, mem, named⟩
        rw [update_of_ne distinct] at mem
        exact ⟨back, mem, named⟩
      rcases find_back linkedBack with ⟨back, found, backMem, named⟩
      rcases deletable link mem_cons_self with ⟨ownDeletable, backDeletable⟩
      have otherDeletable := backDeletable back
        (sameBack link mem_cons_self ▸ backMem) named
      rw [← linkDeletable_congr clients.pIface handles] at ownDeletable otherDeletable
      have ownInfo := delOffloadLink_clientInfo answers current client link
      have ownHandles := delOffloadLink_handles answers current client link
      have ownDone := delOffloadLink_succeeds.mpr ownDeletable
      have otherDone : (delOffloadLink answers (delOffloadLink answers current client link).2
          link.peerPointer back).1 = true := by
        rw [delOffloadLink_succeeds, linkDeletable_congr
          (SameClients.of_clientInfo ownInfo.1).pIface ownHandles]
        exact otherDeletable
      have unfolded : turnoffLinks answers client (link :: rest) current =
          turnoffLinks answers client rest ((deletedPair answers current client link back).eraseLink
            link.peerPointer client).decOffloadPair := by
        simp only [turnoffLinks, ownDone, if_true, links_of_clientInfo ownInfo.1, found, otherDone,
          deletedPair]
      have pairInfo := deletedPair_clientInfo answers current client link back
      have pairClients := SameClients.of_clientInfo pairInfo.1
      have pairLinks := links_of_clientInfo pairInfo.1
      have nextLinks : (((deletedPair answers current client link back).eraseLink link.peerPointer
          client).decOffloadPair).links = update current.links link.peerPointer
            ((current.links link.peerPointer).eraseP (·.peerPointer = client)) := by
        rw [← pairLinks]
        exact eraseLink_links _ _ _
      rw [unfolded]
      apply ih
      · exact keeps link rest current back held clients linksOk backMem named ownDeletable
          otherDeletable
      · exact ((clients.trans pairClients).trans (sameClients_eraseLink _ _ _)).trans
          (sameClients_decOffloadPair _)
      · exact handles.trans (deletedPair_handles answers current client link back)
      · rw [nextLinks]
        have counted : (((deletedPair answers current client link back).eraseLink link.peerPointer
            client).decOffloadPair).numOffloadPair = (current.numOffloadPair + 255) % 256 := by
          rw [← pairInfo.2]
          rfl
        rw [counted]
        exact linksOk_turnoff linksOk
      · -- a later link of the client is to another peer
        intro later mem
        have nodup := linksOk.mirrored.nodup client
        simp only [update_self, map_cons, nodup_cons] at nodup
        have notLink : later.peerPointer ≠ link.peerPointer :=
          fun same => nodup.1 (same ▸ mem_map_of_mem mem)
        rw [nextLinks, update_of_ne notLink]
        exact sameBack later (mem_cons_of_mem _ mem)
      · exact fun later mem => deletable later (mem_cons_of_mem _ mem)

theorem turnoffOffloadLinks_all (holds : List (OffloadLinkInfo κ) → LanToLan κ ι μ → Prop)
    (keeps : ∀ link rest current back, holds (link :: rest) current → SameClients app current →
      LinksOk (update current.links client (link :: rest)) current.numOffloadPair →
      back ∈ current.links link.peerPointer → back.peerPointer = client →
      LinkDeletable answers current client link →
      LinkDeletable answers current link.peerPointer back → holds rest
        ((deletedPair answers current client link back).eraseLink link.peerPointer
          client).decOffloadPair) (held : holds (app.links client) app) (graphOk : GraphOk app)
    (deletable : ∀ link ∈ app.links client, PairDeletable answers app client link.peerPointer) :
    ∃ final, turnoffOffloadLinks answers app client =
        (true, final.modify client fun info => { info with link := [] }) ∧ holds [] final ∧
      SameClients app final ∧ GraphOk (final.modify client fun info => { info with link := [] }) ∧
      (final.modify client fun info => { info with link := [] }).links client = [] := by
  have startOk : LinksOk (update app.links client (app.links client))
      app.numOffloadPair := by
    rw [update_eq_self]
    exact graphOk.links
  have eachDeletable : ∀ link ∈ app.links client, LinkDeletable answers app client link ∧
      ∀ back ∈ app.links link.peerPointer, back.peerPointer = client →
        LinkDeletable answers app link.peerPointer back :=
    fun link mem => ⟨(deletable link mem).1 link mem rfl, (deletable link mem).2⟩
  rcases turnoffLinks_all holds keeps (app.links client) held (.refl app) (.refl app) startOk
    (fun _ _ => rfl) eachDeletable with ⟨final, done, finalHeld, clients, _, linksOk⟩
  have finalLinks : (final.modify client fun info => { info with link := [] }).links =
      update final.links client [] := links_modify_link (fun _ => []) (.inr rfl)
  refine ⟨final, by simp [turnoffOffloadLinks, done], finalHeld, clients, ⟨?_, ?_⟩, ?_⟩
  · have samePeers : (final.modify client fun info => { info with link := [] }).peers = app.peers :=
      (clients.trans (sameClients_modify_link fun _ => [])).peers
    rw [samePeers]
    exact graphOk.peers
  · rw [finalLinks]
    exact linksOk
  · simp [finalLinks]

theorem turnoffOffloadLinks_refused (graphOk : GraphOk app)
    (first : app.links client = link :: rest)
    (refused : ¬ PairDeletable answers app client link.peerPointer) :
    (turnoffOffloadLinks answers app client).2.clientInfo = app.clientInfo ∧
      (turnoffOffloadLinks answers app client).2.numOffloadPair = app.numOffloadPair := by
  have linked : Adjacent peerPointer app.links client link.peerPointer :=
    ⟨link, by simp [first], rfl⟩
  rcases find_back (graphOk.links.mirrored.symm linked) with ⟨back, found, backMem, named⟩
  have ownInfo := delOffloadLink_clientInfo answers app client link
  have otherInfo := deletedPair_clientInfo answers app client link back
  unfold turnoffOffloadLinks
  rw [first]
  cases ownDone : (delOffloadLink answers app client link).1 with
  | false => simpa [turnoffLinks, ownDone] using ownInfo
  | true =>
      cases otherDone : (delOffloadLink answers (delOffloadLink answers app client link).2
          link.peerPointer back).1 with
      | false =>
          simpa [turnoffLinks, ownDone, links_of_clientInfo ownInfo.1, found, otherDone,
            deletedPair] using otherInfo
      | true =>
          -- both ends were deleted, against the assumption
          rw [delOffloadLink_succeeds] at ownDone
          rw [delOffloadLink_succeeds,
            linkDeletable_congr (SameClients.of_clientInfo ownInfo.1).pIface
            (delOffloadLink_handles answers app client link)] at otherDone
          have onlyLink : ∀ other ∈ app.links client, other.peerPointer = link.peerPointer →
              other = link := fun other mem same =>
            eq_of_key_eq (graphOk.links.mirrored.nodup client) mem (by simp [first]) same
          have onlyBack : ∀ other ∈ app.links link.peerPointer, other.peerPointer = client →
              other = back := fun other mem same =>
            eq_of_key_eq (graphOk.links.mirrored.nodup _) mem backMem (same.trans named.symm)
          exact absurd ⟨fun other mem same => onlyLink other mem same ▸ ownDone,
            fun other mem same => onlyBack other mem same ▸ otherDone⟩ refused

def TurnoffOk (answers : LanAnswers κ) (app : LanToLan κ ι μ) (client : κ) : Prop :=
  (∀ link ∈ app.links client, PairDeletable answers app client link.peerPointer) ∨
    ∃ link rest, app.links client = link :: rest ∧
      ¬ PairDeletable answers app client link.peerPointer

variable (graphOk : GraphOk app)

include graphOk

theorem turnoffOffloadLinks_ok (turnoffOk : TurnoffOk answers app client) :
    GraphOk (turnoffOffloadLinks answers app client).2 ∧
      SameClients app (turnoffOffloadLinks answers app client).2 ∧
      ((∀ link ∈ app.links client, PairDeletable answers app client link.peerPointer) →
        (turnoffOffloadLinks answers app client).2.links client = []) := by
  rcases turnoffOk with deletable | ⟨link, rest, first, refused⟩
  · rcases turnoffOffloadLinks_all (fun _ _ => True) (fun _ _ _ _ _ _ _ _ _ _ _ => trivial) trivial
      graphOk deletable with ⟨final, result, _, clients, finalOk, noLinks⟩
    rw [result]
    exact ⟨finalOk, clients.trans (sameClients_modify_link fun _ => []), fun _ => noLinks⟩
  · have same := turnoffOffloadLinks_refused graphOk first refused
    refine ⟨graphOk.of_clientInfo same, .of_clientInfo same.1, ?_⟩
    intro deletable
    exact absurd (deletable link (by simp [first])) refused

theorem eraseOffloadLink_of_not_linked (notLinked : ¬ Linked app a b) :
    eraseOffloadLink answers app a b = app := by
  have notFound : ∀ c d, ¬ Linked app c d → (app.links c).find? (·.peerPointer = d) = none := by
    intro c d absent
    rw [find?_eq_none]
    intro link mem named
    exact absent ⟨link, mem, by simpa using named⟩
  have notBack : ¬ Linked app b a := fun back => notLinked (graphOk.links.mirrored.symm back)
  simp [eraseOffloadLink, eraseOneLink, notFound a b notLinked, notFound b a notBack]

theorem eraseOffloadLink_of_linked (linked : Linked app a b)
    (deletable : PairDeletable answers app a b) :
    ∃ link back, link ∈ app.links a ∧ link.peerPointer = b ∧ back ∈ app.links b ∧
      back.peerPointer = a ∧
      eraseOffloadLink answers app a b =
        ((delOffloadLink answers ((delOffloadLink answers app a link).2.eraseLink a b) b
          back).2.eraseLink
          b a).decOffloadPair ∧
      (eraseOffloadLink answers app a b).links = erase peerPointer app.links a b ∧
      SameClients app (eraseOffloadLink answers app a b) ∧
      GraphOk (eraseOffloadLink answers app a b) := by
  have distinct := graphOk.links.mirrored.ne linked
  rcases find_back linked with ⟨link, found, linkMem, namesB⟩
  rcases find_back (graphOk.links.mirrored.symm linked) with ⟨back, foundBack, backMem, namesA⟩
  have ownInfo := delOffloadLink_clientInfo answers app a link
  have ownClients := (SameClients.of_clientInfo ownInfo.1).trans (sameClients_eraseLink _ a b)
  have ownLinks : ((delOffloadLink answers app a link).2.eraseLink a b).links =
      update app.links a ((app.links a).eraseP (·.peerPointer = b)) := by
    rw [eraseLink_links, links_of_clientInfo ownInfo.1]
  have ownDone := delOffloadLink_succeeds.mpr (deletable.1 link linkMem namesB)
  have otherInfo := delOffloadLink_clientInfo answers
    ((delOffloadLink answers app a link).2.eraseLink a b) b back
  have otherDone : (delOffloadLink answers ((delOffloadLink answers app a link).2.eraseLink a b) b
      back).1 = true := by
    rw [delOffloadLink_succeeds, linkDeletable_congr ownClients.pIface
      (delOffloadLink_handles answers app a link)]
    exact deletable.2 back backMem namesA
  have result : eraseOffloadLink answers app a b =
      ((delOffloadLink answers ((delOffloadLink answers app a link).2.eraseLink a b) b
        back).2.eraseLink
        b a).decOffloadPair := by
    simp [eraseOffloadLink, eraseOneLink, found, ownDone, ownLinks, distinct, foundBack, otherDone]
  have resultLinks : (eraseOffloadLink answers app a b).links =
      erase peerPointer app.links a b := by
    have unwound : (eraseOffloadLink answers app a b).links = ((delOffloadLink answers
        ((delOffloadLink answers app a link).2.eraseLink a b) b back).2.eraseLink b a).links := by
      rw [result]
      rfl
    rw [unwound, eraseLink_links, links_of_clientInfo otherInfo.1, ownLinks]
    simp [erase, replaceBoth, distinct]
  have resultClients : SameClients app (eraseOffloadLink answers app a b) := by
    rw [result]
    exact ((ownClients.trans (.of_clientInfo otherInfo.1)).trans
      (sameClients_eraseLink _ b a)).trans
      (sameClients_decOffloadPair _)
  refine ⟨link, back, linkMem, namesB, backMem, namesA, result, resultLinks, resultClients, ?_, ?_⟩
  · rw [resultClients.peers]
    exact graphOk.peers
  · have sameNum : ((delOffloadLink answers ((delOffloadLink answers app a link).2.eraseLink a b) b
        back).2.eraseLink b a).numOffloadPair = app.numOffloadPair := otherInfo.2.trans ownInfo.2
    have counted : (eraseOffloadLink answers app a b).numOffloadPair =
        (app.numOffloadPair + 255) % 256 := by
      rw [result]
      simp only [decOffloadPair, sameNum]
    rw [resultLinks, counted]
    exact graphOk.links.erase linked

end RemoveLinks

section Connections

variable [DecidableEq κ] {app : LanToLan κ ι μ} {a b : κ}

structure SameLinks (app next : LanToLan κ ι μ) : Prop where
  links : next.links = app.links
  numOffloadPair : next.numOffloadPair = app.numOffloadPair
  isActive : next.isActive = app.isActive
  isPowersave : next.isPowersave = app.isPowersave
  pIface : next.pIface = app.pIface
  lan : next.lan = app.lan
  fltCalls : next.fltCalls = app.fltCalls

omit [DecidableEq κ] in
theorem SameLinks.refl (app : LanToLan κ ι μ) : SameLinks app app :=
  ⟨rfl, rfl, rfl, rfl, rfl, rfl, rfl⟩

omit [DecidableEq κ] in
theorem SameLinks.trans {app app' next : LanToLan κ ι μ} (first : SameLinks app app')
    (second : SameLinks app' next) : SameLinks app next :=
  ⟨second.links.trans first.links, second.numOffloadPair.trans first.numOffloadPair,
    second.isActive.trans first.isActive, second.isPowersave.trans first.isPowersave,
    second.pIface.trans first.pIface, second.lan.trans first.lan,
    second.fltCalls.trans first.fltCalls⟩

theorem sameLinks_modify_peer (app : LanToLan κ ι μ) (client : κ)
    (update : List (PeerInfo κ) → List (PeerInfo κ)) :
    SameLinks app (app.modify client fun info => { info with peer := update info.peer }) :=
  ⟨links_modify fun _ => rfl, rfl, isActive_modify fun _ => rfl, isPowersave_modify fun _ => rfl,
    pIface_modify fun _ => rfl, rfl, rfl⟩

theorem clearPeers_ok {client : κ} (rest : List (PeerInfo κ)) {current : LanToLan κ ι μ}
    (same : SameLinks app current)
    (mirrored : Mirrored PeerInfo.peerPointer PeerInfo.numConnection
      (update current.peers client rest)) :
    ∃ final, clearPeers client rest current = (true, final) ∧ SameLinks app final ∧
      Mirrored PeerInfo.peerPointer PeerInfo.numConnection
        (update final.peers client []) := by
  induction rest generalizing current with
  | nil => exact ⟨current, rfl, same, mirrored⟩
  | cons record rest ih =>
      have adjacent : Adjacent PeerInfo.peerPointer
          (update current.peers client (record :: rest)) client record.peerPointer :=
        ⟨record, by simp, rfl⟩
      have distinct := mirrored.ne adjacent
      have isThere : (current.peers record.peerPointer).any (·.peerPointer = client) = true := by
        rcases mirrored.symm adjacent with ⟨back, mem, named⟩
        rw [update_of_ne distinct] at mem
        simp only [any_eq_true, decide_eq_true_eq]
        exact ⟨back, mem, named⟩
      simp only [clearPeers, isThere, if_true]
      apply ih
      · exact same.trans (sameLinks_modify_peer _ _ (·.eraseP (·.peerPointer = client)))
      · rw [peers_modify_peer (·.eraseP (·.peerPointer = client)) (.inr rfl)]
        have erased := mirrored.erase distinct.symm
        have sameLists : erase PeerInfo.peerPointer
            (update current.peers client (record :: rest)) client record.peerPointer =
            update (update current.peers record.peerPointer
              ((current.peers record.peerPointer).eraseP (·.peerPointer = client))) client
                rest := by
          funext other
          by_cases isPeer : other = record.peerPointer
          · subst isPeer
            simp [erase, replaceBoth, distinct]
          · by_cases isClient : other = client
            · subst isClient
              simp [erase, replaceBoth, Ne.symm distinct]
            · simp [erase, replaceBoth, isPeer, isClient]
        rwa [sameLists] at erased

theorem clearPeerList_ok (client : κ) (graphOk : GraphOk app) :
    GraphOk (clearPeerList app client).2 ∧ SameLinks app (clearPeerList app client).2 ∧
      (clearPeerList app client).2.peers client = [] := by
  have startOk : Mirrored PeerInfo.peerPointer PeerInfo.numConnection
      (update app.peers client (app.peers client)) := by
    rw [update_eq_self]
    exact graphOk.peers
  rcases clearPeers_ok (app.peers client) (.refl app) startOk with ⟨final, done, same, mirrored⟩
  have finalPeers : (final.modify client fun info => { info with peer := [] }).peers =
      update final.peers client [] := peers_modify_peer (fun _ => []) (.inr rfl)
  have finalSame := same.trans (sameLinks_modify_peer final client fun _ => [])
  have result : (clearPeerList app client).2 =
      final.modify client fun info => { info with peer := [] } := by
    simp [clearPeerList, done]
  rw [result]
  refine ⟨⟨?_, ?_⟩, finalSame, ?_⟩
  · rw [finalPeers]
    exact mirrored
  · rw [finalSame.links, finalSame.numOffloadPair]
    exact graphOk.links
  · simp [finalPeers]

def Peered (app : LanToLan κ ι μ) (a b : κ) : Prop :=
  Adjacent PeerInfo.peerPointer app.peers a b

theorem addPeer_of_peered (peered : Peered app a b) :
    (addPeer app a b).1 = false ∧ SameLinks app (addPeer app a b).2 ∧
      (addPeer app a b).2.peers = update app.peers a (updateFirst (·.peerPointer = b)
        (fun record => { record with numConnection := record.numConnection + 1 })
        (app.peers a)) := by
  have isThere : (app.peers a).any (·.peerPointer = b) = true := by
    simpa [Peered, Adjacent] using peered
  simp only [addPeer, isThere, if_true, true_and]
  exact ⟨sameLinks_modify_peer _ _ (updateFirst (·.peerPointer = b) fun record =>
      { record with numConnection := record.numConnection + 1 }),
    peers_modify_peer (updateFirst (·.peerPointer = b) fun record =>
      { record with numConnection := record.numConnection + 1 }) (.inr rfl)⟩

theorem addPeer_of_not_peered (present : (app.pIface a).isSome) (notPeered : ¬ Peered app a b) :
    (addPeer app a b).1 = true ∧ SameLinks app (addPeer app a b).2 ∧
      (addPeer app a b).2.peers = update app.peers a
        (app.peers a ++ [{ peerPointer := b, numConnection := 1 }]) := by
  have notThere : ¬ (app.peers a).any (·.peerPointer = b) = true := by
    simpa [Peered, Adjacent] using notPeered
  simp only [addPeer, notThere, Bool.false_eq_true, if_false, true_and]
  exact ⟨sameLinks_modify_peer _ _ (· ++ [{ peerPointer := b, numConnection := 1 }]),
    peers_modify_peer (· ++ [{ peerPointer := b, numConnection := 1 }]) (.inl present)⟩

theorem addConnection_ok (graphOk : GraphOk app) (distinct : a ≠ b)
    (presentA : (app.pIface a).isSome) (presentB : (app.pIface b).isSome) :
    GraphOk (addConnection app a b).2 ∧ SameLinks app (addConnection app a b).2 ∧
      ((addConnection app a b).1 = true ↔ ¬ Peered app a b) := by
  by_cases peered : Peered app a b
  · have peeredBack := graphOk.peers.symm peered
    rcases addPeer_of_peered peered with ⟨first, same, peers⟩
    have stillPeered : Peered (addPeer app a b).2 b a := by
      unfold Peered Adjacent
      rw [peers, update_of_ne distinct.symm]
      exact peeredBack
    rcases addPeer_of_peered stillPeered with ⟨second, same', peers'⟩
    refine ⟨⟨?_, ?_⟩, same.trans same', by simp [addConnection, first, second, peered]⟩
    · have counted : (addConnection app a b).2.peers = replaceBoth app.peers a b
          (updateFirst (·.peerPointer = b)
            (fun record => { record with numConnection := record.numConnection + 1 }) (app.peers a))
          (updateFirst (·.peerPointer = a)
            (fun record => { record with numConnection := record.numConnection + 1 })
            (app.peers b)) := by
        simp only [addConnection, peers', peers, update_of_ne distinct.symm, replaceBoth]
      rw [counted]
      apply graphOk.peers.updateFirst distinct
      · intro record
        rfl
      · intro record record' sameCount
        exact congrArg (· + 1) sameCount
    · have sameBoth := same.trans same'
      simp only [addConnection, sameBoth.links, sameBoth.numOffloadPair]
      exact graphOk.links
  · have notBack : ¬ Peered app b a := fun back => peered (graphOk.peers.symm back)
    rcases addPeer_of_not_peered presentA peered with ⟨first, same, peers⟩
    have stillNot : ¬ Peered (addPeer app a b).2 b a := by
      unfold Peered Adjacent
      rw [peers, update_of_ne distinct.symm]
      exact notBack
    rcases addPeer_of_not_peered (by rw [same.pIface]; exact presentB) stillNot with
      ⟨second, same', peers'⟩
    refine ⟨⟨?_, ?_⟩, same.trans same', by simp [addConnection, first, peered]⟩
    · have entered : (addConnection app a b).2.peers = push app.peers a b
          { peerPointer := b, numConnection := 1 } { peerPointer := a, numConnection := 1 } := by
        simp only [addConnection, peers', peers, update_of_ne distinct.symm, push,
          replaceBoth]
      rw [entered]
      exact graphOk.peers.push distinct rfl rfl rfl peered
    · have sameBoth := same.trans same'
      simp only [addConnection, sameBoth.links, sameBoth.numOffloadPair]
      exact graphOk.links

theorem removePeer_of_not_peered (notPeered : ¬ Peered app a b) : removePeer app a b =
    (false, app) := by
  have notFound : (app.peers a).find? (·.peerPointer = b) = none := by
    rw [find?_eq_none]
    intro record mem named
    exact notPeered ⟨record, mem, by simpa using named⟩
  simp [removePeer, notFound]

theorem removePeer_of_peered (nodup : ((app.peers a).map PeerInfo.peerPointer).Nodup)
    {record : PeerInfo κ} (mem : record ∈ app.peers a) (named : record.peerPointer = b) :
    SameLinks app (removePeer app a b).2 ∧
      ((removePeer app a b).1 = true ↔ record.numConnection = 1) ∧
      (removePeer app a b).2.peers = update app.peers a
        (if record.numConnection = 1 then (app.peers a).eraseP (·.peerPointer = b)
         else updateFirst (·.peerPointer = b)
          (fun record => { record with numConnection := record.numConnection - 1 })
          (app.peers a)) := by
  have found : (app.peers a).find? (·.peerPointer = b) = some record := by
    have isThere : ((app.peers a).find? (·.peerPointer = b)).isSome := by
      rw [find?_isSome]
      exact ⟨record, mem, by simpa using named⟩
    rcases Option.isSome_iff_exists.mp isThere with ⟨first, isFirst⟩
    have firstNamed : first.peerPointer = b := by simpa using find?_some isFirst
    rw [isFirst, eq_of_key_eq nodup (mem_of_find?_eq_some isFirst) mem
      (firstNamed.trans named.symm)]
  by_cases last : record.numConnection = 1
  · have result : removePeer app a b = (true, app.modify a fun info =>
        { info with peer := info.peer.eraseP (·.peerPointer = b) }) := by
      simp [removePeer, found, last]
    simp only [result, last, if_true, true_and]
    exact ⟨sameLinks_modify_peer _ _ (·.eraseP (·.peerPointer = b)),
      peers_modify_peer (·.eraseP (·.peerPointer = b)) (.inr rfl)⟩
  · have notZero : ¬ record.numConnection - 1 = 0 := by omega
    have result : removePeer app a b = (false, app.modify a fun info =>
        { info with
          peer := updateFirst (·.peerPointer = b)
            (fun record => { record with numConnection := record.numConnection - 1 })
            info.peer }) := by
      simp [removePeer, found, notZero]
    simp only [result, last, if_false, Bool.false_eq_true, true_and]
    exact ⟨sameLinks_modify_peer _ _ (updateFirst (·.peerPointer = b) fun record =>
        { record with numConnection := record.numConnection - 1 }),
      peers_modify_peer (updateFirst (·.peerPointer = b) fun record =>
        { record with numConnection := record.numConnection - 1 }) (.inr rfl)⟩

def LastConnection (app : LanToLan κ ι μ) (a b : κ) : Prop :=
  ∃ record ∈ app.peers a, record.peerPointer = b ∧ record.numConnection = 1

theorem removeConnection_ok (a b : κ) (graphOk : GraphOk app) :
    GraphOk (removeConnection app a b).2 ∧ SameLinks app (removeConnection app a b).2 ∧
      ((removeConnection app a b).1 = true ↔ LastConnection app a b) ∧
      (LastConnection app a b →
        (removeConnection app a b).2.peers = erase PeerInfo.peerPointer app.peers a b) := by
  by_cases peered : Peered app a b
  · have distinct : a ≠ b := (graphOk.peers.ne peered).symm
    rcases peered with ⟨record, mem, named⟩
    rcases graphOk.peers.mirror a record mem with ⟨back, backMem, backNamed, sameCount⟩
    rw [named] at backMem
    have isLast : LastConnection app a b ↔ record.numConnection = 1 := by
      constructor
      · rintro ⟨other, otherMem, otherNamed, isOne⟩
        rw [← eq_of_key_eq (graphOk.peers.nodup a) otherMem mem (otherNamed.trans named.symm)]
        exact isOne
      · intro isOne
        exact ⟨record, mem, named, isOne⟩
    rcases removePeer_of_peered (graphOk.peers.nodup a) mem named with ⟨same, _, peers⟩
    have sameList : (removePeer app a b).2.peers b = app.peers b := by
      rw [peers, update_of_ne distinct.symm]
    rcases removePeer_of_peered (sameList.symm ▸ graphOk.peers.nodup b) (sameList.symm ▸ backMem)
      backNamed with ⟨same', second, peers'⟩
    have sameBoth := same.trans same'
    rw [sameCount] at second peers'
    refine ⟨⟨?_, ?_⟩, sameBoth, by rw [isLast]; exact second, ?_⟩
    · by_cases isOne : record.numConnection = 1
      · have erased : (removeConnection app a b).2.peers =
            erase PeerInfo.peerPointer app.peers a b := by
          simp only [removeConnection, peers', peers, isOne, if_true, sameList,
            erase, replaceBoth]
        rw [erased]
        exact graphOk.peers.erase distinct
      · have counted : (removeConnection app a b).2.peers = replaceBoth app.peers a b
            (updateFirst (·.peerPointer = b)
              (fun record => { record with numConnection := record.numConnection - 1 })
              (app.peers a))
            (updateFirst (·.peerPointer = a)
              (fun record => { record with numConnection := record.numConnection - 1 })
              (app.peers b)) := by
          simp only [removeConnection, peers', peers, isOne, if_false, sameList, replaceBoth]
        rw [counted]
        apply graphOk.peers.updateFirst distinct
        · intro record
          rfl
        · intro record record' sameCount
          exact congrArg (· - 1) sameCount
    · simp only [removeConnection, sameBoth.links, sameBoth.numOffloadPair]
      exact graphOk.links
    · intro last
      simp only [removeConnection, peers', peers, isLast.mp last, if_true, sameList,
        erase, replaceBoth]
  · have notBack : ¬ Peered app b a := fun back => peered (graphOk.peers.symm back)
    have notLast : ¬ LastConnection app a b := by
      rintro ⟨record, mem, named, _⟩
      exact peered ⟨record, mem, named⟩
    have unchanged : removeConnection app a b = (false, app) := by
      simp [removeConnection, removePeer_of_not_peered peered, removePeer_of_not_peered notBack]
    rw [unchanged]
    exact ⟨graphOk, .refl app, by simp [notLast], fun last => absurd last notLast⟩

theorem GraphOk.eraseClient (graphOk : GraphOk app) (noPeers : app.peers a = [])
    (noLinks : app.links a = []) : GraphOk (app.eraseClient a) :=
  graphOk.congr (peers_eraseClient noPeers) (links_eraseClient noLinks) rfl

def NoLinksIfLeft (app : LanToLan κ ι μ) (a : κ) : Prop :=
  app.isActive a = false → app.isPowersave a = false → app.peers a = [] → app.links a = []

theorem eraseIfLeft_ok (graphOk : GraphOk app) (noLinks : NoLinksIfLeft app a) :
    GraphOk (eraseIfLeft app a) ∧ (eraseIfLeft app a).peers = app.peers ∧
      (eraseIfLeft app a).links = app.links ∧
      ∀ c, c ≠ a → (eraseIfLeft app a).clientInfo c = app.clientInfo c := by
  cases found : app.clientInfo a with
  | none => simp [eraseIfLeft, found, graphOk]
  | some info =>
      by_cases left : info.isActive = false ∧ info.isPowersave = false ∧ info.peer.length = 0
      · have noPeers : app.peers a = [] := by
          simpa [LanToLan.peers, found] using eq_nil_of_length_eq_zero left.2.2
        have noLinksA := noLinks (by simp [isActive, found, left.1])
          (by simp [isPowersave, found, left.2.1]) noPeers
        have result : eraseIfLeft app a = app.eraseClient a := by simp [eraseIfLeft, found, left]
        rw [result]
        refine ⟨graphOk.eraseClient noPeers noLinksA, peers_eraseClient noPeers,
          links_eraseClient noLinksA, ?_⟩
        intro c notA
        simp [LanToLan.eraseClient, notA]
      · have result : eraseIfLeft app a = app := by simp only [eraseIfLeft, found, left, if_false]
        rw [result]
        exact ⟨graphOk, rfl, rfl, fun _ _ => rfl⟩

end Connections

end HtcPme.Ipacm.LanToLan
