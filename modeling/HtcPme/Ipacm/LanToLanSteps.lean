import HtcPme.Ipacm.LanToLan

/-!
# Steps of the LAN-to-LAN handlers

What the functions below the handlers do to the lists of the clients and to the
filtering rules: when a call to an interface succeeds, and which fields it leaves alone.
-/

namespace HtcPme.Ipacm.LanToLan

open Adjacency

variable {κ ι μ : Type}

structure SameClients (app next : LanToLan κ ι μ) : Prop where
  peers : next.peers = app.peers
  isActive : next.isActive = app.isActive
  isPowersave : next.isPowersave = app.isPowersave
  pIface : next.pIface = app.pIface

theorem SameClients.refl (app : LanToLan κ ι μ) : SameClients app app := ⟨rfl, rfl, rfl, rfl⟩

theorem SameClients.trans {app app' next : LanToLan κ ι μ} (first : SameClients app app')
    (second : SameClients app' next) : SameClients app next :=
  ⟨second.peers.trans first.peers, second.isActive.trans first.isActive,
    second.isPowersave.trans first.isPowersave, second.pIface.trans first.pIface⟩

variable {app next : LanToLan κ ι μ}

theorem SameClients.of_clientInfo
    (same : next.clientInfo = app.clientInfo) : SameClients app next := by
  constructor
  · funext client
    simp only [LanToLan.peers, same]
  · funext client
    simp only [LanToLan.isActive, same]
  · funext client
    simp only [LanToLan.isPowersave, same]
  · funext client
    simp only [LanToLan.pIface, same]

theorem sameClients_incOffloadPair (app : LanToLan κ ι μ) : SameClients app app.incOffloadPair :=
  .of_clientInfo rfl

theorem sameClients_decOffloadPair (app : LanToLan κ ι μ) : SameClients app app.decOffloadPair :=
  .of_clientInfo rfl

theorem links_of_clientInfo (same : next.clientInfo = app.clientInfo) : next.links = app.links := by
  funext client
  simp only [links, same]

section Views

variable {app : LanToLan κ ι μ} {client : κ}

theorem pIface_eq_none : app.pIface client = none ↔ app.clientInfo client = none := by
  simp [pIface]

theorem present_of_link {link : OffloadLinkInfo κ} (mem : link ∈ app.links client) :
    (app.pIface client).isSome := by
  cases present : app.clientInfo client with
  | none => simp [links, present] at mem
  | some info => simp [pIface, present]

theorem present_of_peer {record : PeerInfo κ} (mem : record ∈ app.peers client) :
    (app.pIface client).isSome := by
  cases present : app.clientInfo client with
  | none => simp [peers, present] at mem
  | some info => simp [pIface, present]

theorem peers_of_absent (absent : app.pIface client = none) : app.peers client = [] := by
  simp [peers, pIface_eq_none.mp absent]

variable [DecidableEq κ] {change : ClientInfo κ ι μ → ClientInfo κ ι μ}

theorem view_modify {α : Type} (view : Option (ClientInfo κ ι μ) → α)
    (keeps : ∀ info, view (some (change info)) = view (some info)) :
    (fun other => view ((app.modify client change).clientInfo other)) =
      fun other => view (app.clientInfo other) := by
  funext other
  by_cases same : other = client
  · subst same
    cases present : app.clientInfo other with
    | none => simp [modify, present]
    | some info => simp [modify, present, keeps]
  · simp [modify, same]

theorem peers_modify (keeps : ∀ info, (change info).peer = info.peer) :
    (app.modify client change).peers = app.peers :=
  view_modify (fun info => { app with clientInfo := fun _ => info }.peers client) keeps

theorem links_modify (keeps : ∀ info, (change info).link = info.link) :
    (app.modify client change).links = app.links :=
  view_modify (fun info => { app with clientInfo := fun _ => info }.links client) keeps

theorem isActive_modify (keeps : ∀ info, (change info).isActive = info.isActive) :
    (app.modify client change).isActive = app.isActive :=
  view_modify (fun info => { app with clientInfo := fun _ => info }.isActive client) keeps

theorem isPowersave_modify (keeps : ∀ info, (change info).isPowersave = info.isPowersave) :
    (app.modify client change).isPowersave = app.isPowersave :=
  view_modify (fun info => { app with clientInfo := fun _ => info }.isPowersave client) keeps

theorem pIface_modify (keeps : ∀ info, (change info).pIface = info.pIface) :
    (app.modify client change).pIface = app.pIface :=
  view_modify (fun info => info.map (·.pIface)) fun info => by simp [keeps]

theorem sameClients_modify_link (update : List (OffloadLinkInfo κ) → List (OffloadLinkInfo κ)) :
    SameClients app (app.modify client fun info => { info with link := update info.link }) :=
  ⟨peers_modify fun _ => rfl, isActive_modify fun _ => rfl, isPowersave_modify fun _ => rfl,
    pIface_modify fun _ => rfl⟩

theorem links_modify_link (update : List (OffloadLinkInfo κ) → List (OffloadLinkInfo κ))
    (present : (app.pIface client).isSome ∨ update [] = []) :
    (app.modify client fun info => { info with link := update info.link }).links =
      Function.update app.links client (update (app.links client)) := by
  funext other
  by_cases same : other = client
  · subst same
    cases found : app.clientInfo other with
    | none =>
        have keepsNil := present.resolve_left (by simp [pIface, found])
        simp [links, modify, found, keepsNil]
    | some info => simp [links, modify, found]
  · simp [links, modify, same]

theorem peers_modify_peer (update : List (PeerInfo κ) → List (PeerInfo κ))
    (present : (app.pIface client).isSome ∨ update [] = []) :
    (app.modify client fun info => { info with peer := update info.peer }).peers =
      Function.update app.peers client (update (app.peers client)) := by
  funext other
  by_cases same : other = client
  · subst same
    cases found : app.clientInfo other with
    | none =>
        have keepsNil := present.resolve_left (by simp [pIface, found])
        simp [peers, modify, found, keepsNil]
    | some info => simp [peers, modify, found]
  · simp [peers, modify, same]

theorem links_eraseClient (noLinks : app.links client = []) :
    (app.eraseClient client).links = app.links := by
  funext other
  by_cases same : other = client
  · subst same
    rw [noLinks]
    simp [links, eraseClient]
  · simp [links, eraseClient, same]

theorem peers_eraseClient (noPeers : app.peers client = []) :
    (app.eraseClient client).peers = app.peers := by
  funext other
  by_cases same : other = client
  · subst same
    rw [noPeers]
    simp [peers, eraseClient]
  · simp [peers, eraseClient, same]

end Views

section Calls

variable {app next : LanToLan κ ι μ} {client peer : κ}

def fltRoom (pIface : κ → Option ι) (room : ι → ℕ) (client : κ) : ℕ :=
  match pIface client with
  | some iface => room iface
  | none => 0

def room (app : LanToLan κ ι μ) (iface : ι) : ℕ := (app.lan iface).room

def KnowsHandle (app : LanToLan κ ι μ) (client : κ) (hdl : ℕ) : Prop :=
  ∃ iface, app.pIface client = some iface ∧ (app.lan iface).HasHandle hdl

def SameHandles (app next : LanToLan κ ι μ) : Prop :=
  ∀ iface, (next.lan iface).lan2lanFltRuleHdl.map (·.ruleHdl) =
    (app.lan iface).lan2lanFltRuleHdl.map (·.ruleHdl)

theorem SameHandles.refl (app : LanToLan κ ι μ) : SameHandles app app := fun _ => rfl

theorem SameHandles.trans {app app' next : LanToLan κ ι μ} (first : SameHandles app app')
    (second : SameHandles app' next) : SameHandles app next :=
  fun iface => (second iface).trans (first iface)

variable {hdl : ℕ} {mdfy : Bool} {stored : Option ℕ}

theorem knowsHandle_congr (sameIface : next.pIface = app.pIface) (handles : SameHandles app next)
     : next.KnowsHandle client hdl ↔ app.KnowsHandle client hdl := by
  simp only [KnowsHandle, sameIface, LanFlt.hasHandle_congr (handles _)]

variable [DecidableEq ι]

theorem addLan2lanFltRule_eq_some
    (added : app.addLan2lanFltRule mdfy client peer stored = some (hdl, next)) :
    ∃ iface flt, app.pIface client = some iface ∧
      (app.lan iface).addLan2lanFltRule mdfy client peer = some (hdl, flt) ∧
      next = { app with
        lan := Function.update app.lan iface flt
        fltCalls := app.fltCalls ++
          [.install client peer (stored.bind (app.lan iface).ruleAt)] } := by
  unfold addLan2lanFltRule at added
  split at added
  · cases added
  · rename_i info present
    split at added
    · cases added
    · rename_i hdl' flt isAdded
      cases added
      exact ⟨info.pIface, flt, by simp [pIface, present], isAdded, rfl⟩

theorem addLan2lanFltRule_isSome :
    (app.addLan2lanFltRule mdfy client peer stored).isSome ↔
      mdfy = true ∧ 0 < fltRoom app.pIface app.room client := by
  unfold addLan2lanFltRule fltRoom pIface room
  cases present : app.clientInfo client with
  | none => simp
  | some info =>
      have onIface : ((app.lan info.pIface).addLan2lanFltRule mdfy client peer).isSome ↔ _ :=
        LanFlt.addLan2lanFltRule_isSome
      simp only [Option.map_some]
      rw [← onIface]
      cases (app.lan info.pIface).addLan2lanFltRule mdfy client peer with
      | none => simp
      | some result => simp

theorem addLan2lanFltRule_room
    (added : app.addLan2lanFltRule mdfy client peer stored = some (hdl, next)) :
    next.room = fun iface => app.room iface - if app.pIface client = some iface then 1 else 0 := by
  rcases addLan2lanFltRule_eq_some added with ⟨iface, flt, onIface, isAdded, rfl⟩
  have oneLess := LanFlt.addLan2lanFltRule_room isAdded
  funext other
  by_cases same : other = iface
  · subst same
    simp only [room, Function.update_self, onIface, if_true]
    omega
  · simp [room, same, onIface, Ne.symm same]

theorem addLan2lanFltRule_clientInfo
    (added : app.addLan2lanFltRule mdfy client peer stored = some (hdl, next)) :
    next.clientInfo = app.clientInfo ∧ next.numOffloadPair = app.numOffloadPair := by
  rcases addLan2lanFltRule_eq_some added with ⟨_, _, _, _, rfl⟩
  exact ⟨rfl, rfl⟩

theorem delLan2lanFltRule_cases (app : LanToLan κ ι μ) (client peer : κ) (reset : Bool) (hdl : ℕ) :
    (∃ iface found flt, app.pIface client = some iface ∧
      (app.lan iface).delLan2lanFltRule reset hdl = some (found, flt) ∧
      app.delLan2lanFltRule reset client peer hdl = (true,
        { app with
          lan := Function.update app.lan iface flt
          fltCalls := app.fltCalls ++ [.delete client peer found] })) ∨
    app.delLan2lanFltRule reset client peer hdl = (false, app) := by
  unfold delLan2lanFltRule
  cases present : app.clientInfo client with
  | none => exact .inr rfl
  | some info =>
      cases deleted : (app.lan info.pIface).delLan2lanFltRule reset hdl with
      | none => simp [deleted]
      | some result =>
          left
          exact ⟨info.pIface, result.1, result.2, by simp [pIface, present], by simp [deleted],
            by simp [deleted]⟩

theorem delLan2lanFltRule_succeeds {reset : Bool} :
    (app.delLan2lanFltRule reset client peer hdl).1 = true ↔
      reset = true ∧ app.KnowsHandle client hdl := by
  unfold delLan2lanFltRule KnowsHandle pIface
  cases present : app.clientInfo client with
  | none => simp
  | some info =>
      have onIface : ((app.lan info.pIface).delLan2lanFltRule reset hdl).isSome ↔ _ :=
        LanFlt.delLan2lanFltRule_isSome
      simp only [Option.map_some, Option.some.injEq, exists_eq_left']
      rw [← onIface]
      cases (app.lan info.pIface).delLan2lanFltRule reset hdl with
      | none => simp
      | some result => simp

theorem delLan2lanFltRule_clientInfo (app : LanToLan κ ι μ) (client peer : κ) (reset : Bool)
    (hdl : ℕ) :
    (app.delLan2lanFltRule reset client peer hdl).2.clientInfo = app.clientInfo ∧
      (app.delLan2lanFltRule reset client peer hdl).2.numOffloadPair = app.numOffloadPair := by
  rcases app.delLan2lanFltRule_cases client peer reset hdl with
    ⟨_, _, _, _, _, next⟩ | next
  · simp [next]
  · simp [next]

theorem delLan2lanFltRule_handles (app : LanToLan κ ι μ) (client peer : κ) (reset : Bool)
    (hdl : ℕ) :
    SameHandles app (app.delLan2lanFltRule reset client peer hdl).2 := by
  rcases app.delLan2lanFltRule_cases client peer reset hdl with
    ⟨iface, _, flt, _, deleted, next⟩ | next
  · rw [next]
    intro other
    by_cases same : other = iface
    · subst same
      simpa using LanFlt.delLan2lanFltRule_handles deleted
    · simp [same]
  · rw [next]
    exact .refl app

end Calls

section Links

variable {answers : LanAnswers κ} {app : LanToLan κ ι μ} {client peer : κ}

def Linked (app : LanToLan κ ι μ) (client peer : κ) : Prop :=
  Adjacent OffloadLinkInfo.peerPointer app.links client peer

/-- `del_offload_link` succeeds for a link in the list of the client. -/
def LinkDeletable (answers : LanAnswers κ) (app : LanToLan κ ι μ) (client : κ)
    (link : OffloadLinkInfo κ) : Prop :=
  app.KnowsHandle client link.fltRuleHdl ∧ answers.resetFltRule client link.peerPointer = true ∧
    answers.delRtRule client link.peerPointer = true ∧
    answers.delHdr client link.peerPointer = true

variable {link : OffloadLinkInfo κ}

theorem linkDeletable_congr {next : LanToLan κ ι μ} (sameIface : next.pIface = app.pIface)
    (handles : SameHandles app next) :
    LinkDeletable answers next client link ↔ LinkDeletable answers app client link := by
  simp only [LinkDeletable, knowsHandle_congr sameIface handles]

/-- The interfaces grant everything that a link of a client to a peer needs, apart from
room for the filtering rule. -/
def OffersLink (answers : LanAnswers κ) (client peer : κ) : Prop :=
  (answers.addHdr client peer).isSome ∧ (answers.addRtRule client peer).isSome ∧
    answers.mdfyFltRule client peer = true

variable [DecidableEq ι]

theorem delOffloadLink_succeeds :
    (delOffloadLink answers app client link).1 = true ↔ LinkDeletable answers app client link := by
  simp only [delOffloadLink, LinkDeletable, Bool.and_eq_true, delLan2lanFltRule_succeeds]
  tauto

theorem delOffloadLink_clientInfo (answers : LanAnswers κ) (app : LanToLan κ ι μ) (client : κ)
    (link : OffloadLinkInfo κ) :
    (delOffloadLink answers app client link).2.clientInfo = app.clientInfo ∧
      (delOffloadLink answers app client link).2.numOffloadPair = app.numOffloadPair :=
  delLan2lanFltRule_clientInfo _ _ _ _ _

theorem delOffloadLink_handles (answers : LanAnswers κ) (app : LanToLan κ ι μ) (client : κ)
    (link : OffloadLinkInfo κ) :
    SameHandles app (delOffloadLink answers app client link).2 :=
  delLan2lanFltRule_handles _ _ _ _ _

variable [DecidableEq κ]

theorem addOffloadLink_succeeds (few : app.numOffloadPair < maxOffloadPair)
    (offers : OffersLink answers client peer) (hasRoom : 0 < fltRoom app.pIface app.room client) :
    ∃ link hdl next, addOffloadLink answers app client peer =
        (true, next.modify client fun info => { info with link := info.link ++ [link] }) ∧
      app.addLan2lanFltRule true client peer none = some (hdl, next) ∧
      link.peerPointer = peer ∧ link.fltRuleHdl = hdl := by
  rcases offers with ⟨hdr, rtRule, mdfy⟩
  rcases Option.isSome_iff_exists.mp hdr with ⟨hdrHdl, hdrEq⟩
  rcases Option.isSome_iff_exists.mp rtRule with ⟨rtRuleHdl, rtRuleEq⟩
  have isAdded : (app.addLan2lanFltRule true client peer none).isSome :=
    addLan2lanFltRule_isSome.mpr ⟨rfl, hasRoom⟩
  rcases Option.isSome_iff_exists.mp isAdded with ⟨⟨hdl, next⟩, added⟩
  refine ⟨⟨peer, hdl, rtRuleHdl, hdrHdl⟩, hdl, next, ?_, added, rfl, rfl⟩
  simp only [addOffloadLink, Nat.not_le.mpr few, if_false, hdrEq, rtRuleEq, mdfy, added]

theorem addOffloadLink_fails (refused : app.numOffloadPair < maxOffloadPair →
      ¬ (OffersLink answers client peer ∧ 0 < fltRoom app.pIface app.room client)) :
    addOffloadLink answers app client peer = (false, app) := by
  unfold addOffloadLink
  split
  · rfl
  · rename_i few
    split
    · rfl
    · rename_i hdr
      split
      · rfl
      · rename_i rtRule
        split
        · rfl
        · rename_i added
          have isAdded := addLan2lanFltRule_isSome.mp (Option.isSome_of_mem added)
          exact absurd ⟨⟨by simp [hdr], by simp [rtRule], isAdded.1⟩, isAdded.2⟩
            (refused (by omega))

end Links

end HtcPme.Ipacm.LanToLan
