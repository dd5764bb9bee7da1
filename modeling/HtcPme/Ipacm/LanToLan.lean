import HtcPme.Ipacm.LanFilter

/-!
# Offloaded LAN-to-LAN traffic

`IPACM_LanToLan` keeps a table of the clients of one IP type, each with its peers and its offload
links. A client is named by its key, its IPv4 address or the lower half of its IPv6 address, and so
is a pointer to it.
-/

namespace HtcPme.Ipacm

open Adjacency

structure LanToLanRtRuleHdl where
  ruleHdl : List ℕ
  numRule : ℕ
  deriving DecidableEq

structure PeerInfo (κ : Type) where
  peerPointer : κ
  numConnection : ℤ
  deriving DecidableEq

structure OffloadLinkInfo (κ : Type) where
  peerPointer : κ
  fltRuleHdl : ℕ
  rtRuleHdl : LanToLanRtRuleHdl
  hdrHdl : ℕ
  deriving DecidableEq

structure ClientInfo (κ ι μ : Type) where
  macAddr : μ
  isActive : Bool
  isPowersave : Bool
  pIface : ι
  peer : List (PeerInfo κ)
  link : List (OffloadLinkInfo κ)
  deriving DecidableEq

/-- `ipacm_event_lan_client`: the key of the client and the pointers that may be null. -/
structure EventLanClient (κ ι μ : Type) where
  addr : κ
  macAddr : Option μ
  ipv6AddrSet : Bool
  pIface : Option ι

def EventLanClient.populated {κ ι μ : Type} (data : EventLanClient κ ι μ) : Option (μ × ι) :=
  match data.macAddr, data.pIface with
  | some macAddr, some pIface => if data.ipv6AddrSet then some (macAddr, pIface) else none
  | _, _ => none

/-- What the interfaces answer during one event, by the client and the peer of the link
that the call is made for. -/
structure LanAnswers (κ : Type) where
  /-- `add_lan2lan_hdr` -/
  addHdr : κ → κ → Option ℕ
  /-- `add_lan2lan_rt_rule` -/
  addRtRule : κ → κ → Option LanToLanRtRuleHdl
  /-- whether a rule can be modified for `add_offload_link` -/
  mdfyFltRule : κ → κ → Bool
  /-- whether a rule can be modified for `add_flt_rules` -/
  restoreFltRule : κ → κ → Bool
  /-- whether a rule can be reset -/
  resetFltRule : κ → κ → Bool
  /-- `del_lan2lan_rt_rule` -/
  delRtRule : κ → κ → Bool
  /-- `del_lan2lan_hdr` -/
  delHdr : κ → κ → Bool

/-- One successful access to the filtering rules of an interface, on behalf of the link
of a client to a peer. -/
inductive FltCall (κ : Type) where
  /-- a rule is deleted, with the rule that was in place -/
  | delete (client peer : κ) (found : Option (κ × κ))
  /-- a rule is installed, with the rule in place under the handle it takes over from -/
  | install (client peer : κ) (stored : Option (κ × κ))
  deriving DecidableEq

/-- The table of one IP type, the filtering rules of the interfaces for that IP type, and
the accesses to these so far. -/
structure LanToLan (κ ι μ : Type) where
  clientInfo : κ → Option (ClientInfo κ ι μ)
  numOffloadPair : ℕ
  lan : ι → LanFlt κ
  fltCalls : List (FltCall κ)

namespace LanToLan

variable {κ ι μ : Type}

def links (app : LanToLan κ ι μ) (client : κ) : List (OffloadLinkInfo κ) :=
  match app.clientInfo client with
  | some info => info.link
  | none => []

def peers (app : LanToLan κ ι μ) (client : κ) : List (PeerInfo κ) :=
  match app.clientInfo client with
  | some info => info.peer
  | none => []

def isActive (app : LanToLan κ ι μ) (client : κ) : Bool :=
  match app.clientInfo client with
  | some info => info.isActive
  | none => false

def isPowersave (app : LanToLan κ ι μ) (client : κ) : Bool :=
  match app.clientInfo client with
  | some info => info.isPowersave
  | none => false

def pIface (app : LanToLan κ ι μ) (client : κ) : Option ι :=
  (app.clientInfo client).map (·.pIface)

variable [DecidableEq κ]

def modify (app : LanToLan κ ι μ) (client : κ) (change : ClientInfo κ ι μ → ClientInfo κ ι μ) :
    LanToLan κ ι μ :=
  { app with
    clientInfo := Function.update app.clientInfo client ((app.clientInfo client).map change) }

def insert (app : LanToLan κ ι μ) (client : κ) (info : ClientInfo κ ι μ) : LanToLan κ ι μ :=
  { app with clientInfo := Function.update app.clientInfo client (some info) }

def eraseClient (app : LanToLan κ ι μ) (client : κ) : LanToLan κ ι μ :=
  { app with clientInfo := Function.update app.clientInfo client none }

def incOffloadPair (app : LanToLan κ ι μ) : LanToLan κ ι μ :=
  { app with numOffloadPair := (app.numOffloadPair + 1) % 256 }

def decOffloadPair (app : LanToLan κ ι μ) : LanToLan κ ι μ :=
  { app with numOffloadPair := (app.numOffloadPair + 255) % 256 }

variable [DecidableEq ι]

/-- `client->p_iface->add_lan2lan_flt_rule`, where `stored` is the handle that the new
one replaces in the link. -/
def addLan2lanFltRule (app : LanToLan κ ι μ) (mdfy : Bool) (client peer : κ) (stored : Option ℕ) :
    Option (ℕ × LanToLan κ ι μ) :=
  match app.clientInfo client with
  | none => none
  | some info =>
      match (app.lan info.pIface).addLan2lanFltRule mdfy client peer with
      | none => none
      | some (hdl, flt) =>
          some (hdl,
            { app with
              lan := Function.update app.lan info.pIface flt
              fltCalls := app.fltCalls ++
                [.install client peer (stored.bind (app.lan info.pIface).ruleAt)] })

def delLan2lanFltRule (app : LanToLan κ ι μ) (reset : Bool) (client peer : κ) (hdl : ℕ) :
    Bool × LanToLan κ ι μ :=
  match app.clientInfo client with
  | none => (false, app)
  | some info =>
      match (app.lan info.pIface).delLan2lanFltRule reset hdl with
      | none => (false, app)
      | some (found, flt) =>
          (true,
            { app with
              lan := Function.update app.lan info.pIface flt
              fltCalls := app.fltCalls ++ [.delete client peer found] })

/-- `add_offload_link`. The header and the routing rules that are undone when a later
part fails leave nothing behind. -/
def addOffloadLink (answers : LanAnswers κ) (app : LanToLan κ ι μ) (client peer : κ) :
    Bool × LanToLan κ ι μ :=
  if app.numOffloadPair ≥ maxOffloadPair then (false, app)
  else
    match answers.addHdr client peer with
    | none => (false, app)
    | some hdrHdl =>
        match answers.addRtRule client peer with
        | none => (false, app)
        | some rtRuleHdl =>
            match app.addLan2lanFltRule (answers.mdfyFltRule client peer) client peer none with
            | none => (false, app)
            | some (fltHdl, next) =>
                (true, next.modify client fun info =>
                  { info with link := info.link ++
                      [{ peerPointer := peer, fltRuleHdl := fltHdl,
                         rtRuleHdl := rtRuleHdl, hdrHdl := hdrHdl }] })

def delOffloadLink (answers : LanAnswers κ) (app : LanToLan κ ι μ) (client : κ)
    (link : OffloadLinkInfo κ) : Bool × LanToLan κ ι μ :=
  let flt := app.delLan2lanFltRule (answers.resetFltRule client link.peerPointer) client
    link.peerPointer link.fltRuleHdl
  (flt.1 && answers.delRtRule client link.peerPointer && answers.delHdr client link.peerPointer,
    flt.2)

def eraseLink (app : LanToLan κ ι μ) (client peer : κ) : LanToLan κ ι μ :=
  app.modify client fun info => { info with link := info.link.eraseP (·.peerPointer = peer) }

/-- The loop of `turnoff_offload_links` over the links of the client. -/
def turnoffLinks (answers : LanAnswers κ) (client : κ) :
    List (OffloadLinkInfo κ) → LanToLan κ ι μ → Bool × LanToLan κ ι μ
  | [], app => (true, app)
  | link :: rest, app =>
      let own := delOffloadLink answers app client link
      if own.1 then
        match (own.2.links link.peerPointer).find? (·.peerPointer = client) with
        | none => (false, own.2)
        | some back =>
            let other := delOffloadLink answers own.2 link.peerPointer back
            if other.1 then
              turnoffLinks answers client rest
                (other.2.eraseLink link.peerPointer client).decOffloadPair
            else (false, other.2)
      else (false, own.2)

def turnoffOffloadLinks (answers : LanAnswers κ) (app : LanToLan κ ι μ) (client : κ) :
    Bool × LanToLan κ ι μ :=
  let off := turnoffLinks answers client (app.links client) app
  if off.1 then (true, off.2.modify client fun info => { info with link := [] }) else (false, off.2)

/-- The body of the loop of `check_potential_link`. The result of adding the first
direction is overwritten by that of the second. -/
def checkPotentialPeer (answers : LanAnswers κ) (client : κ) (app : LanToLan κ ι μ)
    (record : PeerInfo κ) : LanToLan κ ι μ :=
  if app.isActive record.peerPointer ∧ record.numConnection > 0 then
    let first := addOffloadLink answers app client record.peerPointer
    let second := addOffloadLink answers first.2 record.peerPointer client
    if second.1 then second.2.incOffloadPair else second.2
  else app

def checkPotentialLink (answers : LanAnswers κ) (app : LanToLan κ ι μ) (client : κ) :
    LanToLan κ ι μ :=
  (app.peers client).foldl (checkPotentialPeer answers client) app

/-- One of the two loops of `erase_offload_link`: the first link of the client to the
peer is erased, whether its rules could be deleted or not. -/
def eraseOneLink (answers : LanAnswers κ) (app : LanToLan κ ι μ) (client peer : κ) :
    Bool × LanToLan κ ι μ :=
  match (app.links client).find? (·.peerPointer = peer) with
  | none => (false, app)
  | some link =>
      let off := delOffloadLink answers app client link
      (off.1, off.2.eraseLink client peer)

def eraseOffloadLink (answers : LanAnswers κ) (app : LanToLan κ ι μ) (src dst : κ) :
    LanToLan κ ι μ :=
  let resSrc := eraseOneLink answers app src dst
  let resDst := eraseOneLink answers resSrc.2 dst src
  if resSrc.1 && resDst.1 then resDst.2.decOffloadPair else resDst.2

/-- The loop of `remove_flt_rules` over the links of the client. A rule that cannot be
deleted is only logged. -/
def removeFltRulesLoop (answers : LanAnswers κ) (client : κ) :
    List (OffloadLinkInfo κ) → LanToLan κ ι μ → Bool × LanToLan κ ι μ
  | [], app => (true, app)
  | link :: rest, app =>
      let own := (app.delLan2lanFltRule (answers.resetFltRule client link.peerPointer) client
        link.peerPointer link.fltRuleHdl).2
      match (own.links link.peerPointer).find? (·.peerPointer = client) with
      | none => (false, own)
      | some back =>
          removeFltRulesLoop answers client rest
            (own.delLan2lanFltRule (answers.resetFltRule link.peerPointer client)
              link.peerPointer client back.fltRuleHdl).2

def removeFltRules (answers : LanAnswers κ) (app : LanToLan κ ι μ) (client : κ) :
    Bool × LanToLan κ ι μ :=
  removeFltRulesLoop answers client (app.links client) app

/-- The loop of `add_flt_rules` over the links of the client, from a position on. The
new handles overwrite those of the link and of the first link back. -/
def addFltRulesLoop (answers : LanAnswers κ) (client : κ) :
    ℕ → List (OffloadLinkInfo κ) → LanToLan κ ι μ → Bool × LanToLan κ ι μ
  | _, [], app => (true, app)
  | position, link :: rest, app =>
      match app.addLan2lanFltRule (answers.restoreFltRule client link.peerPointer) client
          link.peerPointer (some link.fltRuleHdl) with
      | none => (false, app)
      | some (hdl, added) =>
          let own := added.modify client fun info =>
            { info with
              link := info.link.modify position fun link => { link with fltRuleHdl := hdl } }
          match (own.links link.peerPointer).find? (·.peerPointer = client) with
          | none => (false, own)
          | some back =>
              match own.addLan2lanFltRule (answers.restoreFltRule link.peerPointer client)
                  link.peerPointer client (some back.fltRuleHdl) with
              | none => (false, own)
              | some (backHdl, addedBack) =>
                  addFltRulesLoop answers client (position + 1) rest
                    (addedBack.modify link.peerPointer fun info =>
                      { info with
                        link := updateFirst (·.peerPointer = client)
                          (fun link => { link with fltRuleHdl := backHdl }) info.link })

def addFltRules (answers : LanAnswers κ) (app : LanToLan κ ι μ) (client : κ) :
    Bool × LanToLan κ ι μ :=
  addFltRulesLoop answers client 0 (app.links client) app

/-- The loop of `clear_peer_list` over the peers of the client. -/
def clearPeers (client : κ) : List (PeerInfo κ) → LanToLan κ ι μ → Bool × LanToLan κ ι μ
  | [], app => (true, app)
  | record :: rest, app =>
      if (app.peers record.peerPointer).any (·.peerPointer = client) then
        clearPeers client rest (app.modify record.peerPointer fun info =>
          { info with peer := info.peer.eraseP (·.peerPointer = client) })
      else (false, app)

def clearPeerList (app : LanToLan κ ι μ) (client : κ) : Bool × LanToLan κ ι μ :=
  let cleared := clearPeers client (app.peers client) app
  if cleared.1 then (true, cleared.2.modify client fun info => { info with peer := [] })
  else (false, cleared.2)

/-- One half of `add_connection`: the peer's record in the list of the client is counted
up or entered. -/
def addPeer (app : LanToLan κ ι μ) (client peer : κ) : Bool × LanToLan κ ι μ :=
  if (app.peers client).any (·.peerPointer = peer) then
    (false, app.modify client fun info =>
      { info with
        peer := updateFirst (·.peerPointer = peer)
          (fun record => { record with numConnection := record.numConnection + 1 }) info.peer })
  else
    (true, app.modify client fun info =>
      { info with peer := info.peer ++ [{ peerPointer := peer, numConnection := 1 }] })

def addConnection (app : LanToLan κ ι μ) (src dst : κ) : Bool × LanToLan κ ι μ :=
  let first := addPeer app src dst
  let second := addPeer first.2 dst src
  (first.1 || second.1, second.2)

/-- One half of `remove_connection`: the peer's record in the list of the client is
counted down, and erased at zero. -/
def removePeer (app : LanToLan κ ι μ) (client peer : κ) : Bool × LanToLan κ ι μ :=
  match (app.peers client).find? (·.peerPointer = peer) with
  | none => (false, app)
  | some record =>
      if record.numConnection - 1 = 0 then
        (true, app.modify client fun info =>
          { info with peer := info.peer.eraseP (·.peerPointer = peer) })
      else
        (false, app.modify client fun info =>
          { info with
            peer := updateFirst (·.peerPointer = peer)
              (fun record => { record with numConnection := record.numConnection - 1 }) info.peer })

/-- `remove_connection`, which returns what became of the second record. -/
def removeConnection (app : LanToLan κ ι μ) (src dst : κ) : Bool × LanToLan κ ι μ :=
  removePeer (removePeer app src dst).2 dst src

def activate (app : LanToLan κ ι μ) (client : κ) (macAddr : μ) (pIface : ι) : LanToLan κ ι μ :=
  app.modify client fun info =>
    { info with macAddr := macAddr, isActive := true, isPowersave := false, pIface := pIface }

variable [DecidableEq μ]

/-- `handle_client_active`. The connection events that `generate_new_connection` posts
are handled later, as events of their own. -/
def handleClientActive (answers : LanAnswers κ) (app : LanToLan κ ι μ)
    (data : EventLanClient κ ι μ) : LanToLan κ ι μ :=
  match data.populated with
  | none => app
  | some (macAddr, pIface) =>
      match app.clientInfo data.addr with
      | none =>
          app.insert data.addr
            { macAddr := macAddr, isActive := true, isPowersave := false, pIface := pIface,
              peer := [], link := [] }
      | some info =>
          if info.isActive then
            if info.macAddr = macAddr then app
            else
              activate (clearPeerList (turnoffOffloadLinks answers app data.addr).2 data.addr).2
                data.addr macAddr pIface
          else
            checkPotentialLink answers (activate app data.addr macAddr pIface) data.addr

def handleClientInactive (answers : LanAnswers κ) (app : LanToLan κ ι μ)
    (data : EventLanClient κ ι μ) : LanToLan κ ι μ :=
  match data.populated, app.clientInfo data.addr with
  | some _, some _ =>
      let off := (turnoffOffloadLinks answers app data.addr).2.modify data.addr fun info =>
        { info with isActive := false }
      if (off.peers data.addr).length = 0 then off.eraseClient data.addr else off
  | _, _ => app

def handleClientDisconnect (answers : LanAnswers κ) (app : LanToLan κ ι μ)
    (data : EventLanClient κ ι μ) : LanToLan κ ι μ :=
  match data.populated, app.clientInfo data.addr with
  | some _, some _ =>
      (clearPeerList (turnoffOffloadLinks answers app data.addr).2 data.addr).2.eraseClient
        data.addr
  | _, _ => app

def handleClientPowerSave (answers : LanAnswers κ) (app : LanToLan κ ι μ)
    (data : EventLanClient κ ι μ) : LanToLan κ ι μ :=
  match data.populated, app.clientInfo data.addr with
  | some _, some _ =>
      let removed := removeFltRules answers app data.addr
      if removed.1 then
        removed.2.modify data.addr fun info => { info with isActive := false, isPowersave := true }
      else removed.2
  | _, _ => app

def handleClientPowerRecover (answers : LanAnswers κ) (app : LanToLan κ ι μ)
    (data : EventLanClient κ ι μ) : LanToLan κ ι μ :=
  match data.populated, app.clientInfo data.addr with
  | some _, some info =>
      if info.isActive = true ∨ info.isPowersave ≠ true then app
      else
        let added := addFltRules answers app data.addr
        if added.1 then
          checkPotentialLink answers
            (added.2.modify data.addr fun info =>
              { info with isActive := true, isPowersave := false }) data.addr
        else added.2
  | _, _ => app

def handleNewLan2lanConnection (answers : LanAnswers κ) (app : LanToLan κ ι μ) (src dst : κ) :
    LanToLan κ ι μ :=
  match app.clientInfo src, app.clientInfo dst with
  | some _, some _ =>
      let added := addConnection app src dst
      if added.1 ∧ added.2.isActive src ∧ added.2.isActive dst then
        let first := addOffloadLink answers added.2 src dst
        if first.1 then
          let second := addOffloadLink answers first.2 dst src
          if second.1 then second.2.incOffloadPair else second.2
        else first.2
      else added.2
  | _, _ => app

/-- The part of `handle_del_lan2lan_connection` that erases the links. -/
def eraseLinksOfConnection (answers : LanAnswers κ) (app : LanToLan κ ι μ) (src dst : κ) :
    LanToLan κ ι μ :=
  if app.isActive src ∧ app.isActive dst then eraseOffloadLink answers app src dst
  else
    let next :=
      if app.isPowersave src ∧ (app.isActive dst ∨ app.isPowersave dst) then
        eraseOffloadLink answers app src dst
      else app
    if next.isPowersave dst ∧ (next.isActive src ∨ next.isPowersave src) then
      eraseOffloadLink answers next dst src
    else next

/-- The part of `handle_del_lan2lan_connection` that removes a client which has left. -/
def eraseIfLeft (app : LanToLan κ ι μ) (client : κ) : LanToLan κ ι μ :=
  match app.clientInfo client with
  | none => app
  | some info =>
      if info.isActive = false ∧ info.isPowersave = false ∧ info.peer.length = 0 then
        app.eraseClient client
      else app

def handleDelLan2lanConnection (answers : LanAnswers κ) (app : LanToLan κ ι μ) (src dst : κ) :
    LanToLan κ ι μ :=
  match app.clientInfo src, app.clientInfo dst with
  | some _, some _ =>
      let removed := removeConnection app src dst
      if removed.1 then
        eraseIfLeft (eraseIfLeft (eraseLinksOfConnection answers removed.2 src dst) src) dst
      else removed.2
  | _, _ => app

inductive Event (κ ι μ : Type) where
  | clientActive (data : EventLanClient κ ι μ)
  | clientInactive (data : EventLanClient κ ι μ)
  | clientDisconnect (data : EventLanClient κ ι μ)
  | clientPowerSave (data : EventLanClient κ ι μ)
  | clientPowerRecover (data : EventLanClient κ ι μ)
  | newConnection (src dst : κ)
  | delConnection (src dst : κ)

def eventCallback (answers : LanAnswers κ) (app : LanToLan κ ι μ) : Event κ ι μ → LanToLan κ ι μ
  | .clientActive data => handleClientActive answers app data
  | .clientInactive data => handleClientInactive answers app data
  | .clientDisconnect data => handleClientDisconnect answers app data
  | .clientPowerSave data => handleClientPowerSave answers app data
  | .clientPowerRecover data => handleClientPowerRecover answers app data
  | .newConnection src dst => handleNewLan2lanConnection answers app src dst
  | .delConnection src dst => handleDelLan2lanConnection answers app src dst

def IsInit (app : LanToLan κ ι μ) : Prop :=
  (∀ client, app.clientInfo client = none) ∧ app.numOffloadPair = 0 ∧ app.fltCalls = []

def Step (app : LanToLan κ ι μ) (input : Event κ ι μ × LanAnswers κ)
    (next : LanToLan κ ι μ) : Prop :=
  next = eventCallback input.2 app input.1

end LanToLan

end HtcPme.Ipacm
