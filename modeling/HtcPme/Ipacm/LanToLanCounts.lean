import HtcPme.Foundation.Tally
import HtcPme.Ipacm.LanToLanGraph
import Mathlib.Data.Sym.Sym2

/-!
# Counts in the peer lists

The peer lists of the table as tallies: what the handlers do to the number of connections that is
recorded for two clients.
-/

namespace HtcPme.Ipacm.LanToLan

open Function (update update_of_ne update_self update_eq_self)

open Adjacency Tally

variable {κ ι μ : Type} [DecidableEq κ]

def numConnection (app : LanToLan κ ι μ) (client peer : κ) : ℤ :=
  numberOf PeerInfo.peerPointer PeerInfo.numConnection (app.peers client) peer

/-- The two ends of a connection have records of each other with the same number, and a client has
none of itself. -/
structure Counts (app : LanToLan κ ι μ) : Prop where
  sound : ∀ client, Sound PeerInfo.peerPointer PeerInfo.numConnection (app.peers client)
  symm : ∀ a b, app.numConnection a b = app.numConnection b a
  irrefl : ∀ a, app.numConnection a a = 0

variable {app next : LanToLan κ ι μ} {a b client peer : κ}

theorem numConnection_congr (same : next.peers = app.peers) :
    next.numConnection = app.numConnection := by
  funext client peer
  rw [numConnection, numConnection, same]

theorem Counts.congr (counts : app.Counts) (same : next.peers = app.peers) : next.Counts where
  sound client := same ▸ counts.sound client
  symm a b := by
    rw [numConnection_congr same]
    exact counts.symm a b
  irrefl a := by
    rw [numConnection_congr same]
    exact counts.irrefl a

theorem Counts.nonneg (counts : app.Counts) : 0 ≤ app.numConnection a b := (counts.sound a).nonneg

omit [DecidableEq κ] in
theorem exists_of_present (present : (app.pIface client).isSome) :
    ∃ info, app.clientInfo client = some info := by
  simpa [pIface, Option.isSome_iff_exists] using present

theorem Counts.present (counts : app.Counts) (recorded : 0 < app.numConnection a b) :
    (app.pIface a).isSome ∧ (app.pIface b).isSome := by
  have isThere (client peer : κ) (recorded : 0 < app.numConnection client peer) :
      (app.pIface client).isSome := by
    rcases (counts.sound client).pos_iff.mp recorded with ⟨record, mem, -⟩
    exact present_of_peer mem
  exact ⟨isThere a b recorded, isThere b a (counts.symm a b ▸ recorded)⟩

theorem Counts.mirrored (counts : app.Counts) :
    Mirrored PeerInfo.peerPointer PeerInfo.numConnection app.peers := by
  have number {client : κ} {record : PeerInfo κ} (mem : record ∈ app.peers client) :
      app.numConnection client record.peerPointer = record.numConnection :=
    numberOf_of_mem (counts.sound client).nodup mem
  refine ⟨fun client => (counts.sound client).nodup, ?_, ?_⟩
  · rintro client record mem rfl
    have positive := (counts.sound _).positive record mem
    rw [← number mem, counts.irrefl] at positive
    exact positive.false
  · intro client record mem
    have positive : 0 < app.numConnection record.peerPointer client := by
      rw [counts.symm, number mem]
      exact (counts.sound client).positive record mem
    rcases (counts.sound _).pos_iff.mp positive with ⟨back, backMem, rfl⟩
    refine ⟨back, backMem, rfl, ?_⟩
    rw [← number backMem, counts.symm, number mem]

structure Recounts (app next : LanToLan κ ι μ) (pair : Sym2 κ) (change : Change) : Prop where
  counts : next.Counts
  isActive : next.isActive = app.isActive
  pIface : next.pIface = app.pIface
  changed : ∀ a b, next.numConnection a b =
    if s(a, b) = pair then change.apply (app.numConnection a b) else app.numConnection a b

variable {pair : Sym2 κ} {change : Change}

theorem Recounts.sameClients {last : LanToLan κ ι μ}
    (recounts : Recounts app next pair change) (same : SameClients next last) :
    Recounts app last pair change where
  counts := recounts.counts.congr same.peers
  isActive := same.isActive.trans recounts.isActive
  pIface := same.pIface.trans recounts.pIface
  changed := by
    rw [numConnection_congr same.peers]
    exact recounts.changed

theorem Recounts.of_notCounted (counts : app.Counts)
    (notCounted : ∀ a b, s(a, b) = pair → app.numConnection a b = 0) :
    Recounts app app pair .down := by
  refine ⟨counts, rfl, rfl, ?_⟩
  intro a b
  split
  · rename_i isPair
    rw [notCounted a b isPair]
    rfl
  · rfl

structure Records (app next : LanToLan κ ι μ) (client peer : κ) (change : Change) : Prop where
  same : SameLinks app next
  sound : ∀ other, Sound PeerInfo.peerPointer PeerInfo.numConnection (next.peers other)
  changed : ∀ a b, next.numConnection a b =
    if a = client ∧ b = peer then change.apply (app.numConnection a b) else app.numConnection a b

theorem Records.of_update {records : List (PeerInfo κ)} (same : SameLinks app next)
    (sound : ∀ other, Sound PeerInfo.peerPointer PeerInfo.numConnection (app.peers other))
    (updated : next.peers = update app.peers client records)
    (soundRecords : Sound PeerInfo.peerPointer PeerInfo.numConnection records)
    (changed : ∀ other, numberOf PeerInfo.peerPointer PeerInfo.numConnection records other =
      if other = peer then change.apply (app.numConnection client other)
      else app.numConnection client other) : Records app next client peer change := by
  refine ⟨same, ?_, ?_⟩
  · intro other
    rw [updated]
    by_cases isClient : other = client
    · rw [isClient, update_self]
      exact soundRecords
    · rw [update_of_ne isClient]
      exact sound other
  · intro a b
    rw [numConnection, updated]
    by_cases isClient : a = client
    · subst isClient
      rw [update_self, changed]
      simp
    · simp [isClient, numConnection]

theorem Records.both {middle : LanToLan κ ι μ} (counts : app.Counts)
    (distinct : a ≠ b) (first : Records app middle a b change)
    (second : Records middle next b a change) : Recounts app next s(a, b) change := by
  have changed (c d : κ) : next.numConnection c d =
      if s(c, d) = s(a, b) then change.apply (app.numConnection c d)
      else app.numConnection c d := by
    rw [second.changed, first.changed]
    simp only [Sym2.eq_iff]
    by_cases isFirst : c = a ∧ d = b
    · rcases isFirst with ⟨rfl, rfl⟩
      simp [distinct]
    · simp [isFirst]
  have sameBoth := first.same.trans second.same
  refine ⟨⟨second.sound, ?_, ?_⟩, sameBoth.isActive, sameBoth.pIface, changed⟩
  · intro c d
    rw [changed, changed, Sym2.eq_swap, counts.symm]
  · intro c
    rw [changed, counts.irrefl]
    apply if_neg
    rw [Sym2.eq_iff]
    rintro (⟨rfl, rfl⟩ | ⟨rfl, rfl⟩)
    · exact distinct rfl
    · exact distinct rfl

theorem addPeer_records
    (sound : ∀ other, Sound PeerInfo.peerPointer PeerInfo.numConnection (app.peers other))
    (present : (app.pIface a).isSome) : Records app (addPeer app a b).2 a b .up := by
  by_cases peered : Peered app a b
  · rcases addPeer_of_peered peered with ⟨-, same, updated⟩
    apply Records.of_update same sound updated
    · refine (sound a).updateFirst ?_ ?_
      · intro record
        rfl
      · intro record mem _
        exact Int.lt_add_one_of_le ((sound a).positive record mem).le
    · intro other
      refine (numberOf_updateFirst 1 ?_ ?_ peered).trans ?_
      · intro record
        rfl
      · intro record
        rfl
      · split <;> simp [Change.apply, numConnection]
  · rcases addPeer_of_not_peered present peered with ⟨-, same, updated⟩
    have absent : ∀ record ∈ app.peers a, record.peerPointer ≠ b :=
      fun record mem named => peered ⟨record, mem, named⟩
    apply Records.of_update same sound updated
    · exact (sound a).push absent Int.one_pos
    · intro other
      rw [numberOf_push absent]
      split <;> simp [Change.apply, numConnection]

theorem removePeer_records
    (sound : ∀ other, Sound PeerInfo.peerPointer PeerInfo.numConnection (app.peers other)) :
    Records app (removePeer app a b).2 a b .down := by
  by_cases peered : Peered app a b
  · rcases peered with ⟨record, mem, named⟩
    rcases removePeer_of_peered (sound a).nodup mem named with ⟨same, -, updated⟩
    have number : app.numConnection a b = record.numConnection :=
      named ▸ numberOf_of_mem (sound a).nodup mem
    have positive := (sound a).positive record mem
    apply Records.of_update same sound updated
    · split
      · exact (sound a).eraseP
      · rename_i notLast
        refine (sound a).updateFirst ?_ ?_
        · intro other
          rfl
        · intro other otherMem otherNamed
          rw [eq_of_key_eq (sound a).nodup otherMem mem (otherNamed.trans named.symm)]
          change 0 < record.numConnection - 1
          omega
    · intro other
      split
      · rename_i isLast
        rw [numberOf_eraseP (sound a).nodup]
        split
        · rename_i isPeer
          rw [isPeer, number, isLast]
          rfl
        · rfl
      · rename_i notLast
        refine (numberOf_updateFirst (-1) ?_ ?_ ⟨record, mem, named⟩).trans ?_
        · intro entry
          rfl
        · intro entry
          rfl
        · split
          · rename_i isPeer
            rw [isPeer]
            change app.numConnection a b + -1 = max (app.numConnection a b - 1) 0
            omega
          · exact add_zero _
  · rw [removePeer_of_not_peered peered]
    refine ⟨.refl app, sound, ?_⟩
    intro c d
    split
    · rename_i isPair
      rcases isPair with ⟨rfl, rfl⟩
      have none : app.numConnection c d = 0 :=
        numberOf_eq_zero fun record mem named => peered ⟨record, mem, named⟩
      rw [none]
      rfl
    · rfl

theorem addConnection_recounts (counts : app.Counts) (distinct : a ≠ b)
    (presentA : (app.pIface a).isSome) (presentB : (app.pIface b).isSome) :
    Recounts app (addConnection app a b).2 s(a, b) .up := by
  have first : Records app (addPeer app a b).2 a b .up := addPeer_records counts.sound presentA
  apply first.both counts distinct
  apply addPeer_records first.sound
  rw [first.same.pIface]
  exact presentB

theorem removeConnection_recounts (counts : app.Counts) (distinct : a ≠ b) :
    Recounts app (removeConnection app a b).2 s(a, b) .down := by
  have first : Records app (removePeer app a b).2 a b .down := removePeer_records counts.sound
  exact first.both counts distinct (removePeer_records first.sound)

section Links

variable [DecidableEq ι] {answers : LanAnswers κ}

theorem addOffloadLink_sameClients : SameClients app (addOffloadLink answers app a b).2 := by
  unfold addOffloadLink
  split
  · exact .refl app
  · split
    · exact .refl app
    · split
      · exact .refl app
      · split
        · exact .refl app
        · rename_i added
          exact (SameClients.of_clientInfo (addLan2lanFltRule_clientInfo added).1).trans
            (sameClients_modify_link fun links => links ++ [_])

omit [DecidableEq κ] in
theorem delOffloadLink_sameClients {link : OffloadLinkInfo κ} :
    SameClients app (delOffloadLink answers app a link).2 :=
  .of_clientInfo (delOffloadLink_clientInfo answers app a link).1

theorem eraseOneLink_sameClients : SameClients app (eraseOneLink answers app a b).2 := by
  unfold eraseOneLink
  split
  · exact .refl app
  · exact delOffloadLink_sameClients.trans (sameClients_eraseLink _ _ _)

theorem eraseOffloadLink_sameClients : SameClients app (eraseOffloadLink answers app a b) := by
  have both : SameClients app
      (eraseOneLink answers (eraseOneLink answers app a b).2 b a).2 :=
    eraseOneLink_sameClients.trans eraseOneLink_sameClients
  unfold eraseOffloadLink
  dsimp only
  split
  · exact both.trans (sameClients_decOffloadPair _)
  · exact both

theorem eraseLinksOfConnection_sameClients :
    SameClients app (eraseLinksOfConnection answers app a b) := by
  unfold eraseLinksOfConnection
  split
  · exact eraseOffloadLink_sameClients
  · dsimp only
    split
    · split
      · exact eraseOffloadLink_sameClients.trans eraseOffloadLink_sameClients
      · exact eraseOffloadLink_sameClients
    · split
      · exact eraseOffloadLink_sameClients
      · exact .refl app

theorem turnoffLinks_sameClients (links : List (OffloadLinkInfo κ)) :
    SameClients app (turnoffLinks answers client links app).2 := by
  induction links generalizing app with
  | nil => exact .refl app
  | cons link rest ih =>
      unfold turnoffLinks
      dsimp only
      split
      · split
        · exact delOffloadLink_sameClients
        · split
          · apply delOffloadLink_sameClients.trans
            apply delOffloadLink_sameClients.trans
            apply (sameClients_eraseLink _ _ _).trans
            exact (sameClients_decOffloadPair _).trans ih
          · exact delOffloadLink_sameClients.trans delOffloadLink_sameClients
      · exact delOffloadLink_sameClients

theorem turnoffOffloadLinks_sameClients :
    SameClients app (turnoffOffloadLinks answers app client).2 := by
  unfold turnoffOffloadLinks
  dsimp only
  split
  · exact (turnoffLinks_sameClients _).trans (sameClients_modify_link fun _ => [])
  · exact turnoffLinks_sameClients _

theorem handleNewLan2lanConnection_recounts (counts : app.Counts) (distinct : a ≠ b)
    (presentA : (app.pIface a).isSome) (presentB : (app.pIface b).isSome) :
    Recounts app (handleNewLan2lanConnection answers app a b) s(a, b) .up := by
  have added := addConnection_recounts counts distinct presentA presentB
  unfold handleNewLan2lanConnection
  split
  · dsimp only
    split
    · split
      · split
        · exact added.sameClients (addOffloadLink_sameClients.trans
            (addOffloadLink_sameClients.trans (sameClients_incOffloadPair _)))
        · exact added.sameClients (addOffloadLink_sameClients.trans addOffloadLink_sameClients)
      · exact added.sameClients addOffloadLink_sameClients
    · exact added
  · rename_i absent
    rcases exists_of_present presentA with ⟨infoA, foundA⟩
    rcases exists_of_present presentB with ⟨infoB, foundB⟩
    exact absurd foundB (absent infoA infoB foundA)

omit [DecidableEq ι] in
theorem eraseIfLeft_of_active (active : (app.pIface a).isSome → app.isActive a = true) :
    eraseIfLeft app a = app := by
  unfold eraseIfLeft
  split
  · rfl
  · rename_i info found
    have isActive : info.isActive = true := by
      simpa [LanToLan.isActive, pIface, found] using active
    simp [isActive]

theorem handleDelLan2lanConnection_recounts (counts : app.Counts) (distinct : a ≠ b)
    (active : ∀ client, (app.pIface client).isSome → app.isActive client = true) :
    Recounts app (handleDelLan2lanConnection answers app a b) s(a, b) .down := by
  have removed := removeConnection_recounts counts distinct
  unfold handleDelLan2lanConnection
  split
  · dsimp only
    split
    · have same : SameClients (removeConnection app a b).2
          (eraseLinksOfConnection answers (removeConnection app a b).2 a b) :=
        eraseLinksOfConnection_sameClients
      have erased := removed.sameClients same
      have stays (client : κ) (present : ((eraseLinksOfConnection answers
          (removeConnection app a b).2 a b).pIface client).isSome) :
          (eraseLinksOfConnection answers (removeConnection app a b).2 a b).isActive client =
            true := by
        rw [erased.pIface] at present
        rw [erased.isActive]
        exact active client present
      rw [eraseIfLeft_of_active (stays a), eraseIfLeft_of_active (stays b)]
      exact erased
    · exact removed
  · rename_i absent
    apply Recounts.of_notCounted counts
    intro c d isPair
    by_contra recorded
    have present := counts.present (lt_of_le_of_ne counts.nonneg (Ne.symm recorded))
    rcases exists_of_present present.1 with ⟨infoC, foundC⟩
    rcases exists_of_present present.2 with ⟨infoD, foundD⟩
    rcases Sym2.eq_iff.mp isPair with ⟨rfl, rfl⟩ | ⟨rfl, rfl⟩
    · exact absent infoC infoD foundC foundD
    · exact absent infoD infoC foundD foundC

end Links

omit [DecidableEq κ] in
structure Enters [DecidableEq κ] (app next : LanToLan κ ι μ) (client : κ) (iface : ι) : Prop where
  counts : next.Counts
  isActive : next.isActive = update app.isActive client true
  pIface : next.pIface = update app.pIface client (some iface)
  changed : ∀ a b, next.numConnection a b =
    if a = client ∨ b = client then 0 else app.numConnection a b

theorem clearPeers_keeps (client : κ) (records : List (PeerInfo κ))
    (sound : ∀ other, Sound PeerInfo.peerPointer PeerInfo.numConnection (app.peers other)) :
    (∀ other, Sound PeerInfo.peerPointer PeerInfo.numConnection
      ((clearPeers client records app).2.peers other)) ∧
    ∀ a b, b ≠ client →
      (clearPeers client records app).2.numConnection a b = app.numConnection a b := by
  induction records generalizing app with
  | nil => exact ⟨sound, fun _ _ _ => rfl⟩
  | cons record rest ih =>
      unfold clearPeers
      split
      · have updated : (app.modify record.peerPointer fun info =>
              { info with peer := info.peer.eraseP (·.peerPointer = client) }).peers =
            update app.peers record.peerPointer
              ((app.peers record.peerPointer).eraseP (·.peerPointer = client)) :=
          peers_modify_peer (·.eraseP (·.peerPointer = client)) (.inr rfl)
        have erasedSound (other : κ) : Sound PeerInfo.peerPointer PeerInfo.numConnection
            ((app.modify record.peerPointer fun info =>
              { info with peer := info.peer.eraseP (·.peerPointer = client) }).peers other) := by
          rw [updated]
          by_cases isPeer : other = record.peerPointer
          · rw [isPeer, update_self]
            exact (sound _).eraseP
          · rw [update_of_ne isPeer]
            exact sound other
        rcases ih erasedSound with ⟨soundAfter, keeps⟩
        refine ⟨soundAfter, ?_⟩
        intro a b notClient
        rw [keeps a b notClient, numConnection, updated]
        by_cases isPeer : a = record.peerPointer
        · rw [isPeer, update_self, numberOf_eraseP (sound _).nodup, if_neg notClient]
          rfl
        · rw [update_of_ne isPeer]
          rfl
      · exact ⟨sound, fun _ _ _ => rfl⟩

theorem clearPeerList_counts (client : κ) (counts : app.Counts) :
    SameLinks app (clearPeerList app client).2 ∧ (clearPeerList app client).2.Counts ∧
      ∀ a b, (clearPeerList app client).2.numConnection a b =
        if a = client ∨ b = client then 0 else app.numConnection a b := by
  have startOk : Mirrored PeerInfo.peerPointer PeerInfo.numConnection
      (update app.peers client (app.peers client)) := by
    rw [update_eq_self]
    exact counts.mirrored
  rcases clearPeers_ok (app.peers client) (.refl app) startOk with ⟨final, done, same, mirrored⟩
  have keeps := clearPeers_keeps client (app.peers client) counts.sound
  rw [done] at keeps
  have result : (clearPeerList app client).2 =
      final.modify client fun info => { info with peer := [] } := by
    simp [clearPeerList, done]
  have finalPeers : (clearPeerList app client).2.peers =
      update final.peers client [] := by
    rw [result]
    exact peers_modify_peer (fun _ => []) (.inr rfl)
  have changed (a b : κ) : (clearPeerList app client).2.numConnection a b =
      if a = client ∨ b = client then 0 else app.numConnection a b := by
    rw [numConnection, finalPeers]
    by_cases isClient : a = client
    · simp [isClient]
    · rw [update_of_ne isClient]
      by_cases peerIsClient : b = client
      · subst peerIsClient
        rw [if_pos (.inr rfl)]
        apply numberOf_eq_zero
        intro record mem named
        -- the record at the other end would be in the list that is empty
        rw [← update_of_ne isClient [] final.peers] at mem
        rcases mirrored.mirror a record mem with ⟨back, backMem, -⟩
        rw [named, update_self] at backMem
        cases backMem
      · rw [if_neg (by tauto)]
        exact keeps.2 a b peerIsClient
  refine ⟨?_, ⟨?_, ?_, ?_⟩, changed⟩
  · rw [result]
    exact same.trans (sameLinks_modify_peer final client fun _ => [])
  · intro other
    rw [finalPeers]
    by_cases isClient : other = client
    · rw [isClient, update_self]
      exact .nil
    · rw [update_of_ne isClient]
      exact keeps.1 other
  · intro a b
    rw [changed, changed, counts.symm]
    simp only [or_comm]
  · intro a
    rw [changed, counts.irrefl]
    exact ite_self 0

theorem activate_view (macAddr : μ) (iface : ι) (present : (app.pIface client).isSome) :
    (activate app client macAddr iface).isActive = update app.isActive client true ∧
      (activate app client macAddr iface).pIface =
        update app.pIface client (some iface) := by
  rcases exists_of_present present with ⟨info, found⟩
  constructor
  · funext other
    by_cases isClient : other = client
    · simp [isActive, activate, modify, isClient, found]
    · simp [isActive, activate, modify, isClient]
  · funext other
    by_cases isClient : other = client
    · simp [pIface, activate, modify, isClient, found]
    · simp [pIface, activate, modify, isClient]

variable [DecidableEq ι] [DecidableEq μ] {answers : LanAnswers κ} {data : EventLanClient κ ι μ}
  {macAddr : μ} {iface : ι}

theorem handleClientActive_new (counts : app.Counts)
    (populated : data.populated = some (macAddr, iface))
    (absent : app.clientInfo data.addr = none) :
    Enters app (handleClientActive answers app data) data.addr iface := by
  have result : handleClientActive answers app data = app.insert data.addr
      { macAddr := macAddr, isActive := true, isPowersave := false, pIface := iface,
        peer := [], link := [] } := by
    simp [handleClientActive, populated, absent]
  have noPeers : app.peers data.addr = [] := peers_of_absent (pIface_eq_none.mpr absent)
  have samePeers : (handleClientActive answers app data).peers = app.peers := by
    funext other
    rw [result]
    by_cases isClient : other = data.addr
    · rw [isClient, noPeers]
      simp [peers, insert]
    · simp [peers, insert, isClient]
  refine ⟨counts.congr samePeers, ?_, ?_, ?_⟩
  · funext other
    rw [result]
    by_cases isClient : other = data.addr
    · simp [isActive, insert, isClient]
    · simp [isActive, insert, isClient]
  · funext other
    rw [result]
    by_cases isClient : other = data.addr
    · simp [pIface, insert, isClient]
    · simp [pIface, insert, isClient]
  · intro a b
    rw [numConnection_congr samePeers]
    split
    · rename_i isClient
      by_contra recorded
      have present := counts.present (lt_of_le_of_ne counts.nonneg (Ne.symm recorded))
      rcases isClient with rfl | rfl
      · simp [pIface, absent] at present
      · simp [pIface, absent] at present
    · rfl

theorem handleClientActive_replaced (counts : app.Counts)
    (populated : data.populated = some (macAddr, iface)) {info : ClientInfo κ ι μ}
    (present : app.clientInfo data.addr = some info) (active : info.isActive = true)
    (otherMac : info.macAddr ≠ macAddr) :
    Enters app (handleClientActive answers app data) data.addr iface := by
  have off : SameClients app (turnoffOffloadLinks answers app data.addr).2 :=
    turnoffOffloadLinks_sameClients
  rcases clearPeerList_counts data.addr (counts.congr off.peers) with
    ⟨same, cleared, changed⟩
  have stillPresent : ((clearPeerList (turnoffOffloadLinks answers app data.addr).2
      data.addr).2.pIface data.addr).isSome := by
    rw [same.pIface, off.pIface]
    simp [pIface, present]
  have result : handleClientActive answers app data = activate (clearPeerList
      (turnoffOffloadLinks answers app data.addr).2 data.addr).2 data.addr macAddr iface := by
    simp [handleClientActive, populated, present, active, otherMac]
  have samePeers : (handleClientActive answers app data).peers = (clearPeerList
      (turnoffOffloadLinks answers app data.addr).2 data.addr).2.peers := by
    rw [result]
    exact peers_modify fun _ => rfl
  rcases activate_view macAddr iface stillPresent with ⟨activated, onIface⟩
  refine ⟨cleared.congr samePeers, ?_, ?_, ?_⟩
  · rw [result, activated, same.isActive, off.isActive]
  · rw [result, onIface, same.pIface, off.pIface]
  · rw [numConnection_congr samePeers]
    intro a b
    rw [changed, numConnection_congr off.peers]

end HtcPme.Ipacm.LanToLan
