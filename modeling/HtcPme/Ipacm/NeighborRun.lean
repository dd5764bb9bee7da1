import HtcPme.Foundation.KeyedList
import HtcPme.Foundation.Run
import HtcPme.Ipacm.Neighbor

/-!
# Runs of neighbour events

A cache of clients is a list with one entry for each client; an event changes the entry of its
client, takes it out, or makes one.
-/

namespace HtcPme.Ipacm

open KeyedList List

variable {μ : Type}

/-- What an event means for the entry of its client. A client that is not cached gets an entry if
there is one for it. -/
inductive ClientChange (μ : Type) where
  | touch (mac : μ) (change : NeighborClient μ → NeighborClient μ) (new : Option (NeighborClient μ))
  | remove (mac : μ)

structure ClientList (μ : Type) where
  clients : List (NeighborClient μ)
  recycled : ℕ

namespace ClientList

def macs (list : ClientList μ) : List μ := list.clients.map NeighborClient.macAddr

def insert (list : ClientList μ) (new : NeighborClient μ) : ClientList μ :=
  if list.clients.length < ipaMaxNumNeighborClients then
    ⟨list.clients ++ [new], list.recycled⟩
  else ⟨list.clients.set list.recycled { new with v4Addr := 0 }, list.recycled + 1⟩

variable [DecidableEq μ]

def apply (list : ClientList μ) : ClientChange μ → ClientList μ
  | .touch mac change new =>
      if mac ∈ list.macs then
        ⟨KeyedList.touch NeighborClient.macAddr mac change list.clients, list.recycled⟩
      else
        match new with
        | none => list
        | some new => list.insert new
  | .remove mac => ⟨KeyedList.remove NeighborClient.macAddr mac list.clients, list.recycled⟩

def HasRoom (list : ClientList μ) : ClientChange μ → Prop
  | .touch mac _ new =>
      mac ∈ list.macs ∨ new = none ∨ list.clients.length < ipaMaxNumNeighborClients ∨
        list.recycled < ipaMaxNumNeighborClients
  | .remove _ => True

instance (list : ClientList μ) : (change : ClientChange μ) → Decidable (list.HasRoom change)
  | .touch mac _ new =>
      have : Decidable (new = none) :=
        decidable_of_iff (new.isNone = true) Option.isNone_iff_eq_none
      inferInstanceAs (Decidable (mac ∈ list.macs ∨ new = none ∨ _ < _ ∨ _ < _))
  | .remove _ => inferInstanceAs (Decidable True)

end ClientList

section Changes

def IsUsable (addr : BitVec 32) : Prop :=
  ¬ (addr = 0 ∨ addr &&& ipv4AddrLinklocalMask = ipv4AddrLinklocal)

instance (addr : BitVec 32) : Decidable (IsUsable addr) := inferInstanceAs (Decidable (¬ _))

def movedTo (ifIndex : ℤ) (client : NeighborClient μ) : NeighborClient μ :=
  { client with ifaceIndex := ifIndex }

def withAddr (addr : BitVec 32) (client : NeighborClient μ) : NeighborClient μ :=
  { client with v4Addr := addr }

def newNeighChange (query : IfaceQuery) (data : NeighData μ) : ClientChange μ :=
  match data.addr with
  | .v4 addr =>
      if ¬ IsUsable addr then .touch data.macAddr id none
      else if query.isBridge then .touch data.macAddr (withAddr addr) none
      else
        let new : NeighborClient μ := ⟨data.macAddr, data.ifIndex, addr, query.ipaInterfaceIndex⟩
        .touch data.macAddr (fun _ => new) (some new)
  | .v6 addr =>
      if addr ≠ 0 ∨ query.isBridge then .touch data.macAddr id none
      else
        .touch data.macAddr (movedTo data.ifIndex)
          (some ⟨data.macAddr, data.ifIndex, 0, query.ipaInterfaceIndex⟩)

def delNeighChange (data : NeighData μ) : ClientChange μ :=
  match data.addr with
  | .v4 addr => if IsUsable addr then .remove data.macAddr else .touch data.macAddr id none
  | .v6 addr => if addr ≠ 0 then .touch data.macAddr id none else .remove data.macAddr

def changeOf (query : IfaceQuery) : NeighEvent μ → ClientChange μ
  | .wlanClientAddEx ifIndex attribs stale =>
      .touch (Neighbor.clientMacAddr stale attribs)
        (if query.isBridge then id else movedTo ifIndex) none
  | .newNeigh data => newNeighChange query data
  | .delNeigh data => delNeighChange data

end Changes

namespace Neighbor

variable (cache : Neighbor μ)

def clients : List (NeighborClient μ) :=
  (List.range cache.numNeighborClient).map cache.neighborClient

def view : ClientList μ := ⟨cache.clients, cache.circularIndex⟩

def withClient (i : ℕ) (new : NeighborClient μ) : Neighbor μ :=
  { cache with neighborClient := Function.update cache.neighborClient i new }

structure CacheOk : Prop where
  within : cache.numNeighborClient ≤ ipaMaxNumNeighborClients
  nodup : cache.view.macs.Nodup

variable {cache} {mac : μ} {i : ℕ} {new : NeighborClient μ}

@[simp]
theorem length_clients : cache.clients.length = cache.numNeighborClient := by
  simp [clients]

theorem getElem_clients (inUse : i < cache.clients.length) :
    cache.clients[i] = cache.neighborClient i := by
  simp [clients]

theorem client_eq (within : i < ipaMaxNumNeighborClients) :
    cache.client i = some (cache.neighborClient i) := if_pos within

theorem setClient_eq (within : i < ipaMaxNumNeighborClients) :
    cache.setClient i new = some (cache.withClient i new) :=
  if_pos within

section Entries

theorem clients_withClient :
    (cache.withClient i new).clients = cache.clients.set i new := by
  apply ext_getElem
  · simp [clients, withClient]
  · intro pos before after
    by_cases same : i = pos
    · subst same
      simp [clients, withClient]
    · simp [clients, withClient, getElem_set_of_ne same,
        Function.update_of_ne (Ne.symm same)]

theorem closeUp_eq {rounds : ℕ} (within : i + rounds < ipaMaxNumNeighborClients) :
    closeUp rounds i cache =
      some { cache with
        neighborClient := SlotShift.closeUp
          (fun _ next => next) rounds i cache.neighborClient } := by
  induction rounds generalizing cache i with
  | zero => rfl
  | succ rounds ih =>
      have next : i + 1 < ipaMaxNumNeighborClients := by omega
      have current : i < ipaMaxNumNeighborClients := by omega
      simp only [closeUp, client_eq next, setClient_eq current, Option.bind_eq_bind,
        Option.bind_some]
      exact ih (by omega)

theorem cleanClient_spec [Zero μ] (within : cache.numNeighborClient ≤ ipaMaxNumNeighborClients)
    (inUse : i < cache.numNeighborClient) :
    ∃ cleaned, cache.cleanClient i = some cleaned ∧
      cleaned.view = ⟨cache.clients.eraseIdx i, cache.circularIndex⟩ := by
  have count : cache.numNeighborClient - 1 + 1 = cache.numNeighborClient := by omega
  have isSlot : i < ipaMaxNumNeighborClients := by omega
  have rounds : i + (cache.numNeighborClient - 1 - i) < ipaMaxNumNeighborClients := by omega
  simp only [cleanClient, setClient_eq isSlot, closeUp_eq rounds, Option.bind_eq_bind,
    Option.bind_some]
  refine ⟨_, rfl, ?_⟩
  unfold view
  rw [ClientList.mk.injEq]
  refine ⟨?_, rfl⟩
  have closed := SlotShift.map_closeUp (fun _ next => next) id
    (Function.update cache.neighborClient i ⟨0, 0, 0, 0⟩) (Nat.le_sub_one_of_lt inUse)
    (fun _ _ _ => rfl)
  rw [count] at closed
  refine closed.trans (SlotShift.eraseIdx_map_congr ?_)
  intro pos _ other
  exact Function.update_of_ne other _ _

theorem insertClient_spec
    (room : cache.numNeighborClient < ipaMaxNumNeighborClients ∨
      cache.circularIndex < ipaMaxNumNeighborClients) :
    ∃ inserted, cache.insertClient new = some inserted ∧
      inserted.view = cache.view.insert new := by
  by_cases notFull : cache.numNeighborClient < ipaMaxNumNeighborClients
  · have inserts : cache.view.insert new = ⟨cache.clients ++ [new], cache.circularIndex⟩ :=
      if_pos (length_clients.trans_lt notFull)
    rw [inserts, insertClient, if_pos notFull, setClient_eq notFull]
    refine ⟨_, rfl, ?_⟩
    unfold view clients
    rw [ClientList.mk.injEq]
    refine ⟨?_, rfl⟩
    rw [range_succ, map_append]
    congr 1
    · apply map_congr_left
      intro pos inRange
      exact Function.update_of_ne (mem_range.mp inRange).ne _ _
    · simp [withClient]
  · have recycles : cache.view.insert new =
        ⟨cache.clients.set cache.circularIndex { new with v4Addr := 0 },
          cache.circularIndex + 1⟩ :=
      if_neg (by rwa [view, length_clients])
    rw [recycles, insertClient, if_neg notFull, setClient_eq (room.resolve_left notFull)]
    refine ⟨_, rfl, ?_⟩
    unfold view
    rw [ClientList.mk.injEq]
    exact ⟨clients_withClient, rfl⟩

theorem insertClient_none (full : ¬ cache.numNeighborClient < ipaMaxNumNeighborClients)
    (out : ¬ cache.circularIndex < ipaMaxNumNeighborClients) :
    cache.insertClient new = none := by
  unfold insertClient
  rw [if_neg full, setClient, if_neg out]
  rfl

end Entries

section Search

variable [DecidableEq μ]

variable (cache mac) in
theorem searchFrom_spec {left : ℕ} (within : i + left ≤ ipaMaxNumNeighborClients) :
    (cache.searchFrom mac left i = some none ∧
      ∀ pos, i ≤ pos → pos < i + left → (cache.neighborClient pos).macAddr ≠ mac) ∨
    ∃ pos, pos < i + left ∧ (cache.neighborClient pos).macAddr = mac ∧
      cache.searchFrom mac left i = some (some pos) := by
  induction left generalizing i with
  | zero =>
      left
      refine ⟨rfl, ?_⟩
      intro pos above below
      omega
  | succ left ih =>
      have isSlot : i < ipaMaxNumNeighborClients := by omega
      simp only [searchFrom, client_eq isSlot, Option.bind_eq_bind, Option.bind_some]
      by_cases same : (cache.neighborClient i).macAddr = mac
      · right
        exact ⟨i, by omega, same, if_pos same⟩
      · rw [if_neg same]
        have later : i + 1 + left ≤ ipaMaxNumNeighborClients := by omega
        rcases ih later with ⟨notFound, others⟩ | ⟨pos, inRange, isMac, found⟩
        · left
          refine ⟨notFound, ?_⟩
          intro pos above below
          rcases above.eq_or_lt with rfl | isLater
          · exact same
          · exact others pos isLater (by omega)
        · right
          exact ⟨pos, by omega, isMac, found⟩

variable (mac) in
theorem search_spec (ok : cache.CacheOk) :
    (cache.search mac = some none ∧ mac ∉ cache.view.macs) ∨
    ∃ i, i < cache.numNeighborClient ∧ (cache.neighborClient i).macAddr = mac ∧
      cache.search mac = some (some i) := by
  have within : 0 + cache.numNeighborClient ≤ ipaMaxNumNeighborClients := by
    rw [Nat.zero_add]
    exact ok.within
  rcases searchFrom_spec cache mac within with ⟨notFound, others⟩ | ⟨pos, inRange, isMac, found⟩
  · left
    refine ⟨notFound, ?_⟩
    intro isIn
    rcases mem_map.mp isIn with ⟨client, clientMem, isMac⟩
    rcases mem_map.mp clientMem with ⟨pos, inRange, rfl⟩
    have below := mem_range.mp inRange
    exact others pos (Nat.zero_le _) (by omega) isMac
  · right
    rw [Nat.zero_add] at inRange
    exact ⟨pos, inRange, isMac, found⟩

omit [DecidableEq μ] in
theorem mem_macs (inUse : i < cache.numNeighborClient)
    (isMac : (cache.neighborClient i).macAddr = mac) : mac ∈ cache.view.macs := by
  rw [← isMac]
  apply mem_map_of_mem
  exact mem_map_of_mem (mem_range.mpr inUse)

theorem view_withClient (ok : cache.CacheOk) (inUse : i < cache.numNeighborClient)
    (isMac : (cache.neighborClient i).macAddr = mac)
    (change : NeighborClient μ → NeighborClient μ) (other : Option (NeighborClient μ)) :
    (cache.withClient i (change (cache.neighborClient i))).view =
      cache.view.apply (.touch mac change other) := by
  have isIndex : i < cache.clients.length := by rwa [length_clients]
  have entry := getElem_clients isIndex
  have isWanted : cache.clients[i].macAddr = mac := by rw [entry, isMac]
  have touched : cache.clients.set i (change cache.clients[i]) =
      touch NeighborClient.macAddr mac change cache.clients :=
    set_eq_touch ok.nodup isIndex isWanted
  simp only [ClientList.apply, if_pos (mem_macs inUse isMac)]
  unfold view
  rw [ClientList.mk.injEq, clients_withClient, ← entry]
  exact ⟨touched, rfl⟩

theorem view_clean [Zero μ] (ok : cache.CacheOk) (inUse : i < cache.numNeighborClient)
    (isMac : (cache.neighborClient i).macAddr = mac) :
    ∃ cleaned, cache.cleanClient i = some cleaned ∧
      cleaned.view = cache.view.apply (.remove mac) := by
  rcases cleanClient_spec ok.within inUse with ⟨cleaned, isCleaned, isView⟩
  refine ⟨cleaned, isCleaned, ?_⟩
  have isIndex : i < cache.clients.length := by rwa [length_clients]
  have isWanted : cache.clients[i].macAddr = mac := by rw [getElem_clients isIndex, isMac]
  have removed : cache.clients.eraseIdx i =
      remove NeighborClient.macAddr mac cache.clients :=
    eraseIdx_eq_remove ok.nodup isIndex isWanted
  rw [isView, removed]
  rfl

theorem view_keep (mac : μ) : cache.view.apply (.touch mac id none) = cache.view := by
  simp only [ClientList.apply]
  split
  · rw [touch_id]
  · rfl

theorem view_remove_of_notMem (notMem : mac ∉ cache.view.macs) :
    cache.view.apply (.remove mac) = cache.view := by
  rw [ClientList.apply, remove_of_notMem notMem]

end Search

section Events

variable [DecidableEq μ]

structure Makes (cache : Neighbor μ) (handler : Option (NeighHandled μ))
    (change : ClientChange μ) : Prop where
  makes : cache.view.HasRoom change →
    ∃ handled, handler = some handled ∧ handled.cache.view = cache.view.apply change
  leaves : ¬ cache.view.HasRoom change → handler = none

variable {query : IfaceQuery} {change : NeighborClient μ → NeighborClient μ}
  {other : Option (NeighborClient μ)} {handler : Option (NeighHandled μ)}

omit [DecidableEq μ] in
theorem hasRoom_none : cache.view.HasRoom (.touch mac change none) := .inr (.inl rfl)

theorem makes_keep (mac : μ) (posts : List (ClientAddrEvent μ)) (ifIndex : ℤ) :
    Makes cache (some ⟨cache, posts, ifIndex⟩) (.touch mac id none) :=
  ⟨fun _ => ⟨_, rfl, (view_keep mac).symm⟩, fun noRoom => absurd hasRoom_none noRoom⟩

theorem makes_absent (notMem : mac ∉ cache.view.macs) (posts : List (ClientAddrEvent μ))
    (ifIndex : ℤ) : Makes cache (some ⟨cache, posts, ifIndex⟩) (.touch mac change none) := by
  refine ⟨fun _ => ⟨_, rfl, ?_⟩, fun noRoom => absurd hasRoom_none noRoom⟩
  exact (if_neg notMem).symm

variable (change other) in
theorem makes_touch (ok : cache.CacheOk) (inUse : i < cache.numNeighborClient)
    (isMac : (cache.neighborClient i).macAddr = mac) (posts : List (ClientAddrEvent μ))
    (ifIndex : ℤ) :
    Makes cache
      (some ⟨cache.withClient i (change (cache.neighborClient i)), posts, ifIndex⟩)
      (.touch mac change other) := by
  refine ⟨fun _ => ⟨_, rfl, view_withClient ok inUse isMac change other⟩, ?_⟩
  exact fun noRoom => absurd (.inl (mem_macs inUse isMac)) noRoom

variable (change) in
theorem makes_insert (notMem : mac ∉ cache.view.macs) (posts : List (ClientAddrEvent μ))
    (ifIndex : ℤ) :
    Makes cache ((cache.insertClient new).bind fun cache => some ⟨cache, posts, ifIndex⟩)
      (.touch mac change (some new)) := by
  constructor
  · intro room
    have slots : cache.numNeighborClient < ipaMaxNumNeighborClients ∨
        cache.circularIndex < ipaMaxNumNeighborClients := by
      rcases room with isIn | isNone | notFull | notRecycled
      · exact absurd isIn notMem
      · cases isNone
      · exact .inl (by rwa [view, length_clients] at notFull)
      · exact .inr notRecycled
    rcases insertClient_spec slots with ⟨inserted, isInserted, isView⟩
    rw [isInserted]
    exact ⟨_, rfl, isView.trans (if_neg notMem).symm⟩
  · intro noRoom
    have out : cache.insertClient new = none := by
      apply insertClient_none
      · intro notFull
        exact noRoom (.inr (.inr (.inl (by rwa [view, length_clients]))))
      · exact fun notRecycled => noRoom (.inr (.inr (.inr notRecycled)))
    rw [out]
    rfl

theorem makes_remove [Zero μ] (ok : cache.CacheOk) (inUse : i < cache.numNeighborClient)
    (isMac : (cache.neighborClient i).macAddr = mac) (posts : List (ClientAddrEvent μ))
    (ifIndex : ℤ) :
    Makes cache ((cache.cleanClient i).bind fun cache => some ⟨cache, posts, ifIndex⟩)
      (.remove mac) := by
  rcases view_clean ok inUse isMac with ⟨cleaned, isCleaned, isView⟩
  rw [isCleaned]
  exact ⟨fun _ => ⟨_, rfl, isView⟩, fun noRoom => absurd trivial noRoom⟩

omit [DecidableEq μ] in
theorem macs_withClient (isMac : new.macAddr = (cache.neighborClient i).macAddr) :
    (cache.withClient i new).view.macs = cache.view.macs := by
  unfold ClientList.macs view clients withClient
  rw [map_map, map_map]
  apply map_congr_left
  intro pos _
  by_cases same : pos = i
  · subst same
    simpa using isMac
  · simp [Function.update_of_ne same]

omit [DecidableEq μ] in
theorem CacheOk.withClient (ok : cache.CacheOk)
    (isMac : new.macAddr = (cache.neighborClient i).macAddr) :
    (cache.withClient i new).CacheOk := by
  refine ⟨ok.within, ?_⟩
  rw [macs_withClient isMac]
  exact ok.nodup

variable (change) in
theorem makes_touchRemove [Zero μ] (ok : cache.CacheOk) (inUse : i < cache.numNeighborClient)
    (isMac : (cache.neighborClient i).macAddr = mac)
    (keeps : ∀ client, client.macAddr = mac → (change client).macAddr = mac)
    (posts : List (ClientAddrEvent μ)) (ifIndex : ℤ) :
    Makes cache (((cache.withClient i (change (cache.neighborClient i))).cleanClient i).bind
      fun cache => some ⟨cache, posts, ifIndex⟩) (.remove mac) := by
  have kept := keeps _ isMac
  have isEntry : ((cache.withClient i (change (cache.neighborClient i))).neighborClient i).macAddr =
      mac := by
    simpa [withClient] using kept
  rcases view_clean (ok.withClient (kept.trans isMac.symm)) inUse isEntry with
    ⟨cleaned, isCleaned, isView⟩
  rw [isCleaned]
  refine ⟨fun _ => ⟨_, rfl, ?_⟩, fun noRoom => absurd trivial noRoom⟩
  rw [isView, view_withClient ok inUse isMac change none]
  simp only [ClientList.apply, if_pos (mem_macs inUse isMac), remove_touch keeps]

theorem makes_removeAbsent (notMem : mac ∉ cache.view.macs) (posts : List (ClientAddrEvent μ))
    (ifIndex : ℤ) : Makes cache (some ⟨cache, posts, ifIndex⟩) (.remove mac) :=
  ⟨fun _ => ⟨_, rfl, (view_remove_of_notMem notMem).symm⟩, fun noRoom => absurd trivial noRoom⟩

variable [Zero μ]

variable (ok : cache.CacheOk)

include ok

omit [Zero μ] in
theorem wlanClientAddEx_makes (ifIndex : ℤ) (mac : μ) :
    Makes cache (cache.wlanClientAddEx query ifIndex mac)
      (.touch mac (if query.isBridge then id else movedTo ifIndex) none) := by
  rcases search_spec mac ok with ⟨notFound, notMem⟩ | ⟨i, inUse, isMac, found⟩
  · simp only [wlanClientAddEx, notFound, Option.bind_eq_bind, Option.bind_some]
    exact makes_absent notMem _ _
  · have isSlot := inUse.trans_le ok.within
    simp only [wlanClientAddEx, found, client_eq isSlot, setClient_eq isSlot, Option.bind_eq_bind,
      Option.bind_some]
    by_cases isBridge : query.isBridge
    · rw [if_pos isBridge, if_pos isBridge]
      exact makes_keep mac _ _
    · rw [if_neg isBridge, if_neg isBridge]
      have touched (posts : List (ClientAddrEvent μ)) :=
        makes_touch (movedTo ifIndex) none ok inUse isMac posts ifIndex
      split
      · exact touched []
      · exact touched _

section

variable (addr : BitVec 32)

include addr

variable (data : NeighData μ)

include data

theorem bridgeV4_new_makes :
    Makes cache (cache.bridgeV4 true addr data) (.touch data.macAddr (withAddr addr) none) := by
  rcases search_spec data.macAddr ok with ⟨notFound, notMem⟩ | ⟨i, inUse, isMac, found⟩
  · simp only [bridgeV4, notFound, Option.bind_eq_bind, Option.bind_some]
    exact makes_absent notMem _ _
  · have isSlot := inUse.trans_le ok.within
    simp only [bridgeV4, found, client_eq isSlot, setClient_eq isSlot, Option.bind_eq_bind,
      Option.bind_some, if_true]
    exact makes_touch (withAddr addr) none ok inUse isMac _ _

theorem bridgeV4_del_makes :
    Makes cache (cache.bridgeV4 false addr data) (.remove data.macAddr) := by
  rcases search_spec data.macAddr ok with ⟨notFound, notMem⟩ | ⟨i, inUse, isMac, found⟩
  · simp only [bridgeV4, notFound, Option.bind_eq_bind, Option.bind_some]
    exact makes_removeAbsent notMem _ _
  · have isSlot := inUse.trans_le ok.within
    simp only [bridgeV4, found, client_eq isSlot, setClient_eq isSlot, Option.bind_eq_bind,
      Option.bind_some, if_false, Bool.false_eq_true]
    exact makes_touchRemove (withAddr addr) ok inUse isMac (fun _ isMac => isMac) _ _

theorem ownV4_new_makes :
    Makes cache (cache.ownV4 query true addr data)
      (.touch data.macAddr
        (fun _ => ⟨data.macAddr, data.ifIndex, addr, query.ipaInterfaceIndex⟩)
        (some ⟨data.macAddr, data.ifIndex, addr, query.ipaInterfaceIndex⟩)) := by
  rcases search_spec data.macAddr ok with ⟨notFound, notMem⟩ | ⟨i, inUse, isMac, found⟩
  · simp only [ownV4, notFound, Option.bind_eq_bind, Option.bind_some, if_true]
    exact makes_insert _ notMem _ _
  · have isSlot := inUse.trans_le ok.within
    simp only [ownV4, found, setClient_eq isSlot, Option.bind_eq_bind, Option.bind_some, if_true]
    exact makes_touch (fun _ => _) _ ok inUse isMac _ _

theorem ownV4_del_makes :
    Makes cache (cache.ownV4 query false addr data) (.remove data.macAddr) := by
  rcases search_spec data.macAddr ok with ⟨notFound, notMem⟩ | ⟨i, inUse, isMac, found⟩
  · simp only [ownV4, notFound, Option.bind_eq_bind, Option.bind_some, Bool.false_eq_true,
      if_false]
    exact makes_removeAbsent notMem _ _
  · simp only [ownV4, found, Option.bind_eq_bind, Option.bind_some, Bool.false_eq_true, if_false]
    exact makes_remove ok inUse isMac _ _

end

omit [Zero μ] in
theorem bridgeV6_makes (isNew : Bool) (data : NeighData μ) :
    Makes cache (cache.bridgeV6 isNew data) (.touch data.macAddr id none) := by
  rcases search_spec data.macAddr ok with ⟨notFound, notMem⟩ | ⟨i, inUse, isMac, found⟩
  · simp only [bridgeV6, notFound, Option.bind_eq_bind, Option.bind_some]
    exact makes_keep _ _ _
  · have isSlot := inUse.trans_le ok.within
    simp only [bridgeV6, found, client_eq isSlot, Option.bind_eq_bind, Option.bind_some]
    exact makes_keep _ _ _

theorem addressless_new_makes (data : NeighData μ) :
    Makes cache (cache.addressless query true data)
      (if query.isBridge then .touch data.macAddr id none
        else .touch data.macAddr (movedTo data.ifIndex)
          (some ⟨data.macAddr, data.ifIndex, 0, query.ipaInterfaceIndex⟩)) := by
  by_cases isBridge : query.isBridge
  · rcases search_spec data.macAddr ok with ⟨notFound, notMem⟩ | ⟨i, inUse, isMac, found⟩
    · simp only [addressless, notFound, isBridge, Option.bind_eq_bind, Option.bind_some, if_true,
        Bool.not_true, Bool.false_eq_true, and_false, if_false]
      exact makes_keep _ _ _
    · have isSlot := inUse.trans_le ok.within
      simp only [addressless, found, client_eq isSlot, isBridge, Option.bind_eq_bind,
        Option.bind_some, if_true]
      exact makes_keep _ _ _
  · rcases search_spec data.macAddr ok with ⟨notFound, notMem⟩ | ⟨i, inUse, isMac, found⟩
    · simp only [addressless, notFound, isBridge, Option.bind_eq_bind, Option.bind_some,
        Bool.not_false, and_self, if_true, Bool.false_eq_true, if_false]
      exact makes_insert _ notMem _ _
    · have isSlot := inUse.trans_le ok.within
      simp only [addressless, found, client_eq isSlot, setClient_eq isSlot, isBridge,
        Option.bind_eq_bind, Option.bind_some, if_true, Bool.false_eq_true, if_false]
      exact makes_touch (movedTo data.ifIndex) _ ok inUse isMac _ _

theorem addressless_del_makes (data : NeighData μ) :
    Makes cache (cache.addressless query false data) (.remove data.macAddr) := by
  rcases search_spec data.macAddr ok with ⟨notFound, notMem⟩ | ⟨i, inUse, isMac, found⟩
  · simp only [addressless, notFound, Option.bind_eq_bind, Option.bind_some, Bool.false_eq_true,
      false_and, if_false]
    exact makes_removeAbsent notMem _ _
  · have isSlot := inUse.trans_le ok.within
    by_cases isBridge : query.isBridge
    · simp only [addressless, found, client_eq isSlot, isBridge, Option.bind_eq_bind,
        Option.bind_some, if_true, Bool.false_eq_true, if_false]
      exact makes_remove ok inUse isMac _ _
    · simp only [addressless, found, client_eq isSlot, setClient_eq isSlot, isBridge,
        Option.bind_eq_bind, Option.bind_some, Bool.false_eq_true, if_false]
      exact makes_touchRemove (movedTo data.ifIndex) ok inUse isMac (fun _ isMac => isMac) _ _

theorem eventCallback_makes (query : IfaceQuery) (event : NeighEvent μ) :
    Makes cache (cache.eventCallback query event) (changeOf query event) := by
  cases event with
  | wlanClientAddEx ifIndex attribs stale => exact wlanClientAddEx_makes ok ifIndex _
  | newNeigh data =>
      cases isAddr : data.addr with
      | v4 addr =>
          simp only [eventCallback, changeOf, newNeighChange, neighEvent, isAddr]
          by_cases usable : IsUsable addr
          · rw [if_neg usable, if_neg (not_not.mpr usable)]
            split
            · exact bridgeV4_new_makes ok addr data
            · exact ownV4_new_makes ok addr data
          · rw [if_pos (not_not.mp usable), if_pos usable]
            exact makes_keep _ _ _
      | v6 addr =>
          simp only [eventCallback, changeOf, newNeighChange, neighEvent, isAddr]
          by_cases isSome : addr ≠ 0
          · have isIgnored : addr ≠ 0 ∨ query.isBridge := .inl isSome
            rw [if_pos isSome, if_pos isIgnored]
            split
            · exact bridgeV6_makes ok true data
            · exact makes_keep _ _ _
          · rw [if_neg isSome]
            simpa only [isSome, false_or] using addressless_new_makes ok data
  | delNeigh data =>
      cases isAddr : data.addr with
      | v4 addr =>
          simp only [eventCallback, changeOf, delNeighChange, neighEvent, isAddr]
          by_cases usable : IsUsable addr
          · rw [if_neg usable, if_pos usable]
            split
            · exact bridgeV4_del_makes ok addr data
            · exact ownV4_del_makes ok addr data
          · rw [if_pos (not_not.mp usable), if_neg usable]
            exact makes_keep _ _ _
      | v6 addr =>
          simp only [eventCallback, changeOf, delNeighChange, neighEvent, isAddr]
          by_cases isSome : addr ≠ 0
          · rw [if_pos isSome, if_pos isSome]
            split
            · exact bridgeV6_makes ok false data
            · exact makes_keep _ _ _
          · rw [if_neg isSome, if_neg isSome]
            exact addressless_del_makes ok data

end Events

end Neighbor

structure NeighborRun (μ : Type) where
  cache : Neighbor μ
  cached : ClientList μ

namespace NeighborRun

open Neighbor

variable [DecidableEq μ] [Zero μ] {run next : NeighborRun μ}

def step (run : NeighborRun μ) (event : IfaceQuery × NeighEvent μ) : Option (NeighborRun μ) :=
  (run.cache.eventCallback event.1 event.2).map fun handled =>
    ⟨handled.cache, run.cached.apply (changeOf event.1 event.2)⟩

def Step (run : NeighborRun μ) (event : IfaceQuery × NeighEvent μ) (next : NeighborRun μ) : Prop :=
  run.step event = some next

def IsInit (run : NeighborRun μ) : Prop := run = ⟨.initial, [], 0⟩

/-- An entry is recycled for a new client only while fewer than `IPA_MAX_NUM_NEIGHBOR_CLIENTS` were.
-/
def Meets (run : NeighborRun μ) (event : IfaceQuery × NeighEvent μ) : Prop :=
  run.cache.view.HasRoom (changeOf event.1 event.2)

/-- The used entries are the first ones, their number is kept, no two have the same address, and
every event stays within the array. -/
structure CacheSafe (run : NeighborRun μ) : Prop where
  num : run.cache.numNeighborClient = run.cached.clients.length
  entries : ∀ i < run.cache.numNeighborClient,
    run.cached.clients[i]? = some (run.cache.neighborClient i)
  within : run.cache.numNeighborClient ≤ ipaMaxNumNeighborClients
  distinct : ∀ i < run.cache.numNeighborClient, ∀ j < run.cache.numNeighborClient,
    (run.cache.neighborClient i).macAddr = (run.cache.neighborClient j).macAddr → i = j
  inBounds : ∀ query event, (run.cache.eventCallback query event).isSome ↔ run.Meets (query, event)
  others : ∀ query data handled,
    run.cache.eventCallback query (.delNeigh data) = some handled →
      handled.cache.clients.filter (·.macAddr ≠ data.macAddr) =
        run.cache.clients.filter (·.macAddr ≠ data.macAddr)

structure RunInv (run : NeighborRun μ) : Prop where
  ok : run.cache.CacheOk
  cached : run.cached = run.cache.view

section Invariant

variable {list : ClientList μ} {new : NeighborClient μ} {change : ClientChange μ}

omit [DecidableEq μ] [Zero μ] in
theorem length_le_insert (within : list.clients.length ≤ ipaMaxNumNeighborClients) :
    (list.insert new).clients.length ≤ ipaMaxNumNeighborClients := by
  unfold ClientList.insert
  split
  · simp only [length_append, length_singleton]
    omega
  · simpa using within

omit [DecidableEq μ] [Zero μ] in
theorem nodup_insert (nodup : list.macs.Nodup)
    (notMem : new.macAddr ∉ list.macs) : (list.insert new).macs.Nodup := by
  unfold ClientList.insert ClientList.macs at *
  split
  · simp only [map_append, map_cons, map_nil]
    rw [nodup_append]
    refine ⟨nodup, nodup_singleton _, ?_⟩
    intro mac isIn other isNew same
    rw [mem_singleton.mp isNew] at same
    exact notMem (same ▸ isIn)
  · rw [map_set]
    exact nodup.set notMem

def Keeps : ClientChange μ → Prop
  | .touch mac change new =>
      (∀ client, client.macAddr = mac → (change client).macAddr = mac) ∧
        ∀ client, new = some client → client.macAddr = mac
  | .remove _ => True

omit [DecidableEq μ] [Zero μ] in
theorem keeps_touch (mac : μ) {change : NeighborClient μ → NeighborClient μ}
    (keeps : ∀ client, (change client).macAddr = client.macAddr) : Keeps (.touch mac change none) :=
  ⟨fun client isMac => (keeps client).trans isMac, fun _ isNone => nomatch isNone⟩

omit [DecidableEq μ] [Zero μ] in
theorem keeps_changeOf (query : IfaceQuery) (event : NeighEvent μ) :
    Keeps (changeOf query event) := by
  cases event with
  | wlanClientAddEx ifIndex attribs stale =>
      simp only [changeOf]
      split
      · exact keeps_touch _ fun _ => rfl
      · exact keeps_touch _ fun _ => rfl
  | newNeigh data =>
      simp only [changeOf, newNeighChange]
      split
      · split
        · exact keeps_touch _ fun _ => rfl
        · split
          · exact keeps_touch _ fun _ => rfl
          · exact ⟨fun _ _ => rfl, fun client isNew => by cases isNew; rfl⟩
      · split
        · exact keeps_touch _ fun _ => rfl
        · exact ⟨fun _ isMac => isMac, fun client isNew => by cases isNew; rfl⟩
  | delNeigh data =>
      simp only [changeOf, delNeighChange]
      split
      · split
        · exact trivial
        · exact keeps_touch _ fun _ => rfl
      · split
        · exact keeps_touch _ fun _ => rfl
        · exact trivial

omit [Zero μ] in
theorem apply_ok (keeps : Keeps change)
    (within : list.clients.length ≤ ipaMaxNumNeighborClients) (nodup : list.macs.Nodup) :
    (list.apply change).clients.length ≤ ipaMaxNumNeighborClients ∧
      (list.apply change).macs.Nodup := by
  cases change with
  | remove mac =>
      exact ⟨(length_filter_le _ _).trans within, distinct_remove nodup⟩
  | touch mac change new =>
      simp only [ClientList.apply]
      split
      · refine ⟨by simpa [touch] using within, ?_⟩
        rw [ClientList.macs, keys_touch keeps.1]
        exact nodup
      · rename_i notMem
        split
        · exact ⟨within, nodup⟩
        · refine ⟨length_le_insert within, nodup_insert nodup ?_⟩
          rwa [keeps.2 _ rfl]

omit [Zero μ] in
theorem view_ok {cache : Neighbor μ} (ok : cache.CacheOk)
    (keeps : Keeps change) {cache' : Neighbor μ} (isView : cache'.view = cache.view.apply change) :
    cache'.CacheOk := by
  have applied := apply_ok keeps (length_clients.trans_le ok.within) ok.nodup
  rw [← isView] at applied
  exact ⟨length_clients.symm.trans_le applied.1, applied.2⟩

theorem RunInv.step (inv : run.RunInv) {event : IfaceQuery × NeighEvent μ}
    (stepped : run.Step event next) : next.RunInv := by
  rcases Option.map_eq_some_iff.mp stepped with ⟨handled, isHandled, rfl⟩
  have makes := eventCallback_makes inv.ok event.1 event.2
  by_cases room : run.cache.view.HasRoom (changeOf event.1 event.2)
  · rcases makes.makes room with ⟨handled', isHandled', isView⟩
    rw [isHandled] at isHandled'
    cases isHandled'
    refine ⟨view_ok inv.ok (keeps_changeOf _ _) isView, ?_⟩
    simp only [inv.cached, isView]
  · rw [makes.leaves room] at isHandled
    cases isHandled

omit [DecidableEq μ] in
theorem runInv_init : RunInv (μ := μ) ⟨.initial, [], 0⟩ :=
  ⟨⟨Nat.zero_le _, nodup_nil⟩, rfl⟩

end Invariant

theorem RunInv.cacheSafe (inv : run.RunInv) : run.CacheSafe := by
  have cached : run.cached.clients = run.cache.clients := by
    rw [inv.cached]
    rfl
  constructor
  case num => rw [cached, length_clients]
  case entries =>
    intro i inUse
    rw [cached, clients, getElem?_map, getElem?_range inUse]
    rfl
  case within => exact inv.ok.within
  case distinct =>
    intro i inUse j inUse' same
    have nodup := inv.ok.nodup
    rw [view, ClientList.macs, clients, map_map] at nodup
    exact inj_on_of_nodup_map nodup (mem_range.mpr inUse) (mem_range.mpr inUse') same
  case inBounds =>
    intro query event
    have makes := eventCallback_makes inv.ok query event
    constructor
    · intro isSome
      by_contra noRoom
      rw [makes.leaves noRoom] at isSome
      cases isSome
    · intro room
      rcases makes.makes room with ⟨handled, isHandled, -⟩
      rw [isHandled]
      rfl
  case others =>
    intro query data handled isHandled
    have makes := eventCallback_makes inv.ok query (.delNeigh data)
    have room : run.cache.view.HasRoom (changeOf query (.delNeigh data)) := by
      by_contra noRoom
      rw [makes.leaves noRoom] at isHandled
      cases isHandled
    rcases makes.makes room with ⟨handled', isHandled', isView⟩
    rw [isHandled] at isHandled'
    cases isHandled'
    have kept : (run.cache.view.apply (delNeighChange data)).clients.filter
        (·.macAddr ≠ data.macAddr) = run.cache.clients.filter (·.macAddr ≠ data.macAddr) := by
      have removed : remove NeighborClient.macAddr data.macAddr
          (run.cache.view.apply (.remove data.macAddr)).clients =
            remove NeighborClient.macAddr data.macAddr run.cache.clients :=
        remove_remove
      unfold delNeighChange
      split <;> split <;> first | exact removed | rw [view_keep]; rfl
    rw [← kept]
    exact congrArg (fun list : ClientList μ => list.clients.filter _) isView

/-- In every run whose events recycle entries only while there are some that were not, the cache is
right; and exactly such events stay within the array. -/
theorem reachable_cacheSafe
    (reached : Run.Reachable IsInit (Run.Guarded Meets Step) run) : run.CacheSafe := by
  have inv : run.RunInv := by
    apply reached.invariant
    · rintro _ rfl
      exact runInv_init
    · rintro run event next inv ⟨-, stepped⟩
      exact inv.step stepped
  exact inv.cacheSafe

instance (run : NeighborRun μ) (event : IfaceQuery × NeighEvent μ) : Decidable (run.Meets event) :=
  inferInstanceAs (Decidable (ClientList.HasRoom _ _))

def comes (mac : ℕ) : IfaceQuery × NeighEvent ℕ :=
  (⟨0, false⟩, .newNeigh ⟨1, .v4 0xC0A80001, mac⟩)

def goes (mac : ℕ) : IfaceQuery × NeighEvent ℕ :=
  (⟨0, false⟩, .delNeigh ⟨1, .v4 0xC0A80001, mac⟩)

theorem twoComeOneGoes_isSome :
    (Run.runGuarded Meets step ⟨.initial, [], 0⟩ [comes 5, comes 6, goes 5]).isSome = true := by
  decide +kernel

theorem reachable_cacheSafe_twoComeOneGoes :
    ∃ run : NeighborRun ℕ, run.cached.macs = [6] ∧ run.CacheSafe := by
  have start : IsInit (⟨.initial, [], 0⟩ : NeighborRun ℕ) := rfl
  have reached := Run.Reachable.runGuarded [comes 5, comes 6, goes 5] (.start start)
    (Option.some_get twoComeOneGoes_isSome).symm
  exact ⟨_, by decide +kernel, reachable_cacheSafe reached⟩

theorem reachable_after (count : ℕ) (within : count ≤ 2 * ipaMaxNumNeighborClients) :
    ∃ run : NeighborRun ℕ, Run.Reachable IsInit Step run ∧ run.RunInv ∧
      run.cache.numNeighborClient = min count ipaMaxNumNeighborClients ∧
      run.cache.circularIndex = count - ipaMaxNumNeighborClients ∧
      ∀ mac ∈ run.cache.view.macs, mac < count := by
  induction count with
  | zero =>
      refine ⟨⟨.initial, [], 0⟩, .start rfl, runInv_init, by simp [initial], by simp [initial], ?_⟩
      intro mac isIn
      cases isIn
  | succ count ih =>
      rcases ih (by omega) with ⟨run, reached, inv, num, circular, below⟩
      have notMem : count ∉ run.cache.view.macs := fun isIn => (below count isIn).false
      have room : run.Meets (comes count) := by
        right
        right
        simp only [view, length_clients, num, circular]
        omega
      let new : NeighborClient ℕ := ⟨count, 1, 0xC0A80001, 0⟩
      have isChange : changeOf (comes count).1 (comes count).2 =
          .touch count (fun _ => new) (some new) := rfl
      rcases (eventCallback_makes inv.ok (comes count).1 (comes count).2).makes room with
        ⟨handled, isHandled, isView⟩
      have stepped : run.Step (comes count) ⟨handled.cache, run.cached.apply _⟩ :=
        Option.map_eq_some_iff.mpr ⟨handled, isHandled, rfl⟩
      have inserted : handled.cache.view = run.cache.view.insert new := by
        rw [isView, isChange]
        exact if_neg notMem
      refine ⟨_, .next _ reached stepped, inv.step stepped, ?_, ?_, ?_⟩
      · have length := congrArg (fun list => list.clients.length) inserted
        simp only [view, length_clients, ClientList.insert, num] at length
        rw [length]
        split
        · simp [num]
          omega
        · simp [num]
          omega
      · have recycled := congrArg ClientList.recycled inserted
        simp only [view, ClientList.insert, length_clients, num] at recycled
        rw [recycled]
        split
        · simp only [circular]
          omega
        · simp only [circular]
          omega
      · intro mac isIn
        simp only [inserted] at isIn
        unfold ClientList.insert ClientList.macs at isIn
        split at isIn
        · simp only [map_append, map_cons, map_nil, mem_append,
            mem_singleton] at isIn
          rcases isIn with old | rfl
          · exact (below mac old).trans (Nat.lt_succ_self count)
          · exact Nat.lt_succ_self _
        · rw [map_set] at isIn
          rcases mem_or_eq_of_mem_set isIn with old | rfl
          · exact (below mac old).trans (Nat.lt_succ_self count)
          · exact Nat.lt_succ_self _

/-- The client that comes when every entry was recycled is written behind the array. -/
theorem not_cacheSafe :
    ∃ run : NeighborRun ℕ, Run.Reachable IsInit Step run ∧
      run.cache.circularIndex = ipaMaxNumNeighborClients ∧
      run.cache.eventCallback (comes 200).1 (comes 200).2 = none ∧
      ¬ ∀ query event, (run.cache.eventCallback query event).isSome := by
  rcases reachable_after 200 (le_refl _) with ⟨run, reached, inv, num, circular, below⟩
  have notMem : 200 ∉ run.cache.view.macs := fun isIn => (below 200 isIn).false
  have noRoom : ¬ run.Meets (comes 200) := by
    rintro (isIn | isNone | notFull | notRecycled)
    · exact notMem isIn
    · cases isNone
    · simp only [view, length_clients, num] at notFull
      exact absurd notFull (by decide)
    · simp only [view, circular] at notRecycled
      exact absurd notRecycled (by decide)
  have leaves := (eventCallback_makes inv.ok (comes 200).1 (comes 200).2).leaves noRoom
  refine ⟨run, reached, circular, leaves, ?_⟩
  intro allSafe
  have isSome := allSafe (comes 200).1 (comes 200).2
  rw [leaves] at isSome
  cases isSome

end NeighborRun

end HtcPme.Ipacm
