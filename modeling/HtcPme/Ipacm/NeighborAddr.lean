import HtcPme.Ipacm.NeighborRun

/-!
# What is cached of a neighbour client

The address of a client is that of the last event that brought one, and its two interface numbers
come from one look-up.
-/

namespace HtcPme.Ipacm

open List Option

variable {μ : Type}

def NeighEvent.ifIndex : NeighEvent μ → ℤ
  | .wlanClientAddEx ifIndex _ _ => ifIndex
  | .newNeigh data | .delNeigh data => data.ifIndex

def NeighEvent.mac : NeighEvent μ → μ
  | .wlanClientAddEx _ attribs stale => Neighbor.clientMacAddr stale attribs
  | .newNeigh data | .delNeigh data => data.macAddr

def NeighEvent.newAddr : NeighEvent μ → Option (BitVec 32)
  | .newNeigh ⟨_, .v4 addr, _⟩ => if IsUsable addr then some addr else none
  | _ => none

def NeighEvent.IsReturn : NeighEvent μ → Prop
  | .wlanClientAddEx _ _ _ => True
  | .newNeigh ⟨_, .v6 addr, _⟩ => addr = 0
  | _ => False

/-- A cache with the last address that each cached client was heard of with since it is cached, and
the interface numbers that were looked up. -/
structure AddrRun (μ : Type) where
  cache : Neighbor μ
  lastAddr : μ → BitVec 32
  lookups : List (ℤ × ℤ)

namespace AddrRun

open Neighbor

variable [DecidableEq μ] [Zero μ] {run next : AddrRun μ}

def step (run : AddrRun μ) (event : IfaceQuery × NeighEvent μ) : Option (AddrRun μ) :=
  (run.cache.eventCallback event.1 event.2).map fun handled =>
    { cache := handled.cache
      lastAddr := fun mac =>
        let kept := if mac ∈ run.cache.view.macs then run.lastAddr mac else 0
        if mac = event.2.mac then event.2.newAddr.getD kept else kept
      lookups := (event.2.ifIndex, event.1.ipaInterfaceIndex) :: run.lookups }

def Step (run : AddrRun μ) (event : IfaceQuery × NeighEvent μ) (next : AddrRun μ) : Prop :=
  run.step event = some next

def IsInit (run : AddrRun μ) : Prop := run = ⟨.initial, fun _ => 0, []⟩

/-- An entry is made for a client with an address only while the array is not full; a client that
comes back has the interface index that it had, or the same interface. -/
structure Meets (run : AddrRun μ) (event : IfaceQuery × NeighEvent μ) : Prop where
  room : run.cache.view.HasRoom (changeOf event.1 event.2)
  notFull : event.2.newAddr.isSome → event.1.isBridge = false →
    event.2.mac ∉ run.cache.view.macs → run.cache.numNeighborClient < ipaMaxNumNeighborClients
  stays : event.2.IsReturn → event.1.isBridge = false → ∀ client ∈ run.cache.clients,
    client.macAddr = event.2.mac → client.ifaceIndex ≠ event.2.ifIndex →
      client.ipaIfNum = event.1.ipaInterfaceIndex

structure ClientFits (run : AddrRun μ) (client : NeighborClient μ) : Prop where
  addr : client.v4Addr = run.lastAddr client.macAddr
  usable : client.v4Addr = 0 ∨ IsUsable client.v4Addr
  iface : (client.ifaceIndex, client.ipaIfNum) ∈ run.lookups

/-- Every client is cached with its last address and one interface, and the address that is posted
when it comes back is this one, on this interface. -/
structure AddrOk (run : AddrRun μ) : Prop where
  fits : ∀ client ∈ run.cache.clients, run.ClientFits client
  reposts : ∀ query event handled, event.IsReturn →
    run.cache.eventCallback query event = some handled → ∀ post ∈ handled.posts,
      post.isAdd = true ∧ ∃ client ∈ handled.cache.clients,
        client.macAddr = post.data.macAddr ∧ post.data.ifIndex = client.ifaceIndex ∧
          post.data.addr = .v4 (run.lastAddr client.macAddr)

section Changes

variable {list : ClientList μ} {mac : μ} {change : NeighborClient μ → NeighborClient μ}
  {new : Option (NeighborClient μ)} {client : NeighborClient μ}

omit [Zero μ] in
theorem mem_apply_touch (isIn : client ∈ (list.apply (.touch mac change new)).clients) :
    (client ∈ list.clients ∧ client.macAddr ≠ mac) ∨
    (∃ before ∈ list.clients, before.macAddr = mac ∧ client = change before) ∨
    (mac ∉ list.macs ∧ ∃ inserted, new = some inserted ∧
      (list.clients.length < ipaMaxNumNeighborClients ∧ client = inserted ∨
        ¬ list.clients.length < ipaMaxNumNeighborClients ∧
          client = { inserted with v4Addr := 0 })) := by
  simp only [ClientList.apply] at isIn
  split at isIn
  · rcases KeyedList.mem_touch.mp isIn with ⟨before, wasIn, isChanged⟩
    by_cases same : before.macAddr = mac
    · rw [if_pos same] at isChanged
      exact .inr (.inl ⟨before, wasIn, same, isChanged.symm⟩)
    · rw [if_neg same] at isChanged
      subst isChanged
      exact .inl ⟨wasIn, same⟩
  · rename_i notMem
    have other (wasIn : client ∈ list.clients) : client.macAddr ≠ mac := by
      rintro rfl
      exact notMem (mem_map_of_mem wasIn)
    split at isIn
    · exact .inl ⟨isIn, other isIn⟩
    · rename_i inserted
      unfold ClientList.insert at isIn
      split at isIn
      · rename_i notFull
        rcases mem_append.mp isIn with wasIn | isNew
        · exact .inl ⟨wasIn, other wasIn⟩
        · exact .inr (.inr ⟨notMem, inserted, rfl, .inl ⟨notFull, mem_singleton.mp isNew⟩⟩)
      · rename_i full
        rcases mem_or_eq_of_mem_set isIn with wasIn | isNew
        · exact .inl ⟨wasIn, other wasIn⟩
        · exact .inr (.inr ⟨notMem, inserted, rfl, .inr ⟨full, isNew⟩⟩)

end Changes

section Kinds

inductive Kind (query : IfaceQuery) (event : NeighEvent μ) : ClientChange μ → Prop where
  | remove (noAddr : event.newAddr = none) : Kind query event (.remove event.mac)
  | keep (noAddr : event.newAddr = none) : Kind query event (.touch event.mac id none)
  | bridge (addr : BitVec 32) (brings : event.newAddr = some addr)
      (isBridge : query.isBridge = true) : Kind query event (.touch event.mac (withAddr addr) none)
  | own (addr : BitVec 32) (brings : event.newAddr = some addr)
    (notBridge : query.isBridge = false) :
      Kind query event
        (.touch event.mac
          (fun _ => ⟨event.mac, event.ifIndex, addr, query.ipaInterfaceIndex⟩)
          (some ⟨event.mac, event.ifIndex, addr, query.ipaInterfaceIndex⟩))
  | back (isReturn : event.IsReturn) (noAddr : event.newAddr = none)
      (notBridge : query.isBridge = false) (new : Option (NeighborClient μ))
      (isNew : ∀ client, new = some client →
        client = ⟨event.mac, event.ifIndex, 0, query.ipaInterfaceIndex⟩) :
      Kind query event (.touch event.mac (movedTo event.ifIndex) new)

omit [DecidableEq μ] [Zero μ] in
theorem kind_changeOf (query : IfaceQuery) (event : NeighEvent μ) :
    Kind query event (changeOf query event) := by
  cases event with
  | wlanClientAddEx ifIndex attribs stale =>
      simp only [changeOf]
      by_cases isBridge : query.isBridge
      · rw [if_pos isBridge]
        exact .keep rfl
      · rw [if_neg isBridge]
        have isReturn : (NeighEvent.wlanClientAddEx ifIndex attribs stale).IsReturn := trivial
        exact .back isReturn rfl (Bool.eq_false_iff.mpr isBridge) none fun _ isNone => by
          cases isNone
  | newNeigh data =>
      rcases data with ⟨ifIndex, addr, mac⟩
      cases addr with
      | v4 addr =>
          simp only [changeOf, newNeighChange]
          by_cases usable : IsUsable addr
          · have brings : (NeighEvent.newNeigh ⟨ifIndex, .v4 addr, mac⟩).newAddr = some addr :=
              if_pos usable
            rw [if_neg (not_not.mpr usable)]
            by_cases isBridge : query.isBridge
            · rw [if_pos isBridge]
              exact .bridge addr brings isBridge
            · rw [if_neg isBridge]
              exact .own addr brings (Bool.eq_false_iff.mpr isBridge)
          · rw [if_pos usable]
            exact .keep (if_neg usable)
      | v6 addr =>
          simp only [changeOf, newNeighChange]
          split
          · exact .keep rfl
          · rename_i isBack
            rw [not_or, not_not] at isBack
            have isReturn : (NeighEvent.newNeigh ⟨ifIndex, .v6 addr, mac⟩).IsReturn := isBack.1
            refine .back isReturn rfl (Bool.eq_false_iff.mpr isBack.2) _ ?_
            intro client isNew
            exact (some.inj isNew).symm
  | delNeigh data =>
      simp only [changeOf, delNeighChange]
      split
      · split
        · exact .remove rfl
        · exact .keep rfl
      · split
        · exact .keep rfl
        · exact .remove rfl

end Kinds

section Steps

variable {event : IfaceQuery × NeighEvent μ} {client : NeighborClient μ}

theorem step_spec (ok : run.cache.CacheOk) (stepped : run.Step event next) :
    next.cache.view = run.cache.view.apply (changeOf event.1 event.2) ∧
      (∀ mac, next.lastAddr mac =
        let kept := if mac ∈ run.cache.view.macs then run.lastAddr mac else 0
        if mac = event.2.mac then event.2.newAddr.getD kept else kept) ∧
      next.lookups = (event.2.ifIndex, event.1.ipaInterfaceIndex) :: run.lookups := by
  rcases map_eq_some_iff.mp stepped with ⟨handled, isHandled, rfl⟩
  have makes := eventCallback_makes ok event.1 event.2
  refine ⟨?_, fun _ => rfl, rfl⟩
  by_cases room : run.cache.view.HasRoom (changeOf event.1 event.2)
  · rcases makes.makes room with ⟨handled', isHandled', isView⟩
    rw [isHandled] at isHandled'
    cases isHandled'
    exact isView
  · rw [makes.leaves room] at isHandled
    cases isHandled

omit [DecidableEq μ] [Zero μ] in
theorem ClientFits.of_kept {before : NeighborClient μ} (fits : run.ClientFits before)
    (lookups : next.lookups = (event.2.ifIndex, event.1.ipaInterfaceIndex) :: run.lookups)
    (addr : next.lastAddr before.macAddr = run.lastAddr before.macAddr) :
    next.ClientFits before := by
  refine ⟨fits.addr.trans addr.symm, fits.usable, ?_⟩
  rw [lookups]
  exact mem_cons_of_mem _ fits.iface

omit [DecidableEq μ] [Zero μ] in
theorem usable_of_newAddr {event : NeighEvent μ} {addr : BitVec 32}
    (brings : event.newAddr = some addr) : IsUsable addr := by
  unfold NeighEvent.newAddr at brings
  split at brings
  · split at brings
    · cases brings
      assumption
    · cases brings
  · cases brings

theorem fits_step (ok : run.cache.CacheOk) (meets : run.Meets event)
    (stepped : run.Step event next) (fits : ∀ client ∈ run.cache.clients, run.ClientFits client) :
    ∀ client ∈ next.cache.clients, next.ClientFits client := by
  rcases step_spec ok stepped with ⟨isView, lastAddr, lookups⟩
  have clients : next.cache.clients = (run.cache.view.apply (changeOf event.1 event.2)).clients :=
    congrArg ClientList.clients isView
  have isCached (client : NeighborClient μ) (wasIn : client ∈ run.cache.clients) :
      client.macAddr ∈ run.cache.view.macs := mem_map_of_mem wasIn
  -- The clients that the event is not about.
  have other (client : NeighborClient μ) (wasIn : client ∈ run.cache.clients)
      (notMac : client.macAddr ≠ event.2.mac) : next.ClientFits client := by
    apply (fits client wasIn).of_kept lookups
    rw [lastAddr]
    simp only [if_neg notMac, if_pos (isCached client wasIn)]
  have same (client : NeighborClient μ) (wasIn : client ∈ run.cache.clients)
      (isMac : client.macAddr = event.2.mac) (noAddr : event.2.newAddr = none) :
      next.lastAddr client.macAddr = run.lastAddr client.macAddr := by
    rw [lastAddr]
    simp only [noAddr, getD_none, if_pos (isCached client wasIn), ite_self]
  have brought (addr : BitVec 32) (brings : event.2.newAddr = some addr) :
      next.lastAddr event.2.mac = addr := by
    rw [lastAddr]
    simp only [if_true, brings, getD_some]
  intro client isIn
  rw [clients] at isIn
  have kind := kind_changeOf event.1 event.2
  generalize changeOf event.1 event.2 = change at kind isIn
  cases kind with
  | remove noAddr =>
      rcases KeyedList.mem_remove.mp isIn with ⟨wasIn, notMac⟩
      exact other client wasIn notMac
  | keep noAddr =>
      rw [view_keep] at isIn
      by_cases isMac : client.macAddr = event.2.mac
      · exact (fits client isIn).of_kept lookups (same client isIn isMac noAddr)
      · exact other client isIn isMac
  | bridge addr brings isBridge =>
      rcases mem_apply_touch isIn with
        ⟨wasIn, notMac⟩ | ⟨before, wasIn, isMac, rfl⟩ | ⟨-, inserted, isNone, -⟩
      · exact other client wasIn notMac
      · refine ⟨?_, .inr (usable_of_newAddr brings), ?_⟩
        · change addr = next.lastAddr before.macAddr
          rw [isMac, brought addr brings]
        · rw [lookups]
          exact mem_cons_of_mem _ (fits before wasIn).iface
      · cases isNone
  | own addr brings notBridge =>
      have newFits : next.ClientFits
          ⟨event.2.mac, event.2.ifIndex, addr, event.1.ipaInterfaceIndex⟩ := by
        refine ⟨(brought addr brings).symm, .inr (usable_of_newAddr brings), ?_⟩
        rw [lookups]
        exact mem_cons_self
      rcases mem_apply_touch isIn with
        ⟨wasIn, notMac⟩ | ⟨before, wasIn, isMac, rfl⟩ |
          ⟨notMem, inserted, isNew, ⟨-, rfl⟩ | ⟨full, -⟩⟩
      · exact other client wasIn notMac
      · exact newFits
      · cases isNew
        exact newFits
      · have notFull := meets.notFull (by rw [brings]; rfl) notBridge notMem
        rw [view, length_clients] at full
        exact absurd notFull full
  | back isReturn noAddr notBridge new isNew =>
      rcases mem_apply_touch isIn with
        ⟨wasIn, notMac⟩ | ⟨before, wasIn, isMac, rfl⟩ | ⟨notMem, inserted, isInserted, isClient⟩
      · exact other client wasIn notMac
      · have beforeFits := fits before wasIn
        refine ⟨beforeFits.addr.trans (same before wasIn isMac noAddr).symm, beforeFits.usable, ?_⟩
        change (event.2.ifIndex, before.ipaIfNum) ∈ next.lookups
        rw [lookups]
        by_cases sameIface : before.ifaceIndex = event.2.ifIndex
        · rw [← sameIface]
          exact mem_cons_of_mem _ beforeFits.iface
        · rw [meets.stays isReturn notBridge before wasIn isMac sameIface]
          exact mem_cons_self
      · have isEmpty : client = ⟨event.2.mac, event.2.ifIndex, 0, event.1.ipaInterfaceIndex⟩ := by
          rw [isNew inserted isInserted] at isClient
          rcases isClient with ⟨-, isClient⟩ | ⟨-, isClient⟩ <;> exact isClient
        subst isEmpty
        refine ⟨?_, .inl rfl, ?_⟩
        · rw [lastAddr]
          simp only [noAddr, getD_none, if_neg notMem, ite_self]
        · rw [lookups]
          exact mem_cons_self

end Steps

section Reposts

variable {cache : Neighbor μ} {query : IfaceQuery} {event : NeighEvent μ}
  {handled : NeighHandled μ} {post : ClientAddrEvent μ}

omit [Zero μ] in
theorem wlanClientAddEx_posts (ok : cache.CacheOk) {ifIndex : ℤ} {mac : μ}
    (isHandled : cache.wlanClientAddEx query ifIndex mac = some handled)
    (isPosted : post ∈ handled.posts) :
    ∃ i < cache.numNeighborClient,
      handled.cache = cache.withClient i (movedTo ifIndex (cache.neighborClient i)) ∧
        post ∈ repost (movedTo ifIndex (cache.neighborClient i)) true := by
  rcases search_spec mac ok with ⟨notFound, -⟩ | ⟨i, inUse, -, found⟩
  · simp only [wlanClientAddEx, notFound, bind_eq_bind, bind_some] at isHandled
    cases isHandled
    cases isPosted
  · have isSlot := inUse.trans_le ok.within
    simp only [wlanClientAddEx, found, client_eq isSlot, setClient_eq isSlot, bind_eq_bind,
      bind_some] at isHandled
    split at isHandled
    · cases isHandled
      cases isPosted
    · split at isHandled
      · cases isHandled
        cases isPosted
      · cases isHandled
        exact ⟨i, inUse, rfl, isPosted⟩

theorem addressless_posts (ok : cache.CacheOk) {data : NeighData μ}
    (isHandled : cache.addressless query true data = some handled)
    (isPosted : post ∈ handled.posts) :
    ∃ i < cache.numNeighborClient,
      handled.cache = cache.withClient i (movedTo data.ifIndex (cache.neighborClient i)) ∧
        post ∈ repost (movedTo data.ifIndex (cache.neighborClient i)) true := by
  rcases search_spec data.macAddr ok with ⟨notFound, -⟩ | ⟨i, inUse, -, found⟩
  · simp only [addressless, notFound, bind_eq_bind, bind_some] at isHandled
    split at isHandled
    · rcases bind_eq_some_iff.mp isHandled with ⟨inserted, -, isHandled⟩
      cases isHandled
      cases isPosted
    · cases isHandled
      cases isPosted
  · have isSlot := inUse.trans_le ok.within
    simp only [addressless, found, client_eq isSlot, setClient_eq isSlot, bind_eq_bind,
      bind_some, if_true] at isHandled
    by_cases isBridge : query.isBridge
    · simp only [isBridge, if_true] at isHandled
      cases isHandled
      cases isPosted
    · simp only [isBridge, Bool.false_eq_true, if_false] at isHandled
      cases isHandled
      exact ⟨i, inUse, rfl, isPosted⟩

theorem return_posts (ok : cache.CacheOk) (isReturn : event.IsReturn)
    (isHandled : cache.eventCallback query event = some handled)
    (isPosted : post ∈ handled.posts) :
    ∃ i < cache.numNeighborClient,
      handled.cache = cache.withClient i (movedTo event.ifIndex (cache.neighborClient i)) ∧
        post ∈ repost (movedTo event.ifIndex (cache.neighborClient i)) true := by
  cases event with
  | wlanClientAddEx ifIndex attribs stale => exact wlanClientAddEx_posts ok isHandled isPosted
  | newNeigh data =>
      rcases data with ⟨ifIndex, addr, mac⟩
      cases addr with
      | v4 addr => exact isReturn.elim
      | v6 addr =>
          have isZero : addr = 0 := isReturn
          simp only [eventCallback, neighEvent, isZero, ne_eq, not_true_eq_false, if_false]
            at isHandled
          exact addressless_posts ok isHandled isPosted
  | delNeigh data => exact isReturn.elim

theorem reposts_ok (ok : run.cache.CacheOk)
    (fits : ∀ client ∈ run.cache.clients, run.ClientFits client) (isReturn : event.IsReturn)
    (isHandled : run.cache.eventCallback query event = some handled)
    (isPosted : post ∈ handled.posts) :
    post.isAdd = true ∧ ∃ client ∈ handled.cache.clients,
      client.macAddr = post.data.macAddr ∧ post.data.ifIndex = client.ifaceIndex ∧
        post.data.addr = .v4 (run.lastAddr client.macAddr) := by
  rcases return_posts ok isReturn isHandled isPosted with ⟨i, inUse, isCache, isRepost⟩
  have isIn : run.cache.neighborClient i ∈ run.cache.clients :=
    mem_map_of_mem (mem_range.mpr inUse)
  have isAddr := (fits _ isIn).addr
  unfold repost at isRepost
  split at isRepost
  · cases mem_singleton.mp isRepost
    refine ⟨rfl, movedTo event.ifIndex (run.cache.neighborClient i), ?_, rfl, rfl, ?_⟩
    · rw [isCache, clients_withClient]
      exact mem_set (length_clients.symm ▸ inUse) _
    · exact congrArg NeighAddr.v4 isAddr
  · cases isRepost

end Reposts

/-- In every run of which the events meet the condition, every client is cached with its last
address and one interface, and comes back with them. -/
theorem reachable_addrOk (reached : Run.Reachable IsInit (Run.Guarded Meets Step) run) :
    run.AddrOk := by
  have inv : run.cache.CacheOk ∧ ∀ client ∈ run.cache.clients, run.ClientFits client := by
    apply reached.invariant fun run =>
      run.cache.CacheOk ∧ ∀ client ∈ run.cache.clients, run.ClientFits client
    · rintro _ rfl
      exact ⟨⟨Nat.zero_le _, List.nodup_nil⟩, List.forall_mem_nil _⟩
    · rintro run event next ⟨ok, fits⟩ ⟨meets, stepped⟩
      have isView := (step_spec ok stepped).1
      exact ⟨NeighborRun.view_ok ok (NeighborRun.keeps_changeOf _ _) isView,
        fits_step ok meets stepped fits⟩
  refine ⟨inv.2, ?_⟩
  intro query event handled isReturn isHandled post isPosted
  exact reposts_ok inv.1 inv.2 isReturn isHandled isPosted

omit [DecidableEq μ] in
instance (event : NeighEvent μ) [DecidableEq (BitVec 128)] : Decidable event.IsReturn :=
  match event with
  | .wlanClientAddEx _ _ _ => isTrue trivial
  | .newNeigh ⟨_, .v4 _, _⟩ => isFalse not_false
  | .newNeigh ⟨_, .v6 addr, _⟩ => inferInstanceAs (Decidable (addr = 0))
  | .delNeigh _ => isFalse not_false

instance (run : AddrRun μ) (event : IfaceQuery × NeighEvent μ) : Decidable (run.Meets event) :=
  decidable_of_iff
    (run.cache.view.HasRoom (changeOf event.1 event.2) ∧
      (event.2.newAddr.isSome → event.1.isBridge = false → event.2.mac ∉ run.cache.view.macs →
        run.cache.numNeighborClient < ipaMaxNumNeighborClients) ∧
      (event.2.IsReturn → event.1.isBridge = false → ∀ client ∈ run.cache.clients,
        client.macAddr = event.2.mac → client.ifaceIndex ≠ event.2.ifIndex →
          client.ipaIfNum = event.1.ipaInterfaceIndex))
    ⟨fun ⟨room, notFull, stays⟩ => ⟨room, notFull, stays⟩,
      fun ⟨room, notFull, stays⟩ => ⟨room, notFull, stays⟩⟩

def addrComes (mac : ℕ) : IfaceQuery × NeighEvent ℕ :=
  (⟨0, false⟩, .newNeigh ⟨1, .v4 0xC0A80001, mac⟩)

def associates (mac : ℕ) (ifIndex : ℤ) : IfaceQuery × NeighEvent ℕ :=
  (⟨ifIndex - 1, false⟩, .wlanClientAddEx ifIndex [.macAddr mac] 0)

def initial : AddrRun ℕ := ⟨.initial, fun _ => 0, []⟩

theorem comesBack_isSome :
    (Run.runGuarded Meets step initial [addrComes 5, associates 5 1]).isSome = true := by
  decide +kernel

theorem reachable_addrOk_comesBack :
    ∃ run : AddrRun ℕ, run.cache.clients = [⟨5, 1, 0xC0A80001, 0⟩] ∧ run.AddrOk := by
  have start : IsInit initial := rfl
  have reached := Run.Reachable.runGuarded [addrComes 5, associates 5 1] (.start start)
    (Option.some_get comesBack_isSome).symm
  exact ⟨_, by decide +kernel, reachable_addrOk reached⟩

theorem recycles_isSome :
    (Run.runAll step initial ((range 101).map addrComes)).isSome = true := by
  decide +kernel

theorem recycles :
    ∃ run, Run.runAll step initial ((range 101).map addrComes) = some run ∧
      run.lastAddr 100 = 0xC0A80001 ∧ ⟨100, 1, 0, 0⟩ ∈ run.cache.clients :=
  ⟨_, (some_get recycles_isSome).symm, by decide +kernel, by decide +kernel⟩

theorem comesBackElsewhere_isSome :
    (Run.runAll step initial [addrComes 5, associates 5 2]).isSome = true := by
  decide +kernel

theorem comesBackElsewhere :
    ∃ run, Run.runAll step initial [addrComes 5, associates 5 2] = some run ∧
      run.lookups = [(2, 1), (1, 0)] ∧ ⟨5, 2, 0xC0A80001, 0⟩ ∈ run.cache.clients :=
  ⟨_, (some_get comesBackElsewhere_isSome).symm, by decide +kernel, by decide +kernel⟩

/-- The client for which an entry is recycled is cached without its address, and one that comes back
on another interface keeps the number of the old one. -/
theorem not_addrOk :
    (∃ run : AddrRun ℕ, Run.Reachable IsInit Step run ∧ run.lastAddr 100 = 0xC0A80001 ∧
      ⟨100, 1, 0, 0⟩ ∈ run.cache.clients ∧ ¬ run.AddrOk) ∧
    ∃ run : AddrRun ℕ, Run.Reachable IsInit Step run ∧ run.lookups = [(2, 1), (1, 0)] ∧
      ⟨5, 2, 0xC0A80001, 0⟩ ∈ run.cache.clients ∧ ¬ run.AddrOk := by
  have start : IsInit initial := rfl
  constructor
  · rcases recycles with ⟨run, ran, isLast, isIn⟩
    refine ⟨run, Run.Reachable.runAll _ (.start start) ran, isLast, isIn, ?_⟩
    intro ok
    have isAddr : 0 = run.lastAddr 100 := (ok.fits _ isIn).addr
    rw [isLast] at isAddr
    exact absurd isAddr (by decide)
  · rcases comesBackElsewhere with ⟨run, ran, isLookups, isIn⟩
    refine ⟨run, Run.Reachable.runAll _ (.start start) ran, isLookups, isIn, ?_⟩
    intro ok
    have isLooked : ((2, 0) : ℤ × ℤ) ∈ run.lookups := (ok.fits _ isIn).iface
    rw [isLookups] at isLooked
    exact absurd isLooked (by decide)

end AddrRun

end HtcPme.Ipacm
