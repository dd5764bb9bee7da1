import HtcPme.Gps.LocApi

/-!
# Runs of a location API

The modem has the events of the adapters registered when every message is processed.
-/

namespace HtcPme.Gps

namespace LocApi

open BitMask List Function

variable {α : Type*} {api : LocApi α}

structure MaskInv (api : LocApi α) : Prop where
  nodup : api.mLocAdapters.Nodup
  wanted : Sub api.mMask api.getEvtMask
  posted : Sub api.getEvtMask (api.mMask ||| (union api.posted &&& ~~~api.mExcludedMask))
  opened : api.mLocAdapters ≠ [] → api.clientOpen = true ∨ api.posted ≠ []
  someone : api.clientOpen = true → api.mLocAdapters ≠ []
  notInSession : api.mInSession = false
  registered : api.clientOpen = true →
    api.registered = adjustMaskForNoSession (convertMask api.mMask)

theorem MaskInv.toRegistered (inv : MaskInv api) (none : api.posted = []) : Registered api := by
  have all := inv.posted
  simp only [none, union_nil, BitVec.zero_and, BitVec.or_zero] at all
  have same := Sub.antisymm inv.wanted all
  refine ⟨same, ⟨inv.someone, fun some => ?_⟩, ?_⟩
  · simpa [none] using inv.opened some
  · rw [← same]
    exact inv.registered

theorem getEvtMask_sdiff : api.getEvtMask &&& ~~~api.mExcludedMask = api.getEvtMask := by
  simp [getEvtMask, BitVec.and_assoc]

theorem MaskInv.post (inv : MaskInv api) (mask : EventMask) : MaskInv (api.post mask) := by
  refine ⟨inv.nodup, inv.wanted, ?_, fun _ => Or.inr (by simp [LocApi.post]), inv.someone,
    inv.notInSession, inv.registered⟩
  refine inv.posted.trans (or_sub.mpr ⟨sub_or_left, Sub.trans ?_ sub_or_right⟩)
  exact (union_mono (subset_append_left _ _)).sdiff _

theorem openClient_eq (mask : EventMask) (notInSession : api.mInSession = false)
    (registered : api.clientOpen = true →
      api.registered = adjustMaskForNoSession (convertMask api.mMask)) :
    ∃ mQmiMask, api.openClient mask =
      { api with
        clientOpen := true
        mMask := api.mMask ||| (mask &&& ~~~api.mExcludedMask)
        mQmiMask
        registered := adjustMaskForNoSession
          (convertMask (api.mMask ||| (mask &&& ~~~api.mExcludedMask))) } := by
  simp only [openClient]
  split
  · exact ⟨_, rfl⟩
  · rename_i isOpen
    rw [Bool.not_eq_false] at isOpen
    split
    · refine ⟨convertMask (api.mMask ||| (mask &&& ~~~api.mExcludedMask)), ?_⟩
      simp [registerEventMask, notInSession, isOpen]
    · rename_i same
      rw [not_not] at same
      refine ⟨api.mQmiMask, ?_⟩
      rw [same, ← registered isOpen, ← isOpen]

theorem MaskInv.openMsg {mask : EventMask} {posted : List EventMask} (inv : MaskInv api)
    (isNext : api.posted = mask :: posted) (some : api.mLocAdapters ≠ [])
    (wanted : Sub (mask &&& ~~~api.mExcludedMask) api.getEvtMask) :
    MaskInv ({ api with posted }.openClient mask) := by
  have covered := inv.posted
  rw [isNext, union_cons, or_sdiff] at covered
  have isOpened : ∃ mQmiMask, { api with posted }.openClient mask = _ :=
    openClient_eq mask inv.notInSession inv.registered
  rcases isOpened with ⟨mQmiMask, opened⟩
  rw [opened]
  refine ⟨inv.nodup, or_sub.mpr ⟨inv.wanted, wanted⟩, ?_, fun _ => Or.inl rfl, fun _ => some,
    inv.notInSession, fun _ => rfl⟩
  rw [BitVec.or_assoc]
  exact covered

variable {adapters : List α} {adapter : α}

theorem insertAdapter_eq [DecidableEq α] (room : ℕ) (notMem : adapter ∉ adapters) :
    insertAdapter adapter room adapters =
      if adapters.length < room then some (adapters ++ [adapter]) else none := by
  induction adapters generalizing room with
  | nil => cases room <;> simp [insertAdapter]
  | cons head rest ih =>
      rw [mem_cons, not_or] at notMem
      cases room with
      | zero => simp [insertAdapter]
      | succ room =>
          simp only [insertAdapter, if_neg (Ne.symm notMem.1), ih room notMem.2, length_cons,
            Nat.succ_lt_succ_iff]
          split <;> rfl

theorem map_update [DecidableEq α] {β : Type*} {f : α → β} {value : β}
     (notMem : adapter ∉ adapters) :
    adapters.map (update f adapter value) = adapters.map f := by
  apply map_congr_left
  intro other mem
  apply update_of_ne
  rintro rfl
  exact notMem mem

theorem MaskInv.addAdapter [DecidableEq α] (inv : MaskInv api)
    (notMem : adapter ∉ api.mLocAdapters) (mask : EventMask) :
    MaskInv ({ api with mEvtMask := update api.mEvtMask adapter mask }.addAdapter
      adapter) := by
  have same : api.mLocAdapters.map (update api.mEvtMask adapter mask) =
      api.mLocAdapters.map api.mEvtMask := map_update notMem
  simp only [LocApi.addAdapter, insertAdapter_eq maxAdapters notMem]
  by_cases room : api.mLocAdapters.length < maxAdapters
  · have evtMask : ({ api with
        mEvtMask := update api.mEvtMask adapter mask
        mLocAdapters := api.mLocAdapters ++ [adapter] } : LocApi α).getEvtMask =
          api.getEvtMask ||| (mask &&& ~~~api.mExcludedMask) := by
      simp only [getEvtMask, map_append, same, union_append]
      simp [or_sdiff]
    simp only [if_pos room, update_self]
    refine ⟨?_, ?_, ?_, ?_, ?_, inv.notInSession, inv.registered⟩
    · refine nodup_append.mpr ⟨inv.nodup, nodup_singleton adapter, ?_⟩
      intro other isOld added isAdded
      rw [mem_singleton.mp isAdded]
      rintro rfl
      exact notMem isOld
    · exact (inv.wanted.trans sub_or_left).trans (.of_eq evtMask.symm)
    · have isSub : Sub (api.getEvtMask ||| (mask &&& ~~~api.mExcludedMask))
          (api.mMask ||| (union (api.posted ++ [mask]) &&& ~~~api.mExcludedMask)) := by
        rw [union_append, or_sdiff, ← BitVec.or_assoc]
        refine or_sub.mpr ⟨inv.posted.trans sub_or_left, Sub.trans ?_ sub_or_right⟩
        simp
        exact Sub.refl _
      exact Sub.trans (.of_eq evtMask) isSub
    · simp [LocApi.post]
    · simp [LocApi.post]
  · have evtMask : ({ api with
        mEvtMask := update api.mEvtMask adapter mask } : LocApi α).getEvtMask =
          api.getEvtMask := by
      simp only [getEvtMask, same]
    simp only [if_neg room]
    exact ⟨inv.nodup, inv.wanted.trans (.of_eq evtMask.symm),
      Sub.trans (.of_eq evtMask) inv.posted, inv.opened, inv.someone, inv.notInSession,
      inv.registered⟩

theorem removed_perm [DecidableEq α] {adapter last : α}
    (nodup : adapters.Nodup) (mem : adapter ∈ adapters) (isLast : adapters.getLast? = some last) :
    ((adapters.set (adapters.idxOf adapter) last).dropLast).Perm (adapters.erase adapter) := by
  rcases getLast?_eq_some_iff.mp isLast with ⟨init, rfl⟩
  by_cases inInit : adapter ∈ init
  · rcases append_of_mem inInit with ⟨before, rest, rfl⟩
    have notBefore : adapter ∉ before := by
      simp only [append_assoc, cons_append, nodup_append] at nodup
      intro isBefore
      exact nodup.2.2 adapter isBefore adapter mem_cons_self rfl
    have index : (before ++ adapter :: rest ++ [last]).idxOf adapter = before.length := by
      simp [idxOf_append, notBefore]
    have left : ((before ++ adapter :: rest ++ [last]).set before.length last).dropLast =
        before ++ last :: rest := by
      have ended : ((last :: rest) ++ [last]).dropLast = last :: rest := dropLast_concat
      simp only [cons_append] at ended
      simp [ended]
    have erased : (before ++ adapter :: rest ++ [last]).erase adapter =
        before ++ (rest ++ [last]) := by
      simp [erase_append_right, notBefore]
    rw [index, left, erased]
    refine List.Perm.append_left before ?_
    exact (perm_append_singleton last rest).symm
  · have same : adapter = last := by simpa [inInit] using mem
    subst same
    have index : (init ++ [adapter]).idxOf adapter = init.length := by
      simp [idxOf_append, inInit]
    rw [index]
    simp [erase_append_right, inInit]

theorem getEvtMask_mono {adapters others : List α} (subset : adapters ⊆ others) :
    Sub ({ api with mLocAdapters := adapters } : LocApi α).getEvtMask
      ({ api with mLocAdapters := others } : LocApi α).getEvtMask :=
  (union_mono (map_subset _ subset)).sdiff _

theorem MaskInv.removeAdapter [DecidableEq α] (inv : MaskInv api)
    (guarded : MaskGuard api (.removeAdapter adapter)) : MaskInv (api.removeAdapter adapter) := by
  simp only [LocApi.removeAdapter]
  split
  · exact inv
  · rename_i last isLast
    split
    · rename_i mem
      have perm := removed_perm inv.nodup mem isLast
      generalize (api.mLocAdapters.set (api.mLocAdapters.idxOf adapter) last).dropLast = left
        at perm ⊢
      have nodup : left.Nodup := perm.nodup_iff.mpr (inv.nodup.erase adapter)
      have isLeft : ∀ other, other ∈ left ↔ other ∈ api.mLocAdapters.filter (· ≠ adapter) := by
        intro other
        rw [perm.mem_iff, inv.nodup.mem_erase_iff]
        simp [and_comm]
      split
      · rename_i isEmpty
        subst isEmpty
        refine ⟨nodup, ?_, ?_, ?_, ?_, inv.notInSession, ?_⟩
        · simp [LocApi.close]
        · simp [LocApi.close, getEvtMask]
        · simp [LocApi.close]
        · simp [LocApi.close]
        · simp [LocApi.close]
      · rename_i notEmpty
        have wanted : Sub api.mMask ({ api with mLocAdapters := left } : LocApi α).getEvtMask := by
          rcases guarded with noneLeft | wanted
          · refine absurd (eq_nil_iff_forall_not_mem.mpr ?_) notEmpty
            intro other isOther
            rw [isLeft, noneLeft] at isOther
            simp at isOther
          · exact wanted.trans (getEvtMask_mono fun other isOther => (isLeft other).mpr isOther)
        have fewer : Sub ({ api with mLocAdapters := left } : LocApi α).getEvtMask
            api.getEvtMask := by
          refine getEvtMask_mono fun other isOther => ?_
          rw [isLeft] at isOther
          exact (mem_filter.mp isOther).1
        apply MaskInv.post
        refine ⟨nodup, wanted, fewer.trans inv.posted, ?_, fun _ => notEmpty, inv.notInSession,
          inv.registered⟩
        exact fun _ => inv.opened (ne_nil_of_mem mem)
    · exact inv

theorem MaskInv.changeMask [DecidableEq α] (inv : MaskInv api) {event : EventMask}
    {isEnabled : Bool} (guarded : MaskGuard api (.changeMask adapter event isEnabled)) :
    MaskInv (api.changeMask adapter event isEnabled).updateEvtMask := by
  refine ⟨inv.nodup, guarded, ?_, fun _ => Or.inr (by simp [updateEvtMask, LocApi.post]),
    inv.someone, inv.notInSession, inv.registered⟩
  have same : union [(api.changeMask adapter event isEnabled).getEvtMask] &&& ~~~api.mExcludedMask =
      (api.changeMask adapter event isEnabled).getEvtMask := by
    rw [union_cons, union_nil, BitVec.or_zero]
    exact getEvtMask_sdiff
  simp only [updateEvtMask, LocApi.post, union_append]
  refine Sub.trans ?_ sub_or_right
  rw [or_sdiff]
  exact Sub.trans (.of_eq same.symm) sub_or_right

theorem MaskInv.step [DecidableEq α] {call : Call α} {next : LocApi α} (inv : MaskInv api)
    (guarded : MaskGuard api call) (stepped : Step api call next) : MaskInv next := by
  cases call with
  | addAdapter adapter mask =>
      simp only [Step, call] at stepped
      split at stepped
      · cases stepped
        exact inv
      · rename_i notMem
        cases stepped
        exact inv.addAdapter notMem mask
  | removeAdapter adapter =>
      cases stepped
      exact inv.removeAdapter guarded
  | changeMask adapter event isEnabled =>
      cases stepped
      exact inv.changeMask guarded
  | updateEvtMask =>
      cases stepped
      exact inv.post api.getEvtMask
  | openMsg =>
      simp only [Step, call] at stepped
      split at stepped
      · contradiction
      · rename_i mask posted isNext
        cases stepped
        rcases guarded mask (by simp [isNext]) with ⟨some, wanted⟩
        exact inv.openMsg isNext some wanted

/-- As long as no registered event is lost and no message comes too late, the events of the adapters
are registered when every message is processed. -/
theorem reachable_registered [DecidableEq α]
    (reached : Run.Reachable IsInit (Run.Guarded MaskGuard Step) api) (none : api.posted = []) :
    Registered api := by
  have inv : MaskInv api := by
    apply reached.invariant MaskInv
    · rintro _ ⟨mEvtMask, mExcludedMask, rfl⟩
      refine ⟨by simp [new], ?_, ?_, ?_, ?_, rfl, ?_⟩
      all_goals simp [new, getEvtMask]
    · exact fun _ _ _ inv ⟨guarded, stepped⟩ => inv.step guarded stepped
  exact inv.toRegistered none

section Runs

theorem reachable_registered_one :
    ∃ api : LocApi Bool, api.mLocAdapters = [true] ∧ Registered api := by
  refine ⟨_, ?_, reachable_registered (.next .openMsg
    (.next (.addAdapter true 1) (.start ⟨fun _ => 0, 0, rfl⟩) ⟨trivial, rfl⟩)
    ⟨?_, rfl⟩) ?_⟩
  · rfl
  · rintro mask ⟨⟩
    decide
  · rfl

/-- An adapter that leaves or changes its mask leaves its events registered, and a message that
comes after the last adapter has left opens the client again. -/
theorem reachable_not_registered :
    (∃ api : LocApi Bool, Run.Reachable IsInit Step api ∧ api.posted = [] ∧
        api.mLocAdapters = [true] ∧ api.mMask ≠ api.getEvtMask) ∧
      ∃ api : LocApi Bool, Run.Reachable IsInit Step api ∧ api.posted = [] ∧
        api.mLocAdapters = [] ∧ api.clientOpen = true := by
  refine ⟨⟨_, .next .openMsg (.next (.changeMask true 2 false) (.next .openMsg
      (.next (.addAdapter true 3) (.start ⟨fun _ => 0, 0, rfl⟩) rfl) rfl) rfl) rfl, ?_⟩,
    _, .next .openMsg (.next (.removeAdapter true)
      (.next (.addAdapter true 1) (.start ⟨fun _ => 0, 0, rfl⟩) rfl) rfl) rfl, ?_⟩
  · decide
  · decide

end Runs

end LocApi

end HtcPme.Gps
