import HtcPme.Ipacm.EvtDispatcher

/-!
# Processing an event

The loop of `ProcessEvt` stays in the list and calls the listeners of the event in order,
as long as no callback takes out the node that comes next.
-/

namespace HtcPme.Ipacm.Dispatching

open HeapList List

variable {ε ω α : Type} [DecidableEq ε] [DecidableEq ω] [DecidableEq α]

structure Registered (state : Dispatching ε ω α) (entries : List (α × ε × ω)) : Prop where
  holds : state.dispatcher.Holds entries
  history : state.history = entries.map Prod.snd

/-- The loop still has to visit `rest`; those called are those registered when the event came,
followed by the first of those added since, apart from those deregistered. -/
structure Walking (state : Dispatching ε ω α) (processing : Processing ε ω α)
    (entries rest : List (α × ε × ω)) : Prop where
  isProcessing : state.processing = some processing
  suffix : rest <:+ entries
  segment : Segment CmdEvts.next EvtDispatcher.entry state.dispatcher.nodes processing.tmp rest none
  calls : ∃ seen, seen <+: processing.added ∧ (rest ≠ [] → seen = processing.added) ∧
    (processing.called ++ listeners processing.event (rest.map Prod.snd)).filter
        (· ∉ processing.deregistered) =
      (processing.registered ++ seen).filter (· ∉ processing.deregistered)

variable {state : Dispatching ε ω α} {processing : Processing ε ω α}
  {entries rest : List (α × ε × ω)} {obj : ω}

omit [DecidableEq ω] [DecidableEq α] in
@[simp]
theorem listeners_append (event : ε) (front back : List (ε × ω)) :
    listeners event (front ++ back) = listeners event front ++ listeners event back := by
  simp [listeners]

omit [DecidableEq ε] [DecidableEq α] in
theorem filter_listeners_filter [DecidableEq ε] (event : ε) (registered : List (ε × ω))
    (keep : ω → Bool) (gone : keep obj = false) :
    (listeners event (registered.filter (·.2 ≠ obj))).filter keep =
      (listeners event registered).filter keep := by
  induction registered with
  | nil => rfl
  | cons first rest ih =>
      unfold listeners at ih ⊢
      by_cases isObj : first.2 = obj
      · subst isObj
        by_cases matching : first.1 = event <;> simp_all
      · by_cases matching : first.1 = event <;> by_cases kept : keep first.2 = true <;> simp_all

section

variable (registered : Registered state entries)

include registered

omit [DecidableEq ω] in
theorem Registered.registr (obj : ω) (event : ε)
    (malloc : Malloc α (CmdEvts ε ω α)) : ∃ next, state.registr event obj malloc = some next ∧
      (next = state ∨ ∃ addr, Registered next (entries ++ [(addr, event, obj)]) ∧
        next.processing = state.processing.map fun processing =>
          if event = processing.event then
            { processing with added := processing.added ++ [obj] }
          else processing) := by
  unfold Dispatching.registr
  rcases registered.holds.registr event obj malloc with result | ⟨addr, next, result, holds⟩
  · exact ⟨state, by simp [result], .inl rfl⟩
  · simp only [result, Option.bind_eq_bind, Option.bind_some, if_true]
    exact ⟨_, rfl, .inr ⟨addr, ⟨holds, by simp [registered.history]⟩, rfl⟩⟩

omit [DecidableEq ε] in
theorem Registered.deregistr (obj : ω) :
    ∃ next, state.deregistr obj = some next ∧
      Registered next (entries.filter (·.2.2 ≠ obj)) ∧
      next.processing = state.processing.map fun processing =>
        { processing with deregistered := processing.deregistered ++ [obj] } := by
  unfold Dispatching.deregistr
  rcases registered.holds.deregistr obj with ⟨next, result, holds⟩
  simp only [result, Option.bind_eq_bind, Option.bind_some]
  refine ⟨_, rfl, ⟨holds, ?_⟩, rfl⟩
  simp only [registered.history, filter_map]
  rfl

omit [DecidableEq ω] [DecidableEq α] in
theorem Registered.deliver (processing : Processing ε ω α) (tmp1 : CmdEvts ε ω α) :
    Registered (state.deliver processing tmp1) entries :=
  ⟨⟨registered.holds.segment, registered.holds.nodup, registered.holds.live⟩, registered.history⟩

end

variable {next : Dispatching ε ω α} {callback : List (CallbackOp ε ω α)}

omit [DecidableEq α] in
theorem Walking.registr {addr : α} {event : ε} (walking : Walking state processing entries rest)
    (registered : Registered next (entries ++ [(addr, event, obj)]))
    (isProcessing : next.processing = some (if event = processing.event then
      { processing with added := processing.added ++ [obj] } else processing)) :
    ∃ processing' rest', Walking next processing' (entries ++ [(addr, event, obj)]) rest' ∧
      rest'.head? = rest.head? := by
  rcases walking.calls with ⟨seen, isPrefix, upToDate, calls⟩
  rcases walking.suffix with ⟨front, rfl⟩
  cases rest with
  | nil =>
      have atEnd : processing.tmp = none := walking.segment
      refine ⟨_, [], ⟨isProcessing, nil_suffix, ?_, seen, ?_, ?_, ?_⟩, rfl⟩
      · split <;> exact atEnd
      · split
        · exact isPrefix.trans (prefix_append _ _)
        · exact isPrefix
      · simp
      · split <;> exact calls
  | cons first rest =>
      have seenAll := upToDate (by simp)
      have segment := registered.holds.segment
      rw [append_assoc] at segment
      rcases segment_append.mp segment with ⟨mid, _, restSeg⟩
      have sameStart : mid = processing.tmp := restSeg.1.trans walking.segment.1.symm
      rw [sameStart] at restSeg
      refine ⟨_, first :: rest ++ [(addr, event, obj)], ⟨isProcessing, ?_, ?_, ?_⟩, rfl⟩
      · exact ⟨front, by simp⟩
      · split <;> exact restSeg
      · subst seenAll
        split
        · rename_i matching
          refine ⟨processing.added ++ [obj], prefix_refl _, fun _ => rfl, ?_⟩
          have isListener : listeners processing.event [(event, obj)] = [obj] := by
            simp [listeners, matching]
          rw [map_append, listeners_append, ← append_assoc, filter_append, calls,
            ← append_assoc, filter_append _ [obj]]
          congr 2
        · rename_i differs
          refine ⟨processing.added, prefix_refl _, fun _ => rfl, ?_⟩
          have noListener : listeners processing.event [(event, obj)] = [] := by
            simp [listeners, differs]
          rw [map_append, listeners_append]
          simpa [noListener] using calls

omit [DecidableEq α] in
theorem Walking.deregistr (walking : Walking state processing entries rest)
    (registered : Registered next (entries.filter (·.2.2 ≠ obj)))
    (isProcessing : next.processing = some
      { processing with deregistered := processing.deregistered ++ [obj] })
    (other : ∀ first ∈ rest.head?, first.2.2 ≠ obj) :
    ∃ processing' rest', Walking next processing' (entries.filter (·.2.2 ≠ obj)) rest' ∧
      rest'.head? = rest.head? := by
  rcases walking.calls with ⟨seen, isPrefix, upToDate, calls⟩
  have sameHead : (rest.filter (·.2.2 ≠ obj)).head? = rest.head? := by
    cases rest with
    | nil => rfl
    | cons first rest =>
        have differs : first.2.2 ≠ obj := other first rfl
        simp [differs]
  refine ⟨_, rest.filter (·.2.2 ≠ obj), ⟨isProcessing, ?_, ?_, seen, isPrefix, ?_, ?_⟩, sameHead⟩
  · exact walking.suffix.filter _
  · rcases walking.suffix with ⟨front, rfl⟩
    have segment := registered.holds.segment
    rw [filter_append] at segment
    rcases segment_append.mp segment with ⟨mid, _, restSeg⟩
    cases rest with
    | nil => exact walking.segment
    | cons first rest =>
        have differs : first.2.2 ≠ obj := other first rfl
        have filtered : (first :: rest).filter (·.2.2 ≠ obj) =
            first :: rest.filter (·.2.2 ≠ obj) := by
          simp [differs]
        rw [filtered] at restSeg ⊢
        have sameStart : mid = processing.tmp := restSeg.1.trans walking.segment.1.symm
        rwa [sameStart] at restSeg
  · intro restLeft
    apply upToDate
    rintro rfl
    exact restLeft rfl
  · have twice : ∀ objs : List ω, objs.filter (· ∉ processing.deregistered ++ [obj]) =
        (objs.filter (· ∉ processing.deregistered)).filter (· ≠ obj) := by
      intro objs
      rw [filter_filter]
      apply filter_congr
      intro other _
      simp [and_comm]
    have sameRest : (rest.filter (·.2.2 ≠ obj)).map Prod.snd =
        (rest.map Prod.snd).filter (·.2 ≠ obj) := by
      rw [filter_map]
      rfl
    dsimp only
    rw [sameRest, filter_append, filter_listeners_filter _ _ _ (by simp), ← filter_append,
      twice, calls, ← twice]

theorem Walking.eventCallback
    (registered : Registered state entries) (walking : Walking state processing entries rest)
    (other : .deregistrSelf ∈ callback → ∀ first ∈ rest.head?, first.2.2 ≠ obj) :
    ∃ next processing' entries' rest', eventCallback obj state callback = some next ∧
      Registered next entries' ∧ Walking next processing' entries' rest' := by
  induction callback generalizing state processing entries rest with
  | nil => exact ⟨state, processing, entries, rest, rfl, registered, walking⟩
  | cons op ops ih =>
      simp only [eventCallback]
      cases op with
      | registr event added malloc =>
          rcases registered.registr added event malloc with
            ⟨next, result, rfl | ⟨addr, registered', isProcessing⟩⟩
          · simp only [callbackOp, result, Option.bind_eq_bind, Option.bind_some]
            exact ih registered walking fun mem => other (mem_cons_of_mem _ mem)
          · rw [walking.isProcessing] at isProcessing
            rcases walking.registr registered' isProcessing with
              ⟨processing', rest', walking', sameHead⟩
            simp only [callbackOp, result, Option.bind_eq_bind, Option.bind_some]
            apply ih registered' walking'
            rw [sameHead]
            exact fun mem => other (mem_cons_of_mem _ mem)
      | deregistrSelf =>
          have notNext := other (by simp)
          rcases registered.deregistr obj with ⟨next, result, registered', isProcessing⟩
          rw [walking.isProcessing] at isProcessing
          rcases walking.deregistr registered' isProcessing notNext with
            ⟨processing', rest', walking', sameHead⟩
          simp only [callbackOp, result, Option.bind_eq_bind, Option.bind_some]
          apply ih registered' walking'
          rw [sameHead]
          exact fun _ => notNext

theorem Registered.eventCallback (registered : Registered state entries)
    (callback : List (CallbackOp ε ω α)) : (eventCallback obj state callback).isSome := by
  induction callback generalizing state entries with
  | nil => rfl
  | cons op ops ih =>
      simp only [eventCallback]
      cases op with
      | registr event added malloc =>
          rcases registered.registr added event malloc with
            ⟨next, result, rfl | ⟨addr, registered', _⟩⟩
          · simpa only [callbackOp, result, Option.bind_eq_bind, Option.bind_some] using ih
              registered
          · simpa only [callbackOp, result, Option.bind_eq_bind, Option.bind_some] using ih
              registered'
      | deregistrSelf =>
          rcases registered.deregistr obj with ⟨next, result, registered', _⟩
          simpa only [callbackOp, result, Option.bind_eq_bind, Option.bind_some] using ih
            registered'

/-- When the callback deregisters its listener, the node that comes next is not one of the
same listener. -/
def NextNotSelf (state : Dispatching ε ω α) (processing : Processing ε ω α)
    (callback : List (CallbackOp ε ω α)) : Prop :=
  ∀ tmp node next nextNode, processing.tmp = some tmp → state.dispatcher.nodes tmp = some node →
    node.event = processing.event → .deregistrSelf ∈ callback → node.next = some next →
      state.dispatcher.nodes next = some nextNode → nextNode.obj ≠ node.obj

theorem Walking.visit
    (registered : Registered state entries) (walking : Walking state processing entries rest)
    (more : processing.tmp ≠ none) (condition : NextNotSelf state processing callback) :
    ∃ next processing' entries' rest', state.visit processing callback = some next ∧
      Registered next entries' ∧ Walking next processing' entries' rest' := by
  cases rest with
  | nil => exact absurd walking.segment more
  | cons first rest =>
      rcases walking.calls with ⟨seen, isPrefix, upToDate, calls⟩
      rcases walking.segment with ⟨atTmp, node, atFirst, isEntry, restSeg⟩
      have suffix : rest <:+ entries := (suffix_cons first rest).trans walking.suffix
      have upToDate' : rest ≠ [] → seen = processing.added := fun _ => upToDate (by simp)
      have sameEvent : node.event = first.2.1 := congrArg Prod.fst isEntry
      have sameObj : node.obj = first.2.2 := congrArg Prod.snd isEntry
      unfold visit
      simp only [atTmp, atFirst, Option.bind_eq_bind, Option.bind_some]
      split
      · rename_i matching
        have isListener : listeners processing.event ((first :: rest).map Prod.snd) =
            [node.obj] ++ listeners processing.event (rest.map Prod.snd) := by
          simp [listeners, sameObj, ← sameEvent, matching]
        rw [isListener, ← append_assoc] at calls
        have walkingNext : Walking (state.deliver processing node) (delivered processing node)
            entries rest :=
          ⟨rfl, suffix, restSeg, seen, isPrefix, upToDate', calls⟩
        apply walkingNext.eventCallback (registered.deliver processing node)
        intro deregisters second isHead
        cases rest with
        | nil => cases isHead
        | cons following rest =>
            cases isHead
            rcases restSeg with ⟨isNext, nextNode, atNext, isEntryNext, _⟩
            have differs := condition _ node _ nextNode atTmp atFirst matching deregisters isNext
              atNext
            rwa [show nextNode.obj = second.2.2 from congrArg Prod.snd isEntryNext] at differs
      · rename_i differs
        refine ⟨_, _, entries, rest, rfl, ⟨registered.holds, registered.history⟩, rfl, suffix,
          restSeg,
          seen, isPrefix, upToDate', ?_⟩
        rw [← calls]
        have noListener : listeners processing.event ((first :: rest).map Prod.snd) =
            listeners processing.event (rest.map Prod.snd) := by
          simp [listeners, ← sameEvent, differs]
        rw [noListener]

def DispatchingOk (state : Dispatching ε ω α) : Prop :=
  ∃ entries, Registered state entries ∧ ∀ processing, state.processing = some processing →
    ∃ rest, Walking state processing entries rest

omit [DecidableEq α] in
theorem DispatchingOk.of_isInit (isInit : IsInit state) : DispatchingOk state := by
  rcases isInit with ⟨noHead, noneLive, noHistory, idle⟩
  refine ⟨[], ⟨⟨noHead, by simp, noneLive⟩, noHistory⟩, fun processing isProcessing => ?_⟩
  rw [idle] at isProcessing
  cases isProcessing

def KeepsNext (state : Dispatching ε ω α) (call : DispatchCall ε ω α) : Prop :=
  ∀ processing callback, state.processing = some processing → call = .visit callback →
    NextNotSelf state processing callback

theorem DispatchingOk.step {call : DispatchCall ε ω α}
    (ok : DispatchingOk state) (condition : KeepsNext state call) (stepped : Step state call next) :
    DispatchingOk next := by
  rcases ok with ⟨entries, registered, walking⟩
  unfold Step Dispatching.step at stepped
  split at stepped
  · rename_i event obj malloc idle
    rcases registered.registr obj event malloc with
      ⟨after, result, same | ⟨addr, registered', isIdle⟩⟩
    · rw [result, same] at stepped
      cases stepped
      exact ⟨entries, registered, walking⟩
    · rw [result] at stepped
      cases stepped
      refine ⟨_, registered', fun processing isProcessing => ?_⟩
      simp [isIdle, idle] at isProcessing
  · rename_i obj idle
    rcases registered.deregistr obj with ⟨after, result, registered', isIdle⟩
    rw [result] at stepped
    cases stepped
    refine ⟨_, registered', fun processing isProcessing => ?_⟩
    simp [isIdle, idle] at isProcessing
  · cases stepped
    refine ⟨entries, ⟨registered.holds, registered.history⟩, fun processing isProcessing => ?_⟩
    cases isProcessing
    refine ⟨entries, rfl, suffix_refl _, registered.holds.segment, [], nil_prefix, ?_, ?_⟩
    · exact fun _ => rfl
    · simp [start, registered.history]
  · rename_i processing callback isProcessing
    rcases walking processing isProcessing with ⟨rest, walkingRest⟩
    have more : processing.tmp ≠ none := by
      intro atEnd
      simp [visit, atEnd] at stepped
    rcases walkingRest.visit registered more (condition processing callback isProcessing rfl) with
      ⟨after, processing', entries', rest', result, registered', walking'⟩
    rw [result] at stepped
    cases stepped
    refine ⟨entries', registered', fun other isOther => ⟨rest', ?_⟩⟩
    rw [walking'.isProcessing] at isOther
    cases isOther
    exact walking'
  · split at stepped
    · cases stepped
      exact ⟨entries, ⟨registered.holds, registered.history⟩,
        fun _ isProcessing => by cases isProcessing⟩
    · cases stepped
  · cases stepped

/-- The dispatcher reads allocated nodes only, and the listeners that have stayed registered for an
event have been called once for each registration and in their order. -/
structure DispatchesOk (state : Dispatching ε ω α) : Prop where
  allocated : ∀ processing, state.processing = some processing →
    ∀ addr, processing.tmp = some addr → (state.dispatcher.nodes addr).isSome
  visits : ∀ processing, state.processing = some processing → processing.tmp ≠ none →
    ∀ callback, (state.visit processing callback).isSome
  registers : ∀ event obj malloc, (state.dispatcher.registr event obj malloc).isSome
  deregisters : ∀ obj, (state.dispatcher.deregistr obj).isSome
  called : ∀ processing, state.processing = some processing → processing.tmp = none →
    ∃ seen, seen <+: processing.added ∧
      processing.called.filter (· ∉ processing.deregistered) =
        (processing.registered ++ seen).filter (· ∉ processing.deregistered)

theorem DispatchingOk.dispatchesOk (ok : DispatchingOk state) : DispatchesOk state := by
  rcases ok with ⟨entries, registered, walking⟩
  constructor
  · intro processing isProcessing addr isTmp
    rcases walking processing isProcessing with ⟨rest, walkingRest⟩
    have segment := walkingRest.segment
    rw [isTmp] at segment
    cases rest with
    | nil => cases segment
    | cons first rest =>
        rcases segment with ⟨isFirst, node, atFirst, _⟩
        cases isFirst
        simp [atFirst]
  · intro processing isProcessing more callback
    rcases walking processing isProcessing with ⟨rest, walkingRest⟩
    have segment := walkingRest.segment
    cases rest with
    | nil => exact absurd segment more
    | cons first rest =>
        rcases segment with ⟨isFirst, node, atFirst, _⟩
        unfold visit
        simp only [isFirst, atFirst, Option.bind_eq_bind, Option.bind_some]
        split
        · exact (registered.deliver processing node).eventCallback callback
        · rfl
  · intro event obj malloc
    rcases registered.holds.registr event obj malloc with result |
      ⟨_, _, result, _⟩ <;> simp [result]
  · intro obj
    rcases registered.holds.deregistr obj with ⟨_, result, _⟩
    simp [result]
  · intro processing isProcessing atEnd
    rcases walking processing isProcessing with ⟨rest, walkingRest⟩
    rcases walkingRest.calls with ⟨seen, isPrefix, _, calls⟩
    have segment := walkingRest.segment
    rw [atEnd] at segment
    cases rest with
    | nil => exact ⟨seen, isPrefix, by simpa [listeners] using calls⟩
    | cons first rest => cases segment.1

/-- In every run in which a callback that deregisters its listener leaves the node that
comes next, events are dispatched as they should be. -/
theorem reachable_dispatchesOk
    (reached : Run.Reachable IsInit (Run.Guarded KeepsNext Step) state) : DispatchesOk state := by
  apply DispatchingOk.dispatchesOk
  apply reached.invariant DispatchingOk
  · exact fun _ isInit => DispatchingOk.of_isInit isInit
  · rintro state call next ok ⟨condition, stepped⟩
    exact ok.step condition stepped

end HtcPme.Ipacm.Dispatching
