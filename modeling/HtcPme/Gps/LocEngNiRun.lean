import HtcPme.Gps.LocEngNi

/-!
# Runs of network-initiated requests

The request that a record is used for is its current one, from when it is saved until its thread has
looked at the record.
-/

namespace HtcPme.Gps.LocEngNi

open Option

open Function (update update_of_ne update_self update_apply update_eq_self)

variable {κ : Type*}

def IsFuture (ni : LocEngNi κ) (payload : ℕ) : Prop :=
  ni.arrivals ≤ payload ∧ ni.timer payload = .none ∧ ni.freed payload = 0 ∧
    ni.passed payload = [] ∧ ni.given payload = [] ∧ ni.reqOf payload = 0

def Settles (ni : LocEngNi κ) (payload : ℕ) (resp : NiResponse) : Prop :=
  ni.Own payload resp ∧ ∀ answer ∈ ni.given payload, resp = .user answer.2

def IsInFlight (ni : LocEngNi κ) (payload : ℕ) : Prop :=
  ∃ resp, payload < ni.arrivals ∧ (ni.timer payload).message = some (payload, resp) ∧
    (ni.timer payload).awaits = none ∧ ni.freed payload = 0 ∧ ni.passed payload = [] ∧
      ni.Settles payload resp

def IsFreed (ni : LocEngNi κ) (payload : ℕ) : Prop :=
  payload < ni.arrivals ∧ (ni.timer payload).message = none ∧
    (ni.timer payload).awaits = none ∧ ni.freed payload = 1 ∧ ni.passed payload = [] ∧
      ni.given payload = []

def IsPassed (ni : LocEngNi κ) (payload : ℕ) : Prop :=
  ∃ resp, payload < ni.arrivals ∧ (ni.timer payload).message = none ∧
    (ni.timer payload).awaits = none ∧ ni.freed payload = 0 ∧ ni.passed payload = [resp] ∧
      ni.Settles payload resp

def IsPast (ni : LocEngNi κ) (payload : ℕ) : Prop :=
  ni.IsFuture payload ∨ ni.IsInFlight payload ∨ ni.IsFreed payload ∨ ni.IsPassed payload

def IsStored (ni : LocEngNi κ) (kind : NiKind) (payload : ℕ) : Prop :=
  ni.handler = .storing kind payload ∧ (ni.session kind).rawRequest = some payload ∧
    ni.timer payload = .none ∧ ni.reqOf payload = 0 ∧ ni.freed payload = 0 ∧
      ni.given payload = []

def IsRunning (ni : LocEngNi κ) (kind : NiKind) (payload : ℕ) : Prop :=
  (ni.timer payload).awaits = some kind ∧ (∀ other, ni.handler ≠ .storing kind other) ∧
    ni.handler ≠ .resetting kind .clear ∧ ni.handler ≠ .resetting kind .signal ∧
      (ni.session kind).rawRequest = some payload ∧
        (ni.session kind).reqID = ni.reqOf payload ∧ ni.reqOf payload ≠ 0 ∧
          ni.freed payload = 0

def IsDangling (ni : LocEngNi κ) (kind : NiKind) (payload : ℕ) : Prop :=
  (ni.timer payload).awaits = some kind ∧ ni.handler = .resetting kind .clear ∧
    (ni.session kind).rawRequest = some payload ∧
      (ni.session kind).reqID = ni.reqOf payload ∧ ni.reqOf payload ≠ 0 ∧
        ni.freed payload = 1 ∧ ni.given payload = []

def IsDropped (ni : LocEngNi κ) (kind : NiKind) (payload : ℕ) : Prop :=
  (ni.timer payload).awaits = some kind ∧ (∀ other, ni.handler ≠ .storing kind other) ∧
    (ni.session kind).rawRequest = none ∧ ni.freed payload = 1 ∧ ni.given payload = [] ∧
      ((ni.session kind).respRecvd = true ∨ ni.handler = .resetting kind .signal)

def Answers (ni : LocEngNi κ) (kind : NiKind) (payload : ℕ) : Prop :=
  (∀ answer ∈ ni.given payload, answer.1 = ni.reqOf payload ∧
      (ni.session kind).respRecvd = true ∧ (ni.session kind).resp = .user answer.2) ∧
    (ni.IsAnswered kind → ∃ response, (ni.session kind).resp = .user response ∧
      (ni.reqOf payload, response) ∈ ni.given payload)

def IsCurrent (ni : LocEngNi κ) (kind : NiKind) (payload : ℕ) : Prop :=
  payload < ni.arrivals ∧ ni.passed payload = [] ∧ (ni.timer payload).message = none ∧
    ((ni.session kind).rawRequest = some payload → ni.Answers kind payload) ∧
      (ni.IsStored kind payload ∨ ni.IsRunning kind payload ∨ ni.IsDangling kind payload ∨
        ni.IsDropped kind payload)

structure Consistent (ni : LocEngNi κ) (current : NiKind → Option ℕ) : Prop where
  storing : ∀ kind payload, ni.handler = .storing kind payload → current kind = some payload
  awaits : ∀ kind payload, (ni.timer payload).awaits = some kind → current kind = some payload
  rawRequest : ∀ kind payload, (ni.session kind).rawRequest = some payload →
    current kind = some payload
  isCurrent : ∀ kind payload, current kind = some payload → ni.IsCurrent kind payload
  isPast : ∀ payload, (∀ kind, current kind ≠ some payload) → ni.IsPast payload

structure SameAt (ni ni' : LocEngNi κ) (payload : ℕ) : Prop where
  arrivals : payload < ni'.arrivals ↔ payload < ni.arrivals
  timer : ni'.timer payload = ni.timer payload
  reqOf : ni'.reqOf payload = ni.reqOf payload
  freed : ni'.freed payload = ni.freed payload
  passed : ni'.passed payload = ni.passed payload
  given : ni'.given payload = ni.given payload
  timedOut : ni'.timedOut payload = ni.timedOut payload

structure SameRecord (ni ni' : LocEngNi κ) (kind : NiKind) : Prop where
  session : ni'.session kind = ni.session kind
  storing : ∀ payload, ni'.handler = .storing kind payload ↔ ni.handler = .storing kind payload
  clear : ni'.handler = .resetting kind .clear ↔ ni.handler = .resetting kind .clear
  signal : ni'.handler = .resetting kind .signal ↔ ni.handler = .resetting kind .signal

section Frame

variable {ni ni' : LocEngNi κ} {current current' : NiKind → Option ℕ} {kind : NiKind}
  {payload : ℕ}

section

variable (same : SameAt ni ni' payload)

include same

theorem SameAt.own (resp : NiResponse) :
    ni'.Own payload resp ↔ ni.Own payload resp := by
  simp only [Own, same.timedOut, same.reqOf, same.given]

theorem SameAt.isPast (past : ni.IsPast payload) :
    ni'.IsPast payload := by
  have later : ni'.arrivals ≤ payload ↔ ni.arrivals ≤ payload := by
    have arrivals := same.arrivals
    omega
  simpa only [IsPast, IsFuture, IsInFlight, IsFreed, IsPassed, Settles, same.own, later,
    same.arrivals, same.timer, same.reqOf, same.freed, same.passed, same.given] using past

theorem SameAt.isCurrent (sameRecord : SameRecord ni ni' kind)
    (isCurrent : ni.IsCurrent kind payload) : ni'.IsCurrent kind payload := by
  simpa only [IsCurrent, IsStored, IsRunning, IsDangling, IsDropped, Answers, IsAnswered,
    same.arrivals, same.timer, same.reqOf, same.freed, same.passed, same.given,
    sameRecord.session, sameRecord.storing, sameRecord.clear, sameRecord.signal, ne_eq]
    using isCurrent

end

variable (consistent : ni.Consistent current)

include consistent

theorem Consistent.keep (kind : NiKind) (payload : ℕ)
    (record : ∀ other, other ≠ kind → SameRecord ni ni' other)
    (same : ∀ other, other ≠ payload → SameAt ni ni' other)
    (others : ∀ other, other ≠ kind → current' other = current other)
    (elsewhere : ∀ other, other ≠ kind → current other ≠ some payload)
    (stays : ∀ other, other ≠ payload → current kind ≠ some other)
    (storing : ∀ at_, ni'.handler = .storing kind at_ → current' kind = some at_)
    (awaits : ∀ at_, (ni'.timer payload).awaits = some at_ → current' at_ = some payload)
    (rawRequest : ∀ at_, (ni'.session kind).rawRequest = some at_ → current' kind = some at_)
    (isCurrent : ∀ at_, current' kind = some at_ → ni'.IsCurrent kind at_)
    (isPast : (∀ at_, current' at_ ≠ some payload) → ni'.IsPast payload) :
    ni'.Consistent current' := by
  constructor
  · intro at_ stored isStoring
    by_cases here : at_ = kind
    · rw [here] at isStoring ⊢
      exact storing stored isStoring
    · rw [others at_ here]
      exact consistent.storing at_ stored (((record at_ here).storing stored).mp isStoring)
  · intro at_ thread waits
    by_cases touched : thread = payload
    · rw [touched] at waits ⊢
      exact awaits at_ waits
    · rw [(same thread touched).timer] at waits
      have wasCurrent := consistent.awaits at_ thread waits
      have ne : at_ ≠ kind := by
        rintro rfl
        exact stays thread touched wasCurrent
      rw [others at_ ne]
      exact wasCurrent
  · intro at_ stored hasRaw
    by_cases here : at_ = kind
    · rw [here] at hasRaw ⊢
      exact rawRequest stored hasRaw
    · rw [(record at_ here).session] at hasRaw
      rw [others at_ here]
      exact consistent.rawRequest at_ stored hasRaw
  · intro at_ other currentAt
    by_cases here : at_ = kind
    · rw [here] at currentAt ⊢
      exact isCurrent other currentAt
    · rw [others at_ here] at currentAt
      have ne : other ≠ payload := by
        rintro rfl
        exact elsewhere at_ here currentAt
      exact (same other ne).isCurrent (record at_ here)
        (consistent.isCurrent at_ other currentAt)
  · intro other notCurrent
    by_cases touched : other = payload
    · rw [touched] at notCurrent ⊢
      exact isPast notCurrent
    · apply (same other touched).isPast
      apply consistent.isPast other
      intro at_ currentAt
      by_cases here : at_ = kind
      · rw [here] at currentAt
        exact stays other touched currentAt
      · apply notCurrent at_
        rw [others at_ here]
        exact currentAt

theorem Consistent.keepPast (kind : NiKind) (payload : ℕ)
    (record : ∀ other, other ≠ kind → SameRecord ni ni' other)
    (same : ∀ other, other ≠ payload → SameAt ni ni' other)
    (notCurrent : ∀ at_, current at_ ≠ some payload)
    (storing : ∀ at_, ni'.handler = .storing kind at_ → ni.handler = .storing kind at_)
    (awaits : (ni'.timer payload).awaits = none)
    (rawRequest : ∀ at_, (ni'.session kind).rawRequest = some at_ →
      (ni.session kind).rawRequest = some at_)
    (isCurrent : ∀ at_, SameAt ni ni' at_ → current kind = some at_ →
      ni.IsCurrent kind at_ → ni'.IsCurrent kind at_)
    (isPast : ni'.IsPast payload) : ni'.Consistent current := by
  constructor
  · intro at_ stored isStoring
    by_cases here : at_ = kind
    · rw [here] at isStoring ⊢
      exact consistent.storing kind stored (storing stored isStoring)
    · exact consistent.storing at_ stored (((record at_ here).storing stored).mp isStoring)
  · intro at_ thread waits
    by_cases touched : thread = payload
    · simp [touched, awaits] at waits
    · rw [(same thread touched).timer] at waits
      exact consistent.awaits at_ thread waits
  · intro at_ stored hasRaw
    by_cases here : at_ = kind
    · rw [here] at hasRaw ⊢
      exact consistent.rawRequest kind stored (rawRequest stored hasRaw)
    · rw [(record at_ here).session] at hasRaw
      exact consistent.rawRequest at_ stored hasRaw
  · intro at_ other currentAt
    have sameAt : SameAt ni ni' other := by
      apply same other
      rintro rfl
      exact notCurrent at_ currentAt
    by_cases here : at_ = kind
    · rw [here] at currentAt ⊢
      exact isCurrent other sameAt currentAt (consistent.isCurrent kind other currentAt)
    · exact sameAt.isCurrent (record at_ here) (consistent.isCurrent at_ other currentAt)
  · intro other notCurrentOther
    by_cases touched : other = payload
    · rw [touched]
      exact isPast
    · exact (same other touched).isPast (consistent.isPast other notCurrentOther)

theorem Consistent.future (later : ni.arrivals ≤ payload) :
    (∀ kind, current kind ≠ some payload) ∧ ni.IsFuture payload := by
  have notCurrent : ∀ kind, current kind ≠ some payload := by
    intro kind isCurrent
    have arrived := (consistent.isCurrent kind payload isCurrent).1
    omega
  refine ⟨notCurrent, ?_⟩
  rcases consistent.isPast payload notCurrent with
    future | ⟨_, arrived, _⟩ | ⟨arrived, _⟩ | ⟨_, arrived, _⟩
  · exact future
  · omega
  · omega
  · omega

theorem Consistent.keepRecord (kind : NiKind)
    (record : ∀ other, other ≠ kind → SameRecord ni ni' other)
    (same : ∀ other, SameAt ni ni' other)
    (storing : ∀ at_, ni'.handler = .storing kind at_ → ni.handler = .storing kind at_)
    (rawRequest : ∀ at_, (ni'.session kind).rawRequest = some at_ →
      (ni.session kind).rawRequest = some at_)
    (isCurrent : ∀ at_, current kind = some at_ → ni.IsCurrent kind at_ →
      ni'.IsCurrent kind at_) : ni'.Consistent current := by
  rcases consistent.future (Nat.le_refl ni.arrivals) with ⟨notCurrent, future⟩
  apply consistent.keepPast kind ni.arrivals record (fun other _ => same other) notCurrent storing
  · rw [(same _).timer, future.2.1, Timer.awaits]
    all_goals simp
  · exact rawRequest
  · exact fun at_ _ => isCurrent at_
  · exact (same _).isPast (.inl future)

end Frame

section Steps

variable {ni ni' : LocEngNi κ} {current : NiKind → Option ℕ} {kind : NiKind} {payload : ℕ}

theorem Consistent.init : (init : LocEngNi κ).Consistent fun _ => none := by
  constructor
  · simp [LocEngNi.init]
  · simp [LocEngNi.init, Timer.awaits]
  · simp [LocEngNi.init]
  · simp
  · intro payload _
    left
    simp [IsFuture, LocEngNi.init]

theorem Consistent.elsewhere (consistent : ni.Consistent current)
    (isCurrent : current kind = some payload) (other : NiKind) (ne : other ≠ kind) :
    current other ≠ some payload := by
  have place : ∀ kind, current kind = some payload →
      (ni.handler = .storing kind payload ∧ ni.timer payload = .none) ∨
        (ni.timer payload).awaits = some kind := by
    intro kind isCurrent
    rcases (consistent.isCurrent kind payload isCurrent).2.2.2.2 with
      stored | running | dangling | dropped
    · left
      exact ⟨stored.1, stored.2.2.1⟩
    · right
      exact running.1
    · right
      exact dangling.1
    · right
      exact dropped.1
  intro isOther
  rcases place kind isCurrent with ⟨stores, none⟩ | waits
  · rcases place other isOther with ⟨storesOther, -⟩ | waitsOther
    · rw [stores] at storesOther
      cases storesOther
      exact ne rfl
    · simp [none, Timer.awaits] at waitsOther
  · rcases place other isOther with ⟨-, none⟩ | waitsOther
    · simp [none, Timer.awaits] at waits
    · rw [waits] at waitsOther
      exact ne (some.inj waitsOther).symm

theorem current_stays (isCurrent : current kind = some payload) (other : ℕ)
    (ne : other ≠ payload) :
    current kind ≠ some other := by
  rw [isCurrent]
  exact fun same => ne (some.inj same).symm

section

variable (consistent : ni.Consistent current)

include consistent

theorem Consistent.isStored
    (isStoring : ni.handler = .storing kind payload) : ni.IsStored kind payload := by
  have isCurrent := consistent.storing kind payload isStoring
  rcases (consistent.isCurrent kind payload isCurrent).2.2.2.2 with
    stored | running | dangling | dropped
  · exact stored
  · exact absurd isStoring (running.2.1 payload)
  · exact absurd (isStoring.symm.trans dangling.2.1) (by simp)
  · exact absurd isStoring (dropped.2.1 payload)

theorem Consistent.unused (idle : ni.handler = .idle)
    (empty : (ni.session kind).rawRequest = none) (notSet : (ni.session kind).respRecvd = false) :
    current kind = none := by
  by_contra some
  rcases ne_none_iff_exists'.mp some with ⟨payload, isCurrent⟩
  rcases (consistent.isCurrent kind payload isCurrent).2.2.2.2 with
    stored | running | dangling | dropped
  · simp [stored.1] at idle
  · simp [running.2.2.2.2.1] at empty
  · simp [dangling.2.2.1] at empty
  · rcases dropped.2.2.2.2.2 with isSet | signal
    · simp [isSet] at notSet
    · simp [signal] at idle

theorem Consistent.saveRequest (idle : ni.handler = .idle)
    (guarded : ni.accepts kind = true → (ni.session kind).respRecvd = false) :
    ∃ current', (ni.saveRequest kind).Consistent current' := by
  have future := consistent.future (Nat.le_refl ni.arrivals)
  rcases future with ⟨notCurrent, -, noTimer, notFreed, notPassed, notGiven, noID⟩
  unfold LocEngNi.saveRequest
  dsimp only
  split
  · rename_i accepted
    have empty : (ni.session kind).rawRequest = none := by
      cases kind <;> simp_all [accepts]
    have unused := consistent.unused idle empty (guarded accepted)
    refine ⟨update current kind (some ni.arrivals), ?_⟩
    apply consistent.keep kind ni.arrivals
    · intro other ne
      constructor <;> simp [ne, idle, Ne.symm ne]
    · intro other ne
      constructor <;> simp
      omega
    · intro other ne
      exact update_of_ne ne _ _
    · exact fun other _ => notCurrent other
    · intro other _
      simp [unused]
    · simp
    · simp [noTimer, Timer.awaits]
    · simp
    · intro at_ isCurrent
      simp only [update_self, some.injEq] at isCurrent
      subst isCurrent
      simp [IsCurrent, IsStored, Answers, IsAnswered, noTimer, notFreed, notPassed, notGiven, noID,
        guarded accepted, Timer.message]
    · intro none
      exact absurd (update_self _ _ _) (none kind)
  · refine ⟨current, ?_⟩
    have same : ∀ other, other ≠ ni.arrivals → SameAt ni { ni with
        arrivals := ni.arrivals + 1
        freed := update ni.freed ni.arrivals (ni.freed ni.arrivals + 1) } other := by
      intro other ne
      constructor <;> simp [ne]
      omega
    apply consistent.keepPast kind ni.arrivals
    · exact fun other _ => ⟨rfl, fun _ => Iff.rfl, Iff.rfl, Iff.rfl⟩
    · exact same
    · exact notCurrent
    · exact fun _ isStoring => isStoring
    · simp [noTimer, Timer.awaits]
    · exact fun _ hasRaw => hasRaw
    · intro at_ sameAt _ isCurrent
      exact sameAt.isCurrent ⟨rfl, fun _ => Iff.rfl, Iff.rfl, Iff.rfl⟩ isCurrent
    · right; right; left
      simp [IsFreed, noTimer, notFreed, notPassed, notGiven, Timer.message, Timer.awaits]

theorem Consistent.startThread (isStoring : ni.handler = .storing kind payload) :
    (ni.startThread kind payload).Consistent current := by
  have isCurrent := consistent.storing kind payload isStoring
  rcases consistent.isCurrent kind payload isCurrent with ⟨arrived, notPassed, -, answers, -⟩
  rcases consistent.isStored isStoring with ⟨-, hasRaw, noTimer, noID, notFreed, notGiven⟩
  apply consistent.keep kind payload
  · intro other ne
    constructor <;> simp [LocEngNi.startThread, isStoring, ne, Ne.symm ne]
  · intro other ne
    constructor <;> simp [LocEngNi.startThread, ne]
  · exact fun _ _ => rfl
  · exact consistent.elsewhere isCurrent
  · exact current_stays isCurrent
  · simp [LocEngNi.startThread]
  · simp [LocEngNi.startThread, Timer.awaits, isCurrent]
  · simp [LocEngNi.startThread, hasRaw, isCurrent]
  · intro at_ isAt
    rw [isCurrent, some.injEq] at isAt
    subst isAt
    refine ⟨arrived, notPassed, ?_, ?_, .inr (.inl ?_)⟩
    · simp [LocEngNi.startThread, Timer.message]
    · intro _
      simp_all [LocEngNi.startThread, Answers, IsAnswered]
    · simp [IsRunning, LocEngNi.startThread, Timer.awaits, hasRaw, notFreed]
  · intro none
    exact absurd isCurrent (none kind)

theorem Consistent.keepAll
    (record : ∀ kind, SameRecord ni ni' kind) (same : ∀ payload, SameAt ni ni' payload) :
    ni'.Consistent current := by
  apply consistent.keepRecord .session
  · exact fun other _ => record other
  · exact same
  · exact fun at_ => ((record .session).storing at_).mp
  · intro at_ hasRaw
    rwa [(record .session).session] at hasRaw
  · intro at_ _ isCurrent
    exact (same at_).isCurrent (record .session) isCurrent

end

theorem Answers.notGiven (answers : ni.Answers kind payload) (notAnswered : ¬ni.IsAnswered kind) :
    ni.given payload = [] := by
  rw [List.eq_nil_iff_forall_not_mem]
  intro answer given
  rcases answers.1 answer given with ⟨-, isSet, resp⟩
  apply notAnswered
  exact ⟨isSet, by simp [resp]⟩

variable (consistent : ni.Consistent current)

include consistent

theorem Consistent.resetFree (isReset : ni.handler = .resetting kind .free)
    (guarded : (ni.session kind).rawRequest ≠ none → ¬ni.IsAnswered kind) :
    (ni.resetStep kind .free).Consistent current := by
  rcases hasRaw : (ni.session kind).rawRequest with _ | payload
  · apply consistent.keepRecord kind
    · intro other ne
      constructor <;> simp [resetStep, isReset, Ne.symm ne]
    · intro other
      constructor <;> simp [resetStep, hasRaw]
    · simp [resetStep]
    · exact fun _ same => same
    · rintro at_ - ⟨arrived, notPassed, message, answers, mode⟩
      refine ⟨arrived, notPassed, message, answers, ?_⟩
      simpa [IsStored, IsRunning, IsDangling, IsDropped, resetStep, isReset, hasRaw]
        using mode
  · have isCurrent := consistent.rawRequest kind payload hasRaw
    rcases consistent.isCurrent kind payload isCurrent with
      ⟨arrived, notPassed, message, answers, mode⟩
    have answers := answers hasRaw
    have notGiven := answers.notGiven (guarded (by simp [hasRaw]))
    apply consistent.keep kind payload
    · intro other ne
      constructor <;> simp [resetStep, isReset, Ne.symm ne]
    · intro other ne
      constructor <;> simp [resetStep, hasRaw, ne]
    · exact fun _ _ => rfl
    · exact consistent.elsewhere isCurrent
    · exact current_stays isCurrent
    · simp [resetStep]
    · exact fun at_ waits => consistent.awaits at_ payload waits
    · exact fun at_ => consistent.rawRequest kind at_
    · intro at_ isAt
      rw [isCurrent, some.injEq] at isAt
      subst isAt
      refine ⟨arrived, notPassed, message, fun _ => answers, .inr (.inr (.inl ?_))⟩
      rcases mode with ⟨isStoring, -⟩ | ⟨waits, -, -, -, -, reqID, hasID, notFreed⟩ |
        ⟨-, isClear, -⟩ | ⟨-, -, empty, -⟩
      · exact absurd (isReset.symm.trans isStoring) (by simp)
      · simp [IsDangling, resetStep, waits, hasRaw, reqID, hasID, notFreed, notGiven]
      · exact absurd (isReset.symm.trans isClear) (by simp)
      · simp [hasRaw] at empty
    · intro none
      exact absurd isCurrent (none kind)

theorem Consistent.resetClear (isReset : ni.handler = .resetting kind .clear) :
    (ni.resetStep kind .clear).Consistent current := by
  apply consistent.keepRecord kind
  · intro other ne
    constructor <;> simp [resetStep, isReset, ne, Ne.symm ne]
  · intro other
    constructor <;> simp [resetStep]
  · simp [resetStep]
  · simp [resetStep]
  · rintro at_ - ⟨arrived, notPassed, message, answers, mode⟩
    refine ⟨arrived, notPassed, message, ?_, .inr (.inr (.inr ?_))⟩
    · simp [resetStep]
    · rcases mode with ⟨isStoring, -⟩ | ⟨-, -, notClear, -⟩ |
        ⟨waits, -, -, -, -, freed, notGiven⟩ | ⟨waits, -, -, freed, notGiven, -⟩
      · exact absurd (isReset.symm.trans isStoring) (by simp)
      · exact absurd isReset notClear
      · simp [IsDropped, resetStep, waits, freed, notGiven]
      · simp [IsDropped, resetStep, waits, freed, notGiven]

theorem Consistent.resetSignal (isReset : ni.handler = .resetting kind .signal) :
    (ni.resetStep kind .signal).Consistent current := by
  apply consistent.keepRecord kind
  · intro other ne
    constructor <;> cases kind <;> simp [resetStep, afterReset, isReset, ne, Ne.symm ne]
  · intro other
    constructor <;> simp [resetStep]
  · cases kind <;> simp [resetStep, afterReset]
  · simp [resetStep]
  · rintro at_ - ⟨arrived, notPassed, message, answers, mode⟩
    rcases mode with ⟨isStoring, -⟩ | ⟨-, -, -, notSignal, -⟩ | ⟨-, isClear, -⟩ |
      ⟨waits, -, empty, freed, notGiven, -⟩
    · exact absurd (isReset.symm.trans isStoring) (by simp)
    · exact absurd isReset notSignal
    · exact absurd (isReset.symm.trans isClear) (by simp)
    · refine ⟨arrived, notPassed, message, ?_, .inr (.inr (.inr ?_))⟩
      · simp [resetStep, empty]
      · refine ⟨waits, ?_, ?_, freed, notGiven, ?_⟩
        · cases kind <;> simp [resetStep, afterReset]
        · simp [resetStep, empty]
        · simp [resetStep]

theorem Consistent.resetStep (stage : ResetStage)
    (isReset : ni.handler = .resetting kind stage)
    (guarded : stage = .free → (ni.session kind).rawRequest ≠ none → ¬ni.IsAnswered kind) :
    (ni.resetStep kind stage).Consistent current := by
  cases stage with
  | test =>
      apply consistent.keepAll
      · intro other
        constructor
        · rfl
        all_goals
          simp only [LocEngNi.resetStep, isReset]
          cases kind <;> split <;> simp [afterReset]
      · exact fun _ => ⟨Iff.rfl, rfl, rfl, rfl, rfl, rfl, rfl⟩
  | free => exact consistent.resetFree isReset (guarded rfl)
  | clear => exact consistent.resetClear isReset
  | signal => exact consistent.resetSignal isReset

theorem Consistent.leave (isCurrent : current kind = some payload)
    (record : ∀ other, other ≠ kind → SameRecord ni ni' other)
    (same : ∀ other, other ≠ payload → SameAt ni ni' other)
    (notStoring : ∀ at_, ni'.handler ≠ .storing kind at_)
    (awaits : (ni'.timer payload).awaits = none)
    (empty : (ni'.session kind).rawRequest = none) (isPast : ni'.IsPast payload) :
    ni'.Consistent (update current kind none) := by
  apply consistent.keep kind payload record same
  · exact fun other ne => update_of_ne ne _ _
  · exact consistent.elsewhere isCurrent
  · exact current_stays isCurrent
  · exact fun at_ isStoring => absurd isStoring (notStoring at_)
  · simp [awaits]
  · simp [empty]
  · simp
  · exact fun _ => isPast

theorem Consistent.leaveLock (resp : NiResponse)
    (out : Bool) (waits : (ni.timer payload).awaits = some kind)
    (notClear : ni.handler ≠ .resetting kind .clear)
    (settles : (ni.session kind).rawRequest = some payload → resp ≠ .ignore →
      ({ ni with timedOut := update ni.timedOut payload out } : LocEngNi κ).Settles
        payload resp)
    (ignored : (ni.session kind).rawRequest = some payload → resp = .ignore →
      ni.given payload = []) :
    (LocEngNi.leaveLock { ni with
      session := update ni.session kind { ni.session kind with resp }
      timedOut := update ni.timedOut payload out } payload kind).Consistent
        (update current kind none) := by
  have isCurrent := consistent.awaits kind payload waits
  rcases consistent.isCurrent kind payload isCurrent with ⟨arrived, notPassed, -, -, mode⟩
  have notStoring : ∀ other, ni.handler ≠ .storing kind other := by
    intro other isStoring
    have stored := consistent.isStored isStoring
    have same := consistent.storing kind other isStoring
    rw [isCurrent, some.injEq] at same
    simp [same, stored.2.2.1, Timer.awaits] at waits
  rcases hasRaw : (ni.session kind).rawRequest with _ | stored
  · apply consistent.leave isCurrent
    · intro other ne
      constructor <;> simp [LocEngNi.leaveLock, hasRaw, ne]
    · intro other ne
      constructor <;> simp [LocEngNi.leaveLock, hasRaw, ne]
    · simpa [LocEngNi.leaveLock, hasRaw] using notStoring
    · simp [LocEngNi.leaveLock, hasRaw, Timer.awaits]
    · simp [LocEngNi.leaveLock, hasRaw]
    · right; right; left
      rcases mode with ⟨-, stored, -⟩ | ⟨-, -, -, -, stored, -⟩ | ⟨-, -, stored, -⟩ |
        ⟨-, -, -, freed, notGiven, -⟩
      · simp [hasRaw] at stored
      · simp [hasRaw] at stored
      · simp [hasRaw] at stored
      · simp [IsFreed, LocEngNi.leaveLock, hasRaw, Timer.awaits, Timer.message, arrived, freed,
          notPassed, notGiven]
  · have same := consistent.rawRequest kind stored hasRaw
    rw [isCurrent, some.injEq] at same
    subst same
    have notFreed : ni.freed payload = 0 := by
      rcases mode with ⟨-, -, noTimer, -⟩ | ⟨-, -, -, -, -, -, -, notFreed⟩ | ⟨-, isClear, -⟩ |
        ⟨-, -, empty, -⟩
      · simp [noTimer, Timer.awaits] at waits
      · exact notFreed
      · exact absurd isClear notClear
      · simp [hasRaw] at empty
    by_cases isIgnore : resp = .ignore
    · apply consistent.leave isCurrent
      · intro other ne
        constructor <;> simp [LocEngNi.leaveLock, hasRaw, isIgnore, ne]
      · intro other ne
        constructor <;> simp [LocEngNi.leaveLock, hasRaw, isIgnore, ne]
      · simpa [LocEngNi.leaveLock, hasRaw, isIgnore] using notStoring
      · simp [LocEngNi.leaveLock, hasRaw, isIgnore, Timer.awaits]
      · simp [LocEngNi.leaveLock, hasRaw, isIgnore]
      · right; right; left
        simp [IsFreed, LocEngNi.leaveLock, hasRaw, isIgnore, Timer.awaits, Timer.message, arrived,
          notFreed, notPassed, ignored hasRaw isIgnore]
    · apply consistent.leave isCurrent
      · intro other ne
        constructor <;> simp [LocEngNi.leaveLock, hasRaw, isIgnore, ne]
      · intro other ne
        constructor <;> simp [LocEngNi.leaveLock, hasRaw, isIgnore, ne]
      · simpa [LocEngNi.leaveLock, hasRaw, isIgnore] using notStoring
      · simp [LocEngNi.leaveLock, hasRaw, isIgnore, Timer.awaits]
      · simp [LocEngNi.leaveLock, hasRaw, isIgnore]
      · right; left
        have settles := settles hasRaw isIgnore
        simpa [IsInFlight, LocEngNi.leaveLock, hasRaw, isIgnore, Timer.awaits, Timer.message,
          arrived, notFreed, notPassed, Settles, Own] using settles

theorem Consistent.testResponse (waits : (ni.timer payload).awaits = some kind)
    (guarded : (ni.session kind).respRecvd = true → ni.handler ≠ .resetting kind .clear) :
    ∃ current', (ni.testResponse payload kind).Consistent current' := by
  have isCurrent := consistent.awaits kind payload waits
  unfold LocEngNi.testResponse
  split
  · rename_i isSet
    refine ⟨update current kind none, ?_⟩
    have answers := (consistent.isCurrent kind payload isCurrent).2.2.2.1
    have left := consistent.leaveLock (ni.session kind).resp (ni.timedOut payload) waits
      (guarded isSet) ?_ ?_
    · simpa only [update_eq_self] using left
    · intro hasRaw notIgnore
      rcases (answers hasRaw).2 ⟨isSet, notIgnore⟩ with ⟨response, isUser, given⟩
      simp only [update_eq_self]
      refine ⟨.inr ⟨response, isUser, given⟩, ?_⟩
      intro answer member
      exact ((answers hasRaw).1 answer member).2.2
    · intro hasRaw isIgnore
      exact (answers hasRaw).notGiven fun answered => answered.2 isIgnore
  · refine ⟨current, ?_⟩
    apply consistent.keep kind payload
    · exact fun _ _ => ⟨rfl, fun _ => Iff.rfl, Iff.rfl, Iff.rfl⟩
    · intro other ne
      constructor <;> simp [ne]
    · exact fun _ _ => rfl
    · exact consistent.elsewhere isCurrent
    · exact current_stays isCurrent
    · exact fun at_ => consistent.storing kind at_
    · intro at_ isAt
      simp only [update_self, Timer.awaits, some.injEq] at isAt
      rw [← isAt]
      exact isCurrent
    · exact fun at_ => consistent.rawRequest kind at_
    · intro at_ isAt
      rw [isCurrent, some.injEq] at isAt
      subst isAt
      rcases consistent.isCurrent kind payload isCurrent with
        ⟨arrived, notPassed, -, answers, mode⟩
      refine ⟨arrived, notPassed, by simp [Timer.message], answers, ?_⟩
      rcases mode with ⟨-, -, noTimer, -⟩ | ⟨-, running⟩ | ⟨-, dangling⟩ | ⟨-, dropped⟩
      · simp [noTimer, Timer.awaits] at waits
      · exact .inr (.inl ⟨by simp [Timer.awaits], running⟩)
      · exact .inr (.inr (.inl ⟨by simp [Timer.awaits], dangling⟩))
      · exact .inr (.inr (.inr ⟨by simp [Timer.awaits], dropped⟩))
    · intro none
      exact absurd isCurrent (none kind)

theorem Consistent.expire (waits : (ni.timer payload).awaits = some kind)
    (notClear : ni.handler ≠ .resetting kind .clear)
    (guarded : (ni.session kind).rawRequest ≠ none → ¬ni.IsAnswered kind) :
    (ni.expire payload kind).Consistent (update current kind none) := by
  have isCurrent := consistent.awaits kind payload waits
  have answers := (consistent.isCurrent kind payload isCurrent).2.2.2.1
  apply consistent.leaveLock (.user .noResp) true waits notClear
  · intro hasRaw _
    have notGiven := (answers hasRaw).notGiven (guarded (by simp [hasRaw]))
    refine ⟨.inl ⟨rfl, update_self _ _ _⟩, ?_⟩
    simp [notGiven]
  · intro _ isIgnore
    cases isIgnore

theorem Consistent.notCurrent
    (left : (ni.timer payload).awaits = none) (begun : ni.timer payload ≠ .none)
    (at_ : NiKind) : current at_ ≠ some payload := by
  intro isCurrent
  rcases (consistent.isCurrent at_ payload isCurrent).2.2.2.2 with
    ⟨-, -, noTimer, -⟩ | ⟨waits, -⟩ | ⟨waits, -⟩ | ⟨waits, -⟩
  · exact begun noTimer
  · simp [left] at waits
  · simp [left] at waits
  · simp [left] at waits

variable {msg : Option (ℕ × NiResponse)}

theorem Consistent.clearReqID (unlocked : ni.timer payload = .unlocked kind msg)
    (guarded : (ni.session kind).rawRequest = none) :
    (ni.clearReqID payload kind msg).Consistent current := by
  have notCurrent : ∀ at_, current at_ ≠ some payload :=
    consistent.notCurrent (by simp [unlocked, Timer.awaits]) (by simp [unlocked])
  apply consistent.keepPast kind payload
  · intro other ne
    constructor <;> simp [LocEngNi.clearReqID, ne]
  · intro other ne
    constructor <;> simp [LocEngNi.clearReqID, ne]
  · exact notCurrent
  · exact fun _ isStoring => isStoring
  · simp [LocEngNi.clearReqID, Timer.awaits]
  · simp [LocEngNi.clearReqID]
  · rintro at_ same - ⟨arrived, notPassed, message, -, mode⟩
    refine ⟨same.arrivals.mpr arrived, same.passed.trans notPassed, ?_, ?_, .inr (.inr (.inr ?_))⟩
    · rw [same.timer, message]
    · simp [LocEngNi.clearReqID, guarded]
    · rcases mode with ⟨-, stored, -⟩ | ⟨-, -, -, -, stored, -⟩ | ⟨-, -, stored, -⟩ |
        ⟨waits, notStoring, -, freed, notGiven, isSet⟩
      · simp [guarded] at stored
      · simp [guarded] at stored
      · simp [guarded] at stored
      · refine ⟨by rw [same.timer, waits], notStoring, ?_, freed, notGiven, ?_⟩
        · simp [LocEngNi.clearReqID, guarded]
        · simpa [LocEngNi.clearReqID] using isSet
  · have past := consistent.isPast payload notCurrent
    simpa [IsPast, IsFuture, IsInFlight, IsFreed, IsPassed, Settles, Own, LocEngNi.clearReqID,
      unlocked, Timer.message, Timer.awaits] using past

theorem Consistent.sendMsg
    (cleared : ni.timer payload = .cleared msg) : (ni.sendMsg payload msg).Consistent current := by
  have notCurrent : ∀ at_, current at_ ≠ some payload :=
    consistent.notCurrent (by simp [cleared, Timer.awaits]) (by simp [cleared])
  have keep : (∀ sent ∈ msg, sent.1 = payload) → (ni.sendMsg payload msg).IsPast payload →
      (ni.sendMsg payload msg).Consistent current := by
    intro own isPast
    have record : ∀ at_, SameRecord ni (ni.sendMsg payload msg) at_ :=
      fun _ => ⟨rfl, fun _ => Iff.rfl, Iff.rfl, Iff.rfl⟩
    have same : ∀ other, other ≠ payload → SameAt ni (ni.sendMsg payload msg) other := by
      intro other ne
      cases msg with
      | none => constructor <;> simp [LocEngNi.sendMsg, ne]
      | some sent =>
          cases own sent rfl
          constructor <;> simp [LocEngNi.sendMsg, ne]
    apply consistent.keepPast .session payload (fun other _ => record other) same notCurrent
    · exact fun at_ => ((record .session).storing at_).mp
    · simp [LocEngNi.sendMsg, Timer.awaits]
    · exact fun at_ hasRaw => hasRaw
    · exact fun at_ sameAt _ isCurrent => sameAt.isCurrent (record .session) isCurrent
    · exact isPast
  rcases consistent.isPast payload notCurrent with ⟨-, noTimer, -⟩ |
    ⟨resp, arrived, message, -, notFreed, notPassed, settles⟩ |
      ⟨arrived, message, -, freed, notPassed, notGiven⟩ |
        ⟨resp, arrived, message, -, notFreed, passed, settles⟩
  · simp [cleared] at noTimer
  · rw [cleared, Timer.message] at message
    subst message
    apply keep (by simp)
    right; right; right
    refine ⟨resp, arrived, ?_, ?_, notFreed, ?_, settles⟩
    · simp [LocEngNi.sendMsg, Timer.message]
    · simp [LocEngNi.sendMsg, Timer.awaits]
    · simp [LocEngNi.sendMsg, notPassed]
  · rw [cleared, Timer.message] at message
    subst message
    apply keep (by simp)
    right; right; left
    simp [IsFreed, LocEngNi.sendMsg, Timer.message, Timer.awaits, arrived, freed, notPassed,
      notGiven]
  · rw [cleared, Timer.message] at message
    subst message
    apply keep (by simp)
    right; right; right
    refine ⟨resp, arrived, ?_, ?_, notFreed, passed, settles⟩
    · simp [LocEngNi.sendMsg, Timer.message]
    · simp [LocEngNi.sendMsg, Timer.awaits]

end Steps

section Numbers

variable {ni ni' : LocEngNi κ} {kind : NiKind} {payload : ℕ}

def Timer.record : Timer → Option NiKind
  | starting kind | waiting kind | unlocked kind _ => some kind
  | _ => Option.none

/-- Notification IDs are unique, and one in a record is that of a request whose thread resets it. -/
structure Numbered (ni : LocEngNi κ) : Prop where
  unique : ∀ first second, ni.reqOf first = ni.reqOf second → ni.reqOf first ≠ 0 →
    first = second
  bound : ∀ payload, ni.reqOf payload ≤ ni.reqIDCounter
  reqID : ∀ kind, (ni.session kind).reqID ≠ 0 → ∃ payload,
    ni.reqOf payload = (ni.session kind).reqID ∧ (ni.timer payload).record = some kind

theorem Numbered.keep (numbered : ni.Numbered) (reqOf : ni'.reqOf = ni.reqOf)
    (counter : ni'.reqIDCounter = ni.reqIDCounter)
    (reqID : ∀ kind, (ni'.session kind).reqID = (ni.session kind).reqID)
    (record : ∀ thread, (ni'.timer thread).record = (ni.timer thread).record) : ni'.Numbered := by
  constructor
  · simpa only [reqOf] using numbered.unique
  · simpa only [reqOf, counter] using numbered.bound
  · simpa only [reqOf, reqID, record] using numbered.reqID

theorem reqID_update (session : NiSession) (same : session.reqID = (ni.session kind).reqID)
    (at_ : NiKind) :
    (update ni.session kind session at_).reqID = (ni.session at_).reqID := by
  by_cases here : at_ = kind
  · rw [here, update_self, same]
  · rw [update_of_ne here]

theorem record_update (timer : Timer) (same : timer.record = (ni.timer payload).record)
    (thread : ℕ) :
    (update ni.timer payload timer thread).record = (ni.timer thread).record := by
  by_cases here : thread = payload
  · rw [here, update_self, same]
  · rw [update_of_ne here]

section

variable (numbered : ni.Numbered)

include numbered

theorem Numbered.startThread (stored : ni.IsStored kind payload) :
    (ni.startThread kind payload).Numbered := by
  rcases stored with ⟨-, -, noTimer, -, -⟩
  constructor
  · intro first second same notZero
    simp only [LocEngNi.startThread, update_apply] at same notZero
    have firstBound := numbered.bound first
    have secondBound := numbered.bound second
    split at same <;> split at same
    · simp_all
    · omega
    · omega
    · rw [if_neg ‹_›] at notZero
      exact numbered.unique first second same notZero
  · intro other
    have bound := numbered.bound other
    simp only [LocEngNi.startThread, update_apply]
    split <;> omega
  · intro at_ notZero
    by_cases here : at_ = kind
    · refine ⟨payload, ?_⟩
      simp [LocEngNi.startThread, here, Timer.record]
    · simp only [LocEngNi.startThread, update_of_ne here] at notZero ⊢
      rcases numbered.reqID at_ notZero with ⟨other, hasID, record⟩
      have ne : other ≠ payload := by
        rintro rfl
        simp [noTimer, Timer.record] at record
      exact ⟨other, by simpa [ne] using hasID, by simpa [ne] using record⟩

theorem Numbered.leaveLock
    (record : (ni.timer payload).record = some kind) : (ni.leaveLock payload kind).Numbered := by
  unfold LocEngNi.leaveLock
  dsimp only
  split
  · split
    · exact numbered.keep rfl rfl (reqID_update _ rfl) (record_update _ record.symm)
    · exact numbered.keep rfl rfl (reqID_update _ rfl) (record_update _ record.symm)
  · exact numbered.keep rfl rfl (reqID_update _ rfl) (record_update _ record.symm)

theorem Numbered.testResponse (record : (ni.timer payload).record = some kind) :
    (ni.testResponse payload kind).Numbered := by
  unfold LocEngNi.testResponse
  split
  · exact numbered.leaveLock record
  · exact numbered.keep rfl rfl (fun _ => rfl) (record_update _ record.symm)

variable {msg : Option (ℕ × NiResponse)}

theorem Numbered.clearReqID (unlocked : ni.timer payload = .unlocked kind msg) :
    (ni.clearReqID payload kind msg).Numbered := by
  refine ⟨numbered.unique, numbered.bound, ?_⟩
  intro at_ notZero
  by_cases here : at_ = kind
  · simp [LocEngNi.clearReqID, here] at notZero
  · simp only [LocEngNi.clearReqID, update_of_ne here] at notZero ⊢
    rcases numbered.reqID at_ notZero with ⟨other, hasID, record⟩
    have ne : other ≠ payload := by
      rintro rfl
      rw [unlocked, Timer.record, some.injEq] at record
      exact here record.symm
    exact ⟨other, hasID, by rwa [update_of_ne ne]⟩

theorem Numbered.sendMsg
    (cleared : ni.timer payload = .cleared msg) : (ni.sendMsg payload msg).Numbered := by
  refine numbered.keep rfl rfl (fun _ => rfl) (record_update _ ?_)
  rw [cleared, Timer.record, Timer.record] <;> simp

end

theorem Timer.record_of_awaits {timer : Timer} (waits : timer.awaits = some kind) :
    timer.record = some kind := by
  cases timer <;> simp_all [Timer.awaits, Timer.record]

end Numbers

section Calls

variable [DecidableEq κ] {ni ni' : LocEngNi κ} {current : NiKind → Option ℕ} {kind : NiKind}
  {payload : ℕ} {call : κ} {notifId : ℕ} {response : UserResponse}

theorem Consistent.ignoreSession (consistent : ni.Consistent current)
    (guarded : ni.LockGuard (.ignoring notifId response)) :
    (ni.ignoreSession call notifId response).Consistent current := by
  apply consistent.keepRecord .session
  · intro other ne
    constructor <;> simp [LocEngNi.ignoreSession, ne]
  · intro other
    constructor <;> simp [LocEngNi.ignoreSession]
  · simp [LocEngNi.ignoreSession]
  · simp [LocEngNi.ignoreSession]
  · rintro at_ - ⟨arrived, notPassed, message, answers, mode⟩
    refine ⟨arrived, notPassed, message, ?_, ?_⟩
    · intro hasRaw
      simp only [LocEngNi.ignoreSession, update_self] at hasRaw
      have notGiven := (answers hasRaw).notGiven (guarded (by simp [hasRaw]))
      simp [Answers, IsAnswered, LocEngNi.ignoreSession, notGiven]
    · rcases mode with stored | running | dangling | ⟨waits, notStoring, empty, freed, notGiven, -⟩
      · left
        simpa [IsStored, LocEngNi.ignoreSession] using stored
      · right; left
        simpa [IsRunning, LocEngNi.ignoreSession] using running
      · right; right; left
        simpa [IsDangling, LocEngNi.ignoreSession] using dangling
      · right; right; right
        exact ⟨waits, notStoring, by simpa [LocEngNi.ignoreSession] using empty, freed, notGiven,
          .inl (by simp [LocEngNi.ignoreSession])⟩

theorem Consistent.giveResponse (consistent : ni.Consistent current)
    (guarded : ni.LockGuard (.responding kind notifId response)) :
    (ni.giveResponse call kind notifId response).Consistent current := by
  rcases hasRaw : (ni.session kind).rawRequest with _ | payload
  · apply consistent.keepRecord kind
    · intro other ne
      constructor <;> simp [LocEngNi.giveResponse, ne]
    · intro other
      constructor <;> simp [LocEngNi.giveResponse, hasRaw]
    · simp [LocEngNi.giveResponse]
    · simp [LocEngNi.giveResponse, hasRaw]
    · rintro at_ - ⟨arrived, notPassed, message, -, mode⟩
      refine ⟨arrived, notPassed, message, ?_, .inr (.inr (.inr ?_))⟩
      · simp [LocEngNi.giveResponse, hasRaw]
      · rcases mode with ⟨-, stored, -⟩ | ⟨-, -, -, -, stored, -⟩ | ⟨-, -, stored, -⟩ |
          ⟨waits, notStoring, -, freed, notGiven, -⟩
        · simp [hasRaw] at stored
        · simp [hasRaw] at stored
        · simp [hasRaw] at stored
        · simp [IsDropped, LocEngNi.giveResponse, hasRaw, waits, notStoring, freed, notGiven]
  · rcases guarded (by simp [hasRaw]) with ⟨reqID, notStores, notClear, sameAnswer⟩
    have notStoring : ∀ payload, ni.handler ≠ .storing kind payload := by
      intro payload isStoring
      simp [isStoring, Handler.stores] at notStores
    have isCurrent := consistent.rawRequest kind payload hasRaw
    rcases consistent.isCurrent kind payload isCurrent with
      ⟨arrived, notPassed, message, answers, mode⟩
    have answers := answers hasRaw
    rcases mode with ⟨isStoring, -⟩ | running | ⟨-, isClear, -⟩ | ⟨-, -, empty, -⟩
    · exact absurd isStoring (notStoring payload)
    · apply consistent.keep kind payload
      · intro other ne
        constructor <;> simp [LocEngNi.giveResponse, ne]
      · intro other ne
        constructor <;> simp [LocEngNi.giveResponse, hasRaw, ne]
      · exact fun _ _ => rfl
      · exact consistent.elsewhere isCurrent
      · exact current_stays isCurrent
      · exact fun at_ isStoring => absurd isStoring (notStoring at_)
      · exact fun at_ => consistent.awaits at_ payload
      · simp [LocEngNi.giveResponse, hasRaw, isCurrent]
      · intro at_ isAt
        rw [isCurrent, some.injEq] at isAt
        subst isAt
        refine ⟨arrived, notPassed, message, ?_, .inr (.inl ?_)⟩
        · intro _
          have hasID : notifId = ni.reqOf payload := reqID.symm.trans running.2.2.2.2.2.1
          constructor
          · intro answer member
            simp only [LocEngNi.giveResponse, hasRaw, update_self, List.mem_append,
              List.mem_singleton] at member ⊢
            rcases member with before | rfl
            · rcases answers.1 answer before with ⟨ownID, isSet, resp⟩
              have same := sameAnswer ⟨isSet, by simp [resp]⟩
              exact ⟨ownID, trivial, same.symm.trans resp⟩
            · exact ⟨hasID, trivial, rfl⟩
          · intro _
            exact ⟨response, by simp [LocEngNi.giveResponse],
              by simp [LocEngNi.giveResponse, hasRaw, hasID]⟩
        · simpa [IsRunning, LocEngNi.giveResponse] using running
      · intro none
        exact absurd isCurrent (none kind)
    · exact absurd isClear notClear
    · simp [hasRaw] at empty

inductive Stepped (ni : LocEngNi κ) : Event κ → LocEngNi κ → Prop where
  | request (kind : NiKind) (idle : ni.handler = .idle) :
      Stepped ni (.request kind) (ni.saveRequest kind)
  | start {kind : NiKind} {payload : ℕ} (isStoring : ni.handler = .storing kind payload) :
      Stepped ni .start (ni.startThread kind payload)
  | restart (idle : ni.handler = .idle) :
      Stepped ni .restart { ni with handler := .resetting .sessionEs .test }
  | reset {kind : NiKind} {stage : ResetStage} (isReset : ni.handler = .resetting kind stage) :
      Stepped ni .reset (ni.resetStep kind stage)
  | respond (call : κ) (notifId : ℕ) (response : UserResponse) :
      Stepped ni (.respond call notifId response) (ni.respond call notifId response)
  | ignore {call : κ} {notifId : ℕ} {response : UserResponse}
      (isIgnoring : ni.responder call = .ignoring notifId response) :
      Stepped ni (.lock call) (ni.ignoreSession call notifId response)
  | give {call : κ} {kind : NiKind} {notifId : ℕ} {response : UserResponse}
      (isResponding : ni.responder call = .responding kind notifId response) :
      Stepped ni (.lock call) (ni.giveResponse call kind notifId response)
  | wake {thread : ℕ} {kind : NiKind} (waits : (ni.timer thread).awaits = some kind) :
      Stepped ni (.wake thread) (ni.testResponse thread kind)
  | expire {thread : ℕ} {kind : NiKind} (waits : (ni.timer thread).awaits = some kind) :
      Stepped ni (.expire thread) (ni.expire thread kind)
  | clear {thread : ℕ} {kind : NiKind} {msg : Option (ℕ × NiResponse)}
      (unlocked : ni.timer thread = .unlocked kind msg) :
      Stepped ni (.clear thread) (ni.clearReqID thread kind msg)
  | send {thread : ℕ} {msg : Option (ℕ × NiResponse)} (cleared : ni.timer thread = .cleared msg) :
      Stepped ni (.send thread) (ni.sendMsg thread msg)

theorem stepped_of_step {event : Event κ} (stepped : ni.Step event ni') :
    ni.Stepped event ni' := by
  cases event with
  | request kind =>
      simp only [Step, step] at stepped
      split at stepped <;> cases stepped
      exact .request kind ‹_›
  | start =>
      simp only [Step, step] at stepped
      split at stepped <;> cases stepped
      exact .start ‹_›
  | restart =>
      simp only [Step, step] at stepped
      split at stepped <;> cases stepped
      exact .restart ‹_›
  | reset =>
      simp only [Step, step] at stepped
      split at stepped <;> cases stepped
      exact .reset ‹_›
  | respond call notifId response =>
      simp only [Step, step] at stepped
      split at stepped <;> cases stepped
      exact .respond call notifId response
  | lock call =>
      simp only [Step, step] at stepped
      split at stepped <;> cases stepped
      · exact .ignore ‹_›
      · exact .give ‹_›
  | wake thread =>
      simp only [Step, step] at stepped
      split at stepped <;> cases stepped
      · exact .wake (by simp [*, Timer.awaits])
      · exact .wake (by simp [*, Timer.awaits])
  | expire thread =>
      simp only [Step, step] at stepped
      split at stepped <;> cases stepped
      exact .expire (by simp [*, Timer.awaits])
  | clear thread =>
      simp only [Step, step] at stepped
      split at stepped <;> cases stepped
      exact .clear ‹_›
  | send thread =>
      simp only [Step, step] at stepped
      split at stepped <;> cases stepped
      exact .send ‹_›

variable {event : Event κ}

theorem Consistent.step (consistent : ni.Consistent current) (guarded : ni.NiGuard event)
    (stepped : ni.Stepped event ni') : ∃ current', ni'.Consistent current' := by
  cases stepped with
  | request kind idle => exact consistent.saveRequest idle guarded
  | start isStoring => exact ⟨current, consistent.startThread isStoring⟩
  | restart idle =>
      refine ⟨current, consistent.keepAll ?_ ?_⟩
      · intro kind
        constructor <;> simp [idle]
      · exact fun _ => ⟨Iff.rfl, rfl, rfl, rfl, rfl, rfl, rfl⟩
  | @reset kind stage isReset =>
      refine ⟨current, consistent.resetStep stage isReset ?_⟩
      rintro rfl
      exact guarded kind isReset
  | respond call notifId response =>
      refine ⟨current, consistent.keepAll ?_ ?_⟩
      · exact fun _ => ⟨rfl, fun _ => Iff.rfl, Iff.rfl, Iff.rfl⟩
      · exact fun _ => ⟨Iff.rfl, rfl, rfl, rfl, rfl, rfl, rfl⟩
  | ignore isIgnoring =>
      simp only [NiGuard, isIgnoring] at guarded
      exact ⟨current, consistent.ignoreSession guarded⟩
  | give isResponding =>
      simp only [NiGuard, isResponding] at guarded
      exact ⟨current, consistent.giveResponse guarded⟩
  | @wake thread kind waits => exact consistent.testResponse waits (guarded kind waits)
  | @expire thread kind waits =>
      exact ⟨_, consistent.expire waits (guarded kind waits).1 (guarded kind waits).2⟩
  | @clear thread kind msg unlocked =>
      exact ⟨current, consistent.clearReqID unlocked
        (guarded kind (by rw [unlocked, Timer.holdsID]))⟩
  | send cleared => exact ⟨current, consistent.sendMsg cleared⟩

theorem Numbered.step (numbered : ni.Numbered) (consistent : ni.Consistent current)
    (stepped : ni.Stepped event ni') : ni'.Numbered := by
  cases stepped with
  | request kind idle =>
      unfold saveRequest
      dsimp only
      split
      · exact numbered.keep rfl rfl (reqID_update _ rfl) (fun _ => rfl)
      · exact numbered.keep rfl rfl (fun _ => rfl) (fun _ => rfl)
  | start isStoring => exact numbered.startThread (consistent.isStored isStoring)
  | restart idle | respond call notifId response =>
        exact numbered.keep rfl rfl (fun _ => rfl) (fun _ => rfl)
  | @reset kind stage isReset =>
      cases stage with
      | test | free => exact numbered.keep rfl rfl (fun _ => rfl) (fun _ => rfl)
      | clear | signal => exact numbered.keep rfl rfl (reqID_update _ rfl) (fun _ => rfl)
  | ignore isIgnoring | give isResponding =>
        exact numbered.keep rfl rfl (reqID_update _ rfl) (fun _ => rfl)
  | wake waits => exact numbered.testResponse (Timer.record_of_awaits waits)
  | @expire thread kind waits =>
      have expired : ({ ni with
          session := update ni.session kind { ni.session kind with resp := .user .noResp }
          timedOut := update ni.timedOut thread true } : LocEngNi κ).Numbered :=
        numbered.keep rfl rfl (reqID_update _ rfl) (fun _ => rfl)
      exact expired.leaveLock (Timer.record_of_awaits waits)
  | clear unlocked => exact numbered.clearReqID unlocked
  | send cleared => exact numbered.sendMsg cleared

end Calls

section Results

variable {ni : LocEngNi κ} {current : NiKind → Option ℕ} {kind : NiKind} {payload : ℕ}

theorem Consistent.found (consistent : ni.Consistent current) (numbered : ni.Numbered)
    (hasRaw : (ni.session kind).rawRequest = some payload)
    (waits : (ni.timer payload).awaits = some kind) :
    ni.sessionFor (ni.reqOf payload) = some kind := by
  have isCurrent := consistent.rawRequest kind payload hasRaw
  have hasID : (ni.session kind).reqID = ni.reqOf payload ∧ ni.reqOf payload ≠ 0 := by
    rcases (consistent.isCurrent kind payload isCurrent).2.2.2.2 with
      ⟨-, -, noTimer, -⟩ | ⟨-, -, -, -, -, reqID, notZero, -⟩ |
        ⟨-, -, -, reqID, notZero, -⟩ | ⟨-, -, empty, -⟩
    · simp [noTimer, Timer.awaits] at waits
    · exact ⟨reqID, notZero⟩
    · exact ⟨reqID, notZero⟩
    · simp [hasRaw] at empty
  have only : ∀ other, (ni.session other).reqID = ni.reqOf payload → other = kind := by
    intro other sameID
    have notZero : (ni.session other).reqID ≠ 0 := by
      rw [sameID]
      exact hasID.2
    rcases numbered.reqID other notZero with ⟨found, foundID, record⟩
    have same := numbered.unique payload found (sameID.symm.trans foundID.symm) hasID.2
    rw [← same, Timer.record_of_awaits waits, some.injEq] at record
    exact record.symm
  unfold sessionFor
  cases kind with
  | sessionEs => rw [if_pos ⟨hasID.1.symm, by simp [hasRaw]⟩]
  | session =>
      have notEs : ¬(ni.reqOf payload = (ni.session .sessionEs).reqID ∧
          (ni.session .sessionEs).rawRequest ≠ none) := by
        rintro ⟨sameID, -⟩
        cases only .sessionEs sameID.symm
      rw [if_neg notEs, if_pos ⟨hasID.1.symm, by simp [hasRaw]⟩]

theorem Consistent.niOk (consistent : ni.Consistent current) (numbered : ni.Numbered) :
    ni.NiOk := by
  have cases : ∀ payload, (∃ kind, current kind = some payload ∧ ni.IsCurrent kind payload) ∨
      ni.IsPast payload := by
    intro payload
    by_cases isCurrent : ∃ kind, current kind = some payload
    · rcases isCurrent with ⟨kind, isCurrent⟩
      left
      exact ⟨kind, isCurrent, consistent.isCurrent kind payload isCurrent⟩
    · right
      exact consistent.isPast payload (not_exists.mp isCurrent)
  constructor
  · intro payload
    rcases cases payload with ⟨kind, -, -, notPassed, -, -, mode⟩ | past
    · rcases mode with ⟨-, -, -, -, freed, -⟩ | ⟨-, -, -, -, -, -, -, freed⟩ |
        ⟨-, -, -, -, -, freed, -⟩ | ⟨-, -, -, freed, -⟩
      all_goals simp [freed, notPassed]
    · rcases past with ⟨-, -, freed, passed, -⟩ | ⟨_, -, -, -, freed, passed, -⟩ |
        ⟨-, -, -, freed, passed, -⟩ | ⟨_, -, -, -, freed, passed, -⟩
      all_goals simp [freed, passed]
  · intro payload arrived notYet
    rcases cases payload with ⟨kind, -, -, -, -, -, mode⟩ | past
    · rcases mode with ⟨isStoring, hasRaw, -⟩ | ⟨waits, -, -, -, hasRaw, -⟩ |
        ⟨-, -, -, -, -, freed, -⟩ | ⟨-, -, -, freed, -⟩
      · left
        exact ⟨kind, hasRaw, .inl isStoring⟩
      · left
        exact ⟨kind, hasRaw, .inr waits⟩
      · simp [freed] at notYet
      · simp [freed] at notYet
    · rcases past with ⟨later, -⟩ | ⟨resp, -, message, -⟩ | ⟨-, -, -, freed, -⟩ |
        ⟨_, -, -, -, -, passed, -⟩
      · omega
      · right
        exact ⟨resp, message⟩
      · simp [freed] at notYet
      · simp [passed] at notYet
  · intro payload resp isPassed
    rcases cases payload with ⟨kind, -, -, notPassed, -⟩ | past
    · simp [notPassed] at isPassed
    · rcases past with ⟨-, -, -, passed, -⟩ | ⟨_, -, -, -, -, passed, -⟩ |
        ⟨-, -, -, -, passed, -⟩ | ⟨_, -, -, -, -, passed, settles⟩
      · simp [passed] at isPassed
      · simp [passed] at isPassed
      · simp [passed] at isPassed
      · rw [passed, List.mem_singleton] at isPassed
        rw [isPassed]
        exact settles.1
  · exact fun kind payload hasRaw waits => consistent.found numbered hasRaw waits
  · intro payload response given
    rcases cases payload with ⟨kind, -, -, -, -, answers, mode⟩ | past
    · rcases mode with ⟨-, -, -, -, -, notGiven⟩ | ⟨waits, -, -, -, hasRaw, -⟩ |
        ⟨-, -, -, -, -, -, notGiven⟩ | ⟨-, -, -, -, notGiven, -⟩
      · simp [notGiven] at given
      · right; right
        rcases (answers hasRaw).1 _ given with ⟨-, isSet, resp⟩
        exact ⟨kind, waits, hasRaw, isSet, resp⟩
      · simp [notGiven] at given
      · simp [notGiven] at given
    · rcases past with ⟨-, -, -, -, notGiven, -⟩ | ⟨_, -, message, -, -, -, settles⟩ |
        ⟨-, -, -, -, -, notGiven⟩ | ⟨_, -, -, -, -, passed, settles⟩
      · simp [notGiven] at given
      · right; left
        rw [message, settles.2 _ given]
      · simp [notGiven] at given
      · left
        rw [passed, settles.2 _ given]

/-- As long as no step goes wrong, every payload is freed or passed once, with what is for its own
request, and what the user gives for a request is passed. -/
theorem reachable_niOk [DecidableEq κ]
    (reached : Run.Reachable IsInit (Run.Guarded NiGuard Step) ni) : ni.NiOk := by
  have inv : (∃ current, ni.Consistent current) ∧ ni.Numbered := by
    apply reached.invariant fun ni => (∃ current, ni.Consistent current) ∧ ni.Numbered
    · rintro _ rfl
      refine ⟨⟨_, .init⟩, ?_⟩
      constructor <;> simp [init]
    · rintro ni event ni' ⟨⟨current, consistent⟩, numbered⟩ ⟨guarded, stepped⟩
      have stepped := stepped_of_step stepped
      exact ⟨consistent.step guarded stepped, numbered.step consistent stepped⟩
  rcases inv with ⟨⟨current, consistent⟩, numbered⟩
  exact consistent.niOk numbered

end Results

section Runs

def waitingRequest (kind : NiKind) (thread : ℕ) : List (Event Bool) :=
  [.request kind, .start, .wake thread]

def accepted : Option (LocEngNi Bool) :=
  Run.runGuarded NiGuard (fun ni event => ni.step event) init
    (waitingRequest .session 0 ++ [.respond true 1 .accept, .lock true, .wake 0, .clear 0, .send 0])

theorem accepted_isSome : accepted.isSome = true := by decide +kernel

theorem reachable_niOk_accepted :
    ∃ ni : LocEngNi Bool, ni.passed 0 = [.user .accept] ∧ ni.NiOk := by
  refine ⟨accepted.get accepted_isSome, by decide +kernel, ?_⟩
  exact reachable_niOk (Run.Reachable.runGuarded _ (.start rfl)
    (Option.some_get accepted_isSome).symm)

def after (events : List (Event Bool)) : Option (LocEngNi Bool) :=
  Run.runAll (fun ni event => ni.step event) init events

variable {events : List (Event Bool)}

theorem reachable_after {ni : LocEngNi Bool}
    (ran : after events = some ni) : Run.Reachable IsInit Step ni :=
  Run.Reachable.runAll events (.start rfl) ran

def lateResponse : List (Event Bool) :=
  waitingRequest .session 0 ++ [.respond true 1 .accept, .expire 0, .clear 0, .send 0] ++
    waitingRequest .session 1 ++ [.lock true, .wake 1, .clear 1, .send 1]

theorem lateResponse_isSome : (after lateResponse).isSome = true := by decide +kernel

def restarted : List (Event Bool) :=
  waitingRequest .session 0 ++ [.restart, .reset, .reset, .reset, .reset, .reset] ++
    [.request .session, .start, .wake 1, .clear 1, .send 1]

theorem restarted_isSome : (after restarted).isSome = true := by decide +kernel

def lateClear : List (Event Bool) :=
  waitingRequest .session 0 ++ [.expire 0] ++ waitingRequest .session 1 ++ [.clear 0]

theorem lateClear_isSome : (after lateClear).isSome = true := by decide +kernel

def lateWake : List (Event Bool) :=
  waitingRequest .session 0 ++
    [.respond true 1 .accept, .lock true, .expire 0, .clear 0, .send 0]

theorem lateWake_isSome : (after lateWake).isSome = true := by decide +kernel

def overwritten : List (Event Bool) :=
  waitingRequest .session 0 ++ waitingRequest .sessionEs 1 ++ [.respond true 1 .deny, .lock true,
    .respond false 2 .accept, .lock false, .wake 0]

theorem overwritten_isSome : (after overwritten).isSome = true := by decide +kernel

def freedAndPassed : List (Event Bool) :=
  waitingRequest .session 0 ++ [.restart, .reset, .reset, .reset, .expire 0, .clear 0, .send 0]

theorem freedAndPassed_isSome : (after freedAndPassed).isSome = true := by decide +kernel

theorem exists_after {Meets : LocEngNi Bool → Prop}
    (isSome : (after events).isSome = true) (meets : Meets ((after events).get isSome)) :
    ∃ ni, Run.Reachable IsInit Step ni ∧ Meets ni :=
  ⟨_, reachable_after (some_get isSome).symm, meets⟩

/-- A response reaches the modem for another request, one of a user is replaced or dropped, and a
payload is freed twice. -/
theorem reachable_not_niOk :
    (∃ ni : LocEngNi Bool, Run.Reachable IsInit Step ni ∧ ni.reqOf 1 = 2 ∧
        ni.given 1 = [(1, .accept)] ∧ ni.passed 1 = [.user .accept]) ∧
      (∃ ni : LocEngNi Bool, Run.Reachable IsInit Step ni ∧ ni.given 1 = [] ∧
        ni.timedOut 1 = false ∧ ni.passed 1 = [.unset]) ∧
      (∃ ni : LocEngNi Bool, Run.Reachable IsInit Step ni ∧
        (ni.session .session).rawRequest = some 1 ∧ ni.reqOf 1 = 2 ∧ ni.sessionFor 2 = none) ∧
      (∃ ni : LocEngNi Bool, Run.Reachable IsInit Step ni ∧ ni.reqOf 0 = 1 ∧
        ni.given 0 = [(1, .accept)] ∧ ni.passed 0 = [.user .noResp]) ∧
      (∃ ni : LocEngNi Bool, Run.Reachable IsInit Step ni ∧ ni.reqOf 0 = 1 ∧
        ni.given 0 = [(1, .deny)] ∧ ni.freed 0 = 1) ∧
      ∃ ni : LocEngNi Bool, Run.Reachable IsInit Step ni ∧ ni.freed 0 = 1 ∧
        ni.passed 0 = [.user .noResp] := by
  refine ⟨exists_after lateResponse_isSome ?_, exists_after restarted_isSome ?_,
    exists_after lateClear_isSome ?_, exists_after lateWake_isSome ?_,
    exists_after overwritten_isSome ?_, exists_after freedAndPassed_isSome ?_⟩ <;>
  decide +kernel

end Runs

end HtcPme.Gps.LocEngNi
