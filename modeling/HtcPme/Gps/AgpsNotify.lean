import HtcPme.Gps.Agps

/-!
# What notifications do

A notification reaches every subscriber that it is for, in the order of the list, and takes those
off the list that are to be deleted.
-/

namespace HtcPme.Gps

open List

namespace Subscriber

variable {memory : SubscriberKind → List UInt8} {subscriber other : Subscriber}

def Known (status : AgpsRsrcStatus) : Prop := status ≠ .subscribe ∧ status ≠ .statusMax

theorem known_granted : Known .granted := by simp [Known]

theorem known_released : Known .released := by simp [Known]

theorem known_denied : Known .denied := by simp [Known]

theorem statusMessage_isSome (subscriber : Subscriber) {status : AgpsRsrcStatus}
    (known : Known status) :
    ∃ message, subscriber.statusMessage status = some message := by
  rcases subscriber with ⟨id, kind, inactive⟩
  cases status <;> cases kind <;> simp [Known, statusMessage] at *

theorem equals_self (subscriber : Subscriber) : subscriber.equals memory subscriber = true := by
  rcases subscriber with ⟨id, kind, inactive⟩
  cases kind <;> simp [equals, ipv6Read, sameString]

@[simp]
theorem clone_isInactive : subscriber.clone.isInactive = false := by
  rcases subscriber with ⟨id, kind, inactive⟩
  cases kind <;> rfl

end Subscriber

namespace AgpsStateMachine

open Subscriber

variable {memory : SubscriberKind → List UInt8} {machine : AgpsStateMachine}
  {notification : Notification} {subscriber : Subscriber}

@[simp]
theorem inform_mSubscribers (status : AgpsRsrcStatus) (message : Option ClientMessage) :
    (machine.inform subscriber status message).mSubscribers = machine.mSubscribers := rfl

def informAll (status : AgpsRsrcStatus) (subscribers : List Subscriber)
    (machine : AgpsStateMachine) : AgpsStateMachine :=
  subscribers.foldl
    (fun machine subscriber =>
      machine.inform subscriber status ((subscriber.statusMessage status).getD none))
    machine

section InformAll

variable {status : AgpsRsrcStatus} {subscribers : List Subscriber}

@[simp]
theorem informAll_nil : informAll status [] machine = machine := rfl

@[simp]
theorem informAll_cons : informAll status (subscriber :: subscribers) machine =
    informAll status subscribers
      (machine.inform subscriber status ((subscriber.statusMessage status).getD none)) := rfl

@[simp]
theorem informAll_mStatePtr :
    (informAll status subscribers machine).mStatePtr = machine.mStatePtr := by
  induction subscribers generalizing machine with
  | nil => rfl
  | cons subscriber rest ih => rw [informAll_cons, ih, inform]

@[simp]
theorem informAll_mSubscribers :
    (informAll status subscribers machine).mSubscribers = machine.mSubscribers := by
  induction subscribers generalizing machine with
  | nil => rfl
  | cons subscriber rest ih => rw [informAll_cons, ih, inform]

@[simp]
theorem informAll_enforce :
    (informAll status subscribers machine).mEnforceSingleSubscriber =
      machine.mEnforceSingleSubscriber := by
  induction subscribers generalizing machine with
  | nil => rfl
  | cons subscriber rest ih => rw [informAll_cons, ih, inform]

@[simp]
theorem informAll_requests :
    (informAll status subscribers machine).requests = machine.requests := by
  induction subscribers generalizing machine with
  | nil => rfl
  | cons subscriber rest ih => rw [informAll_cons, ih, inform]

@[simp]
theorem informAll_timers :
    (informAll status subscribers machine).timers = machine.timers := by
  induction subscribers generalizing machine with
  | nil => rfl
  | cons subscriber rest ih => rw [informAll_cons, ih, inform]

@[simp]
theorem informAll_notified :
    (informAll status subscribers machine).notified =
      machine.notified ++ subscribers.map fun subscriber => (subscriber, status) := by
  induction subscribers generalizing machine with
  | nil => simp
  | cons subscriber rest ih =>
      rw [informAll_cons, ih, inform]
      simp

theorem mem_informAll_messages {message : ClientMessage}
    (mem : message ∈ (informAll status subscribers machine).messages) :
    message ∈ machine.messages ∨
      ∃ subscriber ∈ subscribers, subscriber.statusMessage status = some (some message) := by
  induction subscribers generalizing machine with
  | nil => exact Or.inl mem
  | cons first rest ih =>
      rcases ih mem with isOld | ⟨subscriber, isRest, isMessage⟩
      · simp only [inform, mem_append, Option.mem_toList] at isOld
        rcases isOld with isOld | isNew
        · exact Or.inl isOld
        · refine Or.inr ⟨first, mem_cons_self, ?_⟩
          cases said : first.statusMessage status with
          | none => simp [said] at isNew
          | some message => simpa [said] using isNew
      · exact Or.inr ⟨subscriber, mem_cons_of_mem first isRest, isMessage⟩

theorem informAll_withSubscribers (machine : AgpsStateMachine) (status : AgpsRsrcStatus)
    (subscribers left : List Subscriber) :
    informAll status subscribers { machine with mSubscribers := left } =
      { informAll status subscribers machine with mSubscribers := left } := by
  induction subscribers generalizing machine with
  | nil => rfl
  | cons subscriber rest ih =>
      simp only [informAll_cons]
      rw [← ih]
      rfl

end InformAll

theorem notifySubscriber_of_forMe (known : Known notification.rsrcStatus)
    (forMe : subscriber.forMe memory notification = true) :
    machine.notifySubscriber memory notification subscriber =
      (notification.postNotifyDelete,
        informAll notification.rsrcStatus [subscriber] machine) := by
  rcases statusMessage_isSome subscriber known with ⟨message, isMessage⟩
  simp [notifySubscriber, notifyRsrcStatus, forMe, isMessage]

theorem notifySubscriber_of_not_forMe (notForMe : subscriber.forMe memory notification = false) :
    machine.notifySubscriber memory notification subscriber = (false, machine) := by
  simp [notifySubscriber, notifyRsrcStatus, notForMe]

theorem searchNotify_keep (known : Known notification.rsrcStatus)
    (keep : notification.postNotifyDelete = false) (subscribers : List Subscriber) :
    searchNotify memory notification subscribers machine =
      (none, informAll notification.rsrcStatus
        (subscribers.filter (·.forMe memory notification)) machine) := by
  induction subscribers generalizing machine with
  | nil => rfl
  | cons subscriber rest ih =>
      by_cases forMe : subscriber.forMe memory notification = true
      · simp [searchNotify, notifySubscriber_of_forMe known forMe, keep, ih, forMe]
      · rw [Bool.not_eq_true] at forMe
        simp [searchNotify, notifySubscriber_of_not_forMe forMe, ih, forMe]

theorem searchNotify_delete (known : Known notification.rsrcStatus)
    (delete : notification.postNotifyDelete = true) (subscribers : List Subscriber) :
    searchNotify memory notification subscribers machine =
      match subscribers.find? (·.forMe memory notification) with
      | none => (none, machine)
      | some subscriber =>
          (some (subscribers.eraseP (·.forMe memory notification)),
            informAll notification.rsrcStatus [subscriber] machine) := by
  induction subscribers generalizing machine with
  | nil => rfl
  | cons subscriber rest ih =>
      by_cases forMe : subscriber.forMe memory notification = true
      · simp [searchNotify, notifySubscriber_of_forMe known forMe, delete, forMe]
      · rw [Bool.not_eq_true] at forMe
        simp only [searchNotify, notifySubscriber_of_not_forMe forMe, ih, forMe,
          find?_cons_of_neg, Bool.false_eq_true, not_false_eq_true, eraseP_cons_of_neg]
        split <;> rfl

theorem filter_of_find? {α : Type*} {p : α → Bool} {list : List α} {first : α}
    (found : list.find? p = some first) :
    list.filter p = first :: (list.eraseP p).filter p ∧
      (list.eraseP p).filter (!p ·) = list.filter (!p ·) := by
  induction list with
  | nil => simp at found
  | cons element rest ih =>
      by_cases holds : p element = true
      · simp only [find?_cons_of_pos holds, Option.some.injEq] at found
        subst found
        simp [holds]
      · rw [find?_cons_of_neg holds] at found
        simp [holds, ih found]

theorem notifyLoop_eq (known : Known notification.rsrcStatus)
    (delete : notification.postNotifyDelete = true) (rounds : ℕ)
    (enough : machine.mSubscribers.length ≤ rounds) :
    notifyLoop memory notification rounds machine =
      { informAll notification.rsrcStatus
          (machine.mSubscribers.filter (·.forMe memory notification)) machine with
        mSubscribers := machine.mSubscribers.filter (!·.forMe memory notification) } := by
  induction rounds generalizing machine with
  | zero =>
      have isEmpty : machine.mSubscribers = [] := eq_nil_of_length_eq_zero (by omega)
      rcases machine with ⟨_, _, subscribers, _⟩
      simp only at isEmpty
      subst isEmpty
      rfl
  | succ rounds ih =>
      rw [notifyLoop, searchNotify_delete known delete]
      cases found : machine.mSubscribers.find? (·.forMe memory notification) with
      | none =>
          have none := find?_eq_none.mp found
          have noneFor : machine.mSubscribers.filter (·.forMe memory notification) = [] :=
            filter_eq_nil_iff.mpr none
          have all : machine.mSubscribers.filter (!·.forMe memory notification) =
              machine.mSubscribers :=
            filter_eq_self.mpr fun subscriber mem => by simpa using none subscriber mem
          simp [noneFor, all]
      | some subscriber =>
          rcases filter_of_find? found with ⟨forIt, others⟩
          have shorter := length_eraseP_of_mem (mem_of_find?_eq_some found)
            (find?_some found)
          simp only
          rw [ih (by simp only; omega)]
          simp only [others, forIt, informAll_cons, informAll_nil, informAll_withSubscribers]

theorem notifySubscribers_eq (known : Known notification.rsrcStatus) :
    machine.notifySubscribers memory notification =
      { informAll notification.rsrcStatus
          (machine.mSubscribers.filter (·.forMe memory notification)) machine with
        mSubscribers :=
          if notification.postNotifyDelete then
            machine.mSubscribers.filter (!·.forMe memory notification)
          else machine.mSubscribers } := by
  rw [notifySubscribers]
  cases delete : notification.postNotifyDelete with
  | true => simp [notifyLoop_eq known delete]
  | false =>
      simp only [Bool.false_eq_true, if_false, searchNotify_keep known delete]
      exact informAll_withSubscribers machine _ _ machine.mSubscribers

@[simp]
theorem firstActive_isSome :
    machine.firstActive.isSome = true ↔
      ∃ subscriber ∈ machine.mSubscribers, subscriber.isInactive = false := by
  simp [firstActive, find?_isSome]

theorem hasActiveSubscribers_iff :
    machine.hasActiveSubscribers = true ↔
      ∃ subscriber ∈ machine.mSubscribers, subscriber.isInactive = false := by
  simp [hasActiveSubscribers]

theorem hasSubscribers_iff : machine.hasSubscribers = true ↔ machine.mSubscribers ≠ [] := by
  simp [hasSubscribers]

variable {subscribers : List Subscriber}

theorem mem_inactivate {entry : Subscriber}
    (mem : entry ∈ inactivate memory subscriber subscribers) :
    entry ∈ subscribers ∨ ∃ before ∈ subscribers, before.equals memory subscriber = true ∧
      entry = { before with mIsInactive := true } := by
  induction subscribers with
  | nil => simp [inactivate] at mem
  | cons first rest ih =>
      simp only [inactivate] at mem
      split at mem
      · rename_i found
        rcases mem_cons.mp mem with rfl | inRest
        · exact Or.inr ⟨first, mem_cons_self, found, rfl⟩
        · exact Or.inl (mem_cons_of_mem _ inRest)
      · rcases mem_cons.mp mem with rfl | inRest
        · exact Or.inl mem_cons_self
        · rcases ih inRest with same | ⟨before, isBefore, found, rfl⟩
          · exact Or.inl (mem_cons_of_mem _ same)
          · exact Or.inr ⟨before, mem_cons_of_mem _ isBefore, found, rfl⟩

theorem mem_inactivate_of_mem {entry found : Subscriber}
    (first : subscribers.find? (fun entry => entry.equals memory subscriber) = some found)
    (mem : entry ∈ subscribers) :
    entry = found ∨ entry ∈ inactivate memory subscriber subscribers := by
  induction subscribers with
  | nil => simp at mem
  | cons head rest ih =>
      simp only [inactivate]
      split
      · rename_i isFirst
        simp only [find?_cons, isFirst, Option.some.injEq] at first
        rcases mem_cons.mp mem with rfl | inRest
        · exact Or.inl first
        · exact Or.inr (mem_cons_of_mem _ inRest)
      · rename_i notFirst
        rw [Bool.not_eq_true] at notFirst
        simp only [find?_cons, notFirst] at first
        rcases mem_cons.mp mem with rfl | inRest
        · exact Or.inr mem_cons_self
        · exact (ih first inRest).imp_right (mem_cons_of_mem _)

theorem inactivate_eq_nil :
    inactivate memory subscriber subscribers = [] ↔ subscribers = [] := by
  cases subscribers with
  | nil => simp [inactivate]
  | cons first rest =>
      simp only [inactivate]
      split <;> simp

theorem pairwise_inactivate {relation : Subscriber → Subscriber → Prop}
    (left : ∀ one other inactive, relation one other →
      relation { one with mIsInactive := inactive } other)
    (right : ∀ one other inactive, relation one other →
      relation one { other with mIsInactive := inactive })
    {subscribers : List Subscriber} (pairwise : subscribers.Pairwise relation) :
    (inactivate memory subscriber subscribers).Pairwise relation := by
  induction subscribers with
  | nil => simp [inactivate]
  | cons first rest ih =>
      rcases pairwise_cons.mp pairwise with ⟨before, restOk⟩
      simp only [inactivate]
      split
      · exact pairwise_cons.mpr
          ⟨fun entry mem => left first entry true (before entry mem), restOk⟩
      · refine pairwise_cons.mpr ⟨?_, ih restOk⟩
        intro entry mem
        rcases mem_inactivate mem with same | ⟨other, isOther, -, rfl⟩
        · exact before entry same
        · exact right first other true (before other isOther)

end AgpsStateMachine

end HtcPme.Gps
