import HtcPme.Gps.AgpsObjects
import Mathlib.Data.List.Infix

/-!
# Which subscriber objects are used

The receiver of a notification that a subscriber leaves is the object in the list. The loop deletes
it, and where others are left it compares them with it once more.
-/

namespace HtcPme.Gps

namespace AgpsObjects

open Subscriber List

variable {memory : SubscriberKind → List UInt8} {freed : ℕ → Subscriber}
  {machine next : AgpsObjects}
  {notice : NotificationPtr} {address : ℕ} {addresses : List ℕ}

def Grows (machine next : AgpsObjects) : Prop := machine.stale <+: next.stale

theorem Grows.refl (machine : AgpsObjects) : machine.Grows machine := prefix_rfl

variable {last : AgpsObjects} {receiver : ReceiverPtr}

theorem Grows.trans (first : machine.Grows next) (second : next.Grows last) :
    machine.Grows last := List.IsPrefix.trans first second

theorem Grows.stale_ne (grows : machine.Grows next) (isStale : machine.stale ≠ []) :
    next.stale ≠ [] := by
  intro isNil
  apply isStale
  apply prefix_nil.mp
  rw [← isNil]
  exact grows

section Grows

variable (memory : SubscriberKind → List UInt8) (freed : ℕ → Subscriber)

theorem grows_use (machine : AgpsObjects) (address : ℕ) : machine.Grows (machine.use address) := by
  simp only [use, Grows]
  split
  · exact prefix_rfl
  · exact prefix_append _ _

theorem grows_usePtr (machine : AgpsObjects) (ptr : SubscriberPtr) :
    machine.Grows (machine.usePtr ptr) := by
  cases ptr with
  | client _ => exact Grows.refl machine
  | object address => exact grows_use machine address

theorem grows_useReceiver (machine : AgpsObjects) (receiver : ReceiverPtr) :
    machine.Grows (machine.useReceiver receiver) := by
  cases receiver with
  | rcver ptr => exact grows_usePtr machine ptr
  | broadcastAll => exact Grows.refl machine
  | broadcastActive => exact Grows.refl machine
  | broadcastInactive => exact Grows.refl machine

theorem grows_forMe (machine : AgpsObjects) (ptr : SubscriberPtr) (notice : NotificationPtr) :
    machine.Grows (machine.forMe memory freed ptr notice).2 :=
  (grows_usePtr machine ptr).trans (grows_useReceiver _ notice.receiver)

theorem forMe_grows_notifyRsrcStatus (machine : AgpsObjects) (ptr : SubscriberPtr)
    (notice : NotificationPtr) :
    (machine.forMe memory freed ptr notice).2.Grows
      (machine.notifyRsrcStatus memory freed ptr notice).2 := by
  simp only [notifyRsrcStatus]
  split
  · rename_i used isUsed
    rw [isUsed]
    split
    · exact Grows.refl used
    · exact Grows.refl used
  · rename_i used isUsed
    rw [isUsed]
    exact Grows.refl used

theorem grows_notifyRsrcStatus (machine : AgpsObjects) (ptr : SubscriberPtr)
    (notice : NotificationPtr) :
    machine.Grows (machine.notifyRsrcStatus memory freed ptr notice).2 :=
  (grows_forMe memory freed machine ptr notice).trans
    (forMe_grows_notifyRsrcStatus memory freed machine ptr notice)

theorem grows_notifySubscriber (machine : AgpsObjects) (notice : NotificationPtr)
    (ptr : SubscriberPtr) :
    machine.Grows (machine.notifySubscriber memory freed notice ptr).2 :=
  grows_notifyRsrcStatus memory freed machine ptr notice

theorem grows_searchHas (receiver : ReceiverPtr) (addresses : List ℕ) (machine : AgpsObjects) :
    machine.Grows (searchHas memory freed receiver addresses machine).2 := by
  induction addresses generalizing machine with
  | nil => exact Grows.refl machine
  | cons address rest ih =>
      have grows := grows_forMe memory freed machine (.object address)
        ⟨receiver, .statusMax, false⟩
      simp only [searchHas]
      split
      · rename_i used isUsed
        rw [isUsed] at grows
        exact grows
      · rename_i used isUsed
        rw [isUsed] at grows
        exact grows.trans (ih used)

theorem grows_searchNotify (notice : NotificationPtr) (addresses : List ℕ)
    (machine : AgpsObjects) :
    machine.Grows (searchNotify memory freed notice addresses machine).2 := by
  induction addresses generalizing machine with
  | nil => exact Grows.refl machine
  | cons address rest ih =>
      have grows := grows_notifySubscriber memory freed machine notice
        (.object address)
      simp only [searchNotify]
      split
      · rename_i used isUsed
        rw [isUsed] at grows
        exact grows
      · rename_i used isUsed
        rw [isUsed] at grows
        exact grows.trans (ih used)

theorem grows_notifyLoop (notice : NotificationPtr) (rounds : ℕ) (machine : AgpsObjects) :
    machine.Grows (notifyLoop memory freed notice rounds machine) := by
  induction rounds generalizing machine with
  | zero => exact Grows.refl machine
  | succ rounds ih =>
      have grows := grows_searchNotify memory freed notice
        machine.mSubscribers machine
      simp only [notifyLoop]
      split
      · rename_i used isUsed
        rw [isUsed] at grows
        exact grows
      · rename_i subscriber left used isUsed
        rw [isUsed] at grows
        exact grows.trans (ih ({ used with mSubscribers := left }.delete subscriber))

theorem grows_sendRsrcRequest (machine : AgpsObjects) (send : AgpsStateMachine.SendRsrcRequest)
    (action : AGpsStatusValue) :
    machine.Grows (machine.sendRsrcRequest memory freed send action).2 := by
  have grows := grows_searchHas memory freed .broadcastActive
    machine.mSubscribers machine
  simp only [sendRsrcRequest]
  apply grows.trans
  cases (searchHas memory freed .broadcastActive machine.mSubscribers machine).1 with
  | none => exact Grows.refl _
  | some active => exact grows_use _ active

end Grows

theorem read_of_live (live : machine.deletions address = 0) :
    machine.read freed address = machine.objects address := if_pos live

theorem use_of_live (live : machine.deletions address = 0) : machine.use address = machine :=
  if_pos live

theorem use_of_deleted (deleted : machine.deletions address ≠ 0) :
    (machine.use address).stale ≠ [] := by
  simp [use, deleted]

def Live (machine : AgpsObjects) (addresses : List ℕ) : Prop :=
  ∀ address ∈ addresses, machine.deletions address = 0

def LiveReceiver (machine : AgpsObjects) : ReceiverPtr → Prop
  | .rcver (.object address) => machine.deletions address = 0
  | _ => True

theorem useReceiver_of_live (live : machine.LiveReceiver receiver) :
    machine.useReceiver receiver = machine := by
  cases receiver with
  | rcver ptr =>
      cases ptr with
      | client _ => rfl
      | object address => exact use_of_live live
  | broadcastAll => rfl
  | broadcastActive => rfl
  | broadcastInactive => rfl

def takes (memory : SubscriberKind → List UInt8) (freed : ℕ → Subscriber) (machine : AgpsObjects)
    (notice : NotificationPtr) (address : ℕ) : Bool :=
  (machine.objects address).forMe memory (machine.notification freed notice)

theorem forMe_of_live (live : machine.deletions address = 0)
    (liveReceiver : machine.LiveReceiver notice.receiver) :
    machine.forMe memory freed (.object address) notice =
      (machine.takes memory freed notice address, machine) := by
  simp only [forMe, deref, read_of_live live, usePtr, use_of_live live,
    useReceiver_of_live liveReceiver, takes]

theorem searchHas_of_live (live : machine.Live addresses)
    (liveReceiver : machine.LiveReceiver receiver) :
    searchHas memory freed receiver addresses machine =
      (addresses.find? (machine.takes memory freed ⟨receiver, .statusMax, false⟩), machine) := by
  induction addresses with
  | nil => rfl
  | cons address rest ih =>
      have forMe : machine.forMe memory freed (.object address) ⟨receiver, .statusMax, false⟩ =
          (machine.takes memory freed ⟨receiver, .statusMax, false⟩ address, machine) :=
        forMe_of_live (live address mem_cons_self) liveReceiver
      simp only [searchHas, forMe, find?_cons]
      cases machine.takes memory freed ⟨receiver, .statusMax, false⟩ address with
      | true => rfl
      | false => exact ih fun other mem => live other (mem_cons_of_mem _ mem)

def informAll (status : AgpsRsrcStatus) (subscribers : List Subscriber) (machine : AgpsObjects) :
    AgpsObjects :=
  subscribers.foldl
    (fun machine subscriber =>
      machine.inform subscriber status ((subscriber.statusMessage status).getD none))
    machine

structure SameMemory (machine next : AgpsObjects) : Prop where
  subscribers : next.mSubscribers = machine.mSubscribers
  allocated : next.allocated = machine.allocated
  objects : next.objects = machine.objects
  deletions : next.deletions = machine.deletions
  stale : next.stale = machine.stale

theorem SameMemory.trans (first : machine.SameMemory next)
    (second : next.SameMemory last) : machine.SameMemory last := by
  constructor
  · exact second.subscribers.trans first.subscribers
  · exact second.allocated.trans first.allocated
  · exact second.objects.trans first.objects
  · exact second.deletions.trans first.deletions
  · exact second.stale.trans first.stale

theorem sameMemory_informAll (status : AgpsRsrcStatus) (subscribers : List Subscriber)
    (machine : AgpsObjects) : machine.SameMemory (informAll status subscribers machine) := by
  induction subscribers generalizing machine with
  | nil => exact ⟨rfl, rfl, rfl, rfl, rfl⟩
  | cons subscriber rest ih =>
      have first : machine.SameMemory
          (machine.inform subscriber status ((subscriber.statusMessage status).getD none)) :=
        ⟨rfl, rfl, rfl, rfl, rfl⟩
      exact first.trans (ih _)

section

variable (same : machine.SameMemory next)

include same

theorem SameMemory.read :
    next.read freed = machine.read freed := by
  funext address
  simp only [AgpsObjects.read, same.deletions, same.objects]

theorem SameMemory.notification :
    next.notification freed notice = machine.notification freed notice := by
  have receiver : next.receiver freed notice.receiver =
      machine.receiver freed notice.receiver := by
    rcases notice with ⟨receiver, -, -⟩
    cases receiver with
    | rcver ptr =>
        cases ptr with
        | client _ => rfl
        | object address => simp only [AgpsObjects.receiver, deref, same.read]
    | broadcastAll => rfl
    | broadcastActive => rfl
    | broadcastInactive => rfl
  simp only [AgpsObjects.notification, receiver]

theorem SameMemory.takes :
    next.takes memory freed notice = machine.takes memory freed notice := by
  funext address
  simp only [AgpsObjects.takes, same.objects, same.notification]

theorem SameMemory.live (live : machine.Live addresses) :
    next.Live addresses := by
  intro address mem
  rw [same.deletions]
  exact live address mem

theorem SameMemory.liveReceiver {receiver : ReceiverPtr}
    (live : machine.LiveReceiver receiver) : next.LiveReceiver receiver := by
  cases receiver with
  | rcver ptr =>
      cases ptr with
      | client _ => trivial
      | object address =>
          simp only [LiveReceiver, same.deletions] at live ⊢
          exact live
  | broadcastAll => trivial
  | broadcastActive => trivial
  | broadcastInactive => trivial

end

section Notify

variable (known : Known notice.rsrcStatus) (live : machine.Live addresses)
  (liveReceiver : machine.LiveReceiver notice.receiver)

include known liveReceiver

theorem notifySubscriber_of_live (memory : SubscriberKind → List UInt8) (freed : ℕ → Subscriber)
    (live : machine.deletions address = 0) :
    machine.notifySubscriber memory freed notice (.object address) =
      if machine.takes memory freed notice address then
        (notice.postNotifyDelete, informAll notice.rsrcStatus [machine.objects address] machine)
      else (false, machine) := by
  have forMe : machine.forMe memory freed (.object address) notice =
      (machine.takes memory freed notice address, machine) := forMe_of_live live liveReceiver
  rcases statusMessage_isSome (machine.objects address) known with ⟨message, isMessage⟩
  simp only [notifySubscriber, notifyRsrcStatus, deref, read_of_live live, forMe]
  cases machine.takes memory freed notice address with
  | true => simp [isMessage, informAll]
  | false => simp

include live

theorem searchNotify_keep (keep : notice.postNotifyDelete = false) :
    searchNotify memory freed notice addresses machine =
      (none, informAll notice.rsrcStatus
        ((addresses.filter (machine.takes memory freed notice)).map machine.objects) machine) := by
  induction addresses generalizing machine with
  | nil => rfl
  | cons address rest ih =>
      have told := notifySubscriber_of_live known liveReceiver memory freed
        (live address mem_cons_self)
      have liveRest : machine.Live rest := fun other mem => live other (mem_cons_of_mem _ mem)
      simp only [searchNotify, told, keep]
      cases forIt : machine.takes memory freed notice address with
      | true =>
          have same := sameMemory_informAll notice.rsrcStatus [machine.objects address] machine
          simp only [if_true, filter_cons_of_pos forIt, map_cons]
          rw [ih (same.live liveRest) (same.liveReceiver liveReceiver), same.takes, same.objects]
          rfl
      | false =>
          have notForIt : ¬machine.takes memory freed notice address = true := by simp [forIt]
          simp only [Bool.false_eq_true, if_false, filter_cons_of_neg notForIt]
          rw [ih liveRest liveReceiver]
          rfl

theorem searchNotify_delete (delete : notice.postNotifyDelete = true) :
    searchNotify memory freed notice addresses machine =
      match addresses.find? (machine.takes memory freed notice) with
      | none => (none, machine)
      | some address =>
          (some (address, addresses.eraseP (machine.takes memory freed notice)),
            informAll notice.rsrcStatus [machine.objects address] machine) := by
  induction addresses with
  | nil => rfl
  | cons address rest ih =>
      have told := notifySubscriber_of_live known liveReceiver memory freed
        (live address mem_cons_self)
      have liveRest : machine.Live rest := fun other mem => live other (mem_cons_of_mem _ mem)
      simp only [searchNotify, told, delete]
      cases forIt : machine.takes memory freed notice address with
      | true => simp [forIt]
      | false =>
          have notForIt : ¬machine.takes memory freed notice address = true := by simp [forIt]
          simp only [Bool.false_eq_true, if_false, find?_cons_of_neg notForIt,
            eraseP_cons_of_neg notForIt, ih liveRest]
          split <;> rfl

end Notify

def dropAll (memory : SubscriberKind → List UInt8) (freed : ℕ → Subscriber) (machine : AgpsObjects)
    (notice : NotificationPtr) : AgpsObjects :=
  { informAll notice.rsrcStatus
      ((machine.mSubscribers.filter (machine.takes memory freed notice)).map machine.objects)
      machine with
    mSubscribers := machine.mSubscribers.filter (!machine.takes memory freed notice ·)
    deletions := fun address =>
      if address ∈ machine.mSubscribers.filter (machine.takes memory freed notice) then 1
      else machine.deletions address }

/-- The receiver of a notification is none of the objects, or the last one of the list, and all of
them are taken for it. -/
def Lasts (memory : SubscriberKind → List UInt8) (freed : ℕ → Subscriber) (machine : AgpsObjects)
    (notice : NotificationPtr) : Prop :=
  ∀ entry, notice.receiver = .rcver (.object entry) →
    (∀ other ∈ machine.mSubscribers, machine.takes memory freed notice other = true) ∧
      machine.mSubscribers.getLast? = some entry

theorem notifyLoop_nil (isNil : machine.mSubscribers = []) (rounds : ℕ) :
    notifyLoop memory freed notice rounds machine = machine := by
  cases rounds with
  | zero => rfl
  | succ rounds => simp only [notifyLoop, isNil, searchNotify]

theorem takes_congr (objects : next.objects = machine.objects)
    (receiver : ∀ entry, notice.receiver = .rcver (.object entry) →
      next.read freed entry = machine.read freed entry) :
    next.takes memory freed notice = machine.takes memory freed notice := by
  have sameNotice : next.notification freed notice = machine.notification freed notice := by
    rcases notice with ⟨ptr, status, delete⟩
    simp only [notification]
    cases ptr with
    | rcver ptr =>
        cases ptr with
        | client _ => rfl
        | object entry => simp only [AgpsObjects.receiver, deref, receiver entry rfl]
    | broadcastAll => rfl
    | broadcastActive => rfl
    | broadcastInactive => rfl
  funext address
  simp only [takes, objects, sameNotice]

def afterRound (status : AgpsRsrcStatus) (left : List ℕ) (entry : ℕ) (machine : AgpsObjects) :
    AgpsObjects :=
  { informAll status [machine.objects entry] machine with mSubscribers := left }.delete entry

theorem liveReceiver_of_lasts (live : machine.Live machine.mSubscribers)
    (lasts : machine.Lasts memory freed notice) : machine.LiveReceiver notice.receiver := by
  cases receiver : notice.receiver with
  | rcver ptr =>
      cases ptr with
      | client _ => trivial
      | object entry => exact live entry (mem_of_getLast? (lasts entry receiver).2)
  | broadcastAll => trivial
  | broadcastActive => trivial
  | broadcastInactive => trivial

variable {entry : ℕ}

section

variable (status : AgpsRsrcStatus)

include status

theorem live_afterRound
    (live : machine.Live machine.mSubscribers) (nodup : machine.mSubscribers.Nodup)
    {p : ℕ → Bool} (found : machine.mSubscribers.find? p = some entry) :
    (machine.afterRound status (machine.mSubscribers.eraseP p) entry).Live
        (machine.mSubscribers.eraseP p) ∧
      entry ∉ machine.mSubscribers.eraseP p := by
  rcases find?_eq_some_iff_append.mp found with ⟨holds, before, after, split, others⟩
  have erased : machine.mSubscribers.eraseP p = before ++ after := by
    rw [split, eraseP_append_right _ fun other mem => by simpa using others other mem,
      eraseP_cons_of_pos holds]
  have gone : entry ∉ before ++ after := by
    rw [split] at nodup
    exact (nodup_cons.mp (perm_middle.nodup_iff.mp nodup)).1
  rw [erased]
  refine ⟨?_, gone⟩
  intro other mem
  have isOther : other ≠ entry := fun isEntry => gone (isEntry ▸ mem)
  have isLive := live other (by
    rw [split]
    rw [mem_append] at mem
    simp [mem.elim Or.inl fun isAfter => Or.inr (Or.inr isAfter)])
  have same := (sameMemory_informAll status [machine.objects entry] machine).deletions
  simp only [afterRound, delete, same, Function.update_of_ne isOther, isLive]

theorem informAll_withList (subscribers : List Subscriber)
    (machine : AgpsObjects) (left : List ℕ) (deletions : ℕ → ℕ) :
    informAll status subscribers { machine with mSubscribers := left, deletions := deletions } =
      { informAll status subscribers machine with
        mSubscribers := left, deletions := deletions } := by
  induction subscribers generalizing machine with
  | nil => rfl
  | cons subscriber rest ih =>
      simp only [informAll, foldl_cons] at ih ⊢
      rw [← ih]
      rfl

@[simp]
theorem afterRound_mSubscribers (left : List ℕ) (entry : ℕ) :
    (machine.afterRound status left entry).mSubscribers = left := rfl

theorem afterRound_objects (left : List ℕ) (entry : ℕ) :
    (machine.afterRound status left entry).objects = machine.objects :=
  (sameMemory_informAll status [machine.objects entry] machine).objects

theorem afterRound_deletions (left : List ℕ) (entry : ℕ) :
    (machine.afterRound status left entry).deletions =
      Function.update machine.deletions entry (machine.deletions entry + 1) := by
  have same := (sameMemory_informAll status [machine.objects entry] machine).deletions
  simp only [afterRound, delete, same]

theorem afterRound_takes {left : List ℕ} (gone : entry ∉ left)
    (isLast : ∀ last, notice.receiver = .rcver (.object last) → last ∈ left) :
    (machine.afterRound status left entry).takes memory freed notice =
      machine.takes memory freed notice := by
  apply takes_congr (afterRound_objects status left entry)
  intro last receiver
  have differs : last ≠ entry := fun isEntry => gone (isEntry ▸ isLast last receiver)
  simp only [read, afterRound_objects, afterRound_deletions, Function.update_of_ne differs]

end

theorem dropAll_afterRound (notDeleted : machine.deletions entry = 0)
    (found : machine.mSubscribers.find? (machine.takes memory freed notice) = some entry)
    (gone : entry ∉ machine.mSubscribers.eraseP (machine.takes memory freed notice))
    (takes : machine.mSubscribers.eraseP (machine.takes memory freed notice) ≠ [] →
      (machine.afterRound notice.rsrcStatus
        (machine.mSubscribers.eraseP (machine.takes memory freed notice)) entry).takes memory freed
          notice = machine.takes memory freed notice) :
    (machine.afterRound notice.rsrcStatus
        (machine.mSubscribers.eraseP (machine.takes memory freed notice)) entry).dropAll memory
          freed notice = machine.dropAll memory freed notice := by
  rcases AgpsStateMachine.filter_of_find? found with ⟨forIt, others⟩
  generalize leftEq : machine.mSubscribers.eraseP (machine.takes memory freed notice) = left
    at gone takes forIt others ⊢
  have sameFilter : ∀ change : Bool → Bool,
      left.filter (fun other => change ((machine.afterRound notice.rsrcStatus left entry).takes
        memory freed notice other)) =
        left.filter (fun other => change (machine.takes memory freed notice other)) := by
    intro change
    by_cases isNil : left = []
    · simp [isNil]
    · rw [takes isNil]
  have kept := sameFilter (!·)
  have dropped : left.filter
      ((machine.afterRound notice.rsrcStatus left entry).takes memory freed notice) =
      left.filter (machine.takes memory freed notice) := sameFilter fun taken => taken
  have deletions : (fun address =>
      if address ∈ left.filter (machine.takes memory freed notice) then 1
      else Function.update machine.deletions entry (machine.deletions entry + 1) address) =
      fun address =>
        if address ∈ entry :: left.filter (machine.takes memory freed notice) then 1
        else machine.deletions address := by
    funext address
    by_cases isEntry : address = entry
    · subst isEntry
      simp [gone, notDeleted]
    · simp [isEntry]
  simp only [dropAll, afterRound_mSubscribers, kept, others, forIt, dropped, afterRound_objects,
    afterRound_deletions, deletions, map_cons]
  have told := informAll_withList notice.rsrcStatus
    ((left.filter (machine.takes memory freed notice)).map machine.objects)
    (informAll notice.rsrcStatus [machine.objects entry] machine) left
    (Function.update (informAll notice.rsrcStatus [machine.objects entry] machine).deletions entry
      ((informAll notice.rsrcStatus [machine.objects entry] machine).deletions entry + 1))
  simp only [afterRound, delete]
  rw [told]
  rfl

theorem notifyLoop_succ (known : Known notice.rsrcStatus)
    (delete : notice.postNotifyDelete = true) (live : machine.Live machine.mSubscribers)
    (liveReceiver : machine.LiveReceiver notice.receiver) (rounds : ℕ)
    (found : machine.mSubscribers.find? (machine.takes memory freed notice) = some entry) :
    notifyLoop memory freed notice (rounds + 1) machine =
      notifyLoop memory freed notice rounds (machine.afterRound notice.rsrcStatus
          (machine.mSubscribers.eraseP (machine.takes memory freed notice)) entry) := by
  rw [notifyLoop, searchNotify_delete known live liveReceiver delete, found]
  rfl

theorem notifyLoop_eq (known : Known notice.rsrcStatus) (delete : notice.postNotifyDelete = true)
    (rounds : ℕ) (enough : machine.mSubscribers.length ≤ rounds)
    (live : machine.Live machine.mSubscribers) (nodup : machine.mSubscribers.Nodup)
    (lasts : machine.mSubscribers ≠ [] → machine.Lasts memory freed notice) :
    notifyLoop memory freed notice rounds machine = machine.dropAll memory freed notice := by
  induction rounds generalizing machine with
  | zero =>
      have isNil : machine.mSubscribers = [] := eq_nil_of_length_eq_zero (by omega)
      rw [notifyLoop_nil isNil]
      rcases machine with ⟨_, _, subscribers, _⟩
      simp only at isNil
      subst isNil
      simp [dropAll, informAll]
  | succ rounds ih =>
      by_cases isNil : machine.mSubscribers = []
      · rw [notifyLoop_nil isNil]
        rcases machine with ⟨_, _, subscribers, _⟩
        simp only at isNil
        subst isNil
        simp [dropAll, informAll]
      have lasts := lasts isNil
      have liveReceiver := liveReceiver_of_lasts live lasts
      cases found : machine.mSubscribers.find? (machine.takes memory freed notice) with
      | none =>
          rw [notifyLoop, searchNotify_delete known live liveReceiver delete, found]
          have none := find?_eq_none.mp found
          have noneFor : machine.mSubscribers.filter (machine.takes memory freed notice) = [] :=
            filter_eq_nil_iff.mpr none
          have all : machine.mSubscribers.filter (!machine.takes memory freed notice ·) =
              machine.mSubscribers :=
            filter_eq_self.mpr fun other mem => by simpa using none other mem
          simp [dropAll, noneFor, all, informAll]
      | some entry =>
          rcases live_afterRound notice.rsrcStatus live nodup found with
            ⟨liveLeft, gone⟩
          have mem := mem_of_find?_eq_some found
          have shorter := length_eraseP_of_mem mem (find?_some found)
          -- the receiver is found in the last round only
          have lastLeft : machine.mSubscribers.eraseP (machine.takes memory freed notice) ≠ [] →
              ∀ last, notice.receiver = .rcver (.object last) →
                (machine.mSubscribers.eraseP (machine.takes memory freed notice)).getLast? =
                  some last := by
            intro notNil last receiver
            rcases lasts last receiver with ⟨all, isLast⟩
            cases list : machine.mSubscribers with
            | nil => exact absurd list isNil
            | cons first rest =>
                have isFirst := all first (by rw [list]; exact mem_cons_self)
                rw [list, eraseP_cons_of_pos isFirst] at notNil
                rw [eraseP_cons_of_pos isFirst]
                rw [list, getLast?_cons] at isLast
                rw [getLast?_eq_some_getLast notNil] at isLast ⊢
                simpa using isLast
          have takes : machine.mSubscribers.eraseP (machine.takes memory freed notice) ≠ [] →
              (machine.afterRound notice.rsrcStatus
                (machine.mSubscribers.eraseP (machine.takes memory freed notice)) entry).takes
                  memory freed notice = machine.takes memory freed notice := by
            intro notNil
            apply afterRound_takes notice.rsrcStatus gone
            intro last receiver
            exact mem_of_getLast? (lastLeft notNil last receiver)
          rw [notifyLoop_succ known delete live liveReceiver rounds found, ih]
          · exact dropAll_afterRound (live entry mem) found gone takes
          · rw [afterRound_mSubscribers]
            omega
          · exact liveLeft
          · exact nodup.sublist eraseP_sublist
          · intro notNil last receiver
            refine ⟨?_, lastLeft notNil last receiver⟩
            intro other isOther
            rw [takes notNil]
            exact (lasts last receiver).1 other (mem_of_mem_eraseP isOther)

theorem searchNotify_stale (memory : SubscriberKind → List UInt8) (freed : ℕ → Subscriber)
     (receiver : notice.receiver = .rcver (.object entry))
    (deleted : machine.deletions entry ≠ 0) (notNil : addresses ≠ []) :
    (searchNotify memory freed notice addresses machine).2.stale ≠ [] := by
  cases addresses with
  | nil => exact absurd rfl notNil
  | cons first rest =>
      have used : (machine.forMe memory freed (.object first) notice).2.stale ≠ [] := by
        simp only [forMe, usePtr, receiver, useReceiver]
        have stillDeleted : (machine.use first).deletions entry ≠ 0 := by
          simp only [use]
          split <;> exact deleted
        exact use_of_deleted stillDeleted
      have told := (forMe_grows_notifyRsrcStatus memory freed machine
        (.object first) notice).stale_ne used
      simp only [searchNotify, notifySubscriber]
      split
      · rename_i next isNext
        simp only [Prod.mk.injEq] at isNext
        rw [← isNext.2]
        exact told
      · rename_i next isNext
        simp only [Prod.mk.injEq] at isNext
        apply (grows_searchNotify memory freed notice rest next).stale_ne
        rw [← isNext.2]
        exact told

theorem takes_self (receiver : notice.receiver = .rcver (.object entry))
    (live : machine.deletions entry = 0) :
    machine.takes memory freed notice entry = true := by
  simp only [takes, notification, receiver, AgpsObjects.receiver, deref, read_of_live live,
    Subscriber.forMe, equals_self]

theorem notifyLoop_stale (known : Known notice.rsrcStatus)
    (delete : notice.postNotifyDelete = true) (rounds : ℕ)
    (enough : machine.mSubscribers.length ≤ rounds) (live : machine.Live machine.mSubscribers)
    (nodup : machine.mSubscribers.Nodup)
    (receiver : notice.receiver = .rcver (.object entry)) (mem : entry ∈ machine.mSubscribers)
    (notLasts : ¬machine.Lasts memory freed notice) :
    (notifyLoop memory freed notice rounds machine).stale ≠ [] := by
  induction rounds generalizing machine with
  | zero =>
      have positive := length_pos_of_mem mem
      omega
  | succ rounds ih =>
      have liveReceiver : machine.LiveReceiver notice.receiver := by
        rw [receiver]
        exact live entry mem
      have self : machine.takes memory freed notice entry = true :=
        takes_self receiver (live entry mem)
      have someFound : (machine.mSubscribers.find? (machine.takes memory freed notice)).isSome :=
        find?_isSome.mpr ⟨entry, mem, self⟩
      rcases Option.isSome_iff_exists.mp someFound with ⟨first, found⟩
      rcases live_afterRound notice.rsrcStatus live nodup found with ⟨liveLeft, gone⟩
      rw [notifyLoop_succ known delete live liveReceiver rounds found]
      have isFound := mem_of_find?_eq_some found
      have shorter := length_eraseP_of_mem isFound (find?_some found)
      by_cases isEntry : first = entry
      · subst isEntry
        have notNil : machine.mSubscribers.eraseP (machine.takes memory freed notice) ≠ [] := by
          intro isNil
          rw [isNil, length_nil] at shorter
          rcases length_eq_one_iff.mp (show machine.mSubscribers.length = 1 by
            have positive := length_pos_of_mem mem
            omega) with ⟨only, list⟩
          rw [list, mem_singleton] at mem
          subst mem
          apply notLasts
          intro last isLast
          rw [receiver] at isLast
          cases isLast
          rw [list]
          refine ⟨?_, rfl⟩
          intro other isOther
          rw [mem_singleton] at isOther
          rw [isOther]
          exact self
        have someLeft := length_pos_iff.mpr notNil
        rcases rounds with - | rounds
        · omega
        · have deleted : (machine.afterRound notice.rsrcStatus
              (machine.mSubscribers.eraseP (machine.takes memory freed notice)) first).deletions
                first ≠ 0 := by
            simp [afterRound_deletions]
          have compared := searchNotify_stale memory freed receiver deleted notNil
          simp only [notifyLoop, afterRound_mSubscribers]
          split
          · rename_i next isNext
            rw [isNext] at compared
            exact compared
          · rename_i subscriber left next isNext
            rw [isNext] at compared
            exact (grows_notifyLoop memory freed notice rounds _).stale_ne compared
      · rcases find?_eq_some_iff_append.mp found with ⟨holds, before, after, split, others⟩
        have erased : machine.mSubscribers.eraseP (machine.takes memory freed notice) =
            before ++ after := by
          rw [split, eraseP_append_right _ fun other mem => by simpa using others other mem,
            eraseP_cons_of_pos holds]
        have isAfter : entry ∈ after := by
          rw [split, mem_append, mem_cons] at mem
          rcases mem with isBefore | isFirst | isAfter
          · simpa [self] using others entry isBefore
          · exact absurd isFirst.symm isEntry
          · exact isAfter
        have takes : (machine.afterRound notice.rsrcStatus
            (machine.mSubscribers.eraseP (machine.takes memory freed notice)) first).takes memory
              freed notice = machine.takes memory freed notice := by
          apply afterRound_takes notice.rsrcStatus gone
          intro last isLast
          rw [receiver] at isLast
          cases isLast
          rw [erased]
          exact mem_append_right before isAfter
        apply ih
        · rw [afterRound_mSubscribers]
          omega
        · exact liveLeft
        · exact nodup.sublist eraseP_sublist
        · rw [afterRound_mSubscribers, erased]
          exact mem_append_right before isAfter
        · intro lasts
          apply notLasts
          intro last isLast
          rcases lasts last isLast with ⟨all, isEnd⟩
          rw [takes, afterRound_mSubscribers, erased] at all
          rw [afterRound_mSubscribers, erased] at isEnd
          refine ⟨?_, ?_⟩
          · intro other isOther
            rw [split, mem_append, mem_cons] at isOther
            rcases isOther with isBefore | isFirst | isAfter
            · exact all other (mem_append_left after isBefore)
            · rw [isFirst]
              exact holds
            · exact all other (mem_append_right before isAfter)
          · have notNil : after ≠ [] := ne_nil_of_mem isAfter
            rw [split]
            rw [getLast?_append_of_ne_nil _ notNil] at isEnd
            rw [getLast?_append_of_ne_nil _ (by simp), getLast?_cons]
            rw [getLast?_eq_some_getLast notNil] at isEnd ⊢
            simpa using isEnd

end AgpsObjects

end HtcPme.Gps
