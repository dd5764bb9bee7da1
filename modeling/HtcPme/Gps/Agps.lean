import Mathlib.Data.List.Pairwise
import Mathlib.Tactic.Common

/-!
# loc_eng_agps

The state machine of a network interface for assisted GPS. Some kinds of subscribers stay in the
list, inactive, until the interface is closed.
-/

namespace HtcPme.Gps

inductive AgpsRsrcStatus where
  | subscribe
  | unsubscribe
  | granted
  | released
  | denied
  | statusMax
deriving DecidableEq

inductive AGpsStatusValue where
  | requestAgpsDataConn
  | releaseAgpsDataConn
deriving DecidableEq

inductive SubscriberKind where
  | bit (mIPv6Addr : List UInt8)
  | atl (mBackwardCompatibleMode : Bool)
  | wifi (mSSID mPassword : Option String)
  | ds
deriving DecidableEq

/-- `Subscriber`. The `senderId` of a `WIFISubscriber` is its ID. -/
structure Subscriber where
  id : UInt32
  kind : SubscriberKind
  mIsInactive : Bool
deriving DecidableEq

inductive Receiver where
  | rcver (subscriber : Subscriber)
  | broadcastAll
  | broadcastActive
  | broadcastInactive
deriving DecidableEq

structure Notification where
  receiver : Receiver
  rsrcStatus : AgpsRsrcStatus
  postNotifyDelete : Bool
deriving DecidableEq

/-- What a subscriber tells its client, or a data service subscriber the adapter. -/
inductive ClientMessage where
  /-- `loc_eng_dmn_conn_loc_api_server_data_conn`; `none` for the GpsOne daemon. -/
  | releaseSuccess (senderId : Option UInt32)
  | failure (senderId : Option UInt32)
  | requestSuccess (senderId : Option UInt32)
  | atlCloseStatus (handle : UInt32)
  /-- With the APN and bearer of the machine or without, and with its type or `AGPS_TYPE_INVALID`.
  -/
  | atlOpenStatus (handle : UInt32) (isSucc withApn withType : Bool)
  | requestATL (handle : UInt32)
  | closeDataCall
deriving DecidableEq

inductive AgpsState where
  | released
  | pending
  | acquired
  | releasing
deriving DecidableEq

namespace Subscriber

def inaddrNone : UInt32 := 0xFFFFFFFF

/-- `strncmp` of two addresses says that they are equal. -/
def sameString (one other : List UInt8) : Bool :=
  one.takeWhile (· ≠ 0) == other.takeWhile (· ≠ 0)

/-- What a `BITSubscriber` reads as the address of another subscriber, which need not be one:
`memory` is what the other kinds have in this place. -/
def ipv6Read (memory : SubscriberKind → List UInt8) (subscriber : Subscriber) : List UInt8 :=
  match subscriber.kind with
  | .bit mIPv6Addr => mIPv6Addr
  | kind => memory kind

variable (memory : SubscriberKind → List UInt8) (subscriber other : Subscriber)

def equals : Bool :=
  match subscriber.kind with
  | .bit mIPv6Addr => subscriber.id == other.id &&
      (subscriber.id != inaddrNone || sameString mIPv6Addr (other.ipv6Read memory))
  | _ => subscriber.id == other.id

def waitForCloseComplete : Bool :=
  match subscriber.kind with
  | .bit _ | .atl _ => false
  | .wifi _ _ | .ds => true

def isInactive : Bool :=
  match subscriber.kind with
  | .bit _ | .atl _ => false
  | .wifi _ _ | .ds => subscriber.mIsInactive

def clone : Subscriber := { subscriber with mIsInactive := false }

def forMe (notification : Notification) : Bool :=
  match notification.receiver with
  | .rcver rcver => subscriber.equals memory rcver
  | .broadcastAll => true
  | .broadcastActive => !subscriber.isInactive
  | .broadcastInactive => subscriber.isInactive

/-- What `notifyRsrcStatus` sends for a status that it knows. -/
def statusMessage : AgpsRsrcStatus → Option (Option ClientMessage)
  | .unsubscribe =>
      match subscriber.kind with
      | .bit _ => some (some (.releaseSuccess none))
      | .atl _ | .ds => some (some (.atlCloseStatus subscriber.id))
      | .wifi _ _ => some none
  | .released =>
      match subscriber.kind with
      | .bit _ => some (some (.releaseSuccess none))
      | .atl _ => some (some (.atlCloseStatus subscriber.id))
      | .wifi _ _ => some (some (.releaseSuccess (some subscriber.id)))
      | .ds => some (some .closeDataCall)
  | .denied =>
      match subscriber.kind with
      | .bit _ => some (some (.failure none))
      | .atl mBackwardCompatibleMode =>
          some (some (.atlOpenStatus subscriber.id false true !mBackwardCompatibleMode))
      | .wifi _ _ => some (some (.failure (some subscriber.id)))
      | .ds => some (some (.requestATL subscriber.id))
  | .granted =>
      match subscriber.kind with
      | .bit _ => some (some (.requestSuccess none))
      | .atl mBackwardCompatibleMode =>
          some (some (.atlOpenStatus subscriber.id true true !mBackwardCompatibleMode))
      | .wifi _ _ => some (some (.requestSuccess (some subscriber.id)))
      | .ds => some (some (.atlOpenStatus subscriber.id true false false))
  | .subscribe | .statusMax => none

end Subscriber

/-- `AgpsStateMachine`, with the fields of `DSStateMachine`. The last four are what one call does:
messages, notifications, requests, and the retry timers that run. -/
structure AgpsStateMachine where
  mEnforceSingleSubscriber : Bool
  mStatePtr : AgpsState
  mSubscribers : List Subscriber
  mRetries : UInt8
  timers : ℕ
  messages : List ClientMessage
  notified : List (Subscriber × AgpsRsrcStatus)
  requests : List (AGpsStatusValue × Option Subscriber)
deriving DecidableEq

namespace AgpsStateMachine

variable (memory : SubscriberKind → List UInt8) (machine : AgpsStateMachine)

def new (enforceSingleSubscriber : Bool) : AgpsStateMachine :=
  ⟨enforceSingleSubscriber, .released, [], 0, 0, [], [], []⟩

def hasSubscribers : Bool := !machine.mSubscribers.isEmpty

/-- `linked_list_search` with `hasSubscriber` and `BROADCAST_ACTIVE`. -/
def firstActive : Option Subscriber := machine.mSubscribers.find? (!·.isInactive)

def hasActiveSubscribers : Bool := machine.firstActive.isSome

/-- What `notifyRsrcStatus` does when it takes a status: a denial of a data service subscriber
goes through `DSStateMachine::informStatus`, which resets the retries. -/
def inform (subscriber : Subscriber) (status : AgpsRsrcStatus) (message : Option ClientMessage) :
    AgpsStateMachine :=
  { machine with
    mRetries := if subscriber.kind = .ds ∧ status = .denied then 0 else machine.mRetries
    messages := machine.messages ++ message.toList
    notified := machine.notified ++ [(subscriber, status)] }

def notifyRsrcStatus (subscriber : Subscriber) (notification : Notification) :
    Bool × AgpsStateMachine :=
  if subscriber.forMe memory notification then
    match subscriber.statusMessage notification.rsrcStatus with
    | some message => (true, machine.inform subscriber notification.rsrcStatus message)
    | none => (false, machine)
  else (false, machine)

def notifySubscriber (notification : Notification) (subscriber : Subscriber) :
    Bool × AgpsStateMachine :=
  let (taken, next) := machine.notifyRsrcStatus memory subscriber notification
  (taken && notification.postNotifyDelete, next)

/-- `linked_list_search` with `notifySubscriber`: the list without the subscriber that was found. -/
def searchNotify (notification : Notification) :
    List Subscriber → AgpsStateMachine → Option (List Subscriber) × AgpsStateMachine
  | [], machine => (none, machine)
  | subscriber :: rest, machine =>
      match machine.notifySubscriber memory notification subscriber with
      | (true, machine) => (some rest, machine)
      | (false, machine) =>
          let (left, machine) := searchNotify notification rest machine
          (left.map (subscriber :: ·), machine)

/-- The loop of `notifySubscribers`, which deletes a subscriber in every round but the last. A
receiver that was deleted is taken to read as before. -/
def notifyLoop (notification : Notification) : ℕ → AgpsStateMachine → AgpsStateMachine
  | 0, machine => machine
  | rounds + 1, machine =>
      match searchNotify memory notification machine.mSubscribers machine with
      | (none, machine) => machine
      | (some left, machine) =>
          notifyLoop notification rounds { machine with mSubscribers := left }

def notifySubscribers (notification : Notification) : AgpsStateMachine :=
  if notification.postNotifyDelete then
    notifyLoop memory notification machine.mSubscribers.length machine
  else (searchNotify memory notification machine.mSubscribers machine).2

def addSubscriber (subscriber : Subscriber) : AgpsStateMachine :=
  if (machine.mSubscribers.find? fun entry => entry.equals memory subscriber).isSome then machine
  else { machine with mSubscribers := subscriber.clone :: machine.mSubscribers }

def inactivate (subscriber : Subscriber) : List Subscriber → List Subscriber
  | [] => []
  | entry :: rest =>
      if entry.equals memory subscriber then { entry with mIsInactive := true } :: rest
      else entry :: inactivate subscriber rest

/-- `setInactive` of the entry that was found for a subscriber; a data service subscriber also
informs its machine. -/
def setInactive (subscriber entry : Subscriber) : AgpsStateMachine :=
  { machine with
    mSubscribers := inactivate memory subscriber machine.mSubscribers
    messages :=
      machine.messages ++ if entry.kind = .ds then [.atlCloseStatus entry.id] else [] }

inductive RsrcEvent where
  | subscribe (subscriber : Subscriber)
  | unsubscribe (subscriber entry : Subscriber)
  | granted
  | released
  | denied
deriving DecidableEq

/-- `sendRsrcRequest`, which is virtual: whether it returns 0, and what it does. -/
abbrev SendRsrcRequest := AGpsStatusValue → AgpsStateMachine → Bool × AgpsStateMachine

variable (send : SendRsrcRequest)

def releasedOnRsrcEvent : RsrcEvent → AgpsStateMachine
  | .subscribe subscriber =>
      let (sent, next) := send .requestAgpsDataConn (machine.addSubscriber memory subscriber)
      if sent then { next with mStatePtr := .pending } else next
  | .unsubscribe _ entry =>
      (machine.notifyRsrcStatus memory entry ⟨.rcver entry, .unsubscribe, false⟩).2
  | .granted | .released | .denied => machine

def leave (subscriber entry : Subscriber) : AgpsStateMachine :=
  if entry.waitForCloseComplete then machine.setInactive memory subscriber entry
  else machine.notifySubscribers memory ⟨.rcver entry, .unsubscribe, true⟩

def unsubscribe (subscriber entry : Subscriber) : AgpsStateMachine :=
  let next := machine.leave memory subscriber entry
  if !next.hasSubscribers then
    { (send .releaseAgpsDataConn next).2 with mStatePtr := .released }
  else if !next.hasActiveSubscribers then
    { (send .releaseAgpsDataConn next).2 with mStatePtr := .releasing }
  else next

def pendingOnRsrcEvent : RsrcEvent → AgpsStateMachine
  | .subscribe subscriber => machine.addSubscriber memory subscriber
  | .unsubscribe subscriber entry => machine.unsubscribe memory send subscriber entry
  | .granted =>
      { machine.notifySubscribers memory ⟨.broadcastActive, .granted, false⟩ with
        mStatePtr := .acquired }
  | .released => machine
  | .denied =>
      { machine.notifySubscribers memory ⟨.broadcastAll, .denied, true⟩ with
        mStatePtr := .released }

def acquiredOnRsrcEvent : RsrcEvent → AgpsStateMachine
  | .subscribe subscriber =>
      (machine.notifyRsrcStatus memory subscriber
        ⟨.rcver subscriber, .granted, false⟩).2.addSubscriber memory subscriber
  | .unsubscribe subscriber entry => machine.unsubscribe memory send subscriber entry
  | .granted | .denied => machine
  | .released =>
      { machine.notifySubscribers memory ⟨.broadcastAll, .released, true⟩ with
        mStatePtr := .released }

/-- What `AgpsReleasingState` does when the interface is closed. -/
def closed (status : AgpsRsrcStatus) : AgpsStateMachine :=
  let next := machine.notifySubscribers memory ⟨.broadcastInactive, status, true⟩
  if next.hasActiveSubscribers then
    { (send .requestAgpsDataConn next).2 with mStatePtr := .pending }
  else { next with mStatePtr := .released }

def releasingOnRsrcEvent : RsrcEvent → AgpsStateMachine
  | .subscribe subscriber => machine.addSubscriber memory subscriber
  | .unsubscribe subscriber entry =>
      let next := machine.leave memory subscriber entry
      if !next.hasSubscribers then { next with mStatePtr := .released } else next
  | .denied => machine.closed memory send .denied
  | .released => machine.closed memory send .released
  | .granted => machine

def stateOnRsrcEvent (event : RsrcEvent) : AgpsStateMachine :=
  match machine.mStatePtr with
  | .released => machine.releasedOnRsrcEvent memory send event
  | .pending => machine.pendingOnRsrcEvent memory send event
  | .acquired => machine.acquiredOnRsrcEvent memory send event
  | .releasing => machine.releasingOnRsrcEvent memory send event

def subscribeRsrc (subscriber : Subscriber) : AgpsStateMachine :=
  if machine.mEnforceSingleSubscriber && machine.hasSubscribers then
    (machine.notifySubscriber memory ⟨.broadcastAll, .denied, true⟩ subscriber).2
  else machine.stateOnRsrcEvent memory send (.subscribe subscriber)

def unsubscribeRsrc (subscriber : Subscriber) : AgpsStateMachine :=
  match machine.mSubscribers.find? fun entry => entry.equals memory subscriber with
  | some entry => machine.stateOnRsrcEvent memory send (.unsubscribe subscriber entry)
  | none => machine

def sendRsrcRequest : SendRsrcRequest := fun action machine =>
  let subscriber := machine.firstActive
  if subscriber.isNone = decide (action = .releaseAgpsDataConn) then
    (true, { machine with requests := machine.requests ++ [(action, subscriber)] })
  else (true, machine)

inductive Call where
  | subscribeRsrc (subscriber : Subscriber)
  | unsubscribeRsrc (subscriber : Subscriber)
  | granted
  | released
  | denied
deriving DecidableEq

def fresh : AgpsStateMachine := { machine with messages := [], notified := [], requests := [] }

/-- `AgpsStateMachine`'s `subscribeRsrc`, `unsubscribeRsrc` and `onRsrcEvent`. -/
def call : Call → AgpsStateMachine
  | .subscribeRsrc subscriber => machine.fresh.subscribeRsrc memory sendRsrcRequest subscriber
  | .unsubscribeRsrc subscriber => machine.fresh.unsubscribeRsrc memory sendRsrcRequest subscriber
  | .granted => machine.fresh.stateOnRsrcEvent memory sendRsrcRequest .granted
  | .released => machine.fresh.stateOnRsrcEvent memory sendRsrcRequest .released
  | .denied => machine.fresh.stateOnRsrcEvent memory sendRsrcRequest .denied

end AgpsStateMachine

end HtcPme.Gps
