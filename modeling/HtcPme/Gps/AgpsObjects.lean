import HtcPme.Gps.AgpsRun
import HtcPme.Gps.DsStateMachine

/-!
# The subscriber objects of an AgpsStateMachine

The list holds pointers to the clones of the subscribers. The machine runs on these objects, and
records how often each is deleted and what is used after that.
-/

namespace HtcPme.Gps

/-- A `Subscriber *`: to the subscriber of a client, or to an object that was cloned from one. -/
inductive SubscriberPtr where
  | client (subscriber : Subscriber)
  | object (address : ℕ)
deriving DecidableEq

inductive ReceiverPtr where
  | rcver (ptr : SubscriberPtr)
  | broadcastAll
  | broadcastActive
  | broadcastInactive
deriving DecidableEq

structure NotificationPtr where
  receiver : ReceiverPtr
  rsrcStatus : AgpsRsrcStatus
  postNotifyDelete : Bool
deriving DecidableEq

/-- An `AgpsStateMachine` whose list holds pointers, and the objects: what they were given, how
often each was deleted, and which were used after that. -/
structure AgpsObjects where
  mEnforceSingleSubscriber : Bool
  mStatePtr : AgpsState
  mSubscribers : List ℕ
  mRetries : UInt8
  timers : ℕ
  messages : List ClientMessage
  notified : List (Subscriber × AgpsRsrcStatus)
  requests : List (AGpsStatusValue × Option Subscriber)
  allocated : ℕ
  objects : ℕ → Subscriber
  deletions : ℕ → ℕ
  stale : List ℕ

namespace AgpsObjects

variable (memory : SubscriberKind → List UInt8) (freed : ℕ → Subscriber) (machine : AgpsObjects)

def new (enforceSingleSubscriber : Bool) : AgpsObjects :=
  { mEnforceSingleSubscriber := enforceSingleSubscriber
    mStatePtr := .released
    mSubscribers := []
    mRetries := 0
    timers := 0
    messages := []
    notified := []
    requests := []
    allocated := 0
    objects := fun _ => ⟨0, .ds, false⟩
    deletions := fun _ => 0
    stale := [] }

/-- What an object reads as, where `freed` is what is in its place once it was deleted. -/
def read (address : ℕ) : Subscriber :=
  if machine.deletions address = 0 then machine.objects address else freed address

def use (address : ℕ) : AgpsObjects :=
  if machine.deletions address = 0 then machine
  else { machine with stale := machine.stale ++ [address] }

def delete (address : ℕ) : AgpsObjects :=
  { machine with
    deletions := Function.update machine.deletions address (machine.deletions address + 1) }

def deref : SubscriberPtr → Subscriber
  | .client subscriber => subscriber
  | .object address => machine.read freed address

def usePtr : SubscriberPtr → AgpsObjects
  | .client _ => machine
  | .object address => machine.use address

def receiver : ReceiverPtr → Receiver
  | .rcver ptr => .rcver (machine.deref freed ptr)
  | .broadcastAll => .broadcastAll
  | .broadcastActive => .broadcastActive
  | .broadcastInactive => .broadcastInactive

def useReceiver : ReceiverPtr → AgpsObjects
  | .rcver ptr => machine.usePtr ptr
  | .broadcastAll | .broadcastActive | .broadcastInactive => machine

def notification (notification : NotificationPtr) : Notification :=
  ⟨machine.receiver freed notification.receiver, notification.rsrcStatus,
    notification.postNotifyDelete⟩

def view : AgpsStateMachine :=
  { mEnforceSingleSubscriber := machine.mEnforceSingleSubscriber
    mStatePtr := machine.mStatePtr
    mSubscribers := machine.mSubscribers.map (machine.read freed)
    mRetries := machine.mRetries
    timers := machine.timers
    messages := machine.messages
    notified := machine.notified
    requests := machine.requests }

/-- `Subscriber::forMe`: the subscriber is used, and the receiver that it is compared with. -/
def forMe (ptr : SubscriberPtr) (notice : NotificationPtr) : Bool × AgpsObjects :=
  ((machine.deref freed ptr).forMe memory (machine.notification freed notice),
    (machine.usePtr ptr).useReceiver notice.receiver)

/-- What `notifyRsrcStatus` does when it takes a status. -/
def inform (subscriber : Subscriber) (status : AgpsRsrcStatus) (message : Option ClientMessage) :
    AgpsObjects :=
  { machine with
    mRetries := if subscriber.kind = .ds ∧ status = .denied then 0 else machine.mRetries
    messages := machine.messages ++ message.toList
    notified := machine.notified ++ [(subscriber, status)] }

def notifyRsrcStatus (ptr : SubscriberPtr) (notice : NotificationPtr) : Bool × AgpsObjects :=
  let subscriber := machine.deref freed ptr
  match machine.forMe memory freed ptr notice with
  | (true, machine) =>
      match subscriber.statusMessage notice.rsrcStatus with
      | some message => (true, machine.inform subscriber notice.rsrcStatus message)
      | none => (false, machine)
  | (false, machine) => (false, machine)

def notifySubscriber (notice : NotificationPtr) (ptr : SubscriberPtr) : Bool × AgpsObjects :=
  let (taken, next) := machine.notifyRsrcStatus memory freed ptr notice
  (taken && notice.postNotifyDelete, next)

def searchHas (receiver : ReceiverPtr) : List ℕ → AgpsObjects → Option ℕ × AgpsObjects
  | [], machine => (none, machine)
  | address :: rest, machine =>
      match machine.forMe memory freed (.object address) ⟨receiver, .statusMax, false⟩ with
      | (true, machine) => (some address, machine)
      | (false, machine) => searchHas receiver rest machine

/-- `linked_list_search` with `notifySubscriber`: the subscriber that was found, and the list
without it. -/
def searchNotify (notice : NotificationPtr) :
    List ℕ → AgpsObjects → Option (ℕ × List ℕ) × AgpsObjects
  | [], machine => (none, machine)
  | address :: rest, machine =>
      match machine.notifySubscriber memory freed notice (.object address) with
      | (true, machine) => (some (address, rest), machine)
      | (false, machine) =>
          let (found, machine) := searchNotify notice rest machine
          (found.map fun found => (found.1, address :: found.2), machine)

/-- The loop of `notifySubscribers`, which deletes a subscriber in every round but the last. -/
def notifyLoop (notice : NotificationPtr) : ℕ → AgpsObjects → AgpsObjects
  | 0, machine => machine
  | rounds + 1, machine =>
      match searchNotify memory freed notice machine.mSubscribers machine with
      | (none, machine) => machine
      | (some (subscriber, left), machine) =>
          notifyLoop notice rounds ({ machine with mSubscribers := left }.delete subscriber)

def notifySubscribers (notice : NotificationPtr) : AgpsObjects :=
  if notice.postNotifyDelete then
    notifyLoop memory freed notice machine.mSubscribers.length machine
  else (searchNotify memory freed notice machine.mSubscribers machine).2

def hasSubscribers : Bool := !machine.mSubscribers.isEmpty

def hasActiveSubscribers : Bool × AgpsObjects :=
  let (active, machine) := searchHas memory freed .broadcastActive machine.mSubscribers machine
  (active.isSome, machine)

def addSubscriber (subscriber : Subscriber) : AgpsObjects :=
  match searchHas memory freed (.rcver (.client subscriber)) machine.mSubscribers machine with
  | (some _, machine) => machine
  | (none, machine) =>
      { machine with
        mSubscribers := machine.allocated :: machine.mSubscribers
        allocated := machine.allocated + 1
        objects := Function.update machine.objects machine.allocated subscriber.clone }

/-- `setInactive`; a data service subscriber also informs its machine. -/
def setInactive (address : ℕ) : AgpsObjects :=
  let entry := machine.read freed address
  { machine.use address with
    objects := Function.update machine.objects address { entry with mIsInactive := true }
    messages :=
      machine.messages ++ if entry.kind = .ds then [.atlCloseStatus entry.id] else [] }

variable (send : AgpsStateMachine.SendRsrcRequest)

/-- `sendRsrcRequest`, which is virtual: it finds the first active subscriber and reads it, and does
to the machine what it does. -/
def sendRsrcRequest (action : AGpsStatusValue) : Bool × AgpsObjects :=
  let (active, machine) := searchHas memory freed .broadcastActive machine.mSubscribers machine
  let (sent, next) := send action (machine.view freed)
  (sent, { active.elim machine machine.use with
    mRetries := next.mRetries
    timers := next.timers
    messages := next.messages
    requests := next.requests })

inductive RsrcEvent where
  | subscribe (subscriber : Subscriber)
  | unsubscribe (address : ℕ)
  | granted
  | released
  | denied
deriving DecidableEq

def releasedOnRsrcEvent : RsrcEvent → AgpsObjects
  | .subscribe subscriber =>
      let (sent, next) :=
        (machine.addSubscriber memory freed subscriber).sendRsrcRequest memory freed send
          .requestAgpsDataConn
      if sent then { next with mStatePtr := .pending } else next
  | .unsubscribe address =>
      (machine.notifyRsrcStatus memory freed (.object address)
        ⟨.rcver (.object address), .unsubscribe, false⟩).2
  | .granted | .released | .denied => machine

def leave (address : ℕ) : AgpsObjects :=
  if (machine.read freed address).waitForCloseComplete then
    (machine.use address).setInactive freed address
  else
    (machine.use address).notifySubscribers memory freed
      ⟨.rcver (.object address), .unsubscribe, true⟩

def unsubscribe (address : ℕ) : AgpsObjects :=
  let next := machine.leave memory freed address
  if !next.hasSubscribers then
    { (next.sendRsrcRequest memory freed send .releaseAgpsDataConn).2 with mStatePtr := .released }
  else
    match next.hasActiveSubscribers memory freed with
    | (true, next) => next
    | (false, next) =>
        { (next.sendRsrcRequest memory freed send .releaseAgpsDataConn).2 with
          mStatePtr := .releasing }

def pendingOnRsrcEvent : RsrcEvent → AgpsObjects
  | .subscribe subscriber => machine.addSubscriber memory freed subscriber
  | .unsubscribe address => machine.unsubscribe memory freed send address
  | .granted =>
      { machine.notifySubscribers memory freed ⟨.broadcastActive, .granted, false⟩ with
        mStatePtr := .acquired }
  | .released => machine
  | .denied =>
      { machine.notifySubscribers memory freed ⟨.broadcastAll, .denied, true⟩ with
        mStatePtr := .released }

def acquiredOnRsrcEvent : RsrcEvent → AgpsObjects
  | .subscribe subscriber =>
      (machine.notifyRsrcStatus memory freed (.client subscriber)
        ⟨.rcver (.client subscriber), .granted, false⟩).2.addSubscriber memory freed subscriber
  | .unsubscribe address => machine.unsubscribe memory freed send address
  | .granted | .denied => machine
  | .released =>
      { machine.notifySubscribers memory freed ⟨.broadcastAll, .released, true⟩ with
        mStatePtr := .released }

/-- What `AgpsReleasingState` does when the interface is closed. -/
def closed (status : AgpsRsrcStatus) : AgpsObjects :=
  let next := machine.notifySubscribers memory freed ⟨.broadcastInactive, status, true⟩
  match next.hasActiveSubscribers memory freed with
  | (true, next) =>
      { (next.sendRsrcRequest memory freed send .requestAgpsDataConn).2 with mStatePtr := .pending }
  | (false, next) => { next with mStatePtr := .released }

def releasingOnRsrcEvent : RsrcEvent → AgpsObjects
  | .subscribe subscriber => machine.addSubscriber memory freed subscriber
  | .unsubscribe address =>
      let next := machine.leave memory freed address
      if !next.hasSubscribers then { next with mStatePtr := .released } else next
  | .denied => machine.closed memory freed send .denied
  | .released => machine.closed memory freed send .released
  | .granted => machine

def stateOnRsrcEvent (event : RsrcEvent) : AgpsObjects :=
  match machine.mStatePtr with
  | .released => machine.releasedOnRsrcEvent memory freed send event
  | .pending => machine.pendingOnRsrcEvent memory freed send event
  | .acquired => machine.acquiredOnRsrcEvent memory freed send event
  | .releasing => machine.releasingOnRsrcEvent memory freed send event

def subscribeRsrc (subscriber : Subscriber) : AgpsObjects :=
  if machine.mEnforceSingleSubscriber && machine.hasSubscribers then
    (machine.notifySubscriber memory freed ⟨.broadcastAll, .denied, true⟩ (.client subscriber)).2
  else machine.stateOnRsrcEvent memory freed send (.subscribe subscriber)

def unsubscribeRsrc (subscriber : Subscriber) : AgpsObjects :=
  match searchHas memory freed (.rcver (.client subscriber)) machine.mSubscribers machine with
  | (some address, machine) => machine.stateOnRsrcEvent memory freed send (.unsubscribe address)
  | (none, machine) => machine

/-- `DSStateMachine::retryCallback`, which reads the ID of the first active subscriber. -/
def retryCallback : AgpsObjects :=
  let (active, machine) := searchHas memory freed .broadcastActive machine.mSubscribers machine
  active.elim machine machine.use

def fresh : AgpsObjects := { machine with messages := [], notified := [], requests := [] }

/-- What drives a machine, with the `sendRsrcRequest` of its class. -/
inductive Call where
  | agps (call : AgpsStateMachine.Call) (send : AgpsStateMachine.SendRsrcRequest)
  | retryCallback

def call : Call → AgpsObjects
  | .agps (.subscribeRsrc subscriber) send =>
      machine.fresh.subscribeRsrc memory freed send subscriber
  | .agps (.unsubscribeRsrc subscriber) send =>
      machine.fresh.unsubscribeRsrc memory freed send subscriber
  | .agps .granted send => machine.fresh.stateOnRsrcEvent memory freed send .granted
  | .agps .released send => machine.fresh.stateOnRsrcEvent memory freed send .released
  | .agps .denied send => machine.fresh.stateOnRsrcEvent memory freed send .denied
  | .retryCallback => machine.retryCallback memory freed

end AgpsObjects

end HtcPme.Gps
