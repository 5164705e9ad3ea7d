/-
# A station and what it works with

A station is one device of the network that takes part in cooperation: its
role, the transition that is under way, the link it holds, and the services it
works with. Nothing about a remote call is settled at once. Each call carries
a continuation, which says what to do when the call has ended.

A transition is a start or a stop. While one is under way the guard is busy:
either the station itself started it, or a peer announced it, and then the
peer is noted in `announcer`.

Key definitions: `Guard`, `StartPlan`, `Continuation`, `Station`, `Station.view`,
`Station.participates`.
-/
import PointerShare.CrossingSwitch
import PointerShare.Cursor
import PointerShare.Gateway
import PointerShare.Notifier
import PointerShare.Outbox
import PointerShare.PointerEvent
import PointerShare.Refusal
import PointerShare.Registry

namespace PointerShare

/-- The transition under way, if any. -/
structure Guard where
  isStarting : Bool
  isStopping : Bool
  deriving DecidableEq, Repr

namespace Guard

def idle : Guard := ⟨false, false⟩

def starting : Guard := ⟨true, false⟩

def stopping : Guard := ⟨false, true⟩

def isBusy (g : Guard) : Bool := g.isStarting || g.isStopping

@[simp] theorem isBusy_idle : idle.isBusy = false := rfl

theorem isBusy_eq_false_iff {g : Guard} : g.isBusy = false ↔ g = idle := by
  rcases g with ⟨a, b⟩
  cases a <;> cases b <;> decide

end Guard

/-- What a start carries along its remote calls. -/
structure StartPlan where
  target : NetworkId
  device : DeviceId
  /-- The station that hosts the shared pointer. -/
  src : NetworkId
  /-- The devices to share, once they are known. -/
  dhids : List Dhid
  /-- A consumed pointer is handed on: the link it came by is stopped after the start. -/
  relays : Bool
  deriving DecidableEq, Repr

/-- What to do when a remote call has ended. -/
inductive Continuation where
  /-- Start sharing over the prepared link. -/
  | prepared (plan : StartPlan)
  /-- End the start, or stop the link a handed-on pointer came by. -/
  | started (plan : StartPlan)
  /-- End the start of a handed-on pointer. -/
  | originStopped (plan : StartPlan)
  /-- End the start that gave a consumed pointer back. -/
  | cameBack (target : NetworkId) (device : DeviceId)
  /-- End the stop. -/
  | stopped (peer : NetworkId)
  /-- Nothing; the call took back half of a relay. -/
  | relayRolledBack (target : NetworkId)
  /-- Nothing. -/
  | unprepared (link : Link)
  /-- Nothing; the keyboard joined the session or did not. -/
  | keyboardAdded (dhid : Dhid)
  deriving DecidableEq, Repr

/-- The call is a step of a transition. -/
def Continuation.isTransition : Continuation → Bool
  | prepared _ | started _ | originStopped _ | cameBack _ _ | stopped _ => true
  | relayRolledBack _ | unprepared _ | keyboardAdded _ => false

/-- What a station is set up with. -/
structure Settings where
  queueDepth : Nat
  timeout : Nat
  retries : Nat
  notifyTimeout : Nat
  /-- Where the cursor goes when a session ends. -/
  defaultLocation : Location
  deriving DecidableEq, Repr

structure Station where
  role : Role
  guard : Guard
  link : Link
  /-- The other end of the session. -/
  sessionPeer : Option NetworkId
  /-- The peer whose announcement made the guard busy. -/
  announcer : Option NetworkId
  /-- Where the cursor was when the last start was accepted. -/
  startLocation : Location
  defaultLocation : Location
  /-- The keys held down on the relayed keyboard, in order. -/
  relayedKeys : List UInt32
  /-- The peer whose crossing switch is listened to. -/
  watched : Option NetworkId
  gateway : Gateway Continuation
  notifier : Notifier
  outbox : Outbox
  registry : Registry
  cursor : Cursor
  crossing : CrossingSwitch Unit
  /-- The switch changes heard and not yet handled, at most `capacity`. -/
  changes : List (NetworkId × Bool)
  capacity : Nat
  deriving DecidableEq, Repr

/-- What the outside sees of a station. -/
structure View where
  role : Role
  guard : Guard
  link : Link
  sessionPeer : Option NetworkId
  /-- The station's own crossing switch. -/
  enabled : Bool
  relayedKeys : List UInt32
  pendingCalls : Nat
  deriving DecidableEq, Repr

namespace Station

/-- A free station. -/
def create (settings : Settings) (registry : Registry) : Station where
  role := .free
  guard := .idle
  link := .none
  sessionPeer := none
  announcer := none
  startLocation := .center
  defaultLocation := settings.defaultLocation
  relayedKeys := []
  watched := none
  gateway := .empty settings.timeout settings.retries
  notifier := .empty
  outbox := .empty settings.notifyTimeout
  registry := registry
  cursor := .fresh
  crossing := .fresh
  changes := []
  capacity := max settings.queueDepth 1

/-- The station's own name. -/
def home (s : Station) : NetworkId := s.registry.home

def view (s : Station) : View where
  role := s.role
  guard := s.guard
  link := s.link
  sessionPeer := s.sessionPeer
  enabled := s.crossing.isOn s.home
  relayedKeys := s.relayedKeys
  pendingCalls := s.gateway.tracker.pendingCount

/-- The clock, in milliseconds. -/
def now (s : Station) : Nat := s.gateway.mailbox.now

/-! ### Telling others -/

def publish (s : Station) (message : Message) (peer : NetworkId) : Station :=
  { s with notifier := (s.notifier.publish (.of message peer)).2 }

def publishFailed (s : Station) (message : Message) (peer : NetworkId) (reason : Reason) : Station :=
  { s with notifier := (s.notifier.publish (.failed message peer reason)).2 }

def send (s : Station) (d : Dispatch) : Station := { s with outbox := s.outbox.send d }

/-- Tells the target how a start ended. -/
def sendStartResult (s : Station) (target : NetworkId) (success : Bool) (dhid : Dhid) : Station :=
  s.send (.startResult target success dhid s.startLocation)

/-! ### Remote calls -/

def callPrepare (s : Station) (src sink : NetworkId) (next : Continuation) : Station :=
  { s with gateway := (s.gateway.prepare src sink next).2 }

def callUnprepare (s : Station) (src sink : NetworkId) (next : Continuation) : Station :=
  { s with gateway := (s.gateway.unprepare src sink next).2 }

def callStart (s : Station) (src sink : NetworkId) (dhids : List Dhid) (next : Continuation) :
    Station :=
  { s with gateway := (s.gateway.start src sink dhids next).2 }

def callStop (s : Station) (src sink : NetworkId) (dhids : List Dhid) (next : Continuation) :
    Station :=
  { s with gateway := (s.gateway.stop src sink dhids next).2 }

def cancelCalls (s : Station) : Station := { s with gateway := s.gateway.cancelAll.2 }

/-! ### The session -/

/-- `id` is the other end of the session. -/
def participates (s : Station) (id : NetworkId) : Bool :=
  match s.role with
  | .free => false
  | .outbound _ => s.sessionPeer == some id || (s.link.isPrepared && s.link.sink == id)
  | .inbound shared => s.registry.originOfDhid? shared == some id || s.sessionPeer == some id

/-- The station that hosts a consumed pointer, as far as it is known. -/
def originOf? (s : Station) (shared : Dhid) : Option NetworkId :=
  s.registry.originOfDhid? shared <|> s.sessionPeer

/-- The hardware ids that travel with a shared pointer; itself when its device is not known. -/
def dhidsOfShared (s : Station) (shared : Dhid) : List Dhid :=
  match s.registry.deviceOf? shared with
  | none => [shared]
  | some device =>
    if (s.registry.shareable device).isEmpty then [shared] else s.registry.shareable device

/-- Takes up a role. Relay events are subscribed to while outbound, and no key counts as held
when that ends. -/
def setRole (s : Station) (next : Role) : Station :=
  if s.role = next then s
  else if s.role.isOutbound && !next.isOutbound then
    { s with role := next, relayedKeys := [], gateway := s.gateway.unsubscribe.2 }
  else if !s.role.isOutbound && next.isOutbound then
    { s with role := next, gateway := s.gateway.subscribe.2 }
  else { s with role := next }

/-- Listens to a peer's crossing switch, if the switch lets it. -/
def watch (s : Station) (peer : NetworkId) : Station :=
  match s.crossing.register peer () with
  | .ok crossing => { s with crossing := crossing, watched := some peer }
  | .error _ => s

/-- Stops listening; the peer counts as not listened to even when the switch keeps the listener. -/
def unwatch (s : Station) : Station :=
  match s.watched with
  | none => s
  | some peer =>
    { s with
      watched := none
      crossing := (s.crossing.unregister peer).toOption.getD s.crossing }

def beginSession (s : Station) (peer : NetworkId) : Station :=
  { s.unwatch.watch peer with sessionPeer := some peer }

def endSession (s : Station) : Station := { s.unwatch with sessionPeer := none }

/-- Gives up the link, if there is one. -/
def unprepare (s : Station) (peer : NetworkId) : Station :=
  if s.link.isPrepared then
    ({ s with link := .none }.callUnprepare s.link.src s.link.sink (.unprepared s.link)).publish
      .close peer
  else s

/-! ### The cursor -/

def hideCursor (s : Station) : Station := { s with cursor := s.cursor.hide }

def showCursorAt (s : Station) (l : Location) : Station := { s with cursor := s.cursor.put true l }

/-- The cursor is visible only with a pointer of the station's own, and goes to its usual place. -/
def resetCursor (s : Station) : Station :=
  { s with cursor := s.cursor.put s.registry.hasLocalPointer s.defaultLocation }

end Station

end PointerShare
