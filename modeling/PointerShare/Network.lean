/-
# Stations joined by a network

Several services side by side, under one clock. What one station's peers
receive is heard by the member it is addressed to, if the network is joined;
what a station tells itself is heard by nobody. The clock stands still until
no member has anything left to do.

What happens at the same time happens in a fixed order. Alarms and calls are
numbered throughout the network as they are set and begun. At the time at
which calls end, those that began earlier end earlier, whichever member they
are of; then the members work, those first whose alarms were set first; and
what they told each other is heard in the order in which it was told.

Key definitions: `Network`, `Network.attend`, `Network.rest`,
`Network.advance`.
-/
import PointerShare.Service

namespace PointerShare

structure Network where
  members : List Service
  /-- Dispatches are passed on to the members they are addressed to. -/
  joined : Bool
  /-- What left the members and has not been passed on, oldest first, each with its sender. -/
  told : List (NetworkId × Dispatch)
  /-- The number of the alarm that is set next, and of the call that begins next. -/
  nextSerial : Nat
  deriving DecidableEq, Repr

namespace Service

def home (v : Service) : NetworkId := v.station.home

/-- The dispatches that came through to the peers. -/
def received (v : Service) : List Dispatch := v.station.outbox.peers.received

/-- Numbers the alarms and calls to come from `serial` on. -/
def numberFrom (v : Service) (serial : Nat) : Service :=
  let s := v.station.setMailbox { v.station.gateway.mailbox with nextSerial := serial }
  { v with station := { s with outbox := { s.outbox with nextSerial := serial } } }

/-- The first number that no alarm and no call has. -/
def nextSerial (v : Service) : Nat :=
  max v.station.gateway.mailbox.nextSerial v.station.outbox.nextSerial

/-- The next time at which the clock alone makes something happen. -/
def nextTime? (v : Service) : Option Nat :=
  let alarm := if v.running then v.station.gateway.mailbox.nextDeadline? else none
  match alarm, v.station.outbox.current.map (·.ends) with
  | none, t => t
  | t, none => t
  | some a, some b => some (min a b)

/-- Moves the clock to `t`: alarms that are due go off, and calls to peers that end by then end. -/
def tickTo (v : Service) (t : Nat) : Service :=
  let s := v.station.setMailbox (v.station.gateway.mailbox.setClock t).ring
  { v with station := { s with outbox := s.outbox.workUntil t t } }

/-- The number of the call that ends by `t`. -/
def callDue? (v : Service) (t : Nat) : Option Nat :=
  (v.station.outbox.current.filter fun d => d.ends ≤ t).map (·.serial)

/-- The number of the alarm that was set first among those that go off by `t`. -/
def alarmDue? (v : Service) (t : Nat) : Option Nat :=
  (v.station.gateway.mailbox.setClock t).due.head?.map (·.serial)

/-- A bound on what can happen to a service by itself. -/
def ownLimit (v : Service) : Nat := v.limit + v.station.outbox.queue.length + 1

end Service

namespace Network

/-- Services that have yet to do anything. -/
def create (members : List Service) (joined : Bool) : Network := ⟨members, joined, [], 0⟩

def find? (n : Network) (id : NetworkId) : Option Service := n.members.find? fun v => v.home == id

def homes (n : Network) : List NetworkId := n.members.map Service.home

/-- The member called `id` does `f`. -/
def attend (n : Network) (id : NetworkId) (f : Service → Service) : Network :=
  match n.find? id with
  | none => n
  | some v =>
    let v' := f (v.numberFrom n.nextSerial)
    { n with
      members := n.members.map fun u => if u.home = id then v' else u
      told := n.told ++ (v'.received.drop v.received.length).map fun d => (id, d)
      nextSerial := max n.nextSerial v'.nextSerial }

/-- The members called `ids` do `f`, one after the other. -/
def attendAll (n : Network) (ids : List NetworkId) (f : Service → Service) : Network :=
  ids.foldl (fun n id => n.attend id f) n

/-- The members, those first for which `key` is least, and those last that have none. -/
def inOrder (n : Network) (key : Service → Option Nat) : List NetworkId :=
  let keyed := n.members.filterMap fun v => (key v).map fun k => (k, v.home)
  let unkeyed := n.members.filter fun v => (key v).isNone
  (keyed.mergeSort fun a b => a.1 ≤ b.1).map (·.2) ++ unkeyed.map Service.home

/-- The member that a dispatch is for hears it from its sender. -/
def deliver (n : Network) (sender : NetworkId) (d : Dispatch) : Network :=
  if d.peer = sender then n
  else n.attend d.peer fun v => (v.post (.signal (d.signal sender))).2

/-- Passes on what was told. -/
def passOn (n : Network) : Network :=
  let quiet := { n with told := [] }
  if n.joined then n.told.foldl (fun n p => n.deliver p.1 p.2) quiet else quiet

def limit (n : Network) : Nat := n.members.foldr (fun v k => v.ownLimit + k) 0

/-- The members called `ids` work, then those that were told something, and so on, at most `k`
times. -/
def restUpTo : Nat → List NetworkId → Network → Network
  | 0, _, n => n
  | k + 1, ids, n =>
    let n := n.attendAll ids Service.rest
    if n.told.isEmpty then n else restUpTo k (n.told.map fun p => p.2.peer) n.passOn

/-- Does everything there is to do at this moment; the members called `ids` begin. -/
def restFrom (n : Network) (ids : List NetworkId) : Network := restUpTo (n.limit + 1) ids n

/-- Does everything there is to do at this moment. -/
def rest (n : Network) : Network := n.restFrom n.homes

def nextTime? (n : Network) : Option Nat :=
  n.members.foldl (fun least v => match least, v.nextTime? with
    | none, t => t
    | t, none => t
    | some a, some b => some (min a b)) none

/-- Moves every clock to `t`, and does everything there is to do then. -/
def tickTo (n : Network) (t : Nat) : Network :=
  let atWork := n.inOrder (Service.alarmDue? · t)
  (n.attendAll (n.inOrder (Service.callDue? · t)) (Service.tickTo · t)).restFrom atWork

def advanceUpTo (limit : Nat) : Nat → Network → Network
  | 0, n => n.tickTo limit
  | k + 1, n => match n.nextTime? with
    | none => n.tickTo limit
    | some t => if t ≤ limit then advanceUpTo limit k (n.tickTo t) else n.tickTo limit

/-- Lets the clock, which stands at `now`, run for `ms` milliseconds. -/
def advance (n : Network) (now ms : Nat) : Network := advanceUpTo (now + ms) (4 * n.limit + 64) n

end Network

end PointerShare
