/-
# Telling peers without waiting for them

What a station tells its peers goes through an outbox. One worker takes the
dispatches out in order and makes the calls, one after the other, each within
a budget of time: a call that has not come through when the budget is spent
is given up, and the next one begins. So a slow or silent peer delays the
others, but never keeps them from being told.

The peers' side is a double that records what came through. A call of each
kind comes through at once, after a delay, or never; while peers are
unreachable it fails when it comes through. A script may say otherwise for
each of the calls to come.

Key definitions: `Latency`, `Treatment`, `Peers`, `Peers.treatment`,
`Peers.tell`, `Outbox`, `Outbox.send`, `Outbox.workUntil`, `Outbox.flush`.
-/
import PointerShare.DispatchText
import PointerShare.Fault

namespace PointerShare

/-- How long a call takes to come through, in milliseconds. -/
inductive Latency where
  | after (ms : Nat)
  | never
  deriving DecidableEq, Repr

/-- How one call goes: when it comes through, and whether the peer is there then. -/
structure Treatment where
  latency : Latency
  reachable : Bool
  deriving DecidableEq, Repr

/-- The peers' side: how calls go, and what came through so far, oldest first. -/
structure Peers where
  latencies : List (DispatchKind × Latency)
  unreachable : Bool
  /-- How the calls to come go, in order; after these they go by their kind. -/
  script : List Treatment
  received : List Dispatch
  deriving DecidableEq, Repr

namespace Peers

/-- Peers that are reached at once. -/
def fresh : Peers := ⟨[], false, [], []⟩

def latency (p : Peers) (kind : DispatchKind) : Latency :=
  ((p.latencies.find? fun q => q.1 == kind).map (·.2)).getD (.after 0)

def setLatency (p : Peers) (kind : DispatchKind) (l : Latency) : Peers :=
  { p with latencies := (kind, l) :: p.latencies.filter fun q => q.1 != kind }

/-- How the next call goes, if it carries `d`. -/
def treatment (p : Peers) (d : Dispatch) : Treatment :=
  match p.script with
  | t :: _ => t
  | [] => ⟨p.latency d.kind, !p.unreachable⟩

/-- The next call is over, and left nothing behind. -/
def skip (p : Peers) : Peers := { p with script := p.script.tail }

/-- The next call comes through: it is recorded, unless the peer cannot be reached. -/
def tell (p : Peers) (d : Dispatch) : Peers :=
  if (p.treatment d).reachable then { p.skip with received := p.received ++ [d] } else p.skip

/-- A call that comes through at once, and whether it did. -/
def call (p : Peers) (d : Dispatch) : Except DeviceFault Peers :=
  if (p.treatment d).reachable then .ok (p.tell d) else .error (.peerUnreachable d.text)

end Peers

/-- A call under way: it ends at `ends`, and comes through then or not at all. A call that began
later has a greater `serial`. -/
structure Delivery where
  serial : Nat
  dispatch : Dispatch
  ends : Nat
  comesThrough : Bool
  deriving DecidableEq, Repr

/-- The worker of an outbox. -/
inductive Worker where
  /-- Works when it is told to flush. -/
  | waiting
  /-- Works by itself, as the clock runs. -/
  | running
  | gone
  deriving DecidableEq, Repr

structure Outbox where
  peers : Peers
  /-- The budget of one call, in milliseconds. -/
  budget : Nat
  /-- What waits to be told, oldest first. -/
  queue : List Dispatch
  current : Option Delivery
  /-- The number of the call that begins next. -/
  nextSerial : Nat
  worker : Worker
  /-- The sending half exists. -/
  hasSender : Bool
  deriving DecidableEq, Repr

namespace Outbox

def empty (budget : Nat) : Outbox := ⟨.fresh, budget, [], none, 0, .waiting, true⟩

/-- Puts a dispatch at the end of the queue; without a worker it is lost. -/
def send (o : Outbox) (d : Dispatch) : Outbox :=
  if o.worker = .gone then o else { o with queue := o.queue ++ [d] }

/-- Drops a waiting worker with everything it still had to tell. -/
def dropWorker (o : Outbox) : Outbox :=
  if o.worker = .waiting then { o with queue := [], current := none, worker := .gone } else o

/-- Lets a waiting worker run by itself. -/
def runWorker (o : Outbox) : Outbox :=
  if o.worker = .waiting then { o with worker := .running } else o

def dropSender (o : Outbox) : Outbox := { o with hasSender := false }

/-- The call that begins at `now`: it ends when it comes through or its budget is spent,
whichever is first; at the same time it has come through. -/
def begin (o : Outbox) (now : Nat) (d : Dispatch) : Delivery :=
  match (o.peers.treatment d).latency with
  | .after ms =>
    if ms ≤ o.budget then ⟨o.nextSerial, d, now + ms, true⟩
    else ⟨o.nextSerial, d, now + o.budget, false⟩
  | .never => ⟨o.nextSerial, d, now + o.budget, false⟩

/-- A call ends. -/
def finish (o : Outbox) (d : Delivery) : Outbox :=
  { o with
    current := none
    peers := if d.comesThrough then o.peers.tell d.dispatch else o.peers.skip }

/-- Works off the queue from time `now`, as far as calls end no later than `limit` (without limit
when `none`); gives the time at which the last of them ended. -/
def workThrough (limit : Option Nat) : Nat → List Dispatch → Outbox → Nat × Outbox
  | now, [], o => (now, { o with queue := [] })
  | now, d :: rest, o =>
    let delivery := o.begin now d
    let o := { o with nextSerial := o.nextSerial + 1 }
    if limit.all (delivery.ends ≤ ·) then
      workThrough limit delivery.ends rest (o.finish delivery)
    else (now, { o with queue := rest, current := some delivery })

/-- Works from time `now`, first on the call under way. -/
def work (o : Outbox) (limit : Option Nat) (now : Nat) : Nat × Outbox :=
  match o.current with
  | none => workThrough limit now o.queue o
  | some d =>
    if limit.all (d.ends ≤ ·) then workThrough limit (max now d.ends) o.queue (o.finish d)
    else (now, o)

/-- What a running worker has told by the time `limit`. -/
def workUntil (o : Outbox) (now limit : Nat) : Outbox :=
  if o.worker = .running then (o.work (some limit) now).2 else o

/-- Tells everything that is queued, and gives the time at which this is done. -/
def flush (o : Outbox) (now : Nat) : Nat × Outbox := o.work none now

/-- A running worker has nothing left to do and never will; a worker that does not run by itself
has no end. -/
def isFinished? (o : Outbox) : Option Bool :=
  if o.worker = .running then some (!o.hasSender && o.queue.isEmpty && o.current.isNone) else none

end Outbox

end PointerShare
