/-
# The service that owns a station

Clients, peers and devices post to the service's queue, and the service takes
one item at a time: a post of the station's mailbox, or the oldest item of the
queue. A request is answered when it is handled. The queue has room for a
fixed number of items; who posts to a full queue waits for room. After every
item the station's view is published as the status.

A shutdown ends the service. Requests that are still queued then are answered
as dropped, and everything posted later as stopped.

Key definitions: `Request`, `Event`, `Service`, `Service.post`,
`Service.seat?`, `Service.takeEvent?`, `Service.takePost?`, `Service.step?`.
-/
import PointerShare.Station.Working

namespace PointerShare

/-- What clients ask for. -/
inductive Request where
  | enable (on : Bool)
  | start (target : NetworkId) (device : DeviceId)
  | stop
  | isEnabled (id : NetworkId)
  | judge (event : PointerEvent)
  | subscribe (tag : String)
  | unsubscribe (id : Nat)
  deriving DecidableEq, Repr

/-- What a client is answered. -/
inductive Response where
  | accepted
  | refused (refusal : Refusal)
  | flag (b : Bool)
  | verdict (v : Verdict)
  | subscription (id : Nat)
  deriving DecidableEq, Repr

namespace Response

/-- The response to a request without a result of its own. -/
def ofAnswer : Answer → Response
  | .ok _ => accepted
  | .error refusal => refused refusal

/-- The request was not handled. -/
def unavailable (outage : Outage) : Response := refused (.unavailable outage)

end Response

/-- An item of the queue. Only a request waits for an answer. -/
inductive Event where
  | request (request : Request)
  | deviceOffline (id : NetworkId)
  | keyboardOnline (dhid : Dhid)
  | signal (signal : PeerSignal)
  | switchChanged (id : NetworkId) (on : Bool)
  | shutdown
  deriving DecidableEq, Repr

def Event.isRequest : Event → Bool
  | request _ => true
  | _ => false

/-- An item with the number under which it is answered. -/
structure Item where
  ticket : Nat
  event : Event
  deriving DecidableEq, Repr

structure Service where
  station : Station
  queue : List Item
  /-- Items whose posters wait for room in the queue. -/
  waiting : List Item
  /-- How many items were ever posted. -/
  issued : Nat
  responses : List (Nat × Response)
  /-- The view published last. -/
  status : View
  running : Bool
  deriving DecidableEq, Repr

namespace Station

/-- Handles a client's request. -/
def serve (s : Station) : Request → Response × Station
  | .enable on => let (a, s) := s.enable on; (.ofAnswer a, s)
  | .start target device => let (a, s) := s.start target device; (.ofAnswer a, s)
  | .stop => let (a, s) := s.stop; (.ofAnswer a, s)
  | .isEnabled id => (.flag (s.isEnabled id), s)
  | .judge event => let (v, s) := s.judge event; (.verdict v, s)
  | .subscribe tag =>
    let (id, notifier) := s.notifier.subscribe tag .channel
    (.subscription id, { s with notifier := notifier })
  | .unsubscribe id =>
    let (found, notifier) := s.notifier.unsubscribe id
    (.flag found, { s with notifier := notifier })

/-- Handles an item that is not the end of the service. -/
def handle (s : Station) : Event → Option Response × Station
  | .request r => let (response, s) := s.serve r; (some response, s)
  | .deviceOffline id => (none, s.peerOffline id)
  | .keyboardOnline dhid => (none, s.keyboardOnline dhid)
  | .signal signal => (none, s.hear signal)
  | .switchChanged id on => (none, s.switchChanged id on)
  | .shutdown => (none, s)

end Station

namespace Service

/-- A running service, whose outbox is worked by itself. -/
def create (settings : Settings) (registry : Registry) : Service :=
  let s := Station.create settings registry
  let s := { s with outbox := s.outbox.runWorker }
  ⟨s, [], [], 0, [], s.view, true⟩

def respond (v : Service) (ticket : Nat) (r : Response) : Service :=
  { v with responses := v.responses ++ [(ticket, r)] }

/-- The answer to an item, once there is one. -/
def response? (v : Service) (ticket : Nat) : Option Response :=
  (v.responses.find? fun p => p.1 == ticket).map (·.2)

/-- Puts an item into the queue. Whoever does not wait for an answer has it now. -/
def enqueue (v : Service) (item : Item) : Service :=
  let v := { v with queue := v.queue ++ [item] }
  if item.event.isRequest then v else v.respond item.ticket .accepted

/-- Whoever posts now need not wait: there is room besides that for those who wait already. -/
def hasRoom (v : Service) : Bool := v.queue.length + v.waiting.length < v.station.capacity

/-- Posts an item, and gives the number under which it will be answered. -/
def post (v : Service) (event : Event) : Nat × Service :=
  let item : Item := ⟨v.issued + 1, event⟩
  let v := { v with issued := v.issued + 1 }
  (item.ticket,
    if !v.running then v.respond item.ticket (.unavailable .stopped)
    else if v.hasRoom then v.enqueue item
    else { v with waiting := v.waiting ++ [item] })

/-- Posts an item that is lost when it would have to wait. -/
def offer (v : Service) (event : Event) : Service :=
  if v.running && v.hasRoom then (v.post event).2 else v

/-- Lets the waiting poster at place `k` in. Room goes to those who wait longest, but of those who
have got it any may come first. -/
def seat? (v : Service) (k : Nat) : Option Service :=
  if v.queue.length + k < v.station.capacity then
    v.waiting[k]?.map fun item => { v with waiting := v.waiting.eraseIdx k }.enqueue item
  else none

/-- Lets waiting posters in, one after the other, at most `n`. -/
def seatUpTo : Nat → Service → Service
  | 0, v => v
  | n + 1, v => match v.seat? 0 with
    | none => v
    | some v => seatUpTo n v

/-- Lets as many waiting posters in as there is room for. -/
def letIn (v : Service) : Service := seatUpTo v.station.capacity v

def publishStatus (v : Service) : Service := { v with status := v.station.view }

/-- The service ends. The station lets go of everything, nothing reaches its mailbox any more, and
whoever still waits is told so. -/
def finish (v : Service) : Service :=
  let s := v.station.shutdown
  let s := { s.setMailbox s.gateway.mailbox.close with
    outbox := s.outbox.dropSender, changes := [], capacity := 0 }
  let dropped := (v.queue.filter fun i => i.event.isRequest).map fun i =>
    (i.ticket, Response.unavailable .dropped)
  let stopped := v.waiting.map fun i => (i.ticket, Response.unavailable .stopped)
  { v with
    station := s, queue := [], waiting := [], running := false
    responses := v.responses ++ dropped ++ stopped }.publishStatus

/-- Handles one item. -/
def dispatch (v : Service) (item : Item) : Service :=
  if item.event = .shutdown then v.finish
  else
    let (response, station) := v.station.handle item.event
    let v := { v with station := station }
    let v := match response with
      | none => v
      | some r => v.respond item.ticket r
    v.publishStatus

/-- Takes the oldest item of the queue. -/
def takeEvent? (v : Service) : Option Service :=
  if !v.running then none
  else match v.queue with
    | item :: rest => some ({ v with queue := rest }.dispatch item)
    | [] => if v.waiting.isEmpty then none else some v.letIn

/-- Takes the oldest post of the station's mailbox. -/
def takePost? (v : Service) : Option Service :=
  if !v.running then none
  else (Station.clockwork.feed? v.station).map fun (_, station) =>
    { v with station := station }.publishStatus

/-- Lets the alarms go off that are due. -/
def ringDue? (v : Service) : Option Service :=
  if v.running && !v.station.gateway.mailbox.due.isEmpty then
    some { v with station := Station.clockwork.ring v.station }
  else none

/-- The next thing the service does: posts come first, and alarms go off when nothing else is
left to do. -/
def step? (v : Service) : Option Service := v.takePost? <|> v.takeEvent? <|> v.ringDue?

/-- Switch changes that the station heard are queued like everything else, unless the queue is
full. -/
def queueChanges (v : Service) : Service :=
  v.station.changes.foldl (fun v c => v.offer (.switchChanged c.1 c.2))
    { v with station := { v.station with changes := [] } }

/-- Does one thing after the other, at most `n`. -/
def stepUpTo : Nat → Service → Service
  | 0, v => v
  | n + 1, v => match v.step? with
    | none => v
    | some v => stepUpTo n v

/-- A bound on the things a service has to do before the clock must run on. -/
def limit (v : Service) : Nat :=
  (v.queue.length + v.waiting.length + 1) * (Station.clockwork.limit v.station + 64)

/-- Does everything there is to do at this moment, and tells peers as far as they are reached at
this moment. -/
def rest (v : Service) : Service :=
  let v := v.queueChanges
  let v := stepUpTo v.limit v
  { v with station := { v.station with
    outbox := v.station.outbox.workUntil v.station.now v.station.now } }

end Service

end PointerShare
