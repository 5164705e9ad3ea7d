/-
# The gateway to the remote input service

The gateway registers each call with its tracker before it issues it, so an
answer always finds the call pending, and a refused call ends like any other:
through a post. It also holds the subscription to relay events. An event that
arrives while nobody is subscribed is dropped.

Key definitions: `Gateway`, `Gateway.issue`, `Gateway.receive`,
`Gateway.subscribe`, `Gateway.unsubscribe`.
-/
import PointerShare.Tracker
import PointerShare.InputService

namespace PointerShare

structure Gateway (κ : Type) where
  tracker : Tracker κ
  service : InputService
  subscribed : Bool
  deriving DecidableEq, Repr

/-- What a post comes to. -/
inductive Arrival (κ : Type) where
  | resolved (call : Resolved κ)
  | relayed (event : RelayEvent)
  deriving DecidableEq, Repr

/-- What is posted of a reaction: the replies, then the refusal. -/
def Reaction.posts (r : Reaction) (call : ServiceCall) : List Post :=
  r.replies.map .reply ++ if r.refuses then [.issueFailed call.kind call.request] else []

namespace Gateway

variable {κ : Type}

def empty (timeout retries : Nat) : Gateway κ := ⟨.empty timeout retries, .fresh, false⟩

def mailbox (g : Gateway κ) : Mailbox := g.tracker.mailbox

def setMailbox (g : Gateway κ) (m : Mailbox) : Gateway κ :=
  { g with tracker := { g.tracker with mailbox := m } }

def post (g : Gateway κ) (p : Post) : Gateway κ := g.setMailbox (g.mailbox.post p)

def postAll (g : Gateway κ) (ps : List Post) : Gateway κ := g.setMailbox (g.mailbox.postAll ps)

/-- Registers a call and issues it; its answers, or its refusal, are only posted. -/
def issue (g : Gateway κ) (kind : CallKind) (args : CallArgs) (completion : κ) :
    RequestId × Gateway κ :=
  let (request, tracker) := g.tracker.register kind args completion
  let call : ServiceCall := ⟨kind, request, args⟩
  (request,
    { g with tracker := tracker, service := g.service.take call }.postAll
      ((g.service.react call).posts call))

def prepare (g : Gateway κ) (src sink : NetworkId) (completion : κ) : RequestId × Gateway κ :=
  g.issue .prepare ⟨src, sink, []⟩ completion

def unprepare (g : Gateway κ) (src sink : NetworkId) (completion : κ) : RequestId × Gateway κ :=
  g.issue .unprepare ⟨src, sink, []⟩ completion

def start (g : Gateway κ) (src sink : NetworkId) (dhids : List Dhid) (completion : κ) :
    RequestId × Gateway κ :=
  g.issue .start ⟨src, sink, dhids⟩ completion

def stop (g : Gateway κ) (src sink : NetworkId) (dhids : List Dhid) (completion : κ) :
    RequestId × Gateway κ :=
  g.issue .stop ⟨src, sink, dhids⟩ completion

/-- Subscribes to relay events; a second subscription is the first one. -/
def subscribe (g : Gateway κ) : Except InputFault Unit × Gateway κ :=
  if g.subscribed then (.ok (), g)
  else match g.service.register with
    | .error fault => (.error fault, g)
    | .ok service => (.ok (), { g with service := service, subscribed := true })

/-- Ends the subscription. It counts as ended even when the service fails to let go of the
listener. -/
def unsubscribe (g : Gateway κ) : Except InputFault Unit × Gateway κ :=
  if !g.subscribed then (.ok (), g)
  else match g.service.unregister with
    | .error fault => (.error fault, { g with subscribed := false })
    | .ok service => (.ok (), { g with service := service, subscribed := false })

/-- A subscription that is not refused. -/
theorem subscribe_eq {g : Gateway κ} (hs : g.subscribed = false)
    (hf : g.service.registerFails = false) (hl : g.service.hasListener = false) :
    g.subscribe.2 =
      { g with service := { g.service with hasListener := true }, subscribed := true } := by
  simp [subscribe, InputService.register, hs, hf, hl]

theorem unsubscribe_eq {g : Gateway κ} (hs : g.subscribed = true)
    (hf : g.service.unregisterFails = false) :
    g.unsubscribe.2 =
      { g with service := { g.service with hasListener := false }, subscribed := false } := by
  simp [unsubscribe, InputService.unregister, hs, hf]

/-- Applies a post. -/
def receive (g : Gateway κ) : Post → Option (Arrival κ) × Gateway κ
  | .relay event => (if g.subscribed then some (.relayed event) else none, g)
  | p =>
    let (resolved, tracker) := g.tracker.apply p
    (resolved.map .resolved, { g with tracker := tracker })

/-- Drops every call without an outcome, and says how many. -/
def cancelAll (g : Gateway κ) : Nat × Gateway κ :=
  let (dropped, tracker) := g.tracker.cancelAll
  (dropped, { g with tracker := tracker })

/-- The service emits a relay event; `false` when nobody listens. -/
def emitRelay (g : Gateway κ) (event : RelayEvent) : Bool × Gateway κ :=
  if g.service.hasListener then (true, g.post (.relay event)) else (false, g)

end Gateway

end PointerShare
