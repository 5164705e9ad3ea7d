/-
# What peers and devices bring about

A station hears from its peers that they start or stop a session with it, and
how that ended; that its shared pointer was handed on; that a peer left the
network or flipped its crossing switch. Only the peer that announced a
transition, or one that takes part in the session, is heard; and while the
station is busy with a transition of its own, no result of a peer's is.

Key definitions: `Station.hear`, `Station.peerOffline`,
`Station.keyboardOnline`, `Station.switchChanged`, `Station.receive`,
`Station.shutdown`.
-/
import PointerShare.Station.Request

namespace PointerShare
namespace Station

/-! ### Signals -/

/-- A peer is about to share its input with this station. -/
def hearStartRequest (s : Station) (sender : NetworkId) : Station :=
  if s.guard.isBusy then s
  else if !s.role.isFree && !s.participates sender then s
  else
    { s with guard := { s.guard with isStarting := true }, announcer := some sender }.publish
      .infoStart sender

/-- A peer is about to end the session. -/
def hearStopRequest (s : Station) (sender : NetworkId) : Station :=
  if s.guard.isBusy then s
  else if !s.participates sender then s
  else
    { s with guard := { s.guard with isStopping := true }, announcer := some sender }.publish
      .stop sender

/-- Ends the transition that `sender` announced; `none` while another one is under way. -/
def releaseGuard? (s : Station) (sender : NetworkId) : Option Station :=
  if s.announcer = some sender then some { s with guard := .idle, announcer := none }
  else if s.guard.isBusy then none
  else some s

/-- The pointer `dhid` of `sender` is shared with this station, or this station's own came back. -/
def acceptStart (s : Station) (sender : NetworkId) (dhid : Dhid) (l : Location) : Station :=
  match s.role with
  | .free => ((s.setRole (.inbound dhid)).showCursorAt l).beginSession sender
  | .outbound _ => (((s.setRole .free).showCursorAt l).unprepare sender).endSession
  | .inbound _ => ((s.setRole (.inbound dhid)).showCursorAt l).beginSession sender

/-- A peer's start with this station has ended. -/
def hearStartResult (s : Station) (sender : NetworkId) (success : Bool) (dhid : Dhid)
    (l : Location) : Station :=
  let announced := s.announcer == some sender
  match s.releaseGuard? sender with
  | none => s
  | some s =>
    if !announced && !s.participates sender then s
    else if !success then s.publishFailed .infoFail sender .remoteRejected
    else (s.acceptStart sender dhid l).publish .infoSuccess sender

/-- A peer's stop of the session has ended. -/
def hearStopResult (s : Station) (sender : NetworkId) (success : Bool) : Station :=
  match s.releaseGuard? sender with
  | none => s
  | some s =>
    if !s.participates sender then s
    else if !success then s.publishFailed .closeFail sender .remoteRejected
    else
      let s := ((s.setRole .free).resetCursor).unprepare sender
      s.endSession.publish .stopSuccess sender

/-- The station that uses the shared pointer handed it on to `newSink`. -/
def hearRelay (s : Station) (newSink : NetworkId) : Station :=
  if s.role.isOutbound then
    { s with link := { s.link with sink := newSink } }.unwatch.beginSession newSink
  else s

def hear (s : Station) : PeerSignal → Station
  | .startRequest sender => s.hearStartRequest sender
  | .startResult sender success dhid l => s.hearStartResult sender success dhid l
  | .stopRequest sender => s.hearStopRequest sender
  | .stopResult sender success => s.hearStopResult sender success
  | .relayAnnounce newSink => s.hearRelay newSink

/-! ### Devices come and go -/

/-- The session is over because its other end is gone: every call is dropped and nothing is left
of the session. -/
def resetSession (s : Station) (peer : NetworkId) : Station :=
  let s := { s.cancelCalls with guard := .idle, announcer := none }
  let s := { (s.setRole .free).resetCursor with link := .none }
  s.endSession.publish .close peer

/-- A station left the network. -/
def peerOffline (s : Station) (id : NetworkId) : Station :=
  if s.participates id then s.resetSession id
  else
    let s := if s.role.isFree && s.link.involves id then { s with link := .none } else s
    if s.announcer = some id then { s with guard := .idle, announcer := none } else s

/-- A keyboard was plugged in. While outbound it joins the session, unless it is known to be
another station's. -/
def keyboardOnline (s : Station) (dhid : Dhid) : Station :=
  if s.role.isOutbound && s.link.isPrepared then
    match s.registry.originOfDhid? dhid with
    | some origin =>
      if origin = s.home then s.callStart s.link.src s.link.sink [dhid] (.keyboardAdded dhid) else s
    | none => s.callStart s.link.src s.link.sink [dhid] (.keyboardAdded dhid)
  else s

/-- A peer flipped its crossing switch: off ends the session with it. -/
def switchChanged (s : Station) (id : NetworkId) (on : Bool) : Station :=
  if !on && s.participates id then s.stop.2 else s

/-- Somebody flips the crossing switch of `id`; if the station listens, it notes the change unless
it has no room left. -/
def flip (s : Station) (id : NetworkId) (on : Bool) : Station :=
  let (listener, crossing) := s.crossing.flip id on
  let s := { s with crossing := crossing }
  if listener.isSome && s.changes.length < s.capacity then
    { s with changes := s.changes ++ [(id, on)] }
  else s

/-! ### Posts -/

/-- The keys held after one more event, in order and each once. -/
def holdKey (keys : List UInt32) (code : UInt32) : List UInt32 :=
  keys.takeWhile (· < code) ++ code :: (keys.dropWhile (· < code)).dropWhile (· == code)

/-- A key of the relayed keyboard goes down or up; repeats and mouse buttons do not count. -/
def relayEvent (s : Station) (event : RelayEvent) : Station :=
  if s.role.isOutbound && event.source == .keyboard then
    if event.value = 1 then { s with relayedKeys := holdKey s.relayedKeys event.code }
    else if event.value = 0 then
      { s with relayedKeys := s.relayedKeys.filter fun k => k != event.code }
    else s
  else s

/-- Applies one post of the mailbox. -/
def receive (s : Station) (p : Post) : Station :=
  let (arrival, gateway) := s.gateway.receive p
  let s := { s with gateway := gateway }
  match arrival with
  | none => s
  | some (.resolved call) => s.resume call
  | some (.relayed event) => s.relayEvent event

/-- Drops every call and stops listening. -/
def shutdown (s : Station) : Station :=
  let s := s.cancelCalls
  { s with gateway := s.gateway.unsubscribe.2 }.unwatch

end Station
end PointerShare
