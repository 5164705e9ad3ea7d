/-
# Signals between stations

Stations tell each other about starts, stops and relays. A `PeerSignal` is
what a station hears; a `Dispatch` is what it sends. `Dispatch.signal` says
what the receiver of a dispatch hears, `Dispatch.peer` who receives it.

Key definitions: `PeerSignal`, `Dispatch`, `Dispatch.peer`,
`Dispatch.signal`.
-/
import PointerShare.Ident
import PointerShare.Location

namespace PointerShare

/-- What a station hears from a peer. -/
inductive PeerSignal where
  | startRequest (sender : NetworkId)
  | startResult (sender : NetworkId) (success : Bool) (dhid : Dhid) (location : Location)
  | stopRequest (sender : NetworkId)
  | stopResult (sender : NetworkId) (success : Bool)
  | relayAnnounce (newSink : NetworkId)
  deriving DecidableEq, Repr

/-- What a station tells a peer. -/
inductive Dispatch where
  /-- `origin` is about to share its input with `remote`. -/
  | announceStart (origin remote : NetworkId)
  /-- A start ended; `dhid` is the shared pointer, `location` where the cursor left the screen. -/
  | startResult (target : NetworkId) (success : Bool) (dhid : Dhid) (location : Location)
  | stopResult (target : NetworkId) (success : Bool)
  /-- The pointer that `sink` donates is now used by `source`. -/
  | relayAnnounce (sink source : NetworkId)
  deriving DecidableEq, Repr

/-- The four sorts of dispatch. -/
inductive DispatchKind where
  | announceStart
  | startResult
  | stopResult
  | relayAnnounce
  deriving DecidableEq, Repr

namespace Dispatch

def kind : Dispatch → DispatchKind
  | announceStart .. => .announceStart
  | startResult .. => .startResult
  | stopResult .. => .stopResult
  | relayAnnounce .. => .relayAnnounce

/-- The station a dispatch is for. -/
def peer : Dispatch → NetworkId
  | announceStart _ remote => remote
  | startResult target .. => target
  | stopResult target _ => target
  | relayAnnounce sink _ => sink

/-- What the peer hears when `sender` sends the dispatch. -/
def signal (sender : NetworkId) : Dispatch → PeerSignal
  | announceStart origin _ => .startRequest origin
  | startResult _ success dhid location => .startResult sender success dhid location
  | stopResult _ success => .stopResult sender success
  | relayAnnounce _ source => .relayAnnounce source

end Dispatch

end PointerShare
