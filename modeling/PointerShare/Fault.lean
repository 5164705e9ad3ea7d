/-
# What goes wrong outside

The faults of the services a station works with: its devices (peers, cursor,
crossing switch) and the remote input service; and what goes wrong when the
cooperation service itself is set up. A fault is kept as its cause; `message`
gives the words.

Key definitions: `DeviceFault`, `InputFault`, `SetupFault` and the `message`
of each.
-/
import PointerShare.RemoteCall

namespace PointerShare

/-- What a device service answers instead of doing what it was asked. -/
inductive DeviceFault where
  /-- The signal, as text, did not reach its peer. -/
  | peerUnreachable (signal : String)
  | cursor (why : String)
  | crossingSwitch (why : String)
  | unavailable
  | other (why : String)
  deriving DecidableEq, Repr

def DeviceFault.message : DeviceFault → String
  | peerUnreachable signal => "peer unreachable: " ++ signal
  | cursor why => "cursor service error: " ++ why
  | crossingSwitch why => "crossing switch error: " ++ why
  | unavailable => "backend not available on this platform"
  | other why => why

/-- What the remote input service answers instead of taking a call. -/
inductive InputFault where
  | refused (why : String)
  | relayAlreadyRegistered
  | unavailable
  | other (why : String)
  deriving DecidableEq, Repr

def InputFault.message : InputFault → String
  | refused why => "remote input service refused the call: " ++ why
  | relayAlreadyRegistered => "relay listener already registered"
  | unavailable => "remote input service not available"
  | other why => why

/-- Why the cooperation service could not be set up. -/
inductive SetupFault where
  | config (why : String)
  | device (fault : DeviceFault)
  | remoteInput (fault : InputFault)
  | other (why : String)
  deriving DecidableEq, Repr

def SetupFault.message : SetupFault → String
  | config why => "configuration error: " ++ why
  | device fault => "device error: " ++ fault.message
  | remoteInput fault => "remote input error: " ++ fault.message
  | other why => why

end PointerShare
