/-
# Refused requests

A request to start, stop or enable cooperation is either accepted or refused
with one of twelve causes. Each cause has its words and a status code that
callers on other processes see; no two causes share a code, and an accepted
request has code zero.

Key definitions: `Refusal`, `Refusal.message`, `Refusal.code`, `statusCode`,
`Reason.refusal`.
-/
import PointerShare.Fault
import PointerShare.Notice
import PointerShare.Role

namespace PointerShare

/-- What is wrong with an argument. -/
inductive ArgumentFault where
  | emptyNetworkId
  /-- A station cannot cooperate with itself. -/
  | ownStation (id : NetworkId)
  | unknownDevice (device : DeviceId)
  | stated (why : String)
  deriving DecidableEq, Repr

def ArgumentFault.message : ArgumentFault → String
  | emptyNetworkId => "empty network id"
  | ownStation id => "cannot cooperate with self (" ++ id.text ++ ")"
  | unknownDevice device => "unknown device " ++ device.text
  | stated why => why

/-- Why the cooperation service cannot answer. -/
inductive Outage where
  /-- The crossing switch could not be set. -/
  | switchFailed (fault : DeviceFault)
  /-- The service had ended before the request was posted. -/
  | stopped
  /-- The service ended with the request still queued. -/
  | dropped
  | stated (why : String)
  deriving DecidableEq, Repr

def Outage.message : Outage → String
  | switchFailed fault => fault.message
  | stopped => "service stopped"
  | dropped => "request dropped"
  | stated why => why

/-- Why a request is refused. -/
inductive Refusal where
  | invalidArgument (fault : ArgumentFault)
  /-- A start or stop is still under way. -/
  | busy
  | notEnabled
  | wrongRole (role : Role)
  | remoteTimeout
  | remoteRejected
  | noShareableDevice
  | notPrepared
  | prepareFailed
  | partialRelayFailure
  | superseded
  | unavailable (outage : Outage)
  deriving DecidableEq, Repr

namespace Refusal

def message : Refusal → String
  | invalidArgument fault => "invalid argument: " ++ fault.message
  | busy => "a cooperation transition is already in flight"
  | notEnabled => "cooperation is disabled on this device"
  | wrongRole role => "operation not valid in state " ++ role.text
  | remoteTimeout => "remote call timed out"
  | remoteRejected => "remote call rejected"
  | noShareableDevice => "device has nothing to share"
  | notPrepared => "no sharing session prepared"
  | prepareFailed => "preparing the sharing session failed"
  | partialRelayFailure => "relay partially applied: new link started, original link still up"
  | superseded => "superseded by a newer request"
  | unavailable outage => "cooperation service unavailable: " ++ outage.message

/-- The code other processes see. -/
def code : Refusal → Nat
  | invalidArgument _ => 401
  | notEnabled => 402
  | wrongRole _ => 403
  | busy => 409
  | superseded => 410
  | noShareableDevice => 422
  | notPrepared => 424
  | unavailable _ => 500
  | prepareFailed => 502
  | remoteRejected => 503
  | remoteTimeout => 504
  | partialRelayFailure => 507

/-- One refusal of each cause, in the order of their codes. -/
def catalogue : List Refusal :=
  [invalidArgument (.stated ""), notEnabled, wrongRole .free, busy, superseded, noShareableDevice,
    notPrepared, unavailable (.stated ""), prepareFailed, remoteRejected, remoteTimeout,
    partialRelayFailure]

end Refusal

/-- The refusal that a failed step amounts to. -/
def Reason.refusal : Reason → Refusal
  | remoteTimeout => .remoteTimeout
  | remoteRejected => .remoteRejected
  | noShareableDevice => .noShareableDevice
  | prepareFailed => .prepareFailed
  | partialRelayFailure => .partialRelayFailure
  | superseded => .superseded

/-- What a request without a result of its own answers. -/
abbrev Answer := Except Refusal Unit

/-- The status code of an answer: zero when accepted. -/
def statusCode : Answer → Nat
  | .ok _ => 0
  | .error refusal => refusal.code

end PointerShare
