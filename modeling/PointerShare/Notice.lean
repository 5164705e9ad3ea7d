/-
# Lifecycle notices

A notice tells observers how a sharing session goes on: which step was taken
and with which peer, and for a failed step why it failed.

Key definitions: `Message`, `Reason`, `Notice`, `Reason.text`.
-/
import PointerShare.Ident

namespace PointerShare

/-- The steps observers hear of. -/
inductive Message where
  | openSuccess
  | openFail
  | infoStart
  | infoSuccess
  | infoFail
  | close
  | closeSuccess
  | closeFail
  | stop
  | stopSuccess
  | stateOn
  | stateOff
  deriving DecidableEq, Repr

/-- Why a step failed. -/
inductive Reason where
  | remoteTimeout
  | remoteRejected
  | noShareableDevice
  | prepareFailed
  | partialRelayFailure
  | superseded
  deriving DecidableEq, Repr

/-- One notice: the step, the peer it concerns, and the reason of a failure. -/
structure Notice where
  message : Message
  peer : NetworkId
  reason : Option Reason
  deriving DecidableEq, Repr

namespace Message

/-- A message's name, as it is shown and sent. -/
def name : Message → String
  | openSuccess => "OpenSuccess"
  | openFail => "OpenFail"
  | infoStart => "InfoStart"
  | infoSuccess => "InfoSuccess"
  | infoFail => "InfoFail"
  | close => "Close"
  | closeSuccess => "CloseSuccess"
  | closeFail => "CloseFail"
  | stop => "Stop"
  | stopSuccess => "StopSuccess"
  | stateOn => "StateOn"
  | stateOff => "StateOff"

/-- Every message, in the order of declaration. -/
def all : List Message :=
  [openSuccess, openFail, infoStart, infoSuccess, infoFail, close, closeSuccess, closeFail, stop,
    stopSuccess, stateOn, stateOff]

def ofName? (s : String) : Option Message := all.find? fun m => m.name == s

end Message

namespace Reason

/-- A reason's name, as it is sent. -/
def name : Reason → String
  | remoteTimeout => "RemoteTimeout"
  | remoteRejected => "RemoteRejected"
  | noShareableDevice => "NoShareableDevice"
  | prepareFailed => "PrepareFailed"
  | partialRelayFailure => "PartialRelayFailure"
  | superseded => "Superseded"

/-- Every reason, in the order of declaration. -/
def all : List Reason :=
  [remoteTimeout, remoteRejected, noShareableDevice, prepareFailed, partialRelayFailure, superseded]

def ofName? (s : String) : Option Reason := all.find? fun r => r.name == s

/-- A reason in words. -/
def text : Reason → String
  | remoteTimeout => "remote call timed out"
  | remoteRejected => "remote call rejected"
  | noShareableDevice => "no shareable device"
  | prepareFailed => "prepare failed"
  | partialRelayFailure => "relay partially applied"
  | superseded => "superseded by a newer request"

end Reason

namespace Notice

/-- The notice of a step that did not fail. -/
def of (message : Message) (peer : NetworkId) : Notice := ⟨message, peer, none⟩

/-- The notice of a failed step. -/
def failed (message : Message) (peer : NetworkId) (reason : Reason) : Notice :=
  ⟨message, peer, some reason⟩

end Notice

end PointerShare
