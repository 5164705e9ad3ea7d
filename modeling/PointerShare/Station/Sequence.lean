/-
# The calls of a transition, one after the other

A start prepares the link unless it is prepared already, then starts the
devices. Handing on a consumed pointer goes one step further: once the new
link is up, the link the pointer came by is stopped, and if that fails the new
link is taken down again. Giving a pointer back, and ending a session, are one
stop each.

However a transition ends, it ends in `finishStart` or `finishStop`, which
make the guard idle and tell observers and the peer.

Key definitions: `Station.finishStart`, `Station.finishStop`,
`Station.startShared`, `Station.prepareAndStart`, `Station.resume`.
-/
import PointerShare.Station.Basic

namespace PointerShare
namespace Station

/-! ### Ends of transitions -/

/-- The start failed: the link is given up, the role stays. -/
def failStart (s : Station) (target : NetworkId) (device : DeviceId) (reason : Reason) : Station :=
  let s := { s with guard := .idle, link := .none }
  let dhid := (s.role.shared? <|> s.registry.dhidOf? device).getD .empty
  (s.sendStartResult target false dhid).publishFailed .infoFail target reason

/-- A pointer of the station's own is now used by `target`. -/
def enterOutbound (s : Station) (target : NetworkId) (device : DeviceId) : Station :=
  let dhid := (s.registry.dhidOf? device).getD .empty
  let s := (s.setRole (.outbound dhid)).hideCursor
  (s.sendStartResult target true dhid).beginSession target

/-- The consumed pointer is gone, to where it came from or on to `target`. Its host is told when
somebody else uses it now. -/
def leaveInbound (s : Station) (target : NetworkId) (shared : Dhid) : Station :=
  let origin := s.originOf? shared
  let s := ((s.setRole .free).resetCursor).sendStartResult target true shared
  let s := match origin with
    | none => s
    | some o => if o = s.home ∨ o = target then s else s.send (.relayAnnounce o target)
  s.endSession

/-- Ends a start. -/
def finishStart (s : Station) (target : NetworkId) (device : DeviceId) :
    Except Reason Unit → Station
  | .error reason => s.failStart target device reason
  | .ok _ =>
    let s := { s with guard := .idle }
    let s := match s.role with
      | .free => s.enterOutbound target device
      | .inbound shared => s.leaveInbound target shared
      | .outbound _ => s
    s.publish .infoSuccess target

/-- Ends a stop. -/
def finishStop (s : Station) (peer : NetworkId) : Except Reason Unit → Station
  | .error reason => { s with guard := .idle }.publishFailed .closeFail peer reason
  | .ok _ =>
    let s := ({ s with guard := .idle }.setRole .free).resetCursor
    let s := (s.send (.stopResult peer true)).unprepare peer
    s.endSession.publish .closeSuccess peer

/-! ### Steps of a start -/

/-- Starts the device and its keyboards over the prepared link. -/
def startShared (s : Station) (plan : StartPlan) : Station :=
  let dhids := s.registry.shareable plan.device
  if dhids.isEmpty then s.finishStart plan.target plan.device (.error .noShareableDevice)
  else s.callStart plan.src plan.target dhids (.started { plan with dhids := dhids })

/-- Prepares the link from the pointer's host to the target, unless it is prepared already. -/
def prepareAndStart (s : Station) (plan : StartPlan) : Station :=
  if s.link.joins plan.src plan.target then s.startShared plan
  else s.callPrepare plan.src plan.target (.prepared plan)

/-- Gives a consumed pointer back: the link it came by is stopped. -/
def comeBack (s : Station) (plan : StartPlan) : Station :=
  s.callStop plan.src s.home plan.dhids (.cameBack plan.target plan.device)

/-- The new link of a handed-on pointer is up: the one it came by is stopped. -/
def stopOrigin (s : Station) (plan : StartPlan) : Station :=
  s.callStop plan.src s.home plan.dhids (.originStopped plan)

/-! ### Going on after a call -/

/-- The link has been prepared, or has not. -/
def afterPrepare (s : Station) (plan : StartPlan) : Except Reason Unit → Station
  | .ok _ =>
    ({ s with link := ⟨plan.src, plan.target⟩ }.publish .openSuccess plan.target).startShared plan
  | .error reason =>
    ({ s with link := .none }.publishFailed .openFail plan.target reason).finishStart
      plan.target plan.device (.error .prepareFailed)

/-- The devices have been started, or have not. -/
def afterStart (s : Station) (plan : StartPlan) (result : Except Reason Unit) : Station :=
  match result with
  | .ok _ =>
    if plan.relays then s.stopOrigin plan else s.finishStart plan.target plan.device result
  | .error _ => s.finishStart plan.target plan.device result

/-- The link a handed-on pointer came by has been stopped; if not, the new link is taken down. -/
def afterOriginStop (s : Station) (plan : StartPlan) : Except Reason Unit → Station
  | .ok _ => s.finishStart plan.target plan.device (.ok ())
  | .error _ =>
    (s.callStop plan.src plan.target plan.dhids (.relayRolledBack plan.target)).finishStart
      plan.target plan.device (.error .partialRelayFailure)

/-- What a finished call means for whoever waits on it. -/
def resultOf (outcome : Outcome) : Except Reason Unit :=
  match outcome.reason? with
  | none => .ok ()
  | some reason => .error reason

/-- Goes on after a remote call. -/
def resume (s : Station) (call : Resolved Continuation) : Station :=
  let result := resultOf call.outcome
  match call.completion with
  | .prepared plan => s.afterPrepare plan result
  | .started plan => s.afterStart plan result
  | .originStopped plan => s.afterOriginStop plan result
  | .cameBack target device => s.finishStart target device result
  | .stopped peer => s.finishStop peer result
  | .relayRolledBack _ => s
  | .unprepared _ => s
  | .keyboardAdded _ => s

end Station
end PointerShare
