/-
# Requests to a station

What the station's own user asks for: to share a pointer or hand a consumed
one on, to stop, to take part in cooperation or not; and what the user shows by
moving a local device. A request is refused before anything has changed, or
accepted, and then its outcome is published later.

Key definitions: `Station.start`, `Station.stop`, `Station.enable`,
`Station.judge`.
-/
import PointerShare.Station.Sequence

namespace PointerShare

/-- How an accepted start goes on. -/
inductive StartRoute where
  /-- A pointer of the station's own is shared. -/
  | share (plan : StartPlan)
  /-- The consumed pointer goes back to its host. -/
  | comeBack (plan : StartPlan)
  /-- The consumed pointer goes on to a third station. -/
  | relay (plan : StartPlan)
  deriving DecidableEq, Repr

/-- The stop call of a session. -/
structure StopRoute where
  peer : NetworkId
  src : NetworkId
  sink : NetworkId
  dhids : List Dhid
  deriving DecidableEq, Repr

namespace Station

/-! ### Starting -/

/-- A start must name some other station. -/
def checkTarget (s : Station) (target : NetworkId) : Answer :=
  if target.isEmpty then .error (.invalidArgument .emptyNetworkId)
  else if target = s.home then .error (.invalidArgument (.ownStation target))
  else .ok ()

def planShare (s : Station) (target : NetworkId) (device : DeviceId) :
    Except Refusal StartRoute := do
  s.checkTarget target
  match s.registry.originOf? device with
  | none => .error (.invalidArgument (.unknownDevice device))
  | some src => .ok (.share ⟨target, device, src, [], false⟩)

def planHandOn (s : Station) (target : NetworkId) (device : DeviceId) (shared : Dhid) :
    Except Refusal StartRoute := do
  s.checkTarget target
  match s.originOf? shared with
  | none => .error .notPrepared
  | some origin =>
    if target = origin then .ok (.comeBack ⟨target, device, origin, s.dhidsOfShared shared, false⟩)
    else .ok (.relay ⟨target, device, origin, [], true⟩)

/-- The route a start takes, or why it is refused. -/
def planStart (s : Station) (target : NetworkId) (device : DeviceId) : Except Refusal StartRoute :=
  if s.guard.isBusy then .error .busy
  else if !s.crossing.isOn s.home then .error .notEnabled
  else match s.role with
    | .free => s.planShare target device
    | .inbound shared => s.planHandOn target device shared
    | .outbound _ => .error (.wrongRole s.role)

/-- Announces a start to its target and makes the first call. -/
def announceAndStart (s : Station) (plan : StartPlan) : Station :=
  (s.send (.announceStart s.home plan.target)).prepareAndStart plan

def takeStartRoute (s : Station) : StartRoute → Station
  | .share plan => s.announceAndStart plan
  | .comeBack plan => s.comeBack plan
  | .relay plan => s.announceAndStart plan

/-- Shares `device` with `target`, or hands a consumed pointer on. -/
def start (s : Station) (target : NetworkId) (device : DeviceId) : Answer × Station :=
  match s.planStart target device with
  | .error refusal => (.error refusal, s)
  | .ok route =>
    let s := { s with
      guard := { s.guard with isStarting := true }
      startLocation := s.cursor.location }
    (.ok (), (s.publish .infoStart target).takeStartRoute route)

/-! ### Stopping -/

def planStopInbound (s : Station) (shared : Dhid) : Except Refusal StopRoute :=
  match s.originOf? shared with
  | none => .error .notPrepared
  | some origin => .ok ⟨origin, origin, s.home, s.dhidsOfShared shared⟩

def planStopOutbound (s : Station) (shared : Dhid) : Except Refusal StopRoute :=
  if s.link.isPrepared then
    .ok ⟨s.sessionPeer.getD s.link.sink, s.link.src, s.link.sink, s.dhidsOfShared shared⟩
  else .error .notPrepared

/-- The stop call of the session, or why a stop is refused. -/
def planStop (s : Station) : Except Refusal StopRoute :=
  if s.guard.isBusy then .error .busy
  else match s.role with
    | .free => .error (.wrongRole .free)
    | .inbound shared => s.planStopInbound shared
    | .outbound shared => s.planStopOutbound shared

/-- Ends the session. -/
def stop (s : Station) : Answer × Station :=
  match s.planStop with
  | .error refusal => (.error refusal, s)
  | .ok route =>
    let s := { s with guard := { s.guard with isStopping := true } }
    (.ok (), (s.publish .stop route.peer).callStop route.src route.sink route.dhids
      (.stopped route.peer))

/-! ### Taking part -/

/-- Turns cooperation on or off. Off also ends the session, if a stop is possible now. -/
def enable (s : Station) (on : Bool) : Answer × Station :=
  match s.crossing.update on [s.home] with
  | .error fault => (.error (.unavailable (.switchFailed fault)), s)
  | .ok crossing =>
    let s := { s with crossing := crossing }.publish (if on then .stateOn else .stateOff) s.home
    (.ok (), if !on && !s.role.isFree then s.stop.2 else s)

/-- Whether a station takes part. -/
def isEnabled (s : Station) (id : NetworkId) : Bool := s.crossing.isOn id

/-! ### Local events -/

/-- The device belongs to the session: while inbound a device fed by another station, while
outbound the shared one. -/
def belongs (s : Station) (device : DeviceId) : Bool :=
  match s.role with
  | .free => !s.registry.isRemote device
  | .inbound _ => s.registry.isRemote device
  | .outbound shared => s.registry.dhidOf? device == some shared

/-- Whether a local event is delivered locally. Moving a device that does not belong to the
session ends it. -/
def judge (s : Station) (event : PointerEvent) : Verdict × Station :=
  if s.guard.isBusy then (.suppress, s)
  else if s.belongs event.device then (.forward, s)
  else if !s.role.isFree && event.action.isMotion then (.suppress, s.stop.2)
  else (.suppress, s)

end Station
end PointerShare
