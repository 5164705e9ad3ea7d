/-
# A demo session

A station with a mouse and a keyboard plays through a session with one peer:
it shares its mouse, gets it back, uses the peer's mouse, and stops. The peer
never answers by itself; its signals are part of the script. The transcript
holds a line for every step, the notices the station published meanwhile, the
state of the station where a step has led to it, and at the end every dispatch
the station sent.

A step that is refused, or whose state does not come about within ten seconds
of the service's clock, ends the session.

Key definitions: `Demo.Session`, `Demo.Interruption`, `Demo.script`, `Demo.play`.
-/
import PointerShare.Network

namespace PointerShare
namespace Demo

/-- Why a session ends early. -/
inductive Interruption where
  | refused (refusal : Refusal)
  /-- The awaited state did not come about in time. -/
  | overdue
  deriving DecidableEq, Repr

def Interruption.message : Interruption → String
  | refused refusal => refusal.message
  | overdue => "timed out waiting for the service"

/-- A session under way. -/
structure Session where
  network : Network
  /-- How many handovers of notices have been written down. -/
  heard : Nat
  lines : List String

/-- A part of the script. -/
abbrev Play (α : Type) := ExceptT Interruption (StateM Session) α

/-! ### The scene -/

def screen : Screen := ⟨1920, 1080⟩

def home : NetworkId := ⟨"local"⟩

/-- The station's own mouse. -/
def mouse : InputDevice where
  id := ⟨1⟩
  dhid := ⟨"mouse-local"⟩
  origin := home
  keyboards := [⟨"kbd-local"⟩]
  isPointer := true
  isRemote := false

/-- The peer's mouse, as the station knows it. -/
def peerMouse (peer : NetworkId) : InputDevice where
  id := ⟨9⟩
  dhid := ⟨"mouse-remote"⟩
  origin := peer
  keyboards := []
  isPointer := true
  isRemote := true

def Session.start (settings : Settings) (peer : NetworkId) : Session where
  network := .create [.create settings ⟨home, [mouse, peerMouse peer]⟩] false
  heard := 0
  lines := []

/-- How long a state is waited for, in milliseconds. -/
def patience : Nat := 10000

/-! ### Writing down -/

def say (line : String) : Play Unit := modify fun s => { s with lines := s.lines ++ [line] }

def noticeLine (n : Notice) : String :=
  "  notice  " ++ n.message.name ++ " (" ++ n.peer.text ++ ")" ++
    match n.reason with
    | none => ""
    | some reason => " " ++ reason.text

/-- The station's service. -/
def service? : Play (Option Service) := do return (← get).network.find? home

/-- Writes down the notices published since the last time. -/
def writeNotices : Play Unit := do
  match ← service? with
  | none => return
  | some v =>
    let notifier := v.station.notifier
    for (_, notice) in notifier.heardSince (← get).heard do
      say (noticeLine notice)
    modify fun s => { s with heard := notifier.handovers.length }

/-- A state and where the cursor is. -/
def stateLine (view : View) (cursor : Cursor) : String :=
  let place := cursor.location.toPosition screen
  "  state   " ++ view.role.text ++ " (peer: " ++
    ((view.sessionPeer.map (·.text)).getD "-") ++ "), cursor " ++
    (if cursor.visible then "shown" else "hidden") ++ " at (" ++ toString place.1.toInt ++ ", " ++
    toString place.2.toInt ++ ")"

/-- Writes down the state of the station. -/
def report : Play Unit := do
  match ← service? with
  | none => return
  | some v => say (stateLine v.status v.station.cursor)

/-! ### Acting -/

def change (f : Service → Service) : Play Unit :=
  modify fun s => { s with network := s.network.attend home f }

/-- Lets the service do everything there is to do. -/
def rest : Play Unit := do
  modify fun s => { s with network := s.network.rest }
  writeNotices

/-- Posts to the service, and gives its answer when everything is done. -/
def post (event : Event) : Play Response := do
  match ← service? with
  | none => return .unavailable .stopped
  | some v =>
    let (ticket, v) := v.post event
    change fun _ => v
    rest
    return ((← service?).bind fun v => v.response? ticket).getD (.unavailable .stopped)

/-- Posts what must not be refused. -/
def insist (event : Event) : Play Unit := do
  match ← post event with
  | .refused refusal => throw (.refused refusal)
  | _ => return

/-- Waits until the status is as wanted. -/
def await (wanted : View → Bool) : Play Unit := do
  if !(← service?).any fun v => wanted v.status then
    let now := ((← service?).map fun v => v.station.now).getD 0
    modify fun s => { s with network := s.network.advance now patience }
    writeNotices
    if !(← service?).any fun v => wanted v.status then throw .overdue

/-- The status code of a response. -/
def codeOf : Response → Nat
  | .refused refusal => refusal.code
  | _ => 0

/-! ### The script -/

def shareOwnMouse (peer : NetworkId) : Play Unit := do
  change fun v =>
    { v with station := { v.station with
      cursor := v.station.cursor.moveTo (.ofPosition 1919 540 screen) } }
  say ("share the local mouse with " ++ peer.text)
  insist (.request (.start peer mouse.id))
  await fun view => view.role.isOutbound
  report
  let again ← post (.request (.start peer mouse.id))
  say ("  second start answered " ++ toString (codeOf again))

def getMouseBack (peer : NetworkId) : Play Unit := do
  say (peer.text ++ " hands the pointer back")
  insist (.signal (.startResult peer true mouse.dhid (.clamp 0.0 40.0)))
  await fun view => view.role.isFree
  report

def useMouseOf (peer : NetworkId) : Play Unit := do
  say (peer.text ++ " shares its mouse with us")
  insist (.signal (.startRequest peer))
  insist (.signal (.startResult peer true (peerMouse peer).dhid (.clamp 100.0 40.0)))
  await fun view => !view.role.isFree && !view.role.isOutbound
  report

def stopUsing : Play Unit := do
  say "stop"
  insist (.request .stop)
  await fun view => view.role.isFree && !view.guard.isBusy
  report

/-- The session from beginning to end. -/
def script (peer : NetworkId) : Play Unit := do
  insist (.request (.subscribe "notices"))
  shareOwnMouse peer
  getMouseBack peer
  useMouseOf peer
  stopUsing
  insist .shutdown
  say "signals sent to peers:"
  match ← service? with
  | none => return
  | some v =>
    for dispatch in v.station.outbox.peers.received do
      say ("  " ++ dispatch.text)

/-- The transcript of a session, and what ended it early. -/
def play (settings : Settings) (peer : NetworkId) : List String × Option Interruption :=
  match ((script peer).run (.start settings peer)) with
  | (.ok _, s) => (s.lines, none)
  | (.error why, s) => (s.lines, some why)

end Demo
end PointerShare
