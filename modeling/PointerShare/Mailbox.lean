/-
# The mailbox of a station's remote calls

Replies, refusals and expired timers never act at once: they are posted to a
mailbox, in the order in which they happen, and taken out one by one. The
mailbox also holds the clock, in milliseconds, and the alarms that post a
`timerFired` when the clock reaches their deadline. Alarms that are due at the
same time go off in the order in which they were set. A closed mailbox loses
what is posted to it.

Key definitions: `Alarm`, `Mailbox`, `Mailbox.post`, `Mailbox.setAlarm`,
`Mailbox.advanceTo`, `Mailbox.take?`.
-/
import PointerShare.RemoteCall

namespace PointerShare

/-- A timer that has been set and has not gone off. An alarm that was set later has a greater
`serial`. -/
structure Alarm where
  serial : Nat
  deadline : Nat
  kind : CallKind
  request : RequestId
  deriving DecidableEq, Repr

/-- What an alarm posts when it goes off. -/
def Alarm.post (a : Alarm) : Post := .timerFired a.kind a.request

structure Mailbox where
  /-- The clock, in milliseconds. -/
  now : Nat
  /-- The number of the alarm that is set next. -/
  nextSerial : Nat
  /-- The alarms that have not gone off, in the order in which they were set. -/
  alarms : List Alarm
  /-- What was posted and not yet taken, oldest first. -/
  queue : List Post
  isOpen : Bool
  deriving DecidableEq, Repr

namespace Mailbox

/-- An open mailbox with nothing in it, at time zero. -/
def empty : Mailbox := ⟨0, 0, [], [], true⟩

/-- Puts a post at the end of the queue, unless the mailbox is closed. -/
def post (m : Mailbox) (p : Post) : Mailbox :=
  if m.isOpen then { m with queue := m.queue ++ [p] } else m

def postAll (m : Mailbox) (ps : List Post) : Mailbox := ps.foldl post m

/-- The oldest post, and the mailbox without it. -/
def take? (m : Mailbox) : Option (Post × Mailbox) :=
  match m.queue with
  | [] => none
  | p :: rest => some (p, { m with queue := rest })

/-- Closes the mailbox for good; what was queued is lost. -/
def close (m : Mailbox) : Mailbox := { m with queue := [], isOpen := false }

/-- The number of queued posts; a closed mailbox has no count. -/
def length? (m : Mailbox) : Option Nat := if m.isOpen then some m.queue.length else none

/-- Sets an alarm `delay` milliseconds from now. -/
def setAlarm (m : Mailbox) (delay : Nat) (kind : CallKind) (request : RequestId) : Mailbox :=
  { m with
    nextSerial := m.nextSerial + 1
    alarms := m.alarms ++ [⟨m.nextSerial, m.now + delay, kind, request⟩] }

/-- Takes back an alarm; nothing happens when it has gone off already. -/
def dropAlarm (m : Mailbox) (serial : Nat) : Mailbox :=
  { m with alarms := m.alarms.filter fun a => a.serial != serial }

/-- The alarms that are due. -/
def due (m : Mailbox) : List Alarm := m.alarms.filter fun a => a.deadline ≤ m.now

/-- Posts for every alarm that is due. -/
def ring (m : Mailbox) : Mailbox :=
  { m with alarms := m.alarms.filter fun a => !(a.deadline ≤ m.now) }.postAll
    (m.due.map Alarm.post)

/-- The earliest deadline of the alarms that are set. -/
def nextDeadline? (m : Mailbox) : Option Nat :=
  m.alarms.foldl (fun least a => some (match least with
    | none => a.deadline
    | some t => min t a.deadline)) none

/-- Moves the clock to `t` (never back) without ringing. -/
def setClock (m : Mailbox) (t : Nat) : Mailbox := { m with now := max m.now t }

/-- Goes to the earliest deadline that is not after `t`, and rings. -/
def ringNext? (m : Mailbox) (t : Nat) : Option Mailbox :=
  match m.nextDeadline? with
  | none => none
  | some d => if d ≤ t then some (m.setClock d).ring else none

@[simp] theorem alarms_postAll (m : Mailbox) (ps : List Post) : (m.postAll ps).alarms = m.alarms := by
  induction ps generalizing m with
  | nil => rfl
  | cons p ps ih =>
    rw [postAll, List.foldl_cons, ← postAll, ih]
    unfold post; split <;> rfl

@[simp] theorem now_postAll (m : Mailbox) (ps : List Post) : (m.postAll ps).now = m.now := by
  induction ps generalizing m with
  | nil => rfl
  | cons p ps ih =>
    rw [postAll, List.foldl_cons, ← postAll, ih]
    unfold post; split <;> rfl

/-- Lets the clock run to `t`: every alarm goes off at its deadline, and nobody takes posts out. -/
def advanceTo (m : Mailbox) (t : Nat) : Mailbox := go m.alarms.length m
where
  /-- One ring for each alarm that is set is enough. -/
  go : Nat → Mailbox → Mailbox
    | 0, m => m.setClock t
    | n + 1, m => match m.ringNext? t with
      | none => m.setClock t
      | some m' => go n m'

end Mailbox

end PointerShare
