/-
# Calls into the remote input service

A station asks the remote input service to prepare, unprepare, start or stop
the sharing of devices between two stations. The service answers a call later
by replies, each in one of two shapes: by the pair of stations, or by the
hardware ids concerned. A call to prepare or unprepare is answered by the
pair; a call to start or stop by both shapes. Everything that reaches a
station about its calls is a `Post`.

Key definitions: `CallKind`, `CallKind.shapes`, `CallArgs`, `CallArgs.echoes`,
`Reply`, `Post`, `Outcome`.
-/
import PointerShare.Ident
import PointerShare.Notice

namespace PointerShare

/-- What a remote call does. -/
inductive CallKind where
  | prepare
  | unprepare
  | start
  | stop
  deriving DecidableEq, Repr

/-- The two shapes of a reply. -/
inductive PartShape where
  | pair
  | dhids
  deriving DecidableEq, Repr

namespace CallKind

def name : CallKind → String
  | prepare => "prepare"
  | unprepare => "unprepare"
  | start => "start"
  | stop => "stop"

/-- Every kind, in the order of declaration. -/
def all : List CallKind := [prepare, unprepare, start, stop]

def ofName? (s : String) : Option CallKind := all.find? fun k => k.name == s

/-- The shapes in which a call must have been answered before it has succeeded. -/
def shapes : CallKind → List PartShape
  | prepare => [.pair]
  | unprepare => [.pair]
  | start => [.pair, .dhids]
  | stop => [.pair, .dhids]

end CallKind

/-- One value for each kind of call. -/
structure PerKind (α : Type) where
  prepare : α
  unprepare : α
  start : α
  stop : α
  deriving DecidableEq, Repr

namespace PerKind

variable {α β : Type}

/-- The same value for every kind. -/
def const (a : α) : PerKind α := ⟨a, a, a, a⟩

def get (p : PerKind α) : CallKind → α
  | .prepare => p.prepare
  | .unprepare => p.unprepare
  | .start => p.start
  | .stop => p.stop

def set (p : PerKind α) (k : CallKind) (a : α) : PerKind α :=
  match k with
  | .prepare => { p with prepare := a }
  | .unprepare => { p with unprepare := a }
  | .start => { p with start := a }
  | .stop => { p with stop := a }

/-- The values in the order of the kinds. -/
def toList (p : PerKind α) : List α := [p.prepare, p.unprepare, p.start, p.stop]

@[simp] theorem get_const (a : α) (k : CallKind) : (const a).get k = a := by cases k <;> rfl

@[simp] theorem get_set_self (p : PerKind α) (k : CallKind) (a : α) : (p.set k a).get k = a := by
  cases k <;> rfl

theorem get_set_of_ne (p : PerKind α) {k j : CallKind} (h : k ≠ j) (a : α) :
    (p.set k a).get j = p.get j := by
  cases k <;> cases j <;> first | rfl | exact absurd rfl h

theorem get_set (p : PerKind α) (k j : CallKind) (a : α) :
    (p.set k a).get j = if k = j then a else p.get j := by
  cases k <;> cases j <;> rfl

theorem mem_toList {p : PerKind α} {a : α} : a ∈ p.toList ↔ ∃ k, p.get k = a := by
  constructor
  · intro h
    simp only [toList, List.mem_cons, List.not_mem_nil, or_false] at h
    rcases h with h | h | h | h
    · exact ⟨.prepare, h.symm⟩
    · exact ⟨.unprepare, h.symm⟩
    · exact ⟨.start, h.symm⟩
    · exact ⟨.stop, h.symm⟩
  · rintro ⟨k, rfl⟩
    cases k <;> simp [toList, get]

end PerKind

/-- The number of an issued call: 1 for a tracker's first, then one more each time. -/
structure RequestId where
  number : Nat
  deriving DecidableEq, Repr

def RequestId.text (id : RequestId) : String := "#" ++ toString id.number

/-- One reply's content: the pair of stations, or the hardware ids. -/
inductive ReplyPart where
  | pair (src sink : NetworkId)
  | dhids (ids : List Dhid)
  deriving DecidableEq, Repr

def ReplyPart.shape : ReplyPart → PartShape
  | pair _ _ => .pair
  | dhids _ => .dhids

/-- What a call is about: the two stations, and for a start or stop the devices. -/
structure CallArgs where
  src : NetworkId
  sink : NetworkId
  dhids : List Dhid
  deriving DecidableEq, Repr

/-- A reply's content repeats the call's own arguments; hardware ids count in any order, each as
often as it was given. -/
def CallArgs.echoes (args : CallArgs) : ReplyPart → Bool
  | .pair src sink => src == args.src && sink == args.sink
  | .dhids ids => Dhid.sorted ids == Dhid.sorted args.dhids

/-- A status other than zero is a failure. -/
structure Reply where
  kind : CallKind
  request : RequestId
  part : ReplyPart
  status : Int32
  deriving DecidableEq, Repr

def Reply.isSuccess (r : Reply) : Bool := r.status == 0

/-- The device a relay event comes from. -/
inductive RelaySource where
  | mouse
  | keyboard
  deriving DecidableEq, Repr

/-- A key or button of a relayed device changed. -/
structure RelayEvent where
  source : RelaySource
  code : UInt32
  value : Int32
  deriving DecidableEq, Repr

/-- What reaches a station about its remote calls. -/
inductive Post where
  | reply (reply : Reply)
  /-- The service refused the call before it was sent. -/
  | issueFailed (kind : CallKind) (request : RequestId)
  | timerFired (kind : CallKind) (request : RequestId)
  /-- A newer call of the same kind took the place of `request`. -/
  | superseded (request : RequestId)
  | relay (event : RelayEvent)
  deriving DecidableEq, Repr

/-- How a call ended. -/
inductive Outcome where
  | succeeded
  /-- Answered with a failure status, or refused. -/
  | rejected
  /-- Not answered within the timeout and its retries. -/
  | timedOut
  /-- Replaced by a newer call of the same kind. -/
  | superseded
  deriving DecidableEq, Repr

namespace Outcome

def name : Outcome → String
  | succeeded => "Succeeded"
  | rejected => "Rejected"
  | timedOut => "TimedOut"
  | superseded => "Superseded"

def isSuccess : Outcome → Bool
  | succeeded => true
  | _ => false

/-- Why a call failed. -/
def reason? : Outcome → Option Reason
  | succeeded => none
  | rejected => some .remoteRejected
  | timedOut => some .remoteTimeout
  | superseded => some .superseded

end Outcome

/-- A finished call, with what its issuer wanted to be reminded of. -/
structure Resolved (κ : Type) where
  kind : CallKind
  request : RequestId
  outcome : Outcome
  completion : κ
  deriving DecidableEq, Repr

end PointerShare
