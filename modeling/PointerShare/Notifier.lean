/-
# Handing notices to observers

The notifier hands every published notice to the observers that are
subscribed at that moment, in the order in which they subscribed. An observer
that fails on a notice keeps nobody else from getting it, and stays
subscribed. A channel takes every notice, even when nobody reads it any more.
Subscription numbers are never used twice.

The record of handovers shows who was handed what, oldest first.

Key definitions: `Observer`, `Notifier`, `Notifier.subscribe`,
`Notifier.unsubscribe`, `Notifier.publishBy`, `Notifier.publish`,
`Notifier.heardSince`.
-/
import PointerShare.Notice

namespace PointerShare

/-- A party that wants to hear notices. -/
inductive Observer where
  /-- Called with each notice; fails on those with one of the given messages. -/
  | direct (failsOn : List Message)
  /-- Put into a channel that is read elsewhere. -/
  | channel
  deriving DecidableEq, Repr

/-- What became of a notice that was handed to an observer. -/
inductive Reception where
  | taken
  | failed
  /-- Put into a channel that nobody reads. -/
  | unread
  deriving DecidableEq, Repr

structure Subscriber where
  id : Nat
  tag : String
  observer : Observer
  /-- A channel that is still read. -/
  isRead : Bool
  deriving DecidableEq, Repr

/-- A notice handed to an observer. -/
structure Handover where
  subscriber : Subscriber
  notice : Notice
  reception : Reception
  deriving DecidableEq, Repr

structure Notifier where
  subscribers : List Subscriber
  /-- How many subscriptions there ever were. They are counted in 64 bits; fewer than 2^64 are
  assumed. -/
  issued : Nat
  handovers : List Handover
  deriving DecidableEq, Repr

namespace Notifier

def empty : Notifier := ⟨[], 0, []⟩

/-- Subscribes an observer; the number is one more than the last subscription's. -/
def subscribe (n : Notifier) (tag : String) (observer : Observer) : Nat × Notifier :=
  (n.issued + 1,
    { n with
      issued := n.issued + 1
      subscribers := n.subscribers ++ [⟨n.issued + 1, tag, observer, true⟩] })

/-- Ends a subscription; `false` when there is none of that number. -/
def unsubscribe (n : Notifier) (id : Nat) : Bool × Notifier :=
  (n.subscribers.any fun s => s.id == id,
    { n with subscribers := n.subscribers.filter fun s => s.id != id })

/-- Nobody reads the channels called `tag` any more. -/
def stopReading (n : Notifier) (tag : String) : Notifier :=
  { n with
    subscribers := n.subscribers.map fun s =>
      if s.observer = .channel ∧ s.tag = tag then { s with isRead := false } else s }

/-- What an observer does with a notice. -/
def Subscriber.receive (s : Subscriber) (notice : Notice) : Reception :=
  match s.observer with
  | .direct failsOn => if notice.message ∈ failsOn then .failed else .taken
  | .channel => if s.isRead then .taken else .unread

/-- The handovers that publishing a notice makes to observers that receive it in some way. -/
def handoversBy (receive : Subscriber → Notice → Reception) (n : Notifier) (notice : Notice) :
    List Handover :=
  n.subscribers.map fun s => ⟨s, notice, receive s notice⟩

/-- The handovers that publishing a notice makes. -/
def handoversOf (n : Notifier) (notice : Notice) : List Handover :=
  n.handoversBy Subscriber.receive notice

/-- Hands a notice to every subscribed observer, whatever these do with it, and says how many did
not fail on it. -/
def publishBy (receive : Subscriber → Notice → Reception) (n : Notifier) (notice : Notice) :
    Nat × Notifier :=
  ((n.handoversBy receive notice).countP fun h => h.reception != .failed,
    { n with handovers := n.handovers ++ n.handoversBy receive notice })

/-- Hands a notice to every subscribed observer, and says how many did not fail on it. -/
def publish (n : Notifier) (notice : Notice) : Nat × Notifier :=
  n.publishBy Subscriber.receive notice

/-- What observers took since the first `count` handovers: called ones as they were called, then
each channel's notices in turn. -/
def heardSince (n : Notifier) (count : Nat) : List (String × Notice) :=
  let taken := (n.handovers.drop count).filter fun h => h.reception == .taken
  let called := taken.filter fun h => h.subscriber.observer != .channel
  let channels := taken.filter fun h => h.subscriber.observer == .channel
  (called ++ channels.mergeSort fun a b => a.subscriber.id ≤ b.subscriber.id).map
    fun h => (h.subscriber.tag, h.notice)

end Notifier

end PointerShare
