/-
# A station while the clock runs

How a station's mailbox is worked: post by post, or all that is there and all
it causes. Peers are told when the outbox is flushed, and as long as that
takes, the clock runs.

Key definitions: `Station.clockwork`, `Station.settle`, `Station.flush`.
-/
import PointerShare.Clockwork
import PointerShare.Station.Peer

namespace PointerShare

namespace Tracker

variable {κ : Type}

/-- A bound on the posts that can still come of a tracker's calls, and of `more` further calls for
each: every call is answered, refused or superseded a few times and expires once more than there
are retries. -/
def postLimit (t : Tracker κ) (more : Nat) : Nat :=
  (t.mailbox.queue.length + t.mailbox.alarms.length + (t.openCount + 4) * 4 * (more + 1) + 1) *
    (t.retries + 4)

/-- Handling a tracker's posts. -/
def clockwork : Clockwork (Tracker κ) (Option (Resolved κ)) where
  mailbox := Tracker.mailbox
  setMailbox t m := { t with mailbox := m }
  handle p t := t.apply p
  limit t := t.postLimit 0

end Tracker

namespace Gateway

/-- Handling a gateway's posts. -/
def clockwork {κ : Type} : Clockwork (Gateway κ) (Option (Arrival κ)) where
  mailbox := Gateway.mailbox
  setMailbox := Gateway.setMailbox
  handle p g := g.receive p
  limit g := g.tracker.postLimit 0

end Gateway

namespace Station

def setMailbox (s : Station) (m : Mailbox) : Station :=
  { s with gateway := s.gateway.setMailbox m }

/-- Handling a station's posts. One call leads to at most four others. -/
def clockwork : Clockwork Station Unit where
  mailbox s := s.gateway.mailbox
  setMailbox := Station.setMailbox
  handle p s := ((), s.receive p)
  limit s := s.gateway.tracker.postLimit 4

/-- Tells peers everything that is queued. -/
def flush (s : Station) : Station :=
  let (done, outbox) := s.outbox.flush s.now
  { s with outbox := outbox }.setMailbox (s.gateway.mailbox.advanceTo done)

/-- Handles all posts and those they cause, then tells peers what came of it. -/
def settle (s : Station) : List (Handled Unit) × Station :=
  let (handled, s) := clockwork.drain s
  (handled, s.flush)

/-- Handles the oldest of the switch changes that were heard. -/
def nextChange (s : Station) : Option (NetworkId × Bool) × Station :=
  match s.changes with
  | [] => (none, s)
  | change :: rest => (some change, { s with changes := rest }.switchChanged change.1 change.2)

end Station

end PointerShare
