/-
# Working a mailbox

How an owner of a mailbox takes its posts: one at a time, all that are there
and all they cause, or as they arrive while the clock runs. The owner is any
state with a mailbox in it and a way to handle a post.

Every post that is handled was queued, posted by an alarm, or caused by the
handling of another, and an owner says how many of these there can be at most
(`limit`), so the runs end.

Key definitions: `Clockwork`, `Clockwork.feed?`, `Clockwork.drain`,
`Clockwork.run`.
-/
import PointerShare.Mailbox

namespace PointerShare

/-- An owner `σ` of a mailbox; handling a post gives an `ο`. -/
structure Clockwork (σ ο : Type) where
  mailbox : σ → Mailbox
  setMailbox : σ → Mailbox → σ
  handle : Post → σ → ο × σ
  /-- A bound on the posts that can come of a state while its clock runs. -/
  limit : σ → Nat

/-- A handled post: when, what, and what came of it. -/
structure Handled (ο : Type) where
  time : Nat
  post : Post
  result : ο

namespace Clockwork

variable {σ ο : Type} (w : Clockwork σ ο)

/-- Takes the oldest post out and handles it. -/
def feed? (s : σ) : Option (Handled ο × σ) :=
  match (w.mailbox s).take? with
  | none => none
  | some (p, m) =>
    let (o, s') := w.handle p (w.setMailbox s m)
    some (⟨(w.mailbox s).now, p, o⟩, s')

/-- Takes the oldest post out and leaves it at that. -/
def next? (s : σ) : Option (Post × σ) :=
  (w.mailbox s).take?.map fun (p, m) => (p, w.setMailbox s m)

/-- Handles all queued posts and those they cause, at most `n`. -/
def drainUpTo : Nat → σ → List (Handled ο) × σ
  | 0, s => ([], s)
  | n + 1, s => match w.feed? s with
    | none => ([], s)
    | some (h, s') =>
      let (rest, last) := drainUpTo n s'
      (h :: rest, last)

/-- Handles all queued posts and those they cause. -/
def drain (s : σ) : List (Handled ο) × σ := w.drainUpTo (w.limit s) s

/-- Posts for the alarms that are due. -/
def ring (s : σ) : σ := w.setMailbox s (w.mailbox s).ring

/-- Lets the clock run to `t`, handling each post when it arrives, at most `n` posts and rings. -/
def runUpTo (t : Nat) : Nat → σ → List (Handled ο) × σ
  | 0, s => ([], s)
  | n + 1, s => match w.feed? s with
    | some (h, s') =>
      let (rest, last) := runUpTo t n s'
      (h :: rest, last)
    | none => match (w.mailbox s).ringNext? t with
      | some m => runUpTo t n (w.setMailbox s m)
      | none => ([], w.setMailbox s ((w.mailbox s).setClock t))

/-- Lets the clock run for `ms` milliseconds, handling first what is queued and then each post
when it arrives, up to and including the end. -/
def run (ms : Nat) (s : σ) : List (Handled ο) × σ :=
  w.runUpTo ((w.mailbox s).now + ms) (2 * w.limit s + 1) s

/-- Lets the clock run for `ms` milliseconds; alarms post, and nobody handles. -/
def advance (ms : Nat) (s : σ) : σ :=
  let m := w.mailbox s
  w.setMailbox s (m.advanceTo (m.now + ms))

end Clockwork

end PointerShare
