/-
# Following every remote call to one outcome

The tracker holds the calls that have not ended, at most one of each kind. A
call ends once: by a failed reply that repeats its arguments, by successful
replies of every shape its kind asks for, by a refusal, or when its alarm has
gone off once more than there were retries. A newer call of the same kind
supersedes an older one, which then ends when its `superseded` post is taken.
Replies that name another call, or other arguments, and repeated replies,
change nothing.

The tracker never acts on an outcome: it hands back the completion that was
registered with the call.

Key definitions: `Tracker`, `Tracker.register`, `Tracker.onReply`,
`Tracker.onTimer`, `Tracker.onIssueFailed`, `Tracker.takeSuperseded`,
`Tracker.cancelAll`, `Tracker.apply`.
-/
import PointerShare.Mailbox

namespace PointerShare

/-- A call that has not ended. -/
structure Pending (κ : Type) where
  request : RequestId
  args : CallArgs
  retries : Nat
  /-- The alarm that was set last for this call. -/
  alarm : Nat
  /-- The shapes in which success has not been reported yet. -/
  outstanding : List PartShape
  completion : κ
  deriving DecidableEq, Repr

/-- A call that a newer one of its kind has replaced. -/
structure Replaced (κ : Type) where
  kind : CallKind
  request : RequestId
  completion : κ
  deriving DecidableEq, Repr

structure Tracker (κ : Type) where
  mailbox : Mailbox
  pending : PerKind (Option (Pending κ))
  superseded : List (Replaced κ)
  /-- How many calls were ever registered. They are counted in 64 bits; fewer than 2^64 are
  assumed. -/
  issued : Nat
  timeout : Nat
  retries : Nat
  deriving DecidableEq, Repr

namespace Tracker

variable {κ : Type}

/-- A tracker without calls, whose calls time out after `timeout` milliseconds each time. -/
def empty (timeout retries : Nat) : Tracker κ :=
  ⟨.empty, .const none, [], 0, timeout, retries⟩

/-- The pending call of a kind. -/
def pending? (t : Tracker κ) (kind : CallKind) : Option (Pending κ) := t.pending.get kind

/-- The call of a kind that is both pending and numbered `request`. -/
def current? (t : Tracker κ) (kind : CallKind) (request : RequestId) : Option (Pending κ) :=
  (t.pending? kind).filter fun p => p.request == request

def isPending (t : Tracker κ) (kind : CallKind) : Bool := (t.pending? kind).isSome

/-- How many calls are pending. -/
def pendingCount (t : Tracker κ) : Nat := t.pending.toList.countP Option.isSome

def post (t : Tracker κ) (p : Post) : Tracker κ := { t with mailbox := t.mailbox.post p }

/-- Takes the place of the pending call of `kind`, which goes to the superseded calls. -/
def supersede (t : Tracker κ) (kind : CallKind) : Tracker κ :=
  match t.pending? kind with
  | none => t
  | some old =>
    { t with
      mailbox := (t.mailbox.dropAlarm old.alarm).post (.superseded old.request)
      pending := t.pending.set kind none
      superseded := t.superseded ++ [⟨kind, old.request, old.completion⟩] }

/-- Registers a call and sets its alarm. A pending call of the same kind is superseded. -/
def register (t : Tracker κ) (kind : CallKind) (args : CallArgs) (completion : κ) :
    RequestId × Tracker κ :=
  let request : RequestId := ⟨t.issued + 1⟩
  let alarm := t.mailbox.nextSerial
  let t := { t with
    issued := t.issued + 1
    mailbox := t.mailbox.setAlarm t.timeout kind request }.supersede kind
  (request, { t with
    pending := t.pending.set kind
      (some ⟨request, args, t.retries, alarm, kind.shapes, completion⟩) })

/-- Ends the pending call of `kind`. -/
def resolve (t : Tracker κ) (kind : CallKind) (outcome : Outcome) :
    Option (Resolved κ) × Tracker κ :=
  match t.pending? kind with
  | none => (none, t)
  | some p =>
    (some ⟨kind, p.request, outcome, p.completion⟩,
      { t with
        mailbox := t.mailbox.dropAlarm p.alarm
        pending := t.pending.set kind none })

/-- Applies a reply of the remote input service. -/
def onReply (t : Tracker κ) (reply : Reply) : Option (Resolved κ) × Tracker κ :=
  match t.current? reply.kind reply.request with
  | none => (none, t)
  | some p =>
    if !p.args.echoes reply.part then (none, t)
    else if !reply.isSuccess then t.resolve reply.kind .rejected
    else if reply.part.shape ∉ p.outstanding then (none, t)
    else
      let outstanding := p.outstanding.erase reply.part.shape
      let t := { t with
        pending := t.pending.set reply.kind (some { p with outstanding := outstanding }) }
      if outstanding.isEmpty then t.resolve reply.kind .succeeded else (none, t)

/-- Applies an expired timer: sets it again while retries remain, then gives up. -/
def onTimer (t : Tracker κ) (kind : CallKind) (request : RequestId) :
    Option (Resolved κ) × Tracker κ :=
  match t.current? kind request with
  | none => (none, t)
  | some p =>
    if p.retries = 0 then t.resolve kind .timedOut
    else
      (none, { t with
        mailbox := t.mailbox.setAlarm t.timeout kind request
        pending := t.pending.set kind
          (some { p with retries := p.retries - 1, alarm := t.mailbox.nextSerial }) })

/-- Applies the refusal of a call. -/
def onIssueFailed (t : Tracker κ) (kind : CallKind) (request : RequestId) :
    Option (Resolved κ) × Tracker κ :=
  match t.current? kind request with
  | none => (none, t)
  | some _ => t.resolve kind .rejected

/-- Ends a superseded call. -/
def takeSuperseded (t : Tracker κ) (request : RequestId) : Option (Resolved κ) × Tracker κ :=
  match t.superseded.find? fun r => r.request == request with
  | none => (none, t)
  | some r =>
    (some ⟨r.kind, r.request, .superseded, r.completion⟩,
      { t with superseded := t.superseded.filter fun s => s.request != request })

/-- Applies a post; a relay event is none of the tracker's business. -/
def apply (t : Tracker κ) : Post → Option (Resolved κ) × Tracker κ
  | .reply reply => t.onReply reply
  | .timerFired kind request => t.onTimer kind request
  | .issueFailed kind request => t.onIssueFailed kind request
  | .superseded request => t.takeSuperseded request
  | .relay _ => (none, t)

/-- The mailbox without the alarms of the pending calls. -/
def mailboxAtRest (t : Tracker κ) : Mailbox :=
  t.pending.toList.foldl (fun m p => match p with
    | none => m
    | some p => m.dropAlarm p.alarm) t.mailbox

/-- How many calls have not ended. -/
def openCount (t : Tracker κ) : Nat := t.pendingCount + t.superseded.length

/-- Drops every call without an outcome, and says how many. -/
def cancelAll (t : Tracker κ) : Nat × Tracker κ :=
  (t.openCount,
    { t with mailbox := t.mailboxAtRest, pending := .const none, superseded := [] })

end Tracker

end PointerShare
