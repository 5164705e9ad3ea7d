/-
# A gateway at work

A gateway issues calls, cancels them, subscribes to relay events and takes the
posts of its mailbox, oldest first; around it the service answers, refuses and
emits as it likes, its listener calls fail or work, and the clock runs, with
alarms that go off some time after they are due. An `Exchange` is a gateway
with a bookkeeper beside it, who reads off what was issued, which posts were
taken and what came of them.

For its tracker an exchange is a run of a tracker that is fed from its own
mailbox, so what holds in those runs holds here. What was posted so far, the
posts that were taken and those that are queued, only grows, and at its end.

Key definitions: `Dealing`, `Gateway.deal`, `Exchange`, `Exchange.step`,
`Exchange.audit`, `Exchange.posted`.
Key theorems: `Exchange.audit_step`, `Exchange.sound_run`, `Exchange.posted_run`.
-/
import PointerShare.Proofs.Budget
import PointerShare.Proofs.MailOrder

namespace PointerShare

variable {κ : Type}

/-- What is done to a gateway, and what happens around it. -/
inductive Dealing (κ : Type) where
  | issue (kind : CallKind) (args : CallArgs) (completion : κ)
  | cancelAll
  | subscribe
  | unsubscribe
  /-- The oldest post is taken out and applied. -/
  | take
  /-- The service answers, with any reply to any call. -/
  | answer (reply : Reply)
  /-- The service emits a relay event. -/
  | relay (event : RelayEvent)
  /-- The clock moves on to `now`, and no alarm has gone off yet. -/
  | clock (now : Nat)
  /-- The alarms that are due go off, but for those with the serials `late`. -/
  | ring (late : List Nat)
  /-- From now on the service treats the calls of a kind in some way. -/
  | mood (kind : CallKind) (mood : Mood)
  /-- The service's listener calls fail, or work again. -/
  | listenerFaults (register unregister : Bool)
  deriving DecidableEq, Repr

namespace Gateway

/-- The gateway after a dealing. Without a post in the mailbox there is nothing to take. -/
def deal (g : Gateway κ) : Dealing κ → Gateway κ
  | .issue k args c => (g.issue k args c).2
  | .cancelAll => g.cancelAll.2
  | .subscribe => g.subscribe.2
  | .unsubscribe => g.unsubscribe.2
  | .take => ((clockwork.feed? g).map (·.2)).getD g
  | .answer r => g.post (.reply r)
  | .relay e => (g.emitRelay e).2
  | .clock now => g.setMailbox (g.mailbox.setClock now)
  | .ring late => g.setMailbox (g.mailbox.ringBut late)
  | .mood k m => { g with service := g.service.setMood k m }
  | .listenerFaults r u =>
    { g with service := { g.service with registerFails := r, unregisterFails := u } }

/-- What a post comes to is for the tracker to say. -/
theorem tracker_receive (g : Gateway κ) (p : Post) :
    (g.receive p).2 = { g with tracker := (g.tracker.apply p).2 } := by
  cases p <;> rfl

theorem deal_take_of_nil {g : Gateway κ} (h : g.mailbox.queue = []) : g.deal .take = g := by
  simp [deal, Clockwork.feed?, clockwork, Mailbox.take?, h]

theorem deal_take_of_cons {g : Gateway κ} {p : Post} {ps : List Post} (h : g.mailbox.queue = p :: ps) :
    g.deal .take = { g with tracker := ((g.tracker.withQueue ps).apply p).2 } := by
  simp only [deal, Clockwork.feed?, clockwork, Mailbox.take?, h, Option.map_some, Option.getD_some,
    tracker_receive]
  rfl

end Gateway

/-- The call that has ended, if one has. -/
def Arrival.ended? : Arrival κ → Option (Resolved κ)
  | .resolved call => some call
  | .relayed _ => none

theorem Arrival.bind_ended? (o : Option (Resolved κ)) :
    (o.map Arrival.resolved).bind Arrival.ended? = o := by
  cases o <;> rfl

/-- A gateway, and what a bookkeeper has written down of it. -/
structure Exchange (κ : Type) where
  gateway : Gateway κ
  issued : List (Ticket κ)
  /-- The posts that were taken out, oldest first. -/
  taken : List Post
  ended : List (Resolved κ)
  dropped : List (Ticket κ)

namespace Exchange

def empty (timeout retries : Nat) : Exchange κ := ⟨.empty timeout retries, [], [], [], []⟩

def step (e : Exchange κ) (d : Dealing κ) : Exchange κ :=
  let e' := { e with gateway := e.gateway.deal d }
  match d with
  | .issue k args c => { e' with issued := e.issued ++ [⟨k, (e.gateway.issue k args c).1, c⟩] }
  | .cancelAll => { e' with dropped := e.dropped ++ Audit.cancelled e.gateway.tracker }
  | .take => match Gateway.clockwork.feed? e.gateway with
    | none => e'
    | some (h, _) => { e' with
        taken := e.taken ++ [h.post]
        ended := e.ended ++ (h.result.bind Arrival.ended?).toList }
  | _ => e'

def run (e : Exchange κ) (ds : List (Dealing κ)) : Exchange κ := ds.foldl step e

/-- What was posted so far and not lost, oldest first. -/
def posted (e : Exchange κ) : List Post := e.taken ++ e.gateway.mailbox.queue

/-- The books of the tracker. -/
def audit (e : Exchange κ) : Audit κ := ⟨e.gateway.tracker, e.issued, e.ended, e.dropped⟩

theorem run_cons (e : Exchange κ) (d : Dealing κ) (ds : List (Dealing κ)) :
    e.run (d :: ds) = (e.step d).run ds :=
  rfl

@[simp] theorem gateway_step (e : Exchange κ) (d : Dealing κ) :
    (e.step d).gateway = e.gateway.deal d := by
  cases d with
  | take =>
    unfold step
    dsimp only
    split <;> rfl
  | _ => rfl

theorem step_take_of_nil {e : Exchange κ} (h : e.gateway.mailbox.queue = []) : e.step .take = e := by
  have hfeed : Gateway.clockwork.feed? e.gateway = none := by
    simp only [Clockwork.feed?, Gateway.clockwork, Mailbox.take?, h]
  simp only [step, hfeed, Gateway.deal_take_of_nil h]

/-- What taking out a first post comes to. -/
theorem step_take_of_cons {e : Exchange κ} {p : Post} {ps : List Post}
    (h : e.gateway.mailbox.queue = p :: ps) :
    e.step .take = { e with
      gateway := { e.gateway with tracker := ((e.gateway.tracker.withQueue ps).apply p).2 }
      taken := e.taken ++ [p]
      ended := e.ended ++ ((e.gateway.tracker.withQueue ps).apply p).1.toList } := by
  have hended : ((e.gateway.setMailbox { e.gateway.mailbox with queue := ps }).receive p).1.bind
      Arrival.ended? = ((e.gateway.tracker.withQueue ps).apply p).1 := by
    cases p with
    | relay event =>
      show (if e.gateway.subscribed then some (Arrival.relayed event) else none).bind _ = none
      split <;> rfl
    | _ => exact Arrival.bind_ended? _
  have hfeed : Gateway.clockwork.feed? e.gateway = some
      (⟨e.gateway.mailbox.now, p,
        ((e.gateway.setMailbox { e.gateway.mailbox with queue := ps }).receive p).1⟩,
      ((e.gateway.setMailbox { e.gateway.mailbox with queue := ps }).receive p).2) := by
    simp only [Clockwork.feed?, Gateway.clockwork, Mailbox.take?, h]
  unfold step
  dsimp only
  rw [hfeed, Gateway.deal_take_of_cons h, ← hended]

end Exchange

/-! ### An exchange as a run of its tracker -/

/-- The posts of a reaction come one after the other. -/
def Reaction.feeds (r : Reaction) (call : ServiceCall) : List (Feed κ) :=
  r.replies.map (fun q => .hear (.reply q) rfl) ++
    if r.refuses then [.hear (.issueFailed call.kind call.request) rfl] else []

/-- What a dealing is for the tracker. -/
def Dealing.feeds (g : Gateway κ) : Dealing κ → List (Feed κ)
  | .issue k args c =>
    let call : ServiceCall := ⟨k, (g.tracker.register k args c).1, args⟩
    .register k args c :: (g.service.react call).feeds call
  | .cancelAll => [.cancelAll]
  | .take => [.take]
  | .answer r => [.hear (.reply r) rfl]
  | .relay e => if g.service.hasListener then [.hear (.relay e) rfl] else []
  | .clock now => [.clock now]
  | .ring late => [.ring late]
  | .subscribe | .unsubscribe | .mood _ _ | .listenerFaults _ _ => []

theorem Audit.follow_append (a : Audit κ) (before after : List (Feed κ)) :
    a.follow (before ++ after) = (a.follow before).follow after :=
  List.foldl_append

theorem Audit.follow_reaction (r : Reaction) (call : ServiceCall) (a : Audit κ) :
    a.follow (r.feeds call) = { a with
      tracker := { a.tracker with mailbox := a.tracker.mailbox.postAll (r.posts call) } } := by
  have hreplies (qs : List Reply) : ∀ a : Audit κ, a.follow (qs.map fun q => .hear (.reply q) rfl) =
      { a with tracker := { a.tracker with mailbox := a.tracker.mailbox.postAll (qs.map .reply) } } := by
    induction qs with
    | nil => exact fun _ => rfl
    | cons q qs ih => exact fun a => ih (a.feed (.hear (.reply q) rfl))
  rw [Reaction.feeds, Reaction.posts, Audit.follow_append, hreplies, Mailbox.postAll, Mailbox.postAll,
    List.foldl_append]
  split <;> rfl

namespace Exchange

/-- For its tracker, an exchange is a run of a tracker that is fed from its own mailbox. -/
theorem audit_step (e : Exchange κ) (d : Dealing κ) :
    (e.step d).audit = e.audit.follow (d.feeds e.gateway) := by
  cases d with
  | issue k args c =>
    rw [Dealing.feeds, Audit.follow, List.foldl_cons, ← Audit.follow, Audit.follow_reaction]
    rfl
  | take =>
    cases hq : e.gateway.mailbox.queue with
    | nil =>
      rw [step_take_of_nil hq]
      exact (Audit.feed_take_of_nil hq).symm
    | cons p ps =>
      rw [step_take_of_cons hq]
      exact (Audit.feed_take_eq (a := e.audit) hq).symm
  | subscribe => simp only [audit, gateway_step, Gateway.deal, Gateway.tracker_subscribe]; rfl
  | unsubscribe => simp only [audit, gateway_step, Gateway.deal, Gateway.tracker_unsubscribe]; rfl
  | relay event =>
    simp only [audit, gateway_step, Gateway.deal, Gateway.emitRelay, Dealing.feeds]
    split <;> rfl
  | cancelAll | answer | clock | ring | mood | listenerFaults => rfl

/-- The books are right, every pending call has one timeout, and what is queued is about calls that
were made, unless it comes from outside. -/
structure Sound (e : Exchange κ) : Prop where
  regular : e.audit.Regular
  dated : e.gateway.tracker.Dated

theorem sound_step {e : Exchange κ} (h : e.Sound) (d : Dealing κ) : (e.step d).Sound := by
  refine ⟨?_, ?_⟩
  · rw [audit_step]
    exact Audit.regular_follow h.regular _
  rw [gateway_step]
  cases d with
  | issue k args c => exact Gateway.dated_issue h.dated k args c
  | cancelAll => exact h.dated.cancelAll
  | subscribe => exact (Gateway.tracker_subscribe e.gateway).symm ▸ h.dated
  | unsubscribe => exact (Gateway.tracker_unsubscribe e.gateway).symm ▸ h.dated
  | take =>
    cases hq : e.gateway.mailbox.queue with
    | nil => rw [Gateway.deal_take_of_nil hq]; exact h.dated
    | cons p ps =>
      rw [Gateway.deal_take_of_cons hq]
      have hrest : (e.gateway.tracker.withQueue ps).Dated :=
        ⟨⟨fun q hmem => h.dated.mailbox.queue q (hq ▸ List.mem_cons_of_mem p hmem),
          h.dated.mailbox.alarms⟩, h.dated.pending⟩
      exact hrest.apply p
  | answer r => exact ⟨h.dated.mailbox.post trivial, h.dated.pending⟩
  | relay event =>
    unfold Gateway.deal Gateway.emitRelay
    dsimp only
    split
    · exact ⟨h.dated.mailbox.post trivial, h.dated.pending⟩
    · exact h.dated
  | clock now => exact ⟨⟨h.dated.mailbox.queue, h.dated.mailbox.alarms⟩, h.dated.pending⟩
  | ring late =>
    refine ⟨Mailbox.Dated.postAll (fun p hp => ?_) ⟨h.dated.mailbox.queue, fun a ha => ?_⟩,
      h.dated.pending⟩
    · obtain ⟨a, ha, rfl⟩ := List.mem_map.mp hp
      exact h.dated.mailbox.alarms a (List.mem_filter.mp ha).1
    · exact h.dated.mailbox.alarms a (List.mem_filter.mp ha).1
  | mood | listenerFaults => exact h.dated

theorem sound_run {e : Exchange κ} (h : e.Sound) (ds : List (Dealing κ)) : (e.run ds).Sound := by
  induction ds generalizing e with
  | nil => exact h
  | cons d ds ih => exact ih (sound_step h d)

theorem sound_empty (timeout retries : Nat) : (empty timeout retries : Exchange κ).Sound := by
  refine ⟨Audit.regular_empty timeout retries, ⟨nofun, nofun⟩, fun k c hc => ?_⟩
  have hnone : (empty timeout retries : Exchange κ).gateway.tracker.calls.get k = none :=
    PerKind.get_const _ k
  rw [hnone] at hc
  cases hc

theorem settings_step (e : Exchange κ) (d : Dealing κ) :
    (e.step d).gateway.tracker.timeout = e.gateway.tracker.timeout ∧
      (e.step d).gateway.tracker.retries = e.gateway.tracker.retries := by
  have h := e.audit.settings_follow (d.feeds e.gateway)
  rw [← audit_step] at h
  exact h

theorem settings_run (ds : List (Dealing κ)) : ∀ e : Exchange κ,
    (e.run ds).gateway.tracker.timeout = e.gateway.tracker.timeout ∧
      (e.run ds).gateway.tracker.retries = e.gateway.tracker.retries := by
  induction ds with
  | nil => exact fun _ => ⟨rfl, rfl⟩
  | cons d ds ih =>
    intro e
    obtain ⟨ht, hr⟩ := ih (e.step d)
    obtain ⟨ht', hr'⟩ := e.settings_step d
    exact ⟨ht.trans ht', hr.trans hr'⟩

end Exchange

/-! ### The stream of posts -/

/-- What is posted when a call takes the place of the pending one of its kind. -/
def Tracker.supersedes (t : Tracker κ) (k : CallKind) : List Post :=
  (replacedBy k (t.calls.get k)).map fun r => .superseded r.request

theorem Tracker.register_posts {t : Tracker κ} (h : t.Timed) (k : CallKind) (args : CallArgs) (c : κ) :
    (t.register k args c).2.mailbox.queue = t.mailbox.queue ++ t.supersedes k := by
  rw [h.register_eq]
  show (t.supersede k).mailbox.queue = _
  unfold supersedes supersede
  rw [get_calls]
  cases hp : t.pending? k with
  | none => simp [replacedBy]
  | some old =>
    exact congrArg Mailbox.queue (Mailbox.post_eq (m := t.mailbox.dropAlarm old.alarm) h.isOpen _)

/-- What a dealing posts. -/
def Dealing.posts (g : Gateway κ) : Dealing κ → List Post
  | .issue k args c =>
    let call : ServiceCall := ⟨k, (g.issue k args c).1, args⟩
    g.tracker.supersedes k ++ (g.service.react call).posts call
  | .answer r => [.reply r]
  | .relay e => if g.service.hasListener then [.relay e] else []
  | .ring late => (g.mailbox.alarms.filter (g.mailbox.goesOff late)).map Alarm.post
  | .cancelAll | .subscribe | .unsubscribe | .take | .clock _ | .mood _ _ | .listenerFaults _ _ => []

/-- What a dealing takes out of the mailbox. -/
def Dealing.takes (g : Gateway κ) : Dealing κ → List Post
  | .take => g.mailbox.queue.head?.toList
  | _ => []

/-- Posts are taken from the front of the queue, and new ones come at its end. -/
theorem Gateway.queue_deal {g : Gateway κ} (h : g.tracker.Timed) (d : Dealing κ) :
    d.takes g ++ (g.deal d).mailbox.queue = g.mailbox.queue ++ d.posts g := by
  have ho : g.mailbox.isOpen = true := h.isOpen
  have hsame {g' : Gateway κ} (hq : g'.mailbox.queue = g.mailbox.queue) :
      [] ++ g'.mailbox.queue = g.mailbox.queue ++ [] := by rw [hq, List.nil_append, List.append_nil]
  cases d with
  | issue k args c =>
    have hreg := Tracker.register_posts h k args c
    have hopen := (h.register k args c).isOpen
    show (Mailbox.postAll (g.tracker.register k args c).2.mailbox _).queue = _
    rw [Mailbox.postAll_eq _ hopen]
    show (g.tracker.register k args c).2.mailbox.queue ++ _ = _
    rw [hreg, List.append_assoc]
    rfl
  | take =>
    cases hq : g.mailbox.queue with
    | nil =>
      rw [deal_take_of_nil hq, hq, Dealing.takes, hq]
      rfl
    | cons p ps =>
      rw [deal_take_of_cons hq, Dealing.takes, hq, Dealing.posts, List.append_nil]
      show [p] ++ ((g.tracker.withQueue ps).apply p).2.mailbox.queue = _
      rw [Tracker.queue_apply]
      rfl
  | cancelAll =>
    refine hsame ?_
    show g.tracker.mailboxAtRest.queue = _
    rw [Tracker.Timed.mailboxAtRest_eq]
    rfl
  | subscribe => exact hsame (congrArg (fun t => t.mailbox.queue) g.tracker_subscribe)
  | unsubscribe => exact hsame (congrArg (fun t => t.mailbox.queue) g.tracker_unsubscribe)
  | answer r => exact congrArg Mailbox.queue (Mailbox.post_eq ho _)
  | relay event =>
    simp only [deal, emitRelay, Dealing.posts]
    split
    · exact congrArg Mailbox.queue (Mailbox.post_eq ho _)
    · exact hsame rfl
  | ring late => exact congrArg Mailbox.queue (Mailbox.ringBut_eq ho late)
  | clock | mood | listenerFaults => exact hsame rfl

namespace Exchange

theorem taken_step (e : Exchange κ) (d : Dealing κ) :
    (e.step d).taken = e.taken ++ d.takes e.gateway := by
  cases d with
  | take =>
    cases hq : e.gateway.mailbox.queue with
    | nil =>
      rw [step_take_of_nil hq, Dealing.takes, hq]
      exact (List.append_nil _).symm
    | cons p ps =>
      rw [step_take_of_cons hq, Dealing.takes, hq]
      rfl
  | _ => exact (List.append_nil _).symm

/-- What was posted before stays, in its order, and what is posted now comes after it. -/
theorem posted_step {e : Exchange κ} (h : e.Sound) (d : Dealing κ) :
    (e.step d).posted = e.posted ++ d.posts e.gateway := by
  rw [posted, taken_step, gateway_step, List.append_assoc, Gateway.queue_deal h.regular.timed,
    posted, List.append_assoc]

/-- What was posted stays posted, in its order. -/
theorem posted_run (ds : List (Dealing κ)) : ∀ {e : Exchange κ}, e.Sound →
    e.posted <+: (e.run ds).posted := by
  induction ds with
  | nil => exact fun _ => List.prefix_rfl
  | cons d ds ih =>
    intro e h
    refine List.IsPrefix.trans ?_ (ih (sound_step h d))
    rw [posted_step h]
    exact List.prefix_append _ _

end Exchange

end PointerShare
