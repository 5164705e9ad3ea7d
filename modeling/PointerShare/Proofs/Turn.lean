/-
# All that one move can do

`Turn` lists what a move can do to the control of a station, with the notices
that it publishes and what it queues for peers: one constructor for each way it
can go, with the conditions under which it goes that way. Whatever is kept by all of
them is kept by every run (`Station.turns`), so nothing that is proved of runs
looks into a station again.

Key definitions: `Ends`, `Shares`, `Turn`, `Station.Shows`, `Station.Turns`.
-/
import PointerShare.Proofs.Control

namespace PointerShare

/-! ### What a move asks for -/

namespace Station

/-- The start that a move makes, if it asks for one that is not refused. -/
def startRoute? (s : Station) : Move → Option StartRoute
  | .event (.request (.start target device)) => (s.planStart target device).toOption
  | _ => none

/-- The stop call that a move makes: because it asks for one, or because the station is to take
part no longer, or a device moved that is not the session's, or a peer takes part no longer. -/
def stopRoute? (s : Station) : Move → Option StopRoute
  | .event (.request .stop) => s.planStop.toOption
  | .event (.request (.enable on)) =>
    if on || s.crossing.updateFails || s.role.isFree then none else s.planStop.toOption
  | .event (.request (.judge e)) =>
    if s.belongs e.device || s.role.isFree || !e.action.isMotion then none
    else s.planStop.toOption
  | .event (.switchChanged id on) =>
    if on || !s.participates id then none else s.planStop.toOption
  | .change => match s.changes with
    | [] => none
    | c :: _ => if c.2 || !s.participates c.1 then none else s.planStop.toOption
  | _ => none

/-- What observers hear of the switch that a move sets. -/
def overture (s : Station) : Move → List Notice
  | .event (.request (.enable on)) =>
    if s.crossing.updateFails then [] else [.of (if on then .stateOn else .stateOff) s.home]
  | _ => []

/-- The call that ends when the oldest post is taken. -/
def ending? (s : Station) : Option (Resolved Continuation) :=
  match s.gateway.mailbox.take? with
  | none => none
  | some (p, m) => ({ s.gateway.tracker with mailbox := m }.apply p).1

end Station

/-- A call ends, pending or superseded. -/
inductive Ends (c : Control) : Resolved Continuation → Control → Prop
  | pending (k : CallKind) (call : Call Continuation) (o : Outcome)
      (hk : c.calls.get k = some call) (ho : o ≠ .superseded) :
      Ends c ⟨k, call.request, o, call.completion⟩ { c with calls := c.calls.set k none }
  | superseded (r : Replaced Continuation) (hr : r ∈ c.superseded) :
      Ends c ⟨r.kind, r.request, .superseded, r.completion⟩
        { c with superseded := c.superseded.filter fun q => q.request != r.request }

/-- The link is prepared: the devices are started over it, or there are none. -/
inductive Shares (c : Control) (plan : StartPlan) : Control → List Notice → List Dispatch → Prop
  | calls (dhids : List Dhid) (hd : c.registry.shareable plan.device = dhids) (hne : dhids ≠ []) :
      Shares c plan
        (c.issue .start ⟨plan.src, plan.target, dhids⟩ (.started { plan with dhids := dhids })) [] []
  | lacks (hd : c.registry.shareable plan.device = []) :
      Shares c plan c.failed [.failed .infoFail plan.target .noShareableDevice]
        [.startResult plan.target false (c.dhidFor plan.device) c.startLocation]

/-- The start whose last call this is, when it goes well. -/
def Continuation.last? : Continuation → Option (NetworkId × DeviceId)
  | started plan => if plan.relays then none else some (plan.target, plan.device)
  | originStopped plan => some (plan.target, plan.device)
  | cameBack target device => some (target, device)
  | _ => none

/-- The start that fails with this call, for the call's own reason. -/
def Continuation.leg? : Continuation → Option (NetworkId × DeviceId)
  | started plan => some (plan.target, plan.device)
  | cameBack target device => some (target, device)
  | _ => none

namespace Control

/-- A start is accepted while the cursor is at `l`. -/
def begin (c : Control) (l : Location) : Control := { c with guard := .starting, startLocation := l }

/-- The stop call `r` is made. -/
def close (c : Control) (r : StopRoute) : Control :=
  { c with guard := .stopping }.issue .stop ⟨r.src, r.sink, r.dhids⟩ (.stopped r.peer)

/-- The session with `id` is over because `id` is gone. -/
def reset (c : Control) : Control :=
  { c with
    role := .free, guard := .idle, link := .none, sessionPeer := none, announcer := none
    calls := .const none, superseded := [] }

end Control

/-- What a move can do: the control after it, the notices it publishes, and what it queues for
peers. -/
inductive Turn (s : Station) : Move → Control → List Notice → List Dispatch → Prop
  /-- Nothing that concerns the session. -/
  | rest (m : Move) (hstart : s.startRoute? m = none) (hstop : s.stopRoute? m = none)
      (htake : m = .take → s.ending? = none) (hoff : ∀ id, m ≠ .event (.deviceOffline id)) :
      Turn s m s.control (s.overture m) []
  | devices (ds : List InputDevice) :
      Turn s (.happen (.devices ds))
        { s.control with registry := { s.registry with devices := ds } } [] []
  /-- A start prepares the link. -/
  | prepares (target : NetworkId) (device : DeviceId) (route : StartRoute) (plan : StartPlan)
      (hp : s.planStart target device = .ok route)
      (hr : route = .share plan ∨ route = .relay plan)
      (hl : s.link.joins plan.src plan.target = false) :
      Turn s (.event (.request (.start target device)))
        ((s.control.begin s.cursor.location).issue .prepare ⟨plan.src, plan.target, []⟩
          (.prepared plan))
        [.of .infoStart target] [.announceStart s.home plan.target]
  /-- A start whose link is prepared already. -/
  | sharesAtOnce (target : NetworkId) (device : DeviceId) (route : StartRoute) (plan : StartPlan)
      (hp : s.planStart target device = .ok route)
      (hr : route = .share plan ∨ route = .relay plan)
      (hl : s.link.joins plan.src plan.target = true) {c : Control} {ns : List Notice}
      {ds : List Dispatch} (h : Shares (s.control.begin s.cursor.location) plan c ns ds) :
      Turn s (.event (.request (.start target device))) c (.of .infoStart target :: ns)
        (.announceStart s.home plan.target :: ds)
  /-- A start that gives the consumed pointer back. -/
  | comesBack (target : NetworkId) (device : DeviceId) (plan : StartPlan)
      (hp : s.planStart target device = .ok (.comeBack plan)) :
      Turn s (.event (.request (.start target device)))
        ((s.control.begin s.cursor.location).issue .stop ⟨plan.src, s.home, plan.dhids⟩
          (.cameBack plan.target plan.device))
        [.of .infoStart target] []
  | stops (m : Move) (r : StopRoute) (hr : s.stopRoute? m = some r) :
      Turn s m (s.control.close r) (s.overture m ++ [.of .stop r.peer]) []
  /-- A peer announces a start. -/
  | hearsStart (p : NetworkId) (hg : s.guard = .idle)
      (hp : s.role = .free ∨ s.participates p = true) :
      Turn s (.event (.signal (.startRequest p)))
        { s.control with guard := .starting, announcer := some p } [.of .infoStart p] []
  /-- A peer announces a stop. -/
  | hearsStop (p : NetworkId) (hg : s.guard = .idle) (hp : s.participates p = true) :
      Turn s (.event (.signal (.stopRequest p)))
        { s.control with guard := .stopping, announcer := some p } [.of .stop p] []
  /-- A peer's start failed. -/
  | startRejected (p : NetworkId) (dhid : Dhid) (l : Location)
      (hg : s.announcer = some p ∨ s.guard = .idle)
      (hp : s.announcer = some p ∨ s.participates p = true) :
      Turn s (.event (.signal (.startResult p false dhid l))) (s.control.released p)
        [.failed .infoFail p .remoteRejected] []
  /-- A peer shares its pointer with the station. -/
  | consumes (p : NetworkId) (dhid : Dhid) (l : Location)
      (hg : s.announcer = some p ∨ s.guard = .idle)
      (hp : s.announcer = some p ∨ s.participates p = true) (hr : s.role.isOutbound = false) :
      Turn s (.event (.signal (.startResult p true dhid l)))
        { s.control.released p with role := .inbound dhid, sessionPeer := some p }
        [.of .infoSuccess p] []
  /-- The station's own pointer comes back. -/
  | getsBack (p : NetworkId) (dhid : Dhid) (l : Location)
      (hg : s.announcer = some p ∨ s.guard = .idle)
      (hp : s.announcer = some p ∨ s.participates p = true) (hr : s.role.isOutbound = true) :
      Turn s (.event (.signal (.startResult p true dhid l))) (s.control.released p).ended
        ((s.control.released p).closing p ++ [.of .infoSuccess p]) []
  /-- A stop that was announced ends, and there is no session with the peer any more. -/
  | stopDropped (p : NetworkId) (success : Bool) (ha : s.announcer = some p)
      (hp : s.participates p = false) :
      Turn s (.event (.signal (.stopResult p success))) (s.control.released p) [] []
  /-- A peer's stop failed. -/
  | stopRejected (p : NetworkId) (hg : s.announcer = some p ∨ s.guard = .idle)
      (hp : s.participates p = true) :
      Turn s (.event (.signal (.stopResult p false))) (s.control.released p)
        [.failed .closeFail p .remoteRejected] []
  /-- A peer ended the session. -/
  | isLeft (p : NetworkId) (hg : s.announcer = some p ∨ s.guard = .idle)
      (hp : s.participates p = true) :
      Turn s (.event (.signal (.stopResult p true))) (s.control.released p).ended
        ((s.control.released p).closing p ++ [.of .stopSuccess p]) []
  /-- The shared pointer was handed on to another station. -/
  | handedOn (p : NetworkId) (hr : s.role.isOutbound = true) :
      Turn s (.event (.signal (.relayAnnounce p)))
        { s.control with link := { s.link with sink := p }, sessionPeer := some p } [] []
  /-- The other end of the session left the network. -/
  | resets (id : NetworkId) (hp : s.participates id = true) :
      Turn s (.event (.deviceOffline id)) s.control.reset [.of .close id] []
  /-- Some other station left the network. -/
  | loses (id : NetworkId) (hp : s.participates id = false) :
      Turn s (.event (.deviceOffline id))
        ((if s.role.isFree && s.link.involves id then { s.control with link := .none }
          else s.control).released id) [] []
  /-- A keyboard joins the session. -/
  | plugsIn (dhid : Dhid) (hr : s.role.isOutbound = true) (hl : s.link.isPrepared = true)
      (ho : ∀ origin ∈ s.registry.originOfDhid? dhid, origin = s.home) :
      Turn s (.event (.keyboardOnline dhid))
        (s.control.issue .start ⟨s.link.src, s.link.sink, [dhid]⟩ (.keyboardAdded dhid)) [] []
  /-- A call ends that is no step of a transition. -/
  | endsAside (call : Resolved Continuation) {c : Control} (hc : s.ending? = some call)
      (he : Ends s.control call c) (ha : call.completion.isTransition = false) : Turn s .take c [] []
  /-- The link is prepared. -/
  | opens (call : Resolved Continuation) (plan : StartPlan) {c c' : Control} {ns : List Notice}
      {ds : List Dispatch} (hc : s.ending? = some call) (he : Ends s.control call c)
      (hn : call.completion = .prepared plan) (ho : call.outcome.reason? = none)
      (h : Shares { c with link := ⟨plan.src, plan.target⟩ } plan c' ns ds) :
      Turn s .take c' (.of .openSuccess plan.target :: ns) ds
  /-- The link could not be prepared. -/
  | opensNot (call : Resolved Continuation) (plan : StartPlan) (reason : Reason) {c : Control}
      (hc : s.ending? = some call) (he : Ends s.control call c)
      (hn : call.completion = .prepared plan) (ho : call.outcome.reason? = some reason) :
      Turn s .take c.failed
        [.failed .openFail plan.target reason, .failed .infoFail plan.target .prepareFailed]
        [.startResult plan.target false (c.dhidFor plan.device) c.startLocation]
  /-- The new link of a handed-on pointer is up. -/
  | stopsOrigin (call : Resolved Continuation) (plan : StartPlan) {c : Control}
      (hc : s.ending? = some call) (he : Ends s.control call c)
      (hn : call.completion = .started plan) (ho : call.outcome.reason? = none)
      (hr : plan.relays = true) :
      Turn s .take (c.issue .stop ⟨plan.src, s.home, plan.dhids⟩ (.originStopped plan)) [] []
  /-- A start of a free station went well. -/
  | shares (call : Resolved Continuation) (target : NetworkId) (device : DeviceId) {c : Control}
      (hc : s.ending? = some call) (he : Ends s.control call c)
      (hn : call.completion.last? = some (target, device)) (ho : call.outcome.reason? = none)
      (hr : s.role = .free) :
      Turn s .take
        { c with
          guard := .idle, role := .outbound ((s.registry.dhidOf? device).getD .empty)
          sessionPeer := some target }
        [.of .infoSuccess target]
        [.startResult target true ((s.registry.dhidOf? device).getD .empty) s.startLocation]
  /-- A start of an inbound station went well. -/
  | handsOn (call : Resolved Continuation) (target : NetworkId) (device : DeviceId) (shared : Dhid)
      {c : Control} (hc : s.ending? = some call) (he : Ends s.control call c)
      (hn : call.completion.last? = some (target, device)) (ho : call.outcome.reason? = none)
      (hr : s.role = .inbound shared) :
      Turn s .take { c with guard := .idle, role := .free, sessionPeer := none }
        [.of .infoSuccess target]
        (.startResult target true shared s.startLocation :: s.control.handOn target shared)
  /-- A start of an outbound station went well. -/
  | stays (call : Resolved Continuation) (target : NetworkId) (device : DeviceId) {c : Control}
      (hc : s.ending? = some call) (he : Ends s.control call c)
      (hn : call.completion.last? = some (target, device)) (ho : call.outcome.reason? = none)
      (hr : s.role.isOutbound = true) :
      Turn s .take { c with guard := .idle } [.of .infoSuccess target] []
  /-- The devices could not be started, or the pointer not be given back. -/
  | startFails (call : Resolved Continuation) (target : NetworkId) (device : DeviceId)
      (reason : Reason) {c : Control} (hc : s.ending? = some call) (he : Ends s.control call c)
      (hn : call.completion.leg? = some (target, device))
      (ho : call.outcome.reason? = some reason) :
      Turn s .take c.failed [.failed .infoFail target reason]
        [.startResult target false (c.dhidFor device) c.startLocation]
  /-- The link a handed-on pointer came by could not be stopped. -/
  | rollsBack (call : Resolved Continuation) (plan : StartPlan) (reason : Reason) {c : Control}
      (hc : s.ending? = some call) (he : Ends s.control call c)
      (hn : call.completion = .originStopped plan) (ho : call.outcome.reason? = some reason) :
      Turn s .take
        (c.issue .stop ⟨plan.src, plan.target, plan.dhids⟩ (.relayRolledBack plan.target)).failed
        [.failed .infoFail plan.target .partialRelayFailure]
        [.startResult plan.target false (c.dhidFor plan.device) c.startLocation]
  /-- A stop went well. -/
  | leaves (call : Resolved Continuation) (peer : NetworkId) {c : Control}
      (hc : s.ending? = some call) (he : Ends s.control call c)
      (hn : call.completion = .stopped peer) (ho : call.outcome.reason? = none) :
      Turn s .take { c with guard := .idle }.ended (c.closing peer ++ [.of .closeSuccess peer])
        [.stopResult peer true]
  /-- A stop failed. -/
  | stopFails (call : Resolved Continuation) (peer : NetworkId) (reason : Reason) {c : Control}
      (hc : s.ending? = some call) (he : Ends s.control call c)
      (hn : call.completion = .stopped peer) (ho : call.outcome.reason? = some reason) :
      Turn s .take { c with guard := .idle } [.failed .closeFail peer reason] []

namespace Station

/-- What observers and peers can see of a move: the control became `c`, the notices `ns` were
handed to all who are subscribed, and `ds` was queued for peers. -/
structure Shows (s s' : Station) (c : Control) (ns : List Notice) (ds : List Dispatch) : Prop where
  control : s'.control = c
  published : s'.notifier.handovers = s.notifier.handovers ++ ns.flatMap s.notifier.handoversOf
  queued : s'.outbox.queue.drop s.outbox.queue.length = ds
  worker : s'.outbox.worker = s.outbox.worker

/-- The outbox has a worker. -/
def Speaks (s : Station) : Prop := s.outbox.worker ≠ .gone

end Station

theorem Notifier.publishAll_eq (n : Notifier) (ns : List Notice) :
    n.publishAll ns = { n with handovers := n.handovers ++ ns.flatMap n.handoversOf } := by
  induction ns generalizing n with
  | nil => simp [publishAll]
  | cons a ns ih =>
    show ((n.publish a).2).publishAll ns = _
    rw [ih, List.flatMap_cons, ← List.append_assoc]
    rfl

theorem Outbox.sendAll_eq {o : Outbox} (h : o.worker ≠ .gone) (ds : List Dispatch) :
    o.sendAll ds = { o with queue := o.queue ++ ds } := by
  induction ds generalizing o with
  | nil => simp [sendAll]
  | cons d ds ih =>
    have hd : o.send d = { o with queue := o.queue ++ [d] } := if_neg h
    show (o.send d).sendAll ds = _
    rw [hd, ih (o := { o with queue := o.queue ++ [d] }) h]
    simp

namespace Station

theorem Does.shows {s s' : Station} {c : Control} {ns : List Notice} {ds : List Dispatch}
    (h : Does s s' c ns ds) (hw : s.Speaks) : Shows s s' c ns ds :=
  ⟨h.control, by rw [h.notifier, Notifier.publishAll_eq],
    by rw [h.outbox, Outbox.sendAll_eq hw, List.drop_left],
    by rw [h.outbox, Outbox.sendAll_eq hw]⟩

/-- A move goes one of the ways that are listed, and shows it. -/
def Turns (s : Station) (m : Move) : Prop :=
  ∃ c ns ds, Turn s m c ns ds ∧ Shows s (s.step m) c ns ds

theorem Does.turns {s s' : Station} {m : Move} {c : Control} {ns : List Notice} {ds : List Dispatch}
    (h : Does s s' c ns ds) (ht : Turn s m c ns ds) (he : s.step m = s') (hw : s.Speaks) :
    s.Turns m :=
  ⟨c, ns, ds, ht, he ▸ h.shows hw⟩

end Station

end PointerShare
