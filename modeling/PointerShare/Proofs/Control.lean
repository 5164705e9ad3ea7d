/-
# What decides how a station goes on

Of a station, its transitions read and write little: its role, the guard, the
link, the two peers, the place of the cursor at the last start, the registry and
the calls it holds. `Station.control` is that part. What an operation does is
said by three things: the control after it, the notices it published and the
dispatches it sent (`Station.Does`). There is one theorem for each operation,
and what several of them do in a row is put together from these.

Key definitions: `Control`, `Station.control`, `Control.issue`,
`Station.Does`.
Key theorems: `Station.does_failStart`, `Station.does_finishStart_free`,
`Station.does_finishStart_inbound`, `Station.does_finishStop`.
-/
import PointerShare.Proofs.Calls
import PointerShare.Proofs.Run

namespace PointerShare

structure Control where
  role : Role
  guard : Guard
  link : Link
  sessionPeer : Option NetworkId
  announcer : Option NetworkId
  startLocation : Location
  registry : Registry
  calls : PerKind (Option (Call Continuation))
  superseded : List (Replaced Continuation)
  /-- How many calls were ever registered. -/
  issued : Nat

namespace Control

/-- A call is issued: it takes the place of the one of its kind. -/
def issue (c : Control) (k : CallKind) (args : CallArgs) (next : Continuation) : Control :=
  { c with
    calls := c.calls.set k (some ⟨⟨c.issued + 1⟩, args, next⟩)
    superseded := c.superseded ++ Tracker.replacedBy k (c.calls.get k)
    issued := c.issued + 1 }

/-- The link is given up, if there is one. -/
def unprepare (c : Control) : Control :=
  if c.link.isPrepared then
    { c with link := .none }.issue .unprepare ⟨c.link.src, c.link.sink, []⟩ (.unprepared c.link)
  else c

/-- What observers hear when the link is given up. -/
def closing (c : Control) (peer : NetworkId) : List Notice :=
  if c.link.isPrepared then [.of .close peer] else []

/-- The guard without the transition that `id` announced. -/
def released (c : Control) (id : NetworkId) : Control :=
  if c.announcer = some id then { c with guard := .idle, announcer := none } else c

/-- A start failed. -/
def failed (c : Control) : Control := { c with guard := .idle, link := .none }

/-- The session is over. -/
def ended (c : Control) : Control := { { c with role := .free }.unprepare with sessionPeer := none }

/-- The hardware id that a target is told when a start with `device` failed. -/
def dhidFor (c : Control) (device : DeviceId) : Dhid :=
  (c.role.shared? <|> c.registry.dhidOf? device).getD .empty

/-- The host of a consumed pointer is told when somebody else than `target` and it uses it now. -/
def handOn (c : Control) (target : NetworkId) (shared : Dhid) : List Dispatch :=
  match c.registry.originOfDhid? shared <|> c.sessionPeer with
  | none => []
  | some o => if o = c.registry.home ∨ o = target then [] else [.relayAnnounce o target]

/-- The host is told of the target only. -/
theorem eq_of_mem_handOn {c : Control} {target : NetworkId} {shared : Dhid} {d : Dispatch}
    (h : d ∈ c.handOn target shared) : ∃ origin, d = .relayAnnounce origin target := by
  unfold handOn at h
  split at h
  · cases h
  · split at h
    · cases h
    · exact ⟨_, List.mem_singleton.mp h⟩

@[simp] theorem link_released (c : Control) (id : NetworkId) : (c.released id).link = c.link := by
  unfold released
  split <;> rfl

@[simp] theorem calls_released (c : Control) (id : NetworkId) : (c.released id).calls = c.calls := by
  unfold released
  split <;> rfl

/-- When the session is over there is no link. -/
theorem link_ended_of_isPrepared {c : Control} (h : c.link.isPrepared = true) :
    c.ended.link = .none := by
  unfold ended unprepare
  rw [if_pos h]
  rfl

theorem link_ended (c : Control) : c.ended.link.isPrepared = false := by
  cases h : c.link.isPrepared with
  | true =>
    rw [link_ended_of_isPrepared h]
    rfl
  | false =>
    unfold ended unprepare
    rw [if_neg (by simp [h])]
    exact h

@[simp] theorem role_unprepare (c : Control) : c.unprepare.role = c.role := by
  unfold unprepare
  split <;> rfl

@[simp] theorem guard_unprepare (c : Control) : c.unprepare.guard = c.guard := by
  unfold unprepare
  split <;> rfl

@[simp] theorem announcer_unprepare (c : Control) : c.unprepare.announcer = c.announcer := by
  unfold unprepare
  split <;> rfl

end Control

/-- Publishes one notice after the other. -/
def Notifier.publishAll (n : Notifier) (ns : List Notice) : Notifier :=
  ns.foldl (fun n notice => (n.publish notice).2) n

/-- Sends one dispatch after the other. -/
def Outbox.sendAll (o : Outbox) (ds : List Dispatch) : Outbox := ds.foldl send o

theorem Outbox.sendAll_append (o : Outbox) (ds ds' : List Dispatch) :
    o.sendAll (ds ++ ds') = (o.sendAll ds).sendAll ds' :=
  List.foldl_append

theorem Notifier.publishAll_append (n : Notifier) (ns ns' : List Notice) :
    n.publishAll (ns ++ ns') = (n.publishAll ns).publishAll ns' :=
  List.foldl_append

namespace Station

def control (s : Station) : Control where
  role := s.role
  guard := s.guard
  link := s.link
  sessionPeer := s.sessionPeer
  announcer := s.announcer
  startLocation := s.startLocation
  registry := s.registry
  calls := s.gateway.tracker.calls
  superseded := s.gateway.tracker.superseded
  issued := s.gateway.tracker.issued

section fields

variable (s : Station)

@[simp] theorem control_role : s.control.role = s.role := rfl
@[simp] theorem control_guard : s.control.guard = s.guard := rfl
@[simp] theorem control_link : s.control.link = s.link := rfl
@[simp] theorem control_sessionPeer : s.control.sessionPeer = s.sessionPeer := rfl
@[simp] theorem control_announcer : s.control.announcer = s.announcer := rfl
@[simp] theorem control_startLocation : s.control.startLocation = s.startLocation := rfl
@[simp] theorem control_registry : s.control.registry = s.registry := rfl

end fields

/-! ### Remote calls -/

theorem control_issue (s : Station) (k : CallKind) (args : CallArgs) (next : Continuation) :
    { s with gateway := (s.gateway.issue k args next).2 }.control = s.control.issue k args next := by
  simp only [control, Control.issue, Gateway.calls_issue, Gateway.superseded_issue,
    Gateway.issued_issue]

/-! ### The session -/

@[simp] theorem control_setRole (s : Station) (r : Role) :
    (s.setRole r).control = { s.control with role := r } := by
  unfold setRole
  split
  · rename_i h
    rw [← h]
    rfl
  split
  · simp only [control, Gateway.tracker_unsubscribe]
  split
  · simp only [control, Gateway.tracker_subscribe]
  · rfl

@[simp] theorem registry_setRole (s : Station) (r : Role) : (s.setRole r).registry = s.registry :=
  congrArg Control.registry (s.control_setRole r)

@[simp] theorem notifier_setRole (s : Station) (r : Role) : (s.setRole r).notifier = s.notifier := by
  unfold setRole
  repeat' split
  all_goals rfl

@[simp] theorem outbox_setRole (s : Station) (r : Role) : (s.setRole r).outbox = s.outbox := by
  unfold setRole
  repeat' split
  all_goals rfl

@[simp] theorem control_watch (s : Station) (p : NetworkId) : (s.watch p).control = s.control := by
  unfold watch
  split <;> rfl

@[simp] theorem control_unwatch (s : Station) : s.unwatch.control = s.control := by
  unfold unwatch
  split <;> rfl

@[simp] theorem notifier_watch (s : Station) (p : NetworkId) : (s.watch p).notifier = s.notifier := by
  unfold watch
  split <;> rfl

@[simp] theorem notifier_unwatch (s : Station) : s.unwatch.notifier = s.notifier := by
  unfold unwatch
  split <;> rfl

@[simp] theorem outbox_watch (s : Station) (p : NetworkId) : (s.watch p).outbox = s.outbox := by
  unfold watch
  split <;> rfl

@[simp] theorem outbox_unwatch (s : Station) : s.unwatch.outbox = s.outbox := by
  unfold unwatch
  split <;> rfl

@[simp] theorem control_beginSession (s : Station) (p : NetworkId) :
    (s.beginSession p).control = { s.control with sessionPeer := some p } := by
  have h : (s.unwatch.watch p).control = s.control := by simp
  exact congrArg (fun c : Control => { c with sessionPeer := some p }) h

@[simp] theorem control_endSession (s : Station) :
    s.endSession.control = { s.control with sessionPeer := none } :=
  congrArg (fun c : Control => { c with sessionPeer := none }) s.control_unwatch

@[simp] theorem notifier_beginSession (s : Station) (p : NetworkId) :
    (s.beginSession p).notifier = s.notifier := by
  simp [beginSession]

@[simp] theorem notifier_endSession (s : Station) : s.endSession.notifier = s.notifier := by
  simp [endSession]

@[simp] theorem outbox_beginSession (s : Station) (p : NetworkId) :
    (s.beginSession p).outbox = s.outbox := by
  simp [beginSession]

@[simp] theorem outbox_endSession (s : Station) : s.endSession.outbox = s.outbox := by
  simp [endSession]

/-! ### What an operation does -/

/-- From `s` to `s'` the control became `c`, the notices `ns` were published and the dispatches
`ds` sent, in this order. -/
structure Does (s s' : Station) (c : Control) (ns : List Notice) (ds : List Dispatch) : Prop where
  control : s'.control = c
  notifier : s'.notifier = s.notifier.publishAll ns
  outbox : s'.outbox = s.outbox.sendAll ds

theorem Does.refl (s : Station) : Does s s s.control [] [] := ⟨rfl, rfl, rfl⟩

section Does

variable {s s' : Station} {c : Control} {ns : List Notice} {ds : List Dispatch}

theorem Does.trans {s₂ : Station} {c₂ : Control} {ns₂ : List Notice} {ds₂ : List Dispatch}
    (h : Does s s' c ns ds) (h₂ : Does s' s₂ c₂ ns₂ ds₂) : Does s s₂ c₂ (ns ++ ns₂) (ds ++ ds₂) :=
  ⟨h₂.control, by rw [h₂.notifier, h.notifier, Notifier.publishAll_append],
    by rw [h₂.outbox, h.outbox, Outbox.sendAll_append]⟩

variable (h : Does s s' c ns ds)
include h

theorem Does.publish (m : Message) (p : NetworkId) :
    Does s (s'.publish m p) c (ns ++ [.of m p]) ds :=
  ⟨h.control, by rw [Notifier.publishAll_append, ← h.notifier]; rfl, h.outbox⟩

theorem Does.publishFailed (m : Message) (p : NetworkId) (r : Reason) :
    Does s (s'.publishFailed m p r) c (ns ++ [.failed m p r]) ds :=
  ⟨h.control, by rw [Notifier.publishAll_append, ← h.notifier]; rfl, h.outbox⟩

theorem Does.send (d : Dispatch) : Does s (s'.send d) c ns (ds ++ [d]) :=
  ⟨h.control, h.notifier, by rw [Outbox.sendAll_append, ← h.outbox]; rfl⟩

theorem Does.sendStartResult (t : NetworkId) (b : Bool) (d : Dhid) :
    Does s (s'.sendStartResult t b d) c ns (ds ++ [.startResult t b d c.startLocation]) := by
  have h₁ := h.send (.startResult t b d s'.startLocation)
  rw [← h.control]
  rw [← h.control] at h₁
  exact h₁

theorem Does.hideCursor : Does s s'.hideCursor c ns ds := ⟨h.control, h.notifier, h.outbox⟩

theorem Does.showCursorAt (l : Location) : Does s (s'.showCursorAt l) c ns ds :=
  ⟨h.control, h.notifier, h.outbox⟩

theorem Does.resetCursor : Does s s'.resetCursor c ns ds := ⟨h.control, h.notifier, h.outbox⟩

theorem Does.setRole (r : Role) : Does s (s'.setRole r) { c with role := r } ns ds :=
  ⟨by rw [control_setRole, h.control], by rw [notifier_setRole, h.notifier],
    by rw [outbox_setRole, h.outbox]⟩

theorem Does.setLink (l : Link) : Does s { s' with link := l } { c with link := l } ns ds :=
  ⟨congrArg (fun c : Control => { c with link := l }) h.control, h.notifier, h.outbox⟩

theorem Does.beginSession (p : NetworkId) :
    Does s (s'.beginSession p) { c with sessionPeer := some p } ns ds :=
  ⟨by rw [control_beginSession, h.control], by rw [notifier_beginSession, h.notifier],
    by rw [outbox_beginSession, h.outbox]⟩

theorem Does.endSession : Does s s'.endSession { c with sessionPeer := none } ns ds :=
  ⟨by rw [control_endSession, h.control], by rw [notifier_endSession, h.notifier],
    by rw [outbox_endSession, h.outbox]⟩

theorem Does.issue (k : CallKind) (args : CallArgs) (next : Continuation) :
    Does s { s' with gateway := (s'.gateway.issue k args next).2 } (c.issue k args next) ns ds :=
  ⟨by rw [control_issue, h.control], h.notifier, h.outbox⟩

theorem Does.callPrepare (src sink : NetworkId) (next : Continuation) :
    Does s (s'.callPrepare src sink next) (c.issue .prepare ⟨src, sink, []⟩ next) ns ds :=
  h.issue _ _ _

theorem Does.callStart (src sink : NetworkId) (dhids : List Dhid) (next : Continuation) :
    Does s (s'.callStart src sink dhids next) (c.issue .start ⟨src, sink, dhids⟩ next) ns ds :=
  h.issue _ _ _

theorem Does.callStop (src sink : NetworkId) (dhids : List Dhid) (next : Continuation) :
    Does s (s'.callStop src sink dhids next) (c.issue .stop ⟨src, sink, dhids⟩ next) ns ds :=
  h.issue _ _ _

theorem Does.unprepare (peer : NetworkId) :
    Does s (s'.unprepare peer) c.unprepare (ns ++ c.closing peer) ds := by
  obtain rfl := h.control
  unfold Station.unprepare Control.unprepare Control.closing
  by_cases hl : s'.link.isPrepared = true
  · simp only [control_link, hl, if_true]
    have hc := control_issue { s' with link := .none } .unprepare ⟨s'.link.src, s'.link.sink, []⟩
      (.unprepared s'.link)
    exact ⟨hc, (h.publish .close peer).notifier, h.outbox⟩
  · simp only [control_link, hl, Bool.false_eq_true, if_false, List.append_nil]
    exact h

end Does

/-! ### The ends of transitions -/

/-- The guard becomes idle. -/
theorem does_rest (s : Station) :
    Does s { s with guard := .idle } { s.control with guard := .idle } [] [] :=
  ⟨rfl, rfl, rfl⟩

theorem does_failStart (s : Station) (target : NetworkId) (device : DeviceId) (reason : Reason) :
    Does s (s.failStart target device reason) s.control.failed [.failed .infoFail target reason]
      [.startResult target false (s.control.dhidFor device) s.startLocation] :=
  ⟨rfl, rfl, rfl⟩

theorem Does.enterOutbound {s s' : Station} {c : Control} {ns : List Notice} {ds : List Dispatch}
    (h : Does s s' c ns ds) (target : NetworkId) (device : DeviceId) :
    Does s (s'.enterOutbound target device)
      { c with
        role := .outbound ((c.registry.dhidOf? device).getD .empty), sessionPeer := some target }
      ns
      (ds ++ [.startResult target true ((c.registry.dhidOf? device).getD .empty) c.startLocation]) := by
  obtain rfl := h.control
  exact ((h.setRole _).hideCursor.sendStartResult _ _ _).beginSession target

/-- The host of a handed-on pointer is told. -/
theorem Does.handOn {s s' x : Station} {c : Control} {ns : List Notice} {ds : List Dispatch}
    (h : Does s s' c ns ds) (hx : s'.registry = x.registry) (target : NetworkId) (shared : Dhid) :
    Does s (match x.originOf? shared with
      | none => s'
      | some o => if o = s'.home ∨ o = target then s' else s'.send (.relayAnnounce o target))
      c ns (ds ++ x.control.handOn target shared) := by
  unfold Control.handOn home
  rw [hx]
  simp only [originOf?, control_registry, control_sessionPeer]
  cases x.registry.originOfDhid? shared <|> x.sessionPeer with
  | none =>
    rw [List.append_nil]
    exact h
  | some o =>
    by_cases ho : o = x.registry.home ∨ o = target
    · simp only [ho, if_true, List.append_nil]
      exact h
    · simp only [ho, if_false]
      exact h.send _

theorem Does.leaveInbound {s s' : Station} {c : Control} {ns : List Notice} {ds : List Dispatch}
    (h : Does s s' c ns ds) (target : NetworkId) (shared : Dhid) :
    Does s (s'.leaveInbound target shared) { c with role := .free, sessionPeer := none } ns
      (ds ++ .startResult target true shared c.startLocation :: c.handOn target shared) := by
  have h₁ := (h.setRole .free).resetCursor.sendStartResult target true shared
  obtain rfl := h.control
  have h₂ := (h₁.handOn (x := s') (s'.registry_setRole _) target shared).endSession
  rw [List.append_assoc] at h₂
  exact h₂

/-- A start of a free station went well. -/
theorem does_finishStart_free (s : Station) (target : NetworkId) (device : DeviceId)
    (hr : s.role = .free) :
    Does s (s.finishStart target device (.ok ()))
      { s.control with
        guard := .idle, role := .outbound ((s.registry.dhidOf? device).getD .empty)
        sessionPeer := some target }
      [.of .infoSuccess target]
      [.startResult target true ((s.registry.dhidOf? device).getD .empty) s.startLocation] := by
  have h := (s.does_rest.enterOutbound target device).publish .infoSuccess target
  simp only [finishStart]
  split
  · exact h
  · rename_i hi
    rw [hr] at hi
    cases hi
  · rename_i ho
    rw [hr] at ho
    cases ho

/-- A start of an inbound station went well. -/
theorem does_finishStart_inbound (s : Station) (target : NetworkId) (device : DeviceId)
    {shared : Dhid} (hr : s.role = .inbound shared) :
    Does s (s.finishStart target device (.ok ()))
      { s.control with guard := .idle, role := .free, sessionPeer := none }
      [.of .infoSuccess target]
      (.startResult target true shared s.startLocation :: s.control.handOn target shared) := by
  have h := (s.does_rest.leaveInbound target shared).publish .infoSuccess target
  simp only [finishStart]
  split
  · rename_i hf
    rw [hr] at hf
    cases hf
  · rename_i d hi
    obtain rfl : shared = d := by rw [hr] at hi; exact Role.inbound.inj hi
    exact h
  · rename_i ho
    rw [hr] at ho
    cases ho

/-- A start of an outbound station went well. -/
theorem does_finishStart_outbound (s : Station) (target : NetworkId) (device : DeviceId)
    (hr : s.role.isOutbound = true) :
    Does s (s.finishStart target device (.ok ())) { s.control with guard := .idle }
      [.of .infoSuccess target] [] := by
  have h := s.does_rest.publish .infoSuccess target
  simp only [finishStart]
  split
  · rename_i hf
    rw [hf] at hr
    cases hr
  · rename_i hi
    rw [hi] at hr
    cases hr
  · exact h

/-- A stop went well. -/
theorem does_finishStop (s : Station) (peer : NetworkId) :
    Does s (s.finishStop peer (.ok ())) { s.control with guard := .idle }.ended
      (s.control.closing peer ++ [.of .closeSuccess peer]) [.stopResult peer true] :=
  ((((s.does_rest.setRole .free).resetCursor.send (.stopResult peer true)).unprepare
    peer).endSession).publish .closeSuccess peer

end Station

end PointerShare
