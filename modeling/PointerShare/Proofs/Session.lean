/-
# What a session takes up is given back

In a session a station does more than keep a role: it listens to the crossing
switch of the other end, outbound it is subscribed to relay events and keeps the
keys held, and it hides or shows the cursor. `Surface` is all of that. A surface
is tidy for a role, a peer and a cursor if it holds just what they call for, and
each operation on it takes it from one tidy state to another; so however a
session begins, goes on or ends, nothing of it is forgotten.

Only three kinds of role, peer and cursor go together (`Sits`): that is restored by
every move as long as the calls to the cursor, the switches and the listener of
relay events succeed, and nobody else changes the listeners or the visibility of
the cursor (`Station.Gentle`).

Key definitions: `Surface`, `Surface.Tidy`, `Sits`, `Station.Coherent`,
`Station.Gentle`.
Key theorems: `Station.coherent_step`, `Station.coherent_run`.
-/
import PointerShare.Proofs.EveryMove

namespace PointerShare

/-- What a station does for its session beside the calls. -/
structure Surface where
  role : Role
  sessionPeer : Option NetworkId
  watched : Option NetworkId
  /-- Whose switch somebody listens to. -/
  listeners : List (NetworkId × Unit)
  subscribed : Bool
  hasListener : Bool
  relayedKeys : List UInt32
  visible : Bool
  /-- A call to the cursor, to the switches or for the listener of relay events would fail. -/
  faulty : Bool

/-- The surface is that of a station in the role `r`, in a session with `p` if there is one and with
the cursor visible or not; and nothing is left of other sessions. -/
structure Surface.Tidy (x : Surface) (r : Role) (p : Option NetworkId) (v : Bool) : Prop where
  role : x.role = r
  sessionPeer : x.sessionPeer = p
  watched : x.watched = p
  listeners : x.listeners = p.toList.map fun p => (p, ())
  subscribed : x.subscribed = r.isOutbound
  hasListener : x.hasListener = r.isOutbound
  relayedKeys : r.isOutbound = false → x.relayedKeys = []
  visible : x.visible = v
  faulty : x.faulty = false

/-- The roles, session peers and cursors that go together. -/
inductive Sits : Role → Option NetworkId → Bool → Prop
  | free (v : Bool) : Sits .free none v
  | inbound (shared : Dhid) (p : NetworkId) : Sits (.inbound shared) (some p) true
  | outbound (shared : Dhid) (p : NetworkId) : Sits (.outbound shared) (some p) false

namespace Station

def surface (s : Station) : Surface where
  role := s.role
  sessionPeer := s.sessionPeer
  watched := s.watched
  listeners := s.crossing.listeners
  subscribed := s.gateway.subscribed
  hasListener := s.gateway.service.hasListener
  relayedKeys := s.relayedKeys
  visible := s.cursor.visible
  faulty := s.cursor.visibleFails || s.crossing.registerFails || s.crossing.unregisterFails ||
    s.gateway.service.registerFails || s.gateway.service.unregisterFails

/-- The surface of the station is tidy. -/
def Tidy (s : Station) (r : Role) (p : Option NetworkId) (v : Bool) : Prop := s.surface.Tidy r p v

/-- What the session calls for is there, and nothing else is. -/
def Coherent (s : Station) : Prop := ∃ r p v, s.Tidy r p v ∧ Sits r p v

theorem watch_eq {s : Station} (h : s.crossing.registerFails = false) (q : NetworkId) : s.watch q =
    { s with
      watched := some q
      crossing := { s.crossing with
        listeners := CrossingSwitch.bind s.crossing.listeners q () } } := by
  unfold watch
  rw [CrossingSwitch.register_eq h]

/-! ### Operations on the surface -/

namespace Tidy

variable {s : Station} {r : Role} {p : Option NetworkId} {v : Bool}

theorem of_surface (h : s.Tidy r p v) {s' : Station} (he : s'.surface = s.surface) :
    s'.Tidy r p v := by
  unfold Tidy
  rw [he]
  exact h

variable (h : s.Tidy r p v)
include h

theorem sound : s.cursor.visibleFails = false ∧ s.crossing.registerFails = false ∧
    s.crossing.unregisterFails = false ∧ s.gateway.service.registerFails = false ∧
      s.gateway.service.unregisterFails = false := by
  have hf := h.faulty
  simp only [surface, Bool.or_eq_false_iff] at hf
  obtain ⟨⟨⟨⟨h₁, h₂⟩, h₃⟩, h₄⟩, h₅⟩ := hf
  exact ⟨h₁, h₂, h₃, h₄, h₅⟩

theorem setRole (next : Role) : (s.setRole next).Tidy next p v := by
  obtain ⟨-, -, -, hreg, hunreg⟩ := h.sound
  have hrole : s.role = r := h.role
  have hsub : s.gateway.subscribed = r.isOutbound := h.subscribed
  have hlis : s.gateway.service.hasListener = r.isOutbound := h.hasListener
  unfold Station.setRole
  rw [hrole]
  by_cases hr : r = next
  · rw [if_pos hr]
    exact hr ▸ h
  rw [if_neg hr]
  cases ho : r.isOutbound <;> cases hn : next.isOutbound
  · simp only [Bool.not_false, Bool.and_true, Bool.false_eq_true, if_false, Bool.and_false]
    exact ⟨rfl, h.sessionPeer, h.watched, h.listeners, (hsub.trans ho).trans hn.symm,
      (hlis.trans ho).trans hn.symm, fun _ => h.relayedKeys ho, h.visible, h.faulty⟩
  · -- the subscription begins
    simp only [Bool.not_true, Bool.and_false, Bool.false_eq_true, if_false, Bool.not_false,
      Bool.and_true, if_true]
    rw [Gateway.subscribe_eq (hsub.trans ho) hreg (hlis.trans ho)]
    exact ⟨rfl, h.sessionPeer, h.watched, h.listeners, hn.symm, hn.symm,
      fun hf => (by rw [hn] at hf; cases hf), h.visible, h.faulty⟩
  · -- the subscription ends
    simp only [Bool.not_false, Bool.and_true, if_true]
    rw [Gateway.unsubscribe_eq (hsub.trans ho) hunreg]
    exact ⟨rfl, h.sessionPeer, h.watched, h.listeners, hn.symm, hn.symm, fun _ => rfl, h.visible,
      h.faulty⟩
  · simp only [Bool.not_true, Bool.and_false, Bool.false_eq_true, if_false, Bool.false_and]
    exact ⟨rfl, h.sessionPeer, h.watched, h.listeners, (hsub.trans ho).trans hn.symm,
      (hlis.trans ho).trans hn.symm, fun hf => (by rw [hn] at hf; cases hf), h.visible, h.faulty⟩

/-- Nobody is listened to any more, and nothing else changes. -/
theorem unwatch_eq : s.unwatch =
    { s with watched := none, crossing := { s.crossing with listeners := [] } } := by
  obtain ⟨-, -, hunreg, -, -⟩ := h.sound
  have hw : s.watched = p := h.watched
  have hl : s.crossing.listeners = p.toList.map fun p => (p, ()) := h.listeners
  unfold unwatch
  cases p with
  | none =>
    have hs : s = { s with
      watched := s.watched
      crossing := { s.crossing with listeners := s.crossing.listeners } } := rfl
    rw [hl, hw] at hs
    rw [hw]
    exact hs
  | some q =>
    have hl' : s.crossing.listeners.filter (fun x => x.1 != q) = [] := by
      rw [hl]
      simp
    rw [hw]
    dsimp only
    rw [CrossingSwitch.unregister_eq hunreg, hl']
    rfl

theorem beginSession (q : NetworkId) : (s.beginSession q).Tidy r (some q) v := by
  obtain ⟨-, hreg, -⟩ := h.sound
  unfold Station.beginSession
  rw [h.unwatch_eq, watch_eq (by exact hreg)]
  exact ⟨h.role, rfl, rfl, rfl, h.subscribed, h.hasListener, h.relayedKeys, h.visible, h.faulty⟩

/-- Ending a watch twice is ending it. -/
theorem unwatch_beginSession (q : NetworkId) : s.unwatch.beginSession q = s.beginSession q := by
  unfold Station.beginSession
  have hu : s.unwatch.unwatch = s.unwatch := by
    rw [h.unwatch_eq]
    rfl
  rw [hu]

theorem endSession : s.endSession.Tidy r none v := by
  unfold Station.endSession
  rw [h.unwatch_eq]
  exact ⟨h.role, rfl, rfl, rfl, h.subscribed, h.hasListener, h.relayedKeys, h.visible, h.faulty⟩

/-- The cursor is shown or hidden, and its calls go on to succeed. -/
theorem setCursor {c : Cursor} {v' : Bool} (hc : c.visible = v' ∧ c.visibleFails = false) :
    { s with cursor := c }.Tidy r p v' := by
  obtain ⟨-, h₂, h₃, h₄, h₅⟩ := h.sound
  refine ⟨h.role, h.sessionPeer, h.watched, h.listeners, h.subscribed, h.hasListener, h.relayedKeys,
    hc.1, ?_⟩
  simp [surface, hc.2, h₂, h₃, h₄, h₅]

theorem hideCursor : s.hideCursor.Tidy r p false := h.setCursor (Cursor.visible_hide h.sound.1)

theorem showCursorAt (l : Location) : (s.showCursorAt l).Tidy r p true :=
  h.setCursor (Cursor.visible_put h.sound.1 true l)

theorem resetCursor : s.resetCursor.Tidy r p s.registry.hasLocalPointer :=
  h.setCursor (Cursor.visible_put h.sound.1 _ _)

theorem publish (m : Message) (q : NetworkId) : (s.publish m q).Tidy r p v := h

theorem send (d : Dispatch) : (s.send d).Tidy r p v := h

end Tidy

/-! ### Operations that leave the surface alone -/

@[simp] theorem surface_issue (s : Station) (k : CallKind) (args : CallArgs) (next : Continuation) :
    { s with gateway := (s.gateway.issue k args next).2 }.surface = s.surface := by
  have hservice : (s.gateway.issue k args next).2.service =
      s.gateway.service.take ⟨k, ⟨s.gateway.tracker.issued + 1⟩, args⟩ := rfl
  have hsub : (s.gateway.issue k args next).2.subscribed = s.gateway.subscribed := rfl
  unfold surface
  rw [hservice, hsub]
  unfold InputService.take
  split <;> rfl

@[simp] theorem surface_callPrepare (s : Station) (src sink : NetworkId) (next : Continuation) :
    (s.callPrepare src sink next).surface = s.surface :=
  s.surface_issue _ _ _

@[simp] theorem surface_callStart (s : Station) (src sink : NetworkId) (dhids : List Dhid)
    (next : Continuation) : (s.callStart src sink dhids next).surface = s.surface :=
  s.surface_issue _ _ _

@[simp] theorem surface_callStop (s : Station) (src sink : NetworkId) (dhids : List Dhid)
    (next : Continuation) : (s.callStop src sink dhids next).surface = s.surface :=
  s.surface_issue _ _ _

@[simp] theorem surface_unprepare (s : Station) (q : NetworkId) :
    (s.unprepare q).surface = s.surface := by
  unfold unprepare
  split
  · exact surface_issue { s with link := .none } _ _ _
  · rfl

@[simp] theorem surface_failStart (s : Station) (target : NetworkId) (device : DeviceId)
    (reason : Reason) : (s.failStart target device reason).surface = s.surface :=
  rfl

@[simp] theorem surface_startShared (s : Station) (plan : StartPlan) :
    (s.startShared plan).surface = s.surface := by
  unfold startShared
  dsimp only
  split
  · rfl
  · exact s.surface_callStart _ _ _ _

@[simp] theorem surface_prepareAndStart (s : Station) (plan : StartPlan) :
    (s.prepareAndStart plan).surface = s.surface := by
  unfold prepareAndStart
  split
  · exact s.surface_startShared plan
  · exact s.surface_callPrepare _ _ _

@[simp] theorem surface_start (s : Station) (target : NetworkId) (device : DeviceId) :
    (s.start target device).2.surface = s.surface := by
  unfold start
  split
  · rfl
  · rename_i route _
    cases route with
    | share plan => exact surface_prepareAndStart _ plan
    | relay plan => exact surface_prepareAndStart _ plan
    | comeBack plan => exact surface_callStop _ _ _ _ _

@[simp] theorem surface_stop (s : Station) : s.stop.2.surface = s.surface := by
  unfold stop
  split
  · rfl
  · exact surface_callStop _ _ _ _ _

@[simp] theorem surface_enable (s : Station) (on : Bool) :
    (s.enable on).2.surface = s.surface := by
  have hstop (b : Bool) (t : Station) : (if b then t.stop.2 else t).surface = t.surface := by
    cases b with
    | true => exact t.surface_stop
    | false => rfl
  unfold enable
  split
  · rfl
  · rename_i crossing hu
    obtain ⟨states, rfl⟩ := CrossingSwitch.update_eq hu
    exact hstop _ _

@[simp] theorem surface_judge (s : Station) (e : PointerEvent) :
    (s.judge e).2.surface = s.surface := by
  unfold judge
  split
  · rfl
  split
  · rfl
  split
  · exact s.surface_stop
  · rfl

@[simp] theorem surface_switchChanged (s : Station) (id : NetworkId) (on : Bool) :
    (s.switchChanged id on).surface = s.surface := by
  unfold switchChanged
  split
  · exact s.surface_stop
  · rfl

@[simp] theorem surface_keyboardOnline (s : Station) (dhid : Dhid) :
    (s.keyboardOnline dhid).surface = s.surface := by
  unfold keyboardOnline
  split
  · split
    · split
      · exact s.surface_callStart _ _ _ _
      · rfl
    · exact s.surface_callStart _ _ _ _
  · rfl

@[simp] theorem surface_release (s : Station) (q : NetworkId) :
    (s.release q).surface = s.surface := by
  unfold release
  split <;> rfl

@[simp] theorem surface_flip (s : Station) (id : NetworkId) (on : Bool) :
    (s.flip id on).surface = s.surface := by
  unfold flip
  dsimp only
  split <;> rfl

/-! ### Sessions begin, go on and end -/

section Coherent

variable {s : Station}

theorem Coherent.of_surface (h : s.Coherent) {s' : Station} (he : s'.surface = s.surface) :
    s'.Coherent := by
  obtain ⟨r, p, v, ht, hs⟩ := h
  exact ⟨r, p, v, ht.of_surface he, hs⟩

theorem Tidy.coherent_free {v : Bool} (h : s.Tidy .free none v) : s.Coherent :=
  ⟨_, _, _, h, .free v⟩

theorem coherent_enterOutbound (h : s.Coherent) (target : NetworkId) (device : DeviceId) :
    (s.enterOutbound target device).Coherent := by
  obtain ⟨r, p, v, ht, -⟩ := h
  exact ⟨_, _, _, ((ht.setRole _).hideCursor.send _).beginSession target, .outbound _ target⟩

theorem coherent_leaveInbound (h : s.Coherent) (target : NetworkId) (shared : Dhid) :
    (s.leaveInbound target shared).Coherent := by
  obtain ⟨r, p, v, ht, -⟩ := h
  have h₁ := (ht.setRole .free).resetCursor.send (.startResult target true shared s.startLocation)
  unfold leaveInbound
  refine (Tidy.endSession (p := p) (v := (s.setRole .free).registry.hasLocalPointer) ?_).coherent_free
  split
  · exact h₁
  · split
    · exact h₁
    · rename_i origin _ _
      exact h₁.send (.relayAnnounce origin target)

theorem coherent_finishStart (h : s.Coherent) (target : NetworkId) (device : DeviceId)
    (result : Except Reason Unit) : (s.finishStart target device result).Coherent := by
  have h' : { s with guard := .idle }.Coherent := h.of_surface rfl
  cases result with
  | error reason => exact h.of_surface rfl
  | ok _ =>
    simp only [finishStart]
    split
    · exact (coherent_enterOutbound h' target device).of_surface rfl
    · exact (coherent_leaveInbound h' target _).of_surface rfl
    · exact h.of_surface rfl

/-- The role becomes free and the cursor is put in its usual place; then the link may be given up,
and peers may be told. -/
theorem coherent_leave (h : s.Coherent) {t : Station}
    (he : t.surface = (s.setRole .free).resetCursor.surface) : t.endSession.Coherent := by
  obtain ⟨r, p, v, ht, -⟩ := h
  exact ((ht.setRole .free).resetCursor.of_surface he).endSession.coherent_free

theorem coherent_finishStop (h : s.Coherent) (peer : NetworkId) (result : Except Reason Unit) :
    (s.finishStop peer result).Coherent := by
  have h' : { s with guard := .idle }.Coherent := h.of_surface rfl
  cases result with
  | error reason => exact h.of_surface rfl
  | ok _ =>
    have he := surface_unprepare
      (({ s with guard := .idle }.setRole .free).resetCursor.send (.stopResult peer true)) peer
    exact (coherent_leave h' he).of_surface rfl

theorem coherent_resume (h : s.Coherent) (call : Resolved Continuation) :
    (s.resume call).Coherent := by
  unfold resume
  dsimp only
  split
  · rename_i plan _
    unfold afterPrepare
    split
    · have hlink : { s with link := ⟨plan.src, plan.target⟩ }.Coherent := h.of_surface rfl
      exact hlink.of_surface (surface_startShared _ plan)
    · exact h.of_surface rfl
  · rename_i plan _
    unfold afterStart
    split
    · split
      · exact h.of_surface (surface_callStop _ _ _ _ _)
      · exact coherent_finishStart h _ _ _
    · exact coherent_finishStart h _ _ _
  · rename_i plan _
    unfold afterOriginStop
    split
    · exact coherent_finishStart h _ _ _
    · exact h.of_surface ((surface_failStart _ _ _ _).trans (surface_callStop _ _ _ _ _))
  · exact coherent_finishStart h _ _ _
  · exact coherent_finishStop h _ _
  all_goals exact h

theorem coherent_relayEvent (h : s.Coherent) (e : RelayEvent) : (s.relayEvent e).Coherent := by
  obtain ⟨r, p, v, ht, hs⟩ := h
  unfold relayEvent
  by_cases ho : (s.role.isOutbound && e.source == .keyboard) = true
  · rw [if_pos ho]
    have hr : r.isOutbound = true := by
      rw [← show s.role = r from ht.role]
      exact (Bool.and_eq_true_iff.mp ho).1
    have hkeys (keys : List UInt32) : { s with relayedKeys := keys }.Coherent :=
      ⟨r, p, v, ⟨ht.role, ht.sessionPeer, ht.watched, ht.listeners, ht.subscribed, ht.hasListener,
        fun hf => (by rw [hr] at hf; cases hf), ht.visible, ht.faulty⟩, hs⟩
    split
    · exact hkeys _
    split
    · exact hkeys _
    · exact ⟨r, p, v, ht, hs⟩
  · rw [if_neg ho]
    exact ⟨r, p, v, ht, hs⟩

theorem coherent_receive (h : s.Coherent) (post : Post) : (s.receive post).Coherent := by
  have htracker (t : Tracker Continuation) : (s.setTracker t).Coherent := h.of_surface rfl
  by_cases hp : ∃ e, post = .relay e
  · obtain ⟨e, rfl⟩ := hp
    unfold receive Gateway.receive
    cases s.gateway.subscribed with
    | true => exact coherent_relayEvent h e
    | false => exact h
  · rw [s.receive_eq fun e he => hp ⟨e, he⟩]
    split
    · exact htracker _
    · exact coherent_resume (htracker _) _

/-! ### Peers -/

theorem coherent_acceptStart (h : s.Coherent) (q : NetworkId) (dhid : Dhid) (l : Location) :
    (s.acceptStart q dhid l).Coherent := by
  obtain ⟨r, p, v, ht, -⟩ := h
  have hinbound : (((s.setRole (.inbound dhid)).showCursorAt l).beginSession q).Coherent :=
    ⟨_, _, _, ((ht.setRole _).showCursorAt l).beginSession q, .inbound dhid q⟩
  unfold acceptStart
  split
  · exact hinbound
  · have hfree := ((ht.setRole .free).showCursorAt l).of_surface (surface_unprepare _ q)
    exact hfree.endSession.coherent_free
  · exact hinbound

theorem coherent_hear (h : s.Coherent) (sig : PeerSignal) : (s.hear sig).Coherent := by
  have hrelease (q : NetworkId) : (s.release q).Coherent := h.of_surface (s.surface_release q)
  cases sig with
  | startRequest q =>
    show (s.hearStartRequest q).Coherent
    unfold hearStartRequest
    repeat' split
    all_goals exact h.of_surface rfl
  | stopRequest q =>
    show (s.hearStopRequest q).Coherent
    unfold hearStopRequest
    repeat' split
    all_goals exact h.of_surface rfl
  | startResult q success dhid l =>
    show (s.hearStartResult q success dhid l).Coherent
    unfold hearStartResult
    rw [releaseGuard?_eq]
    by_cases hg : s.announcer = some q ∨ s.guard = .idle
    · rw [if_pos hg]
      dsimp only
      split
      · exact hrelease q
      split
      · exact (hrelease q).of_surface rfl
      · exact (coherent_acceptStart (hrelease q) q dhid l).of_surface rfl
    · rw [if_neg hg]
      exact h
  | stopResult q success =>
    show (s.hearStopResult q success).Coherent
    unfold hearStopResult
    rw [releaseGuard?_eq]
    by_cases hg : s.announcer = some q ∨ s.guard = .idle
    · rw [if_pos hg]
      dsimp only
      split
      · exact hrelease q
      split
      · exact (hrelease q).of_surface rfl
      · exact (coherent_leave (hrelease q) (surface_unprepare _ q)).of_surface rfl
    · rw [if_neg hg]
      exact h
  | relayAnnounce q =>
    obtain ⟨r, p, v, ht, hs⟩ := h
    show (s.hearRelay q).Coherent
    unfold hearRelay
    split
    · rename_i ho
      have ht' : { s with link := { s.link with sink := q } }.Tidy r p v := ht
      rw [show s.role = r from ht.role] at ho
      rw [ht'.unwatch_beginSession]
      cases hs with
      | free _ => cases ho
      | inbound _ _ => cases ho
      | outbound shared _ => exact ⟨_, _, _, ht'.beginSession q, .outbound shared q⟩
    · exact ⟨r, p, v, ht, hs⟩

theorem coherent_peerOffline (h : s.Coherent) (id : NetworkId) : (s.peerOffline id).Coherent := by
  unfold peerOffline
  split
  · have hcancel : { s.cancelCalls with guard := .idle, announcer := none }.Coherent :=
      h.of_surface rfl
    exact (coherent_leave hcancel
      (t := { ({ s.cancelCalls with guard := .idle, announcer := none }.setRole .free).resetCursor with
        link := .none }) rfl).of_surface rfl
  · dsimp only
    split <;> split <;> exact h.of_surface rfl

/-! ### Moves -/

/-- What happens around the station leaves the listeners and the visibility of the cursor to it, and
makes none of its calls to the cursor, the switches and for the listener of relay events fail. -/
def Gentle (s : Station) : Move → Prop
  | .happen (.cursor c) => c.visible = s.cursor.visible ∧ c.visibleFails = false
  | .happen (.crossing c) =>
    c.listeners = s.crossing.listeners ∧ c.registerFails = false ∧ c.unregisterFails = false
  | .happen (.listenerFaults register unregister) => register = false ∧ unregister = false
  | _ => True

theorem coherent_meet (h : s.Coherent) {happening : Happening}
    (hm : s.Gentle (.happen happening)) : (s.meet happening).Coherent := by
  obtain ⟨r, p, v, ht, hs⟩ := h
  obtain ⟨h₁, h₂, h₃, h₄, h₅⟩ := ht.sound
  cases happening with
  | cursor c => exact ⟨r, p, v, ht.setCursor ⟨hm.1.trans ht.visible, hm.2⟩, hs⟩
  | crossing c =>
    obtain ⟨hl, hreg, hunreg⟩ := hm
    refine ⟨r, p, v, ⟨ht.role, ht.sessionPeer, ht.watched, hl.trans ht.listeners, ht.subscribed,
      ht.hasListener, ht.relayedKeys, ht.visible, ?_⟩, hs⟩
    simp [surface, meet, h₁, h₄, h₅, hreg, hunreg]
  | listenerFaults register unregister =>
    obtain ⟨rfl, rfl⟩ := hm
    refine ⟨r, p, v, ⟨ht.role, ht.sessionPeer, ht.watched, ht.listeners, ht.subscribed,
      ht.hasListener, ht.relayedKeys, ht.visible, ?_⟩, hs⟩
    simp [surface, meet, h₁, h₂, h₃]
  | flip id on => exact ⟨r, p, v, ht.of_surface (s.surface_flip id on), hs⟩
  | relay e =>
    refine ⟨r, p, v, ht.of_surface ?_, hs⟩
    show { s with gateway := (s.gateway.emitRelay e).2 }.surface = s.surface
    unfold Gateway.emitRelay
    split <;> rfl
  | _ => exact ⟨r, p, v, ht.of_surface rfl, hs⟩

theorem coherent_handle (h : s.Coherent) (e : Event) : (s.handle e).2.Coherent := by
  cases e with
  | request q =>
    cases q with
    | enable on => exact h.of_surface (s.surface_enable on)
    | start target device => exact h.of_surface (s.surface_start target device)
    | stop => exact h.of_surface s.surface_stop
    | judge e => exact h.of_surface (s.surface_judge e)
    | _ => exact h.of_surface rfl
  | deviceOffline id => exact coherent_peerOffline h id
  | keyboardOnline dhid => exact h.of_surface (s.surface_keyboardOnline dhid)
  | signal sig => exact coherent_hear h sig
  | switchChanged id on => exact h.of_surface (s.surface_switchChanged id on)
  | shutdown => exact h

/-- Every gentle move restores what the session calls for. -/
theorem coherent_step (m : Move) (hm : s.Gentle m) (h : s.Coherent) : (s.step m).Coherent := by
  cases m with
  | event e => exact coherent_handle h e
  | take =>
    cases hq : s.gateway.mailbox.queue with
    | nil => rwa [step_take_of_empty hq]
    | cons post posts =>
      have htaken : (s.setMailbox { s.gateway.mailbox with queue := posts }).Coherent :=
        h.of_surface rfl
      rw [step_take_of_cons hq]
      exact coherent_receive htaken post
  | change =>
    show s.nextChange.2.Coherent
    unfold nextChange
    split
    · exact h
    · exact h.of_surface (surface_switchChanged _ _ _)
  | happen happening => exact coherent_meet h hm

end Coherent

theorem coherent_create (settings : Settings) (registry : Registry) :
    (create settings registry).Coherent :=
  ⟨.free, none, true, ⟨rfl, rfl, rfl, rfl, rfl, rfl, fun _ => rfl, rfl, rfl⟩, .free true⟩

/-- What the session calls for is there throughout every gentle run. -/
theorem coherent_run (settings : Settings) (registry : Registry) (ms : List Move)
    (h : Along step Gentle (create settings registry) ms) :
    ((create settings registry).run ms).Coherent :=
  h.invariant (fun _ m hm hs => coherent_step m hm hs) (coherent_create settings registry)

end Station

end PointerShare
