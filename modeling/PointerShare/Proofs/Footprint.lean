/-
# The footprint of a move

Of its gateway, an operation of a station uses four things only: it issues
calls, drops all of them, subscribes to relay events and ends the subscription
(`Gateway.Uses`). And it leaves the crossing switches as they are; only a request
to take part or not sets one, that of the station itself. So the mailbox grows
at its end when a call is issued, and nowhere else; what shrinks it is that its
oldest post is taken. The subscription begins and ends with the role, and as
long as the service's listener calls work it is there just while the station is
outbound (`Station.Tuned`). In the same way just the switch of the watched peer
is listened to (`Station.Attentive`).

Key definitions: `Gateway.Uses`, `Station.Tuned`, `Station.Attentive`,
`Station.Works`, `Move.setsSwitch`, `Move.keepsListener`.
Key theorems: `Station.works_handle`, `Station.uses_enable`,
`Station.works_receive`, `Station.isOn_step`, `Station.tuned_step`,
`Station.attentive_step`.
-/
import PointerShare.Proofs.EveryMove

namespace PointerShare

namespace Gateway

variable {κ : Type}

/-- What an operation may do with the gateway, one thing after the other. -/
inductive Uses (g : Gateway κ) : Gateway κ → Prop
  | nothing : Uses g g
  | issues {g' : Gateway κ} (h : Uses g g') (k : CallKind) (args : CallArgs) (c : κ) :
      Uses g (g'.issue k args c).2
  | cancels {g' : Gateway κ} (h : Uses g g') : Uses g g'.cancelAll.2
  | subscribes {g' : Gateway κ} (h : Uses g g') : Uses g g'.subscribe.2
  | unsubscribes {g' : Gateway κ} (h : Uses g g') : Uses g g'.unsubscribe.2

end Gateway

namespace CrossingSwitch

variable {α : Type}

theorem states_register {s s' : CrossingSwitch α} {id : NetworkId} {a : α}
    (h : s.register id a = .ok s') : s'.states = s.states := by
  unfold register at h
  split at h
  · cases h
  · cases h
    rfl

theorem states_unregister (s : CrossingSwitch α) (id : NetworkId) :
    ((s.unregister id).toOption.getD s).states = s.states := by
  unfold unregister
  split <;> rfl

theorem isOn_of_states {s s' : CrossingSwitch α} (h : s'.states = s.states) (id : NetworkId) :
    s'.isOn id = s.isOn id := by
  unfold isOn
  rw [h]

theorem isOn_put (s : CrossingSwitch α) (id : NetworkId) (on : Bool) : (s.put id on).isOn id = on := by
  simp [isOn, put, bind, List.find?_append, List.find?_eq_none.mpr]

theorem isOn_put_of_ne (s : CrossingSwitch α) {id id' : NetworkId} (h : id ≠ id') (on : Bool) :
    (s.put id on).isOn id' = s.isOn id' := by
  have hfilter : ((s.states.filter fun p => p.1 != id).find? fun p => p.1 == id') =
      s.states.find? fun p => p.1 == id' := by
    rw [List.find?_filter]
    congr 1
    funext p
    by_cases hp : p.1 = id'
    · simp [hp, Ne.symm h]
    · simp [hp]
  simp [isOn, put, bind, List.find?_append, hfilter, h]

end CrossingSwitch

namespace Station

/-- The listener calls work; the station is subscribed, and the service has its listener, just while
it is outbound; and it holds no key otherwise. -/
structure Tuned (s : Station) : Prop where
  registers : s.gateway.service.registerFails = false
  unregisters : s.gateway.service.unregisterFails = false
  subscribed : s.gateway.subscribed = s.role.isOutbound
  hasListener : s.gateway.service.hasListener = s.role.isOutbound
  keys : s.role.isOutbound = false → s.relayedKeys = []

/-- The switches' listener calls work, and just the switch of the watched peer is listened to. -/
structure Attentive (s : Station) : Prop where
  registers : s.crossing.registerFails = false
  unregisters : s.crossing.unregisterFails = false
  listeners : s.crossing.listeners = s.watched.toList.map fun p => (p, ())

/-- The gateway, the switches and who is watched, what goes with the subscription, and the room for
items. -/
def tread (s : Station) : Gateway Continuation × CrossingSwitch Unit × Option NetworkId × Role ×
    List UInt32 × Nat :=
  (s.gateway, s.crossing, s.watched, s.role, s.relayedKeys, s.capacity)

/-- From `s` to `s'` the gateway was used, no switch was set, the subscription went with the role,
and the listener with the watched peer. -/
structure Works (s s' : Station) : Prop where
  gateway : s.gateway.Uses s'.gateway
  states : s'.crossing.states = s.crossing.states
  tuned : s.Tuned → s'.Tuned
  attentive : s.Attentive → s'.Attentive
  room : s'.capacity = s.capacity

/-! ### The subscription -/

namespace Tuned

variable {s : Station} (h : s.Tuned)
include h

theorem of_same {t : Station} (hg : t.gateway = s.gateway) (hr : t.role = s.role)
    (hk : t.relayedKeys = s.relayedKeys) : t.Tuned := by
  obtain ⟨hreg, hunreg, hsub, hlis, hkeys⟩ := h
  refine ⟨hg ▸ hreg, hg ▸ hunreg, ?_, ?_, fun ho => ?_⟩
  · rw [hg, hr, hsub]
  · rw [hg, hr, hlis]
  · rw [hk]
    exact hkeys (hr ▸ ho)

theorem setTracker (t : Tracker Continuation) : (s.setTracker t).Tuned :=
  ⟨h.registers, h.unregisters, h.subscribed, h.hasListener, h.keys⟩

theorem issue (k : CallKind) (args : CallArgs) (next : Continuation) :
    { s with gateway := (s.gateway.issue k args next).2 }.Tuned := by
  have hservice : (s.gateway.issue k args next).2.service =
      s.gateway.service.take ⟨k, ⟨s.gateway.tracker.issued + 1⟩, args⟩ := rfl
  obtain ⟨hreg, hunreg, hsub, hlis, hkeys⟩ := h
  unfold InputService.take at hservice
  split at hservice <;>
    exact ⟨by rw [hservice, hreg], by rw [hservice, hunreg], hsub, by rw [hservice, hlis], hkeys⟩

theorem setRole (r : Role) : (s.setRole r).Tuned := by
  obtain ⟨hreg, hunreg, hsub, hlis, hkeys⟩ := h
  unfold Station.setRole
  split
  · exact ⟨hreg, hunreg, hsub, hlis, hkeys⟩
  split
  · rename_i hends
    obtain ⟨ho, hr⟩ : s.role.isOutbound = true ∧ r.isOutbound = false := by simpa using hends
    rw [Gateway.unsubscribe_eq (hsub.trans ho) hunreg]
    exact ⟨hreg, hunreg, hr.symm, hr.symm, fun _ => rfl⟩
  split
  · rename_i hbegins
    obtain ⟨ho, hr⟩ : s.role.isOutbound = false ∧ r.isOutbound = true := by simpa using hbegins
    rw [Gateway.subscribe_eq (hsub.trans ho) hreg (hlis.trans ho)]
    exact ⟨hreg, hunreg, hr.symm, hr.symm, fun hf => absurd (hf.symm.trans hr) Bool.false_ne_true⟩
  · rename_i hends hbegins
    have hsame : r.isOutbound = s.role.isOutbound := by
      cases ho : s.role.isOutbound <;> cases hr : r.isOutbound <;> simp_all
    exact ⟨hreg, hunreg, hsub.trans hsame.symm, hlis.trans hsame.symm, fun hf => hkeys (hsame ▸ hf)⟩

end Tuned

/-! ### The listener -/

namespace Attentive

variable {s : Station} (h : s.Attentive)
include h

theorem of_same {t : Station} (hc : t.crossing = s.crossing) (hw : t.watched = s.watched) :
    t.Attentive :=
  ⟨hc ▸ h.registers, hc ▸ h.unregisters, by rw [hc, hw]; exact h.listeners⟩

theorem watch (hw : s.watched = none) (p : NetworkId) : (s.watch p).Attentive := by
  obtain ⟨hreg, hunreg, hlis⟩ := h
  unfold Station.watch
  rw [CrossingSwitch.register_eq hreg]
  refine ⟨hreg, hunreg, ?_⟩
  show CrossingSwitch.bind s.crossing.listeners p () = [(p, ())]
  rw [hlis, hw]
  rfl

theorem unwatch : s.unwatch.Attentive := by
  obtain ⟨hreg, hunreg, hlis⟩ := h
  unfold Station.unwatch
  split
  · exact ⟨hreg, hunreg, hlis⟩
  · rename_i peer hw
    rw [CrossingSwitch.unregister_eq hunreg]
    refine ⟨hreg, hunreg, ?_⟩
    show s.crossing.listeners.filter (fun p => p.1 != peer) = []
    rw [hlis, hw]
    simp

end Attentive

theorem watched_unwatch (s : Station) : s.unwatch.watched = none := by
  unfold unwatch
  split
  · assumption
  · rfl

/-! ### Parts of operations -/

namespace Works

theorem refl (s : Station) : s.Works s := ⟨.nothing, rfl, id, id, rfl⟩

variable {s s' : Station} (h : s.Works s')
include h

/-- What is neither the gateway nor a switch, nor goes with a listener, does not matter. -/
theorem same {t : Station} (he : t.tread = s'.tread) : s.Works t := by
  simp only [tread, Prod.mk.injEq] at he
  obtain ⟨hg, hc, hw, hr, hk, hroom⟩ := he
  exact ⟨hg ▸ h.gateway, hc ▸ h.states, fun ht => (h.tuned ht).of_same hg hr hk,
    fun ha => (h.attentive ha).of_same hc hw, hroom.trans h.room⟩

theorem issue (k : CallKind) (args : CallArgs) (next : Continuation) :
    s.Works { s' with gateway := (s'.gateway.issue k args next).2 } :=
  ⟨h.gateway.issues k args next, h.states, fun ht => (h.tuned ht).issue k args next,
    fun ha => (h.attentive ha).of_same rfl rfl, h.room⟩

theorem callPrepare (src sink : NetworkId) (next : Continuation) :
    s.Works (s'.callPrepare src sink next) :=
  h.issue _ _ _

theorem callStart (src sink : NetworkId) (dhids : List Dhid) (next : Continuation) :
    s.Works (s'.callStart src sink dhids next) :=
  h.issue _ _ _

theorem callStop (src sink : NetworkId) (dhids : List Dhid) (next : Continuation) :
    s.Works (s'.callStop src sink dhids next) :=
  h.issue _ _ _

theorem setRole (r : Role) : s.Works (s'.setRole r) := by
  have hused : s.gateway.Uses (s'.setRole r).gateway ∧
      (s'.setRole r).crossing = s'.crossing ∧ (s'.setRole r).watched = s'.watched ∧
      (s'.setRole r).capacity = s'.capacity := by
    unfold Station.setRole
    split
    · exact ⟨h.gateway, rfl, rfl, rfl⟩
    split
    · exact ⟨h.gateway.unsubscribes, rfl, rfl, rfl⟩
    split
    · exact ⟨h.gateway.subscribes, rfl, rfl, rfl⟩
    · exact ⟨h.gateway, rfl, rfl, rfl⟩
  obtain ⟨hg, hc, hw, hroom⟩ := hused
  exact ⟨hg, hc ▸ h.states, fun ht => (h.tuned ht).setRole r,
    fun ha => (h.attentive ha).of_same hc hw, hroom.trans h.room⟩

/-- Nobody is watched besides the peer. -/
theorem watch (hn : s'.watched = none) (p : NetworkId) : s.Works (s'.watch p) := by
  refine ⟨?_, ?_, fun ht => ?_, fun ha => (h.attentive ha).watch hn p, ?_⟩
  all_goals
    unfold Station.watch
    split
  · exact h.gateway
  · exact h.gateway
  · rename_i crossing hr
    exact (CrossingSwitch.states_register hr).trans h.states
  · exact h.states
  · exact (h.tuned ht).of_same rfl rfl rfl
  · exact h.tuned ht
  · exact h.room
  · exact h.room

theorem unwatch : s.Works s'.unwatch := by
  refine ⟨?_, ?_, fun ht => ?_, fun ha => (h.attentive ha).unwatch, ?_⟩
  all_goals
    unfold Station.unwatch
    split
  · exact h.gateway
  · exact h.gateway
  · exact h.states
  · exact (CrossingSwitch.states_unregister _ _).trans h.states
  · exact h.tuned ht
  · exact (h.tuned ht).of_same rfl rfl rfl
  · exact h.room
  · exact h.room

theorem beginSession (p : NetworkId) : s.Works (s'.beginSession p) :=
  (h.unwatch.watch s'.watched_unwatch p).same rfl

theorem endSession : s.Works s'.endSession := h.unwatch.same rfl

theorem publish (m : Message) (p : NetworkId) : s.Works (s'.publish m p) := h.same rfl

theorem publishFailed (m : Message) (p : NetworkId) (r : Reason) :
    s.Works (s'.publishFailed m p r) :=
  h.same rfl

theorem send (d : Dispatch) : s.Works (s'.send d) := h.same rfl

theorem hideCursor : s.Works s'.hideCursor := h.same rfl

theorem showCursorAt (l : Location) : s.Works (s'.showCursorAt l) := h.same rfl

theorem resetCursor : s.Works s'.resetCursor := h.same rfl

theorem rest : s.Works { s' with guard := .idle } := h.same rfl

theorem setLink (l : Link) : s.Works { s' with link := l } := h.same rfl

theorem unprepare (p : NetworkId) : s.Works (s'.unprepare p) := by
  unfold Station.unprepare
  split
  · exact ((h.setLink .none).issue _ _ _).publish .close p
  · exact h

theorem enterOutbound (target : NetworkId) (device : DeviceId) :
    s.Works (s'.enterOutbound target device) :=
  ((h.setRole _).hideCursor.send _).beginSession target

theorem leaveInbound (target : NetworkId) (shared : Dhid) :
    s.Works (s'.leaveInbound target shared) := by
  have hfree := (h.setRole .free).resetCursor.send (.startResult target true shared s'.startLocation)
  unfold Station.leaveInbound
  refine Works.endSession ?_
  split
  · exact hfree.same rfl
  · split <;> exact hfree.same rfl

theorem finishStart (target : NetworkId) (device : DeviceId) (result : Except Reason Unit) :
    s.Works (s'.finishStart target device result) := by
  cases result with
  | error reason => exact h.same rfl
  | ok _ =>
    simp only [Station.finishStart]
    split
    · exact (h.rest.enterOutbound target device).publish _ _
    · exact (h.rest.leaveInbound target _).publish _ _
    · exact h.rest.publish _ _

theorem finishStop (peer : NetworkId) (result : Except Reason Unit) :
    s.Works (s'.finishStop peer result) := by
  cases result with
  | error reason => exact h.same rfl
  | ok _ =>
    exact (((h.rest.setRole .free).resetCursor.send _).unprepare peer).endSession.publish _ _

theorem startShared (plan : StartPlan) : s.Works (s'.startShared plan) := by
  unfold Station.startShared
  dsimp only
  split
  · exact h.finishStart _ _ _
  · exact h.callStart _ _ _ _

theorem prepareAndStart (plan : StartPlan) : s.Works (s'.prepareAndStart plan) := by
  unfold Station.prepareAndStart
  split
  · exact h.startShared plan
  · exact h.callPrepare _ _ _

theorem resume (call : Resolved Continuation) : s.Works (s'.resume call) := by
  unfold Station.resume
  dsimp only
  split
  · rename_i plan _
    unfold afterPrepare
    split
    · exact ((h.setLink _).publish _ _).startShared plan
    · exact ((h.setLink _).publishFailed _ _ _).finishStart _ _ _
  · rename_i plan _
    unfold afterStart
    split
    · split
      · exact h.callStop _ _ _ _
      · exact h.finishStart _ _ _
    · exact h.finishStart _ _ _
  · rename_i plan _
    unfold afterOriginStop
    split
    · exact h.finishStart _ _ _
    · exact (h.callStop _ _ _ _).finishStart _ _ _
  · exact h.finishStart _ _ _
  · exact h.finishStop _ _
  all_goals exact h

theorem release (p : NetworkId) : s.Works (s'.release p) := by
  unfold Station.release
  split
  · exact h.same rfl
  · exact h

theorem acceptStart (p : NetworkId) (dhid : Dhid) (l : Location) :
    s.Works (s'.acceptStart p dhid l) := by
  unfold Station.acceptStart
  split
  · exact ((h.setRole _).showCursorAt l).beginSession p
  · exact (((h.setRole .free).showCursorAt l).unprepare p).endSession
  · exact ((h.setRole _).showCursorAt l).beginSession p

end Works

/-! ### Operations -/

section operations

variable (s : Station)

theorem works_start (target : NetworkId) (device : DeviceId) : s.Works (s.start target device).2 := by
  unfold start
  split
  · exact .refl s
  · rename_i route _
    have hbegun : s.Works ({ s with
        guard := { s.guard with isStarting := true }
        startLocation := s.cursor.location }.publish .infoStart target) :=
      (Works.refl s).same rfl
    cases route with
    | share plan => exact (hbegun.send _).prepareAndStart plan
    | relay plan => exact (hbegun.send _).prepareAndStart plan
    | comeBack plan => exact hbegun.callStop _ _ _ _

theorem works_stop : s.Works s.stop.2 := by
  unfold stop
  split
  · exact .refl s
  · have hbegun : s.Works { s with guard := { s.guard with isStopping := true } } :=
      (Works.refl s).same rfl
    exact (hbegun.publish _ _).callStop _ _ _ _

theorem works_judge (e : PointerEvent) : s.Works (s.judge e).2 := by
  unfold judge
  split
  · exact .refl s
  split
  · exact .refl s
  split
  · exact s.works_stop
  · exact .refl s

theorem works_switchChanged (id : NetworkId) (on : Bool) : s.Works (s.switchChanged id on) := by
  unfold switchChanged
  split
  · exact s.works_stop
  · exact .refl s

theorem works_nextChange : s.Works s.nextChange.2 := by
  unfold nextChange
  split
  · exact .refl s
  · rename_i change rest _
    have hw := works_switchChanged { s with changes := rest } change.1 change.2
    exact ⟨hw.gateway, hw.states, fun ht => hw.tuned (ht.of_same rfl rfl rfl),
      fun ha => hw.attentive (ha.of_same rfl rfl), hw.room⟩

theorem works_keyboardOnline (dhid : Dhid) : s.Works (s.keyboardOnline dhid) := by
  unfold keyboardOnline
  split
  · split
    · split
      · exact (Works.refl s).callStart _ _ _ _
      · exact .refl s
    · exact (Works.refl s).callStart _ _ _ _
  · exact .refl s

theorem works_hear (sig : PeerSignal) : s.Works (s.hear sig) := by
  have hrelease (p : NetworkId) : s.Works (s.release p) := (Works.refl s).release p
  cases sig with
  | startRequest p =>
    show s.Works (s.hearStartRequest p)
    unfold hearStartRequest
    repeat' split
    all_goals exact (Works.refl s).same rfl
  | stopRequest p =>
    show s.Works (s.hearStopRequest p)
    unfold hearStopRequest
    repeat' split
    all_goals exact (Works.refl s).same rfl
  | startResult p success dhid l =>
    show s.Works (s.hearStartResult p success dhid l)
    unfold hearStartResult
    rw [releaseGuard?_eq]
    by_cases hg : s.announcer = some p ∨ s.guard = .idle
    · rw [if_pos hg]
      dsimp only
      split
      · exact hrelease p
      split
      · exact (hrelease p).same rfl
      · exact ((hrelease p).acceptStart p dhid l).same rfl
    · rw [if_neg hg]
      exact .refl s
  | stopResult p success =>
    show s.Works (s.hearStopResult p success)
    unfold hearStopResult
    rw [releaseGuard?_eq]
    by_cases hg : s.announcer = some p ∨ s.guard = .idle
    · rw [if_pos hg]
      dsimp only
      split
      · exact hrelease p
      split
      · exact (hrelease p).same rfl
      · exact ((((hrelease p).setRole .free).resetCursor).unprepare p).endSession.publish _ _
    · rw [if_neg hg]
      exact .refl s
  | relayAnnounce p =>
    show s.Works (s.hearRelay p)
    unfold hearRelay
    split
    · exact ((Works.refl s).setLink _).unwatch.beginSession p
    · exact .refl s

theorem works_peerOffline (id : NetworkId) : s.Works (s.peerOffline id) := by
  unfold peerOffline
  split
  · have hcancel : s.Works { s.cancelCalls with guard := .idle, announcer := none } :=
      ⟨.cancels .nothing, rfl, fun ht =>
        (ht.setTracker s.gateway.tracker.cancelAll.2).of_same rfl rfl rfl,
        fun ha => ha.of_same rfl rfl, rfl⟩
    exact ((((hcancel.setRole .free).resetCursor).setLink .none).endSession).publish .close id
  · dsimp only
    split <;> split <;> exact (Works.refl s).same rfl

theorem works_relayEvent (e : RelayEvent) : s.Works (s.relayEvent e) := by
  unfold relayEvent
  by_cases ho : (s.role.isOutbound && e.source == .keyboard) = true
  · -- keys are pressed and released while outbound only
    have hkeys (keys : List UInt32) : s.Works { s with relayedKeys := keys } :=
      ⟨.nothing, rfl, fun ht => ⟨ht.registers, ht.unregisters, ht.subscribed, ht.hasListener,
        fun hf => absurd (hf.symm.trans (Bool.and_eq_true_iff.mp ho).1) Bool.false_ne_true⟩,
        fun ha => ha.of_same rfl rfl, rfl⟩
    rw [if_pos ho]
    repeat' split
    · exact hkeys _
    · exact hkeys _
    · exact .refl s
  · rw [if_neg ho]
    exact .refl s

/-- The switch that a request to take part or not sets is set first; what follows sets none. -/
theorem works_enable {on : Bool} {crossing : CrossingSwitch Unit}
    (h : s.crossing.update on [s.home] = .ok crossing) :
    { s with crossing := crossing }.Works (s.enable on).2 := by
  have hstop (b : Bool) (t : Station) : t.Works (if b then t.stop.2 else t) := by
    cases b with
    | true => exact t.works_stop
    | false => exact .refl t
  let t := { s with crossing := crossing }.publish (if on then .stateOn else .stateOff) s.home
  have henable : (s.enable on).2 = if !on && !t.role.isFree then t.stop.2 else t := by
    unfold enable
    rw [h]
  rw [henable]
  have hw := hstop (!on && !t.role.isFree) t
  exact ⟨hw.gateway, hw.states, fun ht => hw.tuned (ht.of_same rfl rfl rfl),
    fun ha => hw.attentive (ha.of_same rfl rfl), hw.room⟩

theorem uses_enable (on : Bool) : s.gateway.Uses (s.enable on).2.gateway := by
  cases h : s.crossing.update on [s.home] with
  | error fault =>
    unfold enable
    rw [h]
    exact .nothing
  | ok crossing => exact (s.works_enable h).gateway

theorem tuned_enable (on : Bool) (ht : s.Tuned) : (s.enable on).2.Tuned := by
  cases h : s.crossing.update on [s.home] with
  | error fault =>
    unfold enable
    rw [h]
    exact ht
  | ok crossing => exact (s.works_enable h).tuned (ht.of_same rfl rfl rfl)

/-- The station's own switch is set, and then nothing is done to the listeners. -/
theorem attentive_enable (on : Bool) (ha : s.Attentive) : (s.enable on).2.Attentive := by
  cases h : s.crossing.update on [s.home] with
  | error fault =>
    unfold enable
    rw [h]
    exact ha
  | ok crossing =>
    obtain ⟨states, rfl⟩ := CrossingSwitch.update_eq h
    exact (s.works_enable h).attentive ⟨ha.registers, ha.unregisters, ha.listeners⟩

theorem room_enable (on : Bool) : (s.enable on).2.capacity = s.capacity := by
  cases h : s.crossing.update on [s.home] with
  | error fault =>
    unfold enable
    rw [h]
  | ok crossing => exact (s.works_enable h).room

/-- Items of the queue, requests to take part or not apart. -/
theorem works_handle (e : Event) (he : ∀ on, e ≠ .request (.enable on)) : s.Works (s.handle e).2 := by
  cases e with
  | request q =>
    cases q with
    | enable on => exact absurd rfl (he on)
    | start target device => exact s.works_start target device
    | stop => exact s.works_stop
    | judge e => exact s.works_judge e
    | _ => exact (Works.refl s).same rfl
  | deviceOffline id => exact s.works_peerOffline id
  | keyboardOnline dhid => exact s.works_keyboardOnline dhid
  | signal sig => exact s.works_hear sig
  | switchChanged id on => exact s.works_switchChanged id on
  | shutdown => exact .refl s

/-- What follows a post, once the tracker has applied it. -/
theorem works_receive (p : Post) :
    (s.setTracker (s.gateway.tracker.apply p).2).Works (s.receive p) := by
  by_cases hp : ∃ e, p = .relay e
  · obtain ⟨e, rfl⟩ := hp
    show s.Works (s.receive (.relay e))
    unfold receive Gateway.receive
    cases s.gateway.subscribed with
    | true => exact s.works_relayEvent e
    | false => exact .refl s
  · rw [s.receive_eq fun e he => hp ⟨e, he⟩]
    split
    · rename_i t ht
      rw [ht]
      exact .refl _
    · rename_i call t ht
      rw [ht]
      exact (Works.refl _).resume call

end operations

end Station

namespace Station

/-- A switch that is flipped is set, and the gateway does not hear of it. -/
theorem crossing_flip (s : Station) (id : NetworkId) (on : Bool) :
    (s.flip id on).crossing = s.crossing.put id on := by
  unfold flip
  dsimp only
  split <;> rfl

theorem gateway_flip (s : Station) (id : NetworkId) (on : Bool) :
    (s.flip id on).gateway = s.gateway := by
  unfold flip
  dsimp only
  split <;> rfl

end Station

/-! ### The switch of the station itself -/

/-- The move sets the switch of `home`. -/
def Move.setsSwitch (home : NetworkId) : Move → Bool
  | .event (.request (.enable _)) => true
  | .happen (.flip id _) => id == home
  | .happen (.crossing _) => true
  | _ => false

namespace Station

/-- A station's own switch is as it was, unless a move sets it. -/
theorem isOn_step {s : Station} {m : Move} (hm : m.setsSwitch s.home = false) :
    (s.step m).crossing.isOn s.home = s.crossing.isOn s.home := by
  cases m with
  | event e =>
    refine CrossingSwitch.isOn_of_states (s.works_handle e ?_).states _
    rintro on rfl
    cases hm
  | take =>
    cases hq : s.gateway.mailbox.queue with
    | nil => rw [step_take_of_empty hq]
    | cons p ps =>
      rw [step_take_of_cons hq]
      exact CrossingSwitch.isOn_of_states (works_receive _ p).states _
  | change => exact CrossingSwitch.isOn_of_states s.works_nextChange.states _
  | happen h =>
    cases h with
    | flip id on =>
      have hne : id ≠ s.home := by simpa [Move.setsSwitch] using hm
      show (s.flip id on).crossing.isOn s.home = _
      rw [crossing_flip, CrossingSwitch.isOn_put_of_ne _ hne]
    | crossing c => cases hm
    | _ => rfl

end Station

/-! ### The subscription in a run -/

/-- The listener calls of the service go on to work. -/
def Move.keepsListener : Move → Bool
  | .happen (.listenerFaults register unregister) => !register && !unregister
  | _ => true

namespace Station

/-- The subscription is there just while the station is outbound, as long as the listener calls
work. -/
theorem tuned_step {s : Station} {m : Move} (hm : m.keepsListener = true) (h : s.Tuned) :
    (s.step m).Tuned := by
  cases m with
  | event e =>
    by_cases he : ∃ on, e = .request (.enable on)
    · obtain ⟨on, rfl⟩ := he
      exact s.tuned_enable on h
    · exact (s.works_handle e fun on hon => he ⟨on, hon⟩).tuned h
  | take =>
    cases hq : s.gateway.mailbox.queue with
    | nil => rwa [step_take_of_empty hq]
    | cons p ps =>
      rw [step_take_of_cons hq]
      exact (works_receive _ p).tuned ((h.setTracker _).setTracker _)
  | change => exact s.works_nextChange.tuned h
  | happen happening =>
    cases happening with
    | listenerFaults register unregister =>
      obtain ⟨hreg, hunreg⟩ : register = false ∧ unregister = false := by
        simpa [Move.keepsListener] using hm
      exact ⟨hreg, hunreg, h.subscribed, h.hasListener, h.keys⟩
    | relay e =>
      show { s with gateway := (s.gateway.emitRelay e).2 }.Tuned
      unfold Gateway.emitRelay
      split
      · exact h.setTracker _
      · exact h
    | flip id on =>
      show (s.flip id on).Tuned
      unfold flip
      dsimp only
      split <;> exact h.of_same rfl rfl rfl
    | _ => exact ⟨h.registers, h.unregisters, h.subscribed, h.hasListener, h.keys⟩

/-- A move leaves the listeners to the switches as they are, and their calls working. -/
def KeepsSwitch (s : Station) : Move → Prop
  | .happen (.crossing c) =>
    c.listeners = s.crossing.listeners ∧ c.registerFails = false ∧ c.unregisterFails = false
  | _ => True

/-- Just the switch of the watched peer is listened to, as long as the switches' listener calls
work. -/
theorem attentive_step {s : Station} {m : Move} (hm : s.KeepsSwitch m) (h : s.Attentive) :
    (s.step m).Attentive := by
  cases m with
  | event e =>
    by_cases he : ∃ on, e = .request (.enable on)
    · obtain ⟨on, rfl⟩ := he
      exact s.attentive_enable on h
    · exact (s.works_handle e fun on hon => he ⟨on, hon⟩).attentive h
  | take =>
    cases hq : s.gateway.mailbox.queue with
    | nil => rwa [step_take_of_empty hq]
    | cons p ps =>
      rw [step_take_of_cons hq]
      exact (works_receive _ p).attentive (h.of_same rfl rfl)
  | change => exact s.works_nextChange.attentive h
  | happen happening =>
    cases happening with
    | crossing c => exact ⟨hm.2.1, hm.2.2, hm.1.trans h.listeners⟩
    | flip id on =>
      show (s.flip id on).Attentive
      unfold flip
      dsimp only
      split <;> exact ⟨h.registers, h.unregisters, h.listeners⟩
    | _ => exact h.of_same rfl rfl

/-- The room for items is fixed. -/
theorem room_step (s : Station) (m : Move) : (s.step m).capacity = s.capacity := by
  cases m with
  | event e =>
    by_cases he : ∃ on, e = .request (.enable on)
    · obtain ⟨on, rfl⟩ := he
      exact s.room_enable on
    · exact (s.works_handle e fun on hon => he ⟨on, hon⟩).room
  | take =>
    cases hq : s.gateway.mailbox.queue with
    | nil => rw [step_take_of_empty hq]
    | cons p ps =>
      rw [step_take_of_cons hq]
      exact (works_receive _ p).room
  | change => exact s.works_nextChange.room
  | happen happening =>
    cases happening with
    | flip id on =>
      show (s.flip id on).capacity = s.capacity
      unfold flip
      dsimp only
      split <;> rfl
    | _ => rfl

theorem attentive_create (settings : Settings) (registry : Registry) :
    (create settings registry).Attentive :=
  ⟨rfl, rfl, rfl⟩

theorem tuned_create (settings : Settings) (registry : Registry) :
    (create settings registry).Tuned :=
  ⟨rfl, rfl, rfl, rfl, fun _ => rfl⟩

end Station

end PointerShare
