/-
# How a station stands towards its peer

Of two stations that share pointers with nobody else, each is at rest, was
announced a start by the other, or has a start or a stop of its own under way.
`Standing` says which, `Standing.hear` what becomes of it when a dispatch of the
peer's is heard, and `Acts` what the station can do about it by itself, with
what it tells the peer. Calls that are no step of a transition, and what happens
around the station, leave it where it stands.

A station keeps to this as long as it starts nothing but with its peer and its
calls succeed (`Station.isPlain`): `Stands` is kept by every such move, and by
every dispatch that is heard.

Key definitions: `Standing`, `Standing.hear`, `Acts`, `Stands`.
Key theorems: `Station.acts_turn`, `Station.stands_hear`.
-/
import PointerShare.Proofs.Outsiders
import PointerShare.Proofs.RoleChange

namespace PointerShare

/-- The station that hosts `d`, as a station in a session with `peer` sees it. -/
def Registry.hostOf (r : Registry) (peer : NetworkId) (d : Dhid) : NetworkId :=
  (r.originOfDhid? d).getD peer

/-- The station that is told of the end of a session. -/
def Registry.counterpart (r : Registry) (peer : NetworkId) : Role → NetworkId
  | .inbound d => r.hostOf peer d
  | _ => peer

namespace Role

/-- The role once a start of the peer's has ended: the peer's pointer is consumed, or the station's
own came back. -/
def afterStart (r : Role) (success : Bool) (d : Dhid) : Role :=
  if success then if r.isOutbound then free else inbound d else r

/-- The role once a stop of the peer's has ended. -/
def afterStop (r : Role) (success : Bool) : Role := if success then free else r

end Role

/-- Where a station stands towards its peer. -/
inductive Standing where
  | rest (role : Role)
  /-- The peer announced a start. -/
  | announced (role : Role)
  /-- A start of a free station is under way. -/
  | opening (device : DeviceId)
  /-- A start of an inbound station is under way. -/
  | handing (shared : Dhid)
  /-- A stop is under way. -/
  | stopping (role : Role)
  deriving DecidableEq, Repr

namespace Standing

def role : Standing → Role
  | rest r => r
  | announced r => r
  | opening _ => .free
  | handing d => .inbound d
  | stopping r => r

/-- The station has a start or a stop of its own under way. -/
def hasErrand : Standing → Bool
  | rest _ => false
  | announced _ => false
  | opening _ => true
  | handing _ => true
  | stopping _ => true

/-- The standing once a dispatch of the peer's was heard. While an errand is under way it stays as
it is; and so does that of a free station that hears of a start nobody announced. -/
def hear : Standing → Dispatch → Standing
  | rest r, .announceStart _ _ => announced r
  | rest r, .startResult _ success d _ => if r.isFree then rest r else rest (r.afterStart success d)
  | rest r, .stopResult _ success => rest (r.afterStop success)
  | announced r, .startResult _ success d _ => rest (r.afterStart success d)
  | announced r, .stopResult _ success => rest (r.afterStop success)
  | st, _ => st

end Standing

/-- The dispatch is one that `sender` sends about its own starts and stops. -/
def Dispatch.IsFrom (sender : NetworkId) : Dispatch → Prop
  | .announceStart origin _ => origin = sender
  | .startResult _ _ _ _ => True
  | .stopResult _ _ => True
  | .relayAnnounce _ _ => False

/-- What a station whose peer is `peer` can do by itself: how it stands before and after, the errand
that begins, if one does, and what the peer is told. -/
inductive Acts (reg : Registry) (peer : NetworkId) :
    Standing → Option Errand → Standing → List Dispatch → Prop
  | stays (st : Standing) : Acts reg peer st none st []
  /-- A pointer is about to be shared. -/
  | opens (place : Location) (device : DeviceId) :
      Acts reg peer (.rest .free) (some (.start .free place peer device)) (.opening device)
        [.announceStart reg.home peer]
  /-- The consumed pointer is about to go back to the peer. -/
  | givesBack (d : Dhid) (place : Location) (device : DeviceId) (hh : reg.hostOf peer d = peer) :
      Acts reg peer (.rest (.inbound d)) (some (.start (.inbound d) place peer device)) (.handing d)
        []
  /-- The consumed pointer is not the peer's, and is about to be handed on to it. -/
  | handsOn (d : Dhid) (place : Location) (device : DeviceId) (hh : reg.hostOf peer d ≠ peer) :
      Acts reg peer (.rest (.inbound d)) (some (.start (.inbound d) place peer device)) (.handing d)
        [.announceStart reg.home peer]
  /-- It is not handed on after all, for want of a device. -/
  | lacksAtOnce (d : Dhid) (place : Location) (device : DeviceId) (d' : Dhid) (l : Location)
      (hh : reg.hostOf peer d ≠ peer) :
      Acts reg peer (.rest (.inbound d)) (some (.start (.inbound d) place peer device))
        (.rest (.inbound d)) [.announceStart reg.home peer, .startResult peer false d' l]
  | lacks (d d' : Dhid) (l : Location) (hh : reg.hostOf peer d ≠ peer) :
      Acts reg peer (.handing d) none (.rest (.inbound d)) [.startResult peer false d' l]
  /-- The session is about to end. -/
  | stops (r : Role) (hr : r.isFree = false) :
      Acts reg peer (.rest r) (some (.stop r (reg.counterpart peer r))) (.stopping r) []
  /-- The pointer is shared. -/
  | shares (device : DeviceId) (d : Dhid) (l : Location) (hd : reg.dhidOf? device = some d) :
      Acts reg peer (.opening device) none (.rest (.outbound d)) [.startResult peer true d l]
  /-- The consumed pointer went back or on. -/
  | returns (d : Dhid) (l : Location) :
      Acts reg peer (.handing d) none (.rest .free) [.startResult peer true d l]
  /-- The session has ended; the pointer's host is told. -/
  | leaves (r : Role) :
      Acts reg peer (.stopping r) none (.rest .free)
        (if reg.counterpart peer r = peer then [.stopResult peer true] else [])

/-- The errand that goes with a standing. -/
inductive Pursues (reg : Registry) (peer : NetworkId) (c : Control) :
    Option Errand → Standing → Prop
  | rest (r : Role) (hg : c.guard = .idle) : Pursues reg peer c none (.rest r)
  | announced (r : Role) (ha : c.announcer = some peer) : Pursues reg peer c none (.announced r)
  | opening (place : Location) (device : DeviceId) (hd : (reg.byId? device).isSome = true) :
      Pursues reg peer c (some (.start .free place peer device)) (.opening device)
  /-- A link is prepared for a pointer only that is not the peer's. -/
  | handing (d : Dhid) (place : Location) (device : DeviceId)
      (hp : ∀ call plan, c.calls.get .prepare = some call → call.completion = .prepared plan →
        reg.hostOf peer d ≠ peer) :
      Pursues reg peer c (some (.start (.inbound d) place peer device)) (.handing d)
  | stopping (r : Role) :
      Pursues reg peer c (some (.stop r (reg.counterpart peer r))) (.stopping r)

/-- A station with the registry `reg` that knows nobody but `peer` stands like this towards it. -/
structure Stands (reg : Registry) (peer : NetworkId) (c : Control) (st : Standing) : Prop where
  registry : c.registry = reg
  role : c.role = st.role
  sessionPeer : c.sessionPeer = if st.role.isFree then none else some peer
  phase : ∃ e, Phase c e ∧ Pursues reg peer c e st

/-- A plain move of a station that deals with nobody but `peer`: no peer says anything or leaves,
and no device changes; a start that is accepted is with `peer`; and the call that ends went well, or a
newer one replaced it. -/
def Station.isPlain (s : Station) (peer : NetworkId) : Move → Bool
  | .event (.signal _) => false
  | .event (.deviceOffline _) => false
  | .event (.request (.start target device)) =>
    (s.planStart target device).toOption.all fun _ => target == peer
  | .happen (.devices _) => false
  | .take => s.ending?.all fun call => call.outcome == .succeeded || call.outcome == .superseded
  | _ => true

/-- The station has a start or a stop of its own under way. -/
def Station.isOnErrand (s : Station) : Bool := s.guard.isBusy && s.announcer.isNone

/-- The dispatches that are for `peer`. -/
def toPeer (peer : NetworkId) (ds : List Dispatch) : List Dispatch :=
  ds.filter fun d => d.peer == peer

/-- What a move tells `peer`. -/
def Station.tells (s : Station) (peer : NetworkId) (m : Move) : List Dispatch :=
  toPeer peer ((s.step m).outbox.queue.drop s.outbox.queue.length)

section stands

variable {reg : Registry} {peer : NetworkId} {c c' : Control} {st : Standing}

/-- The part of a control that a standing is about, and the calls that prepare a link, stay. -/
structure Control.Keeps (c c' : Control) : Prop where
  registry : c'.registry = c.registry
  role : c'.role = c.role
  guard : c'.guard = c.guard
  announcer : c'.announcer = c.announcer
  sessionPeer : c'.sessionPeer = c.sessionPeer
  prepare : ∀ call, c'.calls.get .prepare = some call → c.calls.get .prepare = some call

theorem Ends.keeps {call : Resolved Continuation} (he : Ends c call c') : c.Keeps c' :=
  ⟨he.same.registry, he.same.role, he.same.guard, he.same.announcer, he.same.sessionPeer,
    fun _ hx => he.get_of_get hx⟩

theorem Control.Keeps.issue (h : c.Keeps c') {k : CallKind} (hk : k ≠ .prepare) (args : CallArgs)
    (next : Continuation) : c.Keeps (c'.issue k args next) := by
  refine ⟨h.registry, h.role, h.guard, h.announcer, h.sessionPeer, fun call hx => ?_⟩
  rw [Control.get_issue_of_ne _ hk] at hx
  exact h.prepare call hx

theorem Control.Keeps.setLink (h : c.Keeps c') (l : Link) : c.Keeps { c' with link := l } :=
  ⟨h.registry, h.role, h.guard, h.announcer, h.sessionPeer, h.prepare⟩

theorem Pursues.of_keeps {e : Option Errand} (h : Pursues reg peer c e st) (hk : c.Keeps c') :
    Pursues reg peer c' e st := by
  cases h with
  | rest r hg => exact .rest r (hk.guard.trans hg)
  | announced r ha => exact .announced r (hk.announcer.trans ha)
  | opening place device hd => exact .opening place device hd
  | handing d place device hp =>
    exact .handing d place device fun call plan hx hn => hp call plan (hk.prepare call hx) hn
  | stopping r => exact .stopping r

/-- A station stands where it stood. -/
theorem Stands.of_keeps (h : Stands reg peer c st) (hk : c.Keeps c') {e : Option Errand}
    (hp : Pursues reg peer c e st) (hphase : Phase c' e) : Stands reg peer c' st :=
  ⟨hk.registry.trans h.registry, hk.role.trans h.role, hk.sessionPeer.trans h.sessionPeer, e,
    hphase,
    hp.of_keeps hk⟩

/-- An idle station is at rest. -/
theorem Stands.rest_of_idle (h : Stands reg peer c st) (hg : c.guard = .idle) :
    st = .rest c.role ∧ Phase c none := by
  obtain ⟨e, hphase, hp⟩ := h.phase
  obtain ⟨rfl, ha, -⟩ := hphase.of_idle hg
  cases hp with
  | rest r _ => exact ⟨by rw [show c.role = r from h.role], hphase⟩
  | announced r ha' => rw [ha] at ha'; cases ha'

/-- A station at rest after an errand, or after what was announced. -/
theorem Stands.of_phase_none {r : Role} (hreg : c.registry = reg) (hr : c.role = r)
    (hp : c.sessionPeer = if r.isFree then none else some peer) (hg : c.guard = .idle)
    (hphase : Phase c none) : Stands reg peer c (.rest r) :=
  ⟨hreg, hr, hp, none, hphase, .rest r hg⟩

theorem Registry.shareable_ne_nil {device : DeviceId} (hd : (reg.byId? device).isSome = true) :
    reg.shareable device ≠ [] := by
  unfold Registry.shareable
  obtain ⟨d, hd⟩ := Option.isSome_iff_exists.mp hd
  rw [hd]
  simp

theorem Registry.dhidOf?_eq {device : DeviceId} (hd : (reg.byId? device).isSome = true) :
    reg.dhidOf? device = some ((reg.dhidOf? device).getD .empty) := by
  unfold Registry.dhidOf?
  obtain ⟨d, hd⟩ := Option.isSome_iff_exists.mp hd
  rw [hd]
  rfl

@[simp] theorem Control.sessionPeer_released (c : Control) (p : NetworkId) :
    (c.released p).sessionPeer = c.sessionPeer := by
  unfold Control.released
  split <;> rfl

/-- No dispatch about a handed-on pointer is for the station it was handed on to. -/
theorem toPeer_handOn (target : NetworkId) (shared : Dhid) :
    toPeer target (c.handOn target shared) = [] := by
  unfold toPeer Control.handOn
  split
  · rfl
  · rename_i o _
    split
    · rfl
    · rename_i ho
      have ho' : o ≠ target := fun h => ho (.inr h)
      simp [Dispatch.peer, ho']

end stands

namespace Station

variable {reg : Registry} {peer : NetworkId} {s : Station} {st : Standing}
variable {c : Control} {ns : List Notice} {ds : List Dispatch}

theorem originOf?_of_stands (h : Stands reg peer s.control st) {d : Dhid}
    (hr : s.role = .inbound d) :
    s.originOf? d = some (reg.hostOf peer d) := by
  have hp : s.sessionPeer = some peer := by
    have hp := h.sessionPeer
    rw [← h.role, show s.control.role = .inbound d from hr] at hp
    exact hp
  unfold originOf? Registry.hostOf
  rw [show s.registry = reg from h.registry, hp]
  cases reg.originOfDhid? d <;> rfl

/-- A start with the peer that is accepted: a free station shares a device that it knows; an inbound
one gives the pointer back if it is the peer's, and hands it on otherwise. -/
theorem planStart_of_stands (h : Stands reg peer s.control st) {device : DeviceId}
    {route : StartRoute} (hp : s.planStart peer device = .ok route) :
    (s.role = .free ∧ (reg.byId? device).isSome = true ∧ ∃ plan, route = .share plan) ∨
      ∃ d, s.role = .inbound d ∧
        (reg.hostOf peer d = peer ∧ (∃ plan, route = .comeBack plan) ∨
          reg.hostOf peer d ≠ peer ∧ ∃ plan, route = .relay plan) := by
  rcases planStart_cases hp with ⟨hfree, src, ho, rfl⟩ | ⟨d, origin, hin, ho, hroute⟩
  · refine .inl ⟨hfree, ?_, _, rfl⟩
    have ho' : reg.originOf? device = some src := by
      rw [← show s.registry = reg from h.registry]
      exact ho
    unfold Registry.originOf? at ho'
    cases hb : reg.byId? device with
    | none => rw [hb] at ho'; cases ho'
    | some _ => rfl
  · obtain rfl : origin = reg.hostOf peer d :=
      Option.some.inj (ho.symm.trans (originOf?_of_stands h hin))
    refine .inr ⟨d, hin, ?_⟩
    rcases hroute with ⟨heq, rfl⟩ | ⟨hne, rfl⟩
    · exact .inl ⟨heq.symm, _, rfl⟩
    · exact .inr ⟨fun he => hne he.symm, _, rfl⟩

theorem home_of_stands (h : Stands reg peer s.control st) : s.home = reg.home := by
  unfold home
  rw [show s.registry = reg from h.registry]

section start

variable (h : Stands reg peer s.control (.rest s.role)) {device : DeviceId}
include h

/-- A start with the peer that is announced: its errand is under way. -/
theorem acts_launch {route : StartRoute} {plan : StartPlan}
    (hp : s.planStart peer device = .ok route) (hr : route = .share plan ∨ route = .relay plan)
    {place : Location}
    (hc : c.registry = s.registry ∧ c.role = s.role ∧ c.sessionPeer = s.sessionPeer)
    (hunder : Phase c (some (.start s.role place peer device))) :
    ∃ st', Acts reg peer (.rest s.role) (some (.start s.role place peer device)) st'
        [.announceStart reg.home peer] ∧ Stands reg peer c st' := by
  have hreg : s.registry = reg := h.registry
  have hpeer : s.sessionPeer = if s.role.isFree then none else some peer := h.sessionPeer
  obtain ⟨hc₁, hc₂, hc₃⟩ := hc
  rcases planStart_of_stands h hp with ⟨hfree, hd, -⟩ | ⟨d, hin, ⟨-, _, rfl⟩ | ⟨hne, -⟩⟩
  · rw [hfree] at hunder hpeer hc₂ ⊢
    exact ⟨.opening device, .opens place device, hc₁.trans hreg, hc₂, hc₃.trans hpeer, _, hunder,
      .opening place device hd⟩
  · rcases hr with hr | hr <;> cases hr
  · rw [hin] at hunder hpeer hc₂ ⊢
    exact ⟨.handing d, .handsOn d place device hne, hc₁.trans hreg, hc₂, hc₃.trans hpeer, _, hunder,
      .handing d place device fun _ _ _ _ => hne⟩

theorem toPeer_announce {plan : StartPlan} (htarget : plan.target = peer) (ds : List Dispatch) :
    toPeer peer (.announceStart s.home plan.target :: ds) =
      .announceStart reg.home peer :: toPeer peer ds := by
  rw [htarget, home_of_stands h]
  simp [toPeer, Dispatch.peer]

/-- A start that is accepted and finds its link prepared. -/
theorem acts_sharesAtOnce (hphase : Phase s.control none) {route : StartRoute} {plan : StartPlan}
    (hp : s.planStart peer device = .ok route) (hr : route = .share plan ∨ route = .relay plan)
    (hs : Shares (s.control.begin s.cursor.location) plan c ns ds) :
    ∃ st', Acts reg peer (.rest s.role) (some (.start s.role s.cursor.location peer device)) st'
        (toPeer peer (.announceStart s.home plan.target :: ds)) ∧ Stands reg peer c st' := by
  have hb := between_begin hphase (guard_of_planStart hp) s.cursor.location peer device
  obtain ⟨htarget, hdevice, ho, hrel⟩ := planStart_plan hp hr
  have hreg : s.registry = reg := h.registry
  rw [toPeer_announce h htarget]
  cases hs with
  | calls dhids _ _ =>
    have hwaits : (Errand.start s.role s.cursor.location peer device).Waits .start
        (.started { plan with dhids := dhids }) := by
      rw [← htarget, ← hdevice]
      exact .started s.role s.cursor.location { plan with dhids := dhids } ho hrel
    exact acts_launch h hp hr ⟨rfl, rfl, rfl⟩
      (hb.launch ⟨plan.src, plan.target, dhids⟩ hwaits)
  | lacks hnone =>
    have hnone' : reg.shareable device = [] := by
      rw [← hreg, ← hdevice]
      exact hnone
    rcases planStart_of_stands h hp with ⟨-, hd, -⟩ | ⟨d, hin, ⟨-, _, rfl⟩ | ⟨hne, -⟩⟩
    · exact absurd hnone' (Registry.shareable_ne_nil hd)
    · rcases hr with hr | hr <;> cases hr
    · have hst : Stands reg peer (s.control.begin s.cursor.location).failed (.rest s.role) :=
        .of_phase_none hreg rfl h.sessionPeer rfl (hb.rest rfl rfl rfl rfl)
      rw [hin] at hst ⊢
      refine ⟨_, ?_, hst⟩
      rw [htarget]
      simpa [toPeer, Dispatch.peer] using Acts.lacksAtOnce d s.cursor.location device _ _ hne

/-- A start that gives the consumed pointer back. -/
theorem acts_comesBack (hphase : Phase s.control none) {plan : StartPlan}
    (hp : s.planStart peer device = .ok (.comeBack plan)) :
    ∃ st', Acts reg peer (.rest s.role)
        (some (.start s.role s.cursor.location peer device)) st' [] ∧
      Stands reg peer ((s.control.begin s.cursor.location).issue .stop
        ⟨plan.src, s.home, plan.dhids⟩ (.cameBack plan.target plan.device)) st' := by
  have hb := between_begin hphase (guard_of_planStart hp) s.cursor.location peer device
  obtain ⟨htarget, hdevice, -⟩ := planStart_comeBack hp
  have hpeer : s.sessionPeer = if s.role.isFree then none else some peer := h.sessionPeer
  rcases planStart_of_stands h hp with ⟨-, -, _, hroute⟩ | ⟨d, hin, ⟨heq, -⟩ | ⟨-, _, hroute⟩⟩
  · cases hroute
  · rw [hin] at hb hpeer ⊢
    have hwaits : (Errand.start (.inbound d) s.cursor.location peer device).Waits .stop
        (.cameBack plan.target plan.device) := by
      rw [htarget, hdevice]
      exact .cameBack d s.cursor.location peer device
    refine ⟨.handing d, .givesBack d s.cursor.location device heq, h.registry, hin, hpeer, _,
      hb.launch ⟨plan.src, s.home, plan.dhids⟩ hwaits, ?_⟩
    refine .handing d s.cursor.location device fun call plan' hcall hn => ?_
    rw [Control.get_issue_of_ne _ (by decide)] at hcall
    have hf := hb.quiet.1 .prepare call List.not_mem_nil hcall
    rw [hn] at hf
    cases hf
  · cases hroute

end start

/-- A stop that is accepted. -/
theorem acts_stops (h : Stands reg peer s.control (.rest s.role)) (hphase : Phase s.control none)
    {r : StopRoute} (hp : s.planStop = .ok r) :
    Acts reg peer (.rest s.role) (some (.stop s.role r.peer)) (.stopping s.role) [] ∧
      Stands reg peer (s.control.close r) (.stopping s.role) := by
  have hg := guard_of_planStop hp
  obtain ⟨-, ha, hq⟩ := hphase.of_idle hg
  have hb : (Errand.stop s.role r.peer).Between { s.control with guard := .stopping } :=
    ⟨rfl, ha, rfl, trivial, hq⟩
  have hfree := role_of_planStop hp
  have hpeer : s.sessionPeer = if s.role.isFree then none else some peer := h.sessionPeer
  have htold : r.peer = reg.counterpart peer s.role := by
    unfold planStop at hp
    rw [hg, if_neg (by decide)] at hp
    cases hr : s.role with
    | free => rw [hr] at hfree; cases hfree
    | inbound d =>
      simp only [hr, planStopInbound, originOf?_of_stands h hr] at hp
      rw [← Except.ok.inj hp]
      rfl
    | outbound d =>
      simp only [hr, planStopOutbound] at hp
      split at hp
      · rw [← Except.ok.inj hp, hpeer, hfree]
        rfl
      · cases hp
  have hunder := hb.launch ⟨r.src, r.sink, r.dhids⟩ (.stopped s.role r.peer hfree)
  refine ⟨?_, h.registry, rfl, h.sessionPeer, _, hunder, ?_⟩
  · rw [htold]
    exact .stops s.role hfree
  · rw [htold]
    exact .stopping s.role

/-! ### The calls of an errand -/

section take

variable (h : Stands reg peer s.control st) {call : Resolved Continuation}
variable (hc : s.ending? = some call) (hm : s.isPlain peer .take = true)

include hc hm in
/-- A plain call that is a step of a transition went well. -/
theorem succeeded_of_plain {e : Option Errand} (hphase : Phase s.control e)
    (he : Ends s.control call c) (ht : call.completion.isTransition = true) :
    call.outcome.reason? = none := by
  obtain ⟨_, -, -, hsup, -⟩ := hphase.ends_step he ht
  have hplain : (s.ending?.all fun call =>
    call.outcome == .succeeded || call.outcome == .superseded) = true := hm
  rw [hc] at hplain
  cases ho : call.outcome <;> simp_all [Outcome.reason?]

include h

/-- The link that an errand waits for is prepared. -/
theorem acts_opens {plan : StartPlan} {c₁ : Control} (he : Ends s.control call c₁)
    (hn : call.completion = .prepared plan)
    (hs : Shares { c₁ with link := ⟨plan.src, plan.target⟩ } plan c ns ds) :
    ∃ st', Acts reg peer st none st' (toPeer peer ds) ∧ Stands reg peer c st' := by
  obtain ⟨e, hphase, hp⟩ := h.phase
  obtain ⟨e', -, hw, hsup, -⟩ := hphase.ends_step he (by rw [hn]; rfl)
  obtain ⟨x, hx, hxn⟩ := he.get hsup
  rw [hn] at hw hxn
  rw [hw.kind_of_prepared] at hx
  obtain ⟨role, place, rfl, ho, hrel, hb⟩ := hphase.ends_prepared he hn
  have hb' := hb.setLink ⟨plan.src, plan.target⟩
  have hk := he.keeps.setLink ⟨plan.src, plan.target⟩
  have hreg : c₁.registry = reg := hk.registry.trans h.registry
  cases hs with
  | calls dhids _ _ =>
    refine ⟨st, .stays st, h.of_keeps (hk.issue (by decide) _ _) hp ?_⟩
    exact hb'.launch _ (.started role place { plan with dhids := dhids } ho hrel)
  | lacks hnone =>
    have hnone' : reg.shareable plan.device = [] := by
      rw [← hreg]
      exact hnone
    cases hp with
    | opening _ _ hd => exact absurd hnone' (Registry.shareable_ne_nil hd)
    | handing d _ _ hne =>
      have hst : Stands reg plan.target { c₁ with link := ⟨plan.src, plan.target⟩ }.failed
          (.rest (.inbound d)) :=
        .of_phase_none hreg (hk.role.trans h.role) (hk.sessionPeer.trans h.sessionPeer) rfl
          (hb'.rest rfl rfl rfl rfl)
      refine ⟨_, ?_, hst⟩
      simpa [toPeer, Dispatch.peer] using Acts.lacks d _ _ (hne x plan hx hxn)

/-- A start went well. -/
theorem acts_finishStart {target : NetworkId} {device : DeviceId} {c₁ : Control}
    (he : Ends s.control call c₁) (hn : call.completion.last? = some (target, device)) :
    (s.role = .free → ∃ st',
      Acts reg peer st none st' (toPeer peer
        [.startResult target true ((s.registry.dhidOf? device).getD .empty) s.startLocation]) ∧
      Stands reg peer { c₁ with
        guard := .idle, role := .outbound ((s.registry.dhidOf? device).getD .empty)
        sessionPeer := some target } st') ∧
    (∀ d, s.role = .inbound d → ∃ st',
      Acts reg peer st none st' (toPeer peer
        (.startResult target true d s.startLocation :: s.control.handOn target d)) ∧
      Stands reg peer { c₁ with guard := .idle, role := .free, sessionPeer := none } st') ∧
    s.role.isOutbound = false := by
  obtain ⟨e, hphase, hp⟩ := h.phase
  obtain ⟨role, place, rfl, ho, hb⟩ := hphase.ends_last he hn
  have hreg : c₁.registry = reg := he.same.registry.trans h.registry
  have hrole : s.role = st.role := h.role
  cases hp with
  | opening _ _ hd =>
    have hd' := Registry.dhidOf?_eq hd
    rw [← show s.registry = reg from h.registry] at hd'
    refine ⟨fun _ => ⟨_, ?_, .of_phase_none hreg rfl rfl rfl (hb.rest rfl rfl rfl rfl)⟩,
      fun d hr => (by rw [hrole] at hr; cases hr), by rw [hrole]; rfl⟩
    rw [show s.registry = reg from h.registry] at hd' ⊢
    simpa [toPeer, Dispatch.peer] using Acts.shares device _ s.startLocation hd'
  | handing d _ _ _ =>
    refine ⟨fun hr => (by rw [hrole] at hr; cases hr), fun d' hr =>
      ⟨_, ?_, .of_phase_none hreg rfl rfl rfl (hb.rest rfl rfl rfl rfl)⟩, by rw [hrole]; rfl⟩
    obtain rfl : d = d' := Role.inbound.inj (hrole.symm.trans hr)
    have htold : toPeer peer (.startResult peer true d s.startLocation ::
        s.control.handOn peer d) = [.startResult peer true d s.startLocation] := by
      have hrest := toPeer_handOn (c := s.control) peer d
      unfold toPeer at hrest ⊢
      rw [List.filter_cons_of_pos (by simp [Dispatch.peer]), hrest]
    rw [htold]
    exact .returns d s.startLocation

/-- A stop went well. -/
theorem acts_leaves {told : NetworkId} {c₁ : Control} (he : Ends s.control call c₁)
    (hn : call.completion = .stopped told) :
    ∃ st', Acts reg peer st none st' (toPeer peer [.stopResult told true]) ∧
      Stands reg peer { c₁ with guard := .idle }.ended st' := by
  obtain ⟨e, hphase, hp⟩ := h.phase
  obtain ⟨role, rfl, -, hb⟩ := hphase.ends_stopped he hn
  have hreg : c₁.registry = reg := he.same.registry.trans h.registry
  have hend := Phase.close_ended (c := { c₁ with guard := .idle }) (x := none) rfl hb.announcer
    hb.quiet
  cases hp with
  | stopping =>
    have hst : Stands reg peer { c₁ with guard := .idle }.ended (.rest .free) := by
      refine .of_phase_none ?_ (Control.role_ended _) rfl (Control.guard_ended _) ?_
      · rw [Control.registry_ended]
        exact hreg
      · simpa using hend
    refine ⟨_, ?_, hst⟩
    have htold : toPeer peer [.stopResult (reg.counterpart peer role) true] =
        if reg.counterpart peer role = peer then [.stopResult peer true] else [] := by
      by_cases hto : reg.counterpart peer role = peer
      · rw [if_pos hto, hto]
        simp [toPeer, Dispatch.peer]
      · rw [if_neg hto]
        simp [toPeer, Dispatch.peer, hto]
    rw [htold]
    exact .leaves role

end take

/-- **What a plain move can do.** The station acts in one of the ways that are listed, and stands
where that leads. -/
theorem acts_turn {m : Move} (ht : Turn s m c ns ds) (h : Stands reg peer s.control st)
    (hm : s.isPlain peer m = true) :
    ∃ st', Acts reg peer st (s.begins m) st' (toPeer peer ds) ∧ Stands reg peer c st' := by
  obtain ⟨e, hphase, hp⟩ := h.phase
  have hidle (hg : s.guard = .idle) : Stands reg peer s.control (.rest s.role) ∧
      Phase s.control none ∧ st = .rest s.role := by
    obtain ⟨hst, hnone⟩ := h.rest_of_idle hg
    exact ⟨hst ▸ h, hnone, hst⟩
  cases ht with
  | rest m hstart hstop _ _ =>
    rw [begins_of_rest hstart hstop]
    exact ⟨st, .stays st, h⟩
  | devices _ => cases hm
  | prepares target device route plan hplan hr _ =>
    obtain rfl : target = peer := by simpa [isPlain, hplan, Except.toOption] using hm
    obtain ⟨h', hnone, rfl⟩ := hidle (guard_of_planStart hplan)
    have hb := between_begin hnone (guard_of_planStart hplan) s.cursor.location target device
    obtain ⟨htarget, hdevice, ho, hrel⟩ := planStart_plan hplan hr
    rw [begins_of_planStart hplan, toPeer_announce h' htarget]
    have hwaits := Errand.Waits.prepared s.role s.cursor.location plan ho hrel
    rw [htarget, hdevice] at hwaits
    exact acts_launch h' hplan hr ⟨rfl, rfl, rfl⟩ (hb.launch ⟨plan.src, plan.target, []⟩ hwaits)
  | sharesAtOnce target device route plan hplan hr _ hs =>
    obtain rfl : target = peer := by simpa [isPlain, hplan, Except.toOption] using hm
    obtain ⟨h', hnone, rfl⟩ := hidle (guard_of_planStart hplan)
    rw [begins_of_planStart hplan]
    exact acts_sharesAtOnce h' hnone hplan hr hs
  | comesBack target device plan hplan =>
    obtain rfl : target = peer := by simpa [isPlain, hplan, Except.toOption] using hm
    obtain ⟨h', hnone, rfl⟩ := hidle (guard_of_planStart hplan)
    rw [begins_of_planStart hplan]
    exact acts_comesBack h' hnone hplan
  | stops m r hr =>
    have hplan := planStop_of_stopRoute? hr
    obtain ⟨h', hnone, rfl⟩ := hidle (guard_of_planStop hplan)
    rw [begins_of_stopRoute? hr]
    exact ⟨_, acts_stops h' hnone hplan⟩
  | hearsStart => cases hm
  | hearsStop => cases hm
  | startRejected => cases hm
  | consumes => cases hm
  | getsBack => cases hm
  | stopDropped => cases hm
  | stopRejected => cases hm
  | isLeft => cases hm
  | handedOn => cases hm
  | resets => cases hm
  | loses => cases hm
  | plugsIn dhid hr _ _ =>
    have hk : s.control.Keeps s.control := ⟨rfl, rfl, rfl, rfl, rfl, fun _ hx => hx⟩
    exact ⟨st, .stays st, h.of_keeps (hk.issue (by decide) _ _) hp (hphase.issue_start hr _ rfl)⟩
  | endsAside call _ he ha =>
    refine ⟨st, .stays st, h.of_keeps he.keeps hp ?_⟩
    rcases hphase.ends he with ⟨-, h'⟩ | ⟨e', -, hw, -⟩
    · exact h'
    · rw [hw.isTransition] at ha
      cases ha
  | opens call plan hc he hn ho hs =>
    obtain ⟨st', ha, hst⟩ := acts_opens h he hn hs
    exact ⟨st', ha, hst⟩
  | opensNot call plan reason hc he hn ho =>
    rw [succeeded_of_plain hc hm hphase he (by rw [hn]; rfl)] at ho
    cases ho
  | stopsOrigin call plan hc he hn _ hr =>
    obtain ⟨role, place, rfl, ho, hrel, hb⟩ := hphase.ends_started he hn
    refine ⟨st, .stays st, h.of_keeps (he.keeps.issue (by decide) _ _) hp ?_⟩
    cases role with
    | free => simp [hr, Role.isFree] at hrel
    | inbound shared => exact hb.launch _ (.originStopped shared place plan)
    | outbound _ => cases ho
  | shares call target device hc he hn _ hr => exact (acts_finishStart h he hn).1 hr
  | handsOn call target device shared hc he hn _ hr =>
    exact (acts_finishStart h he hn).2.1 shared hr
  | stays call target device hc he hn _ hr =>
    rw [(acts_finishStart h he hn).2.2] at hr
    cases hr
  | startFails call target device reason hc he hn ho =>
    rw [succeeded_of_plain hc hm hphase he (isTransition_of_leg? hn)] at ho
    cases ho
  | rollsBack call plan reason hc he hn ho =>
    rw [succeeded_of_plain hc hm hphase he (by rw [hn]; rfl)] at ho
    cases ho
  | leaves call _ hc he hn _ => exact acts_leaves h he hn
  | stopFails call _ reason hc he hn ho =>
    rw [succeeded_of_plain hc hm hphase he (by rw [hn]; rfl)] at ho
    cases ho

/-! ### Hearing the peer -/

section hear

variable (h : Stands reg peer s.control st)

include h in
theorem sessionPeer_of_stands :
    s.sessionPeer = if s.role.isFree then none else some peer := by
  have hp := h.sessionPeer
  rw [← h.role] at hp
  exact hp

include h in
theorem participates_of_stands (hr : s.role ≠ .free) : s.participates peer = true := by
  have hp' := sessionPeer_of_stands h
  rw [Role.isFree_eq_false_iff.mpr hr] at hp'
  unfold participates
  cases hrole : s.role with
  | free => exact absurd hrole hr
  | inbound d => simp [hp']
  | outbound d => simp [hp']

include h in
theorem isOnErrand_of_hasErrand (he : st.hasErrand = true) : s.isOnErrand = true := by
  obtain ⟨e, hphase, hp⟩ := h.phase
  have hbusy {e : Errand} (hphase : Phase s.control (some e)) : s.isOnErrand = true := by
    cases hphase with
    | underway _ k call hg ha _ _ _ _ _ =>
      unfold isOnErrand
      rw [show s.guard = e.guard from hg, show s.announcer = none from ha, e.isBusy_guard]
      rfl
  cases hp with
  | rest => cases he
  | announced => cases he
  | opening => exact hbusy hphase
  | handing => exact hbusy hphase
  | stopping => exact hbusy hphase

include h in
/-- A station with an errand hears nothing. -/
theorem hear_of_errand (he : st.hasErrand = true) {sig : PeerSignal}
    (hs : sig.sender? = some peer) : s.hear sig = s := by
  obtain ⟨hb, ha⟩ := Bool.and_eq_true_iff.mp (isOnErrand_of_hasErrand h he)
  exact hear_of_busy hb (by rw [Option.isNone_iff_eq_none.mp ha]; exact fun h => by cases h) hs

/-- What is heard leaves a station without an errand without one. -/
theorem phase_hear (hw : s.Speaks) (hphase : Phase s.control none) (sig : PeerSignal) :
    Phase (s.hear sig).control none := by
  have h := phase_step (.event (.signal sig)) hw hphase
  have he : errandAfter none s (.event (.signal sig)) = none := by
    unfold errandAfter
    split <;> rfl
  rw [he] at h
  exact h

section results

variable (hw : s.Speaks) (hphase : Phase s.control none)
variable (hg : s.announcer = some peer ∨ s.guard = .idle)
include h hw hphase hg

/-- A start result that is heard. -/
theorem stands_startResult (hp : s.announcer = some peer ∨ s.participates peer = true)
    (success : Bool) (d : Dhid) (l : Location) :
    Stands reg peer (s.hear (.startResult peer success d l)).control
      (.rest (s.role.afterStart success d)) := by
  have hnone := phase_hear hw hphase (.startResult peer success d l)
  obtain ⟨-, hidle, -, -⟩ := hphase.released hg
  have hreg : (s.control.released peer).registry = reg := by
    rw [Control.registry_released]
    exact h.registry
  unfold Role.afterStart
  cases success with
  | false =>
    have hc := (does_startRejected hg hp d l).control
    rw [hc] at hnone ⊢
    refine .of_phase_none hreg (Control.role_released _ _) ?_ hidle hnone
    rw [Control.sessionPeer_released]
    exact sessionPeer_of_stands h
  | true =>
    cases hr : s.role.isOutbound with
    | false =>
      have hc := (does_consumes hg hp hr d l).control
      rw [hc] at hnone ⊢
      exact .of_phase_none hreg rfl rfl hidle hnone
    | true =>
      have hc := (does_getsBack hg hp hr d l).control
      rw [hc] at hnone ⊢
      refine .of_phase_none ?_ (Control.role_ended _) rfl ?_ hnone
      · rw [Control.registry_ended, hreg]
      · rw [Control.guard_ended, hidle]

/-- A stop result that is heard. -/
theorem stands_stopResult (success : Bool) :
    Stands reg peer (s.hear (.stopResult peer success)).control
      (.rest (s.role.afterStop success)) := by
  have hnone := phase_hear hw hphase (.stopResult peer success)
  obtain ⟨-, hidle, -, -⟩ := hphase.released hg
  have hreg : (s.control.released peer).registry = reg := by
    rw [Control.registry_released]
    exact h.registry
  have hreleased (hc : (s.hear (.stopResult peer success)).control = s.control.released peer) :
      Stands reg peer (s.hear (.stopResult peer success)).control (.rest s.role) := by
    rw [hc] at hnone ⊢
    refine .of_phase_none hreg (Control.role_released _ _) ?_ hidle hnone
    rw [Control.sessionPeer_released]
    exact sessionPeer_of_stands h
  unfold Role.afterStop
  cases hp : s.participates peer with
  | false =>
    have hfree : s.role = .free := Classical.byContradiction fun hr => by
      rw [participates_of_stands h hr] at hp
      cases hp
    have hst := hreleased (does_stopDropped hg hp success).control
    rw [hfree] at hst ⊢
    cases success <;> exact hst
  | true =>
    cases success with
    | false => exact hreleased (does_stopRejected hg hp).control
    | true =>
      have hc := (does_isLeft hg hp).control
      rw [hc] at hnone ⊢
      refine .of_phase_none ?_ (Control.role_ended _) rfl ?_ hnone
      · rw [Control.registry_ended, hreg]
      · rw [Control.guard_ended, hidle]

end results

include h in
/-- **What is heard of the peer.** The station stands where the dispatch leads. -/
theorem stands_hear (hw : s.Speaks) {d : Dispatch} (hd : d.IsFrom peer) :
    Stands reg peer (s.hear (d.signal peer)).control (st.hear d) := by
  obtain ⟨e, hphase, hp⟩ := h.phase
  have hsender : (d.signal peer).sender? = some peer := by
    cases d with
    | announceStart origin _ => exact congrArg some hd
    | startResult => rfl
    | stopResult => rfl
    | relayAnnounce => cases hd
  have herrand (he : st.hasErrand = true) (hst : st.hear d = st) :
      Stands reg peer (s.hear (d.signal peer)).control (st.hear d) := by
    rw [hear_of_errand h he hsender, hst]
    exact h
  cases hp with
  | opening => exact herrand rfl (by cases d <;> rfl)
  | handing => exact herrand rfl (by cases d <;> rfl)
  | stopping => exact herrand rfl (by cases d <;> rfl)
  | rest r hg =>
    have hr : s.role = r := h.role
    have hg' : s.guard = .idle := hg
    have ha : s.announcer = none := (hphase.of_idle hg).2.1
    cases d with
    | relayAnnounce => cases hd
    | announceStart origin remote =>
      obtain rfl : origin = peer := hd
      have hheard : s.role = .free ∨ s.participates origin = true := by
        by_cases hfree : s.role = .free
        · exact .inl hfree
        · exact .inr (participates_of_stands h hfree)
      have hnone := phase_hear hw hphase (.startRequest origin)
      have hc := (does_hearsStart hg' hheard).control
      show Stands reg origin (s.hear (.startRequest origin)).control (.announced r)
      rw [hc] at hnone ⊢
      exact ⟨h.registry, h.role, h.sessionPeer, none, hnone, .announced r rfl⟩
    | startResult target success d l =>
      show Stands reg peer (s.hear (.startResult peer success d l)).control
        (if r.isFree then .rest r else .rest (r.afterStart success d))
      by_cases hfree : r = .free
      · have hf : r.isFree = true := Role.isFree_iff.mpr hfree
        have hunheard : ¬((s.announcer = some peer ∨ s.guard = .idle) ∧
            (s.announcer = some peer ∨ s.participates peer = true)) := by
          rw [ha, participates_of_free (hr.trans hfree) peer]
          simp
        rw [if_pos hf, hearStartResult_of_unheard hunheard]
        exact h
      · rw [if_neg (by rw [Role.isFree_eq_false_iff.mpr hfree]; decide), ← hr]
        exact stands_startResult h hw hphase (.inr hg')
          (.inr (participates_of_stands h (hr ▸ hfree))) success d l
    | stopResult target success =>
      show Stands reg peer (s.hear (.stopResult peer success)).control (.rest (r.afterStop success))
      rw [← hr]
      exact stands_stopResult h hw hphase (.inr hg') success
  | announced r ha =>
    have hr : s.role = r := h.role
    cases d with
    | relayAnnounce => cases hd
    | announceStart origin remote =>
      have hb : s.guard.isBusy = true := by
        cases hphase with
        | idle _ ha' _ => rw [ha'] at ha; cases ha
        | announced _ hg _ _ =>
          rcases hg with hg | hg <;> rw [show s.guard = _ from hg] <;> rfl
      have hsame : s.hear (.startRequest origin) = s := if_pos hb
      show Stands reg peer (s.hear (.startRequest origin)).control (.announced r)
      rw [hsame]
      exact h
    | startResult target success d l =>
      show Stands reg peer (s.hear (.startResult peer success d l)).control
        (.rest (r.afterStart success d))
      rw [← hr]
      exact stands_startResult h hw hphase (.inl ha) (.inl ha) success d l
    | stopResult target success =>
      show Stands reg peer (s.hear (.stopResult peer success)).control (.rest (r.afterStop success))
      rw [← hr]
      exact stands_stopResult h hw hphase (.inl ha) success

end hear

/-- Nothing is told anybody because of what was heard. -/
theorem silent_of_signal {sig : PeerSignal} (ht : Turn s (.event (.signal sig)) c ns ds) :
    ds = [] := by
  cases ht <;> rfl

end Station

end PointerShare
