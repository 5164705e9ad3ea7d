/-
# The link of a session leads to its other end

While a station is outbound and holds a link, the link's consuming end is the
other end of the session. The session takes its peer from the start that began
it, and its link is the one prepared for this start; so what has to be kept is
that the start whose devices are being started goes where the link leads
(`Joined.started`).

Together with what `Session` says of the rest, this is all that a station keeps
for a session: `session_coherent`.

Key definition: `Joined`.
Key theorems: `Station.joined_turn`, `Station.session_coherent`.
-/
import PointerShare.Proofs.RoleChange
import PointerShare.Proofs.Session

namespace PointerShare

/-- The link leads to the other end of the session, or will when the session begins. -/
structure Joined (c : Control) : Prop where
  outbound : c.role.isOutbound = true → c.link.isPrepared = true → c.sessionPeer = some c.link.sink
  started : c.role = .free → ∀ call plan, c.calls.get .start = some call →
    call.completion = .started plan → c.link.isPrepared = true → c.link.sink = plan.target

namespace Joined

variable {c c' : Control}

theorem of_same (h : Joined c) (hr : c'.role = c.role) (hl : c'.link = c.link)
    (hp : c'.sessionPeer = c.sessionPeer) (hc : c'.calls = c.calls) : Joined c' := by
  refine ⟨?_, ?_⟩
  · rw [hr, hl, hp]
    exact h.outbound
  · rw [hr, hl, hc]
    exact h.started

/-- Without a call of a transition, only the session counts. -/
theorem of_quiet (hq : c.Quiet [])
    (ho : c.role.isOutbound = true → c.link.isPrepared = true → c.sessionPeer = some c.link.sink) :
    Joined c := by
  refine ⟨ho, fun _ call plan hc hn => ?_⟩
  have hf := hq.1 .start call List.not_mem_nil hc
  rw [hn] at hf
  cases hf

/-- Without a call of a transition and without a pointer to share, nothing counts. -/
theorem of_rest (hq : c.Quiet []) (hr : c.role.isOutbound = false) : Joined c :=
  of_quiet hq fun ho => by rw [hr] at ho; cases ho

theorem of_inbound {d : Dhid} (hr : c.role = .inbound d) : Joined c :=
  ⟨fun ho => (by rw [hr] at ho; cases ho), fun hf => (by rw [hr] at hf; cases hf)⟩

/-- A station without a link has nothing to lead anywhere. -/
theorem of_unlinked (hl : c.link.isPrepared = false) : Joined c :=
  ⟨fun _ h => (by rw [hl] at h; cases h), fun _ _ _ _ _ h => (by rw [hl] at h; cases h)⟩

theorem ends (h : Joined c) {call : Resolved Continuation} (he : Ends c call c') : Joined c' := by
  have h' : Joined { c' with calls := c.calls } :=
    h.of_same he.same.role he.same.link he.same.sessionPeer rfl
  exact ⟨h'.outbound, fun hf call plan hc hn => h'.started hf call plan (he.get_of_get hc) hn⟩

/-- A call is issued that is no step of a free station's start, or goes where the link leads. -/
theorem issue (h : Joined c) (k : CallKind) (args : CallArgs) (next : Continuation)
    (hs : c.role = .free → ∀ plan, next = .started plan → c.link.sink = plan.target) :
    Joined (c.issue k args next) := by
  refine ⟨h.outbound, fun hf call plan hc hn hl => ?_⟩
  simp only [Control.issue, PerKind.get_set] at hc
  split at hc
  · cases hc
    exact hs hf plan hn
  · exact h.started hf call plan hc hn hl

/-- A call is issued that starts nothing. -/
theorem issue_other (h : Joined c) (k : CallKind) (args : CallArgs) {next : Continuation}
    (hn : ∀ plan, next ≠ .started plan) : Joined (c.issue k args next) :=
  h.issue k args next fun _ plan he => absurd he (hn plan)

/-- The devices are started over the link that leads to the start's target, or the start failed. -/
theorem shares (h : Joined c) {plan : StartPlan} (hl : c.link.sink = plan.target) {ns : List Notice}
    {ds : List Dispatch} (hs : Shares c plan c' ns ds) : Joined c' := by
  cases hs with
  | calls dhids _ _ =>
    exact h.issue _ _ _ fun _ plan' he => by
      obtain rfl := Continuation.started.inj he
      exact hl
  | lacks _ => exact of_unlinked rfl

theorem released (h : Joined c) (p : NetworkId) : Joined (c.released p) := by
  unfold Control.released
  split
  · exact h.of_same rfl rfl rfl rfl
  · exact h

end Joined

/-- The session is over, and with it what its link was for. -/
theorem Joined.ended {c : Control} (hq : c.Quiet []) : Joined c.ended :=
  .of_rest hq.ended (by rw [Control.role_ended]; rfl)

namespace Station

variable {s : Station} {c : Control} {ns : List Notice} {ds : List Dispatch} {e : Option Errand}

/-- A free station's start that goes well was started over the link that it has now. -/
theorem joined_shares (h : Phase s.control e) (hj : Joined s.control)
    {call : Resolved Continuation} (he : Ends s.control call c) {target : NetworkId}
    {device : DeviceId} (hn : call.completion.last? = some (target, device)) (hr : s.role = .free)
    (hl : s.link.isPrepared = true) : s.link.sink = target := by
  obtain ⟨e', rfl, hw, hsup, hb⟩ := h.ends_step he (isTransition_of_last? hn)
  have hfree : e'.role = .free := hb.role.symm.trans (he.same.role.trans hr)
  obtain ⟨hkind, plan, hplan⟩ := hw.started_of_free hfree hn
  obtain ⟨x, hx, hxn⟩ := he.get hsup
  rw [hkind] at hx
  rw [hplan] at hn
  have htarget : plan.target = target := by
    simp only [Continuation.last?] at hn
    split at hn
    · cases hn
    · exact congrArg Prod.fst (Option.some.inj hn)
  exact (hj.started hr x plan hx (hxn.trans hplan) hl).trans htarget

theorem joined_turn {m : Move} (ht : Turn s m c ns ds) (h : Phase s.control e)
    (hj : Joined s.control) : Joined c := by
  have hheard {p : NetworkId} (hg : s.announcer = some p ∨ s.guard = .idle) :
      (s.control.released p).Quiet [] :=
    (h.released hg).2.2.2
  cases ht with
  | rest m _ _ _ _ => exact hj
  | devices ds => exact hj.of_same rfl rfl rfl rfl
  | prepares target device route plan hp hr _ =>
    have hb := between_begin h (guard_of_planStart hp) s.cursor.location target device
    obtain ⟨-, -, ho, -⟩ := planStart_plan hp hr
    exact (Joined.of_rest hb.quiet ho).issue_other _ _ (by simp)
  | sharesAtOnce target device route plan hp hr hl hs =>
    have hb := between_begin h (guard_of_planStart hp) s.cursor.location target device
    obtain ⟨-, -, ho, -⟩ := planStart_plan hp hr
    have hsink : s.link.sink = plan.target := by rw [(Link.joins_iff.mp hl).1]
    exact (Joined.of_rest hb.quiet ho).shares hsink hs
  | comesBack target device plan hp =>
    obtain ⟨-, -, shared, hr⟩ := planStart_comeBack hp
    exact .of_inbound hr
  | stops m r hr =>
    have hj' : Joined { s.control with guard := .stopping } := hj.of_same rfl rfl rfl rfl
    exact hj'.issue_other _ _ (by simp)
  | hearsStart p _ _ => exact hj.of_same rfl rfl rfl rfl
  | hearsStop p _ _ => exact hj.of_same rfl rfl rfl rfl
  | startRejected p _ _ _ _ => exact hj.released p
  | consumes p dhid _ _ _ _ => exact .of_inbound rfl
  | getsBack p _ _ hg _ _ => exact .ended (hheard hg)
  | stopDropped p _ _ _ => exact hj.released p
  | stopRejected p _ _ => exact hj.released p
  | isLeft p hg _ => exact .ended (hheard hg)
  | handedOn p hr =>
    -- the link is bent to where the session goes
    refine ⟨fun _ _ => rfl, fun hf => ?_⟩
    have hf' : s.role = .free := hf
    rw [hf'] at hr
    cases hr
  | resets id _ => exact .of_unlinked rfl
  | loses id _ =>
    refine Joined.released ?_ id
    split
    · exact .of_unlinked rfl
    · exact hj
  | plugsIn dhid _ _ _ => exact hj.issue_other _ _ (by simp)
  | endsAside call _ he _ => exact hj.ends he
  | opens call plan _ he hn _ hs =>
    obtain ⟨role, place, rfl, ho, -, hb⟩ := h.ends_prepared he hn
    have hb' := hb.setLink ⟨plan.src, plan.target⟩
    exact (Joined.of_rest hb'.quiet (by rw [hb'.role]; exact ho)).shares rfl hs
  | opensNot => exact .of_unlinked rfl
  | stopsOrigin call plan _ he _ _ _ => exact (hj.ends he).issue_other _ _ (by simp)
  | shares call target device _ he hn _ hr =>
    obtain ⟨_, _, rfl, -, hb⟩ := h.ends_last he hn
    refine .of_quiet hb.quiet fun _ hl => ?_
    have hlink := he.same.link
    simp only [hlink] at hl ⊢
    exact congrArg some (joined_shares h hj he hn hr hl).symm
  | handsOn call target device shared _ he hn _ _ =>
    obtain ⟨_, _, rfl, -, hb⟩ := h.ends_last he hn
    exact .of_rest hb.quiet rfl
  | stays call target device _ he _ _ _ => exact (hj.ends he).of_same rfl rfl rfl rfl
  | startFails => exact .of_unlinked rfl
  | rollsBack => exact .of_unlinked rfl
  | leaves call peer _ he hn _ =>
    obtain ⟨_, rfl, -, hb⟩ := h.ends_stopped he hn
    exact .ended hb.quiet
  | stopFails call peer _ _ he _ _ => exact (hj.ends he).of_same rfl rfl rfl rfl

theorem joined_run (settings : Settings) (registry : Registry) (ms : List Move) :
    Joined ((create settings registry).run ms).control := by
  have h := track_invariant (P := fun s e => s.Speaks ∧ Phase s.control e ∧ Joined s.control)
    (Q := fun _ => True) errandAfter (fun s e m _ ⟨hw, hp, hj⟩ => by
      obtain ⟨c, ns, ds, ht, hs⟩ := s.turns m hw
      refine ⟨speaks_step m hw, phase_step m hw hp, ?_⟩
      rw [hs.control]
      exact joined_turn ht hp hj)
    ms (fun _ _ => trivial) (create settings registry) none
    ⟨speaks_create settings registry, phase_run settings registry [],
      .of_unlinked rfl⟩
  exact h.2.2

/-- **What a session takes up is given back.** Throughout every run in which the calls to the
cursor, the switches and the listener of relay events succeed, and nobody else changes the listeners
or the visibility of the cursor: a station is free iff it has no session peer; its session peer is
whose switch it listens to, and nobody else's is listened to; it is subscribed to relay events iff
the service has a listener, iff it is outbound; it holds no relayed key unless it is outbound; the
cursor is hidden while outbound and visible while inbound; and the link of an outbound station, if
it has one, leads to its session peer. -/
theorem session_coherent (settings : Settings) (registry : Registry) (ms : List Move)
    (h : Along step Gentle (create settings registry) ms) :
    let s := (create settings registry).run ms
    (s.role = .free ↔ s.sessionPeer = none) ∧
    s.watched = s.sessionPeer ∧ s.crossing.watched = s.sessionPeer.toList ∧
    (s.gateway.subscribed = true ↔ s.gateway.service.hasListener = true) ∧
    (s.gateway.service.hasListener = true ↔ s.role.isOutbound = true) ∧
    (s.role.isOutbound = false → s.relayedKeys = []) ∧
    (s.role.isOutbound = true → s.cursor.visible = false) ∧
    (∀ d, s.role = .inbound d → s.cursor.visible = true) ∧
    (s.role.isOutbound = true → s.link.isPrepared = true → s.sessionPeer = some s.link.sink) := by
  intro s
  have hjoined : Joined s.control := joined_run settings registry ms
  obtain ⟨r, p, v, ht, hs⟩ : s.Coherent := coherent_run settings registry ms h
  have hrole : s.role = r := ht.role
  have hpeer : s.sessionPeer = p := ht.sessionPeer
  have hsub : s.gateway.subscribed = r.isOutbound := ht.subscribed
  have hlis : s.gateway.service.hasListener = r.isOutbound := ht.hasListener
  have hvisible : s.cursor.visible = v := ht.visible
  have hwatched : s.crossing.watched = p.toList := by
    have hl : s.crossing.listeners = p.toList.map fun p => (p, ()) := ht.listeners
    unfold CrossingSwitch.watched
    rw [hl, List.map_map]
    exact List.map_id _
  refine ⟨?_, ht.watched.trans hpeer.symm, by rw [hwatched, hpeer], by rw [hsub, hlis],
    by rw [hlis, hrole], ?_, ?_, ?_, hjoined.outbound⟩
  · rw [hrole, hpeer]
    cases hs <;> simp
  · rw [hrole]
    exact ht.relayedKeys
  · rw [hrole, hvisible]
    cases hs <;> simp [Role.isOutbound]
  · rw [hrole, hvisible]
    cases hs <;> simp

/-- A pointer is shared with `b`, and the cursor is moved while it is hidden: the station listens to
the switch of `b`, and its link leads there. -/
theorem donor_watches_its_consumer :
    let s := (create ⟨8, 1000, 2, 1000, .center⟩
        ⟨⟨"a"⟩, [⟨⟨1⟩, ⟨"m"⟩, ⟨"a"⟩, [], true, false⟩]⟩).run
      [.event (.request (.start ⟨"b"⟩ ⟨1⟩)), .take, .take, .take,
        .happen (.cursor ⟨false, .center, false, true⟩)]
    s.role = .outbound ⟨"m"⟩ ∧ s.crossing.watched = s.sessionPeer.toList ∧
      s.cursor.visible = false ∧ s.sessionPeer = some s.link.sink ∧ s.link.sink = ⟨"b"⟩ := by
  intro s
  have h := session_coherent ⟨8, 1000, 2, 1000, .center⟩
    ⟨⟨"a"⟩, [⟨⟨1⟩, ⟨"m"⟩, ⟨"a"⟩, [], true, false⟩]⟩
    [.event (.request (.start ⟨"b"⟩ ⟨1⟩)), .take, .take, .take,
      .happen (.cursor ⟨false, .center, false, true⟩)]
    ⟨trivial, trivial, trivial, trivial, ⟨by decide +kernel, rfl⟩, trivial⟩
  obtain ⟨-, -, hwatched, -, -, -, hhidden, -, hlink⟩ := h
  have hr : s.role = .outbound ⟨"m"⟩ := by decide +kernel
  have ho : s.role.isOutbound = true := by rw [hr]; rfl
  exact ⟨hr, hwatched, hhidden ho, hlink ho (by decide +kernel), by decide +kernel⟩

end Station

end PointerShare
