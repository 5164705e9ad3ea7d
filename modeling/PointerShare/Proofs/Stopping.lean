/-
# When a session can be ended

An idle station that is not free can end its session, with one exception. An
outbound station needs its link for that, and there is one way to become
outbound without: while a free station waits for the devices of a start, the
other end of the prepared link leaves the network. The link is given up, the
start goes on; and if it succeeds, the station is outbound and cannot stop.
`Station.cut` tells a run in which this happened to the session at its end.

Stations are named by ids that are not empty.

Key definitions: `Station.sharing`, `Station.cutAfter`, `Station.cut`,
`Stoppable`.
Key theorems: `Station.stoppable_turn`, `Station.stop_unless_cut`.
-/
import PointerShare.Proofs.RoleChange

namespace PointerShare

def Continuation.isStarted : Continuation → Bool
  | started _ => true
  | _ => false

/-- Every device has a host with a name. -/
def Registry.Named (r : Registry) : Prop := ∀ d ∈ r.devices, d.origin.isEmpty = false

/-- The ids that a move brings to the station name something. -/
def Move.Named : Move → Prop
  | .happen (.devices ds) => ∀ d ∈ ds, d.origin.isEmpty = false
  | .event (.signal (.relayAnnounce p)) => p.isEmpty = false
  | _ => True

namespace Station

/-- The devices of a start are being started. -/
def sharing (s : Station) : Bool :=
  (s.gateway.tracker.pending? .start).any fun p => p.completion.isStarted

/-- Whether the link of the last start was given up while its devices were being started. -/
def cutAfter (cut : Bool) (s : Station) : Move → Bool
  | .event (.request (.start target device)) =>
    if (s.planStart target device).toOption.isSome then false else cut
  | .event (.deviceOffline id) => cut || (s.role.isFree && s.link.involves id && s.sharing)
  | _ => cut

def cut (s : Station) (ms : List Move) : Bool := track cutAfter false s ms

end Station

/-- There is a link, unless it was cut; then its first end stays without a name. -/
def Control.Linked (c : Control) (cut : Bool) : Prop :=
  if cut then c.link.src.isEmpty = true else c.link.isPrepared = true

/-- What ending a session needs is there, or will be when the session begins. -/
structure Stoppable (c : Control) (cut : Bool) : Prop where
  named : c.registry.Named
  inbound : ∀ d, c.role = .inbound d → c.sessionPeer.isSome = true
  outbound : c.role.isOutbound = true → c.Linked cut
  prepared : c.role = .free → ∀ call plan, c.calls.get .prepare = some call →
    call.completion = .prepared plan →
      cut = false ∧ (Link.mk plan.src plan.target).isPrepared = true
  started : c.role = .free → ∀ call plan, c.calls.get .start = some call →
    call.completion = .started plan → c.Linked cut

theorem Registry.Named.originOf? {r : Registry} (h : r.Named) {id : DeviceId} {src : NetworkId}
    (ho : r.originOf? id = some src) : src.isEmpty = false := by
  obtain ⟨d, hd, rfl⟩ := Option.map_eq_some_iff.mp ho
  exact h d (List.mem_of_find?_eq_some hd)

namespace Stoppable

variable {c c' : Control} {cut : Bool}

theorem of_same (h : Stoppable c cut) (hreg : c'.registry = c.registry) (hr : c'.role = c.role)
    (hl : c'.link = c.link) (hp : c'.sessionPeer = c.sessionPeer) (hc : c'.calls = c.calls) :
    Stoppable c' cut := by
  have hlinked : c'.Linked cut ↔ c.Linked cut := by
    unfold Control.Linked
    rw [hl]
  refine ⟨hreg ▸ h.named, fun d hd => ?_, fun ho => ?_, fun hf => ?_, fun hf => ?_⟩
  · rw [hp]
    exact h.inbound d (hr ▸ hd)
  · exact hlinked.mpr (h.outbound (hr ▸ ho))
  · rw [hc]
    exact h.prepared (hr ▸ hf)
  · rw [hc, hlinked]
    exact h.started (hr ▸ hf)

/-- Without a call of a transition, only the session counts. -/
theorem of_quiet (hreg : c.registry.Named) (hq : c.Quiet [])
    (hi : ∀ d, c.role = .inbound d → c.sessionPeer.isSome = true)
    (ho : c.role.isOutbound = true → c.Linked cut) : Stoppable c cut := by
  refine ⟨hreg, hi, ho, fun _ call plan hc hn => ?_, fun _ call plan hc hn => ?_⟩
  · have hf := hq.1 .prepare call List.not_mem_nil hc
    rw [hn] at hf
    cases hf
  · have hf := hq.1 .start call List.not_mem_nil hc
    rw [hn] at hf
    cases hf

theorem of_free (hreg : c.registry.Named) (hq : c.Quiet []) (hr : c.role = .free) :
    Stoppable c cut :=
  of_quiet hreg hq (fun d hd => by rw [hr] at hd; cases hd) (fun ho => by rw [hr] at ho; cases ho)

/-- The session of an inbound station, whatever calls it makes. -/
theorem of_inbound (hreg : c.registry.Named) {d : Dhid} (hr : c.role = .inbound d)
    (hp : c.sessionPeer.isSome = true) : Stoppable c cut :=
  ⟨hreg, fun _ _ => hp, fun ho => (by rw [hr] at ho; cases ho),
    fun hf => (by rw [hr] at hf; cases hf), fun hf => (by rw [hr] at hf; cases hf)⟩

/-- The calls that end leave what others wait for. -/
theorem ends (h : Stoppable c cut) {call : Resolved Continuation} (he : Ends c call c') :
    Stoppable c' cut := by
  have h' : Stoppable { c' with calls := c.calls } cut :=
    h.of_same he.same.registry he.same.role he.same.link he.same.sessionPeer rfl
  exact ⟨h'.named, h'.inbound, h'.outbound,
    fun hf call plan hc hn => h'.prepared hf call plan (he.get_of_get hc) hn,
    fun hf call plan hc hn => h'.started hf call plan (he.get_of_get hc) hn⟩

/-- A call is issued that is no step of a free station's start, or finds what it needs. -/
theorem issue (h : Stoppable c cut) (k : CallKind) (args : CallArgs) (next : Continuation)
    (hp : c.role = .free → ∀ plan, next = .prepared plan →
      cut = false ∧ (Link.mk plan.src plan.target).isPrepared = true)
    (hs : c.role = .free → ∀ plan, next = .started plan → c.Linked cut) :
    Stoppable (c.issue k args next) cut := by
  refine ⟨h.named, h.inbound, h.outbound, fun hf call plan hc hn => ?_, fun hf call plan hc hn => ?_⟩
  · simp only [Control.issue, PerKind.get_set] at hc
    split at hc
    · cases hc
      exact hp hf plan hn
    · exact h.prepared hf call plan hc hn
  · simp only [Control.issue, PerKind.get_set] at hc
    split at hc
    · cases hc
      exact hs hf plan hn
    · exact h.started hf call plan hc hn

/-- A start between two calls keeps the session it began in, whatever becomes of the link. -/
theorem between (h : Stoppable c cut) (hq : c.Quiet []) (ho : c.role.isOutbound = false) (cut' : Bool)
    (hreg : c'.registry = c.registry) (hr : c'.role = c.role) (hp : c'.sessionPeer = c.sessionPeer)
    (hc : c'.calls = c.calls) (hs : c'.superseded = c.superseded) : Stoppable c' cut' := by
  refine of_quiet (hreg ▸ h.named) (hq.of_same hc hs) (fun d hd => ?_) fun ho' => ?_
  · rw [hp]
    exact h.inbound d (hr ▸ hd)
  · rw [hr, ho] at ho'
    cases ho'

/-- The devices are started over the link, or the start failed. -/
theorem shares (h : Stoppable c cut) (hq : c.Quiet []) (ho : c.role.isOutbound = false)
    {plan : StartPlan} (hl : c.role = .free → c.Linked cut) {ns : List Notice} {ds : List Dispatch}
    (hs : Shares c plan c' ns ds) : Stoppable c' cut := by
  cases hs with
  | calls dhids _ _ => exact h.issue _ _ _ (fun _ _ hn => by cases hn) fun hf _ _ => hl hf
  | lacks _ => exact h.between hq ho cut rfl rfl rfl rfl rfl

end Stoppable

namespace Station

variable {s : Station} {c : Control} {ns : List Notice} {ds : List Dispatch} {e : Option Errand}
variable {cut : Bool}

theorem named_of_planStart {target : NetworkId} {device : DeviceId} {route : StartRoute}
    (h : s.planStart target device = .ok route) : target.isEmpty = false := by
  have hcheck (x : Except Refusal StartRoute) (hx : (do s.checkTarget target; x) = .ok route) :
      target.isEmpty = false := by
    unfold checkTarget at hx
    cases ht : target.isEmpty with
    | false => rfl
    | true => rw [ht] at hx; cases hx
  unfold planStart at h
  split at h
  · cases h
  split at h
  · cases h
  split at h
  · exact hcheck _ h
  · exact hcheck _ h
  · cases h

/-- A free station shares a device of some named host. -/
theorem named_of_share (hreg : s.registry.Named) {target : NetworkId} {device : DeviceId}
    {route : StartRoute} {plan : StartPlan} (hp : s.planStart target device = .ok route)
    (hr : route = .share plan ∨ route = .relay plan) (hf : s.role = .free) :
    (Link.mk plan.src plan.target).isPrepared = true := by
  have ht := named_of_planStart hp
  rcases planStart_cases hp with ⟨-, src, ho, rfl⟩ | ⟨shared, origin, hrole, -⟩
  · have hsrc := hreg.originOf? ho
    rcases hr with hr | hr <;> cases hr
    simp [Link.isPrepared, hsrc, ht]
  · rw [hf] at hrole
    cases hrole

theorem cutAfter_of_stop {m : Move} {r : StopRoute} (hr : s.stopRoute? m = some r) :
    cutAfter cut s m = cut := by
  unfold cutAfter
  split
  · cases hr
  · cases hr
  · rfl

theorem cutAfter_of_rest {m : Move} (hstart : s.startRoute? m = none)
    (hoff : ∀ id, m ≠ .event (.deviceOffline id)) : cutAfter cut s m = cut := by
  unfold cutAfter
  split
  · rename_i target device
    have hnone : (s.planStart target device).toOption = none := hstart
    rw [hnone]
    rfl
  · rename_i id
    exact absurd rfl (hoff id)
  · rfl

theorem cutAfter_of_start {target : NetworkId} {device : DeviceId} {route : StartRoute}
    (hp : s.planStart target device = .ok route) :
    cutAfter cut s (.event (.request (.start target device))) = false := by
  simp [cutAfter, hp, Except.toOption]

theorem sharing_eq (s : Station) :
    s.sharing = (s.control.calls.get .start).any fun call => call.completion.isStarted := by
  simp only [sharing, control, Tracker.get_calls]
  cases s.gateway.tracker.pending? .start <;> rfl

/-- While a link is being prepared no devices are being started. -/
theorem sharing_of_prepared (h : Phase s.control e) {call : Call Continuation} {plan : StartPlan}
    (hc : s.control.calls.get .prepare = some call) (hn : call.completion = .prepared plan) :
    s.sharing = false := by
  rw [sharing_eq]
  have ht : call.completion.isTransition = true := by rw [hn]; rfl
  cases hst : s.control.calls.get .start with
  | none => rfl
  | some call' =>
    have haside : call'.completion.isTransition = false := by
      cases h with
      | idle _ _ hq => exact hq.1 .start call' List.not_mem_nil hst
      | announced _ _ _ hq => exact hq.1 .start call' List.not_mem_nil hst
      | underway _ k _ _ _ _ _ _ _ hq =>
        by_cases hk : k = .prepare
        · exact hq.1 .start call' (by rw [hk]; decide) hst
        · have hne : CallKind.prepare ∉ [k] := by simpa using fun h' : CallKind.prepare = k => hk h'.symm
          have hf := hq.1 .prepare call hne hc
          rw [ht] at hf
          cases hf
    show call'.completion.isStarted = false
    cases hn' : call'.completion <;> first | rfl | (rw [hn'] at haside; cases haside)

theorem stoppable_released (hs : Stoppable c cut) (p : NetworkId) : Stoppable (c.released p) cut := by
  unfold Control.released
  split
  · exact hs.of_same rfl rfl rfl rfl rfl
  · exact hs

/-- A station that leaves cuts the link of a free station, and nothing else. -/
theorem stoppable_loses (h : Phase s.control e) (hs : Stoppable s.control cut) (id : NetworkId) :
    Stoppable ((if s.role.isFree && s.link.involves id then { s.control with link := .none }
      else s.control).released id) (cut || (s.role.isFree && s.link.involves id && s.sharing)) := by
  refine stoppable_released ?_ id
  by_cases hl : (s.role.isFree && s.link.involves id) = true
  · have hr : s.role = .free := by
      cases hrole : s.role <;> simp_all [Role.isFree]
    simp only [hl, if_true, Bool.true_and]
    refine ⟨hs.named, fun d hd => ?_, fun ho => ?_, fun _ call plan hc hn => ?_,
      fun _ call plan hc hn => ?_⟩
    · have hd' : s.role = .inbound d := hd
      rw [hr] at hd'
      cases hd'
    · have ho' : s.role.isOutbound = true := ho
      rw [hr] at ho'
      cases ho'
    · obtain ⟨hcut, hlink⟩ := hs.prepared hr call plan hc hn
      exact ⟨by rw [hcut, sharing_of_prepared h hc hn]; rfl, hlink⟩
    · have hsharing : s.sharing = true := by
        rw [sharing_eq, show s.control.calls.get .start = some call from hc]
        show call.completion.isStarted = true
        rw [hn]
        rfl
      rw [hsharing, Bool.or_true]
      rfl
  · rw [if_neg hl]
    have hf : (s.role.isFree && s.link.involves id) = false := by simpa using hl
    rw [hf, Bool.false_and, Bool.or_false]
    exact hs

/-- Every move leaves what ending a session needs, but for a link that is cut. -/
theorem stoppable_turn {m : Move} (ht : Turn s m c ns ds) (h : Phase s.control e)
    (hs : Stoppable s.control cut) (hm : m.Named) : Stoppable c (cutAfter cut s m) := by
  have hended {c₁ : Control} (hreg : c₁.registry.Named) (hq : c₁.Quiet []) :
      Stoppable c₁.ended cut :=
    .of_free (by rw [Control.registry_ended]; exact hreg) hq.ended (Control.role_ended _)
  have hheard {p : NetworkId} (hg : s.announcer = some p ∨ s.guard = .idle) :
      (s.control.released p).Quiet [] :=
    (h.released hg).2.2.2
  cases ht with
  | rest m hstart _ _ hoff =>
    rw [cutAfter_of_rest hstart hoff]
    exact hs
  | devices ds => exact ⟨hm, hs.inbound, hs.outbound, hs.prepared, hs.started⟩
  | prepares target device route plan hp hr _ =>
    obtain ⟨-, -, hq⟩ := h.of_idle (guard_of_planStart hp)
    obtain ⟨-, -, ho, -⟩ := planStart_plan hp hr
    rw [cutAfter_of_start hp]
    refine Stoppable.issue ?_ _ _ _ (fun hf plan' hn => ?_) fun _ _ hn => by cases hn
    · exact hs.between hq ho false rfl rfl rfl rfl rfl
    · cases hn
      exact ⟨rfl, named_of_share hs.named hp hr hf⟩
  | sharesAtOnce target device route plan hp hr hl hsh =>
    obtain ⟨-, -, hq⟩ := h.of_idle (guard_of_planStart hp)
    obtain ⟨-, -, ho, -⟩ := planStart_plan hp hr
    rw [cutAfter_of_start hp]
    have hs' : Stoppable (s.control.begin s.cursor.location) false :=
      hs.between hq ho false rfl rfl rfl rfl rfl
    exact hs'.shares hq ho (fun _ => (Link.joins_iff.mp hl).2) hsh
  | comesBack target device plan hp =>
    obtain ⟨-, -, hq⟩ := h.of_idle (guard_of_planStart hp)
    obtain ⟨-, -, shared, hr⟩ := planStart_comeBack hp
    rw [cutAfter_of_start hp]
    exact .of_inbound hs.named hr (hs.inbound shared hr)
  | stops m r hr =>
    rw [cutAfter_of_stop hr]
    refine Stoppable.issue ?_ _ _ _ (fun _ _ hn => by cases hn) fun _ _ hn => by cases hn
    exact hs.of_same rfl rfl rfl rfl rfl
  | hearsStart p _ _ => exact hs.of_same rfl rfl rfl rfl rfl
  | hearsStop p _ _ => exact hs.of_same rfl rfl rfl rfl rfl
  | startRejected p _ _ _ _ => exact stoppable_released hs p
  | consumes p dhid _ hg _ _ => exact .of_inbound (stoppable_released hs p).named rfl rfl
  | getsBack p _ _ hg _ _ => exact hended (stoppable_released hs p).named (hheard hg)
  | stopDropped p _ _ _ => exact stoppable_released hs p
  | stopRejected p _ _ => exact stoppable_released hs p
  | isLeft p hg _ => exact hended (stoppable_released hs p).named (hheard hg)
  | handedOn p hr =>
    have hnf (hf : s.role = .free) : False := by
      rw [hf] at hr
      cases hr
    refine ⟨hs.named, fun _ _ => rfl, fun _ => ?_, fun hf => (hnf hf).elim, fun hf => (hnf hf).elim⟩
    have hlink := hs.outbound hr
    unfold Control.Linked at hlink ⊢
    cases cut with
    | true => exact hlink
    | false =>
      have hsrc : s.link.src.isEmpty = false := by
        have h' : (!s.link.src.isEmpty && !s.link.sink.isEmpty) = true := hlink
        simp_all
      have hp : p.isEmpty = false := hm
      simp [cutAfter, Link.isPrepared, hsrc, hp]
  | resets id _ => exact .of_free hs.named (Control.quiet_const rfl rfl) rfl
  | loses id _ => exact stoppable_loses h hs id
  | plugsIn dhid hr _ _ =>
    exact hs.issue _ _ _ (fun _ _ hn => by cases hn) fun _ _ hn => by cases hn
  | endsAside call _ he _ => exact hs.ends he
  | @opens call plan c₁ _ _ _ hc he hn ho hsh =>
    -- a link that was given up before is there again
    obtain ⟨e', rfl, hw, hsup, hb⟩ := h.ends_step he (by rw [hn]; rfl)
    rw [hn] at hw
    obtain ⟨role, place, rfl, hout, -⟩ := hw.of_prepared
    have hrole : c₁.role.isOutbound = false := by rw [hb.role]; exact hout
    have hs' : Stoppable { c₁ with link := ⟨plan.src, plan.target⟩ } cut :=
      (hs.ends he).between hb.quiet hrole cut rfl rfl rfl rfl rfl
    refine hs'.shares hb.quiet hrole (fun hf => ?_) hsh
    obtain ⟨x, hx, hxn⟩ := he.get hsup
    rw [hw.kind_of_prepared] at hx
    have hf' : s.role = .free := he.same.role.symm.trans hf
    obtain ⟨hcut, hlink⟩ := hs.prepared hf' x plan hx (hxn.trans hn)
    rw [hcut]
    exact hlink
  | opensNot call plan reason hc he hn _ =>
    obtain ⟨role, place, rfl, hout, -, hb⟩ := h.ends_prepared he hn
    exact (hs.ends he).between hb.quiet (by rw [hb.role]; exact hout) cut rfl rfl rfl rfl rfl
  | stopsOrigin call plan hc he hn _ hr =>
    exact (hs.ends he).issue _ _ _ (fun _ _ hn => by cases hn) fun _ _ hn => by cases hn
  | @shares call target device c₁ hc he hn _ hr =>
    -- the session begins over the link of its start, which may be cut by now
    obtain ⟨e', rfl, hw, hsup, hb⟩ := h.ends_step he (isTransition_of_last? hn)
    have hfree : e'.role = .free := hb.role.symm.trans (he.same.role.trans hr)
    obtain ⟨hkind, plan, hplan⟩ := hw.started_of_free hfree hn
    obtain ⟨x, hx, hxn⟩ := he.get hsup
    rw [hkind] at hx
    have hlink := hs.started hr x plan hx (hxn.trans hplan)
    refine .of_quiet (hs.ends he).named hb.quiet (fun d hd => by cases hd) fun _ => ?_
    unfold Control.Linked at hlink ⊢
    rw [show ({ c₁ with
      guard := .idle, role := .outbound ((s.registry.dhidOf? device).getD .empty)
      sessionPeer := some target } : Control).link = s.control.link from he.same.link]
    exact hlink
  | handsOn call target device shared hc he hn _ hr =>
    obtain ⟨_, _, rfl, -, hb⟩ := h.ends_last he hn
    exact .of_free (hs.ends he).named hb.quiet rfl
  | stays call target device hc he hn _ hr =>
    obtain ⟨_, -, ho⟩ := start_of_last? h he hn
    rw [hr] at ho
    cases ho
  | startFails call target device reason hc he hn _ =>
    obtain ⟨role, place, rfl, hout, hb⟩ := h.ends_leg he hn
    exact (hs.ends he).between hb.quiet (by rw [hb.role]; exact hout) cut rfl rfl rfl rfl rfl
  | rollsBack call plan reason hc he hn _ =>
    obtain ⟨shared, place, rfl, hb⟩ := h.ends_originStopped he hn
    exact .of_inbound (hs.ends he).named hb.role ((hs.ends he).inbound shared hb.role)
  | leaves call peer hc he hn _ =>
    obtain ⟨_, rfl, -, hb⟩ := h.ends_stopped he hn
    exact hended (hs.ends he).named hb.quiet
  | stopFails call peer reason hc he hn _ =>
    exact (hs.ends he).of_same rfl rfl rfl rfl rfl

theorem stoppable_run (settings : Settings) (registry : Registry) (ms : List Move)
    (hreg : registry.Named) (hms : ∀ m ∈ ms, m.Named) :
    Stoppable ((create settings registry).run ms).control ((create settings registry).cut ms) := by
  have h := track_invariant
    (P := fun s cut => s.Speaks ∧ (∃ e, Phase s.control e) ∧ Stoppable s.control cut)
    (Q := Move.Named) cutAfter (fun s cut m hm ⟨hw, ⟨e, he⟩, hs⟩ => by
      obtain ⟨c, ns, ds, ht, hshow⟩ := s.turns m hw
      refine ⟨speaks_step m hw, ⟨_, phase_step m hw he⟩, ?_⟩
      rw [hshow.control]
      exact stoppable_turn ht he hs hm)
    ms hms (create settings registry) false
    ⟨speaks_create settings registry, ⟨none, phase_run settings registry []⟩,
      .of_free hreg (Control.quiet_const rfl rfl) rfl⟩
  exact h.2.2

theorem originOf?_isSome {s : Station} (h : s.sessionPeer.isSome = true) (d : Dhid) :
    (s.originOf? d).isSome = true := by
  unfold originOf?
  cases s.registry.originOfDhid? d with
  | none => exact h
  | some _ => rfl

/-- A stop that is not refused makes the stop call. -/
theorem stop_of_planStop {s : Station} {r : StopRoute} (h : s.planStop = .ok r) :
    s.stop.1 = .ok () ∧ s.stop.2.guard = .stopping ∧
      ∃ call, s.stop.2.control.calls.get .stop = some call ∧
        call.args = ⟨r.src, r.sink, r.dhids⟩ ∧ call.completion = .stopped r.peer := by
  have hdoes := (does_stop h).control
  refine ⟨?_, congrArg Control.guard hdoes, ?_⟩
  · unfold stop
    rw [h]
  · rw [hdoes]
    exact ⟨_, Control.get_issue _ _ _ _, rfl, rfl⟩

theorem planStop_of_inbound {s : Station} (hg : s.guard = .idle) {d : Dhid} (hr : s.role = .inbound d)
    (hp : s.sessionPeer.isSome = true) : ∃ r, s.planStop = .ok r := by
  obtain ⟨origin, ho⟩ := Option.isSome_iff_exists.mp (originOf?_isSome hp d)
  refine ⟨⟨origin, origin, s.home, s.dhidsOfShared d⟩, ?_⟩
  simp [planStop, hg, hr, planStopInbound, ho]

theorem planStop_of_outbound {s : Station} (hg : s.guard = .idle) {d : Dhid}
    (hr : s.role = .outbound d) : s.planStop = s.planStopOutbound d := by
  simp [planStop, hg, hr]

/-- An outbound station without a link cannot stop, and stays as it is. -/
theorem stop_of_unprepared {s : Station} (hg : s.guard = .idle) {d : Dhid}
    (hr : s.role = .outbound d) (hl : ¬s.link.isPrepared = true) :
    s.stop = (.error .notPrepared, s) := by
  refine stop_of_refused ?_
  rw [planStop_of_outbound hg hr]
  unfold planStopOutbound
  rw [if_neg hl]

/-- **An idle session can be ended unless its link was cut while it began.** An inbound station
knows whom it consumes from; an outbound one has its link unless it was cut; and a stop is accepted,
and makes the stop call, in all these cases and in no other. -/
theorem stop_unless_cut (settings : Settings) (registry : Registry) (ms : List Move)
    (hreg : registry.Named) (hms : ∀ m ∈ ms, m.Named)
    (hg : ((create settings registry).run ms).guard = .idle)
    (hr : ((create settings registry).run ms).role ≠ .free) :
    let s := (create settings registry).run ms
    let cut := (create settings registry).cut ms
    (∀ d, s.role = .inbound d → (s.originOf? d).isSome = true) ∧
    (s.role.isOutbound = true → (s.link.isPrepared = true ↔ cut = false)) ∧
    (s.stop.1 = .ok () ↔ ¬(s.role.isOutbound = true ∧ cut = true)) ∧
    (s.stop.1 = .ok () → s.stop.2.guard = .stopping ∧
      ∃ call peer, s.stop.2.control.calls.get .stop = some call ∧
        call.completion = .stopped peer) := by
  intro s cut
  have hs : Stoppable s.control cut := stoppable_run settings registry ms hreg hms
  have hlink (ho : s.role.isOutbound = true) : s.link.isPrepared = true ↔ cut = false := by
    have hl := hs.outbound ho
    unfold Control.Linked at hl
    cases hc : cut with
    | false =>
      rw [hc] at hl
      exact iff_of_true hl rfl
    | true =>
      rw [hc] at hl
      have hsrc : s.link.src.isEmpty = true := hl
      simp [Link.isPrepared, hsrc]
  refine ⟨fun d hd => originOf?_isSome (hs.inbound d hd) d, hlink, ?_, fun hok => ?_⟩
  · cases hrole : s.role with
    | free => exact absurd hrole hr
    | inbound d =>
      obtain ⟨r, hp⟩ := planStop_of_inbound hg hrole (hs.inbound d hrole)
      exact iff_of_true (stop_of_planStop hp).1 fun h => by cases h.1
    | outbound d =>
      have hl := hlink (by rw [hrole]; rfl)
      cases hc : cut with
      | false =>
        have hp := planStop_of_outbound hg hrole
        unfold planStopOutbound at hp
        rw [if_pos (hl.mpr hc)] at hp
        exact iff_of_true (stop_of_planStop hp).1 fun h => by cases h.2
      | true =>
        have hnot : ¬s.link.isPrepared = true := fun h => by
          rw [hl.mp h] at hc
          cases hc
        refine iff_of_false (fun h => ?_) fun h => h ⟨rfl, rfl⟩
        rw [stop_of_unprepared hg hrole hnot] at h
        cases h
  · cases hp : s.planStop with
    | error e =>
      rw [stop_of_refused hp] at hok
      cases hok
    | ok r =>
      obtain ⟨-, hguard, call, hcall, -, hn⟩ := stop_of_planStop hp
      exact ⟨hguard, call, r.peer, hcall, hn⟩

/-- The station `a` with one pointer. -/
def lonePointer : Registry := ⟨⟨"a"⟩, [⟨⟨1⟩, ⟨"m"⟩, ⟨"a"⟩, [], true, false⟩]⟩

/-- The pointer is shared with `b`; while its devices are being started, `between` happens. -/
def sharedWith (between : List Move) : List Move :=
  [.happen (.mood .start .silent), .event (.request (.start ⟨"b"⟩ ⟨1⟩)), .take] ++ between ++
    [.happen (.answer ⟨.start, ⟨2⟩, .pair ⟨"a"⟩ ⟨"b"⟩, 0⟩),
      .happen (.answer ⟨.start, ⟨2⟩, .dhids [⟨"m"⟩], 0⟩), .take, .take]

theorem named_lonePointer : lonePointer.Named := by
  intro d hd
  obtain rfl := List.mem_singleton.mp hd
  decide

/-- An undisturbed session is one that can be ended. -/
theorem stop_accepted_undisturbed :
    ((create ⟨8, 1000, 2, 1000, .center⟩ lonePointer).run (sharedWith [])).stop.1 = .ok () :=
  (stop_unless_cut ⟨8, 1000, 2, 1000, .center⟩ lonePointer (sharedWith []) named_lonePointer
    (by simp [sharedWith, Move.Named]) (by decide +kernel) (by decide +kernel)).2.2.1.mpr
    (by decide +kernel)

/-- A session whose target leaves the network while it begins cannot be ended. -/
theorem stop_refused_when_cut :
    let s := (create ⟨8, 1000, 2, 1000, .center⟩ lonePointer).run
      (sharedWith [.event (.deviceOffline ⟨"b"⟩)])
    lonePointer.Named ∧ (∀ m ∈ sharedWith [.event (.deviceOffline ⟨"b"⟩)], m.Named) ∧
      s.guard = .idle ∧ s.role = .outbound ⟨"m"⟩ ∧ s.link = .none ∧
      s.stop.1 = .error .notPrepared := by
  intro s
  have hg : s.guard = .idle := by decide +kernel
  have hr : s.role = .outbound ⟨"m"⟩ := by decide +kernel
  have hl : s.link = .none := by decide +kernel
  refine ⟨named_lonePointer, by simp [sharedWith, Move.Named], hg, hr, hl, ?_⟩
  rw [stop_of_unprepared hg hr (by rw [hl]; decide)]

end Station

end PointerShare
