/-
# What a stop that went well takes down

The stop call of a session takes its link and its peer from the session as it
is when the stop is accepted; what is given up when the call has ended is the
link that is held then. For an outbound station both are the link of the
session, unless the pointer was handed on while the stop was under way
(`Station.bent`). An inbound station stops the link by which the pointer comes,
from its host to itself, and holds no such link: what it gives up, if anything,
is the link of a pointer that it handed on before, which is still backed.

Key definitions: `Station.bentAfter`, `Station.bent`, `Aims`, `Control.Aimed`.
Key theorems: `Station.aimed_turn`, `Station.finished_stop_gives_link_up`.
-/
import PointerShare.Proofs.Preparing
import PointerShare.Proofs.SessionLink

namespace PointerShare

namespace Station

/-- Whether a hand-on of the shared pointer was heard of since the last stop call. -/
def bentAfter (bent : Bool) (s : Station) : Move → Bool
  | .event (.signal (.relayAnnounce _)) => true
  | m => if (s.stopRoute? m).isSome then false else bent

def bent (s : Station) (ms : List Move) : Bool := track bentAfter false s ms

end Station

/-- What the stop call of a session is for, as long as the session is not bent. -/
structure Aims (c : Control) (bent : Bool) (peer : NetworkId) (args : CallArgs) : Prop where
  outbound : c.role.isOutbound = true → bent = false →
    c.link = ⟨args.src, args.sink⟩ ∧ c.link.isPrepared = true ∧ c.sessionPeer = some peer
  inbound : ∀ d, c.role = .inbound d → args.src = peer ∧ args.sink = c.registry.home

/-- The stop call that is pending, if there is one, is for the session. -/
def Control.Aimed (c : Control) (bent : Bool) : Prop :=
  ∀ x peer, c.calls.get .stop = some x → x.completion = .stopped peer → Aims c bent peer x.args

namespace Control.Aimed

variable {c c' : Control} {bent : Bool}

theorem of_same (h : c.Aimed bent) (hr : c'.role = c.role) (hl : c'.link = c.link)
    (hp : c'.sessionPeer = c.sessionPeer) (hreg : c'.registry = c.registry)
    (hc : c'.calls = c.calls) : c'.Aimed bent := by
  intro x peer hx hn
  rw [hc] at hx
  obtain ⟨ho, hi⟩ := h x peer hx hn
  refine ⟨?_, ?_⟩
  · rw [hr, hl, hp]
    exact ho
  · rw [hr, hreg]
    exact hi

theorem of_quiet (hq : c.Quiet []) : c.Aimed bent := by
  intro x peer hx hn
  have hf := hq.1 .stop x List.not_mem_nil hx
  rw [hn] at hf
  cases hf

/-- A free station has no session to stop. -/
theorem of_free (hr : c.role = .free) : c.Aimed bent := fun _ _ _ _ =>
  ⟨fun ho => (by rw [hr] at ho; cases ho), fun _ hi => (by rw [hr] at hi; cases hi)⟩

/-- Of a session that is bent, only an inbound one is known. -/
theorem bends (h : c.Aimed bent) : c.Aimed true := fun x peer hx hn =>
  ⟨fun _ hb => (by cases hb), (h x peer hx hn).inbound⟩

theorem ends (h : c.Aimed bent) {call : Resolved Continuation} (he : Ends c call c') :
    c'.Aimed bent := by
  have hs := he.same
  have h' : { c' with calls := c.calls }.Aimed bent :=
    h.of_same hs.role hs.link hs.sessionPeer hs.registry rfl
  intro x peer hx hn
  exact ⟨(h' x peer (he.get_of_get hx) hn).outbound, (h' x peer (he.get_of_get hx) hn).inbound⟩

/-- A call is issued that ends no session. -/
theorem issue (h : c.Aimed bent) (k : CallKind) (args : CallArgs) {next : Continuation}
    (hn : ∀ peer, next ≠ .stopped peer) : (c.issue k args next).Aimed bent := by
  intro x peer hx hcompletion
  simp only [Control.issue, PerKind.get_set] at hx
  split at hx
  · cases hx
    exact absurd hcompletion (hn peer)
  · exact ⟨(h x peer hx hcompletion).outbound, (h x peer hx hcompletion).inbound⟩

theorem released (h : c.Aimed bent) (p : NetworkId) : (c.released p).Aimed bent := by
  unfold Control.released
  split
  · exact h.of_same rfl rfl rfl rfl rfl
  · exact h

/-- The session is over. -/
theorem ended : c.ended.Aimed bent := .of_free (Control.role_ended c)

theorem shares (h : c.Aimed bent) {plan : StartPlan} {ns : List Notice} {ds : List Dispatch}
    (hq : c.Quiet []) (hs : Shares c plan c' ns ds) : c'.Aimed bent := by
  cases hs with
  | calls => exact h.issue _ _ (by simp)
  | lacks => exact .of_quiet (hq.of_same rfl rfl)

end Control.Aimed

namespace Station

section turn

variable {s : Station} {m : Move} {c : Control} {ns : List Notice} {ds : List Dispatch}
  {e : Option Errand} {bent : Bool}

/-- A stop call is for the session as it is when the stop is accepted. -/
theorem aims_of_planStop {r : StopRoute} (h : s.planStop = .ok r) (hj : Joined s.control) :
    Aims s.control false r.peer ⟨r.src, r.sink, r.dhids⟩ := by
  unfold planStop at h
  split at h
  · cases h
  split at h
  · cases h
  · rename_i d hr
    unfold planStopInbound at h
    split at h
    · cases h
    · cases h
      refine ⟨fun ho => ?_, fun _ _ => ⟨rfl, rfl⟩⟩
      rw [control_role, hr] at ho
      cases ho
  · rename_i d hr
    unfold planStopOutbound at h
    split at h
    · rename_i hl
      cases h
      have ho : s.role.isOutbound = true := by rw [hr]; rfl
      have hpeer : s.sessionPeer = some s.link.sink := hj.outbound ho hl
      refine ⟨fun _ _ => ⟨rfl, hl, ?_⟩, fun d' hi => ?_⟩
      · rw [control_sessionPeer, hpeer]
        rfl
      · rw [control_role, hr] at hi
        cases hi
    · cases h

theorem aimed_close {r : StopRoute} (h : Aims s.control false r.peer ⟨r.src, r.sink, r.dhids⟩) :
    (s.control.close r).Aimed false := by
  intro x peer hx hn
  have hx' := Control.get_issue { s.control with guard := .stopping } .stop
    ⟨r.src, r.sink, r.dhids⟩ (.stopped r.peer)
  obtain rfl := Option.some.inj (hx'.symm.trans hx)
  obtain rfl := Continuation.stopped.inj hn
  exact ⟨h.outbound, h.inbound⟩

theorem bentAfter_of_stop {r : StopRoute} (hr : s.stopRoute? m = some r) :
    bentAfter bent s m = false := by
  unfold bentAfter
  split
  · cases hr
  · rw [hr]
    rfl

theorem aimed_of_rest (h : c.Aimed bent) (hm : s.stopRoute? m = none) :
    c.Aimed (bentAfter bent s m) := by
  unfold bentAfter
  split
  · exact h.bends
  · rw [hm]
    exact h

/-- Every move keeps the stop call to its session. -/
theorem aimed_turn (ht : Turn s m c ns ds) (h : Phase s.control e) (hj : Joined s.control)
    (ha : s.control.Aimed bent) : c.Aimed (bentAfter bent s m) := by
  have hbegin {target : NetworkId} {device : DeviceId} {route : StartRoute}
      (hp : s.planStart target device = .ok route) (l : Location) : (s.control.begin l).Quiet [] :=
    (between_begin h (guard_of_planStart hp) l target device).quiet
  have hheard {p : NetworkId} (hg : s.announcer = some p ∨ s.guard = .idle) :
      (s.control.released p).Quiet [] :=
    (h.released hg).2.2.2
  cases ht with
  | rest m _ hstop _ _ => exact aimed_of_rest ha hstop
  | devices ds =>
    exact fun x peer hx hn => ⟨(ha x peer hx hn).outbound, (ha x peer hx hn).inbound⟩
  | prepares target device route plan hp _ _ =>
    exact (Control.Aimed.of_quiet (hbegin hp _)).issue _ _ (by simp)
  | sharesAtOnce target device route plan hp _ _ hs =>
    exact (Control.Aimed.of_quiet (hbegin hp _)).shares (hbegin hp _) hs
  | comesBack target device plan hp =>
    exact (Control.Aimed.of_quiet (hbegin hp _)).issue _ _ (by simp)
  | stops m r hr =>
    rw [bentAfter_of_stop hr]
    exact aimed_close (aims_of_planStop (planStop_of_stopRoute? hr) hj)
  | hearsStart p _ _ => exact ha.of_same rfl rfl rfl rfl rfl
  | hearsStop p _ _ => exact ha.of_same rfl rfl rfl rfl rfl
  | startRejected p _ _ _ _ => exact ha.released p
  | consumes p _ _ hg _ _ => exact .of_quiet ((hheard hg).of_same rfl rfl)
  | getsBack => exact .ended
  | stopDropped p _ _ _ => exact ha.released p
  | stopRejected p _ _ => exact ha.released p
  | isLeft => exact .ended
  | handedOn p hr =>
    -- the link no longer is that of the call
    intro x peer hx hn
    refine ⟨fun _ hb => (by cases hb), fun d hi => ?_⟩
    have hi' : s.role = .inbound d := hi
    rw [hi'] at hr
    cases hr
  | resets => exact .of_free rfl
  | loses id _ =>
    refine Control.Aimed.released ?_ id
    split
    · rename_i hfree
      have hr : s.role = .free := Role.isFree_iff.mp (Bool.and_eq_true_iff.mp hfree).1
      exact .of_free hr
    · exact ha
  | plugsIn => exact ha.issue _ _ (by simp)
  | endsAside call _ he _ => exact ha.ends he
  | opens call plan _ he hn _ hs =>
    obtain ⟨_, _, rfl, -, -, hb⟩ := h.ends_prepared he hn
    have hq := (hb.setLink ⟨plan.src, plan.target⟩).quiet
    exact (Control.Aimed.of_quiet hq).shares hq hs
  | opensNot call plan reason _ he hn _ =>
    obtain ⟨_, _, rfl, -, -, hb⟩ := h.ends_prepared he hn
    exact .of_quiet (hb.quiet.of_same rfl rfl)
  | stopsOrigin call plan _ he _ _ _ => exact (ha.ends he).issue _ _ (by simp)
  | shares call target device _ he hn _ _ =>
    obtain ⟨_, _, rfl, -, hb⟩ := h.ends_last he hn
    exact .of_quiet (hb.quiet.of_same rfl rfl)
  | handsOn => exact .of_free rfl
  | stays call target device _ he _ _ _ => exact (ha.ends he).of_same rfl rfl rfl rfl rfl
  | startFails call target device reason _ he hn _ =>
    obtain ⟨_, _, rfl, -, hb⟩ := h.ends_leg he hn
    exact .of_quiet (hb.quiet.of_same rfl rfl)
  | rollsBack call plan reason _ he hn _ =>
    obtain ⟨_, _, rfl, hb⟩ := h.ends_originStopped he hn
    refine .of_quiet ?_
    exact hb.quiet.issue List.not_mem_nil _ rfl
  | leaves => exact .ended
  | stopFails call peer reason _ he _ _ => exact (ha.ends he).of_same rfl rfl rfl rfl rfl

/-- What comes of a stop that went well. -/
theorem take_of_stopped {call : Resolved Continuation} {peer : NetworkId} (hw : s.Speaks)
    (hnum : s.control.Numbered) (hc : s.ending? = some call) (hn : call.completion = .stopped peer)
    (ho : call.outcome = .succeeded) :
    (s.step .take).role = .free ∧ s.queued .take = [.stopResult peer true] ∧
      (s.issues .take).map Entry.what =
        if s.link.isPrepared then [(.unprepare, ⟨s.link.src, s.link.sink, []⟩)] else [] := by
  obtain ⟨c, he, hdoes⟩ := does_leaves hc hn (by rw [ho]; rfl)
  have hshows := hdoes.shows hw
  refine ⟨?_, hshows.queued, ?_⟩
  · have hr := congrArg Control.role hshows.control
    rwa [Control.role_ended] at hr
  · have hsheds : s.control.Sheds { c with guard := .idle } :=
      (Control.Sheds.of_ends he).trans (.of_same rfl rfl rfl)
    have hlink : c.link = s.link := he.same.link
    rw [issues, hshows.control, Control.fresh_ended hsheds hnum, ← hlink]
    show List.map Entry.what (if c.link.isPrepared then _ else []) = _
    split <;> rfl

end turn

section run

variable (settings : Settings) (registry : Registry)

theorem aimed_run (ms : List Move) :
    ((create settings registry).run ms).control.Aimed ((create settings registry).bent ms) := by
  refine history (P := fun ms s => s.control.Aimed ((create settings registry).bent ms))
    (.of_free rfl) (fun ms m ih => ?_) ms
  obtain ⟨c, ns, ds, ht, hs⟩ := Station.turns _ m (speaks_run settings registry ms)
  rw [hs.control, bent, track_concat]
  exact aimed_turn ht (phase_run settings registry ms) (joined_run settings registry ms) ih

/-- **A stop that went well gives up the link that it stopped**, unless the pointer was handed on
meanwhile. When the call of a stop ends well, the station becomes free and tells the peer that the
stop was for. If it was outbound, and no hand-on was heard of since the call was made, the peer is
that of the session, and one call is issued: to give up the link that the stop call was about. If it
was inbound, the stop call was about the link from the peer to the station itself; a call is issued
if a link is held, and it is to give up this link, which was prepared by this station and kept
since. -/
theorem finished_stop_gives_link_up (before : List Move) (call : Resolved Continuation)
    (peer : NetworkId) (hc : ((create settings registry).run before).ending? = some call)
    (hn : call.completion = .stopped peer) (ho : call.outcome = .succeeded) :
    let s₀ := create settings registry
    let s := s₀.run before
    s.role ≠ .free ∧ (s.step .take).role = .free ∧ s.queued .take = [.stopResult peer true] ∧
    ∃ x, ⟨.stop, x⟩ ∈ s₀.ledger before ∧ x.request = call.request ∧
      (s.role.isOutbound = true → s₀.bent before = false →
        s.sessionPeer = some peer ∧
        (s.issues .take).map Entry.what = [(.unprepare, ⟨x.args.src, x.args.sink, []⟩)]) ∧
      (∀ d, s.role = .inbound d →
        x.args.src = peer ∧ x.args.sink = s.home ∧
        (s.issues .take).map Entry.what =
          (if s.link.isPrepared then [(.unprepare, ⟨s.link.src, s.link.sink, []⟩)] else []) ∧
        (s.link.isPrepared = true → Backed s₀ before s.link)) := by
  intro s₀ s
  have hw : s.Speaks := speaks_run settings registry before
  have hrec : s.control.Recorded (s₀.ledger before) := recorded_run settings registry before
  have hphase : Phase s.control (s₀.errand before) := phase_run settings registry before
  have haimed : s.control.Aimed (s₀.bent before) := aimed_run settings registry before
  have hbacked := backed_run settings registry before
  obtain ⟨hfree, hqueued, hissues⟩ := take_of_stopped hw hrec.numbered hc hn ho
  obtain ⟨_, he, -⟩ := take_of_ending hc
  have hrole : s.role ≠ .free := by
    obtain ⟨role, -, hr, hb⟩ := hphase.ends_stopped he hn
    have hrole : s.role = role := he.same.role.symm.trans hb.role
    rw [hrole]
    exact Role.isFree_eq_false_iff.mp hr
  refine ⟨hrole, hfree, hqueued, ?_⟩
  -- the ledger has the call that ended, and says what it was for
  obtain ⟨args, hget⟩ := he.get_args (by rw [ho]; decide)
  have hx := hrec.pending _ _ hget
  obtain ⟨_, _, _, -, hocc⟩ := occasion_of_ledger settings registry hx
  obtain ⟨kind, request, outcome, completion⟩ := call
  obtain rfl : completion = .stopped peer := hn
  obtain rfl : kind = .stop := by cases hocc; rfl
  obtain ⟨houtbound, hinbound⟩ := haimed _ peer hget rfl
  refine ⟨_, hx, rfl, fun hout hbent => ?_, fun d hin => ?_⟩
  · obtain ⟨hlink, hprepared, hpeer⟩ := houtbound hout hbent
    have hlink' : s.link = ⟨args.src, args.sink⟩ := hlink
    have hprepared' : s.link.isPrepared = true := hprepared
    refine ⟨hpeer, ?_⟩
    rw [hissues, if_pos hprepared', hlink']
  · obtain ⟨hsrc, hsink⟩ := hinbound d hin
    have hnot : s.role.isOutbound = false := by rw [hin]; rfl
    exact ⟨hsrc, hsink, hissues, hbacked hnot⟩

end run

/-- A pointer is shared with `b` and the session is stopped: the link to `b` is given up. -/
theorem shared_link_given_up :
    let s₀ := create ⟨8, 1000, 2, 1000, .center⟩
      ⟨⟨"a"⟩, [⟨⟨1⟩, ⟨"m"⟩, ⟨"a"⟩, [], true, false⟩]⟩
    let before : List Move := [.event (.request (.start ⟨"b"⟩ ⟨1⟩)), .take, .take, .take,
      .event (.request .stop), .take]
    let s := s₀.run before
    s.sessionPeer = some ⟨"b"⟩ ∧ (s.step .take).role = .free ∧
      ∃ x, ⟨.stop, x⟩ ∈ s₀.ledger before ∧ x.request = ⟨3⟩ ∧
        (s.issues .take).map Entry.what = [(.unprepare, ⟨x.args.src, x.args.sink, []⟩)] := by
  intro s₀ before s
  obtain ⟨-, hfree, -, x, hx, hrequest, hout, -⟩ :=
    finished_stop_gives_link_up ⟨8, 1000, 2, 1000, .center⟩
      ⟨⟨"a"⟩, [⟨⟨1⟩, ⟨"m"⟩, ⟨"a"⟩, [], true, false⟩]⟩ before
      ⟨.stop, ⟨3⟩, .succeeded, .stopped ⟨"b"⟩⟩ ⟨"b"⟩ (by decide +kernel) rfl rfl
  obtain ⟨hpeer, hissues⟩ := hout (by decide +kernel) (by decide +kernel)
  exact ⟨hpeer, hfree, x, hx, hrequest, hissues⟩

/-- Two stops that give up a link they did not stop. A pointer of `b` was handed on to `c`; then a
pointer of `d` is consumed, and stopping this session gives up the link from `b` to `c`. And a
pointer is shared with `b`, who hands it on to `c` while the session is being stopped: the link to
`c` is given up, and `b` is told, who is not the session's peer any more. -/
theorem stop_gives_up_another_link :
    (let s₀ := create ⟨8, 1000, 2, 1000, .center⟩
        ⟨⟨"a"⟩, [⟨⟨2⟩, ⟨"n"⟩, ⟨"b"⟩, [], true, true⟩, ⟨⟨3⟩, ⟨"o"⟩, ⟨"d"⟩, [], true, true⟩]⟩
      let before : List Move := [.event (.signal (.startRequest ⟨"b"⟩)),
        .event (.signal (.startResult ⟨"b"⟩ true ⟨"n"⟩ .center)),
        .event (.request (.start ⟨"c"⟩ ⟨2⟩)), .take, .take, .take, .take, .take,
        .event (.signal (.startRequest ⟨"d"⟩)),
        .event (.signal (.startResult ⟨"d"⟩ true ⟨"o"⟩ .center)), .event (.request .stop), .take]
      let s := s₀.run before
      s.ending? = some ⟨.stop, ⟨4⟩, .succeeded, .stopped ⟨"d"⟩⟩ ∧
        ⟨.stop, ⟨4⟩, ⟨⟨"d"⟩, ⟨"a"⟩, [⟨"o"⟩]⟩, .stopped ⟨"d"⟩⟩ ∈ s₀.ledger before ∧
        (s.issues .take).map Entry.what = [(.unprepare, ⟨⟨"b"⟩, ⟨"c"⟩, []⟩)]) ∧
    (let s₀ := create ⟨8, 1000, 2, 1000, .center⟩
        ⟨⟨"a"⟩, [⟨⟨1⟩, ⟨"m"⟩, ⟨"a"⟩, [], true, false⟩]⟩
      let before : List Move := [.event (.request (.start ⟨"b"⟩ ⟨1⟩)), .take, .take, .take,
        .event (.request .stop), .event (.signal (.relayAnnounce ⟨"c"⟩)), .take]
      let s := s₀.run before
      s.ending? = some ⟨.stop, ⟨3⟩, .succeeded, .stopped ⟨"b"⟩⟩ ∧ s.sessionPeer = some ⟨"c"⟩ ∧
        ⟨.stop, ⟨3⟩, ⟨⟨"a"⟩, ⟨"b"⟩, [⟨"m"⟩]⟩, .stopped ⟨"b"⟩⟩ ∈ s₀.ledger before ∧
        s.queued .take = [.stopResult ⟨"b"⟩ true] ∧
        (s.issues .take).map Entry.what = [(.unprepare, ⟨⟨"a"⟩, ⟨"c"⟩, []⟩)]) := by
  decide +kernel

end Station

end PointerShare
