/-
# Every errand is closed once

What observers hear of a start or stop are its milestones: that it began and
how it ended. From the move that accepts an errand to the move that closes it
nothing else of this sort is published, and the target of a start is told once
how it ended; the guard is idle again with the closing, not before. A closing
is the success of the errand, its failure, or that the other end of the session
is gone. It comes in time if nothing is put off, and some time in every run that
is fair, though the remote input service may never answer. Whoever has no errand
tells nobody how a start ended, and publishes milestones only as its peers make it.

Key definitions: `milestones`, `startResults`, `Closing`, `Station.Silent`,
`Station.ClosedAt`, `Station.ClosedIn`.
Key theorems: `Station.account`, `Station.silent_or_closedIn`,
`Station.closedIn_of_prompt`, `Station.closedIn_of_fair`,
`Station.requests_closed_once`.
-/
import PointerShare.Proofs.Eventually
import PointerShare.Proofs.Phase

namespace PointerShare

/-- How a start or stop goes is told by these. -/
def Message.isMilestone : Message → Bool
  | infoStart | infoSuccess | infoFail | stop | closeSuccess | closeFail | stopSuccess => true
  | openSuccess | openFail | close | stateOn | stateOff => false

def milestones (ns : List Notice) : List Notice := ns.filter fun n => n.message.isMilestone

def Dispatch.isStartResult : Dispatch → Bool
  | startResult .. => true
  | _ => false

def startResults (ds : List Dispatch) : List Dispatch := ds.filter Dispatch.isStartResult

/-- The notice that an errand began. -/
def Errand.opening : Errand → Notice
  | start _ _ target _ => .of .infoStart target
  | stop _ peer => .of .stop peer

/-- A move closes an errand: of what it publishes and queues for peers, one milestone at most, and
for a start its result. -/
inductive Closing (s : Station) : Errand → Move → List Notice → List Dispatch → Prop
  | started (role : Role) (place : Location) (target : NetworkId) (device : DeviceId) (dhid : Dhid)
      (m : Move) (ns : List Notice) (ds : List Dispatch)
      (hn : milestones ns = [.of .infoSuccess target])
      (hd : startResults ds = [.startResult target true dhid place]) :
      Closing s (.start role place target device) m ns ds
  | startFailed (role : Role) (place : Location) (target : NetworkId) (device : DeviceId)
      (dhid : Dhid) (reason : Reason) (m : Move) (ns : List Notice) (ds : List Dispatch)
      (hn : milestones ns = [.failed .infoFail target reason])
      (hd : startResults ds = [.startResult target false dhid place]) :
      Closing s (.start role place target device) m ns ds
  | stopped (role : Role) (peer : NetworkId) (m : Move) (ns : List Notice) (ds : List Dispatch)
      (hn : milestones ns = [.of .closeSuccess peer]) (hd : startResults ds = []) :
      Closing s (.stop role peer) m ns ds
  | stopFailed (role : Role) (peer : NetworkId) (reason : Reason) (m : Move) (ns : List Notice)
      (ds : List Dispatch) (hn : milestones ns = [.failed .closeFail peer reason])
      (hd : startResults ds = []) : Closing s (.stop role peer) m ns ds
  /-- The other end of the session left the network. -/
  | reset (e : Errand) (id : NetworkId) (hp : s.participates id = true) :
      Closing s e (.event (.deviceOffline id)) [.of .close id] []

/-- What observers and peers can see of a move: the notices `ns` are handed to all who are
subscribed, and `ds` is queued for peers. -/
structure Station.Tells (s : Station) (m : Move) (ns : List Notice) (ds : List Dispatch) : Prop where
  published : (s.step m).notifier.handovers =
    s.notifier.handovers ++ ns.flatMap s.notifier.handoversOf
  queued : (s.step m).outbox.queue.drop s.outbox.queue.length = ds

/-- The guard is busy after the move, and nothing is told of any errand at it. -/
def Station.Silent (s : Station) (m : Move) : Prop :=
  (s.step m).guard.isBusy = true ∧ ∃ ns ds, s.Tells m ns ds ∧ milestones ns = [] ∧ startResults ds = []

/-- The move closes the errand `e`, and with that the guard is idle. -/
def Station.ClosedAt (s : Station) (e : Errand) (m : Move) : Prop :=
  (s.step m).guard = .idle ∧ ∃ ns ds, s.Tells m ns ds ∧ Closing s e m ns ds

/-- The errand `e`, open in `s`, is closed by a move of the run, before which nothing is told of it. -/
def Station.ClosedIn (s : Station) (e : Errand) (ms : List Move) : Prop :=
  ∃ mid last tail, ms = mid ++ last :: tail ∧ Along step Silent s mid ∧ (s.run mid).ClosedAt e last

/-- What a move means to an errand that was open before it, and to one that it begins. -/
inductive Account (s : Station) (m : Move) (c : Control) :
    Option Errand → Option Errand → List Notice → List Dispatch → Prop
  | aside (ns : List Notice) (ds : List Dispatch) (hd : startResults ds = [])
      (hn : milestones ns = [] ∨ ∃ sig, m = .event (.signal sig)) : Account s m c none none ns ds
  | opened (e : Errand) (ns : List Notice) (ds : List Dispatch) (hn : milestones ns = [e.opening])
      (hd : startResults ds = []) (hg : c.guard.isBusy = true) : Account s m c none (some e) ns ds
  | closedAtOnce (e : Errand) (ns : List Notice) (ds : List Dispatch) (hc : Closing s e m ns ds)
      (hg : c.guard = .idle) : Account s m c none (some e) (e.opening :: ns) ds
  | goesOn (e : Errand) (ns : List Notice) (ds : List Dispatch) (hn : milestones ns = [])
      (hd : startResults ds = []) (hg : c.guard.isBusy = true) : Account s m c (some e) none ns ds
  | closed (e : Errand) (ns : List Notice) (ds : List Dispatch) (hc : Closing s e m ns ds)
      (hg : c.guard = .idle) : Account s m c (some e) none ns ds

theorem milestones_append (ns ns' : List Notice) :
    milestones (ns ++ ns') = milestones ns ++ milestones ns' :=
  List.filter_append _ _

theorem startResults_append (ds ds' : List Dispatch) :
    startResults (ds ++ ds') = startResults ds ++ startResults ds' :=
  List.filter_append _ _

theorem milestones_closing (c : Control) (p : NetworkId) : milestones (c.closing p) = [] := by
  unfold Control.closing
  split <;> rfl

theorem startResults_handOn (c : Control) (target : NetworkId) (shared : Dhid) :
    startResults (c.handOn target shared) = [] := by
  unfold Control.handOn
  split
  · rfl
  · split <;> rfl

namespace Station

variable {s : Station} {c : Control} {ns : List Notice} {ds : List Dispatch} {e : Option Errand}

theorem milestones_overture (s : Station) (m : Move) : milestones (s.overture m) = [] := by
  unfold overture
  split
  · split
    · rfl
    · split <;> rfl
  · rfl

/-- Nothing is told, and the errand stays as it is. -/
theorem account_quiet {m : Move} (h : Phase c e) (hn : milestones ns = [])
    (hd : startResults ds = []) : Account s m c e none ns ds := by
  have hnote := h.note
  cases e with
  | none => exact .aside ns ds hd (.inl hn)
  | some e =>
    refine .goesOn e ns ds hn hd ?_
    cases hg : c.guard.isBusy with
    | true => rfl
    | false =>
      rw [hg] at hnote
      cases hnote

/-- Only a peer's doing. -/
theorem account_heard {sig : PeerSignal} {m : Move} (hm : m = .event (.signal sig)) (he : e = none)
    (hd : startResults ds = []) : Account s m c e none ns ds := by
  subst he
  exact .aside ns ds hd (.inr ⟨sig, hm⟩)

/-- The link is prepared: the start goes on with its devices, or its failure is told. -/
theorem shares_cases {plan : StartPlan} {role : Role} {place : Location}
    (h : (Errand.start role place plan.target plan.device).Between c) {m : Move} {c' : Control}
    (hs : Shares c plan c' ns ds) :
    c'.guard.isBusy = true ∧ ns = [] ∧ ds = [] ∨
      c'.guard = .idle ∧ ∀ ns' ds', milestones ns' = [] → startResults ds' = [] →
        Closing s (.start role place plan.target plan.device) m (ns' ++ ns) (ds' ++ ds) := by
  cases hs with
  | calls dhids _ _ =>
    have hg : c.guard.isBusy = true := by rw [h.guard]; rfl
    exact .inl ⟨hg, rfl, rfl⟩
  | lacks _ =>
    obtain rfl : place = c.startLocation := h.placed
    refine .inr ⟨rfl, fun ns' ds' hn hd => ?_⟩
    refine .startFailed role c.startLocation plan.target plan.device (c.dhidFor plan.device)
      .noShareableDevice m _ _ ?_ ?_
    · rw [milestones_append, hn]
      rfl
    · rw [startResults_append, hd]
      rfl

/-- Every move means one of these things to the errand of a station. -/
theorem account {m : Move} (ht : Turn s m c ns ds) (h : Phase s.control e) :
    Account s m c e (s.begins m) ns ds := by
  cases ht with
  | rest m hstart hstop _ _ =>
    rw [begins_of_rest hstart hstop]
    exact account_quiet h (s.milestones_overture m) rfl
  | devices ds => exact account_quiet (h.of_same rfl rfl rfl rfl rfl rfl) rfl rfl
  | prepares target device route plan hp hr _ =>
    obtain ⟨rfl, -, -⟩ := h.of_idle (guard_of_planStart hp)
    rw [begins_of_planStart hp]
    exact .opened _ _ _ rfl rfl rfl
  | sharesAtOnce target device route plan hp hr _ hs =>
    have hg := guard_of_planStart hp
    have hb := between_begin h hg s.cursor.location target device
    obtain ⟨rfl, -, -⟩ := h.of_idle hg
    obtain ⟨rfl, rfl, -, -⟩ := planStart_plan hp hr
    rw [begins_of_planStart hp]
    rcases shares_cases hb hs with ⟨hg', rfl, rfl⟩ | ⟨hg', hc⟩
    · exact .opened _ _ _ rfl rfl hg'
    · exact .closedAtOnce _ _ _ (hc [] [_] rfl rfl) hg'
  | comesBack target device plan hp =>
    obtain ⟨rfl, -, -⟩ := h.of_idle (guard_of_planStart hp)
    rw [begins_of_planStart hp]
    exact .opened _ _ _ rfl rfl rfl
  | stops m r hr =>
    obtain ⟨rfl, -, -⟩ := h.of_idle (guard_of_planStop (planStop_of_stopRoute? hr))
    rw [begins_of_stopRoute? hr]
    refine .opened _ _ _ ?_ rfl rfl
    rw [milestones_append, milestones_overture]
    rfl
  | hearsStart p hg _ => exact account_heard rfl (h.of_idle hg).1 rfl
  | hearsStop p hg _ => exact account_heard rfl (h.of_idle hg).1 rfl
  | startRejected p _ _ hg _ => exact account_heard rfl (h.released hg).1 rfl
  | consumes p _ _ hg _ _ => exact account_heard rfl (h.released hg).1 rfl
  | getsBack p _ _ hg _ _ => exact account_heard rfl (h.released hg).1 rfl
  | stopDropped p _ ha _ => exact account_heard rfl (h.released (p := p) (.inl ha)).1 rfl
  | stopRejected p hg _ => exact account_heard rfl (h.released hg).1 rfl
  | isLeft p hg _ => exact account_heard rfl (h.released hg).1 rfl
  | handedOn p _ => exact account_quiet (h.of_same rfl rfl rfl rfl rfl rfl) rfl rfl
  | resets id hp =>
    cases e with
    | none => exact .aside _ _ rfl (.inl rfl)
    | some e => exact .closed e _ _ (.reset e id hp) rfl
  | loses id hp => exact account_quiet (h.loses id s.role.isFree) rfl rfl
  | plugsIn dhid hr _ _ => exact account_quiet (h.issue_start hr _ rfl) rfl rfl
  | endsAside call hc he ha =>
    rcases h.ends he with ⟨-, h'⟩ | ⟨e', -, hw, -⟩
    · exact account_quiet h' rfl rfl
    · rw [hw.isTransition] at ha
      cases ha
  | opens call plan hc he hn ho hs =>
    obtain ⟨role, place, rfl, -, -, hb⟩ := h.ends_prepared he hn
    rcases shares_cases (hb.setLink _) hs with ⟨hg', rfl, rfl⟩ | ⟨hg', hc⟩
    · exact .goesOn _ _ _ rfl rfl hg'
    · exact .closed _ _ _ (hc [_] [] rfl rfl) hg'
  | opensNot call plan reason hc he hn _ =>
    obtain ⟨role, place, rfl, -, -, hb⟩ := h.ends_prepared he hn
    obtain rfl := hb.placed
    exact .closed _ _ _
      (.startFailed role _ plan.target plan.device _ .prepareFailed _ _ _ rfl rfl) rfl
  | stopsOrigin call plan hc he hn _ hr =>
    obtain ⟨role, place, rfl, -, -, hb⟩ := h.ends_started he hn
    exact .goesOn _ _ _ rfl rfl (congrArg Guard.isBusy hb.guard)
  | shares call target device hc he hn _ _ =>
    obtain ⟨role, place, rfl, -, hb⟩ := h.ends_last he hn
    obtain rfl : place = s.startLocation := hb.placed.trans he.same.startLocation
    exact .closed _ _ _ (.started role _ target device _ _ _ _ rfl rfl) rfl
  | handsOn call target device shared hc he hn _ _ =>
    obtain ⟨role, place, rfl, -, hb⟩ := h.ends_last he hn
    obtain rfl : place = s.startLocation := hb.placed.trans he.same.startLocation
    refine .closed _ _ _ (.started role _ target device shared _ _ _ rfl ?_) rfl
    have hd := startResults_append [.startResult target true shared s.startLocation]
      (s.control.handOn target shared)
    rw [startResults_handOn] at hd
    exact hd
  | stays call target device hc he hn _ hr =>
    -- never comes about: no start is accepted while outbound
    obtain ⟨role, place, rfl, ho, hb⟩ := h.ends_last he hn
    have hrole : s.role = role := he.same.role.symm.trans hb.role
    rw [hrole, ho] at hr
    cases hr
  | startFails call target device reason hc he hn _ =>
    obtain ⟨role, place, rfl, -, hb⟩ := h.ends_leg he hn
    obtain rfl := hb.placed
    exact .closed _ _ _ (.startFailed role _ target device _ reason _ _ _ rfl rfl) rfl
  | rollsBack call plan reason hc he hn _ =>
    obtain ⟨shared, place, rfl, hb⟩ := h.ends_originStopped he hn
    obtain rfl := hb.placed
    exact .closed _ _ _
      (.startFailed _ _ plan.target plan.device _ .partialRelayFailure _ _ _ rfl rfl) rfl
  | leaves call peer hc he hn _ =>
    obtain ⟨role, rfl, -, hb⟩ := h.ends_stopped he hn
    refine .closed _ _ _ (.stopped role peer _ _ _ ?_ rfl) (Control.guard_ended _)
    rw [milestones_append, milestones_closing]
    rfl
  | stopFails call peer reason hc he hn _ =>
    obtain ⟨role, rfl, -, hb⟩ := h.ends_stopped he hn
    exact .closed _ _ _ (.stopFailed role peer reason _ _ _ rfl rfl) rfl

/-- A move leaves an open errand open and is silent, or closes it. -/
theorem silent_or_closed {s : Station} {e : Errand} (hw : s.Speaks) (h : Phase s.control (some e))
    (m : Move) : s.Silent m ∨ s.ClosedAt e m := by
  obtain ⟨c, ns, ds, ht, hs⟩ := s.turns m hw
  have htells : s.Tells m ns ds := ⟨hs.published, hs.queued⟩
  have hguard : (s.step m).guard = c.guard := congrArg Control.guard hs.control
  have ha := account ht h
  generalize s.begins m = b at ha
  cases ha with
  | goesOn _ _ _ hn hd hg => exact .inl ⟨by rw [hguard, hg], ns, ds, htells, hn, hd⟩
  | closed _ _ _ hc hg => exact .inr ⟨hguard.trans hg, ns, ds, htells, hc⟩

section run

variable {s : Station} {e : Errand} {ms : List Move}

/-- What is open stays open while the moves are silent. -/
theorem open_of_silent (hw : s.Speaks) (h : Phase s.control (some e)) (hms : Along step Silent s ms) :
    (s.run ms).Speaks ∧ Phase (s.run ms).control (some e) :=
  hms.invariant (P := fun s => s.Speaks ∧ Phase s.control (some e))
    (fun _ m hm hs => ⟨speaks_step m hs.1, ((Engaged.of_open hs.1 hs.2 m).step hm.1).1⟩) ⟨hw, h⟩

/-- However a run goes on, an open errand is closed in it once, or all of it is silent. -/
theorem silent_or_closedIn (hw : s.Speaks) (h : Phase s.control (some e)) (ms : List Move) :
    Along step Silent s ms ∨ s.ClosedIn e ms := by
  induction ms generalizing s with
  | nil => exact .inl trivial
  | cons m ms ih =>
    rcases silent_or_closed hw h m with hm | hc
    · have hone : Along step Silent s [m] := ⟨hm, trivial⟩
      obtain ⟨hw', h'⟩ := open_of_silent hw h hone
      rcases ih hw' h' with hms | ⟨mid, last, tail, rfl, hmid, hlast⟩
      · exact .inl ⟨hm, hms⟩
      · exact .inr ⟨m :: mid, last, tail, rfl, ⟨hm, hmid⟩, hlast⟩
    · exact .inr ⟨[], m, ms, rfl, trivial, hc⟩

/-- A run in which the guard is idle at some time is not silent. -/
theorem closedIn_of_idle (hw : s.Speaks) (h : Phase s.control (some e)) {ms' : List Move}
    (hpre : ms' <+: ms) (hidle : (s.run ms').guard = .idle) : s.ClosedIn e ms := by
  obtain ⟨rest, rfl⟩ := hpre
  refine (silent_or_closedIn hw h _).resolve_left fun hms => ?_
  have hbusy := (open_of_silent hw h (along_append.mp hms).1).2.isBusy
  rw [show (s.run ms').control.guard = .idle from hidle] at hbusy
  cases hbusy

/-- An errand is closed in time from when on nothing is put off any more. -/
theorem closedIn_of_prompt (hw : s.Speaks) (ht : s.gateway.tracker.Timed)
    (h : Phase s.control (some e)) {mid rest : List Move}
    (hprompt : Along step Prompt (s.run mid) rest)
    (hlate : (s.run mid).now + s.patience * 3 < (s.run (mid ++ rest)).now) :
    s.ClosedIn e (mid ++ rest) := by
  -- it is closed early, or it is open when nothing is put off any more
  rcases silent_or_closedIn hw h mid with hmid | ⟨mid', last, tail, rfl, hclosed⟩
  · obtain ⟨hw', h'⟩ := open_of_silent hw h hmid
    have ht' : (s.run mid).gateway.tracker.Timed :=
      run_invariant (P := fun s => s.gateway.tracker.Timed) (fun _ m => timed_step m) mid ht
    have hsame : (s.run mid).patience = s.patience :=
      run_invariant (P := fun u => u.patience = s.patience)
        (fun u m hu => (u.patience_step m).trans hu) mid rfl
    rw [run_append] at hlate
    obtain ⟨mid', tail, rfl, -, hidle⟩ :=
      ends_of_inTime hw' ht' h' (inTime_of_open ht' h') hprompt (by rwa [hsame])
    have hpre : mid ++ mid' <+: mid ++ (mid' ++ tail) := ⟨tail, List.append_assoc _ _ _⟩
    exact closedIn_of_idle hw h hpre (by rwa [run_append])
  · exact ⟨mid', last, tail ++ rest, by simp, hclosed⟩

/-- An errand is closed some time, however late everything is. -/
theorem closedIn_of_fair (hw : s.Speaks) (ht : s.gateway.tracker.Timed)
    (h : Phase s.control (some e)) {moves : Nat → Move} (hf : s.Fair moves) :
    ∃ n, s.ClosedIn e ((List.range n).map moves) := by
  obtain ⟨n, hidle⟩ := ends_of_fair hw ht h hf
  rw [course_eq_run] at hidle
  exact ⟨n, closedIn_of_idle hw h List.prefix_rfl hidle⟩

end run

theorem begins_of_start {s : Station} {target : NetworkId} {device : DeviceId}
    (h : (s.start target device).1 = .ok ()) :
    s.begins (.event (.request (.start target device))) =
      some (.start s.role s.cursor.location target device) := by
  unfold start at h
  cases hp : s.planStart target device with
  | error e => rw [hp] at h; cases h
  | ok route => exact begins_of_planStart hp

theorem begins_of_stop {s : Station} (h : s.stop.1 = .ok ()) :
    ∃ peer, s.begins (.event (.request .stop)) = some (.stop s.role peer) := by
  unfold stop at h
  cases hp : s.planStop with
  | error e => rw [hp] at h; cases h
  | ok route =>
    have hr : s.stopRoute? (.event (.request .stop)) = some route := by
      show s.planStop.toOption = some route
      rw [hp]
      rfl
    exact ⟨route.peer, begins_of_stopRoute? hr⟩

/-- **Every request that is accepted is closed once.** A start that is accepted, with the cursor
where it is then, and a stop that is accepted begin an errand. The move that begins an errand
publishes its opening and no other milestone, and leaves the guard busy; or it closes the errand at
once. From then on every run is silent all along, or up to the one move that closes the errand. It is
closed in every run that goes on for the time three calls can wait with nothing put off, be that late
in the run; and in every run without end in which posts are taken again and again and the clock passes
every time, whatever else happens and whether or not the service answers. A move that finds and begins
no errand queues no start result, and publishes a milestone only if it is a peer's signal. -/
theorem requests_closed_once (settings : Settings) (registry : Registry) (before : List Move)
    (m : Move) :
    let s := (create settings registry).run before
    (∀ target device, (s.start target device).1 = .ok () →
      s.begins (.event (.request (.start target device))) =
        some (.start s.role s.cursor.location target device)) ∧
    (s.stop.1 = .ok () → ∃ peer, s.begins (.event (.request .stop)) = some (.stop s.role peer)) ∧
    (∀ e, s.begins m = some e → ∃ ns ds, s.Tells m ns ds ∧
      ((∃ ns', ns = e.opening :: ns' ∧ Closing s e m ns' ds ∧ (s.step m).guard = .idle) ∨
        milestones ns = [e.opening] ∧ startResults ds = [] ∧ (s.step m).guard.isBusy = true ∧
          (∀ after, Along step Silent (s.step m) after ∨ (s.step m).ClosedIn e after) ∧
          (∀ mid rest, Along step Prompt ((s.step m).run mid) rest →
            ((s.step m).run mid).now + settings.timeout * (settings.retries + 1) * 3 <
              ((s.step m).run (mid ++ rest)).now → (s.step m).ClosedIn e (mid ++ rest)) ∧
          ∀ moves, (s.step m).Fair moves →
            ∃ n, (s.step m).ClosedIn e ((List.range n).map moves))) ∧
    ((create settings registry).errand before = none → s.begins m = none → ∃ ns ds,
      s.Tells m ns ds ∧ startResults ds = [] ∧
        (milestones ns = [] ∨ ∃ sig, m = .event (.signal sig))) := by
  intro s
  have hw : s.Speaks := speaks_run settings registry before
  have h : Phase s.control ((create settings registry).errand before) :=
    phase_run settings registry before
  have htimed := timed_step m (timed_run settings registry before)
  have hpatience : (s.step m).patience = settings.timeout * (settings.retries + 1) :=
    (s.patience_step m).trans (patience_run settings registry before)
  generalize (create settings registry).errand before = e at h
  obtain ⟨c, ns, ds, ht, hs⟩ := s.turns m hw
  have htells : s.Tells m ns ds := ⟨hs.published, hs.queued⟩
  have hguard : (s.step m).guard = c.guard := congrArg Control.guard hs.control
  have ha := account ht h
  refine ⟨fun _ _ => begins_of_start, begins_of_stop, fun e₁ hb => ?_, fun he hb => ?_⟩
  · have hengaged := Engaged.of_begins hw h hb
    rw [hb] at ha
    refine ⟨ns, ds, htells, ?_⟩
    cases ha with
    | closedAtOnce _ ns' _ hc hg => exact .inl ⟨ns', rfl, hc, hguard.trans hg⟩
    | opened _ _ _ hn hd hg =>
      have hbusy : (s.step m).guard.isBusy = true := by rw [hguard, hg]
      have hopen := (hengaged.step hbusy).1
      have hspeaks := speaks_step m hw
      exact .inr ⟨hn, hd, hbusy, silent_or_closedIn hspeaks hopen,
        fun mid rest hprompt hlate =>
          closedIn_of_prompt hspeaks htimed hopen hprompt (by rwa [hpatience]),
        fun moves hfair => closedIn_of_fair hspeaks htimed hopen hfair⟩
  · rw [hb, he] at ha
    cases ha with
    | aside _ _ hd hn => exact ⟨ns, ds, htells, hd, hn⟩

/-- A start that nobody answers is closed when its retries are used up, and in a run in which the clock
and the posts take turns; a stop that is answered is closed at the answer. -/
theorem silent_start_and_answered_stop :
    let a := create ⟨8, 1000, 2, 1000, .center⟩ lonePointer
    let start : Move := .event (.request (.start ⟨"b"⟩ ⟨1⟩))
    let s := (a.run [.happen (.mood .prepare .silent)]).step start
    let waiting : List Move := [.happen (.clock 1000), .take, .happen (.clock 2000), .take,
      .happen (.clock 3000), .take, .happen (.clock 9001)]
    let u := (a.run (sharedWith [])).step (.event (.request .stop))
    (s.ClosedIn (.start .free .center ⟨"b"⟩ ⟨1⟩) waiting ∧
      (s.run waiting).outbox.queue = s.outbox.queue ++ [.startResult ⟨"b"⟩ false ⟨"m"⟩ .center] ∧
      ∃ n, s.ClosedIn (.start .free .center ⟨"b"⟩ ⟨1⟩) ((List.range n).map byTurns)) ∧
    u.ClosedIn (.stop (.outbound ⟨"m"⟩) ⟨"b"⟩) [.take, .take] := by
  intro a start s waiting u
  have hstart := (requests_closed_once ⟨8, 1000, 2, 1000, .center⟩ lonePointer
    [.happen (.mood .prepare .silent)] start).2.2.1 (.start .free .center ⟨"b"⟩ ⟨1⟩) (by decide +kernel)
  have hstop := (requests_closed_once ⟨8, 1000, 2, 1000, .center⟩ lonePointer (sharedWith [])
    (.event (.request .stop))).2.2.1 (.stop (.outbound ⟨"m"⟩) ⟨"b"⟩) (by decide +kernel)
  -- both are open after the move that begins them
  obtain ⟨_, _, -, ⟨_, -, -, hidle⟩ | ⟨-, -, -, -, htime, hfair⟩⟩ := hstart
  · exact absurd hidle (by decide +kernel)
  obtain ⟨_, _, -, ⟨_, -, -, hidle⟩ | ⟨-, -, -, honce, -⟩⟩ := hstop
  · exact absurd hidle (by decide +kernel)
  refine ⟨⟨htime [] waiting (by decide +kernel) (by decide +kernel), by decide +kernel,
    hfair byTurns (fair_byTurns s)⟩, (honce [.take, .take]).resolve_left fun hsilent => ?_⟩
  exact absurd hsilent.2.1.1 (by decide +kernel)

end Station

end PointerShare
