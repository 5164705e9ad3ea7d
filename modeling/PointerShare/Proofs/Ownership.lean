/-
# A busy guard has one owner

The guard of a station is idle, or busy with an errand of the station's own, or
busy with what a peer announced, never two of these; and it is never left busy
without an owner. A guard that the station made busy waits for one pending call,
and the end of this call gives the guard back or makes the next call of the
errand, the latter only after a success. A guard that a peer made busy is given
back by whatever that peer says of how its start or stop ended, and by its going
offline.

Key definitions: `Station.pendingSteps`, `Station.Unowned`,
`Station.OwnedByErrand`, `Station.OwnedByPeer`.
Key theorem: `Station.guard_has_one_owner`.
-/
import PointerShare.Proofs.Phase

namespace PointerShare

def Continuation.isStop : Continuation → Bool
  | stopped _ => true
  | _ => false

theorem Errand.Waits.isStop {e : Errand} {k : CallKind} {next : Continuation} (h : e.Waits k next) :
    next.isStop = e.guard.isStopping ∧ (e.guard.isStarting ^^ e.guard.isStopping) = true := by
  cases h <;> exact ⟨rfl, rfl⟩

namespace Station

/-- What the pending calls of transitions wait for. -/
def pendingSteps (s : Station) : List Continuation :=
  (s.gateway.tracker.pending.toList.filterMap fun p => p.map Pending.completion).filter
    Continuation.isTransition

/-- The same of the superseded calls. -/
def supersededSteps (s : Station) : List Continuation :=
  (s.gateway.tracker.superseded.map Replaced.completion).filter Continuation.isTransition

/-- No transition is under way. -/
structure Unowned (s : Station) : Prop where
  guard : s.guard.isStarting = false ∧ s.guard.isStopping = false
  announcer : s.announcer = none
  pending : s.pendingSteps = []
  superseded : s.supersededSteps = []

/-- The station itself is busy: exactly one call is a step of a transition, and it is pending. -/
structure OwnedByErrand (s : Station) : Prop where
  guard : (s.guard.isStarting ^^ s.guard.isStopping) = true
  announcer : s.announcer = none
  pending : ∃ next, s.pendingSteps = [next] ∧ next.isStop = s.guard.isStopping
  superseded : s.supersededSteps = []

/-- A peer announced a transition. -/
structure OwnedByPeer (s : Station) (p : NetworkId) : Prop where
  guard : (s.guard.isStarting ^^ s.guard.isStopping) = true
  announcer : s.announcer = some p
  pending : s.pendingSteps = []
  superseded : s.supersededSteps = []

theorem Unowned.not_errand {s : Station} (h : s.Unowned) : ¬s.OwnedByErrand := by
  intro h'
  have hg := h'.guard
  rw [h.guard.1, h.guard.2] at hg
  cases hg

theorem Unowned.not_peer {s : Station} (h : s.Unowned) (p : NetworkId) : ¬s.OwnedByPeer p := by
  intro h'
  have ha := h'.announcer
  rw [h.announcer] at ha
  cases ha

theorem OwnedByErrand.not_peer {s : Station} (h : s.OwnedByErrand) (p : NetworkId) :
    ¬s.OwnedByPeer p := by
  intro h'
  have ha := h'.announcer
  rw [h.announcer] at ha
  cases ha

/-! ### The steps among the calls -/

theorem supersededSteps_of_quiet {s : Station} {ks : List CallKind} (h : s.control.Quiet ks) :
    s.supersededSteps = [] := by
  unfold supersededSteps
  rw [List.filter_eq_nil_iff]
  intro next hn
  obtain ⟨r, hr, rfl⟩ := List.mem_map.mp hn
  simpa using h.2 r hr

/-- What a pending call of one kind contributes. -/
def stepsOf (p : Option (Pending Continuation)) : List Continuation :=
  (p.map Pending.completion).toList.filter Continuation.isTransition

theorem pendingSteps_eq (s : Station) :
    s.pendingSteps = stepsOf (s.gateway.tracker.pending? .prepare) ++
      (stepsOf (s.gateway.tracker.pending? .unprepare) ++
        (stepsOf (s.gateway.tracker.pending? .start) ++
          stepsOf (s.gateway.tracker.pending? .stop))) := by
  have hcons (o : Option (Pending Continuation)) (l : List (Option (Pending Continuation))) :
      ((o :: l).filterMap fun p => p.map Pending.completion).filter Continuation.isTransition =
        stepsOf o ++ (l.filterMap fun p => p.map Pending.completion).filter
          Continuation.isTransition := by
    cases o with
    | none => rfl
    | some p =>
      simp only [stepsOf, List.filterMap_cons, Option.map_some, Option.toList_some, List.filter_cons,
        List.filter_nil]
      split <;> rfl
  unfold pendingSteps PerKind.toList
  rw [hcons, hcons, hcons, hcons]
  simp only [List.filterMap_nil, List.filter_nil, List.append_nil]
  rfl

theorem stepsOf_eq_nil {s : Station} {ks : List CallKind} (h : s.control.Quiet ks) {k : CallKind}
    (hk : k ∉ ks) : stepsOf (s.gateway.tracker.pending? k) = [] := by
  have hq := h.1 k
  simp only [control, Tracker.get_calls] at hq
  cases hp : s.gateway.tracker.pending? k with
  | none => rfl
  | some p =>
    have hf := hq (Tracker.callOf p) hk (by rw [hp]; rfl)
    simpa [stepsOf, Tracker.callOf] using hf

theorem pendingSteps_of_quiet {s : Station} (h : s.control.Quiet []) : s.pendingSteps = [] := by
  have hk (k : CallKind) := stepsOf_eq_nil h (k := k) List.not_mem_nil
  rw [pendingSteps_eq, hk, hk, hk, hk]
  rfl

theorem pendingSteps_of_call {s : Station} {k : CallKind} {call : Call Continuation}
    (hc : s.control.calls.get k = some call) (ht : call.completion.isTransition = true)
    (h : s.control.Quiet [k]) : s.pendingSteps = [call.completion] := by
  have hsteps (j : CallKind) :
      stepsOf (s.gateway.tracker.pending? j) = if j = k then [call.completion] else [] := by
    by_cases hj : j = k
    · simp only [control, Tracker.get_calls] at hc
      obtain ⟨p, hp, rfl⟩ := Option.map_eq_some_iff.mp hc
      rw [if_pos hj, hj, hp]
      simpa [stepsOf, Tracker.callOf] using ht
    · rw [if_neg hj]
      exact stepsOf_eq_nil h (by simpa using hj)
  rw [pendingSteps_eq, hsteps, hsteps, hsteps, hsteps]
  cases k <;> rfl

/-! ### Owners -/

theorem unowned_of_idle {s : Station} {e : Option Errand} (h : Phase s.control e)
    (hg : s.guard = .idle) : s.Unowned := by
  obtain ⟨-, ha, hq⟩ := h.of_idle hg
  exact ⟨by rw [hg]; exact ⟨rfl, rfl⟩, ha, pendingSteps_of_quiet hq, supersededSteps_of_quiet hq⟩

theorem owned_of_errand {s : Station} {e : Errand} (h : Phase s.control (some e)) :
    s.OwnedByErrand := by
  cases h with
  | underway _ k call hg ha hr hl hk hw hq =>
    obtain ⟨hstop, hxor⟩ := hw.isStop
    have hg' : s.guard = e.guard := hg
    refine ⟨by rw [hg']; exact hxor, ha, ⟨call.completion, ?_, by rw [hg']; exact hstop⟩,
      supersededSteps_of_quiet hq⟩
    exact pendingSteps_of_call hk hw.isTransition hq

theorem owned_of_announced {s : Station} {p : NetworkId}
    (hg : s.guard = .starting ∨ s.guard = .stopping) (ha : s.announcer = some p)
    (hq : s.control.Quiet []) : s.OwnedByPeer p := by
  refine ⟨?_, ha, pendingSteps_of_quiet hq, supersededSteps_of_quiet hq⟩
  rcases hg with hg | hg <;> rw [hg] <;> rfl

/-! ### Releases -/

theorem guard_released {s : Station} {p : NetworkId} (ha : s.announcer = some p) :
    (s.control.released p).guard = .idle := by
  rw [Control.released, control_announcer, if_pos ha]

theorem guard_hearStartResult {s : Station} {p : NetworkId} (ha : s.announcer = some p)
    (success : Bool) (dhid : Dhid) (l : Location) :
    (s.hear (.startResult p success dhid l)).guard = .idle := by
  show (s.hearStartResult p success dhid l).guard = .idle
  have h := s.does_release p
  have hg := guard_released ha
  unfold hearStartResult
  rw [releaseGuard?_eq, if_pos (.inl ha)]
  simp only [ha, beq_self_eq_true, Bool.not_true, Bool.false_and, Bool.false_eq_true, if_false]
  cases success with
  | false => exact (congrArg Control.guard h.control).trans hg
  | true =>
    cases hr : (s.release p).role.isOutbound with
    | false => exact (congrArg Control.guard (does_acceptStart h p dhid l hr).control).trans hg
    | true =>
      have h₁ := (does_acceptStart_outbound h p dhid l hr).control
      exact (congrArg Control.guard h₁).trans ((Control.guard_ended _).trans hg)

theorem guard_hearStopResult {s : Station} {p : NetworkId} (ha : s.announcer = some p)
    (success : Bool) : (s.hear (.stopResult p success)).guard = .idle := by
  show (s.hearStopResult p success).guard = .idle
  have h := s.does_release p
  have hg := guard_released ha
  have hrest : (s.release p).guard = .idle := (congrArg Control.guard h.control).trans hg
  unfold hearStopResult
  rw [releaseGuard?_eq, if_pos (.inl ha)]
  dsimp only
  split
  · exact hrest
  · cases success with
    | false => exact hrest
    | true =>
      have h₁ := (((h.setRole .free).resetCursor).unprepare p).endSession.control
      exact (congrArg Control.guard h₁).trans ((Control.guard_unprepare _).trans hg)

theorem guard_peerOffline {s : Station} {p : NetworkId}
    (h : s.announcer = some p ∨ s.participates p = true) : (s.peerOffline p).guard = .idle := by
  unfold peerOffline
  split
  · exact congrArg Control.guard (s.does_resetSession p).control
  · rename_i hp
    have ha := h.resolve_right hp
    cases s.role.isFree && s.link.involves p <;> simp [ha]

/-- A step of the errand that ends without success ends the errand. -/
theorem guard_of_failed_step {s : Station} (hw : s.Speaks) {call : Resolved Continuation}
    (hc : s.ending? = some call) (ht : call.completion.isTransition = true)
    (ho : call.outcome ≠ .succeeded) : (s.step .take).guard = .idle := by
  obtain ⟨c, ns, ds, hturn, hs⟩ := s.turns .take hw
  have hg : c.guard = .idle := by
    have hreason : call.outcome.reason? ≠ none := by
      cases hout : call.outcome <;> simp_all [Outcome.reason?]
    cases hturn with
    | rest _ _ _ htake _ => rw [htake rfl] at hc; cases hc
    | stops _ _ hr => cases hr
    | endsAside call' hc' _ ha =>
      obtain rfl : call' = call := Option.some.inj (hc'.symm.trans hc)
      rw [ha] at ht
      cases ht
    | opens call' _ hc' _ _ ho' _ =>
      obtain rfl : call' = call := Option.some.inj (hc'.symm.trans hc)
      exact absurd ho' hreason
    | stopsOrigin call' _ hc' _ _ ho' _ =>
      obtain rfl : call' = call := Option.some.inj (hc'.symm.trans hc)
      exact absurd ho' hreason
    | leaves => exact Control.guard_ended _
    | _ => rfl
  exact (congrArg Control.guard hs.control).trans hg

/-- **A busy guard has one owner, and is given back.** In every state of every run the guard is
idle with no step of a transition among the calls; or it is busy with an errand, and exactly one
call is a step of it; or it is busy for a peer, and no call is a step of a transition. In the last
case whatever the peer says of how its start or stop ended makes the guard idle, and so does its
going offline; in the second case the end of the call does so unless it was a success. -/
theorem guard_has_one_owner (settings : Settings) (registry : Registry) (ms : List Move) :
    let s := (create settings registry).run ms
    (s.Unowned ∧ ¬s.OwnedByErrand ∧ (∀ p, ¬s.OwnedByPeer p) ∨
      ¬s.Unowned ∧ s.OwnedByErrand ∧ (∀ p, ¬s.OwnedByPeer p) ∨
      ¬s.Unowned ∧ ¬s.OwnedByErrand ∧ ∃ p, s.OwnedByPeer p) ∧
    (∀ p, s.OwnedByPeer p →
      (∀ success dhid l,
        (s.step (.event (.signal (.startResult p success dhid l)))).Unowned) ∧
      (∀ success, (s.step (.event (.signal (.stopResult p success)))).Unowned) ∧
      (s.step (.event (.deviceOffline p))).Unowned) ∧
    (s.OwnedByErrand → ∀ call, s.ending? = some call → call.completion.isTransition = true →
      (s.step .take).Unowned ∨ call.outcome = .succeeded ∧ (s.step .take).OwnedByErrand) := by
  intro s
  have hw : s.Speaks := speaks_run settings registry ms
  have hphase := phase_run settings registry ms
  change Phase s.control _ at hphase
  generalize (create settings registry).errand ms = e at hphase
  have hunowned (m : Move) (hg : (s.step m).guard = .idle) : (s.step m).Unowned :=
    unowned_of_idle (phase_step m hw hphase) hg
  refine ⟨?_, fun p hp => ⟨fun success dhid l => ?_, fun success => ?_, ?_⟩,
    fun hown call hc ht => ?_⟩
  · cases hphase with
    | idle hg ha hq =>
      have h : s.Unowned := unowned_of_idle (.idle hg ha hq) hg
      exact .inl ⟨h, h.not_errand, h.not_peer⟩
    | announced p hg ha hq =>
      have h : s.OwnedByPeer p := owned_of_announced hg ha hq
      exact .inr (.inr ⟨fun hu => hu.not_peer p h, fun he => he.not_peer p h, p, h⟩)
    | underway e k call hg ha hr hl hk hcont hq =>
      have h : s.OwnedByErrand := owned_of_errand (.underway e k call hg ha hr hl hk hcont hq)
      exact .inr (.inl ⟨fun hu => hu.not_errand h, h, h.not_peer⟩)
  · exact hunowned _ (guard_hearStartResult hp.announcer success dhid l)
  · exact hunowned _ (guard_hearStopResult hp.announcer success)
  · exact hunowned _ (guard_peerOffline (.inl hp.announcer))
  · by_cases ho : call.outcome = .succeeded
    · cases hb : (s.step .take).guard.isBusy with
      | false => exact .inl (hunowned _ (Guard.isBusy_eq_false_iff.mp hb))
      | true =>
        have h := phase_step .take hw hphase
        have he : errandAfter e s .take = e := by
          rw [errandAfter, hb, if_pos rfl]
          exact Option.none_or
        rw [he] at h
        cases hphase with
        | idle hg ha hq => exact absurd hown (unowned_of_idle (.idle hg ha hq) hg).not_errand
        | announced p hg ha hq => exact absurd (owned_of_announced hg ha hq) (hown.not_peer p)
        | underway e k call hg ha hr hl hk hcont hq => exact .inr ⟨ho, owned_of_errand h⟩
    · exact .inl (hunowned _ (guard_of_failed_step hw hc ht ho))

end Station

end PointerShare
