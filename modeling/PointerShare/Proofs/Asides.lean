/-
# Calls that are no step of a transition

Three of the calls that a station makes are steps of no transition: a keyboard
joins the session, a link is given up, half of a relay is taken back. They share
the slots of the calls that are, outlive sessions, and may be superseded by a
step of a transition; but they never get in its way. When one ends, by whatever
post and at whatever time, the tracker forgets it, and nothing else comes of it.
A post names the call that it ends, and no two calls have the same number; so
what was meant for one never ends another that took its slot. And a step of a
transition is never superseded itself, because the next call of its kind is only
made once it has ended; so nobody hears that this was why a transition failed.

Key definitions: `Tracker.settle`, `Post.request?`.
Key theorems: `Tracker.apply_settles`, `Station.receive_of_aside`,
`Station.reasons_turn`, `Station.asides_disturb_nothing`.
-/
import PointerShare.Proofs.Ledger

namespace PointerShare

/-- The number of the call that a post is about. -/
def Post.request? : Post → Option RequestId
  | .reply r => some r.request
  | .issueFailed _ r => some r
  | .timerFired _ r => some r
  | .superseded r => some r
  | .relay _ => none

namespace Tracker

variable {κ : Type}

/-- The tracker without a call that has ended. Of a pending one the alarm is dropped too. -/
def settle (t : Tracker κ) (call : Resolved κ) : Tracker κ :=
  if call.outcome = .superseded then
    { t with superseded := t.superseded.filter fun q => q.request != call.request }
  else match t.pending? call.kind with
    | none => t
    | some p =>
      { t with mailbox := t.mailbox.dropAlarm p.alarm, pending := t.pending.set call.kind none }

/-- A post that ends a call names it, and the tracker forgets this call. -/
structure Settles (t : Tracker κ) (r : RequestId) (call : Resolved κ) (t' : Tracker κ) : Prop where
  request : call.request = r
  tracker : t' = t.settle call

theorem settles_resolve {t : Tracker κ} {k : CallKind} {p : Pending κ} {o : Outcome}
    (hp : t.pending? k = some p) (ho : o ≠ .superseded) {call : Resolved κ}
    (h : (t.resolve k o).1 = some call) : t.Settles p.request call (t.resolve k o).2 := by
  simp only [resolve, hp] at h ⊢
  cases h
  refine ⟨rfl, ?_⟩
  simp only [settle, if_neg ho, hp]

/-- The answers that were still expected make no difference. -/
theorem Settles.of_progress {t t' : Tracker κ} {k : CallKind} {p : Pending κ} {call : Resolved κ}
    {r : RequestId} {shapes : List PartShape} (hp : t.pending? k = some p) (hk : call.kind = k)
    (ho : call.outcome ≠ .superseded)
    (h : Settles { t with pending := t.pending.set k (some { p with outstanding := shapes }) } r call
      t') : t.Settles r call t' := by
  subst hk
  have hp' : t.pending.get call.kind = some p := hp
  refine ⟨h.request, h.tracker.trans ?_⟩
  simp only [settle, if_neg ho, pending?, hp', PerKind.get_set_self, PerKind.set_set]

theorem kind_resolve {t : Tracker κ} {k : CallKind} {o : Outcome} {call : Resolved κ}
    (h : (t.resolve k o).1 = some call) : call.kind = k ∧ call.outcome = o := by
  unfold resolve at h
  split at h
  · cases h
  · cases h
    exact ⟨rfl, rfl⟩

theorem settles_onReply {t : Tracker κ} {r : Reply} {call : Resolved κ}
    (h : (t.onReply r).1 = some call) : t.Settles r.request call (t.onReply r).2 := by
  unfold onReply at h ⊢
  split at h
  · cases h
  · rename_i p hcur
    obtain ⟨hp, hr⟩ := pending?_of_current? hcur
    rw [← hr]
    split at h
    · cases h
    split at h
    · rename_i hecho hfail
      rw [if_neg hecho, if_pos hfail]
      exact settles_resolve hp (by decide) h
    split at h
    · cases h
    rename_i hecho hfail hshape
    simp only [if_neg hecho, if_neg hfail, if_neg hshape]
    dsimp only at h
    split at h
    · rename_i hlast
      rw [if_pos hlast]
      obtain ⟨hk, ho⟩ := kind_resolve h
      have hp₁ (q : Pending κ) :
          pending? { t with pending := t.pending.set r.kind (some q) } r.kind = some q :=
        PerKind.get_set_self _ _ _
      exact .of_progress hp hk (by rw [ho]; decide) (settles_resolve (hp₁ _) (by decide) h)
    · cases h

theorem settles_onTimer {t : Tracker κ} {k : CallKind} {r : RequestId} {call : Resolved κ}
    (h : (t.onTimer k r).1 = some call) : t.Settles r call (t.onTimer k r).2 := by
  unfold onTimer at h ⊢
  split at h
  · cases h
  · rename_i p hcur
    obtain ⟨hp, hr⟩ := pending?_of_current? hcur
    rw [← hr]
    split at h
    · rename_i hlast
      rw [if_pos hlast]
      exact settles_resolve hp (by decide) h
    · cases h

theorem settles_onIssueFailed {t : Tracker κ} {k : CallKind} {r : RequestId} {call : Resolved κ}
    (h : (t.onIssueFailed k r).1 = some call) : t.Settles r call (t.onIssueFailed k r).2 := by
  unfold onIssueFailed at h ⊢
  split at h
  · cases h
  · rename_i p hcur
    obtain ⟨hp, hr⟩ := pending?_of_current? hcur
    rw [← hr]
    exact settles_resolve hp (by decide) h

theorem settles_takeSuperseded {t : Tracker κ} {r : RequestId} {call : Resolved κ}
    (h : (t.takeSuperseded r).1 = some call) : t.Settles r call (t.takeSuperseded r).2 := by
  unfold takeSuperseded at h ⊢
  split at h
  · cases h
  · rename_i q hq
    have hr : q.request = r := by simpa using List.find?_some hq
    cases h
    refine ⟨hr, ?_⟩
    rw [settle, if_pos rfl, hr]

/-- A post ends the call that it names, if any, and the tracker forgets no other. -/
theorem apply_settles {t : Tracker κ} {p : Post} {call : Resolved κ}
    (h : (t.apply p).1 = some call) :
    p.request? = some call.request ∧ (t.apply p).2 = t.settle call := by
  have hnamed {r : RequestId} {t' : Tracker κ} (hs : t.Settles r call t') :
      some r = some call.request ∧ t' = t.settle call :=
    ⟨congrArg some hs.request.symm, hs.tracker⟩
  cases p with
  | reply r => exact hnamed (settles_onReply h)
  | issueFailed k r => exact hnamed (settles_onIssueFailed h)
  | timerFired k r => exact hnamed (settles_onTimer h)
  | superseded r => exact hnamed (settles_takeSuperseded h)
  | relay e => cases h

end Tracker

namespace Station

theorem resume_of_aside {s : Station} {call : Resolved Continuation}
    (ha : call.completion.isTransition = false) : s.resume call = s := by
  unfold resume
  cases hn : call.completion with
  | relayRolledBack _ => rfl
  | unprepared _ => rfl
  | keyboardAdded _ => rfl
  | _ => rw [hn] at ha; cases ha

/-- The end of a call that is no step of a transition makes the tracker forget it, and nothing else. -/
theorem receive_of_aside {s : Station} {p : Post} {call : Resolved Continuation}
    (h : (s.gateway.tracker.apply p).1 = some call) (ha : call.completion.isTransition = false) :
    s.receive p = s.setTracker (s.gateway.tracker.settle call) := by
  have hp : ∀ e, p ≠ .relay e := by
    rintro e rfl
    cases h
  obtain ⟨-, htracker⟩ := Tracker.apply_settles h
  have hpair : s.gateway.tracker.apply p = (some call, s.gateway.tracker.settle call) :=
    Prod.ext h htracker
  rw [receive_eq s hp, hpair]
  exact resume_of_aside ha

/-! ### Why transitions fail -/

section turn

variable {s : Station} {m : Move} {c : Control} {ns : List Notice} {ds : List Dispatch}
  {e : Option Errand}

/-- A step of a transition that fails was not superseded. -/
theorem reason_of_step (h : Phase s.control e) {call : Resolved Continuation} {c₁ : Control}
    (he : Ends s.control call c₁) (ht : call.completion.isTransition = true) {reason : Reason}
    (ho : call.outcome.reason? = some reason) : reason ≠ .superseded := by
  obtain ⟨-, -, -, hsup, -⟩ := h.ends_step he ht
  rintro rfl
  cases hout : call.outcome with
  | superseded => exact hsup hout
  | succeeded => rw [hout] at ho; cases ho
  | rejected => rw [hout] at ho; cases ho
  | timedOut => rw [hout] at ho; cases ho

/-- No notice of a move says that a call was superseded. -/
theorem reasons_turn (ht : Turn s m c ns ds) (h : Phase s.control e) :
    ∀ n ∈ ns, n.reason ≠ some .superseded := by
  have hof (message : Message) (p : NetworkId) :
      (Notice.of message p).reason ≠ some .superseded := nofun
  have hfailed {message : Message} {p : NetworkId} {reason : Reason} (hr : reason ≠ .superseded) :
      (Notice.failed message p reason).reason ≠ some .superseded :=
    fun he => hr (Option.some.inj he)
  have hover : ∀ n ∈ s.overture m, n.reason ≠ some .superseded := by
    unfold overture
    split
    · split <;> simp [Notice.of]
    · simp
  have hclosing (c : Control) (p : NetworkId) : ∀ n ∈ c.closing p, n.reason ≠ some .superseded := by
    unfold Control.closing
    split <;> simp [Notice.of]
  have hshares {c₁ : Control} {plan : StartPlan} {ns₁ : List Notice} {ds₁ : List Dispatch}
      (hs : Shares c₁ plan c ns₁ ds₁) : ∀ n ∈ ns₁, n.reason ≠ some .superseded := by
    cases hs with
    | calls => nofun
    | lacks => exact List.forall_mem_singleton.mpr (hfailed (by decide))
  cases ht with
  | rest => exact hover
  | stops m r _ =>
    exact List.forall_mem_append.mpr ⟨hover, List.forall_mem_singleton.mpr (hof _ _)⟩
  | sharesAtOnce target device route plan _ _ _ hs =>
    exact List.forall_mem_cons.mpr ⟨hof _ _, hshares hs⟩
  | startRejected => exact List.forall_mem_singleton.mpr (hfailed (by decide))
  | stopRejected => exact List.forall_mem_singleton.mpr (hfailed (by decide))
  | getsBack p =>
    exact List.forall_mem_append.mpr ⟨hclosing _ _, List.forall_mem_singleton.mpr (hof _ _)⟩
  | isLeft p =>
    exact List.forall_mem_append.mpr ⟨hclosing _ _, List.forall_mem_singleton.mpr (hof _ _)⟩
  | leaves call peer =>
    exact List.forall_mem_append.mpr ⟨hclosing _ _, List.forall_mem_singleton.mpr (hof _ _)⟩
  | opens call plan _ _ _ _ hs => exact List.forall_mem_cons.mpr ⟨hof _ _, hshares hs⟩
  | opensNot call plan reason _ he hn ho =>
    have hr := reason_of_step h he (by rw [hn]; rfl) ho
    exact List.forall_mem_cons.mpr
      ⟨hfailed hr, List.forall_mem_singleton.mpr (hfailed (by decide))⟩
  | startFails call target device reason _ he hn ho =>
    exact List.forall_mem_singleton.mpr
      (hfailed (reason_of_step h he (isTransition_of_leg? hn) ho))
  | rollsBack => exact List.forall_mem_singleton.mpr (hfailed (by decide))
  | stopFails call peer reason _ he hn ho =>
    exact List.forall_mem_singleton.mpr (hfailed (reason_of_step h he (by rw [hn]; rfl) ho))
  | _ => simp [Notice.of]

end turn

/-! ### Runs -/

section run

variable (settings : Settings) (registry : Registry) (ms : List Move)

/-- Nobody is ever told that a call was superseded. -/
theorem reasons_run : ∀ h ∈ ((create settings registry).run ms).notifier.handovers,
    h.notice.reason ≠ some .superseded := by
  refine history (P := fun _ s => ∀ h ∈ s.notifier.handovers, h.notice.reason ≠ some .superseded)
    (fun h hh => by cases hh) (fun ms m ih => ?_) ms
  obtain ⟨c, ns, ds, ht, hs⟩ := Station.turns _ m (speaks_run settings registry ms)
  rw [hs.published]
  refine List.forall_mem_append.mpr ⟨ih, fun h hh => ?_⟩
  obtain ⟨n, hn, hh⟩ := List.mem_flatMap.mp hh
  obtain ⟨_, -, rfl⟩ := List.mem_map.mp hh
  exact reasons_turn ht (phase_run settings registry ms) n hn

/-- A call that ends as superseded is no step of a transition. -/
theorem aside_of_superseded {p : Post} {call : Resolved Continuation}
    (h : (((create settings registry).run ms).gateway.tracker.apply p).1 = some call)
    (ho : call.outcome = .superseded) : call.completion.isTransition = false := by
  obtain ⟨_, he, -⟩ := receive_of_apply h
  rcases (phase_run settings registry ms).ends he with ⟨ha, -⟩ | ⟨_, -, -, hsup, -⟩
  · exact ha
  · exact absurd ho hsup

/-- A post that names a call of the ledger ends this call or none, and leaves every other that is
pending. -/
theorem posts_end_their_own {a : Entry} (ha : a ∈ (create settings registry).ledger ms) {p : Post}
    (hp : p.request? = some a.call.request) :
    let t := ((create settings registry).run ms).gateway.tracker
    (∀ call, (t.apply p).1 = some call →
      call.kind = a.kind ∧ call.request = a.call.request ∧ call.completion = a.call.completion) ∧
    ∀ b ∈ (create settings registry).ledger ms, b ≠ a → t.calls.get b.kind = some b.call →
      (t.apply p).2.calls.get b.kind = some b.call := by
  intro t
  have hrec := recorded_run settings registry ms
  have hend {call : Resolved Continuation} (h : (t.apply p).1 = some call) :
      call.request = a.call.request :=
    Option.some.inj ((Tracker.apply_settles h).1.symm.trans hp)
  refine ⟨fun call h => ?_, fun b hb hne hpending => ?_⟩
  · obtain ⟨_, he, -⟩ := receive_of_apply h
    obtain ⟨e, hmem, hk, hr, hn⟩ := hrec.of_ends he
    obtain rfl := hrec.eq_of_request hmem ha (hr.trans (hend h))
    exact ⟨hk.symm, hr.symm, hn.symm⟩
  · have happ := t.applied p
    have hend' := @hend
    generalize t.apply p = r at happ hend'
    obtain ⟨o, t'⟩ := r
    dsimp only at happ hend' ⊢
    cases happ with
    | nothing _ hc => rw [hc, hpending]
    | superseded r _ _ hc => rw [hc, hpending]
    | pending k x o _ hk _ hc =>
      have hkind : k ≠ b.kind := by
        rintro rfl
        obtain rfl : x = b.call := Option.some.inj (hk.symm.trans hpending)
        exact hne (hrec.eq_of_request hb ha (hend' rfl))
      rw [hc, PerKind.get_set_of_ne _ hkind, hpending]

end run

/-- **Calls that are no step of a transition never disturb one.** After every run: a call that ends
as superseded is no step of a transition, and no notice that was ever handed to an observer has this
as its reason; when a call ends that is no step of a transition, whatever its outcome, the
station is as before, but for the tracker, which has forgotten this call; and a post about
such a call ends it or nothing, and leaves every other pending call in its place, those of its own
kind that were issued after it included. -/
theorem asides_disturb_nothing (settings : Settings) (registry : Registry) (ms : List Move) :
    let s := (create settings registry).run ms
    (∀ p call, (s.gateway.tracker.apply p).1 = some call → call.outcome = .superseded →
      call.completion.isTransition = false) ∧
    (∀ h ∈ s.notifier.handovers, h.notice.reason ≠ some .superseded) ∧
    (∀ p call, (s.gateway.tracker.apply p).1 = some call → call.completion.isTransition = false →
      s.receive p = s.setTracker (s.gateway.tracker.settle call)) ∧
    ∀ a ∈ (create settings registry).ledger ms, a.call.completion.isTransition = false →
      ∀ p : Post, p.request? = some a.call.request →
        (∀ call, (s.gateway.tracker.apply p).1 = some call →
          call.kind = a.kind ∧ call.request = a.call.request ∧
            call.completion = a.call.completion) ∧
        ∀ b ∈ (create settings registry).ledger ms, b ≠ a →
          s.gateway.tracker.calls.get b.kind = some b.call →
            (s.gateway.tracker.apply p).2.calls.get b.kind = some b.call := by
  intro s
  exact ⟨fun _ _ => aside_of_superseded settings registry ms, reasons_run settings registry ms,
    fun _ _ => receive_of_aside, fun _ ha _ _ => posts_end_their_own settings registry ms ha⟩

end Station

end PointerShare
