/-
# Local events in a row

A station judges local events one at a time, and one of them may change how it
judges those that follow: a motion of a device that does not belong to the
session ends it. Up to that event the station stays as it is, and forwards what
belongs; from it on it is busy, and a busy station suppresses everything and
stays as it is. So the session is ended once, however many events follow.

Key definitions: `Station.judgeAll`, `Station.verdictOn`, `Station.leavesWith`.
Key theorems: `Station.judgeAll_eq_run`, `Station.bursts_are_judged`.
-/
import PointerShare.Proofs.Failing

namespace PointerShare
namespace Station

/-- The verdicts on events that come one right after the other, and the station after them. -/
def judgeAll (s : Station) : List PointerEvent → List Verdict × Station
  | [] => ([], s)
  | e :: es =>
    let (verdict, s) := s.judge e
    let (verdicts, s) := s.judgeAll es
    (verdict :: verdicts, s)

/-- The verdict of an idle station: what belongs is forwarded. -/
def verdictOn (s : Station) (e : PointerEvent) : Verdict :=
  if s.belongs e.device then .forward else .suppress

/-- The event ends the session: it is a motion that does not belong. -/
def leavesWith (s : Station) (e : PointerEvent) : Bool := e.action.isMotion && !s.belongs e.device

variable {s : Station} {e : PointerEvent}

theorem judgeAll_cons (s : Station) (e : PointerEvent) (es : List PointerEvent) :
    s.judgeAll (e :: es) = ((s.judge e).1 :: ((s.judge e).2.judgeAll es).1,
      ((s.judge e).2.judgeAll es).2) :=
  rfl

theorem judgeAll_append (s : Station) (es es' : List PointerEvent) :
    s.judgeAll (es ++ es') = ((s.judgeAll es).1 ++ ((s.judgeAll es).2.judgeAll es').1,
      ((s.judgeAll es).2.judgeAll es').2) := by
  induction es generalizing s with
  | nil => rfl
  | cons e es ih => rw [List.cons_append, judgeAll_cons, judgeAll_cons, ih, List.cons_append]

/-- Judging events in a row is handling a request for each, with no other move in between. -/
theorem judgeAll_eq_run (s : Station) (es : List PointerEvent) :
    (s.judgeAll es).2 = s.run (es.map fun e => .event (.request (.judge e))) := by
  induction es generalizing s with
  | nil => rfl
  | cons e es ih => exact ih (s.judge e).2

/-- Events that leave the station as it is are each judged as if they came alone. -/
theorem judgeAll_of_still {f : PointerEvent → Verdict} {es : List PointerEvent}
    (h : ∀ e ∈ es, s.judge e = (f e, s)) : s.judgeAll es = (es.map f, s) := by
  induction es with
  | nil => rfl
  | cons e es ih =>
    rw [judgeAll_cons, h e List.mem_cons_self, ih fun e he => h e (List.mem_cons_of_mem _ he)]
    rfl

/-! ### One event -/

theorem judge_of_busy (h : s.guard ≠ .idle) : s.judge e = (.suppress, s) := by
  have hb : s.guard.isBusy = true := by
    rw [← Bool.not_eq_false, Guard.isBusy_eq_false_iff]
    exact h
  unfold judge
  rw [if_pos hb]

theorem judge_of_idle (h : s.guard = .idle) : s.judge e =
    (s.verdictOn e, if s.role ≠ .free ∧ s.leavesWith e = true then s.stop.2 else s) := by
  have hb : ¬s.guard.isBusy = true := by simp [h]
  unfold judge verdictOn leavesWith
  rw [if_neg hb]
  cases s.belongs e.device with
  | true => simp
  | false =>
    by_cases hleaves : (!s.role.isFree && e.action.isMotion) = true
    · simp_all [Role.isFree_eq_false_iff]
    · have hnot : ¬(s.role ≠ .free ∧ (e.action.isMotion && !false) = true) := by
        simpa [Role.isFree_eq_false_iff] using hleaves
      rw [if_neg hleaves, if_neg hnot]
      rfl

theorem judge_of_free (h : s.guard = .idle) (hr : s.role = .free) :
    s.judge e = (s.verdictOn e, s) := by
  rw [judge_of_idle h, if_neg fun hn => hn.1 hr]

theorem judge_of_stays (h : s.guard = .idle) (hl : s.leavesWith e = false) :
    s.judge e = (s.verdictOn e, s) := by
  rw [judge_of_idle h, if_neg fun hn => Bool.false_ne_true (hl.symm.trans hn.2)]

theorem judge_of_leaves (h : s.guard = .idle) (hr : s.role ≠ .free) (hl : s.leavesWith e = true) :
    s.judge e = (.suppress, s.stop.2) := by
  have hb : s.belongs e.device = false := by
    unfold leavesWith at hl
    simpa using (Bool.and_eq_true_iff.mp hl).2
  rw [judge_of_idle h, if_pos ⟨hr, hl⟩]
  unfold verdictOn
  rw [hb]
  rfl

/-! ### Events in a row -/

/-- What a stop that is not refused writes. -/
theorem stop_eq {r : StopRoute} (h : s.planStop = .ok r) :
    s.stop.2 =
      { s with
        guard := .stopping
        notifier := (s.notifier.publish (.of .stop r.peer)).2
        gateway := (s.gateway.stop r.src r.sink r.dhids (.stopped r.peer)).2 } := by
  have hg := guard_of_planStop h
  unfold stop
  rw [h]
  simp only [hg]
  rfl

/-- The first event that ends the session divides a burst. -/
theorem judgeAll_of_leaves (h : s.guard = .idle) (hr : s.role ≠ .free)
    (hb : s.stop.2.guard ≠ .idle) {before after : List PointerEvent} {k : PointerEvent}
    (hbefore : ∀ e ∈ before, s.leavesWith e = false) (hk : s.leavesWith k = true) :
    s.judgeAll (before ++ k :: after) =
      (before.map s.verdictOn ++ .suppress :: after.map fun _ => .suppress, s.stop.2) := by
  have hstill : s.judgeAll before = (before.map s.verdictOn, s) :=
    judgeAll_of_still fun e he => judge_of_stays h (hbefore e he)
  have hbusy : s.stop.2.judgeAll after = (after.map fun _ => .suppress, s.stop.2) :=
    judgeAll_of_still fun _ _ => judge_of_busy hb
  rw [judgeAll_append, hstill, judgeAll_cons, judge_of_leaves h hr hk, hbusy]

theorem planStop_of_session (hs : s.control.Seated) (h : s.guard = .idle) (hr : s.role ≠ .free)
    (hl : s.role.isOutbound = true → s.link.isPrepared = true) : ∃ r, s.planStop = .ok r := by
  cases hrole : s.role with
  | free => exact absurd hrole hr
  | inbound d => exact planStop_of_inbound h hrole (hs d hrole)
  | outbound d =>
    rw [planStop_of_outbound h hrole]
    unfold planStopOutbound
    rw [if_pos (hl (by rw [hrole]; rfl))]
    exact ⟨_, rfl⟩

/-- In a session, what belongs is the session's own. -/
theorem verdictOn_of_own {own : PointerEvent → Bool} (hown : ∀ e, s.belongs e.device = own e) :
    s.verdictOn = fun e => if own e then .forward else .suppress :=
  funext fun e => by rw [verdictOn, hown e]

theorem leavesWith_eq_false_iff {own : PointerEvent → Bool} (hown : ∀ e, s.belongs e.device = own e) :
    s.leavesWith e = false ↔ (e.action.isMotion = true → own e = true) := by
  rw [leavesWith, hown e]
  cases e.action.isMotion <;> cases own e <;> simp

/-- **Nothing leaks after the session was left.** A busy station suppresses a whole burst of events
and stays as it is; an idle one that is free forwards exactly what is not remote, and stays as it
is. In a session that can be ended, what is remote belongs to it while inbound, and the shared device
while outbound. Let `k` be the first event that is a motion and does not belong to it: before `k`
exactly what belongs is forwarded, from `k` on nothing is, and all that has changed is that the session
is being ended, by one notice and one call, both at `k`. Without such an event, and in a session whose
link was lost, the station stays as it is. -/
theorem bursts_are_judged (settings : Settings) (registry : Registry) (ms : List Move) :
    let s := (create settings registry).run ms
    (s.guard ≠ .idle → ∀ es, s.judgeAll es = (es.map fun _ => .suppress, s)) ∧
    (s.guard = .idle → s.role = .free → ∀ es, s.judgeAll es =
      (es.map fun e => if s.registry.isRemote e.device then .suppress else .forward, s)) ∧
    (s.guard = .idle → ∀ (d : Dhid) (own : PointerEvent → Bool),
      (s.role = .inbound d ∧ (∀ e, own e = true ↔ s.registry.isRemote e.device = true) ∨
        s.role = .outbound d ∧ s.link.isPrepared = true ∧
          ∀ e, own e = true ↔ s.registry.dhidOf? e.device = some d) →
      (∀ es, (∀ e ∈ es, e.action.isMotion = true → own e = true) →
        s.judgeAll es = (es.map fun e => if own e then .forward else .suppress, s)) ∧
      ∃ r, s.planStop = .ok r ∧ ∀ before k after,
        (∀ e ∈ before, e.action.isMotion = true → own e = true) →
        k.action.isMotion = true → own k = false →
          s.judgeAll (before ++ k :: after) =
            ((before.map fun e => if own e then .forward else .suppress) ++
                .suppress :: after.map fun _ => .suppress,
              { s with
                guard := .stopping
                notifier := (s.notifier.publish (.of .stop r.peer)).2
                gateway := (s.gateway.stop r.src r.sink r.dhids (.stopped r.peer)).2 })) ∧
    (s.guard = .idle → ∀ d, s.role = .outbound d → s.link.isPrepared = false →
      ∀ es, s.judgeAll es =
        (es.map fun e => if s.registry.dhidOf? e.device = some d then .forward else .suppress, s)) := by
  intro s
  refine ⟨fun hg es => ?_, fun hg hr es => ?_, fun hg d own hsession => ?_, fun hg d hr hl es => ?_⟩
  · exact judgeAll_of_still fun _ _ => judge_of_busy hg
  · refine judgeAll_of_still fun e _ => ?_
    rw [judge_of_free hg hr]
    unfold verdictOn belongs
    rw [hr]
    cases s.registry.isRemote e.device <;> rfl
  · obtain ⟨hr, hl, hown⟩ : s.role ≠ .free ∧ (s.role.isOutbound = true → s.link.isPrepared = true) ∧
        ∀ e, s.belongs e.device = own e := by
      rcases hsession with ⟨hr, hown⟩ | ⟨hr, hl, hown⟩
      · refine ⟨by simp [hr], by simp [hr, Role.isOutbound], fun e => Bool.eq_iff_iff.mpr ?_⟩
        rw [hown e, belongs, hr]
      · refine ⟨by simp [hr], fun _ => hl, fun e => Bool.eq_iff_iff.mpr ?_⟩
        rw [hown e, belongs, hr]
        exact beq_iff_eq
    rw [← verdictOn_of_own hown]
    simp only [← leavesWith_eq_false_iff hown]
    refine ⟨fun es hes => judgeAll_of_still fun e he => judge_of_stays hg (hes e he), ?_⟩
    obtain ⟨r, hp⟩ := planStop_of_session (seated_run settings registry ms) hg hr hl
    refine ⟨r, hp, fun before k after hbefore hmotion hk => ?_⟩
    have hleaves : s.leavesWith k = true := by
      rw [leavesWith, hown k, hmotion, hk]
      rfl
    have hbusy : s.stop.2.guard ≠ .idle := by
      rw [(stop_of_planStop hp).2.1]
      decide
    rw [judgeAll_of_leaves hg hr hbusy hbefore hleaves, stop_eq hp]
  · have hstop : s.stop = (.error .notPrepared, s) :=
      stop_of_unprepared hg hr (by rw [hl]; exact Bool.false_ne_true)
    refine judgeAll_of_still fun e _ => ?_
    rw [judge_of_idle hg, hstop, ite_self, verdictOn, belongs, hr]
    simp only [beq_iff_eq]

/-- A motion of a second pointer ends a session: what the first one reports before is forwarded, and
suppressed after. -/
theorem burst_that_ends_a_session :
    let s := (create ⟨8, 1000, 2, 1000, .center⟩ lonePointer).run (sharedWith [])
    let shared (dx : Int32) : PointerEvent := ⟨⟨1⟩, 0, .motion dx 0⟩
    s.guard = .idle ∧ s.role = .outbound ⟨"m"⟩ ∧ s.link.isPrepared = true ∧
      (s.judgeAll [shared 1, ⟨⟨2⟩, 0, .keyDown 30⟩, ⟨⟨2⟩, 0, .motion 3 0⟩, shared 2]).1 =
        [.forward, .suppress, .suppress, .suppress] := by
  intro s shared
  have hg : s.guard = .idle := by decide +kernel
  have hr : s.role = .outbound ⟨"m"⟩ := by decide +kernel
  have hl : s.link.isPrepared = true := by decide +kernel
  refine ⟨hg, hr, hl, ?_⟩
  let own (e : PointerEvent) : Bool := decide (s.registry.dhidOf? e.device = some ⟨"m"⟩)
  obtain ⟨-, r, -, hburst⟩ := (bursts_are_judged ⟨8, 1000, 2, 1000, .center⟩ lonePointer
    (sharedWith [])).2.2.1 hg ⟨"m"⟩ own (.inr ⟨hr, hl, fun _ => decide_eq_true_iff⟩)
  have hbefore : ([shared 1, ⟨⟨2⟩, 0, .keyDown 30⟩].map fun e =>
      if own e then Verdict.forward else .suppress) = [.forward, .suppress] := by
    decide +kernel
  have hall := hburst [shared 1, ⟨⟨2⟩, 0, .keyDown 30⟩] ⟨⟨2⟩, 0, .motion 3 0⟩ [shared 2]
    (by decide +kernel) (by decide +kernel) (by decide +kernel)
  rw [hbefore] at hall
  exact congrArg Prod.fst hall

end Station
end PointerShare
