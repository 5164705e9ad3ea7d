/-
# Issuing a call

Issuing registers a call before the service hears of it, and whatever the
service does at once, any replies and a refusal after them, is only posted. So
the call is pending when it has been issued, with the arguments that the service
was given, nothing has ended, and the call that it took the place of, if there
was one, has its post in the queue before all that comes of the new one.

The posts of a call's own timers come a timeout apart (`Gateway.Paced`), so an
answer that is posted before the call's time is over is also before the timer
that would end it.

Key definitions: `Gateway.Paced`, `Call.Granted`.
Key theorems: `Gateway.paced_deal`, `Exchange.timers_in_time`,
`Exchange.succeeded_of_granted`, `Exchange.issued_call_is_heard_out`.
-/
import PointerShare.Proofs.Course
import PointerShare.Proofs.Silence

namespace PointerShare

open scoped List

variable {κ : Type}

/-! ### The timers of a call -/

namespace Tracker

variable {t : Tracker κ}

/-- An alarm that is there after a post was applied was there before, or was set again because it had
gone off. -/
theorem alarms_apply {p : Post} {a : Alarm} (ha : a ∈ (t.apply p).2.mailbox.alarms) :
    a ∈ t.mailbox.alarms ∨ p = a.post ∧ a.deadline = t.mailbox.now + t.timeout := by
  have happ := t.applies p
  generalize t.apply p = result at happ ha
  obtain ⟨o, t'⟩ := result
  dsimp only at happ ha
  cases happ with
  | nothing | progress | superseded => exact .inl ha
  | answered _ _ k o => exact .inl (t.alarms_resolve k o ha)
  | expires k => exact .inl (t.alarms_resolve k .timedOut ha)
  | waits k q =>
    rcases List.mem_append.mp ha with ha | ha
    · exact .inl ha
    · obtain rfl := List.mem_singleton.mp ha
      exact .inr ⟨rfl, rfl⟩

/-- Registering a call sets one alarm, for that call. -/
theorem alarms_register (h : t.Timed) {k : CallKind} {args : CallArgs} {c : κ} {a : Alarm}
    (ha : a ∈ (t.register k args c).2.mailbox.alarms) : a ∈ t.mailbox.alarms ∨
      a.request = ⟨t.issued + 1⟩ ∧ a.deadline = t.mailbox.now + t.timeout := by
  rw [h.register_eq] at ha
  rcases List.mem_append.mp ha with ha | ha
  · left
    have hs : a ∈ (t.supersede k).mailbox.alarms := ha
    unfold supersede at hs
    split at hs
    · exact hs
    · rw [Mailbox.post_eq (m := t.mailbox.dropAlarm _) h.isOpen] at hs
      exact (List.mem_filter.mp hs).1
  · obtain rfl := List.mem_singleton.mp ha
    refine .inr ⟨rfl, ?_⟩
    show (t.supersede k).mailbox.now + (t.supersede k).timeout = _
    rw [now_supersede h, (t.settings_supersede k).1]

/-- A call that was just registered is pending, with an alarm and all its retries. -/
theorem pending?_register_self (t : Tracker κ) (k : CallKind) (args : CallArgs) (c : κ) :
    (t.register k args c).2.pending? k =
      some ⟨⟨t.issued + 1⟩, args, t.retries, t.mailbox.nextSerial, k.shapes, c⟩ := by
  refine (PerKind.get_set_self _ _ _).trans ?_
  rw [(settings_supersede _ k).2]

/-- No call has two alarms. -/
theorem Timed.one_alarm (h : t.Timed) (r : RequestId) :
    t.mailbox.alarms.countP (fun a => a.post.timesOut r) ≤ 1 := by
  by_cases hnone : ∃ a ∈ t.mailbox.alarms, a.request = r
  · obtain ⟨a, ha, rfl⟩ := hnone
    obtain ⟨p, hp, hr, -⟩ := h.alarms a ha
    have hone := congrArg List.length (h.timeouts a.kind p hp)
    rw [hr, Mailbox.timeouts, ← List.countP_eq_length_filter, List.countP_append,
      List.countP_map, List.length_singleton] at hone
    show t.mailbox.alarms.countP (Post.timesOut a.request ∘ Alarm.post) ≤ 1
    omega
  · have hzero : t.mailbox.alarms.countP (fun a => a.post.timesOut r) = 0 := by
      refine List.countP_eq_zero.mpr fun a ha hout => hnone ⟨a, ha, ?_⟩
      simpa [Alarm.post, Post.timesOut] using hout
    omega

end Tracker

namespace Gateway

/-- Since `start`, `n` timers of the call numbered `r` have been posted, each a timeout after the one
before it. -/
structure Paced (g : Gateway κ) (start : Nat) (r : RequestId) (n : Nat) : Prop where
  posted : n ≠ 0 → start + g.tracker.timeout * n ≤ g.mailbox.now
  queued : g.mailbox.queue.countP (Post.timesOut r) ≤ n
  alarms : ∀ a ∈ g.mailbox.alarms, a.request = r → start + g.tracker.timeout * (n + 1) ≤ a.deadline

variable {g : Gateway κ} {start n : Nat} {r : RequestId}

/-- Nothing but an alarm that goes off posts a timer. -/
theorem timers_posts (g : Gateway κ) (r : RequestId) {d : Dealing κ} (hd : ∀ late, d ≠ .ring late) :
    (d.posts g).countP (Post.timesOut r) = 0 := by
  refine List.countP_eq_zero.mpr fun p hp hout => ?_
  cases p with
  | reply | issueFailed | superseded | relay => cases hout
  | timerFired k q =>
    cases d with
    | ring late => exact hd late rfl
    | issue k args c =>
      rcases List.mem_append.mp hp with hp | hp
      · obtain ⟨_, -, hp⟩ := List.mem_map.mp hp
        cases hp
      · rcases List.mem_append.mp hp with hp | hp
        · obtain ⟨_, -, hp⟩ := List.mem_map.mp hp
          cases hp
        · split at hp
          · cases List.mem_singleton.mp hp
          · cases hp
    | answer => cases List.mem_singleton.mp hp
    | relay event =>
      rw [Dealing.posts] at hp
      split at hp
      · cases List.mem_singleton.mp hp
      · cases hp
    | cancelAll | subscribe | unsubscribe | take | clock | mood | listenerFaults => cases hp

/-- The clock does not go back. -/
theorem now_deal (h : g.tracker.Timed) (d : Dealing κ) : g.mailbox.now ≤ (g.deal d).mailbox.now := by
  cases d with
  | issue k args c =>
    show _ ≤ (Mailbox.postAll (g.tracker.register k args c).2.mailbox _).now
    rw [Mailbox.now_postAll, h.register_eq]
    exact Nat.le_of_eq (Tracker.now_supersede h k).symm
  | take =>
    cases hq : g.mailbox.queue with
    | nil => exact Nat.le_of_eq (congrArg (fun g => g.mailbox.now) (deal_take_of_nil hq)).symm
    | cons p ps =>
      rw [deal_take_of_cons hq]
      exact Nat.le_of_eq (Tracker.now_apply (g.tracker.withQueue ps) p).symm
  | cancelAll =>
    show _ ≤ g.tracker.mailboxAtRest.now
    rw [Tracker.Timed.mailboxAtRest_eq]
    exact Nat.le_refl _
  | subscribe => exact Nat.le_of_eq (congrArg (fun t => t.mailbox.now) g.tracker_subscribe).symm
  | unsubscribe => exact Nat.le_of_eq (congrArg (fun t => t.mailbox.now) g.tracker_unsubscribe).symm
  | answer q => exact Nat.le_of_eq (congrArg Mailbox.now (Mailbox.post_eq h.isOpen _)).symm
  | relay event =>
    simp only [deal, emitRelay]
    split
    · exact Nat.le_of_eq (congrArg Mailbox.now (Mailbox.post_eq h.isOpen _)).symm
    · exact Nat.le_refl _
  | clock now => exact Nat.le_max_left _ _
  | ring late => exact Nat.le_of_eq (congrArg Mailbox.now (Mailbox.ringBut_eq h.isOpen late)).symm
  | mood | listenerFaults => exact Nat.le_refl _

/-- Where an alarm of a call that was made comes from: it was there before, or it is set again while
the post of the last one is taken. -/
theorem alarms_deal (h : g.tracker.Timed) (hr : r.number ≤ g.tracker.issued) {d : Dealing κ}
    {a : Alarm} (ha : a ∈ (g.deal d).mailbox.alarms) (har : a.request = r) : a ∈ g.mailbox.alarms ∨
      a.post ∈ g.mailbox.queue ∧ a.deadline = g.mailbox.now + g.tracker.timeout := by
  cases d with
  | issue k args c =>
    have hreg : a ∈ (Mailbox.postAll (g.tracker.register k args c).2.mailbox _).alarms := ha
    rw [Mailbox.alarms_postAll] at hreg
    rcases Tracker.alarms_register h hreg with hold | ⟨hnew, -⟩
    · exact .inl hold
    · rw [← har, hnew] at hr
      exact absurd hr (Nat.not_succ_le_self _)
  | take =>
    cases hq : g.mailbox.queue with
    | nil => rw [deal_take_of_nil hq] at ha; exact .inl ha
    | cons p ps =>
      rw [deal_take_of_cons hq] at ha
      rcases Tracker.alarms_apply (t := g.tracker.withQueue ps) ha with hold | ⟨rfl, hnew⟩
      · exact .inl hold
      · exact .inr ⟨List.mem_cons_self, hnew⟩
  | cancelAll =>
    have hnone : a ∈ g.tracker.mailboxAtRest.alarms := ha
    rw [h.alarms_atRest] at hnone
    cases hnone
  | subscribe => exact .inl (congrArg (fun t => t.mailbox.alarms) g.tracker_subscribe ▸ ha)
  | unsubscribe => exact .inl (congrArg (fun t => t.mailbox.alarms) g.tracker_unsubscribe ▸ ha)
  | answer q => exact .inl (congrArg Mailbox.alarms (Mailbox.post_eq h.isOpen _) ▸ ha)
  | relay event =>
    simp only [deal, emitRelay] at ha
    split at ha
    · exact .inl (congrArg Mailbox.alarms (Mailbox.post_eq h.isOpen _) ▸ ha)
    · exact .inl ha
  | ring late =>
    exact .inl (List.mem_filter.mp (congrArg Mailbox.alarms (Mailbox.ringBut_eq h.isOpen late) ▸ ha)).1
  | clock | mood | listenerFaults => exact .inl ha

/-- When an alarm goes off, its call has no other. -/
theorem paced_ring (h : g.tracker.Timed) (hp : g.Paced start r n) (late : List Nat) :
    (g.deal (.ring late)).Paced start r
      (n + ((Dealing.ring late).posts g).countP (Post.timesOut r)) := by
  have hring : (g.deal (.ring late)).mailbox = g.mailbox.ringBut late := rfl
  have ho : g.mailbox.isOpen = true := h.isOpen
  have hone : g.mailbox.alarms.countP (fun a => a.post.timesOut r) ≤ 1 := h.one_alarm r
  have hsplit := List.countP_eq_countP_filter_add g.mailbox.alarms
    (fun a => a.post.timesOut r) (g.mailbox.goesOff late)
  have hcount : ((Dealing.ring late).posts g).countP (Post.timesOut r) =
      (g.mailbox.alarms.filter (g.mailbox.goesOff late)).countP fun a => a.post.timesOut r :=
    List.countP_map
  rw [Mailbox.ringBut_eq ho] at hring
  rw [hcount]
  generalize hgone : (g.mailbox.alarms.filter (g.mailbox.goesOff late)).countP
    (fun a => a.post.timesOut r) = m at *
  refine ⟨fun hn => ?_, ?_, fun a ha har => ?_⟩
  · rw [hring]
    show start + g.tracker.timeout * (n + m) ≤ g.mailbox.now
    by_cases hm : m = 0
    · subst hm
      exact hp.posted hn
    · -- the one that goes off is due
      obtain ⟨a, ha, hout⟩ := List.countP_pos_iff.mp (Nat.pos_of_ne_zero (hgone ▸ hm))
      obtain ⟨ha, hgoes⟩ := List.mem_filter.mp ha
      have hdue := hp.alarms a ha (by simpa [Alarm.post, Post.timesOut] using hout)
      simp only [Mailbox.goesOff, Bool.and_eq_true, decide_eq_true_eq] at hgoes
      obtain rfl : m = 1 := by omega
      exact Nat.le_trans hdue hgoes.1
  · rw [hring]
    show (g.mailbox.queue ++ _).countP _ ≤ _
    rw [List.countP_append, List.countP_map]
    exact Nat.add_le_add hp.queued (Nat.le_of_eq hgone)
  · rw [hring] at ha
    obtain ⟨hmem, hstays⟩ := List.mem_filter.mp ha
    have hleft : 0 < (g.mailbox.alarms.filter fun a => !g.mailbox.goesOff late a).countP
        (fun a => a.post.timesOut r) :=
      List.countP_pos_iff.mpr ⟨a, ha, by simp [Alarm.post, Post.timesOut, har]⟩
    obtain rfl : m = 0 := by omega
    exact hp.alarms a hmem har

theorem timeout_deal (g : Gateway κ) (d : Dealing κ) :
    (g.deal d).tracker.timeout = g.tracker.timeout := by
  have h := (Exchange.settings_step ⟨g, [], [], [], []⟩ d).1
  rwa [Exchange.gateway_step] at h

/-- The timers of a call go on to come a timeout apart. -/
theorem paced_deal (h : g.tracker.Timed) (hr : r.number ≤ g.tracker.issued)
    (hp : g.Paced start r n) (d : Dealing κ) :
    (g.deal d).Paced start r (n + (d.posts g).countP (Post.timesOut r)) := by
  by_cases hring : ∃ late, d = .ring late
  · obtain ⟨late, rfl⟩ := hring
    exact paced_ring h hp late
  have hqueue := congrArg (List.countP (Post.timesOut r)) (queue_deal h d)
  rw [List.countP_append, List.countP_append] at hqueue
  have hnone := g.timers_posts r fun late hd => hring ⟨late, hd⟩
  rw [hnone] at hqueue ⊢
  have hstill := hp.queued
  refine ⟨fun hn => ?_, by omega, fun a ha har => ?_⟩ <;> rw [timeout_deal]
  · exact Nat.le_trans (hp.posted hn) (now_deal h d)
  · rcases alarms_deal h hr ha har with hold | ⟨hfired, hnew⟩
    · exact hp.alarms a hold har
    · have hqueued : 0 < g.mailbox.queue.countP (Post.timesOut r) :=
        List.countP_pos_iff.mpr ⟨_, hfired, by simp [Alarm.post, Post.timesOut, har]⟩
      have hbefore := hp.posted (by omega)
      rw [hnew, Nat.add_zero, Nat.mul_succ]
      omega

/-- No post and no alarm is about a call that was not made. -/
theorem paced_issue (h : g.tracker.Timed) (k : CallKind) (args : CallArgs) (c : κ) :
    (g.issue k args c).2.Paced g.mailbox.now ⟨g.tracker.issued + 1⟩ 0 := by
  have hunknown : g.mailbox.timeouts ⟨g.tracker.issued + 1⟩ = [] :=
    (h.unknown ⟨g.tracker.issued + 1⟩ (Nat.lt_succ_self _)).1
  have hnone {p : Post} (hp : p ∈ g.mailbox.alarms.map Alarm.post ∨ p ∈ g.mailbox.queue) :
      p.timesOut ⟨g.tracker.issued + 1⟩ = false := by
    refine Bool.eq_false_iff.mpr fun hout => ?_
    have hmem := Mailbox.mem_timeouts.mpr ⟨hp, hout⟩
    rw [hunknown] at hmem
    cases hmem
  have hqueue : (g.issue k args c).2.mailbox.queue = g.mailbox.queue ++
      (Dealing.issue k args c).posts g := queue_deal h (.issue k args c)
  refine ⟨fun hn => absurd rfl hn, ?_, fun a ha har => ?_⟩
  · rw [hqueue, List.countP_append, timers_posts (d := .issue k args c) _ _ (fun _ => nofun),
      Nat.add_zero]
    refine Nat.le_of_eq (List.countP_eq_zero.mpr fun p hp => ?_)
    rw [hnone (.inr hp)]
    exact Bool.false_ne_true
  · have hreg : a ∈ (Mailbox.postAll (g.tracker.register k args c).2.mailbox _).alarms := ha
    rw [Mailbox.alarms_postAll] at hreg
    rcases Tracker.alarms_register h hreg with hold | ⟨-, hdeadline⟩
    · have hout := hnone (.inl (List.mem_map_of_mem hold))
      rw [← har] at hout
      simp [Alarm.post, Post.timesOut] at hout
    · have htimeout := g.timeout_deal (.issue k args c)
      show g.mailbox.now + (g.deal (.issue k args c)).tracker.timeout * (0 + 1) ≤ a.deadline
      rw [htimeout, hdeadline, Nat.zero_add, Nat.mul_one]
      exact Nat.le_refl _

end Gateway

/-! ### Answers and refusals in the stream -/

namespace Call

variable {k : CallKind} {c : Call κ} {n : Nat}

/-- What was said to other calls does not count. -/
theorem Undecided.of_answers {rs rs' : List Reply} (h : c.Undecided k rs)
    (hrs : ∀ q ∈ rs', q.Answers k c → q ∈ rs) : c.Undecided k rs' := by
  obtain ⟨shape, hshape, hun⟩ := h.unconfirmed
  refine ⟨fun ⟨q, hq, ha, hs⟩ => h.not_denied ⟨q, hrs q hq ha, ha, hs⟩, shape, hshape, ?_⟩
  exact fun ⟨q, hq, ha, hs⟩ => hun ⟨q, hrs q hq ha, ha, hs⟩

/-- The replies report success to the call in every shape its kind asks for, and never failure. -/
structure Granted (k : CallKind) (c : Call κ) (rs : List Reply) : Prop where
  not_denied : ¬ c.Denied k rs
  confirmed : ∀ shape ∈ k.shapes, c.Confirmed k rs shape

/-- A service that repeats the arguments, the hardware ids in whatever order, grants the call. -/
theorem granted_success (k : CallKind) (c : Call κ) {dhids : List Dhid} (hd : dhids ~ c.args.dhids) :
    c.Granted k (ServiceCall.success ⟨k, c.request, ⟨c.args.src, c.args.sink, dhids⟩⟩) := by
  have hrepeats (shape : PartShape) : Reply.Answers
      (ServiceCall.reply ⟨k, c.request, ⟨c.args.src, c.args.sink, dhids⟩⟩
        (ServiceCall.echo ⟨k, c.request, ⟨c.args.src, c.args.sink, dhids⟩⟩ shape) 0) k c := by
    refine ⟨rfl, rfl, ?_⟩
    cases shape
    · exact ⟨rfl, rfl⟩
    · exact hd
  refine ⟨fun ⟨q, hq, _, hs⟩ => ?_, fun shape hshape => ?_⟩
  · obtain ⟨shape, -, rfl⟩ := List.mem_map.mp hq
    exact hs rfl
  · refine ⟨_, List.mem_map_of_mem hshape, hrepeats shape, rfl, ?_⟩
    cases shape <;> rfl

/-- Of posts that leave the call open, what follows closes it as succeeded if it grants the call, is
no refusal, and does not run out its time. -/
theorem LeftOpen.exists_succeeds {heard ps : List Post} (h : c.LeftOpen k n heard)
    (hg : c.Granted k (ps.filterMap Post.reply?)) (hf : .issueFailed k c.request ∉ ps)
    (ht : (heard ++ ps).count (.timerFired k c.request) ≤ n) :
    ∃ before p after, ps = before ++ p :: after ∧ c.LeftOpen k n (heard ++ before) ∧
      c.Closes k n (heard ++ before) p .succeeded := by
  have hclosed : ¬ c.LeftOpen k n (heard ++ ps) := fun hopen => by
    obtain ⟨shape, hshape, hun⟩ := hopen.undecided.unconfirmed
    rw [List.filterMap_append] at hun
    exact hun ((hg.confirmed shape hshape).mono (List.subset_append_right _ _))
  obtain ⟨before, p, after, o, rfl, hopen, hcloses⟩ := h.exists_closes hclosed
  refine ⟨before, p, after, rfl, hopen, ?_⟩
  cases hcloses with
  | answered q o hd =>
    cases hd with
    | succeeded hr hs hall => exact .answered q _ (.succeeded hr hs hall)
    | rejected hr hs =>
      refine absurd ⟨q, ?_, hr, hs⟩ hg.not_denied
      exact List.mem_filterMap.mpr ⟨_, List.mem_append_right _ List.mem_cons_self, rfl⟩
  | refused => exact absurd (List.mem_append_right _ List.mem_cons_self) hf
  | expired hn =>
    rw [← List.append_assoc, List.count_append, hn, List.count_cons_self] at ht
    omega

end Call

namespace Exchange

variable {e : Exchange κ} {k : CallKind} {args : CallArgs} {completion : κ}

/-- What was queued when the call was issued is not about it, if it was not about calls that were
not made. -/
theorem queue_past (h : e.Sound)
    (hq : ∀ q, .reply q ∈ e.gateway.mailbox.queue → q.request.number ≤ e.gateway.tracker.issued) :
    ∀ p ∈ e.gateway.mailbox.queue, p.request? ≠ some ⟨e.gateway.tracker.issued + 1⟩ := by
  intro p hp hr
  have hpast := (h.dated.mailbox.queue p hp).past (fun q hpq => hq q (hpq ▸ hp)) _ hr
  exact Nat.not_succ_le_self _ hpast

/-- Posts that came before the call was issued, or with it and before its replies, leave it open. -/
theorem leftOpen_of_past {ps : List Post} {rs : List Reply} {c : Call κ} {n : Nat}
    (hps : ∀ p ∈ ps, p.request? ≠ some c.request ∨ ∃ r, p = .superseded r)
    (hu : c.Undecided k rs) : c.LeftOpen k n (ps ++ rs.map .reply) := by
  have hall : ∀ p ∈ ps ++ rs.map .reply, p.request? = some c.request →
      (∃ r, p = .superseded r) ∨ ∃ q ∈ rs, p = .reply q := by
    intro p hp hr
    rcases List.mem_append.mp hp with hp | hp
    · exact .inl ((hps p hp).resolve_left (not_not_intro hr))
    · obtain ⟨q, hq, rfl⟩ := List.mem_map.mp hp
      exact .inr ⟨q, hq, rfl⟩
  refine ⟨hu.of_answers fun q hq ha => ?_, fun hmem => ?_, ?_⟩
  · obtain ⟨p, hp, hpq⟩ := List.mem_filterMap.mp hq
    cases p with
    | reply q' =>
      cases hpq
      rcases hall _ hp (congrArg some ha.request) with ⟨_, he⟩ | ⟨q', hq', he⟩ <;> cases he
      exact hq'
    | issueFailed | timerFired | superseded | relay => cases hpq
  · rcases hall _ hmem rfl with ⟨_, he⟩ | ⟨_, -, he⟩ <;> cases he
  · rw [List.count_eq_zero.mpr]
    · exact Nat.zero_le n
    · intro hmem
      rcases hall _ hmem rfl with ⟨_, he⟩ | ⟨_, -, he⟩ <;> cases he

theorem paced_run {start : Nat} {r : RequestId} (ds : List (Dealing κ)) : ∀ {e : Exchange κ} {n : Nat},
    e.Sound → r.number ≤ e.gateway.tracker.issued → e.gateway.Paced start r n →
      ∃ new, (e.run ds).posted = e.posted ++ new ∧
        (e.run ds).gateway.Paced start r (n + new.countP (Post.timesOut r)) := by
  induction ds with
  | nil => exact fun {e n} _ _ hp => ⟨[], (List.append_nil e.posted).symm, hp⟩
  | cons d ds ih =>
    intro e n h hr hp
    have hnext := Gateway.paced_deal h.regular.timed hr hp d
    rw [← gateway_step] at hnext
    obtain ⟨new, hposted, hlast⟩ :=
      ih (sound_step h d) (Nat.le_trans hr (e.issued_step d h)) hnext
    refine ⟨d.posts e.gateway ++ new, ?_, ?_⟩
    · rw [run_cons, hposted, posted_step h, List.append_assoc]
    · rw [List.countP_append, ← Nat.add_assoc]
      exact hlast

/-- Before its time is over, no more timers of a call have been posted than it has retries. -/
theorem timers_in_time (h : e.Sound) (later : List (Dealing κ)) {new : List Post} :
    let d := (e.step (.issue k args completion)).run later
    d.gateway.mailbox.now < e.gateway.mailbox.now +
        e.gateway.tracker.timeout * (e.gateway.tracker.retries + 1) →
      d.posted = e.posted ++ new →
        new.count (.timerFired k ⟨e.gateway.tracker.issued + 1⟩) ≤ e.gateway.tracker.retries := by
  intro d hnow hnew
  have hb := sound_step h (.issue k args completion)
  have hr : e.gateway.tracker.issued + 1 ≤
      (e.step (.issue k args completion)).gateway.tracker.issued :=
    Nat.le_of_eq (e.gateway.tracker.issued_register k args completion).symm
  obtain ⟨rest, hrest, hpaced⟩ := paced_run (r := ⟨e.gateway.tracker.issued + 1⟩) later hb hr
    (Gateway.paced_issue h.regular.timed k args completion)
  have htimeout : d.gateway.tracker.timeout = e.gateway.tracker.timeout :=
    ((settings_run later _).1).trans (e.settings_step _).1
  -- what was posted with the call is no timer
  rw [posted_step h, List.append_assoc] at hrest
  obtain rfl := List.append_cancel_left (hnew.symm.trans hrest)
  have hall : ((Dealing.issue k args completion).posts e.gateway ++ rest).count
      (.timerFired k ⟨e.gateway.tracker.issued + 1⟩) ≤
        rest.countP (Post.timesOut ⟨e.gateway.tracker.issued + 1⟩) := by
    have hnone := Gateway.timers_posts e.gateway ⟨e.gateway.tracker.issued + 1⟩
      (d := .issue k args completion) (fun _ => nofun)
    calc _ ≤ ((Dealing.issue k args completion).posts e.gateway ++ rest).countP
          (Post.timesOut ⟨e.gateway.tracker.issued + 1⟩) :=
          List.countP_mono_left fun p _ hp => by
            rw [beq_iff_eq] at hp
            simp [hp, Post.timesOut]
      _ = _ := by rw [List.countP_append, hnone, Nat.zero_add]
  refine Nat.le_trans hall (Nat.le_of_not_lt fun hlt => ?_)
  have hlate := hpaced.posted (by omega)
  rw [htimeout, Nat.zero_add] at hlate
  have hmul := Nat.mul_le_mul_left e.gateway.tracker.timeout hlt
  exact Nat.not_lt_of_le (Nat.le_trans (Nat.add_le_add_left hmul _) hlate) hnow

/-- What was posted has been taken, if as many posts have been. -/
theorem prefix_taken {ps : List Post} (hp : ps <+: e.posted) (hlen : ps.length ≤ e.taken.length) :
    ps <+: e.taken :=
  List.prefix_of_prefix_length_le hp (List.prefix_append _ _) hlen

/-- A refused call that none of the replies before its refusal has decided ends as rejected. -/
theorem rejected_of_refusal (h : e.Sound)
    (hq : ∀ q, .reply q ∈ e.gateway.mailbox.queue → q.request.number ≤ e.gateway.tracker.issued)
    (later : List (Dealing κ)) :
    let c : Call κ := ⟨⟨e.gateway.tracker.issued + 1⟩, args, completion⟩
    let b := e.step (.issue k args completion)
    let d := b.run later
    let reaction := e.gateway.service.react ⟨k, c.request, args⟩
    ¬ d.audit.Withdrawn ⟨k, c.request, completion⟩ → reaction.refuses = true →
      c.Undecided k reaction.replies → b.posted.length ≤ d.taken.length →
        d.ended.filter (fun x => x.request == c.request) =
          [⟨k, c.request, .rejected, completion⟩] := by
  intro c b d reaction hleft hrefuses hu hdrained
  have hb := sound_step h (.issue k args completion)
  obtain ⟨more, hmore⟩ := prefix_taken (e := d) (posted_run later hb) hdrained
  have hposts : (Dealing.issue k args completion).posts e.gateway = e.gateway.tracker.supersedes k ++
      (reaction.replies.map .reply ++ [.issueFailed k c.request]) := by
    rw [Dealing.posts, Reaction.posts]
    show _ ++ (_ ++ if reaction.refuses = true then _ else _) = _
    rw [if_pos hrefuses]
    rfl
  rw [posted_step h, posted, hposts] at hmore
  have htaken : d.taken = e.taken ++ (e.gateway.mailbox.queue ++ e.gateway.tracker.supersedes k ++
      reaction.replies.map .reply ++ .issueFailed k c.request :: more) := by
    rw [← hmore]
    simp only [List.append_assoc, List.cons_append, List.nil_append]
  refine ended_of_closes h k args completion later hleft htaken ?_ .refused
  refine leftOpen_of_past (fun p hp => ?_) hu
  rcases List.mem_append.mp hp with hp | hp
  · exact .inl (queue_past h hq p hp)
  · obtain ⟨r, -, rfl⟩ := List.mem_map.mp hp
    exact .inr ⟨_, rfl⟩

/-- A call that is granted, before anything else was answered to it, ends as succeeded. -/
theorem succeeded_of_granted (h : e.Sound)
    (hq : ∀ q, .reply q ∈ e.gateway.mailbox.queue → q.request.number ≤ e.gateway.tracker.issued)
    (later : List (Dealing κ)) {before answer after : List Post} :
    let c : Call κ := ⟨⟨e.gateway.tracker.issued + 1⟩, args, completion⟩
    let d := (e.step (.issue k args completion)).run later
    ¬ d.audit.Withdrawn ⟨k, c.request, completion⟩ →
      d.posted = e.posted ++ (before ++ answer ++ after) →
      (∀ q ∈ before.filterMap Post.reply?, ¬ q.Answers k c) → c.Granted k (answer.filterMap Post.reply?) →
      .issueFailed k c.request ∉ before ++ answer →
      (before ++ answer).count (.timerFired k c.request) ≤ e.gateway.tracker.retries →
      (e.posted ++ (before ++ answer)).length ≤ d.taken.length →
        d.ended.filter (fun x => x.request == c.request) =
          [⟨k, c.request, .succeeded, completion⟩] := by
  intro c d hleft hposted hfirst hgranted hfailed htimers hdrained
  obtain ⟨more, hmore⟩ := prefix_taken (e := d) ⟨after, by rw [hposted, List.append_assoc]⟩ hdrained
  have hpast := queue_past h hq
  have hqueue : e.gateway.mailbox.queue.count (.timerFired k c.request) = 0 :=
    List.count_eq_zero.mpr fun hmem => hpast _ hmem rfl
  have hsum : (before ++ answer).count (.timerFired k c.request) =
      before.count (.timerFired k c.request) + answer.count (.timerFired k c.request) :=
    List.count_append
  have hopen : c.LeftOpen k e.gateway.tracker.retries (e.gateway.mailbox.queue ++ before) := by
    refine ⟨(Call.undecided_nil k c).of_answers fun q hmem ha => ?_, fun hmem => ?_, ?_⟩
    · obtain ⟨p, hp, hpq⟩ := List.mem_filterMap.mp hmem
      cases p with
      | reply q' =>
        cases hpq
        rcases List.mem_append.mp hp with hp | hp
        · exact absurd (congrArg some ha.request) (hpast _ hp)
        · exact absurd ha (hfirst q (List.mem_filterMap.mpr ⟨_, hp, rfl⟩))
      | issueFailed | timerFired | superseded | relay => cases hpq
    · rcases List.mem_append.mp hmem with hp | hp
      · exact hpast _ hp rfl
      · exact hfailed (List.mem_append_left _ hp)
    · rw [List.count_append, hqueue]
      omega
  obtain ⟨first, p, rest, rfl, hopen', hcloses⟩ := hopen.exists_succeeds hgranted
    (fun hmem => hfailed (List.mem_append_right _ hmem)) (by
      rw [List.append_assoc, List.count_append, hqueue]
      omega)
  have htaken : d.taken = e.taken ++
      (e.gateway.mailbox.queue ++ before ++ first ++ p :: (rest ++ more)) := by
    rw [← hmore, posted]
    simp only [List.append_assoc, List.cons_append]
  exact ended_of_closes h k args completion later hleft htaken hopen' hcloses

/-- **A call is pending when it has been issued, and is heard out.** Take a gateway after any run, a
call with any arguments, and a service that does anything at once, on condition that the replies
that are queued name calls that were made. When it has been issued, the call is pending with the
arguments that the service was given, nothing has ended, and the other kinds are as they were; the
call of its kind that was pending is superseded, and its post comes in the queue before all that
comes of the new call, of which nothing was queued before.

Take any run since in which the call was not withdrawn. If the service refused it, and the replies
before the refusal have not decided it, then it has ended once, as rejected, when what was posted
with it has been taken. If it was granted, before anything else was answered to it, without a
refusal, and before more of its timers were posted than it has retries, as is so up to the end of
its last wait, then it has ended once, as succeeded, when the grant has been taken. A service that
repeats the arguments in success, the hardware ids in any order, grants the call. -/
theorem issued_call_is_heard_out (timeout retries : Nat) (earlier : List (Dealing κ)) (k : CallKind)
    (args : CallArgs) (completion : κ) :
    let e := (empty timeout retries : Exchange κ).run earlier
    let g := e.gateway
    let c : Call κ := ⟨⟨g.tracker.issued + 1⟩, args, completion⟩
    let reaction := g.service.react ⟨k, c.request, args⟩
    let b := e.step (.issue k args completion)
    (∀ q ∈ g.mailbox.queue.filterMap Post.reply?, q.request.number ≤ g.tracker.issued) →
      (g.issue k args completion).1 = c.request ∧
      b.gateway.tracker.pending? k =
        some ⟨c.request, args, retries, g.mailbox.nextSerial, k.shapes, completion⟩ ∧
      (∀ j, k ≠ j → b.gateway.tracker.pending? j = g.tracker.pending? j) ∧
      b.gateway.service.calls =
        g.service.calls ++ (if reaction.refuses then [] else [⟨k, c.request, args⟩]) ∧
      b.gateway.tracker.openTickets ~ ⟨k, c.request, completion⟩ :: g.tracker.openTickets ∧
      b.gateway.tracker.superseded =
        g.tracker.superseded ++ Tracker.replacedBy k (g.tracker.calls.get k) ∧
      b.gateway.mailbox.queue = g.mailbox.queue ++ ((Tracker.replacedBy k (g.tracker.calls.get k)).map
        (fun r => .superseded r.request) ++ reaction.posts ⟨k, c.request, args⟩) ∧
      (∀ p ∈ g.mailbox.queue, p.request? ≠ some c.request) ∧
      (∀ later,
        let d := b.run later
        b.posted <+: d.posted ∧
        (d.gateway.mailbox.now < g.mailbox.now + timeout * (retries + 1) → ∀ new,
          d.posted = e.posted ++ new → new.count (.timerFired k c.request) ≤ retries) ∧
        (¬ d.audit.Withdrawn ⟨k, c.request, completion⟩ →
          (reaction.refuses = true → c.Undecided k reaction.replies →
            b.posted.length ≤ d.taken.length →
              d.ended.filter (fun x => x.request == c.request) =
                [⟨k, c.request, .rejected, completion⟩]) ∧
          ∀ before answer after, d.posted = e.posted ++ (before ++ answer ++ after) →
            (∀ q ∈ before.filterMap Post.reply?, ¬ q.Answers k c) →
            c.Granted k (answer.filterMap Post.reply?) →
            .issueFailed k c.request ∉ before ++ answer →
            (before ++ answer).count (.timerFired k c.request) ≤ retries →
            (e.posted ++ (before ++ answer)).length ≤ d.taken.length →
              d.ended.filter (fun x => x.request == c.request) =
                [⟨k, c.request, .succeeded, completion⟩])) ∧
      ∀ dhids, dhids ~ args.dhids →
        c.Granted k (ServiceCall.success ⟨k, c.request, ⟨args.src, args.sink, dhids⟩⟩) := by
  intro e g c reaction b hqueued
  have hq : ∀ q, .reply q ∈ g.mailbox.queue → q.request.number ≤ g.tracker.issued :=
    fun q hmem => hqueued q (List.mem_filterMap.mpr ⟨_, hmem, rfl⟩)
  have h : e.Sound := sound_run (sound_empty timeout retries) earlier
  obtain ⟨htimeout, hretries⟩ : g.tracker.timeout = timeout ∧ g.tracker.retries = retries :=
    settings_run earlier _
  have hqueue : b.gateway.mailbox.queue = g.mailbox.queue ++ (Dealing.issue k args completion).posts g :=
    Gateway.queue_deal h.regular.timed (.issue k args completion)
  refine ⟨rfl, ?_, fun j hj => Tracker.pending?_register g.tracker args completion hj, ?_,
    g.tracker.openTickets_register k args completion, g.superseded_issue k args completion, hqueue,
    queue_past h hq, fun later => ⟨posted_run later (sound_step h _), ?_, fun hleft => ⟨?_, ?_⟩⟩,
    fun dhids hd => Call.granted_success k c hd⟩
  · rw [← hretries]
    exact g.tracker.pending?_register_self k args completion
  · show (g.service.take _).calls = _
    unfold InputService.take
    show (if reaction.refuses = true then _ else _ : InputService).calls = _
    split
    · exact (List.append_nil _).symm
    · rfl
  · intro hnow new hnew
    rw [← htimeout, ← hretries] at hnow
    exact hretries ▸ timers_in_time h later hnow hnew
  · exact rejected_of_refusal h hq later hleft
  · intro before answer after hposted hfirst hgranted hfailed htimers hdrained
    exact succeeded_of_granted h hq later hleft hposted hfirst hgranted hfailed
      (hretries.symm ▸ htimers) hdrained

/-- A start that supersedes another is refused, after a reply with other arguments; a preparing that
nobody answered in its first wait is granted in its second. -/
theorem refused_and_granted :
    let refusing : Reaction := ⟨[⟨.start, ⟨2⟩, .pair ⟨"a"⟩ ⟨"b"⟩, -1⟩], true⟩
    let e := (empty 10 1 : Exchange Nat).run
      [.issue .start ⟨⟨"a"⟩, ⟨"b"⟩, [⟨"x"⟩]⟩ 1, .mood .start (.own refusing)]
    let d := (e.step (.issue .start ⟨⟨"a"⟩, ⟨"c"⟩, [⟨"x"⟩]⟩ 2)).run (List.replicate 5 .take)
    let e' := (empty 10 1 : Exchange Nat).run [.mood .prepare .silent]
    let d' := (e'.step (.issue .prepare ⟨⟨"a"⟩, ⟨"b"⟩, []⟩ 1)).run
      [.clock 10, .ring [], .clock 15, .answer ⟨.prepare, ⟨1⟩, .pair ⟨"a"⟩ ⟨"b"⟩, 0⟩, .take, .take]
    d.ended.filter (fun x => x.request == ⟨2⟩) = [⟨.start, ⟨2⟩, .rejected, 2⟩] ∧
      d'.ended.filter (fun x => x.request == ⟨1⟩) = [⟨.prepare, ⟨1⟩, .succeeded, 1⟩] := by
  intro refusing e d e' d'
  obtain ⟨-, -, -, -, -, -, -, -, hruns, -⟩ := issued_call_is_heard_out 10 1
    [.issue .start ⟨⟨"a"⟩, ⟨"b"⟩, [⟨"x"⟩]⟩ 1, .mood .start (.own refusing)] .start
    ⟨⟨"a"⟩, ⟨"c"⟩, [⟨"x"⟩]⟩ 2 (by decide)
  obtain ⟨-, -, -, -, -, -, -, -, hruns', hgranted⟩ := issued_call_is_heard_out 10 1
    [.mood .prepare .silent] .prepare ⟨⟨"a"⟩, ⟨"b"⟩, []⟩ 1 (by decide)
  constructor
  · obtain ⟨-, -, hends⟩ := hruns (List.replicate 5 .take)
    refine (hends ?_).1 rfl ?_ (by decide)
    · show ¬ (_ ∨ _ ∨ _)
      decide
    · refine (Call.undecided_nil _ _).of_answers fun q hq ha => ?_
      obtain rfl := List.mem_singleton.mp hq
      exact absurd ha.repeats (by decide)
  · obtain ⟨-, -, hends⟩ := hruns' [.clock 10, .ring [], .clock 15,
      .answer ⟨.prepare, ⟨1⟩, .pair ⟨"a"⟩ ⟨"b"⟩, 0⟩, .take, .take]
    refine (hends ?_).2 [.timerFired .prepare ⟨1⟩] [.reply ⟨.prepare, ⟨1⟩, .pair ⟨"a"⟩ ⟨"b"⟩, 0⟩] []
      (by decide) nofun (hgranted [] (.refl _)) (by decide) (by decide) (by decide)
    show ¬ (_ ∨ _ ∨ _)
    decide

end Exchange

end PointerShare
