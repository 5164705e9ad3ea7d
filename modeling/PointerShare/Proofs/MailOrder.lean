/-
# The mailbox of a station, in order

Posts come out of the mailbox in the order in which they went in: whatever
happens, the queue grows at its end, and loses its head when a post is taken.
And a post that does not come from outside, a reply or relayed input, is about a
call that was made: its number is one that was given out. The same is true of
the alarms that are set, which become posts.

Key definitions: `Post.Dated`, `Mailbox.Dated`, `Tracker.Dated`.
Key theorems: `Station.queue_step`, `Station.queue_take`, `Station.dated_run`.
-/
import PointerShare.Proofs.Draining
import PointerShare.Proofs.Footprint

namespace PointerShare

/-- The post is about a call with a number up to `n`, unless it comes from outside. -/
def Post.Dated (n : Nat) : Post → Prop
  | .issueFailed _ r | .timerFired _ r | .superseded r => r.number ≤ n
  | .reply _ | .relay _ => True

theorem Post.Dated.mono {n n' : Nat} (hn : n ≤ n') {p : Post} (h : p.Dated n) : p.Dated n' := by
  cases p with
  | reply | relay => trivial
  | issueFailed _ r => exact Nat.le_trans h hn
  | timerFired _ r => exact Nat.le_trans h hn
  | superseded r => exact Nat.le_trans h hn

/-! ### The mailbox -/

namespace Mailbox

/-- What is queued or will be, because an alarm is set, is about calls with numbers up to `n`. -/
structure Dated (m : Mailbox) (n : Nat) : Prop where
  queue : ∀ p ∈ m.queue, p.Dated n
  alarms : ∀ a ∈ m.alarms, a.request.number ≤ n

theorem queue_post (m : Mailbox) (p : Post) : m.queue <+: (m.post p).queue := by
  unfold post
  split
  · exact List.prefix_append _ _
  · exact List.prefix_rfl

theorem queue_postAll (ps : List Post) : ∀ m : Mailbox, m.queue <+: (m.postAll ps).queue := by
  induction ps with
  | nil => exact fun _ => List.prefix_rfl
  | cons p ps ih => exact fun m => (m.queue_post p).trans (ih (m.post p))

theorem queue_ring (m : Mailbox) : m.queue <+: m.ring.queue :=
  queue_postAll _ { m with alarms := m.alarms.filter fun a => !(a.deadline ≤ m.now) }

theorem queue_advanceTo (m : Mailbox) (t : Nat) : m.queue <+: (m.advanceTo t).queue :=
  advanceTo_induction (P := fun m' => m.queue <+: m'.queue) (Q := fun m' => m.queue <+: m'.queue)
    (fun {m' a} h _ _ _ => h.trans (queue_ring (m'.setClock a.deadline))) (fun h _ => h)
    List.prefix_rfl

namespace Dated

variable {m : Mailbox} {n : Nat} (h : m.Dated n)
include h

theorem mono {n' : Nat} (hn : n ≤ n') : m.Dated n' :=
  ⟨fun p hp => (h.queue p hp).mono hn, fun a ha => Nat.le_trans (h.alarms a ha) hn⟩

theorem post {p : Post} (hp : p.Dated n) : (m.post p).Dated n := by
  unfold Mailbox.post
  split
  · refine ⟨fun q hq => ?_, h.alarms⟩
    rcases List.mem_append.mp hq with hq | hq
    · exact h.queue q hq
    · rw [List.mem_singleton.mp hq]
      exact hp
  · exact h

theorem setAlarm (delay : Nat) (k : CallKind) {r : RequestId} (hr : r.number ≤ n) :
    (m.setAlarm delay k r).Dated n := by
  refine ⟨h.queue, fun a ha => ?_⟩
  rcases List.mem_append.mp ha with ha | ha
  · exact h.alarms a ha
  · rw [List.mem_singleton.mp ha]
    exact hr

theorem dropAlarm (serial : Nat) : (m.dropAlarm serial).Dated n :=
  ⟨h.queue, fun a ha => h.alarms a (List.mem_filter.mp ha).1⟩

omit h in
theorem postAll {ps : List Post} (hps : ∀ p ∈ ps, p.Dated n) :
    ∀ {m : Mailbox}, m.Dated n → (m.postAll ps).Dated n := by
  induction ps with
  | nil => exact id
  | cons p ps ih =>
    obtain ⟨hp, hps⟩ := List.forall_mem_cons.mp hps
    exact fun h => ih hps (h.post hp)

theorem ring : m.ring.Dated n := by
  refine postAll (fun p hp => ?_) ⟨h.queue, fun a ha => h.alarms a (List.mem_filter.mp ha).1⟩
  obtain ⟨a, ha, rfl⟩ := List.mem_map.mp hp
  exact h.alarms a (List.mem_filter.mp ha).1

theorem advanceTo (t : Nat) : (m.advanceTo t).Dated n :=
  advanceTo_induction (P := fun m => m.Dated n) (Q := fun m => m.Dated n)
    (fun {m a} h _ _ _ =>
      have hclock : (m.setClock a.deadline).Dated n := ⟨h.queue, h.alarms⟩
      hclock.ring)
    (fun h _ => ⟨h.queue, h.alarms⟩) h

end Dated

end Mailbox

/-! ### The tracker -/

namespace Tracker

variable {κ : Type}

/-- What is queued, set or pending is about calls whose numbers were given out. -/
structure Dated (t : Tracker κ) : Prop where
  mailbox : t.mailbox.Dated t.issued
  pending : ∀ k c, t.calls.get k = some c → c.request.number ≤ t.issued

variable {t : Tracker κ}

theorem queue_supersede (t : Tracker κ) (k : CallKind) :
    t.mailbox.queue <+: (t.supersede k).mailbox.queue := by
  unfold supersede
  split
  · exact List.prefix_rfl
  · exact Mailbox.queue_post (t.mailbox.dropAlarm _) _

theorem queue_register (t : Tracker κ) (k : CallKind) (args : CallArgs) (c : κ) :
    t.mailbox.queue <+: (t.register k args c).2.mailbox.queue :=
  queue_supersede { t with
    issued := t.issued + 1
    mailbox := t.mailbox.setAlarm t.timeout k ⟨t.issued + 1⟩ } k

/-- Applying a post posts nothing. -/
theorem queue_apply (t : Tracker κ) (p : Post) :
    (t.apply p).2.mailbox.queue = t.mailbox.queue := by
  cases p with
  | reply r =>
    show (t.onReply r).2.mailbox.queue = _
    unfold onReply
    split
    · rfl
    split
    · rfl
    split
    · exact t.queue_resolve _ _
    split
    · rfl
    dsimp only
    split
    · exact queue_resolve _ _ _
    · rfl
  | timerFired k r =>
    show (t.onTimer k r).2.mailbox.queue = _
    unfold onTimer
    split
    · rfl
    split
    · exact t.queue_resolve _ _
    · rfl
  | issueFailed k r =>
    show (t.onIssueFailed k r).2.mailbox.queue = _
    unfold onIssueFailed
    split
    · rfl
    · exact t.queue_resolve _ _
  | superseded r =>
    show (t.takeSuperseded r).2.mailbox.queue = _
    unfold takeSuperseded
    split <;> rfl
  | relay e => rfl

theorem dated_resolve {n : Nat} (h : t.mailbox.Dated n) (k : CallKind) (o : Outcome) :
    (t.resolve k o).2.mailbox.Dated n := by
  unfold resolve
  split
  · exact h
  · exact h.dropAlarm _

theorem dated_atRest {m : Mailbox} {n : Nat} (ps : List (Option (Pending κ))) (h : m.Dated n) :
    (ps.foldl (fun m p => match p with
      | none => m
      | some p => m.dropAlarm p.alarm) m).Dated n := by
  induction ps generalizing m with
  | nil => exact h
  | cons p ps ih =>
    cases p with
    | none => exact ih h
    | some p => exact ih (h.dropAlarm _)

theorem queue_atRest (ps : List (Option (Pending κ))) : ∀ m : Mailbox,
    (ps.foldl (fun m p => match p with
      | none => m
      | some p => m.dropAlarm p.alarm) m).queue = m.queue := by
  induction ps with
  | nil => exact fun _ => rfl
  | cons p ps ih =>
    intro m
    cases p with
    | none => exact ih m
    | some p => exact ih (m.dropAlarm p.alarm)

namespace Dated

variable (h : t.Dated)
include h

theorem supersede (k : CallKind) : (t.supersede k).Dated := by
  refine ⟨?_, fun j c hc => ?_⟩
  · rw [issued_supersede]
    unfold Tracker.supersede
    cases hp : t.pending? k with
    | none => exact h.mailbox
    | some old =>
      refine (h.mailbox.dropAlarm old.alarm).post (h.pending k (callOf old) ?_)
      rw [get_calls, hp]
      rfl
  · rw [calls_supersede, PerKind.get_set] at hc
    rw [issued_supersede]
    split at hc
    · cases hc
    · exact h.pending j c hc

theorem register (k : CallKind) (args : CallArgs) (c : κ) : (t.register k args c).2.Dated := by
  have hnext : { t with
      issued := t.issued + 1
      mailbox := t.mailbox.setAlarm t.timeout k ⟨t.issued + 1⟩ }.Dated :=
    ⟨(h.mailbox.mono (Nat.le_succ _)).setAlarm _ _ (Nat.le_refl _),
      fun j c hc => Nat.le_succ_of_le (h.pending j c hc)⟩
  refine ⟨(hnext.supersede k).mailbox, fun j c' hc => ?_⟩
  rw [calls_register, PerKind.get_set] at hc
  rw [issued_register]
  split at hc
  · cases hc
    exact Nat.le_refl _
  · exact Nat.le_succ_of_le (h.pending j c' hc)

theorem cancelAll : t.cancelAll.2.Dated := by
  refine ⟨dated_atRest _ h.mailbox, fun k c hc => ?_⟩
  have hnone : t.cancelAll.2.calls.get k = none := by cases k <;> rfl
  rw [hnone] at hc
  cases hc

theorem mailbox_apply (p : Post) : (t.apply p).2.mailbox.Dated t.issued := by
  cases p with
  | reply r =>
    show (t.onReply r).2.mailbox.Dated _
    unfold onReply
    split
    · exact h.mailbox
    split
    · exact h.mailbox
    split
    · exact dated_resolve h.mailbox _ _
    split
    · exact h.mailbox
    dsimp only
    split
    · refine dated_resolve ?_ _ _
      exact h.mailbox
    · exact h.mailbox
  | timerFired k r =>
    show (t.onTimer k r).2.mailbox.Dated _
    unfold onTimer
    split
    · exact h.mailbox
    rename_i q hcur
    obtain ⟨hq, hr⟩ := pending?_of_current? hcur
    split
    · exact dated_resolve h.mailbox _ _
    · -- the alarm is set again, for a call that is pending
      refine h.mailbox.setAlarm _ _ ?_
      have hnumber := h.pending k (callOf q) (by rw [get_calls, hq]; rfl)
      rwa [← hr]
  | issueFailed k r =>
    show (t.onIssueFailed k r).2.mailbox.Dated _
    unfold onIssueFailed
    split
    · exact h.mailbox
    · exact dated_resolve h.mailbox _ _
  | superseded r =>
    show (t.takeSuperseded r).2.mailbox.Dated _
    unfold takeSuperseded
    split <;> exact h.mailbox
  | relay e => exact h.mailbox

theorem apply (p : Post) : (t.apply p).2.Dated := by
  have hmailbox := h.mailbox_apply p
  have happ := t.applied p
  generalize t.apply p = r at hmailbox happ
  obtain ⟨o, t'⟩ := r
  dsimp only at hmailbox happ ⊢
  cases happ with
  | nothing _ hc _ hi => exact ⟨hi ▸ hmailbox, fun k c hk => hi ▸ h.pending k c (hc ▸ hk)⟩
  | superseded _ _ _ hc _ hi => exact ⟨hi ▸ hmailbox, fun k c hk => hi ▸ h.pending k c (hc ▸ hk)⟩
  | pending k x _ _ _ _ hc _ hi =>
    refine ⟨hi ▸ hmailbox, fun j c hj => ?_⟩
    rw [hc, PerKind.get_set] at hj
    split at hj
    · cases hj
    · exact hi ▸ h.pending j c hj

end Dated

end Tracker

/-! ### The gateway -/

namespace Gateway

variable {κ : Type} {g g' : Gateway κ}

theorem queue_issue (g : Gateway κ) (k : CallKind) (args : CallArgs) (c : κ) :
    g.mailbox.queue <+: (g.issue k args c).2.mailbox.queue :=
  (g.tracker.queue_register k args c).trans (Mailbox.queue_postAll _ _)

theorem Uses.queue (h : g.Uses g') : g.mailbox.queue <+: g'.mailbox.queue := by
  induction h with
  | nothing => exact List.prefix_rfl
  | issues _ k args c ih => exact ih.trans (queue_issue _ k args c)
  | cancels _ ih =>
    refine ih.trans ?_
    rw [← Tracker.queue_atRest _ (Gateway.mailbox _)]
    exact List.prefix_rfl
  | subscribes _ ih =>
    unfold mailbox at ih ⊢
    rwa [tracker_subscribe]
  | unsubscribes _ ih =>
    unfold mailbox at ih ⊢
    rwa [tracker_unsubscribe]

theorem dated_issue (h : g.tracker.Dated) (k : CallKind) (args : CallArgs) (c : κ) :
    (g.issue k args c).2.tracker.Dated := by
  have hreg := h.register k args c
  refine ⟨Mailbox.Dated.postAll (fun p hp => ?_) hreg.mailbox, hreg.pending⟩
  rcases List.mem_append.mp hp with hp | hp
  · obtain ⟨_, -, rfl⟩ := List.mem_map.mp hp
    trivial
  · split at hp
    · rw [List.mem_singleton.mp hp]
      exact Nat.le_of_eq (g.tracker.issued_register k args c).symm
    · cases hp

theorem Uses.dated (h : g.Uses g') (hd : g.tracker.Dated) : g'.tracker.Dated := by
  induction h with
  | nothing => exact hd
  | issues _ k args c ih => exact dated_issue ih k args c
  | cancels _ ih => exact ih.cancelAll
  | subscribes _ ih => rwa [tracker_subscribe]
  | unsubscribes _ ih => rwa [tracker_unsubscribe]

end Gateway

/-! ### The station -/

namespace Station

variable {s : Station}

/-- A move other than taking a post leaves the queue as it was, or posts at its end. -/
theorem queue_step {m : Move} (hm : m ≠ .take) :
    s.gateway.mailbox.queue <+: (s.step m).gateway.mailbox.queue := by
  cases m with
  | event e =>
    by_cases he : ∃ on, e = .request (.enable on)
    · obtain ⟨on, rfl⟩ := he
      exact (s.uses_enable on).queue
    · exact (s.works_handle e fun on hon => he ⟨on, hon⟩).gateway.queue
  | take => exact absurd rfl hm
  | change => exact s.works_nextChange.gateway.queue
  | happen h =>
    cases h with
    | answer r => exact Mailbox.queue_post _ _
    | relay e =>
      show _ <+: (s.gateway.emitRelay e).2.mailbox.queue
      unfold Gateway.emitRelay
      split
      · exact Mailbox.queue_post _ _
      · exact List.prefix_rfl
    | clock t => exact Mailbox.queue_advanceTo _ _
    | flip id on =>
      show _ <+: (s.flip id on).gateway.mailbox.queue
      simp only [gateway_flip, List.prefix_rfl]
    | _ => exact List.prefix_rfl

/-- Taking a post removes it, and may post at the end of the queue. -/
theorem queue_take {p : Post} {ps : List Post} (hq : s.gateway.mailbox.queue = p :: ps) :
    ps <+: (s.step .take).gateway.mailbox.queue := by
  rw [step_take_of_cons hq]
  refine List.IsPrefix.trans ?_ (works_receive _ p).gateway.queue
  show ps <+: (Tracker.apply _ p).2.mailbox.queue
  rw [Tracker.queue_apply]
  exact List.prefix_rfl

theorem dated_step (m : Move) (h : s.gateway.tracker.Dated) :
    (s.step m).gateway.tracker.Dated := by
  cases m with
  | event e =>
    by_cases he : ∃ on, e = .request (.enable on)
    · obtain ⟨on, rfl⟩ := he
      exact (s.uses_enable on).dated h
    · exact (s.works_handle e fun on hon => he ⟨on, hon⟩).gateway.dated h
  | take =>
    cases hq : s.gateway.mailbox.queue with
    | nil => rwa [step_take_of_empty hq]
    | cons p ps =>
      rw [step_take_of_cons hq]
      have hrest : (s.setMailbox { s.gateway.mailbox with queue := ps }).gateway.tracker.Dated :=
        ⟨⟨fun q hmem => h.mailbox.queue q (hq ▸ List.mem_cons_of_mem p hmem), h.mailbox.alarms⟩,
          h.pending⟩
      exact (works_receive _ p).gateway.dated (hrest.apply p)
  | change => exact s.works_nextChange.gateway.dated h
  | happen happening =>
    cases happening with
    | answer r => exact ⟨h.mailbox.post trivial, h.pending⟩
    | relay e =>
      show (s.gateway.emitRelay e).2.tracker.Dated
      unfold Gateway.emitRelay
      split
      · exact ⟨h.mailbox.post trivial, h.pending⟩
      · exact h
    | clock t => exact ⟨h.mailbox.advanceTo t, h.pending⟩
    | flip id on =>
      show (s.flip id on).gateway.tracker.Dated
      rwa [gateway_flip]
    | _ => exact h

/-- Throughout every run, what is queued or set is about calls that were made. -/
theorem dated_run (settings : Settings) (registry : Registry) (ms : List Move) :
    ((create settings registry).run ms).gateway.tracker.Dated := by
  refine run_invariant (P := fun s => s.gateway.tracker.Dated) (fun _ m => dated_step m) ms
    ⟨⟨nofun, nofun⟩, fun k c hc => ?_⟩
  have hnone : (create settings registry).gateway.tracker.calls.get k = none :=
    PerKind.get_const _ k
  rw [hnone] at hc
  cases hc

end Station

end PointerShare
