/-
# No call is stranded

Calls are registered and cancelled at will; for the rest a tracker is given
the posts of its own mailbox, oldest first. Into the mailbox come answers and
refusals as they please, or never; what the tracker posts itself; and the posts
of its alarms, which go off some time after they are due, each when it likes.
This is a run of a tracker that is fed from its own mailbox.

In every such run each pending call has one timeout (`Tracker.Timed`). If
nothing is put off, so that posts are handled and alarms go off before the
clock moves on, a call waits at most as long as its retries allow: it is handed
back by the end of that time whatever comes of the other calls and whether or
not anybody answers.

Key definitions: `Feed`, `Feed.uses`, `Audit.feed`, `Audit.follow`,
`Audit.Regular`, `Feed.Prompt`, `Tracker.EndsBy`.
Key theorems: `Audit.regular_follow`, `Audit.returned_of_prompt`,
`Audit.runs_runUpTo`, `Audit.no_call_stranded`.
-/
import PointerShare.Proofs.Timeouts
import PointerShare.Proofs.Run
import PointerShare.Station.Working

namespace PointerShare

open scoped List

variable {κ : Type}

/-- What happens to a tracker and the mailbox it owns. -/
inductive Feed (κ : Type) where
  | register (kind : CallKind) (args : CallArgs) (completion : κ)
  | cancelAll
  /-- An answer, a refusal or a relay event comes. -/
  | hear (post : Post) (fromOutside : post.isOwn = false)
  /-- The clock moves on to `now`, and no alarm has gone off yet. -/
  | clock (now : Nat)
  /-- The alarms that are due go off, but for those with the serials `late`. -/
  | ring (late : List Nat)
  /-- The oldest post is taken out and applied. -/
  | take

/-- What is done to the tracker then. -/
def Feed.uses (t : Tracker κ) : Feed κ → List (Use κ)
  | .register k args c => [.register k args c]
  | .cancelAll => [.cancelAll]
  | .hear p _ => [.mailbox (t.mailbox.post p)]
  | .clock now => [.mailbox (t.mailbox.setClock now)]
  | .ring late => [.mailbox (t.mailbox.ringBut late)]
  | .take => match t.mailbox.take? with
    | none => []
    | some (p, m) => [.mailbox m, .post p]

namespace Audit

def feed (a : Audit κ) (f : Feed κ) : Audit κ := a.run (f.uses a.tracker)

/-- The audit after a run of a tracker that is fed from its own mailbox. -/
def follow (a : Audit κ) (fs : List (Feed κ)) : Audit κ := fs.foldl feed a

/-- Taking from a mailbox in which nothing is queued. -/
theorem feed_take_of_nil {a : Audit κ} (h : a.tracker.mailbox.queue = []) : a.feed .take = a := by
  simp [feed, Feed.uses, Mailbox.take?, h, run]

theorem feed_take_of_cons {a : Audit κ} {p : Post} {ps : List Post}
    (h : a.tracker.mailbox.queue = p :: ps) :
    a.feed .take =
      (a.step (.mailbox { a.tracker.mailbox with queue := ps })).step (.post p) := by
  simp [feed, Feed.uses, Mailbox.take?, h, run]

/-! ### What holds throughout -/

/-- The books are right, and every pending call has one timeout. -/
structure Regular (a : Audit κ) : Prop where
  conserves : a.Conserves
  timed : a.tracker.Timed

theorem regular_empty (timeout retries : Nat) : (empty timeout retries : Audit κ).Regular := by
  have hnone (k : CallKind) (p : Pending κ) :
      (empty timeout retries : Audit κ).tracker.pending? k ≠ some p := by
    intro hp
    have hk : (empty timeout retries : Audit κ).tracker.pending? k = none := PerKind.get_const _ k
    rw [hk] at hp
    cases hp
  exact ⟨conserves_empty _ _, rfl, fun k p hp => absurd hp (hnone k p), nofun, nofun,
    fun k p hp => absurd hp (hnone k p), fun _ _ => ⟨rfl, nofun⟩,
    fun k p hp => absurd hp (hnone k p), fun k _ p _ hp => absurd hp (hnone k p),
    fun k p hp => absurd hp (hnone k p), nofun⟩

theorem regular_feed {a : Audit κ} (h : a.Regular) (f : Feed κ) : (a.feed f).Regular := by
  refine ⟨conserves_run h.conserves _, ?_⟩
  cases f with
  | register k args c => exact h.timed.register k args c
  | cancelAll => exact h.timed.cancelAll
  | hear p hp => exact h.timed.hear hp
  | clock now => exact h.timed.setClock now
  | ring late => exact h.timed.ringBut late
  | take =>
    cases hq : a.tracker.mailbox.queue with
    | nil =>
      rw [feed_take_of_nil hq]
      exact h.timed
    | cons p ps =>
      rw [feed_take_of_cons hq]
      exact h.timed.take hq

theorem regular_follow {a : Audit κ} (h : a.Regular) (fs : List (Feed κ)) : (a.follow fs).Regular := by
  induction fs generalizing a with
  | nil => exact h
  | cons f fs ih => exact ih (regular_feed h f)

/-- What a tracker was made with stays. -/
theorem settings_feed (a : Audit κ) (f : Feed κ) :
    (a.feed f).tracker.timeout = a.tracker.timeout ∧ (a.feed f).tracker.retries = a.tracker.retries := by
  cases f with
  | register k args c => exact Tracker.settings_supersede _ k
  | cancelAll | hear | clock | ring => exact ⟨rfl, rfl⟩
  | take =>
    cases hq : a.tracker.mailbox.queue with
    | nil =>
      rw [feed_take_of_nil hq]
      exact ⟨rfl, rfl⟩
    | cons p ps =>
      rw [feed_take_of_cons hq]
      exact (Tracker.applies { a.tracker with mailbox := { a.tracker.mailbox with queue := ps } } p).settings

theorem settings_follow (a : Audit κ) (fs : List (Feed κ)) :
    (a.follow fs).tracker.timeout = a.tracker.timeout ∧
      (a.follow fs).tracker.retries = a.tracker.retries := by
  induction fs generalizing a with
  | nil => exact ⟨rfl, rfl⟩
  | cons f fs ih =>
    obtain ⟨ht, hr⟩ := ih (a.feed f)
    obtain ⟨ht', hr'⟩ := a.settings_feed f
    exact ⟨ht.trans ht', hr.trans hr'⟩

end Audit

/-! ### How long a call can wait -/

/-- Nothing is put off: the clock does not move on while something is queued, nor past the deadline
of an alarm. And nothing is cancelled. -/
def Feed.Prompt (t : Tracker κ) : Feed κ → Prop
  | .clock now => t.mailbox.queue = [] ∧ ∀ a ∈ t.mailbox.alarms, now ≤ a.deadline
  | .cancelAll => False
  | _ => True

/-- Nothing is left to do before the clock moves on. -/
def Mailbox.Quiet (m : Mailbox) : Prop := m.queue = [] ∧ ∀ a ∈ m.alarms, m.now < a.deadline

/-- If nothing is put off, the call numbered `r` does not wait beyond `last`, with all the retries
it has left. -/
structure Tracker.EndsBy (t : Tracker κ) (last : Nat) (r : RequestId) : Prop where
  known : r.number ≤ t.issued
  alarm : ∀ k p, t.pending? k = some p → p.request = r → ∀ a ∈ t.mailbox.alarms, a.request = r →
    max t.mailbox.now a.deadline + t.timeout * p.retries ≤ last
  queued : ∀ k p, t.pending? k = some p → p.request = r → .timerFired k r ∈ t.mailbox.queue →
    t.mailbox.now + t.timeout * p.retries ≤ last

namespace Tracker

variable {t : Tracker κ} {last : Nat} {r : RequestId}

namespace Timed

/-- However long a pending call has waited, it ends in the time that a new one would take. -/
theorem endsBy (h : t.Timed) (hr : r.number ≤ t.issued) :
    t.EndsBy (t.mailbox.now + t.timeout * (t.retries + 1)) r := by
  have hretries (k : CallKind) (p : Pending κ) (hp : t.pending? k = some p) :
      t.timeout * p.retries ≤ t.timeout * t.retries :=
    Nat.mul_le_mul_left _ (h.retries k p hp)
  have hsum : t.timeout * (t.retries + 1) = t.timeout * t.retries + t.timeout := Nat.mul_succ _ _
  refine ⟨hr, fun k p hp _ a ha _ => ?_, fun k p hp _ _ => ?_⟩
  · have hdeadline := h.deadlines a ha
    have hwaits := hretries k p hp
    omega
  · have hwaits := hretries k p hp
    omega

/-- At its last moment, when nothing is left to do, the call is not pending. -/
theorem ended (h : t.Timed) (he : t.EndsBy last r) (hquiet : t.mailbox.Quiet)
    (hnow : last ≤ t.mailbox.now) {k : CallKind} {p : Pending κ} (hp : t.pending? k = some p) :
    p.request ≠ r := by
  intro hr
  obtain ⟨hqueue, hdue⟩ := hquiet
  rcases h.armed_or_fired hp with ⟨a, ha, hrequest⟩ | hqueued
  · have hlast := he.alarm k p hp hr a ha (hrequest.trans hr)
    have hlate := hdue a ha
    omega
  · rw [hqueue] at hqueued
    cases hqueued

/-- A call that is still pending is in time. -/
theorem now_le (h : t.Timed) (he : t.EndsBy last r) {k : CallKind} {p : Pending κ}
    (hp : t.pending? k = some p) (hr : p.request = r) : t.mailbox.now ≤ last := by
  rcases h.armed_or_fired hp with ⟨a, ha, hrequest⟩ | hqueued
  · have hlast := he.alarm k p hp hr a ha (hrequest.trans hr)
    omega
  · have hlast := he.queued k p hp hr (hr ▸ hqueued)
    omega

end Timed

namespace EndsBy

variable (he : t.EndsBy last r)
include he

/-- With less in the mailbox at the same time, and the same calls. -/
theorem of_subset {m : Mailbox} (hnow : m.now = t.mailbox.now) (ha : m.alarms ⊆ t.mailbox.alarms)
    (hq : ∀ k, .timerFired k r ∈ m.queue → .timerFired k r ∈ t.mailbox.queue) :
    { t with mailbox := m }.EndsBy last r := by
  refine ⟨he.known, fun k p hp hr a hmem hra => ?_, fun k p hp hr hmem => ?_⟩
  · have hlast := he.alarm k p hp hr a (ha hmem) hra
    show max m.now _ + _ ≤ _
    rwa [hnow]
  · have hlast := he.queued k p hp hr (hq k hmem)
    show m.now + _ ≤ _
    rwa [hnow]

/-- Posts from outside come. -/
theorem hear (ht : t.Timed) {p : Post} (hp : p.isOwn = false) :
    { t with mailbox := t.mailbox.post p }.EndsBy last r := by
  rw [Mailbox.post_eq ht.isOpen]
  refine he.of_subset rfl (fun _ ha => ha) fun k hmem => ?_
  rcases List.mem_append.mp hmem with hmem | hmem
  · exact hmem
  · rw [← List.mem_singleton.mp hmem] at hp
    cases hp

/-- A call that is cancelled is not pending any more. -/
theorem cancelAll : t.cancelAll.2.EndsBy last r :=
  ⟨he.known, fun k p hp => absurd hp (t.pending?_cancelAll k p),
    fun k p hp => absurd hp (t.pending?_cancelAll k p)⟩

/-- The clock does not pass a deadline. -/
theorem setClock {now : Nat} (hq : t.mailbox.queue = [])
    (hdue : ∀ a ∈ t.mailbox.alarms, now ≤ a.deadline) :
    { t with mailbox := t.mailbox.setClock now }.EndsBy last r := by
  refine ⟨he.known, fun k p hp hr a ha hra => ?_, fun k p hp hr hmem => ?_⟩
  · have hlast := he.alarm k p hp hr a ha hra
    have hle := hdue a ha
    show max (max t.mailbox.now now) a.deadline + t.timeout * p.retries ≤ last
    omega
  · have hnone : .timerFired k r ∈ t.mailbox.queue := hmem
    rw [hq] at hnone
    cases hnone

/-- An alarm that goes off was due, so its call is none the later. -/
theorem ringBut (ht : t.Timed) (late : List Nat) :
    { t with mailbox := t.mailbox.ringBut late }.EndsBy last r := by
  rw [Mailbox.ringBut_eq ht.isOpen]
  refine ⟨he.known, fun k p hp hr a ha => he.alarm k p hp hr a (List.mem_filter.mp ha).1,
    fun k p hp hr hmem => ?_⟩
  rcases List.mem_append.mp hmem with hmem | hmem
  · exact he.queued k p hp hr hmem
  · obtain ⟨a, ha, hpost⟩ := List.mem_map.mp hmem
    obtain ⟨ha, hgone⟩ := List.mem_filter.mp ha
    have hlast := he.alarm k p hp hr a ha (Post.timerFired.inj hpost).2
    have hdue : a.deadline ≤ t.mailbox.now := by
      simp only [Mailbox.goesOff, Bool.and_eq_true, decide_eq_true_eq] at hgone
      exact hgone.1
    show t.mailbox.now + t.timeout * p.retries ≤ last
    omega

/-- Ending the call of a kind. -/
theorem resolve (k : CallKind) (o : Outcome) : (t.resolve k o).2.EndsBy last r := by
  unfold Tracker.resolve
  cases hk : t.pending? k with
  | none => exact he
  | some q =>
    have hback {j : CallKind} {p : Pending κ}
        (hp : pending? { t with
          mailbox := t.mailbox.dropAlarm q.alarm, pending := t.pending.set k none } j = some p) :
        t.pending? j = some p := by
      rw [pending?_set] at hp
      split at hp
      · cases hp
      · exact hp
    exact ⟨he.known,
      fun j p hp hr a ha => he.alarm j p (hback hp) hr a (List.mem_filter.mp ha).1,
      fun j p hp => he.queued j p (hback hp)⟩

/-- An alarm for another call. -/
theorem arm_of_ne {k : CallKind} {p : Pending κ} (hne : p.request ≠ r) :
    (t.arm k p).EndsBy last r := by
  have hback {j : CallKind} {q : Pending κ} (hq : (t.arm k p).pending? j = some q)
      (hr : q.request = r) : t.pending? j = some q := by
    rw [Tracker.arm, pending?_set] at hq
    split at hq
    · cases hq
      exact absurd hr hne
    · exact hq
  refine ⟨he.known, fun j q hq hr a ha hra => ?_, fun j q hq hr => he.queued j q (hback hq hr) hr⟩
  rcases List.mem_append.mp ha with ha | ha
  · exact he.alarm j q (hback hq hr) hr a ha hra
  · obtain rfl := List.mem_singleton.mp ha
    exact absurd hra hne

theorem supersede (ht : t.Timed) (k : CallKind) : (t.supersede k).EndsBy last r := by
  cases hp : t.pending? k with
  | none =>
    have hsame : t.supersede k = t := by simp only [Tracker.supersede, hp]
    rwa [hsame]
  | some p =>
    have hresolved : (t.resolve k .superseded).2.EndsBy last r := he.resolve k .superseded
    have hended : (t.resolve k .superseded).2.Timed := ht.resolve k .superseded
    have hposted := hresolved.of_subset
      (m := (t.resolve k .superseded).2.mailbox.post (.superseded p.request))
      (by rw [Mailbox.post_eq hended.isOpen]) (by simp [Mailbox.post_eq hended.isOpen])
      (by simp [Mailbox.post_eq hended.isOpen])
    simp only [Tracker.resolve, hp] at hposted
    simp only [Tracker.supersede, hp]
    exact ⟨hposted.known, hposted.alarm, hposted.queued⟩

/-- A newer call is another call. -/
theorem register (ht : t.Timed) (k : CallKind) (args : CallArgs) (c : κ) :
    (t.register k args c).2.EndsBy last r := by
  have hs : (t.supersede k).EndsBy last r := he.supersede ht k
  have hnext : { t.supersede k with issued := t.issued + 1 }.EndsBy last r :=
    ⟨Nat.le_succ_of_le he.known, hs.alarm, hs.queued⟩
  rw [ht.register_eq]
  refine hnext.arm_of_ne fun hr => ?_
  have hknown := he.known
  rw [← hr] at hknown
  exact Nat.not_succ_le_self _ hknown

/-- One more wait is one retry less. -/
theorem wait (ht : t.Timed) {k : CallKind} {q : Pending κ} {ps : List Post}
    (hq : t.pending? k = some q) (hn : q.retries ≠ 0)
    (hqueue : t.mailbox.queue = .timerFired k q.request :: ps) :
    (Tracker.arm { t with mailbox := { t.mailbox with queue := ps } } k
      { q with retries := q.retries - 1 }).EndsBy last r := by
  have hrest : { t with mailbox := { t.mailbox with queue := ps } }.EndsBy last r :=
    he.of_subset rfl (fun _ ha => ha) fun _ hmem => hqueue ▸ List.mem_cons_of_mem _ hmem
  by_cases hr : q.request = r
  · subst hr
    have hfired : .timerFired k q.request ∈ t.mailbox.queue := hqueue ▸ List.mem_cons_self
    have hlast := he.queued k q hq rfl hfired
    have hone : t.timeout * q.retries = t.timeout + t.timeout * (q.retries - 1) := by
      obtain ⟨n, hn⟩ := Nat.exists_eq_succ_of_ne_zero hn
      rw [hn, Nat.succ_sub_one, Nat.mul_succ, Nat.add_comm]
    have hself {j : CallKind} {p : Pending κ} (hp : (Tracker.arm
          { t with mailbox := { t.mailbox with queue := ps } } k
          { q with retries := q.retries - 1 }).pending? j = some p)
        (hr : p.request = q.request) : p.retries = q.retries - 1 := by
      rw [Tracker.arm, pending?_set] at hp
      split at hp
      · cases hp
        rfl
      · rename_i hne
        exact absurd (ht.kind_of_request hq hp hr.symm) hne
    refine ⟨he.known, fun j p hp hr a ha hra => ?_, fun j p hp hr _ => ?_⟩
    · show max t.mailbox.now a.deadline + t.timeout * p.retries ≤ last
      rw [hself hp hr]
      rcases List.mem_append.mp ha with ha | ha
      · exact absurd hra (ht.unarmed hq hfired a ha)
      · obtain rfl := List.mem_singleton.mp ha
        show max t.mailbox.now (t.mailbox.now + t.timeout) + _ ≤ last
        omega
    · show t.mailbox.now + t.timeout * p.retries ≤ last
      rw [hself hp hr]
      omega
  · exact hrest.arm_of_ne hr

/-- A post that was taken out and applied. -/
theorem take (ht : t.Timed) {post : Post} {ps : List Post} (hq : t.mailbox.queue = post :: ps) :
    (apply { t with mailbox := { t.mailbox with queue := ps } } post).2.EndsBy last r := by
  have hrest : { t with mailbox := { t.mailbox with queue := ps } }.EndsBy last r :=
    he.of_subset rfl (fun _ ha => ha) fun _ hmem => hq ▸ List.mem_cons_of_mem _ hmem
  have happ := applies { t with mailbox := { t.mailbox with queue := ps } } post
  generalize apply { t with mailbox := { t.mailbox with queue := ps } } post = result at happ
  obtain ⟨o, t'⟩ := result
  dsimp only at happ ⊢
  cases happ with
  | nothing => exact hrest
  | answered _ _ k o => exact hrest.resolve k o
  | expires k => exact hrest.resolve k .timedOut
  | superseded => exact ⟨hrest.known, hrest.alarm, hrest.queued⟩
  | waits k p hp hn => exact he.wait ht hp hn hq
  | progress _ k p hp outstanding =>
    have hback {j : CallKind} {q : Pending κ} (hj : (if k = j
        then some { p with outstanding := outstanding } else t.pending? j) = some q) :
        ∃ q', t.pending? j = some q' ∧ q'.request = q.request ∧ q'.retries = q.retries := by
      split at hj
      · rename_i hkj
        cases hj
        exact ⟨p, hkj ▸ hp, rfl, rfl⟩
      · exact ⟨q, hj, rfl, rfl⟩
    refine ⟨hrest.known, fun j q hj hr a ha hra => ?_, fun j q hj hr hmem => ?_⟩ <;>
      rw [pending?_set] at hj <;> obtain ⟨q', hq', hr', hn⟩ := hback hj
    · exact hn ▸ hrest.alarm j q' hq' (hr'.trans hr) a ha hra
    · exact hn ▸ hrest.queued j q' hq' (hr'.trans hr) hmem

end EndsBy

end Tracker

namespace Audit

/-- A move at which nothing is put off makes no call wait longer. -/
theorem endsBy_feed {a : Audit κ} (h : a.Regular) {f : Feed κ} (hf : f.Prompt a.tracker) {last : Nat}
    {r : RequestId} (he : a.tracker.EndsBy last r) : (a.feed f).tracker.EndsBy last r := by
  cases f with
  | register k args c => exact he.register h.timed k args c
  | cancelAll => exact hf.elim
  | hear p hp => exact he.hear h.timed hp
  | clock now => exact he.setClock hf.1 hf.2
  | ring late => exact he.ringBut h.timed late
  | take =>
    cases hq : a.tracker.mailbox.queue with
    | nil => rwa [feed_take_of_nil hq]
    | cons p ps =>
      rw [feed_take_of_cons hq]
      exact he.take h.timed hq

theorem endsBy_follow {a : Audit κ} (h : a.Regular) {fs : List (Feed κ)} {last : Nat} {r : RequestId}
    (hfs : Along feed (fun a f => f.Prompt a.tracker) a fs) (he : a.tracker.EndsBy last r) :
    (a.follow fs).tracker.EndsBy last r := by
  induction fs generalizing a with
  | nil => exact he
  | cons f fs ih => exact ih (regular_feed h f) hfs.2 (endsBy_feed h hfs.1 he)

/-- What is in the books stays there, and nothing is dropped if nothing is cancelled. -/
theorem books_follow {a : Audit κ} {fs : List (Feed κ)}
    (hfs : Along feed (fun a f => f.Prompt a.tracker) a fs) :
    a.registered ⊆ (a.follow fs).registered ∧ a.returned ⊆ (a.follow fs).returned ∧
      (a.follow fs).dropped = a.dropped := by
  induction fs generalizing a with
  | nil => exact ⟨fun _ h => h, fun _ h => h, rfl⟩
  | cons f fs ih =>
    have hone : a.registered ⊆ (a.feed f).registered ∧ a.returned ⊆ (a.feed f).returned ∧
        (a.feed f).dropped = a.dropped := by
      cases f with
      | register => exact ⟨List.subset_append_left _ _, fun _ h => h, rfl⟩
      | cancelAll => exact hfs.1.elim
      | hear | clock | ring => exact ⟨fun _ h => h, fun _ h => h, rfl⟩
      | take =>
        cases hq : a.tracker.mailbox.queue with
        | nil =>
          rw [feed_take_of_nil hq]
          exact ⟨fun _ h => h, fun _ h => h, rfl⟩
        | cons p ps =>
          rw [feed_take_of_cons hq]
          exact ⟨fun _ h => h, List.subset_append_left _ _, rfl⟩
    obtain ⟨hregistered, hreturned, hdropped⟩ := ih hfs.2
    exact ⟨fun _ h => hregistered (hone.1 h), fun _ h => hreturned (hone.2.1 h),
      hdropped.trans hone.2.2⟩

/-- When nothing is left to do and a call that is numbered `r` has had its time, none is open. -/
theorem not_open_of_quiet {t : Tracker κ} (h : t.Timed) {last : Nat} {r : RequestId}
    (he : t.EndsBy last r) (hquiet : t.mailbox.Quiet) (hnow : last ≤ t.mailbox.now) :
    ∀ c ∈ t.openTickets, c.request ≠ r := by
  intro c hc
  rcases List.mem_append.mp hc with hc | hc
  · obtain ⟨k, -, hc⟩ := List.mem_flatMap.mp hc
    obtain ⟨p, hp, rfl⟩ := List.mem_map.mp hc
    exact h.ended he hquiet hnow (Option.mem_toList.mp hp)
  · -- a superseded call has a post, and none is queued
    obtain ⟨q, hq, rfl⟩ := List.mem_map.mp hc
    have hone := h.superseded q hq
    rw [hquiet.1] at hone
    cases hone

/-- **No call waits for ever.** If nothing is put off and nothing cancelled, each open call is
handed back within the time that a new call may take. -/
theorem returned_of_prompt {a : Audit κ} (h : a.Regular) {fs : List (Feed κ)}
    (hfs : Along feed (fun a f => f.Prompt a.tracker) a fs)
    (hquiet : (a.follow fs).tracker.mailbox.Quiet)
    (hnow : a.tracker.mailbox.now + a.tracker.timeout * (a.tracker.retries + 1) ≤
      (a.follow fs).tracker.mailbox.now) {c : Ticket κ} (hc : c ∈ a.tracker.openTickets) :
    ∃ r ∈ (a.follow fs).returned, r.ticket = c := by
  have h' : (a.follow fs).Regular := regular_follow h fs
  obtain ⟨hregistered, -, hdropped⟩ := books_follow hfs
  have hopen : c ∈ a.registered := by
    refine h.conserves.accounted.mem_iff.mpr ?_
    rw [accounted_eq]
    exact List.mem_append_left _ hc
  have hends : (a.follow fs).tracker.EndsBy _ c.request :=
    endsBy_follow h hfs (h.timed.endsBy (h.conserves.issued c hopen))
  have hmem := h'.conserves.accounted.mem_iff.mp (hregistered hopen)
  rw [accounted_eq] at hmem
  rcases List.mem_append.mp hmem with hstill | hmem
  · exact absurd rfl (not_open_of_quiet h'.timed hends hquiet hnow c hstill)
  rcases List.mem_append.mp hmem with hback | hgone
  · obtain ⟨r, hr, he⟩ := List.mem_map.mp hback
    exact ⟨r, hr, he⟩
  · -- an open call was not dropped before
    have hn := h.conserves.nodup_accounted
    rw [accounted_eq, List.map_append] at hn
    have hdisj := (List.nodup_append.mp hn).2.2
    rw [hdropped] at hgone
    exact absurd rfl (hdisj c.request (List.mem_map_of_mem hc) c.request
      (List.mem_map_of_mem (List.mem_append_right _ hgone)))

end Audit

/-! ### Letting the clock run -/

namespace Mailbox

variable {m : Mailbox}

/-- The next deadline is that of an alarm, and none is earlier. -/
theorem nextDeadline?_spec (m : Mailbox) : match m.nextDeadline? with
    | none => m.alarms = []
    | some d => (∃ a ∈ m.alarms, a.deadline = d) ∧ ∀ a ∈ m.alarms, d ≤ a.deadline := by
  have hfold (as : List Alarm) : ∀ least : Option Nat,
      match as.foldl (fun least a => some (match least with
        | none => a.deadline
        | some t => min t a.deadline)) least with
      | none => least = none ∧ as = []
      | some d => (least = some d ∨ ∃ a ∈ as, a.deadline = d) ∧ (∀ t, least = some t → d ≤ t) ∧
        ∀ a ∈ as, d ≤ a.deadline := by
    induction as with
    | nil => intro least; cases least <;> simp
    | cons a as ih =>
      intro least
      rw [List.foldl_cons]
      generalize hnext : (match least with
        | none => a.deadline
        | some t => min t a.deadline) = next
      have hrest := ih (some next)
      split at hrest
      · cases hrest.1
      · rename_i d _
        obtain ⟨hsome, hle, hall⟩ := hrest
        have hd : d ≤ next := hle next rfl
        cases least with
        | none =>
          subst hnext
          refine ⟨.inr ?_, nofun, List.forall_mem_cons.mpr ⟨hd, hall⟩⟩
          rcases hsome with he | ⟨b, hb, he⟩
          · exact ⟨a, List.mem_cons_self, Option.some.inj he⟩
          · exact ⟨b, List.mem_cons_of_mem _ hb, he⟩
        | some t =>
          subst hnext
          dsimp only at hd hsome
          refine ⟨?_, fun t' ht => ?_, List.forall_mem_cons.mpr ⟨by omega, hall⟩⟩
          · rcases hsome with he | ⟨b, hb, he⟩
            · have hmin : min t a.deadline = d := Option.some.inj he
              by_cases hta : t ≤ a.deadline
              · exact .inl (congrArg some (by omega))
              · exact .inr ⟨a, List.mem_cons_self, by omega⟩
            · exact .inr ⟨b, List.mem_cons_of_mem _ hb, he⟩
          · obtain rfl := Option.some.inj ht
            omega
  have h := hfold m.alarms none
  unfold nextDeadline?
  generalize m.alarms.foldl _ none = next at h ⊢
  cases next with
  | none => exact h.2
  | some d =>
    obtain ⟨hsome, -, hall⟩ := h
    rcases hsome with he | he
    · cases he
    · exact ⟨he, hall⟩

/-- Letting the clock run keeps what ringing at the next deadline keeps, and leaves no alarm that is
due. -/
theorem advanceTo_induction {P Q : Mailbox → Prop} {t : Nat}
    (hring : ∀ {m : Mailbox} {a : Alarm}, P m → a ∈ m.alarms → a.deadline ≤ t →
      (∀ b ∈ m.alarms, a.deadline ≤ b.deadline) → P (m.setClock a.deadline).ring)
    (hclock : ∀ {m : Mailbox}, P m → (∀ a ∈ m.alarms, t < a.deadline) → Q (m.setClock t))
    {m : Mailbox} (h : P m) : Q (m.advanceTo t) := by
  have hgo (n : Nat) : ∀ {m : Mailbox}, P m → m.alarms.length ≤ n → Q (advanceTo.go t n m) := by
    induction n with
    | zero =>
      intro m h hn
      have hnone : m.alarms = [] := List.eq_nil_of_length_eq_zero (Nat.le_zero.mp hn)
      exact hclock h (by simp [hnone])
    | succ n ih =>
      intro m h hn
      have hspec := m.nextDeadline?_spec
      unfold advanceTo.go ringNext?
      cases hd : m.nextDeadline? with
      | none =>
        rw [hd] at hspec
        exact hclock h (by simp [hspec])
      | some d =>
        rw [hd] at hspec
        obtain ⟨⟨a, ha, rfl⟩, hall⟩ := hspec
        by_cases hle : a.deadline ≤ t
        · dsimp only
          rw [if_pos hle]
          refine ih (hring h ha hle hall) (Nat.le_of_lt_succ (Nat.lt_of_lt_of_le ?_ hn))
          -- the alarm with the next deadline goes off
          rw [ring, alarms_postAll]
          refine List.length_filter_lt_length_iff_exists.mpr ⟨a, ha, ?_⟩
          simp only [setClock, Nat.le_max_right, decide_true, Bool.not_true, Bool.false_eq_true,
            not_false_eq_true]
        · dsimp only
          rw [if_neg hle]
          exact hclock h fun b hb => Nat.lt_of_lt_of_le (Nat.lt_of_not_le hle) (hall b hb)
  exact hgo _ h (Nat.le_refl _)

end Mailbox

/-- The sum of what the kinds are worth. -/
def PerKind.total {α : Type} (worth : α → Nat) (p : PerKind α) : Nat :=
  worth p.prepare + worth p.unprepare + worth p.start + worth p.stop

theorem PerKind.total_set {α : Type} (worth : α → Nat) (p : PerKind α) (k : CallKind) (a : α) :
    (p.set k a).total worth + worth (p.get k) = p.total worth + worth a := by
  cases k <;> simp only [set, get, total] <;> omega

namespace Tracker

/-- How many retries a pending call has left, if there is one. -/
def retriesLeft (p : Option (Pending κ)) : Nat := p.elim 0 Pending.retries

/-- How many retries the pending calls have left. -/
def waitsLeft (t : Tracker κ) : Nat := t.pending.total retriesLeft

/-- A bound on the posts that are still to be handled and the alarms that are still to go off, if
nobody registers a call and nobody answers. -/
def toCome (t : Tracker κ) : Nat :=
  t.mailbox.queue.length + 2 * (t.mailbox.alarms.length + t.waitsLeft)

theorem waitsLeft_set {t : Tracker κ} {k : CallKind} {p : Pending κ} (hp : t.pending? k = some p)
    (q : Option (Pending κ)) :
    (t.pending.set k q).total retriesLeft + p.retries = t.waitsLeft + retriesLeft q := by
  have h := t.pending.total_set retriesLeft k q
  have hk : t.pending.get k = some p := hp
  rwa [hk] at h

theorem toCome_resolve (t : Tracker κ) (k : CallKind) (o : Outcome) :
    (t.resolve k o).2.toCome ≤ t.toCome := by
  unfold resolve
  cases hp : t.pending? k with
  | none => exact Nat.le_refl _
  | some p =>
    have hwaits := waitsLeft_set hp none
    have halarms : (t.mailbox.dropAlarm p.alarm).alarms.length ≤ t.mailbox.alarms.length :=
      List.length_filter_le _ _
    have hnone : retriesLeft (none : Option (Pending κ)) = 0 := rfl
    show t.mailbox.queue.length + 2 * ((t.mailbox.dropAlarm p.alarm).alarms.length +
      (t.pending.set k none).total retriesLeft) ≤ _
    unfold toCome
    omega

/-- Applying a post makes for no more than there was: a retry becomes an alarm. -/
theorem toCome_apply (t : Tracker κ) (p : Post) : (t.apply p).2.toCome ≤ t.toCome := by
  have happ := t.applies p
  generalize t.apply p = result at happ ⊢
  obtain ⟨o, t'⟩ := result
  dsimp only at happ ⊢
  cases happ with
  | nothing | superseded => exact Nat.le_refl _
  | answered _ _ k o => exact t.toCome_resolve k o
  | expires k => exact t.toCome_resolve k .timedOut
  | progress _ k p hp outstanding =>
    have hwaits : _ = t.waitsLeft + p.retries :=
      waitsLeft_set hp (some { p with outstanding := outstanding })
    show t.mailbox.queue.length + 2 * (t.mailbox.alarms.length +
      (t.pending.set k _).total retriesLeft) ≤ _
    unfold toCome
    omega
  | waits k p hp hn =>
    have hwaits : (t.arm k { p with retries := p.retries - 1 }).waitsLeft + p.retries =
        t.waitsLeft + (p.retries - 1) := waitsLeft_set hp _
    have halarms : (t.arm k { p with retries := p.retries - 1 }).mailbox.alarms.length =
        t.mailbox.alarms.length + 1 := List.length_append
    have hqueue : (t.arm k { p with retries := p.retries - 1 }).mailbox.queue = t.mailbox.queue := rfl
    unfold toCome
    rw [hqueue]
    omega

/-- An alarm that goes off is worth more than its post. -/
theorem toCome_ring {t : Tracker κ} (h : t.Timed) {a : Alarm} (ha : a ∈ t.mailbox.alarms)
    (hdue : a.deadline ≤ t.mailbox.now) :
    toCome { t with mailbox := t.mailbox.ring } < t.toCome := by
  have hsplit := (List.filter_append_perm (fun a : Alarm => a.deadline ≤ t.mailbox.now)
    t.mailbox.alarms).length_eq
  rw [List.length_append] at hsplit
  have hpos : 0 < (t.mailbox.alarms.filter fun a => a.deadline ≤ t.mailbox.now).length :=
    List.length_pos_of_mem (List.mem_filter.mpr ⟨ha, by simpa using hdue⟩)
  have hring : t.mailbox.ring = { t.mailbox with
      alarms := t.mailbox.alarms.filter fun a => !(a.deadline ≤ t.mailbox.now)
      queue := t.mailbox.queue ++ t.mailbox.due.map Alarm.post } := Mailbox.postAll_eq _ h.isOpen
  unfold toCome
  rw [hring]
  show (t.mailbox.queue ++ _).length + 2 * ((List.filter _ _).length + t.waitsLeft) < _
  rw [List.length_append, List.length_map, Mailbox.due]
  omega

/-- The limit on the posts is one on what is to come. -/
theorem Timed.toCome_le {t : Tracker κ} (h : t.Timed) : t.toCome ≤ 2 * t.postLimit 0 := by
  have hone (k : CallKind) : retriesLeft (t.pending.get k) ≤ t.retries := by
    cases hp : t.pending.get k with
    | none => exact Nat.zero_le _
    | some p => exact h.retries k p hp
  have hwaits : t.waitsLeft ≤ 4 * t.retries := by
    have hprepare := hone .prepare
    have hunprepare := hone .unprepare
    have hstart := hone .start
    have hstop := hone .stop
    simp only [PerKind.get] at hprepare hunprepare hstart hstop
    unfold waitsLeft PerKind.total
    omega
  have hlimit : (t.mailbox.queue.length + t.mailbox.alarms.length + 17) * (t.retries + 4) ≤
      t.postLimit 0 := by
    unfold postLimit
    exact Nat.mul_le_mul_right _ (by omega)
  have hretries : 17 * t.retries ≤
      (t.mailbox.queue.length + t.mailbox.alarms.length + 17) * t.retries :=
    Nat.mul_le_mul_right _ (by omega)
  rw [Nat.mul_add] at hlimit
  unfold toCome
  omega

end Tracker

namespace Audit

/-- What letting the clock run up to `last` comes to: it was a run at which nothing was put off, and
it handed back `ended` on the way to `t`. -/
def Runs (a : Audit κ) (last : Nat) (ended : List (Resolved κ)) (t : Tracker κ) : Prop :=
  ∃ fs, Along feed (fun a f => f.Prompt a.tracker) a fs ∧ (a.follow fs).tracker = t ∧
    (a.follow fs).returned = a.returned ++ ended ∧ (a.follow fs).registered = a.registered ∧
    t.mailbox.Quiet ∧ t.mailbox.now = last

/-- Nothing is queued, and no alarm goes off in time: the clock runs to its end. -/
theorem runs_clock {a : Audit κ} {last : Nat} (hnow : a.tracker.mailbox.now ≤ last)
    (hq : a.tracker.mailbox.queue = []) (hdue : ∀ b ∈ a.tracker.mailbox.alarms, last < b.deadline) :
    a.Runs last [] { a.tracker with mailbox := a.tracker.mailbox.setClock last } := by
  have hlast : max a.tracker.mailbox.now last = last := Nat.max_eq_right hnow
  refine ⟨[.clock last], ⟨⟨hq, fun b hb => Nat.le_of_lt (hdue b hb)⟩, trivial⟩, rfl, ?_, rfl,
    ⟨hq, fun b hb => ?_⟩, hlast⟩
  · exact (List.append_nil _).symm
  · show max _ _ < _
    rw [hlast]
    exact hdue b hb

/-- A first post is handled. -/
theorem runs_take {a : Audit κ} {last : Nat} {p : Post} {ps : List Post}
    (hq : a.tracker.mailbox.queue = p :: ps) {ended : List (Resolved κ)} {t : Tracker κ}
    (h : (a.feed .take).Runs last ended t) :
    a.Runs last ((Tracker.apply { a.tracker with
      mailbox := { a.tracker.mailbox with queue := ps } } p).1.toList ++ ended) t := by
  obtain ⟨fs, hfs, ht, hreturned, hregistered, hquiet⟩ := h
  refine ⟨.take :: fs, ⟨trivial, hfs⟩, ht, ?_, ?_, hquiet⟩
  · rw [follow, List.foldl_cons, ← follow, hreturned, feed_take_of_cons hq]
    exact List.append_assoc _ _ _
  · rw [follow, List.foldl_cons, ← follow, hregistered, feed_take_of_cons hq]
    rfl

/-- Nothing is queued, and the next alarms go off at their deadline. -/
theorem runs_ring {a : Audit κ} {last d : Nat} (hq : a.tracker.mailbox.queue = [])
    (hdue : ∀ b ∈ a.tracker.mailbox.alarms, d ≤ b.deadline) {ended : List (Resolved κ)}
    {t : Tracker κ} (h : ((a.feed (.clock d)).feed (.ring [])).Runs last ended t) :
    a.Runs last ended t := by
  obtain ⟨fs, hfs, hrest⟩ := h
  exact ⟨.clock d :: .ring [] :: fs, ⟨⟨hq, hdue⟩, trivial, hfs⟩, hrest⟩

end Audit

theorem Tracker.now_apply (t : Tracker κ) (p : Post) :
    (t.apply p).2.mailbox.now = t.mailbox.now := by
  have hresolve (k : CallKind) (o : Outcome) : (t.resolve k o).2.mailbox.now = t.mailbox.now := by
    unfold resolve
    split <;> rfl
  have happ := t.applies p
  generalize t.apply p = result at happ ⊢
  obtain ⟨o, t'⟩ := result
  dsimp only at happ ⊢
  cases happ with
  | nothing | progress | waits | superseded => rfl
  | answered _ _ k o => exact hresolve k o
  | expires k => exact hresolve k .timedOut

namespace Audit

/-- Letting the clock run is a run at which nothing is put off. -/
theorem runs_runUpTo (last : Nat) (n : Nat) : ∀ a : Audit κ, a.Regular →
    a.tracker.mailbox.now ≤ last → a.tracker.toCome < n →
    let r := Tracker.clockwork.runUpTo last n a.tracker
    a.Runs last (r.1.filterMap Handled.result) r.2 := by
  induction n with
  | zero => exact fun _ _ _ hn => absurd hn (Nat.not_lt_zero _)
  | succ n ih =>
    intro a h hnow hn
    cases hq : a.tracker.mailbox.queue with
    | cons p ps =>
      have hfeed : Tracker.clockwork.feed? a.tracker = some
          (⟨a.tracker.mailbox.now, p, (Tracker.apply { a.tracker with
              mailbox := { a.tracker.mailbox with queue := ps } } p).1⟩,
            (a.feed .take).tracker) := by
        rw [feed_take_of_cons hq]
        simp only [Clockwork.feed?, Tracker.clockwork, Mailbox.take?, hq]
        rfl
      have hclock : (a.feed .take).tracker.mailbox.now = a.tracker.mailbox.now := by
        rw [feed_take_of_cons hq]
        exact Tracker.now_apply _ p
      have hless : (a.feed .take).tracker.toCome < n := by
        have happ := Tracker.toCome_apply { a.tracker with
          mailbox := { a.tracker.mailbox with queue := ps } } p
        rw [feed_take_of_cons hq]
        show (Tracker.apply _ p).2.toCome < n
        refine Nat.lt_of_le_of_lt happ ?_
        unfold Tracker.toCome at hn
        rw [hq, List.length_cons] at hn
        show ps.length + 2 * (a.tracker.mailbox.alarms.length + a.tracker.waitsLeft) < n
        omega
      have hrest := runs_take hq (ih (a.feed .take) (regular_feed h .take) (hclock ▸ hnow) hless)
      dsimp only
      rw [Clockwork.runUpTo, hfeed]
      dsimp only
      rw [List.filterMap_cons]
      cases ho : (Tracker.apply { a.tracker with
          mailbox := { a.tracker.mailbox with queue := ps } } p).1 with
      | none => simpa only [ho, Option.toList_none, List.nil_append] using hrest
      | some r => simpa only [ho, Option.toList_some, List.cons_append, List.nil_append] using hrest
    | nil =>
      have hfeed : Tracker.clockwork.feed? a.tracker = none := by
        simp only [Clockwork.feed?, Tracker.clockwork, Mailbox.take?, hq]
      have hspec := a.tracker.mailbox.nextDeadline?_spec
      have hring : (Tracker.clockwork.mailbox a.tracker).ringNext? last =
          a.tracker.mailbox.ringNext? last := rfl
      dsimp only
      rw [Clockwork.runUpTo, hfeed]
      dsimp only
      rw [hring, Mailbox.ringNext?]
      cases hd : a.tracker.mailbox.nextDeadline? with
      | none =>
        rw [hd] at hspec
        refine runs_clock hnow hq fun b hb => ?_
        rw [hspec] at hb
        cases hb
      | some d =>
        rw [hd] at hspec
        obtain ⟨⟨b, hb, hbd⟩, hall⟩ := hspec
        dsimp only
        by_cases hdl : d ≤ last
        · rw [if_pos hdl]
          have hregular := regular_feed (regular_feed h (.clock d)) (.ring [])
          have hmailbox : ((a.feed (.clock d)).feed (.ring [])).tracker =
              { a.tracker with mailbox := (a.tracker.mailbox.setClock d).ring } := by
            rw [← Mailbox.ringBut_nil]
            rfl
          have hless := Tracker.toCome_ring (h.timed.setClock d) (a := b) hb
            (hbd ▸ Nat.le_max_right _ _)
          refine runs_ring hq hall ?_
          have hrest := ih _ hregular ?_ ?_
          · rw [hmailbox] at hrest
            exact hrest
          · rw [hmailbox]
            show (Mailbox.ring _).now ≤ last
            unfold Mailbox.ring
            rw [Mailbox.now_postAll]
            exact Nat.max_le.mpr ⟨hnow, hdl⟩
          · rw [hmailbox]
            exact Nat.lt_of_lt_of_le hless (Nat.le_of_lt_succ hn)
        · rw [if_neg hdl]
          refine runs_clock hnow hq fun b hb => ?_
          have hle := hall b hb
          omega

/-- Letting the clock run for as long as a new call may take hands back every open call. -/
theorem drained {a : Audit κ} (h : a.Regular) {ms : Nat}
    (hms : a.tracker.timeout * (a.tracker.retries + 1) ≤ ms) :
    let r := Tracker.clockwork.run ms a.tracker
    r.2.openTickets = [] ∧
      (r.1.filterMap Handled.result).map Resolved.ticket ~ a.tracker.openTickets := by
  intro r
  have hlimit : a.tracker.toCome < 2 * a.tracker.postLimit 0 + 1 :=
    Nat.lt_succ_of_le h.timed.toCome_le
  obtain ⟨fs, hfs, htracker, hreturned, hregistered, hquiet, hnow⟩ :=
    runs_runUpTo (a.tracker.mailbox.now + ms) _ a h (Nat.le_add_right _ _) hlimit
  have hdropped := (books_follow hfs).2.2
  have hconserves : (a.follow fs).Conserves := (regular_follow h fs).conserves
  have hafter := hconserves.accounted
  have hbefore := h.conserves.accounted
  rw [accounted_eq, hregistered, hreturned, hdropped, htracker] at hafter
  rw [accounted_eq] at hbefore
  -- a call that is open at the end is in the books, and was handed back or dropped
  have hnone : r.2.openTickets = [] := by
    refine List.eq_nil_iff_forall_not_mem.mpr fun c hc => ?_
    have hn := hconserves.nodup_accounted
    rw [accounted_eq, List.map_append, htracker] at hn
    have hdisj := (List.nodup_append.mp hn).2.2 c.request (List.mem_map_of_mem hc) c.request
    refine hdisj (List.mem_map_of_mem ?_) rfl
    have hmem := hbefore.mem_iff.mp (hafter.mem_iff.mpr (List.mem_append_left _ hc))
    rcases List.mem_append.mp hmem with hopen | hmem
    · obtain ⟨r', hr', rfl⟩ := returned_of_prompt h hfs (htracker ▸ hquiet)
        (by rw [htracker, hnow]; omega) hopen
      exact List.mem_append_left _ (List.mem_map_of_mem hr')
    · rw [hreturned, hdropped, List.map_append, List.append_assoc]
      rcases List.mem_append.mp hmem with hback | hgone
      · exact List.mem_append_left _ hback
      · exact List.mem_append_right _ (List.mem_append_right _ hgone)
  refine ⟨hnone, ?_⟩
  have hboth := hbefore.symm.trans hafter
  have hr : (Tracker.clockwork.runUpTo (a.tracker.mailbox.now + ms)
      (2 * a.tracker.postLimit 0 + 1) a.tracker) = r := rfl
  rw [hr, hnone, List.nil_append, List.map_append] at hboth
  generalize a.tracker.openTickets = opened at *
  generalize a.returned.map Resolved.ticket = before at *
  generalize (r.1.filterMap Handled.result).map Resolved.ticket = ended at *
  have hswap : before ++ ended ++ a.dropped ~ ended ++ (before ++ a.dropped) := by
    rw [← List.append_assoc ended]
    exact List.perm_append_comm.append_right _
  exact ((List.perm_append_right_iff _).mp (hboth.trans hswap)).symm

/-- **No call is stranded.** Throughout every run of a tracker that is fed from its own mailbox,
exactly one alarm or queued post runs a pending call out of time, exactly one queued post ends a
superseded call, and an alarm that is set is for a call that is pending; when all calls are
cancelled, or the tracker is dropped, no alarm remains. So handling the posts while the clock runs
hands back every call that is open, each once, as soon as it has run for the timeout and all
retries, though nobody answers; and so does every later run at which nothing is put off or
cancelled, whatever else is registered, answered, refused and superseded meanwhile. -/
theorem no_call_stranded (timeout retries : Nat) (fs : List (Feed κ)) :
    let a := (empty timeout retries : Audit κ).follow fs
    (∀ k p, a.tracker.pending? k = some p →
      a.tracker.mailbox.timeouts p.request = [.timerFired k p.request]) ∧
    (∀ r ∈ a.tracker.superseded, a.tracker.mailbox.queue.count (.superseded r.request) = 1) ∧
    (∀ b ∈ a.tracker.mailbox.alarms, ∃ p, a.tracker.pending? b.kind = some p ∧ p.request = b.request) ∧
    a.tracker.cancelAll.2.mailbox.alarms = [] ∧ a.tracker.mailboxAtRest.alarms = [] ∧
    (∀ ms, timeout * (retries + 1) ≤ ms →
      (Tracker.clockwork.run ms a.tracker).2.openTickets = [] ∧
      ((Tracker.clockwork.run ms a.tracker).1.filterMap Handled.result).map Resolved.ticket ~
        a.tracker.openTickets) ∧
    ∀ later, Along feed (fun a f => f.Prompt a.tracker) a later →
      (a.follow later).tracker.mailbox.Quiet →
      a.tracker.mailbox.now + timeout * (retries + 1) ≤ (a.follow later).tracker.mailbox.now →
      ∀ c ∈ a.tracker.openTickets, ∃ r ∈ (a.follow later).returned, r.ticket = c := by
  intro a
  have h : a.Regular := regular_follow (regular_empty timeout retries) fs
  obtain ⟨htimeout, hretries⟩ : a.tracker.timeout = timeout ∧ a.tracker.retries = retries :=
    settings_follow _ fs
  refine ⟨h.timed.timeouts, h.timed.superseded, fun b hb => ?_, h.timed.alarms_atRest,
    h.timed.alarms_atRest, fun ms hms => ?_, fun later hlater hquiet hnow c hc => ?_⟩
  · obtain ⟨p, hp, hr, -⟩ := h.timed.alarms b hb
    exact ⟨p, hp, hr⟩
  · exact drained h (by rw [htimeout, hretries]; exact hms)
  · exact returned_of_prompt h hlater hquiet (by rw [htimeout, hretries]; exact hnow) hc

/-- Two starts, the first superseded and the second given one retry; nobody answers. -/
example :
    let first := ((Tracker.empty 10 1 : Tracker Nat).register .start ⟨⟨"a"⟩, ⟨"b"⟩, []⟩ 1).2
    let second := (first.register .start ⟨⟨"a"⟩, ⟨"c"⟩, []⟩ 2).2
    (Tracker.clockwork.run 20 second).1.map (fun h => (h.time, h.result.map Resolved.outcome)) =
      [(0, some .superseded), (10, none), (20, some .timedOut)] := by
  decide

end Audit

end PointerShare
