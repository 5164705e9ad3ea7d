/-
# One timeout for each pending call

The table of pending calls says nothing of time. That no call waits for ever
rests on the mailbox beside it: an alarm is set for a call that is registered,
it becomes a `timerFired` when it goes off, and handling that post either ends
the call or sets the next alarm. Alarms are taken back on the way, when a call
ends, when it is superseded and when all calls are cancelled, and by then they
may have gone off.

Through all of this, as long as the tracker is given the posts of its own open
mailbox and no others, there is for each pending call exactly one thing that
can run it out of time, an alarm that is set or a post that is queued; an alarm
that is set belongs to a pending call; and each superseded call has exactly one
post that will end it.

While a post is applied it is no longer queued, and its call has no timeout for
that moment. So the proofs apply a post first, with the post still in its
place, and remove it afterwards; only the alarm that is set anew takes two steps.

Key definitions: `Mailbox.timeouts`, `Tracker.Timed`, `Tracker.Applies`,
`Tracker.arm`.
Key theorems: `Tracker.applies`, `Tracker.Timed.register`,
`Tracker.Timed.cancelAll`, `Tracker.Timed.take`.
-/
import PointerShare.Proofs.Conservation

namespace PointerShare

open scoped List

variable {κ : Type}

/-- The post runs the call numbered `r` out of time. -/
def Post.timesOut (r : RequestId) : Post → Bool
  | .timerFired _ q => q == r
  | _ => false

/-- The post comes from the tracker itself or from its alarms. All others come from outside. -/
def Post.isOwn : Post → Bool
  | .timerFired _ _ => true
  | .superseded _ => true
  | _ => false

theorem Post.timesOut_of_isOwn {p : Post} (h : p.isOwn = false) (r : RequestId) :
    p.timesOut r = false := by
  cases p with
  | timerFired | superseded => cases h
  | reply | issueFailed | relay => rfl

theorem Post.ne_superseded_of_isOwn {p : Post} (h : p.isOwn = false) (r : RequestId) :
    p ≠ .superseded r := by
  rintro rfl
  cases h

/-! ### What can run a call out of time -/

namespace Mailbox

/-- What runs the call numbered `r` out of time: the alarms that are set for it, by the posts they
become, and the posts that are queued. -/
def timeouts (m : Mailbox) (r : RequestId) : List Post :=
  (m.alarms.map Alarm.post ++ m.queue).filter (Post.timesOut r)

variable {m : Mailbox} {r : RequestId}

theorem mem_timeouts {p : Post} :
    p ∈ m.timeouts r ↔ (p ∈ m.alarms.map Alarm.post ∨ p ∈ m.queue) ∧ p.timesOut r = true := by
  rw [timeouts, List.mem_filter, List.mem_append]

/-- Without its first post, the mailbox holds the same timeouts if that post was none. -/
theorem timeouts_rest {p : Post} {ps : List Post} (hq : m.queue = p :: ps)
    (hp : p.timesOut r = false) : { m with queue := ps }.timeouts r = m.timeouts r := by
  unfold timeouts
  rw [hq, List.filter_append, List.filter_append, List.filter_cons_of_neg (by simp [hp])]

theorem timeouts_rest_self {k : CallKind} {ps : List Post} (hq : m.queue = .timerFired k r :: ps)
    (h : m.timeouts r = [.timerFired k r]) : { m with queue := ps }.timeouts r = [] := by
  have hsame : (Post.timerFired k r).timesOut r = true := by simp [Post.timesOut]
  unfold timeouts at *
  rw [hq, List.filter_append, List.filter_cons_of_pos hsame] at h
  have hlen := congrArg List.length h
  simp only [List.length_append, List.length_cons, List.length_nil] at hlen
  refine List.eq_nil_of_length_eq_zero ?_
  rw [List.filter_append, List.length_append]
  show ((m.alarms.map Alarm.post).filter _).length + (ps.filter _).length = 0
  omega

/-- A mailbox with less in it has no other timeouts. -/
theorem timeouts_eq_nil_of_subset {m' : Mailbox} (ha : m'.alarms ⊆ m.alarms)
    (hq : m'.queue ⊆ m.queue) (h : m.timeouts r = []) : m'.timeouts r = [] := by
  refine List.filter_eq_nil_iff.mpr fun p hp => ?_
  have hnone := List.filter_eq_nil_iff.mp h
  rcases List.mem_append.mp hp with hp | hp
  · exact hnone p (List.mem_append_left _ (List.map_subset _ ha hp))
  · exact hnone p (List.mem_append_right _ (hq hp))

theorem post_eq (ho : m.isOpen = true) (p : Post) :
    m.post p = { m with queue := m.queue ++ [p] } :=
  if_pos ho

theorem timeouts_post (ho : m.isOpen = true) {p : Post} (hp : p.timesOut r = false) :
    (m.post p).timeouts r = m.timeouts r := by
  rw [post_eq ho]
  unfold timeouts
  simp [hp]

theorem timeouts_setAlarm_of_ne {q : RequestId} (delay : Nat) (k : CallKind) (h : q ≠ r) :
    (m.setAlarm delay k q).timeouts r = m.timeouts r := by
  unfold timeouts setAlarm
  simp [Alarm.post, Post.timesOut, h]

theorem timeouts_setAlarm_self (delay : Nat) (k : CallKind) (h : m.timeouts r = []) :
    (m.setAlarm delay k r).timeouts r = [.timerFired k r] := by
  unfold timeouts at *
  rw [List.filter_append, List.append_eq_nil_iff] at h
  simp [setAlarm, List.filter_append, h.1, h.2, Alarm.post, Post.timesOut]

/-- Taking back alarms that were set for other calls. -/
theorem timeouts_dropAlarm {serial : Nat}
    (h : ∀ a ∈ m.alarms, a.serial = serial → a.request ≠ r) :
    (m.dropAlarm serial).timeouts r = m.timeouts r := by
  unfold timeouts dropAlarm
  rw [List.filter_append, List.filter_append]
  congr 1
  rw [List.filter_map, List.filter_map, List.filter_filter]
  congr 1
  refine List.filter_congr fun a ha => ?_
  by_cases hs : a.serial = serial
  · have hr : a.request ≠ r := h a ha hs
    simp [Alarm.post, Post.timesOut, hr]
  · simp [hs]

/-- Posting to an open mailbox, one after the other. -/
theorem postAll_eq (ps : List Post) : ∀ {m : Mailbox}, m.isOpen = true →
    m.postAll ps = { m with queue := m.queue ++ ps } := by
  induction ps with
  | nil => intro m _; simp [postAll]
  | cons p ps ih =>
    intro m ho
    show (m.post p).postAll ps = _
    rw [post_eq ho, ih (m := { m with queue := m.queue ++ [p] }) ho]
    simp

/-- The alarm goes off: it is due, and it is none of those with the serials `late`. -/
def goesOff (m : Mailbox) (late : List Nat) (a : Alarm) : Bool :=
  a.deadline ≤ m.now && !late.contains a.serial

/-- Posts for the alarms that are due, but for those that go off late. -/
def ringBut (m : Mailbox) (late : List Nat) : Mailbox :=
  { m with alarms := m.alarms.filter fun a => !m.goesOff late a }.postAll
    ((m.alarms.filter (m.goesOff late)).map Alarm.post)

/-- Without delay, all that are due go off. -/
theorem ringBut_nil (m : Mailbox) : m.ringBut [] = m.ring := by
  have hdue : m.goesOff [] = fun a => decide (a.deadline ≤ m.now) :=
    funext fun a => by simp [goesOff]
  simp only [ringBut, ring, due, hdue]

/-- The alarms that go off become posts at the end of the queue. -/
theorem ringBut_eq (ho : m.isOpen = true) (late : List Nat) :
    m.ringBut late = { m with
      alarms := m.alarms.filter fun a => !m.goesOff late a
      queue := m.queue ++ (m.alarms.filter (m.goesOff late)).map Alarm.post } :=
  postAll_eq _ ho

/-- An alarm that goes off still runs its call out of time. -/
theorem timeouts_ringBut (ho : m.isOpen = true) (late : List Nat) (r : RequestId) :
    (m.ringBut late).timeouts r ~ m.timeouts r := by
  rw [ringBut_eq ho]
  unfold timeouts
  refine List.Perm.filter _ ?_
  have hsplit := (List.filter_append_perm (m.goesOff late) m.alarms).map Alarm.post
  rw [List.map_append] at hsplit
  generalize (m.alarms.filter (m.goesOff late)).map Alarm.post = gone at *
  generalize (m.alarms.filter fun a => !m.goesOff late a).map Alarm.post = kept at *
  calc kept ++ (m.queue ++ gone)
      ~ gone ++ (kept ++ m.queue) := by
        rw [← List.append_assoc]
        exact List.perm_append_comm
    _ ~ m.alarms.map Alarm.post ++ m.queue := by
        rw [← List.append_assoc]
        exact hsplit.append_right _

theorem count_superseded_ringBut (ho : m.isOpen = true) (late : List Nat) (r : RequestId) :
    (m.ringBut late).queue.count (.superseded r) = m.queue.count (.superseded r) := by
  have hnone : ((m.alarms.filter (m.goesOff late)).map Alarm.post).count (.superseded r) = 0 := by
    refine List.count_eq_zero.mpr fun h => ?_
    obtain ⟨a, -, ha⟩ := List.mem_map.mp h
    cases ha
  rw [ringBut_eq ho, List.count_append, hnone]
  rfl

end Mailbox

namespace Tracker

/-! ### What applying a post does -/

/-- Sets an alarm for a call, which is pending with that alarm from then on. -/
def arm (t : Tracker κ) (k : CallKind) (p : Pending κ) : Tracker κ :=
  { t with
    mailbox := t.mailbox.setAlarm t.timeout k p.request
    pending := t.pending.set k (some { p with alarm := t.mailbox.nextSerial }) }

/-- What applying a post does: nothing; a part of an answer is noted; the pending call of a kind is
answered or expires, or is given one more wait; a superseded call ends. -/
inductive Applies (t : Tracker κ) : Post → Option (Resolved κ) → Tracker κ → Prop
  | nothing (p : Post) (hp : ∀ k q, t.pending? k = some q → p ≠ .timerFired k q.request)
      (hs : ∀ r ∈ t.superseded, p ≠ .superseded r.request) : Applies t p none t
  | progress (r : Reply) (k : CallKind) (p : Pending κ) (hp : t.pending? k = some p)
      (outstanding : List PartShape) :
      Applies t (.reply r) none
        { t with pending := t.pending.set k (some { p with outstanding := outstanding }) }
  | answered (post : Post) (hpost : post.isOwn = false) (k : CallKind) (o : Outcome) (p : Pending κ)
      (hp : t.pending? k = some p) : Applies t post (t.resolve k o).1 (t.resolve k o).2
  | expires (k : CallKind) (p : Pending κ) (hp : t.pending? k = some p) (hr : p.retries = 0) :
      Applies t (.timerFired k p.request) (t.resolve k .timedOut).1 (t.resolve k .timedOut).2
  | waits (k : CallKind) (p : Pending κ) (hp : t.pending? k = some p) (hr : p.retries ≠ 0) :
      Applies t (.timerFired k p.request) none (t.arm k { p with retries := p.retries - 1 })
  | superseded (r : Replaced κ) :
      Applies t (.superseded r.request) (some ⟨r.kind, r.request, .superseded, r.completion⟩)
        { t with superseded := t.superseded.filter fun s => s.request != r.request }

theorem current?_of_pending? {t : Tracker κ} {k : CallKind} {p : Pending κ}
    (h : t.pending? k = some p) : t.current? k p.request = some p := by
  simp [current?, h]

theorem applies_reply (t : Tracker κ) (r : Reply) :
    t.Applies (.reply r) (t.onReply r).1 (t.onReply r).2 := by
  have hnothing : t.Applies (.reply r) none t := .nothing _ (fun _ _ _ => nofun) (fun _ _ => nofun)
  unfold onReply
  split
  · exact hnothing
  rename_i p hcur
  obtain ⟨hp, -⟩ := pending?_of_current? hcur
  split
  · exact hnothing
  split
  · exact .answered (.reply r) rfl _ .rejected p hp
  split
  · exact hnothing
  dsimp only
  split
  · -- the last part: what was noted of the call goes with it
    have hsame (q : Pending κ) (hq : q.alarm = p.alarm) (hr : q.request = p.request)
        (hc : q.completion = p.completion) :
        resolve { t with pending := t.pending.set r.kind (some q) } r.kind .succeeded =
          t.resolve r.kind .succeeded := by
      simp only [resolve, pending?, PerKind.get_set_self, PerKind.set_set] at hp ⊢
      rw [hp, hq, hr, hc]
    rw [hsame { p with outstanding := p.outstanding.erase r.part.shape } rfl rfl rfl]
    exact .answered (.reply r) rfl _ .succeeded p hp
  · exact .progress r _ p hp _

theorem applies_timerFired (t : Tracker κ) (k : CallKind) (r : RequestId) :
    t.Applies (.timerFired k r) (t.onTimer k r).1 (t.onTimer k r).2 := by
  unfold onTimer
  split
  · rename_i hcur
    refine .nothing _ (fun j q hq he => ?_) (fun _ _ => nofun)
    obtain ⟨rfl, rfl⟩ := Post.timerFired.inj he
    rw [current?_of_pending? hq] at hcur
    cases hcur
  · rename_i p hcur
    obtain ⟨hp, rfl⟩ := pending?_of_current? hcur
    split
    · exact .expires k p hp (by assumption)
    · exact .waits k p hp (by assumption)

theorem applies_superseded (t : Tracker κ) (r : RequestId) :
    t.Applies (.superseded r) (t.takeSuperseded r).1 (t.takeSuperseded r).2 := by
  unfold takeSuperseded
  split
  · rename_i hnone
    refine .nothing _ (fun _ _ _ => nofun) fun q hq he => ?_
    have hne := List.find?_eq_none.mp hnone q hq
    exact hne (by simpa using (Post.superseded.inj he).symm)
  · rename_i q hfound
    have hr : q.request = r := by simpa using List.find?_some hfound
    rw [← hr]
    exact .superseded q

/-- Applying a post does one of these. -/
theorem applies (t : Tracker κ) (p : Post) : t.Applies p (t.apply p).1 (t.apply p).2 := by
  cases p with
  | reply r => exact t.applies_reply r
  | timerFired k r => exact t.applies_timerFired k r
  | superseded r => exact t.applies_superseded r
  | relay e => exact .nothing _ (fun _ _ _ => nofun) (fun _ _ => nofun)
  | issueFailed k r =>
    show t.Applies _ (t.onIssueFailed k r).1 (t.onIssueFailed k r).2
    unfold onIssueFailed
    split
    · exact .nothing _ (fun _ _ _ => nofun) (fun _ _ => nofun)
    · rename_i p hcur
      exact .answered _ rfl k .rejected p (pending?_of_current? hcur).1

theorem settings_resolve (t : Tracker κ) (k : CallKind) (o : Outcome) :
    (t.resolve k o).2.timeout = t.timeout ∧ (t.resolve k o).2.retries = t.retries := by
  unfold resolve
  split <;> exact ⟨rfl, rfl⟩

theorem settings_supersede (t : Tracker κ) (k : CallKind) :
    (t.supersede k).timeout = t.timeout ∧ (t.supersede k).retries = t.retries := by
  unfold supersede
  split <;> exact ⟨rfl, rfl⟩

theorem Applies.settings {t t' : Tracker κ} {p : Post} {o : Option (Resolved κ)}
    (h : t.Applies p o t') : t'.timeout = t.timeout ∧ t'.retries = t.retries := by
  cases h with
  | nothing | progress | waits | superseded => exact ⟨rfl, rfl⟩
  | answered _ _ k o => exact t.settings_resolve k o
  | expires k => exact t.settings_resolve k .timedOut

/-! ### The invariant -/

/-- Every pending call has one timeout, every alarm a pending call, every superseded call one post.
The rest says why: alarms have different serials, and none is set for longer than `timeout`. -/
structure Timed (t : Tracker κ) : Prop where
  isOpen : t.mailbox.isOpen = true
  /-- One alarm or one post, of the right kind, runs a pending call out of time. -/
  timeouts : ∀ k p, t.pending? k = some p →
    t.mailbox.timeouts p.request = [.timerFired k p.request]
  alarms : ∀ a ∈ t.mailbox.alarms,
    ∃ p, t.pending? a.kind = some p ∧ p.request = a.request ∧ p.alarm = a.serial
  superseded : ∀ r ∈ t.superseded, t.mailbox.queue.count (.superseded r.request) = 1
  pending : ∀ k p, t.pending? k = some p → .superseded p.request ∉ t.mailbox.queue
  /-- Nothing of the kind is there for a number that was not given out. -/
  unknown : ∀ r : RequestId, t.issued < r.number →
    t.mailbox.timeouts r = [] ∧ .superseded r ∉ t.mailbox.queue
  serials : ∀ k p, t.pending? k = some p → p.alarm < t.mailbox.nextSerial
  apart : ∀ k j p q, t.pending? k = some p → t.pending? j = some q → p.alarm = q.alarm → k = j
  retries : ∀ k p, t.pending? k = some p → p.retries ≤ t.retries
  deadlines : ∀ a ∈ t.mailbox.alarms, a.deadline ≤ t.mailbox.now + t.timeout

theorem pending?_set (t : Tracker κ) (k j : CallKind) (p : Option (Pending κ)) (m : Mailbox) :
    pending? { t with pending := t.pending.set k p, mailbox := m } j =
      if k = j then p else t.pending? j :=
  PerKind.get_set _ _ _ _

/-- What is pending after the call of a kind has ended is of another kind, and was pending before. -/
theorem pending?_of_resolve {t : Tracker κ} {k j : CallKind} {o : Outcome} {p : Pending κ}
    (hp : (t.resolve k o).2.pending? j = some p) : k ≠ j ∧ t.pending? j = some p := by
  unfold resolve at hp
  split at hp
  · rename_i hk
    refine ⟨fun he => ?_, hp⟩
    rw [he, hp] at hk
    cases hk
  · rw [pending?_set] at hp
    split at hp
    · cases hp
    · exact ⟨by assumption, hp⟩

theorem pending?_cancelAll (t : Tracker κ) (k : CallKind) (p : Pending κ) :
    t.cancelAll.2.pending? k ≠ some p := by
  have hk : t.cancelAll.2.pending? k = none := PerKind.get_const _ k
  rw [hk]
  exact nofun

namespace Timed

variable {t : Tracker κ} (h : t.Timed)
include h

/-- Pending calls of different kinds have different numbers, since their timeouts differ. -/
theorem kind_of_request {k j : CallKind} {p q : Pending κ} (hp : t.pending? k = some p)
    (hq : t.pending? j = some q) (he : p.request = q.request) : k = j := by
  have hone := h.timeouts k p hp
  rw [he, h.timeouts j q hq] at hone
  exact (Post.timerFired.inj (List.singleton_inj.mp hone)).1.symm

/-- The alarms with the serial of a pending call are those set for it. -/
theorem request_of_serial {k : CallKind} {p : Pending κ} (hp : t.pending? k = some p) {a : Alarm}
    (ha : a ∈ t.mailbox.alarms) : a.serial = p.alarm ↔ a.request = p.request := by
  obtain ⟨q, hq, hr, hs⟩ := h.alarms a ha
  constructor
  · intro he
    have hk : a.kind = k := h.apart _ _ q p hq hp (hs.trans he)
    rw [hk, hp] at hq
    cases hq
    exact hr.symm
  · intro he
    have hk : a.kind = k := h.kind_of_request hq hp (hr.trans he)
    rw [hk, hp] at hq
    cases hq
    exact hs.symm

theorem number_le {k : CallKind} {p : Pending κ} (hp : t.pending? k = some p) :
    p.request.number ≤ t.issued := by
  refine Nat.le_of_not_lt fun hlt => ?_
  have hnone := (h.unknown p.request hlt).1
  rw [h.timeouts k p hp] at hnone
  cases hnone

/-- An alarm is set for a pending call, or its time has run out. -/
theorem armed_or_fired {k : CallKind} {p : Pending κ} (hp : t.pending? k = some p) :
    (∃ a ∈ t.mailbox.alarms, a.request = p.request) ∨ .timerFired k p.request ∈ t.mailbox.queue := by
  have hone : .timerFired k p.request ∈ t.mailbox.timeouts p.request := by
    rw [h.timeouts k p hp]
    exact List.mem_singleton.mpr rfl
  obtain ⟨hset | hqueued, -⟩ := Mailbox.mem_timeouts.mp hone
  · obtain ⟨a, ha, hpost⟩ := List.mem_map.mp hset
    exact .inl ⟨a, ha, (Post.timerFired.inj hpost).2⟩
  · exact .inr hqueued

/-- A pending call whose time has run out has no alarm. -/
theorem unarmed {k : CallKind} {p : Pending κ} (hp : t.pending? k = some p)
    (hfired : .timerFired k p.request ∈ t.mailbox.queue) :
    ∀ a ∈ t.mailbox.alarms, a.request ≠ p.request := by
  intro a ha hr
  have hone := congrArg List.length (h.timeouts k p hp)
  have hset : 0 < ((t.mailbox.alarms.map Alarm.post).filter (Post.timesOut p.request)).length := by
    refine List.length_pos_of_mem (List.mem_filter.mpr ⟨List.mem_map_of_mem ha, ?_⟩)
    simp [Alarm.post, Post.timesOut, hr]
  have hqueued : 0 < (t.mailbox.queue.filter (Post.timesOut p.request)).length := by
    refine List.length_pos_of_mem (List.mem_filter.mpr ⟨hfired, ?_⟩)
    simp [Post.timesOut]
  rw [Mailbox.timeouts, List.filter_append, List.length_append, List.length_singleton] at hone
  omega

/-! ### Operations on the table -/

/-- Noting a part of an answer. -/
theorem progress {k : CallKind} {p : Pending κ} (hp : t.pending? k = some p)
    (outstanding : List PartShape) :
    { t with pending := t.pending.set k (some { p with outstanding := outstanding }) }.Timed := by
  -- every pending call afterwards is one from before, up to its outstanding parts
  have hback {j : CallKind} {q : Pending κ}
      (hq : pending? { t with
        pending := t.pending.set k (some { p with outstanding := outstanding }) } j = some q) :
      ∃ q', t.pending? j = some q' ∧ q'.request = q.request ∧ q'.alarm = q.alarm ∧
        q'.retries = q.retries := by
    rw [pending?_set] at hq
    split at hq
    · rename_i hj
      cases hq
      exact ⟨p, hj ▸ hp, rfl, rfl, rfl⟩
    · exact ⟨q, hq, rfl, rfl, rfl⟩
  refine ⟨h.isOpen, fun j q hq => ?_, fun a ha => ?_, h.superseded, fun j q hq => ?_, h.unknown,
    fun j q hq => ?_, fun i j q q' hq hq' he => ?_, fun j q hq => ?_, h.deadlines⟩
  · obtain ⟨_, hq', hr, -⟩ := hback hq
    exact hr ▸ h.timeouts j _ hq'
  · obtain ⟨q, hq, hr, hs⟩ := h.alarms a ha
    rw [pending?_set]
    split
    · rename_i hk
      rw [← hk, hp] at hq
      cases hq
      exact ⟨_, rfl, hr, hs⟩
    · exact ⟨q, hq, hr, hs⟩
  · obtain ⟨_, hq', hr, -⟩ := hback hq
    exact hr ▸ h.pending j _ hq'
  · obtain ⟨_, hq', -, hs, -⟩ := hback hq
    exact hs ▸ h.serials j _ hq'
  · obtain ⟨_, hx, -, hsx, -⟩ := hback hq
    obtain ⟨_, hy, -, hsy, -⟩ := hback hq'
    exact h.apart i j _ _ hx hy (hsx.trans (he.trans hsy.symm))
  · obtain ⟨_, hq', -, -, hn⟩ := hback hq
    exact hn ▸ h.retries j _ hq'

/-- Ending the pending call of a kind takes back its alarm, and no other. -/
theorem resolve (k : CallKind) (o : Outcome) : (t.resolve k o).2.Timed := by
  unfold Tracker.resolve
  cases hp : t.pending? k with
  | none => exact h
  | some p =>
    have hback {j : CallKind} {q : Pending κ}
        (hq : pending? { t with
          mailbox := t.mailbox.dropAlarm p.alarm, pending := t.pending.set k none } j = some q) :
        k ≠ j ∧ t.pending? j = some q := by
      rw [pending?_set] at hq
      split at hq
      · cases hq
      · exact ⟨by assumption, hq⟩
    refine ⟨h.isOpen, fun j q hq => ?_, fun a ha => ?_, h.superseded,
      fun j q hq => h.pending j q (hback hq).2, fun r hr => ⟨?_, (h.unknown r hr).2⟩,
      fun j q hq => h.serials j q (hback hq).2,
      fun i j q q' hq hq' => h.apart i j q q' (hback hq).2 (hback hq').2,
      fun j q hq => h.retries j q (hback hq).2, fun a ha => h.deadlines a (List.mem_filter.mp ha).1⟩
    · obtain ⟨hne, hq'⟩ := hback hq
      show (t.mailbox.dropAlarm p.alarm).timeouts q.request = _
      rw [Mailbox.timeouts_dropAlarm, h.timeouts j q hq']
      intro a ha hs hr
      have hother := (h.request_of_serial hp ha).mp hs
      exact hne (h.kind_of_request hp hq' (hother.symm.trans hr))
    · obtain ⟨hmem, hserial⟩ := List.mem_filter.mp ha
      obtain ⟨q, hq, hr, hs⟩ := h.alarms a hmem
      have hne : k ≠ a.kind := by
        intro hk
        rw [← hk, hp] at hq
        cases hq
        simp [hs] at hserial
      refine ⟨q, ?_, hr, hs⟩
      rw [pending?_set, if_neg hne]
      exact hq
    · exact Mailbox.timeouts_eq_nil_of_subset (fun _ ha => (List.mem_filter.mp ha).1)
        (fun _ hp => hp) (h.unknown r hr).1

/-- A call that was not pending and has no timeout is pending once it has an alarm. -/
theorem arm {k : CallKind} (hk : t.pending? k = none) {p : Pending κ}
    (hi : p.request.number ≤ t.issued) (hr : t.mailbox.timeouts p.request = [])
    (hs : .superseded p.request ∉ t.mailbox.queue) (hn : p.retries ≤ t.retries) :
    (t.arm k p).Timed := by
  have hback {j : CallKind} {q : Pending κ} (hq : (t.arm k p).pending? j = some q) :
      (k = j ∧ q = { p with alarm := t.mailbox.nextSerial }) ∨
        (k ≠ j ∧ t.pending? j = some q ∧ p.request ≠ q.request) := by
    unfold Tracker.arm at hq
    rw [pending?_set] at hq
    split at hq
    · cases hq
      exact .inl ⟨by assumption, rfl⟩
    · refine .inr ⟨by assumption, hq, fun he => ?_⟩
      have hone := h.timeouts j q hq
      rw [← he, hr] at hone
      cases hone
  refine ⟨h.isOpen, fun j q hq => ?_, fun a ha => ?_, h.superseded, fun j q hq => ?_,
    fun r hlt => ⟨?_, (h.unknown r hlt).2⟩, fun j q hq => ?_, fun i j q q' hq hq' he => ?_,
    fun j q hq => ?_, fun a ha => ?_⟩
  · rcases hback hq with ⟨rfl, rfl⟩ | ⟨-, hq', hne⟩
    · exact Mailbox.timeouts_setAlarm_self _ _ hr
    · exact (Mailbox.timeouts_setAlarm_of_ne _ _ hne).trans (h.timeouts j q hq')
  · unfold Tracker.arm
    rw [pending?_set]
    rcases List.mem_append.mp ha with ha | ha
    · obtain ⟨q, hq, hqa⟩ := h.alarms a ha
      have hne : k ≠ a.kind := by
        intro he
        rw [← he, hk] at hq
        cases hq
      exact ⟨q, by rw [if_neg hne]; exact hq, hqa⟩
    · obtain rfl := List.mem_singleton.mp ha
      exact ⟨_, if_pos rfl, rfl, rfl⟩
  · rcases hback hq with ⟨rfl, rfl⟩ | ⟨-, hq', -⟩
    · exact hs
    · exact h.pending j q hq'
  · have hne : p.request ≠ r := fun he => Nat.not_lt.mpr hi (he ▸ hlt)
    exact (Mailbox.timeouts_setAlarm_of_ne _ _ hne).trans (h.unknown r hlt).1
  · rcases hback hq with ⟨rfl, rfl⟩ | ⟨-, hq', -⟩
    · exact Nat.lt_succ_self _
    · exact Nat.lt_succ_of_lt (h.serials j q hq')
  · rcases hback hq with ⟨rfl, rfl⟩ | ⟨-, hx, -⟩ <;>
      rcases hback hq' with ⟨rfl, rfl⟩ | ⟨-, hy, -⟩
    · rfl
    · exact absurd he.symm (Nat.ne_of_lt (h.serials _ _ hy))
    · exact absurd he (Nat.ne_of_lt (h.serials _ _ hx))
    · exact h.apart i j q q' hx hy he
  · rcases hback hq with ⟨rfl, rfl⟩ | ⟨-, hq', -⟩
    · exact hn
    · exact h.retries j q hq'
  · rcases List.mem_append.mp ha with ha | ha
    · exact h.deadlines a ha
    · obtain rfl := List.mem_singleton.mp ha
      exact Nat.le_refl _

/-- A superseded call is announced by its post. -/
theorem announce {r : Replaced κ} (hi : r.request.number ≤ t.issued)
    (hr : ∀ k p, t.pending? k = some p → p.request ≠ r.request)
    (hnew : .superseded r.request ∉ t.mailbox.queue) :
    { t with
      mailbox := t.mailbox.post (.superseded r.request)
      superseded := t.superseded ++ [r] }.Timed := by
  have hmailbox := Mailbox.post_eq h.isOpen (.superseded r.request)
  refine ⟨by rw [hmailbox]; exact h.isOpen, fun k p hp => ?_, ?_, fun q hq => ?_, fun k p hp => ?_,
    fun q hq => ⟨?_, ?_⟩, ?_, h.apart, h.retries, ?_⟩
  · exact (Mailbox.timeouts_post h.isOpen rfl).trans (h.timeouts k p hp)
  · rw [hmailbox]
    exact h.alarms
  · rw [hmailbox]
    simp only [List.count_append, List.count_singleton]
    rcases List.mem_append.mp hq with hq | hq
    · have hone := h.superseded q hq
      have hne : q.request ≠ r.request := by
        intro he
        rw [he] at hone
        rw [List.count_eq_zero_of_not_mem hnew] at hone
        cases hone
      simp [hone, hne.symm]
    · obtain rfl := List.mem_singleton.mp hq
      simp [List.count_eq_zero_of_not_mem hnew]
  · rw [hmailbox]
    simp only [List.mem_append, List.mem_singleton, Post.superseded.injEq, not_or]
    exact ⟨h.pending k p hp, hr k p hp⟩
  · exact (Mailbox.timeouts_post h.isOpen rfl).trans (h.unknown q hq).1
  · rw [hmailbox]
    simp only [List.mem_append, List.mem_singleton, Post.superseded.injEq, not_or]
    exact ⟨(h.unknown q hq).2, fun he => Nat.not_lt.mpr hi (he ▸ hq)⟩
  · rw [hmailbox]
    exact h.serials
  · rw [hmailbox]
    exact h.deadlines

/-- A superseded call ends while its post is still there. -/
theorem endSuperseded (r : RequestId) :
    { t with superseded := t.superseded.filter fun s => s.request != r }.Timed :=
  { h with superseded := fun q hq => h.superseded q (List.mem_filter.mp hq).1 }

/-! ### The mailbox around the table -/

/-- A post that neither runs a pending call out of time nor ends a superseded one may go. -/
theorem leave {post : Post} {ps : List Post} (hq : t.mailbox.queue = post :: ps)
    (hp : ∀ k p, t.pending? k = some p → post ≠ .timerFired k p.request)
    (hs : ∀ r ∈ t.superseded, post ≠ .superseded r.request) :
    { t with mailbox := { t.mailbox with queue := ps } }.Timed := by
  have hrest : ps ⊆ t.mailbox.queue := fun _ hmem => hq ▸ List.mem_cons_of_mem _ hmem
  refine ⟨h.isOpen, fun k p hk => ?_, h.alarms, fun r hr => ?_,
    fun k p hk hmem => h.pending k p hk (hrest hmem),
    fun r hr => ⟨?_, fun hmem => (h.unknown r hr).2 (hrest hmem)⟩, h.serials, h.apart, h.retries,
    h.deadlines⟩
  · refine (Mailbox.timeouts_rest hq ?_).trans (h.timeouts k p hk)
    refine Bool.eq_false_iff.mpr fun hout => ?_
    have hmem : post ∈ t.mailbox.timeouts p.request :=
      Mailbox.mem_timeouts.mpr ⟨.inr (hq ▸ List.mem_cons_self), hout⟩
    rw [h.timeouts k p hk] at hmem
    exact hp k p hk (List.mem_singleton.mp hmem)
  · have hone := h.superseded r hr
    rw [hq, List.count_cons_of_ne (hs r hr)] at hone
    exact hone
  · exact Mailbox.timeouts_eq_nil_of_subset (m := t.mailbox) (fun _ ha => ha) hrest (h.unknown r hr).1

/-- A mailbox in which the same timeouts and posts for superseded calls are to be found. -/
theorem withMailbox {m : Mailbox} (ho : m.isOpen = true)
    (htimeouts : ∀ r, m.timeouts r ~ t.mailbox.timeouts r)
    (hcount : ∀ r, m.queue.count (.superseded r) = t.mailbox.queue.count (.superseded r))
    (halarms : m.alarms ⊆ t.mailbox.alarms) (hserial : m.nextSerial = t.mailbox.nextSerial)
    (hnow : t.mailbox.now ≤ m.now) : { t with mailbox := m }.Timed := by
  have hnever {r : RequestId} (hr : .superseded r ∉ t.mailbox.queue) : .superseded r ∉ m.queue := by
    rw [← List.count_eq_zero] at hr ⊢
    exact (hcount r).trans hr
  refine ⟨ho, fun k p hp => ?_, fun a ha => h.alarms a (halarms ha),
    fun r hr => (hcount _).trans (h.superseded r hr), fun k p hp => hnever (h.pending k p hp),
    fun r hr => ⟨?_, hnever (h.unknown r hr).2⟩, fun k p hp => hserial ▸ h.serials k p hp, h.apart,
    h.retries, fun a ha => Nat.le_trans (h.deadlines a (halarms ha)) (Nat.add_le_add_right hnow _)⟩
  · have hperm := htimeouts p.request
    rw [h.timeouts k p hp] at hperm
    exact List.perm_singleton.mp hperm
  · have hperm := htimeouts r
    rw [(h.unknown r hr).1] at hperm
    exact hperm.eq_nil

/-- Posts from outside come. -/
theorem hear {p : Post} (hp : p.isOwn = false) : { t with mailbox := t.mailbox.post p }.Timed := by
  have hmailbox := Mailbox.post_eq h.isOpen p
  refine h.withMailbox (by rw [hmailbox]; exact h.isOpen) (fun r => ?_) (fun r => ?_)
    (fun _ ha => congrArg Mailbox.alarms hmailbox ▸ ha) (by rw [hmailbox])
    (Nat.le_of_eq (congrArg Mailbox.now hmailbox).symm)
  · rw [Mailbox.timeouts_post h.isOpen (p.timesOut_of_isOwn hp r)]
  · rw [hmailbox]
    simp [List.count_append, p.ne_superseded_of_isOwn hp r]

theorem setClock (now : Nat) : { t with mailbox := t.mailbox.setClock now }.Timed :=
  h.withMailbox h.isOpen (fun _ => .refl _) (fun _ => rfl) (fun _ ha => ha) rfl (Nat.le_max_left _ _)

theorem ringBut (late : List Nat) : { t with mailbox := t.mailbox.ringBut late }.Timed := by
  have hring := Mailbox.ringBut_eq h.isOpen late
  refine h.withMailbox (by rw [hring]; exact h.isOpen) (Mailbox.timeouts_ringBut h.isOpen late)
    (Mailbox.count_superseded_ringBut h.isOpen late) (fun a ha => ?_) (by rw [hring])
    (Nat.le_of_eq (congrArg Mailbox.now hring).symm)
  rw [hring] at ha
  exact (List.mem_filter.mp ha).1

/-! ### What is done to a tracker -/

theorem supersede (k : CallKind) : (t.supersede k).Timed := by
  cases hp : t.pending? k with
  | none =>
    have hsame : t.supersede k = t := by simp only [Tracker.supersede, hp]
    rwa [hsame]
  | some p =>
    have hresolved : (t.resolve k .superseded).2.Timed := h.resolve k .superseded
    have hsame : t.supersede k = { (t.resolve k .superseded).2 with
        mailbox := (t.resolve k .superseded).2.mailbox.post (.superseded p.request)
        superseded := (t.resolve k .superseded).2.superseded ++
          [⟨k, p.request, p.completion⟩] } := by
      simp only [Tracker.supersede, Tracker.resolve, hp]
    rw [hsame]
    refine hresolved.announce (r := ⟨k, p.request, p.completion⟩) ?_ (fun j q hq he => ?_) ?_
    · simp only [Tracker.resolve, hp]
      exact h.number_le hp
    · simp only [Tracker.resolve, hp, pending?_set] at hq
      split at hq
      · cases hq
      · rename_i hne
        exact hne (h.kind_of_request hp hq he.symm)
    · simp only [Tracker.resolve, hp]
      exact h.pending k p hp

/-- Registering a call ends the wait for the one it replaces and begins its own. -/
theorem register_eq (k : CallKind) (args : CallArgs) (c : κ) :
    (t.register k args c).2 = { t.supersede k with issued := t.issued + 1 }.arm k
      ⟨⟨t.issued + 1⟩, args, t.retries, t.mailbox.nextSerial, k.shapes, c⟩ := by
  have hpending : pending? { t with
      issued := t.issued + 1
      mailbox := t.mailbox.setAlarm t.timeout k ⟨t.issued + 1⟩ } k = t.pending? k := rfl
  unfold Tracker.register Tracker.arm Tracker.supersede
  dsimp only
  rw [hpending]
  cases hp : t.pending? k with
  | none => rfl
  | some p =>
    have hserial := Nat.ne_of_gt (h.serials k p hp)
    simp [Mailbox.post, Mailbox.dropAlarm, Mailbox.setAlarm, h.isOpen, hserial]

theorem register (k : CallKind) (args : CallArgs) (c : κ) : (t.register k args c).2.Timed := by
  have hs : (t.supersede k).Timed := h.supersede k
  have hissued : (t.supersede k).issued = t.issued := issued_supersede t k
  have hretries : (t.supersede k).retries = t.retries := (settings_supersede t k).2
  have hnext : { t.supersede k with issued := t.issued + 1 }.Timed :=
    { hs with unknown := fun r hr => hs.unknown r (hissued ▸ Nat.lt_of_succ_lt hr) }
  have hnew := hs.unknown ⟨t.issued + 1⟩ (hissued ▸ Nat.lt_succ_self _)
  rw [h.register_eq]
  refine hnext.arm ?_ (Nat.le_refl _) hnew.1 hnew.2 (Nat.le_of_eq hretries.symm)
  have hcalls : (t.supersede k).calls.get k = none := by
    rw [calls_supersede]
    exact PerKind.get_set_self _ _ _
  rw [get_calls] at hcalls
  exact Option.map_eq_none_iff.mp hcalls

omit h in
/-- The alarms of the pending calls are taken back, and the mailbox stays as it is. -/
theorem mailboxAtRest_eq (t : Tracker κ) : t.mailboxAtRest = { t.mailbox with
    alarms := t.mailbox.alarms.filter fun a =>
      t.pending.toList.all fun p => p.all fun p => a.serial != p.alarm } := by
  unfold mailboxAtRest
  dsimp only
  generalize t.pending.toList = ps
  generalize t.mailbox = m
  induction ps generalizing m with
  | nil =>
    have hkeep : (m.alarms.filter fun _ => true) = m.alarms := List.filter_eq_self.mpr fun _ _ => rfl
    simp only [List.foldl_nil, List.all_nil, hkeep]
  | cons p ps ih =>
    rw [List.foldl_cons, ih]
    cases p with
    | none => rfl
    | some p => simp [Mailbox.dropAlarm, List.filter_filter, Bool.and_comm]

/-- A cancelled call leaves no alarm behind; nor does a tracker that is dropped with its calls. -/
theorem alarms_atRest : t.mailboxAtRest.alarms = [] := by
  rw [mailboxAtRest_eq]
  refine List.filter_eq_nil_iff.mpr fun a ha hall => ?_
  obtain ⟨p, hp, -, hs⟩ := h.alarms a ha
  have hne := List.all_eq_true.mp hall (some p) (PerKind.mem_toList.mpr ⟨a.kind, hp⟩)
  simp [hs] at hne

theorem cancelAll : t.cancelAll.2.Timed := by
  have hnone := t.pending?_cancelAll
  have halarms : t.cancelAll.2.mailbox.alarms = [] := h.alarms_atRest
  have hqueue : t.cancelAll.2.mailbox.queue = t.mailbox.queue := by
    show t.mailboxAtRest.queue = _
    rw [mailboxAtRest_eq]
  refine ⟨?_, fun k p hp => absurd hp (hnone k p), by simp [halarms], nofun,
    fun k p hp => absurd hp (hnone k p), fun r hr => ⟨?_, hqueue ▸ (h.unknown r hr).2⟩,
    fun k p hp => absurd hp (hnone k p), fun k _ p _ hp => absurd hp (hnone k p),
    fun k p hp => absurd hp (hnone k p), by simp [halarms]⟩
  · show t.mailboxAtRest.isOpen = true
    rw [mailboxAtRest_eq]
    exact h.isOpen
  · refine Mailbox.timeouts_eq_nil_of_subset ?_ (fun _ hp => hqueue ▸ hp) (h.unknown r hr).1
    rw [halarms]
    exact List.nil_subset _

/-- A call whose time has run out is taken out of the table, and its post out of the queue. -/
theorem expire {k : CallKind} {p : Pending κ} {ps : List Post} (hp : t.pending? k = some p)
    (hq : t.mailbox.queue = .timerFired k p.request :: ps) :
    (Tracker.resolve { t with mailbox := { t.mailbox with queue := ps } } k .timedOut).2.Timed := by
  have hended := h.resolve k .timedOut
  simp only [Tracker.resolve, hp] at hended
  simp only [Tracker.resolve, pending?] at hp ⊢
  rw [hp]
  refine hended.leave hq (fun j q hj he => ?_) (fun _ _ he => by cases he)
  obtain ⟨rfl, -⟩ := Post.timerFired.inj he
  rw [pending?_set, if_pos rfl] at hj
  cases hj

/-- A call whose time has run out is given one more wait, and its post is gone. -/
theorem wait {k : CallKind} {p : Pending κ} {ps : List Post} (hp : t.pending? k = some p)
    (hq : t.mailbox.queue = .timerFired k p.request :: ps) :
    (Tracker.arm { t with mailbox := { t.mailbox with queue := ps } } k
      { p with retries := p.retries - 1 }).Timed := by
  have hended := h.expire hp hq
  have hfired : .timerFired k p.request ∈ t.mailbox.queue := hq ▸ List.mem_cons_self
  -- its alarm has gone off, so there is none to take back
  have hdrop : t.mailbox.dropAlarm p.alarm = t.mailbox := by
    have hkeep : (t.mailbox.alarms.filter fun a => a.serial != p.alarm) = t.mailbox.alarms := by
      refine List.filter_eq_self.mpr fun a ha => ?_
      have hne : a.serial ≠ p.alarm := fun hs =>
        h.unarmed hp hfired a ha ((h.request_of_serial hp ha).mp hs)
      simpa using hne
    rw [Mailbox.dropAlarm, hkeep]
  have hresolved : (Tracker.resolve { t with mailbox := { t.mailbox with queue := ps } } k .timedOut).2 =
      { t with mailbox := { t.mailbox with queue := ps }, pending := t.pending.set k none } := by
    have hdrop' := congrArg Mailbox.alarms hdrop
    simp only [Tracker.resolve, pending?] at hp ⊢
    simp only [hp, Mailbox.dropAlarm] at hdrop' ⊢
    rw [hdrop']
  rw [hresolved] at hended
  have hnumber : p.request.number ≤ t.issued := h.number_le hp
  have harmed := hended.arm (k := k) (p := { p with retries := p.retries - 1 })
    (PerKind.get_set_self _ _ _) hnumber (Mailbox.timeouts_rest_self hq (h.timeouts k p hp))
    (fun hmem => h.pending k p hp (hq ▸ List.mem_cons_of_mem _ hmem))
    (Nat.le_trans (Nat.sub_le _ _) (h.retries k p hp))
  simpa only [Tracker.arm, PerKind.set_set] using harmed

/-- A post that was taken out and applied. -/
theorem take {post : Post} {ps : List Post} (hq : t.mailbox.queue = post :: ps) :
    (apply { t with mailbox := { t.mailbox with queue := ps } } post).2.Timed := by
  have happ := applies { t with mailbox := { t.mailbox with queue := ps } } post
  generalize apply { t with mailbox := { t.mailbox with queue := ps } } post = r at happ
  obtain ⟨o, t'⟩ := r
  dsimp only at happ ⊢
  cases happ with
  | nothing _ hp hs => exact h.leave hq hp hs
  | progress r k p hp outstanding =>
    have hleft := h.leave hq (fun _ _ _ => nofun) (fun _ _ => nofun)
    exact hleft.progress hp outstanding
  | answered _ hown k o p hp =>
    have hleft := h.leave hq
      (fun _ _ _ he => by subst he; cases hown) (fun _ _ he => by subst he; cases hown)
    exact hleft.resolve k o
  | superseded r =>
    have hended := h.endSuperseded r.request
    refine hended.leave hq (fun _ _ _ => nofun) fun q hmem he => ?_
    have hne := (List.mem_filter.mp hmem).2
    simp [(Post.superseded.inj he).symm] at hne
  | expires k p hp _ => exact h.expire hp hq
  | waits k p hp _ => exact h.wait hp hq

end Timed

end Tracker

end PointerShare
