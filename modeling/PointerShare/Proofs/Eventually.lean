/-
# However late, an errand ends

An errand ends in time if nothing is put off. Here everything may be late: the
remote input service answers when it likes or never, posts lie about while the
clock runs on, and timers are handled long after they went off. If only posts are
taken again and again, and the clock passes every time, the errand ends all the
same.

What a pending call has before it are its waits, the present one and one for
each retry. A wait lasts until the clock has passed the deadline of the alarm, and
then until the timer has been taken, after all that was queued before it. Then
there is one wait less, and without any the call is not pending. No move adds a
wait (`Tracker.WaitsAtMost`).

Key definitions: `Tracker.WaitsAtMost`, `Station.course`, `Station.Fair`, `Station.Waiting`.
Key theorems: `Tracker.kept_waits`, `Station.Waiting.step`, `Station.ends_of_fair`.
-/
import PointerShare.Proofs.InTime
import PointerShare.Proofs.Issuing
import PointerShare.Proofs.MailOrder

namespace PointerShare

/-! ### The waits of a call -/

namespace Mailbox

variable {m : Mailbox} {t : Nat}

/-- When the clock has run, only later alarms are left of those that were set. -/
theorem alarms_advanceTo {a : Alarm} (ha : a ∈ (m.advanceTo t).alarms) :
    a ∈ m.alarms ∧ t < a.deadline := by
  refine advanceTo_induction (P := fun m' => m'.alarms ⊆ m.alarms)
    (Q := fun m' => ∀ a ∈ m'.alarms, a ∈ m.alarms ∧ t < a.deadline) (fun h _ _ _ => ?_)
    (fun h hlate a ha => ⟨h ha, hlate a ha⟩) (List.Subset.refl _) a ha
  rw [ring, alarms_postAll]
  exact fun b hb => h (List.mem_filter.mp hb).1

theorem now_advanceTo (m : Mailbox) (t : Nat) : (m.advanceTo t).now = max m.now t := by
  refine advanceTo_induction (P := fun m' => max m'.now t = max m.now t)
    (Q := fun m' => m'.now = max m.now t) (fun {m' a} h _ hle _ => ?_) (fun h _ => h) rfl
  rw [ring, now_postAll]
  show max (max m'.now a.deadline) t = _
  omega

end Mailbox

namespace Tracker

variable {κ : Type}

/-- If the call numbered `r` is pending, it has at most `n` waits before it. If it has as many, the
deadlines of the alarms that are set for it satisfy `D`. -/
structure WaitsAtMost (t : Tracker κ) (r : RequestId) (n : Nat) (D : Nat → Prop) : Prop where
  known : r.number ≤ t.issued
  waits : ∀ k p, t.pending? k = some p → p.request = r → p.retries < n
  alarms : ∀ k p, t.pending? k = some p → p.request = r → p.retries + 1 = n →
    ∀ a ∈ t.mailbox.alarms, a.request = r → D a.deadline

variable {t : Tracker κ} {r : RequestId} {n : Nat} {D : Nat → Prop}

/-- A call has one wait and one for each retry. -/
theorem Timed.waitsAtMost (ht : t.Timed) {k : CallKind} {p : Pending κ} (hp : t.pending? k = some p) :
    t.WaitsAtMost p.request (t.retries + 1) fun _ => True where
  known := ht.number_le hp
  waits _ _ hq _ := Nat.lt_succ_of_le (ht.retries _ _ hq)
  alarms _ _ _ _ _ _ _ _ := trivial

namespace WaitsAtMost

variable (h : t.WaitsAtMost r n D)
include h

/-- No alarm is set for longer than a timeout. -/
theorem before (ht : t.Timed) : t.WaitsAtMost r n (· ≤ t.mailbox.now + t.timeout) :=
  ⟨h.known, h.waits, fun _ _ _ _ _ a ha _ => ht.deadlines a ha⟩

/-- The call goes on as it was, or with a wait less. -/
theorem of_back {t' : Tracker κ} (hissued : t.issued ≤ t'.issued)
    (hback : ∀ k p', t'.pending? k = some p' → p'.request = r → p'.retries + 1 < n ∨
      (∃ j p, t.pending? j = some p ∧ p.request = r ∧ p.retries = p'.retries) ∧
        ∀ a ∈ t'.mailbox.alarms, a.request = r → a ∈ t.mailbox.alarms) : t'.WaitsAtMost r n D := by
  refine ⟨Nat.le_trans h.known hissued, fun k p' hp' hr => ?_, fun k p' hp' hr hn a ha hra => ?_⟩
  · rcases hback k p' hp' hr with hless | ⟨⟨j, p, hp, hpr, hsame⟩, -⟩
    · exact Nat.lt_of_succ_lt hless
    · exact hsame ▸ h.waits j p hp hpr
  · rcases hback k p' hp' hr with hless | ⟨⟨j, p, hp, hpr, hsame⟩, halarms⟩
    · exact absurd hn (Nat.ne_of_lt hless)
    · exact h.alarms j p hp hpr (hsame ▸ hn) a (halarms a ha hra) hra

theorem of_mailbox {m : Mailbox} (ha : m.alarms ⊆ t.mailbox.alarms) :
    { t with mailbox := m }.WaitsAtMost r n D :=
  h.of_back (Nat.le_refl _) fun k p hp hr => .inr ⟨⟨k, p, hp, hr, rfl⟩, fun _ hmem _ => ha hmem⟩

theorem cancelAll : t.cancelAll.2.WaitsAtMost r n D :=
  h.of_back (Nat.le_refl _) fun k p hp => absurd hp (t.pending?_cancelAll k p)

theorem hear (ht : t.Timed) (p : Post) : { t with mailbox := t.mailbox.post p }.WaitsAtMost r n D := by
  rw [Mailbox.post_eq ht.isOpen]
  exact h.of_mailbox (List.Subset.refl _)

theorem resolve (k : CallKind) (o : Outcome) : (t.resolve k o).2.WaitsAtMost r n D := by
  have hissued : (t.resolve k o).2.issued = t.issued := by
    unfold Tracker.resolve
    split <;> rfl
  exact h.of_back (Nat.le_of_eq hissued.symm) fun j p hp hr =>
    .inr ⟨⟨j, p, (pending?_of_resolve hp).2, hr, rfl⟩, fun a ha _ => t.alarms_resolve k o ha⟩

/-- A newer call is another call. -/
theorem register (ht : t.Timed) (k : CallKind) (args : CallArgs) (c : κ) :
    (t.register k args c).2.WaitsAtMost r n D := by
  have hnew {q : RequestId} (hq : q = ⟨t.issued + 1⟩) : q ≠ r := by
    rintro rfl
    have hknown := h.known
    rw [hq] at hknown
    exact Nat.not_succ_le_self _ hknown
  refine h.of_back (Nat.le_of_lt (t.issued_register k args c ▸ Nat.lt_succ_self _))
    fun j p hp hr => .inr ⟨⟨j, p, ?_, hr, rfl⟩, fun a ha hra => ?_⟩
  · by_cases hk : k = j
    · subst hk
      rw [pending?_register_self] at hp
      obtain rfl := Option.some.inj hp
      exact absurd hr (hnew rfl)
    · rwa [pending?_register t args c hk] at hp
  · exact (alarms_register ht ha).resolve_right fun ⟨hq, _⟩ => hnew hq hra

/-- One more wait is one wait less. -/
theorem wait (ht : t.Timed) {k : CallKind} {q : Pending κ} (hq : t.pending? k = some q)
    (hn : q.retries ≠ 0) : (t.arm k { q with retries := q.retries - 1 }).WaitsAtMost r n D := by
  refine h.of_back (Nat.le_refl _) fun j p hp hr => ?_
  rw [Tracker.arm, pending?_set] at hp
  split at hp
  · obtain rfl := Option.some.inj hp
    have hless := h.waits k q hq hr
    exact .inl (show q.retries - 1 + 1 < n by omega)
  · refine .inr ⟨⟨j, p, hp, hr, rfl⟩, fun a ha hra => ?_⟩
    rcases List.mem_append.mp ha with ha | ha
    · exact ha
    · obtain rfl := List.mem_singleton.mp ha
      have hkj : k = j := ht.kind_of_request hq hp (hra.trans hr.symm)
      contradiction

/-- A post that was taken out and applied. -/
theorem take (ht : t.Timed) (post : Post) (ps : List Post) :
    (apply { t with mailbox := { t.mailbox with queue := ps } } post).2.WaitsAtMost r n D := by
  have hrest : { t with mailbox := { t.mailbox with queue := ps } }.WaitsAtMost r n D :=
    h.of_mailbox (List.Subset.refl _)
  have happ := applies { t with mailbox := { t.mailbox with queue := ps } } post
  generalize apply { t with mailbox := { t.mailbox with queue := ps } } post = result at happ
  obtain ⟨o, t'⟩ := result
  dsimp only at happ ⊢
  cases happ with
  | nothing => exact hrest
  | superseded => exact ⟨hrest.known, hrest.waits, hrest.alarms⟩
  | answered _ _ k o => exact hrest.resolve k o
  | expires k => exact hrest.resolve k .timedOut
  | waits k q hq hn => exact (h.wait ht hq hn).of_mailbox (List.Subset.refl _)
  | progress _ k q hq outstanding =>
    refine hrest.of_back (Nat.le_refl _) fun j p hp hr => .inr ⟨?_, fun _ ha _ => ha⟩
    rw [pending?_set] at hp
    split at hp
    · obtain rfl := Option.some.inj hp
      exact ⟨k, q, hq, hr, rfl⟩
    · exact ⟨j, p, hp, hr, rfl⟩

end WaitsAtMost

/-- No move adds a wait. -/
theorem kept_waits (r : RequestId) (n : Nat) (D : Nat → Prop) :
    Kept fun t : Tracker κ => t.Timed ∧ t.WaitsAtMost r n D where
  register := fun h k args c => ⟨h.1.register k args c, h.2.register h.1 k args c⟩
  cancelAll := fun h => ⟨h.1.cancelAll, h.2.cancelAll⟩
  hear := fun h p hp => ⟨h.1.hear hp, h.2.hear h.1 p⟩
  take := fun h _ _ hq => ⟨h.1.take hq, h.2.take h.1 _ _⟩

/-- The wait that is over was the last one, or there is one less. -/
theorem WaitsAtMost.expire (h : t.WaitsAtMost r (n + 1) D) (ht : t.Timed) {k : CallKind}
    {q : Pending κ} (hq : t.pending? k = some q) (hr : q.request = r) (ps : List Post) :
    (apply { t with mailbox := { t.mailbox with queue := ps } }
      (.timerFired k r)).2.WaitsAtMost r n fun _ => True := by
  subst hr
  -- nobody but `q` has the number
  have hself {j : CallKind} {p : Pending κ} (hp : t.pending? j = some p)
      (hr : p.request = q.request) : k = j := ht.kind_of_request hq hp hr.symm
  have hless := h.waits k q hq rfl
  have hrest : { t with mailbox := { t.mailbox with queue := ps } }.WaitsAtMost q.request (n + 1) D :=
    h.of_mailbox (List.Subset.refl _)
  have hq' : { t with mailbox := { t.mailbox with queue := ps } }.pending? k = some q := hq
  by_cases hn : q.retries = 0
  · rw [apply_timer_of_no_retries hq' hn]
    refine ⟨(hrest.resolve k .timedOut).known, fun j p hp hr => ?_, fun _ _ _ _ _ _ _ _ => trivial⟩
    obtain ⟨hne, hp⟩ := pending?_of_resolve hp
    exact absurd (hself hp hr) hne
  · rw [apply_timer_of_retries hq' hn]
    refine ⟨h.known, fun j p hp hr => ?_, fun _ _ _ _ _ _ _ _ => trivial⟩
    rw [Tracker.arm, pending?_set] at hp
    split at hp
    · obtain rfl := Option.some.inj hp
      show q.retries - 1 < n
      omega
    · exact absurd (hself hp hr) (by assumption)

end Tracker

/-! ### Runs without end -/

namespace Station

/-- The station after the first `n` moves. -/
def course (s : Station) (moves : Nat → Move) : Nat → Station
  | 0 => s
  | n + 1 => (s.course moves n).step (moves n)

/-- Posts are taken again and again, and the clock passes every time. -/
structure Fair (s : Station) (moves : Nat → Move) : Prop where
  takes : ∀ n, ∃ i, n ≤ i ∧ moves i = .take
  clock : ∀ n time, ∃ i, n ≤ i ∧ time ≤ (s.course moves i).now

theorem course_eq_run (s : Station) (moves : Nat → Move) (n : Nat) :
    s.course moves n = s.run ((List.range n).map moves) := by
  induction n with
  | zero => rfl
  | succ n ih =>
    rw [List.range_succ, List.map_append, run_append, ← ih]
    rfl

/-- The clock runs on and posts are taken, by turns. -/
def byTurns (i : Nat) : Move := if i % 2 = 0 then .happen (.clock i) else .take

theorem fair_byTurns (s : Station) : s.Fair byTurns where
  takes n := ⟨2 * n + 1, by omega, if_neg (by omega)⟩
  clock n time := by
    refine ⟨2 * (n + time) + 1, by omega, ?_⟩
    have hclock : byTurns (2 * (n + time)) = .happen (.clock (2 * (n + time))) := if_pos (by omega)
    rw [course, hclock]
    show time ≤ (Mailbox.advanceTo _ (2 * (n + time))).now
    rw [Mailbox.now_advanceTo]
    omega

section leads

variable {s : Station} {moves : Nat → Move} {Q : Station → Prop}

/-- What every move keeps holds from now on, until `Q` does. -/
theorem holds_until {P : Station → Prop} (hstep : ∀ s m, P s → P (s.step m) ∨ Q (s.step m)) {n i : Nat}
    (hi : n ≤ i) (h : P (s.course moves n)) :
    P (s.course moves i) ∨ ∃ j, n ≤ j ∧ Q (s.course moves j) := by
  obtain ⟨d, rfl⟩ := Nat.exists_eq_add_of_le hi
  clear hi
  induction d with
  | zero => exact .inl h
  | succ d ih =>
    rcases ih with hp | hq
    · exact (hstep _ (moves (n + d)) hp).imp_right fun hq => ⟨n + d + 1, by omega, hq⟩
    · exact .inr hq

/-- What is a number of posts away comes about. -/
theorem Fair.takes_lead (hf : s.Fair moves) {P : Nat → Station → Prop}
    (hstep : ∀ i s m, P i s → P i (s.step m) ∨ Q (s.step m))
    (htake : ∀ i s, P (i + 1) s → P i (s.step .take) ∨ Q (s.step .take))
    (hzero : ∀ s, ¬ P 0 s) (i : Nat) : ∀ {n : Nat}, P i (s.course moves n) →
      ∃ j, n ≤ j ∧ Q (s.course moves j) := by
  induction i with
  | zero => exact fun h => absurd h (hzero _)
  | succ i ih =>
    intro n h
    obtain ⟨l, hl, hm⟩ := hf.takes n
    rcases holds_until (hstep (i + 1)) hl h with hp | hq
    · have hnext : s.course moves (l + 1) = (s.course moves l).step .take := by rw [course, hm]
      rcases htake i _ hp with hp | hq <;> rw [← hnext] at *
      · obtain ⟨j, hj, hq⟩ := ih hp
        exact ⟨j, by omega, hq⟩
      · exact ⟨l + 1, by omega, hq⟩
    · exact hq

/-- What cannot last beyond a time does not. -/
theorem Fair.clock_leads (hf : s.Fair moves) {P : Station → Prop} {time : Nat}
    (hstep : ∀ s m, P s → P (s.step m) ∨ Q (s.step m)) (hearly : ∀ s, P s → s.now < time) {n : Nat}
    (h : P (s.course moves n)) : ∃ j, n ≤ j ∧ Q (s.course moves j) := by
  obtain ⟨l, hl, hlate⟩ := hf.clock n time
  rcases holds_until hstep hl h with hp | hq
  · exact absurd (hearly _ hp) (Nat.not_lt.mpr hlate)
  · exact hq

end leads

/-! ### An errand with its call -/

/-- The errand `e` is open. Its call `x` is pending, with at most `n` waits before it; if it has as many,
the deadline of its alarm satisfies `D`. -/
structure Waiting (e : Errand) (k : CallKind) (x : Call Continuation) (n : Nat) (D : Nat → Prop)
    (s : Station) : Prop where
  speaks : s.Speaks
  timed : s.gateway.tracker.Timed
  phase : Phase s.control (some e)
  call : s.control.calls.get k = some x
  isTransition : x.completion.isTransition = true
  waits : s.gateway.tracker.WaitsAtMost x.request n D

/-- The errand `e` is over, or fewer than `f` of its calls follow the present one. -/
def GoneOn (e : Errand) (f : Nat) (s : Station) : Prop :=
  s.guard = .idle ∨ ∃ k x n, x.completion.followers < f ∧ Waiting e k x n (fun _ => True) s

section waiting

variable {s : Station} {m : Move} {e : Errand} {k : CallKind} {x : Call Continuation} {n : Nat}
  {D : Nat → Prop}

theorem waiting_of_get (hw : s.Speaks) (ht : s.gateway.tracker.Timed) (h : Phase s.control (some e))
    (hx : s.control.calls.get k = some x) (hn : x.completion.isTransition = true) :
    Waiting e k x (s.gateway.tracker.retries + 1) (fun _ => True) s := by
  obtain ⟨p, hp, hr⟩ := pending_of_get hx
  exact ⟨hw, ht, h, hx, hn, hr ▸ ht.waitsAtMost hp⟩

/-- A move leaves the call with the waits it has, if it does not end it. -/
theorem Waiting.step (h : Waiting e k x n D s) (m : Move) :
    Waiting e k x n D (s.step m) ∨ GoneOn e x.completion.followers (s.step m) := by
  cases hb : (s.step m).guard.isBusy with
  | false => exact .inr (.inl (Guard.isBusy_eq_false_iff.mp hb))
  | true =>
    have hw := speaks_step m h.speaks
    have ht := timed_step m h.timed
    have hphase := ((Engaged.of_open h.speaks h.phase m).step hb).1
    rcases waits_or_follows h.speaks h.phase hb h.call h.isTransition with
      hx | ⟨-, k', x', hx', hn', hless⟩
    · refine .inl ⟨hw, ht, hphase, hx, h.isTransition, ?_⟩
      refine ((Tracker.kept_waits _ _ _).step (fun now _ hnow => ?_) ⟨h.timed, h.waits⟩).2
      exact ⟨hnow.1.advanceTo now, hnow.2.of_mailbox fun a ha => (Mailbox.alarms_advanceTo ha).1⟩
    · exact .inr (.inr ⟨k', x', _, hless, waiting_of_get hw ht hphase hx' hn'⟩)

theorem Waiting.less (h : Waiting e k x (n + 1) D s) {p : Pending Continuation}
    (hp : s.gateway.tracker.pending? k = some p) (hr : p.request = x.request) (hless : p.retries < n) :
    Waiting e k x n (fun _ => True) s := by
  refine { h with waits := ⟨h.waits.known, fun j q hq hrq => ?_, fun _ _ _ _ _ _ _ _ => trivial⟩ }
  obtain rfl := h.timed.kind_of_request hp hq (hr.trans hrq.symm)
  rw [hp] at hq
  exact Option.some.inj hq ▸ hless

/-- A call whose alarm is gone has a wait less, or its timer is queued. -/
theorem Waiting.fired (h : Waiting e k x (n + 1) D s)
    (hgone : ∀ a ∈ s.gateway.mailbox.alarms, ¬ D a.deadline) :
    Waiting e k x n (fun _ => True) s ∨ .timerFired k x.request ∈ s.gateway.mailbox.queue := by
  obtain ⟨p, hp, hr⟩ := pending_of_get h.call
  by_cases hless : p.retries < n
  · exact .inl (h.less hp hr hless)
  · have hn := h.waits.waits k p hp hr
    rcases h.timed.armed_or_fired hp with ⟨a, ha, hra⟩ | hfired
    · exact absurd (h.waits.alarms k p hp hr (by omega) a ha (hra.trans hr)) (hgone a ha)
    · exact .inr (hr ▸ hfired)

/-- When its timer is taken, the call has a wait less. -/
theorem Waiting.take_timer (h : Waiting e k x (n + 1) D s) {ps : List Post}
    (hq : s.gateway.mailbox.queue = .timerFired k x.request :: ps) :
    Waiting e k x n (fun _ => True) (s.step .take) ∨ GoneOn e x.completion.followers (s.step .take) := by
  refine (h.step .take).imp_left fun hstep => { hstep with waits := ?_ }
  obtain ⟨p, hp, hr⟩ := pending_of_get h.call
  have hless := h.waits.expire h.timed hp hr ps
  have htimed := h.timed.take (show _ = Post.timerFired k x.request :: ps from hq)
  rw [step_take_of_cons hq]
  refine ((Tracker.kept_waits _ _ _).uses (works_receive _ (.timerFired k x.request)).gateway ?_).2
  exact ⟨htimed, hless⟩

end waiting

section fair

variable {s : Station} {moves : Nat → Move} {e : Errand}

/-- A wait is over when its timer is taken. -/
theorem Fair.taken_of_waiting (hf : s.Fair moves) {k : CallKind} {x : Call Continuation} {n : Nat}
    {D : Nat → Prop} {i : Nat} (h : Waiting e k x (n + 1) D (s.course moves i))
    (hfired : .timerFired k x.request ∈ (s.course moves i).gateway.mailbox.queue) :
    ∃ j, Waiting e k x n (fun _ => True) (s.course moves j) ∨
      GoneOn e x.completion.followers (s.course moves j) := by
  let P (l : Nat) (s : Station) : Prop :=
    Waiting e k x (n + 1) D s ∧ .timerFired k x.request ∈ s.gateway.mailbox.queue.take l
  let Q (s : Station) : Prop :=
    Waiting e k x n (fun _ => True) s ∨ GoneOn e x.completion.followers s
  have hmore {ps ps' : List Post} (h : ps <+: ps') (l : Nat) : ps.take l ⊆ ps'.take l := by
    obtain ⟨new, rfl⟩ := h
    rw [List.take_append]
    exact List.subset_append_left _ _
  have htake (l : Nat) (s : Station) (hp : P (l + 1) s) : P l (s.step .take) ∨ Q (s.step .take) := by
    obtain ⟨h, hmem⟩ := hp
    cases hq : s.gateway.mailbox.queue with
    | nil => simp [hq] at hmem
    | cons p ps =>
      rw [hq, List.take_succ_cons] at hmem
      rcases List.mem_cons.mp hmem with rfl | hmem
      · exact .inr (h.take_timer hq)
      · exact (h.step .take).imp (fun h => ⟨h, hmore (queue_take hq) l hmem⟩) .inr
  have hstep (l : Nat) (s : Station) (m : Move) (hp : P l s) : P l (s.step m) ∨ Q (s.step m) := by
    by_cases hm : m = .take
    · subst hm
      cases l with
      | zero => cases hp.2
      | succ l =>
        exact (htake l s hp).imp_left fun hp => ⟨hp.1, (List.take_subset_take_left _ (Nat.le_succ l)) hp.2⟩
    · exact (hp.1.step m).imp (fun h => ⟨h, hmore (queue_step hm) l hp.2⟩) .inr
  obtain ⟨j, -, hj⟩ := hf.takes_lead hstep htake (fun s hp => by cases hp.2) _
    (show P (s.course moves i).gateway.mailbox.queue.length _ from ⟨h, by rwa [List.take_length]⟩)
  exact ⟨j, hj⟩

/-- A wait is over when the clock has passed its deadline and its timer has been taken. -/
theorem Fair.wait_of_waiting (hf : s.Fair moves) {k : CallKind} {x : Call Continuation} {n i : Nat}
    (h : Waiting e k x (n + 1) (fun _ => True) (s.course moves i)) :
    ∃ j, Waiting e k x n (fun _ => True) (s.course moves j) ∨
      GoneOn e x.completion.followers (s.course moves j) := by
  let last := (s.course moves i).now + (s.course moves i).gateway.tracker.timeout
  let P (s : Station) : Prop := Waiting e k x (n + 1) (· ≤ last) s ∧ s.now < last + 1
  let Q (s : Station) : Prop := (Waiting e k x n (fun _ => True) s ∨ GoneOn e x.completion.followers s) ∨
    Waiting e k x (n + 1) (· ≤ last) s ∧ .timerFired k x.request ∈ s.gateway.mailbox.queue
  have hstep (s : Station) (m : Move) (hp : P s) : P (s.step m) ∨ Q (s.step m) := by
    obtain ⟨h, hearly⟩ := hp
    rcases h.step m with h' | hgone
    · by_cases hlate : (s.step m).now < last + 1
      · exact .inl ⟨h', hlate⟩
      · -- it is this move that lets the clock pass the deadline
        have hclock : m.clock? ≠ none := fun hm => hlate (by rwa [now_step hm])
        obtain ⟨time, hm⟩ := Option.ne_none_iff_exists'.mp hclock
        obtain rfl : m = .happen (.clock time) := by
          unfold Move.clock? at hm
          split at hm
          · rw [Option.some.inj hm]
          · cases hm
        have hnow : (s.step (.happen (.clock time))).now = max s.now time :=
          s.gateway.mailbox.now_advanceTo time
        refine .inr ((h'.fired fun a ha => ?_).imp .inl fun hfired => ⟨h', hfired⟩)
        have hdue : time < a.deadline := (Mailbox.alarms_advanceTo ha).2
        omega
    · exact .inr (.inl (.inr hgone))
  obtain ⟨j, -, hj | ⟨hj, hfired⟩⟩ := hf.clock_leads hstep (fun _ hp => hp.2)
    (show P (s.course moves i) from ⟨{ h with waits := h.waits.before h.timed }, by omega⟩)
  · exact ⟨j, hj⟩
  · exact hf.taken_of_waiting hj hfired

/-- The calls of an errand end one after the other, by the waits they have. -/
theorem Fair.ends_of_waiting (hf : s.Fair moves) (f : Nat) : ∀ (n : Nat) {k : CallKind}
    {x : Call Continuation} {i : Nat}, x.completion.followers = f →
      Waiting e k x n (fun _ => True) (s.course moves i) → ∃ j, (s.course moves j).guard = .idle := by
  induction f using Nat.strongRecOn with
  | ind f ihf =>
    intro n
    induction n with
    | zero =>
      intro k x i _ h
      obtain ⟨p, hp, hr⟩ := pending_of_get h.call
      exact absurd (h.waits.waits k p hp hr) (Nat.not_lt_zero _)
    | succ n ihn =>
      intro k x i hx h
      obtain ⟨j, hj | hidle | ⟨k', x', n', hless, hj⟩⟩ := hf.wait_of_waiting h
      · exact ihn hx hj
      · exact ⟨j, hidle⟩
      · exact ihf _ (hx ▸ hless) n' rfl hj

/-- **However late, an errand ends.** Whatever the remote input service does, an errand is over some time
after it began if posts are taken again and again and the clock passes every time. -/
theorem ends_of_fair (hw : s.Speaks) (ht : s.gateway.tracker.Timed) (h : Phase s.control (some e))
    (hf : s.Fair moves) : ∃ n, (s.course moves n).guard = .idle := by
  obtain ⟨k, x, hx, hn⟩ := waits_of_open h
  exact hf.ends_of_waiting (e := e) _ _ (i := 0) rfl (waiting_of_get hw ht h hx hn)

end fair

end Station

end PointerShare
