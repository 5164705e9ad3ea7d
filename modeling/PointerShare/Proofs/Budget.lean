/-
# How long a call waits

A call is given one wait and as many again as there are retries. Each ends when
the call's own expired timer is taken out of the mailbox and handled, and the
next begins then. So a call that nothing else ends times out at the expired
timer after its last retry, and neither answers that do not decide it nor the
timers of other calls have a part in this. Posts that are handled late make
the next wait begin late: a call never times out before all its waits have
passed, and if nothing is put off it does at that very time.

`Audit.expiries` lists when the expired timers of a call were handled. That each
is due (`Tracker.NotBefore`) is kept by every move but the one that sets the
next alarm; the other bound is that of `Tracker.EndsBy`.

Key definitions: `Audit.expiry`, `Audit.expiries`, `Tracker.NotBefore`,
`Audit.Withdrawn`, `Audit.EndedOtherwise`, `Audit.Fate`.
Key theorems: `Audit.notBefore_feed`, `Audit.pending_feed`, `Audit.fate_feed`,
`Audit.fate_follow`, `Audit.times_out_at_last_expiry`.
-/
import Mathlib.Data.List.Nodup
import PointerShare.Proofs.Answers
import PointerShare.Proofs.Draining

namespace PointerShare

variable {κ : Type}

/-! ### What is set or queued for a call -/

namespace Tracker

/-- Nothing runs the call numbered `r` out of time before `due`. -/
structure NotBefore (t : Tracker κ) (due : Nat) (r : RequestId) : Prop where
  alarm : ∀ a ∈ t.mailbox.alarms, a.request = r → due ≤ a.deadline
  queued : ∀ k, .timerFired k r ∈ t.mailbox.queue → due ≤ t.mailbox.now

variable {t : Tracker κ} {due : Nat} {r : RequestId}

/-- What is set or queued for the call has been so before, and the clock does not go back. -/
theorem NotBefore.of_subset {t' : Tracker κ} (h : t.NotBefore due r)
    (ha : ∀ a ∈ t'.mailbox.alarms, a.request = r → a ∈ t.mailbox.alarms)
    (hq : ∀ k, .timerFired k r ∈ t'.mailbox.queue → .timerFired k r ∈ t.mailbox.queue)
    (hnow : t.mailbox.now ≤ t'.mailbox.now) : t'.NotBefore due r where
  alarm a hmem hr := h.alarm a (ha a hmem hr) hr
  queued k hmem := Nat.le_trans (h.queued k (hq k hmem)) hnow

/-- An alarm that goes off was due. -/
theorem NotBefore.ringBut (h : t.NotBefore due r) (ho : t.mailbox.isOpen = true) (late : List Nat) :
    { t with mailbox := t.mailbox.ringBut late }.NotBefore due r := by
  rw [Mailbox.ringBut_eq ho]
  refine ⟨fun a ha => h.alarm a (List.mem_filter.mp ha).1, fun k hmem => ?_⟩
  rcases List.mem_append.mp hmem with hmem | hmem
  · exact h.queued k hmem
  · obtain ⟨a, ha, hpost⟩ := List.mem_map.mp hmem
    obtain ⟨ha, hgone⟩ := List.mem_filter.mp ha
    have hdue := h.alarm a ha (Post.timerFired.inj hpost).2
    simp only [Mailbox.goesOff, Bool.and_eq_true, decide_eq_true_eq] at hgone
    exact Nat.le_trans hdue hgone.1

/-- A call for which nothing is set or queued is not run out of time at all. -/
theorem notBefore_of_timeouts (h : t.mailbox.timeouts r = []) (due : Nat) : t.NotBefore due r := by
  have hnone {p : Post} (hp : p ∈ t.mailbox.alarms.map Alarm.post ∨ p ∈ t.mailbox.queue) :
      ¬ p.timesOut r = true := by
    intro hout
    have hmem := Mailbox.mem_timeouts.mpr ⟨hp, hout⟩
    rw [h] at hmem
    cases hmem
  refine ⟨fun a ha hr => ?_, fun k hmem => ?_⟩
  · exact absurd (by simp [Alarm.post, Post.timesOut, hr]) (hnone (.inl (List.mem_map_of_mem ha)))
  · exact absurd (by simp [Post.timesOut]) (hnone (.inr hmem))

theorem alarms_resolve (t : Tracker κ) (k : CallKind) (o : Outcome) :
    (t.resolve k o).2.mailbox.alarms ⊆ t.mailbox.alarms := by
  unfold resolve
  split
  · exact fun _ h => h
  · exact fun _ h => (List.mem_filter.mp h).1

theorem now_resolve (t : Tracker κ) (k : CallKind) (o : Outcome) :
    (t.resolve k o).2.mailbox.now = t.mailbox.now := by
  unfold resolve
  split <;> rfl

theorem NotBefore.resolve (h : t.NotBefore due r) (k : CallKind) (o : Outcome) :
    (t.resolve k o).2.NotBefore due r :=
  h.of_subset (fun _ ha _ => t.alarms_resolve k o ha) (fun _ hq => t.queue_resolve k o ▸ hq)
    (Nat.le_of_eq (t.now_resolve k o).symm)

/-- An alarm that is set for the call itself, or for another one. -/
theorem NotBefore.arm (h : t.NotBefore due r) (k : CallKind) (p : Pending κ)
    (hdue : p.request = r → due ≤ t.mailbox.now + t.timeout) : (t.arm k p).NotBefore due r := by
  refine ⟨fun a ha hr => ?_, h.queued⟩
  rcases List.mem_append.mp ha with ha | ha
  · exact h.alarm a ha hr
  · obtain rfl := List.mem_singleton.mp ha
    exact hdue hr

theorem NotBefore.supersede (h : t.NotBefore due r) (ht : t.Timed) (k : CallKind) :
    (t.supersede k).NotBefore due r := by
  cases hp : t.pending? k with
  | none =>
    have hsame : t.supersede k = t := by simp only [Tracker.supersede, hp]
    rwa [hsame]
  | some old =>
    simp only [Tracker.supersede, hp, Mailbox.post_eq (m := t.mailbox.dropAlarm old.alarm) ht.isOpen]
    refine h.of_subset (fun a ha _ => (List.mem_filter.mp ha).1) (fun j hmem => ?_) (Nat.le_refl _)
    exact (List.mem_append.mp hmem).resolve_right (by simp)

theorem now_supersede (ht : t.Timed) (k : CallKind) :
    (t.supersede k).mailbox.now = t.mailbox.now := by
  unfold Tracker.supersede
  split
  · rfl
  · rw [Mailbox.post_eq (m := t.mailbox.dropAlarm _) ht.isOpen]
    rfl

/-- Registering a call sets an alarm for that call only. -/
theorem NotBefore.register (h : t.NotBefore due r) (ht : t.Timed) (k : CallKind) (args : CallArgs)
    (c : κ) (hdue : (t.register k args c).1 = r → due ≤ t.mailbox.now + t.timeout) :
    (t.register k args c).2.NotBefore due r := by
  have hs := h.supersede ht k
  have hnext : { t.supersede k with issued := t.issued + 1 }.NotBefore due r := ⟨hs.alarm, hs.queued⟩
  rw [ht.register_eq]
  refine hnext.arm k _ fun hr => ?_
  show due ≤ (t.supersede k).mailbox.now + (t.supersede k).timeout
  rw [now_supersede ht, (t.settings_supersede k).1]
  exact hdue hr

/-- Another post is applied than an expired timer of the call. -/
theorem NotBefore.apply (h : t.NotBefore due r) {post : Post} (hp : post.timesOut r = false) :
    (t.apply post).2.NotBefore due r := by
  have happ := applies t post
  generalize t.apply post = result at happ
  obtain ⟨o, t'⟩ := result
  dsimp only at happ ⊢
  cases happ with
  | nothing => exact h
  | progress | superseded => exact ⟨h.alarm, h.queued⟩
  | answered _ _ k o => exact h.resolve k o
  | expires k => exact h.resolve k .timedOut
  | waits k q =>
    refine h.arm k _ fun hr => ?_
    have hr : q.request = r := hr
    simp [Post.timesOut, hr] at hp

/-- The tracker with these posts in its mailbox. -/
def withQueue (t : Tracker κ) (ps : List Post) : Tracker κ :=
  { t with mailbox := { t.mailbox with queue := ps } }

/-- The expired timer of a call without retries. -/
theorem apply_timer_of_no_retries {k : CallKind} {p : Pending κ} (hp : t.pending? k = some p)
    (hr : p.retries = 0) : t.apply (.timerFired k p.request) = t.resolve k .timedOut := by
  simp only [Tracker.apply, onTimer, current?_of_pending? hp, if_pos hr]

theorem apply_timer_of_retries {k : CallKind} {p : Pending κ} (hp : t.pending? k = some p)
    (hr : p.retries ≠ 0) :
    t.apply (.timerFired k p.request) = (none, t.arm k { p with retries := p.retries - 1 }) := by
  simp only [Tracker.apply, onTimer, current?_of_pending? hp, if_neg hr]
  rfl

/-- Only an expired timer makes a call time out. -/
theorem outcome_apply {p : Post} (hp : p.isOwn = false) {e : Resolved κ}
    (h : (t.apply p).1 = some e) : e.outcome ≠ .timedOut := by
  cases p with
  | timerFired | superseded => cases hp
  | relay => cases h
  | reply q =>
    rcases t.onReply_none_or_resolve q with hnone | ⟨o, ho, heq⟩
    · rw [apply, hnone] at h
      cases h
    · rw [apply, heq] at h
      rw [(of_resolve h).2]
      rcases ho with rfl | rfl <;> nofun
  | issueFailed k q =>
    simp only [apply, onIssueFailed] at h
    split at h
    · cases h
    · rw [(of_resolve h).2]
      nofun

/-- Unless it is its expired timer, a post leaves a pending call its retries and its alarm, or ends
it in time. -/
theorem pending?_apply {k : CallKind} {p : Pending κ} (hp : t.pending? k = some p) {post : Post}
    (hpost : post.timesOut p.request = false) :
    (∃ p', (t.apply post).2.pending? k = some p' ∧ callOf p' = callOf p ∧ p'.retries = p.retries ∧
      p'.alarm = p.alarm) ∨
    ∃ o, o ≠ .timedOut ∧ (t.apply post).1 = some ⟨k, p.request, o, p.completion⟩ := by
  have happ := t.applies post
  have hout := @outcome_apply κ t post
  generalize t.apply post = result at happ hout ⊢
  obtain ⟨o, t'⟩ := result
  dsimp only at happ hout ⊢
  have hother (j : CallKind) (o : Outcome) (hj : j ≠ k) : (t.resolve j o).2.pending? k = some p :=
    (pending?_resolve o hj).trans hp
  cases happ with
  | nothing | superseded => exact .inl ⟨p, hp, rfl, rfl, rfl⟩
  | progress _ j q hq outstanding =>
    by_cases hj : j = k
    · subst hj
      rw [hp] at hq
      cases hq
      exact .inl ⟨_, PerKind.get_set_self _ _ _, rfl, rfl, rfl⟩
    · exact .inl ⟨p, (PerKind.get_set_of_ne _ hj _).trans hp, rfl, rfl, rfl⟩
  | answered _ hown j o =>
    by_cases hj : j = k
    · subst hj
      have hback : (t.resolve j o).1 = some ⟨j, p.request, o, p.completion⟩ := by
        simp only [resolve, hp]
      exact .inr ⟨o, hout hown hback, hback⟩
    · exact .inl ⟨p, hother j o hj, rfl, rfl, rfl⟩
  | expires j q hq =>
    have hj : j ≠ k := fun hj => by
      rw [hj, hp] at hq
      cases hq
      simp [Post.timesOut] at hpost
    exact .inl ⟨p, hother j .timedOut hj, rfl, rfl, rfl⟩
  | waits j q hq =>
    have hj : j ≠ k := fun hj => by
      rw [hj, hp] at hq
      cases hq
      simp [Post.timesOut] at hpost
    exact .inl ⟨p, (PerKind.get_set_of_ne _ hj _).trans hp, rfl, rfl, rfl⟩

end Tracker

/-! ### Expired timers that are handled -/

namespace Audit

/-- The time, if the move is to handle an expired timer of the call numbered `r`. -/
def expiry (r : RequestId) (a : Audit κ) : Feed κ → List Nat
  | .take => match a.tracker.mailbox.queue with
    | p :: _ => if p.timesOut r then [a.tracker.mailbox.now] else []
    | [] => []
  | _ => []

/-- When the expired timers of the call numbered `r` are handled in a run. -/
def expiries (r : RequestId) : Audit κ → List (Feed κ) → List Nat
  | _, [] => []
  | a, f :: fs => a.expiry r f ++ expiries r (a.feed f) fs

variable {r : RequestId}

theorem expiry_take {a : Audit κ} {p : Post} {ps : List Post}
    (hq : a.tracker.mailbox.queue = p :: ps) :
    a.expiry r .take = if p.timesOut r then [a.tracker.mailbox.now] else [] := by
  simp only [expiry, hq]

/-- One expired timer at most is handled at a move, and it is the first post. -/
theorem expiry_eq_nil_or (r : RequestId) (a : Audit κ) (f : Feed κ) : a.expiry r f = [] ∨
    f = .take ∧ a.expiry r f = [a.tracker.mailbox.now] ∧
      ∃ k ps, a.tracker.mailbox.queue = .timerFired k r :: ps := by
  cases f with
  | take =>
    cases hq : a.tracker.mailbox.queue with
    | nil => exact .inl (by simp only [expiry, hq])
    | cons p ps =>
      rw [expiry_take hq]
      cases p with
      | timerFired k q =>
        by_cases hr : q = r
        · subst hr
          exact .inr ⟨rfl, by simp [Post.timesOut], k, ps, rfl⟩
        · exact .inl (by simp [Post.timesOut, hr])
      | reply | issueFailed | superseded | relay => exact .inl rfl
  | register | cancelAll | hear | clock | ring => exact .inl rfl

/-- What is due for a call stays due, until its own expired timer is handled. -/
theorem notBefore_feed {a : Audit κ} (h : a.Regular) (hn : r.number ≤ a.tracker.issued) {due : Nat}
    (hd : a.tracker.NotBefore due r) {f : Feed κ} (hf : a.expiry r f = []) :
    (a.feed f).tracker.NotBefore due r := by
  cases f with
  | register k args c =>
    refine hd.register h.timed k args c fun hr => ?_
    rw [← hr] at hn
    exact absurd hn (Nat.not_succ_le_self _)
  | cancelAll =>
    have hqueue : a.tracker.cancelAll.2.mailbox.queue = a.tracker.mailbox.queue := by
      show a.tracker.mailboxAtRest.queue = _
      rw [Tracker.Timed.mailboxAtRest_eq]
    have hnow : a.tracker.cancelAll.2.mailbox.now = a.tracker.mailbox.now := by
      show a.tracker.mailboxAtRest.now = _
      rw [Tracker.Timed.mailboxAtRest_eq]
    refine hd.of_subset (fun b hb _ => ?_) (fun k hmem => hqueue ▸ hmem) (Nat.le_of_eq hnow.symm)
    have hnone : b ∈ a.tracker.mailboxAtRest.alarms := hb
    rw [h.timed.alarms_atRest] at hnone
    cases hnone
  | hear p hp =>
    have hmailbox := Mailbox.post_eq h.timed.isOpen p
    refine hd.of_subset (fun b hb _ => ?_) (fun k hmem => ?_) ?_
    · exact congrArg Mailbox.alarms hmailbox ▸ hb
    · have hqueue : .timerFired k r ∈ (a.tracker.mailbox.post p).queue := hmem
      rw [hmailbox] at hqueue
      refine (List.mem_append.mp hqueue).resolve_right fun hlast => ?_
      rw [← List.mem_singleton.mp hlast] at hp
      cases hp
    · exact Nat.le_of_eq (congrArg Mailbox.now hmailbox).symm
  | clock now => exact hd.of_subset (fun _ hb _ => hb) (fun _ hmem => hmem) (Nat.le_max_left _ _)
  | ring late => exact hd.ringBut h.timed.isOpen late
  | take =>
    cases hq : a.tracker.mailbox.queue with
    | nil => rwa [feed_take_of_nil hq]
    | cons p ps =>
      have hp : p.timesOut r = false := by
        rw [expiry_take hq] at hf
        exact Bool.eq_false_iff.mpr fun hp => by simp [hp] at hf
      have hrest : (a.tracker.withQueue ps).NotBefore due r :=
        hd.of_subset (fun _ hb _ => hb) (fun _ hmem => hq ▸ List.mem_cons_of_mem _ hmem)
          (Nat.le_refl _)
      rw [feed_take_of_cons hq]
      exact hrest.apply hp

end Audit

/-! ### How else a call can end -/

/-- What is handed back when the call ends in some way. -/
def Ticket.ended (c : Ticket κ) (o : Outcome) : Resolved κ := ⟨c.kind, c.request, o, c.completion⟩

/-- What is handed back when the call times out. -/
def Ticket.timedOut (c : Ticket κ) : Resolved κ := ⟨c.kind, c.request, .timedOut, c.completion⟩

namespace Audit

/-- The call was superseded, or dropped with all others. -/
def Withdrawn (a : Audit κ) (c : Ticket κ) : Prop :=
  c ∈ a.tracker.supersededTickets ∨ c ∈ a.dropped ∨ c.ended .superseded ∈ a.returned

/-- The call was superseded, was dropped with all others, or was handed back for another reason than
that its time was over. -/
def EndedOtherwise (a : Audit κ) (c : Ticket κ) : Prop :=
  c ∈ a.tracker.supersededTickets ∨ c ∈ a.dropped ∨
    ∃ e ∈ a.returned, e.ticket = c ∧ e.outcome ≠ .timedOut

variable {a : Audit κ} {c : Ticket κ}

theorem Withdrawn.endedOtherwise (h : a.Withdrawn c) : a.EndedOtherwise c :=
  h.imp_right fun h => h.imp_right fun h => ⟨_, h, rfl, fun ho => Outcome.noConfusion ho⟩

/-- What is handed back stays so. -/
theorem returned_step (a : Audit κ) (u : Use κ) : a.returned ⊆ (a.step u).returned := by
  cases u with
  | post p => exact List.subset_append_left _ _
  | register | cancelAll | mailbox => exact fun _ h => h

/-- A call that was withdrawn does not come back. -/
theorem Withdrawn.step (h : a.Withdrawn c) (ha : a.Conserves) (u : Use κ) :
    (a.step u).Withdrawn c := by
  rcases h with hs | hd | hback
  · cases u with
    | register k args d =>
      left
      show c ∈ (a.tracker.register k args d).2.superseded.map Replaced.ticket
      rw [Tracker.superseded_register, List.map_append]
      exact List.mem_append_left _ hs
    | cancelAll =>
      refine .inr (.inl ?_)
      simp only [Audit.step, cancelled_eq]
      exact List.mem_append_right _ (List.mem_append_right _ hs)
    | mailbox m => exact .inl hs
    | post p =>
      obtain ⟨q, hq, rfl⟩ := List.mem_map.mp hs
      have happ := a.tracker.applied p
      by_cases hmem : q ∈ (a.tracker.apply p).2.superseded
      · exact .inl (List.mem_map_of_mem hmem)
      · -- its post was taken, and it was handed back as superseded
        refine .inr (.inr ?_)
        show _ ∈ a.returned ++ (a.tracker.apply p).1.toList
        generalize a.tracker.apply p = result at happ hmem ⊢
        obtain ⟨o, t'⟩ := result
        dsimp only at happ hmem ⊢
        cases happ with
        | nothing _ _ hsup | pending _ _ _ _ _ _ _ hsup => exact absurd (hsup ▸ hq) hmem
        | superseded q' _ hq' _ hsup =>
          have hreq : q.request = q'.request := Classical.byContradiction fun hne =>
            hmem (hsup ▸ List.mem_filter.mpr ⟨hq, by simpa using hne⟩)
          have hopen {x : Replaced κ} (hx : x ∈ a.tracker.superseded) : x.ticket ∈ a.registered :=
            ha.accounted.mem_iff.mpr (by
              rw [accounted_eq]
              exact List.mem_append_left _ (List.mem_append_right _ (List.mem_map_of_mem hx)))
          have hsame := ha.eq_of_request (hopen hq) (hopen hq') hreq
          rw [hsame]
          exact List.mem_append_right _ (List.mem_singleton.mpr rfl)
  · exact .inr (.inl (a.dropped_run [u] hd))
  · exact .inr (.inr (a.returned_step u hback))

/-- A call that ended otherwise does not come back. -/
theorem EndedOtherwise.step (h : a.EndedOtherwise c) (ha : a.Conserves) (u : Use κ) :
    (a.step u).EndedOtherwise c := by
  rcases h with hs | hd | ⟨e, he, hc⟩
  · exact (Withdrawn.step (.inl hs) ha u).endedOtherwise
  · exact (Withdrawn.step (.inr (.inl hd)) ha u).endedOtherwise
  · exact .inr (.inr ⟨e, a.returned_step u he, hc⟩)

/-- What every use of a tracker keeps is kept by a move, and by a run, of one that is fed from its own
mailbox. -/
theorem feed_keeps {P : Audit κ → Prop} (hstep : ∀ a u, a.Conserves → P a → P (a.step u))
    (ha : a.Conserves) (h : P a) (f : Feed κ) : P (a.feed f) := by
  unfold Audit.feed
  generalize f.uses a.tracker = us
  induction us generalizing a with
  | nil => exact h
  | cons u us ih => exact ih (conserves_step ha u) (hstep a u ha h)

theorem follow_keeps {P : Audit κ → Prop} (hstep : ∀ a u, a.Conserves → P a → P (a.step u))
    (ha : a.Conserves) (h : P a) (fs : List (Feed κ)) : P (a.follow fs) := by
  induction fs generalizing a with
  | nil => exact h
  | cons f fs ih => exact ih (conserves_run ha _) (feed_keeps hstep ha h f)

theorem Withdrawn.follow (h : a.Withdrawn c) (ha : a.Conserves) (fs : List (Feed κ)) :
    (a.follow fs).Withdrawn c :=
  follow_keeps (P := fun a => a.Withdrawn c) (fun _ u ha h => h.step ha u) ha h fs

theorem EndedOtherwise.feed (h : a.EndedOtherwise c) (ha : a.Conserves) (f : Feed κ) :
    (a.feed f).EndedOtherwise c :=
  feed_keeps (P := fun a => a.EndedOtherwise c) (fun _ u ha h => h.step ha u) ha h f

theorem EndedOtherwise.follow (h : a.EndedOtherwise c) (ha : a.Regular) (fs : List (Feed κ)) :
    (a.follow fs).EndedOtherwise c :=
  follow_keeps (P := fun a => a.EndedOtherwise c) (fun _ u ha h => h.step ha u) ha.conserves h fs

/-! ### What a move does to a pending call -/

variable {k : CallKind} {p : Pending κ}

/-- What taking out a first post comes to. -/
theorem feed_take_eq {post : Post} {ps : List Post} (hq : a.tracker.mailbox.queue = post :: ps) :
    a.feed .take = { a with
      tracker := ((a.tracker.withQueue ps).apply post).2
      returned := a.returned ++ ((a.tracker.withQueue ps).apply post).1.toList } :=
  feed_take_of_cons hq

/-- Unless a post is taken, a pending call stays as it is, or is withdrawn. -/
theorem pending_or_withdrawn (hp : a.tracker.pending? k = some p) {f : Feed κ} (hf : f ≠ .take) :
    (a.feed f).tracker.pending? k = some p ∨
      (a.feed f).Withdrawn ⟨k, p.request, p.completion⟩ := by
  cases f with
  | register j args d =>
    by_cases hj : j = k
    · subst hj
      refine .inr (.inl ?_)
      show _ ∈ (a.tracker.register j args d).2.superseded.map Replaced.ticket
      rw [Tracker.superseded_register, List.map_append, Tracker.ticket_replacedBy,
        Tracker.get_calls, hp]
      exact List.mem_append_right _ (List.mem_singleton.mpr rfl)
    · exact .inl ((Tracker.pending?_register _ args d hj).trans hp)
  | cancelAll =>
    refine .inr (.inr (.inl ?_))
    show _ ∈ a.dropped ++ cancelled a.tracker
    rw [cancelled_eq, Tracker.openTickets_eq]
    refine List.mem_append_right _ (List.mem_append_left _ ?_)
    refine (a.tracker.calls.tickets_perm k).mem_iff.mpr (List.mem_append_left _ ?_)
    rw [Tracker.get_calls, hp]
    exact List.mem_singleton.mpr rfl
  | hear | clock | ring => exact .inl hp
  | take => exact absurd rfl hf

/-- Unless its expired timer is handled, a call keeps its retries and its alarm, or ends otherwise. -/
theorem pending_feed (hp : a.tracker.pending? k = some p) {f : Feed κ}
    (hf : a.expiry p.request f = []) :
    (∃ p', (a.feed f).tracker.pending? k = some p' ∧ Tracker.callOf p' = Tracker.callOf p ∧
      p'.retries = p.retries ∧ p'.alarm = p.alarm) ∨
    (a.feed f).EndedOtherwise ⟨k, p.request, p.completion⟩ := by
  by_cases htake : f = .take
  · subst htake
    cases hq : a.tracker.mailbox.queue with
    | nil =>
      rw [feed_take_of_nil hq]
      exact .inl ⟨p, hp, rfl, rfl, rfl⟩
    | cons post ps =>
      rw [expiry_take hq] at hf
      have hpost : post.timesOut p.request = false :=
        Bool.eq_false_iff.mpr fun hpost => by simp [hpost] at hf
      rw [feed_take_eq hq]
      have hnext := Tracker.pending?_apply (t := a.tracker.withQueue ps) hp hpost
      exact hnext.imp_right fun ⟨o, ho, hback⟩ => .inr (.inr
        ⟨_, List.mem_append_right _ (Option.mem_toList.mpr hback), rfl, ho⟩)
  · exact (pending_or_withdrawn hp htake).imp (fun hp' => ⟨p, hp', rfl, rfl, rfl⟩)
      Withdrawn.endedOtherwise

/-- The expired timer of a pending call names its kind. -/
theorem expiry_of_pending (h : a.Regular) (hp : a.tracker.pending? k = some p) {f : Feed κ}
    (hf : a.expiry p.request f ≠ []) : f = .take ∧ a.expiry p.request f = [a.tracker.mailbox.now] ∧
      ∃ ps, a.tracker.mailbox.queue = .timerFired k p.request :: ps := by
  obtain ⟨rfl, hone, j, ps, hq⟩ := (a.expiry_eq_nil_or p.request f).resolve_left hf
  have hmem : .timerFired j p.request ∈ a.tracker.mailbox.timeouts p.request :=
    Mailbox.mem_timeouts.mpr ⟨.inr (hq ▸ List.mem_cons_self), by simp [Post.timesOut]⟩
  rw [h.timed.timeouts k p hp, List.mem_singleton] at hmem
  obtain ⟨rfl, -⟩ := Post.timerFired.inj hmem
  exact ⟨rfl, hone, ps, hq⟩

section

variable {ps : List Post} (h : a.Regular) (hp : a.tracker.pending? k = some p)
  (hq : a.tracker.mailbox.queue = .timerFired k p.request :: ps)
include h hp hq

/-- After the last wait the call times out, and nothing is left that is for it. -/
theorem feed_take_of_no_retries (hr : p.retries = 0) :
    (a.feed .take).returned = a.returned ++ [Ticket.timedOut ⟨k, p.request, p.completion⟩] ∧
      ∀ due, (a.feed .take).tracker.NotBefore due p.request := by
  have htimer := Tracker.apply_timer_of_no_retries (t := a.tracker.withQueue ps) hp hr
  have hsilent := Tracker.notBefore_of_timeouts (t := a.tracker.withQueue ps)
    (Mailbox.timeouts_rest_self hq (h.timed.timeouts k p hp))
  rw [feed_take_eq hq, htimer]
  refine ⟨congrArg (a.returned ++ ·) ?_, fun due => (hsilent due).resolve k .timedOut⟩
  have hp' : (a.tracker.withQueue ps).pending? k = some p := hp
  simp only [Tracker.resolve, hp']
  rfl

/-- Before, its next wait begins. -/
theorem feed_take_of_retries (hr : p.retries ≠ 0) :
    (a.feed .take).returned = a.returned ∧
      (∃ p', (a.feed .take).tracker.pending? k = some p' ∧
        Tracker.callOf p' = Tracker.callOf p ∧ p'.retries + 1 = p.retries) ∧
      (a.feed .take).tracker.NotBefore (a.tracker.mailbox.now + a.tracker.timeout) p.request := by
  have htimer := Tracker.apply_timer_of_retries (t := a.tracker.withQueue ps) hp hr
  have hsilent := Tracker.notBefore_of_timeouts (t := a.tracker.withQueue ps)
    (Mailbox.timeouts_rest_self hq (h.timed.timeouts k p hp))
  rw [feed_take_eq hq, htimer]
  exact ⟨List.append_nil _,
    ⟨_, PerKind.get_set_self _ _ _, rfl, Nat.succ_pred_eq_of_ne_zero hr⟩,
    (hsilent _).arm k _ fun _ => Nat.le_refl _⟩

end

/-! ### What becomes of a call -/

/-- What became of a call that was registered at `start`, after `n` of its expired timers: it has
`n` retries less and waits for the next, it timed out at the one after its last retry, or
something else has ended it. -/
inductive Fate (a : Audit κ) (start : Nat) (c : Ticket κ) (n : Nat) : Prop
  | waits (p : Pending κ) (hp : a.tracker.pending? c.kind = some p)
      (hc : c = ⟨c.kind, p.request, p.completion⟩) (hn : p.retries + n = a.tracker.retries)
      (hdue : a.tracker.NotBefore (start + a.tracker.timeout * (n + 1)) c.request)
  | timedOut (hback : c.timedOut ∈ a.returned) (hn : n = a.tracker.retries + 1)
      (hdue : ∀ due, a.tracker.NotBefore due c.request)
  | otherwise (h : a.EndedOtherwise c)

/-- What is in the books stays there. -/
theorem books_feed (a : Audit κ) (f : Feed κ) :
    a.registered ⊆ (a.feed f).registered ∧ a.returned ⊆ (a.feed f).returned := by
  unfold Audit.feed
  generalize f.uses a.tracker = us
  induction us generalizing a with
  | nil => exact ⟨fun _ h => h, fun _ h => h⟩
  | cons u us ih =>
    have hstep : a.registered ⊆ (a.step u).registered ∧ a.returned ⊆ (a.step u).returned := by
      refine ⟨?_, a.returned_step u⟩
      cases u with
      | register => exact List.subset_append_left _ _
      | post | cancelAll | mailbox => exact fun _ h => h
    obtain ⟨hregistered, hreturned⟩ := ih (a.step u)
    exact ⟨fun _ h => hregistered (hstep.1 h), fun _ h => hreturned (hstep.2 h)⟩

theorem registered_follow (fs : List (Feed κ)) :
    ∀ a : Audit κ, a.registered ⊆ (a.follow fs).registered := by
  induction fs with
  | nil => exact fun _ _ h => h
  | cons f fs ih => exact fun a _ h => ih (a.feed f) ((a.books_feed f).1 h)

theorem issued_feed (a : Audit κ) (f : Feed κ) : a.tracker.issued ≤ (a.feed f).tracker.issued := by
  unfold Audit.feed
  generalize f.uses a.tracker = us
  induction us generalizing a with
  | nil => exact Nat.le_refl _
  | cons u us ih => exact Nat.le_trans (a.issued_step u) (ih (a.step u))

/-- Nothing that is due now can be for a call for which nothing is set or queued. -/
theorem expiry_of_silent (hdue : ∀ due, a.tracker.NotBefore due c.request) (f : Feed κ) :
    a.expiry c.request f = [] := by
  refine (a.expiry_eq_nil_or c.request f).resolve_right ?_
  rintro ⟨-, -, k, ps, hq⟩
  exact Nat.not_succ_le_self _ ((hdue (a.tracker.mailbox.now + 1)).queued k (hq ▸ List.mem_cons_self))

theorem fate_feed (h : a.Regular) (hn : c.request.number ≤ a.tracker.issued) {start n : Nat}
    (hfate : a.Fate start c n) (f : Feed κ) :
    (a.feed f).Fate start c (n + (a.expiry c.request f).length) := by
  obtain ⟨htimeout, hretries⟩ := a.settings_feed f
  cases hfate with
  | otherwise hother => exact .otherwise (hother.feed h.conserves f)
  | timedOut hback hlast hdue =>
    have hnone := expiry_of_silent hdue f
    rw [hnone]
    exact .timedOut ((a.books_feed f).2 hback) (hretries ▸ hlast)
      fun due => notBefore_feed h hn (hdue due) hnone
  | waits p hp hc hleft hdue =>
    obtain ⟨k, r, d⟩ := c
    obtain ⟨-, rfl, rfl⟩ := Ticket.mk.inj hc
    by_cases hf : a.expiry p.request f = []
    · rcases pending_feed hp hf with ⟨p', hp', hcall, hsame, -⟩ | hother
      · obtain ⟨hr, -, hd⟩ := Call.mk.inj hcall
        rw [hf]
        refine .waits p' hp' (by rw [hr, hd]) ?_ ?_
        · rw [hsame, hretries]
          exact hleft
        · rw [htimeout]
          exact notBefore_feed h hn hdue hf
      · exact .otherwise hother
    · obtain ⟨rfl, hone, ps, hq⟩ := expiry_of_pending h hp hf
      have hnow := hdue.queued k (hq ▸ List.mem_cons_self)
      rw [hone]
      by_cases hr : p.retries = 0
      · obtain ⟨hback, hsilent⟩ := feed_take_of_no_retries h hp hq hr
        refine .timedOut ?_ ?_ hsilent
        · rw [hback]
          exact List.mem_append_right _ (List.mem_singleton.mpr rfl)
        · rw [hretries, ← hleft, hr, Nat.zero_add]
          rfl
      · obtain ⟨-, ⟨p', hp', hcall, hless⟩, hnext⟩ := feed_take_of_retries h hp hq hr
        obtain ⟨hr', -, hd⟩ := Call.mk.inj hcall
        refine .waits p' hp' (by rw [hr', hd]) ?_ ?_
        · rw [hretries, ← hleft, ← hless, List.length_singleton]
          omega
        · rw [htimeout, List.length_singleton, Nat.mul_succ]
          have hlater : start + (a.tracker.timeout * (n + 1) + a.tracker.timeout) ≤
              a.tracker.mailbox.now + a.tracker.timeout := by omega
          exact ⟨fun b hb hrb => Nat.le_trans hlater (hnext.alarm b hb hrb),
            fun j hj => Nat.le_trans hlater (hnext.queued j hj)⟩

theorem fate_follow {start : Nat} (fs : List (Feed κ)) : ∀ {a : Audit κ} {n : Nat}, a.Regular →
    c.request.number ≤ a.tracker.issued → a.Fate start c n →
      (a.follow fs).Fate start c (n + (a.expiries c.request fs).length) := by
  induction fs with
  | nil => exact fun _ _ hfate => hfate
  | cons f fs ih =>
    intro a n h hn hfate
    rw [expiries, List.length_append, ← Nat.add_assoc]
    exact ih (regular_feed h f) (Nat.le_trans hn (a.issued_feed f)) (fate_feed h hn hfate f)

/-- A call that was just registered waits. -/
theorem fate_register (h : a.Regular) (k : CallKind) (args : CallArgs) (d : κ) :
    (a.feed (.register k args d)).Fate a.tracker.mailbox.now
      ⟨k, (a.tracker.register k args d).1, d⟩ 0 := by
  have hunknown := (h.timed.unknown ⟨a.tracker.issued + 1⟩ (Nat.lt_succ_self _)).1
  refine .waits _ (PerKind.get_set_self _ _ _) rfl rfl ?_
  rw [(a.settings_feed _).1, Nat.mul_one]
  exact (Tracker.notBefore_of_timeouts hunknown _).register h.timed k args d fun _ => Nat.le_refl _

/-! ### One place for each call -/

theorem mem_pendingTickets (hp : a.tracker.pending? k = some p) :
    ⟨k, p.request, p.completion⟩ ∈ a.tracker.pendingTickets :=
  List.mem_flatMap.mpr ⟨k, by cases k <;> decide,
    List.mem_map.mpr ⟨p, Option.mem_toList.mpr hp, rfl⟩⟩

/-- A pending call is the one that was registered with its number. -/
theorem Conserves.ticket_of_pending (h : a.Conserves) (hc : c ∈ a.registered)
    (hp : a.tracker.pending? k = some p) (hr : p.request = c.request) :
    c = ⟨k, p.request, p.completion⟩ := by
  refine h.eq_of_request hc (h.accounted.mem_iff.mpr ?_) hr.symm
  rw [accounted_eq]
  exact List.mem_append_left _ (List.mem_append_left _ (mem_pendingTickets hp))

/-- A call is handed back once. -/
theorem Conserves.eq_of_returned (h : a.Conserves) {e e' : Resolved κ} (he : e ∈ a.returned)
    (he' : e' ∈ a.returned) (hr : e.request = e'.request) : e = e' := by
  have hn := h.nodup_accounted
  rw [accounted_eq, List.map_append, List.map_append, List.map_map] at hn
  have hback := (List.nodup_append.mp (List.nodup_append.mp hn).2.1).1
  exact List.inj_on_of_nodup_map hback he he' hr

/-- A call that was handed back is not open, and was not dropped. -/
theorem Conserves.not_returned (h : a.Conserves) (hc : c ∈ a.tracker.openTickets ∨ c ∈ a.dropped)
    {e : Resolved κ} (he : e ∈ a.returned) : e.ticket ≠ c := by
  have hn := h.nodup_accounted
  rw [accounted_eq, List.map_append, List.map_append] at hn
  obtain ⟨-, hrest, hopen⟩ := List.nodup_append.mp hn
  have hmem : e.ticket.request ∈ (a.returned.map Resolved.ticket).map Ticket.request :=
    List.mem_map_of_mem (List.mem_map_of_mem he)
  intro hec
  rcases hc with hc | hc
  · exact hopen _ (List.mem_map_of_mem hc) _ (List.mem_append_left _ hmem) (congrArg _ hec.symm)
  · exact (List.nodup_append.mp hrest).2.2 _ hmem _ (List.mem_map_of_mem hc) (congrArg _ hec)

theorem EndedOtherwise.not_timedOut (h : a.EndedOtherwise c) (ha : a.Conserves) :
    c.timedOut ∉ a.returned := by
  intro hback
  rcases h with hs | hd | ⟨e, he, rfl, ho⟩
  · exact ha.not_returned (.inl (List.mem_append_right _ hs)) hback rfl
  · exact ha.not_returned (.inr hd) hback rfl
  · exact ho (congrArg Resolved.outcome (ha.eq_of_returned he hback rfl))

theorem EndedOtherwise.not_pending (h : a.EndedOtherwise c) (ha : a.Conserves)
    (hc : c ∈ a.tracker.pendingTickets) : False := by
  have hopen : c ∈ a.tracker.openTickets := List.mem_append_left _ hc
  rcases h with hs | hd | ⟨e, he, hec, -⟩
  · have hn := ha.nodup_open
    rw [Tracker.openTickets, List.map_append] at hn
    exact (List.nodup_append.mp hn).2.2 _ (List.mem_map_of_mem hc) _ (List.mem_map_of_mem hs) rfl
  · have hn := ha.nodup_accounted
    rw [accounted_eq, List.map_append, List.map_append] at hn
    exact (List.nodup_append.mp hn).2.2 _ (List.mem_map_of_mem hopen) _
      (List.mem_append_right _ (List.mem_map_of_mem hd)) rfl
  · exact ha.not_returned (.inl hopen) he hec

/-- As long as a call is pending, it has a retry less for each of its expired timers. -/
theorem Fate.of_pending {start n : Nat} (hfate : a.Fate start ⟨k, p.request, p.completion⟩ n)
    (h : a.Regular) (hp : a.tracker.pending? k = some p) :
    p.retries + n = a.tracker.retries ∧
      a.tracker.NotBefore (start + a.tracker.timeout * (n + 1)) p.request := by
  have hopen : _ ∈ a.tracker.pendingTickets := mem_pendingTickets hp
  cases hfate with
  | waits q hq _ hn hdue =>
    rw [hp] at hq
    cases hq
    exact ⟨hn, hdue⟩
  | timedOut hback => exact absurd rfl (h.conserves.not_returned (.inl (List.mem_append_left _ hopen)) hback)
  | otherwise hother => exact (hother.not_pending h.conserves hopen).elim

/-- A call that nothing else has ended is pending, or has timed out. -/
theorem Fate.waits_or_timedOut {start n : Nat} (hfate : a.Fate start c n) (h : a.Regular)
    (hleft : ¬ a.EndedOtherwise c) :
    ((∃ p, a.tracker.pending? c.kind = some p ∧ p.request = c.request) ∧
      c.timedOut ∉ a.returned ∧ n ≤ a.tracker.retries) ∨
    ((∀ p, a.tracker.pending? c.kind = some p → p.request ≠ c.request) ∧
      c.timedOut ∈ a.returned ∧ n = a.tracker.retries + 1) := by
  cases hfate with
  | otherwise hother => exact absurd hother hleft
  | waits p hp hc hn _ =>
    refine .inl ⟨⟨p, hp, (congrArg Ticket.request hc).symm⟩, fun hback => ?_, by omega⟩
    refine h.conserves.not_returned (.inl (List.mem_append_left _ (mem_pendingTickets hp))) hback ?_
    rw [← hc]
    rfl
  | timedOut hback hn hdue =>
    refine .inr ⟨fun p hp hr => ?_, hback, hn⟩
    rcases h.timed.armed_or_fired hp with ⟨b, hb, hrb⟩ | hfired
    · have hlate := (hdue (b.deadline + 1)).alarm b hb (hrb.trans hr)
      omega
    · have hlate := (hdue (a.tracker.mailbox.now + 1)).queued _ (hr ▸ hfired)
      omega

/-- Another move than to handle its expired timer does not make a pending call time out, and leaves it
its retries and its alarm. -/
theorem not_timedOut_of_silent (h : a.Regular) (hc : c ∈ a.registered)
    (hp : a.tracker.pending? k = some p) (hr : p.request = c.request) {f : Feed κ}
    (hf : a.expiry c.request f = []) :
    c.timedOut ∉ (a.feed f).returned ∧ ∀ q, (a.feed f).tracker.pending? k = some q →
      q.request = c.request → q.retries = p.retries ∧ q.alarm = p.alarm := by
  have hnext : (a.feed f).Conserves := (regular_feed h f).conserves
  have hcf : c ∈ (a.feed f).registered := (a.books_feed f).1 hc
  rcases pending_feed hp (hr ▸ hf) with ⟨q, hq, hcall, hsame⟩ | hother
  · have hrq : q.request = c.request := (congrArg Call.request hcall).trans hr
    have hopen : c ∈ (a.feed f).tracker.openTickets :=
      List.mem_append_left _ (hnext.ticket_of_pending hcf hq hrq ▸ mem_pendingTickets hq)
    refine ⟨fun hback => hnext.not_returned (.inl hopen) hback rfl, fun q' hq' _ => ?_⟩
    rw [hq] at hq'
    cases hq'
    exact hsame
  · rw [← h.conserves.ticket_of_pending hc hp hr] at hother
    refine ⟨hother.not_timedOut hnext, fun q hq hrq => ?_⟩
    exact (hother.not_pending hnext
      (hnext.ticket_of_pending hcf hq hrq ▸ mem_pendingTickets hq)).elim

/-- When its expired timer is handled, a pending call times out if it has no retry left. -/
theorem returned_of_expiry (h : a.Regular) (hp : a.tracker.pending? k = some p) {f : Feed κ}
    (hf : a.expiry p.request f ≠ []) : (a.feed f).returned = a.returned ++
      if p.retries = 0 then [Ticket.timedOut ⟨k, p.request, p.completion⟩] else [] := by
  obtain ⟨rfl, -, ps, hq⟩ := expiry_of_pending h hp hf
  by_cases hlast : p.retries = 0
  · rw [if_pos hlast, (feed_take_of_no_retries h hp hq hlast).1]
  · rw [if_neg hlast, (feed_take_of_retries h hp hq hlast).1, List.append_nil]

/-! ### The times of the expired timers -/

theorem getElem_expiries (r : RequestId) (fs : List (Feed κ)) : ∀ (a : Audit κ) (i : Nat)
    (hi : i < (a.expiries r fs).length), ∃ before f after, fs = before ++ f :: after ∧
      (a.expiries r before).length = i ∧ (a.follow before).expiry r f = [(a.expiries r fs)[i]] := by
  induction fs with
  | nil => exact fun _ _ hi => absurd hi (Nat.not_lt_zero _)
  | cons f fs ih =>
    intro a i hi
    simp only [expiries] at hi ⊢
    rcases a.expiry_eq_nil_or r f with hnone | ⟨-, hone, -⟩
    · simp only [hnone, List.nil_append] at hi ⊢
      obtain ⟨before, g, after, rfl, hlen, hg⟩ := ih (a.feed f) i hi
      exact ⟨f :: before, g, after, rfl, by simpa [expiries, hnone] using hlen, hg⟩
    · cases i with
      | zero =>
        refine ⟨[], f, fs, rfl, rfl, ?_⟩
        simp only [hone, List.singleton_append, List.getElem_cons_zero]
        exact hone
      | succ i =>
        simp only [hone, List.singleton_append, List.length_cons, Nat.add_lt_add_iff_right,
          List.getElem_cons_succ] at hi ⊢
        obtain ⟨before, g, after, rfl, hlen, hg⟩ := ih (a.feed f) i hi
        exact ⟨f :: before, g, after, rfl, by simpa [expiries, hone] using hlen, hg⟩

theorem now_register (h : a.Regular) (k : CallKind) (args : CallArgs) (d : κ) :
    (a.feed (.register k args d)).tracker.mailbox.now = a.tracker.mailbox.now := by
  show (a.tracker.register k args d).2.mailbox.now = _
  rw [h.timed.register_eq]
  exact Tracker.now_supersede h.timed k

/-- The run of a call that nothing else ends, from its registration. -/
theorem times_of_fate {start : Nat} (h : a.Regular) (hn : c.request.number ≤ a.tracker.issued)
    (hfate : a.Fate start c 0) {fs : List (Feed κ)} (hleft : ¬ (a.follow fs).EndedOtherwise c) (i : Nat)
    (hi : i < (a.expiries c.request fs).length) :
    start + a.tracker.timeout * (i + 1) ≤ (a.expiries c.request fs)[i] ∧
      (Along feed (fun a f => f.Prompt a.tracker) a fs →
        a.tracker.EndsBy (start + a.tracker.timeout * (a.tracker.retries + 1)) c.request →
        (a.expiries c.request fs)[i] = start + a.tracker.timeout * (i + 1)) := by
  obtain ⟨before, f, after, hfs, hlen, hf⟩ := a.getElem_expiries c.request fs i hi
  generalize (a.expiries c.request fs)[i] = time at hf ⊢
  subst hfs hlen
  have hregular := regular_follow h before
  obtain ⟨htimeout, hretries⟩ := a.settings_follow before
  have hsome : (a.follow before).expiry c.request f ≠ [] := by simp [hf]
  have hat := fate_follow before h hn hfate
  rw [Nat.zero_add] at hat
  cases hat with
  | timedOut _ _ hsilent => exact absurd (expiry_of_silent hsilent f) hsome
  | otherwise hother =>
    refine absurd (hother.follow hregular (f :: after)) ?_
    rwa [follow, List.foldl_append] at hleft
  | waits p hp hc hn hdue =>
    obtain ⟨k, r, d⟩ := c
    obtain ⟨-, rfl, rfl⟩ := Ticket.mk.inj hc
    obtain ⟨rfl, hone, ps, hq⟩ := expiry_of_pending hregular hp hsome
    have hfired : .timerFired k p.request ∈ (a.follow before).tracker.mailbox.queue :=
      hq ▸ List.mem_cons_self
    obtain rfl : time = _ := List.singleton_inj.mp (hf.symm.trans hone)
    dsimp only at hn hdue ⊢
    have hlower := hdue.queued k hfired
    rw [htimeout] at hlower
    refine ⟨hlower, fun hprompt hends => ?_⟩
    have hupper := (endsBy_follow h (along_append.mp hprompt).1 hends).queued k p hp rfl hfired
    rw [htimeout] at hupper
    rw [hretries] at hn
    have hsplit : a.tracker.timeout * (a.tracker.retries + 1) = a.tracker.timeout * p.retries +
        a.tracker.timeout * ((a.expiries p.request before).length + 1) := by
      rw [← Nat.mul_add, ← hn, Nat.add_assoc]
    omega

/-- **A call that nothing else ends times out at its last expired timer.** Take a call that was
registered at `start`, and any run since. Unless it was superseded, cancelled or answered, it is
pending as long as not more of its own expired timers were handled than it has retries, and times
out with the next. Each is handled when all waits so far have passed, or later, and at that very
time if nothing is put off; in such a run the call has timed out by the end of its last wait. At every
move, a pending call has a retry less for each expired timer so far; another move than to handle
one of them, such as an answer that does not decide the call or the timer of another call, neither
makes it time out nor changes its retries or its alarm. -/
theorem times_out_at_last_expiry (timeout retries : Nat) (earlier : List (Feed κ)) (k : CallKind)
    (args : CallArgs) (completion : κ) (later : List (Feed κ)) :
    let a := (empty timeout retries : Audit κ).follow earlier
    let c : Ticket κ := ⟨k, (a.tracker.register k args completion).1, completion⟩
    let b := a.feed (.register k args completion)
    let d := b.follow later
    let start := a.tracker.mailbox.now
    let times := b.expiries c.request later
    let prompt := Along feed (fun a f => f.Prompt a.tracker) b later
    (¬ d.EndedOtherwise c →
      ((∃ p, d.tracker.pending? k = some p ∧ p.request = c.request) ↔ times.length ≤ retries) ∧
      (c.timedOut ∈ d.returned ↔ times.length = retries + 1) ∧ times.length ≤ retries + 1 ∧
      (∀ i (hi : i < times.length), start + timeout * (i + 1) ≤ times[i] ∧
        (prompt → times[i] = start + timeout * (i + 1))) ∧
      (prompt → d.tracker.mailbox.Quiet →
        start + timeout * (retries + 1) ≤ d.tracker.mailbox.now → c.timedOut ∈ d.returned)) ∧
    ∀ p, d.tracker.pending? k = some p → p.request = c.request →
      p.retries + times.length = retries ∧ ∀ f,
        (d.expiry c.request f = [] → c.timedOut ∉ (d.feed f).returned ∧
          ∀ q, (d.feed f).tracker.pending? k = some q → q.request = c.request →
            q.retries = p.retries ∧ q.alarm = p.alarm) ∧
        (d.expiry c.request f ≠ [] → (d.feed f).returned =
          d.returned ++ if times.length = retries then [c.timedOut] else []) := by
  intro a c b d start times prompt
  have ha : a.Regular := regular_follow (regular_empty timeout retries) earlier
  have hb : b.Regular := regular_feed ha _
  have hd : d.Regular := regular_follow hb later
  obtain ⟨htimeout, hretries⟩ : b.tracker.timeout = timeout ∧ b.tracker.retries = retries := by
    obtain ⟨ht, hr⟩ := a.settings_feed (.register k args completion)
    obtain ⟨ht', hr'⟩ := (empty timeout retries : Audit κ).settings_follow earlier
    exact ⟨ht.trans ht', hr.trans hr'⟩
  obtain ⟨htimeoutd, hretriesd⟩ : d.tracker.timeout = timeout ∧ d.tracker.retries = retries := by
    obtain ⟨ht, hr⟩ := b.settings_follow later
    exact ⟨ht.trans htimeout, hr.trans hretries⟩
  have hn : c.request.number ≤ b.tracker.issued :=
    Nat.le_of_eq (a.tracker.issued_register k args completion).symm
  have hfate : d.Fate start c times.length := by
    have hrun := fate_follow later hb hn (fate_register ha k args completion)
    rwa [Nat.zero_add] at hrun
  have hends : b.tracker.EndsBy (start + b.tracker.timeout * (b.tracker.retries + 1)) c.request := by
    have hlast := hb.timed.endsBy hn
    rwa [now_register ha] at hlast
  rw [htimeout, hretries] at hends
  refine ⟨fun hleft => ?_, fun p hp hr => ?_⟩
  · have htimes (i : Nat) (hi : i < times.length) : start + timeout * (i + 1) ≤ times[i] ∧
        (prompt → times[i] = start + timeout * (i + 1)) := by
      have hone := times_of_fate hb hn (fate_register ha k args completion) hleft i hi
      rw [htimeout, hretries] at hone
      exact ⟨hone.1, fun hprompt => hone.2 hprompt hends⟩
    rcases hfate.waits_or_timedOut hd hleft with ⟨hp, hback, hle⟩ | ⟨hp, hback, hlast⟩
    · rw [hretriesd] at hle
      refine ⟨iff_of_true hp hle, iff_of_false hback (by omega), by omega, htimes,
        fun hprompt hq hnow => ?_⟩
      -- at the end of its last wait, when nothing is left to do, it would not be pending
      obtain ⟨p, hp, hr⟩ := hp
      exact absurd hr (hd.timed.ended (endsBy_follow hb hprompt hends) hq hnow hp)
    · rw [hretriesd] at hlast
      exact ⟨iff_of_false (fun ⟨p, hp', hr⟩ => hp p hp' hr) (by omega), iff_of_true hback hlast,
        by omega, htimes, fun _ _ _ => hback⟩
  · have hc : c ∈ d.registered :=
      registered_follow later b (List.mem_append_right _ (List.mem_singleton.mpr rfl))
    have hcp : c = ⟨k, p.request, p.completion⟩ := hd.conserves.ticket_of_pending hc hp hr
    obtain ⟨hleft, -⟩ := (hcp ▸ hfate).of_pending hd hp
    rw [hretriesd] at hleft
    refine ⟨hleft, fun f => ⟨not_timedOut_of_silent hd hc hp hr, fun hf => ?_⟩⟩
    rw [returned_of_expiry hd hp (hr ▸ hf), ← hcp]
    by_cases hlast : p.retries = 0
    · rw [if_pos hlast, if_pos (by omega)]
    · rw [if_neg hlast, if_neg (by omega)]

/-- A start with one retry, half answered at 5, and a stop that is registered meanwhile: the start is
tried once more at 10, and is over at 20. -/
theorem half_answered_start_times_out :
    let start := (empty 10 1 : Audit Nat).feed (.register .start ⟨⟨"a"⟩, ⟨"b"⟩, []⟩ 1)
    let first : List (Feed Nat) := [.clock 5, .hear (.reply ⟨.start, ⟨1⟩, .pair ⟨"a"⟩ ⟨"b"⟩, 0⟩) rfl,
      .take, .register .stop ⟨⟨"a"⟩, ⟨"b"⟩, []⟩ 2, .clock 10, .ring [], .take]
    let second : List (Feed Nat) := [.clock 15, .ring [], .take, .clock 20, .ring [], .take]
    (start.expiries ⟨1⟩ first = [10] ∧
      (∃ p, (start.follow first).tracker.pending? .start = some p ∧ p.request = ⟨1⟩)) ∧
      start.expiries ⟨1⟩ (first ++ second) = [10, 20] ∧
      ⟨.start, ⟨1⟩, .timedOut, 1⟩ ∈ (start.follow (first ++ second)).returned := by
  intro start first second
  have hleft : ¬ (start.follow (first ++ second)).EndedOtherwise ⟨.start, ⟨1⟩, 1⟩ := by
    unfold EndedOtherwise
    decide +kernel
  have hleft' : ¬ (start.follow first).EndedOtherwise ⟨.start, ⟨1⟩, 1⟩ := by
    unfold EndedOtherwise
    decide +kernel
  obtain ⟨hwaits, -⟩ := (times_out_at_last_expiry 10 1 [] .start ⟨⟨"a"⟩, ⟨"b"⟩, []⟩ 1 first).1 hleft'
  obtain ⟨-, hover, -⟩ :=
    (times_out_at_last_expiry 10 1 [] .start ⟨⟨"a"⟩, ⟨"b"⟩, []⟩ 1 (first ++ second)).1 hleft
  exact ⟨⟨by decide +kernel, hwaits.mpr (by decide +kernel)⟩, by decide +kernel,
    hover.mpr (by decide +kernel)⟩

end Audit

end PointerShare
