/-
# An errand ends in time

What a tracker can rely on (`Tracker.Timed`) holds of the tracker of a station in
every run: the station registers calls and cancels them, hears answers and relay
events, lets the clock run and takes the posts of its own mailbox, and does
nothing else with it. So the waits of a station have an end, whatever the remote
input service does: if nothing is put off, a call that is pending ends when its
retries are used up. An errand makes three calls at most, one after the other, so
it is over when the clock has run for three such waits.

Key definitions: `Tracker.Kept`, `Station.Prompt`, `Continuation.followers`,
`Station.InTime`.
Key theorems: `Tracker.Kept.step`, `Station.timed_run`, `Station.inTime_step`,
`Station.errand_ends_in_time`.
-/
import PointerShare.Proofs.Draining
import PointerShare.Proofs.Footprint
import PointerShare.Proofs.Holding

namespace PointerShare

/-! ### What a station does with its tracker -/

namespace Tracker

variable {κ : Type}

/-- `P` is kept by all that a station does with its tracker, but for letting the clock run. -/
structure Kept (P : Tracker κ → Prop) : Prop where
  register : ∀ {t : Tracker κ}, P t → ∀ k args c, P (t.register k args c).2
  cancelAll : ∀ {t : Tracker κ}, P t → P t.cancelAll.2
  hear : ∀ {t : Tracker κ}, P t → ∀ {p : Post}, p.isOwn = false →
    P { t with mailbox := t.mailbox.post p }
  take : ∀ {t : Tracker κ}, P t → ∀ {p ps}, t.mailbox.queue = p :: ps →
    P (apply { t with mailbox := { t.mailbox with queue := ps } } p).2

namespace Kept

variable {P : Tracker κ → Prop} (h : Kept P)
include h

theorem hearAll {ps : List Post} (hps : ∀ p ∈ ps, p.isOwn = false) :
    ∀ {t : Tracker κ}, P t → P { t with mailbox := t.mailbox.postAll ps } := by
  induction ps with
  | nil => exact fun ht => ht
  | cons p ps ih =>
    obtain ⟨hp, hps⟩ := List.forall_mem_cons.mp hps
    exact fun ht => ih hps (h.hear ht hp)

/-- What is posted when a call is issued comes from outside. -/
theorem issue {g : Gateway κ} (hg : P g.tracker) (k : CallKind) (args : CallArgs) (c : κ) :
    P (g.issue k args c).2.tracker := by
  refine h.hearAll (fun p hp => ?_) (h.register hg k args c)
  rcases List.mem_append.mp hp with hp | hp
  · obtain ⟨_, -, rfl⟩ := List.mem_map.mp hp
    rfl
  · split at hp
    · rw [List.mem_singleton.mp hp]
      rfl
    · cases hp

theorem uses {g g' : Gateway κ} (hu : g.Uses g') (hg : P g.tracker) : P g'.tracker := by
  induction hu with
  | nothing => exact hg
  | issues _ k args c ih => exact h.issue ih k args c
  | cancels _ ih => exact h.cancelAll ih
  | subscribes _ ih => rwa [Gateway.tracker_subscribe]
  | unsubscribes _ ih => rwa [Gateway.tracker_unsubscribe]

end Kept

/-- What every use of a tracker keeps, every move keeps if the clock does. -/
theorem Kept.step {P : Tracker Continuation → Prop} (h : Kept P) {s : Station} {m : Move}
    (hclock : ∀ now, m = .happen (.clock now) → P s.gateway.tracker →
      P { s.gateway.tracker with mailbox := s.gateway.mailbox.advanceTo now })
    (hs : P s.gateway.tracker) : P (s.step m).gateway.tracker := by
  cases m with
  | event e =>
    by_cases he : ∃ on, e = .request (.enable on)
    · obtain ⟨on, rfl⟩ := he
      exact h.uses (s.uses_enable on) hs
    · exact h.uses (s.works_handle e fun on hon => he ⟨on, hon⟩).gateway hs
  | take =>
    cases hq : s.gateway.mailbox.queue with
    | nil => rwa [Station.step_take_of_empty hq]
    | cons p ps =>
      rw [Station.step_take_of_cons hq]
      exact h.uses (Station.works_receive _ p).gateway (h.take hs hq)
  | change => exact h.uses s.works_nextChange.gateway hs
  | happen happening =>
    cases happening with
    | answer r => exact h.hear hs rfl
    | relay e =>
      show P (s.gateway.emitRelay e).2.tracker
      unfold Gateway.emitRelay
      split
      · exact h.hear hs rfl
      · exact hs
    | clock now => exact hclock now rfl hs
    | flip id on =>
      show P (s.flip id on).gateway.tracker
      rwa [Station.gateway_flip]
    | _ => exact hs

/-- What a tracker was made with stays. -/
theorem kept_settings (timeout retries : Nat) :
    Kept fun t : Tracker κ => t.timeout = timeout ∧ t.retries = retries where
  register := by
    rintro t ⟨ht, hr⟩ k args c
    have hsame := settings_supersede { t with
      issued := t.issued + 1, mailbox := t.mailbox.setAlarm t.timeout k ⟨t.issued + 1⟩ } k
    exact ⟨hsame.1.trans ht, hsame.2.trans hr⟩
  cancelAll := fun h => h
  hear := fun h _ _ => h
  take := by
    rintro t ⟨ht, hr⟩ p ps -
    have hsame := (applies { t with mailbox := { t.mailbox with queue := ps } } p).settings
    exact ⟨hsame.1.trans ht, hsame.2.trans hr⟩

/-- Nothing but the clock moves the clock. -/
theorem kept_now (now : Nat) : Kept fun t : Tracker κ => t.mailbox.now = now where
  register := by
    intro t h k args c
    rw [← h]
    show (supersede _ k).mailbox.now = _
    unfold supersede
    split
    · rfl
    · unfold Mailbox.post
      split <;> rfl
  cancelAll := by
    intro t h
    show t.mailboxAtRest.now = now
    rw [Timed.mailboxAtRest_eq]
    exact h
  hear := by
    intro t h p _
    rw [← h]
    unfold Mailbox.post
    split <;> rfl
  take := fun {_} h {p} _ _ => (now_apply _ p).trans h

theorem kept_timed : Kept fun t : Tracker κ => t.Timed where
  register := fun h k args c => h.register k args c
  cancelAll := fun h => h.cancelAll
  hear := fun h _ hp => h.hear hp
  take := fun h _ _ hq => h.take hq

/-- A call that ends in time does so whatever is done with the tracker: answered, refused, superseded
or cancelled it has ended. -/
theorem kept_endsBy (last : Nat) (r : RequestId) :
    Kept fun t : Tracker κ => t.Timed ∧ t.EndsBy last r where
  register := fun h k args c => ⟨h.1.register k args c, h.2.register h.1 k args c⟩
  cancelAll := fun h => ⟨h.1.cancelAll, h.2.cancelAll⟩
  hear := fun h _ hp => ⟨h.1.hear hp, h.2.hear h.1 hp⟩
  take := fun h _ _ hq => ⟨h.1.take hq, h.2.take h.1 hq⟩

/-! ### Letting the clock run -/

variable {t : Tracker κ} {now : Nat}

/-- The clock goes from alarm to alarm. -/
theorem Timed.advanceTo (h : t.Timed) (now : Nat) :
    { t with mailbox := t.mailbox.advanceTo now }.Timed := by
  refine Mailbox.advanceTo_induction (P := fun m => { t with mailbox := m }.Timed)
    (Q := fun m => { t with mailbox := m }.Timed) (fun {m a} hm _ _ _ => ?_)
    (fun hm _ => hm.setClock now) h
  rw [← Mailbox.ringBut_nil]
  exact (hm.setClock a.deadline).ringBut []

/-- The clock stops at the first deadline, so it goes no further than to `now`. -/
theorem EndsBy.advanceTo {last : Nat} {r : RequestId} (ht : t.Timed) (he : t.EndsBy last r)
    (hq : t.mailbox.queue = []) (hdue : ∀ a ∈ t.mailbox.alarms, now ≤ a.deadline) :
    { t with mailbox := t.mailbox.advanceTo now }.EndsBy last r := by
  -- posts may be queued once the clock has reached `now`
  let P (m : Mailbox) : Prop := { t with mailbox := m }.Timed ∧
    { t with mailbox := m }.EndsBy last r ∧ (m.queue = [] ∨ now ≤ m.now) ∧
    ∀ a ∈ m.alarms, now ≤ a.deadline
  have hclock {m : Mailbox} : P m → { t with mailbox := m.setClock now }.EndsBy last r := by
    rintro ⟨-, he, hq | hnow, hdue⟩
    · exact he.setClock hq hdue
    · have hsame : m.setClock now = m := by rw [Mailbox.setClock, Nat.max_eq_left hnow]
      rwa [hsame]
  refine Mailbox.advanceTo_induction (P := P) (Q := fun m => { t with mailbox := m }.EndsBy last r)
    (fun {m a} hm ha hle _ => ?_) (fun hm _ => hclock hm) ⟨ht, he, .inl hq, hdue⟩
  obtain rfl : now = a.deadline := Nat.le_antisymm (hm.2.2.2 a ha) hle
  have ht' := hm.1.setClock a.deadline
  have hring := Mailbox.ringBut_eq ht'.isOpen []
  rw [← Mailbox.ringBut_nil]
  refine ⟨ht'.ringBut [], (hclock hm).ringBut ht' [], .inr ?_, fun b hb => ?_⟩
  · rw [hring]
    exact Nat.le_max_right _ _
  · rw [hring] at hb
    exact hm.2.2.2 b (List.mem_filter.mp hb).1

end Tracker

/-! ### A step of an errand -/

/-- How many calls of an errand may follow the one with this completion. -/
def Continuation.followers : Continuation → Nat
  | prepared _ => 2
  | started _ => 1
  | _ => 0

theorem Continuation.followers_le (next : Continuation) : next.followers ≤ 2 := by
  cases next <;> simp [followers]

/-- The time to which a move lets the clock run. -/
def Move.clock? : Move → Option Nat
  | .happen (.clock now) => some now
  | _ => none

namespace Station

/-- How long a call can wait: the timeout, once for the call itself and once for each retry. -/
def patience (s : Station) : Nat := s.gateway.tracker.timeout * (s.gateway.tracker.retries + 1)

/-- Nothing is put off: the clock does not move on while something is queued, nor past the deadline
of an alarm. -/
def Prompt (s : Station) (m : Move) : Prop :=
  ∀ now ∈ m.clock?, s.gateway.mailbox.queue = [] ∧ ∀ a ∈ s.gateway.mailbox.alarms, now ≤ a.deadline

instance (s : Station) (m : Move) : Decidable (s.Prompt m) :=
  inferInstanceAs (Decidable (∀ now ∈ m.clock?, _))

/-- The step of an errand that is pending ends soon enough for those that may follow to be over at
`final`. -/
def InTime (s : Station) (final : Nat) : Prop :=
  ∃ k x last, s.control.calls.get k = some x ∧ x.completion.isTransition = true ∧
    s.gateway.tracker.EndsBy last x.request ∧ last + s.patience * x.completion.followers ≤ final

variable {s : Station} {m : Move} {e : Errand} {final : Nat}

theorem timed_step (m : Move) (h : s.gateway.tracker.Timed) : (s.step m).gateway.tracker.Timed :=
  Tracker.kept_timed.step (fun now _ h => h.advanceTo now) h

/-- Throughout every run, each call that is pending has one timeout. -/
theorem timed_run (settings : Settings) (registry : Registry) (ms : List Move) :
    ((create settings registry).run ms).gateway.tracker.Timed :=
  run_invariant (P := fun s => s.gateway.tracker.Timed) (fun _ m => timed_step m) ms
    (Audit.regular_empty settings.timeout settings.retries).timed

theorem patience_step (s : Station) (m : Move) : (s.step m).patience = s.patience := by
  obtain ⟨ht, hr⟩ := (Tracker.kept_settings _ _).step (s := s) (m := m) (fun _ _ h => h) ⟨rfl, rfl⟩
  rw [patience, patience, ht, hr]

theorem patience_run (settings : Settings) (registry : Registry) (ms : List Move) :
    ((create settings registry).run ms).patience = settings.timeout * (settings.retries + 1) :=
  run_invariant (P := fun s => s.patience = settings.timeout * (settings.retries + 1))
    (fun s m h => (s.patience_step m).trans h) ms rfl

theorem now_step (hm : m.clock? = none) : (s.step m).now = s.now := by
  refine (Tracker.kept_now s.now).step (fun now hclock _ => ?_) rfl
  rw [hclock] at hm
  cases hm

theorem pending_of_get {k : CallKind} {x : Call Continuation} (hx : s.control.calls.get k = some x) :
    ∃ p, s.gateway.tracker.pending? k = some p ∧ p.request = x.request := by
  have hcalls : s.gateway.tracker.calls.get k = some x := hx
  rw [Tracker.get_calls] at hcalls
  obtain ⟨p, hp, rfl⟩ := Option.map_eq_some_iff.mp hcalls
  exact ⟨p, hp, rfl⟩

theorem endsBy_step (hprompt : s.Prompt m) {last : Nat} {r : RequestId}
    (ht : s.gateway.tracker.Timed) (he : s.gateway.tracker.EndsBy last r) :
    (s.step m).gateway.tracker.EndsBy last r := by
  refine ((Tracker.kept_endsBy last r).step (fun now hm h => ?_) ⟨ht, he⟩).2
  subst hm
  obtain ⟨hq, hdue⟩ := hprompt now rfl
  exact ⟨h.1.advanceTo now, h.2.advanceTo h.1 hq hdue⟩

/-- While an errand is open, one of its calls is pending. -/
theorem waits_of_open (h : Phase s.control (some e)) :
    ∃ k x, s.control.calls.get k = some x ∧ x.completion.isTransition = true := by
  cases h with
  | underway _ k x _ _ _ _ hk hw _ => exact ⟨k, x, hk, hw.isTransition⟩

/-- An errand that is open now is over when three calls have waited. -/
theorem inTime_of_open (ht : s.gateway.tracker.Timed) (h : Phase s.control (some e)) :
    s.InTime (s.now + s.patience * 3) := by
  obtain ⟨k, x, hx, hn⟩ := waits_of_open h
  obtain ⟨p, hp, hr⟩ := pending_of_get hx
  refine ⟨k, x, _, hx, hn, ht.endsBy (hr ▸ ht.number_le hp), ?_⟩
  have hle := Nat.mul_le_mul_left s.patience x.completion.followers_le
  show s.now + s.patience + s.patience * _ ≤ _
  omega

theorem InTime.now_le (h : s.InTime final) (ht : s.gateway.tracker.Timed) : s.now ≤ final := by
  obtain ⟨k, x, last, hx, -, he, hlast⟩ := h
  obtain ⟨p, hp, hr⟩ := pending_of_get hx
  have hnow : s.now ≤ last := ht.now_le he hp hr
  omega

/-- A call of an errand that follows another is issued when that one ends. -/
theorem follows_of_issued (h : Phase s.control (some e)) {k : CallKind} {args : CallArgs}
    {next : Continuation} (ho : Occasion s m k args next) (hn : next.isTransition = true) :
    m = .take ∧ ∃ call, s.ending? = some call ∧ call.completion.isTransition = true ∧
      next.followers < call.completion.followers := by
  have hbusy (hidle : s.guard = .idle) : False := by cases (h.of_idle hidle).1
  cases ho with
  | prepare _ _ _ _ hp _ _ => exact (hbusy (guard_of_planStart hp)).elim
  | startAtOnce _ _ _ _ _ hp _ _ _ _ => exact (hbusy (guard_of_planStart hp)).elim
  | giveBack _ _ _ hp => exact (hbusy (guard_of_planStart hp)).elim
  | stop _ _ hr => exact (hbusy (guard_of_planStop (planStop_of_stopRoute? hr))).elim
  | startPrepared call plan dhids hc hp _ _ _ =>
    exact ⟨rfl, call, hc, by rw [hp]; rfl, by rw [hp]; exact Nat.lt_succ_self 1⟩
  | stopOrigin call plan hc hp _ _ =>
    exact ⟨rfl, call, hc, by rw [hp]; rfl, by rw [hp]; exact Nat.zero_lt_one⟩
  | rollBack | unprepare | keyboard => cases hn

/-- While an errand stays open its pending call goes on to wait; or the post that ends it is taken, and
one with fewer to follow is pending. -/
theorem waits_or_follows (hw : s.Speaks) (h : Phase s.control (some e))
    (hb : (s.step m).guard.isBusy = true) {k : CallKind} {x : Call Continuation}
    (hx : s.control.calls.get k = some x) (hn : x.completion.isTransition = true) :
    (s.step m).control.calls.get k = some x ∨ m = .take ∧
      ∃ k' x', (s.step m).control.calls.get k' = some x' ∧ x'.completion.isTransition = true ∧
        x'.completion.followers < x.completion.followers := by
  obtain ⟨k', x', hx', hn'⟩ := waits_of_open ((Engaged.of_open hw h m).step hb).1
  rcases held_or_issued hw hx' with hheld | hissued
  · obtain rfl := h.kind_of_steps hx hheld hn hn'
    obtain rfl : x = x' := Option.some.inj (hx.symm.trans hheld)
    exact .inl hx'
  · obtain ⟨rfl, call, hc, hcall, hless⟩ := follows_of_issued h hissued hn'
    -- the call that ended is the one that was pending
    obtain ⟨t, hends, -⟩ := take_of_ending hc
    obtain ⟨_, -, -, hsup, -⟩ := h.ends_step hends hcall
    obtain ⟨args, hget⟩ := hends.get_args hsup
    obtain rfl := h.kind_of_steps hx hget hn hcall
    obtain rfl : x = ⟨call.request, args, call.completion⟩ := Option.some.inj (hx.symm.trans hget)
    exact .inr ⟨rfl, k', x', hx', hn', hless⟩

/-- **One move of an errand.** The call that is pending goes on to wait, or the next one begins to,
and it is in time. -/
theorem inTime_step (hw : s.Speaks) (ht : s.gateway.tracker.Timed) (h : Phase s.control (some e))
    (hprompt : s.Prompt m) (hb : (s.step m).guard.isBusy = true) (hin : s.InTime final) :
    (s.step m).InTime final := by
  obtain ⟨k, x, last, hx, hn, he, hlast⟩ := hin
  rcases waits_or_follows hw h hb hx hn with hx' | ⟨rfl, k', x', hx', hn', hless⟩
  · refine ⟨k, x, last, hx', hn, endsBy_step hprompt ht he, ?_⟩
    rwa [patience_step]
  · obtain ⟨p, hp, hr⟩ := pending_of_get hx
    obtain ⟨p', hp', hr'⟩ := pending_of_get hx'
    have hnow : s.now ≤ last := ht.now_le he hp hr
    have htime : (s.step .take).now = s.now := now_step rfl
    have ht' := timed_step .take ht
    refine ⟨k', x', _, hx', hn', ht'.endsBy (hr' ▸ ht'.number_le hp'), ?_⟩
    have hmore := Nat.mul_le_mul_left s.patience (Nat.succ_le_of_lt hless)
    rw [Nat.mul_succ] at hmore
    show (s.step .take).now + (s.step .take).patience + _ ≤ final
    rw [htime, patience_step]
    omega

/-- A run of an errand that goes on beyond its time has ended it on the way. -/
theorem ends_of_inTime {rest : List Move} (hw : s.Speaks) (ht : s.gateway.tracker.Timed)
    (h : Phase s.control (some e)) (hin : s.InTime final) (hprompt : Along step Prompt s rest)
    (hlate : final < (s.run rest).now) :
    ∃ mid tail, rest = mid ++ tail ∧ Along step (fun s _ => s.guard.isBusy = true) s mid ∧
      (s.run mid).guard = .idle := by
  induction rest generalizing s with
  | nil => exact absurd (hin.now_le ht) (Nat.not_le.mpr hlate)
  | cons m rest ih =>
    cases hb : (s.step m).guard.isBusy with
    | false => exact ⟨[m], rest, rfl, ⟨h.isBusy, trivial⟩, Guard.isBusy_eq_false_iff.mp hb⟩
    | true =>
      obtain ⟨mid, tail, rfl, hmid, hidle⟩ := ih (speaks_step m hw) (timed_step m ht)
        ((Engaged.of_open hw h m).step hb).1 (inTime_step hw ht h hprompt.1 hb hin) hprompt.2 hlate
      exact ⟨m :: mid, tail, rfl, ⟨h.isBusy, hmid⟩, hidle⟩

/-- **An errand ends in time.** If nothing is put off, the guard is idle again by the time that three
calls can wait, whatever else happens and whether or not the service answers. -/
theorem errand_ends_in_time (settings : Settings) (registry : Registry) (before : List Move)
    (hbegins : ((create settings registry).run before).begins m = some e) {rest : List Move}
    (hprompt : Along step Prompt (((create settings registry).run before).step m) rest)
    (hlate : (((create settings registry).run before).step m).now +
      settings.timeout * (settings.retries + 1) * 3 <
        ((((create settings registry).run before).step m).run rest).now) :
    ∃ mid tail, rest = mid ++ tail ∧
      Along step (fun s _ => s.guard.isBusy = true)
        (((create settings registry).run before).step m) mid ∧
      ((((create settings registry).run before).step m).run mid).guard = .idle := by
  have hw := speaks_run settings registry before
  have h := phase_run settings registry before
  have ht := timed_step m (timed_run settings registry before)
  have hpatience := patience_run settings registry before
  cases hb : (((create settings registry).run before).step m).guard.isBusy with
  | false => exact ⟨[], rest, rfl, trivial, Guard.isBusy_eq_false_iff.mp hb⟩
  | true =>
    have hopen := ((Engaged.of_begins hw h hbegins).step hb).1
    refine ends_of_inTime (speaks_step m hw) ht hopen (inTime_of_open ht hopen) hprompt ?_
    rwa [patience_step, hpatience]

end Station

end PointerShare
