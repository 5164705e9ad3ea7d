/-
# The course of a call

A call that was issued is decided by the posts that are taken out of the
mailbox after it, in their order: the first of them that closes it gives it its
outcome. A reply closes it if it decides it; its refusal closes it; and its
expired timer does when the call has no retry left. What else can become of it
is that it is withdrawn, superseded by a newer call of its kind or dropped with
all others.

So whatever is done to the gateway meanwhile, what has become of the call can be
read off the list of the posts that were taken: `Exchange.Course` says how, and
every dealing keeps it.

Key definitions: `Call.Closes`, `Call.LeftOpen`, `Tracker.Expects`,
`Exchange.Course`.
Key theorems: `Call.LeftOpen.concat`, `Tracker.Expects.apply`,
`Exchange.course_step`, `Exchange.ended_of_closes`.
-/
import PointerShare.Proofs.Exchange

namespace PointerShare

variable {κ : Type}

/-- The reply, if the post is one. -/
def Post.reply? : Post → Option Reply
  | .reply r => some r
  | _ => none

namespace Call

variable {k : CallKind} {c : Call κ} {n : Nat} {heard : List Post} {p : Post} {o : Outcome}

/-- After the posts `heard`, the next one closes the call, which was given `n` retries. -/
inductive Closes (k : CallKind) (c : Call κ) (n : Nat) (heard : List Post) : Post → Outcome → Prop
  | answered (q : Reply) (o : Outcome) (h : c.Decides k (heard.filterMap Post.reply?) q o) :
      Closes k c n heard (.reply q) o
  | refused : Closes k c n heard (.issueFailed k c.request) .rejected
  | expired (h : heard.count (.timerFired k c.request) = n) :
      Closes k c n heard (.timerFired k c.request) .timedOut

/-- The posts leave open how the call ends. -/
structure LeftOpen (k : CallKind) (c : Call κ) (n : Nat) (heard : List Post) : Prop where
  undecided : c.Undecided k (heard.filterMap Post.reply?)
  not_refused : .issueFailed k c.request ∉ heard
  in_time : heard.count (.timerFired k c.request) ≤ n

theorem Decides.unique {rs : List Reply} {q : Reply} {o' : Outcome} (h : c.Decides k rs q o)
    (h' : c.Decides k rs q o') : o = o' := by
  cases h <;> cases h'
  · rfl
  · contradiction
  · contradiction
  · rfl

theorem Closes.unique {o' : Outcome} (h : c.Closes k n heard p o) (h' : c.Closes k n heard p o') :
    o = o' := by
  cases h with
  | answered q o h =>
    cases h' with
    | answered _ _ h' => exact h.unique h'
  | refused => cases h'; rfl
  | expired => cases h'; rfl

theorem filterMap_concat (heard : List Post) (p : Post) : (heard ++ [p]).filterMap Post.reply? =
    heard.filterMap Post.reply? ++ p.reply?.toList := by
  rw [List.filterMap_append]
  cases p <;> rfl

theorem LeftOpen.earlier {heard' : List Post} (h : c.LeftOpen k n heard) (hp : heard' <+: heard) :
    c.LeftOpen k n heard' where
  undecided := h.undecided.mono (hp.filterMap _).subset
  not_refused := fun hmem => h.not_refused (hp.subset hmem)
  in_time := Nat.le_trans (hp.sublist.count_le _) h.in_time

/-- One more post leaves the call open or closes it. -/
theorem LeftOpen.concat (h : c.LeftOpen k n heard) (p : Post) :
    c.LeftOpen k n (heard ++ [p]) ↔ ∀ o, ¬ c.Closes k n heard p o := by
  constructor
  · rintro hopen o (⟨q, o, hd⟩ | _ | hn)
    · have hu := hopen.undecided
      rw [filterMap_concat] at hu
      exact (h.undecided.concat q).mp hu o hd
    · exact hopen.not_refused (List.mem_append_right _ (List.mem_singleton.mpr rfl))
    · have hlate := hopen.in_time
      rw [List.count_append, List.count_singleton_self, hn] at hlate
      exact Nat.not_succ_le_self _ hlate
  · intro hno
    refine ⟨?_, fun hmem => ?_, ?_⟩
    · rw [filterMap_concat]
      cases p with
      | reply q => exact (h.undecided.concat q).mpr fun o hd => hno o (.answered q o hd)
      | issueFailed | timerFired | superseded | relay => exact (List.append_nil _).symm ▸ h.undecided
    · rcases List.mem_append.mp hmem with hmem | hmem
      · exact h.not_refused hmem
      · rw [← List.mem_singleton.mp hmem] at hno
        exact hno _ .refused
    · by_cases hp : p = .timerFired k c.request
      · subst hp
        have hne : heard.count (.timerFired k c.request) ≠ n := fun hn => hno _ (.expired hn)
        have hle := h.in_time
        rw [List.count_append, List.count_singleton_self]
        omega
      · rw [List.count_append, List.count_singleton, beq_eq_false_iff_ne.mpr hp]
        exact h.in_time

/-- Posts that do not leave the call open have a first among them that closes it. -/
theorem LeftOpen.exists_closes {ps : List Post} (h : c.LeftOpen k n heard)
    (hps : ¬ c.LeftOpen k n (heard ++ ps)) : ∃ before p after o, ps = before ++ p :: after ∧
      c.LeftOpen k n (heard ++ before) ∧ c.Closes k n (heard ++ before) p o := by
  induction ps generalizing heard with
  | nil => exact absurd h (by simpa using hps)
  | cons p ps ih =>
    by_cases hp : ∃ o, c.Closes k n heard p o
    · obtain ⟨o, ho⟩ := hp
      exact ⟨[], p, ps, o, rfl, by simpa using h, by simpa using ho⟩
    · have hnext := (h.concat p).mpr (not_exists.mp hp)
      obtain ⟨before, q, after, o, rfl, hopen, hcloses⟩ := ih hnext (by simpa using hps)
      exact ⟨p :: before, q, after, o, rfl, by simpa using hopen, by simpa using hcloses⟩

/-- The first post that closes a call is one only, and so is the outcome it gives. -/
theorem outcome_unique {before before' after after' : List Post} {p' : Post} {o' : Outcome}
    (he : before ++ p :: after = before' ++ p' :: after') (h : c.LeftOpen k n before)
    (hc : c.Closes k n before p o) (h' : c.LeftOpen k n before') (hc' : c.Closes k n before' p' o') :
    o = o' := by
  have hbefore {xs ys zs ws : List Post} {x y : Post} (he : xs ++ x :: zs = ys ++ y :: ws)
      (hlt : xs.length < ys.length) : xs ++ [x] <+: ys := by
    have hall : xs ++ [x] <+: ys ++ y :: ws := ⟨zs, by rw [← he, List.append_assoc]; rfl⟩
    refine List.prefix_of_prefix_length_le hall (List.prefix_append _ _) ?_
    rw [List.length_append]
    exact hlt
  rcases Nat.lt_trichotomy before.length before'.length with hlt | heq | hlt
  · exact absurd hc ((h.concat p).mp (h'.earlier (hbefore he hlt)) o)
  · obtain ⟨rfl, hrest⟩ := List.append_inj he heq
    obtain ⟨rfl, -⟩ := List.cons.inj hrest
    exact hc.unique hc'
  · exact absurd hc' ((h'.concat p').mp (h.earlier (hbefore he.symm hlt)) o')

end Call

/-! ### What one post does -/

namespace Tracker

theorem current?_of_ne {t : Tracker κ} {k : CallKind} {p : Pending κ} {r : RequestId}
    (hp : t.pending? k = some p) (hr : p.request ≠ r) : t.current? k r = none := by
  simp [current?, hp, hr]

/-- The call `c` of kind `k` is pending after the posts `heard`, which have left it open. -/
def Expects (t : Tracker κ) (k : CallKind) (c : Call κ) (heard : List Post) : Prop :=
  ∃ p, t.pending? k = some p ∧ callOf p = c ∧ p.Heard k (heard.filterMap Post.reply?) ∧
    .issueFailed k c.request ∉ heard ∧
    p.retries + heard.count (.timerFired k c.request) = t.retries

namespace Expects

variable {t : Tracker κ} {k : CallKind} {c : Call κ} {heard : List Post}

theorem leftOpen (h : t.Expects k c heard) : c.LeftOpen k t.retries heard := by
  obtain ⟨p, -, rfl, hheard, hfailed, hn⟩ := h
  exact ⟨hheard.undecided, hfailed, by omega⟩

/-- With the same pending call. -/
theorem of_pending {t' : Tracker κ} (h : t.Expects k c heard) (he : t'.pending? k = t.pending? k)
    (hr : t'.retries = t.retries) : t'.Expects k c heard := by
  obtain ⟨p, hp, hc, hheard, hfailed, hn⟩ := h
  exact ⟨p, he.trans hp, hc, hheard, hfailed, hn.trans hr.symm⟩

/-- A post that is of no account to the call. -/
theorem pass (h : t.Expects k c heard) {p : Post} (he : (t.apply p).2.pending? k = t.pending? k)
    (hreply : p.reply? = none) (hfailed : p ≠ .issueFailed k c.request)
    (htimer : p ≠ .timerFired k c.request) : (t.apply p).2.Expects k c (heard ++ [p]) := by
  obtain ⟨q, hq, hc, hheard, hnot, hn⟩ := h.of_pending he (t.applies p).settings.2
  refine ⟨q, hq, hc, ?_, fun hmem => ?_, ?_⟩
  · rw [Call.filterMap_concat, hreply]
    exact (List.append_nil _).symm ▸ hheard
  · exact (List.mem_append.mp hmem).elim hnot fun hmem => hfailed (List.mem_singleton.mp hmem).symm
  · rw [List.count_append, List.count_singleton, beq_eq_false_iff_ne.mpr htimer]
    exact hn

/-- A reply closes the call, or it has heard that reply too. -/
theorem apply_reply (h : t.Expects k c heard) (q : Reply) :
    (∃ o, c.Closes k t.retries heard (.reply q) o ∧
      (t.apply (.reply q)).1 = some ⟨k, c.request, o, c.completion⟩) ∨
    (t.apply (.reply q)).2.Expects k c (heard ++ [.reply q]) := by
  obtain ⟨p, hp, rfl, hheard, hfailed, hn⟩ := h
  have hwaits : t.Awaits k (callOf p) (heard.filterMap Post.reply?) := ⟨p, hp, rfl, hheard⟩
  rcases hwaits.onReply q with ⟨o, hd, -⟩ | ⟨-, hnone, p', hp', hc, hheard'⟩
  · exact .inl ⟨o, .answered q o hd, (hwaits.decided hd).1⟩
  · refine .inr ⟨p', hp', hc, ?_, by simpa using hfailed, ?_⟩
    · rw [Call.filterMap_concat]
      exact hheard'
    · have hreply : (Post.reply q).timesOut p.request = false := rfl
      rcases pending?_apply hp hreply with ⟨p'', hp'', -, hr, -⟩ | ⟨o, -, hback⟩
      · obtain rfl : p' = p'' := Option.some.inj (hp'.symm.trans hp'')
        rw [hr, (t.applies (.reply q)).settings.2, List.count_append]
        exact hn
      · exact absurd rfl (hnone _ hback)

/-- A refusal closes the call it names. -/
theorem apply_issueFailed (h : t.Expects k c heard) (j : CallKind) (r : RequestId) :
    (∃ o, c.Closes k t.retries heard (.issueFailed j r) o ∧
      (t.apply (.issueFailed j r)).1 = some ⟨k, c.request, o, c.completion⟩) ∨
    (t.apply (.issueFailed j r)).2.Expects k c (heard ++ [.issueFailed j r]) := by
  obtain ⟨p, hp, hc, -⟩ := id h
  by_cases hne : Post.issueFailed j r = .issueFailed k c.request
  · obtain ⟨rfl, rfl⟩ := Post.issueFailed.inj hne
    refine .inl ⟨.rejected, .refused, ?_⟩
    subst hc
    have hcur : t.current? j (callOf p).request = some p := current?_of_pending? hp
    simp only [apply, onIssueFailed, hcur, resolve, hp]
    rfl
  · refine .inr (h.pass ?_ rfl hne fun he => by cases he)
    by_cases hj : j = k
    · subst hj
      have hr : p.request ≠ r := fun hr => hne (by rw [← hr, ← hc]; rfl)
      simp only [apply, onIssueFailed, current?_of_ne hp hr]
    · exact pending?_onIssueFailed t r hj

/-- An expired timer closes its call after the last retry, and makes it wait once more before. -/
theorem apply_timerFired (h : t.Expects k c heard) (j : CallKind) (r : RequestId) :
    (∃ o, c.Closes k t.retries heard (.timerFired j r) o ∧
      (t.apply (.timerFired j r)).1 = some ⟨k, c.request, o, c.completion⟩) ∨
    (t.apply (.timerFired j r)).2.Expects k c (heard ++ [.timerFired j r]) := by
  obtain ⟨p, hp, hc, hheard, hfailed, hn⟩ := id h
  by_cases hne : Post.timerFired j r = .timerFired k c.request
  · obtain ⟨rfl, rfl⟩ := Post.timerFired.inj hne
    subst hc
    by_cases hr : p.retries = 0
    · refine .inl ⟨.timedOut, .expired (by omega), ?_⟩
      have hback := apply_timer_of_no_retries hp hr
      simp only [callOf, hback, resolve, hp]
    · have hback : (t.apply (.timerFired j (callOf p).request)).2 =
          t.arm j { p with retries := p.retries - 1 } :=
        congrArg Prod.snd (apply_timer_of_retries hp hr)
      refine .inr ⟨{ p with retries := p.retries - 1, alarm := t.mailbox.nextSerial }, ?_, rfl, ?_,
        by simpa using hfailed, ?_⟩
      · rw [hback]
        exact PerKind.get_set_self _ _ _
      · rw [Call.filterMap_concat]
        exact (List.append_nil _).symm ▸ ⟨hheard.1, hheard.2, hheard.3, hheard.4⟩
      · rw [(t.applies _).settings.2, List.count_append, List.count_singleton_self]
        show p.retries - 1 + _ = _
        omega
  · refine .inr (h.pass ?_ rfl (fun he => by cases he) hne)
    by_cases hj : j = k
    · subst hj
      have hr : p.request ≠ r := fun hr => hne (by rw [← hr, ← hc]; rfl)
      simp only [apply, onTimer, current?_of_ne hp hr]
    · exact pending?_onTimer t r hj

/-- The next post closes the call, which is handed back, or the call has heard that post too. -/
theorem apply (h : t.Expects k c heard) (p : Post) :
    (∃ o, c.Closes k t.retries heard p o ∧
      (t.apply p).1 = some ⟨k, c.request, o, c.completion⟩) ∨
    (t.apply p).2.Expects k c (heard ++ [p]) := by
  cases p with
  | reply q => exact h.apply_reply q
  | issueFailed j r => exact h.apply_issueFailed j r
  | timerFired j r => exact h.apply_timerFired j r
  | superseded r => exact .inr (h.pass (pending?_takeSuperseded t r k) rfl nofun nofun)
  | relay event => exact .inr (h.pass rfl rfl nofun nofun)

end Expects

end Tracker

/-! ### What has become of a call -/

/-- Only the one dealing takes a post. -/
theorem Dealing.ne_take_of_mem {g : Gateway κ} {d : Dealing κ} (hd : d ≠ .take) :
    ∀ f ∈ d.feeds g, f ≠ .take := by
  rintro f hf rfl
  cases d with
  | take => exact hd rfl
  | issue k args c =>
    rcases List.mem_append.mp ((List.mem_cons.mp hf).resolve_left nofun) with hf | hf
    · obtain ⟨_, -, hf⟩ := List.mem_map.mp hf
      cases hf
    · split at hf
      · cases List.mem_singleton.mp hf
      · cases hf
  | relay event =>
    rw [feeds] at hf
    split at hf
    · cases List.mem_singleton.mp hf
    · cases hf
  | cancelAll | answer | clock | ring => cases List.mem_singleton.mp hf
  | subscribe | unsubscribe | mood | listenerFaults => cases hf

namespace Audit

variable {a : Audit κ}

/-- As long as no post is taken, a pending call stays as it is, or is withdrawn. -/
theorem follow_without_take {k : CallKind} {p : Pending κ} (fs : List (Feed κ)) :
    ∀ {a : Audit κ}, a.Conserves → a.tracker.pending? k = some p → (∀ f ∈ fs, f ≠ .take) →
      (a.follow fs).tracker.pending? k = some p ∨
        (a.follow fs).Withdrawn ⟨k, p.request, p.completion⟩ := by
  induction fs with
  | nil => exact fun _ hp _ => .inl hp
  | cons f fs ih =>
    intro a ha hp hfs
    obtain ⟨hf, hrest⟩ := List.forall_mem_cons.mp hfs
    have hnext : (a.feed f).Conserves := conserves_run ha _
    rcases pending_or_withdrawn hp hf with hp' | hgone
    · exact ih hnext hp' hrest
    · exact .inr (hgone.follow hnext fs)

/-- Of a call that was handed back, nothing else was handed back. -/
theorem Conserves.filter_returned (h : a.Conserves) {x : Resolved κ} (hx : x ∈ a.returned) :
    a.returned.filter (fun y => y.request == x.request) = [x] := by
  have hn : a.returned.Nodup := by
    have hall := h.nodup_accounted
    rw [accounted_eq, List.map_append, List.map_append, List.map_map] at hall
    exact (List.nodup_append.mp (List.nodup_append.mp hall).2.1).1.of_map _
  refine List.perm_singleton.mp ((List.perm_ext_iff_of_nodup (hn.filter _)
    (List.nodup_singleton x)).mpr fun y => ?_)
  rw [List.mem_filter, List.mem_singleton, beq_iff_eq]
  constructor
  · exact fun ⟨hy, hr⟩ => h.eq_of_returned hy hx hr
  · rintro rfl
    exact ⟨hx, rfl⟩

end Audit

namespace Exchange

/-- What has become of the call after the posts `heard` were taken: it is pending, one of the posts
has closed it, or it was withdrawn. -/
inductive Course (e : Exchange κ) (k : CallKind) (c : Call κ) (heard : List Post) : Prop
  | waits (h : e.gateway.tracker.Expects k c heard)
  | closed (before after : List Post) (p : Post) (o : Outcome) (hheard : heard = before ++ p :: after)
      (hopen : c.LeftOpen k e.gateway.tracker.retries before)
      (hcloses : c.Closes k e.gateway.tracker.retries before p o)
      (hback : ⟨k, c.request, o, c.completion⟩ ∈ e.ended)
  | withdrawn (h : e.audit.Withdrawn ⟨k, c.request, c.completion⟩)

variable {e : Exchange κ} {k : CallKind} {c : Call κ} {heard : List Post}

theorem issued_step (e : Exchange κ) (d : Dealing κ) (h : e.Sound) :
    e.gateway.tracker.issued ≤ (e.step d).gateway.tracker.issued := by
  have hfollow := Audit.follow_keeps (P := fun a => e.gateway.tracker.issued ≤ a.tracker.issued)
    (fun a u _ hle => Nat.le_trans hle (a.issued_step u)) h.regular.conserves (Nat.le_refl _)
    (d.feeds e.gateway)
  rwa [← audit_step] at hfollow

theorem ended_step (h : e.Sound) (d : Dealing κ) {x : Resolved κ} (hx : x ∈ e.ended) :
    x ∈ (e.step d).ended := by
  have hfollow := Audit.follow_keeps (P := fun a => x ∈ a.returned)
    (fun a u _ hmem => a.returned_step u hmem) h.regular.conserves hx (d.feeds e.gateway)
  rwa [← audit_step] at hfollow

/-- A call that waits goes on to wait, is closed by the post that is taken, or is withdrawn. -/
theorem course_of_expects (h : e.Sound) (hc : e.gateway.tracker.Expects k c heard) (d : Dealing κ) :
    (e.step d).Course k c (heard ++ d.takes e.gateway) := by
  by_cases hd : d = .take
  · subst hd
    cases hq : e.gateway.mailbox.queue with
    | nil =>
      rw [step_take_of_nil hq, Dealing.takes, hq]
      exact .waits ((List.append_nil heard).symm ▸ hc)
    | cons p ps =>
      have hrest : (e.gateway.tracker.withQueue ps).Expects k c heard := hc.of_pending rfl rfl
      rw [step_take_of_cons hq, Dealing.takes, hq]
      rcases hrest.apply p with ⟨o, hcloses, hback⟩ | hnext
      · have hsame := (Tracker.applies (e.gateway.tracker.withQueue ps) p).settings.2
        refine .closed heard [] p o rfl (hsame ▸ hrest.leftOpen) (hsame ▸ hcloses) ?_
        exact List.mem_append_right _ (Option.mem_toList.mpr hback)
      · exact .waits hnext
  · have hnone : d.takes e.gateway = [] := by
      cases d with
      | take => exact absurd rfl hd
      | _ => rfl
    obtain ⟨p, hp, hcall, -⟩ := id hc
    have hfollow := Audit.follow_without_take (a := e.audit) _ h.regular.conserves hp
      (Dealing.ne_take_of_mem (g := e.gateway) hd)
    rw [← audit_step] at hfollow
    rw [hnone, List.append_nil]
    rcases hfollow with hp' | hgone
    · exact .waits (hc.of_pending (hp'.trans hp.symm) (e.settings_step d).2)
    · rw [← hcall]
      exact .withdrawn hgone

theorem course_step (h : e.Sound) (hc : e.Course k c heard) (d : Dealing κ) :
    (e.step d).Course k c (heard ++ d.takes e.gateway) := by
  cases hc with
  | waits hc => exact course_of_expects h hc d
  | closed before after p o hheard hopen hcloses hback =>
    have hsame := (e.settings_step d).2
    refine .closed before (after ++ d.takes e.gateway) p o ?_ (hsame ▸ hopen) (hsame ▸ hcloses)
      (ended_step h d hback)
    rw [hheard, List.append_assoc]
    rfl
  | withdrawn hgone =>
    refine .withdrawn ?_
    rw [audit_step]
    exact hgone.follow h.regular.conserves _

theorem course_run (ds : List (Dealing κ)) : ∀ {e : Exchange κ} {heard : List Post}, e.Sound →
    e.Course k c heard →
      ∃ new, (e.run ds).taken = e.taken ++ new ∧ (e.run ds).Course k c (heard ++ new) := by
  induction ds with
  | nil => exact fun {e heard} _ hc =>
      ⟨[], (List.append_nil e.taken).symm, (List.append_nil heard).symm ▸ hc⟩
  | cons d ds ih =>
    intro e heard h hc
    obtain ⟨new, htaken, hlast⟩ := ih (sound_step h d) (course_step h hc d)
    refine ⟨d.takes e.gateway ++ new, ?_, ?_⟩
    · rw [run_cons, htaken, taken_step, List.append_assoc]
    · rw [← List.append_assoc]
      exact hlast

/-- A call that was just issued has heard nothing. -/
theorem course_issue (e : Exchange κ) (k : CallKind) (args : CallArgs) (d : κ) :
    (e.step (.issue k args d)).Course k ⟨(e.gateway.issue k args d).1, args, d⟩ [] := by
  obtain ⟨p, hp, hc, hheard⟩ := e.gateway.tracker.awaits_register k args d
  refine .waits ⟨p, hp, hc, hheard, List.not_mem_nil, ?_⟩
  have hp' := Option.some.inj (hp.symm.trans (PerKind.get_set_self _ _ _))
  rw [hp']
  rfl

/-- **The first post that closes a call gives it its outcome.** Take a call that was issued, and any
run since in which it was not withdrawn. If among the posts that were taken since there is one that
closes the call, and those before it have left it open, then the call has ended once, with the
outcome that this post gives it. -/
theorem ended_of_closes (h : e.Sound) (k : CallKind) (args : CallArgs) (completion : κ)
    (later : List (Dealing κ)) {before after : List Post} {p : Post} {o : Outcome} :
    let c : Call κ := ⟨(e.gateway.issue k args completion).1, args, completion⟩
    let d := (e.step (.issue k args completion)).run later
    ¬ d.audit.Withdrawn ⟨k, c.request, completion⟩ → d.taken = e.taken ++ (before ++ p :: after) →
      c.LeftOpen k e.gateway.tracker.retries before →
      c.Closes k e.gateway.tracker.retries before p o →
        d.ended.filter (fun x => x.request == c.request) = [⟨k, c.request, o, completion⟩] := by
  intro c d hleft htaken hopen hcloses
  have hb := sound_step h (.issue k args completion)
  have hretries : d.gateway.tracker.retries = e.gateway.tracker.retries :=
    ((settings_run later _).2).trans (e.settings_step _).2
  obtain ⟨new, hnew, hcourse⟩ := course_run later hb (e.course_issue k args completion)
  have hissue : (e.step (.issue k args completion)).taken = e.taken := rfl
  have hheard : new = before ++ p :: after := by
    rw [hissue] at hnew
    exact List.append_cancel_left (hnew.symm.trans htaken)
  rw [List.nil_append, hheard] at hcourse
  have hback : ⟨k, c.request, o, completion⟩ ∈ d.ended := by
    cases hcourse with
    | withdrawn hgone => exact absurd hgone hleft
    | waits hwaits =>
      -- the call would have been open when the post was taken
      have hall := hwaits.leftOpen
      rw [hretries] at hall
      have hnext : c.LeftOpen k e.gateway.tracker.retries (before ++ [p]) :=
        hall.earlier ⟨after, by simp⟩
      exact absurd hcloses ((hopen.concat p).mp hnext o)
    | closed before' after' p' o' he hopen' hcloses' hmem =>
      rw [hretries] at hopen' hcloses'
      rwa [Call.outcome_unique he hopen hcloses hopen' hcloses']
  exact (sound_run hb later).regular.conserves.filter_returned hback

end Exchange

end PointerShare
