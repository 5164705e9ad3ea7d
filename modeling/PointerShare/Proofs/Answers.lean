/-
# A call is answered part by part

Replies come in any order, more than once, to calls that have ended or with
arguments that nobody gave. A call is decided by the first of them that repeats
its arguments and reports failure, in whatever shape, or that is the last to
report success in a shape its kind asks for. Of a pending call the tracker keeps
the shapes that are outstanding, and they are those of its kind in which no
reply to it has reported success (`Tracker.Awaits`): that is all it needs
to know of the replies it has heard, so their order does not count as long as
they report success.

Key definitions: `CallArgs.Repeats`, `Reply.Answers`, `Call.Undecided`,
`Call.Decides`, `Call.Verdict`, `Tracker.Awaits`.
Key theorems: `CallArgs.echoes_iff`, `Tracker.Awaits.onReply`,
`Audit.awaits_run`, `Audit.first_that_decides`.
-/
import PointerShare.Proofs.Timeouts

namespace PointerShare

open scoped List

variable {κ : Type}

/-! ### What a reply says of a call -/

/-- A reply's content repeats a call's arguments: the same two stations, or the same hardware ids in
any order, each as often. -/
def CallArgs.Repeats (args : CallArgs) : ReplyPart → Prop
  | .pair src sink => src = args.src ∧ sink = args.sink
  | .dhids ids => ids ~ args.dhids

instance (args : CallArgs) : ∀ part, Decidable (args.Repeats part)
  | .pair _ _ => inferInstanceAs (Decidable (_ ∧ _))
  | .dhids _ => inferInstanceAs (Decidable (_ ~ _))

namespace Dhid

theorem le_total (a b : Dhid) : (le a b || le b a) = true := by
  simpa [le] using String.le_total a.text b.text

theorem le_trans (a b c : Dhid) (hab : le a b = true) (hbc : le b c = true) : le a c = true := by
  simp only [le, decide_eq_true_eq] at *
  exact String.le_trans hab hbc

theorem le_antisymm (a b : Dhid) (hab : le a b = true) (hba : le b a = true) : a = b := by
  simp only [le, decide_eq_true_eq] at hab hba
  cases a
  cases b
  exact congrArg mk (String.le_antisymm hab hba)

/-- Sorting forgets the order, and nothing else. -/
theorem sorted_eq_iff {xs ys : List Dhid} : sorted xs = sorted ys ↔ xs ~ ys := by
  have hsorted (zs : List Dhid) : (sorted zs).Pairwise fun a b => le a b = true :=
    List.pairwise_mergeSort le_trans le_total zs
  constructor
  · intro h
    calc xs ~ sorted xs := (List.mergeSort_perm xs le).symm
      _ ~ sorted ys := h ▸ .refl _
      _ ~ ys := List.mergeSort_perm ys le
  · intro h
    refine List.Perm.eq_of_pairwise (fun a b _ _ => le_antisymm a b) (hsorted xs) (hsorted ys) ?_
    calc sorted xs ~ xs := List.mergeSort_perm xs le
      _ ~ ys := h
      _ ~ sorted ys := (List.mergeSort_perm ys le).symm

end Dhid

theorem CallArgs.echoes_iff {args : CallArgs} {part : ReplyPart} :
    args.echoes part = true ↔ args.Repeats part := by
  cases part with
  | pair src sink => simp [echoes, Repeats]
  | dhids ids => simp [echoes, Repeats, Dhid.sorted_eq_iff]

/-- The reply is one to the call `c` of kind `k`. -/
structure Reply.Answers (r : Reply) (k : CallKind) (c : Call κ) : Prop where
  kind : r.kind = k
  request : r.request = c.request
  repeats : c.args.Repeats r.part

namespace Call

/-- A reply to the call reports success in a shape. -/
def Confirmed (k : CallKind) (c : Call κ) (rs : List Reply) (shape : PartShape) : Prop :=
  ∃ r ∈ rs, r.Answers k c ∧ r.status = 0 ∧ r.part.shape = shape

/-- A reply to the call reports failure. -/
def Denied (k : CallKind) (c : Call κ) (rs : List Reply) : Prop :=
  ∃ r ∈ rs, r.Answers k c ∧ r.status ≠ 0

/-- The replies leave it open how the call ends. -/
structure Undecided (k : CallKind) (c : Call κ) (rs : List Reply) : Prop where
  not_denied : ¬ Denied k c rs
  unconfirmed : ∃ shape ∈ k.shapes, ¬ Confirmed k c rs shape

/-- After the replies `heard`, the next one ends the call. -/
inductive Decides (k : CallKind) (c : Call κ) (heard : List Reply) (r : Reply) : Outcome → Prop
  | rejected (hr : r.Answers k c) (hs : r.status ≠ 0) : Decides k c heard r .rejected
  | succeeded (hr : r.Answers k c) (hs : r.status = 0)
      (hall : ∀ shape ∈ k.shapes, Confirmed k c (heard ++ [r]) shape) :
      Decides k c heard r .succeeded

/-- The replies `rs` after `heard`, up to the first that ends the call, give it this outcome. -/
def Verdict (k : CallKind) (c : Call κ) (heard rs : List Reply) (o : Outcome) : Prop :=
  ∃ before r after, rs = before ++ r :: after ∧ Undecided k c (heard ++ before) ∧
    Decides k c (heard ++ before) r o

end Call

namespace Call

variable {k : CallKind} {c : Call κ} {rs rs' : List Reply} {r : Reply} {o : Outcome}

/-- What was confirmed depends on which replies there were. -/
theorem Confirmed.mono (h : rs ⊆ rs') {shape : PartShape} (hc : Confirmed k c rs shape) :
    Confirmed k c rs' shape := by
  obtain ⟨r, hr, hrest⟩ := hc
  exact ⟨r, h hr, hrest⟩

theorem Denied.mono (h : rs ⊆ rs') (hd : Denied k c rs) : Denied k c rs' := by
  obtain ⟨r, hr, hrest⟩ := hd
  exact ⟨r, h hr, hrest⟩

theorem Undecided.mono (h : rs' ⊆ rs) (hu : Undecided k c rs) : Undecided k c rs' := by
  obtain ⟨shape, hshape, hun⟩ := hu.unconfirmed
  exact ⟨fun hd => hu.not_denied (hd.mono h), shape, hshape, fun hc => hun (hc.mono h)⟩

/-- No call is decided before it was answered. -/
theorem undecided_nil (k : CallKind) (c : Call κ) : Undecided k c [] where
  not_denied := fun ⟨_, hr, _⟩ => List.not_mem_nil hr
  unconfirmed := ⟨.pair, by cases k <;> decide, fun ⟨_, hr, _⟩ => List.not_mem_nil hr⟩

theorem confirmed_concat {shape : PartShape} : Confirmed k c (rs ++ [r]) shape ↔
    Confirmed k c rs shape ∨ (r.Answers k c ∧ r.status = 0 ∧ r.part.shape = shape) := by
  simp only [Confirmed, List.mem_append, List.mem_singleton]
  constructor
  · rintro ⟨q, hq | rfl, hrest⟩
    · exact .inl ⟨q, hq, hrest⟩
    · exact .inr hrest
  · rintro (⟨q, hq, hrest⟩ | hrest)
    · exact ⟨q, .inl hq, hrest⟩
    · exact ⟨r, .inr rfl, hrest⟩

theorem denied_concat : Denied k c (rs ++ [r]) ↔ Denied k c rs ∨ (r.Answers k c ∧ r.status ≠ 0) := by
  simp only [Denied, List.mem_append, List.mem_singleton]
  constructor
  · rintro ⟨q, hq | rfl, hrest⟩
    · exact .inl ⟨q, hq, hrest⟩
    · exact .inr hrest
  · rintro (⟨q, hq, hrest⟩ | hrest)
    · exact ⟨q, .inl hq, hrest⟩
    · exact ⟨r, .inr rfl, hrest⟩

/-- One more reply leaves the call open or ends it. -/
theorem Undecided.concat (h : Undecided k c rs) (r : Reply) :
    Undecided k c (rs ++ [r]) ↔ ∀ o, ¬ Decides k c rs r o := by
  constructor
  · rintro hu o (⟨hr, hs⟩ | ⟨hr, hs, hall⟩)
    · exact hu.not_denied (denied_concat.mpr (.inr ⟨hr, hs⟩))
    · obtain ⟨shape, hshape, hun⟩ := hu.unconfirmed
      exact hun (hall shape hshape)
  · intro hno
    have hdenied : ¬ Denied k c (rs ++ [r]) := by
      rw [denied_concat]
      rintro (hd | ⟨hr, hs⟩)
      · exact h.not_denied hd
      · exact hno _ (.rejected hr hs)
    refine ⟨hdenied, Classical.byContradiction fun hnone => ?_⟩
    have hall : ∀ shape ∈ k.shapes, Confirmed k c (rs ++ [r]) shape := fun shape hshape =>
      Classical.byContradiction fun hun => hnone ⟨shape, hshape, hun⟩
    -- the shape that was missing is the one of this reply
    obtain ⟨shape, hshape, hun⟩ := h.unconfirmed
    obtain ⟨hr, hs, -⟩ := (confirmed_concat.mp (hall shape hshape)).resolve_left hun
    exact hno _ (.succeeded hr hs hall)

/-- Every sequence of replies leaves the call open or ends it. -/
theorem undecided_or_verdict {heard : List Reply} (h : Undecided k c heard) (rs : List Reply) :
    Undecided k c (heard ++ rs) ∨ ∃ o, Verdict k c heard rs o := by
  induction rs generalizing heard with
  | nil => exact .inl (by simpa using h)
  | cons r rs ih =>
    by_cases hd : ∃ o, Decides k c heard r o
    · obtain ⟨o, ho⟩ := hd
      exact .inr ⟨o, [], r, rs, rfl, by simpa using h, by simpa using ho⟩
    · rcases ih ((h.concat r).mpr (not_exists.mp hd)) with hu | ⟨o, before, q, after, rfl, hrest⟩
      · exact .inl (by simpa using hu)
      · exact .inr ⟨o, r :: before, q, after, rfl, by simpa using hrest⟩

theorem Verdict.not_undecided {heard : List Reply} (h : Verdict k c heard rs o) :
    ¬ Undecided k c (heard ++ rs) := by
  obtain ⟨before, r, after, rfl, hu, hd⟩ := h
  intro hall
  have hopen : Undecided k c (heard ++ before ++ [r]) := hall.mono (by simp)
  exact (hu.concat r).mp hopen o hd

/-- Replies that report success end no call as rejected. -/
theorem Verdict.succeeded {heard : List Reply} (h : Verdict k c heard rs o)
    (hs : ∀ r ∈ rs, r.status = 0) : o = .succeeded := by
  obtain ⟨before, r, after, rfl, -, hd⟩ := h
  cases hd with
  | rejected hr hfail => exact absurd (hs r (by simp)) hfail
  | succeeded => rfl

/-- In which order replies report success makes no difference. -/
theorem Verdict.perm {heard : List Reply} (hh : Undecided k c heard) (hs : ∀ r ∈ rs, r.status = 0)
    (hp : rs ~ rs') (h : Verdict k c heard rs o) : Verdict k c heard rs' o := by
  have hs' : ∀ r ∈ rs', r.status = 0 := fun r hr => hs r (hp.mem_iff.mpr hr)
  have hno : ¬ Undecided k c (heard ++ rs') := fun hu =>
    h.not_undecided (hu.mono ((hp.append_left heard).subset))
  obtain ⟨o', ho'⟩ := (undecided_or_verdict hh rs').resolve_left hno
  rw [h.succeeded hs, ← ho'.succeeded hs']
  exact ho'

end Call

/-! ### What one reply does -/

namespace Tracker

variable {t : Tracker κ} {k : CallKind} {p : Pending κ} {r : Reply}

/-- A reply that is to no pending call changes nothing. -/
theorem onReply_of_not_answers
    (h : ∀ p, t.pending? r.kind = some p → ¬ r.Answers r.kind (callOf p)) :
    t.onReply r = (none, t) := by
  unfold onReply
  split
  · rfl
  rename_i p hcur
  obtain ⟨hp, hr⟩ := pending?_of_current? hcur
  have hrepeats : ¬ p.args.Repeats r.part := fun ha => h p hp ⟨rfl, hr.symm, ha⟩
  rw [← CallArgs.echoes_iff] at hrepeats
  simp [hrepeats]

/-- What a reply to a pending call does. -/
theorem onReply_of_answers (hp : t.pending? k = some p) (hr : r.Answers k (callOf p)) :
    t.onReply r =
      if r.status ≠ 0 then t.resolve k .rejected
      else if r.part.shape ∉ p.outstanding then (none, t)
      else if p.outstanding.erase r.part.shape = [] then t.resolve k .succeeded
      else (none, { t with pending := t.pending.set k (some
        { p with outstanding := p.outstanding.erase r.part.shape }) }) := by
  obtain ⟨rfl, hreq, hrepeats⟩ := hr
  have hcur : t.current? r.kind r.request = some p := by
    rw [hreq]
    exact current?_of_pending? hp
  have hechoes : p.args.echoes r.part = true := CallArgs.echoes_iff.mpr hrepeats
  have hsame (outstanding : List PartShape) :
      resolve { t with pending := t.pending.set r.kind (some { p with outstanding := outstanding }) }
        r.kind .succeeded = t.resolve r.kind .succeeded := by
    simp only [resolve, pending?, PerKind.get_set_self, PerKind.set_set] at hp ⊢
    rw [hp]
  simp only [onReply, hcur, hechoes, Reply.isSuccess, hsame, List.isEmpty_iff, Bool.not_true,
    Bool.false_eq_true, if_false, Bool.not_eq_true', beq_eq_false_iff_ne]

/-- Nor does one that is to the pending call of its kind, and reports success in a shape that is not
outstanding. -/
theorem onReply_of_nothing_new (hp : t.pending? k = some p)
    (h : r.Answers k (callOf p) → r.status = 0 ∧ r.part.shape ∉ p.outstanding) :
    (t.onReply r).2.pending? k = t.pending? k ∧ (r.kind = k → t.onReply r = (none, t)) := by
  by_cases hk : r.kind = k
  · subst hk
    suffices heq : t.onReply r = (none, t) from ⟨by rw [heq], fun _ => heq⟩
    by_cases ha : r.Answers r.kind (callOf p)
    · obtain ⟨hs, hshape⟩ := h ha
      rw [onReply_of_answers hp ha, if_neg (not_not_intro hs), if_pos hshape]
    · exact onReply_of_not_answers fun q hq => by
        rw [hp] at hq
        cases hq
        exact ha
  · exact ⟨pending?_onReply t r hk, fun he => absurd he hk⟩

/-- A reply hands back nothing, or ends the call of its kind as rejected or succeeded. -/
theorem onReply_none_or_resolve (t : Tracker κ) (r : Reply) :
    (t.onReply r).1 = none ∨
      ∃ o, (o = .rejected ∨ o = .succeeded) ∧ t.onReply r = t.resolve r.kind o := by
  by_cases hr : ∃ p, t.pending? r.kind = some p ∧ r.Answers r.kind (callOf p)
  · obtain ⟨p, hp, ha⟩ := hr
    rw [onReply_of_answers hp ha]
    split
    · exact .inr ⟨_, .inl rfl, rfl⟩
    split
    · exact .inl rfl
    split
    · exact .inr ⟨_, .inr rfl, rfl⟩
    · exact .inl rfl
  · rw [onReply_of_not_answers fun p hp ha => hr ⟨p, hp, ha⟩]
    exact .inl rfl

/-- Ending the call of a kind hands it back, if there is one. -/
theorem of_resolve {o : Outcome} {e : Resolved κ} (h : (t.resolve k o).1 = some e) :
    e.kind = k ∧ e.outcome = o := by
  unfold resolve at h
  split at h
  · cases h
  · cases h
    exact ⟨rfl, rfl⟩

theorem kind_of_onReply {e : Resolved κ} (h : (t.onReply r).1 = some e) : e.kind = r.kind := by
  rcases t.onReply_none_or_resolve r with hnone | ⟨o, -, heq⟩
  · rw [hnone] at h
    cases h
  · rw [heq] at h
    exact (of_resolve h).1

end Tracker

/-! ### What a pending call has heard -/

/-- After the replies `heard`, the call is not decided, and the outstanding shapes are those in which
it was not confirmed. -/
structure Pending.Heard (p : Pending κ) (k : CallKind) (heard : List Reply) : Prop where
  nodup : p.outstanding.Nodup
  outstanding : ∀ shape, shape ∈ p.outstanding ↔
    shape ∈ k.shapes ∧ ¬ (Tracker.callOf p).Confirmed k heard shape
  not_denied : ¬ (Tracker.callOf p).Denied k heard
  missing : p.outstanding ≠ []

namespace Pending.Heard

variable {p : Pending κ} {k : CallKind} {heard : List Reply} {r : Reply}

theorem undecided (h : p.Heard k heard) : (Tracker.callOf p).Undecided k heard := by
  obtain ⟨shape, hmem⟩ := List.exists_mem_of_ne_nil _ h.missing
  exact ⟨h.not_denied, shape, (h.outstanding shape).mp hmem⟩

/-- A reply to another call, or of success in a shape that is not outstanding, is nothing new. -/
theorem nothing_new (h : p.Heard k heard)
    (hr : r.Answers k (Tracker.callOf p) → r.status = 0 ∧ r.part.shape ∉ p.outstanding) :
    p.Heard k (heard ++ [r]) := by
  refine ⟨h.nodup, fun shape => ?_, ?_, h.missing⟩
  · rw [h.outstanding, Call.confirmed_concat]
    refine and_congr_right fun hshape => not_congr ⟨.inl, ?_⟩
    rintro (hc | ⟨ha, -, rfl⟩)
    · exact hc
    · exact Classical.byContradiction fun hun =>
        (hr ha).2 ((h.outstanding _).mpr ⟨hshape, hun⟩)
  · rw [Call.denied_concat]
    rintro (hd | ⟨ha, hs⟩)
    · exact h.not_denied hd
    · exact hs (hr ha).1

/-- Success in a shape that was outstanding, and is not the last. -/
theorem part (h : p.Heard k heard) (ha : r.Answers k (Tracker.callOf p)) (hs : r.status = 0)
    (hmore : p.outstanding.erase r.part.shape ≠ []) :
    Pending.Heard { p with outstanding := p.outstanding.erase r.part.shape } k (heard ++ [r]) := by
  have hcall : Tracker.callOf { p with outstanding := p.outstanding.erase r.part.shape } =
      Tracker.callOf p := rfl
  refine ⟨h.nodup.erase _, fun shape => ?_, ?_, hmore⟩
  · rw [hcall, h.nodup.mem_erase_iff, h.outstanding, Call.confirmed_concat]
    constructor
    · rintro ⟨hne, hshape, hun⟩
      refine ⟨hshape, ?_⟩
      rintro (hc | ⟨-, -, he⟩)
      · exact hun hc
      · exact hne he.symm
    · rintro ⟨hshape, hun⟩
      exact ⟨fun he => hun (.inr ⟨ha, hs, he.symm⟩), hshape, fun hc => hun (.inl hc)⟩
  · rw [hcall, Call.denied_concat]
    rintro (hd | ⟨-, hfail⟩)
    · exact h.not_denied hd
    · exact hfail hs

/-- Success in the last shape that was outstanding. -/
theorem last (h : p.Heard k heard) (ha : r.Answers k (Tracker.callOf p)) (hs : r.status = 0)
    (hlast : p.outstanding.erase r.part.shape = []) :
    (Tracker.callOf p).Decides k heard r .succeeded := by
  refine .succeeded ha hs fun shape hshape => Call.confirmed_concat.mpr ?_
  refine Classical.or_iff_not_imp_left.mpr fun hun => ⟨ha, hs, Classical.byContradiction fun hne => ?_⟩
  have hmem : shape ∈ p.outstanding.erase r.part.shape :=
    (List.mem_erase_of_ne (Ne.symm hne)).mpr ((h.outstanding shape).mpr ⟨hshape, hun⟩)
  rw [hlast] at hmem
  cases hmem

end Pending.Heard

namespace Tracker

/-- The call `c` of kind `k` is pending after it heard the replies `heard`. -/
def Awaits (t : Tracker κ) (k : CallKind) (c : Call κ) (heard : List Reply) : Prop :=
  ∃ p, t.pending? k = some p ∧ callOf p = c ∧ p.Heard k heard

namespace Awaits

variable {t : Tracker κ} {k : CallKind} {c : Call κ} {heard : List Reply}

theorem undecided (h : t.Awaits k c heard) : c.Undecided k heard := by
  obtain ⟨p, -, rfl, hheard⟩ := h
  exact hheard.undecided

theorem get_calls (h : t.Awaits k c heard) : t.calls.get k = some c := by
  obtain ⟨p, hp, rfl, -⟩ := h
  rw [Tracker.get_calls, hp]
  rfl

/-- With the same pending call. -/
theorem of_pending {t' : Tracker κ} (h : t.Awaits k c heard) (he : t'.pending? k = t.pending? k) :
    t'.Awaits k c heard := by
  obtain ⟨p, hp, hrest⟩ := h
  exact ⟨p, he.trans hp, hrest⟩

/-- A reply to another call, or of success in a shape that needs no more success, changes nothing. -/
theorem nothing_new (h : t.Awaits k c heard) {r : Reply}
    (hr : r.Answers k c → r.status = 0 ∧
      (r.part.shape ∈ k.shapes → c.Confirmed k heard r.part.shape)) :
    (t.onReply r).2.pending? k = t.pending? k ∧ (r.kind = k → t.onReply r = (none, t)) := by
  obtain ⟨p, hp, rfl, hheard⟩ := h
  refine onReply_of_nothing_new hp fun ha => ⟨(hr ha).1, fun hmem => ?_⟩
  obtain ⟨hshape, hun⟩ := (hheard.outstanding _).mp hmem
  exact hun ((hr ha).2 hshape)

/-- One more reply ends the call if it decides it, and otherwise the call has heard that reply too. -/
theorem onReply (h : t.Awaits k c heard) (r : Reply) :
    (∃ o, c.Decides k heard r o ∧ t.onReply r = t.resolve k o) ∨
      (∀ o, ¬ c.Decides k heard r o) ∧ (∀ e, (t.onReply r).1 = some e → e.kind ≠ k) ∧
        (t.onReply r).2.Awaits k c (heard ++ [r]) := by
  obtain ⟨p, hp, rfl, hheard⟩ := h
  -- unless it is decided, what remains to be shown is that the call waits on
  have hopen (hwaits : (t.onReply r).2.Awaits k (callOf p) (heard ++ [r]))
      (hnone : ∀ e, (t.onReply r).1 = some e → e.kind ≠ k) :=
    And.intro ((hheard.undecided.concat r).mp hwaits.undecided) (And.intro hnone hwaits)
  by_cases hnew : r.Answers k (callOf p) → r.status = 0 ∧ r.part.shape ∉ p.outstanding
  · obtain ⟨hsame, hnone⟩ := onReply_of_nothing_new hp hnew
    refine .inr (hopen ⟨p, hsame.trans hp, rfl, hheard.nothing_new hnew⟩ fun e he hk => ?_)
    rw [hnone ((kind_of_onReply he).symm.trans hk)] at he
    cases he
  · obtain ⟨ha, hnew⟩ := Classical.not_imp.mp hnew
    have heq := onReply_of_answers hp ha
    by_cases hs : r.status = 0
    · have hshape : r.part.shape ∈ p.outstanding := Classical.not_not.mp fun h => hnew ⟨hs, h⟩
      rw [if_neg (not_not_intro hs), if_neg (not_not_intro hshape)] at heq
      by_cases hlast : p.outstanding.erase r.part.shape = []
      · rw [if_pos hlast] at heq
        exact .inl ⟨.succeeded, hheard.last ha hs hlast, heq⟩
      · rw [if_neg hlast] at heq
        refine .inr (hopen ?_ ?_) <;> rw [heq]
        · exact ⟨_, PerKind.get_set_self _ _ _, rfl, hheard.part ha hs hlast⟩
        · exact nofun
    · rw [if_pos hs] at heq
      exact .inl ⟨.rejected, .rejected ha hs, heq⟩

/-- The next post, if it is no reply, ends the call or leaves it as it was. -/
theorem apply (h : t.Awaits k c heard) (p : Post) (hp : ∀ r, p ≠ .reply r) :
    (t.apply p).2.Awaits k c heard ∨ (t.apply p).2.pending? k = none := by
  obtain ⟨q, hq, hc, hheard⟩ := h
  have happ := t.applies p
  generalize t.apply p = result at happ ⊢
  obtain ⟨o, t'⟩ := result
  dsimp only at happ ⊢
  have hresolve (j : CallKind) (o : Outcome) :
      (t.resolve j o).2.Awaits k c heard ∨ (t.resolve j o).2.pending? k = none := by
    by_cases hj : j = k
    · subst hj
      right
      simp only [resolve, hq]
      exact PerKind.get_set_self _ _ _
    · exact .inl ⟨q, (pending?_resolve o hj).trans hq, hc, hheard⟩
  cases happ with
  | nothing | superseded => exact .inl ⟨q, hq, hc, hheard⟩
  | progress r => exact absurd rfl (hp r)
  | answered _ _ j o => exact hresolve j o
  | expires j => exact hresolve j .timedOut
  | waits j q' hq' =>
    by_cases hj : j = k
    · subst hj
      rw [hq] at hq'
      cases hq'
      exact .inl ⟨_, PerKind.get_set_self _ _ _, hc, hheard.1, hheard.2, hheard.3, hheard.4⟩
    · exact .inl ⟨q, (PerKind.get_set_of_ne _ hj _).trans hq, hc, hheard⟩

end Awaits

/-- A call that was just registered has heard nothing. -/
theorem awaits_register (t : Tracker κ) (k : CallKind) (args : CallArgs) (c : κ) :
    (t.register k args c).2.Awaits k ⟨(t.register k args c).1, args, c⟩ [] := by
  have hnone := Call.undecided_nil k (⟨(t.register k args c).1, args, c⟩ : Call κ)
  refine ⟨_, PerKind.get_set_self _ _ _, rfl, ?_, fun shape => ?_, hnone.not_denied, ?_⟩
  · show k.shapes.Nodup
    cases k <;> decide
  · exact ⟨fun h => ⟨h, fun ⟨_, hr, _⟩ => List.not_mem_nil hr⟩, And.left⟩
  · show k.shapes ≠ []
    cases k <;> decide

/-- What the replies hand back, one after the other. -/
def handedBack : Tracker κ → List Reply → List (Resolved κ)
  | _, [] => []
  | t, r :: rs => (t.onReply r).1.toList ++ handedBack (t.onReply r).2 rs

/-- The tracker after the replies. -/
def hearAll (t : Tracker κ) (rs : List Reply) : Tracker κ := rs.foldl (fun t r => (t.onReply r).2) t

theorem handedBack_append (rs rs' : List Reply) : ∀ t : Tracker κ,
    t.handedBack (rs ++ rs') = t.handedBack rs ++ (t.hearAll rs).handedBack rs' := by
  induction rs with
  | nil => exact fun _ => rfl
  | cons r rs ih =>
    intro t
    rw [List.cons_append, handedBack, handedBack, ih, List.append_assoc]
    rfl

theorem hearAll_append (t : Tracker κ) (rs rs' : List Reply) :
    t.hearAll (rs ++ rs') = (t.hearAll rs).hearAll rs' :=
  List.foldl_append

section

variable {t : Tracker κ} {k : CallKind} {c : Call κ} {heard : List Reply}

/-- Without a pending call of the kind, replies hand back none. -/
theorem pending?_hearAll_of_none (rs : List Reply) : ∀ t : Tracker κ, t.pending? k = none →
    (t.hearAll rs).pending? k = none ∧ (t.handedBack rs).filter (fun e => e.kind == k) = [] := by
  induction rs with
  | nil => exact fun _ h => ⟨h, rfl⟩
  | cons r rs ih =>
    intro t h
    have hnext : (t.onReply r).2.pending? k = none ∧ ∀ e ∈ (t.onReply r).1, e.kind ≠ k := by
      by_cases hk : r.kind = k
      · subst hk
        rw [onReply_of_not_answers fun p hp => absurd hp (by simp [h])]
        exact ⟨h, nofun⟩
      · exact ⟨(pending?_onReply t r hk).trans h, fun e he => kind_of_onReply he ▸ hk⟩
    obtain ⟨hlast, hnone⟩ := ih (t.onReply r).2 hnext.1
    refine ⟨hlast, ?_⟩
    rw [handedBack, List.filter_append, hnone, List.append_nil, List.filter_eq_nil_iff]
    intro e he
    simpa using hnext.2 e (Option.mem_toList.mp he)

/-- Replies that leave the call open hand back nothing of its kind, and it waits on. -/
theorem Awaits.hearAll (rs : List Reply) : ∀ {t : Tracker κ} {heard : List Reply},
    t.Awaits k c heard → c.Undecided k (heard ++ rs) →
      (t.hearAll rs).Awaits k c (heard ++ rs) ∧
        (t.handedBack rs).filter (fun e => e.kind == k) = [] := by
  induction rs with
  | nil => exact fun {_ heard} h _ => ⟨(List.append_nil heard).symm ▸ h, rfl⟩
  | cons r rs ih =>
    intro t heard h hu
    have hopen : c.Undecided k (heard ++ [r]) := hu.mono (by simp)
    rcases h.onReply r with ⟨o, hd, -⟩ | ⟨-, hnone, hwaits⟩
    · exact absurd hd ((h.undecided.concat r).mp hopen o)
    · rw [List.append_cons] at hu ⊢
      obtain ⟨hlast, hrest⟩ := ih hwaits hu
      refine ⟨hlast, ?_⟩
      rw [handedBack, List.filter_append, hrest, List.append_nil, List.filter_eq_nil_iff]
      intro e he
      simpa using hnone e (Option.mem_toList.mp he)

/-- The reply that decides a call hands it back, and with it the call is gone. -/
theorem Awaits.decided (h : t.Awaits k c heard) {r : Reply} {o : Outcome}
    (hd : c.Decides k heard r o) :
    (t.onReply r).1 = some ⟨k, c.request, o, c.completion⟩ ∧ (t.onReply r).2.pending? k = none := by
  rcases h.onReply r with ⟨o', hd', heq⟩ | ⟨hno, -, -⟩
  · have ho : o' = o := by
      cases hd <;> cases hd'
      · rfl
      · contradiction
      · contradiction
      · rfl
    obtain ⟨p, hp, rfl, -⟩ := h
    rw [heq, ho]
    simp only [resolve, hp]
    exact ⟨rfl, PerKind.get_set_self _ _ _⟩
  · exact absurd hd (hno o)

/-- Replies that give a verdict hand the call back once, with this outcome. -/
theorem Awaits.verdict (h : t.Awaits k c heard) {rs : List Reply} {o : Outcome}
    (hv : c.Verdict k heard rs o) :
    (t.hearAll rs).pending? k = none ∧
      (t.handedBack rs).filter (fun e => e.kind == k) = [⟨k, c.request, o, c.completion⟩] := by
  obtain ⟨before, r, after, rfl, hu, hd⟩ := hv
  obtain ⟨hwaits, hbefore⟩ := h.hearAll before hu
  obtain ⟨hback, hgone⟩ := hwaits.decided hd
  obtain ⟨hlast, hafter⟩ := pending?_hearAll_of_none after _ hgone
  refine ⟨by rw [hearAll_append]; exact hlast, ?_⟩
  rw [handedBack_append, handedBack, List.filter_append, List.filter_append, hbefore, hafter, hback]
  simp

end

end Tracker

/-! ### Whatever else is done meanwhile -/

/-- The reply that is applied, if one is. -/
def Use.replies : Use κ → List Reply
  | .post (.reply r) => [r]
  | _ => []

namespace Audit

variable {k : CallKind} {c : Call κ}

theorem issued_step (a : Audit κ) (u : Use κ) : a.tracker.issued ≤ (a.step u).tracker.issued := by
  cases u with
  | register k args c => exact Nat.le_of_lt (Nat.lt_of_lt_of_eq (Nat.lt_succ_self _)
      (a.tracker.issued_register k args c).symm)
  | post p => exact Nat.le_of_eq (a.tracker.applied p).issued.symm
  | cancelAll | mailbox => exact Nat.le_refl _

/-- A call that is not pending does not come back, since newer ones have greater numbers. -/
theorem not_pending_step {a : Audit κ} (hn : c.request.number ≤ a.tracker.issued)
    (h : a.tracker.calls.get k ≠ some c) (u : Use κ) : (a.step u).tracker.calls.get k ≠ some c := by
  cases u with
  | register j args d =>
    show (a.tracker.register j args d).2.calls.get k ≠ _
    rw [Tracker.calls_register, PerKind.get_set]
    split
    · rintro ⟨⟩
      exact Nat.not_succ_le_self _ hn
    · exact h
  | cancelAll =>
    show (PerKind.map _ (PerKind.const none)).get k ≠ _
    rw [PerKind.get_map, PerKind.get_const]
    nofun
  | mailbox m => exact h
  | post p =>
    show (a.tracker.apply p).2.calls.get k ≠ _
    have happ := a.tracker.applied p
    generalize a.tracker.apply p = result at happ ⊢
    obtain ⟨o, t'⟩ := result
    dsimp only at happ ⊢
    cases happ with
    | nothing _ hc | superseded _ _ _ hc => rwa [hc]
    | pending j _ _ _ _ _ hc =>
      rw [hc, PerKind.get_set]
      split
      · nofun
      · exact h

/-- A use of the tracker ends a call that waits, or adds the reply that is applied to what it has
heard. -/
theorem awaits_step {a : Audit κ} {heard : List Reply} (hn : c.request.number ≤ a.tracker.issued)
    (h : a.tracker.Awaits k c heard) (u : Use κ) :
    (a.step u).tracker.Awaits k c (heard ++ u.replies) ∨ (a.step u).tracker.calls.get k ≠ some c := by
  have hgone {t : Tracker κ} (ht : t.pending? k = none) : t.calls.get k ≠ some c := by
    rw [Tracker.get_calls, ht]
    nofun
  have hsame {t : Tracker κ} (ht : t.Awaits k c heard) : t.Awaits k c (heard ++ []) :=
    (List.append_nil heard).symm ▸ ht
  cases u with
  | register j args d =>
    by_cases hj : j = k
    · subst hj
      right
      show (a.tracker.register j args d).2.calls.get j ≠ _
      rw [Tracker.calls_register, PerKind.get_set_self]
      rintro ⟨⟩
      exact Nat.not_succ_le_self _ hn
    · exact .inl (hsame (h.of_pending (Tracker.pending?_register a.tracker args d hj)))
  | cancelAll => exact .inr (hgone (PerKind.get_const _ _))
  | mailbox m => exact .inl (hsame h)
  | post p =>
    cases p with
    | reply r =>
      rcases h.onReply r with ⟨o, hd, -⟩ | ⟨-, -, hwaits⟩
      · exact .inr (hgone (h.decided hd).2)
      · exact .inl hwaits
    | issueFailed | timerFired | superseded | relay =>
      exact (h.apply _ fun _ he => Post.noConfusion he).imp hsame hgone

/-- A call that is still pending has heard all the replies that were applied meanwhile. -/
theorem awaits_run (us : List (Use κ)) : ∀ {a : Audit κ} {heard : List Reply},
    c.request.number ≤ a.tracker.issued →
    a.tracker.Awaits k c heard ∨ a.tracker.calls.get k ≠ some c →
    (a.run us).tracker.calls.get k = some c →
      (a.run us).tracker.Awaits k c (heard ++ us.flatMap Use.replies) := by
  induction us with
  | nil => exact fun {_ heard} _ h hc =>
      (List.append_nil heard).symm ▸ h.resolve_right (not_not_intro hc)
  | cons u us ih =>
    intro a heard hn h hc
    have hnext := h.elim (fun h => awaits_step hn h u) fun h => .inr (not_pending_step hn h u)
    rw [List.flatMap_cons, ← List.append_assoc]
    exact ih (Nat.le_trans hn (a.issued_step u)) hnext hc

/-- **A call ends at the first reply that decides it.** Take a call that is still pending after any
uses of the tracker since it was registered. The replies it heard meanwhile have not decided it. As
long as further replies do not either, it waits on, and no call of its kind is handed back. The
first that decides it hands it back: as rejected, if that reply fails, and as succeeded, if with it
success has been reported in all shapes of the kind, the pair of stations and for a start or stop
the hardware ids too. A reply to another call, with other arguments, or of success in a shape that
needs no more success, changes nothing. So replies that report success give the same verdict in
any order. -/
theorem first_that_decides (a : Audit κ) (k : CallKind) (args : CallArgs) (completion : κ)
    (later : List (Use κ)) :
    let t := ((a.step (.register k args completion)).run later).tracker
    let c : Call κ := ⟨(a.tracker.register k args completion).1, args, completion⟩
    let heard := later.flatMap Use.replies
    t.calls.get k = some c →
      c.Undecided k heard ∧
      (∀ rs, c.Undecided k (heard ++ rs) ∨ ∃ o, c.Verdict k heard rs o) ∧
      (∀ rs, c.Undecided k (heard ++ rs) → (t.hearAll rs).calls.get k = some c ∧
        (t.handedBack rs).filter (fun e => e.kind == k) = []) ∧
      (∀ rs o, c.Verdict k heard rs o → (t.hearAll rs).calls.get k = none ∧
        (t.handedBack rs).filter (fun e => e.kind == k) = [⟨k, c.request, o, c.completion⟩]) ∧
      (∀ rs r o, c.Undecided k (heard ++ rs) → (c.Decides k (heard ++ rs) r o ↔
        ((t.hearAll rs).onReply r).1 = some ⟨k, c.request, o, c.completion⟩)) ∧
      (∀ rs r, c.Undecided k (heard ++ rs) →
        (r.Answers k c → r.status = 0 ∧
          (r.part.shape ∈ k.shapes → c.Confirmed k (heard ++ rs) r.part.shape)) →
        ((t.hearAll rs).onReply r).2.pending? k = (t.hearAll rs).pending? k ∧
          (r.kind = k → (t.hearAll rs).onReply r = (none, t.hearAll rs))) ∧
      (∀ rs rs', rs ~ rs' → (∀ r ∈ rs, r.status = 0) →
        ∀ o, c.Verdict k heard rs o ↔ c.Verdict k heard rs' o) ∧
      ∀ shape, shape ∈ k.shapes ↔ shape = .pair ∨ shape = .dhids ∧ (k = .start ∨ k = .stop) := by
  intro t c heard hc
  have hn : c.request.number ≤ (a.step (.register k args completion)).tracker.issued :=
    Nat.le_of_eq (a.tracker.issued_register k args completion).symm
  have h : t.Awaits k c heard :=
    awaits_run later hn (.inl (a.tracker.awaits_register k args completion)) hc
  refine ⟨h.undecided, Call.undecided_or_verdict h.undecided,
    fun rs hu => ⟨(h.hearAll rs hu).1.get_calls, (h.hearAll rs hu).2⟩, fun rs o hv => ⟨?_, (h.verdict hv).2⟩,
    fun rs r o hu => ⟨fun hd => ((h.hearAll rs hu).1.decided hd).1, fun hback => ?_⟩,
    fun rs r hu hr => (h.hearAll rs hu).1.nothing_new hr,
    fun rs rs' hp hs o => ⟨Call.Verdict.perm h.undecided hs hp, Call.Verdict.perm h.undecided
      (fun r hr => hs r (hp.mem_iff.mpr hr)) hp.symm⟩, fun shape => ?_⟩
  · rw [Tracker.get_calls, (h.verdict hv).1]
    rfl
  · rcases (h.hearAll rs hu).1.onReply r with ⟨o', hd, -⟩ | ⟨-, hnone, -⟩
    · have hsame := ((h.hearAll rs hu).1.decided hd).1
      rw [hback] at hsame
      cases hsame
      exact hd
    · exact absurd rfl (hnone _ hback)
  · cases k <;> cases shape <;> decide

/-- A start whose pair was confirmed ends when its hardware ids are confirmed, in whatever order. -/
theorem start_confirmed_in_both_shapes :
    let args : CallArgs := ⟨⟨"a"⟩, ⟨"b"⟩, [⟨"x"⟩, ⟨"y"⟩, ⟨"x"⟩]⟩
    let t := (((empty 10 0 : Audit Nat).step (.register .start args 7)).run
      [.post (.reply ⟨.start, ⟨1⟩, .pair ⟨"a"⟩ ⟨"b"⟩, 0⟩)]).tracker
    (t.onReply ⟨.start, ⟨1⟩, .dhids [⟨"x"⟩, ⟨"x"⟩, ⟨"y"⟩], 0⟩).1 =
      some ⟨.start, ⟨1⟩, .succeeded, 7⟩ := by
  intro args t
  obtain ⟨hopen, -, -, -, hends, -⟩ := first_that_decides (empty 10 0) .start args 7
    [.post (.reply ⟨.start, ⟨1⟩, .pair ⟨"a"⟩ ⟨"b"⟩, 0⟩)] (by decide)
  refine (hends [] _ .succeeded hopen).mp (.succeeded ⟨rfl, rfl, by decide⟩ rfl fun shape hshape => ?_)
  cases shape with
  | pair => exact ⟨_, List.mem_cons_self, ⟨rfl, rfl, rfl, rfl⟩, rfl, rfl⟩
  | dhids => exact ⟨_, List.mem_cons_of_mem _ List.mem_cons_self, ⟨rfl, rfl, by decide⟩, rfl, rfl⟩

end Audit

end PointerShare
