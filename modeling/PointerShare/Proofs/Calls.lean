/-
# The calls a tracker holds

Of a pending call, what counts for its issuer is what it was registered with:
its number, its arguments and its completion. Timers and partial answers change
none of these. `Tracker.calls` reads them off, one call at most for each kind,
and the theorems here say what each operation does to the calls held: a new
call takes the place of the one of its kind, which goes to the superseded ones;
a post ends at most one call, pending or superseded, and hands back what that
call was registered with.

Key definitions: `Call`, `Tracker.calls`, `Tracker.Applied`.
Key theorems: `Tracker.calls_register`, `Tracker.superseded_register`,
`Tracker.applied`.
-/
import PointerShare.Gateway

namespace PointerShare

namespace PerKind

variable {α β : Type}

def map (f : α → β) (p : PerKind α) : PerKind β := ⟨f p.prepare, f p.unprepare, f p.start, f p.stop⟩

@[simp] theorem get_map (f : α → β) (p : PerKind α) (k : CallKind) :
    (p.map f).get k = f (p.get k) := by
  cases k <;> rfl

theorem map_set (f : α → β) (p : PerKind α) (k : CallKind) (a : α) :
    (p.set k a).map f = (p.map f).set k (f a) := by
  cases k <;> rfl

@[simp] theorem set_get_self (p : PerKind α) (k : CallKind) : p.set k (p.get k) = p := by
  cases k <;> rfl

@[simp] theorem set_set (p : PerKind α) (k : CallKind) (a b : α) :
    (p.set k a).set k b = p.set k b := by
  cases k <;> rfl

end PerKind

/-- A call as it was registered. -/
structure Call (κ : Type) where
  request : RequestId
  args : CallArgs
  completion : κ
  deriving DecidableEq, Repr

namespace Tracker

variable {κ : Type}

/-- A pending call as it was registered. -/
def callOf (p : Pending κ) : Call κ := ⟨p.request, p.args, p.completion⟩

/-- The pending calls, as they were registered. -/
def calls (t : Tracker κ) : PerKind (Option (Call κ)) := t.pending.map fun p => p.map callOf

theorem get_calls (t : Tracker κ) (k : CallKind) : t.calls.get k = (t.pending? k).map callOf :=
  PerKind.get_map _ _ k

/-- The superseded call that a pending one becomes. -/
def replacedBy (k : CallKind) (c : Option (Call κ)) : List (Replaced κ) :=
  c.toList.map fun c => ⟨k, c.request, c.completion⟩

/-! ### Registering -/

theorem calls_supersede (t : Tracker κ) (k : CallKind) :
    (t.supersede k).calls = t.calls.set k none := by
  unfold supersede
  cases h : t.pending? k with
  | none =>
    have hk : t.calls.get k = none := by rw [get_calls, h]; rfl
    show t.calls = _
    rw [← hk, PerKind.set_get_self]
  | some old => exact PerKind.map_set _ _ _ _

theorem superseded_supersede (t : Tracker κ) (k : CallKind) :
    (t.supersede k).superseded = t.superseded ++ replacedBy k (t.calls.get k) := by
  rw [get_calls]
  unfold supersede
  cases h : t.pending? k with
  | none => simp [replacedBy]
  | some old => simp [replacedBy, callOf]

theorem issued_supersede (t : Tracker κ) (k : CallKind) : (t.supersede k).issued = t.issued := by
  unfold supersede
  split <;> rfl

@[simp] theorem calls_register (t : Tracker κ) (k : CallKind) (args : CallArgs) (c : κ) :
    (t.register k args c).2.calls = t.calls.set k (some ⟨⟨t.issued + 1⟩, args, c⟩) := by
  simp only [register, calls, PerKind.map_set]
  rw [← calls, calls_supersede, PerKind.set_set]
  rfl

@[simp] theorem superseded_register (t : Tracker κ) (k : CallKind) (args : CallArgs) (c : κ) :
    (t.register k args c).2.superseded = t.superseded ++ replacedBy k (t.calls.get k) := by
  simp only [register]
  exact superseded_supersede _ k

@[simp] theorem issued_register (t : Tracker κ) (k : CallKind) (args : CallArgs) (c : κ) :
    (t.register k args c).2.issued = t.issued + 1 := by
  simp only [register]
  exact issued_supersede _ k

/-! ### Cancelling -/

/-! ### Applying a post -/

/-- What a post comes to: nothing ends, a pending call ends, or a superseded one does. -/
inductive Applied (t : Tracker κ) : Option (Resolved κ) → Tracker κ → Prop
  | nothing (t' : Tracker κ) (hc : t'.calls = t.calls) (hs : t'.superseded = t.superseded)
      (hi : t'.issued = t.issued) : Applied t none t'
  | pending (k : CallKind) (c : Call κ) (o : Outcome) (t' : Tracker κ) (hk : t.calls.get k = some c)
      (ho : o ≠ .superseded) (hc : t'.calls = t.calls.set k none)
      (hs : t'.superseded = t.superseded) (hi : t'.issued = t.issued) :
      Applied t (some ⟨k, c.request, o, c.completion⟩) t'
  | superseded (r : Replaced κ) (t' : Tracker κ) (hr : r ∈ t.superseded) (hc : t'.calls = t.calls)
      (hs : t'.superseded = t.superseded.filter fun q => q.request != r.request)
      (hi : t'.issued = t.issued) :
      Applied t (some ⟨r.kind, r.request, .superseded, r.completion⟩) t'

theorem pending?_of_current? {t : Tracker κ} {k : CallKind} {r : RequestId} {p : Pending κ}
    (h : t.current? k r = some p) : t.pending? k = some p ∧ p.request = r := by
  obtain ⟨hp, hr⟩ := Option.filter_eq_some_iff.mp h
  exact ⟨hp, by simpa using hr⟩

/-- Progress of a pending call that keeps what it was registered with. -/
theorem calls_set_pending {t : Tracker κ} {k : CallKind} {p q : Pending κ}
    (hp : t.pending? k = some p) (h : callOf q = callOf p) :
    { t with pending := t.pending.set k (some q) }.calls = t.calls := by
  have hk : t.calls.get k = some (callOf p) := by rw [get_calls, hp]; rfl
  show (t.pending.set k (some q)).map _ = _
  rw [PerKind.map_set, Option.map_some, h, ← hk]
  exact PerKind.set_get_self _ _

/-- Resolving a call posts nothing. -/
theorem queue_resolve (t : Tracker κ) (k : CallKind) (o : Outcome) :
    (t.resolve k o).2.mailbox.queue = t.mailbox.queue := by
  unfold resolve
  split <;> rfl

theorem applied_resolve {t : Tracker κ} {k : CallKind} {p : Pending κ} (o : Outcome)
    (hp : t.pending? k = some p) (ho : o ≠ .superseded) :
    Applied t (t.resolve k o).1 (t.resolve k o).2 := by
  simp only [resolve, hp]
  exact .pending k (callOf p) o _ (by rw [get_calls, hp]; rfl) ho (PerKind.map_set _ _ _ _) rfl rfl

/-- Resolving after some progress is resolving. -/
theorem Applied.of_progress {t t₁ t' : Tracker κ} {o : Option (Resolved κ)} (h : Applied t₁ o t')
    (hc : t₁.calls = t.calls) (hs : t₁.superseded = t.superseded) (hi : t₁.issued = t.issued) :
    Applied t o t' := by
  cases h with
  | nothing _ hc' hs' hi' => exact .nothing _ (hc'.trans hc) (hs'.trans hs) (hi'.trans hi)
  | pending k c o _ hk ho hc' hs' hi' =>
    exact .pending k c o _ (hc ▸ hk) ho (hc ▸ hc') (hs'.trans hs) (hi'.trans hi)
  | superseded r _ hr hc' hs' hi' =>
    exact .superseded r _ (hs ▸ hr) (hc'.trans hc) (hs ▸ hs') (hi'.trans hi)

theorem applied_onReply (t : Tracker κ) (r : Reply) : Applied t (t.onReply r).1 (t.onReply r).2 := by
  unfold onReply
  split
  · exact .nothing _ rfl rfl rfl
  · rename_i p hcur
    obtain ⟨hp, -⟩ := pending?_of_current? hcur
    split
    · exact .nothing _ rfl rfl rfl
    split
    · exact applied_resolve _ hp (by decide)
    split
    · exact .nothing _ rfl rfl rfl
    have hcalls :=
      calls_set_pending (q := { p with outstanding := p.outstanding.erase r.part.shape }) hp rfl
    simp only
    split
    · refine .of_progress (applied_resolve (p := { p with
        outstanding := p.outstanding.erase r.part.shape }) .succeeded ?_ (by decide)) hcalls rfl rfl
      exact PerKind.get_set_self _ _ _
    · exact .nothing _ hcalls rfl rfl

theorem applied_onTimer (t : Tracker κ) (k : CallKind) (r : RequestId) :
    Applied t (t.onTimer k r).1 (t.onTimer k r).2 := by
  unfold onTimer
  split
  · exact .nothing _ rfl rfl rfl
  · rename_i p hcur
    obtain ⟨hp, -⟩ := pending?_of_current? hcur
    split
    · exact applied_resolve _ hp (by decide)
    · exact .nothing _ (calls_set_pending hp rfl) rfl rfl

theorem applied_onIssueFailed (t : Tracker κ) (k : CallKind) (r : RequestId) :
    Applied t (t.onIssueFailed k r).1 (t.onIssueFailed k r).2 := by
  unfold onIssueFailed
  split
  · exact .nothing _ rfl rfl rfl
  · rename_i p hcur
    exact applied_resolve _ (pending?_of_current? hcur).1 (by decide)

theorem applied_takeSuperseded (t : Tracker κ) (r : RequestId) :
    Applied t (t.takeSuperseded r).1 (t.takeSuperseded r).2 := by
  unfold takeSuperseded
  split
  · exact .nothing _ rfl rfl rfl
  · rename_i q hq
    have hr : q.request = r := by simpa using List.find?_some hq
    exact .superseded q _ (List.mem_of_find?_eq_some hq) rfl (by rw [hr]) rfl

/-- A post ends at most one call, and hands back what it was registered with. -/
theorem applied (t : Tracker κ) (p : Post) : Applied t (t.apply p).1 (t.apply p).2 := by
  cases p with
  | reply r => exact applied_onReply t r
  | issueFailed k r => exact applied_onIssueFailed t k r
  | timerFired k r => exact applied_onTimer t k r
  | superseded r => exact applied_takeSuperseded t r
  | relay _ => exact .nothing _ rfl rfl rfl

end Tracker

namespace Gateway

variable {κ : Type}

theorem calls_issue (g : Gateway κ) (k : CallKind) (args : CallArgs) (c : κ) :
    (g.issue k args c).2.tracker.calls =
      g.tracker.calls.set k (some ⟨⟨g.tracker.issued + 1⟩, args, c⟩) :=
  g.tracker.calls_register k args c

theorem superseded_issue (g : Gateway κ) (k : CallKind) (args : CallArgs) (c : κ) :
    (g.issue k args c).2.tracker.superseded =
      g.tracker.superseded ++ Tracker.replacedBy k (g.tracker.calls.get k) :=
  g.tracker.superseded_register k args c

theorem issued_issue (g : Gateway κ) (k : CallKind) (args : CallArgs) (c : κ) :
    (g.issue k args c).2.tracker.issued = g.tracker.issued + 1 :=
  g.tracker.issued_register k args c

/-- Subscribing to relay events concerns no call. -/
theorem tracker_subscribe (g : Gateway κ) : g.subscribe.2.tracker = g.tracker := by
  unfold subscribe
  split
  · rfl
  split <;> rfl

theorem tracker_unsubscribe (g : Gateway κ) : g.unsubscribe.2.tracker = g.tracker := by
  unfold unsubscribe
  split
  · rfl
  split <;> rfl

end Gateway

end PointerShare
