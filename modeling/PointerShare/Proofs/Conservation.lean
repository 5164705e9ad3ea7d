/-
# Every call a tracker registers ends once

Whatever is done to a tracker, with whatever arguments, and whatever becomes of
its mailbox meanwhile, a call that was registered is in one of four places: it
is pending; it was superseded, and its post has not been applied; it was handed
back; or it was dropped when all calls were cancelled. No call is in two of
them, and the last two are final.

An `Audit` is a tracker with a bookkeeper beside it, who writes down each call
that is registered, each that is handed back, and what is no longer open once
all calls were cancelled. He reads results only, and the tracker never sees
his books.

Key definitions: `Ticket`, `Tracker.openTickets`, `Use`, `Audit`,
`Audit.Conserves`.
Key theorems: `Tracker.openTickets_applied`, `Audit.conserves_step`,
`Audit.every_call_ends_once`.
-/
import PointerShare.Proofs.Calls

namespace PointerShare

open scoped List

variable {κ : Type}

/-- A call as its issuer knows it. -/
structure Ticket (κ : Type) where
  kind : CallKind
  request : RequestId
  completion : κ
  deriving DecidableEq, Repr

def Replaced.ticket (r : Replaced κ) : Ticket κ := ⟨r.kind, r.request, r.completion⟩

def Resolved.ticket (r : Resolved κ) : Ticket κ := ⟨r.kind, r.request, r.completion⟩

/-! ### Open calls -/

/-- The ticket of the call held for a kind, if there is one. -/
def Call.tickets (k : CallKind) (c : Option (Call κ)) : List (Ticket κ) :=
  c.toList.map fun c => ⟨k, c.request, c.completion⟩

namespace PerKind

/-- The tickets of the calls held, one at most for each kind. -/
def tickets (p : PerKind (Option (Call κ))) : List (Ticket κ) :=
  CallKind.all.flatMap fun k => Call.tickets k (p.get k)

/-- The call of one kind counts beside those of the others. -/
theorem tickets_set (p : PerKind (Option (Call κ))) (k : CallKind) (c : Option (Call κ)) :
    (p.set k c).tickets ~ Call.tickets k c ++ (p.set k none).tickets := by
  have hswap (a b l : List (Ticket κ)) : a ++ (b ++ l) ~ b ++ (a ++ l) :=
    List.perm_append_comm_assoc a b l
  cases k with
  | prepare => exact .refl _
  | unprepare => exact hswap _ _ _
  | start => exact ((hswap _ _ _).append_left _).trans (hswap _ _ _)
  | stop =>
    exact (((hswap _ _ _).append_left _).append_left _).trans
      (((hswap _ _ _).append_left _).trans (hswap _ _ _))

theorem tickets_perm (p : PerKind (Option (Call κ))) (k : CallKind) :
    p.tickets ~ Call.tickets k (p.get k) ++ (p.set k none).tickets := by
  have h := p.tickets_set k (p.get k)
  rw [set_get_self] at h
  exact h

end PerKind

namespace Tracker

/-- The pending calls. -/
def pendingTickets (t : Tracker κ) : List (Ticket κ) :=
  CallKind.all.flatMap fun k =>
    (t.pending? k).toList.map fun p => ⟨k, p.request, p.completion⟩

/-- The superseded calls that wait for their post. -/
def supersededTickets (t : Tracker κ) : List (Ticket κ) := t.superseded.map Replaced.ticket

/-- The calls that have not ended. -/
def openTickets (t : Tracker κ) : List (Ticket κ) := t.pendingTickets ++ t.supersededTickets

theorem pendingTickets_eq (t : Tracker κ) : t.pendingTickets = t.calls.tickets := by
  have hget (k : CallKind) : Call.tickets k (t.calls.get k) =
      (t.pending? k).toList.map fun p => (⟨k, p.request, p.completion⟩ : Ticket κ) := by
    rw [get_calls]
    cases t.pending? k <;> rfl
  unfold pendingTickets PerKind.tickets
  simp only [hget]

theorem openTickets_eq (t : Tracker κ) :
    t.openTickets = t.calls.tickets ++ t.superseded.map Replaced.ticket := by
  rw [openTickets, pendingTickets_eq]
  rfl

theorem ticket_replacedBy (k : CallKind) (c : Option (Call κ)) :
    (replacedBy k c).map Replaced.ticket = Call.tickets k c := by
  cases c <;> rfl

/-- A call that is registered joins the open calls, and none of them is lost. -/
theorem openTickets_register (t : Tracker κ) (k : CallKind) (args : CallArgs) (c : κ) :
    (t.register k args c).2.openTickets ~
      ⟨k, (t.register k args c).1, c⟩ :: t.openTickets := by
  have hset := t.calls.tickets_set k (some ⟨⟨t.issued + 1⟩, args, c⟩)
  have hold := t.calls.tickets_perm k
  rw [openTickets_eq, openTickets_eq, calls_register, superseded_register, List.map_append,
    ticket_replacedBy]
  generalize t.superseded.map Replaced.ticket = waiting at *
  generalize (t.calls.set k none).tickets = rest at *
  generalize Call.tickets k (t.calls.get k) = old at *
  calc (t.calls.set k (some ⟨⟨t.issued + 1⟩, args, c⟩)).tickets ++ (waiting ++ old)
      ~ ⟨k, ⟨t.issued + 1⟩, c⟩ :: (rest ++ (waiting ++ old)) := hset.append_right _
    _ ~ ⟨k, ⟨t.issued + 1⟩, c⟩ :: (old ++ rest ++ waiting) := by
      refine .cons _ ?_
      rw [← List.append_assoc, List.append_assoc old]
      exact List.perm_append_comm
    _ ~ ⟨k, ⟨t.issued + 1⟩, c⟩ :: (t.calls.tickets ++ waiting) := (hold.symm.append_right _).cons _

/-- Among calls with different numbers, the ones of a number are one. -/
theorem perm_filter_request {rs : List (Replaced κ)} (hn : (rs.map Replaced.request).Nodup)
    {r : Replaced κ} (hr : r ∈ rs) : rs ~ r :: rs.filter fun q => q.request != r.request := by
  induction rs with
  | nil => cases hr
  | cons q rs ih =>
    obtain ⟨hq, hn⟩ := List.nodup_cons.mp hn
    have hkeep (x : RequestId) (hx : x ∉ rs.map Replaced.request) :
        (rs.filter fun p => p.request != x) = rs := by
      refine List.filter_eq_self.mpr fun p hp => ?_
      have hne : p.request ≠ x := fun h => hx (h ▸ List.mem_map_of_mem hp)
      simpa using hne
    rcases List.mem_cons.mp hr with rfl | hr
    · simp [hkeep _ hq]
    · have hne : q.request ≠ r.request := fun h => hq (h ▸ List.mem_map_of_mem hr)
      rw [List.filter_cons_of_pos (by simpa using hne)]
      exact ((ih hn hr).cons q).trans (.swap r q _)

/-- A post takes at most one call from the open ones, the one that is handed back. -/
theorem openTickets_applied {t t' : Tracker κ} {o : Option (Resolved κ)} (h : Applied t o t')
    (hn : (t.openTickets.map Ticket.request).Nodup) :
    t.openTickets ~ o.toList.map Resolved.ticket ++ t'.openTickets := by
  rw [openTickets_eq] at *
  rw [openTickets_eq]
  cases h with
  | nothing _ hc hs hi =>
    rw [hc, hs]
    exact .refl _
  | pending k call o _ hk ho hc hs hi =>
    have hold := t.calls.tickets_perm k
    rw [hk] at hold
    rw [hc, hs]
    exact hold.append_right _
  | superseded r _ hr hc hs hi =>
    have hn' : (t.superseded.map Replaced.request).Nodup := by
      rw [List.map_append] at hn
      have h := (List.nodup_append.mp hn).2.1
      rwa [List.map_map] at h
    have hold := (perm_filter_request hn' hr).map Replaced.ticket
    rw [hc, hs]
    exact (hold.append_left _).trans List.perm_middle

theorem Applied.issued {t t' : Tracker κ} {o : Option (Resolved κ)} (h : Applied t o t') :
    t'.issued = t.issued := by
  cases h <;> assumption

theorem length_pendingTickets (t : Tracker κ) : t.pendingTickets.length = t.pendingCount := by
  obtain ⟨_, ⟨prepare, unprepare, start, stop⟩, _, _, _, _⟩ := t
  cases prepare <;> cases unprepare <;> cases start <;> cases stop <;> rfl

theorem length_openTickets (t : Tracker κ) : t.openTickets.length = t.openCount := by
  rw [openTickets, List.length_append, length_pendingTickets, supersededTickets, List.length_map]
  rfl

/-- Nothing is open once all calls were cancelled. -/
theorem openTickets_cancelAll (t : Tracker κ) : t.cancelAll.2.openTickets = [] := rfl

/-! ### The kind a post names -/

theorem pending?_resolve {t : Tracker κ} {k j : CallKind} (o : Outcome) (h : k ≠ j) :
    (t.resolve k o).2.pending? j = t.pending? j := by
  unfold resolve
  split
  · rfl
  · exact PerKind.get_set_of_ne _ h _

theorem pending?_onReply (t : Tracker κ) (r : Reply) {j : CallKind} (h : r.kind ≠ j) :
    (t.onReply r).2.pending? j = t.pending? j := by
  unfold onReply
  split
  · rfl
  split
  · rfl
  split
  · exact pending?_resolve _ h
  split
  · rfl
  dsimp only
  split
  · rw [pending?_resolve _ h]
    exact PerKind.get_set_of_ne _ h _
  · exact PerKind.get_set_of_ne _ h _

theorem pending?_onTimer (t : Tracker κ) {k j : CallKind} (r : RequestId) (h : k ≠ j) :
    (t.onTimer k r).2.pending? j = t.pending? j := by
  unfold onTimer
  split
  · rfl
  split
  · exact pending?_resolve _ h
  · exact PerKind.get_set_of_ne _ h _

theorem pending?_onIssueFailed (t : Tracker κ) {k j : CallKind} (r : RequestId) (h : k ≠ j) :
    (t.onIssueFailed k r).2.pending? j = t.pending? j := by
  unfold onIssueFailed
  split
  · rfl
  · exact pending?_resolve _ h

theorem pending?_takeSuperseded (t : Tracker κ) (r : RequestId) (j : CallKind) :
    (t.takeSuperseded r).2.pending? j = t.pending? j := by
  unfold takeSuperseded
  split <;> rfl

theorem pending?_register (t : Tracker κ) {k j : CallKind} (args : CallArgs) (c : κ) (h : k ≠ j) :
    (t.register k args c).2.pending? j = t.pending? j := by
  unfold register supersede
  dsimp only
  split
  · exact PerKind.get_set_of_ne _ h _
  · simp only [pending?, PerKind.set_set]
    exact PerKind.get_set_of_ne _ h _

end Tracker

/-! ### Books -/

/-- What may be done to a tracker. -/
inductive Use (κ : Type) where
  | register (kind : CallKind) (args : CallArgs) (completion : κ)
  /-- A post is applied, whether it came out of the mailbox or not. -/
  | post (p : Post)
  | cancelAll
  /-- Around the tracker the clock runs, alarms go off, posts come and are taken out. -/
  | mailbox (m : Mailbox)
  deriving DecidableEq, Repr

/-- The kind that a post is about, if it says so. -/
def Post.kind? : Post → Option CallKind
  | .reply r => some r.kind
  | .issueFailed k _ => some k
  | .timerFired k _ => some k
  | .superseded _ => none
  | .relay _ => none

/-- The kinds whose pending calls are at stake. -/
def Use.concerns : Use κ → CallKind → Bool
  | register k _ _, j => k == j
  | post p, j => p.kind? == some j
  | cancelAll, _ => true
  | mailbox _, _ => false

/-- A tracker, and what a bookkeeper has written down of it. -/
structure Audit (κ : Type) where
  tracker : Tracker κ
  registered : List (Ticket κ)
  returned : List (Resolved κ)
  dropped : List (Ticket κ)

namespace Audit

def empty (timeout retries : Nat) : Audit κ := ⟨.empty timeout retries, [], [], []⟩

/-- The calls that are open before all calls are cancelled, and are not open afterwards. -/
def cancelled (t : Tracker κ) : List (Ticket κ) :=
  t.openTickets.filter fun c => !(t.cancelAll.2.openTickets.map Ticket.request).contains c.request

def step (a : Audit κ) : Use κ → Audit κ
  | .register k args c =>
    { a with
      tracker := (a.tracker.register k args c).2
      registered := a.registered ++ [⟨k, (a.tracker.register k args c).1, c⟩] }
  | .post p =>
    { a with
      tracker := (a.tracker.apply p).2, returned := a.returned ++ (a.tracker.apply p).1.toList }
  | .cancelAll =>
    { a with tracker := a.tracker.cancelAll.2, dropped := a.dropped ++ cancelled a.tracker }
  | .mailbox m => { a with tracker := { a.tracker with mailbox := m } }

def run (a : Audit κ) (us : List (Use κ)) : Audit κ := us.foldl step a

/-- The four places of a call. -/
def accounted (a : Audit κ) : List (Ticket κ) :=
  a.tracker.pendingTickets ++ a.tracker.supersededTickets ++ a.returned.map Resolved.ticket ++
    a.dropped

/-- The books are right: every registered call is in one place, and numbers only grow. -/
structure Conserves (a : Audit κ) : Prop where
  accounted : a.registered ~ a.accounted
  increasing : (a.registered.map fun c => c.request.number).Pairwise (· < ·)
  issued : ∀ c ∈ a.registered, c.request.number ≤ a.tracker.issued

theorem accounted_eq (a : Audit κ) :
    a.accounted = a.tracker.openTickets ++ (a.returned.map Resolved.ticket ++ a.dropped) := by
  simp only [accounted, Tracker.openTickets, List.append_assoc]

theorem cancelled_eq (t : Tracker κ) : cancelled t = t.openTickets := by
  rw [cancelled, Tracker.openTickets_cancelAll]
  exact List.filter_eq_self.mpr fun _ _ => rfl

namespace Conserves

variable {a : Audit κ}

/-- No two registered calls have the same number. -/
theorem nodup_registered (h : a.Conserves) : (a.registered.map Ticket.request).Nodup := by
  have hlt := List.pairwise_map.mp h.increasing
  exact List.pairwise_map.mpr (hlt.imp fun hlt he => Nat.ne_of_lt hlt (congrArg RequestId.number he))

/-- No call is in two places. -/
theorem nodup_accounted (h : a.Conserves) : (a.accounted.map Ticket.request).Nodup :=
  (h.accounted.map Ticket.request).nodup_iff.mp h.nodup_registered

theorem nodup_open (h : a.Conserves) : (a.tracker.openTickets.map Ticket.request).Nodup := by
  have hn := h.nodup_accounted
  rw [accounted_eq, List.map_append] at hn
  exact (List.nodup_append.mp hn).1

/-- A ticket stays one of those of its number. -/
theorem eq_of_request (h : a.Conserves) {c d : Ticket κ} (hc : c ∈ a.registered)
    (hd : d ∈ a.registered) (he : c.request = d.request) : c = d := by
  obtain ⟨i, hi, rfl⟩ := List.getElem_of_mem hc
  obtain ⟨j, hj, rfl⟩ := List.getElem_of_mem hd
  have hlt := List.pairwise_iff_getElem.mp (List.pairwise_map.mp h.increasing)
  have hnum := congrArg RequestId.number he
  rcases Nat.lt_trichotomy i j with hij | rfl | hij
  · have := hlt i j hi hj hij
    omega
  · rfl
  · have := hlt j i hj hi hij
    omega

end Conserves

theorem conserves_register {a : Audit κ} (h : a.Conserves) (k : CallKind) (args : CallArgs) (c : κ) :
    (a.step (.register k args c)).Conserves := by
  have hopen := a.tracker.openTickets_register k args c
  have hacc := h.accounted
  rw [accounted_eq] at hacc
  refine ⟨?_, ?_, fun d hd => ?_⟩
  · rw [accounted_eq]
    calc a.registered ++ [⟨k, (a.tracker.register k args c).1, c⟩]
        ~ ⟨k, (a.tracker.register k args c).1, c⟩ :: a.registered := List.perm_append_singleton _ _
      _ ~ ⟨k, (a.tracker.register k args c).1, c⟩ ::
            (a.tracker.openTickets ++ (a.returned.map Resolved.ticket ++ a.dropped)) := hacc.cons _
      _ ~ _ := (hopen.append_right _).symm
  · simp only [step, List.map_append, List.map_cons, List.map_nil, List.pairwise_append]
    refine ⟨h.increasing, List.pairwise_singleton _ _, fun m hm n hn => ?_⟩
    obtain ⟨d, hd, rfl⟩ := List.mem_map.mp hm
    obtain rfl := List.mem_singleton.mp hn
    exact Nat.lt_succ_of_le (h.issued d hd)
  · have hissued : (a.step (.register k args c)).tracker.issued = a.tracker.issued + 1 :=
      a.tracker.issued_register k args c
    rw [hissued]
    rcases List.mem_append.mp hd with hd | hd
    · exact Nat.le_succ_of_le (h.issued d hd)
    · obtain rfl := List.mem_singleton.mp hd
      exact Nat.le_refl _

theorem conserves_post {a : Audit κ} (h : a.Conserves) (p : Post) :
    (a.step (.post p)).Conserves := by
  have happ := a.tracker.applied p
  have hopen := Tracker.openTickets_applied happ h.nodup_open
  have hacc := h.accounted
  rw [accounted_eq] at hacc
  refine ⟨?_, h.increasing, fun d hd => ?_⟩
  · rw [accounted_eq]
    simp only [step, List.map_append]
    generalize (a.tracker.apply p).1.toList.map Resolved.ticket = ended at *
    generalize (a.tracker.apply p).2.openTickets = still at *
    calc a.registered
        ~ ended ++ still ++ (a.returned.map Resolved.ticket ++ a.dropped) :=
          hacc.trans (hopen.append_right _)
      _ ~ still ++ (ended ++ (a.returned.map Resolved.ticket ++ a.dropped)) := by
          rw [← List.append_assoc still]
          exact List.perm_append_comm.append_right _
      _ ~ still ++ (a.returned.map Resolved.ticket ++ ended ++ a.dropped) := by
          rw [← List.append_assoc ended]
          exact (List.perm_append_comm.append_right _).append_left _
  · show _ ≤ (a.tracker.apply p).2.issued
    rw [happ.issued]
    exact h.issued d hd

theorem conserves_cancelAll {a : Audit κ} (h : a.Conserves) : (a.step .cancelAll).Conserves := by
  refine ⟨?_, h.increasing, h.issued⟩
  have hacc := h.accounted
  rw [accounted_eq] at hacc
  rw [accounted_eq]
  simp only [step, cancelled_eq, Tracker.openTickets_cancelAll, List.nil_append]
  rw [← List.append_assoc]
  exact hacc.trans List.perm_append_comm

/-- Whatever is done to a tracker, the books stay right. -/
theorem conserves_step {a : Audit κ} (h : a.Conserves) (u : Use κ) : (a.step u).Conserves := by
  cases u with
  | register k args c => exact conserves_register h k args c
  | post p => exact conserves_post h p
  | cancelAll => exact conserves_cancelAll h
  | mailbox m => exact ⟨h.accounted, h.increasing, h.issued⟩

theorem conserves_run {a : Audit κ} (h : a.Conserves) (us : List (Use κ)) : (a.run us).Conserves := by
  induction us generalizing a with
  | nil => exact h
  | cons u us ih => exact ih (conserves_step h u)

theorem conserves_empty (timeout retries : Nat) : (empty timeout retries : Audit κ).Conserves :=
  ⟨.refl _, .nil, fun _ hc => by cases hc⟩

/-- What was dropped is never taken out of the books. -/
theorem dropped_run (a : Audit κ) (us : List (Use κ)) : a.dropped ⊆ (a.run us).dropped := by
  induction us generalizing a with
  | nil => exact fun _ h => h
  | cons u us ih =>
    intro d hd
    refine ih (a.step u) ?_
    cases u with
    | cancelAll => exact List.mem_append_left _ hd
    | _ => exact hd

/-- A kind that is not concerned keeps its pending call as it is. -/
theorem pending?_step (a : Audit κ) (u : Use κ) {j : CallKind} (h : u.concerns j = false) :
    (a.step u).tracker.pending? j = a.tracker.pending? j := by
  cases u with
  | register k args c => exact Tracker.pending?_register _ args c (by simpa [Use.concerns] using h)
  | cancelAll => cases h
  | mailbox m => rfl
  | post p =>
    cases p with
    | reply r => exact Tracker.pending?_onReply _ r (by simpa [Use.concerns, Post.kind?] using h)
    | timerFired k r => exact Tracker.pending?_onTimer _ r (by simpa [Use.concerns, Post.kind?] using h)
    | issueFailed k r =>
      exact Tracker.pending?_onIssueFailed _ r (by simpa [Use.concerns, Post.kind?] using h)
    | superseded r => exact Tracker.pending?_takeSuperseded _ r j
    | relay e => rfl

/-- **Every call that is registered ends once.** After any uses of a tracker, with any arguments,
the registered calls are those that are pending, superseded, handed back and dropped, each in one of
these places; their numbers grow strictly; what is handed back has the kind and the completion
that were registered under its number. The next use leaves alone the pending calls of all kinds it
does not concern; cancelling drops all open calls and says how many; and a dropped call is
never handed back, whatever is done later. -/
theorem every_call_ends_once (timeout retries : Nat) (us : List (Use κ)) :
    let a := (empty timeout retries : Audit κ).run us
    a.registered ~ a.tracker.pendingTickets ++ a.tracker.supersededTickets ++
      a.returned.map Resolved.ticket ++ a.dropped ∧
    ((a.tracker.pendingTickets ++ a.tracker.supersededTickets ++ a.returned.map Resolved.ticket ++
      a.dropped).map Ticket.request).Nodup ∧
    (a.registered.map fun c => c.request.number).Pairwise (· < ·) ∧
    (∀ r ∈ a.returned, r.ticket ∈ a.registered ∧
      ∀ c ∈ a.registered, c.request = r.request → c.kind = r.kind ∧ c.completion = r.completion) ∧
    (∀ u j, u.concerns j = false → (a.step u).tracker.pending? j = a.tracker.pending? j) ∧
    (a.step .cancelAll).dropped = a.dropped ++ a.tracker.openTickets ∧
    a.tracker.cancelAll.1 = a.tracker.openTickets.length ∧
    (a.step .cancelAll).tracker.openTickets = [] ∧
    ∀ later, ∀ d ∈ a.dropped, ∀ r ∈ (a.run later).returned, r.request ≠ d.request := by
  intro a
  have h : a.Conserves := conserves_run (conserves_empty timeout retries) us
  have hreturned {a : Audit κ} (h : a.Conserves) {r : Resolved κ} (hr : r ∈ a.returned) :
      r.ticket ∈ a.registered := by
    refine h.accounted.mem_iff.mpr ?_
    rw [accounted_eq]
    exact List.mem_append_right _ (List.mem_append_left _ (List.mem_map_of_mem hr))
  refine ⟨h.accounted, h.nodup_accounted, h.increasing, fun r hr => ⟨hreturned h hr, fun c hc he => ?_⟩,
    fun u j hj => pending?_step a u hj, ?_, (Tracker.length_openTickets _).symm, rfl,
    fun later d hd r hr he => ?_⟩
  · have heq := h.eq_of_request hc (hreturned h hr) he
    rw [heq]
    exact ⟨rfl, rfl⟩
  · simp only [step, cancelled_eq]
  · have hn := (conserves_run h later).nodup_accounted
    rw [accounted_eq, List.map_append, List.map_append] at hn
    have hdisj := (List.nodup_append.mp (List.nodup_append.mp hn).2.1).2.2
    refine hdisj r.request ?_ d.request (List.mem_map_of_mem (dropped_run a later hd)) he
    exact List.mem_map_of_mem (List.mem_map_of_mem hr)

end Audit

end PointerShare
