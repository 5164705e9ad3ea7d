/-
# What an outbox tells, and when

The worker of an outbox makes one call after the other. When and how each of
them ends is settled by the times at which the dispatches were sent and by how
the calls go: a call begins when its dispatch has been sent and the call before
it is over, and it takes as long as it needs, but never longer than the budget
(`Outbox.timetable`). At any moment of a run the calls that are over are a front
part of that timetable, the next one is under way, and the dispatches of the
others are queued. So a call that hangs or fails costs those behind it time, and
nothing else.

Key definitions: `Treatment.duration`, `Outbox.Call`, `Outbox.timetable`,
`Outbox.Moment`.
Key theorems: `Outbox.workThrough_parts`, `Outbox.underway_step`,
`Outbox.told_by_timetable`.
-/
import PointerShare.Outbox
import Mathlib.Algebra.Ring.Nat
import Mathlib.Data.List.TakeWhile
import Mathlib.Tactic.Common

namespace PointerShare

/-! ### One call -/

namespace Treatment

/-- How long a call takes that is given up when its budget is spent. -/
def duration (budget : Nat) (t : Treatment) : Nat :=
  match t.latency with
  | .after ms => min ms budget
  | .never => budget

/-- The call comes through before it is given up, or just then. -/
def isInTime (budget : Nat) (t : Treatment) : Bool :=
  match t.latency with
  | .after ms => ms ≤ budget
  | .never => false

/-- The call comes through, and the peer is there. -/
def arrives (budget : Nat) (t : Treatment) : Bool := t.isInTime budget && t.reachable

end Treatment

namespace Peers

/-- How the next calls go, if they carry these dispatches. -/
def treatments : Peers → List Dispatch → List Treatment
  | _, [] => []
  | p, d :: ds => p.treatment d :: p.skip.treatments ds

/-- The peers after a call. -/
def after (budget : Nat) (p : Peers) (d : Dispatch) : Peers :=
  if (p.treatment d).isInTime budget then p.tell d else p.skip

/-- The peers after these calls. -/
def afterAll (budget : Nat) (p : Peers) (ds : List Dispatch) : Peers := ds.foldl (after budget) p

theorem length_treatments (ds : List Dispatch) :
    ∀ p : Peers, (p.treatments ds).length = ds.length := by
  induction ds with
  | nil => exact fun _ => rfl
  | cons d ds ih => exact fun p => congrArg (· + 1) (ih p.skip)

/-- How calls go does not depend on what came through. -/
theorem treatments_received (r : List Dispatch) (ds : List Dispatch) :
    ∀ p : Peers, { p with received := r }.treatments ds = p.treatments ds := by
  induction ds with
  | nil => exact fun _ => rfl
  | cons d ds ih => exact fun p => congrArg _ (ih p.skip)

theorem treatments_after (budget : Nat) (p : Peers) (d : Dispatch) (ds : List Dispatch) :
    (p.after budget d).treatments ds = p.skip.treatments ds := by
  unfold after tell
  split
  · split
    · exact treatments_received _ ds p.skip
    · rfl
  · rfl

theorem treatments_append (budget : Nat) (xs ys : List Dispatch) : ∀ p : Peers,
    p.treatments (xs ++ ys) = p.treatments xs ++ (p.afterAll budget xs).treatments ys := by
  induction xs with
  | nil => exact fun _ => rfl
  | cons x xs ih =>
    intro p
    have hrest : (p.after budget x).treatments (xs ++ ys) = p.skip.treatments (xs ++ ys) :=
      treatments_after budget p x _
    rw [ih, treatments_after] at hrest
    exact congrArg _ hrest.symm

/-- A script says how the calls go, as far as it reaches. -/
theorem treatments_of_script (ds : List Dispatch) : ∀ p : Peers, ds.length ≤ p.script.length →
    p.treatments ds = p.script.take ds.length := by
  induction ds with
  | nil => exact fun _ _ => rfl
  | cons d ds ih =>
    intro p hp
    obtain ⟨t, ts, hts⟩ := List.exists_cons_of_length_pos (Nat.lt_of_lt_of_le (Nat.succ_pos _) hp)
    have hskip : p.skip.script = ts := by simp [skip, hts]
    have hfirst : p.treatment d = t := by simp [treatment, hts]
    have hrest : ds.length ≤ p.skip.script.length := by
      rw [hskip]
      rw [hts] at hp
      exact Nat.le_of_succ_le_succ hp
    rw [treatments, ih p.skip hrest, hskip, hfirst, hts]
    rfl

theorem received_after (budget : Nat) (p : Peers) (d : Dispatch) :
    (p.after budget d).received =
      p.received ++ if (p.treatment d).arrives budget then [d] else [] := by
  unfold after tell Treatment.arrives
  cases (p.treatment d).isInTime budget <;> cases hr : (p.treatment d).reachable <;>
    simp [skip]

end Peers

namespace Outbox

/-! ### The timetable -/

/-- A call of a worker. -/
structure Call where
  dispatch : Dispatch
  treatment : Treatment
  begins : Nat
  ends : Nat
  deriving DecidableEq, Repr

/-- The calls of a worker that is free from some time on, for dispatches with the times at which
they were sent. -/
def timetable (budget : Nat) : Nat → List (Nat × Dispatch) → List Treatment → List Call
  | free, (time, d) :: sent, t :: ts =>
    ⟨d, t, max free time, max free time + t.duration budget⟩ ::
      timetable budget (max free time + t.duration budget) sent ts
  | _, _, _ => []

/-- These dispatches, all sent at one time. -/
def sentAt (time : Nat) (ds : List Dispatch) : List (Nat × Dispatch) := ds.map fun d => (time, d)

theorem dispatch_sentAt (time : Nat) (ds : List Dispatch) : (sentAt time ds).map (·.2) = ds := by
  simp [sentAt, Function.comp_def]

theorem length_sentAt (time : Nat) (ds : List Dispatch) : (sentAt time ds).length = ds.length :=
  List.length_map _

theorem time_sentAt {time : Nat} {ds : List Dispatch} : ∀ x ∈ sentAt time ds, x.1 = time := by
  simp [sentAt]

/-- The calls of a worker that is free from `free` on, with the peers as they are then. -/
def callsFor (budget : Nat) (p : Peers) (free : Nat) (sent : List (Nat × Dispatch)) : List Call :=
  timetable budget free sent (p.treatments (sent.map (·.2)))

/-- When a worker that was free at `free` has made these calls. -/
def freeAfter (free : Nat) (calls : List Call) : Nat := calls.foldl (fun _ c => c.ends) free

section timetable

variable {budget : Nat}

theorem dispatch_timetable (sent : List (Nat × Dispatch)) : ∀ (free : Nat) (ts : List Treatment),
    ts.length = sent.length → (timetable budget free sent ts).map (·.dispatch) = sent.map (·.2) := by
  induction sent with
  | nil => exact fun _ _ _ => by simp [timetable]
  | cons x sent ih =>
    rintro free (_ | ⟨t, ts⟩) h
    · cases h
    · exact congrArg _ (ih _ ts (Nat.succ.inj h))

theorem treatment_timetable (sent : List (Nat × Dispatch)) : ∀ (free : Nat) (ts : List Treatment),
    ts.length = sent.length → (timetable budget free sent ts).map (·.treatment) = ts := by
  induction sent with
  | nil =>
    intro free ts h
    rw [List.length_eq_zero_iff.mp h]
    rfl
  | cons x sent ih =>
    rintro free (_ | ⟨t, ts⟩) h
    · cases h
    · exact congrArg _ (ih _ ts (Nat.succ.inj h))

theorem timetable_append {xs : List (Nat × Dispatch)} (ys : List (Nat × Dispatch)) :
    ∀ (free : Nat) {ts : List Treatment} (us : List Treatment), ts.length = xs.length →
      timetable budget free (xs ++ ys) (ts ++ us) = timetable budget free xs ts ++
        timetable budget (freeAfter free (timetable budget free xs ts)) ys us := by
  induction xs with
  | nil =>
    intro free ts us h
    rw [List.length_eq_zero_iff.mp h]
    rfl
  | cons x xs ih =>
    rintro free (_ | ⟨t, ts⟩) us h
    · cases h
    · exact congrArg _ (ih _ us (Nat.succ.inj h))

theorem freeAfter_append (free : Nat) (calls calls' : List Call) :
    freeAfter free (calls ++ calls') = freeAfter (freeAfter free calls) calls' :=
  List.foldl_append

/-- No call of a timetable begins before the worker is free, and none ends after it is free again. -/
theorem timetable_bounds (sent : List (Nat × Dispatch)) : ∀ (free : Nat) (ts : List Treatment),
    free ≤ freeAfter free (timetable budget free sent ts) ∧
      ∀ c ∈ timetable budget free sent ts, free ≤ c.begins ∧ c.begins ≤ c.ends ∧
        c.ends ≤ freeAfter free (timetable budget free sent ts) := by
  induction sent with
  | nil => exact fun free _ => ⟨Nat.le_refl free, fun c hc => by simp [timetable] at hc⟩
  | cons x sent ih =>
    rintro free (_ | ⟨t, ts⟩)
    · exact ⟨Nat.le_refl free, fun c hc => by simp [timetable] at hc⟩
    · obtain ⟨hfree, hcalls⟩ := ih (max free x.1 + t.duration budget) ts
      have hbegin : free ≤ max free x.1 := Nat.le_max_left _ _
      have hend := Nat.le_add_right (max free x.1) (t.duration budget)
      refine ⟨(hbegin.trans hend).trans hfree, fun c hc => ?_⟩
      rcases List.mem_cons.mp hc with rfl | hc
      · exact ⟨hbegin, hend, hfree⟩
      · obtain ⟨h₁, h₂, h₃⟩ := hcalls c hc
        exact ⟨(hbegin.trans hend).trans h₁, h₂, h₃⟩

/-- The calls of a timetable are made one after the other. -/
theorem timetable_pairwise (sent : List (Nat × Dispatch)) : ∀ (free : Nat) (ts : List Treatment),
    (timetable budget free sent ts).Pairwise fun c c' => c.ends ≤ c'.begins := by
  induction sent with
  | nil => exact fun _ _ => by simp [timetable]
  | cons x sent ih =>
    rintro free (_ | ⟨t, ts⟩)
    · exact .nil
    · refine .cons (fun c hc => ?_) (ih _ ts)
      exact ((timetable_bounds sent _ ts).2 c hc).1

/-- For dispatches that were all sent by the time the worker was free, the calls follow each other
without a gap. -/
theorem ends_timetable (sent : List (Nat × Dispatch)) : ∀ (free : Nat) (ts : List Treatment),
    ts.length = sent.length → (∀ x ∈ sent, x.1 ≤ free) → ∀ i < sent.length,
      ((timetable budget free sent ts)[i]?).map (·.ends) =
        some (free + ((ts.take (i + 1)).map (·.duration budget)).sum) := by
  induction sent with
  | nil => exact fun _ _ _ _ i hi => absurd hi (Nat.not_lt_zero i)
  | cons x sent ih =>
    rintro free (_ | ⟨t, ts⟩) h hsent i hi
    · cases h
    · have hbegin : max free x.1 = free := Nat.max_eq_left (hsent x List.mem_cons_self)
      cases i with
      | zero => simp [timetable, hbegin]
      | succ i =>
        have hsent' : ∀ y ∈ sent, y.1 ≤ free + t.duration budget := fun y hy =>
          (hsent y (List.mem_cons_of_mem _ hy)).trans (Nat.le_add_right _ _)
        have hi' := ih (free + t.duration budget) ts (Nat.succ.inj h) hsent' i
          (Nat.lt_of_succ_lt_succ hi)
        simp only [timetable, hbegin, List.getElem?_cons_succ, List.take_succ_cons, List.map_cons,
          List.sum_cons, ← Nat.add_assoc]
        exact hi'

/-- So a worker is free again when it has spent on each of them what its call takes. -/
theorem freeAfter_timetable (sent : List (Nat × Dispatch)) : ∀ (free : Nat) (ts : List Treatment),
    ts.length = sent.length → (∀ x ∈ sent, x.1 ≤ free) →
      freeAfter free (timetable budget free sent ts) = free + (ts.map (·.duration budget)).sum := by
  induction sent with
  | nil =>
    intro free ts h _
    rw [List.length_eq_zero_iff.mp h]
    rfl
  | cons x sent ih =>
    rintro free (_ | ⟨t, ts⟩) h hsent
    · cases h
    · have hbegin : max free x.1 = free := Nat.max_eq_left (hsent x List.mem_cons_self)
      have hsent' : ∀ y ∈ sent, y.1 ≤ free + t.duration budget := fun y hy =>
        (hsent y (List.mem_cons_of_mem _ hy)).trans (Nat.le_add_right _ _)
      have hrest := ih (free + t.duration budget) ts (Nat.succ.inj h) hsent'
      rw [List.map_cons, List.sum_cons, ← Nat.add_assoc, ← hrest]
      simp [timetable, freeAfter, hbegin]

theorem callsFor_append (p : Peers) (free : Nat) (xs ys : List (Nat × Dispatch)) :
    callsFor budget p free (xs ++ ys) = callsFor budget p free xs ++
      callsFor budget (p.afterAll budget (xs.map (·.2))) (freeAfter free (callsFor budget p free xs))
        ys := by
  unfold callsFor
  rw [List.map_append, Peers.treatments_append budget]
  refine timetable_append ys free _ ?_
  rw [Peers.length_treatments, List.length_map]

/-- What comes through is what the timetable says. -/
theorem received_afterAll (sent : List (Nat × Dispatch)) : ∀ (free : Nat) (p : Peers),
    (p.afterAll budget (sent.map (·.2))).received = p.received ++
      ((callsFor budget p free sent).filter (·.treatment.arrives budget)).map (·.dispatch) := by
  induction sent with
  | nil => exact fun _ _ => by simp [callsFor, timetable, Peers.afterAll]
  | cons x sent ih =>
    intro free p
    have hrest := ih (max free x.1 + (p.treatment x.2).duration budget) (p.after budget x.2)
    rw [callsFor, Peers.treatments_after, Peers.received_after, List.append_assoc] at hrest
    refine hrest.trans (congrArg (p.received ++ ·) ?_)
    simp only [callsFor, List.map_cons, Peers.treatments, timetable, List.filter_cons]
    split <;> rfl

end timetable

/-! ### The worker -/

theorem begin_eq (o : Outbox) (now : Nat) (d : Dispatch) : o.begin now d =
    ⟨o.nextSerial, d, now + (o.peers.treatment d).duration o.budget,
      (o.peers.treatment d).isInTime o.budget⟩ := by
  unfold begin Treatment.duration Treatment.isInTime
  cases (o.peers.treatment d).latency with
  | never => rfl
  | after ms =>
    by_cases h : ms ≤ o.budget
    · simp [h]
    · simp [h, Nat.min_eq_right (Nat.le_of_lt (Nat.lt_of_not_le h))]

/-- What a worker does not change. -/
def kept (o : Outbox) : Nat × Worker × Bool := (o.budget, o.worker, o.hasSender)

/-- A worker that was free at `free` has yet to make the calls for `todo`, or is making the first of
them. -/
inductive Owes (o : Outbox) (free : Nat) : List (Nat × Dispatch) → Prop
  | idle {todo : List (Nat × Dispatch)} (hc : o.current = none) (hq : o.queue = todo.map (·.2)) :
      Owes o free todo
  | busy {time : Nat} {d : Dispatch} {rest : List (Nat × Dispatch)} (serial : Nat)
      (hc : o.current = some ⟨serial, d, max free time + (o.peers.treatment d).duration o.budget,
        (o.peers.treatment d).isInTime o.budget⟩)
      (hq : o.queue = rest.map (·.2)) : Owes o free ((time, d) :: rest)

theorem Owes.dropSender {o : Outbox} {free : Nat} {todo : List (Nat × Dispatch)} (h : o.Owes free todo) :
    o.dropSender.Owes free todo := by
  cases h with
  | idle hc hq => exact .idle hc hq
  | busy serial hc hq => exact .busy serial hc hq

/-- Of the dispatches `sent`, those in `told` are settled and those in `todo` are not, after a worker
that was free at `free` and had `o` before it has worked as far as calls end by `limit`. -/
structure Parts (o : Outbox) (limit : Option Nat) (free : Nat) (sent told todo : List (Nat × Dispatch))
    (o' : Outbox) : Prop where
  sent : sent = told ++ todo
  kept : o'.kept = o.kept
  peers : o'.peers = o.peers.afterAll o.budget (told.map (·.2))
  owes : o'.Owes (freeAfter free (callsFor o.budget o.peers free told)) todo
  ended : limit.all (freeAfter free (callsFor o.budget o.peers free told) ≤ ·)
  idle : o'.current = none → todo = []
  busy : ∀ c, o'.current = some c → limit.all (c.ends ≤ ·) = false

/-- A call ends, and the worker goes on. -/
theorem Parts.cons {o o₁ o' : Outbox} {limit : Option Nat} {free time : Nat} {d : Dispatch}
    {sent told todo : List (Nat × Dispatch)}
    (h : o₁.Parts limit (max free time + (o.peers.treatment d).duration o.budget) sent told todo o')
    (hkept : o₁.kept = o.kept) (hpeers : o₁.peers = o.peers.after o.budget d) :
    o.Parts limit free ((time, d) :: sent) ((time, d) :: told) todo o' := by
  have hbudget : o₁.budget = o.budget := congrArg (·.1) hkept
  obtain ⟨hsent, hkept', hpeers', howes, hover, hidle, hbusy⟩ := h
  rw [hbudget, callsFor, hpeers, Peers.treatments_after] at howes hover
  refine ⟨by rw [hsent]; rfl, hkept'.trans hkept, ?_, howes, hover, hidle, hbusy⟩
  rw [hpeers', hbudget, hpeers]
  rfl

/-- A worker takes what is queued in order, and stops at the first call that does not end by
`limit`. -/
theorem workThrough_parts (limit : Option Nat) (sent : List (Nat × Dispatch)) :
    ∀ (free start : Nat) (o : Outbox), o.current = none → limit.all (free ≤ ·) →
      (∀ x ∈ sent.head?, max free x.1 = start) → (∀ x ∈ sent, x.1 ≤ start) →
      ∃ told todo, o.Parts limit free sent told todo (workThrough limit start (sent.map (·.2)) o).2 ∧
        (workThrough limit start (sent.map (·.2)) o).1 =
          freeAfter start (callsFor o.budget o.peers free told) := by
  induction sent with
  | nil =>
    exact fun free start o hc hl _ _ =>
      ⟨[], [], ⟨rfl, rfl, rfl, .idle hc rfl, hl, fun _ => rfl, fun c h => by cases hc.symm.trans h⟩, rfl⟩
  | cons x sent ih =>
    obtain ⟨time, d⟩ := x
    intro free start o hc hl hhead htimes
    have hstart : start = max free time := (hhead _ rfl).symm
    have hbegin : o.begin start d = ⟨o.nextSerial, d,
        max free time + (o.peers.treatment d).duration o.budget,
        (o.peers.treatment d).isInTime o.budget⟩ := by rw [begin_eq, hstart]
    simp only [List.map_cons, workThrough, hbegin]
    by_cases hends : limit.all (max free time + (o.peers.treatment d).duration o.budget ≤ ·) = true
    · -- the call is over by the limit
      rw [if_pos hends]
      have htimes' : ∀ y ∈ sent, y.1 ≤ max free time + (o.peers.treatment d).duration o.budget :=
        fun y hy => (htimes y (List.mem_cons_of_mem _ hy)).trans (hstart ▸ Nat.le_add_right _ _)
      obtain ⟨told, todo, hparts, htime⟩ := ih _ _
        ({ o with nextSerial := o.nextSerial + 1 }.finish ⟨o.nextSerial, d,
          max free time + (o.peers.treatment d).duration o.budget,
          (o.peers.treatment d).isInTime o.budget⟩) rfl hends
        (fun y hy => Nat.max_eq_left (htimes' y (List.mem_of_mem_head? hy))) htimes'
      refine ⟨(time, d) :: told, todo, Parts.cons hparts rfl rfl, htime.trans ?_⟩
      have htreatments := Peers.treatments_after o.budget o.peers d (told.map (·.2))
      exact congrArg (fun ts => freeAfter _ (timetable o.budget _ told ts)) htreatments
    · rw [if_neg hends]
      refine ⟨[], (time, d) :: sent, ⟨rfl, rfl, rfl, .busy _ rfl rfl, hl, nofun, fun c h => ?_⟩, rfl⟩
      rw [← Option.some.inj h]
      exact Bool.eq_false_iff.mpr hends

/-- A worker goes on with the call under way. -/
theorem work_parts {o : Outbox} {limit : Option Nat} {free now : Nat} {sent : List (Nat × Dispatch)}
    (h : o.Owes free sent) (hl : limit.all (free ≤ ·)) (hfree : free ≤ now)
    (htimes : ∀ x ∈ sent, x.1 ≤ now) (hidle : o.current = none → ∀ x ∈ sent, x.1 = now)
    (hbusy : ∀ c, o.current = some c → now < c.ends) :
    ∃ told todo, o.Parts limit free sent told todo (o.work limit now).2 := by
  unfold work
  cases h with
  | idle hc hq =>
    have hhead : ∀ x ∈ sent.head?, max free x.1 = now := fun x hx => by
      rw [hidle hc x (List.mem_of_mem_head? hx), Nat.max_eq_right hfree]
    obtain ⟨told, todo, hparts, -⟩ := workThrough_parts limit sent free now o hc hl hhead htimes
    rw [hc]
    exact ⟨told, todo, hq ▸ hparts⟩
  | @busy time d rest serial hc hq =>
    have hnow := hbusy _ hc
    rw [hc]
    dsimp only at hnow ⊢
    by_cases hends : limit.all (max free time + (o.peers.treatment d).duration o.budget ≤ ·) = true
    · have htimes' : ∀ y ∈ rest, y.1 ≤ max free time + (o.peers.treatment d).duration o.budget :=
        fun y hy => (htimes y (List.mem_cons_of_mem _ hy)).trans (Nat.le_of_lt hnow)
      obtain ⟨told, todo, hparts, -⟩ := workThrough_parts limit rest _ _ (o.finish ⟨serial, d,
          max free time + (o.peers.treatment d).duration o.budget,
          (o.peers.treatment d).isInTime o.budget⟩) rfl hends
        (fun y hy => Nat.max_eq_left (htimes' y (List.mem_of_mem_head? hy))) htimes'
      rw [if_pos hends, Nat.max_eq_right (Nat.le_of_lt hnow), hq]
      exact ⟨(time, d) :: told, todo, Parts.cons hparts rfl rfl⟩
    · rw [if_neg hends]
      refine ⟨[], (time, d) :: rest, rfl, rfl, rfl, .busy serial hc hq, hl, fun h => ?_, fun c h => ?_⟩
      · rw [hc] at h
        cases h
      · rw [hc] at h
        rw [← Option.some.inj h]
        exact Bool.eq_false_iff.mpr hends

/-! ### A run -/

/-- What happens while a worker runs by itself. -/
inductive Act where
  | send (d : Dispatch)
  /-- The clock runs for `ms`. -/
  | pass (ms : Nat)
  /-- The last sending half is dropped. -/
  | dropSender
  deriving DecidableEq, Repr

/-- An outbox at a time. -/
structure Moment where
  now : Nat
  outbox : Outbox
  deriving DecidableEq, Repr

namespace Moment

/-- Without a sending half nobody sends. -/
def step (m : Moment) : Act → Moment
  | .send d => if m.outbox.hasSender then { m with outbox := m.outbox.send d } else m
  | .pass ms => ⟨m.now + ms, m.outbox.workUntil m.now (m.now + ms)⟩
  | .dropSender => { m with outbox := m.outbox.dropSender }

def run (m : Moment) (acts : List Act) : Moment := acts.foldl step m

theorem run_cons (m : Moment) (a : Act) (acts : List Act) : m.run (a :: acts) = (m.step a).run acts :=
  rfl

/-- What is sent, and when. -/
def sends (m : Moment) : Act → List (Nat × Dispatch)
  | .send d => if m.outbox.hasSender then [(m.now, d)] else []
  | _ => []

/-- All that is sent in a run. -/
def sent : Moment → List Act → List (Nat × Dispatch)
  | _, [] => []
  | m, a :: acts => m.sends a ++ (m.step a).sent acts

/-- A worker that was started at `start`, with the peers as they were then, has made the calls for
`told` and has yet to make those for `todo`. -/
structure Underway (m : Moment) (p : Peers) (start : Nat) (told todo : List (Nat × Dispatch)) :
    Prop where
  worker : m.outbox.worker = .running
  peers : m.outbox.peers = p.afterAll m.outbox.budget (told.map (·.2))
  owes : m.outbox.Owes (freeAfter start (callsFor m.outbox.budget p start told)) todo
  ended : freeAfter start (callsFor m.outbox.budget p start told) ≤ m.now
  times : ∀ x ∈ todo, x.1 ≤ m.now
  idle : m.outbox.current = none → ∀ x ∈ todo, x.1 = m.now
  busy : ∀ c, m.outbox.current = some c → m.now < c.ends

variable {m : Moment} {p : Peers} {start : Nat} {told todo : List (Nat × Dispatch)}

/-- A dispatch that is sent is the last to be told. -/
theorem Underway.send (h : m.Underway p start told todo) (d : Dispatch) :
    { m with outbox := m.outbox.send d }.Underway p start told (todo ++ [(m.now, d)]) := by
  obtain ⟨hworker, hpeers, howes, hover, htimes, hidle, hbusy⟩ := h
  have hsend : m.outbox.send d = { m.outbox with queue := m.outbox.queue ++ [d] } := by
    unfold Outbox.send
    rw [if_neg (by rw [hworker]; decide)]
  rw [hsend]
  refine ⟨hworker, hpeers, ?_, hover, fun x hx => ?_, fun hc x hx => ?_, hbusy⟩
  · cases howes with
    | idle hc hq => exact .idle hc (by simp [hq])
    | busy serial hc hq => exact .busy serial hc (by simp [hq])
  · rcases List.mem_append.mp hx with hx | hx
    · exact htimes x hx
    · rw [List.mem_singleton.mp hx]
  · rcases List.mem_append.mp hx with hx | hx
    · exact hidle hc x hx
    · rw [List.mem_singleton.mp hx]

/-- As the clock runs, the calls that end are made, in order; a worker that is idle then has nothing
left to do. -/
theorem Underway.pass (h : m.Underway p start told todo) (ms : Nat) :
    ∃ told' todo', todo = told' ++ todo' ∧
      (m.step (.pass ms)).Underway p start (told ++ told') todo' ∧
      ((m.step (.pass ms)).outbox.current = none → todo' = []) ∧
      (m.step (.pass ms)).outbox.kept = m.outbox.kept := by
  obtain ⟨hworker, hpeers, howes, hover, htimes, hidle, hbusy⟩ := h
  have hlimit : (some (m.now + ms)).all
      (freeAfter start (callsFor m.outbox.budget p start told) ≤ ·) = true :=
    decide_eq_true (hover.trans (Nat.le_add_right _ _))
  obtain ⟨told', todo', hparts⟩ := work_parts howes hlimit hover htimes hidle hbusy
  obtain ⟨hsent, hkept, hpeers', howes', hover', hidle', hbusy'⟩ := hparts
  have hwork : (m.step (.pass ms)).outbox = (m.outbox.work (some (m.now + ms)) m.now).2 := by
    simp [step, workUntil, hworker]
  have hkept' : (m.step (.pass ms)).outbox.kept = m.outbox.kept := hwork ▸ hkept
  have hbudget : (m.step (.pass ms)).outbox.budget = m.outbox.budget := congrArg (·.1) hkept'
  have hfree : freeAfter start (callsFor m.outbox.budget p start (told ++ told')) =
      freeAfter (freeAfter start (callsFor m.outbox.budget p start told))
        (callsFor m.outbox.budget m.outbox.peers
          (freeAfter start (callsFor m.outbox.budget p start told)) told') := by
    rw [callsFor_append, freeAfter_append, hpeers]
  have hempty : (m.step (.pass ms)).outbox.current = none → todo' = [] := hwork ▸ hidle'
  refine ⟨told', todo', hsent, ⟨?_, ?_, ?_, ?_, fun x hx => ?_, fun hc x hx => ?_, fun c hc => ?_⟩,
    hempty, hkept'⟩
  · exact (congrArg (·.2.1) hkept').trans hworker
  · rw [hbudget, hwork, hpeers', hpeers, List.map_append]
    exact List.foldl_append.symm
  · rw [hbudget, hfree, hwork]
    exact howes'
  · rw [hbudget, hfree]
    exact of_decide_eq_true hover'
  · exact (htimes x (hsent ▸ List.mem_append_right _ hx)).trans (Nat.le_add_right _ _)
  · rw [hempty hc] at hx
    cases hx
  · exact Nat.lt_of_not_le (of_decide_eq_false (hbusy' c (hwork ▸ hc)))

theorem Underway.dropSender (h : m.Underway p start told todo) :
    (m.step .dropSender).Underway p start told todo :=
  ⟨h.worker, h.peers, h.owes.dropSender, h.ended, h.times, h.idle, h.busy⟩

/-- Whatever happens, the calls are made in the order in which their dispatches were sent. -/
theorem underway_step (h : m.Underway p start told todo) (a : Act) :
    ∃ told' todo', told ++ todo ++ m.sends a = told' ++ todo' ∧
      (m.step a).Underway p start told' todo' ∧
      (m.step a).outbox.budget = m.outbox.budget := by
  cases a with
  | send d =>
    unfold sends step
    cases m.outbox.hasSender with
    | true =>
      refine ⟨told, todo ++ [(m.now, d)], List.append_assoc _ _ _, h.send d, ?_⟩
      show (m.outbox.send d).budget = _
      unfold Outbox.send
      split <;> rfl
    | false => exact ⟨told, todo, List.append_nil _, h, rfl⟩
  | pass ms =>
    obtain ⟨told', todo', hsent, hnext, -, hkept⟩ := h.pass ms
    exact ⟨told ++ told', todo', by simp [sends, hsent], hnext, congrArg (·.1) hkept⟩
  | dropSender => exact ⟨told, todo, List.append_nil _, h.dropSender, rfl⟩

theorem underway_run (acts : List Act) : ∀ {m : Moment} {told todo : List (Nat × Dispatch)},
    m.Underway p start told todo → ∃ told' todo', told ++ todo ++ m.sent acts = told' ++ todo' ∧
      (m.run acts).Underway p start told' todo' ∧
      (m.run acts).outbox.budget = m.outbox.budget := by
  induction acts with
  | nil => exact fun {m told todo} h => ⟨told, todo, List.append_nil _, h, rfl⟩
  | cons a acts ih =>
    intro m told todo h
    obtain ⟨told₁, todo₁, hsent₁, h₁, hbudget₁⟩ := underway_step h a
    obtain ⟨told₂, todo₂, hsent₂, h₂, hbudget₂⟩ := ih h₁
    refine ⟨told₂, todo₂, ?_, h₂, hbudget₂.trans hbudget₁⟩
    rw [sent, ← List.append_assoc, hsent₁, hsent₂]

/-- An outbox without a worker stays as it is. -/
theorem gone_run (acts : List Act) : ∀ {m : Moment}, m.outbox.worker = .gone →
    (m.run acts).outbox.worker = .gone ∧
      ((m.run acts).outbox.peers, (m.run acts).outbox.queue, (m.run acts).outbox.current) =
        (m.outbox.peers, m.outbox.queue, m.outbox.current) := by
  induction acts with
  | nil => exact fun h => ⟨h, rfl⟩
  | cons a acts ih =>
    intro m h
    cases a with
    | send d =>
      have hstep : m.step (.send d) = m := by simp [step, Outbox.send, h]
      rw [run_cons, hstep]
      exact ih h
    | pass ms =>
      have hstep : (m.step (.pass ms)).outbox = m.outbox := by simp [step, workUntil, h]
      have hrest := ih (m := m.step (.pass ms)) (hstep ▸ h)
      rw [hstep] at hrest
      exact hrest
    | dropSender => exact ih (m := m.step .dropSender) h

end Moment

/-! ### Everything told, in time -/

/-- Of these calls, those that end by `now` were made, the next one is under way, and the dispatches
of the others are queued. -/
structure Keeps (o : Outbox) (p : Peers) (calls : List Call) (now : Nat) : Prop where
  peers : o.peers = p.afterAll o.budget ((calls.takeWhile (·.ends ≤ now)).map (·.dispatch))
  received : o.peers.received = p.received ++
    ((calls.takeWhile (·.ends ≤ now)).filter (·.treatment.arrives o.budget)).map (·.dispatch)
  current : o.current.map (fun d => (d.dispatch, d.ends)) =
    (calls.dropWhile (·.ends ≤ now)).head?.map fun c => (c.dispatch, c.ends)
  begun : ∀ c ∈ (calls.dropWhile (·.ends ≤ now)).head?, c.begins ≤ now
  queue : o.queue = (calls.dropWhile (·.ends ≤ now)).tail.map (·.dispatch)

/-- A worker that has settled `told`, and works on the first of `todo` if there is one, keeps the
timetable. -/
theorem keeps_of_owes {o : Outbox} {p : Peers} {start now : Nat} {told todo : List (Nat × Dispatch)}
    (hpeers : o.peers = p.afterAll o.budget (told.map (·.2)))
    (howes : o.Owes (freeAfter start (callsFor o.budget p start told)) todo)
    (hover : freeAfter start (callsFor o.budget p start told) ≤ now)
    (htimes : ∀ x ∈ todo, x.1 ≤ now) (hidle : o.current = none → todo = [])
    (hbusy : ∀ c, o.current = some c → now < c.ends) :
    o.Keeps p (callsFor o.budget p start (told ++ todo)) now := by
  have hended : ∀ c ∈ callsFor o.budget p start told, decide (c.ends ≤ now) = true := fun c hc =>
    decide_eq_true ((((timetable_bounds told start _).2 c hc).2.2).trans hover)
  have hdispatches : (callsFor o.budget p start told).map (·.dispatch) = told.map (·.2) :=
    dispatch_timetable told start _ (by rw [Peers.length_treatments, List.length_map])
  have hnext : ∀ c ∈ (callsFor o.budget o.peers
      (freeAfter start (callsFor o.budget p start told)) todo).head?, ¬ c.ends ≤ now := by
    intro c hc
    cases howes with
    | idle hcurrent _ =>
      rw [hidle hcurrent] at hc
      cases hc
    | busy serial hcurrent _ =>
      rw [← Option.some.inj hc]
      exact Nat.not_le_of_lt (hbusy _ hcurrent)
  have hsplit := @callsFor_append o.budget p start told todo
  rw [← hpeers] at hsplit
  generalize hrest : callsFor o.budget o.peers (freeAfter start (callsFor o.budget p start told)) todo =
    rest at hsplit hnext
  have htake : (callsFor o.budget p start (told ++ todo)).takeWhile (·.ends ≤ now) =
      callsFor o.budget p start told := by
    rw [hsplit, List.takeWhile_append_of_pos hended]
    cases rest with
    | nil => simp
    | cons c rest => simp [hnext c rfl]
  have hdrop : (callsFor o.budget p start (told ++ todo)).dropWhile (·.ends ≤ now) = rest := by
    rw [hsplit, List.dropWhile_append_of_pos hended]
    cases rest with
    | nil => rfl
    | cons c rest => simp [hnext c rfl]
  refine ⟨?_, ?_, ?_, ?_, ?_⟩
  · rw [htake, hdispatches, hpeers]
  · rw [htake, hpeers]
    exact received_afterAll told start p
  all_goals
    rw [hdrop, ← hrest]
    cases howes with
    | idle hcurrent hqueue =>
      rw [hidle hcurrent] at hqueue ⊢
      simp [hcurrent, hqueue, callsFor, timetable]
    | @busy time d rest serial hcurrent hqueue => ?_
  · rw [hcurrent]
    rfl
  · intro c hc
    rw [← Option.some.inj hc]
    exact Nat.max_le.mpr ⟨hover, htimes _ List.mem_cons_self⟩
  · rw [hqueue]
    exact (dispatch_timetable rest _ _ (by rw [Peers.length_treatments, List.length_map])).symm

/-- Nothing is left to do when all the calls are over. -/
theorem Keeps.idle_iff {o : Outbox} {p : Peers} {calls : List Call} {now : Nat}
    (h : o.Keeps p calls now) :
    (o.queue = [] ∧ o.current = none) ↔ ∀ c ∈ calls, c.ends ≤ now := by
  have hover : (∀ c ∈ calls, c.ends ≤ now) ↔ calls.dropWhile (·.ends ≤ now) = [] := by
    simp [List.dropWhile_eq_nil_iff]
  rw [hover, h.queue]
  constructor
  · rintro ⟨-, hc⟩
    have hhead := h.current
    rw [hc] at hhead
    exact List.head?_eq_none_iff.mp (Option.map_eq_none_iff.mp hhead.symm)
  · intro hd
    have hhead := h.current
    rw [hd] at hhead ⊢
    exact ⟨rfl, by simpa using hhead⟩

/-- A worker that is told to flush makes all the calls. -/
theorem flush_keeps {o : Outbox} {queue : List Dispatch} (start : Nat) (hc : o.current = none)
    (hq : o.queue = queue) :
    (o.flush start).1 = start + ((o.peers.treatments queue).map (·.duration o.budget)).sum ∧
      (o.flush start).2.Keeps o.peers (callsFor o.budget o.peers start (sentAt start queue))
        (o.flush start).1 := by
  have hdispatches := dispatch_sentAt start queue
  have htimes : ∀ x ∈ sentAt start queue, x.1 ≤ start := fun x hx => (time_sentAt x hx).le
  obtain ⟨told, todo, ⟨hsent, hkept, hpeers, howes, -, hidle, hbusy⟩, htime⟩ :=
    workThrough_parts none (sentAt start queue) start start o hc rfl
      (fun x hx => Nat.max_eq_left (htimes x (List.mem_of_mem_head? hx))) htimes
  have hflush : o.flush start = workThrough none start ((sentAt start queue).map (·.2)) o := by
    unfold flush work
    rw [hc, hq, hdispatches]
  rw [← hflush] at hkept hpeers howes hidle hbusy htime
  have hcurrent : (o.flush start).2.current = none := by
    cases h : (o.flush start).2.current with
    | none => rfl
    | some c => cases hbusy c h
  have htodo := hidle hcurrent
  rw [htodo, List.append_nil] at hsent
  have hbudget : (o.flush start).2.budget = o.budget := congrArg (·.1) hkept
  have htimed := htime
  rw [callsFor, ← hsent, hdispatches, freeAfter_timetable _ _ _
    (by rw [Peers.length_treatments, length_sentAt]) htimes] at htimed
  refine ⟨htimed, ?_⟩
  rw [htime]
  rw [← hbudget] at hpeers howes ⊢
  have hkeeps := keeps_of_owes hpeers howes (Nat.le_refl _) (by simp [htodo]) hidle
    (fun c h => by rw [hcurrent] at h; cases h)
  rw [htodo, List.append_nil] at hkeeps
  exact hsent ▸ hkeeps

/-- **Every dispatch is told once, in order, and in time.** Peers may treat each call as they like: it
comes through after any time or never, and the peer is there or not. The worker is started when some
dispatches are queued, more are sent while it runs, and the clock runs. Then the calls are made one
after the other, one for each dispatch, in the order in which these were sent; each begins as soon as
its dispatch has been sent and the call before it is over. Those that were queued at the start are over
when the worker has spent on each of them what its call takes, the budget at most. At any time, once
the worker has had its turn, the calls that end by then were made and left just the dispatches that
came through to a peer that was there, the next one is under way, and the others are queued; and the
worker has ended just when nobody is left who could send and all the calls are over. A flush does the
same for what is queued. Without a worker sending has no effect. -/
theorem told_by_timetable (p : Peers) (budget start serial : Nat) (queue : List Dispatch)
    (acts : List Act) :
    let waiting : Outbox := ⟨p, budget, queue, none, serial, .waiting, true⟩
    let begun : Moment := ⟨start, waiting.runWorker⟩
    let sent := sentAt start queue ++ begun.sent acts
    let ts := p.treatments (sent.map (·.2))
    let calls := timetable budget start sent ts
    let m := begun.run acts
    let o := m.outbox.workUntil m.now m.now
    (sent.length ≤ p.script.length → ts = p.script.take sent.length) ∧
    calls.map (·.dispatch) = sent.map (·.2) ∧ calls.map (·.treatment) = ts ∧
    calls.Pairwise (fun c c' => c.ends ≤ c'.begins) ∧
    (∀ i < queue.length, (calls[i]?).map (·.ends) =
      some (start + ((ts.take (i + 1)).map (·.duration budget)).sum)) ∧
    o.Keeps p calls m.now ∧
    (o.isFinished? = some true ↔ m.outbox.hasSender = false ∧ ∀ c ∈ calls, c.ends ≤ m.now) ∧
    ((waiting.flush start).1 = start + ((p.treatments queue).map (·.duration budget)).sum ∧
      (waiting.flush start).2.Keeps p
        (timetable budget start (sentAt start queue) (p.treatments queue)) (waiting.flush start).1) ∧
    (∀ (acts' : List Act) (d : Dispatch),
      let gone := (Moment.run ⟨start, waiting.dropWorker⟩ acts').outbox
      gone.send d = gone ∧ gone.peers = p ∧ gone.queue = [] ∧ gone.current = none) := by
  intro waiting begun sent ts calls m o
  have hlength : ts.length = sent.length := by
    rw [Peers.length_treatments, List.length_map]
  have hbegun : begun.Underway p start [] (sentAt start queue) :=
    ⟨rfl, rfl, .idle rfl (dispatch_sentAt start queue).symm, Nat.le_refl start,
      fun x hx => (time_sentAt x hx).le, fun _ => time_sentAt, nofun⟩
  obtain ⟨told, todo, hsent, hrun, hbudget⟩ := Moment.underway_run acts hbegun
  obtain ⟨told', todo', htodo, hrest, hidle, hkept⟩ := hrun.pass 0
  have hall : sent = told ++ told' ++ todo' := by
    rw [List.append_assoc, ← htodo, ← hsent]
    rfl
  have ho : o.budget = budget := (congrArg (·.1) hkept).trans hbudget
  have hkeeps : o.Keeps p calls m.now := by
    have h := keeps_of_owes hrest.peers hrest.owes hrest.ended hrest.times hidle hrest.busy
    rw [← hall] at h
    have hcalls : callsFor o.budget p start sent = calls := by rw [ho]; rfl
    exact hcalls ▸ h
  refine ⟨fun h => ?_, ?_, ?_, ?_, ?_, hkeeps, ?_, ?_, ?_⟩
  · rw [← List.length_map (f := (·.2))] at h ⊢
    exact Peers.treatments_of_script _ p h
  · exact dispatch_timetable sent start ts hlength
  · exact treatment_timetable sent start ts hlength
  · exact timetable_pairwise sent start ts
  · intro i hi
    have hsplit := @callsFor_append budget p start (sentAt start queue) (begun.sent acts)
    have hfirst : callsFor budget p start (sentAt start queue) =
        timetable budget start (sentAt start queue) (p.treatments queue) := by
      rw [callsFor, dispatch_sentAt]
    have hlengths : (p.treatments queue).length = (sentAt start queue).length := by
      rw [Peers.length_treatments, length_sentAt]
    have htake : ts.take (i + 1) = (p.treatments queue).take (i + 1) := by
      have h := Peers.treatments_append budget queue ((begun.sent acts).map (·.2)) p
      show (p.treatments (sent.map (·.2))).take _ = _
      rw [List.map_append, dispatch_sentAt, h]
      exact List.take_append_of_le_length (by rw [Peers.length_treatments]; exact hi)
    have hi' : i < (sentAt start queue).length := by rwa [length_sentAt]
    have hcalls : (timetable budget start (sentAt start queue) (p.treatments queue)).length =
        (sentAt start queue).length := by
      have h := congrArg List.length (@dispatch_timetable budget (sentAt start queue) start _ hlengths)
      rwa [List.length_map, List.length_map] at h
    show ((callsFor budget p start sent)[i]?).map _ = _
    rw [hsplit, hfirst, htake, List.getElem?_append_left (by rwa [hcalls])]
    exact ends_timetable _ start _ hlengths (fun x hx => (time_sentAt x hx).le) i hi'
  · have hworker : o.worker = .running := (congrArg (·.2.1) hkept).trans hrun.worker
    have hsender : o.hasSender = m.outbox.hasSender := congrArg (·.2.2) hkept
    rw [← hkeeps.idle_iff, isFinished?, if_pos hworker, hsender]
    simp [and_assoc]
  · have h := flush_keeps (o := waiting) start rfl rfl
    rwa [callsFor, dispatch_sentAt] at h
  · intro acts' d
    obtain ⟨hworker, hcontents⟩ := Moment.gone_run acts' (m := ⟨start, waiting.dropWorker⟩) rfl
    simp only [Prod.mk.injEq] at hcontents
    exact ⟨if_pos hworker, hcontents⟩

/-- The first call hangs, the second comes through just when its budget is spent, the peer of the third
is not there; a fourth dispatch is sent while the second call is under way. -/
theorem hung_call_delays_the_others :
    let p : Peers := ⟨[], false, [⟨.never, true⟩, ⟨.after 5, true⟩, ⟨.after 0, false⟩, ⟨.after 1, true⟩], []⟩
    let tell (id : String) : Dispatch := .stopResult ⟨id⟩ true
    let waiting : Outbox := ⟨p, 5, [tell "b", tell "c", tell "d"], none, 0, .waiting, true⟩
    let m := Moment.run ⟨1, waiting.runWorker⟩ [.pass 7, .send (tell "e"), .dropSender, .pass 4]
    m.now = 12 ∧ (m.outbox.workUntil m.now m.now).peers.received = [tell "c", tell "e"] ∧
      (m.outbox.workUntil m.now m.now).isFinished? = some true := by
  dsimp only
  have h := (told_by_timetable
    ⟨[], false, [⟨.never, true⟩, ⟨.after 5, true⟩, ⟨.after 0, false⟩, ⟨.after 1, true⟩], []⟩ 5 1 0
    [.stopResult ⟨"b"⟩ true, .stopResult ⟨"c"⟩ true, .stopResult ⟨"d"⟩ true]
    [.pass 7, .send (.stopResult ⟨"e"⟩ true), .dropSender, .pass 4]).2.2.2.2.2
  exact ⟨by decide +kernel, h.1.received.trans (by decide +kernel), h.2.1.mpr (by decide +kernel)⟩

end Outbox

end PointerShare
