/-
# Every request is answered once

Clients, peers and devices post items as they like, and wait while the queue
is full; the service takes items of its queue and posts of its station's
mailbox in any order; and around it replies arrive, alarms go off and switches
are flipped. Every item that was ever posted has a number of its own, and at
any moment it has been answered once, or it is a request that is queued, or
its poster waits for room (`Service.Accounted`). What is queued is handled in
that order, and a request is answered with what the station's operation gives
when its turn comes. A shutdown answers all that are left over, and what is
published as the status then stays. As long as the listener calls work, a
station that is shut down listens to nobody any more, since before that it
listened just as its role and its session call for.

Key definitions: `Station.Answers`, `Service.Act`, `Service.step`, `Service.run`,
`Service.handled`, `Service.unanswered`, `Service.Accounted`, `Service.Gains`,
`Service.Around`, `Service.CallsWork`, `Service.AtEase`.
Key theorems: `Service.step_cases`, `Service.accounted_step`, `Service.queue_run`,
`Service.status_step`, `Service.unanswered_drained`, `Service.atEase_step`,
`Service.every_request_is_answered_once`.
-/
import PointerShare.Proofs.Footprint
import Mathlib.Data.List.Nodup
import Mathlib.Data.List.Perm.Basic

namespace PointerShare

/-- The response tells what came of an operation. -/
inductive Response.Reports : Response → Answer → Prop
  | accepted : Reports .accepted (.ok ())
  | refused (refusal : Refusal) : Reports (.refused refusal) (.error refusal)

theorem Response.reports_iff {r : Response} {a : Answer} : r.Reports a ↔ r = .ofAnswer a := by
  constructor
  · rintro (_ | _) <;> rfl
  · rintro rfl
    cases a with
    | ok _ => exact .accepted
    | error refusal => exact .refused refusal

instance (r : Response) (a : Answer) : Decidable (r.Reports a) :=
  decidable_of_iff _ Response.reports_iff.symm

/-- What a client is answered by a station that does what it was asked for, and the station then. -/
inductive Station.Answers (s : Station) : Request → Response → Station → Prop
  | enable (on : Bool) (r : Response) (h : r.Reports (s.enable on).1) :
    Answers s (.enable on) r (s.enable on).2
  | start (target : NetworkId) (device : DeviceId) (r : Response)
      (h : r.Reports (s.start target device).1) :
    Answers s (.start target device) r (s.start target device).2
  | stop (r : Response) (h : r.Reports s.stop.1) : Answers s .stop r s.stop.2
  | isEnabled (id : NetworkId) : Answers s (.isEnabled id) (.flag (s.isEnabled id)) s
  | judge (e : PointerEvent) : Answers s (.judge e) (.verdict (s.judge e).1) (s.judge e).2
  | subscribe (tag : String) :
    Answers s (.subscribe tag) (.subscription (s.notifier.subscribe tag .channel).1)
      { s with notifier := (s.notifier.subscribe tag .channel).2 }
  | unsubscribe (id : Nat) :
    Answers s (.unsubscribe id) (.flag (s.notifier.unsubscribe id).1)
      { s with notifier := (s.notifier.unsubscribe id).2 }

/-- A request is answered with the result of its operation. -/
theorem Station.answers_serve (s : Station) (r : Request) : s.Answers r (s.serve r).1 (s.serve r).2 := by
  have hreports (a : Answer) : (Response.ofAnswer a).Reports a := Response.reports_iff.mpr rfl
  cases r with
  | enable on => exact .enable on _ (hreports _)
  | start target device => exact .start target device _ (hreports _)
  | stop => exact .stop _ (hreports _)
  | isEnabled id => exact .isEnabled id
  | judge e => exact .judge e
  | subscribe tag => exact .subscribe tag
  | unsubscribe id => exact .unsubscribe id

/-- There is one answer to a request, and one thing that the station does. -/
theorem Station.Answers.unique {s s₁ s₂ : Station} {q : Request} {r₁ r₂ : Response}
    (h₁ : s.Answers q r₁ s₁) (h₂ : s.Answers q r₂ s₂) : r₁ = r₂ ∧ s₁ = s₂ := by
  have hreports {a : Answer} {r r' : Response} (h : r.Reports a) (h' : r'.Reports a) : r = r' :=
    (Response.reports_iff.mp h).trans (Response.reports_iff.mp h').symm
  cases h₁ with
  | enable _ _ h => cases h₂ with | enable _ _ h' => exact ⟨hreports h h', rfl⟩
  | start _ _ _ h => cases h₂ with | start _ _ _ h' => exact ⟨hreports h h', rfl⟩
  | stop _ h => cases h₂ with | stop _ h' => exact ⟨hreports h h', rfl⟩
  | isEnabled | judge | subscribe | unsubscribe => cases h₂; exact ⟨rfl, rfl⟩

namespace Service

/-! ## Runs -/

/-- What a service does, or what happens to it. -/
inductive Act where
  /-- Somebody posts an item. -/
  | post (event : Event)
  /-- The waiting poster at place `k` comes in, if there is room for it. -/
  | seat (k : Nat)
  /-- The service takes the oldest item of the queue. -/
  | takeEvent
  /-- It takes the oldest post of its station's mailbox. -/
  | takePost
  /-- Alarms that are due go off. -/
  | ring
  /-- Something happens around the station; a switch change that it hears of is queued or lost. -/
  | happen (h : Happening)

def step (v : Service) : Act → Service
  | .post event => (v.post event).2
  | .seat k => (v.seat? k).getD v
  | .takeEvent => v.takeEvent?.getD v
  | .takePost => v.takePost?.getD v
  | .ring => v.ringDue?.getD v
  | .happen h => { v with station := v.station.meet h }.queueChanges

def run (v : Service) (acts : List Act) : Service := acts.foldl step v

theorem run_cons (v : Service) (a : Act) (acts : List Act) : v.run (a :: acts) = (v.step a).run acts :=
  rfl

theorem run_append (v : Service) (acts acts' : List Act) :
    v.run (acts ++ acts') = (v.run acts).run acts' :=
  List.foldl_append

/-- The item of the queue that is taken. -/
def handling (v : Service) : Act → List Item
  | .takeEvent => if v.running then v.queue.take 1 else []
  | _ => []

/-- The items of the queue that are taken, in order. -/
def handled : Service → List Act → List Item
  | _, [] => []
  | v, a :: acts => v.handling a ++ (v.step a).handled acts

/-- The service handles an item of the queue or a post. -/
def processes (v : Service) : Act → Prop
  | .takeEvent => v.running = true ∧ v.queue ≠ []
  | .takePost => v.running = true ∧ v.station.gateway.mailbox.queue ≠ []
  | _ => False

/-- The numbers of those who still wait for an answer: with a request in the queue, or for room. -/
def unanswered (v : Service) : List Nat :=
  ((v.queue.filter fun i => i.event.isRequest) ++ v.waiting).map (·.ticket)

/-- Every item that was posted has been answered once, or its poster waits. After the end nobody
waits. -/
structure Accounted (v : Service) : Prop where
  tickets : (v.responses.map (·.1) ++ v.unanswered).Perm (List.range' 1 v.issued)
  ended : v.running = false → v.queue = [] ∧ v.waiting = []

/-! ## The queue -/

/-- From `v` to `v'` the queue and the answers grew at their ends, and the rest of the service went
on as it was. -/
structure Gains (v v' : Service) : Prop where
  station : v'.station = v.station
  running : v'.running = v.running
  status : v'.status = v.status
  queue : v.queue <+: v'.queue
  responses : v.responses <+: v'.responses
  accounted : v.Accounted → v'.Accounted

namespace Gains

theorem refl (v : Service) : v.Gains v := ⟨rfl, rfl, rfl, List.prefix_rfl, List.prefix_rfl, id⟩

theorem trans {u v w : Service} (h : u.Gains v) (h' : v.Gains w) : u.Gains w :=
  ⟨h'.station.trans h.station, h'.running.trans h.running, h'.status.trans h.status,
    h.queue.trans h'.queue, h.responses.trans h'.responses, fun ha => h'.accounted (h.accounted ha)⟩

end Gains

section queue

variable (v : Service)

theorem tickets_respond (t : Nat) (r : Response) :
    ((v.respond t r).responses.map (·.1) ++ (v.respond t r).unanswered).Perm
      (t :: (v.responses.map (·.1) ++ v.unanswered)) := by
  show ((v.responses ++ [(t, r)]).map (·.1) ++ v.unanswered).Perm _
  rw [List.map_append, List.append_assoc]
  exact List.perm_middle

theorem tickets_enqueue (i : Item) :
    ((v.enqueue i).responses.map (·.1) ++ (v.enqueue i).unanswered).Perm
      (i.ticket :: (v.responses.map (·.1) ++ v.unanswered)) := by
  by_cases hr : i.event.isRequest = true
  · have h : v.enqueue i = { v with queue := v.queue ++ [i] } := by simp [enqueue, hr]
    rw [h]
    refine List.perm_iff_count.mpr fun t => ?_
    simp [unanswered, hr, List.count_cons, List.count_append]
    omega
  · have h : v.enqueue i = { v with queue := v.queue ++ [i] }.respond i.ticket .accepted := by
      simp [enqueue, hr]
    have hwait : { v with queue := v.queue ++ [i] }.unanswered = v.unanswered := by
      simp [unanswered, hr]
    rw [h]
    have := tickets_respond { v with queue := v.queue ++ [i] } i.ticket .accepted
    rwa [hwait] at this

/-- An item is queued, and answered unless it is a request. -/
theorem enqueue_eq (i : Item) : ∃ new, v.enqueue i =
    { v with queue := v.queue ++ [i], responses := v.responses ++ new } := by
  unfold enqueue
  dsimp only
  split
  · exact ⟨[], by simp⟩
  · exact ⟨[(i.ticket, .accepted)], rfl⟩

theorem gains_post (e : Event) : v.Gains (v.post e).2 := by
  have hrange : (List.range' 1 (v.issued + 1)).Perm ((v.issued + 1) :: List.range' 1 v.issued) := by
    rw [List.range'_concat, Nat.one_mul, Nat.add_comm 1]
    exact List.perm_append_singleton _ _
  have haccount (v' : Service) (hissued : v'.issued = v.issued + 1)
      (ht : (v'.responses.map (·.1) ++ v'.unanswered).Perm
        ((v.issued + 1) :: (v.responses.map (·.1) ++ v.unanswered)))
      (hend : v.Accounted → v'.running = false → v'.queue = [] ∧ v'.waiting = [])
      (ha : v.Accounted) : v'.Accounted :=
    ⟨ht.trans ((ha.tickets.cons _).trans (hissued ▸ hrange.symm)), hend ha⟩
  let u : Service := { v with issued := v.issued + 1 }
  show v.Gains (if !u.running then u.respond _ _ else if u.hasRoom then u.enqueue _ else _)
  by_cases hrun : v.running = true
  · rw [if_neg (by simp [u, hrun])]
    have hend (h : v.running = false) : False := Bool.false_ne_true (h.symm.trans hrun)
    by_cases hroom : u.hasRoom = true
    · rw [if_pos hroom]
      have ht := tickets_enqueue u ⟨v.issued + 1, e⟩
      obtain ⟨new, heq⟩ := enqueue_eq u ⟨v.issued + 1, e⟩
      rw [heq] at ht ⊢
      exact ⟨rfl, rfl, rfl, List.prefix_append _ _, List.prefix_append _ _,
        haccount _ rfl ht fun _ h => (hend h).elim⟩
    · rw [if_neg hroom]
      refine ⟨rfl, rfl, rfl, List.prefix_rfl, List.prefix_rfl,
        haccount _ rfl ?_ fun _ h => (hend h).elim⟩
      refine List.perm_iff_count.mpr fun t => ?_
      simp [unanswered, List.count_cons, List.count_append]
      omega
  · rw [if_pos (by simp [u, hrun])]
    exact ⟨rfl, rfl, rfl, List.prefix_rfl, List.prefix_append _ _,
      haccount _ rfl (tickets_respond u _ _) fun ha h => ha.ended h⟩

theorem gains_offer (e : Event) : v.Gains (v.offer e) := by
  unfold offer
  split
  · exact v.gains_post e
  · exact .refl v

theorem gains_seat {v' : Service} {k : Nat} (h : v.seat? k = some v') : v.Gains v' := by
  unfold seat? at h
  split at h
  · obtain ⟨item, hitem, rfl⟩ := Option.map_eq_some_iff.mp h
    let u : Service := { v with waiting := v.waiting.eraseIdx k }
    have ht := tickets_enqueue u item
    obtain ⟨new, heq⟩ := enqueue_eq u item
    refine ⟨?_, ?_, ?_, ?_, ?_, fun ha => ⟨?_, fun hrun => ?_⟩⟩
    · exact heq ▸ rfl
    · exact heq ▸ rfl
    · exact heq ▸ rfl
    · exact heq ▸ List.prefix_append _ _
    · exact heq ▸ List.prefix_append _ _
    · have hissued : (u.enqueue item).issued = v.issued := by rw [heq]
      rw [hissued]
      refine ht.trans (.trans ?_ ha.tickets)
      obtain ⟨hk, rfl⟩ := List.getElem?_eq_some_iff.mp hitem
      have herase : v.waiting.Perm (v.waiting[k] :: v.waiting.eraseIdx k) :=
        (List.getElem_cons_eraseIdx_perm hk).symm
      have hcount := fun t => ((herase.map (·.ticket)).count_eq t).symm
      refine List.perm_iff_count.mpr fun t => ?_
      have := hcount t
      simp only [List.map_cons, List.count_cons] at this
      simp only [unanswered, u, List.map_append, List.count_cons, List.count_append]
      omega
    · have hrun' : (u.enqueue item).running = v.running := by rw [heq]
      have hnone := (ha.ended (hrun'.symm.trans hrun)).2
      rw [hnone] at hitem
      cases hitem
  · cases h

theorem gains_seatUpTo : ∀ (n : Nat) (v : Service), v.Gains (seatUpTo n v)
  | 0, v => .refl v
  | n + 1, v => by
    unfold seatUpTo
    cases h : v.seat? 0 with
    | none => exact .refl v
    | some u => exact (gains_seat v h).trans (gains_seatUpTo n u)

theorem gains_letIn : v.Gains v.letIn := gains_seatUpTo _ v

theorem gains_queueChanges :
    { v with station := { v.station with changes := [] } }.Gains v.queueChanges := by
  unfold queueChanges
  generalize { v with station := { v.station with changes := [] } } = u
  induction v.station.changes generalizing u with
  | nil => exact .refl u
  | cons c cs ih => exact (gains_offer u _).trans (ih _)

end queue

/-! ## Taking an item -/

section dispatch

variable {v : Service} {item : Item} {rest : List Item}

theorem dispatch_shutdown (he : item.event = .shutdown) : v.dispatch item = v.finish :=
  if_pos he

/-- An item that is not the end of the service. -/
theorem dispatch_of_ne (he : item.event ≠ .shutdown) : v.dispatch item =
    { v with
      station := (v.station.handle item.event).2
      responses := v.responses ++
        ((v.station.handle item.event).1.map fun r => (item.ticket, r)).toList
      status := (v.station.handle item.event).2.view } := by
  unfold dispatch
  rw [if_neg he]
  dsimp only
  split
  · rename_i hnone
    rw [hnone]
    simp [publishStatus]
  · rename_i r hsome
    rw [hsome]
    rfl

theorem takeEvent_of_cons (hrun : v.running = true) (hq : v.queue = item :: rest) :
    v.step .takeEvent = { v with queue := rest }.dispatch item := by
  simp [step, takeEvent?, hrun, hq]

theorem takeEvent_of_nil (hq : v.queue = []) : v.step .takeEvent = v ∨ v.step .takeEvent = v.letIn := by
  unfold step takeEvent?
  dsimp only
  rw [hq]
  split
  · exact .inl rfl
  · dsimp only
    split
    · exact .inl rfl
    · exact .inr rfl

theorem takeEvent_of_stopped (hrun : v.running = false) : v.step .takeEvent = v := by
  simp [step, takeEvent?, hrun]

/-- Only a request has a response of its own. -/
theorem response_handle (s : Station) (e : Event) :
    (s.handle e).1.isSome = e.isRequest := by
  cases e <;> rfl

/-- What a service that ends answers. -/
theorem responses_finish (v : Service) : v.finish.responses = v.responses ++
    ((v.queue.filter fun i => i.event.isRequest).map fun i => (i.ticket, .unavailable .dropped)) ++
    v.waiting.map fun i => (i.ticket, .unavailable .stopped) :=
  rfl

theorem responses_dispatch (v : Service) (item : Item) :
    v.responses <+: (v.dispatch item).responses := by
  by_cases he : item.event = .shutdown
  · rw [dispatch_shutdown he, responses_finish, List.append_assoc]
    exact List.prefix_append _ _
  · rw [dispatch_of_ne he]
    exact List.prefix_append _ _

theorem status_dispatch (v : Service) (item : Item) :
    (v.dispatch item).status = (v.dispatch item).station.view := by
  by_cases he : item.event = .shutdown
  · rw [dispatch_shutdown he]
    rfl
  · rw [dispatch_of_ne he]

theorem accounted_dispatch (ha : v.Accounted) (hq : v.queue = item :: rest) :
    ({ v with queue := rest }.dispatch item).Accounted := by
  by_cases he : item.event = .shutdown
  · rw [dispatch_shutdown he]
    refine ⟨.trans ?_ ha.tickets, fun _ => ⟨rfl, rfl⟩⟩
    have hitem : item.event.isRequest = false := by rw [he]; rfl
    have hempty : { v with queue := rest }.finish.unanswered = [] := rfl
    rw [responses_finish, hempty, List.append_nil]
    simp [unanswered, hq, hitem, Function.comp_def]
  · rw [dispatch_of_ne he]
    refine ⟨.trans ?_ ha.tickets, fun hrun => ?_⟩
    · have hsome := response_handle v.station item.event
      have hrequest : item.event.isRequest =
          (({ v with queue := rest }.station.handle item.event).1).isSome := hsome.symm
      cases hresponse : ({ v with queue := rest }.station.handle item.event).1 with
      | none =>
        rw [hresponse] at hrequest
        simp [unanswered, hq, hrequest]
      | some r =>
        rw [hresponse] at hrequest
        refine List.perm_iff_count.mpr fun t => ?_
        simp [unanswered, hq, hrequest, List.count_cons, List.count_append]
    · exact absurd ((ha.ended hrun).1.symm.trans hq) nofun

end dispatch

/-! ## One step -/

section step

variable (v : Service)

/-- A post that is taken is handled by the station, and the status is published. -/
theorem takePost_eq (hrun : v.running = true) (hq : v.station.gateway.mailbox.queue ≠ []) :
    v.step .takePost = { v with station := v.station.step .take }.publishStatus := by
  obtain ⟨p, ps, hps⟩ := List.exists_cons_of_ne_nil hq
  rw [Station.step_take_of_cons hps]
  simp [step, takePost?, hrun, Clockwork.feed?, Station.clockwork, Mailbox.take?, hps]

theorem takePost_of_not (h : ¬v.processes .takePost) : v.step .takePost = v := by
  by_cases hrun : v.running = true
  · have hq : v.station.gateway.mailbox.queue = [] := by
      by_contra hne
      exact h ⟨hrun, hne⟩
    simp [step, takePost?, hrun, Clockwork.feed?, Station.clockwork, Mailbox.take?, hq]
  · simp [step, takePost?, hrun]

theorem ring_eq : v.step .ring = v ∨
    v.step .ring = { v with station := Station.clockwork.ring v.station } := by
  unfold step ringDue?
  dsimp only
  split
  · exact .inr rfl
  · exact .inl rfl

theorem takeEvent_cases : (v.running = false ∧ v.step .takeEvent = v) ∨
    (v.queue = [] ∧ v.Gains (v.step .takeEvent)) ∨
    ∃ item rest, v.running = true ∧ v.queue = item :: rest ∧
      v.step .takeEvent = { v with queue := rest }.dispatch item := by
  by_cases hrun : v.running = true
  · cases hq : v.queue with
    | nil =>
      refine .inr (.inl ⟨rfl, ?_⟩)
      rcases takeEvent_of_nil hq with h | h
      · rw [h]
        exact .refl v
      · rw [h]
        exact v.gains_letIn
    | cons item rest => exact .inr (.inr ⟨item, rest, hrun, rfl, takeEvent_of_cons hrun hq⟩)
  · exact .inl ⟨by simpa using hrun, takeEvent_of_stopped (by simpa using hrun)⟩

/-- What a step that takes no item makes of the station and the status. -/
inductive Around (v : Service) : Act → Station → View → Prop where
  | still {a : Act} (h : ¬v.processes a) : v.Around a v.station v.status
  | take (h : v.processes .takePost) :
    v.Around .takePost (v.station.step .take) (v.station.step .take).view
  | ring : v.Around .ring (Station.clockwork.ring v.station) v.status
  | happen (h : Happening) : v.Around (.happen h) { v.station.meet h with changes := [] } v.status

/-- A step takes an item of the queue; or the queue and the answers grow, after something has
happened to the station. -/
theorem step_cases (a : Act) :
    (∃ s w, v.Around a s w ∧ { v with station := s, status := w }.Gains (v.step a)) ∨
      ∃ item rest, a = .takeEvent ∧ v.running = true ∧ v.queue = item :: rest ∧
        v.step a = { v with queue := rest }.dispatch item := by
  have hsame {v' : Service} (h : v.step a = v') : v'.Gains (v.step a) := h ▸ .refl _
  cases a with
  | post e => exact .inl ⟨_, _, .still id, v.gains_post e⟩
  | seat k =>
    refine .inl ⟨_, _, .still id, ?_⟩
    show v.Gains ((v.seat? k).getD v)
    cases h : v.seat? k with
    | none => exact .refl v
    | some u => exact v.gains_seat h
  | takeEvent =>
    rcases v.takeEvent_cases with ⟨hrun, h⟩ | ⟨hq, h⟩ | ⟨item, rest, hrun, hq, h⟩
    · exact .inl ⟨_, _, .still fun hp => Bool.false_ne_true (hrun.symm.trans hp.1), hsame h⟩
    · exact .inl ⟨_, _, .still fun hp => hp.2 hq, h⟩
    · exact .inr ⟨item, rest, rfl, hrun, hq, h⟩
  | takePost =>
    by_cases h : v.processes .takePost
    · exact .inl ⟨_, _, .take h, hsame (v.takePost_eq h.1 h.2)⟩
    · exact .inl ⟨_, _, .still h, hsame (v.takePost_of_not h)⟩
  | ring =>
    rcases v.ring_eq with h | h
    · exact .inl ⟨_, _, .still id, hsame h⟩
    · exact .inl ⟨_, _, .ring, hsame h⟩
  | happen h =>
    exact .inl ⟨_, _, .happen h, gains_queueChanges { v with station := v.station.meet h }⟩

/-- The books are kept. -/
theorem accounted_step (a : Act) (ha : v.Accounted) : (v.step a).Accounted := by
  rcases v.step_cases a with ⟨s, w, -, hgains⟩ | ⟨item, rest, -, -, hq, h⟩
  · exact hgains.accounted ⟨ha.tickets, ha.ended⟩
  · rw [h]
    exact accounted_dispatch ha hq

theorem responses_step (a : Act) : v.responses <+: (v.step a).responses := by
  rcases v.step_cases a with ⟨s, w, -, hgains⟩ | ⟨item, rest, -, -, -, h⟩
  · exact hgains.responses
  · rw [h]
    exact responses_dispatch { v with queue := rest } item

/-- The status is published after everything that is processed, and at no other time. -/
theorem status_step (a : Act) :
    (v.processes a → (v.step a).status = (v.step a).station.view) ∧
      (¬v.processes a → (v.step a).status = v.status) := by
  rcases v.step_cases a with ⟨s, w, haround, hgains⟩ | ⟨item, rest, rfl, hrun, hq, h⟩
  · cases haround with
    | still hn => exact ⟨fun hp => absurd hp hn, fun _ => hgains.status⟩
    | take hp => exact ⟨fun _ => hgains.status.trans (hgains.station ▸ rfl), fun hn => absurd hp hn⟩
    | ring => exact ⟨False.elim, fun _ => hgains.status⟩
    | happen h => exact ⟨False.elim, fun _ => hgains.status⟩
  · rw [h]
    exact ⟨fun _ => status_dispatch _ item, fun hp => absurd ⟨hrun, hq ▸ nofun⟩ hp⟩

/-- A service that has ended does not begin again. -/
theorem stopped_step (a : Act) (hrun : v.running = false) : (v.step a).running = false := by
  rcases v.step_cases a with ⟨s, w, -, hgains⟩ | ⟨item, rest, -, hgoes, -, -⟩
  · exact hgains.running.trans hrun
  · exact absurd (hrun.symm.trans hgoes) Bool.noConfusion

/-- Only a shutdown ends a service. -/
theorem ends_by_shutdown {a : Act} (hrun : v.running = true) (hend : (v.step a).running = false) :
    ∃ rest : List Item, v.step a = { v with queue := rest }.finish := by
  rcases v.step_cases a with ⟨s, w, -, hgains⟩ | ⟨item, rest, -, -, -, h⟩
  · exact absurd (hend.symm.trans (hgains.running.trans hrun)) Bool.noConfusion
  · by_cases he : item.event = .shutdown
    · exact ⟨rest, h.trans (dispatch_shutdown he)⟩
    · rw [h, dispatch_of_ne he] at hend
      exact absurd (hend.symm.trans hrun) Bool.noConfusion

theorem not_processes_of_stopped (a : Act) (hrun : v.running = false) : ¬v.processes a := by
  intro h
  cases a with
  | takeEvent => exact Bool.false_ne_true (hrun.symm.trans h.1)
  | takePost => exact Bool.false_ne_true (hrun.symm.trans h.1)
  | _ => exact h

theorem Around.handling_eq {v : Service} {a : Act} {s : Station} {w : View} (h : v.Around a s w) :
    v.handling a = [] := by
  cases h with
  | still h =>
    cases a with
    | takeEvent =>
      by_cases hrun : v.running = true
      · have hq : v.queue = [] := by
          by_contra hne
          exact h ⟨hrun, hne⟩
        simp [handling, hq]
      · simp [handling, hrun]
    | _ => rfl
  | _ => rfl

/-- Of what is queued the oldest item is taken, and what comes in stands behind the rest. -/
theorem queue_step (a : Act) : ∃ new rest, v.queue ++ new = v.handling a ++ rest ∧
    ((v.step a).running = true → rest = (v.step a).queue) := by
  rcases v.step_cases a with ⟨s, w, haround, hgains⟩ | ⟨item, rest, rfl, hrun, hq, h⟩
  · rw [haround.handling_eq]
    obtain ⟨new, hnew⟩ := hgains.queue
    exact ⟨new, _, rfl, fun _ => hnew⟩
  · rw [h]
    refine ⟨[], rest, by simp [handling, hrun, hq], fun hrunning => ?_⟩
    by_cases he : item.event = .shutdown
    · rw [dispatch_shutdown he] at hrunning
      cases hrunning
    · rw [dispatch_of_ne he]

/-- What the service does by itself is one of the steps. -/
theorem step_of_step? {v' : Service} (h : v.step? = some v') : ∃ a, v' = v.step a := by
  unfold step? at h
  cases hpost : v.takePost? with
  | some u =>
    rw [hpost] at h
    exact ⟨.takePost, by simp [step, hpost, ← Option.some.inj h]⟩
  | none =>
    rw [hpost] at h
    cases hevent : v.takeEvent? with
    | some u =>
      rw [hevent] at h
      exact ⟨.takeEvent, by simp [step, hevent, ← Option.some.inj h]⟩
    | none =>
      rw [hevent] at h
      have hring : v.ringDue? = some v' := h
      exact ⟨.ring, by simp [step, hring]⟩

end step

/-- A service that does one thing after the other by itself makes a run. -/
theorem stepUpTo_eq_run : ∀ (n : Nat) (v : Service), ∃ acts, stepUpTo n v = v.run acts
  | 0, _ => ⟨[], rfl⟩
  | n + 1, v => by
    unfold stepUpTo
    cases h : v.step? with
    | none => exact ⟨[], rfl⟩
    | some v' =>
      obtain ⟨a, rfl⟩ := v.step_of_step? h
      obtain ⟨acts, hacts⟩ := stepUpTo_eq_run n (v.step a)
      exact ⟨a :: acts, hacts⟩

/-- Who ends drops every call. -/
theorem pendingCalls_finish (v : Service) : v.finish.status.pendingCalls = 0 := by
  have htracker : v.station.shutdown.gateway.tracker = v.station.cancelCalls.gateway.tracker := by
    unfold Station.shutdown Station.unwatch Gateway.unsubscribe
    dsimp only
    repeat' split
    all_goals rfl
  show v.station.shutdown.gateway.tracker.pendingCount = 0
  rw [htracker]
  rfl

/-- A service that has ended has no call that is pending. -/
theorem pendingCalls_step {v : Service} (a : Act)
    (h : v.running = false → v.status.pendingCalls = 0) (hend : (v.step a).running = false) :
    (v.step a).status.pendingCalls = 0 := by
  by_cases hrun : v.running = true
  · obtain ⟨rest, heq⟩ := v.ends_by_shutdown hrun hend
    rw [heq, pendingCalls_finish]
  · have hstopped : v.running = false := by simpa using hrun
    rw [(v.status_step a).2 (v.not_processes_of_stopped a hstopped)]
    exact h hstopped

/-! ## Runs of a service -/

section run

variable {v : Service}

theorem accounted_run (acts : List Act) (ha : v.Accounted) : (v.run acts).Accounted :=
  List.foldlRecOn acts step ha fun u hu a _ => accounted_step u a hu

theorem stopped_run (acts : List Act) (hrun : v.running = false) : (v.run acts).running = false :=
  @List.foldlRecOn _ _ (fun u => u.running = false) acts step v hrun fun u hu a _ => stopped_step u a hu

theorem responses_run (acts : List Act) (v : Service) : v.responses <+: (v.run acts).responses :=
  @List.foldlRecOn _ _ (fun u => v.responses <+: u.responses) acts step v
    List.prefix_rfl fun u hu a _ => hu.trans (responses_step u a)

/-- After the end the status stays. -/
theorem status_run (acts : List Act) (hrun : v.running = false) : (v.run acts).status = v.status := by
  have h : (v.run acts).running = false ∧ (v.run acts).status = v.status :=
    @List.foldlRecOn _ _ (fun u => u.running = false ∧ u.status = v.status) acts step v ⟨hrun, rfl⟩
      fun u hu a _ => ⟨stopped_step u a hu.1,
        ((status_step u a).2 (u.not_processes_of_stopped a hu.1)).trans hu.2⟩
  exact h.2

theorem handled_of_stopped (acts : List Act) : ∀ {v : Service}, v.running = false →
    v.handled acts = [] := by
  induction acts with
  | nil => exact fun _ => rfl
  | cons a acts ih =>
    intro v hrun
    have hnothing : v.handling a = [] := by
      cases a <;> simp [handling, hrun]
    rw [handled, hnothing, ih (v.stopped_step a hrun), List.nil_append]

/-- What is queued is handled in that order, before all that comes later. -/
theorem queue_run (acts : List Act) : ∀ v : Service, ∃ new rest,
    v.queue ++ new = v.handled acts ++ rest ∧
      ((v.run acts).running = true → rest = (v.run acts).queue) := by
  induction acts with
  | nil => exact fun v => ⟨[], v.queue, by simp [handled], fun _ => rfl⟩
  | cons a acts ih =>
    intro v
    obtain ⟨new, rest, hqueue, hrest⟩ := v.queue_step a
    rw [handled, run_cons]
    cases hrun : (v.step a).running with
    | false =>
      rw [handled_of_stopped acts hrun, List.append_nil]
      exact ⟨new, rest, hqueue, fun h => absurd ((stopped_run acts hrun).symm.trans h) Bool.noConfusion⟩
    | true =>
      obtain ⟨new', rest', hqueue', hrest'⟩ := ih (v.step a)
      refine ⟨new ++ new', rest', ?_, hrest'⟩
      rw [← List.append_assoc, hqueue, hrest hrun, List.append_assoc, hqueue', List.append_assoc]

/-- An answer is found under its number. -/
theorem Accounted.response?_of_mem (ha : v.Accounted) {t : Nat} {r : Response}
    (h : (t, r) ∈ v.responses) : v.response? t = some r := by
  have hnodup : (v.responses.map (·.1)).Nodup :=
    (List.nodup_append.mp (ha.tickets.nodup_iff.mpr (List.nodup_range'))).1
  unfold response?
  have hfind : v.responses.find? (fun p => p.1 == t) = some (t, r) := by
    cases hf : v.responses.find? (fun p => p.1 == t) with
    | none => exact absurd (List.find?_eq_none.mp hf _ h) (by simp)
    | some p =>
      have hp : p.1 = t := by simpa using List.find?_some hf
      exact congrArg some (List.inj_on_of_nodup_map hnodup (List.mem_of_find?_eq_some hf) h hp)
  rw [hfind]
  rfl

end run

/-! ## Nobody waits for ever -/

section drained

/-- There is room in the queue of a service that runs. -/
def Roomy (v : Service) : Prop := v.running = true → 0 < v.station.capacity

/-- Taking an item, or letting somebody in, makes it less. -/
def load (v : Service) : Nat := 2 * v.queue.length + 3 * v.waiting.length

theorem roomy_step (v : Service) (a : Act) (h : v.Roomy) : (v.step a).Roomy := by
  rcases v.step_cases a with ⟨s, w, haround, hgains⟩ | ⟨item, rest, -, hrun, -, heq⟩
  · intro hrun
    rw [hgains.station]
    have hroom := h (hgains.running.symm.trans hrun)
    cases haround with
    | still _ => exact hroom
    | take _ => exact (Station.room_step v.station .take).symm ▸ hroom
    | ring => exact hroom
    | happen happening =>
      show 0 < (v.station.step (.happen happening)).capacity
      rwa [Station.room_step]
  · rw [heq]
    by_cases he : item.event = .shutdown
    · rw [dispatch_shutdown he]
      exact nofun
    · rw [dispatch_of_ne he]
      intro _
      show 0 < (v.station.step (.event item.event)).capacity
      rw [Station.room_step]
      exact h hrun

theorem load_seat {v v' : Service} {k : Nat} (h : v.seat? k = some v') : v'.load < v.load := by
  unfold seat? at h
  split at h
  · obtain ⟨item, hitem, rfl⟩ := Option.map_eq_some_iff.mp h
    obtain ⟨hk, -⟩ := List.getElem?_eq_some_iff.mp hitem
    obtain ⟨new, heq⟩ := enqueue_eq { v with waiting := v.waiting.eraseIdx k } item
    rw [heq]
    simp only [load, List.length_append, List.length_singleton, List.length_eraseIdx_of_lt hk]
    omega
  · cases h

theorem load_seatUpTo : ∀ (n : Nat) (v : Service), (seatUpTo n v).load ≤ v.load
  | 0, v => Nat.le_refl _
  | n + 1, v => by
    unfold seatUpTo
    cases h : v.seat? 0 with
    | none => exact Nat.le_refl _
    | some u => exact Nat.le_trans (load_seatUpTo n u) (Nat.le_of_lt (load_seat h))

theorem load_letIn {v : Service} (hroom : 0 < v.station.capacity) (hq : v.queue = [])
    (hw : v.waiting ≠ []) : v.letIn.load < v.load := by
  obtain ⟨item, rest, hwait⟩ := List.exists_cons_of_ne_nil hw
  obtain ⟨n, hn⟩ := Nat.exists_eq_add_one_of_ne_zero (Nat.ne_of_gt hroom)
  have hseat : v.seat? 0 = some ({ v with waiting := rest }.enqueue item) := by
    simp [seat?, hq, hroom, hwait]
  unfold letIn
  rw [hn, seatUpTo, hseat]
  exact Nat.lt_of_le_of_lt (load_seatUpTo n _) (load_seat hseat)

/-- As long as items are queued or wait, taking another one makes progress. -/
theorem load_takeEvent {v : Service} (hroom : v.Roomy) (ha : v.Accounted) :
    v.load = 0 ∨ (v.step .takeEvent).load < v.load := by
  by_cases hrun : v.running = true
  · cases hq : v.queue with
    | nil =>
      by_cases hw : v.waiting = []
      · exact .inl (by simp [load, hq, hw])
      · have hstep : v.step .takeEvent = v.letIn := by
          simp [step, takeEvent?, hrun, hq, hw]
        rw [hstep]
        exact .inr (load_letIn (hroom hrun) hq hw)
    | cons item rest =>
      refine .inr ?_
      rw [takeEvent_of_cons hrun hq]
      have hless : 2 * rest.length + 3 * v.waiting.length < v.load := by
        simp only [load, hq, List.length_cons]
        omega
      by_cases he : item.event = .shutdown
      · rw [dispatch_shutdown he]
        exact Nat.zero_lt_of_lt hless
      · rw [dispatch_of_ne he]
        exact hless
  · obtain ⟨hq, hw⟩ := ha.ended (by simpa using hrun)
    exact .inl (by simp [load, hq, hw])

/-- A service that goes on taking items leaves nobody without an answer. -/
theorem unanswered_drained : ∀ (n : Nat) {v : Service}, v.Roomy → v.Accounted → v.load ≤ n →
    (v.run (List.replicate n .takeEvent)).unanswered = []
  | 0, v, _, _, hn => by
    have hq : v.queue = [] := List.length_eq_zero_iff.mp (by unfold load at hn; omega)
    have hw : v.waiting = [] := List.length_eq_zero_iff.mp (by unfold load at hn; omega)
    simp [run, unanswered, hq, hw]
  | n + 1, v, hroom, ha, hn => by
    rw [List.replicate_succ, run_cons]
    refine unanswered_drained n (v.roomy_step _ hroom) (v.accounted_step _ ha) ?_
    rcases load_takeEvent hroom ha with hload | hless
    · have hq : v.queue = [] := List.length_eq_zero_iff.mp (by unfold load at hload; omega)
      have hw : v.waiting = [] := List.length_eq_zero_iff.mp (by unfold load at hload; omega)
      have hstep : v.step .takeEvent = v := by simp [step, takeEvent?, hq, hw]
      rw [hstep, hload]
      exact Nat.zero_le n
    · omega

end drained

/-! ## Listeners -/

/-- The listener calls of the remote input service and of the switches work. -/
def CallsWork (v : Service) : Act → Prop
  | .happen h => (Move.happen h).keepsListener = true ∧ v.station.KeepsSwitch (.happen h)
  | _ => True

/-- While the service runs, its station listens just as it should; after that to nobody, and has no
call that is pending. -/
structure AtEase (v : Service) : Prop where
  tuned : v.running = true → v.station.Tuned
  attentive : v.running = true → v.station.Attentive
  hasListener : v.running = false → v.station.gateway.service.hasListener = false
  listeners : v.running = false → v.station.crossing.listeners = []

section atEase

variable {v : Service}

theorem AtEase.gains {v' : Service} (h : v.AtEase) (hg : v.Gains v') : v'.AtEase := by
  obtain ⟨htuned, hattentive, hlistener, hlisteners⟩ := h
  constructor
  all_goals
    rw [hg.station, hg.running]
    assumption

theorem AtEase.of_running (hrun : v.running = true) (ht : v.station.Tuned) (ha : v.station.Attentive) :
    v.AtEase :=
  ⟨fun _ => ht, fun _ => ha, fun h => absurd (hrun.symm.trans h) Bool.noConfusion,
    fun h => absurd (hrun.symm.trans h) Bool.noConfusion⟩

/-- A station that is shut down lets go of both listeners. -/
theorem shutdown_listeners {s : Station} (ht : s.Tuned) (ha : s.Attentive) :
    s.shutdown.gateway.service.hasListener = false ∧ s.shutdown.crossing.listeners = [] := by
  let t : Station := { s.cancelCalls with gateway := s.cancelCalls.gateway.unsubscribe.2 }
  have hgateway : t.unwatch.gateway = t.gateway := by
    unfold Station.unwatch
    split <;> rfl
  have hlistener : t.gateway.service.hasListener = false := by
    show s.cancelCalls.gateway.unsubscribe.2.service.hasListener = false
    cases hs : s.gateway.subscribed with
    | true =>
      have hunsub := @Gateway.unsubscribe_eq _ s.cancelCalls.gateway hs ht.unregisters
      rw [hunsub]
    | false =>
      have hunsub : s.cancelCalls.gateway.unsubscribe.2 = s.cancelCalls.gateway := by
        have : s.cancelCalls.gateway.subscribed = false := hs
        simp [Gateway.unsubscribe, this]
      rw [hunsub]
      show s.gateway.service.hasListener = false
      rw [ht.hasListener, ← ht.subscribed, hs]
  refine ⟨?_, ?_⟩
  · show t.unwatch.gateway.service.hasListener = false
    rw [hgateway, hlistener]
  · have hfree : t.unwatch.Attentive := Station.Attentive.unwatch (ha.of_same rfl rfl)
    show t.unwatch.crossing.listeners = []
    rw [hfree.listeners, Station.watched_unwatch]
    rfl

theorem hasListener_meet (s : Station) (h : Happening) :
    (s.meet h).gateway.service.hasListener = s.gateway.service.hasListener := by
  cases h with
  | relay e =>
    show (s.gateway.emitRelay e).2.service.hasListener = _
    unfold Gateway.emitRelay
    split <;> rfl
  | flip id on =>
    show (s.flip id on).gateway.service.hasListener = _
    rw [Station.gateway_flip]
  | _ => rfl

theorem listeners_meet {s : Station} {h : Happening} (hk : s.KeepsSwitch (.happen h)) :
    (s.meet h).crossing.listeners = s.crossing.listeners := by
  cases h with
  | crossing c => exact hk.1
  | flip id on =>
    show (s.flip id on).crossing.listeners = _
    rw [Station.crossing_flip]
    rfl
  | _ => rfl

theorem Around.atEase {a : Act} {s : Station} {w : View} (haround : v.Around a s w)
    (ha : v.CallsWork a) (h : v.AtEase) : { v with station := s, status := w }.AtEase := by
  cases haround with
  | still _ => exact h
  | take hp =>
    have ht : (v.station.step .take).Tuned := Station.tuned_step rfl (h.tuned hp.1)
    have hs : (v.station.step .take).Attentive :=
      Station.attentive_step trivial (h.attentive hp.1)
    exact .of_running hp.1 ht hs
  | ring =>
    exact ⟨fun hrun => (h.tuned hrun).setTracker _, fun hrun => (h.attentive hrun).of_same rfl rfl,
      h.hasListener, h.listeners⟩
  | happen happening =>
    refine ⟨fun hrun => ?_, fun hrun => ?_, fun hrun => ?_, fun hrun => ?_⟩
    · exact (Station.tuned_step ha.1 (h.tuned hrun)).of_same rfl rfl rfl
    · exact (Station.attentive_step ha.2 (h.attentive hrun)).of_same rfl rfl
    · exact (hasListener_meet _ _).trans (h.hasListener hrun)
    · exact (listeners_meet ha.2).trans (h.listeners hrun)

/-- The listeners are as they should be as long as the listener calls work. -/
theorem atEase_step {a : Act} (ha : v.CallsWork a) (h : v.AtEase) : (v.step a).AtEase := by
  rcases v.step_cases a with ⟨s, w, haround, hgains⟩ | ⟨item, rest, -, hrun, -, heq⟩
  · exact (haround.atEase ha h).gains hgains
  · rw [heq]
    by_cases he : item.event = .shutdown
    · rw [dispatch_shutdown he]
      obtain ⟨hl, hls⟩ := shutdown_listeners (h.tuned hrun) (h.attentive hrun)
      exact ⟨nofun, nofun, fun _ => hl, fun _ => hls⟩
    · rw [dispatch_of_ne he]
      have ht : (v.station.step (.event item.event)).Tuned := Station.tuned_step rfl (h.tuned hrun)
      have hs : (v.station.step (.event item.event)).Attentive :=
        Station.attentive_step trivial (h.attentive hrun)
      exact .of_running hrun ht hs

end atEase

/-! ## Answers -/

section create

variable (settings : Settings) (registry : Registry)

theorem accounted_create : (create settings registry).Accounted := ⟨.refl _, fun h => nomatch h⟩

theorem roomy_create : (create settings registry).Roomy := fun _ => Nat.le_max_right _ _

theorem atEase_create : (create settings registry).AtEase :=
  .of_running rfl ((Station.tuned_create settings registry).of_same rfl rfl rfl)
    ((Station.attentive_create settings registry).of_same rfl rfl)

end create

/-- **Every request is answered once.** Items are posted by anyone at any time, and the service takes
items and posts in any order while things happen around it. Then at any moment every item that was ever
posted has been answered once, or its poster waits; after the end nobody waits, and before it the
service only needs to go on taking items. What is queued is handled in that order, before all that
comes later. A request that is taken is answered with what the station's operation gives at that moment,
and what else is taken does to the station what it is for. When a shutdown is taken, the requests
behind it are answered as dropped and those who wait for room as stopped, and so is everything posted
later. After everything that is processed the status is what the station shows, and it changes at no
other time. After the end it never changes and tells of no pending call; and if the listener calls
worked all along, no listener is left. -/
theorem every_request_is_answered_once (settings : Settings) (registry : Registry) (acts : List Act) :
    let start := create settings registry
    let v := start.run acts
    ((v.responses.map (·.1) ++ v.unanswered).Perm (List.range' 1 v.issued) ∧
      (v.running = false → v.unanswered = []) ∧
      (v.run (List.replicate v.load .takeEvent)).unanswered = []) ∧
    (∀ before after, acts = before ++ after → let u := start.run before
      u.responses <+: v.responses ∧ ∃ new rest, u.queue ++ new = u.handled after ++ rest ∧
        (v.running = true → rest = v.queue)) ∧
    (∀ before after, acts = before ++ .takeEvent :: after → let u := start.run before
      ∀ item rest, u.running = true → u.queue = item :: rest →
        (∀ r, item.event = .request r → ∃ answer, v.response? item.ticket = some answer ∧
          u.station.Answers r answer (u.step .takeEvent).station) ∧
        (∀ id, item.event = .deviceOffline id →
          (u.step .takeEvent).station = u.station.peerOffline id) ∧
        (∀ dhid, item.event = .keyboardOnline dhid →
          (u.step .takeEvent).station = u.station.keyboardOnline dhid) ∧
        (∀ sig, item.event = .signal sig → (u.step .takeEvent).station = u.station.hear sig) ∧
        (∀ id on, item.event = .switchChanged id on →
          (u.step .takeEvent).station = u.station.switchChanged id on) ∧
        (item.event = .shutdown →
          (u.step .takeEvent).running = false ∧
            (∀ i ∈ rest, i.event.isRequest = true →
              v.response? i.ticket = some (.unavailable .dropped)) ∧
            ∀ i ∈ u.waiting, v.response? i.ticket = some (.unavailable .stopped))) ∧
    (∀ before e after, acts = before ++ .post e :: after → let u := start.run before
      u.running = false → v.response? (u.post e).1 = some (.unavailable .stopped)) ∧
    (∀ before a after, acts = before ++ a :: after → let u := start.run before
      (u.processes a → (u.step a).status = (u.step a).station.view) ∧
        (¬u.processes a → (u.step a).status = u.status)) ∧
    (v.running = false →
      (∀ more, (v.run more).status = v.status) ∧ v.status.pendingCalls = 0 ∧
        (Along step CallsWork start acts →
          v.station.gateway.service.hasListener = false ∧ v.station.crossing.listeners = [])) := by
  intro start v
  have hstart := accounted_create settings registry
  have haccounted : v.Accounted := accounted_run acts hstart
  have hroomy : v.Roomy := List.foldlRecOn acts step (roomy_create settings registry)
    fun u hu a _ => roomy_step u a hu
  have hsplit {before after : List Act} (h : acts = before ++ after) :
      v = (start.run before).run after := by
    rw [← run_append, ← h]
  -- what has been answered stays answered
  have hanswer {before after : List Act} {a : Act} (h : acts = before ++ a :: after) {t : Nat}
      {r : Response} (hr : (t, r) ∈ ((start.run before).step a).responses) :
      v.response? t = some r := by
    refine haccounted.response?_of_mem ?_
    rw [hsplit h, run_cons]
    exact (responses_run after _).subset hr
  refine ⟨⟨haccounted.tickets, fun hrun => ?_, unanswered_drained _ hroomy haccounted (Nat.le_refl _)⟩,
    ?_, ?_, ?_, fun before a after _ => status_step _ a,
    fun hrun => ⟨fun more => status_run more hrun, ?_, ?_⟩⟩
  · obtain ⟨hq, hw⟩ := haccounted.ended hrun
    simp [unanswered, hq, hw]
  · intro before after h
    rw [hsplit h]
    exact ⟨responses_run after _, queue_run after _⟩
  · intro before after h u item rest hrun hq
    have hstep := takeEvent_of_cons hrun hq
    -- all but a shutdown is for the station
    have hhandled {e : Event} (he : item.event = e) (hne : e ≠ .shutdown) :
        (u.step .takeEvent).station = (u.station.handle e).2 := by
      rw [hstep, dispatch_of_ne (he ▸ hne), he]
    refine ⟨fun r hr => ⟨(u.station.serve r).1, hanswer h ?_, ?_⟩, fun id he => hhandled he nofun,
      fun dhid he => hhandled he nofun, fun sig he => hhandled he nofun,
      fun id on he => hhandled he nofun, fun he => ?_⟩
    · rw [hstep, dispatch_of_ne (hr ▸ nofun), hr]
      exact List.mem_append_right _ (List.mem_singleton.mpr rfl)
    · rw [hhandled hr nofun]
      exact u.station.answers_serve r
    · rw [dispatch_shutdown he] at hstep
      refine ⟨by rw [hstep]; rfl, fun i hi hrequest => hanswer h ?_, fun i hi => hanswer h ?_⟩
      · rw [hstep, responses_finish]
        exact List.mem_append_left _ (List.mem_append_right _
          (List.mem_map_of_mem (List.mem_filter.mpr ⟨hi, hrequest⟩)))
      · rw [hstep, responses_finish]
        exact List.mem_append_right _ (List.mem_map_of_mem hi)
  · intro before e after h u hrun
    refine hanswer h ?_
    show (u.issued + 1, _) ∈ (u.post e).2.responses
    rw [show (u.post e).2 = { u with issued := u.issued + 1 }.respond (u.issued + 1)
      (.unavailable .stopped) by simp [post, hrun]]
    exact List.mem_append_right _ (List.mem_singleton.mpr rfl)
  · have h : v.running = false → v.status.pendingCalls = 0 :=
      List.foldlRecOn (motive := fun u : Service => u.running = false → u.status.pendingCalls = 0)
        acts step (fun h => nomatch h) fun u hu a _ => pendingCalls_step a hu
    exact h hrun
  · intro hwork
    have hease : v.AtEase :=
      hwork.invariant (fun u a ha hu => atEase_step ha hu) (atEase_create settings registry)
    exact ⟨hease.hasListener hrun, hease.listeners hrun⟩

/-- A queue of two items, and a station with one pointer. -/
def lone : Service :=
  create ⟨2, 3000, 0, 300, .center⟩ ⟨⟨"a"⟩, [⟨⟨1⟩, ⟨"m"⟩, ⟨"a"⟩, [], true, false⟩]⟩

/-- The station shares its pointer with "b", and is asked to stop, twice. -/
def stopping : List Act :=
  [.post (.request (.start ⟨"b"⟩ ⟨1⟩)), .takeEvent, .takePost, .takePost, .takePost,
    .post (.request .stop), .post (.request .stop), .takeEvent, .takeEvent]

/-- A shutdown is queued, a request behind it, and another one waits for room. -/
def cut : List Act :=
  [.post .shutdown, .post (.request .stop), .post (.request .stop), .takeEvent]

/-- The first stop is accepted and the second refused. While the stop call is pending, the shutdown cuts
through; after the end one more request is posted, and a switch is flipped. -/
theorem shutdown_cuts_through :
    let u := lone.run stopping
    let acts := (stopping ++ cut) ++ [.post (.request .stop), .happen (.flip ⟨"b"⟩ false)]
    let v := lone.run acts
    (u.status.pendingCalls = 1 ∧ u.station.gateway.service.hasListener = true ∧
      u.station.crossing.watched = [⟨"b"⟩]) ∧
      (v.response? 1 = some .accepted ∧ v.response? 2 = some .accepted ∧
        v.response? 3 = some (.refused .busy) ∧ v.response? 5 = some (.unavailable .dropped) ∧
        v.response? 6 = some (.unavailable .stopped) ∧ v.response? 7 = some (.unavailable .stopped)) ∧
      Along step CallsWork lone acts ∧ v.running = false ∧ v.unanswered = [] ∧
      v.status.pendingCalls = 0 ∧ v.station.gateway.service.hasListener = false ∧
      v.station.crossing.listeners = [] := by
  intro u acts v
  have h := every_request_is_answered_once ⟨2, 3000, 0, 300, .center⟩
    ⟨⟨"a"⟩, [⟨⟨1⟩, ⟨"m"⟩, ⟨"a"⟩, [], true, false⟩]⟩ acts
  have hrun : v.running = false := by decide +kernel
  have hwork : Along step CallsWork lone acts :=
    ⟨trivial, trivial, trivial, trivial, trivial, trivial, trivial, trivial, trivial, trivial, trivial,
      trivial, trivial, trivial, ⟨rfl, trivial⟩, trivial⟩
  obtain ⟨⟨-, hnobody, -⟩, -, htaken, hlate, -, hend⟩ := h
  obtain ⟨-, hpending, hlisteners⟩ := hend hrun
  have hanswered (before after : List Act) (hacts : acts = before ++ .takeEvent :: after) {t : Nat}
      {q : Request} (rest : List Item) {r : Response} {s : Station}
      (hup : (lone.run before).running = true)
      (hq : (lone.run before).queue = ⟨t, .request q⟩ :: rest)
      (hr : (lone.run before).station.Answers q r s) : v.response? t = some r := by
    obtain ⟨r', hr', hdone⟩ := (htaken before after hacts ⟨t, .request q⟩ rest hup hq).1 q rfl
    rwa [(hdone.unique hr).1] at hr'
  have hstart : v.response? 1 = some .accepted :=
    hanswered (stopping.take 1) _ rfl [] (by decide +kernel) (by decide +kernel)
      (.start ⟨"b"⟩ ⟨1⟩ .accepted (by decide +kernel))
  have hstop : v.response? 2 = some .accepted :=
    hanswered (stopping.take 7) _ rfl [⟨3, .request .stop⟩] (by decide +kernel) (by decide +kernel)
      (.stop .accepted (by decide +kernel))
  have hagain : v.response? 3 = some (.refused .busy) :=
    hanswered (stopping.take 8) _ rfl [] (by decide +kernel) (by decide +kernel)
      (.stop (.refused .busy) (by decide +kernel))
  obtain ⟨-, hqueued, hwaiting⟩ := (htaken (stopping ++ cut.take 3) _ rfl ⟨4, .shutdown⟩
    [⟨5, .request .stop⟩] (by decide +kernel) (by decide +kernel)).2.2.2.2.2 rfl
  have hnumber : ((lone.run (stopping ++ cut)).post (.request .stop)).1 = 7 := by decide +kernel
  have hstopped := hlate (stopping ++ cut) (.request .stop) _ rfl (by decide +kernel)
  exact ⟨by decide +kernel, ⟨hstart, hstop, hagain, hqueued _ (List.mem_singleton.mpr rfl) rfl,
    hwaiting ⟨6, .request .stop⟩ (by decide +kernel), hnumber ▸ hstopped⟩, hwork, hrun, hnobody hrun,
    hpending, hlisteners hwork⟩

end Service

end PointerShare
