/-
# Runs of a station

A run is a list of moves. The station's owner hands it an item of the queue,
lets it take the oldest post of its mailbox, or lets it handle a switch change
it heard of; everything else happens around the station: the remote input
service answers as it likes, whether it was asked or not, the clock runs,
people move the cursor and flip switches, devices come and go, peers are told
what was queued for them. `track` is how a bookkeeper follows a run: it keeps a
record of its own, which the station never sees.

Key definitions: `Happening`, `Move`, `Along`, `Station.step`, `Station.run`,
`Station.track`.
Key theorems: `Station.track_invariant`, `Station.run_invariant`.
-/
import PointerShare.Service

namespace PointerShare

/-- What happens around a station without its doing. -/
inductive Happening where
  /-- The remote input service answers, with any reply to any call. -/
  | answer (reply : Reply)
  /-- The service emits a relay event. -/
  | relay (event : RelayEvent)
  /-- The clock runs to `t`, and alarms go off. -/
  | clock (t : Nat)
  /-- From now on the service treats the calls of a kind in some way. -/
  | mood (kind : CallKind) (mood : Mood)
  /-- The service's listener calls fail, or work again. -/
  | listenerFaults (register unregister : Bool)
  | cursor (c : Cursor)
  /-- Somebody flips the switch of `id`. -/
  | flip (id : NetworkId) (on : Bool)
  | crossing (c : CrossingSwitch Unit)
  | devices (ds : List InputDevice)
  | peers (p : Peers)
  /-- The outbox works, up to a time or to the end of its queue. -/
  | work (limit : Option Nat)
  | observe (tag : String) (observer : Observer)
  | stopReading (tag : String)
  deriving DecidableEq, Repr

/-- One move of a run. -/
inductive Move where
  /-- The station handles an item of the queue. -/
  | event (e : Event)
  /-- It takes the oldest post of its mailbox. -/
  | take
  /-- It handles the oldest switch change that it heard of. -/
  | change
  | happen (h : Happening)
  deriving DecidableEq, Repr

section Along

variable {σ μ : Type} {step : σ → μ → σ} {Q : σ → μ → Prop}

/-- Every move of a run satisfies `Q` in the state in which it is made. -/
def Along (step : σ → μ → σ) (Q : σ → μ → Prop) : σ → List μ → Prop
  | _, [] => True
  | s, m :: ms => Q s m ∧ Along step Q (step s m) ms

instance Along.decidable [∀ s m, Decidable (Q s m)] : ∀ s ms, Decidable (Along step Q s ms)
  | _, [] => .isTrue trivial
  | s, m :: ms =>
    have := Along.decidable (step s m) ms
    inferInstanceAs (Decidable (Q s m ∧ Along step Q (step s m) ms))

/-- What every such move keeps, the run keeps. -/
theorem Along.invariant {P : σ → Prop} (hstep : ∀ s m, Q s m → P s → P (step s m)) {ms : List μ} :
    ∀ {s : σ}, Along step Q s ms → P s → P (ms.foldl step s) := by
  induction ms with
  | nil => exact fun _ h => h
  | cons m ms ih => exact fun hq h => ih hq.2 (hstep _ m hq.1 h)

theorem Along.and {R : σ → μ → Prop} {ms : List μ} :
    ∀ {s : σ}, Along step Q s ms → Along step R s ms →
      Along step (fun s m => Q s m ∧ R s m) s ms := by
  induction ms with
  | nil => exact fun _ _ => trivial
  | cons m ms ih => exact fun hq hr => ⟨⟨hq.1, hr.1⟩, ih hq.2 hr.2⟩

theorem Along.imp {R : σ → μ → Prop} (h : ∀ s m, Q s m → R s m) {ms : List μ} :
    ∀ {s : σ}, Along step Q s ms → Along step R s ms := by
  induction ms with
  | nil => exact fun _ => trivial
  | cons m ms ih => exact fun hq => ⟨h _ m hq.1, ih hq.2⟩

theorem along_append {ms ms' : List μ} :
    ∀ {s : σ}, Along step Q s (ms ++ ms') ↔
      Along step Q s ms ∧ Along step Q (ms.foldl step s) ms' := by
  induction ms with
  | nil => exact fun {_} => ⟨fun h => ⟨trivial, h⟩, fun h => h.2⟩
  | cons m ms ih => exact fun {s} => (and_congr_right fun _ => ih).trans and_assoc.symm

end Along

/-- The devices in the registry stay the same. -/
def Move.keepsDevices : Move → Bool
  | .happen (.devices _) => false
  | _ => true

namespace Station

/-- The station after something happened around it. -/
def meet (s : Station) : Happening → Station
  | .answer r => { s with gateway := s.gateway.post (.reply r) }
  | .relay e => { s with gateway := (s.gateway.emitRelay e).2 }
  | .clock t => s.setMailbox (s.gateway.mailbox.advanceTo t)
  | .mood k m => { s with gateway := { s.gateway with service := s.gateway.service.setMood k m } }
  | .listenerFaults r u =>
    { s with gateway := { s.gateway with
      service := { s.gateway.service with registerFails := r, unregisterFails := u } } }
  | .cursor c => { s with cursor := c }
  | .flip id on => s.flip id on
  | .crossing c => { s with crossing := c }
  | .devices ds => { s with registry := { s.registry with devices := ds } }
  | .peers p => { s with outbox := { s.outbox with peers := p } }
  | .work limit => { s with outbox := (s.outbox.work limit s.now).2 }
  | .observe tag o => { s with notifier := (s.notifier.subscribe tag o).2 }
  | .stopReading tag => { s with notifier := s.notifier.stopReading tag }

/-- The station after a move. Without a post in the mailbox there is nothing to take. -/
def step (s : Station) : Move → Station
  | .event e => (s.handle e).2
  | .take => ((clockwork.feed? s).map (·.2)).getD s
  | .change => s.nextChange.2
  | .happen h => s.meet h

/-- The station after all moves. -/
def run (s : Station) (ms : List Move) : Station := ms.foldl step s

/-- A bookkeeper's record of a run that began with the record `a`. -/
def track {α : Type} (note : α → Station → Move → α) : α → Station → List Move → α
  | a, _, [] => a
  | a, s, m :: ms => track note (note a s m) (s.step m) ms

section track

variable {α : Type} (note : α → Station → Move → α)

/-- What holds of a station and a record, and is kept by every move of some sort, is kept by every
run of such moves. -/
theorem track_invariant {P : Station → α → Prop} {Q : Move → Prop}
    (hstep : ∀ s a m, Q m → P s a → P (s.step m) (note a s m)) :
    ∀ (ms : List Move) (_ : ∀ m ∈ ms, Q m) (s : Station) (a : α), P s a →
      P (s.run ms) (track note a s ms)
  | [], _, _, _, h => h
  | m :: ms, hq, s, a, h =>
    track_invariant hstep ms (fun m' hm' => hq m' (List.mem_cons_of_mem _ hm')) (s.step m) _
      (hstep s a m (hq m List.mem_cons_self) h)

end track

theorem run_cons (s : Station) (m : Move) (ms : List Move) : s.run (m :: ms) = (s.step m).run ms :=
  rfl

theorem run_append (s : Station) (before after : List Move) :
    s.run (before ++ after) = (s.run before).run after :=
  List.foldl_append

/-- What every move keeps, every run keeps. -/
theorem run_invariant {P : Station → Prop} (hstep : ∀ s m, P s → P (s.step m)) (ms : List Move)
    {s : Station} (h : P s) : P (s.run ms) :=
  track_invariant (P := fun s (_ : Unit) => P s) (Q := fun _ => True) (fun _ _ _ => ())
    (fun s _ m _ h => hstep s m h) ms (fun _ _ => trivial) s () h

theorem step_take_of_empty {s : Station} (h : s.gateway.mailbox.queue = []) : s.step .take = s := by
  simp [step, Clockwork.feed?, clockwork, Mailbox.take?, h]

theorem step_take_of_cons {s : Station} {p : Post} {ps : List Post}
    (h : s.gateway.mailbox.queue = p :: ps) :
    s.step .take = (s.setMailbox { s.gateway.mailbox with queue := ps }).receive p := by
  simp [step, Clockwork.feed?, clockwork, Mailbox.take?, h]

end Station

end PointerShare
