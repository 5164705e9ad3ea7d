/-
# The errand of a station

A start or stop that a station accepted is its errand until it is closed. A
bookkeeper writes the errand down when it is accepted, with what the station
was then, and crosses it out when the guard is idle again. A station never has
more than one errand. `Errand.Waits` says which calls are steps of an errand.

Key definitions: `Errand`, `Errand.Waits`, `Station.begins`,
`Station.errandAfter`, `Station.errand`.
Key theorems: `Errand.Waits.stop_of_outbound`, `Station.planStart_cases`.
-/
import PointerShare.Proofs.EveryMove

namespace PointerShare

/-- A start or stop that was accepted, with the role the station had then. -/
inductive Errand where
  /-- A start; the cursor was at `place`. -/
  | start (role : Role) (place : Location) (target : NetworkId) (device : DeviceId)
  /-- The end of the session with `peer`. -/
  | stop (role : Role) (peer : NetworkId)
  deriving DecidableEq, Repr

namespace Errand

def role : Errand → Role
  | start r .. => r
  | stop r _ => r

def guard : Errand → Guard
  | start .. => .starting
  | stop .. => .stopping

/-- The cursor was at `l` when the errand was accepted, if that is of interest. -/
def Placed (l : Location) : Errand → Prop
  | start _ place .. => place = l
  | stop .. => True

/-- What a call of some kind may be to an errand: one of its steps. -/
inductive Waits : Errand → CallKind → Continuation → Prop
  | prepared (role : Role) (place : Location) (plan : StartPlan) (ho : role.isOutbound = false)
      (hr : plan.relays = !role.isFree) :
      Waits (.start role place plan.target plan.device) .prepare (.prepared plan)
  | started (role : Role) (place : Location) (plan : StartPlan) (ho : role.isOutbound = false)
      (hr : plan.relays = !role.isFree) :
      Waits (.start role place plan.target plan.device) .start (.started plan)
  | originStopped (shared : Dhid) (place : Location) (plan : StartPlan) :
      Waits (.start (.inbound shared) place plan.target plan.device) .stop (.originStopped plan)
  | cameBack (shared : Dhid) (place : Location) (target : NetworkId) (device : DeviceId) :
      Waits (.start (.inbound shared) place target device) .stop (.cameBack target device)
  | stopped (role : Role) (peer : NetworkId) (hr : role.isFree = false) :
      Waits (.stop role peer) .stop (.stopped peer)

theorem isBusy_guard (e : Errand) : e.guard.isBusy = true := by cases e <;> rfl

end Errand

namespace Station

/-- The errand that a move begins. -/
def begins (s : Station) : Move → Option Errand
  | .event (.request (.start target device)) =>
    (s.planStart target device).toOption.map fun _ => .start s.role s.cursor.location target device
  | m => (s.stopRoute? m).map fun r => .stop s.role r.peer

/-- What the bookkeeper holds after a move. -/
def errandAfter (e : Option Errand) (s : Station) (m : Move) : Option Errand :=
  if (s.step m).guard.isBusy then (s.begins m).or e else none

/-- What the bookkeeper holds after a run that began without an errand. -/
def errand (s : Station) (ms : List Move) : Option Errand := track errandAfter none s ms

end Station

/-! ### The calls of an errand -/

theorem Errand.Waits.isTransition {e : Errand} {k : CallKind} {next : Continuation}
    (h : e.Waits k next) : next.isTransition = true := by
  cases h <;> rfl

theorem Errand.Waits.of_prepared {e : Errand} {k : CallKind} {plan : StartPlan}
    (h : e.Waits k (.prepared plan)) : ∃ role place,
      e = .start role place plan.target plan.device ∧ role.isOutbound = false ∧
        plan.relays = !role.isFree := by
  cases h with
  | prepared role place plan ho hr => exact ⟨role, place, rfl, ho, hr⟩

theorem Errand.Waits.of_started {e : Errand} {k : CallKind} {plan : StartPlan}
    (h : e.Waits k (.started plan)) : ∃ role place,
      e = .start role place plan.target plan.device ∧ role.isOutbound = false ∧
        plan.relays = !role.isFree := by
  cases h with
  | started role place plan ho hr => exact ⟨role, place, rfl, ho, hr⟩

theorem isTransition_of_last? {next : Continuation} {target : NetworkId} {device : DeviceId}
    (h : next.last? = some (target, device)) : next.isTransition = true := by
  cases next <;> first | rfl | cases h

theorem isTransition_of_leg? {next : Continuation} {target : NetworkId} {device : DeviceId}
    (h : next.leg? = some (target, device)) : next.isTransition = true := by
  cases next <;> first | rfl | cases h

/-- The errand of an outbound station is a stop. -/
theorem Errand.Waits.stop_of_outbound {e : Errand} {k : CallKind} {next : Continuation}
    (h : e.Waits k next) (ho : e.role.isOutbound = true) :
    ∃ peer, e = .stop e.role peer ∧ k = .stop ∧ next = .stopped peer := by
  cases h with
  | prepared role place plan hf _ => simp [Errand.role, hf] at ho
  | started role place plan hf _ => simp [Errand.role, hf] at ho
  | originStopped shared place plan => cases ho
  | cameBack shared place target device => cases ho
  | stopped role peer _ => exact ⟨peer, rfl, rfl, rfl⟩

theorem Errand.Waits.of_last? {e : Errand} {k : CallKind} {next : Continuation} (h : e.Waits k next)
    {target : NetworkId} {device : DeviceId} (hn : next.last? = some (target, device)) :
    ∃ role place, e = .start role place target device ∧ role.isOutbound = false := by
  cases h with
  | prepared => cases hn
  | started role place plan ho _ =>
    have hn' : (if plan.relays then none else some (plan.target, plan.device)) =
        some (target, device) := hn
    cases hr : plan.relays with
    | true => rw [hr] at hn'; cases hn'
    | false =>
      rw [hr] at hn'
      cases hn'
      exact ⟨role, place, rfl, ho⟩
  | originStopped shared place plan => cases hn; exact ⟨_, place, rfl, rfl⟩
  | cameBack shared place target device => cases hn; exact ⟨_, place, rfl, rfl⟩
  | stopped => cases hn

theorem Errand.Waits.of_leg? {e : Errand} {k : CallKind} {next : Continuation} (h : e.Waits k next)
    {target : NetworkId} {device : DeviceId} (hn : next.leg? = some (target, device)) :
    ∃ role place, e = .start role place target device ∧ role.isOutbound = false := by
  cases h with
  | prepared => cases hn
  | started role place plan ho _ => cases hn; exact ⟨role, place, rfl, ho⟩
  | originStopped => cases hn
  | cameBack shared place target device => cases hn; exact ⟨_, place, rfl, rfl⟩
  | stopped => cases hn

theorem Errand.Waits.of_originStopped {e : Errand} {k : CallKind} {plan : StartPlan}
    (h : e.Waits k (.originStopped plan)) :
    ∃ shared place, e = .start (.inbound shared) place plan.target plan.device := by
  cases h with
  | originStopped shared place plan => exact ⟨shared, place, rfl⟩

theorem Errand.Waits.of_stopped {e : Errand} {k : CallKind} {peer : NetworkId}
    (h : e.Waits k (.stopped peer)) : ∃ role, e = .stop role peer ∧ role.isFree = false := by
  cases h with
  | stopped role peer hr => exact ⟨role, rfl, hr⟩

/-- What a stop waits for is its own call. -/
theorem Errand.Waits.of_stop {role : Role} {peer : NetworkId} {k : CallKind} {next : Continuation}
    (h : (Errand.stop role peer).Waits k next) : next = .stopped peer ∧ role.isFree = false := by
  cases h with
  | stopped _ _ hr => exact ⟨rfl, hr⟩

theorem Errand.Waits.kind_of_prepared {e : Errand} {k : CallKind} {plan : StartPlan}
    (h : e.Waits k (.prepared plan)) : k = .prepare := by
  cases h
  rfl

/-- The last call of a start that a free station accepted starts the devices. -/
theorem Errand.Waits.started_of_free {e : Errand} {k : CallKind} {next : Continuation}
    (h : e.Waits k next) (hr : e.role = .free) {target : NetworkId} {device : DeviceId}
    (hn : next.last? = some (target, device)) : k = .start ∧ ∃ plan, next = .started plan := by
  cases h with
  | started role place plan _ _ => exact ⟨rfl, plan, rfl⟩
  | originStopped => cases hr
  | cameBack => cases hr
  | prepared => cases hn
  | stopped => cases hn

/-! ### What a move begins -/

namespace Station

theorem planStop_of_stopRoute? {s : Station} {m : Move} {r : StopRoute}
    (h : s.stopRoute? m = some r) : s.planStop = .ok r := by
  have hok {x : Except Refusal StopRoute} (hx : x.toOption = some r) : x = .ok r := by
    cases x <;> simp_all [Except.toOption]
  unfold stopRoute? at h
  split at h
  · exact hok h
  · split at h
    · cases h
    · exact hok h
  · split at h
    · cases h
    · exact hok h
  · split at h
    · cases h
    · exact hok h
  · split at h
    · cases h
    · split at h
      · cases h
      · exact hok h
  · cases h

theorem begins_of_stopRoute? {s : Station} {m : Move} {r : StopRoute} (h : s.stopRoute? m = some r) :
    s.begins m = some (.stop s.role r.peer) := by
  unfold begins
  split
  · cases h
  · rw [h]
    rfl

theorem begins_of_rest {s : Station} {m : Move} (hstart : s.startRoute? m = none)
    (hstop : s.stopRoute? m = none) : s.begins m = none := by
  unfold begins
  split
  · rw [Option.map_eq_none_iff]
    exact hstart
  · rw [hstop]
    rfl

theorem begins_of_planStart {s : Station} {target : NetworkId} {device : DeviceId}
    {route : StartRoute} (h : s.planStart target device = .ok route) :
    s.begins (.event (.request (.start target device))) =
      some (.start s.role s.cursor.location target device) := by
  simp [begins, h, Except.toOption]

theorem role_of_planStop {s : Station} {r : StopRoute} (h : s.planStop = .ok r) :
    s.role.isFree = false := by
  unfold planStop at h
  split at h
  · cases h
  · split at h
    · cases h
    · rename_i hr
      rw [hr]
      rfl
    · rename_i hr
      rw [hr]
      rfl

/-- How a start that is accepted goes on: what is shared is the station's own, or is consumed and
goes back to its host, or on. -/
theorem planStart_cases {s : Station} {target : NetworkId} {device : DeviceId} {route : StartRoute}
    (h : s.planStart target device = .ok route) :
    (s.role = .free ∧ ∃ src, s.registry.originOf? device = some src ∧
        route = .share ⟨target, device, src, [], false⟩) ∨
      ∃ shared origin, s.role = .inbound shared ∧ s.originOf? shared = some origin ∧
        (target = origin ∧ route = .comeBack ⟨target, device, origin, s.dhidsOfShared shared, false⟩ ∨
          target ≠ origin ∧ route = .relay ⟨target, device, origin, [], true⟩) := by
  unfold planStart at h
  split at h
  · cases h
  split at h
  · cases h
  split at h
  · rename_i hr
    unfold planShare at h
    cases hc : s.checkTarget target with
    | error e => rw [hc] at h; cases h
    | ok _ =>
      rw [hc] at h
      cases ho : s.registry.originOf? device with
      | none =>
        rw [ho] at h
        cases h
      | some src =>
        simp only [ho] at h
        exact .inl ⟨hr, src, rfl, (Except.ok.inj h).symm⟩
  · rename_i shared hr
    unfold planHandOn at h
    cases hc : s.checkTarget target with
    | error e => rw [hc] at h; cases h
    | ok _ =>
      rw [hc] at h
      cases ho : s.originOf? shared with
      | none =>
        rw [ho] at h
        cases h
      | some origin =>
        simp only [ho] at h
        refine .inr ⟨shared, origin, hr, ho, ?_⟩
        by_cases ht : target = origin
        · exact .inl ⟨ht, Except.ok.inj (h.symm.trans (if_pos ht))⟩
        · exact .inr ⟨ht, Except.ok.inj (h.symm.trans (if_neg ht))⟩
  · cases h

theorem planStart_plan {s : Station} {target : NetworkId} {device : DeviceId} {route : StartRoute}
    {plan : StartPlan} (h : s.planStart target device = .ok route)
    (hr : route = .share plan ∨ route = .relay plan) :
    plan.target = target ∧ plan.device = device ∧ s.role.isOutbound = false ∧
      plan.relays = !s.role.isFree := by
  rcases planStart_cases h with ⟨hf, src, -, rfl⟩ | ⟨shared, origin, hi, -, ⟨-, rfl⟩ | ⟨-, rfl⟩⟩
  · rcases hr with hr | hr <;> cases hr
    simp [hf, Role.isOutbound, Role.isFree]
  · rcases hr with hr | hr <;> cases hr
  · rcases hr with hr | hr <;> cases hr
    simp [hi, Role.isOutbound, Role.isFree]

theorem planStart_comeBack {s : Station} {target : NetworkId} {device : DeviceId} {plan : StartPlan}
    (h : s.planStart target device = .ok (.comeBack plan)) :
    plan.target = target ∧ plan.device = device ∧ ∃ shared, s.role = .inbound shared := by
  rcases planStart_cases h with ⟨_, _, -, hr⟩ | ⟨shared, origin, hrole, -, ⟨-, hr⟩ | ⟨-, hr⟩⟩
  · cases hr
  · cases hr
    exact ⟨rfl, rfl, shared, hrole⟩
  · cases hr

end Station

end PointerShare
