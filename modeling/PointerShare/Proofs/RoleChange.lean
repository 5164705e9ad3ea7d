/-
# How a role changes

The role of a station changes in the few ways that are listed here, each with
what brings it about: the success of an errand that was accepted in the old
role, what a peer says that announced itself or takes part in the session, or
that the other end of the session is gone. While a station has an errand its
role is the one it had when it accepted the errand, whatever else happens; so
the end of a start may look at the role of the moment.

Key definition: `RoleChange`.
Key theorems: `Station.roleChange_turn`, `Station.role_table`.
-/
import PointerShare.Proofs.Phase

namespace PointerShare

/-- The ways in which a move changes the role of `s`, with the errand that is open; the last
argument is the role after the move. -/
inductive RoleChange (s : Station) : Option Errand → Move → Role → Prop
  /-- A start that was accepted while free went well. -/
  | shares (place : Location) (target : NetworkId) (device : DeviceId) (call : Resolved Continuation)
      (hr : s.role = .free) (hc : s.ending? = some call) (ho : call.outcome = .succeeded)
      (hn : call.completion.last? = some (target, device)) :
      RoleChange s (some (.start .free place target device)) .take
        (.outbound ((s.registry.dhidOf? device).getD .empty))
  /-- A start that was accepted while inbound went well: the pointer came back or went on. -/
  | handsOn (shared : Dhid) (place : Location) (target : NetworkId) (device : DeviceId)
      (call : Resolved Continuation) (hr : s.role = .inbound shared) (hc : s.ending? = some call)
      (ho : call.outcome = .succeeded) (hn : call.completion.last? = some (target, device)) :
      RoleChange s (some (.start (.inbound shared) place target device)) .take .free
  /-- A stop went well. -/
  | leaves (peer : NetworkId) (call : Resolved Continuation) (hr : s.role.isFree = false)
      (hc : s.ending? = some call) (ho : call.outcome = .succeeded)
      (hn : call.completion = .stopped peer) :
      RoleChange s (some (.stop s.role peer)) .take .free
  /-- A peer shares its pointer. -/
  | consumes (p : NetworkId) (dhid : Dhid) (l : Location)
      (hp : s.announcer = some p ∨ s.participates p = true) (hr : s.role.isOutbound = false) :
      RoleChange s none (.event (.signal (.startResult p true dhid l))) (.inbound dhid)
  /-- The station's own pointer comes back. -/
  | getsBack (p : NetworkId) (dhid : Dhid) (l : Location)
      (hp : s.announcer = some p ∨ s.participates p = true) (hr : s.role.isOutbound = true) :
      RoleChange s none (.event (.signal (.startResult p true dhid l))) .free
  /-- A peer ended the session. -/
  | isLeft (p : NetworkId) (hp : s.participates p = true) :
      RoleChange s none (.event (.signal (.stopResult p true))) .free
  /-- The other end of the session left the network. -/
  | resets (e : Option Errand) (id : NetworkId) (hp : s.participates id = true) :
      RoleChange s e (.event (.deviceOffline id)) .free

namespace Control

@[simp] theorem role_released (c : Control) (p : NetworkId) : (c.released p).role = c.role := by
  unfold released
  split <;> rfl

@[simp] theorem registry_released (c : Control) (p : NetworkId) :
    (c.released p).registry = c.registry := by
  unfold released
  split <;> rfl

@[simp] theorem registry_unprepare (c : Control) : c.unprepare.registry = c.registry := by
  unfold unprepare
  split <;> rfl

@[simp] theorem role_ended (c : Control) : c.ended.role = .free := role_unprepare _

@[simp] theorem registry_ended (c : Control) : c.ended.registry = c.registry := registry_unprepare _

end Control

/-- Only a free station comes to share. -/
theorem RoleChange.free_of_outbound {s : Station} {e : Option Errand} {m : Move} {d : Dhid}
    (h : RoleChange s e m (.outbound d)) : s.role = .free := by
  cases h with
  | shares _ _ _ _ hr _ _ _ => exact hr

/-- No outbound station comes to consume. -/
theorem RoleChange.not_outbound_of_inbound {s : Station} {e : Option Errand} {m : Move} {d : Dhid}
    (h : RoleChange s e m (.inbound d)) : s.role.isOutbound = false := by
  cases h with
  | consumes _ _ _ _ hr => exact hr

theorem Shares.same {c c' : Control} {plan : StartPlan} {ns : List Notice} {ds : List Dispatch}
    (h : Shares c plan c' ns ds) : c'.role = c.role ∧ c'.registry = c.registry := by
  cases h <;> exact ⟨rfl, rfl⟩

theorem succeeded_of_reason? {o : Outcome} (h : o.reason? = none) : o = .succeeded := by
  cases o <;> first | rfl | cases h

namespace Station

variable {s : Station} {c : Control} {ns : List Notice} {ds : List Dispatch} {e : Option Errand}

/-- A start goes well in the role in which it was accepted. -/
theorem start_of_last? (h : Phase s.control e) {call : Resolved Continuation}
    (he : Ends s.control call c) {target : NetworkId} {device : DeviceId}
    (hn : call.completion.last? = some (target, device)) :
    ∃ place, e = some (.start s.role place target device) ∧ s.role.isOutbound = false := by
  obtain ⟨role, place, rfl, ho, hb⟩ := h.ends_last he hn
  obtain rfl : s.role = role := he.same.role.symm.trans hb.role
  exact ⟨place, rfl, ho⟩

theorem roleChange_turn {m : Move} (ht : Turn s m c ns ds) (h : Phase s.control e) :
    c.role = s.role ∨ RoleChange s e m c.role := by
  cases ht with
  | sharesAtOnce _ _ _ _ _ _ _ hs => exact .inl hs.same.1
  | startRejected p _ _ _ _ => exact .inl (Control.role_released _ p)
  | consumes p dhid l hg hp hr =>
    obtain ⟨rfl, -⟩ := h.released hg
    exact .inr (.consumes p dhid l hp hr)
  | getsBack p dhid l hg hp hr =>
    obtain ⟨rfl, -⟩ := h.released hg
    rw [Control.role_ended]
    exact .inr (.getsBack p dhid l hp hr)
  | stopDropped p _ _ _ => exact .inl (Control.role_released _ p)
  | stopRejected p _ _ => exact .inl (Control.role_released _ p)
  | isLeft p hg hp =>
    obtain ⟨rfl, -⟩ := h.released hg
    rw [Control.role_ended]
    exact .inr (.isLeft p hp)
  | resets id hp => exact .inr (.resets e id hp)
  | loses id _ =>
    rw [Control.role_released]
    split <;> exact .inl rfl
  | endsAside _ _ he _ => exact .inl he.same.role
  | opens _ _ _ he _ _ hs => exact .inl (hs.same.1.trans he.same.role)
  | opensNot _ _ _ _ he _ _ => exact .inl he.same.role
  | stopsOrigin _ _ _ he _ _ _ => exact .inl he.same.role
  | shares call target device hc he hn ho hr =>
    -- the role of the moment is the role at acceptance, by the phase
    obtain ⟨place, rfl, -⟩ := start_of_last? h he hn
    rw [hr]
    exact .inr (.shares place target device call hr hc (succeeded_of_reason? ho) hn)
  | handsOn call target device shared hc he hn ho hr =>
    obtain ⟨place, rfl, -⟩ := start_of_last? h he hn
    rw [hr]
    exact .inr (.handsOn shared place target device call hr hc (succeeded_of_reason? ho) hn)
  | stays _ _ _ _ he _ _ _ => exact .inl he.same.role
  | startFails _ _ _ _ _ he _ _ => exact .inl he.same.role
  | rollsBack _ _ _ _ he _ _ => exact .inl he.same.role
  | leaves call peer hc he hn ho =>
    obtain ⟨role, rfl, hr, hb⟩ := h.ends_stopped he hn
    rw [Control.role_ended]
    obtain rfl : s.role = role := he.same.role.symm.trans hb.role
    exact .inr (.leaves peer call hr hc (succeeded_of_reason? ho) hn)
  | stopFails _ _ _ _ he _ _ => exact .inl he.same.role
  | _ => exact .inl rfl

theorem registry_turn {m : Move} (ht : Turn s m c ns ds) (hm : m.keepsDevices = true) :
    c.registry = s.registry := by
  cases ht with
  | devices ds => cases hm
  | sharesAtOnce _ _ _ _ _ _ _ hs => exact hs.same.2
  | startRejected p _ _ _ _ => exact Control.registry_released _ p
  | consumes p _ _ _ _ _ => exact Control.registry_released _ p
  | getsBack p _ _ _ _ _ => exact (Control.registry_ended _).trans (Control.registry_released _ p)
  | stopDropped p _ _ _ => exact Control.registry_released _ p
  | stopRejected p _ _ => exact Control.registry_released _ p
  | isLeft p _ _ => exact (Control.registry_ended _).trans (Control.registry_released _ p)
  | loses id _ =>
    rw [Control.registry_released]
    split <;> rfl
  | endsAside _ _ he _ => exact he.same.registry
  | opens _ _ _ he _ _ hs => exact hs.same.2.trans he.same.registry
  | opensNot _ _ _ _ he _ _ => exact he.same.registry
  | stopsOrigin _ _ _ he _ _ _ => exact he.same.registry
  | shares _ _ _ _ he _ _ _ => exact he.same.registry
  | handsOn _ _ _ _ _ he _ _ _ => exact he.same.registry
  | stays _ _ _ _ he _ _ _ => exact he.same.registry
  | startFails _ _ _ _ _ he _ _ => exact he.same.registry
  | rollsBack _ _ _ _ he _ _ => exact he.same.registry
  | leaves _ _ _ he _ _ => exact (Control.registry_ended _).trans he.same.registry
  | stopFails _ _ _ _ he _ _ => exact he.same.registry
  | _ => rfl

theorem registry_run (settings : Settings) (registry : Registry) (ms : List Move)
    (hm : ∀ m ∈ ms, m.keepsDevices = true) :
    ((create settings registry).run ms).registry = registry := by
  have h := track_invariant (P := fun s (_ : Unit) => s.Speaks ∧ s.registry = registry)
    (Q := fun m => m.keepsDevices = true) (fun _ _ _ => ()) (fun s _ m hm h => by
      obtain ⟨c, ns, ds, ht, hs⟩ := s.turns m h.1
      refine ⟨speaks_step m h.1, ?_⟩
      have hreg := congrArg Control.registry hs.control
      exact (hreg.trans (registry_turn ht hm)).trans h.2)
    ms hm (create settings registry) () ⟨speaks_create settings registry, rfl⟩
  exact h.2

/-- **A role changes as the table says.** While an errand is open the role is the one in which it
was accepted; every move leaves the role or changes it in one of the listed ways. In particular no
move leads from consuming to sharing or back or from one shared pointer to another, and when the
last call of a start goes well the station is not outbound. -/
theorem role_table (settings : Settings) (registry : Registry) (ms : List Move) (m : Move) :
    let s := (create settings registry).run ms
    let e := (create settings registry).errand ms
    (∀ e', e = some e' → s.role = e'.role) ∧
    ((s.step m).role = s.role ∨ RoleChange s e m (s.step m).role) ∧
    (∀ d d', s.role = .inbound d → (s.step m).role ≠ .outbound d') ∧
    (∀ d d', s.role = .outbound d → (s.step m).role ≠ .inbound d') ∧
    (∀ d d', s.role = .outbound d → (s.step m).role = .outbound d' → d = d') ∧
    (∀ call target device, s.ending? = some call →
      call.completion.last? = some (target, device) → s.role.isOutbound = false) ∧
    ((∀ m' ∈ ms, m'.keepsDevices = true) → s.registry = registry) := by
  intro s e
  have hw : s.Speaks := speaks_run settings registry ms
  have h : Phase s.control e := phase_run settings registry ms
  obtain ⟨c, ns, ds, ht, hs⟩ := s.turns m hw
  have hrole : (s.step m).role = c.role := congrArg Control.role hs.control
  have hchange := roleChange_turn ht h
  rw [← hrole] at hchange
  refine ⟨fun e' he => ?_, hchange, fun d d' hd hd' => ?_, fun d d' hd hd' => ?_,
    fun d d' hd hd' => ?_, fun call target device hc hn => ?_, registry_run settings registry ms⟩
  · rw [he] at h
    cases h with
    | underway _ _ _ _ _ hr _ _ _ _ => exact hr
  · rcases hchange with hsame | hchange
    · rw [hsame, hd] at hd'
      cases hd'
    · rw [hd'] at hchange
      rw [hchange.free_of_outbound] at hd
      cases hd
  · rcases hchange with hsame | hchange
    · rw [hsame, hd] at hd'
      cases hd'
    · rw [hd'] at hchange
      have ho := hchange.not_outbound_of_inbound
      rw [hd] at ho
      cases ho
  · rcases hchange with hsame | hchange
    · rw [hsame, hd] at hd'
      exact Role.outbound.inj hd'
    · rw [hd'] at hchange
      rw [hchange.free_of_outbound] at hd
      cases hd
  · rcases s.take_cases with ⟨hnone, -⟩ | ⟨call', t, hc', he, -⟩
    · rw [hnone] at hc
      cases hc
    · obtain rfl : call' = call := Option.some.inj (hc'.symm.trans hc)
      obtain ⟨_, -, ho⟩ := start_of_last? h he hn
      exact ho

end Station

end PointerShare
