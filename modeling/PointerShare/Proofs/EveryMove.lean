/-
# Every move goes one of the ways that are listed

The operations of a station are taken one after the other: what each does is
put together from what its parts do, and is found in the list of `Turn`.

Key theorems: `Station.turns`, `Station.speaks_step`.
-/
import PointerShare.Proofs.Turn

namespace PointerShare
namespace Station

/-! ### Stops -/

theorem guard_of_planStop {s : Station} {r : StopRoute} (h : s.planStop = .ok r) :
    s.guard = .idle := by
  unfold planStop at h
  split at h
  · cases h
  · rename_i hb
    exact Guard.isBusy_eq_false_iff.mp (by simpa using hb)

theorem does_stop {s : Station} {r : StopRoute} (h : s.planStop = .ok r) :
    Does s s.stop.2 (s.control.close r) [.of .stop r.peer] [] := by
  have hg := guard_of_planStop h
  simp only [stop, h, hg]
  have h₀ : Does s { s with guard := .stopping } { s.control with guard := .stopping } [] [] :=
    ⟨rfl, rfl, rfl⟩
  exact (h₀.publish .stop r.peer).callStop _ _ _ _

theorem stop_of_refused {s : Station} {e : Refusal} (h : s.planStop = .error e) :
    s.stop = (.error e, s) := by
  simp only [stop, h]

/-- A move that stops after it did something that is no business of a stop. -/
theorem turns_of_stop {s s₁ : Station} {m : Move} (h₁ : Does s s₁ s.control (s.overture m) [])
    (hplan : s₁.planStop = s.planStop) (hroute : s.stopRoute? m = s.planStop.toOption)
    (hstart : s.startRoute? m = none) (hm : m ≠ .take ∧ ∀ id, m ≠ .event (.deviceOffline id))
    (he : s.step m = s₁.stop.2) (hw : s.Speaks) : s.Turns m := by
  cases hp : s.planStop with
  | error e =>
    rw [stop_of_refused (hplan.trans hp)] at he
    exact h₁.turns (.rest m hstart (by rw [hroute, hp]; rfl) (fun h => absurd h hm.1) hm.2) he hw
  | ok r =>
    have h := h₁.trans (does_stop (hplan.trans hp))
    rw [h₁.control] at h
    exact h.turns (.stops m r (by rw [hroute, hp]; rfl)) he hw

theorem turns_of_rest {s s' : Station} {m : Move} (h : Does s s' s.control (s.overture m) [])
    (hstart : s.startRoute? m = none) (hstop : s.stopRoute? m = none)
    (hm : m ≠ .take ∧ ∀ id, m ≠ .event (.deviceOffline id)) (he : s.step m = s') (hw : s.Speaks) :
    s.Turns m :=
  h.turns (.rest m hstart hstop (fun h => absurd h hm.1) hm.2) he hw

theorem turns_enable (s : Station) (on : Bool) (hw : s.Speaks) :
    s.Turns (.event (.request (.enable on))) := by
  have he : s.step (.event (.request (.enable on))) = (s.enable on).2 := rfl
  unfold enable at he
  cases hf : s.crossing.updateFails with
  | true =>
    have hu : s.crossing.update on [s.home] = .error (.crossingSwitch "update") := by
      simp [CrossingSwitch.update, hf]
    rw [hu] at he
    refine turns_of_rest ?_ rfl (by simp [stopRoute?, hf]) (by simp) he hw
    simpa [overture, hf] using Does.refl s
  | false =>
    obtain ⟨crossing, hu⟩ : ∃ crossing, s.crossing.update on [s.home] = .ok crossing := by
      simp [CrossingSwitch.update, hf]
    rw [hu] at he
    have h₁ : Does s
        ({ s with crossing := crossing }.publish (if on then .stateOn else .stateOff) s.home)
        s.control (s.overture (.event (.request (.enable on)))) [] := by
      simp only [overture, hf, Bool.false_eq_true, if_false]
      exact ⟨rfl, rfl, rfl⟩
    by_cases hstop : (!on && !s.role.isFree) = true
    · refine turns_of_stop h₁ rfl ?_ rfl (by simp) (he.trans (if_pos hstop)) hw
      simp only [stopRoute?, hf]
      rw [if_neg (by simpa using hstop)]
    · refine turns_of_rest h₁ rfl ?_ (by simp) (he.trans (if_neg hstop)) hw
      simp only [stopRoute?, hf]
      rw [if_pos (by simpa [Classical.or_iff_not_imp_left] using hstop)]

theorem turns_judge (s : Station) (e : PointerEvent) (hw : s.Speaks) :
    s.Turns (.event (.request (.judge e))) := by
  have he : s.step (.event (.request (.judge e))) = (s.judge e).2 := rfl
  unfold judge at he
  by_cases hb : s.guard.isBusy = true
  · rw [if_pos hb] at he
    refine turns_of_rest (Does.refl s) rfl ?_ (by simp) he hw
    simp [stopRoute?, planStop, hb, Except.toOption]
  rw [if_neg hb] at he
  by_cases hd : s.belongs e.device = true
  · rw [if_pos hd] at he
    exact turns_of_rest (Does.refl s) rfl (by simp [stopRoute?, hd]) (by simp) he hw
  rw [if_neg hd] at he
  by_cases hm : (!s.role.isFree && e.action.isMotion) = true
  · rw [if_pos hm] at he
    refine turns_of_stop (Does.refl s) rfl ?_ rfl (by simp) he hw
    simp only [stopRoute?]
    rw [if_neg (by simpa [hd] using hm)]
  · rw [if_neg hm] at he
    refine turns_of_rest (Does.refl s) rfl ?_ (by simp) he hw
    simp only [stopRoute?]
    rw [if_pos (by simpa [hd, Classical.or_iff_not_imp_left] using hm)]

theorem turns_switchChanged {s t : Station} {m : Move} (id : NetworkId) (on : Bool)
    (ht : t.planStop = s.planStop ∧ t.participates id = s.participates id ∧ Does s t s.control [] [])
    (ho : s.overture m = []) (hstart : s.startRoute? m = none)
    (hroute : s.stopRoute? m = if on || !s.participates id then none else s.planStop.toOption)
    (hm : m ≠ .take ∧ ∀ id, m ≠ .event (.deviceOffline id))
    (he : s.step m = t.switchChanged id on) (hw : s.Speaks) : s.Turns m := by
  obtain ⟨hplan, hp, h₁⟩ := ht
  rw [← ho] at h₁
  unfold switchChanged at he
  rw [hp] at he
  by_cases hc : (!on && s.participates id) = true
  · rw [if_pos hc] at he
    exact turns_of_stop h₁ hplan (by rw [hroute, if_neg (by simpa using hc)]) hstart hm he hw
  · rw [if_neg hc] at he
    have hc' : (on || !s.participates id) = true := by
      simpa [Classical.or_iff_not_imp_left] using hc
    exact turns_of_rest h₁ hstart (by rw [hroute, if_pos hc']) hm he hw

/-! ### Starts -/

theorem does_startShared (s : Station) (plan : StartPlan) :
    ∃ c ns ds, Shares s.control plan c ns ds ∧ Does s (s.startShared plan) c ns ds := by
  unfold startShared
  by_cases hd : s.registry.shareable plan.device = []
  · simp only [hd, List.isEmpty_nil, if_true]
    exact ⟨_, _, _, .lacks hd, s.does_failStart _ _ _⟩
  · have hne : (s.registry.shareable plan.device).isEmpty = false := by simpa using hd
    simp only [hne, Bool.false_eq_true, if_false]
    exact ⟨_, _, _, .calls _ rfl hd, (Does.refl s).callStart _ _ _ _⟩

theorem guard_of_planStart {s : Station} {target : NetworkId} {device : DeviceId}
    {route : StartRoute} (h : s.planStart target device = .ok route) : s.guard = .idle := by
  unfold planStart at h
  split at h
  · cases h
  · rename_i hb
    exact Guard.isBusy_eq_false_iff.mp (by simpa using hb)

/-- The station once it has accepted a start. -/
def accepted (s : Station) (target : NetworkId) : Station :=
  { s with guard := { s.guard with isStarting := true }, startLocation := s.cursor.location }.publish
    .infoStart target

theorem does_accepted {s : Station} (hg : s.guard = .idle) (target : NetworkId) :
    Does s (s.accepted target) (s.control.begin s.cursor.location) [.of .infoStart target] [] := by
  refine ⟨?_, rfl, rfl⟩
  unfold accepted
  rw [hg]
  rfl

theorem step_start {s : Station} {target : NetworkId} {device : DeviceId} {route : StartRoute}
    (hp : s.planStart target device = .ok route) :
    s.step (.event (.request (.start target device))) = (s.accepted target).takeStartRoute route := by
  show (s.start target device).2 = _
  simp only [start, hp]
  rfl

theorem turns_announceAndStart {s : Station} {target : NetworkId} {device : DeviceId}
    {route : StartRoute} {plan : StartPlan} (hp : s.planStart target device = .ok route)
    (hr : route = .share plan ∨ route = .relay plan) (hw : s.Speaks) :
    s.Turns (.event (.request (.start target device))) := by
  have he : s.step (.event (.request (.start target device))) =
      (s.accepted target).announceAndStart plan := by
    rw [step_start hp]
    rcases hr with rfl | rfl <;> rfl
  have h₁ := (does_accepted (guard_of_planStart hp) target).send (.announceStart s.home plan.target)
  unfold announceAndStart prepareAndStart at he
  cases hl : s.link.joins plan.src plan.target with
  | true =>
    obtain ⟨c, ns, ds, hs, h₂⟩ := does_startShared
      ((s.accepted target).send (.announceStart s.home plan.target)) plan
    rw [h₁.control] at hs
    exact (h₁.trans h₂).turns (.sharesAtOnce target device route plan hp hr hl hs)
      (he.trans (if_pos hl)) hw
  | false =>
    have h := h₁.callPrepare plan.src plan.target (.prepared plan)
    have hl' : ¬s.link.joins plan.src plan.target = true := by simp [hl]
    exact h.turns (.prepares target device route plan hp hr hl) (he.trans (if_neg hl')) hw

theorem turns_start (s : Station) (target : NetworkId) (device : DeviceId) (hw : s.Speaks) :
    s.Turns (.event (.request (.start target device))) := by
  cases hp : s.planStart target device with
  | error e =>
    have he : s.step (.event (.request (.start target device))) = s := by
      show (s.start target device).2 = s
      simp only [start, hp]
    refine turns_of_rest (Does.refl s) ?_ rfl (by simp) he hw
    simp [startRoute?, hp, Except.toOption]
  | ok route =>
    cases route with
    | share plan => exact turns_announceAndStart hp (.inl rfl) hw
    | relay plan => exact turns_announceAndStart hp (.inr rfl) hw
    | comeBack plan =>
      have h₁ := does_accepted (guard_of_planStart hp) target
      have h := h₁.callStop plan.src s.home plan.dhids (.cameBack plan.target plan.device)
      exact h.turns (.comesBack target device plan hp) (step_start hp) hw

/-! ### Signals -/

/-- A signal that nothing comes of. -/
theorem turns_deaf {s : Station} {sig : PeerSignal} (he : s.hear sig = s) (hw : s.Speaks) :
    s.Turns (.event (.signal sig)) :=
  turns_of_rest (Does.refl s) rfl rfl (by simp) he hw

/-- A start request that is heard. -/
theorem does_hearsStart {s : Station} {p : NetworkId} (hg : s.guard = .idle)
    (hp : s.role = .free ∨ s.participates p = true) :
    Does s (s.hear (.startRequest p)) { s.control with guard := .starting, announcer := some p }
      [.of .infoStart p] [] := by
  have hheard : ¬(!s.role.isFree && !s.participates p) = true := by
    rcases hp with hr | hp
    · simp [hr, Role.isFree]
    · simp [hp]
  show Does s (s.hearStartRequest p) _ _ _
  unfold hearStartRequest
  rw [hg, if_neg (by decide), if_neg hheard]
  exact ⟨rfl, rfl, rfl⟩

theorem turns_startRequest (s : Station) (p : NetworkId) (hw : s.Speaks) :
    s.Turns (.event (.signal (.startRequest p))) := by
  have he : s.hear (.startRequest p) = s.hearStartRequest p := rfl
  unfold hearStartRequest at he
  by_cases hb : s.guard.isBusy = true
  · exact turns_deaf (he.trans (if_pos hb)) hw
  rw [if_neg hb] at he
  by_cases hp : (!s.role.isFree && !s.participates p) = true
  · exact turns_deaf (he.trans (if_pos hp)) hw
  · have hg : s.guard = .idle := Guard.isBusy_eq_false_iff.mp (by simpa using hb)
    have hp' : s.role = .free ∨ s.participates p = true := by
      cases hr : s.role <;> simp_all [Role.isFree]
    exact (does_hearsStart hg hp').turns (.hearsStart p hg hp') rfl hw

theorem turns_stopRequest (s : Station) (p : NetworkId) (hw : s.Speaks) :
    s.Turns (.event (.signal (.stopRequest p))) := by
  have he : s.hear (.stopRequest p) = s.hearStopRequest p := rfl
  unfold hearStopRequest at he
  by_cases hb : s.guard.isBusy = true
  · exact turns_deaf (he.trans (if_pos hb)) hw
  rw [if_neg hb] at he
  by_cases hp : (!s.participates p) = true
  · exact turns_deaf (he.trans (if_pos hp)) hw
  rw [if_neg hp] at he
  have hg : s.guard = .idle := Guard.isBusy_eq_false_iff.mp (by simpa using hb)
  refine Does.turns ⟨?_, rfl, rfl⟩ (.hearsStop p hg (by simpa using hp)) he hw
  rw [hg]
  rfl

/-- The station without the transition that `p` announced. -/
def release (s : Station) (p : NetworkId) : Station :=
  if s.announcer = some p then { s with guard := .idle, announcer := none } else s

theorem releaseGuard?_eq (s : Station) (p : NetworkId) :
    s.releaseGuard? p =
      if s.announcer = some p ∨ s.guard = .idle then some (s.release p) else none := by
  unfold releaseGuard? release
  by_cases ha : s.announcer = some p
  · simp [ha]
  · cases hb : s.guard.isBusy with
    | true =>
      have hg : s.guard ≠ .idle := fun h => by simp [h] at hb
      simp [ha, hg]
    | false => simp [ha, Guard.isBusy_eq_false_iff.mp hb]

theorem does_release (s : Station) (p : NetworkId) :
    Does s (s.release p) (s.control.released p) [] [] := by
  unfold release Control.released
  by_cases ha : s.announcer = some p
  · simp only [ha, control_announcer, if_true]
    exact ⟨rfl, rfl, rfl⟩
  · simp only [ha, control_announcer, if_false]
    exact .refl s

theorem participates_release (s : Station) (p id : NetworkId) :
    (s.release p).participates id = s.participates id := by
  unfold release
  split <;> rfl

theorem role_release (s : Station) (p : NetworkId) : (s.release p).role = s.role := by
  unfold release
  split <;> rfl

/-- A peer's pointer is consumed. -/
theorem does_acceptStart {s s' : Station} {c : Control} {ns : List Notice} {ds : List Dispatch}
    (h : Does s s' c ns ds) (p : NetworkId) (dhid : Dhid) (l : Location)
    (hr : s'.role.isOutbound = false) :
    Does s (s'.acceptStart p dhid l) { c with role := .inbound dhid, sessionPeer := some p }
      ns ds := by
  have h' := ((h.setRole (.inbound dhid)).showCursorAt l).beginSession p
  unfold acceptStart
  cases hrole : s'.role with
  | free => exact h'
  | inbound _ => exact h'
  | outbound _ => simp [hrole, Role.isOutbound] at hr

/-- The station's own pointer comes back. -/
theorem does_acceptStart_outbound {s s' : Station} {c : Control} {ns : List Notice}
    {ds : List Dispatch} (h : Does s s' c ns ds) (p : NetworkId) (dhid : Dhid) (l : Location)
    (hr : s'.role.isOutbound = true) :
    Does s (s'.acceptStart p dhid l) c.ended (ns ++ c.closing p) ds := by
  have h' := (((h.setRole .free).showCursorAt l).unprepare p).endSession
  unfold acceptStart
  cases hrole : s'.role with
  | outbound _ => exact h'
  | free => simp [hrole, Role.isOutbound] at hr
  | inbound _ => simp [hrole, Role.isOutbound] at hr

/-- A start result that is not heard. -/
theorem hearStartResult_of_unheard {s : Station} {p : NetworkId}
    (h : ¬((s.announcer = some p ∨ s.guard = .idle) ∧
      (s.announcer = some p ∨ s.participates p = true))) (success : Bool) (dhid : Dhid)
    (l : Location) : s.hear (.startResult p success dhid l) = s := by
  show s.hearStartResult p success dhid l = s
  unfold hearStartResult
  rw [releaseGuard?_eq]
  by_cases hg : s.announcer = some p ∨ s.guard = .idle
  · obtain ⟨ha, hp⟩ := not_or.mp fun hp => h ⟨hg, hp⟩
    have hp' : (!(s.announcer == some p) && !s.participates p) = true := by simp [ha, hp]
    rw [if_pos hg]
    simp only [participates_release]
    rw [if_pos hp', release, if_neg ha]
  · rw [if_neg hg]

/-- A stop result that is not heard. -/
theorem hearStopResult_of_unheard {s : Station} {p : NetworkId}
    (h : ¬(s.announcer = some p ∨ (s.guard = .idle ∧ s.participates p = true))) (success : Bool) :
    s.hear (.stopResult p success) = s := by
  obtain ⟨ha, hgp⟩ := not_or.mp h
  show s.hearStopResult p success = s
  unfold hearStopResult
  rw [releaseGuard?_eq]
  by_cases hg : s.announcer = some p ∨ s.guard = .idle
  · have hp : s.participates p = false := by
      simpa using fun hp => hgp ⟨hg.resolve_left ha, hp⟩
    rw [if_pos hg]
    simp only [participates_release, hp, Bool.not_false, if_true]
    rw [release, if_neg ha]
  · rw [if_neg hg]

section results

variable {s : Station} {p : NetworkId} (hg : s.announcer = some p ∨ s.guard = .idle)
include hg

/-- A start result that is heard. -/
theorem hearStartResult_eq (hp : s.announcer = some p ∨ s.participates p = true) (success : Bool)
    (dhid : Dhid) (l : Location) : s.hear (.startResult p success dhid l) =
      if success then ((s.release p).acceptStart p dhid l).publish .infoSuccess p
      else (s.release p).publishFailed .infoFail p .remoteRejected := by
  have hheard : ¬(!(s.announcer == some p) && !s.participates p) = true := by
    simpa [Classical.or_iff_not_imp_left] using hp
  show s.hearStartResult p success dhid l = _
  unfold hearStartResult
  rw [releaseGuard?_eq, if_pos hg]
  simp only [participates_release]
  rw [if_neg hheard]
  cases success <;> rfl

theorem does_startRejected (hp : s.announcer = some p ∨ s.participates p = true) (dhid : Dhid)
    (l : Location) : Does s (s.hear (.startResult p false dhid l)) (s.control.released p)
      [.failed .infoFail p .remoteRejected] [] := by
  rw [hearStartResult_eq hg hp]
  exact (s.does_release p).publishFailed .infoFail p .remoteRejected

theorem does_consumes (hp : s.announcer = some p ∨ s.participates p = true)
    (hr : s.role.isOutbound = false) (dhid : Dhid) (l : Location) :
    Does s (s.hear (.startResult p true dhid l))
      { s.control.released p with role := .inbound dhid, sessionPeer := some p }
      [.of .infoSuccess p] [] := by
  rw [hearStartResult_eq hg hp]
  have h := does_acceptStart (s.does_release p) p dhid l (by rw [s.role_release, hr])
  exact h.publish .infoSuccess p

theorem does_getsBack (hp : s.announcer = some p ∨ s.participates p = true)
    (hr : s.role.isOutbound = true) (dhid : Dhid) (l : Location) :
    Does s (s.hear (.startResult p true dhid l)) (s.control.released p).ended
      ((s.control.released p).closing p ++ [.of .infoSuccess p]) [] := by
  rw [hearStartResult_eq hg hp]
  have h := does_acceptStart_outbound (s.does_release p) p dhid l (by rw [s.role_release, hr])
  exact h.publish .infoSuccess p

/-- A stop result that is heard. -/
theorem hearStopResult_eq (success : Bool) : s.hear (.stopResult p success) =
    if s.participates p then
      if success then
        ((((s.release p).setRole .free).resetCursor).unprepare p).endSession.publish .stopSuccess p
      else (s.release p).publishFailed .closeFail p .remoteRejected
    else s.release p := by
  show s.hearStopResult p success = _
  unfold hearStopResult
  rw [releaseGuard?_eq, if_pos hg]
  simp only [participates_release]
  cases s.participates p <;> cases success <;> rfl

theorem does_stopDropped (hp : s.participates p = false) (success : Bool) :
    Does s (s.hear (.stopResult p success)) (s.control.released p) [] [] := by
  rw [hearStopResult_eq hg, hp]
  exact s.does_release p

theorem does_stopRejected (hp : s.participates p = true) :
    Does s (s.hear (.stopResult p false)) (s.control.released p)
      [.failed .closeFail p .remoteRejected] [] := by
  rw [hearStopResult_eq hg, hp]
  exact (s.does_release p).publishFailed .closeFail p .remoteRejected

theorem does_isLeft (hp : s.participates p = true) :
    Does s (s.hear (.stopResult p true)) (s.control.released p).ended
      ((s.control.released p).closing p ++ [.of .stopSuccess p]) [] := by
  rw [hearStopResult_eq hg, hp]
  have h := s.does_release p
  exact ((((h.setRole .free).resetCursor).unprepare p).endSession).publish .stopSuccess p

end results

theorem turns_startResult (s : Station) (p : NetworkId) (success : Bool) (dhid : Dhid)
    (l : Location) (hw : s.Speaks) : s.Turns (.event (.signal (.startResult p success dhid l))) := by
  by_cases h : (s.announcer = some p ∨ s.guard = .idle) ∧
      (s.announcer = some p ∨ s.participates p = true)
  · obtain ⟨hg, hp⟩ := h
    cases success with
    | false => exact (does_startRejected hg hp dhid l).turns (.startRejected p dhid l hg hp) rfl hw
    | true =>
      cases hr : s.role.isOutbound with
      | false => exact (does_consumes hg hp hr dhid l).turns (.consumes p dhid l hg hp hr) rfl hw
      | true => exact (does_getsBack hg hp hr dhid l).turns (.getsBack p dhid l hg hp hr) rfl hw
  · exact turns_deaf (hearStartResult_of_unheard h success dhid l) hw

theorem turns_stopResult (s : Station) (p : NetworkId) (success : Bool) (hw : s.Speaks) :
    s.Turns (.event (.signal (.stopResult p success))) := by
  by_cases h : s.announcer = some p ∨ (s.guard = .idle ∧ s.participates p = true)
  · have hg : s.announcer = some p ∨ s.guard = .idle := h.imp_right And.left
    cases hp : s.participates p with
    | false =>
      have ha : s.announcer = some p := h.resolve_right fun h' => by rw [hp] at h'; cases h'.2
      exact (does_stopDropped hg hp success).turns (.stopDropped p success ha hp) rfl hw
    | true =>
      cases success with
      | false => exact (does_stopRejected hg hp).turns (.stopRejected p hg hp) rfl hw
      | true => exact (does_isLeft hg hp).turns (.isLeft p hg hp) rfl hw
  · exact turns_deaf (hearStopResult_of_unheard h success) hw

theorem turns_relayAnnounce (s : Station) (p : NetworkId) (hw : s.Speaks) :
    s.Turns (.event (.signal (.relayAnnounce p))) := by
  have he : s.hear (.relayAnnounce p) = s.hearRelay p := rfl
  unfold hearRelay at he
  cases hr : s.role.isOutbound with
  | true =>
    rw [if_pos hr] at he
    have h₀ : Does s { s with link := { s.link with sink := p } }.unwatch
        { s.control with link := { s.link with sink := p } } [] [] :=
      ⟨control_unwatch _, notifier_unwatch _, outbox_unwatch _⟩
    exact (h₀.beginSession p).turns (.handedOn p hr) he hw
  | false => exact turns_deaf (he.trans (if_neg (by simp [hr]))) hw

theorem turns_signal (s : Station) (sig : PeerSignal) (hw : s.Speaks) :
    s.Turns (.event (.signal sig)) := by
  cases sig with
  | startRequest p => exact s.turns_startRequest p hw
  | startResult p success dhid l => exact s.turns_startResult p success dhid l hw
  | stopRequest p => exact s.turns_stopRequest p hw
  | stopResult p success => exact s.turns_stopResult p success hw
  | relayAnnounce p => exact s.turns_relayAnnounce p hw

/-! ### Devices come and go -/

theorem does_resetSession (s : Station) (id : NetworkId) :
    Does s (s.resetSession id) s.control.reset [.of .close id] [] := by
  have h₀ : Does s { s.cancelCalls with guard := .idle, announcer := none }
      { s.control with
        guard := .idle, announcer := none, calls := .const none, superseded := [] } [] [] :=
    ⟨rfl, rfl, rfl⟩
  exact ((h₀.setRole .free).resetCursor.setLink .none).endSession.publish .close id

theorem turns_deviceOffline (s : Station) (id : NetworkId) (hw : s.Speaks) :
    s.Turns (.event (.deviceOffline id)) := by
  have he : s.step (.event (.deviceOffline id)) = s.peerOffline id := rfl
  unfold peerOffline at he
  cases hp : s.participates id with
  | true =>
    rw [if_pos hp] at he
    exact (s.does_resetSession id).turns (.resets id hp) he hw
  | false =>
    rw [if_neg (by simp [hp])] at he
    by_cases hl : (s.role.isFree && s.link.involves id) = true
    · have h := does_release { s with link := .none } id
      have ht := Turn.loses id hp
      simp only [if_pos hl] at he ht
      exact Does.turns ⟨h.control, h.notifier, h.outbox⟩ ht he hw
    · have ht := Turn.loses id hp
      simp only [if_neg hl] at he ht
      exact (s.does_release id).turns ht he hw

theorem turns_keyboardOnline (s : Station) (dhid : Dhid) (hw : s.Speaks) :
    s.Turns (.event (.keyboardOnline dhid)) := by
  have he : s.step (.event (.keyboardOnline dhid)) = s.keyboardOnline dhid := rfl
  unfold keyboardOnline at he
  have hrest (h : s.step (.event (.keyboardOnline dhid)) = s) :
      s.Turns (.event (.keyboardOnline dhid)) :=
    turns_of_rest (Does.refl s) rfl rfl (by simp) h hw
  by_cases hl : (s.role.isOutbound && s.link.isPrepared) = true
  · rw [if_pos hl] at he
    obtain ⟨hr, hl⟩ := Bool.and_eq_true_iff.mp hl
    have h := (Does.refl s).callStart s.link.src s.link.sink [dhid] (.keyboardAdded dhid)
    cases ho : s.registry.originOfDhid? dhid with
    | none => exact h.turns (.plugsIn dhid hr hl (by simp [ho])) (by rw [he, ho]) hw
    | some origin =>
      rw [ho] at he
      by_cases hh : origin = s.home
      · exact h.turns (.plugsIn dhid hr hl (by simp [ho, hh])) (he.trans (if_pos hh)) hw
      · exact hrest (he.trans (if_neg hh))
  · exact hrest (he.trans (if_neg hl))

/-! ### Posts -/

theorem does_relayEvent (s : Station) (e : RelayEvent) : Does s (s.relayEvent e) s.control [] [] := by
  unfold relayEvent
  repeat' split
  all_goals exact ⟨rfl, rfl, rfl⟩

def setTracker (s : Station) (t : Tracker Continuation) : Station :=
  { s with gateway := { s.gateway with tracker := t } }

theorem control_setTracker (s : Station) (t : Tracker Continuation) :
    (s.setTracker t).control =
      { s.control with calls := t.calls, superseded := t.superseded, issued := t.issued } := rfl

theorem does_setTracker (s : Station) (t : Tracker Continuation) :
    Does s (s.setTracker t) (s.setTracker t).control [] [] := ⟨rfl, rfl, rfl⟩

/-- What is not relayed input goes to the tracker; a call that ends resumes the station. -/
theorem receive_eq (s : Station) {post : Post} (hp : ∀ e, post ≠ .relay e) :
    s.receive post = match s.gateway.tracker.apply post with
      | (none, t) => s.setTracker t
      | (some call, t) => (s.setTracker t).resume call := by
  have hg : s.gateway.receive post = ((s.gateway.tracker.apply post).1.map .resolved,
      { s.gateway with tracker := (s.gateway.tracker.apply post).2 }) := by
    cases post with
    | relay e => exact absurd rfl (hp e)
    | _ => rfl
  unfold receive
  rw [hg]
  generalize s.gateway.tracker.apply post = r
  obtain ⟨o, t⟩ := r
  cases o <;> rfl

/-- Receiving a post ends at most one call, and the station goes on after it. -/
theorem receive_cases (s : Station) (p : Post) :
    ((s.gateway.tracker.apply p).1 = none ∧ Does s (s.receive p) s.control [] []) ∨
      ∃ call t, (s.gateway.tracker.apply p).1 = some call ∧
        Ends s.control call (s.setTracker t).control ∧
          s.receive p = (s.setTracker t).resume call := by
  by_cases hp : ∃ e, p = .relay e
  · obtain ⟨e, rfl⟩ := hp
    refine .inl ⟨rfl, ?_⟩
    cases hs : s.gateway.subscribed with
    | true =>
      have he : s.receive (.relay e) = s.relayEvent e := by simp [receive, Gateway.receive, hs]
      rw [he]
      exact s.does_relayEvent e
    | false =>
      have he : s.receive (.relay e) = s := by simp [receive, Gateway.receive, hs]
      rw [he]
      exact .refl s
  · have ha := s.gateway.tracker.applied p
    rw [s.receive_eq fun e he => hp ⟨e, he⟩]
    generalize s.gateway.tracker.apply p = r at ha
    obtain ⟨o, t⟩ := r
    have hcontrol := s.control_setTracker t
    dsimp only at ha ⊢
    cases ha with
    | nothing _ hc hs hi =>
      rw [hc, hs, hi] at hcontrol
      exact .inl ⟨rfl, hcontrol, rfl, rfl⟩
    | pending k call o _ hk ho hc hs hi =>
      rw [hc, hs, hi] at hcontrol
      refine .inr ⟨_, t, rfl, ?_, rfl⟩
      rw [hcontrol]
      exact .pending (c := s.control) k call o hk ho
    | superseded r _ hr hc hs hi =>
      rw [hc, hs, hi] at hcontrol
      refine .inr ⟨_, t, rfl, ?_, rfl⟩
      rw [hcontrol]
      exact .superseded (c := s.control) r hr

theorem take_cases (s : Station) :
    (s.ending? = none ∧ Does s (s.step .take) s.control [] []) ∨
      ∃ call t, s.ending? = some call ∧ Ends s.control call (s.setTracker t).control ∧
        s.step .take = (s.setTracker t).resume call := by
  cases hq : s.gateway.mailbox.queue with
  | nil =>
    refine .inl ⟨by simp [ending?, Mailbox.take?, hq], ?_⟩
    rw [step_take_of_empty hq]
    exact .refl s
  | cons p ps =>
    have h := receive_cases (s.setMailbox { s.gateway.mailbox with queue := ps }) p
    rw [step_take_of_cons hq]
    simp only [ending?, Mailbox.take?, hq]
    rcases h with ⟨hn, h⟩ | ⟨call, t, hc, he, hr⟩
    · exact .inl ⟨hn, h.control, h.notifier, h.outbox⟩
    · exact .inr ⟨call, t, hc, he, hr⟩

/-- What a post that ends a call does. -/
theorem receive_of_apply {s : Station} {p : Post} {call : Resolved Continuation}
    (h : (s.gateway.tracker.apply p).1 = some call) :
    ∃ t, Ends s.control call (s.setTracker t).control ∧
      s.receive p = (s.setTracker t).resume call := by
  rcases s.receive_cases p with ⟨hnone, -⟩ | ⟨call', t, hc, he, hr⟩
  · rw [h] at hnone
    cases hnone
  · obtain rfl : call' = call := Option.some.inj (hc.symm.trans h)
    exact ⟨t, he, hr⟩

/-- What taking a post that ends a call does. -/
theorem take_of_ending {s : Station} {call : Resolved Continuation} (h : s.ending? = some call) :
    ∃ t, Ends s.control call (s.setTracker t).control ∧
      s.step .take = (s.setTracker t).resume call := by
  rcases s.take_cases with ⟨hnone, -⟩ | ⟨call', t, hc, he, hr⟩
  · rw [h] at hnone
    cases hnone
  · obtain rfl : call' = call := Option.some.inj (hc.symm.trans h)
    exact ⟨t, he, hr⟩

section ending

variable {s : Station} {call : Resolved Continuation} (hc : s.ending? = some call)
include hc

/-- The last call of a start went well. -/
theorem take_of_last {target : NetworkId} {device : DeviceId}
    (hn : call.completion.last? = some (target, device)) (ho : call.outcome.reason? = none) :
    ∃ t, Ends s.control call (s.setTracker t).control ∧
      s.step .take = (s.setTracker t).finishStart target device (.ok ()) := by
  obtain ⟨t, he, hs⟩ := take_of_ending hc
  refine ⟨t, he, hs.trans ?_⟩
  cases hcall : call.completion with
  | started plan =>
    rw [hcall] at hn
    simp only [Continuation.last?] at hn
    split at hn
    · cases hn
    · rename_i hr
      cases hn
      rw [resume, hcall, resultOf, ho]
      exact if_neg hr
  | originStopped plan =>
    rw [hcall] at hn
    cases hn
    rw [resume, hcall, resultOf, ho]
    rfl
  | cameBack =>
    rw [hcall] at hn
    cases hn
    rw [resume, hcall, resultOf, ho]
  | _ =>
    rw [hcall] at hn
    cases hn

/-- A call of a start went wrong, and the start with it. -/
theorem take_of_leg {target : NetworkId} {device : DeviceId} {reason : Reason}
    (hn : call.completion.leg? = some (target, device)) (ho : call.outcome.reason? = some reason) :
    ∃ t, Ends s.control call (s.setTracker t).control ∧
      s.step .take = (s.setTracker t).finishStart target device (.error reason) := by
  obtain ⟨t, he, hs⟩ := take_of_ending hc
  refine ⟨t, he, hs.trans ?_⟩
  cases hcall : call.completion with
  | started plan =>
    rw [hcall] at hn
    cases hn
    rw [resume, hcall, resultOf, ho]
    rfl
  | cameBack =>
    rw [hcall] at hn
    cases hn
    rw [resume, hcall, resultOf, ho]
  | _ =>
    rw [hcall] at hn
    cases hn

theorem does_opens {plan : StartPlan} (hn : call.completion = .prepared plan)
    (ho : call.outcome.reason? = none) :
    ∃ c c' ns ds, Ends s.control call c ∧
      Shares { c with link := ⟨plan.src, plan.target⟩ } plan c' ns ds ∧
      Does s (s.step .take) c' (.of .openSuccess plan.target :: ns) ds := by
  obtain ⟨t, he, hs⟩ := take_of_ending hc
  have h := ((s.does_setTracker t).setLink ⟨plan.src, plan.target⟩).publish .openSuccess plan.target
  obtain ⟨c', ns, ds, hshares, hdoes⟩ := does_startShared
    ({ s.setTracker t with link := ⟨plan.src, plan.target⟩ }.publish .openSuccess plan.target) plan
  refine ⟨_, c', ns, ds, he, hshares, ?_⟩
  rw [hs, resume, hn, resultOf, ho]
  exact h.trans hdoes

theorem does_opensNot {plan : StartPlan} {reason : Reason} (hn : call.completion = .prepared plan)
    (ho : call.outcome.reason? = some reason) :
    ∃ c, Ends s.control call c ∧ Does s (s.step .take) c.failed
      [.failed .openFail plan.target reason, .failed .infoFail plan.target .prepareFailed]
      [.startResult plan.target false (c.dhidFor plan.device) c.startLocation] := by
  obtain ⟨t, he, hs⟩ := take_of_ending hc
  have h := ((s.does_setTracker t).setLink .none).publishFailed .openFail plan.target reason
  refine ⟨_, he, ?_⟩
  rw [hs, resume, hn, resultOf, ho]
  exact h.trans (does_failStart _ plan.target plan.device .prepareFailed)

theorem does_stopsOrigin {plan : StartPlan} (hn : call.completion = .started plan)
    (ho : call.outcome.reason? = none) (hr : plan.relays = true) :
    ∃ c, Ends s.control call c ∧ Does s (s.step .take)
      (c.issue .stop ⟨plan.src, s.home, plan.dhids⟩ (.originStopped plan)) [] [] := by
  obtain ⟨t, he, hs⟩ := take_of_ending hc
  refine ⟨_, he, ?_⟩
  rw [hs, resume, hn, resultOf, ho]
  simp only [afterStart, hr, if_true]
  exact (s.does_setTracker t).callStop plan.src s.home plan.dhids (.originStopped plan)

theorem does_startFails {target : NetworkId} {device : DeviceId} {reason : Reason}
    (hn : call.completion.leg? = some (target, device)) (ho : call.outcome.reason? = some reason) :
    ∃ c, Ends s.control call c ∧ Does s (s.step .take) c.failed [.failed .infoFail target reason]
      [.startResult target false (c.dhidFor device) c.startLocation] := by
  obtain ⟨t, he, hs⟩ := take_of_leg hc hn ho
  refine ⟨_, he, ?_⟩
  rw [hs]
  exact (s.does_setTracker t).trans (does_failStart _ target device reason)

theorem does_handsOn {target : NetworkId} {device : DeviceId} {shared : Dhid}
    (hn : call.completion.last? = some (target, device)) (ho : call.outcome.reason? = none)
    (hr : s.role = .inbound shared) :
    ∃ c, Ends s.control call c ∧ Does s (s.step .take)
      { c with guard := .idle, role := .free, sessionPeer := none } [.of .infoSuccess target]
      (.startResult target true shared s.startLocation :: s.control.handOn target shared) := by
  obtain ⟨t, he, hs⟩ := take_of_last hc hn ho
  refine ⟨_, he, ?_⟩
  rw [hs]
  exact (s.does_setTracker t).trans ((s.setTracker t).does_finishStart_inbound target device hr)

theorem does_rollsBack {plan : StartPlan} {reason : Reason}
    (hn : call.completion = .originStopped plan) (ho : call.outcome.reason? = some reason) :
    ∃ c, Ends s.control call c ∧ Does s (s.step .take)
      (c.issue .stop ⟨plan.src, plan.target, plan.dhids⟩ (.relayRolledBack plan.target)).failed
      [.failed .infoFail plan.target .partialRelayFailure]
      [.startResult plan.target false (c.dhidFor plan.device) c.startLocation] := by
  obtain ⟨t, he, hs⟩ := take_of_ending hc
  have h := (s.does_setTracker t).callStop plan.src plan.target plan.dhids
    (.relayRolledBack plan.target)
  have hfail := h.trans (does_failStart _ plan.target plan.device .partialRelayFailure)
  rw [h.control] at hfail
  refine ⟨_, he, ?_⟩
  rw [hs, resume, hn, resultOf, ho]
  exact hfail

theorem does_leaves {peer : NetworkId} (hn : call.completion = .stopped peer)
    (ho : call.outcome.reason? = none) :
    ∃ c, Ends s.control call c ∧ Does s (s.step .take) { c with guard := .idle }.ended
      (c.closing peer ++ [.of .closeSuccess peer]) [.stopResult peer true] := by
  obtain ⟨t, he, hs⟩ := take_of_ending hc
  refine ⟨_, he, ?_⟩
  rw [hs, resume, hn, resultOf, ho]
  exact (s.does_setTracker t).trans ((s.setTracker t).does_finishStop peer)

theorem does_stopFails {peer : NetworkId} {reason : Reason} (hn : call.completion = .stopped peer)
    (ho : call.outcome.reason? = some reason) :
    ∃ c, Ends s.control call c ∧
      Does s (s.step .take) { c with guard := .idle } [.failed .closeFail peer reason] [] := by
  obtain ⟨t, he, hs⟩ := take_of_ending hc
  have h : Does s { s.setTracker t with guard := .idle }
      { (s.setTracker t).control with guard := .idle } [] [] := ⟨rfl, rfl, rfl⟩
  refine ⟨_, he, ?_⟩
  rw [hs, resume, hn, resultOf, ho]
  exact h.publishFailed .closeFail peer reason

theorem turns_last (hw : s.Speaks) {target : NetworkId} {device : DeviceId}
    (hn : call.completion.last? = some (target, device)) (ho : call.outcome.reason? = none) :
    s.Turns .take := by
  obtain ⟨t, he, hs⟩ := take_of_last hc hn ho
  have h := s.does_setTracker t
  cases hr : s.role with
  | free =>
    have h₁ := h.trans ((s.setTracker t).does_finishStart_free target device hr)
    exact h₁.turns (.shares call target device hc he hn ho hr) hs hw
  | inbound shared =>
    obtain ⟨c, he, h⟩ := does_handsOn hc hn ho hr
    exact h.turns (.handsOn call target device shared hc he hn ho hr) rfl hw
  | outbound d =>
    have hr' : s.role.isOutbound = true := by rw [hr]; rfl
    have h₁ := h.trans ((s.setTracker t).does_finishStart_outbound target device hr')
    exact h₁.turns (.stays call target device hc he hn ho hr') hs hw

theorem turns_leg (hw : s.Speaks) {target : NetworkId} {device : DeviceId} {reason : Reason}
    (hn : call.completion.leg? = some (target, device)) (ho : call.outcome.reason? = some reason) :
    s.Turns .take := by
  obtain ⟨c, he, h⟩ := does_startFails hc hn ho
  exact h.turns (.startFails call target device reason hc he hn ho) rfl hw

/-- A call ended well. -/
theorem turns_succeeded (hw : s.Speaks) (ht : call.completion.isTransition = true)
    (ho : call.outcome.reason? = none) : s.Turns .take := by
  cases hn : call.completion with
  | prepared plan =>
    obtain ⟨c, c', ns, ds, he, hshares, h⟩ := does_opens hc hn ho
    exact h.turns (.opens call plan hc he hn ho hshares) rfl hw
  | started plan =>
    cases hr : plan.relays with
    | true =>
      obtain ⟨c, he, h⟩ := does_stopsOrigin hc hn ho hr
      exact h.turns (.stopsOrigin call plan hc he hn ho hr) rfl hw
    | false =>
      have hlast : call.completion.last? = some (plan.target, plan.device) := by
        simp [hn, Continuation.last?, hr]
      exact turns_last hc hw hlast ho
  | originStopped plan => exact turns_last hc hw (by rw [hn]; rfl) ho
  | cameBack target device => exact turns_last hc hw (by rw [hn]; rfl) ho
  | stopped peer =>
    obtain ⟨c, he, h⟩ := does_leaves hc hn ho
    exact h.turns (.leaves call peer hc he hn ho) rfl hw
  | _ =>
    rw [hn] at ht
    cases ht

/-- A call ended in a failure. -/
theorem turns_failed (hw : s.Speaks) (ht : call.completion.isTransition = true) {reason : Reason}
    (ho : call.outcome.reason? = some reason) : s.Turns .take := by
  cases hn : call.completion with
  | prepared plan =>
    obtain ⟨c, he, h⟩ := does_opensNot hc hn ho
    exact h.turns (.opensNot call plan reason hc he hn ho) rfl hw
  | started plan => exact turns_leg hc hw (by rw [hn]; rfl) ho
  | originStopped plan =>
    obtain ⟨c, he, h⟩ := does_rollsBack hc hn ho
    exact h.turns (.rollsBack call plan reason hc he hn ho) rfl hw
  | cameBack target device => exact turns_leg hc hw (by rw [hn]; rfl) ho
  | stopped peer =>
    obtain ⟨c, he, h⟩ := does_stopFails hc hn ho
    exact h.turns (.stopFails call peer reason hc he hn ho) rfl hw
  | _ =>
    rw [hn] at ht
    cases ht

/-- A call ended that is no step of a transition: the station does nothing about it. -/
theorem turns_aside (hw : s.Speaks) (ht : call.completion.isTransition = false) : s.Turns .take := by
  obtain ⟨t, he, hs⟩ := take_of_ending hc
  have hresume : (s.setTracker t).resume call = s.setTracker t := by
    unfold resume
    cases hn : call.completion with
    | relayRolledBack | unprepared | keyboardAdded => rfl
    | _ =>
      rw [hn] at ht
      cases ht
  exact (s.does_setTracker t).turns (.endsAside call hc he ht) (hs.trans hresume) hw

end ending

theorem turns_take (s : Station) (hw : s.Speaks) : s.Turns .take := by
  rcases s.take_cases with ⟨hn, h⟩ | ⟨call, _, hc, -, -⟩
  · exact h.turns (.rest .take rfl rfl (fun _ => hn) (by simp)) rfl hw
  · cases ht : call.completion.isTransition with
    | false => exact turns_aside hc hw ht
    | true =>
      cases ho : call.outcome.reason? with
      | none => exact turns_succeeded hc hw ht ho
      | some reason => exact turns_failed hc hw ht ho

/-! ### Around the station -/

/-- Work takes from the queue of an outbox, and leaves the worker. -/
theorem workThrough_facts (limit : Option Nat) (ds : List Dispatch) : ∀ (now : Nat) (o : Outbox),
    (Outbox.workThrough limit now ds o).2.queue.length ≤ ds.length ∧
      (Outbox.workThrough limit now ds o).2.worker = o.worker := by
  induction ds with
  | nil => exact fun _ _ => ⟨Nat.le_refl _, rfl⟩
  | cons d ds ih =>
    intro now o
    unfold Outbox.workThrough
    dsimp only
    split
    · obtain ⟨hl, hk⟩ := ih (o.begin now d).ends
        ({ o with nextSerial := o.nextSerial + 1 }.finish (o.begin now d))
      exact ⟨Nat.le_succ_of_le hl, hk⟩
    · exact ⟨Nat.le_succ _, rfl⟩

theorem work_facts (o : Outbox) (limit : Option Nat) (now : Nat) :
    (o.work limit now).2.queue.length ≤ o.queue.length ∧ (o.work limit now).2.worker = o.worker := by
  unfold Outbox.work
  split
  · exact workThrough_facts _ _ _ _
  · split
    · exact workThrough_facts _ _ _ _
    · exact ⟨Nat.le_refl _, rfl⟩

theorem does_flip (s : Station) (id : NetworkId) (on : Bool) :
    Does s (s.flip id on) s.control [] [] := by
  unfold flip
  dsimp only
  split <;> exact ⟨rfl, rfl, rfl⟩

theorem does_emitRelay (s : Station) (e : RelayEvent) :
    Does s { s with gateway := (s.gateway.emitRelay e).2 } s.control [] [] := by
  unfold Gateway.emitRelay
  split <;> exact ⟨rfl, rfl, rfl⟩

theorem turns_happen (s : Station) (h : Happening) (hw : s.Speaks) : s.Turns (.happen h) := by
  have hrest (hs : Shows s (s.step (.happen h)) s.control [] []) : s.Turns (.happen h) :=
    ⟨_, _, _, .rest (.happen h) rfl rfl (by simp) (by simp), hs⟩
  cases h with
  | devices ds => exact Does.turns ⟨rfl, rfl, rfl⟩ (.devices ds) rfl hw
  | flip id on => exact hrest ((s.does_flip id on).shows hw)
  | work limit =>
    obtain ⟨hl, hk⟩ := work_facts s.outbox limit s.now
    exact hrest ⟨rfl, (List.append_nil _).symm, List.drop_eq_nil_of_le hl, hk⟩
  | observe tag o => exact hrest ⟨rfl, (List.append_nil _).symm, List.drop_length, rfl⟩
  | stopReading tag => exact hrest ⟨rfl, (List.append_nil _).symm, List.drop_length, rfl⟩
  | peers p => exact hrest ⟨rfl, (List.append_nil _).symm, List.drop_length, rfl⟩
  | relay e => exact hrest ((s.does_emitRelay e).shows hw)
  | _ => exact hrest (Does.shows ⟨rfl, rfl, rfl⟩ hw)

/-- **Every move goes one of the ways that are listed.** -/
theorem turns (s : Station) (m : Move) (hw : s.Speaks) : s.Turns m := by
  cases m with
  | take => exact s.turns_take hw
  | happen h => exact s.turns_happen h hw
  | change =>
    have he : s.step .change = s.nextChange.2 := rfl
    unfold nextChange at he
    cases hc : s.changes with
    | nil =>
      rw [hc] at he
      exact turns_of_rest (Does.refl s) rfl (by simp [stopRoute?, hc]) (by simp) he hw
    | cons change rest =>
      rw [hc] at he
      exact turns_switchChanged (t := { s with changes := rest }) change.1 change.2
        ⟨rfl, rfl, rfl, rfl, rfl⟩ rfl rfl (by simp [stopRoute?, hc]) (by simp) he hw
  | event e =>
    cases e with
    | deviceOffline id => exact s.turns_deviceOffline id hw
    | keyboardOnline dhid => exact s.turns_keyboardOnline dhid hw
    | signal sig => exact s.turns_signal sig hw
    | switchChanged id on =>
      exact turns_switchChanged (t := s) id on ⟨rfl, rfl, .refl s⟩ rfl rfl rfl (by simp) rfl hw
    | shutdown => exact turns_of_rest (Does.refl s) rfl rfl (by simp) rfl hw
    | request r =>
      cases r with
      | enable on => exact s.turns_enable on hw
      | start target device => exact s.turns_start target device hw
      | stop => exact turns_of_stop (Does.refl s) rfl rfl rfl (by simp) rfl hw
      | judge e => exact s.turns_judge e hw
      | isEnabled id => exact turns_of_rest (Does.refl s) rfl rfl (by simp) rfl hw
      | subscribe tag =>
        exact ⟨_, _, _, .rest _ rfl rfl (by simp) (by simp), rfl, (List.append_nil _).symm,
          List.drop_length, rfl⟩
      | unsubscribe id =>
        exact ⟨_, _, _, .rest _ rfl rfl (by simp) (by simp), rfl, (List.append_nil _).symm,
          List.drop_length, rfl⟩

theorem speaks_create (settings : Settings) (registry : Registry) :
    (create settings registry).Speaks := by
  intro h
  cases h

theorem speaks_step {s : Station} (m : Move) (hw : s.Speaks) : (s.step m).Speaks := by
  obtain ⟨_, _, _, -, hs⟩ := s.turns m hw
  unfold Speaks
  rw [hs.worker]
  exact hw

theorem speaks_run (settings : Settings) (registry : Registry) (ms : List Move) :
    ((create settings registry).run ms).Speaks :=
  run_invariant (fun _ m => speaks_step m) ms (speaks_create settings registry)

end Station

end PointerShare
