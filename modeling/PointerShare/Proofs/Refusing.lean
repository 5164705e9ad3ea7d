/-
# A refused request leaves no trace

A start is refused for the first of these reasons that there is: the station is
busy, its switch is off, its pointer is shared already, the target is no other
station, or the device is not known; a stop, if the station is busy, has no
session, or has lost the link it would stop. Nothing has happened by then: a
station that refuses is the station it was, with all that it holds, calls,
timers, notices and posts for peers included. The same goes for a stop that nobody is
told was refused, because it was to follow from a pointer that moved, from a
peer's switch or from the station's own; of the last, only the switch and its
notice remain. So a run is the same without what was refused in it.

That a start is never refused for want of a session rests on the inbound
station's knowing its peer (`Control.Seated`).

Key definitions: `Station.RefusesStart`, `Station.RefusesStop`,
`Station.asksToStop`, `Station.asked`, `Station.granted`.
Key theorems: `Station.start_refused_iff`, `Station.stop_refused_iff`,
`Station.step_of_refused_stop`, `Station.run_granted`,
`Station.refusals_leave_no_trace`.
-/
import PointerShare.Proofs.Failing

namespace PointerShare
namespace Station

/-! ### Why a request is refused -/

/-- The reason for which a start is refused; of several, the first that is checked. -/
inductive RefusesStart (s : Station) (target : NetworkId) (device : DeviceId) : Refusal → Prop
  | busy (hg : s.guard ≠ .idle) : RefusesStart s target device .busy
  | notEnabled (hg : s.guard = .idle) (hoff : s.crossing.isOn s.home = false) :
      RefusesStart s target device .notEnabled
  | wrongRole (hg : s.guard = .idle) (hon : s.crossing.isOn s.home = true)
      (hr : s.role.isOutbound = true) : RefusesStart s target device (.wrongRole s.role)
  | emptyTarget (hg : s.guard = .idle) (hon : s.crossing.isOn s.home = true)
      (hr : s.role.isOutbound = false) (ht : target.isEmpty = true) :
      RefusesStart s target device (.invalidArgument .emptyNetworkId)
  | ownTarget (hg : s.guard = .idle) (hon : s.crossing.isOn s.home = true)
      (hr : s.role.isOutbound = false) (hne : target.isEmpty = false) (ht : target = s.home) :
      RefusesStart s target device (.invalidArgument (.ownStation target))
  | unknownDevice (hg : s.guard = .idle) (hon : s.crossing.isOn s.home = true)
      (hr : s.role = .free) (hne : target.isEmpty = false) (ht : target ≠ s.home)
      (hd : s.registry.originOf? device = none) :
      RefusesStart s target device (.invalidArgument (.unknownDevice device))

/-- The reason for which a stop is refused. -/
inductive RefusesStop (s : Station) : Refusal → Prop
  | busy (hg : s.guard ≠ .idle) : RefusesStop s .busy
  | noSession (hg : s.guard = .idle) (hr : s.role = .free) : RefusesStop s (.wrongRole .free)
  | noLink (hg : s.guard = .idle) (hr : s.role.isOutbound = true)
      (hl : s.link.isPrepared = false) : RefusesStop s .notPrepared

section reasons

variable {s : Station} {target : NetworkId} {device : DeviceId} {e : Refusal}

theorem start_of_refused (h : s.planStart target device = .error e) :
    s.start target device = (.error e, s) := by
  simp only [start, h]

theorem start_error_iff : (s.start target device).1 = .error e ↔ s.planStart target device = .error e := by
  unfold start
  cases s.planStart target device <;> simp

theorem stop_error_iff : s.stop.1 = .error e ↔ s.planStop = .error e := by
  unfold stop
  cases s.planStop <;> simp

theorem isBusy_iff : s.guard.isBusy = true ↔ s.guard ≠ .idle := by
  rw [Ne, ← Guard.isBusy_eq_false_iff]
  simp

/-- What is checked of the target. -/
theorem checkTarget_error_iff : s.checkTarget target = .error e ↔
    (target.isEmpty = true ∧ e = .invalidArgument .emptyNetworkId) ∨
    (target.isEmpty = false ∧ target = s.home ∧ e = .invalidArgument (.ownStation target)) := by
  unfold checkTarget
  cases target.isEmpty with
  | true => simp [eq_comm]
  | false =>
    by_cases ht : target = s.home
    · simp [ht, eq_comm]
    · simp [ht]

theorem checkTarget_ok_iff :
    s.checkTarget target = .ok () ↔ target.isEmpty = false ∧ target ≠ s.home := by
  unfold checkTarget
  cases target.isEmpty with
  | true => simp
  | false =>
    by_cases ht : target = s.home
    · simp [ht]
    · simp [ht]

theorem planShare_error_iff : s.planShare target device = .error e ↔
    s.checkTarget target = .error e ∨ s.checkTarget target = .ok () ∧
      s.registry.originOf? device = none ∧ e = .invalidArgument (.unknownDevice device) := by
  unfold planShare
  cases s.checkTarget target with
  | error e' =>
    show Except.error e' = _ ↔ _
    simp
  | ok _ => cases s.registry.originOf? device <;> simp [bind, Except.bind, eq_comm]

/-- A station that knows its peer refuses to hand a pointer on for its target only. -/
theorem planHandOn_error_iff {shared : Dhid} (ho : (s.originOf? shared).isSome = true) :
    s.planHandOn target device shared = .error e ↔ s.checkTarget target = .error e := by
  obtain ⟨origin, ho⟩ := Option.isSome_iff_exists.mp ho
  unfold planHandOn
  cases s.checkTarget target with
  | error e' =>
    show Except.error e' = _ ↔ _
    simp
  | ok _ =>
    simp only [ho, bind, Except.bind]
    split <;> simp

/-- A start is refused for one reason. -/
theorem RefusesStart.unique {e' : Refusal} (h : s.RefusesStart target device e)
    (h' : s.RefusesStart target device e') : e = e' := by
  cases h <;> cases h' <;> first | rfl | simp_all [Role.isOutbound]

theorem RefusesStop.unique {e' : Refusal} (h : s.RefusesStop e) (h' : s.RefusesStop e') : e = e' := by
  cases h <;> cases h' <;> first | rfl | simp_all [Role.isOutbound]

theorem RefusesStart.iff {e' : Refusal} (h : s.RefusesStart target device e') :
    (.error e' : Except Refusal StartRoute) = .error e ↔ s.RefusesStart target device e := by
  refine ⟨fun he => ?_, fun he => congrArg _ (h.unique he)⟩
  cases he
  exact h

theorem RefusesStop.iff {e' : Refusal} (h : s.RefusesStop e') :
    (.error e' : Except Refusal StopRoute) = .error e ↔ s.RefusesStop e := by
  refine ⟨fun he => ?_, fun he => congrArg _ (h.unique he)⟩
  cases he
  exact h

/-- **Why a start is refused.** -/
theorem start_refused_iff (hs : s.control.Seated) :
    (s.start target device).1 = .error e ↔ s.RefusesStart target device e := by
  rw [start_error_iff]
  by_cases hg : s.guard = .idle
  case neg =>
    have hp : s.planStart target device = .error .busy := if_pos (isBusy_iff.mpr hg)
    rw [hp]
    exact (RefusesStart.busy hg).iff
  cases hon : s.crossing.isOn s.home with
  | false =>
    have hp : s.planStart target device = .error .notEnabled := by simp [planStart, hg, hon]
    rw [hp]
    exact (RefusesStart.notEnabled hg hon).iff
  | true =>
    cases hr : s.role with
    | free =>
      have hout : s.role.isOutbound = false := by rw [hr]; rfl
      have hp : s.planStart target device = s.planShare target device := by
        simp [planStart, hg, hon, hr]
      rw [hp, planShare_error_iff, checkTarget_error_iff, checkTarget_ok_iff]
      constructor
      · rintro ((⟨ht, rfl⟩ | ⟨hne, ht, rfl⟩) | ⟨⟨hne, ht⟩, hd, rfl⟩)
        · exact .emptyTarget hg hon hout ht
        · exact .ownTarget hg hon hout hne ht
        · exact .unknownDevice hg hon hr hne ht hd
      · intro h
        cases h <;> simp_all
    | inbound d =>
      have hout : s.role.isOutbound = false := by rw [hr]; rfl
      have hp : s.planStart target device = s.planHandOn target device d := by
        simp [planStart, hg, hon, hr]
      rw [hp, planHandOn_error_iff (originOf?_isSome (hs d hr) d), checkTarget_error_iff]
      constructor
      · rintro (⟨ht, rfl⟩ | ⟨hne, ht, rfl⟩)
        · exact .emptyTarget hg hon hout ht
        · exact .ownTarget hg hon hout hne ht
      · intro h
        cases h <;> simp_all
    | outbound d =>
      have hout : s.role.isOutbound = true := by rw [hr]; rfl
      have hp : s.planStart target device = .error (.wrongRole s.role) := by
        simp [planStart, hg, hon, hr]
      rw [hp]
      exact (RefusesStart.wrongRole hg hon hout).iff

/-- **Why a stop is refused.** -/
theorem stop_refused_iff (hs : s.control.Seated) : s.stop.1 = .error e ↔ s.RefusesStop e := by
  rw [stop_error_iff]
  by_cases hg : s.guard = .idle
  case neg =>
    have hp : s.planStop = .error .busy := if_pos (isBusy_iff.mpr hg)
    rw [hp]
    exact (RefusesStop.busy hg).iff
  cases hr : s.role with
  | free =>
    have hp : s.planStop = .error (.wrongRole .free) := by simp [planStop, hg, hr]
    rw [hp]
    exact (RefusesStop.noSession hg hr).iff
  | inbound d =>
    obtain ⟨r, hp⟩ := planStop_of_inbound hg hr (hs d hr)
    rw [hp]
    refine ⟨fun h => ?_, fun h => ?_⟩
    · cases h
    · cases h <;> simp_all [Role.isOutbound]
  | outbound d =>
    have hout : s.role.isOutbound = true := by rw [hr]; rfl
    rw [planStop_of_outbound hg hr, planStopOutbound]
    cases hl : s.link.isPrepared with
    | true =>
      refine ⟨fun h => ?_, fun h => ?_⟩
      · cases h
      · cases h <;> simp_all
    | false => exact (RefusesStop.noLink hg hout hl).iff

end reasons

/-! ### Stops that are asked for on the way -/

/-- The move asks for a stop: because a client does, because the station is to take part no longer, or
because a device moved that is not the session's or a peer takes part no longer. -/
def asksToStop (s : Station) : Move → Bool
  | .event (.request .stop) => true
  | .event (.request (.enable on)) => !on && !s.crossing.updateFails && !s.role.isFree
  | .event (.request (.judge e)) =>
    !s.guard.isBusy && !s.belongs e.device && !s.role.isFree && e.action.isMotion
  | .event (.switchChanged id on) => !on && s.participates id
  | .change => match s.changes with
    | [] => false
    | c :: _ => !c.2 && s.participates c.1
  | _ => false

/-- The station when such a move comes to its stop: its own switch is off and observers know, or the
peer's switch change is taken note of. -/
def asked (s : Station) : Move → Station
  | .event (.request (.enable _)) =>
    { s with crossing := s.crossing.put s.home false }.publish .stateOff s.home
  | .change => { s with changes := s.changes.tail }
  | _ => s

variable {s : Station} {e : Refusal}

/-- What a pointer, a switch and a peer's switch ask for is the stop of the station that was there. -/
theorem step_of_asksToStop {m : Move} (hm : s.asksToStop m = true) :
    s.step m = (s.asked m).stop.2 ∧ (s.asked m).planStop = s.planStop := by
  unfold asksToStop at hm
  split at hm
  · exact ⟨rfl, rfl⟩
  · rename_i on
    simp only [Bool.and_eq_true, Bool.not_eq_true'] at hm
    obtain ⟨⟨rfl, hf⟩, hr⟩ := hm
    refine ⟨?_, rfl⟩
    have hrole : ({ s with crossing := s.crossing.put s.home false }.publish .stateOff s.home).role =
        s.role := rfl
    show (s.enable false).2 = _
    simp [enable, CrossingSwitch.update, hf, hrole, hr, asked]
  · rename_i event
    simp only [Bool.and_eq_true, Bool.not_eq_true'] at hm
    obtain ⟨⟨⟨hb, hbelongs⟩, hr⟩, hmotion⟩ := hm
    refine ⟨?_, rfl⟩
    show (s.judge event).2 = _
    simp [judge, hb, hbelongs, hr, hmotion, asked]
  · rename_i id on
    refine ⟨?_, rfl⟩
    show s.switchChanged id on = _
    simp only [switchChanged, hm, if_true]
    rfl
  · split at hm
    · cases hm
    · rename_i c rest hc
      have hpart : { s with changes := rest }.participates c.1 = s.participates c.1 := rfl
      refine ⟨?_, rfl⟩
      show s.nextChange.2 = _
      simp only [nextChange, hc, switchChanged, hpart, hm, if_true, asked, List.tail_cons]
  · cases hm

/-- A stop that is refused on the way leaves what was there when it was asked for. -/
theorem step_of_refused_stop {m : Move} (hm : s.asksToStop m = true) (he : s.stop.1 = .error e) :
    s.step m = s.asked m := by
  obtain ⟨hstep, hplan⟩ := step_of_asksToStop hm
  rw [hstep, stop_of_refused (hplan.trans (stop_error_iff.mp he))]

/-! ### Runs without what is refused -/

/-- The move is a request that is refused, or nothing but a stop that is. -/
def isRefused (s : Station) : Move → Bool
  | .event (.request (.start target device)) => !(s.start target device).1.isOk
  | .event (.request (.enable _)) => false
  | .change => false
  | m => s.asksToStop m && !s.stop.1.isOk

/-- The moves of a run without those that are refused. -/
def granted : Station → List Move → List Move
  | _, [] => []
  | s, m :: ms => if s.isRefused m then s.granted ms else m :: (s.step m).granted ms

theorem error_of_not_isOk {a : Answer} (h : a.isOk = false) : ∃ e, a = .error e := by
  cases a with
  | error e => exact ⟨e, rfl⟩
  | ok _ => cases h

theorem step_of_isRefused {m : Move} (h : s.isRefused m = true) : s.step m = s := by
  unfold isRefused at h
  split at h
  · obtain ⟨e, he⟩ := error_of_not_isOk (by simpa using h)
    show (s.start _ _).2 = s
    rw [start_of_refused (start_error_iff.mp he)]
  · cases h
  · cases h
  · rename_i hne hch
    simp only [Bool.and_eq_true, Bool.not_eq_true'] at h
    obtain ⟨e, he⟩ := error_of_not_isOk h.2
    rw [step_of_refused_stop h.1 he]
    unfold asked
    split
    · exact absurd rfl (hne _)
    · exact absurd rfl hch
    · rfl

/-- **A run is the same without what is refused in it.** -/
theorem run_granted (ms : List Move) : ∀ s : Station, s.run (s.granted ms) = s.run ms := by
  induction ms with
  | nil => exact fun _ => rfl
  | cons m ms ih =>
    intro s
    unfold granted
    by_cases hm : s.isRefused m = true
    · rw [if_pos hm, run_cons, step_of_isRefused hm]
      exact ih s
    · rw [if_neg hm, run_cons, run_cons]
      exact ih (s.step m)

/-- **A refused request leaves no trace.** In every state that a run reaches, a start and a stop are
refused for the reasons listed and no others, and always while the station is busy. A client whose
request is refused is told the reason, and the whole station is as it was. A stop that is refused
where it was asked for on the way leaves no more than what came before it: nothing, if a pointer
moved or a peer takes part no longer, and the switch and its notice, if the station itself is to. However
the run goes on, it is as if nothing refused had been asked. -/
theorem refusals_leave_no_trace (settings : Settings) (registry : Registry) (before : List Move) :
    let s := (create settings registry).run before
    (∀ target device e, (s.start target device).1 = .error e ↔ s.RefusesStart target device e) ∧
    (∀ e, s.stop.1 = .error e ↔ s.RefusesStop e) ∧
    (s.guard.isBusy = true → s.stop.1 = .error .busy ∧
      ∀ target device, (s.start target device).1 = .error .busy) ∧
    (∀ target device e, (s.start target device).1 = .error e →
      s.serve (.start target device) = (.refused e, s)) ∧
    (∀ e, s.stop.1 = .error e → s.serve .stop = (.refused e, s) ∧
      ∀ m, s.asksToStop m = true → s.step m = s.asked m) ∧
    ∀ after, s.run (s.granted after) = s.run after := by
  intro s
  have hs : s.control.Seated := seated_run settings registry before
  refine ⟨fun target device e => start_refused_iff hs, fun e => stop_refused_iff hs, fun hb => ?_,
    fun target device e he => ?_, fun e he => ⟨?_, fun m hm => step_of_refused_stop hm he⟩,
    fun after => run_granted after s⟩
  · have hg : s.guard ≠ .idle := isBusy_iff.mp hb
    exact ⟨(stop_refused_iff hs).mpr (.busy hg), fun _ _ => (start_refused_iff hs).mpr (.busy hg)⟩
  · show (Response.ofAnswer (s.start target device).1, (s.start target device).2) = _
    rw [start_of_refused (start_error_iff.mp he)]
    rfl
  · show (Response.ofAnswer s.stop.1, s.stop.2) = _
    rw [stop_of_refused (stop_error_iff.mp he)]
    rfl

end Station
end PointerShare
