/-
# A station that is to take part no longer

A request to take part no longer turns the station's own switch off, and stops
the session if a stop is possible then. After that no start is accepted, so a
station that is free and has no start under way stays free, whatever its peers
say, unless one of them shares its pointer; and a stop that is under way, or a
start that gives a consumed pointer back or hands it on, ends with the station
free if its calls go well. `Station.Retiring` says that one of these is the case.
What a request to take part no longer does not do is to look again later: a start
of a free station that was accepted before goes on, and a session that could not
be stopped then is not stopped later.

Key definitions: `Station.Retiring`, `Station.keepsOff`, `Station.missesDevice`.
Key theorems: `Station.freed_of_handingOn`, `Station.retiring_step`,
`Station.disabled_station_rests_free`.
-/
import PointerShare.Proofs.Footprint
import PointerShare.Proofs.Stopping
import PointerShare.Proofs.Underway

namespace PointerShare

/-- The start whose link has been prepared when this call ends. -/
def Continuation.opens? : Continuation → Option StartPlan
  | prepared plan => some plan
  | _ => none

namespace Station

/-- The station is free and has no errand, or its errand is to become free: to end its session, or to
let go of the pointer that it consumes. -/
def Retiring (s : Station) : Option Errand → Prop
  | none => s.role = .free
  | some (.stop ..) => True
  | some (.start role ..) => role.isFree = false

/-- The calls of the station go well, no peer says how a start of its own ended, and nobody sets the
station's switch, except to turn it off. -/
def keepsOff (s : Station) : Move → Bool
  | .take => s.ending?.all fun call => call.outcome == .succeeded || call.outcome == .superseded
  | .event (.request (.enable on)) => !on
  | .event (.signal (.startResult ..)) => false
  | .happen (.flip id _) => id != s.home
  | .happen (.crossing c) => !c.isOn s.home
  | _ => true

/-- The device of a start is gone when its link has been prepared. -/
def missesDevice (s : Station) : Move → Bool
  | .take => s.ending?.any fun call => call.completion.opens?.any fun plan =>
    (s.registry.shareable plan.device).isEmpty
  | _ => false

variable {s : Station} {m : Move} {e : Option Errand}

/-- As long as calls go well, one that ends with a reason was replaced by a newer call. -/
theorem superseded_of_keepsOff (hm : s.keepsOff .take = true) {call : Resolved Continuation}
    (hc : s.ending? = some call) {reason : Reason} (ho : call.outcome.reason? = some reason) :
    call.outcome = .superseded := by
  rw [keepsOff, hc] at hm
  have hwell : call.outcome = .succeeded ∨ call.outcome = .superseded := by simpa using hm
  rcases hwell with hsucceeded | hsuperseded
  · rw [hsucceeded] at ho
    cases ho
  · exact hsuperseded

/-- The move that closes a start of an inbound station frees it, if its calls go well and its device is
there. -/
theorem freed_of_handingOn {shared : Dhid} {place : Location} {target : NetworkId} {device : DeviceId}
    (hw : s.Speaks) (h : Phase s.control (some (.start (.inbound shared) place target device)))
    (hm : s.keepsOff m = true) (hd : s.missesDevice m = false) (hidle : (s.step m).guard = .idle) :
    (s.step m).role = .free := by
  obtain ⟨c, ns, ds, ht, hs⟩ := s.turns m hw
  have hstays (hg : (s.step m).control.guard = s.guard) : False := by
    rw [show (s.step m).control.guard = .idle from hidle, show s.guard = .starting from h.guard] at hg
    cases hg
  rcases aside_or ht h with ha | ⟨-, rfl⟩ | ⟨-, hg, -⟩ | ⟨rfl, call, hc, htr⟩
  · exact (hstays (hs.control ▸ ha.guard)).elim
  · exact congrArg Control.role hs.control
  · exact (hstays (hs.control ▸ hg)).elim
  · obtain ⟨_, hends, -⟩ := take_of_ending hc
    obtain ⟨e, he, hwaits, hsup, -⟩ := h.ends_step hends htr
    cases he
    have ho : call.outcome.reason? = none :=
      Option.eq_none_iff_forall_ne_some.mpr fun _ ho => hsup (superseded_of_keepsOff hm hc ho)
    have hrole : s.role = .inbound shared := h.role
    have hfreed {target : NetworkId} {device : DeviceId}
        (hn : call.completion.last? = some (target, device)) : (s.step .take).role = .free := by
      obtain ⟨_, -, hdoes⟩ := does_handsOn hc hn ho hrole
      exact congrArg Control.role hdoes.control
    generalize hn : call.completion = next at hwaits
    generalize call.kind = k at hwaits
    -- the call that ended is the last one, or another one follows
    cases hwaits with
    | prepared _ _ plan =>
      obtain ⟨c, _, _, _, hends, hshares, hdoes⟩ := does_opens hc hn ho
      cases hshares with
      | calls => exact (hstays ((congrArg Control.guard hdoes.control).trans hends.same.guard)).elim
      | lacks hnone =>
        rw [show c.registry = s.registry from hends.same.registry] at hnone
        simp [missesDevice, hc, hn, Continuation.opens?, hnone] at hd
    | started _ _ plan _ hr =>
      obtain ⟨c, hends, hdoes⟩ := does_stopsOrigin hc hn ho hr
      exact (hstays ((congrArg Control.guard hdoes.control).trans hends.same.guard)).elim
    | originStopped => exact hfreed (by rw [hn]; rfl)
    | cameBack => exact hfreed (by rw [hn]; rfl)

/-- As long as no start is accepted and its calls go well, a station that retires goes on to. -/
theorem retiring_step (hw : s.Speaks) (h : Phase s.control e) (hstart : s.startRoute? m = none)
    (hm : s.keepsOff m = true)
    (hd : ∀ role place target device, e = some (.start role place target device) →
      s.missesDevice m = false) (hr : s.Retiring e) : (s.step m).Retiring (errandAfter e s m) := by
  obtain ⟨c, ns, ds, ht, hs⟩ := s.turns m hw
  have hrole : (s.step m).role = c.role := congrArg Control.role hs.control
  cases hafter : errandAfter e s m with
  | some e' =>
    -- an errand that is open now was begun now and is a stop, or was open before
    rcases begins_or_open hafter with hb | ⟨-, rfl⟩
    · obtain ⟨_, _, rfl⟩ := stop_of_begins hstart hb
      trivial
    · cases e' with
      | start => exact hr
      | stop => trivial
  | none =>
    show (s.step m).role = .free
    cases e with
    | none =>
      rw [hrole]
      rcases roleChange_turn ht h with hsame | hchange
      · exact hsame.trans hr
      · generalize c.role = r at hchange ⊢
        cases hchange with
        | consumes => cases hm
        | getsBack => rfl
        | isLeft => rfl
        | resets => rfl
    | some e =>
      cases e with
      | start role place target device =>
        cases role with
        | free => cases hr
        | inbound shared =>
          exact freed_of_handingOn hw h hm (hd _ _ _ _ rfl) (idle_of_closed hafter)
        | outbound =>
          -- no start is accepted while outbound
          cases h with
          | underway _ _ _ _ _ _ _ _ hwaits =>
            obtain ⟨_, he, -⟩ := hwaits.stop_of_outbound rfl
            cases he
      | stop role peer =>
        rcases freed_or_failed hw h (idle_of_closed hafter) with hfree | ⟨rfl, call, reason, hc, hn, ho⟩
        · exact hfree
        · -- the call of the stop went well
          obtain ⟨_, he, _⟩ := take_of_ending hc
          obtain ⟨-, -, -, hsup, -⟩ := h.ends_step he (by rw [hn]; rfl)
          exact absurd (superseded_of_keepsOff hm hc ho) hsup

/-! ### The switch -/

theorem home_step (hw : s.Speaks) (m : Move) : (s.step m).home = s.home := by
  cases hm : m.keepsDevices with
  | true => exact congrArg Registry.home (registry_of_keeps hw hm)
  | false =>
    unfold Move.keepsDevices at hm
    split at hm
    · rfl
    · cases hm

/-- The switch that a request to take part or not sets is the station's own. -/
theorem isOn_enable {on : Bool} (h : s.crossing.updateFails = false) :
    (s.step (.event (.request (.enable on)))).crossing.isOn s.home = on := by
  have hu : s.crossing.update on [s.home] = .ok (s.crossing.put s.home on) := by
    simp [CrossingSwitch.update, h]
  have hw := s.works_enable hu
  exact (CrossingSwitch.isOn_of_states hw.states s.home).trans (CrossingSwitch.isOn_put _ _ _)

/-- A switch that is off stays off. -/
theorem off_step (hm : s.keepsOff m = true) (hoff : s.crossing.isOn s.home = false) :
    (s.step m).crossing.isOn s.home = false := by
  cases hsets : m.setsSwitch s.home with
  | false => exact (isOn_step hsets).trans hoff
  | true =>
    unfold Move.setsSwitch at hsets
    split at hsets
    · rename_i on
      obtain rfl : on = false := by simpa [keepsOff] using hm
      cases hf : s.crossing.updateFails with
      | false => exact isOn_enable hf
      | true =>
        have hfails : (s.enable false).2 = s := by simp [enable, CrossingSwitch.update, hf]
        show (s.enable false).2.crossing.isOn s.home = false
        rw [hfails]
        exact hoff
    · rename_i id on
      have hne : id ≠ s.home := by simpa [keepsOff] using hm
      exact absurd (by simpa using hsets) hne
    · rename_i c
      show c.isOn s.home = false
      simpa [keepsOff] using hm
    · cases hsets

/-- With its switch off a station accepts no start. -/
theorem startRoute?_of_off (hoff : s.crossing.isOn s.home = false) (m : Move) :
    s.startRoute? m = none := by
  unfold startRoute?
  split
  · unfold planStart
    split
    · rfl
    · simp only [hoff]
      rfl
  · rfl

/-! ### Runs -/

/-- From when the switch is off and the station retires, it goes on to. -/
theorem retiring_along (after : List Move) : ∀ {s : Station} {e : Option Errand}, s.Speaks →
    Phase s.control e → s.crossing.isOn s.home = false → s.Retiring e →
    Along step (fun s m => s.keepsOff m = true) s after →
    (∀ role place target device, e = some (.start role place target device) →
      Along step (fun s m => s.missesDevice m = false) s after) →
    (s.run after).guard = .idle → (s.run after).role = .free := by
  induction after with
  | nil =>
    intro s e _ h _ hr _ _ hidle
    obtain ⟨rfl, -⟩ := h.of_idle hidle
    exact hr
  | cons m after ih =>
    intro s e hw h hoff hr hafter hdevice
    have hoff' := off_step hafter.1 hoff
    rw [← home_step hw m] at hoff'
    have hstart := startRoute?_of_off hoff m
    refine ih (speaks_step m hw) (phase_step m hw h) hoff'
      (retiring_step hw h hstart hafter.1 (fun _ _ _ _ he => (hdevice _ _ _ _ he).1) hr) hafter.2
      fun role place target device he => ?_
    -- a start that is open now was open before
    rcases begins_or_open he with hb | ⟨-, rfl⟩
    · obtain ⟨_, _, hstop⟩ := stop_of_begins hstart hb
      cases hstop
    · exact (hdevice _ _ _ _ rfl).2

/-- A station that retires when it is to take part no longer, or whose session can be stopped then,
retires. -/
theorem retiring_of_disable (hw : s.Speaks) (h : Phase s.control e)
    (hworks : s.crossing.updateFails = false) (hr : s.Retiring e ∨ s.stop.1 = .ok ()) :
    let m := Move.event (.request (.enable false))
    (s.step m).Retiring (errandAfter e s m) := by
  intro m
  rcases hr with hr | hok
  · exact retiring_step hw h rfl rfl (fun _ _ _ _ _ => rfl) hr
  cases hp : s.planStop with
  | error refusal =>
    rw [stop_of_refused hp] at hok
    cases hok
  | ok r =>
    have hroute : s.stopRoute? m = some r := by
      show (if (false || s.crossing.updateFails || s.role.isFree) = true then none
        else s.planStop.toOption) = some r
      rw [hworks, role_of_planStop hp, hp]
      rfl
    have hguard : (s.step m).guard = .stopping :=
      congrArg Control.guard (close_of_stopRoute? hw hroute)
    rw [errandAfter, hguard, begins_of_stopRoute? hroute]
    trivial

/-- **A station that is to take part no longer ends up free**, if it was free without a start of its
own under way, or was ending its session already, or could end it then; or if it was letting go of the
pointer that it consumed, and the device of that start is not gone when its link has been prepared.
From then on it is free whenever its guard is idle, as long as its calls go well, no peer says how a
start ended, and nobody else sets its switch. -/
theorem disabled_station_rests_free (settings : Settings) (registry : Registry)
    (before after : List Move)
    (hworks : ((create settings registry).run before).crossing.updateFails = false)
    (hretires : ((create settings registry).run before).Retiring
        ((create settings registry).errand before) ∨
      ((create settings registry).run before).stop.1 = .ok ())
    (hdevice : ∀ role place target device,
      (create settings registry).errand before = some (.start role place target device) →
        Along step (fun s m => s.missesDevice m = false)
          (((create settings registry).run before).step (.event (.request (.enable false)))) after)
    (hafter : Along step (fun s m => s.keepsOff m = true)
      (((create settings registry).run before).step (.event (.request (.enable false)))) after) :
    let s := (((create settings registry).run before).step
      (.event (.request (.enable false)))).run after
    s.guard = .idle → s.role = .free := by
  intro s
  have hw := speaks_run settings registry before
  have hphase := phase_run settings registry before
  refine retiring_along after (speaks_step _ hw) (phase_step _ hw hphase) ?_
    (retiring_of_disable hw hphase hworks hretires) hafter fun role place target device he => ?_
  · rw [home_step hw]
    exact isOn_enable hworks
  · rcases begins_or_open he with hb | ⟨-, he⟩
    · obtain ⟨_, _, hstop⟩ := stop_of_begins rfl hb
      cases hstop
    · exact hdevice _ _ _ _ he

/-- A session that can be stopped when the station is to take part no longer is stopped, and a pointer
that is being handed on then is let go of. -/
theorem disabled_session_ends :
    let disable : Move := .event (.request (.enable false))
    let s := (create ⟨8, 1000, 2, 1000, .center⟩ lonePointer).run (sharedWith [])
    let s' := (s.step disable).run [.take, .take, .take]
    let consumer : Registry := ⟨⟨"a"⟩, [⟨⟨2⟩, ⟨"n"⟩, ⟨"b"⟩, [], true, true⟩]⟩
    let handingOn : List Move := [.event (.signal (.startRequest ⟨"b"⟩)),
      .event (.signal (.startResult ⟨"b"⟩ true ⟨"n"⟩ .center)), .event (.request (.start ⟨"c"⟩ ⟨2⟩))]
    let t := (create ⟨8, 1000, 2, 1000, .center⟩ consumer).run handingOn
    let t' := (t.step disable).run [.take, .take, .take, .take, .take]
    (s.role = .outbound ⟨"m"⟩ ∧ s'.guard = .idle ∧ s'.role = .free) ∧
      t.role = .inbound ⟨"n"⟩ ∧ t.guard = .starting ∧ t'.guard = .idle ∧ t'.role = .free := by
  intro disable s s' consumer handingOn t t'
  have hrole : s.role = .outbound ⟨"m"⟩ := by decide +kernel
  have hlink : s.link.isPrepared = true := by decide +kernel
  have hplan := (planStop_of_outbound (by decide +kernel) hrole).trans (if_pos hlink)
  have hidle : s'.guard = .idle := by decide +kernel
  have hidle' : t'.guard = .idle := by decide +kernel
  refine ⟨⟨hrole, hidle, ?_⟩, by decide +kernel, by decide +kernel, hidle', ?_⟩
  · exact disabled_station_rests_free ⟨8, 1000, 2, 1000, .center⟩ lonePointer (sharedWith [])
      [.take, .take, .take] (by decide +kernel) (.inr (stop_of_planStop hplan).1)
      (fun _ _ _ _ _ => by decide +kernel) (by decide +kernel) hidle
  · have herrand : (create ⟨8, 1000, 2, 1000, .center⟩ consumer).errand handingOn =
        some (.start (.inbound ⟨"n"⟩) .center ⟨"c"⟩ ⟨2⟩) := by decide +kernel
    refine disabled_station_rests_free ⟨8, 1000, 2, 1000, .center⟩ consumer handingOn
      [.take, .take, .take, .take, .take] (by decide +kernel) (.inl ?_)
      (fun _ _ _ _ _ => by decide +kernel) (by decide +kernel) hidle'
    rw [herrand]
    rfl

/-- A station that is to take part no longer while a start of its own is under way comes to share its
pointer, and rests so with its switch off. -/
theorem disabled_while_starting :
    let s₀ := create ⟨8, 1000, 2, 1000, .center⟩ lonePointer
    let disabled := s₀.run [.event (.request (.start ⟨"b"⟩ ⟨1⟩)), .event (.request (.enable false))]
    let s := disabled.run [.take, .take, .take]
    disabled.crossing.isOn disabled.home = false ∧
      Along step (fun s m => s.keepsOff m = true) disabled [.take, .take, .take] ∧
      s.crossing.isOn s.home = false ∧ s.guard = .idle ∧ s.gateway.mailbox.queue = [] ∧
      s.gateway.tracker.openCount = 0 ∧ s.role = .outbound ⟨"m"⟩ := by
  decide +kernel

end Station

end PointerShare
