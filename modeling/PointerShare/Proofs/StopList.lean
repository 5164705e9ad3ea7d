/-
# What a stop names of what was started

The devices of a shared session are started by the station's own start, and by
every keyboard that is plugged in while the session lasts. A bookkeeper lists
the start calls since a start was accepted last (`Station.starts`). What the stop
call of the session names is read off the registry when the stop is accepted:
the shared pointer and the keyboards that travel with it. So of what was started
the call names what the session began with, and of the keyboards that joined it
those that the registry has with the pointer, and no other.

Key definitions: `Station.startsAfter`, `Station.starts`, `Joins`,
`Station.Enlisted`.
Key theorems: `Station.enlisted_step`, `Station.stop_names_iff_travels`.
-/
import PointerShare.Proofs.LettingGo
import PointerShare.Proofs.Standing
import PointerShare.Proofs.Stopping

namespace PointerShare

/-- What a start call has to do with a session that shares the pointer `shared`: it is the session's
own, or a keyboard's. -/
inductive Joins (r : Registry) (shared : Dhid) (args : CallArgs) : Continuation → Prop
  | device (plan : StartPlan) (hd : r.dhidOf? plan.device = some shared)
      (ha : args.dhids = r.shareable plan.device) : Joins r shared args (.started plan)
  | keyboard (k : Dhid) (ha : args.dhids = [k]) : Joins r shared args (.keyboardAdded k)

/-- A start call of a start with `device`. -/
structure Starts (r : Registry) (device : DeviceId) (args : CallArgs) (next : Continuation) :
    Prop where
  next : ∃ plan, next = .started plan ∧ plan.device = device
  dhids : args.dhids = r.shareable device
  known : r.shareable device ≠ []

namespace Station

/-- The start calls since a start was accepted last. -/
def startsAfter (l : List Entry) (s : Station) (m : Move) : List Entry :=
  (if (s.startRoute? m).isSome then [] else l) ++ (s.issues m).filter fun y => y.kind = .start

def starts (s : Station) (ms : List Move) : List Entry := track startsAfter [] s ms

/-- The list `l` has start calls of the errand or session only, and the stop call that is pending, if
there is one, names what travels with the shared pointer. -/
structure Enlisted (s : Station) (e : Option Errand) (l : List Entry) : Prop where
  starting : ∀ role place target device, e = some (.start role place target device) →
    ∀ y ∈ l, Starts s.registry device y.call.args y.call.completion
  outbound : ∀ shared, s.role = .outbound shared →
    ∀ y ∈ l, Joins s.registry shared y.call.args y.call.completion
  stopping : ∀ shared x peer, s.role = .outbound shared → s.control.calls.get .stop = some x →
    x.completion = .stopped peer → x.args.dhids = s.dhidsOfShared shared

end Station

/-! ### The pointer and what travels with it -/

namespace Registry

variable {r : Registry} {device : DeviceId}

theorem dhidOf?_of_shareable (h : r.shareable device ≠ []) :
    r.dhidOf? device = some ((r.dhidOf? device).getD .empty) := by
  refine Registry.dhidOf?_eq (Option.isSome_iff_exists.mpr ?_)
  unfold shareable at h
  cases hd : r.byId? device with
  | none =>
    rw [hd] at h
    exact absurd rfl h
  | some d => exact ⟨d, rfl⟩

end Registry

theorem Starts.joins {r : Registry} {device : DeviceId} {args : CallArgs} {next : Continuation}
    (h : Starts r device args next) :
    Joins r ((r.dhidOf? device).getD .empty) args next := by
  obtain ⟨plan, rfl, rfl⟩ := h.next
  exact .device plan (Registry.dhidOf?_of_shareable h.known) h.dhids

/-- The errand of an outbound station is no start. -/
theorem Phase.not_outbound_of_start {c : Control} {role : Role} {place : Location}
    {target : NetworkId} {device : DeviceId}
    (h : Phase c (some (.start role place target device))) : c.role.isOutbound = false := by
  cases h with
  | underway _ k call _ _ hr _ _ hw _ =>
    cases ho : c.role.isOutbound with
    | false => rfl
    | true =>
      obtain ⟨_, he, -⟩ := hw.stop_of_outbound (hr ▸ ho)
      cases he

namespace Station

variable {s : Station} {m : Move} {e : Option Errand} {shared : Dhid}

/-- What travels with the pointer of a device, when no other device has its name. -/
theorem dhidsOfShared_eq (h : (s.registry.devices.map InputDevice.dhid).Nodup) {device : DeviceId}
    (hd : s.registry.dhidOf? device = some shared) :
    s.dhidsOfShared shared = s.registry.shareable device := by
  obtain ⟨d, hfind, rfl⟩ := Option.map_eq_some_iff.mp hd
  have hid : d.id = device := by simpa using List.find?_some hfind
  have hne : s.registry.shareable device ≠ [] :=
    Registry.shareable_ne_nil (Option.isSome_iff_exists.mpr ⟨d, hfind⟩)
  rw [dhidsOfShared, Registry.deviceOf?_of_nodup h (List.mem_of_find?_eq_some hfind), hid]
  exact if_neg (by simpa using hne)

/-- Of a start call that joins the session, the devices that travel with the pointer are all, unless
it is that of a keyboard which does not. -/
theorem Joins.subset_iff (h : (s.registry.devices.map InputDevice.dhid).Nodup) {args : CallArgs}
    {next : Continuation} (hj : Joins s.registry shared args next) :
    args.dhids ⊆ s.dhidsOfShared shared ↔
      ∀ k, next = .keyboardAdded k → k ∈ s.dhidsOfShared shared := by
  cases hj with
  | device plan hd ha =>
    rw [ha, dhidsOfShared_eq h hd]
    simp
  | keyboard k ha =>
    rw [ha]
    simp

/-! ### A move and the list -/

/-- A start call that a move issues is of the start that is then open. -/
theorem starts_of_occasion (h : Phase s.control e) {role : Role} {place : Location}
    {target : NetworkId} {device : DeviceId}
    (he : errandAfter e s m = some (.start role place target device)) {args : CallArgs}
    {next : Continuation} (ho : Occasion s m .start args next) :
    Starts s.registry device args next := by
  cases ho with
  | startAtOnce target' device' route plan dhids hp hr _ hd hne =>
    obtain ⟨-, hdevice, -⟩ := planStart_plan hp hr
    obtain rfl : device' = device := by
      have hb := begins_of_planStart hp
      rcases begins_or_open he with hb' | ⟨hb', -⟩
      · rw [hb] at hb'
        cases hb'
        rfl
      · rw [hb] at hb'
        cases hb'
    subst hdevice
    exact ⟨⟨_, rfl, rfl⟩, hd.symm, hd ▸ hne⟩
  | startPrepared call plan dhids hc hn _ hd hne =>
    obtain ⟨t, hends, -⟩ := take_of_ending hc
    obtain ⟨_, _, rfl, -⟩ := h.ends_prepared hends hn
    rcases begins_or_open he with hb | ⟨-, he'⟩
    · cases hb
    · cases he'
      exact ⟨⟨_, rfl, rfl⟩, hd.symm, hd ▸ hne⟩
  | keyboard dhid hr _ =>
    rcases begins_or_open he with hb | ⟨-, rfl⟩
    · cases hb
    · have hout := h.not_outbound_of_start
      rw [control_role, hr] at hout
      cases hout

/-- A start call that a move issues while outbound is that of a keyboard. -/
theorem joins_of_occasion (h : Phase s.control e) (hr : s.role = .outbound shared) {args : CallArgs}
    {next : Continuation} (ho : Occasion s m .start args next) :
    Joins s.registry shared args next := by
  have hout : s.role.isOutbound = true := by rw [hr]; rfl
  cases ho with
  | startAtOnce target device route plan dhids hp hroute _ _ _ =>
    obtain ⟨-, -, hnot, -⟩ := planStart_plan hp hroute
    rw [hout] at hnot
    cases hnot
  | startPrepared call plan dhids hc hn _ _ _ =>
    obtain ⟨t, hends, -⟩ := take_of_ending hc
    obtain ⟨_, _, rfl, -⟩ := h.ends_prepared hends hn
    have hnot := h.not_outbound_of_start
    rw [control_role, hout] at hnot
    cases hnot
  | keyboard dhid _ _ => exact .keyboard dhid rfl

theorem dhids_of_stopRoute? {r : StopRoute} (hr : s.role = .outbound shared)
    (h : s.stopRoute? m = some r) : r.dhids = s.dhidsOfShared shared := by
  have hp := planStop_of_stopRoute? h
  simp only [planStop, hr] at hp
  split at hp
  · cases hp
  unfold planStopOutbound at hp
  split at hp
  · cases hp
    rfl
  · cases hp

/-- A line of the list is new, or it was there and no start has been accepted. -/
theorem of_mem_startsAfter {l : List Entry} (hw : s.Speaks) {y : Entry}
    (hy : y ∈ startsAfter l s m) :
    s.startRoute? m = none ∧ y ∈ l ∨ Occasion s m .start y.call.args y.call.completion := by
  rcases List.mem_append.mp hy with hy | hy
  · split at hy
    · cases hy
    · rename_i hnone
      exact .inl ⟨by simpa using hnone, hy⟩
  · obtain ⟨hy, hkind⟩ := List.mem_filter.mp hy
    have ho := occasion_of_issues hw hy
    rw [of_decide_eq_true hkind] at ho
    exact .inr ho

/-- Every move keeps the list to the errand or session. -/
theorem enlisted_step {l : List Entry} (hw : s.Speaks) (h : Phase s.control e)
    (hm : m.keepsDevices = true) (hl : s.Enlisted e l) :
    (s.step m).Enlisted (errandAfter e s m) (startsAfter l s m) := by
  have hreg := registry_of_keeps hw hm
  have hdhids (d : Dhid) : (s.step m).dhidsOfShared d = s.dhidsOfShared d := by
    unfold dhidsOfShared
    rw [hreg]
  refine ⟨fun role place target device he y hy => ?_, fun shared hr y hy => ?_,
    fun shared x peer hr hx hn => ?_⟩
  · rw [hreg]
    rcases of_mem_startsAfter hw hy with ⟨hstart, hy⟩ | ho
    · rcases begins_or_open he with hb | ⟨-, rfl⟩
      · obtain ⟨_, _, hstop⟩ := stop_of_begins hstart hb
        cases hstop
      · exact hl.starting role place target device rfl y hy
    · exact starts_of_occasion h he ho
  · rw [hreg]
    obtain ⟨c, ns, ds, ht, hs⟩ := s.turns m hw
    have hrole : (s.step m).role = c.role := congrArg Control.role hs.control
    have hchange := roleChange_turn ht h
    rw [← hrole, hr] at hchange
    rcases hchange with hsame | hchange
    · rcases of_mem_startsAfter hw hy with ⟨-, hy⟩ | ho
      · exact hl.outbound shared hsame.symm y hy
      · exact joins_of_occasion h hsame.symm ho
    · cases hchange with
      | shares place target device call _ hc _ hlast =>
        rcases of_mem_startsAfter hw hy with ⟨-, hy⟩ | ho
        · exact (hl.starting .free place target device rfl y hy).joins
        · -- the call that ends the start is not the one that prepares its link
          obtain ⟨_, _, args, next⟩ := y
          dsimp only at ho
          cases ho with
          | startPrepared call' plan _ hc' hn _ _ _ =>
            obtain rfl : call' = call := Option.some.inj (hc'.symm.trans hc)
            rw [hn] at hlast
            cases hlast
  · obtain ⟨e', he', -, -⟩ := (phase_step m hw h).of_step hx (by rw [hn]; rfl)
    have hrole : s.role = .outbound shared := (role_of_open hw h he').symm.trans hr
    rw [hdhids]
    rcases held_or_issued hw hx with hheld | ho
    · exact hl.stopping shared x peer hrole hheld hn
    · obtain ⟨request, args, completion⟩ := x
      obtain rfl : completion = .stopped peer := hn
      cases ho with
      | stop _ r hroute => exact dhids_of_stopRoute? hrole hroute

section run

variable (settings : Settings) (registry : Registry) (before : List Move)

theorem enlisted_run (hkeep : ∀ m ∈ before, m.keepsDevices = true) :
    ((create settings registry).run before).Enlisted ((create settings registry).errand before)
      ((create settings registry).starts before) := by
  let s₀ := create settings registry
  refine history (P := fun ms s => (∀ m ∈ ms, m.keepsDevices = true) →
      s.Enlisted (s₀.errand ms) (s₀.starts ms)) (fun _ => ?_) (fun ms m ih hm => ?_) before hkeep
  · exact ⟨nofun, nofun, nofun⟩
  · obtain ⟨hms, hm⟩ := List.forall_mem_append.mp hm
    rw [errand, starts, track_concat, track_concat]
    exact enlisted_step (speaks_run settings registry ms) (phase_run settings registry ms)
      (hm m (List.mem_singleton_self m)) (ih hms)

/-- **The stop call of a shared session names what travels with the pointer**, and so what a start
call of the session started, unless that was a keyboard which the registry does not have with it.
When an outbound station becomes free by an errand of its own, it is the stop call of the session
that ended well. Each start call since the start of the session was accepted is that start's or a
keyboard's; and if no two devices have the same hardware id, all it started is named just if it is
not that of a keyboard which does not travel with the pointer. -/
theorem stop_names_iff_travels (hkeep : ∀ m ∈ before, m.keepsDevices = true) (shared : Dhid)
    (hin : ((create settings registry).run before).role = .outbound shared)
    (hout : (((create settings registry).run before).step .take).role = .free) :
    let s₀ := create settings registry
    let s := s₀.run before
    ∃ call peer x, s.ending? = some call ∧ call.completion = .stopped peer ∧
      call.outcome = .succeeded ∧ ⟨.stop, x⟩ ∈ s₀.ledger before ∧ x.request = call.request ∧
      x.args.dhids = s.dhidsOfShared shared ∧
      (∀ y ∈ s₀.starts before, Joins registry shared y.call.args y.call.completion) ∧
      ((registry.devices.map InputDevice.dhid).Nodup →
        ∀ y ∈ s₀.starts before, y.call.args.dhids ⊆ x.args.dhids ↔
          ∀ k, y.call.completion = .keyboardAdded k → k ∈ s.dhidsOfShared shared) := by
  intro s₀ s
  have hphase : Phase s.control (s₀.errand before) := phase_run settings registry before
  have hrec : s.control.Recorded (s₀.ledger before) := recorded_run settings registry before
  have hlist : s.Enlisted (s₀.errand before) (s₀.starts before) :=
    enlisted_run settings registry before hkeep
  have hreg : s.registry = registry := registry_run settings registry before hkeep
  obtain ⟨call, args, e, hc, hsucceeded, hget, -, hwaits, hlast⟩ :=
    ending_of_freed (speaks_run settings registry before) hphase (by rw [hin]; rfl) hout
  obtain ⟨peer, hn⟩ : ∃ peer, call.completion = .stopped peer := by
    refine hlast.resolve_left fun h => ?_
    rw [hin] at h
    cases h.1
  obtain ⟨kind, request, outcome, completion⟩ := call
  obtain rfl : completion = .stopped peer := hn
  obtain rfl : kind = .stop := by cases hwaits; rfl
  have hargs := hlist.stopping shared _ peer hin hget rfl
  have hjoins := hlist.outbound shared hin
  refine ⟨_, peer, _, hc, rfl, hsucceeded, hrec.pending _ _ hget, rfl, hargs,
    fun y hy => hreg ▸ hjoins y hy, fun hdhids y hy => ?_⟩
  rw [hargs]
  exact Joins.subset_iff (hreg ▸ hdhids) (hjoins y hy)

end run

/-- A session with `b` begins, `between` happens, and the session is stopped; the stop call has still
to be answered by one of its two shapes. -/
def sharedUntilStop (between : List Move) : List Move :=
  [.event (.request (.start ⟨"b"⟩ ⟨1⟩)), .take, .take, .take] ++ between ++
    [.event (.request .stop), .take]

/-- An undisturbed session is stopped as it began. -/
theorem session_stopped_as_begun :
    let s₀ := create ⟨8, 1000, 2, 1000, .center⟩ lonePointer
    (s₀.starts (sharedUntilStop [])).length = 1 ∧
      ∃ x, ⟨.stop, x⟩ ∈ s₀.ledger (sharedUntilStop []) ∧
        ∀ y ∈ s₀.starts (sharedUntilStop []), y.call.args.dhids ⊆ x.args.dhids := by
  intro s₀
  refine ⟨by decide +kernel, ?_⟩
  obtain ⟨_, _, x, -, -, -, hx, -, -, -, hnames⟩ :=
    stop_names_iff_travels ⟨8, 1000, 2, 1000, .center⟩ lonePointer (sharedUntilStop [])
      (by simp [sharedUntilStop, Move.keepsDevices]) ⟨"m"⟩ (by decide +kernel) (by decide +kernel)
  have hown : ∀ y ∈ s₀.starts (sharedUntilStop []),
      y.call.completion = .started ⟨⟨"b"⟩, ⟨1⟩, ⟨"a"⟩, [⟨"m"⟩], false⟩ := by decide +kernel
  refine ⟨x, hx, fun y hy => (hnames (by decide) y hy).mpr fun k hk => ?_⟩
  rw [hown y hy] at hk
  cases hk

/-- A keyboard of which the registry does not say that it travels with the pointer joins the session,
and is not stopped with it. -/
theorem plugged_keyboard_left_running :
    let s₀ := create ⟨8, 1000, 2, 1000, .center⟩ lonePointer
    let before := sharedUntilStop [.event (.keyboardOnline ⟨"k"⟩), .take, .take]
    let s := s₀.run before
    (s₀.run (before.take 6)).ending? = some ⟨.start, ⟨3⟩, .succeeded, .keyboardAdded ⟨"k"⟩⟩ ∧
      ⟨.start, ⟨3⟩, ⟨⟨"a"⟩, ⟨"b"⟩, [⟨"k"⟩]⟩, .keyboardAdded ⟨"k"⟩⟩ ∈ s₀.starts before ∧
      s.role = .outbound ⟨"m"⟩ ∧ (s.step .take).role = .free ∧
      s.ending? = some ⟨.stop, ⟨4⟩, .succeeded, .stopped ⟨"b"⟩⟩ ∧
      ⟨.stop, ⟨4⟩, ⟨⟨"a"⟩, ⟨"b"⟩, [⟨"m"⟩]⟩, .stopped ⟨"b"⟩⟩ ∈ s₀.ledger before ∧
      ⟨"k"⟩ ∉ [(⟨"m"⟩ : Dhid)] := by
  decide +kernel

end Station

end PointerShare
