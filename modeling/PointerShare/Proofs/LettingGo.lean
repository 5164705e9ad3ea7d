/-
# How a consumed pointer is let go

An inbound station becomes free by an errand of its own in three ways: it stops
the session, gives the pointer back to its host, or hands it on. Each ends with
a stop call about the link by which the pointer comes, from its host to the
station itself. What the call names to be stopped on that link differs: ending
the session and giving back name what travels with the pointer, handing on names
what travels with the device that the start was asked for
(`Errand.TakesAlong`). Only if the pointer itself is among that, the stop call
names it.

Key definitions: `Station.LetsGo`, `Station.Leaving`, `Errand.TakesAlong`.
Key theorems: `Station.LetsGo.takes`, `Station.leaving_step`,
`Station.let_go_iff_taken_along`.
-/
import PointerShare.Proofs.Underway
import Mathlib.Data.List.Nodup

namespace PointerShare

/-! ### Devices that are known by one name -/

/-- The first device with the name of `d` is `d`, when the names are all different. -/
theorem InputDevice.find?_of_nodup {β : Type} [DecidableEq β] (name : InputDevice → β)
    {l : List InputDevice} (h : (l.map name).Nodup) {d : InputDevice} (hd : d ∈ l) :
    (l.find? fun x => name x == name d) = some d := by
  have hsome : (l.find? fun x => name x == name d).isSome = true :=
    List.find?_isSome.mpr ⟨d, hd, beq_self_eq_true (name d)⟩
  obtain ⟨d', hd'⟩ := Option.isSome_iff_exists.mp hsome
  have hname : name d' = name d := by simpa using List.find?_some hd'
  rw [hd', List.inj_on_of_nodup_map h (List.mem_of_find?_eq_some hd') hd hname]

namespace Registry

variable {r : Registry} {d : InputDevice}

theorem byId?_of_nodup (h : (r.devices.map InputDevice.id).Nodup) (hd : d ∈ r.devices) :
    r.byId? d.id = some d :=
  InputDevice.find?_of_nodup InputDevice.id h hd

theorem deviceOf?_of_nodup (h : (r.devices.map InputDevice.dhid).Nodup) (hd : d ∈ r.devices) :
    r.deviceOf? d.dhid = some d.id :=
  congrArg (Option.map InputDevice.id) (InputDevice.find?_of_nodup InputDevice.dhid h hd)

end Registry

namespace Station

/-- A pointer travels with itself. -/
theorem mem_dhidsOfShared {s : Station} (h : (s.registry.devices.map InputDevice.id).Nodup)
    (shared : Dhid) : shared ∈ s.dhidsOfShared shared := by
  unfold dhidsOfShared
  split
  · exact List.mem_singleton_self shared
  rename_i device hdevice
  obtain ⟨d, hfind, rfl⟩ := Option.map_eq_some_iff.mp hdevice
  have hdhid : d.dhid = shared := by simpa using List.find?_some hfind
  have hshareable : s.registry.shareable d.id = shared :: d.keyboards := by
    rw [Registry.shareable, Registry.byId?_of_nodup h (List.mem_of_find?_eq_some hfind), ← hdhid]
  rw [hshareable]
  exact List.mem_cons_self

end Station

/-- The errand takes the pointer `shared` of `origin` along when it lets go: it ends the session or
gives the pointer back, or the pointer travels with the device that it was asked for. -/
def Errand.TakesAlong (r : Registry) (origin : NetworkId) (shared : Dhid) : Errand → Prop
  | .start _ _ target device => target = origin ∨ shared ∈ r.shareable device
  | .stop .. => True

namespace Station

/-- What the steps of an errand of an inbound station are about, `shared` being the pointer. A start
that hands it on keeps its host in mind until the link from there is stopped. -/
inductive LetsGo (s : Station) (shared : Dhid) : CallArgs → Continuation → Prop
  | prepared (args : CallArgs) (plan : StartPlan) (ho : s.originOf? shared = some plan.src)
      (ht : plan.target ≠ plan.src) : LetsGo s shared args (.prepared plan)
  | started (args : CallArgs) (plan : StartPlan) (ho : s.originOf? shared = some plan.src)
      (ht : plan.target ≠ plan.src) (hd : plan.dhids = s.registry.shareable plan.device) :
      LetsGo s shared args (.started plan)
  | originStopped (plan : StartPlan) (ho : s.originOf? shared = some plan.src)
      (ht : plan.target ≠ plan.src) (hd : plan.dhids = s.registry.shareable plan.device) :
      LetsGo s shared ⟨plan.src, s.home, plan.dhids⟩ (.originStopped plan)
  | cameBack (target : NetworkId) (device : DeviceId) (ho : s.originOf? shared = some target) :
      LetsGo s shared ⟨target, s.home, s.dhidsOfShared shared⟩ (.cameBack target device)
  | stopped (peer : NetworkId) (ho : s.originOf? shared = some peer) :
      LetsGo s shared ⟨peer, s.home, s.dhidsOfShared shared⟩ (.stopped peer)

/-- The step of an errand that is pending at an inbound station is on the way to let go. -/
def Leaving (s : Station) : Prop :=
  ∀ shared k x, s.role = .inbound shared → s.control.calls.get k = some x →
    x.completion.isTransition = true → s.LetsGo shared x.args x.completion

variable {s : Station} {m : Move} {e : Option Errand} {shared : Dhid}

theorem LetsGo.of_same {s' : Station} {args : CallArgs} {next : Continuation}
    (h : s.LetsGo shared args next) (hreg : s'.registry = s.registry)
    (hpeer : s'.sessionPeer = s.sessionPeer) : s'.LetsGo shared args next := by
  have horigin : s'.originOf? shared = s.originOf? shared := by
    unfold originOf?
    rw [hreg, hpeer]
  have hhome : s'.home = s.home := congrArg Registry.home hreg
  have hdhids : s'.dhidsOfShared shared = s.dhidsOfShared shared := by
    unfold dhidsOfShared
    rw [hreg]
  cases h with
  | prepared args plan ho ht => exact .prepared args plan (horigin.trans ho) ht
  | started args plan ho ht hd => exact .started args plan (horigin.trans ho) ht (hreg ▸ hd)
  | originStopped plan ho ht hd =>
    rw [← hhome]
    exact .originStopped plan (horigin.trans ho) ht (hreg ▸ hd)
  | cameBack target device ho =>
    rw [← hhome, ← hdhids]
    exact .cameBack target device (horigin.trans ho)
  | stopped peer ho =>
    rw [← hhome, ← hdhids]
    exact .stopped peer (horigin.trans ho)

/-- The step that ends the errand of an inbound station is a stop call on the link by which the
pointer comes; whether it names the pointer is as the errand has it. -/
theorem LetsGo.takes {args : CallArgs} {next : Continuation} (hgo : s.LetsGo shared args next)
    {e : Errand} {k : CallKind} (hw : e.Waits k next) (hrole : e.role = .inbound shared)
    (hlast : next.last?.isSome = true ∨ ∃ peer, next = .stopped peer)
    (hmem : shared ∈ s.dhidsOfShared shared) :
    k = .stop ∧ ∃ origin, s.originOf? shared = some origin ∧ args.src = origin ∧
      args.sink = s.home ∧ (shared ∈ args.dhids ↔ e.TakesAlong s.registry origin shared) := by
  cases hw with
  | prepared => rcases hlast with h | ⟨_, h⟩ <;> cases h
  | started role _ plan _ hrel =>
    -- handing on goes on with the call that stops the link from the origin
    have hrelays : plan.relays = true := by
      rw [hrel, show role = .inbound shared from hrole]
      rfl
    rcases hlast with h | ⟨_, h⟩
    · simp [Continuation.last?, hrelays] at h
    · cases h
  | originStopped _ _ plan =>
    cases hgo with
    | originStopped _ ho hne hd =>
      exact ⟨rfl, plan.src, ho, rfl, rfl, by simp [Errand.TakesAlong, hd, hne]⟩
  | cameBack _ _ target =>
    cases hgo with
    | cameBack _ _ ho => exact ⟨rfl, target, ho, rfl, rfl, by simp [Errand.TakesAlong, hmem]⟩
  | stopped _ peer =>
    cases hgo with
    | stopped _ ho => exact ⟨rfl, peer, ho, rfl, rfl, by simp [Errand.TakesAlong, hmem]⟩

/-- A start that prepares or shares, accepted while inbound, hands the pointer on. -/
theorem relay_of_planStart {target : NetworkId} {device : DeviceId} {route : StartRoute}
    {plan : StartPlan} (hp : s.planStart target device = .ok route)
    (hr : route = .share plan ∨ route = .relay plan) (hi : s.role = .inbound shared) :
    s.originOf? shared = some plan.src ∧ plan.target ≠ plan.src := by
  rcases planStart_cases hp with ⟨hf, -⟩ | ⟨d, origin, hd, ho, ⟨-, rfl⟩ | ⟨hne, rfl⟩⟩
  · rw [hi] at hf
    cases hf
  · rcases hr with hr | hr <;> cases hr
  · obtain rfl : shared = d := by rw [hi] at hd; exact Role.inbound.inj hd
    rcases hr with hr | hr <;> cases hr
    exact ⟨ho, hne⟩

/-- The step that ends now, with what it was registered with. -/
theorem letsGo_of_ending (h : Phase s.control e) (hl : s.Leaving) (hr : s.role = .inbound shared)
    {call : Resolved Continuation} (hc : s.ending? = some call)
    (ht : call.completion.isTransition = true) :
    ∃ args, s.control.calls.get call.kind = some ⟨call.request, args, call.completion⟩ ∧
      s.LetsGo shared args call.completion := by
  obtain ⟨t, he, -⟩ := take_of_ending hc
  obtain ⟨-, -, -, hsup, -⟩ := h.ends_step he ht
  obtain ⟨args, hget⟩ := he.get_args hsup
  exact ⟨args, hget, hl shared call.kind _ hr hget ht⟩

/-- What a move of an inbound station issues as a step of an errand is on the way to let go. -/
theorem letsGo_of_occasion (h : Phase s.control e) (hl : s.Leaving) (hr : s.role = .inbound shared)
    {k : CallKind} {args : CallArgs} {next : Continuation} (ho : Occasion s m k args next)
    (ht : next.isTransition = true) : s.LetsGo shared args next := by
  cases ho with
  | prepare target device route plan hp hroute _ =>
    obtain ⟨ho, hne⟩ := relay_of_planStart hp hroute hr
    exact .prepared _ plan ho hne
  | startAtOnce target device route plan dhids hp hroute _ hd _ =>
    obtain ⟨ho, hne⟩ := relay_of_planStart hp hroute hr
    exact .started _ { plan with dhids := dhids } ho hne hd.symm
  | startPrepared call plan dhids hc hn _ hd _ =>
    obtain ⟨_, -, hgo⟩ := letsGo_of_ending h hl hr hc (by rw [hn]; rfl)
    rw [hn] at hgo
    cases hgo with
    | prepared _ _ ho hne => exact .started _ { plan with dhids := dhids } ho hne hd.symm
  | giveBack target device plan hp =>
    rcases planStart_cases hp with ⟨_, _, -, hroute⟩ | ⟨d, origin, hd, ho, ⟨rfl, hroute⟩ | ⟨-, hroute⟩⟩
    · cases hroute
    · obtain rfl : shared = d := by rw [hr] at hd; exact Role.inbound.inj hd
      cases hroute
      exact .cameBack target device ho
    · cases hroute
  | stopOrigin call plan hc hn _ _ =>
    obtain ⟨_, -, hgo⟩ := letsGo_of_ending h hl hr hc (by rw [hn]; rfl)
    rw [hn] at hgo
    cases hgo with
    | started _ _ ho hne hd => exact .originStopped plan ho hne hd
  | stop m r hroute =>
    have hp := planStop_of_stopRoute? hroute
    simp only [planStop, hr] at hp
    split at hp
    · cases hp
    unfold planStopInbound at hp
    split at hp
    · cases hp
    · rename_i origin ho
      cases hp
      exact .stopped origin ho
  | rollBack => cases ht
  | unprepare => cases ht
  | keyboard => cases ht

/-- An inbound station stays on the way to let go, whatever happens. -/
theorem leaving_step (hw : s.Speaks) (h : Phase s.control e) (hm : m.keepsDevices = true)
    (hl : s.Leaving) : (s.step m).Leaving := by
  intro shared k x hr hx ht
  obtain ⟨e', he', -, -⟩ := (phase_step m hw h).of_step hx ht
  have hrole : s.role = .inbound shared := (role_of_open hw h he').symm.trans hr
  have hpeer := sessionPeer_of_open hw h he' (by rw [hrole]; rfl)
  refine LetsGo.of_same ?_ (registry_of_keeps hw hm) hpeer
  rcases held_or_issued hw hx with hheld | ho
  · exact hl shared k x hrole hheld ht
  · exact letsGo_of_occasion h hl hrole ho ht

section run

variable (settings : Settings) (registry : Registry) (before : List Move)

theorem leaving_run (hkeep : ∀ m ∈ before, m.keepsDevices = true) :
    ((create settings registry).run before).Leaving := by
  refine history (P := fun ms s => (∀ m ∈ ms, m.keepsDevices = true) → s.Leaving)
    (fun _ shared _ _ hr => by cases hr) (fun ms m ih hm => ?_) before hkeep
  obtain ⟨hms, hm⟩ := List.forall_mem_append.mp hm
  exact leaving_step (speaks_run settings registry ms) (phase_run settings registry ms)
    (hm m (List.mem_singleton_self m)) (ih hms)

/-- **A station that lets go of a consumed pointer stops the link it came by**, and of that link the
pointer itself just if the errand takes it along. When an inbound station becomes free by an errand
of its own, a stop call has ended well, whose line in the ledger is about the link from the host of
the pointer to the station. The pointer is among what the call stops if the session was ended or the
pointer given back; when it was handed on, it is if it travels with the device that the start
named. -/
theorem let_go_iff_taken_along (hids : (registry.devices.map InputDevice.id).Nodup)
    (hkeep : ∀ m ∈ before, m.keepsDevices = true) (shared : Dhid)
    (hin : ((create settings registry).run before).role = .inbound shared)
    (hout : (((create settings registry).run before).step .take).role = .free) :
    let s₀ := create settings registry
    let s := s₀.run before
    ∃ call x origin e, s.ending? = some call ∧ call.outcome = .succeeded ∧
      ⟨.stop, x⟩ ∈ s₀.ledger before ∧ x.request = call.request ∧
      s₀.errand before = some e ∧ s.originOf? shared = some origin ∧
      x.args.src = origin ∧ x.args.sink = s.home ∧
      (shared ∈ x.args.dhids ↔ e.TakesAlong registry origin shared) := by
  intro s₀ s
  have hphase : Phase s.control (s₀.errand before) := phase_run settings registry before
  have hrec : s.control.Recorded (s₀.ledger before) := recorded_run settings registry before
  have hleaving : s.Leaving := leaving_run settings registry before hkeep
  have hreg : s.registry = registry := registry_run settings registry before hkeep
  have hmem : shared ∈ s.dhidsOfShared shared := mem_dhidsOfShared (hreg ▸ hids) shared
  obtain ⟨call, args, e, hc, hsucceeded, hget, he, hwaits, hlast⟩ :=
    ending_of_freed (speaks_run settings registry before) hphase (by rw [hin]; rfl) hout
  have hrole : e.role = .inbound shared := by
    rw [he] at hphase
    exact hphase.role.symm.trans hin
  have ht : call.completion.isTransition = true := hwaits.isTransition
  obtain ⟨hkind, origin, ho, hsrc, hsink, htakes⟩ :=
    (hleaving shared _ _ hin hget ht).takes hwaits hrole (hlast.imp_left And.right) hmem
  rw [hreg] at htakes
  exact ⟨call, _, origin, e, hc, hsucceeded, hkind ▸ hrec.pending _ _ hget, rfl, he, ho, hsrc,
    hsink, htakes⟩

end run

/-- The station `a` with a pointer, and with one that is fed by `b`. -/
def besideRemote : Registry :=
  ⟨⟨"a"⟩, [⟨⟨1⟩, ⟨"m"⟩, ⟨"a"⟩, [], true, false⟩, ⟨⟨2⟩, ⟨"n"⟩, ⟨"b"⟩, [], true, true⟩]⟩

/-- The pointer of `b` is consumed and handed on to `c` by a start that names `device`; only the
stop call has still to be answered by one of its two shapes. -/
def handingOn (device : DeviceId) : List Move :=
  [.event (.signal (.startRequest ⟨"b"⟩)),
    .event (.signal (.startResult ⟨"b"⟩ true ⟨"n"⟩ .center)),
    .event (.request (.start ⟨"c"⟩ device)), .take, .take, .take, .take]

/-- A start that names the consumed pointer takes it along. -/
theorem handed_on_by_its_own_name :
    let s₀ := create ⟨8, 1000, 2, 1000, .center⟩ besideRemote
    ∃ x, ⟨.stop, x⟩ ∈ s₀.ledger (handingOn ⟨2⟩) ∧ x.args.src = ⟨"b"⟩ ∧ x.args.sink = ⟨"a"⟩ ∧
      ⟨"n"⟩ ∈ x.args.dhids := by
  intro s₀
  obtain ⟨call, x, origin, e, -, -, hx, -, he, horigin, hsrc, hsink, hmem⟩ :=
    let_go_iff_taken_along ⟨8, 1000, 2, 1000, .center⟩ besideRemote (handingOn ⟨2⟩) (by decide)
      (by simp [handingOn, Move.keepsDevices]) ⟨"n"⟩ (by decide +kernel) (by decide +kernel)
  have horigin' : some ⟨"b"⟩ = some origin := horigin ▸ by decide +kernel
  have he' : some (Errand.start (.inbound ⟨"n"⟩) .center ⟨"c"⟩ ⟨2⟩) = some e := he ▸ by decide +kernel
  obtain rfl := Option.some.inj he'
  refine ⟨x, hx, hsrc.trans (Option.some.inj horigin').symm, hsink.trans (by decide +kernel), ?_⟩
  exact hmem.mpr (.inr (by decide))

/-- A start that names another device does not: the pointer of `b` is handed on, and what is stopped
on the link from `b` is the station's own pointer. -/
theorem handed_on_by_another_name :
    let s₀ := create ⟨8, 1000, 2, 1000, .center⟩ besideRemote
    let s := s₀.run (handingOn ⟨1⟩)
    s.role = .inbound ⟨"n"⟩ ∧ (s.step .take).role = .free ∧
      s.ending? = some ⟨.stop, ⟨3⟩, .succeeded, .originStopped ⟨⟨"c"⟩, ⟨1⟩, ⟨"b"⟩, [⟨"m"⟩], true⟩⟩ ∧
      ⟨.stop, ⟨3⟩, ⟨⟨"b"⟩, ⟨"a"⟩, [⟨"m"⟩]⟩, .originStopped ⟨⟨"c"⟩, ⟨1⟩, ⟨"b"⟩, [⟨"m"⟩], true⟩⟩ ∈
        s₀.ledger (handingOn ⟨1⟩) ∧
      ⟨"n"⟩ ∉ [(⟨"m"⟩ : Dhid)] := by
  decide +kernel

end Station

end PointerShare
