/-
# Whose pointer is donated

A station that becomes outbound donates the pointer of the device that was
named to it. The registry says where that device is hosted, and this travels
with the start: the link is prepared from there, and later moves bend only its
other end. A bookkeeper writes down the device that the last accepted start
named (`Station.named`), and throughout every session the donated pointer is
that device's and the link begins at its host (`Station.donated_where_named`).

So a station donates a pointer that it hosts itself just if a start named one.
It does not look at that when it accepts a start.

Key definitions: `Station.namedAfter`, `Station.named`, `Hosted`.
Key theorems: `Station.hosted_turn`, `Station.donated_where_named`,
`Station.donates_a_foreign_pointer`.
-/
import PointerShare.Proofs.LettingGo
import Mathlib.Data.List.Pairwise

namespace PointerShare

namespace Station

/-- The device that the last accepted start named. -/
def namedAfter (n : Option DeviceId) (s : Station) : Move → Option DeviceId
  | .event (.request (.start target device)) =>
    if (s.startRoute? (.event (.request (.start target device)))).isSome then some device else n
  | _ => n

def named (s : Station) (ms : List Move) : Option DeviceId := track namedAfter none s ms

theorem namedAfter_of_accepted {s : Station} {target : NetworkId} {device : DeviceId}
    {route : StartRoute} (h : s.planStart target device = .ok route) (n : Option DeviceId) :
    namedAfter n s (.event (.request (.start target device))) = some device := by
  simp [namedAfter, startRoute?, h, Except.toOption]

theorem namedAfter_of_none {s : Station} {m : Move} (h : s.startRoute? m = none)
    (n : Option DeviceId) : namedAfter n s m = n := by
  unfold namedAfter
  split
  · rw [h]
    rfl
  · rfl

end Station

/-! ### The host of a device and its link -/

/-- A hardware id that only one device brings along is hosted where that device is. -/
theorem Registry.originOfDhid?_of_nodup {r : Registry}
    (h : (r.devices.flatMap fun x => x.dhid :: x.keyboards).Nodup) {x : InputDevice}
    (hx : x ∈ r.devices) : r.originOfDhid? x.dhid = some x.origin := by
  have hfind : (r.devices.find? fun y => y.dhid == x.dhid || y.keyboards.contains x.dhid).isSome :=
    List.find?_isSome.mpr ⟨x, hx, by simp⟩
  obtain ⟨y, hy⟩ := Option.isSome_iff_exists.mp hfind
  have hbrings : x.dhid ∈ y.dhid :: y.keyboards := by
    have hfits := List.find?_some hy
    simp only [Bool.or_eq_true, beq_iff_eq, List.contains_iff_mem] at hfits
    rcases hfits with hdhid | hkeyboard
    · exact hdhid ▸ List.mem_cons_self
    · exact List.mem_cons_of_mem _ hkeyboard
  have hsame : y = x := by
    have hsymm : Std.Symm (Function.onFun List.Disjoint fun x : InputDevice => x.dhid :: x.keyboards) :=
      ⟨fun _ _ => List.disjoint_symm⟩
    by_contra hne
    have hapart := (List.nodup_flatMap.mp h).2.forall (List.mem_of_find?_eq_some hy) hx hne
    exact hapart hbrings List.mem_cons_self
  rw [Registry.originOfDhid?, hy, hsame]
  rfl

/-- The link begins at `id`, or nowhere. -/
def Link.From (l : Link) (id : NetworkId) : Prop := l.src = .empty ∨ l.src = id

theorem Link.From.src_of_isPrepared {l : Link} {id : NetworkId} (h : l.From id)
    (hp : l.isPrepared = true) : l.src = id := by
  refine h.resolve_left fun he => ?_
  have hsrc : l.src.isEmpty = true := by rw [he]; rfl
  simp [Link.isPrepared, hsrc] at hp

/-- The device `n` was named by the last start that was accepted. What is donated is its pointer,
or will be when the start that is under way ends well, and the link begins where the device is
hosted. -/
structure Hosted (c : Control) (n : Option DeviceId) : Prop where
  outbound : ∀ d, c.role = .outbound d →
    ∃ x, c.registry.byId? x.id = some x ∧ n = some x.id ∧ x.dhid = d ∧ c.link.From x.origin
  planned : c.role = .free → ∀ k call plan, c.calls.get k = some call →
    (call.completion = .prepared plan ∨ call.completion = .started plan) →
      n = some plan.device ∧ c.registry.originOf? plan.device = some plan.src
  linked : c.role = .free → ∀ k call plan, c.calls.get k = some call →
    call.completion = .started plan → c.link.From plan.src

namespace Hosted

variable {c c' : Control} {n : Option DeviceId}

theorem of_same (h : Hosted c n) (hr : c'.role = c.role) (hl : c'.link.src = c.link.src)
    (hg : c'.registry = c.registry) (hc : c'.calls = c.calls) : Hosted c' n := by
  have hfrom {id : NetworkId} (hid : c.link.From id) : c'.link.From id :=
    hid.imp hl.trans hl.trans
  refine ⟨fun d hd => ?_, fun hf k call plan hk hn => ?_, fun hf k call plan hk hn => ?_⟩
  · obtain ⟨x, hx, hname, hdhid, hlink⟩ := h.outbound d (hr ▸ hd)
    exact ⟨x, hg ▸ hx, hname, hdhid, hfrom hlink⟩
  · exact hg ▸ h.planned (hr ▸ hf) k call plan (hc ▸ hk) hn
  · exact hfrom (h.linked (hr ▸ hf) k call plan (hc ▸ hk) hn)

/-- No call of a transition is pending, and nothing is donated. -/
theorem of_quiet (hq : c.Quiet []) (ho : c.role.isOutbound = false) : Hosted c n := by
  have hnone {k : CallKind} {call : Call Continuation} (hk : c.calls.get k = some call)
      (ht : call.completion.isTransition = true) : False := by
    have hf := hq.1 k call List.not_mem_nil hk
    rw [ht] at hf
    cases hf
  refine ⟨fun d hd => ?_, fun _ k call plan hk hn => ?_, fun _ k call plan hk hn => ?_⟩
  · rw [hd] at ho
    cases ho
  · exact (hnone hk (by rcases hn with hn | hn <;> rw [hn] <;> rfl)).elim
  · exact (hnone hk (by rw [hn]; rfl)).elim

theorem of_inbound {d : Dhid} (hr : c.role = .inbound d) : Hosted c n :=
  ⟨fun _ ho => (by rw [hr] at ho; cases ho), fun hf => (by rw [hr] at hf; cases hf),
    fun hf => (by rw [hr] at hf; cases hf)⟩

/-- The link is given up. -/
theorem unlink (h : Hosted c n) : Hosted { c with link := .none } n := by
  have hnone (id : NetworkId) : Link.none.From id := .inl rfl
  refine ⟨fun d hd => ?_, h.planned, fun _ _ _ plan _ _ => hnone plan.src⟩
  obtain ⟨x, hx, hname, hdhid, -⟩ := h.outbound d hd
  exact ⟨x, hx, hname, hdhid, hnone x.origin⟩

theorem ends (h : Hosted c n) {call : Resolved Continuation} (he : Ends c call c') : Hosted c' n := by
  have h' : Hosted { c' with calls := c.calls } n :=
    h.of_same he.same.role (congrArg Link.src he.same.link) he.same.registry rfl
  exact ⟨h'.outbound, fun hf k x plan hx hn => h'.planned hf k x plan (he.get_of_get hx) hn,
    fun hf k x plan hx hn => h'.linked hf k x plan (he.get_of_get hx) hn⟩

/-- A call is issued; if it is a step of a free station's start, the start named the device, which
is hosted where the plan has it. -/
theorem issue (h : Hosted c n) (k : CallKind) (args : CallArgs) (next : Continuation)
    (hn : c.role = .free → ∀ plan, next = .prepared plan ∨ next = .started plan →
      n = some plan.device ∧ c.registry.originOf? plan.device = some plan.src)
    (hl : c.role = .free → ∀ plan, next = .started plan → c.link.From plan.src) :
    Hosted (c.issue k args next) n := by
  refine ⟨h.outbound, fun hf j call plan hc hplan => ?_, fun hf j call plan hc hplan => ?_⟩ <;>
    simp only [Control.issue, PerKind.get_set] at hc <;> split at hc
  · cases hc
    exact hn hf plan hplan
  · exact h.planned hf j call plan hc hplan
  · cases hc
    exact hl hf plan hplan
  · exact h.linked hf j call plan hc hplan

/-- A call is issued that neither prepares nor starts what is donated. -/
theorem issue_other (h : Hosted c n) (k : CallKind) (args : CallArgs) {next : Continuation}
    (hp : ∀ plan, next ≠ .prepared plan) (hs : ∀ plan, next ≠ .started plan) :
    Hosted (c.issue k args next) n :=
  h.issue k args next
    (fun _ plan he => he.elim (fun he => absurd he (hp plan)) fun he => absurd he (hs plan))
    fun _ plan he => absurd he (hs plan)

/-- The devices are started over a link from where the plan has them, or the start failed. -/
theorem shares (hq : c.Quiet []) (ho : c.role.isOutbound = false) {plan : StartPlan}
    (hn : c.role = .free → n = some plan.device ∧ c.registry.originOf? plan.device = some plan.src)
    (hl : c.link.src = plan.src) {ns : List Notice} {ds : List Dispatch}
    (hs : Shares c plan c' ns ds) : Hosted c' n := by
  cases hs with
  | calls dhids _ _ =>
    refine (of_quiet hq ho).issue _ _ _ (fun hf plan' he => ?_) fun _ plan' he => ?_
    · rcases he with he | he
      · cases he
      · cases he
        exact hn hf
    · cases he
      exact .inr hl
  | lacks _ => exact of_quiet (c := c.failed) hq ho

theorem released (h : Hosted c n) (p : NetworkId) : Hosted (c.released p) n := by
  unfold Control.released
  split
  · exact h.of_same rfl rfl rfl rfl
  · exact h

end Hosted

/-- The session is over. -/
theorem Hosted.ended {c : Control} {n : Option DeviceId} (hq : c.Quiet []) : Hosted c.ended n :=
  .of_quiet hq.ended (by rw [Control.role_ended]; rfl)

namespace Station

variable {s : Station} {m : Move} {c : Control} {ns : List Notice} {ds : List Dispatch}
  {e : Option Errand} {n : Option DeviceId}

/-- What a free station's start shares is what it named, hosted where the registry has it. -/
theorem plan_of_share {target : NetworkId} {device : DeviceId} {route : StartRoute}
    {plan : StartPlan} (hp : s.planStart target device = .ok route)
    (hr : route = .share plan ∨ route = .relay plan) (hf : s.role = .free) :
    plan.device = device ∧ s.registry.originOf? plan.device = some plan.src := by
  rcases planStart_cases hp with ⟨-, src, ho, rfl⟩ | ⟨shared, origin, hi, -⟩
  · rcases hr with hr | hr <;> cases hr
    exact ⟨rfl, ho⟩
  · rw [hf] at hi
    cases hi

/-- A free station's start has gone well: what it named is donated from where it is hosted. -/
theorem hosted_of_last (h : Phase s.control e) (hh : Hosted s.control n)
    {call : Resolved Continuation} (he : Ends s.control call c) {target : NetworkId}
    {device : DeviceId} (hn : call.completion.last? = some (target, device)) (hr : s.role = .free) :
    ∃ x, s.registry.byId? x.id = some x ∧ n = some x.id ∧
      x.dhid = (s.registry.dhidOf? device).getD .empty ∧ s.link.From x.origin := by
  obtain ⟨e', rfl, hw, hsup, hb⟩ := h.ends_step he (isTransition_of_last? hn)
  have hfree : e'.role = .free := hb.role.symm.trans (he.same.role.trans hr)
  obtain ⟨-, plan, hplan⟩ := hw.started_of_free hfree hn
  obtain ⟨y, hy, hyn⟩ := he.get hsup
  have hstarted : y.completion = .started plan := hyn.trans hplan
  obtain ⟨hname, horigin⟩ := hh.planned hr _ y plan hy (.inr hstarted)
  have hlink : s.link.From plan.src := hh.linked hr _ y plan hy hstarted
  have hdevice : plan.device = device := by
    rw [hplan] at hn
    simp only [Continuation.last?] at hn
    split at hn
    · cases hn
    · exact congrArg Prod.snd (Option.some.inj hn)
  obtain ⟨x, hx, hsrc⟩ := Option.map_eq_some_iff.mp horigin
  have hid : x.id = plan.device := by simpa using List.find?_some hx
  have hbyId : s.registry.byId? x.id = some x := hid ▸ hx
  refine ⟨x, hbyId, hid ▸ hname, ?_, hsrc ▸ hlink⟩
  rw [← hdevice, ← hid, Registry.dhidOf?, hbyId]
  rfl

theorem hosted_turn (ht : Turn s m c ns ds) (hm : m.keepsDevices = true) (h : Phase s.control e)
    (hh : Hosted s.control n) : Hosted c (namedAfter n s m) := by
  have hheard {p : NetworkId} (hg : s.announcer = some p ∨ s.guard = .idle) :
      (s.control.released p).Quiet [] :=
    (h.released hg).2.2.2
  cases ht with
  | rest m hstart _ _ _ =>
    rw [namedAfter_of_none hstart]
    exact hh
  | devices ds => cases hm
  | prepares target device route plan hp hr _ =>
    have hb := between_begin h (guard_of_planStart hp) s.cursor.location target device
    obtain ⟨-, -, ho, -⟩ := planStart_plan hp hr
    rw [namedAfter_of_accepted hp]
    refine (Hosted.of_quiet hb.quiet ho).issue _ _ _ (fun hf plan' he => ?_) (by simp)
    obtain ⟨hdevice, horigin⟩ := plan_of_share hp hr hf
    rcases he with he | he
    · cases he
      exact ⟨congrArg some hdevice.symm, horigin⟩
    · cases he
  | sharesAtOnce target device route plan hp hr hl hs =>
    have hb := between_begin h (guard_of_planStart hp) s.cursor.location target device
    obtain ⟨-, -, ho, -⟩ := planStart_plan hp hr
    rw [namedAfter_of_accepted hp]
    refine Hosted.shares hb.quiet ho (fun hf => ?_) ?_ hs
    · obtain ⟨hdevice, horigin⟩ := plan_of_share hp hr hf
      exact ⟨congrArg some hdevice.symm, horigin⟩
    · exact congrArg Link.src (Link.joins_iff.mp hl).1
  | comesBack target device plan hp =>
    obtain ⟨-, -, shared, hr⟩ := planStart_comeBack hp
    exact .of_inbound hr
  | stops m r hr =>
    have hstart : s.startRoute? m = none := by
      cases hm' : s.startRoute? m with
      | none => rfl
      | some route =>
        -- a move that asks for a stop asks for no start
        unfold startRoute? at hm'
        split at hm'
        · cases hr
        · cases hm'
    rw [namedAfter_of_none hstart]
    have hh' : Hosted { s.control with guard := .stopping } n := hh.of_same rfl rfl rfl rfl
    exact hh'.issue_other _ _ (by simp) (by simp)
  | hearsStart p _ _ => exact hh.of_same rfl rfl rfl rfl
  | hearsStop p _ _ => exact hh.of_same rfl rfl rfl rfl
  | startRejected p _ _ _ _ => exact hh.released p
  | consumes p dhid _ _ _ _ => exact .of_inbound rfl
  | getsBack p _ _ hg _ _ => exact .ended (hheard hg)
  | stopDropped p _ _ _ => exact hh.released p
  | stopRejected p _ _ => exact hh.released p
  | isLeft p hg _ => exact .ended (hheard hg)
  | handedOn p _ => exact hh.of_same rfl rfl rfl rfl
  | resets id _ => exact .of_quiet (Control.quiet_const rfl rfl) rfl
  | loses id _ =>
    refine Hosted.released ?_ id
    split
    · exact hh.unlink
    · exact hh
  | plugsIn dhid _ _ _ => exact hh.issue_other _ _ (by simp) (by simp)
  | endsAside call _ he _ => exact hh.ends he
  | opens call plan _ he hn _ hs =>
    obtain ⟨role, place, rfl, ho, -, hb⟩ := h.ends_prepared he hn
    have hb' := hb.setLink ⟨plan.src, plan.target⟩
    refine Hosted.shares hb'.quiet (by rw [hb'.role]; exact ho) (fun hf => ?_) rfl hs
    obtain ⟨-, -, hw, hsup, -⟩ := h.ends_step he (by rw [hn]; rfl)
    obtain ⟨y, hy, hyn⟩ := he.get hsup
    have hplanned := hh.planned (he.same.role.symm.trans hf) _ y plan hy (.inl (hyn.trans hn))
    exact ⟨hplanned.1, he.same.registry ▸ hplanned.2⟩
  | opensNot call plan _ _ he _ _ => exact ((hh.ends he).unlink).of_same rfl rfl rfl rfl
  | stopsOrigin call plan _ he _ _ _ => exact (hh.ends he).issue_other _ _ (by simp) (by simp)
  | shares call target device _ he hn _ hr =>
    obtain ⟨_, _, rfl, -, hb⟩ := h.ends_last he hn
    refine ⟨fun d hd => ?_, nofun, nofun⟩
    obtain ⟨x, hx, hname, hdhid, hlink⟩ := hosted_of_last h hh he hn hr
    refine ⟨x, ?_, hname, hdhid.trans (Role.outbound.inj hd), ?_⟩
    · exact he.same.registry ▸ hx
    · exact he.same.link ▸ hlink
  | handsOn call target device shared _ he hn _ _ =>
    obtain ⟨_, _, rfl, -, hb⟩ := h.ends_last he hn
    exact .of_quiet hb.quiet rfl
  | stays call target device _ he _ _ _ => exact (hh.ends he).of_same rfl rfl rfl rfl
  | startFails call target device _ _ he _ _ => exact ((hh.ends he).unlink).of_same rfl rfl rfl rfl
  | rollsBack call plan _ _ he _ _ =>
    exact (((hh.ends he).issue_other _ _ (by simp) (by simp)).unlink).of_same rfl rfl rfl rfl
  | leaves call peer _ he hn _ =>
    obtain ⟨_, rfl, -, hb⟩ := h.ends_stopped he hn
    exact .ended hb.quiet
  | stopFails call peer _ _ he _ _ => exact (hh.ends he).of_same rfl rfl rfl rfl

section run

variable (settings : Settings) (registry : Registry) (before : List Move)

theorem hosted_run (hkeep : ∀ m ∈ before, m.keepsDevices = true) :
    Hosted ((create settings registry).run before).control
      ((create settings registry).named before) := by
  refine history (P := fun ms s => (∀ m ∈ ms, m.keepsDevices = true) →
      Hosted s.control ((create settings registry).named ms))
    (fun _ => .of_quiet (Control.quiet_const rfl rfl) rfl) (fun ms m ih hm => ?_) before hkeep
  obtain ⟨hms, hm⟩ := List.forall_mem_append.mp hm
  obtain ⟨c, ns, ds, ht, hs⟩ :=
    ((create settings registry).run ms).turns m (speaks_run settings registry ms)
  rw [hs.control, named, track_concat]
  exact hosted_turn ht (hm m (List.mem_singleton_self m)) (phase_run settings registry ms) (ih hms)

/-- **A station donates what its last accepted start named**, from where that is hosted. In every
session in which a pointer is donated it is the pointer of the device that the last accepted start
named, and the link begins where this device is hosted. So, if no two devices bring along the same
hardware id, the pointer is the station's own and the link begins at the station just if that start
named a device which the station hosts. -/
theorem donated_where_named (hkeep : ∀ m ∈ before, m.keepsDevices = true) (d : Dhid)
    (hout : ((create settings registry).run before).role = .outbound d) :
    let s₀ := create settings registry
    let s := s₀.run before
    ∃ x, registry.byId? x.id = some x ∧ s₀.named before = some x.id ∧ x.dhid = d ∧
      (s.link.isPrepared = true → s.link.src = x.origin) ∧
      ((registry.devices.flatMap fun y => y.dhid :: y.keyboards).Nodup →
        registry.originOfDhid? d = some x.origin ∧
        (x.origin = s.home ↔ registry.originOfDhid? d = some s.home ∧
          (s.link.isPrepared = true → s.link.src = s.home))) := by
  intro s₀ s
  have hreg : s.registry = registry := registry_run settings registry before hkeep
  have hhosted : Hosted s.control (s₀.named before) := hosted_run settings registry before hkeep
  obtain ⟨x, hx, hname, hdhid, hfrom⟩ := hhosted.outbound d hout
  have hlink : s.link.isPrepared = true → s.link.src = x.origin := hfrom.src_of_isPrepared
  have hbyId : registry.byId? x.id = some x := hreg ▸ hx
  refine ⟨x, hbyId, hname, hdhid, hlink, fun hids => ?_⟩
  have horigin : registry.originOfDhid? d = some x.origin :=
    hdhid ▸ Registry.originOfDhid?_of_nodup hids (List.mem_of_find?_eq_some hbyId)
  refine ⟨horigin, fun hhome => ?_, fun h => ?_⟩
  · rw [← hhome]
    exact ⟨horigin, hlink⟩
  · exact Option.some.inj (horigin.symm.trans h.1)

end run

/-- A start that names the station's own pointer donates that. -/
theorem donates_its_own :
    let s := (create ⟨8, 1000, 2, 1000, .center⟩ besideRemote).run
      [.event (.request (.start ⟨"c"⟩ ⟨1⟩)), .take, .take, .take]
    s.role = .outbound ⟨"m"⟩ ∧ besideRemote.originOfDhid? ⟨"m"⟩ = some s.home ∧ s.link.src = s.home := by
  intro s
  have hout : s.role = .outbound ⟨"m"⟩ := by decide +kernel
  obtain ⟨x, hx, hname, -, -, hown⟩ := donated_where_named ⟨8, 1000, 2, 1000, .center⟩ besideRemote
    [.event (.request (.start ⟨"c"⟩ ⟨1⟩)), .take, .take, .take] (by simp [Move.keepsDevices])
    ⟨"m"⟩ hout
  have hid : x.id = ⟨1⟩ := by
    refine Option.some.inj (hname.symm.trans ?_)
    decide +kernel
  rw [hid] at hx
  obtain rfl : (⟨⟨1⟩, ⟨"m"⟩, ⟨"a"⟩, [], true, false⟩ : InputDevice) = x :=
    Option.some.inj (Eq.trans (by decide) hx)
  obtain ⟨horigin, hlink⟩ := (hown (by decide)).2.mp (by decide +kernel)
  exact ⟨hout, horigin, hlink (by decide +kernel)⟩

/-- A start that names the pointer of `b` is accepted by the free station `a`, and donates it. -/
theorem donates_a_foreign_pointer :
    let s₀ := create ⟨8, 1000, 2, 1000, .center⟩ besideRemote
    let s := s₀.run [.event (.request (.start ⟨"c"⟩ ⟨2⟩)), .take, .take, .take]
    s₀.role = .free ∧ (s₀.start ⟨"c"⟩ ⟨2⟩).1 = .ok () ∧ s.role = .outbound ⟨"n"⟩ ∧
      besideRemote.originOfDhid? ⟨"n"⟩ = some ⟨"b"⟩ ∧ s.home = ⟨"a"⟩ ∧ s.link.isPrepared = true ∧
      s.link.src = ⟨"b"⟩ := by
  decide +kernel

end Station

end PointerShare
