/-
# A station is in step with its errand

While a station has an errand, exactly one of the calls it holds is a step of
the errand, and that call is pending; while it has none, no call it holds is a
step of any, and the guard is idle or a peer made it busy. `Phase` says so.
Every move keeps it, so it holds throughout every run.

Key definitions: `Control.Quiet`, `Phase`, `Errand.Between`.
Key theorems: `Phase.ends`, `Station.phase_turn`, `Station.phase_run`.
-/
import PointerShare.Proofs.Errand

namespace PointerShare

namespace Control

/-- Of the calls held, none is a step of a transition, pending ones of the kinds `ks` apart. -/
def Quiet (c : Control) (ks : List CallKind) : Prop :=
  (∀ k call, k ∉ ks → c.calls.get k = some call → call.completion.isTransition = false) ∧
    ∀ r ∈ c.superseded, r.completion.isTransition = false

end Control

/-- Where a station stands with its errand, or with what a peer announced. -/
inductive Phase (c : Control) : Option Errand → Prop
  | idle (hg : c.guard = .idle) (ha : c.announcer = none) (hq : c.Quiet []) : Phase c none
  | announced (p : NetworkId) (hg : c.guard = .starting ∨ c.guard = .stopping)
      (ha : c.announcer = some p) (hq : c.Quiet []) : Phase c none
  | underway (e : Errand) (k : CallKind) (call : Call Continuation) (hg : c.guard = e.guard)
      (ha : c.announcer = none) (hr : c.role = e.role) (hl : e.Placed c.startLocation)
      (hk : c.calls.get k = some call) (hw : e.Waits k call.completion) (hq : c.Quiet [k]) :
      Phase c (some e)

/-- An errand between two of its calls. -/
structure Errand.Between (e : Errand) (c : Control) : Prop where
  guard : c.guard = e.guard
  announcer : c.announcer = none
  role : c.role = e.role
  placed : e.Placed c.startLocation
  quiet : c.Quiet []

/-! ### Calls that are no step of a transition -/

/-- A call that is pending after another one has ended was pending before. -/
theorem Ends.get_of_get {c c₁ : Control} {call : Resolved Continuation} (he : Ends c call c₁)
    {k : CallKind} {x : Call Continuation} (hx : c₁.calls.get k = some x) :
    c.calls.get k = some x := by
  cases he with
  | pending j call o hj ho =>
    rw [PerKind.get_set] at hx
    split at hx
    · cases hx
    · exact hx
  | superseded r hr => exact hx

namespace Control

theorem Quiet.of_same {c c' : Control} {ks : List CallKind} (h : c.Quiet ks)
    (hc : c'.calls = c.calls) (hs : c'.superseded = c.superseded) : c'.Quiet ks := by
  unfold Control.Quiet
  rw [hc, hs]
  exact h

theorem quiet_const {c : Control} (hc : c.calls = .const none) (hs : c.superseded = []) :
    c.Quiet [] := by
  refine ⟨fun k call _ hk => ?_, fun r hr => ?_⟩
  · rw [hc, PerKind.get_const] at hk
    cases hk
  · rw [hs] at hr
    cases hr

theorem Quiet.superseded_issue {c : Control} {ks : List CallKind} (h : c.Quiet ks) {k : CallKind}
    (hk : k ∉ ks) : ∀ r ∈ c.superseded ++ Tracker.replacedBy k (c.calls.get k),
      r.completion.isTransition = false := by
  intro r hr
  rcases List.mem_append.mp hr with hr | hr
  · exact h.2 r hr
  · obtain ⟨call, hcall, rfl⟩ := List.mem_map.mp hr
    exact h.1 k call hk (Option.mem_toList.mp hcall)

/-- A call of another kind is issued that is no step of a transition. -/
theorem Quiet.issue {c : Control} {ks : List CallKind} (h : c.Quiet ks) {k : CallKind} (hk : k ∉ ks)
    (args : CallArgs) {next : Continuation} (hn : next.isTransition = false) :
    (c.issue k args next).Quiet ks := by
  refine ⟨fun j call hj hcall => ?_, h.superseded_issue hk⟩
  simp only [Control.issue, PerKind.get_set] at hcall
  split at hcall
  · cases hcall
    exact hn
  · exact h.1 j call hj hcall

/-- A step of a transition is the only one. -/
theorem Quiet.launch {c : Control} (h : c.Quiet []) (k : CallKind) (args : CallArgs)
    (next : Continuation) : (c.issue k args next).Quiet [k] := by
  refine ⟨fun j call hj hcall => ?_, h.superseded_issue List.not_mem_nil⟩
  have hne : k ≠ j := fun he => hj (by rw [he]; exact List.mem_singleton_self j)
  simp only [Control.issue, PerKind.get_set_of_ne _ hne] at hcall
  exact h.1 j call List.not_mem_nil hcall

theorem get_issue (c : Control) (k : CallKind) (args : CallArgs) (next : Continuation) :
    (c.issue k args next).calls.get k = some ⟨⟨c.issued + 1⟩, args, next⟩ :=
  PerKind.get_set_self _ _ _

theorem get_issue_of_ne (c : Control) {k j : CallKind} (h : k ≠ j) (args : CallArgs)
    (next : Continuation) : (c.issue k args next).calls.get j = c.calls.get j :=
  PerKind.get_set_of_ne _ h _

theorem Quiet.unprepare {c : Control} {ks : List CallKind} (h : c.Quiet ks)
    (hk : CallKind.unprepare ∉ ks) : c.unprepare.Quiet ks := by
  unfold Control.unprepare
  split
  · have h' : { c with link := .none }.Quiet ks := h
    exact h'.issue hk _ rfl
  · exact h

/-- A call that ends leaves the others as they are. -/
theorem Quiet.ends {c c₁ : Control} {call : Resolved Continuation} {ks : List CallKind}
    (h : c.Quiet ks) (he : Ends c call c₁) : c₁.Quiet ks := by
  refine ⟨fun j call' hj hcall => h.1 j call' hj (he.get_of_get hcall), ?_⟩
  cases he with
  | pending => exact h.2
  | superseded r hr => exact fun q hq => h.2 q (List.mem_filter.mp hq).1

end Control

/-- Two controls that differ in nothing but the calls held. -/
structure Control.SameButCalls (c c' : Control) : Prop where
  role : c'.role = c.role
  guard : c'.guard = c.guard
  link : c'.link = c.link
  sessionPeer : c'.sessionPeer = c.sessionPeer
  announcer : c'.announcer = c.announcer
  startLocation : c'.startLocation = c.startLocation
  registry : c'.registry = c.registry

theorem Ends.same {c c₁ : Control} {call : Resolved Continuation} (he : Ends c call c₁) :
    c.SameButCalls c₁ := by
  cases he <;> exact ⟨rfl, rfl, rfl, rfl, rfl, rfl, rfl⟩

/-- What a pending call that ends was registered with. -/
theorem Ends.get_args {c c₁ : Control} {call : Resolved Continuation} (he : Ends c call c₁)
    (ho : call.outcome ≠ .superseded) :
    ∃ args, c.calls.get call.kind = some ⟨call.request, args, call.completion⟩ := by
  cases he with
  | pending k x o hk _ => exact ⟨x.args, hk⟩
  | superseded r _ => exact absurd rfl ho

theorem Ends.get {c c₁ : Control} {call : Resolved Continuation} (he : Ends c call c₁)
    (ho : call.outcome ≠ .superseded) :
    ∃ x, c.calls.get call.kind = some x ∧ x.completion = call.completion := by
  obtain ⟨args, h⟩ := he.get_args ho
  exact ⟨_, h, rfl⟩

/-! ### An errand and its calls -/

/-- The next call of an errand is issued. -/
theorem Errand.Between.launch {e : Errand} {c : Control} (h : e.Between c) {k : CallKind}
    (args : CallArgs) {next : Continuation} (hw : e.Waits k next) :
    Phase (c.issue k args next) (some e) :=
  .underway e k _ h.guard h.announcer h.role h.placed (c.get_issue k args next) hw
    (h.quiet.launch k args next)

/-- A call that ends is no step of a transition, or it is the errand's. -/
theorem Phase.ends {c c₁ : Control} {call : Resolved Continuation} {e : Option Errand}
    (h : Phase c e) (he : Ends c call c₁) :
    call.completion.isTransition = false ∧ Phase c₁ e ∨
      ∃ e', e = some e' ∧ e'.Waits call.kind call.completion ∧ call.outcome ≠ .superseded ∧
        e'.Between c₁ := by
  cases h with
  | idle hg ha hq =>
    refine .inl ⟨?_, .idle (he.same.guard.trans hg) (he.same.announcer.trans ha) (hq.ends he)⟩
    cases he with
    | pending k call o hk ho => exact hq.1 k call List.not_mem_nil hk
    | superseded r hr => exact hq.2 r hr
  | announced p hg ha hq =>
    refine .inl ⟨?_, .announced p (he.same.guard ▸ hg) (he.same.announcer.trans ha) (hq.ends he)⟩
    cases he with
    | pending k call o hk ho => exact hq.1 k call List.not_mem_nil hk
    | superseded r hr => exact hq.2 r hr
  | underway e j call' hg ha hr hl hk hw hq =>
    have hq₁ := hq.ends he
    -- only the pending call of the errand's own kind is a step of it
    cases he with
    | superseded r hr' =>
      exact .inl ⟨hq.2 r hr', .underway e j call' hg ha hr hl hk hw hq₁⟩
    | pending k call o hk' ho =>
      by_cases hj : k = j
      · subst hj
        obtain rfl : call' = call := Option.some.inj (hk.symm.trans hk')
        refine .inr ⟨e, rfl, hw, ho, hg, ha, hr, hl, fun i call'' _ hcall => ?_, hq.2⟩
        by_cases hi : k = i
        · subst hi
          simp only [PerKind.get_set_self] at hcall
          cases hcall
        · refine hq₁.1 i call'' ?_ hcall
          simpa using fun h : i = k => hi h.symm
      · have hmem : k ∉ [j] := by simpa using hj
        refine .inl ⟨hq.1 k call hmem hk', .underway e j call' hg ha hr hl ?_ hw hq₁⟩
        exact (PerKind.get_set_of_ne _ hj _).trans hk

/-! ### Phases -/

theorem Errand.Between.setLink {e : Errand} {c : Control} (h : e.Between c) (l : Link) :
    e.Between { c with link := l } :=
  ⟨h.guard, h.announcer, h.role, h.placed, h.quiet⟩

namespace Phase

variable {c : Control} {e : Option Errand}

theorem of_idle (h : Phase c e) (hg : c.guard = .idle) :
    e = none ∧ c.announcer = none ∧ c.Quiet [] := by
  cases h with
  | idle _ ha hq => exact ⟨rfl, ha, hq⟩
  | announced p hg' _ _ => rcases hg' with hg' | hg' <;> rw [hg] at hg' <;> cases hg'
  | underway e k call hg' _ _ _ _ _ _ =>
    have hb := e.isBusy_guard
    rw [← hg', hg] at hb
    cases hb

theorem isBusy {e : Errand} (h : Phase c (some e)) : c.guard.isBusy = true := by
  cases h with
  | underway _ _ _ hg => rw [hg, e.isBusy_guard]

/-- A peer that is heard finds no errand, and leaves the guard idle. -/
theorem released (h : Phase c e) {p : NetworkId} (hp : c.announcer = some p ∨ c.guard = .idle) :
    e = none ∧ (c.released p).guard = .idle ∧ (c.released p).announcer = none ∧
      (c.released p).Quiet [] := by
  unfold Control.released
  by_cases ha : c.announcer = some p
  · rw [if_pos ha]
    cases h with
    | idle _ ha' _ => rw [ha] at ha'; cases ha'
    | announced _ _ _ hq => exact ⟨rfl, rfl, rfl, hq⟩
    | underway _ _ _ _ ha' _ _ _ _ _ => rw [ha] at ha'; cases ha'
  · rw [if_neg ha]
    have hg := hp.resolve_left ha
    obtain ⟨he, ha', hq⟩ := h.of_idle hg
    exact ⟨he, hg, ha', hq⟩

theorem of_same (h : Phase c e) {c' : Control} (hg : c'.guard = c.guard)
    (ha : c'.announcer = c.announcer) (hr : c'.role = c.role)
    (hl : c'.startLocation = c.startLocation) (hc : c'.calls = c.calls)
    (hs : c'.superseded = c.superseded) : Phase c' e := by
  cases h with
  | idle hg' ha' hq => exact .idle (hg.trans hg') (ha.trans ha') (hq.of_same hc hs)
  | announced p hg' ha' hq => exact .announced p (hg ▸ hg') (ha.trans ha') (hq.of_same hc hs)
  | underway e k call hg' ha' hr' hl' hk hw hq =>
    exact .underway e k call (hg.trans hg') (ha.trans ha') (hr.trans hr') (hl ▸ hl') (hc ▸ hk) hw
      (hq.of_same hc hs)

/-- What a station that leaves announced, and the link it is an end of, are given up. -/
theorem loses (h : Phase c e) (id : NetworkId) (free : Bool) :
    Phase ((if free && c.link.involves id then { c with link := .none } else c).released id) e := by
  have h' : Phase (if free && c.link.involves id then { c with link := .none } else c) e := by
    split
    · exact h.of_same rfl rfl rfl rfl rfl rfl
    · exact h
  generalize (if free && c.link.involves id then { c with link := .none } else c) = c' at h'
  by_cases ha : c'.announcer = some id
  · obtain ⟨rfl, hg, ha', hq⟩ := h'.released (.inl ha)
    exact .idle hg ha' hq
  · rw [Control.released, if_neg ha]
    exact h'

/-- A keyboard joins the session. The errand of an outbound station, if any, is a stop. -/
theorem issue_start (h : Phase c e) (ho : c.role.isOutbound = true) (args : CallArgs)
    {next : Continuation} (hn : next.isTransition = false) : Phase (c.issue .start args next) e := by
  cases h with
  | idle hg ha hq => exact .idle hg ha (hq.issue List.not_mem_nil args hn)
  | announced p hg ha hq => exact .announced p hg ha (hq.issue List.not_mem_nil args hn)
  | underway e k call hg ha hr hl hk hw hq =>
    obtain ⟨_, -, rfl, -⟩ := hw.stop_of_outbound (hr ▸ ho)
    refine .underway e .stop call hg ha hr hl ?_ hw (hq.issue (by decide) args hn)
    rw [Control.get_issue_of_ne _ (by decide)]
    exact hk

/-- A step of a transition that ends is the errand's. -/
theorem ends_step (h : Phase c e) {c₁ : Control} {call : Resolved Continuation}
    (he : Ends c call c₁) (ht : call.completion.isTransition = true) :
    ∃ e', e = some e' ∧ e'.Waits call.kind call.completion ∧ call.outcome ≠ .superseded ∧
      e'.Between c₁ := by
  rcases h.ends he with ⟨hf, -⟩ | h'
  · rw [ht] at hf
    cases hf
  · exact h'

/-! What the errand is, and where it stands, by the call that ended. -/

section ends

variable (h : Phase c e) {c₁ : Control} {call : Resolved Continuation} (he : Ends c call c₁)
include h he

theorem ends_prepared {plan : StartPlan} (hn : call.completion = .prepared plan) :
    ∃ role place, e = some (.start role place plan.target plan.device) ∧
      role.isOutbound = false ∧ plan.relays = !role.isFree ∧
      (Errand.start role place plan.target plan.device).Between c₁ := by
  obtain ⟨e', rfl, hw, -, hb⟩ := h.ends_step he (by rw [hn]; rfl)
  rw [hn] at hw
  obtain ⟨role, place, rfl, ho, hr⟩ := hw.of_prepared
  exact ⟨role, place, rfl, ho, hr, hb⟩

theorem ends_started {plan : StartPlan} (hn : call.completion = .started plan) :
    ∃ role place, e = some (.start role place plan.target plan.device) ∧
      role.isOutbound = false ∧ plan.relays = !role.isFree ∧
      (Errand.start role place plan.target plan.device).Between c₁ := by
  obtain ⟨e', rfl, hw, -, hb⟩ := h.ends_step he (by rw [hn]; rfl)
  rw [hn] at hw
  obtain ⟨role, place, rfl, ho, hr⟩ := hw.of_started
  exact ⟨role, place, rfl, ho, hr, hb⟩

theorem ends_last {target : NetworkId} {device : DeviceId}
    (hn : call.completion.last? = some (target, device)) :
    ∃ role place, e = some (.start role place target device) ∧ role.isOutbound = false ∧
      (Errand.start role place target device).Between c₁ := by
  obtain ⟨e', rfl, hw, -, hb⟩ := h.ends_step he (isTransition_of_last? hn)
  obtain ⟨role, place, rfl, ho⟩ := hw.of_last? hn
  exact ⟨role, place, rfl, ho, hb⟩

theorem ends_leg {target : NetworkId} {device : DeviceId}
    (hn : call.completion.leg? = some (target, device)) :
    ∃ role place, e = some (.start role place target device) ∧ role.isOutbound = false ∧
      (Errand.start role place target device).Between c₁ := by
  obtain ⟨e', rfl, hw, -, hb⟩ := h.ends_step he (isTransition_of_leg? hn)
  obtain ⟨role, place, rfl, ho⟩ := hw.of_leg? hn
  exact ⟨role, place, rfl, ho, hb⟩

theorem ends_originStopped {plan : StartPlan} (hn : call.completion = .originStopped plan) :
    ∃ shared place, e = some (.start (.inbound shared) place plan.target plan.device) ∧
      (Errand.start (.inbound shared) place plan.target plan.device).Between c₁ := by
  obtain ⟨e', rfl, hw, -, hb⟩ := h.ends_step he (by rw [hn]; rfl)
  rw [hn] at hw
  obtain ⟨shared, place, rfl⟩ := hw.of_originStopped
  exact ⟨shared, place, rfl, hb⟩

theorem ends_stopped {peer : NetworkId} (hn : call.completion = .stopped peer) :
    ∃ role, e = some (.stop role peer) ∧ role.isFree = false ∧
      (Errand.stop role peer).Between c₁ := by
  obtain ⟨e', rfl, hw, -, hb⟩ := h.ends_step he (by rw [hn]; rfl)
  rw [hn] at hw
  obtain ⟨role, rfl, hr⟩ := hw.of_stopped
  exact ⟨role, rfl, hr, hb⟩

end ends

end Phase

theorem Errand.Between.rest {e : Errand} {c c' : Control} (h : e.Between c) (hg : c'.guard = .idle)
    (ha : c'.announcer = c.announcer) (hc : c'.calls = c.calls) (hs : c'.superseded = c.superseded) :
    Phase c' none :=
  .idle hg (ha.trans h.announcer) (h.quiet.of_same hc hs)

/-- What the bookkeeper holds of a station in a phase is what he held. -/
theorem Phase.note {c : Control} {e : Option Errand} (h : Phase c e) :
    (if c.guard.isBusy then e else none) = e := by
  cases h with
  | idle _ _ _ => simp
  | announced _ _ _ _ => simp
  | underway e _ _ hg _ _ _ _ _ _ => rw [hg, e.isBusy_guard, if_pos rfl]

theorem Phase.keep {c : Control} {e b : Option Errand} (h : Phase c e) (hb : b = none) :
    Phase c (if c.guard.isBusy then b.or e else none) := by
  rw [hb, Option.none_or, h.note]
  exact h

theorem Phase.begin {c : Control} {e b : Option Errand} {e₁ : Errand} (h : Phase c (some e₁))
    (hb : b = some e₁) : Phase c (if c.guard.isBusy then b.or e else none) := by
  rw [hb, Option.some_or, h.note]
  exact h

theorem Phase.close {c : Control} {x : Option Errand} (h : Phase c none) (hg : c.guard = .idle) :
    Phase c (if c.guard.isBusy then x else none) := by
  rw [hg]
  exact h

namespace Control

@[simp] theorem guard_ended (c : Control) : c.ended.guard = c.guard :=
  guard_unprepare _

@[simp] theorem announcer_ended (c : Control) : c.ended.announcer = c.announcer :=
  announcer_unprepare _

theorem Quiet.ended {c : Control} (h : c.Quiet []) : c.ended.Quiet [] := by
  have h' : { c with role := .free }.Quiet [] := h
  exact h'.unprepare List.not_mem_nil

end Control

/-- The session is over, and no errand is left. -/
theorem Phase.close_ended {c : Control} {x : Option Errand} (hg : c.guard = .idle)
    (ha : c.announcer = none) (hq : c.Quiet []) :
    Phase c.ended (if c.ended.guard.isBusy then x else none) := by
  have hg' : c.ended.guard = .idle := c.guard_ended.trans hg
  exact Phase.close (.idle hg' (c.announcer_ended.trans ha) hq.ended) hg'

namespace Station

variable {s : Station} {c : Control} {ns : List Notice} {ds : List Dispatch} {e : Option Errand}

/-- A start is accepted: its errand is between two calls. -/
theorem between_begin (h : Phase s.control e) (hg : s.guard = .idle) (l : Location)
    (target : NetworkId) (device : DeviceId) :
    (Errand.start s.role l target device).Between (s.control.begin l) := by
  obtain ⟨-, ha, hq⟩ := h.of_idle hg
  exact ⟨rfl, ha, rfl, rfl, hq⟩

/-- The link is prepared: the start goes on with its devices, or it failed. -/
theorem phase_shares {e : Errand} {plan : StartPlan} {role : Role} {place : Location}
    (h : e.Between c) (he : e = .start role place plan.target plan.device)
    (ho : role.isOutbound = false) (hr : plan.relays = !role.isFree) {c' : Control}
    (hs : Shares c plan c' ns ds) :
    Phase c' (some e) ∨ Phase c' none ∧ c'.guard = .idle := by
  cases hs with
  | calls dhids _ _ =>
    subst he
    exact .inl (h.launch _ (.started role place { plan with dhids := dhids } ho hr))
  | lacks _ => exact .inr ⟨h.rest rfl rfl rfl rfl, rfl⟩

/-- Every move keeps the bookkeeper in step with the station. -/
theorem phase_turn {m : Move} (ht : Turn s m c ns ds) (h : Phase s.control e) :
    Phase c (if c.guard.isBusy then (s.begins m).or e else none) := by
  cases ht with
  | rest m hstart hstop _ _ => exact h.keep (begins_of_rest hstart hstop)
  | devices ds =>
    refine Phase.keep ?_ rfl
    exact h.of_same rfl rfl rfl rfl rfl rfl
  | prepares target device route plan hp hr _ =>
    have hb := between_begin h (guard_of_planStart hp) s.cursor.location target device
    obtain ⟨rfl, rfl, ho, hrel⟩ := planStart_plan hp hr
    refine Phase.begin ?_ (begins_of_planStart hp)
    exact hb.launch _ (.prepared s.role s.cursor.location plan ho hrel)
  | sharesAtOnce target device route plan hp hr _ hs =>
    have hb := between_begin h (guard_of_planStart hp) s.cursor.location target device
    obtain ⟨rfl, rfl, ho, hrel⟩ := planStart_plan hp hr
    rcases phase_shares hb rfl ho hrel hs with h' | ⟨h', hg⟩
    · exact h'.begin (begins_of_planStart hp)
    · exact h'.close hg
  | comesBack target device plan hp =>
    have hb := between_begin h (guard_of_planStart hp) s.cursor.location target device
    obtain ⟨rfl, rfl, shared, hr⟩ := planStart_comeBack hp
    refine Phase.begin ?_ (begins_of_planStart hp)
    rw [hr] at hb ⊢
    exact hb.launch _ (.cameBack shared s.cursor.location plan.target plan.device)
  | stops m r hr =>
    have hp := planStop_of_stopRoute? hr
    obtain ⟨-, ha, hq⟩ := h.of_idle (guard_of_planStop hp)
    have hb : (Errand.stop s.role r.peer).Between { s.control with guard := .stopping } :=
      ⟨rfl, ha, rfl, trivial, hq⟩
    refine Phase.begin ?_ (begins_of_stopRoute? hr)
    exact hb.launch _ (.stopped s.role r.peer (role_of_planStop hp))
  | hearsStart p hg _ =>
    obtain ⟨rfl, -, hq⟩ := h.of_idle hg
    exact Phase.keep (.announced p (.inl rfl) rfl hq) rfl
  | hearsStop p hg _ =>
    obtain ⟨rfl, -, hq⟩ := h.of_idle hg
    exact Phase.keep (.announced p (.inr rfl) rfl hq) rfl
  | startRejected p _ _ hg _ =>
    obtain ⟨-, hg', ha, hq⟩ := h.released hg
    exact Phase.close (.idle hg' ha hq) hg'
  | consumes p _ _ hg _ _ =>
    obtain ⟨-, hg', ha, hq⟩ := h.released hg
    exact Phase.close (.idle hg' ha hq) hg'
  | getsBack p _ _ hg _ _ =>
    obtain ⟨-, hg', ha, hq⟩ := h.released hg
    exact Phase.close_ended hg' ha hq
  | stopDropped p _ ha _ =>
    obtain ⟨-, hg', ha', hq⟩ := h.released (p := p) (.inl ha)
    exact Phase.close (.idle hg' ha' hq) hg'
  | stopRejected p hg _ =>
    obtain ⟨-, hg', ha, hq⟩ := h.released hg
    exact Phase.close (.idle hg' ha hq) hg'
  | isLeft p hg _ =>
    obtain ⟨-, hg', ha, hq⟩ := h.released hg
    exact Phase.close_ended hg' ha hq
  | handedOn p _ =>
    refine Phase.keep ?_ rfl
    exact h.of_same rfl rfl rfl rfl rfl rfl
  | resets id _ => exact Phase.close (.idle rfl rfl (Control.quiet_const rfl rfl)) rfl
  | loses id _ => exact (h.loses id s.role.isFree).keep rfl
  | plugsIn dhid hr _ _ => exact (h.issue_start hr _ rfl).keep rfl
  | endsAside call hc he ha =>
    rcases h.ends he with ⟨-, h'⟩ | ⟨e', -, hw, -⟩
    · exact h'.keep rfl
    · rw [hw.isTransition] at ha
      cases ha
  | opens call plan hc he hn ho hs =>
    obtain ⟨role, place, rfl, ho, hr, hb⟩ := h.ends_prepared he hn
    have hb' := hb.setLink ⟨plan.src, plan.target⟩
    rcases phase_shares hb' rfl ho hr hs with h' | ⟨h', hg⟩
    · exact h'.keep rfl
    · exact h'.close hg
  | opensNot call plan reason hc he hn _ =>
    obtain ⟨_, _, rfl, -, -, hb⟩ := h.ends_prepared he hn
    exact Phase.close (hb.rest rfl rfl rfl rfl) rfl
  | stopsOrigin call plan hc he hn _ hr =>
    obtain ⟨role, place, rfl, ho, hrel, hb⟩ := h.ends_started he hn
    refine Phase.keep ?_ rfl
    cases role with
    | free => simp [hr, Role.isFree] at hrel
    | inbound shared => exact hb.launch _ (.originStopped shared place plan)
    | outbound _ => cases ho
  | shares call target device hc he hn _ _ =>
    obtain ⟨_, _, rfl, -, hb⟩ := h.ends_last he hn
    exact Phase.close (hb.rest rfl rfl rfl rfl) rfl
  | handsOn call target device shared hc he hn _ _ =>
    obtain ⟨_, _, rfl, -, hb⟩ := h.ends_last he hn
    exact Phase.close (hb.rest rfl rfl rfl rfl) rfl
  | stays call target device hc he hn _ _ =>
    obtain ⟨_, _, rfl, -, hb⟩ := h.ends_last he hn
    exact Phase.close (hb.rest rfl rfl rfl rfl) rfl
  | startFails call target device reason hc he hn _ =>
    obtain ⟨_, _, rfl, -, hb⟩ := h.ends_leg he hn
    exact Phase.close (hb.rest rfl rfl rfl rfl) rfl
  | rollsBack call plan reason hc he hn _ =>
    -- the call that rolls back outlives the errand, and is no step of one
    obtain ⟨_, _, rfl, hb⟩ := h.ends_originStopped he hn
    refine Phase.close (.idle rfl hb.announcer ?_) rfl
    exact hb.quiet.issue List.not_mem_nil _ rfl
  | leaves call peer hc he hn _ =>
    obtain ⟨_, rfl, -, hb⟩ := h.ends_stopped he hn
    exact Phase.close_ended rfl hb.announcer hb.quiet
  | stopFails call peer reason hc he hn _ =>
    obtain ⟨_, rfl, -, hb⟩ := h.ends_stopped he hn
    exact Phase.close (hb.rest rfl rfl rfl rfl) rfl

theorem phase_step {s : Station} {e : Option Errand} (m : Move) (hw : s.Speaks)
    (h : Phase s.control e) : Phase (s.step m).control (errandAfter e s m) := by
  obtain ⟨c, ns, ds, ht, hs⟩ := s.turns m hw
  have hp := phase_turn ht h
  rw [← hs.control] at hp
  exact hp

/-- **A station is in step with its errand in every run.** -/
theorem phase_run (settings : Settings) (registry : Registry) (ms : List Move) :
    Phase ((create settings registry).run ms).control ((create settings registry).errand ms) := by
  have h := track_invariant (P := fun s e => s.Speaks ∧ Phase s.control e) (Q := fun _ => True)
    errandAfter (fun s e m _ h => ⟨speaks_step m h.1, phase_step m h.1 h.2⟩) ms (fun _ _ => trivial)
    (create settings registry) none
    ⟨speaks_create settings registry, .idle rfl rfl (Control.quiet_const rfl rfl)⟩
  exact h.2

end Station

end PointerShare
