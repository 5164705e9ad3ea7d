/-
# Every start that was announced is closed, unless it is deserted

The target of a start is told that the start begins, and how it ended; in
between it waits, and accepts no other start. `awaitsResult` reads off what a
station queued for its peers whether a target was told of the one and not of the
other. While a start is under way that was announced to it, the target waits for
the result; and every call that ends a start queues a result for the target, with
one exception. When the other end of the session leaves the network, all calls
are dropped, and a start among them ends without a word to its target. This
happens to starts that hand a consumed pointer on, never to those of a free
station, which has no session to lose. `Station.deserted` tells a run in which
it happened to the last start that was announced to a target.

Key definitions: `startWords`, `awaitsResult`, `Control.announces`,
`Station.said`, `Station.deserted`.
Key theorems: `Phase.of_announces`, `Station.minds_turn`,
`Station.announced_starts_closed_unless_deserted`.
-/
import PointerShare.Proofs.Ledger

namespace PointerShare

/-! ### What a target was told of starts -/

/-- The dispatch tells of a start: that it begins, or how it ended. -/
def Dispatch.isStartWord : Dispatch → Bool
  | announceStart .. | startResult .. => true
  | stopResult .. | relayAnnounce .. => false

/-- What `target` is told of starts. -/
def startWords (target : NetworkId) (ds : List Dispatch) : List Dispatch :=
  ds.filter fun d => d.isStartWord && d.peer == target

/-- The last that `target` was told of starts is that one begins. -/
def awaitsResult (target : NetworkId) (ds : List Dispatch) : Bool :=
  (startWords target ds).getLast?.any fun d => d.kind == .announceStart

section words

variable (t : NetworkId)

@[simp] theorem startWords_nil : startWords t [] = [] := rfl

theorem startWords_append (ds ds' : List Dispatch) :
    startWords t (ds ++ ds') = startWords t ds ++ startWords t ds' :=
  List.filter_append _ _

theorem startWords_cons (d : Dispatch) (ds : List Dispatch) :
    startWords t (d :: ds) =
      if (d.isStartWord && d.peer == t) = true then d :: startWords t ds else startWords t ds :=
  List.filter_cons

/-- A result is for one target. -/
theorem startWords_result (target : NetworkId) (success : Bool) (dhid : Dhid) (place : Location)
    {after : List Dispatch} (h : startWords t after = []) :
    startWords t (.startResult target success dhid place :: after) =
      if target = t then [.startResult target success dhid place] else [] := by
  rw [startWords_cons, h]
  by_cases ht : target = t <;> simp [Dispatch.isStartWord, Dispatch.peer, ht]

theorem startWords_handOn (c : Control) (target : NetworkId) (shared : Dhid) :
    startWords t (c.handOn target shared) = [] := by
  refine List.filter_eq_nil_iff.mpr fun d hd => ?_
  obtain ⟨origin, rfl⟩ := Control.eq_of_mem_handOn hd
  simp [Dispatch.isStartWord]

/-- What is told later counts. -/
theorem awaitsResult_append (ds ds' : List Dispatch) :
    awaitsResult t (ds ++ ds') =
      if startWords t ds' = [] then awaitsResult t ds else awaitsResult t ds' := by
  unfold awaitsResult
  rw [startWords_append]
  split
  · rename_i h
    rw [h, List.append_nil]
  · rename_i h
    rw [List.getLast?_append, List.getLast?_eq_some_getLast h]
    rfl

end words

/-! ### Starts that are announced and under way -/

/-- The target to which the start that waits for a call was announced. Giving a pointer back is not
announced. -/
def Continuation.announced? : Continuation → Option NetworkId
  | prepared plan | started plan | originStopped plan => some plan.target
  | _ => none

/-- A start is under way that was announced to `target`. -/
def Control.announces (c : Control) (target : NetworkId) : Bool :=
  CallKind.all.any fun k =>
    (c.calls.get k).any fun x => x.completion.announced? == some target

/-- A start is under way that was announced to `target`. -/
def Station.announces (s : Station) (target : NetworkId) : Bool := s.control.announces target

theorem isTransition_of_announced? {next : Continuation} {t : NetworkId}
    (h : next.announced? = some t) : next.isTransition = true := by
  cases next <;> first | rfl | cases h

theorem Errand.Waits.of_announced? {e : Errand} {k : CallKind} {next : Continuation}
    (h : e.Waits k next) {t : NetworkId} (ht : next.announced? = some t) :
    ∃ role place device, e = .start role place t device ∧ role.isOutbound = false := by
  cases h with
  | prepared role place plan ho _ => cases ht; exact ⟨role, place, plan.device, rfl, ho⟩
  | started role place plan ho _ => cases ht; exact ⟨role, place, plan.device, rfl, ho⟩
  | originStopped shared place plan => cases ht; exact ⟨_, place, plan.device, rfl, rfl⟩
  | cameBack => cases ht
  | stopped => cases ht

namespace Control

variable {c c' : Control} {t : NetworkId}

theorem announces_iff : c.announces t = true ↔
    ∃ k x, c.calls.get k = some x ∧ x.completion.announced? = some t := by
  have hall (k : CallKind) : k ∈ CallKind.all := by cases k <;> decide
  simp only [announces, List.any_eq_true, hall, true_and, Option.any_eq_true, beq_iff_eq]

theorem announces_of_same (hc : c'.calls = c.calls) : c'.announces t = c.announces t := by
  unfold announces
  rw [hc]

/-- Calls that are no step of a transition were not announced. -/
theorem Quiet.announces (h : c.Quiet []) : c.announces t = false := by
  refine Bool.eq_false_iff.mpr fun ha => ?_
  obtain ⟨k, x, hx, hn⟩ := announces_iff.mp ha
  have hf := h.1 k x List.not_mem_nil hx
  rw [isTransition_of_announced? hn] at hf
  cases hf

/-- The first call of a start, or the next. -/
theorem Quiet.announces_issue (h : c.Quiet []) (k : CallKind) (args : CallArgs)
    (next : Continuation) : (c.issue k args next).announces t = (next.announced? == some t) := by
  rw [Bool.eq_iff_iff, announces_iff, beq_iff_eq]
  constructor
  · rintro ⟨j, x, hx, hn⟩
    by_cases hj : k = j
    · subst hj
      rw [get_issue] at hx
      cases hx
      exact hn
    · rw [get_issue_of_ne _ hj] at hx
      have hf := h.1 j x List.not_mem_nil hx
      rw [isTransition_of_announced? hn] at hf
      cases hf
  · exact fun hn => ⟨k, _, get_issue _ _ _ _, hn⟩

end Control

namespace Phase

variable {c : Control} {e : Option Errand} {t : NetworkId}

/-- A start that was announced is the errand. -/
theorem of_announces (h : Phase c e) (ha : c.announces t = true) :
    ∃ role place device, e = some (.start role place t device) ∧ role.isOutbound = false ∧
      c.role = role ∧ c.guard = .starting ∧ c.announcer = none := by
  obtain ⟨k, x, hx, hn⟩ := Control.announces_iff.mp ha
  have ht := isTransition_of_announced? hn
  have hquiet (hq : c.Quiet []) : False := by
    have hf := hq.1 k x List.not_mem_nil hx
    rw [ht] at hf
    cases hf
  cases h with
  | idle _ _ hq => exact (hquiet hq).elim
  | announced _ _ _ hq => exact (hquiet hq).elim
  | underway e j call hg hann hr _ hj hw hq =>
    obtain rfl : k = j := Classical.byContradiction fun hne => by
      have hf := hq.1 k x (by simpa using hne) hx
      rw [ht] at hf
      cases hf
    obtain rfl : call = x := Option.some.inj (hj.symm.trans hx)
    obtain ⟨role, place, device, rfl, ho⟩ := hw.of_announced? hn
    exact ⟨role, place, device, rfl, ho, hr, hg, hann⟩

theorem announces_of_none (h : Phase c none) : c.announces t = false := by
  refine Bool.eq_false_iff.mpr fun ha => ?_
  obtain ⟨_, _, _, he, -⟩ := h.of_announces ha
  cases he

theorem announces_of_outbound (h : Phase c e) (hr : c.role.isOutbound = true) :
    c.announces t = false := by
  refine Bool.eq_false_iff.mpr fun ha => ?_
  obtain ⟨role, _, _, -, ho, rfl, -⟩ := h.of_announces ha
  rw [hr] at ho
  cases ho

/-- Of a start to another target, this one knows nothing. -/
theorem target_of_announces {role : Role} {place : Location} {target : NetworkId}
    {device : DeviceId} (h : Phase c (some (.start role place target device)))
    (ha : c.announces t = true) : target = t := by
  obtain ⟨_, _, _, he, -⟩ := h.of_announces ha
  exact (Errand.start.inj (Option.some.inj he)).2.2.1

/-- A call of a start ends that was announced: the start was under way. -/
theorem announces_of_ends (h : Phase c e) {call : Resolved Continuation} {c₁ : Control}
    (he : Ends c call c₁) {target : NetworkId} (hn : call.completion.announced? = some target) :
    c.announces t = (target == t) := by
  obtain ⟨e', rfl, hw, hsup, -⟩ := h.ends_step he (isTransition_of_announced? hn)
  obtain ⟨role, place, device, rfl, -⟩ := hw.of_announced? hn
  obtain ⟨x, hx, hxn⟩ := he.get hsup
  rw [Bool.eq_iff_iff, beq_iff_eq]
  constructor
  · exact h.target_of_announces
  · rintro rfl
    exact Control.announces_iff.mpr ⟨_, x, hx, by rw [hxn, hn]⟩

end Phase

namespace Station

/-- Whether the last start that was announced to `target` was dropped, and it was not told. -/
def desertedAfter (target : NetworkId) (deserted : Bool) (s : Station) (m : Move) : Bool :=
  (startWords target (s.queued m)).isEmpty && (deserted || s.isReset m && s.announces target)

def deserted (s : Station) (target : NetworkId) (ms : List Move) : Bool :=
  track (desertedAfter target) false s ms

/-- What the station queued for its peers in a run. -/
def said : Station → List Move → List Dispatch := gather queued

/-! ### Moves -/

section turn

variable {s : Station} {m : Move} {c : Control} {ns : List Notice} {ds : List Dispatch}
  {e : Option Errand} {t : NetworkId}

/-- What a move means to a target: it is told of a start, and waits if one is under way then; or it
is not told, and a start is under way as before, unless it is lost. -/
def Minds (t : NetworkId) (s : Station) (m : Move) (c : Control) (ds : List Dispatch) : Prop :=
  if startWords t ds = [] then c.announces t = (s.announces t && !s.isReset m)
  else awaitsResult t ds = c.announces t

/-- Nobody is told, and the starts under way are the same. -/
theorem minds_same (hd : startWords t ds = []) (hc : c.announces t = s.announces t)
    (hr : s.isReset m = false) : Minds t s m c ds := by
  rw [Minds, if_pos hd, hc, hr, Bool.not_false, Bool.and_true]

/-- Nobody is told, and no start that was announced is under way. -/
theorem minds_none (hd : startWords t ds = []) (hs : s.announces t = false)
    (hc : c.announces t = false) : Minds t s m c ds := by
  rw [Minds, if_pos hd, hc, hs, Bool.false_and]

/-- A start is announced. -/
theorem minds_announced {home target : NetworkId} (hs : s.announces t = false)
    (hc : c.announces t = (target == t)) : Minds t s m c [.announceStart home target] := by
  unfold Minds awaitsResult
  rw [startWords_cons]
  by_cases ht : target = t
  · simp [Dispatch.isStartWord, Dispatch.peer, Dispatch.kind, ht, hc]
  · simp [Dispatch.isStartWord, Dispatch.peer, ht, hc, hs]

/-- The target of a start is told how it ended, and nobody else anything of a start. -/
theorem minds_closed (before : List Dispatch) {target : NetworkId} {success : Bool} {dhid : Dhid}
    {place : Location} {after : List Dispatch} (hbefore : startWords t before = [] ∨ target = t)
    (hafter : startWords t after = []) (hs : s.announces t = true → target = t)
    (hc : c.announces t = false) :
    Minds t s m c (before ++ .startResult target success dhid place :: after) := by
  unfold Minds
  have hwords := startWords_result t target success dhid place hafter
  by_cases ht : target = t
  · rw [if_pos ht] at hwords
    rw [startWords_append, hwords, if_neg (by simp), awaitsResult_append, hwords,
      if_neg (by simp), awaitsResult, hwords, hc]
    rfl
  · rw [if_neg ht] at hwords
    have hs' : s.announces t = false := Bool.eq_false_iff.mpr fun h => ht (hs h)
    rw [startWords_append, hwords, hbefore.resolve_right ht, List.nil_append, if_pos rfl, hc, hs',
      Bool.false_and]

/-- The link is prepared: the start goes on with its devices, or its target is told that it
failed. -/
theorem minds_shares (ds₁ : List Dispatch) {c₁ : Control} {plan : StartPlan} (hq : c₁.Quiet [])
    (hs : Shares c₁ plan c ns ds) (hwords : startWords t ds₁ = [] ∨ plan.target = t)
    (hgoes : c.announces t = (plan.target == t) → Minds t s m c ds₁)
    (hclosed : s.announces t = true → plan.target = t) : Minds t s m c (ds₁ ++ ds) := by
  cases hs with
  | calls dhids _ _ =>
    rw [List.append_nil]
    refine hgoes ?_
    rw [hq.announces_issue]
    rfl
  | lacks _ => exact minds_closed ds₁ hwords rfl hclosed (hq.of_same rfl rfl).announces

/-- Every move means one of these things to a target. -/
theorem minds_turn (ht : Turn s m c ns ds) (h : Phase s.control e) (t : NetworkId) :
    Minds t s m c ds := by
  have hidle (hg : s.guard = .idle) : s.announces t = false :=
    (h.of_idle hg).2.2.announces
  have hheard {p : NetworkId} (hg : s.announcer = some p ∨ s.guard = .idle) :
      s.announces t = false := by
    obtain ⟨rfl, -⟩ := h.released hg
    exact h.announces_of_none
  have hquiet {p : NetworkId} (hg : s.announcer = some p ∨ s.guard = .idle) :
      (s.control.released p).Quiet [] :=
    (h.released hg).2.2.2
  have hstopping {role : Role} {peer : NetworkId} (he : e = some (.stop role peer)) :
      s.announces t = false := by
    refine Bool.eq_false_iff.mpr fun ha => ?_
    obtain ⟨_, _, _, hstart, -⟩ := h.of_announces ha
    rw [he] at hstart
    cases hstart
  have hreleased (c : Control) (p : NetworkId) : (c.released p).announces t = c.announces t :=
    Control.announces_of_same (c.calls_released p)
  have hbegin {target : NetworkId} {device : DeviceId} {route : StartRoute}
      (hp : s.planStart target device = .ok route) (l : Location) : (s.control.begin l).Quiet [] :=
    (between_begin h (guard_of_planStart hp) l target device).quiet
  cases ht with
  | rest m _ _ _ hoff => exact minds_same rfl rfl (isReset_of_online hoff)
  | devices ds => exact minds_same rfl rfl rfl
  | prepares target device route plan hp _ _ =>
    refine minds_announced (hidle (guard_of_planStart hp)) ?_
    rw [(hbegin hp _).announces_issue]
    rfl
  | sharesAtOnce target device route plan hp _ _ hs =>
    have hfree := hidle (guard_of_planStart hp)
    refine minds_shares [.announceStart s.home plan.target] (hbegin hp _) hs ?_
      (minds_announced hfree) (fun ha => by rw [hfree] at ha; cases ha)
    by_cases htarget : plan.target = t
    · exact .inr htarget
    · refine .inl ?_
      rw [startWords_cons]
      simp [Dispatch.peer, htarget]
  | comesBack target device plan hp =>
    refine minds_none rfl (hidle (guard_of_planStart hp)) ?_
    rw [(hbegin hp _).announces_issue]
    rfl
  | stops m r hr =>
    have hg := guard_of_planStop (planStop_of_stopRoute? hr)
    refine minds_none rfl (hidle hg) ?_
    have hq : { s.control with guard := .stopping }.Quiet [] := (h.of_idle hg).2.2
    rw [Control.close, hq.announces_issue]
    rfl
  | hearsStart => exact minds_same rfl rfl rfl
  | hearsStop => exact minds_same rfl rfl rfl
  | startRejected p => exact minds_same rfl (hreleased _ p) rfl
  | consumes p => exact minds_same rfl (hreleased _ p) rfl
  | getsBack p _ _ hg => exact minds_none rfl (hheard hg) (hquiet hg).ended.announces
  | stopDropped p => exact minds_same rfl (hreleased _ p) rfl
  | stopRejected p => exact minds_same rfl (hreleased _ p) rfl
  | isLeft p hg => exact minds_none rfl (hheard hg) (hquiet hg).ended.announces
  | handedOn => exact minds_same rfl rfl rfl
  | resets id hp =>
    have hreset : s.isReset (.event (.deviceOffline id)) = true := hp
    have hq : s.control.reset.Quiet [] := Control.quiet_const rfl rfl
    rw [Minds, startWords_nil, if_pos rfl, hq.announces, hreset, Bool.not_true, Bool.and_false]
  | loses id hp =>
    refine minds_same rfl ((hreleased _ id).trans ?_) hp
    split <;> rfl
  | plugsIn dhid hr _ _ =>
    exact minds_none rfl (h.announces_of_outbound hr)
      ((h.issue_start hr _ rfl).announces_of_outbound hr)
  | endsAside call _ he ha =>
    refine minds_same rfl ?_ rfl
    rw [Station.announces, Bool.eq_iff_iff, Control.announces_iff, Control.announces_iff]
    constructor
    · rintro ⟨k, x, hx, hn⟩
      exact ⟨k, x, he.get_of_get hx, hn⟩
    · rintro ⟨k, x, hx, hn⟩
      refine ⟨k, x, ?_, hn⟩
      -- the call that ended is another one
      cases he with
      | superseded => exact hx
      | pending j y o hj _ =>
        have hne : j ≠ k := by
          rintro rfl
          obtain rfl : y = x := Option.some.inj (hj.symm.trans hx)
          rw [isTransition_of_announced? hn] at ha
          cases ha
        exact (PerKind.get_set_of_ne _ hne _).trans hx
  | opens call plan _ he hn _ hs =>
    have ha := h.announces_of_ends (t := t) he (by rw [hn]; rfl)
    obtain ⟨_, _, rfl, -, -, hb⟩ := h.ends_prepared he hn
    exact minds_shares [] (hb.setLink _).quiet hs (.inl rfl)
      (fun hc => minds_same rfl (hc.trans ha.symm) rfl) h.target_of_announces
  | opensNot call plan reason _ he hn _ =>
    obtain ⟨_, _, rfl, -, -, hb⟩ := h.ends_prepared he hn
    exact minds_closed [] (.inl rfl) rfl h.target_of_announces
      (hb.quiet.of_same rfl rfl).announces
  | stopsOrigin call plan _ he hn _ _ =>
    have ha := h.announces_of_ends (t := t) he (by rw [hn]; rfl)
    obtain ⟨_, _, rfl, -, -, hb⟩ := h.ends_started he hn
    refine minds_same rfl ?_ rfl
    rw [hb.quiet.announces_issue]
    exact ha.symm
  | shares call target device _ he hn _ _ =>
    obtain ⟨_, _, rfl, -, hb⟩ := h.ends_last he hn
    exact minds_closed [] (.inl rfl) rfl h.target_of_announces
      (hb.quiet.of_same rfl rfl).announces
  | handsOn call target device shared _ he hn _ _ =>
    obtain ⟨_, _, rfl, -, hb⟩ := h.ends_last he hn
    exact minds_closed [] (.inl rfl) (startWords_handOn t _ _ _)
      h.target_of_announces (hb.quiet.of_same rfl rfl).announces
  | stays call target device _ he hn _ hr =>
    obtain ⟨_, _, rfl, -, hb⟩ := h.ends_last he hn
    exact minds_none rfl (h.announces_of_outbound hr) (hb.quiet.of_same rfl rfl).announces
  | startFails call target device reason _ he hn _ =>
    obtain ⟨_, _, rfl, -, hb⟩ := h.ends_leg he hn
    exact minds_closed [] (.inl rfl) rfl h.target_of_announces
      (hb.quiet.of_same rfl rfl).announces
  | rollsBack call plan reason _ he hn _ =>
    obtain ⟨_, _, rfl, hb⟩ := h.ends_originStopped he hn
    refine minds_closed [] (.inl rfl) rfl h.target_of_announces ?_
    exact hb.quiet.announces_issue _ _ _
  | leaves call peer _ he hn _ =>
    obtain ⟨_, rfl, -, hb⟩ := h.ends_stopped he hn
    refine minds_none rfl (hstopping rfl) (Control.Quiet.announces (Control.Quiet.ended ?_))
    exact hb.quiet
  | stopFails call peer reason _ he hn _ =>
    obtain ⟨_, rfl, -, hb⟩ := h.ends_stopped he hn
    exact minds_none rfl (hstopping rfl) (hb.quiet.of_same rfl rfl).announces

end turn

/-! ### Runs -/

/-- A target waits while a start is under way that was announced to it, and after it was deserted. -/
theorem awaits_run (settings : Settings) (registry : Registry) (t : NetworkId) (ms : List Move) :
    awaitsResult t ((create settings registry).said ms) =
      (((create settings registry).run ms).announces t ||
        (create settings registry).deserted t ms) := by
  refine history (P := fun ms s => awaitsResult t ((create settings registry).said ms) =
    (s.announces t || (create settings registry).deserted t ms)) rfl (fun ms m ih => ?_) ms
  obtain ⟨c, ns, ds, ht, hs⟩ := Station.turns _ m (speaks_run settings registry ms)
  have hminds := minds_turn ht (phase_run settings registry ms) t
  have hqueued : ((create settings registry).run ms).queued m = ds := hs.queued
  have hnow : (((create settings registry).run ms).step m).announces t = c.announces t :=
    congrArg (Control.announces · t) hs.control
  rw [said, gather_concat, awaitsResult_append, deserted, track_concat, desertedAfter, hqueued, hnow]
  rw [said, deserted] at ih
  unfold Minds at hminds
  by_cases hwords : startWords t ds = []
  · rw [if_pos hwords] at hminds ⊢
    rw [ih, hminds, hwords]
    cases ((create settings registry).run ms).announces t <;>
      cases ((create settings registry).run ms).isReset m <;>
        cases track (desertedAfter t) false (create settings registry) ms <;> rfl
  · rw [if_neg hwords] at hminds ⊢
    rw [hminds, List.isEmpty_eq_false_iff.mpr hwords, Bool.false_and, Bool.or_false]

/-- **Every start that was announced is closed, unless it is deserted.** Whenever a station has no
start of its own under way, the last that a target was told of starts is that one begins if and only
if the start that was announced to it last was deserted: all calls were dropped because the other
end of the session left the network, and the target was told nothing since. A station that loses
its session while a start is under way that was announced consumes a pointer, and was about to hand
it on. -/
theorem announced_starts_closed_unless_deserted (settings : Settings) (registry : Registry)
    (t : NetworkId) (ms : List Move) :
    let s₀ := create settings registry
    let s := s₀.run ms
    (¬(s.guard.isStarting = true ∧ s.announcer = none) →
      awaitsResult t (s₀.said ms) = s₀.deserted t ms) ∧
    ∀ m, s.isReset m = true → s.announces t = true → ∃ d, s.role = .inbound d := by
  intro s₀ s
  have hphase : Phase s.control (s₀.errand ms) := phase_run settings registry ms
  refine ⟨fun hnone => ?_, fun m hreset ha => ?_⟩
  · have hnot : s.announces t = false := Bool.eq_false_iff.mpr fun ha => by
      obtain ⟨_, _, _, -, -, -, hg, hann⟩ := hphase.of_announces ha
      have hguard : s.guard = .starting := hg
      exact hnone ⟨by rw [hguard]; rfl, hann⟩
    have hawaits := awaits_run settings registry t ms
    rw [hnot, Bool.false_or] at hawaits
    exact hawaits
  · obtain ⟨role, _, _, -, ho, hr, -⟩ := hphase.of_announces ha
    have hrole : s.role = role := hr
    cases hcase : s.role with
    | free =>
      unfold isReset at hreset
      split at hreset
      · simp [participates, hcase] at hreset
      · cases hreset
    | inbound d => exact ⟨d, rfl⟩
    | outbound d =>
      rw [← hrole, hcase] at ho
      cases ho

/-- A consumed pointer of `b` is being handed on to `c`, when `b` leaves the network: no start is
under way any more, and `c` was not told. -/
theorem relay_deserted_by_reset :
    let s₀ := create ⟨8, 1000, 2, 1000, .center⟩
      ⟨⟨"a"⟩, [⟨⟨2⟩, ⟨"n"⟩, ⟨"b"⟩, [], true, true⟩]⟩
    let ms : List Move := [.event (.signal (.startRequest ⟨"b"⟩)),
      .event (.signal (.startResult ⟨"b"⟩ true ⟨"n"⟩ .center)), .happen (.mood .prepare .silent),
      .event (.request (.start ⟨"c"⟩ ⟨2⟩)), .event (.deviceOffline ⟨"b"⟩)]
    let s := s₀.run ms
    s.guard = .idle ∧ s.announcer = none ∧ s₀.said ms = [.announceStart ⟨"a"⟩ ⟨"c"⟩] ∧
      awaitsResult ⟨"c"⟩ (s₀.said ms) = true := by
  decide +kernel

end Station

end PointerShare
