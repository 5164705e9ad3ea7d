/-
# A link is prepared before it is used

The devices of a start are started over a link that a call of the station's own
has prepared. When the link is held already, that call may have been an earlier
start's: a station keeps the link of a pointer that it handed on. `Backed` says
of a link that some call to prepare it ended well and that every move since has
kept it. The link of an outbound station need not be backed, for it follows the
pointer wherever that goes; but a station that ceases to be outbound gives its
link up. So whoever is not outbound holds a link that was prepared since any
given moment of the run, or has been kept since that moment (`backed_since`);
seen from the beginning, a link that is backed, or none (`backed_run`).

Key definitions: `Station.Opens`, `Station.Keeps`, `Station.Backed`,
`Station.BackedSince`.
Key theorems: `Station.backed_since`, `Station.backed_run`,
`Station.prepared_before_started`.
-/
import PointerShare.Proofs.Ledger
import PointerShare.Proofs.RoleChange

namespace PointerShare

namespace Station

/-- A call to prepare the link `l`, one of those that were issued, ends well. -/
def Opens (s : Station) (issued : List Entry) (l : Link) (m : Move) : Prop :=
  m = .take ∧ ∃ call x, s.ending? = some call ∧ call.outcome = .succeeded ∧
    ⟨.prepare, x⟩ ∈ issued ∧ x.request = call.request ∧ x.args = ⟨l.src, l.sink, []⟩

/-- A move leaves the link `l` to the station: no link is given up, no start fails, and no session
is lost. -/
structure Keeps (l : Link) (s : Station) (m : Move) : Prop where
  link : (s.step m).link = l
  unprepares : ∀ e ∈ s.issues m, e.kind ≠ .unprepare
  fails : ∀ target dhid place, .startResult target false dhid place ∉ s.queued m
  resets : s.isReset m = false

/-- In the run `ms` the link `l` was prepared, and has been kept since. -/
def Backed (s : Station) (ms : List Move) (l : Link) : Prop :=
  ∃ before m after, ms = before ++ m :: after ∧ Opens (s.run before) (s.ledger before) l m ∧
    Along step (Keeps l) (s.run before) (m :: after)

/-- In the run `before ++ after` the link `l` was prepared after `before`, and has been kept
since. -/
def BackedSince (s : Station) (before after : List Move) (l : Link) : Prop :=
  ∃ mid m rest, after = mid ++ m :: rest ∧
    Opens (s.run (before ++ mid)) (s.ledger (before ++ mid)) l m ∧
      Along step (Keeps l) (s.run (before ++ mid)) (m :: rest)

theorem along_keeps_concat {s : Station} {ms : List Move} {m : Move} {l : Link}
    (h : Along step (Keeps l) s ms) (hk : Keeps l (s.run ms) m) :
    Along step (Keeps l) s (ms ++ [m]) :=
  along_append.mpr ⟨h, hk, trivial⟩

section since

variable {s : Station} {before after : List Move} {l : Link} {m : Move}

theorem BackedSince.of_opens
    (ho : Opens (s.run (before ++ after)) (s.ledger (before ++ after)) l m)
    (hk : Keeps l (s.run (before ++ after)) m) : BackedSince s before (after ++ [m]) l :=
  ⟨after, m, [], rfl, ho, hk, trivial⟩

theorem BackedSince.concat (h : BackedSince s before after l)
    (hk : Keeps l (s.run (before ++ after)) m) : BackedSince s before (after ++ [m]) l := by
  obtain ⟨mid, m₁, rest, rfl, ho, ha⟩ := h
  rw [← List.append_assoc, run_append] at hk
  exact ⟨mid, m₁, rest ++ [m], by simp, ho, along_keeps_concat ha hk⟩

end since

/-! ### What becomes of the link -/

section turn

variable {s : Station} {m : Move} {c : Control} {ns : List Notice} {ds : List Dispatch}

theorem isReset_of_stopRoute? {r : StopRoute} (h : s.stopRoute? m = some r) :
    s.isReset m = false := by
  refine isReset_of_online ?_
  rintro id rfl
  cases h

/-- Where a link is left, no session was lost and no start has failed. -/
theorem spares_turn (ht : Turn s m c ns ds) (hl : c.link.isPrepared = true) :
    s.isReset m = false ∧ ∀ target dhid place, .startResult target false dhid place ∉ ds := by
  have hshares {c₁ : Control} {plan : StartPlan} {ns₁ : List Notice} {ds₁ : List Dispatch}
      (hs : Shares c₁ plan c ns₁ ds₁) : ds₁ = [] := by
    cases hs with
    | calls => rfl
    | lacks => cases hl
  cases ht with
  | rest m _ _ _ hoff => exact ⟨isReset_of_online hoff, by simp⟩
  | stops m r hr => exact ⟨isReset_of_stopRoute? hr, by simp⟩
  | sharesAtOnce target device route plan hp hr hj hs =>
    obtain rfl := hshares hs
    exact ⟨rfl, by simp⟩
  | opens call plan _ _ _ _ hs =>
    obtain rfl := hshares hs
    exact ⟨rfl, by simp⟩
  | loses id hp => exact ⟨hp, by simp⟩
  | handsOn call target device shared _ _ _ _ _ =>
    refine ⟨rfl, fun t d place h => ?_⟩
    rcases List.mem_cons.mp h with h | h
    · cases h
    · obtain ⟨origin, h⟩ := Control.eq_of_mem_handOn h
      cases h
  | resets => cases hl
  | opensNot => cases hl
  | startFails => cases hl
  | rollsBack => cases hl
  | _ => exact ⟨rfl, by simp⟩

/-- The link of a station that is not outbound was its link before, and it was not outbound then; or
the link has just been prepared. -/
theorem link_turn (ht : Turn s m c ns ds) (hr : c.role.isOutbound = false)
    (hl : c.link.isPrepared = true) :
    s.role.isOutbound = false ∧ c.link = s.link ∨
      ∃ call plan, m = .take ∧ s.ending? = some call ∧ call.completion = .prepared plan ∧
        call.outcome = .succeeded ∧ c.link = ⟨plan.src, plan.target⟩ := by
  have hends {call : Resolved Continuation} {c₁ : Control} (he : Ends s.control call c₁)
      (hrole : c.role = c₁.role) (hlink : c.link = c₁.link) :
      s.role.isOutbound = false ∧ c.link = s.link := by
    rw [hrole, he.same.role] at hr
    exact ⟨hr, hlink.trans he.same.link⟩
  have hreleased (p : NetworkId) (hr : (s.control.released p).role.isOutbound = false) :
      s.role.isOutbound = false ∧ (s.control.released p).link = s.link := by
    rw [Control.role_released] at hr
    exact ⟨hr, s.control.link_released p⟩
  cases ht with
  | rest => exact .inl ⟨hr, rfl⟩
  | devices => exact .inl ⟨hr, rfl⟩
  | prepares => exact .inl ⟨hr, rfl⟩
  | sharesAtOnce target device route plan hp _ _ hs =>
    cases hs with
    | calls => exact .inl ⟨hr, rfl⟩
    | lacks => cases hl
  | comesBack => exact .inl ⟨hr, rfl⟩
  | stops => exact .inl ⟨hr, rfl⟩
  | hearsStart => exact .inl ⟨hr, rfl⟩
  | hearsStop => exact .inl ⟨hr, rfl⟩
  | startRejected p => exact .inl (hreleased p hr)
  | consumes p _ _ _ _ ho => exact .inl ⟨ho, s.control.link_released p⟩
  | stopDropped p => exact .inl (hreleased p hr)
  | stopRejected p => exact .inl (hreleased p hr)
  | handedOn p ho =>
    have hf : s.role.isOutbound = false := hr
    rw [ho] at hf
    cases hf
  | loses id _ =>
    rw [Control.role_released] at hr
    rw [Control.link_released] at hl ⊢
    by_cases hcut : (s.role.isFree && s.link.involves id) = true
    · rw [if_pos hcut] at hl
      cases hl
    · rw [if_neg hcut] at hr ⊢
      exact .inl ⟨hr, rfl⟩
  | plugsIn => exact .inl ⟨hr, rfl⟩
  | endsAside call _ he _ => exact .inl (hends he rfl rfl)
  | opens call plan hc he hn ho hs =>
    cases hs with
    | calls => exact .inr ⟨call, plan, rfl, hc, hn, succeeded_of_reason? ho, rfl⟩
    | lacks => cases hl
  | stopsOrigin call plan _ he _ _ _ => exact .inl (hends he rfl rfl)
  | shares => cases hr
  | handsOn call target device shared _ he _ _ hi =>
    refine .inl ⟨?_, he.same.link⟩
    rw [hi]
    rfl
  | stays call target device _ he _ _ _ => exact .inl (hends he rfl rfl)
  | stopFails call peer reason _ he _ _ => exact .inl (hends he rfl rfl)
  | getsBack p =>
    rw [Control.link_ended] at hl
    cases hl
  | isLeft p =>
    rw [Control.link_ended] at hl
    cases hl
  | leaves call peer =>
    rw [Control.link_ended] at hl
    cases hl
  | resets => cases hl
  | opensNot => cases hl
  | startFails => cases hl
  | rollsBack => cases hl

/-- A move that leaves a link keeps it. -/
theorem keeps_of_isPrepared (hw : s.Speaks) (hl : (s.step m).link.isPrepared = true) :
    Keeps (s.step m).link s m := by
  obtain ⟨c, ns, ds, ht, hs⟩ := s.turns m hw
  have hlink : (s.step m).link = c.link := congrArg Control.link hs.control
  obtain ⟨hreset, hfail⟩ := spares_turn ht (hlink ▸ hl)
  refine ⟨rfl, fun e he hk => ?_, fun target dhid place hmem => ?_, hreset⟩
  · rw [link_of_issues hw he hk] at hl
    cases hl
  · rw [queued, hs.queued] at hmem
    exact hfail target dhid place hmem

end turn

/-! ### Runs -/

section run

variable (settings : Settings) (registry : Registry)

/-- A call whose completion is to go on with a prepared link is a call to prepare it. -/
theorem opens_of_ending {ms : List Move} {call : Resolved Continuation} {plan : StartPlan}
    (hc : ((create settings registry).run ms).ending? = some call)
    (hn : call.completion = .prepared plan) (ho : call.outcome = .succeeded) :
    Opens ((create settings registry).run ms) ((create settings registry).ledger ms)
      ⟨plan.src, plan.target⟩ .take := by
  obtain ⟨_, he, -⟩ := take_of_ending hc
  obtain ⟨args, hget⟩ := he.get_args (by rw [ho]; decide)
  have hx := (recorded_run settings registry ms).pending _ _ hget
  obtain ⟨_, _, _, -, hocc⟩ := occasion_of_ledger settings registry hx
  obtain ⟨kind, request, outcome, completion⟩ := call
  obtain rfl : completion = .prepared plan := hn
  cases hocc with
  | prepare => exact ⟨rfl, _, _, hc, ho, hx, rfl, rfl⟩

/-- **A station that is not outbound holds a link that was prepared since some moment of the run, or
it held that link at this moment, not being outbound either, and has kept it.** -/
theorem backed_since (before after : List Move) :
    let s := create settings registry
    (s.run (before ++ after)).role.isOutbound = false →
      (s.run (before ++ after)).link.isPrepared = true →
        BackedSince s before after (s.run (before ++ after)).link ∨
          ((s.run before).role.isOutbound = false ∧
            (s.run before).link = (s.run (before ++ after)).link ∧
              Along step (Keeps (s.run (before ++ after)).link) (s.run before) after) := by
  intro s
  rw [run_append]
  refine history (P := fun after t => t.role.isOutbound = false → t.link.isPrepared = true →
    BackedSince s before after t.link ∨ ((s.run before).role.isOutbound = false ∧
      (s.run before).link = t.link ∧ Along step (Keeps t.link) (s.run before) after))
    (fun ho _ => .inr ⟨ho, rfl, trivial⟩) (fun after m ih hr hl => ?_) after
  have hw : ((s.run before).run after).Speaks := by
    rw [← run_append]
    exact speaks_run settings registry (before ++ after)
  have hk := keeps_of_isPrepared hw hl
  obtain ⟨c, ns, ds, ht, hs⟩ := Station.turns ((s.run before).run after) m hw
  have hrole : (((s.run before).run after).step m).role = c.role := congrArg Control.role hs.control
  have hlink : (((s.run before).run after).step m).link = c.link := congrArg Control.link hs.control
  rcases link_turn ht (hrole ▸ hr) (hlink ▸ hl) with ⟨ho, he⟩ | ⟨call, plan, rfl, hc, hn, hsucc, he⟩
  · have hsame := hlink.trans he
    rw [hsame] at hk hl ⊢
    rcases ih ho hl with hb | ⟨hr₀, hl₀, ha⟩
    · rw [← run_append] at hb hk ⊢
      exact .inl (hb.concat hk)
    · exact .inr ⟨hr₀, hl₀, along_keeps_concat ha hk⟩
  · have hsame := hlink.trans he
    rw [hsame] at hk ⊢
    rw [← run_append] at hc hk
    exact .inl (.of_opens (opens_of_ending settings registry hc hn hsucc) hk)

/-- **A station that is not outbound holds a link that was prepared and kept since, or none.** -/
theorem backed_run (ms : List Move) :
    ((create settings registry).run ms).role.isOutbound = false →
      ((create settings registry).run ms).link.isPrepared = true →
        Backed (create settings registry) ms ((create settings registry).run ms).link := by
  intro hr hl
  rcases backed_since settings registry [] ms hr hl with hb | ⟨-, hnone, -⟩
  · exact hb
  · -- a station begins without a link
    have hl' : ((create settings registry).run []).link.isPrepared = true := by
      rw [hnone]
      exact hl
    cases hl'

/-- **A link is prepared before it is used.** Whenever a move of a run issues a call for a start to
start its devices, over the link from `src` to `sink`, either this move takes the success of a call
that was issued to prepare just this link; or an earlier move did, and from then to the last move
before this one the link stayed the same, no link was given up, no start failed and no session
was lost. -/
theorem prepared_before_started (before : List Move) (m : Move) (e : Entry) (plan : StartPlan)
    (he : e ∈ ((create settings registry).run before).issues m)
    (hn : e.call.completion = .started plan) :
    let s := create settings registry
    let l : Link := ⟨e.call.args.src, e.call.args.sink⟩
    e.kind = .start ∧ l = ⟨plan.src, plan.target⟩ ∧
      (Opens (s.run before) (s.ledger before) l m ∨ Backed s before l) := by
  have hocc := occasion_of_issues (speaks_run settings registry before) he
  obtain ⟨k, request, args, next⟩ := e
  obtain rfl : next = .started plan := hn
  cases hocc with
  | startAtOnce target device route plan dhids hp hr hl hd hne =>
    obtain ⟨hlink, hprepared⟩ := Link.joins_iff.mp hl
    obtain ⟨-, -, ho, -⟩ := planStart_plan hp hr
    refine ⟨rfl, rfl, .inr ?_⟩
    have hb := backed_run settings registry before ho hprepared
    rw [hlink] at hb
    exact hb
  | startPrepared call plan dhids hc hn ho hd hne =>
    exact ⟨rfl, rfl, .inl (opens_of_ending settings registry hc hn (succeeded_of_reason? ho))⟩

end run

/-- A pointer of `b` is handed on to `c`, comes to the station again, and is handed on to `c` once
more: the link from `b` to `c` is not prepared again, and is backed. -/
theorem handed_on_twice_over_one_link :
    let s := create ⟨8, 1000, 2, 1000, .center⟩
      ⟨⟨"a"⟩, [⟨⟨2⟩, ⟨"n"⟩, ⟨"b"⟩, [], true, true⟩]⟩
    let shared : List Move :=
      [.event (.signal (.startRequest ⟨"b"⟩)),
        .event (.signal (.startResult ⟨"b"⟩ true ⟨"n"⟩ .center))]
    let again : Move := .event (.request (.start ⟨"c"⟩ ⟨2⟩))
    let before := shared ++ [again, .take, .take, .take, .take, .take] ++ shared
    let e : Entry := ⟨.start, ⟨4⟩, ⟨⟨"b"⟩, ⟨"c"⟩, [⟨"n"⟩]⟩,
      .started ⟨⟨"c"⟩, ⟨2⟩, ⟨"b"⟩, [⟨"n"⟩], true⟩⟩
    e ∈ (s.run before).issues again ∧ Backed s before ⟨⟨"b"⟩, ⟨"c"⟩⟩ := by
  intro s shared again before e
  have he : e ∈ (s.run before).issues again := by decide +kernel
  obtain ⟨-, -, ⟨hm, -⟩ | hb⟩ := prepared_before_started ⟨8, 1000, 2, 1000, .center⟩
    ⟨⟨"a"⟩, [⟨⟨2⟩, ⟨"n"⟩, ⟨"b"⟩, [], true, true⟩]⟩ before again e
    ⟨⟨"c"⟩, ⟨2⟩, ⟨"b"⟩, [⟨"n"⟩], true⟩ he rfl
  · exact absurd hm (by decide)
  · exact ⟨he, hb⟩

end Station

end PointerShare
