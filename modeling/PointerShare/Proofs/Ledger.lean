/-
# The calls a station issued in a run

A bookkeeper beside a run writes down every call that the station issues, with
its kind, its arguments and what it waits for. A move issues one call at most,
and the numbers of the calls are those of their lines in the ledger; so a call
that is held, or ends, is known by its number, and its line tells when it was
issued and what for. `Occasion` lists what for.

Key definitions: `Station.gather`, `Entry`, `Station.issues`, `Station.ledger`,
`Station.queued`, `Station.isReset`, `Occasion`, `Control.Recorded`.
Key theorems: `Station.mem_gather`, `Station.history`, `Station.books`,
`Station.recorded_run`, `Control.Recorded.eq_of_request`.
-/
import PointerShare.Proofs.Phase

namespace PointerShare

namespace Station

/-! ### What a run brings -/

section gather

variable {α : Type} (f : Station → Move → List α)

/-- What the moves of a run bring, one after the other. -/
def gather : Station → List Move → List α
  | _, [] => []
  | s, m :: ms => f s m ++ gather (s.step m) ms

theorem gather_append (ms ms' : List Move) :
    ∀ s : Station, gather f s (ms ++ ms') = gather f s ms ++ gather f (s.run ms) ms' := by
  induction ms with
  | nil => exact fun _ => rfl
  | cons m ms ih =>
    intro s
    rw [List.cons_append, gather, ih, gather, List.append_assoc, run_cons]

theorem gather_concat (s : Station) (ms : List Move) (m : Move) :
    gather f s (ms ++ [m]) = gather f s ms ++ f (s.run ms) m := by
  rw [gather_append, gather, gather, List.append_nil]

/-- What a run brings, some move of it brings. -/
theorem mem_gather {f : Station → Move → List α} {a : α} {ms : List Move} :
    ∀ {s : Station}, a ∈ gather f s ms ↔
      ∃ before m after, ms = before ++ m :: after ∧ a ∈ f (s.run before) m := by
  induction ms with
  | nil => simp [gather]
  | cons m ms ih =>
    intro s
    rw [gather, List.mem_append, ih]
    constructor
    · rintro (h | ⟨before, m', after, rfl, h⟩)
      · exact ⟨[], m, ms, rfl, h⟩
      · exact ⟨m :: before, m', after, rfl, h⟩
    · rintro ⟨before, m', after, he, h⟩
      cases before with
      | nil =>
        cases he
        exact .inl h
      | cons b before =>
        cases he
        exact .inr ⟨before, m', after, rfl, h⟩

end gather

theorem run_concat (s : Station) (ms : List Move) (m : Move) :
    s.run (ms ++ [m]) = (s.run ms).step m :=
  s.run_append ms [m]

theorem track_concat {α : Type} (note : α → Station → Move → α) (ms : List Move) (m : Move) :
    ∀ (a : α) (s : Station),
      track note a s (ms ++ [m]) = note (track note a s ms) (s.run ms) m := by
  induction ms with
  | nil => exact fun _ _ => rfl
  | cons m' ms ih => exact fun a s => ih (note a s m') (s.step m')

/-- What holds of a run without moves, and goes on to hold with each further move, holds of every
run. -/
theorem history {s : Station} {P : List Move → Station → Prop} (hnil : P [] s)
    (hstep : ∀ ms m, P ms (s.run ms) → P (ms ++ [m]) ((s.run ms).step m)) (ms : List Move) :
    P ms (s.run ms) := by
  -- a run that has gone on for `before` goes on with the rest
  have hrest (ms : List Move) : ∀ before, P before (s.run before) →
      P (before ++ ms) (s.run (before ++ ms)) := by
    induction ms with
    | nil => exact fun before h => by rwa [List.append_nil]
    | cons m ms ih =>
      intro before h
      have hm := hstep before m h
      rw [← run_concat] at hm
      rw [← List.singleton_append, ← List.append_assoc]
      exact ih _ hm
  exact hrest ms [] hnil

end Station

/-! ### The ledger -/

/-- A call that was issued. -/
structure Entry where
  kind : CallKind
  call : Call Continuation
  deriving DecidableEq, Repr

/-- What the service is asked for. -/
def Entry.what (e : Entry) : CallKind × CallArgs := (e.kind, e.call.args)

namespace Control

/-- The call of a kind that is pending in `c'` and was not in `c`. -/
def fresh? (c c' : Control) (k : CallKind) : Option Entry :=
  ((c'.calls.get k).filter fun x => c.calls.get k ≠ some x).map (Entry.mk k)

/-- The calls that are pending in `c'` and were not in `c`. -/
def fresh (c c' : Control) : List Entry := CallKind.all.filterMap (c.fresh? c')

end Control

namespace Station

/-- The calls that a move issues: they are pending after it and were not before. -/
def issues (s : Station) (m : Move) : List Entry := s.control.fresh (s.step m).control

/-- The calls that the station issues in a run, oldest first. -/
def ledger : Station → List Move → List Entry := gather issues

/-- What a move queues for peers. -/
def queued (s : Station) (m : Move) : List Dispatch :=
  (s.step m).outbox.queue.drop s.outbox.queue.length

/-- The other end of the session leaves the network, and nothing is left of the session. -/
def isReset (s : Station) : Move → Bool
  | .event (.deviceOffline id) => s.participates id
  | _ => false

theorem isReset_of_online {s : Station} {m : Move} (h : ∀ id, m ≠ .event (.deviceOffline id)) :
    s.isReset m = false := by
  unfold isReset
  split
  · exact absurd rfl (h _)
  · rfl

end Station

/-- What a move can issue a call for. -/
inductive Occasion (s : Station) : Move → CallKind → CallArgs → Continuation → Prop
  /-- A start prepares the link. -/
  | prepare (target : NetworkId) (device : DeviceId) (route : StartRoute) (plan : StartPlan)
      (hp : s.planStart target device = .ok route)
      (hr : route = .share plan ∨ route = .relay plan)
      (hl : s.link.joins plan.src plan.target = false) :
      Occasion s (.event (.request (.start target device))) .prepare ⟨plan.src, plan.target, []⟩
        (.prepared plan)
  /-- A start whose link is prepared already starts the devices. -/
  | startAtOnce (target : NetworkId) (device : DeviceId) (route : StartRoute) (plan : StartPlan)
      (dhids : List Dhid) (hp : s.planStart target device = .ok route)
      (hr : route = .share plan ∨ route = .relay plan)
      (hl : s.link.joins plan.src plan.target = true)
      (hd : s.registry.shareable plan.device = dhids) (hne : dhids ≠ []) :
      Occasion s (.event (.request (.start target device))) .start ⟨plan.src, plan.target, dhids⟩
        (.started { plan with dhids := dhids })
  /-- Once the link is prepared, the devices are started. -/
  | startPrepared (call : Resolved Continuation) (plan : StartPlan) (dhids : List Dhid)
      (hc : s.ending? = some call) (hn : call.completion = .prepared plan)
      (ho : call.outcome.reason? = none)
      (hd : s.registry.shareable plan.device = dhids) (hne : dhids ≠ []) :
      Occasion s .take .start ⟨plan.src, plan.target, dhids⟩
        (.started { plan with dhids := dhids })
  /-- The consumed pointer is given back. -/
  | giveBack (target : NetworkId) (device : DeviceId) (plan : StartPlan)
      (hp : s.planStart target device = .ok (.comeBack plan)) :
      Occasion s (.event (.request (.start target device))) .stop ⟨plan.src, s.home, plan.dhids⟩
        (.cameBack plan.target plan.device)
  /-- Once a pointer is handed on, the link it came by is stopped. -/
  | stopOrigin (call : Resolved Continuation) (plan : StartPlan) (hc : s.ending? = some call)
      (hn : call.completion = .started plan) (ho : call.outcome.reason? = none)
      (hr : plan.relays = true) :
      Occasion s .take .stop ⟨plan.src, s.home, plan.dhids⟩ (.originStopped plan)
  /-- If that fails, the new link is stopped. -/
  | rollBack (call : Resolved Continuation) (plan : StartPlan) (reason : Reason)
      (hc : s.ending? = some call) (hn : call.completion = .originStopped plan)
      (ho : call.outcome.reason? = some reason) :
      Occasion s .take .stop ⟨plan.src, plan.target, plan.dhids⟩ (.relayRolledBack plan.target)
  | stop (m : Move) (r : StopRoute) (hr : s.stopRoute? m = some r) :
      Occasion s m .stop ⟨r.src, r.sink, r.dhids⟩ (.stopped r.peer)
  /-- A session is over, and its link is given up. -/
  | unprepare (m : Move) (hl : s.link.isPrepared = true) :
      Occasion s m .unprepare ⟨s.link.src, s.link.sink, []⟩ (.unprepared s.link)
  | keyboard (dhid : Dhid) (hr : s.role.isOutbound = true) (hl : s.link.isPrepared = true) :
      Occasion s (.event (.keyboardOnline dhid)) .start ⟨s.link.src, s.link.sink, [dhid]⟩
        (.keyboardAdded dhid)

namespace Control

/-- From `c` to `c'` no call is issued; some may end, or be dropped. -/
structure Sheds (c c' : Control) : Prop where
  issued : c'.issued = c.issued
  pending : ∀ k x, c'.calls.get k = some x → c.calls.get k = some x
  superseded : c'.superseded ⊆ c.superseded

/-- From `c` to `c'` one call is issued; others may end, and that of its kind is superseded. -/
structure Adds (c c' : Control) (k : CallKind) (args : CallArgs) (next : Continuation) : Prop where
  issued : c'.issued = c.issued + 1
  get : c'.calls.get k = some ⟨⟨c.issued + 1⟩, args, next⟩
  others : ∀ j x, j ≠ k → c'.calls.get j = some x → c.calls.get j = some x
  superseded : ∀ r ∈ c'.superseded, r ∈ c.superseded ∨
    ∃ x, c.calls.get k = some x ∧ r = ⟨k, x.request, x.completion⟩

theorem Sheds.refl (c : Control) : c.Sheds c := ⟨rfl, fun _ _ h => h, fun _ h => h⟩

theorem Sheds.of_same {c c' : Control} (hi : c'.issued = c.issued) (hc : c'.calls = c.calls)
    (hs : c'.superseded = c.superseded) : c.Sheds c' :=
  ⟨hi, fun _ _ h => hc ▸ h, fun _ h => hs ▸ h⟩

theorem Sheds.of_ends {c c' : Control} {call : Resolved Continuation} (he : Ends c call c') :
    c.Sheds c' := by
  refine ⟨?_, fun k x h => he.get_of_get h, ?_⟩
  · cases he <;> rfl
  · cases he with
    | pending => exact fun _ h => h
    | superseded r hr => exact fun _ h => (List.mem_filter.mp h).1

theorem Sheds.trans {c c₁ c₂ : Control} (h : c.Sheds c₁) (h₁ : c₁.Sheds c₂) : c.Sheds c₂ :=
  ⟨h₁.issued.trans h.issued, fun k x hx => h.pending k x (h₁.pending k x hx),
    fun _ hr => h.superseded (h₁.superseded hr)⟩

theorem sheds_reset (c : Control) : c.Sheds c.reset := by
  refine ⟨rfl, fun k x h => ?_, List.nil_subset _⟩
  rw [reset, PerKind.get_const] at h
  cases h

theorem sheds_released (c : Control) (id : NetworkId) : c.Sheds (c.released id) := by
  unfold released
  split
  · exact .of_same rfl rfl rfl
  · exact .refl c

theorem Sheds.issue {c c₁ : Control} (h : c.Sheds c₁) (k : CallKind) (args : CallArgs)
    (next : Continuation) : c.Adds (c₁.issue k args next) k args next := by
  refine ⟨congrArg (· + 1) h.issued, ?_, fun j x hj hx => ?_, fun r hr => ?_⟩
  · rw [get_issue, h.issued]
  · rw [get_issue_of_ne _ hj.symm] at hx
    exact h.pending j x hx
  · rcases List.mem_append.mp hr with hr | hr
    · exact .inl (h.superseded hr)
    · obtain ⟨x, hx, rfl⟩ := List.mem_map.mp hr
      exact .inr ⟨x, h.pending k x (Option.mem_toList.mp hx), rfl⟩

/-- A session that is over gives its link up. -/
theorem Sheds.adds_ended {c c₁ : Control} (h : c.Sheds c₁) (hl : c₁.link.isPrepared = true) :
    c.Adds c₁.ended .unprepare ⟨c₁.link.src, c₁.link.sink, []⟩ (.unprepared c₁.link) := by
  have ha := h.issue .unprepare ⟨c₁.link.src, c₁.link.sink, []⟩ (.unprepared c₁.link)
  unfold ended unprepare
  rw [if_pos hl]
  exact ⟨ha.issued, ha.get, ha.others, ha.superseded⟩

theorem Sheds.sheds_ended {c c₁ : Control} (h : c.Sheds c₁) (hl : c₁.link.isPrepared = false) :
    c.Sheds c₁.ended := by
  unfold ended unprepare
  rw [if_neg (by simp [hl])]
  exact h.trans (.of_same rfl rfl rfl)

end Control

/-! ### A move issues one call at most -/

/-- A move issues no call, or one, and has an occasion to. A link that is given up is gone. -/
inductive Books (s : Station) (m : Move) (c : Control) : Prop
  | sheds (h : s.control.Sheds c)
  | adds (k : CallKind) (args : CallArgs) (next : Continuation) (ho : Occasion s m k args next)
      (h : s.control.Adds c k args next) (hl : k = .unprepare → c.link = .none)

namespace Station

variable {s : Station} {m : Move} {c : Control} {ns : List Notice} {ds : List Dispatch}

theorem books_ended (hc : s.control.Sheds c) (hl : c.link = s.link) : Books s m c.ended := by
  cases hp : c.link.isPrepared with
  | false => exact .sheds (hc.sheds_ended hp)
  | true =>
    have ha := hc.adds_ended hp
    rw [hl] at ha hp
    exact .adds _ _ _ (.unprepare m hp) ha fun _ => Control.link_ended_of_isPrepared (hl ▸ hp)

theorem books_shares {c₁ : Control} (h : s.control.Sheds c₁) {plan : StartPlan}
    (hs : Shares c₁ plan c ns ds)
    (ho : ∀ dhids, c₁.registry.shareable plan.device = dhids → dhids ≠ [] →
      Occasion s m .start ⟨plan.src, plan.target, dhids⟩ (.started { plan with dhids := dhids })) :
    Books s m c := by
  cases hs with
  | calls dhids hd hne => exact .adds _ _ _ (ho dhids hd hne) (h.issue _ _ _) nofun
  | lacks _ => exact .sheds (h.trans (.of_same rfl rfl rfl))

/-- Every move issues no call, or one for which it has an occasion. -/
theorem books_turn (ht : Turn s m c ns ds) : Books s m c := by
  have hends {call : Resolved Continuation} {c₁ : Control} (he : Ends s.control call c₁) :
      s.control.Sheds c₁ := .of_ends he
  have hjoined {call : Resolved Continuation} {c₁ : Control} (he : Ends s.control call c₁)
      (l : Link) : s.control.Sheds { c₁ with link := l } := (hends he).trans (.of_same rfl rfl rfl)
  have hbegin (l : Location) : s.control.Sheds (s.control.begin l) := .of_same rfl rfl rfl
  have hreleased (p : NetworkId) : s.control.Sheds (s.control.released p) :=
    s.control.sheds_released p
  cases ht with
  | rest => exact .sheds (.refl _)
  | devices ds => exact .sheds (.of_same rfl rfl rfl)
  | prepares target device route plan hp hr hl =>
    exact .adds _ _ _ (.prepare target device route plan hp hr hl) ((hbegin _).issue _ _ _)
      nofun
  | sharesAtOnce target device route plan hp hr hl h =>
    exact books_shares (hbegin _) h fun dhids hd hne =>
      .startAtOnce target device route plan dhids hp hr hl hd hne
  | comesBack target device plan hp =>
    exact .adds _ _ _ (.giveBack target device plan hp) ((hbegin _).issue _ _ _)
      nofun
  | stops m r hr =>
    have h : s.control.Sheds { s.control with guard := .stopping } := .of_same rfl rfl rfl
    exact .adds _ _ _ (.stop m r hr) (h.issue _ _ _) nofun
  | hearsStart p _ _ => exact .sheds (.of_same rfl rfl rfl)
  | hearsStop p _ _ => exact .sheds (.of_same rfl rfl rfl)
  | startRejected p _ _ _ _ => exact .sheds (hreleased p)
  | consumes p _ _ _ _ _ => exact .sheds ((hreleased p).trans (.of_same rfl rfl rfl))
  | getsBack p _ _ _ _ _ => exact books_ended (hreleased p) (Control.link_released _ p)
  | stopDropped p _ _ _ => exact .sheds (hreleased p)
  | stopRejected p _ _ => exact .sheds (hreleased p)
  | isLeft p _ _ => exact books_ended (hreleased p) (Control.link_released _ p)
  | handedOn p _ => exact .sheds (.of_same rfl rfl rfl)
  | resets id _ => exact .sheds s.control.sheds_reset
  | loses id _ =>
    refine .sheds (.trans ?_ (Control.sheds_released _ id))
    split
    · exact .of_same rfl rfl rfl
    · exact .refl _
  | plugsIn dhid hr hl _ =>
    exact .adds _ _ _ (.keyboard dhid hr hl) ((Control.Sheds.refl _).issue _ _ _) nofun
  | endsAside call _ he _ => exact .sheds (hends he)
  | opens call plan hc he hn ho h =>
    refine books_shares (hjoined he ⟨plan.src, plan.target⟩) h fun dhids hd hne =>
      .startPrepared call plan dhids hc hn ho ?_ hne
    rw [← hd]
    exact congrArg (Registry.shareable · plan.device) he.same.registry.symm
  | opensNot _ _ _ _ he _ _ => exact .sheds ((hends he).trans (.of_same rfl rfl rfl))
  | stopsOrigin call plan hc he hn ho hr =>
    exact .adds _ _ _ (.stopOrigin call plan hc hn ho hr) ((hends he).issue _ _ _) nofun
  | shares _ _ _ _ he _ _ _ => exact .sheds ((hends he).trans (.of_same rfl rfl rfl))
  | handsOn _ _ _ _ _ he _ _ _ => exact .sheds ((hends he).trans (.of_same rfl rfl rfl))
  | stays _ _ _ _ he _ _ _ => exact .sheds ((hends he).trans (.of_same rfl rfl rfl))
  | startFails _ _ _ _ _ he _ _ => exact .sheds ((hends he).trans (.of_same rfl rfl rfl))
  | rollsBack call plan reason hc he hn ho =>
    have ha := (hends he).issue .stop ⟨plan.src, plan.target, plan.dhids⟩
      (.relayRolledBack plan.target)
    exact .adds _ _ _ (.rollBack call plan reason hc hn ho)
      ⟨ha.issued, ha.get, ha.others, ha.superseded⟩ nofun
  | leaves _ _ _ he _ _ =>
    exact books_ended ((hends he).trans (.of_same rfl rfl rfl)) he.same.link
  | stopFails _ _ _ _ he _ _ => exact .sheds ((hends he).trans (.of_same rfl rfl rfl))

theorem books (s : Station) (m : Move) (hw : s.Speaks) : Books s m (s.step m).control := by
  obtain ⟨c, ns, ds, ht, hs⟩ := s.turns m hw
  rw [hs.control]
  exact books_turn ht

end Station

/-! ### What is written down -/

namespace Control

variable {c c' : Control}

theorem mem_fresh {e : Entry} :
    e ∈ c.fresh c' ↔ c'.calls.get e.kind = some e.call ∧ c.calls.get e.kind ≠ some e.call := by
  have hall (k : CallKind) : k ∈ CallKind.all := by cases k <;> decide
  obtain ⟨k, x⟩ := e
  simp only [fresh, List.mem_filterMap, hall, true_and, fresh?, Option.map_eq_some_iff,
    Option.filter_eq_some_iff, Entry.mk.injEq, decide_eq_true_eq]
  constructor
  · rintro ⟨k', x', h, rfl, rfl⟩
    exact h
  · exact fun h => ⟨k, x, h, rfl, rfl⟩

theorem fresh?_eq_none {k : CallKind}
    (h : ∀ x, c'.calls.get k = some x → c.calls.get k = some x) : c.fresh? c' k = none := by
  rw [fresh?, Option.map_eq_none_iff, Option.filter_eq_none_iff]
  intro x hx
  simpa using h x hx

theorem Sheds.fresh (h : c.Sheds c') : c.fresh c' = [] :=
  List.filterMap_eq_nil_iff.mpr fun k _ => fresh?_eq_none (h.pending k)

/-- The calls that are pending have numbers that were given out. -/
def Numbered (c : Control) : Prop := ∀ k x, c.calls.get k = some x → x.request.number ≤ c.issued

theorem Adds.fresh {k : CallKind} {args : CallArgs} {next : Continuation}
    (h : c.Adds c' k args next) (hn : c.Numbered) :
    c.fresh c' = [⟨k, ⟨⟨c.issued + 1⟩, args, next⟩⟩] := by
  have hnew : c.fresh? c' k = some ⟨k, ⟨⟨c.issued + 1⟩, args, next⟩⟩ := by
    have hne : c.calls.get k ≠ some ⟨⟨c.issued + 1⟩, args, next⟩ := fun he =>
      absurd (hn k _ he) (Nat.not_succ_le_self _)
    rw [fresh?, h.get, Option.filter_some, if_pos (by simpa using hne)]
    rfl
  have hold (j : CallKind) (hj : j ≠ k) : c.fresh? c' j = none :=
    fresh?_eq_none fun x => h.others j x hj
  cases k with
  | prepare => simp [Control.fresh, CallKind.all, hnew, hold]
  | unprepare => simp [Control.fresh, CallKind.all, hnew, hold]
  | start => simp [Control.fresh, CallKind.all, hnew, hold]
  | stop => simp [Control.fresh, CallKind.all, hnew, hold]

theorem fresh_ended {c₁ : Control} (h : c.Sheds c₁) (hn : c.Numbered) :
    c.fresh c₁.ended = if c₁.link.isPrepared then
      [⟨.unprepare, ⟨⟨c.issued + 1⟩, ⟨c₁.link.src, c₁.link.sink, []⟩, .unprepared c₁.link⟩⟩]
      else [] := by
  split
  · rename_i hl
    exact (h.adds_ended hl).fresh hn
  · rename_i hl
    exact (h.sheds_ended (by simpa using hl)).fresh

/-- The ledger has a line for every number that was given out, and the calls that are held are in
it. -/
structure Recorded (c : Control) (l : List Entry) : Prop where
  numbers : l.map (fun e => e.call.request.number) = List.range' 1 c.issued
  pending : ∀ k x, c.calls.get k = some x → ⟨k, x⟩ ∈ l
  superseded : ∀ r ∈ c.superseded,
    ∃ e ∈ l, e.kind = r.kind ∧ e.call.request = r.request ∧ e.call.completion = r.completion

namespace Recorded

variable {l : List Entry}

theorem number_le (h : c.Recorded l) {e : Entry} (he : e ∈ l) :
    e.call.request.number ≤ c.issued := by
  have hm := List.mem_map_of_mem (f := fun e : Entry => e.call.request.number) he
  rw [h.numbers, List.mem_range'_1] at hm
  omega

theorem numbered (h : c.Recorded l) : c.Numbered := fun k x hx => h.number_le (h.pending k x hx)

/-- Each number is of one line. -/
theorem eq_of_request (h : c.Recorded l) {e e' : Entry} (he : e ∈ l) (he' : e' ∈ l)
    (hr : e.call.request = e'.call.request) : e = e' := by
  have hline (i : Nat) (hi : i < l.length) : l[i].call.request.number = 1 + i := by
    have hnum : (l.map fun e => e.call.request.number)[i]? = (List.range' 1 c.issued)[i]? := by
      rw [h.numbers]
    have hlen : l.length = c.issued := by
      have := congrArg List.length h.numbers
      rwa [List.length_map, List.length_range'] at this
    rw [List.getElem?_map, List.getElem?_eq_getElem hi, List.getElem?_range' (hlen ▸ hi)] at hnum
    simpa using hnum
  obtain ⟨i, hi, rfl⟩ := List.getElem_of_mem he
  obtain ⟨j, hj, rfl⟩ := List.getElem_of_mem he'
  have hij := congrArg RequestId.number hr
  rw [hline i hi, hline j hj] at hij
  obtain rfl : i = j := Nat.add_left_cancel hij
  rfl

/-- The line of a call that ends. -/
theorem of_ends (h : c.Recorded l) {call : Resolved Continuation} (he : Ends c call c') :
    ∃ e ∈ l, e.kind = call.kind ∧ e.call.request = call.request ∧
      e.call.completion = call.completion := by
  cases he with
  | pending k x o hk ho => exact ⟨⟨k, x⟩, h.pending k x hk, rfl, rfl, rfl⟩
  | superseded r hr => exact h.superseded r hr

theorem sheds (h : c.Recorded l) (hs : c.Sheds c') : c'.Recorded l :=
  ⟨hs.issued ▸ h.numbers, fun k x hx => h.pending k x (hs.pending k x hx),
    fun r hr => h.superseded r (hs.superseded hr)⟩

theorem adds (h : c.Recorded l) {k : CallKind} {args : CallArgs} {next : Continuation}
    (ha : c.Adds c' k args next) : c'.Recorded (l ++ [⟨k, ⟨⟨c.issued + 1⟩, args, next⟩⟩]) := by
  refine ⟨?_, fun j x hx => ?_, fun r hr => ?_⟩
  · rw [List.map_append, h.numbers, ha.issued, List.range'_1_concat, Nat.add_comm 1]
    rfl
  · by_cases hj : j = k
    · subst hj
      rw [ha.get] at hx
      cases hx
      exact List.mem_append_right _ (List.mem_singleton_self _)
    · exact List.mem_append_left _ (h.pending j x (ha.others j x hj hx))
  · rcases ha.superseded r hr with hr | ⟨x, hx, rfl⟩
    · obtain ⟨e, he, hk⟩ := h.superseded r hr
      exact ⟨e, List.mem_append_left _ he, hk⟩
    · exact ⟨⟨k, x⟩, List.mem_append_left _ (h.pending k x hx), rfl, rfl, rfl⟩

end Recorded

end Control

namespace Station

variable {s : Station} {m : Move}

theorem recorded_step {l : List Entry} (hw : s.Speaks) (h : s.control.Recorded l) :
    (s.step m).control.Recorded (l ++ s.issues m) := by
  unfold issues
  cases s.books m hw with
  | sheds hs =>
    rw [hs.fresh, List.append_nil]
    exact h.sheds hs
  | adds k args next _ ha _ =>
    rw [ha.fresh h.numbered]
    exact h.adds ha

/-- **The ledger of a run is complete.** -/
theorem recorded_run (settings : Settings) (registry : Registry) (ms : List Move) :
    ((create settings registry).run ms).control.Recorded
      ((create settings registry).ledger ms) := by
  refine history (P := fun ms s => s.control.Recorded ((create settings registry).ledger ms))
    ⟨rfl, fun k x hx => ?_, fun r hr => ?_⟩ (fun ms m h => ?_) ms
  · have hn : (create settings registry).control.calls.get k = none := PerKind.get_const _ k
    rw [hn] at hx
    cases hx
  · cases hr
  · rw [ledger, gather_concat]
    exact recorded_step (speaks_run settings registry ms) h

/-- A move that gives up the link leaves none. -/
theorem link_of_issues {e : Entry} (hw : s.Speaks) (he : e ∈ s.issues m) (hk : e.kind = .unprepare) :
    (s.step m).link = .none := by
  obtain ⟨hnew, hold⟩ := Control.mem_fresh.mp he
  cases s.books m hw with
  | sheds hs => exact absurd (hs.pending _ _ hnew) hold
  | adds k args next _ ha hl =>
    by_cases hk' : e.kind = k
    · exact hl (hk' ▸ hk)
    · exact absurd (ha.others _ _ hk' hnew) hold

/-- What a move issues, it has an occasion for. -/
theorem occasion_of_issues {e : Entry} (hw : s.Speaks) (he : e ∈ s.issues m) :
    Occasion s m e.kind e.call.args e.call.completion := by
  obtain ⟨hnew, hold⟩ := Control.mem_fresh.mp he
  cases s.books m hw with
  | sheds hs => exact absurd (hs.pending _ _ hnew) hold
  | adds k args next ho ha _ =>
    by_cases hk : e.kind = k
    · rw [hk, ha.get] at hnew
      rw [hk, ← Option.some.inj hnew]
      exact ho
    · exact absurd (ha.others _ _ hk hnew) hold

/-- Every line of the ledger has an occasion. -/
theorem occasion_of_ledger (settings : Settings) (registry : Registry) {ms : List Move} {e : Entry}
    (he : e ∈ (create settings registry).ledger ms) :
    ∃ before m after, ms = before ++ m :: after ∧
      Occasion ((create settings registry).run before) m e.kind e.call.args e.call.completion := by
  obtain ⟨before, m, after, hms, hi⟩ := mem_gather.mp he
  exact ⟨before, m, after, hms, occasion_of_issues (speaks_run settings registry before) hi⟩

end Station

end PointerShare
