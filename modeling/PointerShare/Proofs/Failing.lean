/-
# A transition that fails leaves no trace

When a start or stop that was accepted fails, at whichever of its calls and for
whatever reason, the station holds for its session what it held when it accepted
it: of all that was handled in between, only the outside has moved the cursor,
and a stop has let keys of the relayed keyboard be pressed. After a failed start
the link is gone; after a failed stop it is as it was, unless the pointer was
handed on meanwhile. The guard is idle, so the same request can be made again at
once, and it is accepted again if the station still takes part: a session that
was there to be handed on or stopped is there, and a device that was known is,
unless it was taken from the registry.

Key definitions: `Station.endings`, `Station.heard`, `Station.Publishes`,
`Control.Seated`.
Key theorems: `Station.failed_turn`, `Station.failed_start`,
`Station.failed_stop`, `Station.failed_errand_leaves_no_trace`.
-/
import PointerShare.Proofs.Closing
import PointerShare.Proofs.Disabling
import PointerShare.Proofs.Holding

namespace PointerShare

/-- An inbound station knows whom its session is with. -/
def Control.Seated (c : Control) : Prop := ∀ d, c.role = .inbound d → c.sessionPeer.isSome = true

/-- A device that is known stays known when devices only come. -/
theorem Registry.originOf?_mono {r r' : Registry} (h : r.devices ⊆ r'.devices) {id : DeviceId}
    (ho : (r.originOf? id).isSome = true) : (r'.originOf? id).isSome = true := by
  simp only [originOf?, byId?, Option.isSome_map, List.find?_isSome] at ho ⊢
  obtain ⟨d, hd, hid⟩ := ho
  exact ⟨d, h hd, hid⟩

namespace Station

/-- The call that ends with a move, if one does. -/
def endings (s : Station) : Move → List (Resolved Continuation)
  | .take => s.ending?.toList
  | _ => []

/-- The notices that are handed to observers with a move. -/
def heard (s : Station) (m : Move) : List Notice :=
  ((s.step m).notifier.handovers.drop s.notifier.handovers.length).map Handover.notice

/-- Some move of a run publishes the notice. -/
def Publishes (s : Station) (ms : List Move) (n : Notice) : Prop :=
  ∃ before m after ns ds, ms = before ++ m :: after ∧ (s.run before).Tells m ns ds ∧ n ∈ ns

/-! ### A station has a session peer iff it is in a session -/

section turn

variable {s : Station} {m : Move} {c : Control} {ns : List Notice} {ds : List Dispatch}
  {e : Option Errand}

theorem isFree_turn (ht : Turn s m c ns ds) (hs : s.role.isFree = s.sessionPeer.isNone) :
    c.role.isFree = c.sessionPeer.isNone := by
  have hsame {c : Control} (hr : c.role = s.role) (hp : c.sessionPeer = s.sessionPeer) :
      c.role.isFree = c.sessionPeer.isNone := by
    rw [hr, hp, hs]
  have hreleased (p : NetworkId) :
      (s.control.released p).role.isFree = (s.control.released p).sessionPeer.isNone := by
    unfold Control.released
    split <;> exact hsame rfl rfl
  have hends {call : Resolved Continuation} {c₁ : Control} (he : Ends s.control call c₁)
      (hr : c.role = c₁.role) (hp : c.sessionPeer = c₁.sessionPeer) :
      c.role.isFree = c.sessionPeer.isNone :=
    hsame (hr.trans he.same.role) (hp.trans he.same.sessionPeer)
  have hended (c : Control) : c.ended.role.isFree = c.ended.sessionPeer.isNone := by
    rw [Control.role_ended]
    rfl
  cases ht with
  | sharesAtOnce _ _ _ _ _ _ _ hsh => cases hsh <;> exact hsame rfl rfl
  | startRejected p => exact hreleased p
  | consumes => rfl
  | getsBack => exact hended _
  | stopDropped p => exact hreleased p
  | stopRejected p => exact hreleased p
  | isLeft => exact hended _
  | handedOn p ho =>
    obtain ⟨d, hd⟩ := Role.isOutbound_iff.mp ho
    show s.role.isFree = false
    rw [hd]
    rfl
  | resets => rfl
  | loses id _ =>
    unfold Control.released
    split <;> split <;> exact hsame rfl rfl
  | endsAside _ _ he _ => exact hends he rfl rfl
  | opens _ _ _ he _ _ hsh => cases hsh <;> exact hends he rfl rfl
  | opensNot _ _ _ _ he _ _ => exact hends he rfl rfl
  | stopsOrigin _ _ _ he _ _ _ => exact hends he rfl rfl
  | shares => rfl
  | handsOn => rfl
  | stays _ _ _ _ he _ _ _ => exact hends he rfl rfl
  | startFails _ _ _ _ _ he _ _ => exact hends he rfl rfl
  | rollsBack _ _ _ _ he _ _ => exact hends he rfl rfl
  | leaves => exact hended _
  | stopFails _ _ _ _ he _ _ => exact hends he rfl rfl
  | _ => exact hsame rfl rfl

/-- A station is free iff it has no session peer. -/
theorem isFree_run (settings : Settings) (registry : Registry) (ms : List Move) :
    ((create settings registry).run ms).role.isFree =
      ((create settings registry).run ms).sessionPeer.isNone := by
  refine history (P := fun _ s => s.role.isFree = s.sessionPeer.isNone) rfl (fun ms m ih => ?_) ms
  obtain ⟨c, ns, ds, ht, hs⟩ :=
    Station.turns ((create settings registry).run ms) m (speaks_run settings registry ms)
  have hnext := isFree_turn ht ih
  rw [← hs.control] at hnext
  exact hnext

theorem seated_run (settings : Settings) (registry : Registry) (ms : List Move) :
    ((create settings registry).run ms).control.Seated := by
  intro d hd
  have hpeer := isFree_run settings registry ms
  rw [show ((create settings registry).run ms).role = .inbound d from hd] at hpeer
  exact Option.isNone_eq_false_iff.mp hpeer.symm

/-! ### How a failure shows -/

theorem failed_shares {c₁ : Control} {plan : StartPlan} (hs : Shares c₁ plan c ns ds)
    {target : NetworkId} {dhid : Dhid} {place : Location}
    (hd : .startResult target false dhid place ∈ ds) :
    c = c₁.failed ∧ .failed .infoFail target .noShareableDevice ∈ ns := by
  cases hs with
  | calls => cases hd
  | lacks =>
    cases List.mem_singleton.mp hd
    exact ⟨rfl, List.mem_singleton_self _⟩

/-- The move that tells the target of a start that it failed makes the guard idle and gives up the
link, and the role stays. -/
theorem failed_turn (ht : Turn s m c ns ds) {target : NetworkId} {dhid : Dhid} {place : Location}
    (hd : .startResult target false dhid place ∈ ds) :
    c.guard = .idle ∧ c.role = s.role ∧ c.link = .none ∧
      ∃ reason, .failed .infoFail target reason ∈ ns := by
  cases ht with
  | sharesAtOnce _ _ _ _ _ _ _ hsh =>
    obtain ⟨rfl, hn⟩ := failed_shares hsh ((List.mem_cons.mp hd).resolve_left nofun)
    exact ⟨rfl, rfl, rfl, _, List.mem_cons_of_mem _ hn⟩
  | opens _ _ _ he _ _ hsh =>
    obtain ⟨rfl, hn⟩ := failed_shares hsh hd
    exact ⟨rfl, he.same.role, rfl, _, List.mem_cons_of_mem _ hn⟩
  | opensNot _ _ _ _ he _ _ =>
    cases List.mem_singleton.mp hd
    exact ⟨rfl, he.same.role, rfl, _, List.mem_cons_of_mem _ (List.mem_singleton_self _)⟩
  | startFails _ _ _ _ _ he _ _ =>
    cases List.mem_singleton.mp hd
    exact ⟨rfl, he.same.role, rfl, _, List.mem_singleton_self _⟩
  | rollsBack _ _ _ _ he _ _ =>
    cases List.mem_singleton.mp hd
    exact ⟨rfl, he.same.role, rfl, _, List.mem_singleton_self _⟩
  | handsOn =>
    obtain ⟨_, h⟩ := Control.eq_of_mem_handOn ((List.mem_cons.mp hd).resolve_left nofun)
    cases h
  | _ => simp at hd

/-- What is heard is published. -/
theorem mem_of_heard (hs : Shows s (s.step m) c ns ds) {n : Notice} (hn : n ∈ s.heard m) : n ∈ ns := by
  rw [heard, hs.published, List.drop_left] at hn
  obtain ⟨x, hx, rfl⟩ := List.mem_map.mp hn
  obtain ⟨n, hmem, hx⟩ := List.mem_flatMap.mp hx
  obtain ⟨_, -, rfl⟩ := List.mem_map.mp hx
  exact hmem

/-- While an errand is open or begins, a failure that is published is its own. -/
theorem Engaged.closing_of_failed {e : Errand} (h : Engaged e s m) (ht : Turn s m c ns ds)
    {message : Message} {peer : NetworkId} {reason : Reason}
    (hm : message = .infoFail ∨ message = .closeFail) (hn : .failed message peer reason ∈ ns) :
    ∃ ns', Closing s e m ns' ds ∧ .failed message peer reason ∈ milestones ns' := by
  have hmem {ns : List Notice} (hn : .failed message peer reason ∈ ns) :
      .failed message peer reason ∈ milestones ns := by
    refine List.mem_filter.mpr ⟨hn, ?_⟩
    rcases hm with rfl | rfl <;> rfl
  have hopening : .failed message peer reason ≠ e.opening := by
    intro he
    cases e <;> cases he
  obtain ⟨-, e₀, hphase, he⟩ := h
  have ha := account ht hphase
  generalize s.begins m = b at ha he
  cases ha with
  | aside => cases he
  | opened e' _ _ hmile _ _ =>
    cases he
    have hmile' := hmem hn
    rw [hmile] at hmile'
    exact absurd (List.mem_singleton.mp hmile') hopening
  | closedAtOnce e' ns' _ hc _ =>
    cases he
    exact ⟨ns', hc, hmem ((List.mem_cons.mp hn).resolve_left hopening)⟩
  | goesOn e' _ _ hmile _ _ =>
    have hmile' := hmem hn
    rw [hmile] at hmile'
    cases hmile'
  | closed e' _ _ hc _ =>
    cases he
    exact ⟨ns, hc, hmem hn⟩

/-- The target of a start is told that it failed if observers are. -/
theorem startResult_of_infoFail {role : Role} {place : Location} {target peer : NetworkId}
    {device : DeviceId} {reason : Reason} (h : Engaged (.start role place target device) s m)
    (ht : Turn s m c ns ds) (hn : .failed .infoFail peer reason ∈ ns) :
    ∃ dhid, .startResult target false dhid place ∈ ds := by
  obtain ⟨ns', hc, hmile⟩ := h.closing_of_failed ht (.inl rfl) hn
  cases hc with
  | started _ _ _ _ _ _ _ _ hns _ =>
    rw [hns] at hmile
    cases List.mem_singleton.mp hmile
  | startFailed _ _ _ _ dhid _ _ _ _ _ hds =>
    have hmem : .startResult target false dhid place ∈ startResults ds := by
      rw [hds]
      exact List.mem_singleton_self _
    exact ⟨dhid, (List.mem_filter.mp hmem).1⟩
  | reset => cases hmile

/-- While an errand is open or begins, the failure of a stop is published when its call ends. -/
theorem Engaged.ending_of_closeFail {e : Errand} (h : Engaged e s m) (ht : Turn s m c ns ds)
    {peer : NetworkId} {reason : Reason} (hn : .failed .closeFail peer reason ∈ ns) :
    ∃ call ∈ s.endings m, call.completion = .stopped peer ∧ call.outcome.reason? = some reason := by
  have hmile : .failed .closeFail peer reason ∈ milestones ns := List.mem_filter.mpr ⟨hn, rfl⟩
  cases ht with
  | stopFails call peer' _ hc _ hcall ho =>
    cases List.mem_singleton.mp hn
    exact ⟨call, Option.mem_toList.mpr hc, hcall, ho⟩
  | stopRejected p hg _ =>
    -- a peer is not heard while an errand is open, and its signal begins none
    rcases h.begins_or_open with hb | ⟨-, hopen⟩
    · cases hb
    · cases (hopen.released hg).1
  | rest m _ _ _ _ =>
    rw [milestones_overture] at hmile
    cases hmile
  | stops m r _ =>
    rw [milestones_append, milestones_overture] at hmile
    cases List.mem_singleton.mp hmile
  | getsBack | isLeft | leaves =>
    rw [milestones_append, milestones_closing] at hmile
    cases List.mem_singleton.mp hmile
  | sharesAtOnce _ _ _ _ _ _ _ hs => cases hs <;> simp [Notice.of, Notice.failed] at hn
  | opens _ _ _ _ _ _ hs => cases hs <;> simp [Notice.of, Notice.failed] at hn
  | _ => simp [Notice.of, Notice.failed] at hn

end turn

/-! ### What a start needs to be accepted -/

section accepted

variable {s : Station} {target : NetworkId} {device : DeviceId}

theorem start_accepted_iff_planned :
    (s.start target device).1 = .ok () ↔ ∃ route, s.planStart target device = .ok route := by
  unfold start
  cases s.planStart target device <;> simp

theorem planShare_isOk :
    (∃ route, s.planShare target device = .ok route) ↔
      s.checkTarget target = .ok () ∧ (s.registry.originOf? device).isSome = true := by
  unfold planShare
  cases s.checkTarget target with
  | error e => exact iff_of_false (fun ⟨_, h⟩ => by cases h) (fun h => by cases h.1)
  | ok _ =>
    cases s.registry.originOf? device with
    | none => exact iff_of_false (fun ⟨_, h⟩ => by cases h) (fun h => by cases h.2)
    | some src => exact iff_of_true ⟨_, rfl⟩ ⟨rfl, rfl⟩

theorem planHandOn_isOk {shared : Dhid} (ho : (s.originOf? shared).isSome = true) :
    (∃ route, s.planHandOn target device shared = .ok route) ↔ s.checkTarget target = .ok () := by
  obtain ⟨origin, ho⟩ := Option.isSome_iff_exists.mp ho
  unfold planHandOn
  cases s.checkTarget target with
  | error e => exact iff_of_false (fun ⟨_, h⟩ => by cases h) (fun h => by cases h)
  | ok _ =>
    refine iff_of_true ?_ rfl
    simp only [ho]
    by_cases ht : target = origin
    · exact ⟨_, if_pos ht⟩
    · exact ⟨_, if_neg ht⟩

/-- What a start needs to be accepted. -/
theorem start_accepted_iff (hs : s.control.Seated) :
    (s.start target device).1 = .ok () ↔ s.guard = .idle ∧ s.crossing.isOn s.home = true ∧
      s.checkTarget target = .ok () ∧ s.role.isOutbound = false ∧
        (s.role = .free → (s.registry.originOf? device).isSome = true) := by
  rw [start_accepted_iff_planned]
  unfold planStart
  by_cases hb : s.guard.isBusy = true
  · rw [if_pos hb]
    refine iff_of_false (by rintro ⟨_, h⟩; cases h) fun h => ?_
    rw [h.1] at hb
    cases hb
  have hg : s.guard = .idle := Guard.isBusy_eq_false_iff.mp (by simpa using hb)
  rw [if_neg hb]
  cases hon : s.crossing.isOn s.home with
  | false => exact iff_of_false (by rintro ⟨_, h⟩; cases h) fun h => by cases h.2.1
  | true =>
    cases hr : s.role with
    | free =>
      have h : (∃ route, s.planShare target device = .ok route) ↔ _ := planShare_isOk
      simpa [hg, Role.isOutbound] using h
    | inbound d =>
      have h : (∃ route, s.planHandOn target device d = .ok route) ↔ _ :=
        planHandOn_isOk (originOf?_isSome (hs d hr) d)
      simpa [hg, Role.isOutbound] using h
    | outbound d =>
      refine iff_of_false (by rintro ⟨_, h⟩; cases h) fun h => ?_
      cases h.2.2.2.1

end accepted

/-! ### A start that fails -/

section start

variable {s : Station} {e₀ : Option Errand} {target : NetworkId} {device : DeviceId}
  {rest : List Move}

theorem isOutbound_of_start (h : (s.start target device).1 = .ok ()) : s.role.isOutbound = false := by
  cases hp : s.planStart target device with
  | error e =>
    simp [start, hp] at h
  | ok route =>
    rcases planStart_cases hp with ⟨hr, -⟩ | ⟨_, _, hr, -⟩ <;> rw [hr] <;> rfl

/-- A start that fails leaves what was held when it was accepted, and no link. -/
theorem failed_start (hw : s.Speaks) (h : Phase s.control e₀)
    (hok : (s.start target device).1 = .ok ())
    (hbusy : Along step (fun s _ => s.guard.isBusy = true)
      (s.step (.event (.request (.start target device)))) rest) {dhid : Dhid} {place : Location}
    (hfail : .startResult target false dhid place ∈
      s.gather queued (.event (.request (.start target device)) :: rest)) :
    let ms := .event (.request (.start target device)) :: rest
    (s.run ms).guard = .idle ∧ (s.run ms).link = .none ∧
      (s.run ms).holding = ms.foldl Holding.after s.holding ∧
        ∃ reason, s.Publishes ms (.failed .infoFail target reason) := by
  intro ms
  obtain ⟨mid, last, tail, hms, hd⟩ := mem_gather.mp hfail
  have hout : s.role.isOutbound = false := isOutbound_of_start hok
  obtain ⟨c, ns, ds, ht, hs⟩ := Station.turns (s.run mid) last
    (run_invariant (fun _ m hw => speaks_step m hw) mid hw)
  rw [queued, hs.queued] at hd
  obtain ⟨hguard, hrole, hlink, reason, hn⟩ := failed_turn ht hd
  rw [← hs.control] at hguard hrole hlink
  obtain ⟨hend, -, hheld⟩ := holding_closed (.of_begins hw h (begins_of_start hok)) hbusy hms hguard
    hrole (fun ho => by rw [hout] at ho; cases ho)
  refine ⟨?_, ?_, hheld hout, reason, mid, last, tail, ns, ds, hms, ⟨hs.published, hs.queued⟩, hn⟩
  · rw [hend]
    exact hguard
  · rw [hend]
    exact hlink

/-- Observers hear that a start failed when its target is told. -/
theorem startResult_of_heard (hw : s.Speaks) (h : Phase s.control e₀)
    (hok : (s.start target device).1 = .ok ())
    (hbusy : Along step (fun s _ => s.guard.isBusy = true)
      (s.step (.event (.request (.start target device)))) rest) {peer : NetworkId} {reason : Reason}
    (hfail : .failed .infoFail peer reason ∈
      s.gather heard (.event (.request (.start target device)) :: rest)) :
    ∃ dhid place, .startResult target false dhid place ∈
      s.gather queued (.event (.request (.start target device)) :: rest) := by
  obtain ⟨mid, last, tail, hms, hheard⟩ := mem_gather.mp hfail
  have hengaged := engaged_at (.of_begins hw h (begins_of_start hok)) hbusy hms
  obtain ⟨c, ns, ds, ht, hs⟩ := Station.turns (s.run mid) last hengaged.speaks
  obtain ⟨dhid, hd⟩ := startResult_of_infoFail hengaged ht (mem_of_heard hs hheard)
  refine ⟨dhid, s.cursor.location, mem_gather.mpr ⟨mid, last, tail, hms, ?_⟩⟩
  rw [queued, hs.queued]
  exact hd

end start

/-! ### A stop that fails -/

section stop

variable {s : Station} {m : Move} {role : Role} {peer : NetworkId} {rest : List Move}

/-- The errand of a stop is over when its call has ended. -/
theorem guard_of_stopped (h : Phase s.control (some (.stop role peer)))
    {call : Resolved Continuation} (hc : s.ending? = some call)
    (ht : call.completion.isTransition = true) : (s.step .take).guard = .idle := by
  obtain ⟨t, hends, -⟩ := take_of_ending hc
  obtain ⟨e, he, hw, -, -⟩ := h.ends_step hends ht
  cases he
  have hn : call.completion = .stopped peer := hw.of_stop.1
  cases ho : call.outcome.reason? with
  | none =>
    obtain ⟨c, -, hdoes⟩ := does_leaves hc hn ho
    exact (congrArg Control.guard hdoes.control).trans (Control.guard_ended _)
  | some reason =>
    obtain ⟨c, -, hdoes⟩ := does_stopFails hc hn ho
    exact congrArg Control.guard hdoes.control

theorem stopRoute?_of_begins (h : s.begins m = some (.stop role peer)) :
    ∃ r, s.stopRoute? m = some r := by
  unfold begins at h
  split at h
  · obtain ⟨_, -, he⟩ := Option.map_eq_some_iff.mp h
    cases he
  · obtain ⟨r, hr, -⟩ := Option.map_eq_some_iff.mp h
    exact ⟨r, hr⟩

theorem isFree_of_stop {c : Control} (h : Phase c (some (.stop role peer))) :
    c.role.isFree = false := by
  cases h with
  | underway _ _ _ _ _ hr _ _ hw _ =>
    rw [hr]
    exact hw.of_stop.2

/-- While a stop is under way the link stays, if the pointer is not handed on. -/
theorem link_of_stop (h : Engaged (.stop role peer) s m) (hb : (s.step m).guard.isBusy = true)
    (hrelay : ∀ p, m ≠ .event (.signal (.relayAnnounce p))) : (s.step m).link = s.link := by
  have hbusy (hidle : (s.step m).guard = .idle) : (s.step m).link = s.link := by
    rw [hidle] at hb
    cases hb
  rcases h.begins_or_open with hbegins | ⟨-, hopen⟩
  · obtain ⟨r, hr⟩ := stopRoute?_of_begins hbegins
    exact congrArg Control.link (close_of_stopRoute? h.speaks hr)
  · obtain ⟨c, ns, ds, ht, hs⟩ := s.turns m h.speaks
    rcases aside_or ht hopen with ha | ⟨-, rfl⟩ | ⟨-, -, p, hp⟩ | ⟨rfl, call, hc, hn⟩
    · exact (congrArg Control.link hs.control).trans (ha.link (isFree_of_stop hopen))
    · exact hbusy (congrArg Control.guard hs.control)
    · exact absurd hp (hrelay p)
    · exact hbusy (guard_of_stopped hopen hc hn)

theorem link_run {ms : List Move}
    (hms : Along step (fun s m => Engaged (.stop role peer) s m ∧ (s.step m).guard.isBusy = true) s ms)
    (hrelay : ∀ p, .event (.signal (.relayAnnounce p)) ∉ ms) : (s.run ms).link = s.link := by
  induction ms generalizing s with
  | nil => rfl
  | cons m ms ih =>
    obtain ⟨⟨hengaged, hb⟩, hrest⟩ := hms
    have hm (p : NetworkId) : m ≠ .event (.signal (.relayAnnounce p)) :=
      fun he => hrelay p (he ▸ List.mem_cons_self)
    rw [run_cons, ih hrest fun p hp => hrelay p (List.mem_cons_of_mem _ hp)]
    exact link_of_stop hengaged hb hm

/-- A stop that fails leaves what was held when it was accepted, but for the keys, and the link, if
the pointer is not handed on meanwhile. -/
theorem failed_stop {e₀ : Option Errand} (hw : s.Speaks) (h : Phase s.control e₀) {r : StopRoute}
    (hr : s.stopRoute? m = some r)
    (hbusy : Along step (fun s _ => s.guard.isBusy = true) (s.step m) rest)
    {call : Resolved Continuation} {reason : Reason} (hcall : call ∈ s.gather endings (m :: rest))
    (hn : call.completion = .stopped r.peer) (ho : call.outcome.reason? = some reason)
    (hrelay : ∀ p, .event (.signal (.relayAnnounce p)) ∉ rest) :
    (s.run (m :: rest)).guard = .idle ∧ (s.run (m :: rest)).link = s.link ∧
      (s.run (m :: rest)).holding.keyless = (m :: rest).foldl Holding.after s.holding.keyless ∧
        s.Publishes (m :: rest) (.failed .closeFail r.peer reason) := by
  obtain ⟨mid, last, tail, hms, hending⟩ := mem_gather.mp hcall
  have hrelay' (p : NetworkId) : .event (.signal (.relayAnnounce p)) ∉ m :: rest := by
    refine fun hp => (List.mem_cons.mp hp).elim (fun he => ?_) (hrelay p)
    rw [← he] at hr
    cases hr
  cases last with
  | take =>
    obtain ⟨c, he, hdoes⟩ := does_stopFails (Option.mem_toList.mp hending) hn ho
    have hshows := hdoes.shows (run_invariant (fun _ m hw => speaks_step m hw) mid hw)
    have hengaged := Engaged.of_begins hw h (begins_of_stopRoute? hr)
    have hidle : ((s.run mid).step .take).guard = .idle := congrArg Control.guard hdoes.control
    have hrole : ((s.run mid).step .take).role = (s.run mid).role :=
      (congrArg Control.role hdoes.control).trans he.same.role
    have hlink : ((s.run mid).step .take).link = (s.run mid).link :=
      (congrArg Control.link hdoes.control).trans he.same.link
    obtain ⟨-, -, hmid⟩ := along_until hengaged hbusy hms hidle
    obtain ⟨hend, hheld, -⟩ := holding_closed hengaged hbusy hms hidle hrole fun _ => hrelay'
    refine ⟨hend ▸ hidle, ?_, hheld, mid, .take, tail, _, _, hms,
      ⟨hshows.published, hshows.queued⟩, List.mem_singleton_self _⟩
    rw [hend, hlink]
    refine link_run hmid fun p hp => hrelay' p ?_
    rw [hms]
    exact List.mem_append_left _ hp
  | _ => cases hending

/-- Observers hear that a stop failed when its call ends. -/
theorem ending_of_heard {e₀ : Option Errand} (hw : s.Speaks) (h : Phase s.control e₀) {r : StopRoute}
    (hr : s.stopRoute? m = some r)
    (hbusy : Along step (fun s _ => s.guard.isBusy = true) (s.step m) rest) {peer : NetworkId}
    {reason : Reason} (hfail : .failed .closeFail peer reason ∈ s.gather heard (m :: rest)) :
    ∃ call ∈ s.gather endings (m :: rest),
      call.completion = .stopped peer ∧ call.outcome.reason? = some reason := by
  obtain ⟨mid, last, tail, hms, hheard⟩ := mem_gather.mp hfail
  have hengaged := engaged_at (.of_begins hw h (begins_of_stopRoute? hr)) hbusy hms
  obtain ⟨c, ns, ds, ht, hs⟩ := Station.turns (s.run mid) last hengaged.speaks
  obtain ⟨call, hcall, hn, ho⟩ := hengaged.ending_of_closeFail ht (mem_of_heard hs hheard)
  exact ⟨call, mem_gather.mpr ⟨mid, last, tail, hms, hcall⟩, hn, ho⟩

end stop

/-! ### Every failure -/

theorem home_run {s : Station} (hw : s.Speaks) (ms : List Move) : (s.run ms).home = s.home :=
  (run_invariant (P := fun t => t.Speaks ∧ t.home = s.home)
    (fun _ m h => ⟨speaks_step m h.1, (home_step h.1 m).trans h.2⟩) ms ⟨hw, rfl⟩).2

/-- A stop is accepted again when its session is still there. -/
theorem stop_again {s s' : Station} {r : StopRoute} (hp : s.planStop = .ok r)
    (hg : s'.guard = .idle) (hr : s'.role = s.role) (hl : s'.link = s.link)
    (hs : s'.control.Seated) : s'.stop.1 = .ok () := by
  suffices h : ∃ r, s'.planStop = .ok r by
    obtain ⟨r', hp'⟩ := h
    exact (stop_of_planStop hp').1
  cases hrole : s.role with
  | free =>
    have hbusy := role_of_planStop hp
    rw [hrole] at hbusy
    cases hbusy
  | inbound d => exact planStop_of_inbound hg (hr.trans hrole) (hs d (hr.trans hrole))
  | outbound d =>
    rw [planStop_of_outbound (guard_of_planStop hp) hrole] at hp
    rw [planStop_of_outbound hg (hr.trans hrole)]
    unfold planStopOutbound at hp ⊢
    rw [hl]
    split at hp
    · rename_i hprepared
      exact ⟨_, if_pos hprepared⟩
    · cases hp

/-- **A transition that fails leaves no trace.** From the move `m` that accepts it the guard is busy
until the last of `rest` closes it.

A start has failed if observers hear so, or its target is told. Then everything that is held for the
session, the role and the cursor among it, is what it was before `m`, but for what the outside did to
it, and there is no link; the failure is published. The same start is accepted again just if the
station's own switch is on and, of a free station, the device is known; so it is if devices only came.

A stop has failed if observers hear so, or its call ends in a failure. Then, unless a relay
announcement was handled meanwhile, what is held is what it was, but for the relayed keys, and so is
the link; the failure is published, and the same stop is accepted again. -/
theorem failed_errand_leaves_no_trace (settings : Settings) (registry : Registry)
    (before : List Move) (m : Move) (rest : List Move)
    (hbusy : Along step (fun s _ => s.guard.isBusy = true)
      (((create settings registry).run before).step m) rest) :
    let s := (create settings registry).run before
    let ms := m :: rest
    let s' := s.run ms
    (∀ target device, m = .event (.request (.start target device)) →
      (s.start target device).1 = .ok () →
      ((∃ reason, .failed .infoFail target reason ∈ s.gather heard ms) ∨
        ∃ dhid place, .startResult target false dhid place ∈ s.gather queued ms) →
        s'.guard = .idle ∧ s'.link = .none ∧ s'.holding = ms.foldl Holding.after s.holding ∧
        (∃ reason, s.Publishes ms (.failed .infoFail target reason)) ∧
        ((s'.start target device).1 = .ok () ↔ s'.crossing.isOn s'.home = true ∧
          (s.role = .free → (s'.registry.originOf? device).isSome = true)) ∧
        (s.registry.devices ⊆ s'.registry.devices → s'.crossing.isOn s'.home = true →
          (s'.start target device).1 = .ok ())) ∧
    (∀ r reason, s.stopRoute? m = some r →
      (.failed .closeFail r.peer reason ∈ s.gather heard ms ∨ ∃ call ∈ s.gather endings ms,
        call.completion = .stopped r.peer ∧ call.outcome.reason? = some reason) →
      (∀ p, .event (.signal (.relayAnnounce p)) ∉ rest) →
        s'.guard = .idle ∧ s'.link = s.link ∧
        s'.holding.keyless = ms.foldl Holding.after s.holding.keyless ∧
        s.Publishes ms (.failed .closeFail r.peer reason) ∧ s'.stop.1 = .ok ()) := by
  intro s ms s'
  have hw : s.Speaks := speaks_run settings registry before
  have h : Phase s.control _ := phase_run settings registry before
  have hs : s.control.Seated := seated_run settings registry before
  have hs' : s'.control.Seated := by
    have hseated := seated_run settings registry (before ++ ms)
    rwa [run_append] at hseated
  refine ⟨fun target device hm hok hfail => ?_, fun r reason hr hfail hrelay => ?_⟩
  · subst hm
    obtain ⟨dhid, place, hfail⟩ :
        ∃ dhid place, .startResult target false dhid place ∈ s.gather queued ms := by
      rcases hfail with ⟨_, hheard⟩ | htold
      · exact startResult_of_heard hw h hok hbusy hheard
      · exact htold
    obtain ⟨hg, hl, hheld, hpublish⟩ := failed_start hw h hok hbusy hfail
    have hrole : s'.role = s.role := by
      obtain ⟨_, _, hsame⟩ := Holding.foldl_after ms s.holding
      exact congrArg Holding.role (hheld.trans hsame)
    have hagain : (s'.start target device).1 = .ok () ↔ s'.crossing.isOn s'.home = true ∧
        (s.role = .free → (s'.registry.originOf? device).isSome = true) := by
      obtain ⟨-, -, hcheck, hout, -⟩ := (start_accepted_iff hs).mp hok
      have hcheck' : s'.checkTarget target = .ok () := by
        unfold checkTarget at hcheck ⊢
        rw [show s'.home = s.home from home_run hw ms]
        exact hcheck
      have hg' : s'.guard = .idle := hg
      rw [start_accepted_iff hs', hrole]
      simp [hg', hcheck', hout]
    refine ⟨hg, hl, hheld, hpublish, hagain, fun hdevices hon => hagain.mpr ⟨hon, fun hfree => ?_⟩⟩
    exact Registry.originOf?_mono hdevices (((start_accepted_iff hs).mp hok).2.2.2.2 hfree)
  · obtain ⟨call, hcall, hn, ho⟩ := hfail.elim (ending_of_heard hw h hr hbusy) id
    obtain ⟨hg, hl, hheld, hpublish⟩ := failed_stop hw h hr hbusy hcall hn ho hrelay
    have hrole : s'.role = s.role := by
      obtain ⟨_, _, hsame⟩ := Holding.foldl_after ms s.holding.keyless
      exact congrArg Holding.role (hheld.trans hsame)
    exact ⟨hg, hl, hheld, hpublish, stop_again (planStop_of_stopRoute? hr) hg hrole hl hs'⟩

/-- A start whose link is not prepared, while a stop is asked for, a stranger is heard and the cursor
is moved; and a session whose stop fails, while a keyboard is plugged in. -/
theorem failed_start_and_failed_stop :
    let a := create ⟨8, 1000, 2, 1000, .center⟩ lonePointer
    let observed : Move := .happen (.observe "main" .channel)
    let start : Move := .event (.request (.start ⟨"b"⟩ ⟨1⟩))
    let moved : Cursor := { Cursor.fresh with location := ⟨10, 20⟩ }
    let failed := (a.run [observed, .happen (.mood .prepare .fail)]).run [start, .event (.request .stop),
      .event (.signal (.stopRequest ⟨"c"⟩)), .happen (.cursor moved), .take]
    let unstopped := (a.run [observed, start, .take, .take, .take, .happen (.mood .stop .fail)]).run
      [.event (.request .stop), .event (.keyboardOnline ⟨"k"⟩), .take]
    failed.cursor = moved ∧ failed.role = .free ∧ (failed.start ⟨"b"⟩ ⟨1⟩).1 = .ok () ∧
      unstopped.role = .outbound ⟨"m"⟩ ∧ unstopped.link = ⟨⟨"a"⟩, ⟨"b"⟩⟩ ∧
        unstopped.stop.1 = .ok () := by
  intro a observed start moved failed unstopped
  obtain ⟨-, -, hheld, -, -, hagain⟩ :=
    (failed_errand_leaves_no_trace ⟨8, 1000, 2, 1000, .center⟩ lonePointer
      [observed, .happen (.mood .prepare .fail)] start
      [.event (.request .stop), .event (.signal (.stopRequest ⟨"c"⟩)), .happen (.cursor moved), .take]
      (by decide +kernel)).1 ⟨"b"⟩ ⟨1⟩ rfl rfl (.inl ⟨.prepareFailed, by decide +kernel⟩)
  obtain ⟨-, hlink, hkept, -, hstopagain⟩ :=
    (failed_errand_leaves_no_trace ⟨8, 1000, 2, 1000, .center⟩ lonePointer
      [observed, start, .take, .take, .take, .happen (.mood .stop .fail)] (.event (.request .stop))
      [.event (.keyboardOnline ⟨"k"⟩), .take] (by decide +kernel)).2
      ⟨⟨"b"⟩, ⟨"a"⟩, ⟨"b"⟩, [⟨"m"⟩]⟩ .remoteRejected (by decide +kernel)
      (.inl (by decide +kernel)) (by simp)
  have hrole : unstopped.role = .outbound ⟨"m"⟩ := by
    refine (congrArg Holding.role hkept).trans ?_
    decide +kernel
  refine ⟨congrArg Holding.cursor hheld, congrArg Holding.role hheld, hagain ?_ ?_, hrole, ?_,
    hstopagain⟩
  · exact List.Subset.refl _
  · decide +kernel
  · rw [hlink]
    decide +kernel

end Station

end PointerShare
