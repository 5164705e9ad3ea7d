/-
# What stays while an errand is under way

The step of an errand that is pending was pending before the move, or the move
issued it and had an occasion to. And a move after which an errand is still open
left what its calls were made for: the role, the registry unless it was the
devices that changed, and the session peer of a station that is not outbound. So
what a step of an errand was issued with can be followed from call to call
without looking at all that a move can do. Of the moves that come in between all
but a few have nothing to do with the errand (`Station.Aside`).

Key definitions: `Station.Aside`.
Key theorems: `Phase.of_step`, `Station.held_or_issued`, `Station.role_of_open`,
`Station.sessionPeer_of_open`, `Station.registry_of_keeps`,
`Station.ending_of_freed`, `Station.aside_or`, `Station.freed_or_failed`.
-/
import PointerShare.Proofs.Ledger
import PointerShare.Proofs.RoleChange

namespace PointerShare

/-- A step of a transition that is pending is the errand's. -/
theorem Phase.of_step {c : Control} {e : Option Errand} (h : Phase c e) {k : CallKind}
    {x : Call Continuation} (hx : c.calls.get k = some x) (ht : x.completion.isTransition = true) :
    ∃ e', e = some e' ∧ e'.Waits k x.completion ∧ c.role = e'.role := by
  have hquiet {ks : List CallKind} (hq : c.Quiet ks) (hk : k ∉ ks) : False := by
    have hf := hq.1 k x hk hx
    rw [ht] at hf
    cases hf
  cases h with
  | idle _ _ hq => exact (hquiet hq List.not_mem_nil).elim
  | announced _ _ _ hq => exact (hquiet hq List.not_mem_nil).elim
  | underway e' j call _ _ hr _ hj hw hq =>
    by_cases hk : k = j
    · subst hk
      obtain rfl : call = x := Option.some.inj (hj.symm.trans hx)
      exact ⟨e', rfl, hw, hr⟩
    · exact (hquiet hq (by simpa using hk)).elim

/-- One step of a transition at most is pending. -/
theorem Phase.kind_of_steps {c : Control} {e : Option Errand} (h : Phase c e) {k j : CallKind}
    {x y : Call Continuation} (hx : c.calls.get k = some x) (hy : c.calls.get j = some y)
    (htx : x.completion.isTransition = true) (hty : y.completion.isTransition = true) : k = j := by
  obtain ⟨e, rfl, -, -⟩ := h.of_step hx htx
  cases h with
  | underway _ i call _ _ _ _ hi _ hq =>
    have hkind {k : CallKind} {x : Call Continuation} (hx : c.calls.get k = some x)
        (ht : x.completion.isTransition = true) : k = i := by
      refine Decidable.byContradiction fun hne => ?_
      have hf := hq.1 k x (by simpa using hne) hx
      rw [ht] at hf
      cases hf
    exact (hkind hx htx).trans (hkind hy hty).symm

theorem Phase.role {c : Control} {e : Errand} (h : Phase c (some e)) : c.role = e.role := by
  cases h with
  | underway _ _ _ _ _ hr _ _ _ _ => exact hr

theorem Phase.guard {c : Control} {e : Errand} (h : Phase c (some e)) : c.guard = e.guard := by
  cases h with
  | underway _ _ _ hg _ _ _ _ _ _ => exact hg

theorem Phase.announcer {c : Control} {e : Errand} (h : Phase c (some e)) : c.announcer = none := by
  cases h with
  | underway _ _ _ _ ha _ _ _ _ _ => exact ha

theorem Phase.placed {c : Control} {e : Errand} (h : Phase c (some e)) : e.Placed c.startLocation := by
  cases h with
  | underway _ _ _ _ _ _ hl _ _ _ => exact hl

namespace Station

variable {s : Station} {m : Move} {c : Control} {ns : List Notice} {ds : List Dispatch}
  {e : Option Errand}

/-- A call that is pending was pending, or the move had an occasion to issue it. -/
theorem held_or_issued (hw : s.Speaks) {k : CallKind} {x : Call Continuation}
    (hx : (s.step m).control.calls.get k = some x) :
    s.control.calls.get k = some x ∨ Occasion s m k x.args x.completion := by
  by_cases hold : s.control.calls.get k = some x
  · exact .inl hold
  · exact .inr (occasion_of_issues (e := ⟨k, x⟩) hw (Control.mem_fresh.mpr ⟨hx, hold⟩))

/-- An errand is begun in the role of the moment. -/
theorem role_of_begins {e' : Errand} (h : s.begins m = some e') : e'.role = s.role := by
  unfold begins at h
  split at h
  · obtain ⟨_, -, rfl⟩ := Option.map_eq_some_iff.mp h
    rfl
  · obtain ⟨_, -, rfl⟩ := Option.map_eq_some_iff.mp h
    rfl

/-- An errand that is begun by a move which starts nothing is a stop. -/
theorem stop_of_begins (hstart : s.startRoute? m = none) {e' : Errand} (h : s.begins m = some e') :
    ∃ role peer, e' = .stop role peer := by
  unfold begins at h
  split at h
  · obtain ⟨route, hroute, -⟩ := Option.map_eq_some_iff.mp h
    have hstart' : s.startRoute? (.event (.request (.start _ _))) = some route := hroute
    rw [hstart] at hstart'
    cases hstart'
  · obtain ⟨r, -, rfl⟩ := Option.map_eq_some_iff.mp h
    exact ⟨_, _, rfl⟩

/-- The errand that is open after a move was begun by it, or was open before. -/
theorem begins_or_open {e' : Errand} (h : errandAfter e s m = some e') :
    s.begins m = some e' ∨ s.begins m = none ∧ e = some e' := by
  unfold errandAfter at h
  split at h
  · cases hb : s.begins m with
    | some b =>
      rw [hb] at h
      exact .inl h
    | none =>
      rw [hb] at h
      exact .inr ⟨rfl, h⟩
  · cases h

/-- The guard is idle after the move that closes an errand. -/
theorem idle_of_closed {e : Errand} (h : errandAfter (some e) s m = none) :
    (s.step m).guard = .idle := by
  unfold errandAfter at h
  split at h
  · cases hb : s.begins m <;> rw [hb] at h <;> cases h
  · rename_i hnot
    exact Guard.isBusy_eq_false_iff.mp (by simpa using hnot)

/-- The move that leaves an errand open leaves the role. -/
theorem role_of_open (hw : s.Speaks) (h : Phase s.control e) {e' : Errand}
    (he : errandAfter e s m = some e') : (s.step m).role = s.role := by
  have hafter := phase_step m hw h
  rw [he] at hafter
  refine hafter.role.trans ?_
  rcases begins_or_open he with hb | ⟨-, rfl⟩
  · exact role_of_begins hb
  · exact h.role.symm

/-- Who the peer of a session is changes with the session only, or when the pointer that an outbound
station shares is handed on. -/
theorem peer_turn (ht : Turn s m c ns ds) (h : Phase s.control e) :
    c.sessionPeer = s.sessionPeer ∨ c.guard = .idle ∨ s.role.isOutbound = true := by
  cases ht with
  | sharesAtOnce _ _ _ _ _ _ _ hs => cases hs <;> exact .inl rfl
  | startRejected p _ _ hg _ => exact .inr (.inl (h.released hg).2.1)
  | consumes p _ _ hg _ _ => exact .inr (.inl (h.released hg).2.1)
  | getsBack p _ _ hg _ _ =>
    exact .inr (.inl ((Control.guard_ended _).trans (h.released hg).2.1))
  | stopDropped p _ ha _ => exact .inr (.inl (h.released (.inl ha)).2.1)
  | stopRejected p hg _ => exact .inr (.inl (h.released hg).2.1)
  | isLeft p hg _ => exact .inr (.inl ((Control.guard_ended _).trans (h.released hg).2.1))
  | handedOn p hr => exact .inr (.inr hr)
  | resets => exact .inr (.inl rfl)
  | loses id _ =>
    unfold Control.released
    split <;> split <;> exact .inl rfl
  | endsAside _ _ he _ => exact .inl he.same.sessionPeer
  | opens _ _ _ he _ _ hs =>
    cases hs with
    | calls => exact .inl he.same.sessionPeer
    | lacks => exact .inr (.inl rfl)
  | stopsOrigin _ _ _ he _ _ _ => exact .inl he.same.sessionPeer
  | opensNot => exact .inr (.inl rfl)
  | shares => exact .inr (.inl rfl)
  | handsOn => exact .inr (.inl rfl)
  | stays => exact .inr (.inl rfl)
  | startFails => exact .inr (.inl rfl)
  | rollsBack => exact .inr (.inl rfl)
  | leaves => exact .inr (.inl (Control.guard_ended _))
  | stopFails => exact .inr (.inl rfl)
  | _ => exact .inl rfl

theorem sessionPeer_of_open (hw : s.Speaks) (h : Phase s.control e) {e' : Errand}
    (he : errandAfter e s m = some e') (ho : s.role.isOutbound = false) :
    (s.step m).sessionPeer = s.sessionPeer := by
  have hafter := phase_step m hw h
  rw [he] at hafter
  obtain ⟨c, ns, ds, ht, hs⟩ := s.turns m hw
  rw [hs.control] at hafter
  have hpeer : (s.step m).sessionPeer = c.sessionPeer := congrArg Control.sessionPeer hs.control
  rcases peer_turn ht h with hsame | hg | hout
  · exact hpeer.trans hsame
  · cases (hafter.of_idle hg).1
  · rw [ho] at hout
    cases hout

theorem registry_of_keeps (hw : s.Speaks) (hm : m.keepsDevices = true) :
    (s.step m).registry = s.registry := by
  obtain ⟨c, ns, ds, ht, hs⟩ := s.turns m hw
  exact (congrArg Control.registry hs.control).trans (registry_turn ht hm)

/-- What frees a station that shares or consumes, when a post is taken, is that the call ended well
for which its errand waited: the last one of a start, unless it shares, or that of a stop. -/
theorem ending_of_freed (hw : s.Speaks) (h : Phase s.control e) (hbusy : s.role.isFree = false)
    (hfree : (s.step .take).role = .free) :
    ∃ call args e', s.ending? = some call ∧ call.outcome = .succeeded ∧
      s.control.calls.get call.kind = some ⟨call.request, args, call.completion⟩ ∧
      e = some e' ∧ e'.Waits call.kind call.completion ∧
      (s.role.isOutbound = false ∧ call.completion.last?.isSome = true ∨
        ∃ peer, call.completion = .stopped peer) := by
  obtain ⟨call, hc, hsucceeded, htransition, hlast⟩ : ∃ call, s.ending? = some call ∧
      call.outcome = .succeeded ∧ call.completion.isTransition = true ∧
      (s.role.isOutbound = false ∧ call.completion.last?.isSome = true ∨
        ∃ peer, call.completion = .stopped peer) := by
    obtain ⟨c, ns, ds, ht, hs⟩ := s.turns .take hw
    have hrole : c.role = .free := (congrArg Control.role hs.control).symm.trans hfree
    rcases roleChange_turn ht h with hsame | hchange
    · rw [← hsame, hrole] at hbusy
      cases hbusy
    rw [hrole] at hchange
    cases hchange with
    | handsOn _ _ _ _ call hr hc hsucceeded hn =>
      exact ⟨call, hc, hsucceeded, isTransition_of_last? hn,
        .inl ⟨by rw [hr]; rfl, by rw [hn]; rfl⟩⟩
    | leaves peer call _ hc hsucceeded hn =>
      exact ⟨call, hc, hsucceeded, by rw [hn]; rfl, .inr ⟨peer, hn⟩⟩
  obtain ⟨_, hends, -⟩ := take_of_ending hc
  obtain ⟨e', he, hwaits, hsup, -⟩ := h.ends_step hends htransition
  obtain ⟨args, hget⟩ := hends.get_args hsup
  exact ⟨call, args, e', hc, hsucceeded, hget, he, hwaits, hlast⟩

/-- A move that asks for a stop that is possible makes the stop call. -/
theorem close_of_stopRoute? (hw : s.Speaks) {r : StopRoute} (hr : s.stopRoute? m = some r) :
    (s.step m).control = s.control.close r := by
  obtain ⟨c, ns, ds, ht, hs⟩ := s.turns m hw
  rw [hs.control]
  cases ht with
  | rest _ _ hstop _ _ =>
    rw [hr] at hstop
    cases hstop
  | stops _ r' hr' =>
    rw [hr] at hr'
    cases hr'
    rfl
  | _ => cases hr

/-! ### Beside the errand -/

/-- What a move leaves of the control when it has nothing to do with the errand that is open. -/
structure Aside (s : Station) (m : Move) (c : Control) (ds : List Dispatch) : Prop where
  role : c.role = s.role
  guard : c.guard = s.guard
  link : s.role.isFree = false → c.link = s.link
  held : ∀ k x, s.control.calls.get k = some x → x.completion.isTransition = true →
    c.calls.get k = some x
  sheds : s.role.isOutbound = false → s.control.Sheds c
  sends : ds = []
  ends : m = .take → ∀ call, s.ending? = some call → call.completion.isTransition = false

theorem Aside.refl (hends : m = .take → s.ending? = none) : Aside s m s.control [] := by
  refine ⟨rfl, rfl, fun _ => rfl, fun _ _ hx _ => hx, fun _ => .refl _, rfl, fun hm call hc => ?_⟩
  rw [hends hm] at hc
  cases hc

/-- A call that ends and is no step of a transition takes no such step away. -/
theorem Aside.of_ends {call : Resolved Continuation} (hc : s.ending? = some call)
    (he : Ends s.control call c) (ha : call.completion.isTransition = false) :
    Aside s .take c [] := by
  refine ⟨he.same.role, he.same.guard, fun _ => he.same.link, fun k x hx ht => ?_,
    fun _ => .of_ends he, rfl, fun _ call' hc' => ?_⟩
  · cases he with
    | pending j y o hj ho =>
      have hne : j ≠ k := by
        rintro rfl
        obtain rfl : y = x := Option.some.inj (hj.symm.trans hx)
        rw [ht] at ha
        cases ha
      exact (PerKind.get_set_of_ne _ hne _).trans hx
    | superseded r hr => exact hx
  · obtain rfl : call = call' := Option.some.inj (hc.symm.trans hc')
    exact ha

/-- While an errand is open, a move has nothing to do with it, or the other end of the session is
gone, or the pointer that an outbound station shares was handed on, or a step of the errand ends. -/
theorem aside_or {e : Errand} (ht : Turn s m c ns ds) (h : Phase s.control (some e)) :
    Aside s m c ds ∨ (s.isReset m = true ∧ c = s.control.reset) ∨
      (s.role.isOutbound = true ∧ c.guard = s.guard ∧ ∃ p, m = .event (.signal (.relayAnnounce p))) ∨
      m = .take ∧ ∃ call, s.ending? = some call ∧ call.completion.isTransition = true := by
  have hbusy (hidle : s.guard = .idle) : False := by cases (h.of_idle hidle).1
  have hunheard {p : NetworkId} (hp : s.announcer = some p ∨ s.guard = .idle) : False := by
    obtain ⟨he, -⟩ := h.released hp
    cases he
  have hother {m : Move} (hm : m ≠ .take) : m = .take → ∀ call, s.ending? = some call →
      call.completion.isTransition = false := fun h => absurd h hm
  have hstep {call : Resolved Continuation} (hc : s.ending? = some call)
      (hn : call.completion.isTransition = true) :
      Aside s .take c ds ∨ (s.isReset .take = true ∧ c = s.control.reset) ∨
        (s.role.isOutbound = true ∧ c.guard = s.guard ∧
          ∃ p, Move.take = .event (.signal (.relayAnnounce p))) ∨
        Move.take = .take ∧ ∃ call, s.ending? = some call ∧ call.completion.isTransition = true :=
    .inr (.inr (.inr ⟨rfl, call, hc, hn⟩))
  cases ht with
  | rest _ _ _ htake _ => exact .inl (.refl htake)
  | devices ds =>
    exact .inl ⟨rfl, rfl, fun _ => rfl, fun _ _ hx _ => hx, fun _ => .of_same rfl rfl rfl, rfl, hother (by simp)⟩
  | prepares _ _ _ _ hp _ _ => exact (hbusy (guard_of_planStart hp)).elim
  | sharesAtOnce _ _ _ _ hp _ _ _ => exact (hbusy (guard_of_planStart hp)).elim
  | comesBack _ _ _ hp => exact (hbusy (guard_of_planStart hp)).elim
  | stops _ _ hr => exact (hbusy (guard_of_planStop (planStop_of_stopRoute? hr))).elim
  | hearsStart _ hidle _ => exact (hbusy hidle).elim
  | hearsStop _ hidle _ => exact (hbusy hidle).elim
  | startRejected _ _ _ hp _ => exact (hunheard hp).elim
  | consumes _ _ _ hp _ _ => exact (hunheard hp).elim
  | getsBack _ _ _ hp _ _ => exact (hunheard hp).elim
  | stopDropped _ _ ha _ => exact (hunheard (.inl ha)).elim
  | stopRejected _ hp _ => exact (hunheard hp).elim
  | isLeft _ hp _ => exact (hunheard hp).elim
  | handedOn p ho => exact .inr (.inr (.inl ⟨ho, rfl, p, rfl⟩))
  | resets id hp => exact .inr (.inl ⟨hp, rfl⟩)
  | loses id hp =>
    -- nobody announced the errand, so the guard is not released
    have hreleased (c : Control) (hc : c.announcer = s.announcer) : c.released id = c := by
      rw [Control.released, hc, show s.announcer = none from h.announcer]
      exact if_neg (by simp)
    refine .inl ?_
    split
    · rename_i hcut
      rw [hreleased _ rfl]
      refine ⟨rfl, rfl, fun hf => ?_, fun _ _ hx _ => hx, fun _ => .of_same rfl rfl rfl, rfl,
        hother (by simp)⟩
      rw [(Bool.and_eq_true_iff.mp hcut).1] at hf
      cases hf
    · rw [hreleased _ rfl]
      exact .refl fun hm => by cases hm
  | plugsIn dhid ho _ _ =>
    refine .inl ⟨rfl, rfl, fun _ => rfl, fun k x hx hn => ?_, fun hf => ?_, rfl, hother (by simp)⟩
    · -- what an outbound station waits for is a stop call
      obtain ⟨e', he, hw, hrole⟩ := h.of_step hx hn
      obtain ⟨_, -, rfl, -⟩ := hw.stop_of_outbound (hrole ▸ ho)
      rw [Control.get_issue_of_ne _ (by decide)]
      exact hx
    · rw [ho] at hf
      cases hf
  | endsAside call hc he ha => exact .inl (.of_ends hc he ha)
  | opens call plan hc _ hn _ _ => exact hstep hc (by rw [hn]; rfl)
  | opensNot call plan _ hc _ hn _ => exact hstep hc (by rw [hn]; rfl)
  | stopsOrigin call plan hc _ hn _ _ => exact hstep hc (by rw [hn]; rfl)
  | shares call _ _ hc _ hn _ _ => exact hstep hc (isTransition_of_last? hn)
  | handsOn call _ _ _ hc _ hn _ _ => exact hstep hc (isTransition_of_last? hn)
  | stays call _ _ hc _ hn _ _ => exact hstep hc (isTransition_of_last? hn)
  | startFails call _ _ _ hc _ hn _ => exact hstep hc (isTransition_of_leg? hn)
  | rollsBack call plan _ hc _ hn _ => exact hstep hc (by rw [hn]; rfl)
  | leaves call peer hc _ hn _ => exact hstep hc (by rw [hn]; rfl)
  | stopFails call peer _ hc _ hn _ => exact hstep hc (by rw [hn]; rfl)

/-- The move that closes a stop frees the station, unless the call of the stop ended in a failure. -/
theorem freed_or_failed {role : Role} {peer : NetworkId} (hw : s.Speaks)
    (h : Phase s.control (some (.stop role peer))) (hidle : (s.step m).guard = .idle) :
    (s.step m).role = .free ∨ m = .take ∧ ∃ call reason, s.ending? = some call ∧
      call.completion = .stopped peer ∧ call.outcome.reason? = some reason := by
  obtain ⟨c, ns, ds, ht, hs⟩ := s.turns m hw
  have hstays (hg : c.guard = s.guard) : False := by
    rw [← hs.control, show (s.step m).control.guard = .idle from hidle,
      show s.guard = .stopping from h.guard] at hg
    cases hg
  rcases aside_or ht h with ha | ⟨-, rfl⟩ | ⟨-, hg, -⟩ | ⟨rfl, call, hc, htr⟩
  · exact (hstays ha.guard).elim
  · exact .inl (congrArg Control.role hs.control)
  · exact (hstays hg).elim
  · obtain ⟨t, hends, -⟩ := take_of_ending hc
    obtain ⟨e, he, hwaits, -, -⟩ := h.ends_step hends htr
    cases he
    have hn : call.completion = .stopped peer := hwaits.of_stop.1
    cases ho : call.outcome.reason? with
    | none =>
      obtain ⟨c', -, hdoes⟩ := does_leaves hc hn ho
      exact .inl ((congrArg Control.role hdoes.control).trans (Control.role_ended _))
    | some reason => exact .inr ⟨rfl, call, reason, hc, hn, ho⟩

end Station

end PointerShare
