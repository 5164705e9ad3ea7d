/-
# What a station that left leaves behind

When a station hears that another left the network, it is left without a trace
of it: the other is no session peer, nobody whose announcement is waited for,
and takes part in no session. Only the link may still name it, and only while
the station is in a session of its own that the other had no part in: of a
pointer that was handed on the link is kept, and a station that consumes the
next one looks at its link when it starts, not when somebody leaves. So a later
start can do without preparing the link to a station that left, but only over a
link that was prepared after that, or over the one that was there then and has
been kept all the time.

Key theorems: `Station.forgets_peerOffline`, `Station.involves_peerOffline_iff`,
`Station.prepared_since`, `Station.departed_is_forgotten`.
-/
import PointerShare.Proofs.Failing
import PointerShare.Proofs.Preparing
import PointerShare.Proofs.Silence

namespace PointerShare

namespace Station

/-! ### What becomes of a station when another leaves -/

section departs

variable {s : Station} {id : NetworkId}

theorem sessionPeer_release (s : Station) (id : NetworkId) :
    (s.release id).sessionPeer = s.sessionPeer := by
  unfold release
  split <;> rfl

/-- The session peer takes part in the session. -/
theorem sessionPeer_ne_of_aside (hv : s.role.isFree = s.sessionPeer.isNone)
    (hp : s.participates id = false) : s.sessionPeer ≠ some id := by
  intro he
  unfold participates at hp
  split at hp
  · rename_i hr
    rw [hr, he] at hv
    cases hv
  · simp [he] at hp
  · simp [he] at hp

/-- Of an outbound station's link, one who takes no part in the session can be the source only. -/
theorem src_of_involves (hr : s.role.isOutbound = true) (hp : s.participates id = false)
    (hl : s.link.involves id = true) : s.link.src = id := by
  obtain ⟨d, hd⟩ := Role.isOutbound_iff.mp hr
  simp only [participates, hd, Bool.or_eq_false_iff, Bool.and_eq_false_iff] at hp
  simp only [Link.involves, Bool.and_eq_true, Bool.or_eq_true, beq_iff_eq] at hl
  refine hl.2.resolve_right fun hsink => ?_
  simp [hl.1, hsink] at hp

/-- In a session of its own a station keeps its role and its link. -/
theorem peerOffline_of_session (hr : s.role ≠ .free) (hp : s.participates id = false) :
    s.peerOffline id = s.release id := by
  rw [peerOffline_of_aside hp, Role.isFree_eq_false_iff.mpr hr, Bool.false_and,
    if_neg Bool.false_ne_true]

/-- When `id` has left, nothing but the link names it. -/
theorem forgets_peerOffline (hv : s.role.isFree = s.sessionPeer.isNone) (id : NetworkId) :
    (s.peerOffline id).sessionPeer ≠ some id ∧ (s.peerOffline id).announcer ≠ some id ∧
      (s.peerOffline id).participates id = false := by
  cases hp : s.participates id with
  | true =>
    rw [peerOffline_of_participates hp]
    have hreset := (s.does_resetSession id).control
    have hpeer : (s.resetSession id).sessionPeer = none := congrArg Control.sessionPeer hreset
    have hannouncer : (s.resetSession id).announcer = none := congrArg Control.announcer hreset
    refine ⟨by simp [hpeer], by simp [hannouncer], ?_⟩
    exact participates_of_free (congrArg Control.role hreset) id
  | false =>
    have hne := sessionPeer_ne_of_aside hv hp
    rw [peerOffline_of_aside hp]
    refine ⟨?_, announcer_release _ id, ?_⟩
    · rw [sessionPeer_release]
      split <;> exact hne
    · rw [participates_release]
      split
      · rename_i hl
        exact participates_of_free (s := { s with link := .none })
          (Role.isFree_iff.mp (Bool.and_eq_true_iff.mp hl).1) id
      · exact hp

/-- The link names a station that left iff it did before, and the station is in a session that the
other had no part in. -/
theorem involves_peerOffline_iff : (s.peerOffline id).link.involves id = true ↔
    s.role ≠ .free ∧ s.participates id = false ∧ s.link.involves id = true := by
  cases hp : s.participates id with
  | true =>
    have hlink : (s.resetSession id).link = .none :=
      congrArg Control.link (s.does_resetSession id).control
    rw [peerOffline_of_participates hp, hlink]
    simp
  | false =>
    by_cases hr : s.role = .free
    · rw [peerOffline_of_aside hp, link_release, hr]
      by_cases hl : s.link.involves id = true <;> simp [Role.isFree, hl]
    · rw [peerOffline_of_session hr hp, link_release]
      simp [hr]

end departs

/-! ### Runs -/

section run

variable (settings : Settings) (registry : Registry)

/-- The link over which a start starts its devices has just been prepared, or was prepared since some
moment of the run and kept, or was held at this moment and has been kept all the time. -/
theorem prepared_since {before after : List Move} {m : Move} {e : Entry} {plan : StartPlan}
    (he : e ∈ ((create settings registry).run (before ++ after)).issues m)
    (hn : e.call.completion = .started plan) :
    let s := create settings registry
    let l : Link := ⟨e.call.args.src, e.call.args.sink⟩
    Opens (s.run (before ++ after)) (s.ledger (before ++ after)) l m ∨ BackedSince s before after l ∨
      ((s.run before).role.isOutbound = false ∧ (s.run before).link = l ∧
        Along step (Keeps l) (s.run before) after) := by
  have hocc := occasion_of_issues (speaks_run settings registry (before ++ after)) he
  obtain ⟨k, request, args, next⟩ := e
  obtain rfl : next = .started plan := hn
  cases hocc with
  | startPrepared call plan dhids hc hn ho _ _ =>
    exact .inl (opens_of_ending settings registry hc hn (succeeded_of_reason? ho))
  | startAtOnce target device route plan dhids hp hr hj _ _ =>
    obtain ⟨hlink, hprepared⟩ := Link.joins_iff.mp hj
    obtain ⟨-, -, ho, -⟩ := planStart_plan hp hr
    have hb := backed_since settings registry before after ho hprepared
    rw [hlink] at hb
    exact .inr hb

/-- **A station that left is forgotten, but for the link.** Whenever `id` has left the network, it is
not the session peer, its announcement is not waited for, and it takes part in no session. The
link names it iff the station is in a session that `id` had no part in, and named it before; role and
link then stay as they were, and an outbound station's link can name it as the source only. And when
a later start starts its devices over a link that names `id`, this link has just been prepared, or
it was prepared after `id` left and has been kept since, or the station was inbound when `id` left
and has kept the link that it held then. -/
theorem departed_is_forgotten (before : List Move) (id : NetworkId) :
    let s₀ := create settings registry
    let s := s₀.run before
    let left := before ++ [.event (.deviceOffline id)]
    let s' := s₀.run left
    s'.sessionPeer ≠ some id ∧ s'.announcer ≠ some id ∧ s'.participates id = false ∧
    (s'.link.involves id = true ↔
      s.role ≠ .free ∧ s.participates id = false ∧ s.link.involves id = true) ∧
    (s'.link.involves id = true → s'.role = s.role ∧ s'.link = s.link ∧
      (s.role.isOutbound = true → s.link.src = id)) ∧
    ∀ after m e plan, e ∈ (s'.run after).issues m → e.call.completion = .started plan →
      let l : Link := ⟨e.call.args.src, e.call.args.sink⟩
      l.involves id = true →
        Opens (s'.run after) (s₀.ledger (left ++ after)) l m ∨ BackedSince s₀ left after l ∨
          ((∃ shared, s.role = .inbound shared) ∧ s.participates id = false ∧ s.link = l ∧
            Along step (Keeps l) s' after) := by
  intro s₀ s left s'
  have hs' : s' = s.peerOffline id := run_concat s₀ before (.event (.deviceOffline id))
  obtain ⟨hpeer, hannouncer, hpart⟩ :=
    forgets_peerOffline (isFree_run settings registry before) id
  have hiff : s'.link.involves id = true ↔
      s.role ≠ .free ∧ s.participates id = false ∧ s.link.involves id = true := by
    rw [hs']
    exact involves_peerOffline_iff
  have hkept (hl : s'.link.involves id = true) : s'.role = s.role ∧ s'.link = s.link ∧
      (s.role.isOutbound = true → s.link.src = id) := by
    obtain ⟨hr, hp, hl⟩ := hiff.mp hl
    rw [hs', peerOffline_of_session hr hp]
    exact ⟨role_release s id, link_release s id, fun ho => src_of_involves ho hp hl⟩
  refine ⟨hs' ▸ hpeer, hs' ▸ hannouncer, hs' ▸ hpart, hiff, hkept, ?_⟩
  intro after m e plan he hn l hl
  rw [← run_append] at he ⊢
  refine (prepared_since settings registry he hn).imp_right (Or.imp_right ?_)
  rintro ⟨ho, hlink, ha⟩
  -- the link is the one that was left
  have hnamed : s'.link.involves id = true := by
    rw [show s'.link = l from hlink]
    exact hl
  obtain ⟨hr, hp, -⟩ := hiff.mp hnamed
  obtain ⟨hrole, hsame, -⟩ := hkept hnamed
  rw [show (s₀.run left).role = s.role from hrole] at ho
  refine ⟨?_, hp, hsame.symm.trans hlink, ha⟩
  cases hs : s.role with
  | free => exact absurd hs hr
  | inbound shared => exact ⟨shared, rfl⟩
  | outbound d =>
    rw [hs] at ho
    cases ho

end run

/-- A pointer of `b` was handed on to `c` and is consumed again when `c` leaves the network: the link
from `b` to `c` stays, and the pointer is handed on to `c` once more without preparing it. -/
theorem handed_on_to_a_departed_station :
    let s := (create ⟨8, 1000, 2, 1000, .center⟩
      ⟨⟨"a"⟩, [⟨⟨2⟩, ⟨"n"⟩, ⟨"b"⟩, [], true, true⟩]⟩).run
      [.event (.signal (.startRequest ⟨"b"⟩)),
        .event (.signal (.startResult ⟨"b"⟩ true ⟨"n"⟩ .center)),
        .event (.request (.start ⟨"c"⟩ ⟨2⟩)), .take, .take, .take, .take, .take,
        .event (.signal (.startRequest ⟨"b"⟩)),
        .event (.signal (.startResult ⟨"b"⟩ true ⟨"n"⟩ .center))]
    let s' := s.peerOffline ⟨"c"⟩
    ⟨"c"⟩ ≠ s.home ∧ s'.link.involves ⟨"c"⟩ = true ∧
      (s'.issues (.event (.request (.start ⟨"c"⟩ ⟨2⟩)))).map Entry.what =
        [(.start, ⟨⟨"b"⟩, ⟨"c"⟩, [⟨"n"⟩]⟩)] := by
  decide +kernel

end Station

end PointerShare
