/-
# Nothing comes of what was before a reset

When the other end of a session leaves the network, the session is over at once:
its calls are dropped, the guard, the link and the peer are cleared. What was
posted for the calls that were dropped is still to come out of the mailbox, and
the service may go on to answer them; new calls of the same kinds may be pending
by then. But a new call has a new number, and a post that names an old one finds
no call to end. Only relayed input names no call; what of it was queued before
comes out while the station cannot be outbound yet, because the calls that make
it so are answered later.

Key definitions: `Control.Above`, `Post.Past`, `Station.Silenced`.
Key theorems: `Station.peerOffline_idem`, `Station.receive_of_past`,
`Station.silenced_step`, `Station.reset_is_final`.
-/
import PointerShare.Proofs.Asides
import PointerShare.Proofs.MailOrder
import PointerShare.Proofs.Outsiders
import PointerShare.Proofs.RoleChange
import PointerShare.Proofs.Stopping

namespace PointerShare

/-! ### A peer that leaves twice -/

namespace Station

variable {s : Station} {id : NetworkId}

/-- Nothing is left to do for a station that left. -/
theorem peerOffline_of_gone (hp : s.participates id = false)
    (hl : (s.role.isFree && s.link.involves id) = false) (ha : s.announcer ≠ some id) :
    s.peerOffline id = s := by
  simp [peerOffline, hp, hl, ha]

theorem peerOffline_of_participates (hp : s.participates id = true) :
    s.peerOffline id = s.resetSession id := by
  simp [peerOffline, hp]

theorem peerOffline_of_aside (hp : s.participates id = false) :
    s.peerOffline id = (if s.role.isFree && s.link.involves id then { s with link := .none }
      else s).release id := by
  simp [peerOffline, hp, release]

theorem announcer_release (s : Station) (id : NetworkId) : (s.release id).announcer ≠ some id := by
  unfold release
  split
  · nofun
  · assumption

theorem link_release (s : Station) (id : NetworkId) : (s.release id).link = s.link := by
  unfold release
  split <;> rfl

/-- **A station that leaves twice has left once.** -/
theorem peerOffline_idem (s : Station) (id : NetworkId) :
    (s.peerOffline id).peerOffline id = s.peerOffline id := by
  cases hp : s.participates id with
  | true =>
    rw [peerOffline_of_participates hp]
    have hreset := (s.does_resetSession id).control
    have hrole : (s.resetSession id).role = .free := congrArg Control.role hreset
    have hlink : (s.resetSession id).link = .none := congrArg Control.link hreset
    have hannouncer : (s.resetSession id).announcer = none := congrArg Control.announcer hreset
    refine peerOffline_of_gone (participates_of_free hrole id) ?_ (by simp [hannouncer])
    rw [hlink, Link.involves_none, Bool.and_false]
  | false =>
    rw [peerOffline_of_aside hp]
    by_cases hl : (s.role.isFree && s.link.involves id) = true
    · rw [if_pos hl]
      have hfree : s.role = .free := Role.isFree_iff.mp (Bool.and_eq_true_iff.mp hl).1
      refine peerOffline_of_gone ?_ ?_ (announcer_release _ id)
      · rw [participates_release]
        exact participates_of_free (s := { s with link := .none }) hfree id
      · rw [link_release]
        simp
    · rw [if_neg hl]
      refine peerOffline_of_gone ?_ ?_ (announcer_release _ id)
      · rw [participates_release, hp]
      · rw [link_release, role_release]
        simpa using hl

end Station

/-! ### Posts of the past -/

/-- The post names no call with a number above `n`. -/
def Post.Past (n : Nat) (p : Post) : Prop := ∀ r, p.request? = some r → r.number ≤ n

theorem Post.Dated.past {n : Nat} {p : Post} (h : p.Dated n)
    (hreply : ∀ r, p = .reply r → r.request.number ≤ n) : p.Past n := by
  intro r hr
  cases p with
  | reply r' =>
    cases hr
    exact hreply r' rfl
  | issueFailed => cases hr; exact h
  | timerFired => cases hr; exact h
  | superseded => cases hr; exact h
  | relay => cases hr

/-- Every call that has not ended has a number above `n`. -/
structure Control.Above (c : Control) (n : Nat) : Prop where
  issued : n ≤ c.issued
  pending : ∀ k x, c.calls.get k = some x → n < x.request.number
  superseded : ∀ r ∈ c.superseded, n < r.request.number

theorem Control.above_reset (c : Control) : c.reset.Above c.issued := by
  refine ⟨Nat.le_refl _, fun k x hx => ?_, fun r hr => by cases hr⟩
  rw [Control.reset, PerKind.get_const] at hx
  cases hx

namespace Station

variable {s : Station} {m : Move} {n : Nat}

/-- Numbers are given out in order. -/
theorem above_step (hw : s.Speaks) (h : s.control.Above n) : (s.step m).control.Above n := by
  cases s.books m hw with
  | sheds hs =>
    exact ⟨hs.issued ▸ h.issued, fun k x hx => h.pending k x (hs.pending k x hx),
      fun r hr => h.superseded r (hs.superseded hr)⟩
  | adds k args next _ ha _ =>
    refine ⟨ha.issued ▸ Nat.le_succ_of_le h.issued, fun j x hx => ?_, fun r hr => ?_⟩
    · by_cases hj : j = k
      · subst hj
        rw [ha.get] at hx
        cases hx
        exact Nat.lt_succ_of_le h.issued
      · exact h.pending j x (ha.others j x hj hx)
    · rcases ha.superseded r hr with hr | ⟨x, hx, rfl⟩
      · exact h.superseded r hr
      · exact h.pending k x hx

/-- A post about a call of the past finds no call to end. -/
theorem apply_of_past (h : s.control.Above n) {p : Post} {r : RequestId}
    (hp : p.request? = some r) (hr : r.number ≤ n) :
    s.gateway.tracker.apply p = (none, s.gateway.tracker) := by
  have hcurrent (k : CallKind) : s.gateway.tracker.current? k r = none := by
    rw [Option.eq_none_iff_forall_ne_some]
    intro q hq
    obtain ⟨hpending, rfl⟩ := Tracker.pending?_of_current? hq
    have hget : s.control.calls.get k = some (Tracker.callOf q) := by
      show s.gateway.tracker.calls.get k = _
      rw [Tracker.get_calls, hpending]
      rfl
    exact absurd (h.pending k _ hget) (Nat.not_lt.mpr hr)
  have hsuperseded : (s.gateway.tracker.superseded.find? fun q => q.request == r) = none := by
    rw [List.find?_eq_none]
    intro q hq heq
    have hnumber := h.superseded q hq
    rw [show q.request = r by simpa using heq] at hnumber
    exact absurd hnumber (Nat.not_lt.mpr hr)
  cases p with
  | reply reply =>
    cases hp
    simp [Tracker.apply, Tracker.onReply, hcurrent]
  | issueFailed k _ =>
    cases hp
    simp [Tracker.apply, Tracker.onIssueFailed, hcurrent]
  | timerFired k _ =>
    cases hp
    simp [Tracker.apply, Tracker.onTimer, hcurrent]
  | superseded _ =>
    cases hp
    simp [Tracker.apply, Tracker.takeSuperseded, hsuperseded]
  | relay => cases hp

/-- Nothing comes of a post of the past, unless it is relayed input and the station outbound. -/
theorem receive_of_past (h : s.control.Above n) {p : Post} (hp : p.Past n)
    (hrelay : p.request? = none → s.role.isOutbound = false) : s.receive p = s := by
  cases hr : p.request? with
  | some r =>
    have hnot : ∀ e, p ≠ .relay e := by
      rintro e rfl
      cases hr
    rw [receive_eq s hnot, apply_of_past h hr (hp r hr)]
    rfl
  | none =>
    cases p with
    | relay e =>
      have hevent : s.relayEvent e = s := by simp [relayEvent, hrelay hr]
      unfold receive Gateway.receive
      cases s.gateway.subscribed with
      | true => exact hevent
      | false => rfl
    | _ => cases hr

/-- Taking it only removes it. -/
theorem take_of_past (h : s.control.Above n) {p : Post} {rest : List Post}
    (hq : s.gateway.mailbox.queue = p :: rest) (hp : p.Past n)
    (hrelay : p.request? = none → s.role.isOutbound = false) :
    s.step .take = s.setMailbox { s.gateway.mailbox with queue := rest } := by
  rw [step_take_of_cons hq]
  exact receive_of_past (s := s.setMailbox { s.gateway.mailbox with queue := rest }) h hp hrelay

/-- A station comes to share by taking a post only. -/
theorem not_outbound_step {e : Option Errand} (hw : s.Speaks) (h : Phase s.control e)
    (hm : m ≠ .take) (ho : s.role.isOutbound = false) : (s.step m).role.isOutbound = false := by
  obtain ⟨c, ns, ds, ht, hs⟩ := s.turns m hw
  have hrole : (s.step m).role = c.role := congrArg Control.role hs.control
  rw [hrole]
  rcases roleChange_turn ht h with hsame | hchange
  · rwa [hsame]
  · generalize c.role = r at hchange ⊢
    cases hchange with
    | shares => exact absurd rfl hm
    | _ => rfl

/-- Of the posts of the past that were queued, `old` are still to come out, and come first; until
they have the station is not outbound. -/
structure Silenced (s : Station) (n : Nat) (old : List Post) : Prop where
  speaks : s.Speaks
  phase : ∃ e, Phase s.control e
  above : s.control.Above n
  ahead : old <+: s.gateway.mailbox.queue
  outbound : old ≠ [] → s.role.isOutbound = false

/-- Every move keeps the past silent; a take removes one of its posts. -/
theorem silenced_step {old : List Post} (hold : ∀ p ∈ old, p.Past n) (h : s.Silenced n old) :
    (s.step m).Silenced n (if m = .take then old.tail else old) := by
  obtain ⟨e, hphase⟩ := h.phase
  refine ⟨speaks_step m h.speaks, ⟨_, phase_step m h.speaks hphase⟩, above_step h.speaks h.above,
    ?_, fun hne => ?_⟩
  · by_cases hm : m = .take
    · subst hm
      cases old with
      | nil => exact List.nil_prefix
      | cons p old =>
        obtain ⟨new, hqueue⟩ := h.ahead
        exact (List.prefix_append old new).trans (queue_take hqueue.symm)
    · rw [if_neg hm]
      exact h.ahead.trans (queue_step hm)
  · by_cases hm : m = .take
    · subst hm
      -- what is taken is of the past, so the station stays what it was
      cases old with
      | nil => exact absurd rfl hne
      | cons p old =>
        obtain ⟨new, hqueue⟩ := h.ahead
        have hout := h.outbound (List.cons_ne_nil p old)
        rw [take_of_past h.above hqueue.symm (hold p List.mem_cons_self) fun _ => hout]
        exact hout
    · rw [if_neg hm] at hne
      exact not_outbound_step h.speaks hphase hm (h.outbound hne)

theorem silenced_run (after : List Move) : ∀ {s : Station} {old : List Post},
    (∀ p ∈ old, p.Past n) → s.Silenced n old →
      (s.run after).Silenced n (old.drop (after.count .take)) := by
  induction after with
  | nil => exact fun _ h => h
  | cons m after ih =>
    intro s old hold h
    have hstep := silenced_step (m := m) hold h
    rw [run_cons]
    by_cases hm : m = .take
    · subst hm
      rw [if_pos rfl] at hstep
      have hrest := ih (fun p hp => hold p (List.mem_of_mem_tail hp)) hstep
      rwa [List.count_cons_self, ← List.drop_tail]
    · rw [if_neg hm] at hstep
      rw [List.count_cons_of_ne hm]
      exact ih hold hstep

/-- The session is over because its other end is gone: what is queued is of the past. -/
theorem silenced_reset {e : Option Errand} {id : NetworkId} (hw : s.Speaks) (h : Phase s.control e)
    (hp : s.participates id = true) :
    (s.peerOffline id).Silenced s.gateway.tracker.issued s.gateway.mailbox.queue := by
  have hreset := (s.does_resetSession id).control
  rw [← peerOffline_of_participates hp] at hreset
  have hphase := phase_step (.event (.deviceOffline id)) hw h
  refine ⟨speaks_step (.event (.deviceOffline id)) hw, ⟨_, hphase⟩, ?_,
    (s.works_peerOffline id).gateway.queue, fun _ => ?_⟩
  · rw [hreset]
    exact s.control.above_reset
  · rw [show (s.peerOffline id).role = .free from congrArg Control.role hreset]
    rfl

/-- **A reset is final.** That a station left is heard once: hearing it again changes nothing. And if
it was the other end of the session, the posts that were queued then, as far as the replies among
them are to calls that were made, come out first, in their order, and nothing comes of them;
nor does anything come of a post that names a call which was made before, whenever it comes out
and whatever calls have been made since. Taking such a post removes it, and the station is the
same in all else. -/
theorem reset_is_final (settings : Settings) (registry : Registry) (before : List Move)
    (id : NetworkId) :
    let s := (create settings registry).run before
    let old := s.gateway.mailbox.queue
    (s.peerOffline id).peerOffline id = s.peerOffline id ∧
    (s.participates id = true →
      (∀ r, .reply r ∈ old → r.request.number ≤ s.gateway.tracker.issued) →
      ∀ after p rest,
        let s' := (s.peerOffline id).run after
        s'.gateway.mailbox.queue = p :: rest →
        (after.count .take < old.length → old[after.count .take]? = some p) ∧
        (after.count .take < old.length ∨
            (∃ r, p.request? = some r ∧ r.number ≤ s.gateway.tracker.issued) →
          s'.step .take = s'.setMailbox { s'.gateway.mailbox with queue := rest })) := by
  intro s old
  refine ⟨s.peerOffline_idem id, fun hp hreplies after p rest => ?_⟩
  intro s' hqueue
  have hpast : ∀ q ∈ old, q.Past s.gateway.tracker.issued := fun q hq =>
    ((dated_run settings registry before).mailbox.queue q hq).past fun r hr =>
      hreplies r (hr ▸ hq)
  have hsilenced := silenced_run after hpast
    (silenced_reset (speaks_run settings registry before) (phase_run settings registry before) hp)
  -- as long as old posts are left, the next one comes out
  have hnext (hlt : after.count .take < old.length) :
      old[after.count .take]? = some p ∧ s'.role.isOutbound = false := by
    obtain ⟨new, hahead⟩ := hsilenced.ahead
    rw [List.drop_eq_getElem_cons hlt, hqueue, List.cons_append] at hahead
    exact ⟨(List.getElem?_eq_getElem hlt).trans (congrArg some (List.cons.inj hahead).1),
      hsilenced.outbound (by simpa using hlt)⟩
  refine ⟨fun hlt => (hnext hlt).1, ?_⟩
  rintro (hlt | ⟨r, hr, hnumber⟩)
  · obtain ⟨hget, hout⟩ := hnext hlt
    exact take_of_past hsilenced.above hqueue (hpast p (List.mem_of_getElem? hget)) fun _ => hout
  · refine take_of_past hsilenced.above hqueue (fun r' hr' => ?_) fun hnone => ?_
    · rw [hr] at hr'
      cases hr'
      exact hnumber
    · rw [hr] at hnone
      cases hnone

/-- The stop call of a session has been answered, and the answers are queued, when the other end
leaves; the station starts anew, and then takes the first answer: nothing comes of it. -/
theorem answered_stop_silenced :
    let s := (create ⟨8, 1000, 2, 1000, .center⟩ lonePointer).run
      [.event (.request (.start ⟨"b"⟩ ⟨1⟩)), .take, .take, .take, .event (.request .stop)]
    let s' := (s.peerOffline ⟨"b"⟩).run [.event (.request (.start ⟨"b"⟩ ⟨1⟩))]
    let rest : List Post := [.reply ⟨.stop, ⟨3⟩, .dhids [⟨"m"⟩], 0⟩,
      .reply ⟨.prepare, ⟨4⟩, .pair ⟨"a"⟩ ⟨"b"⟩, 0⟩]
    s.participates ⟨"b"⟩ = true ∧
      s'.gateway.mailbox.queue = .reply ⟨.stop, ⟨3⟩, .pair ⟨"a"⟩ ⟨"b"⟩, 0⟩ :: rest ∧
      s'.step .take = s'.setMailbox { s'.gateway.mailbox with queue := rest } := by
  intro s s' rest
  have hold : s.gateway.mailbox.queue = [.reply ⟨.stop, ⟨3⟩, .pair ⟨"a"⟩ ⟨"b"⟩, 0⟩,
      .reply ⟨.stop, ⟨3⟩, .dhids [⟨"m"⟩], 0⟩] := by decide +kernel
  have hissued : s.gateway.tracker.issued = 3 := by decide +kernel
  have hp : s.participates ⟨"b"⟩ = true := by decide +kernel
  have hqueue : s'.gateway.mailbox.queue =
      .reply ⟨.stop, ⟨3⟩, .pair ⟨"a"⟩ ⟨"b"⟩, 0⟩ :: rest := by decide +kernel
  obtain ⟨-, hsilent⟩ := reset_is_final ⟨8, 1000, 2, 1000, .center⟩ lonePointer
    [.event (.request (.start ⟨"b"⟩ ⟨1⟩)), .take, .take, .take, .event (.request .stop)] ⟨"b"⟩
  refine ⟨hp, hqueue, (hsilent hp (fun r hr => ?_) _ _ rest hqueue).2 (.inl ?_)⟩
  · rw [hold] at hr
    rw [hissued]
    simp only [List.mem_cons, List.not_mem_nil, or_false, Post.reply.injEq] at hr
    rcases hr with rfl | rfl <;> decide
  · rw [hold]
    decide

end Station

end PointerShare
