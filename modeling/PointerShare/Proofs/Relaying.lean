/-
# The keys of a session are its own

Relayed input comes through the mailbox, like everything else, and what is
queued of it when a session ends comes out later. It could come out in the next
session, but does not: a station becomes outbound when a call that was made
since is answered, and that answer is queued behind all that was queued then;
while nobody listens nothing is added. So a session begins with no relay event
queued (`Station.relays_of_entering`), and from there on what is handled and
what is still queued are together what was emitted since.

Only calls that were made can be answered. Otherwise an old post could answer a
call that is made later, and a session begin ahead of what is queued.

Key definitions: `Mailbox.relays`, `Overheard`, `Station.overheard`,
`Station.Faithful`, `Station.Settled`, `Station.Overhears`.
Key theorems: `Station.queue_moves`, `Station.relays_of_entering`,
`Station.overhears_step`, `Station.keys_of_the_session`.
-/
import PointerShare.Proofs.HeldKeys
import PointerShare.Proofs.InTime
import PointerShare.Proofs.Silence

namespace PointerShare

/-! ### The relay events that are queued -/

def Post.relay? : Post → Option RelayEvent
  | .relay e => some e
  | _ => none

/-- The post answers no call with a number above `n`. -/
def Post.Credible (n : Nat) : Post → Prop
  | .reply r => r.request.number ≤ n
  | _ => True

instance (n : Nat) : ∀ p : Post, Decidable (p.Credible n)
  | .reply _ => inferInstanceAs (Decidable (_ ≤ _))
  | .issueFailed _ _ | .timerFired _ _ | .superseded _ | .relay _ => .isTrue trivial

namespace Mailbox

/-- The relay events that are queued, oldest first. -/
def relays (m : Mailbox) : List RelayEvent := m.queue.filterMap Post.relay?

variable (m : Mailbox)

theorem relays_post {p : Post} (hp : p.relay? = none) : (m.post p).relays = m.relays := by
  unfold relays post
  split
  · simp [hp]
  · rfl

theorem relays_post_relay {m : Mailbox} (ho : m.isOpen = true) (e : RelayEvent) :
    (m.post (.relay e)).relays = m.relays ++ [e] := by
  unfold relays post
  rw [if_pos ho, List.filterMap_append]
  rfl

theorem relays_postAll {ps : List Post} (hps : ∀ p ∈ ps, p.relay? = none) :
    ∀ m : Mailbox, (m.postAll ps).relays = m.relays := by
  induction ps with
  | nil => exact fun _ => rfl
  | cons p ps ih =>
    obtain ⟨hp, hps⟩ := List.forall_mem_cons.mp hps
    exact fun m => (ih hps (m.post p)).trans (m.relays_post hp)

theorem relays_ring : m.ring.relays = m.relays := by
  refine relays_postAll (fun p hp => ?_) { m with alarms := m.alarms.filter fun a => !(a.deadline ≤ m.now) }
  obtain ⟨a, -, rfl⟩ := List.mem_map.mp hp
  rfl

theorem relays_advanceTo (t : Nat) : (m.advanceTo t).relays = m.relays :=
  advanceTo_induction (P := fun m' => m'.relays = m.relays) (Q := fun m' => m'.relays = m.relays)
    (fun {m' a} h _ _ _ => (m'.setClock a.deadline).relays_ring.trans h) (fun h _ => h) rfl

end Mailbox

namespace Gateway

variable {κ : Type} {g g' : Gateway κ}

theorem relays_issue (g : Gateway κ) (k : CallKind) (args : CallArgs) (c : κ) :
    (g.issue k args c).2.mailbox.relays = g.mailbox.relays := by
  have hregister : (g.tracker.register k args c).2.mailbox.relays = g.mailbox.relays := by
    unfold Tracker.register Tracker.supersede
    dsimp only
    split
    · rfl
    · rename_i old _
      exact Mailbox.relays_post _ rfl
  refine (Mailbox.relays_postAll (fun p hp => ?_) _).trans hregister
  rcases List.mem_append.mp hp with hp | hp
  · obtain ⟨_, -, rfl⟩ := List.mem_map.mp hp
    rfl
  · split at hp
    · rw [List.mem_singleton.mp hp]
      rfl
    · cases hp

/-- Using the gateway queues no relay event. -/
theorem Uses.relays (h : g.Uses g') : g'.mailbox.relays = g.mailbox.relays := by
  induction h with
  | nothing => rfl
  | issues _ k args c ih => exact (relays_issue _ k args c).trans ih
  | cancels _ ih =>
    refine Eq.trans ?_ ih
    exact congrArg (List.filterMap Post.relay?) (Tracker.queue_atRest _ _)
  | subscribes _ ih =>
    unfold mailbox at ih ⊢
    rwa [tracker_subscribe]
  | unsubscribes _ ih =>
    unfold mailbox at ih ⊢
    rwa [tracker_unsubscribe]

end Gateway

namespace Station

variable {s : Station} {m : Move}

/-- The relay event that comes out of the mailbox with a move. -/
def hears (s : Station) : Move → List RelayEvent
  | .take => (s.gateway.mailbox.queue.head?.bind Post.relay?).toList
  | _ => []

/-- The relay event that the service emits to the station with a move. -/
def emits (s : Station) : Move → List RelayEvent
  | .happen (.relay e) => if s.gateway.service.hasListener then [e] else []
  | _ => []

theorem hears_of_ne (hm : m ≠ .take) : s.hears m = [] := by
  cases m <;> first | rfl | exact absurd rfl hm

/-- No relay event is lost: what comes out and what stays is what was there and what is emitted. -/
theorem relays_step (ho : s.gateway.mailbox.isOpen = true) :
    s.hears m ++ (s.step m).gateway.mailbox.relays = s.gateway.mailbox.relays ++ s.emits m := by
  have hsame (hh : s.hears m = []) (he : s.emits m = [])
      (h : (s.step m).gateway.mailbox.relays = s.gateway.mailbox.relays) :
      s.hears m ++ (s.step m).gateway.mailbox.relays = s.gateway.mailbox.relays ++ s.emits m := by
    rw [hh, he, List.nil_append, List.append_nil, h]
  cases m with
  | event e =>
    refine hsame rfl rfl ?_
    by_cases he : ∃ on, e = .request (.enable on)
    · obtain ⟨on, rfl⟩ := he
      exact (s.uses_enable on).relays
    · exact (s.works_handle e fun on hon => he ⟨on, hon⟩).gateway.relays
  | take =>
    cases hq : s.gateway.mailbox.queue with
    | nil => simp [step_take_of_empty hq, hears, emits, hq]
    | cons p ps =>
      have hrest : (s.step .take).gateway.mailbox.relays = ps.filterMap Post.relay? := by
        rw [step_take_of_cons hq]
        refine (works_receive _ p).gateway.relays.trans ?_
        exact congrArg (List.filterMap Post.relay?) (Tracker.queue_apply _ p)
      have hall : s.gateway.mailbox.relays = p.relay?.toList ++ ps.filterMap Post.relay? := by
        unfold Mailbox.relays
        rw [hq]
        cases p <;> rfl
      simp [hears, emits, hq, hrest, hall]
  | change => exact hsame rfl rfl s.works_nextChange.gateway.relays
  | happen h =>
    cases h with
    | answer r => exact hsame rfl rfl (Mailbox.relays_post _ rfl)
    | relay e =>
      show [] ++ (s.gateway.emitRelay e).2.mailbox.relays = _
      unfold emits Gateway.emitRelay
      split
      · exact Mailbox.relays_post_relay ho e
      · exact (List.append_nil _).symm
    | clock t => exact hsame rfl rfl (Mailbox.relays_advanceTo _ t)
    | flip id on =>
      refine hsame rfl rfl ?_
      show (s.flip id on).gateway.mailbox.relays = _
      rw [gateway_flip]
    | _ => exact hsame rfl rfl rfl

/-- A move takes the oldest post out or none, and adds posts at the end; the relay events among these
are those it emits. -/
theorem queue_moves (ho : s.gateway.mailbox.isOpen = true) :
    ∃ extra, (s.step m).gateway.mailbox.queue = (if m = .take then s.gateway.mailbox.queue.tail
      else s.gateway.mailbox.queue) ++ extra ∧ extra.filterMap Post.relay? = s.emits m := by
  have hgrows : (if m = .take then s.gateway.mailbox.queue.tail else s.gateway.mailbox.queue) <+:
      (s.step m).gateway.mailbox.queue := by
    by_cases hm : m = .take
    · subst hm
      rw [if_pos rfl]
      cases hq : s.gateway.mailbox.queue with
      | nil => exact List.nil_prefix
      | cons p ps => exact queue_take hq
    · rw [if_neg hm]
      exact queue_step hm
  have hrest : s.gateway.mailbox.relays = s.hears m ++
      (if m = .take then s.gateway.mailbox.queue.tail else s.gateway.mailbox.queue).filterMap
        Post.relay? := by
    by_cases hm : m = .take
    · subst hm
      unfold Mailbox.relays hears
      cases s.gateway.mailbox.queue with
      | nil => rfl
      | cons p ps => cases p <;> rfl
    · rw [if_neg hm, hears_of_ne hm]
      rfl
  obtain ⟨extra, hqueue⟩ := hgrows
  have hflow := relays_step (m := m) ho
  rw [hrest, Mailbox.relays, ← hqueue, List.filterMap_append, List.append_assoc] at hflow
  exact ⟨extra, hqueue.symm, List.append_cancel_left (List.append_cancel_left hflow)⟩

/-! ### How a session begins -/

end Station

/-- Of the calls that are pending, the steps of a transition have numbers above `n`. -/
structure Control.Newer (c : Control) (n : Nat) : Prop where
  issued : n ≤ c.issued
  pending : ∀ k x, c.calls.get k = some x → x.completion.isTransition = true → n < x.request.number

namespace Station

variable {s : Station} {m : Move} {e : Option Errand}

theorem newer_step {n : Nat} (hw : s.Speaks) (h : s.control.Newer n) :
    (s.step m).control.Newer n := by
  cases s.books m hw with
  | sheds hs => exact ⟨hs.issued ▸ h.issued, fun k x hx => h.pending k x (hs.pending k x hx)⟩
  | adds k args next _ ha _ =>
    refine ⟨ha.issued ▸ Nat.le_succ_of_le h.issued, fun j x hx ht => ?_⟩
    by_cases hj : j = k
    · subst hj
      rw [ha.get] at hx
      cases hx
      exact Nat.lt_succ_of_le h.issued
    · exact h.pending j x (ha.others j x hj hx) ht

/-- The posts that were queued when the last session ended, as far as they are still there, come
first, and name no call that was made since; there is no relay event behind them. -/
def Settled (s : Station) : Prop :=
  ∃ n old new, s.gateway.mailbox.queue = old ++ new ∧ (∀ p ∈ old, p.Past n) ∧
    new.filterMap Post.relay? = [] ∧ s.control.Newer n

/-- A station comes to share when the last call of its start succeeds. -/
theorem ending_of_entering (hw : s.Speaks) (h : Phase s.control e)
    (ho : s.role.isOutbound = false) (ho' : (s.step m).role.isOutbound = true) :
    m = .take ∧ s.role = .free ∧ ∃ call target device, s.ending? = some call ∧
      call.outcome = .succeeded ∧ call.completion.last? = some (target, device) := by
  obtain ⟨c, ns, ds, ht, hs⟩ := s.turns m hw
  have hrole : (s.step m).role = c.role := congrArg Control.role hs.control
  rw [hrole] at ho'
  rcases roleChange_turn ht h with hsame | hchange
  · rw [hsame, ho] at ho'
    cases ho'
  · generalize c.role = r at ho' hchange
    cases hchange with
    | shares place target device call hr hc hout hn =>
      exact ⟨rfl, hr, call, target, device, hc, hout, hn⟩
    | _ => cases ho'

/-- **A session begins with no relay event queued**: the answer that begins it comes behind all that
was there when the last one ended. -/
theorem relays_of_entering (hw : s.Speaks) (h : Phase s.control e) (hsettled : s.Settled)
    (ho : s.role.isOutbound = false) (ho' : (s.step m).role.isOutbound = true) :
    s.gateway.mailbox.relays = [] := by
  obtain ⟨rfl, -, call, target, device, hc, hout, hn⟩ := ending_of_entering hw h ho ho'
  obtain ⟨t, hends, -⟩ := take_of_ending hc
  obtain ⟨args, hpending⟩ := hends.get_args (by rw [hout]; decide)
  obtain ⟨n, old, new, hqueue, hold, hnew, hnewer⟩ := hsettled
  have hnumber : n < call.request.number :=
    hnewer.pending _ _ hpending (isTransition_of_last? hn)
  cases old with
  | nil =>
    unfold Mailbox.relays
    rw [hqueue]
    exact hnew
  | cons p old =>
    -- what is taken names the call, and so is not of the past
    have happly : ({ s.gateway.tracker with
        mailbox := { s.gateway.mailbox with queue := old ++ new } }.apply p).1 = some call := by
      simpa [ending?, Mailbox.take?, hqueue] using hc
    have hnamed := (Tracker.apply_settles happly).1
    exact absurd (hold p List.mem_cons_self _ hnamed) (Nat.not_le.mpr hnumber)

/-- While the station is not outbound nothing is emitted to it, and the past stays the past. -/
theorem settled_step (hw : s.Speaks) (hopen : s.gateway.mailbox.isOpen = true)
    (hemits : s.emits m = []) (h : s.Settled) : (s.step m).Settled := by
  obtain ⟨n, old, new, hqueue, hold, hnew, hnewer⟩ := h
  obtain ⟨extra, hqueue', hextra⟩ := queue_moves (m := m) hopen
  rw [hqueue] at hqueue'
  have hnewer' := newer_step (m := m) hw hnewer
  by_cases hm : m = .take
  · rw [if_pos hm] at hqueue'
    cases old with
    | nil =>
      refine ⟨n, [], new.tail ++ extra, hqueue', nofun, ?_, hnewer'⟩
      have htail : new.tail.filterMap Post.relay? = [] :=
        List.filterMap_eq_nil_iff.mpr fun p hp =>
          List.filterMap_eq_nil_iff.mp hnew p (List.mem_of_mem_tail hp)
      rw [List.filterMap_append, htail, hextra, hemits]
      rfl
    | cons p old =>
      refine ⟨n, old, new ++ extra, ?_, fun q hq => hold q (List.mem_cons_of_mem p hq), ?_, hnewer'⟩
      · rw [hqueue', List.cons_append, List.tail_cons, List.append_assoc]
      · rw [List.filterMap_append, hnew, hextra, hemits]
        rfl
  · rw [if_neg hm] at hqueue'
    refine ⟨n, old, new ++ extra, by rw [hqueue', List.append_assoc], hold, ?_, hnewer'⟩
    rw [List.filterMap_append, hnew, hextra, hemits]
    rfl

/-- When a session ends, everything that is queued is of the past. -/
theorem settled_of_leaving (hw : s.Speaks) (h : Phase s.control e)
    (hdated : (s.step m).gateway.tracker.Dated)
    (hcredible : ∀ p ∈ (s.step m).gateway.mailbox.queue,
      p.Credible (s.step m).gateway.tracker.issued)
    (hr : (s.step m).role ≠ s.role) : (s.step m).Settled := by
  have hphase := phase_step m hw h
  have hclosed : errandAfter e s m = none := by
    cases he : errandAfter e s m with
    | none => rfl
    | some e' => exact absurd (role_of_open hw h he) hr
  rw [hclosed] at hphase
  have hquiet : (s.step m).control.Quiet [] := by
    cases hphase with
    | idle _ _ hq => exact hq
    | announced _ _ _ hq => exact hq
  refine ⟨(s.step m).gateway.tracker.issued, (s.step m).gateway.mailbox.queue, [],
    (List.append_nil _).symm, fun p hp => ?_, rfl, Nat.le_refl _, fun k x hx ht => ?_⟩
  · refine (hdated.mailbox.queue p hp).past ?_
    rintro r rfl
    exact hcredible _ hp
  · rw [hquiet.1 k x List.not_mem_nil hx] at ht
    cases ht

/-! ### Which moves change the keys -/

theorem relayedKeys_unwatch (s : Station) : s.unwatch.relayedKeys = s.relayedKeys := by
  unfold unwatch
  split <;> rfl

theorem relayedKeys_beginSession (s : Station) (p : NetworkId) :
    (s.beginSession p).relayedKeys = s.relayedKeys := by
  have hwatch (s : Station) : (s.watch p).relayedKeys = s.relayedKeys := by
    unfold watch
    split <;> rfl
  exact (hwatch _).trans s.relayedKeys_unwatch

/-- A session begins with the keys that were held, which are none. -/
theorem relayedKeys_enterOutbound {s : Station} (hr : s.role = .free) (target : NetworkId)
    (device : DeviceId) : (s.enterOutbound target device).relayedKeys = s.relayedKeys := by
  unfold enterOutbound
  refine (relayedKeys_beginSession _ _).trans ?_
  simp [setRole, hr, Role.isOutbound, hideCursor, sendStartResult, send]

theorem relayedKeys_finishStart {s : Station} (hr : s.role = .free) (target : NetworkId)
    (device : DeviceId) : (s.finishStart target device (.ok ())).relayedKeys = s.relayedKeys := by
  simp only [finishStart]
  split
  · exact relayedKeys_enterOutbound (s := { s with guard := .idle }) hr target device
  · rename_i hd
    rw [hr] at hd
    cases hd
  · rename_i hd
    rw [hr] at hd
    cases hd

theorem relayedKeys_release (s : Station) (p : NetworkId) :
    (s.release p).relayedKeys = s.relayedKeys := by
  unfold release
  split <;> rfl

/-- What peers say changes no key, unless it ends the session. -/
theorem relayedKeys_hear (ho : s.role.isOutbound = true) (sig : PeerSignal)
    (ho' : (s.hear sig).role.isOutbound = true) : (s.hear sig).relayedKeys = s.relayedKeys := by
  have hended {c : Control} {ns : List Notice} {ds : List Dispatch}
      (h : Does s (s.hear sig) c.ended ns ds) : False := by
    have hfree : (s.hear sig).role = .free :=
      (congrArg Control.role h.control).trans (Control.role_ended c)
    rw [hfree] at ho'
    cases ho'
  cases sig with
  | startRequest p =>
    show (s.hearStartRequest p).relayedKeys = _
    unfold hearStartRequest
    repeat' split
    all_goals rfl
  | stopRequest p =>
    show (s.hearStopRequest p).relayedKeys = _
    unfold hearStopRequest
    repeat' split
    all_goals rfl
  | relayAnnounce p =>
    show (s.hearRelay p).relayedKeys = _
    unfold hearRelay
    rw [if_pos ho]
    exact (relayedKeys_beginSession _ p).trans (relayedKeys_unwatch _)
  | startResult p success dhid l =>
    by_cases hheard : (s.announcer = some p ∨ s.guard = .idle) ∧
        (s.announcer = some p ∨ s.participates p = true)
    · cases success with
      | true => exact (hended (does_getsBack hheard.1 hheard.2 ho dhid l)).elim
      | false =>
        rw [hearStartResult_eq hheard.1 hheard.2]
        exact s.relayedKeys_release p
    · rw [hearStartResult_of_unheard hheard]
  | stopResult p success =>
    by_cases hg : s.announcer = some p ∨ s.guard = .idle
    · by_cases hp : s.participates p = true
      · cases success with
        | true => exact (hended (does_isLeft hg hp)).elim
        | false =>
          rw [hearStopResult_eq hg, if_pos hp]
          exact s.relayedKeys_release p
      · rw [hearStopResult_eq hg, if_neg hp]
        exact s.relayedKeys_release p
    · rw [hearStopResult_of_unheard fun h => hg (h.imp_right And.left)]

theorem hears_of_ending {call : Resolved Continuation} (hc : s.ending? = some call) :
    s.hears .take = [] := by
  unfold ending? Mailbox.take? at hc
  unfold hears
  cases hq : s.gateway.mailbox.queue with
  | nil => rfl
  | cons p ps =>
    rw [hq] at hc
    cases p with
    | relay event => cases hc
    | _ => rfl

theorem relayedKeys_receive (hs : s.gateway.subscribed = true) (ho : s.role.isOutbound = true)
    {p : Post} (hp : (s.gateway.tracker.apply p).1 = none) :
    (s.receive p).relayedKeys = p.relay?.toList.foldl keysAfter s.relayedKeys := by
  by_cases hrelay : ∃ event, p = .relay event
  · obtain ⟨event, rfl⟩ := hrelay
    have he : s.receive (.relay event) = s.relayEvent event := by
      simp [receive, Gateway.receive, hs]
    rw [he]
    exact relayedKeys_relayEvent ho event
  · have hnone : p.relay? = none := by
      cases p with
      | relay event => exact absurd ⟨event, rfl⟩ hrelay
      | _ => rfl
    rw [s.receive_eq fun event he => hrelay ⟨event, he⟩, hnone]
    generalize s.gateway.tracker.apply p = r at hp
    obtain ⟨o, t⟩ := r
    obtain rfl : o = none := hp
    rfl

/-- Within a session, the keys change with the relay events that come out of the mailbox, and with
nothing else. -/
theorem relayedKeys_step (ht : s.Tuned) (ho : s.role.isOutbound = true)
    (hr : (s.step m).role = s.role) :
    (s.step m).relayedKeys = (s.hears m).foldl keysAfter s.relayedKeys := by
  have ho' : (s.step m).role.isOutbound = true := by rw [hr, ho]
  cases m with
  | event event =>
    show (s.step (.event event)).holding.relayedKeys = s.holding.relayedKeys
    cases event with
    | request r => exact congrArg Holding.relayedKeys (s.holding_serve r)
    | deviceOffline id => exact congrArg Holding.relayedKeys (holding_peerOffline hr)
    | keyboardOnline dhid => exact congrArg Holding.relayedKeys (s.holding_keyboardOnline dhid)
    | signal sig => exact relayedKeys_hear ho sig ho'
    | switchChanged id on => exact congrArg Holding.relayedKeys (s.holding_switchChanged id on)
    | shutdown => rfl
  | change =>
    show s.nextChange.2.relayedKeys = s.relayedKeys
    unfold nextChange
    split
    · rfl
    · exact congrArg Holding.relayedKeys (holding_switchChanged _ _ _)
  | happen happening =>
    refine (congrArg Holding.relayedKeys (s.holding_meet happening)).trans ?_
    unfold Holding.after
    split <;> rfl
  | take =>
    cases hc : s.ending? with
    | some call =>
      obtain ⟨t, -, hstep⟩ := take_of_ending hc
      rw [hears_of_ending hc, hstep]
      rw [hstep] at hr
      refine congrArg Holding.relayedKeys (holding_resume (s := s.setTracker t) (fun _ _ => ?_) hr)
      show s.role.isFree = false
      obtain ⟨d, hd⟩ := Role.isOutbound_iff.mp ho
      rw [hd]
      rfl
    | none =>
      cases hq : s.gateway.mailbox.queue with
      | nil => simp [step_take_of_empty hq, hears, hq]
      | cons p ps =>
        have happly : ({ s.gateway.tracker with
            mailbox := { s.gateway.mailbox with queue := ps } }.apply p).1 = none := by
          simpa [ending?, Mailbox.take?, hq] using hc
        rw [step_take_of_cons hq, hears, hq]
        exact relayedKeys_receive (s := s.setMailbox { s.gateway.mailbox with queue := ps })
          (ht.subscribed.trans ho) ho happly

/-! ### A whole run -/

/-- An outbound station keeps its role until it ends. -/
theorem role_of_staying (hw : s.Speaks) (h : Phase s.control e) (ho : s.role.isOutbound = true)
    (ho' : (s.step m).role.isOutbound = true) : (s.step m).role = s.role := by
  obtain ⟨c, ns, ds, ht, hs⟩ := s.turns m hw
  have hrole : (s.step m).role = c.role := congrArg Control.role hs.control
  rw [hrole] at ho' ⊢
  rcases roleChange_turn ht h with hsame | hchange
  · exact hsame
  · obtain ⟨d, hd⟩ := Role.isOutbound_iff.mp ho'
    rw [hd] at hchange
    rw [hchange.free_of_outbound] at ho
    cases ho

end Station

/-- What a bookkeeper notes of relay events. -/
structure Overheard where
  emitted : List RelayEvent
  handled : List RelayEvent
  deriving DecidableEq, Repr

namespace Station

variable {s : Station} {m : Move} {n : Overheard}

/-- The bookkeeper notes what is emitted to the station and what comes out of its mailbox, and
starts anew when it becomes outbound. -/
def overheard (n : Overheard) (s : Station) (m : Move) : Overheard :=
  if s.role.isOutbound = false ∧ (s.step m).role.isOutbound = true then ⟨[], []⟩
  else ⟨n.emitted ++ s.emits m, n.handled ++ s.hears m⟩

/-- The listener calls go on to work, and only calls that were made are answered. -/
def Faithful (s : Station) (m : Move) : Prop :=
  m.keepsListener = true ∧
    ∀ p ∈ (s.step m).gateway.mailbox.queue, p.Credible (s.step m).gateway.tracker.issued

instance (s : Station) (m : Move) : Decidable (s.Faithful m) := inferInstanceAs (Decidable (_ ∧ _))

/-- While outbound, the keys held are those of the events handled, and what is not handled yet is
queued; otherwise what is queued is of the past. -/
structure Overhears (s : Station) (n : Overheard) : Prop where
  speaks : s.Speaks
  phase : ∃ e, Phase s.control e
  dated : s.gateway.tracker.Dated
  timed : s.gateway.tracker.Timed
  tuned : s.Tuned
  outbound : s.role.isOutbound = true →
    Held s.relayedKeys n.handled ∧ n.handled ++ s.gateway.mailbox.relays = n.emitted
  settled : s.role.isOutbound = false → s.Settled

theorem overheard_of_entering (ho : s.role.isOutbound = false)
    (ho' : (s.step m).role.isOutbound = true) : overheard n s m = ⟨[], []⟩ := if_pos ⟨ho, ho'⟩

theorem overheard_of_outbound (ho : s.role.isOutbound = true) :
    overheard n s m = ⟨n.emitted ++ s.emits m, n.handled ++ s.hears m⟩ :=
  if_neg fun h => Bool.false_ne_true (h.1.symm.trans ho)

/-- A session begins with no key held and no relay event queued. -/
theorem Overhears.entering (h : s.Overhears n) (ho : s.role.isOutbound = false)
    (ho' : (s.step m).role.isOutbound = true) :
    (s.step m).relayedKeys = [] ∧ (s.step m).gateway.mailbox.relays = [] := by
  obtain ⟨e, hphase⟩ := h.phase
  have hrelays := relays_of_entering h.speaks hphase (h.settled ho) ho ho'
  obtain ⟨rfl, hrole, call, target, device, hc, hout, hn⟩ :=
    ending_of_entering h.speaks hphase ho ho'
  have hflow := relays_step (m := .take) h.timed.isOpen
  rw [hears_of_ending hc, hrelays] at hflow
  obtain ⟨t, -, hstep⟩ := take_of_last hc hn (by rw [hout]; rfl)
  rw [hstep] at hflow ⊢
  have hkeys := relayedKeys_finishStart (s := s.setTracker t) hrole target device
  exact ⟨hkeys.trans (h.tuned.keys ho), hflow⟩

theorem overhears_step (hm : s.Faithful m) (h : s.Overhears n) :
    (s.step m).Overhears (overheard n s m) := by
  obtain ⟨e, hphase⟩ := h.phase
  have hdated := dated_step m h.dated
  refine ⟨speaks_step m h.speaks, ⟨_, phase_step m h.speaks hphase⟩, hdated,
    timed_step m h.timed, tuned_step hm.1 h.tuned, fun ho' => ?_, fun ho' => ?_⟩
  · cases ho : s.role.isOutbound with
    | false =>
      obtain ⟨hkeys, hrelays⟩ := h.entering ho ho'
      rw [overheard_of_entering ho ho', hkeys, hrelays]
      exact ⟨held_nil, rfl⟩
    | true =>
      obtain ⟨hheld, hflow⟩ := h.outbound ho
      have hrole := role_of_staying h.speaks hphase ho ho'
      rw [overheard_of_outbound ho, relayedKeys_step h.tuned ho hrole]
      refine ⟨hheld.foldl _, ?_⟩
      rw [List.append_assoc, relays_step h.timed.isOpen, ← List.append_assoc, hflow]
  · cases ho : s.role.isOutbound with
    | false =>
      have hlistener : s.gateway.service.hasListener = false := h.tuned.hasListener.trans ho
      have hemits : s.emits m = [] := by
        unfold emits
        split
        · rw [hlistener]
          rfl
        · rfl
      exact settled_step h.speaks h.timed.isOpen hemits (h.settled ho)
    | true =>
      refine settled_of_leaving h.speaks hphase hdated hm.2 fun hr => ?_
      rw [hr, ho] at ho'
      cases ho'

theorem overhears_run (ms : List Move) : ∀ {s : Station} {n : Overheard},
    Along step Faithful s ms → s.Overhears n → (s.run ms).Overhears (track overheard n s ms) := by
  induction ms with
  | nil => exact fun _ h => h
  | cons m ms ih => exact fun hms h => ih hms.2 (overhears_step hms.1 h)

theorem overhears_create (settings : Settings) (registry : Registry) :
    (create settings registry).Overhears ⟨[], []⟩ where
  speaks := speaks_create settings registry
  phase := ⟨_, phase_run settings registry []⟩
  dated := dated_run settings registry []
  timed := timed_run settings registry []
  tuned := tuned_create settings registry
  outbound := nofun
  settled _ := ⟨0, [], [], rfl, nofun, rfl, Nat.le_refl _, fun k x hx => by
    have hnone : (create settings registry).control.calls.get k = none := by cases k <;> rfl
    rw [hnone] at hx
    cases hx⟩

/-- **The keys of a session are its own.** In every run in which the listener calls work and only
calls that were made are answered: while the station is outbound its view shows, in order and each
once, just the keys whose last stroke was down among the relay events it has handled since it became
outbound; and these are, in order and with those that are still queued, the ones that were emitted
since, so none that was emitted before is ever among them. Otherwise the view shows no key. -/
theorem keys_of_the_session (settings : Settings) (registry : Registry) (ms : List Move)
    (h : Along step Faithful (create settings registry) ms) :
    let s := (create settings registry).run ms
    let n := track overheard ⟨[], []⟩ (create settings registry) ms
    (s.role.isOutbound = true →
      s.view.relayedKeys.Pairwise (· < ·) ∧
      (∀ code, code ∈ s.view.relayedKeys ↔
        ∃ e, lastStroke? n.handled code = some e ∧ e.value = 1) ∧
      n.handled ++ s.gateway.mailbox.relays = n.emitted) ∧
    (s.role.isOutbound = false → s.view.relayedKeys = []) := by
  intro s n
  have hrun : s.Overhears n := overhears_run ms h (overhears_create settings registry)
  refine ⟨fun ho => ?_, hrun.tuned.keys⟩
  obtain ⟨hheld, hflow⟩ := hrun.outbound ho
  exact ⟨hheld.sorted, hheld.mem, hflow⟩

/-- A key goes down behind the answers that end the session. It is still queued when the pointer is
shared again, and comes out before the new session begins; the key that goes down then is the only
one that is held. -/
theorem old_key_not_held :
    let key (code : UInt32) : Move := .happen (.relay ⟨.keyboard, code, 1⟩)
    let ms := [.event (.request (.start ⟨"b"⟩ ⟨1⟩)), .take, .take, .take,
      .event (.request .stop), key 30, .take, .take, .event (.request (.start ⟨"b"⟩ ⟨1⟩)),
      .take, .take, .take, .take, .take, key 31, .take]
    let s := (create ⟨8, 1000, 2, 1000, .center⟩ lonePointer).run ms
    Along step Faithful (create ⟨8, 1000, 2, 1000, .center⟩ lonePointer) ms ∧
      s.role.isOutbound = true ∧ ∀ code, code ∈ s.view.relayedKeys ↔ code = 31 := by
  intro key ms s
  have hfaithful : Along step Faithful (create ⟨8, 1000, 2, 1000, .center⟩ lonePointer) ms := by
    decide +kernel
  have ho : s.role.isOutbound = true := by decide +kernel
  have hnoted : (track overheard ⟨[], []⟩ (create ⟨8, 1000, 2, 1000, .center⟩ lonePointer) ms).handled =
      [⟨.keyboard, 31, 1⟩] := by decide +kernel
  obtain ⟨-, hkeys, -⟩ := (keys_of_the_session ⟨8, 1000, 2, 1000, .center⟩ lonePointer ms hfaithful).1 ho
  refine ⟨hfaithful, ho, fun code => (hkeys code).trans ?_⟩
  have hlast := lastStroke?_concat [] ⟨.keyboard, 31, 1⟩ code
  rw [List.nil_append] at hlast
  rw [hnoted, hlast]
  by_cases hc : code = 31
  · simp [hc, RelayEvent.isStroke]
  · simp [hc, Ne.symm hc, lastStroke?]

end Station
end PointerShare
