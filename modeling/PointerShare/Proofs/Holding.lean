/-
# What a station holds while an errand is open

From the move that accepts a start or stop to the one that ends it, other
requests, signals and events go on to be handled. They find the guard busy, and
no peer made it so. Hence of what the station holds for its session none of them
changes anything: not the role, not the peer or whose switch is listened to, not
the subscription to relay events, and not the cursor. What is left are the keys of a relayed
keyboard, a relay announcement to an outbound station, and the end of the
session when its other end is gone.

An errand that fails leaves it all too, for only its success changes the role.
So as long as the role stays, what is held at the end of an errand is what was
held when it was accepted, but for what was done to it from outside
(`Station.holding_run`).

Key definitions: `Holding`, `Holding.after`, `Station.Engaged`.
Key theorems: `Station.holding_step`, `Station.holding_run`,
`Station.along_until`.
-/
import PointerShare.Proofs.Outsiders
import PointerShare.Proofs.Session
import PointerShare.Proofs.Underway

namespace PointerShare

/-- What a station holds for its session. -/
structure Holding where
  role : Role
  sessionPeer : Option NetworkId
  watched : Option NetworkId
  /-- Whose switch somebody listens to. -/
  listeners : List (NetworkId × Unit)
  subscribed : Bool
  hasListener : Bool
  relayedKeys : List UInt32
  cursor : Cursor

namespace Holding

/-- What is held after a move that does no more to it than the outside does. -/
def after (h : Holding) : Move → Holding
  | .happen (.cursor c) => { h with cursor := c }
  | .happen (.crossing c) => { h with listeners := c.listeners }
  | _ => h

/-- What is held but for the keys. -/
def keyless (h : Holding) : Holding := { h with relayedKeys := [] }

theorem keyless_after (h : Holding) (m : Move) : (h.after m).keyless = h.keyless.after m := by
  unfold after
  split <;> rfl

/-- The outside moves the cursor and replaces the listeners, and does no more to it. -/
theorem foldl_after (ms : List Move) (h : Holding) :
    ∃ cursor listeners, ms.foldl after h = { h with cursor := cursor, listeners := listeners } := by
  induction ms generalizing h with
  | nil => exact ⟨h.cursor, h.listeners, rfl⟩
  | cons m ms ih =>
    obtain ⟨c, l, hrest⟩ := ih (h.after m)
    rw [List.foldl_cons, hrest]
    unfold after
    split
    · exact ⟨c, l, rfl⟩
    · exact ⟨c, l, rfl⟩
    · exact ⟨c, l, rfl⟩

theorem after_of_ne (h : Holding) {m : Move} (hm : ∀ x, m ≠ .happen x) : h.after m = h := by
  unfold after
  split
  · exact absurd rfl (hm _)
  · exact absurd rfl (hm _)
  · rfl

end Holding

namespace Station

def holding (s : Station) : Holding where
  role := s.role
  sessionPeer := s.sessionPeer
  watched := s.watched
  listeners := s.crossing.listeners
  subscribed := s.gateway.subscribed
  hasListener := s.gateway.service.hasListener
  relayedKeys := s.relayedKeys
  cursor := s.cursor

/-! ### Operations that change nothing of it -/

theorem holding_issue (s : Station) (k : CallKind) (args : CallArgs) (next : Continuation) :
    { s with gateway := (s.gateway.issue k args next).2 }.holding = s.holding := by
  have hservice : (s.gateway.issue k args next).2.service =
      s.gateway.service.take ⟨k, ⟨s.gateway.tracker.issued + 1⟩, args⟩ := rfl
  have hsub : (s.gateway.issue k args next).2.subscribed = s.gateway.subscribed := rfl
  unfold holding
  rw [hservice, hsub]
  unfold InputService.take
  split <;> rfl

theorem holding_startShared (s : Station) (plan : StartPlan) :
    (s.startShared plan).holding = s.holding := by
  unfold startShared
  dsimp only
  split
  · rfl
  · exact s.holding_issue _ _ _

theorem holding_prepareAndStart (s : Station) (plan : StartPlan) :
    (s.prepareAndStart plan).holding = s.holding := by
  unfold prepareAndStart
  split
  · exact s.holding_startShared plan
  · exact s.holding_issue _ _ _

theorem holding_start (s : Station) (target : NetworkId) (device : DeviceId) :
    (s.start target device).2.holding = s.holding := by
  unfold start
  split
  · rfl
  · rename_i route _
    cases route with
    | share plan => exact holding_prepareAndStart _ plan
    | relay plan => exact holding_prepareAndStart _ plan
    | comeBack plan => exact holding_issue _ _ _ _

theorem holding_stop (s : Station) : s.stop.2.holding = s.holding := by
  unfold stop
  split
  · rfl
  · exact holding_issue _ _ _ _

theorem holding_enable (s : Station) (on : Bool) : (s.enable on).2.holding = s.holding := by
  have hstop (b : Bool) (t : Station) : (if b then t.stop.2 else t).holding = t.holding := by
    cases b with
    | true => exact t.holding_stop
    | false => rfl
  unfold enable
  split
  · rfl
  · rename_i crossing hu
    obtain ⟨states, rfl⟩ := CrossingSwitch.update_eq hu
    exact hstop _ _

theorem holding_judge (s : Station) (e : PointerEvent) : (s.judge e).2.holding = s.holding := by
  unfold judge
  split
  · rfl
  split
  · rfl
  split
  · exact s.holding_stop
  · rfl

theorem holding_switchChanged (s : Station) (id : NetworkId) (on : Bool) :
    (s.switchChanged id on).holding = s.holding := by
  unfold switchChanged
  split
  · exact s.holding_stop
  · rfl

theorem holding_keyboardOnline (s : Station) (dhid : Dhid) :
    (s.keyboardOnline dhid).holding = s.holding := by
  unfold keyboardOnline
  split
  · split
    · split
      · exact s.holding_issue _ _ _
      · rfl
    · exact s.holding_issue _ _ _
  · rfl

theorem holding_serve (s : Station) (r : Request) : (s.serve r).2.holding = s.holding := by
  cases r with
  | enable on => exact s.holding_enable on
  | start target device => exact s.holding_start target device
  | stop => exact s.holding_stop
  | judge e => exact s.holding_judge e
  | _ => rfl

/-- What happens around a station changes the cursor and the listeners, if anything of it. -/
theorem holding_meet (s : Station) (h : Happening) :
    (s.meet h).holding = s.holding.after (.happen h) := by
  cases h with
  | flip id on =>
    show (s.flip id on).holding = s.holding
    unfold flip
    dsimp only
    split <;> rfl
  | relay e =>
    show { s with gateway := (s.gateway.emitRelay e).2 }.holding = s.holding
    unfold Gateway.emitRelay
    split <;> rfl
  | _ => rfl

/-! ### The end of a call -/

/-- The end of a start leaves what is held if it leaves the role. -/
theorem holding_finishStart {s : Station} {target : NetworkId} {device : DeviceId}
    {result : Except Reason Unit} (hrole : (s.finishStart target device result).role = s.role) :
    (s.finishStart target device result).holding = s.holding := by
  cases result with
  | error reason => rfl
  | ok _ =>
    cases hr : s.role with
    | free =>
      have hc := (s.does_finishStart_free target device hr).control
      have hout := (congrArg Control.role hc).symm.trans (hrole.trans hr)
      cases hout
    | inbound shared =>
      have hc := (s.does_finishStart_inbound target device hr).control
      have hfree := (congrArg Control.role hc).symm.trans (hrole.trans hr)
      cases hfree
    | outbound shared =>
      simp only [finishStart]
      split
      · rename_i hf
        rw [hr] at hf
        cases hf
      · rename_i hi
        rw [hr] at hi
        cases hi
      · rfl

/-- The end of a session's stop leaves what is held if it leaves the role. -/
theorem holding_finishStop {s : Station} {peer : NetworkId} {result : Except Reason Unit}
    (hs : s.role.isFree = false) (hrole : (s.finishStop peer result).role = s.role) :
    (s.finishStop peer result).holding = s.holding := by
  cases result with
  | error reason => rfl
  | ok _ =>
    have hc := (s.does_finishStop peer).control
    have hfree : s.role = .free :=
      hrole.symm.trans ((congrArg Control.role hc).trans (Control.role_ended _))
    rw [hfree] at hs
    cases hs

theorem holding_afterPrepare (s : Station) (plan : StartPlan) (result : Except Reason Unit) :
    (s.afterPrepare plan result).holding = s.holding := by
  cases result with
  | ok _ => exact holding_startShared _ plan
  | error reason => rfl

theorem holding_afterStart {s : Station} {plan : StartPlan} {result : Except Reason Unit}
    (hrole : (s.afterStart plan result).role = s.role) :
    (s.afterStart plan result).holding = s.holding := by
  cases result with
  | ok _ =>
    simp only [afterStart] at hrole ⊢
    split
    · exact s.holding_issue _ _ _
    · rename_i hr
      rw [if_neg hr] at hrole
      exact holding_finishStart hrole
  | error reason => exact holding_finishStart hrole

theorem holding_afterOriginStop {s : Station} {plan : StartPlan} {result : Except Reason Unit}
    (hrole : (s.afterOriginStop plan result).role = s.role) :
    (s.afterOriginStop plan result).holding = s.holding := by
  cases result with
  | ok _ => exact holding_finishStart hrole
  | error reason => exact s.holding_issue _ _ _

/-- What is held stays when a call ends, if the role stays. -/
theorem holding_resume {s : Station} {call : Resolved Continuation}
    (hs : ∀ peer, call.completion = .stopped peer → s.role.isFree = false)
    (hrole : (s.resume call).role = s.role) : (s.resume call).holding = s.holding := by
  obtain ⟨kind, request, outcome, completion⟩ := call
  cases completion with
  | prepared plan => exact s.holding_afterPrepare plan _
  | started plan => exact holding_afterStart hrole
  | originStopped plan => exact holding_afterOriginStop hrole
  | cameBack target device => exact holding_finishStart hrole
  | stopped peer => exact holding_finishStop (hs peer rfl) hrole
  | _ => rfl

/-! ### An errand that is open -/

theorem guard_of_begins {s : Station} {m : Move} {e : Errand} (h : s.begins m = some e) :
    s.guard = .idle := by
  unfold begins at h
  split at h
  · obtain ⟨route, hroute, -⟩ := Option.map_eq_some_iff.mp h
    rename_i target device
    cases hp : s.planStart target device with
    | error _ =>
      rw [hp] at hroute
      cases hroute
    | ok _ => exact guard_of_planStart hp
  · obtain ⟨r, hr, -⟩ := Option.map_eq_some_iff.mp h
    exact guard_of_planStop (planStop_of_stopRoute? hr)

theorem begins_of_busy {s : Station} (hb : s.guard.isBusy = true) (m : Move) : s.begins m = none := by
  cases h : s.begins m with
  | none => rfl
  | some e =>
    rw [guard_of_begins h] at hb
    cases hb

/-- The errand `e` is open, or the move begins it. -/
structure Engaged (e : Errand) (s : Station) (m : Move) : Prop where
  speaks : s.Speaks
  errand : ∃ e₀, Phase s.control e₀ ∧ (s.begins m).or e₀ = some e

namespace Engaged

variable {e : Errand} {s : Station} {m : Move}

theorem of_open (hw : s.Speaks) (h : Phase s.control (some e)) (m : Move) : Engaged e s m := by
  refine ⟨hw, some e, h, ?_⟩
  rw [begins_of_busy h.isBusy, Option.none_or]

theorem of_begins (hw : s.Speaks) {e₀ : Option Errand} (h : Phase s.control e₀)
    (hb : s.begins m = some e) : Engaged e s m :=
  ⟨hw, e₀, h, by rw [hb, Option.some_or]⟩

variable (h : Engaged e s m)
include h

theorem begins_or_open : s.begins m = some e ∨ s.begins m = none ∧ Phase s.control (some e) := by
  obtain ⟨-, e₀, h, he⟩ := h
  cases hb : s.begins m with
  | some b =>
    rw [hb, Option.some_or] at he
    exact .inl he
  | none =>
    rw [hb, Option.none_or] at he
    exact .inr ⟨rfl, he ▸ h⟩

theorem role : e.role = s.role := by
  rcases h.begins_or_open with hb | ⟨-, hopen⟩
  · exact role_of_begins hb
  · exact hopen.role.symm

/-- An errand that a move leaves open is open at the next one. -/
theorem step (hb : (s.step m).guard.isBusy = true) :
    Phase (s.step m).control (some e) ∧ (s.step m).role = s.role := by
  obtain ⟨hw, e₀, hphase, he⟩ := h
  have hafter : errandAfter e₀ s m = some e := by
    rw [errandAfter, if_pos hb, he]
  refine ⟨?_, role_of_open hw hphase hafter⟩
  rw [← hafter]
  exact phase_step m hw hphase

theorem next (hb : (s.step m).guard.isBusy = true) (m' : Move) : Engaged e (s.step m) m' :=
  .of_open (speaks_step m h.speaks) (h.step hb).1 m'

end Engaged

/-! ### What a move leaves -/

section step

variable {e : Errand} {s : Station} {m : Move}

/-- Of all that is said, an open errand lets only a relay announcement be heard. -/
theorem holding_hear (h : Phase s.control (some e)) (sig : PeerSignal)
    (hrelay : s.role.isOutbound = true → ∀ p, sig ≠ .relayAnnounce p) :
    (s.hear sig).holding = s.holding := by
  have hb : s.guard.isBusy = true := h.isBusy
  cases hs : sig.sender? with
  | some p =>
    have ha : s.announcer ≠ some p := by
      rw [show s.announcer = none from h.announcer]
      exact nofun
    rw [hear_of_busy hb ha hs]
  | none =>
    cases sig with
    | relayAnnounce p =>
      have ho : ¬s.role.isOutbound = true := fun ho => hrelay ho p rfl
      show (s.hearRelay p).holding = s.holding
      unfold hearRelay
      rw [if_neg ho]
    | _ => cases hs

/-- A station that leaves and takes no part in the session takes nothing away that is held. -/
theorem holding_peerOffline {id : NetworkId} (hrole : (s.peerOffline id).role = s.role) :
    (s.peerOffline id).holding = s.holding := by
  unfold peerOffline at hrole ⊢
  by_cases hp : s.participates id = true
  · rw [if_pos hp] at hrole
    have hfree : s.role = .free :=
      hrole.symm.trans (congrArg Control.role (s.does_resetSession id).control)
    rw [participates_of_free hfree] at hp
    cases hp
  · rw [if_neg hp]
    dsimp only
    split <;> split <;> rfl

/-- A relay event changes the keys at most, and those of an outbound station only. -/
theorem holding_relayEvent (s : Station) (event : RelayEvent) :
    (s.relayEvent event).holding = s.holding ∨
      s.role.isOutbound = true ∧ (s.relayEvent event).holding.keyless = s.holding.keyless := by
  unfold relayEvent
  split
  · rename_i ho
    refine .inr ⟨(Bool.and_eq_true_iff.mp ho).1, ?_⟩
    repeat' split
    all_goals rfl
  · exact .inl rfl

theorem holding_receive {p : Post} (hp : (s.gateway.tracker.apply p).1 = none) :
    (s.receive p).holding = s.holding ∨
      s.role.isOutbound = true ∧ (s.receive p).holding.keyless = s.holding.keyless := by
  by_cases hrelay : ∃ event, p = .relay event
  · obtain ⟨event, rfl⟩ := hrelay
    cases hs : s.gateway.subscribed with
    | true =>
      have he : s.receive (.relay event) = s.relayEvent event := by
        simp [receive, Gateway.receive, hs]
      rw [he]
      exact s.holding_relayEvent event
    | false =>
      have he : s.receive (.relay event) = s := by simp [receive, Gateway.receive, hs]
      rw [he]
      exact .inl rfl
  · rw [s.receive_eq fun event he => hrelay ⟨event, he⟩]
    generalize s.gateway.tracker.apply p = r at hp
    obtain ⟨o, t⟩ := r
    obtain rfl : o = none := hp
    exact .inl rfl

theorem holding_take (h : Phase s.control (some e)) (hrole : (s.step .take).role = s.role) :
    (s.step .take).holding = s.holding ∨
      s.role.isOutbound = true ∧ (s.step .take).holding.keyless = s.holding.keyless := by
  cases hc : s.ending? with
  | some call =>
    obtain ⟨t, he, hstep⟩ := take_of_ending hc
    rw [hstep] at hrole ⊢
    refine .inl (holding_resume (s := s.setTracker t) (fun peer hn => ?_) hrole)
    obtain ⟨role, -, hbusy, hb⟩ := h.ends_stopped he hn
    rw [show (s.setTracker t).role = role from hb.role]
    exact hbusy
  | none =>
    cases hq : s.gateway.mailbox.queue with
    | nil => exact .inl (by rw [step_take_of_empty hq])
    | cons post posts =>
      simp only [ending?, Mailbox.take?, hq] at hc
      rw [step_take_of_cons hq]
      exact holding_receive (s := s.setMailbox { s.gateway.mailbox with queue := posts }) hc

/-- **A move leaves what is held** while an errand is open, or begins with it, if it leaves the
role: but for what the outside does, and for the keys of an outbound station. -/
theorem holding_step (h : Engaged e s m) (hrole : (s.step m).role = s.role)
    (hrelay : s.role.isOutbound = true → ∀ p, m ≠ .event (.signal (.relayAnnounce p))) :
    (s.step m).holding = s.holding.after m ∨
      s.role.isOutbound = true ∧ (s.step m).holding.keyless = (s.holding.after m).keyless := by
  have hopen (hb : s.begins m = none) : Phase s.control (some e) := by
    rcases h.begins_or_open with hb' | ⟨-, h⟩
    · rw [hb] at hb'
      cases hb'
    · exact h
  cases m with
  | event event =>
    rw [Holding.after_of_ne _ (by simp)]
    refine .inl ?_
    cases event with
    | request r => exact s.holding_serve r
    | deviceOffline id => exact holding_peerOffline hrole
    | keyboardOnline dhid => exact s.holding_keyboardOnline dhid
    | signal sig =>
      exact holding_hear (hopen rfl) sig fun ho p hp => hrelay ho p (by rw [hp])
    | switchChanged id on => exact s.holding_switchChanged id on
    | shutdown => rfl
  | take =>
    rw [Holding.after_of_ne _ (by simp)]
    exact holding_take (hopen rfl) hrole
  | change =>
    rw [Holding.after_of_ne _ (by simp)]
    show s.nextChange.2.holding = s.holding ∨ _
    unfold nextChange
    split
    · exact .inl rfl
    · exact .inl (holding_switchChanged _ _ _)
  | happen happening => exact .inl (s.holding_meet happening)

end step

/-! ### Runs -/

section run

variable {e : Errand} {s : Station} {m : Move} {ms : List Move}

/-- As long as the guard is busy, it is so with the errand that is open. -/
theorem along_engaged (h : Engaged e s m)
    (hbusy : Along step (fun s _ => s.guard.isBusy = true) (s.step m) ms) :
    Along step (Engaged e) s (m :: ms) := by
  refine ⟨h, ?_⟩
  induction ms generalizing s m with
  | nil => trivial
  | cons m' ms ih =>
    have hnext := h.next hbusy.1 m'
    exact ⟨hnext, ih hnext hbusy.2⟩

theorem engaged_at {mid tail : List Move} {last : Move} (h : Engaged e s m)
    (hbusy : Along step (fun s _ => s.guard.isBusy = true) (s.step m) ms)
    (hms : m :: ms = mid ++ last :: tail) : Engaged e (s.run mid) last := by
  have hall := along_engaged h hbusy
  rw [hms] at hall
  exact (along_append.mp hall).2.1

/-- The move after which the guard is idle is the last one, and those before it leave the errand
open. -/
theorem along_until {mid tail : List Move} {last : Move} (h : Engaged e s m)
    (hbusy : Along step (fun s _ => s.guard.isBusy = true) (s.step m) ms)
    (hms : m :: ms = mid ++ last :: tail) (hidle : ((s.run mid).step last).guard = .idle) :
    tail = [] ∧ Engaged e (s.run mid) last ∧
      Along step (fun s m => Engaged e s m ∧ (s.step m).guard.isBusy = true) s mid := by
  induction mid generalizing s m ms with
  | nil =>
    cases hms
    refine ⟨?_, h, trivial⟩
    cases tail with
    | nil => rfl
    | cons m' tail =>
      have hb : (s.step last).guard.isBusy = true := hbusy.1
      rw [show (s.step last).guard = .idle from hidle] at hb
      cases hb
  | cons b mid ih =>
    rw [List.cons_append, List.cons.injEq] at hms
    obtain ⟨rfl, rfl⟩ := hms
    cases mid with
    | nil =>
      obtain ⟨htail, hlast, -⟩ := ih (h.next hbusy.1 last) hbusy.2 rfl hidle
      exact ⟨htail, hlast, ⟨h, hbusy.1⟩, trivial⟩
    | cons b' mid =>
      obtain ⟨htail, hlast, hmid⟩ := ih (h.next hbusy.1 b') hbusy.2 rfl hidle
      exact ⟨htail, hlast, ⟨h, hbusy.1⟩, hmid⟩

/-- **What is held when an errand ends is what was held when it was accepted**, as long as no move
changed the role: but for what the outside did, and for the keys of an outbound station. -/
theorem holding_run (hms : Along step (fun s m => Engaged e s m ∧ (s.step m).role = s.role) s ms)
    (hrelay : s.role.isOutbound = true → ∀ p, .event (.signal (.relayAnnounce p)) ∉ ms) :
    (s.run ms).holding.keyless = ms.foldl Holding.after s.holding.keyless ∧
      (s.role.isOutbound = false → (s.run ms).holding = ms.foldl Holding.after s.holding) := by
  induction ms generalizing s with
  | nil => exact ⟨rfl, fun _ => rfl⟩
  | cons m ms ih =>
    obtain ⟨⟨hengaged, hrole⟩, hrest⟩ := hms
    have hm (ho : s.role.isOutbound = true) (p : NetworkId) : m ≠ .event (.signal (.relayAnnounce p)) :=
      fun he => hrelay ho p (he ▸ List.mem_cons_self)
    obtain ⟨hkeyless, hall⟩ := ih hrest fun ho p hp =>
      hrelay (hrole ▸ ho) p (List.mem_cons_of_mem _ hp)
    rw [hrole] at hall
    rw [run_cons, List.foldl_cons, List.foldl_cons]
    rcases holding_step hengaged hrole hm with hsame | ⟨hout, hsame⟩
    · rw [hsame] at hkeyless hall
      rw [Holding.keyless_after] at hkeyless
      exact ⟨hkeyless, hall⟩
    · rw [hsame, Holding.keyless_after] at hkeyless
      refine ⟨hkeyless, fun hf => ?_⟩
      rw [hout] at hf
      cases hf

/-- An errand that is closed without a change of the role leaves what was held. -/
theorem holding_closed {mid tail : List Move} {last : Move} (h : Engaged e s m)
    (hbusy : Along step (fun s _ => s.guard.isBusy = true) (s.step m) ms)
    (hms : m :: ms = mid ++ last :: tail) (hidle : ((s.run mid).step last).guard = .idle)
    (hrole : ((s.run mid).step last).role = (s.run mid).role)
    (hrelay : s.role.isOutbound = true → ∀ p, .event (.signal (.relayAnnounce p)) ∉ m :: ms) :
    s.run (m :: ms) = (s.run mid).step last ∧
      (s.run (m :: ms)).holding.keyless = (m :: ms).foldl Holding.after s.holding.keyless ∧
      (s.role.isOutbound = false →
        (s.run (m :: ms)).holding = (m :: ms).foldl Holding.after s.holding) := by
  obtain ⟨rfl, hlast, hmid⟩ := along_until h hbusy hms hidle
  have hall : Along step (fun s m => Engaged e s m ∧ (s.step m).role = s.role) s (mid ++ [last]) :=
    along_append.mpr ⟨hmid.imp fun _ _ hm => ⟨hm.1, (hm.1.step hm.2).2⟩, ⟨hlast, hrole⟩, trivial⟩
  rw [hms] at hrelay ⊢
  exact ⟨s.run_concat mid last, holding_run hall hrelay⟩

end run

end Station

end PointerShare
