/-
# Outsiders are not heard

Most of what a station hears comes from a peer that has nothing to do with
what the station does. While the station is busy, such a peer is any but the one
whose announcement made it so; in a session, any that takes no part in it; and
while the station is free and idle, nobody has a say but by asking for a start. A
signal of such a peer leaves the whole station as it was: the calls to the
remote input service, the notices, the cursor, the switches and the outbox
included. So a run is the same without the signals of outsiders.

Whether a result is heard depends on who announced a transition, and the
announcer is checked before the guard is. What makes the free and the idle case
hold is that an idle station has no announcer (`Phase.of_idle`).

Key definitions: `PeerSignal.sender?`, `Station.isDeafTo`, `Station.heeded`.
Key theorems: `Station.hear_of_isDeafTo`, `Station.run_heeded`,
`Station.outsider_changes_nothing`.
-/
import PointerShare.Proofs.Phase

namespace PointerShare

namespace PeerSignal

/-- The peer that a signal is from. A relay announcement names the new consumer only. -/
def sender? : PeerSignal → Option NetworkId
  | startRequest p => some p
  | startResult p _ _ _ => some p
  | stopRequest p => some p
  | stopResult p _ => some p
  | relayAnnounce _ => none

/-- A peer asks to share its input. -/
def asksToStart : PeerSignal → Bool
  | startRequest _ => true
  | _ => false

end PeerSignal

namespace Station

/-- The station takes no notice of `p`'s signal: it is busy, and not for `p`; or it is in a session
that `p` takes no part in; or it is free, and this is no request to start. -/
def isDeafTo (s : Station) (p : NetworkId) (sig : PeerSignal) : Bool :=
  if s.guard.isBusy then s.announcer != some p
  else if s.role.isFree then !sig.asksToStart
  else !s.participates p

section handlers

variable {s : Station} {p : NetworkId}

theorem participates_of_free (hr : s.role = .free) (p : NetworkId) : s.participates p = false := by
  unfold participates
  rw [hr]

theorem hear_of_busy (hb : s.guard.isBusy = true) (ha : s.announcer ≠ some p) {sig : PeerSignal}
    (hs : sig.sender? = some p) : s.hear sig = s := by
  have hg : s.guard ≠ .idle := fun h => by rw [h] at hb; cases hb
  cases sig with
  | startRequest q => exact if_pos hb
  | stopRequest q => exact if_pos hb
  | startResult q success dhid l =>
    obtain rfl : q = p := Option.some.inj hs
    exact hearStartResult_of_unheard (fun h => h.1.elim ha hg) success dhid l
  | stopResult q success =>
    obtain rfl : q = p := Option.some.inj hs
    exact hearStopResult_of_unheard (fun h => h.elim ha fun h' => hg h'.1) success
  | relayAnnounce q => cases hs

theorem hear_of_stranger (hb : ¬s.guard.isBusy = true) (ha : s.announcer ≠ some p)
    (hp : s.participates p = false) {sig : PeerSignal} (hs : sig.sender? = some p)
    (hr : s.role.isFree = false ∨ sig.asksToStart = false) : s.hear sig = s := by
  have hp' : ¬s.participates p = true := by simp [hp]
  cases sig with
  | startRequest q =>
    obtain rfl : q = p := Option.some.inj hs
    have hf : s.role.isFree = false := hr.resolve_right (by simp [PeerSignal.asksToStart])
    show s.hearStartRequest q = s
    unfold hearStartRequest
    rw [if_neg hb, if_pos (by simp [hf, hp])]
  | stopRequest q =>
    obtain rfl : q = p := Option.some.inj hs
    show s.hearStopRequest q = s
    unfold hearStopRequest
    rw [if_neg hb, if_pos (by simp [hp])]
  | startResult q success dhid l =>
    obtain rfl : q = p := Option.some.inj hs
    exact hearStartResult_of_unheard (fun h => h.2.elim ha hp') success dhid l
  | stopResult q success =>
    obtain rfl : q = p := Option.some.inj hs
    exact hearStopResult_of_unheard (fun h => h.elim ha fun h' => hp' h'.2) success
  | relayAnnounce q => cases hs

end handlers

/-- A station in a phase stays the same when it takes no notice of a signal. -/
theorem hear_of_isDeafTo {s : Station} {e : Option Errand} (h : Phase s.control e) {p : NetworkId}
    {sig : PeerSignal} (hs : sig.sender? = some p) (hd : s.isDeafTo p sig = true) :
    s.hear sig = s := by
  unfold isDeafTo at hd
  by_cases hb : s.guard.isBusy = true
  · rw [if_pos hb] at hd
    exact hear_of_busy hb (by simpa using hd) hs
  · rw [if_neg hb] at hd
    have hg : s.guard = .idle := Guard.isBusy_eq_false_iff.mp (by simpa using hb)
    have ha : s.announcer ≠ some p := by
      rw [show s.announcer = none from (h.of_idle hg).2.1]
      exact fun h => by cases h
    cases hr : s.role.isFree with
    | true =>
      rw [if_pos hr] at hd
      have hp := participates_of_free (Role.isFree_iff.mp hr) p
      exact hear_of_stranger hb ha hp hs (.inr (by simpa using hd))
    | false =>
      rw [hr, if_neg Bool.false_ne_true] at hd
      exact hear_of_stranger hb ha (by simpa using hd) hs (.inl hr)

/-! ### Runs without outsiders -/

/-- The move is the signal of a peer that the station takes no notice of. -/
def isIdleTalk (s : Station) : Move → Bool
  | .event (.signal sig) => sig.sender?.any fun p => s.isDeafTo p sig
  | _ => false

/-- The moves of a run without the signals of outsiders. -/
def heeded : Station → List Move → List Move
  | _, [] => []
  | s, m :: ms => if s.isIdleTalk m then s.heeded ms else m :: (s.step m).heeded ms

theorem step_of_isIdleTalk {s : Station} {e : Option Errand} (h : Phase s.control e) {m : Move}
    (hm : s.isIdleTalk m = true) : s.step m = s := by
  unfold isIdleTalk at hm
  split at hm
  · obtain ⟨p, hs, hd⟩ := (Option.any_eq_true _ _).mp hm
    exact hear_of_isDeafTo h hs hd
  · cases hm

/-- **A run is the same without the signals of outsiders.** -/
theorem run_heeded (settings : Settings) (registry : Registry) (ms : List Move) :
    (create settings registry).run ((create settings registry).heeded ms) =
      (create settings registry).run ms := by
  have hrun : ∀ (ms : List Move) (s : Station) (e : Option Errand), s.Speaks → Phase s.control e →
      s.run (s.heeded ms) = s.run ms := by
    intro ms
    induction ms with
    | nil => exact fun _ _ _ _ => rfl
    | cons m ms ih =>
      intro s e hw h
      unfold heeded
      by_cases hm : s.isIdleTalk m = true
      · rw [if_pos hm, run_cons, step_of_isIdleTalk h hm]
        exact ih s e hw h
      · rw [if_neg hm, run_cons, run_cons]
        exact ih (s.step m) _ (speaks_step m hw) (phase_step m hw h)
  exact hrun ms _ none (speaks_create settings registry) (phase_run settings registry [])

/-- **An outsider changes nothing.** The signal of a peer leaves the whole station as it was if the
station is busy, but not with what this peer announced; if it is idle in a session that the peer
takes no part in; or if it is idle and free and the signal is no request to start. However the run
goes on, it is as if nothing had been said. -/
theorem outsider_changes_nothing (settings : Settings) (registry : Registry) (before : List Move)
    (p : NetworkId) (sig : PeerSignal) (hs : sig.sender? = some p)
    (h : let s := (create settings registry).run before
      (s.guard.isBusy = true ∧ s.announcer ≠ some p) ∨
      (s.guard.isBusy = false ∧ s.role ≠ .free ∧ s.participates p = false) ∨
      (s.guard.isBusy = false ∧ s.role = .free ∧ ∀ q, sig ≠ .startRequest q)) :
    let s := (create settings registry).run before
    s.step (.event (.signal sig)) = s ∧
      ∀ after, (create settings registry).run (before ++ .event (.signal sig) :: after) =
        (create settings registry).run (before ++ after) := by
  intro s
  have hphase : Phase s.control _ := phase_run settings registry before
  have hd : s.isDeafTo p sig = true := by
    unfold isDeafTo
    rcases h with ⟨hb, ha⟩ | ⟨hb, hr, hp⟩ | ⟨hb, hr, hsig⟩
    · rw [if_pos hb]
      simpa using ha
    · rw [hb, Role.isFree_eq_false_iff.mpr hr]
      simpa using hp
    · have hask : sig.asksToStart = false := by
        cases sig <;> simp_all [PeerSignal.asksToStart]
      rw [hb, hr]
      simpa [Role.isFree] using hask
  have hstep : s.step (.event (.signal sig)) = s := hear_of_isDeafTo hphase hs hd
  refine ⟨hstep, fun after => ?_⟩
  rw [run_append, run_append, run_cons]
  exact congrArg (fun t : Station => t.run after) hstep

/-- While `b` shares its pointer with `a`, and before, nothing that `c` says changes `a`. -/
theorem third_station_changes_nothing :
    let a := create ⟨8, 1000, 2, 1000, .center⟩ ⟨⟨"a"⟩, []⟩
    let asked : List Move := [.event (.signal (.startRequest ⟨"b"⟩))]
    let shared := asked ++ [.event (.signal (.startResult ⟨"b"⟩ true ⟨"m"⟩ .center))]
    a.step (.event (.signal (.stopRequest ⟨"c"⟩))) = a ∧
      (a.run asked).step (.event (.signal (.stopResult ⟨"c"⟩ true))) = a.run asked ∧
      (a.run shared).step (.event (.signal (.startResult ⟨"c"⟩ true ⟨"m"⟩ .center))) =
        a.run shared := by
  intro a asked shared
  have hfree := outsider_changes_nothing ⟨8, 1000, 2, 1000, .center⟩ ⟨⟨"a"⟩, []⟩ [] ⟨"c"⟩
    (.stopRequest ⟨"c"⟩) rfl (.inr (.inr ⟨rfl, rfl, by simp⟩))
  have hbusy := outsider_changes_nothing ⟨8, 1000, 2, 1000, .center⟩ ⟨⟨"a"⟩, []⟩ asked ⟨"c"⟩
    (.stopResult ⟨"c"⟩ true) rfl (.inl (by decide +kernel))
  have hsession := outsider_changes_nothing ⟨8, 1000, 2, 1000, .center⟩ ⟨⟨"a"⟩, []⟩ shared ⟨"c"⟩
    (.startResult ⟨"c"⟩ true ⟨"m"⟩ .center) rfl (.inr (.inl (by decide +kernel)))
  exact ⟨hfree.1, hbusy.1, hsession.1⟩

end Station

end PointerShare
