/-
# Two stations with a wire in between

A `Pair` is two stations, and what is under way to each of them: what one of
them tells the other is heard in order, once, and at any later time. A run
interleaves the moves of both with what they hear.

Every run of plain moves is a run of a `Meeting` (`Linked.step`), so what is kept
by all that can happen between two standings holds of stations. The two never
share a pointer both once everything is heard. And they agree on who shares what
with whom, as long as no start of a free station crosses another request: the
station has heard everything, and the other one has not begun anything.

Key definitions: `Pair`, `Pair.step`, `Pair.isPlain`, `Pair.isUncrossed`, `Linked`.
Key theorems: `Linked.step`, `Pair.agree_unless_crossed`.
-/
import PointerShare.Proofs.Meeting

namespace PointerShare

/-- Two stations, and what is under way to each of them. -/
structure Pair where
  station : Side → Station
  /-- What is under way to a station, oldest first. -/
  inbox : Side → List Dispatch

/-- One move of two stations. -/
inductive Pair.Move where
  /-- A station makes a move of its own. -/
  | act (i : Side) (m : PointerShare.Move)
  /-- It hears what has been under way to it for longest. -/
  | hear (i : Side)
  deriving DecidableEq, Repr

namespace Pair

/-- Two free stations. -/
def create (settings : Side → Settings) (reg : Side → Registry) : Pair :=
  ⟨fun i => .create (settings i) (reg i), fun _ => []⟩

def home (p : Pair) (i : Side) : NetworkId := (p.station i).home

/-- The station `i` makes a move. What it tells the other one is under way from then on. -/
def act (p : Pair) (i : Side) (m : PointerShare.Move) : Pair where
  station := Function.update p.station i ((p.station i).step m)
  inbox := Function.update p.inbox i.other
    (p.inbox i.other ++ (p.station i).tells (p.home i.other) m)

/-- The station `i` hears what has been under way to it for longest, if anything is. -/
def hear (p : Pair) (i : Side) : Pair :=
  match p.inbox i with
  | [] => p
  | d :: ds =>
    { p with inbox := Function.update p.inbox i ds }.act i
      (.event (.signal (d.signal (p.home i.other))))

def step (p : Pair) : Move → Pair
  | .act i m => p.act i m
  | .hear i => p.hear i

def run (p : Pair) (ms : List Move) : Pair := ms.foldl step p

/-- Neither station deals with anybody else, and calls go well. -/
def isPlain (p : Pair) : Move → Bool
  | .act i m => (p.station i).isPlain (p.home i.other) m
  | .hear _ => true

/-- The errand that begins with a move, if one does, and whose it is. -/
def begins (p : Pair) : Move → Option (Side × Errand)
  | .act i m => ((p.station i).begins m).map fun e => (i, e)
  | .hear _ => none

/-- A free station starts with a pointer of its own only. -/
def isOwn (p : Pair) (m : Move) : Bool :=
  (p.begins m).all fun x => x.2.isOwn (p.station x.1).registry

/-- Nothing begins while a start is announced to the station; and a free station starts only if it
has heard everything and the other one has no errand. -/
def isUncrossed (p : Pair) (m : Move) : Bool :=
  (p.begins m).all fun x =>
    (p.inbox x.1).all (·.kind != .announceStart) &&
      (!x.2.role.isFree || (p.inbox x.1).isEmpty && !(p.station x.1.other).isOnErrand)

/-- No transition is under way, and everything has been heard. -/
def AtRest (p : Pair) : Prop := ∀ i, (p.station i).guard = .idle ∧ p.inbox i = []

/-- Both stations share a pointer. -/
def BothShare (p : Pair) : Prop := ∀ i, (p.station i).role.isOutbound = true

/-- A station shares a pointer iff the other one consumes it, in a session with that station. -/
def Agree (p : Pair) : Prop :=
  ∀ i d, (p.station i).role = .outbound d ↔
    (p.station i.other).role = .inbound d ∧ (p.station i.other).sessionPeer = some (p.home i)

end Pair

/-- The two stations, whose registries are `reg`, stand as in the meeting `t`. -/
structure Linked (reg : Side → Registry) (p : Pair) (t : Meeting) : Prop where
  speaks : ∀ i, (p.station i).Speaks
  stands : ∀ i, Stands (reg i) (reg i.other).home (p.station i).control (t.standing i)
  inbox : p.inbox = t.inbox
  told : ∀ i, ∀ m ∈ t.inbox i, m.IsFrom (reg i.other).home

section

variable {reg : Registry} {peer : NetworkId} {st st' : Standing} {e : Option Errand}
  {ds : List Dispatch} {s : Station}

/-- A station tells its peer of its own starts and stops only. -/
theorem Acts.isFrom (h : Acts reg peer st e st' ds) : ∀ m ∈ ds, m.IsFrom reg.home := by
  cases h with
  | leaves r => split <;> simp [Dispatch.IsFrom]
  | _ => simp [Dispatch.IsFrom]

/-- What a plain move does, and what the peer is told of it. -/
theorem Station.acts_step (h : Stands reg peer s.control st) (hw : s.Speaks) {m : Move}
    (hm : s.isPlain peer m = true) :
    ∃ st', Acts reg peer st (s.begins m) st' (s.tells peer m) ∧
      Stands reg peer (s.step m).control st' := by
  obtain ⟨c, ns, ds, ht, hs⟩ := s.turns m hw
  obtain ⟨st', ha, hst⟩ := acts_turn ht h hm
  refine ⟨st', ?_, hs.control ▸ hst⟩
  unfold Station.tells
  rwa [hs.queued]

theorem Station.tells_signal (hw : s.Speaks) (sig : PeerSignal) :
    s.tells peer (.event (.signal sig)) = [] := by
  obtain ⟨c, ns, ds, ht, hs⟩ := s.turns (.event (.signal sig)) hw
  unfold Station.tells
  rw [hs.queued, silent_of_signal ht]
  rfl

end

namespace Linked

variable {reg : Side → Registry} {p : Pair} {t : Meeting}

theorem create (settings : Side → Settings) (reg : Side → Registry) :
    Linked reg (.create settings reg) ⟨fun _ => .rest .free, fun _ => []⟩ where
  speaks := fun i => Station.speaks_create (settings i) (reg i)
  stands := fun i => .of_phase_none rfl rfl rfl rfl (Station.phase_run (settings i) (reg i) [])
  inbox := rfl
  told := fun i m hm => by cases hm

theorem home_eq (h : Linked reg p t) (i : Side) : p.home i = (reg i).home :=
  Station.home_of_stands (h.stands i)

/-- One station moves, and tells the other one of it. -/
theorem acts (h : Linked reg p t) {i : Side} {s : Station} {st : Standing} {ds : List Dispatch}
    (hw : s.Speaks) (hst : Stands (reg i) (reg i.other).home s.control st)
    (hds : ∀ m ∈ ds, m.IsFrom (reg i).home) :
    Linked reg ⟨Function.update p.station i s,
      Function.update p.inbox i.other (p.inbox i.other ++ ds)⟩ (t.acts i st ds) where
  speaks := (Side.forall_iff i).mpr ⟨by simpa using hw, by simpa using h.speaks i.other⟩
  stands := (Side.forall_iff i).mpr ⟨by simpa using hst, by simpa using h.stands i.other⟩
  inbox := by rw [h.inbox]; rfl
  told := (Side.forall_iff i).mpr ⟨by simpa using h.told i, fun m hm => by
    rw [Meeting.inbox_acts_other] at hm
    rcases List.mem_append.mp hm with hm | hm
    · exact h.told i.other m hm
    · simpa using hds m hm⟩

/-- What has been under way to a station for longest is under way no longer. -/
theorem drop (h : Linked reg p t) {i : Side} {m : Dispatch} {ms : List Dispatch}
    (hm : t.inbox i = m :: ms) :
    Linked reg { p with inbox := Function.update p.inbox i ms }
      ⟨t.standing, Function.update t.inbox i ms⟩ where
  speaks := h.speaks
  stands := h.stands
  inbox := by rw [h.inbox]
  told := (Side.forall_iff i).mpr
    ⟨fun m' hm' => h.told i m' (by rw [hm]; exact List.mem_cons_of_mem _ (by simpa using hm')),
      by simpa using h.told i.other⟩

/-- **Two stations move as their meeting does.** -/
theorem step (h : Linked reg p t) (m : Pair.Move) (hm : p.isPlain m = true) :
    ∃ t', Linked reg (p.step m) t' ∧ t.Step reg (p.begins m) t' := by
  cases m with
  | act i m =>
    obtain ⟨st', ha, hst⟩ := Station.acts_step (h.stands i) (h.speaks i) (m := m)
      (by rw [← h.home_eq]; exact hm)
    refine ⟨_, ?_, .acts i _ st' _ ha⟩
    rw [← h.home_eq] at ha ⊢
    exact h.acts (Station.speaks_step m (h.speaks i)) hst (h.home_eq i.other ▸ ha.isFrom)
  | hear i =>
    show ∃ t', Linked reg (p.hear i) t' ∧ t.Step reg none t'
    unfold Pair.hear
    cases hin : p.inbox i with
    | nil =>
      -- Nothing is heard, as when a station does nothing.
      refine ⟨_, ?_, .acts i none (t.standing i) [] (.stays _)⟩
      rw [Meeting.acts_nil]
      exact h
    | cons d ds =>
      have hin' : t.inbox i = d :: ds := h.inbox ▸ hin
      have hfrom : d.IsFrom (reg i.other).home :=
        h.told i d (by rw [hin']; exact List.mem_cons_self)
      have hst : Stands (reg i) (reg i.other).home
          ((p.station i).hear (d.signal (p.home i.other))).control ((t.standing i).hear d) := by
        rw [h.home_eq]
        exact Station.stands_hear (h.stands i) (h.speaks i) hfrom
      have htells : (p.station i).tells (p.home i.other)
          (.event (.signal (d.signal (p.home i.other)))) = [] :=
        Station.tells_signal (h.speaks i) _
      refine ⟨_, ?_, .hears i d ds hin'⟩
      rw [Meeting.hears_eq, ← htells]
      exact (h.drop hin').acts (Station.speaks_step _ (h.speaks i)) hst
        fun m hm => List.not_mem_nil (htells ▸ hm) |>.elim

end Linked

namespace Pair

variable {reg : Side → Registry} {p : Pair} {t : Meeting}

/-- What `isUncrossed` asks for. -/
theorem clear_of_isUncrossed (h : Linked reg p t) {m : Move} (hm : p.isUncrossed m = true)
    (i : Side) (e : Errand) (hb : p.begins m = some (i, e)) : t.Clear i e := by
  unfold isUncrossed at hm
  rw [hb, h.inbox] at hm
  simp only [Option.all_some, Bool.and_eq_true, List.all_eq_true, bne_iff_ne, Bool.or_eq_true,
    Bool.not_eq_true', List.isEmpty_iff] at hm
  obtain ⟨hann, hfree⟩ := hm
  have hrole (hr : e.role = .free) : ¬e.role.isFree = false := by
    rw [hr]
    decide
  refine ⟨hann, fun hr => (hfree.resolve_left (hrole hr)).1, fun hr => ?_⟩
  have hidle := (hfree.resolve_left (hrole hr)).2
  cases hb : (t.standing i.other).hasErrand with
  | false => rfl
  | true =>
    rw [Station.isOnErrand_of_hasErrand (h.stands i.other) hb] at hidle
    cases hidle

theorem own_of_isOwn (h : Linked reg p t) {m : Move} (hm : p.isOwn m = true) (i : Side)
    (e : Errand) (hb : p.begins m = some (i, e)) : e.isOwn (reg i) = true := by
  unfold isOwn at hm
  rw [hb] at hm
  rw [← (h.stands i).registry]
  exact hm

/-- A station at rest is at rest. -/
theorem AtRest.standing (hp : p.AtRest) (h : Linked reg p t) (i : Side) :
    t.standing i = .rest (p.station i).role :=
  ((h.stands i).rest_of_idle (hp i).1).1

theorem AtRest.inbox (hp : p.AtRest) (h : Linked reg p t) (i : Side) : t.inbox i = [] :=
  h.inbox ▸ (hp i).2

theorem sessionPeer_eq (h : Linked reg p t) (i : Side) :
    (p.station i).sessionPeer =
      if (p.station i).role.isFree then none else some (p.home i.other) := by
  rw [h.home_eq]
  exact Station.sessionPeer_of_stands (h.stands i)

/-- Two stations agree iff each mirrors the other. -/
theorem agree_iff (h : Linked reg p t) :
    p.Agree ↔ ∀ i, (p.station i.other).role = (p.station i).role.mirror := by
  have hpeer (i : Side) (hr : (p.station i).role ≠ .free) :
      (p.station i).sessionPeer = some (p.home i.other) := by
    rw [sessionPeer_eq h, Role.isFree_eq_false_iff.mpr hr]
    rfl
  refine ⟨fun hagree i => ?_, fun hmirror i d => ⟨fun hr => ?_, fun h' => ?_⟩⟩
  · have hout (j : Side) (d : Dhid) (hr : (p.station j).role = .inbound d) :
        (p.station j.other).role = .outbound d := by
      refine (hagree j.other d).mpr ?_
      rw [Side.other_other]
      exact ⟨hr, hpeer j (by rw [hr]; exact fun h => by cases h)⟩
    cases hr : (p.station i).role with
    | inbound d => exact hout i d hr
    | outbound d => exact ((hagree i d).mp hr).1
    | free =>
      cases hr' : (p.station i.other).role with
      | free => rfl
      | inbound d =>
        have h' := hout i.other d hr'
        rw [Side.other_other, hr] at h'
        cases h'
      | outbound d =>
        have h' := ((hagree i.other d).mp hr').1
        rw [Side.other_other, hr] at h'
        cases h'
  · have hin : (p.station i.other).role = .inbound d := by
      rw [hmirror, hr]
      rfl
    refine ⟨hin, ?_⟩
    have h' := hpeer i.other (by rw [hin]; exact fun h => by cases h)
    rwa [Side.other_other] at h'
  · have hout := hmirror i.other
    rwa [Side.other_other, h'.1] at hout

/-- Two stations at rest that agree stand alike. -/
theorem alike_of_agree (h : Linked reg p t) (hd : t.Donates reg) (hp : p.AtRest) (ha : p.Agree) :
    t.Alike reg := by
  have hmirror := (agree_iff h).mp ha
  refine ⟨fun i d hr => ?_, .inl ⟨.left, hp.inbox h .left, t.standing Side.left.other, ?_, ?_⟩⟩
  · rw [hp.standing h] at hr
    have hout : (t.standing i.other).role = .outbound d := by
      rw [hp.standing h]
      show (p.station i.other).role = .outbound d
      rw [hmirror, show (p.station i).role = .inbound d from hr]
      rfl
    have hown := (hd i.other).outbound d hout
    unfold Meeting.Own at hown
    rwa [Side.other_other] at hown
  · rw [hp.inbox h]
    exact .done _
  · rw [hp.standing h, hp.standing h, hmirror]
    exact .rest _

theorem agree_of_alike (h : Linked reg p t) (ha : t.Alike reg) (hp : p.AtRest) : p.Agree :=
  (agree_iff h).mpr (ha.mirror (hp.inbox h) (hp.standing h))

theorem bothShare_of_yields (h : Linked reg p t) (hy : t.Yields) (hp : p.AtRest) :
    ¬p.BothShare := by
  intro hb
  obtain ⟨i, ⟨m, hm, -⟩ | ⟨r, hr⟩⟩ := hy fun i => by
    rw [hp.standing h]
    exact hb i
  · rw [hp.inbox h] at hm
    cases hm
  · rw [hp.standing h] at hr
    cases hr

/-! ### Runs -/

theorem atRest_create (settings : Side → Settings) (reg : Side → Registry) :
    (create settings reg).AtRest :=
  fun _ => ⟨rfl, rfl⟩

theorem agree_create (settings : Side → Settings) (reg : Side → Registry) :
    (create settings reg).Agree :=
  (agree_iff (.create settings reg)).mpr fun _ => rfl

theorem yields_run (settings : Side → Settings) {ms : List Move}
    (h : Along step (fun p m => p.isPlain m = true) (create settings reg) ms) :
    ∃ t, Linked reg ((create settings reg).run ms) t ∧ t.Yields := by
  refine h.invariant (P := fun p => ∃ t, Linked reg p t ∧ t.Yields) ?_
    ⟨_, .create settings reg, fun hout => by cases hout .left⟩
  rintro p m hplain ⟨t, hlinked, hy⟩
  obtain ⟨t', hlinked', hs⟩ := hlinked.step m hplain
  exact ⟨t', hlinked', hy.step hs⟩

theorem donates_run (settings : Side → Settings) (hreg : Meeting.Acquainted reg) {ms : List Move}
    (h : Along step (fun p m => p.isPlain m = true ∧ p.isOwn m = true) (create settings reg) ms) :
    ∃ t, Linked reg ((create settings reg).run ms) t ∧ t.Donates reg := by
  refine h.invariant (P := fun p => ∃ t, Linked reg p t ∧ t.Donates reg) ?_
    ⟨_, .create settings reg, fun i => ⟨fun _ hst => (by cases hst), fun _ hr => (by cases hr)⟩⟩
  rintro p m ⟨hplain, hown⟩ ⟨t, hlinked, hd⟩
  obtain ⟨t', hlinked', hs⟩ := hlinked.step m hplain
  exact ⟨t', hlinked', hd.step hs hreg (own_of_isOwn hlinked hown)⟩

theorem alike_run (hreg : Meeting.Acquainted reg) {ms : List Move}
    (h : Along step
      (fun p m => p.isPlain m = true ∧ p.isOwn m = true ∧ p.isUncrossed m = true) p ms)
    (hp : ∃ t, Linked reg p t ∧ t.Donates reg ∧ t.Alike reg) :
    ∃ t, Linked reg (p.run ms) t ∧ t.Donates reg ∧ t.Alike reg := by
  refine h.invariant (P := fun p => ∃ t, Linked reg p t ∧ t.Donates reg ∧ t.Alike reg) ?_ hp
  rintro p m ⟨hplain, hown, hclear⟩ ⟨t, hlinked, hd, ha⟩
  obtain ⟨t', hlinked', hs⟩ := hlinked.step m hplain
  exact ⟨t', hlinked', hd.step hs hreg (own_of_isOwn hlinked hown),
    ha.step hd hreg hs (clear_of_isUncrossed hlinked hclear)⟩

/-- **Two stations agree, unless requests cross.** Two stations deal with each other only, and all
their calls go well; they make their moves, and hear of each other, in any order. Whenever they are
at rest they do not both share a pointer. If both know whose the pointers are, and no free station
starts with a pointer that is not its own, then two stations that are at rest and agree, as they do
to begin with, agree again whenever they are at rest, as long as no start of a free station crosses
anything and nothing begins while a start is announced. -/
theorem agree_unless_crossed (settings : Side → Settings) (reg : Side → Registry) (ms : List Move)
    (h : Along step (fun p m => p.isPlain m = true) (create settings reg) ms) :
    let p := (create settings reg).run ms
    (p.AtRest → ¬p.BothShare) ∧
    (Meeting.Acquainted reg →
      Along step (fun p m => p.isOwn m = true) (create settings reg) ms → p.AtRest → p.Agree →
      ∀ after, Along step (fun p m => p.isPlain m = true ∧ p.isOwn m = true ∧
        p.isUncrossed m = true) p after → (p.run after).AtRest → (p.run after).Agree) := by
  intro p
  refine ⟨fun hp => ?_, fun hreg hown hp hagree after hafter hrest => ?_⟩
  · obtain ⟨t, hlinked, hy⟩ := yields_run settings h
    exact bothShare_of_yields hlinked hy hp
  · obtain ⟨t, hlinked, hd⟩ := donates_run settings hreg (h.and hown)
    obtain ⟨t', hlinked', -, ha⟩ :=
      alike_run hreg hafter ⟨t, hlinked, hd, alike_of_agree hlinked hd hp hagree⟩
    exact agree_of_alike hlinked' ha hrest

/-- The registries of two stations with a pointer each, `m` and `n`, that both of them know. -/
def twoMice : Side → Registry
  | .left =>
    ⟨⟨"a"⟩, [⟨⟨1⟩, ⟨"m"⟩, ⟨"a"⟩, [], true, false⟩, ⟨⟨2⟩, ⟨"n"⟩, ⟨"b"⟩, [], true, true⟩]⟩
  | .right =>
    ⟨⟨"b"⟩, [⟨⟨1⟩, ⟨"n"⟩, ⟨"b"⟩, [], true, false⟩, ⟨⟨2⟩, ⟨"m"⟩, ⟨"a"⟩, [], true, true⟩]⟩

theorem acquainted_twoMice : Meeting.Acquainted twoMice :=
  Meeting.acquainted_of_devices fun i => by cases i <;> decide

/-- The station `a` shares its pointer with `b`, which consumes it in a session with `a`. -/
theorem agree_after_start :
    let p := (create (fun _ => ⟨8, 1000, 2, 1000, .center⟩) twoMice).run
      [.act .left (.event (.request (.start ⟨"b"⟩ ⟨1⟩))), .act .left .take, .act .left .take,
        .act .left .take, .hear .right, .hear .right]
    (p.station .left).role = .outbound ⟨"m"⟩ ∧ p.Agree ∧
      (p.station .right).role = .inbound ⟨"m"⟩ ∧
      (p.station .right).sessionPeer = some ⟨"a"⟩ := by
  intro p
  have hp : p.Agree := (agree_unless_crossed (fun _ => ⟨8, 1000, 2, 1000, .center⟩) twoMice []
    trivial).2 acquainted_twoMice trivial (atRest_create _ _) (agree_create _ _)
    [.act .left (.event (.request (.start ⟨"b"⟩ ⟨1⟩))), .act .left .take, .act .left .take,
      .act .left .take, .hear .right, .hear .right]
    (by decide +kernel) (fun i => by cases i <;> decide +kernel)
  have hout : (p.station .left).role = .outbound ⟨"m"⟩ := by decide +kernel
  have hhome : p.home .left = ⟨"a"⟩ := by decide +kernel
  obtain ⟨hin, hpeer⟩ := (hp .left ⟨"m"⟩).mp hout
  rw [hhome] at hpeer
  exact ⟨hout, hp, hin, hpeer⟩

/-- Both stations start before either has heard of the other's start. What `a` tells reaches `b`
while `b` is still starting and is dropped; what `b` tells then makes `a` free, which shares its own
pointer: `b` shares a pointer that nobody consumes. -/
theorem disagree_after_crossing :
    let ms : List Move := [.act .left (.event (.request (.start ⟨"b"⟩ ⟨1⟩))),
      .act .right (.event (.request (.start ⟨"a"⟩ ⟨1⟩))), .act .left .take, .act .left .take,
      .act .left .take, .hear .right, .hear .right, .act .right .take, .act .right .take,
      .act .right .take, .hear .left, .hear .left, .act .left .take]
    let p := (create (fun _ => ⟨8, 1000, 2, 1000, .center⟩) twoMice).run ms
    (∀ i, ∀ x ∈ (twoMice i).devices, (twoMice i.other).originOfDhid? x.dhid = some x.origin) ∧
      Along step (fun p m => p.isPlain m = true ∧ p.isOwn m = true)
        (create (fun _ => ⟨8, 1000, 2, 1000, .center⟩) twoMice) ms ∧
      p.AtRest ∧ (∀ i, (p.station i).gateway.tracker.pendingCount = 0) ∧
      (p.station .left).role = .free ∧ (p.station .right).role = .outbound ⟨"n"⟩ ∧ ¬p.Agree := by
  intro ms p
  have hleft : (p.station .left).role = .free := by decide +kernel
  have hright : (p.station .right).role = .outbound ⟨"n"⟩ := by decide +kernel
  refine ⟨fun i => by cases i <;> decide, by decide +kernel,
    fun i => by cases i <;> decide +kernel, fun i => by cases i <;> decide +kernel,
    hleft, hright, fun h => ?_⟩
  have hin := ((h .right ⟨"n"⟩).mp hright).1
  rw [show Side.right.other = .left from rfl, hleft] at hin
  cases hin

end Pair

end PointerShare
