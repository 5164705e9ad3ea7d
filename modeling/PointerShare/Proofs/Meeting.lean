/-
# Two stations that share with each other only

A `Meeting` is how two stations stand towards each other and what is under way
to each of them. One of them acts (`Acts`), and what it tells is put at the end
of what is under way to the other; or one of them hears what has been under way
to it for longest.

Two things are kept by all that can happen. If both stations share a pointer,
one of them is about to get its pointer back or to end its session (`Yields`).
And as long as no request crosses another one on the way (`Clear`), and what is
shared is always a pointer of the station's own, the two stand alike (`Alike`):
one of them leads and has nothing left to hear, and the other one will mirror it
once it has heard everything; or both are about to be free (`Parting`).

Key definitions: `Meeting`, `Meeting.Step`, `Follows`, `Mirrors`, `Meeting.Alike`.
Key theorems: `Meeting.Yields.step`, `Meeting.Donates.step`, `Meeting.Alike.step`.
-/
import PointerShare.Proofs.Standing
import Mathlib.Logic.Function.Basic

namespace PointerShare

/-- One of two stations. -/
inductive Side where
  | left
  | right
  deriving DecidableEq, Repr

namespace Side

def other : Side → Side
  | left => right
  | right => left

@[simp] theorem other_other (i : Side) : i.other.other = i := by cases i <;> rfl

@[simp] theorem other_ne (i : Side) : i.other ≠ i := by cases i <;> decide

@[simp] theorem ne_other (i : Side) : i ≠ i.other := by cases i <;> decide

theorem eq_or_eq_other (i j : Side) : j = i ∨ j = i.other := by
  cases i <;> cases j <;> decide

/-- What holds of both holds of each. -/
theorem forall_iff (i : Side) {P : Side → Prop} : (∀ j, P j) ↔ P i ∧ P i.other := by
  refine ⟨fun h => ⟨h i, h i.other⟩, fun h j => ?_⟩
  rcases eq_or_eq_other i j with rfl | rfl
  · exact h.1
  · exact h.2

end Side

/-- The role at the other end of a session. -/
def Role.mirror : Role → Role
  | .free => .free
  | .inbound d => .outbound d
  | .outbound d => .inbound d

@[simp] theorem Role.mirror_mirror (r : Role) : r.mirror.mirror = r := by cases r <;> rfl

theorem Role.outbound_of_afterStart {r : Role} {success : Bool} {d' d : Dhid}
    (h : r.afterStart success d' = .outbound d) : r = .outbound d := by
  cases success with
  | false => exact h
  | true => cases r <;> cases h

theorem Role.outbound_of_afterStop {r : Role} {success : Bool} {d : Dhid}
    (h : r.afterStop success = .outbound d) : r = .outbound d := by
  cases success with
  | false => exact h
  | true => cases h

theorem Registry.counterpart_eq {reg : Registry} {peer : NetworkId} {r : Role}
    (h : ∀ d, r = .inbound d → reg.hostOf peer d = peer) : reg.counterpart peer r = peer := by
  cases r with
  | inbound d => exact h d rfl
  | _ => rfl

/-- What begins is no start of a free station with a pointer of another one's. -/
def Errand.isOwn (reg : Registry) : Errand → Bool
  | .start .free _ _ device => reg.originOf? device == some reg.home
  | _ => true

/-- The other end's pointer is handed over, or back. -/
def Dispatch.isHandover : Dispatch → Bool
  | .startResult _ success _ _ => success
  | _ => false

/-- It tells of a start or a stop that went well. -/
def Dispatch.isSuccess : Dispatch → Bool
  | .startResult _ success _ _ => success
  | .stopResult _ success => success
  | _ => false

/-- How two stations stand towards each other, and what is under way to each of them. -/
structure Meeting where
  standing : Side → Standing
  /-- What is under way to a station, oldest first. -/
  inbox : Side → List Dispatch

namespace Meeting

/-- The station `i` does something and tells the other of it. -/
def acts (t : Meeting) (i : Side) (st : Standing) (ds : List Dispatch) : Meeting :=
  ⟨Function.update t.standing i st, Function.update t.inbox i.other (t.inbox i.other ++ ds)⟩

/-- The station `i` hears `m`, and `ms` is what is still under way to it. -/
def hears (t : Meeting) (i : Side) (m : Dispatch) (ms : List Dispatch) : Meeting :=
  ⟨Function.update t.standing i ((t.standing i).hear m), Function.update t.inbox i ms⟩

/-- What can happen, with the errand that begins, if one does. -/
inductive Step (reg : Side → Registry) (t : Meeting) : Option (Side × Errand) → Meeting → Prop
  | acts (i : Side) (e : Option Errand) (st : Standing) (ds : List Dispatch)
      (h : Acts (reg i) (reg i.other).home (t.standing i) e st ds) :
      Step reg t (e.map fun x => (i, x)) (t.acts i st ds)
  | hears (i : Side) (m : Dispatch) (ms : List Dispatch) (h : t.inbox i = m :: ms) :
      Step reg t none (t.hears i m ms)

/-- No start is announced on the way to the station `i`, which begins the errand `e`; and if it is a
free station that starts, it has heard everything, and the other station has no errand. -/
structure Clear (t : Meeting) (i : Side) (e : Errand) : Prop where
  unannounced : ∀ m ∈ t.inbox i, m.kind ≠ .announceStart
  heard : e.role = .free → t.inbox i = []
  idle : e.role = .free → (t.standing i.other).hasErrand = false

section lookup

variable (t : Meeting) (i : Side) (st : Standing) (ds : List Dispatch) (m : Dispatch)

@[simp] theorem standing_acts : (t.acts i st ds).standing i = st := Function.update_self ..

@[simp] theorem standing_acts_other : (t.acts i st ds).standing i.other = t.standing i.other :=
  Function.update_of_ne i.other_ne ..

@[simp] theorem inbox_acts : (t.acts i st ds).inbox i = t.inbox i :=
  Function.update_of_ne i.ne_other ..

@[simp] theorem inbox_acts_other : (t.acts i st ds).inbox i.other = t.inbox i.other ++ ds :=
  Function.update_self ..

@[simp] theorem standing_other_acts : (t.acts i.other st ds).standing i = t.standing i :=
  Function.update_of_ne i.ne_other ..

@[simp] theorem inbox_other_acts : (t.acts i.other st ds).inbox i = t.inbox i ++ ds := by
  simpa using t.inbox_acts_other i.other st ds

@[simp] theorem standing_hears : (t.hears i m ds).standing i = (t.standing i).hear m :=
  Function.update_self ..

@[simp] theorem standing_hears_other : (t.hears i m ds).standing i.other = t.standing i.other :=
  Function.update_of_ne i.other_ne ..

@[simp] theorem inbox_hears : (t.hears i m ds).inbox i = ds := Function.update_self ..

@[simp] theorem inbox_hears_other : (t.hears i m ds).inbox i.other = t.inbox i.other :=
  Function.update_of_ne i.other_ne ..

@[simp] theorem standing_other_hears : (t.hears i.other m ds).standing i = t.standing i :=
  Function.update_of_ne i.ne_other ..

@[simp] theorem inbox_other_hears : (t.hears i.other m ds).inbox i = t.inbox i :=
  Function.update_of_ne i.ne_other ..

theorem acts_nil : t.acts i (t.standing i) [] = t := by
  simp [acts]

/-- To hear something is to act on what is under way no longer. -/
theorem hears_eq : t.hears i m ds =
    Meeting.acts ⟨t.standing, Function.update t.inbox i ds⟩ i ((t.standing i).hear m) [] := by
  simp [acts, hears]

end lookup

end Meeting

namespace Standing

theorem hear_of_hasErrand {st : Standing} (h : st.hasErrand = true) (m : Dispatch) :
    st.hear m = st := by
  cases st with
  | rest r => cases h
  | announced r => cases h
  | opening device => cases m <;> rfl
  | handing d => cases m <;> rfl
  | stopping r => cases m <;> rfl

/-- What becomes of a standing when something is heard. -/
theorem hear_cases (st : Standing) (m : Dispatch) :
    st.hear m = st ∨ st.hear m = .announced st.role ∨
      (∃ success d, st.hear m = .rest (st.role.afterStart success d)) ∨
      ∃ success, st.hear m = .rest (st.role.afterStop success) := by
  cases hb : st.hasErrand with
  | true => exact .inl (hear_of_hasErrand hb m)
  | false =>
    cases m with
    | relayAnnounce => exact .inl (by cases st <;> rfl)
    | announceStart _ _ =>
      cases st with
      | rest r => exact .inr (.inl rfl)
      | announced r => exact .inl rfl
      | _ => cases hb
    | startResult _ success d _ =>
      cases st with
      | rest r =>
        by_cases hr : r.isFree = true
        · exact .inl (if_pos hr)
        · exact .inr (.inr (.inl ⟨success, d, if_neg hr⟩))
      | announced r => exact .inr (.inr (.inl ⟨success, d, rfl⟩))
      | _ => cases hb
    | stopResult _ success =>
      cases st with
      | rest r => exact .inr (.inr (.inr ⟨success, rfl⟩))
      | announced r => exact .inr (.inr (.inr ⟨success, rfl⟩))
      | _ => cases hb

/-- Nothing that is heard makes a station share a pointer. -/
theorem outbound_of_hear {st : Standing} {m : Dispatch} {d : Dhid}
    (h : (st.hear m).role = .outbound d) : st.role = .outbound d := by
  rcases hear_cases st m with hst | hst | ⟨success, d', hst⟩ | ⟨success, hst⟩
  · rwa [hst] at h
  · rwa [hst] at h
  · rw [hst] at h
    exact Role.outbound_of_afterStart h
  · rw [hst] at h
    exact Role.outbound_of_afterStop h

/-- A station that still shares its pointer when the pointer has come back is ending the session. -/
theorem stopping_of_handover {st : Standing} {m : Dispatch} {d : Dhid} (hm : m.isHandover = true)
    (h : (st.hear m).role = .outbound d) : ∃ r, st = .stopping r := by
  have hst := outbound_of_hear h
  cases m with
  | startResult _ success d' _ =>
    obtain rfl : success = true := hm
    cases st with
    | rest r =>
      obtain rfl : r = .outbound d := hst
      cases h
    | announced r =>
      obtain rfl : r = .outbound d := hst
      cases h
    | opening => cases hst
    | handing => cases hst
    | stopping r => exact ⟨r, rfl⟩
  | _ => cases hm

end Standing

section

variable {reg : Registry} {peer : NetworkId} {st st' : Standing} {e : Option Errand}
  {ds : List Dispatch}

/-- A station that shares a pointer after it acted shared it before, and did nothing or began to
stop; or it has just handed the pointer over. -/
theorem Acts.outbound (h : Acts reg peer st e st' ds) {d : Dhid} (hd : st'.role = .outbound d) :
    st.role = .outbound d ∧ (st' = st ∨ ∃ r, st' = .stopping r) ∨
      (∃ device, st = .opening device ∧ reg.dhidOf? device = some d) ∧
        ∃ m ∈ ds, m.isHandover = true := by
  cases h with
  | stays => exact .inl ⟨hd, .inl rfl⟩
  | stops r _ => exact .inl ⟨hd, .inr ⟨r, rfl⟩⟩
  | shares device d' l hdhid =>
    cases hd
    exact .inr ⟨⟨device, rfl, hdhid⟩, _, List.mem_singleton_self _, rfl⟩
  | opens => cases hd
  | givesBack => cases hd
  | handsOn => cases hd
  | lacksAtOnce => cases hd
  | lacks => cases hd
  | returns => cases hd
  | leaves => cases hd

/-- A station that consumes a pointer after it acted consumed it before. -/
theorem Acts.inbound (h : Acts reg peer st e st' ds) {d : Dhid} (hd : st'.role = .inbound d) :
    st.role = .inbound d := by
  cases h with
  | opens => cases hd
  | shares => cases hd
  | returns => cases hd
  | leaves => cases hd
  | _ => exact hd

end

namespace Meeting

variable {reg : Side → Registry} {t t' : Meeting} {b : Option (Side × Errand)}

/-! ### Who shares a pointer -/

/-- If both stations share a pointer, one of them is about to get it back or to end its session. -/
def Yields (t : Meeting) : Prop :=
  (∀ i, (t.standing i).role.isOutbound = true) →
    ∃ i, (∃ m ∈ t.inbox i, m.isHandover = true) ∨ ∃ r, t.standing i = .stopping r

theorem Yields.step (h : t.Yields) (hs : t.Step reg b t') : t'.Yields := by
  intro hout
  cases hs with
  | acts i e st ds ha =>
    obtain ⟨hi, ho⟩ := (Side.forall_iff i).mp hout
    rw [standing_acts] at hi
    rw [standing_acts_other] at ho
    obtain ⟨d, hd⟩ := Role.isOutbound_iff.mp hi
    rcases ha.outbound hd with ⟨hbefore, rfl | ⟨r, rfl⟩⟩ | ⟨-, m, hm, hover⟩
    · -- Nothing is told that was not told before, and the station is where it was.
      obtain ⟨j, hj⟩ := h ((Side.forall_iff i).mpr ⟨hi, ho⟩)
      refine ⟨j, ?_⟩
      rcases Side.eq_or_eq_other i j with rfl | rfl
      · simpa using hj
      · rcases hj with ⟨m, hm, hover⟩ | hr
        · exact .inl ⟨m, by simp [hm], hover⟩
        · exact .inr (by simpa using hr)
    · exact ⟨i, .inr ⟨r, by simp⟩⟩
    · exact ⟨i.other, .inl ⟨m, by simp [hm], hover⟩⟩
  | hears i m ms hm =>
    obtain ⟨hi, ho⟩ := (Side.forall_iff i).mp hout
    rw [standing_hears] at hi
    rw [standing_hears_other] at ho
    obtain ⟨d, hd⟩ := Role.isOutbound_iff.mp hi
    have hbefore := Standing.outbound_of_hear hd
    obtain ⟨j, hj⟩ := h ((Side.forall_iff i).mpr ⟨Role.isOutbound_iff.mpr ⟨d, hbefore⟩, ho⟩)
    rcases Side.eq_or_eq_other i j with rfl | rfl
    · rcases hj with ⟨m', hm', hover⟩ | ⟨r, hr⟩
      · rw [hm] at hm'
        rcases List.mem_cons.mp hm' with rfl | hm'
        · -- The pointer came back while the station was ending the session itself.
          obtain ⟨r, hr⟩ := Standing.stopping_of_handover hover hd
          refine ⟨j, .inr ⟨r, ?_⟩⟩
          rw [standing_hears, hr]
          exact Standing.hear_of_hasErrand rfl m'
        · exact ⟨j, .inl ⟨m', by simpa using hm', hover⟩⟩
      · refine ⟨j, .inr ⟨r, ?_⟩⟩
        rw [standing_hears, hr]
        exact Standing.hear_of_hasErrand rfl m
    · exact ⟨i.other, by simpa using hj⟩

/-- Where a station stands that shares none but its own pointers: `own` are those that the other
station takes for the station's own. -/
structure SharesOwn (reg : Registry) (own : Dhid → Prop) (st : Standing) : Prop where
  opening : ∀ device, st = .opening device → reg.originOf? device = some reg.home
  outbound : ∀ d, st.role = .outbound d → own d

/-- The pointers that the other station takes for those of the station `i`. -/
def Own (reg : Side → Registry) (i : Side) (d : Dhid) : Prop :=
  (reg i.other).hostOf (reg i).home d = (reg i).home

/-- Each station shares none but its own pointers. -/
def Donates (reg : Side → Registry) (t : Meeting) : Prop :=
  ∀ i, SharesOwn (reg i) (Own reg i) (t.standing i)

/-- Each station takes the other one's pointers for the other one's. -/
def Acquainted (reg : Side → Registry) : Prop :=
  ∀ i device d, (reg i).originOf? device = some (reg i).home → (reg i).dhidOf? device = some d →
    Own reg i d

theorem acquainted_of_devices {reg : Side → Registry}
    (h : ∀ i, ∀ x ∈ (reg i).devices, x.origin = (reg i).home →
      (reg i.other).hostOf (reg i).home x.dhid = (reg i).home) : Acquainted reg := by
  intro i device d ho hd
  obtain ⟨x, hx, rfl⟩ := Option.map_eq_some_iff.mp hd
  obtain ⟨y, hy, hhome⟩ := Option.map_eq_some_iff.mp ho
  obtain rfl : x = y := Option.some.inj (hx.symm.trans hy)
  exact h i x (List.mem_of_find?_eq_some hx) hhome

theorem SharesOwn.acts {r : Registry} {peer : NetworkId} {own : Dhid → Prop} {st st' : Standing}
    {e : Option Errand} {ds : List Dispatch} (h : SharesOwn r own st) (ha : Acts r peer st e st' ds)
    (he : ∀ x ∈ e, x.isOwn r = true)
    (hown : ∀ device d, r.originOf? device = some r.home → r.dhidOf? device = some d → own d) :
    SharesOwn r own st' where
  opening := fun device hst => by
    cases ha with
    | stays => exact h.opening device hst
    | opens place device' =>
      cases hst
      simpa [Errand.isOwn] using he _ rfl
    | _ => cases hst
  outbound := fun d hd => by
    rcases ha.outbound hd with ⟨hbefore, -⟩ | ⟨⟨device, rfl, hdhid⟩, -⟩
    · exact h.outbound d hbefore
    · exact hown device d (h.opening device rfl) hdhid

theorem SharesOwn.hear {r : Registry} {own : Dhid → Prop} {st : Standing} (h : SharesOwn r own st)
    (m : Dispatch) : SharesOwn r own (st.hear m) where
  opening := fun device hst => h.opening device (by
    rcases Standing.hear_cases st m with he | he | ⟨_, _, he⟩ | ⟨_, he⟩
    · rwa [he] at hst
    all_goals rw [he] at hst; cases hst)
  outbound := fun d hd => h.outbound d (Standing.outbound_of_hear hd)

theorem Donates.step (h : t.Donates reg) (hs : t.Step reg b t') (hreg : Acquainted reg)
    (hb : ∀ i e, b = some (i, e) → e.isOwn (reg i) = true) : t'.Donates reg := by
  cases hs with
  | acts i e st ds ha =>
    refine (Side.forall_iff i).mpr ⟨?_, ?_⟩
    · rw [standing_acts]
      refine (h i).acts ha (fun x hx => hb i x ?_) (hreg i)
      rw [show e = some x from hx]
      rfl
    · rw [standing_acts_other]
      exact h i.other
  | hears i m ms _ =>
    refine (Side.forall_iff i).mpr ⟨?_, ?_⟩
    · rw [standing_hears]
      exact (h i).hear m
    · rw [standing_hears_other]
      exact h i.other

end Meeting

/-! ### Standing alike -/

/-- The station may be about to give up what it shares or consumes, but is not about to share. -/
def Standing.isParting : Standing → Bool
  | .rest _ => true
  | .announced _ => false
  | .opening _ => false
  | .handing _ => true
  | .stopping _ => true

/-- What one end makes of all that is under way to it; `own` are the pointers of the other end. -/
inductive Follows (own : Dhid → Prop) : Standing → List Dispatch → Standing → Prop
  | done (st : Standing) : Follows own st [] st
  | announced (origin remote : NetworkId) {ms : List Dispatch} {st : Standing}
      (h : Follows own (.announced .free) ms st) :
      Follows own (.rest .free) (.announceStart origin remote :: ms) st
  | consumes (target : NetworkId) (d : Dhid) (l : Location) {ms : List Dispatch} {st : Standing}
      (hd : own d) (h : Follows own (.rest (.inbound d)) ms st) :
      Follows own (.announced .free) (.startResult target true d l :: ms) st
  | getsBack (d : Dhid) (target : NetworkId) (d' : Dhid) (l : Location) {ms : List Dispatch}
      {st : Standing} (h : Follows own (.rest .free) ms st) :
      Follows own (.rest (.outbound d)) (.startResult target true d' l :: ms) st
  | isLeft (r : Role) (target : NetworkId) {ms : List Dispatch} {st : Standing}
      (h : Follows own (.rest .free) ms st) :
      Follows own (.rest r) (.stopResult target true :: ms) st
  /-- A pointer that comes back to a station that is free already. -/
  | ignores (target : NetworkId) (d : Dhid) (l : Location) {ms : List Dispatch} {st : Standing}
      (h : Follows own (.rest .free) ms st) :
      Follows own (.rest .free) (.startResult target true d l :: ms) st

/-- How the other end stands once it has heard everything. -/
inductive Mirrors : Standing → Standing → Prop
  | rest (r : Role) : Mirrors (.rest r) (.rest r.mirror)
  | opening (device : DeviceId) : Mirrors (.opening device) (.announced .free)
  | handing (d : Dhid) : Mirrors (.handing d) (.rest (.outbound d))
  | stopping (r : Role) : Mirrors (.stopping r) (.rest r.mirror)

theorem Mirrors.hasErrand {st st' : Standing} (h : Mirrors st st') : st'.hasErrand = false := by
  cases h <;> rfl

/-- Whose peer will be at rest is at rest or gives up its session. -/
theorem Mirrors.of_rest {st : Standing} {r : Role} (h : Mirrors st (.rest r)) :
    st = .rest r.mirror ∨ st.role = r.mirror ∧ st.hasErrand = true ∧ st.isParting = true := by
  generalize hr : Standing.rest r = st₁ at h
  cases h with
  | rest r' => exact .inl (by rw [Standing.rest.inj hr, Role.mirror_mirror])
  | opening => cases hr
  | handing d =>
    rw [Standing.rest.inj hr]
    exact .inr ⟨rfl, rfl, rfl⟩
  | stopping r' =>
    rw [Standing.rest.inj hr, Role.mirror_mirror]
    exact .inr ⟨rfl, rfl, rfl⟩

/-- One of two stations that both are about to be free: it stands like `st`, `ms` is under way to
it, and the other one stands like `st'`. -/
structure Parts (st : Standing) (ms : List Dispatch) (st' : Standing) : Prop where
  parting : st.isParting = true
  success : ∀ m ∈ ms, m.isSuccess = true
  /-- What a consumer at rest hears next is the end of the session. -/
  inbound : ∀ d m rest, st = .rest (.inbound d) → ms = m :: rest → m.kind = .stopResult
  /-- A station at rest that is not free is going to hear something. -/
  told : ∀ r, st = .rest r → r ≠ .free → ms ≠ [] ∨ st'.hasErrand = true
  /-- The two do not both consume a pointer. -/
  apart : ∀ d d', st.role = .inbound d → st'.role ≠ .inbound d'

namespace Follows

variable {own : Dhid → Prop} {st st₁ st₂ : Standing} {ms ms' : List Dispatch}

theorem append (h : Follows own st ms st₁) (h' : Follows own st₁ ms' st₂) :
    Follows own st (ms ++ ms') st₂ := by
  induction h with
  | done => exact h'
  | announced origin remote _ ih => exact .announced origin remote (ih h')
  | consumes target d l hd _ ih => exact .consumes target d l hd (ih h')
  | getsBack d target d' l _ ih => exact .getsBack d target d' l (ih h')
  | isLeft r target _ ih => exact .isLeft r target (ih h')
  | ignores target d l _ ih => exact .ignores target d l (ih h')

theorem eq_of_nil (h : Follows own st [] st₁) : st₁ = st := by
  cases h
  rfl

/-- While an errand is under way there is nothing to follow. -/
theorem of_hasErrand (h : Follows own st ms st₁) (he : st.hasErrand = true) : st₁ = st := by
  cases h with
  | done => rfl
  | _ => cases he

/-- What is left once the oldest is heard, and what the station may consume then. -/
theorem hear {m : Dispatch} (h : Follows own st (m :: ms) st₁) :
    Follows own (st.hear m) ms st₁ ∧
      ∀ d, (st.hear m).role = .inbound d → st.role = .inbound d ∨ own d := by
  cases h with
  | announced _ _ h => exact ⟨h, fun d hd => by cases hd⟩
  | consumes _ d _ hown h =>
    exact ⟨h, fun d' hd => .inr (by cases hd; exact hown)⟩
  | getsBack _ _ _ _ h => exact ⟨h, fun d hd => by cases hd⟩
  | isLeft r _ h => exact ⟨h, fun d hd => by cases hd⟩
  | ignores _ _ _ h => exact ⟨h, fun d hd => by cases hd⟩

/-- What is no announcement is a success, and makes a station at rest free. -/
theorem hear_of_unannounced {r : Role} {m : Dispatch} (h : Follows own (.rest r) (m :: ms) st₁)
    (hm : m.kind ≠ .announceStart) : m.isSuccess = true ∧ Follows own (.rest .free) ms st₁ := by
  cases h with
  | announced => exact absurd rfl hm
  | getsBack _ _ _ _ h => exact ⟨rfl, h⟩
  | isLeft _ _ h => exact ⟨rfl, h⟩
  | ignores _ _ _ h => exact ⟨rfl, h⟩

/-- Without an announcement a station at rest hears of successes only, and stays or gets free. -/
theorem of_unannounced {r : Role} (h : Follows own (.rest r) ms st₁)
    (hm : ∀ m ∈ ms, m.kind ≠ .announceStart) :
    (∀ m ∈ ms, m.isSuccess = true) ∧ (st₁ = .rest .free ∨ ms = [] ∧ st₁ = .rest r) := by
  induction ms generalizing r with
  | nil => exact ⟨by simp, .inr ⟨rfl, h.eq_of_nil⟩⟩
  | cons m ms ih =>
    obtain ⟨hm, hms⟩ := List.forall_mem_cons.mp hm
    obtain ⟨hs, h⟩ := h.hear_of_unannounced hm
    obtain ⟨hss, hst⟩ := ih h hms
    exact ⟨List.forall_mem_cons.mpr ⟨hs, hss⟩, .inl (hst.elim id fun h => h.2)⟩

/-- Whatever a free station hears of successes, it stays free. -/
theorem of_free (hm : ∀ m ∈ ms, m.isSuccess = true) :
    Follows own (.rest .free) ms (.rest .free) := by
  induction ms with
  | nil => exact .done _
  | cons m ms ih =>
    obtain ⟨hs, hms⟩ := List.forall_mem_cons.mp hm
    cases m with
    | startResult target success d l =>
      obtain rfl : success = true := hs
      exact .ignores target d l (ih hms)
    | stopResult target success =>
      obtain rfl : success = true := hs
      exact .isLeft .free target (ih hms)
    | _ => cases hs

end Follows

namespace Parts

variable {own : Dhid → Prop} {st st' : Standing} {r : Role} {ms : List Dispatch} {m : Dispatch}

theorem of_hasErrand (hp : st.isParting = true) (he : st.hasErrand = true)
    (hs : ∀ m ∈ ms, m.isSuccess = true)
    (ha : ∀ d d', st.role = .inbound d → st'.role ≠ .inbound d') : Parts st ms st' where
  parting := hp
  success := hs
  inbound := fun d m rest hst => by rw [hst] at he; cases he
  told := fun r hst => by rw [hst] at he; cases he
  apart := ha

theorem of_free (hs : ∀ m ∈ ms, m.isSuccess = true) : Parts (.rest .free) ms st' where
  parting := rfl
  success := hs
  inbound := fun d m rest hst => by cases hst
  told := fun r hst hr => absurd (Standing.rest.inj hst).symm hr
  apart := fun d d' hd => by cases hd

/-- A station whose peer is at rest or has begun something gets free by what it hears. -/
theorem follows (h : Parts (.rest r) ms st') (he : st'.hasErrand = false) :
    Follows own (.rest r) ms (.rest .free) := by
  cases ms with
  | nil =>
    by_cases hr : r = .free
    · exact hr ▸ .done _
    · rcases h.told r rfl hr with hne | he'
      · exact absurd rfl hne
      · rw [he] at he'
        cases he'
  | cons m ms =>
    obtain ⟨hs, hms⟩ := List.forall_mem_cons.mp h.success
    have hfree : Follows own (.rest .free) ms (.rest .free) := .of_free hms
    cases m with
    | startResult target success d l =>
      obtain rfl : success = true := hs
      cases r with
      | free => exact .ignores target d l hfree
      | inbound d' => cases h.inbound d' _ ms rfl rfl
      | outbound d' => exact .getsBack d' target d l hfree
    | stopResult target success =>
      obtain rfl : success = true := hs
      exact .isLeft r target hfree
    | _ => cases hs

theorem rest_of_idle (h : Parts st ms st') (he : st.hasErrand = false) : ∃ r, st = .rest r := by
  cases st with
  | rest r => exact ⟨r, rfl⟩
  | announced r => cases h.parting
  | _ => cases he

/-- What a station at rest hears makes it free. -/
theorem hear_of_rest (h : Parts (.rest r) (m :: ms) st') :
    (Standing.rest r).hear m = .rest .free := by
  have hs := h.success m List.mem_cons_self
  cases m with
  | startResult _ success _ _ =>
    obtain rfl : success = true := hs
    cases r with
    | free => rfl
    | inbound d => cases h.inbound d _ ms rfl rfl
    | outbound d => rfl
  | stopResult _ success =>
    obtain rfl : success = true := hs
    rfl
  | _ => cases hs

theorem inbound_of_hear {d : Dhid} (h : Parts st (m :: ms) st')
    (hd : (st.hear m).role = .inbound d) : st.role = .inbound d := by
  cases hb : st.hasErrand with
  | true => rwa [Standing.hear_of_hasErrand hb] at hd
  | false =>
    obtain ⟨r, rfl⟩ := h.rest_of_idle hb
    rw [h.hear_of_rest] at hd
    cases hd

/-- A station hears what is under way to it. -/
theorem hear {ms' : List Dispatch} (h : Parts st (m :: ms) st') (h' : Parts st' ms' st) :
    Parts (st.hear m) ms st' ∧ Parts st' ms' (st.hear m) := by
  obtain ⟨-, hms⟩ := List.forall_mem_cons.mp h.success
  cases hb : st.hasErrand with
  | true =>
    rw [Standing.hear_of_hasErrand hb]
    exact ⟨.of_hasErrand h.parting hb hms h.apart, h'⟩
  | false =>
    obtain ⟨r, rfl⟩ := h.rest_of_idle hb
    rw [h.hear_of_rest]
    refine ⟨.of_free hms, h'.parting, h'.success, h'.inbound, fun r' hst hr => ?_,
      fun d d' _ hd => by cases hd⟩
    exact (h'.told r' hst hr).imp_right fun he => by cases he

/-- A station begins to give up its session. -/
theorem begins {ms' : List Dispatch} (h : Parts (.rest r) ms st')
    (h' : Parts st' ms' (.rest r)) (st₁ : Standing) (hr : st₁.role = r) (he : st₁.hasErrand = true)
    (hp : st₁.isParting = true) : Parts st₁ ms st' ∧ Parts st' ms' st₁ := by
  refine ⟨.of_hasErrand hp he h.success fun d d' hd => h.apart d d' (hr ▸ hd), h'.parting,
    h'.success, h'.inbound, fun _ _ _ => .inr he, fun d d' hd hd' => h'.apart d d' hd (hr ▸ hd')⟩

/-- A station is free and tells of it. -/
theorem finishes {ms' : List Dispatch} (h : Parts st ms st') (h' : Parts st' ms' st)
    (hm : m.isSuccess = true) (hin : ∀ d, st'.role = .inbound d → m.kind = .stopResult) :
    Parts (.rest .free) ms st' ∧ Parts st' (ms' ++ [m]) (.rest .free) := by
  refine ⟨.of_free h.success, h'.parting, ?_, fun d m' rest hst heq => ?_,
    fun _ _ _ => .inl (by simp), fun d d' _ hd => by cases hd⟩
  · simpa [or_imp, forall_and] using ⟨h'.success, hm⟩
  · cases ms' with
    | nil =>
      obtain rfl : m = m' := (List.cons.inj heq).1
      exact hin d (by rw [hst]; rfl)
    | cons m'' ms'' =>
      obtain rfl : m'' = m' := (List.cons.inj heq).1
      exact h'.inbound d m'' ms'' hst rfl

end Parts

namespace Meeting

variable {reg : Side → Registry} {t t' : Meeting} {i : Side} {st : Standing} {ds : List Dispatch}
  {e : Option Errand}

/-- Nothing is under way to the station `i`, and the other one mirrors it once it has heard
everything. -/
structure Leads (reg : Side → Registry) (t : Meeting) (i : Side) : Prop where
  heard : t.inbox i = []
  follows : ∃ st, Follows (Own reg i) (t.standing i.other) (t.inbox i.other) st ∧
    Mirrors (t.standing i) st

/-- Both stations are about to be free. -/
def Parting (t : Meeting) : Prop :=
  ∀ i, Parts (t.standing i) (t.inbox i) (t.standing i.other)

/-- What a station consumes it takes for a pointer of the other one's. -/
def Hosted (reg : Side → Registry) (t : Meeting) : Prop :=
  ∀ i d, (t.standing i).role = .inbound d →
    (reg i).hostOf (reg i.other).home d = (reg i.other).home

/-- The two stations stand alike. -/
structure Alike (reg : Side → Registry) (t : Meeting) : Prop where
  hosted : t.Hosted reg
  alike : (∃ i, t.Leads reg i) ∨ t.Parting

/-- Whoever leads tells the other all that it needs to mirror what the leader did. -/
theorem acts_mirrors {r : Registry} {peer : NetworkId} {own : Dhid → Prop} {st₀ st₁ : Standing}
    (ha : Acts r peer st₀ e st ds) (hm : Mirrors st₀ st₁)
    (hhost : ∀ d, st₀.role = .inbound d → r.hostOf peer d = peer)
    (hown : ∀ device d, st₀ = .opening device → r.dhidOf? device = some d → own d) :
    ∃ st₂, Follows own st₁ ds st₂ ∧ Mirrors st st₂ := by
  cases ha with
  | stays => exact ⟨st₁, .done st₁, hm⟩
  | opens _ device =>
    cases hm
    exact ⟨_, .announced _ _ (.done _), .opening device⟩
  | givesBack d =>
    cases hm
    exact ⟨_, .done _, .handing d⟩
  | handsOn d _ _ hh => exact absurd (hhost d rfl) hh
  | lacksAtOnce d _ _ _ _ hh => exact absurd (hhost d rfl) hh
  | lacks d _ _ hh => exact absurd (hhost d rfl) hh
  | stops r _ =>
    cases hm
    exact ⟨_, .done _, .stopping r⟩
  | shares device d l hd =>
    cases hm
    exact ⟨_, .consumes _ d l (hown device d rfl hd) (.done _), .rest (.outbound d)⟩
  | returns d l =>
    cases hm
    exact ⟨_, .getsBack d _ d l (.done _), .rest .free⟩
  | leaves role =>
    cases hm
    rw [if_pos (Registry.counterpart_eq (r := role) hhost)]
    exact ⟨_, .isLeft _ _ (.done _), .rest .free⟩

theorem Leads.acts (h : t.Leads reg i) (hh : t.Hosted reg) (hd : t.Donates reg)
    (hreg : Acquainted reg) (ha : Acts (reg i) (reg i.other).home (t.standing i) e st ds) :
    (t.acts i st ds).Leads reg i := by
  obtain ⟨st₁, hf, hm⟩ := h.follows
  obtain ⟨st₂, hf', hm'⟩ : ∃ st₂, Follows (Own reg i) st₁ ds st₂ ∧ Mirrors st st₂ :=
    acts_mirrors ha hm (hh i)
      fun device d hst hdhid => hreg i device d ((hd i).opening device hst) hdhid
  refine ⟨by simpa using h.heard, st₂, ?_, by simpa using hm'⟩
  simpa using hf.append hf'

/-- Who follows has no errand. -/
theorem Leads.idle (h : t.Leads reg i) : (t.standing i.other).hasErrand = false := by
  obtain ⟨st₁, hf, hm⟩ := h.follows
  cases hb : (t.standing i.other).hasErrand with
  | false => rfl
  | true =>
    rw [hf.of_hasErrand hb] at hm
    exact hb.symm.trans hm.hasErrand

/-- Who follows begins to give up its session. -/
theorem Leads.begins (h : t.Leads reg i) {r : Role} (hr : t.standing i.other = .rest r)
    (hfree : r ≠ .free) (hclear : ∀ m ∈ t.inbox i.other, m.kind ≠ .announceStart)
    (hrole : st.role = r) (he : st.hasErrand = true) (hp : st.isParting = true)
    (hmirror : Mirrors st (.rest r.mirror)) :
    (t.acts i.other st []).Leads reg i.other ∨ (t.acts i.other st []).Parting := by
  obtain ⟨st₁, hf, hm⟩ := h.follows
  rw [hr] at hf
  obtain ⟨hs, hst⟩ := hf.of_unannounced hclear
  have hparting (r₀ : Role) (hi : (t.standing i).role = r₀.mirror) (hr₀ : r₀ = .free ∨ r₀ = r)
      (hparts : Parts (t.standing i) [] st) : (t.acts i.other st []).Parting := by
    have hapart (d d' : Dhid) (hd : r = .inbound d) : r₀.mirror ≠ .inbound d' := by
      rcases hr₀ with rfl | rfl
      · exact fun h => by cases h
      · exact fun h => by rw [hd] at h; cases h
    refine (Side.forall_iff i).mpr ⟨by simpa [h.heard] using hparts, ?_⟩
    have hother : Parts st (t.inbox i.other) (t.standing i) :=
      .of_hasErrand hp he hs fun d d' hd => hi ▸ hapart d d' (hrole ▸ hd)
    simpa using hother
  rcases hst with rfl | ⟨hnil, rfl⟩
  · -- Leader and follower end the session both: the one has done so or is about to.
    rcases hm.of_rest with hi | ⟨hi, herrand, hpart⟩
    · exact .inr (hparting .free (by rw [hi]; rfl) (.inl rfl) (hi ▸ .of_free (by simp)))
    · exact .inr (hparting _ hi (.inl rfl)
        (.of_hasErrand hpart herrand (by simp) fun d d' hd => by rw [hi] at hd; cases hd))
  · rcases hm.of_rest with hi | ⟨hi, herrand, hpart⟩
    · -- Nothing is on the way, and the follower takes the lead.
      refine .inl ⟨by simpa using hnil, .rest r.mirror, ?_, by simpa using hmirror⟩
      have hdone : Follows (Own reg i.other) (t.standing i) (t.inbox i) (.rest r.mirror) := by
        rw [hi, h.heard]
        exact .done _
      simpa using hdone
    · refine .inr (hparting _ hi (.inr rfl)
        (.of_hasErrand hpart herrand (by simp) fun d d' hd => ?_))
      rw [hrole]
      rintro rfl
      rw [hi] at hd
      cases hd

/-- Who follows acts. It begins something, if it does anything at all. -/
theorem Leads.other_acts (h : t.Leads reg i) (hh : t.Hosted reg)
    (ha : Acts (reg i.other) (reg i).home (t.standing i.other) e st ds)
    (hclear : ∀ x ∈ e, t.Clear i.other x) :
    (∃ j, (t.acts i.other st ds).Leads reg j) ∨ (t.acts i.other st ds).Parting := by
  have hidle := h.idle
  have hhost := hh i.other
  rw [Side.other_other] at hhost
  generalize hst : t.standing i.other = st₀ at ha hidle hhost
  cases ha with
  | stays =>
    refine .inl ⟨i, by simpa using h.heard, ?_⟩
    rw [← hst]
    simpa using h.follows
  | opens place device =>
    -- A start of a free station crosses nothing: the leader is at rest and free.
    have hc := hclear _ rfl
    have hbusy : (t.standing i).hasErrand = false := by
      simpa using hc.idle rfl
    obtain ⟨st₁, hf, hm⟩ := h.follows
    rw [hst, hc.heard rfl] at hf
    obtain rfl := hf.eq_of_nil
    have hi : t.standing i = .rest .free := by
      rcases hm.of_rest with hi | ⟨-, he, -⟩
      · exact hi
      · rw [hbusy] at he
        cases he
    refine .inl ⟨i.other, by simpa using hc.heard rfl, .announced .free, ?_, ?_⟩
    · have hfollows : Follows (Own reg i.other) (t.standing i) (t.inbox i ++
          [.announceStart (reg i.other).home (reg i).home]) (.announced .free) := by
        rw [hi, h.heard]
        exact .announced _ _ (.done _)
      simpa using hfollows
    · simpa using Mirrors.opening device
  | givesBack d place device =>
    have hc := hclear _ rfl
    exact (h.begins hst (fun h => by cases h) hc.unannounced rfl rfl rfl (.handing d)).imp_left
      fun h => ⟨_, h⟩
  | handsOn d _ _ hne => exact absurd (hhost d rfl) hne
  | lacksAtOnce d _ _ _ _ hne => exact absurd (hhost d rfl) hne
  | lacks => cases hidle
  | stops r hr =>
    have hc := hclear _ rfl
    exact (h.begins hst (Role.isFree_eq_false_iff.mp hr) hc.unannounced rfl rfl rfl
      (.stopping r)).imp_left fun h => ⟨_, h⟩
  | shares => cases hidle
  | returns => cases hidle
  | leaves => cases hidle

/-- One of two stations that are about to be free acts. -/
theorem Parting.acts (h : t.Parting) (hh : t.Hosted reg)
    (ha : Acts (reg i) (reg i.other).home (t.standing i) e st ds)
    (hclear : ∀ x ∈ e, t.Clear i x) :
    (∃ j, (t.acts i st ds).Leads reg j) ∨ (t.acts i st ds).Parting := by
  have hi : Parts (t.standing i) (t.inbox i) (t.standing i.other) := h i
  have ho : Parts (t.standing i.other) (t.inbox i.other) (t.standing i) := by
    simpa using h i.other
  have hhost := hh i
  have hparting (hi : Parts st (t.inbox i) (t.standing i.other))
      (ho : Parts (t.standing i.other) (t.inbox i.other ++ ds) st) : (t.acts i st ds).Parting :=
    (Side.forall_iff i).mpr ⟨by simpa using hi, by simpa using ho⟩
  generalize hst : t.standing i = st₀ at ha hi ho hhost
  cases ha with
  | stays => exact .inr (hparting hi (by simpa using ho))
  | opens place device =>
    -- The other station gets free by what it hears, and then it hears of the start.
    have hc := hclear _ rfl
    have hother := hc.idle rfl
    obtain ⟨r, hr⟩ := ho.rest_of_idle hother
    rw [hr] at ho
    refine .inl ⟨i, by simpa using hc.heard rfl, .announced .free, ?_, ?_⟩
    · have hfollows : Follows (Own reg i) (t.standing i.other) (t.inbox i.other ++
          [.announceStart (reg i).home (reg i.other).home]) (.announced .free) := by
        rw [hr]
        exact (ho.follows rfl).append (.announced _ _ (.done _))
      simpa using hfollows
    · simpa using Mirrors.opening device
  | givesBack d =>
    obtain ⟨hi, ho⟩ := hi.begins ho (.handing d) rfl rfl rfl
    exact .inr (hparting hi (by simpa using ho))
  | handsOn d _ _ hne => exact absurd (hhost d rfl) hne
  | lacksAtOnce d _ _ _ _ hne => exact absurd (hhost d rfl) hne
  | lacks d _ _ hne => exact absurd (hhost d rfl) hne
  | stops r hr =>
    obtain ⟨hi, ho⟩ := hi.begins ho (.stopping r) rfl rfl rfl
    exact .inr (hparting hi (by simpa using ho))
  | shares => cases hi.parting
  | returns d l =>
    obtain ⟨hi, ho⟩ := hi.finishes ho (m := .startResult (reg i.other).home true d l) rfl
      fun d' hd => absurd hd (hi.apart d d' rfl)
    exact .inr (hparting hi ho)
  | leaves role =>
    rw [if_pos (Registry.counterpart_eq (r := role) hhost)] at hparting ⊢
    obtain ⟨hi, ho⟩ := hi.finishes ho (m := .stopResult (reg i.other).home true) rfl
      fun d' _ => rfl
    exact .inr (hparting hi ho)

/-- Who follows hears of what the leader did. -/
theorem Leads.other_hears {m : Dispatch} {ms : List Dispatch} (h : t.Leads reg i)
    (hm : t.inbox i.other = m :: ms) :
    (t.hears i.other m ms).Leads reg i ∧
      ∀ d, ((t.standing i.other).hear m).role = .inbound d →
        (t.standing i.other).role = .inbound d ∨ Own reg i d := by
  obtain ⟨st₁, hf, hmirror⟩ := h.follows
  rw [hm] at hf
  obtain ⟨hf, hin⟩ := hf.hear
  exact ⟨⟨by simpa using h.heard, st₁, by simpa using hf, by simpa using hmirror⟩, hin⟩

theorem Parting.hears {m : Dispatch} {ms : List Dispatch} (h : t.Parting)
    (hm : t.inbox i = m :: ms) :
    (t.hears i m ms).Parting ∧
      ∀ d, ((t.standing i).hear m).role = .inbound d → (t.standing i).role = .inbound d := by
  have hi : Parts (t.standing i) (m :: ms) (t.standing i.other) := hm ▸ h i
  have ho : Parts (t.standing i.other) (t.inbox i.other) (t.standing i) := by
    simpa using h i.other
  obtain ⟨hi', ho'⟩ := hi.hear ho
  exact ⟨(Side.forall_iff i).mpr ⟨by simpa using hi', by simpa using ho'⟩,
    fun d hd => hi.inbound_of_hear hd⟩

/-- **Two stations that stand alike go on to.** -/
theorem Alike.step {b : Option (Side × Errand)} (h : t.Alike reg) (hd : t.Donates reg)
    (hreg : Acquainted reg) (hs : t.Step reg b t')
    (hclear : ∀ i e, b = some (i, e) → t.Clear i e) : t'.Alike reg := by
  cases hs with
  | acts i e st ds ha =>
    have hclear' (x : Errand) (hx : x ∈ e) : t.Clear i x := hclear i x (by
      rw [show e = some x from hx]
      rfl)
    refine ⟨(Side.forall_iff i).mpr ⟨fun d hr => ?_, fun d hr => ?_⟩, ?_⟩
    · rw [standing_acts] at hr
      exact h.hosted i d (ha.inbound hr)
    · rw [standing_acts_other] at hr
      exact h.hosted i.other d hr
    rcases h.alike with ⟨j, hj⟩ | hparting
    · rcases Side.eq_or_eq_other j i with rfl | rfl
      · exact .inl ⟨i, hj.acts h.hosted hd hreg ha⟩
      · rw [Side.other_other] at ha
        exact hj.other_acts h.hosted ha hclear'
    · exact hparting.acts h.hosted ha hclear'
  | hears i m ms hm =>
    have hhosted (hin : ∀ d, ((t.standing i).hear m).role = .inbound d →
        (t.standing i).role = .inbound d ∨ (reg i).hostOf (reg i.other).home d =
          (reg i.other).home) : (t.hears i m ms).Hosted reg := by
      refine (Side.forall_iff i).mpr ⟨fun d hr => ?_, fun d hr => ?_⟩
      · rw [standing_hears] at hr
        exact (hin d hr).elim (h.hosted i d) id
      · rw [standing_hears_other] at hr
        exact h.hosted i.other d hr
    rcases h.alike with ⟨j, hj⟩ | hparting
    · rcases Side.eq_or_eq_other j i with rfl | rfl
      · rw [hj.heard] at hm
        cases hm
      · obtain ⟨hlead, hin⟩ := hj.other_hears hm
        refine ⟨hhosted fun d hr => ?_, .inl ⟨j, hlead⟩⟩
        rw [Side.other_other]
        exact hin d hr
    · obtain ⟨hpart, hin⟩ := hparting.hears hm
      exact ⟨hhosted fun d hr => .inl (hin d hr), .inr hpart⟩

/-- Two stations at rest that have heard everything stand alike iff each mirrors the other. -/
theorem Alike.mirror (h : t.Alike reg) (hin : ∀ i, t.inbox i = []) {r : Side → Role}
    (hr : ∀ i, t.standing i = .rest (r i)) (i : Side) : r i.other = (r i).mirror := by
  rcases h.alike with ⟨j, hj⟩ | hparting
  · obtain ⟨st, hf, hm⟩ := hj.follows
    rw [hin, hr] at hf
    obtain rfl := hf.eq_of_nil
    have hj' : r j = (r j.other).mirror := by
      rcases hm.of_rest with hst | ⟨-, he, -⟩
      · exact Standing.rest.inj ((hr j).symm.trans hst)
      · rw [hr] at he
        cases he
    rcases Side.eq_or_eq_other j i with rfl | rfl
    · rw [hj', Role.mirror_mirror]
    · rw [Side.other_other]
      exact hj'
  · have hfree (j : Side) : r j = .free := Classical.byContradiction fun hne => by
      rcases (hparting j).told (r j) (hr j) hne with hne' | he
      · exact hne' (hin j)
      · rw [hr] at he
        cases he
    rw [hfree, hfree]
    rfl

end Meeting

end PointerShare
