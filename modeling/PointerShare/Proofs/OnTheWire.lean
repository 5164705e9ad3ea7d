/-
# Values on the wire read back

Whatever a station writes of a value, its peer reads the same value from it:
ids may hold any characters. What a station has read, in whichever of the forms
that are accepted, it can write for the next one to read. Only finite doubles
have a text, and reading by scaling does not give every one of them back, so
that is asked of the doubles that a value holds. A location is always made by
moving coordinates into range, when it is read as well, and moving them once
more changes nothing.

Key definitions: `Location.InRange`, `Wire.Writable`, `Wire.Lossless`,
`Wire.PrintsBack`, `Wire.Kind`, `Wire.Kind.Regular`.
Key theorems: `Location.clampPercent_clampPercent`, `Wire.record?_object`,
`Wire.read?_write`, `Wire.Kind.ofJson?_toJson`,
`Wire.Kind.regular_of_ofJson?`, `Wire.Kind.reads_back`.
-/
import PointerShare.Proofs.Doubles
import PointerShare.Proofs.Numerals
import PointerShare.Wire

namespace PointerShare

/-- The doubles of an action. -/
def PointerAction.doubles : PointerAction → List Float
  | .axis vertical horizontal => [vertical, horizontal]
  | _ => []

def Location.doubles (l : Location) : List Float := [l.x, l.y]

/-- The locations that a signal carries. -/
def PeerSignal.locations : PeerSignal → List Location
  | .startResult _ _ _ location => [location]
  | _ => []

/-! ## Locations -/

namespace Location

/-- Moving a percentage into range moves it once. -/
theorem clampPercent_clampPercent (v : Float) :
    clampPercent (clampPercent v) = clampPercent v := by
  unfold clampPercent
  by_cases hnan : v.isNaN
  · rw [if_pos hnan]
    decide +kernel
  by_cases hlow : v < 0.0
  · rw [if_neg hnan, if_pos hlow]
    decide +kernel
  by_cases hhigh : v > 100.0
  · rw [if_neg hnan, if_neg hlow, if_pos hhigh]
    decide +kernel
  · simp only [if_neg hnan, if_neg hlow, if_neg hhigh]

theorem isFinite_clampPercent {v : Float} (hv : v.isFinite = true) :
    (clampPercent v).isFinite = true := by
  unfold clampPercent
  split
  · decide +kernel
  split
  · decide +kernel
  split
  · decide +kernel
  · exact hv

/-- A location whose coordinates were moved into range, as those of all locations are when they are
made. -/
def InRange (l : Location) : Prop := ∃ x y, l = clamp x y

theorem InRange.clamp_eq {l : Location} (h : l.InRange) : clamp l.x l.y = l := by
  obtain ⟨x, y, rfl⟩ := h
  simp only [clamp, clampPercent_clampPercent]

end Location

namespace Wire

open Json

/-! ## Shapes -/

theorem wellFormed_glyphs (s : String) : ∀ g ∈ glyphs s, g.WellFormed := by
  intro g hg
  obtain ⟨c, -, rfl⟩ := List.mem_map.mp hg
  trivial

theorem wellFormed_string (s : String) : (Value.string s).WellFormed := wellFormed_glyphs s

theorem wellFormed_int (i : Int) : (Value.int i).WellFormed := Number.wellFormed_ofInt i

theorem wellFormed_float (f : Float) : (Value.float f).WellFormed := by
  unfold Value.float
  split
  · exact Number.wellFormed_ofFloat f
  · trivial

theorem wellFormed_fields : ∀ {fs : List (String × Value)}, (∀ f ∈ fs, f.2.WellFormed) →
    (Value.fields fs).WellFormed
  | [], _ => trivial
  | (name, _) :: _, h =>
    ⟨wellFormed_glyphs name, h _ List.mem_cons_self,
      wellFormed_fields fun f hf => h f (List.mem_cons_of_mem _ hf)⟩

theorem wellFormed_choice (name : String) {content : Value} (h : content.WellFormed) :
    (choice name content).WellFormed :=
  wellFormed_fields fun f hf => by
    rw [List.mem_singleton.mp hf]
    exact h

/-- The field of a name, when no name comes twice. -/
theorem filter_name {fs : List (String × Value)} (h : (fs.map (·.1)).Nodup)
    {f : String × Value} (hf : f ∈ fs) : fs.filter (fun g => g.1 == f.1) = [f] := by
  induction fs with
  | nil => cases hf
  | cons g fs ih =>
    obtain ⟨hnew, hrest⟩ := List.nodup_cons.mp h
    rcases List.mem_cons.mp hf with rfl | hmem
    · rw [List.filter_cons_of_pos (by simp), List.filter_eq_nil_iff.mpr]
      intro e he heq
      exact hnew (List.mem_map.mpr ⟨e, he, beq_iff_eq.mp heq⟩)
    · rw [List.filter_cons_of_neg, ih hrest hmem]
      intro heq
      exact hnew (List.mem_map.mpr ⟨f, hmem, (beq_iff_eq.mp heq).symm⟩)

/-- A record is read from an object of its fields in any order, with others among them. -/
theorem record?_object {names : List String} {fs gs others : List (String × Value)}
    (hnames : fs.map (·.1) = names) (h : names.Nodup) (hperm : gs.Perm (fs ++ others))
    (hothers : ∀ g ∈ others, g.1 ∉ names) :
    record? names (.fields gs) = some (fs.map fun f => some f.2) := by
  subst hnames
  have hread : (gs.map fun g => (glyphs g.1, g.2)).mapM
      (fun g => (string? g.1).map fun name => (name, g.2)) = some gs := by
    clear hperm
    induction gs with
    | nil => rfl
    | cons g gs ih => simp [ih]
  have hone : ∀ f ∈ fs, gs.filter (fun g => g.1 == f.1) = [f] := by
    intro f hf
    have hnone : others.filter (fun g => g.1 == f.1) = [] :=
      List.filter_eq_nil_iff.mpr fun g hg heq =>
        hothers g hg (List.mem_map.mpr ⟨f, hf, (beq_iff_eq.mp heq).symm⟩)
    have hfiltered := hperm.filter (fun g => g.1 == f.1)
    rw [List.filter_append, filter_name h hf, hnone] at hfiltered
    exact List.perm_singleton.mp hfiltered
  have hfound : (fs.map (·.1)).map (fun name => gs.filter fun g => g.1 == name) =
      fs.map fun f => [f] := by
    rw [List.map_map]
    exact List.map_congr_left hone
  simp only [record?, Value.fields, hread, hfound]
  rw [if_pos (by simp)]
  simp

theorem record?_fields {names : List String} {fs : List (String × Value)}
    (hnames : fs.map (·.1) = names) (h : names.Nodup) :
    record? names (.fields fs) = some (fs.map fun f => some f.2) :=
  record?_object hnames h (.of_eq (List.append_nil fs).symm) (List.forall_mem_nil _)

/-- What is made of a record's values is made of those that were written. -/
theorem record?_bind {α : Type} {names : List String} {fs : List (String × Value)}
    {f : List (Option Value) → Option α} (hnames : fs.map (·.1) = names) (h : names.Nodup) :
    (record? names (.fields fs)).bind f = f (fs.map fun f => some f.2) := by
  rw [record?_fields hnames h]
  rfl

@[simp] theorem choice?_choice (name : String) (content : Value) :
    choice? (choice name content) = some (name, some content) := by
  simp [choice, choice?, Value.fields]

@[simp] theorem choice?_string (name : String) : choice? (.string name) = some (name, none) := by
  simp [choice?, Value.string]

/-! ## Values without doubles -/

/-- A type of which every value has a well-formed text. -/
class Writable (α : Type) [Wire α] : Prop where
  wellFormed (a : α) : (toJson a).WellFormed

/-- A type of which every value is read back as it was. -/
class Lossless (α : Type) [Wire α] : Prop extends Writable α where
  ofJson?_toJson (a : α) : ofJson? (toJson a) = some a

@[simp] theorem required?_some {α : Type} [Wire α] (v : Value) :
    (required? (some v) : Option α) = ofJson? v := rfl

attribute [simp] Writable.wellFormed Lossless.ofJson?_toJson

/-- What is read from the text of a value. -/
theorem read?_write {α : Type} [Wire α] [Writable α] (a : α) :
    read? α (write a) = ofJson? (toJson a) := by
  unfold read? write
  rw [parse?_write (Writable.wellFormed a)]
  rfl

instance : Lossless Bool where
  wellFormed _ := trivial
  ofJson?_toJson _ := rfl

theorem intBetween?_int {low high i : Int} (hlow : low ≤ i) (hhigh : i ≤ high)
    (hleast : -(2 ^ 63) ≤ low) (hmost : high < 2 ^ 64) :
    intBetween? low high (.int i) = some i := by
  have hread : (Number.ofInt i).int? = some i := Number.int?_ofInt (by omega) (by omega)
  simp only [intBetween?, Value.int, hread]
  exact Option.filter_some_pos (by simpa using ⟨hlow, hhigh⟩)

instance : Lossless Int32 where
  wellFormed _ := wellFormed_int _
  ofJson?_toJson i := by
    show (intBetween? _ _ (.int i.toInt)).map Int32.ofInt = some i
    have hlow := i.le_toInt
    have hhigh := i.toInt_lt
    have hpow : Nat.pow 2 31 = 2 ^ 31 := rfl
    rw [intBetween?_int (by omega) (by omega) (by omega) (by omega)]
    simp

instance : Lossless UInt32 where
  wellFormed _ := wellFormed_int _
  ofJson?_toJson n := by
    show (intBetween? _ _ (.int n.toNat)).map (fun i => i.toNat.toUInt32) = some n
    have hhigh := n.toNat_lt
    have hpow : Nat.pow 2 32 = 2 ^ 32 := rfl
    rw [intBetween?_int (by omega) (by omega) (by omega) (by omega)]
    simp

instance : Lossless UInt64 where
  wellFormed _ := wellFormed_int _
  ofJson?_toJson n := by
    show (intBetween? _ _ (.int n.toNat)).map (fun i => i.toNat.toUInt64) = some n
    have hhigh := n.toNat_lt
    have hpow : Nat.pow 2 64 = 2 ^ 64 := rfl
    rw [intBetween?_int (by omega) (by omega) (by omega) (by omega)]
    simp

instance : Lossless String where
  wellFormed := wellFormed_string
  ofJson?_toJson := string?_glyphs

instance : Lossless NetworkId where
  wellFormed id := wellFormed_string id.text
  ofJson?_toJson id := by
    show (ofJson? (toJson id.text)).map NetworkId.mk = some id
    rw [Lossless.ofJson?_toJson]
    rfl

instance : Lossless Dhid where
  wellFormed id := wellFormed_string id.text
  ofJson?_toJson id := by
    show (ofJson? (toJson id.text)).map Dhid.mk = some id
    rw [Lossless.ofJson?_toJson]
    rfl

instance : Lossless DeviceId where
  wellFormed id := Writable.wellFormed id.number
  ofJson?_toJson id := by
    show (ofJson? (toJson id.number)).map DeviceId.mk = some id
    rw [Lossless.ofJson?_toJson]
    rfl

instance : Lossless Screen where
  wellFormed s := wellFormed_fields (by simp)
  ofJson?_toJson s := Eq.trans (record?_bind rfl (by decide)) (by simp)

instance : Lossless Link where
  wellFormed l := wellFormed_fields (by simp)
  ofJson?_toJson l := Eq.trans (record?_bind rfl (by decide)) (by simp)

instance : Lossless Role where
  wellFormed r := by
    cases r with
    | free => exact wellFormed_string _
    | inbound d => exact wellFormed_choice _ (Writable.wellFormed d)
    | outbound d => exact wellFormed_choice _ (Writable.wellFormed d)
  ofJson?_toJson r := by
    unfold ofJson? instRole
    cases r <;> simp

instance : Lossless Verdict where
  wellFormed v := by cases v <;> exact wellFormed_string _
  ofJson?_toJson v := by cases v <;> rfl

instance : Lossless Message where
  wellFormed m := wellFormed_string m.name
  ofJson?_toJson m := by cases m <;> rfl

instance : Lossless Reason where
  wellFormed r := wellFormed_string r.name
  ofJson?_toJson r := by cases r <;> rfl

instance : Lossless (Option Reason) where
  wellFormed o := by
    cases o with
    | none => trivial
    | some r => exact Writable.wellFormed r
  ofJson?_toJson o := by
    cases o with
    | none => rfl
    | some r =>
      show (ofJson? (toJson r)).map some = _
      simp

instance : Lossless Notice where
  wellFormed n := wellFormed_fields (by simp)
  ofJson?_toJson n := Eq.trans (record?_bind rfl (by decide)) (by simp)

/-! ## Values with doubles -/

instance : Writable Float where
  wellFormed := wellFormed_float

instance : Writable Location where
  wellFormed l := wellFormed_fields (by simp)

instance : Writable PointerAction where
  wellFormed a := by cases a <;> exact wellFormed_choice _ (wellFormed_fields (by simp))

instance : Writable PointerEvent where
  wellFormed e := wellFormed_fields (by simp)

instance : Writable PeerSignal where
  wellFormed s := by cases s <;> exact wellFormed_choice _ (wellFormed_fields (by simp))

/-- The printed text of a double, if it has one, is read as that double. -/
def PrintsBack (f : Float) : Prop := f.isFinite = true → read? Float (write f) = some f

instance : DecidablePred PrintsBack := fun f =>
  inferInstanceAs (Decidable (f.isFinite = true → read? Float (write f) = some f))

example : ¬PrintsBack 99.99999999999999 := by decide +kernel

/-- A finite double that prints back is read as it was. -/
theorem ofJson?_float {f : Float} (hf : f.isFinite = true) (h : PrintsBack f) :
    ofJson? (toJson f) = some f := by
  rw [← read?_write]
  exact h hf

theorem ofJson?_location {l : Location} (hrange : l.InRange)
    (hfinite : ∀ f ∈ l.doubles, f.isFinite = true) (hprints : ∀ f ∈ l.doubles, PrintsBack f) :
    ofJson? (toJson l) = some l := by
  have hx := ofJson?_float (hfinite l.x List.mem_cons_self) (hprints l.x List.mem_cons_self)
  have hmem : l.y ∈ l.doubles := List.mem_cons_of_mem _ List.mem_cons_self
  have hy := ofJson?_float (hfinite l.y hmem) (hprints l.y hmem)
  refine Eq.trans (record?_bind rfl (by decide)) ?_
  simp [hx, hy, hrange.clamp_eq]

theorem ofJson?_action {a : PointerAction} (hfinite : ∀ f ∈ a.doubles, f.isFinite = true)
    (hprints : ∀ f ∈ a.doubles, PrintsBack f) : ofJson? (toJson a) = some a := by
  unfold ofJson? instPointerAction
  cases a with
  | axis v h =>
    have hv := ofJson?_float (hfinite v List.mem_cons_self) (hprints v List.mem_cons_self)
    have hmem : h ∈ (PointerAction.axis v h).doubles := List.mem_cons_of_mem _ List.mem_cons_self
    have hh := ofJson?_float (hfinite h hmem) (hprints h hmem)
    simp [record?_fields, hv, hh]
  | _ => simp [record?_fields]

theorem ofJson?_event {e : PointerEvent} (h : ofJson? (toJson e.action) = some e.action) :
    ofJson? (toJson e) = some e :=
  Eq.trans (record?_bind rfl (by decide)) (by simp [h])

theorem ofJson?_signal {s : PeerSignal} (h : ∀ l ∈ s.locations, ofJson? (toJson l) = some l) :
    ofJson? (toJson s) = some s := by
  unfold ofJson? instPeerSignal
  cases s with
  | startResult sender success dhid location =>
    have hl := h location (by simp [PeerSignal.locations])
    simp [record?_fields, hl]
  | _ => simp [record?_fields]

/-! ## What can be read -/

theorem ofJson?_of_required? {α : Type} [Wire α] {o : Option Value} {a : α}
    (h : required? o = some a) : ∃ v, ofJson? v = some a := by
  cases o with
  | none => cases h
  | some v => exact ⟨v, h⟩

theorem isFinite_of_ofJson? {v : Value} {f : Float} (h : ofJson? v = some f) :
    f.isFinite = true := by
  cases v with
  | number n => exact Number.isFinite_of_float? h
  | _ => cases h

theorem isFinite_of_required? {o : Option Value} {f : Float} (h : required? o = some f) :
    f.isFinite = true := by
  obtain ⟨v, hv⟩ := ofJson?_of_required? h
  exact isFinite_of_ofJson? hv

theorem location_of_ofJson? {v : Value} {l : Location} (h : ofJson? v = some l) :
    l.InRange ∧ ∀ f ∈ l.doubles, f.isFinite = true := by
  unfold ofJson? instLocation at h
  obtain ⟨values, -, h⟩ := Option.bind_eq_some_iff.mp h
  split at h
  · obtain ⟨x, hx, h⟩ := Option.bind_eq_some_iff.mp h
    obtain ⟨y, hy, h⟩ := Option.bind_eq_some_iff.mp h
    obtain rfl := Option.some.inj h
    refine ⟨⟨x, y, rfl⟩, ?_⟩
    simp [Location.doubles, Location.clamp, Location.isFinite_clampPercent,
      isFinite_of_required? hx, isFinite_of_required? hy]
  · cases h

theorem action_of_ofJson? {v : Value} {a : PointerAction} (h : ofJson? v = some a) :
    ∀ f ∈ a.doubles, f.isFinite = true := by
  unfold ofJson? instPointerAction at h
  dsimp only at h
  cases a with
  | axis vertical horizontal =>
    split at h
    case h_4 =>
      obtain ⟨values, -, h⟩ := Option.bind_eq_some_iff.mp h
      split at h
      · obtain ⟨_, hv, h⟩ := Option.bind_eq_some_iff.mp h
        obtain ⟨_, hh, h⟩ := Option.bind_eq_some_iff.mp h
        cases h
        simp [PointerAction.doubles, isFinite_of_required? hv, isFinite_of_required? hh]
      · cases h
    case h_7 => cases h
    all_goals
      -- another choice is read as another action
      obtain ⟨values, -, h⟩ := Option.bind_eq_some_iff.mp h
      split at h <;> simp [Option.bind_eq_some_iff] at h
  | _ => simp [PointerAction.doubles]

theorem event_of_ofJson? {v : Value} {e : PointerEvent} (h : ofJson? v = some e) :
    ∀ f ∈ e.action.doubles, f.isFinite = true := by
  unfold ofJson? instPointerEvent at h
  obtain ⟨values, -, h⟩ := Option.bind_eq_some_iff.mp h
  split at h
  · obtain ⟨_, -, h⟩ := Option.bind_eq_some_iff.mp h
    obtain ⟨_, -, h⟩ := Option.bind_eq_some_iff.mp h
    obtain ⟨action, haction, h⟩ := Option.bind_eq_some_iff.mp h
    cases h
    obtain ⟨w, hw⟩ := ofJson?_of_required? haction
    exact action_of_ofJson? hw
  · cases h

theorem signal_of_ofJson? {v : Value} {s : PeerSignal} (h : ofJson? v = some s) :
    ∀ l ∈ s.locations, l.InRange ∧ ∀ f ∈ l.doubles, f.isFinite = true := by
  unfold ofJson? instPeerSignal at h
  dsimp only at h
  cases s with
  | startResult sender success dhid location =>
    split at h
    case h_2 =>
      obtain ⟨values, -, h⟩ := Option.bind_eq_some_iff.mp h
      split at h
      · obtain ⟨_, -, h⟩ := Option.bind_eq_some_iff.mp h
        obtain ⟨_, -, h⟩ := Option.bind_eq_some_iff.mp h
        obtain ⟨_, -, h⟩ := Option.bind_eq_some_iff.mp h
        obtain ⟨l, hl, h⟩ := Option.bind_eq_some_iff.mp h
        cases h
        obtain ⟨w, hw⟩ := ofJson?_of_required? hl
        simpa [PeerSignal.locations] using location_of_ofJson? hw
      · cases h
    case h_6 => cases h
    all_goals
      -- another choice is read as another signal
      obtain ⟨values, -, h⟩ := Option.bind_eq_some_iff.mp h
      split at h <;> simp [Option.bind_eq_some_iff] at h
  | _ => simp [PeerSignal.locations]

/-- The values on the wire, sort by sort. -/
inductive Kind where
  | networkId
  | dhid
  | deviceId
  | role
  | link
  | action
  | event
  | verdict
  | message
  | reason
  | notice
  | signal
  | location
  | screen
  deriving DecidableEq, Repr

namespace Kind

/-- The type of the values of a sort. -/
abbrev Carrier : Kind → Type
  | networkId => NetworkId
  | dhid => Dhid
  | deviceId => DeviceId
  | role => Role
  | link => Link
  | action => PointerAction
  | event => PointerEvent
  | verdict => Verdict
  | message => Message
  | reason => Reason
  | notice => Notice
  | signal => PeerSignal
  | location => Location
  | screen => Screen

instance : (k : Kind) → Wire k.Carrier
  | networkId => inferInstanceAs (Wire NetworkId)
  | dhid => inferInstanceAs (Wire Dhid)
  | deviceId => inferInstanceAs (Wire DeviceId)
  | role => inferInstanceAs (Wire Role)
  | link => inferInstanceAs (Wire Link)
  | action => inferInstanceAs (Wire PointerAction)
  | event => inferInstanceAs (Wire PointerEvent)
  | verdict => inferInstanceAs (Wire Verdict)
  | message => inferInstanceAs (Wire Message)
  | reason => inferInstanceAs (Wire Reason)
  | notice => inferInstanceAs (Wire Notice)
  | signal => inferInstanceAs (Wire PeerSignal)
  | location => inferInstanceAs (Wire Location)
  | screen => inferInstanceAs (Wire Screen)

/-- The locations in a value. -/
def locations : (k : Kind) → k.Carrier → List Location
  | signal, s => s.locations
  | location, l => [l]
  | _, _ => []

/-- The doubles in a value. -/
def doubles : (k : Kind) → k.Carrier → List Float
  | action, a => a.doubles
  | event, e => e.action.doubles
  | signal, s => s.locations.flatMap Location.doubles
  | location, l => l.doubles
  | _, _ => []

/-- A value whose doubles have a written form, and whose locations have been made. -/
structure Regular (k : Kind) (a : k.Carrier) : Prop where
  finite : ∀ f ∈ k.doubles a, f.isFinite = true
  inRange : ∀ l ∈ k.locations a, l.InRange

instance (k : Kind) : Writable k.Carrier := by
  cases k <;> infer_instance

theorem ofJson?_toJson (k : Kind) {a : k.Carrier} (h : k.Regular a)
    (hprints : ∀ f ∈ k.doubles a, PrintsBack f) : ofJson? (toJson a) = some a := by
  obtain ⟨hfinite, hrange⟩ := h
  cases k with
  | action => exact ofJson?_action hfinite hprints
  | event => exact ofJson?_event (ofJson?_action hfinite hprints)
  | signal =>
    exact ofJson?_signal fun l hl => ofJson?_location (hrange l hl)
      (fun f hf => hfinite f (List.mem_flatMap.mpr ⟨l, hl, hf⟩))
      (fun f hf => hprints f (List.mem_flatMap.mpr ⟨l, hl, hf⟩))
  | location => exact ofJson?_location (hrange a (List.mem_singleton.mpr rfl)) hfinite hprints
  | _ => exact Lossless.ofJson?_toJson a

theorem regular_of_ofJson? (k : Kind) {v : Value} {a : k.Carrier} (h : ofJson? v = some a) :
    k.Regular a := by
  cases k with
  | action => exact ⟨action_of_ofJson? h, nofun⟩
  | event => exact ⟨event_of_ofJson? h, nofun⟩
  | signal =>
    have hlocations := signal_of_ofJson? h
    refine ⟨fun f hf => ?_, fun l hl => (hlocations l hl).1⟩
    obtain ⟨l, hl, hf⟩ := List.mem_flatMap.mp hf
    exact (hlocations l hl).2 f hf
  | location =>
    obtain ⟨hrange, hfinite⟩ := location_of_ofJson? h
    exact ⟨hfinite, fun l hl => List.mem_singleton.mp hl ▸ hrange⟩
  | _ => exact ⟨nofun, nofun⟩

/-- **What is written is read back.** A value whose doubles are finite and print back is read from
its own text, whatever its ids hold; and a value that was read from any text at all, in whichever
form, is such a value, and is read from its own text in turn. -/
theorem reads_back (k : Kind) :
    (∀ a : k.Carrier, k.Regular a → (∀ f ∈ k.doubles a, PrintsBack f) →
      read? k.Carrier (write a) = some a) ∧
    (∀ (text : String) (a : k.Carrier), read? k.Carrier text = some a →
      k.Regular a ∧
        ((∀ f ∈ k.doubles a, PrintsBack f) → read? k.Carrier (write a) = some a)) := by
  have hwritten (a : k.Carrier) (h : k.Regular a) (hprints : ∀ f ∈ k.doubles a, PrintsBack f) :
      read? k.Carrier (write a) = some a :=
    (read?_write a).trans (k.ofJson?_toJson h hprints)
  refine ⟨hwritten, fun text a h => ?_⟩
  obtain ⟨v, -, hv⟩ := Option.bind_eq_some_iff.mp h
  have hregular := k.regular_of_ofJson? hv
  exact ⟨hregular, hwritten a hregular⟩

/-- A signal with an odd id, and a location that was read from its fields in another order, among
others and out of range. -/
theorem odd_values_read_back :
    read? PeerSignal (write (PeerSignal.startResult ⟨"\"\\\x01é"⟩ true ⟨""⟩ ⟨12.5, 100.0⟩)) =
        some (.startResult ⟨"\"\\\x01é"⟩ true ⟨""⟩ ⟨12.5, 100.0⟩) ∧
      read? Location "\x7b\"y_pct\": -5e-1, \"z\": [null], \"x_pct\": 250\x7d" =
        some ⟨100.0, 0.0⟩ ∧
      read? Location (write (Location.mk 100.0 0.0)) = some ⟨100.0, 0.0⟩ := by
  constructor
  · refine (reads_back .signal).1 (.startResult _ true _ ⟨12.5, 100.0⟩) ⟨?_, fun l hl => ?_⟩ ?_
    · decide +kernel
    · exact ⟨12.5, 100.0, List.mem_singleton.mp hl ▸ by decide +kernel⟩
    · decide +kernel
  · have hread : read? Location "\x7b\"y_pct\": -5e-1, \"z\": [null], \"x_pct\": 250\x7d" =
        some ⟨100.0, 0.0⟩ := by
      decide +kernel
    exact ⟨hread, ((reads_back .location).2 _ _ hread).2 (by decide +kernel)⟩

end Kind

end Wire

end PointerShare
