/-
# A written value reads back

Writing a JSON value and reading the text gives the value again, whatever its
texts hold, as long as its numbers are written as numbers must be: one digit or
more on every side, and no zero before another digit. Reading is in one pass and
takes just what was written of the value, as long as what follows cannot go on
with a number.

Key definitions: `Number.WellFormed`, `Glyph.WellFormed`, `Value.WellFormed`.
Key theorems: `readText_write`, `readNumber_write`, `readValue_chars`,
`parse?_write`.
-/
import PointerShare.Json.Reader
import PointerShare.Json.Writer
import Mathlib.Tactic.Common

namespace PointerShare
namespace Json

/-! ## What can be written -/

/-- One digit or more. -/
def AreDigits (ds : List Char) : Prop := ds ≠ [] ∧ ∀ c ∈ ds, isDigit c = true

/-- The digits of every part, without a zero before another digit of the whole part. -/
structure Number.WellFormed (n : Number) : Prop where
  whole : AreDigits n.whole
  head : n.whole.head? = some '0' → n.whole.length = 1
  fraction : ∀ ds ∈ n.fraction, AreDigits ds
  exponent : ∀ e ∈ n.exponent, AreDigits e.2

/-- Half of a surrogate pair is one of the units that make such pairs. -/
def Glyph.WellFormed : Glyph → Prop
  | .char _ => True
  | .half u => 0xD800 ≤ u.toNat ∧ u.toNat < 0xE000

mutual

def Value.WellFormed : Value → Prop
  | .number n => n.WellFormed
  | .text t => ∀ g ∈ t, g.WellFormed
  | .array items => ItemsWellFormed items
  | .object fields => FieldsWellFormed fields
  | _ => True

def ItemsWellFormed : List Value → Prop
  | [] => True
  | v :: rest => v.WellFormed ∧ ItemsWellFormed rest

def FieldsWellFormed : List (List Glyph × Value) → Prop
  | [] => True
  | (name, v) :: rest => (∀ g ∈ name, g.WellFormed) ∧ v.WellFormed ∧ FieldsWellFormed rest

end

/-! ## Texts -/

theorem hexValue?_hexDigit : ∀ k < 16, hexValue? (hexDigit k) = some k := by decide

/-- Four hexadecimal digits read back. -/
theorem readText_hex4 {u : Nat} (hu : u < 65536) (cs : List Char) :
    readText ('\\' :: 'u' :: hex4 u ++ cs) =
      (readText cs).map fun p => (unitGlyph u :: p.1, p.2) := by
  have h : ((u / 4096 % 16 * 16 + u / 256 % 16) * 16 + u / 16 % 16) * 16 + u % 16 = u := by omega
  simp only [hex4, List.cons_append, List.nil_append]
  rw [readText]
  simp only [hexValue?_hexDigit _ (Nat.mod_lt _ (by decide : 0 < 16)), h]

theorem readText_plain {c : Char} (hq : c ≠ '"') (hb : c ≠ '\\') (hc : ¬c.toNat < 0x20)
    (cs : List Char) : readText (c :: cs) = (readText cs).map fun p => (.char c :: p.1, p.2) := by
  have hread : ¬(c.toNat < 0x20 ∨ c = '\\') := by simp [hc, hb]
  rw [readText.eq_def]
  split
  · rename_i h
    cases h
  · rename_i h
    exact absurd (List.cons.inj h).1 hq
  · rename_i h
    exact absurd (List.cons.inj h).1 hb
  · rename_i h
    exact absurd (List.cons.inj h).1 hb
  · rename_i h
    obtain ⟨rfl, rfl⟩ := List.cons.inj h
    exact if_neg hread

theorem readText_writeChar (c : Char) (cs : List Char) :
    readText (writeChar c ++ cs) = (readText cs).map fun p => (.char c :: p.1, p.2) := by
  by_cases hletter : c ∈ ['"', '\\', '\x08', '\x0c', '\n', '\r', '\t']
  · simp only [List.mem_cons, List.not_mem_nil, or_false] at hletter
    rcases hletter with rfl | rfl | rfl | rfl | rfl | rfl | rfl <;>
      simp [writeChar, readText, escape?]
  · simp only [List.mem_cons, List.not_mem_nil, or_false, not_or] at hletter
    obtain ⟨hquote, hbackslash, hb, hf, hn, hr, ht⟩ := hletter
    simp only [writeChar, hquote, hbackslash, hb, hf, hn, hr, ht, if_false]
    split
    · rename_i hcontrol
      have hglyph : unitGlyph c.toNat = .char c := by
        rw [unitGlyph, if_neg (by omega), Char.ofNat_toNat]
      rw [readText_hex4 (by omega), hglyph]
    · rename_i hcontrol
      exact readText_plain hquote hbackslash hcontrol cs

theorem readText_writeGlyph {g : Glyph} (hg : g.WellFormed) (cs : List Char) :
    readText (writeGlyph g ++ cs) = (readText cs).map fun p => (g :: p.1, p.2) := by
  cases g with
  | char c => exact readText_writeChar c cs
  | half u =>
    have hglyph : unitGlyph u.toNat = .half u := by
      have hg' : 0xD800 ≤ u.toNat ∧ u.toNat < 0xE000 := hg
      rw [unitGlyph, if_pos hg']
      simp
    unfold writeGlyph
    rw [readText_hex4 u.toNat_lt, hglyph]

/-- A text reads back. -/
theorem readText_write {t : List Glyph} (ht : ∀ g ∈ t, g.WellFormed) (rest : List Char) :
    readText (writeText t ++ rest) = some (t, rest) := by
  induction t with
  | nil => simp [writeText, readText]
  | cons g t ih =>
    rw [writeText, List.append_assoc, readText_writeGlyph (ht g List.mem_cons_self),
      ih fun g' hg' => ht g' (List.mem_cons_of_mem _ hg')]
    rfl

/-! ## Numbers -/

/-- What follows does not begin with one of the given characters. -/
def Stops (p : Char → Bool) (rest : List Char) : Prop := ∀ c ∈ rest.head?, p c = false

theorem readDigits_append {ds rest : List Char} (hd : ∀ c ∈ ds, isDigit c = true)
    (hr : Stops isDigit rest) :
    (ds ++ rest).takeWhile isDigit = ds ∧ (ds ++ rest).dropWhile isDigit = rest := by
  have hrest : rest.takeWhile isDigit = [] ∧ rest.dropWhile isDigit = rest := by
    cases rest with
    | nil => exact ⟨rfl, rfl⟩
    | cons c cs =>
      have hc := hr c rfl
      simp [hc]
  rw [List.takeWhile_append_of_pos hd, List.dropWhile_append_of_pos hd, hrest.1, hrest.2]
  exact ⟨List.append_nil ds, rfl⟩

theorem readDigits?_append {ds rest : List Char} (hd : AreDigits ds) (hr : Stops isDigit rest) :
    readDigits? (ds ++ rest) = some (ds, rest) := by
  obtain ⟨htake, hdrop⟩ := readDigits_append hd.2 hr
  rw [readDigits?, readDigits, htake, hdrop, if_neg (by simpa using hd.1)]

theorem head_of_areDigits {ds : List Char} (hd : AreDigits ds) :
    ∃ c cs, ds = c :: cs ∧ isDigit c = true := by
  obtain ⟨c, cs, rfl⟩ := List.exists_cons_of_ne_nil hd.1
  exact ⟨c, cs, rfl, hd.2 c List.mem_cons_self⟩

/-- Characters with a part of their own in a number, or in a value. -/
theorem isDigit_ne {c d : Char} (hc : isDigit c = true) (hd : isDigit d = false) : c ≠ d := by
  rintro rfl
  exact Bool.false_ne_true (hd.symm.trans hc)

/-- What can stand behind a whole number, so that it ends there. -/
def isPart (c : Char) : Bool := isDigit c || c == '.' || c == 'e' || c == 'E'

/-- The written fraction. -/
def fractionChars (fraction : Option (List Char)) : List Char :=
  match fraction with
  | none => []
  | some ds => '.' :: ds

/-- The written exponent. -/
def exponentChars (exponent : Option (Bool × List Char)) : List Char :=
  match exponent with
  | none => []
  | some (isNegative, ds) => 'e' :: (if isNegative then '-' else '+') :: ds

theorem Stops.mono {p q : Char → Bool} {rest : List Char} (h : Stops p rest)
    (hpq : ∀ c, p c = false → q c = false) : Stops q rest :=
  fun c hc => hpq c (h c hc)

theorem isDigit_of_not_isPart {c : Char} (h : isPart c = false) : isDigit c = false := by
  simp only [isPart, Bool.or_eq_false_iff] at h
  exact h.1.1.1

theorem readExponent?_write {exponent : Option (Bool × List Char)} {rest : List Char}
    (he : ∀ e ∈ exponent, AreDigits e.2) (hr : Stops isPart rest) :
    readExponent? (exponentChars exponent ++ rest) = some (exponent, rest) := by
  have hdigits := hr.mono fun c => isDigit_of_not_isPart
  cases exponent with
  | none =>
    cases rest with
    | nil => rfl
    | cons c cs =>
      have hc := hr c rfl
      simp only [isPart, Bool.or_eq_false_iff, beq_eq_false_iff_ne] at hc
      simp only [exponentChars, List.nil_append]
      rw [readExponent?.eq_def]
      split <;> simp_all
  | some e =>
    obtain ⟨isNegative, ds⟩ := e
    have hread := readDigits?_append (he _ rfl) hdigits
    cases isNegative <;> simp [exponentChars, readExponent?, readExponentDigits?, hread]

theorem stops_exponent (exponent : Option (Bool × List Char)) {rest : List Char}
    (hr : Stops isPart rest) : Stops isDigit (exponentChars exponent ++ rest) ∧
      Stops (· == '.') (exponentChars exponent ++ rest) := by
  cases exponent with
  | none =>
    refine ⟨hr.mono fun c => isDigit_of_not_isPart, hr.mono fun c hc => ?_⟩
    simp only [isPart, Bool.or_eq_false_iff] at hc
    exact hc.1.1.2
  | some e =>
    constructor <;>
    · intro c hc
      cases hc
      decide

theorem readFraction?_write {fraction : Option (List Char)} {rest : List Char}
    (hf : ∀ ds ∈ fraction, AreDigits ds) (hr : Stops isDigit rest) (hp : Stops (· == '.') rest) :
    readFraction? (fractionChars fraction ++ rest) = some (fraction, rest) := by
  cases fraction with
  | none =>
    cases rest with
    | nil => rfl
    | cons c cs =>
      have hc : c ≠ '.' := by simpa using hp c rfl
      simp only [fractionChars, List.nil_append]
      rw [readFraction?.eq_def]
      split <;> simp_all
  | some ds => simp [fractionChars, readFraction?, readDigits?_append (hf ds rfl) hr]

theorem readUnsigned?_write {n : Number} {rest : List Char} (hn : n.WellFormed)
    (hr : Stops isPart rest) :
    readUnsigned? n.isNegative
      (n.whole ++ (fractionChars n.fraction ++ (exponentChars n.exponent ++ rest))) =
        some (n, rest) := by
  obtain ⟨hdigits, hpoint⟩ := stops_exponent n.exponent hr
  have hfraction : Stops isDigit (fractionChars n.fraction ++ (exponentChars n.exponent ++ rest)) := by
    cases n.fraction with
    | none => exact hdigits
    | some ds =>
      intro c hc
      cases hc
      rfl
  have hwhole : readWhole?
      (n.whole ++ (fractionChars n.fraction ++ (exponentChars n.exponent ++ rest))) =
        some (n.whole, fractionChars n.fraction ++ (exponentChars n.exponent ++ rest)) := by
    rw [readWhole?, readDigits?_append hn.whole hfraction]
    exact if_neg fun h => h.2 (hn.head h.1)
  simp [readUnsigned?, hwhole, readFraction?_write hn.fraction hdigits hpoint,
    readExponent?_write hn.exponent hr]

/-- A number reads back. -/
theorem readNumber_write {n : Number} {rest : List Char} (hn : n.WellFormed)
    (hr : Stops isPart rest) : readNumber (n.write ++ rest) = some (n, rest) := by
  have hunsigned := readUnsigned?_write hn hr
  have hchars : n.write = (if n.isNegative then ['-'] else []) ++
      (n.whole ++ (fractionChars n.fraction ++ exponentChars n.exponent)) := by
    simp only [Number.write, List.append_assoc]
    rfl
  rw [hchars, List.append_assoc, List.append_assoc, List.append_assoc]
  obtain ⟨c, cs, hwhole, hc⟩ := head_of_areDigits hn.whole
  cases hneg : n.isNegative with
  | true =>
    rw [hneg] at hunsigned
    simpa [readNumber] using hunsigned
  | false =>
    rw [hneg] at hunsigned
    have hminus : c ≠ '-' := isDigit_ne hc rfl
    rw [hwhole] at hunsigned ⊢
    rw [← hunsigned, readNumber.eq_def]
    simp only [Bool.false_eq_true, if_false, List.nil_append, List.cons_append]
    split
    · rename_i h
      exact absurd (List.cons.inj h).1 hminus
    · rfl

/-! ## Values -/

/-- What follows an item: the next one, or the end. -/
def EndsItem (rest : List Char) : Prop := ∀ c ∈ rest.head?, c = ',' ∨ c = ']' ∨ c = '}'

theorem EndsItem.stops {rest : List Char} (h : EndsItem rest) : Stops isPart rest := by
  intro c hc
  rcases h c hc with rfl | rfl | rfl <;> rfl

theorem endsItem_cons {c : Char} {cs : List Char} (h : c = ',' ∨ c = ']' ∨ c = '}') :
    EndsItem (c :: cs) := by
  intro d hd
  cases hd
  exact h

theorem skipBlank_cons {c : Char} (hc : isBlank c = false) (cs : List Char) :
    skipBlank (c :: cs) = c :: cs :=
  List.dropWhile_cons_of_neg (by simp [hc])

/-- A number begins with a digit or a minus sign. -/
theorem Number.WellFormed.head_write {n : Number} (hn : n.WellFormed) :
    ∃ c cs, n.write = c :: cs ∧ (c = '-' ∨ isDigit c = true) := by
  obtain ⟨c, cs, hwhole, hc⟩ := head_of_areDigits hn.whole
  unfold Number.write
  cases n.isNegative with
  | true => exact ⟨'-', _, rfl, .inl rfl⟩
  | false => exact ⟨c, _, by rw [hwhole]; rfl, .inr hc⟩

/-- Neither a word nor a text, an array or an object begins like a number. -/
theorem readValue_number {c : Char} (hc : c = '-' ∨ isDigit c = true) (k : Nat) (cs : List Char) :
    readValue (k + 1) (c :: cs) = (readNumber (c :: cs)).map fun p => (.number p.1, p.2) := by
  have hne {d : Char} (hm : '-' ≠ d) (hd : isDigit d = false) : c ≠ d := by
    rcases hc with rfl | hc
    · exact hm
    · exact isDigit_ne hc hd
  have hblank : isBlank c = false := by
    simp [isBlank, hne (d := ' ') (by decide) rfl, hne (d := '\n') (by decide) rfl,
      hne (d := '\t') (by decide) rfl, hne (d := '\r') (by decide) rfl]
  rw [readValue, skipBlank_cons hblank]
  split
  · rename_i h
    exact absurd (List.cons.inj h).1 (hne (by decide) rfl)
  · rename_i h
    exact absurd (List.cons.inj h).1 (hne (by decide) rfl)
  · rename_i h
    exact absurd (List.cons.inj h).1 (hne (by decide) rfl)
  · rename_i h
    exact absurd (List.cons.inj h).1 (hne (by decide) rfl)
  · rename_i h
    exact absurd (List.cons.inj h).1 (hne (by decide) rfl)
  · rename_i h
    exact absurd (List.cons.inj h).1 (hne (by decide) rfl)
  · rfl

/-- A value begins with a character that is neither blank nor closes anything. -/
theorem Value.WellFormed.head_chars {v : Value} (hv : v.WellFormed) :
    ∃ c cs, v.chars = c :: cs ∧ isBlank c = false ∧ c ≠ ']' := by
  cases v with
  | null => exact ⟨'n', _, rfl, rfl, by decide⟩
  | bool b =>
    cases b with
    | true => exact ⟨'t', _, rfl, rfl, by decide⟩
    | false => exact ⟨'f', _, rfl, rfl, by decide⟩
  | number n =>
    obtain ⟨c, cs, hchars, hc⟩ := Number.WellFormed.head_write hv
    refine ⟨c, cs, hchars, ?_, ?_⟩
    · rcases hc with rfl | hc
      · rfl
      · simp [isBlank, isDigit_ne hc (rfl : isDigit ' ' = false),
          isDigit_ne hc (rfl : isDigit '\n' = false), isDigit_ne hc (rfl : isDigit '\t' = false),
          isDigit_ne hc (rfl : isDigit '\r' = false)]
    · rcases hc with rfl | hc
      · decide
      · exact isDigit_ne hc rfl
  | text t => exact ⟨'"', _, rfl, rfl, by decide⟩
  | array items => exact ⟨'[', _, rfl, rfl, by decide⟩
  | object fields => exact ⟨'\x7b', _, rfl, rfl, by decide⟩

theorem readValue_array {k : Nat} {cs : List Char} {items : List Value} {rest : List Char}
    (hhead : ∃ c cs', cs = c :: cs' ∧ isBlank c = false ∧ c ≠ ']')
    (hread : readItems k cs = some (items, rest)) :
    readValue (k + 1) ('[' :: cs) = some (.array items, rest) := by
  obtain ⟨c, cs', rfl, hblank, hclose⟩ := hhead
  rw [readValue, skipBlank_cons rfl]
  simp only [skipBlank_cons hblank]
  split
  · rename_i h
    exact absurd (List.cons.inj h).1 hclose
  · rw [hread]
    rfl

theorem readValue_object {k : Nat} {cs : List Char} {fields : List (List Glyph × Value)}
    {rest : List Char} (hread : readFields k ('"' :: cs) = some (fields, rest)) :
    readValue (k + 1) ('\x7b' :: '"' :: cs) = some (.object fields, rest) := by
  rw [readValue, skipBlank_cons rfl]
  simp only [skipBlank_cons (rfl : isBlank '"' = false)]
  show (readFields k ('"' :: cs)).map _ = _
  rw [hread]
  rfl

/-- What is read of an object after the name of a field and its colon. -/
def readFieldValue (k : Nat) (name : List Glyph) (cs : List Char) :
    Option (List (List Glyph × Value) × List Char) :=
  match readValue k cs with
  | none => none
  | some (v, rest) =>
    match skipBlank rest with
    | ',' :: rest => (readFields k rest).map fun p => ((name, v) :: p.1, p.2)
    | '}' :: rest => some ([(name, v)], rest)
    | _ => none

theorem readFields_name {k : Nat} {name : List Glyph} {cs : List Char}
    (hname : ∀ g ∈ name, g.WellFormed) :
    readFields (k + 1) ('"' :: writeText name ++ ':' :: cs) = readFieldValue k name cs := by
  rw [readFields, List.cons_append, skipBlank_cons rfl]
  simp only [readText_write hname, skipBlank_cons (rfl : isBlank ':' = false)]
  rfl

-- by induction on the fuel, which goes down with every call as what is left of the text does

mutual

/-- A value reads back, and what follows is left. -/
theorem readValue_chars : ∀ (v : Value) (n : Nat) (rest : List Char), v.WellFormed →
    v.chars.length ≤ n → EndsItem rest → readValue n (v.chars ++ rest) = some (v, rest)
  | .null, n, rest, _, hn, _ => by
    obtain ⟨k, rfl⟩ : ∃ k, n = k + 1 := ⟨n - 1, by simp [Value.chars] at hn; omega⟩
    simp [Value.chars, readValue, skipBlank, isBlank]
  | .bool true, n, rest, _, hn, _ => by
    obtain ⟨k, rfl⟩ : ∃ k, n = k + 1 := ⟨n - 1, by simp [Value.chars] at hn; omega⟩
    simp [Value.chars, readValue, skipBlank, isBlank]
  | .bool false, n, rest, _, hn, _ => by
    obtain ⟨k, rfl⟩ : ∃ k, n = k + 1 := ⟨n - 1, by simp [Value.chars] at hn; omega⟩
    simp [Value.chars, readValue, skipBlank, isBlank]
  | .number m, n, rest, hv, hn, hrest => by
    obtain ⟨c, cs, hchars, hc⟩ := Number.WellFormed.head_write hv
    have hread := readNumber_write hv hrest.stops
    simp only [Value.chars] at hn ⊢
    rw [hchars] at hn hread ⊢
    obtain ⟨k, rfl⟩ : ∃ k, n = k + 1 := ⟨n - 1, by simp at hn; omega⟩
    rw [List.cons_append] at hread ⊢
    rw [readValue_number hc, hread]
    rfl
  | .text t, n, rest, hv, hn, _ => by
    obtain ⟨k, rfl⟩ : ∃ k, n = k + 1 := ⟨n - 1, by simp [Value.chars] at hn; omega⟩
    simp [Value.chars, readValue, skipBlank, isBlank, readText_write hv]
  | .array [], n, rest, _, hn, _ => by
    obtain ⟨k, rfl⟩ : ∃ k, n = k + 1 := ⟨n - 1, by simp [Value.chars] at hn; omega⟩
    simp [Value.chars, itemChars, readValue, skipBlank, isBlank]
  | .array (v :: items), n, rest, hv, hn, _ => by
    obtain ⟨k, rfl⟩ : ∃ k, n = k + 1 := ⟨n - 1, by simp [Value.chars] at hn; omega⟩
    have hread := readItems_chars v items k rest hv (by simpa [Value.chars] using hn)
    obtain ⟨c, cs, hchars, hc⟩ := hv.1.head_chars
    rw [Value.chars, List.cons_append]
    refine readValue_array ⟨c, ?_⟩ hread
    cases items with
    | nil => exact ⟨_, by rw [itemChars, hchars]; rfl, hc⟩
    | cons w items => exact ⟨_, by rw [itemChars, hchars]; rfl, hc⟩
  | .object [], n, rest, _, hn, _ => by
    obtain ⟨k, rfl⟩ : ∃ k, n = k + 1 := ⟨n - 1, by simp [Value.chars] at hn; omega⟩
    simp [Value.chars, fieldChars, readValue, skipBlank, isBlank]
  | .object ((name, v) :: fields), n, rest, hv, hn, _ => by
    obtain ⟨k, rfl⟩ : ∃ k, n = k + 1 := ⟨n - 1, by simp [Value.chars] at hn; omega⟩
    have hread := readFields_chars name v fields k rest hv (by simpa [Value.chars] using hn)
    rw [Value.chars]
    cases fields with
    | nil => exact readValue_object hread
    | cons f fields => exact readValue_object hread
termination_by _ n => n

theorem readItems_chars : ∀ (v : Value) (items : List Value) (n : Nat) (rest : List Char),
    ItemsWellFormed (v :: items) → (itemChars (v :: items)).length ≤ n →
      readItems n (itemChars (v :: items) ++ rest) = some (v :: items, rest)
  | v, [], n, rest, hv, hn => by
    obtain ⟨k, rfl⟩ : ∃ k, n = k + 1 := ⟨n - 1, by simp [itemChars] at hn; omega⟩
    have hlength : v.chars.length ≤ k := by simp [itemChars] at hn; omega
    have hread := readValue_chars v k (']' :: rest) hv.1 hlength (endsItem_cons (by simp))
    rw [itemChars, List.append_assoc, List.cons_append, List.nil_append, readItems, hread]
    simp only [skipBlank_cons (rfl : isBlank ']' = false)]
  | v, w :: items, n, rest, hv, hn => by
    obtain ⟨k, rfl⟩ : ∃ k, n = k + 1 := ⟨n - 1, by simp [itemChars] at hn; omega⟩
    have hlength : v.chars.length ≤ k ∧ (itemChars (w :: items)).length ≤ k := by
      simp only [itemChars, List.length_append, List.length_cons] at hn
      omega
    have hread := readValue_chars v k (',' :: (itemChars (w :: items) ++ rest)) hv.1 hlength.1
      (endsItem_cons (by simp))
    have hitems := readItems_chars w items k rest hv.2 hlength.2
    rw [itemChars, List.append_assoc, List.cons_append, readItems, hread]
    simp only [skipBlank_cons (rfl : isBlank ',' = false)]
    rw [hitems]
    rfl
termination_by _ _ n => n

theorem readFields_chars : ∀ (name : List Glyph) (v : Value) (fields : List (List Glyph × Value))
    (n : Nat) (rest : List Char), FieldsWellFormed ((name, v) :: fields) →
      (fieldChars ((name, v) :: fields)).length ≤ n →
        readFields n (fieldChars ((name, v) :: fields) ++ rest) = some ((name, v) :: fields, rest)
  | name, v, [], n, rest, hv, hn => by
    obtain ⟨k, rfl⟩ : ∃ k, n = k + 1 := ⟨n - 1, by simp [fieldChars] at hn; omega⟩
    have hlength : v.chars.length ≤ k := by simp [fieldChars] at hn; omega
    have hread := readValue_chars v k ('}' :: rest) hv.2.1 hlength (endsItem_cons (by simp))
    have hchars : fieldChars [(name, v)] ++ rest =
        '"' :: writeText name ++ ':' :: (v.chars ++ '}' :: rest) := by
      simp [fieldChars]
    rw [hchars, readFields_name hv.1, readFieldValue, hread]
    simp only [skipBlank_cons (rfl : isBlank '}' = false)]
  | name, v, f :: fields, n, rest, hv, hn => by
    obtain ⟨k, rfl⟩ : ∃ k, n = k + 1 := ⟨n - 1, by simp [fieldChars] at hn; omega⟩
    have hlength : v.chars.length ≤ k ∧ (fieldChars (f :: fields)).length ≤ k := by
      simp only [fieldChars, List.length_append, List.length_cons] at hn
      omega
    have hread := readValue_chars v k (',' :: (fieldChars (f :: fields) ++ rest)) hv.2.1 hlength.1
      (endsItem_cons (by simp))
    have hfields := readFields_chars f.1 f.2 fields k rest hv.2.2 hlength.2
    have hchars : fieldChars ((name, v) :: f :: fields) ++ rest =
        '"' :: writeText name ++ ':' :: (v.chars ++ ',' :: (fieldChars (f :: fields) ++ rest)) := by
      simp [fieldChars]
    rw [hchars, readFields_name hv.1, readFieldValue, hread]
    simp only [skipBlank_cons (rfl : isBlank ',' = false)]
    rw [hfields]
    rfl
termination_by _ _ _ n => n

end

/-- **A written value reads back.** -/
theorem parse?_write {v : Value} (hv : v.WellFormed) : parse? v.write = some v := by
  have hread := readValue_chars v (2 * v.chars.length + 2) [] hv (by omega) (by simp [EndsItem])
  rw [List.append_nil] at hread
  simp [parse?, Value.write, hread, skipBlank]

end Json
end PointerShare
