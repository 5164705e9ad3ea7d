/-
# JSON values

A JSON value as it is written: numbers keep their digits, so that a reader
decides what they mean, and a text may hold halves of surrogate pairs, which
make no string but may stand in a part that nobody reads.

Key definitions: `Glyph`, `Number`, `Value`, `string?`, `Number.int?`,
`Number.float?`.
-/
import PointerShare.Decimal.Reading
import PointerShare.Decimal.Style

namespace PointerShare
namespace Json

/-- A character of a text, or half of a surrogate pair. -/
inductive Glyph where
  | char (c : Char)
  | half (unit : UInt16)
  deriving DecidableEq, Repr

/-- A number's digits. -/
structure Number where
  isNegative : Bool
  whole : List Char
  fraction : Option (List Char)
  /-- The exponent: whether it is negative, and its digits. -/
  exponent : Option (Bool × List Char)
  deriving DecidableEq, Repr

inductive Value where
  | null
  | bool (b : Bool)
  | number (n : Number)
  | text (t : List Glyph)
  | array (items : List Value)
  | object (fields : List (List Glyph × Value))

/-! ### Texts -/

def glyphs (s : String) : List Glyph := s.toList.map .char

/-- The character of a surrogate pair. -/
def pair? (high low : UInt16) : Option Char :=
  if 0xD800 ≤ high ∧ high < 0xDC00 ∧ 0xDC00 ≤ low ∧ low < 0xE000 then
    some (Char.ofNat (0x10000 + (high.toNat - 0xD800) * 0x400 + (low.toNat - 0xDC00)))
  else none

/-- The characters of a text; `none` when a surrogate stands alone. -/
def chars? : List Glyph → Option (List Char)
  | [] => some []
  | .char c :: rest => (chars? rest).map (c :: ·)
  | .half high :: .half low :: rest =>
    match pair? high low with
    | some c => (chars? rest).map (c :: ·)
    | none => none
  | .half _ :: _ => none

def string? (t : List Glyph) : Option String := (chars? t).map String.ofList

theorem chars?_map_char (cs : List Char) : chars? (cs.map .char) = some cs := by
  induction cs with
  | nil => rfl
  | cons c cs ih => simp [chars?, ih]

@[simp] theorem string?_glyphs (s : String) : string? (glyphs s) = some s := by
  simp [string?, glyphs, chars?_map_char]

/-! ### Numbers -/

/-- The value of a decimal digit. -/
def digitValue (c : Char) : Nat := c.toNat - '0'.toNat

def natOf (digits : List Char) : Nat := digits.foldl (fun n c => n * 10 + digitValue c) 0

namespace Number

def ofInt (i : Int) : Number := ⟨i < 0, (toString i.natAbs).toList, none, none⟩

/-- The whole number that is written without point and exponent, within 64 bits. A negative zero
is no whole number. -/
def int? (n : Number) : Option Int :=
  if n.fraction.isSome || n.exponent.isSome then none
  else
    let m := natOf n.whole
    if n.isNegative then (if m = 0 ∨ Nat.pow 2 63 < m then none else some (-(m : Int)))
    else if m < Nat.pow 2 64 then some m
    else none

/-- Digits that still fit into 64 bits are taken; from the first that does not, none is. Gives the
number and how many digits were taken. -/
def takeDigits : List Char → Nat → Nat → Nat × Nat
  | [], m, taken => (m, taken)
  | c :: rest, m, taken =>
    if m * 10 + digitValue c < Nat.pow 2 64 then
      takeDigits rest (m * 10 + digitValue c) (taken + 1)
    else (m, taken)

/-- The magnitude, read by scaling; `none` when out of range. -/
def magnitude? (n : Number) : Option Float :=
  let (m, taken) := takeDigits n.whole 0 0
  let skipped := n.whole.length - taken
  let (m, places) := takeDigits (n.fraction.getD []) m 0
  let start : Int := (skipped : Int) - (places : Int)
  if n.fraction.isNone && n.exponent.isNone && skipped == 0 then some m.toUInt64.toFloat
  else match n.exponent with
    | none => Decimal.scaledBy m.toUInt64 start
    | some (isNegative, digits) =>
      let e := natOf digits
      if Nat.pow 2 31 ≤ e then
        if m ≠ 0 ∧ !isNegative then none else some 0.0
      else Decimal.scaledBy m.toUInt64
        (max (-Nat.pow 2 31)
          (min (Nat.pow 2 31 - 1) (start + (if isNegative then -(e : Int) else e))))

/-- The double a number is read as. -/
def float? (n : Number) : Option Float :=
  n.magnitude?.map fun f => if n.isNegative then -f else f

end Number

/-- Numbers are written positionally from `10 ^ -5` to below `10 ^ 16`; of two as near, the even one
is taken. -/
def floatStyle : Decimal.Style := ⟨.toEven, some (-5), some 16⟩

/-- The written form of a finite double. -/
def Number.ofFloat (f : Float) : Number :=
  let p := floatStyle.parts f.toBits
  ⟨p.isNegative, p.whole, p.fraction,
    p.exponent.map fun e => (e < 0, (toString e.natAbs).toList)⟩

/-! ### Access -/

namespace Value

def string (s : String) : Value := .text (glyphs s)

def int (i : Int) : Value := .number (.ofInt i)

def nat (n : Nat) : Value := .int n

/-- A double; one that is infinite or no number has no written form. -/
def float (f : Float) : Value := if f.isFinite then .number (.ofFloat f) else .null

/-- An object with the given fields. -/
def fields (fs : List (String × Value)) : Value := .object (fs.map fun f => (glyphs f.1, f.2))

/-- The value of a field of an object. -/
def field? (v : Value) (name : String) : Option Value :=
  match v with
  | .object fs => (fs.find? fun f => string? f.1 == some name).map (·.2)
  | _ => none

end Value

end Json
end PointerShare
