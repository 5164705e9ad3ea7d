/-
# Reading JSON

A text is read in one pass over its characters. Whitespace may stand around
every part; control characters in a text must be escaped; a number has no
leading zeros, and digits on both sides of its point. What is left after the
value must be whitespace.

Each of the readers gives what it read and the characters that are left. The
fuel of the recursive ones is the length of the input, since every step
consumes a character.

Key definitions: `readText`, `readNumber`, `readValue`, `parse?`.
-/
import PointerShare.Json.Value

namespace PointerShare
namespace Json

def isBlank (c : Char) : Bool := c == ' ' || c == '\n' || c == '\t' || c == '\r'

def isDigit (c : Char) : Bool := '0' ≤ c && c ≤ '9'

def skipBlank (cs : List Char) : List Char := cs.dropWhile isBlank

/-! ### Texts -/

def hexValue? (c : Char) : Option Nat :=
  if '0' ≤ c ∧ c ≤ '9' then some (c.toNat - '0'.toNat)
  else if 'a' ≤ c ∧ c ≤ 'f' then some (c.toNat - 'a'.toNat + 10)
  else if 'A' ≤ c ∧ c ≤ 'F' then some (c.toNat - 'A'.toNat + 10)
  else none

/-- The glyph of a 16-bit unit. -/
def unitGlyph (u : Nat) : Glyph :=
  if 0xD800 ≤ u ∧ u < 0xE000 then .half u.toUInt16 else .char (Char.ofNat u)

/-- What an escaped character stands for. -/
def escape? : Char → Option Char
  | '"' => some '"'
  | '\\' => some '\\'
  | '/' => some '/'
  | 'b' => some '\x08'
  | 'f' => some '\x0c'
  | 'n' => some '\n'
  | 'r' => some '\r'
  | 't' => some '\t'
  | _ => none

/-- Reads a text after its opening quote. -/
def readText : List Char → Option (List Glyph × List Char)
  | [] => none
  | '"' :: rest => some ([], rest)
  | '\\' :: 'u' :: a :: b :: c :: d :: rest =>
    match hexValue? a, hexValue? b, hexValue? c, hexValue? d with
    | some a, some b, some c, some d =>
      (readText rest).map fun p => (unitGlyph (((a * 16 + b) * 16 + c) * 16 + d) :: p.1, p.2)
    | _, _, _, _ => none
  | '\\' :: e :: rest =>
    match escape? e with
    | some c => (readText rest).map fun p => (.char c :: p.1, p.2)
    | none => none
  | c :: rest =>
    if c.toNat < 0x20 ∨ c = '\\' then none
    else (readText rest).map fun p => (.char c :: p.1, p.2)

/-! ### Numbers -/

/-- The digits at the front. -/
def readDigits (cs : List Char) : List Char × List Char :=
  (cs.takeWhile isDigit, cs.dropWhile isDigit)

/-- One digit or more. -/
def readDigits? (cs : List Char) : Option (List Char × List Char) :=
  if (cs.takeWhile isDigit).isEmpty then none else some (readDigits cs)

/-- A whole part: zero, or digits that do not begin with zero. -/
def readWhole? (cs : List Char) : Option (List Char × List Char) :=
  match readDigits? cs with
  | none => none
  | some (ds, rest) => if ds.head? = some '0' ∧ ds.length ≠ 1 then none else some (ds, rest)

def readFraction? : List Char → Option (Option (List Char) × List Char)
  | '.' :: rest => (readDigits? rest).map fun p => (some p.1, p.2)
  | cs => some (none, cs)

def readExponentDigits? : List Char → Option ((Bool × List Char) × List Char)
  | '+' :: rest => (readDigits? rest).map fun p => ((false, p.1), p.2)
  | '-' :: rest => (readDigits? rest).map fun p => ((true, p.1), p.2)
  | cs => (readDigits? cs).map fun p => ((false, p.1), p.2)

def readExponent? : List Char → Option (Option (Bool × List Char) × List Char)
  | 'e' :: rest => (readExponentDigits? rest).map fun p => (some p.1, p.2)
  | 'E' :: rest => (readExponentDigits? rest).map fun p => (some p.1, p.2)
  | cs => some (none, cs)

/-- Reads a number without its sign. -/
def readUnsigned? (isNegative : Bool) (cs : List Char) : Option (Number × List Char) := do
  let (whole, cs) ← readWhole? cs
  let (fraction, cs) ← readFraction? cs
  let (exponent, cs) ← readExponent? cs
  return (⟨isNegative, whole, fraction, exponent⟩, cs)

def readNumber : List Char → Option (Number × List Char)
  | '-' :: rest => readUnsigned? true rest
  | cs => readUnsigned? false cs

/-! ### Values -/

mutual

/-- Reads a value and the whitespace before it. -/
def readValue : Nat → List Char → Option (Value × List Char)
  | 0, _ => none
  | n + 1, cs =>
    match skipBlank cs with
    | 'n' :: 'u' :: 'l' :: 'l' :: rest => some (.null, rest)
    | 't' :: 'r' :: 'u' :: 'e' :: rest => some (.bool true, rest)
    | 'f' :: 'a' :: 'l' :: 's' :: 'e' :: rest => some (.bool false, rest)
    | '"' :: rest => (readText rest).map fun p => (.text p.1, p.2)
    | '[' :: rest =>
      match skipBlank rest with
      | ']' :: rest => some (.array [], rest)
      | rest => (readItems n rest).map fun p => (.array p.1, p.2)
    | '{' :: rest =>
      match skipBlank rest with
      | '}' :: rest => some (.object [], rest)
      | rest => (readFields n rest).map fun p => (.object p.1, p.2)
    | cs => (readNumber cs).map fun p => (.number p.1, p.2)

/-- Reads the items of an array and its closing bracket. -/
def readItems : Nat → List Char → Option (List Value × List Char)
  | 0, _ => none
  | n + 1, cs =>
    match readValue n cs with
    | none => none
    | some (v, rest) =>
      match skipBlank rest with
      | ',' :: rest => (readItems n rest).map fun p => (v :: p.1, p.2)
      | ']' :: rest => some ([v], rest)
      | _ => none

/-- Reads the fields of an object and its closing brace. -/
def readFields : Nat → List Char → Option (List (List Glyph × Value) × List Char)
  | 0, _ => none
  | n + 1, cs =>
    match skipBlank cs with
    | '"' :: rest =>
      match readText rest with
      | none => none
      | some (name, rest) =>
        match skipBlank rest with
        | ':' :: rest =>
          match readValue n rest with
          | none => none
          | some (v, rest) =>
            match skipBlank rest with
            | ',' :: rest => (readFields n rest).map fun p => ((name, v) :: p.1, p.2)
            | '}' :: rest => some ([(name, v)], rest)
            | _ => none
        | _ => none
    | _ => none

end

/-- Reads a text that holds one value. -/
def parse? (s : String) : Option Value :=
  let cs := s.toList
  match readValue (2 * cs.length + 2) cs with
  | some (v, rest) => if (skipBlank rest).isEmpty then some v else none
  | none => none

end Json
end PointerShare
