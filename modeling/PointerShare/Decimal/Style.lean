/-
# Writing doubles

A double is written with its shortest digits, either positionally, with a
point and `.0` when it is whole, or with an exponent. A style says for which
magnitudes the positional form is used, and which of two shortest decimals as
near is taken. The written number is made of parts,
so that whoever needs its digits does not have to read it again.

Key definitions: `Style`, `Parts`, `Style.parts`, `Style.write`.
-/
import PointerShare.Decimal.Shortest

namespace PointerShare
namespace Decimal

/-- A style writes numbers from `10 ^ least` to below `10 ^ bound` positionally. -/
structure Style where
  tie : Tie
  least : Option Int
  bound : Option Int
  deriving DecidableEq, Repr

/-- The parts of a written number. -/
structure Parts where
  isNegative : Bool
  whole : List Char
  fraction : Option (List Char)
  exponent : Option Int
  deriving DecidableEq, Repr

/-- A decimal without an exponent. -/
def positional (isNegative : Bool) (d : Scaled) : Parts :=
  let digits := (toString d.digits).toList
  let point := (digits.length : Int) + d.exponent
  if 0 ≤ d.exponent then
    ⟨isNegative, digits ++ List.replicate d.exponent.toNat '0', some ['0'], none⟩
  else if 0 < point then
    ⟨isNegative, digits.take point.toNat, some (digits.drop point.toNat), none⟩
  else ⟨isNegative, ['0'], some (List.replicate (-point).toNat '0' ++ digits), none⟩

/-- A decimal with one digit before the point, and an exponent. -/
def exponential (isNegative : Bool) (d : Scaled) : Parts :=
  let digits := (toString d.digits).toList
  let exponent := (digits.length : Int) + d.exponent - 1
  ⟨isNegative, digits.take 1, if digits.length ≤ 1 then none else some (digits.drop 1),
    some exponent⟩

/-- The sign bit of a double. -/
def isNegative (bits : UInt64) : Bool := bits.toNat / Nat.pow 2 63 = 1

namespace Style

/-- The parts of the finite double with the given bits. -/
def parts (style : Style) (bits : UInt64) : Parts :=
  let b := Binary.ofBits bits
  if b.significand = 0 then ⟨isNegative bits, ['0'], some ['0'], none⟩
  else
    let d := Shortest.digits style.tie b
    let log := (width d.digits : Int) + d.exponent - 1
    if style.least.all (· ≤ log) && style.bound.all (log < ·) then positional (isNegative bits) d
    else exponential (isNegative bits) d

end Style

/-- The parts put together. -/
def Parts.text (p : Parts) : String :=
  (if p.isNegative then "-" else "") ++ String.ofList p.whole ++
    (match p.fraction with
      | none => ""
      | some ds => "." ++ String.ofList ds) ++
    (match p.exponent with
      | none => ""
      | some e => "e" ++ toString e)

/-- Writes the finite double with the given bits. -/
def Style.write (style : Style) (bits : UInt64) : String := (style.parts bits).text

end Decimal
end PointerShare
