/-
# Reading doubles

Two ways to read a decimal. The exact one gives the double nearest to the
decimal. The scaling one takes the digits as a whole number as far as they fit
into 64 bits, turns it into a double, and multiplies or divides by a power of
ten; where that rounds twice it can miss the nearest double by one.

Key definitions: `nearest`, `scaledBy`.
-/
import PointerShare.Decimal.Shortest

namespace PointerShare
namespace Decimal

/-- The double nearest to `digits * 10 ^ exponent`; infinite when that is too large. -/
def nearest (digits : Nat) (exponent : Int) : Float :=
  let top := (width digits : Int) + exponent
  if digits = 0 ∨ top < -330 then 0.0
  else if 320 < top then 1.0 / 0.0
  else if 0 ≤ exponent then Float.ofScientific digits false exponent.toNat
  else Float.ofScientific digits true (-exponent).toNat

/-- The double nearest to a power of ten, up to `10 ^ 308`. -/
def powerOfTen (n : Nat) : Float := Float.ofScientific 1 false n

/-- Divides by `10 ^ 308` as often as it goes into `10 ^ n`, then by what is left of it. -/
def divideDown (f : Float) (n : Nat) : Float :=
  if f == 0.0 then f
  else if n ≤ 308 then f / powerOfTen n
  else divideDown (f / powerOfTen 308) (n - 308)
termination_by n

/-- Reads `significand * 10 ^ exponent` by scaling; `none` when it is out of range. -/
def scaledBy (significand : UInt64) (exponent : Int) : Option Float :=
  let f := significand.toFloat
  if exponent < 0 then some (divideDown f (-exponent).toNat)
  else if exponent ≤ 308 then
    let g := f * powerOfTen exponent.toNat
    if g.isInf then none else some g
  else if f == 0.0 then some f
  else none

end Decimal
end PointerShare
