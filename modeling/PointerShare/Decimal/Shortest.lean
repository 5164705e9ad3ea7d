/-
# The fewest decimal digits that read back

A double stands for all reals nearer to it than to its neighbours, and for the
two halfway points when its significand is even. The shortest decimal of a
double is the one with the fewest digits among those reals, and of two with as
many digits the nearer. Both may be as near (between 2^50 and 2^51, where
doubles are quarters apart); a `Tie` says which is taken then. The decimal is
found exactly, in natural numbers: for one digit, two digits and so on, the two
decimals next to the value on that grid are tried.

Key definitions: `Binary`, `Binary.ofBits`, `Tie`, `Shortest.digits`.
-/

namespace PointerShare
namespace Decimal

/-- The positive number `significand * 2 ^ exponent`. -/
structure Binary where
  significand : Nat
  exponent : Int
  deriving DecidableEq, Repr

/-- The decimal `digits * 10 ^ exponent`. -/
structure Scaled where
  digits : Nat
  exponent : Int
  deriving DecidableEq, Repr

/-- A ratio of natural numbers. -/
structure Ratio where
  num : Nat
  den : Nat
  deriving DecidableEq, Repr

namespace Ratio

/-- `r * b ^ e`. -/
def scale (r : Ratio) (b : Nat) (e : Int) : Ratio :=
  if 0 ≤ e then ⟨r.num * Nat.pow b e.toNat, r.den⟩
  else ⟨r.num, r.den * Nat.pow b (-e).toNat⟩

def le (a b : Ratio) : Bool := a.num * b.den ≤ b.num * a.den

def lt (a b : Ratio) : Bool := a.num * b.den < b.num * a.den

end Ratio

/-- How many decimal digits a number has; zero has one. -/
def width (n : Nat) : Nat := (Nat.toDigits 10 n).length

namespace Binary

/-- The magnitude of the double with the given bits, which must be finite. -/
def ofBits (bits : UInt64) : Binary :=
  let fraction : Nat := bits.toNat % Nat.pow 2 52
  let field : Nat := bits.toNat / Nat.pow 2 52 % Nat.pow 2 11
  if field = 0 then ⟨fraction, -1074⟩ else ⟨fraction + Nat.pow 2 52, (field : Int) - 1075⟩

def value (b : Binary) : Ratio := Ratio.scale ⟨b.significand, 1⟩ 2 b.exponent

/-- Halfway to the next double below. Below a power of two, doubles are twice as dense. -/
def lower (b : Binary) : Ratio :=
  if b.significand = Nat.pow 2 52 ∧ b.exponent ≠ -1074 then
    Ratio.scale ⟨4 * b.significand - 1, 4⟩ 2 b.exponent
  else Ratio.scale ⟨2 * b.significand - 1, 2⟩ 2 b.exponent

/-- Halfway to the next double above. -/
def upper (b : Binary) : Ratio := Ratio.scale ⟨2 * b.significand + 1, 2⟩ 2 b.exponent

/-- A real that reads back as the double. -/
def reads (b : Binary) (r : Ratio) : Bool :=
  if b.significand % 2 = 0 then b.lower.le r && r.le b.upper else b.lower.lt r && r.lt b.upper

end Binary

/-- The greatest `k` with `10 ^ k ≤ r`, for a positive ratio. -/
def floorLog (r : Ratio) : Int :=
  if r.den ≤ r.num then (width (r.num / r.den) : Int) - 1
  else
    let w := width (r.den / r.num)
    if r.den ≤ r.num * Nat.pow 10 (w - 1) then 1 - (w : Int) else -(w : Int)

def Scaled.value (d : Scaled) : Ratio := Ratio.scale ⟨d.digits, 1⟩ 10 d.exponent

/-- Which of two decimals as near is taken. -/
inductive Tie where
  /-- The one whose last digit is even. -/
  | toEven
  /-- The greater. -/
  | up
  deriving DecidableEq, Repr

/-- Of the decimals `n` and `n + 1` on a grid, the greater is taken, though the lesser is as near. -/
def Tie.takesGreater (n : Nat) : Tie → Bool
  | toEven => n % 2 = 1
  | up => true

namespace Shortest

/-- The decimal with `n` digits that stands for the double, if there is one: of the two next to its
value, the nearer. -/
def withDigits (tie : Tie) (b : Binary) (n : Nat) : Option Scaled :=
  let v := b.value
  let e := floorLog v - (n : Int) + 1
  let onGrid := v.scale 10 (-e)
  let down : Scaled := ⟨onGrid.num / onGrid.den, e⟩
  let up : Scaled := ⟨down.digits + 1, e⟩
  match b.reads down.value, b.reads up.value with
  | true, true =>
    match compare (2 * (onGrid.num % onGrid.den)) onGrid.den with
    | .lt => some down
    | .eq => if tie.takesGreater down.digits then some up else some down
    | .gt => some up
  | true, false => some down
  | false, true => some up
  | false, false => none

/-- The first success from `n` digits on, of at most `tries`. -/
def search (tie : Tie) (b : Binary) : Nat → Nat → Scaled
  | 0, n => (withDigits tie b n).getD ⟨0, 0⟩
  | tries + 1, n => match withDigits tie b n with
    | some d => d
    | none => search tie b tries (n + 1)

/-- Takes off zeros at the end. -/
def trim : Nat → Scaled → Scaled
  | 0, d => d
  | n + 1, d =>
    if d.digits ≠ 0 ∧ d.digits % 10 = 0 then trim n ⟨d.digits / 10, d.exponent + 1⟩ else d

/-- The shortest decimal of a positive double; seventeen digits are always enough. -/
def digits (tie : Tie) (b : Binary) : Scaled := trim 20 (search tie b 16 1)

end Shortest

end Decimal
end PointerShare
