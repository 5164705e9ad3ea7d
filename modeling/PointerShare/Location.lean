/-
# Where the cursor is on a screen

A cursor's place is kept as percentages of the screen's width and height, so
that it means the same on screens of different sizes. Every location holds
coordinates between 0 and 100: a coordinate outside is moved to the nearer
end, and one that is no number at all becomes the middle.

Key definitions: `Location`, `Location.clamp`, `Location.ofPosition`,
`Location.toPosition`.
-/

namespace PointerShare

/-- The size of a screen in pixels. -/
structure Screen where
  width : UInt32
  height : UInt32
  deriving DecidableEq, Inhabited, Repr

/-- A cursor's place in percent of the screen, from its left and upper edge. -/
structure Location where
  x : Float
  y : Float
  deriving DecidableEq, Inhabited, Repr

namespace Location

/-- The percentage nearest to `v`; the middle when `v` is not a number. -/
def clampPercent (v : Float) : Float :=
  if v.isNaN then 50.0 else if v < 0.0 then 0.0 else if v > 100.0 then 100.0 else v

/-- The location nearest to the given percentages. -/
def clamp (x y : Float) : Location := ⟨clampPercent x, clampPercent y⟩

/-- The middle of any screen. -/
def center : Location := ⟨50.0, 50.0⟩

/-- The location of the pixel `(px, py)`; the middle of a screen without area. -/
def ofPosition (px py : Int32) (screen : Screen) : Location :=
  if screen.width = 0 ∨ screen.height = 0 then center
  else clamp (px.toFloat * 100.0 / screen.width.toFloat) (py.toFloat * 100.0 / screen.height.toFloat)

/-- The pixel nearest to `percent` of `length` pixels in a row: a half goes up, and the last
pixel is the end. -/
def pixel (percent : Float) (length : UInt32) : Int32 :=
  let last := if length = 0 then 0.0 else (length - 1).toFloat
  let place := (percent * length.toFloat / 100.0).round
  (if place < 0.0 then 0.0 else if place > last then last else place).toInt32

/-- The pixel of `screen` nearest to a location. -/
def toPosition (l : Location) (screen : Screen) : Int32 × Int32 :=
  (pixel l.x screen.width, pixel l.y screen.height)

end Location

end PointerShare
