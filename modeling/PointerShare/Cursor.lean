/-
# The cursor

The cursor is shown or hidden, and it stands somewhere. Either call that
changes it can be made to fail; a failed call changes nothing.

Key definitions: `Cursor`, `Cursor.setVisible`, `Cursor.place`, `Cursor.put`.
-/
import PointerShare.Fault
import PointerShare.Location

namespace PointerShare

structure Cursor where
  visible : Bool
  location : Location
  visibleFails : Bool
  placeFails : Bool
  deriving DecidableEq, Repr

namespace Cursor

/-- A visible cursor in the middle of the screen. -/
def fresh : Cursor := ⟨true, .center, false, false⟩

def setVisible (c : Cursor) (visible : Bool) : Except DeviceFault Cursor :=
  if c.visibleFails then .error .unavailable else .ok { c with visible := visible }

def place (c : Cursor) (l : Location) : Except DeviceFault Cursor :=
  if c.placeFails then .error .unavailable else .ok { c with location := l }

/-- Shows or hides the cursor, and only if that worked puts it at `l`. What worked stays done. -/
def put (c : Cursor) (visible : Bool) (l : Location) : Cursor :=
  match c.setVisible visible with
  | .error _ => c
  | .ok c => (c.place l).toOption.getD c

/-- Hides the cursor, if that works. -/
def hide (c : Cursor) : Cursor := (c.setVisible false).toOption.getD c

theorem visible_put {c : Cursor} (h : c.visibleFails = false) (visible : Bool) (l : Location) :
    (c.put visible l).visible = visible ∧ (c.put visible l).visibleFails = false := by
  cases hp : c.placeFails <;> simp [put, setVisible, place, h, hp, Except.toOption]

theorem visible_hide {c : Cursor} (h : c.visibleFails = false) :
    c.hide.visible = false ∧ c.hide.visibleFails = false := by
  simp [hide, setVisible, h, Except.toOption]

/-- Moves the cursor as its user does. -/
def moveTo (c : Cursor) (l : Location) : Cursor := { c with location := l }

end Cursor

end PointerShare
