/-
# Raw input events

What a station's input devices report, before it is known whether the event
is meant for this station. Only motion says that the user has come back to a
local device; keys, buttons and wheels do not.

Key definitions: `PointerAction`, `PointerEvent`, `PointerAction.isMotion`,
`Verdict`.
-/
import PointerShare.Ident

namespace PointerShare

/-- What an input device reports. -/
inductive PointerAction where
  | motion (dx dy : Int32)
  | buttonDown (button : UInt32)
  | buttonUp (button : UInt32)
  | axis (vertical horizontal : Float)
  | keyDown (code : UInt32)
  | keyUp (code : UInt32)
  deriving DecidableEq, Repr

/-- One report of one device. -/
structure PointerEvent where
  device : DeviceId
  timestamp : UInt64
  action : PointerAction
  deriving DecidableEq, Repr

/-- Whether a local event reaches local delivery. -/
inductive Verdict where
  | forward
  | suppress
  deriving DecidableEq, Repr

/-- A report without a time of its own. -/
def PointerEvent.of (device : DeviceId) (action : PointerAction) : PointerEvent :=
  ⟨device, 0, action⟩

def PointerAction.isMotion : PointerAction → Bool
  | .motion _ _ => true
  | _ => false

end PointerShare
