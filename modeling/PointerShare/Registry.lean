/-
# The input devices a station knows

A registry lists devices, those of the station itself and virtual ones that
are fed by another station. Every question is answered by the first device
that fits, in the order in which devices were added.

Key definitions: `InputDevice`, `Registry` and its questions.
-/
import PointerShare.Ident

namespace PointerShare

/-- A device in a registry. -/
structure InputDevice where
  id : DeviceId
  dhid : Dhid
  /-- The station that hosts the hardware. -/
  origin : NetworkId
  /-- The keyboards that travel with the device when it is shared. -/
  keyboards : List Dhid
  isPointer : Bool
  /-- Fed by another station. -/
  isRemote : Bool
  deriving DecidableEq, Repr

/-- The devices known to the station `home`. -/
structure Registry where
  home : NetworkId
  devices : List InputDevice
  deriving DecidableEq, Repr

namespace Registry

def add (r : Registry) (d : InputDevice) : Registry := { r with devices := r.devices ++ [d] }

def byId? (r : Registry) (id : DeviceId) : Option InputDevice :=
  r.devices.find? fun d => d.id == id

/-- The station that hosts a device. -/
def originOf? (r : Registry) (id : DeviceId) : Option NetworkId := (r.byId? id).map (·.origin)

/-- The station that hosts the device, or the travelling keyboard, with a hardware id. -/
def originOfDhid? (r : Registry) (dhid : Dhid) : Option NetworkId :=
  (r.devices.find? fun d => d.dhid == dhid || d.keyboards.contains dhid).map (·.origin)

/-- The hardware ids of a device and of the keyboards that travel with it. -/
def shareable (r : Registry) (id : DeviceId) : List Dhid :=
  match r.byId? id with
  | none => []
  | some d => d.dhid :: d.keyboards

def dhidOf? (r : Registry) (id : DeviceId) : Option Dhid := (r.byId? id).map (·.dhid)

/-- The device with a hardware id; keyboards that merely travel do not count. -/
def deviceOf? (r : Registry) (dhid : Dhid) : Option DeviceId :=
  (r.devices.find? fun d => d.dhid == dhid).map (·.id)

/-- A pointer of the station's own is attached. -/
def hasLocalPointer (r : Registry) : Bool :=
  r.devices.any fun d => d.isPointer && !d.isRemote && d.origin == r.home

/-- The device is fed by another station; an unknown one is not. -/
def isRemote (r : Registry) (id : DeviceId) : Bool :=
  match r.byId? id with
  | none => false
  | some d => d.isRemote

end Registry

end PointerShare
