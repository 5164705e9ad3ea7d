/-
# Identifiers

The names by which the stations of a network and the input devices on them
are told apart. A `NetworkId` names a station, a `Dhid` the hardware of an
input device wherever it is used, a `DeviceId` an input device as one
station numbers it. Network and hardware ids are ordered by their
characters' code points, which is also the order of their UTF-8 bytes.

Key definitions: `NetworkId`, `Dhid`, `DeviceId`, `NetworkId.sortedUnique`,
`Dhid.sorted`.
-/

namespace PointerShare

/-- The name of a station on the network. -/
structure NetworkId where
  text : String
  deriving DecidableEq, Inhabited, Repr

/-- The hardware id of an input device, the same on every station. -/
structure Dhid where
  text : String
  deriving DecidableEq, Inhabited, Repr

/-- The number one station gives an input device. -/
structure DeviceId where
  number : Int32
  deriving DecidableEq, Inhabited, Repr

namespace NetworkId

/-- The empty name, which stands for no station. -/
def empty : NetworkId := ⟨""⟩

def isEmpty (id : NetworkId) : Bool := id.text.isEmpty

/-- The order of network ids: by code points, a shorter id before its extensions. -/
def le (a b : NetworkId) : Bool := decide (a.text ≤ b.text)

/-- Keeps the first of each run of equal neighbours. -/
def dropRepeats : List NetworkId → List NetworkId
  | [] => []
  | [a] => [a]
  | a :: b :: rest => if a = b then dropRepeats (b :: rest) else a :: dropRepeats (b :: rest)

/-- The set of the given ids, in order. -/
def sortedUnique (ids : List NetworkId) : List NetworkId := dropRepeats (ids.mergeSort le)

end NetworkId

namespace Dhid

/-- The empty hardware id, given where a device has none. -/
def empty : Dhid := ⟨""⟩

def isEmpty (id : Dhid) : Bool := id.text.isEmpty

/-- The order of hardware ids: by code points, a shorter id before its extensions. -/
def le (a b : Dhid) : Bool := decide (a.text ≤ b.text)

/-- The ids in order, each as often as it was given. -/
def sorted (ids : List Dhid) : List Dhid := ids.mergeSort le

end Dhid

/-- A device number in decimal, with a sign only when negative. -/
def DeviceId.text (id : DeviceId) : String := toString id.number.toInt

end PointerShare
