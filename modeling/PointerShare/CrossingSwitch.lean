/-
# The crossing switch of each station

Every station has a switch that says whether it takes part in cooperation; it
is on until somebody turns it off. A listener may be registered for a station,
one at a time, and hears when its switch is flipped. Setting switches by
`update` calls no listener.

Key definitions: `CrossingSwitch`, `CrossingSwitch.isOn`,
`CrossingSwitch.update`, `CrossingSwitch.flip`, `CrossingSwitch.register`.
-/
import PointerShare.Fault

namespace PointerShare

/-- The switches that were ever set, and who listens to which; a listener is known by an `α`. -/
structure CrossingSwitch (α : Type) where
  states : List (NetworkId × Bool)
  listeners : List (NetworkId × α)
  updateFails : Bool
  registerFails : Bool
  unregisterFails : Bool
  deriving DecidableEq, Repr

namespace CrossingSwitch

variable {α : Type}

/-- Every switch is on and nobody listens. -/
def fresh : CrossingSwitch α := ⟨[], [], false, false, false⟩

/-- The pairs with `id` bound to `v` and to nothing else. -/
def bind {β : Type} (pairs : List (NetworkId × β)) (id : NetworkId) (v : β) : List (NetworkId × β) :=
  pairs.filter (fun p => p.1 != id) ++ [(id, v)]

def isOn (s : CrossingSwitch α) (id : NetworkId) : Bool :=
  ((s.states.find? fun p => p.1 == id).map (·.2)).getD true

/-- Sets one switch. -/
def put (s : CrossingSwitch α) (id : NetworkId) (on : Bool) : CrossingSwitch α :=
  { s with states := bind s.states id on }

/-- Sets the switches of all the given stations. -/
def update (s : CrossingSwitch α) (on : Bool) (ids : List NetworkId) :
    Except DeviceFault (CrossingSwitch α) :=
  if s.updateFails then .error (.crossingSwitch "update")
  else .ok (ids.foldl (fun s id => s.put id on) s)

def listener? (s : CrossingSwitch α) (id : NetworkId) : Option α :=
  (s.listeners.find? fun p => p.1 == id).map (·.2)

def isWatched (s : CrossingSwitch α) (id : NetworkId) : Bool := (s.listener? id).isSome

/-- Sets one switch and tells its listener, if there is one. -/
def flip (s : CrossingSwitch α) (id : NetworkId) (on : Bool) : Option α × CrossingSwitch α :=
  (s.listener? id, s.put id on)

/-- Registers the listener of a station in place of any other. -/
def register (s : CrossingSwitch α) (id : NetworkId) (a : α) :
    Except DeviceFault (CrossingSwitch α) :=
  if s.registerFails then .error .unavailable
  else .ok { s with listeners := bind s.listeners id a }

def unregister (s : CrossingSwitch α) (id : NetworkId) : Except DeviceFault (CrossingSwitch α) :=
  if s.unregisterFails then .error .unavailable
  else .ok { s with listeners := s.listeners.filter fun p => p.1 != id }

/-- The stations that somebody listens to. -/
def watched (s : CrossingSwitch α) : List NetworkId := s.listeners.map (·.1)

theorem register_eq {s : CrossingSwitch α} (h : s.registerFails = false) (id : NetworkId) (a : α) :
    s.register id a = .ok { s with listeners := bind s.listeners id a } := by
  simp [register, h]

theorem unregister_eq {s : CrossingSwitch α} (h : s.unregisterFails = false) (id : NetworkId) :
    s.unregister id = .ok { s with listeners := s.listeners.filter fun p => p.1 != id } := by
  simp [unregister, h]

theorem putAll_eq (on : Bool) (ids : List NetworkId) (s : CrossingSwitch α) :
    ∃ states, ids.foldl (fun s id => s.put id on) s = { s with states := states } := by
  induction ids generalizing s with
  | nil => exact ⟨s.states, rfl⟩
  | cons id ids ih => exact ih (s.put id on)

/-- Setting switches leaves everything else as it is. -/
theorem update_eq {s s' : CrossingSwitch α} {on : Bool} {ids : List NetworkId}
    (h : s.update on ids = .ok s') : ∃ states, s' = { s with states := states } := by
  unfold update at h
  split at h
  · cases h
  · rw [← Except.ok.inj h]
    exact putAll_eq on ids s

end CrossingSwitch

end PointerShare
