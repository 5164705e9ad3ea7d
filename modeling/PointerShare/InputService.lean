/-
# A remote input service that does as it is told

Stands for the service that relays input between stations. It keeps a record
of the calls it took. What it does at once when it is called depends on the
mood set for the call's kind: it answers with success in every shape the kind
asks for, or with failure, or not at all, or it refuses the call; or it reacts
in a way of its own, with any replies before it takes the call or refuses it.
It holds at most one listener for relay events, and its two listener calls can
be made to fail.

Key definitions: `Mood`, `Reaction`, `InputService`, `InputService.react`,
`InputService.take`, `ServiceCall.success`, `ServiceCall.failure`.
-/
import PointerShare.Fault

namespace PointerShare

/-- What the service does at once when it is called: it posts replies, then takes the call or
refuses it. -/
structure Reaction where
  replies : List Reply
  refuses : Bool
  deriving DecidableEq, Repr

/-- How calls of a kind are answered. -/
inductive Mood where
  | succeed
  | fail
  | silent
  | refuse
  | own (reaction : Reaction)
  deriving DecidableEq, Repr

/-- A call that the service took. -/
structure ServiceCall where
  kind : CallKind
  request : RequestId
  args : CallArgs
  deriving DecidableEq, Repr

/-- The status of a failed call. -/
def statusFailed : Int32 := -1

namespace ServiceCall

/-- One reply to the call. -/
def reply (c : ServiceCall) (part : ReplyPart) (status : Int32) : Reply :=
  ⟨c.kind, c.request, part, status⟩

/-- The call's own arguments in one of the two shapes. -/
def echo (c : ServiceCall) : PartShape → ReplyPart
  | .pair => .pair c.args.src c.args.sink
  | .dhids => .dhids c.args.dhids

/-- The replies of a call that went well: one in each shape its kind asks for. -/
def success (c : ServiceCall) : List Reply :=
  c.kind.shapes.map fun shape => c.reply (c.echo shape) 0

/-- The reply of a call that failed. -/
def failure (c : ServiceCall) : List Reply := [c.reply (c.echo .pair) statusFailed]

/-- What a service in some mood does when it is called. -/
def reaction (c : ServiceCall) : Mood → Reaction
  | .succeed => ⟨c.success, false⟩
  | .fail => ⟨c.failure, false⟩
  | .silent => ⟨[], false⟩
  | .refuse => ⟨[], true⟩
  | .own reaction => reaction

end ServiceCall

structure InputService where
  moods : PerKind Mood
  /-- The calls that were not refused, oldest first. -/
  calls : List ServiceCall
  hasListener : Bool
  registerFails : Bool
  unregisterFails : Bool
  deriving DecidableEq, Repr

namespace InputService

/-- A service in good health that nobody has called. -/
def fresh : InputService := ⟨.const .succeed, [], false, false, false⟩

def setMood (s : InputService) (kind : CallKind) (mood : Mood) : InputService :=
  { s with moods := s.moods.set kind mood }

/-- What the service does at once when it is called. -/
def react (s : InputService) (call : ServiceCall) : Reaction := call.reaction (s.moods.get call.kind)

/-- The record after a call: a refused one leaves no trace. -/
def take (s : InputService) (call : ServiceCall) : InputService :=
  if (s.react call).refuses then s else { s with calls := s.calls ++ [call] }

/-- Registers a relay listener; there is room for one. -/
def register (s : InputService) : Except InputFault InputService :=
  if s.registerFails then .error .unavailable
  else if s.hasListener then .error .relayAlreadyRegistered
  else .ok { s with hasListener := true }

/-- Removes the relay listener, if there is one. -/
def unregister (s : InputService) : Except InputFault InputService :=
  if s.unregisterFails then .error .unavailable
  else .ok { s with hasListener := false }

/-- The latest call of a kind. -/
def lastCall? (s : InputService) (kind : CallKind) : Option ServiceCall :=
  s.calls.reverse.find? fun c => c.kind == kind

end InputService

end PointerShare
