/-
# Values on the wire

How the values that stations exchange are written as JSON and read back.
Ids are texts, device numbers are whole numbers. A record is an object with
its fields in order; it is read from an object with the fields in any order
and others among them, or from an array of exactly its fields. A choice
without content is a text, or an object with that one field and `null`; a
choice with content is an object with one field. No field may come twice.
A location is moved into range when it is read.

Key definitions: `Wire`, its instances, and `Wire.recode?`.
-/
import PointerShare.Json.Reader
import PointerShare.Json.Writer
import PointerShare.Notice
import PointerShare.PointerEvent
import PointerShare.Role
import PointerShare.Signal
import PointerShare.Station.Basic

namespace PointerShare

open Json

/-- A type whose values travel as JSON. -/
class Wire (α : Type) where
  toJson : α → Value
  ofJson? : Value → Option α

namespace Wire

/-! ### Shapes -/

/-- The values of the named fields of a record: those of an object, with `none` for a field that is
missing, or all the items of an array. -/
def record? (names : List String) : Value → Option (List (Option Value))
  | .array items => if items.length = names.length then some (items.map some) else none
  | .object fs =>
    match fs.mapM fun f => (string? f.1).map fun name => (name, f.2) with
    | none => none
    | some fs =>
      let found := names.map fun name => fs.filter fun f => f.1 == name
      if found.all fun vs => vs.length ≤ 1 then some (found.map fun vs => vs.head?.map (·.2))
      else none
  | _ => none

/-- The name of a choice, and its content. -/
def choice? : Value → Option (String × Option Value)
  | .text t => (string? t).map fun name => (name, none)
  | .object [(name, content)] => (string? name).map fun name => (name, some content)
  | _ => none

/-- A choice without content, written as a text or as a field with `null`. -/
def bare? (v : Value) : Option String :=
  match choice? v with
  | some (name, none) => some name
  | some (name, some .null) => some name
  | _ => none

/-- A choice with content. -/
def choice (name : String) (content : Value) : Value := .fields [(name, content)]

/-- The value of a field that must be there. -/
def required? {α : Type} [Wire α] : Option Value → Option α
  | none => none
  | some v => ofJson? v

/-! ### Basic values -/

instance : Wire Bool where
  toJson b := .bool b
  ofJson? v := match v with
    | .bool b => some b
    | _ => none

/-- A whole number between `low` and `high`. -/
def intBetween? (low high : Int) : Value → Option Int
  | .number n => n.int?.filter fun i => low ≤ i ∧ i ≤ high
  | _ => none

instance : Wire Int32 where
  toJson i := .int i.toInt
  ofJson? v := (intBetween? (-Nat.pow 2 31) (Nat.pow 2 31 - 1) v).map Int32.ofInt

instance : Wire UInt32 where
  toJson n := .nat n.toNat
  ofJson? v := (intBetween? 0 (Nat.pow 2 32 - 1) v).map fun i => i.toNat.toUInt32

instance : Wire UInt64 where
  toJson n := .nat n.toNat
  ofJson? v := (intBetween? 0 (Nat.pow 2 64 - 1) v).map fun i => i.toNat.toUInt64

instance : Wire Float where
  toJson f := .float f
  ofJson? v := match v with
    | .number n => n.float?
    | _ => none

instance : Wire String where
  toJson s := .string s
  ofJson? v := match v with
    | .text t => string? t
    | _ => none

/-- A value that may be missing is written as `null`. -/
instance {α : Type} [Wire α] : Wire (Option α) where
  toJson o := match o with
    | none => .null
    | some a => toJson a
  ofJson? v := match v with
    | .null => some none
    | v => (ofJson? v).map some

instance : Wire NetworkId where
  toJson id := toJson id.text
  ofJson? v := (ofJson? v).map NetworkId.mk

instance : Wire Dhid where
  toJson id := toJson id.text
  ofJson? v := (ofJson? v).map Dhid.mk

instance : Wire DeviceId where
  toJson id := toJson id.number
  ofJson? v := (ofJson? v).map DeviceId.mk

/-! ### Records and choices -/

instance : Wire Screen where
  toJson s := .fields [("width", toJson s.width), ("height", toJson s.height)]
  ofJson? v := do
    match ← record? ["width", "height"] v with
    | [width, height] => return ⟨← required? width, ← required? height⟩
    | _ => none

instance : Wire Location where
  toJson l := .fields [("x_pct", toJson l.x), ("y_pct", toJson l.y)]
  ofJson? v := do
    match ← record? ["x_pct", "y_pct"] v with
    | [x, y] => return .clamp (← required? x) (← required? y)
    | _ => none

instance : Wire Role where
  toJson r := match r with
    | .free => .string "Free"
    | .inbound d => choice "In" (toJson d)
    | .outbound d => choice "Out" (toJson d)
  ofJson? v := match choice? v with
    | some ("Free", none) => some .free
    | some ("Free", some .null) => some .free
    | some ("In", some d) => (ofJson? d).map .inbound
    | some ("Out", some d) => (ofJson? d).map .outbound
    | _ => none

instance : Wire Link where
  toJson l := .fields [("src", toJson l.src), ("sink", toJson l.sink)]
  ofJson? v := do
    match ← record? ["src", "sink"] v with
    | [src, sink] => return ⟨← required? src, ← required? sink⟩
    | _ => none

instance : Wire PointerAction where
  toJson a := match a with
    | .motion dx dy => choice "Motion" (.fields [("dx", toJson dx), ("dy", toJson dy)])
    | .buttonDown button => choice "ButtonDown" (.fields [("button", toJson button)])
    | .buttonUp button => choice "ButtonUp" (.fields [("button", toJson button)])
    | .axis vertical horizontal =>
      choice "Axis" (.fields [("vertical", toJson vertical), ("horizontal", toJson horizontal)])
    | .keyDown code => choice "KeyDown" (.fields [("code", toJson code)])
    | .keyUp code => choice "KeyUp" (.fields [("code", toJson code)])
  ofJson? v := do
    match choice? v with
    | some ("Motion", some c) =>
      match ← record? ["dx", "dy"] c with
      | [dx, dy] => return .motion (← required? dx) (← required? dy)
      | _ => none
    | some ("ButtonDown", some c) =>
      match ← record? ["button"] c with
      | [button] => return .buttonDown (← required? button)
      | _ => none
    | some ("ButtonUp", some c) =>
      match ← record? ["button"] c with
      | [button] => return .buttonUp (← required? button)
      | _ => none
    | some ("Axis", some c) =>
      match ← record? ["vertical", "horizontal"] c with
      | [vertical, horizontal] => return .axis (← required? vertical) (← required? horizontal)
      | _ => none
    | some ("KeyDown", some c) =>
      match ← record? ["code"] c with
      | [code] => return .keyDown (← required? code)
      | _ => none
    | some ("KeyUp", some c) =>
      match ← record? ["code"] c with
      | [code] => return .keyUp (← required? code)
      | _ => none
    | _ => none

instance : Wire PointerEvent where
  toJson e := .fields
    [("device_id", toJson e.device), ("timestamp_us", toJson e.timestamp),
      ("action", toJson e.action)]
  ofJson? v := do
    match ← record? ["device_id", "timestamp_us", "action"] v with
    | [device, timestamp, action] =>
      return ⟨← required? device, ← required? timestamp, ← required? action⟩
    | _ => none

instance : Wire Verdict where
  toJson v := match v with
    | .forward => .string "Forward"
    | .suppress => .string "Suppress"
  ofJson? v := match bare? v with
    | some "Forward" => some .forward
    | some "Suppress" => some .suppress
    | _ => none

instance : Wire Message where
  toJson m := .string m.name
  ofJson? v := (bare? v).bind Message.ofName?

instance : Wire Reason where
  toJson r := .string r.name
  ofJson? v := (bare? v).bind Reason.ofName?

instance : Wire Notice where
  toJson n := .fields
    [("message", toJson n.message), ("network_id", toJson n.peer), ("reason", toJson n.reason)]
  ofJson? v := do
    match ← record? ["message", "network_id", "reason"] v with
    | [message, peer, reason] =>
      return ⟨← required? message, ← required? peer, ← ofJson? (reason.getD .null)⟩
    | _ => none

instance : Wire PeerSignal where
  toJson s := match s with
    | .startRequest sender => choice "StartRequest" (.fields [("from", toJson sender)])
    | .startResult sender success dhid location =>
      choice "StartResult" (.fields
        [("from", toJson sender), ("success", toJson success), ("dhid", toJson dhid),
          ("location", toJson location)])
    | .stopRequest sender => choice "StopRequest" (.fields [("from", toJson sender)])
    | .stopResult sender success =>
      choice "StopResult" (.fields [("from", toJson sender), ("success", toJson success)])
    | .relayAnnounce newSink => choice "RelayAnnounce" (.fields [("new_sink", toJson newSink)])
  ofJson? v := do
    match choice? v with
    | some ("StartRequest", some c) =>
      match ← record? ["from"] c with
      | [sender] => return .startRequest (← required? sender)
      | _ => none
    | some ("StartResult", some c) =>
      match ← record? ["from", "success", "dhid", "location"] c with
      | [sender, success, dhid, location] =>
        return .startResult (← required? sender) (← required? success) (← required? dhid)
          (← required? location)
      | _ => none
    | some ("StopRequest", some c) =>
      match ← record? ["from"] c with
      | [sender] => return .stopRequest (← required? sender)
      | _ => none
    | some ("StopResult", some c) =>
      match ← record? ["from", "success"] c with
      | [sender, success] => return .stopResult (← required? sender) (← required? success)
      | _ => none
    | some ("RelayAnnounce", some c) =>
      match ← record? ["new_sink"] c with
      | [newSink] => return .relayAnnounce (← required? newSink)
      | _ => none
    | _ => none

/-! ### Only written -/

def guardJson (g : Guard) : Value :=
  .fields [("is_starting", .bool g.isStarting), ("is_stopping", .bool g.isStopping)]

/-- What the outside sees of a station, as it is published. -/
def viewJson (v : View) : Value :=
  .fields
    [("state", toJson v.role), ("guard", guardJson v.guard), ("prepared", toJson v.link),
      ("session_peer", toJson v.sessionPeer), ("enabled", toJson v.enabled),
      ("relayed_keys", .array (v.relayedKeys.map toJson)),
      ("pending_remote_calls", .nat v.pendingCalls)]

/-! ### Texts -/

/-- Reads a value from a text. -/
def read? (α : Type) [Wire α] (text : String) : Option α := (parse? text).bind ofJson?

/-- Writes a value as a text. -/
def write {α : Type} [Wire α] (a : α) : String := (toJson a).write

/-- Reads a text as an `α` and writes it again. -/
def recode? (α : Type) [Wire α] (text : String) : Option String := (read? α text).map write

end Wire

end PointerShare
