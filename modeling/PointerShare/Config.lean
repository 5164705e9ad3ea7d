/-
# Configuration

What a service is configured with. A configuration is a TOML document with
three sections; whatever it leaves out has its usual value, and what it has
beyond that is ignored. A section may also be an array, whose items are the
values in order. Numbers of the wrong kind or size, and anything that is not
what its place asks for, make the configuration invalid, and so do a queue or
a timeout of zero.

Key definitions: `Config`, `Config.parse`, `Config.check`, `Config.load`,
`Config.write`, `Config.settings`.
-/
import PointerShare.Station.Basic
import PointerShare.Toml.Reader
import PointerShare.Toml.Writer

namespace PointerShare

open Toml

/-- The service's own section. -/
structure ServiceSection where
  queueDepth : Nat
  logLevel : String
  deriving DecidableEq, Repr

/-- How long remote calls are waited for, in milliseconds. -/
structure RemoteInputSection where
  timeout : Nat
  retries : Nat
  notifyTimeout : Nat
  deriving DecidableEq, Repr

/-- Where the cursor goes when a session ends, in percent; doubles by their bits. -/
structure CursorSection where
  x : UInt64
  y : UInt64
  deriving DecidableEq, Repr

structure Config where
  service : ServiceSection
  remoteInput : RemoteInputSection
  cursor : CursorSection
  deriving DecidableEq, Repr

/-- What is wrong with a configuration. -/
inductive ConfigFault where
  | notFound (path : String)
  /-- The file holds bytes that are no text. -/
  | notText
  /-- The file cannot be read at all. -/
  | unreadable (why : String)
  | invalid
  | zeroQueueDepth
  | zeroTimeout
  | zeroNotifyTimeout
  deriving DecidableEq, Repr

def ConfigFault.message : ConfigFault → String
  | notFound path => "config file not found: " ++ path
  | notText => "failed to read config: stream did not contain valid UTF-8"
  | unreadable why => "failed to read config: " ++ why
  | invalid => "failed to parse config"
  | zeroQueueDepth => "service.queue_depth must be > 0"
  | zeroTimeout => "remote_input.timeout_ms must be > 0"
  | zeroNotifyTimeout => "remote_input.notify_timeout_ms must be > 0"

def ConfigFault.fault (f : ConfigFault) : SetupFault := .config f.message

namespace ServiceSection

def usual : ServiceSection := ⟨1024, "info"⟩

end ServiceSection

namespace RemoteInputSection

def usual : RemoteInputSection := ⟨3000, 2, 2000⟩

end RemoteInputSection

namespace CursorSection

/-- Fifty percent. -/
def usual : CursorSection := ⟨(50.0 : Float).toBits, (50.0 : Float).toBits⟩

end CursorSection

namespace Config

def usual : Config := ⟨.usual, .usual, .usual⟩

/-! ### Reading -/

/-- The values of a section's fields; `none` inside for a field that is left out. -/
def section? (names : List String) : Node → Option (List (Option Node))
  | .table _ es => some (names.map (lookup es))
  | .array items => some ((List.range names.length).map fun i => items[i]?)
  | .tables all =>
    some ((List.range names.length).map fun i => all[i]?.map (.table .headed))
  | .dateTime => some (names.map fun _ => none)
  | _ => none

/-- A whole number below `bound`. -/
def natBelow? (bound : Nat) : Node → Option Nat
  | .int i => if 0 ≤ i ∧ i < bound then some i.toNat else none
  | _ => none

/-- The bits of a double; a whole number will do. -/
def double? : Node → Option UInt64
  | .float bits => some bits
  | .int i => some (Int64.ofInt i).toFloat.toBits
  | _ => none

def text? : Node → Option String
  | .text s => some s
  | _ => none

/-- What a field holds, or its usual value when it is left out. -/
def fieldOr {α : Type} (read : Node → Option α) (usual : α) : Option Node → Option α
  | none => some usual
  | some n => read n

def readService (n : Node) : Option ServiceSection := do
  match ← section? ["queue_depth", "log_level"] n with
  | [depth, level] =>
    return ⟨← fieldOr (natBelow? (Nat.pow 2 63)) ServiceSection.usual.queueDepth depth,
      ← fieldOr text? ServiceSection.usual.logLevel level⟩
  | _ => none

def readRemoteInput (n : Node) : Option RemoteInputSection := do
  match ← section? ["timeout_ms", "retries", "notify_timeout_ms"] n with
  | [timeout, retries, notify] =>
    return ⟨← fieldOr (natBelow? (Nat.pow 2 63)) RemoteInputSection.usual.timeout timeout,
      ← fieldOr (natBelow? (Nat.pow 2 8)) RemoteInputSection.usual.retries retries,
      ← fieldOr (natBelow? (Nat.pow 2 63)) RemoteInputSection.usual.notifyTimeout notify⟩
  | _ => none

def readCursor (n : Node) : Option CursorSection := do
  match ← section? ["default_x_percent", "default_y_percent"] n with
  | [x, y] =>
    return ⟨← fieldOr double? CursorSection.usual.x x, ← fieldOr double? CursorSection.usual.y y⟩
  | _ => none

/-- The configuration that a document describes. -/
def ofEntries? (es : Entries) : Option Config := do
  return ⟨← fieldOr readService .usual (lookup es "service"),
    ← fieldOr readRemoteInput .usual (lookup es "remote_input"),
    ← fieldOr readCursor .usual (lookup es "cursor")⟩

/-- Reads a configuration without judging its numbers. -/
def parse (text : String) : Except ConfigFault Config :=
  match (Toml.parse? text).bind ofEntries? with
  | none => .error .invalid
  | some c => .ok c

/-- A configuration is fit for use: no queue and no timeout is zero. -/
def check (c : Config) : Except ConfigFault Config :=
  if c.service.queueDepth = 0 then .error .zeroQueueDepth
  else if c.remoteInput.timeout = 0 then .error .zeroTimeout
  else if c.remoteInput.notifyTimeout = 0 then .error .zeroNotifyTimeout
  else .ok c

/-! ### Loading -/

/-- What is found at a path. -/
inductive Found where
  | nothing
  | file (bytes : ByteArray)
  | unreadable (why : String)

/-- Reads a file's bytes. -/
def ofBytes (bytes : ByteArray) : Except ConfigFault Config :=
  match String.fromUTF8? bytes with
  | none => .error .notText
  | some text => do
    let c ← parse text
    c.check

/-- Loads the configuration from a path that was asked for, or else from its usual place, where it
may be missing. -/
def load (path : Option String) (found : Found) : Except ConfigFault Config :=
  match found with
  | .file bytes => ofBytes bytes
  | .unreadable why => .error (.unreadable why)
  | .nothing => match path with
    | some p => .error (.notFound p)
    | none => .ok usual

/-! ### Writing and use -/

/-- The configuration as a document, line by line. -/
def lines (c : Config) : List (String × List (String × String)) :=
  [("service",
      [("queue_depth", toString c.service.queueDepth), ("log_level", writeText c.service.logLevel)]),
    ("remote_input",
      [("timeout_ms", toString c.remoteInput.timeout), ("retries", toString c.remoteInput.retries),
        ("notify_timeout_ms", toString c.remoteInput.notifyTimeout)]),
    ("cursor",
      [("default_x_percent", writeFloat c.cursor.x), ("default_y_percent", writeFloat c.cursor.y)])]

/-- The configuration as a document: each section under its header, with an empty line between
sections. -/
def write (c : Config) : String :=
  "\n".intercalate (c.lines.map fun s =>
    "[" ++ s.1 ++ "]\n" ++ String.join (s.2.map fun f => f.1 ++ " = " ++ f.2 ++ "\n"))

/-- Where the cursor goes when a session ends. -/
def defaultLocation (c : Config) : Location :=
  .clamp (Float.ofBits c.cursor.x) (Float.ofBits c.cursor.y)

/-- What a station is set up with. -/
def settings (c : Config) : Settings where
  queueDepth := c.service.queueDepth
  timeout := c.remoteInput.timeout
  retries := c.remoteInput.retries
  notifyTimeout := c.remoteInput.notifyTimeout
  defaultLocation := c.defaultLocation

end Config

end PointerShare
