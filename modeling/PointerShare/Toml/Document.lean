/-
# TOML documents

A document is a table of named nodes. Tables come about in four ways: by a
header of their own, as a step on the way to another header, by dotted keys,
or inline. Which way it was decides what may still be added: a header may open
a table that was only a step before, dotted keys may add to tables that dotted
keys made, and nothing may be defined twice.

Key definitions: `Node`, `TableKind`, `within`, `Document.addValue`,
`Document.openTable`, `Document.openArrayTable`.
-/

namespace PointerShare
namespace Toml

/-- How a table came about. -/
inductive TableKind where
  /-- By a header, or as the document itself. -/
  | headed
  /-- As a step on the way to another header. -/
  | implied
  | dotted
  | inline
  deriving DecidableEq, Repr

inductive Node where
  | text (s : String)
  | int (i : Int)
  /-- A double, by its bits, so that every kind of NaN is kept. -/
  | float (bits : UInt64)
  | bool (b : Bool)
  /-- A date, a time, or both; which one is not kept. -/
  | dateTime
  | array (items : List Node)
  | table (kind : TableKind) (entries : List (String × Node))
  /-- The tables that headers in double brackets made, oldest first. -/
  | tables (all : List (List (String × Node)))

abbrev Entries := List (String × Node)

def lookup (es : Entries) (key : String) : Option Node := (es.find? fun e => e.1 == key).map (·.2)

/-- The entries with a new node for a key that is there. -/
def replace (es : Entries) (key : String) (n : Node) : Entries :=
  es.map fun e => if e.1 == key then (key, n) else e

/-- Changes the table at the end of `path`. Tables on the way that are missing are made, of kind
`create`; those that are there must be fit for it. In an array of tables the way goes through the
last one. -/
def within (create : TableKind) (fit : TableKind → Bool)
    (f : TableKind → Entries → Option Entries) :
    List String → TableKind → Entries → Option Entries
  | [], kind, es => f kind es
  | key :: path, _, es =>
    match lookup es key with
    | none => (within create fit f path create []).map fun sub => es ++ [(key, .table create sub)]
    | some (.table kind sub) =>
      if kind ≠ .inline ∧ fit kind then
        (within create fit f path kind sub).map fun sub => replace es key (.table kind sub)
      else none
    | some (.tables all) =>
      match all.getLast? with
      | none => none
      | some last =>
        (within create fit f path .headed last).map fun sub =>
          replace es key (.tables (all.dropLast ++ [sub]))
    | some _ => none

/-- Adds a value under a dotted key. The table it goes to is the one at hand, or one that dotted
keys made. -/
def addDotted (path : List String) (key : String) (v : Node) (kind : TableKind) (es : Entries) :
    Option Entries :=
  within .dotted (fun k => k = .dotted ∨ k = .implied)
    (fun k es =>
      if !path.isEmpty && k != .dotted then none
      else if (lookup es key).isSome then none
      else some (es ++ [(key, v)]))
    path kind es

/-- An inline table with the given dotted keys and values. -/
def inlineTable? (pairs : List (List String × String × Node)) : Option Node :=
  (pairs.foldlM (fun es p => addDotted p.1 p.2.1 p.2.2 .headed es) []).map (.table .inline)

/-- A document that is being read: what it holds, and the table that values are added to. -/
structure Document where
  root : Entries
  path : List String

namespace Document

def empty : Document := ⟨[], []⟩

/-- Adds a value to the current table. -/
def addValue (d : Document) (path : List String) (key : String) (v : Node) : Option Document :=
  (within .implied (fun _ => true) (addDotted path key v) d.path .headed d.root).map fun root =>
    { d with root := root }

/-- Opens the table with the given header, which must be new or only a step so far. -/
def openTable (d : Document) (path : List String) (key : String) : Option Document :=
  (within .implied (fun _ => true)
    (fun _ es => match lookup es key with
      | none => some (es ++ [(key, .table .headed [])])
      | some (.table .implied sub) => some (replace es key (.table .headed sub))
      | some _ => none)
    path .headed d.root).map fun root => ⟨root, path ++ [key]⟩

/-- Opens one more table of the array with the given header. -/
def openArrayTable (d : Document) (path : List String) (key : String) : Option Document :=
  (within .implied (fun _ => true)
    (fun _ es => match lookup es key with
      | none => some (es ++ [(key, .tables [[]])])
      | some (.tables all) => some (replace es key (.tables (all ++ [[]])))
      | some _ => none)
    path .headed d.root).map fun root => ⟨root, path ++ [key]⟩

end Document

end Toml
end PointerShare
