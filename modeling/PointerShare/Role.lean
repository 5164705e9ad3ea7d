/-
# The role of a station and the link it holds

A station is free, donates one of its pointers (outbound), or consumes a
pointer that another station donates (inbound). The link is the pair of
stations whose sharing session has been prepared; both ends must be named,
otherwise nothing is prepared.

Key definitions: `Role`, `Link`, `Link.isPrepared`, `Link.joins`,
`Link.involves`.
-/
import PointerShare.Ident

namespace PointerShare

/-- What a station does with the shared pointer. -/
inductive Role where
  | free
  | inbound (shared : Dhid)
  | outbound (shared : Dhid)
  deriving DecidableEq, Inhabited, Repr

namespace Role

/-- The shared pointer, unless free. -/
def shared? : Role → Option Dhid
  | free => none
  | inbound d => some d
  | outbound d => some d

def isFree : Role → Bool
  | free => true
  | _ => false

def isOutbound : Role → Bool
  | outbound _ => true
  | _ => false

/-- A role as messages show it. -/
def text : Role → String
  | free => "Free"
  | inbound d => "In(" ++ d.text ++ ")"
  | outbound d => "Out(" ++ d.text ++ ")"

theorem isFree_iff {r : Role} : r.isFree = true ↔ r = free := by
  cases r <;> simp [isFree]

theorem isFree_eq_false_iff {r : Role} : r.isFree = false ↔ r ≠ free := by
  cases r <;> simp [isFree]

theorem isOutbound_iff {r : Role} : r.isOutbound = true ↔ ∃ d, r = outbound d := by
  cases r <;> simp [isOutbound]

end Role

/-- The two ends of a prepared sharing session: the station that hosts the pointer, and the one
that uses it. -/
structure Link where
  src : NetworkId
  sink : NetworkId
  deriving DecidableEq, Inhabited, Repr

namespace Link

/-- No link: neither end is named. -/
def none : Link := ⟨.empty, .empty⟩

/-- Both ends are named. -/
def isPrepared (l : Link) : Bool := !l.src.isEmpty && !l.sink.isEmpty

/-- The prepared link from `src` to `sink`. -/
def joins (l : Link) (src sink : NetworkId) : Bool :=
  l.isPrepared && l.src == src && l.sink == sink

/-- A prepared link with `id` at one end. -/
def involves (l : Link) (id : NetworkId) : Bool :=
  l.isPrepared && (l.src == id || l.sink == id)

@[simp] theorem isPrepared_none : none.isPrepared = false := rfl

@[simp] theorem involves_none (id : NetworkId) : none.involves id = false := rfl

theorem joins_iff {l : Link} {src sink : NetworkId} :
    l.joins src sink = true ↔ l = ⟨src, sink⟩ ∧ l.isPrepared = true := by
  rcases l with ⟨a, b⟩
  simp [joins, and_comm, and_left_comm, and_assoc]

end Link

end PointerShare
