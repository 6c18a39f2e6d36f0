-- The native type system: single inheritance, interfaces, and signals
-- that subtypes inherit. Every walk follows the line of a type, which is
-- the type itself and its parents.
import NativeBridge.Error
import NativeBridge.Table

namespace NativeBridge

/-- The declared shape of a signal, without the instance. -/
structure SignalDef where
  params : List TypeId
  /-- Missing for a signal without a result. -/
  returnType : Option TypeId
  deriving DecidableEq, Repr

/-- A native type. Interfaces stand in the order in which they were added. -/
structure NativeType where
  name : String
  parent : Option TypeId
  interfaces : List TypeId := []
  signals : Table String SignalDef := {}

/-- The defined types. -/
abbrev Hierarchy := Table TypeId NativeType

namespace Hierarchy

/-! ## Walks -/

def parent? (h : Hierarchy) (type : TypeId) : Option TypeId := h.get? type >>= (·.parent)

def name? (h : Hierarchy) (type : TypeId) : Option String := (h.get? type).map (·.name)

/-- The name of a type, or its identifier if it has none. -/
def describe (h : Hierarchy) (type : TypeId) : String := (h.name? type).getD type.text

/-- The type and the parents above it, at most a given number of them. -/
def climb (h : Hierarchy) : Nat → TypeId → List TypeId
  | 0, _ => []
  | steps + 1, type =>
    match h.parent? type with
    | some parent => type :: climb h steps parent
    | none => [type]

/-- The type, its parent, the parent of that, and so on. No line is longer
than one more than the number of types. -/
def line (h : Hierarchy) (type : TypeId) : List TypeId := h.climb (h.size + 1) type

/-- The parents above a type, the nearest first. -/
def ancestors (h : Hierarchy) (type : TypeId) : List TypeId := (h.line type).drop 1

/-- The interfaces that a type declares itself. -/
def interfaces (h : Hierarchy) (type : TypeId) : List TypeId :=
  match h.get? type with
  | some entry => entry.interfaces
  | none => []

/-- Whether a type is the other one, derives from it, or implements it. -/
def isA (h : Hierarchy) (type ancestor : TypeId) : Bool :=
  (h.line type).any fun t => t == ancestor || (h.interfaces t).contains ancestor

/-- A signal that a type defines itself. -/
def ownSignal? (h : Hierarchy) (type : TypeId) (signal : String) : Option SignalDef :=
  h.get? type >>= (·.signals.get? signal)

/-- The types whose own signals are visible at one place of a line. -/
def sourcesAt (h : Hierarchy) (type : TypeId) : List TypeId := type :: h.interfaces type

/-- A signal that is visible on a type. The nearest class decides, and
its own definition comes before those of its interfaces. -/
def signal? (h : Hierarchy) (type : TypeId) (signal : String) : Option SignalDef :=
  (h.line type).findSome? fun t => (h.sourcesAt t).findSome? (h.ownSignal? · signal)

/-! ## Definitions -/

/-- Defines a type, under a parent if one is given. -/
def define (h : Hierarchy) (id : TypeId) (name : String) (parent : Option TypeId) :
    Except NativeError Hierarchy :=
  if h.contains id then .error (.duplicateType name)
  else
    match parent with
    | none => .ok (h.set id { name, parent := none })
    | some p =>
      if h.contains p then .ok (h.set id { name, parent := some p })
      else .error (.unknownType p)

/-- Declares that a type implements an interface. -/
def addInterface (h : Hierarchy) (type face : TypeId) : Except NativeError Hierarchy :=
  if h.contains face then
    match h.get? type with
    | none => .error (.unknownType type)
    | some entry =>
      if face ∈ entry.interfaces then .ok h
      else .ok (h.set type { entry with interfaces := entry.interfaces ++ [face] })
  else .error (.unknownType face)

/-- Defines a signal on a type. -/
def defineSignal (h : Hierarchy) (type : TypeId) (name : String) (shape : SignalDef) :
    Except NativeError Hierarchy :=
  match h.get? type with
  | none => .error (.unknownType type)
  | some entry =>
    if entry.signals.contains name then .error (.duplicateSignal entry.name name)
    else .ok (h.set type { entry with signals := entry.signals.set name shape })

end Hierarchy

end NativeBridge
