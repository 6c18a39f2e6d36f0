-- The names of things that live on either side of the bridge: native
-- objects, connected handlers, closures, runtimes, and the functions that
-- embedders supply.

namespace NativeBridge

/-- A native object: a slot and the generation of its occupant. A slot is
used again, but never with an old generation. -/
structure ObjectId where
  index : UInt32
  generation : UInt32
  deriving DecidableEq, Repr, Inhabited

def ObjectId.text (o : ObjectId) : String := s!"object#{o.index.toNat}.{o.generation.toNat}"

/-- A handler connected to a signal. -/
structure HandlerId where
  number : UInt64
  deriving DecidableEq, Repr, Inhabited

def HandlerId.text (h : HandlerId) : String := s!"handler_{h.number.toNat}"

/-- A closure. Closures are numbered from zero, and named from one. -/
structure ClosureId where
  number : Nat
  deriving DecidableEq, Repr, Inhabited

def ClosureId.text (c : ClosureId) : String := s!"closure_{c.number + 1}"

/-- An instance of the dynamic runtime. Runtimes are numbered from zero,
and named from one. -/
structure RuntimeId where
  number : Nat
  deriving DecidableEq, Repr, Inhabited

def RuntimeId.text (r : RuntimeId) : String := s!"runtime_{r.number + 1}"

/-- A handler installed in a relay. -/
structure RelayHandlerId where
  number : UInt64
  deriving DecidableEq, Repr, Inhabited

/-! ## Foreign functions

Functions that embedders supply are known by number alone. What they do is
not fixed by this library. -/

/-- A native function connected to a signal. -/
structure NativeFunction where
  number : Nat
  deriving DecidableEq, Repr, Inhabited

/-- A function run on the first owned wrap of an object. -/
structure SinkFunction where
  number : Nat
  deriving DecidableEq, Repr, Inhabited

/-- A function that takes failures from a relay. -/
structure FaultFunction where
  number : Nat
  deriving DecidableEq, Repr, Inhabited

/-- A pair of functions that convert arguments and results. -/
structure Marshaller where
  number : Nat
  deriving DecidableEq, Repr, Inhabited

end NativeBridge
