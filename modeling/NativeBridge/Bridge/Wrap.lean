-- Wrapping objects. While a wrapper of an object is alive, every wrap of
-- that object gives it again. An owned wrap takes over the reference of
-- its caller; a borrowed wrap takes a reference for the arena.
import NativeBridge.System.Guest
import NativeBridge.System.Release

namespace NativeBridge

namespace System

variable {σ : Type}

/-! ## What an object is shown as -/

/-- A type in words: its package if it is registered, or its native name,
or its identifier. -/
def describeType (s : System σ) (r : RuntimeId) (type : TypeId) : String :=
  match (s.registryOf r).package? type with
  | some package => package
  | none => s.heap.types.describe type

def unconvertible (s : System σ) (r : RuntimeId) (type : TypeId) : ConversionError :=
  .unconvertibleType (s.describeType r type)

/-- The package of a type that is registered with reference counts. -/
def countedPackage? (s : System σ) (r : RuntimeId) (type : TypeId) : Option String :=
  match (s.registryOf r).registration? type with
  | some entry => if entry.classification.isRefcounted then some entry.package else none
  | none => none

/-- How an object is shown: under the package of its own type, or under
that of an ancestor. -/
inductive Exposure where
  | own (package : String)
  | inherited (package : String)
  deriving DecidableEq, Repr

def Exposure.package : Exposure → String
  | own package => package
  | inherited package => package

/-- How objects of a type are shown. A registration of the type itself
decides; without one, the nearest ancestor registered with reference
counts does, if the bridge allows it. -/
def exposure (s : System σ) (r : RuntimeId) (type : TypeId) : Except ConversionError Exposure :=
  match (s.registryOf r).registration? type with
  | some entry =>
    if entry.classification.isRefcounted then .ok (.own entry.package)
    else .error (.typeMismatch "object" entry.classification.text)
  | none =>
    if (s.bridge r).config.subclassFallback then
      match (s.heap.types.ancestors type).findSome? (s.countedPackage? r) with
      | some package => .ok (.inherited package)
      | none => .error (s.unconvertible r type)
    else .error (s.unconvertible r type)

/-- Reports that a type is shown as an ancestor, once for each type. -/
def noteFallback (s : System σ) (r : RuntimeId) (type : TypeId) (package : String) : System σ :=
  let b := s.bridge r
  if b.config.warnOnFallback && !b.warned.contains type then
    let s := s.modifyBridge r fun b => { b with warned := type :: b.warned }
    s.note (.subclassFallback (s.describeType r type) package)
  else s

/-! ## The arena -/

/-- Whether the entry of a wrapper still stands for it: an arena keeps its
borrowed wrappers, and handles keep the owned ones. -/
def isLive (s : System σ) (w : ObjectWrapper) : Bool :=
  w.ownership == .borrowed || s.wrappers.holders w.number != 0

/-- The live wrapper of an object. A dead entry goes on the way. -/
def liveWrapper (s : System σ) (r : RuntimeId) (o : ObjectId) : Option ObjectWrapper × System σ :=
  match (s.bridge r).arena.find? o with
  | none => (none, s)
  | some w =>
    if s.isLive w then (some w, s)
    else (none, s.modifyBridge r fun b => { b with arena := b.arena.erase o })

/-- A new wrapper with its entry. One holder is the caller; a borrowed
wrapper has the arena as another. -/
def addWrapper (s : System σ) (r : RuntimeId) (o : ObjectId) (type : TypeId) (package : String)
    (ownership : Ownership) : ObjectWrapper × System σ :=
  let w : ObjectWrapper := ⟨s.wrappers.size, o, type, package, ownership⟩
  let wrappers := s.wrappers.add ⟨w, r, ownership == .owned⟩
  let wrappers := if ownership = .borrowed then wrappers.hold w.number else wrappers
  let s := { s with wrappers }
  (w, s.modifyBridge r fun b => { b with arena := b.arena.insert w })

/-- The sink for objects of a type: the first one registered for the type
or for something that it is. -/
def sinkFor? (s : System σ) (id : RegistryId) (type : TypeId) : Option SinkFunction :=
  ((s.registry id).sinks.find? fun (target, _) => s.heap.types.isA type target).map (·.2)

/-- The number of objects that the arena of a bridge has entries for. -/
def liveObjects (s : System σ) (r : RuntimeId) : Nat := (s.bridge r).arena.size

end System

variable {σ : Type}

/-! ## Wrapping -/

/-- The wrapper of an object, and whether it is new. The caller is one
holder of it. -/
def acquireWrapper (r : RuntimeId) (o : ObjectId) (ownership : Ownership) :
    Attempt σ (ObjectWrapper × Bool) := do
  let some type := (← get).heap.typeOf? o | throw (.native (.staleObject o))
  let (known, s) := (← get).liveWrapper r o
  set s
  match known with
  | some w =>
    modify (·.holdHandle (.object w))
    return (w, false)
  | none =>
    match s.exposure r type with
    | .error e => throw (.conversion e)
    | .ok exposure =>
      if let .inherited package := exposure then
        modify (·.noteFallback r type package)
      if ownership = .borrowed then changeHeap fun h => (h.ref o).map ((), ·)
      let (w, s) := (← get).addWrapper r o type exposure.package ownership
      set s
      return (w, true)

/-- Wraps an object without taking over a reference. -/
def wrapBorrowed (r : RuntimeId) (o : ObjectId) : Attempt σ Handle := do
  let (w, _) ← acquireWrapper r o .borrowed
  return .object w

/-- Wraps an object. If it has a wrapper already, `owned` is ignored. The
first owned wrap shows the object to its sink. -/
def wrapObject (g : Guest σ) (r : RuntimeId) (o : ObjectId) (owned : Bool) : Attempt σ Handle := do
  let (w, isNew) ← acquireWrapper r o (.ofOwned owned)
  if isNew && owned then
    let s ← get
    if let some sink := s.sinkFor? (s.bridge r).registry w.nativeType then g.sink sink o
  return .object w

/-- The object behind a handle, if it is of the expected type. -/
def unwrapObject (r : RuntimeId) (h : Handle) (expected : TypeId) : Attempt σ ObjectId := do
  let s ← get
  match h.object? with
  | none => throw (.conversion (.typeMismatch (s.describeType r expected) h.typeName))
  | some w =>
    match s.heap.typeOf? w.object with
    | none => throw (.native (.staleObject w.object))
    | some actual =>
      if s.heap.types.isA actual ((s.registryOf r).canonicalIfRegistered expected) then
        return w.object
      else throw (.conversion (.typeMismatch (s.describeType r expected) w.package))

/-! ## Sweeping -/

/-- Releases the borrowed wrappers that no handle holds, and drops the
entries of dead ones. Gives the number of references released. -/
def sweep (r : RuntimeId) : Action σ Nat := do
  let s ← get
  let isIdle := fun (w : ObjectWrapper) =>
    w.ownership == .borrowed && s.wrappers.holders w.number == 1
  let idle := (s.bridge r).arena.wrappers.filter isIdle
  let gone := fun (w : ObjectWrapper) => isIdle w || !s.isLive w
  modify (·.modifyBridge r fun b => { b with arena := b.arena.eraseAll gone })
  modify (·.release (idle.flatMap idleReleases))
  return idle.length

/-- Lets a wrapper take over one native reference, released with its last
handle. False if it releases one already. -/
def adoptReference (w : ObjectWrapper) : Action σ Bool := do
  let s ← get
  set { s with wrappers := System.handOver s.wrappers w }
  return !s.givesBack w

end NativeBridge
