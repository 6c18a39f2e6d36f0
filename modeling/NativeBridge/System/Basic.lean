-- The state of both sides of the bridge: the native heap, the bridges with
-- their registries and relays, and everything that is shared and counted.
-- The state of the dynamic program itself is a parameter.
import NativeBridge.Bridge.Basic
import NativeBridge.Notice
import NativeBridge.Registry.ErrorRecord
import NativeBridge.Shared

namespace NativeBridge

/-- What is kept of a wrapper of an object. -/
structure WrapperRecord where
  wrapper : ObjectWrapper
  /-- The bridge that made it. -/
  maker : RuntimeId
  /-- Whether its end gives a reference back. -/
  releases : Bool
  deriving DecidableEq, Repr

/-- What is kept of a wrapper of a boxed structure. -/
structure BoxRecord where
  wrapper : BoxedWrapper
  /-- The strategy that destroys it at its end. -/
  destroyer : Option BoxedStrategy
  /-- The strategies that were called to destroy it, in order. -/
  destroyedBy : List BoxedStrategy := []

namespace BoxRecord

/-- The strategy that the end of the wrapper calls. A borrowed wrapper calls
none. -/
def hook? (entry : BoxRecord) : Option BoxedStrategy :=
  if entry.wrapper.ownership = .owned then entry.destroyer else none

/-- The end of the wrapper. -/
def finish (entry : BoxRecord) : BoxRecord :=
  { entry with destroyedBy := entry.destroyedBy ++ entry.hook?.toList }

end BoxRecord

/-- The state. -/
structure System (σ : Type) where
  heap : Heap Subscriber := {}
  registries : Array Registry := #[]
  relays : Array Relay := #[]
  bridges : SharedTable Bridge := {}
  wrappers : SharedTable WrapperRecord := {}
  boxes : SharedTable BoxRecord := {}
  callables : SharedTable Unit := {}
  closures : SharedTable Closure := {}
  callbacks : SharedTable Callback := {}
  /-- How many trees were shared so far. -/
  variants : Nat := 0
  /-- The thread at work. -/
  thread : Nat := 0
  /-- The runtimes entered on it, the innermost first. -/
  entered : List RuntimeId := []
  /-- What was reported, the oldest first. -/
  notices : List Notice := []
  /-- Set when a run was cut short. What follows then means nothing. -/
  exhausted : Bool := false
  /-- The state of the dynamic program. -/
  guest : σ

variable {σ : Type}

/-- A change of the state that gives a value. -/
abbrev Action (σ α : Type) := StateM (System σ) α

/-- An action that may fail. What it did before stays done. -/
abbrev Attempt (σ α : Type) := ExceptT BridgeError (StateM (System σ)) α

namespace System

/-! ## Parts of the state -/

def bridge (s : System σ) (r : RuntimeId) : Bridge := (s.bridges.get? r.number).getD default

def modifyBridge (s : System σ) (r : RuntimeId) (f : Bridge → Bridge) : System σ :=
  { s with bridges := s.bridges.modify r.number f }

/-- Whether anyone still holds a bridge. -/
def isBridgeAlive (s : System σ) (r : RuntimeId) : Bool := s.bridges.holders r.number != 0

def registry (s : System σ) (id : RegistryId) : Registry := (s.registries[id.number]?).getD {}

def setRegistry (s : System σ) (id : RegistryId) (r : Registry) : System σ :=
  { s with registries := s.registries.setIfInBounds id.number r }

/-- The registry of a bridge. -/
def registryOf (s : System σ) (r : RuntimeId) : Registry := s.registry (s.bridge r).registry

def relay (s : System σ) (id : RelayId) : Relay := (s.relays[id.number]?).getD {}

def modifyRelay (s : System σ) (id : RelayId) (f : Relay → Relay) : System σ :=
  { s with relays := s.relays.modify id.number f }

/-- Reports something. -/
def note (s : System σ) (n : Notice) : System σ := { s with notices := s.notices ++ [n] }

/-- Reports the use of a strategy that has a name. -/
def announce (s : System σ) (strategy : BoxedStrategy) (use : BoxedUse) (block : Block) :
    System σ :=
  match strategy.name with
  | some name => s.note (.boxed use name block)
  | none => s

/-- A tree made shared for the first time. -/
def share (s : System σ) (tree : Variant) : SharedVariant × System σ :=
  (⟨s.variants, tree⟩, { s with variants := s.variants + 1 })

/-! ## Holding -/

/-- A handle gets one more holder. -/
def holdHandle (s : System σ) : Handle → System σ
  | .object w => { s with wrappers := s.wrappers.hold w.number }
  | .boxed w => { s with boxes := s.boxes.hold w.number }
  | .callable c => { s with callables := s.callables.hold c.number }
  | _ => s

/-- The data of a closure or callback gets one more holder. -/
def holdData (s : System σ) : Option Handle → System σ
  | some h => s.holdHandle h
  | none => s

def holdCallable (s : System σ) (c : Callable) : System σ :=
  { s with callables := s.callables.hold c.number }

def holdClosure (s : System σ) (c : Closure) : System σ :=
  { s with closures := s.closures.hold c.id.number }

def holdCallback (s : System σ) (c : Callback) : System σ :=
  { s with callbacks := s.callbacks.hold c.number }

def holdBridge (s : System σ) (r : RuntimeId) : System σ :=
  { s with bridges := s.bridges.hold r.number }

def holdSubscriber (s : System σ) : Subscriber → System σ
  | .closure c => s.holdClosure c
  | .native _ => s

/-! ## New things -/

/-- Adds a registry. -/
def addRegistry (s : System σ) (r : Registry) : RegistryId × System σ :=
  (⟨s.registries.size⟩, { s with registries := s.registries.push r })

/-- Adds a relay. -/
def addRelay (s : System σ) (r : Relay) : RelayId × System σ :=
  (⟨s.relays.size⟩, { s with relays := s.relays.push r })

/-- Adds a callable with one holder. -/
def addCallable (s : System σ) : Callable × System σ :=
  (⟨s.callables.size⟩, { s with callables := s.callables.add () })

/-- Adds a bridge with one holder. Without a relay it makes its own. -/
def addBridge (s : System σ) (config : BridgeConfig) (registry : RegistryId)
    (relay? : Option RelayId) : RuntimeId × System σ :=
  let (relay, s) :=
    match relay? with
    | some relay => (relay, s)
    | none => s.addRelay (Relay.withLimit config.maxPending)
  let bridge : Bridge := { home := s.thread, config, registry, relay }
  (⟨s.bridges.size⟩, { s with bridges := s.bridges.add bridge })

end System

/-! ## Actions -/

/-- An action as an attempt that does not fail. -/
def doing {α : Type} (a : Action σ α) : Attempt σ α := ExceptT.lift a

/-- The outcome of an attempt as a value, so that its caller goes on either
way. -/
def outcomeOf {α : Type} (a : Attempt σ α) : Attempt σ (Except BridgeError α) :=
  ExceptT.lift a.run

/-- Ends in an outcome. -/
def endIn {α : Type} (outcome : Except BridgeError α) : Attempt σ α :=
  ExceptT.mk (pure outcome)

/-- The native outcome of a change of the heap. -/
def changeHeap {α : Type} (f : Heap Subscriber → Except NativeError (α × Heap Subscriber)) :
    Attempt σ α := do
  match f (← get).heap with
  | .ok (value, heap) =>
    modify fun s => { s with heap }
    return value
  | .error e => throw (.native e)

end NativeBridge
