-- A bridge, and what it makes: closures that native code can call, and
-- one-shot callbacks. A closure does not keep its bridge.
import NativeBridge.Bridge.Arena
import NativeBridge.Native.Heap
import NativeBridge.Relay.Basic

namespace NativeBridge

/-! ## The bridge -/

structure BridgeConfig where
  /-- Whether an object of a type without registration is shown as its
  nearest registered ancestor. -/
  subclassFallback : Bool := true
  /-- Whether the first such object of each type is reported. -/
  warnOnFallback : Bool := true
  /-- The limit of the relay that the bridge makes for itself. -/
  maxPending : Option Nat := some 1024
  deriving DecidableEq, Repr, Inhabited

def BridgeConfig.inspect (c : BridgeConfig) : String :=
  Text.record "BridgeConfig"
    [("subclass_fallback", toString c.subclassFallback),
      ("warn_on_fallback", toString c.warnOnFallback),
      ("max_pending_faults", Relay.inspectLimit c.maxPending)]
    true

/-- A registry, by its number in the system. -/
structure RegistryId where
  number : Nat
  deriving DecidableEq, Repr, Inhabited

/-- A relay, by its number in the system. -/
structure RelayId where
  number : Nat
  deriving DecidableEq, Repr, Inhabited

/-- The marshaller of a signal on a type and its subtypes. -/
structure MarshallerEntry where
  type : TypeId
  signal : String
  marshaller : Option Marshaller
  deriving DecidableEq, Repr

/-- One dynamic runtime attached to the native object system. -/
structure Bridge where
  /-- The thread that created it. -/
  home : Nat
  config : BridgeConfig
  registry : RegistryId
  relay : RelayId
  arena : Arena := {}
  /-- The failure raised last outside of any invocation. -/
  errorSlot : Option Fault := none
  marshallers : List MarshallerEntry := []
  /-- The types whose fallback was reported. -/
  warned : List TypeId := []

instance : Inhabited Bridge := ⟨{ home := 0, config := {}, registry := ⟨0⟩, relay := ⟨0⟩ }⟩

/-! ## Closures and callbacks -/

/-- A native-side callable bound to one runtime. It holds its callable
and its data. -/
structure Closure where
  id : ClosureId
  callable : Callable
  data : Option Handle
  /-- Whether the data takes the place of the instance. -/
  swap : Bool
  runtime : RuntimeId
  /-- Missing for the conversions of the bridge itself. -/
  marshaller : Option Marshaller
  /-- Where failures are reported as coming from. -/
  origin : String

def Closure.inspect (c : Closure) : String :=
  Text.record "Closure"
    [("id", s!"ClosureId({c.id.number + 1})"), ("runtime", s!"RuntimeId({c.runtime.number + 1})"),
      ("swap", toString c.swap), ("origin", Text.quoted c.origin)]
    false

/-- A dynamic callable with the native signature that it is called with. -/
structure Callback where
  number : Nat
  callable : Callable
  data : Option Handle
  paramTypes : List TypeId
  returnType : Option TypeId
  runtime : RuntimeId

/-- What can be connected to a signal. -/
inductive Subscriber where
  | closure (target : Closure)
  | native (function : NativeFunction)

end NativeBridge
