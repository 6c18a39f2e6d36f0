-- The steps on the native heap, on registries, and those that make and
-- drop bridges, registries and relays.
import NativeBridge.Session.Evaluate

namespace NativeBridge.Session

/-! ## The heap -/

/-- A change of the types, which may fail. -/
def changeTypes (f : Hierarchy → Except NativeError Hierarchy) : Run Unit := do
  let s ← get
  let types ← orFail .native (f s.heap.types)
  set { s with heap := { s.heap with types } }

def refsOf (o : ObjectId) : Run (Option Nat) := do
  return ((← get).heap.refCount? o).map (·.toNat)

def runHeapStep (g : Guest State) (frame : Frame) : HeapStep → Run Answer
  | .defineType name parent => do
    let id := TypeId.ofName name
    changeTypes (·.define id name parent)
    return .text id.text
  | .addInterface type face => do
    changeTypes (·.addInterface type face)
    return .nothing
  | .defineSignal type name shape => do
    changeTypes (·.defineSignal type name shape)
    return .nothing
  | .signalDef type name => do return .signalDef ((← get).heap.types.signal? type name)
  | .new type label => do
    let o ← attempt (changeHeap (·.instantiate type))
    changeGuest fun g => { g with objects := g.objects.set label o }
    return .text o.text
  | .ref object => do
    let o ← evalObject frame object
    attempt (changeHeap fun h => (h.ref o).map ((), ·))
    return .maybeNumber (← refsOf o)
  | .unref object => do
    let o ← evalObject frame object
    attempt (unrefObject o)
    return .maybeNumber (← refsOf o)
  | .object object => do
    let o ← evalObject frame object
    let h := (← get).heap
    return .objectState o (← refsOf o) (h.typeOf? o) (h.handlerCount o)
  | .typeInfo type => do
    let types := (← get).heap.types
    return .typeInfo (types.name? type) (types.parent? type)
  | .isA type ancestor => do return .flag ((← get).heap.types.isA type ancestor)
  | .finalized => do return .number (← get).heap.finalized
  | .inspect => do return .text (← get).heap.inspect
  | .emit object signal args => do
    let o ← evalObject frame object
    let args ← args.mapM (evalNative frame)
    return .maybeTyped (← attempt (emit g o signal args))
  | .connectClosure object signal closure after label => do
    let o ← evalObject frame object
    let c ← closureAt closure
    let id ← attempt (changeHeap (·.connect o signal (.closure c) after))
    modify (·.holdClosure c)
    bindSignalHandler label id
    return .text id.text
  | .disconnect object handler => do
    let o ← evalObject frame object
    attempt (disconnectHandler o (← signalHandlerAt handler))
    return .nothing

/-! ## Registries -/

/-- A registration, which may fail. -/
def changeRegistry {α : Type} (id : RegistryId)
    (f : Registry → Except RegistrationError (α × Registry)) : Run α := do
  let s ← get
  let (value, registry) ← orFail .registration (f (s.registry id))
  set (s.setRegistry id registry)
  return value

def runRegistryStep (place : RegistryPlace) (step : RegistryStep) : Run Answer := do
  let id ← registryAt place
  let registry := (← get).registry id
  match step with
  | .register typeName package c strategy =>
    let strategy ← strategy.mapM buildStrategy
    let type ← changeRegistry id
      (·.register (TypeId.ofName typeName) typeName package c strategy)
    return .text type.text
  | .registerStrategy typeName package strategy =>
    let strategy ← buildStrategy strategy
    let type ← changeRegistry id
      (·.registerStrategy (TypeId.ofName typeName) typeName package strategy)
    return .text type.text
  | .registerEnum typeName package values =>
    let type ← changeRegistry id (·.registerEnum (TypeId.ofName typeName) typeName package values)
    return .text type.text
  | .registerFlags typeName package values =>
    let type ← changeRegistry id (·.registerFlags (TypeId.ofName typeName) typeName package values)
    return .text type.text
  | .registerAlias typeName aliasPackage =>
    changeRegistry id fun r =>
      (r.registerAlias (TypeId.ofName typeName) typeName aliasPackage).map ((), ·)
    return .nothing
  | .registerSynonym typeName synonym =>
    changeRegistry id fun r =>
      (r.registerSynonym (TypeId.ofName typeName) typeName (TypeId.ofName synonym) synonym).map
        ((), ·)
    return .nothing
  | .registerDomain domain enumName package =>
    changeRegistry id fun r =>
      (r.registerErrorDomain domain (TypeId.ofName enumName) enumName package).map ((), ·)
    return .nothing
  | .lookupType package c =>
    let found :=
      match c with
      | some c => registry.lookupTypeIn c package
      | none => registry.lookupType package
    return .text (← orFail .registration found).text
  | .lookupPackage type c =>
    let found :=
      match c with
      | some c => registry.lookupPackageIn c type
      | none => registry.lookupPackage type
    return .text (← orFail .registration found)
  | .resolve type => return .resolved (registry.resolve type)
  | .sameType a b => return .flag (registry.sameType a b)
  | .isRegistered type => return .flag (registry.isRegistered type)
  | .typeName type => return .maybeText (registry.typeName? type)
  | .typeCount => return .number registry.typeCount
  | .sinkFor type => return .flag ((← get).sinkFor? id type).isSome
  | .errorDomain domain => return .errorDomain (registry.errorDomain? domain)
  | .faultOfError record => return .maybeFault (some (registry.faultOfError record))
  | .errorOfFault fault =>
    return .errorRecord (← orFail .conversion (registry.errorOfFault fault))

/-! ## Making and dropping -/

/-- The registry that all sessions would share. It is made when it is
first asked for. -/
def globalRegistry : Run RegistryId := do
  match (← guest).globalRegistry with
  | some id => return id
  | none =>
    let (id, s) := (← get).addRegistry .withFundamentals
    set { s with guest := { s.guest with globalRegistry := some id } }
    return id

/-- The shared registry as a step gets at it: a bridge is made for the
purpose and dropped at once, so that every request uses up the number of
a runtime. -/
def requestGlobalRegistry : Run RegistryId := do
  let id ← globalRegistry
  let (r, s) := (← get).addBridge {} id none
  set s
  modify (·.release [.bridge r])
  return id

def newRegistry (r : Registry) : Run RegistryId := do
  let (id, s) := (← get).addRegistry r
  set s
  return id

/-- Binds a label to a bridge, which the label holds from now on. -/
def bindBridge (label : String) (r : RuntimeId) : Run Unit := do
  let old := (← guest).bridges.get? label
  changeGuest fun g => { g with bridges := g.bridges.set label r }
  modify (·.release (old.toList.map .bridge))

def runSetupStep : SetupStep → Run Answer
  | .registry label kind => do
    let id ←
      match kind with
      | .empty => newRegistry {}
      | .global => requestGlobalRegistry
      | .fundamentals => newRegistry .withFundamentals
    changeGuest fun g => { g with registries := g.registries.set label id }
    return .number ((← get).registry id).typeCount
  | .relay label maxPending => do
    let (id, s) := (← get).addRelay (.withLimit maxPending)
    set s
    changeGuest fun g => { g with relays := g.relays.set label id }
    return .nothing
  | .bridge label config registry relay => do
    let registry ←
      match registry with
      | some name => registryAt (.label name)
      | none => globalRegistry
    let relay ← relay.mapM fun name => relayAt (.label name)
    let (r, s) := (← get).addBridge config registry relay
    set s
    bindBridge label r
    return .bridge r config
  | .cloneBridge bridge label => do
    let r ← bridgeAt bridge
    modify (·.holdBridge r)
    bindBridge label r
    return .text r.text
  | .dropBridge bridge => do
    match (← guest).bridges.get? bridge with
    | none => return .flag false
    | some r =>
      changeGuest fun g => { g with bridges := g.bridges.erase bridge }
      modify (·.release [.bridge r])
      return .flag true
  | .inspectBridge bridge => do
    let r ← bridgeAt bridge
    let s ← get
    let b := s.bridge r
    return .text <| Text.record "Bridge"
      [("id", s!"RuntimeId({r.number + 1})"), ("config", b.config.inspect),
        ("live_objects", toString b.arena.size), ("relay", (s.relay b.relay).inspect)]
      false

end NativeBridge.Session
