-- The language of sessions. A session is a list of steps over labelled
-- things. Callables, sinks and handlers are scripts: lists of steps that
-- run when they are called, and the outcomes that they come to.
import NativeBridge.Invocation.Callback

namespace NativeBridge.Session

/-! ## Values -/

/-- A tree to be built. -/
inductive Draft where
  | leaf (value : Variant)
  /-- An array whose items are checked against the element. -/
  | checked (element : String) (items : List Draft)
  | unchecked (element : String) (items : List Draft)
  | tuple (items : List Draft)

mutual

/-- Builds a tree. The first array with a wrong item fails it. -/
def Draft.build : Draft → Except ConversionError Variant
  | .leaf value => .ok value
  | .checked element items => do Variant.array? element (← Draft.buildAll items)
  | .unchecked element items => do return .array element (← Draft.buildAll items)
  | .tuple items => do return .tuple (← Draft.buildAll items)

def Draft.buildAll : List Draft → Except ConversionError (List Variant)
  | [] => .ok []
  | item :: rest => do return (← item.build) :: (← Draft.buildAll rest)

end

/-- An object: by label, by identifier, or the one that a script is about. -/
inductive ObjectExpr where
  | label (name : String)
  | id (object : ObjectId)
  | self

/-- A handle: made anew, or a clone of one at hand. -/
inductive HandleExpr where
  | undefined
  | scalar (value : Scalar)
  | tree (draft : Draft)
  /-- The handle with this label. -/
  | stored (label : String)
  /-- The callable with this label. -/
  | callable (label : String)
  /-- An argument of the running callable. -/
  | argument (index : Nat)
  /-- The number of arguments of the running callable. -/
  | argumentCount

/-- A native payload. -/
inductive NativeExpr where
  | plain (value : NativeValue)
  | object (target : ObjectExpr)
  | tree (draft : Draft)

structure TypedExpr where
  type : TypeId
  value : NativeExpr

/-- A strategy to be built. -/
inductive StrategySpec where
  | byteCopy
  | builtin (type : TypeId)
  | enumeration (typeName : String) (values : List (Symbol Int32))
  | flags (typeName : String) (values : List (Symbol UInt32))
  /-- Puts a text in front of every string, and takes it away again. -/
  | prefixed (text : String)
  /-- A boxed strategy that announces its uses. A refusal gives what was
  expected and what was there. -/
  | boxed (name : String) (refuseWrap refuseUnwrap : Option (String × String))
    (copyTag : Option UInt8)

/-- A marshaller to be built. -/
inductive MarshallerSpec where
  /-- The conversions of the bridge. -/
  | default
  /-- Announces its uses. Some arguments are refused or replaced, and so
  may be the result. -/
  | scripted (name : String) (arguments : List (Nat × HandleExpr))
    (refusals : List (Nat × String × String)) (result : Option NativeExpr)
    (resultRefusal : Option (String × String))

/-! ## Scripts -/

/-- A script: its steps, in how many calls they run, whether a step that
fails is raised, and the outcomes of the calls, the last one for all
further calls. -/
structure Script (step ω : Type) where
  body : List step
  limit : Option Nat
  raises : Bool
  outcomes : List ω

namespace Script

variable {step ω : Type}

/-- The steps of a call, counted from zero. -/
def bodyAt (s : Script step ω) (call : Nat) : List step :=
  match s.limit with
  | some limit => if call < limit then s.body else []
  | none => s.body

/-- The outcome of a call, counted from zero. -/
def outcomeAt? (s : Script step ω) (call : Nat) : Option ω :=
  s.outcomes[call]? <|> s.outcomes.getLast?

end Script

inductive CallOutcome where
  | nothing
  | give (value : HandleExpr)
  | raise (fault : Fault)

inductive NativeOutcome where
  | nothing
  | give (value : TypedExpr)
  | refuse (expected actual : String)

inductive HandlerOutcome where
  | keep
  | remove
  | fail (fault : Fault)

/-! ## Places -/

/-- A registry: by label, or the one of a bridge. -/
inductive RegistryPlace where
  | label (name : String)
  | ofBridge (bridge : String)

/-- A relay: by label, or the one of a bridge. -/
inductive RelayPlace where
  | label (name : String)
  | ofBridge (bridge : String)

/-- A handler of a signal: by label, or by number. -/
inductive HandlerExpr where
  | label (name : String)
  | id (handler : HandlerId)

/-! ## Steps -/

/-- Steps on the native heap. -/
inductive HeapStep where
  | defineType (name : String) (parent : Option TypeId)
  | addInterface (type face : TypeId)
  | defineSignal (type : TypeId) (name : String) (shape : SignalDef)
  | signalDef (type : TypeId) (name : String)
  | new (type : TypeId) (label : String)
  | ref (object : ObjectExpr)
  | unref (object : ObjectExpr)
  | object (object : ObjectExpr)
  | typeInfo (type : TypeId)
  | isA (type ancestor : TypeId)
  | finalized
  | inspect
  | emit (object : ObjectExpr) (signal : String) (args : List NativeExpr)
  | connectClosure (object : ObjectExpr) (signal closure : String) (after : Bool)
    (label : Option String)
  | disconnect (object : ObjectExpr) (handler : HandlerExpr)

/-- What a new registry holds. -/
inductive RegistryKind where
  | empty
  | global
  | fundamentals

/-- Steps on a registry. -/
inductive RegistryStep where
  | register (typeName package : String) (c : Classification) (strategy : Option StrategySpec)
  | registerStrategy (typeName package : String) (strategy : StrategySpec)
  | registerEnum (typeName package : String) (values : List (Symbol Int32))
  | registerFlags (typeName package : String) (values : List (Symbol UInt32))
  | registerAlias (typeName aliasPackage : String)
  | registerSynonym (typeName synonym : String)
  | registerDomain (domain enumName package : String)
  | lookupType (package : String) (c : Option Classification)
  | lookupPackage (type : TypeId) (c : Option Classification)
  | resolve (type : TypeId)
  | sameType (a b : TypeId)
  | isRegistered (type : TypeId)
  | typeName (type : TypeId)
  | typeCount
  | sinkFor (type : TypeId)
  | errorDomain (domain : String)
  | faultOfError (record : ErrorRecord)
  | errorOfFault (fault : Fault)

/-- Steps that make and drop bridges, registries and relays. -/
inductive SetupStep where
  | registry (label : String) (kind : RegistryKind)
  | relay (label : String) (maxPending : Option Nat)
  /-- Without a registry the bridge takes the global one. -/
  | bridge (label : String) (config : BridgeConfig) (registry relay : Option String)
  | cloneBridge (bridge label : String)
  | dropBridge (bridge : String)
  | inspectBridge (bridge : String)

/-- Steps that convert, wrap and hold values, each through a bridge. -/
inductive ValueStep where
  | toHandle (value : TypedExpr) (label : Option String)
  | fromHandle (handle : HandleExpr) (type : TypeId)
  | roundTrip (value : TypedExpr)
  | wrap (object : ObjectExpr) (owned : Bool) (label : Option String)
  | unwrap (handle : HandleExpr) (type : TypeId)
  | wrapBoxed (block : Block) (type : TypeId) (owned : Bool) (label : Option String)
  | wrapBoxedCopy (block : Block) (type : TypeId) (label : Option String)
  | unwrapBoxed (handle : HandleExpr) (type : TypeId)
  | sweep
  | liveObjects
  | errorSlot
  | setErrorSlot (fault : Option Fault)
  | checkContext
  | enter (guardLabel : String)

/-- Steps on handles alone, and on the context of the thread. -/
inductive HandleStep where
  | keep (handle : HandleExpr) (label : Option String)
  | inspect (handle : HandleExpr) (wrapper : Bool)
  | drop (labels : List String)
  | same (a b : HandleExpr)
  | adopt (handle : HandleExpr)
  | wrapperNative (handle : HandleExpr)
  | leave (guardLabel : String)
  | currentRuntime

/-- Steps on callables, closures and callbacks. -/
inductive CallStep where
  | call (handle : HandleExpr) (args : List HandleExpr) (label : Option String)
  | dropCallable (label : String)
  | callableRefs (label : String)
  | closure (bridge callable : String) (data : Option HandleExpr) (swap : Bool)
    (marshaller : MarshallerSpec) (label : String)
  | closureInfo (label : String)
  | inspectClosure (label : String)
  | invoke (closure : String) (params : List TypedExpr) (ret : Option TypeId)
  | dropClosure (label : String)
  | connect (bridge : String) (handle : HandleExpr) (signal callable : String)
    (data : Option HandleExpr) (after swapped : Bool) (label : Option String)
  | disconnect (bridge : String) (handle : HandleExpr) (handler : HandlerExpr)
  | setMarshaller (bridge : String) (type : TypeId) (signal : String)
    (marshaller : MarshallerSpec)
  | callback (bridge callable : String) (data : Option HandleExpr) (params : List TypeId)
    (ret : Option TypeId) (label : String)
  | invokeCallback (bridge callback : String) (args : List NativeExpr)
  | destroyCallback (label : String)

/-- Steps on a relay. -/
inductive RelayStep where
  | runPending
  | pending
  | capture (bridge : String) (fault : Fault) (origin : String)
  | removeHandler (label : String)
  | handlerCount
  | inspect

/-- One step of a session. -/
inductive Step where
  | heap (step : HeapStep)
  | registry (place : RegistryPlace) (step : RegistryStep)
  | setup (step : SetupStep)
  | value (bridge : String) (step : ValueStep)
  | handle (step : HandleStep)
  | call (step : CallStep)
  | relay (place : RelayPlace) (step : RelayStep)
  | callable (label : String) (script : Script Step CallOutcome)
  | connectNative (object : ObjectExpr) (signal : String) (after : Bool) (label : Option String)
    (script : Script Step NativeOutcome)
  | registerSink (place : RegistryPlace) (type : TypeId) (label : String)
    (script : Script Step Unit)
  | installHandler (place : RelayPlace) (label : String) (quiet : Bool)
    (script : Script Step HandlerOutcome)
  /-- Runs steps on a new thread, and waits for its end. -/
  | thread (steps : List Step)
  /-- Runs a step some times, and gives the last result. -/
  | repeated (times : Nat) (step : Step)

end NativeBridge.Session
