-- The state of a session: what each label stands for, the scripts in use,
-- and the events and temporary holders of the step that runs. A label that
-- is bound again lets go of its old value after the new one is in place.
import NativeBridge.Invocation.Signal
import NativeBridge.Session.Answer

namespace NativeBridge.Session

/-- A script in use. -/
structure Routine (ω : Type) where
  label : String
  script : Script Step ω
  /-- How often it was called. -/
  calls : Nat := 0

/-- The state. Routines stand at the numbers by which the system knows
their functions. -/
structure State where
  objects : Table String ObjectId := {}
  handles : Table String Handle := {}
  callables : Table String Callable := {}
  closures : Table String Closure := {}
  callbacks : Table String Callback := {}
  bridges : Table String RuntimeId := {}
  registries : Table String RegistryId := {}
  relays : Table String RelayId := {}
  signalHandlers : Table String HandlerId := {}
  relayHandlers : Table String RelayHandlerId := {}
  /-- The context guards that the thread at work holds, the newest first. -/
  guards : List (String × RuntimeId) := []
  callableRoutines : Array (Routine CallOutcome) := #[]
  nativeRoutines : Array (Routine NativeOutcome) := #[]
  sinkRoutines : Array (Routine Unit) := #[]
  /-- With each relay handler, whether it keeps quiet. -/
  handlerRoutines : Array (Bool × Routine HandlerOutcome) := #[]
  marshallers : Array MarshallerSpec := #[]
  /-- The registry that all sessions would share. -/
  globalRegistry : Option RegistryId := none
  /-- How many threads were started besides the first. -/
  threads : Nat := 0
  /-- The events of the running step, the oldest first. -/
  events : List Event := []
  /-- What the running step holds until its end, the newest first. -/
  held : List Release := []

instance : Inhabited State := ⟨{}⟩

/-- What a step does: it may fail, and what it did before stays done. -/
abbrev Run (α : Type) := ExceptT Failure (StateM (System State)) α

/-! ## Failing -/

/-- Fails a step that makes no sense. -/
def refuse {α : Type} (message : String) : Run α := throw (.input message)

def attempt {α : Type} (a : Attempt State α) : Run α := ExceptT.mk do
  match ← a.run with
  | .ok value => return .ok value
  | .error e => return .error (.bridge e)

/-- A result of the library that is an error of the step. -/
def orFail {ε α : Type} (wrap : ε → BridgeError) (result : Except ε α) : Run α :=
  match result with
  | .ok value => return value
  | .error e => throw (.bridge (wrap e))

/-- A value that must be there. -/
def require {α : Type} (what label : String) : Option α → Run α
  | some value => return value
  | none => refuse s!"unknown {what} '{label}'"

def act {α : Type} (a : Action State α) : Run α := ExceptT.lift a

/-! ## Parts of the state -/

def changeGuest (f : State → State) : Run Unit := modify fun s => { s with guest := f s.guest }

def guest : Run State := do return (← get).guest

/-- Holds something until the end of the step. -/
def keepHeld (releases : List Release) : Run Unit :=
  changeGuest fun g => { g with held := releases ++ g.held }

/-- Moves what was reported to the events of the running step. -/
def flushNotices (s : System State) : System State :=
  { s with
    notices := []
    guest := { s.guest with events := s.guest.events ++ s.notices.map .notice } }

/-- Appends an event to those of the running step. -/
def addEvent (s : System State) (e : Event) : System State :=
  let s := flushNotices s
  { s with guest := { s.guest with events := s.guest.events ++ [e] } }

/-! ## What labels stand for -/

def bridgeAt (label : String) : Run RuntimeId := do
  let r ← require "bridge" label ((← guest).bridges.get? label)
  modify (·.holdBridge r)
  keepHeld [.bridge r]
  return r

def callableAt (label : String) : Run Callable := do
  let c ← require "callable" label ((← guest).callables.get? label)
  modify (·.holdCallable c)
  keepHeld [.callable c]
  return c

def closureAt (label : String) : Run Closure := do
  let c ← require "closure" label ((← guest).closures.get? label)
  modify (·.holdClosure c)
  keepHeld [.closure c]
  return c

def callbackAt (label : String) : Run Callback := do
  let c ← require "callback" label ((← guest).callbacks.get? label)
  modify (·.holdCallback c)
  keepHeld [.callback c]
  return c

def relayAt : RelayPlace → Run RelayId
  | .label name => do require "relay" name ((← guest).relays.get? name)
  | .ofBridge name => do
    let r ← bridgeAt name
    return ((← get).bridge r).relay

def registryAt : RegistryPlace → Run RegistryId
  | .label name => do require "registry" name ((← guest).registries.get? name)
  | .ofBridge name => do
    let r ← bridgeAt name
    return ((← get).bridge r).registry

def signalHandlerAt : HandlerExpr → Run HandlerId
  | .id handler => return handler
  | .label name => do require "handler" name ((← guest).signalHandlers.get? name)

/-! ## Binding labels -/

/-- The label that a callable is bound to now. -/
def State.labelOf? (g : State) (c : Callable) : Option String :=
  (g.callables.entries.find? fun (_, bound) => bound == c).map (·.1)

/-- A handle as it is shown now. -/
def shown (s : System State) (h : Handle) : ShownHandle :=
  ⟨h, h.callable?.bind s.guest.labelOf?⟩

/-- Binds a label to a handle, which the label holds from now on. -/
def bindHandle (label : String) (h : Handle) : Run Unit := do
  let old := ((← guest).handles.get? label).getD .undefined
  changeGuest fun g => { g with handles := g.handles.set label h }
  modify (·.releaseHandle old)

/-- Shows a handle that the step made, and binds it if there is a label. -/
def deliverHandle (label : Option String) (h : Handle) : Run ShownHandle := do
  let view := shown (← get) h
  match label with
  | some label => bindHandle label h
  | none => keepHeld h.releases
  return view

def bindSignalHandler (label : Option String) (id : HandlerId) : Run Unit :=
  match label with
  | some label =>
    changeGuest fun g => { g with signalHandlers := g.signalHandlers.set label id }
  | none => return ()

end NativeBridge.Session
