-- Signals: connecting callables to them, the marshallers set for them, and
-- emissions. The object of an emission stays alive while its handlers run.
import NativeBridge.Invocation.Callback

namespace NativeBridge

variable {σ : Type}

/-! ## Marshallers -/

/-- Sets the marshaller of a signal on a type. An earlier one for the same
pair goes. -/
def System.setMarshaller (s : System σ) (r : RuntimeId) (entry : MarshallerEntry) : System σ :=
  s.modifyBridge r fun b =>
    let others := b.marshallers.filter fun e =>
      !(e.type == entry.type && e.signal == entry.signal)
    { b with marshallers := others ++ [entry] }

/-- The marshaller of a signal, set for the nearest type in the line. -/
def System.marshallerFor? (s : System σ) (r : RuntimeId) (type : TypeId) (signal : String) :
    Option Marshaller :=
  let entries := (s.bridge r).marshallers
  let entryOf? := fun t => entries.find? fun e => e.type == t && e.signal == signal
  ((s.heap.types.line type).findSome? entryOf?).bind (·.marshaller)

/-! ## Connections -/

/-- The wrapper of the object that a handle stands for. -/
def signalTarget (h : Handle) : Attempt σ ObjectWrapper :=
  match h.object? with
  | some w => return w
  | none => throw (.conversion (.typeMismatch "object" h.typeName))

/-- Connects a callable to a signal of the object behind a handle. -/
def connectSignal (r : RuntimeId) (h : Handle) (signal : String) (callable : Callable)
    (data : Option Handle) (after swapped : Bool) : Attempt σ HandlerId := do
  let w ← signalTarget h
  let s ← get
  let some type := s.heap.typeOf? w.object | throw (.native (.staleObject w.object))
  let origin := s!"{w.package}::{signal}"
  let marshaller := s.marshallerFor? r type signal
  let (closure, s) := s.addClosure r callable data swapped marshaller (some origin)
  match s.heap.connect w.object signal (.closure closure) after with
  | .ok (id, heap) =>
    set { s with heap }
    return id
  | .error e =>
    set (s.release [.closure closure])
    throw (.native e)

/-- Disconnects a handler; what was connected loses a holder. -/
def disconnectHandler (o : ObjectId) (id : HandlerId) : Attempt σ Unit := do
  let connection ← changeHeap (·.disconnect o id)
  modify (·.release connection.closure.releases)

/-- Disconnects a handler from the object behind a handle. -/
def disconnectSignal (h : Handle) (id : HandlerId) : Attempt σ Unit := do
  let w ← signalTarget h
  disconnectHandler w.object id

/-! ## Emissions -/

/-- Invokes what is connected to a signal. -/
def Subscriber.invoke (g : Guest σ) (subscriber : Subscriber) (params : List TypedValue)
    (returnType : Option TypeId) : Attempt σ (Option TypedValue) :=
  match subscriber with
  | .closure c => c.invoke g params returnType
  | .native f => g.native f params returnType

/-- Invokes some subscribers up to the first error. The value of the last
one is the result. -/
def deliver (g : Guest σ) (params : List TypedValue) (returnType : Option TypeId) :
    Option TypedValue → List Subscriber → Attempt σ (Option TypedValue)
  | result, [] => return result
  | _, subscriber :: rest => do
    let result ← subscriber.invoke g params returnType
    deliver g params returnType result rest

/-- Emits a signal. What is connected when the emission starts is invoked;
then the reference that kept the object alive is given back. -/
def emit (g : Guest σ) (o : ObjectId) (signal : String) (args : List NativeValue) :
    Attempt σ (Option TypedValue) := do
  let emission ← changeHeap (·.beginEmission o signal args)
  modify fun s => emission.closures.foldl System.holdSubscriber s
  let outcome ← outcomeOf (deliver g emission.params emission.returnType none emission.closures)
  modify (·.release (emission.closures.flatMap Subscriber.releases))
  unrefObject o
  endIn outcome

end NativeBridge
