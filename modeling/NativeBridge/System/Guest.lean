-- Code that this library calls and does not know: dynamic callables,
-- native functions, sinks, relay handlers and marshallers. Each may use
-- the whole system, so each is an action on the state.
import NativeBridge.System.Basic

namespace NativeBridge

/-- What the code from outside does. -/
structure Guest (σ : Type) where
  /-- Calls a dynamic callable, which may raise a fault. The result has one
  holder, the caller. -/
  call : Callable → List Handle → Action σ (Except Fault Handle)
  /-- Calls a native function connected to a signal. -/
  native : NativeFunction → List TypedValue → Option TypeId → Attempt σ (Option TypedValue)
  /-- Shows a sink the object of a first owned wrap. -/
  sink : SinkFunction → ObjectId → Action σ Unit
  /-- Hands a fault to a relay handler, which says whether it stays. -/
  takeFault : FaultFunction → CapturedFault → Action σ (Except Fault Bool)
  /-- Converts the argument at an index; the instance has index zero. -/
  marshalArgument : Marshaller → RuntimeId → Nat → TypedValue → Attempt σ Handle
  /-- Converts the result of a callable. -/
  marshalResult : Marshaller → RuntimeId → Handle → TypeId → Attempt σ TypedValue
  /-- How many faults one drain may take before it is cut short. -/
  patience : Nat

/-- Marks the run as cut short. -/
def System.exhaust {σ : Type} (s : System σ) : System σ := { s with exhausted := true }

/-- Code that is never reached: every call cuts the run short. -/
def Guest.unreachable (σ : Type) : Guest σ where
  call _ _ := do
    modify System.exhaust
    return .ok .undefined
  native _ _ _ := do
    modify System.exhaust
    return none
  sink _ _ := modify System.exhaust
  takeFault _ _ := do
    modify System.exhaust
    return .ok true
  marshalArgument _ _ _ _ := do
    modify System.exhaust
    return .undefined
  marshalResult _ _ _ type := do
    modify System.exhaust
    return ⟨type, .null⟩
  patience := 0

end NativeBridge
