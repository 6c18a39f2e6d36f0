-- Draining a relay. Every fault that waits is taken, the oldest first, and
-- is shown to each handler that was installed when it was taken. A handler
-- that is at work already is left out.
import NativeBridge.Bridge.Wrap

namespace NativeBridge

variable {σ : Type}

/-- What came of showing a fault to some handlers. -/
structure Delivery where
  /-- Whether any handler took it. -/
  handled : Bool
  /-- The faults of handlers that failed. -/
  failures : List Fault

/-- Shows a fault to one handler. A handler may ask to be uninstalled. -/
def showFault (g : Guest σ) (id : RelayId) (captured : CapturedFault) (h : InstalledHandler) :
    Action σ (List Fault) := do
  modify (·.modifyRelay id (·.start h.id captured))
  let answer ← g.takeFault h.function captured
  modify (·.modifyRelay id (·.finish h.id answer))
  match answer with
  | .ok true => return []
  | .ok false =>
    modify (·.modifyRelay id (·.uninstall h.id))
    return []
  | .error fault =>
    modify (·.note (.handlerFailed fault))
    return [fault]

/-- Shows a fault to handlers in turn. -/
def showToAll (g : Guest σ) (id : RelayId) (captured : CapturedFault) :
    Delivery → List InstalledHandler → Action σ Delivery
  | done, [] => return done
  | done, h :: rest => do
    if ((← get).relay id).isRunning h.id then showToAll g id captured done rest
    else
      let failures ← showFault g id captured h
      showToAll g id captured ⟨true, done.failures ++ failures⟩ rest

/-- Takes faults until none waits, at most a given number of them. Gives
how many were taken, and the faults of handlers that failed. -/
def drainFaults (g : Guest σ) (id : RelayId) : Nat → Nat → List Fault →
    Action σ (Nat × List Fault)
  | 0, drained, failures => do
    modify System.exhaust
    return (drained, failures)
  | most + 1, drained, failures => do
    match ((← get).relay id).pop? with
    | none => return (drained, failures)
    | some (captured, relay) =>
      modify (·.modifyRelay id fun _ => relay)
      let delivery ← showToAll g id captured ⟨false, []⟩ relay.handlers
      unless delivery.handled do modify (·.note (.unhandled captured))
      drainFaults g id most (drained + 1) (failures ++ delivery.failures)

/-- Drains a relay. Gives the number of faults taken, unless a handler
failed. -/
def runPending (g : Guest σ) (id : RelayId) : Attempt σ Nat := do
  let (drained, failures) ← drainFaults g id g.patience 0 []
  if failures.isEmpty then return drained else throw (.handlerFailures failures)

/-- Drains the relay of a bridge, and then sweeps its arena. -/
def runPendingOf (g : Guest σ) (r : RuntimeId) : Attempt σ Nat := do
  let outcome ← outcomeOf (runPending g ((← get).bridge r).relay)
  let _ ← doing (sweep r)
  endIn outcome

end NativeBridge
