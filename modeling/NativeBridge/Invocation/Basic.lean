-- What invocations share: the bridge is kept alive while it runs one, the
-- error slot is empty for the callable and gets its value back after it,
-- and values that fail to convert are named by their place.
import NativeBridge.Bridge.Convert
import NativeBridge.System.Context

namespace NativeBridge

variable {σ : Type}

/-- An error at a place of an invocation. -/
def atSite {α : Type} (site : MarshalSite) (a : Attempt σ α) : Attempt σ α := do
  match ← outcomeOf a with
  | .ok value => return value
  | .error e => throw (.marshalFailure site e)

/-- Runs an attempt, and then gives up what was held for it, whatever came
out. -/
def releasingAfter {α : Type} (releases : List Release) (a : Attempt σ α) : Attempt σ α := do
  let outcome ← outcomeOf a
  modify (·.release releases)
  endIn outcome

/-- Runs an attempt while holding a bridge. -/
def holdingBridge {α : Type} (r : RuntimeId) (a : Attempt σ α) : Attempt σ α := do
  modify (·.holdBridge r)
  releasingAfter [.bridge r] a

/-- The error slot of a bridge. -/
def System.errorSlot (s : System σ) (r : RuntimeId) : Option Fault := (s.bridge r).errorSlot

def System.setErrorSlot (s : System σ) (r : RuntimeId) (fault : Option Fault) : System σ :=
  s.modifyBridge r fun b => { b with errorSlot := fault }

/-- A fault that a callable raised stands in the slot of the bridge. -/
def System.recordOutcome (s : System σ) (r : RuntimeId) : Except Fault Handle → System σ
  | .ok _ => s
  | .error fault => s.setErrorSlot r (some fault)

/-- Calls a callable for a bridge. The slot of the bridge is empty while
the callable runs, takes the fault that it raises, and then holds again what
it held before. -/
def callGuarded (g : Guest σ) (r : RuntimeId) (c : Callable) (args : List Handle) :
    Action σ (Except Fault Handle) := do
  let saved := (← get).errorSlot r
  modify (·.setErrorSlot r none)
  let outcome ← g.call c args
  modify (·.recordOutcome r outcome)
  modify (·.setErrorSlot r saved)
  return outcome

end NativeBridge
