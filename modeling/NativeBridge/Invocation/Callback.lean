-- One-shot callbacks: a dynamic callable with a fixed native signature. A
-- fault that the callable raises goes straight to the caller.
import NativeBridge.Invocation.Closure

namespace NativeBridge

variable {σ : Type}

/-- A callback of a bridge, which becomes a holder of the callable and the
data. -/
def System.addCallback (s : System σ) (r : RuntimeId) (callable : Callable)
    (data : Option Handle) (paramTypes : List TypeId) (returnType : Option TypeId) :
    Callback × System σ :=
  let callback : Callback := ⟨s.callbacks.size, callable, data, paramTypes, returnType, r⟩
  let s := (s.holdCallable callable).holdData data
  (callback, { s with callbacks := s.callbacks.add callback })

/-- The handles that a callback passes: the arguments, and the data last. -/
def Callback.marshalArguments (c : Callback) (r : RuntimeId) (args : List NativeValue) :
    Attempt σ (List Handle) := do
  let values := List.zipWith TypedValue.mk c.paramTypes args
  let convert := fun index v => atSite (.argument index) (toHandle r v)
  let handles ← marshalFrom convert 0 [] values
  match c.data with
  | some data =>
    modify (·.holdHandle data)
    return handles ++ [data]
  | none => return handles

/-- What the caller of a callback gets from the outcome of the callable. -/
def Callback.result (c : Callback) (r : RuntimeId) (outcome : Except Fault Handle) :
    Attempt σ (Option TypedValue) :=
  match outcome with
  | .error fault => throw (.raised fault)
  | .ok value =>
    releasingAfter value.releases do
      match c.returnType with
      | some type => return some (← atSite .result (fromHandle r value type))
      | none => return none

/-- Invokes a callback through a bridge, which must be the one that made
it. -/
def Callback.invoke (g : Guest σ) (c : Callback) (r : RuntimeId) (args : List NativeValue) :
    Attempt σ (Option TypedValue) := do
  if c.runtime ≠ r then throw (.wrongContext c.runtime (some r))
  checkContext r
  if args.length ≠ c.paramTypes.length then
    throw (.argumentCount c.paramTypes.length args.length)
  let handles ← c.marshalArguments r args
  let outcome ← callGuarded g r c.callable handles
  releasingAfter (handles.flatMap Handle.releases) (c.result r outcome)

end NativeBridge
