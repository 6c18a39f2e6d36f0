-- Closures: native code calls them with typed values, and they call their
-- dynamic callable. A value that fails to convert fails the invocation. A
-- fault that the callable raises never does: it goes to the relay, and
-- native code sees no value.
import NativeBridge.Invocation.Basic

namespace NativeBridge

variable {σ : Type}

/-! ## Making closures -/

/-- A closure of a bridge, which becomes a holder of the callable and the
data. Without an origin it is known by its own name. -/
def System.addClosure (s : System σ) (r : RuntimeId) (callable : Callable) (data : Option Handle)
    (swap : Bool) (marshaller : Option Marshaller) (origin : Option String) :
    Closure × System σ :=
  let id : ClosureId := ⟨s.closures.size⟩
  let closure : Closure := ⟨id, callable, data, swap, r, marshaller, origin.getD id.text⟩
  let s := (s.holdCallable callable).holdData data
  (closure, { s with closures := s.closures.add closure })

/-! ## Arguments -/

/-- Converts one argument, by the marshaller of the closure. -/
def Closure.marshalArgument (g : Guest σ) (c : Closure) (index : Nat) (v : TypedValue) :
    Attempt σ Handle :=
  atSite (.argument index) <|
    match c.marshaller with
    | some m => g.marshalArgument m c.runtime index v
    | none => toHandle c.runtime v

/-- Converts arguments from an index on. If one fails, those before it are
released. -/
def marshalFrom (convert : Nat → TypedValue → Attempt σ Handle) :
    Nat → List Handle → List TypedValue → Attempt σ (List Handle)
  | _, done, [] => return done
  | index, done, v :: rest => do
    match ← outcomeOf (convert index v) with
    | .ok h => marshalFrom convert (index + 1) (done ++ [h]) rest
    | .error e =>
      modify (·.releaseHandles done)
      throw e

/-- The data of a closure, held once more. Missing data is undefined. -/
def Closure.takeData (c : Closure) : Action σ Handle := do
  let h := c.data.getD .undefined
  modify (·.holdHandle h)
  return h

/-- The arguments of the callable. The instance comes first and the data
last, or the data takes the place of the instance, which is then not
converted. -/
def Closure.marshalArguments (g : Guest σ) (c : Closure) (params : List TypedValue) :
    Attempt σ (List Handle) := do
  match params with
  | [] => throw (.argumentCount 1 0)
  | _ :: rest =>
    if c.swap then
      let data ← doing c.takeData
      marshalFrom (c.marshalArgument g) 1 [data] rest
    else
      let args ← marshalFrom (c.marshalArgument g) 0 [] params
      if c.data.isSome then
        let data ← doing c.takeData
        return args ++ [data]
      else return args

/-! ## Results -/

/-- Converts the result, by the marshaller of the closure. -/
def Closure.marshalResult (g : Guest σ) (c : Closure) (value : Handle) (type : TypeId) :
    Attempt σ TypedValue :=
  atSite .result <|
    match c.marshaller with
    | some m => g.marshalResult m c.runtime value type
    | none => fromHandle c.runtime value type

/-- Puts a fault into a relay. A fault that finds no room is reported. -/
def captureFault (id : RelayId) (fault : Fault) (origin : String) (r : RuntimeId) :
    Action σ UInt64 := do
  let (sequence, dropped, relay) := ((← get).relay id).capture fault origin r
  modify (·.modifyRelay id fun _ => relay)
  if let some dropped := dropped then modify (·.note (.queueFull dropped))
  return sequence

/-! ## Invoking -/

/-- An invocation in the context of a bridge that is alive. -/
def Closure.run (g : Guest σ) (c : Closure) (params : List TypedValue)
    (returnType : Option TypeId) : Attempt σ (Option TypedValue) := do
  checkContext c.runtime
  let args ← c.marshalArguments g params
  let outcome ← callGuarded g c.runtime c.callable args
  modify (·.releaseHandles args)
  match outcome with
  | .ok value =>
    releasingAfter value.releases do
      match returnType with
      | some type => return some (← c.marshalResult g value type)
      | none => return none
  | .error fault =>
    let relay := ((← get).bridge c.runtime).relay
    let _ ← doing (captureFault relay fault c.origin c.runtime)
    return none

/-- Invokes a closure. Its bridge must be alive, and is kept alive. -/
def Closure.invoke (g : Guest σ) (c : Closure) (params : List TypedValue)
    (returnType : Option TypeId) : Attempt σ (Option TypedValue) := do
  let s ← get
  if s.isBridgeAlive c.runtime then holdingBridge c.runtime (c.run g params returnType)
  else throw (.wrongContext c.runtime s.currentRuntime)

end NativeBridge
