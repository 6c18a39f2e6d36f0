-- What the expressions of a session stand for when a step comes to them.
-- An expression for a handle makes a new holder of what it stands for.
import NativeBridge.Session.State

namespace NativeBridge.Session

/-- What a running script knows of its call. -/
structure Frame where
  args : List Handle := []
  /-- The object that a sink was shown, or the first parameter of a native
  closure. -/
  self : Option ObjectId := none

def evalObject (frame : Frame) : ObjectExpr → Run ObjectId
  | .id object => return object
  | .self => require "object" "$self" frame.self
  | .label name => do require "object" name ((← guest).objects.get? name)

/-- Builds a tree that is shared from now on. -/
def evalTree (draft : Draft) : Run SharedVariant := do
  let tree ← orFail .conversion draft.build
  let (shared, s) := (← get).share tree
  set s
  return shared

/-- A handle with a holder more. -/
def cloneHandle (h : Handle) : Run Handle := do
  modify (·.holdHandle h)
  return h

def evalHandle (frame : Frame) : HandleExpr → Run Handle
  | .undefined => return .undefined
  | .scalar value => return .scalar value
  | .tree draft => return .variant (← evalTree draft)
  | .stored label => do
    let h ← require "handle" label ((← guest).handles.get? label)
    cloneHandle h
  | .callable label => do
    let c ← require "callable" label ((← guest).callables.get? label)
    cloneHandle (.callable c)
  | .argument index => cloneHandle (frame.args[index]?.getD .undefined)
  | .argumentCount => return .ofInt (Int64.ofNat frame.args.length)

/-- A handle that the step holds until its end. -/
def evalKept (frame : Frame) (e : HandleExpr) : Run Handle := do
  let h ← evalHandle frame e
  keepHeld h.releases
  return h

/-- Handles that the step holds until its end. The first of them is
released first. -/
def evalArguments (frame : Frame) : List HandleExpr → Run (List Handle)
  | [] => return []
  | e :: rest => do
    let h ← evalHandle frame e
    let others ← evalArguments frame rest
    keepHeld h.releases
    return h :: others

def evalData (frame : Frame) : Option HandleExpr → Run (Option Handle)
  | none => return none
  | some e => do return some (← evalKept frame e)

def evalNative (frame : Frame) : NativeExpr → Run NativeValue
  | .plain value => return value
  | .object target => do return .object (← evalObject frame target)
  | .tree draft => do return .variant (← evalTree draft)

def evalTyped (frame : Frame) (e : TypedExpr) : Run TypedValue := do
  return ⟨e.type, ← evalNative frame e.value⟩

/-! ## Strategies and marshallers -/

/-- Refuses if there is a refusal, and else gives the block as it is. -/
def refusing (refusal : Option (String × String)) (block : Block) :
    Except ConversionError Block :=
  match refusal with
  | some (expected, actual) => .error (.typeMismatch expected actual)
  | none => .ok block

/-- The strategy that puts a text in front of every string. -/
def prefixedStrategy (front : String) : FundamentalStrategy where
  wrap
    | .str value => .ok (.str (front ++ value))
    | payload => .error (.typeMismatch "prefix" payload.kindName)
  unwrap
    | .scalar (.str value) =>
      if front.toList.isPrefixOf value.toList then
        .ok (.str (String.ofList (value.toList.drop front.length)))
      else .error (.typeMismatch "prefix" "string")
    | h => .error (.typeMismatch "prefix" h.typeName)

def buildStrategy : StrategySpec → Run Strategy
  | .byteCopy => return .boxed .byteCopy
  | .builtin type => do
    let f ← require "fundamental" type.text (Fundamental.ofType? type)
    return .fundamental f.strategy
  | .enumeration typeName values => do
    return .enumeration (← orFail .registration (SymbolTable.ofList typeName values))
  | .flags typeName values => do
    return .flags (← orFail .registration (SymbolTable.ofList typeName values))
  | .prefixed text => return .fundamental (prefixedStrategy text)
  | .boxed name refuseWrap refuseUnwrap copyTag =>
    return .boxed
      { name := some name
        wrap := refusing refuseWrap
        unwrap := refusing refuseUnwrap
        copy := fun block => ⟨block.bytes ++ copyTag.toList⟩ }

/-- A marshaller; the conversions of the bridge itself need none. -/
def buildMarshaller : MarshallerSpec → Run (Option Marshaller)
  | .default => return none
  | spec => do
    let number := (← guest).marshallers.size
    changeGuest fun g => { g with marshallers := g.marshallers.push spec }
    return some ⟨number⟩

end NativeBridge.Session
