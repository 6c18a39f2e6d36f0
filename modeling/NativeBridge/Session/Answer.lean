-- What a session answers: for each step an answer or a failure, and the
-- events that happened directly in it. Events of scripts hold the results
-- of their steps in turn.
import NativeBridge.Notice
import NativeBridge.Session.Step

namespace NativeBridge.Session

/-- Why a step has no answer. -/
inductive Failure where
  | bridge (error : BridgeError)
  /-- The step itself makes no sense, such as one with an unknown label. -/
  | input (message : String)

def Failure.message : Failure → String
  | bridge error => error.message
  | input message => message

/-- A handle as it was shown, with the label that its callable was bound
to just then. -/
structure ShownHandle where
  handle : Handle
  label : Option String := none

/-- A closure as a step shows it. -/
structure ClosureView where
  closure : Closure
  data : Option ShownHandle
  callable : Option String

mutual

/-- The result of a step. -/
inductive Result where
  | mk (outcome : Except Failure Answer) (events : List Event)

inductive Answer where
  | nothing
  | flag (value : Bool)
  | number (value : Int)
  | text (value : String)
  | maybeText (value : Option String)
  | maybeNumber (value : Option Nat)
  | handle (value : ShownHandle)
  | typed (value : TypedValue)
  | maybeTyped (value : Option TypedValue)
  | maybeFault (value : Option Fault)
  | errorRecord (value : ErrorRecord)
  | signalDef (value : Option SignalDef)
  | objectState (object : ObjectId) (refs : Option Nat) (type : Option TypeId) (handlers : Nat)
  | typeInfo (name : Option String) (parent : Option TypeId)
  | resolved (value : Option Resolved)
  | errorDomain (value : Option ErrorDomain)
  | bridge (runtime : RuntimeId) (config : BridgeConfig)
  | roundTrip (handle : ShownHandle) (back : TypedValue) (equal : Bool)
  | handleState (value : ShownHandle)
  | sameness (same equal : Bool)
  | wrapped (wrapper : ObjectWrapper) (refs : Option Nat)
  | closure (value : Closure)
  | closureState (value : ClosureView)
  | callback (value : Callback)
  | called (outcome : Except Fault ShownHandle)
  | results (values : List Result)
  | result (value : Result)

inductive Event where
  | notice (value : Notice)
  /-- A callable was called. -/
  | called (label : String) (args : List ShownHandle) (steps : List Result)
    (outcome : Except Fault ShownHandle)
  /-- A relay handler took a fault. -/
  | handled (label : String) (captured : CapturedFault) (steps : List Result)
    (outcome : Except Fault Bool)
  /-- A sink was shown an object. -/
  | sunk (label : String) (object : ObjectId) (steps : List Result)
  /-- A native closure was called. -/
  | native (label : String) (params : List TypedValue) (returnType : Option TypeId)
    (steps : List Result) (outcome : Except BridgeError (Option TypedValue))
  | marshalArgument (name : String) (index : Nat) (value : TypedValue)
  | marshalResult (name : String) (value : Handle) (type : TypeId)

end

/-- Why the first failing step failed. -/
def Result.failure? : Result → Option Failure
  | .mk (.error failure) _ => some failure
  | .mk (.ok _) _ => none

end NativeBridge.Session
