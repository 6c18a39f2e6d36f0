-- The errors of the bridge, by cause, and the text of each. A fault raised
-- by a dynamic callable is not one of them until a caller sees it.
import NativeBridge.Fault
import NativeBridge.Identity
import NativeBridge.TypeId

namespace NativeBridge

/-! ## Results -/

section

variable {ε α β : Type}

/-- A sequence succeeds if both of its steps do. -/
theorem bind_eq_ok {x : Except ε α} {f : α → Except ε β} {b : β} :
    x >>= f = .ok b ↔ ∃ a, x = .ok a ∧ f a = .ok b := by
  cases x <;> simp [bind, Except.bind]

theorem map_eq_ok {x : Except ε α} {f : α → β} {b : β} :
    x.map f = .ok b ↔ ∃ a, x = .ok a ∧ f a = b := by
  cases x <;> simp [Except.map]

theorem throw_ne_ok {e : ε} {a : α} : (throw e : Except ε α) ≠ .ok a := by
  simp [throw, throwThe, MonadExceptOf.throw]

end

/-! ## Registration -/

/-- Why a registration or a look-up in the registry is refused. -/
inductive RegistrationError where
  | duplicateRegistration (typeName package existing : String)
  | unknownMapping (what : String)
  | missingStrategy (typeName classification : String)
  | strategyMismatch (typeName classification strategy : String)
  | duplicateEnumerator (typeName name : String)
  deriving DecidableEq, Repr

def RegistrationError.message : RegistrationError → String
  | duplicateRegistration typeName package existing =>
    s!"duplicate registration: {typeName} as '{package}' conflicts with {existing}"
  | unknownMapping what => s!"no mapping registered for {what}"
  | missingStrategy typeName classification =>
    s!"type '{typeName}' registered as {classification} requires a strategy"
  | strategyMismatch typeName classification strategy =>
    s!"type '{typeName}': {strategy} strategy cannot serve a {classification} type"
  | duplicateEnumerator typeName name => s!"duplicate enumerator '{name}' in '{typeName}'"

/-! ## Conversion -/

/-- Why a single value does not cross the bridge. -/
inductive ConversionError where
  | unconvertibleType (typeName : String)
  | typeMismatch (expected actual : String)
  | unknownEnumerator (typeName name : String)
  | integerOverflow (value targetType : String)
  deriving DecidableEq, Repr

def ConversionError.message : ConversionError → String
  | unconvertibleType typeName =>
    s!"type '{typeName}' is not convertible: no registration found"
  | typeMismatch expected actual => s!"type mismatch: expected {expected}, got {actual}"
  | unknownEnumerator typeName name => s!"unknown enumerator '{name}' for '{typeName}'"
  | integerOverflow value targetType =>
    s!"integer overflow: {value} doesn't fit in {targetType}"

/-! ## The native side -/

/-- What the native object system reports. -/
inductive NativeError where
  | staleObject (object : ObjectId)
  | unknownType (type : TypeId)
  | duplicateType (name : String)
  | unknownSignal (typeName signal : String)
  | duplicateSignal (typeName signal : String)
  | unknownHandler (handler : HandlerId)
  | signalArity (signal : String) (expected got : Nat)
  | argvCorrupted (what : String)
  deriving DecidableEq, Repr

def NativeError.message : NativeError → String
  | staleObject object => s!"stale object: {object.text} has been finalized"
  | unknownType type => s!"unknown native type {type.text}"
  | duplicateType name => s!"native type '{name}' already defined"
  | unknownSignal typeName signal => s!"type '{typeName}' has no signal '{signal}'"
  | duplicateSignal typeName signal => s!"signal '{signal}' already defined on '{typeName}'"
  | unknownHandler handler => s!"no handler {handler.text} connected"
  | signalArity signal expected got =>
    s!"signal '{signal}' takes {expected} argument(s), got {got}"
  | argvCorrupted what => s!"argument vector corrupted: {what}"

/-! ## All errors -/

/-- The value that failed to convert during an invocation. -/
inductive MarshalSite where
  | argument (index : Nat)
  | result
  deriving DecidableEq, Repr

def MarshalSite.text : MarshalSite → String
  | argument index => s!"argument {index}"
  | result => "return value"

/-- Every error that a bridge operation ends in. -/
inductive BridgeError where
  | registration (cause : RegistrationError)
  | conversion (cause : ConversionError)
  | native (cause : NativeError)
  /-- A value of an invocation failed to convert. -/
  | marshalFailure (site : MarshalSite) (source : BridgeError)
  /-- The invocation happened outside the context of its runtime. -/
  | wrongContext (expected : RuntimeId) (current : Option RuntimeId)
  | argumentCount (expected got : Nat)
  /-- A one-shot callback raised a failure. -/
  | raised (fault : Fault)
  /-- Relay handlers failed while the relay was drained. -/
  | handlerFailures (faults : List Fault)
  deriving DecidableEq, Repr

namespace BridgeError

instance : Coe RegistrationError BridgeError := ⟨registration⟩
instance : Coe ConversionError BridgeError := ⟨conversion⟩
instance : Coe NativeError BridgeError := ⟨native⟩

def message : BridgeError → String
  | registration cause => cause.message
  | conversion cause => cause.message
  | native cause => cause.message
  | marshalFailure site source => s!"marshal failure at {site.text}: {source.message}"
  | wrongContext expected current =>
    let holder := (current.map RuntimeId.text).getD "none"
    s!"wrong runtime context: expected {expected.text}, current {holder}"
  | argumentCount expected got => s!"expected {expected} argument(s), got {got}"
  | raised fault => s!"callback raised: {fault.text}"
  | handlerFailures faults => s!"{faults.length} exception handler(s) failed"

/-- Whether the error shows a broken setup rather than bad data. -/
def isFatal : BridgeError → Bool
  | registration _ => true
  | conversion (.unconvertibleType _) => true
  | wrongContext _ _ => true
  | marshalFailure _ source => source.isFatal
  | _ => false

def isRegistration : BridgeError → Bool
  | registration _ => true
  | _ => false

def isConversion : BridgeError → Bool
  | conversion _ => true
  | _ => false

def isMarshalFailure : BridgeError → Bool
  | marshalFailure _ _ => true
  | _ => false

end BridgeError

end NativeBridge
