-- Conversion of typed native values to handles and back. The registration
-- of the declared type decides the way. Only object-like, boxed and variant
-- types have a "no value", and the undefined handle stands for it.
import NativeBridge.Bridge.Boxed

namespace NativeBridge

variable {σ : Type}

/-- The strategy of a registration, or an error without one. -/
def Resolved.strategy (info : Resolved) : Except ConversionError Strategy :=
  match info.entry.strategy with
  | some strategy => .ok strategy
  | none => .error (.unconvertibleType info.entry.typeName)

/-- The error for a payload that the registration does not take. -/
def Resolved.refuse (info : Resolved) (payload : NativeValue) : ConversionError :=
  .typeMismatch info.entry.package payload.kindName

/-- A scalar payload through the strategy of a fundamental, enum or flags
type. -/
def Resolved.wrapScalar (info : Resolved) (payload : NativeValue) :
    Except ConversionError Handle := do
  match info.entry.classification, payload with
  | .fundamental, payload =>
    match ← info.strategy with
    | .fundamental functions => (functions.wrap payload).map .scalar
    | _ => throw (info.refuse payload)
  | .enumeration, .enumeration value =>
    match ← info.strategy with
    | .enumeration table => EnumTable.toHandle table value
    | _ => throw (info.refuse payload)
  | .flags, .flags bits =>
    match ← info.strategy with
    | .flags table => FlagsTable.toHandle table bits
    | _ => throw (info.refuse payload)
  | _, payload => throw (info.refuse payload)

/-- A typed native value as a handle. An object needs no registration of
its declared type; it is wrapped by its concrete type. -/
def toHandle (r : RuntimeId) (v : TypedValue) : Attempt σ Handle := do
  let s ← get
  match (s.registryOf r).resolve v.type with
  | none =>
    match v.value with
    | .object o => wrapBorrowed r o
    | _ => throw (.conversion (s.unconvertible r v.type))
  | some info =>
    match info.entry.classification, v.value with
    | .object, .null | .paramSpec, .null | .boxed, .null | .variant, .null => return .undefined
    | .object, .object o | .paramSpec, .object o => wrapBorrowed r o
    | .boxed, .boxed block => wrapBoxed r block v.type false
    | .variant, .variant shared => return .variant shared
    | _, payload => converting (info.wrapScalar payload)

/-- A handle as a payload of a fundamental, enum or flags type. -/
def Resolved.unwrapScalar (info : Resolved) (h : Handle) (refused : ConversionError) :
    Except ConversionError NativeValue := do
  match info.entry.classification, ← info.strategy with
  | .fundamental, .fundamental functions => functions.unwrap h
  | .enumeration, .enumeration table => (EnumTable.ofHandle table h).map .enumeration
  | .flags, .flags table => (FlagsTable.ofHandle table h).map .flags
  | _, _ => throw refused

/-- A handle as a native value of the expected type. -/
def fromHandle (r : RuntimeId) (h : Handle) (expected : TypeId) : Attempt σ TypedValue := do
  let s ← get
  match (s.registryOf r).resolve expected with
  | none => throw (.conversion (s.unconvertible r expected))
  | some info =>
    let mismatch := ConversionError.typeMismatch info.entry.package h.typeName
    if !h.isDefined then
      if info.entry.classification.isNullable then return ⟨expected, .null⟩
      else throw (.conversion mismatch)
    else
      match info.entry.classification with
      | .object | .paramSpec => return ⟨expected, .object (← unwrapObject r h expected)⟩
      | .boxed => return ⟨expected, .boxed (← unwrapBoxed r h expected)⟩
      | .variant =>
        match h with
        | .variant shared => return ⟨expected, .variant shared⟩
        | _ => throw (.conversion mismatch)
      | .fundamental | .enumeration | .flags =>
        let value ← converting (info.unwrapScalar h (s.unconvertible r expected))
        return ⟨expected, value⟩

end NativeBridge
