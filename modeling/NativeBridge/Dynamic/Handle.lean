-- Handles: how the dynamic runtime sees a value. Scalars are held by
-- value. Objects and boxed structures stand behind shared wrappers, whose
-- last handle releases what the wrapper owns.
import NativeBridge.Native.Value
import NativeBridge.Text.Quoted

namespace NativeBridge

/-! ## Scalars -/

inductive Scalar where
  | bool (value : Bool)
  | int (value : Int64)
  | uint (value : UInt64)
  | float (value : Float)
  | str (value : String)
  /-- A set of symbolic names, as flags give it. -/
  | names (values : List String)

namespace Scalar

/-- The kind of a scalar, as error texts name it. -/
def typeName : Scalar → String
  | bool _ => "bool"
  | int _ => "int"
  | uint _ => "uint"
  | float _ => "float"
  | str _ => "string"
  | names _ => "name set"

/-- Equality of scalars. A double that is no number equals itself. -/
def eq : Scalar → Scalar → Bool
  | bool a, bool b => a == b
  | int a, int b => a == b
  | uint a, uint b => a == b
  | float a, float b => Number.sameValue a b
  | str a, str b => a == b
  | names a, names b => a == b
  | _, _ => false

def inspect : Scalar → String
  | bool value => s!"Bool({value})"
  | int value => s!"Int({value.toInt})"
  | uint value => s!"UInt({value.toNat})"
  | float value => s!"Float({Number.write .exact value})"
  | str value => s!"Str({Text.quoted value})"
  | names values => s!"Names({Text.listed (values.map Text.quoted)})"

end Scalar

/-! ## Wrappers -/

/-- Whether the end of a wrapper releases the native value behind it. -/
inductive Ownership where
  | owned
  | borrowed
  deriving DecidableEq, Repr, Inhabited

namespace Ownership

def ofOwned (isOwned : Bool) : Ownership := if isOwned then owned else borrowed

def inspect : Ownership → String
  | owned => "Owned"
  | borrowed => "Borrowed"

end Ownership

/-- The wrapper of a native object. The number tells wrappers apart; the
rest is fixed when the object is wrapped. -/
structure ObjectWrapper where
  number : Nat
  object : ObjectId
  /-- The concrete type of the object when it was wrapped. -/
  nativeType : TypeId
  /-- The package that the object is shown under. -/
  package : String
  ownership : Ownership
  deriving DecidableEq, Repr, Inhabited

def ObjectWrapper.inspect (w : ObjectWrapper) : String :=
  let object := Text.record "ObjectId"
    [("index", toString w.object.index.toNat), ("generation", toString w.object.generation.toNat)]
    true
  Text.record "ObjectWrapper"
    [("object", object), ("package", Text.quoted w.package), ("ownership", w.ownership.inspect)]
    false

/-- The wrapper of a boxed structure. The number tells wrappers apart. -/
structure BoxedWrapper where
  number : Nat
  type : TypeId
  package : String
  block : Block
  ownership : Ownership
  deriving DecidableEq, Repr, Inhabited

def BoxedWrapper.inspect (w : BoxedWrapper) : String :=
  Text.record "BoxedWrapper"
    [("package", Text.quoted w.package), ("block", w.block.inspect),
      ("ownership", w.ownership.inspect)]
    false

/-- A dynamic callable, known by its number alone. It holds nothing: what a
callable captured is held by the dynamic program, for as long as it likes,
so that the end of a callable releases nothing else. -/
structure Callable where
  number : Nat
  deriving DecidableEq, Repr, Inhabited

/-! ## Handles -/

inductive HandleKind where
  | undefined
  | scalar
  | objectRef
  | callableRef
  deriving DecidableEq, Repr

def HandleKind.inspect : HandleKind → String
  | undefined => "Undefined"
  | scalar => "Scalar"
  | objectRef => "ObjectRef"
  | callableRef => "CallableRef"

inductive Handle where
  /-- The undefined value stands for "no value". -/
  | undefined
  | scalar (value : Scalar)
  | object (wrapper : ObjectWrapper)
  | boxed (wrapper : BoxedWrapper)
  | variant (shared : SharedVariant)
  | callable (target : Callable)

namespace Handle

instance : Inhabited Handle := ⟨undefined⟩

def kind : Handle → HandleKind
  | undefined => .undefined
  | scalar _ => .scalar
  | object _ | boxed _ | variant _ => .objectRef
  | callable _ => .callableRef

def isDefined : Handle → Bool
  | undefined => false
  | _ => true

/-- The ownership of wrapped objects and boxed structures. -/
def ownership? : Handle → Option Ownership
  | object wrapper => some wrapper.ownership
  | boxed wrapper => some wrapper.ownership
  | _ => none

/-- What a handle holds, as error texts name it. -/
def typeName : Handle → String
  | undefined => "undef"
  | scalar value => value.typeName
  | object wrapper => wrapper.package
  | boxed wrapper => wrapper.package
  | variant shared => s!"variant '{shared.tree.typeString}'"
  | callable _ => "callable"

def isScalar : Handle → Bool
  | scalar _ => true
  | _ => false

def object? : Handle → Option ObjectWrapper
  | object wrapper => some wrapper
  | _ => none

def boxed? : Handle → Option BoxedWrapper
  | boxed wrapper => some wrapper
  | _ => none

def callable? : Handle → Option Callable
  | callable target => some target
  | _ => none

def ofBool (value : Bool) : Handle := .scalar (.bool value)
def ofInt (value : Int64) : Handle := .scalar (.int value)
def ofUInt (value : UInt64) : Handle := .scalar (.uint value)
def ofFloat (value : Float) : Handle := .scalar (.float value)
def ofString (value : String) : Handle := .scalar (.str value)
def ofNames (values : List String) : Handle := .scalar (.names values)

/-- Whether two handles refer to the same value: references by identity,
scalars by value. -/
def same : Handle → Handle → Bool
  | undefined, undefined => true
  | scalar a, scalar b => a.eq b
  | object a, object b => a.number == b.number
  | boxed a, boxed b => a.number == b.number
  | variant a, variant b => a.number == b.number
  | callable a, callable b => a == b
  | _, _ => false

/-- Equality of handles: as `same`, but trees compare by value. -/
def eq : Handle → Handle → Bool
  | variant a, variant b => a.tree == b.tree
  | a, b => a.same b

instance : BEq Handle := ⟨eq⟩

def inspect : Handle → String
  | undefined => "Undefined"
  | scalar value => s!"Scalar({value.inspect})"
  | object wrapper => s!"Object({wrapper.package} {wrapper.object.text})"
  | boxed wrapper => s!"Boxed({wrapper.package})"
  | variant shared => s!"Variant({shared.tree.text})"
  | callable _ => "Callable"

end Handle

end NativeBridge
