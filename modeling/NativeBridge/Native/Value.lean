-- Native values: what native code hands the bridge. A payload does not
-- say how it converts; the type it is declared with does.
import NativeBridge.Variant

namespace NativeBridge

/-- The memory of a boxed structure: a span of bytes. -/
structure Block where
  bytes : List UInt8
  deriving DecidableEq, Repr, Inhabited

namespace Block

def size (b : Block) : Nat := b.bytes.length

def isEmpty (b : Block) : Bool := b.bytes.isEmpty

/-- Writes one byte. A place outside the block is left alone. -/
def set (b : Block) (index : Nat) (byte : UInt8) : Block := ⟨b.bytes.set index byte⟩

def hex (b : Block) : String := Text.hexBytes b.bytes

def inspect (b : Block) : String := s!"Block({b.size} bytes)"

end Block

/-- A native payload. -/
inductive NativeValue where
  /-- The form that says "no value". -/
  | null
  | bool (value : Bool)
  /-- A signed integer of any width. -/
  | int (value : Int64)
  /-- An unsigned integer of any width. -/
  | uint (value : UInt64)
  | float (value : Float)
  | str (value : String)
  | enumeration (value : Int32)
  | flags (bits : UInt32)
  /-- An object; passing it hands over no reference. -/
  | object (id : ObjectId)
  | boxed (block : Block)
  | variant (shared : SharedVariant)

namespace NativeValue

/-- The kind of a payload, as error texts name it. -/
def kindName : NativeValue → String
  | null => "none"
  | bool _ => "bool"
  | int _ => "int"
  | uint _ => "uint"
  | float _ => "float"
  | str _ => "string"
  | enumeration _ => "enum"
  | flags _ => "flags"
  | object _ => "object"
  | boxed _ => "boxed"
  | variant _ => "variant"

/-- Equality of payloads, with doubles and trees compared as values. -/
def eq : NativeValue → NativeValue → Bool
  | null, null => true
  | bool a, bool b => a == b
  | int a, int b => a == b
  | uint a, uint b => a == b
  | float a, float b => a == b
  | str a, str b => a == b
  | enumeration a, enumeration b => a == b
  | flags a, flags b => a == b
  | object a, object b => a == b
  | boxed a, boxed b => a == b
  | variant a, variant b => a.tree == b.tree
  | _, _ => false

instance : BEq NativeValue := ⟨eq⟩

end NativeValue

/-- A payload with its declared type. -/
structure TypedValue where
  type : TypeId
  value : NativeValue

instance : BEq TypedValue := ⟨fun a b => a.type == b.type && a.value == b.value⟩

end NativeBridge
