-- Identifiers of native types. A type is named by a 64-bit number that
-- depends on its native name alone, so both sides of the bridge find the
-- same number before anything is registered.
import NativeBridge.Text.Hex
import NativeBridge.TypeId.Digest

namespace NativeBridge

/-- The identifier of a native type. -/
structure TypeId where
  bits : UInt64
  deriving DecidableEq, Repr, Inhabited

namespace TypeId

/-- Sets the digests of type names apart from other digests of the same names. -/
def domain : UInt64 := 0x2fac10b63a6cc57c

/-- The identifier of the type with this native name. -/
def ofName (name : String) : TypeId := ⟨domain ^^^ Digest.ofBytes name.toUTF8.data.toList⟩

/-- No type has the identifier zero. -/
def isInvalid (id : TypeId) : Bool := id.bits = 0

def text (id : TypeId) : String := Text.hex64 id.bits

def inspect (id : TypeId) : String := s!"NativeTypeId({id.text})"

end TypeId

end NativeBridge
