-- Immutable trees of typed values. Every tree has a signature: a letter
-- for each scalar, `a` and the element for an array, and parentheses for
-- a tuple. The checked constructor keeps arrays to one element type.
import NativeBridge.Error
import NativeBridge.Number.Written

namespace NativeBridge

inductive Variant where
  | bool (value : Bool)
  | int32 (value : Int32)
  | int64 (value : Int64)
  | uint32 (value : UInt32)
  | uint64 (value : UInt64)
  | double (value : Float)
  | str (value : String)
  /-- The signature of the elements is kept, for arrays without any. -/
  | array (element : String) (items : List Variant)
  | tuple (items : List Variant)

namespace Variant

/-! ## Signatures -/

mutual

/-- The signature of a tree. -/
def typeString : Variant → String
  | bool _ => "b"
  | int32 _ => "i"
  | int64 _ => "x"
  | uint32 _ => "u"
  | uint64 _ => "t"
  | double _ => "d"
  | str _ => "s"
  | array element _ => "a" ++ element
  | tuple items => "(" ++ typeStrings items ++ ")"

/-- The signatures of some trees, one after another. -/
def typeStrings : List Variant → String
  | [] => ""
  | item :: rest => item.typeString ++ typeStrings rest

end

/-- An array whose items all have the element signature. -/
def array? (element : String) (items : List Variant) : Except ConversionError Variant :=
  match items.find? (·.typeString != element) with
  | some bad => .error (.typeMismatch s!"variant '{element}'" s!"variant '{bad.typeString}'")
  | none => .ok (.array element items)

/-! ## Children -/

def isContainer : Variant → Bool
  | array _ _ | tuple _ => true
  | _ => false

/-- The items of a container; a scalar has none. -/
def children : Variant → List Variant
  | array _ items | tuple items => items
  | _ => []

def child? (v : Variant) (index : Nat) : Option Variant := v.children[index]?

/-- The tree at the end of a path of child indexes. -/
def descend? : List Nat → Variant → Option Variant
  | [], v => some v
  | index :: path, v => v.child? index >>= descend? path

/-! ## Text -/

mutual

/-- The tree as text. -/
def text : Variant → String
  | bool value => if value then "true" else "false"
  | int32 value => toString value.toInt
  | int64 value => s!"int64 {value.toInt}"
  | uint32 value => s!"uint32 {value.toNat}"
  | uint64 value => s!"uint64 {value.toNat}"
  | double value => Number.write .exact value
  | str value => s!"'{value}'"
  | array element [] => s!"@a{element} []"
  | array _ (first :: rest) => "[" ++ first.text ++ textAfter rest ++ "]"
  | tuple [] => "()"
  | tuple [only] => "(" ++ only.text ++ ",)"
  | tuple (first :: second :: rest) =>
    "(" ++ first.text ++ ", " ++ second.text ++ textAfter rest ++ ")"

/-- The texts of some trees, each behind a comma. -/
def textAfter : List Variant → String
  | [] => ""
  | item :: rest => ", " ++ item.text ++ textAfter rest

end

/-! ## Equality of values -/

mutual

/-- Equality of trees. Doubles compare as numbers, so a tree that holds
no number in place of a double differs from itself. -/
def eq : Variant → Variant → Bool
  | bool a, bool b => a == b
  | int32 a, int32 b => a == b
  | int64 a, int64 b => a == b
  | uint32 a, uint32 b => a == b
  | uint64 a, uint64 b => a == b
  | double a, double b => a == b
  | str a, str b => a == b
  | array e xs, array f ys => e == f && eqAll xs ys
  | tuple xs, tuple ys => eqAll xs ys
  | _, _ => false

def eqAll : List Variant → List Variant → Bool
  | [], [] => true
  | x :: xs, y :: ys => x.eq y && eqAll xs ys
  | _, _ => false

end

instance : BEq Variant := ⟨eq⟩

end Variant

/-- A tree that both sides of the bridge share. The number tells shared
trees apart that look alike. -/
structure SharedVariant where
  number : Nat
  tree : Variant

end NativeBridge
