-- How native types cross the bridge. Every registered type belongs to one
-- classification, and the classification selects its conversion.

namespace NativeBridge

inductive Classification where
  /-- Scalars, converted by value. -/
  | fundamental
  /-- Opaque structures, copied by value through a strategy. -/
  | boxed
  /-- Reference-counted instances with identity. -/
  | object
  /-- Numbers converted through symbolic names. -/
  | enumeration
  /-- Bit sets converted through sets of symbolic names. -/
  | flags
  /-- Reference-counted property descriptors, wrapped like objects. -/
  | paramSpec
  /-- Immutable trees of typed values. -/
  | variant
  deriving DecidableEq, Repr

namespace Classification

def text : Classification → String
  | fundamental => "fundamental"
  | boxed => "boxed"
  | object => "object"
  | enumeration => "enum"
  | flags => "flags"
  | paramSpec => "param-spec"
  | variant => "variant"

def all : List Classification :=
  [fundamental, boxed, object, enumeration, flags, paramSpec, variant]

/-- The classification with this text. -/
def ofText? (name : String) : Option Classification := all.find? (·.text == name)

/-- Whether values have a form that says "no value". -/
def isNullable : Classification → Bool
  | boxed | object | paramSpec | variant => true
  | _ => false

/-- Whether the native side counts references to instances. -/
def isRefcounted : Classification → Bool
  | object | paramSpec => true
  | _ => false

theorem mem_all (c : Classification) : c ∈ all := by cases c <;> decide

theorem ofText?_text (c : Classification) : ofText? c.text = some c := by
  cases c <;> decide

end Classification

end NativeBridge
