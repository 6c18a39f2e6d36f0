-- Strategies: the tables of functions that convert the values of a type.
-- Fundamental and boxed types may bring their own; enums and flags bring
-- their tables. Objects, param-specs and variants need none.
import NativeBridge.Classification
import NativeBridge.Fundamental
import NativeBridge.Registry.Symbols

namespace NativeBridge

/-- The conversion of a fundamental type. -/
structure FundamentalStrategy where
  wrap : NativeValue → Except ConversionError Scalar
  unwrap : Handle → Except ConversionError NativeValue

/-- The conversion of a boxed type. A strategy with a name announces
every use of it. -/
structure BoxedStrategy where
  name : Option String
  /-- The block that a wrapper holds. -/
  wrap : Block → Except ConversionError Block
  /-- The block that native code gets back. -/
  unwrap : Block → Except ConversionError Block
  /-- A private copy. -/
  copy : Block → Block

namespace BoxedStrategy

/-- Copies bytes and owns nothing. -/
def byteCopy : BoxedStrategy := ⟨none, .ok, .ok, id⟩

end BoxedStrategy

/-- The strategy of a built-in fundamental. -/
def Fundamental.strategy (f : Fundamental) : FundamentalStrategy := ⟨f.wrap, f.unwrap⟩

/-- What a registered type converts through. -/
inductive Strategy where
  | fundamental (functions : FundamentalStrategy)
  | boxed (functions : BoxedStrategy)
  | enumeration (table : EnumTable)
  | flags (table : FlagsTable)

namespace Strategy

/-- The classification that a strategy serves. -/
def classification : Strategy → Classification
  | fundamental _ => .fundamental
  | boxed _ => .boxed
  | enumeration _ => .enumeration
  | flags _ => .flags

/-- The kind, as error texts name it. -/
def kind (s : Strategy) : String := s.classification.text

def inspect (s : Strategy) : String := s!"WrapperStrategy::{s.kind}"

end Strategy

end NativeBridge
