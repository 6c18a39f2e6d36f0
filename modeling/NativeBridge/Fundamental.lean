-- The built-in fundamental types: the scalars that every bridge knows
-- without a strategy of its own. A value crosses in either direction
-- through the same range check.
import NativeBridge.Dynamic.Extract

namespace NativeBridge

inductive Fundamental where
  | bool
  | char
  | uchar
  | int
  | uint
  | long
  | ulong
  | int64
  | uint64
  | float
  | double
  | string
  deriving DecidableEq, Repr

namespace Fundamental

/-- The native name. -/
def name : Fundamental → String
  | bool => "bool"
  | char => "char"
  | uchar => "uchar"
  | int => "int"
  | uint => "uint"
  | long => "long"
  | ulong => "ulong"
  | int64 => "int64"
  | uint64 => "uint64"
  | float => "float"
  | double => "double"
  | string => "string"

def all : List Fundamental :=
  [bool, char, uchar, int, uint, long, ulong, int64, uint64, float, double, string]

theorem mem_all (f : Fundamental) : f ∈ all := by cases f <;> decide

def type (f : Fundamental) : TypeId := TypeId.ofName f.name

/-- The fundamental with this identifier. -/
def ofType? (id : TypeId) : Option Fundamental := all.find? (·.type == id)

/-- The machine integer behind an integer type. -/
def integerKind? : Fundamental → Option IntegerKind
  | char => some ⟨true, .w8⟩
  | uchar => some ⟨false, .w8⟩
  | int => some ⟨true, .w32⟩
  | uint => some ⟨false, .w32⟩
  | long | int64 => some ⟨true, .w64⟩
  | ulong | uint64 => some ⟨false, .w64⟩
  | _ => none

/-- The scalar of a scalar payload. -/
def scalar? : NativeValue → Option Scalar
  | .bool value => some (.bool value)
  | .int value => some (.int value)
  | .uint value => some (.uint value)
  | .float value => some (.float value)
  | .str value => some (.str value)
  | _ => none

/-- The payload of an integer, in the sign domain of its kind. -/
def integerValue (k : IntegerKind) (n : Int) : NativeValue :=
  if k.signed then .int (Int64.ofInt n) else .uint (UInt64.ofNat n.toNat)

/-- The native value of a handle. -/
def unwrap (f : Fundamental) (h : Handle) : Except ConversionError NativeValue :=
  match f.integerKind? with
  | some k => (h.readInteger k).map (integerValue k)
  | none =>
    match f with
    | bool => h.readBool.map .bool
    | float => h.readSingle.map fun x => .float (Number.widen x)
    | double => h.readDouble.map .float
    | _ => h.readString.map .str

/-- The scalar of a payload. The payload takes the way that `unwrap`
takes, so it is checked against the range and brought into its domain. -/
def wrap (f : Fundamental) (value : NativeValue) : Except ConversionError Scalar :=
  let refused := ConversionError.typeMismatch f.name value.kindName
  match scalar? value with
  | none => .error refused
  | some raw => do
    let settled ← f.unwrap (.scalar raw)
    match scalar? settled with
    | some scalar => return scalar
    | none => throw refused

end Fundamental

end NativeBridge
