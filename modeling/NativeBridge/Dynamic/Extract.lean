-- Plain values out of handles, and handles out of plain values. A number
-- that does not fit is an overflow, and a handle of another kind is a
-- mismatch that names the kind that was asked for.
import NativeBridge.Dynamic.Handle

namespace NativeBridge

/-! ## Integers -/

inductive Width where
  | w8
  | w16
  | w32
  | w64
  deriving DecidableEq, Repr

def Width.bits : Width → Nat
  | w8 => 8
  | w16 => 16
  | w32 => 32
  | w64 => 64

/-- A kind of machine integer. -/
structure IntegerKind where
  signed : Bool
  width : Width
  deriving DecidableEq, Repr

namespace IntegerKind

def text (k : IntegerKind) : String :=
  (if k.signed then "i" else "u") ++ toString k.width.bits

/-- The family that error texts name. -/
def familyName (k : IntegerKind) : String := if k.signed then "int" else "uint"

/-- How many numbers the kind has below its middle. -/
def half (k : IntegerKind) : Nat := 1 <<< (k.width.bits - 1)

/-- The least number of the kind. -/
def low (k : IntegerKind) : Int := if k.signed then -(k.half : Int) else 0

/-- The greatest number of the kind. -/
def high (k : IntegerKind) : Int :=
  if k.signed then (k.half : Int) - 1 else 2 * (k.half : Int) - 1

/-- The numbers of the kind. -/
def Contains (k : IntegerKind) (n : Int) : Prop := k.low ≤ n ∧ n ≤ k.high

instance (k : IntegerKind) (n : Int) : Decidable (k.Contains n) :=
  inferInstanceAs (Decidable (_ ∧ _))

/-- The number, if it is one of the kind. -/
def fit (k : IntegerKind) (n : Int) : Except ConversionError Int :=
  if k.Contains n then .ok n else .error (.integerOverflow (toString n) k.text)

end IntegerKind

namespace Handle

/-- The integer that a handle holds, in either sign domain. -/
def integer? : Handle → Option Int
  | scalar (.int value) => some value.toInt
  | scalar (.uint value) => some value.toNat
  | _ => none

private def mismatch (expected : String) (h : Handle) : ConversionError :=
  .typeMismatch expected h.typeName

/-- An integer of a kind. -/
def readInteger (k : IntegerKind) (h : Handle) : Except ConversionError Int :=
  match h.integer? with
  | some n => k.fit n
  | none => .error (mismatch k.familyName h)

/-- A handle of an integer. Unsigned kinds keep their sign domain. -/
def ofInteger (k : IntegerKind) (n : Int) : Handle :=
  if k.signed then ofInt (Int64.ofInt n) else ofUInt (UInt64.ofNat n.toNat)

/-! ## Other scalars -/

/-- A double; integers become the nearest one. -/
def readDouble : Handle → Except ConversionError Float
  | scalar (.float value) => .ok value
  | scalar (.int value) => .ok (Number.ofSigned value)
  | scalar (.uint value) => .ok (Number.ofUnsigned value)
  | h => .error (mismatch "float" h)

/-- A single. Infinities pass; a finite double beyond the singles does not. -/
def readSingle (h : Handle) : Except ConversionError Float32 := do
  let x ← h.readDouble
  if x.isFinite && (Number.largestSingle < x || x < -Number.largestSingle) then
    throw (.integerOverflow (Number.write .plain x) "f32")
  return Number.narrow x

/-- A truth value; an integer is true unless it is zero. -/
def readBool : Handle → Except ConversionError Bool
  | scalar (.bool value) => .ok value
  | scalar (.int value) => .ok (value != 0)
  | scalar (.uint value) => .ok (value != 0)
  | h => .error (mismatch "bool" h)

def readString : Handle → Except ConversionError String
  | scalar (.str value) => .ok value
  | h => .error (mismatch "string" h)

/-- Reads a value that may be missing: the undefined handle holds none. -/
def readOptional {α : Type} (read : Handle → Except ConversionError α) :
    Handle → Except ConversionError (Option α)
  | undefined => .ok none
  | h => (read h).map some

/-- A handle of a value that may be missing. -/
def ofOptional {α : Type} (make : α → Handle) : Option α → Handle
  | some value => make value
  | none => undefined

def ofSingle (x : Float32) : Handle := ofFloat (Number.widen x)

end Handle

end NativeBridge
