-- Binary floating point by its bits: what number a double stands for, its
-- nearest single, and the double that a single or a whole number becomes.
-- Rounding goes to the nearest value, and a tie to the even one.

namespace NativeBridge.Number

/-! ## The parts of a double -/

/-- What a double stands for. A finite one is `mantissa * 2 ^ exponent`
with a sign. -/
inductive Parts where
  | nan
  | infinite (negative : Bool)
  | finite (negative : Bool) (mantissa : Nat) (exponent : Int)
  deriving DecidableEq, Repr

def parts (x : Float) : Parts :=
  let bits : Nat := x.toBits.toNat
  let negative := (bits >>> 63) % 2 == 1
  let field : Nat := (bits >>> 52) % (1 <<< 11)
  let fraction := bits % (1 <<< 52)
  if field = 2047 then
    if fraction = 0 then .infinite negative else .nan
  else if field = 0 then .finite negative fraction (-1074)
  else .finite negative ((1 <<< 52) + fraction) ((field : Int) - 1075)

/-! ## Rounding -/

/-- A quotient by a power of two, rounded to the nearest number and on a
tie to the even one. -/
def shiftRounded (n shift : Nat) : Nat :=
  let q := n >>> shift
  let r := n % (1 <<< shift)
  if 2 * r < 1 <<< shift then q
  else if 1 <<< shift < 2 * r then q + 1
  else q + q % 2

/-- What has no digits below the cut is not changed by rounding. -/
theorem shiftRounded_shiftLeft (n shift : Nat) : shiftRounded (n <<< shift) shift = n := by
  have h : 0 < 2 ^ shift := Nat.two_pow_pos shift
  simp [shiftRounded, Nat.shiftLeft_eq, Nat.shiftRight_eq_div_pow, h]

/-! ## Singles -/

/-- The largest finite single, as a double. -/
def largestSingle : Float := Float.ofBits 0x47efffffe0000000

/-- The bits of the single nearest to `mantissa * 2 ^ exponent`, without
a sign. The unit of the last place is `2 ^ unit`. -/
def singleMagnitude (mantissa : Nat) (exponent : Int) : Nat :=
  let unit := max ((mantissa.log2 : Int) + exponent - 23) (-149)
  let digits :=
    if unit ≤ exponent then mantissa <<< (exponent - unit).toNat
    else shiftRounded mantissa (unit - exponent).toNat
  min (((unit + 149).toNat <<< 23) + digits) 0x7f800000

def signed32 (negative : Bool) (magnitude : Nat) : UInt32 :=
  UInt32.ofNat (if negative then (1 <<< 31) + magnitude else magnitude)

/-- The single nearest to a double. -/
def narrow (x : Float) : Float32 :=
  Float32.ofBits <|
    match parts x with
    | .nan => 0x7fc00000
    | .infinite negative => signed32 negative 0x7f800000
    | .finite negative mantissa exponent =>
      signed32 negative (if mantissa = 0 then 0 else singleMagnitude mantissa exponent)

/-- The bits of the double `mantissa * 2 ^ exponent`, for a mantissa of
at most 53 digits and an exponent in the normal range. -/
def doubleMagnitude (mantissa : Nat) (exponent : Int) : Nat :=
  let top : Nat := mantissa.log2
  (((top : Int) + exponent + 1022).toNat <<< 52) + (mantissa <<< (52 - top))

def signed64 (negative : Bool) (magnitude : Nat) : UInt64 :=
  UInt64.ofNat (if negative then (1 <<< 63) + magnitude else magnitude)

/-- A single as a double. No digit is lost. -/
def widen (x : Float32) : Float :=
  let bits : Nat := x.toBits.toNat
  let negative := (bits >>> 31) % 2 == 1
  let field : Nat := (bits >>> 23) % (1 <<< 8)
  let fraction := bits % (1 <<< 23)
  Float.ofBits <|
    if field = 255 then
      if fraction = 0 then signed64 negative 0x7ff0000000000000 else 0x7ff8000000000000
    else if field = 0 then
      signed64 negative (if fraction = 0 then 0 else doubleMagnitude fraction (-149))
    else signed64 negative (doubleMagnitude ((1 <<< 23) + fraction) ((field : Int) - 150))

/-! ## Whole numbers -/

/-- The double nearest to a whole number of 64 bits. -/
def ofUnsigned (n : UInt64) : Float := n.toFloat

/-- The double nearest to a signed whole number of 64 bits. -/
def ofSigned (n : Int64) : Float :=
  let size := (UInt64.ofNat n.toInt.natAbs).toFloat
  if n < 0 then -size else size

/-! ## Equality of values -/

/-- Equality in which a value that is no number equals itself, and zeros
of both signs are equal. -/
def sameValue (x y : Float) : Bool := (x.isNaN && y.isNaN) || x == y

end NativeBridge.Number
