-- The shortest decimal that reads back as a given double. Of all decimals
-- with the fewest digits that round to the double, the nearest is taken.
-- The search is exact: every comparison is one of natural numbers.
import NativeBridge.Number.Binary

namespace NativeBridge.Number

/-- The positive decimal `digits * 10 ^ exponent`. -/
structure Decimal where
  digits : Nat
  exponent : Int
  deriving DecidableEq, Repr

namespace Decimal

/-- The same decimal without zeros at its end. -/
def trim : Nat → Decimal → Decimal
  | 0, d => d
  | places + 1, d =>
    if d.digits % 10 = 0 ∧ d.digits ≠ 0 then trim places ⟨d.digits / 10, d.exponent + 1⟩ else d

end Decimal

/-- The reals that round to the double `mantissa * 2 ^ exponent`, in
quarters of its last place: from `4 * mantissa - below` to
`4 * mantissa + 2`. The gap below a power of two is half as wide. The
ends belong to it exactly when the mantissa is even. -/
structure Rounding where
  mantissa : Nat
  exponent : Int
  below : Nat
  closed : Bool
  deriving DecidableEq, Repr

namespace Rounding

def ofParts (mantissa : Nat) (exponent : Int) : Rounding where
  mantissa := mantissa
  exponent := exponent
  below := if mantissa = 1 <<< 52 ∧ -1074 < exponent then 1 else 2
  closed := mantissa % 2 = 0

/-- `n * 2 ^ (exponent - 2)` counted in steps of `10 ^ place`, as a
numerator over `stepSize`. -/
def scaled (r : Rounding) (place : Int) (n : Nat) : Nat :=
  (n <<< (r.exponent - 2).toNat) * Nat.pow 10 (-place).toNat

def stepSize (r : Rounding) (place : Int) : Nat :=
  (1 <<< (2 - r.exponent).toNat) * Nat.pow 10 place.toNat

/-- Whether `count` steps of `10 ^ place` round to the double. -/
def holds (r : Rounding) (place : Int) (count : Nat) : Bool :=
  let value := count * r.stepSize place
  let low := r.scaled place (4 * r.mantissa - r.below)
  let high := r.scaled place (4 * r.mantissa + 2)
  if r.closed then low ≤ value && value ≤ high else low < value && value < high

/-- The neighbour of the double on the grid of `10 ^ place` that rounds
to it. Of two, the nearer is taken, and on a tie the larger. -/
def neighbour? (r : Rounding) (place : Int) : Option Nat :=
  let num := r.scaled place (4 * r.mantissa)
  let step := r.stepSize place
  let down := num / step
  let up := down + 1
  match r.holds place down, r.holds place up with
  | true, true => some (if 2 * num < (down + up) * step then down else up)
  | true, false => some down
  | false, true => some up
  | false, false => none

/-- Tries finer and finer grids. -/
def search (r : Rounding) : Nat → Int → Decimal
  | 0, place => ⟨r.scaled place (4 * r.mantissa) / r.stepSize place, place⟩
  | grids + 1, place =>
    match r.neighbour? place with
    | some count => ⟨count, place⟩
    | none => search r grids (place - 1)

end Rounding

/-- A power of ten above `mantissa * 2 ^ exponent`. -/
def placeAbove (mantissa : Nat) (exponent : Int) : Int :=
  ((mantissa.log2 : Int) + exponent + 1) * 30103 / 100000 + 1

/-- The shortest decimal that rounds to `mantissa * 2 ^ exponent`. -/
def shortest (mantissa : Nat) (exponent : Int) : Decimal :=
  ((Rounding.ofParts mantissa exponent).search 24 (placeAbove mantissa exponent)).trim 24

end NativeBridge.Number
