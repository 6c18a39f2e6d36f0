-- Doubles as text. Both styles write the shortest digits that read back.
-- The plain style is always positional. The exact style keeps a point in
-- whole numbers and gives very large and very small numbers an exponent.
import NativeBridge.Number.Shortest

namespace NativeBridge.Number

/-- The choices of a style. A number of at least `10 ^ 16`, or below
`10 ^ (-4)`, gets an exponent when `scientific` is set. -/
structure Style where
  keepsPoint : Bool
  scientific : Bool

/-- Whole numbers stand without a point, whatever their size. -/
def Style.plain : Style := ⟨false, false⟩

/-- Whole numbers keep `.0`, and extreme numbers get an exponent. -/
def Style.exact : Style := ⟨true, true⟩

private def zeros (n : Nat) : List Char := List.replicate n '0'

/-- The digits with the point after the first `point` of them. -/
def positional (style : Style) (digits : List Char) (point : Int) : List Char :=
  if point ≤ 0 then ['0', '.'] ++ zeros (-point).toNat ++ digits
  else
    let places := point.toNat
    let whole := digits.take places ++ zeros (places - digits.length)
    match digits.drop places with
    | [] => if style.keepsPoint then whole ++ ['.', '0'] else whole
    | fraction => whole ++ '.' :: fraction

/-- The digits with the point after the first of them, and an exponent. -/
def withExponent (digits : List Char) (point : Int) : List Char :=
  let mantissa :=
    match digits with
    | first :: second :: rest => first :: '.' :: second :: rest
    | short => short
  mantissa ++ 'e' :: (toString (point - 1)).toList

/-- The text of `mantissa * 2 ^ exponent`. -/
def writeMagnitude (style : Style) (mantissa : Nat) (exponent : Int) : List Char :=
  if mantissa = 0 then if style.keepsPoint then ['0', '.', '0'] else ['0']
  else
    let decimal := shortest mantissa exponent
    let digits := Nat.toDigits 10 decimal.digits
    let point := (digits.length : Int) + decimal.exponent
    if style.scientific ∧ (16 < point ∨ point < -3) then withExponent digits point
    else positional style digits point

/-- The text of a double. -/
def write (style : Style) (x : Float) : String :=
  match parts x with
  | .nan => "NaN"
  | .infinite negative => if negative then "-inf" else "inf"
  | .finite negative mantissa exponent =>
    String.ofList ((if negative then ['-'] else []) ++ writeMagnitude style mantissa exponent)

end NativeBridge.Number
