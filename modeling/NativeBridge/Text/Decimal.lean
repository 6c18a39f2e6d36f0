-- Whole numbers read from decimal text: an optional sign and at least one
-- ASCII digit, with nothing before, between or after.

namespace NativeBridge.Text

/-- Reads digits, high digits first. An empty text stands for no number. -/
def readDigits? (digits : List Char) : Option Nat :=
  if digits.isEmpty then none
  else digits.foldlM (fun n c =>
    if '0' ≤ c ∧ c ≤ '9' then some (10 * n + (c.toNat - '0'.toNat)) else none) 0

/-- Reads a whole number with an optional sign. -/
def readInt? (text : String) : Option Int :=
  match text.toList with
  | '-' :: digits => (readDigits? digits).map fun n => -(n : Int)
  | '+' :: digits => (readDigits? digits).map fun n => (n : Int)
  | digits => (readDigits? digits).map fun n => (n : Int)

/-- Reads a whole number that fits in 32 bits. -/
def readInt32? (text : String) : Option Int32 :=
  match readInt? text with
  | some n =>
    if Int32.minValue.toInt ≤ n ∧ n ≤ Int32.maxValue.toInt then some (Int32.ofInt n) else none
  | none => none

end NativeBridge.Text
