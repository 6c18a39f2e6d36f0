-- Hexadecimal text: numbers with a fixed or free count of digits, and
-- byte strings with two digits a byte. All digits are lower case.

namespace NativeBridge.Text

/-! ## Digits -/

/-- The digit of a number below sixteen; above that, the last one. -/
def hexDigit (n : Nat) : Char :=
  if n < 10 then Char.ofNat ('0'.toNat + n) else Char.ofNat ('a'.toNat + min (n - 10) 5)

/-- The number that a digit stands for. -/
def hexValue? (c : Char) : Option Nat :=
  if '0' ≤ c ∧ c ≤ '9' then some (c.toNat - '0'.toNat)
  else if 'a' ≤ c ∧ c ≤ 'f' then some (c.toNat - 'a'.toNat + 10)
  else if 'A' ≤ c ∧ c ≤ 'F' then some (c.toNat - 'A'.toNat + 10)
  else none

theorem hexValue?_hexDigit : ∀ n < 16, hexValue? (hexDigit n) = some n := by decide

/-! ## Numbers -/

/-- The last `width` digits of a number, high digits first. -/
def hexDigits : Nat → Nat → List Char
  | 0, _ => []
  | width + 1, n => hexDigits width (n / 16) ++ [hexDigit (n % 16)]

theorem length_hexDigits (width n : Nat) : (hexDigits width n).length = width := by
  induction width generalizing n with
  | zero => rfl
  | succ width ih => simp [hexDigits, ih]

/-- How many digits a number needs; zero needs one. -/
def hexWidth (n : Nat) : Nat := n.log2 / 4 + 1

/-- The number marked `0x`, with as many digits as it needs. -/
def hex (n : Nat) : String := "0x" ++ String.ofList (hexDigits (hexWidth n) n)

/-- The number marked `0x`, with sixteen digits. -/
def hex64 (n : UInt64) : String := "0x" ++ String.ofList (hexDigits 16 n.toNat)

/-- The number marked `0x`, with eight digits. -/
def hex32 (n : UInt32) : String := "0x" ++ String.ofList (hexDigits 8 n.toNat)

/-- Reads digits, high digits first. An empty text stands for no number. -/
def readHexDigits? (digits : List Char) : Option Nat :=
  if digits.isEmpty then none
  else digits.foldlM (fun n c => (hexValue? c).map (16 * n + ·)) 0

/-- Reads a number marked `0x`. -/
def readHex? (text : String) : Option Nat :=
  match text.toList with
  | '0' :: 'x' :: digits => readHexDigits? digits
  | _ => none

/-! ## Bytes -/

/-- Two digits for each byte. -/
def hexBytes (bytes : List UInt8) : String :=
  String.ofList (bytes.flatMap fun b => hexDigits 2 b.toNat)

/-- Reads pairs of digits. -/
def readHexPairs? : List Char → Option (List UInt8)
  | [] => some []
  | high :: low :: rest => do
    let h ← hexValue? high
    let l ← hexValue? low
    let bytes ← readHexPairs? rest
    return UInt8.ofNat (16 * h + l) :: bytes
  | [_] => none

/-- Reads the text of a byte string. -/
def readHexBytes? (text : String) : Option (List UInt8) := readHexPairs? text.toList

end NativeBridge.Text
