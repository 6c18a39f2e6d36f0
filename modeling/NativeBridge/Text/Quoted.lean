-- Quoted text for people who look for faults: the text stands between
-- double quotes, and what could not be seen or would end the quote is
-- escaped. The escapes are a backslash and a letter, or a code point.
import NativeBridge.Text.Hex
import NativeBridge.Text.Joining
import NativeBridge.Text.Unseen

namespace NativeBridge.Text

/-- A code point by number, such as `\u{301}`. -/
def codePoint (c : Char) : List Char :=
  ['\\', 'u', '\x7b'] ++ hexDigits (hexWidth c.toNat) c.toNat ++ ['\x7d']

/-- How one character stands in a quoted text. -/
def escape (c : Char) : List Char :=
  if c = '\x00' then ['\\', '0']
  else if c = '\t' then ['\\', 't']
  else if c = '\r' then ['\\', 'r']
  else if c = '\n' then ['\\', 'n']
  else if c = '"' then ['\\', '"']
  else if c = '\\' then ['\\', '\\']
  else if isJoining c || isUnseen c then codePoint c
  else [c]

/-- The text between double quotes, escaped. -/
def quoted (text : String) : String :=
  String.ofList ('"' :: text.toList.flatMap escape ++ ['"'])

/-- Texts in square brackets, with commas between them. -/
def listed (texts : List String) : String := "[" ++ ", ".intercalate texts ++ "]"

/-- A name with its fields in braces. An open record ends in two dots. -/
def record (name : String) (fields : List (String × String)) (complete : Bool) : String :=
  let parts := fields.map (fun (field, text) => field ++ ": " ++ text) ++
    (if complete then [] else [".."])
  name ++ " \x7b " ++ ", ".intercalate parts ++ " \x7d"

end NativeBridge.Text
