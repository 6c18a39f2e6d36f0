-- Failures raised by dynamic callables: a message, the package of the
-- exception class when the failure is structured, and the domain and code
-- of the native error that it stands for.

namespace NativeBridge

structure Fault where
  message : String
  package : Option String := none
  domain : Option String := none
  code : Option String := none
  deriving DecidableEq, Repr, Inhabited

namespace Fault

/-- A failure with a message and nothing else. -/
def ofMessage (message : String) : Fault := { message }

/-- The message, after the package if there is one. -/
def text (f : Fault) : String :=
  match f.package with
  | some package => s!"{package}: {f.message}"
  | none => f.message

end Fault

end NativeBridge
