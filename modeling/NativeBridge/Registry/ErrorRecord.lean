-- Native error records and the faults that stand for them. A registered
-- domain names its codes by the nicks of an enum; other codes keep their
-- number.
import NativeBridge.Registry.Basic
import NativeBridge.Text.Decimal

namespace NativeBridge

/-- A native error: a domain, a code and a message. -/
structure ErrorRecord where
  domain : String
  code : Int32
  message : String
  deriving DecidableEq, Repr

namespace Registry

/-- The enum of a registered domain. -/
def domainTable? (r : Registry) (domain : String) : Option EnumTable :=
  r.domains.get? domain >>= fun d => r.enumTable? d.errorEnum

/-- The fault that stands for a native error. -/
def faultOfError (r : Registry) (e : ErrorRecord) : Fault :=
  let number := toString e.code.toInt
  match r.domains.get? e.domain with
  | none => { message := e.message, domain := some e.domain, code := some number }
  | some d =>
    let nick := (r.enumTable? d.errorEnum >>= (·.byValue? e.code)).map (·.nick)
    { message := e.message
      package := some d.package
      domain := some d.domain
      code := some (nick.getD number) }

/-- The native error of a fault that carries a domain and a code. -/
def errorOfFault (r : Registry) (f : Fault) : Except ConversionError ErrorRecord :=
  match f.domain, f.code with
  | some domain, some code =>
    let known := (r.domainTable? domain >>= (·.lookup? code)).map (·.value)
    match known <|> Text.readInt32? code with
    | some value => .ok ⟨domain, value, f.message⟩
    | none => .error (.unknownEnumerator domain code)
  | _, _ => .error (.typeMismatch "error record" "plain fault")

end Registry

end NativeBridge
