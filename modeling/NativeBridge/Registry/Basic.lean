-- The type registry: which native types cross the bridge, under which
-- package, and through which strategy. A registration that fails changes
-- nothing, since it yields no registry.
import NativeBridge.Registry.Strategy
import NativeBridge.Table

namespace NativeBridge

/-! ## What is registered -/

/-- The registration of one type. -/
structure Registration where
  typeName : String
  /-- The primary package. -/
  package : String
  classification : Classification
  strategy : Option Strategy

namespace Registration

def describe (entry : Registration) : String :=
  s!"{entry.classification.text} '{entry.package}'"

def enumTable? (entry : Registration) : Option EnumTable :=
  match entry.strategy with
  | some (.enumeration table) => some table
  | _ => none

end Registration

/-- The type of a package. An alias never becomes the primary package. -/
structure PackageEntry where
  type : TypeId
  isAlias : Bool
  deriving DecidableEq, Repr

/-- A native error domain: the enum type that names its codes, and the
package of the exception class raised for it. -/
structure ErrorDomain where
  domain : String
  errorEnum : TypeId
  package : String
  deriving DecidableEq, Repr

/-- The registry. Synonyms are identifiers that share the registration of
another type. Sinks are kept in the order of registration. -/
structure Registry where
  types : Table TypeId Registration := {}
  packages : Table String PackageEntry := {}
  synonyms : Table TypeId TypeId := {}
  sinks : List (TypeId × SinkFunction) := []
  domains : Table String ErrorDomain := {}

/-- A registration as `resolve` gives it, with the canonical identifier. -/
structure Resolved where
  type : TypeId
  entry : Registration

namespace Registry

instance : Inhabited Registry := ⟨{}⟩

/-! ## Look-up -/

/-- The identifier that a type is registered under. -/
def canonical (r : Registry) (id : TypeId) : TypeId := (r.synonyms.get? id).getD id

/-- The registration of a type or synonym. -/
def registration? (r : Registry) (id : TypeId) : Option Registration :=
  r.types.get? (r.canonical id)

def resolve (r : Registry) (id : TypeId) : Option Resolved :=
  (r.registration? id).map fun entry => ⟨r.canonical id, entry⟩

/-- The canonical identifier of a registered type; another type stands for
itself. -/
def canonicalIfRegistered (r : Registry) (id : TypeId) : TypeId :=
  match r.resolve id with
  | some info => info.type
  | none => id

def enumTable? (r : Registry) (id : TypeId) : Option EnumTable :=
  r.registration? id >>= Registration.enumTable?

def isRegistered (r : Registry) (id : TypeId) : Bool := (r.registration? id).isSome

def typeName? (r : Registry) (id : TypeId) : Option String := (r.registration? id).map (·.typeName)

/-- The primary package of a type. -/
def package? (r : Registry) (id : TypeId) : Option String := (r.registration? id).map (·.package)

/-- Whether two identifiers share a registration. -/
def sameType (r : Registry) (a b : TypeId) : Bool := r.canonical a == r.canonical b

/-- The number of registered types; synonyms are not counted. -/
def typeCount (r : Registry) : Nat := r.types.size

def errorDomain? (r : Registry) (domain : String) : Option ErrorDomain := r.domains.get? domain

/-- The type of a package or alias. -/
def lookupType (r : Registry) (package : String) : Except RegistrationError TypeId :=
  match r.packages.get? package with
  | some found => .ok found.type
  | none => .error (.unknownMapping s!"package '{package}'")

/-- The primary package of a type. -/
def lookupPackage (r : Registry) (id : TypeId) : Except RegistrationError String :=
  match r.package? id with
  | some package => .ok package
  | none => .error (.unknownMapping s!"type {id.text}")

/-- The type of a package, if it has the classification. -/
def lookupTypeIn (r : Registry) (c : Classification) (package : String) :
    Except RegistrationError TypeId :=
  let unknown := RegistrationError.unknownMapping s!"{c.text} package '{package}'"
  match r.packages.get? package with
  | none => .error unknown
  | some found =>
    match r.types.get? found.type with
    | some entry => if entry.classification = c then .ok found.type else .error unknown
    | none => .error unknown

/-- The primary package of a type, if it has the classification. -/
def lookupPackageIn (r : Registry) (c : Classification) (id : TypeId) :
    Except RegistrationError String :=
  let unknown := RegistrationError.unknownMapping s!"{c.text} type {id.text}"
  match r.registration? id with
  | some entry => if entry.classification = c then .ok entry.package else .error unknown
  | none => .error unknown

/-! ## Registration -/

/-- The strategy that a registration gets: the one supplied if it serves
the classification, and else the default of the classification. -/
def chooseStrategy (typeName : String) (id : TypeId) (c : Classification) :
    Option Strategy → Except RegistrationError (Option Strategy)
  | some s =>
    if s.classification = c then .ok (some s)
    else .error (.strategyMismatch typeName c.text s.kind)
  | none =>
    match c with
    | .fundamental =>
      match Fundamental.ofType? id with
      | some f => .ok (some (.fundamental f.strategy))
      | none => .error (.missingStrategy typeName c.text)
    | .boxed => .ok (some (.boxed .byteCopy))
    | .enumeration | .flags => .error (.missingStrategy typeName c.text)
    | .object | .paramSpec | .variant => .ok none

/-- A package that is taken, in words. -/
def describePackage (r : Registry) (taken : PackageEntry) : String :=
  let target :=
    match r.types.get? taken.type with
    | some entry => entry.typeName
    | none => taken.type.text
  let role := if taken.isAlias then "alias" else "package"
  s!"{role} of '{target}'"

/-- Registers a type under a package. A type that is registered already
must keep its classification; the package becomes its primary one, and a
strategy that was supplied replaces the old one. -/
def register (r : Registry) (id : TypeId) (typeName package : String) (c : Classification)
    (supplied : Option Strategy) : Except RegistrationError (TypeId × Registry) := do
  let chosen ← chooseStrategy typeName id c supplied
  let type := r.canonical id
  if let some taken := r.packages.get? package then
    throw (.duplicateRegistration typeName package (r.describePackage taken))
  let entry ←
    match r.types.get? type with
    | some old =>
      if old.classification = c then
        pure { old with
          package := package
          strategy := if supplied.isSome then chosen else old.strategy }
      else throw (.duplicateRegistration typeName package old.describe)
    | none => pure ⟨typeName, package, c, chosen⟩
  return (type, { r with
    types := r.types.set type entry
    packages := r.packages.set package ⟨type, false⟩ })

/-- Registers a type through a strategy, which gives the classification. -/
def registerStrategy (r : Registry) (id : TypeId) (typeName package : String) (s : Strategy) :
    Except RegistrationError (TypeId × Registry) :=
  r.register id typeName package s.classification (some s)

/-- Registers an enum type with its values. -/
def registerEnum (r : Registry) (id : TypeId) (typeName package : String)
    (values : List (Symbol Int32)) : Except RegistrationError (TypeId × Registry) := do
  let table ← SymbolTable.ofList typeName values
  r.registerStrategy id typeName package (.enumeration table)

/-- Registers a flags type with its values. -/
def registerFlags (r : Registry) (id : TypeId) (typeName package : String)
    (values : List (Symbol UInt32)) : Except RegistrationError (TypeId × Registry) := do
  let table ← SymbolTable.ofList typeName values
  r.registerStrategy id typeName package (.flags table)

/-- Adds a package that resolves to a registered type. -/
def registerAlias (r : Registry) (id : TypeId) (typeName aliasPackage : String) :
    Except RegistrationError Registry :=
  let type := r.canonical id
  if r.types.contains type then
    match r.packages.get? aliasPackage with
    | some taken => .error (.duplicateRegistration typeName aliasPackage (r.describePackage taken))
    | none => .ok { r with packages := r.packages.set aliasPackage ⟨type, true⟩ }
  else .error (.unknownMapping s!"type '{typeName}'")

/-- Makes an identifier resolve like a registered type. -/
def registerSynonym (r : Registry) (id : TypeId) (typeName : String) (synonymId : TypeId)
    (synonym : String) : Except RegistrationError Registry :=
  let target := r.canonical id
  match r.types.get? target with
  | none => .error (.unknownMapping s!"type '{typeName}'")
  | some entry =>
    if synonymId = target then .ok r
    else
      match r.registration? synonymId with
      | some existing => .error (.duplicateRegistration synonym entry.package existing.describe)
      | none => .ok { r with synonyms := r.synonyms.set synonymId target }

/-- Adds a sink for a type and its subtypes. -/
def registerSink (r : Registry) (id : TypeId) (sink : SinkFunction) : Registry :=
  { r with sinks := r.sinks ++ [(id, sink)] }

/-- Ties an error domain to a registered enum type. -/
def registerErrorDomain (r : Registry) (domain : String) (enumId : TypeId)
    (enumName package : String) : Except RegistrationError Registry :=
  let errorEnum := r.canonical enumId
  match r.enumTable? errorEnum with
  | none => .error (.unknownMapping s!"enum type '{enumName}'")
  | some _ =>
    match r.domains.get? domain with
    | some existing =>
      .error (.duplicateRegistration enumName package s!"error domain '{existing.domain}'")
    | none => .ok { r with domains := r.domains.set domain ⟨domain, errorEnum, package⟩ }

/-- The registration of a built-in fundamental, under its own name. -/
def addFundamental (r : Registry) (f : Fundamental) : Registry :=
  { r with
    types := r.types.set f.type ⟨f.name, f.name, .fundamental, some (.fundamental f.strategy)⟩
    packages := r.packages.set f.name ⟨f.type, false⟩ }

/-- The registry that holds the built-in fundamentals. -/
def withFundamentals : Registry := Fundamental.all.foldl addFundamental {}

end Registry

end NativeBridge
