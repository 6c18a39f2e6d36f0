-- Registrations as they run. A call checks and writes step by step, on one
-- registry, with the names as the caller gives them and any function that
-- numbers the types; what it does as a whole follows.
import NativeBridge.Proofs.RegistryGrowth

namespace NativeBridge

/-- A registration as it runs. What it has written stays written when it fails. -/
abbrev Registering := ExceptT RegistrationError (StateM Registry)

namespace Registering

/-! ## Steps -/

def setType (type : TypeId) (entry : Registration) : Registering Unit :=
  modify fun r => { r with types := r.types.set type entry }

def setPackage (package : String) (found : PackageEntry) : Registering Unit :=
  modify fun r => { r with packages := r.packages.set package found }

def setSynonym (synonym target : TypeId) : Registering Unit :=
  modify fun r => { r with synonyms := r.synonyms.set synonym target }

def setDomain (found : ErrorDomain) : Registering Unit :=
  modify fun r => { r with domains := r.domains.set found.domain found }

section

variable {α : Type} (r : Registry)

@[simp] theorem run_throw_bind {β : Type} (e : RegistrationError) (f : β → Registering α) :
    (throw e >>= f).run.run r = (.error e, r) := rfl

@[simp] theorem run_get_bind (f : Registry → Registering α) :
    (get >>= f).run.run r = (f r).run.run r := rfl

@[simp] theorem run_modify_bind (g : Registry → Registry) (f : Unit → Registering α) :
    (modify g >>= f).run.run r = (f ()).run.run (g r) := rfl

@[simp] theorem run_ofExcept_ok_bind {β : Type} (b : β) (f : β → Registering α) :
    (MonadExcept.ofExcept (ε := RegistrationError) (.ok b) >>= f).run.run r = (f b).run.run r := rfl

end

/-! ## The calls -/

section

variable (hash : String → TypeId)

/-- The built-in type of a name, found by its number. -/
def builtin? (typeName : String) : Option Fundamental :=
  Fundamental.all.find? fun f => hash f.name == hash typeName

/-- The strategy of a registration, as `Registry.chooseStrategy` has it where
`hash` numbers the types. -/
def chooseStrategy (typeName : String) (c : Classification) (supplied : Option Strategy) :
    Except RegistrationError (Option Strategy) :=
  match c, supplied with
  | .fundamental, none =>
    match builtin? hash typeName with
    | some f => .ok (some (.fundamental f.strategy))
    | none => .error (.missingStrategy typeName c.text)
  | _, _ => Registry.chooseStrategy typeName (hash typeName) c supplied

def register (typeName package : String) (c : Classification) (supplied : Option Strategy) :
    Registering TypeId := do
  let chosen ← MonadExcept.ofExcept (chooseStrategy hash typeName c supplied)
  let r ← get
  let type := r.canonical (hash typeName)
  if let some taken := r.packages.get? package then
    throw (.duplicateRegistration typeName package (r.describePackage taken))
  match r.types.get? type with
  | some old =>
    if old.classification ≠ c then
      throw (.duplicateRegistration typeName package old.describe)
    setType type { old with
      package := package
      strategy := if supplied.isSome then chosen else old.strategy }
  | none => setType type ⟨typeName, package, c, chosen⟩
  setPackage package ⟨type, false⟩
  return type

def registerStrategy (typeName package : String) (s : Strategy) : Registering TypeId :=
  register hash typeName package s.classification (some s)

def registerEnum (typeName package : String) (values : List (Symbol Int32)) :
    Registering TypeId := do
  let table ← MonadExcept.ofExcept (SymbolTable.ofList typeName values)
  registerStrategy hash typeName package (.enumeration table)

def registerFlags (typeName package : String) (values : List (Symbol UInt32)) :
    Registering TypeId := do
  let table ← MonadExcept.ofExcept (SymbolTable.ofList typeName values)
  registerStrategy hash typeName package (.flags table)

def registerAlias (typeName aliasPackage : String) : Registering Unit := do
  let r ← get
  let type := r.canonical (hash typeName)
  if !r.types.contains type then throw (.unknownMapping s!"type '{typeName}'")
  if let some taken := r.packages.get? aliasPackage then
    throw (.duplicateRegistration typeName aliasPackage (r.describePackage taken))
  setPackage aliasPackage ⟨type, true⟩

def registerSynonym (typeName synonym : String) : Registering Unit := do
  let r ← get
  let target := r.canonical (hash typeName)
  match r.types.get? target with
  | none => throw (.unknownMapping s!"type '{typeName}'")
  | some entry =>
    if hash synonym ≠ target then
      if let some existing := r.registration? (hash synonym) then
        throw (.duplicateRegistration synonym entry.package existing.describe)
      setSynonym (hash synonym) target

def registerErrorDomain (domain enumName package : String) : Registering Unit := do
  let r ← get
  let errorEnum := r.canonical (hash enumName)
  if (r.enumTable? errorEnum).isNone then throw (.unknownMapping s!"enum type '{enumName}'")
  if let some existing := r.domains.get? domain then
    throw (.duplicateRegistration enumName package s!"error domain '{existing.domain}'")
  setDomain ⟨domain, errorEnum, package⟩

end

/-! ## What they do as a whole -/

section

variable {hash : String → TypeId} {r r' : Registry}

/-- A call that fails leaves the registry as it was. -/
def settle {α : Type} (r : Registry) :
    Except RegistrationError (α × Registry) → Except RegistrationError α × Registry
  | .ok (result, changed) => (.ok result, changed)
  | .error e => (.error e, r)

theorem run_registerAlias (hash : String → TypeId) (typeName aliasPackage : String) (r : Registry) :
    (registerAlias hash typeName aliasPackage).run.run r =
      settle r ((r.registerAlias (hash typeName) typeName aliasPackage).map ((), ·)) := by
  unfold registerAlias Registry.registerAlias
  rw [run_get_bind]
  cases hknown : r.types.contains (r.canonical (hash typeName))
  · simp only [hknown]
    rfl
  · cases hfree : r.packages.get? aliasPackage <;> simp only [hknown] <;> rfl

theorem run_registerSynonym (hash : String → TypeId) (typeName synonym : String) (r : Registry) :
    (registerSynonym hash typeName synonym).run.run r =
      settle r ((r.registerSynonym (hash typeName) typeName (hash synonym) synonym).map ((), ·)) := by
  unfold registerSynonym Registry.registerSynonym
  rw [run_get_bind]
  cases hknown : r.types.get? (r.canonical (hash typeName)) with
  | none =>
    simp only [hknown]
    rfl
  | some entry =>
    by_cases hself : hash synonym = r.canonical (hash typeName)
    · simp only [hknown, hself, ne_eq, not_true_eq_false, if_false, if_true]
      rfl
    · cases hfree : r.registration? (hash synonym) <;>
        simp only [hknown, hself, ne_eq, not_false_eq_true, if_false, if_true] <;> rfl

theorem run_registerErrorDomain (hash : String → TypeId) (domain enumName package : String)
    (r : Registry) :
    (registerErrorDomain hash domain enumName package).run.run r =
      settle r ((r.registerErrorDomain domain (hash enumName) enumName package).map ((), ·)) := by
  unfold registerErrorDomain Registry.registerErrorDomain
  rw [run_get_bind]
  cases htable : r.enumTable? (r.canonical (hash enumName)) with
  | none =>
    simp only [htable]
    rfl
  | some table =>
    cases hfree : r.domains.get? domain <;> simp only [htable] <;> rfl

theorem builtin?_ofName (typeName : String) :
    builtin? .ofName typeName = Fundamental.ofType? (.ofName typeName) := rfl

theorem chooseStrategy_of_builtin {typeName : String}
    (hbuiltin : builtin? hash typeName = Fundamental.ofType? (hash typeName)) (c : Classification)
    (supplied : Option Strategy) :
    chooseStrategy hash typeName c supplied =
      Registry.chooseStrategy typeName (hash typeName) c supplied := by
  unfold chooseStrategy
  rw [hbuiltin]
  split
  · unfold Registry.chooseStrategy
    cases Fundamental.ofType? (hash typeName) <;> rfl
  · rfl

theorem run_register_of_builtin {typeName : String}
    (hbuiltin : builtin? hash typeName = Fundamental.ofType? (hash typeName)) (package : String)
    (c : Classification) (supplied : Option Strategy) (r : Registry) :
    (register hash typeName package c supplied).run.run r =
      settle r (r.register (hash typeName) typeName package c supplied) := by
  unfold register Registry.register
  rw [chooseStrategy_of_builtin hbuiltin]
  cases hserves : Registry.chooseStrategy typeName (hash typeName) c supplied with
  | error e => rfl
  | ok chosen =>
    rw [run_ofExcept_ok_bind, run_get_bind]
    cases hfree : r.packages.get? package with
    | some taken => rfl
    | none =>
      cases hknown : r.types.get? (r.canonical (hash typeName)) with
      | none =>
        simp only [hknown]
        rfl
      | some old =>
        by_cases hsame : old.classification = c
        · simp only [hknown, hsame, ne_eq, not_true_eq_false, if_false, if_true]
          rfl
        · simp only [hknown, hsame, ne_eq, not_false_eq_true, if_false, if_true]
          rfl

/-- A registration fails and changes nothing, or files an entry under a free
package, with a strategy that serves its classification or the one that the
type had; for a type that is there already, the entry keeps what a later
registration may not change. -/
theorem register_cases (hash : String → TypeId) (typeName package : String) (c : Classification)
    (supplied : Option Strategy) (r : Registry) :
    (∃ e, (register hash typeName package c supplied).run.run r = (.error e, r)) ∨
    ∃ entry : Registration,
      (register hash typeName package c supplied).run.run r =
        (.ok (r.canonical (hash typeName)), r.file (r.canonical (hash typeName)) entry) ∧
      entry.package = package ∧ entry.classification = c ∧ r.packages.get? package = none ∧
      (chooseStrategy hash typeName entry.classification supplied = .ok entry.strategy ∨
        ∃ old, r.types.get? (r.canonical (hash typeName)) = some old ∧
          entry.strategy = old.strategy) ∧
      ∀ old, r.types.get? (r.canonical (hash typeName)) = some old →
        entry.typeName = old.typeName ∧ entry.classification = old.classification ∧
        (supplied = none → entry.strategy = old.strategy) := by
  unfold register
  cases hserves : chooseStrategy hash typeName c supplied with
  | error e => exact .inl ⟨e, rfl⟩
  | ok chosen =>
    cases hfree : r.packages.get? package with
    | some taken =>
      simp only [hfree, run_ofExcept_ok_bind, run_get_bind, run_throw_bind]
      exact .inl ⟨_, rfl⟩
    | none =>
      simp only [hfree, run_ofExcept_ok_bind, run_get_bind]
      cases hknown : r.types.get? (r.canonical (hash typeName)) with
      | none =>
        exact .inr ⟨⟨typeName, package, c, chosen⟩, rfl, rfl, rfl, trivial, .inl hserves,
          fun _ h => by simp at h⟩
      | some old =>
        by_cases hsame : old.classification = c
        · simp only [hsame, ne_eq, not_true_eq_false, if_false]
          refine .inr ⟨_, rfl, rfl, rfl, trivial, ?_, fun other hother => ?_⟩
          · cases supplied with
            | none => exact .inr ⟨old, rfl, rfl⟩
            | some s => exact .inl hserves
          · obtain rfl := Option.some.inj hother
            refine ⟨rfl, hsame.symm, ?_⟩
            rintro rfl
            rfl
        · simp only [hsame, ne_eq, not_false_eq_true, if_true, run_throw_bind]
          exact .inl ⟨_, rfl⟩

end

/-! ## Any call -/

/-- A call, with the names as the caller gives them. -/
inductive Call where
  | register (typeName package : String) (c : Classification) (supplied : Option Strategy)
  | registerStrategy (typeName package : String) (s : Strategy)
  | registerEnum (typeName package : String) (values : List (Symbol Int32))
  | registerFlags (typeName package : String) (values : List (Symbol UInt32))
  | registerAlias (typeName aliasPackage : String)
  | registerSynonym (typeName synonym : String)
  | registerErrorDomain (domain enumName package : String)

namespace Call

/-- Carries out a call. Those that register a type give its identifier. -/
def perform (hash : String → TypeId) : Call → Registering (Option TypeId)
  | register typeName package c supplied =>
    some <$> Registering.register hash typeName package c supplied
  | registerStrategy typeName package s =>
    some <$> Registering.registerStrategy hash typeName package s
  | registerEnum typeName package values =>
    some <$> Registering.registerEnum hash typeName package values
  | registerFlags typeName package values =>
    some <$> Registering.registerFlags hash typeName package values
  | registerAlias typeName aliasPackage =>
    (fun _ => none) <$> Registering.registerAlias hash typeName aliasPackage
  | registerSynonym typeName synonym =>
    (fun _ => none) <$> Registering.registerSynonym hash typeName synonym
  | registerErrorDomain domain enumName package =>
    (fun _ => none) <$> Registering.registerErrorDomain hash domain enumName package

/-- The functions of the registry that the calls stand for. -/
def apply (r : Registry) : Call → Except RegistrationError (Option TypeId × Registry)
  | register typeName package c supplied =>
    (r.register (.ofName typeName) typeName package c supplied).map fun (type, r) => (some type, r)
  | registerStrategy typeName package s =>
    (r.registerStrategy (.ofName typeName) typeName package s).map fun (type, r) => (some type, r)
  | registerEnum typeName package values =>
    (r.registerEnum (.ofName typeName) typeName package values).map fun (type, r) => (some type, r)
  | registerFlags typeName package values =>
    (r.registerFlags (.ofName typeName) typeName package values).map fun (type, r) => (some type, r)
  | registerAlias typeName aliasPackage =>
    (r.registerAlias (.ofName typeName) typeName aliasPackage).map (none, ·)
  | registerSynonym typeName synonym =>
    (r.registerSynonym (.ofName typeName) typeName (.ofName synonym) synonym).map (none, ·)
  | registerErrorDomain domain enumName package =>
    (r.registerErrorDomain domain (.ofName enumName) enumName package).map (none, ·)

theorem run_map {α β : Type} (f : α → β) (x : Registering α) (r : Registry) :
    (f <$> x).run.run r = ((x.run.run r).1.map f, (x.run.run r).2) := by
  rcases h : x.run.run r with ⟨e | a, r'⟩
  · simp [h]
    rfl
  · simp [h]
    rfl

theorem run_map_settle {α β : Type} {f : α → β} {x : Registering α} {r : Registry}
    {y : Except RegistrationError (α × Registry)} (h : x.run.run r = settle r y) :
    (f <$> x).run.run r = settle r (y.map fun (a, r) => (f a, r)) := by
  rw [run_map, h]
  cases y <;> rfl

theorem perform_ofName (call : Call) (r : Registry) :
    (call.perform .ofName).run.run r = settle r (call.apply r) := by
  cases call with
  | register typeName package c supplied =>
    exact run_map_settle (run_register_of_builtin (builtin?_ofName typeName) package c supplied r)
  | registerStrategy typeName package s =>
    exact run_map_settle (run_register_of_builtin (builtin?_ofName typeName) package _ _ r)
  | registerEnum typeName package values =>
    refine run_map_settle ?_
    unfold Registering.registerEnum Registry.registerEnum
    cases SymbolTable.ofList typeName values with
    | error e => rfl
    | ok table =>
      exact run_register_of_builtin (builtin?_ofName typeName) package .enumeration
        (some (.enumeration table)) r
  | registerFlags typeName package values =>
    refine run_map_settle ?_
    unfold Registering.registerFlags Registry.registerFlags
    cases SymbolTable.ofList typeName values with
    | error e => rfl
    | ok table =>
      exact run_register_of_builtin (builtin?_ofName typeName) package .flags
        (some (.flags table)) r
  | registerAlias typeName aliasPackage =>
    refine (run_map_settle (run_registerAlias .ofName typeName aliasPackage r)).trans ?_
    dsimp only [apply]
    cases r.registerAlias (.ofName typeName) typeName aliasPackage <;> rfl
  | registerSynonym typeName synonym =>
    refine (run_map_settle (run_registerSynonym .ofName typeName synonym r)).trans ?_
    dsimp only [apply]
    cases r.registerSynonym (.ofName typeName) typeName (.ofName synonym) synonym <;> rfl
  | registerErrorDomain domain enumName package =>
    refine (run_map_settle (run_registerErrorDomain .ofName domain enumName package r)).trans ?_
    dsimp only [apply]
    cases r.registerErrorDomain domain (.ofName enumName) enumName package <;> rfl

/-! ## What a call does -/

/-- The type name and the package of a call that registers a type. -/
def filing? : Call → Option (String × String)
  | register typeName package _ _ | registerStrategy typeName package _
  | registerEnum typeName package _ | registerFlags typeName package _ => some (typeName, package)
  | _ => none

/-- The classification that a call registers its type in. -/
def classification? : Call → Option Classification
  | register _ _ c _ => some c
  | registerStrategy _ _ s => some s.classification
  | registerEnum _ _ _ => some .enumeration
  | registerFlags _ _ _ => some .flags
  | _ => none

/-- The package of a call that registers an alias. -/
def alias? : Call → Option String
  | registerAlias _ aliasPackage => some aliasPackage
  | _ => none

/-- What a call that succeeds makes of a registry. -/
inductive Does (hash : String → TypeId) (r : Registry) : Call → Registry → Prop where
  | files {call : Call} {typeName package : String} (hcall : call.filing? = some (typeName, package))
    (halias : call.alias? = none) (entry : Registration) (hpackage : entry.package = package)
    (hclass : call.classification? = some entry.classification)
    (hfree : r.packages.get? package = none)
    (hsame : ∀ old, r.types.get? (r.canonical (hash typeName)) = some old →
      entry.typeName = old.typeName ∧ entry.classification = old.classification)
    (hserves : (∃ supplied,
        chooseStrategy hash typeName entry.classification supplied = .ok entry.strategy) ∨
      ∃ old, r.types.get? (r.canonical (hash typeName)) = some old ∧
        entry.strategy = old.strategy) :
    Does hash r call (r.file (r.canonical (hash typeName)) entry)
  | names (typeName aliasPackage : String)
    (hknown : (r.types.get? (r.canonical (hash typeName))).isSome)
    (hfree : r.packages.get? aliasPackage = none) :
    Does hash r (.registerAlias typeName aliasPackage)
      { r with packages := r.packages.set aliasPackage ⟨r.canonical (hash typeName), true⟩ }
  | nothing (typeName synonym : String)
    (hknown : (r.types.get? (r.canonical (hash typeName))).isSome)
    (hself : hash synonym = r.canonical (hash typeName)) :
    Does hash r (.registerSynonym typeName synonym) r
  | equates (typeName synonym : String)
    (hknown : (r.types.get? (r.canonical (hash typeName))).isSome)
    (hfree : r.registration? (hash synonym) = none) :
    Does hash r (.registerSynonym typeName synonym)
      { r with synonyms := r.synonyms.set (hash synonym) (r.canonical (hash typeName)) }
  | ties (domain enumName package : String)
    (htable : (r.enumTable? (r.canonical (hash enumName))).isSome)
    (hfree : r.domains.get? domain = none) :
    Does hash r (.registerErrorDomain domain enumName package)
      { r with domains := r.domains.set domain ⟨domain, r.canonical (hash enumName), package⟩ }

variable {hash : String → TypeId}

theorem register_does {call : Call} {typeName package : String}
    (hcall : call.filing? = some (typeName, package)) (halias : call.alias? = none)
    {c : Classification} (hclass : call.classification? = some c) (supplied : Option Strategy)
    (r : Registry) :
    (∃ e, (some <$> Registering.register hash typeName package c supplied).run.run r =
      (.error e, r)) ∨
    ∃ result r', (some <$> Registering.register hash typeName package c supplied).run.run r =
      (.ok result, r') ∧ call.Does hash r r' := by
  rcases register_cases hash typeName package c supplied r with
    ⟨e, hrun⟩ | ⟨entry, hrun, hpackage, rfl, hfree, hserves, hsame⟩
  · exact .inl ⟨e, by rw [run_map, hrun]; rfl⟩
  · refine .inr ⟨_, _, by rw [run_map, hrun]; rfl,
      .files hcall halias entry hpackage hclass hfree ?_
        (hserves.imp_left fun hchosen => ⟨_, hchosen⟩)⟩
    intro old hold
    obtain ⟨hname, hclass, -⟩ := hsame old hold
    exact ⟨hname, hclass⟩

theorem registerAlias_does {r r' : Registry} {typeName aliasPackage : String}
    (h : r.registerAlias (hash typeName) typeName aliasPackage = .ok r') :
    (registerAlias typeName aliasPackage).Does hash r r' := by
  unfold Registry.registerAlias at h
  dsimp only at h
  split at h
  · rename_i hknown
    split at h
    · exact absurd h (by simp)
    · rename_i hfree
      obtain rfl := Except.ok.inj h
      exact .names typeName aliasPackage hknown hfree
  · exact absurd h (by simp)

theorem registerSynonym_does {r r' : Registry} {typeName synonym : String}
    (h : r.registerSynonym (hash typeName) typeName (hash synonym) synonym = .ok r') :
    (registerSynonym typeName synonym).Does hash r r' := by
  unfold Registry.registerSynonym at h
  dsimp only at h
  split at h
  · exact absurd h (by simp)
  · rename_i entry hknown
    split at h
    · rename_i hself
      obtain rfl := Except.ok.inj h
      exact .nothing typeName synonym (by rw [hknown]; rfl) hself
    · split at h
      · exact absurd h (by simp)
      · rename_i hfree
        obtain rfl := Except.ok.inj h
        exact .equates typeName synonym (by rw [hknown]; rfl) hfree

theorem registerErrorDomain_does {r r' : Registry} {domain enumName package : String}
    (h : r.registerErrorDomain domain (hash enumName) enumName package = .ok r') :
    (registerErrorDomain domain enumName package).Does hash r r' := by
  unfold Registry.registerErrorDomain at h
  dsimp only at h
  split at h
  · exact absurd h (by simp)
  · rename_i table htable
    split at h
    · exact absurd h (by simp)
    · rename_i hfree
      obtain rfl := Except.ok.inj h
      exact .ties domain enumName package (by rw [htable]; rfl) hfree

/-- A call fails and changes nothing, or does what calls of its kind do. -/
theorem perform_cases (hash : String → TypeId) (call : Call) (r : Registry) :
    (∃ e, (call.perform hash).run.run r = (.error e, r)) ∨
    ∃ result r', (call.perform hash).run.run r = (.ok result, r') ∧ call.Does hash r r' := by
  -- the calls that answer with nothing go through the function of the registry
  have hsettled : ∀ {program : Registering Unit} {done : Except RegistrationError Registry},
      program.run.run r = settle r (done.map ((), ·)) → (∀ r', done = .ok r' → call.Does hash r r') →
      (∃ e, ((fun _ => (none : Option TypeId)) <$> program).run.run r = (.error e, r)) ∨
      ∃ result r', ((fun _ => (none : Option TypeId)) <$> program).run.run r = (.ok result, r') ∧
        call.Does hash r r' := by
    intro program done hrun hdoes
    rw [run_map, hrun]
    cases done with
    | error e => exact .inl ⟨e, rfl⟩
    | ok r' => exact .inr ⟨none, r', rfl, hdoes r' rfl⟩
  cases call with
  | register _ _ c supplied => exact register_does rfl rfl rfl supplied r
  | registerStrategy _ _ s => exact register_does rfl rfl rfl (some s) r
  | registerEnum typeName package values =>
    have hcall : (registerEnum typeName package values).filing? = some (typeName, package) := rfl
    dsimp only [perform, Registering.registerEnum]
    cases SymbolTable.ofList typeName values with
    | error e => exact .inl ⟨e, rfl⟩
    | ok table => exact register_does hcall rfl rfl (some (.enumeration table)) r
  | registerFlags typeName package values =>
    have hcall : (registerFlags typeName package values).filing? = some (typeName, package) := rfl
    dsimp only [perform, Registering.registerFlags]
    cases SymbolTable.ofList typeName values with
    | error e => exact .inl ⟨e, rfl⟩
    | ok table => exact register_does hcall rfl rfl (some (.flags table)) r
  | registerAlias => exact hsettled (run_registerAlias hash _ _ r) fun r' => registerAlias_does
  | registerSynonym => exact hsettled (run_registerSynonym hash _ _ r) fun r' => registerSynonym_does
  | registerErrorDomain =>
    exact hsettled (run_registerErrorDomain hash _ _ _ r) fun r' => registerErrorDomain_does

end Call

end Registering

end NativeBridge
