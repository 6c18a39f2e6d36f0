-- Registrations. What a registration that succeeds adds to a registry, kind by
-- kind; and that a synonym always stands, in one step, for a registered type.
import NativeBridge.Proofs.Laws

namespace NativeBridge

namespace Registry

variable {r r' : Registry} {id type target : TypeId}

/-! ## What a registration does -/

/-- Puts a registration under a type, with its package. -/
def file (r : Registry) (type : TypeId) (entry : Registration) : Registry :=
  { r with
    types := r.types.set type entry
    packages := r.packages.set entry.package ⟨type, false⟩ }

/-- A registration that succeeds, and what it makes of a registry. -/
inductive Registers (r : Registry) : Registry → Prop where
  | fresh (id : TypeId) (typeName package : String) (c : Classification)
    (supplied chosen : Option Strategy)
    (serves : chooseStrategy typeName id c supplied = .ok chosen)
    (free : r.packages.get? package = none) (absent : r.types.get? (r.canonical id) = none) :
    Registers r (r.file (r.canonical id) ⟨typeName, package, c, chosen⟩)
  | again (id : TypeId) (typeName package : String) (supplied chosen : Option Strategy)
    (old : Registration)
    (serves : chooseStrategy typeName id old.classification supplied = .ok chosen)
    (free : r.packages.get? package = none) (known : r.types.get? (r.canonical id) = some old) :
    Registers r (r.file (r.canonical id)
      { old with package, strategy := if supplied.isSome then chosen else old.strategy })
  | otherPackage (id : TypeId) (package : String) (known : (r.types.get? (r.canonical id)).isSome)
    (free : r.packages.get? package = none) :
    Registers r { r with packages := r.packages.set package ⟨r.canonical id, true⟩ }
  | unchanged : Registers r r
  | synonym (id other : TypeId) (known : (r.types.get? (r.canonical id)).isSome)
    (free : r.registration? other = none) :
    Registers r { r with synonyms := r.synonyms.set other (r.canonical id) }
  | domain (domain : String) (id : TypeId) (package : String)
    (table : (r.enumTable? (r.canonical id)).isSome) (free : r.domains.get? domain = none) :
    Registers r { r with domains := r.domains.set domain ⟨domain, r.canonical id, package⟩ }
  | sink (id : TypeId) (sink : SinkFunction) : Registers r (r.registerSink id sink)

theorem register_ok {typeName package : String} {c : Classification} {supplied : Option Strategy}
    (h : r.register id typeName package c supplied = .ok (type, r')) : r.Registers r' := by
  unfold register at h
  obtain ⟨chosen, hserves, hrest⟩ := bind_eq_ok.mp h
  cases hfree : r.packages.get? package with
  | some taken =>
    rw [hfree] at hrest
    exact absurd hrest throw_ne_ok
  | none =>
    rw [hfree] at hrest
    cases hknown : r.types.get? (r.canonical id) with
    | none =>
      simp only [hknown] at hrest
      cases hrest
      exact .fresh id typeName package c supplied chosen hserves hfree hknown
    | some old =>
      simp only [hknown] at hrest
      split at hrest
      · rename_i hsame
        subst hsame
        cases hrest
        exact .again id typeName package supplied chosen old hserves hfree hknown
      · exact absurd hrest throw_ne_ok

theorem registerEnum_ok {typeName package : String} {values : List (Symbol Int32)}
    (h : r.registerEnum id typeName package values = .ok (type, r')) : r.Registers r' := by
  unfold registerEnum at h
  obtain ⟨table, -, h⟩ := bind_eq_ok.mp h
  exact register_ok h

theorem registerFlags_ok {typeName package : String} {values : List (Symbol UInt32)}
    (h : r.registerFlags id typeName package values = .ok (type, r')) : r.Registers r' := by
  unfold registerFlags at h
  obtain ⟨table, -, h⟩ := bind_eq_ok.mp h
  exact register_ok h

theorem registerAlias_ok {typeName aliasPackage : String}
    (h : r.registerAlias id typeName aliasPackage = .ok r') : r.Registers r' := by
  unfold registerAlias at h
  dsimp only at h
  split at h
  · rename_i hknown
    split at h
    · exact absurd h (by simp)
    · rename_i hfree
      obtain rfl := Except.ok.inj h
      exact .otherPackage id aliasPackage hknown hfree
  · exact absurd h (by simp)

theorem registerSynonym_ok {typeName synonym : String} {other : TypeId}
    (h : r.registerSynonym id typeName other synonym = .ok r') : r.Registers r' := by
  unfold registerSynonym at h
  dsimp only at h
  split at h
  · exact absurd h (by simp)
  · rename_i entry hknown
    split at h
    · obtain rfl := Except.ok.inj h
      exact .unchanged
    · split at h
      · exact absurd h (by simp)
      · rename_i hfree
        obtain rfl := Except.ok.inj h
        exact .synonym id other (by rw [hknown]; rfl) hfree

theorem registerErrorDomain_ok {domain enumName package : String}
    (h : r.registerErrorDomain domain id enumName package = .ok r') : r.Registers r' := by
  unfold registerErrorDomain at h
  dsimp only at h
  split at h
  · exact absurd h (by simp)
  · rename_i table htable
    split at h
    · exact absurd h (by simp)
    · rename_i hfree
      obtain rfl := Except.ok.inj h
      exact .domain domain id package (by rw [htable]; rfl) hfree

/-! ## Synonyms -/

/-- What synonyms keep to: each stands for a registered type, and is none
itself. -/
structure Sound (r : Registry) : Prop where
  registered : ∀ {id target}, r.synonyms.get? id = some target → (r.types.get? target).isSome
  apart : ∀ {id}, (r.synonyms.get? id).isSome → r.types.get? id = none

theorem empty_sound : ({} : Registry).Sound where
  registered h := by simp at h
  apart h := by simp at h

theorem canonical_of_none (h : r.synonyms.get? id = none) : r.canonical id = id := by
  unfold canonical
  rw [h, Option.getD_none]

theorem canonical_of_some (h : r.synonyms.get? id = some target) : r.canonical id = target := by
  unfold canonical
  rw [h, Option.getD_some]

/-- What a type stands for is no synonym. -/
theorem Sound.not_synonym (h : r.Sound) (id : TypeId) :
    r.synonyms.get? (r.canonical id) = none := by
  cases hid : r.synonyms.get? id with
  | none => rw [canonical_of_none hid, hid]
  | some target =>
    rw [canonical_of_some hid]
    by_contra hne
    have habsent := h.apart (Option.isSome_iff_ne_none.mpr hne)
    have hregistered := h.registered hid
    rw [habsent] at hregistered
    exact Bool.noConfusion hregistered

/-- A synonym resolves in one step. -/
theorem Sound.canonical_canonical (h : r.Sound) (id : TypeId) :
    r.canonical (r.canonical id) = r.canonical id := canonical_of_none (h.not_synonym id)

/-- What has no registration is no synonym. -/
theorem Sound.types_of_unregistered (h : r.Sound) (hid : r.registration? id = none) :
    r.types.get? id = none := by
  cases hsynonym : r.synonyms.get? id with
  | none =>
    unfold registration? at hid
    rwa [canonical_of_none hsynonym] at hid
  | some target => exact h.apart (by rw [hsynonym]; rfl)

theorem Sound.file (h : r.Sound) (id : TypeId) (entry : Registration) :
    (r.file (r.canonical id) entry).Sound where
  registered {other target} hother := by
    change ((r.types.set (r.canonical id) entry).get? target).isSome
    by_cases htarget : target = r.canonical id
    · subst htarget
      rw [Table.get?_set_self]
      rfl
    · rw [Table.get?_set_ne _ htarget]
      exact h.registered hother
  apart {other} hother := by
    change (r.synonyms.get? other).isSome at hother
    change (r.types.set (r.canonical id) entry).get? other = none
    have hne : other ≠ r.canonical id := by
      rintro rfl
      rw [h.not_synonym id] at hother
      exact Bool.noConfusion hother
    rw [Table.get?_set_ne _ hne]
    exact h.apart hother

theorem Registers.sound (hstep : r.Registers r') (h : r.Sound) : r'.Sound := by
  cases hstep with
  | fresh id => exact h.file id _
  | again id => exact h.file id _
  | otherPackage => exact ⟨h.registered, h.apart⟩
  | unchanged => exact h
  | domain => exact ⟨h.registered, h.apart⟩
  | sink => exact ⟨h.registered, h.apart⟩
  | synonym id other hknown hfree =>
    refine ⟨fun {id' target} hid' => ?_, fun {id'} hid' => ?_⟩
    · by_cases hother : id' = other
      · subst hother
        rw [Table.get?_set_self] at hid'
        obtain rfl := Option.some.inj hid'
        exact hknown
      · rw [Table.get?_set_ne _ hother] at hid'
        exact h.registered hid'
    · by_cases hother : id' = other
      · subst hother
        exact h.types_of_unregistered hfree
      · rw [Table.get?_set_ne _ hother] at hid'
        exact h.apart hid'

theorem withFundamentals_sound : withFundamentals.Sound := by
  have hsynonyms : ∀ (fundamentals : List Fundamental) (r : Registry),
      (fundamentals.foldl addFundamental r).synonyms = r.synonyms := by
    intro fundamentals
    induction fundamentals with
    | nil => exact fun r => rfl
    | cons f rest ih => exact fun r => ih (r.addFundamental f)
  have hnone : ∀ id, withFundamentals.synonyms.get? id = none := by
    intro id
    rw [withFundamentals, hsynonyms]
    rfl
  refine ⟨fun {id target} h => ?_, fun {id} h => ?_⟩
  · rw [hnone id] at h
    exact absurd h (by simp)
  · rw [hnone id] at h
    exact absurd h (by simp)

end Registry

theorem RegistryChange.registers {change : RegistryChange} {r r' : Registry}
    (h : change.apply r = .ok r') : r.Registers r' := by
  have hpair : ∀ {result : Except RegistrationError (TypeId × Registry)},
      result.map (·.2) = .ok r' → ∃ type, result = .ok (type, r') := by
    rintro (e | ⟨type, registry⟩) hmap
    · exact absurd hmap (by simp [Except.map])
    · obtain rfl := Except.ok.inj hmap
      exact ⟨type, rfl⟩
  cases change with
  | register => exact (hpair h).elim fun _ => Registry.register_ok
  | registerEnum => exact (hpair h).elim fun _ => Registry.registerEnum_ok
  | registerFlags => exact (hpair h).elim fun _ => Registry.registerFlags_ok
  | registerAlias => exact Registry.registerAlias_ok h
  | registerSynonym => exact Registry.registerSynonym_ok h
  | registerErrorDomain => exact Registry.registerErrorDomain_ok h
  | registerSink id sink =>
    obtain rfl := Except.ok.inj h
    exact .sink id sink

/-! ## In every run -/

/-- What the first registries have, and what every change of a registry keeps. -/
structure Registry.Persists (P : Registry → Prop) : Prop where
  empty : P {}
  fundamentals : P .withFundamentals
  change : ∀ {change : RegistryChange} {r r' : Registry}, change.apply r = .ok r' → P r → P r'

section

variable {P : Registry → Prop} {a : System Ledger}

theorem Registry.Persists.registry (hP : Persists P) (h : ∀ r ∈ a.registries, P r)
    (id : RegistryId) : P (a.registry id) := by
  unfold System.registry
  cases hfound : a.registries[id.number]? with
  | none => exact hP.empty
  | some r => exact h r (Array.mem_of_getElem? hfound)

theorem Registry.Persists.changeRegistry (hP : Persists P) (h : ∀ r ∈ a.registries, P r)
    (id : RegistryId) (change : RegistryChange) :
    ∀ r ∈ ((Arrangement.changeRegistry id change).apply a).registries, P r := by
  unfold Arrangement.apply
  dsimp only
  split
  · rename_i registry hdone
    intro r hr
    rcases Array.mem_or_eq_of_mem_setIfInBounds hr with hr | rfl
    · exact h r hr
    · exact hP.change hdone (hP.registry h id)
  · exact h

/-- What persists is kept by every law-abiding change, and seen meanwhile. -/
theorem Registry.Persists.isLaw (hP : Persists P) :
    IsLaw (fun a b => (∀ r ∈ a.registries, P r) → ∀ r ∈ b.registries, P r)
      fun a m _ => (∀ r ∈ a.registries, P r) → ∀ r ∈ m.registries, P r where
  still h hall := by
    rw [h.registries]
    exact hall
  heap _ hall := hall
  newRegistry a fundamentals hall r hr := by
    rcases Array.mem_push.mp hr with hr | rfl
    · exact hall r hr
    · cases fundamentals
      · exact hP.empty
      · exact hP.fundamentals
  changeRegistry a id change hall := hP.changeRegistry hall id change
  emission h := h
  trans h h' hall := h' (h hall)
  seen a hall := hall
  after h h' hall := h' (h hall)
  before h _ := h
  during h := h

/-- Every registry that outside code can come to has what persists. -/
theorem World.Reached.of_persists {τ : Type} {c : Conduct} {s : World τ} (h : s.Reached c)
    (hP : Registry.Persists P) (r : RuntimeId) : P (s.registryOf r) := by
  obtain ⟨b, hseen⟩ := h.now.since hP.isLaw
  have hstart : ∀ r ∈ (World.start ()).moment.registries, P r :=
    fun r hr => absurd hr (Array.not_mem_empty r)
  exact hP.registry (hseen hstart) (s.bridge r).registry

end

/-- All registries of a moment keep their synonyms so. -/
def System.RegistriesSound (a : System Ledger) : Prop := ∀ r ∈ a.registries, Registry.Sound r

theorem Registry.sound_persists : Registry.Persists Registry.Sound where
  empty := empty_sound
  fundamentals := withFundamentals_sound
  change hdone := (RegistryChange.registers hdone).sound

theorem System.RegistriesSound.registry {a : System Ledger} (h : a.RegistriesSound)
    (id : RegistryId) : (a.registry id).Sound := Registry.sound_persists.registry h id

/-- Synonyms are kept so by every law-abiding change, and seen so meanwhile. -/
theorem registries_sound :
    IsLaw (fun a b => a.RegistriesSound → b.RegistriesSound)
      fun a m _ => a.RegistriesSound → m.RegistriesSound := Registry.sound_persists.isLaw

/-- In every registry that outside code can come to, a synonym stands for a
registered type, and is none itself. -/
theorem World.Reached.registryOf_sound {τ : Type} {c : Conduct} {s : World τ} (h : s.Reached c)
    (r : RuntimeId) : (s.registryOf r).Sound := h.of_persists Registry.sound_persists r

end NativeBridge
