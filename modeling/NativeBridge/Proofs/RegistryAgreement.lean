-- What the entries of a registry agree on. A type has a strategy of the kind of
-- its classification, or none if such types have none; an error domain has the
-- table of an enum. It is so in whatever way a registry arose.
import NativeBridge.Proofs.RegistryHistories

namespace NativeBridge

/-! ## Strategies that fit -/

/-- The strategies that types of a classification may have: one of the same
kind, or none where values need none. -/
inductive Classification.Takes : Classification → Option Strategy → Prop where
  | fundamental (functions : FundamentalStrategy) :
    Takes .fundamental (some (.fundamental functions))
  | boxed (functions : BoxedStrategy) : Takes .boxed (some (.boxed functions))
  | enumeration (table : EnumTable) : Takes .enumeration (some (.enumeration table))
  | flags (table : FlagsTable) : Takes .flags (some (.flags table))
  | object : Takes .object none
  | paramSpec : Takes .paramSpec none
  | variant : Takes .variant none

theorem Strategy.takes (s : Strategy) : s.classification.Takes (some s) := by
  cases s with
  | fundamental functions => exact .fundamental functions
  | boxed functions => exact .boxed functions
  | enumeration table => exact .enumeration table
  | flags table => exact .flags table

theorem Registry.takes_of_chooseStrategy {typeName : String} {id : TypeId} {c : Classification}
    {supplied chosen : Option Strategy}
    (h : chooseStrategy typeName id c supplied = .ok chosen) : c.Takes chosen := by
  unfold chooseStrategy at h
  cases supplied with
  | some s =>
    dsimp only at h
    split at h
    · rename_i hs
      obtain rfl := Except.ok.inj h
      exact hs ▸ s.takes
    · exact absurd h (by simp)
  | none =>
    cases c with
    | fundamental =>
      dsimp only at h
      split at h
      · obtain rfl := Except.ok.inj h
        exact .fundamental _
      · exact absurd h (by simp)
    | enumeration | flags => exact absurd h (by simp)
    | boxed | object | paramSpec | variant =>
      obtain rfl := Except.ok.inj h
      constructor

theorem Registering.takes_of_chooseStrategy {hash : String → TypeId} {typeName : String}
    {c : Classification} {supplied chosen : Option Strategy}
    (h : chooseStrategy hash typeName c supplied = .ok chosen) : c.Takes chosen := by
  unfold chooseStrategy at h
  split at h
  · split at h
    · obtain rfl := Except.ok.inj h
      exact .fundamental _
    · exact absurd h (by simp)
  · exact Registry.takes_of_chooseStrategy h

namespace Registration

variable {entry : Registration}

/-- The type has a strategy as its classification takes it. -/
def Agrees (entry : Registration) : Prop := entry.classification.Takes entry.strategy

/-- Only enum types have the table of an enum, and each has one. -/
theorem Agrees.enumTable? (h : entry.Agrees) :
    entry.enumTable?.isSome ↔ entry.classification = .enumeration := by
  obtain ⟨typeName, package, c, strategy⟩ := entry
  unfold Agrees at h
  dsimp only at h ⊢
  cases h <;> simp [Registration.enumTable?]

end Registration

/-! ## Registries that agree -/

namespace Registry

variable {r r' : Registry} {id : TypeId}

/-- What the entries of a registry agree on. -/
structure Agrees (r : Registry) : Prop where
  sound : r.Sound
  strategies : ∀ {type entry}, r.types.get? type = some entry → entry.Agrees
  domains : ∀ {name found}, r.domains.get? name = some found →
    found.domain = name ∧ (r.enumTable? found.errorEnum).isSome

theorem enumTable?_isSome
    (h : ∀ {type entry}, r.types.get? type = some entry → entry.Agrees) :
    (r.enumTable? id).isSome ↔
      ∃ info, r.resolve id = some info ∧ info.entry.classification = .enumeration := by
  unfold Registry.enumTable? Registry.resolve
  cases hentry : r.registration? id with
  | none => simp
  | some entry => simpa using (h hentry).enumTable?

namespace Agrees

theorem entry (h : r.Agrees) {info : Resolved} (hinfo : r.resolve id = some info) :
    info.entry.Agrees := by
  obtain ⟨found, hfound, rfl⟩ := Option.map_eq_some_iff.mp hinfo
  exact h.strategies hfound

theorem tableOfDomain (h : r.Agrees) {name : String} {found : ErrorDomain}
    (hfound : r.domains.get? name = some found) :
    ∃ table, r.domainTable? name = some table := by
  unfold Registry.domainTable?
  rw [hfound]
  exact Option.isSome_iff_exists.mp (h.domains hfound).2

/-- A registry that keeps what there was and adds no domain agrees as the one
before did, if its types do. -/
theorem of_keeps (h : r.Agrees) (hsound : r'.Sound) (hkeeps : r.Keeps r')
    (hstrategies : ∀ {type entry}, r'.types.get? type = some entry → entry.Agrees)
    (hdomains : r'.domains = r.domains) : r'.Agrees where
  sound := hsound
  strategies := hstrategies
  domains {name found} hfound := by
    rw [hdomains] at hfound
    obtain ⟨hname, htable⟩ := h.domains hfound
    -- the type of the enum is an enum still, though its table may be another
    obtain ⟨info, hinfo, hclass⟩ := (enumTable?_isSome h.strategies).mp htable
    obtain ⟨info', hinfo', -, hsame⟩ := hkeeps.resolve hsound hinfo
    exact ⟨hname, (enumTable?_isSome hstrategies).mpr ⟨info', hinfo', hsame.trans hclass⟩⟩

theorem empty : Registry.Agrees {} where
  sound := empty_sound
  strategies h := by simp at h
  domains h := by simp at h

theorem file_strategies (h : ∀ {type entry}, r.types.get? type = some entry → entry.Agrees)
    {type : TypeId} {entry : Registration} (hentry : entry.Agrees) {other : TypeId}
    {found : Registration} (hfound : (r.file type entry).types.get? other = some found) :
    found.Agrees := by
  change (r.types.set type entry).get? other = some found at hfound
  by_cases hother : other = type
  · subst hother
    rw [Table.get?_set_self] at hfound
    exact Option.some.inj hfound ▸ hentry
  · rw [Table.get?_set_ne _ hother] at hfound
    exact h hfound

end Agrees

end Registry

namespace Registering

variable {hash : String → TypeId} {r r' : Registry}

/-! ## Calls -/

theorem Call.Does.agrees {call : Call} (h : call.Does hash r r') (hr : r.Agrees) : r'.Agrees := by
  have hsound := h.sound hr.sound
  have hkeeps := h.keeps hr.sound
  cases h with
  | files hcall halias entry hpackage hclass hfree hsame hserves =>
    have hentry : entry.Agrees := by
      rcases hserves with ⟨supplied, hchosen⟩ | ⟨old, hold, hstrategy⟩
      · exact takes_of_chooseStrategy hchosen
      · have hagrees := hr.strategies hold
        unfold Registration.Agrees at hagrees ⊢
        rw [hstrategy, (hsame old hold).2]
        exact hagrees
    exact hr.of_keeps hsound hkeeps (Registry.Agrees.file_strategies hr.strategies hentry) rfl
  | names => exact hr.of_keeps hsound hkeeps hr.strategies rfl
  | nothing => exact hr
  | equates => exact hr.of_keeps hsound hkeeps hr.strategies rfl
  | ties domain enumName package htable hfree =>
    refine ⟨hsound, hr.strategies, fun {name found} hfound => ?_⟩
    by_cases hname : name = domain
    · subst hname
      rw [Table.get?_set_self] at hfound
      obtain rfl := Option.some.inj hfound
      exact ⟨rfl, htable⟩
    · rw [Table.get?_set_ne _ hname] at hfound
      exact hr.domains hfound

theorem next_agrees (call : Call) (hr : r.Agrees) : (next hash r call).Agrees := by
  unfold next
  rcases call.perform_cases hash r with ⟨e, hrun⟩ | ⟨result, r', hrun, hdoes⟩
  · rw [hrun]
    exact hr
  · rw [hrun]
    exact hdoes.agrees hr

theorem Origin.registry_agrees (origin : Origin) : (origin.registry hash).Agrees := by
  have hsound : (origin.registry hash).Sound := (Coherent.origin hash origin).sound
  cases origin with
  | empty => exact .empty
  | fundamentals =>
    have hfold : ∀ (rest : List Fundamental) {start : Registry},
        (∀ {type entry}, start.types.get? type = some entry → entry.Agrees) →
        start.domains = {} →
        (∀ {type entry}, (rest.foldl (addFundamental hash) start).types.get? type = some entry →
          entry.Agrees) ∧ (rest.foldl (addFundamental hash) start).domains = {} := by
      intro rest
      induction rest with
      | nil => exact fun h hdomains => ⟨h, hdomains⟩
      | cons f rest ih =>
        intro start h hdomains
        have hf : Registration.Agrees
            ⟨f.name, f.name, .fundamental, some (.fundamental f.strategy)⟩ :=
          Classification.Takes.fundamental f.strategy
        exact ih (Registry.Agrees.file_strategies h hf) hdomains
    obtain ⟨hstrategies, hdomains⟩ :=
      hfold Fundamental.all Registry.Agrees.empty.strategies rfl
    refine ⟨hsound, hstrategies, fun {name found} hfound => ?_⟩
    change (Fundamental.all.foldl (addFundamental hash) {}).domains.get? name = _ at hfound
    rw [hdomains] at hfound
    exact absurd hfound (by simp)

end Registering

/-! ## Registries that arise -/

/-- The registries that calls lead to, where `hash` numbers the types. -/
inductive Registry.Arises (hash : String → TypeId) : Registry → Prop where
  | origin (origin : Registering.Origin) : Arises hash (origin.registry hash)
  | call {r : Registry} (before : Arises hash r) (call : Registering.Call) :
    Arises hash (Registering.next hash r call)
  | sink {r : Registry} (before : Arises hash r) (type : TypeId) (sink : SinkFunction) :
    Arises hash (r.registerSink type sink)

theorem Registry.Arises.agrees {hash : String → TypeId} {r : Registry} (h : r.Arises hash) :
    r.Agrees := by
  induction h with
  | origin origin => exact origin.registry_agrees
  | call _ call ih => exact Registering.next_agrees call ih
  | sink _ type sink ih => exact ⟨⟨ih.sound.registered, ih.sound.apart⟩, ih.strategies, ih.domains⟩

theorem Registering.next_ofName {call : Call} {r r' : Registry} {result : Option TypeId}
    (h : call.apply r = .ok (result, r')) : next .ofName r call = r' := by
  unfold next
  rw [call.perform_ofName, h]
  rfl

theorem RegistryChange.arises {change : RegistryChange} {r r' : Registry}
    (h : change.apply r = .ok r') (hr : r.Arises .ofName) : r'.Arises .ofName := by
  have hcall : ∀ {call : Registering.Call} {result : Option TypeId},
      call.apply r = .ok (result, r') → r'.Arises .ofName := by
    intro call result hresult
    rw [← Registering.next_ofName hresult]
    exact hr.call call
  have hpair : ∀ (call : Registering.Call) {done : Except RegistrationError (TypeId × Registry)},
      call.apply r = done.map (fun p => (some p.1, p.2)) → done.map (·.2) = .ok r' →
      r'.Arises .ofName := by
    intro call done hdone hmap
    obtain ⟨⟨type, registry⟩, rfl, rfl⟩ := map_eq_ok.mp hmap
    exact hcall hdone
  have hunit : ∀ (call : Registering.Call) {done : Except RegistrationError Registry},
      call.apply r = done.map (none, ·) → done = .ok r' → r'.Arises .ofName := by
    rintro call done hdone rfl
    exact hcall hdone
  cases change with
  | register typeName package c strategy =>
    exact hpair (.register typeName package c strategy) rfl h
  | registerEnum typeName package values =>
    exact hpair (.registerEnum typeName package values) rfl h
  | registerFlags typeName package values =>
    exact hpair (.registerFlags typeName package values) rfl h
  | registerAlias typeName aliasPackage =>
    exact hunit (.registerAlias typeName aliasPackage) rfl h
  | registerSynonym typeName synonym =>
    exact hunit (.registerSynonym typeName synonym) rfl h
  | registerErrorDomain domain enumName package =>
    exact hunit (.registerErrorDomain domain enumName package) rfl h
  | registerSink type sink =>
    obtain rfl := Except.ok.inj h
    exact hr.sink type sink

/-! ## In every run -/

theorem Registry.arises_persists : Registry.Persists (Registry.Arises .ofName) where
  empty := .origin .empty
  fundamentals := .origin .fundamentals
  change hdone := RegistryChange.arises hdone

/-- All registries of a moment arose from calls. -/
def System.RegistriesArise (a : System Ledger) : Prop :=
  ∀ r ∈ a.registries, Registry.Arises .ofName r

/-- They do so in every law-abiding change, and whenever someone looks. -/
theorem registries_arise :
    IsLaw (fun a b => a.RegistriesArise → b.RegistriesArise)
      fun a m _ => a.RegistriesArise → m.RegistriesArise := Registry.arises_persists.isLaw

/-- Every registry that outside code can come to arose from calls. -/
theorem World.Reached.registryOf_arises {τ : Type} {c : Conduct} {s : World τ} (h : s.Reached c)
    (r : RuntimeId) : (s.registryOf r).Arises .ofName := h.of_persists Registry.arises_persists r

end NativeBridge
