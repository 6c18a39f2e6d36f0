-- Whole histories of registrations. Calls come in any order, and some fail;
-- after each, what the others have registered is there, the primary package of a
-- type is the last one that it was registered under, and synonyms are in order.
import NativeBridge.Proofs.RegistryCalls

namespace NativeBridge

namespace Registering

variable {hash : String → TypeId} {r r' : Registry}

/-! ## Histories -/

/-- How a history begins. -/
inductive Origin where
  | empty
  | fundamentals

namespace Origin

/-- The registration of a built-in fundamental, where `hash` numbers the types. -/
def addFundamental (hash : String → TypeId) (r : Registry) (f : Fundamental) : Registry :=
  r.file (hash f.name) ⟨f.name, f.name, .fundamental, some (.fundamental f.strategy)⟩

def registry (hash : String → TypeId) : Origin → Registry
  | empty => {}
  | fundamentals => Fundamental.all.foldl (addFundamental hash) {}

/-- The type names that are registered from the beginning, with their packages. -/
def filings : Origin → List (String × String)
  | empty => []
  | fundamentals => Fundamental.all.map fun f => (f.name, f.name)

/-- With the numbers of their names, these are the fundamentals of a registry. -/
theorem registry_ofName : fundamentals.registry .ofName = .withFundamentals := rfl

end Origin

/-- The registry after a call. -/
def next (hash : String → TypeId) (r : Registry) (call : Call) : Registry :=
  ((call.perform hash).run.run r).2

/-- The registry after a history. -/
def after (hash : String → TypeId) (calls : List Call) (r : Registry) : Registry :=
  calls.foldl (next hash) r

/-- The calls of a history that succeed. -/
def successes (hash : String → TypeId) : List Call → Registry → List Call
  | [], _ => []
  | call :: rest, r =>
    match (call.perform hash).run.run r with
    | (.ok _, r') => call :: successes hash rest r'
    | (.error _, r') => successes hash rest r'

/-- The type names that a history registered, with their packages, the last
one last. -/
def filings (hash : String → TypeId) (origin : Origin) (calls : List Call) : List (String × String) :=
  origin.filings ++ (successes hash calls (origin.registry hash)).filterMap Call.filing?

/-- The package of the last of some registrations that was for the type of an
identifier, under any of its names. -/
def lastPackage (hash : String → TypeId) (filings : List (String × String)) (r : Registry)
    (id : TypeId) : Option String :=
  (filings.filter fun filing => r.sameType (hash filing.1) id).getLast?.map (·.2)

/-! ## Calls on a sound registry -/

theorem Call.Does.sound {call : Call} (h : call.Does hash r r') (hr : r.Sound) : r'.Sound := by
  cases h with
  | files hcall halias entry => exact hr.file _ entry
  | names => exact ⟨hr.registered, hr.apart⟩
  | nothing => exact hr
  | equates _ _ hknown hfree => exact (Registry.Registers.synonym _ _ hknown hfree).sound hr
  | ties => exact ⟨hr.registered, hr.apart⟩

theorem Call.Does.keeps {call : Call} (h : call.Does hash r r') (hr : r.Sound) : r.Keeps r' := by
  cases h with
  | files hcall halias entry hpackage hclass hfree hsame =>
    exact r.keeps_file (hpackage ▸ hfree) hsame
  | names _ _ hknown hfree => exact r.keeps_setPackage _ hfree
  | nothing => exact .refl r
  | equates _ _ hknown hfree => exact hr.keeps_setSynonym _ hfree
  | ties _ _ _ _ hfree => exact r.keeps_setDomain _ hfree

theorem next_keeps (hash : String → TypeId) (call : Call) (hr : r.Sound) :
    (next hash r call).Sound ∧ r.Keeps (next hash r call) := by
  unfold next
  rcases call.perform_cases hash r with ⟨e, hrun⟩ | ⟨result, r', hrun, hdoes⟩
  · rw [hrun]
    exact ⟨hr, .refl r⟩
  · rw [hrun]
    exact ⟨hdoes.sound hr, hdoes.keeps hr⟩

theorem after_keeps (hash : String → TypeId) (calls : List Call) (hr : r.Sound) :
    (after hash calls r).Sound ∧ r.Keeps (after hash calls r) := by
  induction calls generalizing r with
  | nil => exact ⟨hr, .refl r⟩
  | cons call rest ih =>
    obtain ⟨hnext, hkeeps⟩ := next_keeps hash call hr
    obtain ⟨hafter, hkeeps'⟩ := ih hnext
    exact ⟨hafter, hkeeps.trans hkeeps'⟩

/-! ## What calls leave -/

/-- A type is registered in a classification, and a package leads to it. -/
structure Filed (r : Registry) (id : TypeId) (package : String) (c : Classification) : Prop where
  entry : ∃ entry, r.registration? id = some entry ∧ entry.classification = c
  package : r.lookupType package = .ok (r.canonical id)

/-- A registry has what a call that succeeded has put into it. -/
def Call.Stands (hash : String → TypeId) (r : Registry) : Call → Prop
  | register typeName package c _ => Filed r (hash typeName) package c
  | registerStrategy typeName package s => Filed r (hash typeName) package s.classification
  | registerEnum typeName package _ => Filed r (hash typeName) package .enumeration
  | registerFlags typeName package _ => Filed r (hash typeName) package .flags
  | registerAlias typeName aliasPackage =>
    (r.registration? (hash typeName)).isSome ∧
      r.lookupType aliasPackage = .ok (r.canonical (hash typeName))
  | registerSynonym typeName synonym =>
    (r.registration? (hash typeName)).isSome ∧ r.sameType (hash synonym) (hash typeName)
  | registerErrorDomain domain enumName package =>
    (r.registration? (hash enumName)).isSome ∧
      r.errorDomain? domain = some ⟨domain, r.canonical (hash enumName), package⟩

theorem Call.stands_of_filing {call : Call} {typeName package : String} {c : Classification}
    (hcall : call.filing? = some (typeName, package)) (hclass : call.classification? = some c)
    (h : Filed r (hash typeName) package c) : call.Stands hash r := by
  cases call <;> cases hcall <;> cases hclass <;> exact h

theorem filed_file (r : Registry) (id : TypeId) (entry : Registration) :
    Filed (r.file (r.canonical id) entry) id entry.package entry.classification where
  entry := ⟨entry, Table.get?_set_self _ _ _, rfl⟩
  package := by
    have hpackage : (r.file (r.canonical id) entry).packages.get? entry.package =
        some ⟨r.canonical id, false⟩ := Table.get?_set_self _ _ _
    rw [Registry.lookupType, hpackage]
    rfl

/-- A call that succeeds leaves what it is for. -/
theorem Call.Does.stands {call : Call} (h : call.Does hash r r') (hr : r.Sound) :
    call.Stands hash r' := by
  cases h with
  | files hcall halias entry hpackage hclass =>
    exact stands_of_filing hcall hclass (hpackage ▸ filed_file r _ entry)
  | names typeName aliasPackage hknown =>
    refine ⟨hknown, ?_⟩
    rw [Registry.lookupType, Table.get?_set_self]
    rfl
  | nothing typeName synonym hknown hself =>
    refine ⟨hknown, beq_iff_eq.mpr ?_⟩
    rw [hself, hr.canonical_canonical]
  | equates typeName synonym hknown hfree =>
    have hkeeps := hr.keeps_setSynonym (r.canonical (hash typeName)) hfree
    have hsound := (Registry.Registers.synonym (hash typeName) _ hknown hfree).sound hr
    refine ⟨hkeeps.registered hsound hknown, beq_iff_eq.mpr ?_⟩
    rw [hkeeps.canonical hsound hknown]
    exact Registry.canonical_of_some (Table.get?_set_self _ _ _)
  | ties domain enumName package htable =>
    refine ⟨?_, Table.get?_set_self _ _ _⟩
    obtain ⟨table, htable⟩ := Option.isSome_iff_exists.mp htable
    obtain ⟨entry, hentry, -⟩ := Option.bind_eq_some_iff.mp htable
    rw [Registry.registration?, hr.canonical_canonical] at hentry
    exact Option.isSome_iff_exists.mpr ⟨entry, hentry⟩

theorem Filed.keeps {id : TypeId} {package : String} {c : Classification}
    (h : Filed r id package c) (hkeeps : r.Keeps r') (hsound : r'.Sound) :
    Filed r' id package c := by
  obtain ⟨old, hold, hclass⟩ := h.entry
  have hcanonical := hkeeps.canonical hsound (Option.isSome_iff_exists.mpr ⟨old, hold⟩)
  obtain ⟨new, hnew, -, hsame⟩ := hkeeps.types hold
  refine ⟨⟨new, ?_, hsame.trans hclass⟩, ?_⟩
  · rw [Registry.registration?, hcanonical, hnew]
  · rw [hcanonical]
    exact hkeeps.lookupType h.package

/-- What a call has left stays, whatever is registered later. -/
theorem Call.Stands.keeps {call : Call} (h : call.Stands hash r) (hkeeps : r.Keeps r')
    (hr : r.Sound) (hr' : r'.Sound) : call.Stands hash r' := by
  cases call with
  | register => exact Filed.keeps h hkeeps hr'
  | registerStrategy => exact Filed.keeps h hkeeps hr'
  | registerEnum => exact Filed.keeps h hkeeps hr'
  | registerFlags => exact Filed.keeps h hkeeps hr'
  | registerAlias =>
    obtain ⟨hknown, hpackage⟩ := h
    refine ⟨hkeeps.registered hr' hknown, ?_⟩
    rw [hkeeps.canonical hr' hknown]
    exact hkeeps.lookupType hpackage
  | registerSynonym =>
    obtain ⟨hknown, hsame⟩ := h
    exact ⟨hkeeps.registered hr' hknown, hkeeps.sameType hr hr' hsame⟩
  | registerErrorDomain =>
    obtain ⟨hknown, hdomain⟩ := h
    refine ⟨hkeeps.registered hr' hknown, ?_⟩
    rw [hkeeps.canonical hr' hknown]
    exact hkeeps.domains hdomain

/-- After a history, the registry has all that its calls have put into it. -/
theorem successes_stand (calls : List Call) (hr : r.Sound) :
    ∀ call ∈ successes hash calls r, call.Stands hash (after hash calls r) := by
  induction calls generalizing r with
  | nil => simp [successes]
  | cons first rest ih =>
    intro call hcall
    rcases first.perform_cases hash r with ⟨e, hrun⟩ | ⟨result, r', hrun, hdoes⟩
    · have hnext : next hash r first = r := by rw [next, hrun]
      rw [successes, hrun] at hcall
      rw [after, List.foldl_cons, hnext]
      exact ih hr call hcall
    · have hnext : next hash r first = r' := by rw [next, hrun]
      rw [successes, hrun] at hcall
      rw [after, List.foldl_cons, hnext]
      rcases List.mem_cons.mp hcall with rfl | hcall
      · obtain ⟨hsound, hkeeps⟩ := after_keeps hash rest (hdoes.sound hr)
        exact (hdoes.stands hr).keeps hkeeps (hdoes.sound hr) hsound
      · exact ih (hdoes.sound hr) call hcall

/-! ## Primary packages -/

/-- How a registry fits the registrations and aliases that made it. -/
structure Coherent (hash : String → TypeId) (filings : List (String × String))
    (aliases : List String) (r : Registry) : Prop where
  sound : r.Sound
  primary : ∀ {type entry}, r.types.get? type = some entry →
    r.packages.get? entry.package = some ⟨type, false⟩
  filed : ∀ {typeName package}, (typeName, package) ∈ filings →
    (r.registration? (hash typeName)).isSome
  leads : ∀ {typeName package}, (typeName, package) ∈ filings →
    r.packages.get? package = some ⟨r.canonical (hash typeName), false⟩
  latest : ∀ id, r.package? id = lastPackage hash filings r id
  aliased : ∀ package ∈ aliases, ∃ type, r.packages.get? package = some ⟨type, true⟩

namespace Coherent

variable {filings : List (String × String)} {aliases : List String}

theorem empty (hash : String → TypeId) : Coherent hash [] [] {} where
  sound := Registry.empty_sound
  primary h := by simp at h
  filed h := by simp at h
  leads h := by simp at h
  latest id := rfl
  aliased := by simp

theorem lastPackage_congr {id id' : TypeId}
    (hnames : ∀ {typeName package}, (typeName, package) ∈ filings →
      r'.canonical (hash typeName) = r.canonical (hash typeName))
    (hid : r'.canonical id' = r.canonical id) :
    lastPackage hash filings r' id' = lastPackage hash filings r id := by
  unfold lastPackage
  congr 2
  refine List.filter_congr fun filing hfiling => ?_
  unfold Registry.sameType
  rw [hnames hfiling, hid]

theorem lastPackage_append (filings : List (String × String)) (typeName package : String)
    (r : Registry) (id : TypeId) :
    lastPackage hash (filings ++ [(typeName, package)]) r id =
      if r.sameType (hash typeName) id then some package else lastPackage hash filings r id := by
  unfold lastPackage
  rw [List.filter_append]
  cases hsame : r.sameType (hash typeName) id <;> simp [hsame]

theorem file (h : Coherent hash filings aliases r) (typeName : String) (entry : Registration)
    (hfree : r.packages.get? entry.package = none) :
    Coherent hash (filings ++ [(typeName, entry.package)]) aliases
      (r.file (r.canonical (hash typeName)) entry) := by
  have hset := r.keeps_setPackage ⟨r.canonical (hash typeName), false⟩ hfree
  have hother : ∀ {type}, type ≠ r.canonical (hash typeName) →
      (r.file (r.canonical (hash typeName)) entry).types.get? type = r.types.get? type :=
    fun hne => Table.get?_set_ne _ hne _
  have hself : (r.file (r.canonical (hash typeName)) entry).types.get?
      (r.canonical (hash typeName)) = some entry := Table.get?_set_self _ _ _
  have hnew : ∀ {id}, r.canonical id = r.canonical (hash typeName) →
      (r.file (r.canonical (hash typeName)) entry).registration? id = some entry := by
    intro id hid
    change (r.file _ entry).types.get? (r.canonical id) = _
    rw [hid, hself]
  have hold : ∀ {id}, r.canonical id ≠ r.canonical (hash typeName) →
      (r.file (r.canonical (hash typeName)) entry).registration? id = r.registration? id :=
    fun hid => hother hid
  refine ⟨h.sound.file (hash typeName) entry, ?_, ?_, ?_, ?_, ?_⟩
  · intro type found hfound
    by_cases htype : type = r.canonical (hash typeName)
    · subst htype
      obtain rfl := Option.some.inj (hself.symm.trans hfound)
      exact Table.get?_set_self _ _ _
    · rw [hother htype] at hfound
      exact hset.packages (h.primary hfound)
  · intro name package hmem
    by_cases hname : r.canonical (hash name) = r.canonical (hash typeName)
    · rw [hnew hname]
      rfl
    · rw [hold hname]
      rcases List.mem_append.mp hmem with hmem | hmem
      · exact h.filed hmem
      · obtain ⟨rfl, -⟩ := Prod.mk.inj (List.mem_singleton.mp hmem)
        exact absurd rfl hname
  · intro name package hmem
    rcases List.mem_append.mp hmem with hmem | hmem
    · exact hset.packages (h.leads hmem)
    · obtain ⟨rfl, rfl⟩ := Prod.mk.inj (List.mem_singleton.mp hmem)
      exact Table.get?_set_self _ _ _
  · intro id
    rw [lastPackage_append]
    by_cases hid : r.canonical id = r.canonical (hash typeName)
    · have hnamed : (r.file (r.canonical (hash typeName)) entry).sameType (hash typeName) id :=
        beq_iff_eq.mpr hid.symm
      rw [if_pos hnamed, Registry.package?, hnew hid]
      rfl
    · have hnot : ¬(r.file (r.canonical (hash typeName)) entry).sameType (hash typeName) id :=
        fun hnamed => hid (eq_of_beq hnamed).symm
      rw [if_neg hnot, Registry.package?, hold hid]
      -- synonyms stay, so each earlier filing is for the type it was for
      exact (h.latest id).trans (lastPackage_congr (fun _ => rfl) rfl).symm
  · intro package hpackage
    obtain ⟨type, htype⟩ := h.aliased package hpackage
    exact ⟨type, hset.packages htype⟩

/-- A new package that is no primary package disturbs nothing. -/
theorem setPackage (h : Coherent hash filings aliases r) {package : String} (found : PackageEntry)
    (hfree : r.packages.get? package = none) :
    Coherent hash filings aliases { r with packages := r.packages.set package found } where
  sound := ⟨h.sound.registered, h.sound.apart⟩
  primary htype := (r.keeps_setPackage found hfree).packages (h.primary htype)
  filed := h.filed
  leads hmem := (r.keeps_setPackage found hfree).packages (h.leads hmem)
  latest := h.latest
  aliased other hother := by
    obtain ⟨type, htype⟩ := h.aliased other hother
    exact ⟨type, (r.keeps_setPackage found hfree).packages htype⟩

/-- A new synonym is one more name of a registered type, and no filing was
under it. -/
theorem setSynonym (h : Coherent hash filings aliases r) {other id : TypeId}
    (hknown : (r.types.get? (r.canonical id)).isSome) (hfree : r.registration? other = none) :
    Coherent hash filings aliases
      { r with synonyms := r.synonyms.set other (r.canonical id) } := by
  have hsound := (Registry.Registers.synonym id other hknown hfree).sound h.sound
  have hkeeps := h.sound.keeps_setSynonym (r.canonical id) hfree
  have hnames : ∀ {typeName package}, (typeName, package) ∈ filings →
      Registry.canonical { r with synonyms := r.synonyms.set other (r.canonical id) }
        (hash typeName) = r.canonical (hash typeName) :=
    fun hmem => hkeeps.canonical hsound (h.filed hmem)
  refine ⟨hsound, h.primary, fun hmem => hkeeps.registered hsound (h.filed hmem), fun hmem => ?_,
    fun other' => ?_, h.aliased⟩
  · rw [hnames hmem]
    exact h.leads hmem
  · -- what the identifier stands for now, some identifier stood for before
    obtain ⟨before, hbefore⟩ : ∃ before,
        Registry.canonical { r with synonyms := r.synonyms.set other (r.canonical id) } other' =
          r.canonical before := by
      by_cases hother : other' = other
      · subst hother
        exact ⟨id, Registry.canonical_of_some (Table.get?_set_self _ _ _)⟩
      · refine ⟨other', ?_⟩
        unfold Registry.canonical
        rw [Table.get?_set_ne _ hother]
    rw [lastPackage_congr hnames hbefore, ← h.latest before]
    unfold Registry.package? Registry.registration?
    rw [hbefore]

theorem step (h : Coherent hash filings aliases r) {call : Call} (hdoes : call.Does hash r r') :
    Coherent hash (filings ++ call.filing?.toList) (aliases ++ call.alias?.toList) r' := by
  cases hdoes with
  | @files _ typeName package hcall halias entry hpackage hclass hfree hsame =>
    subst hpackage
    rw [hcall, halias]
    exact (List.append_nil aliases).symm ▸ h.file typeName entry hfree
  | names typeName aliasPackage hknown hfree =>
    have hset := h.setPackage ⟨r.canonical (hash typeName), true⟩ hfree
    refine (List.append_nil filings).symm ▸
      ⟨hset.sound, hset.primary, hset.filed, hset.leads, hset.latest, ?_⟩
    intro package hpackage
    rcases List.mem_append.mp hpackage with hpackage | hpackage
    · exact hset.aliased package hpackage
    · obtain rfl := List.mem_singleton.mp hpackage
      exact ⟨_, Table.get?_set_self _ _ _⟩
  | nothing => simpa [Call.filing?, Call.alias?] using h
  | equates typeName synonym hknown hfree =>
    simpa [Call.filing?, Call.alias?] using h.setSynonym hknown hfree
  | ties domain enumName package =>
    have hties : Coherent hash filings aliases
        { r with domains := r.domains.set domain ⟨domain, r.canonical (hash enumName), package⟩ } :=
      ⟨⟨h.sound.registered, h.sound.apart⟩, h.primary, h.filed, h.leads, h.latest, h.aliased⟩
    simpa [Call.filing?, Call.alias?] using hties

theorem run (h : Coherent hash filings aliases r) (calls : List Call) :
    Coherent hash (filings ++ (successes hash calls r).filterMap Call.filing?)
      (aliases ++ (successes hash calls r).filterMap Call.alias?) (after hash calls r) := by
  induction calls generalizing r filings aliases with
  | nil => simpa [successes, after] using h
  | cons call rest ih =>
    rcases call.perform_cases hash r with ⟨e, hrun⟩ | ⟨result, r', hrun, hdoes⟩
    · have hrest := ih h
      have hnext : next hash r call = r := by rw [next, hrun]
      rw [successes, hrun, after, List.foldl_cons, hnext]
      exact hrest
    · have hrest := ih (h.step hdoes)
      have hnext : next hash r call = r' := by rw [next, hrun]
      rw [successes, hrun, after, List.foldl_cons, hnext]
      have hcons : ∀ {β : Type} (f : Call → Option β) (calls : List Call),
          (call :: calls).filterMap f = (f call).toList ++ calls.filterMap f := by
        intro β f calls
        cases hcall : f call <;> simp [hcall]
      rw [hcons, hcons, ← List.append_assoc, ← List.append_assoc]
      exact hrest

/-- The built-in fundamentals, one after another. -/
theorem fundamentals {start : Registry} (h : Coherent hash filings aliases start)
    (hnone : ∀ id, start.synonyms.get? id = none)
    (rest : List Fundamental) (hnew : (rest.map Fundamental.name).Nodup)
    (hfree : ∀ f ∈ rest, start.packages.get? f.name = none) :
    Coherent hash (filings ++ rest.map fun f => (f.name, f.name)) aliases
      (rest.foldl (Origin.addFundamental hash) start) := by
  induction rest generalizing start filings with
  | nil => simpa using h
  | cons f rest ih =>
    obtain ⟨hname, hnew⟩ := List.nodup_cons.mp hnew
    have hself := h.file f.name ⟨f.name, f.name, .fundamental, some (.fundamental f.strategy)⟩
      (hfree f List.mem_cons_self)
    rw [Registry.canonical_of_none (hnone (hash f.name))] at hself
    have hrest := ih hself hnone hnew fun g hg => ?_
    · rw [List.append_assoc] at hrest
      exact hrest
    · have hne : g.name ≠ f.name := fun heq => hname (heq ▸ List.mem_map_of_mem hg)
      exact (Table.get?_set_ne _ hne _).trans (hfree g (List.mem_cons_of_mem f hg))

theorem origin (hash : String → TypeId) (origin : Origin) :
    Coherent hash origin.filings [] (origin.registry hash) := by
  cases origin with
  | empty => exact .empty hash
  | fundamentals =>
    exact (Coherent.empty hash).fundamentals (fun _ => rfl) Fundamental.all (by decide)
      fun f hf => rfl

end Coherent

/-! ## The law -/

/-- A type that is registered again without a strategy gets the new package
and is otherwise as it was. -/
theorem register_again {typeName package : String} {c : Classification} {type : Option TypeId}
    {old : Registration}
    (h : ((Call.register typeName package c none).perform hash).run.run r = (.ok type, r'))
    (hold : r.registration? (hash typeName) = some old) :
    r'.registration? (hash typeName) = some { old with package := package } := by
  change (some <$> register hash typeName package c none).run.run r = _ at h
  rw [Call.run_map] at h
  rcases register_cases hash typeName package c none r with
    ⟨e, hrun⟩ | ⟨entry, hrun, rfl, -, -, -, hsame⟩
  · rw [hrun] at h
    exact absurd (Prod.mk.inj h).1 (by simp [Except.map])
  · rw [hrun] at h
    obtain ⟨-, rfl⟩ := Prod.mk.inj h
    obtain ⟨hname, hclass, hstrategy⟩ := hsame old hold
    have hentry : entry = { old with package := entry.package } := by
      rw [← hname, ← hclass, ← hstrategy rfl]
    rw [← hentry]
    exact Table.get?_set_self _ _ _

theorem perform_error {call : Call} {e : RegistrationError}
    (h : (call.perform hash).run.run r = (.error e, r')) : r' = r := by
  rcases call.perform_cases hash r with ⟨e', hrun⟩ | ⟨result, after, hrun, -⟩
  · exact (Prod.mk.inj (h.symm.trans hrun)).2
  · exact absurd (Prod.mk.inj (h.symm.trans hrun)).1 (by simp)

/-- The primary package of a type is the last one that it was registered
under, leads back to the type, and is no alias. -/
theorem Coherent.lookupPackage {filings : List (String × String)} {aliases : List String}
    (h : Coherent hash filings aliases r) {id : TypeId} (hid : (r.registration? id).isSome) :
    ∃ package, r.lookupPackage id = .ok package ∧
      lastPackage hash filings r id = some package ∧
      r.lookupType package = .ok (r.canonical id) ∧
      r.packages.get? package = some ⟨r.canonical id, false⟩ ∧ package ∉ aliases := by
  obtain ⟨entry, hentry⟩ := Option.isSome_iff_exists.mp hid
  have hpackage : r.package? id = some entry.package := by rw [Registry.package?, hentry]; rfl
  have hprimary := h.primary hentry
  refine ⟨entry.package, ?_, (h.latest id).symm.trans hpackage, ?_, hprimary, ?_⟩
  · rw [Registry.lookupPackage, hpackage]
  · rw [Registry.lookupType, hprimary]
  · intro hmem
    obtain ⟨type, htype⟩ := h.aliased entry.package hmem
    exact absurd (hprimary.symm.trans htype) (by simp)

end Registering

open Registering in
/-- Whatever calls are made on a registry, and in whatever order, it stays
coherent. -/
theorem registry_coherence (hash : String → TypeId) (origin : Origin)
    (calls : List Registering.Call) :
    let start := origin.registry hash
    let r := after hash calls start
    -- packages and types stay what they are, whatever is called later
    (∀ later package type, r.lookupType package = .ok type →
      (after hash later r).lookupType package = .ok type) ∧
    (∀ later id info, r.resolve id = some info →
      ∃ info', (after hash later r).resolve id = some info' ∧ info'.type = info.type ∧
        info'.entry.classification = info.entry.classification) ∧
    -- the primary package of a type is the last one, leads back to it and is no alias
    (∀ id, (r.registration? id).isSome → ∃ package, r.lookupPackage id = .ok package ∧
      lastPackage hash (filings hash origin calls) r id = some package ∧
      r.lookupType package = .ok (r.canonical id) ∧
      r.packages.get? package = some ⟨r.canonical id, false⟩ ∧
      ∀ typeName, .registerAlias typeName package ∉ successes hash calls start) ∧
    -- exactly what was registered is registered, under all packages that it ever had
    (∀ id, r.package? id = lastPackage hash (filings hash origin calls) r id) ∧
    (∀ typeName package, (typeName, package) ∈ filings hash origin calls →
      (r.registration? (hash typeName)).isSome ∧
        r.lookupType package = .ok (r.canonical (hash typeName))) ∧
    -- what a call that succeeded has put into the registry is there, now and later
    (∀ call ∈ successes hash calls start, call.Stands hash r ∧
      ∀ later, call.Stands hash (after hash later r)) ∧
    -- synonyms resolve in one step, and one type is one type for ever
    (∀ id target, r.synonyms.get? id = some target →
      (∃ info, r.resolve id = some info ∧ info.type = target) ∧
      r.synonyms.get? target = none ∧ r.types.get? id = none) ∧
    (∀ later a b, r.sameType a b → (after hash later r).sameType a b) ∧
    -- a strategy stays if none is supplied
    (∀ typeName package c type r' old,
      ((Registering.Call.register typeName package c none).perform hash).run.run r = (.ok type, r') →
      r.registration? (hash typeName) = some old →
      r'.registration? (hash typeName) = some { old with package := package }) ∧
    -- a call that fails leaves everything as it was
    (∀ call e r', (Registering.Call.perform hash call).run.run r = (.error e, r') → r' = r) ∧
    -- with the numbers that types have, the calls are the functions of the registry
    (∀ call, (Registering.Call.perform .ofName call).run.run r = settle r (call.apply r)) ∧
    Origin.fundamentals.registry .ofName = .withFundamentals := by
  intro start r
  have h : Coherent hash (filings hash origin calls)
      ((successes hash calls start).filterMap Registering.Call.alias?) r :=
    (Coherent.origin hash origin).run calls
  have hlater := fun later => after_keeps hash later h.sound
  refine ⟨fun later _ _ => (hlater later).2.lookupType,
    fun later _ _ => (hlater later).2.resolve (hlater later).1, fun id hid => ?_,
    h.latest, fun typeName package hmem => ⟨h.filed hmem, ?_⟩, fun call hcall => ?_,
    fun _ _ => h.sound.resolve_synonym,
    fun later _ _ => (hlater later).2.sameType h.sound (hlater later).1,
    fun _ _ _ _ _ _ => register_again, fun _ _ _ => perform_error,
    fun call => call.perform_ofName r, Origin.registry_ofName⟩
  · obtain ⟨package, hpackage, hlast, hback, hprimary, halias⟩ := h.lookupPackage hid
    refine ⟨package, hpackage, hlast, hback, hprimary, fun typeName hmem => halias ?_⟩
    exact List.mem_filterMap.mpr ⟨_, hmem, rfl⟩
  · rw [Registry.lookupType, h.leads hmem]
  · have hstands := successes_stand calls (Coherent.origin hash origin).sound call hcall
    exact ⟨hstands, fun later => hstands.keeps (hlater later).2 h.sound (hlater later).1⟩

namespace Sample

open Registering in
/-- A type gets a synonym and an alias. A second type cannot have the package of the
alias, and the first one is registered again under its synonym. -/
def registrations : List Registering.Call :=
  [.register "Node" "Ui::Node" .object none, .registerSynonym "Node" "Knot",
    .registerAlias "Knot" "Ui::Old", .register "Leaf" "Ui::Old" .object none,
    .register "Knot" "Ui::Knot" .object none]

/-- The calls of these that succeed. -/
def registrationsDone : List Registering.Call :=
  [.register "Node" "Ui::Node" .object none, .registerSynonym "Node" "Knot",
    .registerAlias "Knot" "Ui::Old", .register "Knot" "Ui::Knot" .object none]

end Sample

open Registering in
/-- The new package is the primary one, the old one and the alias still lead to
the type and will for ever, and the call that failed registered nothing. -/
theorem sample_registry_coherence :
    let start := Origin.fundamentals.registry .ofName
    let r := after .ofName Sample.registrations start
    successes .ofName Sample.registrations start = Sample.registrationsDone ∧
    r.package? (.ofName "Node") = some "Ui::Knot" ∧ r.package? (.ofName "Leaf") = none ∧
    ∀ later, Filed (after .ofName later r) (.ofName "Node") "Ui::Node" .object ∧
      (after .ofName later r).lookupType "Ui::Old" = .ok (.ofName "Node") ∧
      (after .ofName later r).sameType (.ofName "Knot") (.ofName "Node") := by
  intro start r
  have hdone : successes .ofName Sample.registrations start = Sample.registrationsDone := rfl
  obtain ⟨hpackages, -, -, hlatest, -, hstands, -, hsame, -⟩ :=
    registry_coherence .ofName .fundamentals Sample.registrations
  have hfirst : Registering.Call.register "Node" "Ui::Node" .object none ∈
      successes .ofName Sample.registrations start := by
    rw [hdone]
    exact List.mem_cons_self
  refine ⟨hdone, (hlatest _).trans (by decide +kernel), (hlatest _).trans (by decide +kernel),
    fun later => ⟨(hstands _ hfirst).2 later, hpackages later _ _ rfl, ?_⟩⟩
  exact hsame later _ _ (by decide +kernel)

end NativeBridge
