-- Synonyms in conversions. To a conversion, two identifiers of one type are the
-- same: from one state both give the same result and leave the same state, and
-- no later run of outside code sets them apart.
import NativeBridge.Proofs.ConversionWays
import NativeBridge.Proofs.RegistryGrowth

namespace NativeBridge

variable {σ τ : Type}

/-! ## Identifiers of one type -/

namespace Registry

variable {r : Registry} {a b : TypeId}

theorem resolve_of_sameType (hsame : r.sameType a b) : r.resolve a = r.resolve b := by
  unfold resolve
  rw [registration?_of_sameType hsame, eq_of_beq hsame]

theorem sameType_of_sameType (hsame : r.sameType a b) (other : TypeId) :
    r.sameType other a = r.sameType other b := by
  unfold sameType
  rw [eq_of_beq hsame]

theorem Sound.canonicalIfRegistered_of_sameType (h : r.Sound) (hsame : r.sameType a b) :
    r.canonicalIfRegistered a = r.canonicalIfRegistered b := by
  rcases h.registered_or_eq hsame with hknown | rfl
  · obtain ⟨entry, hentry⟩ := Option.isSome_iff_exists.mp hknown
    have hinfo : r.resolve a = some ⟨r.canonical a, entry⟩ := by
      unfold resolve
      rw [hentry]
      rfl
    unfold canonicalIfRegistered
    rw [← resolve_of_sameType hsame, hinfo]
  · rfl

end Registry

/-! ## Conversions with either -/

/-- A value under another declared type. -/
def TypedValue.retype (type : TypeId) (v : TypedValue) : TypedValue := { v with type }

/-- What is found alike is given back alike, under either type. -/
theorem run_bind_retype {α : Type} {x y : Attempt σ α} {s : System σ} (a b : TypeId)
    (h : x.run.run s = y.run.run s) (f : α → NativeValue) :
    (x >>= fun found => pure (⟨b, f found⟩ : TypedValue)).run.run s =
      ((y >>= fun found => pure (⟨a, f found⟩ : TypedValue)).run.run s).map
        (Except.map (TypedValue.retype b)) id := by
  rcases hrun : y.run.run s with ⟨e | found, t⟩
  · rw [run_bind_of_error _ hrun, run_bind_of_error _ (h.trans hrun)]
    rfl
  · rw [run_bind_of_ok _ hrun, run_bind_of_ok _ (h.trans hrun)]
    rfl

section

variable {s : System σ} {r : RuntimeId} {a b : TypeId} (hsound : (s.registryOf r).Sound)
  (hsame : (s.registryOf r).sameType a b)

include hsound hsame

/-- Error texts name a type by its registration. -/
theorem System.describeType_of_sameType : s.describeType r a = s.describeType r b := by
  rcases hsound.registered_or_eq hsame with hknown | rfl
  · obtain ⟨entry, hentry⟩ := Option.isSome_iff_exists.mp hknown
    have hpackage : (s.registryOf r).package? a = some entry.package := by
      rw [Registry.package?, hentry]
      rfl
    have hpackage' : (s.registryOf r).package? b = some entry.package := by
      rw [Registry.package?, ← Registry.registration?_of_sameType hsame, hentry]
      rfl
    unfold describeType
    rw [hpackage, hpackage']
  · rfl

theorem System.unconvertible_of_sameType : s.unconvertible r a = s.unconvertible r b := by
  unfold unconvertible
  rw [describeType_of_sameType hsound hsame]

theorem System.boxedStrategy_of_sameType : s.boxedStrategy r a = s.boxedStrategy r b := by
  unfold boxedStrategy
  rw [Registry.resolve_of_sameType hsame, unconvertible_of_sameType hsound hsame]

theorem unwrapObject_of_sameType (h : Handle) :
    (unwrapObject r h a).run.run s = (unwrapObject r h b).run.run s := by
  unfold unwrapObject
  rw [run_get_bind, run_get_bind, System.describeType_of_sameType hsound hsame,
    hsound.canonicalIfRegistered_of_sameType hsame]

theorem wrapBoxed_of_sameType (block : Block) (owned : Bool) :
    (wrapBoxed r block a owned).run.run s = (wrapBoxed r block b owned).run.run s := by
  unfold wrapBoxed
  rw [run_get_bind, run_get_bind, System.boxedStrategy_of_sameType hsound hsame]

theorem unwrapBoxed_of_sameType (h : Handle) :
    (unwrapBoxed r h a).run.run s = (unwrapBoxed r h b).run.run s := by
  unfold unwrapBoxed
  rw [run_get_bind, run_get_bind, System.boxedStrategy_of_sameType hsound hsame]
  simp only [Registry.sameType_of_sameType hsame]

theorem wrapBoxedCopy_of_sameType (block : Block) :
    (wrapBoxedCopy r block a).run.run s = (wrapBoxedCopy r block b).run.run s := by
  unfold wrapBoxedCopy
  rw [run_get_bind, run_get_bind, System.boxedStrategy_of_sameType hsound hsame]
  cases s.boxedStrategy r b with
  | error e =>
    rw [run_bind_of_error _ (run_converting_error s e),
      run_bind_of_error _ (run_converting_error s e)]
  | ok found =>
    -- the announcement is no matter of registries
    have hregistry : (s.announce found.2 .copy block).registryOf r = s.registryOf r := by
      unfold System.announce
      cases found.2.name <;> rfl
    have hfound : (converting (.ok found)).run.run s = (.ok found, s) := rfl
    rw [run_bind_of_ok _ hfound, run_bind_of_ok _ hfound]
    dsimp only
    rw [run_modify_bind, run_modify_bind]
    rw [← hregistry] at hsound hsame
    exact wrapBoxed_of_sameType hsound hsame (found.2.copy block) true

theorem toHandle_of_sameType (v : NativeValue) :
    (toHandle r ⟨a, v⟩).run.run s = (toHandle r ⟨b, v⟩).run.run s := by
  unfold toHandle
  rw [run_get_bind, run_get_bind, Registry.resolve_of_sameType hsame,
    System.unconvertible_of_sameType hsound hsame]
  cases (s.registryOf r).resolve b with
  | none => rfl
  | some info =>
    -- only a boxed payload has its declared type looked up once more
    dsimp only
    split
    case h_7 block _ => exact wrapBoxed_of_sameType hsound hsame block false
    all_goals rfl

theorem fromHandle_of_sameType (h : Handle) :
    (fromHandle r h b).run.run s =
      ((fromHandle r h a).run.run s).map (Except.map (TypedValue.retype b)) id := by
  unfold fromHandle
  rw [run_get_bind, run_get_bind, Registry.resolve_of_sameType hsame,
    System.unconvertible_of_sameType hsound hsame]
  cases (s.registryOf r).resolve b with
  | none => rfl
  | some info =>
    dsimp only
    split
    · split <;> rfl
    · have hobject := (unwrapObject_of_sameType hsound hsame h).symm
      have hboxed := (unwrapBoxed_of_sameType hsound hsame h).symm
      cases info.entry.classification with
      | object | paramSpec => exact run_bind_retype a b hobject .object
      | boxed => exact run_bind_retype a b hboxed .boxed
      | variant => cases h <;> rfl
      | fundamental | enumeration | flags => exact run_bind_retype a b rfl id

end

/-! ## In every run -/

/-- Conversions from a state do not tell two identifiers apart, except that a
value read from a handle carries the one that was asked for. -/
structure Transparent (s : System σ) (r : RuntimeId) (a b : TypeId) : Prop where
  toHandle : ∀ v, (toHandle r ⟨a, v⟩).run.run s = (toHandle r ⟨b, v⟩).run.run s
  fromHandle : ∀ h, (fromHandle r h b).run.run s =
    ((fromHandle r h a).run.run s).map (Except.map (TypedValue.retype b)) id
  unwrapObject : ∀ h, (unwrapObject r h a).run.run s = (unwrapObject r h b).run.run s
  wrapBoxed : ∀ block owned,
    (wrapBoxed r block a owned).run.run s = (wrapBoxed r block b owned).run.run s
  wrapBoxedCopy : ∀ block,
    (wrapBoxedCopy r block a).run.run s = (wrapBoxedCopy r block b).run.run s
  unwrapBoxed : ∀ h, (unwrapBoxed r h a).run.run s = (unwrapBoxed r h b).run.run s

theorem transparent_of_sameType {s : System σ} {r : RuntimeId} {a b : TypeId}
    (hsound : (s.registryOf r).Sound) (hsame : (s.registryOf r).sameType a b) :
    Transparent s r a b where
  toHandle := toHandle_of_sameType hsound hsame
  fromHandle := fromHandle_of_sameType hsound hsame
  unwrapObject := unwrapObject_of_sameType hsound hsame
  wrapBoxed := wrapBoxed_of_sameType hsound hsame
  wrapBoxedCopy := wrapBoxedCopy_of_sameType hsound hsame
  unwrapBoxed := unwrapBoxed_of_sameType hsound hsame

/-- Every registry keeps what it has. -/
theorem registries_keep :
    IsLaw (fun a b => a.RegistriesSound → b.RegistriesSound ∧
      ∀ id, (a.registry id).Keeps (b.registry id)) fun _ _ _ => True where
  still h hsound := by
    refine ⟨registries_sound.still h hsound, fun id => ?_⟩
    unfold System.registry
    rw [h.registries]
    exact .refl _
  heap _ hsound := ⟨hsound, fun id => .refl _⟩
  newRegistry a fundamentals hsound := by
    refine ⟨registries_sound.newRegistry a fundamentals hsound, fun id => ?_⟩
    unfold Arrangement.apply System.addRegistry System.registry
    dsimp only
    rw [Array.getElem?_push]
    split
    · rename_i hid
      rw [hid, Array.getElem?_size]
      exact .of_empty _
    · exact .refl _
  changeRegistry a id change hsound := by
    refine ⟨registries_sound.changeRegistry a id change hsound, fun other => ?_⟩
    unfold Arrangement.apply
    dsimp only
    cases hdone : change.apply (a.registry id) with
    | error e => exact .refl _
    | ok changed =>
      have hkeeps := (RegistryChange.registers hdone).keeps (hsound.registry id)
      unfold System.setRegistry
      unfold System.registry at hkeeps ⊢
      dsimp only
      rw [Array.getElem?_setIfInBounds]
      split
      · rename_i heq
        rw [heq] at hkeeps
        split
        · exact hkeeps
        · rename_i hout
          rw [heq] at hout
          rw [Array.getElem?_eq_none (Nat.le_of_not_lt hout)]
          exact .refl _
      · exact .refl _
  emission h := h
  trans h h' hsound :=
    ⟨(h' (h hsound).1).1, fun id => ((h hsound).2 id).trans ((h' (h hsound).1).2 id)⟩
  seen _ := trivial
  after _ _ := trivial
  before _ _ := trivial
  during _ := trivial

theorem World.Reached.registriesSound {c : Conduct} {s : World τ} (h : s.Reached c) :
    s.moment.RegistriesSound := by
  obtain ⟨b, hseen⟩ := h.now.since registries_sound
  exact hseen fun r hr => absurd hr (Array.not_mem_empty r)

theorem Moves.registryOf_keeps {c : Conduct} {s t : World τ} (h : Moves c s t)
    (hsound : s.moment.RegistriesSound) {r : RuntimeId} (hr : (s.bridges.get? r.number).isSome) :
    (t.registryOf r).Sound ∧ (s.registryOf r).Keeps (t.registryOf r) := by
  obtain ⟨hsound', hkeeps⟩ := (h.since registries_keep).now hsound
  have hregistry : (t.bridge r).registry = (s.bridge r).registry :=
    congrArg Prod.fst (h.charter.bridge_eq hr)
  refine ⟨hsound'.registry _, ?_⟩
  unfold System.registryOf
  rw [hregistry]
  exact hkeeps _

/-- To every conversion by a bridge, two identifiers of one type are the same
now and ever after, whatever is registered meanwhile. -/
theorem synonym_transparency {s : World τ} (h : s.Reached .any) {r : RuntimeId}
    (hr : (s.bridges.get? r.number).isSome) {a b : TypeId}
    (hsame : (s.registryOf r).sameType a b) :
    Transparent s r a b ∧
      ∀ t, Moves .any s t → (t.registryOf r).sameType a b ∧ Transparent t r a b := by
  refine ⟨transparent_of_sameType (h.registryOf_sound r) hsame, fun t hmoves => ?_⟩
  obtain ⟨hsound', hkeeps⟩ := hmoves.registryOf_keeps h.registriesSound hr
  have hsame' := hkeeps.sameType (h.registryOf_sound r) hsound' hsame
  exact ⟨hsame', transparent_of_sameType hsound' hsame'⟩

namespace Sample

/-- A type with a synonym. -/
def renamed : World Unit :=
  carryOut (.idle _) (deeds ++ [.arrange (.changeRegistry ⟨0⟩ (.registerSynonym "Node" "Knot"))])
    (.start ())

theorem renamed_reached (c : Conduct) : renamed.Reached c :=
  (Moves.carryOut Guest.idle_isOutside rfl _).reached

end Sample

/-- The object of the small run becomes the same handle as a node and as a knot. -/
theorem sample_synonym_transparency :
    Sample.type ≠ .ofName "Knot" ∧
      (toHandle Sample.bridge ⟨Sample.type, .object Sample.object⟩).run.run Sample.renamed =
        (toHandle Sample.bridge ⟨.ofName "Knot", .object Sample.object⟩).run.run Sample.renamed := by
  have hmade : (Sample.renamed.bridges.get? Sample.bridge.number).isSome := by decide +kernel
  have hsame : (Sample.renamed.registryOf Sample.bridge).sameType Sample.type (.ofName "Knot") := by
    decide +kernel
  have hlaw := synonym_transparency (Sample.renamed_reached .any) hmade hsame
  exact ⟨by decide +kernel, hlaw.1.toHandle (.object Sample.object)⟩

end NativeBridge
