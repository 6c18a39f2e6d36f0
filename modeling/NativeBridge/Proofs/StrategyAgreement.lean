-- What the conversions rest on. They ask a registration for a strategy of the
-- kind of its classification, and have an arm for each place where it could be
-- missing or another. No registry that arose from calls leads to such an arm.
import NativeBridge.Proofs.ConversionWays
import NativeBridge.Proofs.RegistryAgreement

namespace NativeBridge

variable {σ : Type}

/-! ## The arms -/

/-- Programs for the arms of the conversions where a registration has no
strategy, or one of another kind than its classification. -/
structure Arms (σ : Type) where
  /-- No strategy where a scalar is converted. -/
  missing : Resolved → Attempt σ Strategy
  /-- A strategy of another kind than a scalar's type has. -/
  write : Resolved → NativeValue → Attempt σ Handle
  /-- The same on the way back. -/
  read : Resolved → Handle → TypeId → Attempt σ NativeValue
  /-- A boxed type without a strategy for boxed types. -/
  boxed : Resolved → Attempt σ BoxedStrategy

namespace Arms

/-- The arms as the conversions have them. -/
def actual (r : RuntimeId) : Arms σ where
  missing info := throw (.conversion (.unconvertibleType info.entry.typeName))
  write info payload := throw (.conversion (info.refuse payload))
  read _ _ expected := do throw (.conversion ((← get).unconvertible r expected))
  boxed info := throw (.conversion (.typeMismatch "boxed" info.entry.classification.text))

variable (arms : Arms σ)

def strategy (info : Resolved) : Attempt σ Strategy :=
  match info.entry.strategy with
  | some strategy => return strategy
  | none => arms.missing info

/-- `Resolved.wrapScalar` with these arms. -/
def wrapScalar (info : Resolved) (payload : NativeValue) : Attempt σ Handle := do
  match info.entry.classification, payload with
  | .fundamental, payload =>
    match ← arms.strategy info with
    | .fundamental functions => converting ((functions.wrap payload).map .scalar)
    | _ => arms.write info payload
  | .enumeration, .enumeration value =>
    match ← arms.strategy info with
    | .enumeration table => converting (EnumTable.toHandle table value)
    | _ => arms.write info payload
  | .flags, .flags bits =>
    match ← arms.strategy info with
    | .flags table => converting (FlagsTable.toHandle table bits)
    | _ => arms.write info payload
  | _, payload => throw (.conversion (info.refuse payload))

/-- `Resolved.unwrapScalar` with these arms. -/
def unwrapScalar (info : Resolved) (h : Handle) (expected : TypeId) : Attempt σ NativeValue := do
  match info.entry.classification, ← arms.strategy info with
  | .fundamental, .fundamental functions => converting (functions.unwrap h)
  | .enumeration, .enumeration table => converting ((EnumTable.ofHandle table h).map .enumeration)
  | .flags, .flags table => converting ((FlagsTable.ofHandle table h).map .flags)
  | _, _ => arms.read info h expected

/-- `System.boxedStrategy` with these arms. -/
def boxedStrategy (r : RuntimeId) (type : TypeId) : Attempt σ (Resolved × BoxedStrategy) := do
  let s ← get
  match (s.registryOf r).resolve type with
  | none => throw (.conversion (s.unconvertible r type))
  | some info =>
    match info.entry.strategy with
    | some (.boxed strategy) => return (info, strategy)
    | _ => return (info, ← arms.boxed info)

/-- `wrapBoxed` with these arms. -/
def wrapBoxed (r : RuntimeId) (block : Block) (type : TypeId) (owned : Bool) :
    Attempt σ Handle := do
  let (info, strategy) ← arms.boxedStrategy r type
  modify (·.announce strategy .wrap block)
  let held ← converting (strategy.wrap block)
  let s ← get
  let w : BoxedWrapper :=
    ⟨s.boxes.size, info.type, info.entry.package, held, .ofOwned owned⟩
  set { s with
    boxes := s.boxes.add { wrapper := w, destroyer := if owned then some strategy else none } }
  return .boxed w

/-- `unwrapBoxed` with these arms. -/
def unwrapBoxed (r : RuntimeId) (h : Handle) (type : TypeId) : Attempt σ Block := do
  let s ← get
  let (info, strategy) ← arms.boxedStrategy r type
  let refused := ConversionError.typeMismatch info.entry.package h.typeName
  match h.boxed? with
  | none => throw (.conversion refused)
  | some w =>
    if (s.registryOf r).sameType w.type type then
      modify (·.announce strategy .unwrap w.block)
      converting (strategy.unwrap w.block)
    else throw (.conversion refused)

/-- `toHandle` with these arms. -/
def toHandle (r : RuntimeId) (v : TypedValue) : Attempt σ Handle := do
  let s ← get
  match (s.registryOf r).resolve v.type with
  | none =>
    match v.value with
    | .object o => wrapBorrowed r o
    | _ => throw (.conversion (s.unconvertible r v.type))
  | some info =>
    match info.entry.classification, v.value with
    | .object, .null | .paramSpec, .null | .boxed, .null | .variant, .null => return .undefined
    | .object, .object o | .paramSpec, .object o => wrapBorrowed r o
    | .boxed, .boxed block => arms.wrapBoxed r block v.type false
    | .variant, .variant shared => return .variant shared
    | _, payload => arms.wrapScalar info payload

/-- `fromHandle` with these arms. -/
def fromHandle (r : RuntimeId) (h : Handle) (expected : TypeId) : Attempt σ TypedValue := do
  let s ← get
  match (s.registryOf r).resolve expected with
  | none => throw (.conversion (s.unconvertible r expected))
  | some info =>
    let mismatch := ConversionError.typeMismatch info.entry.package h.typeName
    if !h.isDefined then
      if info.entry.classification.isNullable then return ⟨expected, .null⟩
      else throw (.conversion mismatch)
    else
      match info.entry.classification with
      | .object | .paramSpec => return ⟨expected, .object (← unwrapObject r h expected)⟩
      | .boxed => return ⟨expected, .boxed (← arms.unwrapBoxed r h expected)⟩
      | .variant =>
        match h with
        | .variant shared => return ⟨expected, .variant shared⟩
        | _ => throw (.conversion mismatch)
      | .fundamental | .enumeration | .flags =>
        return ⟨expected, ← arms.unwrapScalar info h expected⟩

/-! ## Where they are not reached -/

/-- In a state, and for the registration of a type, the arms are as good as the
ones that the conversions have. -/
structure Idle (arms : Arms σ) (s : System σ) (r : RuntimeId) (type : TypeId) (info : Resolved) :
    Prop where
  write : ∀ payload, (arms.wrapScalar info payload).run.run s =
    (converting (info.wrapScalar payload) : Attempt σ Handle).run.run s
  read : info.entry.classification.isNullable = false → ∀ h,
    (arms.unwrapScalar info h type).run.run s =
      (converting (info.unwrapScalar h (s.unconvertible r type)) : Attempt σ NativeValue).run.run s
  boxed : info.entry.classification = .boxed → (arms.boxedStrategy r type).run.run s =
    (converting (s.boxedStrategy r type) : Attempt σ (Resolved × BoxedStrategy)).run.run s

section

variable {arms : Arms σ} {info : Resolved} {r : RuntimeId} {s : System σ} {type : TypeId}

/-- A type with a strategy of its own kind is converted without the arms. -/
theorem idle_of_agrees (arms : Arms σ) (hinfo : (s.registryOf r).resolve type = some info)
    (h : info.entry.Agrees) : arms.Idle s r type info := by
  obtain ⟨canonical, typeName, package, c, strategy⟩ := info
  unfold Registration.Agrees at h
  dsimp only at h
  refine ⟨fun payload => ?_, fun hscalar handle => ?_, fun hboxed => ?_⟩
  · cases h <;> cases payload <;> rfl
  · cases h with
    | fundamental functions => rfl
    | enumeration table => rfl
    | flags table => rfl
    | _ => exact Bool.noConfusion hscalar
  · obtain rfl : c = .boxed := hboxed
    cases h
    unfold Arms.boxedStrategy System.boxedStrategy
    rw [run_get_bind, hinfo]
    rfl

theorem idle_actual (hinfo : (s.registryOf r).resolve type = some info) :
    (actual r).Idle s r type info := by
  obtain ⟨canonical, typeName, package, c, strategy⟩ := info
  refine ⟨fun payload => ?_, fun _ handle => ?_, fun _ => ?_⟩
  · rcases strategy with _ | strategy
    · cases c <;> cases payload <;> rfl
    · cases strategy <;> cases c <;> cases payload <;> rfl
  · rcases strategy with _ | strategy
    · cases c <;> rfl
    · cases strategy <;> cases c <;> rfl
  · unfold Arms.boxedStrategy System.boxedStrategy
    rw [run_get_bind, hinfo]
    rcases strategy with _ | strategy
    · rfl
    · cases strategy <;> rfl

theorem run_bind_congr {α β : Type} {a b : Attempt σ α} (h : a.run.run s = b.run.run s)
    (f : α → Attempt σ β) : (a >>= f).run.run s = (b >>= f).run.run s := by
  rcases hb : b.run.run s with ⟨e | x, t⟩
  · rw [run_bind_of_error s (h.trans hb), run_bind_of_error s hb]
  · rw [run_bind_of_ok s (h.trans hb), run_bind_of_ok s hb]

theorem Idle.run_wrapBoxed (h : arms.Idle s r type info)
    (hboxed : info.entry.classification = .boxed) (block : Block) (owned : Bool) :
    (arms.wrapBoxed r block type owned).run.run s =
      (NativeBridge.wrapBoxed r block type owned).run.run s := by
  unfold Arms.wrapBoxed NativeBridge.wrapBoxed
  rw [run_get_bind]
  exact run_bind_congr (h.boxed hboxed) _

theorem Idle.run_unwrapBoxed (h : arms.Idle s r type info)
    (hboxed : info.entry.classification = .boxed) (handle : Handle) :
    (arms.unwrapBoxed r handle type).run.run s =
      (NativeBridge.unwrapBoxed r handle type).run.run s := by
  unfold Arms.unwrapBoxed NativeBridge.unwrapBoxed
  rw [run_get_bind, run_get_bind]
  exact run_bind_congr (h.boxed hboxed) _

/-- Where the arms are idle, a value becomes the same handle. -/
theorem run_toHandle (v : TypedValue)
    (h : ∀ info, (s.registryOf r).resolve v.type = some info → arms.Idle s r v.type info) :
    (arms.toHandle r v).run.run s = (NativeBridge.toHandle r v).run.run s := by
  obtain ⟨type, payload⟩ := v
  unfold Arms.toHandle NativeBridge.toHandle
  rw [run_get_bind, run_get_bind]
  cases hinfo : (s.registryOf r).resolve type with
  | none => rfl
  | some info =>
    have hidle := h info hinfo
    dsimp only
    cases hkind : info.entry.classification with
    | boxed =>
      cases payload with
      | boxed block => exact hidle.run_wrapBoxed hkind block false
      | null => rfl
      | _ => exact hidle.write _
    | _ => cases payload <;> first | exact hidle.write _ | rfl

/-- Where the arms are idle, a handle is read as the same value. -/
theorem run_fromHandle (handle : Handle)
    (h : ∀ info, (s.registryOf r).resolve type = some info → arms.Idle s r type info) :
    (arms.fromHandle r handle type).run.run s =
      (NativeBridge.fromHandle r handle type).run.run s := by
  unfold Arms.fromHandle NativeBridge.fromHandle
  rw [run_get_bind, run_get_bind]
  cases hinfo : (s.registryOf r).resolve type with
  | none => rfl
  | some info =>
    have hidle := h info hinfo
    dsimp only
    cases handle.isDefined with
    | false => rfl
    | true =>
      cases hkind : info.entry.classification with
      | boxed => exact run_bind_congr (hidle.run_unwrapBoxed hkind handle) _
      | fundamental | enumeration | flags =>
        exact run_bind_congr (hidle.read (by rw [hkind]; rfl) handle) _
      | object | paramSpec | variant => rfl

/-- The conversions have the arms that they have, in any registry. -/
theorem run_actual (s : System σ) (r : RuntimeId) :
    (∀ v, ((actual r).toHandle r v).run.run s = (NativeBridge.toHandle r v).run.run s) ∧
      ∀ handle type, ((actual r).fromHandle r handle type).run.run s =
        (NativeBridge.fromHandle r handle type).run.run s :=
  ⟨fun v => run_toHandle v fun _ => idle_actual,
    fun handle _ => run_fromHandle handle fun _ => idle_actual⟩

end

end Arms

/-! ## Refusals -/

/-- A conversion that does not fail for want of a registration. -/
def Convertible {α : Type} (result : Except ConversionError α) : Prop :=
  ∀ typeName, result ≠ .error (.unconvertibleType typeName)

namespace Convertible

variable {α β : Type} {result : Except ConversionError α}

theorem ok (a : α) : Convertible (.ok a : Except ConversionError α) := fun _ h => nomatch h

theorem mismatch (expected found : String) :
    Convertible (.error (.typeMismatch expected found) : Except ConversionError α) :=
  fun _ h => nomatch h

theorem map (h : Convertible result) (f : α → β) : Convertible (result.map f) := by
  cases result with
  | ok a => exact .ok (f a)
  | error e => exact fun typeName hmap => h typeName (congrArg _ (Except.error.inj hmap))

theorem readInteger (k : IntegerKind) (h : Handle) : Convertible (h.readInteger k) := by
  unfold Handle.readInteger IntegerKind.fit
  split
  · split
    · exact .ok _
    · exact fun _ h => nomatch h
  · exact .mismatch _ _

theorem readDouble (h : Handle) : Convertible h.readDouble := by
  unfold Handle.readDouble
  split
  · exact .ok _
  · exact .ok _
  · exact .ok _
  · exact .mismatch _ _

theorem readSingle (h : Handle) : Convertible h.readSingle := by
  unfold Handle.readSingle
  have hdouble := readDouble h
  cases hread : h.readDouble with
  | error e =>
    rw [hread] at hdouble
    exact fun typeName heq => hdouble typeName (congrArg _ (Except.error.inj heq))
  | ok x =>
    change Convertible (if _ then _ else _)
    split
    · exact fun _ h => nomatch h
    · exact .ok _

theorem readBool (h : Handle) : Convertible h.readBool := by
  unfold Handle.readBool
  split
  · exact .ok _
  · exact .ok _
  · exact .ok _
  · exact .mismatch _ _

theorem readString (h : Handle) : Convertible h.readString := by
  unfold Handle.readString
  split
  · exact .ok _
  · exact .mismatch _ _

/-- A built-in fundamental refuses values for their own sake only. -/
theorem unwrap (f : Fundamental) (h : Handle) : Convertible (f.unwrap h) := by
  unfold Fundamental.unwrap
  split
  · exact (readInteger _ h).map _
  · split
    · exact (readBool h).map _
    · exact (readSingle h).map _
    · exact (readDouble h).map _
    · exact (readString h).map _

theorem enumeration (t : EnumTable) (h : Handle) : Convertible (EnumTable.ofHandle t h) := by
  unfold EnumTable.ofHandle
  split
  · split
    · exact .ok _
    · exact fun _ h => nomatch h
  · exact .mismatch _ _

theorem collect (t : FlagsTable) (texts : List String) (bits : UInt32) :
    Convertible (FlagsTable.collect t texts bits) := by
  induction texts generalizing bits with
  | nil => exact .ok bits
  | cons text rest ih =>
    unfold FlagsTable.collect
    split
    · exact ih _
    · exact fun _ h => nomatch h

theorem flags (t : FlagsTable) (h : Handle) : Convertible (FlagsTable.ofHandle t h) := by
  unfold FlagsTable.ofHandle
  split
  · exact collect t _ 0
  · exact collect t _ 0
  · exact .mismatch _ _

/-- A scalar type whose values the library converts refuses a handle for its
own sake only. -/
theorem unwrapScalar {info : Resolved} (h : info.entry.Agrees) (hbuiltIn : info.entry.IsBuiltIn)
    (hscalar : info.entry.classification.isNullable = false) (handle : Handle)
    (refused : ConversionError) : Convertible (info.unwrapScalar handle refused) := by
  obtain ⟨type, typeName, package, c, strategy⟩ := info
  unfold Registration.Agrees at h
  dsimp only at h
  cases h with
  | fundamental functions =>
    obtain ⟨f, rfl⟩ := hbuiltIn _ rfl
    exact unwrap f handle
  | enumeration table => exact (enumeration table handle).map _
  | flags table => exact (flags table handle).map _
  | _ => exact Bool.noConfusion hscalar

end Convertible

/-- The same of a program in a state. -/
def ConvertibleIn {α : Type} (s : System σ) (program : Attempt σ α) : Prop :=
  ∀ typeName t, program.run.run s ≠ (.error (.conversion (.unconvertibleType typeName)), t)

section

variable {s : System σ} {r : RuntimeId} {type : TypeId} {info : Resolved}

theorem Convertible.converting {α : Type} {result : Except ConversionError α}
    (h : Convertible result) : ConvertibleIn s (converting result) := by
  intro typeName t hrun
  cases result with
  | ok a => exact nomatch (Prod.mk.inj hrun).1
  | error e =>
    have he := BridgeError.conversion.inj (Except.error.inj (Prod.mk.inj hrun).1)
    exact h typeName (congrArg _ he)

theorem ConvertibleIn.bind_pure {α β : Type} {program : Attempt σ α}
    (h : ConvertibleIn s program) (f : α → β) : ConvertibleIn s (do return f (← program)) := by
  intro typeName t hrun
  rcases hprogram : program.run.run s with ⟨e | a, u⟩
  · rw [run_bind_of_error s hprogram] at hrun
    obtain ⟨he, rfl⟩ := Prod.mk.inj hrun
    exact h typeName u (hprogram.trans (by rw [Except.error.inj he]))
  · rw [run_bind_of_ok s hprogram] at hrun
    exact nomatch (Prod.mk.inj hrun).1

theorem convertibleIn_unwrapObject (s : System σ) (r : RuntimeId) (h : Handle) (type : TypeId) :
    ConvertibleIn s (unwrapObject r h type) := by
  intro typeName t hrun
  unfold unwrapObject at hrun
  rw [run_get_bind] at hrun
  split at hrun
  · exact nomatch (Prod.mk.inj hrun).1
  · split at hrun
    · exact nomatch (Prod.mk.inj hrun).1
    · split at hrun
      · exact nomatch (Prod.mk.inj hrun).1
      · exact nomatch (Prod.mk.inj hrun).1

/-- The byte copy refuses what is no block of its type, and nothing else. -/
theorem convertibleIn_unwrapBoxed (hinfo : (s.registryOf r).resolve type = some info)
    (hstrategy : info.entry.strategy = some (.boxed .byteCopy)) (h : Handle) :
    ConvertibleIn s (unwrapBoxed r h type) := by
  intro typeName t hrun
  cases h with
  | boxed w =>
    rw [run_unwrapBoxed hinfo hstrategy] at hrun
    have hresult := (Prod.mk.inj hrun).1
    split at hresult
    · exact nomatch hresult
    · exact nomatch hresult
  | _ =>
    unfold unwrapBoxed at hrun
    rw [run_get_bind, run_bind_of_ok s (run_converting_eq_ok.mpr
      ⟨boxedStrategy_byteCopy hinfo hstrategy, rfl⟩)] at hrun
    exact nomatch (Prod.mk.inj hrun).1

theorem byteCopy_of_agrees (h : info.entry.Agrees) (hbuiltIn : info.entry.IsBuiltIn)
    (hkind : info.entry.classification = .boxed) :
    info.entry.strategy = some (.boxed .byteCopy) := by
  obtain ⟨canonical, typeName, package, c, strategy⟩ := info
  unfold Registration.Agrees at h
  dsimp only at h hkind ⊢
  subst hkind
  cases h with
  | boxed functions =>
    obtain rfl : functions = .byteCopy := hbuiltIn _ rfl
    rfl

/-- A handle is not refused for want of a registration where there is one,
with a strategy of its kind that the library has. -/
theorem convertibleIn_fromHandle (hinfo : (s.registryOf r).resolve type = some info)
    (h : info.entry.Agrees) (hbuiltIn : info.entry.IsBuiltIn) (handle : Handle) :
    ConvertibleIn s (fromHandle r handle type) := by
  obtain ⟨a, hcase, hrun⟩ := fromHandleCase s r handle type
  have hconvertible : ConvertibleIn s a := by
    rw [hinfo] at hcase
    cases hcase with
    | mismatch => exact (Convertible.mismatch (α := TypedValue) _ _).converting
    | null => exact fun typeName t hpure => nomatch (Prod.mk.inj hpure).1
    | object => exact (convertibleIn_unwrapObject s r handle type).bind_pure _
    | boxed hkind =>
      have hstrategy := byteCopy_of_agrees h hbuiltIn hkind
      exact (convertibleIn_unwrapBoxed hinfo hstrategy handle).bind_pure _
    | variant => exact fun typeName t hpure => nomatch (Prod.mk.inj hpure).1
    | scalar hkind =>
      exact ((Convertible.unwrapScalar h hbuiltIn hkind handle _).converting).bind_pure _
  intro typeName t
  rw [hrun]
  exact hconvertible typeName t

end

/-! ## The law -/

/-- Whatever calls a registry arose from, each type in it has a strategy of the
kind of its classification, or none if such types have none, and each error
domain has a table. So nothing that stands in the arms for other strategies is
ever run, and no handle is refused for want of a registration. -/
theorem strategy_agreement {hash : String → TypeId} {registry : Registry}
    (h : registry.Arises hash) :
    (∀ type info, registry.resolve type = some info →
      info.entry.classification.Takes info.entry.strategy) ∧
    (∀ name found, registry.errorDomain? name = some found → found.domain = name ∧
      ∃ table, registry.enumTable? found.errorEnum = some table ∧
        registry.domainTable? name = some table) ∧
    -- the arms stand where the conversions have their own, whatever the registry
    (∀ {σ : Type} (s : System σ) (r : RuntimeId),
      (∀ v, ((Arms.actual r).toHandle r v).run.run s = (toHandle r v).run.run s) ∧
      ∀ handle type, ((Arms.actual r).fromHandle r handle type).run.run s =
        (fromHandle r handle type).run.run s) ∧
    -- with this one, any others do as well
    ∀ {σ : Type} (s : System σ) (r : RuntimeId), s.registryOf r = registry →
      (∀ (arms : Arms σ) v, (arms.toHandle r v).run.run s = (toHandle r v).run.run s) ∧
      (∀ (arms : Arms σ) handle type,
        (arms.fromHandle r handle type).run.run s = (fromHandle r handle type).run.run s) ∧
      ∀ handle type info, registry.resolve type = some info → info.entry.IsBuiltIn →
        ∀ typeName t, (fromHandle r handle type).run.run s ≠
          (.error (.conversion (.unconvertibleType typeName)), t) := by
  have hagrees := h.agrees
  refine ⟨fun type info hinfo => hagrees.entry hinfo, fun name found hfound => ?_,
    Arms.run_actual, ?_⟩
  · obtain ⟨hname, htable⟩ := hagrees.domains hfound
    obtain ⟨table, htable⟩ := Option.isSome_iff_exists.mp htable
    exact ⟨hname, table, htable, Option.bind_eq_some_iff.mpr ⟨found, hfound, htable⟩⟩
  · rintro σ s r rfl
    refine ⟨fun arms v => Arms.run_toHandle v fun info hinfo => ?_,
      fun arms handle type => Arms.run_fromHandle handle fun info hinfo => ?_, ?_⟩
    · exact Arms.idle_of_agrees arms hinfo (hagrees.entry hinfo)
    · exact Arms.idle_of_agrees arms hinfo (hagrees.entry hinfo)
    · intro handle type info hinfo hbuiltIn
      exact convertibleIn_fromHandle hinfo (hagrees.entry hinfo) hbuiltIn handle

namespace Sample

/-- A boxed type that got another package through a synonym, after which a call
for another classification failed, and an error domain. -/
def relabelled : World Unit :=
  carryOut (.idle _)
    [.arrange (.newRegistry true),
      .arrange (.changeRegistry ⟨0⟩ (.register "Pixels" "Ui::Pixels" .boxed none)),
      .arrange (.changeRegistry ⟨0⟩ (.registerSynonym "Pixels" "Raster")),
      .arrange (.changeRegistry ⟨0⟩ (.register "Raster" "Ui::Raster" .boxed none)),
      .arrange (.changeRegistry ⟨0⟩ (.register "Raster" "Ui::Picture" .object none)),
      .arrange (.changeRegistry ⟨0⟩ (.registerEnum "Mode" "Ui::Mode" [⟨7, "MODE_SEVEN", "seven"⟩])),
      .arrange (.changeRegistry ⟨0⟩ (.registerErrorDomain "ui-error" "Mode" "Ui::Error")),
      .newBridge {} ⟨0⟩ none] (.start ())

theorem relabelled_reached (c : Conduct) : relabelled.Reached c :=
  (Moves.carryOut Guest.idle_isOutside rfl _).reached

end Sample

set_option maxRecDepth 4000 in
/-- The relabelled type still has the byte copy, so a number is refused for what
it is. -/
theorem sample_strategy_agreement :
    let registry := Sample.relabelled.registryOf Sample.bridge
    registry.Arises .ofName ∧
    (∃ info, registry.resolve (.ofName "Raster") = some info ∧ info.entry.package = "Ui::Raster" ∧
      info.entry.classification.Takes info.entry.strategy) ∧
    (∃ table, registry.domainTable? "ui-error" = some table) ∧
    ∀ typeName t, (fromHandle Sample.bridge (.ofInt 5) (.ofName "Raster")).run.run Sample.relabelled ≠
      (.error (.conversion (.unconvertibleType typeName)), t) := by
  intro registry
  have harises := (Sample.relabelled_reached .any).registryOf_arises Sample.bridge
  obtain ⟨hstrategies, hdomains, -, hconversions⟩ := strategy_agreement harises
  have hinfo : registry.resolve (.ofName "Raster") = some ⟨.ofName "Pixels",
      ⟨"Pixels", "Ui::Raster", .boxed, some (.boxed .byteCopy)⟩⟩ := rfl
  have hdomain : registry.errorDomain? "ui-error" =
      some ⟨"ui-error", .ofName "Mode", "Ui::Error"⟩ := by decide +kernel
  have hbuiltIn : ∀ strategy, some (Strategy.boxed .byteCopy) = some strategy →
      strategy.IsBuiltIn := by
    rintro strategy hstrategy
    obtain rfl := Option.some.inj hstrategy
    rfl
  obtain ⟨-, table, -, htable⟩ := hdomains _ _ hdomain
  exact ⟨harises, ⟨_, hinfo, rfl, hstrategies _ _ hinfo⟩, ⟨table, htable⟩,
    (hconversions Sample.relabelled Sample.bridge rfl).2.2 _ _ _ hinfo hbuiltIn⟩

end NativeBridge
