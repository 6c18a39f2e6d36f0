-- The ways of a conversion. The two directions of a conversion of a typed
-- value are dispatched apart; one relation for each direction says what it can
-- come to, for types whose values the library itself converts.
import NativeBridge.Proofs.FlagSets
import NativeBridge.Proofs.ScalarCodecs
import NativeBridge.Proofs.Unwrapping

namespace NativeBridge

namespace Classification

variable {c : Classification}

theorem isNullable_iff :
    c.isNullable = true ↔ c = object ∨ c = paramSpec ∨ c = boxed ∨ c = variant := by
  cases c <;> decide

theorem isRefcounted_iff : c.isRefcounted = true ↔ c = object ∨ c = paramSpec := by
  cases c <;> decide

end Classification

/-! ## Built-in strategies -/

/-- A strategy that the library itself provides: that of a built-in
fundamental, the byte copy, or a table. -/
def Strategy.IsBuiltIn : Strategy → Prop
  | fundamental functions => ∃ f : Fundamental, functions = f.strategy
  | boxed functions => functions = .byteCopy
  | enumeration _ | flags _ => True

namespace Registration

/-- Whether the values of a type are converted by the library itself. -/
def IsBuiltIn (entry : Registration) : Prop :=
  ∀ strategy, entry.strategy = some strategy → strategy.IsBuiltIn

/-- What becomes of a payload that is converted there and back: it stays as
it is, and a scalar of a fundamental takes the form that is the type's own. -/
def Settles (entry : Registration) (payload value : NativeValue) : Prop :=
  if entry.classification = .fundamental then
    ∃ f : Fundamental, entry.strategy = some (.fundamental f.strategy) ∧ f.IsForm payload value
  else value = payload

theorem settles_self {entry : Registration} {payload : NativeValue}
    (h : entry.classification ≠ .fundamental) : entry.Settles payload payload := by
  unfold Settles
  rw [if_neg h]

end Registration

/-! ## Scalars -/

namespace Resolved

variable {info : Resolved} {payload value : NativeValue} {h : Handle} {refused : ConversionError}

/-- The ways in which a registration converts scalars. -/
inductive ByScalar (info : Resolved) : Prop where
  | fundamental (functions : FundamentalStrategy) (kind : info.entry.classification = .fundamental)
    (strategy : info.entry.strategy = some (.fundamental functions))
  | enumeration (table : EnumTable) (kind : info.entry.classification = .enumeration)
    (strategy : info.entry.strategy = some (.enumeration table))
  | flags (table : FlagsTable) (kind : info.entry.classification = .flags)
    (strategy : info.entry.strategy = some (.flags table))

theorem wrapScalar_fundamental {functions : FundamentalStrategy}
    (hkind : info.entry.classification = .fundamental)
    (hstrategy : info.entry.strategy = some (.fundamental functions)) :
    info.wrapScalar payload = (functions.wrap payload).map .scalar := by
  unfold wrapScalar strategy
  rw [hkind, hstrategy]
  rfl

theorem wrapScalar_enumeration {table : EnumTable}
    (hkind : info.entry.classification = .enumeration)
    (hstrategy : info.entry.strategy = some (.enumeration table)) :
    info.wrapScalar payload = .ok h ↔
      ∃ n, payload = .enumeration n ∧ EnumTable.toHandle table n = .ok h := by
  unfold wrapScalar strategy
  rw [hkind, hstrategy]
  cases payload <;> simp [throw_ne_ok, bind, Except.bind]

theorem wrapScalar_flags {table : FlagsTable} (hkind : info.entry.classification = .flags)
    (hstrategy : info.entry.strategy = some (.flags table)) :
    info.wrapScalar payload = .ok h ↔
      ∃ bits, payload = .flags bits ∧ FlagsTable.toHandle table bits = .ok h := by
  unfold wrapScalar strategy
  rw [hkind, hstrategy]
  cases payload <;> simp [throw_ne_ok, bind, Except.bind]

theorem unwrapScalar_fundamental {functions : FundamentalStrategy}
    (hkind : info.entry.classification = .fundamental)
    (hstrategy : info.entry.strategy = some (.fundamental functions)) :
    info.unwrapScalar h refused = functions.unwrap h := by
  unfold unwrapScalar strategy
  rw [hkind, hstrategy]
  rfl

theorem unwrapScalar_enumeration {table : EnumTable}
    (hkind : info.entry.classification = .enumeration)
    (hstrategy : info.entry.strategy = some (.enumeration table)) :
    info.unwrapScalar h refused = (EnumTable.ofHandle table h).map .enumeration := by
  unfold unwrapScalar strategy
  rw [hkind, hstrategy]
  rfl

theorem unwrapScalar_flags {table : FlagsTable} (hkind : info.entry.classification = .flags)
    (hstrategy : info.entry.strategy = some (.flags table)) :
    info.unwrapScalar h refused = (FlagsTable.ofHandle table h).map .flags := by
  unfold unwrapScalar strategy
  rw [hkind, hstrategy]
  rfl

theorem strategy_ok {s : Strategy} : info.strategy = .ok s ↔ info.entry.strategy = some s := by
  unfold strategy
  cases info.entry.strategy <;> simp

theorem byScalar_of_wrapScalar (hwrap : info.wrapScalar payload = .ok h) : info.ByScalar := by
  unfold wrapScalar at hwrap
  cases hkind : info.entry.classification with
  | fundamental =>
    rw [hkind] at hwrap
    obtain ⟨strategy, hstrategy, hwrap⟩ := bind_eq_ok.mp hwrap
    cases strategy with
    | fundamental functions => exact .fundamental functions hkind (strategy_ok.mp hstrategy)
    | _ => exact absurd hwrap throw_ne_ok
  | enumeration =>
    rw [hkind] at hwrap
    cases payload with
    | enumeration n =>
      obtain ⟨strategy, hstrategy, hwrap⟩ := bind_eq_ok.mp hwrap
      cases strategy with
      | enumeration table => exact .enumeration table hkind (strategy_ok.mp hstrategy)
      | _ => exact absurd hwrap throw_ne_ok
    | _ => exact absurd hwrap throw_ne_ok
  | flags =>
    rw [hkind] at hwrap
    cases payload with
    | flags bits =>
      obtain ⟨strategy, hstrategy, hwrap⟩ := bind_eq_ok.mp hwrap
      cases strategy with
      | flags table => exact .flags table hkind (strategy_ok.mp hstrategy)
      | _ => exact absurd hwrap throw_ne_ok
    | _ => exact absurd hwrap throw_ne_ok
  | _ =>
    rw [hkind] at hwrap
    exact absurd hwrap throw_ne_ok

theorem byScalar_of_unwrapScalar (hread : info.unwrapScalar h refused = .ok value) :
    info.ByScalar := by
  unfold unwrapScalar at hread
  obtain ⟨strategy, hstrategy, hread⟩ := bind_eq_ok.mp hread
  have hentry := strategy_ok.mp hstrategy
  cases hkind : info.entry.classification with
  | fundamental =>
    rw [hkind] at hread
    cases strategy with
    | fundamental functions => exact .fundamental functions hkind hentry
    | _ => exact absurd hread throw_ne_ok
  | enumeration =>
    rw [hkind] at hread
    cases strategy with
    | enumeration table => exact .enumeration table hkind hentry
    | _ => exact absurd hread throw_ne_ok
  | flags =>
    rw [hkind] at hread
    cases strategy with
    | flags table => exact .flags table hkind hentry
    | _ => exact absurd hread throw_ne_ok
  | _ =>
    rw [hkind] at hread
    exact absurd hread throw_ne_ok

theorem ByScalar.isNullable (hscalar : info.ByScalar) :
    info.entry.classification.isNullable = false := by
  cases hscalar with
  | fundamental functions hkind =>
    rw [hkind]
    rfl
  | enumeration table hkind =>
    rw [hkind]
    rfl
  | flags table hkind =>
    rw [hkind]
    rfl

/-- What is written for a scalar payload is a scalar. -/
theorem isDefined_of_wrapScalar (hwrap : info.wrapScalar payload = .ok h) : h.isDefined = true := by
  cases byScalar_of_wrapScalar hwrap with
  | fundamental functions hkind hstrategy =>
    rw [wrapScalar_fundamental hkind hstrategy] at hwrap
    obtain ⟨scalar, -, rfl⟩ := map_eq_ok.mp hwrap
    rfl
  | enumeration table hkind hstrategy =>
    obtain ⟨n, -, hto⟩ := (wrapScalar_enumeration hkind hstrategy).mp hwrap
    unfold EnumTable.toHandle at hto
    split at hto
    · obtain rfl := Except.ok.inj hto
      rfl
    · exact absurd hto (by simp)
  | flags table hkind hstrategy =>
    obtain ⟨bits, -, hto⟩ := (wrapScalar_flags hkind hstrategy).mp hwrap
    unfold FlagsTable.toHandle at hto
    dsimp only at hto
    split at hto
    · obtain rfl := Except.ok.inj hto
      rfl
    · exact absurd hto (by simp)

/-- How a scalar is refused makes no difference to one that is not. -/
theorem unwrapScalar_refused (hread : info.unwrapScalar h refused = .ok value)
    (other : ConversionError) : info.unwrapScalar h other = .ok value := by
  cases byScalar_of_unwrapScalar hread with
  | fundamental functions hkind hstrategy =>
    rw [unwrapScalar_fundamental hkind hstrategy] at hread ⊢
    exact hread
  | enumeration table hkind hstrategy =>
    rw [unwrapScalar_enumeration hkind hstrategy] at hread ⊢
    exact hread
  | flags table hkind hstrategy =>
    rw [unwrapScalar_flags hkind hstrategy] at hread ⊢
    exact hread

/-- What is written for a scalar payload is read as the payload in the form of
its type, and the same is written for that. -/
theorem unwrapScalar_wrapScalar (hbuiltIn : info.entry.IsBuiltIn)
    (hwrap : info.wrapScalar payload = .ok h) (refused : ConversionError) :
    ∃ value, info.unwrapScalar h refused = .ok value ∧ info.entry.Settles payload value ∧
      info.wrapScalar value = .ok h := by
  cases byScalar_of_wrapScalar hwrap with
  | fundamental functions hkind hstrategy =>
    obtain ⟨f, rfl⟩ : ∃ f : Fundamental, functions = f.strategy := hbuiltIn _ hstrategy
    rw [wrapScalar_fundamental hkind hstrategy] at hwrap
    obtain ⟨scalar, hscalar, rfl⟩ := map_eq_ok.mp hwrap
    obtain ⟨value, hread, hform, hagain⟩ := Fundamental.unwrap_wrap hscalar
    refine ⟨value, ?_, ?_, ?_⟩
    · rw [unwrapScalar_fundamental hkind hstrategy]
      exact hread
    · unfold Registration.Settles
      rw [if_pos hkind]
      exact ⟨f, hstrategy, hform⟩
    · rw [wrapScalar_fundamental hkind hstrategy]
      exact map_eq_ok.mpr ⟨scalar, hagain, rfl⟩
  | enumeration table hkind hstrategy =>
    obtain ⟨n, rfl, hto⟩ := (wrapScalar_enumeration hkind hstrategy).mp hwrap
    refine ⟨.enumeration n, ?_, Registration.settles_self (by simp [hkind]), hwrap⟩
    rw [unwrapScalar_enumeration hkind hstrategy]
    exact map_eq_ok.mpr ⟨n, EnumTable.ofHandle_toHandle hto, rfl⟩
  | flags table hkind hstrategy =>
    obtain ⟨bits, rfl, hto⟩ := (wrapScalar_flags hkind hstrategy).mp hwrap
    refine ⟨.flags bits, ?_, Registration.settles_self (by simp [hkind]), hwrap⟩
    rw [unwrapScalar_flags hkind hstrategy]
    exact map_eq_ok.mpr ⟨bits, FlagsTable.ofHandle_toHandle hto, rfl⟩

/-- What is read from a handle can be written, and is read again. -/
theorem wrapScalar_unwrapScalar (hbuiltIn : info.entry.IsBuiltIn)
    (hread : info.unwrapScalar h refused = .ok value) :
    ∃ h', info.wrapScalar value = .ok h' ∧ info.unwrapScalar h' refused = .ok value := by
  cases byScalar_of_unwrapScalar hread with
  | fundamental functions hkind hstrategy =>
    obtain ⟨f, rfl⟩ : ∃ f : Fundamental, functions = f.strategy := hbuiltIn _ hstrategy
    rw [unwrapScalar_fundamental hkind hstrategy] at hread
    obtain ⟨scalar, hscalar, hagain⟩ := Fundamental.wrap_unwrap hread
    refine ⟨.scalar scalar, ?_, ?_⟩
    · rw [wrapScalar_fundamental hkind hstrategy]
      exact map_eq_ok.mpr ⟨scalar, hscalar, rfl⟩
    · rw [unwrapScalar_fundamental hkind hstrategy]
      exact hagain
  | enumeration table hkind hstrategy =>
    rw [unwrapScalar_enumeration hkind hstrategy] at hread
    obtain ⟨n, hof, rfl⟩ := map_eq_ok.mp hread
    obtain ⟨h', hto⟩ := EnumTable.toHandle_ofHandle hof
    refine ⟨h', (wrapScalar_enumeration hkind hstrategy).mpr ⟨n, rfl, hto⟩, ?_⟩
    rw [unwrapScalar_enumeration hkind hstrategy]
    exact map_eq_ok.mpr ⟨n, EnumTable.ofHandle_toHandle hto, rfl⟩
  | flags table hkind hstrategy =>
    rw [unwrapScalar_flags hkind hstrategy] at hread
    obtain ⟨bits, hof, rfl⟩ := map_eq_ok.mp hread
    obtain ⟨h', hto⟩ := FlagsTable.toHandle_ofHandle hof
    refine ⟨h', (wrapScalar_flags hkind hstrategy).mpr ⟨bits, rfl, hto⟩, ?_⟩
    rw [unwrapScalar_flags hkind hstrategy]
    exact map_eq_ok.mpr ⟨bits, FlagsTable.ofHandle_toHandle hto, rfl⟩

end Resolved

section

variable {σ : Type} {s t : System σ} {r : RuntimeId} {info : Resolved} {type : TypeId}
  {payload value : NativeValue} {h : Handle}

/-! ## Objects -/

theorem type_of_resolve {registry : Registry} (hinfo : registry.resolve type = some info) :
    info.type = registry.canonical type := by
  obtain ⟨entry, -, rfl⟩ := Option.map_eq_some_iff.mp hinfo
  rfl

theorem canonicalIfRegistered_of_resolve {registry : Registry}
    (hinfo : registry.resolve type = some info) :
    registry.canonicalIfRegistered type = info.type := by
  unfold Registry.canonicalIfRegistered
  rw [hinfo]

theorem run_wrapBorrowed {o : ObjectId} :
    (wrapBorrowed r o).run.run s = (.ok h, t) ↔
      ∃ w isNew, h = .object w ∧
        (acquireWrapper r o .borrowed).run.run s = (.ok (w, isNew), t) := by
  unfold wrapBorrowed
  rw [run_bind_eq_ok]
  constructor
  · rintro ⟨⟨w, isNew⟩, u, hacquired, hrun⟩
    obtain ⟨rfl, rfl⟩ := run_pure_eq_ok.mp hrun
    exact ⟨w, isNew, rfl, hacquired⟩
  · rintro ⟨w, isNew, rfl, hacquired⟩
    exact ⟨(w, isNew), t, hacquired, rfl⟩

/-- What an unwrap of an object finds. It leaves the state alone. -/
theorem unwrapObject_ok {o : ObjectId} (hinfo : (s.registryOf r).resolve type = some info)
    (hrun : (unwrapObject r h type).run.run s = (.ok o, t)) :
    s = t ∧ ∃ w actual, h = .object w ∧ w.object = o ∧ s.heap.typeOf? w.object = some actual ∧
      s.heap.types.isA actual info.type = true := by
  cases h with
  | object w =>
    cases hactual : s.heap.typeOf? w.object with
    | none =>
      unfold unwrapObject at hrun
      rw [run_get_bind] at hrun
      simp only [Handle.object?, hactual] at hrun
      exact absurd (Prod.mk.inj hrun).1 (by simp)
    | some actual =>
      rw [run_unwrapObject s hactual type, canonicalIfRegistered_of_resolve hinfo] at hrun
      obtain ⟨hok, rfl⟩ := Prod.mk.inj hrun
      split at hok
      · rename_i hisA
        exact ⟨rfl, w, actual, rfl, Except.ok.inj hok, hactual, hisA⟩
      · exact absurd hok (by simp)
  | _ =>
    unfold unwrapObject at hrun
    exact absurd (Prod.mk.inj hrun).1 (by simp)

/-! ## Boxed structures -/

/-- The borrowed wrapper of a block that the next wrap makes. -/
def System.nextBox (s : System σ) (info : Resolved) (block : Block) : BoxedWrapper :=
  ⟨s.boxes.size, info.type, info.entry.package, block, .borrowed⟩

theorem boxedStrategy_byteCopy (hinfo : (s.registryOf r).resolve type = some info)
    (hstrategy : info.entry.strategy = some (.boxed .byteCopy)) :
    s.boxedStrategy r type = .ok (info, .byteCopy) := by
  unfold System.boxedStrategy
  rw [hinfo]
  simp only [hstrategy]

theorem run_wrapBoxed (hinfo : (s.registryOf r).resolve type = some info)
    (hstrategy : info.entry.strategy = some (.boxed .byteCopy)) (block : Block) :
    (wrapBoxed r block type false).run.run s =
      (.ok (.boxed (s.nextBox info block)),
        { s with boxes := s.boxes.add { wrapper := s.nextBox info block, destroyer := none } }) := by
  unfold wrapBoxed
  rw [run_get_bind, run_bind_of_ok s (run_converting_eq_ok.mpr
    ⟨boxedStrategy_byteCopy hinfo hstrategy, rfl⟩)]
  rfl

theorem run_unwrapBoxed (hinfo : (s.registryOf r).resolve type = some info)
    (hstrategy : info.entry.strategy = some (.boxed .byteCopy)) (w : BoxedWrapper) :
    (unwrapBoxed r (.boxed w) type).run.run s =
      (if (s.registryOf r).canonical w.type = info.type then .ok w.block
        else .error (.conversion (.typeMismatch info.entry.package w.package)), s) := by
  unfold unwrapBoxed
  rw [run_get_bind, run_bind_of_ok s (run_converting_eq_ok.mpr
    ⟨boxedStrategy_byteCopy hinfo hstrategy, rfl⟩)]
  simp only [Handle.boxed?, Registry.sameType, type_of_resolve hinfo, beq_iff_eq]
  split <;> rfl

/-- Only a strategy converts boxed structures, and the library has one. -/
theorem byteCopy_of_boxedStrategy (hinfo : (s.registryOf r).resolve type = some info)
    (hbuiltIn : info.entry.IsBuiltIn) {found : Resolved × BoxedStrategy}
    (hfound : s.boxedStrategy r type = .ok found) :
    info.entry.strategy = some (.boxed .byteCopy) := by
  unfold System.boxedStrategy at hfound
  rw [hinfo] at hfound
  dsimp only at hfound
  split at hfound
  · rename_i strategy hstrategy
    obtain rfl : strategy = .byteCopy := hbuiltIn _ hstrategy
    exact hstrategy
  · exact absurd hfound (by simp)

theorem byteCopy_of_wrapBoxed (hinfo : (s.registryOf r).resolve type = some info)
    (hbuiltIn : info.entry.IsBuiltIn) {block : Block} {owned : Bool}
    (hrun : (wrapBoxed r block type owned).run.run s = (.ok h, t)) :
    info.entry.strategy = some (.boxed .byteCopy) := by
  unfold wrapBoxed at hrun
  rw [run_get_bind] at hrun
  obtain ⟨found, u, hfound, -⟩ := run_bind_eq_ok.mp hrun
  exact byteCopy_of_boxedStrategy hinfo hbuiltIn (run_converting_eq_ok.mp hfound).1

/-- What an unwrap of a boxed structure finds. It leaves the state alone. -/
theorem unwrapBoxed_ok {block : Block} (hinfo : (s.registryOf r).resolve type = some info)
    (hbuiltIn : info.entry.IsBuiltIn)
    (hrun : (unwrapBoxed r h type).run.run s = (.ok block, t)) :
    s = t ∧ ∃ w, h = .boxed w ∧ w.block = block ∧ info.entry.strategy = some (.boxed .byteCopy) ∧
      (s.registryOf r).canonical w.type = info.type := by
  have hstrategy : info.entry.strategy = some (.boxed .byteCopy) := by
    unfold unwrapBoxed at hrun
    rw [run_get_bind] at hrun
    obtain ⟨found, u, hfound, -⟩ := run_bind_eq_ok.mp hrun
    exact byteCopy_of_boxedStrategy hinfo hbuiltIn (run_converting_eq_ok.mp hfound).1
  cases h with
  | boxed w =>
    rw [run_unwrapBoxed hinfo hstrategy] at hrun
    obtain ⟨hok, rfl⟩ := Prod.mk.inj hrun
    split at hok
    · rename_i hsame
      exact ⟨rfl, w, rfl, Except.ok.inj hok, hstrategy, hsame⟩
    · exact absurd hok (by simp)
  | _ =>
    unfold unwrapBoxed at hrun
    rw [run_get_bind, run_bind_of_ok s (run_converting_eq_ok.mpr
      ⟨boxedStrategy_byteCopy hinfo hstrategy, rfl⟩)] at hrun
    exact absurd (Prod.mk.inj hrun).1 (by simp)

/-! ## The ways of a conversion -/

/-- The ways in which a payload of a registered type becomes a handle. -/
inductive Writes (s : System σ) (r : RuntimeId) (info : Resolved) :
    NativeValue → Handle → System σ → Prop where
  | null (nullable : info.entry.classification.isNullable = true) :
    Writes s r info .null .undefined s
  | object (o : ObjectId) (w : ObjectWrapper) (isNew : Bool) (t : System σ)
    (kind : info.entry.classification.isRefcounted = true)
    (acquired : (acquireWrapper r o .borrowed).run.run s = (.ok (w, isNew), t)) :
    Writes s r info (.object o) (.object w) t
  | boxed (block : Block) (kind : info.entry.classification = .boxed)
    (strategy : info.entry.strategy = some (.boxed .byteCopy)) :
    Writes s r info (.boxed block) (.boxed (s.nextBox info block))
      { s with boxes := s.boxes.add { wrapper := s.nextBox info block, destroyer := none } }
  | variant (shared : SharedVariant) (kind : info.entry.classification = .variant) :
    Writes s r info (.variant shared) (.variant shared) s
  | scalar (payload : NativeValue) (h : Handle)
    (scalar : info.entry.classification.isNullable = false)
    (wrapped : info.wrapScalar payload = .ok h) : Writes s r info payload h s

/-- The ways in which a handle is read as a payload of a registered type. -/
inductive Reads (s : System σ) (r : RuntimeId) (info : Resolved) : Handle → NativeValue → Prop where
  | null (nullable : info.entry.classification.isNullable = true) : Reads s r info .undefined .null
  | object (w : ObjectWrapper) (actual : TypeId)
    (kind : info.entry.classification.isRefcounted = true)
    (live : s.heap.typeOf? w.object = some actual)
    (expected : s.heap.types.isA actual info.type = true) :
    Reads s r info (.object w) (.object w.object)
  | boxed (w : BoxedWrapper) (kind : info.entry.classification = .boxed)
    (strategy : info.entry.strategy = some (.boxed .byteCopy))
    (same : (s.registryOf r).canonical w.type = info.type) :
    Reads s r info (.boxed w) (.boxed w.block)
  | variant (shared : SharedVariant) (kind : info.entry.classification = .variant) :
    Reads s r info (.variant shared) (.variant shared)
  | scalar (h : Handle) (value : NativeValue) (refused : ConversionError)
    (scalar : info.entry.classification.isNullable = false) (defined : h.isDefined = true)
    (read : info.unwrapScalar h refused = .ok value) : Reads s r info h value

theorem writes_of_toHandle (hinfo : (s.registryOf r).resolve type = some info)
    (hbuiltIn : info.entry.IsBuiltIn)
    (hrun : (toHandle r ⟨type, payload⟩).run.run s = (.ok h, t)) : Writes s r info payload h t := by
  obtain ⟨a, hcase, heq⟩ := toHandleCase s r ⟨type, payload⟩
  rw [heq] at hrun
  rw [hinfo] at hcase
  cases hcase with
  | null hnullable hv =>
    obtain rfl : payload = .null := hv
    obtain ⟨rfl, rfl⟩ := run_pure_eq_ok.mp hrun
    exact .null hnullable
  | object o hkind hv =>
    obtain rfl : payload = .object o := hv
    obtain ⟨w, isNew, rfl, hacquired⟩ := run_wrapBorrowed.mp hrun
    exact .object o w isNew t hkind hacquired
  | boxed block hkind hv =>
    obtain rfl : payload = .boxed block := hv
    have hstrategy := byteCopy_of_wrapBoxed hinfo hbuiltIn hrun
    rw [run_wrapBoxed hinfo hstrategy] at hrun
    obtain ⟨hok, rfl⟩ := Prod.mk.inj hrun
    obtain rfl := Except.ok.inj hok
    exact .boxed block hkind hstrategy
  | variant shared hkind hv =>
    obtain rfl : payload = .variant shared := hv
    obtain ⟨rfl, rfl⟩ := run_pure_eq_ok.mp hrun
    exact .variant shared hkind
  | scalar =>
    obtain ⟨hwrap, rfl⟩ := run_converting_eq_ok.mp hrun
    exact .scalar _ h (Resolved.byScalar_of_wrapScalar hwrap).isNullable hwrap

theorem toHandle_of_writes (hinfo : (s.registryOf r).resolve type = some info)
    (hwrites : Writes s r info payload h t) :
    (toHandle r ⟨type, payload⟩).run.run s = (.ok h, t) := by
  unfold toHandle
  rw [run_get_bind, hinfo]
  dsimp only
  cases hwrites with
  | null hnullable =>
    rcases Classification.isNullable_iff.mp hnullable with hkind | hkind | hkind | hkind
    all_goals
      rw [hkind]
      rfl
  | object o w isNew t hkind hacquired =>
    have hwrap := run_wrapBorrowed.mpr ⟨w, isNew, rfl, hacquired⟩
    rcases Classification.isRefcounted_iff.mp hkind with hkind | hkind
    all_goals
      rw [hkind]
      exact hwrap
  | boxed block hkind hstrategy =>
    rw [hkind]
    exact run_wrapBoxed hinfo hstrategy block
  | variant shared hkind =>
    rw [hkind]
    rfl
  | scalar payload h hscalar hwrap =>
    have hrun : (converting (info.wrapScalar payload) : Attempt σ Handle).run.run s = (.ok h, s) :=
      run_converting_eq_ok.mpr ⟨hwrap, rfl⟩
    cases Resolved.byScalar_of_wrapScalar hwrap with
    | fundamental functions hkind =>
      rw [hkind]
      exact hrun
    | enumeration table hkind =>
      rw [hkind]
      exact hrun
    | flags table hkind =>
      rw [hkind]
      exact hrun

/-- A read leaves the state alone. -/
theorem reads_of_fromHandle (hinfo : (s.registryOf r).resolve type = some info)
    (hbuiltIn : info.entry.IsBuiltIn) {v : TypedValue}
    (hrun : (fromHandle r h type).run.run s = (.ok v, t)) :
    s = t ∧ ∃ value, v = ⟨type, value⟩ ∧ Reads s r info h value := by
  obtain ⟨a, hcase, heq⟩ := fromHandleCase s r h type
  rw [heq] at hrun
  rw [hinfo] at hcase
  cases hcase with
  | mismatch => exact absurd (Prod.mk.inj hrun).1 (by simp)
  | null hnullable hh =>
    obtain ⟨rfl, rfl⟩ := run_pure_eq_ok.mp hrun
    exact ⟨rfl, _, rfl, hh ▸ .null hnullable⟩
  | object hkind =>
    obtain ⟨o, u, hunwrap, hrun⟩ := run_bind_eq_ok.mp hrun
    obtain ⟨rfl, rfl⟩ := run_pure_eq_ok.mp hrun
    obtain ⟨rfl, w, actual, rfl, rfl, hactual, hisA⟩ := unwrapObject_ok hinfo hunwrap
    exact ⟨rfl, _, rfl, .object w actual hkind hactual hisA⟩
  | boxed hkind =>
    obtain ⟨block, u, hunwrap, hrun⟩ := run_bind_eq_ok.mp hrun
    obtain ⟨rfl, rfl⟩ := run_pure_eq_ok.mp hrun
    obtain ⟨rfl, w, rfl, rfl, hstrategy, hsame⟩ := unwrapBoxed_ok hinfo hbuiltIn hunwrap
    exact ⟨rfl, _, rfl, .boxed w hkind hstrategy hsame⟩
  | variant shared hkind hh =>
    obtain ⟨rfl, rfl⟩ := run_pure_eq_ok.mp hrun
    exact ⟨rfl, _, rfl, hh ▸ .variant shared hkind⟩
  | scalar hkind hdefined =>
    obtain ⟨value, u, hconverted, hrun⟩ := run_bind_eq_ok.mp hrun
    obtain ⟨rfl, rfl⟩ := run_pure_eq_ok.mp hrun
    obtain ⟨hread, rfl⟩ := run_converting_eq_ok.mp hconverted
    exact ⟨rfl, value, rfl, .scalar h value _ hkind hdefined hread⟩

theorem fromHandle_of_reads (hinfo : (s.registryOf r).resolve type = some info)
    (hreads : Reads s r info h value) :
    (fromHandle r h type).run.run s = (.ok ⟨type, value⟩, s) := by
  unfold fromHandle
  rw [run_get_bind, hinfo]
  dsimp only
  cases hreads with
  | null hnullable =>
    rw [hnullable]
    rfl
  | object w actual hkind hactual hisA =>
    have hunwrap : (unwrapObject r (.object w) type).run.run s = (.ok w.object, s) := by
      rw [run_unwrapObject s hactual type, canonicalIfRegistered_of_resolve hinfo, if_pos hisA]
    rcases Classification.isRefcounted_iff.mp hkind with hkind | hkind
    all_goals
      rw [hkind]
      exact run_bind_eq_ok.mpr ⟨w.object, s, hunwrap, rfl⟩
  | boxed w hkind hstrategy hsame =>
    have hunwrap : (unwrapBoxed r (.boxed w) type).run.run s = (.ok w.block, s) := by
      rw [run_unwrapBoxed hinfo hstrategy, if_pos hsame]
    rw [hkind]
    exact run_bind_eq_ok.mpr ⟨w.block, s, hunwrap, rfl⟩
  | variant shared hkind =>
    rw [hkind]
    rfl
  | scalar h value refused hnullable hdefined hread =>
    have hagain : (converting (info.unwrapScalar h (s.unconvertible r type)) :
        Attempt σ NativeValue).run.run s = (.ok value, s) :=
      run_converting_eq_ok.mpr ⟨Resolved.unwrapScalar_refused hread _, rfl⟩
    have hrun := run_bind_of_ok (f := fun value => pure (⟨type, value⟩ : TypedValue)) s hagain
    rw [hdefined]
    cases Resolved.byScalar_of_unwrapScalar hread with
    | fundamental functions hkind =>
      rw [hkind]
      exact hrun
    | enumeration table hkind =>
      rw [hkind]
      exact hrun
    | flags table hkind =>
      rw [hkind]
      exact hrun

end

end NativeBridge
