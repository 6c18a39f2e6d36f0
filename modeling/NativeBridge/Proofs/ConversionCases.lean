-- What a conversion comes down to. A wrap of a boxed structure ends in one of a
-- few ways. Of other conversions the registration of the declared type and the
-- value or the handle itself decide on one of a few attempts, and the
-- conversion is this attempt.
import NativeBridge.Proofs.Wrapping

namespace NativeBridge

variable {σ : Type}

/-! ## Reports of copies -/

/-- The name of the strategy that is reported to make a copy. -/
def Notice.copied? : Notice → Option String
  | .boxed .copy name _ => some name
  | _ => none

namespace System

/-- The names of the strategies that were reported to make copies, in order. -/
def copyReports (s : System σ) : List String := s.notices.filterMap Notice.copied?

theorem copyReports_note (s : System σ) {n : Notice} (hn : n.copied? = none) :
    (s.note n).copyReports = s.copyReports := by
  unfold copyReports note
  rw [List.filterMap_append, List.filterMap_cons_none hn, List.filterMap_nil, List.append_nil]

/-- Of the uses of a strategy only a copy is reported as one. -/
theorem copyReports_announce (s : System σ) (strategy : BoxedStrategy) {use : BoxedUse}
    (huse : use ≠ .copy) (block : Block) :
    (s.announce strategy use block).copyReports = s.copyReports := by
  unfold announce
  split
  · apply s.copyReports_note
    cases use with
    | copy => exact absurd rfl huse
    | _ => rfl
  · rfl

theorem copyReports_announce_copy (s : System σ) (strategy : BoxedStrategy) (block : Block) :
    (s.announce strategy .copy block).copyReports = s.copyReports ++ strategy.name.toList := by
  unfold announce
  cases strategy.name with
  | none => exact (List.append_nil _).symm
  | some name => exact List.filterMap_append ..

@[simp] theorem guest_announce (s : System σ) (strategy : BoxedStrategy) (use : BoxedUse)
    (block : Block) : (s.announce strategy use block).guest = s.guest := by
  unfold announce
  split <;> rfl

end System

/-! ## Wraps of boxed structures -/

@[simp] theorem System.announce_boxes (s : System σ) (strategy : BoxedStrategy) (use : BoxedUse)
    (block : Block) : (s.announce strategy use block).boxes = s.boxes := by
  unfold System.announce
  split <;> rfl

/-- A strategy that is announced changes no registry. -/
theorem System.boxedStrategy_announce (s : System σ) (strategy : BoxedStrategy) (use : BoxedUse)
    (block : Block) (r : RuntimeId) (type : TypeId) :
    (s.announce strategy use block).boxedStrategy r type = s.boxedStrategy r type := by
  unfold System.announce
  split <;> rfl

/-- The record of the wrapper that the next wrap makes. -/
def System.boxFor (s : System σ) (info : Resolved) (strategy : BoxedStrategy) (held : Block)
    (owned : Bool) : BoxRecord where
  wrapper := ⟨s.boxes.size, info.type, info.entry.package, held, .ofOwned owned⟩
  destroyer := if owned then some strategy else none

@[simp] theorem System.boxFor_announce (s : System σ) (strategy : BoxedStrategy) (use : BoxedUse)
    (block : Block) : (s.announce strategy use block).boxFor = s.boxFor := by
  unfold System.boxFor
  rw [System.announce_boxes]

/-- An owned wrapper calls the strategy that made it, and a borrowed one none. -/
theorem System.hook?_boxFor (s : System σ) (info : Resolved) (strategy : BoxedStrategy)
    (held : Block) (owned : Bool) :
    (s.boxFor info strategy held owned).hook? = if owned then some strategy else none := by
  cases owned <;> rfl

section

variable {s t : System σ} {r : RuntimeId} {block : Block} {type : TypeId} {owned : Bool}
  {outcome : Except BridgeError Handle}

/-- The ways in which a wrap of a block ends. -/
inductive WrapsTo (s : System σ) (r : RuntimeId) (block : Block) (type : TypeId) (owned : Bool) :
    Except BridgeError Handle → System σ → Prop where
  | unresolved (e : ConversionError) (hfound : s.boxedStrategy r type = .error e) :
    WrapsTo s r block type owned (.error (.conversion e)) s
  | refused (info : Resolved) (strategy : BoxedStrategy) (e : ConversionError)
    (hfound : s.boxedStrategy r type = .ok (info, strategy))
    (hwrap : strategy.wrap block = .error e) :
    WrapsTo s r block type owned (.error (.conversion e)) (s.announce strategy .wrap block)
  | made (info : Resolved) (strategy : BoxedStrategy) (held : Block)
    (hfound : s.boxedStrategy r type = .ok (info, strategy))
    (hwrap : strategy.wrap block = .ok held) :
    WrapsTo s r block type owned (.ok (.boxed (s.boxFor info strategy held owned).wrapper))
      { s.announce strategy .wrap block with
        boxes := s.boxes.add (s.boxFor info strategy held owned) }

theorem wrapsTo_of_run (hrun : (wrapBoxed r block type owned).run.run s = (outcome, t)) :
    WrapsTo s r block type owned outcome t := by
  unfold wrapBoxed at hrun
  rw [run_get_bind] at hrun
  cases hfound : s.boxedStrategy r type with
  | error e =>
    rw [hfound, run_bind_of_error s (run_converting_error s e)] at hrun
    obtain ⟨rfl, rfl⟩ := Prod.mk.inj hrun
    exact .unresolved e hfound
  | ok found =>
    obtain ⟨info, strategy⟩ := found
    rw [hfound, run_bind_of_ok s (run_converting_eq_ok.mpr ⟨rfl, rfl⟩), run_modify_bind] at hrun
    cases hwrap : strategy.wrap block with
    | error e =>
      rw [hwrap, run_bind_of_error _ (run_converting_error _ e)] at hrun
      obtain ⟨rfl, rfl⟩ := Prod.mk.inj hrun
      exact .refused info strategy e hfound hwrap
    | ok held =>
      rw [hwrap, run_bind_of_ok _ (run_converting_eq_ok.mpr ⟨rfl, rfl⟩)] at hrun
      obtain ⟨rfl, rfl⟩ := Prod.mk.inj hrun
      have hmade : WrapsTo s r block type owned _ _ := .made info strategy held hfound hwrap
      simp only [System.boxFor] at hmade ⊢
      simpa only [System.announce_boxes] using hmade

/-- The ways in which a wrap of a copy ends. A copy is made where the type has
a strategy for boxed types, and then it is wrapped as an owned block. -/
inductive CopiesTo (s : System σ) (r : RuntimeId) (block : Block) (type : TypeId) :
    Except BridgeError Handle → System σ → Prop where
  | unresolved (e : ConversionError) (hfound : s.boxedStrategy r type = .error e) :
    CopiesTo s r block type (.error (.conversion e)) s
  | copied {outcome : Except BridgeError Handle} {t : System σ} (info : Resolved)
    (strategy : BoxedStrategy) (hfound : s.boxedStrategy r type = .ok (info, strategy))
    (hwraps : WrapsTo (s.announce strategy .copy block) r (strategy.copy block) type true
      outcome t) :
    CopiesTo s r block type outcome t

theorem copiesTo_of_run (hrun : (wrapBoxedCopy r block type).run.run s = (outcome, t)) :
    CopiesTo s r block type outcome t := by
  unfold wrapBoxedCopy at hrun
  rw [run_get_bind] at hrun
  cases hfound : s.boxedStrategy r type with
  | error e =>
    rw [hfound, run_bind_of_error s (run_converting_error s e)] at hrun
    obtain ⟨rfl, rfl⟩ := Prod.mk.inj hrun
    exact .unresolved e hfound
  | ok found =>
    obtain ⟨info, strategy⟩ := found
    rw [hfound, run_bind_of_ok s (run_converting_eq_ok.mpr ⟨rfl, rfl⟩), run_modify_bind] at hrun
    exact .copied info strategy hfound (wrapsTo_of_run hrun)

/-! ### What they leave alone -/

theorem WrapsTo.guest (h : WrapsTo s r block type owned outcome t) : t.guest = s.guest := by
  cases h with
  | unresolved e hfound => rfl
  | refused info strategy e hfound hwrap => exact s.guest_announce strategy .wrap block
  | made info strategy held hfound hwrap => exact s.guest_announce strategy .wrap block

theorem CopiesTo.guest (h : CopiesTo s r block type outcome t) : t.guest = s.guest := by
  cases h with
  | unresolved e hfound => rfl
  | copied info strategy hfound hwraps =>
    exact hwraps.guest.trans (s.guest_announce strategy .copy block)

/-- A wrap makes no copy. -/
theorem WrapsTo.copyReports (h : WrapsTo s r block type owned outcome t) :
    t.copyReports = s.copyReports := by
  have hannounced := s.copyReports_announce
  cases h with
  | unresolved e hfound => rfl
  | refused info strategy e hfound hwrap => exact hannounced strategy BoxedUse.noConfusion block
  | made info strategy held hfound hwrap => exact hannounced strategy BoxedUse.noConfusion block

end

/-! ## Typed values -/

section

variable (s : System σ) (r : RuntimeId)

/-! ### To a handle -/

/-- What the conversion of a value to a handle comes down to, by what is
registered for its type. -/
inductive ToHandleCase (v : TypedValue) : Option Resolved → Attempt σ Handle → Prop where
  | unknown : ToHandleCase v none (throw (.conversion (s.unconvertible r v.type)))
  | unregistered (o : ObjectId) (hv : v.value = .object o) : ToHandleCase v none (wrapBorrowed r o)
  | null {info : Resolved} (hkind : info.entry.classification.isNullable = true)
    (hv : v.value = .null) : ToHandleCase v (some info) (pure .undefined)
  | object {info : Resolved} (o : ObjectId)
    (hkind : info.entry.classification.isRefcounted = true) (hv : v.value = .object o) :
    ToHandleCase v (some info) (wrapBorrowed r o)
  | boxed {info : Resolved} (block : Block) (hkind : info.entry.classification = .boxed)
    (hv : v.value = .boxed block) : ToHandleCase v (some info) (wrapBoxed r block v.type false)
  | variant {info : Resolved} (shared : SharedVariant)
    (hkind : info.entry.classification = .variant) (hv : v.value = .variant shared) :
    ToHandleCase v (some info) (pure (.variant shared))
  | scalar {info : Resolved} :
    ToHandleCase v (some info) (converting (info.wrapScalar v.value))

theorem toHandleCase (v : TypedValue) :
    ∃ a, ToHandleCase s r v ((s.registryOf r).resolve v.type) a ∧
      (toHandle r v).run.run s = a.run.run s := by
  obtain ⟨type, value⟩ := v
  unfold toHandle
  rw [run_get_bind]
  cases (s.registryOf r).resolve type with
  | none =>
    cases value with
    | object o => exact ⟨_, .unregistered o rfl, rfl⟩
    | _ => exact ⟨_, .unknown, rfl⟩
  | some info =>
    dsimp only
    -- four classes have a "no value", and two are of objects
    split
    case h_1 hkind => exact ⟨_, .null (by rw [hkind]; rfl) rfl, rfl⟩
    case h_2 hkind => exact ⟨_, .null (by rw [hkind]; rfl) rfl, rfl⟩
    case h_3 hkind => exact ⟨_, .null (by rw [hkind]; rfl) rfl, rfl⟩
    case h_4 hkind => exact ⟨_, .null (by rw [hkind]; rfl) rfl, rfl⟩
    case h_5 o hkind => exact ⟨_, .object o (by rw [hkind]; rfl) rfl, rfl⟩
    case h_6 o hkind => exact ⟨_, .object o (by rw [hkind]; rfl) rfl, rfl⟩
    case h_7 block hkind => exact ⟨_, .boxed block hkind rfl, rfl⟩
    case h_8 shared hkind => exact ⟨_, .variant shared hkind rfl, rfl⟩
    case h_9 => exact ⟨_, .scalar, rfl⟩

/-! ### From a handle -/

/-- What the conversion of a handle to a value comes down to, by what is
registered for the expected type. -/
inductive FromHandleCase (h : Handle) (expected : TypeId) :
    Option Resolved → Attempt σ TypedValue → Prop where
  | unknown : FromHandleCase h expected none (throw (.conversion (s.unconvertible r expected)))
  | mismatch {info : Resolved} : FromHandleCase h expected (some info)
      (throw (.conversion (.typeMismatch info.entry.package h.typeName)))
  | null {info : Resolved} (hkind : info.entry.classification.isNullable = true)
    (hh : h = .undefined) : FromHandleCase h expected (some info) (pure ⟨expected, .null⟩)
  | object {info : Resolved} (hkind : info.entry.classification.isRefcounted = true) :
    FromHandleCase h expected (some info) (do
      return ⟨expected, .object (← unwrapObject r h expected)⟩)
  | boxed {info : Resolved} (hkind : info.entry.classification = .boxed) :
    FromHandleCase h expected (some info) (do
      return ⟨expected, .boxed (← unwrapBoxed r h expected)⟩)
  | variant {info : Resolved} (shared : SharedVariant)
    (hkind : info.entry.classification = .variant) (hh : h = .variant shared) :
    FromHandleCase h expected (some info) (pure ⟨expected, .variant shared⟩)
  | scalar {info : Resolved} (hkind : info.entry.classification.isNullable = false)
    (hh : h.isDefined = true) : FromHandleCase h expected (some info) (do
      return ⟨expected, ← converting (info.unwrapScalar h (s.unconvertible r expected))⟩)

theorem fromHandleCase (h : Handle) (expected : TypeId) :
    ∃ a, FromHandleCase s r h expected ((s.registryOf r).resolve expected) a ∧
      (fromHandle r h expected).run.run s = a.run.run s := by
  unfold fromHandle
  rw [run_get_bind]
  cases (s.registryOf r).resolve expected with
  | none => exact ⟨_, .unknown, rfl⟩
  | some info =>
    dsimp only
    cases hdefined : h.isDefined with
    | false =>
      cases hkind : info.entry.classification.isNullable with
      | false => exact ⟨_, .mismatch, rfl⟩
      | true =>
        have hh : h = .undefined := by cases h <;> first | rfl | exact nomatch hdefined
        exact ⟨_, .null hkind hh, rfl⟩
    | true =>
      cases hkind : info.entry.classification with
      | object | paramSpec => exact ⟨_, .object (by rw [hkind]; rfl), rfl⟩
      | boxed => exact ⟨_, .boxed hkind, rfl⟩
      | variant =>
        cases h with
        | variant shared => exact ⟨_, .variant shared hkind rfl, rfl⟩
        | _ => exact ⟨_, .mismatch, rfl⟩
      | fundamental | enumeration | flags =>
        exact ⟨_, .scalar (by rw [hkind]; rfl) hdefined, rfl⟩

end

end NativeBridge
