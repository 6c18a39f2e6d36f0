-- Conversions as trades, in any bookkeeping. A conversion to a handle gives one
-- holder of what the handle shows; a conversion from a handle trades nothing.
import NativeBridge.Proofs.ConversionCases
import NativeBridge.Proofs.Swapping

namespace NativeBridge

variable {τ α : Type}

/-! ## Balanced books -/

theorem Acquired.guest_eq {σ : Type} {c : Conduct} {own : Ownership} {o : ObjectId}
    {H : Multiset Release} {s : System σ}
    {result : Except BridgeError (ObjectWrapper × Bool) × System σ}
    (h : Acquired c own o H s result) : result.2.guest = s.guest := by
  cases h <;> assumption

theorem System.books_announce {σ : Type} (s : System σ) (strategy : BoxedStrategy) (use : BoxedUse)
    (block : Block) : (s.announce strategy use block).books = s.books := by
  unfold System.announce
  split
  · exact System.books_note_of_not_late s rfl
  · rfl

/-! ### What wraps of boxed structures give -/

section

variable {σ : Type} {G : Multiset Release → System σ → Prop} {F : Multiset Release}
  {s t : System σ} {r : RuntimeId} {block : Block} {type : TypeId} {owned : Bool}
  {outcome : Except BridgeError Handle}
  (hannounce : ∀ {F s} (strategy : BoxedStrategy) (use : BoxedUse) (block : Block), G F s →
    G F (s.announce strategy use block))
  (hadd : ∀ {F s} {w : BoxedWrapper} (destroyer : Option BoxedStrategy), G F s →
    w.number = s.boxes.size →
      G ({.boxed w} + F) { s with boxes := s.boxes.add { wrapper := w, destroyer } })

include hannounce hadd

/-- A wrap gives a holder of the new wrapper if it succeeds, and nothing if it
fails. -/
theorem WrapsTo.gives (h : WrapsTo s r block type owned outcome t) (hs : G F s) :
    G (handleGiven outcome + F) t := by
  cases h with
  | unresolved e hfound => rwa [handleGiven, Multiset.coe_nil, zero_add]
  | refused info strategy e hfound hwrap =>
    rw [handleGiven, Multiset.coe_nil, zero_add]
    exact hannounce strategy .wrap block hs
  | made info strategy held hfound hwrap =>
    let entry := s.boxFor info strategy held owned
    have hsize : entry.wrapper.number = (s.announce strategy .wrap block).boxes.size := by
      rw [System.announce_boxes]
      rfl
    have hmade := hadd entry.destroyer (hannounce strategy .wrap block hs) hsize
    rw [System.announce_boxes] at hmade
    exact hmade

theorem CopiesTo.gives (h : CopiesTo s r block type outcome t) (hs : G F s) :
    G (handleGiven outcome + F) t := by
  cases h with
  | unresolved e hfound => rwa [handleGiven, Multiset.coe_nil, zero_add]
  | copied info strategy hfound hwraps =>
    exact hwraps.gives hannounce hadd (hannounce strategy .copy block hs)

end

namespace Holding

variable {c : Conduct} {F : Multiset Release} {E : List ObjectId} {s : World τ}

theorem announce (strategy : BoxedStrategy) (use : BoxedUse) (block : Block)
    (h : Holding c F E s) : Holding c F E (s.announce strategy use block) :=
  h.of_books (s.guest_announce strategy use block) (s.books_announce strategy use block)

theorem addBox {w : BoxedWrapper} (destroyer : Option BoxedStrategy) (h : Holding c F E s)
    (hw : w.number = s.boxes.size) :
    Holding c ({.boxed w} + F) E { s with boxes := s.boxes.add { wrapper := w, destroyer } } :=
  h.gain (u := .boxed w) rfl trivial (h.balanced.addBox hw destroyer)

end Holding

/-- Balanced books tell what is held. -/
theorem Holding.isBookkeeping (c : Conduct) (E : List ObjectId) :
    IsBookkeeping fun F (s : World τ) => Holding c F E s where
  inUse h hu := h.inUse hu
  pledged h hs hu := h.inUse_of_pledged hs hu
  of_books h hguest hbooks _ := h.of_books hguest hbooks
  keep h hu := h.keep hu
  release h := h.release
  wrapped {_ _ _ o _ _ _} h hr hrun := by
    have hacquired := acquireWrapper_acquired (o := o) .borrowed h.balanced hr.2.2
    rw [hrun] at hacquired
    cases hacquired with
    | known w t hguest _ _ hbalanced => exact h.gain hguest trivial hbalanced
    | new w t hguest _ _ hbalanced =>
      apply h.gain (u := .wrapper _) hguest trivial
      apply hbalanced
      rw [if_neg (by simp), zero_add]
  unwrapped {_ _ _ o _ _} h hr hrun := by
    have hacquired := acquireWrapper_acquired (o := o) .borrowed h.balanced hr.2.2
    rw [hrun] at hacquired
    cases hacquired with
    | failed e t hguest hbalanced => exact h.step hguest (fun u hu => Or.inl hu) hbalanced
  wrapBoxed h hrun := (wrapsTo_of_run hrun).gives (G := fun F s => Holding c F E s)
    Holding.announce Holding.addBox h
  wrapBoxedCopy h hrun := (copiesTo_of_run hrun).gives (G := fun F s => Holding c F E s)
    Holding.announce Holding.addBox h

/-- What holds in any bookkeeping holds with balanced books. -/
theorem Tries.of_swaps {c : Conduct} {a : Attempt (Outside τ) α} {P back : Multiset Release}
    {got : α → Multiset Release}
    (h : ∀ E, SwapsOr (fun F (s : World τ) => Holding c F E s) a P got back) :
    Tries c a P got back := fun F E s hs => h E F s hs

theorem Trades.of_swaps {c : Conduct} {a : Action (Outside τ) α} {P : Multiset Release}
    {got : α → Multiset Release}
    (h : ∀ E, Swaps (fun F (s : World τ) => Holding c F E s) a P got) :
    Trades c a P got := fun F E s hs => h E F s hs

variable {H : Multiset Release → World τ → Prop}

/-! ## Steps that trade nothing -/

theorem converting_swaps (result : Except ConversionError α) (P : Multiset Release) :
    SwapsOr H (converting result) P (fun _ => P) P := by
  cases result <;> exact fun F s h => h

/-- An attempt that leaves the state as it is. -/
theorem pure_swaps {a : Attempt (Outside τ) α} (ha : ∀ s, (a.run.run s).2 = s)
    (P : Multiset Release) : SwapsOr H a P (fun _ => P) P := by
  refine SwapsOr.same_iff.mpr fun F s h => ?_
  rwa [ha s]

/-! ## Objects -/

theorem unwrapObject_swaps (r : RuntimeId) (h : Handle) (expected : TypeId)
    (P : Multiset Release) :
    SwapsOr H (unwrapObject r h expected) P (fun _ => P) P := by
  apply pure_swaps
  intro s
  unfold unwrapObject
  rw [run_get_bind]
  cases h.object? with
  | none => rfl
  | some w =>
    simp only
    cases s.heap.typeOf? w.object with
    | none => rfl
    | some actual =>
      simp only
      split <;> rfl

section

variable (hH : IsBookkeeping H)

include hH

theorem acquireWrapper_swaps (r : RuntimeId) (o : ObjectId) :
    SwapsOr H (acquireWrapper r o .borrowed) {.bridge r}
      (fun found => {.wrapper found.1} + {.bridge r}) {.bridge r} := by
  intro F s h
  have hused : s.InUse (.bridge r) :=
    hH.inUse h (Multiset.mem_add.mpr (Or.inl (Multiset.mem_singleton_self _)))
  rcases hrun : (acquireWrapper r o .borrowed).run.run s with ⟨e | ⟨w, isNew⟩, t⟩
  · exact hH.unwrapped h hused hrun
  · have hmade := hH.wrapped h hused hrun
    rwa [← add_assoc] at hmade

theorem wrapBorrowed_swaps (r : RuntimeId) (o : ObjectId) :
    SwapsOr H (wrapBorrowed r o) {.bridge r} (fun h => h.releases + {.bridge r})
      {.bridge r} := by
  refine (acquireWrapper_swaps hH r o).bind ?_
  rintro ⟨w, isNew⟩
  exact SwapsOr.pure rfl

end

/-! ## Boxed structures -/

/-- An attempt that gives a holder of the handle that it returns. -/
theorem swaps_of_given {a : Attempt (Outside τ) Handle} (P : Multiset Release)
    (ha : ∀ {F s outcome t}, H F s → a.run.run s = (outcome, t) → H (handleGiven outcome + F) t) :
    SwapsOr H a P (fun h => h.releases + P) P := by
  intro F s h
  rcases hrun : a.run.run s with ⟨e | handle, t⟩
  · have hdone := ha h hrun
    rwa [handleGiven, Multiset.coe_nil, zero_add] at hdone
  · have hdone := ha h hrun
    rwa [← add_assoc] at hdone

section

variable (hH : IsBookkeeping H)

include hH

theorem wrapBoxed_swaps (r : RuntimeId) (block : Block) (type : TypeId) (owned : Bool)
    (P : Multiset Release) :
    SwapsOr H (wrapBoxed r block type owned) P (fun h => h.releases + P) P :=
  swaps_of_given P hH.wrapBoxed

theorem wrapBoxedCopy_swaps (r : RuntimeId) (block : Block) (type : TypeId)
    (P : Multiset Release) :
    SwapsOr H (wrapBoxedCopy r block type) P (fun h => h.releases + P) P :=
  swaps_of_given P hH.wrapBoxedCopy

theorem announce_swaps (strategy : BoxedStrategy) {use : BoxedUse} (huse : use ≠ .copy)
    (block : Block) (P back : Multiset Release) :
    SwapsOr H (modify (·.announce strategy use block)) P (fun _ => P) back :=
  SwapsOr.change fun _ s h => hH.of_books h (s.guest_announce strategy use block)
    (s.books_announce strategy use block) (s.copyReports_announce strategy huse block)

theorem unwrapBoxed_swaps (r : RuntimeId) (h : Handle) (type : TypeId) (P : Multiset Release) :
    SwapsOr H (unwrapBoxed r h type) P (fun _ => P) P := by
  apply SwapsOr.get
  intro s₀
  refine (converting_swaps (s₀.boxedStrategy r type) P).bind ?_
  rintro ⟨info, strategy⟩
  cases h.boxed? with
  | none => exact SwapsOr.throw rfl
  | some w =>
    simp only
    split
    · refine (announce_swaps hH strategy BoxedUse.noConfusion w.block P P).bind ?_
      intro _
      exact converting_swaps (strategy.unwrap w.block) P
    · exact SwapsOr.throw rfl

end

/-! ## Typed values -/

theorem scalar_releases {result : Except ConversionError Scalar} {h : Handle}
    (hr : result.map Handle.scalar = .ok h) : h.releases = [] := by
  cases result with
  | error e => exact absurd hr (by simp [Except.map])
  | ok scalar =>
    rw [← Except.ok.inj hr]
    rfl

/-- A handle of a scalar holds nothing. -/
theorem wrapScalar_releases {info : Resolved} {payload : NativeValue} {h : Handle}
    (hw : info.wrapScalar payload = .ok h) : h.releases = [] := by
  unfold Resolved.wrapScalar at hw
  cases hstrategy : info.strategy with
  | error e =>
    simp only [hstrategy, bind, Except.bind, throw, throwThe, MonadExceptOf.throw] at hw
    split at hw <;> exact absurd hw (by simp)
  | ok strategy =>
    simp only [hstrategy, bind, Except.bind, throw, throwThe, MonadExceptOf.throw] at hw
    split at hw
    · split at hw
      · exact scalar_releases hw
      · exact absurd hw (by simp)
    · split at hw
      · unfold EnumTable.toHandle at hw
        split at hw
        · rw [← Except.ok.inj hw]
          rfl
        · exact absurd hw (by simp)
      · exact absurd hw (by simp)
    · split at hw
      · unfold FlagsTable.toHandle at hw
        simp only at hw
        split at hw
        · rw [← Except.ok.inj hw]
          rfl
        · exact absurd hw (by simp)
      · exact absurd hw (by simp)
    · exact absurd hw (by simp)

section

variable (hH : IsBookkeeping H)

include hH

theorem toHandle_swaps (r : RuntimeId) (v : TypedValue) :
    SwapsOr H (toHandle r v) {.bridge r} (fun h => h.releases + {.bridge r})
      {.bridge r} := by
  intro F s h
  obtain ⟨a, hcase, hrun⟩ := toHandleCase s r v
  have hswaps : SwapsOr H a {.bridge r} (fun h => h.releases + {.bridge r}) {.bridge r} := by
    generalize (s.registryOf r).resolve v.type = found at hcase
    cases hcase with
    | unknown => exact SwapsOr.throw rfl
    | unregistered o => exact wrapBorrowed_swaps hH r o
    | null => exact SwapsOr.pure (zero_add _).symm
    | object o => exact wrapBorrowed_swaps hH r o
    | boxed block => exact wrapBoxed_swaps hH r block v.type false {.bridge r}
    | variant => exact SwapsOr.pure (zero_add _).symm
    | @scalar info =>
      cases hw : info.wrapScalar v.value with
      | error e => exact SwapsOr.throw rfl
      | ok shown =>
        apply SwapsOr.pure
        rw [wrapScalar_releases hw, Multiset.coe_nil, zero_add]
  have hdone := hswaps F s h
  rwa [← hrun] at hdone

theorem fromHandle_swaps (r : RuntimeId) (h : Handle) (expected : TypeId) (P : Multiset Release) :
    SwapsOr H (fromHandle r h expected) P (fun _ => P) P := by
  intro F s hF
  obtain ⟨a, hcase, hrun⟩ := fromHandleCase s r h expected
  have hswaps : SwapsOr H a P (fun _ => P) P := by
    generalize (s.registryOf r).resolve expected = found at hcase
    cases hcase with
    | unknown => exact SwapsOr.throw rfl
    | mismatch => exact SwapsOr.throw rfl
    | null => exact SwapsOr.pure rfl
    | object => exact (unwrapObject_swaps r h expected P).bind fun _ => SwapsOr.pure rfl
    | boxed => exact (unwrapBoxed_swaps hH r h expected P).bind fun _ => SwapsOr.pure rfl
    | variant => exact SwapsOr.pure rfl
    | scalar => exact (converting_swaps _ P).bind fun _ => SwapsOr.pure rfl
  have hdone := hswaps F s hF
  rwa [← hrun] at hdone

end

end NativeBridge
