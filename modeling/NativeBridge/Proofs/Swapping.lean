-- Trades in any bookkeeping. What is held can be told in more ways than one,
-- and conversions and invocations do the same in all of them: they spend and
-- get what the elementary changes say.
import NativeBridge.Proofs.ConversionCases
import NativeBridge.Proofs.Trading

namespace NativeBridge

variable {τ α β : Type}

/-! ## Ways to tell what is held -/

/-- What is held, told in a way that the elementary changes respect. -/
structure IsBookkeeping (H : Multiset Release → World τ → Prop) : Prop where
  /-- What is held is in use. -/
  inUse : ∀ {F s u}, H F s → u ∈ F → s.InUse u
  /-- Shared things that something in use pledges are in use. -/
  pledged : ∀ {F s u}, H F s → u.account.IsShared → u ∈ s.books.pledged → s.InUse u
  of_books : ∀ {F s t}, H F s → t.guest = s.guest → t.books = s.books →
    t.copyReports = s.copyReports → H F t
  keep : ∀ {F s u}, H F s → s.InUse u → H ({u} + F) (s.keep u)
  release : ∀ {F : Multiset Release} {s : World τ} {ts : List Release}, H (ts + F) s →
    H F (s.release ts)
  wrapped : ∀ {F s r o w isNew t}, H F s → s.InUse (.bridge r) →
    (acquireWrapper r o .borrowed).run.run s = (.ok (w, isNew), t) → H ({.wrapper w} + F) t
  unwrapped : ∀ {F s r o e t}, H F s → s.InUse (.bridge r) →
    (acquireWrapper r o .borrowed).run.run s = (.error e, t) → H F t
  wrapBoxed : ∀ {F s r block type owned outcome t}, H F s →
    (wrapBoxed r block type owned).run.run s = (outcome, t) → H (handleGiven outcome + F) t
  wrapBoxedCopy : ∀ {F s r block type outcome t}, H F s →
    (wrapBoxedCopy r block type).run.run s = (outcome, t) → H (handleGiven outcome + F) t

/-- An action that spends some things and gets others. -/
def Swaps (H : Multiset Release → World τ → Prop) (a : Action (Outside τ) α)
    (given : Multiset Release) (got : α → Multiset Release) : Prop :=
  ∀ F s, H (given + F) s → H (got (a.run s).1 + F) (a.run s).2

/-- An attempt that spends some things. It gets some if it succeeds, and has
some back if it fails. -/
def SwapsOr (H : Multiset Release → World τ → Prop) (a : Attempt (Outside τ) α)
    (given : Multiset Release) (got : α → Multiset Release) (back : Multiset Release) : Prop :=
  Swaps H a.run given fun
    | .ok x => got x
    | .error _ => back

variable {H : Multiset Release → World τ → Prop}

theorem IsBookkeeping.keepAll (hH : IsBookkeeping H) {F : Multiset Release} {s : World τ}
    {ts : List Release} (h : H F s) (hts : ∀ u ∈ ts, s.InUse u) :
    H (ts + F) (ts.foldl System.keep s) := by
  induction ts generalizing s F with
  | nil => rwa [Multiset.coe_nil, zero_add]
  | cons u ts ih =>
    have hu := hts u List.mem_cons_self
    have hrest := ih (hH.keep h hu) fun v hv => (hts v (List.mem_cons_of_mem u hv)).keep hu
    rw [← Multiset.cons_coe, Multiset.cons_add, ← Multiset.singleton_add, add_left_comm]
    exact hrest

theorem IsBookkeeping.inUse_aside (hH : IsBookkeeping H) {F : Multiset Release} {s : World τ}
    {u : Release} (h : H ({u} + F) s) : s.InUse u :=
  hH.inUse h (Multiset.mem_add.mpr (Or.inl (Multiset.mem_singleton_self u)))

/-- Something that is set aside, and so in use throughout. -/
theorem IsBookkeeping.frame (hH : IsBookkeeping H) (G : Multiset Release) :
    IsBookkeeping fun F s => H (G + F) s where
  inUse h hu := hH.inUse h (Multiset.mem_add.mpr (Or.inr hu))
  pledged h := hH.pledged h
  of_books h := hH.of_books h
  keep h hu := by
    rw [add_left_comm]
    exact hH.keep h hu
  release h := by
    rw [add_left_comm] at h
    exact hH.release h
  wrapped h hr hrun := by
    rw [add_left_comm]
    exact hH.wrapped h hr hrun
  unwrapped h hr hrun := hH.unwrapped h hr hrun
  wrapBoxed h hrun := by
    rw [add_left_comm]
    exact hH.wrapBoxed h hrun
  wrapBoxedCopy h hrun := by
    rw [add_left_comm]
    exact hH.wrapBoxedCopy h hrun

/-! ## Rules for actions -/

namespace Swaps

variable {a : Action (Outside τ) α} {f : α → Action (Outside τ) β} {P Q : Multiset Release}
  {got : α → Multiset Release} {got' : β → Multiset Release}

theorem pure {x : α} (hP : P = got x) : Swaps H (Pure.pure x) P got := by
  subst hP
  exact fun _ _ h => h

theorem bind (ha : Swaps H a P got) (hf : ∀ x, Swaps H (f x) (got x) got') :
    Swaps H (a >>= f) P got' := fun F s h => hf _ F _ (ha F s h)

/-- Reading the state spends nothing. -/
theorem get {f : World τ → Action (Outside τ) β} (hf : ∀ s, Swaps H (f s) P got') :
    Swaps H (MonadState.get >>= f) P got' := fun F s h => hf s F s h

theorem change {f : World τ → World τ} (hf : ∀ F s, H (P + F) s → H (Q + F) (f s)) :
    Swaps H (modify f) P fun _ => Q := fun F s h => hf F s h

/-- What else is held is left alone. -/
theorem frame (ha : Swaps H a P got) (G : Multiset Release) :
    Swaps H a (P + G) fun x => got x + G := by
  intro F s h
  rw [add_assoc] at h ⊢
  exact ha (G + F) s h

/-- What is set aside is not touched. -/
theorem aside (ha : Swaps H a P got) (G : Multiset Release) :
    Swaps (fun F s => H (G + F) s) a P got := by
  intro F s h
  rw [add_left_comm] at h ⊢
  exact ha (G + F) s h

theorem of_eq (ha : Swaps H a P got) (hP : Q = P) {got₂ : α → Multiset Release}
    (hgot : ∀ x, got x = got₂ x) : Swaps H a Q got₂ := by
  intro F s h
  rw [hP] at h
  rw [← hgot]
  exact ha F s h

end Swaps

/-! ## Rules for attempts -/

namespace SwapsOr

variable {a : Attempt (Outside τ) α} {f : α → Attempt (Outside τ) β} {P Q : Multiset Release}
  {got : α → Multiset Release} {got' : β → Multiset Release} {back : Multiset Release}

theorem pure {x : α} (hP : P = got x) : SwapsOr H (Pure.pure x) P got back := by
  subst hP
  exact fun _ _ h => h

theorem throw {e : BridgeError} (hP : P = back) :
    SwapsOr H (MonadExcept.throw e) P got back := by
  subst hP
  exact fun _ _ h => h

theorem bind (ha : SwapsOr H a P got back) (hf : ∀ x, SwapsOr H (f x) (got x) got' back) :
    SwapsOr H (a >>= f) P got' back := by
  unfold SwapsOr
  rw [ExceptT.run_bind]
  apply Swaps.bind ha
  rintro (e | x)
  · exact fun F s h => h
  · exact hf x

theorem get {f : World τ → Attempt (Outside τ) β} (hf : ∀ s, SwapsOr H (f s) P got' back) :
    SwapsOr H (MonadState.get >>= f) P got' back := fun F s h => hf s F s h

theorem change {f : World τ → World τ} (hf : ∀ F s, H (P + F) s → H (Q + F) (f s)) :
    SwapsOr H (modify f) P (fun _ => Q) back := fun F s h => hf F s h

theorem frame (ha : SwapsOr H a P got back) (G : Multiset Release) :
    SwapsOr H a (P + G) (fun x => got x + G) (back + G) := by
  apply (Swaps.frame ha G).of_eq rfl
  rintro (e | x) <;> rfl

theorem doing {a : Action (Outside τ) α} (ha : Swaps H a P got) :
    SwapsOr H (NativeBridge.doing a) P got back := fun F s h => ha F s h

/-- The outcome as a value. -/
theorem outcomeOf (ha : SwapsOr H a P got back) (back' : Multiset Release) :
    SwapsOr H (NativeBridge.outcomeOf a) P
      (fun
        | .ok x => got x
        | .error _ => back) back' := fun F s h => ha F s h

/-- What is got tells nothing about the outcome. -/
theorem same_iff : SwapsOr H a P (fun _ => Q) Q ↔
    ∀ F s, H (P + F) s → H (Q + F) (a.run.run s).2 := by
  refine forall₂_congr fun F s => ?_
  cases (a.run.run s).1 <;> rfl

theorem of_eq (ha : SwapsOr H a P got back) (hP : Q = P) {got₂ : α → Multiset Release}
    (hgot : ∀ x, got x = got₂ x) {back₂ : Multiset Release} (hback : back = back₂) :
    SwapsOr H a Q got₂ back₂ := by
  apply Swaps.of_eq ha hP
  rintro (e | x)
  · exact hback
  · exact hgot x

/-- What was set aside is held again. -/
theorem of_aside {G : Multiset Release} (ha : SwapsOr (fun F s => H (G + F) s) a P got back) :
    SwapsOr H a (G + P) (fun x => G + got x) (G + back) := by
  intro F s h
  rw [add_assoc] at h
  have hdone := ha F s h
  rcases hrun : a.run.run s with ⟨e | x, t⟩ <;> rw [hrun] at hdone <;>
    simpa only [add_assoc] using hdone

end SwapsOr

end NativeBridge
