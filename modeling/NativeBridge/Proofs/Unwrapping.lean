-- Unwrapping what a wrap gave. An unwrap asks the native hierarchy for the
-- canonical form of the expected type, but for the type of the object as it
-- is; so a type that is registered as a synonym may be refused to objects
-- that are of it.
import NativeBridge.Proofs.Deeds

namespace NativeBridge

section

variable {σ : Type} {r : RuntimeId} {w : ObjectWrapper} {type : TypeId}

/-- What an unwrap of a handle of a live object gives. It leaves the state
alone. -/
theorem run_unwrapObject (s : System σ) (htype : s.heap.typeOf? w.object = some type)
    (expected : TypeId) :
    (unwrapObject r (.object w) expected).run.run s =
      (if s.heap.types.isA type ((s.registryOf r).canonicalIfRegistered expected) then .ok w.object
        else .error (.conversion (.typeMismatch (s.describeType r expected) w.package)), s) := by
  unfold unwrapObject
  rw [run_get_bind]
  simp only [Handle.object?, htype]
  split <;> rfl

/-- A type that is no synonym stands for itself. -/
theorem canonicalIfRegistered_of_not_synonym {registry : Registry} {id : TypeId}
    (h : ∀ info, registry.resolve id = some info → info.type = id) :
    registry.canonicalIfRegistered id = id := by
  unfold Registry.canonicalIfRegistered
  split
  · rename_i info hinfo
    exact h info hinfo
  · rfl

end

/-- What a wrap gives is the wrapper that it acquires. -/
theorem wrapObject_result {σ : Type} {g : Guest σ} {s t : System σ} {r : RuntimeId} {o : ObjectId}
    {owned isNew : Bool} {w : ObjectWrapper}
    (hrun : (acquireWrapper r o (.ofOwned owned)).run.run s = (.ok (w, isNew), t)) :
    ((wrapObject g r o owned).run.run s).1 = .ok (.object w) := by
  unfold wrapObject
  rw [run_bind_of_ok s hrun]
  dsimp only
  split
  · rw [run_get_bind]
    split <;> rfl
  · rfl

/-- A wrap gives a wrapper of its object. -/
theorem object_of_wrapObject {τ : Type} {c : Conduct} {s t : World τ} {H : Multiset Release}
    (hbalanced : Balanced c 0 H s.books) {r : RuntimeId} (hr : s.isBridgeAlive r = true)
    {g : Guest (Outside τ)} {o : ObjectId} {owned : Bool} {h : Handle}
    (hwrap : (wrapObject g r o owned).run.run s = (.ok h, t)) :
    ∃ w : ObjectWrapper, h = .object w ∧ w.object = o := by
  have hused : s.books.arenas.holders r.number ≠ 0 := System.isBridgeAlive_iff.mp hr
  have hacquired := acquireWrapper_acquired (o := o) (.ofOwned owned) hbalanced hused
  rcases hrun : (acquireWrapper r o (.ofOwned owned)).run.run s with ⟨result, t'⟩
  rw [hrun] at hacquired
  have hgives : ∀ {w isNew}, result = .ok (w, isNew) → h = .object w := by
    rintro w isNew rfl
    have hresult := wrapObject_result (g := g) hrun
    rw [hwrap] at hresult
    exact Except.ok.inj hresult
  cases hacquired with
  | failed e t hguest hfailed =>
    unfold wrapObject at hwrap
    rw [run_bind_of_error s hrun] at hwrap
    exact absurd (Prod.mk.inj hwrap).1 (by simp)
  | known w t hguest hobject hold hknown => exact ⟨w, hgives rfl, hobject⟩
  | new w t hguest hobject hnext hnew => exact ⟨w, hgives rfl, hobject⟩

/-! ## Wraps and unwraps -/

/-- Under any conduct, a handle that a wrap gave unwraps to its object, as
long as that lives, for exactly those types whose canonical form the type
of the object is. These are all the types that it is of and that are no
synonyms. The unwrap leaves the state alone. -/
theorem unwrap_of_wrap_iff {τ : Type} {s t : World τ} (h : s.Reached .any) {r : RuntimeId}
    (hr : s.isBridgeAlive r = true) {g : Guest (Outside τ)} {o : ObjectId} {owned : Bool}
    {handle : Handle} (hwrap : (wrapObject g r o owned).run.run s = (.ok handle, t))
    {u : World τ} {type : TypeId} (htype : u.heap.typeOf? o = some type) (expected : TypeId) :
    (((unwrapObject r handle expected).run.run u).1 = .ok o ↔
      u.heap.types.isA type ((u.registryOf r).canonicalIfRegistered expected) = true) ∧
    ((∀ info, (u.registryOf r).resolve expected = some info → info.type = expected) →
      u.heap.types.isA type expected = true →
      ((unwrapObject r handle expected).run.run u).1 = .ok o) ∧
    ((unwrapObject r handle expected).run.run u).2 = u := by
  obtain ⟨F, hs⟩ := h.holding
  obtain ⟨w, rfl, rfl⟩ := object_of_wrapObject hs.balanced hr hwrap
  rw [run_unwrapObject u htype expected]
  refine ⟨?_, ?_, rfl⟩
  · split
    · rename_i hisA
      exact iff_of_true rfl hisA
    · rename_i hisA
      exact iff_of_false (by simp) hisA
  · intro hsynonym hisA
    rw [canonicalIfRegistered_of_not_synonym hsynonym, if_pos hisA]

/-- The object of the small run unwraps as its own type. -/
theorem sample_unwrap_of_wrap :
    ((unwrapObject Sample.bridge (.object Sample.wrapper) Sample.type).run.run
      Sample.wrapped).1 = .ok Sample.object := by
  have halive : Sample.wrapped.isBridgeAlive Sample.bridge = true := by decide +kernel
  have hwrap : (wrapObject (.idle _) Sample.bridge Sample.object false).run.run Sample.wrapped =
      (.ok (.object Sample.wrapper), Sample.wrapped.holdHandle (.object Sample.wrapper)) := rfl
  have htype : Sample.wrapped.heap.typeOf? Sample.object = some Sample.type := by decide +kernel
  have hunwrap := unwrap_of_wrap_iff (Sample.wrapped_reached .any) halive hwrap htype Sample.type
  exact hunwrap.1.mpr (by decide +kernel)

end NativeBridge
