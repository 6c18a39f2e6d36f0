-- Results that are converted early or late. A conversion to a native value
-- looks at the registry of its bridge, at the native types and at the object
-- behind the handle; releases can only finalize that object.
import NativeBridge.Proofs.Courses
import NativeBridge.Proofs.ReleaseOrder

namespace NativeBridge

variable {σ τ : Type}

/-! ## Reading a handle in another state -/

theorem run_bind_pure {α β : Type} (s : System σ) (a : Attempt σ α) (f : α → β) :
    (a >>= fun found => pure (f found)).run.run s =
      ((a.run.run s).1.map f, (a.run.run s).2) := by
  rcases hrun : a.run.run s with ⟨e | found, t⟩
  · rw [run_bind_of_error s hrun]
    rfl
  · rw [run_bind_of_ok s hrun]
    rfl

/-- A state with other reports, though not of relays. -/
structure System.Noted (s t : System σ) : Prop where
  rest : ∃ notices, t = { s with notices }
  log : t.relayLog = s.relayLog

theorem System.noted_refl (s : System σ) : s.Noted s := ⟨⟨s.notices, rfl⟩, rfl⟩

theorem System.noted_announce (s : System σ) (strategy : BoxedStrategy) (use : BoxedUse)
    (block : Block) : s.Noted (s.announce strategy use block) := by
  unfold announce
  split
  · exact ⟨⟨_, rfl⟩, s.relayLog_note rfl⟩
  · exact s.noted_refl

theorem System.Noted.nearly {R : List UInt32 → List UInt32 → Prop} (hR : ∀ l, R l l)
    {s t : System σ} (h : s.Noted t) : s.Nearly R t := by
  obtain ⟨⟨notices, rfl⟩, -⟩ := h
  exact ⟨⟨hR _, rfl⟩, rfl⟩

/-- Two states that agree on what a bridge looks up: its registry and the
native types. -/
structure System.LooksUpAlike (r : RuntimeId) (s t : System σ) : Prop where
  registry : t.registryOf r = s.registryOf r
  types : t.heap.types = s.heap.types

namespace System.LooksUpAlike

variable {r : RuntimeId} {s t : System σ} (h : s.LooksUpAlike r t)

include h

theorem describeType (type : TypeId) : t.describeType r type = s.describeType r type := by
  unfold System.describeType
  rw [h.registry, h.types]

theorem unconvertible (type : TypeId) : t.unconvertible r type = s.unconvertible r type := by
  unfold System.unconvertible
  rw [h.describeType]

theorem boxedStrategy (type : TypeId) : t.boxedStrategy r type = s.boxedStrategy r type := by
  unfold System.boxedStrategy
  rw [h.registry, h.unconvertible]

theorem unwrapObject {w : ObjectWrapper}
    (htype : t.heap.typeOf? w.object = s.heap.typeOf? w.object) (type : TypeId) :
    ((NativeBridge.unwrapObject r (.object w) type).run.run t).1 =
      ((NativeBridge.unwrapObject r (.object w) type).run.run s).1 := by
  unfold NativeBridge.unwrapObject
  rw [run_get_bind, run_get_bind, h.registry, h.types, h.describeType]
  simp only [Handle.object?, htype]
  split
  · rfl
  · split <;> rfl

theorem unwrapBoxed (handle : Handle) (type : TypeId) :
    ((NativeBridge.unwrapBoxed r handle type).run.run t).1 =
      ((NativeBridge.unwrapBoxed r handle type).run.run s).1 := by
  unfold NativeBridge.unwrapBoxed
  rw [run_get_bind, run_get_bind, h.registry, h.boxedStrategy]
  cases s.boxedStrategy r type with
  | error e => rfl
  | ok found =>
    have hfound : ∀ x : System σ, (converting (.ok found)).run.run x = (.ok found, x) :=
      fun _ => rfl
    rw [run_bind_of_ok _ (hfound s), run_bind_of_ok _ (hfound t)]
    dsimp only
    split
    · rfl
    · split
      · rw [run_modify_bind, run_modify_bind]
        cases found.2.unwrap _ <;> rfl
      · rfl

theorem fromHandle (handle : Handle) (type : TypeId)
    (hlive : ∀ w, handle = .object w → t.heap.typeOf? w.object = s.heap.typeOf? w.object) :
    ((NativeBridge.fromHandle r handle type).run.run t).1 =
      ((NativeBridge.fromHandle r handle type).run.run s).1 := by
  have hobject : ((NativeBridge.unwrapObject r handle type).run.run t).1 =
      ((NativeBridge.unwrapObject r handle type).run.run s).1 := by
    cases handle with
    | object w => exact h.unwrapObject (hlive w rfl) type
    | _ =>
      unfold NativeBridge.unwrapObject
      rw [run_get_bind, run_get_bind, h.describeType]
      rfl
  unfold NativeBridge.fromHandle
  rw [run_get_bind, run_get_bind, h.registry, h.unconvertible]
  cases (s.registryOf r).resolve type with
  | none => rfl
  | some info =>
    dsimp only
    split
    · split <;> rfl
    · cases info.entry.classification with
      | object | paramSpec => rw [run_bind_pure, run_bind_pure, hobject]
      | boxed => rw [run_bind_pure, run_bind_pure, h.unwrapBoxed]
      | variant => cases handle <;> rfl
      | fundamental | enumeration | flags =>
        rw [run_bind_pure, run_bind_pure]
        cases info.unwrapScalar handle _ <;> rfl

end System.LooksUpAlike

section

variable {r : RuntimeId} {s : System σ}

theorem unwrapBoxed_notes (handle : Handle) (type : TypeId) :
    s.Noted ((unwrapBoxed r handle type).run.run s).2 := by
  unfold unwrapBoxed
  rw [run_get_bind]
  cases s.boxedStrategy r type with
  | error e => exact s.noted_refl
  | ok found =>
    have hfound : (converting (.ok found)).run.run s = (.ok found, s) := rfl
    rw [run_bind_of_ok _ hfound]
    dsimp only
    split
    · exact s.noted_refl
    · split
      · rw [run_modify_bind]
        rename_i w _ _
        cases found.2.unwrap w.block <;> exact s.noted_announce _ _ _
      · exact s.noted_refl

theorem unwrapObject_notes (handle : Handle) (type : TypeId) :
    s.Noted ((unwrapObject r handle type).run.run s).2 := by
  unfold unwrapObject
  rw [run_get_bind]
  split
  · exact s.noted_refl
  · split
    · exact s.noted_refl
    · split <;> exact s.noted_refl

/-- A handle that is read changes nothing but the reports. -/
theorem fromHandle_notes (handle : Handle) (type : TypeId) :
    s.Noted ((fromHandle r handle type).run.run s).2 := by
  obtain ⟨a, hcase, hrun⟩ := fromHandleCase s r handle type
  rw [hrun]
  generalize (s.registryOf r).resolve type = found at hcase
  cases hcase with
  | unknown | mismatch | null | variant => exact s.noted_refl
  | object =>
    rw [run_bind_pure]
    exact unwrapObject_notes handle type
  | boxed =>
    rw [run_bind_pure]
    exact unwrapBoxed_notes handle type
  | @scalar info =>
    rw [run_bind_pure]
    cases info.unwrapScalar handle _ <;> exact s.noted_refl

/-- Without its object, a handle is read as before, or it is stale. -/
theorem fromHandle_of_stale {t : System σ} (h : s.LooksUpAlike r t) {w : ObjectWrapper}
    (hstale : t.heap.typeOf? w.object = none) (type : TypeId) :
    ((fromHandle r (.object w) type).run.run t).1 =
        ((fromHandle r (.object w) type).run.run s).1 ∨
      ((fromHandle r (.object w) type).run.run t).1 = .error (.native (.staleObject w.object)) := by
  have hobject : (unwrapObject r (.object w) type).run.run t =
      (.error (.native (.staleObject w.object)), t) := by
    unfold unwrapObject
    rw [run_get_bind]
    simp only [Handle.object?, hstale]
    rfl
  unfold fromHandle
  rw [run_get_bind, run_get_bind, h.registry, h.unconvertible]
  cases (s.registryOf r).resolve type with
  | none => exact .inl rfl
  | some info =>
    dsimp only
    split
    · left
      split <;> rfl
    · cases info.entry.classification with
      | object | paramSpec =>
        right
        rw [run_bind_of_error _ hobject]
      | boxed =>
        left
        rw [run_bind_pure, run_bind_pure, h.unwrapBoxed]
      | variant => exact .inl rfl
      | fundamental | enumeration | flags =>
        left
        rw [run_bind_pure, run_bind_pure]
        cases info.unwrapScalar _ _ <;> rfl

end

/-! ## After releases -/

/-- What plain releases can do to objects, registries and bridges: objects are
finalized. -/
structure System.Loses (s t : System σ) : Prop where
  registries : t.registries = s.registries
  bridges : t.bridges = s.bridges
  types : t.heap.types = s.heap.types
  full : t.heap.full = s.heap.full
  typeOf? : ∀ o, t.heap.typeOf? o = s.heap.typeOf? o ∨ t.heap.typeOf? o = none

namespace System

variable {s t u : System σ}

theorem Loses.refl (s : System σ) : s.Loses s := ⟨rfl, rfl, rfl, rfl, fun _ => .inl rfl⟩

theorem Loses.trans (h : s.Loses t) (h' : t.Loses u) : s.Loses u where
  registries := h'.registries.trans h.registries
  bridges := h'.bridges.trans h.bridges
  types := h'.types.trans h.types
  full := h'.full.trans h.full
  typeOf? o := by
    rcases h'.typeOf? o with hsame | hgone
    · rw [hsame]
      exact h.typeOf? o
    · exact .inr hgone

theorem Loses.looksUpAlike (h : s.Loses t) (r : RuntimeId) : s.LooksUpAlike r t where
  registry := by simp only [registryOf, registry, bridge, h.registries, h.bridges]
  types := h.types

theorem loses_of_live {o : ObjectId} {object : LiveObject Subscriber}
    (hl : s.heap.live? o = some object) :
    s.Loses { s with heap := s.heap.lower o object } := by
  have hother : ∀ p ≠ o, (s.heap.lower o object).typeOf? p = s.heap.typeOf? p := by
    intro p hp
    unfold Heap.typeOf?
    rw [Heap.live?_lower_ne hl hp]
  unfold Heap.lower at hother ⊢
  split
  · rw [if_pos ‹_›] at hother
    refine ⟨rfl, rfl, rfl, rfl, fun p => ?_⟩
    by_cases hp : p = o
    · subst hp
      right
      unfold Heap.typeOf?
      rw [Heap.live?_vacate_self]
      rfl
    · exact .inl (hother p hp)
  · rw [if_neg ‹_›] at hother
    refine ⟨rfl, rfl, rfl, rfl, fun p => .inl ?_⟩
    by_cases hp : p = o
    · subst hp
      unfold Heap.typeOf?
      rw [Heap.live?_store_self _ hl, hl]
      rfl
    · exact hother p hp

theorem loses_releaseReference (s : System σ) (o : ObjectId)
    (report : ObjectId → NativeError → Notice) : s.Loses (s.releaseReference o report).2 := by
  cases hl : s.heap.live? o with
  | none =>
    rw [releaseReference_of_stale hl]
    exact ⟨rfl, rfl, rfl, rfl, fun _ => .inl rfl⟩
  | some object =>
    rw [releaseReference_of_live hl]
    exact loses_of_live hl

theorem loses_releaseOne (s : System σ) {t : Release} (ht : t.IsPlain) :
    s.Loses (s.releaseOne t).2 := by
  by_cases hs : t.account.IsShared
  · have hlost := nearly_lose (R := Eq) (fun _ => rfl) s ht hs
    have hheap : (s.releaseOne t).2.heap = s.heap := by
      rw [hlost.heap.rest, ← hlost.heap.free]
      cases t <;> rfl
    rw [hlost.rest, hheap]
    cases t <;> first | exact absurd ht id | exact ⟨rfl, rfl, rfl, rfl, fun _ => .inl rfl⟩
  · obtain ⟨o, rfl⟩ := ht.eq_object hs
    exact s.loses_releaseReference o _

theorem loses_release (s : System σ) {ts : List Release} (hts : ∀ t ∈ ts, t.IsPlain) :
    s.Loses (s.release ts) := by
  have hkept := release_keeps (P := fun due t => s.Loses t ∧ ∀ u ∈ due, u.IsPlain) ?_ ts s
    ⟨.refl s, hts⟩
  · exact hkept.1
  · rintro first rest t ⟨hlost, hplain⟩
    exact ⟨hlost.trans (t.loses_releaseOne (hplain first List.mem_cons_self)),
      t.releaseOne_rest_plain hplain⟩

end System

/-- With fair holders, the object of a wrapper that someone holds is alive. -/
theorem Balanced.alive_of_held {H : Multiset Release} {b : Books} (h : Balanced .fair 0 H b)
    (hfull : b.heap.full = false) {w : ObjectWrapper} (hw : .wrapper w ∈ H) :
    b.heap.live? w.object ≠ none := by
  have hmem : .wrapper w ∈ 0 + (H + b.pledged) := by
    rw [zero_add]
    exact Multiset.mem_add.mpr (.inl hw)
  obtain ⟨entry, hentry, hself⟩ := h.counts.known _ hmem
  have hheld : b.holders (.wrapper w.number) ≠ 0 := by
    rw [h.counts.counted (.wrapper w.number) trivial]
    exact tally_ne_zero_of_mem hmem
  have hstands := h.standing w (Multiset.mem_add.mpr (.inl hw)) entry hentry
  -- someone pledges a reference to the object
  obtain ⟨t, ht, haccount⟩ : ∃ t ∈ b.pledged, t.account = .object w.object := by
    cases hreleases : entry.releases with
    | true =>
      refine ⟨.object w.object, Books.mem_pledged_of_mem_pledgeOf hheld ?_, rfl⟩
      simp [Books.pledgeOf, hentry, WrapperRecord.pledge, hreleases, hself]
    | false =>
      have howning := mt (hstands.owning rfl).mpr (by simp [hreleases])
      obtain ⟨hborrowed, hused⟩ := not_or.mp howning
      obtain ⟨a, ha, hfind⟩ := hstands.listed hused
      have hkept : w ∈ a.borrowed :=
        List.mem_filter.mpr ⟨Arena.Filed.mem_of_find? hfind, by cases hw : w.ownership <;> simp_all⟩
      refine ⟨.defensive w.object, ?_, rfl⟩
      apply Books.mem_pledged_of_mem_pledgeOf (a := .bridge entry.maker.number) hused
      simp only [Books.pledgeOf, ha, Option.elim_some]
      exact List.mem_flatMap.mpr ⟨w, hkept, by simp [idleReleases]⟩
  intro hstale
  have hcounted := (h.exact rfl hfull).counted w.object
  rw [Books.refs_of_stale hstale, ← haccount] at hcounted
  exact tally_ne_zero_of_mem (by rw [zero_add]; exact Multiset.mem_add.mpr (.inr ht)) hcounted.symm

/-! ## Results -/

theorem run_atSite {α : Type} (s : System σ) (site : MarshalSite) (a : Attempt σ α) :
    (atSite site a).run.run s =
      ((a.run.run s).1.mapError (.marshalFailure site ·), (a.run.run s).2) := by
  unfold atSite
  rw [run_bind_of_ok s (run_outcomeOf s a)]
  cases (a.run.run s).1 <;> rfl

/-- The result of the callable as the native side sees it. -/
def convertReturn (r : RuntimeId) (value : Handle) : Option TypeId → Attempt σ (Option TypedValue)
  | some type => return some (← atSite .result (fromHandle r value type))
  | none => return none

section

variable {r : RuntimeId} {s t : System σ}

theorem run_convertReturn (s : System σ) (value : Handle) (type : TypeId) :
    (convertReturn r value (some type)).run.run s =
      ((((fromHandle r value type).run.run s).1.mapError (.marshalFailure .result ·)).map some,
        ((fromHandle r value type).run.run s).2) := by
  unfold convertReturn
  rw [run_bind_pure, run_atSite]

theorem convertReturn_notes (value : Handle) (type : Option TypeId) :
    s.Noted ((convertReturn r value type).run.run s).2 := by
  cases type with
  | none => exact s.noted_refl
  | some type =>
    rw [run_convertReturn]
    exact fromHandle_notes value type

theorem System.LooksUpAlike.convertReturn (h : s.LooksUpAlike r t) (value : Handle)
    (type : Option TypeId)
    (hlive : ∀ w, value = .object w → t.heap.typeOf? w.object = s.heap.typeOf? w.object) :
    ((NativeBridge.convertReturn r value type).run.run t).1 =
      ((NativeBridge.convertReturn r value type).run.run s).1 := by
  cases type with
  | none => rfl
  | some type => rw [run_convertReturn, run_convertReturn, h.fromHandle value type hlive]

theorem convertReturn_of_stale (h : s.LooksUpAlike r t) {w : ObjectWrapper}
    (hstale : t.heap.typeOf? w.object = none) (type : Option TypeId) :
    ((convertReturn r (.object w) type).run.run t).1 =
        ((convertReturn r (.object w) type).run.run s).1 ∨
      ((convertReturn r (.object w) type).run.run t).1 =
        .error (.marshalFailure .result (.native (.staleObject w.object))) := by
  cases type with
  | none => exact .inl rfl
  | some type =>
    rw [run_convertReturn, run_convertReturn]
    rcases fromHandle_of_stale h hstale type with hsame | hfailed
    · exact .inl (by rw [hsame])
    · exact .inr (by rw [hfailed]; rfl)

end

end NativeBridge
