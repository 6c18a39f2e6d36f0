-- Owned wraps of objects without live handles. Such a wrap takes over the
-- reference of its caller, except when the arena still keeps a borrowed
-- wrapper that no handle holds: then it gives that wrapper out again, and
-- the reference of the caller is never given back.
import NativeBridge.Proofs.WrapperIdentity

namespace NativeBridge

variable {σ : Type}

/-! ## Objects that are gone -/

theorem unref_stale {h heap : Heap Subscriber} {o p : ObjectId}
    {handlers : List (Connection Subscriber)} (ho : h.live? o = none)
    (hp : h.unref p = .ok (handlers, heap)) : heap.live? o = none := by
  obtain ⟨object, hl, hdone⟩ := Heap.unref_ok hp
  have hne : o ≠ p := by
    rintro rfl
    rw [ho] at hl
    exact absurd hl (Option.some_ne_none object).symm
  obtain ⟨-, -, rfl⟩ | ⟨-, -, rfl⟩ := hdone
  · rw [Heap.live?_vacate_ne hl hne, ho]
  · rw [Heap.live?_store_ne _ hl hne, ho]

theorem unref_full {h heap : Heap Subscriber} {p : ObjectId}
    {handlers : List (Connection Subscriber)} (hp : h.unref p = .ok (handlers, heap)) :
    heap.full = h.full := by
  obtain ⟨object, -, ⟨-, -, rfl⟩ | ⟨-, -, rfl⟩⟩ := Heap.unref_ok hp <;> rfl

/-- All that a release does to the heap, if anything, is to give a reference
back. What that keeps, every release keeps. -/
theorem releaseOne_keeps_heap {P : Heap Subscriber → Prop}
    (hunref : ∀ {h heap : Heap Subscriber} {p handlers},
      P h → h.unref p = .ok (handlers, heap) → P heap)
    {s : System σ} (h : P s.heap) (t : Release) : P (s.releaseOne t).2.heap := by
  have hreference (p : ObjectId) (report : ObjectId → NativeError → Notice) :
      P (s.releaseReference p report).2.heap := by
    unfold System.releaseReference
    split
    · rename_i hp
      exact hunref h hp
    · exact h
  cases t with
  | object p => exact hreference p _
  | defensive p => exact hreference p _
  | boxed w =>
    obtain ⟨told, -, hdone⟩ := s.releaseOne_boxed w
    rw [hdone]
    exact h
  | callable x => exact h
  | _ =>
    simp only [System.releaseOne]
    split <;> exact h

theorem release_keeps_heap {P : Heap Subscriber → Prop}
    (hunref : ∀ {h heap : Heap Subscriber} {p handlers},
      P h → h.unref p = .ok (handlers, heap) → P heap)
    {s : System σ} (h : P s.heap) (due : List Release) : P (s.release due).heap := by
  apply System.release_keeps (P := fun _ t => P t.heap) ?_ due s h
  intro first rest t ht
  exact releaseOne_keeps_heap hunref ht first

/-- No release brings an object back. -/
theorem release_stale {s : System σ} {o : ObjectId} (h : s.heap.live? o = none)
    (due : List Release) : (s.release due).heap.live? o = none :=
  release_keeps_heap (P := fun heap => heap.live? o = none) unref_stale h due

/-- No release takes a count to its limit. -/
theorem release_full (s : System σ) (due : List Release) :
    (s.release due).heap.full = s.heap.full :=
  release_keeps_heap (P := fun heap => heap.full = s.heap.full)
    (fun h hp => (unref_full hp).trans h) rfl due

theorem sweep_full (s : System σ) (r : RuntimeId) :
    ((sweep r).run s).2.heap.full = s.heap.full := by
  rw [run_sweep]
  exact release_full (s.dropSwept r) _

theorem sweep_stale {s : System σ} {o : ObjectId} (h : s.heap.live? o = none) (r : RuntimeId) :
    ((sweep r).run s).2.heap.live? o = none := by
  rw [run_sweep]
  exact release_stale (s := s.dropSwept r) h _

/-- The last handle of a wrapper that gives a reference back. -/
theorem release_last_wrapper {s : System σ} {w : ObjectWrapper}
    (hlast : s.wrappers.holders w.number = 1) (hgives : s.givesBack w = true) :
    s.release [.wrapper w] =
      System.release { s with wrappers := s.wrappers.drop w.number } [.object w.object] := by
  have hfirst : s.releaseOne (.wrapper w) =
      ([.object w.object], { s with wrappers := s.wrappers.drop w.number }) := by
    simp only [System.releaseOne, hlast, hgives]
    rfl
  rw [System.release_cons, hfirst, List.append_nil]

/-- With the last reference the object goes. -/
theorem release_last_reference {s : System σ} {o : ObjectId}
    (hone : s.heap.refCount? o = some 1) : (s.release [.object o]).heap.live? o = none := by
  obtain ⟨object, hl, hrefs⟩ := Option.map_eq_some_iff.mp hone
  have hunref : s.heap.unref o = .ok (object.handlers, s.heap.vacate o) := by
    rw [Heap.unref_of_live hl, hrefs]
    rfl
  have hfirst : s.releaseOne (.object o) =
      (handlerReleases object.handlers, { s with heap := s.heap.vacate o }) := by
    simp only [System.releaseOne, System.releaseReference, hunref]
  rw [System.release_cons, hfirst]
  exact release_stale (s := { s with heap := s.heap.vacate o }) Heap.live?_vacate_self _

/-! ## What a wrap finds -/

section

variable {s t : System σ} {r : RuntimeId} {o : ObjectId} {type : TypeId}

/-- How objects are shown depends on types and registrations alone. -/
theorem exposure_congr (hheap : t.heap = s.heap) (hregistry : t.registryOf r = s.registryOf r)
    (hconfig : (t.bridge r).config = (s.bridge r).config) :
    t.exposure r type = s.exposure r type := by
  have hcounted : t.countedPackage? r = s.countedPackage? r := by
    funext type
    unfold System.countedPackage?
    rw [hregistry]
  unfold System.exposure System.unconvertible System.describeType
  rw [hheap, hregistry, hconfig, hcounted]

/-- Without live handles and without a borrowed entry, a wrap finds nothing
alive, and shows the object as before. -/
theorem liveWrapper_of_no_handle {c : Conduct} {H : Multiset Release}
    (hbalanced : Balanced c 0 H s.books) (hr : s.isBridgeAlive r = true)
    (hhandles : ∀ w : ObjectWrapper, w.object = o → ¬ s.HasHandle r w)
    (howned : ∀ w, (s.bridge r).arena.find? o = some w → w.ownership = .owned) (type : TypeId) :
    ∃ t, s.liveWrapper r o = (none, t) ∧ t.exposure r type = s.exposure r type := by
  have hused : s.books.arenas.holders r.number ≠ 0 := System.isBridgeAlive_iff.mp hr
  unfold System.liveWrapper
  split
  · exact ⟨s, rfl, rfl⟩
  · rename_i w hfind
    have hw := howned w hfind
    obtain ⟨hobject, entry, hentry, hwrapper, hmaker⟩ := wrapper_of_find? hbalanced hused hfind
    have hzero : s.wrappers.holders w.number = 0 := by
      by_contra hne
      have hcount : (s.bridge r).arena.borrowed.count w = 0 := by
        apply List.count_eq_zero.mpr
        intro hmem
        have hborrowed := (List.mem_filter.mp hmem).2
        rw [hw] at hborrowed
        exact absurd hborrowed (by simp)
      apply hhandles w hobject
      refine ⟨⟨entry, hentry, hwrapper, ?_⟩, ?_⟩
      · cases hm : entry.maker
        cases r
        rw [hm] at hmaker
        exact congrArg RuntimeId.mk hmaker
      · unfold System.handles
        rw [hcount]
        exact hne
    have hdead : s.isLive w = false := by
      unfold System.isLive
      rw [hw, hzero]
      rfl
    rw [hdead]
    refine ⟨_, rfl, ?_⟩
    have hbridge := System.bridge_modifyBridge (s := s) hr
      fun b => { b with arena := b.arena.erase o }
    refine exposure_congr ?_ ?_ ?_
    · rfl
    · unfold System.registryOf
      rw [hbridge]
      rfl
    · rw [hbridge]

end

/-- A new owned wrapper has one holder. -/
theorem addWrapper_owned (s : System σ) (r : RuntimeId) (o : ObjectId) (type : TypeId)
    (package : String) :
    let added := s.addWrapper r o type package .owned
    added.1.ownership = .owned ∧ added.2.wrappers.holders added.1.number = 1 ∧
      added.2.heap = s.heap := by
  refine ⟨rfl, ?_, rfl⟩
  simp [System.addWrapper, System.modifyBridge, SharedTable.holders_add]

/-! ## Owned wraps -/

section

variable {τ : Type} {c : Conduct} {s : World τ} {g : Guest (Outside τ)} {r : RuntimeId}
  {o : ObjectId} {type : TypeId} {exposure : System.Exposure}

/-- A wrapper that took over a reference to an object: with the last handle
of it the reference goes, and with the last reference the object. -/
structure TookOver (r : RuntimeId) (o : ObjectId) (w : ObjectWrapper) (t : World τ) : Prop where
  owned : w.ownership = .owned
  gives : t.wrappers.holders w.number = 1 →
    t.release [.wrapper w] =
      System.release { t with wrappers := t.wrappers.drop w.number } [.object o]
  finalizes : t.wrappers.holders w.number = 1 → t.heap.refCount? o = some 1 →
    ((sweep r).run (t.release [.wrapper w])).2.heap.isAlive o = false

/-- An owned wrapper in use took over a reference. -/
theorem Holding.tookOver {F : Multiset Release} {E : List ObjectId} {t : World τ}
    {w : ObjectWrapper} (h : Holding c ({.wrapper w} + F) E t) (r : RuntimeId)
    (hw : w.ownership = .owned) : TookOver r w.object w t := by
  have hin : Release.wrapper w ∈ {.wrapper w} + F :=
    Multiset.mem_add.mpr (Or.inl (Multiset.mem_singleton_self _))
  have hgives : t.givesBack w = true := by
    obtain ⟨-, ⟨entry, hentry, -⟩, -⟩ := h.inUse hin
    have hentry' : t.wrappers.get? w.number = some entry := hentry
    unfold System.givesBack
    rw [hentry']
    refine (h.balanced.standing w ?_ entry hentry).gives hw
    exact Multiset.mem_add.mpr (Or.inl (Multiset.mem_add.mpr (Or.inl hin)))
  refine ⟨hw, fun hlast => release_last_wrapper hlast hgives, ?_⟩
  intro hlast hcount
  have hdead : (t.release [.wrapper w]).heap.live? w.object = none := by
    rw [release_last_wrapper hlast hgives]
    exact release_last_reference hcount
  unfold Heap.isAlive
  rw [sweep_stale hdead r]
  rfl

/-- Without live handles and without a borrowed entry, an owned wrap gives a
new wrapper, which takes over the reference. -/
theorem owned_wrap_adopts {F : Multiset Release} {E : List ObjectId} (hs : Holding c F E s)
    (hg : g.Steady c) (hr : s.isBridgeAlive r = true) (htype : s.heap.typeOf? o = some type)
    (hshown : s.exposure r type = .ok exposure) (hcaller : c = .fair → o ∈ s.guest.ledger.refs)
    (hhandles : ∀ w : ObjectWrapper, w.object = o → ¬ s.HasHandle r w)
    (howned : ∀ w, (s.bridge r).arena.find? o = some w → w.ownership = .owned) :
    ∃ w t, (wrapObject g r o true).run.run (s.changeLedger (·.spend o)) = (.ok (.object w), t) ∧
      TookOver r o w t ∧ ((∀ f x, ((g.sink f o).run x).2 = x) →
        t.wrappers.holders w.number = 1 ∧ t.heap = s.heap) := by
  let s₁ : World τ := s.changeLedger (·.spend o)
  have hspent : Balanced c 0 (.object o ::ₘ (F + s₁.guest.ledger.tokens)) s₁.books :=
    hs.spendRef hcaller
  have hused : s₁.books.arenas.holders r.number ≠ 0 := System.isBridgeAlive_iff.mp hr
  have hnone : ∀ w : ObjectWrapper, w.object = o → ¬ s₁.HasHandle r w := fun w hw hhandle =>
    hhandles w hw ⟨hhandle.made, hhandle.handles⟩
  obtain ⟨s₂, hl, hsame⟩ := liveWrapper_of_no_handle hspent hr hnone howned type
  have hrun := acquireWrapper_of_owned (s := s₁) htype hl (hsame.trans hshown)
  obtain ⟨hownership, hone, hheap⟩ := addWrapper_owned (s₂.noteExposure r type exposure) r o type
    exposure.package
  have hframe : (s₂.noteExposure r type exposure).heap = s.heap := by
    have hfound := (s₁.liveWrapper_frame r o).2.1
    rw [hl] at hfound
    exact (s₂.noteExposure_frame r type exposure).2.1.trans hfound
  have hacquired := acquireWrapper_acquired (o := o) .owned hspent hused
  dsimp only at hrun
  rw [hrun] at hacquired
  rw [hframe] at hheap
  generalize (s₂.noteExposure r type exposure).addWrapper r o type exposure.package .owned = added
    at hrun hownership hone hheap hacquired
  obtain ⟨w, t₀⟩ := added
  cases hacquired with
  | new w t₀ hguest hobject hnext hbalanced =>
    have hmade : Holding c ({.wrapper w} + F) E t₀ := by
      apply hs.gainWithLedger (l := s₁.guest.ledger) (u := .wrapper w) rfl rfl hguest trivial
      exact hbalanced _ (by rw [if_pos rfl, Multiset.singleton_add])
    obtain ⟨t, hwrap, hshown', hquiet⟩ := wrapObject_of_new hg hrun hmade
    refine ⟨w, t, hwrap, hobject ▸ hshown'.tookOver r hownership, ?_⟩
    intro hsink
    rw [hquiet hsink]
    exact ⟨hone, hheap⟩

/-- The arena keeps its borrowed wrappers alive. -/
theorem isLive_of_borrowed {w : ObjectWrapper} (hw : w.ownership = .borrowed) (s : System σ) :
    s.isLive w = true := by
  unfold System.isLive
  rw [hw]
  rfl

/-- A borrowed entry without handles is what a wrap finds and gives, and
nothing else changes. -/
theorem owned_wrap_of_idle {w : ObjectWrapper} (hfind : (s.bridge r).arena.find? o = some w)
    (hw : w.ownership = .borrowed) (hobject : w.object = o)
    (htype : s.heap.typeOf? o = some type) :
    (wrapObject g r o true).run.run (s.changeLedger (·.spend o)) =
      (.ok (.object w), (s.changeLedger (·.spend o)).holdHandle (.object w)) := by
  subst hobject
  apply wrapObject_of_listed (s := s.changeLedger _) hfind (isLive_of_borrowed hw _)
  obtain ⟨object, hl, -⟩ := Option.map_eq_some_iff.mp htype
  exact Option.isSome_iff_exists.mpr ⟨object, hl⟩

/-- A handle of a wrapper in use that comes and goes, and then a sweep. -/
theorem sweep_after_handle {c : Conduct} {s : System σ} {H : Multiset Release} {r : RuntimeId}
    {w : ObjectWrapper} (h : Balanced c 0 ({.wrapper w} + H) s.books)
    (hr : s.isBridgeAlive r = true) :
    Balanced c 0 H ((sweep r).run (s.release [.wrapper w])).2.books ∧
      ((sweep r).run (s.release [.wrapper w])).2.heap.full = s.heap.full := by
  have hdue : Balanced c ([.wrapper w] : List Release) H s.books := by
    have hdue := h.due_of_held
    rwa [add_zero] at hdue
  have hbridges : (s.release [.wrapper w]).bridges = s.bridges := by
    apply release_bridges
    intro u hu r'
    rw [List.mem_singleton.mp hu]
    exact Release.noConfusion
  have hstill : (s.release [.wrapper w]).isBridgeAlive r = true := by
    unfold System.isBridgeAlive
    rw [hbridges]
    exact hr
  refine ⟨sweep_balanced (System.release_balanced hdue) (System.isBridgeAlive_iff.mp hstill), ?_⟩
  exact (sweep_full _ r).trans (release_full s _)

/-- The reference of the caller stays behind then: a fair caller still has
it when the handle is gone and the bridge has swept. -/
theorem idle_wrap_leaks {F : Multiset Release} {E : List ObjectId} (hs : Holding .fair F E s)
    (hfull : s.heap.full = false) (hr : s.isBridgeAlive r = true)
    (hcaller : o ∈ s.guest.ledger.refs) {w : ObjectWrapper}
    (hfind : (s.bridge r).arena.find? o = some w) (hw : w.ownership = .borrowed) :
    ((sweep r).run ((s.holdHandle (.object w)).release [.wrapper w])).2.heap.isAlive o = true := by
  have hused : s.books.arenas.holders r.number ≠ 0 := System.isBridgeAlive_iff.mp hr
  have hfound := System.liveWrapper_of_listed hfind (isLive_of_borrowed hw s)
  obtain ⟨hheld, -⟩ := liveWrapper_some_balanced hs.balanced hused hfound
  rw [← Multiset.singleton_add] at hheld
  obtain ⟨hswept, hsame⟩ := sweep_after_handle hheld hr
  generalize ((sweep r).run ((s.holdHandle (.object w)).release [.wrapper w])).2 = t
    at hswept hsame ⊢
  apply hswept.isAlive_of_mem (hsame.trans hfull)
  rw [Ledger.tokens_spend hcaller]
  exact Multiset.mem_add.mpr (Or.inr (Multiset.mem_cons_self _ _))

/-! ## When an owned wrap takes over -/

/-- Under any conduct, an owned wrap of an object without live handles gives
an owned handle, which takes over the reference of the caller, exactly if
the arena has no borrowed entry of the object that waits for a sweep. A sink
that leaves the state alone leaves the handle the only one. -/
theorem owned_wrap_adopts_iff (h : s.Reached c) (hg : g.IsOutside c)
    (hr : s.isBridgeAlive r = true) (htype : s.heap.typeOf? o = some type)
    (hshown : s.exposure r type = .ok exposure) (hcaller : c = .fair → o ∈ s.guest.ledger.refs)
    (hhandles : ∀ w : ObjectWrapper, w.object = o → ¬ s.HasHandle r w) :
    (∃ w t, (wrapObject g r o true).run.run (s.changeLedger (·.spend o)) = (.ok (.object w), t) ∧
      TookOver r o w t ∧ ((∀ f x, ((g.sink f o).run x).2 = x) →
        t.wrappers.holders w.number = 1 ∧ t.heap = s.heap)) ↔
      ∀ w, (s.bridge r).arena.find? o = some w → w.ownership = .owned := by
  obtain ⟨F, hs⟩ := h.holding
  constructor
  · rintro ⟨w, t, hwrap, hover, -⟩ w' hfind
    cases hw' : w'.ownership with
    | owned => rfl
    | borrowed =>
      have hused : s.books.arenas.holders r.number ≠ 0 := System.isBridgeAlive_iff.mp hr
      obtain ⟨hobject, -⟩ := wrapper_of_find? hs.balanced hused hfind
      rw [owned_wrap_of_idle hfind hw' hobject htype] at hwrap
      have heq : w' = w := Handle.object.inj (Except.ok.inj (Prod.mk.inj hwrap).1)
      rw [← hw', heq, hover.owned]
  · exact owned_wrap_adopts hs hg.steady hr htype hshown hcaller hhandles

end

/-- An owned wrap of the object of the small run takes over its reference. -/
theorem sample_owned_wrap :
    ∃ w t, (wrapObject (.idle _) Sample.bridge Sample.object true).run.run
        (Sample.world.changeLedger (·.spend Sample.object)) = (.ok (.object w), t) ∧
      TookOver Sample.bridge Sample.object w t := by
  have halive : Sample.world.isBridgeAlive Sample.bridge = true := by decide +kernel
  have htype : Sample.world.heap.typeOf? Sample.object = some Sample.type := by decide +kernel
  have hshown : Sample.world.exposure Sample.bridge Sample.type = .ok (.own "Ui::Node") := rfl
  have hempty : Sample.world.wrappers = {} := rfl
  have hnone : (Sample.world.bridge Sample.bridge).arena.find? Sample.object = none := rfl
  have hcaller : Sample.object ∈ Sample.world.guest.ledger.refs := by decide +kernel
  have hhandles : ∀ w : ObjectWrapper, w.object = Sample.object →
      ¬ Sample.world.HasHandle Sample.bridge w := by
    intro w _ hhandle
    obtain ⟨entry, hentry, -⟩ := hhandle.made
    rw [hempty] at hentry
    exact absurd hentry (by simp [SharedTable.get?])
  have hadopts := owned_wrap_adopts_iff (Sample.world_reached .fair) Guest.idle_isOutside halive
    htype hshown (fun _ => hcaller) hhandles
  obtain ⟨w, t, hwrap, hover, -⟩ := hadopts.mpr fun w hfind =>
    absurd (hnone.symm.trans hfind) (Option.some_ne_none w).symm
  exact ⟨w, t, hwrap, hover⟩

end NativeBridge
