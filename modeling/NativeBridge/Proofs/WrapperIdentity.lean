-- Wrapper identity under any conduct. A bridge has one wrapper of an object
-- for as long as a handle of it lives. Every wrap gives that wrapper again,
-- and no sweep takes its entry out of the arena.
import NativeBridge.Proofs.Deeds

namespace NativeBridge

/-! ## Live handles -/

/-- The handles of a wrapper: its holders, less the arena that keeps it. -/
def System.handles {σ : Type} (s : System σ) (r : RuntimeId) (w : ObjectWrapper) : Nat :=
  s.wrappers.holders w.number - (s.bridge r).arena.borrowed.count w

/-- A wrapper that a bridge made, and that some handle stands for. -/
structure System.HasHandle {σ : Type} (s : System σ) (r : RuntimeId) (w : ObjectWrapper) :
    Prop where
  made : ∃ entry, s.wrappers.get? w.number = some entry ∧ entry.wrapper = w ∧ entry.maker = r
  handles : s.handles r w ≠ 0

section

variable {σ : Type} {s : System σ} {r : RuntimeId} {w : ObjectWrapper}

theorem System.HasHandle.holders (h : s.HasHandle r w) : s.wrappers.holders w.number ≠ 0 := by
  have hhandles := h.handles
  unfold System.handles at hhandles
  omega

theorem System.HasHandle.knows (h : s.HasHandle r w) : s.books.Knows (.wrapper w) := by
  obtain ⟨entry, hentry, hw, -⟩ := h.made
  exact ⟨entry, hentry, hw⟩

/-- While the bridge is in use, the wrapper has its entry. -/
theorem System.HasHandle.listed {c : Conduct} {H : Multiset Release} (h : s.HasHandle r w)
    (hbalanced : Balanced c 0 H s.books) (hr : s.isBridgeAlive r = true) :
    (s.bridge r).arena.find? w.object = some w := by
  obtain ⟨entry, hentry, hw, rfl⟩ := h.made
  have hused : s.books.arenas.holders entry.maker.number ≠ 0 := System.isBridgeAlive_iff.mp hr
  have hmem := hbalanced.mem_of_holders h.knows trivial h.holders
  obtain ⟨a, ha, hfind⟩ := (hbalanced.standing w hmem entry hentry).listed hused
  rw [System.arena_of_inUse hused] at ha
  rw [Option.some.inj ha, hfind]

/-- An arena keeps a wrapper once for each borrowed entry. -/
theorem count_borrowed_le (a : Arena) (w : ObjectWrapper) :
    a.borrowed.count w ≤ tally (.wrapper w.number) a.pledge := by
  have hcount : a.borrowed.count w ≤
      tally (.wrapper w.number) (a.borrowed.map Release.wrapper : List Release) := by
    unfold tally
    rw [Multiset.coe_countP, List.countP_map, List.count_eq_countP]
    apply List.countP_mono_left
    intro w' _ hw'
    rw [eq_of_beq hw']
    exact decide_eq_true rfl
  unfold Arena.pledge
  rw [flatMap_idleReleases, tally_add]
  omega

/-- A handle is live that outside code has, or that a closure or a callback in
use keeps as its data. -/
theorem System.HasHandle.of_kept {τ : Type} {c : Conduct} {s : World τ} (h : s.Reached c)
    {r : RuntimeId} (hr : s.isBridgeAlive r = true) {w : ObjectWrapper}
    (hmade : ∃ entry, s.wrappers.get? w.number = some entry ∧ entry.wrapper = w ∧ entry.maker = r)
    (hkept : .wrapper w ∈ (s.guest.ledger.held : Multiset Release) +
      (s.closures.pledges Closure.releases + s.callbacks.pledges Callback.releases)) :
    s.HasHandle r w where
  made := hmade
  handles := by
    obtain ⟨F, hs⟩ := h.holding
    have hused : s.books.arenas.holders r.number ≠ 0 := System.isBridgeAlive_iff.mp hr
    have hcounted := hs.balanced.counts.counted (.wrapper w.number) trivial
    have hfound := tally_ne_zero_of_mem hkept
    have harena := SharedTable.pledges_modify Arena.pledge (fun _ => {}) hused
      (System.arena_of_inUse hused)
    have hempty : (Arena.pledge {} : Multiset Release) = 0 := rfl
    rw [hempty, zero_add] at harena
    have hsplit := congrArg (tally (.wrapper w.number)) harena
    have hentries := count_borrowed_le (s.bridge r).arena w
    have hclosures : s.books.closures = s.closures := rfl
    have hcallbacks : s.books.callbacks = s.callbacks := rfl
    have hholders : s.books.wrappers = s.wrappers := rfl
    simp only [Books.holders, Books.pledged, Ledger.tokens, tally_add, hclosures, hcallbacks,
      hholders, Release.account] at hcounted hfound hsplit
    unfold System.handles
    omega

/-- Its entry is alive, and no sweep takes it away. -/
theorem System.HasHandle.not_swept (h : s.HasHandle r w)
    (hfind : (s.bridge r).arena.find? w.object = some w) :
    s.isLive w = true ∧ s.isSwept w = false := by
  have hholders := h.holders
  have hhandles := h.handles
  unfold System.handles at hhandles
  unfold System.isSwept System.isIdle System.isLive
  cases hw : w.ownership with
  | owned => simp [hholders]
  | borrowed =>
    have hmem : w ∈ (s.bridge r).arena.borrowed :=
      List.mem_filter.mpr ⟨Arena.Filed.mem_of_find? hfind, by simp [hw]⟩
    have hcount := List.count_pos_iff.mpr hmem
    have hne : s.wrappers.holders w.number ≠ 1 := by omega
    simp [hne]

/-- A wrap of an object with a live wrapper gives that wrapper. -/
theorem wrapObject_of_listed {g : Guest σ} {owned : Bool}
    (hfind : (s.bridge r).arena.find? w.object = some w) (hlive : s.isLive w = true)
    (halive : s.heap.isAlive w.object = true) :
    (wrapObject g r w.object owned).run.run s = (.ok (.object w), s.holdHandle (.object w)) := by
  obtain ⟨object, hobject⟩ := Option.isSome_iff_exists.mp halive
  have htype : s.heap.typeOf? w.object = some object.type := by
    simp [Heap.typeOf?, hobject]
  have hknown := System.liveWrapper_of_listed hfind hlive
  exact wrapObject_of_acquired (acquireWrapper_of_known htype hknown) rfl

end

/-! ## Sweeps -/

section

variable {σ : Type}

theorem handle_releases_ne_bridge {h : Handle} {u : Release} (hu : u ∈ h.releases)
    (r : RuntimeId) : u ≠ .bridge r := by
  rintro rfl
  cases h <;> simp [Handle.releases] at hu

theorem parts_ne_bridge {callable : Callable} {data : Option Handle} {u : Release}
    (hu : u ∈ Release.callable callable :: dataReleases data) (r : RuntimeId) : u ≠ .bridge r := by
  rcases List.mem_cons.mp hu with rfl | hu
  · exact Release.noConfusion
  · cases data with
    | none => exact absurd hu List.not_mem_nil
    | some h => exact handle_releases_ne_bridge hu r

theorem handlerReleases_ne_bridge {handlers : List (Connection Subscriber)} {u : Release}
    (hu : u ∈ handlerReleases handlers) (r : RuntimeId) : u ≠ .bridge r := by
  rintro rfl
  obtain ⟨connection, -, hconnection⟩ := List.mem_flatMap.mp hu
  cases hclosure : connection.closure <;> simp [hclosure, Subscriber.releases] at hconnection

/-- Only a bridge that is released can end, and with it its arena. -/
theorem releaseOne_bridges (s : System σ) {t : Release} (ht : ∀ r, t ≠ .bridge r) :
    (s.releaseOne t).2.bridges = s.bridges ∧
      ∀ u ∈ (s.releaseOne t).1, ∀ r, u ≠ .bridge r := by
  have hreference (o : ObjectId) (report : ObjectId → NativeError → Notice) :
      (s.releaseReference o report).2.bridges = s.bridges ∧
        ∀ u ∈ (s.releaseReference o report).1, ∀ r, u ≠ .bridge r := by
    unfold System.releaseReference
    split
    · exact ⟨rfl, fun u hu r => handlerReleases_ne_bridge hu r⟩
    · exact ⟨rfl, fun u hu => absurd hu List.not_mem_nil⟩
  cases t with
  | object o => exact hreference o _
  | defensive o => exact hreference o _
  | wrapper w =>
    simp only [System.releaseOne]
    split
    · refine ⟨rfl, fun u hu r => ?_⟩
      rw [List.mem_singleton.mp hu]
      exact Release.noConfusion
    · exact ⟨rfl, fun u hu => absurd hu List.not_mem_nil⟩
  | boxed w =>
    obtain ⟨told, -, hdone⟩ := s.releaseOne_boxed w
    rw [hdone]
    exact ⟨rfl, fun u hu => absurd hu List.not_mem_nil⟩
  | callable x => exact ⟨rfl, fun u hu => absurd hu List.not_mem_nil⟩
  | closure x =>
    simp only [System.releaseOne]
    split
    · exact ⟨rfl, fun u hu r => parts_ne_bridge hu r⟩
    · exact ⟨rfl, fun u hu => absurd hu List.not_mem_nil⟩
  | callback x =>
    simp only [System.releaseOne]
    split
    · exact ⟨rfl, fun u hu r => parts_ne_bridge hu r⟩
    · exact ⟨rfl, fun u hu => absurd hu List.not_mem_nil⟩
  | bridge r => exact absurd rfl (ht r)

theorem release_bridges (s : System σ) {due : List Release}
    (hdue : ∀ t ∈ due, ∀ r, t ≠ .bridge r) : (s.release due).bridges = s.bridges := by
  have hkept := System.release_keeps
    (P := fun due t => t.bridges = s.bridges ∧ ∀ u ∈ due, ∀ r, u ≠ .bridge r) ?_ due s ⟨rfl, hdue⟩
  · exact hkept.1
  · rintro first rest t ⟨hbridges, hrest⟩
    obtain ⟨hsame, hmore⟩ := releaseOne_bridges t (hrest first List.mem_cons_self)
    refine ⟨hsame.trans hbridges, ?_⟩
    intro u hu
    rcases List.mem_append.mp hu with hu | hu
    · exact hmore u hu
    · exact hrest u (List.mem_cons_of_mem _ hu)

theorem bridges_sweep (s : System σ) (r : RuntimeId) :
    ((sweep r).run s).2.bridges = (s.dropSwept r).bridges := by
  rw [run_sweep]
  apply release_bridges
  intro u hu r' hne
  obtain ⟨w, -, hw⟩ := List.mem_flatMap.mp hu
  subst hne
  simp [idleReleases] at hw

theorem bridge_sweep {s : System σ} {r : RuntimeId} (hr : s.isBridgeAlive r = true) :
    ((sweep r).run s).2.bridge r =
      { s.bridge r with arena := (s.bridge r).arena.eraseAll s.isSwept } := by
  have hdropped : ((sweep r).run s).2.bridge r = (s.dropSwept r).bridge r := by
    unfold System.bridge
    rw [bridges_sweep]
  rw [hdropped, System.dropSwept, System.bridge_modifyBridge hr]

/-- What a sweep leaves in the arena. -/
theorem arena_sweep {c : Conduct} {H : Multiset Release} {s : System σ} {r : RuntimeId}
    (hbalanced : Balanced c 0 H s.books) (hr : s.isBridgeAlive r = true) {o : ObjectId}
    {w : ObjectWrapper} :
    (((sweep r).run s).2.bridge r).arena.find? o = some w ↔
      (s.bridge r).arena.find? o = some w ∧ s.isSwept w = false := by
  have hused : s.books.arenas.holders r.number ≠ 0 := System.isBridgeAlive_iff.mp hr
  have hfiled := hbalanced.formed.filed r.number _ (System.arena_of_inUse hused)
  rw [bridge_sweep hr, hfiled.find?_eraseAll]

end

/-! ## Identity -/

/-- Under any conduct, the live handles that a bridge made for one object
are the same. While one lives, and the bridge and the object do, a wrap
gives it again and changes no count of the object, and neither a sweep nor
the sweep at the end of a drain takes its entry away. -/
theorem wrapper_identity {τ : Type} {s : World τ} (h : s.Reached .any) {r : RuntimeId}
    {w : ObjectWrapper} (hw : s.HasHandle r w) :
    (∀ w', s.HasHandle r w' → w'.object = w.object →
      (Handle.object w').same (.object w) = true) ∧
    (s.isBridgeAlive r = true → s.heap.isAlive w.object = true → ∀ (g : Guest (Outside τ)) owned,
      (wrapObject g r w.object owned).run.run s = (.ok (.object w), s.holdHandle (.object w)) ∧
        (s.holdHandle (.object w)).heap = s.heap) ∧
    (s.isBridgeAlive r = true →
      (((sweep r).run s).2.bridge r).arena.find? w.object = some w) ∧
    ∀ g : Guest (Outside τ), g.IsOutside .any →
      let drained := ((runPending g (s.bridge r).relay).run.run s).2
      drained.isBridgeAlive r = true → drained.HasHandle r w →
        (((runPendingOf g r).run.run s).2.bridge r).arena.find? w.object = some w := by
  obtain ⟨F, hs⟩ := h.holding
  have hsweep : ∀ {G : Multiset Release} {E : List ObjectId} {t : World τ}, Holding .any G E t →
      t.isBridgeAlive r = true → t.HasHandle r w →
      (((sweep r).run t).2.bridge r).arena.find? w.object = some w := by
    intro G E t ht hr hhandle
    have hlisted := hhandle.listed ht.balanced hr
    rw [arena_sweep ht.balanced hr]
    exact ⟨hlisted, (hhandle.not_swept hlisted).2⟩
  refine ⟨?_, ?_, ?_, ?_⟩
  · intro w' hw' hobject
    obtain ⟨entry, hentry, hwrapper, hmaker⟩ := hw.made
    obtain ⟨entry', hentry', hwrapper', hmaker'⟩ := hw'.made
    have hnumber : w'.number = w.number := by
      apply hs.balanced.single _ _ entry' entry hentry' hentry hw'.holders hw.holders
      · rw [hmaker, hmaker']
      · rw [hwrapper, hwrapper', hobject]
    exact beq_iff_eq.mpr hnumber
  · intro hr halive g owned
    have hlisted := hw.listed hs.balanced hr
    exact ⟨wrapObject_of_listed hlisted (hw.not_swept hlisted).1 halive, rfl⟩
  · intro hr
    exact hsweep hs hr hw
  · intro g hg drained hr hhandle
    have hdrained : Holding .any F s.guest.ledger.emitting drained := by
      have hrun := attempting_trades (runPending_tries hg.steady (s.bridge r).relay 0) F _ s
        (by rwa [zero_add])
      rwa [zero_add] at hrun
    have hstate : ((runPendingOf g r).run.run s).2 = ((sweep r).run drained).2 := by
      unfold runPendingOf
      rw [run_get_bind, run_bind_of_ok s (run_outcomeOf s _), run_bind_endIn]
      rfl
    rw [hstate]
    exact hsweep hdrained hr hhandle

/-- The wrapper of the small run is given again by an owned wrap. -/
theorem sample_wrapper_identity :
    Sample.wrapped.HasHandle Sample.bridge Sample.wrapper ∧
      (wrapObject (.idle _) Sample.bridge Sample.object true).run.run Sample.wrapped =
        (.ok (.object Sample.wrapper), Sample.wrapped.holdHandle (.object Sample.wrapper)) := by
  have hhandle : Sample.wrapped.HasHandle Sample.bridge Sample.wrapper :=
    ⟨⟨_, rfl, rfl, rfl⟩, by decide +kernel⟩
  have hidentity := wrapper_identity (Sample.wrapped_reached .any) hhandle
  have halive : Sample.wrapped.isBridgeAlive Sample.bridge = true := by decide +kernel
  have hobject : Sample.wrapped.heap.isAlive Sample.object = true := by decide +kernel
  exact ⟨hhandle, (hidentity.2.1 halive hobject (.idle _) true).1⟩

end NativeBridge
