-- What a wrap does, case by case: the object is stale, or it has a wrapper
-- that is alive, or it cannot be shown, or it gets a new wrapper. The books
-- balance after each.
import NativeBridge.Bridge.Convert
import NativeBridge.Proofs.Additions

namespace NativeBridge

/-! ## Running attempts -/

section

variable {σ α β : Type} (s : System σ)

theorem run_get_bind (f : System σ → Attempt σ β) :
    (get >>= f).run.run s = (f s).run.run s := rfl

theorem run_set_bind (t : System σ) (f : PUnit → Attempt σ β) :
    (set t >>= f).run.run s = (f ⟨⟩).run.run t := rfl

theorem run_modify_bind (f : System σ → System σ) (k : PUnit → Attempt σ β) :
    (modify f >>= k).run.run s = (k ⟨⟩).run.run (f s) := rfl

theorem run_bind_of_ok {a : Attempt σ α} {f : α → Attempt σ β} {x : α} {t : System σ}
    (h : a.run.run s = (.ok x, t)) : (a >>= f).run.run s = (f x).run.run t := by
  rw [ExceptT.run_bind, StateT.run_bind, h]
  rfl

theorem run_bind_of_error {a : Attempt σ α} {f : α → Attempt σ β} {e : BridgeError} {t : System σ}
    (h : a.run.run s = (.error e, t)) : (a >>= f).run.run s = (.error e, t) := by
  rw [ExceptT.run_bind, StateT.run_bind, h]
  rfl

theorem run_outcomeOf (a : Attempt σ α) :
    (outcomeOf a).run.run s = (.ok (a.run.run s).1, (a.run.run s).2) := rfl

/-- Ending in an outcome leaves the state alone. -/
theorem run_bind_endIn (a : Attempt σ α) (outcome : Except BridgeError β) :
    ((a >>= fun _ => endIn outcome).run.run s).2 = (a.run.run s).2 := by
  rcases hrun : a.run.run s with ⟨_ | x, t⟩
  · rw [run_bind_of_error s hrun]
  · rw [run_bind_of_ok s hrun]
    rfl

theorem run_converting_error (e : ConversionError) :
    (converting (.error e) : Attempt σ α).run.run s = (.error (.conversion e), s) := rfl

theorem run_changeHeap_ok {f : Heap Subscriber → Except NativeError (α × Heap Subscriber)} {x : α}
    {heap : Heap Subscriber} (h : f s.heap = .ok (x, heap)) :
    (changeHeap f).run.run s = (.ok x, { s with heap }) := by
  unfold changeHeap
  rw [run_get_bind, h]
  rfl

theorem run_changeHeap_error {f : Heap Subscriber → Except NativeError (α × Heap Subscriber)}
    {e : NativeError} (h : f s.heap = .error e) :
    (changeHeap f).run.run s = (.error (.native e), s) := by
  unfold changeHeap
  rw [run_get_bind, h]
  rfl

end

section

variable {σ α β : Type} {s t : System σ}

theorem run_pure_eq_ok {x y : α} :
    (pure x : Attempt σ α).run.run s = (.ok y, t) ↔ x = y ∧ s = t := by
  constructor
  · intro hrun
    obtain ⟨hok, hstate⟩ := Prod.mk.inj hrun
    exact ⟨Except.ok.inj hok, hstate⟩
  · rintro ⟨rfl, rfl⟩
    rfl

theorem run_bind_eq_ok {a : Attempt σ α} {f : α → Attempt σ β} {y : β} :
    (a >>= f).run.run s = (.ok y, t) ↔
      ∃ x u, a.run.run s = (.ok x, u) ∧ (f x).run.run u = (.ok y, t) := by
  constructor
  · intro hrun
    rcases ha : a.run.run s with ⟨e | x, u⟩
    · rw [run_bind_of_error s ha] at hrun
      exact absurd (Prod.mk.inj hrun).1 (by simp)
    · rw [run_bind_of_ok s ha] at hrun
      exact ⟨x, u, rfl, hrun⟩
  · rintro ⟨x, u, ha, hf⟩
    rw [run_bind_of_ok s ha, hf]

theorem run_converting_eq_ok {result : Except ConversionError α} {x : α} :
    (converting result : Attempt σ α).run.run s = (.ok x, t) ↔ result = .ok x ∧ s = t := by
  cases result with
  | error e =>
    exact ⟨fun hrun => absurd (Prod.mk.inj hrun).1 (by simp), fun h => absurd h.1 (by simp)⟩
  | ok y => exact run_pure_eq_ok.trans (by rw [Except.ok.injEq])

end

/-! ## The cases of a wrap -/

section

variable {σ : Type} {s s₁ : System σ} {r : RuntimeId} {o : ObjectId} {own : Ownership}
  {type : TypeId} {w : ObjectWrapper}

/-- Reports an exposure as an ancestor. -/
def System.noteExposure (s : System σ) (r : RuntimeId) (type : TypeId) :
    System.Exposure → System σ
  | .own _ => s
  | .inherited package => s.noteFallback r type package

theorem acquireWrapper_of_stale (h : s.heap.typeOf? o = none) :
    (acquireWrapper r o own).run.run s = (.error (.native (.staleObject o)), s) := by
  unfold acquireWrapper
  rw [run_get_bind, h]
  rfl

theorem acquireWrapper_of_known (ht : s.heap.typeOf? o = some type)
    (hl : s.liveWrapper r o = (some w, s₁)) :
    (acquireWrapper r o own).run.run s = (.ok (w, false), s₁.holdHandle (.object w)) := by
  unfold acquireWrapper
  rw [run_get_bind, ht]
  simp only [run_get_bind, run_set_bind, run_modify_bind, hl]
  rfl

theorem acquireWrapper_of_refused (ht : s.heap.typeOf? o = some type)
    (hl : s.liveWrapper r o = (none, s₁)) {e : ConversionError}
    (he : s₁.exposure r type = .error e) :
    (acquireWrapper r o own).run.run s = (.error (.conversion e), s₁) := by
  unfold acquireWrapper
  rw [run_get_bind, ht]
  simp only [run_get_bind, run_set_bind, hl, he]
  rfl

theorem acquireWrapper_of_owned (ht : s.heap.typeOf? o = some type)
    (hl : s.liveWrapper r o = (none, s₁)) {exposure : System.Exposure}
    (he : s₁.exposure r type = .ok exposure) :
    (acquireWrapper r o .owned).run.run s =
      let added := (s₁.noteExposure r type exposure).addWrapper r o type exposure.package .owned
      (.ok (added.1, true), added.2) := by
  unfold acquireWrapper
  rw [run_get_bind, ht]
  simp only [run_get_bind, run_set_bind, hl, he]
  cases exposure <;>
    simp only [run_get_bind, run_set_bind, run_modify_bind, reduceCtorEq, if_false] <;> rfl

theorem acquireWrapper_of_borrowed (ht : s.heap.typeOf? o = some type)
    (hl : s.liveWrapper r o = (none, s₁)) {exposure : System.Exposure}
    (he : s₁.exposure r type = .ok exposure) {heap : Heap Subscriber}
    (hr : (s₁.noteExposure r type exposure).heap.ref o = .ok heap) :
    (acquireWrapper r o .borrowed).run.run s =
      let s₂ : System σ := { s₁.noteExposure r type exposure with heap }
      let added := s₂.addWrapper r o type exposure.package .borrowed
      (.ok (added.1, true), added.2) := by
  have hchange : (changeHeap fun h => (h.ref o).map ((), ·)).run.run
      (s₁.noteExposure r type exposure) =
        (.ok (), { s₁.noteExposure r type exposure with heap }) := by
    apply run_changeHeap_ok
    rw [hr]
    rfl
  unfold acquireWrapper
  rw [run_get_bind, ht]
  simp only [run_get_bind, run_set_bind, hl, he]
  cases exposure
  all_goals
    simp only [run_modify_bind, if_true]
    exact run_bind_of_ok _ hchange

end

/-! ## Parts of a bridge -/

section

variable {σ α : Type} {s : System σ} {r r' : RuntimeId}

/-- A change of a bridge leaves the parts that it does not touch. -/
theorem bridge_modifyBridge_part (part : Bridge → α) {f : Bridge → Bridge}
    (hf : ∀ b, part (f b) = part b) (s : System σ) (r r' : RuntimeId) :
    part ((s.modifyBridge r' f).bridge r) = part (s.bridge r) := by
  unfold System.bridge System.modifyBridge
  rw [SharedTable.get?_modify]
  split
  · cases s.bridges.get? r.number with
    | none => rfl
    | some b => exact hf b
  · rfl

/-- It leaves the other bridges alone. -/
theorem bridge_modifyBridge_ne (hne : r' ≠ r) (f : Bridge → Bridge) :
    (s.modifyBridge r f).bridge r' = s.bridge r' := by
  have hnumber : r'.number ≠ r.number := fun heq => hne (congrArg RuntimeId.mk heq)
  unfold System.bridge System.modifyBridge
  rw [SharedTable.get?_modify, if_neg hnumber]

end

/-! ## The arena of a bridge in use -/

namespace System

variable {σ : Type} {s : System σ} {r : RuntimeId}

/-- The bridge behind an identifier. -/
theorem arena_of_inUse (hr : s.books.arenas.holders r.number ≠ 0) :
    s.books.arenas.get? r.number = some (s.bridge r).arena := by
  obtain ⟨a, ha⟩ := SharedTable.get?_of_holders hr
  have hmap : (s.bridges.get? r.number).map (·.arena) = some a := by simpa [books] using ha
  obtain ⟨bridge, hbridge, rfl⟩ := Option.map_eq_some_iff.mp hmap
  rw [ha, System.bridge, hbridge]
  rfl

/-- A bridge in use after a change. -/
theorem bridge_modifyBridge (hr : s.isBridgeAlive r = true) (f : Bridge → Bridge) :
    (s.modifyBridge r f).bridge r = f (s.bridge r) := by
  have hholders : s.bridges.holders r.number ≠ 0 := by simpa [isBridgeAlive] using hr
  obtain ⟨bridge, hbridge⟩ := SharedTable.get?_of_holders hholders
  simp [System.bridge, modifyBridge, SharedTable.get?_modify, hbridge]

theorem books_noteExposure (s : System σ) (r : RuntimeId) (type : TypeId) (exposure : Exposure) :
    (s.noteExposure r type exposure).books = s.books := by
  cases exposure with
  | own package => rfl
  | inherited package =>
    simp only [noteExposure, noteFallback]
    split
    · refine (books_note_of_not_late _ rfl).trans ?_
      exact books_modifyBridge_of_eq _ _ fun _ => rfl
    · rfl

theorem noteExposure_frame (s : System σ) (r : RuntimeId) (type : TypeId) (exposure : Exposure) :
    (s.noteExposure r type exposure).guest = s.guest ∧
      (s.noteExposure r type exposure).heap = s.heap ∧
      (s.noteExposure r type exposure).wrappers = s.wrappers := by
  cases exposure with
  | own package => exact ⟨rfl, rfl, rfl⟩
  | inherited package =>
    simp only [noteExposure, noteFallback]
    split <;> exact ⟨rfl, rfl, rfl⟩

theorem liveWrapper_frame (s : System σ) (r : RuntimeId) (o : ObjectId) :
    (s.liveWrapper r o).2.guest = s.guest ∧ (s.liveWrapper r o).2.heap = s.heap ∧
      (s.liveWrapper r o).2.wrappers = s.wrappers := by
  unfold liveWrapper
  split
  · exact ⟨rfl, rfl, rfl⟩
  · split <;> exact ⟨rfl, rfl, rfl⟩

theorem liveWrapper_of_listed {o : ObjectId} {w : ObjectWrapper}
    (hfind : (s.bridge r).arena.find? o = some w) (hlive : s.isLive w = true) :
    s.liveWrapper r o = (some w, s) := by
  unfold liveWrapper
  rw [hfind]
  simp only [hlive, if_true]

theorem liveWrapper_some {o : ObjectId} {w : ObjectWrapper} {t : System σ}
    (h : s.liveWrapper r o = (some w, t)) :
    t = s ∧ (s.bridge r).arena.find? o = some w ∧ s.isLive w = true := by
  unfold liveWrapper at h
  split at h
  · exact absurd (Prod.mk.inj h).1 (by simp)
  · rename_i found hfind
    split at h
    · rename_i hlive
      obtain ⟨hw, ht⟩ := Prod.mk.inj h
      obtain rfl := Option.some.inj hw
      exact ⟨ht.symm, hfind, hlive⟩
    · exact absurd (Prod.mk.inj h).1 (by simp)

theorem liveWrapper_none {o : ObjectId} {t : System σ} (h : s.liveWrapper r o = (none, t)) :
    ((s.bridge r).arena.find? o = none ∧ t = s) ∨
      ∃ w, (s.bridge r).arena.find? o = some w ∧ s.isLive w = false ∧
        t = s.modifyBridge r fun b => { b with arena := b.arena.erase o } := by
  unfold liveWrapper at h
  split at h
  · rename_i hfind
    exact Or.inl ⟨hfind, (Prod.mk.inj h).2.symm⟩
  · rename_i w hfind
    split at h
    · exact absurd (Prod.mk.inj h).1 (by simp)
    · rename_i hlive
      exact Or.inr ⟨w, hfind, by simpa using hlive, (Prod.mk.inj h).2.symm⟩

end System

section

variable {σ : Type} {c : Conduct} {s t : System σ} {r : RuntimeId} {o : ObjectId}
  {H : Multiset Release} {w : ObjectWrapper}

/-- A wrapper that the arena finds alive has a holder. -/
theorem holders_of_isLive (h : Balanced c 0 H s.books)
    (hr : s.books.arenas.holders r.number ≠ 0) (hfind : (s.bridge r).arena.find? o = some w)
    (hlive : s.isLive w = true) : s.books.wrappers.holders w.number ≠ 0 := by
  have harena := System.arena_of_inUse hr
  by_cases hw : w.ownership = .borrowed
  · have hborrowed : w ∈ (s.bridge r).arena.borrowed :=
      List.mem_filter.mpr ⟨Arena.Filed.mem_of_find? hfind, by simp [hw]⟩
    have hpledged := Books.mem_pledged_of_mem_borrowed hr harena hborrowed
    have hcounted := h.counts.counted (.wrapper w.number) trivial
    have hpositive := tally_ne_zero_of_mem hpledged
    simp only [Books.holders, tally_add, Release.account] at hcounted hpositive
    omega
  · have hbeq : (w.ownership == .borrowed) = false := by simpa using hw
    simp only [System.isLive, hbeq, Bool.false_or, bne_iff_ne] at hlive
    exact hlive

/-- What the arena has under an object is a wrapper of the object. -/
theorem wrapper_of_find? (h : Balanced c 0 H s.books)
    (hr : s.books.arenas.holders r.number ≠ 0) (hfind : (s.bridge r).arena.find? o = some w) :
    w.object = o ∧ ∃ entry, s.books.wrappers.get? w.number = some entry ∧ entry.wrapper = w ∧
      entry.maker.number = r.number := by
  have hfiled := h.formed.filed r.number _ (System.arena_of_inUse hr)
  exact hfiled.known o w (Table.mem_of_find hfind)

theorem liveWrapper_some_balanced (h : Balanced c 0 H s.books)
    (hr : s.books.arenas.holders r.number ≠ 0) (hl : s.liveWrapper r o = (some w, t)) :
    Balanced c 0 (.wrapper w ::ₘ H) (t.holdHandle (.object w)).books ∧ w.object = o ∧
      w.number < s.wrappers.size := by
  obtain ⟨rfl, hfind, hlive⟩ := System.liveWrapper_some hl
  obtain ⟨hobject, entry, hentry, hw, -⟩ := wrapper_of_find? h hr hfind
  have hmem : Release.wrapper w ∈ H + t.books.pledged :=
    h.mem_of_holders ⟨entry, hentry, hw⟩ trivial (holders_of_isLive h hr hfind hlive)
  exact ⟨h.hold trivial hmem, hobject, SharedTable.lt_size_of_get? hentry⟩

/-- Looking for a wrapper in vain takes a dead entry away. -/
theorem liveWrapper_none_balanced (h : Balanced c 0 H s.books)
    (hr : s.books.arenas.holders r.number ≠ 0) (hl : s.liveWrapper r o = (none, t)) :
    Balanced c 0 H t.books ∧ t.books.arenas.holders r.number ≠ 0 ∧
      (t.bridge r).arena.find? o = none := by
  have harena := System.arena_of_inUse hr
  rcases System.liveWrapper_none hl with ⟨hfind, rfl⟩ | ⟨w, hfind, hlive, rfl⟩
  · exact ⟨h, hr, hfind⟩
  · have hfiled := h.formed.filed r.number _ harena
    let gone := fun w : ObjectWrapper => w.object == o
    have hdead : w.ownership ≠ .borrowed ∧ s.wrappers.holders w.number = 0 := by
      simpa [System.isLive] using hlive
    -- No other entry is for the object.
    have honly : ∀ w' ∈ (s.bridge r).arena.wrappers, gone w' = true → w' = w := by
      intro w' hw' hgone
      obtain ⟨hfind', -⟩ := hfiled.of_mem hw'
      rw [eq_of_beq hgone, hfind] at hfind'
      exact (Option.some.inj hfind').symm
    have hbooks : (s.modifyBridge r fun b => { b with arena := b.arena.erase o }).books =
        s.books.eraseEntries r gone := by
      have hmodify : s.books.arenas.modify r.number (·.erase o) =
          s.books.arenas.modify r.number (·.eraseAll gone) := by
        apply SharedTable.modify_congr
        intro a ha
        rw [harena] at ha
        obtain rfl := Option.some.inj ha
        exact hfiled.erase_eq o
      rw [System.books_modifyBridge (g := (·.erase o)) _ _ fun _ => rfl, hmodify]
      rfl
    have herase := h.eraseEntries gone harena hr (by
      intro w' hw' hgone
      obtain rfl := honly w' hw' hgone
      rw [if_neg hdead.1]
      exact hdead.2)
    have hnil : (s.bridge r).arena.borrowed.filter gone = [] := by
      apply List.filter_eq_nil_iff.mpr
      intro w' hw' hgone
      obtain rfl := honly w' (List.mem_filter.mp hw').1 hgone
      exact hdead.1 (by simpa using (List.mem_filter.mp hw').2)
    rw [hnil] at herase
    have hholders :
        (s.modifyBridge r fun b => { b with arena := b.arena.erase o }).books.arenas.holders
          r.number ≠ 0 := by
      rw [hbooks, Books.eraseEntries, SharedTable.holders_modify]
      exact hr
    refine ⟨by rw [hbooks]; exact herase, hholders, ?_⟩
    have hnew := System.arena_of_inUse hholders
    rw [System.books_modifyBridge (g := (·.erase o)) _ _ fun _ => rfl] at hnew
    simp only [SharedTable.get?_modify, if_true, harena, Option.map_some, Option.some.injEq] at hnew
    rw [← hnew]
    exact Table.get?_erase_self _ o

/-- The books after a wrapper was added. -/
theorem books_addWrapper (s : System σ) (r : RuntimeId) (o : ObjectId) (type : TypeId)
    (package : String) (own : Ownership) :
    let w : ObjectWrapper := ⟨s.wrappers.size, o, type, package, own⟩
    let added := s.books.wrappers.add ⟨w, r, own == .owned⟩
    s.addWrapper r o type package own = (w, (s.addWrapper r o type package own).2) ∧
      (s.addWrapper r o type package own).2.books =
        s.books.file (if own = .borrowed then added.hold w.number else added) r w := by
  intro w added
  refine ⟨rfl, ?_⟩
  simp only [System.addWrapper]
  rw [System.books_modifyBridge (g := (·.insert w)) _ _ fun _ => rfl]
  rfl

/-- What comes of acquiring a wrapper: the object is stale, or it has a wrapper
that is alive, or it cannot be shown, or it gets a new wrapper, which takes a
reference if it is borrowed. -/
inductive WrapCase (s : System σ) (r : RuntimeId) (o : ObjectId) (own : Ownership) :
    Except BridgeError (ObjectWrapper × Bool) × System σ → Prop where
  | stale (htype : s.heap.typeOf? o = none) :
    WrapCase s r o own (.error (.native (.staleObject o)), s)
  | known {type : TypeId} {w : ObjectWrapper} (htype : s.heap.typeOf? o = some type)
    (hl : s.liveWrapper r o = (some w, s)) :
    WrapCase s r o own (.ok (w, false), s.holdHandle (.object w))
  | refused {type : TypeId} {s₁ : System σ} {e : ConversionError}
    (htype : s.heap.typeOf? o = some type) (hl : s.liveWrapper r o = (none, s₁))
    (he : s₁.exposure r type = .error e) : WrapCase s r o own (.error (.conversion e), s₁)
  | new {type : TypeId} {s₁ t : System σ} {exposure : System.Exposure} {heap : Heap Subscriber}
    {w : ObjectWrapper} (htype : s.heap.typeOf? o = some type) (hl : s.liveWrapper r o = (none, s₁))
    (he : s₁.exposure r type = .ok exposure)
    (hheap : (own = .owned ∧ heap = s.heap) ∨ (own = .borrowed ∧ s.heap.ref o = .ok heap))
    (hadded : System.addWrapper { s₁.noteExposure r type exposure with heap } r o type
      exposure.package own = (w, t)) : WrapCase s r o own (.ok (w, true), t)

theorem wrapCase (s : System σ) (r : RuntimeId) (o : ObjectId) (own : Ownership) :
    WrapCase s r o own ((acquireWrapper r o own).run.run s) := by
  cases htype : s.heap.typeOf? o with
  | none =>
    rw [acquireWrapper_of_stale htype]
    exact .stale htype
  | some type =>
    rcases hl : s.liveWrapper r o with ⟨_ | w, s₁⟩
    · cases he : s₁.exposure r type with
      | error e =>
        rw [acquireWrapper_of_refused htype hl he]
        exact .refused htype hl he
      | ok exposure =>
        have hheap₁ := (s.liveWrapper_frame r o).2.1
        rw [hl] at hheap₁
        have hheap : (s₁.noteExposure r type exposure).heap = s.heap :=
          (s₁.noteExposure_frame r type exposure).2.1.trans hheap₁
        cases own with
        | owned =>
          rw [acquireWrapper_of_owned htype hl he]
          exact .new htype hl he (Or.inl ⟨rfl, hheap⟩) rfl
        | borrowed =>
          obtain ⟨object, hlive, -⟩ := Option.map_eq_some_iff.mp htype
          have href := Heap.ref_of_live hlive
          rw [acquireWrapper_of_borrowed htype hl he (by rw [hheap, href])]
          exact .new htype hl he (Or.inr ⟨rfl, href⟩) rfl
    · obtain ⟨rfl, -, -⟩ := System.liveWrapper_some hl
      rw [acquireWrapper_of_known htype hl]
      exact .known htype hl

/-- The books balance with a new wrapper. An owned one takes over a reference
of its maker, and a borrowed one has a new reference. -/
theorem addWrapper_balanced {s₁ : System σ} {type : TypeId} {exposure : System.Exposure}
    {heap : Heap Subscriber} {own : Ownership}
    (h : Balanced c 0 ((if own = .owned then {.object o} else 0) + H) s.books)
    (hr : s.books.arenas.holders r.number ≠ 0) (hl : s.liveWrapper r o = (none, s₁))
    (hheap : (own = .owned ∧ heap = s.heap) ∨ (own = .borrowed ∧ s.heap.ref o = .ok heap)) :
    let s₂ : System σ := { s₁.noteExposure r type exposure with heap }
    Balanced c 0 (.wrapper ⟨s₂.wrappers.size, o, type, exposure.package, own⟩ ::ₘ H)
      (s₂.addWrapper r o type exposure.package own).2.books := by
  intro s₂
  have hheap₁ := (s.liveWrapper_frame r o).2.1
  rw [hl] at hheap₁
  have hheap₂ := (s₁.noteExposure_frame r type exposure).2.1
  obtain ⟨hbalanced, hused, hfind⟩ := liveWrapper_none_balanced h hr hl
  have hbooks := s₁.books_noteExposure r type exposure
  have harena : (s₁.noteExposure r type exposure).books.arenas.get? r.number =
      some (s₁.bridge r).arena := by
    rw [hbooks]
    exact System.arena_of_inUse hused
  rw [← hbooks] at hbalanced hused
  rw [(books_addWrapper s₂ r o type exposure.package own).2]
  rcases hheap with ⟨rfl, rfl⟩ | ⟨rfl, href⟩
  · rw [if_pos rfl, Multiset.singleton_add] at hbalanced
    have hsame : s₂ = s₁.noteExposure r type exposure := by
      simp only [s₂, ← hheap₁, ← hheap₂]
    rw [hsame]
    exact hbalanced.addOwned (w := ⟨_, o, type, exposure.package, .owned⟩) rfl rfl harena hused
      hfind
  · rw [if_neg (by simp), zero_add] at hbalanced
    rw [← hheap₁, ← hheap₂] at href
    obtain ⟨object, hlive, rfl⟩ := Heap.ref_ok href
    have hraised := hbalanced.raise (t := .object o) rfl hlive
      (Balanced.countUp_cases object.refs)
    exact hraised.addBorrowed (w := ⟨_, o, type, exposure.package, .borrowed⟩) rfl rfl harena hused
      hfind

/-- What comes of acquiring a wrapper while outside code holds some things.
A new owned wrapper takes over a reference of its maker. -/
inductive Acquired (c : Conduct) (own : Ownership) (o : ObjectId) (H : Multiset Release)
    (s : System σ) : Except BridgeError (ObjectWrapper × Bool) × System σ → Prop where
  | failed (e : BridgeError) (t : System σ) (guest : t.guest = s.guest)
    (balanced : Balanced c 0 H t.books) : Acquired c own o H s (.error e, t)
  | known (w : ObjectWrapper) (t : System σ) (guest : t.guest = s.guest) (object : w.object = o)
    (old : w.number < s.wrappers.size) (balanced : Balanced c 0 (.wrapper w ::ₘ H) t.books) :
    Acquired c own o H s (.ok (w, false), t)
  | new (w : ObjectWrapper) (t : System σ) (guest : t.guest = s.guest) (object : w.object = o)
    (next : w.number = s.wrappers.size)
    (balanced : ∀ H', H = (if own = .owned then {.object o} else 0) + H' →
      Balanced c 0 (.wrapper w ::ₘ H') t.books) : Acquired c own o H s (.ok (w, true), t)

theorem acquireWrapper_acquired (own : Ownership) (h : Balanced c 0 H s.books)
    (hr : s.books.arenas.holders r.number ≠ 0) :
    Acquired c own o H s ((acquireWrapper r o own).run.run s) := by
  have hcase := wrapCase s r o own
  generalize (acquireWrapper r o own).run.run s = done at hcase ⊢
  obtain ⟨hguest, -, hwrappers⟩ := s.liveWrapper_frame r o
  cases hcase with
  | stale htype => exact .failed _ s rfl h
  | known htype hl =>
    obtain ⟨hbalanced, hobject, hold⟩ := liveWrapper_some_balanced h hr hl
    exact .known _ _ rfl hobject hold hbalanced
  | refused htype hl he =>
    rw [hl] at hguest
    exact .failed _ _ hguest (liveWrapper_none_balanced h hr hl).1
  | @new type s₁ t exposure heap w htype hl he hheap hadded =>
    rw [hl] at hguest hwrappers
    obtain ⟨hguest₂, -, hwrappers₂⟩ := s₁.noteExposure_frame r type exposure
    let s₂ : System σ := { s₁.noteExposure r type exposure with heap }
    have hnext : s₂.wrappers.size = s.wrappers.size := by rw [← hwrappers, ← hwrappers₂]
    obtain rfl : (s₂.addWrapper r o type exposure.package own).2 = t := congrArg Prod.snd hadded
    obtain rfl : ⟨s₂.wrappers.size, o, type, exposure.package, own⟩ = w := congrArg Prod.fst hadded
    refine .new _ _ (hguest₂.trans hguest) rfl hnext fun H' hH => ?_
    rw [hH] at h
    exact addWrapper_balanced h hr hl hheap

end

end NativeBridge
