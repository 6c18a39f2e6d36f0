-- Boxed wrappers along a run in small steps. Steps add wrappers to the table
-- of boxes, and holders to them; with its last holder a wrapper calls the
-- strategy that made it, if it owns its block, and nothing else ever calls it.
import NativeBridge.Proofs.ClosurePlays

namespace NativeBridge

variable {σ : Type}

/-! ## The table of boxes -/

/-- What a step does to the table of boxes. -/
inductive BoxChange (t : SharedTable BoxRecord) : SharedTable BoxRecord → Prop where
  | same : BoxChange t t
  | added (w : BoxedWrapper) (destroyer : Option BoxedStrategy) (hw : w.number = t.size) :
    BoxChange t (t.add { wrapper := w, destroyer })
  | held (n : Nat) (hn : t.holders n ≠ 0) : BoxChange t (t.hold n)
  | dropped (n : Nat) : BoxChange t (t.dropWith n BoxRecord.finish)

/-- Each wrapper called its strategy once if it has no holder any more, and not
at all if it has one. -/
structure DestroysOnce (t : SharedTable BoxRecord) : Prop where
  numbered : ∀ n entry, t.get? n = some entry → entry.wrapper.number = n
  once : ∀ n entry, t.get? n = some entry →
    entry.destroyedBy = if t.holders n = 0 then entry.hook?.toList else []

/-- The wrappers of a table are still what they were, and those without a
holder get none again. -/
def BoxesLast (t t' : SharedTable BoxRecord) : Prop :=
  ∀ n entry, t.get? n = some entry → ∃ entry', t'.get? n = some entry' ∧
    entry'.wrapper = entry.wrapper ∧ entry'.destroyer = entry.destroyer ∧
    (t.holders n = 0 → t'.holders n = 0)

namespace DestroysOnce

variable {t : SharedTable BoxRecord}

theorem start : DestroysOnce {} where
  numbered n entry hentry := absurd hentry (by simp [SharedTable.get?])
  once n entry hentry := absurd hentry (by simp [SharedTable.get?])

theorem add (h : DestroysOnce t) {w : BoxedWrapper} (hw : w.number = t.size)
    (destroyer : Option BoxedStrategy) : DestroysOnce (t.add { wrapper := w, destroyer }) where
  numbered n entry hentry := by
    rw [SharedTable.get?_add] at hentry
    split at hentry
    · rename_i hn
      rw [← Option.some.inj hentry, hn, hw]
    · exact h.numbered n entry hentry
  once n entry hentry := by
    rw [SharedTable.get?_add] at hentry
    rw [SharedTable.holders_add]
    split at hentry
    · rename_i hn
      rw [← Option.some.inj hentry, if_pos hn, if_neg Nat.one_ne_zero]
    · rename_i hn
      rw [if_neg hn]
      exact h.once n entry hentry

theorem hold (h : DestroysOnce t) {m : Nat} (hm : t.holders m ≠ 0) : DestroysOnce (t.hold m) where
  numbered n entry hentry := h.numbered n entry (by rwa [SharedTable.get?_hold] at hentry)
  once n entry hentry := by
    simp only [SharedTable.holders_hold_eq_zero hm]
    exact h.once n entry (by rwa [SharedTable.get?_hold] at hentry)

/-- The last holder that goes makes the wrapper call its strategy, and no other
one does. -/
theorem drop (h : DestroysOnce t) (m : Nat) :
    DestroysOnce (t.dropWith m BoxRecord.finish) where
  numbered n entry hentry := by
    rw [SharedTable.get?_dropWith] at hentry
    split at hentry
    · obtain ⟨before, hbefore, rfl⟩ := Option.map_eq_some_iff.mp hentry
      exact h.numbered n before hbefore
    · exact h.numbered n entry hentry
  once n entry hentry := by
    rw [SharedTable.get?_dropWith] at hentry
    rw [SharedTable.holders_dropWith]
    split at hentry
    · rename_i hlast
      obtain ⟨before, hbefore, rfl⟩ := Option.map_eq_some_iff.mp hentry
      have hnot : before.destroyedBy = [] := by
        rw [h.once n before hbefore, hlast.2, if_neg Nat.one_ne_zero]
      rw [if_pos hlast.1, hlast.2, Nat.sub_self, if_pos rfl]
      change before.destroyedBy ++ before.hook?.toList = before.hook?.toList
      rw [hnot, List.nil_append]
    · rename_i hmore
      have hsame : (if n = m then t.holders n - 1 else t.holders n) = 0 ↔ t.holders n = 0 := by
        split
        · rename_i hn
          have hne : t.holders n ≠ 1 := fun hone => hmore ⟨hn, hone⟩
          omega
        · rfl
      simp only [hsame]
      exact h.once n entry hentry

end DestroysOnce

theorem BoxesLast.refl (t : SharedTable BoxRecord) : BoxesLast t t :=
  fun _ entry hentry => ⟨entry, hentry, rfl, rfl, id⟩

theorem BoxesLast.trans {t t' t'' : SharedTable BoxRecord} (h : BoxesLast t t')
    (h' : BoxesLast t' t'') : BoxesLast t t'' := by
  intro n entry hentry
  obtain ⟨entry', hentry', hwrapper, hdestroyer, hgone⟩ := h n entry hentry
  obtain ⟨entry'', hentry'', hwrapper', hdestroyer', hgone'⟩ := h' n entry' hentry'
  exact ⟨entry'', hentry'', hwrapper'.trans hwrapper, hdestroyer'.trans hdestroyer,
    hgone' ∘ hgone⟩

namespace BoxChange

variable {t t' : SharedTable BoxRecord}

theorem destroysOnce (h : BoxChange t t') (ht : DestroysOnce t) : DestroysOnce t' := by
  cases h with
  | same => exact ht
  | added w destroyer hw => exact ht.add hw destroyer
  | held m hm => exact ht.hold hm
  | dropped m => exact ht.drop m

theorem boxesLast (h : BoxChange t t') : BoxesLast t t' := by
  intro n entry hentry
  cases h with
  | same => exact BoxesLast.refl t n entry hentry
  | added w destroyer hw =>
    refine ⟨entry, SharedTable.get?_add_of_some hentry, rfl, rfl, fun hgone => ?_⟩
    have hne : n ≠ t.size := Nat.ne_of_lt (SharedTable.lt_size_of_get? hentry)
    rwa [SharedTable.holders_add, if_neg hne]
  | held m hm =>
    exact ⟨entry, by rwa [SharedTable.get?_hold], rfl, rfl,
      (SharedTable.holders_hold_eq_zero hm n).mpr⟩
  | dropped m =>
    have hgone : t.holders n = 0 → (t.dropWith m BoxRecord.finish).holders n = 0 := by
      rw [SharedTable.holders_dropWith]
      split <;> omega
    rw [SharedTable.get?_dropWith, hentry]
    split
    · exact ⟨entry.finish, rfl, rfl, rfl, hgone⟩
    · exact ⟨entry, rfl, rfl, rfl, hgone⟩

end BoxChange

/-! ## What steps do to it -/

namespace System

variable (s : System σ)

theorem releaseReference_boxes (o : ObjectId) (report : ObjectId → NativeError → Notice) :
    (s.releaseReference o report).2.boxes = s.boxes := by
  unfold releaseReference
  split <;> rfl

/-- Only a holder of a box changes the table of boxes. -/
theorem releaseOne_boxes (t : Release) :
    (s.releaseOne t).2.boxes =
      match t with
      | .boxed w => s.boxes.dropWith w.number BoxRecord.finish
      | _ => s.boxes := by
  cases t with
  | object o => exact s.releaseReference_boxes o _
  | defensive o => exact s.releaseReference_boxes o _
  | boxed w =>
    obtain ⟨told, -, hdone⟩ := s.releaseOne_boxed w
    rw [hdone]
  | callable c => rfl
  | _ =>
    simp only [releaseOne]
    split <;> rfl

theorem keep_boxChange {t : Release} (ht : s.InUse t) : BoxChange s.boxes (s.keep t).boxes := by
  cases t with
  | boxed w => exact .held w.number ht.2.2
  | _ => exact .same

theorem holdSubscribers_boxes (subscribers : List Subscriber) :
    (subscribers.foldl holdSubscriber s).boxes = s.boxes := by
  induction subscribers generalizing s with
  | nil => rfl
  | cons subscriber rest ih =>
    rw [List.foldl_cons, ih]
    cases subscriber <;> rfl

/-- What is kept of the data of something new. -/
theorem holdData_boxChange {callable : Callable} {data : Option Handle}
    (hparts : ∀ u ∈ Release.callable callable :: dataReleases data, s.InUse u) :
    BoxChange s.boxes ((s.holdCallable callable).holdData data).boxes := by
  cases data with
  | none => exact .same
  | some handle =>
    cases handle with
    | boxed w =>
      have hused := hparts (.boxed w) (by simp [dataReleases, Handle.releases])
      exact .held w.number hused.2.2
    | _ => exact .same

end System

theorem Work.boxes {s t : System σ} {gained : Multiset Release} (h : Work s gained t) :
    BoxChange s.boxes t.boxes := by
  cases h with
  | callable => exact .same
  | bridge config registry relay => cases relay <;> exact .same
  | callback r callable data paramTypes returnType hparts => exact s.holdData_boxChange hparts
  | wrapped r o own w isNew t hr hrun =>
    obtain ⟨-, hboxes, -⟩ := acquireWrapper_frame s r o own
    rw [hrun] at hboxes
    rw [hboxes]
    exact .same
  | unwrapped r o own e t hr hrun =>
    obtain ⟨-, hboxes, -⟩ := acquireWrapper_frame s r o own
    rw [hrun] at hboxes
    rw [hboxes]
    exact .same
  | boxed w destroyer hw => exact .added w destroyer hw
  | adopted w => exact .same
  | types change types hdone => exact .same
  | uncounted t hbooks =>
    have hboxes : t.boxes = s.boxes := congrArg Books.boxes hbooks
    rw [hboxes]
    exact .same

namespace Stage

variable {a b : Stage σ} {es : List Happening}

/-- What one step does to the table of boxes. -/
theorem Step.boxes (h : Step a es b) : BoxChange a.system.boxes b.system.boxes := by
  cases h with
  | settle s t rest kept snapshots =>
    rw [s.releaseOne_boxes t]
    cases t with
    | boxed w => exact .dropped w.number
    | _ => exact .same
  | work hwork => exact hwork.boxes
  | keep hused => exact System.keep_boxChange _ hused
  | newClosure r callable data swap marshaller origin kept snapshots hparts =>
    exact System.holdData_boxChange _ hparts
  | beginEmission kept snapshots hdone =>
    rw [System.holdSubscribers_boxes]
    exact .same
  | _ => exact .same

theorem Run.destroysOnce {guest : σ} (h : Run (start guest) es a) :
    DestroysOnce a.system.boxes := by
  induction h with
  | rest => exact .start
  | step _ last ih => exact last.boxes.destroysOnce ih

theorem Run.boxesLast (h : Run a es b) : BoxesLast a.system.boxes b.system.boxes := by
  induction h with
  | rest => exact .refl _
  | step _ last ih => exact ih.trans last.boxes.boxesLast

end Stage

end NativeBridge
