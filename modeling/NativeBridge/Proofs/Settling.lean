-- Releasing ends. What can still follow is counted before a release, and
-- each step uses up at least one of it. So the count is never too small,
-- and `release` obeys the two equations that one would write without it.
import Mathlib.Tactic
import NativeBridge.System.Release

namespace NativeBridge

theorem set_eq_modify {α : Type} {l : List α} {n : Nat} {x : α} (y : α) (h : l[n]? = some x) :
    l.set n y = l.modify n fun _ => y := by
  have hlt : n < l.length := (List.getElem?_eq_some_iff.mp h).1
  apply List.ext_getElem?
  intro i
  by_cases hi : n = i
  · subst hi
    simp [hlt]
  · simp [hi]

namespace System

variable {σ : Type}

/-! ## One step uses up at least one -/

theorem weigh_set {α : Type} (weight : α → Nat) {l : List α} {n : Nat} {x : α} (y : α)
    (h : l[n]? = some x) : weigh weight (l.set n y) + weight x = weigh weight l + weight y := by
  rw [set_eq_modify y h]
  exact weigh_modify weight (fun _ => y) h

theorem handlerReleases_length (handlers : List (Connection Subscriber)) :
    (handlerReleases handlers).length ≤ handlers.length := by
  induction handlers with
  | nil => simp [handlerReleases]
  | cons connection rest ih =>
    have hone : connection.closure.releases.length ≤ 1 := by
      cases connection.closure <;> simp [Subscriber.releases]
    simp only [handlerReleases, List.flatMap_cons, List.length_append, List.length_cons] at ih ⊢
    omega

theorem handle_releases_length (h : Handle) : h.releases.length ≤ 1 := by
  cases h <;> simp [Handle.releases]

theorem data_releases_length (data : Option Handle) :
    ((data.map Handle.releases).getD []).length ≤ 1 := by
  cases data with
  | none => simp
  | some h => simpa using handle_releases_length h

theorem closure_releases_length (c : Closure) : c.releases.length ≤ 2 := by
  have := data_releases_length c.data
  simp only [Closure.releases, List.length_cons]
  omega

theorem callback_releases_length (c : Callback) : c.releases.length ≤ 2 := by
  have := data_releases_length c.data
  simp only [Callback.releases, List.length_cons]
  omega

theorem releaseReference_shrinks (s : System σ) (o : ObjectId)
    (report : ObjectId → NativeError → Notice) :
    (s.releaseReference o report).1.length + (s.releaseReference o report).2.releasesLeft ≤
      s.releasesLeft := by
  unfold releaseReference
  rcases hl : s.heap.live? o with _ | object
  · simp [Heap.unref_of_stale hl, note, releasesLeft]
  · have hslot := Heap.live?_eq_some_iff.mp hl
    rw [Heap.unref_of_live hl]
    by_cases hr : object.refs - 1 = 0
    · have hsum := weigh_set Slot.handlerCount ⟨o.generation + 1, none⟩ hslot
      have hlen := handlerReleases_length object.handlers
      have hold : (⟨o.generation, some object⟩ : Slot Subscriber).handlerCount =
          object.handlers.length := rfl
      have hnew : (⟨o.generation + 1, none⟩ : Slot Subscriber).handlerCount = 0 := rfl
      simp only [hr, if_true, releasesLeft, Heap.vacate]
      omega
    · have hsum := weigh_set Slot.handlerCount
        ⟨o.generation, some { object with refs := object.refs - 1 }⟩ hslot
      have hsame : Slot.handlerCount ⟨o.generation, some { object with refs := object.refs - 1 }⟩ =
          (⟨o.generation, some object⟩ : Slot Subscriber).handlerCount := rfl
      have hnil : (handlerReleases []).length = 0 := rfl
      simp only [hr, if_false, releasesLeft, Heap.store]
      omega

/-- A wrapper, closure or callback that loses a holder: what comes out
weighs no more than what goes. -/
theorem drop_shrinks {α : Type} (weight : Nat) (t : SharedTable α) (n : Nat) {out : List Release}
    (hout : out.length ≤ weight) (hlast : t.holders n ≠ 1 → out = []) :
    out.length + (t.drop n).total (fun _ => weight) ≤ t.total fun _ => weight := by
  by_cases h : t.holders n = 1
  · obtain ⟨x, hx⟩ := SharedTable.get?_of_holders (t := t) (n := n) (by omega)
    have := SharedTable.total_drop_last (fun _ => weight) h hx
    omega
  · rw [hlast h, SharedTable.total_drop_of_ne _ h]
    simp

theorem handOver_total (weight : Nat) (ws : List ObjectWrapper) (t : SharedTable WrapperRecord) :
    (ws.foldl handOver t).total (fun _ => weight) = t.total fun _ => weight := by
  induction ws generalizing t with
  | nil => rfl
  | cons w rest ih =>
    rw [List.foldl_cons, ih]
    exact SharedTable.total_modify_of_eq _ t w.number _ (Or.inr fun _ => rfl)

theorem releaseBridge_shrinks (s : System σ) (r : RuntimeId) (h : s.bridges.holders r.number = 1) :
    let t : System σ := { s with bridges := s.bridges.drop r.number }
    (t.releaseBridge r).1.length + (t.releaseBridge r).2.releasesLeft ≤ s.releasesLeft := by
  intro t
  obtain ⟨b, hb⟩ := SharedTable.get?_of_holders (t := s.bridges) (n := r.number) (by omega)
  have hbridge : t.bridge r = b := by simp [t, bridge, hb]
  have hgone : t.bridges.holders r.number = 0 := by
    simp [t, SharedTable.holders_drop, h]
  have htotal := SharedTable.total_drop_last (fun b : Bridge => 2 * b.arena.size) h hb
  let isKept := fun w : ObjectWrapper => decide (1 < t.wrappers.holders w.number)
  have hsplit := List.length_eq_length_filter_add (l := b.arena.borrowed) isKept
  have hsize : b.arena.borrowed.length ≤ b.arena.size := by
    have := List.length_filter_le (·.ownership == .borrowed) b.arena.wrappers
    simpa [Arena.borrowed, Arena.wrappers, Arena.size, Table.size] using this
  have hidle : ∀ ws : List ObjectWrapper, (ws.flatMap idleReleases).length = 2 * ws.length := by
    intro ws
    simp [List.length_flatMap, idleReleases, Nat.mul_comm]
  simp only [releaseBridge, modifyBridge, releasesLeft, hbridge, List.partition_eq_filter_filter,
    List.length_append, List.length_map, hidle, handOver_total]
  rw [SharedTable.total_modify_of_eq _ _ _ _ (Or.inl hgone)]
  simp only [t, isKept, Function.comp_def] at *
  omega

theorem releaseOne_shrinks (s : System σ) (release : Release) :
    (s.releaseOne release).1.length + (s.releaseOne release).2.releasesLeft ≤ s.releasesLeft := by
  cases release with
  | object o => exact s.releaseReference_shrinks o _
  | defensive o => exact s.releaseReference_shrinks o _
  | wrapper w =>
    have hdrop (out : List Release) (hout : out.length ≤ 1)
        (hlast : s.wrappers.holders w.number ≠ 1 → out = []) :=
      drop_shrinks 1 s.wrappers w.number hout hlast
    simp only [releaseOne]
    split
    · have := hdrop [.object w.object] (by simp) (by simp_all)
      simp only [releasesLeft]
      omega
    · have := hdrop [] (by simp) (by simp)
      simp only [releasesLeft]
      omega
  | boxed w =>
    obtain ⟨told, -, hdone⟩ := s.releaseOne_boxed w
    simp [hdone, releasesLeft]
  | callable c => simp [releaseOne, releasesLeft]
  | closure c =>
    have hdrop (out : List Release) (hout : out.length ≤ 2)
        (hlast : s.closures.holders c.id.number ≠ 1 → out = []) :=
      drop_shrinks 2 s.closures c.id.number hout hlast
    simp only [releaseOne]
    split
    · have := hdrop c.releases (closure_releases_length c) (by simp_all)
      simp only [releasesLeft]
      omega
    · have := hdrop [] (by simp) (by simp)
      simp only [releasesLeft]
      omega
  | callback c =>
    have hdrop (out : List Release) (hout : out.length ≤ 2)
        (hlast : s.callbacks.holders c.number ≠ 1 → out = []) :=
      drop_shrinks 2 s.callbacks c.number hout hlast
    simp only [releaseOne]
    split
    · have := hdrop c.releases (callback_releases_length c) (by simp_all)
      simp only [releasesLeft]
      omega
    · have := hdrop [] (by simp) (by simp)
      simp only [releasesLeft]
      omega
  | bridge r =>
    simp only [releaseOne]
    by_cases h : s.bridges.holders r.number = 1
    · simpa [h] using s.releaseBridge_shrinks r h
    · have := SharedTable.total_drop_of_ne (fun b : Bridge => 2 * b.arena.size) h
      simp [h, releasesLeft, this]

/-! ## The bound is never reached -/

theorem settle_nil (steps : Nat) (s : System σ) : settle steps [] s = s := by
  cases steps <;> rfl

theorem settle_cons (steps : Nat) (first : Release) (rest : List Release) (s : System σ) :
    settle (steps + 1) (first :: rest) s =
      settle steps ((s.releaseOne first).1 ++ rest) (s.releaseOne first).2 := rfl

/-- A bound that is large enough gives the same as any larger one. -/
theorem settle_bound (steps more : Nat) (due : List Release) (s : System σ)
    (h : due.length + s.releasesLeft ≤ steps) (hmore : steps ≤ more) :
    settle more due s = settle steps due s := by
  induction steps generalizing more due s with
  | zero =>
    have hdue : due = [] := List.length_eq_zero_iff.mp (by omega)
    rw [hdue, settle_nil, settle_nil]
  | succ steps ih =>
    obtain ⟨more, rfl⟩ := Nat.exists_eq_add_one_of_ne_zero (n := more) (by omega)
    cases due with
    | nil => rw [settle_nil, settle_nil]
    | cons first rest =>
      have hone := s.releaseOne_shrinks first
      simp only [List.length_cons] at h
      rw [settle_cons, settle_cons]
      exact ih more _ _ (by simp only [List.length_append]; omega) (by omega)

@[simp] theorem release_nil (s : System σ) : s.release [] = s := settle_nil _ s

/-- The first release is carried out, and what follows from it comes before
the rest. -/
theorem release_cons (s : System σ) (first : Release) (rest : List Release) :
    s.release (first :: rest) =
      (s.releaseOne first).2.release ((s.releaseOne first).1 ++ rest) := by
  have hone := s.releaseOne_shrinks first
  have hsteps : (first :: rest).length + s.releasesLeft = rest.length + s.releasesLeft + 1 := by
    simp only [List.length_cons]
    omega
  unfold release
  rw [hsteps, settle_cons]
  exact settle_bound _ _ _ _ (Nat.le_refl _) (by simp only [List.length_append]; omega)

/-- What one step keeps, with the releases that wait, a whole release
keeps. -/
theorem release_keeps {P : List Release → System σ → Prop}
    (step : ∀ first rest s, P (first :: rest) s →
      P ((s.releaseOne first).1 ++ rest) (s.releaseOne first).2)
    (due : List Release) (s : System σ) (h : P due s) : P [] (s.release due) := by
  have hmeasure : ∀ left, ∀ (due : List Release) (s : System σ),
      due.length + s.releasesLeft ≤ left → P due s → P [] (s.release due) := by
    intro left
    induction left with
    | zero =>
      intro due s hleft h
      have hdue : due = [] := List.length_eq_zero_iff.mp (by omega)
      subst hdue
      rwa [release_nil]
    | succ left ih =>
      intro due s hleft h
      cases due with
      | nil => rwa [release_nil]
      | cons first rest =>
        have hone := s.releaseOne_shrinks first
        simp only [List.length_cons] at hleft
        rw [release_cons]
        exact ih _ _ (by simp only [List.length_append]; omega) (step first rest s h)
  exact hmeasure _ due s (Nat.le_refl _) h

end System

end NativeBridge
