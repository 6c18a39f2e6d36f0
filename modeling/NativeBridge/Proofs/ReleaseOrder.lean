-- The order of releases. Releases that wait together come to the same end in
-- any order, except for the order in which freed slots are used again.
import NativeBridge.Proofs.Releasing

namespace NativeBridge

/-! ## What becomes of a reference -/

namespace System

variable {σ : Type} {s : System σ} {o : ObjectId} {object : LiveObject Subscriber}
  {report : ObjectId → NativeError → Notice}

theorem releaseReference_of_stale (hl : s.heap.live? o = none) :
    s.releaseReference o report = ([], s.note (report o (.staleObject o))) := by
  unfold releaseReference
  rw [Heap.unref_of_stale hl]

theorem releaseReference_of_more (hl : s.heap.live? o = some object)
    (hmore : object.refs - 1 ≠ 0) : s.releaseReference o report =
      ([], { s with heap := s.heap.store o { object with refs := object.refs - 1 } }) := by
  unfold releaseReference
  rw [Heap.unref_of_live hl, if_neg hmore]
  rfl

theorem releaseReference_of_last (hl : s.heap.live? o = some object)
    (hlast : object.refs - 1 = 0) : s.releaseReference o report =
      (handlerReleases object.handlers, { s with heap := s.heap.vacate o }) := by
  unfold releaseReference
  rw [Heap.unref_of_live hl, if_pos hlast]

end System

/-! ## Nearly the same state -/

/-- Two heaps that differ at most in their free lists, which are related. -/
structure Heap.Nearly {κ : Type} (R : List UInt32 → List UInt32 → Prop) (h h' : Heap κ) : Prop where
  free : R h.free h'.free
  rest : h' = { h with free := h'.free }

/-- Two states that differ at most in the free list of the heap, in the relays
and in what was reported. -/
structure System.Nearly {σ : Type} (R : List UInt32 → List UInt32 → Prop) (s t : System σ) :
    Prop where
  heap : s.heap.Nearly R t.heap
  rest : t = { s with heap := t.heap, relays := t.relays, notices := t.notices }

section

variable {σ : Type} {R : List UInt32 → List UInt32 → Prop}
  (hR : ∀ {l l'} (i : UInt32), R l l' → R (i :: l) (i :: l'))

namespace Heap.Nearly

variable {κ : Type} {h h' : Heap κ}

theorem live? (hh : h.Nearly R h') (o : ObjectId) : h'.live? o = h.live? o := by
  rw [hh.rest]
  rfl

theorem types (hh : h.Nearly R h') : h'.types = h.types := by rw [hh.rest]

theorem store (hh : h.Nearly R h') (o : ObjectId) (object : LiveObject κ) :
    (h.store o object).Nearly R (h'.store o object) := by
  rw [hh.rest]
  exact ⟨hh.free, rfl⟩

include hR in
theorem vacate (hh : h.Nearly R h') (o : ObjectId) : (h.vacate o).Nearly R (h'.vacate o) := by
  rw [hh.rest]
  exact ⟨hR o.index hh.free, rfl⟩

end Heap.Nearly

namespace System.Nearly

variable {s s' : System σ}

theorem of_heap (h : s.Nearly R s') {heap heap' : Heap Subscriber} (hheap : heap.Nearly R heap') :
    ({ s with heap } : System σ).Nearly R { s' with heap := heap' } := by
  rw [h.rest]
  exact ⟨hheap, rfl⟩

/-- A report tells no such states apart. -/
theorem note (h : s.Nearly R s') (n : Notice) : s.Nearly R (s'.note n) := by
  rw [h.rest]
  exact ⟨h.heap, rfl⟩

theorem note_left (h : s.Nearly R s') (n : Notice) : (s.note n).Nearly R s' := by
  rw [h.rest]
  exact ⟨h.heap, rfl⟩

include hR in
theorem releaseReference (h : s.Nearly R s') (o : ObjectId)
    (report : ObjectId → NativeError → Notice) :
    (s'.releaseReference o report).1 = (s.releaseReference o report).1 ∧
      (s.releaseReference o report).2.Nearly R (s'.releaseReference o report).2 := by
  cases hl : s.heap.live? o with
  | none =>
    have hl' := (h.heap.live? o).trans hl
    rw [System.releaseReference_of_stale hl, System.releaseReference_of_stale hl']
    exact ⟨rfl, (h.note _).note_left _⟩
  | some object =>
    have hl' := (h.heap.live? o).trans hl
    by_cases hlast : object.refs - 1 = 0
    · rw [System.releaseReference_of_last hl hlast, System.releaseReference_of_last hl' hlast]
      exact ⟨rfl, h.of_heap (h.heap.vacate hR o)⟩
    · rw [System.releaseReference_of_more hl hlast, System.releaseReference_of_more hl' hlast]
      exact ⟨rfl, h.of_heap (h.heap.store o _)⟩

include hR in
theorem releaseOne (h : s.Nearly R s') (t : Release) :
    (s'.releaseOne t).1 = (s.releaseOne t).1 ∧
      (s.releaseOne t).2.Nearly R (s'.releaseOne t).2 := by
  cases t with
  | object o => exact h.releaseReference hR o _
  | defensive o => exact h.releaseReference hR o _
  | wrapper w =>
    have hgives : s'.givesBack w = s.givesBack w := by
      rw [h.rest]
      rfl
    have hholders : s'.wrappers = s.wrappers := by rw [h.rest]
    simp only [System.releaseOne, hgives, hholders]
    rw [h.rest]
    split <;> exact ⟨rfl, h.heap, rfl⟩
  | boxed w =>
    obtain ⟨told, -, hdone⟩ := s.releaseOne_boxed w
    obtain ⟨told', -, hdone'⟩ := s'.releaseOne_boxed w
    rw [hdone, hdone', h.rest]
    exact ⟨rfl, h.heap, rfl⟩
  | callable c =>
    rw [h.rest]
    exact ⟨rfl, h.heap, rfl⟩
  | closure c =>
    rw [h.rest]
    simp only [System.releaseOne]
    split <;> exact ⟨rfl, h.heap, rfl⟩
  | callback c =>
    rw [h.rest]
    simp only [System.releaseOne]
    split <;> exact ⟨rfl, h.heap, rfl⟩
  | bridge r =>
    rw [h.rest]
    simp only [System.releaseOne]
    split <;> exact ⟨rfl, h.heap, rfl⟩

theorem releasesLeft (h : s.Nearly R s') : s'.releasesLeft = s.releasesLeft := by
  have hslots : s'.heap.slots = s.heap.slots := by rw [h.heap.rest]
  unfold System.releasesLeft
  rw [hslots, h.rest]

include hR in
/-- Releases do not tell such states apart. -/
theorem release (h : s.Nearly R s') (ts : List Release) :
    (s.release ts).Nearly R (s'.release ts) := by
  unfold System.release
  rw [h.releasesLeft]
  generalize ts.length + s.releasesLeft = steps
  induction steps generalizing ts s s' with
  | zero =>
    cases ts with
    | nil => exact h
    | cons first rest =>
      rw [h.rest]
      exact ⟨h.heap, rfl⟩
  | succ steps ih =>
    cases ts with
    | nil => exact h
    | cons first rest =>
      obtain ⟨hmore, hnext⟩ := h.releaseOne hR first
      rw [System.settle_cons, System.settle_cons, hmore]
      exact ih hnext _

end System.Nearly

end

namespace System.Nearly

variable {σ : Type} {R : List UInt32 → List UInt32 → Prop} {s t u : System σ}

theorem refl (hR : ∀ l, R l l) (s : System σ) : s.Nearly R s := ⟨⟨hR _, rfl⟩, rfl⟩

theorem symm (hR : ∀ {l l'}, R l l' → R l' l) (h : s.Nearly R t) : t.Nearly R s := by
  refine ⟨⟨hR h.heap.free, ?_⟩, ?_⟩
  · rw [h.heap.rest]
  · rw [h.rest]

theorem trans (hR : ∀ {l l' l''}, R l l' → R l' l'' → R l l'') (h : s.Nearly R t)
    (h' : t.Nearly R u) : s.Nearly R u := by
  refine ⟨⟨hR h.heap.free h'.heap.free, ?_⟩, ?_⟩
  · rw [h'.heap.rest, h.heap.rest]
  · rw [h'.rest, h.rest]

end System.Nearly

/-! ## Two releases -/

theorem SharedTable.drop_drop {α : Type} (t : SharedTable α) (m n : Nat) :
    (t.drop m).drop n = (t.drop n).drop m := by
  unfold drop
  congr 1
  apply Array.ext_getElem?
  intro i
  simp only [Array.getElem?_modify]
  by_cases hm : m = i <;> by_cases hn : n = i <;> simp [hm, hn]

theorem SharedTable.dropWith_dropWith {α : Type} (t : SharedTable α) (m n : Nat) (atEnd : α → α) :
    (t.dropWith m atEnd).dropWith n atEnd = (t.dropWith n atEnd).dropWith m atEnd := by
  unfold dropWith
  congr 1
  apply Array.ext_getElem?
  intro i
  simp only [Array.getElem?_modify]
  by_cases hm : m = i <;> by_cases hn : n = i <;> simp [hm, hn]

theorem Books.Alike.pledgeOf {b b' : Books} (h : b.Alike b') (a : Account) :
    b'.pledgeOf a = b.pledgeOf a := by
  cases a <;> simp only [Books.pledgeOf, h.wrappers, h.closures, h.callbacks, h.arenas]

/-- A release that neither belongs to the arena of a bridge nor ends a bridge. -/
def Release.IsPlain : Release → Prop
  | .defensive _ | .bridge _ => False
  | _ => True

theorem Release.IsPlain.eq_object {t : Release} (ht : t.IsPlain) (hs : ¬ t.account.IsShared) :
    ∃ o, t = .object o := by
  cases t with
  | object o => exact ⟨o, rfl⟩
  | defensive o => exact absurd ht id
  | _ => exact absurd trivial hs

theorem Handle.releases_plain (h : Handle) : ∀ t ∈ h.releases, t.IsPlain := by
  cases h <;> simp [Handle.releases, Release.IsPlain]

theorem Handle.data_releases_plain (data : Option Handle) :
    ∀ t ∈ (data.map Handle.releases).getD [], t.IsPlain := by
  cases data with
  | none => simp
  | some h => exact h.releases_plain

namespace Heap

variable {κ : Type} {h : Heap κ} {o p : ObjectId} {a b : LiveObject κ}

/-- The heap when a live object has lost a reference. -/
def lower (h : Heap κ) (o : ObjectId) (object : LiveObject κ) : Heap κ :=
  if object.refs - 1 = 0 then h.vacate o else h.store o { object with refs := object.refs - 1 }

theorem live?_lower_ne (hl : h.live? o = some a) (hp : p ≠ o) :
    (h.lower o a).live? p = h.live? p := by
  unfold lower
  split
  · exact live?_vacate_ne hl hp
  · exact live?_store_ne _ hl hp

/-- Two live objects are in different slots. -/
theorem index_ne (hl : h.live? o = some a) (hl' : h.live? p = some b) (hne : o ≠ p) :
    o.index.toNat ≠ p.index.toNat := by
  intro heq
  have hslot := live?_eq_some_iff.mp hl
  rw [heq, live?_eq_some_iff.mp hl'] at hslot
  have hgeneration : p.generation = o.generation := congrArg Slot.generation (Option.some.inj hslot)
  exact generation_ne hne heq.symm hgeneration

/-- References of two objects are given back in either order. -/
theorem lower_lower (hl : h.live? o = some a) (hl' : h.live? p = some b) (hne : o ≠ p) :
    ((h.lower o a).lower p b).Nearly List.Perm ((h.lower p b).lower o a) := by
  have hindex := index_ne hl hl' hne
  unfold lower
  by_cases ha : a.refs - 1 = 0 <;> by_cases hb : b.refs - 1 = 0 <;>
    simp only [ha, hb, if_true, if_false, vacate, store]
  · exact ⟨.swap _ _ _, by simp only [List.set_comm _ _ hindex]⟩
  all_goals exact ⟨.refl _, by simp only [List.set_comm _ _ hindex]⟩

end Heap

namespace System

variable {σ : Type} {R : List UInt32 → List UInt32 → Prop} {s : System σ} {t u : Release}
  {o p : ObjectId}

theorem releaseOne_plain (s : System σ) (ht : t.IsPlain) :
    ∀ u ∈ (s.releaseOne t).1, u.IsPlain := by
  have hreference : ∀ o report, ∀ u ∈ (s.releaseReference o report).1, u.IsPlain := by
    intro o report u hu
    unfold releaseReference at hu
    split at hu
    · obtain ⟨connection, -, hu⟩ := List.mem_flatMap.mp hu
      cases hclosure : connection.closure with
      | native f =>
        rw [hclosure] at hu
        exact absurd hu List.not_mem_nil
      | closure c =>
        rw [hclosure] at hu
        rw [List.mem_singleton.mp hu]
        trivial
    · exact absurd hu List.not_mem_nil
  have hnone : ∀ u ∈ ([] : List Release), u.IsPlain := fun u hu => absurd hu List.not_mem_nil
  cases t with
  | defensive o => exact absurd ht id
  | bridge r => exact absurd ht id
  | object o => exact hreference o _
  | callable c => exact hnone
  | wrapper w =>
    simp only [releaseOne]
    split
    · simp [Release.IsPlain]
    · exact hnone
  | boxed w =>
    obtain ⟨told, -, hdone⟩ := s.releaseOne_boxed w
    rw [hdone]
    exact hnone
  | closure c =>
    simp only [releaseOne]
    split
    · intro u hu
      rcases List.mem_cons.mp hu with rfl | hu
      · trivial
      · exact Handle.data_releases_plain c.data u hu
    · exact hnone
  | callback c =>
    simp only [releaseOne]
    split
    · intro u hu
      rcases List.mem_cons.mp hu with rfl | hu
      · trivial
      · exact Handle.data_releases_plain c.data u hu
    · exact hnone

/-- A shared thing loses a holder, and nothing follows yet. -/
def lose (s : System σ) : Release → System σ
  | .wrapper w => { s with wrappers := s.wrappers.drop w.number }
  | .boxed w => { s with boxes := s.boxes.dropWith w.number BoxRecord.finish }
  | .callable c => { s with callables := s.callables.drop c.number }
  | .closure c => { s with closures := s.closures.drop c.id.number }
  | .callback c => { s with callbacks := s.callbacks.drop c.number }
  | _ => s

theorem lose_lose (s : System σ) (t u : Release) : (s.lose t).lose u = (s.lose u).lose t := by
  cases t <;> cases u <;> simp only [lose, SharedTable.drop_drop, SharedTable.dropWith_dropWith]

theorem nearly_lose (hR : ∀ l, R l l) (s : System σ) (ht : t.IsPlain) (hs : t.account.IsShared) :
    (s.lose t).Nearly R (s.releaseOne t).2 := by
  have hself : ∀ x : System σ, x.Nearly R x := .refl hR
  cases t with
  | object o => exact absurd hs id
  | defensive o => exact absurd hs id
  | bridge r => exact absurd ht id
  | callable c => exact hself _
  | wrapper w =>
    simp only [releaseOne]
    split <;> exact hself _
  | boxed w =>
    obtain ⟨told, -, hdone⟩ := s.releaseOne_boxed w
    rw [hdone]
    exact ⟨(hself (s.lose (.boxed w))).heap, rfl⟩
  | closure c =>
    simp only [releaseOne]
    split <;> exact hself _
  | callback c =>
    simp only [releaseOne]
    split <;> exact hself _

/-- What follows from the end of a holder depends on the holders alone. -/
theorem releaseOne_more_of_shared {s' : System σ} (hu : s.books.Knows u)
    (hs : u.account.IsShared) (hplain : u.IsPlain) (hknown : s'.books.Knows u)
    (hholders : s'.books.holders u.account = s.books.holders u.account)
    (hpledge : s'.books.pledgeOf u.account = s.books.pledgeOf u.account) :
    (s'.releaseOne u).1 = (s.releaseOne u).1 := by
  have hbridge : ∀ (x : System σ) n, u.account = .bridge n → x.books.arenas.holders n ≠ 1 := by
    intro x n hn
    cases u <;> first | exact Account.noConfusion hn | exact absurd hplain id
  rw [(releaseOne_eq_drop hu hs (hbridge s)).1, (releaseOne_eq_drop hknown hs (hbridge s')).1,
    hholders, hpledge]

theorem releaseReference_more {s' : System σ} (hl : s'.heap.live? o = s.heap.live? o)
    (report : ObjectId → NativeError → Notice) :
    (s'.releaseReference o report).1 = (s.releaseReference o report).1 := by
  cases hlive : s.heap.live? o with
  | none =>
    rw [hlive] at hl
    rw [releaseReference_of_stale hlive, releaseReference_of_stale hl]
  | some object =>
    rw [hlive] at hl
    by_cases hlast : object.refs - 1 = 0
    · rw [releaseReference_of_last hlive hlast, releaseReference_of_last hl hlast]
    · rw [releaseReference_of_more hlive hlast, releaseReference_of_more hl hlast]

/-- A reference given back changes the heap and the reports. -/
theorem releaseReference_rest (s : System σ) (o : ObjectId)
    (report : ObjectId → NativeError → Notice) : ∃ heap notices,
      (s.releaseReference o report).2 = { s with heap, notices } ∧
      ∀ p ≠ o, heap.live? p = s.heap.live? p := by
  cases hl : s.heap.live? o with
  | none =>
    rw [releaseReference_of_stale hl]
    exact ⟨_, _, rfl, fun _ _ => rfl⟩
  | some object =>
    by_cases hlast : object.refs - 1 = 0
    · rw [releaseReference_of_last hl hlast]
      exact ⟨_, _, rfl, fun p hp => Heap.live?_vacate_ne hl hp⟩
    · rw [releaseReference_of_more hl hlast]
      exact ⟨_, _, rfl, fun p hp => Heap.live?_store_ne _ hl hp⟩

theorem releaseReference_live?_ne (s : System σ) (o : ObjectId)
    (report : ObjectId → NativeError → Notice) (hne : p ≠ o) :
    (s.releaseReference o report).2.heap.live? p = s.heap.live? p := by
  obtain ⟨heap, notices, hrest, hlive⟩ := s.releaseReference_rest o report
  rw [hrest]
  exact hlive p hne

/-- What follows from a release is the same before another one and after it. -/
theorem releaseOne_more_after (ht : t.IsPlain) (hu : u.IsPlain) (hknown : s.books.Knows t)
    (hknown' : s.books.Knows u) (hne : t ≠ u) :
    ((s.releaseOne t).2.releaseOne u).1 = (s.releaseOne u).1 := by
  have hbridge : ∀ n, t.account = .bridge n → s.books.arenas.holders n ≠ 1 := by
    intro n hn
    cases t <;> first | exact Account.noConfusion hn | exact absurd ht id
  have hdropped : t.account.IsShared → (s.releaseOne t).2.books = s.books.drop t.account :=
    fun hs => (releaseOne_eq_drop hknown hs hbridge).2
  by_cases hshared : u.account.IsShared
  · by_cases hs : t.account.IsShared
    · have halike := s.books.alike_drop t.account
      rw [← hdropped hs] at halike
      have haccount : t.account ≠ u.account :=
        fun heq => hne (Books.knows_unique hknown hknown' hs heq)
      refine releaseOne_more_of_shared hknown' hshared hu (halike.knows hknown') ?_
        (halike.pledgeOf _)
      rw [hdropped hs, Books.holders_drop hs, if_neg haccount, Nat.sub_zero]
    · obtain ⟨o, rfl⟩ := ht.eq_object hs
      obtain ⟨heap, notices, hrest, -⟩ := s.releaseReference_rest o .releaseFailed
      change ((s.releaseReference o .releaseFailed).2.releaseOne u).1 = _
      rw [hrest]
      refine releaseOne_more_of_shared hknown' hshared hu ?_ ?_ ?_
      · cases u <;> exact hknown'
      · cases u <;> first | rfl | exact absurd hshared id
      · cases u <;> rfl
  · obtain ⟨p, rfl⟩ := hu.eq_object hshared
    refine releaseReference_more ?_ _
    by_cases hs : t.account.IsShared
    · have hheap : (s.releaseOne t).2.heap = s.heap := by
        have hbooks := congrArg Books.heap (hdropped hs)
        rw [(s.books.alike_drop t.account).heap] at hbooks
        exact hbooks
      rw [hheap]
    · obtain ⟨o, rfl⟩ := ht.eq_object hs
      exact s.releaseReference_live?_ne o _ fun heq => hne (by rw [heq])

theorem releaseReference_of_live {object : LiveObject Subscriber}
    {report : ObjectId → NativeError → Notice} (hl : s.heap.live? o = some object) :
    (s.releaseReference o report).2 = { s with heap := s.heap.lower o object } := by
  unfold Heap.lower
  split
  · rw [releaseReference_of_last hl ‹_›]
  · rw [releaseReference_of_more hl ‹_›]

theorem lose_releaseReference (s : System σ) (o : ObjectId)
    (report : ObjectId → NativeError → Notice) (u : Release) :
    (s.releaseReference o report).2.lose u = ((s.lose u).releaseReference o report).2 := by
  have hheap : (s.lose u).heap = s.heap := by cases u <;> rfl
  cases hl : s.heap.live? o with
  | none =>
    rw [releaseReference_of_stale hl, releaseReference_of_stale (hheap ▸ hl)]
    cases u <;> rfl
  | some object =>
    rw [releaseReference_of_live hl, releaseReference_of_live (hheap ▸ hl)]
    cases u <;> rfl

/-- References of two objects are given back in either order. -/
theorem releaseReference_releaseReference (s : System σ) (hne : o ≠ p)
    (report report' : ObjectId → NativeError → Notice) :
    ((s.releaseReference o report).2.releaseReference p report').2.Nearly List.Perm
      ((s.releaseReference p report').2.releaseReference o report).2 := by
  have hself : ∀ x : System σ, x.Nearly List.Perm x := .refl .refl
  have hcons : ∀ {l l' : List UInt32} (i : UInt32), l.Perm l' → (i :: l).Perm (i :: l') :=
    fun i h => h.cons i
  have ho := s.releaseReference_live?_ne p report' hne
  have hp := s.releaseReference_live?_ne o report hne.symm
  cases hlo : s.heap.live? o with
  | none =>
    rw [releaseReference_of_stale (ho.trans hlo), releaseReference_of_stale hlo]
    exact (((hself s).note_left _).releaseReference hcons p report').2.note _
  | some a =>
    cases hlp : s.heap.live? p with
    | none =>
      rw [releaseReference_of_stale (hp.trans hlp), releaseReference_of_stale hlp]
      exact (((hself s).note _).releaseReference hcons o report).2.note_left _
    | some b =>
      rw [releaseReference_of_live (hp.trans hlp), releaseReference_of_live (ho.trans hlo),
        releaseReference_of_live hlo, releaseReference_of_live hlp]
      exact ⟨Heap.lower_lower hlo hlp hne, rfl⟩

theorem releaseReference_releaseOne (s : System σ) (o : ObjectId)
    (report : ObjectId → NativeError → Notice) (hu : u.IsPlain) (hs : u.account.IsShared) :
    ((s.releaseReference o report).2.releaseOne u).2.Nearly List.Perm
      ((s.releaseOne u).2.releaseReference o report).2 := by
  have hlost : ((s.releaseReference o report).2.lose u).Nearly List.Perm
      ((s.releaseReference o report).2.releaseOne u).2 := nearly_lose .refl _ hu hs
  rw [lose_releaseReference] at hlost
  exact (hlost.symm .symm).trans .trans
    ((nearly_lose .refl s hu hs).releaseReference (fun i h => h.cons i) o report).2

/-- Two different releases are carried out in either order. -/
theorem releaseOne_releaseOne (s : System σ) (ht : t.IsPlain) (hu : u.IsPlain) (hne : t ≠ u) :
    ((s.releaseOne t).2.releaseOne u).2.Nearly List.Perm
      ((s.releaseOne u).2.releaseOne t).2 := by
  have hlost : ∀ {x y : Release}, x.IsPlain → y.IsPlain → x.account.IsShared →
      y.account.IsShared → ((s.lose x).lose y).Nearly List.Perm
        ((s.releaseOne x).2.releaseOne y).2 := fun hx hy hsx hsy =>
    (nearly_lose .refl _ hy hsy).trans .trans
      ((nearly_lose .refl s hx hsx).releaseOne (fun i h => h.cons i) _).2
  by_cases hs : t.account.IsShared <;> by_cases hs' : u.account.IsShared
  · have h := hlost hu ht hs' hs
    rw [lose_lose] at h
    exact ((hlost ht hu hs hs').symm .symm).trans .trans h
  · obtain ⟨p, rfl⟩ := hu.eq_object hs'
    exact (s.releaseReference_releaseOne p .releaseFailed ht hs).symm .symm
  · obtain ⟨o, rfl⟩ := ht.eq_object hs
    exact s.releaseReference_releaseOne o .releaseFailed hu hs'
  · obtain ⟨o, rfl⟩ := ht.eq_object hs
    obtain ⟨p, rfl⟩ := hu.eq_object hs'
    exact s.releaseReference_releaseReference (fun heq => hne (by rw [heq])) _ _

/-- What waits behind other releases is carried out after all of them. -/
theorem release_append (s : System σ) (ts us : List Release) :
    s.release (ts ++ us) = (s.release ts).release us :=
  release_keeps (P := fun due s' => s.release (ts ++ us) = s'.release (due ++ us))
    (fun first rest s' h => by rw [h, List.cons_append, release_cons, List.append_assoc]) ts s rfl

/-- What waits after a release is plain. -/
theorem releaseOne_rest_plain {ts : List Release} (s : System σ)
    (hplain : ∀ x ∈ t :: ts, x.IsPlain) : ∀ x ∈ (s.releaseOne t).1 ++ ts, x.IsPlain := by
  intro x hx
  rcases List.mem_append.mp hx with hx | hx
  · exact s.releaseOne_plain (hplain t List.mem_cons_self) x hx
  · exact hplain x (List.mem_cons_of_mem t hx)

/-- Releases that wait together come to the same end in any order, as long as
no more than `left` are carried out. -/
def OrderFree (σ : Type) (c : Conduct) (held : Multiset Release) (left : Nat) : Prop :=
  ∀ {ts us : List Release} {s : System σ}, ts.length + s.releasesLeft ≤ left → ts.Perm us →
    (∀ t ∈ ts, t.IsPlain) → Balanced c ts held s.books →
    (s.release ts).Nearly List.Perm (s.release us)

section

variable {c : Conduct} {held : Multiset Release} {left : Nat} {rest after : List Release}

theorem OrderFree.one (ih : OrderFree σ c held left)
    (hleft : rest.length + s.releasesLeft ≤ left) (hplain : ∀ x ∈ t :: rest, x.IsPlain)
    (h : Balanced c (t :: rest : List Release) held s.books)
    (hperm : ((s.releaseOne t).1 ++ rest).Perm after) :
    (s.release (t :: rest)).Nearly List.Perm ((s.releaseOne t).2.release after) := by
  have hone := s.releaseOne_shrinks t
  rw [release_cons]
  refine ih ?_ hperm (s.releaseOne_rest_plain hplain) ?_
  · simp only [List.length_append]
    omega
  · rw [← Multiset.coe_add]
    exact releaseOne_balanced (by rwa [← Multiset.cons_coe] at h)

theorem OrderFree.behind (ih : OrderFree σ c held left)
    (hleft : rest.length + s.releasesLeft ≤ left) (hplain : ∀ x ∈ t :: rest, x.IsPlain)
    (h : Balanced c (t :: rest : List Release) held s.books) (hperm : rest.Perm after) :
    (s.release (t :: rest)).Nearly List.Perm (s.release (t :: after)) := by
  rw [release_cons s t after]
  exact ih.one hleft hplain h (hperm.append_left _)

theorem OrderFree.two (ih : OrderFree σ c held left)
    (hleft : rest.length + 1 + s.releasesLeft ≤ left)
    (hplain : ∀ x ∈ t :: u :: rest, x.IsPlain)
    (h : Balanced c (t :: u :: rest : List Release) held s.books)
    (hperm : (((s.releaseOne t).2.releaseOne u).1 ++ ((s.releaseOne t).1 ++ rest)).Perm after) :
    (s.release (t :: u :: rest)).Nearly List.Perm
      (((s.releaseOne t).2.releaseOne u).2.release after) := by
  have hmiddle : ((s.releaseOne t).1 ++ u :: rest).Perm (u :: ((s.releaseOne t).1 ++ rest)) :=
    List.perm_middle
  have hone := s.releaseOne_shrinks t
  have hlength : (u :: rest).length + s.releasesLeft ≤ left := hleft
  refine (ih.one hlength hplain h hmiddle).trans .trans (ih.one ?_ ?_ ?_ hperm)
  · simp only [List.length_append]
    omega
  · exact fun x hx => s.releaseOne_rest_plain hplain x (hmiddle.mem_iff.mpr hx)
  · rw [← Multiset.coe_eq_coe.mpr hmiddle, ← Multiset.coe_add]
    exact releaseOne_balanced (by rwa [← Multiset.cons_coe] at h)

/-- The first two releases trade places. -/
theorem OrderFree.swap (ih : OrderFree σ c held left)
    (hleft : rest.length + 1 + s.releasesLeft ≤ left)
    (hplain : ∀ x ∈ t :: u :: rest, x.IsPlain) (hne : t ≠ u)
    (h : Balanced c (t :: u :: rest : List Release) held s.books) :
    (s.release (t :: u :: rest)).Nearly List.Perm (s.release (u :: t :: rest)) := by
  have hswap : (u :: t :: rest).Perm (t :: u :: rest) := .swap t u rest
  have h' : Balanced c (u :: t :: rest : List Release) held s.books := by
    rwa [Multiset.coe_eq_coe.mpr hswap]
  have hplain' : ∀ x ∈ u :: t :: rest, x.IsPlain := fun x hx => hplain x (hswap.mem_iff.mp hx)
  have ht : t.IsPlain := hplain t (by simp)
  have hu : u.IsPlain := hplain u (by simp)
  have hknown : s.books.Knows t := h.counts.known t (by simp)
  have hknown' : s.books.Knows u := h.counts.known u (by simp)
  -- both orders come to the same releases, in nearly the same state
  have hafter := releaseOne_more_after ht hu hknown hknown' hne
  have hafter' := releaseOne_more_after hu ht hknown' hknown hne.symm
  have hreorder : (((s.releaseOne u).2.releaseOne t).1 ++ ((s.releaseOne u).1 ++ rest)).Perm
      ((s.releaseOne u).1 ++ ((s.releaseOne t).1 ++ rest)) := by
    rw [hafter', ← List.append_assoc, ← List.append_assoc]
    exact List.perm_append_comm.append_right rest
  have hthere := ih.two hleft hplain h (.refl _)
  have hback := ih.two hleft hplain' h' hreorder
  rw [hafter] at hthere
  exact (hthere.trans .trans
    ((s.releaseOne_releaseOne ht hu hne).release (fun i h => h.cons i) _)).trans .trans
      (hback.symm .symm)

theorem orderFree (σ : Type) (c : Conduct) (held : Multiset Release) (left : Nat) :
    OrderFree σ c held left := by
  induction left with
  | zero =>
    intro ts us s hleft hperm _ _
    have hts : ts = [] := List.length_eq_zero_iff.mp (by omega)
    subst hts
    rw [hperm.nil_eq]
    exact .refl .refl _
  | succ left ih =>
    intro ts us s hleft hperm hplain h
    match ts, us with
    | [], us =>
      rw [hperm.nil_eq]
      exact .refl .refl _
    | t :: rest, [] => exact absurd hperm.symm.nil_eq (by simp)
    | t :: rest, u :: rest' =>
      simp only [List.length_cons] at hleft
      by_cases heq : t = u
      · subst heq
        exact ih.behind (by omega) hplain h (List.Perm.cons_inv hperm)
      · obtain ⟨before, behind, hbetween⟩ := List.append_of_mem
          ((List.mem_cons.mp (hperm.mem_iff.mpr List.mem_cons_self)).resolve_left (Ne.symm heq))
        have hrest : rest.Perm (u :: (before ++ behind)) := hbetween ▸ List.perm_middle
        have hfirst : (t :: rest).Perm (t :: u :: (before ++ behind)) := hrest.cons t
        have hboth := hfirst.trans (.swap u t (before ++ behind))
        have hrest' : (t :: (before ++ behind)).Perm rest' := (hboth.symm.trans hperm).cons_inv
        have hlength := hrest.length_eq
        have hbalanced : ∀ {l : List Release}, (t :: rest).Perm l → Balanced c l held s.books :=
          fun hl => by rwa [← Multiset.coe_eq_coe.mpr hl]
        have hplainly : ∀ {l : List Release}, (t :: rest).Perm l → ∀ x ∈ l, x.IsPlain :=
          fun hl x hx => hplain x (hl.mem_iff.mpr hx)
        simp only [List.length_cons] at hlength
        have hleft' : (before ++ behind).length + 1 + s.releasesLeft ≤ left := by omega
        exact (ih.behind (by omega) hplain h hrest).trans .trans ((ih.swap hleft' (hplainly hfirst) heq
          (hbalanced hfirst)).trans .trans
            (ih.behind hleft' (hplainly hboth) (hbalanced hboth) hrest'))

end

/-- Releases that wait together come to the same end in any order. -/
theorem release_perm {c : Conduct} {held : Multiset Release} {ts us : List Release}
    (hperm : ts.Perm us) (hplain : ∀ t ∈ ts, t.IsPlain) (h : Balanced c ts held s.books) :
    (s.release ts).Nearly List.Perm (s.release us) :=
  orderFree σ c held _ (Nat.le_refl _) hperm hplain h

end System

end NativeBridge
