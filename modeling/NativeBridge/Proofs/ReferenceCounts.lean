-- Reference counts under fair native holders. The count of an object is the
-- number of references that someone answers for: native code, emissions,
-- wrappers that give a reference back, and entries of borrowed wrappers.
import NativeBridge.Proofs.Deeds

namespace NativeBridge

/-! ## References that someone answers for -/

/-- The references to an object: those of native holders, one for each
emission on it that runs, one for each wrapper in use that gives it back,
and one for each borrowed wrapper in the arena of a bridge in use. -/
def System.claimsOn (m : System Ledger) (o : ObjectId) : Nat :=
  m.guest.refs.count o + m.guest.emitting.count o +
    (m.wrappers.total fun entry => if entry.releases && entry.wrapper.object == o then 1 else 0) +
    m.bridges.total fun b => (b.arena.borrowed.filter (·.object == o)).length

/-! ## Counting them -/

theorem tally_object_of_isShared {l : Multiset Release} (h : ∀ t ∈ l, t.account.IsShared)
    (o : ObjectId) : tally (.object o) l = 0 := by
  by_contra hne
  obtain ⟨t, ht, ha⟩ := exists_mem_of_tally hne
  have hs := h t ht
  rw [ha] at hs
  exact hs

theorem tally_object_map (o : ObjectId) (l : List ObjectId) :
    tally (.object o) (l.map Release.object : List Release) = l.count o := by
  induction l with
  | nil => rfl
  | cons p l ih =>
    rw [List.map_cons, ← Multiset.cons_coe, tally_cons, ih, List.count_cons]
    simp [Release.account]

theorem isShared_of_mem_parts {callable : Callable} {data : Option Handle} {t : Release}
    (ht : t ∈ Release.callable callable :: dataReleases data) : t.account.IsShared := by
  rcases List.mem_cons.mp ht with rfl | ht
  · trivial
  · cases data with
    | none => exact absurd ht List.not_mem_nil
    | some h => exact isShared_of_mem_releases ht

theorem SharedTable.total_map {α β : Type} (f : α → β) (weight : β → Nat) (t : SharedTable α) :
    (t.map f).total weight = t.total fun x => weight (f x) := by
  unfold total map
  rw [Array.toList_map, weigh_map]
  rfl

theorem SharedTable.total_zero {α : Type} (t : SharedTable α) : t.total (fun _ => 0) = 0 := by
  have hshare : share (fun _ : α => 0) = fun _ => 0 := by
    funext cell
    unfold share
    split <;> rfl
  unfold total
  rw [hshare, weigh_zero]

/-- An idle wrapper pledges one reference to its object. -/
theorem tally_idle (o : ObjectId) (ws : List ObjectWrapper) :
    tally (.object o) (ws.flatMap idleReleases : List Release) =
      (ws.filter (·.object == o)).length := by
  induction ws with
  | nil => rfl
  | cons w ws ih =>
    have hone : tally (.object o) (idleReleases w : List Release) =
        if w.object = o then 1 else 0 := by
      simp [idleReleases, ← Multiset.cons_coe, tally_singleton, Release.account]
    rw [List.flatMap_cons, ← Multiset.coe_add, tally_add, ih, hone, List.filter_cons]
    by_cases ho : w.object = o
    · simp [ho, Nat.add_comm]
    · simp [ho]

/-- Only wrappers and arenas pledge references. -/
theorem tally_pledged (m : System Ledger) (o : ObjectId) :
    tally (.object o) m.books.pledged =
      (m.wrappers.total fun entry => if entry.releases && entry.wrapper.object == o then 1 else 0) +
        m.bridges.total fun b => (b.arena.borrowed.filter (·.object == o)).length := by
  have hslots : tally (.object o) (m.heap.slots.flatMap Slot.pledge : List Release) = 0 := by
    apply tally_object_of_isShared
    intro t ht
    obtain ⟨x, rfl⟩ := Books.closure_of_mem_slots ht
    trivial
  have hclosures : (fun x : Closure => tally (.object o) (x.releases : List Release)) =
      fun _ => 0 := by
    funext x
    exact tally_object_of_isShared (fun t ht => isShared_of_mem_parts ht) o
  have hcallbacks : (fun x : Callback => tally (.object o) (x.releases : List Release)) =
      fun _ => 0 := by
    funext x
    exact tally_object_of_isShared (fun t ht => isShared_of_mem_parts ht) o
  have hwrappers : (fun entry : WrapperRecord => tally (.object o) (entry.pledge : List Release)) =
      fun entry => if entry.releases && entry.wrapper.object == o then 1 else 0 := by
    funext entry
    unfold WrapperRecord.pledge
    cases entry.releases <;> simp [tally_singleton, Release.account]
  have harenas : (fun b : Bridge => tally (.object o) (b.arena.pledge : List Release)) =
      fun b => (b.arena.borrowed.filter (·.object == o)).length := by
    funext b
    exact tally_idle o b.arena.borrowed
  simp only [Books.pledged, System.books, tally_add, SharedTable.tally_pledges,
    SharedTable.total_map, hslots, hclosures, hcallbacks, hwrappers, harenas,
    SharedTable.total_zero]
  omega

theorem tally_tokens {l : Ledger} (h : ∀ t ∈ (l.held : Multiset Release), t.account.IsShared)
    (o : ObjectId) : tally (.object o) l.tokens = l.refs.count o + l.emitting.count o := by
  unfold Ledger.tokens
  rw [tally_add, tally_add, tally_object_of_isShared h, tally_object_map, tally_object_map,
    zero_add]

/-! ## The counts -/

section

variable {m : System Ledger} {o : ObjectId}

/-- Where the books are in order, references are counted that someone answers for. -/
theorem Sound.refs_eq (h : Sound .fair m) (hfull : m.heap.full = false) (o : ObjectId) :
    m.books.refs o = m.claimsOn o := by
  obtain ⟨F, hshared, hbalanced⟩ := h
  have hF : ∀ t ∈ F, t.account.IsShared := fun t ht =>
    hshared t (Multiset.mem_add.mpr (Or.inl ht))
  have hheld : ∀ t ∈ (m.guest.held : Multiset Release), t.account.IsShared := fun t ht =>
    hshared t (Multiset.mem_add.mpr (Or.inr ht))
  rw [(hbalanced.exact rfl hfull).counted, zero_add, tally_add, tally_add,
    tally_object_of_isShared hF, tally_tokens hheld, tally_pledged, zero_add]
  unfold System.claimsOn
  omega

theorem Sound.refCount_eq (h : Sound .fair m) (hfull : m.heap.full = false) {count : UInt32}
    (hcount : m.heap.refCount? o = some count) : count.toNat = m.claimsOn o := by
  rw [← h.refs_eq hfull]
  simp only [Books.refs, System.books, hcount, Option.map_some, Option.getD_some]

theorem Sound.isAlive_iff (h : Sound .fair m) (hfull : m.heap.full = false) :
    m.heap.isAlive o = true ↔ m.claimsOn o ≠ 0 := by
  rw [← h.refs_eq hfull]
  constructor
  · obtain ⟨F, -, hbalanced⟩ := h
    exact (hbalanced.exact rfl hfull).positive o
  · intro hne
    by_contra hdead
    rw [Bool.not_eq_true] at hdead
    exact hne (Books.refs_of_stale (b := m.books) (Heap.live?_eq_none_iff.mpr hdead))

end

/-- With fair native holders, and as long as no count reaches its limit and
the slots have numbers, a count is the number of references that someone
answers for. An object lives as long as there are any, wrappers give back
what they should, and no reference comes back too late. -/
theorem reference_counts_exact {m : System Ledger} (h : Reachable .fair m)
    (hfull : m.heap.full = false) :
    (∀ o count, m.heap.refCount? o = some count → count.toNat = m.claimsOn o) ∧
      (∀ o, m.heap.isAlive o = true ↔ m.claimsOn o ≠ 0) ∧
      (∀ n entry, m.wrappers.get? n = some entry → m.wrappers.holders n ≠ 0 →
        (entry.releases = true ↔
          entry.wrapper.ownership = .owned ∨ m.isBridgeAlive entry.maker = false)) ∧
      ∀ notice ∈ m.notices, notice.isLateRelease = false := by
  obtain ⟨F, hshared, hbalanced⟩ := h.sound
  have hexact := hbalanced.exact rfl hfull
  refine ⟨fun o count => h.sound.refCount_eq hfull, fun o => h.sound.isAlive_iff hfull, ?_, ?_⟩
  · intro n entry hentry hheld
    obtain ⟨hnumber, -⟩ := hbalanced.formed.numbered n entry hentry
    rw [← hnumber] at hentry hheld
    have hmem := hbalanced.mem_of_holders (t := .wrapper entry.wrapper) ⟨entry, hentry, rfl⟩ trivial
      hheld
    have howning := (hbalanced.standing _ hmem entry hentry).owning rfl
    rw [howning]
    simp [System.isBridgeAlive, System.books]
  · intro notice hnotice
    have hnone : m.notices.any (·.isLateRelease) = false := hexact.in_time
    have hnot := List.any_eq_false.mp hnone notice hnotice
    simpa using hnot

/-- The object of the small run has two references: that of outside code and
that of the arena. -/
theorem sample_reference_counts :
    Sample.wrapped.heap.full = false ∧ Sample.wrapped.heap.refCount? Sample.object = some 2 ∧
      Sample.wrapped.moment.claimsOn Sample.object = 2 := by
  have hfull : Sample.wrapped.heap.full = false := by decide +kernel
  have hcount : Sample.wrapped.heap.refCount? Sample.object = some 2 := by decide +kernel
  have hexact := reference_counts_exact (Sample.wrapped_reached .fair).now hfull
  exact ⟨hfull, hcount, (hexact.1 Sample.object 2 hcount).symm⟩

end NativeBridge
