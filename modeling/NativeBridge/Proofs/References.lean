-- What the heap does to the books. A reference is taken or given back, and
-- handlers come and go with what they hold. Shared things are not touched.
import NativeBridge.Proofs.Balance

namespace NativeBridge

namespace Books

variable {b : Books}

/-- The slots of the heap pledge closures alone. -/
theorem closure_of_mem_slots {slots : List (Slot Subscriber)} {t : Release}
    (ht : t ∈ slots.flatMap Slot.pledge) : ∃ c, t = .closure c := by
  obtain ⟨slot, -, hslot⟩ := List.mem_flatMap.mp ht
  unfold Slot.pledge at hslot
  cases hlive : slot.live with
  | none => simp [hlive] at hslot
  | some object =>
    rw [hlive] at hslot
    obtain ⟨connection, -, hconnection⟩ := List.mem_flatMap.mp hslot
    cases hclosure : connection.closure with
    | closure c =>
      rw [hclosure] at hconnection
      exact ⟨c, List.mem_singleton.mp hconnection⟩
    | native f => simp [hclosure, Subscriber.releases] at hconnection

theorem wrapper_mem_pledged_heap {heap : Heap Subscriber} {w : ObjectWrapper}
    (hw : .wrapper w ∈ ({ b with heap } : Books).pledged) : .wrapper w ∈ b.pledged := by
  simp only [pledged, Multiset.mem_add, Multiset.mem_coe] at hw ⊢
  rcases hw with (((hw | hw) | hw) | hw) | hw
  · obtain ⟨c, hc⟩ := closure_of_mem_slots hw
    exact Release.noConfusion hc
  · exact Or.inl (Or.inl (Or.inl (Or.inr hw)))
  · exact Or.inl (Or.inl (Or.inr hw))
  · exact Or.inl (Or.inr hw)
  · exact Or.inr hw

/-- The handlers of a live object pledge what they hold. -/
theorem handler_pledged {o : ObjectId} {object : LiveObject Subscriber}
    (hl : b.heap.live? o = some object) {connection : Connection Subscriber}
    (hc : connection ∈ object.handlers) {u : Release} (hu : u ∈ connection.closure.releases) :
    u.account.IsShared ∧ u ∈ b.pledged := by
  have hslots : u ∈ b.heap.slots.flatMap Slot.pledge := by
    apply List.mem_flatMap.mpr
    refine ⟨_, List.mem_of_getElem? (Heap.live?_eq_some_iff.mp hl), ?_⟩
    exact List.mem_flatMap.mpr ⟨connection, hc, hu⟩
  obtain ⟨x, rfl⟩ := closure_of_mem_slots hslots
  refine ⟨trivial, ?_⟩
  simp only [pledged, Multiset.mem_add]
  exact Or.inl (Or.inl (Or.inl (Or.inl hslots)))

/-- A slot that changes. -/
theorem pledged_set (heap : Heap Subscriber) {i : Nat} {old new : Slot Subscriber}
    (hold : b.heap.slots[i]? = some old) (hslots : heap.slots = b.heap.slots.set i new) :
    new.pledge + b.pledged = old.pledge + ({ b with heap } : Books).pledged := by
  have hset := flatMap_set Slot.pledge new hold
  simp only [pledged, hslots]
  rw [← add_assoc, ← add_assoc, ← add_assoc, ← add_assoc, hset]
  abel

/-- The references of a live object. -/
theorem refs_of_live {o : ObjectId} {object : LiveObject Subscriber}
    (hl : b.heap.live? o = some object) : b.refs o = object.refs.toNat := by
  simp [refs, Heap.refCount?, hl]

theorem refs_of_stale {o : ObjectId} (hl : b.heap.live? o = none) : b.refs o = 0 := by
  simp [refs, Heap.refCount?, hl]

theorem refs_congr {b' : Books} {o : ObjectId} (hl : b'.heap.live? o = b.heap.live? o) :
    b'.refs o = b.refs o := by
  simp [refs, Heap.refCount?, hl]

end Books

namespace Balanced

variable {c : Conduct} {due due' held held' : Multiset Release} {b : Books} {t : Release}
  {o : ObjectId} {object : LiveObject Subscriber}

/-- A change of the heap that takes some references and gives some back. -/
theorem onHeap (h : Balanced c due held b) (gone new : Multiset Release)
    (heap : Heap Subscriber)
    (hall : gone + (due' + (held' + ({ b with heap } : Books).pledged)) =
      new + (due + (held + b.pledged)))
    (hobjects : ∀ t ∈ gone + new, ∃ o, t.account = .object o)
    (hheld : ∀ w, .wrapper w ∈ held' → .wrapper w ∈ held)
    (hsorted : heap.Sorted) (hfull : heap.full = false → b.heap.full = false)
    (hexact : heap.full = false → b.Exact (due + (held + b.pledged)) →
      ∀ o, ({ b with heap } : Books).refs o + tally (.object o) gone =
          b.refs o + tally (.object o) new ∧
        (heap.isAlive o = true → ({ b with heap } : Books).refs o ≠ 0) ∧
        ({ b with heap } : Books).refs o < Heap.maxRefs.toNat) :
    Balanced c due' held' { b with heap } := by
  have hshared : ∀ t, t.account.IsShared → t ∈ gone + new → False := by
    intro t hs ht
    obtain ⟨o, ho⟩ := hobjects t ht
    rw [ho] at hs
    exact hs
  refine ⟨h.formed.of_eq rfl rfl hsorted, ⟨?_, ?_⟩, ?_, ?_, h.single⟩
  · intro t ht
    have hmem : t ∈ new + (due + (held + b.pledged)) := by
      rw [← hall]
      exact Multiset.mem_add.mpr (Or.inr ht)
    rcases Multiset.mem_add.mp hmem with hnew | hmem
    · obtain ⟨o, ho⟩ := hobjects t (Multiset.mem_add.mpr (Or.inr hnew))
      cases t <;> simp [Release.account] at ho <;> trivial
    · exact h.counts.known t hmem
  · intro a ha
    have hzero : tally a (gone + new) = 0 := by
      by_contra hne
      obtain ⟨t, ht, rfl⟩ := exists_mem_of_tally hne
      exact hshared t ha ht
    have hcounted := h.counts.counted a ha
    have hsum := congrArg (tally a) hall
    have hholders : ({ b with heap } : Books).holders a = b.holders a := by
      cases a <;> first | rfl | exact absurd ha id
    rw [hholders]
    simp only [tally_add] at hzero hcounted hsum ⊢
    omega
  · intro w hw entry hentry
    have hmem : .wrapper w ∈ held + b.pledged := by
      rcases Multiset.mem_add.mp hw with hw | hw
      · exact Multiset.mem_add.mpr (Or.inl (hheld w hw))
      · exact Multiset.mem_add.mpr (Or.inr (Books.wrapper_mem_pledged_heap hw))
    exact (h.standing w hmem entry hentry).of_eq rfl
  · intro hc hnew
    have hold := h.exact hc (hfull hnew)
    have hchange := hexact hnew hold
    refine ⟨?_, fun o => (hchange o).2.1, fun o => (hchange o).2.2, hold.in_time⟩
    intro o
    have hcounted := hold.counted o
    have hsum := congrArg (tally (.object o)) hall
    have hone := (hchange o).1
    simp only [tally_add] at hcounted hsum ⊢
    omega

/-! ## Changes of one object -/

/-- A change of the heap that concerns one object. -/
theorem onObject (h : Balanced c due held b) (gone new : Multiset Release)
    (heap : Heap Subscriber)
    (hall : gone + (due' + (held' + ({ b with heap } : Books).pledged)) =
      new + (due + (held + b.pledged)))
    (hobject : ∀ t ∈ gone + new, t.account = .object o)
    (hheld : ∀ w, .wrapper w ∈ held' → .wrapper w ∈ held)
    (hsorted : heap.Sorted) (hfull : heap.full = false → b.heap.full = false)
    (hothers : heap.full = false → ∀ p, p ≠ o → heap.live? p = b.heap.live? p)
    (hexact : heap.full = false → b.Exact (due + (held + b.pledged)) →
      ({ b with heap } : Books).refs o + tally (.object o) gone =
          b.refs o + tally (.object o) new ∧
        (heap.isAlive o = true → ({ b with heap } : Books).refs o ≠ 0) ∧
        ({ b with heap } : Books).refs o < Heap.maxRefs.toNat) :
    Balanced c due' held' { b with heap } := by
  apply h.onHeap gone new heap hall (fun t ht => ⟨o, hobject t ht⟩) hheld hsorted hfull
  intro hnew hbefore p
  by_cases hp : p = o
  · rw [hp]
    exact hexact hnew hbefore
  · have hsame := hothers hnew p hp
    have hzero : tally (.object p) (gone + new) = 0 := by
      by_contra hne
      obtain ⟨t, ht, hta⟩ := exists_mem_of_tally hne
      rw [hobject t ht] at hta
      exact hp (Account.object.inj hta).symm
    rw [tally_add] at hzero
    rw [Books.refs_congr hsame]
    refine ⟨by omega, ?_, hbefore.bounded p⟩
    intro halive
    exact hbefore.positive p (by rwa [Heap.isAlive, ← hsame])

/-- The slot of a live object. -/
theorem slot_of_live (hl : b.heap.live? o = some object) :
    b.heap.slots[o.index.toNat]? = some ⟨o.generation, some object⟩ :=
  Heap.live?_eq_some_iff.mp hl

theorem index_lt (hl : b.heap.live? o = some object) : o.index.toNat < b.heap.slots.length :=
  (List.getElem?_eq_some_iff.mp (slot_of_live hl)).1

theorem index_not_free (h : b.Formed) (hl : b.heap.live? o = some object) :
    o.index ∉ b.heap.free := by
  intro hfree
  obtain ⟨slot, hslot, hempty⟩ := h.sorted.free_empty o.index hfree
  rw [slot_of_live hl] at hslot
  obtain rfl := Option.some.inj hslot
  exact Option.some_ne_none _ hempty

theorem sorted_store (h : b.Formed) (hl : b.heap.live? o = some object)
    {object' : LiveObject Subscriber} {heap : Heap Subscriber}
    (hslots : heap.slots = (b.heap.store o object').slots) (hfree : heap.free = b.heap.free) :
    heap.Sorted := by
  apply h.sorted.set (index_lt hl) hslots
  · rw [hfree]
    exact h.sorted.free_nodup
  · rw [hfree]
    exact fun hi => absurd hi (index_not_free h hl)
  · rw [hfree]
    exact fun _ hi _ => hi

theorem sorted_vacate (h : b.Formed) (hl : b.heap.live? o = some object) :
    (b.heap.vacate o).Sorted := by
  apply h.sorted.set (index_lt hl) rfl
  · exact List.nodup_cons.mpr ⟨index_not_free h hl, h.sorted.free_nodup⟩
  · exact fun _ => rfl
  · exact fun i hi hne => (List.mem_cons.mp hi).resolve_left hne

/-- While all is counted, an object lives that someone has a reference to. -/
theorem isAlive_of_mem {H : Multiset Release}
    (h : Balanced .fair 0 H b) (hfull : b.heap.full = false) (ho : Release.object o ∈ H) :
    b.heap.isAlive o = true := by
  have hrefs := (h.exact rfl hfull).counted o
  by_contra hdead
  rw [Bool.not_eq_true] at hdead
  rw [Books.refs_of_stale (Heap.live?_eq_none_iff.mpr hdead), zero_add] at hrefs
  exact tally_ne_zero_of_mem (Multiset.mem_add.mpr (Or.inl ho)) hrefs.symm

/-- A live object that changes, and keeps its slot. -/
theorem onStore (h : Balanced c due held b) (gone new : Multiset Release)
    (hl : b.heap.live? o = some object) (object' : LiveObject Subscriber) {heap : Heap Subscriber}
    (hslots : heap.slots = (b.heap.store o object').slots) (hfree : heap.free = b.heap.free)
    (hfull : heap.full = false → b.heap.full = false)
    (hall : gone + (due' + (held' + handlerReleases object'.handlers)) =
      new + (due + (held + handlerReleases object.handlers)))
    (hobjects : ∀ t ∈ gone + new, t.account = .object o)
    (hheld : ∀ w, .wrapper w ∈ held' → .wrapper w ∈ held)
    (hrefs : heap.full = false → object.refs.toNat ≠ 0 →
      object.refs.toNat < Heap.maxRefs.toNat →
      object'.refs.toNat + tally (.object o) gone =
          object.refs.toNat + tally (.object o) new ∧
        object'.refs.toNat ≠ 0 ∧ object'.refs.toNat < Heap.maxRefs.toNat) :
    Balanced c due' held' { b with heap } := by
  have hpledged := Books.pledged_set heap (slot_of_live hl) hslots
  have hpledge : ∀ x : LiveObject Subscriber,
      (⟨o.generation, some x⟩ : Slot Subscriber).pledge = handlerReleases x.handlers :=
    fun _ => rfl
  rw [hpledge, hpledge] at hpledged
  apply h.onObject gone new heap
  · apply add_left_cancel (a := (handlerReleases object.handlers : Multiset Release))
    have hsum := congrArg (· + b.pledged) hall
    calc _ = gone + (due' + (held' + (handlerReleases object.handlers +
            ({ b with heap } : Books).pledged))) := by abel
      _ = gone + (due' + (held' + handlerReleases object'.handlers)) + b.pledged := by
          rw [← hpledged]
          abel
      _ = _ := by
          rw [hsum]
          abel
  · exact hobjects
  · exact hheld
  · exact sorted_store h.formed hl hslots hfree
  · exact hfull
  · exact fun _ p hp => Heap.live?_set_ne (slot_of_live hl) rfl hslots (Or.inl rfl) hp
  · intro hnew hexact
    have hself : heap.live? o = some object' :=
      (Heap.live?_of_slots (by rw [hslots])).trans (Heap.live?_store_self object' hl)
    have hpositive := hexact.positive o (Heap.isAlive_of_live hl)
    have hbounded := hexact.bounded o
    rw [Books.refs_of_live hl] at hpositive hbounded
    obtain ⟨hsum, hne, hlt⟩ := hrefs hnew hpositive hbounded
    rw [Books.refs_of_live hself, Books.refs_of_live hl]
    exact ⟨hsum, fun _ => hne, hlt⟩

/-! ## Giving references back -/

/-- The last reference: the object goes, with its handlers. -/
theorem unref_last (h : Balanced c (t ::ₘ due) held b) (ht : t.account = .object o)
    (hl : b.heap.live? o = some object) (hlast : object.refs - 1 = 0) :
    Balanced c (handlerReleases object.handlers + due) held
      { b with heap := b.heap.vacate o } := by
  have hslots := Books.pledged_set (b.heap.vacate o) (slot_of_live hl) rfl
  have hnone : (⟨o.generation + 1, none⟩ : Slot Subscriber).pledge = [] := rfl
  have hsome : (⟨o.generation, some object⟩ : Slot Subscriber).pledge =
      handlerReleases object.handlers := rfl
  rw [hnone, hsome, Multiset.coe_nil, zero_add] at hslots
  apply h.onObject {t} 0 (b.heap.vacate o)
  · rw [hslots, zero_add, ← Multiset.singleton_add]
    abel
  · intro t' ht'
    rw [add_zero, Multiset.mem_singleton] at ht'
    rw [ht', ht]
  · exact fun w hw => hw
  · exact sorted_vacate h.formed hl
  · exact id
  · exact fun _ p hp => Heap.live?_vacate_ne hl hp
  · intro _ _
    have hdead : (b.heap.vacate o).live? o = none := Heap.live?_vacate_self
    rw [Books.refs_of_stale hdead, Books.refs_of_live hl, tally_singleton, if_pos ht,
      Heap.sub_one_eq_zero.mp hlast]
    refine ⟨rfl, ?_, by decide⟩
    intro halive
    simp [Heap.isAlive, hdead] at halive

/-- A reference that is not the last. -/
theorem unref_more (h : Balanced c (t ::ₘ due) held b) (ht : t.account = .object o)
    (hl : b.heap.live? o = some object) (hmore : object.refs - 1 ≠ 0) :
    Balanced c due held
      { b with heap := b.heap.store o { object with refs := object.refs - 1 } } := by
  apply h.onStore {t} 0 hl { object with refs := object.refs - 1 }
  · rfl
  · rfl
  · exact id
  · rw [zero_add, ← Multiset.singleton_add]
    abel
  · intro t' ht'
    rw [add_zero, Multiset.mem_singleton] at ht'
    rw [ht', ht]
  · exact fun w hw => hw
  · intro hfull hpositive hbounded
    have hne : (object.refs - 1).toNat ≠ 0 := fun heq => hmore (UInt32.toNat_inj.mp heq)
    have hsub : (object.refs - 1).toNat = object.refs.toNat - 1 := by
      have hle : (1 : UInt32) ≤ object.refs := by
        rw [UInt32.le_iff_toNat_le]
        exact Nat.one_le_iff_ne_zero.mpr hpositive
      rw [UInt32.toNat_sub_of_le _ _ hle]
      rfl
    rw [tally_singleton, if_pos ht, tally_zero]
    refine ⟨?_, hne, ?_⟩
    · simp only [hsub]
      omega
    · simp only [hsub]
      omega

/-- With fair holders nothing comes back too late, unless a count was
full. -/
theorem unref_stale (h : Balanced c (t ::ₘ due) held b) (ht : t.account = .object o)
    (hl : b.heap.live? o = none) : Balanced c due held { b with isLate := true } := by
  refine ⟨h.formed.of_eq rfl rfl h.formed.sorted, ⟨?_, ?_⟩, ?_, ?_, h.single⟩
  · intro t' ht'
    apply h.counts.known t'
    rw [Multiset.cons_add]
    exact Multiset.mem_cons_of_mem ht'
  · intro a ha
    have hcounted := h.counts.counted a ha
    have hne : t.account ≠ a := by
      rw [ht]
      rintro rfl
      exact ha
    rw [Multiset.cons_add, tally_cons, if_neg hne] at hcounted
    have hholders : ({ b with isLate := true } : Books).holders a = b.holders a := by
      cases a <;> rfl
    rw [hholders, hcounted]
    rfl
  · intro w hw entry hentry
    exact (h.standing w hw entry hentry).of_eq rfl
  · intro hc hfull
    have hcounted := (h.exact hc hfull).counted o
    rw [Books.refs_of_stale hl, Multiset.cons_add, tally_cons, if_pos ht] at hcounted
    omega

/-! ## Taking references -/

/-- A reference more. A count that reaches the limit is taken note of. -/
theorem raise (h : Balanced c due held b) (ht : t.account = .object o)
    (hl : b.heap.live? o = some object) {refs : UInt32}
    (hrefs : refs = Heap.maxRefs ∨ refs = object.refs + 1) :
    Balanced c due (t ::ₘ held) { b with heap := b.heap.raise o object refs } := by
  apply h.onStore 0 {t} hl { object with refs }
  · rfl
  · rfl
  · intro hfull
    simp only [Heap.raise, Heap.store, Bool.or_eq_false_iff] at hfull
    exact hfull.1
  · simp only [← Multiset.singleton_add]
    abel
  · intro t' ht'
    rw [zero_add, Multiset.mem_singleton] at ht'
    rw [ht', ht]
  · intro w hw
    rcases Multiset.mem_cons.mp hw with hw | hw
    · rw [← hw] at ht
      exact Account.noConfusion ht
    · exact hw
  · intro hfull hpositive hbounded
    simp only [Heap.raise, Heap.store, Bool.or_eq_false_iff, beq_eq_false_iff_ne] at hfull
    have hnext : refs = object.refs + 1 := by
      rcases hrefs with hrefs | hrefs
      · exact absurd hrefs hfull.2
      · exact hrefs
    have hmax : Heap.maxRefs.toNat = 4294967295 := rfl
    have hadd : refs.toNat = object.refs.toNat + 1 := by
      rw [hnext, UInt32.toNat_add]
      simp only [UInt32.reduceToNat]
      omega
    have hne : refs.toNat ≠ Heap.maxRefs.toNat := fun heq => hfull.2 (UInt32.toNat_inj.mp heq)
    rw [tally_singleton, if_pos ht, tally_zero]
    dsimp only
    omega

theorem countUp_cases (refs : UInt32) :
    Heap.countUp refs = Heap.maxRefs ∨ Heap.countUp refs = refs + 1 := by
  unfold Heap.countUp
  by_cases hr : refs = Heap.maxRefs
  · rw [if_pos hr]
    exact Or.inl hr
  · rw [if_neg hr]
    exact Or.inr rfl

end Balanced

namespace Heap

variable {κ : Type} {h heap : Heap κ} {o : ObjectId}

/-- What `instantiate` needs and does: it takes the slot that was freed last,
or adds one behind the others. -/
theorem instantiate_ok {type : TypeId} (hi : h.instantiate type = .ok (o, heap)) :
    h.types.contains type = true ∧
      ((∃ index free, h.free = index :: free ∧
          o = ⟨index, (h.slots[index.toNat]?).elim 0 (·.generation)⟩ ∧
          heap = { h with free }.store o { type, refs := 1 }) ∨
        (h.free = [] ∧ o = ⟨UInt32.ofNat h.slots.length, 0⟩ ∧
          heap = { h with
            slots := h.slots ++ [⟨0, some { type, refs := 1 }⟩]
            full := h.full || UInt32.size ≤ h.slots.length })) := by
  unfold instantiate at hi
  split at hi
  · rename_i hknown
    refine ⟨hknown, ?_⟩
    split at hi
    · rename_i index free hfree
      obtain ⟨rfl, rfl⟩ := Prod.mk.inj (Except.ok.inj hi)
      exact Or.inl ⟨index, free, hfree, rfl, rfl⟩
    · rename_i hfree
      obtain ⟨rfl, rfl⟩ := Prod.mk.inj (Except.ok.inj hi)
      exact Or.inr ⟨hfree, rfl, rfl⟩
  · exact absurd hi (by simp)

/-- What `ref` needs and does. -/
theorem ref_ok (hr : h.ref o = .ok heap) :
    ∃ object, h.live? o = some object ∧ heap = h.raise o object (countUp object.refs) := by
  unfold ref live at hr
  cases hl : h.live? o with
  | none => simp [hl, bind, Except.bind] at hr
  | some object =>
    simp only [hl, bind, Except.bind, pure, Except.pure, Except.ok.injEq] at hr
    exact ⟨object, rfl, hr.symm⟩

theorem ref_of_live {object : LiveObject κ} (hl : h.live? o = some object) :
    h.ref o = .ok (h.raise o object (countUp object.refs)) := by
  simp [ref, live, hl, bind, Except.bind, pure, Except.pure]

theorem connect_ok {signal : String} {closure : κ} {after : Bool} {id : HandlerId}
    (hc : h.connect o signal closure after = .ok (id, heap)) :
    ∃ object, h.live? o = some object ∧ heap = { h with lastHandler := id.number }.store o
      { object with
        handlers := object.handlers ++ [(⟨id, signal, closure, after⟩ : Connection κ)] } := by
  unfold connect live at hc
  cases hl : h.live? o with
  | none => simp [hl, bind, Except.bind] at hc
  | some object =>
    simp only [hl, bind, Except.bind, pure, Except.pure] at hc
    split at hc
    · exact absurd hc (by simp)
    · simp only [Except.ok.injEq, Prod.mk.injEq] at hc
      obtain ⟨rfl, rfl⟩ := hc
      exact ⟨object, rfl, rfl⟩

theorem disconnect_ok {id : HandlerId} {connection : Connection κ}
    (hd : h.disconnect o id = .ok (connection, heap)) :
    ∃ object, h.live? o = some object ∧ object.handlers.find? (·.id == id) = some connection ∧
      heap = h.store o { object with handlers := object.handlers.eraseP (·.id == id) } := by
  unfold disconnect live at hd
  cases hl : h.live? o with
  | none => simp [hl, bind, Except.bind] at hd
  | some object =>
    simp only [hl, bind, Except.bind, pure, Except.pure] at hd
    split at hd
    · exact absurd hd (by simp [throw, throwThe, MonadExceptOf.throw])
    · rename_i found hfound
      simp only [Except.ok.injEq, Prod.mk.injEq] at hd
      obtain ⟨rfl, rfl⟩ := hd
      exact ⟨object, rfl, hfound, rfl⟩

theorem beginEmission_ok {signal : String} {args : List NativeValue} {emission : Emission κ}
    (he : h.beginEmission o signal args = .ok (emission, heap)) :
    ∃ object, h.live? o = some object ∧ heap = h.raise o object (object.refs + 1) ∧
      emission.closures = closuresFor object.handlers signal := by
  unfold beginEmission live at he
  cases hl : h.live? o with
  | none => simp [hl, bind, Except.bind] at he
  | some object =>
    simp only [hl, bind, Except.bind, pure, Except.pure] at he
    split at he
    · exact absurd he (by simp)
    · split at he
      · exact absurd he (by simp [throw, throwThe, MonadExceptOf.throw])
      · simp only [Except.ok.injEq, Prod.mk.injEq] at he
        obtain ⟨rfl, rfl⟩ := he
        exact ⟨object, rfl, rfl, rfl⟩

theorem not_full_of_instantiate {type : TypeId} (hi : h.instantiate type = .ok (o, heap))
    (hfull : heap.full = false) : h.full = false := by
  obtain ⟨-, ⟨index, free, -, -, rfl⟩ | ⟨-, -, rfl⟩⟩ := instantiate_ok hi
  · exact hfull
  · exact (Bool.or_eq_false_iff.mp hfull).1

end Heap

namespace Heap

/-- The identifier that a new object gets was not in use. -/
theorem live?_instantiate {h heap : Heap Subscriber} (hs : h.Sorted) {type : TypeId}
    {o : ObjectId} (hi : h.instantiate type = .ok (o, heap)) (hfull : heap.full = false) :
    h.live? o = none ∧ heap.live? o = some { type, refs := 1 } ∧
      ∀ p, p ≠ o → heap.live? p = h.live? p := by
  obtain ⟨-, ⟨index, free, hfree, rfl, rfl⟩ | ⟨-, rfl, rfl⟩⟩ := instantiate_ok hi
  · obtain ⟨slot, hslot, hempty⟩ := hs.free_empty index (by rw [hfree]; exact List.mem_cons_self)
    refine ⟨by simp [live?, hslot, hempty], live?_store_of_slot _ hslot, fun p hp => ?_⟩
    exact live?_set_ne hslot (by rw [hslot]; rfl) rfl (Or.inl rfl) hp
  · simp only [Bool.or_eq_false_iff, decide_eq_false_iff_not, Nat.not_le] at hfull
    have hindex : (UInt32.ofNat h.slots.length).toNat = h.slots.length :=
      UInt32.toNat_ofNat_of_lt hfull.2
    refine ⟨by simp [live?, hindex], by simp [live?, hindex], fun p hp => ?_⟩
    apply live?_concat_ne rfl
    intro hlast
    exact generation_ne hp (hindex.trans hlast.symm)

end Heap

namespace Balanced

variable {c : Conduct} {due held : Multiset Release} {b : Books} {o : ObjectId}
  {heap : Heap Subscriber}

/-- A new object pledges nothing. -/
theorem pledged_instantiate (hs : b.heap.Sorted) {type : TypeId}
    (hi : b.heap.instantiate type = .ok (o, heap)) :
    ({ b with heap } : Books).pledged = b.pledged := by
  obtain ⟨-, ⟨index, free, hfree, rfl, rfl⟩ | ⟨-, rfl, rfl⟩⟩ := Heap.instantiate_ok hi
  · obtain ⟨slot, hslot, hempty⟩ := hs.free_empty index (by rw [hfree]; exact List.mem_cons_self)
    have hset := Books.pledged_set (b := b) ({ b.heap with free }.store
      ⟨index, (b.heap.slots[index.toNat]?).elim 0 (·.generation)⟩ { type, refs := 1 }) hslot rfl
    have hnew : ∀ generation : UInt32,
        (⟨generation, some { type, refs := 1 }⟩ : Slot Subscriber).pledge = [] := fun _ => rfl
    have hold : slot.pledge = [] := by simp [Slot.pledge, hempty]
    rw [hnew, hold] at hset
    exact (add_left_cancel hset).symm
  · simp [Books.pledged, Slot.pledge, handlerReleases]

theorem sorted_instantiate (hs : b.heap.Sorted) {type : TypeId}
    (hi : b.heap.instantiate type = .ok (o, heap)) : heap.Sorted := by
  obtain ⟨-, ⟨index, free, hfree, rfl, rfl⟩ | ⟨hfree, rfl, rfl⟩⟩ := Heap.instantiate_ok hi
  · obtain ⟨slot, hslot, -⟩ := hs.free_empty index (by rw [hfree]; exact List.mem_cons_self)
    have hnodup := hs.free_nodup
    rw [hfree, List.nodup_cons] at hnodup
    apply hs.set (List.getElem?_eq_some_iff.mp hslot).1 rfl hnodup.2
    · exact fun hi => absurd hi hnodup.1
    · intro i hi _
      rw [hfree]
      exact List.mem_cons_of_mem index hi
  · refine ⟨hs.free_nodup, fun i hi => ?_⟩
    rw [hfree] at hi
    exact absurd hi List.not_mem_nil

/-- A new object has one reference, its creator's. -/
theorem instantiate (h : Balanced c due held b) {type : TypeId}
    (hi : b.heap.instantiate type = .ok (o, heap)) :
    Balanced c due (.object o ::ₘ held) { b with heap } := by
  apply h.onObject 0 {.object o} heap
  · rw [pledged_instantiate h.formed.sorted hi, ← Multiset.singleton_add]
    abel
  · intro t ht
    rw [zero_add, Multiset.mem_singleton] at ht
    rw [ht]
    rfl
  · intro w hw
    rcases Multiset.mem_cons.mp hw with hw | hw
    · exact Release.noConfusion hw
    · exact hw
  · exact sorted_instantiate h.formed.sorted hi
  · exact Heap.not_full_of_instantiate hi
  · exact fun hnew => (Heap.live?_instantiate h.formed.sorted hi hnew).2.2
  · intro hnew _
    obtain ⟨hbefore, hafter, -⟩ := Heap.live?_instantiate h.formed.sorted hi hnew
    have hone : tally (.object o) {Release.object o} = 1 := by
      rw [tally_singleton, if_pos (show (Release.object o).account = .object o from rfl)]
    rw [Books.refs_of_stale hbefore, Books.refs_of_live hafter, hone, tally_zero]
    exact ⟨rfl, fun _ => Nat.one_ne_zero, show (1 : UInt32).toNat < _ from by decide⟩

/-! ## Handlers -/

/-- What is connected is held by the object from then on. -/
theorem connect {subscriber : Subscriber} (h : Balanced c due (subscriber.releases + held) b)
    {signal : String} {after : Bool} {id : HandlerId}
    (hc : b.heap.connect o signal subscriber after = .ok (id, heap)) :
    Balanced c due held { b with heap } := by
  obtain ⟨object, hl, rfl⟩ := Heap.connect_ok hc
  apply h.onStore 0 0 hl { object with
    handlers := object.handlers ++ [(⟨id, signal, subscriber, after⟩ : Connection Subscriber)] }
  · rfl
  · rfl
  · exact fun hfull => hfull
  · have happend : handlerReleases (object.handlers ++ [⟨id, signal, subscriber, after⟩]) =
        handlerReleases object.handlers ++ subscriber.releases := by
      simp [handlerReleases]
    simp only [happend, ← Multiset.coe_add]
    abel
  · intro t ht
    exact absurd ht (Multiset.notMem_zero t)
  · intro w hw
    exact Multiset.mem_add.mpr (Or.inr hw)
  · intro _ hpositive hbounded
    exact ⟨rfl, hpositive, hbounded⟩

theorem handlerReleases_eraseP {handlers : List (Connection Subscriber)}
    {p : Connection Subscriber → Bool} {connection : Connection Subscriber}
    (hf : handlers.find? p = some connection) :
    (handlerReleases handlers : Multiset Release) =
      connection.closure.releases + handlerReleases (handlers.eraseP p) := by
  induction handlers with
  | nil => simp at hf
  | cons first rest ih =>
    by_cases hp : p first = true
    · rw [List.find?_cons_of_pos hp] at hf
      obtain rfl := Option.some.inj hf
      rw [List.eraseP_cons_of_pos hp]
      rfl
    · rw [List.find?_cons_of_neg hp] at hf
      have hrest := ih hf
      rw [List.eraseP_cons_of_neg hp]
      simp only [handlerReleases, List.flatMap_cons, ← Multiset.coe_add] at hrest ⊢
      rw [hrest]
      abel

/-- A handler that goes gives back what it held. -/
theorem disconnect (h : Balanced c due held b) {id : HandlerId}
    {connection : Connection Subscriber}
    (hd : b.heap.disconnect o id = .ok (connection, heap)) :
    Balanced c (connection.closure.releases + due) held { b with heap } := by
  obtain ⟨object, hl, hfound, rfl⟩ := Heap.disconnect_ok hd
  apply h.onStore 0 0 hl { object with handlers := object.handlers.eraseP (·.id == id) }
  · rfl
  · rfl
  · exact fun hfull => hfull
  · simp only
    rw [handlerReleases_eraseP hfound]
    abel
  · intro t ht
    exact absurd ht (Multiset.notMem_zero t)
  · exact fun w hw => hw
  · intro _ hpositive hbounded
    exact ⟨rfl, hpositive, hbounded⟩

end Balanced

end NativeBridge
