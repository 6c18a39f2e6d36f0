-- Runs of the heap. Each operation that succeeds is a step, and says what it
-- made happen to the objects; a run is steps one after another, with the
-- events of all of them. An emission is its start, the steps of its handlers,
-- and the release of its reference.
import NativeBridge.Proofs.Trading

namespace NativeBridge

variable {κ : Type}

/-- What tells which object is in a slot, if any: the generation, and whether
the slot is taken. -/
def Slot.outline (slot : Slot κ) : UInt32 × Bool := (slot.generation, slot.live.isSome)

/-- In a list with one more entry at its end, an entry is the last one or
stands before it. -/
theorem concat_eq_append_cons {α : Type*} {es before after : List α} {last e : α}
    (hes : es ++ [last] = before ++ e :: after) :
    (es = before ∧ last = e ∧ after = []) ∨
      ∃ rest, es = before ++ e :: rest ∧ after = rest ++ [last] := by
  rcases after.eq_nil_or_concat' with rfl | ⟨rest, last', rfl⟩
  · obtain ⟨hsame, hlast⟩ := List.append_inj' hes rfl
    exact Or.inl ⟨hsame, List.singleton_inj.mp hlast, rfl⟩
  · rw [← List.cons_append, ← List.append_assoc] at hes
    obtain ⟨hsame, hlast⟩ := List.append_inj' hes rfl
    obtain rfl := List.singleton_inj.mp hlast
    exact Or.inr ⟨rest, hsame, rfl⟩

namespace Heap

/-! ## Steps -/

/-- Something that happens to the objects of a heap. -/
inductive Event (κ : Type) where
  /-- An identifier is handed out for a new object. -/
  | created (o : ObjectId)
  | finalized (o : ObjectId)
  | connected (o : ObjectId) (connection : Connection κ)
  | disconnected (o : ObjectId) (id : HandlerId)

/-- What the loss of a reference made happen. -/
def lossOf (h : Heap κ) (o : ObjectId) : List (Event κ) :=
  if h.isAlive o then [] else [.finalized o]

/-- One operation that succeeds. -/
inductive Step (h : Heap κ) : List (Event κ) → Heap κ → Prop where
  | changeTypes {change : TypeChange} {types : Hierarchy}
    (hdone : change.apply h.types = .ok types) : Step h [] { h with types }
  | instantiate {type : TypeId} {o : ObjectId} {heap : Heap κ}
    (hdone : h.instantiate type = .ok (o, heap)) : Step h [.created o] heap
  | ref {o : ObjectId} {heap : Heap κ} (hdone : h.ref o = .ok heap) : Step h [] heap
  | unref {o : ObjectId} {handlers : List (Connection κ)} {heap : Heap κ}
    (hdone : h.unref o = .ok (handlers, heap)) : Step h (heap.lossOf o) heap
  | connect {o : ObjectId} {signal : String} {closure : κ} {after : Bool} {id : HandlerId}
    {heap : Heap κ} (hdone : h.connect o signal closure after = .ok (id, heap)) :
    Step h [.connected o ⟨id, signal, closure, after⟩] heap
  | disconnect {o : ObjectId} {id : HandlerId} {connection : Connection κ} {heap : Heap κ}
    (hdone : h.disconnect o id = .ok (connection, heap)) : Step h [.disconnected o id] heap
  | beginEmission {o : ObjectId} {signal : String} {args : List NativeValue}
    {emission : Emission κ} {heap : Heap κ}
    (hdone : h.beginEmission o signal args = .ok (emission, heap)) : Step h [] heap

/-- Steps one after another. -/
inductive Run (h : Heap κ) : List (Event κ) → Heap κ → Prop where
  | rest : Run h [] h
  | step {es new : List (Event κ)} {heap next : Heap κ} (before : Run h es heap)
    (last : Step heap new next) : Run h (es ++ new) next

variable {h h' h'' : Heap κ} {es new : List (Event κ)} {o p : ObjectId}

theorem Step.run (hstep : Step h es h') : Run h es h' := .step .rest hstep

/-- A reference is taken with no other result. -/
theorem step_of_ref {x : Unit} (hdone : (h.ref o).map ((), ·) = .ok (x, h')) : Step h [] h' := by
  cases href : h.ref o with
  | error e =>
    rw [href] at hdone
    exact absurd hdone (by simp [Except.map])
  | ok heap =>
    rw [href] at hdone
    obtain ⟨-, rfl⟩ := Prod.mk.inj (Except.ok.inj hdone)
    exact .ref href

theorem Run.trans (hrun : Run h es h') (hrun' : Run h' new h'') : Run h (es ++ new) h'' := by
  induction hrun' with
  | rest => rwa [List.append_nil]
  | step _ last ih =>
    rw [← List.append_assoc]
    exact ih.step last

/-! ## What an operation leaves of the slots -/

/-- Which objects are in the slots. -/
def outline (h : Heap κ) : List (UInt32 × Bool) := h.slots.map Slot.outline

/-- The same objects are in the same slots. -/
structure SameObjects (h h' : Heap κ) : Prop where
  outline : h'.outline = h.outline
  free : h'.free = h.free
  finalized : h'.finalized = h.finalized

theorem SameObjects.length (hsame : SameObjects h h') : h'.slots.length = h.slots.length := by
  simpa [Heap.outline] using congrArg List.length hsame.outline

theorem isAlive_iff :
    h.isAlive o = true ↔ h.outline[o.index.toNat]? = some (o.generation, true) := by
  unfold isAlive live? outline
  rw [List.getElem?_map]
  rcases h.slots[o.index.toNat]? with _ | ⟨generation, live⟩
  · simp
  · by_cases hg : generation = o.generation <;> simp [Slot.outline, hg]

theorem outline_store {old : LiveObject κ} (object : LiveObject κ) (hl : h.live? o = some old) :
    (h.store o object).outline = h.outline := by
  have hold := isAlive_iff.mp (isAlive_of_live hl)
  have hlt : o.index.toNat < h.outline.length := (List.getElem?_eq_some_iff.mp hold).1
  have hset : (h.store o object).outline = h.outline.set o.index.toNat (o.generation, true) :=
    List.map_set
  rw [hset]
  apply List.ext_getElem?
  intro n
  by_cases hn : o.index.toNat = n
  · subst hn
    rw [List.getElem?_set_self hlt, hold]
  · rw [List.getElem?_set_ne hn]

theorem sameObjects_store {old : LiveObject κ} (object : LiveObject κ) {g : Heap κ}
    (hl : h.live? o = some old) (hslots : g.slots = h.slots) (hfree : g.free = h.free)
    (hfinalized : g.finalized = h.finalized) : SameObjects h (g.store o object) where
  outline := by
    have hg : (g.store o object).outline = (h.store o object).outline := by
      simp [outline, store, hslots]
    rw [hg, outline_store object hl]
  free := hfree
  finalized := hfinalized

theorem outline_vacate (h : Heap κ) (o : ObjectId) :
    (h.vacate o).outline = h.outline.set o.index.toNat (o.generation + 1, false) := List.map_set

/-- What a step does: it creates an object, or finalizes one, or leaves all
objects where they are. -/
inductive Outcome (h : Heap κ) : List (Event κ) → Heap κ → Prop where
  | kept {es : List (Event κ)} {h' : Heap κ} (same : SameObjects h h')
    (quiet : ∀ o, .created o ∉ es ∧ .finalized o ∉ es) : Outcome h es h'
  | created {type : TypeId} {o : ObjectId} {h' : Heap κ}
    (made : h.instantiate type = .ok (o, h')) : Outcome h [.created o] h'
  | finalized {o : ObjectId} (alive : h.isAlive o = true) : Outcome h [.finalized o] (h.vacate o)

theorem lossOf_vacate (h : Heap κ) (o : ObjectId) : (h.vacate o).lossOf o = [.finalized o] := by
  have hdead : (h.vacate o).isAlive o = false := live?_eq_none_iff.mp live?_vacate_self
  rw [lossOf, hdead]
  rfl

theorem lossOf_store {old : LiveObject κ} (object : LiveObject κ) (hl : h.live? o = some old) :
    (h.store o object).lossOf o = [] := by
  rw [lossOf, isAlive_of_live (live?_store_self object hl), if_pos rfl]

theorem Step.outcome (hstep : Step h es h') : Outcome h es h' := by
  cases hstep with
  | changeTypes hdone => exact .kept ⟨rfl, rfl, rfl⟩ fun p => by simp
  | instantiate hdone => exact .created hdone
  | ref hdone =>
    obtain ⟨object, hl, rfl⟩ := ref_ok hdone
    exact .kept (sameObjects_store _ hl rfl rfl rfl) fun p => by simp
  | unref hdone =>
    obtain ⟨object, hl, ⟨-, -, rfl⟩ | ⟨-, -, rfl⟩⟩ := unref_ok hdone
    · rw [lossOf_vacate]
      exact .finalized (isAlive_of_live hl)
    · rw [lossOf_store _ hl]
      exact .kept (sameObjects_store _ hl rfl rfl rfl) fun p => by simp
  | connect hdone =>
    obtain ⟨object, hl, rfl⟩ := connect_ok hdone
    exact .kept (sameObjects_store _ hl rfl rfl rfl) fun p => by simp
  | disconnect hdone =>
    obtain ⟨object, hl, -, rfl⟩ := disconnect_ok hdone
    exact .kept (sameObjects_store _ hl rfl rfl rfl) fun p => by simp
  | beginEmission hdone =>
    obtain ⟨object, hl, rfl, -⟩ := beginEmission_ok hdone
    exact .kept (sameObjects_store _ hl rfl rfl rfl) fun p => by simp

end Heap

end NativeBridge
