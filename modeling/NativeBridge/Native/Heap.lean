-- The heap of native objects. Objects live in slots with generations and
-- count their references; an object whose count falls to zero leaves its
-- slot, and what was connected to it is handed back to be released.
import NativeBridge.Native.Hierarchy
import NativeBridge.Native.Value
import NativeBridge.Text.Quoted

namespace NativeBridge

/-- A closure connected to a signal. -/
structure Connection (κ : Type) where
  id : HandlerId
  signal : String
  closure : κ
  /-- Whether it runs behind the normal handlers. -/
  after : Bool

/-- An object that is not finalized. -/
structure LiveObject (κ : Type) where
  type : TypeId
  refs : UInt32
  /-- In the order of connection. -/
  handlers : List (Connection κ) := []

/-- A slot. The generation counts how often it was emptied. -/
structure Slot (κ : Type) where
  generation : UInt32
  live : Option (LiveObject κ)

def Slot.handlerCount {κ : Type} (slot : Slot κ) : Nat := slot.live.elim 0 (·.handlers.length)

/-- The heap, over any kind of closure. The slots on the free list are
used again, the one freed last first. -/
structure Heap (κ : Type) where
  types : Hierarchy := {}
  slots : List (Slot κ) := []
  free : List UInt32 := []
  lastHandler : UInt64 := 0
  finalized : Nat := 0
  /-- Set when a count of references reached its limit, or the slots were more
  than they have numbers. From then on counts may lose references. -/
  full : Bool := false

namespace Heap

variable {κ : Type}

instance : Inhabited (Heap κ) := ⟨{}⟩

/-! ## Reading -/

/-- The slot that an identifier means, while it holds that very object. -/
def live? (h : Heap κ) (o : ObjectId) : Option (LiveObject κ) :=
  match h.slots[o.index.toNat]? with
  | some slot => if slot.generation = o.generation then slot.live else none
  | none => none

def typeOf? (h : Heap κ) (o : ObjectId) : Option TypeId := (h.live? o).map (·.type)

def refCount? (h : Heap κ) (o : ObjectId) : Option UInt32 := (h.live? o).map (·.refs)

def isAlive (h : Heap κ) (o : ObjectId) : Bool := (h.live? o).isSome

/-- The number of handlers connected to an object. -/
def handlerCount (h : Heap κ) (o : ObjectId) : Nat :=
  match h.live? o with
  | some object => object.handlers.length
  | none => 0

/-- The live object, or the error that it is stale. -/
def live (h : Heap κ) (o : ObjectId) : Except NativeError (LiveObject κ) :=
  match h.live? o with
  | some object => .ok object
  | none => .error (.staleObject o)

def inspect (h : Heap κ) : String :=
  Text.record "ObjectHeap"
    [("slot_count", toString h.slots.length), ("free_count", toString h.free.length),
      ("type_count", toString h.types.size)]
    true

/-! ## Objects -/

/-- Puts an object into the slot of its identifier. -/
def store (h : Heap κ) (o : ObjectId) (object : LiveObject κ) : Heap κ :=
  { h with slots := h.slots.set o.index.toNat ⟨o.generation, some object⟩ }

/-- Creates an object with one reference. -/
def instantiate (h : Heap κ) (type : TypeId) : Except NativeError (ObjectId × Heap κ) :=
  if h.types.contains type then
    let object : LiveObject κ := { type, refs := 1 }
    match h.free with
    | index :: free =>
      let generation := (h.slots[index.toNat]?).elim 0 (·.generation)
      let o : ObjectId := ⟨index, generation⟩
      .ok (o, { h with free }.store o object)
    | [] =>
      let o : ObjectId := ⟨UInt32.ofNat h.slots.length, 0⟩
      let full := h.full || UInt32.size ≤ h.slots.length
      .ok (o, { h with slots := h.slots ++ [⟨0, some object⟩], full })
  else .error (.unknownType type)

/-- The limit of a count of references. -/
def maxRefs : UInt32 := 0xffffffff

/-- One reference more; a full count stays full. -/
def countUp (refs : UInt32) : UInt32 := if refs = maxRefs then refs else refs + 1

/-- Gives a live object a higher count, and takes note of a full one. -/
def raise (h : Heap κ) (o : ObjectId) (object : LiveObject κ) (refs : UInt32) : Heap κ :=
  { h with full := h.full || refs == maxRefs }.store o { object with refs }

/-- Takes a reference to a live object. -/
def ref (h : Heap κ) (o : ObjectId) : Except NativeError (Heap κ) := do
  let object ← h.live o
  return h.raise o object (countUp object.refs)

/-- Empties the slot of an object, for the next generation. -/
def vacate (h : Heap κ) (o : ObjectId) : Heap κ :=
  { h with
    slots := h.slots.set o.index.toNat ⟨o.generation + 1, none⟩
    free := o.index :: h.free
    finalized := h.finalized + 1 }

/-- Gives a reference back. With the last one the object leaves its slot,
and its handlers come out, in the order of connection. -/
def unref (h : Heap κ) (o : ObjectId) : Except NativeError (List (Connection κ) × Heap κ) := do
  let object ← h.live o
  let refs := object.refs - 1
  if refs = 0 then return (object.handlers, h.vacate o)
  else return ([], h.store o { object with refs })

/-! ## Handlers -/

/-- The definition of a signal on the type of an object. -/
def signalOf (h : Heap κ) (type : TypeId) (signal : String) : Except NativeError SignalDef :=
  match h.types.signal? type signal with
  | some shape => .ok shape
  | none => .error (.unknownSignal (h.types.describe type) signal)

/-- Connects a closure to a signal of an object. -/
def connect (h : Heap κ) (o : ObjectId) (signal : String) (closure : κ) (after : Bool) :
    Except NativeError (HandlerId × Heap κ) := do
  let object ← h.live o
  let _ ← h.signalOf object.type signal
  let id : HandlerId := ⟨h.lastHandler + 1⟩
  let connection : Connection κ := ⟨id, signal, closure, after⟩
  let object := { object with handlers := object.handlers ++ [connection] }
  return (id, { h with lastHandler := id.number }.store o object)

/-- Disconnects a handler, which comes out. -/
def disconnect (h : Heap κ) (o : ObjectId) (id : HandlerId) :
    Except NativeError (Connection κ × Heap κ) := do
  let object ← h.live o
  match object.handlers.find? (·.id == id) with
  | none => throw (.unknownHandler id)
  | some connection =>
    let handlers := object.handlers.eraseP (·.id == id)
    return (connection, h.store o { object with handlers })

/-! ## Emissions -/

/-- The start of an emission: what its handlers get, and which they are. -/
structure Emission (κ : Type) where
  params : List TypedValue
  returnType : Option TypeId
  closures : List κ

/-- The closures connected to a signal: the normal ones, then the others,
each group in the order of connection. -/
def closuresFor (handlers : List (Connection κ)) (signal : String) : List κ :=
  let ofGroup (after : Bool) :=
    (handlers.filter fun c => c.signal == signal && c.after == after).map (·.closure)
  ofGroup false ++ ofGroup true

/-- Checks an emission and takes a reference for its duration. -/
def beginEmission (h : Heap κ) (o : ObjectId) (signal : String) (args : List NativeValue) :
    Except NativeError (Emission κ × Heap κ) := do
  let object ← h.live o
  let shape ← h.signalOf object.type signal
  if shape.params.length ≠ args.length then
    throw (.signalArity signal shape.params.length args.length)
  let instanceParam : TypedValue := ⟨object.type, .object o⟩
  let emission : Emission κ :=
    { params := instanceParam :: List.zipWith TypedValue.mk shape.params args
      returnType := shape.returnType
      closures := closuresFor object.handlers signal }
  return (emission, h.raise o object (object.refs + 1))

/-! ## What each operation does to the live objects -/

theorem live?_eq_some_iff {h : Heap κ} {o : ObjectId} {object : LiveObject κ} :
    h.live? o = some object ↔ h.slots[o.index.toNat]? = some ⟨o.generation, some object⟩ := by
  unfold live?
  rcases h.slots[o.index.toNat]? with _ | ⟨generation, live⟩
  · simp
  · by_cases hg : generation = o.generation <;> simp [hg]

theorem isAlive_of_live {h : Heap κ} {o : ObjectId} {object : LiveObject κ}
    (hl : h.live? o = some object) : h.isAlive o = true := by
  rw [isAlive, hl]
  rfl

theorem live?_eq_none_iff {h : Heap κ} {o : ObjectId} : h.live? o = none ↔ h.isAlive o = false := by
  unfold isAlive
  cases h.live? o <;> simp

/-- Two identifiers of one slot differ in their generations. -/
theorem generation_ne {o p : ObjectId} (hp : p ≠ o) (hi : o.index.toNat = p.index.toNat) :
    o.generation ≠ p.generation := by
  intro hg
  have hindex : o.index = p.index := UInt32.toNat_inj.mp hi
  exact hp (by cases o; cases p; simp_all)

theorem live?_of_slots {h g : Heap κ} {o : ObjectId}
    (hslots : g.slots[o.index.toNat]? = h.slots[o.index.toNat]?) : g.live? o = h.live? o := by
  unfold live?
  rw [hslots]

/-- A slot behind the others concerns no identifier that is not its own. -/
theorem live?_concat_ne {h g : Heap κ} {o : ObjectId} {slot : Slot κ}
    (hslots : g.slots = h.slots ++ [slot])
    (ho : o.index.toNat = h.slots.length → slot.generation ≠ o.generation) :
    g.live? o = h.live? o := by
  rcases Nat.lt_trichotomy o.index.toNat h.slots.length with hlt | heq | hgt
  · exact live?_of_slots (by rw [hslots, List.getElem?_append_left hlt])
  · simp [live?, hslots, heq, ho heq]
  · apply live?_of_slots
    have hbehind : (h.slots ++ [slot]).length ≤ o.index.toNat := by
      rw [List.length_append]
      exact hgt
    rw [hslots, List.getElem?_eq_none hbehind, List.getElem?_eq_none (Nat.le_of_lt hgt)]

/-- What is put into a slot is live under the identifier that it is put there
for. -/
theorem live?_store_of_slot {h : Heap κ} {o : ObjectId} {slot : Slot κ} (object : LiveObject κ)
    (hslot : h.slots[o.index.toNat]? = some slot) : (h.store o object).live? o = some object := by
  have hlt : o.index.toNat < h.slots.length := (List.getElem?_eq_some_iff.mp hslot).1
  rw [live?_eq_some_iff]
  simp [store, hlt]

/-- A slot that changes under one identifier is as it was for all others: its
generation was not theirs, and if it is now, the slot is empty. -/
theorem live?_set_ne {h g : Heap κ} {o p : ObjectId} {slot slot' : Slot κ}
    (hslot : h.slots[o.index.toNat]? = some slot) (hgeneration : slot.generation = o.generation)
    (hslots : g.slots = h.slots.set o.index.toNat slot')
    (hnew : slot'.generation = o.generation ∨ slot'.live = none) (hp : p ≠ o) :
    g.live? p = h.live? p := by
  have hlt : o.index.toNat < h.slots.length := (List.getElem?_eq_some_iff.mp hslot).1
  unfold live?
  rw [hslots]
  by_cases hi : o.index.toNat = p.index.toNat
  · have hne := generation_ne hp hi
    rw [← hi, hslot, List.getElem?_set_self hlt]
    rcases hnew with hnew | hnew <;> simp [hnew, hgeneration, hne]
  · rw [List.getElem?_set_ne hi]

theorem live?_store_self {h : Heap κ} {o : ObjectId} {old : LiveObject κ} (object : LiveObject κ)
    (hl : h.live? o = some old) : (h.store o object).live? o = some object :=
  live?_store_of_slot object (live?_eq_some_iff.mp hl)

theorem live?_store_ne {h : Heap κ} {o p : ObjectId} {old : LiveObject κ} (object : LiveObject κ)
    (hl : h.live? o = some old) (hp : p ≠ o) : (h.store o object).live? p = h.live? p :=
  live?_set_ne (live?_eq_some_iff.mp hl) rfl rfl (Or.inl rfl) hp

theorem live?_vacate_self {h : Heap κ} {o : ObjectId} : (h.vacate o).live? o = none := by
  unfold live? vacate
  by_cases hlt : o.index.toNat < h.slots.length <;> simp [hlt]

theorem live?_vacate_ne {h : Heap κ} {o p : ObjectId} {old : LiveObject κ}
    (hl : h.live? o = some old) (hp : p ≠ o) : (h.vacate o).live? p = h.live? p :=
  live?_set_ne (live?_eq_some_iff.mp hl) rfl rfl (Or.inr rfl) hp

theorem unref_of_stale {h : Heap κ} {o : ObjectId} (hl : h.live? o = none) :
    h.unref o = .error (.staleObject o) := by
  simp [unref, live, hl, bind, Except.bind]

theorem unref_of_live {h : Heap κ} {o : ObjectId} {object : LiveObject κ}
    (hl : h.live? o = some object) :
    h.unref o =
      if object.refs - 1 = 0 then .ok (object.handlers, h.vacate o)
      else .ok ([], h.store o { object with refs := object.refs - 1 }) := by
  by_cases hr : object.refs - 1 = 0 <;>
    simp [unref, live, hl, hr, bind, Except.bind, pure, Except.pure]

theorem sub_one_eq_zero {refs : UInt32} : refs - 1 = 0 ↔ refs = 1 := by
  constructor
  · intro hlast
    rw [← UInt32.sub_add_cancel refs 1, hlast]
    rfl
  · rintro rfl
    rfl

/-- What `unref` needs and does. -/
theorem unref_ok {h h' : Heap κ} {o : ObjectId} {handlers : List (Connection κ)}
    (hdone : h.unref o = .ok (handlers, h')) : ∃ object, h.live? o = some object ∧
      ((object.refs - 1 = 0 ∧ handlers = object.handlers ∧ h' = h.vacate o) ∨
        (object.refs - 1 ≠ 0 ∧ handlers = [] ∧
          h' = h.store o { object with refs := object.refs - 1 })) := by
  cases hl : h.live? o with
  | none =>
    rw [unref_of_stale hl] at hdone
    exact absurd hdone (by simp)
  | some object =>
    refine ⟨object, rfl, ?_⟩
    rw [unref_of_live hl] at hdone
    split at hdone <;> obtain ⟨rfl, rfl⟩ := Prod.mk.inj (Except.ok.inj hdone)
    · exact Or.inl ⟨by assumption, rfl, rfl⟩
    · exact Or.inr ⟨by assumption, rfl, rfl⟩

end Heap

end NativeBridge
