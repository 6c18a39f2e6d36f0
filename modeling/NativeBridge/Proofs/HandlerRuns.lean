-- Handlers and counts along a run of the heap. Identifiers of handlers are
-- handed out in order and never again; a handler can be disconnected where it
-- is connected, and nowhere else; and no count stands at zero.
import NativeBridge.Proofs.Connections

namespace NativeBridge

variable {κ : Type}

namespace Heap

variable {h h' : Heap κ} {es new : List (Event κ)} {o : ObjectId}

/-! ## Identifiers of handlers -/

def Event.handlerId? : Event κ → Option HandlerId
  | connected _ connection => some connection.id
  | _ => none

/-- The identifiers that the connections got, the oldest first. -/
def handlerIds (es : List (Event κ)) : List HandlerId := es.filterMap (·.handlerId?)

theorem handlerIds_append (es new : List (Event κ)) :
    handlerIds (es ++ new) = handlerIds es ++ handlerIds new := List.filterMap_append

/-- Identifiers count the connections, and the heap knows the last one. -/
structure Numbered (h : Heap κ) (es : List (Event κ)) : Prop where
  last : h.lastHandler = UInt64.ofNat (handlerIds es).length
  ids : ∀ n id, (handlerIds es)[n]? = some id → id.number = UInt64.ofNat (n + 1)

theorem Numbered.kept (hn : h.Numbered es) (hlast : h'.lastHandler = h.lastHandler)
    (hquiet : handlerIds new = []) : h'.Numbered (es ++ new) := by
  have hsame : handlerIds (es ++ new) = handlerIds es := by
    rw [handlerIds_append, hquiet, List.append_nil]
  exact ⟨by rw [hsame, hlast, hn.last], by rw [hsame]; exact hn.ids⟩

theorem connect_id {signal : String} {closure : κ} {after : Bool} {id : HandlerId}
    (hdone : h.connect o signal closure after = .ok (id, h')) : id.number = h.lastHandler + 1 := by
  unfold connect at hdone
  cases hl : h.live o with
  | error e =>
    rw [hl] at hdone
    exact absurd hdone (by simp [bind, Except.bind])
  | ok object =>
    simp only [hl, bind, Except.bind, pure, Except.pure] at hdone
    split at hdone
    · exact absurd hdone (by simp)
    · rw [← (Prod.mk.inj (Except.ok.inj hdone)).1]

theorem Numbered.connected (hn : h.Numbered es) {signal : String} {closure : κ} {after : Bool}
    {id : HandlerId} (hdone : h.connect o signal closure after = .ok (id, h')) :
    h'.Numbered (es ++ [.connected o ⟨id, signal, closure, after⟩]) := by
  have hid : id.number = UInt64.ofNat ((handlerIds es).length + 1) := by
    rw [connect_id hdone, hn.last, UInt64.ofNat_add]
    rfl
  have hmore : handlerIds (es ++ [.connected o ⟨id, signal, closure, after⟩]) =
      handlerIds es ++ [id] := handlerIds_append _ _
  obtain ⟨object, -, rfl⟩ := connect_ok hdone
  refine ⟨?_, ?_⟩
  · rw [hmore, List.length_append, List.length_singleton]
    exact hid
  · intro n found hfound
    rw [hmore, List.getElem?_append] at hfound
    split at hfound
    · exact hn.ids n found hfound
    · rename_i hn'
      obtain ⟨hlt, rfl⟩ := List.getElem?_eq_some_iff.mp hfound
      rw [List.length_singleton] at hlt
      have heq : n = (handlerIds es).length := by omega
      subst heq
      simpa using hid

theorem Numbered.step (hn : h.Numbered es) (hstep : Step h new h') : h'.Numbered (es ++ new) := by
  cases hstep with
  | changeTypes hdone => exact hn.kept rfl rfl
  | instantiate hdone =>
    apply hn.kept _ rfl
    obtain ⟨-, ⟨index, free, -, -, rfl⟩ | ⟨-, -, rfl⟩⟩ := instantiate_ok hdone <;> rfl
  | ref hdone =>
    obtain ⟨object, -, rfl⟩ := ref_ok hdone
    exact hn.kept rfl rfl
  | unref hdone =>
    obtain ⟨object, hl, ⟨-, -, rfl⟩ | ⟨-, -, rfl⟩⟩ := unref_ok hdone
    · rw [lossOf_vacate]
      exact hn.kept rfl rfl
    · rw [lossOf_store _ hl]
      exact hn.kept rfl rfl
  | connect hdone => exact hn.connected hdone
  | disconnect hdone =>
    obtain ⟨object, -, -, rfl⟩ := disconnect_ok hdone
    exact hn.kept rfl rfl
  | beginEmission hdone =>
    obtain ⟨object, -, rfl, -⟩ := beginEmission_ok hdone
    exact hn.kept rfl rfl

theorem Run.numbered (hrun : Run {} es h) : h.Numbered es := by
  induction hrun with
  | rest => exact ⟨rfl, fun n id hid => absurd hid (by simp [handlerIds])⟩
  | step _ last ih => exact ih.step last

/-- No identifier is handed out twice, before all of them were handed out. -/
theorem Numbered.nodup (hn : h.Numbered es) (hfew : (handlerIds es).length < 2 ^ 64) :
    (handlerIds es).Nodup := by
  rw [List.Nodup, List.pairwise_iff_getElem]
  intro i j hi hj hlt heq
  have hfirst := hn.ids i _ (List.getElem?_eq_getElem hi)
  have hsecond := hn.ids j _ (List.getElem?_eq_getElem hj)
  rw [heq, hsecond] at hfirst
  have hmod := congrArg UInt64.toNat hfirst
  simp only [UInt64.toNat_ofNat'] at hmod
  omega

/-- A handler can be disconnected while it is one of that very object. -/
theorem disconnect_isOk_iff (h : Heap κ) (o : ObjectId) (id : HandlerId) :
    (∃ found, h.disconnect o id = .ok found) ↔
      ∃ object, h.live? o = some object ∧ id ∈ object.handlers.map (·.id) := by
  constructor
  · rintro ⟨⟨connection, heap⟩, hdone⟩
    obtain ⟨object, hl, hfound, -⟩ := disconnect_ok hdone
    have hid := List.find?_some hfound
    have hmem := List.mem_of_find?_eq_some hfound
    exact ⟨object, hl, List.mem_map.mpr ⟨connection, hmem, beq_iff_eq.mp hid⟩⟩
  · rintro ⟨object, hl, hmem⟩
    obtain ⟨connection, hmem, hid⟩ := List.mem_map.mp hmem
    cases hfound : object.handlers.find? (·.id == id) with
    | none => exact absurd (beq_iff_eq.mpr hid) (List.find?_eq_none.mp hfound connection hmem)
    | some found =>
      exact ⟨(found, h.store o { object with
          handlers := object.handlers.eraseP (·.id == id) }), by
        simp [disconnect, live, hl, hfound, bind, Except.bind, pure, Except.pure]⟩

/-! ## Counts -/

theorem toNat_maxRefs : maxRefs.toNat = 4294967295 := rfl

theorem toNat_add_one {refs : UInt32} (hroom : refs ≠ maxRefs) :
    (refs + 1).toNat = refs.toNat + 1 := by
  have hlt := refs.toNat_lt
  have hne : refs.toNat ≠ 4294967295 := fun heq => hroom (UInt32.toNat_inj.mp heq)
  rw [UInt32.toNat_add, UInt32.toNat_one]
  omega

theorem toNat_sub_one {refs : UInt32} (hsome : refs ≠ 0) : (refs - 1).toNat + 1 = refs.toNat := by
  have hlt := refs.toNat_lt
  have hne : refs.toNat ≠ 0 := fun heq => hsome (UInt32.toNat_inj.mp heq)
  rw [UInt32.toNat_sub, UInt32.toNat_one]
  omega

/-- A count that stands neither at zero nor at its limit. -/
def LiveObject.Counted (object : LiveObject κ) : Prop :=
  object.refs ≠ 0 ∧ object.refs ≠ maxRefs

/-- Every object has a reference, as long as no count was full. -/
def Counting (h : Heap κ) : Prop :=
  h.full = false → ∀ slot ∈ h.slots, ∀ object, slot.live = some object → LiveObject.Counted object

theorem Counting.of_set {g : Heap κ} (hc : h.Counting) (hfull : g.full = false → h.full = false)
    {i : Nat} {new : Slot κ} (hslots : g.slots = h.slots.set i new)
    (hnew : g.full = false → ∀ object, new.live = some object → LiveObject.Counted object) :
    g.Counting := by
  intro hg slot hslot object hlive
  rw [hslots] at hslot
  rcases List.mem_or_eq_of_mem_set hslot with hslot | rfl
  · exact hc (hfull hg) slot hslot object hlive
  · exact hnew hg object hlive

theorem Counting.live (hc : h.Counting) (hfull : h.full = false) {object : LiveObject κ}
    (hl : h.live? o = some object) : LiveObject.Counted object :=
  hc hfull _ (List.mem_of_getElem? (live?_eq_some_iff.mp hl)) object rfl

theorem Counting.store {g : Heap κ} (hc : h.Counting) (hfull : g.full = false → h.full = false)
    {new : LiveObject κ} (hslots : g.slots = (h.store o new).slots)
    (hnew : g.full = false → LiveObject.Counted new) : g.Counting :=
  hc.of_set hfull hslots fun hg _ hobject => Option.some.inj hobject ▸ hnew hg

/-- A count that goes up comes from a count that was not full. -/
theorem Counting.raise (hc : h.Counting) {object : LiveObject κ} (hl : h.live? o = some object)
    {refs : UInt32} (hrefs : refs = maxRefs ∨ refs = object.refs + 1) :
    (h.raise o object refs).Counting := by
  have hfull : (h.raise o object refs).full = false → h.full = false ∧ refs ≠ maxRefs := by
    intro hf
    simpa [Heap.raise, Heap.store] using hf
  refine hc.store (fun hf => (hfull hf).1) rfl fun hf => ?_
  obtain ⟨hbefore, hlimit⟩ := hfull hf
  have hnext := toNat_add_one (hc.live hbefore hl).2
  rw [← hrefs.resolve_left hlimit] at hnext
  refine ⟨?_, hlimit⟩
  rintro rfl
  exact absurd hnext (by simp)

theorem Counting.instantiate (hc : h.Counting) {type : TypeId}
    (hdone : h.instantiate type = .ok (o, h')) : h'.Counting := by
  have hone : LiveObject.Counted (κ := κ) { type, refs := 1 } :=
    ⟨show (1 : UInt32) ≠ 0 by decide, show (1 : UInt32) ≠ maxRefs by decide⟩
  obtain ⟨-, ⟨index, free, -, -, rfl⟩ | ⟨-, -, rfl⟩⟩ := instantiate_ok hdone
  · exact hc.store id rfl fun _ => hone
  · intro hfull slot hslot object hobject
    simp only [Bool.or_eq_false_iff] at hfull
    rcases List.mem_append.mp hslot with hslot | hslot
    · exact hc hfull.1 slot hslot object hobject
    · rw [List.mem_singleton.mp hslot] at hobject
      obtain rfl := Option.some.inj hobject
      exact hone

theorem Counting.unref (hc : h.Counting) {handlers : List (Connection κ)}
    (hdone : h.unref o = .ok (handlers, h')) : h'.Counting := by
  obtain ⟨object, hl, ⟨-, -, rfl⟩ | ⟨hmore, -, rfl⟩⟩ := unref_ok hdone
  · exact hc.of_set id rfl fun _ found hfound => absurd hfound (by simp)
  · refine hc.store id rfl fun hfull => ⟨hmore, ?_⟩
    intro hlimit
    have hback := toNat_sub_one (hc.live hfull hl).1
    have hlt := object.refs.toNat_lt
    rw [show object.refs - 1 = maxRefs from hlimit, toNat_maxRefs] at hback
    omega

theorem Counting.step (hc : h.Counting) (hstep : Step h new h') : h'.Counting := by
  cases hstep with
  | changeTypes hdone => exact hc
  | instantiate hdone => exact hc.instantiate hdone
  | ref hdone =>
    obtain ⟨object, hl, rfl⟩ := ref_ok hdone
    apply hc.raise hl
    unfold countUp
    split
    · rename_i hlimit
      exact Or.inl hlimit
    · exact Or.inr rfl
  | unref hdone => exact hc.unref hdone
  | connect hdone =>
    obtain ⟨object, hl, rfl⟩ := connect_ok hdone
    refine hc.store id rfl fun hfull => ?_
    have hcounted := hc.live hfull hl
    exact hcounted
  | disconnect hdone =>
    obtain ⟨object, hl, -, rfl⟩ := disconnect_ok hdone
    refine hc.store id rfl fun hfull => ?_
    have hcounted := hc.live hfull hl
    exact hcounted
  | beginEmission hdone =>
    obtain ⟨object, hl, rfl, -⟩ := beginEmission_ok hdone
    exact hc.raise hl (Or.inr rfl)

/-- No live object is left with a count of zero, as long as no count was
full. -/
theorem Run.counting (hrun : Run {} es h) : h.Counting := by
  induction hrun with
  | rest => exact fun _ slot hslot => absurd hslot List.not_mem_nil
  | step _ last ih => exact ih.step last

theorem Run.refCount_ne_zero (hrun : Run {} es h) (hfull : h.full = false) (o : ObjectId) :
    h.refCount? o ≠ some 0 := by
  intro hzero
  obtain ⟨object, hl, hrefs⟩ := Option.map_eq_some_iff.mp hzero
  exact (hrun.counting.live hfull hl).1 hrefs

end Heap

end NativeBridge
