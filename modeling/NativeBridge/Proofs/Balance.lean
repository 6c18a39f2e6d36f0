-- The books balance: whatever is counted has as many holders as there are
-- releases for it, held by someone, due now, or pledged. The native side
-- joins in as long as nobody gives up references that are not theirs.
import NativeBridge.Proofs.Accounts

namespace NativeBridge

/-! ## The books -/

/-- Whether a notice tells of a reference that came back too late. -/
def Notice.isLateRelease : Notice → Bool
  | .releaseFailed _ _ => true
  | .defensiveReleaseFailed _ _ => true
  | _ => false

/-- The part of the state that is counted. -/
structure Books where
  heap : Heap Subscriber
  wrappers : SharedTable WrapperRecord
  boxes : SharedTable BoxRecord
  callables : SharedTable Unit
  closures : SharedTable Closure
  callbacks : SharedTable Callback
  /-- The arena of each bridge, with the holders of the bridge. -/
  arenas : SharedTable Arena
  /-- Whether a reference came back too late. -/
  isLate : Bool

def System.books {σ : Type} (s : System σ) : Books where
  heap := s.heap
  wrappers := s.wrappers
  boxes := s.boxes
  callables := s.callables
  closures := s.closures
  callbacks := s.callbacks
  arenas := s.bridges.map (·.arena)
  isLate := s.notices.any (·.isLateRelease)

namespace System

variable {σ : Type}

theorem isBridgeAlive_iff {s : System σ} {r : RuntimeId} :
    s.isBridgeAlive r = true ↔ s.books.arenas.holders r.number ≠ 0 := by
  simp [isBridgeAlive, books]

theorem books_modifyBridge {f : Bridge → Bridge} {g : Arena → Arena} (s : System σ) (r : RuntimeId)
    (h : ∀ b, (f b).arena = g b.arena) :
    (s.modifyBridge r f).books = { s.books with arenas := s.books.arenas.modify r.number g } := by
  simp only [books, modifyBridge]
  rw [SharedTable.map_modify _ _ h]

theorem books_modifyBridge_of_eq {f : Bridge → Bridge} (s : System σ) (r : RuntimeId)
    (h : ∀ b, (f b).arena = b.arena) : (s.modifyBridge r f).books = s.books := by
  simp only [books, modifyBridge]
  rw [SharedTable.map_modify_of_eq _ _ h]

/-- A late release is the only notice that the books take in. -/
theorem books_note (s : System σ) (n : Notice) :
    (s.note n).books = { s.books with isLate := s.books.isLate || n.isLateRelease } := by
  simp [note, books]

theorem books_note_of_not_late (s : System σ) {n : Notice} (h : n.isLateRelease = false) :
    (s.note n).books = s.books := by
  rw [books_note, h, Bool.or_false]

end System

namespace Books

/-- The references of a live object. Other objects have none. -/
def refs (b : Books) (o : ObjectId) : Nat := ((b.heap.refCount? o).map (·.toNat)).getD 0

def holders (b : Books) : Account → Nat
  | .object o => b.refs o
  | .wrapper n => b.wrappers.holders n
  | .box n => b.boxes.holders n
  | .callable n => b.callables.holders n
  | .closure n => b.closures.holders n
  | .callback n => b.callbacks.holders n
  | .bridge n => b.arenas.holders n

/-- What the things that exist will release when they end. -/
def pledged (b : Books) : Multiset Release :=
  b.heap.slots.flatMap Slot.pledge + b.wrappers.pledges WrapperRecord.pledge +
    b.closures.pledges Closure.releases + b.callbacks.pledges Callback.releases +
    b.arenas.pledges Arena.pledge

/-- What one thing will release when it ends. -/
def pledgeOf (b : Books) : Account → List Release
  | .wrapper n => (b.wrappers.get? n).elim [] WrapperRecord.pledge
  | .closure n => (b.closures.get? n).elim [] Closure.releases
  | .callback n => (b.callbacks.get? n).elim [] Callback.releases
  | .bridge n => (b.arenas.get? n).elim [] Arena.pledge
  | .object _ | .box _ | .callable _ => []

/-- A release speaks of something that was made, as it was made. -/
def Knows (b : Books) : Release → Prop
  | .wrapper w => ∃ entry, b.wrappers.get? w.number = some entry ∧ entry.wrapper = w
  | .boxed w => ∃ entry, b.boxes.get? w.number = some entry ∧ entry.wrapper = w
  | .closure c => b.closures.get? c.id.number = some c
  | .callback c => b.callbacks.get? c.number = some c
  | _ => True

/-- A shared thing gets one more holder. -/
def hold (b : Books) : Account → Books
  | .object _ => b
  | .wrapper n => { b with wrappers := b.wrappers.hold n }
  | .box n => { b with boxes := b.boxes.hold n }
  | .callable n => { b with callables := b.callables.hold n }
  | .closure n => { b with closures := b.closures.hold n }
  | .callback n => { b with callbacks := b.callbacks.hold n }
  | .bridge n => { b with arenas := b.arenas.hold n }

/-- A shared thing loses a holder. -/
def drop (b : Books) : Account → Books
  | .object _ => b
  | .wrapper n => { b with wrappers := b.wrappers.drop n }
  | .box n => { b with boxes := b.boxes.dropWith n BoxRecord.finish }
  | .callable n => { b with callables := b.callables.drop n }
  | .closure n => { b with closures := b.closures.drop n }
  | .callback n => { b with callbacks := b.callbacks.drop n }
  | .bridge n => { b with arenas := b.arenas.drop n }

/-! ## What holding and dropping do -/

/-- Two states of the books that differ in holders alone, and in how boxes
ended. -/
structure Alike (b b' : Books) : Prop where
  heap : b'.heap = b.heap
  isLate : b'.isLate = b.isLate
  wrappers : ∀ n, b'.wrappers.get? n = b.wrappers.get? n
  boxes : ∀ n, (b'.boxes.get? n).map (·.wrapper) = (b.boxes.get? n).map (·.wrapper)
  closures : ∀ n, b'.closures.get? n = b.closures.get? n
  callbacks : ∀ n, b'.callbacks.get? n = b.callbacks.get? n
  arenas : ∀ n, b'.arenas.get? n = b.arenas.get? n
  size : b'.arenas.size = b.arenas.size

theorem alike_hold (b : Books) (a : Account) : b.Alike (b.hold a) := by
  cases a <;> constructor <;> simp [hold]

/-- The end of a box leaves its wrapper as it is. -/
theorem wrapper_dropWith (t : SharedTable BoxRecord) (number n : Nat) :
    ((t.dropWith number BoxRecord.finish).get? n).map (·.wrapper) =
      (t.get? n).map (·.wrapper) := by
  rw [SharedTable.get?_dropWith]
  split
  · rw [Option.map_map]
    rfl
  · rfl

theorem alike_drop (b : Books) (a : Account) : b.Alike (b.drop a) := by
  cases a <;> constructor <;> simp [drop, wrapper_dropWith]

theorem Alike.knows {b b' : Books} (h : b.Alike b') {t : Release} (ht : b.Knows t) :
    b'.Knows t := by
  cases t with
  | boxed w =>
    have hwrapper := h.boxes w.number
    obtain ⟨entry, hentry, rfl⟩ := ht
    rw [hentry] at hwrapper
    exact Option.map_eq_some_iff.mp hwrapper
  | _ => simp_all [Knows, h.wrappers, h.closures, h.callbacks]

theorem holders_hold {b : Books} {a : Account} (ha : a.IsShared) (hb : b.holders a ≠ 0)
    (a' : Account) : (b.hold a).holders a' = b.holders a' + if a = a' then 1 else 0 := by
  have hsize {α : Type} {t : SharedTable α} {n : Nat} (h : t.holders n ≠ 0) (m : Nat) :
      (t.hold n).holders m = t.holders m + if n = m then 1 else 0 := by
    rw [SharedTable.holders_hold]
    by_cases hm : m = n
    · subst hm
      simp [SharedTable.lt_size_of_holders h]
    · have hne : n ≠ m := fun hn => hm hn.symm
      simp [hm, hne]
  cases a with
  | object o => exact absurd ha id
  | _ n => cases a' <;> first | rfl | simp [hold, holders, hsize hb]

theorem holders_drop {b : Books} {a : Account} (ha : a.IsShared) (a' : Account) :
    (b.drop a).holders a' = b.holders a' - if a = a' then 1 else 0 := by
  have hdrop {α : Type} (t : SharedTable α) (n m : Nat) :
      (t.drop n).holders m = t.holders m - if n = m then 1 else 0 := by
    rw [SharedTable.holders_drop]
    by_cases hm : m = n
    · subst hm
      simp
    · have hne : n ≠ m := fun hn => hm hn.symm
      simp [hm, hne]
  cases a with
  | object o => exact absurd ha id
  | box n =>
    have hsame (m : Nat) : (b.boxes.dropWith n BoxRecord.finish).holders m =
        (b.boxes.drop n).holders m := by
      rw [SharedTable.holders_dropWith, SharedTable.holders_drop]
    cases a' <;> first | rfl | simp [drop, holders, hsame, hdrop]
  | _ n => cases a' <;> first | rfl | simp [drop, holders, hdrop]

theorem pledged_hold {b : Books} {a : Account} (hb : b.holders a ≠ 0) :
    (b.hold a).pledged = b.pledged := by
  cases a <;> simp only [holders] at hb <;> simp [hold, pledged, SharedTable.pledges_hold, hb]

theorem pledged_drop_of_ne {b : Books} {a : Account} (hb : b.holders a ≠ 1) :
    (b.drop a).pledged = b.pledged := by
  cases a <;> simp only [holders] at hb <;>
    simp [drop, pledged, SharedTable.pledges_drop_of_ne, hb]

/-- The end of a thing releases what it pledged. -/
theorem pledged_drop_last {b : Books} {a : Account} (ha : a.IsShared) (hb : b.holders a = 1) :
    b.pledged = b.pledgeOf a + (b.drop a).pledged := by
  have hlast {α : Type} {t : SharedTable α} {n : Nat} (pledge : α → List Release)
      (h : t.holders n = 1) :
      t.pledges pledge = (t.get? n).elim [] pledge + (t.drop n).pledges pledge := by
    obtain ⟨x, hx⟩ := SharedTable.get?_of_holders (t := t) (n := n) (by omega)
    rw [hx]
    exact SharedTable.pledges_drop_last pledge h hx
  cases a with
  | object o => exact absurd ha id
  | box n => simp [pledged, drop, pledgeOf]
  | callable n => simp [pledged, drop, pledgeOf]
  | wrapper n =>
    simp only [pledged, drop, pledgeOf]
    rw [hlast WrapperRecord.pledge hb]
    abel
  | closure n =>
    simp only [pledged, drop, pledgeOf]
    rw [hlast Closure.releases hb]
    abel
  | callback n =>
    simp only [pledged, drop, pledgeOf]
    rw [hlast Callback.releases hb]
    abel
  | bridge n =>
    simp only [pledged, drop, pledgeOf]
    rw [hlast Arena.pledge hb]
    abel

/-- What a holder that ends releases. -/
theorem pledged_drop {b : Books} {a : Account} (ha : a.IsShared) :
    b.pledged = (if b.holders a = 1 then b.pledgeOf a else [] : List Release) +
      (b.drop a).pledged := by
  by_cases hb : b.holders a = 1
  · rw [if_pos hb]
    exact pledged_drop_last ha hb
  · rw [if_neg hb, pledged_drop_of_ne hb, Multiset.coe_nil, zero_add]

/-- What a thing in use pledges is pledged. -/
theorem mem_pledged_of_mem_pledgeOf {b : Books} {a : Account} {t : Release}
    (hb : b.holders a ≠ 0) (ht : t ∈ b.pledgeOf a) : t ∈ b.pledged := by
  have hmem {α : Type} {table : SharedTable α} {n : Nat} (pledge : α → List Release)
      (h : table.holders n ≠ 0) (ht : t ∈ (table.get? n).elim [] pledge) :
      t ∈ table.pledges pledge := by
    obtain ⟨x, hx⟩ := SharedTable.get?_of_holders h
    rw [hx] at ht
    exact SharedTable.mem_pledges.mpr ⟨n, x, hx, h, ht⟩
  simp only [pledged, Multiset.mem_add]
  cases a with
  | wrapper n => exact Or.inl (Or.inl (Or.inl (Or.inr (hmem _ hb ht))))
  | closure n => exact Or.inl (Or.inl (Or.inr (hmem _ hb ht)))
  | callback n => exact Or.inl (Or.inr (hmem _ hb ht))
  | bridge n => exact Or.inr (hmem _ hb ht)
  | object o => exact absurd ht List.not_mem_nil
  | box n => exact absurd ht List.not_mem_nil
  | callable n => exact absurd ht List.not_mem_nil

/-- The wrappers that an arena keeps are pledged. -/
theorem mem_pledged_of_mem_borrowed {b : Books} {n : Nat} {a : Arena} {w : ObjectWrapper}
    (hn : b.arenas.holders n ≠ 0) (ha : b.arenas.get? n = some a) (hw : w ∈ a.borrowed) :
    .wrapper w ∈ b.pledged := by
  apply mem_pledged_of_mem_pledgeOf (a := .bridge n) hn
  simp only [pledgeOf, ha, Option.elim_some]
  exact List.mem_flatMap.mpr ⟨w, hw, List.mem_cons_self⟩

theorem arenas_hold_eq_zero {b : Books} {a : Account} (hb : b.holders a ≠ 0) (n : Nat) :
    (b.hold a).arenas.holders n = 0 ↔ b.arenas.holders n = 0 := by
  cases a with
  | bridge m => exact SharedTable.holders_hold_eq_zero hb n
  | _ => rfl

theorem arenas_drop_eq_zero {b : Books} {a : Account}
    (hb : ∀ m, a = .bridge m → b.arenas.holders m ≠ 1) (n : Nat) :
    (b.drop a).arenas.holders n = 0 ↔ b.arenas.holders n = 0 := by
  cases a with
  | bridge m => exact SharedTable.holders_drop_eq_zero (hb m rfl) n
  | _ => rfl

end Books

/-! ## The invariant -/

/-- How native holders behave: they release only the references that they
hold, or they may release any. -/
inductive Conduct where
  | fair
  | any
  deriving DecidableEq, Repr

/-- The arena of a bridge has one entry for an object, for a wrapper that
the bridge made. -/
structure Arena.Filed (a : Arena) (b : Books) (r : Nat) : Prop where
  keys_nodup : (a.entries.entries.map (·.1)).Nodup
  known : ∀ o w, (o, w) ∈ a.entries.entries → w.object = o ∧
    ∃ entry, b.wrappers.get? w.number = some entry ∧ entry.wrapper = w ∧ entry.maker.number = r

/-- Free slots are empty, and stand on the list once. -/
structure Heap.Sorted (h : Heap Subscriber) : Prop where
  free_nodup : h.free.Nodup
  free_empty : ∀ i ∈ h.free, ∃ slot, h.slots[i.toNat]? = some slot ∧ slot.live = none

/-- A slot changes, and if it is free afterwards it is empty. -/
theorem Heap.Sorted.set {h g : Heap Subscriber} (hs : h.Sorted) {index : UInt32}
    {slot : Slot Subscriber} (hlt : index.toNat < h.slots.length)
    (hslots : g.slots = h.slots.set index.toNat slot) (hnodup : g.free.Nodup)
    (hempty : index ∈ g.free → slot.live = none)
    (hfree : ∀ i ∈ g.free, i ≠ index → i ∈ h.free) : g.Sorted := by
  refine ⟨hnodup, fun i hi => ?_⟩
  rw [hslots]
  by_cases heq : i = index
  · subst heq
    exact ⟨slot, List.getElem?_set_self hlt, hempty hi⟩
  · rw [List.getElem?_set_ne fun hindex => heq (UInt32.toNat_inj.mp hindex).symm]
    exact hs.free_empty i (hfree i hi heq)

namespace Books

/-- How the things of the books are put down. -/
structure Formed (b : Books) : Prop where
  numbered : ∀ n entry, b.wrappers.get? n = some entry →
    entry.wrapper.number = n ∧ entry.maker.number < b.arenas.size
  filed : ∀ r a, b.arenas.get? r = some a → a.Filed b r
  sorted : b.heap.Sorted

/-- Shared things have as many holders as there are releases for them. -/
structure Counts (b : Books) (all : Multiset Release) : Prop where
  known : ∀ t ∈ all, b.Knows t
  counted : ∀ a : Account, a.IsShared → b.holders a = tally a all

/-- While its bridge is in use, a wrapper has its entry in the arena. An
owned wrapper gives a reference back, and with fair holders any other does
only if it was handed one at the end of the bridge. -/
structure Stands (b : Books) (c : Conduct) (w : ObjectWrapper) (entry : WrapperRecord) : Prop where
  listed : b.arenas.holders entry.maker.number ≠ 0 →
    ∃ a, b.arenas.get? entry.maker.number = some a ∧ a.find? w.object = some w
  owning : c = .fair →
    (entry.releases = true ↔ w.ownership = .owned ∨ b.arenas.holders entry.maker.number = 0)
  gives : w.ownership = .owned → entry.releases = true

/-- Objects have as many references as there are releases for them. -/
structure Exact (b : Books) (all : Multiset Release) : Prop where
  counted : ∀ o, b.refs o = tally (.object o) all
  positive : ∀ o, b.heap.isAlive o = true → b.refs o ≠ 0
  bounded : ∀ o, b.refs o < Heap.maxRefs.toNat
  in_time : b.isLate = false

/-- The wrappers in use that one bridge made are of different objects. -/
def Single (b : Books) : Prop :=
  ∀ n n' entry entry', b.wrappers.get? n = some entry → b.wrappers.get? n' = some entry' →
    b.wrappers.holders n ≠ 0 → b.wrappers.holders n' ≠ 0 →
    entry.maker.number = entry'.maker.number → entry.wrapper.object = entry'.wrapper.object →
    n = n'

end Books

/-- The books balance with what is due and what is held. What is due is
about to end, and so it need not stand. -/
structure Balanced (c : Conduct) (due held : Multiset Release) (b : Books) : Prop where
  formed : b.Formed
  counts : b.Counts (due + (held + b.pledged))
  standing : ∀ w, .wrapper w ∈ held + b.pledged →
    ∀ entry, b.wrappers.get? w.number = some entry → b.Stands c w entry
  exact : c = .fair → b.heap.full = false → b.Exact (due + (held + b.pledged))
  single : b.Single

namespace Arena.Filed

variable {a : Arena} {b : Books} {r : Nat}

theorem find?_eq_some (h : a.Filed b r) {o : ObjectId} {w : ObjectWrapper} :
    a.find? o = some w ↔ (o, w) ∈ a.entries.entries :=
  ⟨Table.mem_of_find, Table.find_of_mem h.keys_nodup⟩

/-- A wrapper in the arena is found under its object, and on record. -/
theorem of_mem (h : a.Filed b r) {w : ObjectWrapper} (hw : w ∈ a.wrappers) :
    a.find? w.object = some w ∧
      ∃ entry, b.wrappers.get? w.number = some entry ∧ entry.wrapper = w ∧
        entry.maker.number = r := by
  obtain ⟨⟨o, w'⟩, hmem, rfl⟩ := List.mem_map.mp hw
  obtain ⟨hobject, hentry⟩ := h.known o w' hmem
  subst hobject
  exact ⟨h.find?_eq_some.mpr hmem, hentry⟩

theorem mem_of_find? {o : ObjectId} {w : ObjectWrapper} (h : a.find? o = some w) :
    w ∈ a.wrappers :=
  List.mem_map_of_mem (f := (·.2)) (Table.mem_of_find h)

/-- Wrappers in an arena have different numbers. -/
theorem numbers_nodup (h : a.Filed b r) : (a.wrappers.map (·.number)).Nodup := by
  have hobjects : a.wrappers.map (·.object) = a.entries.entries.map (·.1) := by
    unfold wrappers
    rw [List.map_map]
    apply List.map_congr_left
    intro p hp
    exact (h.known p.1 p.2 hp).1
  have hnodup : a.wrappers.Nodup := by
    apply List.Nodup.of_map (·.object)
    rw [hobjects]
    exact h.keys_nodup
  apply hnodup.map_on
  intro w hw w' hw' heq
  obtain ⟨-, entry, hentry, rfl, -⟩ := h.of_mem hw
  obtain ⟨-, entry', hentry', rfl, -⟩ := h.of_mem hw'
  rw [heq, hentry'] at hentry
  rw [Option.some.inj hentry]

end Arena.Filed

namespace Books

variable {b b' : Books} {c : Conduct}

/-- The wrappers on record stay there, as they were made. -/
def Retains (b b' : Books) : Prop :=
  ∀ n old, b.wrappers.get? n = some old → ∃ entry, b'.wrappers.get? n = some entry ∧
    entry.wrapper = old.wrapper ∧ entry.maker = old.maker

theorem Retains.of_get? (h : ∀ n, b'.wrappers.get? n = b.wrappers.get? n) : b.Retains b' :=
  fun n old hold => ⟨old, by rw [h, hold], rfl, rfl⟩

theorem Retains.filed (h : b.Retains b') {a : Arena} {r : Nat} (ha : a.Filed b r) :
    a.Filed b' r where
  keys_nodup := ha.keys_nodup
  known o w hw := by
    obtain ⟨hobject, old, hold, rfl, hmaker⟩ := ha.known o w hw
    obtain ⟨entry, hentry, hwrapper, hmaker'⟩ := h _ old hold
    exact ⟨hobject, entry, hentry, hwrapper, by rw [hmaker', hmaker]⟩

theorem Retains.knows_wrapper (h : b.Retains b') {w : ObjectWrapper} (hw : b.Knows (.wrapper w)) :
    b'.Knows (.wrapper w) := by
  obtain ⟨old, hold, rfl⟩ := hw
  obtain ⟨entry, hentry, hwrapper, -⟩ := h _ old hold
  exact ⟨entry, hentry, hwrapper⟩

theorem Formed.alike (h : b.Formed) (hb : b.Alike b') : b'.Formed where
  numbered n entry hn := by
    rw [hb.wrappers] at hn
    rw [hb.size]
    exact h.numbered n entry hn
  filed r a hr := by
    rw [hb.arenas] at hr
    exact (Retains.of_get? hb.wrappers).filed (h.filed r a hr)
  sorted := by
    rw [hb.heap]
    exact h.sorted

/-- Only wrappers, arenas and free slots are formed. -/
theorem Formed.of_eq (h : b.Formed) (hwrappers : b'.wrappers = b.wrappers)
    (harenas : b'.arenas = b.arenas) (hsorted : b'.heap.Sorted) : b'.Formed where
  numbered := by
    rw [hwrappers, harenas]
    exact h.numbered
  filed r a hr := by
    rw [harenas] at hr
    have hretains : b.Retains b' := Retains.of_get? fun n => by rw [hwrappers]
    exact hretains.filed (h.filed r a hr)
  sorted := hsorted

theorem Stands.of_eq {w : ObjectWrapper} {entry : WrapperRecord} (h : b.Stands c w entry)
    (harenas : b'.arenas = b.arenas) : b'.Stands c w entry where
  listed := by
    rw [harenas]
    exact h.listed
  owning := by
    rw [harenas]
    exact h.owning
  gives := h.gives

theorem Stands.alike {w : ObjectWrapper} {entry : WrapperRecord} (h : b.Stands c w entry)
    (hb : b.Alike b') (hzero : ∀ n, b'.arenas.holders n = 0 ↔ b.arenas.holders n = 0) :
    b'.Stands c w entry where
  listed hused := by
    rw [hb.arenas]
    exact h.listed fun hn => hused ((hzero _).mpr hn)
  owning hc := by
    rw [hzero]
    exact h.owning hc
  gives := h.gives

theorem Exact.of_heap {all all' : Multiset Release} (h : b.Exact all) (hheap : b'.heap = b.heap)
    (hlate : b'.isLate = b.isLate)
    (hall : ∀ o, tally (.object o) all' = tally (.object o) all) : b'.Exact all' := by
  have hrefs : ∀ o, b'.refs o = b.refs o := by
    intro o
    simp only [Books.refs, hheap]
  refine ⟨?_, ?_, ?_, by rw [hlate, h.in_time]⟩
  · intro o
    rw [hrefs, h.counted, hall]
  · intro o ho
    rw [hheap] at ho
    rw [hrefs]
    exact h.positive o ho
  · intro o
    rw [hrefs]
    exact h.bounded o

/-- Wrappers that go out of use, and changes of what else is on record. -/
theorem Single.mono (h : b.Single)
    (hold : ∀ n entry, b'.wrappers.get? n = some entry → b'.wrappers.holders n ≠ 0 →
      b.wrappers.holders n ≠ 0 ∧ ∃ old, b.wrappers.get? n = some old ∧
        old.wrapper = entry.wrapper ∧ old.maker = entry.maker) : b'.Single := by
  intro n n' entry entry' hn hn' hused hused' hmaker hobject
  obtain ⟨hheld, old, hget, hw, hm⟩ := hold n entry hn hused
  obtain ⟨hheld', old', hget', hw', hm'⟩ := hold n' entry' hn' hused'
  apply h n n' old old' hget hget' hheld hheld'
  · rw [hm, hm', hmaker]
  · rw [hw, hw', hobject]

/-- Two releases for one shared thing are the same. -/
theorem knows_unique {t t' : Release} (ht : b.Knows t) (ht' : b.Knows t')
    (hs : t.account.IsShared) (ha : t.account = t'.account) : t = t' := by
  cases t <;> cases t' <;> simp only [Release.account, reduceCtorEq, Account.wrapper.injEq,
    Account.box.injEq, Account.callable.injEq, Account.closure.injEq, Account.callback.injEq,
    Account.bridge.injEq] at ha
  case wrapper.wrapper w w' =>
    obtain ⟨entry, hentry, rfl⟩ := ht
    obtain ⟨entry', hentry', rfl⟩ := ht'
    rw [ha, hentry'] at hentry
    rw [Option.some.inj hentry]
  case boxed.boxed w w' =>
    obtain ⟨entry, hentry, rfl⟩ := ht
    obtain ⟨entry', hentry', rfl⟩ := ht'
    rw [ha, hentry'] at hentry
    rw [Option.some.inj hentry]
  case callable.callable x y => cases x; cases y; simp_all
  case closure.closure x y =>
    simp only [Knows] at ht ht'
    rw [ha, ht'] at ht
    rw [Option.some.inj ht]
  case callback.callback x y =>
    simp only [Knows] at ht ht'
    rw [ha, ht'] at ht
    rw [Option.some.inj ht]
  case bridge.bridge x y => cases x; cases y; simp_all
  all_goals exact absurd hs id

end Books

namespace Balanced

variable {c : Conduct} {due held : Multiset Release} {b : Books} {t : Release}

/-- What has holders is held by someone or pledged. -/
theorem mem_of_holders (h : Balanced c 0 held b) (ht : b.Knows t) (hs : t.account.IsShared)
    (hb : b.holders t.account ≠ 0) : t ∈ held + b.pledged := by
  have hcounted := h.counts.counted t.account hs
  rw [zero_add] at hcounted
  rw [hcounted] at hb
  obtain ⟨t', ht', ha⟩ := exists_mem_of_tally hb
  have hknown := h.counts.known t' (by rwa [zero_add])
  have heq : t = t' := Books.knows_unique ht hknown hs ha.symm
  rwa [heq]

theorem tally_cons_of_isShared {t : Release} (hs : t.account.IsShared) (o : ObjectId)
    (l : Multiset Release) : tally (.object o) (t ::ₘ l) = tally (.object o) l := by
  have hne : t.account ≠ .object o := by
    intro ha
    rw [ha] at hs
    exact hs
  rw [tally_cons, if_neg hne, Nat.add_zero]

/-- Another holder of what someone holds. -/
theorem hold (h : Balanced c 0 held b) (hs : t.account.IsShared) (ht : t ∈ held + b.pledged) :
    Balanced c 0 (t ::ₘ held) (b.hold t.account) := by
  have halike := b.alike_hold t.account
  have hpos : b.holders t.account ≠ 0 := by
    rw [h.counts.counted _ hs, zero_add]
    exact tally_ne_zero_of_mem ht
  have hall : 0 + (t ::ₘ held + (b.hold t.account).pledged) = t ::ₘ (0 + (held + b.pledged)) := by
    rw [Books.pledged_hold hpos, zero_add, zero_add, Multiset.cons_add]
  refine ⟨h.formed.alike halike, ⟨?_, ?_⟩, ?_, ?_, ?_⟩
  · intro t' ht'
    rw [hall, zero_add] at ht'
    apply halike.knows
    apply h.counts.known
    rw [zero_add]
    rcases Multiset.mem_cons.mp ht' with rfl | ht'
    · exact ht
    · exact ht'
  · intro a ha
    rw [Books.holders_hold hs hpos, hall, tally_cons, h.counts.counted a ha]
  · intro w hw entry hentry
    rw [Books.pledged_hold hpos, Multiset.cons_add] at hw
    rw [halike.wrappers] at hentry
    have hstands : b.Stands c w entry := by
      rcases Multiset.mem_cons.mp hw with rfl | hw
      · exact h.standing w ht entry hentry
      · exact h.standing w hw entry hentry
    exact hstands.alike halike (Books.arenas_hold_eq_zero hpos)
  · intro hc hfull
    rw [halike.heap] at hfull
    apply (h.exact hc hfull).of_heap halike.heap halike.isLate
    intro o
    rw [hall, tally_cons_of_isShared hs]
  · apply h.single.mono
    intro n entry hn hused
    rw [halike.wrappers] at hn
    refine ⟨?_, entry, hn, rfl, rfl⟩
    have hholders := Books.holders_hold hs hpos (.wrapper n)
    simp only [Books.holders] at hholders
    intro hzero
    rw [hholders, hzero, zero_add] at hused
    have heq : t.account = .wrapper n := by
      by_contra hne
      exact hused (if_neg hne)
    rw [heq] at hpos
    exact hpos hzero

/-- A holder that ends releases what ends with it. The end of a bridge is
not covered. -/
theorem drop (h : Balanced c (t ::ₘ due) held b) (hs : t.account.IsShared)
    (hbridge : ∀ n, t.account = .bridge n → b.arenas.holders n ≠ 1) :
    Balanced c ((if b.holders t.account = 1 then b.pledgeOf t.account else []) + due) held
      (b.drop t.account) := by
  have halike := b.alike_drop t.account
  have hpledged := Books.pledged_drop (b := b) hs
  have hall : t ::ₘ due + (held + b.pledged) =
      t ::ₘ ((if b.holders t.account = 1 then b.pledgeOf t.account else [] : List Release) + due +
        (held + (b.drop t.account).pledged)) := by
    rw [hpledged, Multiset.cons_add]
    congr 1
    abel
  have hcounts := h.counts
  rw [hall] at hcounts
  refine ⟨h.formed.alike halike, ⟨?_, ?_⟩, ?_, ?_, ?_⟩
  · intro t' ht'
    apply halike.knows
    exact hcounts.known t' (Multiset.mem_cons_of_mem ht')
  · intro a ha
    rw [Books.holders_drop hs, hcounts.counted a ha, tally_cons]
    omega
  · intro w hw entry hentry
    rw [halike.wrappers] at hentry
    have hmem : .wrapper w ∈ held + b.pledged := by
      rw [hpledged]
      rcases Multiset.mem_add.mp hw with hw | hw
      · exact Multiset.mem_add.mpr (Or.inl hw)
      · exact Multiset.mem_add.mpr (Or.inr (Multiset.mem_add.mpr (Or.inr hw)))
    apply (h.standing w hmem entry hentry).alike halike
    exact Books.arenas_drop_eq_zero hbridge
  · intro hc hfull
    rw [halike.heap] at hfull
    apply (h.exact hc hfull).of_heap halike.heap halike.isLate
    intro o
    rw [hall, tally_cons_of_isShared hs]
  · apply h.single.mono
    intro n entry hn hused
    rw [halike.wrappers] at hn
    refine ⟨?_, entry, hn, rfl, rfl⟩
    have hholders := Books.holders_drop (b := b) hs (.wrapper n)
    simp only [Books.holders] at hholders
    omega

end Balanced

end NativeBridge
