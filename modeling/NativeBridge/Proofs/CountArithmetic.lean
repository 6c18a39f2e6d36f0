-- The arithmetic of reference counts. A reference that is taken stops at the
-- limit of the count, the one of an emission does not. As long as no emission
-- starts at an object whose count is at the limit, all operations do what they
-- would do in numbers without bounds, and every live object has a reference;
-- and never otherwise.
import NativeBridge.Proofs.ClosureLifetimes
import NativeBridge.Proofs.Emissions

namespace NativeBridge

namespace Heap

variable {κ : Type}

/-! ## Operations -/

/-- One thing that is done to a heap. An emission is its start, whatever its
handlers do, and the release of its reference. -/
inductive Operation (κ : Type) where
  | changeTypes (change : TypeChange)
  | instantiate (type : TypeId)
  | ref (o : ObjectId)
  | unref (o : ObjectId)
  | connect (o : ObjectId) (signal : String) (closure : κ) (after : Bool)
  | disconnect (o : ObjectId) (id : HandlerId)
  | startEmission (o : ObjectId) (signal : String) (args : List NativeValue)

namespace Operation

/-- The heap after an operation, or the error that it fails with. -/
def attempt (h : Heap κ) : Operation κ → Except NativeError (Heap κ)
  | changeTypes change => (change.apply h.types).map fun types => { h with types }
  | instantiate type => (h.instantiate type).map (·.2)
  | ref o => h.ref o
  | unref o => (h.unref o).map (·.2)
  | connect o signal closure after => (h.connect o signal closure after).map (·.2)
  | disconnect o id => (h.disconnect o id).map (·.2)
  | startEmission o signal args => (h.beginEmission o signal args).map (·.2)

/-- An operation that fails changes nothing. -/
def perform (h : Heap κ) (op : Operation κ) : Heap κ :=
  match op.attempt h with
  | .ok h' => h'
  | .error _ => h

def performAll (h : Heap κ) (ops : List (Operation κ)) : Heap κ := ops.foldl perform h

variable {h h' : Heap κ} {op : Operation κ} {o p : ObjectId} {es : List (Event κ)}

theorem perform_of_ok (hok : op.attempt h = .ok h') : op.perform h = h' := by
  unfold perform
  rw [hok]

theorem perform_of_error {e : NativeError} (herror : op.attempt h = .error e) :
    op.perform h = h := by
  unfold perform
  rw [herror]

theorem performAll_snoc (h : Heap κ) (ops : List (Operation κ)) (op : Operation κ) :
    performAll h (ops ++ [op]) = op.perform (performAll h ops) :=
  List.foldl_concat perform h op ops

/-- An operation with another result beside the heap. -/
theorem snd_eq_ok {ε α β : Type} {x : Except ε (α × β)} {y : β} (h : x.map (·.2) = .ok y) :
    ∃ a, x = .ok (a, y) := by
  cases x with
  | error e => exact absurd h (by simp [Except.map])
  | ok pair =>
    obtain rfl := Except.ok.inj h
    exact ⟨pair.1, rfl⟩

/-- Every step of a heap is an operation. -/
theorem of_step (hstep : Step h es h') : ∃ op : Operation κ, op.attempt h = .ok h' := by
  cases hstep with
  | @changeTypes change types hdone => exact ⟨.changeTypes change, by rw [attempt, hdone]; rfl⟩
  | @instantiate type o heap hdone => exact ⟨.instantiate type, by rw [attempt, hdone]; rfl⟩
  | @ref o heap hdone => exact ⟨.ref o, hdone⟩
  | @unref o handlers heap hdone => exact ⟨.unref o, by rw [attempt, hdone]; rfl⟩
  | @connect o signal closure after id heap hdone =>
    exact ⟨.connect o signal closure after, by rw [attempt, hdone]; rfl⟩
  | @disconnect o id connection heap hdone => exact ⟨.disconnect o id, by rw [attempt, hdone]; rfl⟩
  | @beginEmission o signal args emission heap hdone =>
    exact ⟨.startEmission o signal args, by rw [attempt, hdone]; rfl⟩

theorem of_run (hrun : Run h es h') : ∃ ops, performAll h ops = h' := by
  induction hrun with
  | rest => exact ⟨[], rfl⟩
  | step _ last ih =>
    obtain ⟨ops, hops⟩ := ih
    obtain ⟨op, hop⟩ := of_step last
    refine ⟨ops ++ [op], ?_⟩
    rw [performAll_snoc, hops, perform_of_ok hop]

/-! ## Counts as numbers -/

/-- The object that an operation is about. -/
def object? : Operation κ → Option ObjectId
  | changeTypes _ | instantiate _ => none
  | ref o | unref o | connect o _ _ _ | disconnect o _ | startEmission o _ _ => some o

/-- What an operation makes of a count in numbers without bounds. A reference
that is taken at the limit is not counted, and with the last one the object is
gone. -/
def reckon (n : Nat) : Operation κ → Option Nat
  | ref _ => some (min (n + 1) maxRefs.toNat)
  | unref _ => if n = 1 then none else some (n - 1)
  | startEmission _ _ _ => some (n + 1)
  | _ => some n

end Operation

def count? (h : Heap κ) (o : ObjectId) : Option Nat := (h.refCount? o).map UInt32.toNat

namespace Operation

/-- Whether an operation that succeeds does to the count of its object what it
does in numbers without bounds, and leaves all other objects alone. -/
def IsExact (h : Heap κ) (op : Operation κ) : Prop :=
  ∀ h' o, op.attempt h = .ok h' → op.object? = some o →
    ∃ n, h.count? o = some n ∧ h'.count? o = op.reckon n ∧ ∀ p, p ≠ o → h'.live? p = h.live? p

/-- Whether an operation is the start of an emission at an object whose count
is at the limit. -/
def StartsFull (h : Heap κ) : Operation κ → Prop
  | startEmission o signal args =>
    h.refCount? o = some maxRefs ∧ ∃ started, h.beginEmission o signal args = .ok started
  | _ => False

end Operation

/-! ## The arithmetic -/

theorem toNat_countUp (refs : UInt32) :
    (countUp refs).toNat = min (refs.toNat + 1) maxRefs.toNat := by
  have hlt := refs.toNat_lt
  rw [toNat_maxRefs]
  unfold countUp
  split
  · rename_i hfull
    rw [hfull, toNat_maxRefs]
    rfl
  · rename_i hroom
    have hne : refs.toNat ≠ 4294967295 := fun heq => hroom (UInt32.toNat_inj.mp heq)
    rw [toNat_add_one hroom, Nat.min_eq_left (by omega)]

theorem countUp_ne_zero (refs : UInt32) : countUp refs ≠ 0 := by
  intro hzero
  have hcount := toNat_countUp refs
  rw [hzero, toNat_maxRefs, UInt32.toNat_zero] at hcount
  omega

/-! ## What operations do to counts -/

section

variable {h h' : Heap κ} {op : Operation κ} {o p : ObjectId} {object : LiveObject κ}

theorem count?_of_live (hl : h.live? o = some object) : h.count? o = some object.refs.toNat := by
  simp [count?, refCount?, hl]

theorem count?_raise (hl : h.live? o = some object) (refs : UInt32) :
    (h.raise o object refs).count? o = some refs.toNat :=
  count?_of_live (live?_store_self { object with refs } (h := { h with full := _ }) hl)

theorem live?_raise_ne (hl : h.live? o = some object) (refs : UInt32) (hp : p ≠ o) :
    (h.raise o object refs).live? p = h.live? p :=
  live?_store_ne (h := { h with full := _ }) { object with refs } hl hp

/-- Every object in a slot has a reference. -/
def Referenced (h : Heap κ) : Prop :=
  ∀ slot ∈ h.slots, ∀ object, slot.live = some object → object.refs ≠ 0

theorem Referenced.live (hr : h.Referenced) (hl : h.live? o = some object) : object.refs ≠ 0 :=
  hr _ (List.mem_of_getElem? (live?_eq_some_iff.mp hl)) object rfl

theorem Referenced.of_set {g : Heap κ} (hr : h.Referenced) {i : Nat} {new : Slot κ}
    (hslots : g.slots = h.slots.set i new)
    (hnew : ∀ object, new.live = some object → object.refs ≠ 0) : g.Referenced := by
  intro slot hslot object hlive
  rw [hslots] at hslot
  rcases List.mem_or_eq_of_mem_set hslot with hslot | rfl
  · exact hr slot hslot object hlive
  · exact hnew object hlive

theorem Referenced.store {g : Heap κ} (hr : h.Referenced) {new : LiveObject κ}
    (hslots : g.slots = (h.store o new).slots) (hnew : new.refs ≠ 0) : g.Referenced :=
  hr.of_set hslots fun _ hobject => Option.some.inj hobject ▸ hnew

theorem Referenced.instantiate (hr : h.Referenced) {type : TypeId}
    (hdone : h.instantiate type = .ok (o, h')) : h'.Referenced := by
  have hone : (1 : UInt32) ≠ 0 := by decide
  obtain ⟨-, ⟨index, free, -, -, rfl⟩ | ⟨-, -, rfl⟩⟩ := instantiate_ok hdone
  · exact hr.store rfl hone
  · intro slot hslot object hobject
    rcases List.mem_append.mp hslot with hslot | hslot
    · exact hr slot hslot object hobject
    · rw [List.mem_singleton.mp hslot] at hobject
      exact Option.some.inj hobject ▸ hone

theorem Referenced.unref (hr : h.Referenced) {handlers : List (Connection κ)}
    (hdone : h.unref o = .ok (handlers, h')) : h'.Referenced := by
  obtain ⟨object, hl, ⟨-, -, rfl⟩ | ⟨hmore, -, rfl⟩⟩ := unref_ok hdone
  · exact hr.of_set rfl fun _ hobject => absurd hobject (by simp)
  · exact hr.store rfl hmore

/-- The start of an emission is the only operation that can leave an object
without references. -/
theorem Referenced.attempt (hr : h.Referenced) (hroom : ¬ op.StartsFull h)
    (hok : op.attempt h = .ok h') : h'.Referenced := by
  cases op with
  | changeTypes change =>
    change (change.apply h.types).map _ = _ at hok
    cases hchange : change.apply h.types with
    | error e => exact absurd hok (by simp [hchange, Except.map])
    | ok types =>
      rw [hchange] at hok
      obtain rfl := Except.ok.inj hok
      exact hr
  | instantiate type =>
    obtain ⟨o, hdone⟩ := Operation.snd_eq_ok hok
    exact hr.instantiate hdone
  | ref o =>
    obtain ⟨object, hl, rfl⟩ := ref_ok hok
    exact hr.store rfl (countUp_ne_zero object.refs)
  | unref o =>
    obtain ⟨handlers, hdone⟩ := Operation.snd_eq_ok hok
    exact hr.unref hdone
  | connect o signal closure after =>
    obtain ⟨id, hdone⟩ := Operation.snd_eq_ok hok
    obtain ⟨object, hl, rfl⟩ := connect_ok hdone
    have hrefs := hr.live hl
    exact hr.store rfl hrefs
  | disconnect o id =>
    obtain ⟨connection, hdone⟩ := Operation.snd_eq_ok hok
    obtain ⟨object, hl, -, rfl⟩ := disconnect_ok hdone
    have hrefs := hr.live hl
    exact hr.store rfl hrefs
  | startEmission o signal args =>
    obtain ⟨emission, hdone⟩ := Operation.snd_eq_ok hok
    obtain ⟨object, hl, rfl, -⟩ := beginEmission_ok hdone
    have hlow : object.refs ≠ maxRefs := by
      intro hfull
      exact hroom ⟨by simp [refCount?, hl, hfull], _, hdone⟩
    refine hr.store rfl fun hzero => ?_
    have hnext := toNat_add_one hlow
    rw [show object.refs + 1 = 0 from hzero] at hnext
    exact absurd hnext (by simp)

/-- A reference that is released leaves the others, and with the last one the
object is gone. -/
theorem Referenced.count?_unref (hr : h.Referenced) {handlers : List (Connection κ)}
    (hdone : h.unref o = .ok (handlers, h')) :
    ∃ n, h.count? o = some n ∧ h'.count? o = (if n = 1 then none else some (n - 1)) ∧
      ∀ p, p ≠ o → h'.live? p = h.live? p := by
  obtain ⟨object, hl, hdone⟩ := unref_ok hdone
  have hback := toNat_sub_one (hr.live hl)
  refine ⟨_, count?_of_live hl, ?_⟩
  obtain ⟨hlast, -, rfl⟩ | ⟨hmore, -, rfl⟩ := hdone
  · rw [hlast, UInt32.toNat_zero, Nat.zero_add] at hback
    rw [if_pos hback.symm]
    refine ⟨?_, fun p hp => live?_vacate_ne hl hp⟩
    simp [count?, refCount?, live?_vacate_self]
  · have hne : (object.refs - 1).toNat ≠ 0 := fun hzero => hmore (UInt32.toNat_inj.mp hzero)
    rw [if_neg (by omega)]
    refine ⟨?_, fun p hp => live?_store_ne _ hl hp⟩
    rw [count?_of_live (live?_store_self _ hl)]
    exact congrArg some (by dsimp only; omega)

/-- While all objects have references, every operation is exact but the start of
an emission at the limit. -/
theorem Referenced.isExact (hr : h.Referenced) (hroom : ¬ op.StartsFull h) : op.IsExact h := by
  intro h' o hok hobject
  cases op with
  | changeTypes change => exact absurd hobject (by simp [Operation.object?])
  | instantiate type => exact absurd hobject (by simp [Operation.object?])
  | ref o =>
    cases hobject
    obtain ⟨object, hl, rfl⟩ := ref_ok hok
    refine ⟨_, count?_of_live hl, ?_, fun p hp => live?_raise_ne hl _ hp⟩
    rw [count?_raise hl, toNat_countUp]
    rfl
  | unref o =>
    cases hobject
    obtain ⟨handlers, hdone⟩ := Operation.snd_eq_ok hok
    exact hr.count?_unref hdone
  | connect o signal closure after =>
    cases hobject
    obtain ⟨id, hdone⟩ := Operation.snd_eq_ok hok
    obtain ⟨object, hl, rfl⟩ := connect_ok hdone
    have hl' : Heap.live? { h with lastHandler := id.number } o = some object := hl
    refine ⟨_, count?_of_live hl, ?_, fun p hp => live?_store_ne _ hl' hp⟩
    rw [count?_of_live (live?_store_self _ hl')]
    rfl
  | disconnect o id =>
    cases hobject
    obtain ⟨connection, hdone⟩ := Operation.snd_eq_ok hok
    obtain ⟨object, hl, -, rfl⟩ := disconnect_ok hdone
    refine ⟨_, count?_of_live hl, ?_, fun p hp => live?_store_ne _ hl hp⟩
    rw [count?_of_live (live?_store_self _ hl)]
    rfl
  | startEmission o signal args =>
    cases hobject
    obtain ⟨emission, hdone⟩ := Operation.snd_eq_ok hok
    obtain ⟨object, hl, rfl, -⟩ := beginEmission_ok hdone
    have hlow : object.refs ≠ maxRefs := by
      intro hfull
      exact hroom ⟨by simp [refCount?, hl, hfull], _, hdone⟩
    refine ⟨_, count?_of_live hl, ?_, fun p hp => live?_raise_ne hl _ hp⟩
    rw [count?_raise hl, toNat_add_one hlow]
    rfl

/-- What the start of an emission at the limit comes to: the count wraps round to
zero, and wraps back with the reference that is released. -/
theorem count?_of_startsFull (hfull : op.StartsFull h) :
    ∃ o, op.object? = some o ∧ (op.perform h).count? o = some 0 ∧
      ((Operation.unref o).perform (op.perform h)).count? o = some maxRefs.toNat ∧
      ¬ op.IsExact h := by
  cases op with
  | startEmission o signal args =>
    obtain ⟨hrefs, ⟨emission, heap⟩, hdone⟩ := hfull
    obtain ⟨object, hl, rfl, -⟩ := beginEmission_ok hdone
    obtain ⟨found, hfound, hlimit⟩ := Option.map_eq_some_iff.mp hrefs
    obtain rfl := Option.some.inj (hl.symm.trans hfound)
    have hok : (Operation.startEmission o signal args).attempt h =
        .ok (h.raise o object (object.refs + 1)) := by
      rw [Operation.attempt, hdone]
      rfl
    have hzero : (h.raise o object (object.refs + 1)).count? o = some 0 := by
      rw [count?_raise hl, hlimit]
      rfl
    refine ⟨o, rfl, by rwa [Operation.perform_of_ok hok], ?_, ?_⟩
    · have hstarted : (h.raise o object (object.refs + 1)).live? o =
          some { object with refs := object.refs + 1 } :=
        live?_store_self _ (h := { h with full := _ }) hl
      have hback := unref_of_live hstarted
      have hmore : maxRefs + 1 - 1 ≠ 0 := by decide
      rw [hlimit, if_neg hmore] at hback
      have hokback : (Operation.unref o).attempt (h.raise o object (object.refs + 1)) =
          .ok ((h.raise o object (object.refs + 1)).store o
            { object with refs := maxRefs + 1 - 1 }) := by
        rw [Operation.attempt, hlimit, hback]
        rfl
      rw [Operation.perform_of_ok hok, Operation.perform_of_ok hokback,
        count?_of_live (live?_store_self _ hstarted)]
      rfl
    · intro hexact
      obtain ⟨n, -, hcount, -⟩ := hexact _ o hok rfl
      rw [hzero] at hcount
      exact absurd (Option.some.inj hcount) (by simp)
  | _ => exact absurd hfull id

end

/-! ## Runs -/

namespace Operation

/-- Whether no emission of a run starts at the limit. -/
def HaveRoom (ops : List (Operation κ)) : Prop :=
  ∀ before op after, ops = before ++ op :: after → ¬ StartsFull (performAll {} before) op

/-- Whether all operations of a run are exact where they are. -/
def AreExact (ops : List (Operation κ)) : Prop :=
  ∀ before op after, ops = before ++ op :: after → IsExact (performAll {} before) op

/-- Whether every live object has a reference at every point of a run. -/
def KeepReferences (ops : List (Operation κ)) : Prop :=
  ∀ before, before <+: ops → ∀ o n, (performAll {} before).count? o = some n → 1 ≤ n

variable {ops : List (Operation κ)}

theorem HaveRoom.referenced (hroom : HaveRoom ops) {before : List (Operation κ)}
    (hbefore : before <+: ops) : (performAll {} before).Referenced := by
  induction before using List.reverseRecOn with
  | nil => exact fun slot hslot => absurd hslot List.not_mem_nil
  | append_singleton before op ih =>
    obtain ⟨after, hafter⟩ := hbefore
    rw [List.append_assoc] at hafter
    have hreferenced := ih ⟨_, hafter⟩
    rw [performAll_snoc]
    cases hok : op.attempt (performAll {} before) with
    | error e => rwa [perform_of_error hok]
    | ok h' =>
      rw [perform_of_ok hok]
      exact hreferenced.attempt (hroom before op after hafter.symm) hok

theorem haveRoom_iff_areExact : HaveRoom ops ↔ AreExact ops := by
  constructor
  · intro hroom before op after hops
    have hbefore : before <+: ops := hops ▸ List.prefix_append before (op :: after)
    exact (hroom.referenced hbefore).isExact (hroom before op after hops)
  · intro hexact before op after hops hfull
    obtain ⟨o, -, -, -, hnot⟩ := count?_of_startsFull hfull
    exact hnot (hexact before op after hops)

theorem haveRoom_iff_keepReferences : HaveRoom ops ↔ KeepReferences ops := by
  constructor
  · intro hroom before hbefore o n hcount
    obtain ⟨refs, hrefs, rfl⟩ := Option.map_eq_some_iff.mp hcount
    obtain ⟨object, hl, rfl⟩ := Option.map_eq_some_iff.mp hrefs
    have hsome := (hroom.referenced hbefore).live hl
    have hback := toNat_sub_one hsome
    omega
  · intro hkeep before op after hops hfull
    obtain ⟨o, -, hzero, -⟩ := count?_of_startsFull hfull
    have hprefix : before ++ [op] <+: ops := ⟨after, by rw [hops, List.append_assoc]; rfl⟩
    rw [← performAll_snoc] at hzero
    exact absurd (hkeep _ hprefix o 0 hzero) (by simp)

end Operation

end Heap

/-! ## Emissions with idle handlers -/

namespace System

variable {σ : Type} {s : System σ} {ts : List Release}

/-- Holders that are not the last ones end without any consequence. -/
theorem heap_release_of_more (hknown : ∀ t ∈ ts, s.books.Knows t)
    (hshared : ∀ t ∈ ts, t.account.IsShared)
    (hmore : ∀ t ∈ ts, tally t.account ts < s.books.holders t.account) :
    (s.release ts).heap = s.heap := by
  induction ts generalizing s with
  | nil => rw [release_nil]
  | cons t ts ih =>
    have htally (u : Release) : tally u.account (t :: ts : List Release) =
        tally u.account ts + if t.account = u.account then 1 else 0 := tally_cons _ t ts
    have hmany : s.books.holders t.account ≠ 1 := by
      have ht := hmore t List.mem_cons_self
      rw [htally, if_pos rfl] at ht
      omega
    have hs := hshared t List.mem_cons_self
    obtain ⟨hnone, hbooks⟩ := releaseOne_eq_drop (hknown t List.mem_cons_self) hs
      fun n hn => by rw [hn] at hmany; exact hmany
    have hheap : (s.releaseOne t).2.heap = s.heap :=
      (congrArg Books.heap hbooks).trans (s.books.alike_drop t.account).heap
    rw [release_cons, hnone, if_neg hmany, List.nil_append, ih, hheap]
    · intro u hu
      rw [hbooks]
      exact (s.books.alike_drop t.account).knows (hknown u (List.mem_cons_of_mem t hu))
    · exact fun u hu => hshared u (List.mem_cons_of_mem t hu)
    · intro u hu
      have hbefore := hmore u (List.mem_cons_of_mem t hu)
      rw [htally] at hbefore
      rw [hbooks, Books.holders_drop hs]
      omega

theorem inUse_keepAll {u : Release} (hu : s.InUse u) (hts : ∀ t ∈ ts, s.InUse t) :
    (ts.foldl keep s).InUse u := by
  induction ts generalizing s with
  | nil => exact hu
  | cons t ts ih =>
    have ht := hts t List.mem_cons_self
    exact ih (hu.keep ht) fun v hv => (hts v (List.mem_cons_of_mem t hv)).keep ht

theorem holders_keepAll (hts : ∀ t ∈ ts, s.InUse t) (a : Account) :
    (ts.foldl keep s).books.holders a = s.books.holders a + tally a ts := by
  induction ts generalizing s with
  | nil => rfl
  | cons t ts ih =>
    have ht := hts t List.mem_cons_self
    have htally : tally a (t :: ts : List Release) =
        tally a ts + if t.account = a then 1 else 0 := tally_cons a t ts
    rw [List.foldl_cons, ih fun v hv => (hts v (List.mem_cons_of_mem t hv)).keep ht, books_keep,
      Books.holders_hold ht.1 ht.2.2, htally]
    omega

/-- Holders that are taken and given back leave the heap alone. -/
theorem heap_release_keepAll (hts : ∀ t ∈ ts, s.InUse t) :
    ((ts.foldl keep s).release ts).heap = s.heap := by
  rw [heap_release_of_more, keepAll_heap]
  · exact fun t ht => (inUse_keepAll (hts t ht) hts).2.1
  · exact fun t ht => (hts t ht).1
  · intro t ht
    have hheld := (hts t ht).2.2
    rw [holders_keepAll hts]
    omega

end System

/-- What delivers to subscribers that do nothing does nothing. -/
theorem run_deliver_of_idle {σ : Type} {g : Guest σ} {params : List TypedValue}
    {type : Option TypeId} {s : System σ} {subscribers : List Subscriber}
    (hidle : ∀ x ∈ subscribers, ((x.invoke g params type).run.run s).2 = s)
    (given : Option TypedValue) :
    ((deliver g params type given subscribers).run.run s).2 = s := by
  induction subscribers generalizing given with
  | nil => rfl
  | cons first rest ih =>
    have hfirst := hidle first List.mem_cons_self
    rcases hrun : (first.invoke g params type).run.run s with ⟨e | value, t⟩
    · rw [hrun] at hfirst
      rw [deliver, run_bind_of_error _ hrun]
      exact hfirst
    · rw [hrun] at hfirst
      rw [deliver, run_bind_of_ok _ hrun, show t = s from hfirst]
      exact ih (fun x hx => hidle x (List.mem_cons_of_mem first hx)) value

/-- A reference that is not the last one is given back. -/
theorem run_unrefObject_of_more {σ : Type} {s : System σ} {o : ObjectId}
    {object : LiveObject Subscriber} (hl : s.heap.live? o = some object)
    (hmore : object.refs - 1 ≠ 0) :
    (unrefObject o).run.run s =
      (.ok (), { s with heap := s.heap.store o { object with refs := object.refs - 1 } }) := by
  have hunref := Heap.unref_of_live hl
  rw [if_neg hmore] at hunref
  rw [run_unrefObject_ok s hunref, handlerReleases, List.flatMap_nil]
  change (Except.ok (), System.release _ []) = _
  rw [System.release_nil]

/-- An emission whose subscribers do nothing leaves all objects as they were. -/
theorem Holding.live?_emit_of_idle {τ : Type} {c : Conduct} {F : Multiset Release}
    {E : List ObjectId} {s : World τ} (h : Holding c F E s) {g : Guest (Outside τ)} {o : ObjectId}
    {signal : String} {args : List NativeValue} {emission : Heap.Emission Subscriber}
    {heap : Heap Subscriber} (hbegun : s.heap.beginEmission o signal args = .ok (emission, heap))
    (hsome : s.heap.count? o ≠ some 0)
    (hidle : let started := emission.closures.foldl System.holdSubscriber { s with heap }
      ∀ x ∈ emission.closures,
        ((x.invoke g emission.params emission.returnType).run.run started).2 = started)
    (p : ObjectId) :
    ((emit g o signal args).run.run s).2.heap.live? p = s.heap.live? p := by
  let entered : World τ := { s with heap }
  let ts := emission.closures.flatMap Subscriber.releases
  obtain ⟨object, hl, hheap, hclosures⟩ := Heap.beginEmission_ok hbegun
  have hl' : entered.heap.live? o = some { object with refs := object.refs + 1 } := by
    change heap.live? o = _
    rw [hheap]
    exact Heap.live?_store_self _ (h := { s.heap with full := _ }) hl
  -- What the emission holds is connected to its object, so it has other holders.
  have hused : ∀ t ∈ ts, entered.InUse t := by
    intro t ht
    obtain ⟨subscriber, hsubscriber, hrelease⟩ := List.mem_flatMap.mp ht
    rw [hclosures] at hsubscriber
    obtain ⟨connection, hconnection, rfl⟩ := mem_of_mem_closuresFor hsubscriber
    exact (h.startEmission hbegun).handler_inUse hl' hconnection hrelease
  let work := deliver g emission.params emission.returnType none emission.closures
  have hdelivered : (work.run.run (ts.foldl System.keep entered)).2 =
      ts.foldl System.keep entered := by
    rw [System.holdSubscribers_eq_keep] at hidle
    exact run_deliver_of_idle hidle none
  have hreleased : ((ts.foldl System.keep entered).release ts).heap = heap :=
    System.heap_release_keepAll hused
  rw [state_emit_of_ok s g hbegun, System.holdSubscribers_eq_keep, hdelivered]
  have hback : object.refs + 1 - 1 = object.refs := UInt32.add_sub_cancel _ _
  have hmore : object.refs + 1 - 1 ≠ 0 := by
    rw [hback]
    rintro hzero
    apply hsome
    rw [Heap.count?_of_live hl, hzero]
    rfl
  have hlast : ((ts.foldl System.keep entered).release ts).heap.live? o =
      some { object with refs := object.refs + 1 } := by
    rw [hreleased]
    exact hl'
  rw [run_unrefObject_of_more hlast hmore]
  dsimp only
  rw [hreleased, hback, hheap]
  have hraised : (s.heap.raise o object (object.refs + 1)).live? o =
      some { object with refs := object.refs + 1 } := hheap ▸ hl'
  by_cases hp : p = o
  · rw [hp, Heap.live?_store_self _ hraised, hl]
  · rw [Heap.live?_store_ne _ hraised hp, Heap.live?_raise_ne hl _ hp]

/-! ## Taking many references -/

namespace Heap.Operation

variable {κ : Type} {h : Heap κ} {o : ObjectId} {object : LiveObject κ}

/-- Taking references raises the count up to its limit. -/
theorem performAll_refs (hl : h.live? o = some object) (n : Nat) :
    (performAll h (List.replicate n (.ref o))).types = h.types ∧
      ∃ refs, (performAll h (List.replicate n (.ref o))).live? o = some { object with refs } ∧
        refs.toNat = min (object.refs.toNat + n) maxRefs.toNat := by
  induction n generalizing h object with
  | zero =>
    have hlt := object.refs.toNat_lt
    have hle : object.refs.toNat ≤ maxRefs.toNat := by rw [toNat_maxRefs]; omega
    exact ⟨rfl, object.refs, hl, (Nat.min_eq_left hle).symm⟩
  | succ n ih =>
    have hok : (ref o : Operation κ).attempt h = .ok (h.raise o object (countUp object.refs)) :=
      ref_of_live hl
    have hraised : (h.raise o object (countUp object.refs)).live? o =
        some { object with refs := countUp object.refs } :=
      live?_store_self _ (h := { h with full := _ }) hl
    obtain ⟨htypes, refs, hlive, hcount⟩ := ih hraised
    have hfirst : performAll h (List.replicate (n + 1) (ref o)) =
        performAll (h.raise o object (countUp object.refs)) (List.replicate n (ref o)) := by
      rw [List.replicate_succ, ← perform_of_ok hok]
      rfl
    rw [hfirst]
    refine ⟨htypes, refs, hlive, ?_⟩
    rw [hcount]
    dsimp only
    rw [toNat_countUp]
    omega

end Heap.Operation

namespace Sample

/-- A new object with some references more, on a type with a signal. -/
def referencing (n : Nat) : List (Heap.Operation Subscriber) :=
  [.changeTypes (.define "Node" none), .changeTypes (.defineSignal type "changed" ⟨[], none⟩),
    .instantiate type] ++ List.replicate n (.ref object)

theorem referencing_haveRoom (n : Nat) : Heap.Operation.HaveRoom (referencing n) := by
  intro before op after hops hfull
  have hmem : op ∈ referencing n := by simp [hops]
  rcases List.mem_append.mp hmem with hmem | hmem
  · simp only [List.mem_cons, List.not_mem_nil, or_false] at hmem
    rcases hmem with rfl | rfl | rfl <;> exact hfull
  · rw [List.eq_of_mem_replicate hmem] at hfull
    exact hfull

theorem live?_referencing (n : Nat) :
    (Heap.Operation.performAll {} (referencing n)).types.signal? type "changed" = some ⟨[], none⟩ ∧
      ∃ refs, (Heap.Operation.performAll {} (referencing n)).live? object = some { type, refs } ∧
        refs.toNat = min (1 + n) Heap.maxRefs.toNat := by
  have hrun : Heap.Operation.performAll {} (referencing n) =
      Heap.Operation.performAll (Heap.Operation.performAll {} (referencing 0))
        (List.replicate n (.ref object)) := List.foldl_append
  have hnew : (Heap.Operation.performAll {} (referencing 0)).live? object =
      some { type, refs := 1 } := rfl
  obtain ⟨htypes, refs, hlive, hcount⟩ := Heap.Operation.performAll_refs hnew n
  rw [hrun, htypes]
  exact ⟨rfl, refs, hlive, hcount⟩

end Sample

/-! ## Reference arithmetic -/

/-- In every run of a heap, all operations count as they do in numbers without
bounds, and every live object has a reference at every point, if and only if no
emission starts at an object whose count is at the limit. What outside code
comes to, in the middle of whatever calls, is such a run. An emission whose
subscribers do nothing leaves all live objects as they were. -/
theorem reference_arithmetic {κ : Type} (ops : List (Heap.Operation κ)) :
    (Heap.Operation.HaveRoom ops ↔ Heap.Operation.AreExact ops) ∧
    (Heap.Operation.HaveRoom ops ↔ Heap.Operation.KeepReferences ops) ∧
    (∀ {c : Conduct} {m : System Ledger}, Reachable c m →
      ∃ ops, Heap.Operation.performAll {} ops = m.heap) ∧
    ∀ {τ : Type} {c : Conduct} {F : Multiset Release} {E : List ObjectId} {s : World τ},
      Holding c F E s → ∀ (g : Guest (Outside τ)) (o : ObjectId) (signal : String)
        (args : List NativeValue) (emission : Heap.Emission Subscriber) (heap : Heap Subscriber),
        s.heap.beginEmission o signal args = .ok (emission, heap) → s.heap.count? o ≠ some 0 →
        (let started := emission.closures.foldl System.holdSubscriber { s with heap }
          ∀ x ∈ emission.closures,
            ((x.invoke g emission.params emission.returnType).run.run started).2 = started) →
        ∀ p, ((emit g o signal args).run.run s).2.heap.live? p = s.heap.live? p := by
  refine ⟨Heap.Operation.haveRoom_iff_areExact, Heap.Operation.haveRoom_iff_keepReferences, ?_, ?_⟩
  · intro c m hm
    obtain ⟨b, ⟨es, hrun⟩, -⟩ := hm.since heap_runs
    exact Heap.Operation.of_run hrun
  · intro τ c F E s h g o signal args emission heap hbegun hsome hidle p
    exact h.live?_emit_of_idle hbegun hsome hidle p

/-- Some references are taken to a new object, and all counts are exact. An
emission with two idle handlers leaves its object as it was. -/
theorem sample_reference_arithmetic :
    Heap.Operation.AreExact (Sample.referencing 3) ∧
    ((emit (.idle (Outside Unit)) Sample.object "changed" []).run.run Sample.wired).2.heap.live?
      Sample.object = some Sample.wiredObject := by
  obtain ⟨F, hs⟩ := (Sample.wired_reached .fair).holding
  have hbegun : Sample.wired.heap.beginEmission Sample.object "changed" [] =
      .ok (⟨[⟨Sample.type, .object Sample.object⟩], none, [.native ⟨1⟩, .native ⟨0⟩]⟩,
        Sample.wired.heap.raise Sample.object Sample.wiredObject 2) := by
    have hshape : Sample.wired.heap.types.signal? Sample.wiredObject.type "changed" =
        some ⟨[], none⟩ := Sample.signal?_wired
    rw [Heap.beginEmission_of_live Sample.live?_wired, hshape]
    rfl
  obtain ⟨hexact, -, -, hidle⟩ := reference_arithmetic (Sample.referencing 3)
  refine ⟨hexact.mp (Sample.referencing_haveRoom 3), ?_⟩
  refine (hidle hs (.idle _) Sample.object "changed" [] _ _ hbegun (by decide +kernel) ?_
    Sample.object).trans Sample.live?_wired
  intro started x hx
  simp only [List.mem_cons, List.not_mem_nil, or_false] at hx
  rcases hx with rfl | rfl <;> rfl

/-- With all the references to an object that a count can hold, an emission
leaves it without any while its handlers run, and the release of its reference
wraps back. -/
theorem full_count_wraps {n : Nat} (hn : 4294967294 ≤ n) :
    let full := Heap.Operation.performAll {} (Sample.referencing n)
    let started := Heap.Operation.perform full (.startEmission Sample.object "changed" [])
    full.count? Sample.object = some Heap.maxRefs.toNat ∧
      started.count? Sample.object = some 0 ∧
      (Heap.Operation.perform started (.unref Sample.object)).count? Sample.object =
        some Heap.maxRefs.toNat := by
  intro full started
  obtain ⟨hsignal, refs, hl, hcount⟩ := Sample.live?_referencing n
  rw [Heap.toNat_maxRefs, Nat.min_eq_right (by omega)] at hcount
  have hlimit : refs = Heap.maxRefs := UInt32.toNat_inj.mp hcount
  subst hlimit
  have hfull : Heap.Operation.StartsFull full (.startEmission Sample.object "changed" []) := by
    refine ⟨?_, ?_⟩
    · rw [Heap.refCount?, hl]
      rfl
    · have hbegun := Heap.beginEmission_of_live hl "changed" []
      rw [hsignal] at hbegun
      exact ⟨_, hbegun⟩
  obtain ⟨o, hobject, hzero, hback, -⟩ := Heap.count?_of_startsFull hfull
  obtain rfl := Option.some.inj hobject
  exact ⟨Heap.count?_of_live hl, hzero, hback⟩

end NativeBridge
