-- Walks up a hierarchy. The loops that climb from a type to its parent, and on
-- to the parent of that, have no bound of their own. They end because a type
-- is defined after its parent and keeps it, whatever the identifiers that names
-- have, and whatever the interfaces that types declare.
import NativeBridge.Proofs.SignalLookup

namespace NativeBridge

/-! ## Types by any naming -/

/-- Makes a change of the native types, with any identifiers for their
names. -/
def TypeChange.applyBy (idOf : String → TypeId) (types : Hierarchy) :
    TypeChange → Except NativeError Hierarchy
  | define name parent => types.define (idOf name) name parent
  | addInterface type face => types.addInterface type face
  | defineSignal type name shape => types.defineSignal type name shape

theorem TypeChange.applyBy_ofName (types : Hierarchy) (change : TypeChange) :
    change.applyBy TypeId.ofName types = change.apply types := by
  cases change <;> rfl

/-- Attempts a change. One that fails leaves the types as they are. -/
def Hierarchy.attempt (idOf : String → TypeId) (types : Hierarchy) (change : TypeChange) :
    Hierarchy :=
  match change.applyBy idOf types with
  | .ok changed => changed
  | .error _ => types

/-- The types after some attempts. -/
def Hierarchy.afterAll (idOf : String → TypeId) (changes : List TypeChange) : Hierarchy :=
  changes.foldl (Hierarchy.attempt idOf) {}

namespace Hierarchy

variable {h h' : Hierarchy} {rank : TypeId → Nat} {t p : TypeId}

theorem applyBy_outcome {idOf : String → TypeId} {change : TypeChange}
    (hdone : change.applyBy idOf h = .ok h') : Outcome h h' := by
  cases change with
  | define name parent => exact define_outcome hdone
  | addInterface type face => exact addInterface_outcome hdone
  | defineSignal type name shape => exact defineSignal_outcome hdone

theorem attempt_outcome (h : Hierarchy) (idOf : String → TypeId) (change : TypeChange) :
    Outcome h (h.attempt idOf change) := by
  unfold attempt
  split
  · rename_i hdone
    exact applyBy_outcome hdone
  · exact .same

theorem afterAll_snoc (idOf : String → TypeId) (changes : List TypeChange) (change : TypeChange) :
    afterAll idOf (changes ++ [change]) = (afterAll idOf changes).attempt idOf change := by
  rw [afterAll, afterAll, List.foldl_append, List.foldl_cons, List.foldl_nil]

/-- The types of a run are those after some attempts. -/
theorem Arises.eq_afterAll (ha : h.Arises) : ∃ changes, h = afterAll TypeId.ofName changes := by
  induction ha with
  | empty => exact ⟨[], rfl⟩
  | @change h h' change _ hdone ih =>
    obtain ⟨changes, rfl⟩ := ih
    refine ⟨changes ++ [change], ?_⟩
    rw [afterAll_snoc, attempt, TypeChange.applyBy_ofName, hdone]

/-! ## Types in order -/

/-- The identifiers of the defined types. -/
def defined (h : Hierarchy) : List TypeId := h.entries.map (·.1)

/-- Every type is there once, and after its parent. -/
structure Ordered (h : Hierarchy) : Prop where
  ranked : ∃ rank, h.Ranked rank
  once : h.defined.Nodup

theorem ordered_empty : Ordered {} where
  ranked := ⟨_, ranked_empty⟩
  once := List.nodup_nil

theorem Outcome.ordered (hchange : Outcome h h') (ho : h.Ordered) : h'.Ordered where
  ranked := by
    obtain ⟨rank, hr⟩ := ho.ranked
    exact hchange.ranked hr
  once := by
    cases hchange with
    | same => exact ho.once
    | added => exact Table.nodup_keys_set ho.once _ _
    | extended => exact Table.nodup_keys_set ho.once _ _

theorem ordered_afterAll (idOf : String → TypeId) (changes : List TypeChange) :
    (afterAll idOf changes).Ordered := by
  induction changes using List.reverseRecOn with
  | nil => exact ordered_empty
  | append_singleton changes change ih =>
    rw [afterAll_snoc]
    exact (attempt_outcome _ idOf change).ordered ih

/-- A type above another one has a lower rank, so that no line comes back to
where it started. -/
theorem Ranked.lt_of_above (hr : h.Ranked rank)
    (habove : Relation.TransGen (fun t p => h.parent? t = some p) t p) : rank p < rank t := by
  induction habove with
  | single hp => exact hr.descends hp
  | tail _ hp ih => exact lt_trans (hr.descends hp) ih

end Hierarchy

/-! ## Walks -/

/-- What one turn of a walk comes to: the answer, or a parent to go on from. -/
inductive Walk.Turn (α : Type) where
  | answer (a : α)
  | next (parent : Option TypeId)

/-- A loop along parents: what it does at a type, and its answer when no type
is left. -/
structure Walk (α : Type) where
  turn : TypeId → Walk.Turn α
  atEnd : α

namespace Walk

variable {α : Type} {w : Walk α} {h : Hierarchy} {answer? : TypeId → Option α}
  {rank : TypeId → Nat} {t : TypeId} {steps : Nat}

/-- The answer of a walk, if it ends within a number of turns. -/
def run (w : Walk α) : Nat → Option TypeId → Option α
  | _, none => some w.atEnd
  | 0, some _ => none
  | turns + 1, some t =>
    match w.turn t with
    | .answer a => some a
    | .next parent => w.run turns parent

/-- Whether a walk looks for the first type of a line that has an answer. It
may end early at a type without parents. -/
structure Seeks (w : Walk α) (h : Hierarchy) (answer? : TypeId → Option α) : Prop where
  found : ∀ {t a}, answer? t = some a → w.turn t = .answer a
  missed : ∀ {t}, answer? t = none → w.turn t = .next (h.parent? t) ∨
    (h.parent? t = none ∧ w.turn t = .answer w.atEnd)

/-- The answer that a walk finds on the types of a line. -/
def answerOn (w : Walk α) (answer? : TypeId → Option α) (types : List TypeId) : α :=
  (types.findSome? answer?).getD w.atEnd

/-- A turn at a type, and what is left after it: the rest of the line has one
turn less. -/
theorem Seeks.run_succ (hw : w.Seeks h answer?) (hr : h.Ranked rank)
    (hrest : ∀ p, h.parent? t = some p → w.run steps (some p) =
      some (w.answerOn answer? (h.line p))) :
    w.run (steps + 1) (some t) = some (w.answerOn answer? (h.line t)) := by
  rw [answerOn, hr.line_eq t, List.findSome?_cons, run]
  cases hfound : answer? t with
  | some a => rw [hw.found hfound]; rfl
  | none =>
    rcases hw.missed hfound with hturn | ⟨hp, hturn⟩
    · rw [hturn]
      cases hp : h.parent? t with
      | none => simp [run]
      | some p => exact hrest p hp
    · rw [hturn, hp]
      rfl

/-- A walk from a type has no more turns than there are ranks up to it. -/
theorem Seeks.run_of_rank (hw : w.Seeks h answer?) (hr : h.Ranked rank) (ht : rank t < steps) :
    w.run steps (some t) = some (w.answerOn answer? (h.line t)) := by
  induction steps generalizing t with
  | zero => exact absurd ht (Nat.not_lt_zero _)
  | succ steps ih =>
    refine hw.run_succ hr fun p hp => ih ?_
    exact lt_of_lt_of_le (hr.descends hp) (Nat.le_of_lt_succ ht)

/-- A walk from the parent of a type ends within as many turns as there are
types. -/
theorem Seeks.run_parent (hw : w.Seeks h answer?) (ho : h.Ordered) (t : TypeId) :
    w.run h.size (h.parent? t) = some (w.answerOn answer? (h.ancestors t)) := by
  obtain ⟨rank, hr⟩ := ho.ranked
  rw [hr.ancestors_eq]
  cases hp : h.parent? t with
  | none => cases h.size <;> rfl
  | some p => exact hw.run_of_rank hr (hr.below (hr.defined hp))

/-- A walk from a type, defined or not, ends within one turn more. -/
theorem Seeks.run_line (hw : w.Seeks h answer?) (ho : h.Ordered) (t : TypeId) :
    w.run (h.size + 1) (some t) = some (w.answerOn answer? (h.line t)) := by
  obtain ⟨rank, hr⟩ := ho.ranked
  refine hw.run_succ hr fun p hp => ?_
  exact hw.run_of_rank hr (hr.below (hr.defined hp))

end Walk

/-! ## The loops -/

/-- A walk for an optional answer has the first one on a line. -/
theorem Walk.answerOn_optional {α β : Type} {w : Walk (Option β)} (hend : w.atEnd = none)
    (find? : TypeId → Option α) (f : α → Option β) (types : List TypeId) :
    w.answerOn (fun t => (find? t).map f) types = (types.findSome? find?).bind f := by
  have hmap : types.findSome? (fun t => (find? t).map f) = (types.findSome? find?).map f :=
    List.map_findSome?.symm
  rw [answerOn, hmap, hend]
  cases types.findSome? find? <;> rfl

namespace Hierarchy

variable {h : Hierarchy} {t : TypeId}

theorem parent?_of_get? {entry : NativeType} (hget : h.get? t = some entry) :
    h.parent? t = entry.parent := by
  simp [parent?, hget]

theorem parent?_of_get?_none (hget : h.get? t = none) : h.parent? t = none := by
  simp [parent?, hget]

/-- The loop that looks for a class, or for a type that declares it as an
interface. -/
def subtypeWalk (h : Hierarchy) (ancestor : TypeId) : Walk Bool where
  turn t :=
    if t = ancestor then .answer true
    else
      match h.get? t with
      | none => .answer false
      | some entry => if ancestor ∈ entry.interfaces then .answer true else .next entry.parent
  atEnd := false

/-- What the loop finds at one type. -/
def passesAt? (h : Hierarchy) (ancestor t : TypeId) : Option Bool :=
  if t = ancestor ∨ ancestor ∈ h.interfaces t then some true else none

theorem subtypeWalk_seeks (h : Hierarchy) (ancestor : TypeId) :
    (h.subtypeWalk ancestor).Seeks h (h.passesAt? ancestor) where
  found := by
    intro t a hfound
    obtain ⟨hit, ⟨⟩⟩ := Option.ite_none_right_eq_some.mp hfound
    unfold subtypeWalk
    by_cases heq : t = ancestor
    · exact if_pos heq
    · have hface : ancestor ∈ h.interfaces t := hit.resolve_left heq
      cases hget : h.get? t with
      | none => simp [interfaces_of_get?_none hget] at hface
      | some entry =>
        rw [interfaces_of_get? hget] at hface
        simp [heq, hget, hface]
  missed := by
    intro t hmissed
    have hmiss : ¬(t = ancestor ∨ ancestor ∈ h.interfaces t) := by
      simpa [passesAt?] using hmissed
    obtain ⟨hne, hface⟩ := not_or.mp hmiss
    unfold subtypeWalk
    cases hget : h.get? t with
    | none => exact Or.inr ⟨parent?_of_get?_none hget, by simp [hne, hget]⟩
    | some entry =>
      rw [interfaces_of_get? hget] at hface
      exact Or.inl (by simp [hne, hget, hface, parent?_of_get? hget])

theorem subtypeWalk_answerOn (h : Hierarchy) (t ancestor : TypeId) :
    (h.subtypeWalk ancestor).answerOn (h.passesAt? ancestor) (h.line t) = h.isA t ancestor := by
  unfold isA Walk.answerOn
  induction h.line t with
  | nil => rfl
  | cons t rest ih =>
    rw [List.findSome?_cons, List.any_cons, passesAt?]
    by_cases hit : t = ancestor ∨ ancestor ∈ h.interfaces t
    · simp [hit]
    · rw [if_neg hit]
      have hmiss : (t == ancestor || (h.interfaces t).contains ancestor) = false := by
        simpa using hit
      rw [hmiss, Bool.false_or]
      exact ih

/-- The loop that looks for the definition of a signal. -/
def signalWalk (h : Hierarchy) (signal : String) : Walk (Option SignalDef) where
  turn t :=
    match h.get? t with
    | none => .answer none
    | some entry =>
      match entry.signals.get? signal with
      | some shape => .answer (some shape)
      | none =>
        match entry.interfaces.findSome? (h.ownSignal? · signal) with
        | some shape => .answer (some shape)
        | none => .next entry.parent
  atEnd := none

theorem foundAt?_of_get? {entry : NativeType} (hget : h.get? t = some entry) (signal : String) :
    h.foundAt? signal t =
      (entry.signals.get? signal).or (entry.interfaces.findSome? (h.ownSignal? · signal)) := by
  rw [foundAt?, sourcesAt, List.findSome?_cons, interfaces_of_get? hget, ownSignal?_of_get? hget]
  cases entry.signals.get? signal <;> rfl

theorem foundAt?_of_get?_none (hget : h.get? t = none) (signal : String) :
    h.foundAt? signal t = none := by
  rw [foundAt?, sourcesAt, interfaces_of_get?_none hget, List.findSome?_cons,
    ownSignal?_of_get?_none hget]
  rfl

theorem signalWalk_seeks (h : Hierarchy) (signal : String) :
    (h.signalWalk signal).Seeks h fun t => (h.foundAt? signal t).map some where
  found := by
    intro t a hfound
    obtain ⟨shape, hshape, rfl⟩ := Option.map_eq_some_iff.mp hfound
    unfold signalWalk
    cases hget : h.get? t with
    | none => simp [foundAt?_of_get?_none hget] at hshape
    | some entry =>
      rw [foundAt?_of_get? hget] at hshape
      cases hown : entry.signals.get? signal with
      | some own =>
        rw [hown] at hshape
        simpa [hget, hown] using hshape
      | none =>
        rw [hown, Option.none_or] at hshape
        simp [hget, hown, hshape]
  missed := by
    intro t hmissed
    have hnone : h.foundAt? signal t = none := Option.map_eq_none_iff.mp hmissed
    unfold signalWalk
    cases hget : h.get? t with
    | none => exact Or.inr ⟨parent?_of_get?_none hget, by simp [hget]⟩
    | some entry =>
      rw [foundAt?_of_get? hget, Option.or_eq_none_iff] at hnone
      exact Or.inl (by simp [hget, hnone.1, hnone.2, parent?_of_get? hget])

end Hierarchy

namespace System

variable {σ : Type}

/-- The loop that looks for an ancestor whose package stands for a type. -/
def packageWalk (s : System σ) (r : RuntimeId) : Walk (Option String) where
  turn ancestor :=
    match s.countedPackage? r ancestor with
    | some package => .answer (some package)
    | none => .next (s.heap.types.parent? ancestor)
  atEnd := none

theorem packageWalk_seeks (s : System σ) (r : RuntimeId) :
    (s.packageWalk r).Seeks s.heap.types fun t => (s.countedPackage? r t).map some where
  found := by
    intro t a hfound
    obtain ⟨package, hpackage, rfl⟩ := Option.map_eq_some_iff.mp hfound
    simp [packageWalk, hpackage]
  missed := by
    intro t hmissed
    left
    simp [packageWalk, Option.map_eq_none_iff.mp hmissed]

/-- The entry for the marshaller of a signal, set for a type itself. -/
def marshallerEntry? (s : System σ) (r : RuntimeId) (signal : String) (t : TypeId) :
    Option MarshallerEntry :=
  (s.bridge r).marshallers.find? fun e => e.type == t && e.signal == signal

/-- The loop that looks for the marshaller of a signal. -/
def marshallerWalk (s : System σ) (r : RuntimeId) (signal : String) : Walk (Option Marshaller) where
  turn t :=
    match s.marshallerEntry? r signal t with
    | some entry => .answer entry.marshaller
    | none => .next (s.heap.types.parent? t)
  atEnd := none

theorem marshallerWalk_seeks (s : System σ) (r : RuntimeId) (signal : String) :
    (s.marshallerWalk r signal).Seeks s.heap.types fun t =>
      (s.marshallerEntry? r signal t).map (·.marshaller) where
  found := by
    intro t a hfound
    obtain ⟨entry, hentry, rfl⟩ := Option.map_eq_some_iff.mp hfound
    simp [marshallerWalk, hentry]
  missed := by
    intro t hmissed
    left
    simp [marshallerWalk, Option.map_eq_none_iff.mp hmissed]

end System

/-! ## The law -/

/-- How walks end in a hierarchy. -/
structure Hierarchy.WalksEnd (h : Hierarchy) : Prop where
  /-- No type is above itself. -/
  acyclic : ∀ t, ¬Relation.TransGen (fun t p => h.parent? t = some p) t t
  /-- The parents of types are defined. -/
  parents : ∀ t p, h.parent? t = some p → h.contains p = true
  /-- The size is the number of the defined types. -/
  counted : ∃ types : List TypeId, types.Nodup ∧ (∀ t, t ∈ types ↔ h.contains t = true) ∧
    types.length = h.size
  /-- Each loop ends, from any type, within one turn more than there are types. -/
  subtyping : ∀ t ancestor, (h.subtypeWalk ancestor).run (h.size + 1) (some t) =
    some (h.isA t ancestor)
  signals : ∀ t signal, (h.signalWalk signal).run (h.size + 1) (some t) =
    some (h.signal? t signal)
  marshallers : ∀ {σ : Type} (s : System σ), s.heap.types = h → ∀ r t signal,
    (s.marshallerWalk r signal).run (h.size + 1) (some t) = some (s.marshallerFor? r t signal)
  /-- The loop of the fallback starts at a parent, and needs no turn more. -/
  fallback : ∀ {σ : Type} (s : System σ), s.heap.types = h → ∀ r t,
    (s.packageWalk r).run h.size (h.parent? t) =
      some ((h.ancestors t).findSome? (s.countedPackage? r))

theorem Hierarchy.Ordered.walksEnd {h : Hierarchy} (ho : h.Ordered) : h.WalksEnd where
  acyclic := by
    intro t habove
    obtain ⟨rank, hr⟩ := ho.ranked
    exact lt_irrefl _ (hr.lt_of_above habove)
  parents := by
    intro t p hp
    obtain ⟨rank, hr⟩ := ho.ranked
    exact hr.defined hp
  counted := ⟨h.defined, ho.once, fun t => (Table.contains_iff_mem h t).symm, List.length_map _⟩
  subtyping := by
    intro t ancestor
    rw [(h.subtypeWalk_seeks ancestor).run_line ho, subtypeWalk_answerOn]
  signals := by
    intro t signal
    rw [(h.signalWalk_seeks signal).run_line ho, Walk.answerOn_optional rfl, Option.bind_fun_some]
    rfl
  marshallers := by
    rintro σ s rfl r t signal
    rw [(s.marshallerWalk_seeks r signal).run_line ho, Walk.answerOn_optional rfl]
    rfl
  fallback := by
    rintro σ s rfl r t
    rw [(s.packageWalk_seeks r).run_parent ho, Walk.answerOn_optional rfl, Option.bind_fun_some]

/-- Whatever identifiers names have, and whichever changes succeed: no type is
above itself, the parents of types are defined, and each loop that climbs along
them ends within one turn more than there are types, from any type. So it is
with the types of every run. -/
theorem hierarchy_walks_end :
    (∀ (idOf : String → TypeId) (changes : List TypeChange),
      (Hierarchy.afterAll idOf changes).WalksEnd) ∧
    ∀ {c : Conduct} {m : System Ledger}, Reachable c m → m.heap.types.WalksEnd := by
  refine ⟨fun idOf changes => (Hierarchy.ordered_afterAll idOf changes).walksEnd, ?_⟩
  intro c m hm
  obtain ⟨changes, htypes⟩ := hm.types_arise.eq_afterAll
  rw [htypes]
  exact (Hierarchy.ordered_afterAll _ changes).walksEnd

end NativeBridge
