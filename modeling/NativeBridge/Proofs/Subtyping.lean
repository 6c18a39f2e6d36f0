-- Subtyping. Native types are defined one after another, each under a parent
-- that is there already, so every line of parents ends. A type passes as
-- itself, as the classes above it, and as the interfaces that these declare
-- themselves. What an interface derives from or implements in its turn is not
-- handed on to the types that implement it.
import NativeBridge.Proofs.Generations
import NativeBridge.Proofs.Unwrapping

namespace NativeBridge

namespace Hierarchy

variable {h h' : Hierarchy} {rank : TypeId → Nat} {a b c t p : TypeId}

/-! ## Where hierarchies come from -/

/-- The hierarchies that changes of the native types bring about. -/
inductive Arises : Hierarchy → Prop where
  | empty : Arises {}
  | change {h h' : Hierarchy} {change : TypeChange} (before : Arises h)
    (hdone : change.apply h = .ok h') : Arises h'

/-- What a change does: it adds a type under a parent that is there, or gives
a type more interfaces or signals. -/
inductive Outcome (h : Hierarchy) : Hierarchy → Prop where
  | same : Outcome h h
  | added {id : TypeId} (name : String) (parent : Option TypeId) (hnew : h.get? id = none)
    (hparent : ∀ p, parent = some p → h.contains p = true) :
    Outcome h (h.set id { name, parent })
  | extended {id : TypeId} {old : NativeType} (new : NativeType) (hold : h.get? id = some old)
    (hparent : new.parent = old.parent) : Outcome h (h.set id new)

theorem define_outcome {id : TypeId} {name : String} {parent : Option TypeId}
    (hdone : h.define id name parent = .ok h') : Outcome h h' := by
  unfold define at hdone
  split at hdone
  · exact absurd hdone (by simp)
  · rename_i hcontains
    have hnew : h.get? id = none := by simpa [Table.contains] using hcontains
    cases parent with
    | none =>
      cases hdone
      exact .added name none hnew (by simp)
    | some p =>
      dsimp only at hdone
      split at hdone
      · rename_i hp
        cases hdone
        refine .added name (some p) hnew ?_
        rintro q ⟨⟩
        exact hp
      · exact absurd hdone (by simp)

theorem addInterface_outcome {type face : TypeId} (hdone : h.addInterface type face = .ok h') :
    Outcome h h' := by
  unfold addInterface at hdone
  split at hdone
  · cases hget : h.get? type with
    | none => simp [hget] at hdone
    | some entry =>
      simp only [hget] at hdone
      split at hdone <;> cases hdone
      · exact .same
      · exact .extended _ hget rfl
  · exact absurd hdone (by simp)

theorem defineSignal_outcome {type : TypeId} {name : String} {shape : SignalDef}
    (hdone : h.defineSignal type name shape = .ok h') : Outcome h h' := by
  unfold defineSignal at hdone
  cases hget : h.get? type with
  | none => simp [hget] at hdone
  | some entry =>
    simp only [hget] at hdone
    split at hdone
    · exact absurd hdone (by simp)
    · cases hdone
      exact .extended _ hget rfl

theorem apply_outcome {change : TypeChange} (hdone : change.apply h = .ok h') : Outcome h h' := by
  cases change with
  | define name parent => exact define_outcome hdone
  | addInterface type face => exact addInterface_outcome hdone
  | defineSignal type name shape => exact defineSignal_outcome hdone

/-! ## Parents come first -/

/-- An order of the types in which every parent comes before its children. -/
structure Ranked (h : Hierarchy) (rank : TypeId → Nat) : Prop where
  defined : ∀ {t p}, h.parent? t = some p → h.contains p = true
  descends : ∀ {t p}, h.parent? t = some p → rank p < rank t
  below : ∀ {t}, h.contains t = true → rank t < h.size

theorem parent?_set_self (entry : NativeType) : parent? (h.set t entry) t = entry.parent := by
  simp [parent?]

theorem parent?_set_ne (entry : NativeType) {u : TypeId} (hu : u ≠ t) :
    parent? (h.set t entry) u = h.parent? u := by
  unfold parent?
  rw [Table.get?_set_ne h hu]

/-- A new type comes after all that are there. -/
theorem Ranked.added (hr : h.Ranked rank) {id : TypeId} (name : String) {parent : Option TypeId}
    (hnew : h.get? id = none) (hparent : ∀ p, parent = some p → h.contains p = true) :
    Ranked (h.set id { name, parent }) fun t => if t = id then h.size else rank t := by
  have hsize := Table.size_set_of_none ({ name, parent } : NativeType) hnew
  have hnotin : h.contains id = false := by simp [Table.contains, hnew]
  -- The parents are those of before, and none of them is the new type.
  have hold : ∀ {t p}, parent? (h.set id { name, parent }) t = some p →
      h.contains p = true ∧ (t ≠ id → h.parent? t = some p) := by
    intro t p hp
    by_cases ht : t = id
    · subst ht
      rw [parent?_set_self] at hp
      exact ⟨hparent p hp, fun hne => absurd rfl hne⟩
    · rw [parent?_set_ne _ ht] at hp
      exact ⟨hr.defined hp, fun _ => hp⟩
  have hne : ∀ {p}, h.contains p = true → p ≠ id := by
    rintro p hp rfl
    exact absurd hp (by simp [hnotin])
  refine ⟨?_, ?_, ?_⟩
  · intro t p hp
    rw [Table.contains_set, (hold hp).1, Bool.or_true]
  · intro t p hp
    obtain ⟨hin, hbefore⟩ := hold hp
    rw [if_neg (hne hin)]
    split
    · exact hr.below hin
    · rename_i ht
      exact hr.descends (hbefore ht)
  · intro t ht
    rw [hsize]
    split
    · exact Nat.lt_succ_self _
    · rename_i hne
      rw [Table.contains_set, decide_eq_false hne, Bool.false_or] at ht
      exact Nat.lt_succ_of_lt (hr.below ht)

theorem Ranked.extended (hr : h.Ranked rank) {id : TypeId} {old new : NativeType}
    (hold : h.get? id = some old) (hparent : new.parent = old.parent) :
    Ranked (h.set id new) rank := by
  have hparents : parent? (h.set id new) = h.parent? := by
    funext t
    by_cases ht : t = id
    · subst ht
      rw [parent?_set_self, hparent]
      simp [parent?, hold]
    · exact parent?_set_ne new ht
  have hcontains : ∀ t, (h.set id new).contains t = h.contains t := by
    intro t
    rw [Table.contains_set]
    by_cases ht : t = id
    · simp [ht, Table.contains, hold]
    · simp [ht]
  refine ⟨?_, ?_, ?_⟩
  · intro t p hp
    rw [hparents] at hp
    rw [hcontains]
    exact hr.defined hp
  · intro t p hp
    rw [hparents] at hp
    exact hr.descends hp
  · intro t ht
    rw [hcontains] at ht
    exact lt_of_lt_of_le (hr.below ht) (Table.size_le_set h id new)

theorem Outcome.ranked (hchange : Outcome h h') (hr : h.Ranked rank) : ∃ rank', h'.Ranked rank' := by
  cases hchange with
  | same => exact ⟨rank, hr⟩
  | added name parent hnew hparent => exact ⟨_, hr.added name hnew hparent⟩
  | extended new hold hparent => exact ⟨rank, hr.extended hold hparent⟩

theorem ranked_empty : Ranked {} fun _ => 0 :=
  ⟨by simp [parent?], by simp [parent?], by simp [Table.contains]⟩

theorem Arises.ranked (ha : h.Arises) : ∃ rank, h.Ranked rank := by
  induction ha with
  | empty => exact ⟨_, ranked_empty⟩
  | change _ hdone ih =>
    obtain ⟨rank, hr⟩ := ih
    exact (apply_outcome hdone).ranked hr

/-! ## Lines -/

/-- Whether a class is another one or derives from it. -/
def DerivesFrom (h : Hierarchy) : TypeId → TypeId → Prop :=
  Relation.ReflTransGen fun t p => h.parent? t = some p

/-- A climb that has room for all parents is not cut short. -/
theorem Ranked.climb_succ (hr : h.Ranked rank) {steps : Nat} (ht : rank t < steps) :
    h.climb (steps + 1) t = h.climb steps t := by
  induction steps generalizing t with
  | zero => exact absurd ht (Nat.not_lt_zero _)
  | succ steps ih =>
    unfold climb
    cases hp : h.parent? t with
    | none => rfl
    | some p =>
      have hlt : rank p < steps := lt_of_lt_of_le (hr.descends hp) (Nat.le_of_lt_succ ht)
      dsimp only
      rw [ih hlt]

/-- The line of a type is the type and the line of its parent. -/
theorem Ranked.line_eq (hr : h.Ranked rank) (t : TypeId) :
    h.line t = t :: (h.parent? t).elim [] h.line := by
  rw [line, climb]
  cases hp : h.parent? t with
  | none => rfl
  | some p =>
    have hroom : rank p < h.size := hr.below (hr.defined hp)
    dsimp only [Option.elim]
    rw [line, hr.climb_succ hroom]

/-- The ancestors of a type are the line of its parent. -/
theorem Ranked.ancestors_eq (hr : h.Ranked rank) (t : TypeId) :
    h.ancestors t = (h.parent? t).elim [] h.line := by
  rw [ancestors, hr.line_eq, List.drop_one, List.tail_cons]

theorem Arises.line_eq (ha : h.Arises) (t : TypeId) :
    h.line t = t :: (h.parent? t).elim [] h.line := by
  obtain ⟨rank, hr⟩ := ha.ranked
  exact hr.line_eq t

theorem derivesFrom_of_mem_climb {steps : Nat} (hmem : b ∈ h.climb steps a) :
    h.DerivesFrom a b := by
  induction steps generalizing a with
  | zero => exact absurd hmem List.not_mem_nil
  | succ steps ih =>
    unfold climb at hmem
    cases hp : h.parent? a with
    | none =>
      rw [hp] at hmem
      rw [List.mem_singleton.mp hmem]
      exact .refl
    | some p =>
      rw [hp] at hmem
      rcases List.mem_cons.mp hmem with rfl | hmem
      · exact .refl
      · exact (ih hmem).head hp

/-- The line of a type has it and all classes that it derives from. -/
theorem Arises.mem_line_iff (ha : h.Arises) : b ∈ h.line a ↔ h.DerivesFrom a b := by
  constructor
  · exact derivesFrom_of_mem_climb
  · intro hder
    induction hder using Relation.ReflTransGen.head_induction_on with
    | refl =>
      rw [ha.line_eq]
      exact List.mem_cons_self
    | head hp _ ih =>
      rw [ha.line_eq, hp]
      exact List.mem_cons_of_mem _ ih

/-! ## What passes as what -/

theorem Arises.isA_iff (ha : h.Arises) : h.isA a c = true ↔
    ∃ t, h.DerivesFrom a t ∧ (c = t ∨ c ∈ h.interfaces t) := by
  unfold isA
  rw [List.any_eq_true]
  refine exists_congr fun t => and_congr ha.mem_line_iff ?_
  rw [Bool.or_eq_true, beq_iff_eq, List.contains_iff_mem, eq_comm]

theorem Arises.isA_self (ha : h.Arises) (a : TypeId) : h.isA a a = true :=
  ha.isA_iff.mpr ⟨a, .refl, Or.inl rfl⟩

theorem Arises.isA_of_derivesFrom (ha : h.Arises) (hab : h.DerivesFrom a b)
    (hbc : h.isA b c = true) : h.isA a c = true := by
  obtain ⟨t, hbt, hc⟩ := ha.isA_iff.mp hbc
  exact ha.isA_iff.mpr ⟨t, hab.trans hbt, hc⟩

/-- Subtyping is transitive if, and only if, every type is all that its
interfaces are. -/
theorem Arises.isA_trans_iff (ha : h.Arises) :
    (∀ a b c, h.isA a b = true → h.isA b c = true → h.isA a c = true) ↔
      ∀ t face c, face ∈ h.interfaces t → h.isA face c = true → h.isA t c = true := by
  constructor
  · intro htrans t face c hface hc
    exact htrans t face c (ha.isA_iff.mpr ⟨t, .refl, Or.inr hface⟩) hc
  · intro hfaces a b c hab hbc
    obtain ⟨t, hat, rfl | hface⟩ := ha.isA_iff.mp hab
    · exact ha.isA_of_derivesFrom hat hbc
    · exact ha.isA_of_derivesFrom hat (hfaces t b c hface hbc)

/-! ## Signals -/

theorem Arises.signal?_isSome_iff (ha : h.Arises) {signal : String} :
    (h.signal? a signal).isSome = true ↔
      ∃ t source, h.DerivesFrom a t ∧ source ∈ h.sourcesAt t ∧
        (h.ownSignal? source signal).isSome = true := by
  unfold signal?
  rw [List.isSome_findSome?, List.any_eq_true]
  constructor
  · rintro ⟨t, ht, hfound⟩
    rw [List.isSome_findSome?, List.any_eq_true] at hfound
    obtain ⟨source, hsource, hown⟩ := hfound
    exact ⟨t, source, ha.mem_line_iff.mp ht, hsource, hown⟩
  · rintro ⟨t, source, ht, hsource, hown⟩
    refine ⟨t, ha.mem_line_iff.mpr ht, ?_⟩
    rw [List.isSome_findSome?, List.any_eq_true]
    exact ⟨source, hsource, hown⟩

theorem Arises.signal?_of_derivesFrom (ha : h.Arises) (hab : h.DerivesFrom a b) {signal : String}
    (hb : (h.signal? b signal).isSome = true) : (h.signal? a signal).isSome = true := by
  obtain ⟨t, source, hbt, hsource, hown⟩ := ha.signal?_isSome_iff.mp hb
  exact ha.signal?_isSome_iff.mpr ⟨t, source, hab.trans hbt, hsource, hown⟩

/-! ## Standing for a type -/

/-- Whether objects of one type do wherever those of another do: as an object
that is unwrapped, with sinks, and in emissions. -/
structure StandsFor (h : Hierarchy) (a b : TypeId) : Prop where
  passes : ∀ c, h.isA b c = true → h.isA a c = true
  unwraps : ∀ {σ : Type} (s : System σ), s.heap.types = h → ∀ (r : RuntimeId)
    (v w : ObjectWrapper) (expected : TypeId), s.heap.typeOf? v.object = some a →
    s.heap.typeOf? w.object = some b →
    ((unwrapObject r (.object w) expected).run.run s).1 = .ok w.object →
    ((unwrapObject r (.object v) expected).run.run s).1 = .ok v.object
  sinks : ∀ {σ : Type} (s : System σ), s.heap.types = h → ∀ id : RegistryId,
    (s.sinkFor? id b).isSome = true → (s.sinkFor? id a).isSome = true
  signals : ∀ signal, (h.signal? b signal).isSome = true → (h.signal? a signal).isSome = true

/-- Unwraps and sinks ask for nothing but what a type passes as. -/
theorem StandsFor.of_passes (hpasses : ∀ c, h.isA b c = true → h.isA a c = true)
    (hsignals : ∀ signal, (h.signal? b signal).isSome = true → (h.signal? a signal).isSome = true) :
    h.StandsFor a b where
  passes := hpasses
  unwraps := by
    rintro σ s rfl r v w expected hv hw hunwraps
    rw [run_unwrapObject s hw] at hunwraps
    rw [run_unwrapObject s hv]
    split at hunwraps
    · rename_i hisA
      rw [if_pos (hpasses _ hisA)]
    · exact absurd hunwraps (by simp)
  sinks := by
    rintro σ s rfl id hb
    unfold System.sinkFor? at hb ⊢
    rw [Option.isSome_map, List.find?_isSome] at hb ⊢
    obtain ⟨entry, hentry, hisA⟩ := hb
    exact ⟨entry, hentry, hpasses _ hisA⟩
  signals := hsignals

theorem Arises.standsFor_of_derivesFrom (ha : h.Arises) (hab : h.DerivesFrom a b) :
    h.StandsFor a b :=
  .of_passes (fun _ => ha.isA_of_derivesFrom hab) fun _ => ha.signal?_of_derivesFrom hab

/-- Whether no interface derives from a type or implements one. -/
def HasFlatInterfaces (h : Hierarchy) : Prop :=
  ∀ t face, face ∈ h.interfaces t → h.parent? face = none ∧ h.interfaces face = []

theorem eq_of_derivesFrom_root (hroot : h.parent? b = none) (hbt : h.DerivesFrom b t) : t = b := by
  rcases hbt.cases_head with heq | ⟨p, hp, -⟩
  · exact heq.symm
  · exact absurd hp (by simp [hroot])

/-- Over flat interfaces, a type stands for all that it passes as. -/
theorem Arises.standsFor_of_flat (ha : h.Arises) (hflat : h.HasFlatInterfaces)
    (hab : h.isA a b = true) : h.StandsFor a b := by
  obtain ⟨t, hat, rfl | hface⟩ := ha.isA_iff.mp hab
  · exact ha.standsFor_of_derivesFrom hat
  · obtain ⟨hroot, hnone⟩ := hflat t b hface
    apply StandsFor.of_passes
    · intro c hbc
      obtain ⟨u, hbu, hc⟩ := ha.isA_iff.mp hbc
      rw [eq_of_derivesFrom_root hroot hbu, hnone] at hc
      rcases hc with rfl | hc
      · exact hab
      · exact absurd hc List.not_mem_nil
    · intro signal hsignal
      obtain ⟨u, source, hbu, hsource, hown⟩ := ha.signal?_isSome_iff.mp hsignal
      rw [eq_of_derivesFrom_root hroot hbu, sourcesAt, hnone] at hsource
      rw [List.mem_singleton.mp hsource] at hown
      exact ha.signal?_isSome_iff.mpr ⟨t, b, hat, List.mem_cons_of_mem _ hface, hown⟩

end Hierarchy

/-! ## The types of a run -/

namespace Heap

variable {κ : Type} {h h' : Heap κ} {es : List (Event κ)}

theorem types_of_instantiate {type : TypeId} {o : ObjectId}
    (hdone : h.instantiate type = .ok (o, h')) : h'.types = h.types := by
  obtain ⟨-, ⟨index, free, -, -, rfl⟩ | ⟨-, -, rfl⟩⟩ := instantiate_ok hdone <;> rfl

theorem Step.types_arise (hstep : Step h es h') (ha : h.types.Arises) : h'.types.Arises := by
  cases hstep with
  | changeTypes hdone => exact ha.change hdone
  | instantiate hdone => rwa [types_of_instantiate hdone]
  | ref hdone =>
    obtain ⟨object, -, rfl⟩ := ref_ok hdone
    exact ha
  | unref hdone =>
    obtain ⟨object, -, ⟨-, -, rfl⟩ | ⟨-, -, rfl⟩⟩ := unref_ok hdone <;> exact ha
  | connect hdone =>
    obtain ⟨object, -, rfl⟩ := connect_ok hdone
    exact ha
  | disconnect hdone =>
    obtain ⟨object, -, -, rfl⟩ := disconnect_ok hdone
    exact ha
  | beginEmission hdone =>
    obtain ⟨object, -, rfl, -⟩ := beginEmission_ok hdone
    exact ha

theorem Run.types_arise (hrun : Run h es h') (ha : h.types.Arises) : h'.types.Arises := by
  induction hrun with
  | rest => exact ha
  | step _ last ih => exact last.types_arise ih

end Heap

theorem Reachable.types_arise {c : Conduct} {m : System Ledger} (hm : Reachable c m) :
    m.heap.types.Arises := by
  obtain ⟨b, ⟨es, hrun⟩, -⟩ := hm.since heap_runs
  exact hrun.types_arise .empty

/-! ## Subtyping -/

/-- The types of every run arise one after another. On types that do,
subtyping is reflexive, and a type passes as exactly the classes of its line
and the interfaces that these declare themselves. It stands for all classes
that it derives from. Subtyping is transitive if, and only if, every type is all
that its interfaces are, as it is where no interface derives from a type or
implements one; then a type stands for all that it passes as. -/
theorem subtyping {h : Hierarchy} (ha : h.Arises) :
    (∀ {c : Conduct} {m : System Ledger}, Reachable c m → m.heap.types.Arises) ∧
    (∀ a, h.isA a a = true) ∧
    (∀ a c, h.isA a c = true ↔ ∃ t, h.DerivesFrom a t ∧ (c = t ∨ c ∈ h.interfaces t)) ∧
    (∀ a b, h.DerivesFrom a b → h.StandsFor a b) ∧
    ((∀ a b c, h.isA a b = true → h.isA b c = true → h.isA a c = true) ↔
      ∀ t face c, face ∈ h.interfaces t → h.isA face c = true → h.isA t c = true) ∧
    (h.HasFlatInterfaces → ∀ a b, h.isA a b = true → h.StandsFor a b) := by
  refine ⟨Reachable.types_arise, ha.isA_self, fun a c => ha.isA_iff, ?_, ha.isA_trans_iff, ?_⟩
  · exact fun a b hab => ha.standsFor_of_derivesFrom hab
  · exact fun hflat a b hab => ha.standsFor_of_flat hflat hab

namespace Sample

def action : TypeId := TypeId.ofName "Action"

def click : TypeId := TypeId.ofName "Click"

def button : TypeId := TypeId.ofName "Button"

/-- Three types of which one implements another. -/
def plainTypes : Hierarchy :=
  ⟨[(action, { name := "Action", parent := none }), (click, { name := "Click", parent := none }),
    (button, { name := "Button", parent := none, interfaces := [click] })]⟩

/-- The interface implements an interface in its turn. -/
def nestedTypes : Hierarchy :=
  plainTypes.set click { name := "Click", parent := none, interfaces := [action] }

theorem plainTypes_arise : plainTypes.Arises := by
  have haction : (TypeChange.define "Action" none).apply {} =
      .ok ⟨[(action, { name := "Action", parent := none })]⟩ := rfl
  have hclick : (TypeChange.define "Click" none).apply
      ⟨[(action, { name := "Action", parent := none })]⟩ = .ok ⟨plainTypes.entries.take 2⟩ := rfl
  have hbutton : (TypeChange.define "Button" none).apply ⟨plainTypes.entries.take 2⟩ =
      .ok (plainTypes.set button { name := "Button", parent := none }) := rfl
  have hface : (TypeChange.addInterface button click).apply
      (plainTypes.set button { name := "Button", parent := none }) = .ok plainTypes := rfl
  exact (((Hierarchy.Arises.empty.change haction).change hclick).change hbutton).change hface

theorem nestedTypes_arise : nestedTypes.Arises := by
  have hface : (TypeChange.addInterface click action).apply plainTypes = .ok nestedTypes := rfl
  exact plainTypes_arise.change hface

theorem plainTypes_flat : plainTypes.HasFlatInterfaces := by
  have hclick : plainTypes.parent? click = none ∧ plainTypes.interfaces click = [] := by
    decide +kernel
  intro t face hface
  unfold Hierarchy.interfaces at hface
  split at hface
  · rename_i entry hentry
    have hmem : (t, entry) ∈ plainTypes.entries := Table.mem_of_find hentry
    simp only [plainTypes, List.mem_cons, Prod.mk.injEq, List.not_mem_nil, or_false] at hmem
    rcases hmem with ⟨-, rfl⟩ | ⟨-, rfl⟩ | ⟨-, rfl⟩
    · exact absurd hface List.not_mem_nil
    · exact absurd hface List.not_mem_nil
    · rw [List.mem_singleton.mp hface]
      exact hclick
  · exact absurd hface List.not_mem_nil

end Sample

/-- Over flat interfaces, the type stands for the one that it implements. -/
theorem sample_subtyping : Sample.plainTypes.StandsFor Sample.button Sample.click := by
  have hpasses : Sample.plainTypes.isA Sample.button Sample.click = true := by decide +kernel
  obtain ⟨-, -, -, -, -, hflat⟩ := subtyping Sample.plainTypes_arise
  exact hflat Sample.plainTypes_flat _ _ hpasses

/-- What the interface implements is not handed on to the type. -/
theorem interfaces_of_interfaces_not_inherited :
    Sample.nestedTypes.Arises ∧
      Sample.nestedTypes.isA Sample.button Sample.click = true ∧
      Sample.nestedTypes.isA Sample.click Sample.action = true ∧
      Sample.nestedTypes.isA Sample.button Sample.action = false :=
  ⟨Sample.nestedTypes_arise, by decide +kernel, by decide +kernel, by decide +kernel⟩

end NativeBridge
