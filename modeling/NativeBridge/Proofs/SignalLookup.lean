-- Looking up signals. The walk that finds a signal passes the same types as
-- the test of subtyping, and stops at the nearest class where the signal is
-- defined by the class itself or by an interface that it declares. The class
-- comes before its interfaces, and these come in the order in which they were
-- added.
import NativeBridge.Proofs.Emissions
import NativeBridge.Proofs.Subtyping

namespace NativeBridge

/-! ## What changes declare -/

/-- The interface that a change gives a type. -/
def TypeChange.faceOf? (t : TypeId) : TypeChange → Option TypeId
  | addInterface type face => if type = t then some face else none
  | _ => none

/-- The definition of a signal that a change gives a type. -/
def TypeChange.shapeOf? (t : TypeId) (signal : String) : TypeChange → Option SignalDef
  | defineSignal type name shape => if type = t ∧ name = signal then some shape else none
  | _ => none

namespace Hierarchy

variable {h h' : Hierarchy} {a b t u face : TypeId} {signal : String} {shape : SignalDef}

/-- The hierarchy that changes bring about, one after another. -/
inductive Built : Hierarchy → List TypeChange → Prop where
  | empty : Built {} []
  | change {h h' : Hierarchy} {changes : List TypeChange} {change : TypeChange}
    (before : Built h changes) (hdone : change.apply h = .ok h') : Built h' (changes ++ [change])

theorem Built.arises {changes : List TypeChange} (hbuilt : h.Built changes) : h.Arises := by
  induction hbuilt with
  | empty => exact .empty
  | change _ hdone ih => exact ih.change hdone

/-- Changes that succeed one after another build what they end in. -/
theorem Built.continue {before changes : List TypeChange} (hbuilt : h.Built before)
    (hdone : changes.foldlM TypeChange.apply h = .ok h') : h'.Built (before ++ changes) := by
  induction changes generalizing h before with
  | nil =>
    cases hdone
    rwa [List.append_nil]
  | cons change rest ih =>
    rw [List.foldlM_cons] at hdone
    obtain ⟨next, hnext, hrest⟩ := bind_eq_ok.mp hdone
    have hall := ih (hbuilt.change hnext) hrest
    rwa [List.append_assoc] at hall

theorem Arises.built (ha : h.Arises) : ∃ changes, h.Built changes := by
  induction ha with
  | empty => exact ⟨[], .empty⟩
  | change _ hdone ih =>
    obtain ⟨changes, hbuilt⟩ := ih
    exact ⟨_, hbuilt.change hdone⟩

theorem interfaces_of_get? {entry : NativeType} (hget : h.get? t = some entry) :
    h.interfaces t = entry.interfaces := by
  simp [interfaces, hget]

theorem interfaces_of_get?_none (hget : h.get? t = none) : h.interfaces t = [] := by
  simp [interfaces, hget]

theorem ownSignal?_of_get? {entry : NativeType} (hget : h.get? t = some entry) (signal : String) :
    h.ownSignal? t signal = entry.signals.get? signal := by
  simp [ownSignal?, hget]

theorem ownSignal?_of_get?_none (hget : h.get? t = none) (signal : String) :
    h.ownSignal? t signal = none := by
  simp [ownSignal?, hget]

theorem interfaces_set (entry : NativeType) :
    interfaces (h.set t entry) u = if u = t then entry.interfaces else h.interfaces u := by
  split
  · rename_i hu
    rw [hu]
    exact interfaces_of_get? (Table.get?_set_self h t entry)
  · rename_i hu
    unfold interfaces
    rw [Table.get?_set_ne h hu]

theorem ownSignal?_set (entry : NativeType) : ownSignal? (h.set t entry) u signal =
    if u = t then entry.signals.get? signal else h.ownSignal? u signal := by
  split
  · rename_i hu
    rw [hu]
    exact ownSignal?_of_get? (Table.get?_set_self h t entry) signal
  · rename_i hu
    unfold ownSignal?
    rw [Table.get?_set_ne h hu]

/-! ### A change that succeeds -/

/-- A type that is defined declares nothing. -/
theorem declares_define {id : TypeId} {name : String} {parent : Option TypeId}
    (hdone : h.define id name parent = .ok h') :
    h'.interfaces = h.interfaces ∧ h'.ownSignal? = h.ownSignal? := by
  have hset : h.get? id = none ∧ h' = h.set id { name, parent } := by
    unfold define at hdone
    split at hdone
    · exact absurd hdone (by simp)
    · rename_i hcontains
      refine ⟨by simpa [Table.contains] using hcontains, ?_⟩
      cases parent with
      | none => exact (Except.ok.inj hdone).symm
      | some p =>
        dsimp only at hdone
        split at hdone
        · exact (Except.ok.inj hdone).symm
        · exact absurd hdone (by simp)
  obtain ⟨hnew, rfl⟩ := hset
  constructor
  · funext u
    rw [interfaces_set]
    split
    · rename_i hu
      rw [hu, interfaces_of_get?_none hnew]
    · rfl
  · funext u signal
    rw [ownSignal?_set]
    split
    · rename_i hu
      rw [hu, ownSignal?_of_get?_none hnew]
      rfl
    · rfl

/-- An interface comes last, unless it was declared before. -/
theorem declares_addInterface (hdone : h.addInterface t face = .ok h') :
    (h'.interfaces t = if face ∈ h.interfaces t then h.interfaces t else h.interfaces t ++ [face]) ∧
      (∀ u, u ≠ t → h'.interfaces u = h.interfaces u) ∧ h'.ownSignal? = h.ownSignal? := by
  unfold addInterface at hdone
  split at hdone
  · cases hget : h.get? t with
    | none => simp [hget] at hdone
    | some entry =>
      simp only [hget] at hdone
      rw [interfaces_of_get? hget]
      split at hdone
      · rename_i hmem
        cases hdone
        rw [if_pos hmem, interfaces_of_get? hget]
        exact ⟨rfl, fun _ _ => rfl, rfl⟩
      · rename_i hmem
        cases hdone
        refine ⟨?_, fun u hu => ?_, ?_⟩
        · rw [if_neg hmem, interfaces_set, if_pos rfl]
        · rw [interfaces_set, if_neg hu]
        · funext u signal
          rw [ownSignal?_set]
          split
          · rename_i hu
            rw [hu, ownSignal?_of_get? hget]
          · rfl
  · exact absurd hdone (by simp)

/-- A signal is defined that the type did not define before. -/
theorem declares_defineSignal {name : String} (hdone : h.defineSignal t name shape = .ok h') :
    h'.interfaces = h.interfaces ∧ h.ownSignal? t name = none ∧
      ∀ u signal, h'.ownSignal? u signal =
        if t = u ∧ name = signal then some shape else h.ownSignal? u signal := by
  unfold defineSignal at hdone
  cases hget : h.get? t with
  | none => simp [hget] at hdone
  | some entry =>
    simp only [hget] at hdone
    split at hdone
    · exact absurd hdone (by simp)
    · rename_i hnew
      cases hdone
      refine ⟨?_, ?_, ?_⟩
      · funext u
        rw [interfaces_set]
        split
        · rename_i hu
          rw [hu, interfaces_of_get? hget]
        · rfl
      · rw [ownSignal?_of_get? hget]
        simpa [Table.contains] using hnew
      · intro u signal
        rw [ownSignal?_set]
        by_cases hu : u = t
        · subst hu
          rw [if_pos rfl]
          by_cases hname : name = signal
          · rw [if_pos ⟨rfl, hname⟩, ← hname, Table.get?_set_self]
          · rw [if_neg (fun hboth => hname hboth.2), Table.get?_set_ne _ (Ne.symm hname),
              ownSignal?_of_get? hget]
        · rw [if_neg hu, if_neg (fun hboth => hu hboth.1.symm)]

/-! ### All changes -/

theorem eraseDups_snoc (faces : List TypeId) (face : TypeId) :
    (faces ++ [face]).eraseDups =
      if face ∈ faces then faces.eraseDups else faces.eraseDups ++ [face] := by
  rw [List.eraseDups_append]
  split
  · rename_i hmem
    have hnone : [face].removeAll faces = [] := by simp [List.removeAll, hmem]
    rw [hnone]
    exact List.append_nil _
  · rename_i hmem
    have hall : [face].removeAll faces = [face] := by simp [List.removeAll, hmem]
    rw [hall]
    rfl

/-- The interfaces that changes gave a type, in the order in which they were
first added. -/
theorem Built.interfaces_eq {changes : List TypeChange} (hbuilt : h.Built changes) (t : TypeId) :
    h.interfaces t = (changes.filterMap (·.faceOf? t)).eraseDups := by
  induction hbuilt with
  | empty => rfl
  | @change h h' changes change _ hdone ih =>
    rw [List.filterMap_append]
    cases change with
    | define name parent =>
      rw [(declares_define hdone).1, ih]
      exact congrArg _ (List.append_nil _).symm
    | addInterface type face =>
      obtain ⟨hself, hothers, -⟩ := declares_addInterface hdone
      by_cases htype : type = t
      · subst htype
        have hgiven : [TypeChange.addInterface type face].filterMap (·.faceOf? type) = [face] := by
          simp [TypeChange.faceOf?]
        rw [hself, hgiven, eraseDups_snoc, ih]
        simp only [List.mem_eraseDups]
      · have hgiven : [TypeChange.addInterface type face].filterMap (·.faceOf? t) = [] := by
          simp [TypeChange.faceOf?, htype]
        rw [hothers t (Ne.symm htype), hgiven, List.append_nil, ih]
    | defineSignal type name shape =>
      rw [(declares_defineSignal hdone).1, ih]
      exact congrArg _ (List.append_nil _).symm

/-- A type defines what a change defined for it. -/
theorem Built.ownSignal?_eq {changes : List TypeChange} (hbuilt : h.Built changes) (t : TypeId)
    (signal : String) :
    h.ownSignal? t signal = (changes.filterMap (·.shapeOf? t signal)).head? := by
  induction hbuilt with
  | empty => rfl
  | @change h h' changes change _ hdone ih =>
    rw [List.filterMap_append]
    cases change with
    | define name parent =>
      rw [(declares_define hdone).2, ih]
      exact congrArg _ (List.append_nil _).symm
    | addInterface type face =>
      rw [(declares_addInterface hdone).2.2, ih]
      exact congrArg _ (List.append_nil _).symm
    | defineSignal type name shape =>
      obtain ⟨-, hnew, hown⟩ := declares_defineSignal hdone
      rw [hown]
      by_cases hgiven : type = t ∧ name = signal
      · obtain ⟨rfl, rfl⟩ := hgiven
        rw [hnew] at ih
        rw [if_pos ⟨rfl, rfl⟩, List.head?_eq_none_iff.mp ih.symm]
        simp [TypeChange.shapeOf?]
      · rw [if_neg hgiven, ih]
        simp [TypeChange.shapeOf?, hgiven]

/-! ## The nearest class -/

/-- The nearest class above a type that meets a condition: all others lie
above it. -/
structure Nearest (h : Hierarchy) (type : TypeId) (P : TypeId → Prop) (t : TypeId) : Prop where
  above : h.DerivesFrom type t
  meets : P t
  first : ∀ u, h.DerivesFrom type u → P u → h.DerivesFrom t u

theorem Arises.derivesFrom_antisymm (ha : h.Arises) (hab : h.DerivesFrom a b)
    (hba : h.DerivesFrom b a) : a = b := by
  obtain ⟨rank, hr⟩ := ha.ranked
  have hbelow : ∀ {x y}, h.DerivesFrom x y → x = y ∨ rank y < rank x := by
    intro x y hxy
    induction hxy with
    | refl => exact Or.inl rfl
    | tail _ hp ih =>
      right
      rcases ih with rfl | hlt
      · exact hr.descends hp
      · exact (hr.descends hp).trans hlt
  rcases hbelow hab with heq | hlt
  · exact heq
  · rcases hbelow hba with heq | hlt'
    · exact heq.symm
    · exact absurd hlt (Nat.lt_asymm hlt')

theorem Arises.nearest_unique (ha : h.Arises) {P : TypeId → Prop} (ht : h.Nearest a P t)
    (hu : h.Nearest a P u) : t = u :=
  ha.derivesFrom_antisymm (ht.first u hu.above hu.meets) (hu.first t ht.above ht.meets)

/-- From any class of a line on, the line is the line of that class. -/
theorem Arises.line_suffix (ha : h.Arises) {below above : List TypeId}
    (hline : h.line a = below ++ t :: above) : h.line t = t :: above := by
  induction below generalizing a with
  | nil =>
    rw [ha.line_eq] at hline
    have hat : a = t := (List.cons.inj hline).1
    rw [← hat, ha.line_eq, (List.cons.inj hline).2, hat]
  | cons first below ih =>
    rw [ha.line_eq, List.cons_append] at hline
    have hrest := (List.cons.inj hline).2
    cases hp : h.parent? a with
    | none =>
      rw [hp] at hrest
      exact absurd hrest (by simp)
    | some p =>
      rw [hp] at hrest
      exact ih hrest

/-- The first class of a line that meets a condition is the nearest one. -/
theorem Arises.nearest_iff (ha : h.Arises) {P : TypeId → Prop} : h.Nearest a P t ↔
    ∃ below above, h.line a = below ++ t :: above ∧ P t ∧ ∀ u ∈ below, ¬P u := by
  constructor
  · intro hnearest
    have hmem : t ∈ h.line a := ha.mem_line_iff.mpr hnearest.above
    obtain ⟨below, above, hline, hnew⟩ := List.eq_append_cons_of_mem hmem
    refine ⟨below, above, hline, hnearest.meets, fun u hu hmeets => hnew ?_⟩
    -- a class before it in the line would derive from it, and it from that class
    obtain ⟨before, between, hbelow⟩ := List.append_of_mem hu
    have hau : h.DerivesFrom a u := by
      apply ha.mem_line_iff.mp
      rw [hline]
      exact List.mem_append_left _ hu
    have hut : h.DerivesFrom u t := by
      have hsuffix : h.line u = u :: (between ++ t :: above) := by
        apply ha.line_suffix
        rw [hline, hbelow, List.append_assoc, List.cons_append]
      apply ha.mem_line_iff.mp
      rw [hsuffix]
      exact List.mem_cons_of_mem _ (List.mem_append_right _ List.mem_cons_self)
    rwa [ha.derivesFrom_antisymm (hnearest.first u hau hmeets) hut]
  · rintro ⟨below, above, hline, hmeets, hnone⟩
    have hmem : t ∈ h.line a := by
      rw [hline]
      exact List.mem_append_right _ List.mem_cons_self
    refine ⟨ha.mem_line_iff.mp hmem, hmeets, fun u hau hother => ?_⟩
    have hu : u ∈ below ++ t :: above := hline ▸ ha.mem_line_iff.mpr hau
    rcases List.mem_append.mp hu with hbelow | habove
    · exact absurd hother (hnone u hbelow)
    · apply ha.mem_line_iff.mp
      rwa [ha.line_suffix hline]

/-- A walk along the line of a type finds what there is at the nearest class
where there is something. -/
theorem Arises.findSome?_line_eq_some_iff (ha : h.Arises) {β : Type} {find : TypeId → Option β}
    {found : β} : (h.line a).findSome? find = some found ↔
      ∃ t, h.Nearest a (fun u => ∃ x, find u = some x) t ∧ find t = some found := by
  rw [List.findSome?_eq_some_iff]
  constructor
  · rintro ⟨below, t, above, hline, hfound, hnone⟩
    refine ⟨t, ha.nearest_iff.mpr ⟨below, above, hline, ⟨found, hfound⟩, ?_⟩, hfound⟩
    rintro u hu ⟨x, hx⟩
    exact absurd ((hnone u hu).symm.trans hx) (by simp)
  · rintro ⟨t, hnearest, hfound⟩
    obtain ⟨below, above, hline, -, hnone⟩ := ha.nearest_iff.mp hnearest
    refine ⟨below, t, above, hline, hfound, fun u hu => ?_⟩
    exact Option.eq_none_iff_forall_ne_some.mpr fun x hx => hnone u hu ⟨x, hx⟩

/-! ## Definitions of signals -/

/-- Which type defines a signal at a class: the class itself, or else the first
interface that it declares and that defines the signal. -/
inductive DefinedBy (h : Hierarchy) (t : TypeId) (signal : String) : TypeId → Prop where
  | own (hown : (h.ownSignal? t signal).isSome = true) : DefinedBy h t signal t
  | face (hown : h.ownSignal? t signal = none) (earlier : List TypeId) (face : TypeId)
    (later : List TypeId) (hfaces : h.interfaces t = earlier ++ face :: later)
    (hearlier : ∀ other ∈ earlier, h.ownSignal? other signal = none)
    (hface : (h.ownSignal? face signal).isSome = true) : DefinedBy h t signal face

/-- Whether a signal is defined at a class, by itself or by an interface that
it declares. -/
def Offers (h : Hierarchy) (t : TypeId) (signal : String) : Prop :=
  (h.ownSignal? t signal).isSome = true ∨
    ∃ face ∈ h.interfaces t, (h.ownSignal? face signal).isSome = true

/-- The type through whose definition a signal is visible on a type: the one
that defines it at the nearest class where it is defined. -/
def VisibleThrough (h : Hierarchy) (type : TypeId) (signal : String) (source : TypeId) : Prop :=
  ∃ t, h.Nearest type (h.Offers · signal) t ∧ h.DefinedBy t signal source

/-- What the walk finds at one class. -/
def foundAt? (h : Hierarchy) (signal : String) (t : TypeId) : Option SignalDef :=
  (h.sourcesAt t).findSome? (h.ownSignal? · signal)

theorem foundAt?_eq_some_iff : h.foundAt? signal t = some shape ↔
    ∃ source, h.DefinedBy t signal source ∧ h.ownSignal? source signal = some shape := by
  unfold foundAt? sourcesAt
  rw [List.findSome?_cons]
  constructor
  · intro hfound
    cases hown : h.ownSignal? t signal with
    | some own =>
      rw [hown] at hfound
      exact ⟨t, .own (by rw [hown]; rfl), hown.trans hfound⟩
    | none =>
      rw [hown] at hfound
      obtain ⟨earlier, face, later, hfaces, hface, hearlier⟩ := List.findSome?_eq_some_iff.mp hfound
      exact ⟨face, .face hown earlier face later hfaces hearlier (by rw [hface]; rfl), hface⟩
  · rintro ⟨source, hdefined, hshape⟩
    cases hdefined with
    | own hown => rw [hshape]
    | face hown earlier face later hfaces hearlier hface =>
      rw [hown]
      exact List.findSome?_eq_some_iff.mpr ⟨earlier, source, later, hfaces, hshape, hearlier⟩

theorem offers_iff : h.Offers t signal ↔ ∃ shape, h.foundAt? signal t = some shape := by
  unfold Offers foundAt? sourcesAt
  rw [← Option.isSome_iff_exists, List.isSome_findSome?, List.any_cons, Bool.or_eq_true,
    List.any_eq_true]

theorem Arises.signal?_eq_some_iff (ha : h.Arises) : h.signal? a signal = some shape ↔
    ∃ source, h.VisibleThrough a signal source ∧ h.ownSignal? source signal = some shape := by
  have hwalk : h.signal? a signal = (h.line a).findSome? (h.foundAt? signal) := rfl
  have hoffers : (h.Offers · signal) = fun t => ∃ shape, h.foundAt? signal t = some shape :=
    funext fun t => propext offers_iff
  rw [hwalk, ha.findSome?_line_eq_some_iff, ← hoffers]
  constructor
  · rintro ⟨t, hnearest, hfound⟩
    obtain ⟨source, hdefined, hshape⟩ := foundAt?_eq_some_iff.mp hfound
    exact ⟨source, ⟨t, hnearest, hdefined⟩, hshape⟩
  · rintro ⟨source, ⟨t, hnearest, hdefined⟩, hshape⟩
    exact ⟨t, hnearest, foundAt?_eq_some_iff.mpr ⟨source, hdefined, hshape⟩⟩

/-- Only one type defines a signal at a class. -/
theorem DefinedBy.unique {source other : TypeId} (hsource : h.DefinedBy t signal source)
    (hother : h.DefinedBy t signal other) : source = other := by
  have hclash : ∀ {u}, h.ownSignal? u signal = none → (h.ownSignal? u signal).isSome = true →
      False := fun hnone hsome => by simp [hnone] at hsome
  cases hsource with
  | own hown =>
    cases hother with
    | own => rfl
    | face hnone => exact (hclash hnone hown).elim
  | face hnone earlier _ later hfaces hearlier hface =>
    cases hother with
    | own hown => exact (hclash hnone hown).elim
    | face _ earlier' _ later' hfaces' hearlier' hface' =>
      -- the shorter of the two beginnings ends at the first interface that defines the signal
      rcases List.append_eq_append_iff.mp (hfaces.symm.trans hfaces') with
        ⟨between, hlonger, hrest⟩ | ⟨between, hlonger, hrest⟩
      · cases between with
        | nil => exact (List.cons.inj hrest).1
        | cons first between =>
          have hmem : source ∈ earlier' := by
            rw [hlonger, (List.cons.inj hrest).1]
            exact List.mem_append_right _ List.mem_cons_self
          exact (hclash (hearlier' _ hmem) hface).elim
      · cases between with
        | nil => exact (List.cons.inj hrest).1.symm
        | cons first between =>
          have hmem : other ∈ earlier := by
            rw [hlonger, (List.cons.inj hrest).1]
            exact List.mem_append_right _ List.mem_cons_self
          exact (hclash (hearlier _ hmem) hface').elim

theorem VisibleThrough.isSome {source : TypeId} (hsource : h.VisibleThrough a signal source) :
    (h.ownSignal? source signal).isSome = true := by
  obtain ⟨t, -, hdefined⟩ := hsource
  cases hdefined with
  | own hown => exact hown
  | face _ _ _ _ _ _ hface => exact hface

theorem Arises.visibleThrough_unique (ha : h.Arises) {source other : TypeId}
    (hsource : h.VisibleThrough a signal source) (hother : h.VisibleThrough a signal other) :
    source = other := by
  obtain ⟨t, hnearest, hdefined⟩ := hsource
  obtain ⟨u, hnearest', hdefined'⟩ := hother
  obtain rfl := ha.nearest_unique hnearest hnearest'
  exact hdefined.unique hdefined'

/-- A signal is visible on a type if the type passes as one that defines it. -/
theorem Arises.signal?_isSome_iff_isA (ha : h.Arises) : (h.signal? a signal).isSome = true ↔
    ∃ b, h.isA a b = true ∧ (h.ownSignal? b signal).isSome = true := by
  rw [ha.signal?_isSome_iff]
  constructor
  · rintro ⟨t, b, hat, hb, hown⟩
    exact ⟨b, ha.isA_iff.mpr ⟨t, hat, List.mem_cons.mp hb⟩, hown⟩
  · rintro ⟨b, hb, hown⟩
    obtain ⟨t, hat, hsource⟩ := ha.isA_iff.mp hb
    exact ⟨t, b, hat, List.mem_cons.mpr hsource, hown⟩

end Hierarchy

/-! ## Connections and emissions -/

namespace Heap

variable {κ : Type} {h : Heap κ} {o : ObjectId} {object : LiveObject κ}

theorem connect_of_live (hl : h.live? o = some object) (signal : String) (closure : κ)
    (after : Bool) :
    h.connect o signal closure after =
      match h.types.signal? object.type signal with
      | none => .error (.unknownSignal (h.types.describe object.type) signal)
      | some _ =>
        let id : HandlerId := ⟨h.lastHandler + 1⟩
        let handlers := object.handlers ++ [(⟨id, signal, closure, after⟩ : Connection κ)]
        .ok (id, { h with lastHandler := id.number }.store o { object with handlers }) := by
  have hlive : h.live o = .ok object := by simp [live, hl]
  simp only [connect, hlive, signalOf, bind, Except.bind]
  cases h.types.signal? object.type signal <;> rfl

end Heap

namespace Hierarchy

/-- Whether connections to a signal of the objects of a type go by a
definition: without one, nothing is connected. -/
def ConnectsBy (h : Hierarchy) (type : TypeId) (signal : String) (found : Option SignalDef) :
    Prop :=
  ∀ {κ : Type} (heap : Heap κ) (o : ObjectId) (object : LiveObject κ), heap.types = h →
    heap.live? o = some object → object.type = type → ∀ (closure : κ) (after : Bool),
    heap.connect o signal closure after = match found with
      | none => .error (.unknownSignal (h.describe type) signal)
      | some _ =>
        let id : HandlerId := ⟨heap.lastHandler + 1⟩
        let handlers := object.handlers ++ [(⟨id, signal, closure, after⟩ : Connection κ)]
        .ok (id, { heap with lastHandler := id.number }.store o { object with handlers })

/-- Whether emissions of a signal of the objects of a type go by a definition:
without one, nothing is emitted; and it has a type for each argument and for
the result. -/
def EmitsBy (h : Hierarchy) (type : TypeId) (signal : String) (found : Option SignalDef) : Prop :=
  ∀ {σ : Type} (g : Guest σ) (s : System σ) (o : ObjectId) (object : LiveObject Subscriber),
    s.heap.types = h → s.heap.live? o = some object → object.type = type →
    ∀ args : List NativeValue, (emit g o signal args).run.run s = match found with
      | none => (.error (.native (.unknownSignal (h.describe type) signal)), s)
      | some shape =>
        if shape.params.length ≠ args.length then
          (.error (.native (.signalArity signal shape.params.length args.length)), s)
        else
          let subscribers := Heap.closuresFor object.handlers signal
          let params := ⟨type, .object o⟩ :: List.zipWith TypedValue.mk shape.params args
          let delivered := (deliver g params shape.returnType none subscribers).run.run
            (s.enterEmission o object signal)
          (unrefObject o >>= fun _ => endIn delivered.1).run.run
            (delivered.2.release (subscribers.flatMap Subscriber.releases))

theorem connectsBy_signal? (h : Hierarchy) (type : TypeId) (signal : String) :
    h.ConnectsBy type signal (h.signal? type signal) := by
  rintro κ heap o object rfl hl rfl closure after
  exact Heap.connect_of_live hl signal closure after

theorem emitsBy_signal? (h : Hierarchy) (type : TypeId) (signal : String) :
    h.EmitsBy type signal (h.signal? type signal) := by
  rintro σ g s o object rfl hl rfl args
  have hbegin := Heap.beginEmission_of_live hl signal args
  cases hshape : s.heap.types.signal? object.type signal with
  | none =>
    rw [hshape] at hbegin
    exact run_emit_of_error s g hbegin
  | some shape =>
    rw [hshape] at hbegin
    dsimp only at hbegin ⊢
    split at hbegin
    · rename_i harity
      rw [if_pos harity]
      exact run_emit_of_error s g hbegin
    · rename_i harity
      rw [if_neg harity]
      exact run_emit_of_begun g s hbegin

/-! ## The law -/

/-- How signals are looked up in a hierarchy that changes brought about. -/
structure FindsSignals (h : Hierarchy) (changes : List TypeChange) : Prop where
  /-- Interfaces stand in the order in which they were first added. -/
  interfaces : ∀ t, h.interfaces t = (changes.filterMap (·.faceOf? t)).eraseDups
  /-- A type defines the signals that changes defined on it. -/
  own : ∀ t signal, h.ownSignal? t signal = (changes.filterMap (·.shapeOf? t signal)).head?
  /-- A signal is visible on the types that pass as one that defines it. -/
  visible : ∀ type signal, (h.signal? type signal).isSome = true ↔
    ∃ b, h.isA type b = true ∧ (h.ownSignal? b signal).isSome = true
  /-- The definition is the one that the nearest class goes by. -/
  defined : ∀ type signal shape, h.signal? type signal = some shape ↔
    ∃ source, h.VisibleThrough type signal source ∧ h.ownSignal? source signal = some shape
  unique : ∀ type signal source other, h.VisibleThrough type signal source →
    h.VisibleThrough type signal other → source = other
  /-- Connections and emissions go by the definition that is visible. -/
  connects : ∀ type signal, h.ConnectsBy type signal (h.signal? type signal)
  emits : ∀ type signal, h.EmitsBy type signal (h.signal? type signal)

end Hierarchy

/-- The types of every run are brought about by changes. In a hierarchy that
is, a signal is visible on a type exactly if the type passes as one that
defines it. The definition is that of the nearest class where there is one,
the class itself before its interfaces, and these in the order in which they
were added; and connections and emissions go by it. -/
theorem signal_lookup {h : Hierarchy} {changes : List TypeChange}
    (hbuilt : h.Built changes) :
    (∀ {c : Conduct} {m : System Ledger}, Reachable c m →
      ∃ changes, m.heap.types.Built changes) ∧ h.FindsSignals changes := by
  have ha : h.Arises := hbuilt.arises
  refine ⟨fun hm => hm.types_arise.built, hbuilt.interfaces_eq, hbuilt.ownSignal?_eq,
    fun type signal => ha.signal?_isSome_iff_isA, fun type signal shape => ha.signal?_eq_some_iff,
    fun type signal source other hs ho => ha.visibleThrough_unique hs ho, h.connectsBy_signal?,
    h.emitsBy_signal?⟩

namespace Sample

def toggle : TypeId := TypeId.ofName "Toggle"

/-- A class has the signal from both of its interfaces, and hands it on to a
class below it. The interface added first got it last. -/
def pressedChanges : List TypeChange :=
  [.define "Action" none, .define "Click" none, .define "Button" none,
    .define "Toggle" (some button), .addInterface button click, .addInterface button action,
    .addInterface button click, .defineSignal action "pressed" ⟨[], none⟩,
    .defineSignal click "pressed" ⟨[button], none⟩]

def pressedTypes : Hierarchy :=
  ⟨[(action, { name := "Action", parent := none, signals := ⟨[("pressed", ⟨[], none⟩)]⟩ }),
    (click, { name := "Click", parent := none, signals := ⟨[("pressed", ⟨[button], none⟩)]⟩ }),
    (button, { name := "Button", parent := none, interfaces := [click, action] }),
    (toggle, { name := "Toggle", parent := some button })]⟩

theorem pressedTypes_built : pressedTypes.Built pressedChanges :=
  Hierarchy.Built.empty.continue rfl

end Sample

/-- The signal is the one of the interface that was added first, two classes
up. -/
theorem sample_signal_lookup :
    Sample.pressedTypes.Built Sample.pressedChanges ∧
      Sample.pressedTypes.signal? Sample.toggle "pressed" = some ⟨[Sample.button], none⟩ ∧
      ∃ source, Sample.pressedTypes.VisibleThrough Sample.toggle "pressed" source ∧
        Sample.pressedTypes.ownSignal? source "pressed" = some ⟨[Sample.button], none⟩ := by
  have hfound : Sample.pressedTypes.signal? Sample.toggle "pressed" =
      some ⟨[Sample.button], none⟩ := by decide +kernel
  obtain ⟨-, hfinds⟩ := signal_lookup Sample.pressedTypes_built
  exact ⟨Sample.pressedTypes_built, hfound, (hfinds.defined _ _ _).mp hfound⟩

end NativeBridge
