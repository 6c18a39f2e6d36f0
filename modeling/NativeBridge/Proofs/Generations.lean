-- Generations of slots. A slot counts how often it was emptied, and an
-- identifier carries the count that it was handed out with; so an identifier
-- that is stale stays stale until its slot has gone through all counts.
import NativeBridge.Proofs.Laws

namespace NativeBridge

variable {κ : Type}

namespace Heap

/-! ## Counting in the events of a run -/

/-- Whether an event empties a slot. -/
def Event.empties (i : UInt32) : Event κ → Bool
  | finalized o => o.index == i
  | _ => false

def Event.isFinalization : Event κ → Bool
  | finalized _ => true
  | _ => false

def Event.creates (o : ObjectId) : Event κ → Bool
  | created p => p == o
  | _ => false

def Event.finalizes (o : ObjectId) : Event κ → Bool
  | finalized p => p == o
  | _ => false

/-- How often a slot was emptied. -/
def finalizations (i : UInt32) (es : List (Event κ)) : Nat := es.countP (·.empties i)

variable {h h' h₀ : Heap κ} {es new before middle after : List (Event κ)} {o p : ObjectId}
  {i : UInt32}

theorem finalizations_append (i : UInt32) (es new : List (Event κ)) :
    finalizations i (es ++ new) = finalizations i es + finalizations i new := List.countP_append

theorem finalizations_finalized (i : UInt32) (o : ObjectId) :
    finalizations i [(Event.finalized o : Event κ)] = if o.index = i then 1 else 0 := by
  by_cases hi : o.index = i <;> simp [finalizations, Event.empties, hi]

theorem exists_of_empties (e : Event κ) (he : e.empties i = true) : ∃ o, e = .finalized o := by
  cases e <;> simp_all [Event.empties]

theorem exists_of_isFinalization (e : Event κ) (he : e.isFinalization = true) :
    ∃ o, e = .finalized o := by
  cases e <;> simp_all [Event.isFinalization]

theorem creates_iff {e : Event κ} : e.creates o = true ↔ e = .created o := by
  cases e <;> simp [Event.creates]

theorem finalizes_iff {e : Event κ} : e.finalizes o = true ↔ e = .finalized o := by
  cases e <;> simp [Event.finalizes]

/-- Each end of an object empties its slot. -/
theorem countP_finalizes_le (o : ObjectId) (es : List (Event κ)) :
    es.countP (·.finalizes o) ≤ finalizations o.index es := by
  apply List.countP_mono_left
  intro e _ he
  rw [finalizes_iff.mp he]
  simp [Event.empties]

theorem countP_quiet {f : Event κ → Bool} (hf : ∀ e, f e = true → ∃ o, e = .finalized o)
    (hquiet : ∀ o, .finalized o ∉ new) : new.countP f = 0 := by
  rw [List.countP_eq_zero]
  intro e he hfe
  obtain ⟨o, rfl⟩ := hf e hfe
  exact hquiet o he

theorem countP_creates_eq_zero (hnot : .created o ∉ new) : new.countP (·.creates o) = 0 := by
  rw [List.countP_eq_zero]
  intro e he hfe
  rw [creates_iff.mp hfe] at he
  exact hnot he

/-! ## New objects -/

/-- A new object is put into a free slot, or into one slot more. -/
structure Makes (h : Heap κ) (o : ObjectId) (h' : Heap κ) : Prop where
  vacant : h.outline[o.index.toNat]? = some (o.generation, false) ∨
    h.outline.length = o.index.toNat ∧ o.generation = 0
  outline : ∀ n, h'.outline[n]? =
    if n = o.index.toNat then some (o.generation, true) else h.outline[n]?
  free : h'.free = h.free.erase o.index
  finalized : h'.finalized = h.finalized
  others : ∀ p, p.index ≠ o.index → h'.live? p = h.live? p
  handlers : ∀ object, h'.live? o = some object → object.handlers = []

/-! ## The state of the slots -/

/-- The free slots are the empty ones, and everything is counted that
happened. -/
structure Dated (h : Heap κ) (es : List (Event κ)) : Prop where
  free_nodup : h.free.Nodup
  mem_free : ∀ i, i ∈ h.free ↔ ∃ generation, h.outline[i.toNat]? = some (generation, false)
  generation : ∀ {i slot}, h.outline[i.toNat]? = some slot →
    slot.1 = UInt32.ofNat (finalizations i es)
  unborn : ∀ i, h.outline.length ≤ i.toNat → finalizations i es = 0
  finalized : h.finalized = es.countP (·.isFinalization)
  once : ∀ o, es.countP (·.creates o) = es.countP (·.finalizes o) + if h.isAlive o then 1 else 0

theorem start_dated : Dated ({} : Heap κ) [] where
  free_nodup := List.nodup_nil
  mem_free i := by simp [outline]
  generation hslot := by simp [outline] at hslot
  unborn _ _ := rfl
  finalized := rfl
  once o := by simp [isAlive, live?]

/-- A free slot is used again. -/
theorem makes_free (hd : h.Dated es) {free : List UInt32} (hfree : h.free = i :: free)
    {object : LiveObject κ} (hobject : object.handlers = []) :
    let o : ObjectId := ⟨i, (h.slots[i.toNat]?).elim 0 (·.generation)⟩
    h.Makes o ({ h with free }.store o object) := by
  intro o
  obtain ⟨generation, hvacant⟩ := (hd.mem_free i).mp (by rw [hfree]; exact List.mem_cons_self)
  have hlt : i.toNat < h.outline.length := (List.getElem?_eq_some_iff.mp hvacant).1
  have hgeneration : o.generation = generation := by
    unfold outline at hvacant
    rw [List.getElem?_map] at hvacant
    obtain ⟨slot, hslot, hshape⟩ := Option.map_eq_some_iff.mp hvacant
    simp only [o, hslot, Option.elim_some]
    exact congrArg Prod.fst hshape
  refine ⟨Or.inl ?_, ?_, ?_, rfl, ?_, ?_⟩
  · rw [hgeneration]
    exact hvacant
  · intro n
    have hset : ({ h with free }.store o object).outline =
        h.outline.set i.toNat (o.generation, true) := List.map_set
    rw [hset]
    split
    · rename_i hn
      subst hn
      exact List.getElem?_set_self hlt
    · rename_i hn
      exact List.getElem?_set_ne fun heq => hn heq.symm
  · rw [hfree]
    exact (List.erase_cons_head i free).symm
  · intro p hp
    apply live?_of_slots
    exact List.getElem?_set_ne fun heq => hp (UInt32.toNat_inj.mp heq.symm)
  · intro new hnew
    have hslot := live?_eq_some_iff.mp hnew
    have hlt' : i.toNat < h.slots.length := by rwa [outline, List.length_map] at hlt
    rw [store, List.getElem?_set_self hlt'] at hslot
    simp only [Option.some.injEq, Slot.mk.injEq, true_and] at hslot
    rw [← hslot]
    exact hobject

/-- There is no free slot, and one more is made. -/
theorem makes_more (hfree : h.free = []) (hfew : h.slots.length < UInt32.size)
    {object : LiveObject κ} (hobject : object.handlers = []) (full : Bool) :
    h.Makes ⟨UInt32.ofNat h.slots.length, 0⟩
      { h with slots := h.slots ++ [⟨0, some object⟩], full } := by
  have hindex : (UInt32.ofNat h.slots.length).toNat = h.slots.length :=
    UInt32.toNat_ofNat_of_lt hfew
  have hlength : h.outline.length = h.slots.length := List.length_map _
  refine ⟨Or.inr ⟨?_, rfl⟩, ?_, ?_, rfl, ?_, ?_⟩
  · rw [hlength, hindex]
  · intro n
    have hmore : ({ h with slots := h.slots ++ [⟨0, some object⟩], full } : Heap κ).outline =
        h.outline ++ [(0, true)] := List.map_append
    rw [hmore, hindex]
    split
    · rename_i hn
      subst hn
      rw [← hlength]
      exact List.getElem?_concat_length
    · rename_i hn
      rcases Nat.lt_or_ge n h.slots.length with hlt | hge
      · exact List.getElem?_append_left (by rwa [hlength])
      · rw [List.getElem?_eq_none (l := h.outline) (by omega), List.getElem?_eq_none]
        rw [List.length_append, List.length_singleton]
        omega
  · rw [hfree]
    rfl
  · intro p hp
    apply live?_concat_ne rfl
    intro hlast
    exact absurd (UInt32.toNat_inj.mp (hlast.trans hindex.symm)) hp
  · intro new hnew
    have hslot := live?_eq_some_iff.mp hnew
    rw [hindex, List.getElem?_concat_length] at hslot
    simp only [Option.some.injEq, Slot.mk.injEq, true_and] at hslot
    rw [← hslot]
    exact hobject

theorem Dated.makes (hd : h.Dated es) {type : TypeId} (hmade : h.instantiate type = .ok (o, h'))
    (hfits : h'.slots.length ≤ 2 ^ 32) : h.Makes o h' := by
  obtain ⟨-, ⟨index, free, hfree, rfl, rfl⟩ | ⟨hfree, rfl, rfl⟩⟩ := instantiate_ok hmade
  · exact makes_free hd hfree rfl
  · rw [List.length_append, List.length_singleton] at hfits
    exact makes_more hfree (by rw [UInt32.size]; omega) rfl _

/-! ## What keeps it -/

theorem Dated.kept (hd : h.Dated es) (hsame : SameObjects h h')
    (hquiet : ∀ o, .created o ∉ new ∧ .finalized o ∉ new) : h'.Dated (es ++ new) where
  free_nodup := by
    rw [hsame.free]
    exact hd.free_nodup
  mem_free i := by
    rw [hsame.free, hsame.outline]
    exact hd.mem_free i
  generation {i slot} hslot := by
    rw [hsame.outline] at hslot
    rw [finalizations_append, finalizations, finalizations,
      countP_quiet exists_of_empties fun o => (hquiet o).2]
    exact hd.generation hslot
  unborn i hi := by
    rw [hsame.outline] at hi
    rw [finalizations_append, hd.unborn i hi, Nat.zero_add]
    exact countP_quiet exists_of_empties fun o => (hquiet o).2
  finalized := by
    rw [hsame.finalized, List.countP_append, hd.finalized,
      countP_quiet exists_of_isFinalization fun o => (hquiet o).2]
    rfl
  once o := by
    have halive : h'.isAlive o = h.isAlive o := by
      rw [Bool.eq_iff_iff, isAlive_iff, isAlive_iff, hsame.outline]
    rw [List.countP_append, List.countP_append, countP_creates_eq_zero (hquiet o).1,
      countP_quiet (fun e he => ⟨o, finalizes_iff.mp he⟩) fun o => (hquiet o).2, halive]
    exact hd.once o

/-- Nothing is alive in the slot that a new object takes. -/
theorem Makes.not_alive (hmade : h.Makes o h') (hindex : p.index = o.index) :
    h.isAlive p = false := by
  rw [← Bool.not_eq_true, isAlive_iff, hindex]
  rcases hmade.vacant with hvacant | ⟨hlength, -⟩
  · rw [hvacant]
    simp
  · rw [List.getElem?_eq_none (Nat.le_of_eq hlength)]
    simp

theorem Makes.isAlive (hmade : h.Makes o h') (p : ObjectId) :
    h'.isAlive p = (h.isAlive p || p == o) := by
  by_cases hp : p = o
  · subst hp
    rw [beq_self_eq_true, Bool.or_true, isAlive_iff, hmade.outline, if_pos rfl]
  · have hne : (p == o) = false := beq_eq_false_iff_ne.mpr hp
    rw [hne, Bool.or_false]
    by_cases hindex : p.index = o.index
    · have hgeneration : o.generation ≠ p.generation := fun hg => hp (by cases p; cases o; simp_all)
      rw [hmade.not_alive hindex, ← Bool.not_eq_true, isAlive_iff, hmade.outline, hindex,
        if_pos rfl]
      simpa using hgeneration
    · have hne : p.index.toNat ≠ o.index.toNat := fun heq => hindex (UInt32.toNat_inj.mp heq)
      rw [Bool.eq_iff_iff, isAlive_iff, isAlive_iff, hmade.outline, if_neg hne]

/-- A new object carries the count of its slot. -/
theorem Dated.fresh (hd : h.Dated es) (hmade : h.Makes o h') :
    o.generation = UInt32.ofNat (finalizations o.index es) := by
  rcases hmade.vacant with hvacant | ⟨hlength, hzero⟩
  · have hcount := hd.generation hvacant
    exact hcount
  · rw [hd.unborn o.index (Nat.le_of_eq hlength)]
    exact hzero

theorem Dated.created (hd : h.Dated es) (hmade : h.Makes o h') :
    h'.Dated (es ++ [.created o]) where
  free_nodup := by
    rw [hmade.free]
    exact hd.free_nodup.erase _
  mem_free i := by
    rw [hmade.free, hd.free_nodup.mem_erase_iff, hd.mem_free, hmade.outline, ne_eq,
      ← UInt32.toNat_inj]
    by_cases hi : i.toNat = o.index.toNat <;> simp [hi]
  generation {i slot} hslot := by
    rw [finalizations_append]
    change slot.1 = UInt32.ofNat (finalizations i es)
    rw [hmade.outline] at hslot
    split at hslot
    · rename_i hi
      obtain rfl := UInt32.toNat_inj.mp hi
      obtain rfl := Option.some.inj hslot
      exact hd.fresh hmade
    · exact hd.generation hslot
  unborn i hi := by
    rw [finalizations_append]
    apply hd.unborn i
    have hnone : h'.outline[i.toNat]? = none := List.getElem?_eq_none hi
    rw [hmade.outline] at hnone
    split at hnone
    · exact absurd hnone (by simp)
    · exact List.getElem?_eq_none_iff.mp hnone
  finalized := by
    rw [hmade.finalized, List.countP_append, hd.finalized]
    rfl
  once p := by
    have hbefore := hd.once p
    rw [List.countP_append, List.countP_append, hmade.isAlive]
    by_cases hp : p = o
    · subst hp
      rw [hmade.not_alive rfl] at hbefore
      simpa [Event.creates, Event.finalizes] using hbefore
    · have hne : o ≠ p := fun heq => hp heq.symm
      simpa [Event.creates, Event.finalizes, hp, hne] using hbefore

/-! ### Finalized objects -/

theorem getElem?_vacate (halive : h.isAlive o = true) (n : Nat) :
    (h.vacate o).outline[n]? =
      if n = o.index.toNat then some (o.generation + 1, false) else h.outline[n]? := by
  have hlt := (List.getElem?_eq_some_iff.mp (isAlive_iff.mp halive)).1
  rw [outline_vacate]
  split
  · rename_i hn
    subst hn
    exact List.getElem?_set_self hlt
  · rename_i hn
    exact List.getElem?_set_ne fun heq => hn heq.symm

theorem isAlive_vacate (halive : h.isAlive o = true) (p : ObjectId) :
    (h.vacate o).isAlive p = (h.isAlive p && p != o) := by
  by_cases hindex : p.index = o.index
  · rw [Bool.eq_iff_iff, Bool.and_eq_true, isAlive_iff, isAlive_iff, getElem?_vacate halive,
      hindex, if_pos rfl, isAlive_iff.mp halive, bne_iff_ne]
    have hiff : o.generation = p.generation ↔ o = p := by
      cases o
      cases p
      simp_all
    simp only [Option.some.injEq, Prod.mk.injEq, Bool.false_eq_true, and_false, and_true, hiff]
    exact ⟨False.elim, fun hp => hp.2 hp.1.symm⟩
  · have hne : p.index.toNat ≠ o.index.toNat := fun heq => hindex (UInt32.toNat_inj.mp heq)
    have hp : (p != o) = true := bne_iff_ne.mpr fun heq => hindex (by rw [heq])
    rw [hp, Bool.and_true, Bool.eq_iff_iff, isAlive_iff, isAlive_iff, getElem?_vacate halive,
      if_neg hne]

theorem Dated.vacated (hd : h.Dated es) (halive : h.isAlive o = true) :
    (h.vacate o).Dated (es ++ [.finalized o]) where
  free_nodup := by
    refine List.nodup_cons.mpr ⟨?_, hd.free_nodup⟩
    rw [hd.mem_free, isAlive_iff.mp halive]
    simp
  mem_free i := by
    change i ∈ o.index :: h.free ↔ _
    rw [List.mem_cons, hd.mem_free, getElem?_vacate halive, ← UInt32.toNat_inj]
    by_cases hi : i.toNat = o.index.toNat <;> simp [hi]
  generation {i slot} hslot := by
    rw [getElem?_vacate halive] at hslot
    rw [finalizations_append]
    split at hslot
    · rename_i hi
      obtain rfl := UInt32.toNat_inj.mp hi
      obtain rfl := Option.some.inj hslot
      have hold : o.generation = _ := hd.generation (isAlive_iff.mp halive)
      rw [finalizations_finalized, if_pos rfl, UInt32.ofNat_add, ← hold]
      rfl
    · rename_i hi
      have hne : o.index ≠ i := fun heq => hi (by rw [heq])
      rw [finalizations_finalized, if_neg hne]
      exact hd.generation hslot
  unborn i hi := by
    rw [outline_vacate, List.length_set] at hi
    have hlt := (List.getElem?_eq_some_iff.mp (isAlive_iff.mp halive)).1
    have hne : o.index ≠ i := by
      rintro rfl
      omega
    rw [finalizations_append, hd.unborn i hi, finalizations_finalized, if_neg hne]
  finalized := by
    rw [List.countP_append, ← hd.finalized]
    rfl
  once p := by
    have hbefore := hd.once p
    rw [List.countP_append, List.countP_append, isAlive_vacate halive]
    by_cases hp : p = o
    · subst hp
      rw [halive] at hbefore
      simpa [Event.creates, Event.finalizes] using hbefore
    · have hne : o ≠ p := fun heq => hp heq.symm
      simpa [Event.creates, Event.finalizes, hp, hne] using hbefore

/-! ### Runs -/

theorem Dated.step (hd : h.Dated es) (hstep : Step h new h') (hfits : h'.slots.length ≤ 2 ^ 32) :
    h'.Dated (es ++ new) := by
  cases hstep.outcome with
  | kept hsame hquiet => exact hd.kept hsame hquiet
  | created hmade => exact hd.created (hd.makes hmade hfits)
  | finalized halive => exact hd.vacated halive

/-- Slots are never taken away. -/
theorem length_le_of_step (hstep : Step h new h') : h.slots.length ≤ h'.slots.length := by
  cases hstep.outcome with
  | kept hsame hquiet => exact Nat.le_of_eq hsame.length.symm
  | created hmade =>
    obtain ⟨-, ⟨index, free, -, -, rfl⟩ | ⟨-, -, rfl⟩⟩ := instantiate_ok hmade <;> simp [store]
  | finalized halive => simp [vacate]

theorem Run.length_le (hrun : Run h es h') : h.slots.length ≤ h'.slots.length := by
  induction hrun with
  | rest => exact Nat.le_refl _
  | step _ last ih => exact ih.trans (length_le_of_step last)

theorem Dated.run (hd : h.Dated es) (hrun : Run h new h') (hfits : h'.slots.length ≤ 2 ^ 32) :
    h'.Dated (es ++ new) := by
  induction hrun with
  | rest => rwa [List.append_nil]
  | step _ last ih =>
    rw [← List.append_assoc]
    exact (ih ((length_le_of_step last).trans hfits)).step last hfits

theorem Run.dated (hrun : Run {} es h) (hfits : h.slots.length ≤ 2 ^ 32) : h.Dated es :=
  start_dated.run hrun hfits

theorem Step.events (hstep : Step h new h') : new = [] ∨ ∃ e, new = [e] := by
  cases hstep with
  | instantiate => exact Or.inr ⟨_, rfl⟩
  | connect => exact Or.inr ⟨_, rfl⟩
  | disconnect => exact Or.inr ⟨_, rfl⟩
  | unref =>
    unfold lossOf
    split
    · exact Or.inl rfl
    · exact Or.inr ⟨_, rfl⟩
  | _ => exact Or.inl rfl

/-- A run taken apart at an event. -/
theorem Run.split (hrun : Run h es h') {e : Event κ} (hes : es = before ++ e :: after) :
    ∃ h₁ h₂, Run h before h₁ ∧ Step h₁ [e] h₂ ∧ Run h₂ after h' := by
  induction hrun generalizing after with
  | rest => exact absurd hes (by simp)
  | @step es new heap next hbefore hlast ih =>
    rcases hlast.events with rfl | ⟨last, rfl⟩
    · rw [List.append_nil] at hes
      obtain ⟨h₁, h₂, hrun₁, hstep, hrun₂⟩ := ih hes
      refine ⟨h₁, h₂, hrun₁, hstep, ?_⟩
      rw [← List.append_nil after]
      exact hrun₂.step hlast
    · rcases concat_eq_append_cons hes with ⟨rfl, rfl, rfl⟩ | ⟨rest, hsame, rfl⟩
      · exact ⟨heap, next, hbefore, hlast, .rest⟩
      · obtain ⟨h₁, h₂, hrun₁, hstep, hrun₂⟩ := ih hsame
        exact ⟨h₁, h₂, hrun₁, hstep, hrun₂.step hlast⟩

/-- The place where an identifier was handed out. -/
theorem Run.split_created (hrun : Run {} es h) (hfits : h.slots.length ≤ 2 ^ 32)
    (hes : es = before ++ .created o :: after) :
    ∃ h₁ h₂ : Heap κ, h₁.Dated before ∧ h₁.Makes o h₂ ∧ h₂.slots.length ≤ h.slots.length := by
  obtain ⟨h₁, h₂, hrun₁, hstep, hrun₂⟩ := hrun.split hes
  have hlength := hrun₂.length_le
  have hd := hrun₁.dated ((length_le_of_step hstep).trans (hlength.trans hfits))
  generalize hnew : [Event.created o] = new at hstep
  cases hstep.outcome with
  | kept hsame hquiet =>
    rw [← hnew] at hquiet
    exact absurd List.mem_cons_self (hquiet o).1
  | created hmade =>
    obtain rfl := Event.created.inj (List.singleton_inj.mp hnew)
    exact ⟨h₁, h₂, hd, hd.makes hmade (hlength.trans hfits), hlength⟩
  | finalized halive => exact absurd (List.singleton_inj.mp hnew) (by simp)

/-- An identifier comes again when its slot has gone through all counts. -/
theorem Run.again (hrun : Run {} es h) (hfits : h.slots.length ≤ 2 ^ 32)
    (hes : es = before ++ .created o :: (middle ++ .created o :: after)) :
    0 < finalizations o.index middle ∧ 2 ^ 32 ∣ finalizations o.index middle := by
  obtain ⟨h₁, h₂, hd₁, hmade₁, -⟩ := hrun.split_created hfits hes
  have hes' : es = (before ++ .created o :: middle) ++ .created o :: after := by
    rw [hes, List.append_assoc]
    rfl
  obtain ⟨h₃, h₄, hd₃, hmade₃, -⟩ := hrun.split_created hfits hes'
  have hcount : finalizations o.index (before ++ .created o :: middle) =
      finalizations o.index before + finalizations o.index middle := by
    rw [finalizations_append]
    rfl
  constructor
  · -- the object was finalized in between, since its slot was empty both times
    have hbefore := hd₁.once o
    have hboth := hd₃.once o
    have hends := countP_finalizes_le o middle
    rw [hmade₁.not_alive rfl] at hbefore
    rw [hmade₃.not_alive rfl, List.countP_append, List.countP_append,
      List.countP_cons_of_pos (creates_iff.mpr rfl),
      List.countP_cons_of_neg (by simp [Event.finalizes])] at hboth
    simp only [Bool.false_eq_true, if_false] at hbefore hboth
    omega
  · have hfirst := hd₁.fresh hmade₁
    have hsecond := hd₃.fresh hmade₃
    rw [hcount, hfirst] at hsecond
    have hmod := congrArg UInt32.toNat hsecond
    simp only [UInt32.toNat_ofNat'] at hmod
    omega

/-- What is finalized stays dead, as long as its identifier does not come
again. -/
theorem Run.dead (hrun : Run {} es h) (hfits : h.slots.length ≤ 2 ^ 32)
    (hes : es = before ++ .finalized o :: after) (hnot : .created o ∉ after) :
    h.isAlive o = false := by
  have hall := (hrun.dated hfits).once o
  obtain ⟨h₁, h₂, hrun₁, hstep, hrun₂⟩ := hrun.split hes
  have hlength := (length_le_of_step hstep).trans hrun₂.length_le
  have hbefore := (hrun₁.dated (hlength.trans hfits)).once o
  rw [hes, List.countP_append, List.countP_append,
    List.countP_cons_of_neg (by simp [Event.creates]),
    List.countP_cons_of_pos (finalizes_iff.mpr rfl), countP_creates_eq_zero hnot] at hall
  by_contra halive
  rw [Bool.not_eq_false] at halive
  rw [halive] at hall
  split at hbefore <;> simp only [if_true] at hall <;> omega

end Heap

/-! ## Stale identifiers -/

namespace System

variable {σ : Type}

/-- Whatever is tried with an identifier fails because it is stale, and
changes nothing. -/
structure Refuses (s : System σ) (o : ObjectId) : Prop where
  type : s.heap.typeOf? o = none
  refs : s.heap.refCount? o = none
  dead : s.heap.isAlive o = false
  ref : (changeHeap fun h => (h.ref o).map ((), ·)).run.run s =
    (.error (.native (.staleObject o)), s)
  unref : (unrefObject o).run.run s = (.error (.native (.staleObject o)), s)
  connect : ∀ signal subscriber after,
    (changeHeap (·.connect o signal subscriber after)).run.run s =
      (.error (.native (.staleObject o)), s)
  disconnect : ∀ id, (disconnectHandler o id).run.run s = (.error (.native (.staleObject o)), s)
  emit : ∀ g signal args, (NativeBridge.emit g o signal args).run.run s =
    (.error (.native (.staleObject o)), s)

theorem refuses_of_dead {s : System σ} {o : ObjectId} (hdead : s.heap.isAlive o = false) :
    s.Refuses o := by
  have hl := Heap.live?_eq_none_iff.mpr hdead
  have hlive : s.heap.live o = .error (.staleObject o) := by simp [Heap.live, hl]
  refine ⟨?_, ?_, hdead, ?_, ?_, ?_, ?_, ?_⟩
  · simp [Heap.typeOf?, hl]
  · simp [Heap.refCount?, hl]
  · apply run_changeHeap_error
    simp [Heap.ref, hlive, bind, Except.bind, Except.map]
  · exact run_unrefObject_error s (Heap.unref_of_stale hl)
  · intro signal subscriber after
    apply run_changeHeap_error
    simp [Heap.connect, hlive, bind, Except.bind]
  · intro id
    have hfails : s.heap.disconnect o id = .error (.staleObject o) := by
      simp [Heap.disconnect, hlive, bind, Except.bind]
    exact run_disconnectHandler_error s hfails
  · intro g signal args
    apply run_emit_of_error
    simp [Heap.beginEmission, hlive, bind, Except.bind]

end System

/-! ## The law -/

/-- The heap of a later state is what a run made of the earlier one. -/
def HeapRuns (a b : System Ledger) : Prop := ∃ es, Heap.Run a.heap es b.heap

theorem HeapRuns.trans {a b c : System Ledger} : HeapRuns a b → HeapRuns b c → HeapRuns a c
  | ⟨_, h⟩, ⟨_, h'⟩ => ⟨_, h.trans h'⟩

theorem heap_runs : IsLaw HeapRuns fun a m b => HeapRuns a m ∧ HeapRuns m b where
  still h := by
    unfold HeapRuns
    rw [h.heap]
    exact ⟨[], .rest⟩
  heap hstep := ⟨_, hstep.run⟩
  newRegistry a fundamentals := ⟨[], .rest⟩
  changeRegistry a id change := by
    unfold Arrangement.apply
    dsimp only
    split <;> exact ⟨[], .rest⟩
  emission h := h
  trans := HeapRuns.trans
  seen a := ⟨⟨[], .rest⟩, ⟨[], .rest⟩⟩
  after h h' := ⟨h.trans h'.1, h'.2⟩
  before h h' := ⟨h.1, h.2.trans h'⟩
  during h := h

namespace Heap

variable {es : List (Event Subscriber)} {h : Heap Subscriber}

/-- What the generations of a heap keep to, after a run with these events. -/
structure Generational (h : Heap Subscriber) (es : List (Event Subscriber)) : Prop where
  /-- The free list has each empty slot once, and nothing else. -/
  free_nodup : h.free.Nodup
  mem_free_iff : ∀ i : UInt32, i ∈ h.free ↔
    ∃ slot, h.slots[i.toNat]? = some slot ∧ slot.live = none
  index_injective : ∀ o p, h.isAlive o → h.isAlive p → o.index = p.index → o = p
  /-- A new object takes the slot of no live one, and its identifier counts
  how often that slot was emptied. -/
  fresh : ∀ type o heap, h.instantiate type = .ok (o, heap) → heap.slots.length ≤ 2 ^ 32 →
    o.generation = UInt32.ofNat (finalizations o.index es) ∧
      ∀ p, h.isAlive p → p.index ≠ o.index ∧ heap.live? p = h.live? p
  /-- Each object ends at most once, and all ends are counted. -/
  once : ∀ o, es.countP (·.creates o) = es.countP (·.finalizes o) + if h.isAlive o then 1 else 0
  finalized : h.finalized = es.countP (·.isFinalization)
  /-- An identifier comes again after a multiple of all counts. -/
  again : ∀ before o middle after, es = before ++ .created o :: (middle ++ .created o :: after) →
    0 < finalizations o.index middle ∧ 2 ^ 32 ∣ finalizations o.index middle
  /-- Until then, an identifier whose object has ended is refused. -/
  stale : ∀ before o after, es = before ++ .finalized o :: after → .created o ∉ after →
    ∀ {σ : Type} (s : System σ), s.heap = h → s.Refuses o

theorem mem_outline_iff {κ : Type} {h : Heap κ} {n : Nat} :
    (∃ generation, h.outline[n]? = some (generation, false)) ↔
      ∃ slot, h.slots[n]? = some slot ∧ slot.live = none := by
  unfold outline
  rw [List.getElem?_map]
  cases h.slots[n]? with
  | none => simp
  | some slot => simp [Slot.outline]

theorem index_injective {κ : Type} {h : Heap κ} {o p : ObjectId} (ho : h.isAlive o)
    (hp : h.isAlive p) (hindex : o.index = p.index) : o = p := by
  rw [isAlive_iff] at ho hp
  rw [hindex, hp] at ho
  cases o
  cases p
  simp_all

theorem Run.generational (hrun : Run {} es h) (hfits : h.slots.length ≤ 2 ^ 32) :
    h.Generational es where
  free_nodup := (hrun.dated hfits).free_nodup
  mem_free_iff i := ((hrun.dated hfits).mem_free i).trans mem_outline_iff
  index_injective _ _ := index_injective
  fresh type o heap hmade hmore := by
    have hd := hrun.dated hfits
    have hmakes := hd.makes hmade hmore
    refine ⟨hd.fresh hmakes, fun p hp => ?_⟩
    have hne : p.index ≠ o.index := by
      intro hindex
      rw [hmakes.not_alive hindex] at hp
      exact Bool.noConfusion hp
    exact ⟨hne, hmakes.others p hne⟩
  once := (hrun.dated hfits).once
  finalized := (hrun.dated hfits).finalized
  again _ _ _ _ hes := hrun.again hfits hes
  stale _ o _ hes hnot _ s hheap := by
    apply System.refuses_of_dead
    rw [hheap]
    exact hrun.dead hfits hes hnot

end Heap

/-- The heap at every moment is what a run of its operations made of the empty
one. After every run, with no more slots than there are numbers for them, the
free slots are the empty ones, identifiers carry the count of their slot, and
a stale identifier is refused until its slot has gone through all counts. -/
theorem generational_safety :
    (∀ {c : Conduct} {m : System Ledger}, Reachable c m → ∃ es, Heap.Run {} es m.heap) ∧
      ∀ {es : List (Heap.Event Subscriber)} {h : Heap Subscriber}, Heap.Run {} es h →
        h.slots.length ≤ 2 ^ 32 → h.Generational es :=
  ⟨fun hm => (hm.since heap_runs).elim fun _ h => h.1, fun hrun hfits => hrun.generational hfits⟩

namespace Sample

/-- An object comes and goes, and the next one takes its slot. -/
def reuse : List (Heap.Event Subscriber) :=
  [.created ⟨0, 0⟩, .finalized ⟨0, 0⟩, .created ⟨0, 1⟩]

def nodes : Heap Subscriber :=
  { types := ({} : Hierarchy).set type { name := "Node", parent := none } }

def taken : Heap Subscriber := { nodes with slots := [⟨0, some { type, refs := 1 }⟩] }

def emptied : Heap Subscriber :=
  { nodes with slots := [⟨1, none⟩], free := [0], finalized := 1 }

def reused : Heap Subscriber :=
  { nodes with slots := [⟨1, some { type, refs := 1 }⟩], finalized := 1 }

theorem reused_run : Heap.Run {} reuse reused := by
  have hdefined : (TypeChange.define "Node" none).apply {} = .ok nodes.types := rfl
  have htaken : nodes.instantiate type = .ok (⟨0, 0⟩, taken) := rfl
  have hemptied : taken.unref ⟨0, 0⟩ = .ok ([], emptied) := rfl
  have hreused : emptied.instantiate type = .ok (⟨0, 1⟩, reused) := rfl
  have hrun : Heap.Run {} [.created ⟨0, 0⟩, .finalized ⟨0, 0⟩] emptied :=
    ((Heap.Step.changeTypes hdefined).run.step (.instantiate htaken)).step (.unref hemptied)
  exact hrun.step (.instantiate hreused)

end Sample

/-- The first identifier is refused while the second object has its slot. -/
theorem sample_generational_safety :
    (∃ es, Heap.Run {} es Sample.world.moment.heap) ∧ Sample.reused.isAlive ⟨0, 1⟩ = true ∧
      Sample.reused.Generational Sample.reuse ∧
      ({ heap := Sample.reused, guest := () } : System Unit).Refuses ⟨0, 0⟩ := by
  obtain ⟨hreached, hlaw⟩ := generational_safety
  have hlegal : Sample.reused.Generational Sample.reuse := hlaw Sample.reused_run (by decide)
  refine ⟨hreached (Sample.world_reached .fair).now, rfl, hlegal, ?_⟩
  exact hlegal.stale [.created ⟨0, 0⟩] ⟨0, 0⟩ [.created ⟨0, 1⟩] rfl (by simp) _ rfl

end NativeBridge
