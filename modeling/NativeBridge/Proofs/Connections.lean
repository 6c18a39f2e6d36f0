-- What is connected to an object, as the events of a run tell it: handlers
-- come in at the end and stay in order, and an emission calls those of its
-- signal in one order. And what it means that no count of references was ever
-- full.
import Mathlib.Data.List.Sort
import NativeBridge.Proofs.Generations

namespace NativeBridge

variable {κ : Type}

namespace Heap

variable {h h' : Heap κ} {es new : List (Event κ)} {o p : ObjectId} {object : LiveObject κ}

/-! ## Handlers -/

/-- The handlers of an object when one more event has happened. -/
def Event.reconnect (o : ObjectId) (handlers : List (Connection κ)) :
    Event κ → List (Connection κ)
  | created p => if p = o then [] else handlers
  | finalized _ => handlers
  | connected p connection => if p = o then handlers ++ [connection] else handlers
  | disconnected p id => if p = o then handlers.eraseP (·.id == id) else handlers

/-- What is connected to an object, in the order of connection. -/
def connectedTo (o : ObjectId) (es : List (Event κ)) : List (Connection κ) :=
  es.foldl (Event.reconnect o) []

theorem connectedTo_snoc (o : ObjectId) (es : List (Event κ)) (e : Event κ) :
    connectedTo o (es ++ [e]) = e.reconnect o (connectedTo o es) := by
  unfold connectedTo
  rw [List.foldl_append]
  rfl

/-- The live objects have the handlers that were connected to them. -/
def Linked (h : Heap κ) (es : List (Event κ)) : Prop :=
  ∀ o object, h.live? o = some object → object.handlers = connectedTo o es

/-- An object in its slot has changed, and the others have not. -/
theorem live?_store {g : Heap κ} {old : LiveObject κ} (hslots : g.slots = h.slots)
    (hl : h.live? o = some old) (new : LiveObject κ) (p : ObjectId) :
    (g.store o new).live? p = if p = o then some new else h.live? p := by
  have hg : ∀ q, g.live? q = h.live? q := fun q => live?_of_slots (by rw [hslots])
  have hold : g.live? o = some old := (hg o).trans hl
  split
  · rename_i hp
    rw [hp]
    exact live?_store_self new hold
  · rename_i hp
    rw [live?_store_ne new hold hp, hg]

/-- An object has changed, and its handlers have not. -/
theorem Linked.kept {g : Heap κ} {old : LiveObject κ} (hlinked : h.Linked es)
    (hslots : g.slots = h.slots) (hl : h.live? o = some old)
    (hsame : object.handlers = old.handlers) :
    (g.store o object).Linked es := by
  intro p found hfound
  rw [live?_store hslots hl] at hfound
  split at hfound
  · rename_i hp
    obtain rfl := Option.some.inj hfound
    rw [hsame, hp]
    exact hlinked o old hl
  · exact hlinked p found hfound

/-- The handlers of an object have changed, with an event that says so. -/
theorem Linked.changed {g : Heap κ} {old : LiveObject κ} {e : Event κ} (hlinked : h.Linked es)
    (hslots : g.slots = h.slots) (hl : h.live? o = some old)
    (hself : object.handlers = e.reconnect o old.handlers)
    (hothers : ∀ p handlers, p ≠ o → e.reconnect p handlers = handlers) :
    (g.store o object).Linked (es ++ [e]) := by
  intro p found hfound
  rw [live?_store hslots hl] at hfound
  rw [connectedTo_snoc]
  split at hfound
  · rename_i hp
    obtain rfl := Option.some.inj hfound
    rw [hself, hp, hlinked o old hl]
  · rename_i hp
    rw [hothers p _ hp]
    exact hlinked p found hfound

theorem Linked.created (hlinked : h.Linked es) (hmade : h.Makes o h') :
    h'.Linked (es ++ [.created o]) := by
  intro p found hfound
  rw [connectedTo_snoc]
  unfold Event.reconnect
  dsimp only
  split
  · rename_i hp
    subst hp
    exact hmade.handlers found hfound
  · rename_i hp
    have hne : p.index ≠ o.index := by
      intro hindex
      have halive := isAlive_of_live hfound
      rw [hmade.isAlive, hmade.not_alive hindex, Bool.false_or, beq_iff_eq] at halive
      exact hp halive.symm
    rw [hmade.others p hne] at hfound
    exact hlinked p found hfound

theorem Linked.unref (hlinked : h.Linked es) {handlers : List (Connection κ)}
    (hdone : h.unref o = .ok (handlers, h')) : h'.Linked (es ++ h'.lossOf o) := by
  obtain ⟨object, hl, ⟨-, -, rfl⟩ | ⟨-, -, rfl⟩⟩ := unref_ok hdone
  · rw [lossOf_vacate]
    intro p found hfound
    have hne : p ≠ o := by
      rintro rfl
      rw [live?_vacate_self] at hfound
      exact absurd hfound (by simp)
    rw [live?_vacate_ne hl hne] at hfound
    have hsame := connectedTo_snoc p es (.finalized o)
    exact (hlinked p found hfound).trans hsame.symm
  · rw [lossOf_store _ hl, List.append_nil]
    exact hlinked.kept rfl hl rfl

theorem Linked.step (hlinked : h.Linked es) (hd : h.Dated es) (hstep : Step h new h')
    (hfits : h'.slots.length ≤ 2 ^ 32) : h'.Linked (es ++ new) := by
  cases hstep with
  | changeTypes hdone =>
    rw [List.append_nil]
    exact fun p found hfound => hlinked p found hfound
  | instantiate hdone => exact hlinked.created (hd.makes hdone hfits)
  | ref hdone =>
    obtain ⟨object, hl, rfl⟩ := ref_ok hdone
    rw [List.append_nil]
    exact hlinked.kept rfl hl rfl
  | unref hdone => exact hlinked.unref hdone
  | @connect o signal closure after id heap hdone =>
    obtain ⟨object, hl, rfl⟩ := connect_ok hdone
    apply hlinked.changed rfl hl
    · exact (if_pos rfl).symm
    · exact fun p handlers hp => if_neg fun heq => hp heq.symm
  | disconnect hdone =>
    obtain ⟨object, hl, -, rfl⟩ := disconnect_ok hdone
    apply hlinked.changed rfl hl
    · exact (if_pos rfl).symm
    · exact fun p handlers hp => if_neg fun heq => hp heq.symm
  | beginEmission hdone =>
    obtain ⟨object, hl, rfl, -⟩ := beginEmission_ok hdone
    rw [List.append_nil]
    exact hlinked.kept rfl hl rfl

/-- What a live object has connected is what the run connected to it and did
not disconnect, in that order. -/
theorem Run.linked (hrun : Run {} es h) (hfits : h.slots.length ≤ 2 ^ 32) : h.Linked es := by
  induction hrun with
  | rest =>
    intro p found hfound
    exact absurd hfound (by simp [live?])
  | step hbefore hlast ih =>
    have hfits' := (length_le_of_step hlast).trans hfits
    exact (ih hfits').step (hbefore.dated hfits') hlast hfits

/-! ## The order of calls -/

variable {handlers : List (Connection κ)} {signal : String} {places : List Nat}

/-- Of the connections at two places, the first is called before the second: it is
a normal one and the other is not, or both are alike and it is the older one. -/
def CalledBefore (handlers : List (Connection κ)) (i j : Nat) : Prop :=
  ∃ c d, handlers[i]? = some c ∧ handlers[j]? = some d ∧
    ((c.after = false ∧ d.after = true) ∨ (c.after = d.after ∧ i < j))

/-- The places of all connections to a signal, in the order in which they are called. -/
structure CallOrder (handlers : List (Connection κ)) (signal : String) (places : List Nat) :
    Prop where
  mem : ∀ i, i ∈ places ↔ ∃ c, handlers[i]? = some c ∧ c.signal = signal
  sorted : places.Pairwise (CalledBefore handlers)

instance : Std.Irrefl (CalledBefore handlers) where
  irrefl i := by
    rintro ⟨c, d, hc, hd, ⟨hnormal, hafter⟩ | ⟨-, hlt⟩⟩
    · obtain rfl := Option.some.inj (hc.symm.trans hd)
      exact absurd (hnormal.symm.trans hafter) (by simp)
    · exact Nat.lt_irrefl i hlt

instance : Std.Antisymm (CalledBefore handlers) where
  antisymm i j := by
    rintro ⟨c, d, hc, hd, hfirst⟩ ⟨d', c', hd', hc', hsecond⟩
    obtain rfl := Option.some.inj (hc.symm.trans hc')
    obtain rfl := Option.some.inj (hd.symm.trans hd')
    rcases hfirst with ⟨hnormal, hafter⟩ | ⟨hsame, hlt⟩
    · simp [hnormal, hafter] at hsecond
    · rcases hsecond with ⟨hnormal, hafter⟩ | ⟨-, hgt⟩
      · simp [hnormal, hafter] at hsame
      · exact absurd hgt (Nat.lt_asymm hlt)

/-- There is one order only. -/
theorem CallOrder.unique {other : List Nat} (h : CallOrder handlers signal places)
    (h' : CallOrder handlers signal other) : places = other :=
  h.sorted.eq_of_mem_iff h'.sorted fun i => (h.mem i).trans (h'.mem i).symm

/-- The places of the connections to a signal that are normal, or that are not. -/
def placesOf (handlers : List (Connection κ)) (signal : String) (after : Bool) : List Nat :=
  (List.range handlers.length).filter fun i =>
    handlers[i]?.any fun c => c.signal == signal && c.after == after

theorem mem_placesOf {after : Bool} {i : Nat} : i ∈ placesOf handlers signal after ↔
    ∃ c, handlers[i]? = some c ∧ c.signal = signal ∧ c.after = after := by
  unfold placesOf
  rw [List.mem_filter, List.mem_range]
  constructor
  · rintro ⟨hlt, hany⟩
    rw [List.getElem?_eq_getElem hlt, Option.any_some, Bool.and_eq_true, beq_iff_eq, beq_iff_eq]
      at hany
    exact ⟨handlers[i], List.getElem?_eq_getElem hlt, hany⟩
  · rintro ⟨c, hc, hsignal, hafter⟩
    exact ⟨(List.getElem?_eq_some_iff.mp hc).1, by simp [hc, hsignal, hafter]⟩

theorem pairwise_placesOf (handlers : List (Connection κ)) (signal : String) (after : Bool) :
    (placesOf handlers signal after).Pairwise (CalledBefore handlers) := by
  refine (List.pairwise_lt_range.filter _).imp_of_mem fun {i j} hi hj hlt => ?_
  obtain ⟨c, hc, -, hafter⟩ := mem_placesOf.mp hi
  obtain ⟨d, hd, -, hafter'⟩ := mem_placesOf.mp hj
  exact ⟨c, d, hc, hd, .inr ⟨hafter.trans hafter'.symm, hlt⟩⟩

theorem callOrder_placesOf (handlers : List (Connection κ)) (signal : String) :
    CallOrder handlers signal (placesOf handlers signal false ++ placesOf handlers signal true) where
  mem i := by
    rw [List.mem_append, mem_placesOf, mem_placesOf]
    constructor
    · rintro (⟨c, hc, hsignal, -⟩ | ⟨c, hc, hsignal, -⟩) <;> exact ⟨c, hc, hsignal⟩
    · rintro ⟨c, hc, hsignal⟩
      cases hafter : c.after
      · exact .inl ⟨c, hc, hsignal, hafter⟩
      · exact .inr ⟨c, hc, hsignal, hafter⟩
  sorted := by
    refine List.pairwise_append.mpr
      ⟨pairwise_placesOf _ _ _, pairwise_placesOf _ _ _, fun i hi j hj => ?_⟩
    obtain ⟨c, hc, -, hnormal⟩ := mem_placesOf.mp hi
    obtain ⟨d, hd, -, hafter⟩ := mem_placesOf.mp hj
    exact ⟨c, d, hc, hd, .inl ⟨hnormal, hafter⟩⟩

theorem filterMap_placesOf (handlers : List (Connection κ)) (signal : String) (after : Bool) :
    ((placesOf handlers signal after).filterMap fun i => handlers[i]?.map (·.closure)) =
      (handlers.filter fun c => c.signal == signal && c.after == after).map (·.closure) := by
  unfold placesOf
  induction handlers with
  | nil => rfl
  | cons c rest ih =>
    have hrest : (((List.range rest.length).map Nat.succ).filter fun i =>
        (c :: rest)[i]?.any fun c => c.signal == signal && c.after == after).filterMap
          (fun i => (c :: rest)[i]?.map (·.closure)) =
        (rest.filter fun c => c.signal == signal && c.after == after).map (·.closure) := by
      rw [List.filter_map, List.filterMap_map]
      exact ih
    rw [List.length_cons, List.range_succ_eq_map, List.filter_cons, List.filter_cons,
      List.getElem?_cons_zero, Option.any_some]
    split
    · rw [List.map_cons, ← hrest]
      exact List.filterMap_cons_some rfl
    · exact hrest

/-- The closures for a signal are those of its connections, in the order of calls. -/
theorem closuresFor_eq_filterMap (h : CallOrder handlers signal places) :
    closuresFor handlers signal = places.filterMap fun i => handlers[i]?.map (·.closure) := by
  rw [h.unique (callOrder_placesOf handlers signal), List.filterMap_append, filterMap_placesOf,
    filterMap_placesOf]
  rfl
/-! ## Full counts -/

/-- What was taken note of stays so. -/
theorem full_of_step (hstep : Step h new h') (hfull : h.full = true) : h'.full = true := by
  cases hstep with
  | changeTypes hdone => exact hfull
  | instantiate hdone =>
    obtain ⟨-, ⟨index, free, -, -, rfl⟩ | ⟨-, -, rfl⟩⟩ := instantiate_ok hdone <;>
      simp [store, hfull]
  | ref hdone =>
    obtain ⟨object, -, rfl⟩ := ref_ok hdone
    simp [raise, store, hfull]
  | unref hdone =>
    obtain ⟨object, -, ⟨-, -, rfl⟩ | ⟨-, -, rfl⟩⟩ := unref_ok hdone <;> exact hfull
  | connect hdone =>
    obtain ⟨object, -, rfl⟩ := connect_ok hdone
    exact hfull
  | disconnect hdone =>
    obtain ⟨object, -, -, rfl⟩ := disconnect_ok hdone
    exact hfull
  | beginEmission hdone =>
    obtain ⟨object, -, rfl, -⟩ := beginEmission_ok hdone
    simp [raise, store, hfull]

/-- No count was full before, if none was in the end. -/
theorem Run.not_full (hrun : Run h es h') (hfull : h'.full = false) : h.full = false := by
  induction hrun with
  | rest => exact hfull
  | @step es new heap next _ last ih =>
    apply ih
    cases hbefore : heap.full with
    | false => rfl
    | true =>
      rw [full_of_step last hbefore] at hfull
      exact Bool.noConfusion hfull

/-- There are no more slots than there are numbers for them, as long as
nothing was full. -/
theorem Run.fits (hrun : Run {} es h) (hfull : h.full = false) : h.slots.length ≤ 2 ^ 32 := by
  induction hrun with
  | rest => exact Nat.zero_le _
  | @step es new heap next hbefore last ih =>
    have hfits := ih (last.run.not_full hfull)
    cases last.outcome with
    | kept hsame hquiet => exact (Nat.le_of_eq hsame.length).trans hfits
    | created hmade =>
      obtain ⟨-, ⟨index, free, -, -, rfl⟩ | ⟨-, -, rfl⟩⟩ := instantiate_ok hmade
      · simpa [store] using hfits
      · simp only [Bool.or_eq_false_iff, decide_eq_false_iff_not, UInt32.size] at hfull
        rw [List.length_append, List.length_singleton]
        omega
    | finalized halive => simpa [vacate] using hfits

end Heap

end NativeBridge
