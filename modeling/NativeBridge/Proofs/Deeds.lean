-- Deeds keep the books. Each deed of outside code leaves them balanced with
-- the ledger as the deed leaves it, and so does every run of deeds, however
-- the code that the library calls in the middle of them acts.
import NativeBridge.Proofs.Signals
import NativeBridge.Proofs.Upkeep

namespace NativeBridge

variable {τ α : Type} {c : Conduct}

/-! ## The ledger -/

namespace Ledger

variable (l : Ledger) (o : ObjectId)

theorem tokens_gain (ts : List Release) : (l.gain ts).tokens = ts + l.tokens := by
  simp only [tokens, gain, ← Multiset.coe_add, add_assoc]

theorem tokens_take : (l.take o).tokens = .object o ::ₘ l.tokens := by
  simp only [tokens, take, List.map_cons, ← Multiset.cons_coe, Multiset.add_cons,
    Multiset.cons_add]

theorem tokens_spend {l : Ledger} {o : ObjectId} (h : o ∈ l.refs) :
    l.tokens = .object o ::ₘ (l.spend o).tokens := by
  have hperm : (l.refs.map Release.object : Multiset Release) =
      .object o ::ₘ ((l.refs.erase o).map Release.object : List Release) := by
    rw [Multiset.cons_coe, Multiset.coe_eq_coe]
    exact (List.perm_cons_erase h).map Release.object
  simp only [tokens, spend, hperm, Multiset.add_cons, Multiset.cons_add]

theorem spend_of_not_mem {l : Ledger} {o : ObjectId} (h : o ∉ l.refs) : l.spend o = l := by
  simp only [spend, List.erase_of_not_mem h]

theorem held_lose (place : Nat) :
    (l.held : Multiset Release) = (l.held[place]?).toList + (l.lose place).held := by
  unfold lose
  by_cases hplace : place < l.held.length
  · rw [List.getElem?_eq_getElem hplace, Option.toList_some, Multiset.coe_add, Multiset.coe_eq_coe]
    exact (List.getElem_cons_eraseIdx_perm hplace).symm
  · rw [List.getElem?_eq_none (by omega), List.eraseIdx_of_length_le (by omega)]
    rfl

end Ledger

namespace Holding

variable {F : Multiset Release} {E : List ObjectId} {s t : World τ} {o : ObjectId}
  {ts : List Release}

/-- What the library holds goes to outside code. -/
theorem gainAll (h : Holding c (ts + F) E s) : Holding c F E (s.changeLedger (·.gain ts)) := by
  refine ⟨?_, ?_, h.emitting, h.diary⟩
  · intro u hu
    apply h.shared u
    simp only [World.changeLedger, Ledger.gain, ← Multiset.coe_add] at hu
    rwa [add_comm (ts : Multiset Release), add_assoc]
  · have hbalanced := h.balanced
    rw [add_comm (ts : Multiset Release), add_assoc, ← Ledger.tokens_gain] at hbalanced
    exact hbalanced

/-- What outside code is about to give to the library. -/
theorem of_gainAll (h : Holding c F E (s.changeLedger (·.gain ts))) : Holding c (ts + F) E s := by
  refine ⟨?_, ?_, h.emitting, h.diary⟩
  · intro u hu
    apply h.shared u
    simp only [World.changeLedger, Ledger.gain, ← Multiset.coe_add]
    rwa [add_left_comm, ← add_assoc]
  · have hbalanced : Balanced c 0 (F + (s.guest.ledger.gain ts).tokens) s.books := h.balanced
    rwa [Ledger.tokens_gain, add_left_comm, ← add_assoc] at hbalanced

/-- A holder of outside code goes to the library. -/
theorem lose (h : Holding c F E s) (place : Nat) :
    Holding c ((s.guest.ledger.held[place]?).toList + F) E (s.changeLedger (·.lose place)) := by
  have hheld := s.guest.ledger.held_lose place
  refine ⟨?_, ?_, h.emitting, h.diary⟩
  · intro u hu
    apply h.shared u
    rw [hheld, add_left_comm, ← add_assoc]
    exact hu
  · have hbalanced := h.balanced
    have htokens : F + s.guest.ledger.tokens = (s.guest.ledger.held[place]?).toList + F +
        (s.changeLedger (·.lose place)).guest.ledger.tokens := by
      simp only [Ledger.tokens]
      rw [hheld]
      simp only [World.changeLedger, Ledger.lose]
      abel
    rw [htokens] at hbalanced
    exact hbalanced

/-- A change of the references that outside code has. -/
theorem withLedger (h : Holding c F E s) {l : Ledger} {Q : Multiset Release}
    (hheld : l.held = s.guest.ledger.held) (hemitting : l.emitting = s.guest.ledger.emitting)
    (hguest : t.guest = { s.guest with ledger := l })
    (hshared : ∀ u ∈ Q, u ∈ F ∨ u.account.IsShared)
    (hbalanced : Balanced c 0 (Q + l.tokens) t.books) : Holding c Q E t := by
  refine ⟨?_, ?_, ?_, ?_⟩
  · intro u hu
    simp only [hguest, hheld] at hu
    rcases Multiset.mem_add.mp hu with hu | hu
    · rcases hshared u hu with hF | hs
      · exact h.shared u (Multiset.mem_add.mpr (Or.inl hF))
      · exact hs
    · exact h.shared u (Multiset.mem_add.mpr (Or.inr hu))
  · rw [hguest]
    exact hbalanced
  · simp only [hguest]
    rw [hemitting, h.emitting]
  · rw [hguest]
    exact h.diary

/-- A change of these references that brings one holder. -/
theorem gainWithLedger (h : Holding c F E s) {l : Ledger} {u : Release}
    (hheld : l.held = s.guest.ledger.held) (hemitting : l.emitting = s.guest.ledger.emitting)
    (hguest : t.guest = { s.guest with ledger := l }) (hs : u.account.IsShared)
    (hbalanced : Balanced c 0 (u ::ₘ (F + l.tokens)) t.books) : Holding c ({u} + F) E t := by
  apply h.withLedger hheld hemitting hguest
  · intro v hv
    rcases Multiset.mem_add.mp hv with hv | hv
    · rw [Multiset.mem_singleton.mp hv]
      exact Or.inr hs
    · exact Or.inl hv
  · rwa [add_assoc, Multiset.singleton_add]

/-- Outside code gets a reference. -/
theorem takeRef (h : Holding c F E s) (hguest : t.guest = s.guest)
    (hbalanced : Balanced c 0 (.object o ::ₘ (F + s.guest.ledger.tokens)) t.books) :
    Holding c F E (t.changeLedger (·.take o)) := by
  rw [← Multiset.add_cons, ← Ledger.tokens_take] at hbalanced
  refine h.withLedger (l := s.guest.ledger.take o) rfl rfl ?_ (fun u hu => Or.inl hu) hbalanced
  simp only [World.changeLedger, hguest]

/-- Outside code gives up a reference, which it has if it is fair. -/
theorem spendRef (h : Holding c F E s) (hfair : c = .fair → o ∈ s.guest.ledger.refs) :
    Balanced c 0 (.object o ::ₘ (F + (s.guest.ledger.spend o).tokens)) s.books := by
  by_cases ho : o ∈ s.guest.ledger.refs
  · have hbalanced := h.balanced
    rwa [Ledger.tokens_spend ho, Multiset.add_cons] at hbalanced
  · cases c with
    | fair => exact absurd (hfair rfl) ho
    | any =>
      rw [Ledger.spend_of_not_mem ho]
      exact h.balanced.credit o

end Holding

/-! ## Attempts of outside code -/

variable {H : Multiset Release → World τ → Prop}

/-- What is held, told in a way that respects the ledger too. -/
structure IsLedgerkeeping (H : Multiset Release → World τ → Prop) : Prop
    extends IsBookkeeping H where
  /-- What the library holds goes to outside code. -/
  gainAll : ∀ {F : Multiset Release} {s : World τ} {ts : List Release}, H (ts + F) s →
    H F (s.changeLedger (·.gain ts))
  /-- What outside code is about to give to the library. -/
  of_gainAll : ∀ {F : Multiset Release} {s : World τ} {ts : List Release},
    H F (s.changeLedger (·.gain ts)) → H (ts + F) s

theorem Holding.isLedgerkeeping (c : Conduct) (E : List ObjectId) :
    IsLedgerkeeping fun F (s : World τ) => Holding c F E s where
  toIsBookkeeping := Holding.isBookkeeping c E
  gainAll h := h.gainAll
  of_gainAll h := h.of_gainAll

theorem IsLedgerkeeping.gainOne (hH : IsLedgerkeeping H) {F : Multiset Release} {s : World τ}
    {u : Release} (h : H ({u} + F) s) : H F (s.changeLedger (·.gain [u])) := by
  have hall : H (([u] : List Release) + F) s := h
  exact hH.gainAll hall

theorem attempting_swaps {a : Attempt (Outside τ) α} {P Q : Multiset Release}
    (ha : SwapsOr H a P (fun _ => Q) Q) : Swaps H (attempting a) P fun _ => Q :=
  fun F s h => SwapsOr.same_iff.mp ha F s h

theorem gainResult_swaps (hH : IsLedgerkeeping H) (outcome : Except BridgeError Handle)
    (P : Multiset Release) :
    Swaps H (gainResult outcome) (handleGiven outcome + P) fun _ => P := by
  cases outcome with
  | error e =>
    apply Swaps.pure
    exact zero_add P
  | ok h =>
    apply Swaps.change
    intro F s hs
    rw [add_assoc] at hs
    exact hH.gainAll hs

theorem SwapsOr.given {a : Attempt (Outside τ) Handle} {P : Multiset Release}
    (ha : SwapsOr H a P (fun h => h.releases + P) P) :
    Swaps H a.run P fun outcome => handleGiven outcome + P := by
  apply Swaps.of_eq ha rfl
  rintro (e | h)
  · exact (zero_add P).symm
  · rfl

/-- A result goes to outside code. -/
theorem gaining_swaps (hH : IsLedgerkeeping H) {a : Attempt (Outside τ) Handle}
    {P : Multiset Release} (ha : SwapsOr H a P (fun h => h.releases + P) P) :
    Swaps H (a.run >>= gainResult) P fun _ => P :=
  ha.given.bind fun outcome => gainResult_swaps hH outcome P

theorem attempting_trades {a : Attempt (Outside τ) α} {P Q : Multiset Release}
    (ha : Tries c a P (fun _ => Q) Q) : Trades c (attempting a) P fun _ => Q :=
  .of_swaps fun E => attempting_swaps fun F s => ha F E s

/-! ## What counts nothing -/

/-- The native types count nothing. -/
theorem Balanced.changeTypes {due held : Multiset Release} {b : Books} (h : Balanced c due held b)
    (types : Hierarchy) : Balanced c due held { b with heap := { b.heap with types } } := by
  apply h.onHeap 0 0 { b.heap with types }
  · rfl
  · intro t ht
    rw [add_zero] at ht
    exact absurd ht (Multiset.notMem_zero t)
  · exact fun _ hw => hw
  · exact ⟨h.formed.sorted.free_nodup, h.formed.sorted.free_empty⟩
  · exact id
  · intro _ hexact o
    exact ⟨rfl, hexact.positive o, hexact.bounded o⟩

theorem System.books_setMarshaller {σ : Type} (s : System σ) (r : RuntimeId)
    (entry : MarshallerEntry) : (s.setMarshaller r entry).books = s.books :=
  books_modifyBridge_of_eq s r fun _ => rfl

/-- Arrangements count nothing. -/
theorem IsBookkeeping.arrange (hH : IsBookkeeping H) {F : Multiset Release} {s : World τ}
    (h : H F s)
    (htypes : ∀ (change : TypeChange) types, change.apply s.heap.types = .ok types →
      H F { s with heap := { s.heap with types } })
    (arrangement : Arrangement) : H F (arrangement.apply s) := by
  cases arrangement with
  | changeTypes change =>
    unfold Arrangement.apply
    dsimp only
    split
    · exact htypes change _ ‹_›
    · exact h
  | newRegistry fundamentals => exact hH.of_books h rfl rfl rfl
  | changeRegistry id change =>
    unfold Arrangement.apply
    dsimp only
    split
    · exact hH.of_books h rfl rfl rfl
    · exact h
  | newRelay maxPending => exact hH.of_books h rfl rfl rfl
  | install id function => exact hH.of_books h rfl rfl rfl
  | uninstall id handler => exact hH.of_books h rfl rfl rfl
  | setErrorSlot r fault => exact hH.of_books h rfl (s.books_setErrorSlot r fault) rfl
  | setMarshaller r entry => exact hH.of_books h rfl (s.books_setMarshaller r entry) rfl
  | shareTree tree => exact hH.of_books h rfl rfl rfl
  | enter r => exact hH.of_books h rfl rfl rfl
  | leave r => exact hH.of_books h rfl rfl rfl
  | goToThread number entered => exact hH.of_books h rfl rfl rfl

/-! ## Wraps -/

section

variable {g : Guest (Outside τ)}

theorem wrapObject_of_acquired {σ : Type} {g : Guest σ} {s t : System σ} {r : RuntimeId}
    {o : ObjectId} {owned : Bool} {w : ObjectWrapper} {isNew : Bool}
    (h : (acquireWrapper r o (.ofOwned owned)).run.run s = (.ok (w, isNew), t))
    (hnew : (isNew && owned) = false) :
    (wrapObject g r o owned).run.run s = (.ok (.object w), t) := by
  unfold wrapObject
  rw [run_bind_of_ok s h]
  simp only [hnew]
  rfl

/-- A wrap that takes over nothing. -/
theorem wrapObject_swaps (hH : IsBookkeeping H) (r : RuntimeId) (o : ObjectId) :
    SwapsOr H (wrapObject g r o false) {.bridge r} (fun h => h.releases + {.bridge r})
      {.bridge r} := by
  unfold wrapObject
  refine SwapsOr.bind (acquireWrapper_swaps hH r o) ?_
  rintro ⟨w, isNew⟩
  dsimp only
  rw [Bool.and_false]
  exact SwapsOr.pure rfl

/-- A new owned wrapper is shown to its sink, and comes out then. -/
theorem wrapObject_of_new (hg : g.Steady c) {F P : Multiset Release} {E : List ObjectId}
    {s t : World τ} {r : RuntimeId} {o : ObjectId} {w : ObjectWrapper}
    (hrun : (acquireWrapper r o .owned).run.run s = (.ok (w, true), t))
    (h : Holding c (P + F) E t) :
    ∃ t', (wrapObject g r o true).run.run s = (.ok (.object w), t') ∧ Holding c (P + F) E t' ∧
      ((∀ f x, ((g.sink f o).run x).2 = x) → t' = t) := by
  have hacquired : (acquireWrapper r o (.ofOwned true)).run.run s = (.ok (w, true), t) := hrun
  unfold wrapObject
  rw [run_bind_of_ok s hacquired]
  simp only [Bool.and_self, if_true]
  rw [run_get_bind]
  split
  · rename_i sink _
    refine ⟨_, rfl, ?_, fun hquiet => hquiet sink t⟩
    exact ((hg.sink sink o).frame P).of_eq (zero_add P).symm (fun _ => zero_add P) F E t h
  · exact ⟨t, rfl, h, fun _ => rfl⟩

theorem run_runWrap_owned {s t : World τ} {r : RuntimeId} {o : ObjectId}
    {outcome : Except BridgeError Handle}
    (h : (wrapObject g r o true).run.run (s.changeLedger (·.spend o)) = (outcome, t)) :
    (Deed.runWrap g r o true).run s =
      (gainResult outcome).run
        (if (outcome.toOption.bind Handle.object?).any (·.number == s.wrappers.size) then t
          else t.changeLedger (·.take o)) := by
  have hbind : (Deed.runWrap g r o true).run s =
      (wrapObject g r o true).run.run (s.changeLedger (·.spend o)) >>= fun p =>
        ((do
          let isNew := (p.1.toOption.bind Handle.object?).any (·.number == s.wrappers.size)
          if !isNew then enterInLedger (·.take o)
          gainResult p.1 : Action (Outside τ) Unit).run p.2) := rfl
  rw [hbind, h]
  by_cases hnew : (outcome.toOption.bind Handle.object?).any (·.number == s.wrappers.size) = true
  · rw [if_pos hnew]
    simp only [bind, hnew]
    rfl
  · rw [if_neg hnew]
    rw [Bool.not_eq_true] at hnew
    simp only [bind, hnew]
    rfl

theorem runWrap_owned_holding (hg : g.Steady c) {F : Multiset Release} {E : List ObjectId}
    {s : World τ} {r : RuntimeId} {o : ObjectId} (h : Holding c ({.bridge r} + F) E s)
    (hfair : c = .fair → o ∈ s.guest.ledger.refs) :
    Holding c ({.bridge r} + F) E ((Deed.runWrap g r o true).run s).2 := by
  have hused : s.InUse (.bridge r) :=
    h.inUse (Multiset.mem_add.mpr (Or.inl (Multiset.mem_singleton_self _)))
  let s₁ : World τ := s.changeLedger (·.spend o)
  have hspent : Balanced c 0 (.object o ::ₘ ({.bridge r} + F + s₁.guest.ledger.tokens)) s₁.books :=
    h.spendRef hfair
  have hacquired := acquireWrapper_acquired (o := o) .owned hspent hused.2.2
  rcases hrun : (acquireWrapper r o .owned).run.run s₁ with ⟨result, t⟩
  rw [hrun] at hacquired
  cases hacquired with
  | failed e t hguest hbalanced =>
    have hwrap : (wrapObject g r o true).run.run s₁ = (.error e, t) := run_bind_of_error s₁ hrun
    rw [run_runWrap_owned hwrap]
    apply h.withLedger (t := World.changeLedger (·.take o) t) (l := s₁.guest.ledger.take o) rfl rfl
    · simp only [World.changeLedger, hguest]
      rfl
    · exact fun u hu => Or.inl hu
    · rwa [Ledger.tokens_take, Multiset.add_cons]
  | known w t hguest hobject hold hbalanced =>
    have hwrap : (wrapObject g r o true).run.run s₁ = (.ok (.object w), t) :=
      wrapObject_of_acquired hrun rfl
    have hne : (w.number == s.wrappers.size) = false :=
      beq_eq_false_iff_ne.mpr (Nat.ne_of_lt hold)
    rw [run_runWrap_owned hwrap]
    simp only [Except.toOption, Handle.object?, Option.bind_some, Option.any_some, hne,
      Bool.false_eq_true, if_false]
    have hgained : Holding c ({.wrapper w} + ({.bridge r} + F)) E
        (World.changeLedger (·.take o) t) := by
      have hledger : (World.changeLedger (·.take o) t).guest =
          { s.guest with ledger := s₁.guest.ledger.take o } := by
        simp only [World.changeLedger, hguest]
        rfl
      apply h.gainWithLedger (l := s₁.guest.ledger.take o) (u := .wrapper w) rfl rfl hledger trivial
      rwa [Ledger.tokens_take, Multiset.add_cons]
    rw [← add_assoc] at hgained
    exact gainResult_swaps (Holding.isLedgerkeeping c E) (.ok (.object w)) _ F _ hgained
  | new w t hguest hobject hnext hbalanced =>
    have hmade : Holding c ({.wrapper w} + ({.bridge r} + F)) E t := by
      apply h.gainWithLedger (l := s₁.guest.ledger) (u := .wrapper w) rfl rfl hguest trivial
      exact hbalanced _ (by rw [if_pos rfl, ← Multiset.singleton_add])
    obtain ⟨t', hwrap, hshown, -⟩ := wrapObject_of_new hg hrun hmade
    have heq : (w.number == s.wrappers.size) = true := beq_iff_eq.mpr hnext
    rw [run_runWrap_owned hwrap]
    simp only [Except.toOption, Handle.object?, Option.bind_some, Option.any_some, heq, if_true]
    rw [← add_assoc] at hshown
    exact gainResult_swaps (Holding.isLedgerkeeping c E) (.ok (.object w)) _ F _ hshown

/-! ## References and connections -/

namespace Deed

variable (g : Guest (Outside τ)) (s : World τ) (o : ObjectId)

/-- An object is made, and outside code has its reference, or nothing
happens. -/
theorem run_instantiate (type : TypeId) :
    (((instantiate type).run g).run s).2 = s ∨
      ∃ o heap, s.heap.instantiate type = .ok (o, heap) ∧
        (((instantiate type).run g).run s).2 = World.changeLedger (·.take o) { s with heap } := by
  unfold run
  rcases hi : s.heap.instantiate type with e | ⟨o, heap⟩
  · rw [StateT.run_bind, run_changeHeap_error s hi]
    exact Or.inl rfl
  · rw [StateT.run_bind, run_changeHeap_ok s hi]
    exact Or.inr ⟨o, heap, rfl, rfl⟩

/-- Outside code has one reference more, or nothing happens. -/
theorem run_ref :
    (((ref o).run g).run s).2 = s ∨
      ∃ heap, s.heap.ref o = .ok heap ∧
        (((ref o).run g).run s).2 = World.changeLedger (·.take o) { s with heap } := by
  unfold run
  rcases href : s.heap.ref o with e | heap
  · have hmap : (s.heap.ref o).map ((), ·) = .error e := by rw [href]; rfl
    rw [StateT.run_bind, run_changeHeap_error s hmap]
    exact Or.inl rfl
  · have hmap : (s.heap.ref o).map ((), ·) = .ok ((), heap) := by rw [href]; rfl
    rw [StateT.run_bind, run_changeHeap_ok s hmap]
    exact Or.inr ⟨heap, rfl, rfl⟩

/-- A subscriber is connected, with a holder of its own, or nothing
happens. It makes no difference which of the two comes first. -/
theorem run_connect (signal : String) (subscriber : Subscriber) (after : Bool) :
    (((connect o signal subscriber after).run g).run s).2 = s ∨
      ∃ id heap,
        (s.holdSubscriber subscriber).heap.connect o signal subscriber after = .ok (id, heap) ∧
        (((connect o signal subscriber after).run g).run s).2 =
          { s.holdSubscriber subscriber with heap } := by
  unfold run
  rcases hc : s.heap.connect o signal subscriber after with e | ⟨id, heap⟩
  · rw [StateT.run_bind, run_changeHeap_error s hc]
    exact Or.inl rfl
  · rw [StateT.run_bind, run_changeHeap_ok s hc]
    refine Or.inr ⟨id, heap, ?_, ?_⟩
    · cases subscriber <;> exact hc
    · cases subscriber <;> rfl

end Deed

theorem instantiate_holding {F : Multiset Release} {E : List ObjectId} {s : World τ}
    (h : Holding c F E s) (type : TypeId) :
    Holding c F E (((Deed.instantiate type).run g).run s).2 := by
  rcases Deed.run_instantiate g s type with hrun | ⟨o, heap, hi, hrun⟩ <;> rw [hrun]
  · exact h
  · exact h.takeRef (t := { s with heap }) rfl (h.balanced.instantiate hi)

theorem ref_holding {F : Multiset Release} {E : List ObjectId} {s : World τ}
    (h : Holding c F E s) (o : ObjectId) : Holding c F E (((Deed.ref o).run g).run s).2 := by
  rcases Deed.run_ref g s o with hrun | ⟨heap, href, hrun⟩ <;> rw [hrun]
  · exact h
  · obtain ⟨object, hl, rfl⟩ := Heap.ref_ok href
    apply h.takeRef (t := { s with heap := s.heap.raise o object (Heap.countUp object.refs) }) rfl
    exact h.balanced.raise rfl hl (Balanced.countUp_cases object.refs)

theorem unref_holding {F : Multiset Release} {E : List ObjectId} {s : World τ} {o : ObjectId}
    (h : Holding c F E s) (hfair : c = .fair → o ∈ s.guest.ledger.refs) :
    Holding c F E (((Deed.unref o).run g).run s).2 := by
  let s₁ : World τ := s.changeLedger (·.spend o)
  have hrun : (((Deed.unref o).run g).run s).2 = ((unrefObject o).run.run s₁).2 := rfl
  obtain ⟨hbalanced, hguest⟩ := unrefObject_balanced (s := s₁) (h.spendRef hfair)
  rw [hrun]
  exact h.withLedger (l := s₁.guest.ledger) rfl rfl hguest (fun u hu => Or.inl hu) hbalanced

theorem connect_holding {F : Multiset Release} {E : List ObjectId} {s : World τ}
    {subscriber : Subscriber} (h : Holding c (subscriber.releases + F) E s) (o : ObjectId)
    (signal : String) (after : Bool) :
    Holding c (subscriber.releases + F) E
      (((Deed.connect o signal subscriber after).run g).run s).2 := by
  rcases Deed.run_connect g s o signal subscriber after with hrun | ⟨id, heap, hc, hrun⟩ <;>
    rw [hrun]
  · exact h
  · have hkept : Holding c (subscriber.releases + (subscriber.releases + F)) E
        (s.holdSubscriber subscriber) := by
      have hall := h.keepAll fun u hu => h.inUse (Multiset.mem_add.mpr (Or.inl hu))
      cases subscriber <;> exact hall
    apply hkept.step (t := { s.holdSubscriber subscriber with heap }) rfl
    · exact fun u hu => Or.inl (Multiset.mem_add.mpr (Or.inr hu))
    · have hbalanced := hkept.balanced
      rw [add_assoc] at hbalanced
      exact hbalanced.connect (b := (s.holdSubscriber subscriber).books) hc

theorem letGo_holding {F : Multiset Release} {E : List ObjectId} {s : World τ}
    (h : Holding c F E s) (place : Nat) :
    Holding c F E (((Deed.letGo place).run g).run s).2 := (h.lose place).release

theorem adopt_holding {F : Multiset Release} {E : List ObjectId} {s : World τ}
    (h : Holding .any F E s) (w : ObjectWrapper) :
    Holding .any F E (((Deed.adopt w).run g).run s).2 :=
  h.step rfl (fun _ hu => Or.inl hu) (h.balanced.adopt w)

theorem addBridge_holding {F : Multiset Release} {E : List ObjectId} {s : World τ}
    (h : Holding c F E s) (config : BridgeConfig) (registry : RegistryId) (relay : Option RelayId) :
    Holding c F E (((Deed.newBridge config registry relay).run g).run s).2 := by
  have hmade : ∀ {t : World τ} (bridge : Bridge), Holding c F E t → bridge.arena = {} →
      Holding c F E (World.changeLedger (·.gain [.bridge ⟨t.bridges.size⟩])
        { t with bridges := t.bridges.add bridge }) := by
    intro t bridge ht harena
    let t' : World τ := { t with bridges := t.bridges.add bridge }
    have hbooks : t'.books = { t.books with arenas := t.books.arenas.add {} } := by
      simp only [t', System.books, SharedTable.map_add, harena]
    have hsize : t.books.arenas.size = t.bridges.size := SharedTable.size_map _ _
    have hbalanced := ht.balanced.addBridge
    rw [← hbooks, hsize] at hbalanced
    have hgained := ht.gain (t := t') (u := .bridge _) rfl trivial hbalanced
    exact (Holding.isLedgerkeeping c E).gainOne hgained
  cases relay with
  | none =>
    have hrelay : Holding c F E (s.addRelay (Relay.withLimit config.maxPending)).2 :=
      h.of_books rfl rfl
    exact hmade _ hrelay rfl
  | some id => exact hmade _ h rfl

theorem look_holding {F : Multiset Release} {E : List ObjectId} {s : World τ}
    (h : Holding c F E s) : Holding c F E ((Deed.look.run g).run s).2 := by
  refine ⟨h.shared, h.balanced, h.emitting, ?_⟩
  intro m hm
  rcases List.mem_cons.mp hm with rfl | hm
  · exact ⟨F, h.shared, h.balanced⟩
  · exact h.diary m hm

end

/-! ## Every deed -/

/-- What is held for a deed is still held after it. -/
theorem Deed.run_holding {g : Guest (Outside τ)} (hg : g.Steady c) (d : Deed τ)
    {F : Multiset Release} {E : List ObjectId} {s : World τ} (h : Holding c (d.uses + F) E s)
    (hfair : c = .fair → d.IsFair s) : Holding c (d.uses + F) E ((d.run g).run s).2 := by
  let H : Multiset Release → World τ → Prop := fun F s => Holding c F E s
  have hL : IsLedgerkeeping H := Holding.isLedgerkeeping c E
  have hH := hL.toIsBookkeeping
  cases d with
  | arrange arrangement =>
    refine hH.arrange h (fun _ types _ => ?_) arrangement
    exact h.step rfl (fun u hu => Or.inl hu) (h.balanced.changeTypes types)
  | instantiate type => exact instantiate_holding h type
  | ref o => exact ref_holding h o
  | unref o => exact unref_holding h hfair
  | emit o signal args => exact emission_holding hg h o signal args
  | connect o signal subscriber after => exact connect_holding h o signal after
  | disconnect o id => exact attempting_trades (disconnectHandler_tries o id _) F E s h
  | newCallable =>
    have hmade := h.gain (t := s.addCallable.2) (u := .callable s.addCallable.1) rfl trivial
      h.balanced.addCallable
    exact hL.gainOne hmade
  | newBridge config registry relay => exact addBridge_holding h config registry relay
  | newClosure r callable data swap marshaller origin =>
    have hmade := h.addClosure (fun u hu => h.inUse (Multiset.mem_add.mpr (Or.inl hu))) r swap
      marshaller origin
    exact hL.gainOne hmade
  | newCallback r callable data paramTypes returnType =>
    have hmade := h.addCallback (fun u hu => h.inUse (Multiset.mem_add.mpr (Or.inl hu))) r
      paramTypes returnType
    exact hL.gainOne hmade
  | keep shared =>
    have hkept := h.keep (h.inUse (Multiset.mem_add.mpr (Or.inl (List.mem_singleton_self shared))))
    exact hL.gainOne hkept
  | letGo place => exact letGo_holding h place
  | adopt w =>
    cases c with
    | fair => exact absurd (hfair rfl) id
    | any => exact adopt_holding h w
  | wrap r o owned =>
    cases owned with
    | true => exact runWrap_owned_holding hg h hfair
    | false => exact gaining_swaps hL (wrapObject_swaps hH r o) F s h
  | unwrap r handle expected =>
    exact attempting_swaps (H := H) (unwrapObject_swaps r handle expected _) F s h
  | wrapBoxed r block type owned =>
    exact gaining_swaps hL (wrapBoxed_swaps hH r block type owned _) F s h
  | wrapBoxedCopy r block type =>
    exact gaining_swaps hL (wrapBoxedCopy_swaps hH r block type _) F s h
  | unwrapBoxed r handle type =>
    exact attempting_swaps (unwrapBoxed_swaps hH r handle type _) F s h
  | toHandle r v => exact gaining_swaps hL (toHandle_swaps hH r v) F s h
  | fromHandle r handle expected =>
    exact attempting_swaps (fromHandle_swaps hH r handle expected _) F s h
  | connectSignal r handle signal callable data after swapped =>
    refine attempting_trades (connectSignal_tries r handle signal callable data after swapped ?_)
      F E s h
    intro F' E' s' h' u hu
    apply h'.inUse
    apply Multiset.mem_add.mpr
    left
    rcases List.mem_cons.mp hu with rfl | hu
    · simp [Deed.uses]
    · simp [Deed.uses, hu]
  | disconnectSignal handle id =>
    exact attempting_trades (disconnectSignal_tries handle id _) F E s h
  | invoke x params returnType =>
    exact attempting_trades (invoke_tries hg x params returnType) F E s h
  | invokeCallback x r args =>
    exact attempting_trades (invokeCallback_tries hg args) F E s h
  | sweep r => exact (sweep_trades r 0).bind (fun _ => Trades.pure rfl) F E s h
  | runPending r =>
    have hswept := runPendingOf_swaps hH (hg.swaps E) r fun F s hs => sweep_trades r 0 F E s hs
    exact attempting_swaps hswept F s h
  | drain id => exact attempting_swaps (runPending_swaps hH (hg.swaps E) id _) F s h
  | capture id fault origin r =>
    exact (captureFault_swaps hH id fault origin r 0).bind (fun _ => Swaps.pure rfl) F s h
  | look => exact look_holding h
  | remember memory => exact ⟨h.shared, h.balanced, h.emitting, h.diary⟩

theorem Deed.IsFair.of_guest {d : Deed τ} {s t : World τ} (h : d.IsFair s)
    (hguest : t.guest = s.guest) : d.IsFair t := by
  cases d with
  | unref o =>
    unfold IsFair
    rw [hguest]
    exact h
  | wrap r o owned =>
    cases owned with
    | true =>
      unfold IsFair
      rw [hguest]
      exact h
    | false => trivial
  | adopt w => exact h
  | _ => trivial

theorem Deed.perform_holding {g : Guest (Outside τ)} (hg : g.Steady c) {d : Deed τ}
    {F : Multiset Release} {E : List ObjectId} {s : World τ} (h : Holding c F E s)
    (hallowed : d.Allowed c s) : Holding c F E ((d.perform g).run s).2 := by
  have hkept := h.keepAll hallowed.in_use
  have hdone := d.run_holding hg hkept fun hc =>
    (hallowed.fair hc).of_guest (System.guest_keepAll s d.uses)
  exact hdone.release

/-! ## Runs of deeds -/

/-- What is held before is held after. -/
def Keeps (H : Multiset Release → World τ → Prop) (s t : World τ) : Prop := ∀ F, H F s → H F t

/-- Code that keeps what is held trades what it returns. -/
theorem swaps_of_keeps (hH : IsLedgerkeeping H) {a : Action (Outside τ) α}
    {gives : α → List Release} (h : ∀ x, Keeps H x (returned gives (a.run x))) :
    Swaps H a 0 fun result => gives result := by
  intro F x hx
  rw [zero_add] at hx
  exact hH.of_gainAll (h x F hx)

theorem Guest.swaps_of_keeps {g : Guest (Outside τ)} (hH : IsLedgerkeeping H)
    (call : ∀ f args x, Keeps H x (returned handleGiven ((g.call f args).run x)))
    (native : ∀ f params type x,
      Keeps H x (returned nothingGiven ((g.native f params type).run.run x)))
    (sink : ∀ f o x, Keeps H x (returned nothingGiven ((g.sink f o).run x)))
    (takeFault : ∀ f fault x, Keeps H x (returned nothingGiven ((g.takeFault f fault).run x)))
    (marshalArgument : ∀ m r i v x,
      Keeps H x (returned handleGiven ((g.marshalArgument m r i v).run.run x)))
    (marshalResult : ∀ m r h type x,
      Keeps H x (returned nothingGiven ((g.marshalResult m r h type).run.run x))) :
    g.Swaps H where
  call f args := NativeBridge.swaps_of_keeps hH (call f args)
  native f params type :=
    NativeBridge.Swaps.of_eq (NativeBridge.swaps_of_keeps hH (native f params type)) rfl
      fun outcome => by cases outcome <;> rfl
  sink f o := NativeBridge.swaps_of_keeps hH (sink f o)
  takeFault f fault := NativeBridge.swaps_of_keeps hH (takeFault f fault)
  marshalArgument m r i v :=
    NativeBridge.Swaps.of_eq (NativeBridge.swaps_of_keeps hH (marshalArgument m r i v)) rfl
      fun outcome => by cases outcome <;> rfl
  marshalResult m r h type :=
    NativeBridge.Swaps.of_eq (NativeBridge.swaps_of_keeps hH (marshalResult m r h type)) rfl
      fun outcome => by cases outcome <;> rfl

/-- What every deed keeps, every run keeps, and so does all code that the
library calls in the middle of it. -/
theorem Moves.preserves {ι : Type} {H : ι → Multiset Release → World τ → Prop}
    (hH : ∀ i, IsLedgerkeeping (H i))
    (hdeed : ∀ {g : Guest (Outside τ)} {d : Deed τ} {s : World τ}, (∀ i, g.Swaps (H i)) →
      d.Allowed c s → ∀ i, Keeps (H i) s ((d.perform g).run s).2)
    {s t : World τ} (h : Moves c s t) (i : ι) : Keeps (H i) s t := by
  induction h generalizing i with
  | rest s => exact fun _ hs => hs
  | act g d s t _ _ _ _ _ _ hallowed _ hcall hnative hsink hfault hargument hresult hnext =>
    intro F hs
    apply hnext i
    refine hdeed (fun j => ?_) hallowed i F hs
    exact Guest.swaps_of_keeps (hH j) (fun f args x => hcall f args x j)
      (fun f params type x => hnative f params type x j) (fun f o x => hsink f o x j)
      (fun f fault x => hfault f fault x j) (fun m r k v x => hargument m r k v x j)
      (fun m r value type x => hresult m r value type x j)

theorem Guest.steady_of_swaps {g : Guest (Outside τ)}
    (h : ∀ E, g.Swaps fun F (s : World τ) => Holding c F E s) : g.Steady c where
  call f args F E s := (h E).call f args F s
  native f params type F E s := (h E).native f params type F s
  sink f o F E s := (h E).sink f o F s
  takeFault f fault F E s := (h E).takeFault f fault F s
  marshalArgument m r i v F E s := (h E).marshalArgument m r i v F s
  marshalResult m r value type F E s := (h E).marshalResult m r value type F s

theorem Moves.keeps {s t : World τ} (h : Moves c s t) (E : List ObjectId) :
    Keeps (fun F s => Holding c F E s) s t := by
  refine Moves.preserves (fun E => Holding.isLedgerkeeping c E) ?_ h E
  intro g d s hg hallowed E F hs
  exact Deed.perform_holding (Guest.steady_of_swaps hg) hs hallowed

theorem Guest.IsOutside.steady {g : Guest (Outside τ)} (hg : g.IsOutside c) : g.Steady c := by
  apply Guest.steady_of_swaps
  intro E
  apply Guest.swaps_of_keeps (Holding.isLedgerkeeping c E)
  · exact fun f args x => (hg.call f args x).keeps E
  · exact fun f params type x => (hg.native f params type x).keeps E
  · exact fun f o x => (hg.sink f o x).keeps E
  · exact fun f fault x => (hg.takeFault f fault x).keeps E
  · exact fun m r i v x => (hg.marshalArgument m r i v x).keeps E
  · exact fun m r h type x => (hg.marshalResult m r h type x).keeps E

/-- The books of the beginning. -/
def Books.blank : Books := ⟨{}, {}, {}, {}, {}, {}, {}, false⟩

theorem Balanced.blank (c : Conduct) : Balanced c 0 0 .blank := by
  have hall : 0 + (0 + Books.blank.pledged) = 0 := by
    simp [Books.blank, Books.pledged, SharedTable.pledges]
  have hget : ∀ {α : Type} (n : Nat), ({} : SharedTable α).get? n = none := by
    intro α n
    simp [SharedTable.get?]
  have hwrapper : ∀ n entry, Books.blank.wrappers.get? n ≠ some entry := by
    intro n entry hn
    exact absurd ((hget n).symm.trans hn) (Option.some_ne_none entry).symm
  have hlive : ∀ o, Books.blank.heap.live? o = none := fun o => by simp [Books.blank, Heap.live?]
  refine ⟨⟨?_, ?_, ⟨List.nodup_nil, ?_⟩⟩, ⟨?_, ?_⟩, ?_, ?_, ?_⟩
  · exact fun n entry hn => absurd hn (hwrapper n entry)
  · intro r a ha
    exact absurd ((hget r).symm.trans ha) (Option.some_ne_none a).symm
  · exact fun i hi => absurd hi List.not_mem_nil
  · rw [hall]
    exact fun t ht => absurd ht (Multiset.notMem_zero t)
  · intro a ha
    rw [hall]
    cases a <;> first | exact absurd ha id | simp [Books.blank, Books.holders, SharedTable.holders]
  · exact fun w hw entry hentry => absurd hentry (hwrapper w.number entry)
  · intro _ _
    rw [hall]
    refine ⟨?_, ?_, ?_, rfl⟩
    · exact fun o => Books.refs_of_stale (hlive o)
    · intro o ho
      simp [Heap.isAlive, hlive] at ho
    · intro o
      rw [Books.refs_of_stale (hlive o)]
      decide
  · exact fun n n' entry entry' hn => absurd hn (hwrapper n entry)

/-- At the beginning nothing is held. -/
theorem World.start_holding (c : Conduct) (memory : τ) : Holding c 0 [] (World.start memory) := by
  have hbooks : (World.start memory).books = .blank := by
    simp [System.books, World.start, SharedTable.map, Books.blank]
  refine ⟨?_, ?_, rfl, ?_⟩
  · exact fun u hu => absurd hu (Multiset.notMem_zero u)
  · rw [hbooks]
    exact .blank c
  · exact fun m hm => absurd hm List.not_mem_nil

/-- The books balance at every moment that outside code can come to. -/
theorem Reachable.sound {m : System Ledger} (h : Reachable c m) : Sound c m := by
  obtain ⟨τ, memory, t, hmoves, hm⟩ := h
  exact (hmoves.keeps [] 0 (World.start_holding c memory)).diary m hm

/-- Outside code can go on from a moment that it can come to. -/
theorem World.Reached.holding {s : World τ} (h : s.Reached c) :
    ∃ F, Holding c F s.guest.ledger.emitting s := by
  obtain ⟨F, hshared, hbalanced⟩ := h.now.sound
  exact ⟨F, hshared, hbalanced, rfl, fun m hm => (h.past m hm).sound⟩

end NativeBridge
