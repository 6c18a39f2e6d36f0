-- Signals as trades. A connection keeps a holder of its closure, and a
-- disconnection gives it up. An emission keeps its object and its
-- subscribers while they run, and then gives back what it kept.
import NativeBridge.Proofs.Invocations
import NativeBridge.Proofs.NativeCalls

namespace NativeBridge

variable {τ : Type} {c : Conduct}

/-! ## Connections -/

theorem connectSignal_tries (r : RuntimeId) (handle : Handle) (signal : String)
    (callable : Callable) (data : Option Handle) (after swapped : Bool) {P : Multiset Release}
    (hparts : ∀ F E (s : World τ), Holding c (P + F) E s →
      ∀ u ∈ Release.callable callable :: dataReleases data, s.InUse u) :
    Tries (τ := τ) c (connectSignal r handle signal callable data after swapped) P (fun _ => P)
      P := by
  intro F E s h
  rcases run_connectSignal_cases s r handle signal callable data after swapped with
    ⟨e, hrun⟩ | ⟨w, type, -, -, hcases⟩
  · rw [hrun]
    exact h
  · have hmade :
        let made := s.closureFor r signal callable data swapped w type
        Holding c ({.closure made.1} + (P + F)) E made.2 :=
      h.addClosure (hparts F E s h) r swapped _ _
    generalize s.closureFor r signal callable data swapped w type = made at hmade hcases
    rcases hcases with ⟨e, -, hrun⟩ | ⟨id, heap, hc, hrun⟩ <;> rw [hrun]
    · exact Holding.release hmade
    · apply hmade.step (t := { made.2 with heap }) rfl
      · exact fun u hu => Or.inl (Multiset.mem_add.mpr (Or.inr hu))
      · have hbalanced := hmade.balanced
        rw [add_assoc] at hbalanced
        exact hbalanced.connect (b := made.2.books) hc

theorem disconnectHandler_tries (o : ObjectId) (id : HandlerId) (P : Multiset Release) :
    Tries (τ := τ) c (disconnectHandler o id) P (fun _ => P) P := by
  intro F E s h
  rcases hd : s.heap.disconnect o id with e | ⟨connection, heap⟩
  · rw [run_disconnectHandler_error s hd]
    exact h
  · rw [run_disconnectHandler_ok s hd]
    have hdue := h.balanced.disconnect hd
    rw [add_zero] at hdue
    let t : World τ := { s with heap }
    exact h.step (t.release_guest _) (fun u hu => Or.inl hu) (System.release_balanced (s := t) hdue)

theorem disconnectSignal_tries (handle : Handle) (id : HandlerId) (P : Multiset Release) :
    Tries (τ := τ) c (disconnectSignal handle id) P (fun _ => P) P := by
  rcases disconnectSignal_cases (σ := Outside τ) handle id with ⟨e, heq⟩ | ⟨o, heq⟩ <;> rw [heq]
  · exact Tries.throw rfl
  · exact disconnectHandler_tries o id P

/-! ## References of outside code -/

namespace Balanced

variable {due held : Multiset Release} {b : Books} {t : Release} {o : ObjectId}

/-- No reference to an object that is gone is held, if all are counted. -/
theorem forget (h : Balanced c due (t ::ₘ held) b) (ht : t.account = .object o)
    (hl : b.heap.live? o = none) : Balanced c due held b := by
  have hall : due + (t ::ₘ held + b.pledged) = t ::ₘ (due + (held + b.pledged)) := by
    rw [Multiset.cons_add, Multiset.add_cons]
  have hcounts := h.counts
  rw [hall] at hcounts
  refine ⟨h.formed, ⟨?_, ?_⟩, ?_, ?_, h.single⟩
  · intro u hu
    exact hcounts.known u (Multiset.mem_cons_of_mem hu)
  · intro a ha
    have hne : t.account ≠ a := by
      rw [ht]
      rintro rfl
      exact ha
    rw [hcounts.counted a ha, tally_cons, if_neg hne, Nat.add_zero]
  · intro w hw
    apply h.standing w
    rw [Multiset.cons_add]
    exact Multiset.mem_cons_of_mem hw
  · intro hc hfull
    have hcounted := (h.exact hc hfull).counted o
    rw [hall, tally_cons, if_pos ht, Books.refs_of_stale hl] at hcounted
    exact absurd hcounted (Nat.succ_ne_zero _).symm

/-- Under any conduct references count for nothing. -/
theorem credit (h : Balanced .any due held b) (o : ObjectId) :
    Balanced .any due (.object o ::ₘ held) b := by
  have hall : due + (.object o ::ₘ held + b.pledged) =
      .object o ::ₘ (due + (held + b.pledged)) := by
    rw [Multiset.cons_add, Multiset.add_cons]
  refine ⟨h.formed, ⟨?_, ?_⟩, ?_, fun hc => Conduct.noConfusion hc, h.single⟩
  · intro u hu
    rw [hall] at hu
    rcases Multiset.mem_cons.mp hu with rfl | hu
    · trivial
    · exact h.counts.known u hu
  · intro a ha
    have hne : (Release.object o).account ≠ a := by
      rintro rfl
      exact ha
    rw [hall, tally_cons, if_neg hne, Nat.add_zero]
    exact h.counts.counted a ha
  · intro w hw
    rw [Multiset.cons_add, Multiset.mem_cons] at hw
    rcases hw with hw | hw
    · exact Release.noConfusion hw
    · exact h.standing w hw

end Balanced

/-- Native code gives a reference back. -/
theorem unrefObject_balanced {σ : Type} {s : System σ} {held : Multiset Release} {o : ObjectId}
    (h : Balanced c 0 (.object o ::ₘ held) s.books) :
    Balanced c 0 held ((unrefObject o).run.run s).2.books ∧
      ((unrefObject o).run.run s).2.guest = s.guest := by
  rcases hl : s.heap.live? o with _ | object
  · rw [run_unrefObject_error s (Heap.unref_of_stale hl)]
    exact ⟨h.forget rfl hl, rfl⟩
  · have hdue : Balanced c (.object o ::ₘ 0) held s.books := by
      rw [← Multiset.singleton_add] at h
      exact h.due_of_held
    have hunref := Heap.unref_of_live hl
    by_cases hr : object.refs - 1 = 0
    · rw [if_pos hr] at hunref
      rw [run_unrefObject_ok s hunref]
      have hlast := hdue.unref_last rfl hl hr
      rw [add_zero] at hlast
      let t : System σ := { s with heap := s.heap.vacate o }
      exact ⟨System.release_balanced (s := t) hlast, t.release_guest _⟩
    · rw [if_neg hr] at hunref
      rw [run_unrefObject_ok s hunref]
      have hmore := hdue.unref_more rfl hl hr
      let t : System σ :=
        { s with heap := s.heap.store o { object with refs := object.refs - 1 } }
      exact ⟨System.release_balanced (s := t) hmore, t.release_guest _⟩

/-! ## Emissions -/

section

variable {g : Guest (Outside τ)}

theorem invokeSubscriber_tries (hg : g.Steady c) (subscriber : Subscriber)
    (params : List TypedValue) (returnType : Option TypeId) :
    Tries c (subscriber.invoke g params returnType) subscriber.releases
      (fun _ => subscriber.releases) subscriber.releases := by
  cases subscriber with
  | closure x => exact invoke_tries hg x params returnType
  | native f => exact hg.native f params returnType

theorem deliver_tries (hg : g.Steady c) (params : List TypedValue) (returnType : Option TypeId)
    (result : Option TypedValue) (subscribers : List Subscriber) :
    let P : Multiset Release := subscribers.flatMap Subscriber.releases
    Tries c (deliver g params returnType result subscribers) P (fun _ => P) P := by
  induction subscribers generalizing result with
  | nil => exact Tries.pure rfl
  | cons subscriber rest ih =>
    rw [List.flatMap_cons, ← Multiset.coe_add]
    apply ((invokeSubscriber_tries hg subscriber params returnType).frame _).bind
    intro result
    rw [add_comm]
    exact (ih result).frame _

end

/-- A subscriber of a signal is one of the handlers. -/
theorem mem_of_mem_closuresFor {κ : Type} {handlers : List (Connection κ)} {signal : String}
    {x : κ} (hx : x ∈ Heap.closuresFor handlers signal) : ∃ h ∈ handlers, h.closure = x := by
  simp only [Heap.closuresFor, List.mem_append, List.mem_map, List.mem_filter] at hx
  rcases hx with ⟨h, ⟨hmem, -⟩, heq⟩ | ⟨h, ⟨hmem, -⟩, heq⟩
  · exact ⟨h, hmem, heq⟩
  · exact ⟨h, hmem, heq⟩

/-- The closures that a live object has handlers for are in use. -/
theorem Holding.handler_inUse {F : Multiset Release} {E : List ObjectId} {s : World τ}
    {o : ObjectId} {object : LiveObject Subscriber} {u : Release} (h : Holding c F E s)
    (hl : s.heap.live? o = some object) {connection : Connection Subscriber}
    (hc : connection ∈ object.handlers) (hu : u ∈ connection.closure.releases) : s.InUse u := by
  obtain ⟨hs, hpledged⟩ := Books.handler_pledged (b := s.books) hl hc hu
  exact h.inUse_of_pledged hs hpledged

theorem Ledger.tokens_startEmission (l : Ledger) (o : ObjectId) :
    (l.startEmission o).tokens = .object o ::ₘ l.tokens := by
  simp only [Ledger.tokens, Ledger.startEmission, List.map_cons, ← Multiset.cons_coe,
    Multiset.add_cons]

theorem Ledger.tokens_endEmission {l : Ledger} {o : ObjectId} {E : List ObjectId}
    (h : l.emitting = o :: E) : l.tokens = .object o ::ₘ l.endEmission.tokens := by
  simp only [Ledger.tokens, Ledger.endEmission, h, List.tail_cons, List.map_cons,
    ← Multiset.cons_coe, Multiset.add_cons]

namespace Holding

variable {F : Multiset Release} {E : List ObjectId} {s : World τ} {o : ObjectId}

/-- An emission that starts keeps its object. -/
theorem startEmission (h : Holding c F E s) {signal : String} {args : List NativeValue}
    {emission : Heap.Emission Subscriber} {heap : Heap Subscriber}
    (he : s.heap.beginEmission o signal args = .ok (emission, heap)) :
    Holding c F (o :: E) { s.changeLedger (·.startEmission o) with heap } := by
  obtain ⟨object, hl, rfl, -⟩ := Heap.beginEmission_ok he
  refine ⟨h.shared, ?_, ?_, h.diary⟩
  · have hraised := h.balanced.raise (t := .object o) rfl hl (Or.inr rfl)
    rw [← Multiset.add_cons, ← Ledger.tokens_startEmission] at hraised
    exact hraised
  · exact congrArg (o :: ·) h.emitting

/-- An emission that ends gives its object back. -/
theorem endEmission (h : Holding c F (o :: E) s) :
    Holding c F E (World.changeLedger (·.endEmission) ((unrefObject o).run.run s).2) := by
  have hbalanced := h.balanced
  rw [Ledger.tokens_endEmission h.emitting, Multiset.add_cons] at hbalanced
  obtain ⟨hended, hguest⟩ := unrefObject_balanced hbalanced
  refine ⟨?_, ?_, ?_, ?_⟩
  · simp only [World.changeLedger, hguest]
    exact h.shared
  · simp only [World.changeLedger, hguest]
    exact hended
  · simp only [World.changeLedger, hguest, Ledger.endEmission, h.emitting, List.tail_cons]
  · simp only [World.changeLedger, hguest]
    exact h.diary

end Holding

/-- An emission that starts keeps its object, and its subscribers. -/
theorem Holding.enterEmission {F : Multiset Release} {E : List ObjectId} {s : World τ}
    (h : Holding c F E s) {o : ObjectId} {signal : String} {args : List NativeValue}
    {emission : Heap.Emission Subscriber} {heap : Heap Subscriber}
    (he : s.heap.beginEmission o signal args = .ok (emission, heap)) :
    Holding c ((emission.closures.flatMap Subscriber.releases : List Release) + F) (o :: E)
      (emission.closures.foldl System.holdSubscriber
        { s.changeLedger (·.startEmission o) with heap }) := by
  have hstarted := h.startEmission he
  obtain ⟨object, hl, hheap, hclosures⟩ := Heap.beginEmission_ok he
  have hl' : heap.live? o = some { object with refs := object.refs + 1 } := by
    rw [hheap]
    exact Heap.live?_store_self _ hl
  rw [System.holdSubscribers_eq_keep]
  apply hstarted.keepAll
  intro u hu
  obtain ⟨subscriber, hsubscriber, hrelease⟩ := List.mem_flatMap.mp hu
  rw [hclosures] at hsubscriber
  obtain ⟨connection, hconnection, rfl⟩ := mem_of_mem_closuresFor hsubscriber
  exact hstarted.handler_inUse hl' hconnection hrelease

/-- What an emission does between its start and its end. -/
theorem emission_holding {g : Guest (Outside τ)} (hg : g.Steady c) {F : Multiset Release}
    {E : List ObjectId} {s : World τ} (h : Holding c F E s) (o : ObjectId) (signal : String)
    (args : List NativeValue) :
    Holding c F E (World.changeLedger (·.endEmission)
      ((emit g o signal args).run.run (s.changeLedger (·.startEmission o))).2) := by
  rcases he : s.heap.beginEmission o signal args with e | ⟨emission, heap⟩
  · rw [run_emit_of_error (s.changeLedger _) g he]
    exact h
  · let s₁ : World τ := { s.changeLedger (·.startEmission o) with heap }
    let ts := emission.closures.flatMap Subscriber.releases
    have hkept : Holding c (ts + F) (o :: E) (ts.foldl System.keep s₁) := by
      rw [← System.holdSubscribers_eq_keep]
      exact h.enterEmission he
    let work := deliver g emission.params emission.returnType none emission.closures
    have hdelivered := deliver_tries hg emission.params emission.returnType none emission.closures
      F (o :: E) _ hkept
    have hreleased :
        Holding c F (o :: E) ((work.run.run (ts.foldl System.keep s₁)).2.release ts) := by
      apply Holding.release
      rcases hrun : work.run.run (ts.foldl System.keep s₁) with ⟨_ | result, t⟩ <;>
        simp only [work] at hrun <;> rw [hrun] at hdelivered <;> exact hdelivered
    rw [state_emit_of_ok (s.changeLedger _) g he, System.holdSubscribers_eq_keep]
    exact hreleased.endEmission

end NativeBridge
