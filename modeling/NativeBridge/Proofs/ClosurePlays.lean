-- Actions of the library as runs in small steps. Whatever the library does
-- from a state that a run comes to is a run again, and what it spends and gets
-- is what the stages keep; so the laws of runs in small steps are laws of the
-- library.
import NativeBridge.Proofs.ClosureStages

namespace NativeBridge

variable {σ : Type}

/-! ## Wraps of boxed structures in a run -/

namespace Stage.Run

variable {a : Stage σ} {es : List Happening} {s t : System σ} {gained kept : Multiset Release}
  {snapshots : List (List Subscriber)} {r : RuntimeId} {block : Block} {type : TypeId}
  {owned : Bool} {outcome : Except BridgeError Handle}

theorem work (h : Run a es ⟨s, [], kept, snapshots⟩) (hwork : Work s gained t) :
    Run a es ⟨t, [], gained + kept, snapshots⟩ := by
  have hnext := h.step (.work hwork)
  rwa [List.append_nil] at hnext

theorem announce (strategy : BoxedStrategy) (use : BoxedUse) (block : Block)
    (h : Run a es ⟨s, [], kept, snapshots⟩) :
    Run a es ⟨s.announce strategy use block, [], kept, snapshots⟩ := by
  have hnext := h.work (.uncounted _ (s.books_announce strategy use block))
  rwa [zero_add] at hnext

theorem addBox {w : BoxedWrapper} (destroyer : Option BoxedStrategy)
    (h : Run a es ⟨s, [], kept, snapshots⟩) (hw : w.number = s.boxes.size) :
    Run a es ⟨{ s with boxes := s.boxes.add { wrapper := w, destroyer } }, [],
      {.boxed w} + kept, snapshots⟩ := h.work (.boxed w destroyer hw)

/-- A wrap is part of a run, and gives a holder if it succeeds. -/
theorem wrapBoxed (h : Run a es ⟨s, [], kept, snapshots⟩)
    (hwraps : WrapsTo s r block type owned outcome t) :
    Run a es ⟨t, [], handleGiven outcome + kept, snapshots⟩ :=
  hwraps.gives (G := fun kept s => Run a es ⟨s, [], kept, snapshots⟩) announce addBox h

/-- So is a wrap of a copy. -/
theorem wrapCopy (h : Run a es ⟨s, [], kept, snapshots⟩)
    (hcopies : CopiesTo s r block type outcome t) :
    Run a es ⟨t, [], handleGiven outcome + kept, snapshots⟩ :=
  hcopies.gives (G := fun kept s => Run a es ⟨s, [], kept, snapshots⟩) announce addBox h

end Stage.Run

/-! ## What makes no boxed wrapper -/

/-- On the way from one state to the other no boxed wrapper was made, and no copy
was reported. -/
structure System.NoBoxing (s t : System σ) : Prop where
  size : t.boxes.size = s.boxes.size
  reports : t.copyReports = s.copyReports

namespace System

variable (s : System σ)

theorem NoBoxing.trans {s t u : System σ} (h : s.NoBoxing t) (h' : t.NoBoxing u) : s.NoBoxing u :=
  ⟨h'.size.trans h.size, h'.reports.trans h.reports⟩

theorem noBoxing_keep (u : Release) : s.NoBoxing (s.keep u) := by
  cases u with
  | boxed w => exact ⟨SharedTable.size_hold _ _, rfl⟩
  | _ => exact ⟨rfl, rfl⟩

theorem noBoxing_keepAll (us : List Release) : s.NoBoxing (us.foldl keep s) := by
  induction us generalizing s with
  | nil => exact ⟨rfl, rfl⟩
  | cons u us ih => exact (s.noBoxing_keep u).trans (ih (s.keep u))

theorem noBoxing_holdSubscribers (subscribers : List Subscriber) :
    s.NoBoxing (subscribers.foldl holdSubscriber s) := by
  rw [holdSubscribers_eq_keep]
  exact s.noBoxing_keepAll _

theorem noBoxing_holdParts (callable : Callable) (data : Option Handle) :
    s.NoBoxing ((s.holdCallable callable).holdData data) := by
  have hcallable : s.NoBoxing (s.holdCallable callable) := ⟨rfl, rfl⟩
  cases data with
  | none => exact hcallable
  | some h =>
    rw [holdData, holdHandle_eq_keep]
    exact hcallable.trans (noBoxing_keepAll _ _)

theorem noBoxing_releaseReference (o : ObjectId) {report : ObjectId → NativeError → Notice}
    (hreport : ∀ e, (report o e).copied? = none) :
    s.NoBoxing (s.releaseReference o report).2 := by
  unfold releaseReference
  split
  · exact ⟨rfl, rfl⟩
  · exact ⟨rfl, s.copyReports_note (hreport _)⟩

/-- A release may report that a wrapper was destroyed, and no copy. -/
theorem noBoxing_releaseOne (u : Release) : s.NoBoxing (s.releaseOne u).2 := by
  cases u with
  | object o => exact s.noBoxing_releaseReference o fun _ => rfl
  | defensive o => exact s.noBoxing_releaseReference o fun _ => rfl
  | boxed w =>
    obtain ⟨told, htold, hdone⟩ := s.releaseOne_boxed w
    rw [hdone]
    refine ⟨SharedTable.size_dropWith _ _ _, ?_⟩
    have hnone : told.filterMap Notice.copied? = [] := by
      rw [List.filterMap_eq_nil_iff]
      intro n hn
      obtain ⟨name, rfl⟩ := htold n hn
      rfl
    change (s.notices ++ told).filterMap Notice.copied? = s.copyReports
    rw [List.filterMap_append, hnone, List.append_nil]
    rfl
  | callable c => exact ⟨rfl, rfl⟩
  | _ =>
    simp only [releaseOne]
    split <;> exact ⟨rfl, rfl⟩

theorem noBoxing_noteExposure (r : RuntimeId) (type : TypeId) (exposure : Exposure) :
    s.NoBoxing (s.noteExposure r type exposure) := by
  cases exposure with
  | own package => exact ⟨rfl, rfl⟩
  | inherited package =>
    unfold noteExposure noteFallback
    dsimp only
    split
    · exact ⟨rfl, copyReports_note _ rfl⟩
    · exact ⟨rfl, rfl⟩

theorem noBoxing_acquireWrapper (r : RuntimeId) (o : ObjectId) (own : Ownership) :
    s.NoBoxing ((acquireWrapper r o own).run.run s).2 := by
  have hlive : s.NoBoxing (s.liveWrapper r o).2 := by
    unfold liveWrapper
    split
    · exact ⟨rfl, rfl⟩
    · split <;> exact ⟨rfl, rfl⟩
  have hcase := wrapCase s r o own
  generalize (acquireWrapper r o own).run.run s = done at hcase ⊢
  cases hcase with
  | stale htype => exact ⟨rfl, rfl⟩
  | known htype hl => exact ⟨rfl, rfl⟩
  | refused htype hl he =>
    rw [hl] at hlive
    exact hlive
  | @new type s₁ t exposure heap w htype hl he htaken hadded =>
    rw [hl] at hlive
    obtain rfl : (System.addWrapper _ r o type exposure.package own).2 = t :=
      congrArg Prod.snd hadded
    exact (hlive.trans (s₁.noBoxing_noteExposure r type exposure)).trans ⟨rfl, rfl⟩

end System

variable {τ α : Type} {R : Stage (Outside τ) → Prop} {D : System Ledger → Prop}

/-! ## States that runs come to -/

/-- A moment that some run from this stage comes to. -/
def Stage.Explains (a₀ : Stage (Outside τ)) (m : System Ledger) : Prop :=
  ∃ es s kept snapshots, Run a₀ es ⟨s, [], kept, snapshots⟩ ∧ World.moment s = m

/-- The stages that runs of some kind come to, and the moments of them. Runs of
any kind go on with steps, and with the wraps and copies of boxed structures. -/
structure IsPassage (R : Stage (Outside τ) → Prop) (D : System Ledger → Prop) : Prop where
  sound : ∀ {a}, R a → a.Sound
  step : ∀ {a es b}, R a → Stage.Step a es b → a.system.NoBoxing b.system → R b
  wrapBoxed : ∀ {s kept snapshots r block type owned outcome t}, R ⟨s, [], kept, snapshots⟩ →
    (wrapBoxed r block type owned).run.run s = (outcome, t) →
      R ⟨t, [], handleGiven outcome + kept, snapshots⟩
  wrapBoxedCopy : ∀ {s kept snapshots r block type outcome t}, R ⟨s, [], kept, snapshots⟩ →
    (wrapBoxedCopy r block type).run.run s = (outcome, t) →
      R ⟨t, [], handleGiven outcome + kept, snapshots⟩
  moment : ∀ {s kept snapshots}, R ⟨s, [], kept, snapshots⟩ → D (World.moment s)

/-- The runs from a stage where the books balance. -/
theorem Stage.Run.isPassage {a₀ : Stage (Outside τ)} (h : a₀.Sound) :
    IsPassage (fun b => ∃ es, Stage.Run a₀ es b)
      fun m => m ∈ a₀.system.guest.diary ∨ a₀.Explains m where
  sound := by
    rintro a ⟨es, hrun⟩
    exact hrun.sound h
  step := by
    rintro a es b ⟨before, hrun⟩ hstep -
    exact ⟨_, hrun.step hstep⟩
  wrapBoxed := by
    rintro s kept snapshots r block type owned outcome t ⟨es, hrun⟩ hwrap
    exact ⟨es, hrun.wrapBoxed (wrapsTo_of_run hwrap)⟩
  wrapBoxedCopy := by
    rintro s kept snapshots r block type outcome t ⟨es, hrun⟩ hcopy
    exact ⟨es, hrun.wrapCopy (copiesTo_of_run hcopy)⟩
  moment := by
    rintro s kept snapshots ⟨es, hrun⟩
    exact Or.inr ⟨es, s, kept, snapshots, hrun, rfl⟩

/-- A run comes to this state, with what the library holds and what the
emissions in progress deliver to; and outside code has looked since at such
states alone. -/
structure Playing (R : Stage (Outside τ) → Prop) (D : System Ledger → Prop) (F : Multiset Release)
    (S : List (List Subscriber)) (s : World τ) : Prop where
  passage : IsPassage R D
  here : R ⟨s, [], F + s.guest.ledger.held, S⟩
  diary : ∀ m ∈ s.guest.diary, D m

namespace Playing

variable {F G Q : Multiset Release} {S S' : List (List Subscriber)} {s t : World τ} {u : Release}

theorem sound (h : Playing R D F S s) :
    (⟨s, [], F + s.guest.ledger.held, S⟩ : Stage (Outside τ)).Sound := h.passage.sound h.here

/-- What the library holds, or an emission in progress, is in use. -/
theorem inUse_of_mem (h : Playing R D F S s) (hs : u.account.IsShared)
    (hu : u ∈ F ∨ u ∈ (⟨s, [], F, S⟩ : Stage (Outside τ)).snapped ∨ u ∈ s.books.pledged) :
    s.InUse u := by
  apply h.sound.balanced.inUse hs
  simp only [Multiset.mem_add]
  rcases hu with hu | hu | hu
  · exact Or.inr (Or.inl (Or.inl (Or.inl hu)))
  · exact Or.inr (Or.inl (Or.inr hu))
  · exact Or.inr (Or.inr hu)

theorem inUse (h : Playing R D F S s) (hu : u ∈ F) : s.InUse u :=
  h.inUse_of_mem (h.sound.shared u (Multiset.mem_add.mpr (Or.inl hu))) (Or.inl hu)

/-- A step leads to another state of this kind. -/
theorem step (h : Playing R D F S s) {es : List Happening} {b : Stage (Outside τ)}
    (hstep : Stage.Step ⟨s, [], F + s.guest.ledger.held, S⟩ es b)
    (hb : b = ⟨t, [], Q + t.guest.ledger.held, S'⟩) (hnone : s.NoBoxing t)
    (hdiary : t.guest.diary = s.guest.diary) : Playing R D Q S' t := by
  subst hb
  refine ⟨h.passage, h.passage.step h.here hstep hnone, ?_⟩
  rw [hdiary]
  exact h.diary

/-- Work brings holders. -/
theorem work (h : Playing R D F S s) (hwork : Work s G t) (hnone : s.NoBoxing t)
    (hguest : t.guest = s.guest) : Playing R D (G + F) S t := by
  apply h.step (.work hwork) _ hnone
  · rw [hguest]
  · rw [hguest, add_assoc]

/-- A change of what is not counted, or of what outside code keeps. -/
theorem uncounted (h : Playing R D F S s) (hbooks : t.books = s.books)
    (hreports : t.copyReports = s.copyReports)
    (hheld : Q + t.guest.ledger.held = F + s.guest.ledger.held)
    (hdiary : t.guest.diary = s.guest.diary) : Playing R D Q S t := by
  have hboxes : t.boxes = s.boxes := congrArg Books.boxes hbooks
  apply h.step (.work (.uncounted t hbooks)) _ ⟨by rw [hboxes], hreports⟩ hdiary
  rw [zero_add, hheld]

theorem of_books (h : Playing R D F S s) (hguest : t.guest = s.guest) (hbooks : t.books = s.books)
    (hreports : t.copyReports = s.copyReports) : Playing R D F S t :=
  h.uncounted hbooks hreports (by rw [hguest]) (by rw [hguest])

theorem keep (h : Playing R D F S s) (hu : s.InUse u) : Playing R D ({u} + F) S (s.keep u) := by
  apply h.step (.keep hu) _ (s.noBoxing_keep u)
  · rw [s.guest_keep]
  · rw [s.guest_keep, Multiset.singleton_add, Multiset.cons_add]

/-- All that waits is carried out. -/
theorem settle (h : Playing R D F S s) {es : List Happening} {t : World τ} {due : List Release}
    (hstep : Stage.Step ⟨s, [], F + s.guest.ledger.held, S⟩ es
      ⟨t, due, Q + t.guest.ledger.held, S'⟩) (hnone : s.NoBoxing t)
    (hdiary : t.guest.diary = s.guest.diary) : Playing R D Q S' (t.release due) := by
  have hguest := t.release_guest due
  refine ⟨h.passage, ?_, by rw [hguest, hdiary]; exact h.diary⟩
  rw [hguest]
  have hfirst := h.passage.step h.here hstep hnone
  apply System.release_keeps (P := fun due u => R ⟨u, due, Q + t.guest.ledger.held, S'⟩) ?_ due t
    hfirst
  exact fun first rest u hrest =>
    h.passage.step hrest (.settle u first rest _ S') (u.noBoxing_releaseOne first)

theorem release {ts : List Release} (h : Playing R D (ts + F) S s) : Playing R D F S (s.release ts) := by
  have hstep := Stage.Step.letGo s ts (F + s.guest.ledger.held) S
  rw [← add_assoc] at hstep
  exact h.settle hstep ⟨rfl, rfl⟩ rfl

theorem acquired_guest (h : Playing R D F S s) {r : RuntimeId} {o : ObjectId} {own : Ownership}
    {outcome : Except BridgeError (ObjectWrapper × Bool)} (hr : s.InUse (.bridge r))
    (hrun : (acquireWrapper r o own).run.run s = (outcome, t)) : t.guest = s.guest := by
  have hacquired := acquireWrapper_acquired (o := o) own h.sound.balanced hr.2.2
  rw [hrun] at hacquired
  exact hacquired.guest_eq

/-- A wrap of an object brings what it gives. -/
theorem acquire (h : Playing R D F S s) {r : RuntimeId} {o : ObjectId} {own : Ownership}
    {outcome : Except BridgeError (ObjectWrapper × Bool)} (hr : s.InUse (.bridge r))
    (hrun : (acquireWrapper r o own).run.run s = (outcome, t)) (hwork : Work s G t) :
    Playing R D (G + F) S t := by
  have hnone := s.noBoxing_acquireWrapper r o own
  rw [hrun] at hnone
  exact h.work hwork hnone (h.acquired_guest hr hrun)

/-- What a conversion of a boxed structure leaves. -/
theorem boxing {outcome : Except BridgeError Handle} (h : Playing R D F S s)
    (hguest : t.guest = s.guest)
    (hhere : R ⟨t, [], handleGiven outcome + (F + s.guest.ledger.held), S⟩) :
    Playing R D (handleGiven outcome + F) S t := by
  refine ⟨h.passage, ?_, by rw [hguest]; exact h.diary⟩
  rw [hguest, add_assoc]
  exact hhere

end Playing

/-- It tells what is held. -/
theorem Playing.isBookkeeping (R : Stage (Outside τ) → Prop) (D : System Ledger → Prop)
    (S : List (List Subscriber)) : IsBookkeeping fun F (s : World τ) => Playing R D F S s where
  inUse h hu := h.inUse hu
  pledged h hs hu := h.inUse_of_mem hs (Or.inr (Or.inr hu))
  of_books h hguest hbooks hreports := h.of_books hguest hbooks hreports
  keep h hu := h.keep hu
  release h := h.release
  wrapped h hr hrun := h.acquire hr hrun (.wrapped _ _ _ _ _ _ hr hrun)
  unwrapped h hr hrun := by
    have hfailed := h.acquire hr hrun (.unwrapped _ _ _ _ _ hr hrun)
    rwa [zero_add] at hfailed
  wrapBoxed h hrun := h.boxing (wrapsTo_of_run hrun).guest (h.passage.wrapBoxed h.here hrun)
  wrapBoxedCopy h hrun := h.boxing (copiesTo_of_run hrun).guest
    (h.passage.wrapBoxedCopy h.here hrun)

/-- Outside code that plays along whenever it is called, in the midst of any
emissions. -/
def Guest.Plays (R : Stage (Outside τ) → Prop) (D : System Ledger → Prop)
    (g : Guest (Outside τ)) : Prop :=
  ∀ S, g.Swaps fun F (s : World τ) => Playing R D F S s

/-- Trades of states that runs come to, in the midst of some emissions. -/
abbrev Plays (R : Stage (Outside τ) → Prop) (D : System Ledger → Prop)
    (S : List (List Subscriber)) (a : Action (Outside τ) α) (given : Multiset Release)
    (got : α → Multiset Release) : Prop := Swaps (fun F s => Playing R D F S s) a given got

abbrev PlaysOr (R : Stage (Outside τ) → Prop) (D : System Ledger → Prop)
    (S : List (List Subscriber)) (a : Attempt (Outside τ) α) (given : Multiset Release)
    (got : α → Multiset Release) (back : Multiset Release) : Prop :=
  SwapsOr (fun F s => Playing R D F S s) a given got back

section

variable {S : List (List Subscriber)}

/-! ## Handlers -/

theorem disconnectHandler_plays (o : ObjectId) (id : HandlerId) (P : Multiset Release) :
    PlaysOr R D S (disconnectHandler o id) P (fun _ => P) P := by
  intro F s h
  rcases hd : s.heap.disconnect o id with e | ⟨connection, heap⟩
  · rw [run_disconnectHandler_error s hd]
    exact h
  · rw [run_disconnectHandler_ok s hd]
    exact h.settle (t := { s with heap }) (.disconnect _ S hd) ⟨rfl, rfl⟩ rfl

theorem disconnectSignal_plays (handle : Handle) (id : HandlerId) (P : Multiset Release) :
    PlaysOr R D S (disconnectSignal handle id) P (fun _ => P) P := by
  rcases disconnectSignal_cases (σ := Outside τ) handle id with ⟨e, heq⟩ | ⟨o, heq⟩ <;> rw [heq]
  · exact SwapsOr.throw rfl
  · exact disconnectHandler_plays o id P

theorem unrefObject_plays (o : ObjectId) (P : Multiset Release) :
    PlaysOr R D S (unrefObject o) P (fun _ => P) P := by
  intro F s h
  rcases hd : s.heap.unref o with e | ⟨handlers, heap⟩
  · rw [run_unrefObject_error s hd]
    exact h
  · rw [run_unrefObject_ok s hd]
    exact h.settle (t := { s with heap }) (.unref _ S hd) ⟨rfl, rfl⟩ rfl

/-- A new closure takes over holders of its callable and its data. -/
theorem Playing.addClosure {F : Multiset Release} {s : World τ} (h : Playing R D F S s)
    (r : RuntimeId) {callable : Callable} {data : Option Handle}
    (hparts : ∀ u ∈ Release.callable callable :: dataReleases data, s.InUse u) (swap : Bool)
    (marshaller : Option Marshaller) (origin : Option String) :
    let made := s.addClosure r callable data swap marshaller origin
    Playing R D ({.closure made.1} + F) S made.2 := by
  intro made
  have hguest : made.2.guest = s.guest := by
    cases data with
    | none => rfl
    | some handle => cases handle <;> rfl
  have hnone : s.NoBoxing made.2 := (s.noBoxing_holdParts callable data).trans ⟨rfl, rfl⟩
  apply h.step (.newClosure r callable data swap marshaller origin _ S hparts) _ hnone
  · rw [hguest]
  · rw [hguest, Multiset.singleton_add, Multiset.cons_add]

/-- A handler takes over a holder. -/
theorem Playing.connect {F : Multiset Release} {s : World τ} {subscriber : Subscriber}
    (h : Playing R D (subscriber.releases + F) S s) {o : ObjectId} {signal : String} {after : Bool}
    {id : HandlerId} {heap : Heap Subscriber}
    (hdone : s.heap.connect o signal subscriber after = .ok (id, heap)) :
    Playing R D F S { s with heap } := by
  let t : World τ := { s with heap }
  have hstep := Stage.Step.connect (F + s.guest.ledger.held) S hdone
  rw [← add_assoc] at hstep
  exact h.step (t := t) hstep rfl ⟨rfl, rfl⟩ rfl

theorem connectSignal_plays (r : RuntimeId) (handle : Handle) (signal : String)
    (callable : Callable) (data : Option Handle) (after swapped : Bool) {P : Multiset Release}
    (hparts : ∀ F (s : World τ), Playing R D (P + F) S s →
      ∀ u ∈ Release.callable callable :: dataReleases data, s.InUse u) :
    PlaysOr R D S (connectSignal r handle signal callable data after swapped) P
      (fun _ => P) P := by
  intro F s h
  rcases run_connectSignal_cases s r handle signal callable data after swapped with
    ⟨e, hrun⟩ | ⟨w, type, -, -, hcases⟩
  · rw [hrun]
    exact h
  · have hmade : Playing R D _ S (s.closureFor r signal callable data swapped w type).2 :=
      h.addClosure r (hparts F s h) swapped _ _
    rcases hcases with ⟨e, -, hrun⟩ | ⟨id, heap, hc, hrun⟩ <;> rw [hrun]
    · exact Playing.release hmade
    · exact Playing.connect hmade hc

/-! ## Emissions -/

/-- What an emission in progress delivers to is in use. -/
theorem Playing.inUse_of_snapshot {F : Multiset Release} {s : World τ}
    {snapshot : List Subscriber} (h : Playing R D F (snapshot :: S) s) {x : Closure}
    (hx : .closure x ∈ snapshot) : s.InUse (.closure x) := by
  apply h.inUse_of_mem (u := .closure x) trivial
  right
  left
  rw [Stage.snapped_cons, Multiset.mem_add]
  exact Or.inl (List.mem_flatMap.mpr ⟨_, hx, List.mem_singleton_self _⟩)

variable {g : Guest (Outside τ)} (hg : g.Plays R D)

include hg

theorem invokeSubscriber_plays {subscriber : Subscriber} {snapshot : List Subscriber}
    (hmem : subscriber ∈ snapshot) (params : List TypedValue) (returnType : Option TypeId) :
    PlaysOr R D (snapshot :: S) (subscriber.invoke g params returnType) 0 (fun _ => 0) 0 := by
  cases subscriber with
  | closure x =>
    exact invoke_swaps (Playing.isBookkeeping R D _) (hg _)
      (fun F s hs => hs.inUse_of_snapshot hmem) params returnType
  | native f => exact (hg _).native f params returnType

theorem deliver_plays (params : List TypedValue) (returnType : Option TypeId)
    (result : Option TypedValue) {snapshot subscribers : List Subscriber}
    (hmem : ∀ subscriber ∈ subscribers, subscriber ∈ snapshot) :
    PlaysOr R D (snapshot :: S) (deliver g params returnType result subscribers) 0 (fun _ => 0) 0 := by
  induction subscribers generalizing result with
  | nil => exact SwapsOr.pure rfl
  | cons subscriber rest ih =>
    refine (invokeSubscriber_plays hg (hmem _ List.mem_cons_self) params returnType).bind ?_
    exact fun result => ih result fun x hx => hmem x (List.mem_cons_of_mem _ hx)

theorem emit_plays (o : ObjectId) (signal : String) (args : List NativeValue)
    (P : Multiset Release) : PlaysOr R D S (emit g o signal args) P (fun _ => P) P := by
  refine SwapsOr.same_iff.mpr fun F s h => ?_
  rcases he : s.heap.beginEmission o signal args with e | ⟨emission, heap⟩
  · rw [run_emit_of_error s g he]
    exact h
  · let snapshot := emission.closures
    let s₁ : World τ := snapshot.foldl System.holdSubscriber { s with heap }
    have hguest : s₁.guest = s.guest := by
      simp only [s₁, System.holdSubscribers_eq_keep, System.guest_keepAll]
    have hraised : s.NoBoxing { s with heap } := ⟨rfl, rfl⟩
    have hbegun : Playing R D (P + F) (snapshot :: S) s₁ := by
      apply h.step (.beginEmission _ S he) _ (hraised.trans (System.noBoxing_holdSubscribers _ _))
      · rw [hguest]
      · rw [hguest]
    let work := deliver g emission.params emission.returnType none snapshot
    have hdelivered : Playing R D (P + F) (snapshot :: S) (work.run.run s₁).2 := by
      have hdone := SwapsOr.same_iff.mp (deliver_plays hg emission.params emission.returnType none
        fun x hx => hx) (P + F) s₁ (by rwa [zero_add])
      rwa [zero_add] at hdone
    have hended : Playing R D (P + F) S
        ((work.run.run s₁).2.release (snapshot.flatMap Subscriber.releases)) :=
      hdelivered.settle (.endEmission _ _ snapshot S) ⟨rfl, rfl⟩ rfl
    rw [state_emit_of_ok s g he]
    exact SwapsOr.same_iff.mp (unrefObject_plays o P) F _ hended

end

/-! ## The ledger -/

section

variable {F Q : Multiset Release} {S : List (List Subscriber)} {s : World τ}

/-- What outside code keeps changes hands. -/
theorem Playing.changeLedger (h : Playing R D F S s) {f : Ledger → Ledger}
    (hheld : Q + (f s.guest.ledger).held = F + s.guest.ledger.held) :
    Playing R D Q S (s.changeLedger f) := h.uncounted rfl rfl hheld rfl

theorem Playing.isLedgerkeeping (R : Stage (Outside τ) → Prop) (D : System Ledger → Prop)
    (S : List (List Subscriber)) : IsLedgerkeeping fun F (s : World τ) => Playing R D F S s where
  toIsBookkeeping := Playing.isBookkeeping R D S
  gainAll h := h.changeLedger (by
    rw [Ledger.gain, ← Multiset.coe_add]
    abel)
  of_gainAll {F s ts} h := by
    have hback := h.changeLedger (Q := ts + F) (f := fun _ => s.guest.ledger) (by
      simp only [World.changeLedger, Ledger.gain, ← Multiset.coe_add]
      abel)
    exact hback

/-- References are not counted. -/
theorem enterInLedger_plays {f : Ledger → Ledger} (hf : ∀ l, (f l).held = l.held)
    (P : Multiset Release) : Plays R D S (enterInLedger f) P fun _ => P :=
  Swaps.change fun _ _ h => h.changeLedger (by rw [hf])

theorem Playing.lose (h : Playing R D F S s) (place : Nat) :
    Playing R D ((s.guest.ledger.held[place]?).toList + F) S (s.changeLedger (·.lose place)) := by
  apply h.changeLedger
  rw [s.guest.ledger.held_lose place]
  abel

end

/-! ## Deeds -/

section

variable {F : Multiset Release} {S : List (List Subscriber)} {s : World τ} {g : Guest (Outside τ)}

theorem acquireWrapper_plays (r : RuntimeId) (o : ObjectId) (own : Ownership) :
    PlaysOr R D S (acquireWrapper r o own) {.bridge r}
      (fun found => {.wrapper found.1} + {.bridge r}) {.bridge r} := by
  intro F s h
  have hused : s.InUse (.bridge r) :=
    h.inUse (Multiset.mem_add.mpr (Or.inl (Multiset.mem_singleton_self _)))
  rcases hrun : (acquireWrapper r o own).run.run s with ⟨e | ⟨w, isNew⟩, t⟩
  · have hfailed := h.acquire hused hrun (.unwrapped r o own e t hused hrun)
    rwa [zero_add] at hfailed
  · have hmade := h.acquire hused hrun (.wrapped r o own w isNew t hused hrun)
    rwa [← add_assoc] at hmade

theorem wrapObject_plays (hg : g.Plays R D) (r : RuntimeId) (o : ObjectId) (owned : Bool) :
    PlaysOr R D S (wrapObject g r o owned) {.bridge r} (fun h => h.releases + {.bridge r})
      {.bridge r} := by
  unfold wrapObject
  refine SwapsOr.bind (acquireWrapper_plays r o (.ofOwned owned)) ?_
  rintro ⟨w, isNew⟩
  dsimp only
  split
  · apply SwapsOr.get
    intro s₀
    split
    · rename_i sink _
      have hshown := (((hg S).sink sink o).frame ({.wrapper w} + {.bridge r})).of_eq
        (zero_add _).symm fun _ => zero_add _
      exact (SwapsOr.doing hshown).bind fun _ => SwapsOr.pure rfl
    · exact SwapsOr.pure rfl
  · exact SwapsOr.pure rfl

theorem runWrap_plays (hg : g.Plays R D) (r : RuntimeId) (o : ObjectId) (owned : Bool) :
    Plays R D S (Deed.runWrap g r o owned) {.bridge r} fun _ => {.bridge r} := by
  have hgained := fun outcome => gainResult_swaps (Playing.isLedgerkeeping R D S) outcome
    {.bridge r}
  unfold Deed.runWrap
  apply Swaps.get
  intro s₀
  cases owned with
  | false => exact (wrapObject_plays hg r o false).given.bind hgained
  | true =>
    refine Swaps.bind (enterInLedger_plays (f := (·.spend o)) (fun _ => rfl) _) fun _ => ?_
    refine Swaps.bind (wrapObject_plays hg r o true).given fun outcome => ?_
    dsimp only
    split
    · exact (enterInLedger_plays (f := (·.take o)) (fun _ => rfl) _).bind fun _ => hgained outcome
    · exact hgained outcome

theorem Playing.instantiate (h : Playing R D F S s) (type : TypeId) :
    Playing R D F S (((Deed.instantiate type).run g).run s).2 := by
  rcases Deed.run_instantiate g s type with hrun | ⟨o, heap, hi, hrun⟩ <;> rw [hrun]
  · exact h
  · have hmade := h.step (t := { s with heap }) (.instantiate _ S hi) rfl ⟨rfl, rfl⟩ rfl
    exact hmade.changeLedger (f := (·.take o)) rfl

theorem Playing.ref (h : Playing R D F S s) (o : ObjectId) :
    Playing R D F S (((Deed.ref o).run g).run s).2 := by
  rcases Deed.run_ref g s o with hrun | ⟨heap, href, hrun⟩ <;> rw [hrun]
  · exact h
  · have hmore := h.step (t := { s with heap }) (.ref _ S href) rfl ⟨rfl, rfl⟩ rfl
    exact hmore.changeLedger (f := (·.take o)) rfl

theorem Playing.connectSubscriber {subscriber : Subscriber}
    (h : Playing R D (subscriber.releases + F) S s) (o : ObjectId) (signal : String) (after : Bool) :
    Playing R D (subscriber.releases + F) S
      (((Deed.connect o signal subscriber after).run g).run s).2 := by
  rcases Deed.run_connect g s o signal subscriber after with hrun | ⟨id, heap, hc, hrun⟩ <;>
    rw [hrun]
  · exact h
  · have hkept : Playing R D (subscriber.releases + (subscriber.releases + F)) S
        (s.holdSubscriber subscriber) := by
      have hall := (Playing.isBookkeeping R D S).keepAll h fun u hu =>
        h.inUse (Multiset.mem_add.mpr (Or.inl hu))
      cases subscriber <;> exact hall
    exact hkept.connect hc

theorem sweep_plays (r : RuntimeId) :
    Plays R D S (sweep r) {.bridge r} fun _ => {.bridge r} := by
  intro F s h
  rw [run_sweep]
  exact h.settle (.sweep r _ S ((Playing.isBookkeeping R D S).inUse_aside h)) ⟨rfl, rfl⟩ rfl

theorem Playing.addBridge (h : Playing R D F S s) (config : BridgeConfig) (registry : RegistryId)
    (relay : Option RelayId) :
    Playing R D F S (((Deed.newBridge config registry relay).run g).run s).2 := by
  have hnone : s.NoBoxing (s.addBridge config registry relay).2 := by
    cases relay <;> exact ⟨rfl, rfl⟩
  have hmade := h.work (.bridge config registry relay) hnone (by cases relay <;> rfl)
  exact (Playing.isLedgerkeeping R D S).gainOne hmade

theorem Playing.addCallback (h : Playing R D F S s) (r : RuntimeId) {callable : Callable}
    {data : Option Handle} (hparts : ∀ u ∈ Release.callable callable :: dataReleases data, s.InUse u)
    (paramTypes : List TypeId) (returnType : Option TypeId) :
    let made := s.addCallback r callable data paramTypes returnType
    Playing R D ({.callback made.1} + F) S made.2 := by
  apply h.work (.callback r callable data paramTypes returnType hparts)
    ((s.noBoxing_holdParts callable data).trans ⟨rfl, rfl⟩)
  cases data with
  | none => rfl
  | some handle => cases handle <;> rfl

theorem Playing.look (h : Playing R D F S s) :
    Playing R D F S ((Deed.look.run g).run s).2 := by
  let t : World τ := { s with guest := { s.guest with diary := World.moment s :: s.guest.diary } }
  have hseen := h.passage.step h.here (.work (t := t) (.uncounted t rfl)) ⟨rfl, rfl⟩
  rw [zero_add] at hseen
  refine ⟨h.passage, hseen, fun m hm => ?_⟩
  rcases List.mem_cons.mp hm with rfl | hm
  · exact h.passage.moment h.here
  · exact h.diary m hm

/-- What is held for a deed is still held after it. -/
theorem Deed.run_plays (hg : g.Plays R D) (d : Deed τ) (h : Playing R D (d.uses + F) S s) :
    Playing R D (d.uses + F) S ((d.run g).run s).2 := by
  let H : Multiset Release → World τ → Prop := fun F s => Playing R D F S s
  have hL : IsLedgerkeeping H := Playing.isLedgerkeeping R D S
  have hH := hL.toIsBookkeeping
  have hused : ∀ u ∈ d.uses, s.InUse u := fun u hu => h.inUse (Multiset.mem_add.mpr (Or.inl hu))
  cases d with
  | arrange arrangement =>
    refine hH.arrange h (fun change types hdone => ?_) arrangement
    have hchanged := Playing.work h (.types change types hdone) ⟨rfl, rfl⟩ rfl
    rwa [zero_add] at hchanged
  | instantiate type => exact h.instantiate type
  | ref o => exact h.ref o
  | unref o =>
    have hspent := h.changeLedger (f := (·.spend o)) rfl
    exact attempting_swaps (unrefObject_plays o _) F _ hspent
  | emit o signal args =>
    have hstarted := h.changeLedger (f := (·.startEmission o)) rfl
    have hdone := attempting_swaps (emit_plays hg o signal args _) F _ hstarted
    exact hdone.changeLedger (f := (·.endEmission)) rfl
  | connect o signal subscriber after => exact h.connectSubscriber o signal after
  | disconnect o id => exact attempting_swaps (disconnectHandler_plays o id _) F s h
  | newCallable =>
    have hmade := h.work .callable ⟨rfl, rfl⟩ rfl
    exact hL.gainOne hmade
  | newBridge config registry relay => exact h.addBridge config registry relay
  | newClosure r callable data swap marshaller origin =>
    exact hL.gainOne (h.addClosure r hused swap marshaller origin)
  | newCallback r callable data paramTypes returnType =>
    exact hL.gainOne (h.addCallback r hused paramTypes returnType)
  | keep shared => exact hL.gainOne (h.keep (hused shared List.mem_cons_self))
  | letGo place => exact (h.lose place).release
  | adopt w =>
    have hadopted := h.work (.adopted w) ⟨rfl, rfl⟩ rfl
    rwa [zero_add] at hadopted
  | wrap r o owned => exact runWrap_plays hg r o owned F s h
  | unwrap r handle expected =>
    exact attempting_swaps (H := H) (unwrapObject_swaps r handle expected _) F s h
  | wrapBoxed r block type owned =>
    exact gaining_swaps hL (wrapBoxed_swaps hH r block type owned _) F s h
  | wrapBoxedCopy r block type =>
    exact gaining_swaps hL (wrapBoxedCopy_swaps hH r block type _) F s h
  | unwrapBoxed r handle type =>
    exact attempting_swaps (unwrapBoxed_swaps hH r handle type _) F s h
  | toHandle r v => exact gaining_swaps hL (toHandle_swaps hH r v) F s h
  | fromHandle r handle expected =>
    exact attempting_swaps (fromHandle_swaps hH r handle expected _) F s h
  | connectSignal r handle signal callable data after swapped =>
    refine attempting_swaps (connectSignal_plays r handle signal callable data after swapped ?_) F s h
    intro F' s' h' u hu
    apply h'.inUse
    apply Multiset.mem_add.mpr
    left
    rcases List.mem_cons.mp hu with rfl | hu
    · simp [Deed.uses]
    · simp [Deed.uses, hu]
  | disconnectSignal handle id =>
    exact attempting_swaps (disconnectSignal_plays handle id _) F s h
  | invoke x params returnType =>
    exact attempting_swaps (invokeHeld_swaps hH (hg S) x params returnType) F s h
  | invokeCallback x r args =>
    exact attempting_swaps (invokeHeldCallback_swaps hH (hg S) args) F s h
  | sweep r => exact (sweep_plays r).bind (fun _ => Swaps.pure rfl) F s h
  | runPending r =>
    exact attempting_swaps (runPendingOf_swaps hH (hg S) r (sweep_plays r)) F s h
  | drain id => exact attempting_swaps (runPending_swaps hH (hg S) id _) F s h
  | capture id fault origin r =>
    exact (captureFault_swaps hH id fault origin r 0).bind (fun _ => Swaps.pure rfl) F s h
  | look => exact h.look
  | remember memory => exact h.uncounted rfl rfl rfl rfl

theorem Deed.perform_plays (hg : g.Plays R D) {d : Deed τ} {c : Conduct} (h : Playing R D F S s)
    (hallowed : d.Allowed c s) : Playing R D F S ((d.perform g).run s).2 :=
  (d.run_plays hg ((Playing.isBookkeeping R D S).keepAll h hallowed.in_use)).release

end

/-! ## Every moment -/

theorem Moves.playing {c : Conduct} {s t : World τ} (h : Moves c s t)
    (S : List (List Subscriber)) : Keeps (fun F s => Playing R D F S s) s t := by
  refine Moves.preserves (fun S => Playing.isLedgerkeeping R D S) ?_ h S
  intro g d s hg hallowed S F hs
  exact Deed.perform_plays hg hs hallowed

/-- Whatever outside code does from the beginning, some run in small steps
does; and it comes by all that outside code looks at. -/
theorem Moves.run {c : Conduct} {memory : τ} {t : World τ} (h : Moves c (World.start memory) t) :
    (∃ es, Stage.Run (.start { memory }) es ⟨t, [], t.guest.ledger.held, []⟩) ∧
      ∀ m ∈ t.guest.diary, (Stage.start { memory }).Explains m := by
  have hpassage := Stage.Run.isPassage (Stage.start_sound ({ memory } : Outside τ))
  have hend := h.playing [] 0 ⟨hpassage, ⟨[], .rest⟩, fun m hm => Or.inl hm⟩
  obtain ⟨es, hrun⟩ := hend.here
  rw [zero_add] at hrun
  refine ⟨⟨es, hrun⟩, fun m hm => ?_⟩
  exact (hend.diary m hm).resolve_left List.not_mem_nil

end NativeBridge
