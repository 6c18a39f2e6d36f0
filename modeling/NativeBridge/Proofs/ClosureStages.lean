-- Runs in small steps. A release that follows from another one is a step of
-- its own here, and so is the start and the end of an emission; so a run shows
-- who holds a closure at every moment, and at which moment it ends.
import NativeBridge.Proofs.Deeds
import NativeBridge.Proofs.HeapRuns

namespace NativeBridge

variable {σ : Type}

/-! ## Stages -/

/-- Something that happens in a run. -/
inductive Happening where
  | heap (e : Heap.Event Subscriber)
  | made (x : Closure)
  /-- The callable and the data of the closure are released. -/
  | ended (x : Closure)

/-- A state in the middle of a run. -/
structure Stage (σ : Type) where
  system : System σ
  /-- The releases that wait, the next one first. -/
  due : List Release := []
  /-- The holders that creators and others keep. -/
  kept : Multiset Release := 0
  /-- What the emissions in progress deliver to, the innermost first. -/
  snapshots : List (List Subscriber) := []

/-- The holders that snapshots are. -/
def Stage.snapped (a : Stage σ) : Multiset Release :=
  (a.snapshots.flatMap fun snapshot => snapshot.flatMap Subscriber.releases : List Release)

/-- An object loses a reference; with its last one it is finalized. -/
def Heap.loses (h : Heap Subscriber) (o : ObjectId) : List Happening :=
  if h.refCount? o = some 1 then [.heap (.finalized o)] else []

/-- What a release makes happen. -/
def System.happens (s : System σ) : Release → List Happening
  | .object o => s.heap.loses o
  | .defensive o => s.heap.loses o
  | .closure x => if s.closures.holders x.id.number = 1 then [.ended x] else []
  | _ => []

/-! ## Steps -/

/-- What the bridge does besides with closures and handlers: it makes things
that are counted, and someone gains their first holders. -/
inductive Work (s : System σ) : Multiset Release → System σ → Prop where
  | callable : Work s {.callable s.addCallable.1} s.addCallable.2
  | bridge (config : BridgeConfig) (registry : RegistryId) (relay : Option RelayId) :
    Work s {.bridge (s.addBridge config registry relay).1} (s.addBridge config registry relay).2
  | callback (r : RuntimeId) (callable : Callable) (data : Option Handle)
    (paramTypes : List TypeId) (returnType : Option TypeId)
    (hparts : ∀ u ∈ Release.callable callable :: dataReleases data, s.InUse u) :
    Work s {.callback (s.addCallback r callable data paramTypes returnType).1}
      (s.addCallback r callable data paramTypes returnType).2
  | wrapped (r : RuntimeId) (o : ObjectId) (own : Ownership) (w : ObjectWrapper) (isNew : Bool)
    (t : System σ) (hr : s.InUse (.bridge r))
    (hrun : (acquireWrapper r o own).run.run s = (.ok (w, isNew), t)) : Work s {.wrapper w} t
  | unwrapped (r : RuntimeId) (o : ObjectId) (own : Ownership) (e : BridgeError) (t : System σ)
    (hr : s.InUse (.bridge r)) (hrun : (acquireWrapper r o own).run.run s = (.error e, t)) :
    Work s 0 t
  | boxed (w : BoxedWrapper) (destroyer : Option BoxedStrategy) (hw : w.number = s.boxes.size) :
    Work s {.boxed w} { s with boxes := s.boxes.add { wrapper := w, destroyer } }
  | adopted (w : ObjectWrapper) :
    Work s 0 { s with wrappers := System.handOver s.wrappers w }
  | types (change : TypeChange) (types : Hierarchy) (hdone : change.apply s.heap.types = .ok types) :
    Work s 0 { s with heap := { s.heap with types } }
  /-- Nothing that is counted changes. -/
  | uncounted (t : System σ) (hbooks : t.books = s.books) : Work s 0 t

/-- One step of a run. While releases wait, the next one is carried out. -/
inductive Stage.Step : Stage σ → List Happening → Stage σ → Prop where
  | settle (s : System σ) (t : Release) (rest : List Release) (kept : Multiset Release)
    (snapshots : List (List Subscriber)) :
    Step ⟨s, t :: rest, kept, snapshots⟩ (s.happens t)
      ⟨(s.releaseOne t).2, (s.releaseOne t).1 ++ rest, kept, snapshots⟩
  | work {s t : System σ} {gained kept : Multiset Release} {snapshots : List (List Subscriber)}
    (h : Work s gained t) : Step ⟨s, [], kept, snapshots⟩ [] ⟨t, [], gained + kept, snapshots⟩
  /-- Someone else becomes a holder. -/
  | keep {s : System σ} {t : Release} {kept : Multiset Release}
    {snapshots : List (List Subscriber)} (h : s.InUse t) :
    Step ⟨s, [], kept, snapshots⟩ [] ⟨s.keep t, [], t ::ₘ kept, snapshots⟩
  | letGo (s : System σ) (ts : List Release) (kept : Multiset Release)
    (snapshots : List (List Subscriber)) :
    Step ⟨s, [], ts + kept, snapshots⟩ [] ⟨s, ts, kept, snapshots⟩
  | sweep {s : System σ} (r : RuntimeId) (kept : Multiset Release)
    (snapshots : List (List Subscriber)) (hr : s.InUse (.bridge r)) :
    Step ⟨s, [], kept, snapshots⟩ [] ⟨s.dropSwept r,
      ((s.bridge r).arena.wrappers.filter s.isIdle).flatMap idleReleases, kept, snapshots⟩
  -- closures
  | newClosure {s : System σ} (r : RuntimeId) (callable : Callable) (data : Option Handle)
    (swap : Bool) (marshaller : Option Marshaller) (origin : Option String)
    (kept : Multiset Release) (snapshots : List (List Subscriber))
    (hparts : ∀ u ∈ Release.callable callable :: dataReleases data, s.InUse u) :
    Step ⟨s, [], kept, snapshots⟩
      [.made (s.addClosure r callable data swap marshaller origin).1]
      ⟨(s.addClosure r callable data swap marshaller origin).2, [],
        .closure (s.addClosure r callable data swap marshaller origin).1 ::ₘ kept, snapshots⟩
  -- objects and handlers
  | instantiate {s : System σ} {type : TypeId} {o : ObjectId} {heap : Heap Subscriber}
    (kept : Multiset Release) (snapshots : List (List Subscriber))
    (hdone : s.heap.instantiate type = .ok (o, heap)) :
    Step ⟨s, [], kept, snapshots⟩ [.heap (.created o)] ⟨{ s with heap }, [], kept, snapshots⟩
  | ref {s : System σ} {o : ObjectId} {heap : Heap Subscriber} (kept : Multiset Release)
    (snapshots : List (List Subscriber)) (hdone : s.heap.ref o = .ok heap) :
    Step ⟨s, [], kept, snapshots⟩ [] ⟨{ s with heap }, [], kept, snapshots⟩
  | unref {s : System σ} {o : ObjectId} {handlers : List (Connection Subscriber)}
    {heap : Heap Subscriber} (kept : Multiset Release) (snapshots : List (List Subscriber))
    (hdone : s.heap.unref o = .ok (handlers, heap)) :
    Step ⟨s, [], kept, snapshots⟩ (s.heap.loses o)
      ⟨{ s with heap }, handlerReleases handlers, kept, snapshots⟩
  /-- A handler takes over a holder of what is connected. -/
  | connect {s : System σ} {o : ObjectId} {signal : String} {subscriber : Subscriber} {after : Bool}
    {id : HandlerId} {heap : Heap Subscriber} (kept : Multiset Release)
    (snapshots : List (List Subscriber))
    (hdone : s.heap.connect o signal subscriber after = .ok (id, heap)) :
    Step ⟨s, [], subscriber.releases + kept, snapshots⟩
      [.heap (.connected o ⟨id, signal, subscriber, after⟩)] ⟨{ s with heap }, [], kept, snapshots⟩
  | disconnect {s : System σ} {o : ObjectId} {id : HandlerId} {connection : Connection Subscriber}
    {heap : Heap Subscriber} (kept : Multiset Release) (snapshots : List (List Subscriber))
    (hdone : s.heap.disconnect o id = .ok (connection, heap)) :
    Step ⟨s, [], kept, snapshots⟩ [.heap (.disconnected o id)]
      ⟨{ s with heap }, connection.closure.releases, kept, snapshots⟩
  -- emissions
  | beginEmission {s : System σ} {o : ObjectId} {signal : String} {args : List NativeValue}
    {emission : Heap.Emission Subscriber} {heap : Heap Subscriber} (kept : Multiset Release)
    (snapshots : List (List Subscriber))
    (hdone : s.heap.beginEmission o signal args = .ok (emission, heap)) :
    Step ⟨s, [], kept, snapshots⟩ []
      ⟨emission.closures.foldl System.holdSubscriber { s with heap }, [], kept,
        emission.closures :: snapshots⟩
  /-- The snapshot is released. The reference that kept the object alive is
  given back after that. -/
  | endEmission (s : System σ) (kept : Multiset Release) (snapshot : List Subscriber)
    (snapshots : List (List Subscriber)) :
    Step ⟨s, [], kept, snapshot :: snapshots⟩ []
      ⟨s, snapshot.flatMap Subscriber.releases, kept, snapshots⟩

/-- Steps one after another, with all that happens. -/
inductive Stage.Run (a : Stage σ) : List Happening → Stage σ → Prop where
  | rest : Run a [] a
  | step {es new : List Happening} {b c : Stage σ} (before : Run a es b) (last : Step b new c) :
    Run a (es ++ new) c

/-- The beginning: nothing exists. -/
def Stage.start (guest : σ) : Stage σ := { system := { guest } }

/-! ## The books of a stage -/

/-- Holders are shared things, and the books balance with what waits. -/
structure Stage.Sound (a : Stage σ) : Prop where
  shared : ∀ t ∈ a.kept, t.account.IsShared
  balanced : Balanced .any a.due (a.kept + a.snapped) a.system.books

namespace Balanced

variable {due held : Multiset Release} {b : Books}

/-- Under any conduct references count for nothing. -/
theorem discount {o : ObjectId} (h : Balanced .any due (.object o ::ₘ held) b) :
    Balanced .any due held b := by
  have hall : due + (.object o ::ₘ held + b.pledged) =
      .object o ::ₘ (due + (held + b.pledged)) := by
    rw [Multiset.cons_add, Multiset.add_cons]
  have hcounts := h.counts
  rw [hall] at hcounts
  refine ⟨h.formed, ⟨?_, ?_⟩, ?_, fun hc => Conduct.noConfusion hc, h.single⟩
  · exact fun u hu => hcounts.known u (Multiset.mem_cons_of_mem hu)
  · intro a ha
    have hne : (Release.object o).account ≠ a := by
      rintro rfl
      exact ha
    rw [hcounts.counted a ha, tally_cons, if_neg hne, Nat.add_zero]
  · intro w hw
    apply h.standing w
    rw [Multiset.cons_add]
    exact Multiset.mem_cons_of_mem hw

/-- Holders of some things in use. -/
theorem keepAll {s : System σ} {ts : List Release} (h : Balanced .any 0 held s.books)
    (hts : ∀ u ∈ ts, s.InUse u) : Balanced .any 0 (ts + held) (ts.foldl System.keep s).books := by
  induction ts generalizing s held with
  | nil => rwa [Multiset.coe_nil, zero_add]
  | cons u ts ih =>
    have hu := hts u List.mem_cons_self
    have hkept : Balanced .any 0 (u ::ₘ held) (s.keep u).books := by
      rw [System.books_keep]
      exact h.hold hu.1 (h.mem_of_holders hu.2.1 hu.1 hu.2.2)
    have hrest := ih hkept fun v hv => (hts v (List.mem_cons_of_mem u hv)).keep hu
    rw [← Multiset.cons_coe, Multiset.cons_add, ← Multiset.add_cons]
    exact hrest

/-- The callable and the data of something new get a holder. -/
theorem keepParts {s : System σ} {callable : Callable} {data : Option Handle}
    (h : Balanced .any 0 held s.books)
    (hparts : ∀ u ∈ Release.callable callable :: dataReleases data, s.InUse u) :
    Balanced .any 0 ((Release.callable callable :: dataReleases data : List Release) + held)
      ((s.holdCallable callable).holdData data).books := by
  have hkept := h.keepAll hparts
  rw [List.foldl_cons] at hkept
  cases data with
  | none => exact hkept
  | some handle =>
    rw [System.holdData, System.holdHandle_eq_keep]
    exact hkept

end Balanced

section

variable {s t : System σ} {gained H : Multiset Release}

theorem books_addBridge (s : System σ) (config : BridgeConfig) (registry : RegistryId)
    (relay : Option RelayId) : (s.addBridge config registry relay).2.books =
      { s.books with arenas := s.books.arenas.add {} } := by
  cases relay <;> simp only [System.addBridge, System.addRelay, System.books, SharedTable.map_add]

/-- Work keeps the books, with what it gains. -/
theorem Work.balanced (h : Work s gained t) (hs : Balanced .any 0 H s.books) :
    Balanced .any 0 (gained + H) t.books := by
  cases h with
  | callable => exact hs.addCallable
  | bridge config registry relay =>
    have hsize : (s.addBridge config registry relay).1 = ⟨s.books.arenas.size⟩ := by
      cases relay <;> simp [System.addBridge, System.addRelay, System.books]
    rw [books_addBridge, hsize]
    exact hs.addBridge
  | callback r callable data paramTypes returnType hparts =>
    refine Balanced.addCallback (x := (s.addCallback r callable data paramTypes returnType).1)
      (hs.keepParts hparts) ?_
    cases data with
    | none => rfl
    | some handle => cases handle <;> rfl
  | wrapped r o own w isNew t hr hrun =>
    rw [Multiset.singleton_add]
    have hacquired := acquireWrapper_acquired (o := o) own (hs.credit o) hr.2.2
    rw [hrun] at hacquired
    cases hacquired with
    | known w t hguest hobject hold hbalanced =>
      rw [Multiset.cons_swap] at hbalanced
      exact hbalanced.discount
    | new w t hguest hobject hnext hbalanced =>
      cases own with
      | owned => exact hbalanced H (by rw [if_pos rfl, Multiset.singleton_add])
      | borrowed =>
        have hmade := hbalanced (.object o ::ₘ H) (by rw [if_neg (by simp), zero_add])
        rw [Multiset.cons_swap] at hmade
        exact hmade.discount
  | unwrapped r o own e t hr hrun =>
    rw [zero_add]
    have hacquired := acquireWrapper_acquired (o := o) own hs hr.2.2
    rw [hrun] at hacquired
    cases hacquired with
    | failed e t hguest hbalanced => exact hbalanced
  | boxed w destroyer hw => exact hs.addBox hw destroyer
  | adopted w =>
    rw [zero_add]
    exact hs.adopt w
  | types change types hdone =>
    rw [zero_add]
    exact hs.changeTypes types
  | uncounted t hbooks =>
    rw [zero_add, hbooks]
    exact hs

/-- A wrap leaves closures and boxes alone, and at most takes a reference. -/
theorem acquireWrapper_frame (s : System σ) (r : RuntimeId) (o : ObjectId) (own : Ownership) :
    ((acquireWrapper r o own).run.run s).2.closures = s.closures ∧
      ((acquireWrapper r o own).run.run s).2.boxes = s.boxes ∧
      Heap.Run s.heap [] ((acquireWrapper r o own).run.run s).2.heap := by
  have hlive : (s.liveWrapper r o).2.closures = s.closures ∧
      (s.liveWrapper r o).2.boxes = s.boxes := by
    unfold System.liveWrapper
    split
    · exact ⟨rfl, rfl⟩
    · split <;> exact ⟨rfl, rfl⟩
  obtain ⟨-, hheap, -⟩ := s.liveWrapper_frame r o
  have hcase := wrapCase s r o own
  generalize (acquireWrapper r o own).run.run s = done at hcase ⊢
  cases hcase with
  | stale htype => exact ⟨rfl, rfl, .rest⟩
  | known htype hl => exact ⟨rfl, rfl, .rest⟩
  | refused htype hl he =>
    rw [hl] at hlive hheap
    exact ⟨hlive.1, hlive.2, hheap ▸ .rest⟩
  | @new type s₁ t exposure heap w htype hl he htaken hadded =>
    rw [hl] at hlive
    have hnoted : (s₁.noteExposure r type exposure).closures = s₁.closures ∧
        (s₁.noteExposure r type exposure).boxes = s₁.boxes := by
      cases exposure with
      | own package => exact ⟨rfl, rfl⟩
      | inherited package =>
        unfold System.noteExposure System.noteFallback
        dsimp only
        split <;> exact ⟨rfl, rfl⟩
    obtain rfl : (System.addWrapper _ r o type exposure.package own).2 = t :=
      congrArg Prod.snd hadded
    refine ⟨hnoted.1.trans hlive.1, hnoted.2.trans hlive.2, ?_⟩
    change Heap.Run s.heap [] heap
    rcases htaken with ⟨-, rfl⟩ | ⟨-, href⟩
    · exact .rest
    · exact (Heap.Step.ref href).run

theorem Work.closures (h : Work s gained t) : t.closures = s.closures := by
  cases h with
  | callable => rfl
  | bridge config registry relay => cases relay <;> rfl
  | callback r callable data paramTypes returnType hparts =>
    cases data with
    | none => rfl
    | some handle => cases handle <;> rfl
  | wrapped r o own w isNew t hr hrun =>
    have hframe := acquireWrapper_frame s r o own
    rw [hrun] at hframe
    exact hframe.1
  | unwrapped r o own e t hr hrun =>
    have hframe := acquireWrapper_frame s r o own
    rw [hrun] at hframe
    exact hframe.1
  | boxed w destroyer hw => rfl
  | adopted w => rfl
  | types change types hdone => rfl
  | uncounted t hbooks => exact congrArg Books.closures hbooks

/-- Work creates no object and finalizes none, and connects and disconnects
nothing. -/
theorem Work.heap (h : Work s gained t) : Heap.Run s.heap [] t.heap := by
  cases h with
  | callable => exact .rest
  | bridge config registry relay => cases relay <;> exact .rest
  | callback r callable data paramTypes returnType hparts =>
    cases data with
    | none => exact .rest
    | some handle => cases handle <;> exact .rest
  | wrapped r o own w isNew t hr hrun =>
    have hframe := acquireWrapper_frame s r o own
    rw [hrun] at hframe
    exact hframe.2.2
  | unwrapped r o own e t hr hrun =>
    have hframe := acquireWrapper_frame s r o own
    rw [hrun] at hframe
    exact hframe.2.2
  | boxed w destroyer hw => exact .rest
  | adopted w => exact .rest
  | types change types hdone => exact (Heap.Step.changeTypes hdone).run
  | uncounted t hbooks =>
    have hheap : t.heap = s.heap := congrArg Books.heap hbooks
    rw [hheap]
    exact .rest

theorem Work.shared (h : Work s gained t) : ∀ u ∈ gained, u.account.IsShared := by
  cases h <;> simp [Release.account, Account.IsShared]

end

/-! ## Steps keep the books -/

namespace Balanced

variable {due held : Multiset Release} {o : ObjectId}

/-- What has a holder is in use. -/
theorem inUse {c : Conduct} {s : System σ} (h : Balanced c due held s.books) {u : Release}
    (hs : u.account.IsShared) (hu : u ∈ due + (held + s.books.pledged)) : s.InUse u := by
  refine ⟨hs, h.counts.known u hu, ?_⟩
  rw [h.counts.counted _ hs]
  exact tally_ne_zero_of_mem hu

/-- The handlers of a live object hold what they deliver to. -/
theorem inUse_of_handler {c : Conduct} {s : System σ} (h : Balanced c due held s.books)
    {object : LiveObject Subscriber} (hl : s.heap.live? o = some object)
    {connection : Connection Subscriber} (hc : connection ∈ object.handlers) {u : Release}
    (hu : u ∈ connection.closure.releases) : s.InUse u := by
  obtain ⟨hs, hpledged⟩ := Books.handler_pledged (b := s.books) hl hc hu
  exact h.inUse hs (Multiset.mem_add.mpr (Or.inr (Multiset.mem_add.mpr (Or.inr hpledged))))

/-- A reference that somebody gives back, whether it was theirs or not. -/
theorem unref {b : Books} (h : Balanced .any 0 held b) {handlers : List (Connection Subscriber)}
    {heap : Heap Subscriber} (hdone : b.heap.unref o = .ok (handlers, heap)) :
    Balanced .any (handlerReleases handlers) held { b with heap } := by
  have hdue : Balanced .any (.object o ::ₘ 0) held b := by
    have hcredit := h.credit o
    rw [← Multiset.singleton_add] at hcredit
    exact hcredit.due_of_held
  obtain ⟨object, hl, ⟨hr, rfl, rfl⟩ | ⟨hr, rfl, rfl⟩⟩ := Heap.unref_ok hdone
  · have hlast := hdue.unref_last rfl hl hr
    rwa [add_zero] at hlast
  · exact hdue.unref_more rfl hl hr

/-- An emission that starts keeps its object; what it will deliver to is in
use. -/
theorem emission_inUse {s : System σ} (h : Balanced .any 0 held s.books) {signal : String}
    {args : List NativeValue} {emission : Heap.Emission Subscriber} {heap : Heap Subscriber}
    (hdone : s.heap.beginEmission o signal args = .ok (emission, heap)) :
    Balanced .any 0 held ({ s with heap } : System σ).books ∧
      ∀ u ∈ emission.closures.flatMap Subscriber.releases, ({ s with heap } : System σ).InUse u := by
  obtain ⟨object, hl, hheap, hclosures⟩ := Heap.beginEmission_ok hdone
  have hraised : Balanced .any 0 held ({ s with heap } : System σ).books := by
    have hmore := (h.raise (t := .object o) rfl hl (Or.inr rfl)).discount
    rw [hheap]
    exact hmore
  have hl' : heap.live? o = some { object with refs := object.refs + 1 } := by
    rw [hheap]
    exact Heap.live?_store_self _ hl
  refine ⟨hraised, fun u hu => ?_⟩
  obtain ⟨subscriber, hsubscriber, hrelease⟩ := List.mem_flatMap.mp hu
  rw [hclosures] at hsubscriber
  obtain ⟨connection, hconnection, rfl⟩ := mem_of_mem_closuresFor hsubscriber
  exact hraised.inUse_of_handler (s := { s with heap }) hl' hconnection hrelease

theorem beginEmission {s : System σ} (h : Balanced .any 0 held s.books) {signal : String}
    {args : List NativeValue} {emission : Heap.Emission Subscriber} {heap : Heap Subscriber}
    (hdone : s.heap.beginEmission o signal args = .ok (emission, heap)) :
    Balanced .any 0 ((emission.closures.flatMap Subscriber.releases : List Release) + held)
      (emission.closures.foldl System.holdSubscriber { s with heap }).books := by
  obtain ⟨hraised, hused⟩ := h.emission_inUse hdone
  rw [System.holdSubscribers_eq_keep]
  exact hraised.keepAll hused

end Balanced

namespace Stage

variable {a b : Stage σ} {es : List Happening}

theorem snapped_cons (s : System σ) (due : List Release) (kept : Multiset Release)
    (snapshot : List Subscriber) (snapshots : List (List Subscriber)) :
    (⟨s, due, kept, snapshot :: snapshots⟩ : Stage σ).snapped =
      (snapshot.flatMap Subscriber.releases : List Release) +
        (⟨s, due, kept, snapshots⟩ : Stage σ).snapped := by
  simp only [snapped, List.flatMap_cons, Multiset.coe_add]

/-- Each step keeps the books. -/
theorem Step.sound (h : Step a es b) (ha : a.Sound) : b.Sound := by
  obtain ⟨hshared, hbalanced⟩ := ha
  cases h with
  | settle s t rest kept snapshots =>
    refine ⟨hshared, ?_⟩
    have hdue : Balanced .any (t ::ₘ (rest : Multiset Release)) _ s.books := hbalanced
    rw [← Multiset.coe_add]
    exact System.releaseOne_balanced hdue
  | work hwork =>
    refine ⟨?_, ?_⟩
    · intro u hu
      exact (Multiset.mem_add.mp hu).elim (hwork.shared u) (hshared u)
    · have hdone := hwork.balanced hbalanced
      rwa [← add_assoc] at hdone
  | keep hused =>
    refine ⟨?_, ?_⟩
    · intro u hu
      rcases Multiset.mem_cons.mp hu with rfl | hu
      · exact hused.1
      · exact hshared u hu
    · rw [Multiset.cons_add, System.books_keep]
      exact hbalanced.hold hused.1 (hbalanced.mem_of_holders hused.2.1 hused.1 hused.2.2)
  | letGo s ts kept snapshots =>
    refine ⟨fun u hu => hshared u (Multiset.mem_add.mpr (Or.inr hu)), ?_⟩
    rw [add_assoc] at hbalanced
    have hdue := hbalanced.due_of_held
    rwa [Multiset.coe_nil, add_zero] at hdue
  | sweep r kept snapshots hr =>
    rename_i s
    refine ⟨hshared, ?_⟩
    have herased := hbalanced.eraseEntries s.isSwept (System.arena_of_inUse hr.2.2) hr.2.2
      fun w _ hw => holders_of_isSwept s hw
    rwa [filter_isSwept, ← books_dropSwept] at herased
  | newClosure r callable data swap marshaller origin kept snapshots hparts =>
    rename_i s
    have hsize : ((s.holdCallable callable).holdData data).closures.size = s.closures.size := by
      cases data with
      | none => rfl
      | some handle => cases handle <;> rfl
    refine ⟨?_, ?_⟩
    · intro u hu
      rcases Multiset.mem_cons.mp hu with rfl | hu
      · trivial
      · exact hshared u hu
    · rw [Multiset.cons_add]
      exact Balanced.addClosure
        (x := (s.addClosure r callable data swap marshaller origin).1)
        (hbalanced.keepParts hparts) hsize.symm
  | instantiate kept snapshots hdone => exact ⟨hshared, (hbalanced.instantiate hdone).discount⟩
  | ref kept snapshots hdone =>
    refine ⟨hshared, ?_⟩
    obtain ⟨object, hl, rfl⟩ := Heap.ref_ok hdone
    exact (hbalanced.raise (t := .object _) rfl hl (Balanced.countUp_cases object.refs)).discount
  | unref kept snapshots hdone => exact ⟨hshared, hbalanced.unref hdone⟩
  | connect kept snapshots hdone =>
    refine ⟨fun u hu => hshared u (Multiset.mem_add.mpr (Or.inr hu)), ?_⟩
    have hheld := hbalanced
    rw [add_assoc] at hheld
    exact hheld.connect hdone
  | disconnect kept snapshots hdone =>
    have hgone := hbalanced.disconnect hdone
    rw [Multiset.coe_nil, add_zero] at hgone
    exact ⟨hshared, hgone⟩
  | beginEmission kept snapshots hdone =>
    refine ⟨hshared, ?_⟩
    rw [snapped_cons, add_left_comm]
    exact hbalanced.beginEmission hdone
  | endEmission s kept snapshot snapshots =>
    refine ⟨hshared, ?_⟩
    rw [snapped_cons, add_left_comm] at hbalanced
    have hdue := hbalanced.due_of_held
    rwa [Multiset.coe_nil, add_zero] at hdue

theorem start_sound (guest : σ) : (start guest).Sound := by
  refine ⟨fun u hu => absurd hu (Multiset.notMem_zero u), ?_⟩
  have hbooks : (start guest).system.books = .blank := by
    simp [System.books, start, SharedTable.map, Books.blank]
  rw [hbooks]
  exact .blank .any

/-- The books balance all along a run. -/
theorem Run.sound (h : Run a es b) (ha : a.Sound) : b.Sound := by
  induction h with
  | rest => exact ha
  | step _ last ih => exact last.sound ih

end Stage

end NativeBridge
