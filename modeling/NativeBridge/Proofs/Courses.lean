-- Courses: relations between the states before and after an action, that can
-- be put one after another. What moves holders about belongs to every course,
-- and so does every operation on the heap, and that is most of the library.
import NativeBridge.Proofs.HeapRuns
import NativeBridge.Proofs.NativeCalls
import NativeBridge.Proofs.Upkeep

namespace NativeBridge

variable {σ τ α β : Type}

/-! ## What relays are about -/

/-- A notice about a relay that gave up on a fault. -/
def Notice.isOfRelay : Notice → Bool
  | queueFull _ => true
  | unhandled _ => true
  | _ => false

/-- A notice about an object that is shown as an ancestor of its type. -/
def Notice.isFallback : Notice → Bool
  | subclassFallback _ _ => true
  | _ => false

/-- The part of the state that the laws of relays are about. -/
structure RelayLog where
  relays : Array Relay
  /-- The relay of each bridge. -/
  home : Nat → Option RelayId
  /-- What relays gave up on, the oldest first. -/
  reports : List Notice

namespace System

def relayLog (s : System σ) : RelayLog where
  relays := s.relays
  home n := (s.bridges.get? n).map (·.relay)
  reports := s.notices.filter (·.isOfRelay)

/-- The fallbacks that were reported, the oldest first. -/
def fallbacks (s : System σ) : List Notice := s.notices.filter (·.isFallback)

/-- Where the work goes on: the thread, and what is entered there. -/
def place (s : System σ) : Nat × List RuntimeId := (s.thread, s.entered)

variable (s : System σ)

@[simp] theorem relayLog_holdBridges (n : Nat) :
    ({ s with bridges := s.bridges.hold n } : System σ).relayLog = s.relayLog := by
  simp [relayLog]

@[simp] theorem relayLog_dropBridges (n : Nat) :
    ({ s with bridges := s.bridges.drop n } : System σ).relayLog = s.relayLog := by
  simp [relayLog]

theorem relayLog_modifyBridge (r : RuntimeId) {f : Bridge → Bridge}
    (hf : ∀ b, (f b).relay = b.relay) : (s.modifyBridge r f).relayLog = s.relayLog := by
  unfold modifyBridge relayLog
  congr 1
  funext n
  rw [SharedTable.get?_modify]
  split
  · rw [Option.map_map]
    congr 1
    funext b
    exact hf b
  · rfl

theorem relayLog_note {n : Notice} (hn : n.isOfRelay = false) :
    (s.note n).relayLog = s.relayLog := by
  simp [relayLog, note, hn]

theorem fallbacks_note {n : Notice} (hn : n.isFallback = false) :
    (s.note n).fallbacks = s.fallbacks := by
  simp [fallbacks, note, hn]

/-- A bridge is read from its table. -/
theorem map_bridge {β : Type} (f : Bridge → β) (r : RuntimeId) :
    f (s.bridge r) = ((s.bridges.get? r.number).map f).getD (f default) := by
  unfold bridge
  cases s.bridges.get? r.number <;> rfl

/-! ## Fallbacks -/

/-- The report of a fallback changes what a bridge gave a warning about, and
adds to the reports. -/
theorem get?_noteFallback {β : Type} {f : Bridge → β}
    (hf : ∀ (b : Bridge) warned, f { b with warned } = f b) (r : RuntimeId) (type : TypeId)
    (package : String) (n : Nat) :
    ((s.noteFallback r type package).bridges.get? n).map f = (s.bridges.get? n).map f := by
  unfold noteFallback
  dsimp only
  split
  · unfold note modifyBridge
    dsimp only
    rw [SharedTable.get?_modify]
    split
    · rw [Option.map_map]
      exact congrArg (Option.map · _) (funext fun b => hf b _)
    · rfl
  · rfl

theorem bridge_noteFallback {β : Type} {f : Bridge → β}
    (hf : ∀ (b : Bridge) warned, f { b with warned } = f b) (r : RuntimeId) (type : TypeId)
    (package : String) (r' : RuntimeId) :
    f ((s.noteFallback r type package).bridge r') = f (s.bridge r') := by
  rw [map_bridge _ f, map_bridge s f, s.get?_noteFallback hf]

theorem relayLog_noteFallback (r : RuntimeId) (type : TypeId) (package : String) :
    (s.noteFallback r type package).relayLog = s.relayLog := by
  unfold noteFallback
  dsimp only
  split
  · rw [relayLog_note, relayLog_modifyBridge]
    · exact fun _ => rfl
    · rfl
  · rfl

/-- What the report of a fallback leaves alone. -/
theorem frame_noteFallback (r : RuntimeId) (type : TypeId) (package : String) :
    let t := s.noteFallback r type package
    t.heap = s.heap ∧ t.registries = s.registries ∧ t.place = s.place ∧ t.guest = s.guest := by
  unfold noteFallback
  dsimp only
  split <;> exact ⟨rfl, rfl, rfl, rfl⟩

/-! ## Releasing -/

theorem relayLog_releaseReference (o : ObjectId) {report : ObjectId → NativeError → Notice}
    (hreport : ∀ e, (report o e).isOfRelay = false) :
    (s.releaseReference o report).2.relayLog = s.relayLog := by
  unfold releaseReference
  split
  · rfl
  · exact s.relayLog_note (hreport _)

theorem relayLog_releaseOne (t : Release) : (s.releaseOne t).2.relayLog = s.relayLog := by
  cases t with
  | object o => exact s.relayLog_releaseReference o fun _ => rfl
  | defensive o => exact s.relayLog_releaseReference o fun _ => rfl
  | wrapper w =>
    simp only [releaseOne]
    split <;> rfl
  | boxed w =>
    obtain ⟨told, htold, hdone⟩ := s.releaseOne_boxed w
    have hquiet : told.filter (·.isOfRelay) = [] := by
      rw [List.filter_eq_nil_iff]
      intro n hn
      obtain ⟨name, rfl⟩ := htold n hn
      exact Bool.false_ne_true
    rw [hdone]
    simp [relayLog, hquiet]
  | callable c => rfl
  | closure c =>
    simp only [releaseOne]
    split <;> rfl
  | callback c =>
    simp only [releaseOne]
    split <;> rfl
  | bridge r =>
    simp only [releaseOne]
    split
    · unfold releaseBridge
      dsimp only
      rw [relayLog_modifyBridge]
      · exact s.relayLog_dropBridges r.number
      · exact fun _ => rfl
    · exact s.relayLog_dropBridges r.number

@[simp] theorem relayLog_release (ts : List Release) : (s.release ts).relayLog = s.relayLog :=
  release_keeps (P := fun _ t => t.relayLog = s.relayLog)
    (fun first _ t h => (t.relayLog_releaseOne first).trans h) ts s rfl

end System

/-! ## Courses -/

/-- What a bridge uses and keeps aside: its registry, its error slot, its home,
the types it gave a warning about, and its configuration. -/
def Bridge.setup (b : Bridge) : RegistryId × Option Fault × Nat × List TypeId × BridgeConfig :=
  (b.registry, b.errorSlot, b.home, b.warned, b.config)

/-- A change that only moves holders of shared things about. -/
structure Quiet (s t : World τ) : Prop where
  heap : t.heap = s.heap
  registries : t.registries = s.registries
  log : t.relayLog = s.relayLog
  setup : ∀ n, (t.bridges.get? n).map Bridge.setup = (s.bridges.get? n).map Bridge.setup
  fallbacks : t.fallbacks = s.fallbacks
  place : t.place = s.place
  guest : t.guest = s.guest

/-- A relation that can be put one after another, and that such changes, the
reports of fallbacks and the operations of the heap belong to. -/
structure IsCourse (R : World τ → World τ → Prop) : Prop where
  quiet : ∀ {s t}, Quiet s t → R s t
  fallback : ∀ (s : World τ) (r : RuntimeId) (type : TypeId) (package : String),
    R s (s.noteFallback r type package)
  heap : ∀ {s : World τ} {es heap}, s.heap.Step es heap → R s { s with heap }
  trans : ∀ {s t u}, R s t → R t u → R s u

namespace Quiet

variable {s t u : World τ}

theorem refl (s : World τ) : Quiet s s := ⟨rfl, rfl, rfl, fun _ => rfl, rfl, rfl, rfl⟩

/-- Neither the heap nor registries, relays, bridges, reports and the place have
changed. -/
theorem of_eq (hheap : t.heap = s.heap) (hregistries : t.registries = s.registries)
    (hrelays : t.relays = s.relays) (hbridges : t.bridges = s.bridges)
    (hnotices : t.notices = s.notices) (hplace : t.place = s.place)
    (hguest : t.guest = s.guest) : Quiet s t where
  heap := hheap
  registries := hregistries
  log := by
    unfold System.relayLog
    rw [hrelays, hbridges, hnotices]
  setup n := by rw [hbridges]
  fallbacks := by
    unfold System.fallbacks
    rw [hnotices]
  place := hplace
  guest := hguest

theorem trans (h : Quiet s t) (h' : Quiet t u) : Quiet s u where
  heap := h'.heap.trans h.heap
  registries := h'.registries.trans h.registries
  log := h'.log.trans h.log
  setup n := (h'.setup n).trans (h.setup n)
  fallbacks := h'.fallbacks.trans h.fallbacks
  place := h'.place.trans h.place
  guest := h'.guest.trans h.guest

theorem modifyBridge (s : World τ) (r : RuntimeId) {f : Bridge → Bridge}
    (hrelay : ∀ b, (f b).relay = b.relay) (hsetup : ∀ b, (f b).setup = b.setup) :
    Quiet s (s.modifyBridge r f) where
  heap := rfl
  registries := rfl
  log := s.relayLog_modifyBridge r hrelay
  setup n := by
    unfold System.modifyBridge
    rw [SharedTable.get?_modify]
    split
    · rw [Option.map_map]
      congr 1
      funext b
      exact hsetup b
    · rfl
  fallbacks := rfl
  place := rfl
  guest := rfl

/-- Wrappers change together with the arena of their bridge. -/
theorem changeArena (s : World τ) (wrappers : SharedTable WrapperRecord) (r : RuntimeId)
    (f : Arena → Arena) :
    Quiet s ({ s with wrappers }.modifyBridge r fun b => { b with arena := f b.arena }) := by
  have hwrappers : Quiet s { s with wrappers } := .of_eq rfl rfl rfl rfl rfl rfl rfl
  exact hwrappers.trans (modifyBridge _ r (fun _ => rfl) fun _ => rfl)

theorem note (s : World τ) {n : Notice} (hrelay : n.isOfRelay = false)
    (hfallback : n.isFallback = false) : Quiet s (s.note n) where
  heap := rfl
  registries := rfl
  log := s.relayLog_note hrelay
  setup _ := rfl
  fallbacks := s.fallbacks_note hfallback
  place := rfl
  guest := rfl

theorem holdBridge (s : World τ) (r : RuntimeId) : Quiet s (s.holdBridge r) where
  heap := rfl
  registries := rfl
  log := s.relayLog_holdBridges r.number
  setup n := by simp [System.holdBridge]
  fallbacks := rfl
  place := rfl
  guest := rfl

theorem dropBridge (s : World τ) (r : RuntimeId) :
    Quiet s { s with bridges := s.bridges.drop r.number } where
  heap := rfl
  registries := rfl
  log := s.relayLog_dropBridges r.number
  setup n := by simp
  fallbacks := rfl
  place := rfl
  guest := rfl

theorem holdHandle (s : World τ) (h : Handle) : Quiet s (s.holdHandle h) := by
  cases h <;> exact .of_eq rfl rfl rfl rfl rfl rfl rfl

/-- The callable and the data of a closure or a callback get a holder. -/
theorem holdParts (s : World τ) (callable : Callable) (data : Option Handle) :
    Quiet s ((s.holdCallable callable).holdData data) := by
  have hcallable : Quiet s (s.holdCallable callable) := .of_eq rfl rfl rfl rfl rfl rfl rfl
  cases data with
  | none => exact hcallable
  | some h => exact hcallable.trans (holdHandle _ h)

theorem keep (s : World τ) (t : Release) : Quiet s (s.keep t) := by
  cases t with
  | bridge r => exact holdBridge s r
  | _ => exact .of_eq rfl rfl rfl rfl rfl rfl rfl

end Quiet

theorem IsCourse.refl {R : World τ → World τ → Prop} (hR : IsCourse R) (s : World τ) : R s s :=
  hR.quiet (.refl s)

/-- An action that goes a course, wherever it starts. -/
def Follows (R : World τ → World τ → Prop) (a : Action (Outside τ) α) : Prop :=
  ∀ s, R s (a.run s).2

/-- An attempt that goes a course, however it ends. -/
def Attempts (R : World τ → World τ → Prop) (a : Attempt (Outside τ) α) : Prop :=
  Follows R a.run

variable {R : World τ → World τ → Prop}

namespace Follows

variable {a : Action (Outside τ) α} {f : α → Action (Outside τ) β}

theorem pure (hR : IsCourse R) (x : α) : Follows R (Pure.pure x : Action (Outside τ) α) :=
  fun s => hR.refl s

theorem bind (hR : IsCourse R) (ha : Follows R a) (hf : ∀ x, Follows R (f x)) :
    Follows R (a >>= f) := fun s => hR.trans (ha s) (hf _ _)

theorem get {f : World τ → Action (Outside τ) β} (hf : ∀ s, Follows R (f s)) :
    Follows R (MonadState.get >>= f) := fun s => hf s s

theorem change {f : World τ → World τ} (hf : ∀ s, R s (f s)) : Follows R (modify f) := hf

end Follows

namespace Attempts

variable {a : Attempt (Outside τ) α} {f : α → Attempt (Outside τ) β}

theorem pure (hR : IsCourse R) (x : α) : Attempts R (Pure.pure x : Attempt (Outside τ) α) :=
  fun s => hR.refl s

theorem throw (hR : IsCourse R) (e : BridgeError) :
    Attempts R (MonadExcept.throw e : Attempt (Outside τ) α) := fun s => hR.refl s

theorem bind (hR : IsCourse R) (ha : Attempts R a) (hf : ∀ x, Attempts R (f x)) :
    Attempts R (a >>= f) := by
  unfold Attempts
  rw [ExceptT.run_bind]
  apply Follows.bind hR ha
  rintro (e | x)
  · exact fun s => hR.refl s
  · exact hf x

theorem get {f : World τ → Attempt (Outside τ) β} (hf : ∀ s, Attempts R (f s)) :
    Attempts R (MonadState.get >>= f) := fun s => hf s s

theorem change {f : World τ → World τ} (hf : ∀ s, R s (f s)) :
    Attempts R (modify f : Attempt (Outside τ) PUnit) := hf

theorem doing {a : Action (Outside τ) α} (ha : Follows R a) :
    Attempts R (NativeBridge.doing a) := fun s => ha s

theorem outcomeOf (ha : Attempts R a) : Attempts R (NativeBridge.outcomeOf a) := fun s => ha s

theorem endIn (hR : IsCourse R) (outcome : Except BridgeError α) :
    Attempts R (NativeBridge.endIn outcome : Attempt (Outside τ) α) := fun s => hR.refl s

end Attempts

/-! ## What the library does -/

section

variable (hR : IsCourse R)

include hR

/-- An operation on the heap, and nothing if it fails. -/
theorem changeHeap_attempts {f : Heap Subscriber → Except NativeError (α × Heap Subscriber)}
    (hf : ∀ {h x heap}, f h = .ok (x, heap) → ∃ es, h.Step es heap) :
    Attempts R (changeHeap f) := by
  intro s
  cases hs : f s.heap with
  | error e =>
    rw [run_changeHeap_error s hs]
    exact hR.refl s
  | ok result =>
    rw [run_changeHeap_ok s hs]
    obtain ⟨es, hstep⟩ := hf hs
    exact hR.heap hstep

/-! ### Releases -/

theorem releaseReference_course (s : World τ) (o : ObjectId)
    {report : ObjectId → NativeError → Notice} (hrelay : ∀ e, (report o e).isOfRelay = false)
    (hfallback : ∀ e, (report o e).isFallback = false) :
    R s (s.releaseReference o report).2 := by
  unfold System.releaseReference
  split
  · rename_i hdone
    exact hR.heap (.unref hdone)
  · exact hR.quiet (.note s (hrelay _) (hfallback _))

theorem releaseBridge_course (s : World τ) (r : RuntimeId) : R s (s.releaseBridge r).2 :=
  hR.quiet (.changeArena s _ r fun _ => {})

theorem releaseOne_course (s : World τ) (t : Release) : R s (s.releaseOne t).2 := by
  cases t with
  | object o => exact releaseReference_course hR s o (fun _ => rfl) fun _ => rfl
  | defensive o => exact releaseReference_course hR s o (fun _ => rfl) fun _ => rfl
  | wrapper w =>
    simp only [System.releaseOne]
    split <;> exact hR.quiet (.of_eq rfl rfl rfl rfl rfl rfl rfl)
  | boxed w =>
    have hlog := s.relayLog_releaseOne (.boxed w)
    obtain ⟨told, htold, hdone⟩ := s.releaseOne_boxed w
    have hquiet : told.filter (·.isFallback) = [] := by
      rw [List.filter_eq_nil_iff]
      intro n hn
      obtain ⟨name, rfl⟩ := htold n hn
      exact Bool.false_ne_true
    rw [hdone] at hlog ⊢
    exact hR.quiet ⟨rfl, rfl, hlog, fun _ => rfl, by simp [System.fallbacks, hquiet], rfl, rfl⟩
  | callable c => exact hR.quiet (.of_eq rfl rfl rfl rfl rfl rfl rfl)
  | closure c =>
    simp only [System.releaseOne]
    split <;> exact hR.quiet (.of_eq rfl rfl rfl rfl rfl rfl rfl)
  | callback c =>
    simp only [System.releaseOne]
    split <;> exact hR.quiet (.of_eq rfl rfl rfl rfl rfl rfl rfl)
  | bridge r =>
    have hdropped := hR.quiet (.dropBridge s r)
    simp only [System.releaseOne]
    split
    · exact hR.trans hdropped (releaseBridge_course hR _ r)
    · exact hdropped

/-- Everything that follows from a release is of the kinds above. -/
theorem release_course (s : World τ) (ts : List Release) : R s (s.release ts) :=
  System.release_keeps (P := fun _ t => R s t)
    (fun first _ t h => hR.trans h (releaseOne_course hR t first)) ts s (hR.refl s)

theorem release_attempts (ts : List Release) :
    Attempts R (modify (·.release ts) : Attempt (Outside τ) PUnit) :=
  Attempts.change fun s => release_course hR s ts

theorem holdHandle_course (s : World τ) (h : Handle) : R s (s.holdHandle h) :=
  hR.quiet (.holdHandle s h)

theorem keepAll_course (s : World τ) (ts : List Release) : R s (ts.foldl System.keep s) := by
  induction ts generalizing s with
  | nil => exact hR.refl s
  | cons t ts ih => exact hR.trans (hR.quiet (.keep s t)) (ih _)

theorem unrefObject_attempts (o : ObjectId) : Attempts R (unrefObject (σ := Outside τ) o) :=
  (changeHeap_attempts hR fun hdone => ⟨_, .unref hdone⟩).bind hR fun _ => release_attempts hR _

theorem converting_attempts (result : Except ConversionError α) :
    Attempts R (converting result : Attempt (Outside τ) α) := by
  cases result <;> exact fun s => hR.refl s

theorem atSite_attempts (site : MarshalSite) {a : Attempt (Outside τ) α} (ha : Attempts R a) :
    Attempts R (atSite site a) := by
  apply ha.outcomeOf.bind hR
  rintro (e | x)
  · exact Attempts.throw hR _
  · exact Attempts.pure hR x

theorem releasingAfter_attempts (ts : List Release) {a : Attempt (Outside τ) α}
    (ha : Attempts R a) : Attempts R (releasingAfter ts a) :=
  ha.outcomeOf.bind hR fun outcome =>
    (release_attempts hR ts).bind hR fun _ => Attempts.endIn hR outcome

theorem holdingBridge_attempts (r : RuntimeId) {a : Attempt (Outside τ) α} (ha : Attempts R a) :
    Attempts R (holdingBridge r a) := by
  refine Attempts.bind hR (Attempts.change fun s => ?_) fun _ => releasingAfter_attempts hR _ ha
  exact hR.quiet (.holdBridge s r)

theorem checkContext_attempts (r : RuntimeId) : Attempts R (checkContext (σ := Outside τ) r) := by
  apply Attempts.get
  intro s
  split
  · exact Attempts.pure hR _
  · exact Attempts.throw hR _

/-! ### Wraps -/

theorem liveWrapper_course (s : World τ) (r : RuntimeId) (o : ObjectId) :
    R s (s.liveWrapper r o).2 := by
  unfold System.liveWrapper
  split
  · exact hR.refl s
  · split
    · exact hR.refl s
    · exact hR.quiet (.modifyBridge s r (fun _ => rfl) fun _ => rfl)

theorem addWrapper_course (s : World τ) (r : RuntimeId) (o : ObjectId) (type : TypeId)
    (package : String) (own : Ownership) : R s (s.addWrapper r o type package own).2 :=
  hR.quiet (.changeArena s _ r fun arena => arena.insert _)

theorem acquireWrapper_attempts (r : RuntimeId) (o : ObjectId) (own : Ownership) :
    Attempts R (acquireWrapper (σ := Outside τ) r o own) := by
  intro s
  have hlive := liveWrapper_course hR s r o
  have hcase := wrapCase s r o own
  generalize (acquireWrapper r o own).run.run s = done at hcase ⊢
  cases hcase with
  | stale htype => exact hR.refl s
  | @known type w htype hl => exact holdHandle_course hR s (.object w)
  | refused htype hl he =>
    rw [hl] at hlive
    exact hlive
  | @new type s₁ t exposure heap w htype hl he htaken hadded =>
    have hheap := (s.liveWrapper_frame r o).2.1
    rw [hl] at hlive hheap
    rw [← hheap, ← (s₁.noteExposure_frame r type exposure).2.1] at htaken
    have hnoted : R s (s₁.noteExposure r type exposure) := by
      cases exposure with
      | own package => exact hlive
      | inherited package => exact hR.trans hlive (hR.fallback s₁ r type package)
    have hready : R s { s₁.noteExposure r type exposure with heap } := by
      rcases htaken with ⟨-, rfl⟩ | ⟨-, href⟩
      · exact hnoted
      · exact hR.trans hnoted (hR.heap (.ref href))
    obtain rfl : (System.addWrapper _ r o type exposure.package own).2 = t :=
      congrArg Prod.snd hadded
    exact hR.trans hready (addWrapper_course hR _ r o type exposure.package own)

theorem wrapBorrowed_attempts (r : RuntimeId) (o : ObjectId) :
    Attempts R (wrapBorrowed (σ := Outside τ) r o) :=
  (acquireWrapper_attempts hR r o .borrowed).bind hR fun found =>
    Attempts.pure hR (Handle.object found.1)

theorem unwrapObject_attempts (r : RuntimeId) (h : Handle) (expected : TypeId) :
    Attempts R (unwrapObject (σ := Outside τ) r h expected) := by
  apply Attempts.get
  intro s
  split
  · exact Attempts.throw hR _
  · split
    · exact Attempts.throw hR _
    · split
      · exact Attempts.pure hR _
      · exact Attempts.throw hR _

/-! ### Boxed structures -/

theorem announce_attempts (strategy : BoxedStrategy) (use : BoxedUse) (block : Block) :
    Attempts R (modify (·.announce strategy use block) : Attempt (Outside τ) PUnit) := by
  apply Attempts.change
  intro s
  unfold System.announce
  split
  · exact hR.quiet (.note s rfl rfl)
  · exact hR.refl s

theorem wrapBoxed_attempts (r : RuntimeId) (block : Block) (type : TypeId) (owned : Bool) :
    Attempts R (wrapBoxed (σ := Outside τ) r block type owned) := by
  apply Attempts.get
  intro s₀
  apply (converting_attempts hR _).bind hR
  rintro ⟨info, strategy⟩
  apply (announce_attempts hR strategy .wrap block).bind hR
  intro _
  apply (converting_attempts hR (strategy.wrap block)).bind hR
  intro held s
  exact hR.quiet (.of_eq rfl rfl rfl rfl rfl rfl rfl)

theorem wrapBoxedCopy_attempts (r : RuntimeId) (block : Block) (type : TypeId) :
    Attempts R (wrapBoxedCopy (σ := Outside τ) r block type) := by
  apply Attempts.get
  intro s₀
  apply (converting_attempts hR _).bind hR
  rintro ⟨_, strategy⟩
  apply (announce_attempts hR strategy .copy block).bind hR
  intro _
  exact wrapBoxed_attempts hR r (strategy.copy block) type true

theorem unwrapBoxed_attempts (r : RuntimeId) (h : Handle) (type : TypeId) :
    Attempts R (unwrapBoxed (σ := Outside τ) r h type) := by
  apply Attempts.get
  intro s₀
  apply (converting_attempts hR _).bind hR
  rintro ⟨info, strategy⟩
  cases h.boxed? with
  | none => exact Attempts.throw hR _
  | some w =>
    dsimp only
    split
    · exact (announce_attempts hR strategy .unwrap w.block).bind hR fun _ =>
        converting_attempts hR _
    · exact Attempts.throw hR _

/-! ### Typed values -/

theorem toHandle_attempts (r : RuntimeId) (v : TypedValue) :
    Attempts R (toHandle (σ := Outside τ) r v) := by
  intro s
  obtain ⟨a, hcase, hrun⟩ := toHandleCase s r v
  have hattempts : Attempts R a := by
    generalize (s.registryOf r).resolve v.type = found at hcase
    cases hcase with
    | unknown => exact Attempts.throw hR _
    | unregistered o => exact wrapBorrowed_attempts hR r o
    | null => exact Attempts.pure hR _
    | object o => exact wrapBorrowed_attempts hR r o
    | boxed block => exact wrapBoxed_attempts hR r block v.type false
    | variant => exact Attempts.pure hR _
    | scalar => exact converting_attempts hR _
  rw [hrun]
  exact hattempts s

theorem fromHandle_attempts (r : RuntimeId) (h : Handle) (expected : TypeId) :
    Attempts R (fromHandle (σ := Outside τ) r h expected) := by
  intro s
  obtain ⟨a, hcase, hrun⟩ := fromHandleCase s r h expected
  have hattempts : Attempts R a := by
    generalize (s.registryOf r).resolve expected = found at hcase
    cases hcase with
    | unknown => exact Attempts.throw hR _
    | mismatch => exact Attempts.throw hR _
    | null => exact Attempts.pure hR _
    | object =>
      exact (unwrapObject_attempts hR r h expected).bind hR fun _ => Attempts.pure hR _
    | boxed =>
      exact (unwrapBoxed_attempts hR r h expected).bind hR fun _ => Attempts.pure hR _
    | variant => exact Attempts.pure hR _
    | scalar => exact (converting_attempts hR _).bind hR fun _ => Attempts.pure hR _
  rw [hrun]
  exact hattempts s

/-- Arguments are converted one by one. -/
theorem marshalFrom_attempts {convert : Nat → TypedValue → Attempt (Outside τ) Handle}
    (hconvert : ∀ i v, Attempts R (convert i v)) (index : Nat) (done : List Handle)
    (values : List TypedValue) : Attempts R (marshalFrom convert index done values) := by
  induction values generalizing index done with
  | nil => exact Attempts.pure hR done
  | cons v rest ih =>
    apply (hconvert index v).outcomeOf.bind hR
    rintro (e | h)
    · exact (release_attempts hR _).bind hR fun _ => Attempts.throw hR e
    · exact ih (index + 1) (done ++ [h])

/-! ### Closures and signals -/

theorem addClosure_course (s : World τ) (r : RuntimeId) (callable : Callable) (data : Option Handle)
    (swap : Bool) (marshaller : Option Marshaller) (origin : Option String) :
    R s (s.addClosure r callable data swap marshaller origin).2 :=
  hR.quiet ((Quiet.holdParts s callable data).trans (.of_eq rfl rfl rfl rfl rfl rfl rfl))

theorem addCallback_course (s : World τ) (r : RuntimeId) (callable : Callable)
    (data : Option Handle) (paramTypes : List TypeId) (returnType : Option TypeId) :
    R s (s.addCallback r callable data paramTypes returnType).2 :=
  hR.quiet ((Quiet.holdParts s callable data).trans (.of_eq rfl rfl rfl rfl rfl rfl rfl))

theorem takeData_follows (x : Closure) : Follows R (x.takeData (σ := Outside τ)) := fun s =>
  holdHandle_course hR s (x.data.getD .undefined)

theorem connectSignal_attempts (r : RuntimeId) (handle : Handle) (signal : String)
    (callable : Callable) (data : Option Handle) (after swapped : Bool) :
    Attempts R (connectSignal (σ := Outside τ) r handle signal callable data after swapped) := by
  intro s
  rcases run_connectSignal_cases s r handle signal callable data after swapped with
    ⟨e, hrun⟩ | ⟨w, type, -, -, hcases⟩
  · rw [hrun]
    exact hR.refl s
  · have hmade : R s (s.closureFor r signal callable data swapped w type).2 :=
      addClosure_course hR s r callable data swapped _ _
    rcases hcases with ⟨e, -, hrun⟩ | ⟨id, heap, hc, hrun⟩ <;> rw [hrun]
    · exact hR.trans hmade (release_course hR _ _)
    · exact hR.trans hmade (hR.heap (.connect hc))

theorem disconnectHandler_attempts (o : ObjectId) (id : HandlerId) :
    Attempts R (disconnectHandler (σ := Outside τ) o id) :=
  (changeHeap_attempts hR fun hdone => ⟨_, .disconnect hdone⟩).bind hR fun _ =>
    release_attempts hR _

theorem disconnectSignal_attempts (handle : Handle) (id : HandlerId) :
    Attempts R (disconnectSignal (σ := Outside τ) handle id) := by
  rcases disconnectSignal_cases (σ := Outside τ) handle id with ⟨e, heq⟩ | ⟨o, heq⟩ <;> rw [heq]
  · exact Attempts.throw hR e
  · exact disconnectHandler_attempts hR o id

theorem sweep_follows (r : RuntimeId) : Follows R (sweep (σ := Outside τ) r) := by
  intro s
  rw [run_sweep]
  refine hR.trans ?_ (release_course hR (s.dropSwept r) _)
  exact hR.quiet (.modifyBridge s r (fun _ => rfl) fun _ => rfl)

end

end NativeBridge
