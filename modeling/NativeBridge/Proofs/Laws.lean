-- Laws of the heap, the registries and the emissions. A law relates a state to
-- the later ones, and to the moments that outside code looks at meanwhile.
-- What every elementary change obeys holds for every run, however deep the
-- calls in it are.
import NativeBridge.Proofs.Drains

namespace NativeBridge

variable {τ : Type}

/-! ## Drains along a course -/

section

variable {R : World τ → World τ → Prop} {g : Guest (Outside τ)} (hR : IsCourse R)
  (hrelay : ∀ s id f, R s (s.modifyRelay id f))
  (hnote : ∀ (s : World τ) n, n.isFallback = false → R s (s.note n))

include hR hrelay hnote

theorem showFault_follows (hg : g.Follows R) (id : RelayId) (c : CapturedFault)
    (h : InstalledHandler) : Follows R (showFault g id c h) := by
  apply (Follows.change fun s => hrelay s id _).bind hR
  intro _
  apply (hg.takeFault h.function c).bind hR
  intro answer
  apply (Follows.change fun s => hrelay s id _).bind hR
  intro _
  split
  · exact Follows.pure hR []
  · exact (Follows.change fun s => hrelay s id _).bind hR fun _ => Follows.pure hR []
  · exact (Follows.change fun s => hnote s _ rfl).bind hR fun _ => Follows.pure hR _

theorem showToAll_follows (hg : g.Follows R) (id : RelayId) (c : CapturedFault) (done : Delivery)
    (handlers : List InstalledHandler) : Follows R (showToAll g id c done handlers) := by
  induction handlers generalizing done with
  | nil => exact Follows.pure hR done
  | cons h rest ih =>
    unfold showToAll
    apply Follows.get
    intro s₀
    split
    · exact ih done
    · exact (showFault_follows hR hrelay hnote hg id c h).bind hR fun failures => ih _

theorem runPending_follows (hexhaust : ∀ s : World τ, R s s.exhaust) (hg : g.Follows R)
    (id : RelayId) : Attempts R (runPending g id) := by
  have hdrain : ∀ most drained failures, Follows R (drainFaults g id most drained failures) := by
    intro most
    induction most with
    | zero =>
      intro drained failures
      exact (Follows.change hexhaust).bind hR fun _ => Follows.pure hR _
    | succ most ih =>
      intro drained failures
      unfold drainFaults
      apply Follows.get
      intro s₀
      split
      · exact Follows.pure hR _
      · rename_i c relay _
        apply (Follows.change fun s => hrelay s id _).bind hR
        intro _
        apply (showToAll_follows hR hrelay hnote hg id c _ relay.handlers).bind hR
        intro delivery
        split
        · exact ih _ _
        · exact (Follows.change fun s => hnote s _ rfl).bind hR fun _ => ih _ _
  apply (Attempts.doing (hdrain g.patience 0 [])).bind hR
  rintro ⟨drained, failures⟩
  dsimp only
  split
  · exact Attempts.pure hR drained
  · exact Attempts.throw hR _

end

/-! ## Laws -/

/-- A moment with another ledger. -/
def System.withLedger (m : System Ledger) (f : Ledger → Ledger) : System Ledger :=
  { m with guest := f m.guest }

theorem World.moment_changeLedger (s : World τ) (f : Ledger → Ledger) :
    (s.changeLedger f).moment = s.moment.withLedger f := rfl

/-- A moment that differs from another only in what the laws here are not
about. -/
structure Still (a b : System Ledger) : Prop where
  heap : b.heap = a.heap
  registries : b.registries = a.registries
  known : ∀ n, (a.bridges.get? n).isSome → (b.bridges.get? n).isSome
  emitting : b.guest.emitting = a.guest.emitting

/-- A law: how a later state is related to an earlier one, and how a moment in
between is to both. -/
structure IsLaw (E : System Ledger → System Ledger → Prop)
    (Q : System Ledger → System Ledger → System Ledger → Prop) : Prop where
  still : ∀ {a b}, Still a b → E a b
  heap : ∀ {a es heap}, Heap.Step a.heap es heap → E a { a with heap }
  newRegistry : ∀ a fundamentals, E a ((Arrangement.newRegistry fundamentals).apply a)
  changeRegistry : ∀ a id change, E a ((Arrangement.changeRegistry id change).apply a)
  emission : ∀ {a b o}, E (a.withLedger (·.startEmission o)) b →
    E a (b.withLedger (·.endEmission))
  trans : ∀ {a b c}, E a b → E b c → E a c
  seen : ∀ a, Q a a a
  after : ∀ {a b m c}, E a b → Q b m c → Q a m c
  before : ∀ {a m b c}, Q a m b → E b c → Q a m c
  during : ∀ {a m b o}, Q (a.withLedger (·.startEmission o)) m b →
    Q a m (b.withLedger (·.endEmission))

variable {E : System Ledger → System Ledger → Prop}
  {Q : System Ledger → System Ledger → System Ledger → Prop}

/-- What has come of a state. -/
structure Since (E : System Ledger → System Ledger → Prop)
    (Q : System Ledger → System Ledger → System Ledger → Prop) (s t : World τ) : Prop where
  now : E s.moment t.moment
  diary : ∃ new, t.guest.diary = new ++ s.guest.diary ∧ ∀ m ∈ new, Q s.moment m t.moment

namespace Since

variable {s t u : World τ}

/-- A change after which nothing was looked at. -/
theorem of_now (h : E s.moment t.moment) (hdiary : t.guest.diary = s.guest.diary) :
    Since E Q s t := ⟨h, [], hdiary, fun _ hm => absurd hm List.not_mem_nil⟩

theorem of_still (hlaw : IsLaw E Q) (h : Still s.moment t.moment)
    (hdiary : t.guest.diary = s.guest.diary) : Since E Q s t := of_now (hlaw.still h) hdiary

theorem trans (hlaw : IsLaw E Q) (h : Since E Q s t) (h' : Since E Q t u) : Since E Q s u := by
  obtain ⟨new, hnew, hseen⟩ := h.diary
  obtain ⟨new', hnew', hseen'⟩ := h'.diary
  refine ⟨hlaw.trans h.now h'.now, new' ++ new, ?_, ?_⟩
  · rw [hnew', hnew, List.append_assoc]
  · intro m hm
    rcases List.mem_append.mp hm with hm | hm
    · exact hlaw.after h.now (hseen' m hm)
    · exact hlaw.before (hseen m hm) h'.now

/-- What happens in an emission happens before it ends. -/
theorem emission (hlaw : IsLaw E Q) {o : ObjectId}
    (h : Since E Q (World.changeLedger (·.startEmission o) s) t) :
    Since E Q s (World.changeLedger (·.endEmission) t) := by
  obtain ⟨hnow, new, hnew, hseen⟩ := h
  rw [World.moment_changeLedger] at hnow hseen
  exact ⟨hlaw.emission hnow, new, hnew, fun m hm => hlaw.during (hseen m hm)⟩

end Since

theorem known_modifyBridge {σ : Type} (s : System σ) (r : RuntimeId) (f : Bridge → Bridge)
    (n : Nat) (h : (s.bridges.get? n).isSome) : ((s.modifyBridge r f).bridges.get? n).isSome := by
  unfold System.modifyBridge
  rw [SharedTable.get?_modify]
  split
  · rwa [Option.isSome_map]
  · exact h

theorem known_of_setup {s t : World τ}
    (h : ∀ n, (t.bridges.get? n).map Bridge.setup = (s.bridges.get? n).map Bridge.setup) (n : Nat)
    (hs : (s.bridges.get? n).isSome) : (t.bridges.get? n).isSome := by
  rw [← Option.isSome_map (f := Bridge.setup), h n, Option.isSome_map]
  exact hs

theorem IsLaw.isCourse (hlaw : IsLaw E Q) : IsCourse (Since (τ := τ) E Q) where
  quiet h := by
    refine .of_still hlaw ⟨h.heap, h.registries, known_of_setup h.setup, ?_⟩ (by rw [h.guest])
    exact congrArg (fun guest => guest.ledger.emitting) h.guest
  fallback s r type package := by
    obtain ⟨hheap, hregistries, -, hguest⟩ := s.frame_noteFallback r type package
    refine .of_still hlaw ⟨hheap, hregistries, ?_, ?_⟩ (by rw [hguest])
    · intro n hn
      have hknown := s.get?_noteFallback (f := fun _ => ()) (fun _ _ => rfl) r type package n
      have hsome := congrArg Option.isSome hknown
      rw [Option.isSome_map, Option.isSome_map] at hsome
      exact hsome.trans hn
    · exact congrArg (fun guest => guest.ledger.emitting) hguest
  heap hstep := .of_now (hlaw.heap hstep) rfl
  trans := Since.trans hlaw

/-- What obeys a law goes every voyage. -/
theorem IsLaw.isVoyage (hlaw : IsLaw E Q) : IsVoyage (Since (τ := τ) E Q) where
  course := hlaw.isCourse
  slot s r fault := by
    refine .of_still hlaw ⟨rfl, rfl, ?_, rfl⟩ rfl
    exact known_modifyBridge s r fun b => { b with errorSlot := fault }
  capture id fault origin r s := by
    refine .of_still hlaw ?_ (congrArg (·.diary) (guest_captureFault s id fault origin r))
    rw [run_captureFault]
    cases ((s.relay id).capture fault origin r).2.1 <;> exact ⟨rfl, rfl, fun _ h => h, rfl⟩
  newRelay s maxPending := .of_still hlaw ⟨rfl, rfl, fun _ h => h, rfl⟩ rfl
  install s id function := .of_still hlaw ⟨rfl, rfl, fun _ h => h, rfl⟩ rfl
  uninstall s id handler := .of_still hlaw ⟨rfl, rfl, fun _ h => h, rfl⟩ rfl
  newBridge s bridge := by
    refine .of_still hlaw ⟨rfl, rfl, ?_, rfl⟩ rfl
    intro n hn
    change ((s.bridges.add bridge).get? n).isSome
    rw [SharedTable.get?_add]
    split
    · rfl
    · exact hn
  newRegistry s fundamentals := .of_now (hlaw.newRegistry s.moment fundamentals) rfl
  changeRegistry s id change := by
    have hchanged := hlaw.changeRegistry s.moment id change
    have hsame : s.moment.registry id = s.registry id := rfl
    unfold Arrangement.apply at hchanged ⊢
    dsimp only at hchanged ⊢
    rw [hsame] at hchanged
    cases hdone : change.apply (s.registry id) with
    | ok registry =>
      rw [hdone] at hchanged
      exact .of_now hchanged rfl
    | error e =>
      rw [hdone] at hchanged
      exact .of_now hchanged rfl
  ledger s f hf := .of_still hlaw ⟨rfl, rfl, fun _ h => h, hf _⟩ rfl
  travel s thread entered := .of_still hlaw ⟨rfl, rfl, fun _ h => h, rfl⟩ rfl
  emission := Since.emission hlaw
  remember s memory := .of_still hlaw ⟨rfl, rfl, fun _ h => h, rfl⟩ rfl
  look s := by
    refine ⟨hlaw.still ⟨rfl, rfl, fun _ h => h, rfl⟩, [s.moment], rfl, ?_⟩
    intro m hm
    rw [List.mem_singleton.mp hm]
    exact hlaw.seen s.moment

theorem IsLaw.runPending_attempts (hlaw : IsLaw E Q) {g : Guest (Outside τ)}
    (hg : g.Follows (Since E Q)) (id : RelayId) : Attempts (Since E Q) (runPending g id) := by
  apply runPending_follows hlaw.isCourse _ _ _ hg id
  · exact fun s id f => .of_still hlaw ⟨rfl, rfl, fun _ h => h, rfl⟩ rfl
  · exact fun s n _ => .of_still hlaw ⟨rfl, rfl, fun _ h => h, rfl⟩ rfl
  · exact fun s => .of_still hlaw ⟨rfl, rfl, fun _ h => h, rfl⟩ rfl

/-- Two laws at once. -/
theorem IsLaw.and {E' : System Ledger → System Ledger → Prop}
    {Q' : System Ledger → System Ledger → System Ledger → Prop} (hlaw : IsLaw E Q)
    (hlaw' : IsLaw E' Q') :
    IsLaw (fun a b => E a b ∧ E' a b) fun a m b => Q a m b ∧ Q' a m b where
  still h := ⟨hlaw.still h, hlaw'.still h⟩
  heap h := ⟨hlaw.heap h, hlaw'.heap h⟩
  newRegistry a fundamentals := ⟨hlaw.newRegistry a fundamentals, hlaw'.newRegistry a fundamentals⟩
  changeRegistry a id change := ⟨hlaw.changeRegistry a id change, hlaw'.changeRegistry a id change⟩
  emission h := ⟨hlaw.emission h.1, hlaw'.emission h.2⟩
  trans h h' := ⟨hlaw.trans h.1 h'.1, hlaw'.trans h.2 h'.2⟩
  seen a := ⟨hlaw.seen a, hlaw'.seen a⟩
  after h h' := ⟨hlaw.after h.1 h'.1, hlaw'.after h.2 h'.2⟩
  before h h' := ⟨hlaw.before h.1 h'.1, hlaw'.before h.2 h'.2⟩
  during h := ⟨hlaw.during h.1, hlaw'.during h.2⟩

/-! ## Runs -/

/-- Every run obeys a law. -/
theorem Moves.since (hlaw : IsLaw E Q) {c : Conduct} {s t : World τ} (h : Moves c s t) :
    Since E Q s t := h.follows hlaw.isVoyage fun _ hg id => hlaw.runPending_attempts hg id

/-- All code that the library calls obeys a law. -/
theorem Guest.IsOutside.since (hlaw : IsLaw E Q) {c : Conduct} {g : Guest (Outside τ)}
    (hg : g.IsOutside c) : g.Follows (Since E Q) :=
  hg.follows hlaw.isVoyage fun _ hg id => hlaw.runPending_attempts hg id

/-- Every moment that outside code can come to stands between the beginning and
some later one. -/
theorem Reachable.since (hlaw : IsLaw E Q) {c : Conduct} {m : System Ledger} (h : Reachable c m) :
    ∃ b, Q (World.start ()).moment m b := by
  obtain ⟨τ, memory, t, hmoves, hm⟩ := h
  obtain ⟨new, hnew, hseen⟩ := (hmoves.since hlaw).diary
  have hdiary : t.guest.diary = new ++ [] := hnew
  rw [hdiary, List.append_nil] at hm
  exact ⟨t.moment, hseen m hm⟩

/-! ## What bridges are made with -/

/-- What a bridge is made with: its registry, its home and its configuration. -/
def Bridge.charter (b : Bridge) : RegistryId × Nat × BridgeConfig := (b.registry, b.home, b.config)

/-- A bridge that was made goes on with what it was made with. -/
def KeepsCharters (s t : World τ) : Prop := ∀ n, (s.bridges.get? n).isSome →
  (t.bridges.get? n).map Bridge.charter = (s.bridges.get? n).map Bridge.charter

theorem KeepsCharters.bridge_eq {s t : World τ} (h : KeepsCharters s t) {r : RuntimeId}
    (hr : (s.bridges.get? r.number).isSome) : (t.bridge r).charter = (s.bridge r).charter := by
  rw [t.map_bridge Bridge.charter, s.map_bridge Bridge.charter, h r.number hr]

theorem keepsCharters_isVoyage : IsVoyage (KeepsCharters (τ := τ)) where
  course := {
    quiet h n _ := by
      have hsetup := congrArg (Option.map fun setup => (setup.1, setup.2.2.1, setup.2.2.2.2))
        (h.setup n)
      rwa [Option.map_map, Option.map_map] at hsetup
    fallback s r type package n _ := s.get?_noteFallback (fun _ _ => rfl) r type package n
    heap _ _ _ := rfl
    trans h h' n hn := by
      have hmid := h n hn
      rw [← Option.isSome_map, ← hmid, Option.isSome_map] at hn
      exact (h' n hn).trans hmid }
  slot s r fault n _ := by
    unfold System.setErrorSlot System.modifyBridge
    dsimp only
    rw [SharedTable.get?_modify]
    split
    · rw [Option.map_map]
      rfl
    · rfl
  capture id fault origin r s n _ := by
    rw [run_captureFault]
    cases ((s.relay id).capture fault origin r).2.1 <;> rfl
  newRelay _ _ _ _ := rfl
  install _ _ _ _ _ := rfl
  uninstall _ _ _ _ _ := rfl
  newBridge s bridge n hn := by
    obtain ⟨b, hb⟩ := Option.isSome_iff_exists.mp hn
    dsimp only
    rw [SharedTable.get?_add, if_neg (Nat.ne_of_lt (SharedTable.lt_size_of_get? hb))]
  newRegistry _ _ _ _ := rfl
  changeRegistry s id change n _ := by
    unfold Arrangement.apply
    dsimp only
    split <;> rfl
  ledger _ _ _ _ _ := rfl
  travel _ _ _ _ _ := rfl
  emission h := h
  remember _ _ _ _ := rfl
  look _ _ _ := rfl

theorem runPending_keepsCharters {g : Guest (Outside τ)} (hg : g.Follows KeepsCharters)
    (id : RelayId) : Attempts KeepsCharters (runPending g id) :=
  runPending_follows keepsCharters_isVoyage.course (fun _ _ _ _ _ => rfl) (fun _ _ _ _ _ => rfl)
    (fun _ _ _ => rfl) hg id

theorem Moves.charter {c : Conduct} {s t : World τ} (h : Moves c s t) : KeepsCharters s t :=
  h.follows keepsCharters_isVoyage fun _ hg id => runPending_keepsCharters hg id

theorem Guest.IsOutside.keepsCharters {c : Conduct} {g : Guest (Outside τ)} (hg : g.IsOutside c) :
    g.Follows KeepsCharters :=
  hg.follows keepsCharters_isVoyage fun _ hg id => runPending_keepsCharters hg id

end NativeBridge
