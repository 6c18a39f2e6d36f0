-- Sweeps and drains as trades. A sweep gives up what the arena alone keeps,
-- and so it needs its bridge; a drain runs relay handlers, and what it moves
-- about itself is not counted.
import NativeBridge.Proofs.Invocations

namespace NativeBridge

variable {τ : Type} {c : Conduct} {H : Multiset Release → World τ → Prop}

/-! ## Sweeps -/

section

variable {σ : Type} (s : System σ) (r : RuntimeId)

/-- A borrowed wrapper that only its arena keeps. -/
def System.isIdle (w : ObjectWrapper) : Bool :=
  w.ownership == .borrowed && s.wrappers.holders w.number == 1

/-- An entry that a sweep takes away. -/
def System.isSwept (w : ObjectWrapper) : Bool := s.isIdle w || !s.isLive w

/-- The state when a sweep has dropped entries, and has released nothing
yet. -/
def System.dropSwept : System σ :=
  s.modifyBridge r fun b => { b with arena := b.arena.eraseAll s.isSwept }

theorem run_sweep :
    (sweep r).run s =
      let idle := (s.bridge r).arena.wrappers.filter s.isIdle
      (idle.length, (s.dropSwept r).release (idle.flatMap idleReleases)) := rfl

theorem books_dropSwept :
    (s.dropSwept r).books = s.books.eraseEntries r s.isSwept :=
  s.books_modifyBridge r fun _ => rfl

/-- The swept entries of borrowed wrappers are the idle ones. -/
theorem filter_isSwept (a : Arena) :
    a.borrowed.filter s.isSwept = a.wrappers.filter s.isIdle := by
  unfold Arena.borrowed
  rw [List.filter_filter]
  apply List.filter_congr
  intro w _
  unfold System.isSwept System.isIdle System.isLive
  cases w.ownership with
  | owned => exact Bool.and_false _
  | borrowed => simp

/-- Nobody but the arena holds a wrapper that is swept. -/
theorem holders_of_isSwept {w : ObjectWrapper} (h : s.isSwept w = true) :
    s.wrappers.holders w.number = if w.ownership = .borrowed then 1 else 0 := by
  unfold System.isSwept System.isIdle System.isLive at h
  cases hw : w.ownership <;> simpa [hw] using h

end

theorem sweep_balanced {σ : Type} {s : System σ} {H : Multiset Release} {r : RuntimeId}
    (h : Balanced c 0 H s.books) (hr : s.books.arenas.holders r.number ≠ 0) :
    Balanced c 0 H ((sweep r).run s).2.books := by
  have herased := h.eraseEntries s.isSwept (System.arena_of_inUse hr) hr
    fun w _ hw => holders_of_isSwept s hw
  rw [filter_isSwept, ← books_dropSwept] at herased
  rw [run_sweep]
  exact System.release_balanced herased

theorem sweep_trades (r : RuntimeId) (P : Multiset Release) :
    Trades (τ := τ) c (sweep r) (.bridge r ::ₘ P) fun _ => .bridge r ::ₘ P := by
  intro F E s h
  have hused : s.InUse (.bridge r) := h.inUse (by simp)
  apply h.step _ (fun u hu => Or.inl hu) (sweep_balanced h.balanced hused.2.2)
  rw [run_sweep]
  exact System.release_guest _ _

/-! ## Drains -/

section

variable {g : Guest (Outside τ)} (hH : IsBookkeeping H)

include hH

theorem modifyRelay_swaps (id : RelayId) (f : Relay → Relay) (P : Multiset Release) :
    Swaps H (modify (·.modifyRelay id f)) P fun _ => P :=
  uncounted_swaps hH (f := (·.modifyRelay id f)) (fun _ => rfl) (fun _ => rfl) (fun _ => rfl) P

theorem note_swaps {n : Notice} (hn : n.isLateRelease = false) (hcopied : n.copied? = none)
    (P : Multiset Release) : Swaps H (modify (·.note n)) P fun _ => P :=
  uncounted_swaps hH (f := (·.note n)) (fun _ => rfl) (fun s => s.books_note_of_not_late hn)
    (fun s => s.copyReports_note hcopied) P

variable (hg : g.Swaps H)

include hg

theorem showFault_swaps (id : RelayId) (captured : CapturedFault) (h : InstalledHandler)
    (P : Multiset Release) : Swaps H (showFault g id captured h) P fun _ => P := by
  unfold showFault
  refine (modifyRelay_swaps hH id _ P).bind fun _ => ?_
  refine Swaps.bind (((hg.takeFault h.function captured).frame P).of_eq (zero_add P).symm
    fun _ => zero_add P) fun answer => ?_
  refine (modifyRelay_swaps hH id _ P).bind fun _ => ?_
  split
  · exact Swaps.pure rfl
  · exact (modifyRelay_swaps hH id _ P).bind fun _ => Swaps.pure rfl
  · exact (note_swaps hH rfl rfl P).bind fun _ => Swaps.pure rfl

theorem showToAll_swaps (id : RelayId) (captured : CapturedFault) (done : Delivery)
    (handlers : List InstalledHandler) (P : Multiset Release) :
    Swaps H (showToAll g id captured done handlers) P fun _ => P := by
  induction handlers generalizing done with
  | nil => exact Swaps.pure rfl
  | cons h rest ih =>
    unfold showToAll
    apply Swaps.get
    intro s₀
    split
    · exact ih done
    · exact (showFault_swaps hH hg id captured h P).bind fun failures => ih _

theorem drainFaults_swaps (id : RelayId) (most drained : Nat) (failures : List Fault)
    (P : Multiset Release) : Swaps H (drainFaults g id most drained failures) P fun _ => P := by
  induction most generalizing drained failures with
  | zero =>
    have hexhaust : Swaps H (modify System.exhaust) P fun _ => P :=
      uncounted_swaps hH (f := System.exhaust) (fun _ => rfl) (fun _ => rfl) (fun _ => rfl) P
    exact hexhaust.bind fun _ => Swaps.pure rfl
  | succ most ih =>
    unfold drainFaults
    apply Swaps.get
    intro s₀
    split
    · exact Swaps.pure rfl
    · rename_i captured relay _
      refine (modifyRelay_swaps hH id _ P).bind fun _ => ?_
      refine (showToAll_swaps hH hg id captured _ relay.handlers P).bind fun delivery => ?_
      split
      · exact ih _ _
      · exact (note_swaps hH rfl rfl P).bind fun _ => ih _ _

theorem runPending_swaps (id : RelayId) (P : Multiset Release) :
    SwapsOr H (runPending g id) P (fun _ => P) P := by
  unfold runPending
  refine SwapsOr.bind (SwapsOr.doing (drainFaults_swaps hH hg id _ 0 [] P)) ?_
  rintro ⟨drained, failures⟩
  dsimp only
  split
  · exact SwapsOr.pure rfl
  · exact SwapsOr.throw rfl

/-- A drain of the relay of a bridge, and then a sweep. -/
theorem runPendingOf_swaps (r : RuntimeId) {P : Multiset Release}
    (hsweep : Swaps H (sweep r) P fun _ => P) :
    SwapsOr H (runPendingOf g r) P (fun _ => P) P := by
  unfold runPendingOf
  apply SwapsOr.get
  intro s₀
  refine ((runPending_swaps hH hg _ _).outcomeOf _).bind ?_
  have hswept : SwapsOr H (doing (sweep r)) P (fun _ => P) P := SwapsOr.doing hsweep
  rintro (e | x)
  · exact hswept.bind fun _ => SwapsOr.throw rfl
  · exact hswept.bind fun _ => SwapsOr.pure rfl

end

theorem runPending_tries {g : Guest (Outside τ)} (hg : g.Steady c) (id : RelayId)
    (P : Multiset Release) : Tries c (runPending g id) P (fun _ => P) P :=
  .of_swaps fun E => runPending_swaps (Holding.isBookkeeping c E) (hg.swaps E) id P

end NativeBridge
