-- The error slot of a bridge belongs to whoever invokes. A callable always
-- finds it empty, and afterwards it holds what it held before, whatever the
-- callable did to it and however deep it called back.
import NativeBridge.Proofs.FailureContainment
import NativeBridge.Proofs.Laws

namespace NativeBridge

variable {σ τ : Type}

/-! ## Slots -/

/-- The slot is the same before and after. -/
def KeepsSlot (r : RuntimeId) (s t : World τ) : Prop := t.errorSlot r = s.errorSlot r

theorem errorSlot_eq (s : System σ) (r : RuntimeId) :
    s.errorSlot r = (s.bridges.get? r.number).bind (·.errorSlot) := by
  unfold System.errorSlot System.bridge
  cases s.bridges.get? r.number <;> rfl

theorem get?_setErrorSlot (s : System σ) (r : RuntimeId) (fault : Option Fault) (n : Nat) :
    (s.setErrorSlot r fault).bridges.get? n =
      if n = r.number then (s.bridges.get? n).map fun b => { b with errorSlot := fault }
      else s.bridges.get? n := SharedTable.get?_modify ..

/-- The slot of a bridge that does not exist stays empty. -/
theorem errorSlot_setErrorSlot_self (s : System σ) (r : RuntimeId) (fault : Option Fault) :
    (s.setErrorSlot r fault).errorSlot r =
      if (s.bridges.get? r.number).isSome then fault else none := by
  rw [errorSlot_eq, get?_setErrorSlot, if_pos rfl]
  cases s.bridges.get? r.number <;> rfl

theorem errorSlot_setErrorSlot_ne {r r' : RuntimeId} (h : r' ≠ r) (s : System σ)
    (fault : Option Fault) : (s.setErrorSlot r fault).errorSlot r' = s.errorSlot r' := by
  have hnumber : r'.number ≠ r.number := fun hn => h (by cases r; cases r'; simp_all)
  rw [errorSlot_eq, errorSlot_eq, get?_setErrorSlot, if_neg hnumber]

theorem errorSlot_setErrorSlot_none (s : System σ) (r : RuntimeId) :
    (s.setErrorSlot r none).errorSlot r = none := by
  rw [errorSlot_setErrorSlot_self]
  split <;> rfl

theorem errorSlot_recordOutcome_ne {r r' : RuntimeId} (h : r' ≠ r) (s : System σ)
    (outcome : Except Fault Handle) :
    (s.recordOutcome r outcome).errorSlot r' = s.errorSlot r' := by
  cases outcome with
  | ok value => rfl
  | error fault => exact errorSlot_setErrorSlot_ne h s (some fault)

/-- What the library does by itself leaves the slots alone. -/
theorem keepsSlot_isCourse (r : RuntimeId) : IsCourse (KeepsSlot (τ := τ) r) where
  quiet {s t} h := by
    have hsetup := h.setup r.number
    unfold KeepsSlot
    rw [errorSlot_eq, errorSlot_eq]
    cases hs : s.bridges.get? r.number <;> cases ht : t.bridges.get? r.number <;>
      simp_all [Bridge.setup]
  fallback s r' type package :=
    s.bridge_noteFallback (f := (·.errorSlot)) (fun _ _ => rfl) r' type package r
  heap _ := rfl
  trans h h' := h'.trans h

theorem captureFault_keepsSlot (r : RuntimeId) (id : RelayId) (fault : Fault) (origin : String)
    (r' : RuntimeId) : Follows (KeepsSlot (τ := τ) r) (captureFault id fault origin r') := by
  intro s
  rw [run_captureFault]
  cases ((s.relay id).capture fault origin r').2.1 <;> rfl

/-! ## Bridges stay -/

/-- A bridge that exists goes on existing. -/
theorem bridges_stay : IsLaw
    (fun a b => ∀ n, (a.bridges.get? n).isSome → (b.bridges.get? n).isSome) fun _ _ _ => True where
  still h := h.known
  heap _ _ h := h
  newRegistry _ _ _ h := h
  changeRegistry a id change n h := by
    unfold Arrangement.apply
    dsimp only
    split <;> exact h
  emission h := h
  trans h h' n hn := h' n (h n hn)
  seen _ := trivial
  after _ _ := trivial
  before _ _ := trivial
  during _ := trivial

/-! ## Calls -/

theorem run_callGuarded (g : Guest σ) (r : RuntimeId) (f : Callable) (args : List Handle)
    (s : System σ) :
    (callGuarded g r f args).run s =
      let left := (g.call f args).run (s.setErrorSlot r none)
      (left.1, (left.2.recordOutcome r left.1).setErrorSlot r (s.errorSlot r)) := rfl

/-- The slot of the bridge gets back what it held. -/
theorem callGuarded_keepsSlot {g : Guest (Outside τ)} (hg : g.IsOutside .any) (r : RuntimeId)
    (f : Callable) (args : List Handle) : Follows (KeepsSlot r) (callGuarded g r f args) := by
  intro s
  rw [run_callGuarded]
  unfold KeepsSlot
  dsimp only
  rw [errorSlot_setErrorSlot_self]
  split
  · rfl
  · -- the bridge never existed, since bridges stay
    rename_i hgone
    cases hb : s.bridges.get? r.number with
    | none => rw [errorSlot_eq, hb, Option.bind_none]
    | some b =>
      have hcalled := ((hg.since bridges_stay).call f args (s.setErrorSlot r none)).now r.number
      have hknown : ((s.setErrorSlot r none).bridges.get? r.number).isSome := by
        rw [get?_setErrorSlot, if_pos rfl, hb]
        rfl
      have hleft := hcalled hknown
      refine absurd ?_ hgone
      cases ((g.call f args).run (s.setErrorSlot r none)).1 with
      | ok value => exact hleft
      | error fault =>
        change ((System.setErrorSlot _ r (some fault)).bridges.get? r.number).isSome
        rw [get?_setErrorSlot, if_pos rfl, Option.isSome_map]
        exact hleft

/-- The slots of other bridges are up to the callable. -/
theorem callGuarded_keepsOther {g : Guest (Outside τ)} {r r' : RuntimeId} (hne : r' ≠ r)
    (hcall : ∀ f args, Follows (KeepsSlot r') (g.call f args)) (f : Callable)
    (args : List Handle) : Follows (KeepsSlot r') (callGuarded g r f args) := by
  intro s
  rw [run_callGuarded]
  unfold KeepsSlot
  dsimp only
  rw [errorSlot_setErrorSlot_ne hne, errorSlot_recordOutcome_ne hne,
    hcall f args (s.setErrorSlot r none), errorSlot_setErrorSlot_ne hne]

/-- What a callable would do with a full slot makes no difference. -/
theorem callGuarded_congr {g g' : Guest σ} {r : RuntimeId}
    (hcall : ∀ f args s, s.errorSlot r = none → (g'.call f args).run s = (g.call f args).run s) :
    callGuarded g' r = callGuarded g r := by
  funext f args s
  have hsame := hcall f args _ (errorSlot_setErrorSlot_none s r)
  change (callGuarded g' r f args).run s = (callGuarded g r f args).run s
  rw [run_callGuarded, run_callGuarded, hsame]

/-! ## Invocations -/

/-- The two ways in which native code invokes a callable. -/
inductive Invocation where
  | closure (x : Closure) (params : List TypedValue) (returnType : Option TypeId)
  | callback (x : Callback) (r : RuntimeId) (args : List NativeValue)

namespace Invocation

/-- The bridge that invokes. -/
def runtime : Invocation → RuntimeId
  | closure x _ _ => x.runtime
  | callback _ r _ => r

def run (g : Guest σ) : Invocation → Attempt σ (Option TypedValue)
  | closure x params returnType => x.invoke g params returnType
  | callback x r args => x.invoke g r args

theorem run_attempts {R : World τ → World τ → Prop} (hR : IsCourse R) {g : Guest (Outside τ)}
    (i : Invocation) (hs : g.Serves R i.runtime) : Attempts R (i.run g) := by
  cases i with
  | closure x params returnType => exact invoke_attempts hR hs params returnType
  | callback x r args => exact invokeCallback_attempts hR hs x args

theorem run_congr {g : Guest σ} (i : Invocation)
    {call : Callable → List Handle → Action σ (Except Fault Handle)}
    (hcall : ∀ f args s, s.errorSlot i.runtime = none →
      (call f args).run s = (g.call f args).run s) : i.run { g with call } = i.run g := by
  have hsame : callGuarded { g with call } i.runtime = callGuarded g i.runtime :=
    callGuarded_congr hcall
  cases i with
  | closure x params returnType =>
    have hrun : x.run { g with call } params returnType = x.run g params returnType := by
      unfold Closure.run
      rw [show callGuarded { g with call } x.runtime = callGuarded g x.runtime from hsame]
      rfl
    unfold run Closure.invoke
    dsimp only
    rw [hrun]
  | callback x r args =>
    unfold run Callback.invoke
    dsimp only
    rw [show callGuarded { g with call } r = callGuarded g r from hsame]

end Invocation

/-- Marshallers that leave a slot alone. -/
structure Guest.MarshalsAside (g : Guest (Outside τ)) (runtime r : RuntimeId) : Prop where
  argument : ∀ m i v, Attempts (KeepsSlot r) (g.marshalArgument m runtime i v)
  result : ∀ m h type, Attempts (KeepsSlot r) (g.marshalResult m runtime h type)

/-- An invocation leaves the slot of its bridge as it was, however it ends and
whatever the callable does. The callable finds that slot empty: it does not
matter what it would do with a full one. The slot of another bridge is left as
it was, unless the callable itself changes it. -/
theorem error_slot_discipline {g : Guest (Outside τ)} (hg : g.IsOutside .any) (i : Invocation)
    (hmarshal : g.MarshalsAside i.runtime i.runtime) :
    Attempts (KeepsSlot i.runtime) (i.run g) ∧
      (∀ call : Callable → List Handle → Action (Outside τ) (Except Fault Handle),
        (∀ f args s, s.errorSlot i.runtime = none →
          (call f args).run s = (g.call f args).run s) → i.run { g with call } = i.run g) ∧
      ∀ r, r ≠ i.runtime → g.MarshalsAside i.runtime r →
        (∀ f args, Follows (KeepsSlot r) (g.call f args)) → Attempts (KeepsSlot r) (i.run g) := by
  refine ⟨?_, fun call hcall => i.run_congr hcall, ?_⟩
  · apply i.run_attempts (keepsSlot_isCourse i.runtime)
    exact ⟨callGuarded_keepsSlot hg i.runtime, hmarshal.argument, hmarshal.result,
      fun id fault origin => captureFault_keepsSlot i.runtime id fault origin i.runtime⟩
  · intro r hne hothers hcall
    apply i.run_attempts (keepsSlot_isCourse r)
    exact ⟨callGuarded_keepsOther hne hcall, hothers.argument, hothers.result,
      fun id fault origin => captureFault_keepsSlot r id fault origin i.runtime⟩

namespace Sample

def leftBehind : Arrangement := .setErrorSlot bridge (some (.ofMessage "left behind"))

/-- Code whose callables leave a fault in the slot of their bridge, and fail. -/
def meddling : Guest (Outside Unit) :=
  { failing with
    call := fun _ _ => do
      modify fun s => leftBehind.apply s
      return .error (.ofMessage "broken") }

theorem meddling_isOutside (c : Conduct) : meddling.IsOutside c where
  call f args x := by
    have hdeed := Moves.deed (d := .arrange leftBehind) Guest.idle_isOutside
      (Deed.allowed_of_isFree rfl c x)
    have hrun : (((Deed.arrange leftBehind).perform (.idle _)).run x).2 =
        (leftBehind.apply x).release [] := rfl
    rw [hrun, System.release_nil] at hdeed
    exact hdeed
  native := (failing_isOutside c).native
  sink := (failing_isOutside c).sink
  takeFault := (failing_isOutside c).takeFault
  marshalArgument := (failing_isOutside c).marshalArgument
  marshalResult := (failing_isOutside c).marshalResult

theorem meddling_marshalsAside (r : RuntimeId) : meddling.MarshalsAside bridge r where
  argument _ _ _ _ := rfl
  result _ _ _ _ := rfl

/-- Something was raised before the call. -/
def slotted : World Unit := armed.setErrorSlot bridge (some (.ofMessage "earlier"))

def invocation : Invocation := .closure closure arguments (some type)

/-- Callables that give up when they find something in the slot. -/
def wary (f : Callable) (args : List Handle) :
    Action (Outside Unit) (Except Fault Handle) := do
  if ((← get).errorSlot bridge).isSome then return .ok .undefined
  meddling.call f args

end Sample

/-- The callable fails, and leaves another fault in the slot. -/
theorem sample_error_slot_discipline :
    let done := (Sample.invocation.run Sample.meddling).run.run Sample.slotted
    done.1 = .ok none ∧ done.2.errorSlot Sample.bridge = some (.ofMessage "earlier") ∧
      done.2.errorSlot ⟨1⟩ = Sample.slotted.errorSlot ⟨1⟩ ∧
      Sample.invocation.run { Sample.meddling with call := Sample.wary } =
        Sample.invocation.run Sample.meddling := by
  obtain ⟨hkept, hentered, hothers⟩ := error_slot_discipline (Sample.meddling_isOutside .any)
    Sample.invocation (Sample.meddling_marshalsAside _)
  refine ⟨rfl, hkept Sample.slotted, ?_, ?_⟩
  · apply hothers ⟨1⟩ (by decide) (Sample.meddling_marshalsAside _)
    exact fun f args s => errorSlot_setErrorSlot_ne (by decide) s _
  · apply hentered
    intro f args s hempty
    have hslot : s.errorSlot Sample.bridge = none := hempty
    unfold Sample.wary
    simp only [StateT.run_bind, StateT.run_get, pure_bind, hslot]
    rfl

end NativeBridge
