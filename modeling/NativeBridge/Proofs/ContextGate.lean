-- The gate of invocations. A callable is entered only for a bridge that is alive,
-- and only where its runtime is the innermost one entered, or where no guard is
-- held on the home thread of the bridge. Every other invocation is refused, and
-- leaves everything as it was.
import NativeBridge.Proofs.ArgumentMarshalling
import NativeBridge.Proofs.ContextStacks

namespace NativeBridge

variable {σ τ : Type}

/-! ## Who may be invoked -/

namespace Invocation

/-- The runtime that the closure or the callback belongs to. -/
def owner : Invocation → RuntimeId
  | closure x _ _ => x.runtime
  | callback x _ _ => x.runtime

/-- What the one who invokes holds meanwhile. A closure does not keep its
bridge. -/
def uses : Invocation → List Release
  | closure x _ _ => [.closure x]
  | callback x r _ => [.callback x, .bridge r]

/-- A callback is invoked through a bridge that is alive. -/
def IsThrough (s : System σ) : Invocation → Prop
  | closure _ _ _ => True
  | callback _ r _ => s.isBridgeAlive r = true

/-- What a refusal names as the current runtime: the bridge that a callback of
another one was invoked through, or else the innermost runtime entered. -/
def found (s : System σ) : Invocation → Option RuntimeId
  | closure _ _ _ => s.currentRuntime
  | callback x r _ => if x.runtime ≠ r then some r else s.currentRuntime

/-- An invocation without the gate. -/
def ungated (g : Guest σ) : Invocation → Attempt σ (Option TypedValue)
  | closure x params type =>
    holdingBridge x.runtime (x.marshalArguments g params >>= fun args => x.callWith g args type)
  | callback x r args => do
    if args.length ≠ x.paramTypes.length then
      throw (.argumentCount x.paramTypes.length args.length)
    let handles ← x.marshalArguments r args
    let outcome ← callGuarded g r x.callable handles
    releasingAfter (handles.flatMap Handle.releases) (x.result r outcome)

end Invocation

/-- Whether a callable of a runtime may be entered here and now. -/
structure System.Open (s : System σ) (r : RuntimeId) : Prop where
  alive : s.isBridgeAlive r = true
  place : s.mayRun r = true

/-- Whether the gate lets an invocation pass. -/
structure System.Admits (s : System σ) (i : Invocation) : Prop where
  own : i.owner = i.runtime
  isOpen : s.Open i.runtime

/-- Whether the thread at work may invoke, by the guards that it holds. -/
structure Threads.Admits (w : Threads σ) (i : Invocation) : Prop where
  own : i.owner = i.runtime
  alive : w.system.isBridgeAlive i.owner = true
  place : w.system.currentRuntime = some i.owner ∨
    w.held = 0 ∧ w.system.thread = (w.system.bridge i.owner).home

theorem mayRun_iff {s : System σ} {r : RuntimeId} :
    s.mayRun r = true ↔
      s.currentRuntime = some r ∨ s.entered = [] ∧ s.thread = (s.bridge r).home := by
  unfold System.mayRun System.currentRuntime
  cases s.entered <;> simp

theorem Threads.Matched.admits_iff {w : Threads σ} (hw : w.Matched) {i : Invocation} :
    w.Admits i ↔ w.system.Admits i := by
  have hnone : w.system.entered = [] ↔ w.held = 0 := by
    rw [← w.stack_thread]
    exact hw.stack_eq_nil_iff _
  constructor
  · rintro ⟨hown, halive, hplace⟩
    rw [hown] at halive hplace
    rw [← hnone] at hplace
    exact ⟨hown, halive, mayRun_iff.mpr hplace⟩
  · rintro ⟨hown, halive, hplace⟩
    have hplace' := mayRun_iff.mp hplace
    rw [hnone] at hplace'
    rw [← hown] at halive hplace'
    exact ⟨hown, halive, hplace'⟩

/-! ## The gate -/

theorem SharedTable.drop_hold {α : Type} (t : SharedTable α) (n : Nat) : (t.hold n).drop n = t := by
  unfold hold drop
  congr 1
  apply Array.ext_getElem?
  intro m
  rw [Array.getElem?_modify, Array.getElem?_modify]
  split
  · cases t.cells[m]? <;> rfl
  · rfl

/-- A bridge that is alive anyway is not changed by one who only looks in. -/
theorem release_holdBridge {s : System σ} {r : RuntimeId} (hr : s.isBridgeAlive r = true) :
    (s.holdBridge r).release [.bridge r] = s := by
  have hone : s.bridges.holders r.number ≠ 0 := by simpa [System.isBridgeAlive] using hr
  have hlast : ((s.holdBridge r).bridges.holders r.number == 1) = false := by
    have hholders := SharedTable.holders_hold s.bridges r.number r.number
    rw [if_pos ⟨rfl, SharedTable.lt_size_of_holders hone⟩] at hholders
    have hmore : (s.holdBridge r).bridges.holders r.number = s.bridges.holders r.number + 1 :=
      hholders
    rw [hmore]
    simpa using hone
  have hdone : (s.holdBridge r).releaseOne (.bridge r) = ([], s) := by
    simp only [System.releaseOne, hlast, Bool.false_eq_true, if_false]
    unfold System.holdBridge
    dsimp only
    rw [SharedTable.drop_hold]
  rw [System.release_cons, hdone]
  exact System.release_nil s

namespace Invocation

variable {g : Guest σ} {i : Invocation} {s : System σ}

theorem run_of_admitted (h : s.Admits i) : (i.run g).run.run s = (i.ungated g).run.run s := by
  obtain ⟨hown, halive, hplace⟩ := h
  cases i with
  | closure x params type => exact Closure.invoke_eq halive hplace params type
  | callback x r args =>
    have hcheck := run_checkContext s r
    rw [show s.mayRun r = true from hplace, if_pos rfl] at hcheck
    have hruntime : ¬x.runtime ≠ r := fun hne => hne hown
    unfold run Callback.invoke
    dsimp only
    rw [if_neg hruntime]
    exact run_bind_of_ok s hcheck

/-- A refused invocation names the runtime that it is for, and does nothing. -/
theorem run_of_refused (hi : i.IsThrough s) (h : ¬s.Admits i) :
    (i.run g).run.run s = (.error (.wrongContext i.owner (i.found s)), s) := by
  cases i with
  | closure x params type =>
    unfold run Closure.invoke
    dsimp only
    rw [run_get_bind]
    cases halive : s.isBridgeAlive x.runtime with
    | false => rfl
    | true =>
      have hplace : s.mayRun x.runtime = false :=
        Bool.eq_false_iff.mpr fun hplace => h ⟨rfl, halive, hplace⟩
      have hcheck := run_checkContext (s.holdBridge x.runtime) x.runtime
      rw [Closure.mayRun_holdBridge, hplace] at hcheck
      have hrun : (x.run g params type).run.run (s.holdBridge x.runtime) =
          (.error (.wrongContext x.runtime s.currentRuntime), s.holdBridge x.runtime) :=
        run_bind_of_error _ hcheck
      have hinvoke := run_releasingAfter (s.holdBridge x.runtime) [.bridge x.runtime]
        (x.run g params type)
      rw [hrun, release_holdBridge halive] at hinvoke
      exact hinvoke
  | callback x r args =>
    by_cases hruntime : x.runtime ≠ r
    · have hfound : (callback x r args).found s = some r := if_pos hruntime
      rw [hfound]
      unfold run Callback.invoke
      dsimp only
      rw [if_pos hruntime]
      rfl
    · have hown : x.runtime = r := not_not.mp hruntime
      have hplace : s.mayRun r = false :=
        Bool.eq_false_iff.mpr fun hplace => h ⟨hown, hi, hplace⟩
      have hcheck := run_checkContext s r
      have hfound : (callback x r args).found s = s.currentRuntime := if_neg hruntime
      have howner : (callback x r args).owner = r := hown
      rw [hplace] at hcheck
      rw [hfound, howner]
      unfold run Callback.invoke
      dsimp only
      rw [if_neg hruntime]
      exact run_bind_of_error s hcheck

end Invocation

/-! ## Where callables are entered -/

/-- The same thread is at work, and the same runtimes are entered. -/
def InPlace (s t : World τ) : Prop := t.place = s.place

theorem inPlace_isCourse : IsCourse (InPlace (τ := τ)) where
  quiet h := h.place
  fallback s r type package := (s.frame_noteFallback r type package).2.2.1
  heap _ := rfl
  trans h h' := h'.trans h

/-- The marshaller of a closure may enter runtimes, but leaves them again. -/
def Invocation.ConvertsInPlace (g : Guest (Outside τ)) : Invocation → Prop
  | closure x _ _ => ∀ m, x.marshaller = some m →
    ∀ index v, Attempts InPlace (g.marshalArgument m x.runtime index v)
  | callback _ _ _ => True

theorem mayRun_congr {s t : World τ} (hplace : InPlace s t) {r : RuntimeId}
    (hhome : (t.bridge r).home = (s.bridge r).home) : t.mayRun r = s.mayRun r := by
  obtain ⟨hthread, hentered⟩ := Prod.mk.inj hplace
  unfold System.mayRun System.currentRuntime
  rw [hthread, hentered, hhome]

namespace System.Open

variable {s t : World τ} {r : RuntimeId}

theorem known (h : s.Open r) : (s.bridges.get? r.number).isSome := by
  have hholders : s.bridges.holders r.number ≠ 0 := by simpa [isBridgeAlive] using h.alive
  exact Option.isSome_iff_exists.mpr (SharedTable.get?_of_holders hholders)

theorem setErrorSlot (h : s.Open r) (fault : Option Fault) : (s.setErrorSlot r fault).Open r := by
  refine ⟨?_, ?_⟩
  · have hholders := SharedTable.holders_modify s.bridges r.number r.number
      fun b => { b with errorSlot := fault }
    unfold isBridgeAlive System.setErrorSlot modifyBridge
    rw [hholders]
    exact h.alive
  · have hhome : ((s.setErrorSlot r fault).bridge r).home = (s.bridge r).home :=
      bridge_modifyBridge_part Bridge.home (f := fun b => { b with errorSlot := fault })
        (fun _ => rfl) s r r
    have hplace : InPlace s (s.setErrorSlot r fault) := rfl
    exact (mayRun_congr hplace hhome).trans h.place

/-- What is open stays so in place, as long as the bridge is in use. -/
theorem of_inUse (h : s.Open r) (hplace : InPlace s t) (hcharters : KeepsCharters s t)
    (hused : t.InUse (.bridge r)) : t.Open r := by
  have hhome := congrArg (fun charter => charter.2.1) (hcharters.bridge_eq h.known)
  exact ⟨isBridgeAlive_iff.mpr hused.2.2, (mayRun_congr hplace hhome).trans h.place⟩

end System.Open

section

variable {c : Conduct} {F : Multiset Release} {E : List ObjectId} {s t : World τ}
  {g : Guest (Outside τ)} {handles : List Handle}

/-- When a closure has its arguments, the gate is still open. -/
theorem Closure.open_of_marshalled {x : Closure} {params : List TypedValue}
    (hs : Holding c ({.closure x} + F) E s) (hg : g.IsOutside c) (hopen : s.Open x.runtime)
    (hplace : ∀ m, x.marshaller = some m →
      ∀ index v, Attempts InPlace (g.marshalArgument m x.runtime index v))
    (hrun : (x.marshalArguments g params).run.run (s.holdBridge x.runtime) = (.ok handles, t)) :
    t.Open x.runtime := by
  have hH := Holding.isBookkeeping (τ := τ) c E
  have hused : s.InUse (.bridge x.runtime) :=
    ⟨trivial, trivial, System.isBridgeAlive_iff.mp hopen.alive⟩
  have hkept : Holding c ({.closure x} + ({.bridge x.runtime} + F)) E (s.holdBridge x.runtime) := by
    rw [add_left_comm]
    exact hH.keep hs hused
  have hswaps := marshalArguments_swaps (hH.frame {.closure x}) ((hg.steady.swaps E).aside _)
    (fun F s => hH.inUse_aside) params F (s.holdBridge x.runtime) hkept
  have harguments := marshalArguments_attempts inPlace_isCourse hplace params
    (s.holdBridge x.runtime)
  have hcharters := marshalArguments_attempts keepsCharters_isVoyage.course
    (fun m _ => hg.keepsCharters.marshalArgument m x.runtime) params (s.holdBridge x.runtime)
  have hheld : InPlace s (s.holdBridge x.runtime) := rfl
  have hheld' : KeepsCharters s (s.holdBridge x.runtime) :=
    keepsCharters_isVoyage.course.quiet (.holdBridge s x.runtime)
  change InPlace _ ((x.marshalArguments g params).run.run (s.holdBridge x.runtime)).2 at harguments
  change KeepsCharters _ ((x.marshalArguments g params).run.run (s.holdBridge x.runtime)).2
    at hcharters
  rw [hrun] at hswaps harguments hcharters
  refine hopen.of_inUse (inPlace_isCourse.trans hheld harguments)
    (keepsCharters_isVoyage.course.trans hheld' hcharters) (hH.inUse hswaps ?_)
  simp

theorem Callback.open_of_marshalled {x : Callback} {r : RuntimeId} {args : List NativeValue}
    (hs : Holding c (x.means r + F) E s) (hopen : s.Open r)
    (hrun : (x.marshalArguments r args).run.run s = (.ok handles, t)) : t.Open r := by
  have htries := callbackArguments_tries (c := c) (x := x) (r := r) args F E s hs
  have hplace := callbackArguments_attempts inPlace_isCourse x r args s
  have hcharters := callbackArguments_attempts keepsCharters_isVoyage.course x r args s
  change InPlace _ ((x.marshalArguments r args).run.run s).2 at hplace
  change KeepsCharters _ ((x.marshalArguments r args).run.run s).2 at hcharters
  change Holding c _ E ((x.marshalArguments r args).run.run s).2 at htries
  rw [hrun] at htries hplace hcharters
  refine hopen.of_inUse hplace hcharters (Holding.inUse htries ?_)
  simp [Callback.means]

end

section

variable {g : Guest (Outside τ)} {s : World τ}
  {call : Callable → List Handle → Action (Outside τ) (Except Fault Handle)}

/-- What a callable would do elsewhere makes no difference where the gate is
open. -/
theorem callGuarded_of_open {r : RuntimeId} (hs : s.Open r)
    (hcall : ∀ f args t, t.Open r → (call f args).run t = (g.call f args).run t) (f : Callable)
    (args : List Handle) :
    (callGuarded { g with call } r f args).run s = (callGuarded g r f args).run s := by
  rw [run_callGuarded, run_callGuarded]
  dsimp only
  rw [hcall f args _ (hs.setErrorSlot none)]

theorem Closure.callWith_of_open {x : Closure} (hs : s.Open x.runtime)
    (hcall : ∀ f args t, t.Open x.runtime → (call f args).run t = (g.call f args).run t)
    (args : List Handle) (type : Option TypeId) :
    (x.callWith { g with call } args type).run.run s = (x.callWith g args type).run.run s := by
  have hsame := callGuarded_of_open hs hcall x.callable args
  unfold Closure.callWith
  rw [run_bind_of_ok s (run_liftM s _), run_bind_of_ok s (run_liftM s _), hsame]
  rfl

theorem Closure.ungated_of_open {c : Conduct} {F : Multiset Release} {E : List ObjectId} {x : Closure}
    {params : List TypedValue} (hs : Holding c ({.closure x} + F) E s) (hg : g.IsOutside c)
    (hopen : s.Open x.runtime)
    (hplace : ∀ m, x.marshaller = some m →
      ∀ index v, Attempts InPlace (g.marshalArgument m x.runtime index v))
    (hcall : ∀ f args t, t.Open x.runtime → (call f args).run t = (g.call f args).run t)
    (type : Option TypeId) :
    ((Invocation.closure x params type).ungated { g with call }).run.run s =
      ((Invocation.closure x params type).ungated g).run.run s := by
  have hafter : (x.marshalArguments g params >>= fun args =>
      x.callWith { g with call } args type).run.run (s.holdBridge x.runtime) =
      (x.marshalArguments g params >>= fun args => x.callWith g args type).run.run
        (s.holdBridge x.runtime) := by
    rcases hrun : (x.marshalArguments g params).run.run (s.holdBridge x.runtime) with
      ⟨e | handles, t⟩
    · rw [run_bind_of_error _ hrun, run_bind_of_error _ hrun]
    · rw [run_bind_of_ok _ hrun, run_bind_of_ok _ hrun]
      exact callWith_of_open (open_of_marshalled hs hg hopen hplace hrun) hcall handles type
  have hungated : ∀ g' : Guest (Outside τ),
      ((Invocation.closure x params type).ungated g').run.run s =
        (releasingAfter [.bridge x.runtime] (x.marshalArguments g' params >>= fun args =>
          x.callWith g' args type)).run.run (s.holdBridge x.runtime) := fun _ => rfl
  rw [hungated, hungated, run_releasingAfter, run_releasingAfter]
  exact congrArg (fun done : Except BridgeError (Option TypedValue) × World τ =>
    (done.1, done.2.release [.bridge x.runtime])) hafter

theorem Callback.ungated_of_open {c : Conduct} {F : Multiset Release} {E : List ObjectId}
    {x : Callback} {r : RuntimeId} {args : List NativeValue}
    (hs : Holding c (x.means r + F) E s) (hopen : s.Open r)
    (hcall : ∀ f args t, t.Open r → (call f args).run t = (g.call f args).run t) :
    ((Invocation.callback x r args).ungated { g with call }).run.run s =
      ((Invocation.callback x r args).ungated g).run.run s := by
  unfold Invocation.ungated
  dsimp only
  split
  · rfl
  · rcases hrun : (x.marshalArguments r args).run.run s with ⟨e | handles, t⟩
    · rw [run_bind_of_error _ hrun, run_bind_of_error _ hrun]
    · have hsame := callGuarded_of_open (open_of_marshalled hs hopen hrun) hcall x.callable handles
      rw [run_bind_of_ok _ hrun, run_bind_of_ok _ hrun, run_bind_of_ok t (run_liftM t _),
        run_bind_of_ok t (run_liftM t _)]
      rw [hsame]

/-- One who holds what a callback needs keeps its bridge alive. -/
theorem Invocation.isThrough_of_holding {c : Conduct} {F : Multiset Release} {E : List ObjectId}
    {i : Invocation} (hs : Holding c (i.uses + F) E s) : i.IsThrough s := by
  cases i with
  | closure x params type => trivial
  | callback x r args =>
    have hbridge : Release.bridge r ∈ (callback x r args).uses := by simp [uses]
    have hinUse := hs.inUse (Multiset.mem_add.mpr (.inl (Multiset.mem_coe.mpr hbridge)))
    exact System.isBridgeAlive_iff.mpr hinUse.2.2

/-- An invocation by someone who holds what is invoked enters the callable, if at
all, where the gate is open. -/
theorem Invocation.run_of_open {c : Conduct} (h : s.Reached c) (hg : g.IsOutside c) {i : Invocation}
    (hused : ∀ u ∈ i.uses, s.InUse u) (hplace : i.ConvertsInPlace g)
    (hcall : ∀ f args t, t.Open i.runtime → (call f args).run t = (g.call f args).run t) :
    (i.run { g with call }).run.run (i.uses.foldl System.keep s) =
      (i.run g).run.run (i.uses.foldl System.keep s) := by
  obtain ⟨F, hs⟩ := h.holding
  have hheld := hs.keepAll hused
  have hthrough := isThrough_of_holding hheld
  generalize i.uses.foldl System.keep s = held at hheld hthrough
  by_cases hadmitted : held.Admits i
  · rw [run_of_admitted hadmitted, run_of_admitted hadmitted]
    have hopen := hadmitted.isOpen
    cases i with
    | closure x params type => exact Closure.ungated_of_open hheld hg hopen hplace hcall type
    | callback x r args => exact Callback.ungated_of_open hheld hopen hcall
  · rw [run_of_refused hthrough hadmitted, run_of_refused hthrough hadmitted]

end

/-! ## Code that uses guards -/

/-- From the first state the threads can come to the second, with guards as the
only means to enter a runtime. -/
def GuardRuns (s t : World τ) : Prop := ∀ w : Threads (Outside τ), w.system = s →
  ∃ uses u, Threads.Run w uses u ∧ u.system = t

theorem Threads.Run.trans {w v u : Threads σ} {first second : List (Nat × GuardUse)}
    (h : Run w first v) (h' : Run v second u) : Run w (first ++ second) u := by
  induction h' with
  | rest => rwa [List.append_nil]
  | step _ hlast ih =>
    rw [← List.append_assoc]
    exact .step ih hlast

theorem GuardRuns.of_place {s t : World τ} (h : InPlace s t) : GuardRuns s t := by
  rintro w rfl
  exact ⟨[] ++ [], _, .step (.rest w) (.other w h), rfl⟩

theorem guardRuns_isCourse : IsCourse (GuardRuns (τ := τ)) where
  quiet h := .of_place h.place
  fallback s r type package := .of_place (inPlace_isCourse.fallback s r type package)
  heap _ := .of_place rfl
  trans h h' w hw := by
    obtain ⟨first, v, hfirst, hv⟩ := h w hw
    obtain ⟨second, u, hsecond, hu⟩ := h' v hv
    exact ⟨first ++ second, u, hfirst.trans hsecond, hu⟩

/-- Callables and marshallers that enter runtimes by guards only, and drop those
that they made. -/
structure Guest.UsesGuards (g : Guest (Outside τ)) : Prop where
  call : ∀ f args, NativeBridge.Follows GuardRuns (g.call f args)
  marshalArgument : ∀ m r index v, Attempts GuardRuns (g.marshalArgument m r index v)
  marshalResult : ∀ m r h type, Attempts GuardRuns (g.marshalResult m r h type)

theorem Guest.UsesGuards.serves {g : Guest (Outside τ)} (hg : g.UsesGuards) (r : RuntimeId) :
    g.Serves GuardRuns r where
  call f args s := by
    have hslot : ∀ (t : World τ) fault, GuardRuns t (t.setErrorSlot r fault) :=
      fun _ _ => .of_place rfl
    have hrecorded : ∀ (t : World τ) outcome, GuardRuns t (t.recordOutcome r outcome) := by
      intro t outcome
      cases outcome with
      | ok value => exact guardRuns_isCourse.refl t
      | error fault => exact hslot t (some fault)
    have hR := guardRuns_isCourse (τ := τ)
    rw [run_callGuarded]
    exact hR.trans (hR.trans (hR.trans (hslot s none) (hg.call f args _)) (hrecorded _ _)) (hslot _ _)
  marshalArgument m := hg.marshalArgument m r
  marshalResult m := hg.marshalResult m r
  capture id fault origin s := by
    rw [run_captureFault]
    cases ((s.relay id).capture fault origin r).2.1 <;> exact .of_place rfl

/-! ## The law -/

/-- The threads start with nothing entered, and enter runtimes by guards. -/
theorem runtime_context_gate {s : World τ} (hs : s.entered = []) {uses : List (Nat × GuardUse)}
    {w : Threads (Outside τ)} (hrun : Threads.Run (.start s) uses w) :
    -- a thread has each runtime entered as often as it holds guards for it
    (∀ n r, (w.stack n).count r = (w.guards n).count r) ∧
    -- a thread whose use of guards is well nested gets its stack back
    (∀ later u, Threads.Run w later u → ∀ n, GuardUse.WellNested (Threads.usesOn n later) →
      u.stack n = w.stack n) ∧
    -- so it goes on in invocations, if the code that they call uses guards
    (∀ (g : Guest (Outside τ)) (i : Invocation), g.UsesGuards →
      ∃ later u, Threads.Run w later u ∧ u.system = ((i.run g).run.run w.system).2) ∧
    -- an invocation passes if it may, and else it is refused and nothing is done
    (∀ (g : Guest (Outside τ)) (i : Invocation), i.IsThrough w.system →
      (w.Admits i → (i.run g).run.run w.system = (i.ungated g).run.run w.system) ∧
      (¬w.Admits i → (i.run g).run.run w.system =
        (.error (.wrongContext i.owner (i.found w.system)), w.system))) ∧
    -- when the callable is entered, the gate is still open: what it would do elsewhere
    -- makes no difference
    ∀ (c : Conduct) (g : Guest (Outside τ)) (i : Invocation), World.Reached c w.system →
      g.IsOutside c → (∀ u ∈ i.uses, w.system.InUse u) → i.ConvertsInPlace g → ∀ call,
        (∀ f args t, t.Open i.runtime → (call f args).run t = (g.call f args).run t) →
        (i.run { g with call }).run.run (i.uses.foldl System.keep w.system) =
          (i.run g).run.run (i.uses.foldl System.keep w.system) := by
  have hw := hrun.matched (Threads.matched_start hs)
  refine ⟨hw.count_eq, fun later u h n => h.restores, fun g i hg => ?_, fun g i hi => ?_,
    fun c g i hreached hg hused hplace call hcall => ?_⟩
  · exact i.run_attempts guardRuns_isCourse (hg.serves i.runtime) w.system w rfl
  · rw [hw.admits_iff]
    exact ⟨i.run_of_admitted, i.run_of_refused hi⟩
  · exact i.run_of_open hreached hg hused hplace hcall

namespace Sample

/-- Two runtimes are entered, and the first guard is dropped before the second. -/
def crossing (s : World Unit) : Threads (Outside Unit) :=
  (((Threads.start s).enter bridge).enter otherBridge).drop bridge

theorem crossing_run (s : World Unit) : Threads.Run (.start s)
    [(s.thread, .enter bridge), (s.thread, .enter otherBridge), (s.thread, .drop bridge)]
    (crossing s) := by
  have hheld : bridge ∈ (((Threads.start s).enter bridge).enter otherBridge).held := by
    simp [Threads.held, Threads.enter, Threads.setHeld, System.enter]
  exact (((Threads.Run.rest _).step (.enter _ bridge)).step (.enter _ otherBridge)).step
    (.drop _ hheld)

theorem currentRuntime_crossing {s : World Unit} (hs : s.entered = []) :
    (crossing s).system.currentRuntime = some otherBridge := by
  simp [crossing, Threads.drop, Threads.enter, Threads.start, System.enter, System.leave,
    System.currentRuntime, hs, bridge, otherBridge]

theorem held_crossing (s : World Unit) : (crossing s).held = {otherBridge} := by
  simp [crossing, Threads.held, Threads.drop, Threads.enter, Threads.start, Threads.setHeld,
    System.enter, System.leave, bridge, otherBridge]

/-- Callables that only do their work where the gate is open. -/
def cautious (f : Callable) (args : List Handle) : Action (Outside Unit) (Except Fault Handle) := do
  if (← get).mayRun bridge then failing.call f args else return .ok .undefined

end Sample

/-- While the other runtime is the innermost one, the closure is refused. While
nothing is entered, it is called on the home thread of its bridge. -/
theorem sample_runtime_context_gate :
    let crossed := Sample.crossing Sample.armed
    (∀ n r, (crossed.stack n).count r = (crossed.guards n).count r) ∧
      (Sample.invocation.run Sample.failing).run.run crossed.system =
        (.error (.wrongContext Sample.bridge (some Sample.otherBridge)), crossed.system) ∧
      let held := Sample.invocation.uses.foldl System.keep Sample.armed
      (Sample.invocation.run { Sample.failing with call := Sample.cautious }).run.run held =
        (Sample.invocation.run Sample.failing).run.run held := by
  intro crossed
  have hs : Sample.armed.entered = [] := by decide +kernel
  obtain ⟨hcount, -, -, hgate, -⟩ := runtime_context_gate hs (Sample.crossing_run Sample.armed)
  obtain ⟨-, -, -, -, hopen⟩ := runtime_context_gate hs (.rest _)
  have hcurrent : crossed.system.currentRuntime = some Sample.otherBridge :=
    Sample.currentRuntime_crossing hs
  refine ⟨hcount, ?_, ?_⟩
  · rw [← hcurrent]
    apply (hgate Sample.failing Sample.invocation trivial).2
    rintro ⟨-, -, hplace⟩
    rcases hplace with hinnermost | ⟨hnone, -⟩
    · exact absurd (hcurrent.symm.trans hinnermost) (by decide)
    · exact absurd ((Sample.held_crossing Sample.armed).symm.trans hnone) (by decide)
  · apply hopen .fair Sample.failing Sample.invocation (Sample.armed_reached .fair)
      (Sample.failing_isOutside .fair) _ (fun m hm => absurd hm.symm (Option.some_ne_none m))
    · intro f args t ht
      have hplace : t.mayRun Sample.bridge = true := ht.place
      unfold Sample.cautious
      simp only [StateT.run_bind, StateT.run_get, pure_bind, hplace]
      rfl
    · intro u hu
      rw [List.mem_singleton.mp hu]
      exact ⟨trivial, rfl, by decide +kernel⟩

end NativeBridge
