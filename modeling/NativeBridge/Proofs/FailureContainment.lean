-- Faults of closures stay on their side. An invocation whose callable fails
-- gives native code no value, and captures that one fault as the last thing
-- that it does; every other invocation captures nothing of its own.
import NativeBridge.Proofs.RelayConservation

namespace NativeBridge

open History

variable {σ τ α : Type}

/-! ## The course of an invocation -/

/-- How an invocation goes: what native code gets, the state when the last
code from outside is done, and the fault that the invocation captures then. -/
inductive Closure.Goes (g : Guest σ) (x : Closure) (params : List TypedValue)
    (type : Option TypeId) (s : System σ) :
    Except BridgeError (Option TypedValue) → System σ → Option Fault → Prop where
  /-- Its bridge is gone. -/
  | gone (halive : s.isBridgeAlive x.runtime = false) :
    Goes g x params type s (.error (.wrongContext x.runtime s.currentRuntime)) s none
  /-- Its bridge may not run here. -/
  | elsewhere (halive : s.isBridgeAlive x.runtime = true)
    (hplace : (s.holdBridge x.runtime).mayRun x.runtime = false) :
    Goes g x params type s (.error (.wrongContext x.runtime s.currentRuntime))
      (s.holdBridge x.runtime) none
  /-- There are no arguments, or one cannot be converted. -/
  | refused (halive : s.isBridgeAlive x.runtime = true)
    (hplace : (s.holdBridge x.runtime).mayRun x.runtime = true) (e : BridgeError) (u : System σ)
    (hargs : (x.marshalArguments g params).run.run (s.holdBridge x.runtime) = (.error e, u)) :
    Goes g x params type s (.error e) u none
  /-- The callable comes back with a value, which is converted, or cannot be. -/
  | returned (halive : s.isBridgeAlive x.runtime = true)
    (hplace : (s.holdBridge x.runtime).mayRun x.runtime = true) (args : List Handle)
    (value : Handle) (answer : Except BridgeError (Option TypedValue)) (s₁ s₂ u : System σ)
    (hargs : (x.marshalArguments g params).run.run (s.holdBridge x.runtime) = (.ok args, s₁))
    (hcall : (callGuarded g x.runtime x.callable args).run s₁ = (.ok value, s₂))
    (hresult : (x.convertResult g value type).run.run (s₂.releaseHandles args) = (answer, u)) :
    Goes g x params type s answer u none
  /-- The callable fails. -/
  | failed (halive : s.isBridgeAlive x.runtime = true)
    (hplace : (s.holdBridge x.runtime).mayRun x.runtime = true) (args : List Handle)
    (fault : Fault) (s₁ u : System σ)
    (hargs : (x.marshalArguments g params).run.run (s.holdBridge x.runtime) = (.ok args, s₁))
    (hcall : (callGuarded g x.runtime x.callable args).run s₁ = (.error fault, u)) :
    Goes g x params type s (.ok none) u (some fault)

/-- The relays when an invocation has captured its fault. -/
def System.logWith (u : System σ) (x : Closure) : Option Fault → RelayLog
  | none => u.relayLog
  | some fault =>
    let id := (u.bridge x.runtime).relay
    let captured := (u.relay id).capture fault x.origin x.runtime
    u.relayLog.change id (fun _ => captured.2.2) (captured.2.1.toList.map .queueFull)

/-! ## When closures are invoked -/

/-- The states in which closures are invoked: outside code calls a closure, or
an emission that it starts has come to it. Outside code is also what runs
inside callables and handlers, so this is every depth. What a call or an
emission prepares is nothing that relays have to do with. -/
inductive Closure.Invoked (g : Guest (Outside τ)) (x : Closure) :
    List TypedValue → Option TypeId → World τ → Prop where
  | called {s t : World τ} (h : s.Reached .any) (haside : Aside s t) (params : List TypedValue)
    (type : Option TypeId) : Invoked g x params type t
  | emitted {s t : World τ} (h : s.Reached .any) (haside : Aside s t) (o : ObjectId)
    (signal : String) (args : List NativeValue) (emission : Heap.Emission Subscriber) (s₁ : World τ)
    (hbegin : (changeHeap (·.beginEmission o signal args)).run.run t = (.ok emission, s₁))
    (before after : List Subscriber) (hplace : emission.closures = before ++ .closure x :: after)
    (result : Option TypedValue) (s₂ : World τ)
    (hbefore : (deliver g emission.params emission.returnType none before).run.run
      (emission.closures.foldl System.holdSubscriber s₁) = (.ok result, s₂)) :
    Invoked g x emission.params emission.returnType s₂

/-- An emission that got to a closure invokes it, and then goes on. -/
theorem deliver_closure (g : Guest σ) (params : List TypedValue) (type : Option TypeId)
    (x : Closure) (before after : List Subscriber) {result given : Option TypedValue}
    {s t : System σ} (hbefore : (deliver g params type given before).run.run s = (.ok result, t)) :
    (deliver g params type given (before ++ .closure x :: after)).run.run s =
      (x.invoke g params type >>= fun value => deliver g params type value after).run.run t := by
  induction before generalizing given s with
  | nil =>
    obtain ⟨-, rfl⟩ := Prod.mk.inj hbefore
    rfl
  | cons first rest ih =>
    rcases hfirst : (first.invoke g params type).run.run s with ⟨e | value, u⟩
    · rw [deliver, run_bind_of_error _ hfirst] at hbefore
      exact absurd (Prod.mk.inj hbefore).1 (by simp)
    · rw [deliver, run_bind_of_ok _ hfirst] at hbefore
      rw [List.cons_append, deliver, run_bind_of_ok _ hfirst]
      exact ih hbefore

/-- The relays are in order whenever a closure is invoked. -/
theorem Closure.Invoked.chronicled {g : Guest (Outside τ)} (hg : g.Follows Advances) {x : Closure}
    {params : List TypedValue} {type : Option TypeId} {s : World τ}
    (h : x.Invoked g params type s) : s.Chronicled noFault := by
  have hR := Advances.isCourse (τ := τ)
  cases h with
  | called h haside params type => exact (Advances.aside haside h.chronicled).1
  | @emitted s t h haside o signal args emission s₁ hbegin before after hplace result s₂ hbefore =>
    have hbegin' : Attempts Advances (changeHeap (·.beginEmission o signal args)) :=
      changeHeap_attempts hR fun hdone => ⟨_, .beginEmission hdone⟩
    have hbegun := hbegin' t
    have hheld := keepAll_course hR s₁ (emission.closures.flatMap Subscriber.releases)
    have hdelivered := deliver_attempts Advances.isVoyage hg emission.params emission.returnType
      none before (emission.closures.foldl System.holdSubscriber s₁)
    rw [hbegin] at hbegun
    rw [← s₁.holdSubscribers_eq_keep] at hheld
    rw [hbefore] at hdelivered
    have hall := hR.trans (.aside haside) (hR.trans hbegun (hR.trans hheld hdelivered))
    exact (hall h.chronicled).1

/-! ## Running an invocation -/

theorem run_liftM (s : System σ) (a : Action σ α) :
    (liftM a : Attempt σ α).run.run s = (.ok (a.run s).1, (a.run s).2) := rfl

theorem run_checkContext (s : System σ) (r : RuntimeId) :
    (checkContext r).run.run s =
      (if s.mayRun r then .ok () else .error (.wrongContext r s.currentRuntime), s) := by
  unfold checkContext
  rw [run_get_bind]
  cases s.mayRun r <;> rfl

/-- The relay of a bridge, as the log has it. -/
theorem relay_bridge (s : System σ) (r : RuntimeId) :
    (s.bridge r).relay = (s.relayLog.home r.number).getD (default : Bridge).relay := by
  unfold System.bridge System.relayLog
  dsimp only
  cases s.bridges.get? r.number <;> rfl

theorem logWith_congr {s t : System σ} (hlog : t.relayLog = s.relayLog) (x : Closure)
    (own : Option Fault) : t.logWith x own = s.logWith x own := by
  cases own with
  | none => exact hlog
  | some fault =>
    have hid : (t.bridge x.runtime).relay = (s.bridge x.runtime).relay := by
      rw [relay_bridge, relay_bridge, hlog]
    have hrelay : ∀ id, t.relay id = s.relay id := by
      intro id
      rw [← RelayLog.relay_relayLog, hlog, RelayLog.relay_relayLog]
    simp only [System.logWith, hid, hrelay, hlog]

theorem Closure.run_goes (g : Guest σ) (x : Closure) (params : List TypedValue)
    (type : Option TypeId) (s : System σ) (halive : s.isBridgeAlive x.runtime = true) :
    let done := (x.run g params type).run.run (s.holdBridge x.runtime)
    ∃ u own, x.Goes g params type s done.1 u own ∧ done.2.relayLog = u.logWith x own := by
  unfold Closure.run
  dsimp only
  -- the run is taken apart at the places where it can end
  cases hplace : (s.holdBridge x.runtime).mayRun x.runtime with
  | false =>
    have hcheck := run_checkContext (s.holdBridge x.runtime) x.runtime
    rw [hplace] at hcheck
    rw [run_bind_of_error _ hcheck]
    exact ⟨_, none, .elsewhere halive hplace, rfl⟩
  | true =>
    have hcheck := run_checkContext (s.holdBridge x.runtime) x.runtime
    rw [hplace] at hcheck
    rw [run_bind_of_ok _ hcheck]
    rcases hargs : (x.marshalArguments g params).run.run (s.holdBridge x.runtime) with
      ⟨e | args, s₁⟩
    · rw [run_bind_of_error _ hargs]
      exact ⟨_, none, .refused halive hplace e s₁ hargs, rfl⟩
    · rw [run_bind_of_ok _ hargs]
      rcases hcall : (callGuarded g x.runtime x.callable args).run s₁ with ⟨outcome, s₂⟩
      have hlifted := run_liftM s₁ (callGuarded g x.runtime x.callable args)
      rw [hcall] at hlifted
      rw [run_bind_of_ok _ hlifted, run_modify_bind]
      cases outcome with
      | ok value =>
        refine ⟨((x.convertResult g value type).run.run (s₂.releaseHandles args)).2, none, ?_, ?_⟩
        · exact .returned halive hplace args value _ s₁ s₂ _ hargs hcall rfl
        · exact System.relayLog_release _ _
      | error fault =>
        refine ⟨s₂, some fault, .failed halive hplace args fault s₁ s₂ hargs hcall, ?_⟩
        rw [← logWith_congr (s₂.relayLog_release _) x (some fault)]
        exact relayLog_captureFault (s₂.releaseHandles args) _ fault x.origin x.runtime

/-- Every invocation goes one of these ways. -/
theorem Closure.invoke_goes (g : Guest σ) (x : Closure) (params : List TypedValue)
    (type : Option TypeId) (s : System σ) :
    let done := (x.invoke g params type).run.run s
    ∃ u own, x.Goes g params type s done.1 u own ∧ done.2.relayLog = u.logWith x own := by
  unfold Closure.invoke
  dsimp only
  rw [run_get_bind]
  cases halive : s.isBridgeAlive x.runtime with
  | false => exact ⟨s, none, .gone halive, rfl⟩
  | true =>
    obtain ⟨u, own, hgoes, hlog⟩ := Closure.run_goes g x params type s halive
    exact ⟨u, own, hgoes, (System.relayLog_release _ _).trans hlog⟩

/-! ## What others capture meanwhile -/

theorem Closure.Goes.advances {g : Guest (Outside τ)} (hg : g.Follows Advances) {x : Closure}
    {params : List TypedValue} {type : Option TypeId} {s u : World τ}
    {answer : Except BridgeError (Option TypedValue)} {own : Option Fault}
    (h : x.Goes g params type s answer u own) : Advances s u := by
  have hR := Advances.isCourse (τ := τ)
  have hheld : Advances s (s.holdBridge x.runtime) :=
    hR.quiet (.holdBridge s x.runtime)
  have hs := Advances.isVoyage.serves hg x.runtime
  have harguments := marshalArguments_attempts hR (fun m _ => hs.marshalArgument m) params
    (s.holdBridge x.runtime)
  have hcalled : ∀ args t, Advances t ((callGuarded g x.runtime x.callable args).run t).2 :=
    fun args => hs.call x.callable args
  cases h with
  | gone halive => exact hR.refl s
  | elsewhere halive hplace => exact hheld
  | refused halive hplace e u hargs =>
    rw [hargs] at harguments
    exact hR.trans hheld harguments
  | returned halive hplace args value answer s₁ s₂ u hargs hcall hresult =>
    have hcall' := hcalled args s₁
    have hconverted := convertResult_attempts hR (fun m _ => hs.marshalResult m) value type
      (s₂.releaseHandles args)
    rw [hargs] at harguments
    rw [hcall] at hcall'
    rw [hresult] at hconverted
    have hreleased := release_course hR s₂ (args.flatMap Handle.releases)
    exact hR.trans (hR.trans hheld harguments) (hR.trans hcall' (hR.trans hreleased hconverted))
  | failed halive hplace args fault s₁ u hargs hcall =>
    have hcall' := hcalled args s₁
    rw [hargs] at harguments
    rw [hcall] at hcall'
    exact hR.trans (hR.trans hheld harguments) hcall'

/-! ## What the library captures meanwhile -/

/-- The relays are as they were, with what they reported. -/
def KeepsRelays (s t : System σ) : Prop := t.relayLog = s.relayLog

/-- What the library does by itself captures nothing. -/
theorem keepsRelays_isCourse : IsCourse (KeepsRelays (σ := Outside τ)) where
  quiet h := h.log
  fallback s r type package := s.relayLog_noteFallback r type package
  heap _ := rfl
  trans h h' := h'.trans h

/-- The marshaller of a closure, if it has one, captures nothing. -/
structure Closure.MarshalsQuietly (g : Guest (Outside τ)) (x : Closure) : Prop where
  argument : ∀ m, x.marshaller = some m →
    ∀ i v, Attempts KeepsRelays (g.marshalArgument m x.runtime i v)
  result : ∀ m, x.marshaller = some m →
    ∀ value type, Attempts KeepsRelays (g.marshalResult m x.runtime value type)

/-- Faults are captured only while the callable runs, if it is called at all. -/
structure Closure.CapturesInCall (g : Guest σ) (x : Closure) (s u called back : System σ) :
    Prop where
  before : called.relayLog = s.relayLog
  during : back = called ∨ ∃ args, back = ((callGuarded g x.runtime x.callable args).run called).2
  after : u.relayLog = back.relayLog

/-- Neither the conversion of the arguments nor that of the result captures
anything. -/
theorem Closure.Goes.capturesInCall {g : Guest (Outside τ)} {x : Closure}
    (hquiet : x.MarshalsQuietly g) {params : List TypedValue} {type : Option TypeId}
    {s u : World τ} {answer : Except BridgeError (Option TypedValue)} {own : Option Fault}
    (h : x.Goes g params type s answer u own) : ∃ called back, x.CapturesInCall g s u called back := by
  have hR := keepsRelays_isCourse (τ := τ)
  have hheld : KeepsRelays s (s.holdBridge x.runtime) := hR.quiet (.holdBridge s x.runtime)
  have harguments := marshalArguments_attempts hR hquiet.argument params (s.holdBridge x.runtime)
  cases h with
  | gone halive => exact ⟨s, s, rfl, .inl rfl, rfl⟩
  | elsewhere halive hplace => exact ⟨s, s, rfl, .inl rfl, hheld⟩
  | refused halive hplace e u hargs =>
    rw [hargs] at harguments
    exact ⟨s, s, rfl, .inl rfl, hR.trans hheld harguments⟩
  | returned halive hplace args value answer s₁ s₂ u hargs hcall hresult =>
    have hconverted := convertResult_attempts hR hquiet.result value type (s₂.releaseHandles args)
    rw [hargs] at harguments
    rw [hresult] at hconverted
    have hreleased := release_course hR s₂ (args.flatMap Handle.releases)
    exact ⟨s₁, s₂, hR.trans hheld harguments, .inr ⟨args, by rw [hcall]⟩,
      hR.trans hreleased hconverted⟩
  | failed halive hplace args fault s₁ u hargs hcall =>
    rw [hargs] at harguments
    exact ⟨s₁, u, hR.trans hheld harguments, .inr ⟨args, by rw [hcall]⟩, rfl⟩

/-! ## The law -/

/-- A fault as an invocation captures it, when this many were captured
before. -/
def Closure.seal (x : Closure) (fault : Fault) (count : Nat) : CapturedFault :=
  ⟨fault, x.origin, x.runtime, UInt64.ofNat count⟩

/-- The captures of a relay when an invocation has captured its fault. -/
theorem captures_logWith {u : World τ} (hu : u.Chronicled noFault) (x : Closure)
    (own : Option Fault) {id : RelayId} (hknown : id.number < u.relays.size) :
    captures ((u.logWith x own).relay id).history = captures (u.relay id).history ++
      if id = (u.bridge x.runtime).relay then
        own.toList.map fun fault => x.seal fault (captures (u.relay id).history).length
      else [] := by
  cases own with
  | none => simp [System.logWith, RelayLog.relay_relayLog]
  | some fault =>
    unfold System.logWith
    dsimp only
    by_cases hid : id = (u.bridge x.runtime).relay
    · have hnext : (u.relay id).nextSequence = _ := (hu.now.sound id).queue.next
      subst hid
      rw [if_pos rfl, RelayLog.relay_change_self hknown, Relay.captures_capture]
      unfold Relay.sealed Closure.seal
      rw [hnext]
      rfl
    · rw [if_neg hid, RelayLog.relay_change_ne hid, List.append_nil, RelayLog.relay_relayLog]

/-- The bridge of an invocation has the relay that it had. -/
theorem Closure.Goes.relay_eq {g : Guest σ} {x : Closure} {params : List TypedValue}
    {type : Option TypeId} {s u : System σ} {answer : Except BridgeError (Option TypedValue)}
    {own : Option Fault} (h : x.Goes g params type s answer u own)
    (hlater : s.relayLog.Later noFault u.relayLog) :
    (u.bridge x.runtime).relay = (s.bridge x.runtime).relay := by
  cases hbridge : s.bridges.get? x.runtime.number with
  | some b =>
    have hhome : s.relayLog.home x.runtime.number = some b.relay := by
      simp [System.relayLog, hbridge]
    rw [relay_bridge, relay_bridge, hhome, hlater.home _ _ hhome]
  | none =>
    have hgone : s.isBridgeAlive x.runtime = false := by
      by_contra halive
      rw [Bool.not_eq_false, System.isBridgeAlive, bne_iff_ne] at halive
      obtain ⟨b, hb⟩ := SharedTable.get?_of_holders halive
      rw [hbridge] at hb
      exact absurd hb (by simp)
    cases h with
    | gone halive => rfl
    | elsewhere halive => exact absurd halive (by simp [hgone])
    | refused halive => exact absurd halive (by simp [hgone])
    | returned halive => exact absurd halive (by simp [hgone])
    | failed halive => exact absurd halive (by simp [hgone])

/-- An invocation that captures a fault gives native code no value. -/
theorem Closure.Goes.answer_eq {g : Guest σ} {x : Closure} {params : List TypedValue}
    {type : Option TypeId} {s u : System σ} {answer : Except BridgeError (Option TypedValue)}
    {own : Option Fault} (h : x.Goes g params type s answer u own) (hown : own ≠ none) :
    answer = .ok none := by
  cases h with
  | failed => rfl
  | _ => exact absurd rfl hown

/-- An invocation whose callable fails gives native code no value, and
captures that fault, with its origin and its runtime, in the relay of its
bridge; no other invocation captures anything of its own. What others capture
meanwhile comes before, and they capture it in the callable, if not in a
marshaller. Sequence numbers go up with the captures, as long as they fit. -/
theorem failure_containment {g : Guest (Outside τ)} (hg : g.IsOutside .any) {x : Closure}
    {params : List TypedValue} {type : Option TypeId} {s : World τ}
    (h : x.Invoked g params type s) :
    let done := (x.invoke g params type).run.run s
    (∃ u own, x.Goes g params type s done.1 u own ∧ (own ≠ none → done.1 = .ok none) ∧
      (∀ id : RelayId, id.number < u.relays.size →
        captures (s.relay id).history <+: captures (u.relay id).history ∧
        captures (done.2.relay id).history = captures (u.relay id).history ++
          if id = (s.bridge x.runtime).relay then
            own.toList.map fun fault => x.seal fault (captures (u.relay id).history).length
          else []) ∧
      (x.MarshalsQuietly g → ∃ called back, x.CapturesInCall g s u called back)) ∧
    ∀ id, (captures (done.2.relay id).history).length < 2 ^ 64 →
      (captures (done.2.relay id).history).Pairwise fun c d => c.sequence < d.sequence := by
  intro done
  have hs := h.chronicled hg.advances
  obtain ⟨u, own, hgoes, hlog⟩ := Closure.invoke_goes g x params type s
  obtain ⟨hu, hlater⟩ := hgoes.advances hg.advances hs
  refine ⟨⟨u, own, hgoes, ?_, ?_, fun hquiet => hgoes.capturesInCall hquiet⟩, ?_⟩
  · exact hgoes.answer_eq
  · intro id hknown
    refine ⟨told_of_suffix _ (hlater.grows id).suffix, ?_⟩
    rw [← RelayLog.relay_relayLog, hlog, captures_logWith hu x own hknown, hgoes.relay_eq hlater]
  · intro id hfew
    have hinvoked := invoke_attempts Advances.isCourse
      (Advances.isVoyage.serves hg.advances x.runtime) params type
    obtain ⟨hdone, -⟩ := hinvoked s hs
    exact (hdone.now.sound id).queue.captures_increasing hfew

namespace Sample

/-- Code whose callables fail. -/
def failing : Guest (Outside Unit) :=
  { patient (Outside Unit) with call := fun _ _ => return .error (.ofMessage "broken") }

theorem failing_isOutside (c : Conduct) : failing.IsOutside c where
  call _ _ x := .rest x
  native _ _ _ x := .rest x
  sink _ _ x := .rest x
  takeFault _ _ x := .rest x
  marshalArgument _ _ _ _ x := .rest x
  marshalResult _ _ _ _ x := .rest x

/-- What makes the small run ready for a call: a callable, and then a
closure of it. -/
def callableMade : World Unit := carryOut (.idle _) [.newCallable] world

def closureMade : Deed Unit := .newClosure bridge ⟨0⟩ none false none (some "Ui::Node::changed")

def armed : World Unit := ((closureMade.perform (.idle _)).run callableMade).2

theorem armed_reached (c : Conduct) : armed.Reached c := by
  have hmade : Moves c world callableMade := Moves.carryOut Guest.idle_isOutside rfl _
  have hheld : callableMade.callables.holders 0 ≠ 0 := by decide +kernel
  have hallowed : closureMade.Allowed c callableMade := by
    refine ⟨?_, fun _ => trivial⟩
    intro t ht
    rw [List.mem_singleton.mp ht]
    exact ⟨trivial, trivial, hheld⟩
  have hmoves := (moves_world c).trans (hmade.trans (Moves.deed Guest.idle_isOutside hallowed))
  exact hmoves.reached

def closure : Closure := ⟨⟨0⟩, ⟨0⟩, none, false, bridge, none, "Ui::Node::changed"⟩

def arguments : List TypedValue := [⟨type, .object object⟩]

theorem closure_marshalsQuietly : closure.MarshalsQuietly failing where
  argument _ h := nomatch h
  result _ h := nomatch h

end Sample

/-- The object of the small run is shown to the callable, which fails. -/
theorem sample_failure_containment :
    let done := (Sample.closure.invoke Sample.failing Sample.arguments (some Sample.type)).run.run
      Sample.armed
    let captured := Sample.closure.seal (.ofMessage "broken") 0
    Sample.armed.closures.get? 0 = some Sample.closure ∧
      done.1 = .ok none ∧ captures (done.2.relay ⟨0⟩).history = [captured] ∧
      ∃ u own, Sample.closure.Goes Sample.failing Sample.arguments (some Sample.type) Sample.armed
        done.1 u own ∧ (own ≠ none → done.1 = .ok none) ∧
        ∃ called back, Sample.closure.CapturesInCall Sample.failing Sample.armed u called back := by
  have hinvoked : Sample.closure.Invoked Sample.failing Sample.arguments (some Sample.type)
      Sample.armed :=
    .called (Sample.armed_reached .any) ⟨rfl, rfl⟩ _ _
  obtain ⟨⟨u, own, hgoes, hnone, -, hcall⟩, -⟩ :=
    failure_containment (Sample.failing_isOutside .any) hinvoked
  exact ⟨rfl, rfl, by decide +kernel, u, own, hgoes, hnone, hcall Sample.closure_marshalsQuietly⟩

end NativeBridge
