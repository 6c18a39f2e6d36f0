-- What the calls on native objects and signals do. A call is refused by the
-- heap and changes nothing, or it makes its change, and what that frees is
-- released at once.
import NativeBridge.Invocation.Signal
import NativeBridge.Proofs.Wrapping

namespace NativeBridge

variable {σ : Type} (s : System σ) {o : ObjectId} {heap : Heap Subscriber} {e : NativeError}

/-! ## References -/

theorem run_unrefObject_error (hd : s.heap.unref o = .error e) :
    (unrefObject o).run.run s = (.error (.native e), s) :=
  run_bind_of_error s (run_changeHeap_error s hd)

theorem run_unrefObject_ok {handlers : List (Connection Subscriber)}
    (hd : s.heap.unref o = .ok (handlers, heap)) :
    (unrefObject o).run.run s =
      (.ok (), System.release { s with heap } (handlerReleases handlers)) :=
  run_bind_of_ok s (run_changeHeap_ok s hd)

/-! ## Handlers -/

theorem run_disconnectHandler_error {id : HandlerId} (hd : s.heap.disconnect o id = .error e) :
    (disconnectHandler o id).run.run s = (.error (.native e), s) :=
  run_bind_of_error s (run_changeHeap_error s hd)

theorem run_disconnectHandler_ok {id : HandlerId} {connection : Connection Subscriber}
    (hd : s.heap.disconnect o id = .ok (connection, heap)) :
    (disconnectHandler o id).run.run s =
      (.ok (), System.release { s with heap } connection.closure.releases) :=
  run_bind_of_ok s (run_changeHeap_ok s hd)

/-- Disconnecting a signal is refused for a handle of no object. Else the
handler goes from the object. -/
theorem disconnectSignal_cases (h : Handle) (id : HandlerId) :
    (∃ e, disconnectSignal (σ := σ) h id = throw e) ∨
      ∃ o, disconnectSignal (σ := σ) h id = disconnectHandler o id := by
  unfold disconnectSignal signalTarget
  split
  · exact Or.inr ⟨_, pure_bind _ _⟩
  · exact Or.inl ⟨_, rfl⟩

section

variable (r : RuntimeId) (handle : Handle) (signal : String) (callable : Callable)
  (data : Option Handle) (after swapped : Bool)

/-- The closure of a connection to a signal of an object of this type. -/
def System.closureFor (w : ObjectWrapper) (type : TypeId) : Closure × System σ :=
  s.addClosure r callable data swapped (s.marshallerFor? r type signal)
    (some s!"{w.package}::{signal}")

/-- With a live object behind the handle a closure is made, which the heap
takes, or which goes again. -/
theorem run_connectSignal_of_live {w : ObjectWrapper} {type : TypeId}
    (hobject : handle.object? = some w) (htype : s.heap.typeOf? w.object = some type) :
    let made := s.closureFor r signal callable data swapped w type
    (connectSignal r handle signal callable data after swapped).run.run s =
      match made.2.heap.connect w.object signal (.closure made.1) after with
      | .ok (id, heap) => (.ok id, { made.2 with heap })
      | .error e => (.error (.native e), made.2.release [.closure made.1]) := by
  unfold connectSignal signalTarget System.closureFor
  rw [hobject, pure_bind, run_get_bind, htype]
  dsimp only
  generalize s.addClosure r callable data swapped (s.marshallerFor? r type signal)
    (some s!"{w.package}::{signal}") = made
  rcases made.2.heap.connect w.object signal (.closure made.1) after with e | ⟨id, heap⟩ <;> rfl

/-- Without one, connecting is refused before anything is made. -/
theorem run_connectSignal_cases :
    let done := (connectSignal r handle signal callable data after swapped).run.run s
    (∃ e, done = (.error e, s)) ∨
      ∃ w type, handle.object? = some w ∧ s.heap.typeOf? w.object = some type ∧
        let made := s.closureFor r signal callable data swapped w type
        let taken := made.2.heap.connect w.object signal (.closure made.1) after
        (∃ e, taken = .error e ∧
            done = (.error (.native e), made.2.release [.closure made.1])) ∨
          ∃ id heap, taken = .ok (id, heap) ∧ done = (.ok id, { made.2 with heap }) := by
  cases hobject : handle.object? with
  | none =>
    left
    unfold connectSignal signalTarget
    rw [hobject]
    exact ⟨_, rfl⟩
  | some w =>
    cases htype : s.heap.typeOf? w.object with
    | none =>
      left
      unfold connectSignal signalTarget
      rw [hobject, pure_bind, run_get_bind, htype]
      exact ⟨_, rfl⟩
    | some type =>
      refine Or.inr ⟨w, type, rfl, htype, ?_⟩
      rw [run_connectSignal_of_live s r handle signal callable data after swapped hobject htype]
      dsimp only
      rcases (s.closureFor r signal callable data swapped w type).2.heap.connect w.object signal
        (.closure (s.closureFor r signal callable data swapped w type).1) after with
        e | ⟨id, heap⟩
      · exact Or.inl ⟨e, rfl, rfl⟩
      · exact Or.inr ⟨id, heap, rfl, rfl⟩

end

/-! ## Emissions -/

section

variable (g : Guest σ) {signal : String} {args : List NativeValue}

/-- An emission that cannot start invokes nothing. -/
theorem run_emit_of_error (he : s.heap.beginEmission o signal args = .error e) :
    (emit g o signal args).run.run s = (.error (.native e), s) :=
  run_bind_of_error s (run_changeHeap_error s he)

/-- An emission that starts calls its subscribers while it holds them, and
then gives back what it holds. -/
theorem run_emit_of_ok {emission : Heap.Emission Subscriber}
    (he : s.heap.beginEmission o signal args = .ok (emission, heap)) :
    let delivered := (deliver g emission.params emission.returnType none emission.closures).run.run
      (emission.closures.foldl System.holdSubscriber { s with heap })
    (emit g o signal args).run.run s = (unrefObject o >>= fun _ => endIn delivered.1).run.run
      (delivered.2.release (emission.closures.flatMap Subscriber.releases)) := by
  unfold emit
  rw [run_bind_of_ok _ (run_changeHeap_ok s he), run_modify_bind,
    run_bind_of_ok _ (run_outcomeOf _ _), run_modify_bind]

/-- The state after such an emission. -/
theorem state_emit_of_ok {emission : Heap.Emission Subscriber}
    (he : s.heap.beginEmission o signal args = .ok (emission, heap)) :
    let delivered := (deliver g emission.params emission.returnType none emission.closures).run.run
      (emission.closures.foldl System.holdSubscriber { s with heap })
    ((emit g o signal args).run.run s).2 = ((unrefObject o).run.run
      (delivered.2.release (emission.closures.flatMap Subscriber.releases))).2 := by
  intro delivered
  rw [run_emit_of_ok s g he, run_bind_endIn]

end

end NativeBridge
