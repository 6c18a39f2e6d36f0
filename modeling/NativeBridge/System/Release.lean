-- Releasing. The end of a last holder may end other holders: a wrapper
-- gives its reference back, a finalized object drops its handlers, a
-- handler drops its closure, and a closure its data. What waits is a
-- stack, so that everything below one release is done before the next.
import NativeBridge.System.Basic

namespace NativeBridge

/-- One reference or holder that ends. -/
inductive Release where
  /-- The reference that a wrapper gives back. -/
  | object (o : ObjectId)
  /-- The reference that an arena took for itself. -/
  | defensive (o : ObjectId)
  | wrapper (w : ObjectWrapper)
  | boxed (w : BoxedWrapper)
  | callable (c : Callable)
  | closure (c : Closure)
  | callback (c : Callback)
  | bridge (r : RuntimeId)

/-! ## What ends with what -/

def Handle.releases : Handle → List Release
  | .object w => [.wrapper w]
  | .boxed w => [.boxed w]
  | .callable c => [.callable c]
  | _ => []

/-- The callable first, then the data. -/
def Closure.releases (c : Closure) : List Release :=
  .callable c.callable :: (c.data.map Handle.releases).getD []

/-- The callable first, then the data. -/
def Callback.releases (c : Callback) : List Release :=
  .callable c.callable :: (c.data.map Handle.releases).getD []

def Subscriber.releases : Subscriber → List Release
  | .closure c => [.closure c]
  | .native _ => []

/-- The handlers of a finalized object, in the order of connection. -/
def handlerReleases (handlers : List (Connection Subscriber)) : List Release :=
  handlers.flatMap (·.closure.releases)

/-- A borrowed wrapper without handles, and then the reference that was
taken for it. -/
def idleReleases (w : ObjectWrapper) : List Release := [.wrapper w, .defensive w.object]

namespace System

variable {σ : Type}

/-- Gives a reference back; `report` says what a failure is reported as. -/
def releaseReference (s : System σ) (o : ObjectId) (report : ObjectId → NativeError → Notice) :
    List Release × System σ :=
  match s.heap.unref o with
  | .ok (handlers, heap) => (handlerReleases handlers, { s with heap })
  | .error e => ([], s.note (report o e))

/-- Lets a wrapper take over a reference, which it gives back at its end. -/
def handOver (t : SharedTable WrapperRecord) (w : ObjectWrapper) : SharedTable WrapperRecord :=
  t.modify w.number fun entry => { entry with releases := true }

/-- Whether the end of a wrapper gives a reference back. -/
def givesBack (s : System σ) (w : ObjectWrapper) : Bool :=
  match s.wrappers.get? w.number with
  | some entry => entry.releases
  | none => false

/-- The end of a bridge. Wrappers that handles still hold take over the
reference of the arena; the others are released at once. -/
def releaseBridge (s : System σ) (r : RuntimeId) : List Release × System σ :=
  let borrowed := (s.bridge r).arena.borrowed
  let (kept, idle) := borrowed.partition fun w => 1 < s.wrappers.holders w.number
  let wrappers := kept.foldl handOver s.wrappers
  let s := { s with wrappers }.modifyBridge r fun b => { b with arena := {} }
  (idle.flatMap idleReleases ++ kept.map .wrapper, s)

/-- Carries out one release, and gives the releases that follow from it. -/
def releaseOne (s : System σ) : Release → List Release × System σ
  | .object o => s.releaseReference o .releaseFailed
  | .defensive o => s.releaseReference o .defensiveReleaseFailed
  | .wrapper w =>
    let last := s.wrappers.holders w.number == 1
    let releases := s.givesBack w
    let s := { s with wrappers := s.wrappers.drop w.number }
    if last && releases then ([.object w.object], s) else ([], s)
  | .boxed w =>
    let last := s.boxes.holders w.number == 1
    let hook := s.boxes.get? w.number >>= (·.hook?)
    let s := { s with boxes := s.boxes.dropWith w.number BoxRecord.finish }
    match last, hook with
    | true, some strategy => ([], s.announce strategy .destroy w.block)
    | _, _ => ([], s)
  -- Handles that the callable captured are the dynamic program's, and end
  -- when the program drops them.
  | .callable c => ([], { s with callables := s.callables.drop c.number })
  | .closure c =>
    let last := s.closures.holders c.id.number == 1
    let s := { s with closures := s.closures.drop c.id.number }
    if last then (c.releases, s) else ([], s)
  | .callback c =>
    let last := s.callbacks.holders c.number == 1
    let s := { s with callbacks := s.callbacks.drop c.number }
    if last then (c.releases, s) else ([], s)
  | .bridge r =>
    let last := s.bridges.holders r.number == 1
    let s := { s with bridges := s.bridges.drop r.number }
    if last then s.releaseBridge r else ([], s)

/-- The end of a holder of a box changes the box, and may report that it was
destroyed. -/
theorem releaseOne_boxed (s : System σ) (w : BoxedWrapper) : ∃ told : List Notice,
    (∀ n ∈ told, ∃ name, n = .boxed .destroy name w.block) ∧
      s.releaseOne (.boxed w) = ([], { s with
        boxes := s.boxes.dropWith w.number BoxRecord.finish
        notices := s.notices ++ told }) := by
  simp only [releaseOne]
  split
  · rename_i strategy _ _
    unfold announce
    split
    · rename_i name _
      exact ⟨[.boxed .destroy name w.block], fun n hn => ⟨name, by simpa using hn⟩, rfl⟩
    · exact ⟨[], by simp, by simp⟩
  · exact ⟨[], by simp, by simp⟩

/-- Carries out releases and all that follows from them, depth first, in
at most a given number of steps. -/
def settle : Nat → List Release → System σ → System σ
  | 0, [], s => s
  | 0, _ :: _, s => { s with exhausted := true }
  | _ + 1, [], s => s
  | steps + 1, release :: rest, s =>
    let (more, s) := s.releaseOne release
    settle steps (more ++ rest) s

/-- How many releases can follow from others: each handler and each
wrapper ends at most once, each closure and callback ends at most once
with two parts, and each entry of an arena is released in two steps. -/
def releasesLeft (s : System σ) : Nat :=
  weigh Slot.handlerCount s.heap.slots + s.wrappers.total (fun _ => 1) +
    s.closures.total (fun _ => 2) + s.callbacks.total (fun _ => 2) +
    s.bridges.total fun b => 2 * b.arena.size

/-- Carries out releases and all that follows from them. -/
def release (s : System σ) (releases : List Release) : System σ :=
  settle (releases.length + s.releasesLeft) releases s

/-- A handle loses a holder. -/
def releaseHandle (s : System σ) (h : Handle) : System σ := s.release h.releases

/-- Handles lose a holder each, one after another. -/
def releaseHandles (s : System σ) (handles : List Handle) : System σ :=
  s.release (handles.flatMap Handle.releases)

end System

variable {σ : Type}

/-- Gives a reference back for native code, which sees a failure itself. -/
def unrefObject (o : ObjectId) : Attempt σ Unit := do
  let handlers ← changeHeap (·.unref o)
  modify (·.release (handlerReleases handlers))

end NativeBridge
