-- Closure references are released exactly once. The holders of a closure are
-- the handlers of live objects, the snapshots of emissions in progress, and
-- what creators and others keep; when the last one goes the closure ends, and
-- whatever follows from its end comes to an end itself.
import NativeBridge.Proofs.ClosureLifetimes
import NativeBridge.Proofs.ClosurePlays

namespace NativeBridge

variable {σ : Type}

/-! ## Holders -/

/-- The holders of the closure with this number: the handlers of live objects,
the snapshots of emissions in progress, what others keep, and what is on its
way out. -/
def Stage.holdersOf (a : Stage σ) (n : Nat) : Nat :=
  tally (.closure n) (a.system.heap.slots.flatMap Slot.pledge : List Release) +
    tally (.closure n) a.snapped + tally (.closure n) a.kept + tally (.closure n) a.due

/-- The callable and the data of something are no closures. -/
theorem account_of_mem_parts {callable : Callable} {data : Option Handle} {t : Release}
    (ht : t ∈ Release.callable callable :: dataReleases data) (n : Nat) :
    t.account ≠ .closure n := by
  rcases List.mem_cons.mp ht with rfl | ht
  · exact Account.noConfusion
  · cases data with
    | none => exact absurd ht List.not_mem_nil
    | some handle =>
      cases handle <;> simp only [dataReleases, Option.map_some, Option.getD_some, Handle.releases,
        List.mem_singleton, List.not_mem_nil] at ht <;> subst ht <;> exact Account.noConfusion

/-- Only handlers pledge holders of closures. -/
theorem tally_closure_pledged (b : Books) (n : Nat) :
    tally (.closure n) b.pledged =
      tally (.closure n) (b.heap.slots.flatMap Slot.pledge : List Release) := by
  have hnone : ∀ {α : Type} (table : SharedTable α) (pledge : α → List Release),
      (∀ x, ∀ t ∈ pledge x, t.account ≠ .closure n) →
        tally (.closure n) (table.pledges pledge) = 0 := by
    intro α table pledge h
    apply Multiset.countP_eq_zero.mpr
    intro t ht
    obtain ⟨_, x, -, -, hx⟩ := SharedTable.mem_pledges.mp ht
    exact h x t hx
  have harenas : tally (.closure n) (b.arenas.pledges Arena.pledge) = 0 := by
    apply hnone
    intro a t ht
    obtain ⟨w, -, hw⟩ := List.mem_flatMap.mp ht
    rcases List.mem_cons.mp hw with rfl | hw
    · exact Account.noConfusion
    · rw [List.mem_singleton.mp hw]
      exact Account.noConfusion
  simp only [Books.pledged, tally_add, tally_wrapper_pledges (a := .closure n) trivial, harenas,
    hnone b.closures Closure.releases fun x t ht => account_of_mem_parts ht n,
    hnone b.callbacks Callback.releases fun x t ht => account_of_mem_parts ht n, Nat.add_zero]

namespace Stage

variable {a : Stage σ}

theorem Sound.counted (h : a.Sound) {account : Account} (hs : account.IsShared) :
    a.system.books.holders account =
      tally account (a.due + (a.kept + a.snapped + a.system.books.pledged)) :=
  h.balanced.counts.counted account hs

/-- The count of a closure is the number of its holders. -/
theorem Sound.holdersOf (h : a.Sound) (n : Nat) :
    a.system.closures.holders n = a.holdersOf n := by
  have hshared : (Account.closure n).IsShared := trivial
  have hcounted : a.system.closures.holders n =
      tally (.closure n) (a.due + (a.kept + a.snapped + a.system.books.pledged)) :=
    h.counted hshared
  have hheap : a.system.books.heap = a.system.heap := rfl
  rw [hcounted, tally_add, tally_add, tally_add, tally_closure_pledged, hheap]
  unfold Stage.holdersOf
  omega

theorem carry_closure {x : Closure} {rest : List Release} (h : a.due = .closure x :: rest) :
    a.carry.due =
      if a.system.closures.holders x.id.number = 1 then x.releases ++ rest else rest := by
  obtain ⟨s, due, kept, snapshots⟩ := a
  obtain rfl : due = .closure x :: rest := h
  rw [carry_cons]
  simp only [System.releaseOne, beq_iff_eq]
  split <;> rfl

/-! ## Calls that come back -/

/-- A call that is refused, or makes a step and then carries out all that
waits, a bounded number of releases. -/
def Completes (a : Stage σ) (call : Attempt σ Unit) : Prop :=
  (∃ e, call.run.run a.system = (.error e, a.system)) ∨
    ∃ new b, Step a new b ∧ call.run.run a.system = (.ok (), (carry^[b.ahead] b).system) ∧
      (carry^[b.ahead] b).due = []

theorem completes_unref (h : a.due = []) (o : ObjectId) : a.Completes (unrefObject o) := by
  obtain ⟨s, due, kept, snapshots⟩ := a
  obtain rfl : due = [] := h
  rcases hd : s.heap.unref o with e | ⟨handlers, heap⟩
  · exact Or.inl ⟨_, run_unrefObject_error s hd⟩
  · refine Or.inr ⟨_, _, .unref kept snapshots hd, ?_⟩
    rw [iterate_carry (Nat.le_refl _), run_unrefObject_ok s hd]
    exact ⟨rfl, rfl⟩

theorem completes_disconnect (h : a.due = []) (o : ObjectId) (id : HandlerId) :
    a.Completes (disconnectHandler o id) := by
  obtain ⟨s, due, kept, snapshots⟩ := a
  obtain rfl : due = [] := h
  rcases hd : s.heap.disconnect o id with e | ⟨connection, heap⟩
  · exact Or.inl ⟨_, run_disconnectHandler_error s hd⟩
  · refine Or.inr ⟨_, _, .disconnect kept snapshots hd, ?_⟩
    rw [iterate_carry (Nat.le_refl _), run_disconnectHandler_ok s hd]
    exact ⟨rfl, rfl⟩

end Stage

theorem disconnectHandler_isOk_iff (s : System σ) (o : ObjectId) (id : HandlerId) :
    ((disconnectHandler o id).run.run s).1 = .ok () ↔
      ∃ found, s.heap.disconnect o id = .ok found := by
  rcases hd : s.heap.disconnect o id with e | ⟨connection, heap⟩
  · rw [run_disconnectHandler_error s hd]
    simp
  · rw [run_disconnectHandler_ok s hd]
    exact ⟨fun _ => ⟨_, rfl⟩, fun _ => rfl⟩

/-! ## Every run -/

/-- What holds after a run from the beginning, by what happened in it. -/
structure Lifetimes (guest : σ) (es : List Happening) (a : Stage σ) : Prop where
  /-- Closures are numbered in the order in which they are made. -/
  numbered : (madeClosures es).map (·.id.number) = List.range a.system.closures.size
  /-- The count of a closure is the number of its holders. -/
  held : ∀ n, a.system.closures.holders n = a.holdersOf n
  /-- A closure that was made has ended once if it has no holders any more, and
  not at all if it has one. -/
  once : ∀ x, .made x ∈ es →
    es.countP (·.ends x.id.number) = if a.holdersOf x.id.number = 0 then 1 else 0
  made : ∀ x, .ended x ∈ es → .made x ∈ es
  /-- It ends when its last holder goes, and then its callable and its data are
  released at once, before anything else. -/
  ending : ∀ before x after, es = before ++ .ended x :: after → ∃ b d rest,
    Stage.Run (.start guest) before b ∧ Stage.Step b [.ended x] d ∧ Stage.Run d after a ∧
      b.holdersOf x.id.number = 1 ∧ d.holdersOf x.id.number = 0 ∧
      b.due = .closure x :: rest ∧ d.due = x.releases ++ rest
  /-- A holder that goes releases these parts if it is the last one, and nothing
  otherwise. -/
  parting : ∀ x rest, a.due = .closure x :: rest →
    a.carry.due = if a.holdersOf x.id.number = 1 then x.releases ++ rest else rest
  /-- All shared things, callables and data among them, have as many holders as
  there are releases to come. -/
  counted : ∀ account : Account, account.IsShared → a.system.books.holders account =
    tally account (a.due + (a.kept + a.snapped + a.system.books.pledged))
  /-- Each object is finalized at most once, and lives until then. -/
  finalized : a.system.heap.slots.length ≤ 2 ^ 32 → ∀ o,
    (heapEvents es).countP (·.creates o) =
      (heapEvents es).countP (·.finalizes o) + if a.system.heap.isAlive o then 1 else 0
  /-- It is finalized when its count reaches zero, and then its handlers are
  released. -/
  finalizing : ∀ before o after, es = before ++ .heap (.finalized o) :: after →
    ∃ b d object, Stage.Run (.start guest) before b ∧ Stage.Step b [.heap (.finalized o)] d ∧
      Stage.Run d after a ∧ b.system.heap.live? o = some object ∧ object.refs = 1 ∧
      d.system.heap.isAlive o = false ∧ d.due = handlerReleases object.handlers ++ b.due.tail
  /-- No count reaches zero otherwise, as long as none was full. -/
  counting : a.system.heap.full = false → ∀ o, a.system.heap.refCount? o ≠ some 0
  /-- Releases come to an end, and none is cut off. -/
  settles : ∀ n, a.ahead ≤ n → Stage.carry^[n] a = a.settled
  complete : a.settled.system.exhausted = a.system.exhausted
  unref : a.due = [] → ∀ o, a.Completes (unrefObject o)
  disconnect : a.due = [] → ∀ o id, a.Completes (disconnectHandler o id)
  /-- No identifier of a handler comes again. -/
  handlers : (Heap.handlerIds (heapEvents es)).length < 2 ^ 64 →
    (Heap.handlerIds (heapEvents es)).Nodup
  /-- A handler can be disconnected while it is one of that very object. -/
  connected : ∀ o id, ((disconnectHandler o id).run.run a.system).1 = .ok () ↔
    ∃ object, a.system.heap.live? o = some object ∧ id ∈ object.handlers.map (·.id)
  /-- The handlers of an object are those that were connected to it, and not
  disconnected since. -/
  linked : a.system.heap.slots.length ≤ 2 ^ 32 → ∀ o object,
    a.system.heap.live? o = some object → object.handlers = Heap.connectedTo o (heapEvents es)

theorem Stage.Run.lifetimes {guest : σ} {es : List Happening} {a : Stage σ}
    (h : Stage.Run (.start guest) es a) : Lifetimes guest es a := by
  have hsound := h.sound (Stage.start_sound guest)
  have hchronicled := h.chronicled
  have hheap : Heap.Run {} (heapEvents es) a.system.heap := h.heapRun
  have hmade := hchronicled.made_iff
  constructor
  case numbered => exact hchronicled.numbers
  case held => exact hsound.holdersOf
  case once =>
    intro x hx
    have honce := hchronicled.once x.id.number
    rw [if_pos (SharedTable.lt_size_of_get? ((hmade x).mp hx)), hsound.holdersOf] at honce
    split at honce <;> split <;> omega
  case made => exact fun x hx => (hmade x).mpr (hchronicled.ended x hx)
  case ending =>
    intro before x after hes
    obtain ⟨b, d, hbefore, hstep, hafter⟩ := h.split hes
    obtain ⟨rest, hdue, hlast, hnext, hnone⟩ := hstep.ended
    have hb := hbefore.sound (Stage.start_sound guest)
    have hd := hstep.sound hb
    rw [hb.holdersOf] at hlast
    rw [hd.holdersOf] at hnone
    exact ⟨b, d, rest, hbefore, hstep, hafter, hlast, hnone, hdue, hnext⟩
  case parting =>
    intro x rest hdue
    rw [← hsound.holdersOf]
    exact Stage.carry_closure hdue
  case counted => exact fun account hs => hsound.counted hs
  case finalized => exact fun hfits => (hheap.dated hfits).once
  case finalizing =>
    intro before o after hes
    obtain ⟨b, d, hbefore, hstep, hafter⟩ := h.split hes
    obtain ⟨object, hl, hrefs, hdead, hdue⟩ := hstep.finalized
    exact ⟨b, d, object, hbefore, hstep, hafter, hl, hrefs, hdead, hdue⟩
  case counting => exact hheap.refCount_ne_zero
  case settles => exact fun n hn => Stage.iterate_carry hn
  case complete => exact a.system.release_exhausted a.due
  case unref => exact fun hdue o => Stage.completes_unref hdue o
  case disconnect => exact fun hdue o id => Stage.completes_disconnect hdue o id
  case handlers => exact hheap.numbered.nodup
  case connected =>
    intro o id
    rw [disconnectHandler_isOk_iff]
    exact a.system.heap.disconnect_isOk_iff o id
  case linked => exact fun hfits => hheap.linked hfits

/-- Whatever outside code does is a run in small steps, which comes by every
moment that outside code looks at. After every such run closures and objects
have lived as they should: each closure ends once, with its last holder, each
object is finalized once, with its last reference, calls that release come
back, and a handler is disconnected where it is connected. -/
theorem closure_lifetimes :
    (∀ {τ : Type} {c : Conduct} {memory : τ} {t : World τ}, Moves c (World.start memory) t →
      (∃ es, Stage.Run (.start { memory }) es ⟨t, [], t.guest.ledger.held, []⟩) ∧
        ∀ m ∈ t.guest.diary, (Stage.start { memory }).Explains m) ∧
      ∀ {σ : Type} {guest : σ} {es : List Happening} {a : Stage σ},
        Stage.Run (.start guest) es a → Lifetimes guest es a :=
  ⟨fun h => h.run, fun h => h.lifetimes⟩

namespace Sample

/-- The type of the object, with a signal. -/
def signalled : Hierarchy :=
  ({} : Hierarchy).set type
    { name := "Node", parent := none, signals := ⟨[("changed", ⟨[], none⟩)]⟩ }

def listener : Closure :=
  (({ guest := () } : System Unit).addClosure ⟨0⟩ ⟨0⟩ none false none none).1

def silent : Heap Subscriber := { types := signalled, slots := [⟨0, some { type, refs := 1 }⟩] }

/-- The closure is connected to the object. -/
def heard : Heap Subscriber :=
  { types := signalled, lastHandler := 1,
    slots := [⟨0, some ⟨type, 1, [⟨⟨1⟩, "changed", .closure listener, false⟩]⟩⟩] }

def deserted : Heap Subscriber :=
  { types := signalled, lastHandler := 1, slots := [⟨1, none⟩], free := [0], finalized := 1 }

/-- The only holder of a closure goes with its object. -/
def lives : List Happening :=
  [.heap (.created object), .made listener,
    .heap (.connected object ⟨⟨1⟩, "changed", .closure listener, false⟩),
    .heap (.finalized object), .ended listener]

/-- The callable of the closure is yet to be released. -/
def outlived : Stage Unit where
  system :=
    { guest := (), heap := deserted, callables := (({} : SharedTable Unit).add ()).hold 0,
      closures := (({} : SharedTable Closure).add listener).drop 0 }
  due := [.callable ⟨0⟩]
  kept := {.callable ⟨0⟩}

theorem lives_run : Stage.Run (.start ()) lives outlived := by
  let s₀ : System Unit := { guest := (), heap := { types := signalled } }
  let s₁ : System Unit := { s₀ with heap := silent }
  let s₂ : System Unit := s₁.addCallable.2
  let s₃ : System Unit := (s₂.addClosure ⟨0⟩ ⟨0⟩ none false none none).2
  let s₄ : System Unit := { s₃ with heap := heard }
  let s₅ : System Unit := { s₃ with heap := deserted }
  have hdefined : (TypeChange.define "Node" none).apply {} = .ok nodes.types := rfl
  have hsignalled : (TypeChange.defineSignal type "changed" ⟨[], none⟩).apply nodes.types =
      .ok signalled := rfl
  have hmade : s₀.heap.instantiate type = .ok (object, silent) := rfl
  have hconnected : s₃.heap.connect object "changed" (.closure listener) false =
      .ok (⟨1⟩, heard) := rfl
  have hunref : s₄.heap.unref object =
      .ok ([⟨⟨1⟩, "changed", .closure listener, false⟩], deserted) := rfl
  have hused : ∀ u ∈ Release.callable ⟨0⟩ :: dataReleases none, s₂.InUse u := by
    intro u hu
    rw [List.mem_singleton.mp hu]
    exact ⟨trivial, trivial, Nat.one_ne_zero⟩
  have htypes : Stage.Run (.start ()) [] ⟨s₀, [], 0, []⟩ := by
    have hfirst := (Stage.Run.rest (a := .start ())).step (.work (.types _ _ hdefined))
    exact hfirst.step (.work (.types _ _ hsignalled))
  have hclosure : Stage.Run (.start ()) [.heap (.created object), .made listener]
      ⟨s₃, [], (Subscriber.closure listener).releases + {.callable ⟨0⟩}, []⟩ :=
    ((htypes.step (.instantiate _ _ hmade)).step (.work .callable)).step
      (.newClosure ⟨0⟩ ⟨0⟩ none false none none _ _ hused)
  have hheard := hclosure.step (.connect _ _ hconnected)
  have hgone := hheard.step (b := ⟨s₄, [], _, _⟩) (.unref _ _ hunref)
  exact hgone.step (.settle s₅ (.closure listener) [] _ _)

end Sample

theorem sample_closure_lifetimes :
    (∃ es, Stage.Run (.start { memory := () }) es
      ⟨Sample.world, [], Sample.world.guest.ledger.held, []⟩) ∧
      Lifetimes () Sample.lives Sample.outlived ∧ Sample.lives.countP (·.ends 0) = 1 :=
  ⟨(closure_lifetimes.1 (Sample.moves_world .any)).1, closure_lifetimes.2 Sample.lives_run, rfl⟩

end NativeBridge
