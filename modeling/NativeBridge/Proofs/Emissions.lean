-- Emissions. What is connected when an emission starts is called in order, up
-- to the first error. The emission has a reference of its own, so its object
-- lives through every call, whatever the code that is called gives back.
import NativeBridge.Proofs.Connections
import NativeBridge.Proofs.Deeds

namespace NativeBridge

variable {σ τ : Type}

/-! ## The start -/

namespace Heap

variable {κ : Type} {h : Heap κ} {o : ObjectId} {object : LiveObject κ}

theorem beginEmission_of_live (hl : h.live? o = some object) (signal : String)
    (args : List NativeValue) :
    h.beginEmission o signal args =
      match h.types.signal? object.type signal with
      | none => .error (.unknownSignal (h.types.describe object.type) signal)
      | some shape =>
        if shape.params.length ≠ args.length then
          .error (.signalArity signal shape.params.length args.length)
        else .ok (⟨⟨object.type, .object o⟩ :: List.zipWith TypedValue.mk shape.params args,
          shape.returnType, closuresFor object.handlers signal⟩,
          h.raise o object (object.refs + 1)) := by
  have hlive : h.live o = .ok object := by simp [live, hl]
  simp only [beginEmission, hlive, signalOf, bind, Except.bind]
  cases h.types.signal? object.type signal with
  | none => rfl
  | some shape =>
    dsimp only
    split <;> rfl

end Heap

theorem run_unrefObject_of_live {s : System σ} {o : ObjectId} {object : LiveObject Subscriber}
    (hl : s.heap.live? o = some object) : ∃ t, (unrefObject o).run.run s = (.ok (), t) := by
  have hunref := Heap.unref_of_live hl
  split at hunref
  · exact ⟨_, run_unrefObject_ok s hunref⟩
  · exact ⟨_, run_unrefObject_ok s hunref⟩

/-- An emission starts: its object has one reference more, and what is
connected has one more holder each. -/
def System.enterEmission (s : System σ) (o : ObjectId) (object : LiveObject Subscriber)
    (signal : String) : System σ :=
  (Heap.closuresFor object.handlers signal).foldl System.holdSubscriber
    { s with heap := s.heap.raise o object (object.refs + 1) }

/-- An emission that starts calls its subscribers, and then gives back what it
holds. -/
theorem run_emit_of_begun (g : Guest σ) (s : System σ) {o : ObjectId} {signal : String}
    {args : List NativeValue} {object : LiveObject Subscriber} {params : List TypedValue}
    {type : Option TypeId}
    (hbegun : s.heap.beginEmission o signal args =
      .ok (⟨params, type, Heap.closuresFor object.handlers signal⟩,
        s.heap.raise o object (object.refs + 1))) :
    let subscribers := Heap.closuresFor object.handlers signal
    let delivered :=
      (deliver g params type none subscribers).run.run (s.enterEmission o object signal)
    (emit g o signal args).run.run s = (unrefObject o >>= fun _ => endIn delivered.1).run.run
      (delivered.2.release (subscribers.flatMap Subscriber.releases)) := by
  rw [run_emit_of_ok s g hbegun]
  rfl

/-! ## Calls -/

/-- A subscriber that was called, with its answer and the states before and
after. -/
structure Call (σ : Type) where
  subscriber : Subscriber
  before : System σ
  answer : Except BridgeError (Option TypedValue)
  after : System σ

/-- Calls one after another, each with the same arguments. -/
inductive Calls (g : Guest σ) (params : List TypedValue) (type : Option TypeId) :
    System σ → List (Call σ) → System σ → Prop where
  | done (s : System σ) : Calls g params type s [] s
  | call (c : Call σ) (rest : List (Call σ)) (t : System σ)
    (made : (c.subscriber.invoke g params type).run.run c.before = (c.answer, c.after))
    (next : Calls g params type c.after rest t) : Calls g params type c.before (c :: rest) t

/-- What calls come to: all subscribers were called, and the last value counts;
or the last one that was called failed, and its error counts. -/
inductive Answered (subscribers : List Subscriber) (calls : List (Call σ)) :
    Except BridgeError (Option TypedValue) → Prop where
  | all (values : List (Option TypedValue)) (called : calls.map (·.subscriber) = subscribers)
    (answers : calls.map (·.answer) = values.map .ok) :
    Answered subscribers calls (.ok values.getLast?.join)
  | failed (values : List (Option TypedValue)) (e : BridgeError)
    (called : calls.map (·.subscriber) <+: subscribers)
    (answers : calls.map (·.answer) = values.map .ok ++ [.error e]) :
    Answered subscribers calls (.error e)

/-- Delivering makes calls up to the first error. -/
theorem deliver_calls (g : Guest σ) (params : List TypedValue) (type : Option TypeId)
    (subscribers : List Subscriber) (given : Option TypedValue) (s : System σ) :
    let done := (deliver g params type given subscribers).run.run s
    ∃ calls, Calls g params type s calls done.2 ∧
      ∃ values : List (Option TypedValue),
        (calls.map (·.subscriber) = subscribers ∧ calls.map (·.answer) = values.map .ok ∧
          done.1 = .ok (values.getLast?.getD given)) ∨
        ∃ e, calls.map (·.subscriber) <+: subscribers ∧
          calls.map (·.answer) = values.map .ok ++ [.error e] ∧ done.1 = .error e := by
  induction subscribers generalizing given s with
  | nil => exact ⟨[], .done s, [], Or.inl ⟨rfl, rfl, rfl⟩⟩
  | cons first rest ih =>
    rcases hfirst : (first.invoke g params type).run.run s with ⟨e | value, t⟩
    · rw [deliver, run_bind_of_error _ hfirst]
      refine ⟨[⟨first, s, .error e, t⟩], .call ⟨first, s, .error e, t⟩ [] t hfirst (.done t), [],
        Or.inr ⟨e, ?_, rfl, rfl⟩⟩
      exact List.prefix_append [first] rest
    · rw [deliver, run_bind_of_ok _ hfirst]
      obtain ⟨calls, hcalls, values, hend⟩ := ih value t
      refine ⟨⟨first, s, .ok value, t⟩ :: calls,
        .call ⟨first, s, .ok value, t⟩ calls _ hfirst hcalls, value :: values, ?_⟩
      rcases hend with ⟨hall, hanswers, hresult⟩ | ⟨e, hsome, hanswers, hresult⟩
      · refine Or.inl ⟨by rw [List.map_cons, hall], by rw [List.map_cons, hanswers]; rfl, ?_⟩
        rw [hresult, List.getLast?_cons]
        rfl
      · refine Or.inr ⟨e, ?_, by rw [List.map_cons, hanswers]; rfl, hresult⟩
        rw [List.map_cons]
        exact List.cons_prefix_cons.mpr ⟨rfl, hsome⟩

theorem deliver_answered (g : Guest σ) (params : List TypedValue) (type : Option TypeId)
    (subscribers : List Subscriber) (s : System σ) :
    let done := (deliver g params type none subscribers).run.run s
    ∃ calls, Calls g params type s calls done.2 ∧ Answered subscribers calls done.1 := by
  intro done
  obtain ⟨calls, hcalls, values, ⟨hall, hanswers, hresult⟩ | ⟨e, hsome, hanswers, hresult⟩⟩ :=
    deliver_calls g params type subscribers none s
  · refine ⟨calls, hcalls, ?_⟩
    have hjoin : done.1 = .ok values.getLast?.join := by
      rw [hresult]
      cases values.getLast? <;> rfl
    rw [hjoin]
    exact .all values hall hanswers
  · refine ⟨calls, hcalls, ?_⟩
    rw [show done.1 = .error e from hresult]
    exact .failed values e hsome hanswers

/-- Only subscribers are called. -/
theorem Answered.mem {subscribers : List Subscriber} {calls : List (Call σ)}
    {result : Except BridgeError (Option TypedValue)} (h : Answered subscribers calls result)
    {c : Call σ} (hc : c ∈ calls) : c.subscriber ∈ subscribers := by
  have hmem : c.subscriber ∈ calls.map (·.subscriber) := List.mem_map_of_mem hc
  cases h with
  | all values called answers => rwa [called] at hmem
  | failed values e called answers => exact called.subset hmem

/-! ## What calls keep -/

section

variable {c : Conduct} {g : Guest (Outside τ)} {params : List TypedValue} {type : Option TypeId}
  {s t : World τ} {calls : List (Call (Outside τ))}

/-- A call leaves alone what the emission holds. -/
theorem invokeSubscriber_keeps (hg : g.Steady c) {subscriber : Subscriber}
    {subscribers : List Subscriber} (hmem : subscriber ∈ subscribers) (params : List TypedValue)
    (type : Option TypeId) :
    let P : Multiset Release := subscribers.flatMap Subscriber.releases
    Tries c (subscriber.invoke g params type) P (fun _ => P) P := by
  obtain ⟨before, after, rfl⟩ := List.append_of_mem hmem
  have hone := (invokeSubscriber_tries hg subscriber params type).frame
    (before.flatMap Subscriber.releases + after.flatMap Subscriber.releases)
  have hall : ((before ++ subscriber :: after).flatMap Subscriber.releases : Multiset Release) =
      subscriber.releases +
        (before.flatMap Subscriber.releases + after.flatMap Subscriber.releases) := by
    rw [List.flatMap_append, List.flatMap_cons, ← Multiset.coe_add, ← Multiset.coe_add]
    abel
  rw [hall]
  exact hone

theorem Calls.holding (hg : g.Steady c) {subscribers : List Subscriber}
    (hcalls : Calls g params type s calls t) (hmem : ∀ x ∈ calls, x.subscriber ∈ subscribers)
    {F : Multiset Release} {E : List ObjectId}
    (h : Holding c ((subscribers.flatMap Subscriber.releases : List Release) + F) E s) :
    Holding c ((subscribers.flatMap Subscriber.releases : List Release) + F) E t ∧
      ∀ x ∈ calls,
        Holding c ((subscribers.flatMap Subscriber.releases : List Release) + F) E x.before ∧
          Holding c ((subscribers.flatMap Subscriber.releases : List Release) + F) E x.after := by
  induction hcalls with
  | done s => exact ⟨h, fun x hx => absurd hx List.not_mem_nil⟩
  | call first rest t made next ih =>
    have hone := invokeSubscriber_keeps hg (hmem first List.mem_cons_self) params type F E _ h
    have hafter : Holding c ((subscribers.flatMap Subscriber.releases : List Release) + F) E
        first.after := by
      rw [made] at hone
      cases hanswer : first.answer <;> rw [hanswer] at hone <;> exact hone
    obtain ⟨hend, hrest⟩ := ih (fun y hy => hmem y (List.mem_cons_of_mem _ hy)) hafter
    refine ⟨hend, fun x hx => ?_⟩
    rcases List.mem_cons.mp hx with rfl | hx
    · exact ⟨h, hafter⟩
    · exact hrest x hx

/-- Calls obey a law. -/
theorem Calls.since {E : System Ledger → System Ledger → Prop}
    {Q : System Ledger → System Ledger → System Ledger → Prop} (hlaw : IsLaw E Q)
    (hg : g.Follows (Since E Q)) (hcalls : Calls g params type s calls t) :
    Since E Q s t ∧ ∀ x ∈ calls, Since E Q x.before x.after ∧ Since E Q x.after t := by
  induction hcalls with
  | done s => exact ⟨hlaw.isCourse.refl s, fun x hx => absurd hx List.not_mem_nil⟩
  | call first rest t made next ih =>
    have hone := invokeSubscriber_attempts hlaw.isVoyage hg first.subscriber params type
      first.before
    rw [made] at hone
    obtain ⟨hend, hrest⟩ := ih
    refine ⟨hone.trans hlaw hend, fun x hx => ?_⟩
    rcases List.mem_cons.mp hx with rfl | hx
    · exact ⟨hone, hend⟩
    · exact hrest x hx

end

/-! ## The object of an emission -/

/-- Emissions end in the order opposite to their start, so that all that runs
stays in the emissions that it started in. -/
theorem emissions_nest : IsLaw (fun a b => b.guest.emitting = a.guest.emitting)
    fun a m _ => a.guest.emitting <:+ m.guest.emitting where
  still h := h.emitting
  heap _ := rfl
  newRegistry _ _ := rfl
  changeRegistry a id change := by
    unfold Arrangement.apply
    dsimp only
    split <;> rfl
  emission h := congrArg List.tail h
  trans h h' := h'.trans h
  seen a := List.suffix_refl _
  after h h' := by rwa [h] at h'
  before h _ := h
  during h := (List.suffix_cons _ _).trans h

theorem Sound.isAlive {m : System Ledger} {o : ObjectId} (h : Sound .fair m)
    (hfull : m.heap.full = false) (ho : o ∈ m.guest.emitting) : m.heap.isAlive o = true := by
  obtain ⟨F, -, hbalanced⟩ := h
  apply Balanced.isAlive_of_mem hbalanced hfull
  simp only [Multiset.mem_add, Ledger.tokens, Multiset.mem_coe, List.mem_map]
  exact Or.inr (Or.inr (Or.inr ⟨o, ho, rfl⟩))

theorem HeapRuns.not_full {a b : System Ledger} (h : HeapRuns a b) (hfull : b.heap.full = false) :
    a.heap.full = false := h.elim fun _ hrun => hrun.not_full hfull

/-- An object lives before a call, after it, and whenever outside code looks
at the heap in the middle of it. -/
structure Call.Spares (c : Call (Outside τ)) (o : ObjectId) : Prop where
  before : c.before.heap.isAlive o = true
  during : ∃ new, c.after.guest.diary = new ++ c.before.guest.diary ∧
    ∀ m ∈ new, m.heap.isAlive o = true
  after : c.after.heap.isAlive o = true

section

variable {g : Guest (Outside τ)} {params : List TypedValue} {type : Option TypeId} {s t : World τ}
  {calls : List (Call (Outside τ))} {F : Multiset Release} {E : List ObjectId} {o : ObjectId}

theorem Holding.mem_emitting {c : Conduct} (h : Holding c F (o :: E) s) :
    o ∈ s.guest.ledger.emitting := by
  rw [h.emitting]
  exact List.mem_cons_self

theorem Holding.isAlive (h : Holding .fair F (o :: E) s) (hfull : s.heap.full = false) :
    s.heap.isAlive o = true := h.sound.isAlive hfull h.mem_emitting

/-- The calls of an emission spare its object. -/
theorem Calls.spare (hg : g.IsOutside .fair) {subscribers : List Subscriber}
    (hcalls : Calls g params type s calls t) (hmem : ∀ x ∈ calls, x.subscriber ∈ subscribers)
    (h : Holding .fair ((subscribers.flatMap Subscriber.releases : List Release) + F) (o :: E) s)
    (hfull : t.heap.full = false) : ∀ x ∈ calls, x.Spares o := by
  have hlaw := heap_runs.and emissions_nest
  obtain ⟨-, hsince⟩ := hcalls.since hlaw (hg.since hlaw)
  obtain ⟨-, hheld⟩ := hcalls.holding hg.steady hmem h
  intro x hx
  obtain ⟨hduring, hlater⟩ := hsince x hx
  obtain ⟨hbefore, hafter⟩ := hheld x hx
  have hfull' : x.after.heap.full = false := hlater.now.1.not_full hfull
  obtain ⟨new, hnew, hseen⟩ := hduring.diary
  refine ⟨hbefore.isAlive (hduring.now.1.not_full hfull'), ⟨new, hnew, ?_⟩, hafter.isAlive hfull'⟩
  intro m hm
  obtain ⟨⟨-, hrun⟩, hnested⟩ := hseen m hm
  have hsound : Sound .fair m := by
    apply hafter.diary
    rw [hnew]
    exact List.mem_append_left _ hm
  exact hsound.isAlive (hrun.not_full hfull') (hnested.subset hbefore.mem_emitting)

end

/-! ## Emissions -/

/-- What an emission does with a live object and a signal of its type. -/
structure Emits (g : Guest (Outside τ)) (o : ObjectId) (signal : String) (args : List NativeValue)
    (object : LiveObject Subscriber) (shape : SignalDef) (s : World τ)
    (calls : List (Call (Outside τ))) (left : World τ)
    (done : Except BridgeError (Option TypedValue) × World τ) : Prop where
  /-- The object has what was connected to it when the emission starts. -/
  connected : ∀ es, Heap.Run {} es s.heap → object.handlers = Heap.connectedTo o es
  /-- Of these all are called that are for the signal, each as often as it was
  connected, the normal ones first, and older ones before newer ones. -/
  lined_up : ∃ places, Heap.CallOrder object.handlers signal places ∧
    Heap.closuresFor object.handlers signal =
      places.filterMap fun i => object.handlers[i]?.map (·.closure)
  counted : (object.refs + 1).toNat = object.refs.toNat + 1
  /-- All calls get the same arguments. -/
  called : Calls g (⟨object.type, .object o⟩ :: List.zipWith TypedValue.mk shape.params args)
    shape.returnType (s.enterEmission o object signal) calls left
  answered : Answered (Heap.closuresFor object.handlers signal) calls done.1
  spared : ∀ c ∈ calls, c.Spares o
  /-- The holders and the reference are given back, however the calls ended. -/
  given_back : (unrefObject o).run.run
    (left.release ((Heap.closuresFor object.handlers signal).flatMap Subscriber.releases)) =
      (.ok (), done.2)
  /-- Then all references are counted that others have, and no more. -/
  sound : Sound .fair (World.moment (World.changeLedger (·.endEmission) done.2))

theorem counted_of_free {s : World τ} (hs : s.Reached .fair) (hfree : s.heap.full = false)
    {o : ObjectId} {object : LiveObject Subscriber} (hl : s.heap.live? o = some object) :
    (object.refs + 1).toNat = object.refs.toNat + 1 := by
  obtain ⟨F, hholding⟩ := hs.holding
  have hfew := (hholding.balanced.exact rfl hfree).bounded o
  rw [Books.refs_of_live (b := s.books) hl] at hfew
  have hmax : Heap.maxRefs.toNat = 4294967295 := rfl
  rw [UInt32.toNat_add]
  exact Nat.mod_eq_of_lt (by change object.refs.toNat + 1 < 4294967296; omega)

theorem emits_of_begun {g : Guest (Outside τ)} (hg : g.IsOutside .fair) {s : World τ}
    (hs : s.Reached .fair) {o : ObjectId} {signal : String} {args : List NativeValue}
    {object : LiveObject Subscriber} {shape : SignalDef} (hl : s.heap.live? o = some object)
    (hbegun : s.heap.beginEmission o signal args =
      .ok (⟨⟨object.type, .object o⟩ :: List.zipWith TypedValue.mk shape.params args,
        shape.returnType, Heap.closuresFor object.handlers signal⟩,
        s.heap.raise o object (object.refs + 1))) :
    let started := s.changeLedger (·.startEmission o)
    let done := (emit g o signal args).run.run started
    done.2.heap.full = false →
      ∃ calls left, Emits g o signal args object shape started calls left done := by
  intro started done hfull
  let subscribers := Heap.closuresFor object.handlers signal
  let params := ⟨object.type, .object o⟩ :: List.zipWith TypedValue.mk shape.params args
  let entered := started.enterEmission o object signal
  obtain ⟨F, hholding⟩ := hs.holding
  have hentered : Holding .fair ((subscribers.flatMap Subscriber.releases : List Release) + F)
      (o :: s.guest.ledger.emitting) entered := hholding.enterEmission hbegun
  let delivered := (deliver g params shape.returnType none subscribers).run.run entered
  let released : World τ := delivered.2.release (subscribers.flatMap Subscriber.releases)
  obtain ⟨calls, hcalls, hanswered⟩ :=
    deliver_answered g params shape.returnType subscribers entered
  have hmem : ∀ x ∈ calls, x.subscriber ∈ subscribers := fun x hx => hanswered.mem hx
  have hreleased : Holding .fair F (o :: s.guest.ledger.emitting) released :=
    (hcalls.holding hg.steady hmem hentered).1.release
  have hdone : done = (unrefObject o >>= fun _ => endIn delivered.1).run.run released :=
    run_emit_of_begun g started hbegun
  -- counts that are not full in the end were never full
  have hrun : HeapRuns started.moment (World.moment done.2) :=
    (emit_attempts heap_runs.isVoyage (hg.since heap_runs) o signal args started).now
  have hunref : HeapRuns released.moment (World.moment done.2) := by
    rw [hdone, run_bind_endIn]
    exact (unrefObject_attempts heap_runs.isCourse o released).now
  have hrelease : HeapRuns (World.moment delivered.2) released.moment :=
    (release_course heap_runs.isCourse delivered.2 _).now
  have hfree : s.heap.full = false := hrun.not_full hfull
  have hfull' : released.heap.full = false := hunref.not_full hfull
  obtain ⟨last, hlast⟩ := Option.isSome_iff_exists.mp (hreleased.isAlive hfull')
  obtain ⟨t, hback⟩ := run_unrefObject_of_live hlast
  have hend : done = (delivered.1, t) := by
    rw [hdone, run_bind_of_ok _ hback]
    rfl
  have horder := Heap.callOrder_placesOf object.handlers signal
  refine ⟨calls, delivered.2, ?_, ⟨_, horder, Heap.closuresFor_eq_filterMap horder⟩,
    counted_of_free hs hfree hl, hcalls, ?_, ?_, ?_, ?_⟩
  · exact fun es hes => hes.linked (hes.fits hfree) o object hl
  · rw [hend]
    exact hanswered
  · exact hcalls.spare hg hmem hentered (hrelease.not_full hfull')
  · rw [hend]
    exact hback
  · exact (emission_holding hg.steady hholding o signal args).sound

/-- An emission that is refused calls nothing and changes nothing. Any other
calls what is connected at its start, in order, up to the first error; its
object lives through all calls; and in the end it gives back what it took. -/
theorem signal_emission {g : Guest (Outside τ)} (hg : g.IsOutside .fair) {s : World τ}
    (hs : s.Reached .fair) (o : ObjectId) (signal : String) (args : List NativeValue) :
    let started := s.changeLedger (·.startEmission o)
    let done := (emit g o signal args).run.run started
    done.2.heap.full = false →
      match s.heap.live? o with
      | none => done = (.error (.native (.staleObject o)), started)
      | some object =>
        let types := s.heap.types
        match types.signal? object.type signal with
        | none =>
          done = (.error (.native (.unknownSignal (types.describe object.type) signal)), started)
        | some shape =>
          if shape.params.length ≠ args.length then
            done = (.error (.native (.signalArity signal shape.params.length args.length)), started)
          else ∃ calls left, Emits g o signal args object shape started calls left done := by
  intro started done hfull
  have hrefused : ∀ e, s.heap.beginEmission o signal args = .error e →
      done = (.error (.native e), started) := fun e => run_emit_of_error started g
  cases hl : s.heap.live? o with
  | none =>
    apply hrefused
    simp [Heap.beginEmission, Heap.live, hl, bind, Except.bind]
  | some object =>
    have hbegin := Heap.beginEmission_of_live hl signal args
    dsimp only
    cases hshape : s.heap.types.signal? object.type signal with
    | none =>
      rw [hshape] at hbegin
      exact hrefused _ hbegin
    | some shape =>
      rw [hshape] at hbegin
      dsimp only at hbegin ⊢
      split at hbegin
      · rename_i harity
        rw [if_pos harity]
        exact hrefused _ hbegin
      · rename_i harity
        rw [if_neg harity]
        exact emits_of_begun hg hs hl hbegin hfull

namespace Sample

/-- Two handlers of one signal, and between them one of another signal. The first
to be connected runs after the other. -/
def wired : World Unit :=
  carryOut (.idle _)
    [.arrange (.changeTypes (.defineSignal type "changed" ⟨[], none⟩)),
      .arrange (.changeTypes (.defineSignal type "closed" ⟨[], none⟩)),
      .connect object "changed" (.native ⟨0⟩) true, .connect object "closed" (.native ⟨2⟩) false,
      .connect object "changed" (.native ⟨1⟩) false]
    world

def wiredObject : LiveObject Subscriber :=
  ⟨type, 1, [⟨⟨1⟩, "changed", .native ⟨0⟩, true⟩, ⟨⟨2⟩, "closed", .native ⟨2⟩, false⟩,
    ⟨⟨3⟩, "changed", .native ⟨1⟩, false⟩]⟩

theorem live?_wired : wired.heap.live? object = some wiredObject := by
  unfold wired
  rfl

theorem signal?_wired : wired.heap.types.signal? type "changed" = some ⟨[], none⟩ := by
  unfold wired
  rfl

theorem wired_reached (c : Conduct) : wired.Reached c :=
  ((moves_world c).trans (Moves.carryOut Guest.idle_isOutside rfl world)).reached

/-- A reference is given back, if there is one. -/
def letGo (s : World Unit) : World Unit :=
  if object ∈ s.guest.ledger.refs then (((Deed.unref object).perform (.idle _)).run s).2 else s

/-- Native code that gives back what it has of the object. -/
def careless : Guest (Outside Unit) :=
  { Guest.idle _ with
    native := fun _ _ _ => do
      modify letGo
      return none }

theorem careless_isOutside : careless.IsOutside .fair where
  call _ _ x := .rest x
  native _ _ _ x := by
    change Moves .fair x (letGo x)
    unfold letGo
    split
    · rename_i hmem
      exact Moves.deed Guest.idle_isOutside ⟨fun _ ht => absurd ht List.not_mem_nil, fun _ => hmem⟩
    · exact .rest x
  sink _ _ x := .rest x
  takeFault _ _ x := .rest x
  marshalArgument _ _ _ _ x := .rest x
  marshalResult _ _ _ _ x := .rest x

end Sample

/-- The handler that is called first gives back the only reference of others.
The second is called all the same, and then the object goes. The handler of the
other signal is not called. -/
theorem sample_signal_emission :
    let started := Sample.wired.changeLedger (·.startEmission Sample.object)
    let done := (emit Sample.careless Sample.object "changed" []).run.run started
    Heap.closuresFor Sample.wiredObject.handlers "changed" = [.native ⟨1⟩, .native ⟨0⟩] ∧
      (∃ calls left, Emits Sample.careless Sample.object "changed" [] Sample.wiredObject
        ⟨[], none⟩ started calls left done) ∧ done.2.heap.isAlive Sample.object = false := by
  have hemits : ∀ s : World Unit, s.Reached .fair →
      s.heap.live? Sample.object = some Sample.wiredObject →
      s.heap.types.signal? Sample.type "changed" = some ⟨[], none⟩ →
      let started := s.changeLedger (·.startEmission Sample.object)
      let done := (emit Sample.careless Sample.object "changed" []).run.run started
      done.2.heap.full = false → ∃ calls left, Emits Sample.careless Sample.object "changed" []
        Sample.wiredObject ⟨[], none⟩ started calls left done := by
    intro s hs hlive hshape started done hfull
    have hdone := signal_emission Sample.careless_isOutside hs Sample.object "changed" [] hfull
    have hshape' : s.heap.types.signal? Sample.wiredObject.type "changed" = some ⟨[], none⟩ := hshape
    simp only [hlive, hshape'] at hdone
    exact hdone
  refine ⟨rfl, ?_, by decide +kernel⟩
  exact hemits Sample.wired (Sample.wired_reached .fair) Sample.live?_wired Sample.signal?_wired
    (by decide +kernel)

end NativeBridge
