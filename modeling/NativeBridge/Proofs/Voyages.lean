-- Deeds of outside code along a course. Where the code that the library
-- calls goes a course, and captures, drains and changes of relays do, every
-- deed goes it, and so does every run of deeds.
import NativeBridge.Proofs.Courses

namespace NativeBridge

variable {τ α β : Type} {R : World τ → World τ → Prop}

/-- Code outside that goes a course whenever it is called. -/
structure Guest.Follows (R : World τ → World τ → Prop) (g : Guest (Outside τ)) : Prop where
  call : ∀ f args, NativeBridge.Follows R (g.call f args)
  native : ∀ f params type, Attempts R (g.native f params type)
  sink : ∀ f o, NativeBridge.Follows R (g.sink f o)
  takeFault : ∀ f fault, NativeBridge.Follows R (g.takeFault f fault)
  marshalArgument : ∀ m r i v, Attempts R (g.marshalArgument m r i v)
  marshalResult : ∀ m r h type, Attempts R (g.marshalResult m r h type)

/-- A course that all the library goes, draining apart. What happens between
the start and the end of an emission is gone before the emission is. -/
structure IsVoyage (R : World τ → World τ → Prop) : Prop where
  course : IsCourse R
  slot : ∀ s r fault, R s (s.setErrorSlot r fault)
  capture : ∀ id fault origin r, Follows R (captureFault id fault origin r)
  newRelay : ∀ s maxPending, R s (s.addRelay (Relay.withLimit maxPending)).2
  install : ∀ s id function, R s (s.modifyRelay id fun relay => (relay.install function).2)
  uninstall : ∀ s id handler, R s (s.modifyRelay id (·.uninstall handler))
  newBridge : ∀ s (bridge : Bridge), R s { s with bridges := s.bridges.add bridge }
  newRegistry : ∀ s fundamentals, R s ((Arrangement.newRegistry fundamentals).apply s)
  changeRegistry : ∀ s id change, R s ((Arrangement.changeRegistry id change).apply s)
  ledger : ∀ s f, (∀ l : Ledger, (f l).emitting = l.emitting) → R s (World.changeLedger f s)
  travel : ∀ (s : World τ) thread entered, R s { s with thread, entered }
  emission : ∀ {s t o}, R (World.changeLedger (·.startEmission o) s) t →
    R s (World.changeLedger (·.endEmission) t)
  remember : ∀ (s : World τ) memory, R s { s with guest := { s.guest with memory } }
  look : ∀ s : World τ,
    R s { s with guest := { s.guest with diary := World.moment s :: s.guest.diary } }

/-- The result of a callable that came back, for native code. -/
def Closure.convertResult {σ : Type} (g : Guest σ) (x : Closure) (value : Handle)
    (type : Option TypeId) : Attempt σ (Option TypedValue) :=
  match type with
  | some type => return some (← x.marshalResult g value type)
  | none => return none

/-! ## Invocations -/

/-- What an invocation by a bridge does with the code that it calls goes a
course. -/
structure Guest.Serves (R : World τ → World τ → Prop) (g : Guest (Outside τ)) (r : RuntimeId) :
    Prop where
  call : ∀ f args, NativeBridge.Follows R (callGuarded g r f args)
  marshalArgument : ∀ m i v, Attempts R (g.marshalArgument m r i v)
  marshalResult : ∀ m h type, Attempts R (g.marshalResult m r h type)
  capture : ∀ id fault origin, NativeBridge.Follows R (captureFault id fault origin r)

section

variable {g : Guest (Outside τ)} (hR : IsCourse R)

include hR

section

variable {x : Closure}

section

variable (hm : ∀ m, x.marshaller = some m →
  ∀ index v, Attempts R (g.marshalArgument m x.runtime index v))

include hm

theorem closureArgument_attempts (index : Nat) (v : TypedValue) :
    Attempts R (x.marshalArgument g index v) := by
  apply atSite_attempts hR
  split
  · rename_i m hmarshaller
    exact hm m hmarshaller index v
  · exact toHandle_attempts hR x.runtime v

theorem marshalArguments_attempts (params : List TypedValue) :
    Attempts R (x.marshalArguments g params) := by
  have hconvert : ∀ i v, Attempts R (x.marshalArgument g i v) := closureArgument_attempts hR hm
  have htake : Attempts R (doing (x.takeData (σ := Outside τ))) :=
    Attempts.doing (takeData_follows hR x)
  unfold Closure.marshalArguments
  split
  · exact Attempts.throw hR _
  · split
    · exact htake.bind hR fun data => marshalFrom_attempts hR hconvert 1 [data] _
    · refine (marshalFrom_attempts hR hconvert 0 [] _).bind hR fun args => ?_
      split
      · exact htake.bind hR fun data => Attempts.pure hR (args ++ [data])
      · exact Attempts.pure hR args

end

section

variable (hm : ∀ m, x.marshaller = some m →
  ∀ value type, Attempts R (g.marshalResult m x.runtime value type))

include hm

theorem marshalResult_attempts (value : Handle) (type : TypeId) :
    Attempts R (x.marshalResult g value type) := by
  apply atSite_attempts hR
  split
  · rename_i m hmarshaller
    exact hm m hmarshaller value type
  · exact fromHandle_attempts hR x.runtime value type

theorem convertResult_attempts (value : Handle) (type : Option TypeId) :
    Attempts R (x.convertResult g value type) := by
  cases type with
  | none => exact Attempts.pure hR none
  | some type =>
    apply (marshalResult_attempts hR hm value type).bind hR
    exact fun v => Attempts.pure hR (some v)

end

variable (hs : g.Serves R x.runtime)

include hs

theorem run_attempts (params : List TypedValue) (returnType : Option TypeId) :
    Attempts R (x.run g params returnType) := by
  unfold Closure.run
  apply (checkContext_attempts hR x.runtime).bind hR
  intro _
  apply (marshalArguments_attempts hR (fun m _ => hs.marshalArgument m) params).bind hR
  intro args
  apply (Attempts.doing (hs.call x.callable args)).bind hR
  intro outcome
  apply (release_attempts hR _).bind hR
  intro _
  cases outcome with
  | ok value =>
    apply releasingAfter_attempts hR
    exact convertResult_attempts hR (fun m _ => hs.marshalResult m) value returnType
  | error fault =>
    apply Attempts.get
    intro s₀
    exact (Attempts.doing (hs.capture _ fault x.origin)).bind hR fun _ => Attempts.pure hR none

theorem invoke_attempts (params : List TypedValue) (returnType : Option TypeId) :
    Attempts R (x.invoke g params returnType) := by
  apply Attempts.get
  intro s₀
  split
  · exact holdingBridge_attempts hR _ (run_attempts hR hs params returnType)
  · exact Attempts.throw hR _

end

theorem callbackArguments_attempts (x : Callback) (r : RuntimeId) (args : List NativeValue) :
    Attempts R (x.marshalArguments (σ := Outside τ) r args) := by
  refine (marshalFrom_attempts hR (fun i v => ?_) 0 [] _).bind hR fun handles => ?_
  · exact atSite_attempts hR _ (toHandle_attempts hR r v)
  · split
    · exact Attempts.bind hR (Attempts.change fun s => holdHandle_course hR s _) fun _ =>
        Attempts.pure hR _
    · exact Attempts.pure hR handles

theorem callbackResult_attempts (x : Callback) (r : RuntimeId) (outcome : Except Fault Handle) :
    Attempts R (x.result (σ := Outside τ) r outcome) := by
  rcases outcome with fault | value
  · exact Attempts.throw hR _
  · apply releasingAfter_attempts hR
    split
    · exact (atSite_attempts hR _ (fromHandle_attempts hR r value _)).bind hR fun v =>
        Attempts.pure hR (some v)
    · exact Attempts.pure hR none

theorem invokeCallback_attempts {r : RuntimeId} (hs : g.Serves R r) (x : Callback)
    (args : List NativeValue) : Attempts R (x.invoke g r args) := by
  unfold Callback.invoke
  by_cases hruntime : x.runtime ≠ r
  · rw [if_pos hruntime]
    exact Attempts.throw hR _
  · rw [if_neg hruntime]
    apply (checkContext_attempts hR r).bind hR
    intro _
    split
    · exact Attempts.throw hR _
    · apply (callbackArguments_attempts hR x r args).bind hR
      intro handles
      apply (Attempts.doing (hs.call x.callable handles)).bind hR
      intro outcome
      exact releasingAfter_attempts hR _ (callbackResult_attempts hR x r outcome)

end

section

variable {g : Guest (Outside τ)} (hV : IsVoyage R)

include hV

theorem setErrorSlot_follows (r : RuntimeId) (fault : Option Fault) :
    Follows R (modify (·.setErrorSlot r fault)) := Follows.change fun s => hV.slot s r fault

theorem recordOutcome_follows (r : RuntimeId) (outcome : Except Fault Handle) :
    Follows R (modify (·.recordOutcome r outcome)) := by
  cases outcome with
  | ok h => exact fun s => hV.course.refl s
  | error fault => exact setErrorSlot_follows hV r (some fault)

theorem callGuarded_follows (hg : g.Follows R) (r : RuntimeId) (f : Callable)
    (args : List Handle) : Follows R (callGuarded g r f args) := by
  apply Follows.get
  intro s₀
  apply (setErrorSlot_follows hV r none).bind hV.course
  intro _
  apply (hg.call f args).bind hV.course
  intro outcome
  apply (recordOutcome_follows hV r outcome).bind hV.course
  intro _
  exact (setErrorSlot_follows hV r _).bind hV.course fun _ => Follows.pure hV.course outcome

theorem IsVoyage.serves (hg : g.Follows R) (r : RuntimeId) : g.Serves R r where
  call f args := callGuarded_follows hV hg r f args
  marshalArgument m := hg.marshalArgument m r
  marshalResult m := hg.marshalResult m r
  capture id fault origin := hV.capture id fault origin r

end

/-- Wraps show new objects to sinks. -/
theorem wrapObject_attempts {g : Guest (Outside τ)} (hR : IsCourse R) (hg : g.Follows R)
    (r : RuntimeId) (o : ObjectId) (owned : Bool) : Attempts R (wrapObject g r o owned) := by
  apply (acquireWrapper_attempts hR r o _).bind hR
  rintro ⟨w, isNew⟩
  dsimp only
  split
  · apply Attempts.get
    intro s
    split
    · exact Attempts.bind hR (fun s => hg.sink _ o s) fun _ => Attempts.pure hR _
    · exact Attempts.pure hR _
  · exact Attempts.pure hR _

/-! ## Emissions -/

section

variable {g : Guest (Outside τ)} (hV : IsVoyage R) (hg : g.Follows R)

include hV hg

theorem invokeSubscriber_attempts (subscriber : Subscriber) (params : List TypedValue)
    (returnType : Option TypeId) : Attempts R (subscriber.invoke g params returnType) := by
  cases subscriber with
  | closure x => exact invoke_attempts hV.course (hV.serves hg x.runtime) params returnType
  | native f => exact hg.native f params returnType

theorem deliver_attempts (params : List TypedValue)
    (returnType : Option TypeId) (result : Option TypedValue) (subscribers : List Subscriber) :
    Attempts R (deliver g params returnType result subscribers) := by
  induction subscribers generalizing result with
  | nil => exact Attempts.pure hV.course result
  | cons subscriber rest ih =>
    exact (invokeSubscriber_attempts hV hg subscriber params returnType).bind hV.course ih

theorem emit_attempts (o : ObjectId) (signal : String)
    (args : List NativeValue) : Attempts R (emit g o signal args) := by
  have hbegin : Attempts R (changeHeap (·.beginEmission o signal args)) :=
    changeHeap_attempts hV.course fun hdone => ⟨_, .beginEmission hdone⟩
  apply hbegin.bind hV.course
  intro emission
  refine Attempts.bind hV.course (Attempts.change fun s => ?_) fun _ => ?_
  · rw [s.holdSubscribers_eq_keep]
    exact keepAll_course hV.course s _
  · apply (deliver_attempts hV hg _ _ none _).outcomeOf.bind hV.course
    intro outcome
    apply (release_attempts hV.course _).bind hV.course
    intro _
    apply (unrefObject_attempts hV.course o).bind hV.course
    intro _
    exact Attempts.endIn hV.course outcome

end

/-! ## Deeds -/

theorem attempting_follows (hR : IsCourse R) {a : Attempt (Outside τ) α} (ha : Attempts R a) :
    Follows R (attempting a) :=
  Follows.bind hR ha fun _ => Follows.pure hR ()

/-- A change of the heap, and what follows from its outcome. -/
theorem changeHeap_follows (hR : IsCourse R)
    {f : Heap Subscriber → Except NativeError (α × Heap Subscriber)}
    (hf : ∀ {h x heap}, f h = .ok (x, heap) → ∃ es, h.Step es heap)
    {k : Except BridgeError α → Action (Outside τ) β} (hk : ∀ outcome, Follows R (k outcome)) :
    Follows R ((changeHeap f).run >>= k) := Follows.bind hR (changeHeap_attempts hR hf) hk

section

variable (hV : IsVoyage R)

include hV

/-! ### Entries in the ledger -/

theorem gain_follows (ts : List Release) :
    Follows R (enterInLedger (·.gain ts) : Action (Outside τ) Unit) :=
  Follows.change fun s => hV.ledger s _ fun _ => rfl

theorem lose_follows (place : Nat) :
    Follows R (enterInLedger (·.lose place) : Action (Outside τ) Unit) :=
  Follows.change fun s => hV.ledger s _ fun _ => rfl

theorem take_follows (o : ObjectId) :
    Follows R (enterInLedger (·.take o) : Action (Outside τ) Unit) :=
  Follows.change fun s => hV.ledger s _ fun _ => rfl

theorem spend_follows (o : ObjectId) :
    Follows R (enterInLedger (·.spend o) : Action (Outside τ) Unit) :=
  Follows.change fun s => hV.ledger s _ fun _ => rfl

theorem gainResult_follows (outcome : Except BridgeError Handle) :
    Follows R (gainResult outcome : Action (Outside τ) Unit) := by
  cases outcome with
  | ok h => exact gain_follows hV _
  | error e => exact Follows.pure hV.course ()

theorem gaining_follows {a : Attempt (Outside τ) Handle} (ha : Attempts R a) :
    Follows R (a.run >>= gainResult) := Follows.bind hV.course ha (gainResult_follows hV)

/-! ### All deeds -/

theorem arrange_follows (arrangement : Arrangement) : Follows R (modify arrangement.apply) := by
  have hR := hV.course
  apply Follows.change
  intro s
  cases arrangement with
  | changeTypes change =>
    unfold Arrangement.apply
    dsimp only
    split
    · rename_i hdone
      exact hR.heap (.changeTypes hdone)
    · exact hR.refl s
  | newRegistry fundamentals => exact hV.newRegistry s fundamentals
  | changeRegistry id change => exact hV.changeRegistry s id change
  | newRelay maxPending => exact hV.newRelay s maxPending
  | install id function => exact hV.install s id function
  | uninstall id handler => exact hV.uninstall s id handler
  | setErrorSlot r fault => exact hV.slot s r fault
  | setMarshaller r entry => exact hR.quiet (.modifyBridge s r (fun _ => rfl) fun _ => rfl)
  | shareTree tree => exact hR.quiet (.of_eq rfl rfl rfl rfl rfl rfl rfl)
  | enter r => exact hV.travel s _ _
  | leave r => exact hV.travel s _ _
  | goToThread number entered => exact hV.travel s number entered

theorem newBridge_follows (g : Guest (Outside τ)) (config : BridgeConfig) (registry : RegistryId)
    (relay : Option RelayId) : Follows R ((Deed.newBridge config registry relay).run g) := by
  intro s
  have hadded : R s (s.addBridge config registry relay).2 := by
    cases relay with
    | none => exact hV.course.trans (hV.newRelay s config.maxPending) (hV.newBridge _ _)
    | some id => exact hV.newBridge s _
  exact hV.course.trans hadded (gain_follows hV _ _)

/-- Wraps of outside code. -/
theorem runWrap_follows {g : Guest (Outside τ)} (hg : g.Follows R) (r : RuntimeId) (o : ObjectId)
    (owned : Bool) : Follows R (Deed.runWrap g r o owned) := by
  have hR := hV.course
  unfold Deed.runWrap
  apply Follows.get
  intro s₀
  have hrest : Follows R (do
      let outcome ← (wrapObject g r o owned).run
      let isNew := (outcome.toOption.bind Handle.object?).any (·.number == s₀.wrappers.size)
      if owned && !isNew then enterInLedger (·.take o)
      gainResult outcome) := by
    apply Follows.bind hR (wrapObject_attempts hR hg r o owned)
    intro outcome
    dsimp only
    split
    · exact (take_follows hV o).bind hR fun _ => gainResult_follows hV outcome
    · exact gainResult_follows hV outcome
  dsimp only
  split
  · exact (spend_follows hV o).bind hR fun _ => hrest
  · exact hrest

theorem Deed.run_follows {g : Guest (Outside τ)} (hg : g.Follows R)
    (hdrain : ∀ id, Attempts R (NativeBridge.runPending g id)) (d : Deed τ) :
    Follows R (d.run g) := by
  have hR := hV.course
  cases d with
  | arrange arrangement => exact arrange_follows hV arrangement
  | instantiate type =>
    apply changeHeap_follows hR fun hdone => ⟨_, .instantiate hdone⟩
    rintro (e | o)
    · exact Follows.pure hR ()
    · exact take_follows hV o
  | ref o =>
    apply changeHeap_follows hR fun hdone => ⟨_, Heap.step_of_ref hdone⟩
    rintro (e | _)
    · exact Follows.pure hR ()
    · exact take_follows hV o
  | unref o =>
    apply (spend_follows hV o).bind hR
    exact fun _ => attempting_follows hR (unrefObject_attempts hR o)
  | emit o signal args =>
    have hemitted := attempting_follows hR (emit_attempts hV hg o signal args)
    exact fun s => hV.emission (hemitted (s.changeLedger (·.startEmission o)))
  | connect o signal subscriber after =>
    apply changeHeap_follows hR fun hdone => ⟨_, .connect hdone⟩
    rintro (e | _)
    · exact Follows.pure hR ()
    · apply Follows.change
      intro s
      cases subscriber <;> exact hR.quiet (.of_eq rfl rfl rfl rfl rfl rfl rfl)
  | disconnect o id => exact attempting_follows hR (disconnectHandler_attempts hR o id)
  | newCallable =>
    intro s
    have hadded : R s s.addCallable.2 := hR.quiet (.of_eq rfl rfl rfl rfl rfl rfl rfl)
    exact hR.trans hadded (gain_follows hV _ _)
  | newBridge config registry relay => exact newBridge_follows hV g config registry relay
  | newClosure r callable data swap marshaller origin =>
    exact fun s => hR.trans (addClosure_course hR s r callable data swap marshaller origin)
      (gain_follows hV _ _)
  | newCallback r callable data paramTypes returnType =>
    exact fun s => hR.trans (addCallback_course hR s r callable data paramTypes returnType)
      (gain_follows hV _ _)
  | keep shared =>
    refine Follows.bind hR (Follows.change fun s => ?_) fun _ => gain_follows hV _
    exact hR.quiet (.keep s shared)
  | letGo place =>
    apply Follows.get
    intro s₀
    apply (lose_follows hV place).bind hR
    intro _
    exact Follows.change fun s => release_course hR s _
  | adopt w => exact fun s => hR.quiet (.of_eq rfl rfl rfl rfl rfl rfl rfl)
  | wrap r o owned => exact runWrap_follows hV hg r o owned
  | unwrap r h expected => exact attempting_follows hR (unwrapObject_attempts hR r h expected)
  | wrapBoxed r block type owned =>
    exact gaining_follows hV (wrapBoxed_attempts hR r block type owned)
  | wrapBoxedCopy r block type => exact gaining_follows hV (wrapBoxedCopy_attempts hR r block type)
  | unwrapBoxed r h type => exact attempting_follows hR (unwrapBoxed_attempts hR r h type)
  | toHandle r v => exact gaining_follows hV (toHandle_attempts hR r v)
  | fromHandle r h expected => exact attempting_follows hR (fromHandle_attempts hR r h expected)
  | connectSignal r h signal callable data after swapped =>
    exact attempting_follows hR (connectSignal_attempts hR r h signal callable data after swapped)
  | disconnectSignal h id => exact attempting_follows hR (disconnectSignal_attempts hR h id)
  | invoke x params returnType =>
    exact attempting_follows hR (invoke_attempts hR (hV.serves hg x.runtime) params returnType)
  | invokeCallback x r args =>
    exact attempting_follows hR (invokeCallback_attempts hR (hV.serves hg r) x args)
  | sweep r => exact (sweep_follows hR r).bind hR fun _ => Follows.pure hR ()
  | runPending r =>
    apply attempting_follows hR
    apply Attempts.get
    intro s₀
    apply (hdrain _).outcomeOf.bind hR
    intro outcome
    exact (Attempts.doing (sweep_follows hR r)).bind hR fun _ => Attempts.endIn hR outcome
  | drain id => exact attempting_follows hR (hdrain id)
  | capture id fault origin r =>
    exact (hV.capture id fault origin r).bind hR fun _ => Follows.pure hR ()
  | look => exact Follows.change hV.look
  | remember memory => exact fun s => hV.remember s memory

theorem Deed.perform_follows {g : Guest (Outside τ)} (hg : g.Follows R)
    (hdrain : ∀ id, Attempts R (NativeBridge.runPending g id)) (d : Deed τ) :
    Follows R (d.perform g) := by
  have hR := hV.course
  refine Follows.bind hR (Follows.change fun s => keepAll_course hR s _) fun _ => ?_
  apply (Deed.run_follows hV hg hdrain d).bind hR
  intro _
  exact Follows.change fun s => release_course hR s _

/-! ## Runs of deeds -/

/-- What a callee gives away stands in the ledger no more when its caller goes
on. -/
theorem of_returned {give : α → List Release} {s : World τ} {result : α × World τ}
    (h : R s (returned give result)) : R s result.2 := by
  have hback := hV.ledger (returned give result)
    (fun l => { l with held := result.2.guest.ledger.held }) fun _ => rfl
  exact hV.course.trans h hback

/-- Every run goes the course, and so does all code that the library calls in
the middle of it. -/
theorem Moves.follows {c : Conduct}
    (hdrain : ∀ g : Guest (Outside τ), g.Follows R → ∀ id, Attempts R (runPending g id))
    {s t : World τ} (h : Moves c s t) : R s t := by
  have hR := hV.course
  induction h with
  | rest s => exact hR.refl s
  | act g d s t _ _ _ _ _ _ hallowed _ hcall hnative hsink hfault hargument hresult hnext =>
    -- the code that the deed may call made moves of its own
    have hg : g.Follows R :=
      ⟨fun f args x => of_returned hV (hcall f args x),
        fun f params type x => of_returned hV (hnative f params type x),
        fun f o x => of_returned hV (hsink f o x),
        fun f fault x => of_returned hV (hfault f fault x),
        fun m r i v x => of_returned hV (hargument m r i v x),
        fun m r h type x => of_returned hV (hresult m r h type x)⟩
    exact hR.trans (Deed.perform_follows hV hg (hdrain g hg) d s) hnext

theorem Guest.IsOutside.follows {c : Conduct} {g : Guest (Outside τ)} (hg : g.IsOutside c)
    (hdrain : ∀ g : Guest (Outside τ), g.Follows R → ∀ id, Attempts R (runPending g id)) :
    g.Follows R where
  call f args x := of_returned hV ((hg.call f args x).follows hV hdrain)
  native f params type x := of_returned hV ((hg.native f params type x).follows hV hdrain)
  sink f o x := of_returned hV ((hg.sink f o x).follows hV hdrain)
  takeFault f fault x := of_returned hV ((hg.takeFault f fault x).follows hV hdrain)
  marshalArgument m r i v x :=
    of_returned hV ((hg.marshalArgument m r i v x).follows hV hdrain)
  marshalResult m r h type x :=
    of_returned hV ((hg.marshalResult m r h type x).follows hV hdrain)

end

end NativeBridge
