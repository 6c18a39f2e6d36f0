-- Outside code: native holders, the dynamic program, and whatever else uses
-- the library. It acts in deeds, and the library calls it back in the middle
-- of a deed, where it may act again. Its ledger says what it has to its name,
-- and its diary keeps the moments that it looked at.
import NativeBridge.Invocation.Signal
import NativeBridge.Proofs.Balance
import NativeBridge.Relay.Drain

namespace NativeBridge

/-! ## The state of outside code -/

/-- What outside code has to its name. -/
structure Ledger where
  /-- The references to native objects that it holds, one entry each. -/
  refs : List ObjectId := []
  /-- The objects of the emissions that it started and that still run. -/
  emitting : List ObjectId := []
  /-- Its holders of shared things. -/
  held : List Release := []

structure Outside (τ : Type) where
  ledger : Ledger := {}
  /-- The moments that it looked at, the last one first. -/
  diary : List (System Ledger) := []
  /-- Whatever else it keeps in mind. -/
  memory : τ

/-- The state of both sides with outside code in it. -/
abbrev World (τ : Type) := System (Outside τ)

namespace World

variable {τ : Type}

/-- The beginning: nothing exists. -/
def start (memory : τ) : World τ := { guest := { memory } }

/-- The state as outside code sees it: its memory and diary left out. -/
def moment (s : World τ) : System Ledger := { s with guest := s.guest.ledger }

def changeLedger (f : Ledger → Ledger) (s : World τ) : World τ :=
  { s with guest := { s.guest with ledger := f s.guest.ledger } }

end World

namespace Ledger

/-- New holders of shared things. -/
def gain (l : Ledger) (releases : List Release) : Ledger := { l with held := releases ++ l.held }

/-- A holder that is given up, by its place. -/
def lose (l : Ledger) (place : Nat) : Ledger := { l with held := l.held.eraseIdx place }

/-- A new reference to an object. -/
def take (l : Ledger) (o : ObjectId) : Ledger := { l with refs := o :: l.refs }

/-- A reference that is given up. -/
def spend (l : Ledger) (o : ObjectId) : Ledger := { l with refs := l.refs.erase o }

def startEmission (l : Ledger) (o : ObjectId) : Ledger := { l with emitting := o :: l.emitting }

def endEmission (l : Ledger) : Ledger := { l with emitting := l.emitting.tail }

end Ledger

/-! ## Changes that count nothing -/

/-- A change of the native types. -/
inductive TypeChange where
  | define (name : String) (parent : Option TypeId)
  | addInterface (type face : TypeId)
  | defineSignal (type : TypeId) (name : String) (shape : SignalDef)

def TypeChange.apply (types : Hierarchy) : TypeChange → Except NativeError Hierarchy
  | define name parent => types.define (TypeId.ofName name) name parent
  | addInterface type face => types.addInterface type face
  | defineSignal type name shape => types.defineSignal type name shape

/-- A registration. -/
inductive RegistryChange where
  | register (typeName package : String) (c : Classification) (strategy : Option Strategy)
  | registerEnum (typeName package : String) (values : List (Symbol Int32))
  | registerFlags (typeName package : String) (values : List (Symbol UInt32))
  | registerAlias (typeName aliasPackage : String)
  | registerSynonym (typeName synonym : String)
  | registerErrorDomain (domain enumName package : String)
  | registerSink (type : TypeId) (sink : SinkFunction)

def RegistryChange.apply (r : Registry) : RegistryChange → Except RegistrationError Registry
  | register typeName package c strategy =>
    (r.register (TypeId.ofName typeName) typeName package c strategy).map (·.2)
  | registerEnum typeName package values =>
    (r.registerEnum (TypeId.ofName typeName) typeName package values).map (·.2)
  | registerFlags typeName package values =>
    (r.registerFlags (TypeId.ofName typeName) typeName package values).map (·.2)
  | registerAlias typeName aliasPackage =>
    r.registerAlias (TypeId.ofName typeName) typeName aliasPackage
  | registerSynonym typeName synonym =>
    r.registerSynonym (TypeId.ofName typeName) typeName (TypeId.ofName synonym) synonym
  | registerErrorDomain domain enumName package =>
    r.registerErrorDomain domain (TypeId.ofName enumName) enumName package
  | registerSink type sink => .ok (r.registerSink type sink)

/-- A change that gives no one a reference or a holder. -/
inductive Arrangement where
  | changeTypes (change : TypeChange)
  /-- A new registry, with the fundamentals or without. -/
  | newRegistry (fundamentals : Bool)
  | changeRegistry (id : RegistryId) (change : RegistryChange)
  | newRelay (maxPending : Option Nat)
  | install (id : RelayId) (function : FaultFunction)
  | uninstall (id : RelayId) (handler : RelayHandlerId)
  | setErrorSlot (r : RuntimeId) (fault : Option Fault)
  | setMarshaller (r : RuntimeId) (entry : MarshallerEntry)
  | shareTree (tree : Variant)
  | enter (r : RuntimeId)
  | leave (r : RuntimeId)
  /-- Goes to work on another thread, with what is entered there. -/
  | goToThread (number : Nat) (entered : List RuntimeId)

namespace Arrangement

variable {σ : Type}

/-- A change that fails changes nothing. -/
def apply (s : System σ) : Arrangement → System σ
  | changeTypes change =>
    match change.apply s.heap.types with
    | .ok types => { s with heap := { s.heap with types } }
    | .error _ => s
  | newRegistry fundamentals => (s.addRegistry (if fundamentals then .withFundamentals else {})).2
  | changeRegistry id change =>
    match change.apply (s.registry id) with
    | .ok registry => s.setRegistry id registry
    | .error _ => s
  | newRelay maxPending => (s.addRelay (.withLimit maxPending)).2
  | install id function => s.modifyRelay id fun relay => (relay.install function).2
  | uninstall id handler => s.modifyRelay id (·.uninstall handler)
  | setErrorSlot r fault => s.setErrorSlot r fault
  | setMarshaller r entry => s.setMarshaller r entry
  | shareTree tree => (s.share tree).2
  | enter r => s.enter r
  | leave r => s.leave r
  | goToThread number entered => { s with thread := number, entered }

end Arrangement

/-! ## Deeds -/

/-- One thing that outside code does. -/
inductive Deed (τ : Type) where
  | arrange (arrangement : Arrangement)
  -- the native side
  | instantiate (type : TypeId)
  | ref (o : ObjectId)
  | unref (o : ObjectId)
  | emit (o : ObjectId) (signal : String) (args : List NativeValue)
  | connect (o : ObjectId) (signal : String) (subscriber : Subscriber) (after : Bool)
  | disconnect (o : ObjectId) (id : HandlerId)
  -- shared things
  | newCallable
  | newBridge (config : BridgeConfig) (registry : RegistryId) (relay : Option RelayId)
  | newClosure (r : RuntimeId) (callable : Callable) (data : Option Handle) (swap : Bool)
    (marshaller : Option Marshaller) (origin : Option String)
  | newCallback (r : RuntimeId) (callable : Callable) (data : Option Handle)
    (paramTypes : List TypeId) (returnType : Option TypeId)
  /-- Becomes another holder of something in use. -/
  | keep (shared : Release)
  /-- Gives up the holder at this place of the ledger. -/
  | letGo (place : Nat)
  | adopt (w : ObjectWrapper)
  -- conversions
  | wrap (r : RuntimeId) (o : ObjectId) (owned : Bool)
  | unwrap (r : RuntimeId) (h : Handle) (expected : TypeId)
  | wrapBoxed (r : RuntimeId) (block : Block) (type : TypeId) (owned : Bool)
  | wrapBoxedCopy (r : RuntimeId) (block : Block) (type : TypeId)
  | unwrapBoxed (r : RuntimeId) (h : Handle) (type : TypeId)
  | toHandle (r : RuntimeId) (v : TypedValue)
  | fromHandle (r : RuntimeId) (h : Handle) (expected : TypeId)
  -- signals and calls
  | connectSignal (r : RuntimeId) (h : Handle) (signal : String) (callable : Callable)
    (data : Option Handle) (after swapped : Bool)
  | disconnectSignal (h : Handle) (id : HandlerId)
  | invoke (c : Closure) (params : List TypedValue) (returnType : Option TypeId)
  | invokeCallback (c : Callback) (r : RuntimeId) (args : List NativeValue)
  -- upkeep
  | sweep (r : RuntimeId)
  | runPending (r : RuntimeId)
  | drain (id : RelayId)
  | capture (id : RelayId) (fault : Fault) (origin : String) (r : RuntimeId)
  -- outside code itself
  /-- Takes down the present moment. -/
  | look
  | remember (memory : τ)

def dataReleases (data : Option Handle) : List Release := (data.map Handle.releases).getD []

namespace Deed

variable {τ : Type}

/-- What a deed uses, and must not end before the deed does. -/
def uses : Deed τ → List Release
  | connect _ _ subscriber _ => subscriber.releases
  | newClosure _ callable data _ _ _ => .callable callable :: dataReleases data
  | newCallback _ callable data _ _ => .callable callable :: dataReleases data
  | keep shared => [shared]
  | adopt w => [.wrapper w]
  | wrap r _ _ => [.bridge r]
  | unwrap r h _ => .bridge r :: h.releases
  | wrapBoxed r _ _ _ => [.bridge r]
  | wrapBoxedCopy r _ _ => [.bridge r]
  | unwrapBoxed r h _ => .bridge r :: h.releases
  | toHandle r _ => [.bridge r]
  | fromHandle r h _ => .bridge r :: h.releases
  | connectSignal r h _ callable data _ _ =>
    .bridge r :: .callable callable :: (h.releases ++ dataReleases data)
  | disconnectSignal h _ => h.releases
  | invoke c _ _ => [.closure c]
  | invokeCallback c r _ => [.callback c, .bridge r]
  | sweep r => [.bridge r]
  | runPending r => [.bridge r]
  | _ => []

end Deed

/-! ## Doing them -/

namespace System

variable {σ : Type}

/-- A shared thing gets one more holder. References to objects are not
taken this way. -/
def keep (s : System σ) : Release → System σ
  | .wrapper w => s.holdHandle (.object w)
  | .boxed w => s.holdHandle (.boxed w)
  | .callable c => s.holdCallable c
  | .closure c => s.holdClosure c
  | .callback c => s.holdCallback c
  | .bridge r => s.holdBridge r
  | .object _ | .defensive _ => s

/-- Something that was made, and that someone holds. -/
def InUse (s : System σ) (t : Release) : Prop :=
  t.account.IsShared ∧ s.books.Knows t ∧ s.books.holders t.account ≠ 0

end System

section

variable {τ : Type}

/-- Enters something in the ledger. -/
def enterInLedger (f : Ledger → Ledger) : Action (Outside τ) Unit := modify (World.changeLedger f)

/-- Enters the holders that a result brings. -/
def gainResult (outcome : Except BridgeError Handle) : Action (Outside τ) Unit :=
  match outcome with
  | .ok h => enterInLedger (·.gain h.releases)
  | .error _ => return ()

/-- An attempt whose outcome brings no holders. -/
def attempting {α : Type} (a : Attempt (Outside τ) α) : Action (Outside τ) Unit := do
  let _ ← a.run

/-- Carries out an action while holding what it uses. -/
def usingAll (releases : List Release) (a : Action (Outside τ) Unit) : Action (Outside τ) Unit := do
  modify fun s => releases.foldl System.keep s
  a
  modify (·.release releases)

end

namespace Deed

variable {τ : Type}

/-- Wraps an object. For a first owned wrap the caller hands over a
reference, which it keeps if the wrap gives an earlier wrapper or fails. -/
def runWrap (g : Guest (Outside τ)) (r : RuntimeId) (o : ObjectId) (owned : Bool) :
    Action (Outside τ) Unit := do
  let next := (← get).wrappers.size
  if owned then enterInLedger (·.spend o)
  let outcome ← (wrapObject g r o owned).run
  let isNew := (outcome.toOption.bind Handle.object?).any (·.number == next)
  if owned && !isNew then enterInLedger (·.take o)
  gainResult outcome

/-- What a deed does, apart from holding what it uses. -/
def run (g : Guest (Outside τ)) : Deed τ → Action (Outside τ) Unit
  | arrange arrangement => modify arrangement.apply
  | instantiate type => do
    match ← (changeHeap (·.instantiate type)).run with
    | .ok o => enterInLedger (·.take o)
    | .error _ => return ()
  | ref o => do
    match ← (changeHeap fun h => (h.ref o).map ((), ·)).run with
    | .ok _ => enterInLedger (·.take o)
    | .error _ => return ()
  | unref o => do
    enterInLedger (·.spend o)
    attempting (unrefObject o)
  | emit o signal args => do
    enterInLedger (·.startEmission o)
    attempting (NativeBridge.emit g o signal args)
    enterInLedger (·.endEmission)
  | connect o signal subscriber after => do
    match ← (changeHeap (·.connect o signal subscriber after)).run with
    | .ok _ => modify (·.holdSubscriber subscriber)
    | .error _ => return ()
  | disconnect o id => attempting (disconnectHandler o id)
  | newCallable => do
    let (c, s) := (← get).addCallable
    set s
    enterInLedger (·.gain [.callable c])
  | newBridge config registry relay => do
    let (r, s) := (← get).addBridge config registry relay
    set s
    enterInLedger (·.gain [.bridge r])
  | newClosure r callable data swap marshaller origin => do
    let (c, s) := (← get).addClosure r callable data swap marshaller origin
    set s
    enterInLedger (·.gain [.closure c])
  | newCallback r callable data paramTypes returnType => do
    let (c, s) := (← get).addCallback r callable data paramTypes returnType
    set s
    enterInLedger (·.gain [.callback c])
  | keep shared => do
    modify (·.keep shared)
    enterInLedger (·.gain [shared])
  | letGo place => do
    let shared := (← get).guest.ledger.held[place]?
    enterInLedger (·.lose place)
    modify (·.release shared.toList)
  | adopt w => do
    let _ ← adoptReference w
  | wrap r o owned => runWrap g r o owned
  | unwrap r h expected => attempting (unwrapObject r h expected)
  | wrapBoxed r block type owned => do
    gainResult (← (NativeBridge.wrapBoxed r block type owned).run)
  | wrapBoxedCopy r block type => do
    gainResult (← (NativeBridge.wrapBoxedCopy r block type).run)
  | unwrapBoxed r h type => attempting (NativeBridge.unwrapBoxed r h type)
  | toHandle r v => do gainResult (← (NativeBridge.toHandle r v).run)
  | fromHandle r h expected => attempting (NativeBridge.fromHandle r h expected)
  | connectSignal r h signal callable data after swapped =>
    attempting (NativeBridge.connectSignal r h signal callable data after swapped)
  | disconnectSignal h id => attempting (NativeBridge.disconnectSignal h id)
  | invoke c params returnType => attempting (c.invoke g params returnType)
  | invokeCallback c r args => attempting (c.invoke g r args)
  | sweep r => do
    let _ ← NativeBridge.sweep r
  | runPending r => attempting (runPendingOf g r)
  | drain id => attempting (NativeBridge.runPending g id)
  | capture id fault origin r => do
    let _ ← captureFault id fault origin r
  | look => modify fun s =>
    { s with guest := { s.guest with diary := World.moment s :: s.guest.diary } }
  | remember memory => modify fun s => { s with guest := { s.guest with memory } }

/-- Carries out a deed. -/
def perform (g : Guest (Outside τ)) (d : Deed τ) : Action (Outside τ) Unit :=
  usingAll d.uses (d.run g)

/-- What fair native holders keep to: a reference that is given up is one
that they hold, and a wrapper is handed none. -/
def IsFair (s : World τ) : Deed τ → Prop
  | unref o => o ∈ s.guest.ledger.refs
  | wrap _ o true => o ∈ s.guest.ledger.refs
  | adopt _ => False
  | _ => True

/-- A deed can be done when what it uses is in use. -/
structure Allowed (c : Conduct) (s : World τ) (d : Deed τ) : Prop where
  in_use : ∀ t ∈ d.uses, s.InUse t
  fair : c = .fair → d.IsFair s

/-- Whether a deed uses nothing and is fair anywhere. -/
def isFree (d : Deed τ) : Bool :=
  d.uses.isEmpty && match d with
    | unref _ => false
    | _ => true

theorem allowed_of_isFree {d : Deed τ} (h : d.isFree = true) (c : Conduct) (s : World τ) :
    d.Allowed c s := by
  unfold isFree at h
  obtain ⟨huses, hfair⟩ := Bool.and_eq_true_iff.mp h
  refine ⟨?_, fun _ => ?_⟩
  · rw [List.isEmpty_iff.mp huses]
    exact fun t ht => absurd ht List.not_mem_nil
  · cases d with
    | unref o => exact absurd hfair Bool.false_ne_true
    | adopt w => exact absurd huses Bool.false_ne_true
    | wrap r o owned => exact absurd huses Bool.false_ne_true
    | _ => trivial

end Deed

/-! ## Moves -/

section

variable {τ : Type}

/-- The state as the callee leaves it, with what it gives away still in its
ledger. -/
def returned {α : Type} (gives : α → List Release) (result : α × World τ) : World τ :=
  result.2.changeLedger (·.gain (gives result.1))

/-- The holders that a handle brings, if there is one. -/
def handleGiven {ε : Type} : Except ε Handle → List Release
  | .ok h => h.releases
  | .error _ => []

def nothingGiven {α : Type} (_ : α) : List Release := []

/-- What outside code can make of the state: deed after deed, in any order.
Whatever the library calls in the middle of a deed is outside code again,
which makes moves of its own. -/
inductive Moves (c : Conduct) : World τ → World τ → Prop where
  | rest (s : World τ) : Moves c s s
  | act (g : Guest (Outside τ)) (d : Deed τ) (s t : World τ)
    (call : ∀ f args x, Moves c x (returned handleGiven ((g.call f args).run x)))
    (native : ∀ f params type x,
      Moves c x (returned nothingGiven ((g.native f params type).run.run x)))
    (sink : ∀ f o x, Moves c x (returned nothingGiven ((g.sink f o).run x)))
    (takeFault : ∀ f fault x, Moves c x (returned nothingGiven ((g.takeFault f fault).run x)))
    (marshalArgument : ∀ m r i v x,
      Moves c x (returned handleGiven ((g.marshalArgument m r i v).run.run x)))
    (marshalResult : ∀ m r h type x,
      Moves c x (returned nothingGiven ((g.marshalResult m r h type).run.run x)))
    (allowed : d.Allowed c s) (next : Moves c ((d.perform g).run s).2 t) : Moves c s t

end

section

variable {τ : Type}

/-- Code that the library calls, and that only makes moves. -/
structure Guest.IsOutside (c : Conduct) (g : Guest (Outside τ)) : Prop where
  call : ∀ f args x, Moves c x (returned handleGiven ((g.call f args).run x))
  native : ∀ f params type x,
    Moves c x (returned nothingGiven ((g.native f params type).run.run x))
  sink : ∀ f o x, Moves c x (returned nothingGiven ((g.sink f o).run x))
  takeFault : ∀ f fault x, Moves c x (returned nothingGiven ((g.takeFault f fault).run x))
  marshalArgument : ∀ m r i v x,
    Moves c x (returned handleGiven ((g.marshalArgument m r i v).run.run x))
  marshalResult : ∀ m r h type x,
    Moves c x (returned nothingGiven ((g.marshalResult m r h type).run.run x))

end

/-- A moment that outside code of the given conduct can come to. -/
def Reachable (c : Conduct) (m : System Ledger) : Prop :=
  ∃ (τ : Type) (memory : τ) (t : World τ), Moves c (World.start memory) t ∧ m ∈ t.guest.diary

/-- A state at such a moment, with such moments in its diary. -/
structure World.Reached {τ : Type} (c : Conduct) (s : World τ) : Prop where
  now : Reachable c s.moment
  past : ∀ m ∈ s.guest.diary, Reachable c m

/-! ## Code that does nothing -/

/-- Code that gives the plainest answer and does nothing. -/
def Guest.idle (σ : Type) : Guest σ where
  call _ _ := return .ok .undefined
  native _ _ _ := return none
  sink _ _ := return ()
  takeFault _ _ := return .ok true
  marshalArgument _ _ _ _ := return .undefined
  marshalResult _ _ _ type := return ⟨type, .null⟩
  patience := 0

section

variable {τ : Type} {c : Conduct}

theorem Guest.idle_isOutside : (Guest.idle (Outside τ)).IsOutside c where
  call _ _ x := .rest x
  native _ _ _ x := .rest x
  sink _ _ x := .rest x
  takeFault _ _ x := .rest x
  marshalArgument _ _ _ _ x := .rest x
  marshalResult _ _ _ _ x := .rest x

theorem Moves.trans {s t u : World τ} (h : Moves c s t) (hu : Moves c t u) : Moves c s u := by
  induction h with
  | rest s => exact hu
  | act g d s t call native sink takeFault argument result allowed _ _ _ _ _ _ _ ih =>
    exact .act g d s u call native sink takeFault argument result allowed (ih hu)

/-- One deed is a move. -/
theorem Moves.deed {g : Guest (Outside τ)} (hg : g.IsOutside c) {d : Deed τ} {s : World τ}
    (hallowed : d.Allowed c s) : Moves c s ((d.perform g).run s).2 :=
  .act g d s _ hg.call hg.native hg.sink hg.takeFault hg.marshalArgument hg.marshalResult hallowed
    (.rest _)

/-- Outside code can look at any state that it can come to. -/
theorem Moves.reached {memory : τ} {s : World τ} (h : Moves c (World.start memory) s) :
    s.Reached c where
  now := by
    have hlook : Moves c s ((Deed.look.perform (Guest.idle _)).run s).2 :=
      Moves.deed Guest.idle_isOutside (Deed.allowed_of_isFree rfl c s)
    have hrun : ((Deed.look.perform (Guest.idle _)).run s).2 =
        ((Deed.look.run (Guest.idle _)).run s).2.release [] := rfl
    rw [hrun, System.release_nil] at hlook
    exact ⟨τ, memory, _, h.trans hlook, List.mem_cons_self⟩
  past m hm := ⟨τ, memory, s, h, hm⟩

/-- Deeds one after another. -/
def carryOut (g : Guest (Outside τ)) (deeds : List (Deed τ)) (s : World τ) : World τ :=
  deeds.foldl (fun s d => ((d.perform g).run s).2) s

theorem Moves.carryOut {g : Guest (Outside τ)} (hg : g.IsOutside c) {deeds : List (Deed τ)}
    (hfree : deeds.all Deed.isFree = true) (s : World τ) : Moves c s (carryOut g deeds s) := by
  induction deeds generalizing s with
  | nil => exact .rest s
  | cons d rest ih =>
    rw [List.all_cons, Bool.and_eq_true] at hfree
    exact (Moves.deed hg (Deed.allowed_of_isFree hfree.1 c s)).trans (ih hfree.2 _)

end

/-! ## A small run -/

namespace Sample

def type : TypeId := TypeId.ofName "Node"

def object : ObjectId := ⟨0, 0⟩

def bridge : RuntimeId := ⟨0⟩

/-- A type that is shown as a package, a bridge, and an object. -/
def deeds : List (Deed Unit) :=
  [.arrange (.changeTypes (.define "Node" none)), .arrange (.newRegistry false),
    .arrange (.changeRegistry ⟨0⟩ (.register "Node" "Ui::Node" .object none)),
    .newBridge {} ⟨0⟩ none, .instantiate type]

def world : World Unit := carryOut (.idle _) deeds (.start ())

/-- The object has a borrowed wrapper. -/
def wrapped : World Unit := (((Deed.wrap bridge object false).perform (.idle _)).run world).2

def wrapper : ObjectWrapper := ⟨0, object, type, "Ui::Node", .borrowed⟩

theorem moves_world (c : Conduct) : Moves c (World.start ()) world :=
  Moves.carryOut Guest.idle_isOutside rfl _

theorem world_reached (c : Conduct) : world.Reached c := (moves_world c).reached

theorem wrapped_reached (c : Conduct) : wrapped.Reached c := by
  have halive : world.isBridgeAlive bridge = true := by decide +kernel
  have hallowed : (Deed.wrap bridge object false).Allowed c world := by
    refine ⟨?_, fun _ => trivial⟩
    intro t ht
    rw [List.mem_singleton.mp ht]
    exact ⟨trivial, trivial, System.isBridgeAlive_iff.mp halive⟩
  exact ((moves_world c).trans (Moves.deed Guest.idle_isOutside hallowed)).reached

end Sample

end NativeBridge
