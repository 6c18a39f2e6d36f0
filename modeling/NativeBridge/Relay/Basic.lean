-- The relay of deferred failures: a queue of captured faults, oldest
-- first, and the handlers that take them. A full queue drops its oldest
-- fault, which the caller reports. A relay keeps the history of what
-- happened to it, which nothing but the laws reads.
import NativeBridge.Fault
import NativeBridge.Identity
import NativeBridge.Text.Quoted

namespace NativeBridge

/-- A fault with where, by whom and as which one it was captured. -/
structure CapturedFault where
  fault : Fault
  /-- The closure or signal that it came from. -/
  origin : String
  runtime : RuntimeId
  /-- Counts the captures of the relay. -/
  sequence : UInt64
  deriving DecidableEq, Repr, Inhabited

def CapturedFault.text (c : CapturedFault) : String := s!"{c.fault.text} (in {c.origin})"

structure InstalledHandler where
  id : RelayHandlerId
  function : FaultFunction
  deriving DecidableEq, Repr, Inhabited

/-- What can happen to a relay. -/
inductive RelayEvent where
  | captured (c : CapturedFault)
  /-- The oldest fault went without being shown, for want of room. -/
  | dropped (c : CapturedFault)
  /-- A drain took the oldest fault. -/
  | taken (c : CapturedFault)
  | shown (h : RelayHandlerId) (c : CapturedFault)
  /-- A handler came back, and said whether it stays. -/
  | answered (h : RelayHandlerId) (stays : Bool)
  /-- A handler came back with a fault of its own. -/
  | failed (h : RelayHandlerId) (fault : Fault)
  | installed (h : RelayHandlerId)
  | uninstalled (h : RelayHandlerId)
  deriving DecidableEq, Repr

/-- The return of a handler. -/
def RelayEvent.ofAnswer (h : RelayHandlerId) : Except Fault Bool → RelayEvent
  | .ok stays => .answered h stays
  | .error fault => .failed h fault

structure Relay where
  /-- The faults that wait, the oldest first. -/
  queue : List CapturedFault := []
  /-- The handlers, in the order of installation. -/
  handlers : List InstalledHandler := []
  /-- The handlers that are at work, and so are not entered again. -/
  running : List RelayHandlerId := []
  /-- The most faults that may wait, if there is a limit. -/
  maxPending : Option Nat := none
  nextHandler : UInt64 := 1
  nextSequence : UInt64 := 0
  /-- What happened so far, the last first. -/
  history : List RelayEvent := []
  deriving Repr, Inhabited

namespace Relay

/-- An empty relay with this limit. -/
def withLimit (maxPending : Option Nat) : Relay := { maxPending }

/-- Whether a queue of this length is longer than the limit. -/
def exceeds (r : Relay) (length : Nat) : Bool :=
  match r.maxPending with
  | some most => most < length
  | none => false

/-- Queues a fault. The oldest one comes out if there is no room. -/
def capture (r : Relay) (fault : Fault) (origin : String) (runtime : RuntimeId) :
    UInt64 × Option CapturedFault × Relay :=
  let captured : CapturedFault := ⟨fault, origin, runtime, r.nextSequence⟩
  let queue := r.queue ++ [captured]
  let history := .captured captured :: r.history
  let r := { r with nextSequence := r.nextSequence + 1 }
  if r.exceeds queue.length then
    let oldest := r.queue.headD captured
    (captured.sequence, some oldest,
      { r with queue := queue.tail, history := .dropped oldest :: history })
  else (captured.sequence, none, { r with queue, history })

/-- Takes the oldest fault. -/
def pop? (r : Relay) : Option (CapturedFault × Relay) :=
  match r.queue with
  | [] => none
  | oldest :: queue => some (oldest, { r with queue, history := .taken oldest :: r.history })

def install (r : Relay) (function : FaultFunction) : RelayHandlerId × Relay :=
  let id : RelayHandlerId := ⟨r.nextHandler⟩
  (id, { r with
    nextHandler := r.nextHandler + 1
    handlers := r.handlers ++ [⟨id, function⟩]
    history := .installed id :: r.history })

/-- Whether a handler is installed. -/
def isInstalled (r : Relay) (id : RelayHandlerId) : Bool := r.handlers.any (·.id == id)

def uninstall (r : Relay) (id : RelayHandlerId) : Relay :=
  if r.isInstalled id then
    { r with
      handlers := r.handlers.filter (·.id != id)
      history := .uninstalled id :: r.history }
  else r

/-- Whether a handler is at work. -/
def isRunning (r : Relay) (id : RelayHandlerId) : Bool := r.running.contains id

/-- A handler goes to work on a fault. -/
def start (r : Relay) (id : RelayHandlerId) (captured : CapturedFault) : Relay :=
  { r with running := id :: r.running, history := .shown id captured :: r.history }

/-- A handler comes back. -/
def finish (r : Relay) (id : RelayHandlerId) (answer : Except Fault Bool) : Relay :=
  { r with running := r.running.erase id, history := .ofAnswer id answer :: r.history }

def pending (r : Relay) : Nat := r.queue.length

def handlerCount (r : Relay) : Nat := r.handlers.length

/-- A limit in words. -/
def inspectLimit : Option Nat → String
  | some most => s!"Some({most})"
  | none => "None"

def inspect (r : Relay) : String :=
  Text.record "ExceptionRelay"
    [("pending", toString r.pending), ("handlers", toString r.handlerCount),
      ("max_pending", inspectLimit r.maxPending)]
    true

end Relay

end NativeBridge
