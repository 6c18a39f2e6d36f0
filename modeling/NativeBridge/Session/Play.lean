-- Playing a session. Scripts call scripts, so the code that the library
-- calls is built in levels: a script of one level runs its steps with the
-- scripts of the level below.
import NativeBridge.Session.Calls
import NativeBridge.Session.Native
import NativeBridge.Session.Values

namespace NativeBridge.Session

/-! ## Steps -/

/-- Runs one step. Its events and what it held are its own. -/
def recorded (run : Run Answer) : Action State Result := do
  modify flushNotices
  let outer := (← get).guest
  modify fun s => { s with guest := { s.guest with events := [], held := [] } }
  let outcome ← run.run
  modify fun s => s.release s.guest.held
  modify flushNotices
  let events := (← get).guest.events
  modify fun s => { s with guest := { s.guest with events := outer.events, held := outer.held } }
  return .mk outcome events

/-- Starts a thread: nothing is entered on it. -/
def startThread (s : System State) : System State :=
  let number := s.guest.threads + 1
  { s with
    thread := number
    entered := []
    guest := { s.guest with threads := number, guards := [] } }

/-- Goes back to the thread that was at work before. Guards that the ended
thread still held go with it. -/
def returnToThread (before s : System State) : System State :=
  { s with
    thread := before.thread
    entered := before.entered
    guest := { s.guest with guards := before.guest.guards } }

/-- Runs an action some times. Gives the last result. -/
def repeatedly (run : Action State Result) : Nat → Option Result → Action State (Option Result)
  | 0, last => return last
  | times + 1, _ => do
    let result ← run
    repeatedly run times (some result)

mutual

/-- What a step does. -/
def perform (g : Guest State) (frame : Frame) : Step → Run Answer
  | .heap step => runHeapStep g frame step
  | .registry place step => runRegistryStep place step
  | .setup step => runSetupStep step
  | .value bridge step => runValueStep g frame bridge step
  | .handle step => runHandleStep frame step
  | .call step => runCallStep g frame step
  | .relay place step => runRelayStep g place step
  | .callable label script => do
    let (c, s) := (← get).addCallable
    let routine : Routine CallOutcome := { label, script }
    set { s with
      guest := { s.guest with callableRoutines := s.guest.callableRoutines.push routine } }
    bindCallable label c
    return .nothing
  | .connectNative object signal after label script => do
    let o ← evalObject frame object
    let function : NativeFunction := ⟨(← guest).nativeRoutines.size⟩
    let routine : Routine NativeOutcome := { label := label.getD "", script }
    changeGuest fun g => { g with nativeRoutines := g.nativeRoutines.push routine }
    let id ← attempt (changeHeap (·.connect o signal (.native function) after))
    bindSignalHandler label id
    return .text id.text
  | .registerSink place type label script => do
    let id ← registryAt place
    let sink : SinkFunction := ⟨(← guest).sinkRoutines.size⟩
    let routine : Routine Unit := { label, script }
    changeGuest fun g => { g with sinkRoutines := g.sinkRoutines.push routine }
    modify fun s => s.setRegistry id ((s.registry id).registerSink type sink)
    return .nothing
  | .installHandler place label quiet script => do
    let id ← relayAt place
    let function : FaultFunction := ⟨(← guest).handlerRoutines.size⟩
    let routine : Routine HandlerOutcome := { label, script }
    changeGuest fun g => { g with handlerRoutines := g.handlerRoutines.push (quiet, routine) }
    let (handler, relay) := ((← get).relay id).install function
    modify (·.modifyRelay id fun _ => relay)
    changeGuest fun g => { g with relayHandlers := g.relayHandlers.set label handler }
    return .nothing
  | .thread steps => do
    let before ← get
    modify startThread
    let results ← act (performAll g frame steps)
    modify (returnToThread before)
    return .results results
  | .repeated times step => do
    match ← act (repeatedly (recorded (perform g frame step)) times none) with
    | some result => return .result result
    | none => return .nothing

/-- Runs steps one after another. -/
def performAll (g : Guest State) (frame : Frame) : List Step → Action State (List Result)
  | [] => return []
  | step :: rest => do
    let result ← recorded (perform g frame step)
    let results ← performAll g frame rest
    return result :: results

end

/-! ## Scripts -/

/-- Runs the steps of a script. A script that raises ends with its first
failing step, and with a fault that has its message. -/
def runBody (g : Guest State) (frame : Frame) (raises : Bool) :
    List Step → Action State (List Result × Option Fault)
  | [] => return ([], none)
  | step :: rest => do
    let result ← recorded (perform g frame step)
    match raises, result.failure? with
    | true, some failure => return ([result], some (.ofMessage failure.message))
    | _, _ =>
      let (results, fault) ← runBody g frame raises rest
      return (result :: results, fault)

/-- Runs a script for a call: its steps, and then its outcome. -/
def runScript {ω : Type} (g : Guest State) (frame : Frame) (routine : Routine ω) :
    Action State (List Result × Except Fault (Option ω)) := do
  let script := routine.script
  let (results, fault) ← runBody g frame script.raises (script.bodyAt routine.calls)
  match fault with
  | some fault => return (results, .error fault)
  | none => return (results, .ok (script.outcomeAt? routine.calls))

/-- The routine with a number, counted as called once more. -/
def takeRoutine {ω : Type} (routines : Array (Routine ω)) (number : Nat) :
    Option (Routine ω) × Array (Routine ω) :=
  (routines[number]?, routines.modify number fun r => { r with calls := r.calls + 1 })

def callScript (g : Guest State) (c : Callable) (args : List Handle) :
    Action State (Except Fault Handle) := do
  let s ← get
  let (routine, routines) := takeRoutine s.guest.callableRoutines c.number
  set { s with guest := { s.guest with callableRoutines := routines } }
  match routine with
  | none => return .ok .undefined
  | some routine =>
    let shownArgs := args.map (shown s)
    let frame : Frame := { args }
    let (results, ended) ← runScript g frame routine
    let outcome ←
      match ended with
      | .error fault => pure (.error fault)
      | .ok (some (.raise fault)) => pure (.error fault)
      | .ok (some (.give value)) => do
        match ← (evalHandle frame value).run with
        | .ok h => pure (.ok h)
        | .error failure => pure (.error (.ofMessage failure.message))
      | .ok _ => pure (.ok .undefined)
    modify fun s => addEvent s (.called routine.label shownArgs results (outcome.map (shown s)))
    return outcome

/-- The object that a native closure is about: its first parameter. -/
def selfOf (params : List TypedValue) : Option ObjectId :=
  match params with
  | ⟨_, .object o⟩ :: _ => some o
  | _ => none

def nativeScript (g : Guest State) (f : NativeFunction) (params : List TypedValue)
    (returnType : Option TypeId) : Attempt State (Option TypedValue) := do
  let s ← get
  let (routine, routines) := takeRoutine s.guest.nativeRoutines f.number
  set { s with guest := { s.guest with nativeRoutines := routines } }
  match routine with
  | none => return none
  | some routine =>
    let frame : Frame := { self := selfOf params }
    let (results, ended) ← doing (runScript g frame routine)
    let outcome ←
      match ended with
      | .error fault => pure (.error (.raised fault))
      | .ok (some (.refuse expected actual)) =>
        pure (.error (.conversion (.typeMismatch expected actual)))
      | .ok (some (.give value)) => do
        match ← doing (evalTyped frame value).run with
        | .ok value => pure (.ok (some value))
        | .error failure => pure (.error (.raised (.ofMessage failure.message)))
      | .ok _ => pure (.ok none)
    modify fun s => addEvent s (.native routine.label params returnType results outcome)
    endIn outcome

def sinkScript (g : Guest State) (sink : SinkFunction) (o : ObjectId) : Action State Unit := do
  let s ← get
  let (routine, routines) := takeRoutine s.guest.sinkRoutines sink.number
  set { s with guest := { s.guest with sinkRoutines := routines } }
  match routine with
  | none => return ()
  | some routine =>
    let (results, _) ← runScript g { self := some o } routine
    modify fun s => addEvent s (.sunk routine.label o results)

def handlerScript (g : Guest State) (f : FaultFunction) (captured : CapturedFault) :
    Action State (Except Fault Bool) := do
  let s ← get
  match s.guest.handlerRoutines[f.number]? with
  | none => return .ok true
  | some (quiet, routine) =>
    let routines := s.guest.handlerRoutines.modify f.number fun (quiet, r) =>
      (quiet, { r with calls := r.calls + 1 })
    set { s with guest := { s.guest with handlerRoutines := routines } }
    let (results, ended) ← runScript g {} routine
    let outcome :=
      match ended with
      | .error fault => .error fault
      | .ok (some (.fail fault)) => .error fault
      | .ok (some .remove) => .ok false
      | .ok _ => .ok true
    unless quiet do
      modify fun s => addEvent s (.handled routine.label captured results outcome)
    return outcome

/-! ## Marshallers -/

/-- What a run gives, or the error that it ends in. -/
def asAttempt {α : Type} (run : Run α) : Attempt State α := ExceptT.mk do
  match ← run.run with
  | .ok value => return .ok value
  | .error (.bridge e) => return .error e
  | .error (.input message) => return .error (.raised (.ofMessage message))

def marshalArgumentScript (m : Marshaller) (r : RuntimeId) (index : Nat) (v : TypedValue) :
    Attempt State Handle := do
  match (← get).guest.marshallers[m.number]? with
  | some (.scripted name arguments refusals _ _) =>
    modify fun s => addEvent s (.marshalArgument name index v)
    match refusals.lookup index, arguments.lookup index with
    | some (expected, actual), _ => throw (.conversion (.typeMismatch expected actual))
    | none, some value => asAttempt (evalHandle {} value)
    | none, none => toHandle r v
  | _ => toHandle r v

def marshalResultScript (m : Marshaller) (r : RuntimeId) (h : Handle) (type : TypeId) :
    Attempt State TypedValue := do
  match (← get).guest.marshallers[m.number]? with
  | some (.scripted name _ _ result refusal) =>
    modify fun s => addEvent s (.marshalResult name h type)
    match refusal, result with
    | some (expected, actual), _ => throw (.conversion (.typeMismatch expected actual))
    | none, some value => asAttempt (do return ⟨type, ← evalNative {} value⟩)
    | none, none => fromHandle r h type
  | _ => fromHandle r h type

/-! ## Levels -/

/-- The scripts of a session, over the scripts that their steps call. -/
def guestOver (inner : Guest State) (patience : Nat) : Guest State where
  call := callScript inner
  native := nativeScript inner
  sink := sinkScript inner
  takeFault := handlerScript inner
  marshalArgument := marshalArgumentScript
  marshalResult := marshalResultScript
  patience := patience

/-- The scripts of a session, nested at most to a given depth. -/
def guestTo (patience : Nat) : Nat → Guest State
  | 0 => .unreachable State
  | depth + 1 => guestOver (guestTo patience depth) patience

/-- How deep scripts may call each other. -/
def depthLimit : Nat := 4000

/-- How many faults one drain may take. -/
def drainLimit : Nat := 1000000

/-- A session before its first step: an empty heap, and a registry with
the fundamentals. -/
def initial : System State :=
  let (id, s) := ({ guest := {} } : System State).addRegistry .withFundamentals
  { s with guest := { s.guest with registries := ({} : Table String RegistryId).set "r" id } }

/-- Plays a session. The state tells whether it was cut short. -/
def play (steps : List Step) : List Result × System State :=
  performAll (guestTo drainLimit depthLimit) {} steps |>.run initial

end NativeBridge.Session
