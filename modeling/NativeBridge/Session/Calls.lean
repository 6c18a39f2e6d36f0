-- The steps on callables, closures, callbacks and relays.
import NativeBridge.Relay.Drain
import NativeBridge.Session.Evaluate

namespace NativeBridge.Session

/-! ## Binding what calls -/

/-- Binds a label to a closure, which the label holds from now on. -/
def bindClosure (label : String) (c : Closure) : Run Unit := do
  let old := (← guest).closures.get? label
  changeGuest fun g => { g with closures := g.closures.set label c }
  modify (·.release (old.toList.map .closure))

/-- Binds a label to a callback, which the label holds from now on. -/
def bindCallback (label : String) (c : Callback) : Run Unit := do
  let old := (← guest).callbacks.get? label
  changeGuest fun g => { g with callbacks := g.callbacks.set label c }
  modify (·.release (old.toList.map .callback))

/-- Binds a label to a callable, which the label holds from now on. -/
def bindCallable (label : String) (c : Callable) : Run Unit := do
  let old := (← guest).callables.get? label
  changeGuest fun g => { g with callables := g.callables.set label c }
  modify (·.release (old.toList.map .callable))

/-! ## Calls -/

def runCallStep (g : Guest State) (frame : Frame) : CallStep → Run Answer
  | .call handle args label => do
    let h ← evalKept frame handle
    let some c := h.callable? | refuse "not a callable handle"
    let args ← evalArguments frame args
    match ← act (g.call c args) with
    | .ok value => return .called (.ok (← deliverHandle label value))
    | .error fault => return .called (.error fault)
  | .dropCallable label => do
    let old := (← guest).callables.get? label
    changeGuest fun g => { g with callables := g.callables.erase label }
    modify (·.release (old.toList.map .callable))
    return .nothing
  | .callableRefs label => do
    let c ← require "callable" label ((← guest).callables.get? label)
    return .number ((← get).callables.holders c.number)
  | .closure bridge callable data swap marshaller label => do
    let r ← bridgeAt bridge
    let c ← callableAt callable
    let data ← evalData frame data
    let marshaller ← buildMarshaller marshaller
    let (closure, s) := (← get).addClosure r c data swap marshaller none
    set s
    bindClosure label closure
    return .closure closure
  | .closureInfo label => do
    let c ← closureAt label
    let s ← get
    return .closureState ⟨c, c.data.map (shown s), s.guest.labelOf? c.callable⟩
  | .inspectClosure label => do return .text (← closureAt label).inspect
  | .invoke closure params ret => do
    let c ← closureAt closure
    let params ← params.mapM (evalTyped frame)
    return .maybeTyped (← attempt (c.invoke g params ret))
  | .dropClosure label => do
    let old := (← guest).closures.get? label
    changeGuest fun g => { g with closures := g.closures.erase label }
    modify (·.release (old.toList.map .closure))
    return .nothing
  | .connect bridge handle signal callable data after swapped label => do
    let r ← bridgeAt bridge
    let h ← evalKept frame handle
    let c ← callableAt callable
    let data ← evalData frame data
    let id ← attempt (connectSignal r h signal c data after swapped)
    bindSignalHandler label id
    return .text id.text
  | .disconnect bridge handle handler => do
    let _ ← bridgeAt bridge
    let h ← evalKept frame handle
    attempt (disconnectSignal h (← signalHandlerAt handler))
    return .nothing
  | .setMarshaller bridge type signal marshaller => do
    let r ← bridgeAt bridge
    let marshaller ← buildMarshaller marshaller
    modify (·.setMarshaller r ⟨type, signal, marshaller⟩)
    return .nothing
  | .callback bridge callable data params ret label => do
    let r ← bridgeAt bridge
    let c ← callableAt callable
    let data ← evalData frame data
    let (callback, s) := (← get).addCallback r c data params ret
    set s
    bindCallback label callback
    return .callback callback
  | .invokeCallback bridge callback args => do
    let r ← bridgeAt bridge
    let c ← callbackAt callback
    let args ← args.mapM (evalNative frame)
    return .maybeTyped (← attempt (c.invoke g r args))
  | .destroyCallback label => do
    let c ← require "callback" label ((← guest).callbacks.get? label)
    let last := (← get).callbacks.holders c.number == 1
    changeGuest fun g => { g with callbacks := g.callbacks.erase label }
    modify (·.release [.callback c])
    return .flag last

/-! ## Relays -/

def runRelayStep (g : Guest State) (place : RelayPlace) (step : RelayStep) : Run Answer := do
  match place, step with
  | .ofBridge bridge, .runPending =>
    let r ← bridgeAt bridge
    return .number (← attempt (runPendingOf g r))
  | place, .runPending => return .number (← attempt (runPending g (← relayAt place)))
  | place, .pending => return .number ((← get).relay (← relayAt place)).pending
  | place, .capture bridge fault origin =>
    let r ← bridgeAt bridge
    let id ← relayAt place
    let sequence ← act (captureFault id fault origin r)
    return .number sequence.toNat
  | place, .removeHandler label =>
    let id ← relayAt place
    let handler ← require "relay handler" label ((← guest).relayHandlers.get? label)
    let installed := ((← get).relay id).isInstalled handler
    modify (·.modifyRelay id (·.uninstall handler))
    return .flag installed
  | place, .handlerCount => return .number ((← get).relay (← relayAt place)).handlerCount
  | place, .inspect => return .text ((← get).relay (← relayAt place)).inspect

end NativeBridge.Session
