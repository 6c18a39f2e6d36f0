-- The steps that convert, wrap and hold values, and those on the context
-- of the thread.
import NativeBridge.Session.Evaluate

namespace NativeBridge.Session

/-! ## Through a bridge -/

def runValueStep (g : Guest State) (frame : Frame) (bridge : String) (step : ValueStep) :
    Run Answer := do
  let r ← bridgeAt bridge
  match step with
  | .toHandle value label =>
    let value ← evalTyped frame value
    return .handle (← deliverHandle label (← attempt (toHandle r value)))
  | .fromHandle handle type =>
    let h ← evalKept frame handle
    return .typed (← attempt (fromHandle r h type))
  | .roundTrip value =>
    let value ← evalTyped frame value
    let h ← attempt (toHandle r value)
    keepHeld h.releases
    let back ← attempt (fromHandle r h value.type)
    return .roundTrip (shown (← get) h) back (back == value)
  | .wrap object owned label =>
    let o ← evalObject frame object
    return .handle (← deliverHandle label (← attempt (wrapObject g r o owned)))
  | .unwrap handle type =>
    let h ← evalKept frame handle
    return .text (← attempt (unwrapObject r h type)).text
  | .wrapBoxed block type owned label =>
    return .handle (← deliverHandle label (← attempt (wrapBoxed r block type owned)))
  | .wrapBoxedCopy block type label =>
    return .handle (← deliverHandle label (← attempt (wrapBoxedCopy r block type)))
  | .unwrapBoxed handle type =>
    let h ← evalKept frame handle
    return .text (← attempt (unwrapBoxed r h type)).hex
  | .sweep => return .number (← act (sweep r))
  | .liveObjects => return .number ((← get).liveObjects r)
  | .errorSlot => return .maybeFault ((← get).errorSlot r)
  | .setErrorSlot fault =>
    let old := (← get).errorSlot r
    modify (·.setErrorSlot r fault)
    return .maybeFault old
  | .checkContext =>
    attempt (checkContext r)
    return .nothing
  | .enter guardLabel =>
    modify (·.enter r)
    changeGuest fun g => { g with guards := (guardLabel, r) :: g.guards }
    return .text r.text

/-! ## Handles -/

/-- Drops the handle of a label. An unknown label is passed over. -/
def dropLabel (label : String) : Run Unit := do
  match (← guest).handles.get? label with
  | none => return ()
  | some h =>
    changeGuest fun g => { g with handles := g.handles.erase label }
    modify (·.releaseHandle h)

/-- The text of a handle for people who look for faults. -/
def inspectHandle (h : Handle) (wrapper : Bool) : String :=
  match wrapper, h with
  | true, .object w => w.inspect
  | true, .boxed w => w.inspect
  | _, h => h.inspect

def evalObjectHandle (frame : Frame) (e : HandleExpr) : Run ObjectWrapper := do
  let h ← evalKept frame e
  match h.object? with
  | some w => return w
  | none => refuse "not an object handle"

def runHandleStep (frame : Frame) : HandleStep → Run Answer
  | .keep handle label => do
    let h ← evalHandle frame handle
    return .handleState (← deliverHandle label h)
  | .inspect handle wrapper => do
    let h ← evalKept frame handle
    return .text (inspectHandle h wrapper)
  | .drop labels => do
    labels.forM dropLabel
    return .nothing
  | .same a b => do
    let x ← evalKept frame a
    let y ← evalKept frame b
    return .sameness (x.same y) (x == y)
  | .adopt handle => do
    let w ← evalObjectHandle frame handle
    return .flag (← act (adoptReference w))
  | .wrapperNative handle => do
    let w ← evalObjectHandle frame handle
    return .wrapped w (((← get).heap.refCount? w.object).map (·.toNat))
  | .leave guardLabel => do
    match (← guest).guards.find? (·.1 == guardLabel) with
    | none => return .flag false
    | some (_, r) =>
      changeGuest fun g => { g with guards := g.guards.eraseP (·.1 == guardLabel) }
      modify (·.leave r)
      return .flag true
  | .currentRuntime => do return .maybeText ((← get).currentRuntime.map (·.text))

end NativeBridge.Session
