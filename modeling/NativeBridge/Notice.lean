-- What the library reports on the side: warnings and errors for the log
-- of the embedder, and the announcements of boxed strategies.
import NativeBridge.Error
import NativeBridge.Native.Value
import NativeBridge.Relay.Basic

namespace NativeBridge

/-- A use of a boxed strategy. -/
inductive BoxedUse where
  | wrap
  | unwrap
  | copy
  | destroy
  deriving DecidableEq, Repr

def BoxedUse.text : BoxedUse → String
  | wrap => "wrap"
  | unwrap => "unwrap"
  | copy => "copy"
  | destroy => "destroy"

inductive Notice where
  /-- An object is shown as its nearest registered ancestor. -/
  | subclassFallback (typeName package : String)
  /-- The last handle of an object found it finalized. -/
  | releaseFailed (object : ObjectId) (error : NativeError)
  /-- The arena gave its reference back too late. -/
  | defensiveReleaseFailed (object : ObjectId) (error : NativeError)
  | handlerFailed (fault : Fault)
  /-- A full relay dropped its oldest fault. -/
  | queueFull (dropped : CapturedFault)
  /-- No handler could take a fault. -/
  | unhandled (captured : CapturedFault)
  /-- A boxed strategy was used on a block. -/
  | boxed (use : BoxedUse) (name : String) (block : Block)
  deriving DecidableEq, Repr

inductive Severity where
  | warning
  | error
  deriving DecidableEq, Repr

def Severity.text : Severity → String
  | warning => "WARN"
  | error => "ERROR"

namespace Notice

/-- The log line of a notice: its severity and its fields. The uses of
boxed strategies are not logged. -/
def logLine? : Notice → Option (Severity × List (String × String))
  | subclassFallback typeName package =>
    some (.warning,
      [("message", "type is not registered, representing it as its nearest registered ancestor"),
        ("type_name", typeName), ("package", package)])
  | releaseFailed object error =>
    some (.warning,
      [("message", "failed to release object"), ("object", object.text), ("error", error.message)])
  | defensiveReleaseFailed object error =>
    some (.warning,
      [("message", "failed to release defensive reference"), ("object", object.text),
        ("error", error.message)])
  | handlerFailed fault =>
    some (.warning, [("message", "exception handler failed"), ("fault", fault.text)])
  | queueFull dropped =>
    some (.error,
      [("message", "relay queue full, dropping oldest failure"), ("fault", dropped.text),
        ("sequence", toString dropped.sequence.toNat)])
  | unhandled captured =>
    some (.error,
      [("message", "unhandled exception in callback"), ("fault", captured.fault.text),
        ("origin", captured.origin), ("runtime", captured.runtime.text)])
  | boxed _ _ _ => none

end Notice

end NativeBridge
