-- Boxed structures. The strategy of the type builds the wrapper, and an
-- owned wrapper is destroyed by that same strategy with its last handle.
import NativeBridge.Bridge.Wrap

namespace NativeBridge

variable {σ : Type}

/-- The registration of a boxed type, with its strategy. -/
def System.boxedStrategy (s : System σ) (r : RuntimeId) (type : TypeId) :
    Except ConversionError (Resolved × BoxedStrategy) :=
  match (s.registryOf r).resolve type with
  | none => .error (s.unconvertible r type)
  | some info =>
    match info.entry.strategy with
    | some (.boxed strategy) => .ok (info, strategy)
    | _ => .error (.typeMismatch "boxed" info.entry.classification.text)

/-- A conversion that fails as a conversion error. -/
def converting {α : Type} (result : Except ConversionError α) : Attempt σ α :=
  match result with
  | .ok value => return value
  | .error e => throw (.conversion e)

/-- Wraps a block. An owned wrapper is destroyed with its last handle. -/
def wrapBoxed (r : RuntimeId) (block : Block) (type : TypeId) (owned : Bool) :
    Attempt σ Handle := do
  let (info, strategy) ← converting ((← get).boxedStrategy r type)
  modify (·.announce strategy .wrap block)
  let held ← converting (strategy.wrap block)
  let s ← get
  let w : BoxedWrapper :=
    ⟨s.boxes.size, info.type, info.entry.package, held, .ofOwned owned⟩
  set { s with
    boxes := s.boxes.add { wrapper := w, destroyer := if owned then some strategy else none } }
  return .boxed w

/-- Wraps a private copy of a block, which the handle owns. -/
def wrapBoxedCopy (r : RuntimeId) (block : Block) (type : TypeId) : Attempt σ Handle := do
  let (_, strategy) ← converting ((← get).boxedStrategy r type)
  modify (·.announce strategy .copy block)
  wrapBoxed r (strategy.copy block) type true

/-- The block behind a handle of the type or one of its synonyms. -/
def unwrapBoxed (r : RuntimeId) (h : Handle) (type : TypeId) : Attempt σ Block := do
  let s ← get
  let (info, strategy) ← converting (s.boxedStrategy r type)
  let refused := ConversionError.typeMismatch info.entry.package h.typeName
  match h.boxed? with
  | none => throw (.conversion refused)
  | some w =>
    if (s.registryOf r).sameType w.type type then
      modify (·.announce strategy .unwrap w.block)
      converting (strategy.unwrap w.block)
    else throw (.conversion refused)

end NativeBridge
