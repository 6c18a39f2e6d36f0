-- A private copy of an argument vector that native code may change. Native
-- code sees a count and an array of pointers that ends in a null pointer.
-- It may drop and reorder arguments; anything else is refused, and the
-- copy goes back to what it was.
import NativeBridge.Error
import NativeBridge.Text.Quoted

namespace NativeBridge

/-- What a pointer of the array points at. -/
inductive ArgPointer where
  | null
  /-- One of the strings of the copy. -/
  | own (index : Nat)
  /-- A string from elsewhere. -/
  | foreign (text : String)
  deriving DecidableEq, Repr, Inhabited

/-- The copy. The strings never change; `remaining` says which of them
are still arguments, and in which order. -/
structure ArgVector where
  strings : List String
  remaining : List Nat
  /-- The count as native code left it. -/
  argc : Int32
  /-- The array as native code left it. -/
  slots : List ArgPointer
  deriving DecidableEq, Repr

namespace ArgVector

/-- The number of the first argument with a null character. -/
def firstBroken? (args : List String) : Option Nat :=
  args.findIdx? fun arg => arg.toList.contains '\x00'

/-- The array that stands for some arguments: a pointer to each, and one more
for its end. -/
def pointers (remaining : List Nat) : List ArgPointer := remaining.map .own ++ [.null]

/-- The copy with these arguments, as native code should see it. -/
def rebuild (v : ArgVector) (remaining : List Nat) : ArgVector :=
  { v with
    remaining := remaining
    argc := Int32.ofNat remaining.length
    slots := pointers remaining }

/-- Copies a program name and its arguments. -/
def ofList (program : String) (args : List String) : Except NativeError ArgVector :=
  let strings := program :: args
  match firstBroken? strings with
  | some index => .error (.argvCorrupted s!"argument {index} contains NUL")
  | none => .ok (rebuild ⟨strings, [], 0, []⟩ (List.range strings.length))

/-- The number of arguments, the program name included. -/
def count (v : ArgVector) : Nat := v.remaining.length

/-- The string with this number. -/
def string (v : ArgVector) (index : Nat) : String := (v.strings[index]?).getD ""

/-- The arguments. -/
def arguments (v : ArgVector) : List String := v.remaining.map v.string

/-- The text that a pointer leads to. -/
def deref? (v : ArgVector) : ArgPointer → Option String
  | .null => none
  | .own index => some (v.string index)
  | .foreign text => some text

def inspect (v : ArgVector) : String :=
  Text.record "DuplicatedArgv" [("remaining", Text.listed (v.arguments.map Text.quoted))] true

/-! ## After the native call -/

/-- The strings behind some pointers, all of the copy and no two the
same. The position counts the pointers before. -/
def collect (total : Nat) (seen : List Nat) (position : Nat) :
    List ArgPointer → Except NativeError (List Nat)
  | [] => .ok []
  | pointer :: rest =>
    let foreign := NativeError.argvCorrupted s!"foreign pointer at position {position}"
    match pointer with
    | .own index =>
      if total ≤ index then .error foreign
      else if index ∈ seen then
        .error (.argvCorrupted s!"duplicate pointer at position {position}")
      else (collect total (index :: seen) (position + 1) rest).map (index :: ·)
    | _ => .error foreign

/-- The arguments that native code left, if the count and the pointers
say so without doubt. -/
def validate (v : ArgVector) : Except NativeError (List Nat) :=
  let argc := v.argc.toInt
  if argc < 0 then .error (.argvCorrupted s!"negative count {argc}")
  else if v.count < argc.toNat then
    .error (.argvCorrupted s!"count grew from {v.count} to {argc.toNat}")
  else collect v.strings.length [] 0 (v.slots.take argc.toNat)

/-- Takes over what native code did, or undoes it. -/
def update (v : ArgVector) : Except NativeError Unit × ArgVector :=
  match v.validate with
  | .ok remaining => (.ok (), v.rebuild remaining)
  | .error e => (.error e, v.rebuild v.remaining)

/-! ## What native code does -/

/-- A change that native code makes to the count or the pointers. -/
inductive Edit where
  | copy (source target : Nat)
  | swap (a b : Nat)
  | clear (slot : Nat)
  | point (slot : Nat) (text : String)
  | setCount (value : Int32)
  /-- Drops the arguments with this text, as option parsers do. -/
  | strip (flag : String)
  deriving DecidableEq, Repr

/-- The slots that a change reads and writes by their places. -/
def Edit.places : Edit → List Nat
  | .copy source target => [source, target]
  | .swap a b => [a, b]
  | .clear slot => [slot]
  | .point slot _ => [slot]
  | .setCount _ => []
  | .strip _ => []

/-- The array has all slots that a change speaks of. -/
def admits (v : ArgVector) (e : Edit) : Bool := e.places.all (· < v.slots.length)

def slotAt (v : ArgVector) (slot : Nat) : ArgPointer := (v.slots[slot]?).getD .null

def setSlot (v : ArgVector) (slot : Nat) (pointer : ArgPointer) : ArgVector :=
  { v with slots := v.slots.set slot pointer }

/-- The array with these pointers at its front, and a null pointer behind
them if there is room. -/
def closed (kept slots : List ArgPointer) : List ArgPointer :=
  match slots.drop kept.length with
  | [] => kept
  | _ :: rest => kept ++ .null :: rest

/-- The pointers before the first null pointer that lead to another text. -/
def unlike (v : ArgVector) (flag : String) : List ArgPointer :=
  (v.slots.takeWhile (· != .null)).filter fun p => v.deref? p != some flag

def stripSlots (v : ArgVector) (flag : String) : ArgVector :=
  { v with
    argc := Int32.ofNat (v.unlike flag).length
    slots := closed (v.unlike flag) v.slots }

/-- The copy after a change. One that speaks of a slot outside of the array
is not a change of this copy. -/
def edit (v : ArgVector) (e : Edit) : ArgVector :=
  if v.admits e then
    match e with
    | .copy source target => v.setSlot target (v.slotAt source)
    | .swap a b => (v.setSlot a (v.slotAt b)).setSlot b (v.slotAt a)
    | .clear slot => v.setSlot slot .null
    | .point slot text => v.setSlot slot (.foreign text)
    | .setCount value => { v with argc := value }
    | .strip flag => v.stripSlots flag
  else v

end ArgVector

end NativeBridge
