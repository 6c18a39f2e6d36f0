-- Tables of symbolic values. An enum or a flags type lists its values,
-- each with a full name and a nick. A nick is what crosses to the dynamic
-- side; on the way back either text is taken, and only the exact text.
import NativeBridge.Dynamic.Handle

namespace NativeBridge

/-- One declared value. -/
structure Symbol (ν : Type) where
  value : ν
  name : String
  nick : String
  deriving DecidableEq, Repr

namespace Symbol

variable {ν : Type}

/-- The texts that denote a value. A nick that repeats the name counts
once. -/
def texts (s : Symbol ν) : List String :=
  if s.nick = s.name then [s.name] else [s.name, s.nick]

/-- Whether a text denotes the value. -/
def answers (s : Symbol ν) (text : String) : Bool := s.nick == text || s.name == text

/-- The symbols that a list declares, in order. -/
def textsOf (values : List (Symbol ν)) : List String := values.flatMap texts

/-- The first text that occurs among the texts before it. -/
def firstRepeat? (seen : List String) : List String → Option String
  | [] => none
  | text :: rest => if text ∈ seen then some text else firstRepeat? (text :: seen) rest

theorem nodup_of_firstRepeat? {seen texts : List String}
    (h : firstRepeat? seen texts = none) : texts.Nodup ∧ ∀ text ∈ texts, text ∉ seen := by
  induction texts generalizing seen with
  | nil => simp
  | cons text rest ih =>
    unfold firstRepeat? at h
    split at h
    · cases h
    · rename_i hnew
      obtain ⟨hrest, hseen⟩ := ih h
      refine ⟨List.nodup_cons.mpr ⟨fun hin => ?_, hrest⟩, ?_⟩
      · exact hseen text hin (List.mem_cons_self ..)
      · intro t ht
        rcases List.mem_cons.mp ht with rfl | ht
        · exact hnew
        · exact fun hs => hseen t ht (List.mem_cons_of_mem _ hs)

end Symbol

/-- A table of values in which no text denotes two entries. -/
structure SymbolTable (ν : Type) where
  typeName : String
  values : List (Symbol ν)
  distinct : (Symbol.textsOf values).Nodup
  deriving DecidableEq

namespace SymbolTable

variable {ν : Type}

/-- Builds a table. A text of two entries is refused, the first one first. -/
def ofList (typeName : String) (values : List (Symbol ν)) :
    Except RegistrationError (SymbolTable ν) :=
  match h : Symbol.firstRepeat? [] (Symbol.textsOf values) with
  | some text => .error (.duplicateEnumerator typeName text)
  | none => .ok ⟨typeName, values, (Symbol.nodup_of_firstRepeat? h).1⟩

/-- The value that a name or nick denotes. -/
def lookup? (t : SymbolTable ν) (text : String) : Option (Symbol ν) :=
  t.values.find? (·.answers text)

/-- The first declared entry of a value. -/
def byValue? [BEq ν] (t : SymbolTable ν) (value : ν) : Option (Symbol ν) :=
  t.values.find? (·.value == value)

/-- The error for a text or value that no entry has. -/
def unknown (t : SymbolTable ν) (name : String) : ConversionError :=
  .unknownEnumerator t.typeName name

end SymbolTable

/-! ## Enums -/

abbrev EnumTable := SymbolTable Int32

namespace EnumTable

/-- The nick of a value. -/
def toHandle (t : EnumTable) (value : Int32) : Except ConversionError Handle :=
  match t.byValue? value with
  | some entry => .ok (.ofString entry.nick)
  | none => .error (t.unknown (toString value.toInt))

/-- The value of a name or nick. -/
def ofHandle (t : EnumTable) : Handle → Except ConversionError Int32
  | .scalar (.str text) =>
    match t.lookup? text with
    | some entry => .ok entry.value
    | none => .error (t.unknown text)
  | h => .error (.typeMismatch s!"enum '{t.typeName}'" h.typeName)

end EnumTable

/-! ## Flags -/

abbrev FlagsTable := SymbolTable UInt32

namespace FlagsTable

/-- The declared flags, other than zero, whose bits are all set. -/
def contained (t : FlagsTable) (bits : UInt32) : List (Symbol UInt32) :=
  t.values.filter fun flag => flag.value != 0 && bits &&& flag.value == flag.value

/-- The union of some flags. -/
def union (flags : List (Symbol UInt32)) : UInt32 :=
  flags.foldl (fun bits flag => bits ||| flag.value) 0

/-- The nicks of the contained flags, in declared order. Bits that no
contained flag covers are an error. -/
def toHandle (t : FlagsTable) (bits : UInt32) : Except ConversionError Handle :=
  let flags := t.contained bits
  let rest := bits &&& ~~~(union flags)
  if rest = 0 then .ok (.ofNames (flags.map (·.nick)))
  else .error (t.unknown (Text.hex rest.toNat))

/-- Adds the flags of some texts to a bit set. The first unknown text
fails the whole. -/
def collect (t : FlagsTable) : List String → UInt32 → Except ConversionError UInt32
  | [], bits => .ok bits
  | text :: rest, bits =>
    match t.lookup? text with
    | some flag => collect t rest (bits ||| flag.value)
    | none => .error (t.unknown text)

/-- The bit set of one text or a set of texts. -/
def ofHandle (t : FlagsTable) : Handle → Except ConversionError UInt32
  | .scalar (.str text) => t.collect [text] 0
  | .scalar (.names texts) => t.collect texts 0
  | h => .error (.typeMismatch s!"flags '{t.typeName}'" h.typeName)

end FlagsTable

end NativeBridge
