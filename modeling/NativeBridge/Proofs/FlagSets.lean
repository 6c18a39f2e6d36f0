-- Sets of flags. A set of bits is shown exactly if the flags in it make it up, and
-- texts are read as the union of the flags that they name, in whatever order and
-- spelling. So what is read can be shown, and what is shown is read back,
-- however the values of the flags overlap.
import NativeBridge.Proofs.SymbolTables

namespace NativeBridge

/-- One of the texts is the name or nick of the entry. -/
def Symbol.NamedIn {ν : Type} (entry : Symbol ν) (texts : List String) : Prop :=
  ∃ text ∈ texts, text ∈ [entry.name, entry.nick]

instance {ν : Type} (entry : Symbol ν) (texts : List String) : Decidable (entry.NamedIn texts) :=
  inferInstanceAs (Decidable (∃ text ∈ texts, text ∈ [entry.name, entry.nick]))

namespace FlagsTable

/-! ## Bits -/

/-- All bits of a set are in another. -/
def Within (a b : UInt32) : Prop := b &&& a = a

theorem within_iff {a b : UInt32} :
    Within a b ↔ ∀ i, a.toBitVec.getLsbD i = true → b.toBitVec.getLsbD i = true := by
  unfold Within
  rw [← UInt32.toBitVec_inj, UInt32.toBitVec_and]
  constructor
  · intro heq i hi
    rw [← heq, BitVec.getLsbD_and, Bool.and_eq_true] at hi
    exact hi.1
  · intro hall
    apply BitVec.eq_of_getLsbD_eq
    intro i _
    rw [BitVec.getLsbD_and]
    cases ha : a.toBitVec.getLsbD i with
    | false => exact Bool.and_false _
    | true => rw [hall i ha, Bool.and_self]

theorem Within.antisymm {a b : UInt32} (h : Within a b) (h' : Within b a) : a = b := by
  unfold Within at h h'
  rw [← h, UInt32.and_comm, h']

theorem Within.trans {a b c : UInt32} (h : Within a b) (h' : Within b c) : Within a c :=
  within_iff.mpr fun i hi => within_iff.mp h' i (within_iff.mp h i hi)

theorem Within.or {a b c : UInt32} (h : Within a c) (h' : Within b c) : Within (a ||| b) c := by
  rw [within_iff] at *
  intro i hi
  rw [UInt32.toBitVec_or, BitVec.getLsbD_or, Bool.or_eq_true] at hi
  exact hi.elim (h i) (h' i)

theorem within_or_left (a b : UInt32) : Within a (a ||| b) := by
  rw [within_iff]
  intro i hi
  rw [UInt32.toBitVec_or, BitVec.getLsbD_or, hi, Bool.true_or]

theorem within_or_right (a b : UInt32) : Within b (a ||| b) := by
  rw [UInt32.or_comm]
  exact within_or_left b a

theorem rest_eq_zero_iff {a b : UInt32} : a &&& ~~~b = 0 ↔ Within a b := by
  rw [within_iff, ← UInt32.toBitVec_inj, UInt32.toBitVec_and, UInt32.toBitVec_not]
  constructor
  · intro heq i hi
    have hbit := congrArg (·.getLsbD i) heq
    have hlt : i < 32 := BitVec.lt_of_getLsbD hi
    simpa [hi, hlt] using hbit
  · intro hall
    apply BitVec.eq_of_getLsbD_eq
    intro i hlt
    cases ha : a.toBitVec.getLsbD i with
    | false => simp [ha]
    | true => simp [ha, hall i ha]

instance (a b : UInt32) : Decidable (Within a b) := inferInstanceAs (Decidable (b &&& a = a))

variable {t : FlagsTable} {bits : UInt32} {h : Handle} {flags others : List (Symbol UInt32)}
  {texts : List String} {text : String}

/-! ## Unions -/

/-- The flags joined to a set. -/
def join (start : UInt32) (flags : List (Symbol UInt32)) : UInt32 :=
  flags.foldl (fun bits flag => bits ||| flag.value) start

theorem within_join (start : UInt32) (flags : List (Symbol UInt32)) :
    Within start (join start flags) ∧ ∀ flag ∈ flags, Within flag.value (join start flags) := by
  induction flags generalizing start with
  | nil => exact ⟨UInt32.and_self, fun flag hflag => absurd hflag List.not_mem_nil⟩
  | cons first rest ih =>
    obtain ⟨hstart, hrest⟩ := ih (start ||| first.value)
    refine ⟨(within_or_left _ _).trans hstart, fun flag hflag => ?_⟩
    rcases List.mem_cons.mp hflag with rfl | hflag
    · exact (within_or_right _ _).trans hstart
    · exact hrest flag hflag

theorem join_within {start whole : UInt32} (hstart : Within start whole)
    (hflags : ∀ flag ∈ flags, Within flag.value whole) : Within (join start flags) whole := by
  induction flags generalizing start with
  | nil => exact hstart
  | cons first rest ih =>
    have hfirst := hstart.or (hflags first List.mem_cons_self)
    exact ih hfirst fun flag hflag => hflags flag (List.mem_cons_of_mem _ hflag)

theorem within_zero (a : UInt32) : Within 0 a := UInt32.and_zero

/-- The union of some flags is the least set that has them all in it. -/
theorem union_within_iff :
    Within (union flags) bits ↔ ∀ flag ∈ flags, Within flag.value bits :=
  ⟨fun hunion flag hflag => ((within_join 0 flags).2 flag hflag).trans hunion,
    join_within (within_zero bits)⟩

theorem within_union {flag : Symbol UInt32} (hflag : flag ∈ flags) :
    Within flag.value (union flags) :=
  (within_join 0 flags).2 flag hflag

/-- A union depends on nothing but which flags, other than zero, are in it. -/
theorem union_congr
    (hsame : ∀ flag : Symbol UInt32, flag.value ≠ 0 → (flag ∈ flags ↔ flag ∈ others)) :
    union flags = union others := by
  have hwithin : ∀ {flags others : List (Symbol UInt32)},
      (∀ flag : Symbol UInt32, flag.value ≠ 0 → flag ∈ flags → flag ∈ others) →
      Within (union flags) (union others) := by
    intro flags others hsub
    refine union_within_iff.mpr fun flag hflag => ?_
    by_cases hzero : flag.value = 0
    · rw [hzero]
      exact within_zero _
    · exact within_union (hsub flag hzero hflag)
  exact (hwithin fun flag hzero => (hsame flag hzero).mp).antisymm
    (hwithin fun flag hzero => (hsame flag hzero).mpr)

/-! ## Showing -/

theorem mem_contained {flag : Symbol UInt32} :
    flag ∈ FlagsTable.contained t bits ↔
      flag ∈ t.values ∧ flag.value ≠ 0 ∧ Within flag.value bits := by
  simp [FlagsTable.contained, Within]

theorem contained_eq (t : FlagsTable) (bits : UInt32) : FlagsTable.contained t bits =
    t.values.filter fun flag => flag.value ≠ 0 ∧ Within flag.value bits := by
  refine List.filter_congr fun flag _ => ?_
  rw [Bool.eq_iff_iff, decide_eq_true_iff]
  simp [Within]

theorem union_contained (t : FlagsTable) (bits : UInt32) :
    union (FlagsTable.contained t bits) =
      union (t.values.filter fun flag => Within flag.value bits) := by
  refine union_congr fun flag hzero => ?_
  simp [mem_contained, hzero]

theorem toHandle_eq_ok : FlagsTable.toHandle t bits = .ok h ↔
    bits = union (FlagsTable.contained t bits) ∧
      h = .ofNames ((FlagsTable.contained t bits).map (·.nick)) := by
  have honly : Within (union (FlagsTable.contained t bits)) bits :=
    union_within_iff.mpr fun flag hflag => (mem_contained.mp hflag).2.2
  have hall : Within bits (union (FlagsTable.contained t bits)) ↔
      bits = union (FlagsTable.contained t bits) := by
    refine ⟨fun hwithin => hwithin.antisymm honly, fun hsame => ?_⟩
    rw [← hsame]
    exact UInt32.and_self
  unfold FlagsTable.toHandle
  dsimp only
  split
  · rename_i hrest
    have hbits := hall.mp (rest_eq_zero_iff.mp hrest)
    exact ⟨fun hshown => ⟨hbits, (Except.ok.inj hshown).symm⟩, fun hboth => by rw [hboth.2]⟩
  · rename_i hrest
    rw [rest_eq_zero_iff, hall] at hrest
    simp [hrest]

theorem exists_toHandle_iff : (∃ h, FlagsTable.toHandle t bits = .ok h) ↔
    bits = union (t.values.filter fun flag => Within flag.value bits) := by
  simp only [toHandle_eq_ok, exists_and_left, exists_eq, and_true, union_contained]

/-! ## Reading -/

/-- The first unknown text is refused; texts that are all known are read as the
union of what they denote. -/
theorem collect_eq (t : FlagsTable) (texts : List String) (start : UInt32) :
    FlagsTable.collect t texts start =
      match texts.find? fun text => (t.lookup? text).isNone with
      | some text => .error (t.unknown text)
      | none => .ok (join start (texts.filterMap t.lookup?)) := by
  induction texts generalizing start with
  | nil => rfl
  | cons text rest ih =>
    rw [FlagsTable.collect]
    cases hfound : t.lookup? text with
    | none => simp [hfound]
    | some flag => simp [hfound, ih, join]

theorem ofHandle_ofNames_eq_ok : FlagsTable.ofHandle t (.ofNames texts) = .ok bits ↔
    (∀ text ∈ texts, ∃ flag ∈ t.values, text ∈ [flag.name, flag.nick]) ∧
      bits = union (t.values.filter fun flag => flag.NamedIn texts) := by
  have hknown : (texts.find? fun text => (t.lookup? text).isNone) = none ↔
      ∀ text ∈ texts, ∃ flag ∈ t.values, text ∈ [flag.name, flag.nick] := by
    simp only [List.find?_eq_none, Option.isNone_iff_eq_none, SymbolTable.lookup?_eq_none_iff,
      not_forall, not_not, exists_prop]
  have hunion : join 0 (texts.filterMap t.lookup?) =
      union (t.values.filter fun flag => flag.NamedIn texts) := by
    refine union_congr fun flag _ => ?_
    simp only [List.mem_filterMap, SymbolTable.lookup?_eq_some_iff, List.mem_filter,
      decide_eq_true_eq]
    constructor
    · rintro ⟨text, htext, hflag, hnames⟩
      exact ⟨hflag, text, htext, hnames⟩
    · rintro ⟨hflag, text, htext, hnames⟩
      exact ⟨text, htext, hflag, hnames⟩
  have hread : FlagsTable.ofHandle t (.ofNames texts) = FlagsTable.collect t texts 0 := rfl
  rw [hread, collect_eq, ← hknown, ← hunion]
  cases texts.find? fun text => (t.lookup? text).isNone <;> simp [eq_comm]

theorem ofHandle_ofNames_of_unknown {before after : List String}
    (hbefore : ∀ known ∈ before, ∃ flag ∈ t.values, known ∈ [flag.name, flag.nick])
    (htext : ∀ flag ∈ t.values, text ∉ [flag.name, flag.nick]) :
    FlagsTable.ofHandle t (.ofNames (before ++ text :: after)) =
      .error (.unknownEnumerator t.typeName text) := by
  have hfirst : (before ++ text :: after).find? (fun text => (t.lookup? text).isNone) =
      some text := by
    rw [List.find?_eq_some_iff_append]
    refine ⟨by simpa using SymbolTable.lookup?_eq_none_iff.mpr htext, before, after, rfl, ?_⟩
    intro known hmem
    obtain ⟨flag, hflag, hnames⟩ := hbefore known hmem
    simp [SymbolTable.lookup?_eq_some_iff.mpr ⟨hflag, hnames⟩]
  have hread : FlagsTable.ofHandle t (.ofNames (before ++ text :: after)) =
      FlagsTable.collect t (before ++ text :: after) 0 := rfl
  rw [hread, collect_eq, hfirst]
  rfl

/-! ## Round trips -/

/-- Only texts are read. -/
theorem ofNames_of_ofHandle (hread : FlagsTable.ofHandle t h = .ok bits) :
    ∃ texts, FlagsTable.ofHandle t (.ofNames texts) = .ok bits := by
  unfold FlagsTable.ofHandle at hread
  split at hread
  · rename_i text
    exact ⟨[text], hread⟩
  · rename_i texts
    exact ⟨texts, hread⟩
  · exact nomatch hread

/-- What is shown of a set is read as that set. -/
theorem ofHandle_toHandle (hshown : FlagsTable.toHandle t bits = .ok h) :
    FlagsTable.ofHandle t h = .ok bits := by
  obtain ⟨hbits, rfl⟩ := toHandle_eq_ok.mp hshown
  rw [ofHandle_ofNames_eq_ok]
  constructor
  · intro text htext
    obtain ⟨flag, hflag, rfl⟩ := List.mem_map.mp htext
    exact ⟨flag, (mem_contained.mp hflag).1, by simp⟩
  · refine hbits.trans (union_congr fun flag _ => ?_)
    rw [List.mem_filter, decide_eq_true_eq]
    constructor
    · intro hflag
      exact ⟨(mem_contained.mp hflag).1, flag.nick, List.mem_map_of_mem hflag, by simp⟩
    · rintro ⟨hflag, text, htext, hnames⟩
      obtain ⟨other, hother, rfl⟩ := List.mem_map.mp htext
      have hfound := SymbolTable.lookup?_nick (mem_contained.mp hother).1
      rw [SymbolTable.lookup?_eq_some_iff.mpr ⟨hflag, hnames⟩] at hfound
      exact Option.some.inj hfound ▸ hother

theorem within_of_named (hread : FlagsTable.ofHandle t (.ofNames texts) = .ok bits)
    {flag : Symbol UInt32} (hflag : flag ∈ t.values) (hnamed : flag.NamedIn texts) :
    Within flag.value bits := by
  rw [(ofHandle_ofNames_eq_ok.mp hread).2]
  exact within_union (List.mem_filter.mpr ⟨hflag, by simpa using hnamed⟩)

/-- What is read can be shown: each flag that was named is in the union. -/
theorem toHandle_ofHandle (hread : FlagsTable.ofHandle t h = .ok bits) :
    ∃ h', FlagsTable.toHandle t bits = .ok h' := by
  obtain ⟨texts, hread⟩ := ofNames_of_ofHandle hread
  obtain ⟨-, hbits⟩ := ofHandle_ofNames_eq_ok.mp hread
  have hall : Within bits (union (t.values.filter fun flag => Within flag.value bits)) := by
    conv => left; rw [hbits]
    refine union_within_iff.mpr fun flag hflag => within_union ?_
    rw [List.mem_filter, decide_eq_true_eq] at hflag ⊢
    exact ⟨hflag.1, within_of_named hread hflag.1 hflag.2⟩
  have honly : Within (union (t.values.filter fun flag => Within flag.value bits)) bits :=
    union_within_iff.mpr fun flag hflag => by simpa using (List.mem_filter.mp hflag).2
  exact exists_toHandle_iff.mpr (hall.antisymm honly)

theorem showsBack (hread : FlagsTable.ofHandle t (.ofNames texts) = .ok bits) :
    ∃ nicks, FlagsTable.toHandle t bits = .ok (.ofNames nicks) ∧
      ∀ flag ∈ t.values, flag.NamedIn texts → flag.value ≠ 0 → flag.nick ∈ nicks := by
  obtain ⟨h, hshown⟩ := toHandle_ofHandle hread
  obtain ⟨-, rfl⟩ := toHandle_eq_ok.mp hshown
  refine ⟨_, hshown, fun flag hflag hnamed hzero => ?_⟩
  have hwithin := within_of_named hread hflag hnamed
  exact List.mem_map_of_mem (mem_contained.mpr ⟨hflag, hzero, hwithin⟩)

/-! ## Conversion -/

/-- How a table of these flags converts. -/
structure Converts (t : FlagsTable) (values : List (Symbol UInt32)) : Prop where
  /-- A set is shown exactly if it is the union of the declared values in it. -/
  shows : ∀ bits, (∃ h, FlagsTable.toHandle t bits = .ok h) ↔
    bits = union (values.filter fun flag => Within flag.value bits)
  /-- What is shown are the nicks of the flags in it, other than zero, in declared order. -/
  lists : ∀ bits h, FlagsTable.toHandle t bits = .ok h → h =
    .ofNames ((values.filter fun flag => flag.value ≠ 0 ∧ Within flag.value bits).map (·.nick))
  /-- What is shown of a set is read as that set. -/
  readsBack : ∀ bits h, FlagsTable.toHandle t bits = .ok h → FlagsTable.ofHandle t h = .ok bits
  /-- Texts are read exactly if each of them is the name or nick of a flag. -/
  reads : ∀ texts, (∃ bits, FlagsTable.ofHandle t (.ofNames texts) = .ok bits) ↔
    ∀ text ∈ texts, ∃ flag ∈ values, text ∈ [flag.name, flag.nick]
  /-- They are read as the union of the flags that they name. -/
  denotes : ∀ texts bits, FlagsTable.ofHandle t (.ofNames texts) = .ok bits →
    bits = union (values.filter fun flag => flag.NamedIn texts)
  /-- So texts that name the same flags are read as the same set. -/
  agrees : ∀ texts others bits bits', FlagsTable.ofHandle t (.ofNames texts) = .ok bits →
    FlagsTable.ofHandle t (.ofNames others) = .ok bits' →
    (∀ flag ∈ values, flag.NamedIn texts ↔ flag.NamedIn others) → bits = bits'
  /-- The first unknown text fails the whole, wherever it stands. -/
  refuses : ∀ before text after,
    (∀ known ∈ before, ∃ flag ∈ values, known ∈ [flag.name, flag.nick]) →
    (∀ flag ∈ values, text ∉ [flag.name, flag.nick]) →
    FlagsTable.ofHandle t (.ofNames (before ++ text :: after)) =
      .error (.unknownEnumerator t.typeName text)
  /-- What is read can be shown, and each flag named, other than zero, is in it. -/
  showsBack : ∀ texts bits, FlagsTable.ofHandle t (.ofNames texts) = .ok bits →
    ∃ nicks, FlagsTable.toHandle t bits = .ok (.ofNames nicks) ∧
      ∀ flag ∈ values, flag.NamedIn texts → flag.value ≠ 0 → flag.nick ∈ nicks
  /-- One text is read as the list of it. -/
  single : ∀ text, FlagsTable.ofHandle t (.ofString text) = FlagsTable.ofHandle t (.ofNames [text])

end FlagsTable

/-- A flags table, whatever bits its flags share, shows exactly the sets that its
flags make up, and reads exactly the lists of its texts. What it shows it reads
back, and what it reads it can show, with each flag that was named. -/
theorem flags_conversion {typeName : String} {values : List (Symbol UInt32)} {t : FlagsTable}
    (ht : SymbolTable.ofList typeName values = .ok t) :
    t.typeName = typeName ∧ t.Converts values := by
  obtain ⟨rfl, rfl⟩ := SymbolTable.ofList_eq_ok.mp ht
  refine ⟨rfl, fun bits => FlagsTable.exists_toHandle_iff, fun bits h hshown => ?_,
    fun bits h => FlagsTable.ofHandle_toHandle, fun texts => ?_,
    fun texts bits hread => (FlagsTable.ofHandle_ofNames_eq_ok.mp hread).2,
    fun texts others bits bits' hread hread' hsame => ?_,
    fun before text after => FlagsTable.ofHandle_ofNames_of_unknown,
    fun texts bits => FlagsTable.showsBack, fun text => rfl⟩
  · rw [(FlagsTable.toHandle_eq_ok.mp hshown).2, FlagsTable.contained_eq]
  · simp only [FlagsTable.ofHandle_ofNames_eq_ok, exists_and_left, exists_eq, and_true]
  · rw [(FlagsTable.ofHandle_ofNames_eq_ok.mp hread).2,
      (FlagsTable.ofHandle_ofNames_eq_ok.mp hread').2]
    refine FlagsTable.union_congr fun flag _ => ?_
    simp only [List.mem_filter, decide_eq_true_eq]
    exact and_congr_right (hsame flag)

namespace Sample

/-- Flags with a value of none, two that overlap, and one that is both of them. -/
def masks : List (Symbol UInt32) :=
  [⟨0, "MASK_NONE", "none"⟩, ⟨3, "MASK_LOW", "low"⟩, ⟨6, "MASK_HIGH", "high"⟩, ⟨7, "MASK_ALL", "all"⟩]

def maskTable : FlagsTable := ⟨"Mask", masks, by decide +kernel⟩

end Sample

/-- Two overlapping flags are read as their union, which shows a third one too;
a set that the flags do not make up is not shown, and an unknown text is told. -/
theorem sample_flags_conversion :
    SymbolTable.ofList "Mask" Sample.masks = .ok Sample.maskTable ∧
    FlagsTable.toHandle Sample.maskTable 7 = .ok (.ofNames ["low", "high", "all"]) ∧
    FlagsTable.ofHandle Sample.maskTable (.ofNames ["high", "MASK_LOW", "high"]) = .ok 7 ∧
    FlagsTable.ofHandle Sample.maskTable (.ofNames ["low", "high", "all"]) = .ok 7 ∧
    (¬∃ h, FlagsTable.toHandle Sample.maskTable 2 = .ok h) ∧
    FlagsTable.ofHandle Sample.maskTable (.ofNames ["low", "mid", "top"]) =
      .error (.unknownEnumerator "Mask" "mid") := by
  have hmade : SymbolTable.ofList "Mask" Sample.masks = .ok Sample.maskTable :=
    SymbolTable.ofList_eq_ok.mpr ⟨rfl, rfl⟩
  obtain ⟨-, hmasks⟩ := flags_conversion hmade
  have hall : FlagsTable.toHandle Sample.maskTable 7 = .ok (.ofNames ["low", "high", "all"]) := rfl
  refine ⟨hmade, hall, rfl, hmasks.readsBack _ _ hall, fun htwo => ?_, ?_⟩
  · exact absurd ((hmasks.shows 2).mp htwo) (by decide +kernel)
  · exact hmasks.refuses ["low"] "mid" ["top"] (by decide +kernel) (by decide +kernel)

end NativeBridge
