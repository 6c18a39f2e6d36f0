-- Tables of symbols. A list makes a table exactly if no text stands for two of
-- its entries. Reading back needs no less and no more: each text leads to its
-- own entry, so what an enum shows of a value it reads as that value.
import Mathlib.Data.List.Nodup
import NativeBridge.Registry.Symbols

namespace NativeBridge

variable {ν : Type}

/-! ## The texts of entries -/

namespace Symbol

variable {entry : Symbol ν} {text : String}

theorem mem_texts : text ∈ entry.texts ↔ text ∈ [entry.name, entry.nick] := by
  unfold texts
  split
  · rename_i heq
    simp [heq]
  · rfl

theorem nodup_texts (entry : Symbol ν) : entry.texts.Nodup := by
  unfold texts
  split
  · exact List.nodup_singleton _
  · rename_i hne
    simpa using Ne.symm hne

theorem answers_iff : entry.answers text = true ↔ text ∈ [entry.name, entry.nick] := by
  simp only [answers, Bool.or_eq_true, beq_iff_eq, List.mem_cons, List.not_mem_nil, or_false]
  rw [or_comm, eq_comm, @eq_comm _ entry.nick]

theorem firstRepeat?_eq_none {seen texts : List String} :
    firstRepeat? seen texts = none ↔ texts.Nodup ∧ ∀ text ∈ texts, text ∉ seen := by
  refine ⟨nodup_of_firstRepeat?, ?_⟩
  induction texts generalizing seen with
  | nil => exact fun _ => rfl
  | cons first rest ih =>
    rintro ⟨hnodup, hfresh⟩
    obtain ⟨hfirst, hrest⟩ := List.nodup_cons.mp hnodup
    rw [firstRepeat?, if_neg (hfresh first List.mem_cons_self)]
    refine ih ⟨hrest, fun text htext hseen => ?_⟩
    rcases List.mem_cons.mp hseen with rfl | hseen
    · exact hfirst htext
    · exact hfresh text (List.mem_cons_of_mem _ htext) hseen

/-- In distinct entries a text of an entry denotes that entry. -/
theorem find?_answers {values : List (Symbol ν)} (hdistinct : (textsOf values).Nodup)
    (hentry : entry ∈ values) (htext : entry.answers text = true) :
    values.find? (·.answers text) = some entry := by
  induction values with
  | nil => exact absurd hentry List.not_mem_nil
  | cons first rest ih =>
    obtain ⟨-, hrest, hapart⟩ := List.nodup_append.mp hdistinct
    rcases List.mem_cons.mp hentry with rfl | hentry
    · exact List.find?_cons_of_pos htext
    · rw [List.find?_cons_of_neg]
      · exact ih hrest hentry
      · intro hanswers
        have hlater : text ∈ textsOf rest :=
          List.mem_flatMap.mpr ⟨entry, hentry, mem_texts.mpr (answers_iff.mp htext)⟩
        exact hapart _ (mem_texts.mpr (answers_iff.mp hanswers)) _ hlater rfl

/-- The texts of a list are distinct if no text belongs to two places of it. A
nick that repeats the name of its own entry is no second one. -/
theorem nodup_textsOf_iff {values : List (Symbol ν)} :
    (textsOf values).Nodup ↔ ∀ (i j : Nat) (a b : Symbol ν) (text : String),
      values[i]? = some a → values[j]? = some b →
      text ∈ [a.name, a.nick] → text ∈ [b.name, b.nick] → i = j := by
  unfold textsOf
  rw [List.nodup_flatMap, List.pairwise_iff_getElem]
  constructor
  · rintro ⟨-, hapart⟩ i j a b text ha hb hta htb
    obtain ⟨hi, rfl⟩ := List.getElem?_eq_some_iff.mp ha
    obtain ⟨hj, rfl⟩ := List.getElem?_eq_some_iff.mp hb
    rcases Nat.lt_trichotomy i j with hlt | heq | hlt
    · exact (hapart i j hi hj hlt (mem_texts.mpr hta) (mem_texts.mpr htb)).elim
    · exact heq
    · exact (hapart j i hj hi hlt (mem_texts.mpr htb) (mem_texts.mpr hta)).elim
  · intro hplaces
    refine ⟨fun entry _ => entry.nodup_texts, fun i j hi hj hlt text hta htb => ?_⟩
    have hsame := hplaces i j values[i] values[j] text (List.getElem?_eq_getElem hi)
      (List.getElem?_eq_getElem hj) (mem_texts.mp hta) (mem_texts.mp htb)
    omega

end Symbol

/-! ## Building and looking up -/

namespace SymbolTable

variable {typeName : String} {values : List (Symbol ν)} {t : SymbolTable ν} {entry : Symbol ν}
  {text : String}

theorem ofList_eq_ok :
    ofList typeName values = .ok t ↔ t.typeName = typeName ∧ t.values = values := by
  unfold ofList
  constructor
  · intro h
    split at h
    · exact nomatch h
    · cases h
      exact ⟨rfl, rfl⟩
  · rintro ⟨rfl, rfl⟩
    split
    · rename_i text hrepeat
      have hnone := Symbol.firstRepeat?_eq_none.mpr ⟨t.distinct, fun _ _ => List.not_mem_nil⟩
      exact nomatch hrepeat.symm.trans hnone
    · rfl

theorem exists_ofList_iff :
    (∃ t, ofList typeName values = .ok t) ↔ (Symbol.textsOf values).Nodup := by
  constructor
  · rintro ⟨t, h⟩
    exact (ofList_eq_ok.mp h).2 ▸ t.distinct
  · exact fun h => ⟨⟨typeName, values, h⟩, ofList_eq_ok.mpr ⟨rfl, rfl⟩⟩

/-- A text leads to the entry that has it, and there is only one. -/
theorem lookup?_eq_some_iff :
    t.lookup? text = some entry ↔ entry ∈ t.values ∧ text ∈ [entry.name, entry.nick] := by
  constructor
  · intro h
    have hanswers : entry.answers text = true :=
      List.find?_some (p := fun s : Symbol ν => s.answers text) h
    exact ⟨List.mem_of_find?_eq_some h, Symbol.answers_iff.mp hanswers⟩
  · rintro ⟨hentry, htext⟩
    exact Symbol.find?_answers t.distinct hentry (Symbol.answers_iff.mpr htext)

/-- The nick of an entry denotes that entry. -/
theorem lookup?_nick (hentry : entry ∈ t.values) : t.lookup? entry.nick = some entry :=
  lookup?_eq_some_iff.mpr ⟨hentry, by simp⟩

theorem lookup?_eq_none_iff :
    t.lookup? text = none ↔ ∀ entry ∈ t.values, text ∉ [entry.name, entry.nick] := by
  rw [lookup?, List.find?_eq_none]
  simp only [Symbol.answers_iff]

/-- Two places of a table hold two entries. -/
theorem place_unique (t : SymbolTable ν) {i j : Nat} (hi : t.values[i]? = some entry)
    (hj : t.values[j]? = some entry) : j = i :=
  Symbol.nodup_textsOf_iff.mp t.distinct j i entry entry entry.name hj hi List.mem_cons_self
    List.mem_cons_self

section

variable {t : EnumTable} {value : Int32} {entry : Symbol Int32}

theorem value_of_byValue? (h : t.byValue? value = some entry) : entry.value = value := by
  have hfound : (entry.value == value) = true :=
    List.find?_some (p := fun s : Symbol Int32 => s.value == value) h
  exact eq_of_beq hfound

/-- The value of an entry that a text denotes is declared. -/
theorem byValue?_of_lookup? {text : String} (h : t.lookup? text = some entry) :
    (t.byValue? entry.value).isSome :=
  List.find?_isSome.mpr ⟨entry, List.mem_of_find?_eq_some h, beq_self_eq_true entry.value⟩

end

end SymbolTable

/-! ## Enums -/

namespace EnumTable

variable {t : EnumTable} {value : Int32} {h : Handle} {text : String}

theorem toHandle_eq_ok : EnumTable.toHandle t value = .ok h ↔
    ∃ first, t.byValue? value = some first ∧ h = .ofString first.nick := by
  unfold EnumTable.toHandle
  cases t.byValue? value <;> simp [eq_comm]

theorem ofHandle_ofString_eq_ok : EnumTable.ofHandle t (.ofString text) = .ok value ↔
    ∃ entry ∈ t.values, text ∈ [entry.name, entry.nick] ∧ entry.value = value := by
  have hlookup : EnumTable.ofHandle t (.ofString text) = .ok value ↔
      ∃ entry, t.lookup? text = some entry ∧ entry.value = value := by
    simp only [EnumTable.ofHandle, Handle.ofString]
    cases t.lookup? text <;> simp
  simp only [hlookup, SymbolTable.lookup?_eq_some_iff, and_assoc]

/-- Only strings are read. -/
theorem ofString_of_ofHandle (hread : EnumTable.ofHandle t h = .ok value) :
    ∃ text, h = .ofString text := by
  unfold EnumTable.ofHandle at hread
  split at hread
  · exact ⟨_, rfl⟩
  · exact nomatch hread

theorem exists_toHandle_iff : (∃ h, EnumTable.toHandle t value = .ok h) ↔
    ∃ entry ∈ t.values, entry.value = value := by
  have hsome : (∃ h, EnumTable.toHandle t value = .ok h) ↔ (t.byValue? value).isSome := by
    simp [toHandle_eq_ok, Option.isSome_iff_exists]
  rw [hsome, SymbolTable.byValue?, List.find?_isSome]
  simp only [beq_iff_eq]

/-- What is shown of a value is read as that value. -/
theorem ofHandle_toHandle (hshown : EnumTable.toHandle t value = .ok h) :
    EnumTable.ofHandle t h = .ok value := by
  obtain ⟨first, hfirst, rfl⟩ := toHandle_eq_ok.mp hshown
  exact ofHandle_ofString_eq_ok.mpr ⟨first, List.mem_of_find?_eq_some hfirst, by simp,
    SymbolTable.value_of_byValue? hfirst⟩

/-- What is read can be shown. -/
theorem toHandle_ofHandle (hread : EnumTable.ofHandle t h = .ok value) :
    ∃ h', EnumTable.toHandle t value = .ok h' := by
  obtain ⟨text, rfl⟩ := ofString_of_ofHandle hread
  obtain ⟨entry, hentry, -, hvalue⟩ := ofHandle_ofString_eq_ok.mp hread
  exact exists_toHandle_iff.mpr ⟨entry, hentry, hvalue⟩

theorem showsFirst (hread : EnumTable.ofHandle t (.ofString text) = .ok value) :
    ∃ before first after, t.values = before ++ first :: after ∧ first.value = value ∧
      (∀ entry ∈ before, entry.value ≠ value) ∧
      EnumTable.toHandle t value = .ok (.ofString first.nick) := by
  obtain ⟨h, hshown⟩ := toHandle_ofHandle hread
  obtain ⟨first, hfirst, rfl⟩ := toHandle_eq_ok.mp hshown
  obtain ⟨hvalue, before, after, hsplit, hbefore⟩ := List.find?_eq_some_iff_append.mp hfirst
  refine ⟨before, first, after, hsplit, by simpa using hvalue, fun entry hentry => ?_, hshown⟩
  simpa using hbefore entry hentry

/-- How a table of these entries converts. -/
structure Converts (t : EnumTable) (values : List (Symbol Int32)) : Prop where
  /-- A name or nick leads to its entry, which stands at one place only. -/
  finds : ∀ (i : Nat) (entry : Symbol Int32), values[i]? = some entry →
    (∀ text ∈ [entry.name, entry.nick], t.lookup? text = some entry) ∧
      ∀ j : Nat, values[j]? = some entry → j = i
  /-- Exactly the declared values are shown. -/
  shows : ∀ value, (∃ h, EnumTable.toHandle t value = .ok h) ↔
    ∃ entry ∈ values, entry.value = value
  /-- Exactly the declared texts are read, as strings. -/
  reads : ∀ h, (∃ value, EnumTable.ofHandle t h = .ok value) ↔
    ∃ text, h = .ofString text ∧ ∃ entry ∈ values, text ∈ [entry.name, entry.nick]
  /-- A text is read as the value of its entry. -/
  denotes : ∀ entry ∈ values, ∀ text ∈ [entry.name, entry.nick],
    EnumTable.ofHandle t (.ofString text) = .ok entry.value
  /-- What is shown of a value is read as that value, shared or not. -/
  readsBack : ∀ entry ∈ values, ∃ h, EnumTable.toHandle t entry.value = .ok h ∧
    EnumTable.ofHandle t h = .ok entry.value
  /-- Of a text that is read, the nick of the first entry with its value is shown. -/
  showsFirst : ∀ text value, EnumTable.ofHandle t (.ofString text) = .ok value →
    ∃ before first after, values = before ++ first :: after ∧ first.value = value ∧
      (∀ entry ∈ before, entry.value ≠ value) ∧
      EnumTable.toHandle t value = .ok (.ofString first.nick)

end EnumTable

/-- A list of entries makes an enum table exactly if no text is the name or nick
of two of them. Then each name and nick leads to its own entry, and the table
shows the declared values and reads the declared texts, and nothing else; it
reads back each value that it shows. -/
theorem enum_conversion (typeName : String) (values : List (Symbol Int32)) :
    ((∃ t : EnumTable, SymbolTable.ofList typeName values = .ok t) ↔
      ∀ (i j : Nat) (a b : Symbol Int32) (text : String),
        values[i]? = some a → values[j]? = some b →
        text ∈ [a.name, a.nick] → text ∈ [b.name, b.nick] → i = j) ∧
    ∀ t : EnumTable, SymbolTable.ofList typeName values = .ok t → t.Converts values := by
  refine ⟨SymbolTable.exists_ofList_iff.trans Symbol.nodup_textsOf_iff, fun t ht => ?_⟩
  obtain ⟨-, rfl⟩ := SymbolTable.ofList_eq_ok.mp ht
  have hdenotes : ∀ entry ∈ t.values, ∀ text ∈ [entry.name, entry.nick],
      EnumTable.ofHandle t (.ofString text) = .ok entry.value :=
    fun entry hentry text htext => EnumTable.ofHandle_ofString_eq_ok.mpr ⟨entry, hentry, htext, rfl⟩
  refine ⟨fun i entry hi => ⟨fun text htext => ?_, fun j hj => t.place_unique hi hj⟩,
    fun value => EnumTable.exists_toHandle_iff, fun h => ⟨?_, ?_⟩, hdenotes, fun entry hentry => ?_,
    fun text value hread => EnumTable.showsFirst hread⟩
  · exact SymbolTable.lookup?_eq_some_iff.mpr ⟨List.mem_of_getElem? hi, htext⟩
  · rintro ⟨value, hread⟩
    obtain ⟨text, rfl⟩ := EnumTable.ofString_of_ofHandle hread
    obtain ⟨entry, hentry, htext, -⟩ := EnumTable.ofHandle_ofString_eq_ok.mp hread
    exact ⟨text, rfl, entry, hentry, htext⟩
  · rintro ⟨text, rfl, entry, hentry, htext⟩
    exact ⟨entry.value, hdenotes entry hentry text htext⟩
  · obtain ⟨h, hshown⟩ := EnumTable.exists_toHandle_iff.mpr ⟨entry, hentry, rfl⟩
    exact ⟨h, hshown, EnumTable.ofHandle_toHandle hshown⟩

namespace Sample

/-- Three modes. Two have one value, and one has one text for name and nick. -/
def modes : List (Symbol Int32) := [⟨3, "MODE_OFF", "off"⟩, ⟨3, "none", "none"⟩, ⟨5, "MODE_ON", "on"⟩]

/-- The nick of the second entry is the name of the first. -/
def clashingModes : List (Symbol Int32) := [⟨3, "off", "MODE_OFF"⟩, ⟨5, "MODE_ON", "off"⟩]

end Sample

/-- The second text of a shared value is read as the value, which is shown by the
nick of its first entry. -/
theorem sample_enum_conversion :
    (∃ t : EnumTable, SymbolTable.ofList "Mode" Sample.modes = .ok t ∧
      EnumTable.ofHandle t (.ofString "none") = .ok 3 ∧
      EnumTable.toHandle t 3 = .ok (.ofString "off") ∧
      EnumTable.ofHandle t (.ofString "off") = .ok 3) ∧
    ¬∃ t : EnumTable, SymbolTable.ofList "Mode" Sample.clashingModes = .ok t := by
  have hmade : SymbolTable.ofList "Mode" Sample.modes =
      .ok ⟨"Mode", Sample.modes, by decide +kernel⟩ := SymbolTable.ofList_eq_ok.mpr ⟨rfl, rfl⟩
  have hmodes := (enum_conversion "Mode" Sample.modes).2 _ hmade
  have hnone := hmodes.denotes ⟨3, "none", "none"⟩ (by decide) "none" (by decide)
  have hoff := hmodes.denotes ⟨3, "MODE_OFF", "off"⟩ (by decide) "off" (by decide)
  refine ⟨⟨_, hmade, hnone, rfl, hoff⟩, fun hclash => ?_⟩
  have hplaces := (enum_conversion "Mode" Sample.clashingModes).1.mp hclash
  exact absurd (hplaces 0 1 _ _ "off" rfl rfl (by decide) (by decide)) (by decide)

end NativeBridge
