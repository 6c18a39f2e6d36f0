-- Native errors as faults, and back. The domain and the message come back, and
-- so does the code, unless its number is also a text of the domain's enum.
import NativeBridge.Proofs.RegistryAgreement
import NativeBridge.Proofs.SymbolTables

namespace NativeBridge

/-! ## Numbers as text -/

namespace Text

theorem foldlM_digits {digits : List Char} (hdigits : ∀ c ∈ digits, c.isDigit = true) (n : Nat) :
    digits.foldlM (fun n c =>
      if '0' ≤ c ∧ c ≤ '9' then some (10 * n + (c.toNat - '0'.toNat)) else none) n =
        some (Nat.ofDigitChars 10 digits n) := by
  induction digits generalizing n with
  | nil => rfl
  | cons c rest ih =>
    have hc : '0' ≤ c ∧ c ≤ '9' := by
      simpa [Char.isDigit, Char.le_def] using hdigits c List.mem_cons_self
    rw [List.foldlM_cons, if_pos hc]
    exact ih (fun d hd => hdigits d (List.mem_cons_of_mem c hd)) _

/-- The digits of a number are read as the number. -/
theorem readDigits?_toDigits (n : Nat) : readDigits? (Nat.toDigits 10 n) = some n := by
  have hdigits : ∀ c ∈ Nat.toDigits 10 n, c.isDigit = true :=
    fun c hc => Nat.isDigit_of_mem_toDigits (by decide) (by decide) hc
  unfold readDigits?
  rw [if_neg (by simp [Nat.toDigits_ne_nil]), foldlM_digits hdigits, Nat.ofDigitChars_ten_toDigits]

/-- Text that starts with a digit has no sign. -/
theorem readInt?_repr (n : Nat) : readInt? n.repr = some (n : Int) := by
  have hread := readDigits?_toDigits n
  unfold readInt?
  rw [Nat.toList_repr]
  cases hdigits : Nat.toDigits 10 n with
  | nil => exact absurd hdigits Nat.toDigits_ne_nil
  | cons c rest =>
    have hc : c.isDigit = true :=
      Nat.isDigit_of_mem_toDigits (b := 10) (n := n) (by decide) (by decide)
        (hdigits ▸ List.mem_cons_self)
    rw [hdigits] at hread
    split
    · rename_i heq
      obtain ⟨rfl, -⟩ := List.cons.inj heq
      exact absurd hc (by decide)
    · rename_i heq
      obtain ⟨rfl, -⟩ := List.cons.inj heq
      exact absurd hc (by decide)
    · rw [hread]
      rfl

theorem readInt?_toString (n : Int) : readInt? (toString n) = some n := by
  rw [Int.toString_eq_repr, Int.repr_eq_if]
  split
  · rename_i hn
    rw [readInt?_repr, Int.toNat_of_nonneg hn]
  · rename_i hn
    have hsign : "-".toList = ['-'] := rfl
    unfold readInt?
    rw [String.toList_append, Nat.toList_repr, hsign]
    simp only [List.cons_append, List.nil_append, readDigits?_toDigits]
    change some (-((-n).toNat : Int)) = some n
    rw [Int.toNat_of_nonneg (by omega), Int.neg_neg]

/-- The number of a code is read as the code. -/
theorem readInt32?_toString (n : Int32) : readInt32? (toString n.toInt) = some n := by
  unfold readInt32?
  rw [readInt?_toString]
  dsimp only
  rw [if_pos ⟨n.minValue_le_toInt, n.toInt_le⟩, Int32.ofInt_toInt]

end Text

/-! ## The number of a code as a text -/

namespace SymbolTable

variable {t : EnumTable} {value : Int32} {entry : Symbol Int32}

/-- The number of an undeclared value is a text of some entry. -/
def Misreads (t : EnumTable) (value : Int32) : Prop :=
  t.byValue? value = none ∧ (t.lookup? (toString value.toInt)).isSome

/-- What a table and the numbers make of the text for a value: the value itself
if it is declared, else the value of the entry that its number denotes, if
there is one. -/
def reread (t : EnumTable) (value : Int32) : Int32 :=
  if (t.byValue? value).isSome then value
  else ((t.lookup? (toString value.toInt)).map (·.value)).getD value

theorem reread_of_misreads (h : t.Misreads value) :
    ∃ other, t.lookup? (toString value.toInt) = some other ∧ t.reread value = other.value ∧
      other.value ≠ value := by
  obtain ⟨hvalue, hlookup⟩ := h
  obtain ⟨other, hother⟩ := Option.isSome_iff_exists.mp hlookup
  refine ⟨other, hother, ?_, ?_⟩
  · unfold reread
    rw [hvalue, hother]
    rfl
  · rintro rfl
    have hdeclared := byValue?_of_lookup? hother
    rw [hvalue] at hdeclared
    exact Bool.noConfusion hdeclared

theorem reread_eq_iff : t.reread value = value ↔ ¬t.Misreads value := by
  constructor
  · intro hsame hmisreads
    obtain ⟨other, -, hreread, hne⟩ := reread_of_misreads hmisreads
    exact hne (hreread.symm.trans hsame)
  · intro hreads
    unfold reread
    unfold Misreads at hreads
    cases hvalue : t.byValue? value with
    | some declared => rfl
    | none =>
      cases hlookup : t.lookup? (toString value.toInt) with
      | none => rfl
      | some other => exact absurd ⟨hvalue, by rw [hlookup]; rfl⟩ hreads

/-- What comes back once comes back again as it is. -/
theorem reread_reread (t : EnumTable) (value : Int32) :
    t.reread (t.reread value) = t.reread value := by
  by_cases h : t.Misreads value
  · obtain ⟨other, hother, hreread, -⟩ := reread_of_misreads h
    refine reread_eq_iff.mpr fun hmisreads => ?_
    have hdeclared := byValue?_of_lookup? hother
    rw [← hreread, hmisreads.1] at hdeclared
    exact Bool.noConfusion hdeclared
  · rw [reread_eq_iff.mpr h, reread_eq_iff.mpr h]

end SymbolTable

/-! ## There and back -/

namespace Registry

variable {r : Registry} {e : ErrorRecord}

/-- What comes back of a native error. -/
def returned (r : Registry) (e : ErrorRecord) : ErrorRecord :=
  { e with code := ((r.domainTable? e.domain).map (·.reread e.code)).getD e.code }

section

variable {f : Fault} {domain : String}

/-- A text of the domain's enum is read as the value of its entry. -/
theorem errorOfFault_text {code : String} {t : EnumTable} {entry : Symbol Int32}
    (hdomain : f.domain = some domain) (hcode : f.code = some code)
    (ht : r.domainTable? domain = some t) (hentry : t.lookup? code = some entry) :
    r.errorOfFault f = .ok ⟨domain, entry.value, f.message⟩ := by
  have hknown : (r.domainTable? domain >>= (·.lookup? code)) = some entry :=
    Option.bind_eq_some_iff.mpr ⟨t, ht, hentry⟩
  unfold errorOfFault
  rw [hdomain, hcode]
  dsimp only
  rw [hknown]
  rfl

/-- A number is read as a number if the domain's enum has no such text. -/
theorem errorOfFault_number {n : Int32} (hdomain : f.domain = some domain)
    (hcode : f.code = some (toString n.toInt))
    (hnone : ∀ t, r.domainTable? domain = some t → t.lookup? (toString n.toInt) = none) :
    r.errorOfFault f = .ok ⟨domain, n, f.message⟩ := by
  have hunknown : (r.domainTable? domain >>= (·.lookup? (toString n.toInt))) = none :=
    Option.bind_eq_none_iff.mpr hnone
  unfold errorOfFault
  rw [hdomain, hcode]
  dsimp only
  rw [hunknown, Text.readInt32?_toString]
  rfl

end

/-- The fault for an error of a domain that is not registered. -/
theorem faultOfError_unregistered (h : r.domains.get? e.domain = none) :
    r.faultOfError e =
      { message := e.message, domain := some e.domain, code := some (toString e.code.toInt) } := by
  unfold faultOfError
  rw [h]

/-- The fault for an error of a registered domain. -/
theorem faultOfError_registered {d : ErrorDomain} (h : r.domains.get? e.domain = some d) :
    r.faultOfError e =
      { message := e.message
        package := some d.package
        domain := some d.domain
        code := some (((r.domainTable? e.domain >>= (·.byValue? e.code)).map (·.nick)).getD
          (toString e.code.toInt)) } := by
  unfold faultOfError domainTable?
  rw [h]
  rfl

/-- An error comes back with its domain, its message and the code that its
domain's enum makes of it. -/
theorem Agrees.errorOfFault_faultOfError (h : r.Agrees) (e : ErrorRecord) :
    r.errorOfFault (r.faultOfError e) = .ok (r.returned e) := by
  unfold returned
  cases hdomain : r.domains.get? e.domain with
  | none =>
    have hnone : r.domainTable? e.domain = none := by
      unfold domainTable?
      rw [hdomain]
      rfl
    rw [faultOfError_unregistered hdomain, hnone,
      errorOfFault_number rfl rfl fun t ht => absurd (hnone.symm.trans ht) (by simp)]
    rfl
  | some d =>
    obtain ⟨t, ht⟩ := h.tableOfDomain hdomain
    rw [faultOfError_registered hdomain, (h.domains hdomain).1, ht]
    dsimp only [Option.bind_eq_bind, Option.bind_some, Option.map_some, Option.getD_some]
    cases hvalue : t.byValue? e.code with
    | some entry =>
      have hentry := SymbolTable.lookup?_nick (List.mem_of_find?_eq_some hvalue)
      rw [errorOfFault_text rfl rfl ht hentry, SymbolTable.value_of_byValue? hvalue]
      unfold SymbolTable.reread
      rw [hvalue]
      rfl
    | none =>
      by_cases hmisreads : t.Misreads e.code
      · obtain ⟨other, hother, hreread, -⟩ := SymbolTable.reread_of_misreads hmisreads
        rw [errorOfFault_text rfl rfl ht hother, hreread]
      · have hlookup : t.lookup? (toString e.code.toInt) = none :=
          Option.not_isSome_iff_eq_none.mp fun hsome => hmisreads ⟨hvalue, hsome⟩
        have hnone : ∀ t', r.domainTable? e.domain = some t' →
            t'.lookup? (toString e.code.toInt) = none :=
          fun t' ht' => Option.some.inj (ht.symm.trans ht') ▸ hlookup
        rw [errorOfFault_number rfl rfl hnone, SymbolTable.reread_eq_iff.mpr hmisreads]

theorem returned_eq_iff :
    r.returned e = e ↔ ∀ t, r.domainTable? e.domain = some t → ¬t.Misreads e.code := by
  obtain ⟨domain, code, message⟩ := e
  unfold returned
  cases ht : r.domainTable? domain with
  | none => simp
  | some t => simpa using SymbolTable.reread_eq_iff

theorem returned_returned (r : Registry) (e : ErrorRecord) :
    r.returned (r.returned e) = r.returned e := by
  obtain ⟨domain, code, message⟩ := e
  unfold returned
  cases ht : r.domainTable? domain with
  | none => rfl
  | some t => simpa using t.reread_reread code

end Registry

/-- An error that crosses as a fault always comes back, in any registry that
arose from calls, and it is the same error unless the number of its code,
undeclared in the domain's enum, is also the text of an entry there. -/
theorem error_round_trip_iff {hash : String → TypeId} {r : Registry} (h : r.Arises hash)
    (e : ErrorRecord) :
    r.errorOfFault (r.faultOfError e) = .ok (r.returned e) ∧
    r.errorOfFault (r.faultOfError (r.returned e)) = .ok (r.returned e) ∧
    (r.errorOfFault (r.faultOfError e) = .ok e ↔
      ∀ table, r.domainTable? e.domain = some table → table.byValue? e.code = none →
        table.lookup? (toString e.code.toInt) = none) := by
  have hround := h.agrees.errorOfFault_faultOfError
  refine ⟨hround e, (hround _).trans (by rw [Registry.returned_returned]), ?_⟩
  have hmisreads : ∀ table : EnumTable, ¬table.Misreads e.code ↔
      (table.byValue? e.code = none → table.lookup? (toString e.code.toInt) = none) := by
    intro table
    unfold SymbolTable.Misreads
    rw [not_and, Option.not_isSome_iff_eq_none]
  rw [hround e, Except.ok.injEq, Registry.returned_eq_iff]
  simp only [hmisreads]

namespace Sample

/-- A registry with an error domain whose enum calls the code 7 "5". -/
def numeralRegistry : Registry :=
  Registering.after .ofName
    [.registerEnum "Mode" "Ui::Mode" [⟨7, "MODE_FIVE", "5"⟩],
      .registerErrorDomain "ui-error" "Mode" "Ui::Error"] {}

theorem numeralRegistry_arises : numeralRegistry.Arises .ofName :=
  ((Registry.Arises.origin .empty).call _).call _

end Sample

/-- The declared code 7 comes back, and the undeclared code 5 comes back as 7. -/
theorem sample_error_round_trip :
    let r := Sample.numeralRegistry
    r.errorOfFault (r.faultOfError ⟨"ui-error", 7, "lost"⟩) = .ok ⟨"ui-error", 7, "lost"⟩ ∧
    r.errorOfFault (r.faultOfError ⟨"ui-error", 5, "lost"⟩) = .ok ⟨"ui-error", 7, "lost"⟩ ∧
    ¬∀ table, r.domainTable? "ui-error" = some table → table.byValue? 5 = none →
      table.lookup? "5" = none := by
  intro r
  have hdeclared := (error_round_trip_iff Sample.numeralRegistry_arises ⟨"ui-error", 7, "lost"⟩).1
  have hround := error_round_trip_iff Sample.numeralRegistry_arises ⟨"ui-error", 5, "lost"⟩
  have hseven : r.returned ⟨"ui-error", 7, "lost"⟩ = ⟨"ui-error", 7, "lost"⟩ := by decide +kernel
  have hfive : r.returned ⟨"ui-error", 5, "lost"⟩ = ⟨"ui-error", 7, "lost"⟩ := by decide +kernel
  refine ⟨hdeclared.trans (congrArg _ hseven), hround.1.trans (congrArg _ hfive), fun hall => ?_⟩
  have hsame := Except.ok.inj (hround.1.symm.trans (hround.2.2.mpr hall))
  exact absurd (hfive.symm.trans hsame) (by decide)

end NativeBridge
