-- Fundamentals as codecs. What a fundamental makes of a payload, it reads back; and
-- what it reads from a handle, it can write, in a form that it reads as the same.
import NativeBridge.Proofs.Singles
import NativeBridge.Bridge.Convert

namespace NativeBridge

/-! ## Fundamentals -/

namespace NativeValue

/-- The whole number of a payload, in either sign domain. -/
def integer? : NativeValue → Option Int
  | int value => some value.toInt
  | uint value => some value.toNat
  | _ => none

/-- The double of a payload; a whole number has the nearest one. -/
def double? : NativeValue → Option Float
  | float value => some value
  | int value => some (Number.ofSigned value)
  | uint value => some (Number.ofUnsigned value)
  | _ => none

/-- The truth value of a payload; a whole number is true unless it is zero. -/
def truth? : NativeValue → Option Bool
  | bool value => some value
  | int value => some (value != 0)
  | uint value => some (value != 0)
  | _ => none

end NativeValue

namespace Fundamental

variable {f : Fundamental} {h : Handle} {payload value : NativeValue} {raw s : Scalar}

/-- A payload in the form that is a fundamental's own: an integer of its kind
in the sign domain of the kind, a truth value, a double that a single has, a
double, or a text. -/
def IsForm (f : Fundamental) (payload value : NativeValue) : Prop :=
  match f.integerKind? with
  | some k => ∃ n, payload.integer? = some n ∧ k.Contains n ∧ value = integerValue k n ∧
    value.integer? = some n
  | none =>
    match f with
    | bool => ∃ b, payload.truth? = some b ∧ value = .bool b
    | float => ∃ x, payload.double? = some x ∧ value = .float (Number.widen (Number.narrow x))
    | double => ∃ x, payload.double? = some x ∧ value = .float x
    | _ => ∃ text, payload = .str text ∧ value = .str text

/-- The ways in which a fundamental reads a handle. -/
inductive Reads (f : Fundamental) (h : Handle) : NativeValue → Prop where
  | integer (k : IntegerKind) (n : Int) (kind : f.integerKind? = some k)
    (held : h.integer? = some n) (fits : k.Contains n) : Reads f h (integerValue k n)
  | truth (b : Bool) (kind : f = bool) (held : h.readBool = .ok b) : Reads f h (.bool b)
  | single (x : Float32) (kind : f = float) (held : h.readSingle = .ok x) :
    Reads f h (.float (Number.widen x))
  | double (x : Float) (kind : f = .double) (held : h.readDouble = .ok x) : Reads f h (.float x)
  | text (text : String) (kind : f = string) (held : h.readString = .ok text) :
    Reads f h (.str text)

theorem readInteger_ok {k : IntegerKind} {n : Int} :
    h.readInteger k = .ok n ↔ h.integer? = some n ∧ k.Contains n := by
  unfold Handle.readInteger IntegerKind.fit
  cases h.integer? with
  | none => simp
  | some m =>
    simp only [Option.some.injEq]
    split
    · rename_i hm
      simp only [Except.ok.injEq]
      exact ⟨fun heq => ⟨heq, heq ▸ hm⟩, fun hn => hn.1⟩
    · rename_i hm
      simp only [reduceCtorEq, false_iff, not_and]
      rintro rfl
      exact hm

theorem unwrap_iff : f.unwrap h = .ok value ↔ f.Reads h value := by
  constructor
  · intro hread
    unfold unwrap at hread
    cases hkind : f.integerKind? with
    | some k =>
      rw [hkind] at hread
      obtain ⟨n, hn, rfl⟩ := map_eq_ok.mp hread
      obtain ⟨hheld, hfits⟩ := readInteger_ok.mp hn
      exact .integer k n hkind hheld hfits
    | none =>
      rw [hkind] at hread
      cases f with
      | bool =>
        obtain ⟨b, hb, rfl⟩ := map_eq_ok.mp hread
        exact .truth b rfl hb
      | float =>
        obtain ⟨x, hx, rfl⟩ := map_eq_ok.mp hread
        exact .single x rfl hx
      | double =>
        obtain ⟨x, hx, rfl⟩ := map_eq_ok.mp hread
        exact .double x rfl hx
      | string =>
        obtain ⟨text, ht, rfl⟩ := map_eq_ok.mp hread
        exact .text text rfl ht
      | _ => exact absurd hkind (by simp [integerKind?])
  · intro hreads
    cases hreads with
    | integer k n hkind hheld hfits =>
      unfold unwrap
      rw [hkind]
      exact map_eq_ok.mpr ⟨n, readInteger_ok.mpr ⟨hheld, hfits⟩, rfl⟩
    | truth b hkind hheld =>
      subst hkind
      exact map_eq_ok.mpr ⟨b, hheld, rfl⟩
    | single x hkind hheld =>
      subst hkind
      exact map_eq_ok.mpr ⟨x, hheld, rfl⟩
    | double x hkind hheld =>
      subst hkind
      exact map_eq_ok.mpr ⟨x, hheld, rfl⟩
    | text text hkind hheld =>
      subst hkind
      exact map_eq_ok.mpr ⟨text, hheld, rfl⟩

theorem bounds (k : IntegerKind) :
    (k.signed = true → -2 ^ 63 ≤ k.low ∧ k.high < 2 ^ 63) ∧
      (k.signed = false → k.low = 0 ∧ k.high < 2 ^ 64) := by
  rcases k with ⟨_ | _, _ | _ | _ | _⟩ <;> decide

/-- An integer of a kind keeps its number in its domain. -/
theorem integer?_integerValue {k : IntegerKind} {n : Int} (hn : k.Contains n) :
    (integerValue k n).integer? = some n := by
  obtain ⟨hlow, hhigh⟩ := hn
  obtain ⟨hsigned, hunsigned⟩ := bounds k
  unfold integerValue
  cases hk : k.signed with
  | true =>
    obtain ⟨hleast, hmost⟩ := hsigned hk
    have hint : (Int64.ofInt n).toInt = n := by
      rw [Int64.toInt_ofInt]
      exact Int.bmod_eq_of_le (by norm_num; omega) (by norm_num; omega)
    rw [if_pos rfl]
    exact congrArg some hint
  | false =>
    obtain ⟨hleast, hmost⟩ := hunsigned hk
    have hnat : (((UInt64.ofNat n.toNat).toNat : Nat) : Int) = n := by
      rw [UInt64.toNat_ofNat', Nat.mod_eq_of_lt (by norm_num; omega)]
      omega
    rw [if_neg (by simp)]
    exact congrArg some hnat

theorem integer?_scalar (hraw : scalar? payload = some raw) :
    (Handle.scalar raw).integer? = payload.integer? := by
  cases payload <;> simp only [scalar?, Option.some.injEq, reduceCtorEq] at hraw <;>
    subst hraw <;> rfl

/-- What is read can be written, and is read again. -/
theorem unwrap_settles (hread : f.unwrap h = .ok value) :
    ∃ s, scalar? value = some s ∧ f.unwrap (.scalar s) = .ok value := by
  have hreads := unwrap_iff.mp hread
  simp only [unwrap_iff]
  cases hreads with
  | integer k n hkind hheld hfits =>
    have hself := integer?_integerValue hfits
    obtain ⟨s, hs⟩ : ∃ s, scalar? (integerValue k n) = some s := by
      unfold integerValue
      split <;> exact ⟨_, rfl⟩
    exact ⟨s, hs, .integer k n hkind ((integer?_scalar hs).trans hself) hfits⟩
  | truth b hkind hheld => exact ⟨_, rfl, .truth b hkind rfl⟩
  | single x hkind hheld => exact ⟨_, rfl, .single x hkind (Handle.readSingle_ofSingle x)⟩
  | double x hkind hheld => exact ⟨_, rfl, .double x hkind rfl⟩
  | text text hkind hheld => exact ⟨_, rfl, .text text hkind rfl⟩

theorem wrap_ok : f.wrap payload = .ok s ↔ ∃ raw, scalar? payload = some raw ∧
    ∃ settled, f.unwrap (.scalar raw) = .ok settled ∧ scalar? settled = some s := by
  unfold wrap
  cases hraw : scalar? payload with
  | none => simp
  | some raw =>
    simp only [bind_eq_ok, Option.some.injEq, exists_eq_left']
    apply exists_congr
    intro settled
    cases hs : scalar? settled <;> simp [throw_ne_ok, pure, Except.pure]

theorem double?_scalar (hraw : scalar? payload = some raw) {x : Float}
    (hread : (Handle.scalar raw).readDouble = .ok x) : payload.double? = some x := by
  cases payload <;> simp only [scalar?, Option.some.injEq, reduceCtorEq] at hraw <;>
    subst hraw <;> simp_all [Handle.readDouble, NativeValue.double?]

theorem truth?_scalar (hraw : scalar? payload = some raw) {b : Bool}
    (hread : (Handle.scalar raw).readBool = .ok b) : payload.truth? = some b := by
  cases payload <;> simp only [scalar?, Option.some.injEq, reduceCtorEq] at hraw <;>
    subst hraw <;> simp_all [Handle.readBool, NativeValue.truth?]

theorem str_of_scalar (hraw : scalar? payload = some raw) {text : String}
    (hread : (Handle.scalar raw).readString = .ok text) : payload = .str text := by
  cases payload <;> simp only [scalar?, Option.some.injEq, reduceCtorEq] at hraw <;>
    subst hraw <;> simp_all [Handle.readString]

theorem readSingle_ok {x : Float32} (hread : h.readSingle = .ok x) :
    ∃ d, h.readDouble = .ok d ∧ Number.narrow d = x := by
  unfold Handle.readSingle at hread
  obtain ⟨d, hd, hread⟩ := bind_eq_ok.mp hread
  dsimp only at hread
  split at hread
  · exact absurd hread throw_ne_ok
  · exact ⟨d, hd, Except.ok.inj hread⟩

theorem form_of_reads (hraw : scalar? payload = some raw) (hreads : f.Reads (.scalar raw) value) :
    f.IsForm payload value := by
  unfold IsForm
  cases hreads with
  | integer k n hkind hheld hfits =>
    rw [hkind]
    exact ⟨n, (integer?_scalar hraw).symm.trans hheld, hfits, rfl, integer?_integerValue hfits⟩
  | truth b hkind hheld =>
    subst hkind
    exact ⟨b, truth?_scalar hraw hheld, rfl⟩
  | single x hkind hheld =>
    subst hkind
    obtain ⟨d, hd, rfl⟩ := readSingle_ok hheld
    exact ⟨d, double?_scalar hraw hd, rfl⟩
  | double x hkind hheld =>
    subst hkind
    exact ⟨x, double?_scalar hraw hheld, rfl⟩
  | text text hkind hheld =>
    subst hkind
    exact ⟨text, str_of_scalar hraw hheld, rfl⟩

/-- What a fundamental makes of a payload, it reads as the payload in its own
form, and makes the same of that. -/
theorem unwrap_wrap (hwrap : f.wrap payload = .ok s) :
    ∃ value, f.unwrap (.scalar s) = .ok value ∧ f.IsForm payload value ∧ f.wrap value = .ok s := by
  obtain ⟨raw, hraw, settled, hread, hs⟩ := wrap_ok.mp hwrap
  obtain ⟨s', hs', hagain⟩ := unwrap_settles hread
  obtain rfl := Option.some.inj (hs.symm.trans hs')
  exact ⟨settled, hagain, form_of_reads hraw (unwrap_iff.mp hread),
    wrap_ok.mpr ⟨s, hs, settled, hagain, hs⟩⟩

/-- What a fundamental reads, it can write, and reads as the same. -/
theorem wrap_unwrap (hread : f.unwrap h = .ok value) :
    ∃ s, f.wrap value = .ok s ∧ f.unwrap (.scalar s) = .ok value := by
  obtain ⟨s, hs, hagain⟩ := unwrap_settles hread
  exact ⟨s, wrap_ok.mpr ⟨s, hs, value, hagain, hs⟩, hagain⟩

end Fundamental

end NativeBridge
