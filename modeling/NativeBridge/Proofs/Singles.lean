-- Singles within doubles. Every single has a double of the same value, and is
-- what that double narrows to. The bits of both are taken apart into a sign, an
-- exponent field and a fraction; from there on it is arithmetic of numbers.
import NativeBridge.Dynamic.Extract
import Mathlib

namespace NativeBridge.Number

open Float.Model (UnpackedFloat Format)
open Float.Model.UnpackedFloat (Sign)
open Float.Model.Format (binary32 binary64)

/-! ## The fields of a word -/

section

variable {spec : Format} (b : BitVec spec.numBits)

theorem toNat_unpackExponent :
    (UnpackedFloat.unpackExponent b).toNat =
      b.toNat / 2 ^ spec.mantissaBitsWithoutImplicit % 2 ^ spec.exponentBits := by
  rw [UnpackedFloat.unpackExponent_def, BitVec.extractLsb'_toNat, Nat.shiftRight_eq_div_pow]

theorem toNat_unpackMantissa :
    (UnpackedFloat.unpackMantissa b).toNat = b.toNat % 2 ^ spec.mantissaBitsWithoutImplicit := by
  rw [UnpackedFloat.unpackMantissa_def, BitVec.extractLsb'_toNat, Nat.shiftRight_zero]

theorem toNat_unpackSign :
    (UnpackedFloat.unpackSign b).toNat =
      b.toNat / 2 ^ (spec.mantissaBitsWithoutImplicit + spec.exponentBits) % 2 := by
  rw [UnpackedFloat.unpackSign_def, BitVec.extractLsb'_toNat, Nat.shiftRight_eq_div_pow, pow_one]

/-- The sign of a number, as the model of doubles has it. -/
def signOf (negative : Bool) : Sign := if negative then .negative else .positive

variable {negative : Bool} {field fraction : Nat}

/-- A word whose exponent field is neither the least nor the greatest is a
number with a leading digit of its own. -/
theorem unpack_of_fields
    (hsign : b.toNat / 2 ^ (spec.mantissaBitsWithoutImplicit + spec.exponentBits) % 2 =
      negative.toNat)
    (hfield : b.toNat / 2 ^ spec.mantissaBitsWithoutImplicit % 2 ^ spec.exponentBits = field)
    (hfraction : b.toNat % 2 ^ spec.mantissaBitsWithoutImplicit = fraction)
    (hpos : 0 < field) (hlt : field + 1 < 2 ^ spec.exponentBits) :
    UnpackedFloat.unpack spec b = .finite (signOf negative)
      (2 ^ spec.mantissaBitsWithoutImplicit + fraction)
      (field - (spec.exponentBias + spec.mantissaBitsWithoutImplicit)) (by positivity) := by
  rw [← toNat_unpackSign] at hsign
  rw [← toNat_unpackExponent] at hfield
  rw [← toNat_unpackMantissa] at hfraction
  have hs : Sign.ofBitVec (UnpackedFloat.unpackSign b) = signOf negative := by
    cases negative
    · rw [show UnpackedFloat.unpackSign b = 0#1 from BitVec.eq_of_toNat_eq hsign]
      rfl
    · rw [show UnpackedFloat.unpackSign b = 1#1 from BitVec.eq_of_toNat_eq hsign]
      rfl
  have hm : (1#1 ++ UnpackedFloat.unpackMantissa b).toNat =
      2 ^ spec.mantissaBitsWithoutImplicit + fraction := by
    have hor := Nat.two_pow_add_eq_or_of_lt (UnpackedFloat.unpackMantissa b).isLt 1
    rw [Nat.mul_one] at hor
    rw [BitVec.toNat_append, BitVec.toNat_ofNat, ← hfraction]
    simp only [Nat.pow_one, Nat.mod_succ, Nat.one_shiftLeft]
    exact hor.symm
  have hne : UnpackedFloat.unpackExponent b ≠ -1#_ := by
    intro heq
    have hall := congrArg BitVec.toNat heq
    rw [hfield, BitVec.neg_one_eq_allOnes, BitVec.toNat_allOnes] at hall
    omega
  have hne' : UnpackedFloat.unpackExponent b ≠ 0#_ := by
    intro heq
    have hall := congrArg BitVec.toNat heq
    rw [hfield, BitVec.toNat_ofNat, Nat.zero_mod] at hall
    omega
  unfold UnpackedFloat.unpack
  simp only [hne, hne', if_false, hs, hm, hfield]

end

/-! ## Normal doubles -/

theorem toNat_signed64 (negative : Bool) {magnitude : Nat} (h : magnitude < 2 ^ 63) :
    (signed64 negative magnitude).toNat = (if negative then 2 ^ 63 else 0) + magnitude := by
  unfold signed64
  rw [UInt64.toNat_ofNat']
  cases negative
  · simp only [Bool.false_eq_true, if_false]
    omega
  · simp only [if_true, Nat.one_shiftLeft]
    omega

/-- Bits that do not say that something is no number are kept. -/
theorem toBits_ofBits {b : UInt64} (h : b.toNat / 2 ^ 52 % 2 ^ 11 ≠ 2047) :
    (Float.ofBits b).toBits = b := by
  have hpack : UnpackedFloat.pack binary64 (UnpackedFloat.unpack binary64 b.toBitVec) =
      b.toBitVec := by
    rw [UnpackedFloat.pack_unpack]
    apply if_neg
    unfold UnpackedFloat.isNaNBits
    rw [decide_eq_true_eq]
    rintro ⟨hexponent, -⟩
    have hfield := congrArg BitVec.toNat hexponent
    rw [toNat_unpackExponent] at hfield
    exact h hfield
  exact UInt64.toBitVec_inj.mp hpack

section

variable (negative : Bool) {field fraction : Nat} (hpos : 0 < field) (hfield : field < 2047)
  (hfraction : fraction < 2 ^ 52)

include hfield hfraction

theorem fields_signed64 :
    let bits := (signed64 negative (field * 2 ^ 52 + fraction)).toNat
    bits / 2 ^ 63 % 2 = negative.toNat ∧ bits / 2 ^ 52 % 2 ^ 11 = field ∧
      bits % 2 ^ 52 = fraction := by
  intro bits
  have hbits : bits = _ := toNat_signed64 negative (by omega)
  rw [hbits]
  cases negative <;> simp <;> omega

include hpos

theorem parts_normal :
    parts (Float.ofBits (signed64 negative (field * 2 ^ 52 + fraction))) =
      .finite negative (2 ^ 52 + fraction) (field - 1075) := by
  obtain ⟨hsign, hexponent, hrest⟩ := fields_signed64 negative hfield hfraction
  unfold parts
  rw [toBits_ofBits (by omega)]
  simp only [Nat.shiftRight_eq_div_pow, Nat.one_shiftLeft]
  rw [hsign, hexponent, hrest, if_neg (by omega), if_neg (by omega)]
  cases negative <;> rfl

theorem unpack_normal :
    (Float.ofBits (signed64 negative (field * 2 ^ 52 + fraction))).toModel.unpack =
      .finite (signOf negative) (2 ^ 52 + fraction) (field - 1075) (by omega) := by
  obtain ⟨hsign, hexponent, hrest⟩ := fields_signed64 negative hfield hfraction
  have hword := congrArg (fun bits : UInt64 => UnpackedFloat.unpack binary64 bits.toBitVec)
    (toBits_ofBits (b := signed64 negative (field * 2 ^ 52 + fraction)) (by omega))
  refine hword.trans (unpack_of_fields _ hsign hexponent hrest hpos ?_)
  change field + 1 < 2 ^ 11
  omega

end

/-! ## Singles -/

/-- A mantissa and an exponent as singles have them: the mantissa is full, or
the exponent is the least. -/
structure IsSingle (mantissa : Nat) (exponent : Int) : Prop where
  pos : mantissa ≠ 0
  lt : mantissa < 2 ^ 24
  full : 2 ^ 23 ≤ mantissa ∨ exponent = -149
  low : -149 ≤ exponent
  high : exponent ≤ 104

/-- Such a number in the form that doubles have. -/
theorem IsSingle.shifted {m : Nat} {e : Int} (h : IsSingle m e) :
    m.log2 ≤ 23 ∧ (m.log2 = 23 ∨ e = -149) ∧ 2 ^ 52 ≤ m * 2 ^ (52 - m.log2) ∧
      m * 2 ^ (52 - m.log2) < 2 ^ 53 := by
  have hlog : m.log2 < 24 := (Nat.log2_lt h.pos).mpr h.lt
  have hself : 2 ^ m.log2 ≤ m := Nat.log2_self_le h.pos
  have hnext : m < 2 ^ (m.log2 + 1) := Nat.lt_log2_self
  refine ⟨by omega, ?_, ?_, ?_⟩
  · rcases h.full with hfull | hleast
    · have hle : 23 ≤ m.log2 := (Nat.le_log2 h.pos).mpr hfull
      exact Or.inl (by omega)
    · exact Or.inr hleast
  · calc 2 ^ 52 = 2 ^ m.log2 * 2 ^ (52 - m.log2) := by rw [← pow_add]; congr 1; omega
      _ ≤ m * 2 ^ (52 - m.log2) := Nat.mul_le_mul_right _ hself
  · calc m * 2 ^ (52 - m.log2) < 2 ^ (m.log2 + 1) * 2 ^ (52 - m.log2) :=
          Nat.mul_lt_mul_of_pos_right hnext (by positivity)
      _ = 2 ^ 53 := by rw [← pow_add]; congr 1; omega

section

variable {m : Nat} {e : Int} (h : IsSingle m e)

include h

theorem IsSingle.doubleMagnitude_eq :
    ∃ field fraction : Nat, 0 < field ∧ field < 2047 ∧ fraction < 2 ^ 52 ∧
      doubleMagnitude m e = field * 2 ^ 52 + fraction ∧
      2 ^ 52 + fraction = m * 2 ^ (52 - m.log2) ∧
      (field : Int) - 1075 = e - (52 - m.log2 : Nat) := by
  obtain ⟨htop, -, hge, hlt⟩ := h.shifted
  have hlow := h.low
  have hhigh := h.high
  refine ⟨(m.log2 + e + 1023).toNat, m * 2 ^ (52 - m.log2) - 2 ^ 52, by omega, by omega, by omega,
    ?_, by omega, by omega⟩
  unfold doubleMagnitude
  simp only [Nat.shiftLeft_eq]
  generalize m * 2 ^ (52 - m.log2) = digits at hge hlt ⊢
  omega

theorem IsSingle.parts (negative : Bool) :
    parts (Float.ofBits (signed64 negative (doubleMagnitude m e))) =
      .finite negative (m * 2 ^ (52 - m.log2)) (e - (52 - m.log2 : Nat)) := by
  obtain ⟨field, fraction, hpos, hfield, hfraction, hmagnitude, hdigits, hexponent⟩ :=
    h.doubleMagnitude_eq
  rw [hmagnitude, parts_normal negative hpos hfield hfraction, hdigits, hexponent]

theorem IsSingle.unpack (negative : Bool) :
    ∃ hpos, (Float.ofBits (signed64 negative (doubleMagnitude m e))).toModel.unpack =
      .finite (signOf negative) (m * 2 ^ (52 - m.log2)) (e - (52 - m.log2 : Nat)) hpos := by
  obtain ⟨field, fraction, hpos, hfield, hfraction, hmagnitude, hdigits, hexponent⟩ :=
    h.doubleMagnitude_eq
  refine ⟨by omega, ?_⟩
  rw [hmagnitude, unpack_normal negative hpos hfield hfraction]
  simp only [hdigits, hexponent]

/-- Narrowing cuts off the digits that widening added. -/
theorem IsSingle.singleMagnitude_eq :
    singleMagnitude (m * 2 ^ (52 - m.log2)) (e - (52 - m.log2 : Nat)) =
      (e + 149).toNat * 2 ^ 23 + m := by
  obtain ⟨htop, hfull, hge, hlt⟩ := h.shifted
  have hlow := h.low
  have hhigh := h.high
  have hmantissa := h.lt
  have hlog : (m * 2 ^ (52 - m.log2)).log2 = 52 := by
    rw [Nat.log2_eq_iff (by omega)]
    exact ⟨hge, hlt⟩
  have hunit : max (((m * 2 ^ (52 - m.log2)).log2 : Int) + (e - (52 - m.log2 : Nat)) - 23) (-149) =
      e := by
    rw [hlog]
    omega
  unfold singleMagnitude
  dsimp only
  rw [hunit, if_neg (by omega)]
  have hshift : (e - (e - (52 - m.log2 : Nat))).toNat = 52 - m.log2 := by omega
  rw [hshift, ← Nat.shiftLeft_eq m, shiftRounded_shiftLeft, Nat.shiftLeft_eq]
  omega

theorem IsSingle.narrow_widened (negative : Bool) :
    narrow (Float.ofBits (signed64 negative (doubleMagnitude m e))) =
      Float32.ofBits (signed32 negative ((e + 149).toNat * 2 ^ 23 + m)) := by
  obtain ⟨-, -, hge, -⟩ := h.shifted
  unfold narrow
  rw [h.parts negative]
  dsimp only
  rw [if_neg (by omega), h.singleMagnitude_eq]

end

theorem toNat_signed32 (negative : Bool) {magnitude : Nat} (h : magnitude < 2 ^ 31) :
    (signed32 negative magnitude).toNat = (if negative then 2 ^ 31 else 0) + magnitude := by
  unfold signed32
  rw [UInt32.toNat_ofNat']
  cases negative
  · simp only [Bool.false_eq_true, if_false]
    omega
  · simp only [if_true, Nat.one_shiftLeft]
    omega

/-- A single and the double that it becomes. -/
inductive Widened : Float32 → Float → Prop where
  | nan : Widened (Float32.ofBits 0x7fc00000) (Float.ofBits 0x7ff8000000000000)
  | infinite (negative : Bool) : Widened (Float32.ofBits (signed32 negative (255 * 2 ^ 23)))
    (Float.ofBits (signed64 negative 0x7ff0000000000000))
  | zero (negative : Bool) : Widened (Float32.ofBits (signed32 negative 0))
    (Float.ofBits (signed64 negative 0))
  | finite (negative : Bool) {m : Nat} {e : Int} (h : IsSingle m e) :
    Widened (Float32.ofBits (signed32 negative ((e + 149).toNat * 2 ^ 23 + m)))
      (Float.ofBits (signed64 negative (doubleMagnitude m e)))

theorem toBits_nan {y : Float32} (hfield : y.toBits.toNat / 2 ^ 23 % 2 ^ 8 = 255)
    (hfraction : y.toBits.toNat % 2 ^ 23 ≠ 0) : y.toBits = 0x7fc00000 := by
  have hexponent : @UnpackedFloat.unpackExponent binary32 y.toBits.toBitVec = -1#_ := by
    apply BitVec.eq_of_toNat_eq
    rw [toNat_unpackExponent]
    exact hfield
  have hmantissa : @UnpackedFloat.unpackMantissa binary32 y.toBits.toBitVec ≠ 0#_ := by
    intro hzero
    have hnat := congrArg BitVec.toNat hzero
    rw [toNat_unpackMantissa] at hnat
    exact hfraction hnat
  have hpacked := y.toModel.valid.eq_packedNaN hexponent hmantissa
  exact UInt32.toBitVec_inj.mp (hpacked.trans (by decide))

/-- The bits of a single by their fields. -/
theorem single_fields (y : Float32) : ∃ (negative : Bool) (field fraction : Nat),
    field < 2 ^ 8 ∧ fraction < 2 ^ 23 ∧
      y.toBits = signed32 negative (field * 2 ^ 23 + fraction) := by
  have hword := y.toBits.toNat_lt
  obtain ⟨negative, hsign⟩ : ∃ negative : Bool, y.toBits.toNat / 2 ^ 31 = negative.toNat := by
    rcases (by omega : y.toBits.toNat / 2 ^ 31 = 0 ∨ y.toBits.toNat / 2 ^ 31 = 1) with h | h
    · exact ⟨false, h⟩
    · exact ⟨true, h⟩
  refine ⟨negative, y.toBits.toNat / 2 ^ 23 % 2 ^ 8, y.toBits.toNat % 2 ^ 23, by omega, by omega,
    ?_⟩
  apply UInt32.toNat_inj.mp
  rw [toNat_signed32 negative (by omega)]
  cases negative
  · simp only [Bool.toNat_false, Bool.false_eq_true, if_false] at hsign ⊢
    omega
  · simp only [Bool.toNat_true, if_true] at hsign ⊢
    omega

section

variable {y : Float32} {negative : Bool} {field fraction : Nat} (hfield : field < 2 ^ 8)
  (hfraction : fraction < 2 ^ 23) (hy : y.toBits = signed32 negative (field * 2 ^ 23 + fraction))

include hfield hfraction hy

theorem fields_signed32 :
    y.toBits.toNat / 2 ^ 31 % 2 = negative.toNat ∧ y.toBits.toNat / 2 ^ 23 % 2 ^ 8 = field ∧
      y.toBits.toNat % 2 ^ 23 = fraction := by
  rw [hy, toNat_signed32 negative (by omega)]
  cases negative <;> simp <;> omega

/-- Widening, by the fields of the single. -/
theorem widen_of_fields :
    widen y = Float.ofBits (
      if field = 255 then
        if fraction = 0 then signed64 negative 0x7ff0000000000000 else 0x7ff8000000000000
      else if field = 0 then
        signed64 negative (if fraction = 0 then 0 else doubleMagnitude fraction (-149))
      else signed64 negative (doubleMagnitude (2 ^ 23 + fraction) ((field : Int) - 150))) := by
  obtain ⟨hsign, hexponent, hrest⟩ := fields_signed32 hfield hfraction hy
  have hnegative : (y.toBits.toNat / 2 ^ 31 % 2 == 1) = negative := by
    rw [hsign]
    cases negative <;> rfl
  unfold widen
  simp only [Nat.shiftRight_eq_div_pow, Nat.one_shiftLeft, hnegative, hexponent, hrest]

end

theorem widened (y : Float32) : Widened y (widen y) := by
  obtain ⟨negative, field, fraction, hfield, hfraction, hy⟩ := single_fields y
  obtain ⟨-, hexponent, hrest⟩ := fields_signed32 hfield hfraction hy
  rw [widen_of_fields hfield hfraction hy, ← Float32.ofBits_toBits y]
  by_cases hlast : field = 255
  · rw [if_pos hlast]
    by_cases hzero : fraction = 0
    · rw [if_pos hzero, hy, hlast, hzero, Nat.add_zero]
      exact .infinite negative
    · rw [if_neg hzero]
      rw [toBits_nan (hexponent.trans hlast) (hrest ▸ hzero)]
      exact .nan
  · rw [if_neg hlast, hy]
    by_cases hfirst : field = 0
    · rw [if_pos hfirst, hfirst]
      by_cases hzero : fraction = 0
      · rw [if_pos hzero, hzero, Nat.zero_mul, Nat.add_zero]
        exact .zero negative
      · have hone : IsSingle fraction (-149) :=
          ⟨hzero, by omega, Or.inr rfl, by omega, by omega⟩
        have hmagnitude : 0 * 2 ^ 23 + fraction =
            ((-149 : Int) + 149).toNat * 2 ^ 23 + fraction := by omega
        rw [if_neg hzero, hmagnitude]
        exact .finite negative hone
    · rw [if_neg hfirst]
      have hone : IsSingle (2 ^ 23 + fraction) ((field : Int) - 150) :=
        ⟨by omega, by omega, Or.inl (by omega), by omega, by omega⟩
      have hmagnitude : field * 2 ^ 23 + fraction =
          ((field : Int) - 150 + 149).toNat * 2 ^ 23 + (2 ^ 23 + fraction) := by omega
      rw [hmagnitude]
      exact .finite negative hone

/-- A single comes back from its double. -/
theorem narrow_widen (y : Float32) : narrow (widen y) = y := by
  have h := widened y
  generalize widen y = x at h
  cases h with
  | nan => decide +kernel
  | infinite negative => cases negative <;> decide +kernel
  | zero negative => cases negative <;> decide +kernel
  | finite negative h => exact h.narrow_widened negative

/-! ## The range of singles -/

theorem lt_iff (x y : Float) :
    x < y ↔ x.toModel.unpack.compare y.toModel.unpack = some .lt := by
  change decide (x.toModel < y.toModel) = true ↔ _
  rw [decide_eq_true_iff]
  change (x.toModel.unpack.compare y.toModel.unpack == some .lt) = true ↔ _
  exact beq_iff_eq

theorem unpack_largest : ∃ hpos, largestSingle.toModel.unpack =
    .finite .positive ((2 ^ 24 - 1) * 2 ^ 29) 75 hpos := by
  refine ⟨by omega, ?_⟩
  have hbits :
      largestSingle = Float.ofBits (signed64 false (1150 * 2 ^ 52 + (2 ^ 52 - 2 ^ 29))) := rfl
  rw [hbits]
  exact unpack_normal false (by omega) (by omega) (by omega)

theorem unpack_least : ∃ hpos, (-largestSingle).toModel.unpack =
    .finite .negative ((2 ^ 24 - 1) * 2 ^ 29) 75 hpos := by
  refine ⟨by omega, ?_⟩
  have hbits :
      -largestSingle = Float.ofBits (signed64 true (1150 * 2 ^ 52 + (2 ^ 52 - 2 ^ 29))) := by
    decide +kernel
  rw [hbits]
  exact unpack_normal true (by omega) (by omega) (by omega)

/-- No finite single is beyond the largest one. -/
theorem IsSingle.within {m : Nat} {e : Int} (h : IsSingle m e) (negative : Bool) :
    let x := Float.ofBits (signed64 negative (doubleMagnitude m e))
    ¬ largestSingle < x ∧ ¬ x < -largestSingle := by
  intro x
  obtain ⟨hpos, hx⟩ := h.unpack negative
  obtain ⟨hpos', hlargest⟩ := unpack_largest
  obtain ⟨hpos'', hleast⟩ := unpack_least
  obtain ⟨htop, hfull, hge, hlt⟩ := h.shifted
  rw [lt_iff, lt_iff, hx, hlargest, hleast]
  have hhigh := h.high
  have hmantissa := h.lt
  -- with the exponent of the largest single, the mantissa is not greater
  have hnot : (compare (75 : Int) (e - (52 - m.log2 : Nat))).then
      (compare ((2 ^ 24 - 1) * 2 ^ 29) (m * 2 ^ (52 - m.log2))) ≠ .lt := by
    by_cases hlast : e - (52 - m.log2 : Nat) = 75
    · have hlog : m.log2 = 23 := by omega
      rw [hlast, hlog, Std.compare_self, Ordering.eq_then, ne_eq, Nat.compare_eq_lt]
      omega
    · have hgt : compare (75 : Int) (e - (52 - m.log2 : Nat)) = .gt := by
        rw [Int.compare_eq_gt]
        omega
      rw [hgt]
      simp
  have hnot' : ((compare (e - (52 - m.log2 : Nat)) (75 : Int)).then
      (compare (m * 2 ^ (52 - m.log2)) ((2 ^ 24 - 1) * 2 ^ 29))).swap ≠ .lt := by
    rwa [Ordering.swap_then, ← Std.OrientedCmp.eq_swap, ← Std.OrientedCmp.eq_swap]
  cases negative
  · exact ⟨fun heq => hnot (Option.some.inj heq),
      fun heq => Ordering.noConfusion (Option.some.inj heq)⟩
  · exact ⟨fun heq => Ordering.noConfusion (Option.some.inj heq),
      fun heq => hnot' (Option.some.inj heq)⟩

/-- What was widened is no number, or infinite, or in the range of singles. -/
theorem widen_within (y : Float32) :
    (widen y).isFinite = true → ¬ largestSingle < widen y ∧ ¬ widen y < -largestSingle := by
  have h := widened y
  generalize widen y = x at h
  intro hfinite
  cases h with
  | nan => exact absurd hfinite (by decide +kernel)
  | infinite negative => cases negative <;> exact absurd hfinite (by decide +kernel)
  | zero negative => cases negative <;> decide +kernel
  | finite negative h => exact h.within negative

end NativeBridge.Number

namespace NativeBridge

/-- A single is read back from its double. -/
theorem Handle.readSingle_ofSingle (y : Float32) : (Handle.ofSingle y).readSingle = .ok y := by
  have hwithin := Number.widen_within y
  have hpass : ((Number.widen y).isFinite && (decide (Number.largestSingle < Number.widen y) ||
      decide (Number.widen y < -Number.largestSingle))) = false := by
    cases hfinite : (Number.widen y).isFinite with
    | false => rfl
    | true =>
      obtain ⟨habove, hbelow⟩ := hwithin hfinite
      rw [decide_eq_false habove, decide_eq_false hbelow]
      rfl
  have hread : (Handle.ofSingle y).readDouble = .ok (Number.widen y) := rfl
  unfold Handle.readSingle
  rw [hread]
  simp only [bind, Except.bind, hpass, Bool.false_eq_true, if_false]
  exact congrArg Except.ok (Number.narrow_widen y)

end NativeBridge
