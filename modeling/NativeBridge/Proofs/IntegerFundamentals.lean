-- The integer fundamentals. Each takes the integers of its range, out of either
-- sign domain, and gives them in its own. An integer outside of the range is an
-- overflow, and all else a mismatch; nothing is rounded or cut off.
import NativeBridge.Proofs.ScalarCodecs

namespace NativeBridge

/-! ## Integers and their domains -/

/-- The integers of so many bits, with a sign or without. -/
def InRange (signed : Bool) (bits : Nat) (n : Int) : Prop :=
  if signed then -2 ^ (bits - 1) ≤ n ∧ n < 2 ^ (bits - 1) else 0 ≤ n ∧ n < 2 ^ bits

/-- The integer fundamentals, each with its sign and its bits. -/
inductive Fundamental.IsInteger : Fundamental → Bool → Nat → Prop where
  | char : IsInteger .char true 8
  | uchar : IsInteger .uchar false 8
  | int : IsInteger .int true 32
  | uint : IsInteger .uint false 32
  | long : IsInteger .long true 64
  | ulong : IsInteger .ulong false 64
  | int64 : IsInteger .int64 true 64
  | uint64 : IsInteger .uint64 false 64

/-- Whether a payload is an integer, in the domain with a sign or without. -/
inductive NativeValue.Is : NativeValue → Bool → Int → Prop where
  | int {x : Int64} {n : Int} (hx : x.toInt = n) : Is (.int x) true n
  | uint {x : UInt64} {n : Int} (hx : x.toNat = n) : Is (.uint x) false n

/-- Whether a scalar is an integer, in the domain with a sign or without. -/
inductive Scalar.Is : Scalar → Bool → Int → Prop where
  | int {x : Int64} {n : Int} (hx : x.toInt = n) : Is (.int x) true n
  | uint {x : UInt64} {n : Int} (hx : x.toNat = n) : Is (.uint x) false n

/-- Whether a payload denotes an integer, in whichever domain. -/
def NativeValue.Denotes (value : NativeValue) (n : Int) : Prop := ∃ signed, value.Is signed n

/-- Whether a handle denotes an integer, in whichever domain. -/
def Handle.Denotes (h : Handle) (n : Int) : Prop := ∃ s signed, h = .scalar s ∧ s.Is signed n

/-- Whether a conversion of what may denote an integer is exact: it gives the
integers of a range as they are. -/
structure ConvertsExactly {α : Type} (signed : Bool) (bits : Nat) (denotes : Int → Prop)
    (gives : α → Int → Prop) (mismatch : ConversionError) (result : Except ConversionError α) :
    Prop where
  succeeds : (∃ a, result = .ok a) ↔ ∃ n, denotes n ∧ InRange signed bits n
  exact : ∀ a n, result = .ok a → denotes n → gives a n
  overflows : ∀ n, denotes n → ¬InRange signed bits n → result =
    .error (.integerOverflow (toString n) ((if signed then "i" else "u") ++ toString bits))
  mismatches : (∀ n, ¬denotes n) → result = .error mismatch

/-- The family of the integers with a sign, or of those without. -/
def integerFamily (signed : Bool) : String := if signed then "int" else "uint"

/-! ## Readings -/

theorem Handle.denotes_iff {h : Handle} {n : Int} : h.Denotes n ↔ h.integer? = some n := by
  constructor
  · rintro ⟨s, signed, rfl, hs⟩
    cases hs with
    | int hx => exact congrArg some hx
    | uint hx => exact congrArg some hx
  · intro hn
    unfold integer? at hn
    split at hn <;> cases hn
    · exact ⟨_, _, rfl, .int rfl⟩
    · exact ⟨_, _, rfl, .uint rfl⟩

theorem NativeValue.denotes_iff {value : NativeValue} {n : Int} :
    value.Denotes n ↔ value.integer? = some n := by
  constructor
  · rintro ⟨signed, hvalue⟩
    cases hvalue with
    | int hx => exact congrArg some hx
    | uint hx => exact congrArg some hx
  · intro hn
    unfold integer? at hn
    split at hn <;> cases hn
    · exact ⟨_, .int rfl⟩
    · exact ⟨_, .uint rfl⟩

namespace IntegerKind

variable {k : IntegerKind} {n : Int}

theorem contains_iff (k : IntegerKind) (n : Int) :
    k.Contains n ↔ InRange k.signed k.width.bits n := by
  have hhalf : (k.half : Int) = 2 ^ (k.width.bits - 1) := by
    rw [half, Nat.one_shiftLeft]
    norm_cast
  have hbits : 2 * (2 : Int) ^ (k.width.bits - 1) = 2 ^ k.width.bits :=
    mul_pow_sub_one (by cases k.width <;> decide) 2
  unfold Contains InRange low high
  rw [hhalf]
  split
  · omega
  · rw [hbits]
    omega

/-- Reading an integer of a kind is exact. -/
theorem convertsExactly_readInteger (k : IntegerKind) (h : Handle) :
    ConvertsExactly k.signed k.width.bits h.Denotes (fun m n => m = n)
      (.typeMismatch (integerFamily k.signed) h.typeName) (h.readInteger k) where
  succeeds := by
    simp only [Fundamental.readInteger_ok, Handle.denotes_iff, contains_iff]
  exact := by
    intro m n hread hn
    obtain ⟨hm, -⟩ := Fundamental.readInteger_ok.mp hread
    exact Option.some.inj (hm.symm.trans (Handle.denotes_iff.mp hn))
  overflows := by
    intro n hn hout
    unfold Handle.readInteger fit
    rw [Handle.denotes_iff.mp hn]
    exact if_neg fun hin => hout ((contains_iff k n).mp hin)
  mismatches := by
    intro hnone
    have hinteger : h.integer? = none :=
      Option.eq_none_iff_forall_ne_some.mpr fun n hn => hnone n (Handle.denotes_iff.mpr hn)
    unfold Handle.readInteger
    rw [hinteger]
    rfl

end IntegerKind

/-! ## Fundamentals -/

section

variable {α β : Type} {signed : Bool} {bits : Nat} {denotes denotes' : Int → Prop}
  {gives : α → Int → Prop} {gives' : β → Int → Prop} {mismatch : ConversionError}
  {result : Except ConversionError α}

/-- An exact conversion goes on being exact in another form of the integers. -/
theorem ConvertsExactly.map {f : α → β}
    (hexact : ConvertsExactly signed bits denotes gives mismatch result)
    (hf : ∀ a n, gives a n → InRange signed bits n → gives' (f a) n) :
    ConvertsExactly signed bits denotes gives' mismatch (result.map f) where
  succeeds := by
    rw [← hexact.succeeds]
    cases result <;> simp [Except.map]
  exact := by
    intro b n hmap hn
    obtain ⟨a, ha, rfl⟩ := map_eq_ok.mp hmap
    refine hf a n (hexact.exact a n ha hn) ?_
    by_contra hout
    rw [hexact.overflows n hn hout] at ha
    cases ha
  overflows := by
    intro n hn hout
    rw [hexact.overflows n hn hout]
    rfl
  mismatches := by
    intro hnone
    rw [hexact.mismatches hnone]
    rfl

theorem ConvertsExactly.congr (hexact : ConvertsExactly signed bits denotes gives mismatch result)
    (hsame : ∀ n, denotes n ↔ denotes' n) :
    ConvertsExactly signed bits denotes' gives mismatch result := by
  rwa [← funext fun n => propext (hsame n)]

end

namespace Fundamental

variable {f : Fundamental} {k : IntegerKind} {signed : Bool} {bits : Nat} {n : Int}
  {payload : NativeValue} {raw : Scalar}

theorem IsInteger.kind (hf : f.IsInteger signed bits) :
    ∃ k : IntegerKind, f.integerKind? = some k ∧ k.signed = signed ∧ k.width.bits = bits := by
  cases hf <;> exact ⟨_, rfl, rfl, rfl⟩

/-- The scalar of an integer, in the sign domain of its kind. -/
def integerScalar (k : IntegerKind) (n : Int) : Scalar :=
  if k.signed then .int (Int64.ofInt n) else .uint (UInt64.ofNat n.toNat)

theorem scalar?_integerValue (k : IntegerKind) (n : Int) :
    scalar? (integerValue k n) = some (integerScalar k n) := by
  unfold integerValue integerScalar
  split <;> rfl

theorem is_integerValue (hn : k.Contains n) : (integerValue k n).Is k.signed n := by
  have hself := integer?_integerValue hn
  unfold integerValue at hself ⊢
  cases hsigned : k.signed with
  | true =>
    rw [if_pos hsigned] at hself
    exact .int (Option.some.inj hself)
  | false =>
    rw [if_neg (by simp [hsigned])] at hself
    exact .uint (Option.some.inj hself)

/-- A payload and its scalar are the same integer in the same domain. -/
theorem is_scalar_iff (hraw : scalar? payload = some raw) :
    raw.Is signed n ↔ payload.Is signed n := by
  cases payload <;> simp only [scalar?, Option.some.injEq, reduceCtorEq] at hraw <;> subst hraw <;>
    constructor <;> intro his <;> cases his <;> constructor <;> assumption

theorem is_integerScalar (hn : k.Contains n) : (integerScalar k n).Is k.signed n :=
  (is_scalar_iff (scalar?_integerValue k n)).mpr (is_integerValue hn)

theorem unwrap_integer (hkind : f.integerKind? = some k) (h : Handle) :
    f.unwrap h = (h.readInteger k).map (integerValue k) := by
  unfold unwrap
  rw [hkind]

/-- A scalar payload goes through the reading of its handle. -/
theorem wrap_integer (hkind : f.integerKind? = some k) (hraw : scalar? payload = some raw) :
    f.wrap payload = ((Handle.scalar raw).readInteger k).map (integerScalar k) := by
  unfold wrap
  rw [hraw]
  dsimp only
  rw [unwrap_integer hkind]
  cases (Handle.scalar raw).readInteger k with
  | error e => rfl
  | ok n =>
    simp only [Except.map, bind, Except.bind, scalar?_integerValue]
    rfl

theorem typeName_scalar (hraw : scalar? payload = some raw) : raw.typeName = payload.kindName := by
  cases payload <;> simp only [scalar?, Option.some.injEq, reduceCtorEq] at hraw <;>
    subst hraw <;> rfl

/-- What a payload is expected to be: an integer of a family, or a scalar at
least. -/
def expected (f : Fundamental) (signed : Bool) (payload : NativeValue) : String :=
  if (scalar? payload).isSome then integerFamily signed else f.name

theorem convertsExactly_unwrap (hkind : f.integerKind? = some k) (h : Handle) :
    ConvertsExactly k.signed k.width.bits h.Denotes (fun value n => value.Is k.signed n)
      (.typeMismatch (integerFamily k.signed) h.typeName) (f.unwrap h) := by
  rw [unwrap_integer hkind]
  refine (k.convertsExactly_readInteger h).map ?_
  rintro m n rfl hin
  exact is_integerValue ((k.contains_iff m).mpr hin)

theorem convertsExactly_wrap (hkind : f.integerKind? = some k) (payload : NativeValue) :
    ConvertsExactly k.signed k.width.bits payload.Denotes (fun s n => s.Is k.signed n)
      (.typeMismatch (f.expected k.signed payload) payload.kindName) (f.wrap payload) := by
  unfold expected
  cases hraw : scalar? payload with
  | some raw =>
    have hsame : ∀ n, (Handle.scalar raw).Denotes n ↔ payload.Denotes n := by
      intro n
      rw [Handle.denotes_iff, NativeValue.denotes_iff, integer?_scalar hraw]
    rw [wrap_integer hkind hraw, Option.isSome_some, if_pos rfl, ← typeName_scalar hraw]
    refine ((k.convertsExactly_readInteger (.scalar raw)).congr hsame).map ?_
    rintro m n rfl hin
    exact is_integerScalar ((k.contains_iff m).mpr hin)
  | none =>
    have hnone : ∀ n, ¬payload.Denotes n := by
      rintro n ⟨signed, hvalue⟩
      cases hvalue <;> cases hraw
    have hrefused : f.wrap payload = .error (.typeMismatch f.name payload.kindName) := by
      unfold wrap
      rw [hraw]
    rw [hrefused]
    refine ⟨?_, ?_, fun n hn => absurd hn (hnone n), fun _ => rfl⟩
    · simp [hnone]
    · exact fun s n hs => absurd hs (by simp)

/-- What is written is read as the same integer, and written as it is again. -/
theorem returns_of_wrap (hkind : f.integerKind? = some k) {s : Scalar}
    (hwrap : f.wrap payload = .ok s) :
    ∃ value, f.unwrap (.scalar s) = .ok value ∧
      (∀ n, value.Denotes n ↔ payload.Denotes n) ∧ f.wrap value = .ok s := by
  obtain ⟨value, hread, hform, hagain⟩ := unwrap_wrap hwrap
  refine ⟨value, hread, fun n => ?_, hagain⟩
  unfold IsForm at hform
  rw [hkind] at hform
  obtain ⟨m, hpayload, -, -, hvalue⟩ := hform
  rw [NativeValue.denotes_iff, NativeValue.denotes_iff, hpayload, hvalue]

/-- Whether a fundamental is exact on the integers of a range. -/
structure Exact (f : Fundamental) (signed : Bool) (bits : Nat) : Prop where
  unwraps : ∀ h : Handle, ConvertsExactly signed bits h.Denotes (fun value n => value.Is signed n)
    (.typeMismatch (integerFamily signed) h.typeName) (f.unwrap h)
  wraps : ∀ payload : NativeValue, ConvertsExactly signed bits payload.Denotes
    (fun s n => s.Is signed n) (.typeMismatch (f.expected signed payload) payload.kindName)
    (f.wrap payload)
  returns : ∀ payload s, f.wrap payload = .ok s → ∃ value, f.unwrap (.scalar s) = .ok value ∧
    (∀ n, value.Denotes n ↔ payload.Denotes n) ∧ f.wrap value = .ok s

end Fundamental

/-! ## Machine integers -/

/-- The handle of a machine integer denotes it, and nothing else. -/
theorem denotes_ofInteger {k : IntegerKind} {n : Int} (hn : k.Contains n) (m : Int) :
    (Handle.ofInteger k n).Denotes m ↔ n = m := by
  have hscalar : Handle.ofInteger k n = .scalar (Fundamental.integerScalar k n) := by
    unfold Handle.ofInteger Fundamental.integerScalar
    split <;> rfl
  have hn' : (Handle.ofInteger k n).integer? = some n :=
    Handle.denotes_iff.mp ⟨_, _, hscalar, Fundamental.is_integerScalar hn⟩
  rw [Handle.denotes_iff, hn', Option.some.injEq]

/-- Every integer fundamental is exact on the integers of its own sign and
bits. And of two kinds of machine integers, the one takes from a handle of the
other the integers that are of its own range as well, as they are. -/
theorem integer_fundamentals_exact :
    (∀ (f : Fundamental) (signed : Bool) (bits : Nat), f.IsInteger signed bits →
      f.Exact signed bits) ∧
    ∀ (source target : IntegerKind) (n : Int), InRange source.signed source.width.bits n →
      ConvertsExactly target.signed target.width.bits (fun m => n = m) (fun m n => m = n)
        (.typeMismatch (integerFamily target.signed) (Handle.ofInteger source n).typeName)
        ((Handle.ofInteger source n).readInteger target) := by
  constructor
  · rintro f signed bits hf
    obtain ⟨k, hkind, rfl, rfl⟩ := hf.kind
    exact ⟨f.convertsExactly_unwrap hkind, f.convertsExactly_wrap hkind,
      fun payload s hwrap => Fundamental.returns_of_wrap hkind hwrap⟩
  · intro source target n hn
    have hcontains : source.Contains n := (source.contains_iff n).mpr hn
    exact (target.convertsExactly_readInteger _).congr (denotes_ofInteger hcontains)

/-- A byte without a sign takes 200 out of the domain with one, where a byte
with a sign has no room for it; and half of all numbers of 64 bits are too
large for the signed ones. -/
theorem sample_integer_fundamentals_exact :
    Fundamental.uchar.IsInteger false 8 ∧ Fundamental.char.IsInteger true 8 ∧
      InRange false 64 (2 ^ 63) ∧
      (∃ value, Fundamental.uchar.unwrap (.ofInt 200) = .ok value ∧ value.Is false 200) ∧
      Fundamental.char.unwrap (.ofInt 200) = .error (.integerOverflow "200" "i8") ∧
      (Handle.ofInteger ⟨false, .w64⟩ (2 ^ 63)).readInteger ⟨true, .w64⟩ =
        .error (.integerOverflow "9223372036854775808" "i64") := by
  have hin : InRange false 64 (2 ^ 63) := by norm_num [InRange]
  have hdenotes : (Handle.ofInt 200).Denotes 200 := ⟨_, _, rfl, .int rfl⟩
  obtain ⟨hexact, hmachine⟩ := integer_fundamentals_exact
  have huchar := (hexact .uchar false 8 .uchar).unwraps (.ofInt 200)
  have hchar := (hexact .char true 8 .char).unwraps (.ofInt 200)
  obtain ⟨value, hvalue⟩ := huchar.succeeds.mpr ⟨200, hdenotes, by norm_num [InRange]⟩
  exact ⟨.uchar, .char, hin, ⟨value, hvalue, huchar.exact value 200 hvalue hdenotes⟩,
    hchar.overflows 200 hdenotes (by norm_num [InRange]),
    (hmachine ⟨false, .w64⟩ ⟨true, .w64⟩ _ hin).overflows _ rfl (by norm_num [InRange, Width.bits])⟩

end NativeBridge
