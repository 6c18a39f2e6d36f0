-- Signatures of trees. A signature writes the members of a tuple one after another,
-- and the element of an array right behind its mark. It can be read in one way
-- only as long as each element is the signature of one type. An empty array takes
-- any text for its element, and then trees of different types can have the
-- same signature.
import NativeBridge.Variant

namespace NativeBridge

namespace Variant

/-! ## Types of trees -/

mutual

/-- Whether two trees have the same type: scalars of one kind, arrays with one
element, or tuples whose members have the same types in turn. -/
def sameType : Variant → Variant → Bool
  | bool _, bool _ | int32 _, int32 _ | int64 _, int64 _ | uint32 _, uint32 _
  | uint64 _, uint64 _ | double _, double _ | str _, str _ => true
  | array e _, array f _ => e == f
  | tuple xs, tuple ys => sameTypes xs ys
  | _, _ => false

def sameTypes : List Variant → List Variant → Bool
  | [], [] => true
  | x :: xs, y :: ys => x.sameType y && sameTypes xs ys
  | _, _ => false

end

mutual

/-- The elements of the arrays that a signature writes out, in its order. -/
def elements : Variant → List String
  | array element _ => [element]
  | tuple items => elementsAll items
  | _ => []

def elementsAll : List Variant → List String
  | [] => []
  | item :: rest => item.elements ++ elementsAll rest

end

/-- The texts that are the signature of one type. -/
inductive IsSignature : List Char → Prop
  | scalar {letter : Char} : letter ∈ ['b', 'i', 'x', 'u', 't', 'd', 's'] → IsSignature [letter]
  | array {element : List Char} : IsSignature element → IsSignature ('a' :: element)
  | tuple {members : List (List Char)} : (∀ member ∈ members, IsSignature member) →
      IsSignature ('(' :: (members.flatten ++ [')']))

/-- The trees made of scalars, tuples and checked arrays, with these texts admitted
as the elements of empty arrays. -/
inductive Built (admits : String → Prop) : Variant → Prop
  | bool (value : Bool) : Built admits (.bool value)
  | int32 (value : Int32) : Built admits (.int32 value)
  | int64 (value : Int64) : Built admits (.int64 value)
  | uint32 (value : UInt32) : Built admits (.uint32 value)
  | uint64 (value : UInt64) : Built admits (.uint64 value)
  | double (value : Float) : Built admits (.double value)
  | str (value : String) : Built admits (.str value)
  | tuple {items : List Variant} : (∀ item ∈ items, Built admits item) → Built admits (.tuple items)
  | array {element : String} {items : List Variant} {v : Variant} :
      (∀ item ∈ items, Built admits item) → (items = [] → admits element) →
      array? element items = .ok v → Built admits v

theorem array?_eq_ok {element : String} {items : List Variant} {v : Variant} :
    array? element items = .ok v ↔
      v = .array element items ∧ ∀ item ∈ items, item.typeString = element := by
  unfold array?
  cases hbad : items.find? (·.typeString != element) with
  | some bad =>
    have hwrong : bad.typeString ≠ element := by simpa using List.find?_some hbad
    refine ⟨nofun, fun hall => ?_⟩
    exact absurd (hall.2 bad (List.mem_of_find?_eq_some hbad)) hwrong
  | none =>
    have hall : ∀ item ∈ items, item.typeString = element := by simpa using hbad
    refine ⟨fun h => ⟨(Except.ok.inj h).symm, hall⟩, ?_⟩
    rintro ⟨rfl, -⟩
    rfl

/-! ## Signatures as characters -/

section

variable (element : String) (items : List Variant) (item : Variant)

@[simp] theorem toList_array : (array element items).typeString.toList = 'a' :: element.toList := by
  simp [typeString]

@[simp] theorem toList_tuple :
    (tuple items).typeString.toList = '(' :: ((typeStrings items).toList ++ [')']) := by
  simp [typeString]

@[simp] theorem toList_typeStrings_cons : (typeStrings (item :: items)).toList =
    item.typeString.toList ++ (typeStrings items).toList := by
  simp [typeStrings]

end

theorem toList_typeStrings (items : List Variant) :
    (typeStrings items).toList = (items.map fun item => item.typeString.toList).flatten := by
  induction items with
  | nil => rfl
  | cons item rest ih => simp [ih]

/-! ## Unique reading -/

theorem IsSignature.starts {s : List Char} (h : IsSignature s) : ∃ c rest, s = c :: rest ∧ c ≠ ')' := by
  cases h with
  | scalar hletter => exact ⟨_, [], rfl, by rintro rfl; simp at hletter⟩
  | array _ => exact ⟨'a', _, rfl, by decide⟩
  | tuple _ => exact ⟨'(', _, rfl, by decide⟩

/-- Members that can be read in one way can be read in one way in a row, up to the
parenthesis behind them. -/
theorem flatten_append_inj {ms ns : List (List Char)} {r s : List Char}
    (hms : ∀ m ∈ ms, IsSignature m ∧
      ∀ {n r s}, IsSignature n → m ++ r = n ++ s → m = n ∧ r = s)
    (hns : ∀ n ∈ ns, IsSignature n) (h : ms.flatten ++ ')' :: r = ns.flatten ++ ')' :: s) :
    ms = ns ∧ r = s := by
  induction ms generalizing ns with
  | nil =>
    cases ns with
    | nil => simpa using h
    | cons n ns =>
      obtain ⟨c, rest, rfl, hc⟩ := (hns n List.mem_cons_self).starts
      simp only [List.flatten_nil, List.nil_append, List.flatten_cons, List.cons_append,
        List.cons.injEq] at h
      exact absurd h.1.symm hc
  | cons m ms ih =>
    cases ns with
    | nil =>
      obtain ⟨c, rest, rfl, hc⟩ := (hms m List.mem_cons_self).1.starts
      simp only [List.flatten_nil, List.nil_append, List.flatten_cons, List.cons_append,
        List.cons.injEq] at h
      exact absurd h.1 hc
    | cons n ns =>
      simp only [List.flatten_cons, List.append_assoc] at h
      obtain ⟨rfl, hrest⟩ := (hms m List.mem_cons_self).2 (hns n List.mem_cons_self) h
      obtain ⟨rfl, hs⟩ := ih (fun m' hm' => hms m' (List.mem_cons_of_mem _ hm'))
        (fun n' hn' => hns n' (List.mem_cons_of_mem _ hn')) hrest
      exact ⟨rfl, hs⟩

/-- No signature is the beginning of another. -/
theorem IsSignature.append_inj {m n r s : List Char} (hm : IsSignature m) (hn : IsSignature n)
    (h : m ++ r = n ++ s) : m = n ∧ r = s := by
  induction hm generalizing n r s with
  | scalar hletter =>
    cases hn with
    | scalar _ => simpa using h
    | array _ => simp_all
    | tuple _ => simp_all
  | array _ ih =>
    cases hn with
    | scalar hletter =>
      simp only [List.cons_append, List.cons.injEq] at h
      simp [← h.1] at hletter
    | array hn =>
      simp only [List.cons_append, List.cons.injEq, true_and] at h
      obtain ⟨rfl, hs⟩ := ih hn h
      exact ⟨rfl, hs⟩
    | tuple _ => simp at h
  | tuple hmembers ih =>
    cases hn with
    | scalar hletter =>
      simp only [List.cons_append, List.cons.injEq] at h
      simp [← h.1] at hletter
    | array _ => simp at h
    | tuple hns =>
      simp only [List.cons_append, List.append_assoc, List.cons.injEq, true_and,
        List.nil_append] at h
      obtain ⟨rfl, hs⟩ := flatten_append_inj (fun m hm => ⟨hmembers m hm, ih m hm⟩) hns h
      exact ⟨rfl, hs⟩

/-- In the same place no element is the beginning of another one. -/
def Apart : List String → List String → Prop
  | e :: es, f :: fs =>
    (e.toList <+: f.toList ∨ f.toList <+: e.toList → e = f) ∧ Apart es fs
  | _, _ => True

theorem apart_self (es : List String) : Apart es es := by
  induction es with
  | nil => trivial
  | cons e es ih => exact ⟨fun _ => rfl, ih⟩

theorem apart_of_signatures {es fs : List String} (hes : ∀ e ∈ es, IsSignature e.toList)
    (hfs : ∀ f ∈ fs, IsSignature f.toList) : Apart es fs := by
  induction es generalizing fs with
  | nil => trivial
  | cons e es ih =>
    cases fs with
    | nil => trivial
    | cons f fs =>
      have he := hes e List.mem_cons_self
      have hf := hfs f List.mem_cons_self
      refine ⟨fun hprefix => String.toList_inj.mp ?_,
        ih (fun e' he' => hes e' (List.mem_cons_of_mem _ he'))
          (fun f' hf' => hfs f' (List.mem_cons_of_mem _ hf'))⟩
      rcases hprefix with ⟨r, hr⟩ | ⟨r, hr⟩
      · have hread : e.toList ++ r = f.toList ++ [] := by simpa using hr
        exact (he.append_inj hf hread).1
      · have hread : f.toList ++ r = e.toList ++ [] := by simpa using hr
        exact (hf.append_inj he hread).1.symm

/-- A signature never starts with the parenthesis that ends a tuple. -/
theorem typeString_starts (v : Variant) :
    ∃ c rest, v.typeString.toList = c :: rest ∧ c ≠ ')' := by
  cases v <;> simp [typeString]

mutual

/-- Two trees that are read from one text have one type, if no element of the one
is the beginning of the other's. -/
theorem sameType_of_append : ∀ (x y : Variant) {r s : List Char} {es fs : List String},
    x.typeString.toList ++ r = y.typeString.toList ++ s →
    Apart (x.elements ++ es) (y.elements ++ fs) →
    x.sameType y = true ∧ r = s ∧ Apart es fs
  | .array e _, y, r, s, es, fs, h, ha => by
    cases y with
    | array f _ =>
      simp only [toList_array, List.cons_append, List.cons.injEq, true_and] at h
      obtain ⟨hsame, hrest⟩ := ha
      have hprefix : e.toList <+: f.toList ∨ f.toList <+: e.toList :=
        List.prefix_or_prefix_of_prefix ⟨r, h⟩ (List.prefix_append _ _)
      obtain rfl := hsame hprefix
      exact ⟨by simp [sameType], List.append_cancel_left h, hrest⟩
    | _ => simp [typeString] at h
  | .tuple xs, y, r, s, es, fs, h, ha => by
    cases y with
    | tuple ys =>
      simp only [toList_tuple, List.cons_append, List.append_assoc, List.cons.injEq, true_and,
        List.nil_append] at h
      obtain ⟨hsame, hrest⟩ := sameTypes_of_append xs ys h ha
      exact ⟨by simpa [sameType] using hsame, hrest⟩
    | _ => simp [typeString] at h
  | .bool _, y, _, _, _, _, h, ha | .int32 _, y, _, _, _, _, h, ha
  | .int64 _, y, _, _, _, _, h, ha | .uint32 _, y, _, _, _, _, h, ha
  | .uint64 _, y, _, _, _, _, h, ha | .double _, y, _, _, _, _, h, ha
  | .str _, y, _, _, _, _, h, ha => by
    cases y <;> simp_all [typeString, sameType, elements]

theorem sameTypes_of_append : ∀ (xs ys : List Variant) {r s : List Char} {es fs : List String},
    (typeStrings xs).toList ++ ')' :: r = (typeStrings ys).toList ++ ')' :: s →
    Apart (elementsAll xs ++ es) (elementsAll ys ++ fs) →
    sameTypes xs ys = true ∧ r = s ∧ Apart es fs
  | [], [], _, _, _, _, h, ha => ⟨rfl, by simpa [typeStrings] using h, ha⟩
  | [], y :: ys, _, _, _, _, h, _ => by
    obtain ⟨c, rest, hy, hc⟩ := y.typeString_starts
    simp only [toList_typeStrings_cons, hy] at h
    exact absurd (List.cons.inj h).1.symm hc
  | x :: xs, [], _, _, _, _, h, _ => by
    obtain ⟨c, rest, hx, hc⟩ := x.typeString_starts
    simp only [toList_typeStrings_cons, hx] at h
    exact absurd (List.cons.inj h).1 hc
  | x :: xs, y :: ys, _, _, _, _, h, ha => by
    simp only [toList_typeStrings_cons, List.append_assoc] at h
    simp only [elementsAll, List.append_assoc] at ha
    obtain ⟨hfirst, hrest, ha⟩ := sameType_of_append x y h ha
    obtain ⟨hothers, hend⟩ := sameTypes_of_append xs ys hrest ha
    exact ⟨by simp [sameTypes, hfirst, hothers], hend⟩

end

mutual

theorem eq_of_sameType : ∀ (x y : Variant), x.sameType y = true →
    x.typeString = y.typeString ∧ x.elements = y.elements
  | .array e _, y, h => by
    cases y <;> simp_all [sameType, typeString, elements]
  | .tuple xs, y, h => by
    cases y with
    | tuple ys =>
      obtain ⟨htexts, helements⟩ := eq_of_sameTypes xs ys (by simpa [sameType] using h)
      exact ⟨by rw [typeString, typeString, htexts], by rw [elements, elements, helements]⟩
    | _ => simp [sameType] at h
  | .bool _, y, h | .int32 _, y, h | .int64 _, y, h | .uint32 _, y, h | .uint64 _, y, h
  | .double _, y, h | .str _, y, h => by
    cases y <;> simp_all [sameType, typeString, elements]

theorem eq_of_sameTypes : ∀ (xs ys : List Variant), sameTypes xs ys = true →
    typeStrings xs = typeStrings ys ∧ elementsAll xs = elementsAll ys
  | [], [], _ => ⟨rfl, rfl⟩
  | [], _ :: _, h => by simp [sameTypes] at h
  | _ :: _, [], h => by simp [sameTypes] at h
  | x :: xs, y :: ys, h => by
    obtain ⟨hfirst, hrest⟩ : x.sameType y = true ∧ sameTypes xs ys = true := by
      simpa [sameTypes] using h
    obtain ⟨htext, helements⟩ := eq_of_sameType x y hfirst
    obtain ⟨htexts, hothers⟩ := eq_of_sameTypes xs ys hrest
    exact ⟨by rw [typeStrings, typeStrings, htext, htexts],
      by rw [elementsAll, elementsAll, helements, hothers]⟩

end

theorem sameType_of_apart {x y : Variant} (htext : x.typeString = y.typeString)
    (hapart : Apart x.elements y.elements) : x.sameType y = true := by
  have hread : x.typeString.toList ++ [] = y.typeString.toList ++ [] := by rw [htext]
  have hends : Apart (x.elements ++ []) (y.elements ++ []) := by simpa using hapart
  exact (sameType_of_append x y hread hends).1

/-- A signature tells the type of a tree up to where the elements in it end. -/
theorem sameType_iff {x y : Variant} :
    x.sameType y = true ↔ x.typeString = y.typeString ∧ x.elements = y.elements :=
  ⟨eq_of_sameType x y, fun h => sameType_of_apart h.1 (h.2 ▸ apart_self _)⟩

/-! ## Checked trees -/

/-- Where only signatures are admitted as the elements of empty arrays, all
elements are signatures, and so is the signature of the whole. -/
theorem Built.signature {x : Variant} (h : x.Built fun e => IsSignature e.toList) :
    IsSignature x.typeString.toList ∧ ∀ e ∈ x.elements, IsSignature e.toList := by
  induction h with
  | bool | int32 | int64 | uint32 | uint64 | double | str =>
    refine ⟨?_, by simp [elements]⟩
    rw [typeString]
    exact .scalar (by decide)
  | @tuple items _ ih =>
    constructor
    · rw [toList_tuple, toList_typeStrings]
      refine .tuple fun member hmember => ?_
      obtain ⟨item, hitem, rfl⟩ := List.mem_map.mp hmember
      exact (ih item hitem).1
    · have hall : ∀ rest : List Variant, rest ⊆ items →
          ∀ e ∈ elementsAll rest, IsSignature e.toList := by
        intro rest
        induction rest with
        | nil => simp [elementsAll]
        | cons item rest ihrest =>
          intro hsub e he
          rcases List.mem_append.mp he with he | he
          · exact (ih item (hsub List.mem_cons_self)).2 e he
          · exact ihrest (List.subset_of_cons_subset hsub) e he
      exact hall items (List.Subset.refl items)
  | @array element items v _ hadmits hmade ih =>
    obtain ⟨rfl, hall⟩ := array?_eq_ok.mp hmade
    have helement : IsSignature element.toList := by
      cases items with
      | nil => exact hadmits rfl
      | cons first rest =>
        rw [← hall first List.mem_cons_self]
        exact (ih first List.mem_cons_self).1
    exact ⟨by simpa using IsSignature.array helement, by simpa [elements] using helement⟩

/-- What follows an empty array in a tuple can as well be written as a part of the
element of that array. -/
theorem tuples_confused (element : String) {members : List Variant} (hmembers : members ≠ []) :
    (tuple (array element [] :: members)).typeString =
        (tuple [array (element ++ typeStrings members) []]).typeString ∧
      (tuple (array element [] :: members)).sameType
        (tuple [array (element ++ typeStrings members) []]) = false := by
  constructor
  · simp [typeString, typeStrings, String.append_assoc]
  · cases members with
    | nil => exact absurd rfl hmembers
    | cons first rest => simp [sameType, sameTypes]

theorem built_empty {admits : String → Prop} {element : String} (h : admits element) :
    (array element []).Built admits := by
  have hmade : array? element [] = .ok (array element []) := rfl
  exact .array (by simp) (fun _ => h) hmade

end Variant

/-- The items of a checked array are of one type exactly if the arrays in their
tuples have the same elements, as they have if only signatures were admitted as the
elements of empty arrays. Since any text is admitted, every tuple in which
something follows an empty array passes for a tuple of another type. -/
theorem array_homogeneous_iff {element : String} {items : List Variant} {v : Variant}
    (h : Variant.array? element items = .ok v) :
    ((∀ x ∈ items, ∀ y ∈ items, x.sameType y = true) ↔
      ∀ x ∈ items, ∀ y ∈ items, x.elements = y.elements) ∧
    ((∀ item ∈ items, item.Built fun e => Variant.IsSignature e.toList) →
      ∀ x ∈ items, ∀ y ∈ items, x.sameType y = true) ∧
    ∀ (e : String) (members : List Variant), members ≠ [] →
      (∀ member ∈ members, member.Built fun _ => True) →
      ∃ x y, x = .tuple (.array e [] :: members) ∧ x.Built (fun _ => True) ∧
        y = .tuple [.array (e ++ Variant.typeStrings members) []] ∧ y.Built (fun _ => True) ∧
        Variant.array? x.typeString [x, y] = .ok (.array x.typeString [x, y]) ∧
        x.sameType y = false := by
  obtain ⟨-, hall⟩ := Variant.array?_eq_ok.mp h
  have htext : ∀ x ∈ items, ∀ y ∈ items, x.typeString = y.typeString :=
    fun x hx y hy => (hall x hx).trans (hall y hy).symm
  refine ⟨⟨fun hsame x hx y hy => ?_, fun helements x hx y hy => ?_⟩,
    fun hbuilt x hx y hy => ?_, fun e members hmembers hbuilt => ?_⟩
  · exact (Variant.sameType_iff.mp (hsame x hx y hy)).2
  · exact Variant.sameType_iff.mpr ⟨htext x hx y hy, helements x hx y hy⟩
  · exact Variant.sameType_of_apart (htext x hx y hy)
      (Variant.apart_of_signatures (hbuilt x hx).signature.2 (hbuilt y hy).signature.2)
  · obtain ⟨hsignature, htypes⟩ := Variant.tuples_confused e hmembers
    refine ⟨_, _, rfl, .tuple ?_, rfl, .tuple ?_, ?_, htypes⟩
    · simpa using ⟨Variant.built_empty trivial, hbuilt⟩
    · simpa using Variant.built_empty trivial
    · exact Variant.array?_eq_ok.mpr ⟨rfl, by simpa using hsignature.symm⟩

namespace Sample

/-- A tuple of an array and a text, and a tuple of one array. -/
def mixedTuples : List Variant :=
  [.tuple [.array "i" [], .str "x"], .tuple [.array "is" []]]

end Sample

/-- A checked array can hold a pair and a tuple of one. -/
theorem sample_array_homogeneous :
    Variant.array? "(ais)" Sample.mixedTuples = .ok (.array "(ais)" Sample.mixedTuples) ∧
    (∀ item ∈ Sample.mixedTuples, item.Built fun _ => True) ∧
    ¬∀ x ∈ Sample.mixedTuples, ∀ y ∈ Sample.mixedTuples, x.sameType y = true := by
  have hmade : Variant.array? "(ais)" Sample.mixedTuples = .ok (.array "(ais)" Sample.mixedTuples) :=
    rfl
  have hempty : ∀ e, (Variant.array e []).Built fun _ => True := fun e => Variant.built_empty trivial
  refine ⟨hmade, ?_, fun hsame => ?_⟩
  · simp only [Sample.mixedTuples, List.forall_mem_cons]
    refine ⟨.tuple ?_, .tuple ?_, by simp⟩
    · simpa using ⟨hempty "i", .str "x"⟩
    · simpa using hempty "is"
  · have helements := (array_homogeneous_iff hmade).1.mp hsame
    have hfirst := helements (.tuple [.array "i" [], .str "x"]) (by simp [Sample.mixedTuples])
      (.tuple [.array "is" []]) (by simp [Sample.mixedTuples])
    exact absurd hfirst (by decide)

end NativeBridge
