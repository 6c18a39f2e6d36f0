-- Updates of an argument vector. An update takes over what native code left if
-- the count and the pointers make sense together, and otherwise undoes all of
-- it. Either way the array, the count and what remains agree again, after any
-- number of rounds, and the checks never read outside of the array.
import Mathlib.Algebra.Group.Nat.Defs
import Mathlib.Data.List.Nodup
import NativeBridge.Proofs.ArgumentRuns

namespace NativeBridge

namespace ArgVector

variable {texts : List String} {v : ArgVector} {x : Visit} {kept : List Nat}

/-! ## What native code left -/

/-- The front of the array that the count speaks of. -/
def claimed (v : ArgVector) : List ArgPointer := v.slots.take v.argc.toInt.toNat

/-- The count fits what remained, and the pointers that it speaks of lead to
strings of the copy, no two to the same. -/
structure Consistent (v : ArgVector) : Prop where
  nonneg : 0 ≤ v.argc.toInt
  fits : v.argc.toInt ≤ v.count
  distinct : v.claimed.Nodup
  own : ∀ pointer ∈ v.claimed, ∃ index < v.strings.length, pointer = .own index

theorem own_injective : Function.Injective ArgPointer.own := fun _ _ h => ArgPointer.own.inj h

/-- Pointers to strings of the copy are the pointers to some of its numbers. -/
theorem exists_kept {total : Nat} {pointers : List ArgPointer}
    (hown : ∀ pointer ∈ pointers, ∃ index < total, pointer = .own index) :
    ∃ kept : List Nat, pointers = kept.map .own := by
  induction pointers with
  | nil => exact ⟨[], rfl⟩
  | cons pointer rest ih =>
    obtain ⟨index, -, rfl⟩ := hown pointer List.mem_cons_self
    obtain ⟨kept, rfl⟩ := ih fun other h => hown other (List.mem_cons_of_mem _ h)
    exact ⟨index :: kept, rfl⟩

theorem collect_error {total position : Nat} {seen : List Nat} {pointers : List ArgPointer}
    {e : NativeError} (h : collect total seen position pointers = .error e) :
    ∃ reason, e = .argvCorrupted reason := by
  induction pointers generalizing seen position with
  | nil => simp [collect] at h
  | cons pointer rest ih =>
    cases pointer with
    | null => exact ⟨_, (Except.error.inj h).symm⟩
    | foreign text => exact ⟨_, (Except.error.inj h).symm⟩
    | own index =>
      unfold collect at h
      dsimp only at h
      split at h
      · exact ⟨_, (Except.error.inj h).symm⟩
      · split at h
        · exact ⟨_, (Except.error.inj h).symm⟩
        · cases hrest : collect total (index :: seen) (position + 1) rest with
          | ok kept => simp [hrest, Except.map] at h
          | error e' =>
            rw [hrest] at h
            obtain rfl := Except.error.inj h
            exact ih hrest

theorem update_error {e : NativeError} (h : v.update.1 = .error e) :
    ∃ reason, e = .argvCorrupted reason := by
  have hrefused : v.validate = .error e := by
    unfold update at h
    split at h
    · exact nomatch h
    · rename_i e' hresult
      exact hresult.trans (congrArg Except.error (Except.error.inj h))
  unfold validate at hrefused
  dsimp only at hrefused
  split at hrefused
  · exact ⟨_, (Except.error.inj hrefused).symm⟩
  · split at hrefused
    · exact ⟨_, (Except.error.inj hrefused).symm⟩
    · exact collect_error hrefused

theorem length_slots_left (hv : v.Standing texts) (x : Visit) :
    (v.left x).slots.length = v.count + 1 := by
  simp only [left, List.length_mapIdx]
  exact hv.length

/-- Native code hands back some strings exactly if it left all in order and the
count speaks of pointers to these. -/
theorem handsBack_iff (hv : v.Standing texts) :
    x.HandsBack v kept ↔ (v.left x).Consistent ∧ (v.left x).claimed = kept.map .own := by
  have hargc : (v.left x).argc = x.argc := rfl
  have hcount : (v.left x).count = v.count := rfl
  have hroom : v.count ≤ v.slots.length := hv.length ▸ Nat.le_succ _
  constructor
  · intro h
    have hlength : x.argc.toInt.toNat = kept.length := by rw [h.count, Int.toNat_natCast]
    have hclaimed : (v.left x).claimed = kept.map .own := by
      rw [claimed, hargc, hlength, left_slots_take (Nat.le_trans h.fits hroom), h.pointers]
    refine ⟨⟨?_, ?_, ?_, ?_⟩, hclaimed⟩
    · rw [hargc, h.count]
      exact Int.natCast_nonneg _
    · rw [hargc, hcount, h.count]
      exact Int.ofNat_le.mpr h.fits
    · rw [hclaimed]
      exact h.nodup.map own_injective
    · intro pointer hpointer
      obtain ⟨index, hindex, rfl⟩ := List.mem_map.mp (hclaimed ▸ hpointer)
      exact ⟨index, h.own index hindex, rfl⟩
  · rintro ⟨⟨hnonneg, hfits, hdistinct, hown⟩, hclaimed⟩
    rw [hargc] at hnonneg hfits
    rw [hcount] at hfits
    have hlength : x.argc.toInt.toNat = kept.length := by
      have hsame := congrArg List.length hclaimed
      rw [claimed, hargc, List.length_take, length_slots_left hv, List.length_map] at hsame
      omega
    have hkept : kept.length ≤ v.count := by omega
    refine ⟨by omega, hkept, ?_, ?_, fun index hindex => ?_⟩
    · rw [← hclaimed, claimed, hargc, hlength, left_slots_take (Nat.le_trans hkept hroom)]
    · exact List.Nodup.of_map ArgPointer.own (hclaimed ▸ hdistinct)
    · obtain ⟨other, hother, heq⟩ := hown (.own index) (by simpa [hclaimed] using hindex)
      exact own_injective heq ▸ hother

theorem served_of_consistent (hv : v.Standing texts) (h : (v.left x).Consistent) :
    ∃ kept, (v.left x).claimed = kept.map .own ∧
      v.served x = (.ok (), (v.left x).rebuild kept) := by
  obtain ⟨kept, hclaimed⟩ := exists_kept h.own
  exact ⟨kept, hclaimed, served_of_handsBack hv ((handsBack_iff hv).mpr ⟨h, hclaimed⟩)⟩

theorem served_of_inconsistent (hv : v.Standing texts) (h : ¬(v.left x).Consistent) :
    ∃ reason, v.served x = (.error (.argvCorrupted reason), (v.left x).rebuild v.remaining) := by
  rcases served_cases hv x with ⟨kept, hback, -⟩ | ⟨-, e, hserved⟩
  · exact absurd ((handsBack_iff hv).mp hback).1 h
  · obtain ⟨reason, rfl⟩ := update_error (v := v.left x) (congrArg Prod.fst hserved)
    exact ⟨reason, hserved⟩

theorem served_isOk_iff (hv : v.Standing texts) :
    (v.served x).1 = .ok () ↔ (v.left x).Consistent := by
  by_cases h : (v.left x).Consistent
  · obtain ⟨kept, -, hserved⟩ := served_of_consistent hv h
    simp [hserved, h]
  · obtain ⟨reason, hserved⟩ := served_of_inconsistent hv h
    simp [hserved, h]

/-! ## Reading within bounds -/

/-- The first entries of a list, if it has as many. -/
def slice? {α : Type} (entries : List α) (n : Nat) : Option (List α) :=
  if n ≤ entries.length then some (entries.take n) else none

/-- `collect` with a mark for each string of the copy in place of the numbers
seen. A number without a mark gives nothing. -/
def collectMarked? (marks : List Bool) (position : Nat) :
    List ArgPointer → Option (Except NativeError (List Nat))
  | [] => some (.ok [])
  | pointer :: rest =>
    match (List.range marks.length).find? (pointer == .own ·) with
    | none => some (.error (.argvCorrupted s!"foreign pointer at position {position}"))
    | some index =>
      match marks[index]? with
      | none => none
      | some true => some (.error (.argvCorrupted s!"duplicate pointer at position {position}"))
      | some false =>
        (collectMarked? (marks.set index true) (position + 1) rest).map (·.map (index :: ·))

/-- `validate` with each index checked: it gives nothing if one lies outside of
the array or of the marks. -/
def validateChecked? (v : ArgVector) : Option (Except NativeError (List Nat)) :=
  let argc := v.argc.toInt
  if argc < 0 then some (.error (.argvCorrupted s!"negative count {argc}"))
  else if v.count < argc.toNat then
    some (.error (.argvCorrupted s!"count grew from {v.count} to {argc.toNat}"))
  else (slice? v.slots argc.toNat).bind (collectMarked? (.replicate v.strings.length false) 0)

theorem find?_own (total : Nat) (pointer : ArgPointer) :
    (List.range total).find? (pointer == .own ·) =
      match pointer with
      | .own index => if index < total then some index else none
      | _ => none := by
  cases pointer with
  | null => simp
  | foreign text => simp
  | own index =>
    dsimp only
    split
    · rename_i hlt
      refine List.find?_range_eq_some.mpr ⟨by simp, List.mem_range.mpr hlt, fun other hother => ?_⟩
      have hne : index ≠ other := by omega
      simpa using hne
    · rename_i hlt
      refine List.find?_range_eq_none.mpr fun other hother => ?_
      have hne : index ≠ other := by omega
      simpa using hne

theorem collectMarked?_eq {marks : List Bool} {seen : List Nat} {position : Nat}
    (hmarks : ∀ index < marks.length, (marks[index]? = some true ↔ index ∈ seen))
    (pointers : List ArgPointer) :
    collectMarked? marks position pointers =
      some (collect marks.length seen position pointers) := by
  induction pointers generalizing marks seen position with
  | nil => rfl
  | cons pointer rest ih =>
    rw [collectMarked?, find?_own]
    cases pointer with
    | null => rfl
    | foreign text => rfl
    | own index =>
      rw [collect]
      dsimp only
      by_cases hlt : index < marks.length
      · rw [if_pos hlt, if_neg (Nat.not_le.mpr hlt)]
        have hmark := hmarks index hlt
        rw [List.getElem?_eq_getElem hlt, Option.some_inj] at hmark
        cases hseen : marks[index] with
        | true =>
          rw [if_pos (hmark.mp hseen)]
          simp [List.getElem?_eq_getElem hlt, hseen]
        | false =>
          have hfresh : index ∉ seen := fun hmem => by simp [hmark.mpr hmem] at hseen
          have hnext : ∀ other < (marks.set index true).length,
              ((marks.set index true)[other]? = some true ↔ other ∈ index :: seen) := by
            intro other hother
            rw [List.length_set] at hother
            rw [List.getElem?_set, List.mem_cons]
            by_cases hsame : index = other
            · simp [hsame, hother]
            · rw [if_neg hsame, hmarks other hother]
              simp [Ne.symm hsame]
          rw [if_neg hfresh]
          simp [List.getElem?_eq_getElem hlt, hseen, ih hnext]
      · rw [if_neg hlt, if_pos (Nat.not_lt.mp hlt)]

/-- The checks stay inside of an array that has a slot for each argument. -/
theorem validateChecked?_eq (hroom : v.count < v.slots.length) :
    v.validateChecked? = some v.validate := by
  unfold validateChecked? validate
  dsimp only
  split
  · rfl
  · split
    · rfl
    · rename_i hgrew
      have hslice : slice? v.slots v.argc.toInt.toNat =
          some (v.slots.take v.argc.toInt.toNat) := if_pos (by omega)
      have hmarks : ∀ index < (List.replicate v.strings.length false).length,
          ((List.replicate v.strings.length false)[index]? = some true ↔ index ∈ []) := by
        intro index hindex
        rw [List.length_replicate] at hindex
        simp [hindex]
      rw [hslice, Option.bind_some, collectMarked?_eq hmarks, List.length_replicate]

/-! ## Between native calls -/

/-- What native code is given: a pointer to each argument in order, one null
pointer behind them, and their number. -/
structure Shown (v : ArgVector) : Prop where
  array : v.slots = v.remaining.map .own ++ [.null]
  own : ∀ index ∈ v.remaining, index < v.strings.length
  texts : v.slots.map v.deref? = v.arguments.map some ++ [none]
  length : v.slots.length = v.count + 1
  argc : v.argc.toInt = v.count

theorem shown_rebuild (v : ArgVector) (hown : ∀ index ∈ kept, index < v.strings.length)
    (hfew : kept.length < 2 ^ 31) : (v.rebuild kept).Shown where
  array := rfl
  own := hown
  texts := by
    simp only [rebuild, pointers, arguments, List.map_append, List.map_map]
    rfl
  length := length_pointers kept
  argc := Int32.toInt_ofNat_of_lt hfew

theorem Standing.few (hv : v.Standing texts) (hfew : texts.length < 2 ^ 31) :
    v.remaining.length < 2 ^ 31 := by
  have hpart : v.remaining.Subperm (List.range texts.length) :=
    hv.nodup.subperm fun index hmem => List.mem_range.mpr (hv.own index hmem)
  have hle := hpart.length_le
  rw [List.length_range] at hle
  omega

theorem Shown.served (hv : v.Standing texts) (hfew : texts.length < 2 ^ 31) (x : Visit) :
    (v.served x).2.Shown := by
  have hnext := (hv.served x).few hfew
  rcases served_cases hv x with ⟨kept, hback, hserved⟩ | ⟨-, e, hserved⟩
  · rw [hserved] at hnext ⊢
    exact shown_rebuild _ hback.own hnext
  · rw [hserved] at hnext ⊢
    exact shown_rebuild _ (hv.strings ▸ hv.own) hnext

theorem shown_servedAll (hv : v.Standing texts) (hfew : texts.length < 2 ^ 31) (hshown : v.Shown)
    (visits : List Visit) : (v.servedAll visits).Shown := by
  induction visits generalizing v with
  | nil => exact hshown
  | cons x rest ih => exact ih (hv.served x) (.served hv hfew x)

theorem shown_ofList {program : String} {args : List String} (h : ofList program args = .ok v)
    (hfew : args.length + 1 < 2 ^ 31) : v.Shown := by
  unfold ofList at h
  dsimp only at h
  cases hbroken : firstBroken? (program :: args) with
  | some index =>
    rw [hbroken] at h
    exact nomatch h
  | none =>
    rw [hbroken] at h
    cases h
    exact shown_rebuild _ (fun index => List.mem_range.mp) (by simpa using hfew)

/-! ## Updates -/

/-- What the update after a visit does. -/
structure UpdatesExactly (v : ArgVector) (x : Visit) : Prop where
  /-- It succeeds exactly if the count and its pointers make sense together. -/
  accepts : (v.served x).1 = .ok () ↔ (v.left x).Consistent
  /-- Then those strings remain, in the order of the slots. -/
  takes : (v.left x).Consistent →
    (v.served x).2.remaining.map .own = (v.left x).claimed ∧
      (v.served x).2.arguments.map some = (v.left x).claimed.map (v.left x).deref?
  /-- Otherwise it says that the vector is corrupted, and puts everything back. -/
  undoes : ¬(v.left x).Consistent →
    (∃ reason, (v.served x).1 = .error (.argvCorrupted reason)) ∧
      (v.served x).2.remaining = v.remaining ∧ (v.served x).2.arguments = v.arguments ∧
      (v.served x).2.count = v.count ∧ (v.served x).2.slots = v.slots ∧
      (v.served x).2.argc = v.argc
  /-- Either way the next native call is given what remains. -/
  shows : (v.served x).2.Shown
  /-- Its checks read no slot outside of the array. -/
  bounded : (v.left x).validateChecked? = some (v.left x).validate

theorem updatesExactly (hv : v.Standing texts) (hfew : texts.length < 2 ^ 31) (hshown : v.Shown)
    (x : Visit) : v.UpdatesExactly x := by
  have hnext := Shown.served hv hfew x
  refine ⟨served_isOk_iff hv, fun hleft => ?_, fun hleft => ?_, hnext, ?_⟩
  · obtain ⟨kept, hclaimed, hserved⟩ := served_of_consistent hv hleft
    rw [hserved, hclaimed]
    refine ⟨rfl, ?_⟩
    simp only [arguments, rebuild, List.map_map]
    rfl
  · obtain ⟨reason, hserved⟩ := served_of_inconsistent hv hleft
    rw [hserved] at hnext ⊢
    refine ⟨⟨reason, rfl⟩, rfl, rfl, rfl, hnext.array.trans hshown.array.symm, ?_⟩
    exact Int32.toInt_inj.mp (hnext.argc.trans hshown.argc.symm)
  · refine validateChecked?_eq ?_
    rw [length_slots_left hv]
    exact Nat.lt_succ_self _

/-- Whatever native code leaves in the count and the slots, over any number of
rounds: each native call is given the array of what remains, an update takes
over exactly what makes sense and undoes everything else, and its checks stay
inside of the array. -/
theorem argument_updates {program : String} {args : List String} (h : ofList program args = .ok v)
    (hfew : args.length + 1 < 2 ^ 31) (visits : List Visit) :
    (v.servedAll visits).Shown ∧
    (∀ x, (v.servedAll visits).UpdatesExactly x) ∧
    -- edits of the count and the slots are such visits
    ∀ edits : List Edit, (v.servedAll visits).left ((v.servedAll visits).editing edits) =
      edits.foldl edit (v.servedAll visits) := by
  obtain ⟨hv, -⟩ := standing_ofList h
  have hshown := shown_servedAll hv hfew (shown_ofList h hfew) visits
  exact ⟨hshown, fun x => updatesExactly (hv.servedAll visits) hfew hshown x,
    fun edits => left_editing _ edits⟩

end ArgVector

namespace Sample

/-- Three arguments. -/
def shortArgv : ArgVector := ArgVector.rebuild ⟨["app", "a", "b"], [], 0, []⟩ [0, 1, 2]

/-- Native code puts the last argument before the second and drops the program name. -/
def reversing : Visit := ⟨2, fun slot => if slot = 0 then .own 2 else .own 1⟩

/-- Native code repeats an argument. -/
def repeating : Visit := ⟨2, fun _ => .own 1⟩

/-- Native code asks for more than there was. -/
def growing : Visit := ⟨3, fun slot => .own slot⟩

end Sample

/-- Two of three arguments are taken over in their new order. A repeated pointer
and a larger count are refused after that, and change nothing. -/
theorem sample_argument_updates :
    ArgVector.ofList "app" ["a", "b"] = .ok Sample.shortArgv ∧
    (Sample.shortArgv.servedAll [Sample.reversing]).arguments = ["b", "a"] ∧
    (Sample.shortArgv.servedAll [Sample.reversing]).UpdatesExactly Sample.repeating ∧
    ¬((Sample.shortArgv.servedAll [Sample.reversing]).left Sample.repeating).Consistent ∧
    ¬((Sample.shortArgv.servedAll [Sample.reversing]).left Sample.growing).Consistent ∧
    (Sample.shortArgv.servedAll
      [Sample.reversing, Sample.repeating, Sample.growing]).arguments = ["b", "a"] := by
  have hmade : ArgVector.ofList "app" ["a", "b"] = .ok Sample.shortArgv := by decide +kernel
  have hround := ArgVector.argument_updates hmade (by decide) [Sample.reversing]
  refine ⟨hmade, by decide +kernel, hround.2.1 _, fun hleft => ?_, fun hleft => ?_, by decide +kernel⟩
  · exact absurd hleft.distinct (by decide +kernel)
  · exact absurd hleft.fits (by decide +kernel)

end NativeBridge
