-- Runs of native code over an argument vector. Whatever native code leaves in
-- the count and the array, what remains are strings of the copy, no two the
-- same. A removed one stays away exactly as long as native code hands back
-- no pointer to it.
import Mathlib.Data.List.Perm.Subperm
import NativeBridge.ArgVector

namespace NativeBridge

/-- What native code does between two updates: it sets the count and every
slot of the array as it likes. -/
structure Visit where
  argc : Int32
  slots : Nat → ArgPointer

namespace ArgVector

/-- The copy as native code left it. -/
def left (v : ArgVector) (x : Visit) : ArgVector :=
  { v with argc := x.argc, slots := v.slots.mapIdx fun place _ => x.slots place }

/-- Native code runs, and the copy takes over what it did. -/
def served (v : ArgVector) (x : Visit) : Except NativeError Unit × ArgVector := (v.left x).update

/-- The copy after some visits. -/
def servedAll (v : ArgVector) (visits : List Visit) : ArgVector :=
  visits.foldl (fun v x => (v.served x).2) v

theorem servedAll_append (v : ArgVector) (before after : List Visit) :
    v.servedAll (before ++ after) = (v.servedAll before).servedAll after :=
  List.foldl_append

theorem servedAll_snoc (v : ArgVector) (before : List Visit) (x : Visit) :
    v.servedAll (before ++ [x]) = ((v.servedAll before).served x).2 :=
  v.servedAll_append before [x]

/-! ## Edits -/

theorem length_closed {kept slots : List ArgPointer} (h : kept.length ≤ slots.length) :
    (closed kept slots).length = slots.length := by
  unfold closed
  split
  · rename_i hend
    exact Nat.le_antisymm h (List.drop_eq_nil_iff.mp hend)
  · rename_i first rest hend
    have hend := congrArg List.length hend
    simp only [List.length_drop, List.length_cons] at hend
    simp only [List.length_append, List.length_cons]
    omega

theorem mem_closed {kept slots : List ArgPointer} {pointer : ArgPointer}
    (h : pointer ∈ closed kept slots) : pointer ∈ kept ∨ pointer = .null ∨ pointer ∈ slots := by
  unfold closed at h
  split at h
  · exact .inl h
  · rename_i first rest hend
    rcases List.mem_append.mp h with h | h
    · exact .inl h
    · rcases List.mem_cons.mp h with h | h
      · exact .inr (.inl h)
      · exact .inr (.inr (List.mem_of_mem_drop (hend ▸ List.mem_cons_of_mem first h)))

theorem unlike_subset (v : ArgVector) (flag : String) : v.unlike flag ⊆ v.slots :=
  fun _ h => (List.takeWhile_prefix _).subset (List.mem_filter.mp h).1

theorem length_unlike_le (v : ArgVector) (flag : String) :
    (v.unlike flag).length ≤ v.slots.length :=
  Nat.le_trans (List.length_filter_le _ _) (List.takeWhile_prefix _).length_le

theorem own_mem_setSlot {v : ArgVector} {slot index : Nat} {pointer : ArgPointer}
    (hpointer : pointer = .own index → .own index ∈ v.slots)
    (h : .own index ∈ (v.setSlot slot pointer).slots) : .own index ∈ v.slots :=
  (List.mem_or_eq_of_mem_set h).elim id fun h => hpointer h.symm

theorem own_mem_of_slotAt {v : ArgVector} {slot index : Nat} (h : v.slotAt slot = .own index) :
    .own index ∈ v.slots := by
  unfold slotAt at h
  cases hslot : v.slots[slot]? with
  | none =>
    rw [hslot] at h
    exact nomatch h
  | some pointer =>
    rw [hslot] at h
    exact h ▸ List.mem_of_getElem? hslot

/-- What edits leave alone. They reach only the count and the array, which
keeps its length, and they make no pointer to a string of the copy. -/
structure Frame (v w : ArgVector) : Prop where
  strings : w.strings = v.strings
  remaining : w.remaining = v.remaining
  length : w.slots.length = v.slots.length
  own : ∀ index, .own index ∈ w.slots → .own index ∈ v.slots

theorem Frame.refl (v : ArgVector) : v.Frame v := ⟨rfl, rfl, rfl, fun _ => id⟩

theorem Frame.trans {u v w : ArgVector} (h : u.Frame v) (h' : v.Frame w) : u.Frame w where
  strings := h'.strings.trans h.strings
  remaining := h'.remaining.trans h.remaining
  length := h'.length.trans h.length
  own index hmem := h.own index (h'.own index hmem)

theorem frame_setSlot {v : ArgVector} {slot : Nat} {pointer : ArgPointer}
    (h : ∀ index, pointer = .own index → .own index ∈ v.slots) : v.Frame (v.setSlot slot pointer) :=
  ⟨rfl, rfl, List.length_set, fun index => own_mem_setSlot (h index)⟩

theorem frame_edit (v : ArgVector) (e : Edit) : v.Frame (v.edit e) := by
  unfold edit
  split
  · cases e with
    | copy source target => exact frame_setSlot fun _ => own_mem_of_slotAt
    | swap a b =>
      -- the second write puts back what stood in the array before the first
      refine ⟨rfl, rfl, List.length_set.trans List.length_set, fun index h => ?_⟩
      rcases List.mem_or_eq_of_mem_set h with h | h
      · exact own_mem_setSlot own_mem_of_slotAt h
      · exact own_mem_of_slotAt h.symm
    | clear slot => exact frame_setSlot fun _ h => nomatch h
    | point slot text => exact frame_setSlot fun _ h => nomatch h
    | setCount value => exact ⟨rfl, rfl, rfl, fun _ => id⟩
    | strip flag =>
      refine ⟨rfl, rfl, length_closed (v.length_unlike_le flag), fun index h => ?_⟩
      rcases mem_closed h with h | h | h
      · exact v.unlike_subset flag h
      · exact nomatch h
      · exact h
  · exact .refl v

theorem frame_edits (v : ArgVector) (edits : List Edit) : v.Frame (edits.foldl edit v) := by
  induction edits generalizing v with
  | nil => exact .refl v
  | cons e rest ih => exact (v.frame_edit e).trans (ih (v.edit e))

/-- The visit that makes some edits. -/
def editing (v : ArgVector) (edits : List Edit) : Visit where
  argc := (edits.foldl edit v).argc
  slots place := (edits.foldl edit v).slotAt place

theorem left_editing (v : ArgVector) (edits : List Edit) :
    v.left (v.editing edits) = edits.foldl edit v := by
  have hframe := v.frame_edits edits
  have hslots : (v.slots.mapIdx fun place _ => (v.editing edits).slots place) =
      (edits.foldl edit v).slots := by
    refine List.ext_getElem (by rw [List.length_mapIdx, hframe.length]) fun place _ h => ?_
    rw [List.getElem_mapIdx]
    change ((edits.foldl edit v).slots[place]?).getD .null = _
    rw [List.getElem?_eq_getElem h]
    rfl
  unfold left
  rw [hslots, ← hframe.strings, ← hframe.remaining]
  rfl

/-! ## What an update accepts -/

theorem collect_own_eq_ok {total index position : Nat} {seen kept : List Nat}
    {pointers : List ArgPointer} :
    collect total seen position (.own index :: pointers) = .ok kept ↔
      index < total ∧ index ∉ seen ∧ ∃ rest, kept = index :: rest ∧
        collect total (index :: seen) (position + 1) pointers = .ok rest := by
  rw [collect]
  by_cases hown : total ≤ index
  · simp [hown, Nat.not_lt.mpr hown]
  · rw [if_neg hown]
    by_cases hseen : index ∈ seen
    · simp [hseen]
    · rw [if_neg hseen]
      cases hrest : collect total (index :: seen) (position + 1) pointers with
      | error e => simp [Except.map]
      | ok rest => simp [Except.map, hseen, Nat.not_le.mp hown, eq_comm]

/-- Only distinct strings of the copy pass, and they pass in their order. -/
theorem collect_eq_ok {total position : Nat} {seen kept : List Nat} {pointers : List ArgPointer} :
    collect total seen position pointers = .ok kept ↔
      pointers = kept.map .own ∧ kept.Nodup ∧ ∀ index ∈ kept, index < total ∧ index ∉ seen := by
  induction pointers generalizing seen position kept with
  | nil => cases kept <;> simp [collect]
  | cons pointer pointers ih =>
    cases pointer with
    | null => cases kept <;> simp [collect]
    | foreign text => cases kept <;> simp [collect]
    | own index =>
      rw [collect_own_eq_ok]
      constructor
      · rintro ⟨hown, hseen, rest, rfl, hrest⟩
        obtain ⟨rfl, hnodup, hrest⟩ := ih.mp hrest
        refine ⟨rfl, List.nodup_cons.mpr ⟨fun hmem => ?_, hnodup⟩, ?_⟩
        · exact (hrest index hmem).2 List.mem_cons_self
        · intro other hother
          rcases List.mem_cons.mp hother with rfl | hother
          · exact ⟨hown, hseen⟩
          · exact ⟨(hrest other hother).1, fun h => (hrest other hother).2 (List.mem_cons_of_mem _ h)⟩
      · rintro ⟨hpointers, hnodup, hkept⟩
        obtain ⟨first, rest, rfl, hfirst, rfl⟩ := List.map_eq_cons_iff.mp hpointers.symm
        cases hfirst
        obtain ⟨hfresh, hnodup⟩ := List.nodup_cons.mp hnodup
        obtain ⟨hown, hseen⟩ := hkept index List.mem_cons_self
        refine ⟨hown, hseen, rest, rfl, ih.mpr ⟨rfl, hnodup, fun other hother => ?_⟩⟩
        obtain ⟨hown, hseen⟩ := hkept other (List.mem_cons_of_mem _ hother)
        refine ⟨hown, fun hmem => ?_⟩
        rcases List.mem_cons.mp hmem with rfl | hmem
        · exact hfresh hother
        · exact hseen hmem

end ArgVector

/-- Native code leaves a count that fits, and as many pointers, to these
strings of the copy, no two the same. -/
structure Visit.HandsBack (x : Visit) (v : ArgVector) (kept : List Nat) : Prop where
  count : x.argc.toInt = kept.length
  fits : kept.length ≤ v.count
  pointers : (List.range kept.length).map x.slots = kept.map .own
  nodup : kept.Nodup
  own : ∀ index ∈ kept, index < v.strings.length

namespace ArgVector

/-- What holds of a copy of these strings whenever native code does not have
it: the array shows what remains. -/
structure Standing (texts : List String) (v : ArgVector) : Prop where
  strings : v.strings = texts
  own : ∀ index ∈ v.remaining, index < texts.length
  nodup : v.remaining.Nodup
  array : v.slots = pointers v.remaining

variable {texts : List String} {v : ArgVector} {x : Visit} {kept : List Nat}

theorem length_pointers (remaining : List Nat) :
    (pointers remaining).length = remaining.length + 1 := by
  simp [pointers]

theorem own_mem_pointers {remaining : List Nat} {index : Nat} :
    .own index ∈ pointers remaining ↔ index ∈ remaining := by
  simp [pointers]

theorem Standing.length (hv : v.Standing texts) : v.slots.length = v.count + 1 := by
  rw [hv.array, length_pointers]
  rfl

/-- The front of the array as native code left it. -/
theorem left_slots_take {n : Nat} (h : n ≤ v.slots.length) :
    (v.left x).slots.take n = (List.range n).map x.slots := by
  refine List.ext_getElem ?_ fun place h₁ h₂ => ?_
  · simp only [left, List.length_take, List.length_mapIdx, List.length_map, List.length_range]
    omega
  · simp [left]

theorem validate_left (hv : v.Standing texts) :
    (v.left x).validate = .ok kept ↔ x.HandsBack v kept := by
  have hroom := hv.length
  unfold validate
  dsimp only
  change (if x.argc.toInt < 0 then _ else if v.count < x.argc.toInt.toNat then _ else
    collect v.strings.length [] 0 ((v.left x).slots.take x.argc.toInt.toNat)) = _ ↔ _
  constructor
  · intro h
    by_cases hneg : x.argc.toInt < 0
    · rw [if_pos hneg] at h
      exact nomatch h
    rw [if_neg hneg] at h
    by_cases hgrew : v.count < x.argc.toInt.toNat
    · rw [if_pos hgrew] at h
      exact nomatch h
    rw [if_neg hgrew, left_slots_take (by omega), collect_eq_ok] at h
    obtain ⟨hpointers, hnodup, hown⟩ := h
    have hlength : x.argc.toInt.toNat = kept.length := by
      simpa using congrArg List.length hpointers
    rw [hlength] at hpointers hgrew
    exact ⟨by omega, Nat.not_lt.mp hgrew, hpointers, hnodup, fun index h => (hown index h).1⟩
  · intro h
    have hcount := h.count
    have hfits := h.fits
    have hlength : x.argc.toInt.toNat = kept.length := by omega
    rw [if_neg (by omega), hlength, if_neg (by omega), left_slots_take (by omega), collect_eq_ok]
    exact ⟨h.pointers, h.nodup, fun index hmem => ⟨h.own index hmem, List.not_mem_nil⟩⟩

/-! ## What a visit does -/

/-- Either native code hands back strings of the copy, and these remain, or
what remained before does. -/
theorem served_cases (hv : v.Standing texts) (x : Visit) :
    (∃ kept, x.HandsBack v kept ∧ v.served x = (.ok (), (v.left x).rebuild kept)) ∨
    ((∀ kept, ¬x.HandsBack v kept) ∧
      ∃ e, v.served x = (.error e, (v.left x).rebuild v.remaining)) := by
  unfold served update
  cases hresult : (v.left x).validate with
  | ok kept => exact .inl ⟨kept, (validate_left hv).mp hresult, rfl⟩
  | error e =>
    refine .inr ⟨fun kept h => ?_, e, rfl⟩
    exact nomatch ((validate_left hv).mpr h).symm.trans hresult

theorem served_of_handsBack (hv : v.Standing texts) (h : x.HandsBack v kept) :
    v.served x = (.ok (), (v.left x).rebuild kept) := by
  unfold served update
  rw [(validate_left hv).mpr h]

theorem Standing.rebuild (hv : v.Standing texts) (x : Visit)
    (hown : ∀ index ∈ kept, index < texts.length) (hnodup : kept.Nodup) :
    ((v.left x).rebuild kept).Standing texts :=
  ⟨hv.strings, hown, hnodup, rfl⟩

theorem Standing.served (hv : v.Standing texts) (x : Visit) :
    (v.served x).2.Standing texts := by
  rcases served_cases hv x with ⟨kept, hback, hserved⟩ | ⟨-, e, hserved⟩
  · rw [hserved]
    exact hv.rebuild x (hv.strings ▸ hback.own) hback.nodup
  · rw [hserved]
    exact hv.rebuild x hv.own hv.nodup

theorem Standing.servedAll (hv : v.Standing texts) (visits : List Visit) :
    (v.servedAll visits).Standing texts := by
  induction visits generalizing v with
  | nil => exact hv
  | cons x rest ih => exact ih (hv.served x)

theorem standing_ofList {program : String} {args : List String}
    (h : ofList program args = .ok v) :
    v.Standing (program :: args) ∧ v.remaining = List.range (args.length + 1) := by
  unfold ofList at h
  dsimp only at h
  cases hbroken : firstBroken? (program :: args) with
  | some index =>
    rw [hbroken] at h
    exact nomatch h
  | none =>
    rw [hbroken] at h
    cases h
    exact ⟨⟨rfl, fun index => List.mem_range.mp, List.nodup_range, rfl⟩, rfl⟩

/-! ## Removal over a run -/

/-- Each time that an update takes over what a visit left, it left pointers
only to arguments that remained. -/
def HandsBackRemaining (v : ArgVector) (visits : List Visit) : Prop :=
  ∀ before x after kept, visits = before ++ x :: after → x.HandsBack (v.servedAll before) kept →
    kept ⊆ (v.servedAll before).remaining

/-- Native code only removes or reorders. -/
structure OnlyRemoves (v : ArgVector) (visits : List Visit) : Prop where
  /-- What an update leaves is a rearrangement of a part of what remained. -/
  step : ∀ before x after, visits = before ++ x :: after →
    ((v.servedAll before).served x).1 = .ok () →
    ((v.servedAll before).served x).2.remaining.Subperm (v.servedAll before).remaining
  /-- A removed argument never comes back. -/
  gone : ∀ before between after, visits = before ++ between ++ after → ∀ index,
    index ∉ (v.servedAll before).remaining → index ∉ (v.servedAll (before ++ between)).remaining
  /-- No argument occurs more often than before. -/
  occurrences : ∀ before between after, visits = before ++ between ++ after → ∀ text,
    (v.servedAll (before ++ between)).arguments.count text ≤
      (v.servedAll before).arguments.count text

theorem HandsBackRemaining.part {before between after : List Visit}
    (h : v.HandsBackRemaining (before ++ between ++ after)) :
    (v.servedAll before).HandsBackRemaining between := by
  intro first x rest kept hsplit hback
  rw [← servedAll_append] at hback ⊢
  refine h (before ++ first) x (rest ++ after) kept ?_ hback
  rw [hsplit]
  simp only [List.append_assoc, List.cons_append]

/-- What such a run leaves is a rearrangement of a part of what it began with. -/
theorem HandsBackRemaining.subperm {visits : List Visit} (hv : v.Standing texts)
    (h : v.HandsBackRemaining visits) : (v.servedAll visits).remaining.Subperm v.remaining := by
  induction visits generalizing v with
  | nil => exact .refl _
  | cons x rest ih =>
    have hsplit : v.HandsBackRemaining ([x] ++ rest ++ []) := by simpa using h
    have hrest : (v.served x).2.HandsBackRemaining rest := hsplit.part
    have hstep : (v.served x).2.remaining.Subperm v.remaining := by
      rcases served_cases hv x with ⟨kept, hback, hserved⟩ | ⟨-, e, hserved⟩
      · rw [hserved]
        exact hback.nodup.subperm (h [] x rest kept rfl hback)
      · rw [hserved]
        exact .refl _
    exact (ih (hv.served x) hrest).trans hstep

theorem string_congr {w : ArgVector} (h : w.strings = v.strings) : w.string = v.string := by
  funext index
  unfold string
  rw [h]

theorem arguments_subperm {w : ArgVector} (hstrings : w.strings = v.strings)
    (h : w.remaining.Subperm v.remaining) : w.arguments.Subperm v.arguments := by
  obtain ⟨part, hperm, hpart⟩ := h
  unfold arguments
  rw [string_congr hstrings]
  exact ⟨part.map v.string, hperm.map _, hpart.map _⟩

theorem onlyRemoves_iff {visits : List Visit} (hv : v.Standing texts) :
    v.OnlyRemoves visits ↔ v.HandsBackRemaining visits := by
  constructor
  · intro h before x after kept hsplit hback
    have hserved := served_of_handsBack (hv.servedAll before) hback
    have hstep := h.step before x after hsplit (by rw [hserved])
    rw [hserved] at hstep
    exact hstep.subset
  · intro h
    have hparts : ∀ before between after, visits = before ++ between ++ after →
        (v.servedAll (before ++ between)).remaining.Subperm (v.servedAll before).remaining := by
      intro before between after hsplit
      rw [servedAll_append]
      exact (hsplit ▸ h).part.subperm (hv.servedAll before)
    refine ⟨fun before x after hsplit _ => ?_, fun before between after hsplit index hgone hback =>
      hgone ((hparts before between after hsplit).subset hback),
      fun before between after hsplit text => ?_⟩
    · rw [← servedAll_snoc]
      exact hparts before [x] after (by simpa using hsplit)
    · have hsame := (hv.servedAll (before ++ between)).strings.trans (hv.servedAll before).strings.symm
      exact (arguments_subperm hsame (hparts before between after hsplit)).count_le text

/-- Each visit of a run makes some edits of the array that it is given. -/
def OnlyEdits (v : ArgVector) (visits : List Visit) : Prop :=
  ∀ before x after, visits = before ++ x :: after →
    ∃ edits, x = (v.servedAll before).editing edits

/-- Edits put into a slot only pointers of the array that they are given, or such
as lead elsewhere. -/
theorem kept_subset_of_editing {edits : List Edit} (hv : v.Standing texts)
    (h : (v.editing edits).HandsBack v kept) : kept ⊆ v.remaining := by
  intro index hindex
  have hleft : ArgPointer.own index ∈ (v.left (v.editing edits)).slots.take kept.length := by
    rw [left_slots_take (Nat.le_trans h.fits (hv.length ▸ Nat.le_succ _)), h.pointers]
    exact List.mem_map_of_mem hindex
  rw [left_editing] at hleft
  have hgiven := (v.frame_edits edits).own index (List.mem_of_mem_take hleft)
  exact own_mem_pointers.mp (hv.array ▸ hgiven)

theorem OnlyEdits.handsBackRemaining {visits : List Visit} (hv : v.Standing texts)
    (h : v.OnlyEdits visits) : v.HandsBackRemaining visits := by
  intro before x after kept hsplit hback
  obtain ⟨edits, rfl⟩ := h before x after hsplit
  exact kept_subset_of_editing (hv.servedAll before) hback

/-- A copy lets native code only remove and reorder exactly if native code
hands back, each time that an update succeeds, only pointers to arguments that
remained. The update does not ask for that: it goes by all strings of the copy. -/
theorem only_removes_iff {program : String} {args : List String} (h : ofList program args = .ok v)
    (visits : List Visit) :
    (v.OnlyRemoves visits ↔ v.HandsBackRemaining visits) ∧
    -- without that, what remains is still a part of what was copied
    (v.servedAll visits).arguments.Subperm (program :: args) ∧
    -- an update takes over distinct strings of the copy, and refuses all else
    (∀ x, (((v.servedAll visits).served x).1 = .ok () ↔
        ∃ kept, x.HandsBack (v.servedAll visits) kept) ∧
      (∀ kept, x.HandsBack (v.servedAll visits) kept →
        ((v.servedAll visits).served x).2.remaining = kept) ∧
      (((v.servedAll visits).served x).1 ≠ .ok () →
        ((v.servedAll visits).served x).2.remaining = (v.servedAll visits).remaining)) ∧
    -- edits of the array are such visits
    (∀ edits : List Edit, (v.servedAll visits).served ((v.servedAll visits).editing edits) =
      (edits.foldl edit (v.servedAll visits)).update) ∧
    -- they know no other pointers to the copy than those of the array
    (v.OnlyEdits visits → v.OnlyRemoves visits) := by
  obtain ⟨hv, hremaining⟩ := standing_ofList h
  have hw := hv.servedAll visits
  refine ⟨onlyRemoves_iff hv, ?_, fun x => ⟨?_, fun kept hback => ?_, fun hrefused => ?_⟩,
    fun edits => ?_, fun hedits => (onlyRemoves_iff hv).mpr (hedits.handsBackRemaining hv)⟩
  · have hpart : (v.servedAll visits).remaining.Subperm v.remaining := by
      refine hw.nodup.subperm fun index hmem => ?_
      rw [hremaining]
      exact List.mem_range.mpr (hw.own index hmem)
    have hall : v.arguments = program :: args := by
      unfold arguments
      rw [hremaining]
      refine List.ext_getElem (by simp) fun place h₁ h₂ => ?_
      simp [string, hv.strings, List.getElem?_eq_getElem h₂]
    exact hall ▸ arguments_subperm (hw.strings.trans hv.strings.symm) hpart
  · constructor
    · intro hok
      rcases served_cases hw x with ⟨kept, hback, -⟩ | ⟨-, e, hserved⟩
      · exact ⟨kept, hback⟩
      · rw [hserved] at hok
        exact nomatch hok
    · rintro ⟨kept, hback⟩
      rw [served_of_handsBack hw hback]
  · rw [served_of_handsBack hw hback]
    rfl
  · rcases served_cases hw x with ⟨kept, -, hserved⟩ | ⟨-, e, hserved⟩
    · rw [hserved] at hrefused
      exact absurd rfl hrefused
    · rw [hserved]
      rfl
  · unfold served
    rw [left_editing]

end ArgVector

namespace Sample

/-- Four arguments. -/
def argv : ArgVector := ArgVector.rebuild ⟨["app", "a", "b", "c"], [], 0, []⟩ [0, 1, 2, 3]

/-- Native code keeps the first two. -/
def shortening : Visit := argv.editing [.setCount 2]

/-- Later it puts the pointer to the last one, which it has kept from the first
visit, into the place of the second. -/
def recovering : Visit where
  argc := 2
  slots
    | 0 => .own 0
    | 1 => .own 3
    | _ => .null

end Sample

/-- A removed argument can come back. -/
theorem sample_only_removes :
    ArgVector.ofList "app" ["a", "b", "c"] = .ok Sample.argv ∧
    (Sample.argv.servedAll [Sample.shortening]).arguments = ["app", "a"] ∧
    (Sample.argv.servedAll [Sample.shortening, Sample.recovering]).arguments = ["app", "c"] ∧
    ((Sample.argv.servedAll [Sample.shortening]).served Sample.recovering).1 = .ok () ∧
    ¬Sample.argv.HandsBackRemaining [Sample.shortening, Sample.recovering] ∧
    ¬Sample.argv.OnlyRemoves [Sample.shortening, Sample.recovering] := by
  have hmade : ArgVector.ofList "app" ["a", "b", "c"] = .ok Sample.argv := by decide +kernel
  have hback : Sample.recovering.HandsBack (Sample.argv.servedAll [Sample.shortening]) [0, 3] :=
    ⟨by decide +kernel, by decide +kernel, by decide +kernel, by decide, by decide +kernel⟩
  have hremaining : (Sample.argv.servedAll [Sample.shortening]).remaining = [0, 1] := by
    decide +kernel
  have hforeign : ¬Sample.argv.HandsBackRemaining [Sample.shortening, Sample.recovering] := by
    intro h
    have hsubset := h [Sample.shortening] Sample.recovering [] [0, 3] rfl hback
    rw [hremaining] at hsubset
    exact absurd hsubset (by decide)
  refine ⟨hmade, by decide +kernel, by decide +kernel, by decide +kernel, hforeign,
    fun h => hforeign ?_⟩
  exact (ArgVector.only_removes_iff hmade [Sample.shortening, Sample.recovering]).1.mp h

end NativeBridge
