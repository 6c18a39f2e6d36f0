-- What registries keep. Whatever is registered later, a package leads to the
-- same type, a type has the same name and classification, identifiers that
-- stood for one type do so still, and an error domain has the same enum.
import NativeBridge.Proofs.Registrations

namespace NativeBridge

namespace Registry

variable {r r' r'' : Registry} {id a b : TypeId}

/-! ## What stays -/

/-- A synonym is registered: it has the registration of what it stands for. -/
theorem Sound.synonym_registered (h : r.Sound) {target : TypeId}
    (hid : r.synonyms.get? id = some target) : (r.registration? id).isSome := by
  unfold registration?
  rw [canonical_of_some hid]
  exact h.registered hid

/-- What is not registered stands for itself. -/
theorem Sound.canonical_of_unregistered (h : r.Sound) (hid : r.registration? id = none) :
    r.canonical id = id := by
  refine canonical_of_none (Option.eq_none_iff_forall_ne_some.mpr fun target htarget => ?_)
  have hregistered := h.synonym_registered htarget
  rw [hid] at hregistered
  exact Bool.noConfusion hregistered

theorem registration?_of_sameType (hsame : r.sameType a b) :
    r.registration? a = r.registration? b := by
  unfold registration?
  rw [eq_of_beq hsame]

/-- Two identifiers of one type share a registration, or are one identifier. -/
theorem Sound.registered_or_eq (h : r.Sound) (hsame : r.sameType a b) :
    (r.registration? a).isSome ∨ a = b := by
  cases hknown : r.registration? a with
  | some entry => exact .inl rfl
  | none =>
    right
    rw [← h.canonical_of_unregistered hknown, eq_of_beq hsame,
      h.canonical_of_unregistered (registration?_of_sameType hsame ▸ hknown)]

theorem Sound.resolve_synonym (h : r.Sound) {id target : TypeId}
    (hid : r.synonyms.get? id = some target) :
    (∃ info, r.resolve id = some info ∧ info.type = target) ∧ r.synonyms.get? target = none ∧
      r.types.get? id = none := by
  have hcanonical := canonical_of_some hid
  obtain ⟨entry, hentry⟩ := Option.isSome_iff_exists.mp (h.synonym_registered hid)
  refine ⟨⟨⟨r.canonical id, entry⟩, ?_, hcanonical⟩, ?_, h.apart (by rw [hid]; rfl)⟩
  · rw [Registry.resolve, hentry]
    rfl
  · rw [← hcanonical]
    exact h.not_synonym id

/-- What a later registry still has of an earlier one. -/
structure Keeps (r r' : Registry) : Prop where
  packages : ∀ {package found}, r.packages.get? package = some found →
    r'.packages.get? package = some found
  types : ∀ {type old}, r.types.get? type = some old → ∃ new, r'.types.get? type = some new ∧
    new.typeName = old.typeName ∧ new.classification = old.classification
  synonyms : ∀ {id target}, r.synonyms.get? id = some target → r'.synonyms.get? id = some target
  domains : ∀ {domain found}, r.domains.get? domain = some found →
    r'.domains.get? domain = some found

namespace Keeps

theorem refl (r : Registry) : r.Keeps r := ⟨id, fun h => ⟨_, h, rfl, rfl⟩, id, id⟩

theorem of_empty (r : Registry) : Registry.Keeps {} r where
  packages h := by simp at h
  types h := by simp at h
  synonyms h := by simp at h
  domains h := by simp at h

theorem trans (h : r.Keeps r') (h' : r'.Keeps r'') : r.Keeps r'' where
  packages hfound := h'.packages (h.packages hfound)
  types hold := by
    obtain ⟨mid, hmid, hname, hclass⟩ := h.types hold
    obtain ⟨new, hnew, hname', hclass'⟩ := h'.types hmid
    exact ⟨new, hnew, hname'.trans hname, hclass'.trans hclass⟩
  synonyms hid := h'.synonyms (h.synonyms hid)
  domains hfound := h'.domains (h.domains hfound)

theorem contains (h : r.Keeps r') {type : TypeId} (htype : (r.types.get? type).isSome) :
    (r'.types.get? type).isSome := by
  obtain ⟨old, hold⟩ := Option.isSome_iff_exists.mp htype
  obtain ⟨new, hnew, -⟩ := h.types hold
  exact Option.isSome_iff_exists.mpr ⟨new, hnew⟩

/-- What stands for a registered type stands for it for ever. -/
theorem canonical (h : r.Keeps r') (hsound : r'.Sound) (hid : (r.registration? id).isSome) :
    r'.canonical id = r.canonical id := by
  cases hsynonym : r.synonyms.get? id with
  | some target => rw [canonical_of_some hsynonym, canonical_of_some (h.synonyms hsynonym)]
  | none =>
    have htype : (r.types.get? id).isSome := by
      unfold registration? at hid
      rwa [canonical_of_none hsynonym] at hid
    have hnone : r'.synonyms.get? id = none := by
      by_contra hne
      have habsent := hsound.apart (Option.isSome_iff_ne_none.mpr hne)
      have hregistered := h.contains htype
      rw [habsent] at hregistered
      exact Bool.noConfusion hregistered
    rw [canonical_of_none hsynonym, canonical_of_none hnone]

theorem registered (h : r.Keeps r') (hsound : r'.Sound) (hid : (r.registration? id).isSome) :
    (r'.registration? id).isSome := by
  unfold registration?
  rw [h.canonical hsound hid]
  exact h.contains hid

/-- Two identifiers that are one type remain so. -/
theorem sameType (h : r.Keeps r') (hr : r.Sound) (hr' : r'.Sound) (hsame : r.sameType a b) :
    r'.sameType a b := by
  refine beq_iff_eq.mpr ?_
  rcases hr.registered_or_eq hsame with ha | rfl
  · have hb : (r.registration? b).isSome := by rwa [← registration?_of_sameType hsame]
    rw [h.canonical hr' ha, h.canonical hr' hb, eq_of_beq hsame]
  · rfl

theorem lookupType (h : r.Keeps r') {package : String} {type : TypeId}
    (hfound : r.lookupType package = .ok type) : r'.lookupType package = .ok type := by
  unfold Registry.lookupType at hfound ⊢
  cases hpackage : r.packages.get? package with
  | none =>
    rw [hpackage] at hfound
    exact absurd hfound (by simp)
  | some found =>
    rw [hpackage] at hfound
    rw [h.packages hpackage]
    exact hfound

theorem resolve (h : r.Keeps r') (hsound : r'.Sound) {id : TypeId} {info : Resolved}
    (hinfo : r.resolve id = some info) : ∃ info', r'.resolve id = some info' ∧
      info'.type = info.type ∧ info'.entry.classification = info.entry.classification := by
  obtain ⟨old, hold, rfl⟩ := Option.map_eq_some_iff.mp hinfo
  have hcanonical := h.canonical hsound (Option.isSome_iff_exists.mpr ⟨old, hold⟩)
  obtain ⟨new, hnew, -, hclass⟩ := h.types hold
  refine ⟨⟨r'.canonical id, new⟩, ?_, hcanonical, hclass⟩
  rw [Registry.resolve, Registry.registration?, hcanonical, hnew]
  rfl

end Keeps

/-! ## Every registration keeps it -/

theorem keeps_setPackage (r : Registry) {package : String} (found : PackageEntry)
    (hfree : r.packages.get? package = none) :
    r.Keeps { r with packages := r.packages.set package found } where
  packages {other old} hold := by
    have hne : other ≠ package := by
      rintro rfl
      rw [hfree] at hold
      exact absurd hold (by simp)
    rwa [Table.get?_set_ne _ hne]
  types hold := ⟨_, hold, rfl, rfl⟩
  synonyms hid := hid
  domains hfound := hfound

theorem keeps_setType (r : Registry) {type : TypeId} {entry : Registration}
    (hsame : ∀ old, r.types.get? type = some old →
      entry.typeName = old.typeName ∧ entry.classification = old.classification) :
    r.Keeps { r with types := r.types.set type entry } where
  packages hfound := hfound
  types {other old} hold := by
    by_cases hother : other = type
    · subst hother
      exact ⟨entry, Table.get?_set_self _ _ _, hsame old hold⟩
    · exact ⟨old, by rwa [Table.get?_set_ne _ hother], rfl, rfl⟩
  synonyms hid := hid
  domains hfound := hfound

/-- Filing under a free package keeps everything, if it keeps the name and
classification of its type. -/
theorem keeps_file (r : Registry) {type : TypeId} {entry : Registration}
    (hfree : r.packages.get? entry.package = none)
    (hsame : ∀ old, r.types.get? type = some old →
      entry.typeName = old.typeName ∧ entry.classification = old.classification) :
    r.Keeps (r.file type entry) :=
  (r.keeps_setType hsame).trans (keeps_setPackage _ ⟨type, false⟩ hfree)

theorem Sound.keeps_setSynonym (h : r.Sound) {other : TypeId} (target : TypeId)
    (hfree : r.registration? other = none) :
    r.Keeps { r with synonyms := r.synonyms.set other target } where
  packages hfound := hfound
  types hold := ⟨_, hold, rfl, rfl⟩
  synonyms {id old} hid := by
    have hne : id ≠ other := by
      rintro rfl
      have hregistered := h.synonym_registered hid
      rw [hfree] at hregistered
      exact Bool.noConfusion hregistered
    rwa [Table.get?_set_ne _ hne]
  domains hfound := hfound

theorem keeps_setDomain (r : Registry) {domain : String} (found : ErrorDomain)
    (hfree : r.domains.get? domain = none) :
    r.Keeps { r with domains := r.domains.set domain found } where
  packages hfound := hfound
  types hold := ⟨_, hold, rfl, rfl⟩
  synonyms hid := hid
  domains {other old} hold := by
    have hne : other ≠ domain := by
      rintro rfl
      rw [hfree] at hold
      exact absurd hold (by simp)
    rwa [Table.get?_set_ne _ hne]

theorem Registers.keeps (hstep : r.Registers r') (h : r.Sound) : r.Keeps r' := by
  cases hstep with
  | fresh id typeName package c supplied chosen hserves hfree habsent =>
    exact r.keeps_file hfree fun old hold => absurd (habsent.symm.trans hold) (by simp)
  | again id typeName package supplied chosen old hserves hfree hknown =>
    refine r.keeps_file hfree fun other hother => ?_
    obtain rfl := Option.some.inj (hknown.symm.trans hother)
    exact ⟨rfl, rfl⟩
  | otherPackage id package hknown hfree => exact r.keeps_setPackage _ hfree
  | unchanged => exact .refl r
  | synonym id other hknown hfree => exact h.keeps_setSynonym _ hfree
  | domain _ _ _ _ hfree => exact r.keeps_setDomain _ hfree
  | sink => exact ⟨id, fun hold => ⟨_, hold, rfl, rfl⟩, id, id⟩

end Registry

end NativeBridge
