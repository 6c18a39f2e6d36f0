-- What objects are shown as. The registration of the type of an object
-- decides; a type without one is shown as its nearest ancestor that is
-- registered with reference counts, and the bridge warns once about it. A wrap
-- that cannot show its object leaves everything as it was.
import NativeBridge.Proofs.FallbackReports
import NativeBridge.Proofs.SignalLookup
import NativeBridge.Proofs.SinkRuns
import NativeBridge.Proofs.SynonymTransparency

namespace NativeBridge

variable {σ τ : Type}

/-! ## What types are shown as -/

/-- What a type resolves to: its own registration, or that of the type for
which it is a synonym. -/
inductive Registry.Resolves (r : Registry) (id : TypeId) (entry : Registration) : Prop where
  | direct (hentry : r.types.get? id = some entry)
  | synonym {target : TypeId} (hsynonym : r.synonyms.get? id = some target)
    (hentry : r.types.get? target = some entry)

/-- What a type resolves to, if its instances are counted. -/
def Registry.Counts (r : Registry) (id : TypeId) (entry : Registration) : Prop :=
  r.Resolves id entry ∧ entry.classification.isRefcounted = true

/-- How the objects of a type are shown. -/
inductive System.ShownAs (s : System σ) (r : RuntimeId) (type : TypeId) : Exposure → Prop where
  | own {entry : Registration} (hcounts : (s.registryOf r).Counts type entry) :
    ShownAs s r type (.own entry.package)
  | inherited {parent ancestor : TypeId} {entry : Registration}
    (hnone : ∀ entry, ¬(s.registryOf r).Resolves type entry)
    (hallowed : (s.bridge r).config.subclassFallback = true)
    (hparent : s.heap.types.parent? type = some parent)
    (hnearest : s.heap.types.Nearest parent
      (fun t => ∃ entry, (s.registryOf r).Counts t entry) ancestor)
    (hcounts : (s.registryOf r).Counts ancestor entry) : ShownAs s r type (.inherited entry.package)

/-- Why an object cannot be shown. -/
inductive System.CannotShow (s : System σ) (r : RuntimeId) (o : ObjectId) : BridgeError → Prop where
  | stale (htype : s.heap.typeOf? o = none) : CannotShow s r o (.native (.staleObject o))
  | uncounted {type : TypeId} {entry : Registration} (htype : s.heap.typeOf? o = some type)
    (hresolves : (s.registryOf r).Resolves type entry)
    (hnot : entry.classification.isRefcounted = false) :
    CannotShow s r o (.conversion (.typeMismatch "object" entry.classification.text))
  | unknown {type : TypeId} (htype : s.heap.typeOf? o = some type)
    (hnone : ∀ entry, ¬(s.registryOf r).Resolves type entry)
    (hnowhere : (s.bridge r).config.subclassFallback = true →
      ∀ ancestor, Relation.TransGen (fun t p => s.heap.types.parent? t = some p) type ancestor →
        ∀ entry, ¬(s.registryOf r).Counts ancestor entry) :
    CannotShow s r o (.conversion (.unconvertibleType (s.heap.types.describe type)))

section

variable {reg : Registry} {id type : TypeId} {entry : Registration} {s : System σ}
  {r : RuntimeId} {o : ObjectId} {exposure : System.Exposure}

theorem Registry.Sound.resolves_iff (hreg : reg.Sound) :
    reg.Resolves id entry ↔ reg.registration? id = some entry := by
  unfold Registry.registration?
  cases hsynonym : reg.synonyms.get? id with
  | none =>
    rw [Registry.canonical_of_none hsynonym]
    constructor
    · rintro (hentry | ⟨hother, -⟩)
      · exact hentry
      · exact absurd (hsynonym.symm.trans hother) (by simp)
    · exact .direct
  | some target =>
    rw [Registry.canonical_of_some hsynonym]
    constructor
    · rintro (hentry | ⟨hother, hentry⟩)
      · rw [hreg.apart (by rw [hsynonym]; rfl)] at hentry
        cases hentry
      · rwa [Option.some.inj (hsynonym.symm.trans hother)]
    · exact .synonym hsynonym

theorem Registry.Sound.unresolved_iff (hreg : reg.Sound) :
    (∀ entry, ¬reg.Resolves id entry) ↔ reg.registration? id = none := by
  simp only [hreg.resolves_iff, Option.eq_none_iff_forall_ne_some, ne_eq]

/-- The package that a type lends its descendants. -/
theorem countedPackage?_eq_some (hreg : (s.registryOf r).Sound) {package : String} :
    s.countedPackage? r type = some package ↔
      ∃ entry, (s.registryOf r).Counts type entry ∧ entry.package = package := by
  unfold System.countedPackage? Registry.Counts
  simp only [hreg.resolves_iff]
  cases (s.registryOf r).registration? type with
  | none => simp
  | some entry => simp [Option.ite_none_right_eq_some]

/-- An ancestor is a parent, or one that a parent derives from. -/
theorem Hierarchy.Arises.mem_ancestors_iff {h : Hierarchy} (ha : h.Arises) {t ancestor : TypeId} :
    ancestor ∈ h.ancestors t ↔ Relation.TransGen (fun t p => h.parent? t = some p) t ancestor := by
  obtain ⟨rank, hr⟩ := ha.ranked
  rw [hr.ancestors_eq, Relation.TransGen.head'_iff]
  cases hp : h.parent? t with
  | none => simp
  | some p =>
    simp only [Option.elim_some, Option.some.injEq, exists_eq_left']
    exact ha.mem_line_iff

/-- Without a registration, a type is described by its native name. -/
theorem describeType_of_unresolved (hresolved : (s.registryOf r).registration? type = none) :
    s.describeType r type = s.heap.types.describe type := by
  unfold System.describeType Registry.package?
  rw [hresolved]
  rfl

section

variable (hreg : (s.registryOf r).Sound) (ha : s.heap.types.Arises)

include hreg ha

/-- What a walk along the ancestors finds. -/
theorem findSome?_ancestors_eq_some {package : String} :
    (s.heap.types.ancestors type).findSome? (s.countedPackage? r) = some package ↔
      ∃ parent ancestor entry, s.heap.types.parent? type = some parent ∧
        s.heap.types.Nearest parent (fun t => ∃ entry, (s.registryOf r).Counts t entry) ancestor ∧
        (s.registryOf r).Counts ancestor entry ∧ entry.package = package := by
  obtain ⟨rank, hr⟩ := ha.ranked
  have hlends : (fun t => ∃ package, s.countedPackage? r t = some package) =
      fun t => ∃ entry, (s.registryOf r).Counts t entry := by
    funext t
    simp [countedPackage?_eq_some hreg]
  rw [hr.ancestors_eq]
  cases hp : s.heap.types.parent? type with
  | none => simp
  | some parent =>
    rw [Option.elim_some, ha.findSome?_line_eq_some_iff, hlends]
    simp only [countedPackage?_eq_some hreg, Option.some.injEq, exists_and_left, exists_eq_left']

theorem shownAs_iff : s.ShownAs r type exposure ↔ s.exposure r type = .ok exposure := by
  unfold System.exposure
  cases hresolved : (s.registryOf r).registration? type with
  | some entry =>
    have hresolves := hreg.resolves_iff.mpr hresolved
    dsimp only
    constructor
    · rintro (⟨hother, hcounted⟩ | ⟨hnone, -⟩)
      · obtain rfl := Option.some.inj (hresolved.symm.trans (hreg.resolves_iff.mp hother))
        rw [if_pos hcounted]
      · exact absurd hresolves (hnone entry)
    · split
      · rename_i hcounted
        rintro ⟨⟩
        exact .own ⟨hresolves, hcounted⟩
      · intro h
        cases h
  | none =>
    have hnone := hreg.unresolved_iff.mpr hresolved
    dsimp only
    constructor
    · rintro (⟨hresolves, -⟩ | ⟨-, hallowed, hparent, hnearest, hcounts⟩)
      · exact absurd hresolves (hnone _)
      · rw [if_pos hallowed, (findSome?_ancestors_eq_some hreg ha).mpr
          ⟨_, _, _, hparent, hnearest, hcounts, rfl⟩]
    · split
      · rename_i hallowed
        split
        · rename_i package hfound
          rintro ⟨⟩
          obtain ⟨parent, ancestor, entry, hparent, hnearest, hcounts, rfl⟩ :=
            (findSome?_ancestors_eq_some hreg ha).mp hfound
          exact .inherited hnone hallowed hparent hnearest hcounts
        · intro h
          cases h
      · intro h
        cases h

theorem findSome?_ancestors_eq_none :
    (s.heap.types.ancestors type).findSome? (s.countedPackage? r) = none ↔
      ∀ ancestor, Relation.TransGen (fun t p => s.heap.types.parent? t = some p) type ancestor →
        ∀ entry, ¬(s.registryOf r).Counts ancestor entry := by
  rw [List.findSome?_eq_none_iff]
  constructor
  · intro h ancestor habove entry hcounts
    have hnone := h ancestor (ha.mem_ancestors_iff.mpr habove)
    rw [(countedPackage?_eq_some hreg).mpr ⟨entry, hcounts, rfl⟩] at hnone
    cases hnone
  · intro h ancestor hmem
    refine Option.eq_none_iff_forall_ne_some.mpr fun package hpackage => ?_
    obtain ⟨entry, hcounts, -⟩ := (countedPackage?_eq_some hreg).mp hpackage
    exact h ancestor (ha.mem_ancestors_iff.mp hmem) entry hcounts

theorem cannotShow_iff (htype : s.heap.typeOf? o = some type) {e : BridgeError} :
    s.CannotShow r o e ↔ ∃ e', e = .conversion e' ∧ s.exposure r type = .error e' := by
  unfold System.exposure System.unconvertible
  constructor
  · rintro (hstale | ⟨htype', hresolves, hnot⟩ | ⟨htype', hnone, hnowhere⟩)
    · exact absurd (htype.symm.trans hstale) (by simp)
    all_goals
      obtain rfl := Option.some.inj (htype.symm.trans htype')
      refine ⟨_, rfl, ?_⟩
    · rw [hreg.resolves_iff.mp hresolves]
      simp only [hnot, Bool.false_eq_true, if_false]
    · have hresolved := hreg.unresolved_iff.mp hnone
      rw [hresolved, describeType_of_unresolved hresolved]
      dsimp only
      split
      · rename_i hallowed
        rw [(findSome?_ancestors_eq_none hreg ha).mpr (hnowhere hallowed)]
      · rfl
  · rintro ⟨e', rfl, hrefused⟩
    cases hresolved : (s.registryOf r).registration? type with
    | some entry =>
      rw [hresolved] at hrefused
      dsimp only at hrefused
      split at hrefused
      · cases hrefused
      · rename_i hnot
        obtain rfl := Except.error.inj hrefused
        exact .uncounted htype (hreg.resolves_iff.mpr hresolved) (by simpa using hnot)
    | none =>
      have hnone := hreg.unresolved_iff.mpr hresolved
      rw [hresolved, describeType_of_unresolved hresolved] at hrefused
      dsimp only at hrefused
      split at hrefused
      · split at hrefused
        · cases hrefused
        · rename_i hfound
          obtain rfl := Except.error.inj hrefused
          exact .unknown htype hnone fun _ => (findSome?_ancestors_eq_none hreg ha).mp hfound
      · rename_i hdenied
        obtain rfl := Except.error.inj hrefused
        exact .unknown htype hnone fun hallowed => absurd hallowed hdenied

end

end

/-! ## What wraps do -/

/-- Whether an object has no wrapper that is alive: no handle stands for one,
and the arena keeps none. -/
structure System.Unwrapped (s : System σ) (r : RuntimeId) (o : ObjectId) : Prop where
  unheld : ∀ w : ObjectWrapper, w.object = o → ¬s.HasHandle r w
  unkept : ∀ w, (s.bridge r).arena.find? o = some w → w.ownership = .owned

/-- Whether a bridge warns when it shows a type. -/
def System.Warns (s : System σ) (r : RuntimeId) (type : TypeId) (exposure : Exposure) : Prop :=
  (∃ package, exposure = .inherited package) ∧ (s.bridge r).config.warnOnFallback = true ∧
    type ∉ (s.bridge r).warned

/-- The reports and the warnings after a type was shown. -/
structure System.Reported (s : System σ) (r : RuntimeId) (type : TypeId) (exposure : Exposure)
    (t : System σ) : Prop where
  warned : s.Warns r type exposure →
    t.notices =
        s.notices ++ [.subclassFallback (s.heap.types.describe type) exposure.package] ∧
      (t.bridge r).warned = type :: (s.bridge r).warned
  silent : ¬s.Warns r type exposure →
    t.notices = s.notices ∧ (t.bridge r).warned = (s.bridge r).warned

/-- Whether an entry of an arena is alive. -/
def System.Lists (s : System σ) (r : RuntimeId) (o : ObjectId) (w : ObjectWrapper) : Prop :=
  (s.bridge r).arena.find? o = some w ∧ s.isLive w = true

/-- A state in which nothing was wrapped: neither references nor wrappers,
entries that are alive, reports and warnings differ. -/
structure System.Unaffected (s t : System σ) : Prop where
  heap : t.heap = s.heap
  wrappers : t.wrappers = s.wrappers
  entries : ∀ r o w, t.Lists r o w ↔ s.Lists r o w
  notices : t.notices = s.notices
  warned : ∀ r, (t.bridge r).warned = (s.bridge r).warned

/-- How wraps of an object are decided. -/
structure System.Decides (g : Guest σ) (s : System σ) (r : RuntimeId) (o : ObjectId) (owned : Bool) :
    Prop where
  /-- An object is wrapped if it is live and its type can be shown. -/
  succeeds : (∃ h, ((wrapObject g r o owned).run.run s).1 = .ok h) ↔
    ∃ type exposure, s.heap.typeOf? o = some type ∧ s.ShownAs r type exposure
  /-- It is shown so, with a warning where one is due; then a sink may run. -/
  shows : ∀ type exposure, s.heap.typeOf? o = some type → s.ShownAs r type exposure →
    ∃ t, s.Reported r type exposure t ∧ (wrapObject g r o owned).run.run s =
      (.ok (.object ⟨s.wrappers.size, o, type, exposure.package, .ofOwned owned⟩),
        match s.sinkOnWrap? r o owned with
        | some sink => ((g.sink sink o).run t).2
        | none => t)
  /-- Any other wrap fails, and nothing comes of it. -/
  refuses : ∀ e, ((wrapObject g r o owned).run.run s).1 = .error e ↔ s.CannotShow r o e
  unaffected : ∀ e t, (wrapObject g r o owned).run.run s = (.error e, t) → s.Unaffected t

/-! ### Looking for a wrapper in vain -/

section

variable {s t : System σ} {r : RuntimeId} {o : ObjectId} {type : TypeId}
  {exposure : System.Exposure}

theorem System.Unaffected.refl (s : System σ) : s.Unaffected s :=
  ⟨rfl, rfl, fun _ _ _ => .rfl, rfl, fun _ => rfl⟩

/-- At most a dead entry goes. -/
theorem unaffected_of_looked (hr : s.isBridgeAlive r = true) (hl : s.liveWrapper r o = (none, t)) :
    s.Unaffected t := by
  rcases System.liveWrapper_none hl with ⟨-, rfl⟩ | ⟨dead, hfind, hdead, rfl⟩
  · exact .refl _
  · refine ⟨rfl, rfl, fun r' o' w => ?_, rfl, fun r' => ?_⟩
    · by_cases hruntime : r' = r
      · subst hruntime
        unfold System.Lists
        rw [System.bridge_modifyBridge hr]
        refine and_congr_left fun hlive => ?_
        by_cases hobject : o' = o
        · subst hobject
          -- the entry that goes is dead, and any other would be in its place
          have hnone : ((s.bridge r').arena.erase o').find? o' = none := Table.get?_erase_self _ _
          rw [hnone, hfind]
          refine iff_of_false (by simp) ?_
          rintro ⟨⟩
          exact absurd (hlive.symm.trans hdead) (by simp)
        · have hsame : ((s.bridge r').arena.erase o).find? o' = (s.bridge r').arena.find? o' :=
            Table.get?_erase_ne _ hobject
          rw [hsame]
      · unfold System.Lists
        rw [bridge_modifyBridge_ne hruntime]
        exact Iff.rfl
    · exact bridge_modifyBridge_part Bridge.warned
        (f := fun b => { b with arena := b.arena.erase o }) (fun _ => rfl) s r' r

/-! ### Showing a type -/

/-- The warning that is due is given. -/
theorem reported_noteExposure (hr : s.isBridgeAlive r = true)
    (hunresolved : ∀ package, exposure = .inherited package →
      (s.registryOf r).registration? type = none) :
    s.Reported r type exposure (s.noteExposure r type exposure) := by
  cases exposure with
  | own package =>
    refine ⟨?_, fun _ => ⟨rfl, rfl⟩⟩
    rintro ⟨⟨_, hinherited⟩, -⟩
    cases hinherited
  | inherited package =>
    have hdue : s.Warns r type (.inherited package) ↔
        ((s.bridge r).config.warnOnFallback && !(s.bridge r).warned.contains type) = true := by
      simp [System.Warns]
    let warned : System σ := s.modifyBridge r fun b => { b with warned := type :: b.warned }
    have hsame : SameSetting r s warned := .modifyBridge s r r _ (fun _ => rfl) fun _ => rfl
    have hdescribed : warned.describeType r type = s.heap.types.describe type := by
      apply describeType_of_unresolved
      rw [hsame.registryOf]
      exact hunresolved package rfl
    refine ⟨fun hwarns => ?_, fun hsilent => ?_⟩
    · have hnoted : s.noteExposure r type (.inherited package) =
          warned.note (.subclassFallback (warned.describeType r type) package) :=
        if_pos (hdue.mp hwarns)
      rw [hnoted, hdescribed]
      exact ⟨rfl, congrArg Bridge.warned (System.bridge_modifyBridge hr _)⟩
    · have hnoted : s.noteExposure r type (.inherited package) = s :=
        if_neg fun h => hsilent (hdue.mpr h)
      rw [hnoted]
      exact ⟨rfl, rfl⟩

/-- Only the type that is shown, and what the bridge goes by, count. -/
theorem System.Reported.of_same {s' t' : System σ} (h : s'.Reported r type exposure t')
    (hsame : SameSetting r s s') (hnotices : s'.notices = s.notices)
    (hwarned : (s'.bridge r).warned = (s.bridge r).warned) (hnotices' : t.notices = t'.notices)
    (hwarned' : (t.bridge r).warned = (t'.bridge r).warned) : s.Reported r type exposure t := by
  have hdue : s.Warns r type exposure ↔ s'.Warns r type exposure := by
    unfold System.Warns
    rw [hsame.config, hwarned]
  refine ⟨fun hwarns => ?_, fun hsilent => ?_⟩
  · obtain ⟨hnoted, hadded⟩ := h.warned (hdue.mp hwarns)
    exact ⟨by rw [hnotices', hnoted, hnotices, hsame.heap], by rw [hwarned', hadded, hwarned]⟩
  · obtain ⟨hnoted, hadded⟩ := h.silent fun hwarns => hsilent (hdue.mpr hwarns)
    exact ⟨by rw [hnotices', hnoted, hnotices], by rw [hwarned', hadded, hwarned]⟩

theorem unresolved_of_inherited {package : String}
    (hshown : s.exposure r type = .ok (.inherited package)) :
    (s.registryOf r).registration? type = none := by
  unfold System.exposure at hshown
  split at hshown
  · split at hshown <;> cases hshown
  · assumption

/-- A new wrapper changes neither reports nor warnings. -/
theorem addWrapper_keeps (s : System σ) (r : RuntimeId) (o : ObjectId) (type : TypeId)
    (package : String) (own : Ownership) :
    (s.addWrapper r o type package own).2.notices = s.notices ∧
      ((s.addWrapper r o type package own).2.bridge r).warned = (s.bridge r).warned := by
  unfold System.addWrapper
  dsimp only
  refine ⟨rfl, (bridge_modifyBridge_part Bridge.warned ?_ _ r r).trans rfl⟩
  exact fun _ => rfl

/-- A wrap that finds no wrapper alive makes one of an object that can be
shown, and gives the warning that is due. -/
theorem acquireWrapper_of_shown (hr : s.isBridgeAlive r = true)
    (htype : s.heap.typeOf? o = some type) (hl : s.liveWrapper r o = (none, t))
    (hshown : s.exposure r type = .ok exposure) (own : Ownership) :
    ∃ u, (acquireWrapper r o own).run.run s =
        (.ok (⟨s.wrappers.size, o, type, exposure.package, own⟩, true), u) ∧
      s.Reported r type exposure u := by
  have hlooked := unaffected_of_looked hr hl
  have hsame := SameSetting.liveWrapper s r o
  rw [hl] at hsame
  have hshown' := (hsame.exposure type).trans hshown
  obtain ⟨-, hheap, hwrappers⟩ := t.noteExposure_frame r type exposure
  have hsize : s.wrappers.size = (t.noteExposure r type exposure).wrappers.size := by
    rw [hwrappers, hlooked.wrappers]
  have hreported : t.Reported r type exposure (t.noteExposure r type exposure) :=
    reported_noteExposure (hsame.alive.trans hr) fun package heq =>
      unresolved_of_inherited (heq ▸ hshown')
  have hadded : ∀ heap, s.Reported r type exposure (System.addWrapper
      { t.noteExposure r type exposure with heap } r o type exposure.package own).2 := fun heap =>
    have hkept := addWrapper_keeps { t.noteExposure r type exposure with heap } r o type
      exposure.package own
    hreported.of_same hsame hlooked.notices (hlooked.warned r) hkept.1 hkept.2
  rw [hsize]
  cases own with
  | owned =>
    exact ⟨_, acquireWrapper_of_owned htype hl hshown', hadded (t.noteExposure r type exposure).heap⟩
  | borrowed =>
    obtain ⟨object, hlive, -⟩ := Option.map_eq_some_iff.mp htype
    rw [← hlooked.heap, ← hheap] at hlive
    have hrun := acquireWrapper_of_borrowed htype hl hshown' (Heap.ref_of_live hlive)
    exact ⟨_, hrun, hadded _⟩

/-! ### The decision -/

/-- An object that can be shown gets a wrapper, and a new owned wrap then runs
a sink. -/
theorem wrapObject_of_shown (hr : s.isBridgeAlive r = true)
    (htype : s.heap.typeOf? o = some type) (hl : s.liveWrapper r o = (none, t))
    (hshown : s.exposure r type = .ok exposure) (g : Guest σ) (owned : Bool) :
    ∃ u, s.Reported r type exposure u ∧ (wrapObject g r o owned).run.run s =
      (.ok (.object ⟨s.wrappers.size, o, type, exposure.package, .ofOwned owned⟩),
        match s.sinkOnWrap? r o owned with
        | some sink => ((g.sink sink o).run u).2
        | none => u) := by
  obtain ⟨u, hrun, hreported⟩ := acquireWrapper_of_shown hr htype hl hshown (.ofOwned owned)
  refine ⟨u, hreported, ?_⟩
  unfold System.sinkOnWrap?
  rw [htype]
  dsimp only
  cases owned with
  | false => exact wrapObject_of_acquired hrun rfl
  | true =>
    have hsame := SameSetting.liveWrapper s r o
    rw [hl] at hsame
    have hacquired := acquireWrapper_of_owned htype hl ((hsame.exposure type).trans hshown)
    have hu := (Prod.mk.inj (hrun.symm.trans hacquired)).2
    rw [hl, hshown]
    exact wrapObject_of_fresh htype hl hshown hu g

theorem wrapObject_of_refused (g : Guest σ) {owned : Bool} {e : BridgeError}
    (h : (acquireWrapper r o (.ofOwned owned)).run.run s = (.error e, t)) :
    (wrapObject g r o owned).run.run s = (.error e, t) := run_bind_of_error s h

theorem decides_of_refused {g : Guest σ} {owned : Bool} {e : BridgeError}
    (hrun : (wrapObject g r o owned).run.run s = (.error e, t))
    (hshown : ∀ type exposure, s.heap.typeOf? o = some type → ¬s.ShownAs r type exposure)
    (hcannot : ∀ e', s.CannotShow r o e' ↔ e' = e) (hsame : s.Unaffected t) :
    System.Decides g s r o owned where
  succeeds := by
    rw [hrun]
    refine iff_of_false (fun ⟨h, hok⟩ => nomatch hok) ?_
    rintro ⟨type, exposure, htype, hshows⟩
    exact hshown type exposure htype hshows
  shows type exposure htype hshows := absurd hshows (hshown type exposure htype)
  refuses e' := by
    rw [hrun, hcannot]
    exact ⟨fun h => (Except.error.inj h).symm, fun h => congrArg Except.error h.symm⟩
  unaffected e' t' h := by
    rw [(Prod.mk.inj (hrun.symm.trans h)).2] at hsame
    exact hsame

theorem decides_of_shown {g : Guest σ} {owned : Bool} {u : System σ}
    (htype : s.heap.typeOf? o = some type) (hshows : s.ShownAs r type exposure)
    (honly : ∀ exposure', s.ShownAs r type exposure' → exposure' = exposure)
    (hcan : ∀ e, ¬s.CannotShow r o e) (hreported : s.Reported r type exposure u)
    (hrun : (wrapObject g r o owned).run.run s =
      (.ok (.object ⟨s.wrappers.size, o, type, exposure.package, .ofOwned owned⟩),
        match s.sinkOnWrap? r o owned with
        | some sink => ((g.sink sink o).run u).2
        | none => u)) : System.Decides g s r o owned where
  succeeds := by
    rw [hrun]
    exact iff_of_true ⟨_, rfl⟩ ⟨type, exposure, htype, hshows⟩
  shows type' exposure' htype' hshows' := by
    obtain rfl := Option.some.inj (htype.symm.trans htype')
    obtain rfl := honly exposure' hshows'
    exact ⟨u, hreported, hrun⟩
  refuses e := by
    rw [hrun]
    exact iff_of_false (fun h => nomatch h) (hcan e)
  unaffected e t' h := nomatch (Prod.mk.inj (hrun.symm.trans h)).1

/-- An object that is gone is not wrapped. -/
theorem decides_of_stale (htype : s.heap.typeOf? o = none) (g : Guest σ) (owned : Bool) :
    System.Decides g s r o owned := by
  have hrefused : (acquireWrapper r o (.ofOwned owned)).run.run s = _ :=
    acquireWrapper_of_stale htype
  have hrun := wrapObject_of_refused g hrefused
  refine decides_of_refused hrun (fun _ _ h => nomatch htype.symm.trans h) ?_ (.refl s)
  intro e'
  constructor
  · rintro (hstale | ⟨htype', -⟩ | ⟨htype', -⟩)
    · rfl
    all_goals exact nomatch htype.symm.trans htype'
  · rintro rfl
    exact .stale htype

/-- What decides, where no wrapper is found alive. -/
theorem decides_of_looked (hr : s.isBridgeAlive r = true) (hreg : (s.registryOf r).Sound)
    (ha : s.heap.types.Arises) (hl : s.liveWrapper r o = (none, t)) (g : Guest σ) (owned : Bool) :
    System.Decides g s r o owned := by
  cases htype : s.heap.typeOf? o with
  | none => exact decides_of_stale htype g owned
  | some type =>
    have hsame := SameSetting.liveWrapper s r o
    rw [hl] at hsame
    cases hshown : s.exposure r type with
    | error e =>
      have hrefused : (acquireWrapper r o (.ofOwned owned)).run.run s = _ :=
        acquireWrapper_of_refused htype hl ((hsame.exposure type).trans hshown)
      have hrun := wrapObject_of_refused g hrefused
      refine decides_of_refused hrun ?_ ?_ (unaffected_of_looked hr hl)
      · intro type' exposure htype' hshows
        obtain rfl := Option.some.inj (htype.symm.trans htype')
        exact nomatch hshown.symm.trans ((shownAs_iff hreg ha).mp hshows)
      · intro e'
        rw [cannotShow_iff hreg ha htype, hshown]
        constructor
        · rintro ⟨e'', rfl, heq⟩
          rw [Except.error.inj heq]
        · rintro rfl
          exact ⟨e, rfl, rfl⟩
    | ok exposure =>
      obtain ⟨u, hreported, hrun⟩ := wrapObject_of_shown hr htype hl hshown g owned
      refine decides_of_shown htype ((shownAs_iff hreg ha).mpr hshown) ?_ ?_ hreported hrun
      · intro exposure' hshows'
        exact (Except.ok.inj (hshown.symm.trans ((shownAs_iff hreg ha).mp hshows'))).symm
      · intro e
        rw [cannotShow_iff hreg ha htype, hshown]
        rintro ⟨e', -, heq⟩
        exact nomatch heq

end

/-! ## The law -/

/-- At every state that outside code can come to, the registrations, the
hierarchy and the configuration decide whether an object without a wrapper is
wrapped, and as what. In every run from there, each bridge gives one warning at
most about each type, and none if it is configured so. -/
theorem exposures_decided {c : Conduct} {s : World τ} (h : s.Reached c) {r : RuntimeId}
    (hr : s.isBridgeAlive r = true) :
    (∀ o, s.Unwrapped r o → ∀ (g : Guest (Outside τ)) owned, System.Decides g s r o owned) ∧
      ∀ t, Moves c s t → ∃ warnings, s.Reports t warnings := by
  refine ⟨fun o hfree g owned => ?_, fun t hmoves => hmoves.reports⟩
  obtain ⟨F, hs⟩ := h.holding
  obtain ⟨t, hl, -⟩ := liveWrapper_of_no_handle hs.balanced hr hfree.unheld hfree.unkept default
  exact decides_of_looked hr (h.registryOf_sound r) h.now.types_arise hl g owned

namespace Sample

def leafType : TypeId := TypeId.ofName "Leaf"

def leaf : ObjectId := ⟨1, 0⟩

/-- There is also an object of a type that is not registered, though its parent
is. -/
def grown : World Unit :=
  carryOut (.idle _) (deeds ++ [.arrange (.changeTypes (.define "Leaf" (some type))),
    .instantiate leafType]) (.start ())

theorem grown_moves (c : Conduct) : Moves c (World.start ()) grown :=
  Moves.carryOut Guest.idle_isOutside rfl _

theorem leaf_unwrapped : grown.Unwrapped bridge leaf where
  unheld w _ hhandle := by
    obtain ⟨entry, hentry, -⟩ := hhandle.1
    have hsize : grown.wrappers.size = 0 := by decide +kernel
    have hlt := SharedTable.lt_size_of_get? hentry
    omega
  unkept w hfind := by
    have hnone : (grown.bridge bridge).arena.find? leaf = none := by decide +kernel
    exact nomatch hnone.symm.trans hfind

end Sample

/-- The object is shown as an object of the parent, with a warning. -/
theorem sample_exposures_decided :
    ∃ t, Sample.grown.Reported Sample.bridge Sample.leafType (.inherited "Ui::Node") t ∧
      (wrapObject (.idle _) Sample.bridge Sample.leaf false).run.run Sample.grown =
        (.ok (.object ⟨0, Sample.leaf, Sample.leafType, "Ui::Node", .borrowed⟩), t) := by
  have hreached := (Sample.grown_moves .any).reached
  have hr : Sample.grown.isBridgeAlive Sample.bridge = true := by decide +kernel
  obtain ⟨hdecides, -⟩ := exposures_decided hreached hr
  have hshown : Sample.grown.exposure Sample.bridge Sample.leafType = .ok (.inherited "Ui::Node") := by
    decide +kernel
  have hshows := (shownAs_iff (hreached.registryOf_sound Sample.bridge)
    hreached.now.types_arise).mpr hshown
  have htype : Sample.grown.heap.typeOf? Sample.leaf = some Sample.leafType := by decide +kernel
  have hwrap := hdecides Sample.leaf Sample.leaf_unwrapped (.idle _) false
  obtain ⟨t, hreported, hrun⟩ := hwrap.shows _ _ htype hshows
  have hsink : Sample.grown.sinkOnWrap? Sample.bridge Sample.leaf false = none := by decide +kernel
  have hnumber : Sample.grown.wrappers.size = 0 := by decide +kernel
  rw [hsink, hnumber] at hrun
  exact ⟨t, hreported, hrun⟩

end NativeBridge
