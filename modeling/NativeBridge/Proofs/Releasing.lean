-- A release keeps the books in balance. Each step ends one holder or gives
-- one reference back, and passes on what was pledged to end with it. The end
-- of a bridge hands the references of its arena to the wrappers that stay.
import NativeBridge.Proofs.References

namespace NativeBridge

/-! ## Wrappers that take over a reference -/

/-- Which wrappers took over a reference. -/
theorem get?_foldl_handOver (ws : List ObjectWrapper) (t : SharedTable WrapperRecord) (n : Nat) :
    (ws.foldl System.handOver t).get? n = (t.get? n).map fun entry =>
      if n ∈ ws.map (·.number) then { entry with releases := true } else entry := by
  induction ws generalizing t with
  | nil => simp
  | cons w rest ih =>
    rw [List.foldl_cons, ih, System.handOver, SharedTable.get?_modify]
    by_cases hw : n = w.number
    · subst hw
      cases t.get? w.number <;> simp
    · simp [hw]

@[simp] theorem holders_foldl_handOver (ws : List ObjectWrapper) (t : SharedTable WrapperRecord)
    (n : Nat) : (ws.foldl System.handOver t).holders n = t.holders n := by
  induction ws generalizing t with
  | nil => rfl
  | cons w rest ih => rw [List.foldl_cons, ih, System.handOver, SharedTable.holders_modify]

/-- What wrappers pledge are references to objects. -/
theorem object_of_mem_pledges {t : Release} {table : SharedTable WrapperRecord}
    (ht : t ∈ table.pledges WrapperRecord.pledge) : ∃ o, t = .object o := by
  obtain ⟨n, entry, -, -, hpledge⟩ := SharedTable.mem_pledges.mp ht
  unfold WrapperRecord.pledge at hpledge
  split at hpledge
  · exact ⟨_, List.mem_singleton.mp hpledge⟩
  · exact absurd hpledge List.not_mem_nil

/-- Whatever else is pledged does not come from wrappers. -/
theorem Books.mem_pledged_wrappers {b : Books} {wrappers : SharedTable WrapperRecord} {t : Release}
    (ht : t ∈ ({ b with wrappers } : Books).pledged) : (∃ o, t = .object o) ∨ t ∈ b.pledged := by
  simp only [Books.pledged, Multiset.mem_add] at ht ⊢
  rcases ht with (((ht | ht) | ht) | ht) | ht
  · exact Or.inr (Or.inl (Or.inl (Or.inl (Or.inl ht))))
  · exact Or.inl (object_of_mem_pledges ht)
  · exact Or.inr (Or.inl (Or.inl (Or.inr ht)))
  · exact Or.inr (Or.inl (Or.inr ht))
  · exact Or.inr (Or.inr ht)

theorem tally_wrapper_pledges {a : Account} (ha : a.IsShared) (table : SharedTable WrapperRecord) :
    tally a (table.pledges WrapperRecord.pledge) = 0 := by
  by_contra hne
  obtain ⟨t, ht, hta⟩ := exists_mem_of_tally hne
  obtain ⟨o, rfl⟩ := object_of_mem_pledges ht
  rw [← hta] at ha
  exact ha

/-- Wrappers that took over no reference before pledge one each. -/
theorem pledges_foldl_handOver (ws : List ObjectWrapper) (t : SharedTable WrapperRecord)
    (hnodup : (ws.map (·.number)).Nodup)
    (hws : ∀ w ∈ ws, t.holders w.number ≠ 0 ∧
      ∃ entry, t.get? w.number = some entry ∧ entry.wrapper = w ∧ entry.releases = false) :
    (ws.foldl System.handOver t).pledges WrapperRecord.pledge =
      t.pledges WrapperRecord.pledge + (ws.map fun w => Release.object w.object) := by
  induction ws generalizing t with
  | nil => simp
  | cons w rest ih =>
    rw [List.map_cons, List.nodup_cons] at hnodup
    obtain ⟨hheld, entry, hentry, hw, hreleases⟩ := hws w List.mem_cons_self
    have hmodify := SharedTable.pledges_modify WrapperRecord.pledge
      (fun entry => { entry with releases := true }) hheld hentry
    simp only [WrapperRecord.pledge, hreleases, hw, if_true, Bool.false_eq_true, if_false,
      Multiset.coe_nil, zero_add] at hmodify
    have hrest : ∀ w' ∈ rest, (System.handOver t w).holders w'.number ≠ 0 ∧
        ∃ entry, (System.handOver t w).get? w'.number = some entry ∧ entry.wrapper = w' ∧
          entry.releases = false := by
      intro w' hw'
      obtain ⟨hheld', entry', hentry', hrest'⟩ := hws w' (List.mem_cons_of_mem w hw')
      have hne : w'.number ≠ w.number := by
        intro heq
        apply hnodup.1
        rw [← heq]
        exact List.mem_map_of_mem hw'
      refine ⟨by rwa [System.handOver, SharedTable.holders_modify], entry', ?_, hrest'⟩
      rw [System.handOver, SharedTable.get?_modify, if_neg hne, hentry']
    rw [List.foldl_cons, ih _ hnodup.2 hrest, List.map_cons, ← Multiset.cons_coe,
      ← Multiset.singleton_add, System.handOver, ← hmodify, Multiset.coe_singleton]
    abel

/-! ## The end of a bridge -/

theorem flatMap_idleReleases (ws : List ObjectWrapper) :
    (ws.flatMap idleReleases : Multiset Release) =
      ws.map Release.wrapper + ws.map fun w => Release.defensive w.object := by
  induction ws with
  | nil => rfl
  | cons w rest ih =>
    simp only [List.flatMap_cons, List.map_cons, ← Multiset.coe_add, ← Multiset.cons_coe, ih,
      idleReleases, ← Multiset.singleton_add, Multiset.coe_nil]
    abel

/-- Both kinds of references count for the object. -/
theorem tally_map_object (a : Account) (ws : List ObjectWrapper) :
    tally a (ws.map fun w => Release.object w.object) =
      tally a (ws.map fun w => Release.defensive w.object) := by
  simp only [tally, Multiset.coe_countP, List.countP_map]
  rfl

theorem tally_map_defensive {a : Account} (ha : a.IsShared) (ws : List ObjectWrapper) :
    tally a (ws.map fun w => Release.defensive w.object) = 0 := by
  by_contra hne
  obtain ⟨t, ht, hta⟩ := exists_mem_of_tally hne
  obtain ⟨w, -, rfl⟩ := List.mem_map.mp (Multiset.mem_coe.mp ht)
  rw [← hta] at ha
  exact ha

namespace Books

/-- The books after the end of a bridge, with the wrappers that stay. -/
def endBridge (b : Books) (r : RuntimeId) (kept : List ObjectWrapper) : Books :=
  { b with
    wrappers := kept.foldl System.handOver b.wrappers
    arenas := (b.arenas.drop r.number).modify r.number fun _ => {} }

section

variable {b : Books} {r : RuntimeId} {kept : List ObjectWrapper}

theorem get?_endBridge_wrappers {n : Nat} {entry : WrapperRecord}
    (h : (b.endBridge r kept).wrappers.get? n = some entry) :
    ∃ old, b.wrappers.get? n = some old ∧ old.wrapper = entry.wrapper ∧
      old.maker = entry.maker ∧
      entry.releases = (old.releases || decide (n ∈ kept.map (·.number))) := by
  rw [endBridge, get?_foldl_handOver] at h
  obtain ⟨old, hold, rfl⟩ := Option.map_eq_some_iff.mp h
  refine ⟨old, hold, ?_⟩
  by_cases hn : n ∈ kept.map (·.number)
  · simp [hn]
  · simp [hn]

theorem retains_endBridge : b.Retains (b.endBridge r kept) := by
  intro n old hold
  rw [endBridge, get?_foldl_handOver, hold]
  refine ⟨_, rfl, ?_⟩
  split <;> exact ⟨rfl, rfl⟩

theorem get?_endBridge_arenas (n : Nat) :
    (b.endBridge r kept).arenas.get? n =
      if n = r.number then (b.arenas.get? n).map fun _ => {} else b.arenas.get? n := by
  simp [endBridge, SharedTable.get?_modify]

theorem holders_endBridge_arenas (n : Nat) :
    (b.endBridge r kept).arenas.holders n =
      if n = r.number then b.arenas.holders n - 1 else b.arenas.holders n := by
  simp [endBridge, SharedTable.holders_drop]

theorem Knows.endBridge {t : Release} (h : b.Knows t) : (b.endBridge r kept).Knows t := by
  cases t with
  | wrapper w => exact retains_endBridge.knows_wrapper h
  | _ => exact h

theorem Formed.endBridge (h : b.Formed) : (b.endBridge r kept).Formed where
  numbered n entry hn := by
    obtain ⟨old, hold, hw, hmaker, -⟩ := get?_endBridge_wrappers hn
    have hnumbered := h.numbered n old hold
    rw [← hw, ← hmaker]
    simpa [Books.endBridge] using hnumbered
  filed m a hm := by
    rw [get?_endBridge_arenas] at hm
    split at hm
    · obtain ⟨-, -, rfl⟩ := Option.map_eq_some_iff.mp hm
      exact ⟨List.nodup_nil, fun o w hw => absurd hw List.not_mem_nil⟩
    · exact retains_endBridge.filed (h.filed m a hm)
  sorted := h.sorted

theorem Stands.endBridge_own {c : Conduct} {w : ObjectWrapper} {entry : WrapperRecord}
    (hlast : b.arenas.holders r.number = 1) (hmaker : entry.maker.number = r.number)
    (hreleases : entry.releases = true) : (b.endBridge r kept).Stands c w entry := by
  have hzero : (b.endBridge r kept).arenas.holders entry.maker.number = 0 := by
    rw [holders_endBridge_arenas, if_pos hmaker, hmaker, hlast]
  refine ⟨fun hused => absurd hzero hused, ?_, fun _ => hreleases⟩
  intro _
  simp [hreleases, hzero]

theorem Stands.endBridge_other {c : Conduct} {w : ObjectWrapper} {old entry : WrapperRecord}
    (hr : old.maker.number ≠ r.number) (hmaker : old.maker = entry.maker)
    (hreleases : entry.releases = old.releases) (h : b.Stands c w old) :
    (b.endBridge r kept).Stands c w entry := by
  have hholders : (b.endBridge r kept).arenas.holders entry.maker.number =
      b.arenas.holders old.maker.number := by
    rw [holders_endBridge_arenas, ← hmaker, if_neg hr]
  refine ⟨?_, ?_, ?_⟩
  · intro hused
    rw [hholders] at hused
    rw [get?_endBridge_arenas, ← hmaker, if_neg hr]
    exact h.listed hused
  · rw [hholders, hreleases]
    exact h.owning
  · rw [hreleases]
    exact h.gives

end

end Books

/-- What the end of a bridge releases: the wrappers that only the arena holds,
with their references, and the arena's holders of those that stay. -/
def Arena.released (a : Arena) (isKept : ObjectWrapper → Bool) : List Release :=
  (a.borrowed.filter (!isKept ·)).flatMap idleReleases ++
    (a.borrowed.filter isKept).map Release.wrapper

namespace Balanced

variable {c : Conduct} {due held : Multiset Release} {b : Books}

section

variable {r : RuntimeId} {a : Arena} {isKept : ObjectWrapper → Bool}

/-- What the end of a bridge releases, and what it leaves to its wrappers,
is what its arena pledged. -/
theorem arena_pledge (a : Arena) (isKept : ObjectWrapper → Bool) :
    (a.pledge : Multiset Release) =
      a.released isKept + (a.borrowed.filter isKept).map fun w => Release.defensive w.object := by
  rw [Arena.pledge, ← flatMap_filter_add idleReleases isKept,
    flatMap_idleReleases (a.borrowed.filter isKept), Arena.released, ← Multiset.coe_add]
  abel

theorem arenas_pledges_endBridge (hlast : b.arenas.holders r.number = 1)
    (ha : b.arenas.get? r.number = some a) (kept : List ObjectWrapper) :
    b.arenas.pledges Arena.pledge =
      a.pledge + (b.endBridge r kept).arenas.pledges Arena.pledge := by
  have hzero : (b.arenas.drop r.number).holders r.number = 0 := by
    rw [SharedTable.holders_drop, if_pos rfl, hlast]
  have hmodify := SharedTable.pledges_modify_of_eq Arena.pledge (fun _ => {})
    (Or.inl hzero)
  rw [Books.endBridge, hmodify]
  exact SharedTable.pledges_drop_last Arena.pledge hlast ha

theorem mem_released {w : ObjectWrapper} (hw : w ∈ a.borrowed) :
    Release.wrapper w ∈ a.released isKept := by
  rw [Arena.released, List.mem_append]
  cases hk : isKept w with
  | true => exact Or.inr (List.mem_map_of_mem (List.mem_filter.mpr ⟨hw, hk⟩))
  | false =>
    refine Or.inl (List.mem_flatMap.mpr ⟨w, ?_, List.mem_cons_self⟩)
    exact List.mem_filter.mpr ⟨hw, by rw [hk]; rfl⟩

theorem mem_pledged_of_mem_released (hlast : b.arenas.holders r.number = 1)
    (ha : b.arenas.get? r.number = some a) {t : Release} (ht : t ∈ a.released isKept) :
    t ∈ b.pledged := by
  have hmem : t ∈ (a.pledge : Multiset Release) := by
    rw [arena_pledge a isKept]
    exact Multiset.mem_add.mpr (Or.inl ht)
  rw [Books.pledged, arenas_pledges_endBridge hlast ha []]
  exact Multiset.mem_add.mpr (Or.inr (Multiset.mem_add.mpr (Or.inl hmem)))

theorem pledged_endBridge (hlast : b.arenas.holders r.number = 1)
    (ha : b.arenas.get? r.number = some a) (kept : List ObjectWrapper) :
    b.pledged + (kept.foldl System.handOver b.wrappers).pledges WrapperRecord.pledge =
      a.pledge + b.wrappers.pledges WrapperRecord.pledge + (b.endBridge r kept).pledged := by
  rw [Books.pledged, arenas_pledges_endBridge hlast ha kept, Books.pledged]
  simp only [Books.endBridge]
  abel

/-- Whatever is pledged after the end of a bridge was pledged before, but for
references. -/
theorem mem_pledged_endBridge (hlast : b.arenas.holders r.number = 1)
    (ha : b.arenas.get? r.number = some a) {kept : List ObjectWrapper} {t : Release}
    (ht : t ∈ (b.endBridge r kept).pledged) : (∃ o, t = .object o) ∨ t ∈ b.pledged := by
  let ended : Books := { b with arenas := (b.endBridge r kept).arenas }
  have hpledged : b.pledged = a.pledge + ended.pledged := by
    rw [Books.pledged, arenas_pledges_endBridge hlast ha kept, Books.pledged]
    abel
  rcases Books.mem_pledged_wrappers (b := ended) ht with ho | hmem
  · exact Or.inl ho
  · rw [hpledged]
    exact Or.inr (Multiset.mem_add.mpr (Or.inr hmem))

/-- Only those that stay were handed references, each its own. -/
theorem tally_handOver (h : Balanced c (.bridge r ::ₘ due) held b)
    (ha : b.arenas.get? r.number = some a) (hlast : b.arenas.holders r.number = 1)
    (hkept : ∀ w, isKept w = true → 1 < b.wrappers.holders w.number) (acc : Account)
    (hacc : acc.IsShared ∨ c = .fair) :
    tally acc (((a.borrowed.filter isKept).foldl System.handOver b.wrappers).pledges
        WrapperRecord.pledge) =
      tally acc (b.wrappers.pledges WrapperRecord.pledge) +
        tally acc ((a.borrowed.filter isKept).map fun w => Release.defensive w.object) := by
  rcases hacc with hacc | hfair
  · rw [tally_wrapper_pledges hacc, tally_wrapper_pledges hacc, tally_map_defensive hacc]
  · have hfiled := h.formed.filed r.number a ha
    have hsub : (a.borrowed.filter isKept).Sublist a.wrappers :=
      List.filter_sublist.trans List.filter_sublist
    rw [pledges_foldl_handOver, tally_add, tally_map_object]
    · exact (hsub.map _).nodup hfiled.numbers_nodup
    · intro w hw
      rw [List.mem_filter] at hw
      have hborrowed : w.ownership = .borrowed := by
        simpa using (List.mem_filter.mp hw.1).2
      obtain ⟨-, entry, hentry, rfl, hmaker⟩ := hfiled.of_mem (List.mem_filter.mp hw.1).1
      have hholders := hkept _ hw.2
      have hmem : Release.wrapper entry.wrapper ∈ b.pledged :=
        Books.mem_pledged_of_mem_borrowed (by omega) ha hw.1
      have hstands := h.standing entry.wrapper (Multiset.mem_add.mpr (Or.inr hmem)) entry hentry
      refine ⟨by omega, entry, hentry, rfl, ?_⟩
      have howning := hstands.owning hfair
      rw [hborrowed, hmaker, hlast] at howning
      simpa using howning

section

variable (h : Balanced c (.bridge r ::ₘ due) held b) (ha : b.arenas.get? r.number = some a)
  (hlast : b.arenas.holders r.number = 1)
  (hkept : ∀ w, isKept w = true ↔ 1 < b.wrappers.holders w.number)

include h ha hlast hkept

/-- What counts for an account stays the same, except for the bridge itself. -/
theorem tally_endBridge (acc : Account) (hacc : acc.IsShared ∨ c = .fair) :
    tally acc (.bridge r ::ₘ due + (held + b.pledged)) =
      tally acc (.bridge r ::ₘ (a.released isKept + due +
        (held + (b.endBridge r (a.borrowed.filter isKept)).pledged))) := by
  have hhanded := h.tally_handOver ha hlast (fun w => (hkept w).mp) acc hacc
  have hsum := congrArg (tally acc) (pledged_endBridge hlast ha (a.borrowed.filter isKept))
  rw [arena_pledge a isKept] at hsum
  simp only [tally_add, tally_cons] at hsum ⊢
  omega

theorem counts_endBridge : (b.endBridge r (a.borrowed.filter isKept)).Counts
    (a.released isKept + due + (held + (b.endBridge r (a.borrowed.filter isKept)).pledged)) where
  known t ht := by
    have hknown := h.counts.known
    simp only [Multiset.mem_add, Multiset.mem_cons] at ht hknown
    rcases ht with (ht | ht) | ht | ht
    · exact (hknown t (Or.inr (Or.inr (mem_pledged_of_mem_released hlast ha ht)))).endBridge
    · exact (hknown t (Or.inl (Or.inr ht))).endBridge
    · exact (hknown t (Or.inr (Or.inl ht))).endBridge
    · rcases mem_pledged_endBridge hlast ha ht with ⟨o, rfl⟩ | ht
      · trivial
      · exact (hknown t (Or.inr (Or.inr ht))).endBridge
  counted acc hacc := by
    have hcounted := h.counts.counted acc hacc
    rw [tally_endBridge h ha hlast hkept acc (Or.inl hacc), tally_cons] at hcounted
    have hdrop : (b.endBridge r (a.borrowed.filter isKept)).holders acc =
        (b.drop (.bridge r.number)).holders acc := by
      cases acc <;> simp [Books.endBridge, Books.holders, Books.drop, Books.refs]
    rw [hdrop, Books.holders_drop (a := .bridge r.number) trivial, hcounted]
    exact Nat.add_sub_cancel _ _

/-- A borrowed wrapper that someone else holds too is one that stays. -/
theorem mem_kept_of_held {w : ObjectWrapper} (hborrowed : w ∈ a.borrowed)
    (hw : .wrapper w ∈ held + (b.endBridge r (a.borrowed.filter isKept)).pledged) :
    w ∈ a.borrowed.filter isKept := by
  have hcounted := h.counts.counted (.wrapper w.number) trivial
  rw [tally_endBridge h ha hlast hkept (.wrapper w.number) (Or.inl trivial)] at hcounted
  have hfirst : tally (.wrapper w.number) (a.released isKept) ≠ 0 :=
    tally_ne_zero_of_mem (t := .wrapper w) (mem_released hborrowed)
  have hsecond : tally (.wrapper w.number)
      (held + (b.endBridge r (a.borrowed.filter isKept)).pledged) ≠ 0 :=
    tally_ne_zero_of_mem (t := .wrapper w) hw
  -- The arena and whoever still holds the wrapper make two holders.
  have hholders : 1 < b.wrappers.holders w.number := by
    simp only [Books.holders, tally_add, tally_cons] at hcounted hsecond
    omega
  exact List.mem_filter.mpr ⟨hborrowed, (hkept w).mpr hholders⟩

omit hlast hkept in
/-- What stays is of this bridge. -/
theorem not_kept_of_maker {n : Nat} {entry : WrapperRecord} (hentry : b.wrappers.get? n = some entry)
    (hr : entry.maker.number ≠ r.number) : n ∉ (a.borrowed.filter isKept).map (·.number) := by
  intro hmem
  obtain ⟨w, hw, rfl⟩ := List.mem_map.mp hmem
  have hborrowed := (List.mem_filter.mp (List.mem_filter.mp hw).1).1
  obtain ⟨-, entry', hentry', -, hmaker⟩ := (h.formed.filed r.number a ha).of_mem hborrowed
  rw [hentry] at hentry'
  exact hr (by rw [Option.some.inj hentry', hmaker])

theorem stands_endBridge {w : ObjectWrapper} {entry : WrapperRecord}
    (hw : .wrapper w ∈ held + (b.endBridge r (a.borrowed.filter isKept)).pledged)
    (hentry : (b.endBridge r (a.borrowed.filter isKept)).wrappers.get? w.number = some entry) :
    (b.endBridge r (a.borrowed.filter isKept)).Stands c w entry := by
  have hmem : .wrapper w ∈ held + b.pledged := by
    rcases Multiset.mem_add.mp hw with hw | hw
    · exact Multiset.mem_add.mpr (Or.inl hw)
    · rcases mem_pledged_endBridge hlast ha hw with ⟨o, ho⟩ | hw
      · exact Release.noConfusion ho
      · exact Multiset.mem_add.mpr (Or.inr hw)
  obtain ⟨old, hold, -, hmaker, hreleases⟩ := Books.get?_endBridge_wrappers hentry
  have hstands := h.standing w hmem old hold
  by_cases hr : old.maker.number = r.number
  · have hlisted := hstands.listed (by rw [hr, hlast]; exact Nat.one_ne_zero)
    rw [hr, ha] at hlisted
    obtain ⟨a', ha', hfind⟩ := hlisted
    obtain rfl := Option.some.inj ha'
    apply Books.Stands.endBridge_own hlast (by rw [← hmaker, hr])
    rw [hreleases]
    cases hownership : w.ownership with
    | owned => rw [hstands.gives hownership, Bool.true_or]
    | borrowed =>
      have hborrowed : w ∈ a.borrowed :=
        List.mem_filter.mpr ⟨Arena.Filed.mem_of_find? hfind, by simp [hownership]⟩
      have hstays := mem_kept_of_held h ha hlast hkept hborrowed hw
      rw [decide_eq_true (List.mem_map_of_mem hstays), Bool.or_true]
  · apply Books.Stands.endBridge_other hr hmaker ?_ hstands
    rw [hreleases, decide_eq_false (not_kept_of_maker h ha hold hr), Bool.or_false]

/-- With its last holder a bridge ends. Wrappers that handles still hold
take over the reference of the arena, and the others are released. -/
theorem endBridge : Balanced c (a.released isKept + due) held
    (b.endBridge r (a.borrowed.filter isKept)) := by
  refine ⟨h.formed.endBridge, counts_endBridge h ha hlast hkept,
    fun w hw entry hentry => stands_endBridge h ha hlast hkept hw hentry, ?_, ?_⟩
  · intro hc hfull
    have hexact := h.exact hc hfull
    refine ⟨?_, hexact.positive, hexact.bounded, hexact.in_time⟩
    intro o
    have hcounted := hexact.counted o
    rw [tally_endBridge h ha hlast hkept _ (Or.inr hc),
      tally_cons_of_isShared (t := .bridge r) trivial] at hcounted
    exact hcounted
  · apply h.single.mono
    intro n entry hn hused
    obtain ⟨old, hold, hw, hmaker, -⟩ := Books.get?_endBridge_wrappers hn
    refine ⟨?_, old, hold, hw, hmaker⟩
    simpa [Books.endBridge] using hused

end

end

end Balanced

/-! ## Releases -/

namespace System

variable {σ : Type} {c : Conduct} {due held : Multiset Release} {s : System σ} {t : Release}

theorem releaseReference_balanced (h : Balanced c (t ::ₘ due) held s.books) {o : ObjectId}
    (ht : t.account = .object o) {report : ObjectId → NativeError → Notice}
    (hreport : ∀ e, (report o e).isLateRelease = true) :
    Balanced c ((s.releaseReference o report).1 + due) held
      (s.releaseReference o report).2.books := by
  unfold releaseReference
  rcases hl : s.heap.live? o with _ | object
  · rw [Heap.unref_of_stale hl]
    have hbooks : (s.note (report o (.staleObject o))).books = { s.books with isLate := true } := by
      rw [books_note, hreport, Bool.or_true]
    simp only [hbooks, Multiset.coe_nil, zero_add]
    exact h.unref_stale ht hl
  · rw [Heap.unref_of_live hl]
    by_cases hr : object.refs - 1 = 0
    · rw [if_pos hr]
      exact h.unref_last ht hl hr
    · rw [if_neg hr]
      have hmore := h.unref_more ht hl hr
      have hnil : (handlerReleases [] + due : Multiset Release) = due := zero_add due
      simp only [hnil]
      exact hmore

/-- A holder of a shared thing that ends, and what follows. -/
theorem releaseOne_eq_drop (ht : s.books.Knows t) (hs : t.account.IsShared)
    (hbridge : ∀ n, t.account = .bridge n → s.books.arenas.holders n ≠ 1) :
    (s.releaseOne t).1 =
        (if s.books.holders t.account = 1 then s.books.pledgeOf t.account else []) ∧
      (s.releaseOne t).2.books = s.books.drop t.account := by
  cases t with
  | object o => exact absurd hs id
  | defensive o => exact absurd hs id
  | wrapper w =>
    obtain ⟨entry, hentry, rfl⟩ := ht
    have hrecord : s.wrappers.get? entry.wrapper.number = some entry := hentry
    have hpledge : s.books.pledgeOf (.wrapper entry.wrapper.number) = entry.pledge := by
      simp [Books.pledgeOf, books, hrecord]
    have hgives : s.givesBack entry.wrapper = entry.releases := by simp [givesBack, hrecord]
    simp only [releaseOne, Release.account, hgives, hpledge, WrapperRecord.pledge]
    by_cases hlast : s.wrappers.holders entry.wrapper.number = 1
    · cases hr : entry.releases <;> simp [Books.holders, Books.drop, books, hlast]
    · simp [Books.holders, Books.drop, books, hlast]
  | boxed w =>
    obtain ⟨told, htold, hdone⟩ := s.releaseOne_boxed w
    have hearly : told.any (·.isLateRelease) = false := by
      rw [List.any_eq_false]
      intro n hn
      obtain ⟨name, rfl⟩ := htold n hn
      exact Bool.false_ne_true
    rw [hdone]
    refine ⟨(ite_self []).symm, ?_⟩
    simp [books, Books.drop, Release.account, hearly]
  | callable x => exact ⟨(ite_self []).symm, rfl⟩
  | closure x =>
    have hrecord : s.closures.get? x.id.number = some x := ht
    have hpledge : s.books.pledgeOf (.closure x.id.number) = x.releases := by
      simp [Books.pledgeOf, books, hrecord]
    simp only [releaseOne, Release.account, hpledge]
    by_cases hlast : s.closures.holders x.id.number = 1 <;>
      simp [Books.holders, Books.drop, books, hlast]
  | callback x =>
    have hrecord : s.callbacks.get? x.number = some x := ht
    have hpledge : s.books.pledgeOf (.callback x.number) = x.releases := by
      simp [Books.pledgeOf, books, hrecord]
    simp only [releaseOne, Release.account, hpledge]
    by_cases hlast : s.callbacks.holders x.number = 1 <;>
      simp [Books.holders, Books.drop, books, hlast]
  | bridge r =>
    have hlast : s.bridges.holders r.number ≠ 1 := by
      have hne := hbridge r.number rfl
      simpa [books] using hne
    simp [releaseOne, Release.account, Books.holders, Books.drop, books, hlast]

theorem releaseOne_last_bridge {r : RuntimeId} {a : Arena}
    (hlast : s.books.arenas.holders r.number = 1) (ha : s.books.arenas.get? r.number = some a) :
    let isKept := fun w : ObjectWrapper => decide (1 < s.wrappers.holders w.number)
    (s.releaseOne (.bridge r)).1 = a.released isKept ∧
      (s.releaseOne (.bridge r)).2.books = s.books.endBridge r (a.borrowed.filter isKept) := by
  intro isKept
  have hholders : s.bridges.holders r.number = 1 := by simpa [books] using hlast
  have harena :
      (({ s with bridges := s.bridges.drop r.number } : System σ).bridge r).arena = a := by
    have hmap : (s.bridges.get? r.number).map (·.arena) = some a := by simpa [books] using ha
    obtain ⟨bridge, hbridge, rfl⟩ := Option.map_eq_some_iff.mp hmap
    simp [System.bridge, hbridge]
  simp only [releaseOne, hholders, beq_self_eq_true, if_true, releaseBridge, harena,
    List.partition_eq_filter_filter]
  refine ⟨rfl, ?_⟩
  rw [books_modifyBridge (g := fun _ => {}) _ _ fun _ => rfl]
  simp [books, Books.endBridge, isKept]

theorem releaseOne_balanced (h : Balanced c (t ::ₘ due) held s.books) :
    Balanced c ((s.releaseOne t).1 + due) held (s.releaseOne t).2.books := by
  have hknown : s.books.Knows t := h.counts.known t (by simp)
  have hdropped (hs : t.account.IsShared)
      (hbridge : ∀ n, t.account = .bridge n → s.books.arenas.holders n ≠ 1) :
      Balanced c ((s.releaseOne t).1 + due) held (s.releaseOne t).2.books := by
    obtain ⟨hmore, hbooks⟩ := releaseOne_eq_drop hknown hs hbridge
    rw [hmore, hbooks]
    exact h.drop hs hbridge
  cases t with
  | object o => exact releaseReference_balanced h rfl fun _ => rfl
  | defensive o => exact releaseReference_balanced h rfl fun _ => rfl
  | bridge r =>
    by_cases hlast : s.books.arenas.holders r.number = 1
    · obtain ⟨a, ha⟩ := SharedTable.get?_of_holders (t := s.books.arenas) (n := r.number) (by omega)
      obtain ⟨hmore, hbooks⟩ := releaseOne_last_bridge hlast ha
      rw [hmore, hbooks]
      exact h.endBridge ha hlast fun w => by simp [books]
    · apply hdropped trivial
      rintro n hn
      obtain rfl := Account.bridge.inj hn
      exact hlast
  | _ => exact hdropped trivial fun n hn => Account.noConfusion hn

/-- A release settles what is due. -/
theorem release_balanced {due : List Release} (h : Balanced c due held s.books) :
    Balanced c 0 held (s.release due).books := by
  apply release_keeps (P := fun due s => Balanced c due held s.books) ?_ due s h
  intro first rest s h
  rw [← Multiset.cons_coe] at h
  rw [← Multiset.coe_add]
  exact releaseOne_balanced h

/-- Releases are no business of the dynamic program. -/
theorem releaseOne_guest (s : System σ) (t : Release) : (s.releaseOne t).2.guest = s.guest := by
  have hreference (o : ObjectId) (report : ObjectId → NativeError → Notice) :
      (s.releaseReference o report).2.guest = s.guest := by
    unfold releaseReference
    split <;> rfl
  cases t with
  | object o => exact hreference o _
  | defensive o => exact hreference o _
  | callable x => rfl
  | boxed w =>
    obtain ⟨told, -, hdone⟩ := s.releaseOne_boxed w
    rw [hdone]
  | bridge r =>
    simp only [releaseOne]
    split <;> rfl
  | _ =>
    simp only [releaseOne]
    split <;> rfl

@[simp] theorem release_guest (s : System σ) (due : List Release) :
    (s.release due).guest = s.guest := by
  apply release_keeps (P := fun _ t => t.guest = s.guest) ?_ due s rfl
  intro first rest t h
  rw [releaseOne_guest, h]

end System

end NativeBridge
