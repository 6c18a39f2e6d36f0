-- Rounds of sweeps. A sweep goes through its arena once. It takes away every
-- entry that has no handle when it begins, and no other; so an entry that
-- loses its last handle by what the sweep releases is left to the next one.
-- Every sweep but the last of a row makes the arena smaller.
import NativeBridge.Proofs.CallbackClosures
import NativeBridge.Proofs.ReferenceCounts
import NativeBridge.Proofs.WrapperIdentity

namespace NativeBridge

theorem SharedTable.modify_eq_self {α : Type} {t : SharedTable α} {n : Nat} {f : α → α}
    (h : ∀ x, t.get? n = some x → f x = x) : t.modify n f = t := by
  unfold modify
  congr 1
  apply Array.ext_getElem?
  intro i
  rw [Array.getElem?_modify]
  split
  · rename_i hi
    subst hi
    cases hcell : t.cells[n]? with
    | none => rfl
    | some cell =>
      have hsame := h cell.content (by simp [get?, hcell])
      simp [hsame]
  · rfl

section

variable {σ : Type} {c : Conduct} {H : Multiset Release} {s : System σ} {r : RuntimeId}
  {o : ObjectId} {w : ObjectWrapper}

/-! ## Entries without handles -/

theorem System.filed_of_alive (hbalanced : Balanced c 0 H s.books)
    (hr : s.isBridgeAlive r = true) : (s.bridge r).arena.Filed s.books r.number :=
  hbalanced.formed.filed r.number _ (System.arena_of_inUse (System.isBridgeAlive_iff.mp hr))

/-- A sweep takes an entry away if no handle stands for it. -/
theorem System.isSwept_iff (hbalanced : Balanced c 0 H s.books) (hr : s.isBridgeAlive r = true)
    (hw : w ∈ (s.bridge r).arena.wrappers) : s.isSwept w = true ↔ s.handles r w = 0 := by
  unfold System.isSwept System.isIdle System.isLive System.handles
  cases hown : w.ownership with
  | owned =>
    have hnot : w ∉ (s.bridge r).arena.borrowed := by
      intro hmem
      have hborrowed := (List.mem_filter.mp hmem).2
      simp [hown] at hborrowed
    rw [List.count_eq_zero.mpr hnot]
    simp
  | borrowed =>
    have hmem : w ∈ (s.bridge r).arena.borrowed := List.mem_filter.mpr ⟨hw, by simp [hown]⟩
    have hused : s.books.arenas.holders r.number ≠ 0 := System.isBridgeAlive_iff.mp hr
    have hnodup : (s.bridge r).arena.borrowed.Nodup :=
      (List.Nodup.of_map _ (filed_of_alive hbalanced hr).numbers_nodup).filter _
    -- The arena is one holder of what it keeps.
    have hpledged := Books.mem_pledged_of_mem_borrowed hused (System.arena_of_inUse hused) hmem
    have hheld : s.wrappers.holders w.number ≠ 0 := by
      have hcounted := hbalanced.counts.counted (.wrapper w.number) trivial
      have hall : Release.wrapper w ∈ 0 + (H + s.books.pledged) := by
        rw [zero_add]
        exact Multiset.mem_add.mpr (Or.inr hpledged)
      have htally := tally_ne_zero_of_mem hall
      rw [Release.account, ← hcounted] at htally
      exact htally
    rw [List.count_eq_one_of_mem hnodup hmem]
    simp only [beq_self_eq_true, Bool.true_and, Bool.true_or, Bool.not_true, Bool.or_false,
      beq_iff_eq]
    omega

/-- Whether every entry of the arena of a bridge has a handle. -/
def System.IsSettled (s : System σ) (r : RuntimeId) : Prop :=
  ∀ o w, (s.bridge r).arena.find? o = some w → s.handles r w ≠ 0

theorem System.isSettled_iff (hbalanced : Balanced c 0 H s.books)
    (hr : s.isBridgeAlive r = true) :
    s.IsSettled r ↔ ∀ w ∈ (s.bridge r).arena.wrappers, s.isSwept w = false := by
  constructor
  · intro hsettled w hw
    have hfind := ((filed_of_alive hbalanced hr).of_mem hw).1
    rw [← Bool.not_eq_true, isSwept_iff hbalanced hr hw]
    exact hsettled w.object w hfind
  · intro hall o w hfind hnone
    have hw := Arena.Filed.mem_of_find? hfind
    have hswept := (isSwept_iff hbalanced hr hw).mpr hnone
    rw [hall w hw] at hswept
    exact Bool.noConfusion hswept

/-! ## One sweep -/

theorem isBridgeAlive_sweep (hr : s.isBridgeAlive r = true) :
    ((sweep r).run s).2.isBridgeAlive r = true := by
  unfold System.isBridgeAlive
  rw [bridges_sweep, System.dropSwept, System.modifyBridge, SharedTable.holders_modify]
  exact hr

/-- The borrowed wrappers of a bridge that have no handle. -/
def System.unhandled (s : System σ) (r : RuntimeId) : List ObjectWrapper :=
  (s.bridge r).arena.borrowed.filter fun w => decide (s.handles r w = 0)

/-- A sweep releases these wrappers and the references that the arena took for
them, and says how many they are. -/
theorem run_sweep_unhandled (hbalanced : Balanced c 0 H s.books) (hr : s.isBridgeAlive r = true) :
    (sweep r).run s = ((s.unhandled r).length,
      (s.dropSwept r).release ((s.unhandled r).flatMap idleReleases)) := by
  have hidle : (s.bridge r).arena.wrappers.filter s.isIdle = s.unhandled r := by
    rw [← filter_isSwept]
    refine List.filter_congr fun w hw => Bool.eq_iff_iff.mpr ?_
    rw [decide_eq_true_iff]
    exact System.isSwept_iff hbalanced hr (List.mem_of_mem_filter hw)
  rw [run_sweep]
  dsimp only
  rw [hidle]

/-- How many references a sweep gives back. -/
theorem sweep_count (hbalanced : Balanced c 0 H s.books) (hr : s.isBridgeAlive r = true) :
    ((sweep r).run s).1 =
      (s.bridge r).arena.borrowed.countP fun w => decide (s.handles r w = 0) := by
  rw [run_sweep_unhandled hbalanced hr]
  exact List.countP_eq_length_filter.symm

/-- Releases of anything but bridges leave the records of wrappers alone. -/
theorem release_records {due : List Release} (hdue : ∀ t ∈ due, ∀ r, t ≠ .bridge r) (n : Nat) :
    (s.release due).wrappers.get? n = s.wrappers.get? n := by
  have hkept := System.release_keeps
    (P := fun due t => t.wrappers.get? n = s.wrappers.get? n ∧ ∀ u ∈ due, ∀ r, u ≠ .bridge r)
    ?_ due s ⟨rfl, hdue⟩
  · exact hkept.1
  · rintro first rest t ⟨hsame, hrest⟩
    have hfirst := hrest first List.mem_cons_self
    refine ⟨?_, ?_⟩
    · rw [← hsame]
      cases first with
      | object o =>
        simp only [System.releaseOne, System.releaseReference]
        split <;> rfl
      | defensive o =>
        simp only [System.releaseOne, System.releaseReference]
        split <;> rfl
      | wrapper w =>
        simp only [System.releaseOne]
        split <;> exact SharedTable.get?_drop _ _ _
      | boxed w =>
        obtain ⟨told, -, hdone⟩ := t.releaseOne_boxed w
        rw [hdone]
      | callable x => rfl
      | closure x =>
        simp only [System.releaseOne]
        split <;> rfl
      | callback x =>
        simp only [System.releaseOne]
        split <;> rfl
      | bridge r => exact absurd rfl (hfirst r)
    · intro u hu
      rcases List.mem_append.mp hu with hu | hu
      · exact (releaseOne_bridges t hfirst).2 u hu
      · exact hrest u (List.mem_cons_of_mem _ hu)

theorem records_sweep (s : System σ) (r : RuntimeId) (n : Nat) :
    ((sweep r).run s).2.wrappers.get? n = s.wrappers.get? n := by
  rw [run_sweep]
  refine (release_records (s := s.dropSwept r) ?_ n).trans rfl
  intro u hu r' hne
  obtain ⟨w, -, hw⟩ := List.mem_flatMap.mp hu
  subst hne
  simp [idleReleases] at hw

/-- What a sweep takes away is gone: nobody holds the wrapper any more. -/
theorem holders_of_swept (hbalanced : Balanced c 0 H s.books) (hr : s.isBridgeAlive r = true)
    (hw : w ∈ (s.bridge r).arena.wrappers) (hnone : s.handles r w = 0) :
    ((sweep r).run s).2.wrappers.holders w.number = 0 := by
  have hused : s.books.arenas.holders r.number ≠ 0 := System.isBridgeAlive_iff.mp hr
  have hafter := sweep_balanced hbalanced hused
  have halive := System.isBridgeAlive_iff.mp (isBridgeAlive_sweep hr)
  obtain ⟨hfind, entry, hentry, rfl, hmaker⟩ := (System.filed_of_alive hbalanced hr).of_mem hw
  have hrecord : ((sweep r).run s).2.books.wrappers.get? entry.wrapper.number = some entry :=
    (records_sweep s r _).trans hentry
  -- A wrapper in use would still have its entry.
  by_contra hholders
  have hmem := hafter.mem_of_holders (t := .wrapper entry.wrapper) ⟨entry, hrecord, rfl⟩ trivial
    hholders
  have hstands := hafter.standing _ hmem entry hrecord
  rw [← hmaker] at halive
  obtain ⟨a, ha, hlisted⟩ := hstands.listed halive
  have harena := System.arena_of_inUse (System.isBridgeAlive_iff.mp (isBridgeAlive_sweep hr))
  rw [hmaker, harena] at ha
  rw [← Option.some.inj ha, arena_sweep hbalanced hr] at hlisted
  have hswept := (System.isSwept_iff hbalanced hr hw).mpr hnone
  rw [hlisted.2] at hswept
  exact Bool.noConfusion hswept

/-! ## Arenas where all entries have handles -/

theorem Arena.eraseAll_eq_self {a : Arena} {gone : ObjectWrapper → Bool}
    (h : ∀ w ∈ a.wrappers, gone w = false) : a.eraseAll gone = a := by
  unfold eraseAll Table.filter
  congr 2
  apply List.filter_eq_self.mpr
  rintro ⟨o, w⟩ hmem
  have hw := h w (List.mem_map_of_mem (f := (·.2)) hmem)
  simp [hw]

/-- Then a sweep gives nothing back, and changes nothing. -/
theorem sweep_of_settled (hbalanced : Balanced c 0 H s.books) (hr : s.isBridgeAlive r = true)
    (hsettled : s.IsSettled r) : (sweep r).run s = (0, s) := by
  have hkept := (System.isSettled_iff hbalanced hr).mp hsettled
  have hidle : (s.bridge r).arena.wrappers.filter s.isIdle = [] := by
    rw [List.filter_eq_nil_iff]
    intro w hw hidle
    have hswept : s.isSwept w = true := by simp [System.isSwept, hidle]
    rw [hkept w hw] at hswept
    exact Bool.noConfusion hswept
  have hsame : s.dropSwept r = s := by
    unfold System.dropSwept System.modifyBridge
    rw [SharedTable.modify_eq_self]
    intro b hb
    have hbridge : s.bridge r = b := by simp [System.bridge, hb]
    rw [← hbridge, Arena.eraseAll_eq_self hkept]
  rw [run_sweep, hidle, hsame]
  dsimp only
  rw [List.flatMap_nil, System.release_nil]
  rfl

theorem settled_of_sweep (hbalanced : Balanced c 0 H s.books) (hr : s.isBridgeAlive r = true)
    (hsame : ((sweep r).run s).2 = s) : s.IsSettled r := by
  intro o w hfind hnone
  have hleft := hfind
  rw [← hsame, arena_sweep hbalanced hr] at hleft
  have hswept := (System.isSwept_iff hbalanced hr (Arena.Filed.mem_of_find? hfind)).mpr hnone
  rw [hleft.2] at hswept
  exact Bool.noConfusion hswept

/-! ## Rounds -/

/-- Anywhere else, a sweep makes the arena smaller. -/
theorem size_sweep_lt (hbalanced : Balanced c 0 H s.books) (hr : s.isBridgeAlive r = true)
    (hsettled : ¬ s.IsSettled r) :
    (((sweep r).run s).2.bridge r).arena.size < (s.bridge r).arena.size := by
  rw [System.isSettled_iff hbalanced hr] at hsettled
  simp only [not_forall, Bool.not_eq_false] at hsettled
  obtain ⟨w, hw, hswept⟩ := hsettled
  obtain ⟨⟨o, w'⟩, hentry, rfl⟩ := List.mem_map.mp hw
  rw [bridge_sweep hr]
  apply List.length_filter_lt_length_iff_exists.mpr
  exact ⟨(o, w'), hentry, by simpa using hswept⟩

/-- Some sweeps of one bridge, one after another. -/
def System.afterSweeps (r : RuntimeId) : Nat → System σ → System σ
  | 0, s => s
  | rounds + 1, s => afterSweeps r rounds ((sweep r).run s).2

/-- The sweeps keep the books and the bridge. -/
theorem afterSweeps_keeps (hbalanced : Balanced c 0 H s.books) (hr : s.isBridgeAlive r = true)
    (rounds : Nat) :
    Balanced c 0 H (s.afterSweeps r rounds).books ∧
      (s.afterSweeps r rounds).isBridgeAlive r = true := by
  induction rounds generalizing s with
  | zero => exact ⟨hbalanced, hr⟩
  | succ rounds ih =>
    exact ih (sweep_balanced hbalanced (System.isBridgeAlive_iff.mp hr)) (isBridgeAlive_sweep hr)

theorem afterSweeps_of_settled (hbalanced : Balanced c 0 H s.books)
    (hr : s.isBridgeAlive r = true) (hsettled : s.IsSettled r) (rounds : Nat) :
    s.afterSweeps r rounds = s := by
  induction rounds with
  | zero => rfl
  | succ rounds ih =>
    unfold System.afterSweeps
    rw [sweep_of_settled hbalanced hr hsettled]
    exact ih

/-- After as many sweeps as there were entries, all entries have handles. -/
theorem afterSweeps_settled (hbalanced : Balanced c 0 H s.books) (hr : s.isBridgeAlive r = true)
    {rounds : Nat} (hrounds : (s.bridge r).arena.size ≤ rounds) :
    (s.afterSweeps r rounds).IsSettled r := by
  induction rounds generalizing s with
  | zero =>
    intro o w hfind
    have hempty : (s.bridge r).arena.entries.entries = [] :=
      List.length_eq_zero_iff.mp (Nat.le_zero.mp hrounds)
    have hmem : w ∈ (s.bridge r).arena.wrappers := Arena.Filed.mem_of_find? hfind
    rw [Arena.wrappers, hempty] at hmem
    exact absurd hmem List.not_mem_nil
  | succ rounds ih =>
    by_cases hsettled : s.IsSettled r
    · rwa [afterSweeps_of_settled hbalanced hr hsettled]
    · have hless := size_sweep_lt hbalanced hr hsettled
      apply ih (sweep_balanced hbalanced (System.isBridgeAlive_iff.mp hr)) (isBridgeAlive_sweep hr)
      omega

end

/-- A sweep leaves the books in order. -/
theorem Holding.sweep {τ : Type} {c : Conduct} {F : Multiset Release} {E : List ObjectId}
    {s : World τ} {r : RuntimeId} (h : Holding c F E s) (hr : s.isBridgeAlive r = true) :
    Holding c F E ((NativeBridge.sweep r).run s).2 := by
  refine h.step ?_ (fun u hu => Or.inl hu)
    (sweep_balanced h.balanced (System.isBridgeAlive_iff.mp hr))
  rw [run_sweep]
  exact System.release_guest _ _

/-- Under any conduct, a sweep leaves exactly the entries that have a handle
when it begins, and nobody holds the wrappers of the others any more. What it
gives back are these wrappers and the references that the arena took for them;
with fair native holders, the counts of all objects are then what the others
have, as long as no count reaches its limit. A second
sweep gives nothing back and changes nothing if, and only if, all entries that
were left still have a handle, and have not lost the last one by what the first
sweep released. That comes after as many sweeps as there were entries, at the
latest. -/
theorem sweep_rounds {τ : Type} {c : Conduct} {s : World τ} (h : s.Reached c) {r : RuntimeId}
    (hr : s.isBridgeAlive r = true) :
    let swept := ((sweep r).run s).2
    (∀ o w, (swept.bridge r).arena.find? o = some w ↔
      (s.bridge r).arena.find? o = some w ∧ s.handles r w ≠ 0) ∧
    (∀ o w, (s.bridge r).arena.find? o = some w → s.handles r w = 0 →
      swept.wrappers.holders w.number = 0) ∧
    ((sweep r).run s).1 =
      (s.bridge r).arena.borrowed.countP (fun w => decide (s.handles r w = 0)) ∧
    swept = (s.dropSwept r).release ((s.unhandled r).flatMap idleReleases) ∧
    (c = .fair → swept.heap.full = false → ∀ o,
      (swept.heap.isAlive o = true ↔ (World.moment swept).claimsOn o ≠ 0) ∧
        ∀ count, swept.heap.refCount? o = some count →
          count.toNat = (World.moment swept).claimsOn o) ∧
    ((sweep r).run swept = (0, swept) ↔ swept.IsSettled r) ∧
    ∀ rounds, (s.bridge r).arena.size ≤ rounds →
      let last := s.afterSweeps r rounds
      last.IsSettled r ∧ (sweep r).run last = (0, last) := by
  intro swept
  obtain ⟨F, hs⟩ := h.holding
  have hbalanced := hs.balanced
  have hswept := sweep_balanced hbalanced (System.isBridgeAlive_iff.mp hr)
  have halive : swept.isBridgeAlive r = true := isBridgeAlive_sweep hr
  refine ⟨?_, ?_, sweep_count hbalanced hr, ?_, ?_, ⟨?_, ?_⟩, ?_⟩
  · intro o w
    rw [arena_sweep hbalanced hr]
    refine and_congr_right fun hfind => ?_
    rw [ne_eq, ← System.isSwept_iff hbalanced hr (Arena.Filed.mem_of_find? hfind),
      Bool.not_eq_true]
  · intro o w hfind hnone
    exact holders_of_swept hbalanced hr (Arena.Filed.mem_of_find? hfind) hnone
  · exact congrArg Prod.snd (run_sweep_unhandled hbalanced hr)
  · rintro rfl hfull o
    have hsound := (hs.sweep hr).sound
    exact ⟨hsound.isAlive_iff hfull, fun count => hsound.refCount_eq hfull⟩
  · intro hsame
    have hstate : ((sweep r).run swept).2 = swept := by rw [hsame]
    exact settled_of_sweep hswept halive hstate
  · exact sweep_of_settled hswept halive
  · intro rounds hrounds last
    have hsettled := afterSweeps_settled hbalanced hr hrounds
    obtain ⟨hlast, hlive⟩ := afterSweeps_keeps hbalanced hr rounds
    exact ⟨hsettled, sweep_of_settled hlast hlive hsettled⟩

/-! ## A small run -/

namespace Sample

/-- The type gets a signal, and a second object and a callable are made. -/
def linkable : World Unit :=
  carryOut (.idle _) [.arrange (.changeTypes (.defineSignal type "changed" ⟨[], none⟩)),
    .instantiate type, .newCallable] world

/-- The borrowed wrapper of the second object. -/
def linkedWrapper : ObjectWrapper := ⟨1, second, type, "Ui::Node", .borrowed⟩

/-- A handler of the first object keeps a handle of the second one as its data. -/
def linking : Deed Unit :=
  .connectSignal bridge (.object wrapper) "changed" ⟨0⟩ (some (.object linkedWrapper)) false false

def linked : World Unit :=
  carryOut (.idle _) [.wrap bridge object false, .wrap bridge second false, linking] linkable

/-- Only the arena still has a reference to the first object. -/
def leftToArena : World Unit := carryOut (.idle _) [.unref object] linked

/-- Only the handler still has a handle. -/
def chained : World Unit := carryOut (.idle _) [.letGo 0, .letGo 0] leftToArena

theorem linkable_moves : Moves .fair (World.start ()) linkable :=
  (moves_world .fair).trans (Moves.carryOut Guest.idle_isOutside rfl _)

set_option maxRecDepth 2048 in
theorem linked_moves : Moves .fair (World.start ()) linked := by
  have hfirst := using_moves linkable_moves (d := .wrap bridge object false) (t := .bridge bridge)
    rfl ⟨trivial, trivial, by decide +kernel⟩ trivial
  have hsecond := using_moves hfirst (d := .wrap bridge second false) (t := .bridge bridge)
    rfl ⟨trivial, trivial, by decide +kernel⟩ trivial
  refine hsecond.trans (Moves.deed (g := .idle _) (d := linking) Guest.idle_isOutside
    ⟨?_, fun _ => trivial⟩)
  intro t ht
  simp only [linking, Deed.uses, Handle.releases, dataReleases, Option.map_some, Option.getD_some,
    List.singleton_append, List.mem_cons, List.not_mem_nil, or_false] at ht
  rcases ht with rfl | rfl | rfl | rfl
  · exact ⟨trivial, trivial, by decide +kernel⟩
  · exact ⟨trivial, trivial, by decide +kernel⟩
  · exact ⟨trivial, ⟨_, rfl, rfl⟩, by decide +kernel⟩
  · exact ⟨trivial, ⟨_, rfl, rfl⟩, by decide +kernel⟩

set_option maxRecDepth 2048 in
theorem leftToArena_moves : Moves .fair (World.start ()) leftToArena := by
  refine linked_moves.trans (Moves.deed (g := .idle _) (d := .unref object) Guest.idle_isOutside
    ⟨fun t ht => absurd ht List.not_mem_nil, fun _ => ?_⟩)
  unfold Deed.IsFair
  decide +kernel

theorem chained_moves : Moves .fair (World.start ()) chained :=
  leftToArena_moves.trans (Moves.carryOut Guest.idle_isOutside rfl _)

end Sample

/-- The first sweep takes away the wrapper of the first object. That is the end
of the object and of its handler, and so of the last handle of the second one,
whose entry is left to the second sweep. -/
theorem second_sweep_releases_more :
    Sample.chained.Reached .fair ∧ Sample.chained.isBridgeAlive Sample.bridge = true ∧
      let once := (sweep Sample.bridge).run Sample.chained
      let twice := (sweep Sample.bridge).run once.2
      once.1 = 1 ∧ twice.1 = 1 ∧
        (once.2.bridge Sample.bridge).arena.find? Sample.second = some Sample.linkedWrapper ∧
        once.2.handles Sample.bridge Sample.linkedWrapper = 0 ∧
        (twice.2.bridge Sample.bridge).arena.find? Sample.second = none :=
  ⟨Sample.chained_moves.reached, by decide +kernel, by decide +kernel⟩

/-- The first sweep gives back the only reference to the first object, and the
second object keeps those of others. -/
theorem sample_sweep_rounds :
    let swept := ((sweep Sample.bridge).run Sample.chained).2
    let settled := Sample.chained.afterSweeps Sample.bridge 2
    ((sweep Sample.bridge).run Sample.chained).1 = 1 ∧
      swept.heap.isAlive Sample.object = false ∧
      (World.moment swept).claimsOn Sample.second = 2 ∧
      settled.IsSettled Sample.bridge ∧ (sweep Sample.bridge).run settled = (0, settled) := by
  have halive : Sample.chained.isBridgeAlive Sample.bridge = true := by decide +kernel
  obtain ⟨-, -, hcount, -, hclaims, -, hrounds⟩ :=
    sweep_rounds Sample.chained_moves.reached halive
  have hheap := hclaims rfl (by decide +kernel)
  refine ⟨hcount.trans (by decide +kernel), by decide +kernel, ?_, hrounds 2 (by decide +kernel)⟩
  exact ((hheap Sample.second).2 2 (by decide +kernel)).symm

end NativeBridge
