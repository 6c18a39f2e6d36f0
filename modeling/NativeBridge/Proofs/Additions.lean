-- New things enter the books. What a new thing will release at its end is
-- taken from its maker, and the maker becomes its first holder.
import NativeBridge.Proofs.Releasing

namespace NativeBridge

namespace SharedTable

variable {α : Type}

theorem holders_add_size (t : SharedTable α) (x : α) (n : Nat) :
    (t.add x).holders n = t.holders n + if t.size = n then 1 else 0 := by
  rw [holders_add]
  by_cases hn : n = t.size
  · subst hn
    simp [holders_size]
  · have hne : t.size ≠ n := fun h => hn h.symm
    simp [hn, hne]

theorem get?_add_of_some {t : SharedTable α} {x y : α} {n : Nat} (h : t.get? n = some x) :
    (t.add y).get? n = some x := by
  have hlt := lt_size_of_get? h
  rw [get?_add, if_neg (by omega), h]

theorem get?_add_size (t : SharedTable α) (x : α) : (t.add x).get? t.size = some x := by
  rw [get?_add, if_pos rfl]

end SharedTable

namespace Balanced

variable {c : Conduct} {held spent : Multiset Release} {b b' : Books} {t : Release}

/-- A thing that enters the books with what it pledges. -/
theorem add (h : Balanced c 0 (spent + held) b) (new : Multiset Release) (hheap : b'.heap = b.heap)
    (hlate : b'.isLate = b.isLate) (hformed : b'.Formed)
    (hpledged : b'.pledged = b.pledged + new)
    (hknows : ∀ u, b.Knows u → b'.Knows u) (hnew : ∀ u ∈ t ::ₘ new, b'.Knows u)
    (hholders : ∀ a : Account, a.IsShared →
      b'.holders a + tally a spent = b.holders a + tally a (t ::ₘ new))
    (hobjects : ∀ o, tally (.object o) spent = tally (.object o) (t ::ₘ new))
    (hfirst : ∀ w, .wrapper w ∈ t ::ₘ new → ∀ entry,
      b'.wrappers.get? w.number = some entry → b'.Stands c w entry)
    (hothers : ∀ w entry, b.wrappers.get? w.number = some entry → b.Stands c w entry →
      b'.wrappers.get? w.number = some entry ∧ b'.Stands c w entry) (hsingle : b'.Single) :
    Balanced c 0 (t ::ₘ held) b' := by
  have hall : 0 + (t ::ₘ held + b'.pledged) = t ::ₘ new + (held + b.pledged) := by
    rw [hpledged, zero_add, Multiset.cons_add, Multiset.cons_add]
    congr 1
    abel
  have hold : 0 + (spent + held + b.pledged) = spent + (held + b.pledged) := by
    rw [zero_add, add_assoc]
  have hcounts := h.counts
  rw [hold] at hcounts
  refine ⟨hformed, ⟨?_, ?_⟩, ?_, ?_, hsingle⟩
  · intro u hu
    rw [hall] at hu
    rcases Multiset.mem_add.mp hu with hu | hu
    · exact hnew u hu
    · exact hknows u (hcounts.known u (Multiset.mem_add.mpr (Or.inr hu)))
  · intro a ha
    have hcounted := hcounts.counted a ha
    have hchange := hholders a ha
    rw [hall]
    simp only [tally_add] at hcounted ⊢
    omega
  · intro w hw entry hentry
    have hmem : .wrapper w ∈ t ::ₘ new + (held + b.pledged) := by rwa [← hall, zero_add]
    rcases Multiset.mem_add.mp hmem with hmem | hmem
    · exact hfirst w hmem entry hentry
    · have hin : .wrapper w ∈ spent + held + b.pledged := by
        rw [add_assoc]
        exact Multiset.mem_add.mpr (Or.inr hmem)
      obtain ⟨old, hentry', -⟩ := hcounts.known (.wrapper w) (Multiset.mem_add.mpr (Or.inr hmem))
      obtain ⟨hsame, hstands⟩ := hothers w old hentry' (h.standing w hin old hentry')
      rw [hsame] at hentry
      obtain rfl := Option.some.inj hentry
      exact hstands
  · intro hc hfull
    rw [hheap] at hfull
    have hexact := h.exact hc hfull
    rw [hold] at hexact
    apply hexact.of_heap hheap hlate
    intro o
    rw [hall, tally_add _ (t ::ₘ new), tally_add _ spent, hobjects]

/-- A thing that has nothing to do with wrappers and arenas. -/
theorem addPlain (h : Balanced c 0 (spent + held) b) (hs : t.account.IsShared)
    (hheap : b'.heap = b.heap) (hlate : b'.isLate = b.isLate)
    (hwrappers : b'.wrappers = b.wrappers) (harenas : b'.arenas = b.arenas)
    (hwrapper : ∀ w, t ≠ .wrapper w) (hknows : ∀ u, b.Knows u → b'.Knows u) (hnew : b'.Knows t)
    (hpledged : b'.pledged = b.pledged + spent)
    (hholders : ∀ a : Account, a.IsShared →
      b'.holders a = b.holders a + if t.account = a then 1 else 0) :
    Balanced c 0 (t ::ₘ held) b' := by
  have hstands : ∀ w entry, b.Stands c w entry → b'.Stands c w entry := by
    intro w entry hold
    exact hold.of_eq harenas
  have hspent : ∀ u ∈ spent, u ∈ spent + held + b.pledged := by
    intro u hu
    rw [add_assoc]
    exact Multiset.mem_add.mpr (Or.inl hu)
  apply h.add spent hheap hlate
  · apply h.formed.of_eq hwrappers harenas
    rw [hheap]
    exact h.formed.sorted
  · exact hpledged
  · exact hknows
  · intro u hu
    rcases Multiset.mem_cons.mp hu with rfl | hu
    · exact hnew
    · exact hknows u (h.counts.known u (by rw [zero_add]; exact hspent u hu))
  · intro a ha
    rw [hholders a ha, tally_cons]
    omega
  · intro o
    rw [tally_cons_of_isShared hs]
  · intro w hw entry hentry
    rcases Multiset.mem_cons.mp hw with hw | hw
    · exact absurd hw.symm (hwrapper w)
    · rw [hwrappers] at hentry
      exact hstands w entry (h.standing w (hspent _ hw) entry hentry)
  · intro w entry hentry hold
    exact ⟨by rw [hwrappers, hentry], hstands w entry hold⟩
  · unfold Books.Single
    rw [hwrappers]
    exact h.single

theorem addCallable (h : Balanced c 0 held b) :
    Balanced c 0 (.callable ⟨b.callables.size⟩ ::ₘ held)
      { b with callables := b.callables.add () } := by
  rw [← zero_add held] at h
  refine h.addPlain trivial rfl rfl rfl rfl ?_ ?_ trivial (add_zero _).symm ?_
  · exact fun w hw => Release.noConfusion hw
  · exact fun u hu => hu
  · intro a ha
    cases a <;> simp [Books.holders, Books.refs, Release.account, SharedTable.holders_add_size]

theorem addBox (h : Balanced c 0 held b) {w : BoxedWrapper} (hw : w.number = b.boxes.size)
    (destroyer : Option BoxedStrategy) :
    Balanced c 0 (.boxed w ::ₘ held) { b with boxes := b.boxes.add { wrapper := w, destroyer } } := by
  rw [← zero_add held] at h
  refine h.addPlain trivial rfl rfl rfl rfl ?_ ?_ ?_ (add_zero _).symm ?_
  · exact fun w hw => Release.noConfusion hw
  · intro u hu
    cases u with
    | boxed w' =>
      obtain ⟨entry, hentry, heq⟩ := hu
      exact ⟨entry, SharedTable.get?_add_of_some hentry, heq⟩
    | _ => exact hu
  · exact ⟨{ wrapper := w, destroyer }, by rw [hw]; exact SharedTable.get?_add_size _ _, rfl⟩
  · intro a ha
    cases a <;> simp [Books.holders, Books.refs, Release.account, SharedTable.holders_add_size, hw]

/-- A closure takes over a holder of its callable and one of its data. -/
theorem addClosure {x : Closure} (h : Balanced c 0 (x.releases + held) b)
    (hx : x.id.number = b.closures.size) :
    Balanced c 0 (.closure x ::ₘ held) { b with closures := b.closures.add x } := by
  refine h.addPlain trivial rfl rfl rfl rfl ?_ ?_ ?_ ?_ ?_
  · exact fun w hw => Release.noConfusion hw
  · intro u hu
    cases u with
    | closure y => exact SharedTable.get?_add_of_some hu
    | _ => exact hu
  · simp only [Books.Knows, hx]
    exact SharedTable.get?_add_size _ _
  · simp only [Books.pledged, SharedTable.pledges_add]
    abel
  · intro a ha
    cases a <;> simp [Books.holders, Books.refs, Release.account, SharedTable.holders_add_size, hx]

/-- A callback takes over a holder of its callable and one of its data. -/
theorem addCallback {x : Callback} (h : Balanced c 0 (x.releases + held) b)
    (hx : x.number = b.callbacks.size) :
    Balanced c 0 (.callback x ::ₘ held) { b with callbacks := b.callbacks.add x } := by
  refine h.addPlain trivial rfl rfl rfl rfl ?_ ?_ ?_ ?_ ?_
  · exact fun w hw => Release.noConfusion hw
  · intro u hu
    cases u with
    | callback y => exact SharedTable.get?_add_of_some hu
    | _ => exact hu
  · simp only [Books.Knows, hx]
    exact SharedTable.get?_add_size _ _
  · simp only [Books.pledged, SharedTable.pledges_add]
    abel
  · intro a ha
    cases a <;> simp [Books.holders, Books.refs, Release.account, SharedTable.holders_add_size, hx]

/-! ## Bridges -/

theorem addBridge (h : Balanced c 0 held b) :
    Balanced c 0 (.bridge ⟨b.arenas.size⟩ ::ₘ held) { b with arenas := b.arenas.add {} } := by
  have hmade : ∀ {n : Nat} {entry : WrapperRecord}, b.wrappers.get? n = some entry →
      entry.maker.number ≠ b.arenas.size := by
    intro n entry hentry
    exact Nat.ne_of_lt (h.formed.numbered n entry hentry).2
  have hretains : b.Retains { b with arenas := b.arenas.add {} } := .of_get? fun _ => rfl
  rw [← zero_add held] at h
  refine h.add 0 rfl rfl ⟨?_, ?_, h.formed.sorted⟩ ?_ (fun u hu => hu) ?_ ?_ ?_ ?_ ?_ h.single
  · intro n entry hentry
    obtain ⟨hnumber, hmaker⟩ := h.formed.numbered n entry hentry
    exact ⟨hnumber, by rw [SharedTable.size_add]; omega⟩
  · intro r a ha
    rw [SharedTable.get?_add] at ha
    split at ha
    · obtain rfl := Option.some.inj ha
      exact ⟨List.nodup_nil, fun o w hw => absurd hw List.not_mem_nil⟩
    · exact hretains.filed (h.formed.filed r a ha)
  · have hnil : (Arena.pledge {} : Multiset Release) = 0 := rfl
    simp only [Books.pledged, SharedTable.pledges_add, hnil, add_zero]
  · intro u hu
    rw [Multiset.cons_zero, Multiset.mem_singleton] at hu
    rw [hu]
    trivial
  · intro a ha
    rw [tally_zero, tally_cons, tally_zero, add_zero, zero_add]
    cases a <;> simp [Books.holders, Books.refs, Release.account, SharedTable.holders_add_size]
  · intro o
    rw [tally_cons_of_isShared (t := .bridge _) trivial]
  · intro w hw
    rw [Multiset.cons_zero, Multiset.mem_singleton] at hw
    exact Release.noConfusion hw
  · intro w entry hentry hstands
    have hne := hmade hentry
    have hholders : (b.arenas.add {}).holders entry.maker.number =
        b.arenas.holders entry.maker.number := by
      rw [SharedTable.holders_add, if_neg hne]
    refine ⟨hentry, ⟨?_, ?_, hstands.gives⟩⟩
    · rw [hholders, SharedTable.get?_add, if_neg hne]
      exact hstands.listed
    · rw [hholders]
      exact hstands.owning

end Balanced

/-! ## Wrappers -/

namespace Arena

variable {a : Arena} {w : ObjectWrapper}

theorem entries_insert (h : a.find? w.object = none) :
    (a.insert w).entries.entries = a.entries.entries ++ [(w.object, w)] :=
  Table.put_of_find_none w h

theorem find?_insert_self (a : Arena) (w : ObjectWrapper) : (a.insert w).find? w.object = some w :=
  Table.get?_set_self a.entries w.object w

theorem find?_insert_ne {o : ObjectId} (h : o ≠ w.object) : (a.insert w).find? o = a.find? o :=
  Table.get?_set_ne a.entries h w

/-- A borrowed wrapper in the arena is kept, and with it a reference. -/
theorem pledge_insert (h : a.find? w.object = none) :
    (a.insert w).pledge = a.pledge ++ if w.ownership = .borrowed then idleReleases w else [] := by
  simp only [pledge, borrowed, wrappers, entries_insert h]
  by_cases hw : w.ownership = .borrowed
  · simp [hw]
  · have hbeq : (w.ownership == .borrowed) = false := by simpa using hw
    simp [hw, hbeq]

/-- An arena takes in a wrapper on record for an object it has no entry of. -/
theorem Filed.insert {b : Books} {r : Nat} (h : a.Filed b r) (hnone : a.find? w.object = none)
    (hself : ∃ entry, b.wrappers.get? w.number = some entry ∧ entry.wrapper = w ∧
      entry.maker.number = r) : (a.insert w).Filed b r where
  keys_nodup := by
    rw [entries_insert hnone, List.map_append, List.nodup_append]
    refine ⟨h.keys_nodup, List.nodup_singleton _, ?_⟩
    intro o ho o' ho'
    rw [List.map_singleton, List.mem_singleton] at ho'
    rintro rfl
    obtain ⟨⟨o'', w'⟩, hmem, rfl⟩ := List.mem_map.mp ho
    have hfind := h.find?_eq_some.mpr hmem
    have hkey : o'' = w.object := ho'
    rw [hkey, hnone] at hfind
    exact Option.some_ne_none _ hfind.symm
  known o w' hw' := by
    rw [entries_insert hnone] at hw'
    rcases List.mem_append.mp hw' with hw' | hw'
    · exact h.known o w' hw'
    · obtain ⟨rfl, rfl⟩ := Prod.mk.inj (List.mem_singleton.mp hw')
      exact ⟨rfl, hself⟩

end Arena

namespace Books

/-- A wrapper is filed in the arena of its maker. -/
def file (b : Books) (wrappers : SharedTable WrapperRecord) (r : RuntimeId) (w : ObjectWrapper) :
    Books :=
  { b with wrappers, arenas := b.arenas.modify r.number (·.insert w) }

variable {b : Books} {wrappers : SharedTable WrapperRecord} {r : RuntimeId} {w : ObjectWrapper}
  {a : Arena} {releases : Bool}

theorem get?_file_arenas (n : Nat) : (b.file wrappers r w).arenas.get? n =
    if n = r.number then (b.arenas.get? n).map (·.insert w) else b.arenas.get? n :=
  SharedTable.get?_modify _ _ _ _

theorem get?_wrappers_of_old
    (hget : ∀ n, wrappers.get? n =
      if n = b.wrappers.size then some ⟨w, r, releases⟩ else b.wrappers.get? n)
    {n : Nat} {entry : WrapperRecord} (h : b.wrappers.get? n = some entry) :
    wrappers.get? n = some entry := by
  have hlt := SharedTable.lt_size_of_get? h
  rw [hget, if_neg (by omega), h]

theorem Knows.file (hget : ∀ n, wrappers.get? n =
      if n = b.wrappers.size then some ⟨w, r, releases⟩ else b.wrappers.get? n)
    {t : Release} (h : b.Knows t) : (b.file wrappers r w).Knows t := by
  cases t with
  | wrapper w' =>
    obtain ⟨entry, hentry, heq⟩ := h
    exact ⟨entry, get?_wrappers_of_old hget hentry, heq⟩
  | _ => exact h

theorem Formed.file (h : b.Formed) (hget : ∀ n, wrappers.get? n =
      if n = b.wrappers.size then some ⟨w, r, releases⟩ else b.wrappers.get? n)
    (hnumber : w.number = b.wrappers.size) (ha : b.arenas.get? r.number = some a)
    (hnone : a.find? w.object = none) : (b.file wrappers r w).Formed where
  numbered n entry hentry := by
    simp only [Books.file, SharedTable.size_modify]
    have hentry' : wrappers.get? n = some entry := hentry
    rw [hget] at hentry'
    split at hentry'
    · rename_i hn
      obtain rfl := Option.some.inj hentry'
      exact ⟨by rw [hnumber, hn], SharedTable.lt_size_of_get? ha⟩
    · exact h.numbered n entry hentry'
  filed n a' ha' := by
    have hretains : b.Retains (b.file wrappers r w) := fun n entry hentry =>
      ⟨entry, get?_wrappers_of_old hget hentry, rfl, rfl⟩
    rw [get?_file_arenas] at ha'
    split at ha'
    · rename_i hn
      subst hn
      rw [ha] at ha'
      obtain rfl := Option.some.inj ha'
      apply (hretains.filed (h.filed _ a ha)).insert hnone
      exact ⟨_, (hget w.number).trans (if_pos hnumber), rfl, rfl⟩
    · exact hretains.filed (h.filed n a' ha')
  sorted := h.sorted

theorem Stands.file_new (c : Conduct) (wrappers : SharedTable WrapperRecord)
    (ha : b.arenas.get? r.number = some a) (hused : b.arenas.holders r.number ≠ 0) :
    (b.file wrappers r w).Stands c w ⟨w, r, w.ownership == .owned⟩ where
  listed _ := by
    refine ⟨a.insert w, ?_, Arena.find?_insert_self a w⟩
    rw [get?_file_arenas, if_pos rfl, ha]
    rfl
  owning _ := by
    have hholders : (b.file wrappers r w).arenas.holders r.number = b.arenas.holders r.number :=
      SharedTable.holders_modify _ _ _ _
    simp [hholders, hused]
  gives hw := by simp [hw]

theorem Stands.file_old {c : Conduct} {w' : ObjectWrapper} {entry : WrapperRecord}
    (h : b.Stands c w' entry) (ha : b.arenas.get? r.number = some a)
    (hnone : a.find? w.object = none) : (b.file wrappers r w).Stands c w' entry := by
  have hholders : (b.file wrappers r w).arenas.holders entry.maker.number =
      b.arenas.holders entry.maker.number := SharedTable.holders_modify _ _ _ _
  refine ⟨?_, by rw [hholders]; exact h.owning, h.gives⟩
  intro hused
  rw [hholders] at hused
  obtain ⟨a', ha', hfind⟩ := h.listed hused
  rw [get?_file_arenas]
  split
  · rename_i hr
    rw [hr, ha] at ha'
    obtain rfl := Option.some.inj ha'
    refine ⟨a.insert w, by rw [hr, ha]; rfl, ?_⟩
    have hne : w'.object ≠ w.object := by
      intro heq
      rw [heq, hnone] at hfind
      exact Option.some_ne_none _ hfind.symm
    rw [Arena.find?_insert_ne hne, hfind]
  · exact ⟨a', ha', hfind⟩

end Books

namespace Balanced

variable {c : Conduct} {held : Multiset Release} {b : Books} {r : RuntimeId} {w : ObjectWrapper}
  {a : Arena}

/-- What filing a wrapper brings into the arena. -/
theorem arenas_pledges_insert (ha : b.arenas.get? r.number = some a)
    (hused : b.arenas.holders r.number ≠ 0) (hnone : a.find? w.object = none) :
    (b.arenas.modify r.number (·.insert w)).pledges Arena.pledge =
      b.arenas.pledges Arena.pledge +
        (if w.ownership = .borrowed then idleReleases w else [] : List Release) := by
  have hmodify := SharedTable.pledges_modify Arena.pledge (·.insert w) hused ha
  rw [Arena.pledge_insert hnone, ← Multiset.coe_add, add_assoc] at hmodify
  rw [← add_left_cancel hmodify]
  exact add_comm _ _

/-- A wrapper that is filed is the only one in use of its maker and
object. -/
theorem single_file (h : Balanced c 0 held b) {wrappers : SharedTable WrapperRecord}
    {releases : Bool} (hget : ∀ n, wrappers.get? n =
      if n = b.wrappers.size then some ⟨w, r, releases⟩ else b.wrappers.get? n)
    (hholders : ∀ n, n ≠ b.wrappers.size → wrappers.holders n = b.wrappers.holders n)
    (ha : b.arenas.get? r.number = some a) (hused : b.arenas.holders r.number ≠ 0)
    (hnone : a.find? w.object = none) : (b.file wrappers r w).Single := by
  -- Another wrapper in use of this maker has its entry under its object.
  have hother : ∀ n entry, b.wrappers.get? n = some entry → b.wrappers.holders n ≠ 0 →
      entry.maker.number = r.number → entry.wrapper.object ≠ w.object := by
    intro n entry hentry hheld hmaker hobject
    obtain ⟨hnumber, -⟩ := h.formed.numbered n entry hentry
    rw [← hnumber] at hentry hheld
    have hmem := h.mem_of_holders (t := .wrapper entry.wrapper) ⟨entry, hentry, rfl⟩ trivial hheld
    have hlisted := (h.standing _ hmem entry hentry).listed
    rw [hmaker, hobject] at hlisted
    obtain ⟨a', ha', hfind⟩ := hlisted hused
    rw [ha] at ha'
    obtain rfl := Option.some.inj ha'
    rw [hnone] at hfind
    exact absurd hfind (Option.some_ne_none _).symm
  intro n n' entry entry' hn hn' hheld hheld' hmaker hobject
  simp only [Books.file, hget] at hn hn' hheld hheld'
  by_cases hnew : n = b.wrappers.size <;> by_cases hnew' : n' = b.wrappers.size
  · rw [hnew, hnew']
  · rw [if_pos hnew] at hn
    rw [if_neg hnew'] at hn'
    rw [hholders n' hnew'] at hheld'
    obtain rfl := Option.some.inj hn
    exact absurd hobject.symm (hother n' entry' hn' hheld' hmaker.symm)
  · rw [if_neg hnew] at hn
    rw [if_pos hnew'] at hn'
    rw [hholders n hnew] at hheld
    obtain rfl := Option.some.inj hn'
    exact absurd hobject (hother n entry hn hheld hmaker)
  · rw [if_neg hnew] at hn
    rw [if_neg hnew'] at hn'
    rw [hholders n hnew] at hheld
    rw [hholders n' hnew'] at hheld'
    exact h.single n n' entry entry' hn hn' hheld hheld' hmaker hobject

/-- What a wrapper may bring when it is filed: holders of its own and references
of its object. -/
def Brings (w : ObjectWrapper) (new : Multiset Release) : Prop :=
  ∀ u ∈ new, u = .wrapper w ∨ u = .object w.object ∨ u = .defensive w.object

section

variable {new : Multiset Release}

theorem Brings.tally_eq_zero (h : Brings w new) {acc : Account} (hwrapper : acc ≠ .wrapper w.number)
    (hobject : acc ≠ .object w.object) : tally acc new = 0 := by
  by_contra hne
  obtain ⟨u, hu, rfl⟩ := exists_mem_of_tally hne
  rcases h u hu with rfl | rfl | rfl
  · exact hwrapper rfl
  · exact hobject rfl
  · exact hobject rfl

theorem Brings.wrapper_eq (h : Brings w new) {w' : ObjectWrapper} (hw' : .wrapper w' ∈ new) :
    w' = w := by
  rcases h _ hw' with hw' | hw' | hw'
  · exact Release.wrapper.inj hw'
  · exact Release.noConfusion hw'
  · exact Release.noConfusion hw'

theorem Brings.knows (h : Brings w new) (hself : b.Knows (.wrapper w)) {u : Release}
    (hu : u ∈ new) : b.Knows u := by
  rcases h u hu with rfl | rfl | rfl
  · exact hself
  · trivial
  · trivial

/-- A wrapper that is filed takes over a reference of its maker. Besides its
maker's, it may get holders of its own. -/
theorem addFiled (h : Balanced c 0 (.object w.object ::ₘ held) b)
    {wrappers : SharedTable WrapperRecord} (hnew : Brings w new)
    (hget : ∀ n, wrappers.get? n =
      if n = b.wrappers.size then some ⟨w, r, w.ownership == .owned⟩ else b.wrappers.get? n)
    (hholders : ∀ n, wrappers.holders n =
      b.wrappers.holders n + tally (.wrapper n) (.wrapper w ::ₘ new))
    (hnumber : w.number = b.wrappers.size) (ha : b.arenas.get? r.number = some a)
    (hused : b.arenas.holders r.number ≠ 0) (hnone : a.find? w.object = none)
    (hpledged : (b.file wrappers r w).pledged = b.pledged + new)
    (hone : tally (.object w.object) new = 1) :
    Balanced c 0 (.wrapper w ::ₘ held) (b.file wrappers r w) := by
  have hself : wrappers.get? w.number = some ⟨w, r, w.ownership == .owned⟩ := by
    rw [hget, if_pos hnumber]
  have hothers : ∀ n, n ≠ b.wrappers.size → wrappers.holders n = b.wrappers.holders n := by
    intro n hn
    have hne : w.number ≠ n := by omega
    rw [hholders, tally_cons, hnew.tally_eq_zero
      (fun heq => hne (Account.wrapper.inj heq).symm) Account.noConfusion]
    simp [Release.account, hne]
  have hsingle := h.single_file hget hothers ha hused hnone
  rw [← Multiset.singleton_add] at h
  refine h.add new rfl rfl (h.formed.file hget hnumber ha hnone) hpledged
    (fun u hu => hu.file hget) ?_ ?_ ?_ ?_ ?_ hsingle
  · intro u hu
    rcases Multiset.mem_cons.mp hu with rfl | hu
    · exact ⟨_, hself, rfl⟩
    · exact hnew.knows ⟨_, hself, rfl⟩ hu
  · intro acc hacc
    rw [tally_singleton, if_neg (fun heq => by rw [← heq] at hacc; exact hacc), Nat.add_zero]
    cases acc with
    | object o => exact absurd hacc id
    | wrapper n => exact hholders n
    | _ n =>
      rw [tally_cons, hnew.tally_eq_zero Account.noConfusion Account.noConfusion]
      simp [Books.holders, Books.file, Release.account]
  · intro o
    rw [tally_cons_of_isShared (t := .wrapper w) trivial, tally_singleton]
    by_cases ho : o = w.object
    · rw [ho, hone]
      exact if_pos rfl
    · rw [hnew.tally_eq_zero Account.noConfusion fun heq => ho (Account.object.inj heq)]
      exact if_neg fun heq => ho (Account.object.inj heq).symm
  · intro w' hw' entry hentry
    obtain rfl : w' = w := (Multiset.mem_cons.mp hw').elim Release.wrapper.inj hnew.wrapper_eq
    have hentry' : wrappers.get? w'.number = some entry := hentry
    rw [hself] at hentry'
    obtain rfl := Option.some.inj hentry'
    exact Books.Stands.file_new c wrappers ha hused
  · intro w' entry hentry hold
    exact ⟨Books.get?_wrappers_of_old hget hentry, hold.file_old ha hnone⟩

end

/-- An owned wrapper has the reference for its own. -/
theorem addOwned (h : Balanced c 0 (.object w.object ::ₘ held) b)
    (hnumber : w.number = b.wrappers.size) (hw : w.ownership = .owned)
    (ha : b.arenas.get? r.number = some a) (hused : b.arenas.holders r.number ≠ 0)
    (hnone : a.find? w.object = none) :
    Balanced c 0 (.wrapper w ::ₘ held) (b.file (b.wrappers.add ⟨w, r, true⟩) r w) := by
  have hreleases : (w.ownership == .owned) = true := by rw [hw]; rfl
  have hone : tally (.object w.object) {Release.object w.object} = 1 := by
    rw [tally_singleton]
    exact if_pos rfl
  have hnew : Brings w {.object w.object} := by
    intro u hu
    exact Or.inr (Or.inl (Multiset.mem_singleton.mp hu))
  apply h.addFiled hnew ?_ ?_ hnumber ha hused hnone ?_ hone
  · rw [hreleases]
    exact SharedTable.get?_add _ _
  · intro n
    rw [SharedTable.holders_add_size, tally_cons, tally_singleton, ← hnumber]
    simp [Release.account]
  · have harenas := arenas_pledges_insert ha hused hnone
    have hnot : ¬ w.ownership = .borrowed := by
      rw [hw]
      exact Ownership.noConfusion
    rw [if_neg hnot, Multiset.coe_nil, add_zero] at harenas
    have hpledge : WrapperRecord.pledge ⟨w, r, true⟩ = [.object w.object] := rfl
    simp only [Books.pledged, Books.file, harenas, SharedTable.pledges_add, hpledge,
      Multiset.coe_singleton]
    abel

/-- A borrowed wrapper is held by the arena too, which keeps the reference
for it. -/
theorem addBorrowed (h : Balanced c 0 (.object w.object ::ₘ held) b)
    (hnumber : w.number = b.wrappers.size) (hw : w.ownership = .borrowed)
    (ha : b.arenas.get? r.number = some a) (hused : b.arenas.holders r.number ≠ 0)
    (hnone : a.find? w.object = none) :
    Balanced c 0 (.wrapper w ::ₘ held)
      (b.file ((b.wrappers.add ⟨w, r, false⟩).hold w.number) r w) := by
  have hreleases : (w.ownership == .owned) = false := by rw [hw]; rfl
  have hone : (b.wrappers.add ⟨w, r, false⟩).holders w.number ≠ 0 := by
    rw [SharedTable.holders_add, if_pos hnumber]
    exact Nat.one_ne_zero
  have hnew : Brings w (.wrapper w ::ₘ {.defensive w.object}) := by
    intro u hu
    rcases Multiset.mem_cons.mp hu with rfl | hu
    · exact Or.inl rfl
    · exact Or.inr (Or.inr (Multiset.mem_singleton.mp hu))
  apply h.addFiled hnew ?_ ?_ hnumber ha hused hnone
  · have harenas := arenas_pledges_insert ha hused hnone
    rw [if_pos hw] at harenas
    have hidle : (idleReleases w : Multiset Release) = .wrapper w ::ₘ {.defensive w.object} := rfl
    have hpledge : WrapperRecord.pledge ⟨w, r, false⟩ = [] := rfl
    simp only [Books.pledged, Books.file, harenas, SharedTable.pledges_hold hone,
      SharedTable.pledges_add, hpledge, hidle, Multiset.coe_nil]
    abel
  · rw [tally_cons_of_isShared (t := .wrapper w) trivial, tally_singleton]
    exact if_pos rfl
  · intro n
    rw [SharedTable.get?_hold, SharedTable.get?_add, hreleases]
  · intro n
    rw [SharedTable.holders_hold, SharedTable.holders_add_size, SharedTable.size_add, tally_cons,
      tally_cons, tally_singleton, ← hnumber]
    by_cases hn : n = w.number
    · subst hn
      simp [Release.account]
    · have hne : w.number ≠ n := fun heq => hn heq.symm
      simp [Release.account, hn, hne]

end Balanced

/-! ## Entries that go -/

namespace Arena

variable {a : Arena} {gone : ObjectWrapper → Bool}

/-- What the entries that go release, and what the others keep. -/
theorem pledge_eraseAll (a : Arena) (gone : ObjectWrapper → Bool) :
    (a.pledge : Multiset Release) =
      (a.borrowed.filter gone).flatMap idleReleases + (a.eraseAll gone).pledge := by
  have hkept : (a.eraseAll gone).borrowed = a.borrowed.filter (!gone ·) := by
    simp only [borrowed, wrappers, eraseAll, Table.filter, List.filter_map, List.filter_filter,
      Function.comp_def]
    simp only [Bool.and_comm]
  rw [pledge, pledge, hkept, flatMap_filter_add]

theorem Filed.eraseAll {b : Books} {r : Nat} (h : a.Filed b r) (gone : ObjectWrapper → Bool) :
    (a.eraseAll gone).Filed b r where
  keys_nodup := (List.filter_sublist.map _).nodup h.keys_nodup
  known o w hw := h.known o w (List.mem_filter.mp hw).1

theorem Filed.find?_eraseAll {b : Books} {r : Nat} (h : a.Filed b r) {o : ObjectId}
    {w : ObjectWrapper} :
    (a.eraseAll gone).find? o = some w ↔ a.find? o = some w ∧ gone w = false := by
  rw [(h.eraseAll gone).find?_eq_some, h.find?_eq_some]
  simp [Arena.eraseAll, Table.filter, List.mem_filter]

/-- The entry of one object goes. -/
theorem Filed.erase_eq {b : Books} {r : Nat} (h : a.Filed b r) (o : ObjectId) :
    a.erase o = a.eraseAll fun w => w.object == o := by
  simp only [erase, Table.erase, Arena.eraseAll, Table.filter, Table.remove_eq_filter]
  congr 2
  apply List.filter_congr
  rintro ⟨key, w⟩ hw
  obtain ⟨rfl, -⟩ := h.known key w hw
  by_cases ho : w.object = o <;> simp [ho]

end Arena

theorem SharedTable.modify_congr {α : Type} {t : SharedTable α} {n : Nat} {f g : α → α}
    (h : ∀ x, t.get? n = some x → f x = g x) : t.modify n f = t.modify n g := by
  simp only [modify, mk.injEq]
  apply Array.ext_getElem?
  intro i
  simp only [Array.getElem?_modify]
  by_cases hi : n = i
  · subst hi
    cases hcell : t.cells[n]? with
    | none => simp
    | some cell => simp [h cell.content (by simp [get?, hcell])]
  · simp [hi]

namespace Books

/-- The books when entries have gone from an arena. -/
def eraseEntries (b : Books) (r : RuntimeId) (gone : ObjectWrapper → Bool) : Books :=
  { b with arenas := b.arenas.modify r.number (·.eraseAll gone) }

variable {b : Books} {r : RuntimeId} {a : Arena} {gone : ObjectWrapper → Bool}

theorem get?_eraseEntries (n : Nat) : (b.eraseEntries r gone).arenas.get? n =
    if n = r.number then (b.arenas.get? n).map (·.eraseAll gone) else b.arenas.get? n :=
  SharedTable.get?_modify _ _ _ _

theorem holders_eraseEntries (acc : Account) :
    (b.eraseEntries r gone).holders acc = b.holders acc := by
  cases acc <;> first | rfl | exact SharedTable.holders_modify _ _ _ _

theorem Formed.eraseEntries (h : b.Formed) : (b.eraseEntries r gone).Formed where
  numbered n entry hentry := by
    unfold Books.eraseEntries
    rw [SharedTable.size_modify]
    exact h.numbered n entry hentry
  filed n a' ha' := by
    have hretains : b.Retains (b.eraseEntries r gone) := .of_get? fun _ => rfl
    rw [get?_eraseEntries] at ha'
    split at ha'
    · obtain ⟨old, hold, rfl⟩ := Option.map_eq_some_iff.mp ha'
      exact hretains.filed ((h.filed n old hold).eraseAll gone)
    · exact hretains.filed (h.filed n a' ha')
  sorted := h.sorted

theorem pledged_eraseEntries (gone : ObjectWrapper → Bool)
    (ha : b.arenas.get? r.number = some a) (hused : b.arenas.holders r.number ≠ 0) :
    b.pledged = ((a.borrowed.filter gone).flatMap idleReleases : List Release) +
      (b.eraseEntries r gone).pledged := by
  have hmodify := SharedTable.pledges_modify Arena.pledge (·.eraseAll gone) hused ha
  rw [Arena.pledge_eraseAll a gone,
    add_comm (((a.borrowed.filter gone).flatMap idleReleases : List Release) : Multiset Release),
    add_assoc] at hmodify
  simp only [Books.pledged, Books.eraseEntries]
  rw [add_left_cancel hmodify]
  abel

/-- A wrapper whose entry stays is in order as before. -/
theorem Stands.eraseEntries {c : Conduct} {w : ObjectWrapper} {entry : WrapperRecord}
    (h : b.Stands c w entry) (ha : b.arenas.get? r.number = some a) (hfiled : a.Filed b r.number)
    (hstays : a.find? w.object = some w → gone w = false) :
    (b.eraseEntries r gone).Stands c w entry := by
  have hholders : (b.eraseEntries r gone).arenas.holders entry.maker.number =
      b.arenas.holders entry.maker.number := SharedTable.holders_modify _ _ _ _
  refine ⟨fun hinuse => ?_, by rw [hholders]; exact h.owning, h.gives⟩
  rw [hholders] at hinuse
  obtain ⟨a', ha', hfind⟩ := h.listed hinuse
  rw [get?_eraseEntries]
  split
  · rename_i hr
    rw [hr, ha] at ha'
    obtain rfl := Option.some.inj ha'
    exact ⟨a.eraseAll gone, by rw [hr, ha]; rfl, hfiled.find?_eraseAll.mpr ⟨hfind, hstays hfind⟩⟩
  · exact ⟨a', ha', hfind⟩

/-- The books when a wrapper was handed a reference. -/
def handOver (b : Books) (w : ObjectWrapper) : Books :=
  { b with wrappers := System.handOver b.wrappers w }

theorem get?_handOver {w : ObjectWrapper} {n : Nat} {entry : WrapperRecord}
    (hentry : (b.handOver w).wrappers.get? n = some entry) :
    ∃ old, b.wrappers.get? n = some old ∧ entry.wrapper = old.wrapper ∧
      entry.maker = old.maker ∧ (old.releases = true → entry.releases = true) := by
  rw [handOver, System.handOver, SharedTable.get?_modify] at hentry
  split at hentry
  · obtain ⟨old, hold, rfl⟩ := Option.map_eq_some_iff.mp hentry
    exact ⟨old, hold, rfl, rfl, fun _ => rfl⟩
  · exact ⟨entry, hentry, rfl, rfl, id⟩

theorem retains_handOver (w : ObjectWrapper) : b.Retains (b.handOver w) := by
  intro n old hentry
  simp only [handOver, System.handOver, SharedTable.get?_modify]
  split
  · exact ⟨{ old with releases := true }, by rw [hentry]; rfl, rfl, rfl⟩
  · exact ⟨old, hentry, rfl, rfl⟩

theorem holders_handOver (w : ObjectWrapper) (acc : Account) :
    (b.handOver w).holders acc = b.holders acc := by
  cases acc <;> first | rfl | exact SharedTable.holders_modify _ _ _ _

theorem Formed.handOver (h : b.Formed) (w : ObjectWrapper) : (b.handOver w).Formed where
  numbered n entry hentry := by
    obtain ⟨old, hold, hwrapper, hmaker, -⟩ := get?_handOver hentry
    rw [hwrapper, hmaker]
    exact h.numbered n old hold
  filed n a ha := (retains_handOver w).filed (h.filed n a ha)
  sorted := h.sorted

end Books

namespace Balanced

variable {c : Conduct} {held : Multiset Release} {b : Books} {r : RuntimeId} {a : Arena}

section

variable {gone : ObjectWrapper → Bool} {w : ObjectWrapper}

/-- A wrapper that someone else than the arena holds does not go. -/
theorem not_gone_of_held (h : Balanced c 0 held b) (ha : b.arenas.get? r.number = some a)
    (hused : b.arenas.holders r.number ≠ 0)
    (hgone : ∀ w ∈ a.wrappers, gone w = true →
      b.wrappers.holders w.number = if w.ownership = .borrowed then 1 else 0)
    (hw : .wrapper w ∈ held + (b.eraseEntries r gone).pledged) (hin : w ∈ a.wrappers) :
    gone w = false := by
  by_contra hgo
  rw [Bool.not_eq_false] at hgo
  have hone := hgone w hin hgo
  have hcounted := h.counts.counted (.wrapper w.number) trivial
  rw [Books.pledged_eraseEntries gone ha hused] at hcounted
  have hheld := tally_ne_zero_of_mem hw
  simp only [Books.holders, tally_add, tally_zero, Release.account] at hcounted hheld
  split at hone
  · rename_i hborrowed
    have hreleased : tally (.wrapper w.number)
        ((a.borrowed.filter gone).flatMap idleReleases : List Release) ≠ 0 := by
      apply tally_ne_zero_of_mem (t := .wrapper w)
      apply List.mem_flatMap.mpr
      refine ⟨w, ?_, List.mem_cons_self⟩
      exact List.mem_filter.mpr ⟨List.mem_filter.mpr ⟨hin, by simp [hborrowed]⟩, hgo⟩
    omega
  · omega

/-- Entries may go when nobody but the arena holds their wrappers. What the
arena kept for them is due then. -/
theorem eraseEntries (h : Balanced c 0 held b) (gone : ObjectWrapper → Bool)
    (ha : b.arenas.get? r.number = some a) (hused : b.arenas.holders r.number ≠ 0)
    (hgone : ∀ w ∈ a.wrappers, gone w = true →
      b.wrappers.holders w.number = if w.ownership = .borrowed then 1 else 0) :
    Balanced c ((a.borrowed.filter gone).flatMap idleReleases : List Release) held
      (b.eraseEntries r gone) := by
  have hpledged := Books.pledged_eraseEntries gone ha hused
  have hall : 0 + (held + b.pledged) = ((a.borrowed.filter gone).flatMap idleReleases :
      List Release) + (held + (b.eraseEntries r gone).pledged) := by
    rw [hpledged, zero_add]
    abel
  have hcounts := h.counts
  rw [hall] at hcounts
  refine ⟨h.formed.eraseEntries, ⟨hcounts.known, ?_⟩, ?_, ?_, h.single⟩
  · intro acc hacc
    rw [Books.holders_eraseEntries, hcounts.counted acc hacc]
  · intro w hw entry hentry
    have hmem : .wrapper w ∈ held + b.pledged := by
      rw [hpledged]
      rcases Multiset.mem_add.mp hw with hw | hw
      · exact Multiset.mem_add.mpr (Or.inl hw)
      · exact Multiset.mem_add.mpr (Or.inr (Multiset.mem_add.mpr (Or.inr hw)))
    apply (h.standing w hmem entry hentry).eraseEntries ha (h.formed.filed r.number a ha)
    intro hfind
    exact h.not_gone_of_held ha hused hgone hw (Arena.Filed.mem_of_find? hfind)
  · intro hc hfull
    have hexact := h.exact hc hfull
    rw [hall] at hexact
    exact ⟨hexact.counted, hexact.positive, hexact.bounded, hexact.in_time⟩

end

/-- What is held or pledged when a wrapper was handed a reference was so before,
but for references. -/
theorem mem_of_mem_handOver {w : ObjectWrapper} {t : Release}
    (ht : t ∈ held + (b.handOver w).pledged) : (∃ o, t = .object o) ∨ t ∈ held + b.pledged := by
  rcases Multiset.mem_add.mp ht with ht | ht
  · exact Or.inr (Multiset.mem_add.mpr (Or.inl ht))
  · exact (Books.mem_pledged_wrappers ht).imp_right fun ht => Multiset.mem_add.mpr (Or.inr ht)

/-- Under any conduct a wrapper may be handed a reference that its holder
has or has not. -/
theorem adopt (h : Balanced .any 0 held b) (w : ObjectWrapper) :
    Balanced .any 0 held (b.handOver w) := by
  refine ⟨h.formed.handOver w, ⟨?_, ?_⟩, ?_, fun hc => Conduct.noConfusion hc, ?_⟩
  · intro t ht
    rw [zero_add] at ht
    rcases mem_of_mem_handOver ht with ⟨o, rfl⟩ | ht
    · trivial
    · have hknown := h.counts.known t (by rwa [zero_add])
      cases t with
      | wrapper w' => exact (Books.retains_handOver w).knows_wrapper hknown
      | _ => exact hknown
  · intro acc hacc
    rw [Books.holders_handOver, h.counts.counted acc hacc]
    simp only [Books.pledged, Books.handOver, tally_add, tally_wrapper_pledges hacc]
  · intro w' hw' entry hentry
    obtain ⟨old, hold, -, hmaker, hreleases⟩ := Books.get?_handOver hentry
    rcases mem_of_mem_handOver hw' with ⟨o, ho⟩ | hmem
    · exact Release.noConfusion ho
    · have hstands := h.standing w' hmem old hold
      refine ⟨?_, fun hc => Conduct.noConfusion hc, fun hw => hreleases (hstands.gives hw)⟩
      rw [hmaker]
      exact hstands.listed
  · apply h.single.mono
    intro n entry hn hused
    obtain ⟨old, hold, hwrapper, hmaker, -⟩ := Books.get?_handOver hn
    refine ⟨?_, old, hold, hwrapper.symm, hmaker.symm⟩
    rwa [Books.handOver, System.handOver, SharedTable.holders_modify] at hused

end Balanced

end NativeBridge
