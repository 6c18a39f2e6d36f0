-- The lives of closures and objects along a run in small steps. A closure is
-- made once and ends once, with its last holder; an object is finalized once,
-- with its last reference; and whatever follows from an end comes to an end
-- itself.
import NativeBridge.Proofs.ClosureStages
import NativeBridge.Proofs.HandlerRuns

namespace NativeBridge

variable {σ : Type}

/-! ## What the happenings tell -/

namespace Happening

def heap? : Happening → Option (Heap.Event Subscriber)
  | heap e => some e
  | _ => none

def made? : Happening → Option Closure
  | made x => some x
  | _ => none

/-- The end of the closure with this number. -/
def ends (n : Nat) : Happening → Bool
  | ended x => x.id.number == n
  | _ => false

/-- Whether it happens to a closure. -/
def isOfClosure : Happening → Bool
  | heap _ => false
  | _ => true

end Happening

/-- What happens to the objects. -/
def heapEvents (es : List Happening) : List (Heap.Event Subscriber) := es.filterMap (·.heap?)

/-- The closures that are made, the oldest first. -/
def madeClosures (es : List Happening) : List Closure := es.filterMap (·.made?)

theorem heapEvents_append (es new : List Happening) :
    heapEvents (es ++ new) = heapEvents es ++ heapEvents new := List.filterMap_append

theorem madeClosures_append (es new : List Happening) :
    madeClosures (es ++ new) = madeClosures es ++ madeClosures new := List.filterMap_append

theorem mem_madeClosures {es : List Happening} {x : Closure} :
    x ∈ madeClosures es ↔ .made x ∈ es := by
  unfold madeClosures
  rw [List.mem_filterMap]
  constructor
  · rintro ⟨e, he, hx⟩
    cases e with
    | made y =>
      obtain rfl := Option.some.inj hx
      exact he
    | heap e => exact absurd hx (by simp [Happening.made?])
    | ended y => exact absurd hx (by simp [Happening.made?])
  · exact fun hx => ⟨_, hx, rfl⟩

theorem madeClosures_quiet {es : List Happening} (h : ∀ e ∈ es, e.isOfClosure = false) :
    madeClosures es = [] := by
  apply List.filterMap_eq_nil_iff.mpr
  intro e he
  have hquiet := h e he
  cases e with
  | heap e => rfl
  | _ => exact absurd hquiet (by simp [Happening.isOfClosure])

theorem countP_ends_quiet {es : List Happening} (h : ∀ e ∈ es, e.isOfClosure = false) (n : Nat) :
    es.countP (·.ends n) = 0 := by
  apply List.countP_eq_zero.mpr
  intro e he
  have hquiet := h e he
  cases e with
  | heap e => simp [Happening.ends]
  | _ => exact absurd hquiet (by simp [Happening.isOfClosure])

/-! ## The table of closures -/

namespace SharedTable

variable {α : Type}

/-- All that was ever added, the oldest first. -/
def contents (t : SharedTable α) : List α := t.cells.toList.map (·.content)

theorem getElem?_contents (t : SharedTable α) (n : Nat) : t.contents[n]? = t.get? n := by
  simp [contents, get?]

theorem length_contents (t : SharedTable α) : t.contents.length = t.size := by
  simp [contents, size]

theorem contents_add (t : SharedTable α) (x : α) : (t.add x).contents = t.contents ++ [x] := by
  simp [contents, add]

theorem contents_eq_of_get? {t t' : SharedTable α} (h : ∀ n, t'.get? n = t.get? n) :
    t'.contents = t.contents := by
  apply List.ext_getElem?
  intro n
  rw [getElem?_contents, getElem?_contents, h]

end SharedTable

/-- At most holders have changed, and not the first or the last one of anything. -/
structure Sustains (t t' : SharedTable Closure) : Prop where
  contents : t'.contents = t.contents
  held : ∀ n, t'.holders n = 0 ↔ t.holders n = 0

namespace Sustains

variable {t t' t'' : SharedTable Closure}

theorem refl (t : SharedTable Closure) : Sustains t t := ⟨rfl, fun _ => Iff.rfl⟩

theorem trans (h : Sustains t t') (h' : Sustains t' t'') : Sustains t t'' :=
  ⟨h'.contents.trans h.contents, fun n => (h'.held n).trans (h.held n)⟩

theorem hold {n : Nat} (hn : t.holders n ≠ 0) : Sustains t (t.hold n) where
  contents := SharedTable.contents_eq_of_get? fun _ => SharedTable.get?_hold _ _ _
  held := SharedTable.holders_hold_eq_zero hn

theorem drop {n : Nat} (hn : t.holders n ≠ 1) : Sustains t (t.drop n) where
  contents := SharedTable.contents_eq_of_get? fun _ => SharedTable.get?_drop _ _ _
  held := SharedTable.holders_drop_eq_zero hn

theorem size (h : Sustains t t') : t'.size = t.size := by
  rw [← SharedTable.length_contents, h.contents, SharedTable.length_contents]

theorem get? (h : Sustains t t') (n : Nat) : t'.get? n = t.get? n := by
  rw [← SharedTable.getElem?_contents, h.contents, SharedTable.getElem?_contents]

end Sustains

/-- What one step does to the table of closures. -/
inductive Turn (t : SharedTable Closure) : List Happening → SharedTable Closure → Prop where
  | sustained {es : List Happening} {t' : SharedTable Closure} (hsustains : Sustains t t')
    (hquiet : ∀ e ∈ es, e.isOfClosure = false) : Turn t es t'
  | made (x : Closure) (hx : x.id.number = t.size) : Turn t [.made x] (t.add x)
  | ended (x : Closure) (hknown : t.get? x.id.number = some x)
    (hlast : t.holders x.id.number = 1) : Turn t [.ended x] (t.drop x.id.number)

/-- Nothing happens, to closures or at all. -/
theorem Sustains.turn {t t' : SharedTable Closure} (h : Sustains t t') : Turn t [] t' :=
  .sustained h fun _ he => absurd he List.not_mem_nil

/-- What the happenings of a run have to do with the table of closures: each
closure is made once, and ends once when it has no holders any more. -/
structure Chronicled (es : List Happening) (t : SharedTable Closure) : Prop where
  made : madeClosures es = t.contents
  numbered : ∀ n x, t.get? n = some x → x.id.number = n
  ended : ∀ x, .ended x ∈ es → t.get? x.id.number = some x
  once : ∀ n, es.countP (·.ends n) + (if t.holders n = 0 then 0 else 1) =
    if n < t.size then 1 else 0

namespace Chronicled

variable {es new : List Happening} {t t' : SharedTable Closure}

theorem start : Chronicled [] {} where
  made := rfl
  numbered n x hx := absurd hx (by simp [SharedTable.get?])
  ended x hx := absurd hx List.not_mem_nil
  once n := by simp [SharedTable.holders, SharedTable.size]

theorem sustain (h : Chronicled es t) (hsustains : Sustains t t')
    (hquiet : ∀ e ∈ new, e.isOfClosure = false) : Chronicled (es ++ new) t' where
  made := by
    rw [madeClosures_append, madeClosures_quiet hquiet, List.append_nil, h.made,
      hsustains.contents]
  numbered n x hx := h.numbered n x (by rwa [hsustains.get?] at hx)
  ended x hx := by
    rw [hsustains.get?]
    rcases List.mem_append.mp hx with hx | hx
    · exact h.ended x hx
    · exact absurd (hquiet _ hx) (by simp [Happening.isOfClosure])
  once n := by
    rw [List.countP_append, countP_ends_quiet hquiet, Nat.add_zero, hsustains.size]
    simp only [hsustains.held n]
    exact h.once n

theorem make (h : Chronicled es t) {x : Closure} (hx : x.id.number = t.size) :
    Chronicled (es ++ [.made x]) (t.add x) where
  made := by
    rw [madeClosures_append, h.made, SharedTable.contents_add]
    rfl
  numbered n y hy := by
    rw [SharedTable.get?_add] at hy
    split at hy
    · rename_i hn
      obtain rfl := Option.some.inj hy
      rw [hx, hn]
    · exact h.numbered n y hy
  ended y hy := by
    rcases List.mem_append.mp hy with hy | hy
    · exact SharedTable.get?_add_of_some (h.ended y hy)
    · exact absurd (List.mem_singleton.mp hy) (by simp)
  once n := by
    have honce := h.once n
    rw [List.countP_append, SharedTable.size_add]
    have hnone : List.countP (·.ends n) [Happening.made x] = 0 := rfl
    rw [hnone, Nat.add_zero, SharedTable.holders_add]
    by_cases hn : n = t.size
    · subst hn
      rw [SharedTable.holders_size, if_pos rfl, if_neg (Nat.lt_irrefl _)] at honce
      rw [if_pos rfl, if_neg Nat.one_ne_zero, if_pos (Nat.lt_succ_self _)]
      omega
    · have hlt : n < t.size + 1 ↔ n < t.size := by omega
      simp only [if_neg hn, hlt]
      exact honce

theorem finish (h : Chronicled es t) {x : Closure} (hknown : t.get? x.id.number = some x)
    (hlast : t.holders x.id.number = 1) :
    Chronicled (es ++ [.ended x]) (t.drop x.id.number) where
  made := by
    have hcontents : (t.drop x.id.number).contents = t.contents :=
      SharedTable.contents_eq_of_get? fun _ => SharedTable.get?_drop _ _ _
    rw [madeClosures_append, hcontents, ← h.made]
    exact List.append_nil _
  numbered n y hy := h.numbered n y (by rwa [SharedTable.get?_drop] at hy)
  ended y hy := by
    rw [SharedTable.get?_drop]
    rcases List.mem_append.mp hy with hy | hy
    · exact h.ended y hy
    · obtain rfl := Happening.ended.inj (List.mem_singleton.mp hy)
      exact hknown
  once n := by
    have honce := h.once n
    rw [List.countP_append, SharedTable.size_drop, SharedTable.holders_drop]
    by_cases hn : n = x.id.number
    · subst hn
      have hone : List.countP (·.ends x.id.number) [Happening.ended x] = 1 := by
        simp [Happening.ends]
      rw [hlast, if_neg Nat.one_ne_zero] at honce
      rw [hone, if_pos rfl, hlast, Nat.sub_self, if_pos rfl]
      omega
    · have hnone : List.countP (·.ends n) [Happening.ended x] = 0 := by
        simp [Happening.ends, Ne.symm hn]
      rw [hnone, if_neg hn]
      exact honce

theorem turn (h : Chronicled es t) (hturn : Turn t new t') : Chronicled (es ++ new) t' := by
  cases hturn with
  | sustained hsustains hquiet => exact h.sustain hsustains hquiet
  | made x hx => exact h.make hx
  | ended x hknown hlast => exact h.finish hknown hlast

/-- The closures that were made are those on record. -/
theorem made_iff (h : Chronicled es t) (x : Closure) :
    .made x ∈ es ↔ t.get? x.id.number = some x := by
  rw [← mem_madeClosures, h.made, List.mem_iff_getElem?]
  simp only [SharedTable.getElem?_contents]
  constructor
  · rintro ⟨n, hn⟩
    rwa [h.numbered n x hn]
  · exact fun hx => ⟨_, hx⟩

theorem numbers (h : Chronicled es t) :
    (madeClosures es).map (·.id.number) = List.range t.size := by
  rw [h.made]
  apply List.ext_getElem?
  intro n
  rw [List.getElem?_map, SharedTable.getElem?_contents]
  by_cases hn : n < t.size
  · obtain ⟨x, hx⟩ := SharedTable.get?_of_lt_size hn
    rw [hx, Option.map_some, h.numbered n x hx, List.getElem?_range hn]
  · rw [List.getElem?_eq_none (by rw [List.length_range]; omega)]
    cases hx : t.get? n with
    | none => rfl
    | some x => exact absurd (SharedTable.lt_size_of_get? hx) hn

end Chronicled

/-! ## What steps do to closures -/

namespace System

variable (s : System σ)

theorem releaseReference_closures (o : ObjectId) (report : ObjectId → NativeError → Notice) :
    (s.releaseReference o report).2.closures = s.closures := by
  unfold releaseReference
  split <;> rfl

/-- Only a holder of a closure changes the table of closures. -/
theorem releaseOne_closures (t : Release) :
    (s.releaseOne t).2.closures =
      match t with
      | .closure x => s.closures.drop x.id.number
      | _ => s.closures := by
  cases t with
  | object o => exact s.releaseReference_closures o _
  | defensive o => exact s.releaseReference_closures o _
  | boxed w =>
    obtain ⟨told, -, hdone⟩ := s.releaseOne_boxed w
    rw [hdone]
  | callable c => rfl
  | _ =>
    simp only [releaseOne]
    split <;> rfl

theorem loses_quiet (h : Heap Subscriber) (o : ObjectId) :
    ∀ e ∈ h.loses o, e.isOfClosure = false := by
  unfold Heap.loses
  split <;> simp [Happening.isOfClosure]

theorem releaseOne_turn {t : Release} (ht : s.books.Knows t) :
    Turn s.closures (s.happens t) (s.releaseOne t).2.closures := by
  rw [releaseOne_closures]
  cases t with
  | object o => exact .sustained (.refl _) (loses_quiet s.heap o)
  | defensive o => exact .sustained (.refl _) (loses_quiet s.heap o)
  | closure x =>
    unfold happens
    dsimp only
    split
    · rename_i hlast
      exact .ended x ht hlast
    · rename_i hmore
      exact (Sustains.drop hmore).turn
  | _ => exact (Sustains.refl _).turn

theorem keep_sustains {t : Release} (ht : s.InUse t) : Sustains s.closures (s.keep t).closures := by
  cases t with
  | closure x => exact .hold ht.2.2
  | _ => exact .refl _

theorem keepAll_sustains (ts : List Release) (hts : ∀ t ∈ ts, s.InUse t) :
    Sustains s.closures (ts.foldl keep s).closures := by
  induction ts generalizing s with
  | nil => exact .refl _
  | cons t ts ih =>
    have ht := hts t List.mem_cons_self
    exact (s.keep_sustains ht).trans
      (ih (s.keep t) fun u hu => (hts u (List.mem_cons_of_mem t hu)).keep ht)

theorem addClosure_closures (r : RuntimeId) (callable : Callable) (data : Option Handle)
    (swap : Bool) (marshaller : Option Marshaller) (origin : Option String) :
    (s.addClosure r callable data swap marshaller origin).2.closures =
      s.closures.add (s.addClosure r callable data swap marshaller origin).1 := by
  cases data with
  | none => rfl
  | some handle => cases handle <;> rfl

end System

namespace Stage

variable {a b : Stage σ} {es : List Happening}

/-- What one step does to the table of closures. -/
theorem Step.turn (h : Step a es b) (ha : a.Sound) :
    Turn a.system.closures es b.system.closures := by
  obtain ⟨-, hbalanced⟩ := ha
  cases h with
  | settle s t rest kept snapshots =>
    have hknown : s.books.Knows t := by
      apply hbalanced.counts.known
      exact Multiset.mem_add.mpr (Or.inl List.mem_cons_self)
    exact s.releaseOne_turn hknown
  | work hwork =>
    rw [hwork.closures]
    exact (Sustains.refl _).turn
  | keep hused => exact (System.keep_sustains _ hused).turn
  | newClosure r callable data swap marshaller origin kept snapshots hparts =>
    rename_i s
    rw [System.addClosure_closures]
    apply Turn.made
    cases data with
    | none => rfl
    | some handle => cases handle <;> rfl
  | unref kept snapshots hdone => exact .sustained (.refl _) (System.loses_quiet _ _)
  | beginEmission kept snapshots hdone =>
    obtain ⟨-, hused⟩ := hbalanced.emission_inUse hdone
    rw [System.holdSubscribers_eq_keep]
    exact (System.keepAll_sustains _ _ hused).turn
  | letGo => exact (Sustains.refl _).turn
  | sweep => exact (Sustains.refl _).turn
  | endEmission => exact (Sustains.refl _).turn
  | ref => exact (Sustains.refl _).turn
  | instantiate => exact .sustained (.refl _) (by simp [Happening.isOfClosure])
  | connect => exact .sustained (.refl _) (by simp [Happening.isOfClosure])
  | disconnect => exact .sustained (.refl _) (by simp [Happening.isOfClosure])

theorem Run.chronicled {guest : σ} (h : Run (start guest) es a) :
    Chronicled es a.system.closures := by
  induction h with
  | rest => exact .start
  | step before last ih => exact ih.turn (last.turn (before.sound (start_sound guest)))

end Stage

/-! ## What steps do to objects -/

namespace System

variable (s : System σ)

/-- A reference that is lost finalizes the object if it is the last one. -/
theorem loses_eq {o : ObjectId} {handlers : List (Connection Subscriber)} {heap : Heap Subscriber}
    (hdone : s.heap.unref o = .ok (handlers, heap)) :
    heapEvents (s.heap.loses o) = heap.lossOf o := by
  obtain ⟨object, hl, hdone⟩ := Heap.unref_ok hdone
  have hcount : s.heap.refCount? o = some object.refs := by rw [Heap.refCount?, hl]; rfl
  unfold Heap.loses
  rw [hcount]
  obtain ⟨hr, -, rfl⟩ | ⟨hr, -, rfl⟩ := hdone
  · rw [if_pos (congrArg some (Heap.sub_one_eq_zero.mp hr)), Heap.lossOf_vacate]
    rfl
  · have hmore : some object.refs ≠ some 1 := fun heq =>
      hr (Heap.sub_one_eq_zero.mpr (Option.some.inj heq))
    rw [if_neg hmore, Heap.lossOf_store _ hl]
    rfl

theorem releaseReference_run (o : ObjectId) (report : ObjectId → NativeError → Notice) :
    Heap.Run s.heap (heapEvents (s.heap.loses o)) (s.releaseReference o report).2.heap := by
  unfold releaseReference
  split
  · rename_i hdone
    rw [s.loses_eq hdone]
    exact (Heap.Step.unref hdone).run
  · rename_i e hfails
    have hloses : s.heap.loses o = [] := by
      unfold Heap.loses
      cases hl : s.heap.live? o with
      | none => simp [Heap.refCount?, hl]
      | some object =>
        rw [Heap.unref_of_live hl] at hfails
        split at hfails <;> exact absurd hfails (by simp)
    rw [hloses]
    exact .rest

theorem releaseOne_run (t : Release) :
    Heap.Run s.heap (heapEvents (s.happens t)) (s.releaseOne t).2.heap := by
  cases t with
  | object o => exact s.releaseReference_run o _
  | defensive o => exact s.releaseReference_run o _
  | boxed w =>
    obtain ⟨told, -, hdone⟩ := s.releaseOne_boxed w
    rw [hdone]
    exact .rest
  | callable c => exact .rest
  | closure x =>
    simp only [releaseOne, happens]
    split <;> split <;> exact .rest
  | _ =>
    simp only [releaseOne]
    split <;> exact .rest

theorem keepAll_heap (ts : List Release) : (ts.foldl keep s).heap = s.heap := by
  induction ts generalizing s with
  | nil => rfl
  | cons t ts ih =>
    rw [List.foldl_cons, ih]
    cases t <;> rfl

end System

namespace Stage

variable {a b : Stage σ} {es : List Happening}

/-- What one step does to the heap. -/
theorem Step.heapRun (h : Step a es b) :
    Heap.Run a.system.heap (heapEvents es) b.system.heap := by
  cases h with
  | settle s t rest kept snapshots => exact s.releaseOne_run t
  | work hwork => exact hwork.heap
  | keep hused =>
    rename_i s t kept snapshots
    have hheap : (s.keep t).heap = s.heap := s.keepAll_heap [t]
    rw [hheap]
    exact .rest
  | newClosure r callable data swap marshaller origin kept snapshots hparts =>
    cases data with
    | none => exact .rest
    | some handle => cases handle <;> exact .rest
  | instantiate kept snapshots hdone => exact (Heap.Step.instantiate hdone).run
  | ref kept snapshots hdone => exact (Heap.Step.ref hdone).run
  | unref kept snapshots hdone =>
    rw [System.loses_eq _ hdone]
    exact (Heap.Step.unref hdone).run
  | connect kept snapshots hdone => exact (Heap.Step.connect hdone).run
  | disconnect kept snapshots hdone => exact (Heap.Step.disconnect hdone).run
  | beginEmission kept snapshots hdone =>
    rw [System.holdSubscribers_eq_keep, System.keepAll_heap]
    exact (Heap.Step.beginEmission hdone).run
  | letGo => exact .rest
  | sweep => exact .rest
  | endEmission => exact .rest

theorem Run.heapRun (h : Run a es b) : Heap.Run a.system.heap (heapEvents es) b.system.heap := by
  induction h with
  | rest => exact .rest
  | step _ last ih =>
    rw [heapEvents_append]
    exact ih.trans last.heapRun

end Stage

/-! ## The moment of an event -/

theorem eq_of_loses {h : Heap Subscriber} {o p : ObjectId}
    (hloses : [.heap (.finalized o)] = h.loses p) :
    p = o ∧ ∃ object, h.live? o = some object ∧ object.refs = 1 := by
  unfold Heap.loses at hloses
  split at hloses
  · rename_i hcount
    obtain rfl := Heap.Event.finalized.inj (Happening.heap.inj (List.singleton_inj.mp hloses))
    obtain ⟨object, hl, hrefs⟩ := Option.map_eq_some_iff.mp hcount
    exact ⟨rfl, object, hl, hrefs⟩
  · exact absurd hloses (by simp)

theorem loses_ne_ended {h : Heap Subscriber} {o : ObjectId} {x : Closure} :
    [.ended x] ≠ h.loses o := by
  unfold Heap.loses
  split <;> simp

theorem unref_of_one {h : Heap Subscriber} {o : ObjectId} {object : LiveObject Subscriber}
    (hl : h.live? o = some object) (hone : object.refs = 1) :
    h.unref o = .ok (object.handlers, h.vacate o) := by
  rw [Heap.unref_of_live hl, hone]
  exact if_pos rfl

namespace Stage

variable {a b c : Stage σ} {es new before after : List Happening}

theorem happenings_loses (h : Heap Subscriber) (o : ObjectId) :
    h.loses o = [] ∨ ∃ e, h.loses o = [e] := by
  unfold Heap.loses
  split
  · exact Or.inr ⟨_, rfl⟩
  · exact Or.inl rfl

theorem Step.happenings (h : Step a new b) : new = [] ∨ ∃ e, new = [e] := by
  cases h with
  | settle s t rest kept snapshots =>
    cases t with
    | object o => exact happenings_loses s.heap o
    | defensive o => exact happenings_loses s.heap o
    | closure x =>
      unfold System.happens
      dsimp only
      split
      · exact Or.inr ⟨_, rfl⟩
      · exact Or.inl rfl
    | _ => exact Or.inl rfl
  | unref kept snapshots hdone => exact happenings_loses _ _
  | newClosure => exact Or.inr ⟨_, rfl⟩
  | instantiate => exact Or.inr ⟨_, rfl⟩
  | connect => exact Or.inr ⟨_, rfl⟩
  | disconnect => exact Or.inr ⟨_, rfl⟩
  | _ => exact Or.inl rfl

theorem Run.trans (h : Run a es b) (h' : Run b new c) : Run a (es ++ new) c := by
  induction h' with
  | rest => rwa [List.append_nil]
  | step _ last ih =>
    rw [← List.append_assoc]
    exact ih.step last

/-- A run taken apart at a happening. -/
theorem Run.split (h : Run a es c) {e : Happening} (hes : es = before ++ e :: after) :
    ∃ b d, Run a before b ∧ Step b [e] d ∧ Run d after c := by
  induction h generalizing after with
  | rest => exact absurd hes (by simp)
  | @step es new b c hbefore hlast ih =>
    rcases hlast.happenings with rfl | ⟨last, rfl⟩
    · rw [List.append_nil] at hes
      obtain ⟨b₁, b₂, hrun₁, hstep, hrun₂⟩ := ih hes
      refine ⟨b₁, b₂, hrun₁, hstep, ?_⟩
      rw [← List.append_nil after]
      exact hrun₂.step hlast
    · rcases concat_eq_append_cons hes with ⟨rfl, rfl, rfl⟩ | ⟨rest, hsame, rfl⟩
      · exact ⟨b, c, hbefore, hlast, .rest⟩
      · obtain ⟨b₁, b₂, hrun₁, hstep, hrun₂⟩ := ih hsame
        exact ⟨b₁, b₂, hrun₁, hstep, hrun₂.step hlast⟩

/-- A closure ends when its last holder goes, and its parts are due then. -/
theorem Step.ended {x : Closure} (h : Step a [.ended x] b) :
    ∃ rest, a.due = .closure x :: rest ∧ a.system.closures.holders x.id.number = 1 ∧
      b.due = x.releases ++ rest ∧ b.system.closures.holders x.id.number = 0 := by
  generalize hnew : [Happening.ended x] = new at h
  cases h with
  | settle s t rest kept snapshots =>
    cases t with
    | object o => exact absurd hnew loses_ne_ended
    | defensive o => exact absurd hnew loses_ne_ended
    | closure y =>
      unfold System.happens at hnew
      dsimp only at hnew
      split at hnew
      · rename_i hlast
        obtain rfl := Happening.ended.inj (List.singleton_inj.mp hnew)
        refine ⟨rest, rfl, hlast, ?_, ?_⟩
        · simp [System.releaseOne, hlast]
        · rw [System.releaseOne_closures, SharedTable.holders_drop, if_pos rfl, hlast]
      · exact absurd hnew (by simp)
    | _ => exact absurd hnew (by simp [System.happens])
  | unref kept snapshots hdone => exact absurd hnew loses_ne_ended
  | _ => exact absurd hnew (by simp)

/-- An object is finalized when its last reference goes, and what was connected
to it is due then. -/
theorem Step.finalized {o : ObjectId} (h : Step a [.heap (.finalized o)] b) :
    ∃ object, a.system.heap.live? o = some object ∧ object.refs = 1 ∧
      b.system.heap.isAlive o = false ∧
      b.due = handlerReleases object.handlers ++ a.due.tail := by
  have hdead : ∀ g : Heap Subscriber, (g.vacate o).isAlive o = false :=
    fun g => Heap.live?_eq_none_iff.mp Heap.live?_vacate_self
  generalize hnew : [Happening.heap (.finalized o)] = new at h
  cases h with
  | settle s t rest kept snapshots =>
    have hgone : ∀ (report : ObjectId → NativeError → Notice) (object : LiveObject Subscriber),
        s.heap.live? o = some object → object.refs = 1 →
        s.releaseReference o report =
          (handlerReleases object.handlers, { s with heap := s.heap.vacate o }) := by
      intro report object hl hone
      unfold System.releaseReference
      rw [unref_of_one hl hone]
    cases t with
    | object p =>
      obtain ⟨rfl, object, hl, hone⟩ := eq_of_loses hnew
      refine ⟨object, hl, hone, ?_⟩
      simp only [System.releaseOne, hgone _ object hl hone]
      exact ⟨hdead _, rfl⟩
    | defensive p =>
      obtain ⟨rfl, object, hl, hone⟩ := eq_of_loses hnew
      refine ⟨object, hl, hone, ?_⟩
      simp only [System.releaseOne, hgone _ object hl hone]
      exact ⟨hdead _, rfl⟩
    | closure y =>
      unfold System.happens at hnew
      dsimp only at hnew
      split at hnew <;> exact absurd hnew (by simp)
    | _ => exact absurd hnew (by simp [System.happens])
  | unref kept snapshots hdone =>
    obtain ⟨rfl, object, hl, hone⟩ := eq_of_loses hnew
    rw [unref_of_one hl hone] at hdone
    obtain ⟨rfl, rfl⟩ := Prod.mk.inj (Except.ok.inj hdone)
    exact ⟨object, hl, hone, hdead _, (List.append_nil _).symm⟩
  | _ => exact absurd hnew (by simp)

end Stage

/-! ## Carrying out what waits -/

namespace System

variable (s : System σ)

theorem releaseOne_exhausted (t : Release) : (s.releaseOne t).2.exhausted = s.exhausted := by
  have hreference : ∀ o report, (s.releaseReference o report).2.exhausted = s.exhausted := by
    intro o report
    unfold releaseReference
    split <;> rfl
  cases t with
  | object o => exact hreference o _
  | defensive o => exact hreference o _
  | boxed w =>
    obtain ⟨told, -, hdone⟩ := s.releaseOne_boxed w
    rw [hdone]
  | callable c => rfl
  | _ =>
    simp only [releaseOne]
    split <;> rfl

/-- A release is never cut off. -/
theorem release_exhausted (ts : List Release) : (s.release ts).exhausted = s.exhausted :=
  release_keeps (P := fun _ t => t.exhausted = s.exhausted)
    (fun first _ t h => (t.releaseOne_exhausted first).trans h) ts s rfl

end System

namespace Stage

/-- Carries out the next release, if one waits. -/
def carry (a : Stage σ) : Stage σ :=
  match a.due with
  | [] => a
  | t :: rest =>
    { a with system := (a.system.releaseOne t).2, due := (a.system.releaseOne t).1 ++ rest }

/-- All that waits and all that follows from it is carried out. -/
def settled (a : Stage σ) : Stage σ := { a with system := a.system.release a.due, due := [] }

/-- How many releases it takes at most. -/
def ahead (a : Stage σ) : Nat := a.due.length + a.system.releasesLeft

theorem carry_cons (s : System σ) (t : Release) (rest : List Release) (kept : Multiset Release)
    (snapshots : List (List Subscriber)) :
    carry ⟨s, t :: rest, kept, snapshots⟩ =
      ⟨(s.releaseOne t).2, (s.releaseOne t).1 ++ rest, kept, snapshots⟩ := rfl

/-- It comes to an end. -/
theorem iterate_carry {n : Nat} {a : Stage σ} (h : a.ahead ≤ n) : carry^[n] a = a.settled := by
  induction n generalizing a with
  | zero =>
    obtain ⟨s, due, kept, snapshots⟩ := a
    have hdue : due = [] := by
      apply List.length_eq_zero_iff.mp
      simp only [ahead] at h
      omega
    subst hdue
    simp [settled]
  | succ n ih =>
    obtain ⟨s, due, kept, snapshots⟩ := a
    rw [Function.iterate_succ_apply]
    cases due with
    | nil =>
      have hfixed : carry (⟨s, [], kept, snapshots⟩ : Stage σ) = ⟨s, [], kept, snapshots⟩ := rfl
      rw [hfixed, Function.iterate_fixed hfixed]
      simp [settled]
    | cons t rest =>
      have hone := s.releaseOne_shrinks t
      simp only [ahead, List.length_cons] at h
      rw [carry_cons, ih]
      · simp only [settled, System.release_cons]
      · simp only [ahead, List.length_append]
        omega

theorem run_carry (a : Stage σ) : ∃ es, Run a es a.carry := by
  obtain ⟨s, due, kept, snapshots⟩ := a
  cases due with
  | nil => exact ⟨[], .rest⟩
  | cons t rest => exact ⟨_, .step .rest (.settle s t rest kept snapshots)⟩

theorem run_iterate (n : Nat) (a : Stage σ) : ∃ es, Run a es (carry^[n] a) := by
  induction n with
  | zero => exact ⟨[], .rest⟩
  | succ n ih =>
    obtain ⟨es, hrun⟩ := ih
    obtain ⟨new, hlast⟩ := run_carry (carry^[n] a)
    rw [Function.iterate_succ_apply']
    exact ⟨es ++ new, hrun.trans hlast⟩

theorem run_settled (a : Stage σ) : ∃ es, Run a es a.settled := by
  rw [← iterate_carry (Nat.le_refl a.ahead)]
  exact run_iterate _ a

end Stage

end NativeBridge
