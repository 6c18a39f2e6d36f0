-- The books of the bridge. Everything that is counted has an account, and
-- every reference or holder is a release that will happen some day. Some
-- of them are pledged by things that exist: they happen when those end.
import Mathlib.Tactic
import NativeBridge.Proofs.Settling

namespace NativeBridge

/-! ## Accounts -/

/-- What a release counts for. -/
inductive Account where
  | object (o : ObjectId)
  | wrapper (number : Nat)
  | box (number : Nat)
  | callable (number : Nat)
  | closure (number : Nat)
  | callback (number : Nat)
  | bridge (number : Nat)
  deriving DecidableEq

def Release.account : Release → Account
  | .object o => .object o
  | .defensive o => .object o
  | .wrapper w => .wrapper w.number
  | .boxed w => .box w.number
  | .callable c => .callable c.number
  | .closure c => .closure c.id.number
  | .callback c => .callback c.number
  | .bridge r => .bridge r.number

/-- References to native objects are counted by the native side, and all
others are holders of shared things. -/
def Account.IsShared : Account → Prop
  | .object _ => False
  | _ => True

/-- How many of some releases count for an account. -/
def tally (a : Account) (releases : Multiset Release) : Nat :=
  releases.countP (·.account = a)

@[simp] theorem tally_zero (a : Account) : tally a 0 = 0 := rfl

@[simp] theorem tally_add (a : Account) (l m : Multiset Release) :
    tally a (l + m) = tally a l + tally a m :=
  Multiset.countP_add _ l m

@[simp] theorem tally_cons (a : Account) (t : Release) (l : Multiset Release) :
    tally a (t ::ₘ l) = tally a l + if t.account = a then 1 else 0 :=
  Multiset.countP_cons _ t l

theorem tally_singleton (a : Account) (t : Release) :
    tally a {t} = if t.account = a then 1 else 0 := by
  rw [← Multiset.cons_zero, tally_cons, tally_zero, Nat.zero_add]

theorem tally_flatMap {α : Type} (a : Account) (f : α → List Release) (l : List α) :
    tally a (l.flatMap f) = weigh (fun x => tally a (f x)) l := by
  induction l with
  | nil => rfl
  | cons x rest ih =>
    rw [List.flatMap_cons, ← Multiset.coe_add, tally_add, ih]
    rfl

theorem tally_ne_zero_of_mem {t : Release} {l : Multiset Release} (h : t ∈ l) :
    tally t.account l ≠ 0 :=
  Nat.ne_of_gt (Multiset.countP_pos.mpr ⟨t, h, rfl⟩)

theorem exists_mem_of_tally {a : Account} {l : Multiset Release} (h : tally a l ≠ 0) :
    ∃ t ∈ l, t.account = a :=
  Multiset.countP_pos.mp (Nat.pos_of_ne_zero h)

/-! ## Pledges -/

/-- What a changed item brings in takes the place of what it brought. -/
theorem flatMap_modify {β : Type} (w : β → List Release) (f : β → β) {l : List β} {n : Nat}
    {x : β} (h : l[n]? = some x) :
    (w (f x) + l.flatMap w : Multiset Release) = w x + (l.modify n f).flatMap w := by
  induction l generalizing n with
  | nil => simp at h
  | cons y l ih =>
    cases n with
    | zero =>
      simp only [List.getElem?_cons_zero, Option.some.injEq] at h
      subst h
      simp only [List.flatMap_cons, List.modify_zero_cons, ← Multiset.coe_add]
      exact add_left_comm _ _ _
    | succ n =>
      have hl := ih (n := n) (by simpa using h)
      simp only [List.flatMap_cons, List.modify_succ_cons, ← Multiset.coe_add]
      rw [add_left_comm, hl]
      exact add_left_comm _ _ _

theorem flatMap_set {β : Type} (w : β → List Release) (y : β) {l : List β} {n : Nat} {x : β}
    (h : l[n]? = some x) :
    (w y + l.flatMap w : Multiset Release) = w x + (l.set n y).flatMap w := by
  rw [set_eq_modify y h]
  exact flatMap_modify w (fun _ => y) h

theorem flatMap_filter_add {α : Type} (f : α → List Release) (p : α → Bool) (l : List α) :
    ((l.filter p).flatMap f + (l.filter (!p ·)).flatMap f : Multiset Release) = l.flatMap f := by
  induction l with
  | nil => rfl
  | cons x rest ih =>
    rw [List.flatMap_cons, ← Multiset.coe_add, ← ih]
    cases hp : p x
    · simp only [List.filter_cons, hp, Bool.not_false, if_true, Bool.false_eq_true, if_false,
        List.flatMap_cons, ← Multiset.coe_add]
      abel
    · simp only [List.filter_cons, hp, Bool.not_true, if_true, Bool.false_eq_true, if_false,
        List.flatMap_cons, ← Multiset.coe_add]
      abel

namespace SharedTable

variable {α β : Type}

/-- The things changed, and their holders kept. -/
def map (f : α → β) (t : SharedTable α) : SharedTable β :=
  ⟨t.cells.map fun cell => ⟨cell.holders, f cell.content⟩⟩

@[simp] theorem holders_map (f : α → β) (t : SharedTable α) (n : Nat) :
    (t.map f).holders n = t.holders n := by
  unfold holders map
  rw [Array.getElem?_map]
  cases t.cells[n]? <;> simp

@[simp] theorem get?_map (f : α → β) (t : SharedTable α) (n : Nat) :
    (t.map f).get? n = (t.get? n).map f := by
  unfold get? map
  rw [Array.getElem?_map]
  cases t.cells[n]? <;> simp

@[simp] theorem size_map (f : α → β) (t : SharedTable α) : (t.map f).size = t.size := by
  simp [size, map]

@[simp] theorem map_add (f : α → β) (t : SharedTable α) (x : α) :
    (t.add x).map f = (t.map f).add (f x) := by
  simp [map, add]

theorem map_cells_modify (f : α → β) (t : SharedTable α) (n : Nat) (g : Shared α → Shared α)
    (h : Shared β → Shared β)
    (hgh : ∀ cell, (⟨(g cell).holders, f (g cell).content⟩ : Shared β) =
      h ⟨cell.holders, f cell.content⟩) :
    map f ⟨t.cells.modify n g⟩ = ⟨(t.map f).cells.modify n h⟩ := by
  simp only [map, mk.injEq]
  apply Array.ext_getElem?
  intro i
  simp only [Array.getElem?_map, Array.getElem?_modify]
  by_cases hi : n = i
  · subst hi
    cases t.cells[n]? <;> simp [hgh]
  · simp [hi]

@[simp] theorem map_hold (f : α → β) (t : SharedTable α) (n : Nat) :
    (t.hold n).map f = (t.map f).hold n :=
  map_cells_modify f t n _ _ fun _ => rfl

@[simp] theorem map_drop (f : α → β) (t : SharedTable α) (n : Nat) :
    (t.drop n).map f = (t.map f).drop n :=
  map_cells_modify f t n _ _ fun _ => rfl

theorem map_modify {f : α → β} (t : SharedTable α) (n : Nat) {g : α → α} {h : β → β}
    (hgh : ∀ x, f (g x) = h (f x)) : (t.modify n g).map f = (t.map f).modify n h :=
  map_cells_modify f t n _ _ fun cell => by simp [hgh]

/-- A change that the map does not show. -/
theorem map_modify_of_eq {f : α → β} (t : SharedTable α) (n : Nat) {g : α → α}
    (hg : ∀ x, f (g x) = f x) : (t.modify n g).map f = t.map f := by
  rw [map_modify t n (h := id) hg]
  simp only [modify, map, mk.injEq]
  apply Array.ext_getElem?
  intro i
  by_cases hi : n = i <;> simp [Array.getElem?_modify, hi, Function.comp_def]

/-- What one thing will release at its end, while it is in use. -/
def outstanding (pledge : α → List Release) (cell : Shared α) : List Release :=
  if cell.holders = 0 then [] else pledge cell.content

/-- What the things in use will release when they end. -/
def pledges (pledge : α → List Release) (t : SharedTable α) : Multiset Release :=
  t.cells.toList.flatMap (outstanding pledge)

section

variable {pledge : α → List Release} {t : SharedTable α} {n : Nat} {x : α}

theorem mem_pledges {release : Release} :
    release ∈ t.pledges pledge ↔
      ∃ n x, t.get? n = some x ∧ t.holders n ≠ 0 ∧ release ∈ pledge x := by
  unfold pledges outstanding
  rw [Multiset.mem_coe, List.mem_flatMap]
  constructor
  · rintro ⟨⟨count, x⟩, hcell, hmem⟩
    obtain ⟨n, hn⟩ := List.mem_iff_getElem?.mp hcell
    rw [Array.getElem?_toList] at hn
    by_cases hzero : count = 0
    · simp [hzero] at hmem
    · refine ⟨n, x, by simp [get?, hn], by simpa [holders, hn] using hzero, ?_⟩
      simpa [hzero] using hmem
  · rintro ⟨n, x, hget, hheld, hmem⟩
    refine ⟨⟨t.holders n, x⟩, List.mem_of_getElem? (cell_of_get? hget), ?_⟩
    simpa [hheld] using hmem

theorem tally_pledges (a : Account) (pledge : α → List Release) (t : SharedTable α) :
    tally a (t.pledges pledge) = t.total fun x => tally a (pledge x) := by
  unfold pledges total
  rw [tally_flatMap]
  congr 1
  funext cell
  unfold outstanding share
  by_cases h : cell.holders = 0 <;> simp [h]

theorem pledges_add (pledge : α → List Release) (t : SharedTable α) (x : α) :
    (t.add x).pledges pledge = t.pledges pledge + pledge x := by
  simp [pledges, add, outstanding]

/-- Any change of one cell. -/
theorem pledges_change (pledge : α → List Release) (f : Shared α → Shared α)
    (hx : t.get? n = some x) :
    outstanding pledge (f ⟨t.holders n, x⟩) + t.pledges pledge =
      outstanding pledge ⟨t.holders n, x⟩ + pledges pledge ⟨t.cells.modify n f⟩ := by
  have hcell := cell_of_get? hx
  unfold pledges
  rw [Array.toList_modify]
  exact flatMap_modify (outstanding pledge) f hcell

/-- A change of one cell that brings in what it brought before. -/
theorem pledges_change_of_eq (f : Shared α → Shared α)
    (hf : ∀ x, outstanding pledge (f ⟨t.holders n, x⟩) = outstanding pledge ⟨t.holders n, x⟩) :
    pledges pledge ⟨t.cells.modify n f⟩ = t.pledges pledge := by
  by_cases hn : n < t.size
  · obtain ⟨x, hx⟩ := get?_of_lt_size hn
    have hchange := pledges_change pledge f hx
    rw [hf x] at hchange
    exact (add_left_cancel hchange).symm
  · have hlen : t.cells.toList.length ≤ n := by
      simp only [size] at hn
      simp only [Array.length_toList]
      omega
    unfold pledges
    rw [Array.toList_modify, List.modify_eq_self hlen]

theorem pledges_hold (h : t.holders n ≠ 0) : (t.hold n).pledges pledge = t.pledges pledge :=
  pledges_change_of_eq _ fun x => by simp [outstanding, h]

theorem pledges_drop_of_ne (h : t.holders n ≠ 1) :
    (t.drop n).pledges pledge = t.pledges pledge := by
  have hzero : t.holders n - 1 = 0 ↔ t.holders n = 0 := by omega
  exact pledges_change_of_eq _ fun x => by simp only [outstanding, hzero]

/-- The end of a thing releases what it pledged. -/
theorem pledges_drop_last (pledge : α → List Release) (h : t.holders n = 1)
    (hx : t.get? n = some x) :
    t.pledges pledge = pledge x + (t.drop n).pledges pledge := by
  have hchange := pledges_change pledge (fun cell => { cell with holders := cell.holders - 1 }) hx
  simp only [outstanding, h, Nat.sub_self, if_true, Nat.one_ne_zero, if_false] at hchange
  rw [Multiset.coe_nil, zero_add] at hchange
  exact hchange

theorem pledges_modify (pledge : α → List Release) (f : α → α) (h : t.holders n ≠ 0)
    (hx : t.get? n = some x) :
    pledge (f x) + t.pledges pledge = pledge x + (t.modify n f).pledges pledge := by
  have hchange := pledges_change pledge (fun cell => { cell with content := f cell.content }) hx
  simp only [outstanding, h, if_false] at hchange
  exact hchange

/-- A change that is made to a thing that nobody holds, or keeps what each
thing pledges. -/
theorem pledges_modify_of_eq (pledge : α → List Release) (f : α → α)
    (h : t.holders n = 0 ∨ ∀ x, pledge (f x) = pledge x) :
    (t.modify n f).pledges pledge = t.pledges pledge := by
  apply pledges_change_of_eq
  intro x
  rcases h with h | h
  · simp [outstanding, h]
  · simp [outstanding, h]

end

end SharedTable

def Slot.pledge (slot : Slot Subscriber) : List Release :=
  slot.live.elim [] fun object => handlerReleases object.handlers

def WrapperRecord.pledge (entry : WrapperRecord) : List Release :=
  if entry.releases then [.object entry.wrapper.object] else []

def Arena.pledge (a : Arena) : List Release := a.borrowed.flatMap idleReleases

end NativeBridge
