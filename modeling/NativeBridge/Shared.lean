-- Tables of shared things. Each thing has a number, which is never given
-- out again, and a count of its holders; with the last holder it is gone.

namespace NativeBridge

/-! ## Sums of weights -/

/-- The weights of the members of a list, together. -/
def weigh {α : Type} (weight : α → Nat) : List α → Nat
  | [] => 0
  | x :: rest => weight x + weigh weight rest

theorem weigh_map {α β : Type} (weight : β → Nat) (f : α → β) (l : List α) :
    weigh weight (l.map f) = weigh (fun x => weight (f x)) l := by
  induction l with
  | nil => rfl
  | cons x rest ih => simp only [List.map_cons, weigh, ih]

theorem weigh_zero {α : Type} (l : List α) : weigh (fun _ => 0) l = 0 := by
  induction l with
  | nil => rfl
  | cons x rest ih => simp only [weigh, ih]

/-- A change of one member changes the sum by that member. -/
theorem weigh_modify {α : Type} (weight : α → Nat) (f : α → α) {l : List α} {n : Nat} {x : α}
    (h : l[n]? = some x) :
    weigh weight (l.modify n f) + weight x = weigh weight l + weight (f x) := by
  induction l generalizing n with
  | nil => simp at h
  | cons y rest ih =>
    cases n with
    | zero =>
      simp only [List.getElem?_cons_zero, Option.some.injEq] at h
      subst h
      simp only [List.modify_zero_cons, weigh]
      omega
    | succ n =>
      have hrest := ih (n := n) (by simpa using h)
      simp only [List.modify_succ_cons, weigh]
      omega

/-! ## Tables -/

/-- A thing with the count of its holders. -/
structure Shared (α : Type) where
  holders : Nat
  content : α

structure SharedTable (α : Type) where
  cells : Array (Shared α) := #[]

namespace SharedTable

variable {α : Type}

instance : Inhabited (SharedTable α) := ⟨{}⟩

/-- How many things were ever added. -/
def size (t : SharedTable α) : Nat := t.cells.size

/-- The holders of a thing; a thing that was never added has none. -/
def holders (t : SharedTable α) (number : Nat) : Nat :=
  match t.cells[number]? with
  | some cell => cell.holders
  | none => 0

def get? (t : SharedTable α) (number : Nat) : Option α := (t.cells[number]?).map (·.content)

/-- Adds a thing with one holder. Its number is the size before. -/
def add (t : SharedTable α) (content : α) : SharedTable α := ⟨t.cells.push ⟨1, content⟩⟩

/-- One holder more. -/
def hold (t : SharedTable α) (number : Nat) : SharedTable α :=
  ⟨t.cells.modify number fun cell => { cell with holders := cell.holders + 1 }⟩

/-- One holder less. -/
def drop (t : SharedTable α) (number : Nat) : SharedTable α :=
  ⟨t.cells.modify number fun cell => { cell with holders := cell.holders - 1 }⟩

/-- One holder less. With the last one the thing changes. -/
def dropWith (t : SharedTable α) (number : Nat) (atEnd : α → α) : SharedTable α :=
  ⟨t.cells.modify number fun cell =>
    ⟨cell.holders - 1, if cell.holders = 1 then atEnd cell.content else cell.content⟩⟩

/-- Changes a thing and leaves its holders alone. -/
def modify (t : SharedTable α) (number : Nat) (f : α → α) : SharedTable α :=
  ⟨t.cells.modify number fun cell => { cell with content := f cell.content }⟩

/-- What one thing adds to a total: nothing when nobody holds it. -/
def share (weight : α → Nat) (cell : Shared α) : Nat :=
  if cell.holders = 0 then 0 else weight cell.content

/-- The weights of the things that anyone holds, together. -/
def total (weight : α → Nat) (t : SharedTable α) : Nat := weigh (share weight) t.cells.toList

/-! ## What each operation does to the holders -/

theorem holders_add (t : SharedTable α) (content : α) (n : Nat) :
    (t.add content).holders n = if n = t.size then 1 else t.holders n := by
  unfold holders add size
  rw [Array.getElem?_push]
  by_cases h : n = t.cells.size <;> simp [h]

theorem holders_hold (t : SharedTable α) (number n : Nat) :
    (t.hold number).holders n =
      if n = number ∧ n < t.size then t.holders n + 1 else t.holders n := by
  unfold holders hold size
  rw [Array.getElem?_modify]
  by_cases h : number = n
  · subst h
    by_cases hn : number < t.cells.size <;> simp [hn]
  · have hne : n ≠ number := fun hn => h hn.symm
    simp [h, hne]

/-- One holder more is the first one of nothing that someone holds. -/
theorem holders_hold_eq_zero {t : SharedTable α} {number : Nat} (h : t.holders number ≠ 0)
    (n : Nat) : (t.hold number).holders n = 0 ↔ t.holders n = 0 := by
  rw [holders_hold]
  split
  · rename_i hn
    rw [hn.1]
    omega
  · rfl

theorem holders_drop (t : SharedTable α) (number n : Nat) :
    (t.drop number).holders n = if n = number then t.holders n - 1 else t.holders n := by
  unfold holders drop
  rw [Array.getElem?_modify]
  by_cases h : number = n
  · subst h
    cases t.cells[number]? <;> simp
  · have hne : n ≠ number := fun hn => h hn.symm
    simp [h, hne]

/-- A holder that is not the last leaves others behind. -/
theorem holders_drop_eq_zero {t : SharedTable α} {number : Nat} (h : t.holders number ≠ 1)
    (n : Nat) : (t.drop number).holders n = 0 ↔ t.holders n = 0 := by
  rw [holders_drop]
  split
  · rename_i hn
    rw [hn]
    omega
  · rfl

theorem holders_dropWith (t : SharedTable α) (number n : Nat) (atEnd : α → α) :
    (t.dropWith number atEnd).holders n =
      if n = number then t.holders n - 1 else t.holders n := by
  unfold holders dropWith
  rw [Array.getElem?_modify]
  by_cases h : number = n
  · subst h
    cases t.cells[number]? <;> simp
  · have hne : n ≠ number := fun hn => h hn.symm
    simp [h, hne]

@[simp] theorem holders_modify (t : SharedTable α) (number n : Nat) (f : α → α) :
    (t.modify number f).holders n = t.holders n := by
  unfold holders modify
  rw [Array.getElem?_modify]
  by_cases h : number = n
  · subst h
    cases t.cells[number]? <;> simp
  · simp [h]

/-! ## What each operation does to the things -/

@[simp] theorem size_add (t : SharedTable α) (content : α) : (t.add content).size = t.size + 1 := by
  simp [size, add]

@[simp] theorem size_hold (t : SharedTable α) (number : Nat) : (t.hold number).size = t.size := by
  simp [size, hold]

@[simp] theorem size_drop (t : SharedTable α) (number : Nat) : (t.drop number).size = t.size := by
  simp [size, drop]

@[simp] theorem size_dropWith (t : SharedTable α) (number : Nat) (atEnd : α → α) :
    (t.dropWith number atEnd).size = t.size := by
  simp [size, dropWith]

@[simp] theorem size_modify (t : SharedTable α) (number : Nat) (f : α → α) :
    (t.modify number f).size = t.size := by
  simp [size, modify]

theorem get?_add (t : SharedTable α) (content : α) (n : Nat) :
    (t.add content).get? n = if n = t.size then some content else t.get? n := by
  unfold get? add size
  rw [Array.getElem?_push]
  by_cases h : n = t.cells.size <;> simp [h]

@[simp] theorem get?_hold (t : SharedTable α) (number n : Nat) :
    (t.hold number).get? n = t.get? n := by
  unfold get? hold
  rw [Array.getElem?_modify]
  by_cases h : number = n <;> simp [h, Function.comp_def]

@[simp] theorem get?_drop (t : SharedTable α) (number n : Nat) :
    (t.drop number).get? n = t.get? n := by
  unfold get? drop
  rw [Array.getElem?_modify]
  by_cases h : number = n <;> simp [h, Function.comp_def]

theorem get?_dropWith (t : SharedTable α) (number n : Nat) (atEnd : α → α) :
    (t.dropWith number atEnd).get? n =
      if n = number ∧ t.holders n = 1 then (t.get? n).map atEnd else t.get? n := by
  unfold get? holders dropWith
  rw [Array.getElem?_modify]
  by_cases h : number = n
  · subst h
    rcases t.cells[number]? with _ | cell
    · simp
    · by_cases hone : cell.holders = 1 <;> simp [hone]
  · have hne : n ≠ number := fun hn => h hn.symm
    simp [h, hne]

theorem get?_modify (t : SharedTable α) (number n : Nat) (f : α → α) :
    (t.modify number f).get? n = if n = number then (t.get? n).map f else t.get? n := by
  unfold get? modify
  rw [Array.getElem?_modify]
  by_cases h : number = n
  · subst h
    simp [Function.comp_def]
  · have hne : n ≠ number := fun hn => h hn.symm
    simp [h, hne]

theorem lt_size_of_get? {t : SharedTable α} {n : Nat} {x : α} (h : t.get? n = some x) :
    n < t.size := by
  unfold get? at h
  obtain ⟨cell, hcell, _⟩ := Option.map_eq_some_iff.mp h
  exact (Array.getElem?_eq_some_iff.mp hcell).1

theorem lt_size_of_holders {t : SharedTable α} {n : Nat} (h : t.holders n ≠ 0) : n < t.size := by
  rcases Nat.lt_or_ge n t.size with hn | hn
  · exact hn
  · have hnone : t.cells[n]? = none := Array.getElem?_eq_none hn
    simp [holders, hnone] at h

/-- The next thing has no holders yet. -/
theorem holders_size (t : SharedTable α) : t.holders t.size = 0 := by
  have hnone : t.cells[t.size]? = none := Array.getElem?_eq_none (Nat.le_refl _)
  simp [holders, hnone]

theorem get?_of_lt_size {t : SharedTable α} {n : Nat} (h : n < t.size) :
    ∃ x, t.get? n = some x := by
  rcases hcell : t.cells[n]? with _ | cell
  · have hle : t.size ≤ n := Array.getElem?_eq_none_iff.mp hcell
    omega
  · exact ⟨cell.content, by simp [get?, hcell]⟩

/-- A thing that someone holds is there. -/
theorem get?_of_holders {t : SharedTable α} {n : Nat} (h : t.holders n ≠ 0) :
    ∃ x, t.get? n = some x := get?_of_lt_size (lt_size_of_holders h)

/-! ## What each operation does to the total -/

/-- The cell of a thing, in both tables of contents. -/
theorem cell_of_get? {t : SharedTable α} {n : Nat} {x : α} (h : t.get? n = some x) :
    t.cells.toList[n]? = some ⟨t.holders n, x⟩ := by
  unfold get? at h
  obtain ⟨⟨count, content⟩, hcell, rfl⟩ := Option.map_eq_some_iff.mp h
  simp [holders, hcell]

/-- A holder that is not the last changes nothing. -/
theorem total_drop_of_ne (weight : α → Nat) {t : SharedTable α} {n : Nat} (h : t.holders n ≠ 1) :
    (t.drop n).total weight = t.total weight := by
  simp only [total, drop, Array.toList_modify]
  by_cases hn : n < t.size
  · obtain ⟨x, hx⟩ := get?_of_lt_size hn
    have hsum := weigh_modify (share weight)
      (fun cell => { cell with holders := cell.holders - 1 }) (cell_of_get? hx)
    have hzero : t.holders n - 1 = 0 ↔ t.holders n = 0 := by omega
    simp only [share, hzero] at hsum ⊢
    omega
  · have hlen : t.cells.toList.length ≤ n := by
      simp only [size] at hn
      simp only [Array.length_toList]
      omega
    rw [List.modify_eq_self hlen]

/-- With the last holder goes the weight. -/
theorem total_drop_last (weight : α → Nat) {t : SharedTable α} {n : Nat} {x : α}
    (h : t.holders n = 1) (hx : t.get? n = some x) :
    (t.drop n).total weight + weight x = t.total weight := by
  have hsum := weigh_modify (share weight)
    (fun cell => { cell with holders := cell.holders - 1 }) (cell_of_get? hx)
  simp only [total, drop, Array.toList_modify]
  simp only [share, h] at hsum ⊢
  simp at hsum
  omega

/-- A change that keeps the weight of a thing, or is made to a thing that
nobody holds, keeps the total. -/
theorem total_modify_of_eq (weight : α → Nat) (t : SharedTable α) (n : Nat) (f : α → α)
    (h : t.holders n = 0 ∨ ∀ x, weight (f x) = weight x) :
    (t.modify n f).total weight = t.total weight := by
  simp only [total, modify, Array.toList_modify]
  by_cases hn : n < t.size
  · obtain ⟨x, hx⟩ := get?_of_lt_size hn
    have hsum := weigh_modify (share weight)
      (fun cell => { cell with content := f cell.content }) (cell_of_get? hx)
    rcases h with h | h
    · simp only [share, h, if_true] at hsum
      exact hsum
    · simp only [share, h] at hsum
      exact Nat.add_right_cancel hsum
  · have hlen : t.cells.toList.length ≤ n := by
      simp only [size] at hn
      simp only [Array.length_toList]
      omega
    rw [List.modify_eq_self hlen]

end SharedTable

end NativeBridge
