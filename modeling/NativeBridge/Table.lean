-- Finite maps that keep the order in which their keys were added. Each
-- operation comes with what it does to the look-up, which is all that the
-- rest of the library relies on.

namespace NativeBridge

/-- A finite map as a list of pairs, one pair a key. -/
structure Table (κ ν : Type) where
  entries : List (κ × ν) := []

namespace Table

variable {κ ν : Type} [DecidableEq κ]

instance : Inhabited (Table κ ν) := ⟨{}⟩

/-! ## Lists of pairs -/

def find (k : κ) : List (κ × ν) → Option ν
  | [] => none
  | (key, value) :: rest => if key = k then some value else find k rest

/-- Gives a key its value, in its old place if it has one. -/
def put (k : κ) (v : ν) : List (κ × ν) → List (κ × ν)
  | [] => [(k, v)]
  | (key, value) :: rest => if key = k then (key, v) :: rest else (key, value) :: put k v rest

def remove (k : κ) : List (κ × ν) → List (κ × ν)
  | [] => []
  | (key, value) :: rest => if key = k then remove k rest else (key, value) :: remove k rest

theorem find_put_self (k : κ) (v : ν) (l : List (κ × ν)) : find k (put k v l) = some v := by
  induction l with
  | nil => simp [put, find]
  | cons p rest ih =>
    by_cases h : p.1 = k <;> simp [put, find, h, ih]

theorem find_put_ne {k j : κ} (h : j ≠ k) (v : ν) (l : List (κ × ν)) :
    find j (put k v l) = find j l := by
  induction l with
  | nil => simp [put, find, h.symm]
  | cons p rest ih =>
    by_cases hk : p.1 = k
    · have hj : p.1 ≠ j := fun hp => h (hp ▸ hk)
      simp [put, find, hk, h.symm]
    · by_cases hj : p.1 = j <;> simp_all [put, find]

theorem find_remove_self (k : κ) (l : List (κ × ν)) : find k (remove k l) = none := by
  induction l with
  | nil => rfl
  | cons p rest ih =>
    by_cases h : p.1 = k <;> simp [remove, find, h, ih]

theorem find_remove_ne {k j : κ} (h : j ≠ k) (l : List (κ × ν)) :
    find j (remove k l) = find j l := by
  induction l with
  | nil => rfl
  | cons p rest ih =>
    by_cases hk : p.1 = k
    · have hj : p.1 ≠ j := fun hp => h (hp ▸ hk)
      simp [remove, find, hk, ih, h.symm]
    · by_cases hj : p.1 = j <;> simp_all [remove, find]

theorem mem_of_find {k : κ} {v : ν} {l : List (κ × ν)} (h : find k l = some v) : (k, v) ∈ l := by
  induction l with
  | nil => simp [find] at h
  | cons p rest ih =>
    by_cases hk : p.1 = k
    · simp only [find, hk, if_true, Option.some.injEq] at h
      subst hk h
      exact List.mem_cons_self
    · simp only [find, hk, if_false] at h
      exact List.mem_cons_of_mem p (ih h)

theorem find_of_mem {k : κ} {v : ν} {l : List (κ × ν)} (hkeys : (l.map (·.1)).Nodup)
    (h : (k, v) ∈ l) : find k l = some v := by
  induction l with
  | nil => simp at h
  | cons p rest ih =>
    rw [List.map_cons, List.nodup_cons] at hkeys
    rcases List.mem_cons.mp h with rfl | h
    · simp [find]
    · have hk : p.1 ≠ k := by
        intro hk
        apply hkeys.1
        rw [hk]
        exact List.mem_map_of_mem h
      simp only [find, hk, if_false]
      exact ih hkeys.2 h

theorem put_of_find_none {k : κ} (v : ν) {l : List (κ × ν)} (h : find k l = none) :
    put k v l = l ++ [(k, v)] := by
  induction l with
  | nil => rfl
  | cons p rest ih =>
    by_cases hk : p.1 = k
    · simp [find, hk] at h
    · simp only [find, hk, if_false] at h
      simp [put, hk, ih h]

/-- A key keeps its place, and a new one comes last. -/
theorem map_put (k : κ) (v : ν) (l : List (κ × ν)) :
    (put k v l).map (·.1) = if k ∈ l.map (·.1) then l.map (·.1) else l.map (·.1) ++ [k] := by
  induction l with
  | nil => rfl
  | cons p rest ih =>
    by_cases hk : p.1 = k
    · simp [put, hk]
    · have hne : k ≠ p.1 := fun heq => hk heq.symm
      simp only [put, hk, if_false, List.map_cons, ih, List.mem_cons, hne, false_or]
      split <;> rfl

theorem find_isSome_iff (k : κ) (l : List (κ × ν)) :
    (find k l).isSome = true ↔ k ∈ l.map (·.1) := by
  induction l with
  | nil => simp [find]
  | cons p rest ih =>
    by_cases hk : p.1 = k
    · simp [find, hk]
    · have hne : k ≠ p.1 := fun heq => hk heq.symm
      simp only [find, hk, if_false, ih, List.map_cons, List.mem_cons, hne, false_or]

theorem remove_eq_filter (k : κ) (l : List (κ × ν)) : remove k l = l.filter fun p => p.1 ≠ k := by
  induction l with
  | nil => rfl
  | cons p rest ih =>
    by_cases hk : p.1 = k <;> simp [remove, hk, ih]

/-! ## Tables -/

def get? (t : Table κ ν) (k : κ) : Option ν := find k t.entries

def contains (t : Table κ ν) (k : κ) : Bool := (t.get? k).isSome

def set (t : Table κ ν) (k : κ) (v : ν) : Table κ ν := ⟨put k v t.entries⟩

def erase (t : Table κ ν) (k : κ) : Table κ ν := ⟨remove k t.entries⟩

/-- Keeps the pairs that meet a condition. -/
def filter (t : Table κ ν) (p : κ → ν → Bool) : Table κ ν :=
  ⟨t.entries.filter fun (k, v) => p k v⟩

def size (t : Table κ ν) : Nat := t.entries.length

@[simp] theorem get?_empty (k : κ) : (({} : Table κ ν)).get? k = none := rfl

@[simp] theorem get?_set_self (t : Table κ ν) (k : κ) (v : ν) : (t.set k v).get? k = some v :=
  find_put_self k v t.entries

theorem get?_set_ne (t : Table κ ν) {k j : κ} (h : j ≠ k) (v : ν) :
    (t.set k v).get? j = t.get? j :=
  find_put_ne h v t.entries

@[simp] theorem get?_erase_self (t : Table κ ν) (k : κ) : (t.erase k).get? k = none :=
  find_remove_self k t.entries

theorem get?_erase_ne (t : Table κ ν) {k j : κ} (h : j ≠ k) : (t.erase k).get? j = t.get? j :=
  find_remove_ne h t.entries

theorem contains_set (t : Table κ ν) (k j : κ) (v : ν) :
    (t.set k v).contains j = (decide (j = k) || t.contains j) := by
  unfold contains
  by_cases h : j = k
  · subst h
    simp
  · simp [get?_set_ne t h, h]

theorem size_set_of_none {t : Table κ ν} {k : κ} (v : ν) (h : t.get? k = none) :
    (t.set k v).size = t.size + 1 := by
  unfold size set
  rw [put_of_find_none v h, List.length_append, List.length_singleton]

theorem size_le_set (t : Table κ ν) (k : κ) (v : ν) : t.size ≤ (t.set k v).size := by
  unfold size set
  induction t.entries with
  | nil => exact Nat.zero_le _
  | cons p rest ih =>
    unfold put
    split
    · exact Nat.le_refl _
    · exact Nat.succ_le_succ ih

theorem contains_iff_mem (t : Table κ ν) (k : κ) :
    t.contains k = true ↔ k ∈ t.entries.map (·.1) := find_isSome_iff k t.entries

/-- A table with each key once has each key once after a value is set. -/
theorem nodup_keys_set {t : Table κ ν} (h : (t.entries.map (·.1)).Nodup) (k : κ) (v : ν) :
    ((t.set k v).entries.map (·.1)).Nodup := by
  unfold set
  rw [map_put]
  split
  · exact h
  · rename_i hnew
    refine List.nodup_append.mpr ⟨h, List.pairwise_singleton _ k, fun a ha b hb heq => hnew ?_⟩
    rwa [← List.mem_singleton.mp hb, ← heq]

end Table

end NativeBridge
