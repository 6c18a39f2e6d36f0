-- Stacks of entered runtimes. Each thread has one of its own, and a guard keeps
-- a runtime entered on its thread until it is dropped. Whatever the order in
-- which guards are dropped, the stack of a thread has each runtime as often as
-- the thread holds guards for it.
import NativeBridge.Proofs.Courses
import NativeBridge.System.Context

namespace NativeBridge

variable {σ : Type}

/-! ## Guards -/

/-- What a thread does with a guard of a runtime. -/
inductive GuardUse where
  | enter (r : RuntimeId)
  | drop (r : RuntimeId)

namespace GuardUse

/-- The stack of the thread afterwards. -/
def after (stack : List RuntimeId) : GuardUse → List RuntimeId
  | enter r => r :: stack
  | drop r => stack.erase r

/-- Each guard is dropped after those that were made later. -/
inductive WellNested : List GuardUse → Prop where
  | none : WellNested []
  | within (r : RuntimeId) {inner : List GuardUse} (hinner : WellNested inner) :
    WellNested (enter r :: (inner ++ [drop r]))
  | append {first second : List GuardUse} (hfirst : WellNested first)
    (hsecond : WellNested second) : WellNested (first ++ second)

/-- Well-nested use leaves a stack as it was. -/
theorem WellNested.restores {uses : List GuardUse} (h : WellNested uses) (stack : List RuntimeId) :
    uses.foldl after stack = stack := by
  induction h generalizing stack with
  | none => rfl
  | within r _ ih =>
    rw [List.foldl_cons, List.foldl_append, ih]
    exact List.erase_cons_head ..
  | append _ _ ih₁ ih₂ => rw [List.foldl_append, ih₁, ih₂]

end GuardUse

/-! ## Threads -/

/-- All threads: the system as the one at work sees it, the stacks of the
others, and the guards that each thread holds. -/
structure Threads (σ : Type) where
  system : System σ
  away : Nat → List RuntimeId
  guards : Nat → Multiset RuntimeId

namespace Threads

/-- At first no guard is held. -/
def start (s : System σ) : Threads σ := ⟨s, fun _ => [], fun _ => 0⟩

/-- The runtimes entered on a thread, the innermost first. -/
def stack (w : Threads σ) (n : Nat) : List RuntimeId :=
  if n = w.system.thread then w.system.entered else w.away n

/-- The guards of the thread at work. -/
def held (w : Threads σ) : Multiset RuntimeId := w.guards w.system.thread

def setHeld (w : Threads σ) (guards : Multiset RuntimeId) : Nat → Multiset RuntimeId :=
  Function.update w.guards w.system.thread guards

/-- The thread at work makes a guard. -/
def enter (w : Threads σ) (r : RuntimeId) : Threads σ :=
  { w with system := w.system.enter r, guards := w.setHeld (r ::ₘ w.held) }

/-- The thread at work drops a guard. -/
def drop (w : Threads σ) (r : RuntimeId) : Threads σ :=
  { w with system := w.system.leave r, guards := w.setHeld (w.held.erase r) }

/-- Another thread goes on. -/
def switch (w : Threads σ) (n : Nat) : Threads σ :=
  { w with
    system := { w.system with thread := n, entered := w.stack n }
    away := Function.update w.away w.system.thread w.system.entered }

/-- What happens on the threads, with the uses of guards. A thread can only drop
a guard that it holds; everything else leaves the stacks alone. -/
inductive Step : Threads σ → List (Nat × GuardUse) → Threads σ → Prop where
  | enter (w : Threads σ) (r : RuntimeId) : Step w [(w.system.thread, .enter r)] (w.enter r)
  | drop (w : Threads σ) {r : RuntimeId} (hheld : r ∈ w.held) :
    Step w [(w.system.thread, .drop r)] (w.drop r)
  | switch (w : Threads σ) (n : Nat) : Step w [] (w.switch n)
  | other (w : Threads σ) {s : System σ} (hplace : s.place = w.system.place) :
    Step w [] { w with system := s }

/-- A run, with all uses of guards in it. -/
inductive Run : Threads σ → List (Nat × GuardUse) → Threads σ → Prop where
  | rest (w : Threads σ) : Run w [] w
  | step {w v u : Threads σ} {uses last : List (Nat × GuardUse)} (hrun : Run w uses v)
    (hlast : Step v last u) : Run w (uses ++ last) u

/-- The uses on one thread. -/
def usesOn (n : Nat) (uses : List (Nat × GuardUse)) : List GuardUse :=
  uses.filterMap fun (m, use) => if m = n then some use else none

/-- The stack of each thread has the runtimes that the thread holds guards for. -/
def Matched (w : Threads σ) : Prop := ∀ n, (w.stack n : Multiset RuntimeId) = w.guards n

variable {w u : Threads σ} {uses : List (Nat × GuardUse)}

theorem stack_thread (w : Threads σ) : w.stack w.system.thread = w.system.entered := if_pos rfl

theorem stack_ne {n : Nat} (h : n ≠ w.system.thread) : w.stack n = w.away n := if_neg h

theorem matched_start {s : System σ} (h : s.entered = []) : (start s).Matched := by
  intro n
  unfold stack start
  dsimp only
  split
  · rw [h]
    rfl
  · rfl

theorem usesOn_singleton (n m : Nat) (use : GuardUse) :
    usesOn n [(m, use)] = if m = n then [use] else [] := by
  by_cases h : m = n
  · simp [usesOn, h]
  · simp [usesOn, h]

/-- Where only the stack of the thread at work has changed. -/
theorem stack_of_away (hthread : u.system.thread = w.system.thread) (haway : u.away = w.away)
    (n : Nat) : u.stack n = if n = w.system.thread then u.system.entered else w.stack n := by
  unfold stack
  rw [hthread, haway]
  split
  · rfl
  · rfl

/-- The thread at work uses a guard. -/
theorem stack_of_use (use : GuardUse) (hthread : u.system.thread = w.system.thread)
    (haway : u.away = w.away) (hentered : u.system.entered = use.after w.system.entered) (n : Nat) :
    u.stack n = (usesOn n [(w.system.thread, use)]).foldl GuardUse.after (w.stack n) := by
  rw [stack_of_away hthread haway, usesOn_singleton]
  by_cases hn : n = w.system.thread
  · subst hn
    rw [if_pos rfl, if_pos rfl, stack_thread, hentered]
    rfl
  · rw [if_neg hn, if_neg (Ne.symm hn)]
    rfl

/-- The guards of the thread at work are those that its stack tells. -/
theorem Matched.of_use (hw : w.Matched) (hthread : u.system.thread = w.system.thread)
    (haway : u.away = w.away) (hguards : u.guards = w.setHeld u.system.entered) : u.Matched := by
  intro n
  rw [stack_of_away hthread haway, hguards]
  unfold setHeld
  by_cases hn : n = w.system.thread
  · subst hn
    rw [if_pos rfl, Function.update_self]
  · rw [if_neg hn, Function.update_of_ne hn]
    exact hw n

/-- A step uses the guards of a thread as it says. -/
theorem Step.stack_eq (h : Step w uses u) (n : Nat) :
    u.stack n = (usesOn n uses).foldl GuardUse.after (w.stack n) := by
  cases h with
  | enter r => exact stack_of_use (w := w) (u := w.enter r) (.enter r) rfl rfl rfl n
  | drop hheld => exact stack_of_use (w := w) (u := w.drop _) (.drop _) rfl rfl rfl n
  | switch m =>
    by_cases hn : n = m
    · subst hn
      exact if_pos rfl
    · refine (if_neg hn).trans ?_
      by_cases hthread : n = w.system.thread
      · subst hthread
        exact (Function.update_self ..).trans w.stack_thread.symm
      · exact (Function.update_of_ne hthread ..).trans (stack_ne hthread).symm
  | other hplace =>
    obtain ⟨hthread, hentered⟩ := Prod.mk.inj hplace
    unfold stack
    dsimp only
    rw [hthread, hentered]
    rfl

theorem usesOn_append (n : Nat) (first second : List (Nat × GuardUse)) :
    usesOn n (first ++ second) = usesOn n first ++ usesOn n second := List.filterMap_append

/-- What other threads do with their guards makes no difference. -/
theorem Run.stack_eq (h : Run w uses u) (n : Nat) :
    u.stack n = (usesOn n uses).foldl GuardUse.after (w.stack n) := by
  induction h with
  | rest => rfl
  | step _ hlast ih => rw [usesOn_append, List.foldl_append, ← ih, hlast.stack_eq]

theorem Matched.held_eq (hw : w.Matched) : w.held = (w.system.entered : Multiset RuntimeId) := by
  rw [← w.stack_thread]
  exact (hw _).symm

theorem Step.matched (h : Step w uses u) (hw : w.Matched) : u.Matched := by
  cases h with
  | enter r =>
    refine hw.of_use rfl rfl ?_
    unfold Threads.enter
    rw [hw.held_eq]
    rfl
  | drop =>
    refine hw.of_use rfl rfl ?_
    unfold Threads.drop
    rw [hw.held_eq]
    rfl
  | switch m =>
    intro n
    rw [(Step.switch w m).stack_eq]
    exact hw n
  | other hplace =>
    intro n
    rw [(Step.other w hplace).stack_eq]
    exact hw n

theorem Run.matched (h : Run w uses u) (hw : w.Matched) : u.Matched := by
  induction h with
  | rest => exact hw
  | step _ hlast ih => exact hlast.matched ih

/-- Nothing is entered exactly where no guard is held. -/
theorem Matched.stack_eq_nil_iff (hw : w.Matched) (n : Nat) : w.stack n = [] ↔ w.guards n = 0 := by
  rw [← hw n, Multiset.coe_eq_zero]

theorem Matched.count_eq (hw : w.Matched) (n : Nat) (r : RuntimeId) :
    (w.stack n).count r = (w.guards n).count r := by
  rw [← hw n, Multiset.coe_count]

/-- A thread whose uses are well nested gets its stack back. -/
theorem Run.restores (h : Run w uses u) {n : Nat} (huses : GuardUse.WellNested (usesOn n uses)) :
    u.stack n = w.stack n := by rw [h.stack_eq, huses.restores]

end Threads

end NativeBridge
