-- Actions as trades. While the library works it holds things of its own. An
-- action spends some of them and gets others, and leaves alone whatever else
-- is held; so trades compose like the actions do.
import NativeBridge.Proofs.Additions
import NativeBridge.Proofs.Outside

namespace NativeBridge

/-! ## What holds at every moment -/

/-- Everything in the ledger, as releases. -/
def Ledger.tokens (l : Ledger) : Multiset Release :=
  l.held + (l.refs.map Release.object + l.emitting.map Release.object)

/-- The books balance at a moment, with what outside code has to its name
and what the library holds in the middle of its work. -/
def Sound (c : Conduct) (m : System Ledger) : Prop :=
  ∃ F : Multiset Release, (∀ t ∈ F + m.guest.held, t.account.IsShared) ∧
    Balanced c 0 (F + m.guest.tokens) m.books

/-- The books balance while the library holds some things and some emissions
run, and did so at every moment in the diary. -/
structure Holding {τ : Type} (c : Conduct) (F : Multiset Release) (E : List ObjectId)
    (s : World τ) : Prop where
  shared : ∀ t ∈ F + s.guest.ledger.held, t.account.IsShared
  balanced : Balanced c 0 (F + s.guest.ledger.tokens) s.books
  emitting : s.guest.ledger.emitting = E
  diary : ∀ m ∈ s.guest.diary, Sound c m

/-- An action that spends some things and gets others. -/
def Trades {τ α : Type} (c : Conduct) (a : Action (Outside τ) α) (given : Multiset Release)
    (got : α → Multiset Release) : Prop :=
  ∀ F E s, Holding c (given + F) E s → Holding c (got (a.run s).1 + F) E (a.run s).2

/-- An attempt that spends some things. It gets some if it succeeds, and has
some back if it fails. -/
def Tries {τ α : Type} (c : Conduct) (a : Attempt (Outside τ) α) (given : Multiset Release)
    (got : α → Multiset Release) (back : Multiset Release) : Prop :=
  Trades c a.run given fun
    | .ok x => got x
    | .error _ => back

variable {τ α β : Type} {c : Conduct}

/-! ## Rules for actions -/

namespace Trades

variable {a : Action (Outside τ) α} {f : α → Action (Outside τ) β} {P Q R : Multiset Release}
  {got : α → Multiset Release} {got' : β → Multiset Release}

theorem pure {x : α} (hP : P = got x) : Trades (τ := τ) c (Pure.pure x) P got := by
  subst hP
  exact fun _ _ _ h => h

theorem bind (ha : Trades c a P got) (hf : ∀ x, Trades c (f x) (got x) got') :
    Trades c (a >>= f) P got' := fun F E s h => hf _ F E _ (ha F E s h)

/-- What else is held is left alone. -/
theorem frame (ha : Trades c a P got) (G : Multiset Release) :
    Trades c a (P + G) fun x => got x + G := by
  intro F E s h
  rw [add_assoc] at h ⊢
  exact ha (G + F) E s h

theorem of_eq (ha : Trades c a P got) (hP : Q = P) {got₂ : α → Multiset Release}
    (hgot : ∀ x, got x = got₂ x) : Trades c a Q got₂ := by
  intro F E s h
  rw [hP] at h
  rw [← hgot]
  exact ha F E s h

end Trades

/-! ## Rules for attempts -/

namespace Tries

variable {a : Attempt (Outside τ) α} {f : α → Attempt (Outside τ) β} {P Q R : Multiset Release}
  {got : α → Multiset Release} {got' : β → Multiset Release} {back : Multiset Release}

theorem pure {x : α} (hP : P = got x) : Tries (τ := τ) c (Pure.pure x) P got back := by
  subst hP
  exact fun _ _ _ h => h

theorem throw {e : BridgeError} (hP : P = back) :
    Tries (τ := τ) c (MonadExcept.throw e) P got back := by
  subst hP
  exact fun _ _ _ h => h

theorem bind (ha : Tries c a P got back) (hf : ∀ x, Tries c (f x) (got x) got' back) :
    Tries c (a >>= f) P got' back := by
  unfold Tries
  rw [ExceptT.run_bind]
  apply Trades.bind ha
  rintro (e | x)
  · exact fun F E s h => h
  · exact hf x

theorem frame (ha : Tries c a P got back) (G : Multiset Release) :
    Tries c a (P + G) (fun x => got x + G) (back + G) := by
  apply (Trades.frame ha G).of_eq rfl
  rintro (e | x) <;> rfl

end Tries

/-! ## Holding and releasing -/

/-- What is held may become due. -/
theorem Balanced.due_of_held {due held ts : Multiset Release} {b : Books}
    (h : Balanced c due (ts + held) b) : Balanced c (ts + due) held b := by
  have hall : ts + due + (held + b.pledged) = due + (ts + held + b.pledged) := by abel
  refine ⟨h.formed, by rw [hall]; exact h.counts, ?_, by rw [hall]; exact h.exact, h.single⟩
  intro w hw
  apply h.standing w
  rw [add_assoc]
  exact Multiset.mem_add.mpr (Or.inr hw)

namespace System

variable {σ : Type} (s : System σ) (t : Release)

@[simp] theorem books_keep : (s.keep t).books = s.books.hold t.account := by
  cases t <;> simp [keep, books, Books.hold, Release.account, holdHandle, holdCallable,
    holdClosure, holdCallback, holdBridge]

@[simp] theorem guest_keep : (s.keep t).guest = s.guest := by
  cases t <;> rfl

theorem guest_keepAll (s : System σ) (ts : List Release) : (ts.foldl keep s).guest = s.guest := by
  induction ts generalizing s with
  | nil => rfl
  | cons t ts ih => rw [List.foldl_cons, ih, guest_keep]

/-- Holders of other things change nothing about what is in use. -/
theorem InUse.keep {s : System σ} {t u : Release} (hu : s.InUse u) (ht : s.InUse t) :
    (s.keep t).InUse u := by
  obtain ⟨hs, hknown, hheld⟩ := hu
  refine ⟨hs, ?_, ?_⟩
  · rw [books_keep]
    exact (s.books.alike_hold t.account).knows hknown
  · rw [books_keep, Books.holders_hold ht.1 ht.2.2]
    omega

theorem holdHandle_eq_keep (h : Handle) : s.holdHandle h = h.releases.foldl keep s := by
  cases h <;> rfl

theorem holdSubscribers_eq_keep (subscribers : List Subscriber) :
    subscribers.foldl holdSubscriber s =
      (subscribers.flatMap Subscriber.releases).foldl keep s := by
  induction subscribers generalizing s with
  | nil => rfl
  | cons subscriber rest ih =>
    rw [List.foldl_cons, ih, List.flatMap_cons, List.foldl_append]
    cases subscriber <;> rfl

end System

namespace Holding

variable {F G Q : Multiset Release} {E : List ObjectId} {s t : World τ} {u : Release}

theorem sound (h : Holding c F E s) : Sound c s.moment := ⟨F, h.shared, h.balanced⟩

/-- A change that leaves outside code alone. -/
theorem step (h : Holding c F E s) (hguest : t.guest = s.guest)
    (hshared : ∀ u ∈ Q, u ∈ F ∨ u.account.IsShared)
    (hbalanced : Balanced c 0 (Q + s.guest.ledger.tokens) t.books) : Holding c Q E t := by
  refine ⟨?_, by rwa [hguest], by rw [hguest, h.emitting], by rw [hguest]; exact h.diary⟩
  intro u hu
  rw [hguest] at hu
  rcases Multiset.mem_add.mp hu with hu | hu
  · rcases hshared u hu with hF | hs
    · exact h.shared u (Multiset.mem_add.mpr (Or.inl hF))
    · exact hs
  · exact h.shared u (Multiset.mem_add.mpr (Or.inr hu))

/-- A change of what is not counted. -/
theorem of_books (h : Holding c F E s) (hguest : t.guest = s.guest) (hbooks : t.books = s.books) :
    Holding c F E t := by
  apply h.step hguest (fun u hu => Or.inl hu)
  rw [hbooks]
  exact h.balanced

/-- A change that brings one holder. -/
theorem gain (h : Holding c F E s) (hguest : t.guest = s.guest) (hs : u.account.IsShared)
    (hbalanced : Balanced c 0 (u ::ₘ (F + s.guest.ledger.tokens)) t.books) :
    Holding c ({u} + F) E t := by
  rw [Multiset.singleton_add]
  apply h.step hguest
  · intro v hv
    rcases Multiset.mem_cons.mp hv with rfl | hv
    · exact Or.inr hs
    · exact Or.inl hv
  · rwa [Multiset.cons_add]

/-- Another holder of something in use. -/
theorem keep (h : Holding c F E s) (hu : s.InUse u) : Holding c ({u} + F) E (s.keep u) := by
  apply h.gain (s.guest_keep u) hu.1
  rw [System.books_keep]
  exact h.balanced.hold hu.1 (h.balanced.mem_of_holders hu.2.1 hu.1 hu.2.2)

/-- Holders of some things in use. -/
theorem keepAll {ts : List Release} (h : Holding c F E s) (hts : ∀ u ∈ ts, s.InUse u) :
    Holding c (ts + F) E (ts.foldl System.keep s) := by
  induction ts generalizing s F with
  | nil => rwa [Multiset.coe_nil, zero_add]
  | cons u ts ih =>
    have hu := hts u List.mem_cons_self
    have hrest := ih (h.keep hu) fun v hv => (hts v (List.mem_cons_of_mem u hv)).keep hu
    rw [← Multiset.cons_coe, Multiset.cons_add, ← Multiset.singleton_add, add_left_comm]
    exact hrest

theorem inUse_of_mem (h : Holding c F E s) (hs : u.account.IsShared)
    (hu : u ∈ F + s.guest.ledger.tokens + s.books.pledged) : s.InUse u := by
  have hmem : u ∈ 0 + (F + s.guest.ledger.tokens + s.books.pledged) := by rwa [zero_add]
  refine ⟨hs, h.balanced.counts.known u hmem, ?_⟩
  rw [h.balanced.counts.counted _ hs]
  exact tally_ne_zero_of_mem hmem

/-- What the library holds is in use. -/
theorem inUse (h : Holding c F E s) (hu : u ∈ F) : s.InUse u := by
  apply h.inUse_of_mem (h.shared u (Multiset.mem_add.mpr (Or.inl hu)))
  exact Multiset.mem_add.mpr (Or.inl (Multiset.mem_add.mpr (Or.inl hu)))

/-- Shared things that something in use pledges are in use. -/
theorem inUse_of_pledged (h : Holding c F E s) (hs : u.account.IsShared)
    (hu : u ∈ s.books.pledged) : s.InUse u :=
  h.inUse_of_mem hs (Multiset.mem_add.mpr (Or.inr hu))

theorem release {ts : List Release} (h : Holding c (ts + F) E s) :
    Holding c F E (s.release ts) := by
  apply h.step (s.release_guest ts) fun u hu => Or.inl (Multiset.mem_add.mpr (Or.inr hu))
  have hbalanced := h.balanced
  rw [add_assoc] at hbalanced
  have hdue := hbalanced.due_of_held
  rw [add_zero] at hdue
  exact System.release_balanced hdue

end Holding

end NativeBridge
