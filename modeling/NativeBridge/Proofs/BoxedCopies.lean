-- What becomes of the copies that wraps own. A copy that a wrapper holds is
-- destroyed once, with the last holder of the wrapper. A copy that cannot be
-- wrapped has no wrapper, and is never destroyed; so over a run the calls to
-- destroy fall short of the copies and owned wraps by just these.
import NativeBridge.Proofs.BoxedLifetimes

namespace NativeBridge

variable {σ : Type}

/-! ## Calls in a table of boxes -/

/-- What the owned wrappers call at their ends, one entry each. -/
def ownedHooks (t : SharedTable BoxRecord) : Multiset BoxedStrategy :=
  t.contents.filterMap (·.hook?)

/-- The calls to destroy a wrapper that were made. -/
def destroyCalls (t : SharedTable BoxRecord) : Multiset BoxedStrategy :=
  t.contents.flatMap (·.destroyedBy)

/-- The calls that the wrappers with holders will make. -/
def destroysLeft (t : SharedTable BoxRecord) : Multiset BoxedStrategy :=
  t.cells.toList.flatMap fun cell =>
    if cell.holders = 0 then [] else cell.content.hook?.toList

theorem ownedHooks_add (t : SharedTable BoxRecord) (entry : BoxRecord) :
    ownedHooks (t.add entry) = ownedHooks t + (entry.hook?.toList : Multiset BoxedStrategy) := by
  unfold ownedHooks
  rw [SharedTable.contents_add, List.filterMap_append, ← Multiset.coe_add]
  cases h : entry.hook? <;> simp [h]

/-- Holders, and ends, leave the hooks of wrappers as they are. -/
theorem ownedHooks_of_get? {t t' : SharedTable BoxRecord}
    (h : ∀ n, (t'.get? n).map (·.hook?) = (t.get? n).map (·.hook?)) :
    ownedHooks t' = ownedHooks t := by
  have hmap : t'.contents.map (·.hook?) = t.contents.map (·.hook?) := by
    apply List.ext_getElem?
    intro n
    rw [List.getElem?_map, List.getElem?_map, SharedTable.getElem?_contents,
      SharedTable.getElem?_contents, h]
  have hsame := congrArg (List.filterMap id) hmap
  rw [List.filterMap_map, List.filterMap_map] at hsame
  exact congrArg Multiset.ofList hsame

/-- A step that makes no wrapper adds no hook. -/
theorem BoxChange.ownedHooks {t t' : SharedTable BoxRecord} (h : BoxChange t t')
    (hsize : t'.size = t.size) : ownedHooks t' = ownedHooks t := by
  cases h with
  | same => rfl
  | added w destroyer hw =>
    rw [SharedTable.size_add] at hsize
    exact absurd hsize (Nat.succ_ne_self _)
  | held n hn => exact ownedHooks_of_get? fun m => by rw [SharedTable.get?_hold]
  | dropped n =>
    apply ownedHooks_of_get?
    intro m
    rw [SharedTable.get?_dropWith]
    split
    · rw [Option.map_map]
      rfl
    · rfl

/-- Each owned wrapper has made its call, or has it still to make. -/
theorem DestroysOnce.ownedHooks {t : SharedTable BoxRecord} (h : DestroysOnce t) :
    ownedHooks t = destroyCalls t + destroysLeft t := by
  have hcell : ∀ cell ∈ t.cells.toList, cell.content.hook?.toList =
      cell.content.destroyedBy ++ if cell.holders = 0 then [] else cell.content.hook?.toList := by
    intro cell hmem
    obtain ⟨n, hn⟩ := List.mem_iff_getElem?.mp hmem
    rw [Array.getElem?_toList] at hn
    have hholders : t.holders n = cell.holders := by simp [SharedTable.holders, hn]
    rw [h.once n cell.content (by simp [SharedTable.get?, hn]), hholders]
    by_cases hzero : cell.holders = 0 <;> simp [hzero]
  have hhooks : t.contents.filterMap (·.hook?) =
      t.cells.toList.flatMap fun cell => cell.content.hook?.toList := by
    rw [SharedTable.contents, List.filterMap_map, List.filterMap_eq_flatMap_toList]
    rfl
  have hcalls : t.contents.flatMap (·.destroyedBy) =
      t.cells.toList.flatMap fun cell => cell.content.destroyedBy := List.flatMap_map ..
  unfold NativeBridge.ownedHooks destroyCalls destroysLeft
  rw [hhooks, hcalls, List.flatMap_congr hcell, Multiset.coe_add]
  exact (Multiset.coe_eq_coe.mpr (List.flatMap_append_perm _ _ _)).symm

/-- Without holders all the calls were made. -/
theorem destroysLeft_of_free {t : SharedTable BoxRecord} (h : ∀ n, t.holders n = 0) :
    destroysLeft t = 0 := by
  unfold destroysLeft
  rw [Multiset.coe_eq_zero, List.flatMap_eq_nil_iff]
  intro cell hmem
  obtain ⟨n, hn⟩ := List.mem_iff_getElem?.mp hmem
  rw [Array.getElem?_toList] at hn
  have hzero := h n
  simp only [SharedTable.holders, hn] at hzero
  rw [if_pos hzero]

/-! ## Runs with wraps and copies -/

/-- The strategy that a type was found to have. -/
def foundStrategy : Except ConversionError (Resolved × BoxedStrategy) → Multiset BoxedStrategy
  | .ok (_, strategy) => {strategy}
  | .error _ => 0

section

variable (found : Except ConversionError (Resolved × BoxedStrategy))
  (outcome : Except BridgeError Handle)

/-- The strategy of a wrap that is owned and succeeds. -/
def wrappedWith (owned : Bool) : Multiset BoxedStrategy :=
  match owned, outcome with
  | true, .ok _ => foundStrategy found
  | _, _ => 0

/-- The strategy of a copy whose wrap fails. -/
def lostWith : Multiset BoxedStrategy :=
  match outcome with
  | .ok _ => 0
  | .error _ => foundStrategy found

/-- A copy is wrapped or lost. -/
theorem wrappedWith_add_lostWith :
    wrappedWith found outcome true + lostWith found outcome = foundStrategy found := by
  cases outcome with
  | ok h => exact add_zero _
  | error e => exact zero_add _

end

/-- What a run did with boxed structures, by strategy. -/
structure BoxedUses where
  /-- The owned wraps that succeeded. -/
  wraps : Multiset BoxedStrategy := 0
  /-- The copies that were made to be wrapped. -/
  copies : Multiset BoxedStrategy := 0
  /-- Those of them whose wrap failed. -/
  lost : Multiset BoxedStrategy := 0

namespace BoxedUses

/-- The uses of one run and then of another. -/
instance : Add BoxedUses :=
  ⟨fun n m => ⟨n.wraps + m.wraps, n.copies + m.copies, n.lost + m.lost⟩⟩

theorem add_none (n : BoxedUses) : n + {} = n := by
  obtain ⟨wraps, copies, lost⟩ := n
  change (⟨wraps + 0, copies + 0, lost + 0⟩ : BoxedUses) = _
  rw [add_zero, add_zero, add_zero]

/-- Between the two states as many copies were reported as were made by
strategies with names. -/
def Reported (n : BoxedUses) (s t : System σ) : Prop :=
  (t.copyReports : Multiset String) = s.copyReports + n.copies.filterMap (·.name)

end BoxedUses

/-- A run with the wraps and the copies in it. Whatever else it does makes no
boxed wrapper. -/
inductive BoxedRun (a : Stage σ) : BoxedUses → Stage σ → Prop where
  | rest : BoxedRun a {} a
  | step {n : BoxedUses} {b c : Stage σ} {es : List Happening} (before : BoxedRun a n b)
    (last : Stage.Step b es c) (hsize : c.system.boxes.size = b.system.boxes.size) :
    BoxedRun a n c
  | wrap {n : BoxedUses} {s t : System σ} {kept : Multiset Release}
    {snapshots : List (List Subscriber)} {r : RuntimeId} {block : Block} {type : TypeId}
    {owned : Bool} {outcome : Except BridgeError Handle}
    (before : BoxedRun a n ⟨s, [], kept, snapshots⟩)
    (hrun : (wrapBoxed r block type owned).run.run s = (outcome, t)) :
    BoxedRun a { n with wraps := n.wraps + wrappedWith (s.boxedStrategy r type) outcome owned }
      ⟨t, [], handleGiven outcome + kept, snapshots⟩
  | copy {n : BoxedUses} {s t : System σ} {kept : Multiset Release}
    {snapshots : List (List Subscriber)} {r : RuntimeId} {block : Block} {type : TypeId}
    {outcome : Except BridgeError Handle} (before : BoxedRun a n ⟨s, [], kept, snapshots⟩)
    (hrun : (wrapBoxedCopy r block type).run.run s = (outcome, t)) :
    BoxedRun a { n with
        copies := n.copies + foundStrategy (s.boxedStrategy r type)
        lost := n.lost + lostWith (s.boxedStrategy r type) outcome }
      ⟨t, [], handleGiven outcome + kept, snapshots⟩

/-- A copy that is made is reported, if its strategy has a name. -/
theorem CopiesTo.reports {s t : System σ} {r : RuntimeId} {block : Block} {type : TypeId}
    {outcome : Except BridgeError Handle} (h : CopiesTo s r block type outcome t) :
    (t.copyReports : Multiset String) =
      s.copyReports + (foundStrategy (s.boxedStrategy r type)).filterMap (·.name) := by
  cases h with
  | unresolved e hfound =>
    rw [hfound]
    exact (add_zero _).symm
  | copied info strategy hfound hwraps =>
    have hnames : Multiset.filterMap (·.name) {strategy} =
        (strategy.name.toList : Multiset String) := by
      rw [← Multiset.coe_singleton, Multiset.filterMap_coe, List.filterMap_eq_flatMap_toList,
        List.flatMap_singleton]
    rw [hwraps.copyReports, s.copyReports_announce_copy, ← Multiset.coe_add, hfound, ← hnames]
    rfl

/-- What a wrap adds to the table is what it counts as. -/
theorem WrapsTo.ownedHooks {s t : System σ} {r : RuntimeId} {block : Block} {type : TypeId}
    {owned : Bool} {outcome : Except BridgeError Handle}
    (h : WrapsTo s r block type owned outcome t) :
    NativeBridge.ownedHooks t.boxes = NativeBridge.ownedHooks s.boxes +
      wrappedWith (s.boxedStrategy r type) outcome owned := by
  cases h with
  | unresolved e hfound => cases owned <;> exact (add_zero _).symm
  | refused info strategy e hfound hwrap =>
    rw [System.announce_boxes]
    cases owned <;> exact (add_zero _).symm
  | made info strategy held hfound hwrap =>
    rw [ownedHooks_add, System.hook?_boxFor, hfound]
    cases owned <;> rfl

namespace BoxedRun

variable {a b : Stage σ} {n : BoxedUses} {guest : σ}

/-- It is a run in small steps. -/
theorem run (h : BoxedRun a n b) : ∃ es, Stage.Run a es b := by
  induction h with
  | rest => exact ⟨[], .rest⟩
  | step before last hsize ih =>
    obtain ⟨es, hrun⟩ := ih
    exact ⟨_, hrun.step last⟩
  | wrap before hrun ih =>
    obtain ⟨es, hbefore⟩ := ih
    exact ⟨es, hbefore.wrapBoxed (wrapsTo_of_run hrun)⟩
  | copy before hrun ih =>
    obtain ⟨es, hbefore⟩ := ih
    exact ⟨es, hbefore.wrapCopy (copiesTo_of_run hrun)⟩

/-- A run goes on with another one. -/
theorem trans (h : BoxedRun a n b) {m : BoxedUses} {c : Stage σ} (h' : BoxedRun b m c) :
    BoxedRun a (n + m) c := by
  induction h' with
  | rest => rwa [n.add_none]
  | step before last hsize ih => exact ih.step last hsize
  | @wrap m s t kept snapshots r block type owned outcome before hrun ih =>
    have hnext := ih.wrap hrun
    have hwraps : (n + m).wraps + wrappedWith (s.boxedStrategy r type) outcome owned =
        n.wraps + (m.wraps + wrappedWith (s.boxedStrategy r type) outcome owned) := add_assoc _ _ _
    rw [hwraps] at hnext
    exact hnext
  | @copy m s t kept snapshots r block type outcome before hrun ih =>
    have hnext := ih.copy hrun
    have hcopies : (n + m).copies + foundStrategy (s.boxedStrategy r type) =
        n.copies + (m.copies + foundStrategy (s.boxedStrategy r type)) := add_assoc _ _ _
    have hlost : (n + m).lost + lostWith (s.boxedStrategy r type) outcome =
        n.lost + (m.lost + lostWith (s.boxedStrategy r type) outcome) := add_assoc _ _ _
    rw [hcopies, hlost] at hnext
    exact hnext

/-- The owned wrappers are those of the owned wraps, and of the copies that
were not lost. -/
theorem ownedHooks (h : BoxedRun (.start guest) n a) :
    NativeBridge.ownedHooks a.system.boxes + n.lost = n.wraps + n.copies := by
  induction h with
  | rest => rfl
  | step before last hsize ih =>
    rw [last.boxes.ownedHooks hsize]
    exact ih
  | @wrap n s t kept snapshots r block type owned outcome before hrun ih =>
    have hhooks := (wrapsTo_of_run hrun).ownedHooks
    dsimp only at ih ⊢
    rw [hhooks, add_right_comm, ih]
    exact add_right_comm _ _ _
  | @copy n s t kept snapshots r block type outcome before hrun ih =>
    have hhooks : NativeBridge.ownedHooks t.boxes + lostWith (s.boxedStrategy r type) outcome =
        NativeBridge.ownedHooks s.boxes + foundStrategy (s.boxedStrategy r type) := by
      cases copiesTo_of_run hrun with
      | unresolved e hfound => rw [hfound]; rfl
      | copied info strategy hfound hwraps =>
        rw [hwraps.ownedHooks, System.announce_boxes, System.boxedStrategy_announce, add_assoc,
          wrappedWith_add_lostWith]
    dsimp only at ih ⊢
    calc NativeBridge.ownedHooks t.boxes + (n.lost + lostWith (s.boxedStrategy r type) outcome)
        = n.lost + (NativeBridge.ownedHooks t.boxes +
            lostWith (s.boxedStrategy r type) outcome) := add_left_comm _ _ _
      _ = (NativeBridge.ownedHooks s.boxes + n.lost) + foundStrategy (s.boxedStrategy r type) := by
        rw [hhooks, ← add_assoc, add_comm n.lost]
      _ = n.wraps + (n.copies + foundStrategy (s.boxedStrategy r type)) := by rw [ih, add_assoc]

end BoxedRun

/-! ## Runs of outside code -/

section

variable {τ : Type} {c : Conduct} {s t : World τ} {others : Multiset Release}
  {snapshots : List (List Subscriber)}

/-- Runs with wraps and copies go on with all that the library does, and no copy
that is reported is left out. -/
theorem BoxedRun.isPassage {a₀ : Stage (Outside τ)} (h : a₀.Sound) :
    IsPassage (fun b => ∃ n, BoxedRun a₀ n b ∧ n.Reported a₀.system b.system) fun _ => True where
  sound := by
    rintro a ⟨n, hrun, -⟩
    obtain ⟨es, hsteps⟩ := hrun.run
    exact hsteps.sound h
  step := by
    rintro a es b ⟨n, hrun, hreported⟩ hstep hnone
    refine ⟨n, hrun.step hstep hnone.size, ?_⟩
    unfold BoxedUses.Reported
    rw [hnone.reports]
    exact hreported
  wrapBoxed := by
    rintro s kept snapshots r block type owned outcome t ⟨n, hrun, hreported⟩ hwrap
    refine ⟨_, hrun.wrap hwrap, ?_⟩
    unfold BoxedUses.Reported
    rw [(wrapsTo_of_run hwrap).copyReports]
    exact hreported
  wrapBoxedCopy := by
    rintro s kept snapshots r block type outcome t ⟨n, hrun, hreported⟩ hcopy
    refine ⟨_, hrun.copy hcopy, ?_⟩
    unfold BoxedUses.Reported at hreported ⊢
    rw [(copiesTo_of_run hcopy).reports, hreported, Multiset.filterMap_add, add_assoc]
  moment _ := trivial

/-- Whatever outside code does is a run with wraps and copies. -/
theorem Moves.boxedRun (h : Moves c s t)
    (hs : (⟨s, [], others + s.guest.ledger.held, snapshots⟩ : Stage (Outside τ)).Sound) :
    ∃ n : BoxedUses, BoxedRun ⟨s, [], others + s.guest.ledger.held, snapshots⟩ n
      ⟨t, [], others + t.guest.ledger.held, snapshots⟩ ∧ n.Reported s t := by
  have hnone : BoxedUses.Reported {} s s := (add_zero _).symm
  have hend := h.playing snapshots others
    ⟨BoxedRun.isPassage hs, ⟨{}, .rest, hnone⟩, fun _ _ => trivial⟩
  exact hend.here

end

/-! ## The account of copies -/

/-- What becomes of a copy that this strategy makes from here on. If it is
wrapped, the handle owns it, and it is destroyed once, with the last holder.
If it is refused, the refusal is all that happens. -/
def CopyEnds (guest : σ) (es : List Happening) (s : System σ) (kept : Multiset Release)
    (snapshots : List (List Subscriber)) (r : RuntimeId) (block : Block) (type : TypeId)
    (info : Resolved) (strategy : BoxedStrategy) : Prop :=
  match strategy.wrap (strategy.copy block) with
  | .ok held => ∃ t, (wrapBoxedCopy r block type).run.run s =
      (.ok (.boxed (s.boxFor info strategy held true).wrapper), t) ∧
    BoxBegins guest es t kept snapshots (s.boxFor info strategy held true).wrapper (some strategy)
  | .error e => (wrapBoxedCopy r block type).run.run s = (.error (.conversion e),
      (s.announce strategy .copy block).announce strategy .wrap (strategy.copy block))

theorem Stage.Run.copyEnds {guest : σ} {es : List Happening} {s : System σ}
    {kept : Multiset Release} {snapshots : List (List Subscriber)}
    (h : Stage.Run (.start guest) es ⟨s, [], kept, snapshots⟩) {r : RuntimeId} {type : TypeId}
    {info : Resolved} {strategy : BoxedStrategy}
    (hfound : s.boxedStrategy r type = .ok (info, strategy)) (block : Block) :
    CopyEnds guest es s kept snapshots r block type info strategy := by
  have hannounced := hfound
  rw [← s.boxedStrategy_announce strategy .copy block] at hannounced
  rcases hrun : (wrapBoxedCopy r block type).run.run s with ⟨outcome, t⟩
  unfold CopyEnds
  rw [hrun]
  cases copiesTo_of_run hrun with
  | unresolved e hnone => exact absurd (hnone.symm.trans hfound) (by simp)
  | copied info₁ strategy₁ hfound₁ hwraps =>
    obtain ⟨rfl, rfl⟩ := Prod.mk.inj (Except.ok.inj (hfound₁.symm.trans hfound))
    cases hwraps with
    | unresolved e hnone => exact absurd (hnone.symm.trans hannounced) (by simp)
    | refused info₂ strategy₂ e hfound₂ hwrap =>
      obtain ⟨rfl, rfl⟩ := Prod.mk.inj (Except.ok.inj (hfound₂.symm.trans hannounced))
      rw [hwrap]
    | made info₂ strategy₂ held hfound₂ hwrap =>
      obtain ⟨rfl, rfl⟩ := Prod.mk.inj (Except.ok.inj (hfound₂.symm.trans hannounced))
      have hbegins := (Stage.Run.announce strategy₂ .copy block h).boxBegins hfound₂ hwrap true
      rw [System.boxFor_announce] at hbegins
      rw [hwrap, System.boxFor_announce]
      exact ⟨_, rfl, hbegins⟩

/-- What holds of copies after a run with wraps and copies. -/
structure CopiesAccounted (guest : σ) (n : BoxedUses) (a : Stage σ) : Prop where
  /-- There is one call to destroy, made or still to come, for each owned wrap
  and for each copy that was not lost. -/
  balance : destroyCalls a.system.boxes + destroysLeft a.system.boxes + n.lost =
    n.wraps + n.copies
  /-- When all handles are dropped, there were as many calls as owned wraps and
  copies just if no copy was lost. -/
  settled : (∀ m, a.boxHolders m = 0) →
    ((destroyCalls a.system.boxes).card = n.wraps.card + n.copies.card ↔ n.lost = 0)
  /-- A copy is lost just if its wrap is refused. -/
  copying : a.due = [] → ∃ es, ∀ r block type info strategy,
    a.system.boxedStrategy r type = .ok (info, strategy) →
      CopyEnds guest es a.system a.kept a.snapshots r block type info strategy

theorem BoxedRun.copiesAccounted {guest : σ} {n : BoxedUses} {a : Stage σ}
    (h : BoxedRun (.start guest) n a) : CopiesAccounted guest n a := by
  obtain ⟨es, hrun⟩ := h.run
  have hsound := hrun.sound (Stage.start_sound guest)
  have hbalance := h.ownedHooks
  rw [hrun.destroysOnce.ownedHooks] at hbalance
  refine ⟨hbalance, fun hfree => ?_, fun hdue => ⟨es, fun r block type info strategy hfound => ?_⟩⟩
  · have hnone : ∀ m, a.system.boxes.holders m = 0 := fun m => (hsound.boxHolders m).trans (hfree m)
    rw [destroysLeft_of_free hnone, add_zero] at hbalance
    have hcards := congrArg Multiset.card hbalance
    rw [Multiset.card_add, Multiset.card_add] at hcards
    rw [← Multiset.card_eq_zero]
    omega
  · obtain ⟨s, due, kept, snapshots⟩ := a
    obtain rfl : due = [] := hdue
    exact hrun.copyEnds hfound block

/-- In every run with wraps and copies a copy is destroyed once if it is wrapped,
when the last holder of its wrapper goes, and never if its wrap fails; so the
calls to destroy make up for all owned wraps and all copies just if no copy was
lost. Whatever outside code does is such a run, and goes on with any such run that
came to where it starts; the copies that are reported are the copies in it that
strategies with names made. -/
theorem copies_accounted {guest : σ} {n : BoxedUses} {a : Stage σ}
    (h : BoxedRun (.start guest) n a) :
    CopiesAccounted guest n a ∧
      (∀ {τ : Type} {c : Conduct} {memory : τ} {t : World τ}, Moves c (World.start memory) t →
        ∃ n : BoxedUses, BoxedRun (.start { memory }) n ⟨t, [], t.guest.ledger.held, []⟩ ∧
          (t.copyReports : Multiset String) = n.copies.filterMap (·.name)) ∧
      ∀ {τ : Type} {c : Conduct} {guest : Outside τ} {n : BoxedUses} {s t : World τ}
        {others : Multiset Release} {snapshots : List (List Subscriber)},
        BoxedRun (.start guest) n ⟨s, [], others + s.guest.ledger.held, snapshots⟩ →
          Moves c s t → ∃ m : BoxedUses,
            BoxedRun (.start guest) (n + m) ⟨t, [], others + t.guest.ledger.held, snapshots⟩ ∧
              m.Reported s t := by
  refine ⟨h.copiesAccounted, fun {τ c memory t} hmoves => ?_,
    fun {τ c guest n s t others snapshots} hrun hmoves => ?_⟩
  · have hstart : (⟨World.start memory, [], 0 + (World.start memory).guest.ledger.held, []⟩ :
        Stage (Outside τ)).Sound := Stage.start_sound _
    obtain ⟨n, hruns, hreported⟩ := hmoves.boxedRun hstart
    rw [zero_add] at hruns
    exact ⟨n, hruns, hreported.trans (zero_add _)⟩
  · obtain ⟨es, hsteps⟩ := hrun.run
    obtain ⟨m, hruns, hreported⟩ := hmoves.boxedRun (hsteps.sound (Stage.start_sound guest))
    exact ⟨m, hrun.trans hruns, hreported⟩

namespace Sample

/-- A strategy that copies blocks and wraps none. -/
def spiller : BoxedStrategy where
  name := none
  wrap _ := .error (.typeMismatch "good color" "bad color")
  unwrap := .ok
  copy := id

/-- A bridge that knows the type, with this strategy. -/
def stocked : System Unit :=
  let s : System Unit := (Arrangement.newRegistry false).apply { guest := () }
  let change : RegistryChange := .register "Color" "Gfx::Color" .boxed (some (.boxed spiller))
  (((Arrangement.changeRegistry ⟨0⟩ change).apply s).addBridge {} ⟨0⟩ none).2

/-- A copy is lost. -/
def spill : BoxedUses := { copies := {spiller}, lost := {spiller} }

theorem spill_run : BoxedRun (.start ()) spill ⟨stocked, [], {.bridge bridge}, []⟩ := by
  let shelf : System Unit := { stocked with bridges := {}, relays := #[] }
  have hshelf : Stage.Step (.start ()) [] ⟨shelf, [], 0 + 0, []⟩ := .work (.uncounted shelf rfl)
  have hbridge : Stage.Step ⟨shelf, [], 0 + 0, []⟩ [] ⟨stocked, [], {.bridge bridge}, []⟩ :=
    .work (.bridge {} ⟨0⟩ none)
  have hcopy : (wrapBoxedCopy bridge pigment color).run.run stocked =
      (.error (.conversion (.typeMismatch "good color" "bad color")), stocked) := rfl
  exact ((BoxedRun.rest.step hshelf rfl).step hbridge rfl).copy hcopy

/-- The same strategy with a name. -/
def leaker : BoxedStrategy := { spiller with name := some "leaker" }

/-- Outside code makes a bridge that knows the type. -/
def readied : World Unit :=
  let change : RegistryChange := .register "Color" "Gfx::Color" .boxed (some (.boxed leaker))
  carryOut (.idle _)
    [.arrange (.newRegistry false), .arrange (.changeRegistry ⟨0⟩ change), .newBridge {} ⟨0⟩ none]
    (.start ())

/-- It asks for a copy. -/
def leaked : World Unit :=
  (((Deed.wrapBoxedCopy bridge pigment color).perform (.idle _)).run readied).2

theorem moves_leaked (c : Conduct) : Moves c (World.start ()) leaked := by
  have halive : readied.isBridgeAlive bridge = true := by decide +kernel
  have hallowed : (Deed.wrapBoxedCopy bridge pigment color).Allowed c readied := by
    refine ⟨?_, fun _ => trivial⟩
    intro u hu
    rw [List.mem_singleton.mp hu]
    exact ⟨trivial, trivial, System.isBridgeAlive_iff.mp halive⟩
  have hreadied : Moves c (World.start ()) readied := Moves.carryOut Guest.idle_isOutside rfl _
  exact hreadied.trans (Moves.deed Guest.idle_isOutside hallowed)

end Sample

/-- One copy was made, and nothing destroys it; and a copy that outside code has
made is lost in the run that its moves are. -/
theorem sample_copies_accounted :
    (destroyCalls Sample.stocked.boxes = 0 ∧ Sample.spill.copies.card = 1 ∧
      (destroyCalls Sample.stocked.boxes).card ≠
        Sample.spill.wraps.card + Sample.spill.copies.card) ∧
      ∃ n, BoxedRun (.start (World.start ()).guest) n
        ⟨Sample.leaked, [], Sample.leaked.guest.ledger.held, []⟩ ∧
          destroyCalls Sample.leaked.boxes = 0 ∧ n.lost ≠ 0 := by
  obtain ⟨hlaw, hmoves, -⟩ := copies_accounted Sample.spill_run
  refine ⟨⟨rfl, rfl, fun hcount => ?_⟩, ?_⟩
  · obtain ⟨es, hrun⟩ := Sample.spill_run.run
    have hfree := (hrun.sound (Stage.start_sound ())).boxHolders
    have hlost := (hlaw.settled fun m => (hfree m).symm).mp hcount
    exact absurd hlost (Multiset.singleton_ne_zero _)
  · obtain ⟨n, hrun, hreported⟩ := hmoves (Sample.moves_leaked .any)
    refine ⟨n, hrun, rfl, fun hlost => ?_⟩
    have hbalance := (copies_accounted hrun).1.balance
    have hnone : (0 : Multiset BoxedStrategy) = n.wraps + n.copies := by
      rw [← hbalance, hlost]
      rfl
    have hcopies : n.copies = 0 := (add_eq_zero.mp hnone.symm).2
    have hreports : Sample.leaked.copyReports = ["leaker"] := rfl
    rw [hreports, hcopies] at hreported
    exact absurd hreported (Multiset.singleton_ne_zero _)

end NativeBridge
