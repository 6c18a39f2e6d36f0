-- Owned boxed wrappers are destroyed exactly once, by the strategy that wrapped
-- them. The call is made when the last holder goes, whoever that is and
-- whatever became of the type and the bridge since; a borrowed wrapper makes
-- none.
import NativeBridge.Proofs.BoxedWraps
import NativeBridge.Proofs.ClosureLifetimes

namespace NativeBridge

variable {σ : Type}

/-! ## Runs of outside code -/

/-- Whatever outside code does from some moment of a run on goes on with that
run, whoever holds other things meanwhile. -/
theorem Moves.runsOn {τ : Type} {c : Conduct} {s t : World τ} (h : Moves c s t)
    {others : Multiset Release} {snapshots : List (List Subscriber)}
    (hs : (⟨s, [], others + s.guest.ledger.held, snapshots⟩ : Stage (Outside τ)).Sound) :
    ∃ es, Stage.Run ⟨s, [], others + s.guest.ledger.held, snapshots⟩ es
      ⟨t, [], others + t.guest.ledger.held, snapshots⟩ := by
  have hend := h.playing snapshots others
    ⟨Stage.Run.isPassage hs, ⟨[], .rest⟩, fun m hm => Or.inl hm⟩
  exact hend.here

/-! ## The life of a wrapper -/

/-- The holders of the boxed wrapper with this number: what others keep, the
data of closures and callbacks, and what is on its way out. -/
def Stage.boxHolders (a : Stage σ) (n : Nat) : Nat :=
  tally (.box n) (a.due + (a.kept + a.snapped + a.system.books.pledged))

/-- Calls a strategy, if there is one to call, to destroy the block of a
wrapper. -/
def System.callDestroy (s : System σ) (hook : Option BoxedStrategy) (w : BoxedWrapper) :
    System σ :=
  match hook with
  | some strategy => s.announce strategy .destroy w.block
  | none => s

theorem Stage.Sound.boxHolders {a : Stage σ} (h : a.Sound) (n : Nat) :
    a.system.boxes.holders n = a.boxHolders n :=
  h.balanced.counts.counted (.box n) trivial

/-- The end of a holder calls the strategy if it is the last one. -/
theorem System.releaseOne_box {s : System σ} {w : BoxedWrapper} {entry : BoxRecord}
    (hentry : s.boxes.get? w.number = some entry) :
    s.releaseOne (.boxed w) =
      let t : System σ := { s with boxes := s.boxes.dropWith w.number BoxRecord.finish }
      ([], if s.boxes.holders w.number = 1 then t.callDestroy entry.hook? w else t) := by
  simp only [releaseOne, callDestroy, hentry, Option.bind_eq_bind, Option.bind_some]
  by_cases hlast : s.boxes.holders w.number = 1
  · cases hhook : entry.hook? <;> simp [hlast]
  · simp [hlast]

/-- What is so of a wrapper at every moment of its life and after it, if it is
to call this hook at its end. -/
structure BoxedLife (a : Stage σ) (w : BoxedWrapper) (hook : Option BoxedStrategy) : Prop where
  /-- The hook was called once if the wrapper has no holder any more, and not
  at all if it has one; and nothing else was. -/
  calls : ∃ entry, a.system.boxes.get? w.number = some entry ∧ entry.wrapper = w ∧
    entry.destroyedBy = if a.boxHolders w.number = 0 then hook.toList else []
  /-- The call is made when the last holder goes, and for this wrapper. -/
  ending : ∀ rest, a.due = .boxed w :: rest → a.carry.system =
    let t : System σ :=
      { a.system with boxes := a.system.boxes.dropWith w.number BoxRecord.finish }
    if a.boxHolders w.number = 1 then t.callDestroy hook w else t
  /-- Without a holder it is gone for good. -/
  gone : a.boxHolders w.number = 0 →
    ∀ {es : List Happening} {b : Stage σ}, Stage.Run a es b → b.boxHolders w.number = 0

namespace Stage.Run

variable {a b : Stage σ} {es es' : List Happening} {guest : σ} {entry : BoxRecord}

/-- The wrapper of a record lives as long as it has a holder. -/
theorem boxedLife (h : Run (start guest) es a) {n : Nat}
    (hentry : a.system.boxes.get? n = some entry) (hlater : Run a es' b) :
    BoxedLife b entry.wrapper entry.hook? := by
  have hsound := h.sound (start_sound guest)
  have hnumber : entry.wrapper.number = n := h.destroysOnce.numbered n entry hentry
  obtain ⟨record, hrecord, hwrapper, hdestroyer, -⟩ := hlater.boxesLast n entry hentry
  have hhook : record.hook? = entry.hook? := by
    unfold BoxRecord.hook?
    rw [hwrapper, hdestroyer]
  have hlive := hlater.sound hsound
  have hholders := hlive.boxHolders n
  refine ⟨?_, ?_, ?_⟩
  · have honce := (h.trans hlater).destroysOnce.once n record hrecord
    rw [hholders, hhook] at honce
    rw [hnumber]
    exact ⟨record, hrecord, hwrapper, honce⟩
  · intro rest hdue
    obtain ⟨s, due, kept, snapshots⟩ := b
    obtain rfl : due = .boxed entry.wrapper :: rest := hdue
    have hrecord' : s.boxes.get? entry.wrapper.number = some record := by rwa [hnumber]
    rw [carry_cons, System.releaseOne_box hrecord', hhook, hnumber, ← hholders]
  · intro hnone es c hrest
    obtain ⟨-, -, -, -, hgone⟩ := hrest.boxesLast n record hrecord
    rw [hnumber] at hnone ⊢
    rw [← (hrest.sound hlive).boxHolders]
    exact hgone (hholders.trans hnone)

end Stage.Run

/-- Someone was given the first holder of a new wrapper, which lives on in
whatever follows, with this hook for its end. -/
structure BoxBegins (guest : σ) (es : List Happening) (t : System σ) (kept : Multiset Release)
    (snapshots : List (List Subscriber)) (w : BoxedWrapper) (hook : Option BoxedStrategy) :
    Prop where
  run : Stage.Run (.start guest) es ⟨t, [], .boxed w ::ₘ kept, snapshots⟩
  life : ∀ {es' : List Happening} {b : Stage σ},
    Stage.Run ⟨t, [], .boxed w ::ₘ kept, snapshots⟩ es' b → BoxedLife b w hook

/-- The handle is one of the next wrapper, which the strategy of the type makes
of this block, and which begins its life. -/
def GivesBox (guest : σ) (es : List Happening) (s t : System σ) (kept : Multiset Release)
    (snapshots : List (List Subscriber)) (r : RuntimeId) (block : BoxedStrategy → Block)
    (type : TypeId) (owned : Bool) (h : Handle) : Prop :=
  ∃ info strategy held, s.boxedStrategy r type = .ok (info, strategy) ∧
    strategy.wrap (block strategy) = .ok held ∧
    h = .boxed (s.boxFor info strategy held owned).wrapper ∧
    BoxBegins guest es t kept snapshots (s.boxFor info strategy held owned).wrapper
      (if owned then some strategy else none)

section

variable {guest : σ} {es : List Happening} {s t : System σ} {kept : Multiset Release}
  {snapshots : List (List Subscriber)} {r : RuntimeId} {block : Block} {type : TypeId}
  {owned : Bool} {h : Handle}

/-- A wrapper that was just made begins its life. -/
theorem Stage.Run.boxBegins (hrun : Stage.Run (.start guest) es ⟨s, [], kept, snapshots⟩)
    {info : Resolved} {strategy : BoxedStrategy} {held : Block}
    (hfound : s.boxedStrategy r type = .ok (info, strategy))
    (hwrap : strategy.wrap block = .ok held) (owned : Bool) :
    BoxBegins guest es
      { s.announce strategy .wrap block with
        boxes := s.boxes.add (s.boxFor info strategy held owned) }
      kept snapshots (s.boxFor info strategy held owned).wrapper
      (if owned then some strategy else none) := by
  have hmade : WrapsTo s r block type owned _ _ := .made info strategy held hfound hwrap
  have hgoesOn := hrun.wrapBoxed hmade
  refine ⟨hgoesOn, fun hlater => ?_⟩
  rw [← s.hook?_boxFor info strategy held owned]
  refine hgoesOn.boxedLife (n := s.boxes.size) ?_ hlater
  exact (SharedTable.get?_add _ _ _).trans (if_pos rfl)

/-- A wrap that succeeds begins a life. -/
theorem WrapsTo.begins (hrun : Stage.Run (.start guest) es ⟨s, [], kept, snapshots⟩)
    (hwraps : WrapsTo s r block type owned (.ok h) t) :
    GivesBox guest es s t kept snapshots r (fun _ => block) type owned h := by
  cases hwraps with
  | made info strategy held hfound hwrap =>
    exact ⟨info, strategy, held, hfound, hwrap, rfl, hrun.boxBegins hfound hwrap owned⟩

/-- So does a wrap of a copy that succeeds. -/
theorem CopiesTo.begins (hrun : Stage.Run (.start guest) es ⟨s, [], kept, snapshots⟩)
    (hcopies : CopiesTo s r block type (.ok h) t) :
    GivesBox guest es s t kept snapshots r (·.copy block) type true h := by
  cases hcopies with
  | copied info strategy hfound hwraps =>
    obtain ⟨info', strategy', held, hagain, hheld, hh, hbegins⟩ :=
      hwraps.begins (.announce strategy .copy block hrun)
    rw [System.boxedStrategy_announce, hfound] at hagain
    obtain ⟨rfl, rfl⟩ := Prod.mk.inj (Except.ok.inj hagain)
    rw [System.boxFor_announce] at hh hbegins
    exact ⟨info, strategy, held, hfound, hheld, hh, hbegins⟩

/-- What wraps give at some moment of a run. -/
structure WrapsBegin (guest : σ) (es : List Happening) (s : System σ) (kept : Multiset Release)
    (snapshots : List (List Subscriber)) : Prop where
  /-- A wrap that succeeds gives a new wrapper, which that strategy destroys if
  it is owned. -/
  wrap : ∀ r block type owned h t, (wrapBoxed r block type owned).run.run s = (.ok h, t) →
    GivesBox guest es s t kept snapshots r (fun _ => block) type owned h
  /-- So does a wrap of a copy, which is owned. -/
  copy : ∀ r block type h t, (wrapBoxedCopy r block type).run.run s = (.ok h, t) →
    GivesBox guest es s t kept snapshots r (·.copy block) type true h

theorem Stage.Run.wrapsBegin (hrun : Stage.Run (.start guest) es ⟨s, [], kept, snapshots⟩) :
    WrapsBegin guest es s kept snapshots where
  wrap _ _ _ _ _ _ hwrap := (wrapsTo_of_run hwrap).begins hrun
  copy _ _ _ _ _ hcopy := (copiesTo_of_run hcopy).begins hrun

/-- Nothing is ever called to destroy a borrowed wrapper. -/
theorem Stage.Run.borrowed_uncalled {a : Stage σ} (hrun : Stage.Run (.start guest) es a) {n : Nat}
    {entry : BoxRecord} (hentry : a.system.boxes.get? n = some entry)
    (hborrowed : entry.wrapper.ownership = .borrowed) : entry.destroyedBy = [] := by
  have hnone : entry.hook? = none := by
    unfold BoxRecord.hook?
    rw [if_neg (by rw [hborrowed]; exact Ownership.noConfusion)]
  rw [hrun.destroysOnce.once n entry hentry, hnone]
  exact ite_self _

end

/-- Whatever outside code does is a run in small steps, and goes on with any
run that came to where it starts. In every run a borrowed wrapper makes no call;
and wherever a run comes to, a wrap or a copy that succeeds gives a new wrapper,
which is destroyed once if it is owned, when its last holder goes, by the
strategy that the type had when it was wrapped. -/
theorem boxed_lifetimes :
    (∀ {τ : Type} {c : Conduct} {memory : τ} {t : World τ}, Moves c (World.start memory) t →
      (∃ es, Stage.Run (.start { memory }) es ⟨t, [], t.guest.ledger.held, []⟩) ∧
        ∀ m ∈ t.guest.diary, (Stage.start { memory }).Explains m) ∧
      (∀ {τ : Type} {c : Conduct} {guest : Outside τ} {es : List Happening} {s t : World τ}
        {others : Multiset Release} {snapshots : List (List Subscriber)},
        Stage.Run (.start guest) es ⟨s, [], others + s.guest.ledger.held, snapshots⟩ →
          Moves c s t → ∃ later, Stage.Run ⟨s, [], others + s.guest.ledger.held, snapshots⟩ later
            ⟨t, [], others + t.guest.ledger.held, snapshots⟩) ∧
      ∀ {σ : Type} {guest : σ} {es : List Happening},
        (∀ {a : Stage σ}, Stage.Run (.start guest) es a → ∀ n entry,
          a.system.boxes.get? n = some entry → entry.wrapper.ownership = .borrowed →
            entry.destroyedBy = []) ∧
        ∀ {s : System σ} {kept : Multiset Release} {snapshots : List (List Subscriber)},
          Stage.Run (.start guest) es ⟨s, [], kept, snapshots⟩ →
            WrapsBegin guest es s kept snapshots := by
  refine ⟨fun h => h.run, fun hrun hmoves => hmoves.runsOn (hrun.sound (Stage.start_sound _)),
    fun {σ guest es} => ⟨fun hrun n entry hentry hborrowed => ?_, fun hrun => hrun.wrapsBegin⟩⟩
  exact hrun.borrowed_uncalled hentry hborrowed

namespace Sample

/-- A strategy that wraps blocks as they are. -/
def painter (name : String) : BoxedStrategy := ⟨some name, .ok, .ok, id⟩

def color : TypeId := TypeId.ofName "Color"

def pigment : Block := ⟨[7]⟩

/-- Registers the type with this strategy, under a package of its own. -/
def paint (name : String) : Deed Unit :=
  .arrange (.changeRegistry ⟨0⟩ (.register "Color" name .boxed (some (.boxed (painter name)))))

/-- A bridge that knows the type. -/
def painted : World Unit :=
  carryOut (.idle _) [.arrange (.newRegistry false), paint "first", .newBridge {} ⟨0⟩ none]
    (.start ())

def paintwork : BoxedWrapper := ⟨0, color, "first", pigment, .owned⟩

/-- A block is wrapped. -/
def coated : World Unit := ((wrapBoxed bridge pigment color true).run.run painted).2

/-- The type gets another strategy. -/
def repainted : World Unit := carryOut (.idle _) [paint "second"] coated

/-- The bridge goes, and then the only handle. -/
def scraped : World Unit :=
  ((repainted.releaseOne (.bridge bridge)).2.releaseOne (.boxed paintwork)).2

theorem scraped_run : ∃ es, Stage.Run
    ⟨coated, [], .boxed paintwork ::ₘ painted.guest.ledger.held, []⟩ es ⟨scraped, [], 0, []⟩ := by
  have hkept : (.boxed paintwork ::ₘ painted.guest.ledger.held : Multiset Release) =
      ([.bridge bridge, .boxed paintwork] : List Release) + 0 := by
    rw [add_zero]
    exact Multiset.coe_eq_coe.mpr (List.Perm.swap _ _ _)
  rw [hkept]
  have hrest : Stage.Run _ [] ⟨coated, [], ([.bridge bridge, .boxed paintwork] : List Release) + 0,
    []⟩ := .rest
  have hrepainted := hrest.work (.uncounted repainted rfl)
  rw [zero_add] at hrepainted
  have hgone := (hrepainted.step (.letGo _ _ _ _)).step (.settle _ _ _ _ _)
  exact ⟨_, hgone.step
    (.settle (repainted.releaseOne (.bridge bridge)).2 (.boxed paintwork) [] 0 [])⟩

theorem moves_painted (c : Conduct) : Moves c (World.start ()) painted :=
  Moves.carryOut Guest.idle_isOutside rfl _

end Sample

/-- The wrapper is destroyed by its own strategy, and not by the one that the
type has then. -/
theorem sample_boxed_lifetimes : ∃ entry, Sample.scraped.boxes.get? 0 = some entry ∧
    entry.destroyedBy = [Sample.painter "first"] := by
  have hwrap : (wrapBoxed Sample.bridge Sample.pigment Sample.color true).run.run Sample.painted =
      (.ok (.boxed Sample.paintwork), Sample.coated) := rfl
  obtain ⟨⟨es, hpainted⟩, -⟩ := boxed_lifetimes.1 (Sample.moves_painted .any)
  obtain ⟨info, strategy, block, hfound, -, hwrapper, hbegins⟩ :=
    (boxed_lifetimes.2.2.2 hpainted).wrap _ _ _ _ _ _ hwrap
  obtain rfl : strategy = Sample.painter "first" := (Prod.mk.inj (Except.ok.inj hfound)).2.symm
  rw [← Handle.boxed.inj hwrapper] at hbegins
  obtain ⟨later, hlater⟩ := Sample.scraped_run
  obtain ⟨entry, hentry, -, hcalls⟩ := (hbegins.life hlater).calls
  have hsound := (hbegins.run.trans hlater).sound (Stage.start_sound _)
  have hnone : Sample.scraped.boxes.holders 0 = 0 := rfl
  rw [← hsound.boxHolders] at hcalls
  exact ⟨entry, hentry, hcalls.trans (if_pos hnone)⟩

end NativeBridge
