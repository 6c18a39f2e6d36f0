-- When a wrap runs a sink. An owned wrap that finds no live wrapper of the
-- object runs one, whether or not an earlier wrap did; no other wrap does.
import NativeBridge.Proofs.OwnedWraps

namespace NativeBridge

variable {σ : Type}

/-! ## What a wrap asks for -/

/-- The sink that a wrap of an object runs, if it runs one. -/
def System.sinkOnWrap? (s : System σ) (r : RuntimeId) (o : ObjectId) (owned : Bool) :
    Option SinkFunction :=
  match s.heap.typeOf? o with
  | none => none
  | some type =>
    if owned && (s.liveWrapper r o).1.isNone && (s.exposure r type).isOk then
      s.sinkFor? (s.bridge r).registry type
    else none

section

variable {s t : System σ} {r : RuntimeId} {o : ObjectId} {type : TypeId}

/-- What a wrap goes by besides the wrappers is the same. -/
structure SameSetting (r : RuntimeId) (s t : System σ) : Prop where
  heap : t.heap = s.heap
  registries : t.registries = s.registries
  registry : (t.bridge r).registry = (s.bridge r).registry
  config : (t.bridge r).config = (s.bridge r).config
  alive : t.isBridgeAlive r = s.isBridgeAlive r

namespace SameSetting

theorem refl (s : System σ) (r : RuntimeId) : SameSetting r s s := ⟨rfl, rfl, rfl, rfl, rfl⟩

theorem trans {u : System σ} (h : SameSetting r s t) (h' : SameSetting r t u) : SameSetting r s u where
  heap := h'.heap.trans h.heap
  registries := h'.registries.trans h.registries
  registry := h'.registry.trans h.registry
  config := h'.config.trans h.config
  alive := h'.alive.trans h.alive

theorem of_bridges (hheap : t.heap = s.heap) (hregistries : t.registries = s.registries)
    (hbridges : t.bridges = s.bridges) : SameSetting r s t := by
  have hbridge : t.bridge r = s.bridge r := by
    unfold System.bridge
    rw [hbridges]
  have halive : t.isBridgeAlive r = s.isBridgeAlive r := by
    unfold System.isBridgeAlive
    rw [hbridges]
  exact ⟨hheap, hregistries, congrArg Bridge.registry hbridge, congrArg Bridge.config hbridge,
    halive⟩

theorem modifyBridge (s : System σ) (r r' : RuntimeId) (f : Bridge → Bridge)
    (hregistry : ∀ b, (f b).registry = b.registry) (hconfig : ∀ b, (f b).config = b.config) :
    SameSetting r s (s.modifyBridge r' f) where
  heap := rfl
  registries := rfl
  registry := bridge_modifyBridge_part Bridge.registry hregistry s r r'
  config := bridge_modifyBridge_part Bridge.config hconfig s r r'
  alive := by
    unfold System.isBridgeAlive System.modifyBridge
    rw [SharedTable.holders_modify]

theorem liveWrapper (s : System σ) (r : RuntimeId) (o : ObjectId) :
    SameSetting r s (s.liveWrapper r o).2 := by
  unfold System.liveWrapper
  split
  · exact .refl s r
  · split
    · exact .refl s r
    · exact modifyBridge s r r _ (fun _ => rfl) fun _ => rfl

theorem noteExposure (s : System σ) (r : RuntimeId) (type : TypeId) (exposure : System.Exposure) :
    SameSetting r s (s.noteExposure r type exposure) := by
  cases exposure with
  | own package => exact .refl s r
  | inherited package =>
    unfold System.noteExposure System.noteFallback
    dsimp only
    split
    · have hwarned := modifyBridge s r r (fun b => { b with warned := type :: b.warned })
        (fun _ => rfl) fun _ => rfl
      exact hwarned.trans (of_bridges rfl rfl rfl)
    · exact .refl s r

theorem addWrapper (s : System σ) (r : RuntimeId) (o : ObjectId) (type : TypeId)
    (package : String) (own : Ownership) : SameSetting r s (s.addWrapper r o type package own).2 := by
  unfold System.addWrapper
  dsimp only
  refine trans (of_bridges ?_ ?_ ?_) (modifyBridge _ r r _ (fun _ => rfl) fun _ => rfl)
  all_goals rfl

theorem registryOf (h : SameSetting r s t) : t.registryOf r = s.registryOf r := by
  unfold System.registryOf System.registry
  rw [h.registries, h.registry]

theorem exposure (h : SameSetting r s t) (type : TypeId) : t.exposure r type = s.exposure r type :=
  exposure_congr h.heap h.registryOf h.config

theorem sinkFor? (h : SameSetting r s t) (type : TypeId) :
    t.sinkFor? (t.bridge r).registry type = s.sinkFor? (s.bridge r).registry type := by
  unfold System.sinkFor? System.registry
  rw [h.registries, h.registry, h.heap]

end SameSetting

/-! ## What a wrap does -/

/-- The parts of a wrap that asks for a sink. -/
theorem sinkOnWrap?_eq_some {owned : Bool} {sink : SinkFunction} :
    s.sinkOnWrap? r o owned = some sink ↔ owned = true ∧ ∃ type exposure,
      s.heap.typeOf? o = some type ∧ (s.liveWrapper r o).1 = none ∧
      s.exposure r type = .ok exposure ∧ s.sinkFor? (s.bridge r).registry type = some sink := by
  unfold System.sinkOnWrap?
  cases htype : s.heap.typeOf? o with
  | none => simp
  | some type =>
    dsimp only
    cases hshown : s.exposure r type with
    | error e => simp [hshown, Except.isOk, Except.toBool]
    | ok exposure => simp [hshown, Except.isOk, Except.toBool, Option.isNone_iff_eq_none, and_assoc]

/-- An owned wrap that finds no live wrapper makes one, and then asks for a sink. -/
theorem wrapObject_of_fresh {u : System σ} {exposure : System.Exposure}
    (htype : s.heap.typeOf? o = some type) (hl : s.liveWrapper r o = (none, t))
    (hshown : s.exposure r type = .ok exposure)
    (hu : u = ((t.noteExposure r type exposure).addWrapper r o type exposure.package .owned).2)
    (g : Guest σ) :
    (wrapObject g r o true).run.run s =
      (.ok (.object ⟨s.wrappers.size, o, type, exposure.package, .owned⟩),
        match s.sinkFor? (s.bridge r).registry type with
        | some sink => ((g.sink sink o).run u).2
        | none => u) := by
  have hsame := SameSetting.liveWrapper s r o
  rw [hl] at hsame
  have hexposure := (hsame.exposure type).trans hshown
  have hsinks : u.sinkFor? (u.bridge r).registry type = s.sinkFor? (s.bridge r).registry type := by
    rw [hu]
    exact ((hsame.trans (.noteExposure t r type exposure)).trans
      (.addWrapper _ r o type exposure.package .owned)).sinkFor? type
  have hsize : (t.noteExposure r type exposure).wrappers.size = s.wrappers.size := by
    have hfound := (s.liveWrapper_frame r o).2.2
    rw [hl] at hfound
    rw [(t.noteExposure_frame r type exposure).2.2, hfound]
  have howned := acquireWrapper_of_owned htype hl hexposure
  have hacquired : (acquireWrapper r o (.ofOwned true)).run.run s =
      (.ok (⟨s.wrappers.size, o, type, exposure.package, .owned⟩, true), u) := by
    rw [hu, ← hsize]
    exact howned
  unfold wrapObject
  rw [run_bind_of_ok s hacquired]
  simp only [Bool.and_self, if_true]
  rw [run_get_bind, hsinks]
  cases s.sinkFor? (s.bridge r).registry type <;> rfl

/-- Only an object without a live wrapper, and that can be shown, gets a new one. -/
theorem fresh_of_acquired {own : Ownership} {w : ObjectWrapper}
    (h : (acquireWrapper r o own).run.run s = (.ok (w, true), t)) : ∃ type exposure,
      s.heap.typeOf? o = some type ∧ (s.liveWrapper r o).1 = none ∧
        s.exposure r type = .ok exposure := by
  have hcase := wrapCase s r o own
  rw [h] at hcase
  cases hcase with
  | @new type s₁ t exposure heap w htype hl hshown =>
    have hsame := SameSetting.liveWrapper s r o
    rw [hl] at hsame
    exact ⟨type, exposure, htype, by rw [hl], (hsame.exposure type).symm.trans hshown⟩

theorem acquireWrapper_guest (s : System σ) (r : RuntimeId) (o : ObjectId) (own : Ownership) :
    ((acquireWrapper r o own).run.run s).2.guest = s.guest := by
  obtain ⟨hguest, -, -⟩ := s.liveWrapper_frame r o
  have hcase := wrapCase s r o own
  generalize (acquireWrapper r o own).run.run s = done at hcase ⊢
  cases hcase with
  | stale htype => rfl
  | known htype hl => rfl
  | refused htype hl hshown =>
    rw [hl] at hguest
    exact hguest
  | @new type s₁ t exposure heap w htype hl hshown htaken hadded =>
    rw [hl] at hguest
    obtain rfl : (System.addWrapper _ r o type exposure.package own).2 = t :=
      congrArg Prod.snd hadded
    exact (s₁.noteExposure_frame r type exposure).1.trans hguest

/-- A wrap that asks for no sink runs no outside code. -/
theorem wrapObject_without_sink {owned : Bool} (h : s.sinkOnWrap? r o owned = none) :
    ∃ (outcome : Except BridgeError Handle) (u : System σ), u.guest = s.guest ∧
      ∀ g : Guest σ, (wrapObject g r o owned).run.run s = (outcome, u) := by
  have hguest := acquireWrapper_guest s r o (.ofOwned owned)
  rcases hrun : (acquireWrapper r o (.ofOwned owned)).run.run s with ⟨e | ⟨w, isNew⟩, t⟩
  all_goals rw [hrun] at hguest
  · exact ⟨.error e, t, hguest, fun g => run_bind_of_error s hrun⟩
  · cases hnew : isNew && owned with
    | false => exact ⟨.ok (.object w), t, hguest, fun g => wrapObject_of_acquired hrun hnew⟩
    | true =>
      obtain ⟨rfl, rfl⟩ : isNew = true ∧ owned = true := by simpa using hnew
      obtain ⟨type, exposure, htype, hfree, hshown⟩ := fresh_of_acquired hrun
      have hl : s.liveWrapper r o = (none, (s.liveWrapper r o).2) := Prod.ext hfree rfl
      have hsame := SameSetting.liveWrapper s r o
      rw [hl] at hsame
      have hacquired := acquireWrapper_of_owned htype hl ((hsame.exposure type).trans hshown)
      have ht := (Prod.mk.inj (hrun.symm.trans hacquired)).2
      cases hsink : s.sinkFor? (s.bridge r).registry type with
      | some sink =>
        have hasks := sinkOnWrap?_eq_some.mpr ⟨rfl, type, exposure, htype, hfree, hshown, hsink⟩
        exact absurd (h.symm.trans hasks) (by simp)
      | none =>
        have hfresh := wrapObject_of_fresh htype hl hshown ht
        simp only [hsink] at hfresh
        exact ⟨_, t, hguest, hfresh⟩

/-- A new owned wrapper has a handle, and while the bridge is alive it is what
a wrap of the object finds. -/
theorem addWrapper_found (s : System σ) (r : RuntimeId) (o : ObjectId) (type : TypeId)
    (package : String) :
    let added := s.addWrapper r o type package .owned
    added.2.HasHandle r added.1 ∧
      (s.isBridgeAlive r = true → added.2.liveWrapper r o = (some added.1, added.2)) := by
  intro added
  have hwrappers : added.2.wrappers = s.wrappers.add ⟨added.1, r, true⟩ := rfl
  have hnumber : added.1.number = s.wrappers.size := rfl
  have hone : added.2.wrappers.holders added.1.number = 1 :=
    (addWrapper_owned s r o type package).2.1
  constructor
  · refine ⟨⟨⟨added.1, r, true⟩, ?_, rfl, rfl⟩, ?_⟩
    · rw [hwrappers, SharedTable.get?_add, if_pos hnumber]
    · have hcount : (added.2.bridge r).arena.borrowed.count added.1 = 0 := by
        refine List.count_eq_zero.mpr fun hmem => ?_
        have hborrowed : (Ownership.owned == Ownership.borrowed) = true :=
          (List.mem_filter.mp hmem).2
        exact absurd hborrowed (by decide)
      unfold System.handles
      rw [hone, hcount]
      exact Nat.one_ne_zero
  · intro hr
    have hbridge : added.2.bridge r =
        { s.bridge r with arena := (s.bridge r).arena.insert added.1 } :=
      System.bridge_modifyBridge (s := { s with wrappers := _ }) hr _
    have hfind : (added.2.bridge r).arena.find? o = some added.1 := by
      rw [hbridge]
      exact Table.get?_set_self _ o added.1
    refine System.liveWrapper_of_listed hfind ?_
    unfold System.isLive
    rw [hone]
    rfl

/-- A wrap that asks for a sink files a new owned wrapper, and then runs the
sink once, on the state that it has so far. -/
theorem wrapObject_with_sink {owned : Bool} {sink : SinkFunction}
    (h : s.sinkOnWrap? r o owned = some sink) :
    ∃ (w : ObjectWrapper) (u : System σ), w.object = o ∧ w.ownership = .owned ∧
      u.guest = s.guest ∧ u.heap = s.heap ∧ u.HasHandle r w ∧
      (s.isBridgeAlive r = true → u.liveWrapper r o = (some w, u)) ∧
      ∀ g : Guest σ, (wrapObject g r o owned).run.run s =
        (.ok (.object w), ((g.sink sink o).run u).2) := by
  obtain ⟨rfl, type, exposure, htype, hfree, hshown, hsink⟩ := sinkOnWrap?_eq_some.mp h
  have hl : s.liveWrapper r o = (none, (s.liveWrapper r o).2) := Prod.ext hfree rfl
  have hsame := SameSetting.liveWrapper s r o
  obtain ⟨hguest, hheap, hwrappers⟩ := s.liveWrapper_frame r o
  generalize (s.liveWrapper r o).2 = t at hl hsame hguest hheap hwrappers
  have hsame' := hsame.trans (.noteExposure t r type exposure)
  obtain ⟨hguest', hheap', hwrappers'⟩ := t.noteExposure_frame r type exposure
  obtain ⟨hhandle, hfound⟩ :=
    addWrapper_found (t.noteExposure r type exposure) r o type exposure.package
  let added := (t.noteExposure r type exposure).addWrapper r o type exposure.package .owned
  refine ⟨added.1, added.2, rfl, rfl, hguest'.trans hguest, hheap'.trans hheap, hhandle,
    fun hr => hfound (hsame'.alive.trans hr), fun g => ?_⟩
  rw [wrapObject_of_fresh htype hl hshown rfl g, hsink, ← hwrappers, ← hwrappers']
  rfl

/-! ## When a wrap asks for a sink -/

section

variable {c : Conduct} {H : Multiset Release} {owned : Bool} {sink : SinkFunction}

/-- Where the books balance, a wrap asks for a sink exactly if it is owned, the
object can be shown and has no handle here, the arena keeps no borrowed wrapper
of it, and a sink is registered for it. -/
theorem sinkOnWrap?_iff (hbalanced : Balanced c 0 H s.books) (hr : s.isBridgeAlive r = true) :
    s.sinkOnWrap? r o owned = some sink ↔ owned = true ∧
      (∀ w : ObjectWrapper, w.object = o → ¬s.HasHandle r w) ∧
      (∀ w, (s.bridge r).arena.find? o = some w → w.ownership = .owned) ∧
      ∃ type exposure, s.heap.typeOf? o = some type ∧ s.exposure r type = .ok exposure ∧
        s.sinkFor? (s.bridge r).registry type = some sink := by
  rw [sinkOnWrap?_eq_some]
  constructor
  · rintro ⟨rfl, type, exposure, htype, hfree, hshown, hsink⟩
    have hl : s.liveWrapper r o = (none, (s.liveWrapper r o).2) := Prod.ext hfree rfl
    have hdead : ∀ w, (s.bridge r).arena.find? o = some w → s.isLive w = false := by
      intro w hfind
      rcases System.liveWrapper_none hl with ⟨hnone, -⟩ | ⟨w', hfind', hdead, -⟩
      · exact absurd (hnone.symm.trans hfind) (by simp)
      · exact Option.some.inj (hfind'.symm.trans hfind) ▸ hdead
    refine ⟨rfl, ?_, ?_, type, exposure, htype, hshown, hsink⟩
    · rintro w rfl hhandle
      have hlisted := hhandle.listed hbalanced hr
      exact Bool.noConfusion ((hdead w hlisted).symm.trans (hhandle.not_swept hlisted).1)
    · intro w hfind
      by_contra hne
      have hborrowed : w.ownership = .borrowed := by
        cases hw : w.ownership with
        | owned => exact absurd hw hne
        | borrowed => rfl
      exact Bool.noConfusion ((hdead w hfind).symm.trans (isLive_of_borrowed hborrowed s))
  · rintro ⟨rfl, hhandles, howned, type, exposure, htype, hshown, hsink⟩
    obtain ⟨t, hl, -⟩ := liveWrapper_of_no_handle hbalanced hr hhandles howned type
    exact ⟨rfl, type, exposure, htype, by rw [hl], hshown, hsink⟩

end

/-- What a wrap asks for depends on nothing that outside code keeps. -/
theorem sinkOnWrap?_congr (hheap : t.heap = s.heap) (hwrappers : t.wrappers = s.wrappers)
    (hregistries : t.registries = s.registries) (hbridge : t.bridge r = s.bridge r) (o : ObjectId)
    (owned : Bool) : t.sinkOnWrap? r o owned = s.sinkOnWrap? r o owned := by
  have hlive : (t.liveWrapper r o).1 = (s.liveWrapper r o).1 := by
    have hsame : ∀ w, t.isLive w = s.isLive w := by
      intro w
      unfold System.isLive
      rw [hwrappers]
    unfold System.liveWrapper
    rw [hbridge]
    split
    · rfl
    · rename_i w _
      rw [hsame w]
      split <;> rfl
  have hregistry : t.registryOf r = s.registryOf r := by
    unfold System.registryOf System.registry
    rw [hregistries, hbridge]
  have hshown : ∀ type, t.exposure r type = s.exposure r type :=
    fun type => exposure_congr hheap hregistry (congrArg Bridge.config hbridge)
  have hsinks : ∀ type, t.sinkFor? (t.bridge r).registry type =
      s.sinkFor? (s.bridge r).registry type := by
    intro type
    unfold System.sinkFor? System.registry
    rw [hregistries, hbridge, hheap]
  unfold System.sinkOnWrap?
  rw [hheap, hlive]
  simp only [hshown, hsinks]

end

/-! ## Runs -/

theorem Deed.perform_state {τ : Type} (g : Guest (Outside τ)) (d : Deed τ) (s : World τ) :
    ((d.perform g).run s).2 =
      ((d.run g).run (d.uses.foldl System.keep s)).2.release d.uses := rfl

/-- Code whose sinks take down the objects that they are shown. -/
def Guest.recording : Guest (Outside (List ObjectId)) :=
  { Guest.idle _ with
    sink := fun _ o => modify fun s =>
      { s with guest := { s.guest with memory := o :: s.guest.memory } } }

theorem Guest.recording_isOutside {c : Conduct} : Guest.recording.IsOutside c where
  call _ _ x := .rest x
  native _ _ _ x := .rest x
  sink f o x := by
    have hrun : returned nothingGiven ((Guest.recording.sink f o).run x) =
        (((Deed.remember (o :: x.guest.memory)).perform (.idle _)).run x).2 :=
      (System.release_nil _).symm
    rw [hrun]
    exact Moves.deed Guest.idle_isOutside (Deed.allowed_of_isFree rfl c x)
  takeFault _ _ x := .rest x
  marshalArgument _ _ _ _ x := .rest x
  marshalResult _ _ _ _ x := .rest x

/-- What outside code does with the objects of a bridge. -/
inductive Handling where
  | wrap (o : ObjectId) (owned : Bool)
  /-- Gives up the holder at this place of the ledger. -/
  | drop (place : Nat)
  | sweep

namespace Handling

def deed {τ : Type} (r : RuntimeId) : Handling → Deed τ
  | wrap o owned => .wrap r o owned
  | drop place => .letGo place
  | sweep => .sweep r

/-- The object that a handling shows to a sink. -/
def shows? (r : RuntimeId) (s : System σ) : Handling → Option ObjectId
  | wrap o owned => (s.sinkOnWrap? r o owned).map fun _ => o
  | drop _ | sweep => none

variable (r : RuntimeId) (s : World (List ObjectId))

/-- The state after a handling. -/
def after (h : Handling) : World (List ObjectId) := (((h.deed r).perform .recording).run s).2

/-- The state after a run. -/
def afterAll (handlings : List Handling) : World (List ObjectId) :=
  handlings.foldl (after r) s

/-- The objects that a run shows to sinks, in order. -/
def shown : List Handling → World (List ObjectId) → List ObjectId
  | [], _ => []
  | h :: rest, s => (h.shows? r s).toList ++ shown rest (h.after r s)

variable {r s}

theorem memory_gainResult (outcome : Except BridgeError Handle) (t : World (List ObjectId)) :
    ((gainResult outcome).run t).2.guest.memory = t.guest.memory := by
  cases outcome <;> rfl

/-- A wrap adds the object that it shows to what was taken down. -/
theorem memory_wrapObject (o : ObjectId) (owned : Bool) :
    ((wrapObject .recording r o owned).run.run s).2.guest.memory =
      ((s.sinkOnWrap? r o owned).map fun _ => o).toList ++ s.guest.memory := by
  cases hsink : s.sinkOnWrap? r o owned with
  | some sink =>
    obtain ⟨w, u, -, -, hguest, -, -, -, hrun⟩ := wrapObject_with_sink hsink
    rw [hrun]
    exact congrArg (fun guest : Outside (List ObjectId) => o :: guest.memory) hguest
  | none =>
    obtain ⟨outcome, u, hguest, hrun⟩ := wrapObject_without_sink hsink
    rw [hrun]
    exact congrArg Outside.memory hguest

theorem memory_runWrap (o : ObjectId) (owned : Bool) :
    ((Deed.runWrap .recording r o owned).run s).2.guest.memory =
      ((s.sinkOnWrap? r o owned).map fun _ => o).toList ++ s.guest.memory := by
  cases owned with
  | false =>
    have hwrap := memory_wrapObject (r := r) (s := s) o false
    rcases hrun : (wrapObject .recording r o false).run.run s with ⟨outcome, t⟩
    rw [hrun] at hwrap
    have hbind : (Deed.runWrap .recording r o false).run s =
        (wrapObject .recording r o false).run.run s >>= fun p => (gainResult p.1).run p.2 := rfl
    rw [hbind, hrun]
    exact (memory_gainResult outcome t).trans hwrap
  | true =>
    have hsame : System.sinkOnWrap? (s.changeLedger (·.spend o)) r o true =
        s.sinkOnWrap? r o true :=
      sinkOnWrap?_congr (s := s) (t := s.changeLedger (·.spend o)) rfl rfl rfl rfl o true
    have hwrap := memory_wrapObject (r := r) (s := s.changeLedger (·.spend o)) o true
    rw [hsame] at hwrap
    rcases hrun : (wrapObject .recording r o true).run.run (s.changeLedger (·.spend o)) with
      ⟨outcome, t⟩
    rw [hrun] at hwrap
    rw [run_runWrap_owned hrun, memory_gainResult]
    split
    · exact hwrap
    · exact hwrap

/-- What a handling takes down is the object that it shows. -/
theorem memory_after (h : Handling) :
    (h.after r s).guest.memory = (h.shows? r s).toList ++ s.guest.memory := by
  unfold after
  rw [Deed.perform_state, System.release_guest]
  cases h with
  | wrap o owned =>
    have hkept : (s.keep (.bridge r)).bridge r = s.bridge r := by
      unfold System.bridge
      exact congrArg (·.getD default) (SharedTable.get?_hold s.bridges r.number r.number)
    have hsame : (s.keep (.bridge r)).sinkOnWrap? r o owned = s.sinkOnWrap? r o owned :=
      sinkOnWrap?_congr (s := s) (t := s.keep (.bridge r)) rfl rfl rfl hkept o owned
    have hwrap := memory_runWrap (r := r) (s := s.keep (.bridge r)) o owned
    rw [hsame] at hwrap
    exact hwrap
  | drop place =>
    have hrelease := (s.changeLedger (·.lose place)).release_guest
      s.guest.ledger.held[place]?.toList
    have hmemory := congrArg Outside.memory hrelease
    exact hmemory
  | sweep =>
    have hsweep : ((NativeBridge.sweep r).run (s.keep (.bridge r))).2.guest = s.guest := by
      rw [run_sweep, System.release_guest]
      rfl
    exact congrArg Outside.memory hsweep

/-- A run takes down what it shows, the last object first. -/
theorem memory_afterAll (handlings : List Handling) :
    (afterAll r s handlings).guest.memory = (shown r handlings s).reverse ++ s.guest.memory := by
  induction handlings generalizing s with
  | nil => rfl
  | cons h rest ih =>
    change (afterAll r (h.after r s) rest).guest.memory = _
    rw [ih, memory_after, shown, List.reverse_append, List.append_assoc]
    cases h.shows? r s <;> rfl

end Handling

/-! ## The law -/

/-- At every state that outside code can come to, a wrap shows an object to a
sink exactly if it is owned, no handle of the object lives, the arena keeps no
borrowed wrapper of it, and a sink is there for it. So no object is shown while
it has a handle; and after its last handle the next owned wrap shows it again. -/
theorem sink_runs_iff {τ : Type} {c : Conduct} {s : World τ} (h : s.Reached c) {r : RuntimeId}
    (hr : s.isBridgeAlive r = true) (o : ObjectId) (owned : Bool) :
    (∀ sink, s.sinkOnWrap? r o owned = some sink ↔ owned = true ∧
      (∀ w : ObjectWrapper, w.object = o → ¬s.HasHandle r w) ∧
      (∀ w, (s.bridge r).arena.find? o = some w → w.ownership = .owned) ∧
      ∃ type exposure, s.heap.typeOf? o = some type ∧ s.exposure r type = .ok exposure ∧
        s.sinkFor? (s.bridge r).registry type = some sink) ∧
    -- with a sink to run, the wrap runs it once, when the new wrapper has its handle
    (∀ sink, s.sinkOnWrap? r o owned = some sink → ∃ (w : ObjectWrapper) (u : World τ),
      w.object = o ∧ w.ownership = .owned ∧ u.guest = s.guest ∧ u.heap = s.heap ∧
      u.HasHandle r w ∧ u.liveWrapper r o = (some w, u) ∧
      ∀ g : Guest (Outside τ), (wrapObject g r o owned).run.run s =
        (.ok (.object w), ((g.sink sink o).run u).2)) ∧
    -- without one, it runs no outside code
    (s.sinkOnWrap? r o owned = none →
      ∃ (outcome : Except BridgeError Handle) (u : World τ), u.guest = s.guest ∧
        ∀ g : Guest (Outside τ), (wrapObject g r o owned).run.run s = (outcome, u)) ∧
    -- what a whole run shows is what its wraps show, one after another
    ∀ (handlings : List Handling) (start : World (List ObjectId)),
      (Handling.afterAll r start handlings).guest.memory =
        (Handling.shown r handlings start).reverse ++ start.guest.memory := by
  obtain ⟨F, hs⟩ := h.holding
  refine ⟨fun sink => sinkOnWrap?_iff hs.balanced hr, fun sink hsink => ?_,
    wrapObject_without_sink, fun handlings start => Handling.memory_afterAll handlings⟩
  obtain ⟨w, u, hobject, hownership, hguest, hheap, hhandle, hfound, hrun⟩ :=
    wrapObject_with_sink hsink
  exact ⟨w, u, hobject, hownership, hguest, hheap, hhandle, hfound hr, hrun⟩

namespace Sample

/-- A type with a sink, and an object with two references. -/
def sinking : World (List ObjectId) :=
  carryOut .recording
    [.arrange (.changeTypes (.define "Node" none)), .arrange (.newRegistry false),
      .arrange (.changeRegistry ⟨0⟩ (.register "Node" "Ui::Node" .object none)),
      .arrange (.changeRegistry ⟨0⟩ (.registerSink type ⟨0⟩)), .newBridge {} ⟨0⟩ none,
      .instantiate type, .ref object] (.start [])

theorem sinking_moves (c : Conduct) : Moves c (World.start []) sinking :=
  Moves.carryOut Guest.recording_isOutside rfl _

/-- The object was wrapped, and its only handle dropped. -/
def sunk : World (List ObjectId) := Handling.afterAll bridge sinking [.wrap object true, .drop 0]

theorem sunk_moves : Moves .fair (World.start []) sunk := by
  have hwrap : (Deed.wrap bridge object true).Allowed .fair sinking := by
    refine ⟨fun t ht => ?_, fun _ => by unfold Deed.IsFair; decide +kernel⟩
    rw [List.mem_singleton.mp ht]
    exact ⟨trivial, trivial, by decide +kernel⟩
  exact ((sinking_moves .fair).trans (Moves.deed Guest.recording_isOutside hwrap)).trans
    (Moves.deed Guest.recording_isOutside (Deed.allowed_of_isFree rfl .fair _))

end Sample

/-- Fair outside code can have the same object shown to its sink twice. -/
theorem sample_sink_runs :
    Sample.sinking.sinkOnWrap? Sample.bridge Sample.object true = some ⟨0⟩ ∧
    Sample.sunk.sinkOnWrap? Sample.bridge Sample.object true = some ⟨0⟩ ∧
    (∀ w : ObjectWrapper, w.object = Sample.object → ¬Sample.sunk.HasHandle Sample.bridge w) ∧
    (Handling.afterAll Sample.bridge Sample.sinking
      [.wrap Sample.object true, .drop 0, .wrap Sample.object true]).guest.memory =
        [Sample.object, Sample.object] := by
  have hbefore : Sample.sinking.isBridgeAlive Sample.bridge = true := by decide +kernel
  have hafter : Sample.sunk.isBridgeAlive Sample.bridge = true := by decide +kernel
  have hasks : Sample.sunk.sinkOnWrap? Sample.bridge Sample.object true = some ⟨0⟩ := by
    decide +kernel
  obtain ⟨-, -, -, hruns⟩ := sink_runs_iff (Sample.sinking_moves .fair).reached hbefore
    Sample.object true
  obtain ⟨hiff, -⟩ := sink_runs_iff Sample.sunk_moves.reached hafter Sample.object true
  refine ⟨by decide +kernel, hasks, ((hiff ⟨0⟩).mp hasks).2.1, ?_⟩
  rw [hruns]
  decide +kernel

end NativeBridge
