-- Conversion round trips. What one direction of a conversion writes the other
-- reads, and what is read can be written. An object goes out as the wrapper
-- that its arena keeps, so it comes back as itself, and goes out as the same.
import NativeBridge.Proofs.ConversionWays
import NativeBridge.Proofs.Registrations
import NativeBridge.Proofs.WrapperIdentity

namespace NativeBridge

/-! ## Wrapping the same object again -/

theorem Heap.ref_frame {κ : Type} {h heap : Heap κ} {o : ObjectId} (href : h.ref o = .ok heap) :
    heap.typeOf? o = h.typeOf? o ∧ heap.types = h.types := by
  obtain ⟨object, hl, rfl⟩ := Heap.ref_ok href
  have hraised : (h.raise o object (Heap.countUp object.refs)).live? o =
      some { object with refs := Heap.countUp object.refs } :=
    Heap.live?_store_self (h := { h with full := _ }) _ hl
  refine ⟨?_, rfl⟩
  unfold Heap.typeOf?
  rw [hraised, hl]
  rfl

/-- What a borrowed wrap leaves behind: the wrapper that it gave stands alive
in the arena, and the object is of the type that it was of. -/
structure Kept {σ : Type} (s t : System σ) (r : RuntimeId) (o : ObjectId) (w : ObjectWrapper) :
    Prop where
  object : w.object = o
  listed : (t.bridge r).arena.find? o = some w
  live : t.isLive w = true
  typed : ∃ actual, s.heap.typeOf? o = some actual ∧ t.heap.typeOf? o = some actual
  types : t.heap.types = s.heap.types

section

variable {σ : Type} {s t : System σ} {r : RuntimeId} {o : ObjectId} {w : ObjectWrapper}

theorem isLive_holdHandle (hlive : s.isLive w = true) :
    (s.holdHandle (.object w)).isLive w = true := by
  unfold System.isLive at hlive ⊢
  rw [Bool.or_eq_true, bne_iff_ne] at hlive ⊢
  refine hlive.imp_right fun hholders => ?_
  have hmore : (s.holdHandle (.object w)).wrappers.holders w.number =
      (s.wrappers.hold w.number).holders w.number := rfl
  rw [hmore, SharedTable.holders_hold]
  split <;> omega

theorem find?_addWrapper (hr : s.isBridgeAlive r = true) {type : TypeId} {package : String}
    {own : Ownership} :
    ((s.addWrapper r o type package own).2.bridge r).arena.find? o =
      some (s.addWrapper r o type package own).1 := by
  simp only [System.addWrapper]
  rw [System.bridge_modifyBridge]
  · exact Table.get?_set_self _ o _
  · exact hr

theorem acquireWrapper_kept {c : Conduct} {H : Multiset Release} (h : Balanced c 0 H s.books)
    (hr : s.isBridgeAlive r = true) {isNew : Bool}
    (hrun : (acquireWrapper r o .borrowed).run.run s = (.ok (w, isNew), t)) : Kept s t r o w := by
  have hused : s.books.arenas.holders r.number ≠ 0 := System.isBridgeAlive_iff.mp hr
  have hcase := wrapCase s r o .borrowed
  rw [hrun] at hcase
  cases hcase with
  | known htype hl =>
    obtain ⟨-, hfind, hlive⟩ := System.liveWrapper_some hl
    have hobject := (wrapper_of_find? h hused hfind).1
    exact ⟨hobject, hfind, isLive_holdHandle hlive, ⟨_, htype, htype⟩, rfl⟩
  | @new type s₁ t exposure heap w htype hl hshown htaken hadded =>
    rcases htaken with ⟨howned, -⟩ | ⟨-, href⟩
    · exact nomatch howned
    · let s₂ : System σ := { s₁.noteExposure r type exposure with heap }
      have halive : s₂.isBridgeAlive r = true := by
        change (s₁.noteExposure r type exposure).isBridgeAlive r = true
        rw [System.isBridgeAlive_iff, s₁.books_noteExposure r type exposure]
        exact (liveWrapper_none_balanced h hused hl).2.1
      obtain ⟨htype₂, htypes₂⟩ := Heap.ref_frame href
      obtain rfl : (s₂.addWrapper r o type exposure.package .borrowed).2 = t :=
        congrArg Prod.snd hadded
      obtain rfl : (s₂.addWrapper r o type exposure.package .borrowed).1 = w :=
        congrArg Prod.fst hadded
      exact ⟨rfl, find?_addWrapper halive, rfl, ⟨type, htype, htype₂.trans htype⟩, htypes₂⟩

/-- A wrapper that stands alive in the arena is given again. -/
theorem acquireWrapper_again {actual : TypeId} (htype : s.heap.typeOf? o = some actual)
    (hlisted : (s.bridge r).arena.find? o = some w) (hlive : s.isLive w = true) :
    (acquireWrapper r o .borrowed).run.run s = (.ok (w, false), s.holdHandle (.object w)) :=
  acquireWrapper_of_known htype (System.liveWrapper_of_listed hlisted hlive)

end

/-! ## There and back -/

/-- A handle of the same value: of a boxed structure it is another wrapper,
and else the same handle. -/
def Handle.IsAgain : Handle → Handle → Prop
  | .boxed w, again => ∃ w', again = .boxed w' ∧ w'.type = w.type ∧ w'.block = w.block
  | h, again => again = h

theorem Handle.IsAgain.refl (h : Handle) : h.IsAgain h := by
  cases h with
  | boxed w => exact ⟨w, rfl, rfl, rfl⟩
  | _ => exact rfl

section

variable {σ : Type} {s t : System σ} {r : RuntimeId} {info : Resolved} {payload value : NativeValue}
  {h : Handle}

/-- What is written can be read, and written again. -/
theorem Writes.read_back {c : Conduct} {H : Multiset Release} (hbalanced : Balanced c 0 H s.books)
    (hr : s.isBridgeAlive r = true) (hbuiltIn : info.entry.IsBuiltIn)
    (hcanonical : (s.registryOf r).canonical info.type = info.type)
    (hisA : ∀ o actual, payload = .object o → s.heap.typeOf? o = some actual →
      s.heap.types.isA actual info.type = true)
    (hwrites : Writes s r info payload h t) :
    ∃ value, Reads t r info h value ∧ info.entry.Settles payload value ∧
      ∃ again u, Writes t r info value again u ∧ h.IsAgain again := by
  have hself (hnullable : info.entry.classification.isNullable = true) :
      info.entry.Settles payload payload := by
    apply Registration.settles_self
    intro hkind
    rw [hkind] at hnullable
    exact Bool.noConfusion hnullable
  cases hwrites with
  | null hnullable =>
    exact ⟨.null, .null hnullable, hself hnullable, _, _, .null hnullable, rfl⟩
  | object o w isNew t hkind hacquired =>
    have hnullable : info.entry.classification.isNullable = true := by
      rcases Classification.isRefcounted_iff.mp hkind with hkind | hkind <;> rw [hkind] <;> rfl
    have hkept := acquireWrapper_kept hbalanced hr hacquired
    obtain ⟨actual, htype, htype'⟩ := hkept.typed
    obtain rfl := hkept.object
    have hexpected : t.heap.types.isA actual info.type = true := by
      rw [hkept.types]
      exact hisA w.object actual rfl htype
    have hagain := acquireWrapper_again htype' hkept.listed hkept.live
    exact ⟨.object w.object, .object w actual hkind htype' hexpected, hself hnullable, _, _,
      .object w.object w false _ hkind hagain, rfl⟩
  | boxed block hkind hstrategy =>
    have hnullable : info.entry.classification.isNullable = true := by
      rw [hkind]
      rfl
    exact ⟨.boxed block, .boxed _ hkind hstrategy hcanonical, hself hnullable, _, _,
      .boxed block hkind hstrategy, _, rfl, rfl, rfl⟩
  | variant shared hkind =>
    have hnullable : info.entry.classification.isNullable = true := by
      rw [hkind]
      rfl
    exact ⟨.variant shared, .variant shared hkind, hself hnullable, _, _, .variant shared hkind,
      rfl⟩
  | scalar payload h hscalar hwrap =>
    obtain ⟨value, hread, hsettles, hagain⟩ := Resolved.unwrapScalar_wrapScalar hbuiltIn hwrap
      (info.refuse payload)
    have hdefined := Resolved.isDefined_of_wrapScalar hwrap
    exact ⟨value, .scalar h value _ hscalar hdefined hread, hsettles, h, s,
      .scalar value h hscalar hagain, .refl h⟩

/-- What is read can be written, and is read again. -/
theorem Reads.written_back {c : Conduct} {H : Multiset Release}
    (hbalanced : Balanced c 0 H s.books) (hr : s.isBridgeAlive r = true)
    (hbuiltIn : info.entry.IsBuiltIn)
    (hcanonical : (s.registryOf r).canonical info.type = info.type)
    (hhandle : ∀ w, h = .object w → s.HasHandle r w) (hreads : Reads s r info h value) :
    ∃ again u, Writes s r info value again u ∧ u.registryOf r = s.registryOf r ∧
      Reads u r info again value := by
  cases hreads with
  | null hnullable => exact ⟨_, _, .null hnullable, rfl, .null hnullable⟩
  | object w actual hkind htype hisA =>
    have hlive := hhandle w rfl
    have hlisted := hlive.listed hbalanced hr
    have hacquired := acquireWrapper_again htype hlisted (hlive.not_swept hlisted).1
    exact ⟨_, _, .object w.object w false _ hkind hacquired, rfl, .object w actual hkind htype hisA⟩
  | boxed w hkind hstrategy hsame =>
    exact ⟨_, _, .boxed w.block hkind hstrategy, rfl,
      .boxed (s.nextBox info w.block) hkind hstrategy hcanonical⟩
  | variant shared hkind =>
    exact ⟨_, _, .variant shared hkind, rfl, .variant shared hkind⟩
  | scalar h value refused hscalar hdefined hread =>
    obtain ⟨again, hwrap, hagain⟩ := Resolved.wrapScalar_unwrapScalar hbuiltIn hread
    exact ⟨again, s, .scalar value again hscalar hwrap, rfl,
      .scalar again value refused hscalar (Resolved.isDefined_of_wrapScalar hwrap) hagain⟩

end

/-- Nothing but a registration changes what a bridge has registered. -/
theorem registryOf_isCourse {τ : Type} (r : RuntimeId) :
    IsCourse fun s t : World τ => t.registryOf r = s.registryOf r where
  quiet {s t} h := by
    have hread (u : World τ) : (u.bridge r).registry =
        (((u.bridges.get? r.number).map Bridge.setup).map (·.1)).getD
          (default : Bridge).registry := by
      unfold System.bridge
      cases u.bridges.get? r.number <;> rfl
    unfold System.registryOf System.registry
    rw [h.registries, hread t, hread s, h.setup]
  fallback s r' type package := by
    obtain ⟨-, hregistries, -, -⟩ := s.frame_noteFallback r' type package
    unfold System.registryOf System.registry
    rw [hregistries, s.bridge_noteFallback (f := (·.registry)) fun _ _ => rfl]
  heap _ := rfl
  trans h h' := h'.trans h

/-- At every moment, for every registered type whose values the library itself
converts: what a payload becomes is read as that payload, a fundamental one in
the form of its type, and the same becomes of it again; and what is read from
a handle becomes a handle that is read as the same. The payload of an object
is of the declared type, and a handle of an object is live and of the bridge. -/
theorem conversion_round_trip {τ : Type} {s : World τ} (h : s.Reached .any) {r : RuntimeId}
    (hr : s.isBridgeAlive r = true) {type : TypeId}
    (hbuiltIn : ∀ info, (s.registryOf r).resolve type = some info → info.entry.IsBuiltIn) :
    (∀ info payload handle t, (s.registryOf r).resolve type = some info →
      (∀ o actual, payload = .object o → s.heap.typeOf? o = some actual →
        s.heap.types.isA actual ((s.registryOf r).canonical type) = true) →
      (toHandle r ⟨type, payload⟩).run.run s = (.ok handle, t) →
      ∃ value, (fromHandle r handle type).run.run t = (.ok ⟨type, value⟩, t) ∧
        info.entry.Settles payload value ∧
        ∃ again u, (toHandle r ⟨type, value⟩).run.run t = (.ok again, u) ∧
          handle.IsAgain again) ∧
    ∀ handle v t, (∀ w, handle = .object w → s.HasHandle r w) →
      (fromHandle r handle type).run.run s = (.ok v, t) →
      ∃ again u, (toHandle r v).run.run t = (.ok again, u) ∧
        (fromHandle r again type).run.run u = (.ok v, u) := by
  obtain ⟨F, hs⟩ := h.holding
  have hsound := h.registryOf_sound r
  have hcanonical {info : Resolved} (hinfo : (s.registryOf r).resolve type = some info) :
      (s.registryOf r).canonical info.type = info.type := by
    rw [type_of_resolve hinfo]
    exact hsound.canonical_canonical type
  constructor
  · intro info payload handle t hinfo hisA hrun
    have hregistry : t.registryOf r = s.registryOf r := by
      have hcourse := toHandle_attempts (registryOf_isCourse r) r ⟨type, payload⟩ s
      rwa [hrun] at hcourse
    have hinfo' : (t.registryOf r).resolve type = some info := by rw [hregistry, hinfo]
    rw [← type_of_resolve hinfo] at hisA
    have hwrites := writes_of_toHandle hinfo (hbuiltIn info hinfo) hrun
    obtain ⟨value, hreads, hsettles, again, u, hagain, hsame⟩ :=
      hwrites.read_back hs.balanced hr (hbuiltIn info hinfo) (hcanonical hinfo) hisA
    exact ⟨value, fromHandle_of_reads hinfo' hreads, hsettles, again, u,
      toHandle_of_writes hinfo' hagain, hsame⟩
  · intro handle v t hhandle hrun
    cases hinfo : (s.registryOf r).resolve type with
    | none =>
      unfold fromHandle at hrun
      rw [run_get_bind, hinfo] at hrun
      exact absurd (Prod.mk.inj hrun).1 (by simp)
    | some info =>
      obtain ⟨rfl, value, rfl, hreads⟩ := reads_of_fromHandle hinfo (hbuiltIn info hinfo) hrun
      obtain ⟨again, u, hwrites, hregistry, hagain⟩ :=
        hreads.written_back hs.balanced hr (hbuiltIn info hinfo) (hcanonical hinfo) hhandle
      have hinfo' : (u.registryOf r).resolve type = some info := by rw [hregistry, hinfo]
      exact ⟨again, u, toHandle_of_writes hinfo hwrites, fromHandle_of_reads hinfo' hagain⟩

namespace Sample

/-- A bridge that knows the fundamentals and nothing else. -/
def counting : World Unit :=
  carryOut (.idle _) [.arrange (.newRegistry true), .newBridge {} ⟨0⟩ none] (.start ())

theorem counting_reached (c : Conduct) : counting.Reached c :=
  (Moves.carryOut Guest.idle_isOutside rfl _).reached

end Sample

/-- An unsigned five becomes a signed one of the type `int`, and the object of
the small run becomes its wrapper again. -/
theorem sample_conversion_round_trip :
    (∃ value, (fromHandle Sample.bridge (.ofInt 5) Fundamental.int.type).run.run Sample.counting =
        (.ok ⟨Fundamental.int.type, value⟩, Sample.counting)) ∧
      ∃ again u, (toHandle Sample.bridge ⟨Sample.type, .object Sample.object⟩).run.run
          Sample.wrapped = (.ok again, u) ∧
        (fromHandle Sample.bridge again Sample.type).run.run u =
          (.ok ⟨Sample.type, .object Sample.object⟩, u) := by
  constructor
  · have halive : Sample.counting.isBridgeAlive Sample.bridge = true := by decide +kernel
    have hinfo : (Sample.counting.registryOf Sample.bridge).resolve Fundamental.int.type =
        some ⟨Fundamental.int.type,
          ⟨"int", "int", .fundamental, some (.fundamental Fundamental.int.strategy)⟩⟩ := rfl
    have hbuiltIn : ∀ info, (Sample.counting.registryOf Sample.bridge).resolve
        Fundamental.int.type = some info → info.entry.IsBuiltIn := by
      rw [hinfo]
      rintro info hsome strategy hstrategy
      obtain rfl := Option.some.inj hsome
      obtain rfl := Option.some.inj hstrategy
      exact ⟨.int, rfl⟩
    have hrun : (toHandle Sample.bridge ⟨Fundamental.int.type, .uint 5⟩).run.run Sample.counting =
        (.ok (.ofInt 5), Sample.counting) := rfl
    obtain ⟨value, hread, -⟩ := (conversion_round_trip (Sample.counting_reached .any) halive
      hbuiltIn).1 _ _ _ _ hinfo (fun o actual ho => NativeValue.noConfusion ho) hrun
    exact ⟨value, hread⟩
  · have halive : Sample.wrapped.isBridgeAlive Sample.bridge = true := by decide +kernel
    have hinfo : (Sample.wrapped.registryOf Sample.bridge).resolve Sample.type =
        some ⟨Sample.type, ⟨"Node", "Ui::Node", .object, none⟩⟩ := rfl
    have hbuiltIn : ∀ info, (Sample.wrapped.registryOf Sample.bridge).resolve Sample.type =
        some info → info.entry.IsBuiltIn := by
      rw [hinfo]
      rintro info hsome strategy hstrategy
      obtain rfl := Option.some.inj hsome
      exact absurd hstrategy (by simp)
    have hhandle : ∀ w, Handle.object Sample.wrapper = .object w →
        Sample.wrapped.HasHandle Sample.bridge w := by
      rintro w heq
      obtain rfl := Handle.object.inj heq
      exact ⟨⟨_, rfl, rfl, rfl⟩, by decide +kernel⟩
    have hrun : (fromHandle Sample.bridge (.object Sample.wrapper) Sample.type).run.run
        Sample.wrapped = (.ok ⟨Sample.type, .object Sample.object⟩, Sample.wrapped) := rfl
    exact (conversion_round_trip (Sample.wrapped_reached .any) halive hbuiltIn).2 _ _ _ hhandle hrun

end NativeBridge
