-- The marshallers of signals. A bridge keeps the marshaller that was set last
-- for a type and a signal. A connection takes that of the nearest class for
-- which one was set, and never looks at interfaces: one that was set for the
-- interface that defines the signal is passed over.
import NativeBridge.Proofs.SignalLookup

namespace NativeBridge

variable {σ : Type} {calls : List MarshallerEntry} {entry other : MarshallerEntry} {signal : String}
  {type source : TypeId} {r : RuntimeId}

/-! ## What was set last -/

/-- Whether a call sets the marshaller of a signal on a type. -/
def MarshallerEntry.IsFor (entry : MarshallerEntry) (type : TypeId) (signal : String) : Prop :=
  entry.type = type ∧ entry.signal = signal

/-- The last of some calls that sets the marshaller of a signal on a type. -/
def LastSet (calls : List MarshallerEntry) (signal : String) (type : TypeId)
    (entry : MarshallerEntry) : Prop :=
  entry.IsFor type signal ∧ ∃ before after, calls = before ++ entry :: after ∧
    ∀ later ∈ after, ¬later.IsFor type signal

/-- Whether some call sets the marshaller of a signal on a type. -/
def IsSet (calls : List MarshallerEntry) (signal : String) (type : TypeId) : Prop :=
  ∃ entry, LastSet calls signal type entry

theorem lastSet_snoc_self (hfor : entry.IsFor type signal) :
    LastSet (calls ++ [entry]) signal type other ↔ other = entry := by
  constructor
  · rintro ⟨-, before, after, hcalls, hlater⟩
    rcases concat_eq_append_cons hcalls with ⟨-, hlast, -⟩ | ⟨rest, -, rfl⟩
    · exact hlast.symm
    · exact absurd hfor (hlater entry (by simp))
  · rintro rfl
    exact ⟨hfor, calls, [], rfl, by simp⟩

theorem lastSet_snoc_other (hfor : ¬entry.IsFor type signal) :
    LastSet (calls ++ [entry]) signal type other ↔ LastSet calls signal type other := by
  constructor
  · rintro ⟨hother, before, after, hcalls, hlater⟩
    rcases concat_eq_append_cons hcalls with ⟨-, hlast, -⟩ | ⟨rest, hsame, rfl⟩
    · exact absurd (hlast ▸ hother) hfor
    · refine ⟨hother, before, rest, hsame, fun later hmem => ?_⟩
      exact hlater later (List.mem_append_left _ hmem)
  · rintro ⟨hother, before, after, rfl, hlater⟩
    refine ⟨hother, before, after ++ [entry], by simp, fun later hmem => ?_⟩
    rcases List.mem_append.mp hmem with hmem | hmem
    · exact hlater later hmem
    · rwa [List.mem_singleton.mp hmem]

theorem LastSet.unique (hentry : LastSet calls signal type entry)
    (hother : LastSet calls signal type other) : entry = other := by
  induction calls using List.reverseRecOn with
  | nil =>
    obtain ⟨-, before, after, hcalls, -⟩ := hentry
    exact absurd hcalls (by simp)
  | append_singleton calls last ih =>
    by_cases hfor : last.IsFor type signal
    · rw [lastSet_snoc_self hfor] at hentry hother
      exact hentry.trans hother.symm
    · rw [lastSet_snoc_other hfor] at hentry hother
      exact ih hentry hother

/-! ## The table of a bridge -/

namespace System

/-- The marshallers that a bridge keeps, if it was made. -/
def marshallersOf? (s : System σ) (r : RuntimeId) : Option (List MarshallerEntry) :=
  (s.bridges.get? r.number).map (·.marshallers)

/-- The states in which calls have set the marshallers of a bridge, in this
order, whatever else was done before, between and after them. -/
inductive Settings (r : RuntimeId) : List MarshallerEntry → System σ → Prop where
  | fresh {s : System σ} (hfresh : s.marshallersOf? r = some []) : Settings r [] s
  | set {calls : List MarshallerEntry} {s : System σ} (before : Settings r calls s)
    (entry : MarshallerEntry) : Settings r (calls ++ [entry]) (s.setMarshaller r entry)
  | other {calls : List MarshallerEntry} {s t : System σ} (before : Settings r calls s)
    (same : t.marshallersOf? r = s.marshallersOf? r) : Settings r calls t

theorem marshallersOf?_setMarshaller {s : System σ} {entries : List MarshallerEntry}
    (hentries : s.marshallersOf? r = some entries) (entry : MarshallerEntry) :
    (s.setMarshaller r entry).marshallersOf? r =
      some ((entries.filter fun e => !(e.type == entry.type && e.signal == entry.signal)) ++
        [entry]) := by
  obtain ⟨bridge, hbridge, rfl⟩ := Option.map_eq_some_iff.mp hentries
  simp [marshallersOf?, setMarshaller, modifyBridge, SharedTable.get?_modify, hbridge]

theorem bridge_marshallers {s : System σ} {entries : List MarshallerEntry}
    (hentries : s.marshallersOf? r = some entries) : (s.bridge r).marshallers = entries := by
  obtain ⟨bridge, hbridge, rfl⟩ := Option.map_eq_some_iff.mp hentries
  simp [System.bridge, hbridge]

/-- What is found after one more call: the new entry, or what was found before. -/
theorem find?_replaced (entries : List MarshallerEntry) (last : MarshallerEntry) (type : TypeId)
    (signal : String) :
    ((entries.filter fun e => !(e.type == last.type && e.signal == last.signal)) ++ [last]).find?
        (fun e => e.type == type && e.signal == signal) =
      if last.type == type && last.signal == signal then some last
      else entries.find? fun e => e.type == type && e.signal == signal := by
  rw [List.find?_append, List.find?_filter]
  split
  · rename_i hfor
    obtain ⟨rfl, rfl⟩ : last.type = type ∧ last.signal = signal := by simpa using hfor
    have hgone : (entries.find? fun e =>
        (!(e.type == last.type && e.signal == last.signal)) = true ∧
          (e.type == last.type && e.signal == last.signal) = true) = none := by
      rw [List.find?_eq_none]
      intro e _
      cases e.type == last.type && e.signal == last.signal <;> simp
    rw [hgone]
    simp
  · rename_i hfor
    have hkept : (fun e : MarshallerEntry => decide
        ((!(e.type == last.type && e.signal == last.signal)) = true ∧
          (e.type == type && e.signal == signal) = true)) =
        fun e => e.type == type && e.signal == signal := by
      funext e
      by_cases hmatch : e.type = type ∧ e.signal = signal
      · obtain ⟨rfl, rfl⟩ := hmatch
        have hother : (e.type == last.type && e.signal == last.signal) = false := by
          rw [Bool.eq_false_iff]
          intro hsame
          simp only [Bool.and_eq_true, beq_iff_eq] at hsame
          exact hfor (by simp [hsame.1, hsame.2])
        simp [hother]
      · have hno : (e.type == type && e.signal == signal) = false := by
          simpa using hmatch
        simp [hno]
    have hnone : [last].find? (fun e => e.type == type && e.signal == signal) = none := by
      simpa using hfor
    rw [hkept, hnone, Option.or_none]

/-- What a bridge keeps for a type and a signal was set last. -/
theorem Settings.find_iff {s : System σ} (hset : Settings r calls s) :
    ∃ entries, s.marshallersOf? r = some entries ∧ ∀ type signal entry,
      entries.find? (fun e => e.type == type && e.signal == signal) = some entry ↔
        LastSet calls signal type entry := by
  induction hset with
  | fresh hfresh =>
    refine ⟨[], hfresh, fun type signal entry => ?_⟩
    simp [LastSet]
  | @set calls s _ last ih =>
    obtain ⟨entries, hentries, hfind⟩ := ih
    refine ⟨_, marshallersOf?_setMarshaller hentries last, fun type signal entry => ?_⟩
    rw [find?_replaced]
    split
    · rename_i hfor
      rw [lastSet_snoc_self (by simpa [MarshallerEntry.IsFor] using hfor), Option.some_inj, eq_comm]
    · rename_i hfor
      rw [lastSet_snoc_other (by simpa [MarshallerEntry.IsFor] using hfor)]
      exact hfind type signal entry
  | other _ same ih =>
    obtain ⟨entries, hentries, hfind⟩ := ih
    exact ⟨entries, same.trans hentries, hfind⟩

/-- The marshaller that is taken was set last for the nearest class, and there
is none if none was set for a class. -/
theorem Settings.marshallerFor?_cases {s : System σ} (hset : s.Settings r calls)
    (ha : s.heap.types.Arises) (type : TypeId) (signal : String) :
    (∃ t entry, s.heap.types.Nearest type (IsSet calls signal) t ∧ LastSet calls signal t entry ∧
        s.marshallerFor? r type signal = entry.marshaller) ∨
      (∀ t, s.heap.types.DerivesFrom type t → ¬IsSet calls signal t) ∧
        s.marshallerFor? r type signal = none := by
  obtain ⟨entries, hentries, hfind⟩ := hset.find_iff
  let entryOf? := fun t => entries.find? fun e => e.type == t && e.signal == signal
  have hisSet : (fun t => ∃ entry, entryOf? t = some entry) = IsSet calls signal :=
    funext fun t => propext (exists_congr fun entry => hfind t signal entry)
  have hwalk : s.marshallerFor? r type signal =
      ((s.heap.types.line type).findSome? entryOf?).bind (·.marshaller) := by
    unfold marshallerFor?
    rw [bridge_marshallers hentries]
  rw [hwalk]
  cases hfound : (s.heap.types.line type).findSome? entryOf? with
  | some entry =>
    obtain ⟨t, hnearest, hentry⟩ := ha.findSome?_line_eq_some_iff.mp hfound
    rw [hisSet] at hnearest
    exact Or.inl ⟨t, entry, hnearest, (hfind t signal entry).mp hentry, rfl⟩
  | none =>
    refine Or.inr ⟨fun t ht hset => ?_, rfl⟩
    obtain ⟨entry, hlast⟩ := hset
    have hnone := List.findSome?_eq_none_iff.mp hfound t (ha.mem_line_iff.mpr ht)
    exact absurd (hnone.symm.trans ((hfind t signal entry).mpr hlast)) (by simp)

/-! ## Connections -/

variable {s : System σ} {h : Handle} {w : ObjectWrapper} {object : LiveObject Subscriber}

theorem heap_addClosure (s : System σ) (r : RuntimeId) (callable : Callable) (data : Option Handle)
    (swap : Bool) (marshaller : Option Marshaller) (origin : Option String) :
    (s.addClosure r callable data swap marshaller origin).2.heap = s.heap := by
  rcases data with _ | (_ | _ | _ | _ | _) <;> rfl

end System

/-- What a connection has made: a closure of the bridge is the last handler of
the object. -/
structure Connected (s : System σ) (r : RuntimeId) (w : ObjectWrapper) (signal : String)
    (callable : Callable) (data : Option Handle) (after swapped : Bool)
    (object : LiveObject Subscriber) (id : HandlerId) (closure : Closure) (t : System σ) :
    Prop where
  live : t.heap.live? w.object = some
    { object with handlers := object.handlers ++ [⟨id, signal, .closure closure, after⟩] }
  made : t.closures = s.closures.add closure
  closure : closure = ⟨⟨s.closures.size⟩, callable, data, swapped, r, closure.marshaller,
    s!"{w.package}::{signal}"⟩

theorem closures_addClosure (s : System σ) (r : RuntimeId) (callable : Callable)
    (data : Option Handle) (swap : Bool) (marshaller : Option Marshaller) (origin : Option String) :
    (s.addClosure r callable data swap marshaller origin).2.closures =
      s.closures.add (s.addClosure r callable data swap marshaller origin).1 := by
  rcases data with _ | (_ | _ | _ | _ | _) <;> rfl

/-- A connection to a visible signal succeeds. Its closure has the marshaller
that is found for the type of the object. -/
theorem run_connectSignal {s : System σ} {h : Handle} {w : ObjectWrapper}
    {object : LiveObject Subscriber} (hobject : h.object? = some w)
    (hl : s.heap.live? w.object = some object)
    (hvisible : (s.heap.types.signal? object.type signal).isSome = true) (r : RuntimeId)
    (callable : Callable) (data : Option Handle) (after swapped : Bool) :
    ∃ id closure t,
      (connectSignal r h signal callable data after swapped).run.run s = (.ok id, t) ∧
        Connected s r w signal callable data after swapped object id closure t ∧
          closure.marshaller = s.marshallerFor? r object.type signal := by
  obtain ⟨shape, hshape⟩ := Option.isSome_iff_exists.mp hvisible
  have htype : s.heap.typeOf? w.object = some object.type := by simp [Heap.typeOf?, hl]
  let made := s.closureFor r signal callable data swapped w object.type
  have hheap : made.2.heap = s.heap := System.heap_addClosure s r callable data swapped _ _
  obtain ⟨id, heap, hconnect⟩ : ∃ id heap,
      made.2.heap.connect w.object signal (.closure made.1) after = .ok (id, heap) := by
    rw [hheap, Heap.connect_of_live hl, hshape]
    exact ⟨_, _, rfl⟩
  obtain ⟨found, hfound, hstored⟩ := Heap.connect_ok hconnect
  rw [hheap] at hfound
  obtain rfl := Option.some.inj (hl.symm.trans hfound)
  refine ⟨id, made.1, { made.2 with heap }, ?_, ⟨?_, ?_, rfl⟩, rfl⟩
  · rw [run_connectSignal_of_live s r h signal callable data after swapped hobject htype, hconnect]
  · rw [hstored]
    exact Heap.live?_store_self _ (by rw [← hl, ← hheap]; rfl)
  · exact closures_addClosure s r callable data swapped _ _

/-! ## Which one is promised -/

/-- The marshaller that the connections to a signal on the objects of a type
are to have, if the signal is visible through the definition of a source:
that of the nearest class for which one was set, or else that of the source,
or else none. -/
inductive Promised (h : Hierarchy) (calls : List MarshallerEntry) (type : TypeId) (signal : String)
    (source : TypeId) : Option Marshaller → Prop where
  | nearest {t : TypeId} {entry : MarshallerEntry}
    (hnearest : h.Nearest type (IsSet calls signal) t) (hlast : LastSet calls signal t entry) :
    Promised h calls type signal source entry.marshaller
  | source {entry : MarshallerEntry}
    (hunset : ∀ t, h.DerivesFrom type t → ¬IsSet calls signal t)
    (hlast : LastSet calls signal source entry) :
    Promised h calls type signal source entry.marshaller
  | neither (hunset : ∀ t, h.DerivesFrom type t → ¬IsSet calls signal t)
    (hsource : ¬IsSet calls signal source) : Promised h calls type signal source none

/-- What was promised is what is taken, if and only if a marshaller was set for
a class, or none other than that of the bridge was set for the source. -/
theorem System.Settings.promised_iff {s : System σ} (hset : s.Settings r calls)
    (ha : s.heap.types.Arises) (type : TypeId) (signal : String) (source : TypeId) :
    Promised s.heap.types calls type signal source (s.marshallerFor? r type signal) ↔
      (∃ t, s.heap.types.DerivesFrom type t ∧ IsSet calls signal t) ∨
        ∀ entry, LastSet calls signal source entry → entry.marshaller = none := by
  rcases hset.marshallerFor?_cases ha type signal with
    ⟨t, entry, hnearest, hlast, htaken⟩ | ⟨hunset, htaken⟩
  · rw [htaken]
    exact ⟨fun _ => Or.inl ⟨t, hnearest.above, entry, hlast⟩, fun _ => .nearest hnearest hlast⟩
  · rw [htaken]
    constructor
    · intro hpromised
      refine Or.inr fun entry hlast => ?_
      generalize hnone : (none : Option Marshaller) = taken at hpromised
      cases hpromised with
      | nearest hnearest => exact absurd hnearest.meets (hunset _ hnearest.above)
      | source _ hlast' => rw [hlast.unique hlast', ← hnone]
      | neither _ hsource => exact absurd ⟨entry, hlast⟩ hsource
    · rintro (⟨t, ht, hset⟩ | hdefault)
      · exact absurd hset (hunset t ht)
      · by_cases hsource : IsSet calls signal source
        · obtain ⟨entry, hlast⟩ := hsource
          rw [← hdefault entry hlast]
          exact .source hunset hlast
        · exact .neither hunset hsource

/-- A connection to a visible signal succeeds, and its closure has the
marshaller that was set last for the nearest class for which one was set. The
closure has the marshaller that it should have, if and only if one was set for
some class, or none but the default one for the type that defines the signal;
and so it always does if that type is a class. Otherwise the marshaller that
was set for the defining interface is passed over. -/
theorem signal_marshallers_iff {s : System σ} (hset : s.Settings r calls)
    (ha : s.heap.types.Arises) {h : Handle} {w : ObjectWrapper} {object : LiveObject Subscriber}
    (hobject : h.object? = some w) (hl : s.heap.live? w.object = some object)
    (hsource : s.heap.types.VisibleThrough object.type signal source) (callable : Callable)
    (data : Option Handle) (after swapped : Bool) :
    let types := s.heap.types
    ∃ id closure t,
      (connectSignal r h signal callable data after swapped).run.run s = (.ok id, t) ∧
        Connected s r w signal callable data after swapped object id closure t ∧
        (Promised types calls object.type signal source closure.marshaller ↔
          (∃ t, types.DerivesFrom object.type t ∧ IsSet calls signal t) ∨
            ∀ entry, LastSet calls signal source entry → entry.marshaller = none) ∧
        (types.DerivesFrom object.type source →
          Promised types calls object.type signal source closure.marshaller) ∧
        ((∀ t, types.DerivesFrom object.type t → ¬IsSet calls signal t) →
          closure.marshaller = none) := by
  intro types
  obtain ⟨shape, hshape⟩ := Option.isSome_iff_exists.mp hsource.isSome
  have hvisible : (types.signal? object.type signal).isSome = true := by
    rw [ha.signal?_eq_some_iff.mpr ⟨source, hsource, hshape⟩]
    rfl
  obtain ⟨id, closure, t, hrun, hconnected, htaken⟩ :=
    run_connectSignal hobject hl hvisible r callable data after swapped
  have hiff := hset.promised_iff ha object.type signal source
  rw [← htaken] at hiff
  refine ⟨id, closure, t, hrun, hconnected, hiff, fun hclass => hiff.mpr ?_, fun hunset => ?_⟩
  · by_cases hset : IsSet calls signal source
    · exact Or.inl ⟨source, hclass, hset⟩
    · exact Or.inr fun entry hlast => absurd ⟨entry, hlast⟩ hset
  · rcases hset.marshallerFor?_cases ha object.type signal with ⟨t, _, hnearest, -, -⟩ | ⟨-, hnone⟩
    · exact absurd hnearest.meets (hunset t hnearest.above)
    · rw [htaken, hnone]

namespace Sample

/-- A bridge on a heap with one object of a class that has a signal from an
interface. -/
def buttoned : System Unit where
  heap := { types := pressedTypes, slots := [⟨0, some ⟨toggle, 1, []⟩⟩] }
  bridges := SharedTable.add {} { home := 0, config := {}, registry := ⟨0⟩, relay := ⟨0⟩ }
  callables := SharedTable.add {} ()
  guest := ()

def toggleWrapper : ObjectWrapper := ⟨0, ⟨0, 0⟩, toggle, "Ui::Toggle", .borrowed⟩

/-- The only call sets a marshaller for the interface. -/
def clickEntry : MarshallerEntry := ⟨click, "pressed", some ⟨0⟩⟩

theorem pressed_visibleThrough : pressedTypes.VisibleThrough toggle "pressed" click := by
  have ha : pressedTypes.Arises := pressedTypes_built.arises
  have hline : pressedTypes.line toggle = [toggle, button] := by decide +kernel
  have hnone : pressedTypes.foundAt? "pressed" toggle = none := by decide +kernel
  refine ⟨button, ⟨ha.mem_line_iff.mp (by simp [hline]), ?_, fun u hu hoffers => ?_⟩, ?_⟩
  · exact Or.inr ⟨click, by decide +kernel⟩
  · have hmem := ha.mem_line_iff.mpr hu
    rw [hline] at hmem
    rcases List.mem_cons.mp hmem with rfl | hmem
    · obtain ⟨shape, hfound⟩ := Hierarchy.offers_iff.mp hoffers
      exact absurd (hnone.symm.trans hfound) (by simp)
    · rw [List.mem_singleton.mp hmem]
      exact .refl
  · exact .face (by decide +kernel) [] click [action] (by decide +kernel) (by simp)
      (by decide +kernel)

theorem clickEntry_lastSet : LastSet [clickEntry] "pressed" click clickEntry :=
  ⟨⟨rfl, rfl⟩, [], [], rfl, by simp⟩

/-- No class of the line has a marshaller. -/
theorem toggle_unset (t : TypeId) (ht : pressedTypes.DerivesFrom toggle t) :
    ¬IsSet [clickEntry] "pressed" t := by
  have hclick : click ∉ pressedTypes.line toggle := by decide +kernel
  rintro ⟨entry, hlast⟩
  have htype : t = click := by
    obtain ⟨⟨htype, -⟩, before, after, hcalls, -⟩ := hlast
    have hmem : entry ∈ [clickEntry] := hcalls ▸ List.mem_append_right _ List.mem_cons_self
    rw [← htype, List.mem_singleton.mp hmem]
    rfl
  rw [htype] at ht
  exact hclick (pressedTypes_built.arises.mem_line_iff.mpr ht)

end Sample

/-- The connection gets no marshaller, though one was set for the interface
that defines the signal. -/
theorem sample_signal_marshallers_iff :
    let s := Sample.buttoned.setMarshaller ⟨0⟩ Sample.clickEntry
    s.Settings ⟨0⟩ [Sample.clickEntry] ∧ s.heap.types.Arises ∧
      s.heap.types.VisibleThrough Sample.toggle "pressed" Sample.click ∧
      ∃ id closure t,
        (connectSignal ⟨0⟩ (.object Sample.toggleWrapper) "pressed" ⟨0⟩ none false
          false).run.run s = (.ok id, t) ∧
        closure.marshaller = none ∧ t.closures = s.closures.add closure ∧
        ¬Promised s.heap.types [Sample.clickEntry] Sample.toggle "pressed" Sample.click
          closure.marshaller := by
  intro s
  have hset : s.Settings ⟨0⟩ [Sample.clickEntry] := .set (.fresh rfl) Sample.clickEntry
  have ha : s.heap.types.Arises := Sample.pressedTypes_built.arises
  have hl : s.heap.live? Sample.toggleWrapper.object = some ⟨Sample.toggle, 1, []⟩ := rfl
  refine ⟨hset, ha, Sample.pressed_visibleThrough, ?_⟩
  obtain ⟨id, closure, t, hrun, hconnected, hiff, -, hnone⟩ :=
    signal_marshallers_iff hset ha (h := .object Sample.toggleWrapper) rfl hl
      Sample.pressed_visibleThrough ⟨0⟩ none false false
  refine ⟨id, closure, t, hrun, hnone Sample.toggle_unset, hconnected.made, fun hpromised => ?_⟩
  rcases hiff.mp hpromised with ⟨u, hu, hset⟩ | hdefault
  · exact Sample.toggle_unset u hu hset
  · exact absurd (hdefault _ Sample.clickEntry_lastSet) (by simp [Sample.clickEntry])

end NativeBridge
