-- Reports of fallbacks. For as long as a bridge exists, it gives one warning
-- at most about each type, and none if its configuration turns them off.
import NativeBridge.Proofs.Laws

namespace NativeBridge

variable {σ τ : Type}

/-! ## Reports -/

/-- What the warnings of a bridge go by. -/
def Bridge.alarms (b : Bridge) : List TypeId × BridgeConfig := (b.warned, b.config)

/-- The types that a bridge gave warnings about, of the warnings of all
bridges. -/
def typesOf (r : RuntimeId) (warnings : List (RuntimeId × TypeId)) : List TypeId :=
  warnings.filterMap fun (r', type) => if r' = r then some type else none

/-- Between two states, a bridge gave warnings about these types, in order. -/
structure System.WarnsOf (s t : System σ) (r : RuntimeId) (types : List TypeId) : Prop where
  known : (t.bridges.get? r.number).isSome
  config : (t.bridge r).config = (s.bridge r).config
  enabled : types ≠ [] → (s.bridge r).config.warnOnFallback = true
  once : types.Nodup
  unseen : ∀ type ∈ types, type ∉ (s.bridge r).warned
  added : (t.bridge r).warned = types.reverse ++ (s.bridge r).warned

/-- Between two states, these warnings were given, with a report for each. -/
structure System.Reports (s t : System σ) (warnings : List (RuntimeId × TypeId)) : Prop where
  reported : ∃ more, t.fallbacks = s.fallbacks ++ more ∧ more.length = warnings.length
  bridges : ∀ r, (s.bridges.get? r.number).isSome → s.WarnsOf t r (typesOf r warnings)

theorem typesOf_append (r : RuntimeId) (a b : List (RuntimeId × TypeId)) :
    typesOf r (a ++ b) = typesOf r a ++ typesOf r b := List.filterMap_append

theorem typesOf_self (r : RuntimeId) (type : TypeId) : typesOf r [(r, type)] = [type] := by
  simp [typesOf]

theorem typesOf_ne {r r' : RuntimeId} (hne : r' ≠ r) (type : TypeId) :
    typesOf r [(r', type)] = [] := by
  simp [typesOf, hne]

namespace System

variable {s t u : System σ} {r : RuntimeId}

/-- A bridge with the same alarms gave no warnings. -/
theorem WarnsOf.of_alarms (hs : (s.bridges.get? r.number).isSome)
    (h : (t.bridges.get? r.number).map Bridge.alarms =
      (s.bridges.get? r.number).map Bridge.alarms) : s.WarnsOf t r [] := by
  have halarms : (t.bridge r).alarms = (s.bridge r).alarms := by
    rw [map_bridge t Bridge.alarms, map_bridge s Bridge.alarms, h]
  refine ⟨?_, congrArg Prod.snd halarms, by simp, List.nodup_nil, by simp, congrArg Prod.fst halarms⟩
  rw [← Option.isSome_map (f := Bridge.alarms), h, Option.isSome_map]
  exact hs

theorem WarnsOf.trans {a b : List TypeId} (h : s.WarnsOf t r a) (h' : t.WarnsOf u r b) :
    s.WarnsOf u r (a ++ b) where
  known := h'.known
  config := h'.config.trans h.config
  enabled hne := by
    by_cases ha : a = []
    · rw [← h.config]
      exact h'.enabled fun hb => hne (by rw [ha, hb]; rfl)
    · exact h.enabled ha
  once := by
    refine List.nodup_append.mpr ⟨h.once, h'.once, ?_⟩
    rintro type ha _ hb rfl
    -- what was given a warning about is remembered
    exact h'.unseen type hb (by simp [h.added, ha])
  unseen type htype := by
    rcases List.mem_append.mp htype with ha | hb
    · exact h.unseen type ha
    · exact fun hseen => h'.unseen type hb (by simp [h.added, hseen])
  added := by rw [h'.added, h.added, List.reverse_append, List.append_assoc]

/-- A bridge takes a type down that it did not give a warning about before. -/
theorem WarnsOf.warn {type : TypeId} (hs : (s.bridges.get? r.number).isSome)
    (henabled : (s.bridge r).config.warnOnFallback = true)
    (hunseen : type ∉ (s.bridge r).warned) :
    s.WarnsOf (s.modifyBridge r fun b => { b with warned := type :: b.warned }) r [type] := by
  obtain ⟨b, hb⟩ := Option.isSome_iff_exists.mp hs
  let warned : System σ := s.modifyBridge r fun b => { b with warned := type :: b.warned }
  have hget : warned.bridges.get? r.number = some { b with warned := type :: b.warned } := by
    refine (SharedTable.get?_modify ..).trans ?_
    rw [if_pos rfl, hb]
    rfl
  have hbridge : warned.bridge r = { s.bridge r with warned := type :: (s.bridge r).warned } := by
    unfold bridge
    rw [hget, hb]
    rfl
  have hconfig : (warned.bridge r).config = (s.bridge r).config := by rw [hbridge]
  refine ⟨Option.isSome_iff_exists.mpr ⟨_, hget⟩, hconfig, fun _ => henabled,
    List.nodup_singleton _, ?_, congrArg Bridge.warned hbridge⟩
  intro other hother
  rw [List.mem_singleton.mp hother]
  exact hunseen

namespace Reports

theorem of_alarms (hfallbacks : t.fallbacks = s.fallbacks)
    (h : ∀ n, (s.bridges.get? n).isSome →
      (t.bridges.get? n).map Bridge.alarms = (s.bridges.get? n).map Bridge.alarms) :
    s.Reports t [] where
  reported := ⟨[], by rw [hfallbacks, List.append_nil], rfl⟩
  bridges r hr := .of_alarms hr (h r.number hr)

theorem trans {a b : List (RuntimeId × TypeId)} (h : s.Reports t a) (h' : t.Reports u b) :
    s.Reports u (a ++ b) where
  reported := by
    obtain ⟨more, hmore, hlength⟩ := h.reported
    obtain ⟨more', hmore', hlength'⟩ := h'.reported
    refine ⟨more ++ more', by rw [hmore', hmore, List.append_assoc], ?_⟩
    rw [List.length_append, List.length_append, hlength, hlength']
  bridges r hr := by
    have hfirst := h.bridges r hr
    rw [typesOf_append]
    exact hfirst.trans (h'.bridges r hfirst.known)

/-- A fallback is reported once. -/
theorem noteFallback (s : System σ) (r : RuntimeId) (type : TypeId) (package : String) :
    ∃ warnings, s.Reports (s.noteFallback r type package) warnings := by
  by_cases hdue : ((s.bridge r).config.warnOnFallback && !(s.bridge r).warned.contains type) = true
  · let warned : System σ := s.modifyBridge r fun b => { b with warned := type :: b.warned }
    have hnoted : s.noteFallback r type package =
        warned.note (.subclassFallback (warned.describeType r type) package) := if_pos hdue
    obtain ⟨henabled, hunseen⟩ :
        (s.bridge r).config.warnOnFallback = true ∧ type ∉ (s.bridge r).warned := by
      simpa using hdue
    rw [hnoted]
    refine ⟨[(r, type)], ⟨[.subclassFallback (warned.describeType r type) package], ?_, rfl⟩, ?_⟩
    · exact List.filter_append ..
    · intro r' hr'
      by_cases hr : r = r'
      · subst hr
        rw [typesOf_self]
        have hwarned := WarnsOf.warn hr' henabled hunseen
        exact ⟨hwarned.known, hwarned.config, hwarned.enabled, hwarned.once, hwarned.unseen,
          hwarned.added⟩
      · rw [typesOf_ne hr]
        refine .of_alarms hr' ?_
        have hnumber : r'.number ≠ r.number := fun heq => hr (congrArg RuntimeId.mk heq.symm)
        have hsame : warned.bridges.get? r'.number = s.bridges.get? r'.number :=
          (SharedTable.get?_modify ..).trans (if_neg hnumber)
        exact congrArg (Option.map Bridge.alarms) hsame
  · have hsilent : s.noteFallback r type package = s := if_neg hdue
    rw [hsilent]
    exact ⟨[], .of_alarms rfl fun _ _ => rfl⟩

end Reports

theorem fallbacks_captureFault (s : System σ) (id : RelayId) (fault : Fault) (origin : String)
    (r : RuntimeId) :
    ((captureFault id fault origin r).run s).2.fallbacks = s.fallbacks ∧
      ((captureFault id fault origin r).run s).2.bridges = s.bridges := by
  rw [run_captureFault]
  cases ((s.relay id).capture fault origin r).2.1 with
  | none => exact ⟨rfl, rfl⟩
  | some dropped => exact ⟨fallbacks_note _ rfl, rfl⟩

end System

/-! ## In every run -/

/-- A change that touches neither reports nor alarms. -/
theorem unreported {s t : System σ} (hfallbacks : t.fallbacks = s.fallbacks)
    (hbridges : t.bridges = s.bridges) : ∃ warnings, s.Reports t warnings :=
  ⟨[], .of_alarms hfallbacks fun n _ => by rw [hbridges]⟩

theorem reports_isVoyage : IsVoyage fun s t : World τ => ∃ warnings, s.Reports t warnings where
  course := {
    quiet h := by
      refine ⟨[], .of_alarms h.fallbacks fun n _ => ?_⟩
      have hsetup := congrArg (Option.map (·.2.2.2)) (h.setup n)
      rwa [Option.map_map, Option.map_map] at hsetup
    fallback := System.Reports.noteFallback
    heap _ := unreported rfl rfl
    trans := by
      rintro s t u ⟨a, ha⟩ ⟨b, hb⟩
      exact ⟨a ++ b, ha.trans hb⟩ }
  slot s r fault := by
    refine ⟨[], .of_alarms rfl fun n _ => ?_⟩
    unfold System.setErrorSlot System.modifyBridge
    dsimp only
    rw [SharedTable.get?_modify]
    split
    · rw [Option.map_map]
      rfl
    · rfl
  capture id fault origin r s := by
    obtain ⟨hfallbacks, hbridges⟩ := s.fallbacks_captureFault id fault origin r
    exact unreported hfallbacks hbridges
  newRelay _ _ := unreported rfl rfl
  install _ _ _ := unreported rfl rfl
  uninstall _ _ _ := unreported rfl rfl
  newBridge s bridge := by
    refine ⟨[], .of_alarms rfl fun n hn => ?_⟩
    obtain ⟨b, hb⟩ := Option.isSome_iff_exists.mp hn
    dsimp only
    rw [SharedTable.get?_add, if_neg (Nat.ne_of_lt (SharedTable.lt_size_of_get? hb))]
  newRegistry _ _ := unreported rfl rfl
  changeRegistry s id change := by
    unfold Arrangement.apply
    dsimp only
    split <;> exact unreported rfl rfl
  ledger _ _ _ := unreported rfl rfl
  travel _ _ _ := unreported rfl rfl
  emission {s t o} h := by
    obtain ⟨warnings, hreports⟩ := h
    have hstart : s.Reports (World.changeLedger (·.startEmission o) s) [] :=
      .of_alarms rfl fun _ _ => rfl
    exact ⟨_, (hstart.trans hreports).trans (.of_alarms rfl fun _ _ => rfl)⟩
  remember _ _ := unreported rfl rfl
  look _ := unreported rfl rfl

/-- Every run gives its warnings so. -/
theorem Moves.reports {c : Conduct} {s t : World τ} (h : Moves c s t) :
    ∃ warnings, s.Reports t warnings := by
  refine h.follows reports_isVoyage fun g hg id =>
    runPending_follows reports_isVoyage.course ?_ ?_ ?_ hg id
  · exact fun _ _ _ => unreported rfl rfl
  · exact fun s n hn => unreported (s.fallbacks_note hn) rfl
  · exact fun _ => unreported rfl rfl

end NativeBridge
