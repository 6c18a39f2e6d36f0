-- What the history of a relay tells. A history is a list of events, the last
-- one first, and what had happened before an event is the rest of the list.
-- From it alone follow the faults that came and went, who is installed, who
-- is at work, and what may happen next.
import Mathlib.Tactic
import NativeBridge.Relay.Basic

namespace NativeBridge

/-! ## What one event tells -/

namespace RelayEvent

def captured? : RelayEvent → Option CapturedFault
  | captured c => some c
  | _ => none

def dropped? : RelayEvent → Option CapturedFault
  | dropped c => some c
  | _ => none

def taken? : RelayEvent → Option CapturedFault
  | taken c => some c
  | _ => none

/-- A fault that leaves the queue, either way. -/
def left? : RelayEvent → Option CapturedFault
  | dropped c => some c
  | taken c => some c
  | _ => none

/-- The handler that a fault is shown to. -/
def shown? (c : CapturedFault) : RelayEvent → Option RelayHandlerId
  | shown h d => if d = c then some h else none
  | _ => none

def failed? : RelayEvent → Option Fault
  | failed _ fault => some fault
  | _ => none

def installed? : RelayEvent → Option RelayHandlerId
  | installed h => some h
  | _ => none

/-- Whether a handler goes with an event: someone uninstalls it, or it came
back and asked to go. -/
def Dismisses (h : RelayHandlerId) : RelayEvent → Prop
  | uninstalled k => k = h
  | answered k stays => k = h ∧ stays = false
  | _ => False

end RelayEvent

namespace History

variable {α : Type}

/-! ## Views of a history -/

/-- What the events tell, the first first. -/
def told (tells : RelayEvent → Option α) (history : List RelayEvent) : List α :=
  history.reverse.filterMap tells

/-- The faults that were ever captured, in that order. -/
abbrev captures (history : List RelayEvent) : List CapturedFault :=
  told RelayEvent.captured? history

abbrev drops (history : List RelayEvent) : List CapturedFault := told RelayEvent.dropped? history

/-- The faults that drains took, in that order. -/
abbrev takes (history : List RelayEvent) : List CapturedFault := told RelayEvent.taken? history

/-- The faults that left the queue, in that order. -/
abbrev departures (history : List RelayEvent) : List CapturedFault := told RelayEvent.left? history

/-- The handlers that a fault was shown to, in that order. -/
abbrev shownTo (c : CapturedFault) (history : List RelayEvent) : List RelayHandlerId :=
  told (RelayEvent.shown? c) history

/-- The faults that handlers came back with, in that order. -/
abbrev failures (history : List RelayEvent) : List Fault := told RelayEvent.failed? history

/-- The handlers that were ever installed, in that order. -/
abbrev installs (history : List RelayEvent) : List RelayHandlerId :=
  told RelayEvent.installed? history

/-- The handlers that are installed, in the order of installation. -/
def installed : List RelayEvent → List RelayHandlerId
  | [] => []
  | .installed h :: past => installed past ++ [h]
  | .uninstalled h :: past => (installed past).filter (· != h)
  | _ :: past => installed past

/-- The handlers at work, each with the fault that it is shown, the
innermost first. -/
def working : List RelayEvent → List (RelayHandlerId × CapturedFault)
  | [] => []
  | .shown h c :: past => (h, c) :: working past
  | .answered _ _ :: past => (working past).tail
  | .failed _ _ :: past => (working past).tail
  | _ :: past => working past

/-- The handlers that a fault taken now is for: those installed and not at
work. -/
def ready (past : List RelayEvent) : List RelayHandlerId :=
  (installed past).filter fun h => h ∉ (working past).map (·.1)

/-- The faults that were taken when nobody was ready, in that order. -/
def unclaimed : List RelayEvent → List CapturedFault
  | [] => []
  | .taken c :: past => unclaimed past ++ if ready past = [] then [c] else []
  | _ :: past => unclaimed past

/-- The events after which exactly these handlers were at work, the last one
first. -/
def eventsAt (level : List (RelayHandlerId × CapturedFault)) : List RelayEvent → List RelayEvent
  | [] => []
  | e :: past =>
    if working (e :: past) = level then e :: eventsAt level past else eventsAt level past

section

variable (tells : RelayEvent → Option α) (e : RelayEvent) (past own : List RelayEvent)

@[simp] theorem told_cons : told tells (e :: past) = told tells past ++ (tells e).toList := by
  unfold told
  rw [List.reverse_cons, List.filterMap_append]
  cases h : tells e <;> simp [h]

theorem told_append : told tells (own ++ past) = told tells past ++ told tells own := by
  unfold told
  rw [List.reverse_append, List.filterMap_append]

theorem mem_told {x : α} : x ∈ told tells past ↔ ∃ e ∈ past, tells e = some x := by
  unfold told
  simp only [List.mem_filterMap, List.mem_reverse]

end

/-- What was told before is told still. -/
theorem told_of_suffix (tells : RelayEvent → Option α) {past history : List RelayEvent}
    (h : past <:+ history) : told tells past <+: told tells history := by
  obtain ⟨later, rfl⟩ := h
  rw [told_append]
  exact List.prefix_append _ _

theorem mem_takes {c : CapturedFault} {history : List RelayEvent} :
    c ∈ takes history ↔ .taken c ∈ history := by
  rw [mem_told]
  constructor
  · rintro ⟨e, he, htells⟩
    cases e <;> simp only [RelayEvent.taken?, reduceCtorEq, Option.some.injEq] at htells
    exact htells ▸ he
  · exact fun h => ⟨_, h, rfl⟩

theorem mem_installs {k : RelayHandlerId} {history : List RelayEvent} :
    k ∈ installs history ↔ .installed k ∈ history := by
  rw [mem_told]
  constructor
  · rintro ⟨e, he, htells⟩
    cases e <;> simp only [RelayEvent.installed?, reduceCtorEq, Option.some.injEq] at htells
    exact htells ▸ he
  · exact fun h => ⟨_, h, rfl⟩

theorem mem_shownTo {k : RelayHandlerId} {c : CapturedFault} {history : List RelayEvent} :
    k ∈ shownTo c history ↔ .shown k c ∈ history := by
  rw [mem_told]
  constructor
  · rintro ⟨e, he, htells⟩
    cases e <;> simp only [RelayEvent.shown?, reduceCtorEq, Option.ite_none_right_eq_some,
      Option.some.injEq] at htells
    obtain ⟨rfl, rfl⟩ := htells
    exact he
  · exact fun h => ⟨_, h, by simp [RelayEvent.shown?]⟩

/-- Every event has its past. -/
theorem past_of_mem {e : RelayEvent} {history : List RelayEvent} (h : e ∈ history) :
    ∃ past, e :: past <:+ history := by
  obtain ⟨later, past, rfl⟩ := List.append_of_mem h
  exact ⟨past, List.suffix_append later _⟩

theorem mem_of_past {e : RelayEvent} {past history : List RelayEvent} (h : e :: past <:+ history) :
    e ∈ history := h.subset List.mem_cons_self

theorem past_suffix {e : RelayEvent} {past history : List RelayEvent} (h : e :: past <:+ history) :
    past <:+ history := (List.suffix_cons e past).trans h

/-- Who is at work was shown something. -/
theorem mem_working {p : RelayHandlerId × CapturedFault} {history : List RelayEvent}
    (h : p ∈ working history) : .shown p.1 p.2 ∈ history := by
  induction history with
  | nil => exact absurd h List.not_mem_nil
  | cons e past ih =>
    cases e with
    | shown k c =>
      rcases List.mem_cons.mp h with rfl | h
      · exact List.mem_cons_self
      · exact List.mem_cons_of_mem _ (ih h)
    | answered k stays => exact List.mem_cons_of_mem _ (ih (List.mem_of_mem_tail h))
    | failed k fault => exact List.mem_cons_of_mem _ (ih (List.mem_of_mem_tail h))
    | _ => exact List.mem_cons_of_mem _ (ih h)

/-- Who is installed was installed just now, or before. -/
theorem mem_installed_cons {k : RelayHandlerId} {e : RelayEvent} {past : List RelayEvent}
    (h : k ∈ installed (e :: past)) : e = .installed k ∨ k ∈ installed past := by
  cases e with
  | installed j =>
    rcases List.mem_append.mp h with h | h
    · exact Or.inr h
    · exact Or.inl (by rw [List.mem_singleton.mp h])
  | uninstalled j => exact Or.inr (List.mem_of_mem_filter h)
  | _ => exact Or.inr h

theorem mem_installed {k : RelayHandlerId} {history : List RelayEvent} (h : k ∈ installed history) :
    .installed k ∈ history := by
  induction history with
  | nil => exact absurd h List.not_mem_nil
  | cons e past ih =>
    rcases mem_installed_cons h with rfl | h
    · exact List.mem_cons_self
    · exact List.mem_cons_of_mem _ (ih h)

/-- Installed handlers stand in the order in which they came. -/
theorem installed_sublist (history : List RelayEvent) :
    (installed history).Sublist (installs history) := by
  induction history with
  | nil => exact List.Sublist.refl _
  | cons e past ih =>
    simp only [told_cons]
    cases e with
    | installed k => exact ih.append (List.Sublist.refl _)
    | uninstalled k =>
      simpa [installed, RelayEvent.installed?] using List.filter_sublist.trans ih
    | _ => simpa [installed, RelayEvent.installed?] using ih

/-! ## What may happen next -/

/-- Every fault is taken at most once. -/
def Distinct (history : List RelayEvent) : Prop := (takes history).Nodup

/-- Every fault that was taken has been shown to all who were ready then,
except those that are at work and some that are left out. -/
def Settled (leftOut : CapturedFault → Prop) (history : List RelayEvent) : Prop :=
  ∀ c past, .taken c :: past <:+ history → ¬ leftOut c → c ∉ (working history).map (·.2) →
    shownTo c history = ready past

/-- Nobody who was dismissed is installed, unless installed since. -/
def Retired (history : List RelayEvent) : Prop :=
  ∀ k later e past, history = later ++ e :: past → e.Dismisses k → k ∈ installed history →
    .installed k ∈ later

/-- What a fault must be, to be shown to a handler: it was taken on this
level, when the handler was ready, and the handler is the next of those.
Every other fault is at work or has been shown to all. -/
structure MayShow (h : RelayHandlerId) (c : CapturedFault) (past : List RelayEvent) : Prop where
  taken : ∃ before, .taken c :: before <:+ past ∧ working before = working past ∧
    h ∈ ready before ∧ (Distinct past → shownTo c past ++ [h] <+: ready before)
  others : Distinct past → Settled (· = c) past

/-- What may happen after this past. -/
def Permits (past : List RelayEvent) : RelayEvent → Prop
  | .shown h c => MayShow h c past
  | .answered h _ => ∃ c rest, working past = (h, c) :: rest
  | .failed h _ => ∃ c rest, working past = (h, c) :: rest
  | .uninstalled h => h ∈ installed past
  | .taken _ => Retired past
  | _ => True

/-- Everything happened as it may. -/
def Lawful (history : List RelayEvent) : Prop :=
  ∀ e past, e :: past <:+ history → Permits past e

theorem Distinct.past {past history : List RelayEvent} (h : Distinct history)
    (hpast : past <:+ history) : Distinct past :=
  h.sublist (told_of_suffix _ hpast).sublist

theorem Lawful.past {past history : List RelayEvent} (h : Lawful history)
    (hpast : past <:+ history) : Lawful past :=
  fun e before hbefore => h e before (hbefore.trans hpast)

theorem Lawful.cons {e : RelayEvent} {past : List RelayEvent} (h : Lawful past)
    (he : Permits past e) : Lawful (e :: past) := by
  intro e' before hbefore
  rcases List.suffix_cons_iff.mp hbefore with heq | hpast
  · obtain ⟨rfl, rfl⟩ := List.cons.inj heq
    exact he
  · exact h e' before hpast

theorem Lawful.nil : Lawful [] := by
  intro e past h
  exact absurd (mem_of_past h) List.not_mem_nil

theorem lawful_cons {e : RelayEvent} {past : List RelayEvent} :
    Lawful (e :: past) ↔ Lawful past ∧ Permits past e :=
  ⟨fun h => ⟨h.past (List.suffix_cons e past), h e past List.suffix_rfl⟩, fun h => h.1.cons h.2⟩

/-! ## Takes -/

/-- A fault taken after another one stands after it. -/
theorem Distinct.not_mem_takes {c : CapturedFault} {past history : List RelayEvent}
    (h : Distinct history) (hc : .taken c :: past <:+ history) : c ∉ takes past := by
  have hnodup : (takes (.taken c :: past)).Nodup := h.past hc
  simp only [told_cons] at hnodup
  intro hmem
  exact (List.disjoint_of_nodup_append hnodup) hmem (by simp [RelayEvent.taken?])

/-- There is one past of a take. -/
theorem Distinct.take_unique {c : CapturedFault} {past before history : List RelayEvent}
    (h : Distinct history) (hc : .taken c :: past <:+ history)
    (hc' : .taken c :: before <:+ history) : past = before := by
  have hwlog : ∀ {p q : List RelayEvent}, .taken c :: p <:+ history → .taken c :: q <:+ history →
      .taken c :: p <:+ .taken c :: q → p = q := by
    intro p q hp hq hpq
    rcases List.suffix_cons_iff.mp hpq with heq | hsuffix
    · exact (List.cons.inj heq).2
    · exact absurd (mem_takes.mpr (mem_of_past hsuffix)) (h.not_mem_takes hq)
  rcases List.suffix_or_suffix_of_suffix hc hc' with hle | hle
  · exact hwlog hc hc' hle
  · exact (hwlog hc' hc hle).symm

/-- Of two faults taken, one was taken before the other. -/
theorem take_before_or {c d : CapturedFault} {past before history : List RelayEvent}
    (hc : .taken c :: past <:+ history) (hd : .taken d :: before <:+ history) (hne : c ≠ d) :
    .taken c :: past <:+ before ∨ .taken d :: before <:+ past := by
  have hcons : ∀ {a b : CapturedFault} {p q : List RelayEvent}, a ≠ b →
      .taken a :: p <:+ .taken b :: q → .taken a :: p <:+ q := by
    intro a b p q hab hle
    rcases List.suffix_cons_iff.mp hle with heq | hsuffix
    · exact absurd (RelayEvent.taken.inj (List.cons.inj heq).1) hab
    · exact hsuffix
  rcases List.suffix_or_suffix_of_suffix hc hd with hle | hle
  · exact Or.inl (hcons hne hle)
  · exact Or.inr (hcons hne.symm hle)

/-! ## Showing -/

/-- What is shown was taken. -/
theorem Lawful.taken_of_shown {h : RelayHandlerId} {c : CapturedFault} {history : List RelayEvent}
    (hlawful : Lawful history) (hshown : .shown h c ∈ history) : .taken c ∈ history := by
  obtain ⟨past, hpast⟩ := past_of_mem hshown
  obtain ⟨before, hbefore, -⟩ := (hlawful _ _ hpast).taken
  exact (past_suffix hpast).subset (mem_of_past hbefore)

/-- A fault at work was taken. -/
theorem Lawful.taken_of_working {p : RelayHandlerId × CapturedFault} {history : List RelayEvent}
    (hlawful : Lawful history) (hp : p ∈ working history) : .taken p.2 ∈ history :=
  hlawful.taken_of_shown (mem_working hp)

theorem Lawful.shownTo_of_not_taken {c : CapturedFault} {history : List RelayEvent}
    (hlawful : Lawful history) (hc : c ∉ takes history) : shownTo c history = [] := by
  rw [List.eq_nil_iff_forall_not_mem]
  intro k hk
  exact hc (mem_takes.mpr (hlawful.taken_of_shown (mem_shownTo.mp hk)))

/-- A fault is shown to those who were ready when it was taken, in turn. -/
theorem Lawful.shownTo_in_turn {c : CapturedFault} {past history : List RelayEvent}
    (hlawful : Lawful history) (hdistinct : Distinct history)
    (hc : .taken c :: past <:+ history) : shownTo c history <+: ready past := by
  -- each showing of the fault is the next one, and nothing else adds to the list
  induction history with
  | nil => exact absurd (mem_of_past hc) List.not_mem_nil
  | cons e rest ih =>
    obtain ⟨hrest, hpermits⟩ := lawful_cons.mp hlawful
    have hdistinct' : Distinct rest := hdistinct.past (List.suffix_cons e rest)
    rcases List.suffix_cons_iff.mp hc with heq | hc'
    · obtain ⟨rfl, rfl⟩ := List.cons.inj heq
      have hnone := hrest.shownTo_of_not_taken (hdistinct.not_mem_takes hc)
      simp only [told_cons, hnone, RelayEvent.shown?]
      exact List.nil_prefix
    · simp only [told_cons]
      by_cases hshown : ∃ h, e = .shown h c
      · obtain ⟨h, rfl⟩ := hshown
        obtain ⟨before, hbefore, -, -, hnext⟩ := hpermits.taken
        rw [hdistinct'.take_unique hc' hbefore]
        simpa [RelayEvent.shown?] using hnext hdistinct'
      · have hnone : RelayEvent.shown? c e = none := by
          cases e with
          | shown h d =>
            have hne : d ≠ c := fun hd => hshown ⟨h, by rw [hd]⟩
            simp [RelayEvent.shown?, hne]
          | _ => rfl
        rw [hnone]
        simpa using ih hrest hdistinct' hc'

/-! ## Dismissals -/

/-- The handler that an event dismisses was installed once. -/
theorem Lawful.installed_of_dismisses {k : RelayHandlerId} {e : RelayEvent}
    {past history : List RelayEvent} (hlawful : Lawful history) (he : e :: past <:+ history)
    (hk : e.Dismisses k) : .installed k ∈ past := by
  have hpermits := hlawful e past he
  cases e with
  | uninstalled j =>
    obtain rfl : j = k := hk
    exact mem_installed hpermits
  | answered j stays =>
    obtain ⟨rfl, -⟩ := hk
    obtain ⟨c, rest, hworking⟩ := hpermits
    have hshown : .shown j c ∈ past := mem_working (p := (j, c)) (by simp [hworking])
    obtain ⟨before, hbefore⟩ := past_of_mem hshown
    have hmay : MayShow j c before := hlawful _ _ (hbefore.trans (past_suffix he))
    obtain ⟨first, hfirst, -, hready, -⟩ := hmay.taken
    have hinstalled := mem_installed (List.mem_of_mem_filter hready)
    exact (past_suffix hbefore).subset ((past_suffix hfirst).subset hinstalled)
  | _ => exact absurd hk id

end History

end NativeBridge
