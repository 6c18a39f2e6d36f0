-- How a history goes on. One event after another keeps it in order, and what
-- happens between two moments of one drain leaves the drains around it as
-- they were.
import NativeBridge.Proofs.Histories

namespace NativeBridge

/-- An event that no drain makes: nothing is taken or shown, and nobody comes
back. -/
def RelayEvent.IsQuiet : RelayEvent → Prop
  | captured _ => True
  | dropped _ => True
  | installed _ => True
  | uninstalled _ => True
  | _ => False

/-- Whether a handler comes back and asks to go. -/
def asksToGo : Except Fault Bool → Bool
  | .ok stays => !stays
  | .error _ => false

namespace History

/-- No fault is left out. -/
abbrev nothing : CapturedFault → Prop := fun _ => False

/-- A history that keeps the laws, with some faults not shown to all yet. -/
structure InOrder (leftOut : CapturedFault → Prop) (history : List RelayEvent) : Prop where
  lawful : Lawful history
  settled : Distinct history → Settled leftOut history
  retired : Retired history

/-! ## Events that change nothing about drains -/

section

variable {e : RelayEvent} {past : List RelayEvent} {leftOut : CapturedFault → Prop}

theorem working_quiet (he : e.IsQuiet) : working (e :: past) = working past := by
  cases e <;> first | rfl | exact absurd he id

theorem shown?_quiet (he : e.IsQuiet) (c : CapturedFault) : e.shown? c = none := by
  cases e <;> first | rfl | exact absurd he id

theorem shownTo_cons_of_none {c : CapturedFault} (he : e.shown? c = none) :
    shownTo c (e :: past) = shownTo c past := by
  simp [he]

/-- Another fault is shown. -/
theorem shownTo_show_of_ne {h : RelayHandlerId} {c d : CapturedFault} (hne : d ≠ c) :
    shownTo d (.shown h c :: past) = shownTo d past := by
  apply shownTo_cons_of_none
  exact if_neg fun heq => hne heq.symm

/-- The past of a take. -/
theorem take_past_cons {c : CapturedFault} {before : List RelayEvent}
    (h : .taken c :: before <:+ e :: past) :
    (e = .taken c ∧ before = past) ∨ .taken c :: before <:+ past := by
  rcases List.suffix_cons_iff.mp h with heq | hsuffix
  · obtain ⟨rfl, rfl⟩ := List.cons.inj heq
    exact Or.inl ⟨rfl, rfl⟩
  · exact Or.inr hsuffix

theorem Retired.nil : Retired [] := by
  intro k later e past h
  exact absurd h.symm (by simp)

/-- One more event leaves the dismissed dismissed, unless it dismisses
someone who stays. -/
theorem Retired.cons (h : Retired past)
    (he : ∀ k, e.Dismisses k → k ∉ installed (e :: past)) : Retired (e :: past) := by
  intro k later e' before heq hk hinstalled
  cases later with
  | nil =>
    obtain ⟨rfl, rfl⟩ := List.cons.inj heq
    exact absurd hinstalled (he k hk)
  | cons e'' later =>
    obtain ⟨rfl, hpast⟩ := List.cons.inj heq
    rcases mem_installed_cons hinstalled with rfl | hinstalled
    · exact List.mem_cons_self
    · exact List.mem_cons_of_mem _ (h k later e' before hpast hk hinstalled)

theorem not_mem_installed_uninstalled (k : RelayHandlerId) (past : List RelayEvent) :
    k ∉ installed (.uninstalled k :: past) := by
  simp [installed]

/-- One more event leaves settled what was settled, unless it takes or shows
a fault that is not left out. -/
theorem Settled.cons {leftOut' : CapturedFault → Prop} (h : Settled leftOut past)
    (htaken : ∀ d, e = .taken d → leftOut' d)
    (hothers : ∀ d, ¬ leftOut' d → d ∉ (working (e :: past)).map (·.2) →
      ¬ leftOut d ∧ d ∉ (working past).map (·.2) ∧ e.shown? d = none) :
    Settled leftOut' (e :: past) := by
  intro d before hd hleft hfree
  rcases take_past_cons hd with ⟨rfl, -⟩ | hd'
  · exact absurd (htaken d rfl) hleft
  · obtain ⟨hleft', hfree', hshown⟩ := hothers d hleft hfree
    rw [shownTo_cons_of_none hshown]
    exact h d before hd' hleft' hfree'

theorem InOrder.nil : InOrder leftOut [] where
  lawful := Lawful.nil
  settled _ _ _ h := absurd (mem_of_past h) List.not_mem_nil
  retired := Retired.nil

theorem InOrder.quiet (h : InOrder leftOut past) (he : e.IsQuiet) (hpermits : Permits past e) :
    InOrder leftOut (e :: past) where
  lawful := h.lawful.cons hpermits
  settled := by
    intro hdistinct
    apply (h.settled (hdistinct.past (List.suffix_cons e past))).cons
    · rintro d rfl
      exact absurd he id
    · intro d hleft hfree
      rw [working_quiet he] at hfree
      exact ⟨hleft, hfree, shown?_quiet he d⟩
  retired := by
    apply h.retired.cons
    intro k hk
    cases e with
    | uninstalled j =>
      obtain rfl : j = k := hk
      exact not_mem_installed_uninstalled j past
    | answered j stays => exact absurd he id
    | _ => exact absurd hk id

end

/-! ## The events of a drain -/

section

variable {past : List RelayEvent} {c : CapturedFault} {h : RelayHandlerId}

/-- A fault is taken, and it is to be shown. -/
theorem InOrder.take (hpast : InOrder nothing past) : InOrder (· = c) (.taken c :: past) where
  lawful := hpast.lawful.cons hpast.retired
  settled := by
    intro hdistinct
    apply (hpast.settled (hdistinct.past (List.suffix_cons _ past))).cons
    · exact fun d hd => (RelayEvent.taken.inj hd).symm
    · exact fun d _ hfree => ⟨id, hfree, rfl⟩
  retired := hpast.retired.cons fun k hk => absurd hk id

/-- A fault that has been shown to all is left out no more. -/
theorem InOrder.complete {before : List RelayEvent} (hpast : InOrder (· = c) past)
    (hc : .taken c :: before <:+ past) (hall : Distinct past → shownTo c past = ready before) :
    InOrder nothing past where
  lawful := hpast.lawful
  settled := by
    intro hdistinct d before' hd _ hwork
    by_cases hdc : d = c
    · subst hdc
      rw [hdistinct.take_unique hd hc]
      exact hall hdistinct
    · exact hpast.settled hdistinct d before' hd hdc hwork
  retired := hpast.retired

/-- A fault that has just been taken has been shown to nobody. -/
theorem Lawful.shownTo_take (hpast : Lawful past) (hdistinct : Distinct (.taken c :: past)) :
    shownTo c (.taken c :: past) = [] := by
  rw [shownTo_cons_of_none rfl]
  exact hpast.shownTo_of_not_taken (hdistinct.not_mem_takes List.suffix_rfl)

/-- A fault is taken, and nobody is ready. -/
theorem InOrder.takeUnclaimed (hpast : InOrder nothing past) (hready : ready past = []) :
    InOrder nothing (.taken c :: past) := by
  apply hpast.take.complete List.suffix_rfl
  intro hdistinct
  rw [hready]
  exact hpast.lawful.shownTo_take hdistinct

/-- The next handler is shown the fault. -/
theorem InOrder.show (hpast : InOrder (· = c) past) (hmay : MayShow h c past) :
    InOrder nothing (.shown h c :: past) where
  lawful := hpast.lawful.cons hmay
  settled := by
    intro hdistinct
    apply (hpast.settled (hdistinct.past (List.suffix_cons _ past))).cons
    · exact fun d hd => absurd hd (by simp)
    · intro d _ hfree
      simp only [working, List.map_cons, List.mem_cons, not_or] at hfree
      exact ⟨hfree.1, hfree.2, if_neg fun heq => hfree.1 heq.symm⟩
  retired := hpast.retired.cons fun k hk => absurd hk id

theorem working_ofAnswer (answer : Except Fault Bool) :
    working (.ofAnswer h answer :: past) = (working past).tail := by
  cases answer <;> rfl

theorem installed_ofAnswer (answer : Except Fault Bool) :
    installed (.ofAnswer h answer :: past) = installed past := by
  cases answer <;> rfl

theorem shown?_ofAnswer (answer : Except Fault Bool) (d : CapturedFault) :
    (RelayEvent.ofAnswer h answer).shown? d = none := by
  cases answer <;> rfl

/-- What is true of a handler that comes back, apart from its dismissal. -/
theorem InOrder.settled_ofAnswer {rest : List (RelayHandlerId × CapturedFault)}
    (hpast : InOrder nothing past) (hworking : working past = (h, c) :: rest)
    (answer : Except Fault Bool) (hdistinct : Distinct (.ofAnswer h answer :: past)) :
    Settled (· = c) (.ofAnswer h answer :: past) := by
  apply (hpast.settled (hdistinct.past (List.suffix_cons _ past))).cons
  · cases answer <;> exact fun d hd => absurd hd (by simp [RelayEvent.ofAnswer])
  · intro d hleft hfree
    rw [working_ofAnswer, hworking, List.tail_cons] at hfree
    refine ⟨id, ?_, shown?_ofAnswer answer d⟩
    rw [hworking, List.map_cons, List.mem_cons, not_or]
    exact ⟨hleft, hfree⟩

theorem permits_ofAnswer {rest : List (RelayHandlerId × CapturedFault)}
    (hworking : working past = (h, c) :: rest) (answer : Except Fault Bool) :
    Permits past (.ofAnswer h answer) := by
  cases answer <;> exact ⟨c, rest, hworking⟩

/-- A handler comes back, and is installed no more if it asks to go. -/
theorem InOrder.answer {rest : List (RelayHandlerId × CapturedFault)}
    (hpast : InOrder nothing past) (hworking : working past = (h, c) :: rest)
    {answer : Except Fault Bool} (hstays : asksToGo answer = true → h ∉ installed past) :
    InOrder (· = c) (.ofAnswer h answer :: past) where
  lawful := hpast.lawful.cons (permits_ofAnswer hworking answer)
  settled := hpast.settled_ofAnswer hworking answer
  retired := by
    apply hpast.retired.cons
    intro k hk
    rw [installed_ofAnswer]
    cases answer with
    | error fault => exact absurd hk id
    | ok stays =>
      obtain ⟨rfl, rfl⟩ := hk
      exact hstays rfl

/-- A handler comes back, asks to go, and is uninstalled. -/
theorem InOrder.answerAndGo {rest : List (RelayHandlerId × CapturedFault)}
    (hpast : InOrder nothing past) (hworking : working past = (h, c) :: rest)
    (hinstalled : h ∈ installed past) :
    InOrder (· = c) (.uninstalled h :: .answered h false :: past) where
  lawful := (hpast.lawful.cons (permits_ofAnswer hworking (.ok false))).cons hinstalled
  settled := by
    intro hdistinct
    have hanswered := hpast.settled_ofAnswer hworking (.ok false)
      (hdistinct.past (List.suffix_cons _ _))
    apply hanswered.cons
    · exact fun d hd => absurd hd (by simp)
    · exact fun d hleft hfree => ⟨hleft, hfree, rfl⟩
  retired := by
    intro k later e before heq hk hin
    -- right after the return the handler is still installed, so the two
    -- events are looked at together
    have hkh : k ≠ h := by
      rintro rfl
      exact not_mem_installed_uninstalled _ _ hin
    have hin' : k ∈ installed past := List.mem_of_mem_filter hin
    rcases later with - | ⟨e₁, - | ⟨e₂, later⟩⟩
    · obtain ⟨rfl, -⟩ := List.cons.inj heq
      exact absurd hk.symm hkh
    · obtain ⟨rfl, hrest⟩ := List.cons.inj heq
      obtain ⟨rfl, -⟩ := List.cons.inj hrest
      exact absurd hk.1.symm hkh
    · obtain ⟨rfl, hrest⟩ := List.cons.inj heq
      obtain ⟨rfl, hpast'⟩ := List.cons.inj hrest
      have := hpast.retired k later e before hpast' hk hin'
      exact List.mem_cons_of_mem _ (List.mem_cons_of_mem _ this)

end

/-! ## Growing -/

/-- What happens while the handlers at work stay at work: the faults taken
before are shown to nobody, some left out, and nothing happens on the levels
below. -/
structure Grows (leftOut : CapturedFault → Prop) (past history : List RelayEvent) : Prop where
  suffix : past <:+ history
  working : working history = working past
  shown : Distinct history → ∀ c ∈ takes past, ¬ leftOut c → shownTo c history = shownTo c past
  below : ∀ level : List (RelayHandlerId × CapturedFault),
    level.length < (History.working past).length → eventsAt level history = eventsAt level past

section

variable {e : RelayEvent} {past later history : List RelayEvent} {leftOut : CapturedFault → Prop}
  {c : CapturedFault} {h : RelayHandlerId}

theorem Grows.refl (history : List RelayEvent) : Grows leftOut history history where
  suffix := List.suffix_rfl
  working := rfl
  shown _ _ _ _ := rfl
  below _ _ := rfl

theorem Grows.trans (hfirst : Grows leftOut past later) (hsecond : Grows leftOut later history) :
    Grows leftOut past history where
  suffix := hfirst.suffix.trans hsecond.suffix
  working := hsecond.working.trans hfirst.working
  shown hdistinct c hc hleft := by
    have hc' : c ∈ takes later := (told_of_suffix _ hfirst.suffix).subset hc
    rw [hsecond.shown hdistinct c hc' hleft]
    exact hfirst.shown (hdistinct.past hsecond.suffix) c hc hleft
  below level hlevel := by
    rw [hsecond.below level (by rw [hfirst.working]; exact hlevel)]
    exact hfirst.below level hlevel

/-- Whoever is at work, an event on another level is not on this one. -/
theorem eventsAt_cons_of_ne {level : List (RelayHandlerId × CapturedFault)}
    (hne : History.working (e :: past) ≠ level) :
    eventsAt level (e :: past) = eventsAt level past := by
  simp only [eventsAt, if_neg hne]

theorem eventsAt_cons_of_eq {level : List (RelayHandlerId × CapturedFault)}
    (heq : History.working (e :: past) = level) :
    eventsAt level (e :: past) = e :: eventsAt level past := by
  simp only [eventsAt, if_pos heq]

/-- One event that shows nothing. -/
theorem Grows.event (hworking : History.working (e :: past) = History.working past)
    (hshown : ∀ d, e.shown? d = none) : Grows leftOut past (e :: past) where
  suffix := List.suffix_cons e past
  working := hworking
  shown _ d _ _ := shownTo_cons_of_none (hshown d)
  below level hlevel := by
    apply eventsAt_cons_of_ne
    rw [hworking]
    rintro rfl
    exact Nat.lt_irrefl _ hlevel

theorem Grows.quiet (he : e.IsQuiet) : Grows leftOut past (e :: past) :=
  .event (working_quiet he) (shown?_quiet he)

theorem Grows.take (c : CapturedFault) : Grows leftOut past (.taken c :: past) :=
  .event rfl fun _ => rfl

/-- A handler was shown a fault, did what it did, and came back. -/
theorem Grows.around {answer : Except Fault Bool}
    (hgrows : Grows nothing (.shown h c :: past) later) :
    Grows (· = c) past (.ofAnswer h answer :: later) where
  suffix := (past_suffix hgrows.suffix).trans (List.suffix_cons _ later)
  working := by
    rw [working_ofAnswer, hgrows.working]
    rfl
  shown hdistinct d hd hleft := by
    have hd' : d ∈ takes (.shown h c :: past) := by simpa [RelayEvent.taken?] using hd
    rw [shownTo_cons_of_none (shown?_ofAnswer answer d),
      hgrows.shown (hdistinct.past (List.suffix_cons _ later)) d hd' id]
    exact shownTo_show_of_ne hleft
  below level hlevel := by
    have hafter : History.working (.ofAnswer h answer :: later) ≠ level := by
      rw [working_ofAnswer, hgrows.working]
      rintro rfl
      exact Nat.lt_irrefl _ hlevel
    have hstart : History.working (.shown h c :: past) ≠ level := by
      rintro rfl
      exact absurd hlevel (by simp [History.working])
    rw [eventsAt_cons_of_ne hafter, hgrows.below level (Nat.lt_succ_of_lt hlevel),
      eventsAt_cons_of_ne hstart]

/-- On its own level the showing of a fault is one event, the return. -/
theorem Grows.level_around {answer : Except Fault Bool}
    (hgrows : Grows nothing (.shown h c :: past) later) :
    eventsAt (History.working past) (.ofAnswer h answer :: later) =
      .ofAnswer h answer :: eventsAt (History.working past) past := by
  have hafter : History.working (.ofAnswer h answer :: later) = History.working past := by
    rw [working_ofAnswer, hgrows.working]
    rfl
  have hstart : History.working (.shown h c :: past) ≠ History.working past := by
    simp [History.working]
  rw [eventsAt_cons_of_eq hafter, hgrows.below _ (Nat.lt_succ_self _), eventsAt_cons_of_ne hstart]

/-- A fault that was left out after its take was not taken before. -/
theorem Grows.ofTake (hgrows : Grows (· = c) (.taken c :: past) history) :
    Grows nothing past history where
  suffix := past_suffix hgrows.suffix
  working := hgrows.working
  shown hdistinct d hd _ := by
    have hne : d ≠ c := by
      rintro rfl
      exact hdistinct.not_mem_takes hgrows.suffix hd
    have hd' : d ∈ takes (.taken c :: past) := by
      simp only [told_cons]
      exact List.mem_append_left _ hd
    have hafter := hgrows.shown hdistinct d hd' hne
    simpa [RelayEvent.shown?] using hafter
  below level hlevel := by
    have htake : Grows nothing past (.taken c :: past) := .take c
    rw [hgrows.below level hlevel, htake.below level hlevel]

end

/-! ## What one drain does itself -/

/-- What a drain did on its level: it captured nothing, took so many faults,
and got these faults from the handlers that it called. -/
def Drained (past history : List RelayEvent) (count : Nat) (faults : List Fault) : Prop :=
  ∃ own, eventsAt (working past) history = own ++ eventsAt (working past) past ∧
    captures own = [] ∧ (takes own).length = count ∧ failures own = faults

section

variable {past later history : List RelayEvent} {m n : Nat} {faults more : List Fault}

theorem Drained.refl (past : List RelayEvent) : Drained past past 0 [] :=
  ⟨[], rfl, rfl, rfl, rfl⟩

theorem Drained.trans (hfirst : Drained past later m faults)
    (hsecond : Drained later history n more) (hlevel : working later = working past) :
    Drained past history (m + n) (faults ++ more) := by
  obtain ⟨own, hown, hcaptures, htakes, hfailures⟩ := hfirst
  obtain ⟨own', hown', hcaptures', htakes', hfailures'⟩ := hsecond
  rw [hlevel] at hown'
  refine ⟨own' ++ own, ?_, ?_, ?_, ?_⟩
  · rw [hown', hown, List.append_assoc]
  · simp only [told_append, hcaptures, hcaptures', List.append_nil]
  · simp only [told_append, List.length_append, htakes, htakes']
  · simp only [told_append, hfailures, hfailures']

/-- A drain takes a fault. -/
theorem Drained.take (c : CapturedFault) : Drained past (.taken c :: past) 1 [] :=
  ⟨[.taken c], eventsAt_cons_of_eq rfl, rfl, rfl, rfl⟩

end

/-- What a handler came back with. -/
def faultsOf : Except Fault Bool → List Fault
  | .ok _ => []
  | .error fault => [fault]

/-- A drain shows a fault to a handler. -/
theorem Drained.around {past later : List RelayEvent} {h : RelayHandlerId} {c : CapturedFault}
    {answer : Except Fault Bool} (hgrows : Grows nothing (.shown h c :: past) later) :
    Drained past (.ofAnswer h answer :: later) 0 (faultsOf answer) := by
  refine ⟨[.ofAnswer h answer], hgrows.level_around, ?_, ?_, ?_⟩ <;> cases answer <;> rfl

/-- A drain uninstalls a handler. -/
theorem Drained.uninstall (past : List RelayEvent) (h : RelayHandlerId) :
    Drained past (.uninstalled h :: past) 0 [] :=
  ⟨[.uninstalled h], eventsAt_cons_of_eq rfl, rfl, rfl, rfl⟩

end History

end NativeBridge
