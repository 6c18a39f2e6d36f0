-- Drains keep the laws. A drain takes a fault, shows it to those who were
-- ready, and goes on; whatever the handlers do meanwhile, the fault reaches
-- each of them once, and the drain answers for what it did itself.
import NativeBridge.Proofs.Chronicles

namespace NativeBridge

open History

variable {σ τ : Type}

/-! ## One handler -/

/-- What a drain does when a handler has come back. -/
def afterShow (id : RelayId) (h : RelayHandlerId) (answer : Except Fault Bool) :
    Action σ (List Fault) := do
  modify (·.modifyRelay id (·.finish h answer))
  match answer with
  | .ok true => return []
  | .ok false =>
    modify (·.modifyRelay id (·.uninstall h))
    return []
  | .error fault =>
    modify (·.note (.handlerFailed fault))
    return [fault]

theorem run_showFault (g : Guest σ) (id : RelayId) (c : CapturedFault) (h : InstalledHandler)
    (s : System σ) :
    (showFault g id c h).run s =
      let called := (g.takeFault h.function c).run (s.modifyRelay id (·.start h.id c))
      (afterShow id h.id called.1).run called.2 := rfl

theorem RelayLog.change_change (l : RelayLog) (id : RelayId) (f k : Relay → Relay) :
    (l.change id f []).change id k [] = l.change id (fun r => k (f r)) [] := by
  unfold RelayLog.change
  simp only [List.append_nil]
  congr 1
  apply Array.ext_getElem?
  intro n
  rw [Array.getElem?_modify, Array.getElem?_modify, Array.getElem?_modify]
  split
  · rw [Option.map_map]
    rfl
  · rfl

theorem afterShow_faults (id : RelayId) (h : RelayHandlerId) (answer : Except Fault Bool)
    (s : System σ) : ((afterShow id h answer).run s).1 = faultsOf answer := by
  rcases answer with fault | (_ | _) <;> rfl

theorem relayLog_afterShow (id : RelayId) (h : RelayHandlerId) (answer : Except Fault Bool)
    (s : System σ) :
    ((afterShow id h answer).run s).2.relayLog = s.relayLog.change id (·.conclude h answer) [] := by
  rw [← relayLog_modifyRelay]
  rcases answer with fault | (_ | _)
  · exact System.relayLog_note _ rfl
  · refine (relayLog_modifyRelay _ id _).trans ?_
    rw [relayLog_modifyRelay, RelayLog.change_change, relayLog_modifyRelay]
    rfl
  · rfl

theorem guest_afterShow (id : RelayId) (h : RelayHandlerId) (answer : Except Fault Bool)
    (s : System σ) : ((afterShow id h answer).run s).2.guest = s.guest := by
  rcases answer with fault | (_ | _) <;> rfl

/-! ## The fault that is shown -/

/-- A drain shows a fault, which it took after this past. The handlers that
are left, and not at work, are the last of those that were ready. -/
structure Showing (id : RelayId) (c : CapturedFault) (before : List RelayEvent)
    (rest : List InstalledHandler) (s : World τ) : Prop where
  chronicled : s.Chronicled (showing id c)
  known : id.number < s.relays.size
  taken : .taken c :: before <:+ (s.relay id).history
  level : working before = working (s.relay id).history
  ready : ∀ h ∈ rest, h.id ∉ (working before).map (·.1) → h.id ∈ ready before
  left : Distinct (s.relay id).history → shownTo c (s.relay id).history ++
    (rest.map (·.id)).filter (fun h => h ∉ (working before).map (·.1)) = History.ready before

namespace Showing

variable {id : RelayId} {c : CapturedFault} {before : List RelayEvent}
  {h : InstalledHandler} {rest : List InstalledHandler} {s t : World τ}

theorem sound (hs : Showing id c before rest s) : (s.relay id).Sound (· = c) := by
  have hsound := hs.chronicled.now.sound id
  rwa [showing_self] at hsound

/-- The handlers at work are those that were when the fault was taken. -/
theorem isRunning_iff (hs : Showing id c before rest s) (number : RelayHandlerId) :
    (s.relay id).isRunning number = true ↔ number ∈ (working before).map (·.1) := by
  rw [hs.level]
  exact hs.sound.handlers.isRunning_iff

/-- The next handler may be shown the fault, if it is not at work. -/
theorem mayShow (hs : Showing id c before (h :: rest) s)
    (hfree : h.id ∉ (working before).map (·.1)) : MayShow h.id c (s.relay id).history where
  taken := by
    refine ⟨before, hs.taken, hs.level, hs.ready h List.mem_cons_self hfree, ?_⟩
    intro hdistinct
    have hleft := hs.left hdistinct
    rw [List.map_cons, List.filter_cons_of_pos (by simpa using hfree)] at hleft
    rw [← hleft]
    exact ⟨_, (List.append_cons _ _ _).symm⟩
  others := hs.sound.order.settled

/-- A handler that is at work is passed over. -/
theorem skip (hs : Showing id c before (h :: rest) s)
    (hbusy : h.id ∈ (working before).map (·.1)) : Showing id c before rest s where
  chronicled := hs.chronicled
  known := hs.known
  taken := hs.taken
  level := hs.level
  ready k hk := hs.ready k (List.mem_cons_of_mem h hk)
  left hdistinct := by
    have hleft := hs.left hdistinct
    rwa [List.map_cons, List.filter_cons_of_neg (by simpa using hbusy)] at hleft

/-- The state when the next handler starts. -/
theorem start (hs : Showing id c before (h :: rest) s)
    (hfree : h.id ∉ (working before).map (·.1)) :
    World.Chronicled noFault (s.modifyRelay id (·.start h.id c)) where
  now := by
    rw [relayLog_modifyRelay]
    have hmay : MayShow h.id c (s.relayLog.relay id).history := hs.mayShow hfree
    have hsound : (s.relayLog.relay id).Sound (· = c) := hs.sound
    apply hs.chronicled.now.change hs.known
    · exact hsound.start hmay
    · exact fun j hj => (showing_ne hj c).symm
    · intro d
      simp [Relay.start, RelayEvent.dropped?]
    · exact fun d => rfl
  past := hs.chronicled.past

section

/-! ### The handler comes back -/

variable {u : World τ} {answer : Except Fault Bool}
  (hs : Showing id c before (h :: rest) s) (hfree : h.id ∉ (working before).map (·.1))
  (hcalled : Advances (s.modifyRelay id (·.start h.id c)) t)
  (hlog : u.relayLog = t.relayLog.change id (·.conclude h.id answer) [])

include hs hfree hcalled

/-- What happened since the handler started. -/
theorem called : t.Chronicled noFault ∧ id.number < t.relays.size ∧
    (s.relayLog.change id (·.start h.id c) []).Later noFault t.relayLog ∧
    Grows nothing (.shown h.id c :: (s.relay id).history) (t.relay id).history := by
  obtain ⟨ht, hlater⟩ := hcalled (hs.start hfree)
  rw [relayLog_modifyRelay] at hlater
  have hsize := hlater.size
  rw [RelayLog.size_change] at hsize
  have hgrows := hlater.grows id
  rw [RelayLog.relay_change_self hs.known] at hgrows
  exact ⟨ht, lt_of_lt_of_le hs.known hsize, hlater, hgrows⟩

include hlog

/-- The relay when the handler has come back. -/
theorem relay_finish : u.relay id = (t.relay id).conclude h.id answer :=
  RelayLog.relay_of_change hlog (hs.called hfree hcalled).2.1

theorem finish_grows : Grows (· = c) (s.relay id).history (u.relay id).history := by
  rw [hs.relay_finish hfree hcalled hlog]
  exact Relay.conclude_grows (hs.called hfree hcalled).2.2.2

theorem finish_later : s.relayLog.Later (showing id c) u.relayLog := by
  obtain ⟨-, -, hlater, -⟩ := hs.called hfree hcalled
  refine ⟨?_, ?_, ?_⟩
  · intro j
    by_cases hj : j = id
    · subst hj
      rw [showing_self]
      exact hs.finish_grows hfree hcalled hlog
    · have hother := hlater.grows j
      rw [RelayLog.relay_change_ne hj] at hother
      rwa [showing_ne hj, hlog, RelayLog.relay_change_ne hj]
  · have hsize := hlater.size
    rw [RelayLog.size_change] at hsize
    rwa [hlog, RelayLog.size_change]
  · rw [hlog]
    exact hlater.home

theorem finish_chronicled (hguest : u.guest = t.guest) : u.Chronicled (showing id c) where
  now := by
    obtain ⟨ht, hknown, -, hgrows⟩ := hs.called hfree hcalled
    rw [hlog]
    apply ht.now.change hknown
    · rw [showing_self]
      exact (ht.now.sound id).conclude hgrows.working answer
    · exact fun j hj => showing_ne hj c
    · exact fun d => by rw [Relay.drops_conclude]; rfl
    · exact fun d => by rw [Relay.unclaimed_conclude]; rfl
  past := by
    rw [hguest]
    exact (hs.called hfree hcalled).1.past

/-- The handler is one of those that were shown the fault now. -/
theorem finish_left (hdistinct : Distinct (u.relay id).history) :
    shownTo c (u.relay id).history ++
      (rest.map (·.id)).filter (fun h => h ∉ (working before).map (·.1)) =
        History.ready before := by
  obtain ⟨-, -, -, hgrows⟩ := hs.called hfree hcalled
  have haround := hs.finish_grows hfree hcalled hlog
  have hrelay := hs.relay_finish hfree hcalled hlog
  have htaken : c ∈ takes (.shown h.id c :: (s.relay id).history) :=
    mem_takes.mpr (List.mem_cons_of_mem _ (mem_of_past hs.taken))
  have hsuffix : (t.relay id).history <:+ (u.relay id).history := by
    rw [hrelay]
    exact Relay.suffix_conclude _ h.id answer
  have hshown := hgrows.shown (hdistinct.past hsuffix) c htaken not_false
  have hleft := hs.left (hdistinct.past haround.suffix)
  rw [List.map_cons, List.filter_cons_of_pos (by simpa using hfree), List.append_cons] at hleft
  rw [hrelay, Relay.shownTo_conclude, hshown, ← hleft]
  simp [RelayEvent.shown?]

/-- What is true when the handler has come back. -/
theorem finish (hguest : u.guest = t.guest) :
    Showing id c before rest u ∧ s.relayLog.Later (showing id c) u.relayLog ∧
      Drained (s.relay id).history (u.relay id).history 0 (faultsOf answer) := by
  obtain ⟨-, hknown, -, hgrows⟩ := hs.called hfree hcalled
  have haround := hs.finish_grows hfree hcalled hlog
  refine ⟨⟨?_, ?_, ?_, ?_, ?_, ?_⟩, hs.finish_later hfree hcalled hlog, ?_⟩
  · exact hs.finish_chronicled hfree hcalled hlog hguest
  · have hsize : u.relayLog.relays.size = t.relayLog.relays.size := by
      rw [hlog, RelayLog.size_change]
    exact lt_of_lt_of_eq hknown hsize.symm
  · exact hs.taken.trans haround.suffix
  · rw [haround.working]
    exact hs.level
  · exact fun k hk => hs.ready k (List.mem_cons_of_mem h hk)
  · exact hs.finish_left hfree hcalled hlog
  · rw [hs.relay_finish hfree hcalled hlog]
    exact Relay.conclude_drained hgrows

end

end Showing

/-! ## All handlers -/

theorem run_showToAll_cons (g : Guest σ) (id : RelayId) (c : CapturedFault) (done : Delivery)
    (h : InstalledHandler) (rest : List InstalledHandler) (s : System σ) :
    (showToAll g id c done (h :: rest)).run s =
      if (s.relay id).isRunning h.id then (showToAll g id c done rest).run s
      else
        let shown := (showFault g id c h).run s
        (showToAll g id c ⟨true, done.failures ++ shown.1⟩ rest).run shown.2 := by
  have hrun : (showToAll g id c done (h :: rest)).run s =
      (if (s.relay id).isRunning h.id then showToAll g id c done rest
        else do
          let failures ← showFault g id c h
          showToAll g id c ⟨true, done.failures ++ failures⟩ rest).run s := rfl
  rw [hrun]
  split <;> rfl

section

variable {g : Guest (Outside τ)} {id : RelayId} {c : CapturedFault} {before : List RelayEvent}

theorem showFault_shows (hg : g.Follows Advances) {h : InstalledHandler}
    {rest : List InstalledHandler} {s : World τ} (hs : Showing id c before (h :: rest) s)
    (hfree : h.id ∉ (working before).map (·.1)) :
    let shown := (showFault g id c h).run s
    Showing id c before rest shown.2 ∧ s.relayLog.Later (showing id c) shown.2.relayLog ∧
      Drained (s.relay id).history (shown.2.relay id).history 0 shown.1 := by
  intro shown
  have hrun : shown = _ := run_showFault g id c h s
  have hcalled := hg.takeFault h.function c (s.modifyRelay id (·.start h.id c))
  rw [hrun, afterShow_faults]
  exact hs.finish hfree hcalled (relayLog_afterShow id h.id _ _) (guest_afterShow id h.id _ _)

/-- A fault is shown to all that were ready, one after another. -/
theorem showToAll_shows (hg : g.Follows Advances) (rest : List InstalledHandler) (done : Delivery)
    {s : World τ} (hs : Showing id c before rest s) :
    let shown := (showToAll g id c done rest).run s
    Showing id c before [] shown.2 ∧ s.relayLog.Later (showing id c) shown.2.relayLog ∧
      ∃ faults, shown.1.failures = done.failures ++ faults ∧
        Drained (s.relay id).history (shown.2.relay id).history 0 faults := by
  -- the handlers that are left get fewer, and `Showing` carries what is true
  induction rest generalizing done s with
  | nil => exact ⟨hs, RelayLog.Later.refl _, [], (List.append_nil _).symm, Drained.refl _⟩
  | cons h rest ih =>
    have hrunning := hs.isRunning_iff h.id
    rw [run_showToAll_cons]
    split
    · rename_i hbusy
      exact ih done (hs.skip (hrunning.mp hbusy))
    · rename_i hfree
      obtain ⟨hshown, hlater, hdrained⟩ := showFault_shows hg hs fun hbusy =>
        hfree (hrunning.mpr hbusy)
      obtain ⟨hall, hlater', faults, hfaults, hdrained'⟩ :=
        ih ⟨true, done.failures ++ ((showFault g id c h).run s).1⟩ hshown
      refine ⟨hall, hlater.trans hlater', ((showFault g id c h).run s).1 ++ faults, ?_, ?_⟩
      · rw [hfaults, List.append_assoc]
      · exact hdrained.trans hdrained' (hlater.grows id).working

/-- Someone took the fault, if anyone was ready. -/
theorem showToAll_handled (hg : g.Follows Advances) (rest : List InstalledHandler) (done : Delivery)
    {s : World τ} (hs : Showing id c before rest s)
    (hsome : done.handled = true ∨ ∃ h ∈ rest, h.id ∉ (working before).map (·.1)) :
    ((showToAll g id c done rest).run s).1.handled = true := by
  induction rest generalizing done s with
  | nil =>
    rcases hsome with hdone | ⟨h, hh, -⟩
    · exact hdone
    · exact absurd hh List.not_mem_nil
  | cons h rest ih =>
    have hrunning := hs.isRunning_iff h.id
    rw [run_showToAll_cons]
    split
    · rename_i hbusy
      apply ih done (hs.skip (hrunning.mp hbusy))
      rcases hsome with hdone | ⟨k, hk, hfree⟩
      · exact Or.inl hdone
      · rcases List.mem_cons.mp hk with rfl | hk
        · exact absurd (hrunning.mp hbusy) hfree
        · exact Or.inr ⟨k, hk, hfree⟩
    · rename_i hfree
      exact ih _ (showFault_shows hg hs fun hbusy => hfree (hrunning.mpr hbusy)).1 (Or.inl rfl)

/-- A fault is shown to nobody, if all are at work. -/
theorem showToAll_busy (g : Guest σ) (rest : List InstalledHandler) (done : Delivery)
    {s : System σ} (hbusy : ∀ h ∈ rest, (s.relay id).isRunning h.id = true) :
    (showToAll g id c done rest).run s = (done, s) := by
  induction rest with
  | nil => rfl
  | cons h rest ih =>
    rw [run_showToAll_cons, if_pos (hbusy h List.mem_cons_self)]
    exact ih fun k hk => hbusy k (List.mem_cons_of_mem h hk)

/-! ## One fault after another -/

/-- Only a relay that exists has faults that wait. -/
theorem known_of_pop? {s : System σ} {relay : Relay} (hpop : (s.relay id).pop? = some (c, relay)) :
    id.number < s.relays.size := by
  by_contra hle
  have hnew : s.relay id = {} := RelayLog.relay_of_le (l := s.relayLog) (Nat.le_of_not_lt hle)
  rw [hnew] at hpop
  exact absurd hpop (by simp [Relay.pop?])

/-- A fault is taken when nobody is ready, and is reported. -/
theorem takeUnclaimed_advances {s : World τ} (hs : s.Chronicled noFault) {relay : Relay}
    (hpop : (s.relay id).pop? = some (c, relay)) (hready : ready (s.relay id).history = []) :
    let turned := (s.modifyRelay id fun _ => relay).note (.unhandled c)
    World.Chronicled noFault turned ∧ s.relayLog.Later noFault turned.relayLog ∧
      Drained (s.relay id).history (turned.relay id).history 1 [] := by
  intro turned
  have hknown := known_of_pop? hpop
  obtain ⟨hqueue, rfl⟩ := Relay.pop?_eq_some hpop
  have hlog : turned.relayLog =
      s.relayLog.change id (fun _ => (s.relay id).takeOldest c) [.unhandled c] := by
    simp [turned, System.relayLog, System.modifyRelay, System.note, RelayLog.change,
      Notice.isOfRelay]
  have hsound := hs.now.sound id
  have hrelay : turned.relay id = (s.relay id).takeOldest c := RelayLog.relay_of_change hlog hknown
  refine ⟨⟨?_, hs.past⟩, ?_, ?_⟩
  · rw [hlog]
    apply hs.now.change hknown
    · exact ⟨hsound.queue.takeOldest hqueue, hsound.handlers.takeOldest,
        hsound.order.takeUnclaimed hready⟩
    · exact fun _ _ => rfl
    · intro d
      rw [Relay.drops_takeOldest]
      simp [RelayLog.relay_relayLog]
    · intro d
      rw [Relay.unclaimed_takeOldest, RelayLog.relay_relayLog, if_pos hready]
      simp [List.count_cons]
  · rw [hlog]
    exact .change _ (Grows.take c)
  · rw [hrelay]
    exact Drained.take c

/-- A fault is taken when someone is ready, and is to be shown. -/
theorem take_showing {s : World τ} (hs : s.Chronicled noFault) {relay : Relay}
    (hpop : (s.relay id).pop? = some (c, relay)) (hready : ready (s.relay id).history ≠ []) :
    Showing id c (s.relay id).history relay.handlers (s.modifyRelay id fun _ => relay) := by
  have hknown := known_of_pop? hpop
  obtain ⟨hqueue, rfl⟩ := Relay.pop?_eq_some hpop
  have hsound : (s.relay id).Sound nothing := hs.now.sound id
  have hlog := relayLog_modifyRelay s id fun _ => (s.relay id).takeOldest c
  have hrelay : (s.modifyRelay id fun _ => (s.relay id).takeOldest c).relay id =
      (s.relay id).takeOldest c := RelayLog.relay_of_change hlog hknown
  have hids : (s.relay id).handlers.map (·.id) = installed (s.relay id).history :=
    hsound.handlers.handlers
  refine ⟨⟨?_, hs.past⟩, ?_, ?_, ?_, ?_, ?_⟩
  · rw [hlog]
    apply hs.now.change hknown
    · rw [showing_self]
      exact hsound.takeOldest hqueue
    · exact fun j hj => showing_ne hj c
    · intro d
      rw [Relay.drops_takeOldest]
      simp [RelayLog.relay_relayLog]
    · intro d
      rw [Relay.unclaimed_takeOldest, RelayLog.relay_relayLog, if_neg hready]
      simp
  · simpa [System.modifyRelay] using hknown
  · rw [hrelay]
    exact List.suffix_rfl
  · rw [hrelay]
    rfl
  · exact fun h hh hfree => (hsound.handlers.mem_ready hh).mpr hfree
  · intro hdistinct
    rw [hrelay] at hdistinct ⊢
    have hnone : shownTo c ((s.relay id).takeOldest c).history = [] :=
      hsound.order.lawful.shownTo_take hdistinct
    rw [hnone, List.nil_append]
    change ((s.relay id).handlers.map (·.id)).filter _ = _
    rw [hids]
    rfl

/-- A fault that was shown to all is settled. -/
theorem Showing.complete {s : World τ} (hs : Showing id c before [] s) :
    s.Chronicled noFault where
  now := by
    apply hs.chronicled.now.complete
    have hsound : (s.relay id).Sound (· = c) := hs.sound
    refine ⟨hsound.queue, hsound.handlers, hsound.order.complete hs.taken ?_⟩
    intro hdistinct
    have hall := hs.left hdistinct
    rwa [List.map_nil, List.filter_nil, List.append_nil] at hall
  past := hs.chronicled.past

/-- A fault is taken when someone is ready, and is shown to all of them. -/
theorem takeAndShow_advances (hg : g.Follows Advances) {s : World τ} (hs : s.Chronicled noFault)
    {relay : Relay} (hpop : (s.relay id).pop? = some (c, relay))
    (hready : ready (s.relay id).history ≠ []) :
    let shown := (showToAll g id c ⟨false, []⟩ relay.handlers).run
      (s.modifyRelay id fun _ => relay)
    shown.1.handled = true ∧ World.Chronicled noFault shown.2 ∧
      s.relayLog.Later noFault shown.2.relayLog ∧
      Drained (s.relay id).history (shown.2.relay id).history 1 shown.1.failures := by
  intro shown
  have hshowing := take_showing hs hpop hready
  have hknown := known_of_pop? hpop
  obtain ⟨hqueue, rfl⟩ := Relay.pop?_eq_some hpop
  have hsound : (s.relay id).Sound nothing := hs.now.sound id
  have hlog := relayLog_modifyRelay s id fun _ => (s.relay id).takeOldest c
  have hrelay := RelayLog.relay_of_change hlog hknown
  obtain ⟨hall, hlater, faults, hfaults, hdrained⟩ := showToAll_shows hg _ ⟨false, []⟩ hshowing
  refine ⟨?_, hall.complete, ?_, ?_⟩
  · apply showToAll_handled hg _ _ hshowing
    exact Or.inr (hsound.handlers.exists_free hready)
  · rw [hlog] at hlater
    exact hlater.ofTake hknown rfl
  · have hfaults' : shown.1.failures = faults := hfaults
    rw [hrelay] at hdrained
    rw [hfaults']
    exact (Drained.take c).trans hdrained rfl

/-- A drain takes one fault, and the laws hold again after it. -/
theorem drainTurn (hg : g.Follows Advances) {s : World τ} (hs : s.Chronicled noFault)
    {relay : Relay} (hpop : (s.relay id).pop? = some (c, relay)) :
    let shown := (showToAll g id c ⟨false, []⟩ relay.handlers).run
      (s.modifyRelay id fun _ => relay)
    let turned := if shown.1.handled then shown.2 else shown.2.note (.unhandled c)
    World.Chronicled noFault turned ∧ s.relayLog.Later noFault turned.relayLog ∧
      Drained (s.relay id).history (turned.relay id).history 1 shown.1.failures := by
  by_cases hready : ready (s.relay id).history = []
  · have hbusy : ∀ h ∈ relay.handlers,
        ((s.modifyRelay id fun _ => relay).relay id).isRunning h.id = true := by
      have hlog := relayLog_modifyRelay s id fun _ => relay
      rw [RelayLog.relay_of_change hlog (known_of_pop? hpop)]
      obtain ⟨-, rfl⟩ := Relay.pop?_eq_some hpop
      have hhandlers : (s.relay id).HandlersSound := (hs.now.sound id).handlers
      exact fun h hh => hhandlers.isRunning_of_ready hready hh
    rw [showToAll_busy g relay.handlers ⟨false, []⟩ hbusy]
    exact takeUnclaimed_advances hs hpop hready
  · obtain ⟨hhandled, hrest⟩ := takeAndShow_advances hg hs hpop hready
    dsimp only
    rw [if_pos hhandled]
    exact hrest

theorem run_drainFaults_succ (g : Guest σ) (id : RelayId) (most drained : Nat)
    (failures : List Fault) (s : System σ) :
    (drainFaults g id (most + 1) drained failures).run s =
      match (s.relay id).pop? with
      | none => ((drained, failures), s)
      | some (c, relay) =>
        let shown := (showToAll g id c ⟨false, []⟩ relay.handlers).run
          (s.modifyRelay id fun _ => relay)
        (drainFaults g id most (drained + 1) (failures ++ shown.1.failures)).run
          (if shown.1.handled then shown.2 else shown.2.note (.unhandled c)) := by
  have hrun : (drainFaults g id (most + 1) drained failures).run s =
      (match (s.relay id).pop? with
        | none => return (drained, failures)
        | some (captured, relay) => do
          modify (·.modifyRelay id fun _ => relay)
          let delivery ← showToAll g id captured ⟨false, []⟩ relay.handlers
          unless delivery.handled do modify (·.note (.unhandled captured))
          drainFaults g id most (drained + 1) (failures ++ delivery.failures) :
        Action σ (Nat × List Fault)).run s := rfl
  rw [hrun]
  cases (s.relay id).pop? with
  | none => rfl
  | some taken =>
    obtain ⟨c, relay⟩ := taken
    dsimp only
    generalize hshown : (showToAll g id c ⟨false, []⟩ relay.handlers).run
      (s.modifyRelay id fun _ => relay) = shown
    obtain ⟨⟨handled, faults⟩, t⟩ := shown
    have htake : (modify (·.modifyRelay id fun _ => relay) : Action σ PUnit).run s =
        (⟨⟩, s.modifyRelay id fun _ => relay) := rfl
    rw [StateT.run_bind, htake]
    change StateT.run (_ >>= _) (s.modifyRelay id fun _ => relay) = _
    rw [StateT.run_bind, hshown]
    cases handled <;> rfl

/-- A drain keeps the laws, and gives what it did itself. -/
theorem drainFaults_drains (hg : g.Follows Advances) (id : RelayId) (most drained : Nat)
    (failures : List Fault) {s : World τ} (hs : s.Chronicled noFault) :
    let done := (drainFaults g id most drained failures).run s
    World.Chronicled noFault done.2 ∧ s.relayLog.Later noFault done.2.relayLog ∧
      ∃ count faults, done.1 = (drained + count, failures ++ faults) ∧
        Drained (s.relay id).history (done.2.relay id).history count faults := by
  -- what this drain did before is passed on unchanged, so it is arbitrary here
  induction most generalizing drained failures s with
  | zero =>
    refine ⟨⟨hs.now, hs.past⟩, RelayLog.Later.refl _, 0, [], ?_, Drained.refl _⟩
    rw [List.append_nil]
    rfl
  | succ most ih =>
    rw [run_drainFaults_succ]
    split
    · refine ⟨hs, RelayLog.Later.refl _, 0, [], ?_, Drained.refl _⟩
      rw [List.append_nil]
      rfl
    · rename_i c relay hpop
      dsimp only
      obtain ⟨hturned, hlater, hdrained⟩ := drainTurn hg hs hpop
      obtain ⟨hdone, hlater', count, faults, hgiven, hdrained'⟩ :=
        ih (drained + 1) (failures ++ _) hturned
      refine ⟨hdone, hlater.trans hlater', 1 + count, _, ?_, hdrained.trans hdrained' ?_⟩
      · rw [hgiven, List.append_assoc, Nat.add_assoc]
      · exact (hlater.grows id).working

/-- A drain answers for what it did itself. -/
theorem runPending_drains (hg : g.Follows Advances) (id : RelayId) {s : World τ}
    (hs : s.Chronicled noFault) :
    let done := (runPending g id).run.run s
    World.Chronicled noFault done.2 ∧ s.relayLog.Later noFault done.2.relayLog ∧
      ∃ count faults, Drained (s.relay id).history (done.2.relay id).history count faults ∧
        done.1 = if faults = [] then .ok count else .error (.handlerFailures faults) := by
  obtain ⟨hdone, hlater, count, faults, hgiven, hdrained⟩ :=
    drainFaults_drains hg id g.patience 0 [] hs
  have hrun : (runPending g id).run.run s =
      let drained := (drainFaults g id g.patience 0 []).run s
      (if drained.1.2.isEmpty then pure drained.1.1
        else throw (.handlerFailures drained.1.2) : Attempt (Outside τ) Nat).run.run
          drained.2 := rfl
  rw [hrun]
  dsimp only at hdone hlater hgiven hdrained ⊢
  generalize (drainFaults g id g.patience 0 []).run s = drained at hdone hlater hgiven hdrained ⊢
  obtain ⟨given, t⟩ := drained
  obtain rfl : given = (0 + count, [] ++ faults) := hgiven
  rw [Nat.zero_add, List.nil_append]
  cases faults with
  | nil => exact ⟨hdone, hlater, count, [], hdrained, rfl⟩
  | cons fault faults => exact ⟨hdone, hlater, count, fault :: faults, hdrained, rfl⟩

theorem runPending_attempts (hg : g.Follows Advances) (id : RelayId) :
    Attempts Advances (runPending g id) := by
  intro s hs
  obtain ⟨hdone, hlater, -⟩ := runPending_drains hg id hs
  exact ⟨hdone, hlater⟩

end

/-- Every run of deeds advances. -/
theorem Moves.advances {c : Conduct} {s t : World τ} (h : Moves c s t) : Advances s t :=
  h.follows Advances.isVoyage fun _ hg => runPending_attempts hg

theorem Guest.IsOutside.advances {c : Conduct} {g : Guest (Outside τ)} (hg : g.IsOutside c) :
    g.Follows Advances := hg.follows Advances.isVoyage fun _ hg => runPending_attempts hg

/-! ## Moments -/

theorem World.start_chronicled (memory : τ) : (World.start memory).Chronicled noFault where
  now := by
    refine ⟨fun id => ?_, fun c => rfl, fun c => rfl⟩
    have hnew : (World.start memory).relayLog.relay id = {} := RelayLog.relay_of_le (Nat.zero_le _)
    rw [hnew]
    exact Relay.withLimit_sound none
  past m hm := absurd hm List.not_mem_nil

/-- The relays are in order at every moment that outside code can come to. -/
theorem Reachable.orderly {c : Conduct} {m : System Ledger} (h : Reachable c m) :
    m.relayLog.Orderly noFault := by
  obtain ⟨τ, memory, t, hmoves, hm⟩ := h
  exact (hmoves.advances (World.start_chronicled memory)).1.past m hm

theorem World.Reached.chronicled {c : Conduct} {s : World τ} (h : s.Reached c) :
    s.Chronicled noFault where
  now := h.now.orderly
  past m hm := (h.past m hm).orderly

end NativeBridge
