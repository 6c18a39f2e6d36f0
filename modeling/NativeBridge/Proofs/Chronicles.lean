-- The laws of all relays together, at every moment that outside code looked
-- at. Each relay is sound, and what the library reported is what its relays
-- gave up on. Whatever happens, relays only grow.
import NativeBridge.Proofs.RelaySteps
import NativeBridge.Proofs.Voyages

namespace NativeBridge

open History

variable {τ : Type}

/-! ## The relays of a log -/

/-- No relay leaves out a fault. -/
def noFault : RelayId → CapturedFault → Prop := fun _ => nothing

/-- One relay is in the middle of showing a fault. -/
def showing (id : RelayId) (c : CapturedFault) : RelayId → CapturedFault → Prop :=
  fun j d => j = id ∧ d = c

theorem showing_self (id : RelayId) (c : CapturedFault) : showing id c id = (· = c) := by
  funext d
  simp [showing]

theorem showing_ne {id j : RelayId} (h : j ≠ id) (c : CapturedFault) :
    showing id c j = noFault j := by
  funext d
  simp [showing, noFault, h]

namespace RelayLog

def relay (l : RelayLog) (id : RelayId) : Relay := (l.relays[id.number]?).getD {}

/-- A change of one relay, with what is reported at it. -/
def change (l : RelayLog) (id : RelayId) (f : Relay → Relay) (more : List Notice) : RelayLog :=
  { l with relays := l.relays.modify id.number f, reports := l.reports ++ more }

theorem get?_of_lt {l : RelayLog} {id : RelayId} (h : id.number < l.relays.size) :
    l.relays[id.number]? = some (l.relay id) := by
  unfold relay
  rw [Array.getElem?_eq_getElem h]
  rfl

theorem relay_change (l : RelayLog) (id j : RelayId) (f : Relay → Relay) (more : List Notice) :
    (l.change id f more).relay j =
      if j = id ∧ id.number < l.relays.size then f (l.relay id) else l.relay j := by
  unfold change relay
  rw [Array.getElem?_modify]
  by_cases hj : j = id
  · subst hj
    by_cases hlt : j.number < l.relays.size
    · simp [hlt]
    · simp [hlt]
  · have hne : id.number ≠ j.number := fun hn => hj (by cases j; cases id; simp_all)
    simp [hne, hj]

theorem relay_change_self {l : RelayLog} {id : RelayId} (h : id.number < l.relays.size)
    (f : Relay → Relay) (more : List Notice) : (l.change id f more).relay id = f (l.relay id) := by
  rw [relay_change, if_pos ⟨rfl, h⟩]

theorem relay_change_ne {id j : RelayId} (h : j ≠ id) (l : RelayLog) (f : Relay → Relay)
    (more : List Notice) : (l.change id f more).relay j = l.relay j := by
  rw [relay_change, if_neg fun hj => h hj.1]

/-- A relay that does not exist does not change. -/
theorem change_of_le {l : RelayLog} {id : RelayId} (h : l.relays.size ≤ id.number)
    (f : Relay → Relay) : l.change id f [] = l := by
  unfold change
  rw [List.append_nil]
  congr 1
  apply Array.ext_getElem?
  intro n
  rw [Array.getElem?_modify]
  split
  · rename_i hn
    rw [← hn, Array.getElem?_eq_none h]
    rfl
  · rfl

theorem relay_relayLog {σ : Type} (s : System σ) (id : RelayId) :
    s.relayLog.relay id = s.relay id := rfl

/-- The relay that changed. -/
theorem relay_of_change {σ : Type} {s t : System σ} {id : RelayId} {f : Relay → Relay}
    {more : List Notice} (hlog : t.relayLog = s.relayLog.change id f more)
    (h : id.number < s.relays.size) : t.relay id = f (s.relay id) := by
  have hrelay : t.relay id = t.relayLog.relay id := rfl
  rw [hrelay, hlog]
  exact relay_change_self h f more

theorem size_change (l : RelayLog) (id : RelayId) (f : Relay → Relay) (more : List Notice) :
    (l.change id f more).relays.size = l.relays.size := Array.size_modify

theorem relay_of_le {l : RelayLog} {id : RelayId} (h : l.relays.size ≤ id.number) :
    l.relay id = {} := by
  unfold relay
  rw [Array.getElem?_eq_none h]
  rfl

/-! ## Order -/

/-- Every relay is sound, with some faults left out, and the reports are
about the faults that relays dropped or took with nobody ready. -/
structure Orderly (leftOut : RelayId → CapturedFault → Prop) (l : RelayLog) : Prop where
  sound : ∀ id, (l.relay id).Sound (leftOut id)
  dropped : ∀ c, l.reports.count (.queueFull c) =
    weigh (fun r => (drops r.history).count c) l.relays.toList
  unclaimed : ∀ c, l.reports.count (.unhandled c) =
    weigh (fun r => (History.unclaimed r.history).count c) l.relays.toList

/-- A sum over all relays, when one of them has changed. -/
theorem weigh_change (weight : Relay → Nat) {l : RelayLog} {id : RelayId}
    (hexists : id.number < l.relays.size) (f : Relay → Relay) (more : List Notice) :
    weigh weight (l.change id f more).relays.toList + weight (l.relay id) =
      weigh weight l.relays.toList + weight (f (l.relay id)) := by
  have hold : l.relays.toList[id.number]? = some (l.relay id) := by
    rw [Array.getElem?_toList]
    exact get?_of_lt hexists
  unfold RelayLog.change
  rw [Array.toList_modify]
  exact weigh_modify weight f hold

/-- One relay changes, and what it gives up on is reported. -/
theorem Orderly.change {leftOut leftOut' : RelayId → CapturedFault → Prop} {l : RelayLog}
    {id : RelayId} (h : l.Orderly leftOut) (hexists : id.number < l.relays.size)
    {f : Relay → Relay} {more : List Notice} (hsound : (f (l.relay id)).Sound (leftOut' id))
    (hothers : ∀ j, j ≠ id → leftOut' j = leftOut j)
    (hdropped : ∀ c, (drops (f (l.relay id)).history).count c =
      (drops (l.relay id).history).count c + more.count (.queueFull c))
    (hunclaimed : ∀ c, (History.unclaimed (f (l.relay id)).history).count c =
      (History.unclaimed (l.relay id).history).count c + more.count (.unhandled c)) :
    (l.change id f more).Orderly leftOut' where
  sound := by
    intro j
    by_cases hj : j = id
    · subst hj
      rw [relay_change_self hexists]
      exact hsound
    · rw [relay_change_ne hj, hothers j hj]
      exact h.sound j
  dropped := by
    intro c
    have hsum := weigh_change (fun r => (drops r.history).count c) hexists f more
    have hone := hdropped c
    have hreports : (l.change id f more).reports = l.reports ++ more := rfl
    rw [hreports, List.count_append, h.dropped c]
    omega
  unclaimed := by
    intro c
    have hsum := weigh_change (fun r => (History.unclaimed r.history).count c) hexists f more
    have hone := hunclaimed c
    have hreports : (l.change id f more).reports = l.reports ++ more := rfl
    rw [hreports, List.count_append, h.unclaimed c]
    omega

/-- The fault that was left out is not any more. -/
theorem Orderly.complete {l : RelayLog} {id : RelayId} {c : CapturedFault}
    (h : l.Orderly (showing id c)) (hsound : (l.relay id).Sound nothing) : l.Orderly noFault where
  sound := by
    intro j
    by_cases hj : j = id
    · subst hj
      exact hsound
    · have hother := h.sound j
      rwa [showing_ne hj] at hother
  dropped := h.dropped
  unclaimed := h.unclaimed

/-! ## Growth -/

/-- A later log: its relays have grown, some faults left out, and every
bridge has the relay that it had. -/
structure Later (leftOut : RelayId → CapturedFault → Prop) (l l' : RelayLog) : Prop where
  grows : ∀ id, Grows (leftOut id) (l.relay id).history (l'.relay id).history
  size : l.relays.size ≤ l'.relays.size
  home : ∀ n id, l.home n = some id → l'.home n = some id

variable {leftOut : RelayId → CapturedFault → Prop} {l l' l'' : RelayLog}

theorem Later.refl (l : RelayLog) : Later leftOut l l where
  grows _ := Grows.refl _
  size := Nat.le_refl _
  home _ _ h := h

theorem Later.trans (h : Later leftOut l l') (h' : Later leftOut l' l'') : Later leftOut l l'' where
  grows id := (h.grows id).trans (h'.grows id)
  size := h.size.trans h'.size
  home n id hn := h'.home n id (h.home n id hn)

theorem Later.change {id : RelayId} {f : Relay → Relay} (more : List Notice)
    (hgrows : Grows (leftOut id) (l.relay id).history (f (l.relay id)).history) :
    Later leftOut l (l.change id f more) where
  grows j := by
    rw [relay_change]
    split
    · rename_i hj
      rw [hj.1]
      exact hgrows
    · exact Grows.refl _
  size := by rw [size_change]
  home _ _ h := h

/-- A relay took a fault, and then showed it: both together leave out
nothing. -/
theorem Later.ofTake {id : RelayId} {c : CapturedFault} {f : Relay → Relay}
    (hknown : id.number < l.relays.size)
    (htake : (f (l.relay id)).history = .taken c :: (l.relay id).history)
    (h : Later (showing id c) (l.change id f []) l') : Later noFault l l' where
  grows j := by
    have hgrows := h.grows j
    by_cases hj : j = id
    · subst hj
      rw [relay_change_self hknown, htake, showing_self] at hgrows
      exact hgrows.ofTake
    · rwa [relay_change_ne hj, showing_ne hj] at hgrows
  size := by
    have hsize := h.size
    rwa [size_change] at hsize
  home := h.home

end RelayLog

/-! ## Worlds -/

/-- A state that differs from another only in what relays have nothing to do
with. -/
structure Aside (s t : World τ) : Prop where
  log : t.relayLog = s.relayLog
  diary : t.guest.diary = s.guest.diary

/-- The relays are in order now, some faults left out, and were at every
moment in the diary. -/
structure World.Chronicled (leftOut : RelayId → CapturedFault → Prop) (s : World τ) : Prop where
  now : s.relayLog.Orderly leftOut
  past : ∀ m ∈ s.guest.diary, m.relayLog.Orderly noFault

/-- The course of everything that happens between two moments: order is kept,
and relays grow. -/
def Advances (s t : World τ) : Prop :=
  World.Chronicled noFault s →
    World.Chronicled noFault t ∧ s.relayLog.Later noFault t.relayLog

theorem Advances.aside {s t : World τ} (h : Aside s t) : Advances s t := by
  intro hs
  refine ⟨⟨?_, ?_⟩, ?_⟩
  · rw [h.log]
    exact hs.now
  · rw [h.diary]
    exact hs.past
  · rw [h.log]
    exact RelayLog.Later.refl _

theorem Advances.isCourse : IsCourse (Advances (τ := τ)) where
  quiet h := .aside ⟨h.log, by rw [h.guest]⟩
  fallback s r type package := by
    obtain ⟨-, -, -, hguest⟩ := s.frame_noteFallback r type package
    exact .aside ⟨s.relayLog_noteFallback r type package, by rw [hguest]⟩
  heap _ := .aside ⟨rfl, rfl⟩
  trans h h' hs := by
    obtain ⟨ht, hlater⟩ := h hs
    obtain ⟨hu, hlater'⟩ := h' ht
    exact ⟨hu, hlater.trans hlater'⟩

/-- One relay changes in a state, and what it gives up on is reported. -/
theorem Advances.change {s t : World τ} {id : RelayId} {f : Relay → Relay} {more : List Notice}
    (hlog : t.relayLog = s.relayLog.change id f more) (hguest : t.guest = s.guest)
    (hsound : (s.relay id).Sound nothing → (f (s.relay id)).Sound nothing)
    (hdropped : ∀ c, (drops (f (s.relay id)).history).count c =
      (drops (s.relay id).history).count c + more.count (.queueFull c))
    (hunclaimed : ∀ c, (unclaimed (f (s.relay id)).history).count c =
      (unclaimed (s.relay id).history).count c + more.count (.unhandled c))
    (hnothing : s.relays.size ≤ id.number → more = [])
    (hgrows : Grows nothing (s.relay id).history (f (s.relay id)).history) : Advances s t := by
  intro hs
  refine ⟨⟨?_, by rw [hguest]; exact hs.past⟩, ?_⟩
  · rw [hlog]
    by_cases hexists : id.number < s.relayLog.relays.size
    · exact hs.now.change hexists (hsound (hs.now.sound id)) (fun _ _ => rfl) hdropped hunclaimed
    · have hle : s.relayLog.relays.size ≤ id.number := Nat.le_of_not_lt hexists
      rw [hnothing hle, RelayLog.change_of_le hle]
      exact hs.now
  · rw [hlog]
    exact .change more hgrows

/-! ## The steps of a voyage -/

theorem run_captureFault {σ : Type} (s : System σ) (id : RelayId) (fault : Fault) (origin : String)
    (r : RuntimeId) :
    let captured := (s.relay id).capture fault origin r
    let stored := s.modifyRelay id fun _ => captured.2.2
    (captureFault id fault origin r).run s =
      (captured.1, captured.2.1.elim stored fun dropped => stored.note (.queueFull dropped)) := by
  unfold captureFault
  rw [StateT.run_bind, StateT.run_get]
  dsimp only [Pure.pure, Bind.bind]
  rcases (s.relay id).capture fault origin r with ⟨sequence, dropped, relay⟩
  cases dropped <;> rfl

theorem relayLog_modifyRelay {σ : Type} (s : System σ) (id : RelayId) (f : Relay → Relay) :
    (s.modifyRelay id f).relayLog = s.relayLog.change id f [] := by
  simp [System.relayLog, System.modifyRelay, RelayLog.change]

theorem relayLog_captureFault {σ : Type} (s : System σ) (id : RelayId) (fault : Fault)
    (origin : String) (r : RuntimeId) :
    let captured := (s.relay id).capture fault origin r
    ((captureFault id fault origin r).run s).2.relayLog =
      s.relayLog.change id (fun _ => captured.2.2) (captured.2.1.toList.map .queueFull) := by
  intro captured
  rw [run_captureFault]
  cases captured.2.1 with
  | none => simp [System.relayLog, System.modifyRelay, RelayLog.change, captured]
  | some dropped =>
    simp [System.relayLog, System.modifyRelay, System.note, RelayLog.change, Notice.isOfRelay,
      captured]

theorem guest_captureFault {σ : Type} (s : System σ) (id : RelayId) (fault : Fault)
    (origin : String) (r : RuntimeId) :
    ((captureFault id fault origin r).run s).2.guest = s.guest := by
  rw [run_captureFault]
  cases ((s.relay id).capture fault origin r).2.1 <;> rfl

theorem capture_advances (id : RelayId) (fault : Fault) (origin : String) (r : RuntimeId) :
    Follows Advances (captureFault (σ := Outside τ) id fault origin r) := by
  intro s
  have hlog := relayLog_captureFault s id fault origin r
  have hguest := guest_captureFault s id fault origin r
  refine Advances.change hlog hguest ?_ ?_ ?_ ?_ ?_
  · exact fun hr => hr.capture fault origin r
  · intro c
    rw [Relay.drops_capture, List.count_append]
    cases ((s.relay id).capture fault origin r).2.1 with
    | none => rfl
    | some dropped => simp [List.count_cons]
  · intro c
    rw [Relay.unclaimed_capture]
    cases ((s.relay id).capture fault origin r).2.1 with
    | none => rfl
    | some dropped => simp
  · intro hle
    have hnew : s.relay id = {} := RelayLog.relay_of_le (l := s.relayLog) hle
    rw [hnew, Relay.capture_unlimited rfl]
    rfl
  · exact Relay.capture_grows _ fault origin r

theorem weigh_snoc {α : Type} (weight : α → Nat) (l : List α) (x : α) :
    weigh weight (l ++ [x]) = weigh weight l + weight x := by
  induction l with
  | nil => simp [weigh]
  | cons y rest ih =>
    rw [List.cons_append, weigh, weigh, ih]
    omega

/-- A new relay is empty. -/
theorem relay_addRelay (s : World τ) (maxPending : Option Nat) (id : RelayId) :
    (s.addRelay (Relay.withLimit maxPending)).2.relay id = s.relay id ∨
      s.relay id = {} ∧
        (s.addRelay (Relay.withLimit maxPending)).2.relay id = Relay.withLimit maxPending := by
  unfold System.addRelay System.relay
  dsimp only
  rw [Array.getElem?_push]
  split
  · rename_i hid
    rw [hid, Array.getElem?_eq_none (Nat.le_refl _)]
    exact Or.inr ⟨rfl, rfl⟩
  · exact Or.inl rfl

theorem Advances.newRelay (s : World τ) (maxPending : Option Nat) :
    Advances s (s.addRelay (Relay.withLimit maxPending)).2 := by
  intro hs
  refine ⟨⟨⟨?_, ?_, ?_⟩, hs.past⟩, ?_, ?_, fun _ _ h => h⟩
  · intro id
    rw [RelayLog.relay_relayLog]
    rcases relay_addRelay s maxPending id with hsame | ⟨-, hnew⟩
    · rw [hsame]
      exact hs.now.sound id
    · rw [hnew]
      exact Relay.withLimit_sound maxPending
  · intro c
    simp only [System.relayLog, System.addRelay, Array.toList_push, weigh_snoc]
    exact hs.now.dropped c
  · intro c
    simp only [System.relayLog, System.addRelay, Array.toList_push, weigh_snoc]
    exact hs.now.unclaimed c
  · intro id
    rw [RelayLog.relay_relayLog, RelayLog.relay_relayLog]
    rcases relay_addRelay s maxPending id with hsame | ⟨hold, hnew⟩
    · rw [hsame]
      exact Grows.refl _
    · rw [hold, hnew]
      exact Grows.refl _
  · simp [System.relayLog, System.addRelay]

theorem Advances.newBridge (s : World τ) (bridge : Bridge) :
    Advances s { s with bridges := s.bridges.add bridge } := by
  intro hs
  refine ⟨⟨⟨hs.now.sound, hs.now.dropped, hs.now.unclaimed⟩, hs.past⟩, fun id => Grows.refl _,
    Nat.le_refl _, ?_⟩
  intro n id hn
  have hlt : n ≠ s.bridges.size := by
    obtain ⟨b, hb, -⟩ := Option.map_eq_some_iff.mp hn
    exact Nat.ne_of_lt (SharedTable.lt_size_of_get? hb)
  change ((s.bridges.add bridge).get? n).map (·.relay) = some id
  rw [SharedTable.get?_add, if_neg hlt]
  exact hn

theorem Advances.isVoyage : IsVoyage (Advances (τ := τ)) where
  course := Advances.isCourse
  slot s r fault := .aside ⟨s.relayLog_modifyBridge r fun _ => rfl, rfl⟩
  capture := capture_advances
  newRelay := Advances.newRelay
  install s id function := by
    apply Advances.change (relayLog_modifyRelay s id _) rfl
    · exact fun hr => hr.install function
    · exact fun c => by simp [Relay.install, RelayEvent.dropped?]
    · exact fun c => rfl
    · exact fun _ => rfl
    · exact Grows.quiet trivial
  uninstall s id handler := by
    apply Advances.change (relayLog_modifyRelay s id _) rfl
    · exact fun hr => hr.uninstall handler
    · exact fun c => by rw [Relay.drops_uninstall]; rfl
    · exact fun c => by rw [Relay.unclaimed_uninstall]; rfl
    · exact fun _ => rfl
    · exact Relay.uninstall_grows _ handler
  newBridge := Advances.newBridge
  newRegistry _ _ := .aside ⟨rfl, rfl⟩
  changeRegistry s id change := by
    unfold Arrangement.apply
    dsimp only
    split <;> exact .aside ⟨rfl, rfl⟩
  ledger _ _ _ := .aside ⟨rfl, rfl⟩
  travel _ _ _ := .aside ⟨rfl, rfl⟩
  emission {s t o} h := by
    have hstarted : Advances s (World.changeLedger (·.startEmission o) s) := .aside ⟨rfl, rfl⟩
    have hended : Advances t (World.changeLedger (·.endEmission) t) := .aside ⟨rfl, rfl⟩
    exact Advances.isCourse.trans hstarted (Advances.isCourse.trans h hended)
  remember _ _ := .aside ⟨rfl, rfl⟩
  look s hs := by
    refine ⟨⟨hs.now, ?_⟩, RelayLog.Later.refl _⟩
    intro m hm
    rcases List.mem_cons.mp hm with rfl | hm
    · exact hs.now
    · exact hs.past m hm

end NativeBridge
