-- Conservation and fan-out. No fault is lost or doubled: it waits, or one
-- drain took it, or it was dropped and reported. A fault that was taken is
-- shown once to each handler that was ready, and every drain answers for what
-- it did itself, however drains and handlers nest.
import NativeBridge.Proofs.Drains

namespace NativeBridge

open History

variable {τ : Type}

/-! ## What leaves the queue -/

theorem takes_sublist (history : List RelayEvent) :
    (takes history).Sublist (departures history) := by
  induction history with
  | nil => exact List.Sublist.refl _
  | cons e past ih =>
    simp only [told_cons]
    apply ih.append
    cases e <;> simp [RelayEvent.taken?, RelayEvent.left?]

theorem count_departures (c : CapturedFault) (history : List RelayEvent) :
    (departures history).count c = (takes history).count c + (drops history).count c := by
  induction history with
  | nil => rfl
  | cons e past ih =>
    have hone : e.left?.toList.count c = e.taken?.toList.count c + e.dropped?.toList.count c := by
      cases e <;> simp [RelayEvent.taken?, RelayEvent.left?, RelayEvent.dropped?]
    simp only [told_cons, List.count_append, hone]
    exact (congrArg (· + _) ih).trans (Nat.add_add_add_comm _ _ _ _)

namespace Relay

variable {r : Relay} {leftOut : CapturedFault → Prop}

/-- As long as the sequence numbers fit, later captures have larger ones. -/
theorem QueueSound.captures_increasing (hr : r.QueueSound)
    (hfew : (captures r.history).length < 2 ^ 64) :
    (captures r.history).Pairwise fun c d => c.sequence < d.sequence := by
  rw [← List.pairwise_map]
  apply hr.sequences.increasing
  rw [List.length_map, Nat.zero_add]
  exact Nat.le_of_lt hfew

theorem QueueSound.captures_nodup (hr : r.QueueSound)
    (hfew : (captures r.history).length < 2 ^ 64) : (captures r.history).Nodup := by
  apply (hr.captures_increasing hfew).imp
  rintro c d hlt rfl
  exact UInt64.lt_irrefl _ hlt

theorem QueueSound.takes_captured (hr : r.QueueSound) :
    (takes r.history).Sublist (captures r.history) := by
  rw [hr.queued]
  exact (takes_sublist r.history).trans (List.sublist_append_left _ _)

theorem QueueSound.takes_increasing (hr : r.QueueSound)
    (hfew : (captures r.history).length < 2 ^ 64) :
    (takes r.history).Pairwise fun c d => c.sequence < d.sequence :=
  (hr.captures_increasing hfew).sublist hr.takes_captured

theorem QueueSound.distinct (hr : r.QueueSound) (hfew : (captures r.history).length < 2 ^ 64) :
    Distinct r.history := (hr.captures_nodup hfew).sublist hr.takes_captured

/-- A captured fault waits, or was taken, or was dropped, and that once. -/
theorem QueueSound.count_places (hr : r.QueueSound) (c : CapturedFault) :
    r.queue.count c + (takes r.history).count c + (drops r.history).count c =
      (captures r.history).count c := by
  rw [hr.queued, List.count_append, count_departures]
  omega

theorem QueueSound.length_queue_le (hr : r.QueueSound) {most : Nat}
    (hmost : r.maxPending = some most) : r.queue.length ≤ most := by
  have hlimit := hr.limit
  unfold exceeds at hlimit
  rw [hmost] at hlimit
  simpa using hlimit

/-- As long as the handler numbers fit, no handler is installed twice. -/
theorem HandlersSound.installs_nodup (hr : r.HandlersSound)
    (hfew : (installs r.history).length < 2 ^ 64) : (installs r.history).Nodup := by
  have hincreasing := hr.numbers.increasing (by rw [List.length_map]; omega)
  rw [List.pairwise_map] at hincreasing
  apply hincreasing.imp
  rintro h k hlt rfl
  exact UInt64.lt_irrefl _ hlt

theorem HandlersSound.ready_nodup (hr : r.HandlersSound)
    (hfew : (installs r.history).length < 2 ^ 64) {past : List RelayEvent}
    (hpast : past <:+ r.history) : (ready past).Nodup := by
  have hinstalls := (hr.installs_nodup hfew).sublist (told_of_suffix _ hpast).sublist
  exact (hinstalls.sublist (installed_sublist past)).filter _

end Relay

/-! ## The law -/

/-- A relay of fewer than 2^64 captures. Its queue is within the limit; each
captured fault waits, or was taken, or was dropped, and that once; takes
follow the sequence numbers; and a fault that was taken is shown, in turn, to
those who were ready, each once while no handler number is given out twice,
and has been shown to all of them unless it is being shown now. -/
structure Relay.Conserves (r : Relay) : Prop where
  limit : ∀ most, r.maxPending = some most → r.queue.length ≤ most
  places : ∀ c ∈ captures r.history,
    r.queue.count c + (takes r.history).count c + (drops r.history).count c = 1
  in_sequence : (takes r.history).Pairwise fun c d => c.sequence < d.sequence
  fan_out : ∀ c past, .taken c :: past <:+ r.history →
    shownTo c r.history <+: ready past ∧
      (c ∉ (working r.history).map (·.2) → shownTo c r.history = ready past)
  once : (installs r.history).length < 2 ^ 64 →
    ∀ past, past <:+ r.history → (ready past).Nodup

theorem Relay.Sound.conserves {r : Relay} (hr : r.Sound nothing)
    (hfew : (captures r.history).length < 2 ^ 64) : r.Conserves where
  limit _ hmost := hr.queue.length_queue_le hmost
  places c hc := by
    rw [hr.queue.count_places]
    exact List.count_eq_one_of_mem (hr.queue.captures_nodup hfew) hc
  in_sequence := hr.queue.takes_increasing hfew
  fan_out c past hc :=
    have hdistinct := hr.queue.distinct hfew
    ⟨hr.order.lawful.shownTo_in_turn hdistinct hc,
      hr.order.settled hdistinct c past hc not_false⟩
  once hinstalls _ hpast := hr.handlers.ready_nodup hinstalls hpast

/-- Every relay conserves its faults at every moment. What is reported as
dropped or unhandled, at error level, is what relays dropped or took with
nobody ready. And a drain gives the number of faults that it took itself, or
the faults of the handlers that it called, in that order; it captures
nothing. The drain of a bridge prepares only what relays have nothing to do
with. -/
theorem relay_conservation {s : World τ} {g : Guest (Outside τ)} (h : s.Reached .any)
    (hg : g.IsOutside .any) (id : RelayId) :
    ((s.relay id).handlers.map (·.id) = installed (s.relay id).history ∧
      (s.relay id).running = (working (s.relay id).history).map (·.1)) ∧
    ((captures (s.relay id).history).length < 2 ^ 64 → (s.relay id).Conserves) ∧
    (∀ c : CapturedFault,
      s.notices.count (.queueFull c) =
          weigh (fun r => (drops r.history).count c) s.relays.toList ∧
        s.notices.count (.unhandled c) =
          weigh (fun r => (unclaimed r.history).count c) s.relays.toList ∧
        (Notice.queueFull c).logLine?.map (·.1) = some .error ∧
        (Notice.unhandled c).logLine?.map (·.1) = some .error) ∧
    ∀ t, Aside s t →
      let done := (runPending g id).run.run t
      let level := working (s.relay id).history
      ∃ own, eventsAt level (done.2.relay id).history = own ++ eventsAt level (s.relay id).history ∧
        captures own = [] ∧
        done.1 = if failures own = [] then .ok (takes own).length
          else .error (.handlerFailures (failures own)) := by
  have hs := h.chronicled
  have hsound : (s.relay id).Sound nothing := hs.now.sound id
  refine ⟨⟨hsound.handlers.handlers, hsound.handlers.running⟩, hsound.conserves, ?_, ?_⟩
  · intro c
    refine ⟨?_, ?_, rfl, rfl⟩
    · exact (List.count_filter rfl).symm.trans (hs.now.dropped c)
    · exact (List.count_filter rfl).symm.trans (hs.now.unclaimed c)
  · intro t haside
    obtain ⟨ht, -⟩ := Advances.aside haside hs
    obtain ⟨-, -, count, faults, ⟨own, hown, hcaptures, rfl, rfl⟩, hanswer⟩ :=
      runPending_drains hg.advances id ht
    have hrelay : t.relay id = s.relay id := by
      rw [← RelayLog.relay_relayLog, haside.log, RelayLog.relay_relayLog]
    rw [hrelay] at hown
    exact ⟨own, hown, hcaptures, hanswer⟩

/-! ## A small run -/

namespace Sample

/-- Code that gives the plainest answers, and whose drains are not cut
short. -/
def patient (σ : Type) : Guest σ := { Guest.idle σ with patience := 8 }

/-- Code whose relay handlers carry out deeds, and stay. -/
def acting (deeds : FaultFunction → List (Deed Unit)) : Guest (Outside Unit) :=
  { patient (Outside Unit) with
    takeFault := fun f _ => do
      modify (carryOut (patient _) (deeds f))
      return .ok true }

theorem patient_isOutside (c : Conduct) : (patient (Outside Unit)).IsOutside c where
  call _ _ x := .rest x
  native _ _ _ x := .rest x
  sink _ _ x := .rest x
  takeFault _ _ x := .rest x
  marshalArgument _ _ _ _ x := .rest x
  marshalResult _ _ _ _ x := .rest x

theorem acting_isOutside {c : Conduct} {deeds : FaultFunction → List (Deed Unit)}
    (hfree : ∀ f, (deeds f).all Deed.isFree = true) : (acting deeds).IsOutside c where
  call _ _ x := .rest x
  native _ _ _ x := .rest x
  sink _ _ x := .rest x
  takeFault f _ x := Moves.carryOut (patient_isOutside c) (hfree f) x
  marshalArgument _ _ _ _ x := .rest x
  marshalResult _ _ _ _ x := .rest x

def relay : RelayId := ⟨0⟩

/-- A relay with two handlers, and a fault that waits. -/
def relayDeeds : List (Deed Unit) :=
  [.arrange (.newRelay (some 2)), .arrange (.install relay ⟨0⟩), .arrange (.install relay ⟨1⟩),
    .capture relay (.ofMessage "first") "x" bridge]

def queued : World Unit := carryOut (.idle _) relayDeeds (.start ())

theorem moves_queued (c : Conduct) : Moves c (World.start ()) queued :=
  Moves.carryOut Guest.idle_isOutside rfl _

theorem queued_reached (c : Conduct) : queued.Reached c := (moves_queued c).reached

/-- The relay is drained with handlers that act. -/
def drained (deeds : FaultFunction → List (Deed Unit)) : World Unit :=
  (((Deed.drain relay).perform (acting deeds)).run queued).2

theorem drained_reached {c : Conduct} {deeds : FaultFunction → List (Deed Unit)}
    (hacting : (acting deeds).IsOutside c) : (drained deeds).Reached c :=
  ((moves_queued c).trans (Moves.deed hacting (Deed.allowed_of_isFree rfl c queued))).reached

/-- The first handler captures another fault, and drains in its turn. -/
def again : FaultFunction → List (Deed Unit)
  | ⟨0⟩ => [.capture relay (.ofMessage "second") "x" bridge, .drain relay]
  | _ => []

theorem again_isOutside (c : Conduct) : (acting again).IsOutside c := by
  apply acting_isOutside
  rintro ⟨_ | n⟩ <;> rfl

end Sample

/-- Both faults are taken, one by the drain itself, and one by the drain of
the handler. -/
theorem sample_relay_conservation :
    let done := (runPending (Sample.acting Sample.again) Sample.relay).run.run Sample.queued
    (takes (done.2.relay Sample.relay).history).length = 2 ∧ done.1 = .ok 1 ∧
      (Sample.queued.relay Sample.relay).Conserves ∧
      ∃ own, eventsAt [] (done.2.relay Sample.relay).history = own ++
          eventsAt [] (Sample.queued.relay Sample.relay).history ∧
        captures own = [] ∧ failures own = [] ∧ (takes own).length = 1 := by
  have hfew : (captures (Sample.queued.relay Sample.relay).history).length < 2 ^ 64 := by
    decide +kernel
  have hanswer : ((runPending (Sample.acting Sample.again) Sample.relay).run.run
      Sample.queued).1 = .ok 1 := by
    rfl
  obtain ⟨-, hconserves, -, hdrains⟩ :=
    relay_conservation (Sample.queued_reached .any) (Sample.again_isOutside .any) Sample.relay
  obtain ⟨own, hown, hcaptures, hgiven⟩ := hdrains Sample.queued ⟨rfl, rfl⟩
  refine ⟨by decide +kernel, hanswer, hconserves hfew, own, hown, hcaptures, ?_⟩
  rw [hanswer] at hgiven
  split at hgiven
  · rename_i hnone
    exact ⟨hnone, (Except.ok.inj hgiven).symm⟩
  · exact absurd hgiven (by simp)

end NativeBridge
