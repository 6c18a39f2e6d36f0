-- What each operation of a relay keeps. The queue holds what was captured
-- and has not left, the handlers and the running ones are those of the
-- history, and the history stays in order.
import NativeBridge.Proofs.HistorySteps

namespace NativeBridge

open History

/-! ## Numbers given out in turn -/

/-- Numbers counted up from the first one. -/
def Numbered (first : Nat) (numbers : List UInt64) : Prop :=
  numbers = (List.range numbers.length).map fun n => UInt64.ofNat (first + n)

namespace Numbered

variable {first : Nat} {numbers : List UInt64}

theorem nil : Numbered first [] := rfl

theorem snoc (h : Numbered first numbers) :
    Numbered first (numbers ++ [UInt64.ofNat (first + numbers.length)]) := by
  unfold Numbered at h ⊢
  rw [List.length_append, List.length_singleton, List.range_succ, List.map_append, ← h]
  rfl

/-- As long as they fit, the numbers go up. -/
theorem increasing (h : Numbered first numbers) (hfew : first + numbers.length ≤ 2 ^ 64) :
    numbers.Pairwise (· < ·) := by
  unfold Numbered at h
  rw [h, List.pairwise_map]
  apply List.pairwise_lt_range.imp_of_mem
  intro m n hm hn hlt
  rw [List.mem_range] at hm hn
  have hfits : ∀ k < numbers.length, first + k < UInt64.size := by
    intro k hk
    exact lt_of_lt_of_le (Nat.add_lt_add_left hk first) hfew
  rw [UInt64.lt_iff_toNat_lt, UInt64.toNat_ofNat_of_lt' (hfits m hm),
    UInt64.toNat_ofNat_of_lt' (hfits n hn)]
  exact Nat.add_lt_add_left hlt first

end Numbered

namespace Relay

/-! ## The laws of one relay -/

/-- The queue holds what was captured and has not left, within the limit. -/
structure QueueSound (r : Relay) : Prop where
  limit : r.exceeds r.queue.length = false
  queued : captures r.history = departures r.history ++ r.queue
  sequences : Numbered 0 ((captures r.history).map (·.sequence))
  next : r.nextSequence = UInt64.ofNat (captures r.history).length

/-- The handlers and the running ones are those of the history. -/
structure HandlersSound (r : Relay) : Prop where
  handlers : r.handlers.map (·.id) = installed r.history
  numbers : Numbered 1 ((installs r.history).map (·.number))
  next : r.nextHandler = UInt64.ofNat (1 + (installs r.history).length)
  running : r.running = (working r.history).map (·.1)

/-- A relay that keeps the laws, with some faults not shown to all yet. -/
structure Sound (leftOut : CapturedFault → Prop) (r : Relay) : Prop where
  queue : r.QueueSound
  handlers : r.HandlersSound
  order : InOrder leftOut r.history

variable {r r' : Relay} {leftOut : CapturedFault → Prop} {h : RelayHandlerId} {c : CapturedFault}

theorem withLimit_sound (maxPending : Option Nat) : (withLimit maxPending).Sound leftOut where
  queue := by
    refine ⟨?_, rfl, Numbered.nil, rfl⟩
    cases maxPending with
    | none => rfl
    | some most => exact decide_eq_false (Nat.not_lt_zero most)
  handlers := ⟨rfl, Numbered.nil, rfl, rfl⟩
  order := InOrder.nil

theorem HandlersSound.isInstalled_iff (hr : r.HandlersSound) :
    r.isInstalled h = true ↔ h ∈ installed r.history := by
  rw [← hr.handlers]
  simp [isInstalled]

theorem HandlersSound.isRunning_iff (hr : r.HandlersSound) :
    r.isRunning h = true ↔ h ∈ (working r.history).map (·.1) := by
  rw [← hr.running]
  simp [isRunning]

/-- A handler is ready when it is not at work. -/
theorem HandlersSound.mem_ready (hr : r.HandlersSound) {k : InstalledHandler}
    (hk : k ∈ r.handlers) : k.id ∈ ready r.history ↔ k.id ∉ (working r.history).map (·.1) := by
  have hin : k.id ∈ installed r.history := by
    rw [← hr.handlers]
    exact List.mem_map_of_mem hk
  unfold ready
  simp [hin]

/-- When nobody is ready, all handlers are at work. -/
theorem HandlersSound.isRunning_of_ready (hr : r.HandlersSound) (hready : ready r.history = [])
    {k : InstalledHandler} (hk : k ∈ r.handlers) : r.isRunning k.id = true := by
  rw [hr.isRunning_iff]
  by_contra hfree
  have hmem := (hr.mem_ready hk).mpr hfree
  rw [hready] at hmem
  exact List.not_mem_nil hmem

/-- When someone is ready, there is a handler that is not at work. -/
theorem HandlersSound.exists_free (hr : r.HandlersSound) (hready : ready r.history ≠ []) :
    ∃ k ∈ r.handlers, k.id ∉ (working r.history).map (·.1) := by
  obtain ⟨h, hh⟩ := List.exists_mem_of_ne_nil _ hready
  have hin := List.mem_of_mem_filter hh
  rw [← hr.handlers] at hin
  obtain ⟨k, hk, rfl⟩ := List.mem_map.mp hin
  exact ⟨k, hk, (hr.mem_ready hk).mp hh⟩

/-- What the queue does not tell about may change. -/
theorem QueueSound.of_eq (hr : r.QueueSound) (hqueue : r'.queue = r.queue)
    (hlimit : r'.maxPending = r.maxPending) (hnext : r'.nextSequence = r.nextSequence)
    (hcaptures : captures r'.history = captures r.history)
    (hdepartures : departures r'.history = departures r.history) : r'.QueueSound where
  limit := by
    have hsame : r'.exceeds = r.exceeds := by
      unfold exceeds
      rw [hlimit]
    rw [hsame, hqueue]
    exact hr.limit
  queued := by rw [hcaptures, hdepartures, hqueue, hr.queued]
  sequences := by
    rw [hcaptures]
    exact hr.sequences
  next := by rw [hnext, hcaptures, hr.next]

/-- What the handlers do not tell about may change. -/
theorem HandlersSound.of_eq (hr : r.HandlersSound) (hhandlers : r'.handlers = r.handlers)
    (hnext : r'.nextHandler = r.nextHandler) (hrunning : r'.running = r.running)
    (hinstalled : installed r'.history = installed r.history)
    (hinstalls : installs r'.history = installs r.history)
    (hworking : working r'.history = working r.history) : r'.HandlersSound where
  handlers := by rw [hhandlers, hinstalled, hr.handlers]
  numbers := by
    rw [hinstalls]
    exact hr.numbers
  next := by rw [hnext, hinstalls, hr.next]
  running := by rw [hrunning, hworking, hr.running]

/-! ## Capturing -/

/-- The fault as it is captured now. -/
def sealed (r : Relay) (fault : Fault) (origin : String) (runtime : RuntimeId) : CapturedFault :=
  ⟨fault, origin, runtime, r.nextSequence⟩

/-- The relay when a fault has come in, and nothing has been dropped. -/
def enqueue (r : Relay) (c : CapturedFault) : Relay :=
  { r with
    nextSequence := r.nextSequence + 1
    queue := r.queue ++ [c]
    history := .captured c :: r.history }

/-- The relay when its oldest fault has been dropped. -/
def dropOldest (r : Relay) (oldest : CapturedFault) : Relay :=
  { r with queue := r.queue.tail, history := .dropped oldest :: r.history }

/-- A capture drops the oldest fault, if there are too many then. -/
theorem capture_eq (r : Relay) (fault : Fault) (origin : String) (runtime : RuntimeId) :
    let c := r.sealed fault origin runtime
    let oldest := r.queue.headD c
    r.capture fault origin runtime =
      if r.exceeds (r.queue ++ [c]).length then
        (c.sequence, some oldest, (r.enqueue c).dropOldest oldest)
      else (c.sequence, none, r.enqueue c) := rfl

theorem QueueSound.sequences_snoc (hr : r.QueueSound) (hc : c.sequence = r.nextSequence) :
    Numbered 0 (((captures r.history) ++ [c]).map (·.sequence)) := by
  have hnext : c.sequence = UInt64.ofNat (0 + ((captures r.history).map (·.sequence)).length) := by
    rw [hc, hr.next, List.length_map, Nat.zero_add]
  rw [List.map_append, List.map_singleton, hnext]
  exact hr.sequences.snoc

/-- A capture that finds room. -/
theorem QueueSound.enqueue (hr : r.QueueSound) (hc : c.sequence = r.nextSequence)
    (hroom : r.exceeds (r.queue ++ [c]).length = false) : (r.enqueue c).QueueSound where
  limit := hroom
  queued := by
    simp [Relay.enqueue, RelayEvent.captured?, RelayEvent.left?, hr.queued]
  sequences := by
    simpa [Relay.enqueue, RelayEvent.captured?] using hr.sequences_snoc hc
  next := by
    simp [Relay.enqueue, RelayEvent.captured?, hr.next]

/-- A capture that finds no room: the oldest fault goes. -/
theorem QueueSound.enqueue_dropOldest (hr : r.QueueSound) (hc : c.sequence = r.nextSequence) :
    ((r.enqueue c).dropOldest (r.queue.headD c)).QueueSound where
  limit := by
    have hlength : (r.queue ++ [c]).tail.length = r.queue.length := by simp
    have hlimit := hr.limit
    rw [← hlength] at hlimit
    exact hlimit
  queued := by
    have hsplit : r.queue ++ [c] = r.queue.headD c :: (r.queue ++ [c]).tail := by
      cases r.queue <;> rfl
    simp only [Relay.enqueue, dropOldest, told_cons, RelayEvent.captured?, RelayEvent.left?,
      Option.toList_some, Option.toList_none, List.append_nil, hr.queued, List.append_assoc]
    rw [hsplit]
    rfl
  sequences := by
    simpa [Relay.enqueue, dropOldest, RelayEvent.captured?] using hr.sequences_snoc hc
  next := by
    simp [Relay.enqueue, dropOldest, RelayEvent.captured?, hr.next]

/-- A capture keeps the laws. -/
theorem Sound.capture (hr : r.Sound leftOut) (fault : Fault) (origin : String)
    (runtime : RuntimeId) : (r.capture fault origin runtime).2.2.Sound leftOut := by
  rw [capture_eq]
  split
  · refine ⟨hr.queue.enqueue_dropOldest rfl, hr.handlers.of_eq rfl rfl rfl rfl ?_ rfl, ?_⟩
    · simp [enqueue, dropOldest, RelayEvent.installed?]
    · exact (hr.order.quiet (e := .captured _) trivial trivial).quiet trivial trivial
  · rename_i hroom
    rw [Bool.not_eq_true] at hroom
    refine ⟨hr.queue.enqueue rfl hroom, hr.handlers.of_eq rfl rfl rfl rfl ?_ rfl, ?_⟩
    · simp [enqueue, RelayEvent.installed?]
    · exact hr.order.quiet trivial trivial

theorem capture_grows (r : Relay) (fault : Fault) (origin : String) (runtime : RuntimeId) :
    Grows leftOut r.history (r.capture fault origin runtime).2.2.history := by
  rw [capture_eq]
  split
  · exact (Grows.quiet (e := .captured _) trivial).trans (Grows.quiet trivial)
  · exact Grows.quiet trivial

theorem captures_capture (r : Relay) (fault : Fault) (origin : String) (runtime : RuntimeId) :
    captures (r.capture fault origin runtime).2.2.history =
      captures r.history ++ [r.sealed fault origin runtime] := by
  rw [capture_eq]
  split <;> simp [enqueue, dropOldest, RelayEvent.captured?]

theorem drops_capture (r : Relay) (fault : Fault) (origin : String) (runtime : RuntimeId) :
    drops (r.capture fault origin runtime).2.2.history =
      drops r.history ++ (r.capture fault origin runtime).2.1.toList := by
  rw [capture_eq]
  split <;> simp [enqueue, dropOldest, RelayEvent.dropped?]

theorem unclaimed_capture (r : Relay) (fault : Fault) (origin : String) (runtime : RuntimeId) :
    unclaimed (r.capture fault origin runtime).2.2.history = unclaimed r.history := by
  rw [capture_eq]
  split <;> rfl

/-- Without a limit nothing is dropped. -/
theorem capture_unlimited (hr : r.maxPending = none) (fault : Fault) (origin : String)
    (runtime : RuntimeId) : (r.capture fault origin runtime).2.1 = none := by
  have hroom : ∀ length, r.exceeds length = false := by
    intro length
    unfold exceeds
    rw [hr]
  rw [capture_eq, hroom]
  rfl

/-! ## Installing and uninstalling -/

theorem Sound.install (hr : r.Sound leftOut) (function : FaultFunction) :
    (r.install function).2.Sound leftOut where
  queue := by
    refine hr.queue.of_eq rfl rfl rfl ?_ ?_
    · simp [Relay.install, RelayEvent.captured?]
    · simp [Relay.install, RelayEvent.left?]
  handlers := by
    have hsnoc := hr.handlers.numbers.snoc
    rw [List.length_map, ← hr.handlers.next] at hsnoc
    refine ⟨?_, ?_, ?_, hr.handlers.running⟩
    · simp [Relay.install, installed, hr.handlers.handlers]
    · simpa [Relay.install, RelayEvent.installed?] using hsnoc
    · simp [Relay.install, RelayEvent.installed?, hr.handlers.next, UInt64.add_assoc]
  order := hr.order.quiet trivial trivial

theorem QueueSound.uninstall (hr : r.QueueSound) (h : RelayHandlerId) :
    (r.uninstall h).QueueSound := by
  unfold Relay.uninstall
  split
  · refine hr.of_eq rfl rfl rfl ?_ ?_
    · simp [RelayEvent.captured?]
    · simp [RelayEvent.left?]
  · exact hr

theorem HandlersSound.uninstall (hr : r.HandlersSound) (h : RelayHandlerId) :
    (r.uninstall h).HandlersSound := by
  unfold Relay.uninstall
  split
  · refine ⟨?_, ?_, ?_, hr.running⟩
    · simp only [installed, ← hr.handlers, List.filter_map]
      rfl
    · simpa [RelayEvent.installed?] using hr.numbers
    · simpa [RelayEvent.installed?] using hr.next
  · exact hr

theorem history_uninstall (hinstalled : r.isInstalled h = true) :
    (r.uninstall h).history = .uninstalled h :: r.history := by
  simp only [uninstall, hinstalled, if_true]

theorem history_uninstall_of_not (hinstalled : r.isInstalled h = false) :
    (r.uninstall h).history = r.history := by
  simp [uninstall, hinstalled]

theorem Sound.uninstall (hr : r.Sound leftOut) (h : RelayHandlerId) :
    (r.uninstall h).Sound leftOut where
  queue := hr.queue.uninstall h
  handlers := hr.handlers.uninstall h
  order := by
    cases hinstalled : r.isInstalled h with
    | true =>
      rw [history_uninstall hinstalled]
      exact hr.order.quiet trivial (hr.handlers.isInstalled_iff.mp hinstalled)
    | false =>
      rw [history_uninstall_of_not hinstalled]
      exact hr.order

theorem drops_uninstall (r : Relay) (h : RelayHandlerId) :
    drops (r.uninstall h).history = drops r.history := by
  unfold Relay.uninstall
  split
  · simp [RelayEvent.dropped?]
  · rfl

theorem unclaimed_uninstall (r : Relay) (h : RelayHandlerId) :
    unclaimed (r.uninstall h).history = unclaimed r.history := by
  unfold Relay.uninstall
  split <;> rfl

theorem uninstall_grows (r : Relay) (h : RelayHandlerId) :
    Grows leftOut r.history (r.uninstall h).history := by
  unfold Relay.uninstall
  split
  · exact Grows.quiet trivial
  · exact Grows.refl _

/-! ## Draining -/

/-- The relay when a fault has been taken out of its queue. -/
def takeOldest (r : Relay) (c : CapturedFault) : Relay :=
  { r with queue := r.queue.tail, history := .taken c :: r.history }

theorem pop?_eq_some {rest : Relay} (h : r.pop? = some (c, rest)) :
    r.queue = c :: r.queue.tail ∧ rest = r.takeOldest c := by
  unfold pop? at h
  split at h
  · exact absurd h (by simp)
  · rename_i oldest queue hqueue
    simp only [Option.some.injEq, Prod.mk.injEq] at h
    obtain ⟨rfl, rfl⟩ := h
    exact ⟨by rw [hqueue]; rfl, by rw [takeOldest, hqueue]; rfl⟩

theorem QueueSound.takeOldest (hr : r.QueueSound) (hqueue : r.queue = c :: r.queue.tail) :
    (r.takeOldest c).QueueSound where
  limit := by
    have hlimit := hr.limit
    rw [hqueue] at hlimit
    revert hlimit
    unfold exceeds Relay.takeOldest
    cases r.maxPending with
    | none => exact id
    | some most =>
      simp only [List.length_cons, decide_eq_false_iff_not]
      omega
  queued := by
    have hqueued := hr.queued
    rw [hqueue] at hqueued
    simp [Relay.takeOldest, RelayEvent.captured?, RelayEvent.left?, hqueued]
  sequences := by simpa [Relay.takeOldest, RelayEvent.captured?] using hr.sequences
  next := by simpa [Relay.takeOldest, RelayEvent.captured?] using hr.next

theorem HandlersSound.takeOldest (hr : r.HandlersSound) : (r.takeOldest c).HandlersSound := by
  refine hr.of_eq rfl rfl rfl rfl ?_ rfl
  simp [Relay.takeOldest, RelayEvent.installed?]

theorem drops_takeOldest (r : Relay) (c : CapturedFault) :
    drops (r.takeOldest c).history = drops r.history := by
  simp [Relay.takeOldest, RelayEvent.dropped?]

theorem unclaimed_takeOldest (r : Relay) (c : CapturedFault) :
    unclaimed (r.takeOldest c).history =
      unclaimed r.history ++ if ready r.history = [] then [c] else [] := rfl

/-- A fault is taken, and it is to be shown. -/
theorem Sound.takeOldest (hr : r.Sound nothing) (hqueue : r.queue = c :: r.queue.tail) :
    (r.takeOldest c).Sound (· = c) :=
  ⟨hr.queue.takeOldest hqueue, hr.handlers.takeOldest, hr.order.take⟩

theorem Sound.start (hr : r.Sound (· = c)) (hmay : MayShow h c r.history) :
    (r.start h c).Sound nothing where
  queue := by
    refine hr.queue.of_eq rfl rfl rfl ?_ ?_
    · simp [Relay.start, RelayEvent.captured?]
    · simp [Relay.start, RelayEvent.left?]
  handlers := by
    refine ⟨hr.handlers.handlers, ?_, ?_, ?_⟩
    · simpa [Relay.start, RelayEvent.installed?] using hr.handlers.numbers
    · simpa [Relay.start, RelayEvent.installed?] using hr.handlers.next
    · simp [Relay.start, working, hr.handlers.running]
  order := hr.order.show hmay

/-- A handler comes back, and is uninstalled if it asks to go. -/
def conclude (r : Relay) (h : RelayHandlerId) (answer : Except Fault Bool) : Relay :=
  if asksToGo answer then (r.finish h answer).uninstall h else r.finish h answer

section

variable {rest : List (RelayHandlerId × CapturedFault)} {answer : Except Fault Bool}

theorem QueueSound.finish (hr : r.QueueSound) : (r.finish h answer).QueueSound := by
  refine hr.of_eq rfl rfl rfl ?_ ?_ <;> cases answer <;>
    simp [Relay.finish, RelayEvent.ofAnswer, RelayEvent.captured?, RelayEvent.left?]

theorem HandlersSound.finish (hr : r.HandlersSound)
    (hworking : working r.history = (h, c) :: rest) : (r.finish h answer).HandlersSound := by
  have hinstalls : installs (r.finish h answer).history = installs r.history := by
    cases answer <;> simp [Relay.finish, RelayEvent.ofAnswer, RelayEvent.installed?]
  refine ⟨?_, ?_, ?_, ?_⟩
  · exact hr.handlers.trans (installed_ofAnswer answer).symm
  · rw [hinstalls]
    exact hr.numbers
  · rw [hinstalls]
    exact hr.next
  · have hrunning := hr.running
    simp only [Relay.finish, working_ofAnswer, hworking, hrunning, List.map_cons,
      List.erase_cons_head, List.tail_cons]

theorem asksToGo_eq_true (h : asksToGo answer = true) : answer = .ok false := by
  cases answer with
  | error fault => exact absurd h (by simp [asksToGo])
  | ok stays => simpa [asksToGo] using h

/-- A handler that asks to go comes back. -/
theorem InOrder.finish_uninstall (hr : r.Sound nothing)
    (hworking : working r.history = (h, c) :: rest) :
    InOrder (· = c) ((r.finish h (.ok false)).uninstall h).history := by
  have hhandlers : (r.finish h (.ok false)).HandlersSound := hr.handlers.finish hworking
  have hiff := hhandlers.isInstalled_iff (h := h)
  cases hinstalled : (r.finish h (.ok false)).isInstalled h with
  | true =>
    rw [history_uninstall hinstalled]
    exact hr.order.answerAndGo hworking (hiff.mp hinstalled)
  | false =>
    rw [history_uninstall_of_not hinstalled]
    apply hr.order.answer hworking
    intro _ hin
    rw [hiff.mpr hin] at hinstalled
    exact absurd hinstalled (by simp)

/-- A handler comes back from the fault that it was shown. -/
theorem Sound.conclude (hr : r.Sound nothing) (hworking : working r.history = (h, c) :: rest)
    (answer : Except Fault Bool) : (r.conclude h answer).Sound (· = c) := by
  have hqueue : (r.finish h answer).QueueSound := hr.queue.finish
  have hhandlers : (r.finish h answer).HandlersSound := hr.handlers.finish hworking
  unfold Relay.conclude
  split
  · rename_i hasks
    refine ⟨hqueue.uninstall h, hhandlers.uninstall h, ?_⟩
    obtain rfl := asksToGo_eq_true hasks
    exact InOrder.finish_uninstall hr hworking
  · rename_i hasks
    exact ⟨hqueue, hhandlers, hr.order.answer hworking fun h => absurd h hasks⟩

end

section

variable {past : List RelayEvent} {answer : Except Fault Bool}

theorem history_conclude (r : Relay) (h : RelayHandlerId) (answer : Except Fault Bool) :
    (r.conclude h answer).history = .ofAnswer h answer :: r.history ∨
      answer = .ok false ∧
        (r.conclude h answer).history = .uninstalled h :: .ofAnswer h answer :: r.history := by
  unfold conclude
  split
  · rename_i hasks
    obtain rfl := asksToGo_eq_true hasks
    cases hinstalled : (r.finish h (.ok false)).isInstalled h with
    | true => exact Or.inr ⟨rfl, history_uninstall hinstalled⟩
    | false => exact Or.inl (history_uninstall_of_not hinstalled)
  · exact Or.inl rfl

theorem suffix_conclude (r : Relay) (h : RelayHandlerId) (answer : Except Fault Bool) :
    r.history <:+ (r.conclude h answer).history := by
  rcases history_conclude r h answer with heq | ⟨-, heq⟩ <;> rw [heq]
  · exact List.suffix_cons _ _
  · exact (List.suffix_cons _ _).trans (List.suffix_cons _ _)

theorem conclude_grows (hgrows : Grows nothing (.shown h c :: past) r.history) :
    Grows (· = c) past (r.conclude h answer).history := by
  rcases history_conclude r h answer with heq | ⟨-, heq⟩ <;> rw [heq]
  · exact hgrows.around
  · exact hgrows.around.trans (Grows.quiet trivial)

theorem conclude_drained (hgrows : Grows nothing (.shown h c :: past) r.history) :
    Drained past (r.conclude h answer).history 0 (faultsOf answer) := by
  have haround : Drained past (.ofAnswer h answer :: r.history) 0 (faultsOf answer) :=
    .around hgrows
  rcases history_conclude r h answer with heq | ⟨-, heq⟩ <;> rw [heq]
  · exact haround
  · have hboth := haround.trans (Drained.uninstall _ h) hgrows.around.working
    rwa [List.append_nil] at hboth

theorem shownTo_conclude (r : Relay) (h : RelayHandlerId) (answer : Except Fault Bool)
    (d : CapturedFault) : shownTo d (r.conclude h answer).history = shownTo d r.history := by
  have hanswer : shownTo d (.ofAnswer h answer :: r.history) = shownTo d r.history :=
    shownTo_cons_of_none (shown?_ofAnswer answer d)
  rcases history_conclude r h answer with heq | ⟨-, heq⟩ <;> rw [heq]
  · exact hanswer
  · rw [shownTo_cons_of_none rfl, hanswer]

theorem drops_conclude (r : Relay) (h : RelayHandlerId) (answer : Except Fault Bool) :
    drops (r.conclude h answer).history = drops r.history := by
  rcases history_conclude r h answer with heq | ⟨-, heq⟩ <;> rw [heq] <;> cases answer <;>
    simp [RelayEvent.ofAnswer, RelayEvent.dropped?]

theorem unclaimed_conclude (r : Relay) (h : RelayHandlerId) (answer : Except Fault Bool) :
    unclaimed (r.conclude h answer).history = unclaimed r.history := by
  rcases history_conclude r h answer with heq | ⟨-, heq⟩ <;> rw [heq] <;> cases answer <;> rfl

end

end Relay

end NativeBridge
