-- The order in which handlers get faults. A handler gets a later capture
-- before an earlier one exactly when it gets the later one from a drain that
-- runs inside the showing of the earlier one.
import NativeBridge.Proofs.RelayConservation

namespace NativeBridge

open History

/-! ## Takes and sequence numbers -/

namespace Relay

variable {r : Relay} {c d : CapturedFault} {past before : List RelayEvent}

/-- A fault that had been taken when another one was taken has the smaller
sequence number. -/
theorem QueueSound.lt_of_taken_before (hr : r.QueueSound)
    (hfew : (captures r.history).length < 2 ^ 64) (hd : .taken d :: past <:+ r.history)
    (hc : c ∈ takes past) : c.sequence < d.sequence := by
  have hincreasing := (hr.takes_increasing hfew).sublist (told_of_suffix _ hd).sublist
  simp only [told_cons, RelayEvent.taken?, Option.toList_some] at hincreasing
  exact (List.pairwise_append.mp hincreasing).2.2 c hc d List.mem_cons_self

/-- Of two faults taken, the one with the smaller number was taken before. -/
theorem QueueSound.taken_before_of_lt (hr : r.QueueSound)
    (hfew : (captures r.history).length < 2 ^ 64) (hc : .taken c :: past <:+ r.history)
    (hd : .taken d :: before <:+ r.history) (hlt : c.sequence < d.sequence) :
    .taken c :: past <:+ before := by
  have hne : c ≠ d := by
    rintro rfl
    exact UInt64.lt_irrefl _ hlt
  rcases take_before_or hc hd hne with hfirst | hsecond
  · exact hfirst
  · have hgt := hr.lt_of_taken_before hfew hc (mem_takes.mpr (mem_of_past hsecond))
    exact absurd hlt (UInt64.lt_asymm hgt)

theorem QueueSound.eq_of_sequence (hr : r.QueueSound)
    (hfew : (captures r.history).length < 2 ^ 64) (hc : c ∈ takes r.history)
    (hd : d ∈ takes r.history) (heq : c.sequence = d.sequence) : c = d := by
  have hnumbers : ((takes r.history).map (·.sequence)).Nodup := by
    apply List.pairwise_map.mpr
    exact (hr.takes_increasing hfew).imp UInt64.ne_of_lt
  exact List.inj_on_of_nodup_map hnumbers hc hd heq

end Relay

/-! ## Which fault comes first -/

section

variable {r : Relay} {h k : RelayHandlerId} {c d : CapturedFault}
  {later earlier : List RelayEvent}

/-- A fault at work was taken before the one that a handler gets now. -/
theorem Relay.Sound.lt_of_working (hr : r.Sound nothing)
    (hfew : (captures r.history).length < 2 ^ 64) (hd : .shown h d :: earlier <:+ r.history)
    (hc : (k, c) ∈ working earlier) : c.sequence < d.sequence := by
  have hmay : MayShow h d earlier := hr.order.lawful _ _ hd
  obtain ⟨past, hpast, hlevel, -⟩ := hmay.taken
  have htaken : .taken d :: past <:+ r.history := hpast.trans (past_suffix hd)
  rw [← hlevel] at hc
  have hlawful := hr.order.lawful.past (past_suffix htaken)
  exact hr.queue.lt_of_taken_before hfew htaken (mem_takes.mpr (hlawful.taken_of_working hc))

/-- A fault that has been shown to all is shown to nobody later. -/
theorem Relay.Sound.working_of_lt (hr : r.Sound nothing)
    (hfew : (captures r.history).length < 2 ^ 64) (hc : .shown k c :: later <:+ r.history)
    (hd : .shown h d :: earlier <:+ later) (hlt : c.sequence < d.sequence) :
    c ∈ (working earlier).map (·.2) := by
  have hdistinct := hr.queue.distinct hfew
  have hd' : .shown h d :: earlier <:+ r.history := hd.trans (past_suffix hc)
  have hmay : MayShow k c later := hr.order.lawful _ _ hc
  have hmay' : MayShow h d earlier := hr.order.lawful _ _ hd'
  obtain ⟨before, hbefore, -, -, hnext⟩ := hmay.taken
  obtain ⟨past, hpast, -⟩ := hmay'.taken
  by_contra hfree
  have hfirst : .taken c :: before <:+ past :=
    hr.queue.taken_before_of_lt hfew (hbefore.trans (past_suffix hc))
      (hpast.trans (past_suffix hd')) hlt
  have hearlier : .taken c :: before <:+ earlier := hfirst.trans (past_suffix hpast)
  have hne : c ≠ d := by
    rintro rfl
    exact UInt64.lt_irrefl _ hlt
  have hall : shownTo c earlier = ready before :=
    hmay'.others (hdistinct.past (past_suffix hd')) c before hearlier hne hfree
  -- one more showing would be one too many
  have hprefix : shownTo c later ++ [k] <+: ready before := hnext (hdistinct.past (past_suffix hc))
  have hgrown := (told_of_suffix (RelayEvent.shown? c) (past_suffix hd)).length_le
  have hlength := hprefix.length_le
  rw [List.length_append, List.length_singleton, ← hall] at hlength
  exact absurd hlength (Nat.not_le_of_gt (Nat.lt_succ_of_le hgrown))

/-- No handler gets a fault twice, while no handler number is given out
twice. -/
theorem Relay.Sound.not_shown_again (hr : r.Sound nothing)
    (hfew : (captures r.history).length < 2 ^ 64) (hinstalls : (installs r.history).length < 2 ^ 64)
    (hc : .shown h c :: later <:+ r.history) : .shown h c ∉ later := by
  intro hagain
  have hmay : MayShow h c later := hr.order.lawful _ _ hc
  obtain ⟨before, hbefore, -, -, hnext⟩ := hmay.taken
  have hprefix := hnext ((hr.queue.distinct hfew).past (past_suffix hc))
  have hsuffix : before <:+ r.history := (past_suffix hbefore).trans (past_suffix hc)
  have hnodup := (hr.handlers.ready_nodup hinstalls hsuffix).sublist hprefix.sublist
  exact List.disjoint_of_nodup_append hnodup (mem_shownTo.mpr hagain) List.mem_cons_self

end

/-! ## The law -/

/-- A handler gets one fault, and another one later, from a relay of fewer
than 2^64 captures. The later one was captured before the other exactly when
some handler was at work on it when the other came. While no handler number
is given out twice, they are never the same. -/
theorem delivery_order_iff {m : System Ledger} (hm : Reachable .any m) (id : RelayId)
    (hfew : (captures (m.relay id).history).length < 2 ^ 64) {h : RelayHandlerId}
    {c d : CapturedFault} {later earlier : List RelayEvent}
    (hc : .shown h c :: later <:+ (m.relay id).history) (hd : .shown h d :: earlier <:+ later) :
    (c.sequence < d.sequence ↔ ∃ k, (k, c) ∈ working earlier) ∧
      ((installs (m.relay id).history).length < 2 ^ 64 → c.sequence ≠ d.sequence) := by
  have hr : (m.relay id).Sound nothing := hm.orderly.sound id
  have hd' : .shown h d :: earlier <:+ (m.relay id).history := hd.trans (past_suffix hc)
  refine ⟨⟨?_, ?_⟩, ?_⟩
  · intro hlt
    obtain ⟨p, hp, rfl⟩ := List.mem_map.mp (hr.working_of_lt hfew hc hd hlt)
    exact ⟨p.1, hp⟩
  · rintro ⟨k, hk⟩
    exact hr.lt_of_working hfew hd' hk
  · intro hinstalls heq
    have htaken : ∀ {x : CapturedFault} {past : List RelayEvent},
        .shown h x :: past <:+ (m.relay id).history → x ∈ takes (m.relay id).history := fun hx =>
      mem_takes.mpr (hr.order.lawful.taken_of_shown (mem_of_past hx))
    obtain rfl := hr.queue.eq_of_sequence hfew (htaken hc) (htaken hd') heq
    exact hr.not_shown_again hfew hinstalls hc (mem_of_past hd)

/-- The first handler drains inside the showing of the first fault, and so
the second handler gets the second fault before the first. -/
theorem sample_delivery_order :
    let first : CapturedFault := ⟨.ofMessage "first", "x", Sample.bridge, 0⟩
    let second : CapturedFault := ⟨.ofMessage "second", "x", Sample.bridge, 1⟩
    let history := ((Sample.drained Sample.again).moment.relay Sample.relay).history
    ∃ later earlier, .shown ⟨2⟩ first :: later <:+ history ∧
      .shown ⟨2⟩ second :: earlier <:+ later ∧ first.sequence < second.sequence ∧
      ∃ k, (k, first) ∈ working earlier := by
  intro first second history
  have hfew : (captures history).length < 2 ^ 64 := by decide +kernel
  have hlater : history.drop 1 = .shown ⟨2⟩ first :: history.drop 2 := by decide +kernel
  have hearlier : (history.drop 2).drop 2 = .shown ⟨2⟩ second :: history.drop 5 := by
    decide +kernel
  have hc : .shown ⟨2⟩ first :: history.drop 2 <:+ history := by
    rw [← hlater]
    exact List.drop_suffix 1 history
  have hd : .shown ⟨2⟩ second :: history.drop 5 <:+ history.drop 2 := by
    rw [← hearlier]
    exact List.drop_suffix 2 (history.drop 2)
  have hlt : first.sequence < second.sequence := by decide
  have hiff := delivery_order_iff (Sample.drained_reached (Sample.again_isOutside .any)).now
    Sample.relay hfew hc hd
  exact ⟨_, _, hc, hd, hlt, hiff.1.mp hlt⟩

end NativeBridge
