-- Handlers that were dismissed. A drain shows a fault to those who were ready
-- when it took the fault, so a handler that is dismissed meanwhile may still
-- get that fault; but it gets none that is taken later.
import NativeBridge.Proofs.RelayConservation

namespace NativeBridge

open History

/-! ## The law -/

/-- A handler that was dismissed, and then gets a fault, had been installed
again before the fault was taken, or the fault was taken before. -/
theorem Relay.Sound.taken_before_dismissal {r : Relay} (hr : r.Sound nothing)
    {k : RelayHandlerId} {c : CapturedFault} {e : RelayEvent} {between past : List RelayEvent}
    (hshown : .shown k c :: (between ++ e :: past) <:+ r.history) (hgone : e.Dismisses k) :
    .taken c ∈ past ∨ .installed k ∈ between := by
  have hmay : MayShow k c (between ++ e :: past) := hr.order.lawful _ _ hshown
  obtain ⟨before, htaken, -, hready, -⟩ := hmay.taken
  have hinstalled : k ∈ installed before := List.mem_of_mem_filter hready
  have hretired : Retired before := hr.order.lawful _ _ (htaken.trans (past_suffix hshown))
  -- the fault was taken before the dismissal, or after it
  rcases List.suffix_or_suffix_of_suffix htaken (List.suffix_append between (e :: past)) with
    hle | hle
  · rcases List.suffix_cons_iff.mp hle with heq | hpast
    · rw [← (List.cons.inj heq).1] at hgone
      exact absurd hgone id
    · exact Or.inl (mem_of_past hpast)
  · rcases List.suffix_cons_iff.mp hle with heq | ⟨between', hbefore⟩
    · rw [(List.cons.inj heq).1] at hgone
      exact absurd hgone id
    · have hmem := hretired k between' e past hbefore.symm hgone hinstalled
      obtain ⟨first, hfirst⟩ := htaken
      rw [← hbefore, ← List.cons_append, ← List.append_assoc] at hfirst
      have hbetween := List.append_cancel_right hfirst
      rw [← hbetween]
      exact Or.inr (List.mem_append_right _ (List.mem_cons_of_mem _ hmem))

/-- While no handler number is given out twice, nobody who was dismissed is
installed again. -/
theorem Relay.Sound.not_installed_again {r : Relay} (hr : r.Sound nothing)
    (hfew : (installs r.history).length < 2 ^ 64) {k : RelayHandlerId} {e : RelayEvent}
    {between past : List RelayEvent} (hgone : e.Dismisses k)
    (hpast : between ++ e :: past <:+ r.history) : .installed k ∉ between := by
  intro hagain
  have hevent : e :: past <:+ r.history := (List.suffix_append between _).trans hpast
  have hfirst : k ∈ installs (e :: past) :=
    mem_installs.mpr (List.mem_cons_of_mem _ (hr.order.lawful.installed_of_dismisses hevent hgone))
  have hnodup := (hr.handlers.installs_nodup hfew).sublist (told_of_suffix _ hpast).sublist
  rw [told_append] at hnodup
  exact List.disjoint_of_nodup_append hnodup hfirst (mem_installs.mpr hagain)

namespace Sample

/-- The first handler uninstalls the second. -/
def removal : FaultFunction → List (Deed Unit)
  | ⟨0⟩ => [.arrange (.uninstall relay ⟨2⟩)]
  | _ => []

theorem removal_isOutside (c : Conduct) : (acting removal).IsOutside c := by
  apply acting_isOutside
  rintro ⟨_ | n⟩ <;> rfl

def first : CapturedFault := ⟨.ofMessage "first", "x", bridge, 0⟩

/-- What happened to the relay when the drain is done. -/
def removalHistory : List RelayEvent := ((drained removal).moment.relay relay).history

theorem removal_shown :
    .shown ⟨2⟩ first :: ([.answered ⟨1⟩ true] ++ .uninstalled ⟨2⟩ :: removalHistory.drop 4) <:+
      removalHistory := by
  have hdrop : .shown ⟨2⟩ first ::
      ([.answered ⟨1⟩ true] ++ .uninstalled ⟨2⟩ :: removalHistory.drop 4) =
        removalHistory.drop 1 := by decide +kernel
  rw [hdrop]
  exact List.drop_suffix 1 removalHistory

end Sample

/-- A handler that was uninstalled may still be called: the first handler
uninstalls the second, which then gets the same fault. -/
theorem uninstalled_handler_called : ¬ ∀ m, Reachable .any m →
    ∀ id k c past, .shown k c :: past <:+ (m.relay id).history → .uninstalled k ∉ past := by
  intro hsilent
  have hreached := Sample.drained_reached (Sample.removal_isOutside .any)
  apply hsilent _ hreached.now Sample.relay ⟨2⟩ Sample.first _ Sample.removal_shown
  exact List.mem_append_right _ List.mem_cons_self

/-- A handler was dismissed, by someone or because it asked to go, and then
gets a fault. The fault had been taken before, unless the number of the
handler has been given out again since; and that takes 2^64 installations. -/
theorem dismissed_handler_gets_no_later_fault {m : System Ledger} (hm : Reachable .any m)
    (id : RelayId) {k : RelayHandlerId} {c : CapturedFault} {e : RelayEvent}
    {between past : List RelayEvent}
    (hshown : .shown k c :: (between ++ e :: past) <:+ (m.relay id).history)
    (hgone : e.Dismisses k) :
    (.taken c ∈ past ∨ .installed k ∈ between) ∧
      ((installs (m.relay id).history).length < 2 ^ 64 → .installed k ∉ between) := by
  have hr : (m.relay id).Sound nothing := hm.orderly.sound id
  exact ⟨hr.taken_before_dismissal hshown hgone, fun hfew =>
    hr.not_installed_again hfew hgone (past_suffix hshown)⟩

/-- The fault that the uninstalled handler still gets had been taken before. -/
theorem sample_dismissed_handler :
    .uninstalled ⟨2⟩ :: Sample.removalHistory.drop 4 <:+ Sample.removalHistory ∧
      .taken Sample.first ∈ Sample.removalHistory.drop 4 := by
  have hreached := Sample.drained_reached (Sample.removal_isOutside .any)
  have hgone : (RelayEvent.uninstalled ⟨2⟩).Dismisses ⟨2⟩ := rfl
  have hfew : (installs Sample.removalHistory).length < 2 ^ 64 := by decide +kernel
  have hlaw := dismissed_handler_gets_no_later_fault hreached.now Sample.relay Sample.removal_shown
    hgone
  refine ⟨?_, hlaw.1.resolve_right (hlaw.2 hfew)⟩
  exact (List.suffix_append _ _).trans (past_suffix Sample.removal_shown)

end NativeBridge
