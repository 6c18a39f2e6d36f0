-- Invocations as trades, in any bookkeeping. Outside code that is called back
-- keeps what is held and hands out only what is its own; then closures and
-- callbacks keep what they were given, whatever the code that they call does.
import NativeBridge.Proofs.Conversions

namespace NativeBridge

variable {τ α : Type}

/-- Outside code that trades fairly with the library whenever it is called. -/
structure Guest.Steady (c : Conduct) (g : Guest (Outside τ)) : Prop where
  call : ∀ f args, Trades c (g.call f args) 0 fun result => handleGiven result
  native : ∀ f params type, Tries c (g.native f params type) 0 (fun _ => 0) 0
  sink : ∀ f o, Trades c (g.sink f o) 0 fun _ => 0
  takeFault : ∀ f fault, Trades c (g.takeFault f fault) 0 fun _ => 0
  marshalArgument : ∀ m r i v, Tries c (g.marshalArgument m r i v) 0 (·.releases) 0
  marshalResult : ∀ m r h type, Tries c (g.marshalResult m r h type) 0 (fun _ => 0) 0

/-- Outside code that trades in this bookkeeping whenever it is called. -/
structure Guest.Swaps (H : Multiset Release → World τ → Prop) (g : Guest (Outside τ)) : Prop where
  call : ∀ f args, NativeBridge.Swaps H (g.call f args) 0 fun result => handleGiven result
  native : ∀ f params type, SwapsOr H (g.native f params type) 0 (fun _ => 0) 0
  sink : ∀ f o, NativeBridge.Swaps H (g.sink f o) 0 fun _ => 0
  takeFault : ∀ f fault, NativeBridge.Swaps H (g.takeFault f fault) 0 fun _ => 0
  marshalArgument : ∀ m r i v, SwapsOr H (g.marshalArgument m r i v) 0 (·.releases) 0
  marshalResult : ∀ m r h type, SwapsOr H (g.marshalResult m r h type) 0 (fun _ => 0) 0

theorem Guest.Steady.swaps {c : Conduct} {g : Guest (Outside τ)} (hg : g.Steady c)
    (E : List ObjectId) : g.Swaps fun F (s : World τ) => Holding c F E s where
  call f args F s := hg.call f args F E s
  native f params type F s := hg.native f params type F E s
  sink f o F s := hg.sink f o F E s
  takeFault f fault F s := hg.takeFault f fault F E s
  marshalArgument m r i v F s := hg.marshalArgument m r i v F E s
  marshalResult m r h type F s := hg.marshalResult m r h type F E s

variable {H : Multiset Release → World τ → Prop}

theorem Guest.Swaps.aside {g : Guest (Outside τ)} (hg : g.Swaps H) (G : Multiset Release) :
    g.Swaps fun F s => H (G + F) s where
  call f args := (hg.call f args).aside G
  native f params type := NativeBridge.Swaps.aside (hg.native f params type) G
  sink f o := (hg.sink f o).aside G
  takeFault f fault := (hg.takeFault f fault).aside G
  marshalArgument m r i v := NativeBridge.Swaps.aside (hg.marshalArgument m r i v) G
  marshalResult m r h type := NativeBridge.Swaps.aside (hg.marshalResult m r h type) G

theorem isShared_of_mem_releases {h : Handle} {u : Release} (hu : u ∈ h.releases) :
    u.account.IsShared := by
  cases h <;> simp only [Handle.releases, List.mem_singleton, List.not_mem_nil] at hu <;>
    subst hu <;> trivial

theorem System.books_setErrorSlot {σ : Type} (s : System σ) (r : RuntimeId)
    (fault : Option Fault) : (s.setErrorSlot r fault).books = s.books :=
  books_modifyBridge_of_eq s r fun _ => rfl

/-! ## What invocations share -/

section

variable {P Q : Multiset Release} {got : α → Multiset Release} {back : Multiset Release}

theorem atSite_swaps {site : MarshalSite} {a : Attempt (Outside τ) α}
    (ha : SwapsOr H a P got back) : SwapsOr H (atSite site a) P got back := by
  refine (ha.outcomeOf back).bind ?_
  rintro (e | x)
  · exact SwapsOr.throw rfl
  · exact SwapsOr.pure rfl

theorem checkContext_swaps (r : RuntimeId) (P : Multiset Release) :
    SwapsOr H (checkContext r) P (fun _ => P) P := by
  apply SwapsOr.get
  intro s₀
  split
  · exact SwapsOr.pure rfl
  · exact SwapsOr.throw rfl

variable (hH : IsBookkeeping H)

include hH

/-- A change of what is not counted trades nothing. -/
theorem uncounted_swaps {f : World τ → World τ} (hguest : ∀ s, (f s).guest = s.guest)
    (hbooks : ∀ s, (f s).books = s.books) (hcopies : ∀ s, (f s).copyReports = s.copyReports)
    (P : Multiset Release) : Swaps H (modify f) P fun _ => P :=
  Swaps.change fun _ s h => hH.of_books h (hguest s) (hbooks s) (hcopies s)

theorem release_swaps (ts : List Release) (P back : Multiset Release) :
    SwapsOr H (modify (·.release ts)) (ts + P) (fun _ => P) back :=
  SwapsOr.change fun F s h => by
    rw [add_assoc] at h
    exact hH.release h

theorem releasingAfter_swaps {ts : List Release} {a : Attempt (Outside τ) α}
    (ha : SwapsOr H a P (fun x => ts + got x) (ts + back)) :
    SwapsOr H (releasingAfter ts a) P got back := by
  refine (ha.outcomeOf back).bind ?_
  rintro (e | x)
  · exact (release_swaps hH ts back back).bind fun _ => SwapsOr.throw rfl
  · exact (release_swaps hH ts (got x) back).bind fun _ => SwapsOr.pure rfl

theorem setErrorSlot_swaps (r : RuntimeId) (fault : Option Fault) (P : Multiset Release) :
    Swaps H (modify (·.setErrorSlot r fault)) P fun _ => P :=
  uncounted_swaps hH (f := (·.setErrorSlot r fault)) (fun _ => rfl)
    (fun s => s.books_setErrorSlot r fault) (fun _ => rfl) P

theorem recordOutcome_swaps (r : RuntimeId) (outcome : Except Fault Handle)
    (P : Multiset Release) : Swaps H (modify (·.recordOutcome r outcome)) P fun _ => P := by
  cases outcome with
  | ok h => exact fun _ _ hs => hs
  | error fault => exact setErrorSlot_swaps hH r (some fault) P

theorem callGuarded_swaps {g : Guest (Outside τ)} (hg : g.Swaps H) (r : RuntimeId)
    (f : Callable) (args : List Handle) (P : Multiset Release) :
    Swaps H (callGuarded g r f args) P fun result => handleGiven result + P := by
  apply Swaps.get
  intro s₀
  refine (setErrorSlot_swaps hH r none P).bind fun _ => ?_
  refine Swaps.bind (((hg.call f args).frame P).of_eq (zero_add P).symm fun _ => rfl) ?_
  intro outcome
  refine (recordOutcome_swaps hH r outcome _).bind fun _ => ?_
  exact (setErrorSlot_swaps hH r _ _).bind fun _ => Swaps.pure rfl

/-- Arguments are converted one by one. If one fails, those before it are
released. -/
theorem marshalFrom_swaps {convert : Nat → TypedValue → Attempt (Outside τ) Handle}
    {G : Multiset Release}
    (hconvert : ∀ i v, SwapsOr H (convert i v) G (fun h => h.releases + G) G)
    (index : Nat) (done : List Handle) (values : List TypedValue) :
    SwapsOr H (marshalFrom convert index done values) (done.flatMap Handle.releases + G)
      (fun handles => handles.flatMap Handle.releases + G) G := by
  induction values generalizing index done with
  | nil => exact SwapsOr.pure rfl
  | cons v rest ih =>
    let D : Multiset Release := done.flatMap Handle.releases
    refine SwapsOr.bind ((((hconvert index v).frame D).outcomeOf G).of_eq (add_comm D G)
      (fun _ => rfl) rfl) ?_
    rintro (e | h)
    · refine SwapsOr.bind ((release_swaps hH (done.flatMap Handle.releases) G G).of_eq
        (add_comm G D) (fun _ => rfl) rfl) fun _ => ?_
      exact SwapsOr.throw rfl
    · apply (ih (index + 1) (done ++ [h])).of_eq _ (fun _ => rfl) rfl
      simp only [List.flatMap_append, List.flatMap_cons, List.flatMap_nil, List.append_nil,
        ← Multiset.coe_add, D]
      abel

/-- A handle gets another holder. -/
theorem holdHandle_swaps (h : Handle) {P : Multiset Release}
    (hused : ∀ F s, H F s → ∀ u ∈ h.releases, s.InUse u) :
    Swaps H (modify (·.holdHandle h)) P fun _ => h.releases + P :=
  Swaps.change fun F s hs => by
    rw [s.holdHandle_eq_keep, add_assoc]
    exact hH.keepAll hs (hused _ s hs)

/-- What something in use pledges is in use. -/
theorem inUse_of_pledgeOf {F : Multiset Release} {s : World τ} (hs : H F s) {t u : Release}
    (ht : s.InUse t) (hshared : u.account.IsShared) (hu : u ∈ s.books.pledgeOf t.account) :
    s.InUse u := hH.pledged hs hshared (Books.mem_pledged_of_mem_pledgeOf ht.2.2 hu)

end

/-! ## Closures -/

section

variable {g : Guest (Outside τ)} (hH : IsBookkeeping H) (hg : g.Swaps H)

include hH

theorem captureFault_swaps (id : RelayId) (fault : Fault) (origin : String) (r : RuntimeId)
    (P : Multiset Release) : Swaps H (captureFault id fault origin r) P fun _ => P := by
  unfold captureFault
  apply Swaps.get
  intro s₀
  split
  rename_i sequence dropped relay _
  refine (uncounted_swaps hH (f := (·.modifyRelay id fun _ => relay)) (fun _ => rfl)
    (fun _ => rfl) (fun _ => rfl) P).bind fun _ => ?_
  split
  · rename_i captured _
    refine (uncounted_swaps hH (f := (·.note (.queueFull captured))) (fun _ => rfl)
      (fun s => s.books_note_of_not_late rfl) (fun s => s.copyReports_note rfl) P).bind fun _ => ?_
    exact Swaps.pure rfl
  · exact Swaps.pure rfl

include hg

theorem closureArgument_swaps (x : Closure) (index : Nat) (v : TypedValue) :
    SwapsOr H (x.marshalArgument g index v) {.bridge x.runtime}
      (fun h => h.releases + {.bridge x.runtime}) {.bridge x.runtime} := by
  apply atSite_swaps
  split
  · rename_i m _
    exact ((hg.marshalArgument m x.runtime index v).frame _).of_eq (zero_add _).symm
      (fun _ => rfl) (zero_add _)
  · exact toHandle_swaps hH x.runtime v

theorem marshalResult_swaps (x : Closure) (value : Handle) (type : TypeId)
    (P : Multiset Release) : SwapsOr H (x.marshalResult g value type) P (fun _ => P) P := by
  apply atSite_swaps
  split
  · rename_i m _
    exact ((hg.marshalResult m x.runtime value type).frame P).of_eq (zero_add P).symm
      (fun _ => zero_add P) (zero_add P)
  · exact fromHandle_swaps hH x.runtime value type P

/-! ### Closures in use -/

variable {x : Closure} (hx : ∀ F s, H F s → s.InUse (.closure x))

omit hg in
include hx in
theorem takeData_swaps (P : Multiset Release) :
    Swaps H (x.takeData (σ := Outside τ)) P fun h => h.releases + P := by
  unfold Closure.takeData
  refine Swaps.bind (holdHandle_swaps hH _ ?_) fun _ => Swaps.pure rfl
  intro F s hs u hu
  have hknown : s.books.closures.get? x.id.number = some x := (hx F s hs).2.1
  cases hdata : x.data with
  | none =>
    rw [hdata] at hu
    exact absurd hu List.not_mem_nil
  | some h =>
    rw [hdata] at hu
    apply inUse_of_pledgeOf hH hs (hx F s hs) (isShared_of_mem_releases hu)
    simp only [Release.account, Books.pledgeOf, hknown, Option.elim_some, Closure.releases, hdata]
    exact List.mem_cons_of_mem _ hu

include hx

theorem marshalArguments_swaps (params : List TypedValue) :
    SwapsOr H (x.marshalArguments g params) {.bridge x.runtime}
      (fun handles => handles.flatMap Handle.releases + {.bridge x.runtime})
      {.bridge x.runtime} := by
  have hconvert : ∀ i v, SwapsOr H (x.marshalArgument g i v) {.bridge x.runtime}
      (fun h => h.releases + {.bridge x.runtime}) {.bridge x.runtime} :=
    closureArgument_swaps hH hg x
  have htake : ∀ P back, SwapsOr H (doing (x.takeData (σ := Outside τ))) P
      (fun h => h.releases + P) back := fun P _ => SwapsOr.doing (takeData_swaps hH hx P)
  unfold Closure.marshalArguments
  split
  · exact SwapsOr.throw rfl
  · rename_i v rest
    split
    · refine (htake _ _).bind fun h => ?_
      apply (marshalFrom_swaps hH hconvert 1 [h] rest).of_eq _ (fun _ => rfl) rfl
      rw [List.flatMap_cons, List.flatMap_nil, List.append_nil]
    · have hall := marshalFrom_swaps hH hconvert 0 [] (v :: rest)
      rw [List.flatMap_nil, Multiset.coe_nil, zero_add] at hall
      refine hall.bind fun args => ?_
      split
      · refine (htake _ _).bind fun h => SwapsOr.pure ?_
        rw [List.flatMap_append, List.flatMap_cons, List.flatMap_nil, List.append_nil,
          ← Multiset.coe_add]
        abel
      · exact SwapsOr.pure rfl

theorem run_swaps (params : List TypedValue) (returnType : Option TypeId) :
    SwapsOr H (x.run g params returnType) {.bridge x.runtime} (fun _ => {.bridge x.runtime})
      {.bridge x.runtime} := by
  unfold Closure.run
  refine (checkContext_swaps x.runtime _).bind fun _ => ?_
  refine (marshalArguments_swaps hH hg hx params).bind fun args => ?_
  refine SwapsOr.bind (SwapsOr.doing (callGuarded_swaps hH hg x.runtime x.callable args _)) ?_
  intro outcome
  have hrelease := release_swaps hH (args.flatMap Handle.releases)
    (handleGiven outcome + {.bridge x.runtime}) {.bridge x.runtime}
  refine (hrelease.of_eq (add_left_comm _ _ _) (fun _ => rfl) rfl).bind fun _ => ?_
  cases outcome with
  | ok value =>
    apply releasingAfter_swaps hH
    cases returnType with
    | none => exact SwapsOr.pure rfl
    | some type =>
      refine (marshalResult_swaps hH hg x value type _).bind fun _ => ?_
      exact SwapsOr.pure rfl
  | error fault =>
    simp only [handleGiven, Multiset.coe_nil, zero_add]
    apply SwapsOr.get
    intro s₀
    refine SwapsOr.bind (SwapsOr.doing (captureFault_swaps hH _ fault x.origin x.runtime _)) ?_
    intro _
    exact SwapsOr.pure rfl

/-- An invocation of a closure in use trades nothing. -/
theorem invoke_swaps (params : List TypedValue) (returnType : Option TypeId) :
    SwapsOr H (x.invoke g params returnType) 0 (fun _ => 0) 0 := by
  intro F s h
  unfold Closure.invoke
  rw [run_get_bind]
  split
  · rename_i halive
    have hused : s.InUse (.bridge x.runtime) :=
      ⟨trivial, trivial, System.isBridgeAlive_iff.mp halive⟩
    have hkept : H ({.bridge x.runtime} + F) (s.keep (.bridge x.runtime)) := by
      rw [zero_add] at h
      exact hH.keep h hused
    have hrun : SwapsOr H (releasingAfter [.bridge x.runtime] (x.run g params returnType))
        {.bridge x.runtime} (fun _ => 0) 0 := by
      apply releasingAfter_swaps hH
      exact run_swaps hH hg hx params returnType
    exact hrun F _ hkept
  · exact h

end

/-- An invocation of a closure that is held. -/
theorem invokeHeld_swaps {g : Guest (Outside τ)} (hH : IsBookkeeping H) (hg : g.Swaps H)
    (x : Closure) (params : List TypedValue) (returnType : Option TypeId) :
    SwapsOr H (x.invoke g params returnType) {.closure x} (fun _ => {.closure x})
      {.closure x} := by
  have hdone := SwapsOr.of_aside (G := {.closure x}) (invoke_swaps (hH.frame _) (hg.aside _)
    (fun F s => hH.inUse_aside) params returnType)
  exact hdone.of_eq (add_zero _).symm (fun _ => add_zero _) (add_zero _)

theorem invoke_tries {c : Conduct} {g : Guest (Outside τ)} (hg : g.Steady c) (x : Closure)
    (params : List TypedValue) (returnType : Option TypeId) :
    Tries c (x.invoke g params returnType) {.closure x} (fun _ => {.closure x}) {.closure x} :=
  .of_swaps fun E => invokeHeld_swaps (Holding.isBookkeeping c E) (hg.swaps E) x params returnType

/-! ## Making closures and callbacks -/

namespace Holding

variable {c : Conduct} {F : Multiset Release} {E : List ObjectId} {s : World τ} {callable : Callable}
  {data : Option Handle}

/-- Holders of a callable and of data, for something that is made of them. -/
theorem keepParts (h : Holding c F E s)
    (hparts : ∀ u ∈ Release.callable callable :: dataReleases data, s.InUse u) :
    Holding c ((Release.callable callable :: dataReleases data : List Release) + F) E
      ((s.holdCallable callable).holdData data) := by
  have hkept := h.keepAll hparts
  rw [List.foldl_cons] at hkept
  cases data with
  | none => exact hkept
  | some handle =>
    rw [System.holdData, System.holdHandle_eq_keep]
    exact hkept

/-- Something that is made of them takes over these holders. -/
theorem ofParts (h : Holding c F E s)
    (hparts : ∀ u ∈ Release.callable callable :: dataReleases data, s.InUse u) {t : World τ}
    {u : Release} (hguest : t.guest = s.guest) (hu : u.account.IsShared)
    (hmade : ∀ H : Multiset Release,
      Balanced c 0 ((Release.callable callable :: dataReleases data : List Release) + H)
          ((s.holdCallable callable).holdData data).books →
        Balanced c 0 (u ::ₘ H) t.books) : Holding c ({u} + F) E t := by
  have hkept := h.keepParts hparts
  have hsame : ((s.holdCallable callable).holdData data).guest = s.guest := by
    cases data with
    | none => rfl
    | some handle => cases handle <;> rfl
  have hbalanced := hkept.balanced
  rw [add_assoc, hsame] at hbalanced
  exact h.gain hguest hu (hmade _ hbalanced)

theorem addClosure (h : Holding c F E s)
    (hparts : ∀ u ∈ Release.callable callable :: dataReleases data, s.InUse u) (r : RuntimeId)
    (swap : Bool) (marshaller : Option Marshaller) (origin : Option String) :
    let made := s.addClosure r callable data swap marshaller origin
    Holding c ({.closure made.1} + F) E made.2 := by
  intro made
  have hsize : ((s.holdCallable callable).holdData data).closures.size = s.closures.size := by
    cases data with
    | none => rfl
    | some handle => cases handle <;> rfl
  have hguest : made.2.guest = s.guest := by
    cases data with
    | none => rfl
    | some handle => cases handle <;> rfl
  apply h.ofParts (u := .closure made.1) hparts hguest trivial
  intro H hbalanced
  exact hbalanced.addClosure (x := made.1) hsize.symm

theorem addCallback (h : Holding c F E s)
    (hparts : ∀ u ∈ Release.callable callable :: dataReleases data, s.InUse u) (r : RuntimeId)
    (paramTypes : List TypeId) (returnType : Option TypeId) :
    let made := s.addCallback r callable data paramTypes returnType
    Holding c ({.callback made.1} + F) E made.2 := by
  intro made
  have hsize : ((s.holdCallable callable).holdData data).callbacks.size = s.callbacks.size := by
    cases data with
    | none => rfl
    | some handle => cases handle <;> rfl
  have hguest : made.2.guest = s.guest := by
    cases data with
    | none => rfl
    | some handle => cases handle <;> rfl
  apply h.ofParts (u := .callback made.1) hparts hguest trivial
  intro H hbalanced
  exact hbalanced.addCallback (x := made.1) hsize.symm

end Holding

/-! ## Callbacks -/

/-- What an invocation of a callback works with. -/
def Callback.means (x : Callback) (r : RuntimeId) : Multiset Release :=
  .callback x ::ₘ {.bridge r}

section

variable {g : Guest (Outside τ)} (hH : IsBookkeeping H)

include hH

theorem callbackArguments_swaps {x : Callback} (hx : ∀ F s, H F s → s.InUse (.callback x))
    (r : RuntimeId) (args : List NativeValue) :
    SwapsOr H (x.marshalArguments r args) {.bridge r}
      (fun handles => handles.flatMap Handle.releases + {.bridge r}) {.bridge r} := by
  have hconvert : ∀ i v, SwapsOr H (atSite (.argument i) (toHandle r v)) {.bridge r}
      (fun h => h.releases + {.bridge r}) {.bridge r} :=
    fun i v => atSite_swaps (toHandle_swaps hH r v)
  unfold Callback.marshalArguments
  have hall := marshalFrom_swaps hH hconvert 0 [] (List.zipWith TypedValue.mk x.paramTypes args)
  rw [List.flatMap_nil, Multiset.coe_nil, zero_add] at hall
  refine hall.bind fun handles => ?_
  split
  · rename_i h hdata
    have hhold := holdHandle_swaps hH h
      (P := handles.flatMap Handle.releases + {.bridge r}) fun F s hs u hu => by
        have hknown : s.books.callbacks.get? x.number = some x := (hx F s hs).2.1
        apply inUse_of_pledgeOf hH hs (hx F s hs) (isShared_of_mem_releases hu)
        simp only [Release.account, Books.pledgeOf, hknown, Option.elim_some, Callback.releases,
          hdata]
        exact List.mem_cons_of_mem _ hu
    refine SwapsOr.bind (f := fun _ => pure (handles ++ [h])) (SwapsOr.doing hhold) fun _ => ?_
    apply SwapsOr.pure
    rw [List.flatMap_append, List.flatMap_cons, List.flatMap_nil, List.append_nil,
      ← Multiset.coe_add]
    abel
  · exact SwapsOr.pure rfl

theorem callbackResult_swaps (x : Callback) (r : RuntimeId) (outcome : Except Fault Handle)
    (P : Multiset Release) :
    SwapsOr H (x.result r outcome) (handleGiven outcome + P) (fun _ => P) P := by
  unfold Callback.result
  split
  · apply SwapsOr.throw
    exact zero_add P
  · rename_i value
    apply releasingAfter_swaps hH
    split
    · rename_i type _
      refine (atSite_swaps (fromHandle_swaps hH r value type _)).bind fun _ => ?_
      exact SwapsOr.pure rfl
    · exact SwapsOr.pure rfl

theorem invokeCallback_swaps (hg : g.Swaps H) {x : Callback}
    (hx : ∀ F s, H F s → s.InUse (.callback x)) (r : RuntimeId) (args : List NativeValue) :
    SwapsOr H (x.invoke g r args) {.bridge r} (fun _ => {.bridge r}) {.bridge r} := by
  unfold Callback.invoke
  by_cases hruntime : x.runtime ≠ r
  · rw [if_pos hruntime]
    exact SwapsOr.throw rfl
  · rw [if_neg hruntime]
    refine (checkContext_swaps r _).bind fun _ => ?_
    split
    · exact SwapsOr.throw rfl
    · refine (callbackArguments_swaps hH hx r args).bind fun handles => ?_
      refine SwapsOr.bind (SwapsOr.doing (callGuarded_swaps hH hg r x.callable handles _)) ?_
      intro outcome
      apply releasingAfter_swaps hH
      exact callbackResult_swaps hH x r outcome _

end

section

variable {c : Conduct} {g : Guest (Outside τ)} {x : Callback} {r : RuntimeId}

/-- What is done with a callback that is held. -/
theorem swaps_of_callback {a : Attempt (Outside τ) α} {got : α → Multiset Release}
    (ha : SwapsOr (fun F s => H ({.callback x} + F) s) a {.bridge r}
      (fun v => got v + {.bridge r}) {.bridge r}) :
    SwapsOr H a (x.means r) (fun v => got v + x.means r) (x.means r) := by
  have hmeans : x.means r = {.callback x} + {.bridge r} := (Multiset.singleton_add _ _).symm
  rw [hmeans]
  exact (SwapsOr.of_aside ha).of_eq rfl (fun v => add_left_comm _ _ _) rfl

theorem callbackArguments_tries (args : List NativeValue) :
    Tries (τ := τ) c (x.marshalArguments r args) (x.means r)
      (fun handles => handles.flatMap Handle.releases + x.means r) (x.means r) := by
  apply Tries.of_swaps
  intro E
  have hH := Holding.isBookkeeping (τ := τ) c E
  exact swaps_of_callback (callbackArguments_swaps (hH.frame _) (fun F s => hH.inUse_aside) r args)

theorem invokeHeldCallback_swaps (hH : IsBookkeeping H) (hg : g.Swaps H)
    (args : List NativeValue) :
    SwapsOr H (x.invoke g r args) (x.means r) (fun _ => x.means r) (x.means r) := by
  have hdone : SwapsOr (fun F s => H ({.callback x} + F) s) (x.invoke g r args) {.bridge r}
      (fun _ => 0 + {.bridge r}) {.bridge r} :=
    (invokeCallback_swaps (hH.frame _) (hg.aside _) (fun F s => hH.inUse_aside) r args).of_eq rfl
      (fun _ => (zero_add _).symm) rfl
  exact (swaps_of_callback hdone).of_eq rfl (fun _ => zero_add _) rfl

theorem invokeCallback_tries (hg : g.Steady c) (args : List NativeValue) :
    Tries c (x.invoke g r args) (x.means r) (fun _ => x.means r) (x.means r) :=
  .of_swaps fun E => invokeHeldCallback_swaps (Holding.isBookkeeping c E) (hg.swaps E) args

end

end NativeBridge
