-- Closures and callbacks of one callable. Both convert their arguments, call
-- the callable and convert its result; a closure releases its arguments before
-- it converts the result, and a callback afterwards.
import NativeBridge.Proofs.Deeds
import NativeBridge.Proofs.FailureContainment
import NativeBridge.Proofs.ResultConversions

namespace NativeBridge

variable {σ τ : Type}

/-! ## One call, twice -/

/-- A closure without a marshaller of its own, and a callback of the same
bridge for the same callable and data. -/
structure Callback.Mirrors (k : Callback) (x : Closure) : Prop where
  callable : k.callable = x.callable
  data : k.data = x.data
  runtime : k.runtime = x.runtime
  unswapped : x.swap = false
  unmarshalled : x.marshaller = none

/-- What a closure does before the call: the context is checked, and the
typed values become handles. -/
def Closure.prepare (g : Guest σ) (x : Closure) (params : List TypedValue) :
    Attempt σ (List Handle) := do
  checkContext x.runtime
  x.marshalArguments g params

/-- What a callback does before the call. -/
def Callback.prepare (k : Callback) (r : RuntimeId) (args : List NativeValue) :
    Attempt σ (List Handle) := do
  checkContext r
  k.marshalArguments r args

/-- What comes of it: the bridge may not run here, or one of the payloads
cannot be converted, or there is a handle for each, with the data last. -/
inductive Callback.Prepares (k : Callback) (r : RuntimeId) (count : Nat) :
    Except BridgeError (List Handle) → Prop where
  | elsewhere (current : Option RuntimeId) : Prepares k r count (.error (.wrongContext r current))
  | unconverted (index : Nat) (source : BridgeError) (hindex : index < count) :
    Prepares k r count (.error (.marshalFailure (.argument index) source))
  | ready (handles : List Handle) (hlength : handles.length = count) :
    Prepares k r count (.ok (handles ++ k.data.toList))

/-- Every value gets a handle, or the first that gets none is named. -/
theorem marshalFrom_comes (convert : TypedValue → Attempt σ Handle) (index : Nat)
    (done : List Handle) (values : List TypedValue) (s : System σ) :
    let outcome := ((marshalFrom (fun i v => atSite (.argument i) (convert v)) index done
      values).run.run s).1
    (∃ handles, handles.length = values.length ∧ outcome = .ok (done ++ handles)) ∨
      ∃ i source, i < index + values.length ∧
        outcome = .error (.marshalFailure (.argument i) source) := by
  induction values generalizing index done s with
  | nil => exact .inl ⟨[], rfl, by rw [List.append_nil]; rfl⟩
  | cons v rest ih =>
    rw [marshalFrom, run_bind_of_ok s (run_outcomeOf s _), run_atSite]
    rcases (convert v).run.run s with ⟨e | h, t⟩
    · exact .inr ⟨index, e, by simp, rfl⟩
    · rcases ih (index + 1) (done ++ [h]) t with ⟨handles, hlength, hdone⟩ | ⟨i, source, hi, hdone⟩
      · refine .inl ⟨h :: handles, by rw [List.length_cons, hlength]; rfl, ?_⟩
        rw [List.append_assoc] at hdone
        exact hdone
      · exact .inr ⟨i, source, by rw [List.length_cons]; omega, hdone⟩

theorem Callback.prepare_prepares (k : Callback) (r : RuntimeId) (args : List NativeValue)
    (hlength : args.length = k.paramTypes.length) (s : System σ) :
    k.Prepares r args.length ((k.prepare r args).run.run s).1 := by
  have hcount : (List.zipWith TypedValue.mk k.paramTypes args).length = args.length := by
    rw [List.length_zipWith, hlength, Nat.min_self]
  unfold Callback.prepare
  cases hplace : s.mayRun r with
  | false =>
    have hcheck := run_checkContext s r
    rw [hplace] at hcheck
    rw [run_bind_of_error _ hcheck]
    exact .elsewhere _
  | true =>
    have hcheck := run_checkContext s r
    rw [hplace] at hcheck
    rw [run_bind_of_ok _ hcheck]
    unfold Callback.marshalArguments
    have hcomes := marshalFrom_comes (toHandle r) 0 [] (List.zipWith TypedValue.mk k.paramTypes args)
      s
    rcases hrun : (marshalFrom (fun i v => atSite (.argument i) (toHandle r v)) 0 []
      (List.zipWith TypedValue.mk k.paramTypes args)).run.run s with ⟨outcome, t⟩
    rw [hrun, hcount] at hcomes
    rcases hcomes with ⟨handles, hhandles, rfl⟩ | ⟨i, source, hi, rfl⟩
    · rw [run_bind_of_ok _ hrun]
      have hready := Callback.Prepares.ready (k := k) (r := r) handles hhandles
      cases hdata : k.data with
      | none =>
        rw [hdata, Option.toList_none, List.append_nil] at hready
        exact hready
      | some data =>
        rw [hdata] at hready
        exact hready
    · rw [run_bind_of_error _ hrun]
      exact .unconverted i source (by omega)

section

variable {x : Closure} {k : Callback} {params : List TypedValue}

theorem zipWith_params (params : List TypedValue) :
    List.zipWith TypedValue.mk (params.map (·.type)) (params.map (·.value)) = params := by
  induction params with
  | nil => rfl
  | cons v rest ih => rw [List.map_cons, List.map_cons, List.zipWith_cons_cons, ih]

/-- The callable gets the same arguments from both. -/
theorem Callback.Mirrors.prepare (hk : k.Mirrors x)
    (hparams : k.paramTypes = params.map (·.type)) (hne : params ≠ []) (g : Guest σ) :
    x.prepare g params = k.prepare x.runtime (params.map (·.value)) := by
  have hconvert : x.marshalArgument g = fun index v =>
      atSite (.argument index) (toHandle x.runtime v) := by
    funext index v
    unfold Closure.marshalArgument
    rw [hk.unmarshalled]
  unfold Closure.prepare Callback.prepare Closure.marshalArguments Callback.marshalArguments
  rw [hparams, zipWith_params, hk.data, hk.unswapped, hconvert]
  cases params with
  | nil => exact absurd rfl hne
  | cons v rest =>
    cases hdata : x.data with
    | none => rfl
    | some data =>
      simp only [Closure.takeData, hdata]
      rfl

/-! ## How they run -/

theorem run_releasingAfter {α : Type} (s : System σ) (ts : List Release) (a : Attempt σ α) :
    (releasingAfter ts a).run.run s = ((a.run.run s).1, (a.run.run s).2.release ts) := by
  unfold releasingAfter
  rw [run_bind_of_ok s (run_outcomeOf s a), run_modify_bind]
  cases (a.run.run s).1 <;> rfl

variable {g : Guest σ} {type : Option TypeId} {s u v : System σ} {args : List Handle}

theorem Closure.run_of_refused {e : BridgeError}
    (hprepared : (x.prepare g params).run.run s = (.error e, u)) :
    (x.run g params type).run.run s = (.error e, u) := by
  unfold Closure.run
  rw [← bind_assoc]
  exact run_bind_of_error s hprepared

/-- A closure whose callable came back: the arguments are released first. -/
theorem Closure.run_of_ok {value : Handle} (hmarshaller : x.marshaller = none)
    (hprepared : (x.prepare g params).run.run s = (.ok args, u))
    (hcall : (callGuarded g x.runtime x.callable args).run u = (.ok value, v)) :
    (x.run g params type).run.run s =
      (releasingAfter value.releases (convertReturn x.runtime value type)).run.run
        (v.release (args.flatMap Handle.releases)) := by
  have hlifted := run_liftM u (callGuarded g x.runtime x.callable args)
  have hresult : ∀ type, x.marshalResult g value type =
      atSite .result (fromHandle x.runtime value type) := by
    intro type
    unfold Closure.marshalResult
    rw [hmarshaller]
  unfold Closure.prepare at hprepared
  rw [hcall] at hlifted
  unfold Closure.run
  rw [← bind_assoc, run_bind_of_ok s hprepared, run_bind_of_ok u hlifted, run_modify_bind]
  simp only [hresult]
  cases type <;> rfl

/-- A closure whose callable failed captures the fault. -/
theorem Closure.run_of_error {fault : Fault}
    (hprepared : (x.prepare g params).run.run s = (.ok args, u))
    (hcall : (callGuarded g x.runtime x.callable args).run u = (.error fault, v)) :
    let released := v.release (args.flatMap Handle.releases)
    (x.run g params type).run.run s = (.ok none,
      ((captureFault (released.bridge x.runtime).relay fault x.origin x.runtime).run released).2) := by
  have hlifted := run_liftM u (callGuarded g x.runtime x.callable args)
  unfold Closure.prepare at hprepared
  rw [hcall] at hlifted
  unfold Closure.run
  rw [← bind_assoc, run_bind_of_ok s hprepared, run_bind_of_ok u hlifted, run_modify_bind]
  rfl

theorem Callback.invoke_eq {payloads : List NativeValue} (hruntime : k.runtime = x.runtime)
    (hlength : payloads.length = k.paramTypes.length) :
    k.invoke g x.runtime payloads =
      ((k.prepare x.runtime payloads >>= fun handles => do
        let outcome ← callGuarded g x.runtime k.callable handles
        releasingAfter (handles.flatMap Handle.releases) (k.result x.runtime outcome)) :
          Attempt σ (Option TypedValue)) := by
  unfold Callback.invoke Callback.prepare
  simp only [hruntime, hlength, ne_eq, not_true_eq_false, if_false, bind_assoc]

/-- A callback whose callable was called: the arguments are released last. -/
theorem Callback.invoke_of_prepared {payloads : List NativeValue} {outcome : Except Fault Handle}
    (hruntime : k.runtime = x.runtime) (hlength : payloads.length = k.paramTypes.length)
    (hprepared : (k.prepare x.runtime payloads).run.run s = (.ok args, u))
    (hcall : (callGuarded g x.runtime k.callable args).run u = (outcome, v)) :
    (k.invoke g x.runtime payloads).run.run s =
      (releasingAfter (args.flatMap Handle.releases) (k.result x.runtime outcome)).run.run v := by
  have hlifted := run_liftM u (callGuarded g x.runtime k.callable args)
  rw [hcall] at hlifted
  rw [Callback.invoke_eq hruntime hlength, run_bind_of_ok s hprepared, run_bind_of_ok u hlifted]

theorem Callback.result_of_ok (k : Callback) (r : RuntimeId) (value : Handle) :
    (k.result r (.ok value) : Attempt σ _) =
      releasingAfter value.releases (convertReturn r value k.returnType) := by
  unfold Callback.result
  cases k.returnType <;> rfl

end

/-! ## The law -/

/-- How the invocation of a closure and that of a callback for the same callable
compare, when both start with `prepared`. -/
inductive OneShot (c : Conduct) (g : Guest σ) (x : Closure) (type : Option TypeId)
    (prepared : Except BridgeError (List Handle) × System σ) :
    Except BridgeError (Option TypedValue) × System σ →
    Except BridgeError (Option TypedValue) × System σ → Prop where
  /-- Both refuse before the call. -/
  | refused (e : BridgeError) (s : System σ) (hprepared : prepared.1 = .error e) :
    OneShot c g x type prepared (.error e, s) (.error e, s)
  /-- The callable comes back with a value that both convert alike. -/
  | returned (args : List Handle) (value : Handle) (u v s t : System σ)
    (hprepared : prepared = (.ok args, u))
    (hcall : (callGuarded g x.runtime x.callable args).run u = (.ok value, v))
    (hstate : s.Nearly List.Perm t) (hlog : s.relayLog = v.relayLog)
    (hlog' : t.relayLog = v.relayLog) :
    OneShot c g x type prepared (((convertReturn x.runtime value type).run.run v).1, s)
      (((convertReturn x.runtime value type).run.run v).1, t)
  /-- The arguments, which a closure releases early, were the last to hold the
  object of the value. -/
  | outlived (args : List Handle) (w : ObjectWrapper) (u v s t : System σ)
    (hprepared : prepared = (.ok args, u))
    (hcall : (callGuarded g x.runtime x.callable args).run u = (.ok (.object w), v))
    (hlive : v.heap.isAlive w.object = true)
    (hgone : (v.release (args.flatMap Handle.releases)).heap.isAlive w.object = false)
    (hunfair : c = .fair → v.heap.full = true)
    (hstate : s.Nearly List.Perm t) (hlog : s.relayLog = v.relayLog)
    (hlog' : t.relayLog = v.relayLog) :
    OneShot c g x type prepared
      (.error (.marshalFailure .result (.native (.staleObject w.object))), s)
      (((convertReturn x.runtime (.object w) type).run.run v).1, t)
  /-- The callable fails: the closure captures the fault, the callback raises
  it. -/
  | failed (args : List Handle) (fault : Fault) (u v s t : System σ)
    (hprepared : prepared = (.ok args, u))
    (hcall : (callGuarded g x.runtime x.callable args).run u = (.error fault, v))
    (hstate : s.Nearly Eq t) (hlog : s.relayLog = v.logWith x (some fault))
    (hlog' : t.relayLog = v.relayLog) :
    OneShot c g x type prepared (.ok none, s) (.error (.raised fault), t)

/-- What is released afterwards makes no difference. -/
theorem OneShot.release {c : Conduct} {g : Guest σ} {x : Closure} {type : Option TypeId}
    {prepared : Except BridgeError (List Handle) × System σ}
    {there here : Except BridgeError (Option TypedValue) × System σ}
    (h : OneShot c g x type prepared there here) (ts : List Release) :
    OneShot c g x type prepared (there.1, there.2.release ts) (here.1, here.2.release ts) := by
  cases h with
  | refused e s hprepared => exact .refused e _ hprepared
  | returned args value u v s t hprepared hcall hstate hlog hlog' =>
    exact .returned args value u v _ _ hprepared hcall (hstate.release (fun i h => h.cons i) ts)
      ((s.relayLog_release ts).trans hlog) ((t.relayLog_release ts).trans hlog')
  | outlived args w u v s t hprepared hcall hlive hgone hunfair hstate hlog hlog' =>
    exact .outlived args w u v _ _ hprepared hcall hlive hgone hunfair
      (hstate.release (fun i h => h.cons i) ts)
      ((s.relayLog_release ts).trans hlog) ((t.relayLog_release ts).trans hlog')
  | failed args fault u v s t hprepared hcall hstate hlog hlog' =>
    exact .failed args fault u v _ _ hprepared hcall (hstate.release (fun i h => by rw [h]) ts)
      ((s.relayLog_release ts).trans hlog) ((t.relayLog_release ts).trans hlog')

section

variable {c : Conduct} {x : Closure} {k : Callback} {g : Guest σ} {args : List Handle}
  {value : Handle} {u v : System σ} {H : Multiset Release}

/-- The value is released after the arguments, or before them. -/
theorem release_result_perm (hv : Balanced c 0 ((args.flatMap Handle.releases ++ value.releases :
    List Release) + H) v.books) (r : RuntimeId) (type : Option TypeId) :
    let early := v.release (args.flatMap Handle.releases)
    let read := ((convertReturn r value type).run.run v).2
    (((convertReturn r value type).run.run early).2.release value.releases).Nearly List.Perm
      ((read.release value.releases).release (args.flatMap Handle.releases)) := by
  intro early read
  have hcons : ∀ {l l' : List UInt32} (i : UInt32), l.Perm l' → (i :: l).Perm (i :: l') :=
    fun i h => h.cons i
  have hplain : ∀ t ∈ args.flatMap Handle.releases ++ value.releases, t.IsPlain := by
    intro t ht
    rcases List.mem_append.mp ht with ht | ht
    · obtain ⟨h, -, ht⟩ := List.mem_flatMap.mp ht
      exact h.releases_plain t ht
    · exact value.releases_plain t ht
  have hdue := hv.due_of_held
  rw [add_zero] at hdue
  have hearly : early.Noted ((convertReturn r value type).run.run early).2 :=
    convertReturn_notes value type
  have hread : v.Noted read := convertReturn_notes value type
  have hswap := System.release_perm List.perm_append_comm hplain hdue
  rw [System.release_append, System.release_append] at hswap
  exact ((((hearly.nearly .refl).release hcons _).symm .symm).trans .trans hswap).trans .trans
    (((hread.nearly .refl).release hcons _).release hcons _)

/-- The object of the value, if it has one, is alive when a closure converts it,
or the arguments were the last to hold it. -/
theorem convertReturn_early (hv : Balanced c 0 ((args.flatMap Handle.releases ++ value.releases :
    List Release) + H) v.books) (r : RuntimeId) (type : Option TypeId) :
    let early := v.release (args.flatMap Handle.releases)
    ((convertReturn r value type).run.run early).1 = ((convertReturn r value type).run.run v).1 ∨
      ∃ w, value = .object w ∧ v.heap.isAlive w.object = true ∧
        early.heap.isAlive w.object = false ∧ (c = .fair → v.heap.full = true) ∧
        ((convertReturn r value type).run.run early).1 =
          .error (.marshalFailure .result (.native (.staleObject w.object))) := by
  intro early
  have hplain : ∀ t ∈ args.flatMap Handle.releases, t.IsPlain := by
    intro t ht
    obtain ⟨h, -, ht⟩ := List.mem_flatMap.mp ht
    exact h.releases_plain t ht
  have hlost : v.Loses early := v.loses_release hplain
  by_cases hlive : ∀ w, value = .object w →
      early.heap.typeOf? w.object = v.heap.typeOf? w.object
  · exact .inl ((hlost.looksUpAlike r).convertReturn value type hlive)
  · obtain ⟨w, hw⟩ := not_forall.mp hlive
    obtain ⟨rfl, hdiffer⟩ := Classical.not_imp.mp hw
    have hstale := (hlost.typeOf? w.object).resolve_left hdiffer
    have hgone : early.heap.live? w.object = none := Option.map_eq_none_iff.mp hstale
    rcases convertReturn_of_stale (hlost.looksUpAlike r) hstale type with hsame | hfailed
    · exact .inl hsame
    · refine .inr ⟨w, rfl, ?_, by simp [Heap.isAlive, hgone], ?_, hfailed⟩
      · rw [hstale] at hdiffer
        cases hobject : v.heap.live? w.object with
        | none => exact absurd (by simp [Heap.typeOf?, hobject]) hdiffer
        | some object => simp [Heap.isAlive, hobject]
      · rintro rfl
        by_contra hfull
        rw [Bool.not_eq_true, ← hlost.full] at hfull
        rw [← Multiset.coe_add, add_assoc] at hv
        have hdue := hv.due_of_held
        rw [add_zero] at hdue
        have hheld : Release.wrapper w ∈ ((Handle.object w).releases : Multiset Release) + H :=
          Multiset.mem_add.mpr (.inl (by simp [Handle.releases]))
        exact (System.release_balanced hdue).alive_of_held hfull hheld hgone

variable {params : List TypedValue} {s : System σ}

/-- How the two compare, before the bridge is let go. -/
theorem Callback.Mirrors.oneShot (hk : k.Mirrors x) (hparams : k.paramTypes = params.map (·.type))
    (hne : params ≠ [])
    (hbalanced : ∀ args u value v, (k.prepare x.runtime (params.map (·.value))).run.run s =
      (.ok args, u) → (callGuarded g x.runtime x.callable args).run u = (.ok value, v) →
      ∃ H, Balanced c 0 ((args.flatMap Handle.releases ++ value.releases : List Release) + H)
        v.books) :
    OneShot c g x k.returnType ((k.prepare x.runtime (params.map (·.value))).run.run s)
      ((x.run g params k.returnType).run.run s)
      ((k.invoke g x.runtime (params.map (·.value))).run.run s) := by
  have hlength : (params.map (·.value)).length = k.paramTypes.length := by
    rw [hparams, List.length_map, List.length_map]
  have hprepare : (x.prepare g params).run.run s =
      (k.prepare x.runtime (params.map (·.value))).run.run s := by
    rw [hk.prepare hparams hne g]
  rcases hprepared : (k.prepare x.runtime (params.map (·.value))).run.run s with ⟨e | args, u⟩
  · rw [Closure.run_of_refused (hprepare.trans hprepared), Callback.invoke_eq hk.runtime hlength,
      run_bind_of_error s hprepared]
    exact .refused e u (congrArg Prod.fst hprepared)
  · rcases hcall : (callGuarded g x.runtime x.callable args).run u with ⟨fault | value, v⟩
    · have hcall' := hcall
      rw [← hk.callable] at hcall'
      rw [Closure.run_of_error (hprepare.trans hprepared) hcall,
        Callback.invoke_of_prepared hk.runtime hlength hprepared hcall', run_releasingAfter]
      let early := v.release (args.flatMap Handle.releases)
      have hlog : early.relayLog = v.relayLog := v.relayLog_release _
      have hcaptured : (early.Nearly Eq ((captureFault (early.bridge x.runtime).relay fault x.origin
          x.runtime).run early).2) := by
        rw [run_captureFault]
        dsimp only
        cases ((early.relay _).capture fault x.origin x.runtime).2.1 <;> exact ⟨⟨rfl, rfl⟩, rfl⟩
      refine .failed args fault u v _ _ hprepared hcall (hcaptured.symm .symm) ?_ hlog
      rw [← logWith_congr hlog x (some fault)]
      exact relayLog_captureFault early _ fault x.origin x.runtime
    · have hcall' := hcall
      rw [← hk.callable] at hcall'
      obtain ⟨H, hv⟩ := hbalanced args u value v hprepared hcall
      rw [Closure.run_of_ok hk.unmarshalled (hprepare.trans hprepared) hcall,
        Callback.invoke_of_prepared hk.runtime hlength hprepared hcall', Callback.result_of_ok,
        run_releasingAfter, run_releasingAfter, run_releasingAfter]
      have hstate := release_result_perm hv x.runtime k.returnType
      have hlog : ∀ y : System σ, (y.relayLog = v.relayLog) →
          ((convertReturn x.runtime value k.returnType).run.run y).2.relayLog = v.relayLog :=
        fun y hy => (convertReturn_notes value k.returnType).log.trans hy
      have hthere := (System.relayLog_release _ value.releases).trans
        (hlog _ (v.relayLog_release (args.flatMap Handle.releases)))
      have hhere := (System.relayLog_release _ (args.flatMap Handle.releases)).trans
        ((System.relayLog_release _ value.releases).trans (hlog v rfl))
      rcases convertReturn_early hv x.runtime k.returnType with
        hsame | ⟨w, rfl, hlive, hgone, hunfair, hfailed⟩
      · rw [hsame]
        exact .returned args value u v _ _ hprepared hcall hstate hthere hhere
      · rw [hfailed]
        exact .outlived args w u v _ _ hprepared hcall hlive hgone hunfair hstate hthere hhere

end

section

variable {c : Conduct} {g : Guest (Outside τ)} {x : Closure} {k : Callback}

/-- Whatever the callable did, the arguments and its value are held when it
comes back. -/
theorem Callback.prepare_balanced (hg : g.IsOutside c) {F : Multiset Release} {E : List ObjectId}
    {s u v : World τ} {r : RuntimeId} (hs : Holding c (k.means r + F) E s)
    {payloads : List NativeValue} {f : Callable} {args : List Handle} {value : Handle}
    (hprepared : (k.prepare r payloads).run.run s = (.ok args, u))
    (hcall : (callGuarded g r f args).run u = (.ok value, v)) :
    ∃ H, Balanced c 0 ((args.flatMap Handle.releases ++ value.releases : List Release) + H)
      v.books := by
  have hprepare : Tries (τ := τ) c (k.prepare r payloads) (k.means r)
      (fun handles => handles.flatMap Handle.releases + k.means r) (k.means r) := by
    apply Tries.bind (Tries.of_swaps fun _ => checkContext_swaps r (k.means r))
    exact fun _ => callbackArguments_tries payloads
  have hready := hprepare F E s hs
  rw [hprepared] at hready
  have hback := callGuarded_swaps (Holding.isBookkeeping c E) (hg.steady.swaps E) r f args _ F u
    hready
  rw [hcall] at hback
  refine ⟨k.means r + F + v.guest.ledger.tokens, ?_⟩
  have hbalanced := hback.balanced
  have hall : handleGiven (.ok value : Except Fault Handle) +
      ((args.flatMap Handle.releases : List Release) + k.means r) + F + v.guest.ledger.tokens =
        (args.flatMap Handle.releases ++ value.releases : List Release) +
          (k.means r + F + v.guest.ledger.tokens) := by
    rw [← Multiset.coe_add]
    simp only [handleGiven]
    abel
  rwa [hall] at hbalanced

/-- A closure without a marshaller and a callback of the same bridge for the
same callable and data come to the same arguments, and refuse or answer alike.
Only the closure contains a fault; only the callback still has the arguments
when the result is converted, which no fair code can tell. The states that
they leave differ at most in the relay of a contained fault, in the order in
which slots are used again, and in what was reported. -/
theorem callback_agrees_with_closure {s : World τ} (h : s.Reached c) (hg : g.IsOutside c)
    (hk : k.Mirrors x) {params : List TypedValue} (hne : params ≠ [])
    (hparams : k.paramTypes = params.map (·.type))
    (hclosure : s.InUse (.closure x)) (hcallback : s.InUse (.callback k))
    (hbridge : s.isBridgeAlive x.runtime = true) :
    let t := [.closure x, .callback k].foldl System.keep s
    let payloads := params.map (·.value)
    let prepared := (k.prepare x.runtime payloads).run.run (t.holdBridge x.runtime)
    (x.prepare g params = k.prepare x.runtime payloads ∧
      k.Prepares x.runtime params.length prepared.1) ∧
    OneShot c g x k.returnType prepared ((x.invoke g params k.returnType).run.run t)
      ((holdingBridge x.runtime (k.invoke g x.runtime payloads)).run.run t) := by
  intro t payloads prepared
  have hcount : payloads.length = params.length := List.length_map _
  have hprepares := k.prepare_prepares x.runtime payloads
    (by rw [hparams, hcount, List.length_map]) (t.holdBridge x.runtime)
  rw [hcount] at hprepares
  refine ⟨⟨hk.prepare hparams hne g, hprepares⟩, ?_⟩
  obtain ⟨F, hs⟩ := h.holding
  have hkept := (hs.keep hclosure).keep (hcallback.keep hclosure)
  have halive : t.isBridgeAlive x.runtime = true := by
    have hsame : t.books.arenas = s.books.arenas := rfl
    rw [System.isBridgeAlive_iff, hsame]
    exact System.isBridgeAlive_iff.mp hbridge
  have hused : t.InUse (.bridge x.runtime) :=
    ⟨trivial, trivial, System.isBridgeAlive_iff.mp halive⟩
  have hready : Holding c (k.means x.runtime + ({.closure x} + F)) s.guest.ledger.emitting
      (t.holdBridge x.runtime) := by
    have hheld := hkept.keep hused
    unfold Callback.means
    rw [Multiset.cons_add, ← Multiset.singleton_add, add_left_comm]
    exact hheld
  have hinner := hk.oneShot (g := g) hparams hne fun args u value v hprepared hcall =>
    k.prepare_balanced hg hready hprepared hcall
  have hthere : (x.invoke g params k.returnType).run.run t =
      (releasingAfter [.bridge x.runtime] (x.run g params k.returnType)).run.run
        (t.holdBridge x.runtime) := by
    unfold Closure.invoke
    rw [run_get_bind, if_pos halive]
    rfl
  have hhere : (holdingBridge x.runtime (k.invoke g x.runtime payloads)).run.run t =
      (releasingAfter [.bridge x.runtime] (k.invoke g x.runtime payloads)).run.run
        (t.holdBridge x.runtime) := rfl
  rw [hthere, hhere, run_releasingAfter, run_releasingAfter]
  exact hinner.release [.bridge x.runtime]

end

/-! ## A small run -/

namespace Sample

def second : ObjectId := ⟨1, 0⟩

def otherBridge : RuntimeId := ⟨1⟩

/-- Another bridge, another object and a callable. -/
def furnished : World Unit :=
  carryOut (.idle _) [.newBridge {} ⟨0⟩ none, .instantiate type, .newCallable] world

def oneShotClosure : Closure := ⟨⟨0⟩, ⟨0⟩, none, false, bridge, none, "Ui::Node::changed"⟩

def oneShotCallback : Callback := ⟨0, ⟨0⟩, none, [type, type], some type, bridge⟩

/-- The closure, the callback, and owned wrappers of both objects. -/
def lendings : List (Deed Unit) :=
  [.newClosure bridge ⟨0⟩ none false none (some "Ui::Node::changed"),
    .newCallback bridge ⟨0⟩ none [type, type] (some type),
    .wrap bridge object true, .wrap bridge second true]

def lent : World Unit := carryOut (.idle _) lendings furnished

/-- The other bridge has a wrapper of the first object. -/
def shared : World Unit := carryOut (.idle _) [.wrap otherBridge object false] lent

/-- Code whose callables do some deeds, and then give away what was gained
last, if that is the handle of an object. -/
def giving (deeds : List (Deed Unit)) : Guest (Outside Unit) :=
  { Guest.idle (Outside Unit) with
    call := fun _ _ => do
      modify (carryOut (.idle _) deeds)
      match (← get).guest.ledger.held with
      | .wrapper w :: _ =>
        enterInLedger (·.lose 0)
        return .ok (.object w)
      | _ => return .ok .undefined }

/-- The callable drops the handle that was gained before the last one. -/
def dropping : Guest (Outside Unit) := giving [.letGo 1]

/-- The callable also gives back a reference that nobody has. -/
def overspending : Guest (Outside Unit) := giving [.letGo 2, .unref object]

def oneShotParams : List TypedValue := [⟨type, .object second⟩, ⟨type, .object object⟩]

/-- Somebody keeps the closure and the callback while one of them runs. -/
def keepingBoth (s : World Unit) : World Unit :=
  [.closure oneShotClosure, .callback oneShotCallback].foldl System.keep s

def throughClosure (g : Guest (Outside Unit)) (s : World Unit) :
    Except BridgeError (Option TypedValue) × World Unit :=
  (oneShotClosure.invoke g oneShotParams (some type)).run.run (keepingBoth s)

def throughCallback (g : Guest (Outside Unit)) (s : World Unit) :
    Except BridgeError (Option TypedValue) × World Unit :=
  (holdingBridge bridge (oneShotCallback.invoke g bridge (oneShotParams.map (·.value)))).run.run
    (keepingBoth s)

def failure? : Except BridgeError (Option TypedValue) → Option BridgeError
  | .error e => some e
  | .ok _ => none

/-- What is given away is what outside code had. -/
theorem giving_isOutside {c : Conduct} {deeds : List (Deed Unit)}
    (hdeeds : ∀ s, Moves c s (carryOut (.idle _) deeds s)) : (giving deeds).IsOutside c where
  call f args x := by
    let done := carryOut (.idle _) deeds x
    suffices hback : returned handleGiven (((giving deeds).call f args).run x) = done by
      rw [hback]
      exact hdeeds x
    have hrun : ((giving deeds).call f args).run x =
        (match done.guest.ledger.held with
        | .wrapper w :: _ => do
          enterInLedger (·.lose 0)
          return .ok (.object w)
        | _ => return .ok .undefined : Action (Outside Unit) (Except Fault Handle)).run done := rfl
    rw [hrun]
    cases hheld : done.guest.ledger.held with
    | nil => rfl
    | cons first rest =>
      cases first with
      | wrapper w =>
        have hagain : [.wrapper w] ++ done.guest.ledger.held.eraseIdx 0 =
            done.guest.ledger.held := by
          rw [hheld]
          rfl
        have hledger : (done.guest.ledger.lose 0).gain [.wrapper w] = done.guest.ledger := by
          unfold Ledger.lose Ledger.gain
          rw [hagain]
        exact congrArg (fun ledger : Ledger => done.changeLedger fun _ => ledger) hledger
      | _ => rfl
  native _ _ _ x := .rest x
  sink _ _ x := .rest x
  takeFault _ _ x := .rest x
  marshalArgument _ _ _ _ x := .rest x
  marshalResult _ _ _ _ x := .rest x

theorem dropping_isOutside : dropping.IsOutside .fair := by
  apply giving_isOutside
  exact fun s => Moves.carryOut Guest.idle_isOutside rfl s

theorem overspending_isOutside : overspending.IsOutside .any := by
  have hfree : ∀ {d : Deed Unit} {t : World Unit}, d.uses = [] → d.Allowed .any t := by
    intro d t huses
    refine ⟨?_, fun hc => Conduct.noConfusion hc⟩
    rw [huses]
    exact fun u hu => absurd hu List.not_mem_nil
  apply giving_isOutside
  intro s
  exact (Moves.deed (d := .letGo 2) Guest.idle_isOutside (hfree rfl)).trans
    (Moves.deed (d := .unref object) Guest.idle_isOutside (hfree rfl))

theorem furnished_moves (c : Conduct) : Moves c (World.start ()) furnished :=
  (moves_world c).trans (Moves.carryOut Guest.idle_isOutside rfl _)

/-- One more deed, which uses one thing. -/
theorem using_moves {c : Conduct} {s : World Unit} (hs : Moves c (World.start ()) s)
    {d : Deed Unit} {t : Release} (huses : d.uses = [t]) (hused : s.InUse t) (hfair : d.IsFair s) :
    Moves c (World.start ()) ((d.perform (.idle _)).run s).2 := by
  apply hs.trans
  apply Moves.deed Guest.idle_isOutside
  refine ⟨?_, fun _ => hfair⟩
  rw [huses]
  intro u hu
  rw [List.mem_singleton.mp hu]
  exact hused

theorem lent_moves (c : Conduct) : Moves c (World.start ()) lent := by
  have hclosure := using_moves (furnished_moves c) (d := .newClosure bridge ⟨0⟩ none false none
    (some "Ui::Node::changed")) (t := .callable ⟨0⟩) rfl ⟨trivial, trivial, by decide +kernel⟩
    trivial
  have hcallback := using_moves hclosure (d := .newCallback bridge ⟨0⟩ none [type, type] (some type))
    (t := .callable ⟨0⟩) rfl ⟨trivial, trivial, by decide +kernel⟩ trivial
  have hfirst := using_moves hcallback (d := .wrap bridge object true) (t := .bridge bridge) rfl
    ⟨trivial, trivial, by decide +kernel⟩ (by unfold Deed.IsFair; decide +kernel)
  exact using_moves hfirst (d := .wrap bridge second true) (t := .bridge bridge) rfl
    ⟨trivial, trivial, by decide +kernel⟩ (by unfold Deed.IsFair; decide +kernel)

theorem shared_moves : Moves .any (World.start ()) shared :=
  using_moves (lent_moves .any) (d := .wrap otherBridge object false) (t := .bridge otherBridge) rfl
    ⟨trivial, trivial, by decide +kernel⟩ trivial

/-- The closure and the callback are in use, and so is their bridge. -/
def Ready (s : World Unit) : Prop :=
  s.InUse (.closure oneShotClosure) ∧ s.InUse (.callback oneShotCallback) ∧
    s.isBridgeAlive bridge = true

set_option maxRecDepth 2048 in
theorem lent_ready : Ready lent :=
  ⟨⟨trivial, rfl, by decide +kernel⟩, ⟨trivial, rfl, by decide +kernel⟩, by decide +kernel⟩

set_option maxRecDepth 2048 in
theorem shared_ready : Ready shared :=
  ⟨⟨trivial, rfl, by decide +kernel⟩, ⟨trivial, rfl, by decide +kernel⟩, by decide +kernel⟩

theorem oneShot_mirrors : oneShotCallback.Mirrors oneShotClosure := ⟨rfl, rfl, rfl, rfl, rfl⟩

end Sample

/-- The callable comes back with a value, and yet the two differ. Released
arguments and the released value leave their slots in another order. And when
native code gave back a reference that it did not have, so that only the
arguments still held the object of the value, a closure finds it stale. -/
theorem closure_differs_from_callback :
    Sample.oneShotCallback.Mirrors Sample.oneShotClosure ∧
    (Sample.lent.Reached .fair ∧ Sample.dropping.IsOutside .fair ∧ Sample.Ready Sample.lent ∧
      (Sample.throughClosure Sample.dropping Sample.lent).2.heap ≠
        (Sample.throughCallback Sample.dropping Sample.lent).2.heap) ∧
    (Sample.shared.Reached .any ∧ Sample.overspending.IsOutside .any ∧ Sample.Ready Sample.shared ∧
      Sample.failure? (Sample.throughClosure Sample.overspending Sample.shared).1 =
        some (.marshalFailure .result (.native (.staleObject Sample.object))) ∧
      Sample.failure? (Sample.throughCallback Sample.overspending Sample.shared).1 = none) := by
  refine ⟨Sample.oneShot_mirrors, ⟨(Sample.lent_moves .fair).reached, Sample.dropping_isOutside,
    Sample.lent_ready, ?_⟩, Sample.shared_moves.reached, Sample.overspending_isOutside,
    Sample.shared_ready, by decide +kernel, by decide +kernel⟩
  have hclosure : (Sample.throughClosure Sample.dropping Sample.lent).2.heap.free = [1, 0] := by
    decide +kernel
  have hcallback : (Sample.throughCallback Sample.dropping Sample.lent).2.heap.free = [0, 1] := by
    decide +kernel
  intro hsame
  rw [hsame, hcallback] at hclosure
  exact absurd hclosure (by decide)

/-- Through fair code, the small run has a value both ways. -/
theorem sample_callback_agrees_with_closure :
    Sample.Ready Sample.lent ∧
      (Sample.throughClosure Sample.dropping Sample.lent).1.isOk = true ∧
      OneShot .fair Sample.dropping Sample.oneShotClosure (some Sample.type)
        ((Sample.oneShotCallback.prepare Sample.bridge (Sample.oneShotParams.map (·.value))).run.run
          ((Sample.keepingBoth Sample.lent).holdBridge Sample.bridge))
        (Sample.throughClosure Sample.dropping Sample.lent)
        (Sample.throughCallback Sample.dropping Sample.lent) := by
  obtain ⟨hclosure, hcallback, hbridge⟩ := Sample.lent_ready
  exact ⟨Sample.lent_ready, by decide +kernel,
    (callback_agrees_with_closure (Sample.lent_moves .fair).reached Sample.dropping_isOutside
      Sample.oneShot_mirrors (List.cons_ne_nil _ _) rfl hclosure hcallback hbridge).2⟩

end NativeBridge
