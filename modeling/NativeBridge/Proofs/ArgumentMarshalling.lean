-- The arguments of a closure. Its values are converted one after another, each
-- in the state that the one before it left, until one cannot be. With swap the
-- instance is not among them, and the data stands in its place.
import NativeBridge.Proofs.CallbackClosures
import NativeBridge.Proofs.ErrorSlots

namespace NativeBridge

variable {σ τ : Type}

/-! ## Converting one after another -/

/-- These values are converted from this index on: each gets a handle, and
each conversion starts where the one before it ended. -/
inductive Converts (convert : Nat → TypedValue → Attempt σ Handle) :
    Nat → List TypedValue → System σ → List Handle → System σ → Prop where
  | nil (index : Nat) (s : System σ) : Converts convert index [] s [] s
  | cons {index : Nat} {v : TypedValue} {rest : List TypedValue} {h : Handle}
    {handles : List Handle} {s t u : System σ} (hfirst : (convert index v).run.run s = (.ok h, t))
    (hrest : Converts convert (index + 1) rest t handles u) :
    Converts convert index (v :: rest) s (h :: handles) u

section

variable {convert convert' : Nat → TypedValue → Attempt σ Handle} {index : Nat}
  {values before : List TypedValue} {handles : List Handle} {s t u : System σ}

/-- The conversions at other indices make no difference. -/
theorem Converts.congr (h : Converts convert index values s handles t)
    (hsame : ∀ i v, index ≤ i → i < index + values.length → convert' i v = convert i v) :
    Converts convert' index values s handles t := by
  induction h with
  | nil index s => exact .nil index s
  | cons hfirst hrest ih =>
    rw [List.length_cons] at hsame
    refine .cons ?_ (ih fun i v hi hlt => hsame i v (by omega) (by omega))
    rw [hsame _ _ (by omega) (by omega)]
    exact hfirst

/-- Either all values are converted, or there is a first that cannot be. -/
theorem converts_or_stops (convert : Nat → TypedValue → Attempt σ Handle) (index : Nat)
    (values : List TypedValue) (s : System σ) :
    (∃ handles t, Converts convert index values s handles t) ∨
      ∃ before v after handles t e u, values = before ++ v :: after ∧
        Converts convert index before s handles t ∧
        (convert (index + before.length) v).run.run t = (.error e, u) := by
  induction values generalizing index s with
  | nil => exact .inl ⟨[], s, .nil index s⟩
  | cons v rest ih =>
    rcases hfirst : (convert index v).run.run s with ⟨e | h, t⟩
    · exact .inr ⟨[], v, rest, [], s, e, t, rfl, .nil index s, hfirst⟩
    · rcases ih (index + 1) t with ⟨handles, u, hrest⟩ | ⟨before, w, after, handles, u, e, u', rfl,
        hbefore, hfailed⟩
      · exact .inl ⟨h :: handles, u, .cons hfirst hrest⟩
      · refine .inr ⟨v :: before, w, after, h :: handles, u, e, u', rfl, .cons hfirst hbefore, ?_⟩
        rw [List.length_cons, Nat.add_comm before.length, ← Nat.add_assoc]
        exact hfailed

/-- The error of a conversion is named by its place. -/
def named (convert : Nat → TypedValue → Attempt σ Handle) (index : Nat) (v : TypedValue) :
    Attempt σ Handle := atSite (.argument index) (convert index v)

theorem marshalFrom_of_first {h : Handle} {v : TypedValue} (rest : List TypedValue)
    (done : List Handle) (hfirst : (convert index v).run.run s = (.ok h, t)) :
    (marshalFrom (named convert) index done (v :: rest)).run.run s =
      (marshalFrom (named convert) (index + 1) (done ++ [h]) rest).run.run t := by
  rw [marshalFrom, named, run_bind_of_ok s (run_outcomeOf s _), run_atSite, hfirst]
  rfl

theorem Converts.marshalFrom_eq (h : Converts convert index before s handles t)
    (done : List Handle) (after : List TypedValue) :
    (marshalFrom (named convert) index done (before ++ after)).run.run s =
      (marshalFrom (named convert) (index + before.length) (done ++ handles) after).run.run t := by
  induction h generalizing done with
  | nil index s => rw [List.append_nil]; rfl
  | cons hfirst hrest ih =>
    rw [List.cons_append, marshalFrom_of_first _ done hfirst, ih, List.append_assoc,
      List.length_cons, Nat.add_comm (List.length _), ← Nat.add_assoc]
    rfl

/-- Nothing is converted at an earlier index. -/
theorem marshalFrom_congr (hsame : ∀ i v, index ≤ i → convert' i v = convert i v)
    (done : List Handle) (values : List TypedValue) :
    marshalFrom convert' index done values = marshalFrom convert index done values := by
  induction values generalizing index done with
  | nil => rfl
  | cons v rest ih =>
    have hrest : ∀ h, marshalFrom convert' (index + 1) (done ++ [h]) rest =
        marshalFrom convert (index + 1) (done ++ [h]) rest :=
      fun h => ih (fun i v hi => hsame i v (by omega)) _
    simp only [marshalFrom, hsame index v (Nat.le_refl index), hrest]

theorem marshalFrom_of_converted (h : Converts convert index values s handles t)
    (done : List Handle) :
    (marshalFrom (named convert) index done values).run.run s = (.ok (done ++ handles), t) := by
  have hall := h.marshalFrom_eq done []
  rw [List.append_nil] at hall
  exact hall

theorem marshalFrom_of_stopped {v : TypedValue} {e : BridgeError}
    (h : Converts convert index before s handles t)
    (hfailed : (convert (index + before.length) v).run.run t = (.error e, u))
    (done : List Handle) (after : List TypedValue) :
    (marshalFrom (named convert) index done (before ++ v :: after)).run.run s =
      (.error (.marshalFailure (.argument (index + before.length)) e),
        u.releaseHandles (done ++ handles)) := by
  rw [h.marshalFrom_eq, marshalFrom, named, run_bind_of_ok t (run_outcomeOf t _), run_atSite,
    hfailed]
  rfl

end

/-! ## The arguments of a closure -/

def System.holdHandles (s : System σ) (handles : List Handle) : System σ :=
  handles.foldl System.holdHandle s

namespace Closure

/-- How a closure converts a value, by its marshaller if it has one. -/
def conversion (g : Guest σ) (x : Closure) (index : Nat) (v : TypedValue) : Attempt σ Handle :=
  match x.marshaller with
  | some m => g.marshalArgument m x.runtime index v
  | none => toHandle x.runtime v

/-- The first index that is converted. The instance has index 0. -/
def firstIndex (x : Closure) : Nat := if x.swap then 1 else 0

/-- With swap, the data comes first, in place of the instance. -/
def leading (x : Closure) : List Handle := if x.swap then [x.data.getD .undefined] else []

/-- Without swap, the data comes last, if there is any. -/
def trailing (x : Closure) : List Handle := if x.swap then [] else x.data.toList

/-- The state in which the first value is converted. -/
def start (x : Closure) (s : System σ) : System σ :=
  (s.holdBridge x.runtime).holdHandles x.leading

/-- What a closure does when it has the arguments of its callable. -/
def callWith (g : Guest σ) (x : Closure) (args : List Handle) (type : Option TypeId) :
    Attempt σ (Option TypedValue) := do
  let outcome ← callGuarded g x.runtime x.callable args
  modify (·.releaseHandles args)
  match outcome with
  | .ok value => releasingAfter value.releases (x.convertResult g value type)
  | .error fault =>
    let relay := ((← get).bridge x.runtime).relay
    let _ ← doing (captureFault relay fault x.origin x.runtime)
    return none

section

variable {g : Guest σ} {x : Closure} {params before after : List TypedValue}
  {handles : List Handle} {s t u : System σ}

theorem firstIndex_of_swap (hswap : x.swap = true) : x.firstIndex = 1 := by
  simp [firstIndex, hswap]

/-- The handles, with the trailing data if nothing failed. -/
def close (x : Closure) : Except BridgeError (List Handle) × System σ →
    Except BridgeError (List Handle) × System σ
  | (.ok handles, t) => (.ok (handles ++ x.trailing), t.holdHandles x.trailing)
  | (.error e, t) => (.error e, t)

/-- With swap or without, the values are converted from the first index on. -/
theorem marshalArguments_eq (hne : params ≠ []) (s : System σ) :
    (x.marshalArguments g params).run.run s =
      x.close ((marshalFrom (named (x.conversion g)) x.firstIndex x.leading
        (params.drop x.firstIndex)).run.run (s.holdHandles x.leading)) := by
  obtain ⟨v, rest, rfl⟩ := List.exists_cons_of_ne_nil hne
  have hnamed : x.marshalArgument g = named (x.conversion g) := rfl
  cases hswap : x.swap with
  | true =>
    have hleading : x.leading = [x.data.getD .undefined] := by simp [leading, hswap]
    have htrailing : x.trailing = [] := by simp [trailing, hswap]
    have hrun : (x.marshalArguments g (v :: rest)).run.run s =
        (marshalFrom (named (x.conversion g)) 1 x.leading rest).run.run
          (s.holdHandles x.leading) := by
      unfold marshalArguments
      dsimp only
      rw [if_pos hswap, hnamed, hleading]
      rfl
    rw [hrun, firstIndex_of_swap hswap, List.drop_one, List.tail_cons]
    rcases (marshalFrom (named (x.conversion g)) 1 x.leading rest).run.run
      (s.holdHandles x.leading) with ⟨e | handles, t⟩
    · rfl
    · rw [close, htrailing, List.append_nil]
      rfl
  | false =>
    have hfirst : x.firstIndex = 0 := by simp [firstIndex, hswap]
    have hleading : x.leading = [] := by simp [leading, hswap]
    have htrailing : x.trailing = x.data.toList := by simp [trailing, hswap]
    rw [hfirst, hleading, List.drop_zero]
    change _ = x.close ((marshalFrom (named (x.conversion g)) 0 [] (v :: rest)).run.run s)
    unfold marshalArguments
    dsimp only
    rw [if_neg (by simp [hswap]), hnamed]
    rcases hmade : (marshalFrom (named (x.conversion g)) 0 [] (v :: rest)).run.run s with
      ⟨e | handles, t⟩
    · rw [run_bind_of_error s hmade]
      rfl
    · rw [run_bind_of_ok s hmade, close, htrailing]
      cases hdata : x.data with
      | none =>
        rw [Option.toList_none, List.append_nil]
        rfl
      | some data =>
        unfold takeData
        rw [hdata]
        rfl

theorem marshalArguments_of_converted (hne : params ≠ [])
    (h : Converts (x.conversion g) x.firstIndex (params.drop x.firstIndex)
      (s.holdHandles x.leading) handles t) :
    (x.marshalArguments g params).run.run s =
      (.ok (x.leading ++ handles ++ x.trailing), t.holdHandles x.trailing) := by
  rw [marshalArguments_eq hne, marshalFrom_of_converted h]
  rfl

theorem marshalArguments_of_stopped {v : TypedValue} {e : BridgeError}
    (hvalues : params.drop x.firstIndex = before ++ v :: after)
    (h : Converts (x.conversion g) x.firstIndex before (s.holdHandles x.leading) handles t)
    (hfailed : (x.conversion g (x.firstIndex + before.length) v).run.run t = (.error e, u)) :
    (x.marshalArguments g params).run.run s =
      (.error (.marshalFailure (.argument (x.firstIndex + before.length)) e),
        u.releaseHandles (x.leading ++ handles)) := by
  have hne : params ≠ [] := by
    rintro rfl
    simp at hvalues
  rw [marshalArguments_eq hne, hvalues, marshalFrom_of_stopped h hfailed]
  rfl

/-! ## Invocations -/

theorem mayRun_holdBridge (s : System σ) (r : RuntimeId) :
    (s.holdBridge r).mayRun r = s.mayRun r := by
  have hbridge : (s.holdBridge r).bridge r = s.bridge r :=
    congrArg (·.getD default) (SharedTable.get?_hold s.bridges r.number r.number)
  unfold System.mayRun
  rw [hbridge]
  rfl

/-- An invocation that may run marshals the arguments, and calls with them. -/
theorem invoke_eq (halive : s.isBridgeAlive x.runtime = true) (hplace : s.mayRun x.runtime = true)
    (params : List TypedValue) (type : Option TypeId) :
    (x.invoke g params type).run.run s =
      (releasingAfter [.bridge x.runtime] (x.marshalArguments g params >>= fun args =>
        x.callWith g args type)).run.run (s.holdBridge x.runtime) := by
  have hcheck : (checkContext x.runtime).run.run (s.holdBridge x.runtime) =
      (.ok (), s.holdBridge x.runtime) := by
    rw [run_checkContext, mayRun_holdBridge, hplace]
    rfl
  have hrun : (x.run g params type).run.run (s.holdBridge x.runtime) =
      (x.marshalArguments g params >>= fun args => x.callWith g args type).run.run
        (s.holdBridge x.runtime) := run_bind_of_ok _ hcheck
  have hinvoke : (x.invoke g params type).run.run s =
      (releasingAfter [.bridge x.runtime] (x.run g params type)).run.run
        (s.holdBridge x.runtime) := by
    unfold invoke
    rw [run_get_bind, if_pos halive]
    rfl
  rw [hinvoke, run_releasingAfter, run_releasingAfter, hrun]

theorem invoke_of_ok (halive : s.isBridgeAlive x.runtime = true)
    (hplace : s.mayRun x.runtime = true) (type : Option TypeId)
    (hmade : (x.marshalArguments g params).run.run (s.holdBridge x.runtime) = (.ok handles, t)) :
    (x.invoke g params type).run.run s =
      (releasingAfter [.bridge x.runtime] (x.callWith g handles type)).run.run t := by
  rw [invoke_eq halive hplace, run_releasingAfter, run_bind_of_ok _ hmade, run_releasingAfter]

theorem invoke_of_error {e : BridgeError} (halive : s.isBridgeAlive x.runtime = true)
    (hplace : s.mayRun x.runtime = true) (type : Option TypeId)
    (hmade : (x.marshalArguments g params).run.run (s.holdBridge x.runtime) = (.error e, t)) :
    (x.invoke g params type).run.run s = (.error e, t.release [.bridge x.runtime]) := by
  rw [invoke_eq halive hplace, run_releasingAfter, run_bind_of_error _ hmade]

/-- An invocation ends at the first value that cannot be converted. -/
theorem invoke_of_stopped {v : TypedValue} {e : BridgeError}
    (halive : s.isBridgeAlive x.runtime = true) (hplace : s.mayRun x.runtime = true)
    (type : Option TypeId) (hvalues : params.drop x.firstIndex = before ++ v :: after)
    (h : Converts (x.conversion g) x.firstIndex before (x.start s) handles t)
    (hfailed : (x.conversion g (x.firstIndex + before.length) v).run.run t = (.error e, u)) :
    (x.invoke g params type).run.run s =
      (.error (.marshalFailure (.argument (x.firstIndex + before.length)) e),
        (u.releaseHandles (x.leading ++ handles)).release [.bridge x.runtime]) :=
  invoke_of_error halive hplace type (marshalArguments_of_stopped hvalues h hfailed)

/-- With swap, the instance is not converted. -/
theorem invoke_of_swap (hswap : x.swap = true) (halive : s.isBridgeAlive x.runtime = true)
    (hplace : s.mayRun x.runtime = true) (type : Option TypeId)
    {marshalArgument : Marshaller → RuntimeId → Nat → TypedValue → Attempt σ Handle}
    (hsame : ∀ m i v, i ≠ 0 →
      marshalArgument m x.runtime i v = g.marshalArgument m x.runtime i v)
    (instance₁ instance₂ : TypedValue) (rest : List TypedValue) :
    (x.invoke { g with marshalArgument } (instance₁ :: rest) type).run.run s =
      (x.invoke g (instance₂ :: rest) type).run.run s := by
  have hconversion : ∀ i v, 1 ≤ i →
      x.conversion { g with marshalArgument } i v = x.conversion g i v := by
    intro i v hi
    unfold conversion
    cases x.marshaller with
    | none => rfl
    | some m => exact hsame m i v (by omega)
  have hnamed : ∀ i v, 1 ≤ i →
      named (x.conversion { g with marshalArgument }) i v = named (x.conversion g) i v :=
    fun i v hi => congrArg (atSite (.argument i)) (hconversion i v hi)
  have hmarshal : ∀ t : System σ,
      (x.marshalArguments { g with marshalArgument } (instance₁ :: rest)).run.run t =
        (x.marshalArguments g (instance₂ :: rest)).run.run t := by
    intro t
    rw [marshalArguments_eq (List.cons_ne_nil _ _), marshalArguments_eq (List.cons_ne_nil _ _),
      firstIndex_of_swap hswap, marshalFrom_congr hnamed]
    rfl
  rcases hmade : (x.marshalArguments g (instance₂ :: rest)).run.run (s.holdBridge x.runtime) with
    ⟨e | handles, t⟩
  · rw [invoke_of_error halive hplace type hmade,
      invoke_of_error halive hplace type ((hmarshal _).trans hmade)]
  · rw [invoke_of_ok halive hplace type hmade,
      invoke_of_ok halive hplace type ((hmarshal _).trans hmade)]
    rfl

end

end Closure

/-! ## Relays and error slots -/

/-- All relays and all error slots are as they were. -/
structure Untouched (s t : World τ) : Prop where
  relays : t.relayLog = s.relayLog
  slots : ∀ r, t.errorSlot r = s.errorSlot r

theorem Untouched.isCourse : IsCourse (Untouched (τ := τ)) where
  quiet h := ⟨h.log, fun r => (keepsSlot_isCourse r).quiet h⟩
  fallback s r type package := ⟨s.relayLog_noteFallback r type package,
    fun r' => (keepsSlot_isCourse r').fallback s r type package⟩
  heap _ := ⟨rfl, fun _ => rfl⟩
  trans h h' := ⟨h'.relays.trans h.relays, fun r => (h'.slots r).trans (h.slots r)⟩

section

variable {g : Guest (Outside τ)} {x : Closure} {values : List TypedValue}
  {handles : List Handle} {s t : World τ}

/-- A closure without a marshaller touches neither, nor does one whose
marshaller does not. -/
theorem Closure.conversion_untouched
    (hmarshaller : ∀ m, x.marshaller = some m →
      ∀ i v, Attempts Untouched (g.marshalArgument m x.runtime i v)) (index : Nat)
    (v : TypedValue) : Attempts Untouched (x.conversion g index v) := by
  unfold Closure.conversion
  cases hm : x.marshaller with
  | none => exact toHandle_attempts Untouched.isCourse x.runtime v
  | some m => exact hmarshaller m hm index v

theorem Converts.untouched {convert : Nat → TypedValue → Attempt (Outside τ) Handle} {index : Nat}
    (h : Converts convert index values s handles t)
    (hconvert : ∀ i v, Attempts Untouched (convert i v)) : Untouched s t := by
  induction h with
  | nil index s => exact Untouched.isCourse.refl s
  | @cons index v rest h handles s t u hfirst hrest ih =>
    have hstep := hconvert index v s
    rw [hfirst] at hstep
    exact Untouched.isCourse.trans hstep ih

theorem untouched_holdHandles (s : World τ) (handles : List Handle) :
    Untouched s (s.holdHandles handles) := by
  induction handles generalizing s with
  | nil => exact Untouched.isCourse.refl s
  | cons h rest ih =>
    exact Untouched.isCourse.trans (holdHandle_course Untouched.isCourse s h) (ih _)

end

/-! ## The law -/

/-- All values from the first index on are converted, one after another. The
callable gets exactly their handles, after the data or before it. -/
structure Closure.Passes (g : Guest σ) (x : Closure) (params : List TypedValue)
    (type : Option TypeId) (s : System σ) (handles : List Handle) (t : System σ) : Prop where
  converted : Converts (x.conversion g) x.firstIndex (params.drop x.firstIndex) (x.start s) handles t
  called : (x.invoke g params type).run.run s =
    (releasingAfter [.bridge x.runtime]
      (x.callWith g (x.leading ++ handles ++ x.trailing) type)).run.run (t.holdHandles x.trailing)

/-- The value at this index is the first that cannot be converted. -/
structure Closure.StopsAt (g : Guest (Outside τ)) (x : Closure) (params : List TypedValue)
    (type : Option TypeId) (s : World τ) (k : Nat) (e : BridgeError) (handles : List Handle)
    (t u : World τ) : Prop where
  reached : x.firstIndex ≤ k
  converted : Converts (x.conversion g) x.firstIndex ((params.take k).drop x.firstIndex) (x.start s)
    handles t
  failed : ∃ v, params[k]? = some v ∧ (x.conversion g k v).run.run t = (.error e, u)
  /-- Nothing is done but to release the handles before it. -/
  ended : (x.invoke g params type).run.run s = (.error (.marshalFailure (.argument k) e),
    (u.releaseHandles (x.leading ++ handles)).release [.bridge x.runtime])
  /-- Later values, conversions at later indices and the callable make no
  difference. -/
  alone : ∀ g' later, (∀ i v, i ≤ k → x.conversion g' i v = x.conversion g i v) →
    (x.invoke g' (params.take (k + 1) ++ later) type).run.run s =
      (x.invoke g params type).run.run s
  /-- Only conversions could change a relay or an error slot. -/
  untouched_before : Untouched s (x.start s)
  untouched_after : Untouched u ((x.invoke g params type).run.run s).2
  /-- Those without a marshaller change none. -/
  untouched : (∀ m, x.marshaller = some m →
    ∀ i v, Attempts Untouched (g.marshalArgument m x.runtime i v)) →
      Untouched s ((x.invoke g params type).run.run s).2

section

variable {g : Guest (Outside τ)} {x : Closure} {params before after : List TypedValue}
  {type : Option TypeId} {handles : List Handle} {s t u : World τ} {v : TypedValue}

/-- The values up to one, with others after it. -/
theorem drop_take_append {n : Nat} (hvalues : params.drop n = before ++ v :: after)
    (later : List TypedValue) :
    (params.take (n + before.length + 1) ++ later).drop n = before ++ v :: later := by
  have hlength := congrArg List.length hvalues
  rw [List.length_drop, List.length_append, List.length_cons] at hlength
  have hkept : n ≤ (params.take (n + before.length + 1)).length := by
    rw [List.length_take]
    omega
  have htaken : n + before.length + 1 - n = before.length + 1 := by omega
  rw [List.drop_append_of_le_length hkept, List.drop_take, hvalues, htaken,
    List.take_length_add_append, List.take_succ_cons, List.take_zero, List.append_assoc]
  rfl

theorem Closure.stopsAt {e : BridgeError} (halive : s.isBridgeAlive x.runtime = true)
    (hplace : s.mayRun x.runtime = true) (hvalues : params.drop x.firstIndex = before ++ v :: after)
    (hbefore : Converts (x.conversion g) x.firstIndex before (x.start s) handles t)
    (hfailed : (x.conversion g (x.firstIndex + before.length) v).run.run t = (.error e, u)) :
    x.StopsAt g params type s (x.firstIndex + before.length) e handles t u := by
  have hR := Untouched.isCourse (τ := τ)
  have hended := invoke_of_stopped halive hplace type hvalues hbefore hfailed
  have hstart : Untouched s (x.start s) :=
    hR.trans (hR.quiet (.holdBridge s x.runtime)) (untouched_holdHandles _ _)
  have hreleased : Untouched u ((x.invoke g params type).run.run s).2 := by
    rw [hended]
    exact hR.trans (release_course hR _ _) (release_course hR _ _)
  refine ⟨Nat.le_add_right _ _, ?_, ⟨v, ?_, hfailed⟩, hended, ?_, hstart, hreleased, ?_⟩
  · rw [List.drop_take, hvalues, Nat.add_sub_cancel_left, List.take_left]
    exact hbefore
  · rw [← List.getElem?_drop, hvalues, List.getElem?_append_right (Nat.le_refl _), Nat.sub_self]
    rfl
  · intro g' later hsame
    have hbefore' := hbefore.congr fun i w _ hi => hsame i w (by omega)
    have hfailed' : (x.conversion g' (x.firstIndex + before.length) v).run.run t = (.error e, u) := by
      rw [hsame _ v (Nat.le_refl _), hfailed]
    have hvalues' := drop_take_append hvalues later
    exact (invoke_of_stopped halive hplace type hvalues' hbefore' hfailed').trans hended.symm
  · intro hmarshaller
    have hconvert := conversion_untouched hmarshaller
    have hlast := hconvert (x.firstIndex + before.length) v t
    rw [hfailed] at hlast
    exact hR.trans hstart (hR.trans (hbefore.untouched hconvert) (hR.trans hlast hreleased))

end

/-- Without an instance, an invocation that may run fails. With one, either all
values are converted and the callable is called with them, or the invocation
stops at the first that cannot be. With swap, no conversion sees the instance. -/
theorem argument_marshalling (g : Guest (Outside τ)) (x : Closure) (type : Option TypeId)
    {s : World τ} (halive : s.isBridgeAlive x.runtime = true)
    (hplace : s.mayRun x.runtime = true) :
    let done (g : Guest (Outside τ)) (params : List TypedValue) :=
      (x.invoke g params type).run.run s
    ((done g []).1 = .error (.argumentCount 1 0) ∧ Untouched s (done g []).2) ∧
    (∀ params, params ≠ [] →
      (∃ handles t, x.Passes g params type s handles t) ∨
      ∃ k e handles t u, x.StopsAt g params type s k e handles t u) ∧
    (x.swap = true → ∀ instance₁ instance₂ rest marshalArgument,
      (∀ m i v, i ≠ 0 → marshalArgument m x.runtime i v = g.marshalArgument m x.runtime i v) →
      done { g with marshalArgument } (instance₁ :: rest) = done g (instance₂ :: rest)) := by
  intro done
  have hR := Untouched.isCourse (τ := τ)
  refine ⟨?_, ?_, fun hswap instance₁ instance₂ rest marshalArgument hsame =>
    Closure.invoke_of_swap hswap halive hplace type hsame instance₁ instance₂ rest⟩
  · have hempty : (x.marshalArguments g []).run.run (s.holdBridge x.runtime) =
        (.error (.argumentCount 1 0), s.holdBridge x.runtime) := rfl
    have hdone : done g [] = _ := Closure.invoke_of_error halive hplace type hempty
    rw [hdone]
    exact ⟨rfl, hR.trans (hR.quiet (.holdBridge s x.runtime)) (release_course hR _ _)⟩
  · intro params hne
    rcases converts_or_stops (x.conversion g) x.firstIndex (params.drop x.firstIndex) (x.start s)
      with ⟨handles, t, hall⟩ | ⟨before, v, after, handles, t, e, u, hvalues, hbefore, hfailed⟩
    · have hmade := Closure.marshalArguments_of_converted hne hall
      exact .inl ⟨handles, t, hall, Closure.invoke_of_ok halive hplace type hmade⟩
    · exact .inr ⟨_, e, handles, t, u, Closure.stopsAt halive hplace hvalues hbefore hfailed⟩

namespace Sample

/-- The second object does not exist. -/
def strayArguments : List TypedValue := [⟨type, .object object⟩, ⟨type, .object second⟩]

def swappedClosure : Closure := { closure with swap := true }

end Sample

/-- The second argument is named as the one that fails. With swap, the first
one may be anything. -/
theorem sample_argument_marshalling :
    let done := (Sample.closure.invoke Sample.failing Sample.strayArguments none).run.run Sample.armed
    let swapped params :=
      (Sample.swappedClosure.invoke Sample.failing params (some Sample.type)).run.run Sample.armed
    Sample.failure? done.1 =
        some (.marshalFailure (.argument 1) (.native (.staleObject Sample.second))) ∧
      Untouched Sample.armed done.2 ∧
      swapped (Sample.strayArguments.drop 1) = swapped (Sample.strayArguments.take 1) := by
  have halive : Sample.armed.isBridgeAlive Sample.bridge = true := by decide +kernel
  have hplace : Sample.armed.mayRun Sample.bridge = true := by decide +kernel
  obtain ⟨-, hmarshal, -⟩ :=
    argument_marshalling Sample.failing Sample.closure none halive hplace
  obtain ⟨-, -, hswap⟩ :=
    argument_marshalling Sample.failing Sample.swappedClosure (some Sample.type) halive hplace
  refine ⟨by decide +kernel, ?_, hswap rfl _ _ [] _ fun _ _ _ _ => rfl⟩
  have hne : Sample.strayArguments ≠ [] := List.cons_ne_nil _ _
  rcases hmarshal Sample.strayArguments hne with
    ⟨handles, t, hpasses⟩ | ⟨_, _, _, _, _, hstops⟩
  · have hrefused : ((Sample.closure.marshalArguments Sample.failing Sample.strayArguments).run.run
        (Sample.armed.holdBridge Sample.closure.runtime)).1.isOk = false := by
      decide +kernel
    rw [Closure.marshalArguments_of_converted hne hpasses.converted] at hrefused
    exact Bool.noConfusion hrefused
  · exact hstops.untouched fun m hm => absurd hm.symm (Option.some_ne_none m)

end NativeBridge
