import CipherMesh.Foundation.Mutation

/-!
# Postconditions of mutating methods

`Ensures` is the weakest precondition of a method for two postconditions, one for
the result and one for the error it fails with.  The equations push it through the
combinators, and `mono` applies what is known of a called method.
-/

namespace Foundation

namespace Mutation

variable {σ τ ε δ α β : Type}

/-- Called in this state, the method returns a result with `returned` or fails with an
error with `failed`. -/
def Ensures (method : Mutation σ ε α) (state : σ) (returned : α → σ → Prop)
    (failed : ε → σ → Prop) : Prop :=
  match method.run state with
  | (.ok value, reached) => returned value reached
  | (.error error, reached) => failed error reached

/-- Fail with the converted error, as the question mark operator does. -/
def mapError (convert : ε → δ) (method : Mutation σ ε α) : Mutation σ δ α := fun state =>
  match method state with
  | (.ok value, reached) => (.ok value, reached)
  | (.error error, reached) => (.error (convert error), reached)

variable {state : σ} {returned : α → σ → Prop} {failed : ε → σ → Prop}

namespace Ensures

theorem mono {method : Mutation σ ε α} {returned' : α → σ → Prop} {failed' : ε → σ → Prop}
    (ensures : method.Ensures state returned failed)
    (weakerReturn : ∀ value reached, returned value reached → returned' value reached)
    (weakerFailure : ∀ error reached, failed error reached → failed' error reached) :
    method.Ensures state returned' failed' := by
  unfold Ensures at ensures ⊢
  split at ensures
  · exact weakerReturn _ _ ensures
  · exact weakerFailure _ _ ensures

theorem and {method : Mutation σ ε α} {returned' : α → σ → Prop} {failed' : ε → σ → Prop}
    (first : method.Ensures state returned failed)
    (second : method.Ensures state returned' failed') :
    method.Ensures state (fun value reached => returned value reached ∧ returned' value reached)
      (fun error reached => failed error reached ∧ failed' error reached) := by
  unfold Ensures at first second ⊢
  split <;> simp_all

/-- What holds of every outcome holds of the state that was reached. -/
theorem reached {method : Mutation σ ε α} {property : σ → Prop}
    (ensures : method.Ensures state (fun _ => property) (fun _ => property)) :
    property (method.run state).2 := by
  unfold Ensures at ensures
  split at ensures
  · next run => rwa [run]
  · next run => rwa [run]

theorem of_ok {method : Mutation σ ε α} {value : α} {after : σ}
    (ensures : method.Ensures state returned failed)
    (run : method.run state = (.ok value, after)) : returned value after := by
  unfold Ensures at ensures
  rwa [run] at ensures

theorem of_error {method : Mutation σ ε α} {error : ε} {after : σ}
    (ensures : method.Ensures state returned failed)
    (run : method.run state = (.error error, after)) : failed error after := by
  unfold Ensures at ensures
  rwa [run] at ensures

theorem of_result {method : Mutation σ ε α} {value : α}
    (ensures : method.Ensures state returned failed)
    (result : (method.run state).1 = .ok value) : returned value (method.run state).2 :=
  ensures.of_ok (Prod.ext result rfl)

/-- A method that does not fail returns. -/
theorem exists_ok {method : Mutation σ ε α}
    (ensures : method.Ensures state returned fun _ _ => False) :
    ∃ value after, method.run state = (.ok value, after) ∧ returned value after := by
  rcases outcome : method.run state with ⟨error | value, after⟩
  · exact (ensures.of_error outcome).elim
  · exact ⟨value, after, rfl, ensures.of_ok outcome⟩

/-- A call that returns has reached a state. -/
theorem exists_run_eq {method : Mutation σ ε α} {value : α}
    (result : (method.run state).1 = .ok value) :
    ∃ value after, method.run state = (.ok value, after) :=
  ⟨value, (method.run state).2, Prod.ext result rfl⟩

/-- A method ends as it runs. -/
theorem run {method : Mutation σ ε α} :
    method.Ensures state (fun value after => method.run state = (.ok value, after))
      (fun error after => method.run state = (.error error, after)) := by
  rcases outcome : method.run state with ⟨error | value, reached⟩ <;>
    simp only [Ensures, outcome]

theorem trivial {method : Mutation σ ε α} :
    method.Ensures state (fun _ _ => True) (fun _ _ => True) :=
  run.mono (fun _ _ _ => True.intro) (fun _ _ _ => True.intro)

end Ensures

@[simp] theorem ensures_pure {value : α} :
    (pure value : Mutation σ ε α).Ensures state returned failed ↔ returned value state :=
  Iff.rfl

@[simp] theorem ensures_bind {method : Mutation σ ε α} {next : α → Mutation σ ε β}
    {returned : β → σ → Prop} :
    (method >>= next).Ensures state returned failed ↔
      method.Ensures state (fun value reached => (next value).Ensures reached returned failed)
        failed := by
  unfold Ensures
  rw [run_bind]
  rcases method.run state with ⟨error | value, reached⟩ <;> rfl

@[simp] theorem ensures_get {returned : σ → σ → Prop} :
    (get : Mutation σ ε σ).Ensures state returned failed ↔ returned state state :=
  Iff.rfl

@[simp] theorem ensures_modify {update : σ → σ} {returned : Unit → σ → Prop} :
    (modify update : Mutation σ ε Unit).Ensures state returned failed ↔
      returned () (update state) :=
  Iff.rfl

@[simp] theorem ensures_fail {error : ε} :
    (fail error : Mutation σ ε α).Ensures state returned failed ↔ failed error state :=
  Iff.rfl

@[simp] theorem ensures_mapError {convert : δ → ε} {method : Mutation σ δ α} :
    (mapError convert method).Ensures state returned failed ↔
      method.Ensures state returned (fun error => failed (convert error)) := by
  unfold Ensures mapError run
  rcases outcome : method state with ⟨error | value, reached⟩ <;> simp only [outcome]

@[simp] theorem ensures_focus {read : σ → τ} {write : τ → σ → σ} {method : Mutation τ ε α} :
    (focus read write method).Ensures state returned failed ↔
      method.Ensures (read state) (fun value field => returned value (write field state))
        (fun error field => failed error (write field state)) := by
  unfold Ensures
  rw [run_focus]
  rcases method.run (read state) with ⟨error | value, reached⟩ <;> rfl

/-- A method of an optional field either finds the field or leaves the state. -/
theorem ensures_focusSome {error : ε} {read : σ → Option τ} {write : τ → σ → σ}
    {method : Mutation τ ε α} {returned : α → Prop}
    (ensures : ∀ field, method.Ensures field (fun value _ => returned value) fun _ _ => True) :
    (focusSome error read write method).Ensures state (fun value _ => returned value)
      (fun _ _ => True) := by
  cases present : read state with
  | none => simp [Ensures, Mutation.run, focusSome, present]
  | some field =>
      have fieldEnsures := ensures field
      unfold Ensures at fieldEnsures ⊢
      rw [run_focusSome error write method present]
      rcases outcome : method.run field with ⟨error | value, reached⟩
      · trivial
      · rwa [outcome] at fieldEnsures

@[simp] theorem ensures_ite {condition : Prop} [Decidable condition]
    {first second : Mutation σ ε α} :
    (if condition then first else second).Ensures state returned failed ↔
      (condition → first.Ensures state returned failed) ∧
        (¬ condition → second.Ensures state returned failed) := by
  split <;> simp_all

/-- A computed result is unpacked by cases. -/
theorem ensures_lift {result : Except ε α} :
    (lift result : Mutation σ ε α).Ensures state returned failed ↔
      (∀ value, result = .ok value → returned value state) ∧
        (∀ error, result = .error error → failed error state) := by
  cases result <;> simp [Ensures, run, lift]

theorem ensures_okOr {error : ε} {value : Option α} :
    (okOr error value : Mutation σ ε α).Ensures state returned failed ↔
      (∀ present, value = some present → returned present state) ∧
        (value = none → failed error state) := by
  cases value <;> simp [Ensures, run, okOr, fail, pure]

@[simp] theorem ensures_okOr_some {error : ε} {value : α} :
    (okOr error (some value) : Mutation σ ε α).Ensures state returned failed ↔
      returned value state :=
  Iff.rfl

/-! ## Invariants -/

/-- Wherever the method starts with the property it ends with it, also when it fails. -/
def Keeps (property : σ → Prop) (method : Mutation σ ε α) : Prop :=
  ∀ state, property state →
    method.Ensures state (fun _ => property) (fun _ => property)

namespace Keeps

variable {property : σ → Prop}

theorem pure (value : α) : Keeps property (pure value : Mutation σ ε α) :=
  fun _ holds => holds

theorem bind {method : Mutation σ ε α} {next : α → Mutation σ ε β}
    (first : Keeps property method) (rest : ∀ value, Keeps property (next value)) :
    Keeps property (method >>= next) := by
  intro state holds
  rw [ensures_bind]
  exact (first state holds).mono (fun value reached => rest value reached) fun _ _ => id

theorem get : Keeps property (get : Mutation σ ε σ) :=
  fun _ holds => holds

theorem modify {update : σ → σ} (keeps : ∀ state, property state → property (update state)) :
    Keeps property (modify update : Mutation σ ε Unit) :=
  keeps

theorem lift (result : Except ε α) : Keeps property (lift result : Mutation σ ε α) :=
  fun _ holds => ensures_lift.mpr ⟨fun _ _ => holds, fun _ _ => holds⟩

theorem okOr (error : ε) (value : Option α) :
    Keeps property (okOr error value : Mutation σ ε α) :=
  fun _ holds => ensures_okOr.mpr ⟨fun _ _ => holds, fun _ => holds⟩

theorem mapError {convert : δ → ε} {method : Mutation σ δ α} (keeps : Keeps property method) :
    Keeps property (mapError convert method) :=
  fun state holds => ensures_mapError.mpr (keeps state holds)

theorem and {method : Mutation σ ε α} {other : σ → Prop} (first : Keeps property method)
    (second : Keeps other method) : Keeps (fun state => property state ∧ other state) method :=
  fun state holds => ((first state holds.1).and (second state holds.2)).mono (fun _ _ => id)
    fun _ _ => id

/-- A property of a field is kept by the methods of the field. -/
theorem focus {read : σ → τ} {write : τ → σ → σ} {method : Mutation τ ε α}
    (fieldProperty : σ → τ → Prop)
    (opens : ∀ state, property state → fieldProperty state (read state))
    (closes : ∀ state field, property state → fieldProperty state field →
      property (write field state))
    (keeps : ∀ state, property state → Keeps (fieldProperty state) method) :
    Keeps property (focus read write method) := by
  intro state holds
  rw [ensures_focus]
  exact (keeps state holds _ (opens state holds)).mono
    (fun _ field => closes state field holds) fun _ field => closes state field holds

end Keeps

theorem mapError_bind (convert : δ → ε) (method : Mutation σ δ α) (next : α → Mutation σ δ β) :
    mapError convert (method >>= next) =
      mapError convert method >>= fun value => mapError convert (next value) := by
  funext state
  simp only [mapError, bind]
  rcases method state with ⟨error | value, reached⟩ <;> rfl

/-- A field that is written twice has the last value. -/
theorem focus_bind {read : σ → τ} {write : τ → σ → σ}
    (readBack : ∀ field state, read (write field state) = field)
    (overwrites : ∀ first second state, write first (write second state) = write first state)
    (method : Mutation τ ε α) (next : α → Mutation τ ε β) :
    focus read write (method >>= next) =
      focus read write method >>= fun value => focus read write (next value) := by
  funext state
  simp only [focus, bind]
  rcases method (read state) with ⟨error | value, reached⟩
  · rfl
  · simp only [readBack, overwrites]
/-- Wherever the method starts with the property it succeeds and ends with it. -/
def Succeeds (property : σ → Prop) (method : Mutation σ ε α) : Prop :=
  ∀ state, property state → method.Ensures state (fun _ => property) (fun _ _ => False)

namespace Succeeds

variable {property : σ → Prop}

theorem pure (value : α) : Succeeds property (pure value : Mutation σ ε α) :=
  fun _ holds => holds

theorem bind {method : Mutation σ ε α} {next : α → Mutation σ ε β}
    (first : Succeeds property method) (rest : ∀ value, Succeeds property (next value)) :
    Succeeds property (method >>= next) := by
  intro state holds
  rw [ensures_bind]
  exact (first state holds).mono (fun value reached => rest value reached) fun _ _ => id

theorem get : Succeeds property (get : Mutation σ ε σ) :=
  fun _ holds => holds

theorem okOr {error : ε} {value : Option α} {present : α} (found : value = some present) :
    Succeeds property (okOr error value : Mutation σ ε α) :=
  fun _ holds => ensures_okOr.mpr ⟨fun _ _ => holds, fun absent => by
    rw [found] at absent
    cases absent⟩

theorem mapError {convert : δ → ε} {method : Mutation σ δ α}
    (succeeds : Succeeds property method) : Succeeds property (mapError convert method) :=
  fun state holds => ensures_mapError.mpr (succeeds state holds)

/-- A property of a field is that of the method of the field. -/
theorem focus {read : σ → τ} {write : τ → σ → σ} {method : Mutation τ ε α}
    {fieldProperty : τ → Prop} (succeeds : Succeeds fieldProperty method)
    (readBack : ∀ field state, read (write field state) = field) :
    Succeeds (fun state => fieldProperty (read state)) (focus read write method) := by
  intro state holds
  rw [ensures_focus]
  refine (succeeds _ holds).mono (fun _ field fieldHolds => ?_) fun _ _ => id
  rwa [readBack]

end Succeeds

end Mutation

end Foundation
