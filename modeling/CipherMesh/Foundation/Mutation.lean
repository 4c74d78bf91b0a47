import Mathlib.Logic.Basic
import Mathlib.Tactic.Common

/-!
# Mutating methods

A method that borrows its receiver mutably and returns a `Result` can change the
receiver and then fail.  `ExceptT` over `StateM` has the right results but an
inconvenient evaluation rule, so the combination is defined here directly: the
state that was reached is returned next to the error.  Every operation has a
`run` equation, which is what proofs about methods rewrite with.
-/

namespace Foundation

/-- A method with receiver state `σ`, error type `ε` and result `α`.  The second
component is the receiver after the call, also when the call fails. -/
def Mutation (σ ε α : Type) := σ → Except ε α × σ

namespace Mutation

variable {σ τ ε α β : Type}

/-- Call the method on a receiver. -/
def run (method : Mutation σ ε α) (state : σ) : Except ε α × σ :=
  method state

instance : Monad (Mutation σ ε) where
  pure value := fun state => (.ok value, state)
  bind method next := fun state =>
    match method state with
    | (.ok value, reached) => next value reached
    | (.error error, reached) => (.error error, reached)

/-- Read the receiver. -/
def get : Mutation σ ε σ := fun state => (.ok state, state)

/-- Assign to the receiver. -/
def modify (update : σ → σ) : Mutation σ ε Unit := fun state => (.ok (), update state)

/-- Return early with an error. -/
def fail (error : ε) : Mutation σ ε α := fun state => (.error error, state)

/-- The question mark operator on the result of a function without receiver. -/
def lift (result : Except ε α) : Mutation σ ε α := fun state => (result, state)

/-- The question mark operator after `ok_or`. -/
def okOr (error : ε) (value : Option α) : Mutation σ ε α :=
  match value with
  | some value => pure value
  | none => fail error

/-- Call a method of a field of the receiver. -/
def focus (read : σ → τ) (write : τ → σ → σ) (method : Mutation τ ε α) :
    Mutation σ ε α := fun state =>
  let (result, reached) := method (read state)
  (result, write reached state)

/-- Call a method of an optional field of the receiver, which must be present. -/
def focusSome (error : ε) (read : σ → Option τ) (write : τ → σ → σ)
    (method : Mutation τ ε α) : Mutation σ ε α := fun state =>
  match read state with
  | none => (.error error, state)
  | some field =>
      let (result, reached) := method field
      (result, write reached state)

@[simp] theorem run_pure (value : α) (state : σ) :
    (pure value : Mutation σ ε α).run state = (.ok value, state) := rfl

@[simp] theorem run_bind (method : Mutation σ ε α) (next : α → Mutation σ ε β)
    (state : σ) :
    (method >>= next).run state =
      match method.run state with
      | (.ok value, reached) => (next value).run reached
      | (.error error, reached) => (.error error, reached) := rfl

theorem return_bind (value : α) (next : α → Mutation σ ε β) :
    (pure value >>= next : Mutation σ ε β) = next value := rfl

theorem sequence_assoc {γ : Type} (method : Mutation σ ε α) (next : α → Mutation σ ε β)
    (last : β → Mutation σ ε γ) :
    method >>= next >>= last = method >>= fun value => next value >>= last := by
  funext state
  simp only [bind]
  rcases method state with ⟨error | value, reached⟩ <;> rfl

/-- Stated as a theorem, since `bind` is what the lemmas about runs rewrite. -/
theorem lawful : LawfulMonad (Mutation σ ε) :=
  LawfulMonad.mk' _
    (fun method => by
      funext state
      simp only [Functor.map]
      rcases method state with ⟨error | value, reached⟩ <;> rfl)
    (fun _ _ => rfl) fun _ _ _ => sequence_assoc _ _ _

@[simp] theorem run_get (state : σ) :
    (get : Mutation σ ε σ).run state = (.ok state, state) := rfl

@[simp] theorem run_modify (update : σ → σ) (state : σ) :
    (modify update : Mutation σ ε Unit).run state = (.ok (), update state) := rfl

@[simp] theorem run_fail (error : ε) (state : σ) :
    (fail error : Mutation σ ε α).run state = (.error error, state) := rfl

@[simp] theorem run_lift (result : Except ε α) (state : σ) :
    (lift result : Mutation σ ε α).run state = (result, state) := rfl

@[simp] theorem run_okOr_some (error : ε) (value : α) (state : σ) :
    (okOr error (some value) : Mutation σ ε α).run state = (.ok value, state) := rfl

@[simp] theorem run_okOr_none (error : ε) (state : σ) :
    (okOr error (none : Option α) : Mutation σ ε α).run state = (.error error, state) := rfl

@[simp] theorem run_focus (read : σ → τ) (write : τ → σ → σ)
    (method : Mutation τ ε α) (state : σ) :
    (focus read write method).run state =
      ((method.run (read state)).1, write (method.run (read state)).2 state) := rfl

theorem run_focusSome (error : ε) {read : σ → Option τ} (write : τ → σ → σ)
    (method : Mutation τ ε α) {state : σ} {field : τ} (present : read state = some field) :
    (focusSome error read write method).run state =
      ((method.run field).1, write (method.run field).2 state) := by
  simp only [run, focusSome, present]

@[simp] theorem run_ite (condition : Prop) [Decidable condition]
    (first second : Mutation σ ε α) (state : σ) :
    (if condition then first else second).run state =
      if condition then first.run state else second.run state := by
  split <;> rfl

/-- A method that succeeds ran its first part to success and then the rest. -/
theorem run_bind_eq_ok {method : Mutation σ ε α} {next : α → Mutation σ ε β}
    {state reached : σ} {value : β}
    (success : (method >>= next).run state = (.ok value, reached)) :
    ∃ intermediate middle, method.run state = (.ok intermediate, middle) ∧
      (next intermediate).run middle = (.ok value, reached) := by
  rw [run_bind] at success
  rcases outcome : method.run state with ⟨result, middle⟩
  rw [outcome] at success
  cases result with
  | ok intermediate => exact ⟨intermediate, middle, rfl, success⟩
  | error error => simp at success

/-- A method that succeeds after a check ran the rest on the same receiver. -/
theorem run_lift_bind_eq_ok {check : Except ε α} {next : α → Mutation σ ε β}
    {state reached : σ} {value : β}
    (success : (lift check >>= next).run state = (.ok value, reached)) :
    ∃ checked, check = .ok checked ∧ (next checked).run state = (.ok value, reached) := by
  obtain ⟨checked, _, passed, continues⟩ := run_bind_eq_ok success
  cases passed
  exact ⟨checked, rfl, continues⟩

end Mutation

end Foundation
