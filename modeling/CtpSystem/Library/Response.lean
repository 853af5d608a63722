import CtpSystem.Library.Machine

/-!
# What follows in the rest of a run

A run is a finite list of inputs, taken as all that happens.  A step may call for
something about a topic, and the rest of the run answers it or not.
-/

namespace Reactive

universe u v w x

namespace Machine

variable {σ : Type u} {ι : Type v} {ω : Type w} {κ : Type x}

/-- A step with `goal` comes, and no `blocked` one before it. -/
def Until (machine : Machine σ ι ω) (blocked goal : σ → ι → Prop) : σ → List ι → Prop
  | _, [] => False
  | state, input :: rest =>
      goal state input ∨
        ¬ blocked state input ∧ machine.Until blocked goal (machine.next state input) rest

/-- Each step that calls for an answer about a topic has it from the rest of the run. -/
def Followed (machine : Machine σ ι ω) (calls : σ → ι → κ → Prop)
    (answer : κ → σ → List ι → Prop) : σ → List ι → Prop
  | _, [] => True
  | state, input :: rest =>
      (∀ topic, calls state input topic → answer topic (machine.next state input) rest) ∧
        machine.Followed calls answer (machine.next state input) rest

instance decidableUntil (machine : Machine σ ι ω) (blocked goal : σ → ι → Prop)
    [∀ state input, Decidable (blocked state input)]
    [∀ state input, Decidable (goal state input)] :
    (state : σ) → (inputs : List ι) → Decidable (machine.Until blocked goal state inputs)
  | _, [] => inferInstanceAs (Decidable False)
  | state, input :: rest =>
      have := machine.decidableUntil blocked goal (machine.next state input) rest
      inferInstanceAs (Decidable (goal state input ∨ ¬ blocked state input ∧
        machine.Until blocked goal (machine.next state input) rest))

/-- Goals that agree as long as neither was reached are reached along the same runs. -/
theorem until_congr (machine : Machine σ ι ω) {invariant : σ → Prop}
    {blocked goal other : σ → ι → Prop}
    (preserved : ∀ state input, invariant state → ¬ goal state input →
      invariant (machine.next state input))
    (equivalent : ∀ state input, invariant state → (goal state input ↔ other state input))
    {state : σ} (initial : invariant state) (inputs : List ι) :
    machine.Until blocked goal state inputs ↔ machine.Until blocked other state inputs := by
  induction inputs generalizing state with
  | nil => exact Iff.rfl
  | cons input rest ih =>
      rw [Until, Until, ← equivalent state input initial]
      by_cases reached : goal state input
      · simp [reached]
      · rw [ih (preserved state input initial reached)]

/-- Answers that agree under an invariant follow along the same runs. -/
theorem followed_congr (machine : Machine σ ι ω) {invariant : σ → Prop}
    {calls : σ → ι → κ → Prop} {answer other : κ → σ → List ι → Prop}
    (preserved : ∀ state input, invariant state → invariant (machine.next state input))
    (equivalent : ∀ topic state rest, invariant state →
      (answer topic state rest ↔ other topic state rest))
    {state : σ} (initial : invariant state) (inputs : List ι) :
    machine.Followed calls answer state inputs ↔
      machine.Followed calls other state inputs := by
  induction inputs generalizing state with
  | nil => exact Iff.rfl
  | cons input rest ih =>
      have kept := preserved state input initial
      apply and_congr _ (ih kept)
      apply forall_congr'
      intro topic
      exact imp_congr_right fun _ => equivalent topic (machine.next state input) rest kept

end Machine

end Reactive
