import Mathlib.Tactic.Common

/-!
# Attempts

An attempt changes a state, emits outputs in order and may fail; what it emitted before it
failed stays emitted.  Attempts in sequence stop at the first failure, and are reasoned
about with one condition for success and one for failure, each on the state reached and
everything emitted so far.
-/

namespace Reactive

universe u v w

/-- Outcome of an attempt: the state after it, what it emitted, and whether it failed. -/
structure Attempt (σ : Type u) (ω : Type v) (ε : Type w) where
  state : σ
  outputs : List ω
  result : Except ε Unit

namespace Attempt

variable {σ : Type u} {ω : Type v} {ε : Type w}

/-- The attempt that does nothing more. -/
def done (state : σ) : Attempt σ ω ε := ⟨state, [], .ok ()⟩

/-- The attempt that fails with an error. -/
def fail (state : σ) (error : ε) : Attempt σ ω ε := ⟨state, [], .error error⟩

/-- Go on after an attempt, unless it failed. -/
def andThen (first : Attempt σ ω ε) (next : σ → Attempt σ ω ε) : Attempt σ ω ε :=
  match first.result with
  | .error _ => first
  | .ok () =>
      let second := next first.state
      { second with outputs := first.outputs ++ second.outputs }

/-- After what was emitted before, the attempt succeeds with the first condition or fails
with the second. -/
def Meets (attempt : Attempt σ ω ε) (success failure : σ → List ω → Prop)
    (history : List ω) : Prop :=
  match attempt.result with
  | .ok () => success attempt.state (history ++ attempt.outputs)
  | .error _ => failure attempt.state (history ++ attempt.outputs)

/-- The attempt does not fail and reaches a state with a property. -/
def Reaches (attempt : Attempt σ ω ε) (target : σ → Prop) : Prop :=
  attempt.result = .ok () ∧ target attempt.state

variable {success between failure : σ → List ω → Prop} {history : List ω}

theorem meets_done {state : σ} (holds : success state history) :
    (done state : Attempt σ ω ε).Meets success failure history := by
  simpa [Meets, done] using holds

theorem meets_fail {state : σ} {error : ε} (holds : failure state history) :
    (fail state error : Attempt σ ω ε).Meets success failure history := by
  simpa [Meets, fail] using holds

/-- The rule of sequence. -/
theorem Meets.andThen {first : Attempt σ ω ε} {next : σ → Attempt σ ω ε}
    (meets : first.Meets between failure history)
    (rest : ∀ state outputs, between state (history ++ outputs) →
      (next state).Meets success failure (history ++ outputs)) :
    (first.andThen next).Meets success failure history := by
  cases ended : first.result with
  | error message =>
      rw [Meets, ended] at meets
      rw [Attempt.andThen, ended, Meets, ended]
      exact meets
  | ok =>
      rw [Meets, ended] at meets
      rw [Attempt.andThen, ended]
      have later := rest first.state first.outputs meets
      simpa only [Meets, List.append_assoc] using later

/-- The rule of consequence. -/
theorem Meets.mono {attempt : Attempt σ ω ε} {success' failure' : σ → List ω → Prop}
    (meets : attempt.Meets success failure history)
    (onSuccess : ∀ state outputs, success state (history ++ outputs) →
      success' state (history ++ outputs))
    (onFailure : ∀ state outputs, failure state (history ++ outputs) →
      failure' state (history ++ outputs)) :
    attempt.Meets success' failure' history := by
  cases ended : attempt.result with
  | error message =>
      rw [Meets, ended] at meets ⊢
      exact onFailure _ _ meets
  | ok =>
      rw [Meets, ended] at meets ⊢
      exact onSuccess _ _ meets

/-- The frame rule: what was emitted before stays in front. -/
theorem Meets.frame {attempt : Attempt σ ω ε} (meets : attempt.Meets success failure [])
    (base : List ω) :
    attempt.Meets (fun state outputs => ∃ own, outputs = base ++ own ∧ success state own)
      (fun state outputs => ∃ own, outputs = base ++ own ∧ failure state own) base := by
  cases ended : attempt.result with
  | error message =>
      rw [Meets, ended] at meets ⊢
      exact ⟨attempt.outputs, rfl, meets⟩
  | ok =>
      rw [Meets, ended] at meets ⊢
      exact ⟨attempt.outputs, rfl, meets⟩

/-! ## Attempts that do not fail -/

variable {first : Attempt σ ω ε} {next : σ → Attempt σ ω ε} {halfway target : σ → Prop}

theorem reaches_done {state : σ} (holds : target state) :
    (done state : Attempt σ ω ε).Reaches target :=
  ⟨rfl, holds⟩

/-- The rule of sequence for attempts that do not fail. -/
theorem Reaches.andThen (reaches : first.Reaches halfway)
    (rest : ∀ state, halfway state → (next state).Reaches target) :
    (first.andThen next).Reaches target := by
  have later := rest first.state reaches.2
  rw [Attempt.andThen, reaches.1]
  exact later

theorem Reaches.mono {attempt : Attempt σ ω ε} (reaches : attempt.Reaches halfway)
    (weaker : ∀ state, halfway state → target state) : attempt.Reaches target :=
  ⟨reaches.1, weaker attempt.state reaches.2⟩

end Attempt

end Reactive
