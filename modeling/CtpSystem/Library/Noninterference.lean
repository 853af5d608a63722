import CtpSystem.Library.Machine

/-!
# Noninterference

An observer sees some of the outputs of a machine.  Where the inputs that do not concern
the observer neither show to it nor change anything it will see later, what it sees of a
run is what it would see if those inputs had been left out.
-/

namespace Reactive

universe u v w

variable {σ : Type u} {ι : Type v} {ω : Type w}

/-- States that look alike to an observer, step by step: an input that does not concern
it leaves a state as it looks and shows nothing, and an input that concerns it shows the
same and leads to states that look alike. -/
structure Unwinding (machine : Machine σ ι ω) (concerns : ι → Bool) (visible : ω → Bool)
    (alike : σ → σ → Prop) : Prop where
  hidden : ∀ {left right input}, alike left right → concerns input = false →
    alike (machine.next left input) right ∧
      (machine.emits left input).filter visible = []
  shown : ∀ {left right input}, alike left right → concerns input = true →
    alike (machine.next left input) (machine.next right input) ∧
      (machine.emits left input).filter visible =
        (machine.emits right input).filter visible

/-- What an observer sees of a run is what it sees of the inputs that concern it. -/
theorem Unwinding.outputs_filter {machine : Machine σ ι ω} {concerns : ι → Bool}
    {visible : ω → Bool} {alike : σ → σ → Prop}
    (unwinding : Unwinding machine concerns visible alike) {left right : σ}
    (start : alike left right) (inputs : List ι) :
    (machine.outputs left inputs).filter visible =
      (machine.outputs right (inputs.filter concerns)).filter visible := by
  induction inputs generalizing left right with
  | nil => rfl
  | cons input rest ih =>
      rw [Machine.outputs, List.filter_append]
      cases concerned : concerns input with
      | false =>
          rcases unwinding.hidden start concerned with ⟨still, silent⟩
          rw [List.filter_cons_of_neg (by simp [concerned]), silent, List.nil_append]
          exact ih still
      | true =>
          rcases unwinding.shown start concerned with ⟨next, same⟩
          rw [List.filter_cons_of_pos concerned, Machine.outputs, List.filter_append, same,
            ih next]

end Reactive
