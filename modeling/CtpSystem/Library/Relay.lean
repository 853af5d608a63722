import Mathlib.Data.List.Flatten
import CtpSystem.Library.Machine

/-!
# Relays

A relay passes on what it is offered: it keeps some of it for later and delivers some of
it, and neither invents, repeats nor reorders anything.  If every step does so, every run
does; and a run loses nothing exactly when none of its steps does.
-/

namespace Reactive

universe u v w x

variable {σ : Type u} {ι : Type v} {ω : Type w} {α : Type x}

namespace Machine

/-- What is read off the steps of a run, in order. -/
def collect (machine : Machine σ ι ω) (read : σ → ι → List α) : σ → List ι → List α
  | _, [] => []
  | state, input :: rest =>
      read state input ++ machine.collect read (machine.next state input) rest

theorem collect_input (machine : Machine σ ι ω) (read : ι → List α) (state : σ)
    (inputs : List ι) :
    machine.collect (fun _ input => read input) state inputs = inputs.flatMap read := by
  induction inputs generalizing state with
  | nil => rfl
  | cons input rest ih => rw [collect, ih, List.flatMap_cons]

theorem collect_emits (machine : Machine σ ι ω) (read : ω → List α) (state : σ)
    (inputs : List ι) :
    machine.collect (fun state input => (machine.emits state input).flatMap read) state inputs =
      (machine.outputs state inputs).flatMap read := by
  induction inputs generalizing state with
  | nil => rfl
  | cons input rest ih => rw [collect, ih, outputs, List.flatMap_append]

/-- Where every step delivers or keeps all it has, so does every run. -/
theorem outputs_of_accounted (machine : Machine σ ι ω) {offered : σ → ι → List α}
    {kept : σ → List α} {delivered : ω → List α}
    (accounted : ∀ state input,
      (machine.emits state input).flatMap delivered ++ kept (machine.next state input) =
        kept state ++ offered state input) (state : σ) (inputs : List ι) :
    (machine.outputs state inputs).flatMap delivered ++ kept (machine.runFrom state inputs) =
      kept state ++ machine.collect offered state inputs := by
  induction inputs generalizing state with
  | nil => simp [outputs, runFrom, collect]
  | cons input rest ih =>
      rw [outputs, runFrom, collect, List.flatMap_append, List.append_assoc, ih,
        ← List.append_assoc, accounted, List.append_assoc]

end Machine

/-- In the states of an invariant, what a step delivers, and after it what it keeps, is part
of what was kept and what is offered, in the same order. -/
structure Relay (machine : Machine σ ι ω) (invariant : σ → Prop) (offered : σ → ι → List α)
    (kept : σ → List α) (delivered : ω → List α) : Prop where
  preserved : ∀ state input, invariant state → invariant (machine.next state input)
  passes : ∀ state input, invariant state →
    ((machine.emits state input).flatMap delivered ++ kept (machine.next state input)).Sublist
      (kept state ++ offered state input)

namespace Relay

variable {machine : Machine σ ι ω} {invariant : σ → Prop} {offered : σ → ι → List α}
variable {kept : σ → List α} {delivered : ω → List α}

/-- What a relay delivers along a run is part of what it was offered, in the same order. -/
theorem outputs_sublist (relay : Relay machine invariant offered kept delivered) (state : σ)
    (initial : invariant state) (inputs : List ι) :
    ((machine.outputs state inputs).flatMap delivered ++
        kept (machine.runFrom state inputs)).Sublist
      (kept state ++ machine.collect offered state inputs) := by
  induction inputs generalizing state with
  | nil => simp [Machine.outputs, Machine.runFrom, Machine.collect]
  | cons input rest ih =>
      have now := relay.passes state input initial
      have later := ih _ (relay.preserved state input initial)
      simp only [Machine.outputs, Machine.runFrom, Machine.collect, List.flatMap_append,
        List.append_assoc]
      refine (later.append_left _).trans ?_
      rw [← List.append_assoc, ← List.append_assoc]
      exact now.append_right _

/-- A run loses nothing exactly when none of its steps does. -/
theorem outputs_eq_iff (relay : Relay machine invariant offered kept delivered)
    {condition : σ → ι → Prop}
    (exact_ : ∀ state input, invariant state →
      ((machine.emits state input).flatMap delivered ++ kept (machine.next state input) =
        kept state ++ offered state input ↔ condition state input))
    (state : σ) (initial : invariant state) (inputs : List ι) :
    (machine.outputs state inputs).flatMap delivered ++ kept (machine.runFrom state inputs) =
        kept state ++ machine.collect offered state inputs ↔
      machine.Always condition state inputs := by
  induction inputs generalizing state with
  | nil => simp [Machine.outputs, Machine.runFrom, Machine.collect, Machine.Always]
  | cons input rest ih =>
      have kept' := relay.preserved state input initial
      have now := relay.passes state input initial
      have later := relay.outputs_sublist _ kept' rest
      rw [Machine.Always, ← exact_ state input initial, ← ih _ kept']
      simp only [Machine.outputs, Machine.runFrom, Machine.collect, List.flatMap_append,
        List.append_assoc]
      constructor
      · -- the whole is as long as what was offered, so neither part is shorter
        intro whole
        have lengths := congrArg List.length whole
        have nowShorter := now.length_le
        have laterShorter := later.length_le
        simp only [List.length_append] at lengths nowShorter laterShorter
        constructor
        · apply now.eq_of_length
          simp only [List.length_append]
          omega
        · apply later.eq_of_length
          simp only [List.length_append]
          omega
      · rintro ⟨nowEqual, laterEqual⟩
        rw [laterEqual, ← List.append_assoc, nowEqual, List.append_assoc]

end Relay

end Reactive
