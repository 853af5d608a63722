import Mathlib.Data.List.Basic
import Mathlib.Tactic.Common

/-!
# Machines driven by a list of inputs

A machine consumes one input at a time and emits outputs.  Every source of
nondeterminism (scheduling, the network, a remote party) is part of the input,
so a property of every run is a property of every list of inputs.  An input the
machine is not ready for is one its step function leaves unanswered.
-/

namespace Reactive

universe u v w x

/-- A deterministic machine over states `σ`, inputs `ι` and outputs `ω`. -/
structure Machine (σ : Type u) (ι : Type v) (ω : Type w) where
  init : σ
  step : σ → ι → σ × List ω

namespace Machine

variable {σ : Type u} {ι : Type v} {ω : Type w} {γ : Type x}

/-- The state after one input. -/
def next (machine : Machine σ ι ω) (state : σ) (input : ι) : σ :=
  (machine.step state input).1

/-- The outputs of one step. -/
def emits (machine : Machine σ ι ω) (state : σ) (input : ι) : List ω :=
  (machine.step state input).2

/-- The state after a list of inputs. -/
def runFrom (machine : Machine σ ι ω) : σ → List ι → σ
  | state, [] => state
  | state, input :: rest => machine.runFrom (machine.next state input) rest

/-- Everything emitted along a list of inputs, in order. -/
def outputs (machine : Machine σ ι ω) : σ → List ι → List ω
  | _, [] => []
  | state, input :: rest =>
      machine.emits state input ++ machine.outputs (machine.next state input) rest

/-- `property` holds of every step of the run, read at the state before it. -/
def Always (machine : Machine σ ι ω) (property : σ → ι → Prop) : σ → List ι → Prop
  | _, [] => True
  | state, input :: rest =>
      property state input ∧ machine.Always property (machine.next state input) rest

/-- `property` holds in every state the run visits, the first and the last included. -/
def Throughout (machine : Machine σ ι ω) (property : σ → Prop) : σ → List ι → Prop
  | state, [] => property state
  | state, input :: rest =>
      property state ∧ machine.Throughout property (machine.next state input) rest

instance decidableAlways (machine : Machine σ ι ω) (property : σ → ι → Prop)
    [∀ state input, Decidable (property state input)] :
    (state : σ) → (inputs : List ι) → Decidable (machine.Always property state inputs)
  | _, [] => inferInstanceAs (Decidable True)
  | state, input :: rest =>
      have := machine.decidableAlways property (machine.next state input) rest
      inferInstanceAs (Decidable (property state input ∧
        machine.Always property (machine.next state input) rest))

instance decidableThroughout (machine : Machine σ ι ω) (property : σ → Prop)
    [∀ state, Decidable (property state)] :
    (state : σ) → (inputs : List ι) → Decidable (machine.Throughout property state inputs)
  | state, [] => inferInstanceAs (Decidable (property state))
  | state, input :: rest =>
      have := machine.decidableThroughout property (machine.next state input) rest
      inferInstanceAs (Decidable (property state ∧
        machine.Throughout property (machine.next state input) rest))

/-- The machine on inputs of another type. -/
def comap {κ : Type x} (machine : Machine σ ι ω) (read : κ → ι) : Machine σ κ ω where
  init := machine.init
  step state input := machine.step state (read input)

theorem runFrom_append (machine : Machine σ ι ω) (state : σ) (before after : List ι) :
    machine.runFrom state (before ++ after) =
      machine.runFrom (machine.runFrom state before) after := by
  induction before generalizing state with
  | nil => rfl
  | cons input rest ih => exact ih (machine.next state input)

theorem outputs_append (machine : Machine σ ι ω) (state : σ) (before after : List ι) :
    machine.outputs state (before ++ after) =
      machine.outputs state before ++
        machine.outputs (machine.runFrom state before) after := by
  induction before generalizing state with
  | nil => rfl
  | cons input rest ih =>
      rw [List.cons_append, outputs, ih, outputs, List.append_assoc]
      rfl

/-- An image of the states that commutes with the steps commutes with the runs. -/
theorem map_runFrom {τ : Type u} {κ : Type v} (machine : Machine σ ι ω)
    (other : Machine τ κ ω) (image : σ → τ) (read : ι → κ)
    (commutes : ∀ state input,
      image (machine.next state input) = other.next (image state) (read input))
    (state : σ) (inputs : List ι) :
    image (machine.runFrom state inputs) =
      other.runFrom (image state) (inputs.map read) := by
  induction inputs generalizing state with
  | nil => rfl
  | cons input rest ih => rw [runFrom, ih, commutes, List.map_cons, runFrom]

/-! ## Invariants -/

/-- The invariant rule: an initial and preserved property holds after every run. -/
theorem invariant_runFrom (machine : Machine σ ι ω) {invariant : σ → Prop}
    (preserved : ∀ state input, invariant state → invariant (machine.next state input))
    {state : σ} (initial : invariant state) (inputs : List ι) :
    invariant (machine.runFrom state inputs) := by
  induction inputs generalizing state with
  | nil => exact initial
  | cons input rest ih => exact ih (preserved state input initial)

/-- What every step does holds along every run. -/
theorem always_of_forall (machine : Machine σ ι ω) {property : σ → ι → Prop}
    (every : ∀ state input, property state input) (state : σ) (inputs : List ι) :
    machine.Always property state inputs := by
  induction inputs generalizing state with
  | nil => trivial
  | cons input rest ih => exact ⟨every state input, ih (machine.next state input)⟩

/-- A condition on every input joins a step property. -/
theorem always_and_of_mem (machine : Machine σ ι ω) {admissible : ι → Prop}
    {property : σ → ι → Prop} {state : σ} {inputs : List ι}
    (every : ∀ input ∈ inputs, admissible input)
    (always : machine.Always property state inputs) :
    machine.Always (fun state input => admissible input ∧ property state input)
      state inputs := by
  induction inputs generalizing state with
  | nil => trivial
  | cons input rest ih =>
      refine ⟨⟨every input List.mem_cons_self, always.1⟩, ih ?_ always.2⟩
      intro later member
      exact every later (List.mem_cons_of_mem input member)

/-- Two step properties along one run. -/
theorem Always.and {machine : Machine σ ι ω} {left right : σ → ι → Prop} {state : σ}
    {inputs : List ι} (first : machine.Always left state inputs)
    (second : machine.Always right state inputs) :
    machine.Always (fun state input => left state input ∧ right state input) state inputs := by
  induction inputs generalizing state with
  | nil => trivial
  | cons input rest ih => exact ⟨⟨first.1, second.1⟩, ih first.2 second.2⟩

/-- Under an invariant, two equivalent step properties hold along the same runs. -/
theorem always_congr (machine : Machine σ ι ω) {invariant : σ → Prop}
    {left right : σ → ι → Prop}
    (preserved : ∀ state input, invariant state → invariant (machine.next state input))
    (equivalent : ∀ state input, invariant state → (left state input ↔ right state input))
    {state : σ} (initial : invariant state) (inputs : List ι) :
    machine.Always left state inputs ↔ machine.Always right state inputs := by
  induction inputs generalizing state with
  | nil => exact Iff.rfl
  | cons input rest ih =>
      exact and_congr (equivalent state input initial)
        (ih (preserved state input initial))

/-- The invariant rule for runs all of whose steps meet a condition: what one step
preserves under the condition, every state visited has. -/
theorem throughout_of_always (machine : Machine σ ι ω) {condition : σ → ι → Prop}
    {invariant property : σ → Prop}
    (preserved : ∀ state input, invariant state → condition state input →
      invariant (machine.next state input))
    (implies : ∀ state, invariant state → property state)
    {state : σ} (initial : invariant state) {inputs : List ι}
    (meets : machine.Always condition state inputs) :
    machine.Throughout property state inputs := by
  induction inputs generalizing state with
  | nil => exact implies state initial
  | cons input rest ih =>
      exact ⟨implies state initial, ih (preserved state input initial meets.1) meets.2⟩

/-- The same rule for a property of the steps. -/
theorem always_of_always (machine : Machine σ ι ω) {condition property : σ → ι → Prop}
    {invariant : σ → Prop}
    (preserved : ∀ state input, invariant state → condition state input →
      invariant (machine.next state input))
    (implies : ∀ state input, invariant state → condition state input →
      property state input)
    {state : σ} (initial : invariant state) {inputs : List ι}
    (meets : machine.Always condition state inputs) :
    machine.Always property state inputs := by
  induction inputs generalizing state with
  | nil => trivial
  | cons input rest ih =>
      exact ⟨implies state input initial meets.1,
        ih (preserved state input initial meets.1) meets.2⟩

/-- The same rule for an invariant of the state and the outputs so far. -/
theorem outputs_of_always (machine : Machine σ ι ω) {condition : σ → ι → Prop}
    {invariant : σ → List ω → Prop}
    (preserved : ∀ state history input, invariant state history → condition state input →
      invariant (machine.next state input) (history ++ machine.emits state input))
    {state : σ} {history : List ω} (initial : invariant state history) {inputs : List ι}
    (meets : machine.Always condition state inputs) :
    invariant (machine.runFrom state inputs) (history ++ machine.outputs state inputs) := by
  induction inputs generalizing state history with
  | nil => rwa [outputs, List.append_nil]
  | cons input rest ih =>
      have later := ih (preserved state history input initial meets.1) meets.2
      rwa [List.append_assoc] at later

/-- What every step keeps of the state and the outputs so far holds after every run. -/
theorem invariant_outputs (machine : Machine σ ι ω) {invariant : σ → List ω → Prop}
    (preserved : ∀ state history input, invariant state history →
      invariant (machine.next state input) (history ++ machine.emits state input))
    {state : σ} {history : List ω} (initial : invariant state history) (inputs : List ι) :
    invariant (machine.runFrom state inputs) (history ++ machine.outputs state inputs) := by
  have every : machine.Always (fun _ _ => True) state inputs :=
    machine.always_of_forall (fun _ _ => trivial) state inputs
  apply machine.outputs_of_always _ initial every
  intro state history input kept met
  exact preserved state history input kept

/-- The invariant rule for an invariant of the state and the inputs so far. -/
theorem invariant_inputs (machine : Machine σ ι ω) {invariant : σ → List ι → Prop}
    (preserved : ∀ state history input, invariant state history →
      invariant (machine.next state input) (history ++ [input]))
    {state : σ} {history : List ι} (initial : invariant state history) (inputs : List ι) :
    invariant (machine.runFrom state inputs) (history ++ inputs) := by
  induction inputs generalizing state history with
  | nil => rwa [List.append_nil]
  | cons input rest ih =>
      have later := ih (preserved state history input initial)
      rwa [List.append_assoc] at later

/-- The invariant rule for an invariant of the state, the inputs and the outputs so far. -/
theorem invariant_history (machine : Machine σ ι ω) {invariant : σ → List ι → List ω → Prop}
    (preserved : ∀ state given emitted input, invariant state given emitted →
      invariant (machine.next state input) (given ++ [input])
        (emitted ++ machine.emits state input))
    {state : σ} {given : List ι} {emitted : List ω} (initial : invariant state given emitted)
    (inputs : List ι) :
    invariant (machine.runFrom state inputs) (given ++ inputs)
      (emitted ++ machine.outputs state inputs) := by
  induction inputs generalizing state given emitted with
  | nil => rwa [outputs, List.append_nil, List.append_nil]
  | cons input rest ih =>
      have later := ih (preserved state given emitted input initial)
      rwa [List.append_assoc, List.append_assoc] at later

/-- The same rule for runs all of whose steps meet a condition. -/
theorem inputs_of_always (machine : Machine σ ι ω) {condition : σ → ι → Prop}
    {invariant : σ → List ι → Prop}
    (preserved : ∀ state history input, invariant state history → condition state input →
      invariant (machine.next state input) (history ++ [input]))
    {state : σ} {history : List ι} (initial : invariant state history) {inputs : List ι}
    (meets : machine.Always condition state inputs) :
    invariant (machine.runFrom state inputs) (history ++ inputs) := by
  induction inputs generalizing state history with
  | nil => rwa [List.append_nil]
  | cons input rest ih =>
      have later := ih (preserved state history input initial meets.1) meets.2
      rwa [List.append_assoc] at later

/-- Every output of a run was emitted by one of its steps. -/
theorem exists_of_mem_outputs {machine : Machine σ ι ω} {state : σ} {inputs : List ι}
    {output : ω} (member : output ∈ machine.outputs state inputs) :
    ∃ before input after, inputs = before ++ input :: after ∧
      output ∈ machine.emits (machine.runFrom state before) input := by
  induction inputs generalizing state with
  | nil => cases member
  | cons input rest ih =>
      rcases List.mem_append.mp member with now | later
      · exact ⟨[], input, rest, rfl, now⟩
      · rcases ih later with ⟨before, other, after, split, emitted⟩
        exact ⟨input :: before, other, after, by rw [split]; rfl, emitted⟩

/-- Where a step leads to a state with the property exactly when it meets a condition, the
property holds throughout exactly the runs all of whose steps meet it. -/
theorem throughout_iff_always (machine : Machine σ ι ω) {condition : σ → ι → Prop}
    {invariant property : σ → Prop}
    (preserved : ∀ state input, invariant state → invariant (machine.next state input))
    (exact : ∀ state input, invariant state → property state →
      (property (machine.next state input) ↔ condition state input))
    {state : σ} (initial : invariant state) (holds : property state) (inputs : List ι) :
    machine.Throughout property state inputs ↔ machine.Always condition state inputs := by
  induction inputs generalizing state with
  | nil => exact iff_of_true holds trivial
  | cons input rest ih =>
      have next := exact state input initial holds
      have kept := preserved state input initial
      constructor
      · intro throughout
        have reached : property (machine.next state input) := by
          cases rest with
          | nil => exact throughout.2
          | cons later after => exact throughout.2.1
        exact ⟨next.mp reached, (ih kept reached).mp throughout.2⟩
      · intro always
        exact ⟨holds, (ih kept (next.mpr always.1)).mpr always.2⟩

/-- `Throughout` read off at the end of the run. -/
theorem Throughout.runFrom {machine : Machine σ ι ω} {property : σ → Prop} {state : σ}
    {inputs : List ι} (throughout : machine.Throughout property state inputs) :
    property (machine.runFrom state inputs) := by
  induction inputs generalizing state with
  | nil => exact throughout
  | cons input rest ih => exact ih throughout.2

theorem always_append (machine : Machine σ ι ω) {property : σ → ι → Prop} {state : σ}
    {before after : List ι} :
    machine.Always property state (before ++ after) ↔
      machine.Always property state before ∧
        machine.Always property (machine.runFrom state before) after := by
  induction before generalizing state with
  | nil => simp [Always, runFrom]
  | cons head rest ih =>
      rw [List.cons_append, Always, ih, Always, and_assoc]
      rfl

/-- `Always` read off at one step of the run. -/
theorem Always.at_split {machine : Machine σ ι ω} {property : σ → ι → Prop}
    {state : σ} {before after : List ι} {input : ι}
    (always : machine.Always property state (before ++ input :: after)) :
    property (machine.runFrom state before) input :=
  (machine.always_append.mp always).2.1

/-! ## Ghost state -/

/-- Carry a ghost value along the runs of a machine.  `record` reads the state
before the step; neither the states nor the outputs of the machine depend on it. -/
def observe (machine : Machine σ ι ω) (start : γ) (record : γ → σ → ι → γ) :
    Machine (σ × γ) ι ω where
  init := (machine.init, start)
  step watched input :=
    ((machine.next watched.1 input, record watched.2 watched.1 input),
      machine.emits watched.1 input)

@[simp] theorem observe_next (machine : Machine σ ι ω) (start : γ)
    (record : γ → σ → ι → γ) (watched : σ × γ) (input : ι) :
    (machine.observe start record).next watched input =
      (machine.next watched.1 input, record watched.2 watched.1 input) := rfl

end Machine

end Reactive
