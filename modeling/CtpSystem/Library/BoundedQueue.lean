import CtpSystem.Library.Machine

/-!
# A bounded queue that refuses

A queue of fixed capacity between a producer that does not wait and a consumer that takes
items when it likes.  An item offered to a full queue is lost.  Of the items that matter,
those taken and those still queued are exactly those offered when each of them found room.
-/

namespace Reactive

universe u v w x

/-- What one step does to a queue: the queue after it, what was offered and what was
taken. -/
inductive QueueStep {α : Type x} (capacity : Nat) (queue : List α) :
    List α → List α → List α → Prop where
  | idle : QueueStep capacity queue queue [] []
  | accepted (item : α) (room : queue.length < capacity) :
      QueueStep capacity queue (queue ++ [item]) [item] []
  | refused (item : α) (full : capacity ≤ queue.length) :
      QueueStep capacity queue queue [item] []
  | taken (item : α) (rest : List α) (head : queue = item :: rest) :
      QueueStep capacity queue rest [] [item]

namespace Machine

variable {σ : Type u} {ι : Type v} {ω : Type w} {α : Type x}

/-- Of what a step offers, every item that matters finds room. -/
def FindsRoom (machine : Machine σ ι ω) (capacity : Nat) (queue : σ → List α)
    (offered : ω → Option α) (matters : α → Bool) (state : σ) (input : ι) : Prop :=
  ∀ item ∈ (machine.emits state input).filterMap offered, matters item = true →
    (queue state).length < capacity

section Queue

variable (machine : Machine σ ι ω) {capacity : Nat} {queue : σ → List α}
variable {offered taken : ω → Option α}

/-- What was taken and is still queued was queued at first or offered. -/
theorem kept_sublist
    (steps : ∀ state input, QueueStep capacity (queue state)
      (queue (machine.next state input)) ((machine.emits state input).filterMap offered)
      ((machine.emits state input).filterMap taken))
    (state : σ) (inputs : List ι) :
    ((machine.outputs state inputs).filterMap taken ++
        queue (machine.runFrom state inputs)).Sublist
      (queue state ++ (machine.outputs state inputs).filterMap offered) := by
  induction inputs generalizing state with
  | nil => simp [outputs, runFrom]
  | cons input rest ih =>
      have stepped := steps state input
      have later := ih (machine.next state input)
      rw [outputs, List.filterMap_append, List.filterMap_append, runFrom]
      generalize (machine.emits state input).filterMap offered = offers at stepped ⊢
      generalize (machine.emits state input).filterMap taken = takes at stepped ⊢
      generalize queue (machine.next state input) = after at stepped later
      cases stepped with
      | idle => exact later
      | accepted item room => simpa using later
      | refused item full =>
          apply later.trans
          simp
      | taken item remaining head =>
          rw [head]
          simpa using later

/-- The items that matter are all taken or still queued, in the order they were offered,
exactly when each of them found room. -/
theorem kept_iff
    (steps : ∀ state input, QueueStep capacity (queue state)
      (queue (machine.next state input)) ((machine.emits state input).filterMap offered)
      ((machine.emits state input).filterMap taken))
    (matters : α → Bool) (state : σ) (inputs : List ι) :
    ((machine.outputs state inputs).filterMap taken ++
        queue (machine.runFrom state inputs)).filter matters =
      (queue state ++ (machine.outputs state inputs).filterMap offered).filter matters ↔
      machine.Always (machine.FindsRoom capacity queue offered matters) state inputs := by
  induction inputs generalizing state with
  | nil => simp [outputs, runFrom, Always]
  | cons input rest ih =>
      have stepped := steps state input
      have later := ih (machine.next state input)
      have shorter := (machine.kept_sublist steps (machine.next state input) rest).filter
        matters
      rw [outputs, List.filterMap_append, List.filterMap_append, runFrom, Always, FindsRoom,
        ← later]
      generalize (machine.emits state input).filterMap offered = offers at stepped ⊢
      generalize (machine.emits state input).filterMap taken = takes at stepped ⊢
      generalize queue (machine.next state input) = after at stepped shorter ⊢
      cases stepped with
      | idle => simp
      | accepted item room => simp [room]
      | refused item full =>
          simp only [List.nil_append, List.singleton_append, List.filter_append]
          cases matter : matters item with
          | false => simp [matter]
          | true =>
              have lost : ¬ (queue state).length < capacity := Nat.not_lt.mpr full
              simp only [List.mem_singleton, forall_eq, matter, lost, false_and, imp_false,
                not_true_eq_false, iff_false]
              intro equal
              have longer := congrArg List.length equal
              have bound := shorter.length_le
              simp only [List.filter_append, List.filter_cons, matter, if_true,
                List.length_append, List.length_cons] at longer bound
              omega
      | taken item remaining head =>
          rw [head]
          cases matter : matters item <;> simp [matter]

end Queue

end Machine

end Reactive
