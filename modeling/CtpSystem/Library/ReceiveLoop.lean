import Mathlib.Data.List.Basic
import Mathlib.Tactic.Common

/-!
# Receive loops

A receive loop takes one event after the other from a channel.  Each pass either
goes round again or returns.  The rules below lift what one pass does to the
whole sequence of events the loop consumes.
-/

namespace Reactive

universe u v w x

/-- Outcome of a piece of event handling: the state it leaves, what it emits and,
where it has returned, its result. -/
structure Turn (σ : Type u) (ω : Type v) (ρ : Type w) where
  state : σ
  outputs : List ω
  result : Option ρ

/-- A loop over states `σ` and events `ε`, given by what one pass does. -/
structure ReceiveLoop (σ : Type u) (ε : Type x) (ω : Type v) (ρ : Type w) where
  pass : σ → ε → Turn σ ω ρ

namespace ReceiveLoop

variable {σ : Type u} {ε : Type x} {ω : Type v} {ρ : Type w}

/-- Let the loop consume events until it returns or they are used up. -/
def feed (loop : ReceiveLoop σ ε ω ρ) : σ → List ε → Turn σ ω ρ
  | state, [] => ⟨state, [], none⟩
  | state, event :: rest =>
      match (loop.pass state event).result with
      | some _ => loop.pass state event
      | none =>
          let later := loop.feed (loop.pass state event).state rest
          { later with outputs := (loop.pass state event).outputs ++ later.outputs }

/-- The loop has returned by the time it has consumed the events. -/
def ReturnsWithin (loop : ReceiveLoop σ ε ω ρ) (state : σ) (events : List ε) : Prop :=
  (loop.feed state events).result.isSome

instance (loop : ReceiveLoop σ ε ω ρ) (state : σ) (events : List ε) :
    Decidable (loop.ReturnsWithin state events) :=
  inferInstanceAs (Decidable ((loop.feed state events).result.isSome = true))

theorem feed_cons_of_returned {loop : ReceiveLoop σ ε ω ρ} {state : σ} {event : ε}
    (returned : (loop.pass state event).result.isSome) (rest : List ε) :
    loop.feed state (event :: rest) = loop.pass state event := by
  rcases Option.isSome_iff_exists.mp returned with ⟨result, equal⟩
  simp only [feed, equal]

theorem feed_cons_of_waiting {loop : ReceiveLoop σ ε ω ρ} {state : σ} {event : ε}
    (waiting : (loop.pass state event).result = none) (rest : List ε) :
    loop.feed state (event :: rest) =
      { loop.feed (loop.pass state event).state rest with
        outputs := (loop.pass state event).outputs ++
          (loop.feed (loop.pass state event).state rest).outputs } := by
  simp only [feed, waiting]

/-- Where an event alone decides whether a pass returns, the loop returns exactly
when such an event is among those it is fed. -/
theorem returnsWithin_iff {loop : ReceiveLoop σ ε ω ρ} (invariant : σ → Prop)
    {ends : ε → Prop}
    (decides : ∀ state event, invariant state →
      ((loop.pass state event).result.isSome ↔ ends event))
    (keeps : ∀ state event, invariant state → (loop.pass state event).result = none →
      invariant (loop.pass state event).state)
    {state : σ} (initial : invariant state) (events : List ε) :
    loop.ReturnsWithin state events ↔ ∃ event ∈ events, ends event := by
  induction events generalizing state with
  | nil => simp [ReturnsWithin, feed]
  | cons event rest ih =>
      cases outcome : (loop.pass state event).result with
      | some result =>
          have returned : (loop.pass state event).result.isSome := by simp [outcome]
          have ended : ends event := (decides state event initial).mp returned
          rw [ReturnsWithin, feed_cons_of_returned returned]
          constructor
          · intro _
            exact ⟨event, List.mem_cons_self, ended⟩
          · intro _
            exact returned
      | none =>
          have notEnded : ¬ends event := fun ended => by
            have returned := (decides state event initial).mpr ended
            simp [outcome] at returned
          have later := ih (keeps state event initial outcome)
          rw [ReturnsWithin, feed_cons_of_waiting outcome]
          simp only [List.mem_cons, exists_eq_or_imp, notEnded, false_or]
          exact later

/-- Events the loop skips, showing nothing, can be left out. -/
theorem filter_feed_append {loop : ReceiveLoop σ ε ω ρ} {invariant : σ → Prop}
    {skips : ε → Prop} {visible : ω → Bool}
    (waits : ∀ state event, invariant state → skips event →
      (loop.pass state event).result = none ∧ invariant (loop.pass state event).state ∧
        (loop.pass state event).outputs.filter visible = [])
    {state : σ} (initial : invariant state) {before : List ε}
    (skipped : ∀ event ∈ before, skips event) (rest : List ε) :
    ∃ later, invariant later ∧
      (loop.feed state (before ++ rest)).outputs.filter visible =
        (loop.feed later rest).outputs.filter visible ∧
      (loop.feed state (before ++ rest)).result = (loop.feed later rest).result := by
  induction before generalizing state with
  | nil => exact ⟨state, initial, rfl, rfl⟩
  | cons event before ih =>
      rcases waits state event initial (skipped event List.mem_cons_self) with
        ⟨waiting, kept, silent⟩
      have skippedRest : ∀ event ∈ before, skips event := by
        intro other member
        exact skipped other (List.mem_cons_of_mem event member)
      rcases ih kept skippedRest with ⟨later, invariantLater, outputs, result⟩
      refine ⟨later, invariantLater, ?_, ?_⟩
      · rw [List.cons_append, feed_cons_of_waiting waiting, List.filter_append, silent,
          List.nil_append, outputs]
      · rw [List.cons_append, feed_cons_of_waiting waiting, result]

/-- Where every pass that goes round again emits nothing that counts and the pass
that returns emits `total` of it, the whole loop has emitted `total` on return. -/
theorem countP_feed {loop : ReceiveLoop σ ε ω ρ} (invariant : σ → Prop)
    {counts : ω → Bool} {total : Nat}
    (waits : ∀ state event, invariant state → (loop.pass state event).result = none →
      (loop.pass state event).outputs.countP counts = 0 ∧
        invariant (loop.pass state event).state)
    (returns : ∀ state event, invariant state → (loop.pass state event).result.isSome →
      (loop.pass state event).outputs.countP counts = total)
    {state : σ} (initial : invariant state) {events : List ε}
    (returned : loop.ReturnsWithin state events) :
    (loop.feed state events).outputs.countP counts = total := by
  induction events generalizing state with
  | nil => simp [ReturnsWithin, feed] at returned
  | cons event rest ih =>
      cases outcome : (loop.pass state event).result with
      | some result =>
          have now : (loop.pass state event).result.isSome := by simp [outcome]
          rw [feed_cons_of_returned now]
          exact returns state event initial now
      | none =>
          rcases waits state event initial outcome with ⟨silent, kept⟩
          rw [ReturnsWithin, feed_cons_of_waiting outcome] at returned
          rw [feed_cons_of_waiting outcome, List.countP_append, silent, Nat.zero_add]
          exact ih kept returned

end ReceiveLoop

end Reactive
