import Mathlib.Data.List.Induction
import CtpSystem.Library.Machine

/-!
# The last word on a topic

A history is a list of inputs, some of which tell something about a topic.  A part of
a machine's state that every input either sets to what it tells or leaves alone holds,
after any history, what the last input with something to tell has told.
-/

namespace Reactive

universe u v w x y

variable {σ : Type u} {ι : Type v} {ω : Type w} {β : Type x} {κ : Type y}

/-- What the last input with something to tell tells, if any. -/
def lastWord (tells : ι → Option β) (history : List ι) : Option β :=
  history.reverse.findSome? tells

@[simp] theorem lastWord_nil (tells : ι → Option β) : lastWord tells [] = none := rfl

theorem lastWord_cons (tells : ι → Option β) (input : ι) (rest : List ι) :
    lastWord tells (input :: rest) = (lastWord tells rest).or (tells input) := by
  rw [lastWord, List.reverse_cons, List.findSome?_append, List.findSome?_singleton]
  rfl

theorem lastWord_append_singleton (tells : ι → Option β) (history : List ι) (input : ι) :
    lastWord tells (history ++ [input]) = (tells input).or (lastWord tells history) := by
  rw [lastWord, List.reverse_append, List.reverse_singleton, List.singleton_append,
    List.findSome?_cons]
  cases tells input <;> rfl

theorem lastWord_append (tells : ι → Option β) (before after : List ι) :
    lastWord tells (before ++ after) = (lastWord tells after).or (lastWord tells before) := by
  rw [lastWord, List.reverse_append, List.findSome?_append]
  rfl

theorem lastWord_append_toList (tells : ι → Option β) (history : List ι)
    (input : Option ι) :
    lastWord tells (history ++ input.toList) =
      (input.bind tells).or (lastWord tells history) := by
  cases input with
  | none => rw [Option.toList_none, List.append_nil, Option.bind_none, Option.none_or]
  | some input => exact lastWord_append_singleton tells history input

/-- The last word is that of an input after which no other tells anything. -/
theorem lastWord_eq_some_iff {tells : ι → Option β} {history : List ι} {word : β} :
    lastWord tells history = some word ↔
      ∃ before input after, history = before ++ input :: after ∧
        tells input = some word ∧ ∀ later ∈ after, tells later = none := by
  rw [lastWord, List.findSome?_eq_some_iff]
  constructor
  · rintro ⟨after, input, before, split, told, silent⟩
    refine ⟨before.reverse, input, after.reverse, ?_, told, ?_⟩
    · rw [← List.reverse_reverse history, split]
      simp
    · intro later member
      exact silent later (List.mem_reverse.mp member)
  · rintro ⟨before, input, after, rfl, told, silent⟩
    refine ⟨after.reverse, input, before.reverse, by simp, told, ?_⟩
    intro later member
    exact silent later (List.mem_reverse.mp member)

/-- A last word is told. -/
theorem exists_of_lastWord {tells : ι → Option β} {history : List ι} {word : β}
    (last : lastWord tells history = some word) :
    ∃ input ∈ history, tells input = some word := by
  rcases lastWord_eq_some_iff.mp last with ⟨before, input, after, rfl, told, -⟩
  exact ⟨input, List.mem_append_right before List.mem_cons_self, told⟩

theorem lastWord_eq_none_iff {tells : ι → Option β} {history : List ι} :
    lastWord tells history = none ↔ ∀ input ∈ history, tells input = none := by
  simp [lastWord]

theorem lastWord_congr {tells other : ι → Option β} {history : List ι}
    (same : ∀ input ∈ history, tells input = other input) :
    lastWord tells history = lastWord other history := by
  induction history with
  | nil => rfl
  | cons input rest ih =>
      rw [lastWord_cons, lastWord_cons, same input List.mem_cons_self, ih]
      intro later member
      exact same later (List.mem_cons_of_mem input member)

/-- The last word of a part of a history. -/
theorem lastWord_filterMap (tells : κ → Option β) (part : ι → Option κ)
    (history : List ι) :
    lastWord tells (history.filterMap part) =
      lastWord (fun input => (part input).bind tells) history := by
  induction history with
  | nil => rfl
  | cons input rest ih =>
      rw [lastWord_cons, ← ih, List.filterMap_cons]
      cases part input with
      | none => rw [Option.bind_none, Option.or_none]
      | some taken => rw [lastWord_cons, Option.bind_some]

/-- The last word of a translated history. -/
theorem lastWord_map (tells : κ → Option β) (translate : ι → κ) (history : List ι) :
    lastWord tells (history.map translate) =
      lastWord (fun input => tells (translate input)) history := by
  rw [← List.filterMap_eq_map, lastWord_filterMap]
  rfl

/-- If only some inputs can say yes and the last word is theirs, it is the last word. -/
theorem lastWord_eq_true_of_filter {tells : ι → Option Bool} {heard : ι → Bool}
    {history : List ι}
    (word : lastWord (fun input => (tells input).filter fun yes => !yes || heard input)
      history = some true) :
    lastWord tells history = some true := by
  induction history using List.reverseRecOn with
  | nil => simp at word
  | append_singleton before input ih =>
      rw [lastWord_append_singleton] at word ⊢
      cases told : tells input with
      | none =>
          rw [told, Option.filter_none, Option.none_or] at word
          exact ih word
      | some yes =>
          cases yes with
          | true => rfl
          | false => simp [told] at word

namespace Machine

/-- A part of the state that each input sets to what it tells, or leaves alone, holds
the last word after every run. -/
theorem read_runFrom (machine : Machine σ ι ω) (read : σ → β) (tells : ι → Option β)
    (follows : ∀ state input,
      read (machine.next state input) = (tells input).getD (read state))
    (state : σ) (inputs : List ι) :
    read (machine.runFrom state inputs) = (lastWord tells inputs).getD (read state) := by
  induction inputs generalizing state with
  | nil => rfl
  | cons input rest ih =>
      rw [runFrom, ih, follows, lastWord_cons]
      cases lastWord tells rest with
      | none => rw [Option.none_or]; rfl
      | some word => rfl

end Machine

end Reactive
