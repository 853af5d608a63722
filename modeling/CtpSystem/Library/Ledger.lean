import Mathlib.Data.Finset.Basic
import Mathlib.Data.Finset.SDiff
import Mathlib.Tactic.Common

/-!
# Ledgers of acquired and released resources

A ledger lists what was acquired and released, in order.  It is effective when nothing
is acquired that is held already and nothing released that is not held, so that its
entries are exactly the changes of the set of held resources.
-/

namespace Reactive

universe u

/-- One change of the set of held resources. -/
inductive LedgerEntry (α : Type u) where
  | acquire (resource : α)
  | release (resource : α)
  deriving DecidableEq

namespace Ledger

variable {α : Type u} [DecidableEq α]

/-- What is held after a ledger. -/
def balance : List (LedgerEntry α) → Finset α → Finset α
  | [], held => held
  | .acquire resource :: rest, held => balance rest (insert resource held)
  | .release resource :: rest, held => balance rest (held.erase resource)

/-- Every entry changes what is held when its turn comes. -/
def Effective : List (LedgerEntry α) → Finset α → Prop
  | [], _ => True
  | .acquire resource :: rest, held =>
      resource ∉ held ∧ Effective rest (insert resource held)
  | .release resource :: rest, held =>
      resource ∈ held ∧ Effective rest (held.erase resource)

/-- A ledger that goes from one set of held resources to another by effective entries. -/
def Moves (entries : List (LedgerEntry α)) (before after : Finset α) : Prop :=
  Effective entries before ∧ balance entries before = after

theorem moves_nil (held : Finset α) : Moves [] held held :=
  ⟨trivial, rfl⟩

theorem moves_acquire {resource : α} {rest : List (LedgerEntry α)} {before after : Finset α}
    (fresh : resource ∉ before) (moves : Moves rest (insert resource before) after) :
    Moves (.acquire resource :: rest) before after :=
  ⟨⟨fresh, moves.1⟩, moves.2⟩

theorem moves_release {resource : α} {rest : List (LedgerEntry α)} {before after : Finset α}
    (held : resource ∈ before) (moves : Moves rest (before.erase resource) after) :
    Moves (.release resource :: rest) before after :=
  ⟨⟨held, moves.1⟩, moves.2⟩

theorem moves_append {first second : List (LedgerEntry α)} {before between after : Finset α}
    (moves : Moves first before between) (later : Moves second between after) :
    Moves (first ++ second) before after := by
  induction first generalizing before with
  | nil =>
      rcases moves with ⟨-, rfl⟩
      exact later
  | cons entry rest ih =>
      cases entry with
      | acquire resource => exact moves_acquire moves.1.1 (ih ⟨moves.1.2, moves.2⟩)
      | release resource => exact moves_release moves.1.1 (ih ⟨moves.1.2, moves.2⟩)

/-- Releasing distinct held resources one after the other. -/
theorem moves_releaseAll {resources : List α} (distinct : resources.Nodup)
    {before : Finset α} (held : ∀ resource ∈ resources, resource ∈ before) :
    Moves (resources.map .release) before (before \ resources.toFinset) := by
  induction resources generalizing before with
  | nil =>
      rw [List.toFinset_nil, Finset.sdiff_empty]
      exact moves_nil before
  | cons resource rest ih =>
      rcases List.nodup_cons.mp distinct with ⟨fresh, distinctRest⟩
      have heldRest : ∀ other ∈ rest, other ∈ before.erase resource := by
        intro other member
        apply Finset.mem_erase.mpr
        constructor
        · rintro rfl
          exact fresh member
        · exact held other (List.mem_cons_of_mem resource member)
      rw [List.toFinset_cons, Finset.sdiff_insert, ← Finset.erase_sdiff_comm]
      exact moves_release (held resource List.mem_cons_self) (ih distinctRest heldRest)

end Ledger

end Reactive
