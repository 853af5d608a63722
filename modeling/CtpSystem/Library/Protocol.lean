import Mathlib.Data.List.Basic

/-!
# Histories that keep to a protocol

A protocol says which entries may follow a history.  A history keeps to it if each of its
entries may follow those before it.
-/

namespace Reactive

universe u

variable {α : Type u} {protocol : List α → α → Prop} {history : List α}

/-- Every entry may follow those before it. -/
def KeepsTo (protocol : List α → α → Prop) (history : List α) : Prop :=
  ∀ before entry after, history = before ++ entry :: after → protocol before entry

theorem keepsTo_nil (protocol : List α → α → Prop) : KeepsTo protocol [] := by
  intro before entry after split
  simp at split

/-- Where what may follow a history may follow a longer one, entries that may follow it can
be appended together. -/
theorem KeepsTo.append (kept : KeepsTo protocol history)
    (later : ∀ earlier more entry, protocol earlier entry → protocol (earlier ++ more) entry)
    {entries : List α} (each : ∀ entry ∈ entries, protocol history entry) :
    KeepsTo protocol (history ++ entries) := by
  intro before entry after split
  rcases List.append_eq_append_iff.mp split with ⟨more, rfl, own⟩ | ⟨rest, whole, own⟩
  · apply later
    apply each
    rw [own]
    simp
  · cases rest with
    | nil =>
        rw [List.append_nil] at whole
        rw [← whole]
        apply each
        rw [← List.nil_append entries, ← own]
        simp
    | cons head rest =>
        rw [List.cons_append, List.cons.injEq] at own
        rw [← own.1] at whole
        exact kept before entry rest whole

end Reactive
