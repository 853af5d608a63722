import Mathlib.Data.List.AList
import Mathlib.Tactic.Common

/-!
# Journals

A table that is written and cleared, together with every write ever made to it.
Each entry of the table is traced to the write it stems from, which is the last
write under its key.
-/

namespace Reactive

universe u v

/-- A table over keys `κ` and values `ν` with the history of its writes. -/
structure Journal (κ : Type u) (ν : Type v) [DecidableEq κ] where
  /-- All writes so far, also those before the table was cleared. -/
  writes : List (κ × ν)
  /-- The number of the write each entry of the table stems from. -/
  origin : AList fun _ : κ => Nat
  written : ∀ {key number}, origin.lookup key = some number →
    ∃ value, writes[number]? = some (key, value)
  latest : ∀ {key number}, origin.lookup key = some number →
    ∀ {later entry}, number < later → writes[later]? = some entry → entry.1 ≠ key

namespace Journal

variable {κ : Type u} {ν : Type v} [DecidableEq κ]

/-- The journal of a table that was never written. -/
def empty : Journal κ ν where
  writes := []
  origin := ∅
  written := by simp
  latest := by simp

/-- Write a value under a key, over whatever was there. -/
def write (journal : Journal κ ν) (key : κ) (value : ν) : Journal κ ν where
  writes := journal.writes ++ [(key, value)]
  origin := journal.origin.insert key journal.writes.length
  written := by
    intro query number found
    by_cases same : query = key
    · subst same
      rw [AList.lookup_insert, Option.some.injEq] at found
      exact ⟨value, by simp [← found]⟩
    · rw [AList.lookup_insert_ne same] at found
      rcases journal.written found with ⟨old, present⟩
      exact ⟨old, by rw [List.getElem?_append_left (List.getElem?_eq_some_iff.mp present).1,
        present]⟩
  latest := by
    intro query number found later entry after present
    by_cases same : query = key
    · subst same
      rw [AList.lookup_insert, Option.some.injEq] at found
      have bound := (List.getElem?_eq_some_iff.mp present).1
      simp only [List.length_append, List.length_singleton] at bound
      omega
    · rw [AList.lookup_insert_ne same] at found
      rcases Nat.lt_or_ge later journal.writes.length with old | new
      · rw [List.getElem?_append_left old] at present
        exact journal.latest found after present
      · rw [List.getElem?_append_right new] at present
        have isNew := List.mem_singleton.mp (List.mem_of_getElem? present)
        intro equal
        rw [isNew] at equal
        exact same equal.symm

/-- Empty the table; the history stays. -/
def clear (journal : Journal κ ν) : Journal κ ν where
  writes := journal.writes
  origin := ∅
  written := by simp
  latest := by simp

/-- What the table holds under a key. -/
def find (journal : Journal κ ν) (key : κ) : Option ν :=
  (journal.origin.lookup key).bind fun number => journal.writes[number]?.map (·.2)

@[simp] theorem writes_write (journal : Journal κ ν) (key : κ) (value : ν) :
    (journal.write key value).writes = journal.writes ++ [(key, value)] := rfl

/-- A write is found again and hides no entry but its own key's. -/
theorem find_write (journal : Journal κ ν) (key : κ) (value : ν) (query : κ) :
    (journal.write key value).find query =
      if query = key then some value else journal.find query := by
  by_cases same : query = key
  · subst same
    simp [find, write]
  · simp only [find, write, AList.lookup_insert_ne same, if_neg same]
    cases found : journal.origin.lookup query with
    | none => rfl
    | some number =>
        rcases journal.written found with ⟨old, present⟩
        have bound := (List.getElem?_eq_some_iff.mp present).1
        simp only [Option.bind_some, List.getElem?_append_left bound]

/-- A found value is that of the write its entry stems from. -/
theorem find_eq_some_iff {journal : Journal κ ν} {key : κ} {value : ν} :
    journal.find key = some value ↔
      ∃ number, journal.origin.lookup key = some number ∧
        journal.writes[number]? = some (key, value) := by
  constructor
  · intro found
    rcases Option.bind_eq_some_iff.mp found with ⟨number, traced, read⟩
    rcases journal.written traced with ⟨written, present⟩
    rw [present, Option.map_some, Option.some.injEq] at read
    exact ⟨number, traced, by rw [present, ← read]⟩
  · rintro ⟨number, traced, present⟩
    simp [find, traced, present]

/-- An entry stems from a write under its key exactly when that is the last one. -/
theorem origin_eq_iff_latest {journal : Journal κ ν} {key : κ} {number : Nat} {value : ν}
    (tabled : (journal.find key).isSome) (present : journal.writes[number]? = some (key, value)) :
    journal.origin.lookup key = some number ↔
      ∀ later entry, number < later → journal.writes[later]? = some entry → entry.1 ≠ key := by
  constructor
  · intro traced later entry after written
    exact journal.latest traced after written
  · intro isLast
    rcases Option.isSome_iff_exists.mp tabled with ⟨found, read⟩
    rcases find_eq_some_iff.mp read with ⟨origin, traced, written⟩
    rcases Nat.lt_trichotomy number origin with before | same | after
    · exact absurd rfl (isLast origin _ before written)
    · rw [traced, same]
    · exact absurd rfl (journal.latest traced after present)

end Journal

end Reactive
